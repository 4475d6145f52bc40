import SchemaGen.Proofs.Database.Origin
import SchemaGen.Proofs.Database.Rewriting
import SchemaGen.Proofs.Run.Tree
import SchemaGen.Proofs.TypeScript.Identifier

namespace SchemaGen.Database

open Syntax TypeScript

/-- The lookup of what a flat declaration is made of. -/
def Target.lookupFor (t : Target) (o : Origin) : Lookup :=
  ⟨t.schema.toList, o.entry.name.toList, o.member.map (·.name.toList)⟩

theorem Target.flatName_lookupFor (t : Target) (o : Origin) : (t.lookupFor o).flatName = o.name.toList := by
  obtain ⟨part, entry, member⟩ := o
  rw [Origin.toList_name, Lookup.flatName, Target.lookupFor, Origin.memberName]
  cases member <;> rfl

example : (⟨"public".toList, "user_status".toList, none⟩ : Lookup).flatName = "UserStatus".toList := by
  decide +kernel

/-- A text with flat names in place of the lookups into the chosen schema. -/
def Target.rewrite (t : Target) (cs : List Char) : List Char :=
  resolveAfter t.database.toList t.schema.toList none cs

theorem Target.text_candidate_iff (t : Target) (name : String) (tags : List Schema.Tag) (type : Node)
    (out : List Char) : (t.candidate name tags type).text = s!"export type {name} = {String.ofList out};" ↔
      t.rewrite type.text.toList = out := by
  rw [Target.candidate, resolveLookups, onChars, Target.rewrite]
  constructor
  · intro h
    simpa [toString, ← String.toList_inj] using h
  · rintro rfl
    rfl

/-- The body of a flat declaration is the text of its type with flat names in place of the lookups into the
chosen schema. A lookup of what is declared gives way to the name of the declaration, and one into another
schema stays, where it stands so that it is read as it is meant. -/
theorem flattenDatabase_lookups {t : Target} {declaration : Node} {f : Flattened}
    (hdatabase : IsIdentifier t.database.toList)
    (hflat : t.flattenDatabase declaration = .ok f) :
    (∀ o type, t.Declares declaration o type → ∃ c ∈ f.candidates, c.name = o.name ∧
      ∀ out, c.text = s!"export type {c.name} = {String.ofList out};" ↔
        Rewrites t.database.toList t.schema.toList none type.text.toList out) ∧
    (∀ o type s before behind, t.Declares declaration o type →
      Spells t.database.toList o.part.toList (t.lookupFor o) s →
      Stands t.database.toList (t.lookupFor o) before behind →
        t.rewrite (before ++ (s ++ behind)) = t.rewrite before ++ (o.name.toList ++
          resolveAfter t.database.toList t.schema.toList (some ']') behind)) ∧
    ∀ part l s before behind, l.schema ≠ t.schema.toList → Spells t.database.toList part l s →
      Stands t.database.toList l before behind →
        t.rewrite (before ++ (s ++ behind)) = t.rewrite before ++ (s ++
          resolveAfter t.database.toList t.schema.toList (some ']') behind) := by
  obtain ⟨hne, hplain⟩ := isMark_of_isIdentifier hdatabase
  refine ⟨?_, ?_, ?_⟩
  · intro o type hdeclares
    refine ⟨_, (mem_flattenDatabase hflat).2 ⟨o, type, hdeclares, rfl⟩, rfl, fun out => ?_⟩
    rw [rewrites_iff]
    exact t.text_candidate_iff o.name o.tags type out
  · intro o type s before behind hdeclares hspells hstands
    have hresolved := resolveAfter_append_lookup t.schema.toList hspells hne hplain hstands
    have hschema : (t.lookupFor o).schema = t.schema.toList := rfl
    rwa [if_pos hschema, t.flatName_lookupFor] at hresolved
  · intro part l s before behind hother hspells hstands
    have hresolved := resolveAfter_append_lookup t.schema.toList hspells hne hplain hstands
    rwa [if_neg hother] at hresolved

/-- The declaration of the database type in a source where a composite type has lookups. -/
def treeDeclaration : Node :=
  ((Run.treeSourceTree.children.headD default).field? "declaration").getD default

def treeTarget : Target := ⟨"Database", "public"⟩

def dateOrigin : Origin :=
  ⟨"Enums", ⟨"date", some (Run.spanning Run.treeSource "literal_type" [] [Run.stringAt 1 171 [] "soon"]),
    []⟩, none⟩

def dateLookup : List Char := "Database[\"public\"][ 'Enums' ][\"date\" ]".toList

theorem declares_date : treeTarget.Declares treeDeclaration dateOrigin
    (Run.spanning Run.treeSource "literal_type" [] [Run.stringAt 1 171 [] "soon"]) := by
  have hentries : treeTarget.entries treeDeclaration =
      [("CompositeTypes", ⟨"tree", some Run.treeBody, []⟩), ("Enums", dateOrigin.entry)] := rfl
  refine .whole ?_ (by decide) rfl
  rw [hentries]
  exact List.mem_cons_of_mem _ (List.mem_singleton_self _)

theorem spells_dateLookup : Spells "Database".toList "Enums".toList (treeTarget.lookupFor dateOrigin)
    dateLookup := by
  have hschema : Bracketed "public".toList "[\"public\"]".toList := bracketed_iff.2 (by decide)
  have hpart : Bracketed "Enums".toList "[ 'Enums' ]".toList := bracketed_iff.2 (by decide)
  have hentry : Bracketed "date".toList "[\"date\" ]".toList := bracketed_iff.2 (by decide)
  exact .entry (by decide) hschema hpart hentry

theorem flattenDatabase_lookups_date : ∃ f, treeTarget.flattenDatabase treeDeclaration = .ok f ∧
    (∃ c ∈ f.candidates, c.name = "Date") ∧
    treeTarget.rewrite ("\x7b at: ".toList ++ (dateLookup ++ " \x7d".toList)) =
      "\x7b at: Date \x7d".toList := by
  obtain ⟨f, hf⟩ : ∃ f, treeTarget.flattenDatabase treeDeclaration = .ok f := ⟨_, rfl⟩
  have hdatabase : IsIdentifier treeTarget.database.toList :=
    ⟨_, codePoints?_of_notMem (by decide), by decide, by decide⟩
  obtain ⟨hdeclared, hlookups, -⟩ := flattenDatabase_lookups hdatabase hf
  have hname : dateOrigin.name = "Date" := by decide +kernel
  have hstands : Stands treeTarget.database.toList (treeTarget.lookupFor dateOrigin)
      "\x7b at: ".toList " \x7d".toList :=
    { boundary := by decide
      whole := fun _ => not_beginsWithMember (by decide)
      schema := by decide }
  obtain ⟨c, hc, hcname, -⟩ := hdeclared _ _ declares_date
  refine ⟨f, hf, ⟨c, hc, hcname.trans hname⟩, ?_⟩
  rw [hlookups _ _ _ _ _ declares_date spells_dateLookup hstands, hname]
  decide +kernel

end SchemaGen.Database
