import SchemaGen.Proofs.Database.Resolution
import SchemaGen.Proofs.Run.TypeImport
import SchemaGen.Proofs.Zod.Filling
import SchemaGen.Proofs.Zod.Outcome

namespace SchemaGen

namespace Database

def Target.lookup (t : Target) (entry : String) : Lookup := ⟨t.schema.toList, entry.toList, none⟩

/-- The name of the flat declaration that a lookup stands for. -/
def Lookup.name (l : Lookup) : String := String.ofList l.flatName

theorem name_lookup (t : Target) (entry : String) : (t.lookup entry).name = pascal entry := by
  rw [Lookup.name, Lookup.flatName, Target.lookup, Option.getD_none, List.append_nil]
  rfl

example : ((⟨"Database", "public"⟩ : Target).lookup "user_status").name = "UserStatus" := by
  decide +kernel

/-- What an entry is declared as has the name of the entry. -/
theorem name_of_mem_flattenWhole {t : Target} {e : Member} {x : Candidate}
    (hx : x ∈ (t.flattenWhole [e]).candidates) : x.name = pascal e.name := by
  obtain ⟨entry, hentry, hmap⟩ := List.mem_filterMap.1 hx
  obtain rfl := List.mem_singleton.1 hentry
  obtain ⟨type, -, rfl⟩ := Option.map_eq_some_iff.1 hmap
  rfl

end Database

namespace Run

open Syntax Database Schema

variable {parse : String → Node} {r : Run} {importPath : String} {flat : Flattened}

theorem mem_declarations_of_mem_names (schema : Schema) (o : Conversion.Options)
    {d : Zod.Declaration} (hd : d ∈ (Zod.generate schema o).1.declarations) {n : String}
    (hn : n ∈ d.validator.names) : n ∈ (Zod.generate schema o).1.declarations.map (·.name) := by
  have hdeclared := Zod.declarations_subset schema o hd
  rw [← Zod.Validator.mem_references, Zod.mem_references_iff schema o hdeclared] at hn
  rcases hn with hneed | ⟨rfl, -⟩
  · have hmem := (Zod.declarations_inOrder schema o).needs_mem d hd n hneed
    exact hmem.resolve_left List.not_mem_nil
  · exact List.mem_map_of_mem hd

/-- A declaration whose body is read with lookups in it is filled at each place where an entry is looked
up. -/
theorem validator_filled {schema : Schema} {o : Conversion.Options} {t : Target}
    {name hole : String} {docs : Option Doc} {body : Node} {e : String}
    (hread : schema.get? name =
      some ⟨name, docs, .alias (.ofNode (t.resolve Lookup.name false body))⟩)
    (hfresh : hole ∉ (t.resolve Lookup.name false body).typeNames)
    (hhole : TypeExpr.named hole = .ref hole)
    {d : Zod.Declaration} (hd : d ∈ (Zod.generate schema o).1.declarations) (hname : d.name = name) :
    ∃ a, Zod.admitted ((Zod.scopeOf schema o).knowing hole)
        (.ofNode (t.resolve (holed (t.lookup e) hole Lookup.name) false body)) = .ok a ∧
      d.validator = (a.documented true ((Zod.scopeOf schema o).conditions docs)).fill
        ⟨hole, Zod.emitted (pascal e)⟩ := by
  obtain ⟨x, hget, hx⟩ := (Zod.mem_declared schema o d).1 (Zod.declarations_subset schema o hd)
  rw [hname, hread] at hget
  obtain rfl := Option.some.inj hget
  have hmeaning : (Schema.Filling.mk hole (.named (pascal e))).type =
      .named (Lookup.name (t.lookup e)) := by rw [name_lookup]
  have hfilled := (resolve_filled hmeaning hhole body false hfresh).type
  obtain ⟨v, hv, hd'⟩ := bind_eq_ok.1 hx
  rw [Zod.within_of_mem (schema.mem_of_get? hread)] at hv
  obtain ⟨c, hc, rfl⟩ := map_eq_ok.1 hv
  rw [hfilled] at hc
  obtain ⟨a, ha, rfl⟩ := Zod.admitted_filled _ hole (pascal e) _ hc
  refine ⟨a, ha, ?_⟩
  rw [← pure_eq_ok.1 hd', Zod.fill_documented]

/-- What is defined and not declared is told of once. -/
theorem countP_excludes_of_notMem (schema : Schema) (o : Conversion.Options) {name : String}
    (hdefined : name ∈ schema.definitions.map (·.name))
    (hnot : name ∉ (Zod.generate schema o).1.declarations.map (·.name)) :
    (Zod.generate schema o).2.countP (Report.excludes name) = 1 := by
  have hcount := Zod.countP_generate schema o name
  have hzero : (Zod.generate schema o).1.declarations.countP (·.name = name) = 0 := by
    rw [List.countP_eq_zero]
    intro d hd heq
    exact hnot (List.mem_map.2 ⟨d, hd, by simpa using heq⟩)
  rwa [if_pos hdefined, hzero, Nat.zero_add] at hcount

/-- A declaration is handed to the converter, among those of its name, exactly if no other one is. -/
theorem mem_keptOf_iff {x : Candidate} (hmem : x.name ∈ (r.keptOf flat).map (·.name)) :
    x ∈ r.keptOf flat ↔ ∀ c ∈ r.keptOf flat, c.name = x.name → c = x := by
  constructor
  · intro hkept c hc hcx
    exact eq_of_mem_select r.selection hc hkept hcx
  · intro honly
    obtain ⟨c, hc, hcx⟩ := List.mem_map.1 hmem
    obtain rfl := honly c hc hcx
    exact hc

section Theorem

variable (importPath)

/-- Wherever the body of a declared type looks an entry up, the validator that is emitted is the one named
like the entry, which is declared too. It is the validator of the entry itself exactly if the name has no
meaning of its own and no other declaration has taken it. What is not declared is told of once. -/
theorem lookups_meanEntry
    (hnames : (r.schemaWith parse flat).definitions.map (·.name) = (r.keptOf flat).map (·.name))
    {name : String} {tags : List Tag} {body : Node}
    (hk : r.selection.target.candidate name tags body ∈ r.keptOf flat) {docs : Option Doc}
    (hread : (r.schemaWith parse flat).get? name =
      some ⟨name, docs, .alias (.ofNode (r.selection.target.resolve Lookup.name false body))⟩)
    {e : Database.Member} {x : Candidate}
    (hx : x ∈ (r.selection.target.flattenWhole [e]).candidates)
    {hole : String} (hhole : TypeExpr.named hole = .ref hole)
    (hfresh : hole ∉ (r.selection.target.resolve Lookup.name false body).typeNames) :
    let o := r.conversionOptions importPath
    let s := Zod.scopeOf (r.schemaWith parse flat) o
    let made := Zod.generate (r.schemaWith parse flat) o
    let declared := made.1.declarations.map (·.name)
    let target := r.selection.target
    (name ∉ declared → made.2.countP (Report.excludes name) = 1) ∧
    ∀ d ∈ made.1.declarations, d.name = name →
      ∃ a, Zod.admitted (s.knowing hole) (.ofNode (target.resolve
          (holed (target.lookup e.name) hole Lookup.name) false body)) = .ok a ∧
        d.validator =
          (a.documented true (s.conditions docs)).fill ⟨hole, Zod.emitted x.name⟩ ∧
        (hole ∈ a.core.names →
          (Zod.emitted x.name = .ref x.name → x.name ∈ declared) ∧
          (Zod.emitted x.name = .ref x.name ∧ x ∈ r.keptOf flat ↔
            x.name ≠ "Date" ∧ x.name ≠ "PropertyKey" ∧
              ∀ c ∈ r.keptOf flat, c.name = x.name → c = x)) := by
  intro o s made declared target
  have hxname := name_of_mem_flattenWhole hx
  constructor
  · intro hnot
    refine countP_excludes_of_notMem _ o ?_ hnot
    rw [hnames]
    exact List.mem_map_of_mem hk
  · intro d hd hname
    obtain ⟨a, ha, hvalidator⟩ := validator_filled hread hfresh hhole hd hname
    rw [← hxname] at hvalidator
    refine ⟨a, ha, hvalidator, fun hplace => ?_⟩
    have hdeclared (href : Zod.emitted x.name = .ref x.name) : x.name ∈ declared := by
      apply mem_declarations_of_mem_names _ _ hd
      rw [hvalidator, Zod.mem_names_fill]
      right
      rw [Zod.names_documented, href]
      exact ⟨hplace, List.mem_singleton_self _⟩
    refine ⟨hdeclared, ?_⟩
    rw [Zod.emitted_eq_ref_iff, and_assoc]
    refine and_congr_right fun hdate => and_congr_right fun hkey => mem_keptOf_iff ?_
    obtain ⟨f, hf, hfx⟩ :=
      List.mem_map.1 (hdeclared ((Zod.emitted_eq_ref_iff x.name).2 ⟨hdate, hkey⟩))
    rw [← hnames, ← hfx]
    exact Zod.name_mem_definitions _ o hf

end Theorem

theorem ofNode_resolve_propertyAt (t : Target) (name : Lookup → String) (source : List Char)
    (line start : Nat) (key : String) {type : Node}
    (hpart : (t.resolve name false type).isNamed && !(t.resolve name false type).isComment) :
    Schema.Member.ofNode (t.resolve name false (propertyAt source line start key type)) =
      .property ⟨key, .ofNode (t.resolve name false type), true, none⟩ := by
  rw [Schema.Member.ofNode_eq]
  exact congrArg (fun t => Schema.Member.property ⟨key, t, true, none⟩)
    (ofFirstPart_typed _ rfl hpart)

theorem lookupOf?_treeBody :
    aliasRun.selection.target.lookupOf? (lookupAt treeSource 1 65 "Enums" "date").info =
        some (aliasRun.selection.target.lookup "date") ∧
      aliasRun.selection.target.lookupOf?
          (lookupAt treeSource 1 106 "CompositeTypes" "tree").info =
        some (aliasRun.selection.target.lookup "tree") := by
  decide +kernel

theorem ofNode_resolve_treeBody (name : Lookup → String) :
    TypeExpr.ofNode (aliasRun.selection.target.resolve name false treeBody) = .object [
      ⟨"at", .named (name (aliasRun.selection.target.lookup "date")), true, none⟩,
      ⟨"up", .named (name (aliasRun.selection.target.lookup "tree")), true, none⟩] none := by
  have hdate := Target.resolve_lookup lookupOf?_treeBody.1 name
  have htree := Target.resolve_lookup lookupOf?_treeBody.2 name
  have hbody : TypeExpr.ofNode (aliasRun.selection.target.resolve name false treeBody) = .ofMembers ([
      aliasRun.selection.target.resolve name false
        (propertyAt treeSource 1 61 "at" (lookupAt treeSource 1 65 "Enums" "date")),
      aliasRun.selection.target.resolve name false
        (propertyAt treeSource 1 102 "up" (lookupAt treeSource 1 106 "CompositeTypes" "tree"))].map
          Schema.Member.ofNode) := by
    rw [TypeExpr.ofNode_eq]
    exact ofBody_eq (aliasRun.selection.target.resolve name false treeBody)
  rw [hbody, List.map_cons, List.map_cons,
    ofNode_resolve_propertyAt _ _ _ _ _ _ (by rw [hdate]; rfl),
    ofNode_resolve_propertyAt _ _ _ _ _ _ (by rw [htree]; rfl), hdate, htree, ofNode_nameNode,
    ofNode_nameNode]
  rfl

/-- The entry that the source looks up. -/
def dateEntry : Database.Member :=
  ⟨"date", some (spanning treeSource "literal_type" [] [stringAt 1 171 [] "soon"]), []⟩

def dateCandidate : Candidate := ⟨"Date", [], "export type Date = \"soon\";"⟩

theorem lookups_meanEntry_date : ∃ flat,
    (aliasRun.schemaWith treeParse flat).definitions.map (·.name) =
      (aliasRun.keptOf flat).map (·.name) ∧
    aliasRun.selection.target.candidate "Tree" [] treeBody ∈ aliasRun.keptOf flat ∧
    (aliasRun.schemaWith treeParse flat).get? "Tree" = some ⟨"Tree", none,
      .alias (.ofNode (aliasRun.selection.target.resolve Lookup.name false treeBody))⟩ ∧
    dateCandidate ∈ (aliasRun.selection.target.flattenWhole [dateEntry]).candidates ∧
    TypeExpr.named "_" = .ref "_" ∧
    "_" ∉ (aliasRun.selection.target.resolve Lookup.name false treeBody).typeNames ∧
    dateCandidate ∈ aliasRun.keptOf flat ∧
    ∃ d ∈ (aliasRun.generatedWith treeParse "./types" flat).declarations, d.name = "Tree" ∧
      ∃ a : Zod.Admitted, "_" ∈ a.core.names ∧
        d.validator = (a.documented true none).fill ⟨"_", .base .date⟩ := by
  obtain ⟨flat, -, hkept⟩ := flatten_treeSource
  have hschema := schemaWith_tree hkept
  have hdate : pascal "date" = "Date" := by decide +kernel
  have htree : pascal "tree" = "Tree" := by decide +kernel
  have hnames : (aliasRun.schemaWith treeParse flat).definitions.map (·.name) =
      (aliasRun.keptOf flat).map (·.name) := by
    rw [hschema, hkept]
    rfl
  have hk : aliasRun.selection.target.candidate "Tree" [] treeBody ∈ aliasRun.keptOf flat := by
    rw [hkept]
    decide +kernel
  have hread : (aliasRun.schemaWith treeParse flat).get? "Tree" = some ⟨"Tree", none,
      .alias (.ofNode (aliasRun.selection.target.resolve Lookup.name false treeBody))⟩ := by
    rw [hschema, ofNode_resolve_treeBody, name_lookup, name_lookup, hdate, htree]
    rfl
  have hx : dateCandidate ∈ (aliasRun.selection.target.flattenWhole [dateEntry]).candidates := by
    decide +kernel
  have hhole : TypeExpr.named "_" = .ref "_" := rfl
  have hfresh : "_" ∉ (aliasRun.selection.target.resolve Lookup.name false treeBody).typeNames := by
    decide +kernel
  have hdeclared : "Tree" ∈
      (aliasRun.generatedWith treeParse "./types" flat).declarations.map (·.name) := by
    rw [generatedWith, hschema]
    decide +kernel
  obtain ⟨d, hd, hname⟩ := List.mem_map.1 hdeclared
  obtain ⟨a, ha, hvalidator, -⟩ :=
    (lookups_meanEntry "./types" hnames hk hread hx hhole hfresh).2 d hd hname
  have hfirst : holed (aliasRun.selection.target.lookup dateEntry.name) "_" Lookup.name
      (aliasRun.selection.target.lookup "date") = "_" := if_pos rfl
  have hsecond : holed (aliasRun.selection.target.lookup dateEntry.name) "_" Lookup.name
      (aliasRun.selection.target.lookup "tree") = "Tree" := by
    rw [holed, if_neg (by decide +kernel), name_lookup, htree]
  rw [hschema, ofNode_resolve_treeBody, hfirst, hsecond] at ha
  refine ⟨flat, hnames, hk, hread, hx, hhole, hfresh, ?_, d, hd, hname, a, ?_, hvalidator⟩
  · rw [hkept]
    decide +kernel
  · obtain rfl := Except.ok.inj ha
    decide +kernel

end Run

end SchemaGen
