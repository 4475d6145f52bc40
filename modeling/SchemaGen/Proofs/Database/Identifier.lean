import SchemaGen.Proofs.Database.Origin
import SchemaGen.Proofs.Run.Tree
import SchemaGen.Proofs.TypeScript.Pascal

namespace SchemaGen.Database

open Syntax TypeScript

/-- Whether the name of an entry has the characters of which a name is made that can be read again. -/
def Origin.Readable (o : Origin) : Prop :=
  makesIdentifier o.entry.name.toList o.member.isSome = true

theorem isMemberName_of_wanted {part name : String} (h : name ∈ wantedMembers part) :
    IsMemberName name.toList ∧ name.toList ≠ [] := by
  have hnames : ∀ name ∈ ["Row", "Insert", "Update", "Args", "Returns"],
      (name.toList.all Char.isAlpha && name.toList.head?.all Char.isUpper &&
        !name.toList.isEmpty) = true := by decide
  have hmem : name ∈ ["Row", "Insert", "Update", "Args", "Returns"] := by
    unfold wantedMembers at h
    split_ifs at h <;> grind
  have hname := hnames name hmem
  simp only [Bool.and_eq_true, List.all_eq_true, Option.all_eq_true, Bool.not_eq_true',
    List.isEmpty_eq_false_iff] at hname
  exact ⟨⟨hname.1.1, fun c hc => hname.1.2 c hc⟩, hname.2⟩

variable {t : Target} {declaration type : Node} {o : Origin}

/-- What is declared of an entry is the whole of it, or a member whose name is a word. -/
theorem Target.Declares.isMemberName (h : t.Declares declaration o type) :
    IsMemberName o.memberName ∧ (!o.memberName.isEmpty) = o.member.isSome := by
  cases h with
  | whole => exact ⟨⟨by simp [Origin.memberName], by simp [Origin.memberName]⟩, rfl⟩
  | member _ _ _ _ hwanted _ =>
    obtain ⟨hname, hne⟩ := isMemberName_of_wanted hwanted
    exact ⟨hname, by simpa [Origin.memberName] using hne⟩

/-- Every entry that has the type of one is declared, whatever its name is, and what is reported are entries
of other types. A declared name is an identifier if the characters of the entry's name are such as make
one, and only then, where none of them is escaped. -/
theorem flattenDatabase_identifiers {f : Flattened}
    (h : t.flattenDatabase declaration = .ok f) :
    (∀ c, c ∈ f.candidates ↔
      ∃ o type, t.Declares declaration o type ∧ c = t.candidate o.name o.tags type) ∧
    (∀ d, d ∈ f.diagnostics ↔
      ∃ entry type, t.Rejects declaration entry type ∧ d = rejection entry type) ∧
    ∀ o type, t.Declares declaration o type →
      (o.Readable → IsIdentifier o.name.toList) ∧
      ('\\' ∉ o.entry.name.toList → IsIdentifier o.name.toList → o.Readable) := by
  refine ⟨fun c => mem_flattenDatabase h, fun d => mem_flattenDatabase_diagnostics h, ?_⟩
  intro o type hdeclares
  obtain ⟨hmember, hempty⟩ := hdeclares.isMemberName
  rw [Origin.Readable, Origin.toList_name, ← hempty]
  exact ⟨isIdentifier_append hmember, makesIdentifier_of_isIdentifier hmember⟩

/-- A source with a table whose name begins with a digit. -/
def ordinalSource : List Char :=
  "export type Database = \x7b public: \x7b Tables: \x7b \"1st\": \x7b Row: string \x7d \x7d \x7d \x7d".toList

def ordinalType : Node :=
  Run.nodeAt 1 59 "predefined_type" [] "string" [Run.tokenAt 1 59 [] "string"]

def ordinalEntry : Node :=
  Run.spanning ordinalSource "object_type" [] [
    Run.tokenAt 1 52 [] "\x7b",
    Run.propertyAt ordinalSource 1 54 "Row" ordinalType,
    Run.tokenAt 1 66 [] "\x7d"]

def ordinalDeclaration : Node :=
  Run.spanning ordinalSource "type_alias_declaration" ["declaration"] [
    Run.tokenAt 1 7 [] "type",
    Run.nodeAt 1 12 "type_identifier" ["name"] "Database" [],
    Run.tokenAt 1 21 [] "=",
    Run.spanning ordinalSource "object_type" ["value"] [
      Run.tokenAt 1 23 [] "\x7b",
      Run.propertyAt ordinalSource 1 25 "public" (Run.spanning ordinalSource "object_type" [] [
        Run.tokenAt 1 33 [] "\x7b",
        Run.propertyAt ordinalSource 1 35 "Tables" (Run.spanning ordinalSource "object_type" [] [
          Run.tokenAt 1 43 [] "\x7b",
          Run.spanning ordinalSource "property_signature" [] [
            Run.stringAt 1 45 ["name"] "1st",
            Run.spanning ordinalSource "type_annotation" ["type"] [
              Run.tokenAt 1 50 [] ":", ordinalEntry]],
          Run.tokenAt 1 68 [] "\x7d"]),
        Run.tokenAt 1 70 [] "\x7d"]),
      Run.tokenAt 1 72 [] "\x7d"]]

def ordinalTarget : Target := ⟨"Database", "public"⟩

def ordinalOrigin : Origin :=
  ⟨"Tables", ⟨"1st", some ordinalEntry, []⟩, some ⟨"Row", some ordinalType, []⟩⟩

theorem entries_ordinal : ordinalTarget.entries ordinalDeclaration =
    [("Tables", ⟨"1st", some ordinalEntry, []⟩)] := rfl

theorem declares_ordinal : ordinalTarget.Declares ordinalDeclaration ordinalOrigin ordinalType := by
  have hmembers : members ordinalEntry = [⟨"Row", some ordinalType, []⟩] := rfl
  refine .member ?_ rfl (by decide) ?_ (by decide) rfl
  · rw [entries_ordinal]
    exact List.mem_singleton_self _
  · rw [hmembers]
    exact List.mem_singleton_self _

theorem not_rejects_ordinal (entry : Member) (type : Node) :
    ¬ ordinalTarget.Rejects ordinalDeclaration entry type := by
  rintro ⟨part, hentry, -, htype, hkind⟩
  rw [entries_ordinal, List.mem_singleton] at hentry
  obtain ⟨-, rfl⟩ := Prod.mk.inj hentry
  obtain rfl := Option.some.inj htype
  exact hkind (by decide)

theorem flattenDatabase_identifiers_ordinal : ∃ f,
    ordinalTarget.flattenDatabase ordinalDeclaration = .ok f ∧
    (∃ c ∈ f.candidates, c.name = "1StRow" ∧ ¬ IsIdentifier c.name.toList) ∧ f.diagnostics = [] := by
  obtain ⟨f, hf⟩ : ∃ f, ordinalTarget.flattenDatabase ordinalDeclaration = .ok f := ⟨_, rfl⟩
  obtain ⟨hcandidates, hdiagnostics, hnames⟩ := flattenDatabase_identifiers hf
  have hname : ordinalOrigin.name = "1StRow" := by decide +kernel
  refine ⟨f, hf, ⟨_, (hcandidates _).2 ⟨_, _, declares_ordinal, rfl⟩, hname, ?_⟩, ?_⟩
  · intro hidentifier
    have hreadable := (hnames _ _ declares_ordinal).2 (by decide) hidentifier
    exact absurd hreadable (by rw [Origin.Readable]; decide +kernel)
  · rw [List.eq_nil_iff_forall_not_mem]
    intro d hd
    obtain ⟨entry, type, hrejects, -⟩ := (hdiagnostics d).1 hd
    exact not_rejects_ordinal entry type hrejects

end SchemaGen.Database
