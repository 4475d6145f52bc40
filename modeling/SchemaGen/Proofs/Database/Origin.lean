import SchemaGen.Proofs.Database.Flattening

namespace SchemaGen.Database

open Syntax

def wantedMembers (part : String) : List String :=
  if part = "Tables" ∨ part = "Views" then ["Row", "Insert", "Update"]
  else if part = "Functions" then ["Args", "Returns"]
  else []

/-- Whether the entries of a section are declared as they are. -/
def isWhole (part : String) : Bool := part = "Enums" || part = "CompositeTypes"

def entriesOf (part : Member) : List Member := (part.type.map members).getD []

/-- The entries of the chosen schema of a database type, each with the name of its section. -/
def Target.entries (t : Target) (declaration : Node) : List (String × Member) :=
  match ((schemasOf declaration).find? (·.name = t.schema)).bind (·.type) with
  | some schema => (members schema).flatMap fun part => (entriesOf part).map (part.name, ·)
  | none => []

/-- What a flat declaration is made of: an entry of a section, or a member of an entry. -/
structure Origin where
  part : String
  entry : Member
  member : Option Member
  deriving Inhabited

namespace Origin

/-- The name of the declaration that is made of an entry or a member. -/
def name (o : Origin) : String := pascal o.entry.name ++ (o.member.map (·.name)).getD ""

def tags (o : Origin) : List Schema.Tag := o.entry.tags ++ (o.member.map (·.tags)).getD []

def memberName (o : Origin) : List Char := ((o.member.map (·.name)).getD "").toList

theorem toList_name (o : Origin) :
    o.name.toList = Text.Pascal.ofName o.entry.name.toList ++ o.memberName := by
  rw [name, String.toList_append, pascal, String.toList_ofList, memberName]

end Origin

/-- The entries and members that are declared for the types they have. -/
inductive Target.Declares (t : Target) (declaration : Node) : Origin → Node → Prop where
  | whole {part : String} {entry : Member} {type : Node} :
    (part, entry) ∈ t.entries declaration → isWhole part = true → entry.type = some type →
      t.Declares declaration ⟨part, entry, none⟩ type
  | member {part : String} {entry m : Member} {object type : Node} :
    (part, entry) ∈ t.entries declaration → entry.type = some object →
      object.kind = "object_type" → m ∈ members object → m.name ∈ wantedMembers part →
      m.type = some type → t.Declares declaration ⟨part, entry, some m⟩ type

/-- An entry whose members are wanted although its type is no object type. -/
def Target.Rejects (t : Target) (declaration : Node) (entry : Member) (type : Node) : Prop :=
  ∃ part, (part, entry) ∈ t.entries declaration ∧ wantedMembers part ≠ [] ∧
    entry.type = some type ∧ type.kind ≠ "object_type"

def rejection (entry : Member) (type : Node) : Diagnostic :=
  ⟨some entry.name, if type.kind = "union_type" then .overloaded else .notAnObject type.kind⟩

variable {t : Target} {declaration : Node} {part entry : Member} {wanted : List String}
  {c : Candidate} {d : Diagnostic}

theorem mem_join_diagnostics {fs : List Flattened} :
    d ∈ (Flattened.join fs).diagnostics ↔ ∃ f ∈ fs, d ∈ f.diagnostics := by
  have hfold (a : Flattened) : d ∈ (fs.foldl Flattened.append a).diagnostics ↔
      d ∈ a.diagnostics ∨ ∃ f ∈ fs, d ∈ f.diagnostics := by
    induction fs generalizing a with
    | nil => simp
    | cons f fs ih => simp [ih, Flattened.append, or_assoc]
  rw [Flattened.join, hfold]
  simp [Flattened.none]

theorem flattenSection_eq (t : Target) (part : Member) :
    t.flattenSection part =
      if isWhole part.name then t.flattenWhole (entriesOf part)
      else if wantedMembers part.name = [] then .none
      else .join ((entriesOf part).map (t.flattenEntry (wantedMembers part.name))) := by
  unfold Target.flattenSection entriesOf
  cases part.type with
  | none => simp [Target.flattenWhole, Flattened.join, Flattened.none]
  | some type =>
    dsimp only [Option.map_some, Option.getD_some]
    split
    · next hname => simp [hname, isWhole, wantedMembers]
    · next hname => simp [hname, isWhole, wantedMembers]
    · next hname => simp [hname, isWhole, wantedMembers]
    · next hname => simp [hname, isWhole]
    · next hname => simp [hname, isWhole]
    · next htables hviews hfunctions henums hcomposites =>
      have hwhole : ¬ isWhole part.name = true := by
        rw [isWhole, Bool.or_eq_true, decide_eq_true_eq, decide_eq_true_eq]
        exact not_or.2 ⟨henums, hcomposites⟩
      have hwanted : wantedMembers part.name = [] := by
        rw [wantedMembers, if_neg (not_or.2 ⟨htables, hviews⟩), if_neg hfunctions]
      rw [if_neg hwhole, if_pos hwanted]

theorem mem_flattenEntry :
    c ∈ (t.flattenEntry wanted entry).candidates ↔ ∃ object m type, entry.type = some object ∧
      object.kind = "object_type" ∧ m ∈ members object ∧ m.name ∈ wanted ∧ m.type = some type ∧
      c = t.candidate (pascal entry.name ++ m.name) (entry.tags ++ m.tags) type := by
  unfold Target.flattenEntry
  cases entry.type with
  | none => simp [Flattened.none]
  | some object =>
    by_cases hkind : object.kind = "object_type"
    · simp only [hkind, if_true, List.mem_filterMap, List.contains_iff_mem, Option.ite_none_right_eq_some,
        Option.map_eq_some_iff, Option.some.injEq]
      constructor
      · rintro ⟨m, hm, hwanted, type, htype, rfl⟩
        exact ⟨object, m, type, rfl, hkind, hm, hwanted, htype, rfl⟩
      · rintro ⟨same, m, type, rfl, hkind, hm, hwanted, htype, rfl⟩
        exact ⟨m, hm, hwanted, type, htype, rfl⟩
    · simp [hkind]

theorem mem_flattenEntry_diagnostics :
    d ∈ (t.flattenEntry wanted entry).diagnostics ↔
      ∃ type, entry.type = some type ∧ type.kind ≠ "object_type" ∧ d = rejection entry type := by
  unfold Target.flattenEntry rejection
  cases entry.type with
  | none => simp [Flattened.none]
  | some type => by_cases hkind : type.kind = "object_type" <;> simp [hkind]

theorem wantedMembers_of_isWhole {part : String} (h : isWhole part = true) : wantedMembers part = [] := by
  rw [isWhole, Bool.or_eq_true, decide_eq_true_eq, decide_eq_true_eq] at h
  rcases h with rfl | rfl <;> decide

theorem mem_flattenSection :
    c ∈ (t.flattenSection part).candidates ↔ ∃ entry ∈ entriesOf part,
      (isWhole part.name = true ∧ ∃ type, entry.type = some type ∧
        c = t.candidate (pascal entry.name) entry.tags type) ∨
      c ∈ (t.flattenEntry (wantedMembers part.name) entry).candidates := by
  have hnone (entry : Member) : c ∉ (t.flattenEntry [] entry).candidates := by
    rw [mem_flattenEntry]
    rintro ⟨object, m, type, -, -, -, hwanted, -⟩
    exact List.not_mem_nil hwanted
  rw [flattenSection_eq]
  split_ifs with hwhole hwanted
  · simp only [wantedMembers_of_isWhole hwhole, hnone, or_false, hwhole, true_and,
      Target.flattenWhole, List.mem_filterMap, Option.map_eq_some_iff]
    refine exists_congr fun entry => and_congr_right fun _ => exists_congr fun type => ?_
    exact and_congr_right fun _ => eq_comm
  · simp only [hwanted, hnone, or_false, hwhole, false_and, and_false, exists_false, Flattened.none,
      List.not_mem_nil, Bool.false_eq_true]
  · simp only [hwhole, Bool.false_eq_true, false_and, false_or, mem_join, List.mem_map,
      exists_exists_and_eq_and]

theorem mem_flattenSection_diagnostics :
    d ∈ (t.flattenSection part).diagnostics ↔ ∃ entry ∈ entriesOf part,
      wantedMembers part.name ≠ [] ∧ ∃ type, entry.type = some type ∧ type.kind ≠ "object_type" ∧
        d = rejection entry type := by
  rw [flattenSection_eq]
  split_ifs with hwhole hwanted
  · simp [wantedMembers_of_isWhole hwhole, Target.flattenWhole]
  · simp [hwanted, Flattened.none]
  · simp only [hwanted, ne_eq, not_false_eq_true, true_and, mem_join_diagnostics, List.mem_map,
      exists_exists_and_eq_and, mem_flattenEntry_diagnostics]

/-- The chosen schema is in the database type if that is flattened. -/
theorem flattenDatabase_eq_ok {f : Flattened} (h : t.flattenDatabase declaration = .ok f) :
    ∃ parts : List Member, f = .join (parts.map t.flattenSection) ∧
      t.entries declaration = parts.flatMap fun part => (entriesOf part).map (part.name, ·) := by
  unfold Target.flattenDatabase at h
  dsimp only at h
  split at h
  · next schema hschema =>
    exact ⟨members schema, (Except.ok.inj h).symm, by rw [Target.entries, hschema]⟩
  · cases h

theorem mem_entries {parts : List Member} {name : String}
    (h : t.entries declaration = parts.flatMap fun part => (entriesOf part).map (part.name, ·)) :
    (name, entry) ∈ t.entries declaration ↔ ∃ part ∈ parts, entry ∈ entriesOf part ∧ part.name = name := by
  simp [h]

/-- Flattening makes a declaration of each entry and member that is declared, and no others. -/
theorem mem_flattenDatabase {f : Flattened} (h : t.flattenDatabase declaration = .ok f) :
    c ∈ f.candidates ↔
      ∃ o type, t.Declares declaration o type ∧ c = t.candidate o.name o.tags type := by
  obtain ⟨parts, rfl, hentries⟩ := flattenDatabase_eq_ok h
  simp only [mem_join, List.mem_map, exists_exists_and_eq_and, mem_flattenSection, mem_flattenEntry]
  constructor
  · rintro ⟨part, hpart, entry, hentry, ⟨hwhole, type, htype, rfl⟩ | hmember⟩
    · refine ⟨⟨part.name, entry, none⟩, type, .whole ?_ hwhole htype, ?_⟩
      · exact (mem_entries hentries).2 ⟨part, hpart, hentry, rfl⟩
      · simp [Origin.name, Origin.tags]
    · obtain ⟨object, m, type, hobject, hkind, hm, hwanted, htype, rfl⟩ := hmember
      refine ⟨⟨part.name, entry, some m⟩, type, .member ?_ hobject hkind hm hwanted htype, rfl⟩
      exact (mem_entries hentries).2 ⟨part, hpart, hentry, rfl⟩
  · rintro ⟨o, type, hdeclares, rfl⟩
    cases hdeclares with
    | whole hentry hwhole htype =>
      obtain ⟨part, hpart, hmem, rfl⟩ := (mem_entries hentries).1 hentry
      exact ⟨part, hpart, _, hmem, .inl ⟨hwhole, type, htype, by simp [Origin.name, Origin.tags]⟩⟩
    | member hentry hobject hkind hm hwanted htype =>
      obtain ⟨part, hpart, hmem, rfl⟩ := (mem_entries hentries).1 hentry
      exact ⟨part, hpart, _, hmem, .inr ⟨_, _, type, hobject, hkind, hm, hwanted, htype, rfl⟩⟩

/-- Flattening reports the entries that are rejected, and no others. -/
theorem mem_flattenDatabase_diagnostics {f : Flattened} (h : t.flattenDatabase declaration = .ok f) :
    d ∈ f.diagnostics ↔
      ∃ entry type, t.Rejects declaration entry type ∧ d = rejection entry type := by
  obtain ⟨parts, rfl, hentries⟩ := flattenDatabase_eq_ok h
  simp only [mem_join_diagnostics, List.mem_map, exists_exists_and_eq_and,
    mem_flattenSection_diagnostics, Target.Rejects, mem_entries hentries]
  constructor
  · rintro ⟨part, hpart, entry, hentry, hwanted, type, htype, hkind, rfl⟩
    exact ⟨entry, type, ⟨part.name, ⟨part, hpart, hentry, rfl⟩, hwanted, htype, hkind⟩, rfl⟩
  · rintro ⟨entry, type, ⟨-, ⟨part, hpart, hentry, rfl⟩, hwanted, htype, hkind⟩, rfl⟩
    exact ⟨part, hpart, entry, hentry, hwanted, type, htype, hkind, rfl⟩

end SchemaGen.Database
