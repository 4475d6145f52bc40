import Mathlib.Tactic.Common
import SchemaGen.Proofs.Schema.Mention
import SchemaGen.Zod.Declaration

namespace SchemaGen

section Except

variable {ε α β : Type}

theorem pure_eq_ok {a b : α} : (pure a : Except ε α) = .ok b ↔ a = b := by
  simp [pure, Except.pure]

theorem map_eq_ok {x : Except ε α} {f : α → β} {b : β} :
    f <$> x = .ok b ↔ ∃ a, x = .ok a ∧ f a = b := by
  cases x <;> simp [Functor.map, Except.map]

theorem bind_eq_ok {x : Except ε α} {f : α → Except ε β} {b : β} :
    x >>= f = .ok b ↔ ∃ a, x = .ok a ∧ f a = .ok b := by
  cases x <;> simp [bind, Except.bind]

theorem bind_pure_eq_ok {x : Except ε α} {f : α → β} {b : β} :
    (do return f (← x)) = Except.ok b ↔ ∃ a, x = .ok a ∧ f a = b := by
  rw [bind_pure_comp]
  exact map_eq_ok

end Except

namespace Zod

open Schema

theorem isNull_iff (t : TypeExpr) : isNull t = true ↔ t = .null := by
  cases t <;> simp [isNull]

theorem isUndefined_iff (t : TypeExpr) : isUndefined t = true ↔ t = .undefined := by
  cases t <;> simp [isUndefined]

section Inversion

variable {s : Scope} {a : Admitted}

theorem admitted_array {t : TypeExpr} :
    admitted s (.array t) = .ok a ↔ ∃ b, admitted s t = .ok b ∧ .only (.array b.whole) = a :=
  bind_pure_eq_ok

theorem admitted_tuple {ts : List TypeExpr} :
    admitted s (.tuple ts) = .ok a ↔ ∃ vs, admittedAll s ts = .ok vs ∧ .only (.tuple vs) = a :=
  bind_pure_eq_ok

theorem admitted_intersection {ts : List TypeExpr} :
    admitted s (.intersection ts) = .ok a ↔
      ∃ vs, admittedAll s ts = .ok vs ∧ .only (allOf vs) = a :=
  bind_pure_eq_ok

theorem admitted_union {ts : List TypeExpr} :
    admitted s (.union ts) = .ok a ↔
      ∃ vs, admittedCore s ts = .ok vs ∧
        .ofUnion vs (ts.any isNull) (ts.any isUndefined) = a :=
  bind_pure_eq_ok

/-- Keys that are texts have a validator too, which is not written. -/
theorem admitted_record {k t : TypeExpr} :
    admitted s (.record k t) = .ok a ↔
      ∃ b, admitted s t = .ok b ∧ ∃ c, admitted s k = .ok c ∧
        .only (.record (if isString k then none else some c.whole) b.present) = a := by
  refine bind_eq_ok.trans (exists_congr fun b => and_congr_right fun _ => ?_)
  split_ifs with hk
  · obtain rfl : k = .string := by cases k <;> simp_all [isString]
    rw [pure_eq_ok]
    exact ⟨fun h => ⟨_, rfl, h⟩, fun ⟨_, _, h⟩ => h⟩
  · exact bind_pure_eq_ok

theorem admitted_object_some {fs : List (Schema.Field TypeExpr)} {t : TypeExpr} :
    admitted s (.object fs (some t)) = .ok a ↔
      ∃ ps, admittedFields s fs = .ok ps ∧ ∃ b, admitted s t = .ok b ∧
        .only (.object ps (some b.present)) = a :=
  bind_eq_ok.trans (exists_congr fun _ => and_congr_right fun _ => bind_pure_eq_ok)

theorem admitted_object_none {fs : List (Schema.Field TypeExpr)} :
    admitted s (.object fs none) = .ok a ↔
      ∃ ps, admittedFields s fs = .ok ps ∧ .only (.object ps none) = a :=
  bind_pure_eq_ok

theorem admitted_ref {name : String} :
    admitted s (.ref name) = .ok a ↔ name ∈ s.known ∧ .only (.ref name) = a := by
  have heq : admitted s (.ref name) =
      if name ∈ s.known then .ok (.only (.ref name)) else .error (.unknownType name) := rfl
  rw [heq]
  split_ifs with h <;> simp [h]

theorem admittedAll_cons {t : TypeExpr} {ts : List TypeExpr} {vs : List Validator} :
    admittedAll s (t :: ts) = .ok vs ↔
      ∃ b, admitted s t = .ok b ∧ ∃ ws, admittedAll s ts = .ok ws ∧ b.whole :: ws = vs :=
  bind_eq_ok.trans (exists_congr fun _ => and_congr_right fun _ => bind_pure_eq_ok)

theorem admittedFields_cons {f : Schema.Field TypeExpr} {fs : List (Schema.Field TypeExpr)}
    {ps : List (Property Validator)} :
    admittedFields s (f :: fs) = .ok ps ↔
      ∃ b, admitted s f.type = .ok b ∧ ∃ qs, admittedFields s fs = .ok qs ∧
        ⟨f.docs, f.name, b.documented f.required (s.conditions f.docs)⟩ :: qs = ps :=
  bind_eq_ok.trans (exists_congr fun _ => and_congr_right fun _ => bind_pure_eq_ok)

theorem admittedCore_cons_of_ne {t : TypeExpr} {ts : List TypeExpr} (hn : t ≠ .null)
    (hu : t ≠ .undefined) :
    admittedCore s (t :: ts) =
      (do return (← admitted s t).whole :: (← admittedCore s ts)) := by
  rw [admittedCore]
  · exact hn
  · exact hu

/-- `null` and `undefined` have validators too, which are left out of the core of a union. -/
theorem admittedCore_cons {t : TypeExpr} {ts : List TypeExpr} {vs : List Validator} :
    admittedCore s (t :: ts) = .ok vs ↔
      ∃ b, admitted s t = .ok b ∧ ∃ ws, admittedCore s ts = .ok ws ∧
        (if isNull t || isUndefined t then ws else b.whole :: ws) = vs := by
  by_cases h : t = .null ∨ t = .undefined
  · rcases h with rfl | rfl <;> simp [admittedCore, admitted, isNull, isUndefined]
  · rw [not_or, ← isNull_iff, ← isUndefined_iff] at h
    rw [admittedCore_cons_of_ne (mt (isNull_iff t).2 h.1) (mt (isUndefined_iff t).2 h.2)]
    simp [map_eq_ok, bind_eq_ok, h.1, h.2]

end Inversion

mutual

/-- A type has a validator if it can be expressed and mentions known names only. -/
theorem admitted_ok_iff (s : Scope) : ∀ t : TypeExpr,
    (∃ a, admitted s t = .ok a) ↔ t.expressible ∧ ∀ n ∈ t.names, n ∈ s.known
  | .array item => by
    have h := admitted_ok_iff s item
    simpa [admitted_array, TypeExpr.expressible, TypeExpr.names] using h
  | .tuple items => by
    have h := admittedAll_ok_iff s items
    simpa [admitted_tuple, TypeExpr.expressible, TypeExpr.names] using h
  | .union members => by
    have h := admittedCore_ok_iff s members
    simpa [admitted_union, TypeExpr.expressible, TypeExpr.names] using h
  | .intersection members => by
    have h := admittedAll_ok_iff s members
    simpa [admitted_intersection, TypeExpr.expressible, TypeExpr.names] using h
  | .record key value => by
    have hk := admitted_ok_iff s key
    have hv := admitted_ok_iff s value
    simp only [admitted_record, TypeExpr.expressible, TypeExpr.names, List.mem_append]
    grind
  | .object fields (some t) => by
    have hf := admittedFields_ok_iff s fields
    have ht := admitted_ok_iff s t
    simp only [admitted_object_some, TypeExpr.expressible, TypeExpr.names, List.mem_append]
    grind
  | .object fields none => by
    have h := admittedFields_ok_iff s fields
    simpa [admitted_object_none, TypeExpr.expressible, TypeExpr.names] using h
  | .ref name => by simp [admitted_ref, TypeExpr.expressible, TypeExpr.names]
  | .unsupported _ => by simp [admitted, TypeExpr.expressible]
  | .string | .number | .bigint | .boolean | .date | .null | .undefined | .unknown | .any | .never
  | .void | .text _ | .numeral _ | .truth _ => by
    simp [admitted, TypeExpr.expressible, TypeExpr.names]

theorem admittedAll_ok_iff (s : Scope) : ∀ ts : List TypeExpr,
    (∃ vs, admittedAll s ts = .ok vs) ↔
      expressibleAll ts ∧ ∀ n ∈ Schema.namesOfAll ts, n ∈ s.known
  | [] => by simp [admittedAll, expressibleAll, Schema.namesOfAll]
  | t :: ts => by
    have ht := admitted_ok_iff s t
    have hts := admittedAll_ok_iff s ts
    simp only [admittedAll_cons, expressibleAll, Schema.namesOfAll, List.mem_append]
    grind

theorem admittedCore_ok_iff (s : Scope) : ∀ ts : List TypeExpr,
    (∃ vs, admittedCore s ts = .ok vs) ↔
      expressibleAll ts ∧ ∀ n ∈ Schema.namesOfAll ts, n ∈ s.known
  | [] => by simp [admittedCore, expressibleAll, Schema.namesOfAll]
  | t :: ts => by
    have ht := admitted_ok_iff s t
    have hts := admittedCore_ok_iff s ts
    simp only [admittedCore_cons, expressibleAll, Schema.namesOfAll, List.mem_append]
    grind

theorem admittedFields_ok_iff (s : Scope) : ∀ fs : List (Schema.Field TypeExpr),
    (∃ ps, admittedFields s fs = .ok ps) ↔
      expressibleFields fs ∧ ∀ n ∈ namesOfFields fs, n ∈ s.known
  | [] => by simp [admittedFields, expressibleFields, namesOfFields]
  | f :: fs => by
    have hf := admitted_ok_iff s f.type
    have hfs := admittedFields_ok_iff s fs
    simp only [admittedFields_cons, expressibleFields, namesOfFields, List.mem_append]
    grind

end

mutual

/-- The names of the types whose validators are mentioned, in the order of their mention. -/
def Validator.names : Validator → List String
  | .base _ | .literal _ | .choice _ => []
  | .array item => item.names
  | .tuple items => namesOfAll items
  | .record key value =>
    match key with
    | some k => value.names ++ k.names
    | none => value.names
  | .object properties rest =>
    match rest with
    | some r => namesOfProperties properties ++ r.names
    | none => namesOfProperties properties
  | .union members => namesOfAll members
  | .both left right => left.names ++ right.names
  | .ref type => [type]
  | .refined inner _ | .optional inner | .nullable inner | .withDefault inner _ => inner.names

def namesOfAll : List Validator → List String
  | [] => []
  | v :: vs => v.names ++ namesOfAll vs

def namesOfProperties : List (Property Validator) → List String
  | [] => []
  | p :: ps => p.validator.names ++ namesOfProperties ps

end

mutual

theorem addReferences_eq_foldl : ∀ (v : Validator) (seen : List String),
    v.addReferences seen = v.names.foldl addName seen
  | .base _, _ | .literal _, _ | .choice _, _ | .ref _, _ => rfl
  | .array item, seen => addReferences_eq_foldl item seen
  | .tuple items, seen => addReferencesAll_eq_foldl items seen
  | .record (some key) value, seen => by
    simp only [Validator.addReferences, Validator.names, List.foldl_append]
    rw [addReferences_eq_foldl value, addReferences_eq_foldl key]
  | .record none value, seen => by
    simp only [Validator.addReferences, Validator.names]
    exact addReferences_eq_foldl value seen
  | .object properties (some rest), seen => by
    simp only [Validator.addReferences, Validator.names, List.foldl_append]
    rw [addReferencesProperties_eq_foldl properties, addReferences_eq_foldl rest]
  | .object properties none, seen => by
    simp only [Validator.addReferences, Validator.names]
    exact addReferencesProperties_eq_foldl properties seen
  | .union members, seen => addReferencesAll_eq_foldl members seen
  | .both left right, seen => by
    rw [Validator.addReferences, Validator.names, List.foldl_append, addReferences_eq_foldl left,
      addReferences_eq_foldl right]
  | .refined inner _, seen | .optional inner, seen | .nullable inner, seen
  | .withDefault inner _, seen => addReferences_eq_foldl inner seen

theorem addReferencesAll_eq_foldl : ∀ (vs : List Validator) (seen : List String),
    addReferencesAll seen vs = (namesOfAll vs).foldl addName seen
  | [], _ => rfl
  | v :: vs, seen => by
    rw [addReferencesAll, namesOfAll, List.foldl_append, addReferences_eq_foldl v,
      addReferencesAll_eq_foldl vs]

theorem addReferencesProperties_eq_foldl : ∀ (ps : List (Property Validator)) (seen : List String),
    addReferencesProperties seen ps = (namesOfProperties ps).foldl addName seen
  | [], _ => rfl
  | p :: ps, seen => by
    rw [addReferencesProperties, namesOfProperties, List.foldl_append,
      addReferences_eq_foldl p.validator, addReferencesProperties_eq_foldl ps]

end

theorem Validator.mem_references (v : Validator) (n : String) : n ∈ v.references ↔ n ∈ v.names := by
  simp [Validator.references, addReferences_eq_foldl, mem_foldl_addName]

theorem names_wrap (nullable optional : Bool) (v : Validator) :
    (wrap nullable optional v).names = v.names := by
  cases nullable <;> cases optional <;> simp [wrap, Validator.names]

theorem names_refine (docs : Option Doc) (v : Validator) : (refine docs v).names = v.names := by
  have h (rs : List Refinement) (v : Validator) : (rs.foldl .refined v).names = v.names := by
    induction rs generalizing v with
    | nil => rfl
    | cons r rs ih => rw [List.foldl_cons, ih, Validator.names]
  cases docs with
  | none => rfl
  | some d => exact h (refinements d) v

theorem names_documented (a : Admitted) (required : Bool) (docs : Option Doc) :
    (a.documented required docs).names = a.core.names := by
  unfold Admitted.documented
  cases docs.bind defaultValue? with
  | none => rw [names_wrap, names_refine]
  | some value => rw [Validator.names, names_wrap, names_refine]

theorem names_whole (a : Admitted) : a.whole.names = a.core.names := names_documented a true none

theorem names_present (a : Admitted) : a.present.names = a.core.names := names_wrap a.null false a.core

theorem names_ofUnion (vs : List Validator) (null undefined : Bool) :
    (Admitted.ofUnion vs null undefined).core.names = namesOfAll vs := by
  match vs with
  | [] => cases null <;> rfl
  | [v] => simp [Admitted.ofUnion, namesOfAll]
  | v :: w :: vs => simp [Admitted.ofUnion, Validator.names]

theorem names_allOf (vs : List Validator) : (allOf vs).names = namesOfAll vs := by
  have h (vs : List Validator) (v : Validator) :
      (vs.foldl .both v).names = v.names ++ namesOfAll vs := by
    induction vs generalizing v with
    | nil => simp [namesOfAll]
    | cons w vs ih => rw [List.foldl_cons, ih, Validator.names, namesOfAll, List.append_assoc]
  cases vs with
  | nil => rfl
  | cons v vs => exact h vs v

mutual

/-- A validator mentions what its type mentions. The values of a record come before its keys, so only
the order differs. -/
theorem mem_names_admitted (s : Scope) (n : String) : ∀ (t : TypeExpr) (a : Admitted),
    admitted s t = .ok a → (n ∈ a.core.names ↔ n ∈ t.names)
  | .array item, _, h => by
    obtain ⟨b, hb, rfl⟩ := admitted_array.1 h
    simpa [Admitted.only, Validator.names, TypeExpr.names, names_whole] using
      mem_names_admitted s n item b hb
  | .tuple items, _, h => by
    obtain ⟨vs, hv, rfl⟩ := admitted_tuple.1 h
    exact mem_namesOfAll_admitted s n items vs hv
  | .union members, _, h => by
    obtain ⟨vs, hv, rfl⟩ := admitted_union.1 h
    rw [names_ofUnion, TypeExpr.names]
    exact mem_namesOfCore_admitted s n members vs hv
  | .intersection members, _, h => by
    obtain ⟨vs, hv, rfl⟩ := admitted_intersection.1 h
    rw [Admitted.only, names_allOf, TypeExpr.names]
    exact mem_namesOfAll_admitted s n members vs hv
  | .record key value, _, h => by
    obtain ⟨b, hb, c, hc, rfl⟩ := admitted_record.1 h
    have hv := mem_names_admitted s n value b hb
    have hk := mem_names_admitted s n key c hc
    by_cases hs : isString key
    · have he : key = .string := by cases key <;> simp_all [isString]
      subst he
      simp [Admitted.only, Validator.names, TypeExpr.names, isString, names_present, hv]
    · simp [Admitted.only, Validator.names, TypeExpr.names, hs, names_whole, names_present, hv, hk,
        or_comm]
  | .object fields (some t), _, h => by
    obtain ⟨ps, hp, b, hb, rfl⟩ := admitted_object_some.1 h
    have hf := mem_namesOfProperties_admitted s n fields ps hp
    have ht := mem_names_admitted s n t b hb
    simp [Admitted.only, Validator.names, TypeExpr.names, names_present, hf, ht]
  | .object fields none, _, h => by
    obtain ⟨ps, hp, rfl⟩ := admitted_object_none.1 h
    simpa [Admitted.only, Validator.names, TypeExpr.names] using
      mem_namesOfProperties_admitted s n fields ps hp
  | .ref name, _, h => by
    obtain ⟨_, rfl⟩ := admitted_ref.1 h
    rfl
  | .string, _, h | .number, _, h | .bigint, _, h | .boolean, _, h | .date, _, h | .null, _, h
  | .undefined, _, h | .unknown, _, h | .any, _, h | .never, _, h | .void, _, h | .text _, _, h
  | .numeral _, _, h | .truth _, _, h => by
    simp only [admitted, Except.ok.injEq] at h
    subst h
    rfl

theorem mem_namesOfAll_admitted (s : Scope) (n : String) :
    ∀ (ts : List TypeExpr) (vs : List Validator), admittedAll s ts = .ok vs →
      (n ∈ namesOfAll vs ↔ n ∈ Schema.namesOfAll ts)
  | [], _, h => by
    cases h
    rfl
  | t :: ts, _, h => by
    obtain ⟨b, hb, ws, hw, rfl⟩ := admittedAll_cons.1 h
    rw [namesOfAll, Schema.namesOfAll, List.mem_append, List.mem_append, names_whole,
      mem_names_admitted s n t b hb, mem_namesOfAll_admitted s n ts ws hw]

theorem mem_namesOfCore_admitted (s : Scope) (n : String) :
    ∀ (ts : List TypeExpr) (vs : List Validator), admittedCore s ts = .ok vs →
      (n ∈ namesOfAll vs ↔ n ∈ Schema.namesOfAll ts)
  | [], _, h => by
    cases h
    rfl
  | t :: ts, _, h => by
    obtain ⟨b, hb, ws, hw, rfl⟩ := admittedCore_cons.1 h
    have hts := mem_namesOfCore_admitted s n ts ws hw
    have ht := mem_names_admitted s n t b hb
    split_ifs with h0
    · have hnil : t.names = [] := by cases t <;> simp_all [isNull, isUndefined, TypeExpr.names]
      rw [Schema.namesOfAll, hnil, List.nil_append, hts]
    · rw [namesOfAll, Schema.namesOfAll, List.mem_append, List.mem_append, names_whole, ht, hts]

theorem mem_namesOfProperties_admitted (s : Scope) (n : String) :
    ∀ (fs : List (Schema.Field TypeExpr)) (ps : List (Property Validator)),
      admittedFields s fs = .ok ps → (n ∈ namesOfProperties ps ↔ n ∈ namesOfFields fs)
  | [], _, h => by
    cases h
    rfl
  | f :: fs, _, h => by
    obtain ⟨b, hb, qs, hq, rfl⟩ := admittedFields_cons.1 h
    rw [namesOfProperties, namesOfFields, List.mem_append, List.mem_append, names_documented,
      mem_names_admitted s n f.type b hb, mem_namesOfProperties_admitted s n fs qs hq]

end

theorem ofShape_ok_iff (s : Scope) (docs : Option Doc) (shape : Shape) :
    (∃ v, ofShape s docs shape = .ok v) ↔ shape.expressible ∧ ∀ n ∈ shape.names, n ∈ s.known := by
  cases shape with
  | struct fields =>
    have h := admittedFields_ok_iff s fields
    simpa [ofShape, map_eq_ok, Shape.expressible, Shape.names] using h
  | enumeration values => simp [ofShape, Shape.expressible, Shape.names]
  | «alias» t =>
    have h := admitted_ok_iff s t
    simpa [ofShape, map_eq_ok, Shape.expressible, Shape.names] using h

theorem names_ofEnumeration (values : Enumeration) : (ofEnumeration values).names = [] := by
  have h (vs : List Variant) :
      namesOfAll (vs.map fun v => .literal (.numeral (toString v.value))) = [] := by
    induction vs with
    | nil => rfl
    | cons v vs ih => rw [List.map_cons, namesOfAll, ih, Validator.names, List.nil_append]
  match values with
  | .texts [] | .numbers [] | .numbers [_] => rfl
  | .texts (_ :: _) => rfl
  | .numbers (v :: w :: vs) => exact h (v :: w :: vs)

theorem mem_names_ofShape {s : Scope} {docs : Option Doc} {shape : Shape} {v : Validator} (n : String)
    (h : ofShape s docs shape = .ok v) : n ∈ v.names ↔ n ∈ shape.names := by
  cases shape with
  | struct fields =>
    obtain ⟨ps, hp, rfl⟩ := map_eq_ok.1 h
    exact mem_namesOfProperties_admitted s n fields ps hp
  | enumeration values =>
    simp only [ofShape, Except.ok.injEq] at h
    rw [← h, names_ofEnumeration, Shape.names]
  | «alias» t =>
    obtain ⟨a, ha, rfl⟩ := map_eq_ok.1 h
    rw [names_documented]
    exact mem_names_admitted s n t a ha

theorem mem_known_within (s : Scope) (name n : String) :
    n ∈ (s.within name).known ↔ n = name ∨ n ∈ s.known := List.mem_insert_iff

theorem within_of_mem {s : Scope} {name : String} (h : name ∈ s.known) : s.within name = s := by
  rw [Scope.within, List.insert_of_mem h]

/-- A definition has a declaration if it can be expressed and refers to known names and itself only. -/
theorem ofDefinition_ok_iff (s : Scope) (d : Definition) :
    (∃ e, Declaration.ofDefinition s d = .ok e) ↔
      d.shape.expressible ∧ ∀ n ∈ d.references, n ≠ d.name → n ∈ s.known := by
  have h := ofShape_ok_iff (s.within d.name) d.docs d.shape
  simp only [mem_known_within] at h
  simp only [Declaration.ofDefinition, bind_eq_ok, pure_eq_ok, mem_references]
  grind

section Declaration

variable {s : Scope} {d : Definition} {e : Declaration}

theorem name_ofDefinition (h : Declaration.ofDefinition s d = .ok e) : e.name = d.name := by
  obtain ⟨v, _, he⟩ := bind_eq_ok.1 h
  rw [← pure_eq_ok.1 he]

theorem mem_references_ofDefinition (h : Declaration.ofDefinition s d = .ok e) (n : String) :
    n ∈ e.validator.references ↔ n ∈ d.references := by
  obtain ⟨v, hv, he⟩ := bind_eq_ok.1 h
  rw [← pure_eq_ok.1 he, Validator.mem_references, mem_references]
  exact mem_names_ofShape n hv

theorem mem_needs_ofDefinition (h : Declaration.ofDefinition s d = .ok e) (n : String) :
    n ∈ e.needs ↔ n ∈ d.references ∧ n ≠ d.name := by
  rw [← mem_references_ofDefinition h]
  obtain ⟨v, _, he⟩ := bind_eq_ok.1 h
  rw [← pure_eq_ok.1 he]
  simp

theorem nodup_needs_ofDefinition (h : Declaration.ofDefinition s d = .ok e) : e.needs.Nodup := by
  obtain ⟨v, _, he⟩ := bind_eq_ok.1 h
  rw [← pure_eq_ok.1 he]
  refine List.Nodup.filter _ ?_
  rw [Validator.references, addReferences_eq_foldl]
  exact nodup_foldl_addName _ List.nodup_nil

theorem recursive_ofDefinition (h : Declaration.ofDefinition s d = .ok e) :
    e.recursive = true ↔ d.name ∈ d.references := by
  rw [← mem_references_ofDefinition h]
  obtain ⟨v, _, he⟩ := bind_eq_ok.1 h
  rw [← pure_eq_ok.1 he]
  simp

end Declaration

/-- A definition has a declaration exactly if no part of it is one that cannot be expressed and every name
that it refers to beside its own is known. The declaration needs just those names, each once, and is recursive
if the definition refers to itself. -/
theorem ofDefinition_needs (s : Scope) (d : Definition) :
    ((∃ e, Declaration.ofDefinition s d = .ok e) ↔
      (∀ t ∈ d.shape.types, ∀ what, ¬(TypeExpr.unsupported what).Occurs t) ∧
        ∀ n ∈ d.references, n ≠ d.name → n ∈ s.known) ∧
    ∀ e, Declaration.ofDefinition s d = .ok e →
      e.name = d.name ∧ e.needs.Nodup ∧
        (∀ n, n ∈ e.needs ↔ n ∈ d.references ∧ n ≠ d.name) ∧
        (e.recursive = true ↔ d.name ∈ d.references) := by
  constructor
  · rw [ofDefinition_ok_iff, Shape.expressible_iff]
  · intro e h
    exact ⟨name_ofDefinition h, nodup_needs_ofDefinition h, mem_needs_ofDefinition h,
      recursive_ofDefinition h⟩

/-- A tree whose name nothing but its own definition knows, with two mentions of a label. -/
def labelledTree : Definition where
  name := "Tree"
  docs := none
  shape := .struct [
    { name := "label", type := .union [.ref "Label", .null], required := true, docs := none },
    { name := "inner", type := .record (.ref "Label") (.array (.ref "Tree")), required := false
      docs := none }]

theorem ofDefinition_needs_tree : ∃ e,
    Declaration.ofDefinition ⟨["Label"], true⟩ labelledTree = .ok e ∧
      e.needs = ["Label"] ∧ e.recursive = true := by
  have hparts : labelledTree.shape.expressible = true := by decide +kernel
  obtain ⟨hdeclared, hneeds⟩ := ofDefinition_needs ⟨["Label"], true⟩ labelledTree
  obtain ⟨e, he⟩ := hdeclared.2 ⟨(Shape.expressible_iff _).1 hparts, by decide +kernel⟩
  obtain ⟨-, hnodup, hmem, hrecursive⟩ := hneeds e he
  have hself : labelledTree.name ∈ labelledTree.references := by decide +kernel
  have honly (n : String) : n ∈ e.needs ↔ n ∈ ["Label"] := by
    have hreferences : labelledTree.references = ["Label", "Tree"] := by decide +kernel
    have hname : labelledTree.name = "Tree" := rfl
    rw [hmem, hreferences, hname]
    grind
  have hperm := (List.perm_ext_iff_of_nodup hnodup (List.nodup_singleton "Label")).2 honly
  exact ⟨e, he, List.perm_singleton.1 hperm, hrecursive.2 hself⟩

end Zod

end SchemaGen
