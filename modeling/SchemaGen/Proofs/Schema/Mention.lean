import Mathlib.Data.List.Nodup
import Mathlib.Tactic.SplitIfs
import SchemaGen.Schema.Basic

namespace SchemaGen.Schema

mutual

def TypeExpr.names : TypeExpr → List String
  | .ref name => [name]
  | .array item => item.names
  | .tuple items => namesOfAll items
  | .union members => namesOfAll members
  | .intersection members => namesOfAll members
  | .record key value => key.names ++ value.names
  | .object fields index =>
    match index with
    | some t => namesOfFields fields ++ t.names
    | none => namesOfFields fields
  | _ => []

def namesOfAll : List TypeExpr → List String
  | [] => []
  | t :: ts => t.names ++ namesOfAll ts

def namesOfFields : List (Field TypeExpr) → List String
  | [] => []
  | f :: fs => f.type.names ++ namesOfFields fs

end

mutual

def TypeExpr.expressible : TypeExpr → Bool
  | .unsupported _ => false
  | .array item => item.expressible
  | .tuple items => expressibleAll items
  | .union members => expressibleAll members
  | .intersection members => expressibleAll members
  | .record key value => key.expressible && value.expressible
  | .object fields index =>
    match index with
    | some t => expressibleFields fields && t.expressible
    | none => expressibleFields fields
  | _ => true

def expressibleAll : List TypeExpr → Bool
  | [] => true
  | t :: ts => t.expressible && expressibleAll ts

def expressibleFields : List (Field TypeExpr) → Bool
  | [] => true
  | f :: fs => f.type.expressible && expressibleFields fs

end

def Shape.names : Shape → List String
  | .struct fields => namesOfFields fields
  | .enumeration _ => []
  | .alias t => t.names

def Shape.expressible : Shape → Bool
  | .struct fields => expressibleFields fields
  | .enumeration _ => true
  | .alias t => t.expressible

/-! ### Parts of a type -/

/-- The types of which a type is made up. -/
def TypeExpr.parts : TypeExpr → List TypeExpr
  | .array item => [item]
  | .tuple items => items
  | .union members => members
  | .intersection members => members
  | .record key value => [key, value]
  | .object fields index => fields.map (·.type) ++ index.toList
  | _ => []

inductive TypeExpr.Occurs (part : TypeExpr) : TypeExpr → Prop where
  | here : Occurs part part
  | inside {t child : TypeExpr} (hchild : child ∈ t.parts) (h : Occurs part child) : Occurs part t

/-- The types of which a declaration is made up. -/
def Shape.types : Shape → List TypeExpr
  | .struct fields => fields.map (·.type)
  | .enumeration _ => []
  | .alias t => [t]

theorem expressibleAll_iff (ts : List TypeExpr) :
    expressibleAll ts = true ↔ ∀ t ∈ ts, t.expressible = true := by
  induction ts with
  | nil => simp [expressibleAll]
  | cons t ts ih => simp [expressibleAll, ih]

theorem expressibleFields_iff (fs : List (Field TypeExpr)) :
    expressibleFields fs = true ↔ ∀ t ∈ fs.map (·.type), t.expressible = true := by
  induction fs with
  | nil => simp [expressibleFields]
  | cons f fs ih => simp [expressibleFields, ih]

theorem expressible_of_mem_parts {t child : TypeExpr} (h : t.expressible = true)
    (hchild : child ∈ t.parts) : child.expressible = true := by
  match t with
  | .array item =>
    obtain rfl := List.mem_singleton.1 hchild
    exact h
  | .tuple items | .union items | .intersection items => exact (expressibleAll_iff items).1 h child hchild
  | .record key value =>
    obtain ⟨hkey, hvalue⟩ := Bool.and_eq_true_iff.1 h
    rcases List.mem_cons.1 hchild with rfl | hchild
    · exact hkey
    · obtain rfl := List.mem_singleton.1 hchild
      exact hvalue
  | .object fields none =>
    rw [TypeExpr.parts, Option.toList_none, List.append_nil] at hchild
    exact (expressibleFields_iff fields).1 h child hchild
  | .object fields (some index) =>
    obtain ⟨hfields, hindex⟩ := Bool.and_eq_true_iff.1 h
    rcases List.mem_append.1 hchild with hchild | hchild
    · exact (expressibleFields_iff fields).1 hfields child hchild
    · obtain rfl := List.mem_singleton.1 hchild
      exact hindex

theorem TypeExpr.Occurs.expressible {part t : TypeExpr} (h : part.Occurs t)
    (ht : t.expressible = true) : part.expressible = true := by
  induction h with
  | here => exact ht
  | inside hchild _ ih => exact ih (expressible_of_mem_parts ht hchild)

mutual

/-- What cannot be expressed has a part of which this is said. -/
theorem exists_unsupported : ∀ t : TypeExpr, t.expressible = false →
    ∃ what, (TypeExpr.unsupported what).Occurs t
  | .unsupported what, _ => ⟨what, .here⟩
  | .array item, h => by
    obtain ⟨what, hoccurs⟩ := exists_unsupported item h
    exact ⟨what, .inside (List.mem_singleton_self item) hoccurs⟩
  | .tuple items, h => by
    obtain ⟨t, ht, what, hoccurs⟩ := exists_unsupported_all items h
    exact ⟨what, .inside ht hoccurs⟩
  | .union members, h => by
    obtain ⟨t, ht, what, hoccurs⟩ := exists_unsupported_all members h
    exact ⟨what, .inside ht hoccurs⟩
  | .intersection members, h => by
    obtain ⟨t, ht, what, hoccurs⟩ := exists_unsupported_all members h
    exact ⟨what, .inside ht hoccurs⟩
  | .record key value, h => by
    rcases Bool.and_eq_false_iff.1 h with h | h
    · obtain ⟨what, hoccurs⟩ := exists_unsupported key h
      exact ⟨what, .inside List.mem_cons_self hoccurs⟩
    · obtain ⟨what, hoccurs⟩ := exists_unsupported value h
      exact ⟨what, .inside (List.mem_cons_of_mem _ List.mem_cons_self) hoccurs⟩
  | .object fields none, h => by
    obtain ⟨t, ht, what, hoccurs⟩ := exists_unsupported_fields fields h
    exact ⟨what, .inside (List.mem_append_left _ ht) hoccurs⟩
  | .object fields (some index), h => by
    rcases Bool.and_eq_false_iff.1 h with h | h
    · obtain ⟨t, ht, what, hoccurs⟩ := exists_unsupported_fields fields h
      exact ⟨what, .inside (List.mem_append_left _ ht) hoccurs⟩
    · obtain ⟨what, hoccurs⟩ := exists_unsupported index h
      exact ⟨what, .inside (List.mem_append_right _ (List.mem_singleton_self index)) hoccurs⟩

theorem exists_unsupported_all : ∀ ts : List TypeExpr, expressibleAll ts = false →
    ∃ t ∈ ts, ∃ what, (TypeExpr.unsupported what).Occurs t
  | t :: ts, h => by
    rcases Bool.and_eq_false_iff.1 h with h | h
    · exact ⟨t, List.mem_cons_self, exists_unsupported t h⟩
    · obtain ⟨u, hu, hoccurs⟩ := exists_unsupported_all ts h
      exact ⟨u, List.mem_cons_of_mem _ hu, hoccurs⟩

theorem exists_unsupported_fields : ∀ fs : List (Field TypeExpr), expressibleFields fs = false →
    ∃ t ∈ fs.map (·.type), ∃ what, (TypeExpr.unsupported what).Occurs t
  | f :: fs, h => by
    rcases Bool.and_eq_false_iff.1 h with h | h
    · exact ⟨f.type, List.mem_cons_self, exists_unsupported f.type h⟩
    · obtain ⟨u, hu, hoccurs⟩ := exists_unsupported_fields fs h
      exact ⟨u, List.mem_cons_of_mem _ hu, hoccurs⟩

end

theorem expressible_iff (t : TypeExpr) :
    t.expressible = true ↔ ∀ what, ¬(TypeExpr.unsupported what).Occurs t := by
  constructor
  · intro h what hoccurs
    exact absurd (hoccurs.expressible h) Bool.false_ne_true
  · intro h
    by_contra hnot
    obtain ⟨what, hoccurs⟩ := exists_unsupported t (Bool.eq_false_iff.2 hnot)
    exact h what hoccurs

theorem Shape.expressible_iff (s : Shape) : s.expressible = true ↔
    ∀ t ∈ s.types, ∀ what, ¬(TypeExpr.unsupported what).Occurs t := by
  simp only [← Schema.expressible_iff]
  cases s with
  | struct fields => exact expressibleFields_iff fields
  | enumeration values => exact iff_of_true rfl (List.forall_mem_nil _)
  | «alias» t => simp [Shape.expressible, Shape.types]

/-! ### Names -/

theorem mem_addName (seen : List String) (a n : String) : n ∈ addName seen a ↔ n ∈ seen ∨ n = a := by
  unfold addName
  split_ifs with h
  · refine ⟨.inl, ?_⟩
    rintro (hn | rfl)
    · exact hn
    · exact h
  · simp

theorem nodup_addName {seen : List String} (h : seen.Nodup) (a : String) : (addName seen a).Nodup := by
  unfold addName
  split_ifs with hmem
  · exact h
  · rw [← List.concat_eq_append]
    exact h.concat hmem

theorem nodup_foldl_addName (names : List String) {seen : List String} (h : seen.Nodup) :
    (names.foldl addName seen).Nodup := by
  induction names generalizing seen with
  | nil => exact h
  | cons a names ih => exact ih (nodup_addName h a)

theorem mem_foldl_addName (names seen : List String) (n : String) :
    n ∈ names.foldl addName seen ↔ n ∈ seen ∨ n ∈ names := by
  induction names generalizing seen with
  | nil => simp
  | cons a names ih => rw [List.foldl_cons, ih, mem_addName, List.mem_cons, or_assoc]

mutual

theorem addReferences_eq_foldl : ∀ (t : TypeExpr) (seen : List String),
    t.addReferences seen = t.names.foldl addName seen
  | .ref _, _ => rfl
  | .array item, seen => addReferences_eq_foldl item seen
  | .tuple items, seen => addReferencesAll_eq_foldl items seen
  | .union members, seen => addReferencesAll_eq_foldl members seen
  | .intersection members, seen => addReferencesAll_eq_foldl members seen
  | .record key value, seen => by
    rw [TypeExpr.addReferences, TypeExpr.names, List.foldl_append, addReferences_eq_foldl key,
      addReferences_eq_foldl value]
  | .object fields (some t), seen => by
    simp only [TypeExpr.addReferences, TypeExpr.names, List.foldl_append]
    rw [addReferencesFields_eq_foldl fields, addReferences_eq_foldl t]
  | .object fields none, seen => by
    simp only [TypeExpr.addReferences, TypeExpr.names]
    exact addReferencesFields_eq_foldl fields seen
  | .string, _ | .number, _ | .bigint, _ | .boolean, _ | .date, _ | .null, _ | .undefined, _
  | .unknown, _ | .any, _ | .never, _ | .void, _ | .text _, _ | .numeral _, _ | .truth _, _
  | .unsupported _, _ => rfl

theorem addReferencesAll_eq_foldl : ∀ (ts : List TypeExpr) (seen : List String),
    addReferencesAll seen ts = (namesOfAll ts).foldl addName seen
  | [], _ => rfl
  | t :: ts, seen => by
    rw [addReferencesAll, namesOfAll, List.foldl_append, addReferences_eq_foldl t,
      addReferencesAll_eq_foldl ts]

theorem addReferencesFields_eq_foldl : ∀ (fs : List (Field TypeExpr)) (seen : List String),
    addReferencesFields seen fs = (namesOfFields fs).foldl addName seen
  | [], _ => rfl
  | f :: fs, seen => by
    rw [addReferencesFields, namesOfFields, List.foldl_append, addReferences_eq_foldl f.type,
      addReferencesFields_eq_foldl fs]

end

theorem references_eq_foldl (d : Definition) : d.references = d.shape.names.foldl addName [] := by
  unfold Definition.references
  cases hd : d.shape with
  | struct fields => exact addReferencesFields_eq_foldl fields []
  | enumeration values => rfl
  | «alias» t => exact addReferences_eq_foldl t []

theorem mem_references (d : Definition) (n : String) : n ∈ d.references ↔ n ∈ d.shape.names := by
  simp [references_eq_foldl, mem_foldl_addName]

end SchemaGen.Schema
