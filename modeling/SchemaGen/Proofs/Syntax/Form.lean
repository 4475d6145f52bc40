import Mathlib.Data.List.Forall2
import SchemaGen.Syntax.Node

namespace SchemaGen.Syntax

/-- Two nodes of one kind that play the same parts. A token has the same text in both. -/
structure SameForm (a b : Node) : Prop where
  fields : a.info.fields = b.info.fields
  kind : a.kind = b.kind
  named : a.isNamed = b.isNamed
  token : a.isNamed = false → a.text = b.text

variable {r : Node → Node → Prop} {cs ds : List Node}

section Lists

variable (hr : ∀ c d, r c d → SameForm c d) (h : List.Forall₂ r cs ds)

include hr h

theorem forall₂_named : List.Forall₂ r (cs.filter (·.isNamed)) (ds.filter (·.isNamed)) := by
  refine List.rel_filter (fun c d hcd => ?_) h
  show c.isNamed = true ↔ d.isNamed = true
  rw [(hr c d hcd).named]

theorem forall₂_meaningful : List.Forall₂ r (cs.filter (!·.isComment)) (ds.filter (!·.isComment)) := by
  refine List.rel_filter (fun c d hcd => ?_) h
  show (!c.isComment) = true ↔ (!d.isComment) = true
  rw [Node.isComment, Node.isComment, (hr c d hcd).kind]

theorem rel_find? (field : String) : Option.Rel r (cs.find? (·.info.fields.contains field))
    (ds.find? (·.info.fields.contains field)) := by
  induction h with
  | nil => exact .none
  | @cons c d _ _ hcd _ ih =>
    rw [List.find?_cons, List.find?_cons, (hr c d hcd).fields]
    split
    · exact .some hcd
    · exact ih

theorem any_kind_eq (p : String → Bool) : (cs.any fun c => p c.kind) = ds.any fun d => p d.kind := by
  induction h with
  | nil => rfl
  | @cons c d _ _ hcd _ ih => rw [List.any_cons, List.any_cons, ih, (hr c d hcd).kind]

theorem any_mark_eq :
    (cs.any fun c => !c.isNamed && c.text = "?") = ds.any fun d => !d.isNamed && d.text = "?" := by
  induction h with
  | nil => rfl
  | @cons c d _ _ hcd _ ih =>
    have hform := hr c d hcd
    have hmark : (!c.isNamed && decide (c.text = "?")) = (!d.isNamed && decide (d.text = "?")) := by
      rw [← hform.named]
      cases hnamed : c.isNamed with
      | true => rfl
      | false => rw [hform.token hnamed]
    rw [List.any_cons, List.any_cons, ih, hmark]

end Lists

theorem rel_head? (h : List.Forall₂ r cs ds) : Option.Rel r cs.head? ds.head? := by
  cases h with
  | nil => exact .none
  | cons hcd _ => exact .some hcd

theorem rel_second (h : List.Forall₂ r cs ds) : Option.Rel r cs[1]? ds[1]? := by
  rcases h with _ | ⟨_, _ | ⟨hcd, _⟩⟩
  · exact .none
  · exact .none
  · exact .some hcd

theorem rel_or {c c' d d' : Option Node} (h : Option.Rel r c d) (h' : Option.Rel r c' d') :
    Option.Rel r (c.or c') (d.or d') := by
  cases h with
  | none => exact h'
  | some hcd => exact .some hcd

section Options

variable {s : Node → Node → Prop} {c d : Option Node} (h : Option.Rel r c d)

include h

theorem rel_imp (hr : ∀ x y, r x y → s x y) : Option.Rel s c d := by
  cases h with
  | none => exact .none
  | some hxy => exact .some (hr _ _ hxy)

theorem rel_filter {p : Node → Bool} (hr : ∀ x y, r x y → p x = p y) :
    Option.Rel r (c.filter p) (d.filter p) := by
  cases h with
  | none => exact .none
  | some hxy =>
    rw [Option.filter_some, Option.filter_some, hr _ _ hxy]
    split_ifs
    · exact .some hxy
    · exact .none

theorem isSome_eq_of_rel : c.isSome = d.isSome := by
  cases h <;> rfl

theorem map_eq_of_rel {α : Type} {f g : Node → α} (hr : ∀ x y, r x y → f x = g y) : c.map f = d.map g := by
  cases h with
  | none => rfl
  | some hxy => exact congrArg some (hr _ _ hxy)

theorem elim_eq_of_rel {α : Type} {z : α} {f g : Node → α} (hr : ∀ x ∈ c, ∀ y, r x y → f x = g y) :
    c.elim z f = d.elim z g := by
  cases h with
  | none => rfl
  | some hxy => exact hr _ rfl _ hxy

end Options

end SchemaGen.Syntax
