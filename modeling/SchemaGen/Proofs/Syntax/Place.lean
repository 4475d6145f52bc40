import SchemaGen.Proofs.Syntax.Form
import SchemaGen.Syntax.Annotated

namespace SchemaGen.Syntax

namespace Node

mutual

def unplaced : Node → Node
  | mk info children => mk { info with start := 0, stop := 0, line := 0 } (unplacedAll children)

def unplacedAll : List Node → List Node
  | [] => []
  | n :: ns => n.unplaced :: unplacedAll ns

end

def Same (n m : Node) : Prop := n.unplaced = m.unplaced

mutual

def decidableSame : ∀ n m : Node, Decidable (n.Same m)
  | mk i cs, mk j ds =>
    have := decidableSameAll cs ds
    decidable_of_iff
      ({ i with start := 0, stop := 0, line := 0 } = { j with start := 0, stop := 0, line := 0 } ∧
        unplacedAll cs = unplacedAll ds)
      (by rw [Same, unplaced, unplaced, mk.injEq])

def decidableSameAll : ∀ ns ms : List Node, Decidable (unplacedAll ns = unplacedAll ms)
  | [], [] => isTrue rfl
  | [], _ :: _ => isFalse nofun
  | _ :: _, [] => isFalse nofun
  | n :: ns, m :: ms =>
    have := decidableSame n m
    have := decidableSameAll ns ms
    decidable_of_iff (n.Same m ∧ unplacedAll ns = unplacedAll ms)
      (by rw [unplacedAll, unplacedAll, List.cons.injEq, Same])

end

instance : DecidableRel Same := decidableSame

variable {n m : Node}

theorem unplacedAll_eq_map (ns : List Node) : unplacedAll ns = ns.map unplaced := by
  induction ns with
  | nil => rfl
  | cons n ns ih => rw [unplacedAll, ih, List.map_cons]

@[simp] theorem unplaced_kind (n : Node) : n.unplaced.kind = n.kind := by
  cases n
  rfl

@[simp] theorem unplaced_text (n : Node) : n.unplaced.text = n.text := by
  cases n
  rfl

@[simp] theorem unplaced_isNamed (n : Node) : n.unplaced.isNamed = n.isNamed := by
  cases n
  rfl

@[simp] theorem unplaced_fields (n : Node) : n.unplaced.info.fields = n.info.fields := by
  cases n
  rfl

@[simp] theorem unplaced_isComment (n : Node) : n.unplaced.isComment = n.isComment := by
  rw [isComment, unplaced_kind, isComment]

theorem unplaced_children (n : Node) : n.unplaced.children = n.children.map unplaced := by
  cases n
  exact unplacedAll_eq_map _

theorem unplaced_namedChildren (n : Node) : n.unplaced.namedChildren = n.namedChildren.map unplaced := by
  simp [namedChildren, unplaced_children, List.filter_map, Function.comp_def]

theorem unplaced_field? (n : Node) (field : String) :
    n.unplaced.field? field = (n.field? field).map unplaced := by
  simp only [field?, unplaced_children, List.find?_map, Function.comp_def, unplaced_fields]

theorem mentions_eq (kind text : String) (n : Node) : n.mentions kind text =
    if n.kind = kind then decide (n.text = text) else n.namedChildren.any (mentions kind text) := by
  rw [mentions, ← namedInner_map_val, List.any_map]
  rfl

theorem unplaced_mentions (kind text : String) (n : Node) :
    n.unplaced.mentions kind text = n.mentions kind text := by
  rw [mentions_eq, mentions_eq, unplaced_kind, unplaced_text, unplaced_namedChildren, List.any_map]
  split_ifs
  · rfl
  -- Membership goes along with each child, so that the recursion is on smaller trees.
  · rw [Bool.eq_iff_iff, List.any_eq_true, List.any_eq_true]
    refine exists_congr fun c => and_congr_right fun hc => ?_
    rw [Function.comp_apply, unplaced_mentions kind text c]
termination_by sizeOf n
decreasing_by exact sizeOf_lt_of_mem (List.mem_of_mem_filter hc)

theorem mem_fields_of_field? {c : Node} {field : String} (h : n.field? field = some c) :
    field ∈ c.info.fields := by
  rw [Node.field?] at h
  simpa using List.find?_some h

theorem rel_same {c d : Option Node} (h : c.map unplaced = d.map unplaced) : Option.Rel Same c d := by
  cases c <;> cases d <;> simp at h
  · exact .none
  · exact .some h

theorem forall₂_same {ns ms : List Node} (h : ns.map unplaced = ms.map unplaced) :
    List.Forall₂ Same ns ms := by
  rw [← List.forall₂_eq_eq_eq, List.forall₂_map_left_iff, List.forall₂_map_right_iff] at h
  exact h

namespace Same

variable (h : n.Same m)

include h

theorem kind : n.kind = m.kind := by rw [← unplaced_kind, h, unplaced_kind]

theorem text : n.text = m.text := by rw [← unplaced_text, h, unplaced_text]

theorem isNamed : n.isNamed = m.isNamed := by rw [← unplaced_isNamed, h, unplaced_isNamed]

theorem fields : n.info.fields = m.info.fields := by rw [← unplaced_fields, h, unplaced_fields]

theorem form : SameForm n m := ⟨h.fields, h.kind, h.isNamed, fun _ => h.text⟩

theorem field? (field : String) : Option.Rel Same (n.field? field) (m.field? field) :=
  rel_same (by rw [← unplaced_field?, h, unplaced_field?])

theorem namedChildren : List.Forall₂ Same n.namedChildren m.namedChildren :=
  forall₂_same (by rw [← unplaced_namedChildren, h, unplaced_namedChildren])

theorem mentions (kind text : String) : n.mentions kind text = m.mentions kind text := by
  rw [← unplaced_mentions, h, unplaced_mentions]

end Same

/-- Two nodes of one form that differ only in their texts and inside of one part, which is related. -/
structure SameBut (part : String) (r : Node → Node → Prop) (n m : Node) : Prop extends SameForm n m where
  children : List.Forall₂ (fun c d => c.Same d ∨ SameForm c d ∧ c.info.fields = [part] ∧ r c d)
    n.children m.children

theorem Same.sameBut (h : n.Same m) (part : String) (r : Node → Node → Prop) : n.SameBut part r m where
  toSameForm := h.form
  children := by
    have hchildren : List.Forall₂ Same n.children m.children :=
      forall₂_same (by rw [← unplaced_children, h, unplaced_children])
    exact hchildren.imp fun _ _ => .inl

namespace SameBut

variable {part : String} {r : Node → Node → Prop} (h : n.SameBut part r m)

include h

theorem rel_field? (field : String) :
    Option.Rel (fun c d => c.Same d ∨ SameForm c d ∧ c.info.fields = [part] ∧ r c d)
      (n.field? field) (m.field? field) :=
  rel_find? (fun _ _ hcd => hcd.elim Same.form And.left) h.children field

theorem field?_of_ne {field : String} (hne : field ≠ part) :
    Option.Rel Same (n.field? field) (m.field? field) := by
  have hrel := h.rel_field? field
  have hfield : ∀ c ∈ n.field? field, field ∈ c.info.fields := fun c => mem_fields_of_field?
  generalize n.field? field = c at hrel hfield
  generalize m.field? field = d at hrel
  cases hrel with
  | none => exact .none
  | some hcd =>
    rcases hcd with hsame | ⟨-, hpart, -⟩
    · exact .some hsame
    · have hmem := hfield _ rfl
      rw [hpart, List.mem_singleton] at hmem
      exact absurd hmem hne

end SameBut

end Node

namespace Annotated

def unplaced (a : Annotated) : Annotated := ⟨a.comments.map Node.unplaced, a.node.unplaced⟩

theorem unplaced_doc? (a : Annotated) : a.unplaced.doc? = a.doc? := by
  simp [doc?, unplaced, List.filterMap_map]

theorem unplaced_tags (a : Annotated) : a.unplaced.tags = a.tags := by
  rw [tags, unplaced_doc?, tags]

end Annotated

theorem annotateAfter_map_unplaced (comments ns : List Node) :
    annotateAfter (comments.map Node.unplaced) (ns.map Node.unplaced) =
      (annotateAfter comments ns).map Annotated.unplaced := by
  induction ns generalizing comments with
  | nil => rfl
  | cons n ns ih =>
    rw [List.map_cons, annotateAfter, annotateAfter, Node.unplaced_isComment]
    split_ifs
    · rw [← ih, List.map_append, List.map_singleton]
    · rw [List.map_cons, ← ih]
      rfl

end SchemaGen.Syntax
