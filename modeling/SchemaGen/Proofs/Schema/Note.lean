import Mathlib.Data.List.TakeWhile
import Mathlib.Tactic.Common
import SchemaGen.Syntax.Annotated

namespace SchemaGen.Syntax

namespace Node

def isNote (n : Node) : Bool := n.isComment && (Schema.Doc.parse? n.text).isNone

mutual

/-- Where the notes below a node stand in the source. -/
def notes : Node → List (Nat × Nat)
  | mk _ children => notesAll children

def notesAll : List Node → List (Nat × Nat)
  | [] => []
  | n :: ns => (if n.isNote then [(n.info.start, n.info.stop)] else n.notes) ++ notesAll ns

end

/-- The text of a node without what stands in the given spans of the source. -/
def textOutside (spans : List (Nat × Nat)) (info : NodeInfo) : String :=
  String.ofList ((info.text.toList.zipIdx info.start).filterMap fun p =>
    if spans.any fun s => s.1 ≤ p.2 && p.2 < s.2 then none else some p.1)

mutual

def bare : Node → Node
  | mk info children => mk { info with text := textOutside (notesAll children) info } (bareAll children)

def bareAll : List Node → List Node
  | [] => []
  | n :: ns => if n.isNote then bareAll ns else n.bare :: bareAll ns

end

mutual

/-- Whether something holds of every node of a tree. -/
def Every (p : Node → Prop) : Node → Prop
  | mk info children => p (mk info children) ∧ EveryAll p children

def EveryAll (p : Node → Prop) : List Node → Prop
  | [] => True
  | n :: ns => n.Every p ∧ EveryAll p ns

end

section Decidable

variable (p : Node → Prop) [DecidablePred p]

mutual

def decidableEvery : ∀ n : Node, Decidable (n.Every p)
  | mk info children =>
    have := decidableEveryAll children
    inferInstanceAs (Decidable (p (mk info children) ∧ EveryAll p children))

def decidableEveryAll : ∀ ns : List Node, Decidable (EveryAll p ns)
  | [] => inferInstanceAs (Decidable True)
  | n :: ns =>
    have := decidableEvery n
    have := decidableEveryAll ns
    inferInstanceAs (Decidable (n.Every p ∧ EveryAll p ns))

end

instance (n : Node) : Decidable (n.Every p) := decidableEvery p n

end Decidable

variable {p : Node → Prop} {n c : Node}

theorem everyAll_iff {ns : List Node} : EveryAll p ns ↔ ∀ n ∈ ns, n.Every p := by
  induction ns with
  | nil => simp [EveryAll]
  | cons n ns ih => rw [EveryAll, ih, List.forall_mem_cons]

theorem Every.self (h : n.Every p) : p n := by
  cases n
  exact h.1

theorem Every.below (h : n.Every p) (hc : c ∈ n.children) : c.Every p := by
  cases n
  exact everyAll_iff.1 h.2 c hc

theorem Every.field? (h : n.Every p) {field : String} (hc : n.field? field = some c) : c.Every p :=
  h.below (List.mem_of_find?_eq_some hc)

mutual

theorem Every.zip {q s : Node → Prop} (h : ∀ n, p n → q n → s n) :
    ∀ n : Node, n.Every p → n.Every q → n.Every s
  | mk _ children, hp, hq => ⟨h _ hp.1 hq.1, EveryAll.zip h children hp.2 hq.2⟩

theorem EveryAll.zip {q s : Node → Prop} (h : ∀ n, p n → q n → s n) :
    ∀ ns : List Node, EveryAll p ns → EveryAll q ns → EveryAll s ns
  | [], _, _ => trivial
  | n :: ns, hp, hq => ⟨Every.zip h n hp.1 hq.1, EveryAll.zip h ns hp.2 hq.2⟩

end

theorem Every.namedChild (h : n.Every p) (hc : c ∈ n.namedChildren) : c.Every p :=
  h.below (List.mem_filter.1 hc).1

theorem bareAll_eq (ns : List Node) : bareAll ns = (ns.filter (!·.isNote)).map bare := by
  induction ns with
  | nil => rfl
  | cons n ns ih =>
    rw [bareAll, ih, List.filter_cons]
    cases n.isNote <;> rfl

theorem bare_children (n : Node) : n.bare.children = (n.children.filter (!·.isNote)).map bare := by
  cases n
  exact bareAll_eq _

theorem bare_kind (n : Node) : n.bare.kind = n.kind := by
  cases n
  rfl

theorem bare_isNamed (n : Node) : n.bare.isNamed = n.isNamed := by
  cases n
  rfl

theorem bare_fields (n : Node) : n.bare.info.fields = n.info.fields := by
  cases n
  rfl

theorem bare_isComment (n : Node) : n.bare.isComment = n.isComment := by
  rw [isComment, isComment, bare_kind]

theorem textOutside_nil (info : NodeInfo) : textOutside [] info = info.text := by
  have hall : (info.text.toList.zipIdx info.start).filterMap (fun p => some p.1) = info.text.toList := by
    rw [List.filterMap_eq_map', List.zipIdx_map_fst]
  exact (congrArg String.ofList hall).trans String.ofList_toList

theorem bare_info (h : n.notes = []) : n.bare.info = n.info := by
  obtain ⟨info, children⟩ := n
  have hnotes : notesAll children = [] := h
  rw [bare, hnotes, textOutside_nil]
  rfl

theorem bare_text (h : n.notes = []) : n.bare.text = n.text := congrArg NodeInfo.text (bare_info h)

theorem isNote_congr (h : n.info = c.info) : n.isNote = c.isNote := by
  obtain ⟨i, cs⟩ := n
  obtain ⟨j, ds⟩ := c
  obtain rfl : i = j := h
  rfl

theorem isNote_of_kind (h : n.kind ≠ "comment") : n.isNote = false := by
  rw [isNote, isComment, decide_eq_false h, Bool.false_and]

theorem isComment_of_isNote (h : n.isNote = true) : n.isComment = true := (Bool.and_eq_true_iff.1 h).1

theorem namedChildren_bare (n : Node) :
    n.bare.namedChildren = (n.namedChildren.filter (!·.isNote)).map bare := by
  have hnamed : (fun c : Node => c.bare.isNamed) = fun c => c.isNamed := funext bare_isNamed
  rw [namedChildren, bare_children, List.filter_map, Function.comp_def, hnamed, List.filter_filter,
    namedChildren, List.filter_filter]
  simp only [Bool.and_comm]

theorem find?_filter_isNote {ns : List Node} {q : Node → Bool}
    (h : ∀ c ∈ ns, c.isNote = true → q c = false) : (ns.filter (!·.isNote)).find? q = ns.find? q := by
  induction ns with
  | nil => rfl
  | cons n ns ih =>
    obtain ⟨hn, hns⟩ := List.forall_mem_cons.1 h
    rw [List.filter_cons, List.find?_cons]
    cases hnote : n.isNote with
    | false => rw [Bool.not_false, if_pos rfl, List.find?_cons, ih hns]
    | true => rw [Bool.not_true, if_neg (by simp), ih hns, hn hnote]

/-- Notes play no part, so a node has the same parts without them. -/
theorem field?_bare (h : ∀ c ∈ n.children, c.isNote = true → c.info.fields = []) (field : String) :
    n.bare.field? field = (n.field? field).map bare := by
  have hfields : (fun c : Node => c.bare.info.fields.contains field) =
      fun c => c.info.fields.contains field :=
    funext fun c => by rw [bare_fields]
  rw [Node.field?, bare_children, List.find?_map, Function.comp_def, hfields,
    find?_filter_isNote fun c hc hnote => by rw [h c hc hnote]; rfl]
  rfl

end Node

end SchemaGen.Syntax
