import SchemaGen.Database.Flattening
import SchemaGen.Proofs.Run.Tree
import SchemaGen.Proofs.Syntax.Annotated

namespace SchemaGen

open Syntax Schema

variable {before after : List Node} {n : Node}

/-! ### Documentation of a declaration as it is read -/

/-- What is read of some nodes at the top of a module. -/
def Schema.Outline.read (ns : List Node) : Outline := ns.foldl Outline.add ⟨⟨[], []⟩, none⟩

/-- The documentation in a comment directly behind some nodes. -/
def docBehind? (before : List Node) : Option Doc :=
  before.getLast?.bind fun c => if c.isComment then Doc.parse? c.text else none

theorem pending_read (before : List Node) : (Outline.read before).pending = docBehind? before := by
  rcases before.eq_nil_or_concat' with rfl | ⟨before, c, rfl⟩
  · rfl
  · rw [Outline.read, List.foldl_concat, docBehind?, List.getLast?_concat, Option.bind_some, Outline.add]
    split_ifs <;> rfl

theorem definitions_add (o : Outline) (n : Node) : (o.add n).schema.definitions =
    o.schema.definitions ++ ((⟨⟨[], []⟩, o.pending⟩ : Outline).add n).schema.definitions := by
  unfold Outline.add
  split_ifs <;> simp

theorem pending_add (o : Outline) (n : Node) :
    (o.add n).pending = ((⟨⟨[], []⟩, o.pending⟩ : Outline).add n).pending := by
  unfold Outline.add
  split_ifs <;> rfl

theorem definitions_foldl_add (o : Outline) (ns : List Node) : (ns.foldl Outline.add o).schema.definitions =
    o.schema.definitions ++ (ns.foldl Outline.add ⟨⟨[], []⟩, o.pending⟩).schema.definitions := by
  induction ns generalizing o with
  | nil => simp
  | cons n ns ih =>
    rw [List.foldl_cons, List.foldl_cons, ih, ih (Outline.add _ n), definitions_add, ← pending_add,
      List.append_assoc]

/-- A declaration is read behind what is read in front of it, with the documentation directly above. -/
theorem definitions_read {x : Definition} (hn : n.isComment = false)
    (hx : (declarationIn? n).bind Definition.ofNode? = some x) :
    (Outline.read (before ++ n :: after)).schema.definitions =
      (Outline.read before).schema.definitions ++ { x with docs := docBehind? before } ::
        (Outline.read after).schema.definitions := by
  have hadd (o : Outline) :
      (o.add n).schema.definitions = o.schema.definitions ++ [{ x with docs := o.pending }] ∧
      (o.add n).pending = none := by
    rw [Outline.add, if_neg (by simp [hn]), hx]
    exact ⟨rfl, rfl⟩
  obtain ⟨hdefinitions, hpending⟩ := hadd (Outline.read before)
  have hread : Outline.read (before ++ n :: after) =
      after.foldl Outline.add ((Outline.read before).add n) := by
    rw [Outline.read, List.foldl_append, List.foldl_cons]
    rfl
  rw [hread, definitions_foldl_add, hdefinitions, hpending, pending_read, List.append_assoc,
    List.singleton_append]
  rfl

/-! ### Agreement -/

theorem doc?_eq_none_iff (a : Annotated) :
    a.doc? = none ↔ ∀ c ∈ a.comments, Doc.parse? c.text = none := by
  rw [Annotated.doc?, List.getLast?_eq_none_iff, List.filterMap_eq_nil_iff]

/-- A documentation comment directly above is the last one above. -/
theorem doc?_behind {doc : Doc} (hcomments : ∀ c ∈ before, c.isComment = true → c.isNamed = true)
    (h : docBehind? before = some doc) :
    (Annotated.behind (before.filter (·.isNamed)) n).doc? = some doc := by
  obtain ⟨c, hlast, hdoc⟩ := Option.bind_eq_some_iff.1 h
  obtain ⟨before, rfl⟩ := List.getLast?_eq_some_iff.1 hlast
  split_ifs at hdoc with hc
  have hnamed : c.isNamed = true := hcomments c (by simp) hc
  simp [Annotated.doc?, Annotated.behind, hnamed, hc, hdoc, List.filterMap_append]

/-- A declaration that stays as it is: another one than the database type, without type parameters and
without a mention of the database. -/
structure Database.Target.Keeps (t : Database.Target) (declaration : Node) : Prop where
  other : ∀ name ∈ declaration.field? "name", name.text ≠ t.database
  plain : (declaration.field? "type_parameters").isSome = false
  apart : declaration.mentions "type_identifier" t.database = false

theorem Database.flattenStatement_of_keeps {t : Database.Target} {a : Annotated} {d : Node} {x : Definition}
    (hd : exportedType? a.node = some d) (hx : Definition.ofNode? d = some x) (ht : t.Keeps d)
    (source : Array Char) :
    t.flattenStatement source a = .ok ⟨[⟨x.name, a.tags, a.text source⟩], []⟩ := by
  obtain ⟨shape, -, hx⟩ := Option.bind_eq_some_iff.1 hx
  obtain ⟨name, hname, hx⟩ := Option.bind_eq_some_iff.1 hx
  obtain rfl := Option.some.inj hx
  rw [Target.flattenStatement, hd]
  dsimp only
  rw [hname]
  dsimp only
  rw [if_neg (ht.other name hname), ht.plain, ht.apart]
  rfl

/-- An exported declaration has a place among the flattened statements and one among the definitions that
are read. It has the same documentation in both unless some comment above it is a documentation comment but
the node directly above is none: then the tags are there to be filtered by and nothing is read. -/
theorem Database.doc?_eq_docs_iff {root d : Node} {x : Definition}
    (hroot : root.children = before ++ n :: after)
    (hcomments : ∀ c ∈ before, c.isComment = true → c.isNamed = true) (hn : n.isNamed = true)
    (hd : exportedType? n = some d) (hx : Definition.ofNode? d = some x) :
    ∃ a, annotate root.namedChildren =
        annotate (before.filter (·.isNamed)) ++ a :: annotate (after.filter (·.isNamed)) ∧ a.node = n ∧
      (∀ (t : Target) source, t.Keeps d →
        t.flattenStatement source a = .ok ⟨[⟨x.name, a.tags, a.text source⟩], []⟩) ∧
      (Schema.ofNode root).definitions = (Outline.read before).schema.definitions ++
        { x with docs := docBehind? before } :: (Outline.read after).schema.definitions ∧
      (a.doc? = docBehind? before ↔
        (docBehind? before).isSome = true ∨ ∀ c ∈ a.comments, Doc.parse? c.text = none) := by
  obtain ⟨hkind, hdeclaration⟩ : n.kind = "export_statement" ∧ declarationIn? n = some d := by
    unfold exportedType? at hd
    split_ifs at hd with hkind
    obtain ⟨e, he, hed⟩ := Option.bind_eq_some_iff.1 hd
    split_ifs at hed
    obtain rfl := Option.some.inj hed
    exact ⟨hkind, by rw [declarationIn?, if_pos hkind, he]⟩
  have hcomment : n.isComment = false := by simp [Node.isComment, hkind]
  have hnamed : root.namedChildren = before.filter (·.isNamed) ++ n :: after.filter (·.isNamed) := by
    rw [Node.namedChildren, hroot, List.filter_append, List.filter_cons_of_pos hn]
  refine ⟨.behind (before.filter (·.isNamed)) n, ?_, rfl,
    fun t source ht => flattenStatement_of_keeps hd hx ht source, ?_, ?_⟩
  · rw [hnamed, annotate_append hcomment]
  · rw [← definitions_read hcomment (by rw [hdeclaration]; exact hx), ← hroot]
    rfl
  · cases hdoc : docBehind? before with
    | none => simp [doc?_eq_none_iff]
    | some doc => simp [doc?_behind hcomments hdoc]

def notedSource : List Char := "/** @minimum 1 */\n// a note\nexport type Age = number".toList

def notedComments : List Node :=
  [Run.nodeAt 1 0 "comment" [] "/** @minimum 1 */" [], Run.nodeAt 2 18 "comment" [] "// a note" []]

def notedNumber : Node :=
  Run.nodeAt 3 46 "predefined_type" ["value"] "number" [Run.tokenAt 3 46 [] "number"]

def notedAge : Node := Run.exportAt notedSource 3 28 "Age" [Run.tokenAt 3 44 [] "=", notedNumber]

def notedTree : Node := Run.nodeAt 1 0 "program" [] (.ofList notedSource) (notedComments ++ [notedAge])

theorem Database.doc?_eq_docs_iff_noted :
    ∃ a, annotate notedTree.namedChildren = [a] ∧
      (Schema.ofNode notedTree).definitions = [⟨"Age", none, .alias .number⟩] ∧ a.doc? ≠ none := by
  have hnumber : TypeExpr.ofNode notedNumber = .number := by
    rw [TypeExpr.ofNode]
    rfl
  obtain ⟨d, hd, hx⟩ : ∃ d, exportedType? notedAge = some d ∧
      Definition.ofNode? d = some ⟨"Age", none, .alias .number⟩ := by
    rw [← hnumber]
    exact ⟨_, rfl, rfl⟩
  have hroot : notedTree.children = notedComments ++ notedAge :: [] := rfl
  obtain ⟨a, hplace, -, -, hdefinitions, hiff⟩ := doc?_eq_docs_iff hroot (by decide) rfl hd hx
  refine ⟨a, hplace, hdefinitions, fun hnone => ?_⟩
  rcases hiff.1 hnone with hsome | hplain
  · exact absurd hsome (by decide)
  · obtain rfl : a = ⟨notedComments, notedAge⟩ := List.singleton_inj.1 (hplace.symm.trans rfl)
    exact absurd (hplain _ List.mem_cons_self) (by decide +kernel)

end SchemaGen
