import Mathlib.Data.List.DropRight
import Mathlib.Tactic.SplitIfs
import SchemaGen.Syntax.Annotated

namespace SchemaGen.Syntax

variable {before after comments ns : List Node} {n : Node} {a : Annotated}

/-- A node with the comments at the end of the nodes in front of it. -/
def Annotated.behind (before : List Node) (n : Node) : Annotated :=
  ⟨before.rtakeWhile (·.isComment), n⟩

theorem behind_append {m : Node} (hm : m.isComment = false) (comments before : List Node) :
    Annotated.behind (comments ++ m :: before) n = .behind before n := by
  rw [Annotated.behind, Annotated.behind]
  congr 1
  induction before using List.reverseRecOn with
  | nil => simp [hm]
  | append_singleton before c ih =>
    rw [← List.cons_append, ← List.append_assoc, List.rtakeWhile_concat, List.rtakeWhile_concat, ih]

theorem comments_behind_append (hcomments : ∀ c ∈ comments, c.isComment = true) (before : List Node) :
    (Annotated.behind (before ++ comments) n).comments = (Annotated.behind before n).comments ++ comments := by
  show (before ++ comments).rtakeWhile _ = before.rtakeWhile _ ++ comments
  induction comments using List.reverseRecOn with
  | nil => simp
  | append_singleton comments c ih =>
    obtain ⟨hfirst, hc⟩ := List.forall_mem_append.1 hcomments
    rw [← List.append_assoc, List.rtakeWhile_concat, if_pos (hc c List.mem_cons_self), ih hfirst,
      List.append_assoc]

/-- No comments are at the end of nodes that end with another node. -/
theorem comments_behind (hbefore : ∀ m ∈ before.getLast?, m.isComment = false) :
    (Annotated.behind before n).comments = [] := by
  rw [Annotated.behind, List.rtakeWhile_eq_nil_iff]
  intro hne
  simp [hbefore _ (List.getLast?_eq_getLast_of_ne_nil hne)]

theorem annotateAfter_append (hcomments : ∀ c ∈ comments, c.isComment = true) (hn : n.isComment = false) :
    annotateAfter comments (before ++ n :: after) =
      annotateAfter comments before ++ Annotated.behind (comments ++ before) n :: annotate after := by
  induction before generalizing comments with
  | nil =>
    have hall : comments.rtakeWhile (·.isComment) = comments := List.rtakeWhile_eq_self_iff.2 hcomments
    simp [annotateAfter, annotate, Annotated.behind, hn, hall]
  | cons m before ih =>
    rw [List.cons_append, annotateAfter, annotateAfter]
    cases hm : m.isComment with
    | true =>
      have hcomments' : ∀ c ∈ comments ++ [m], c.isComment = true := by
        simpa [or_imp, forall_and, hm] using hcomments
      rw [if_pos rfl, if_pos rfl, ih hcomments', List.append_assoc, List.singleton_append]
    | false =>
      rw [if_neg (by simp), if_neg (by simp), ih (by simp), behind_append hm]
      rfl

/-- What stands in front of a node decides on its comments, and nothing before it on what follows. -/
theorem annotate_append (hn : n.isComment = false) :
    annotate (before ++ n :: after) = annotate before ++ Annotated.behind before n :: annotate after :=
  annotateAfter_append (by simp) hn

/-- Each node that is no comment is gathered once, in order. -/
theorem map_node_annotateAfter (comments ns : List Node) :
    (annotateAfter comments ns).map (·.node) = ns.filter (!·.isComment) := by
  induction ns generalizing comments with
  | nil => rfl
  | cons n ns ih =>
    rw [annotateAfter]
    split_ifs with hn
    · rw [ih, List.filter_cons_of_neg (by simp [hn])]
    · rw [List.map_cons, ih, List.filter_cons_of_pos (by simp [hn])]

theorem map_node_annotate (ns : List Node) : (annotate ns).map (·.node) = ns.filter (!·.isComment) :=
  map_node_annotateAfter [] ns

theorem mem_filter_of_mem_annotateAfter (ha : a ∈ annotateAfter comments ns) :
    a.node ∈ ns.filter (!·.isComment) := by
  rw [← map_node_annotateAfter comments]
  exact List.mem_map_of_mem ha

theorem node_of_mem_annotateAfter (ha : a ∈ annotateAfter comments ns) : a.node ∈ ns :=
  List.mem_of_mem_filter (mem_filter_of_mem_annotateAfter ha)

theorem isComment_of_mem_annotateAfter (ha : a ∈ annotateAfter comments ns) : a.node.isComment = false := by
  simpa using List.of_mem_filter (mem_filter_of_mem_annotateAfter ha)

theorem comments_of_mem_annotateAfter (ha : a ∈ annotateAfter comments ns) {c : Node} (hc : c ∈ a.comments) :
    c ∈ comments ∨ c ∈ ns ∧ c.isComment = true := by
  induction ns generalizing comments with
  | nil => simp [annotateAfter] at ha
  | cons n ns ih =>
    rw [annotateAfter] at ha
    split_ifs at ha with hcomment
    · rcases ih ha with hbefore | ⟨hbehind, hcomment'⟩
      · rcases List.mem_append.1 hbefore with hbefore | hself
        · exact .inl hbefore
        · obtain rfl := List.mem_singleton.1 hself
          exact .inr ⟨List.mem_cons_self, hcomment⟩
      · exact .inr ⟨List.mem_cons_of_mem n hbehind, hcomment'⟩
    · rcases List.mem_cons.1 ha with rfl | ha
      · exact .inl hc
      · rcases ih ha with hnone | ⟨hbehind, hcomment'⟩
        · exact absurd hnone (List.not_mem_nil)
        · exact .inr ⟨List.mem_cons_of_mem n hbehind, hcomment'⟩

def Annotated.nodes (a : Annotated) : List Node := a.comments ++ [a.node]

/-- What is gathered are the nodes themselves, without the comments at their end. -/
theorem flatMap_nodes_annotateAfter (hcomments : ∀ c ∈ comments, c.isComment = true) (ns : List Node) :
    ∃ rest, (∀ c ∈ rest, c.isComment = true) ∧
      comments ++ ns = (annotateAfter comments ns).flatMap Annotated.nodes ++ rest := by
  induction ns generalizing comments with
  | nil => exact ⟨comments, hcomments, List.append_nil _⟩
  | cons n ns ih =>
    rw [annotateAfter]
    split_ifs with hn
    · have hcomments' : ∀ c ∈ comments ++ [n], c.isComment = true := by
        simpa [or_imp, forall_and, hn] using hcomments
      obtain ⟨rest, hrest, heq⟩ := ih hcomments'
      refine ⟨rest, hrest, ?_⟩
      rw [← heq, List.append_assoc, List.singleton_append]
    · obtain ⟨rest, hrest, heq⟩ := ih (List.forall_mem_nil _)
      refine ⟨rest, hrest, ?_⟩
      rw [List.flatMap_cons, List.append_assoc, ← heq, Annotated.nodes, List.append_assoc]
      rfl

/-- The nodes that are gathered stand in order, each once. -/
theorem flatMap_nodes_sublist (ns : List Node) : ((annotate ns).flatMap Annotated.nodes).Sublist ns := by
  obtain ⟨rest, -, heq⟩ := flatMap_nodes_annotateAfter (List.forall_mem_nil _) ns
  rw [List.nil_append] at heq
  rw [annotate]
  nth_rewrite 2 [heq]
  exact List.sublist_append_left _ rest

theorem nodes_sublist (ha : a ∈ annotate ns) : a.nodes.Sublist ns :=
  (List.sublist_flatten_of_mem (List.mem_map_of_mem ha)).trans (flatMap_nodes_sublist ns)

theorem Annotated.start_eq (a : Annotated) : a.start = (a.comments.head?.getD a.node).info.start := by
  unfold Annotated.start
  cases a.comments with
  | nil => rfl
  | cons c cs => rfl

theorem Annotated.nodes_eq_cons (a : Annotated) : ∃ n ms, a.nodes = n :: ms ∧ n.info.start = a.start := by
  rw [start_eq, nodes]
  cases a.comments with
  | nil => exact ⟨a.node, [], rfl, rfl⟩
  | cons c cs => exact ⟨c, cs ++ [a.node], rfl, rfl⟩

end SchemaGen.Syntax
