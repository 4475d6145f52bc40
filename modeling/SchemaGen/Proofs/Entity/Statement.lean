import SchemaGen.Entity.Grouping
import SchemaGen.Proofs.Run.Tree
import SchemaGen.Proofs.Syntax.Annotated

namespace SchemaGen.Entity

open Syntax

/-- Nodes that stand in a source with the given number of characters, one behind the other. -/
structure InSequence (length : Nat) (ns : List Node) : Prop where
  bounds : ∀ n ∈ ns, n.info.start ≤ n.info.stop ∧ n.info.stop ≤ length
  ordered : ns.Pairwise fun n m => n.info.stop ≤ m.info.start

/-- The characters of a source from `start` on, and before `stop`. -/
structure Stretch where
  start : Nat
  stop : Nat
  deriving DecidableEq

namespace Stretch

def text (source : Array Char) (r : Stretch) : String :=
  .ofList ((source.toList.drop r.start).take (r.stop - r.start))

def Holds (r : Stretch) (n : Node) : Prop := r.start ≤ n.info.start ∧ n.info.stop ≤ r.stop

def Avoids (r : Stretch) (n : Node) : Prop := r.stop ≤ n.info.start ∨ n.info.stop ≤ r.start

end Stretch

/-- The number of statements that end with one of some nodes: those that are no comments. -/
def statementCount (ns : List Node) : Nat := ns.countP (!·.isComment)

structure CutOut (source : Array Char) (ns : List Node) (ss : List Statement) (rs : List Stretch) :
    Prop where
  /-- One statement for each node that is no comment, in order, with the text of its stretch. -/
  statements : ss = List.zipWith (fun n r => ⟨.ofNode n, r.text source⟩) (ns.filter (!·.isComment)) rs
  length : rs.length = statementCount ns
  bounds : ∀ r ∈ rs, r.start ≤ r.stop ∧ r.stop ≤ source.size
  ordered : rs.Pairwise fun r r' => r.stop ≤ r'.start
  /-- A stretch begins with the first of the comments behind the node before, or else with its own node, and
  it ends with its own node. -/
  ends : ∀ before comments n after, ns = before ++ comments ++ n :: after →
    (∀ m ∈ before.getLast?, m.isComment = false) → (∀ c ∈ comments, c.isComment = true) →
    n.isComment = false →
    rs[statementCount before]? = some ⟨(comments.head?.getD n).info.start, n.info.stop⟩
  /-- A node lies within the next stretch, its own if it is no comment, and beside all others. -/
  holds : ∀ before m after, ns = before ++ m :: after → (∃ n ∈ m :: after, n.isComment = false) →
    ∃ r, rs[statementCount before]? = some r ∧ r.Holds m ∧
      ∀ k r', rs[k]? = some r' → k ≠ statementCount before → r'.Avoids m
  /-- Comments that nothing follows stand behind all stretches. -/
  dropped : ∀ before comments, ns = before ++ comments → (∀ c ∈ comments, c.isComment = true) →
    ∀ r ∈ rs, ∀ c ∈ comments, r.stop ≤ c.info.start

variable {length : Nat} {ns : List Node}

namespace InSequence

theorem sublist {ms : List Node} (h : InSequence length ns) (hs : ms.Sublist ns) : InSequence length ms where
  bounds n hn := h.bounds n (hs.subset hn)
  ordered := h.ordered.sublist hs

theorem head_start_le {n : Node} (h : InSequence length (n :: ns)) :
    ∀ m ∈ n :: ns, n.info.start ≤ m.info.start := by
  intro m hm
  rcases List.mem_cons.1 hm with rfl | hm
  · exact le_refl _
  · have hn := (h.bounds n List.mem_cons_self).1
    have hnm := (List.pairwise_cons.1 h.ordered).1 m hm
    omega

theorem stop_le_last {n : Node} (h : InSequence length (ns ++ [n])) :
    ∀ m ∈ ns ++ [n], m.info.stop ≤ n.info.stop := by
  intro m hm
  rcases List.mem_append.1 hm with hm | hm
  · have hn := (h.bounds n (List.mem_append_right _ List.mem_cons_self)).1
    have hmn := (List.pairwise_append.1 h.ordered).2.2 m hm n List.mem_cons_self
    omega
  · obtain rfl := List.mem_singleton.1 hm
    exact le_refl _

end InSequence

/-- The stretch of a node with the comments above it. -/
def stretchOf (a : Annotated) : Stretch := ⟨a.start, a.stop⟩

def stretches (ns : List Node) : List Stretch := (annotate ns).map stretchOf

theorem text_eq (source : Array Char) (a : Annotated) : a.text source = (stretchOf a).text source := by
  rw [Annotated.text, Array.toList_extract, List.extract_eq_take_drop]
  rfl

theorem length_stretches (ns : List Node) : (stretches ns).length = statementCount ns := by
  rw [stretches, List.length_map, ← List.length_map (·.node), map_node_annotate,
    ← List.countP_eq_length_filter]
  rfl

/-! ### Nodes within the stretches -/

section Sequence

variable (h : InSequence length ns)

include h

/-- A node and the comments above it lie within its stretch. -/
theorem stretchOf_holds {a : Annotated} (ha : a ∈ annotate ns) : ∀ m ∈ a.nodes, (stretchOf a).Holds m := by
  intro m hm
  have hnodes := h.sublist (nodes_sublist ha)
  obtain ⟨n, ms, hcons, hstart⟩ := a.nodes_eq_cons
  constructor
  · rw [hcons] at hnodes hm
    have hfirst := hnodes.head_start_le m hm
    rw [hstart] at hfirst
    exact hfirst
  · exact hnodes.stop_le_last m hm

theorem bounds_stretches : ∀ r ∈ stretches ns, r.start ≤ r.stop ∧ r.stop ≤ length := by
  intro r hr
  obtain ⟨a, ha, rfl⟩ := List.mem_map.1 hr
  obtain ⟨hle, hin⟩ := h.bounds a.node (node_of_mem_annotateAfter ha)
  have hlast : a.node ∈ a.nodes := List.mem_append_right _ List.mem_cons_self
  obtain ⟨hstart, hstop⟩ := stretchOf_holds h ha a.node hlast
  exact ⟨by omega, hin⟩

/-- The nodes of one statement stand in front of those of the next. -/
theorem ordered_stretches : (stretches ns).Pairwise fun r r' => r.stop ≤ r'.start := by
  have hnodes := (h.sublist (flatMap_nodes_sublist ns)).ordered
  rw [stretches, List.pairwise_map]
  refine (List.pairwise_flatMap.1 hnodes).2.imp ?_
  intro a b hab
  obtain ⟨n, ms, hcons, hstart⟩ := b.nodes_eq_cons
  have hlast : a.node ∈ a.nodes := List.mem_append_right _ List.mem_cons_self
  have hfirst : n ∈ b.nodes := by
    rw [hcons]
    exact List.mem_cons_self
  have hle := hab a.node hlast n hfirst
  rw [hstart] at hle
  exact hle

end Sequence

/-- Where stretches stand one behind the other, what lies within one of them lies beside all others. -/
theorem avoids_of_holds {rs : List Stretch} (hrs : rs.Pairwise fun r r' => r.stop ≤ r'.start) {j k : Nat}
    {r r' : Stretch} (hr : rs[j]? = some r) (hr' : rs[k]? = some r') (hne : k ≠ j) {m : Node}
    (hm : r.Holds m) : r'.Avoids m := by
  rw [List.pairwise_iff_getElem] at hrs
  obtain ⟨hj, rfl⟩ := List.getElem?_eq_some_iff.1 hr
  obtain ⟨hk, rfl⟩ := List.getElem?_eq_some_iff.1 hr'
  obtain ⟨hstart, hstop⟩ := hm
  rcases Nat.lt_or_gt_of_ne hne with hlt | hlt
  · have hbefore := hrs k j hk hj hlt
    exact .inl (by omega)
  · have hbehind := hrs j k hj hk hlt
    exact .inr (by omega)

/-! ### The stretch of a given node -/

variable {before after comments : List Node} {m n : Node}

/-- The stretch of a node comes behind those of the nodes in front of it. -/
theorem getElem?_stretches (hn : n.isComment = false) :
    (stretches (before ++ n :: after))[statementCount before]? = some (stretchOf (.behind before n)) := by
  rw [← length_stretches, stretches, stretches, annotate_append hn, List.map_append,
    List.getElem?_append_right (le_refl _), Nat.sub_self]
  rfl

theorem statementCount_append_comments (hcomments : ∀ c ∈ comments, c.isComment = true)
    (before : List Node) : statementCount (before ++ comments) = statementCount before := by
  have hnone : comments.countP (!·.isComment) = 0 := by
    rw [List.countP_eq_zero]
    intro c hc
    simp [hcomments c hc]
  rw [statementCount, List.countP_append, hnone, Nat.add_zero, statementCount]

theorem exists_eq_comments_append {ms : List Node} (h : ∃ n ∈ ms, n.isComment = false) :
    ∃ comments n after, ms = comments ++ n :: after ∧ (∀ c ∈ comments, c.isComment = true) ∧
      n.isComment = false := by
  obtain ⟨n, hn, hcode⟩ := h
  induction ms with
  | nil => cases hn
  | cons m ms ih =>
    cases hm : m.isComment with
    | false => exact ⟨[], m, ms, rfl, List.forall_mem_nil _, hm⟩
    | true =>
      have hne : n ≠ m := by
        rintro rfl
        simp [hm] at hcode
      obtain ⟨comments, k, after, rfl, hcomments, hk⟩ := ih ((List.mem_cons.1 hn).resolve_left hne)
      exact ⟨m :: comments, k, after, rfl, List.forall_mem_cons.2 ⟨hm, hcomments⟩, hk⟩

/-- A node that is no comment, or that one follows, lies within the next stretch. -/
theorem exists_stretch (h : InSequence length (before ++ m :: after))
    (hfollows : ∃ n ∈ m :: after, n.isComment = false) :
    ∃ r, (stretches (before ++ m :: after))[statementCount before]? = some r ∧ r.Holds m := by
  obtain ⟨comments, n, rest, heq, hcomments, hn⟩ := exists_eq_comments_append hfollows
  have hfirst : m ∈ comments ++ [n] := by
    cases comments with
    | nil =>
      obtain ⟨rfl, -⟩ := List.cons.inj heq
      exact List.mem_cons_self
    | cons c cs =>
      obtain ⟨rfl, -⟩ := List.cons.inj heq
      exact List.mem_cons_self
  have hnode : m ∈ (Annotated.behind (before ++ comments) n).nodes := by
    rw [Annotated.nodes, comments_behind_append hcomments, List.append_assoc]
    exact List.mem_append_right _ hfirst
  rw [heq, ← List.append_assoc] at h ⊢
  have hmem : Annotated.behind (before ++ comments) n ∈ annotate (before ++ comments ++ n :: rest) := by
    rw [annotate_append hn]
    exact List.mem_append_right _ List.mem_cons_self
  rw [← statementCount_append_comments hcomments]
  exact ⟨_, getElem?_stretches hn, stretchOf_holds h hmem m hnode⟩

theorem stretches_stop_le (h : InSequence length (before ++ comments))
    (hcomments : ∀ c ∈ comments, c.isComment = true) :
    ∀ r ∈ stretches (before ++ comments), ∀ c ∈ comments, r.stop ≤ c.info.start := by
  intro r hr c hc
  obtain ⟨a, ha, rfl⟩ := List.mem_map.1 hr
  have hcode := isComment_of_mem_annotateAfter ha
  have hnode : a.node ∈ before := by
    refine (List.mem_append.1 (node_of_mem_annotateAfter ha)).resolve_right ?_
    intro hmem
    rw [hcomments a.node hmem] at hcode
    cases hcode
  exact (List.pairwise_append.1 h.ordered).2.2 a.node hnode c hc

/-- Statements are cut out of a source along the nodes at its top: one for each node that is no comment, with
the comments above it. No node is in two of them, and none is left out but comments that nothing follows. -/
theorem ofNodes_cutOut (source : Array Char) (ns : List Node) (h : InSequence source.size ns) :
    ∃ rs, CutOut source ns (Statement.ofNodes source ns) rs := by
  have hordered := ordered_stretches h
  refine ⟨stretches ns, ?_⟩
  constructor
  case statements =>
    rw [← map_node_annotate, stretches, List.zipWith_map, List.zipWith_self]
    refine List.map_congr_left fun a _ => ?_
    rw [Statement.ofAnnotated, text_eq]
  case length => exact length_stretches ns
  case bounds => exact bounds_stretches h
  case ordered => exact hordered
  case ends =>
    rintro before comments n after rfl hbefore hcomments hn
    rw [← statementCount_append_comments hcomments, getElem?_stretches hn, stretchOf, Annotated.start_eq,
      comments_behind_append hcomments, comments_behind hbefore, List.nil_append]
    rfl
  case holds =>
    rintro before m after rfl hfollows
    obtain ⟨r, hr, hholds⟩ := exists_stretch h hfollows
    exact ⟨r, hr, hholds, fun k r' hr' hne => avoids_of_holds hordered hr hr' hne hholds⟩
  case dropped =>
    rintro before comments rfl hcomments
    exact stretches_stop_le h hcomments

/-- Two calls, with comments above the first and behind the last. -/
def calls : List Node := [
  Run.nodeAt 1 0 "comment" [] "/* a */" [],
  Run.nodeAt 1 8 "comment" [] "// b" [],
  Run.nodeAt 2 13 "expression_statement" [] "f();" [],
  Run.nodeAt 3 18 "expression_statement" [] "g();" [],
  Run.nodeAt 3 23 "comment" [] "// c" []]

def callsSource : Array Char := "/* a */ // b\nf();\ng(); // c\n".toList.toArray

theorem ofNodes_cutOut_calls : InSequence callsSource.size calls ∧
    ∃ rs, CutOut callsSource calls (Statement.ofNodes callsSource calls) rs ∧
      rs = [⟨0, 17⟩, ⟨18, 22⟩] := by
  have hcalls : InSequence callsSource.size calls := ⟨by decide, by decide⟩
  obtain ⟨rs, hrs⟩ := ofNodes_cutOut callsSource calls hcalls
  refine ⟨hcalls, rs, hrs, ?_⟩
  have hfirst := hrs.ends [] (calls.take 2) calls[2] (calls.drop 3) rfl (by decide) (by decide) (by decide)
  have hsecond := hrs.ends (calls.take 3) [] calls[3] (calls.drop 4) rfl (by decide) (by decide)
    (by decide)
  obtain ⟨r, r', rfl⟩ := List.length_eq_two.1 hrs.length
  rw [Option.some.inj hfirst, Option.some.inj hsecond]
  rfl

end SchemaGen.Entity
