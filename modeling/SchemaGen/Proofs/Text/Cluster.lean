import Mathlib.Tactic.Tauto
import SchemaGen.Proofs.Text.Case

namespace SchemaGen.Text

section Prepend

variable {c : Char}

theorem inRanges_of_isPrepend (h : isPrepend c = true) :
    128 ≤ c.toNat ∧ inRanges prependRanges c.toNat = true := by
  simpa [isPrepend] using h

/-- A character that joins whatever follows joins nothing before it, and it has no case. -/
theorem apart_of_isPrepend (h : isPrepend c = true) :
    isExtend c = false ∧ isSpacingMark c = false ∧ isPictograph c = false ∧ upperChar c = [c] := by
  obtain ⟨hlarge, hin⟩ := inRanges_of_isPrepend h
  have hout := inRanges_eq_false prependRanges (extendRanges ++ (spacingMarkRanges ++
    (pictographRanges ++ (upperRuns.map (fun r => (r.1, r.2.1)) ++
      upperSpecial.map fun e => (e.1, e.1))))) (by decide +kernel) hin
  simp only [inRanges, List.any_append, Bool.or_eq_false_iff] at hout
  obtain ⟨hextend, hmark, hpictograph, hruns, hspecial⟩ := hout
  refine ⟨?_, ?_, ?_, ?_⟩
  · rw [isExtend, inRanges, hextend, Bool.and_false]
  · rw [isSpacingMark, inRanges, hmark, Bool.and_false]
  · rw [isPictograph, inRanges, hpictograph, Bool.and_false]
  · rw [upperChar, if_neg (by omega), mapCase_eq_self hruns hspecial]

theorem not_isPrepend_of_ascii (h : c.toNat < 128) : isPrepend c = false := by
  rw [isPrepend, decide_eq_false (by omega), Bool.false_and]

end Prepend

section Joins

variable {p c : Char} {before : List Char}

theorem joins_cons (h : joins (p :: before) c = true) :
    p = '\r' ∧ c = '\n' ∨ isExtend c = true ∨ isSpacingMark c = true ∨ isPrepend p = true ∨
      isPictograph c = true := by
  unfold joins at h
  dsimp only at h
  split_ifs at h with hreturn hcontrol
  · rw [Bool.and_eq_true, decide_eq_true_eq, decide_eq_true_eq] at hreturn
    exact .inl hreturn
  · simp only [Bool.or_eq_true, Bool.and_eq_true] at h
    tauto

/-- An ASCII character that can be seen joins only a character that joins whatever follows. -/
theorem joins_ascii (hlow : 32 ≤ c.toNat) (hhigh : c.toNat < 127) :
    joins (p :: before) c = (isPrepend p && !isControl p) := by
  have hnewline : c ≠ '\n' := by
    rintro rfl
    exact absurd hlow (by decide)
  have hcontrol : isControl c = false := by
    have hspace : ¬c < ' ' := by
      rw [Char.lt_def, UInt32.lt_iff_toNat_lt]
      change ¬c.toNat < 32
      omega
    simp [isControl, hspace]
    omega
  have hextend : isExtend c = false := by simp [isExtend]; omega
  have hmark : isSpacingMark c = false := by simp [isSpacingMark]; omega
  have hpictograph : isPictograph c = false := by simp [isPictograph]; omega
  unfold joins
  cases hp : isControl p <;> simp [hnewline, hcontrol, hextend, hmark, hpictograph, hp]

end Joins

section Append

/-- Each character joins those before it. The last one is given first. -/
def IsJoined : List Char → Prop
  | [] => True
  | c :: before => (before = [] ∨ joins before c = true) ∧ IsJoined before

theorem isJoined_of_mem_clustersAfter {cluster cs k : List Char} (hne : cluster ≠ [])
    (hj : IsJoined cluster) (hk : k ∈ clustersAfter cluster cs) : k ≠ [] ∧ IsJoined k.reverse := by
  induction cs generalizing cluster with
  | nil =>
    obtain rfl := List.mem_singleton.1 hk
    simpa using ⟨hne, hj⟩
  | cons c cs ih =>
    unfold clustersAfter at hk
    split_ifs at hk with hjoins
    · exact ih (List.cons_ne_nil _ _) ⟨.inr hjoins, hj⟩ hk
    · rcases List.mem_cons.1 hk with rfl | hk
      · simpa using ⟨hne, hj⟩
      · exact ih (List.cons_ne_nil _ _) ⟨.inl rfl, trivial⟩ hk

theorem isJoined_of_mem_clusters {cs k : List Char} (hk : k ∈ clusters cs) :
    k ≠ [] ∧ IsJoined k.reverse := by
  cases cs with
  | nil => simp [clusters] at hk
  | cons c cs => exact isJoined_of_mem_clustersAfter (List.cons_ne_nil _ _) ⟨.inl rfl, trivial⟩ hk

/-- What precedes a character that joins whatever follows in a cluster does so too. -/
theorem isPrepend_of_isJoined {c : Char} {before : List Char} (hj : IsJoined (c :: before))
    (hc : isPrepend c = true) : ∀ p ∈ c :: before, isPrepend p = true := by
  induction before generalizing c with
  | nil => simpa using hc
  | cons p before ih =>
    have hp : isPrepend p = true := by
      have hjoins := hj.1.resolve_left (List.cons_ne_nil _ _)
      obtain ⟨hextend, hmark, hpictograph, -⟩ := apart_of_isPrepend hc
      rcases joins_cons hjoins with ⟨-, rfl⟩ | h | h | h | h
      · exact absurd hc (by decide)
      · rw [hextend] at h
        exact absurd h Bool.false_ne_true
      · rw [hmark] at h
        exact absurd h Bool.false_ne_true
      · exact h
      · rw [hpictograph] at h
        exact absurd h Bool.false_ne_true
    rw [List.forall_mem_cons]
    exact ⟨hc, ih hj.2 hp⟩

/-- The clusters of a text that goes on: those before the last stay. -/
theorem clustersAfter_append (cluster cs : List Char) (hne : cluster ≠ []) :
    ∃ done last, last ≠ [] ∧ clustersAfter cluster cs = done ++ [last.reverse] ∧
      ∀ ds, clustersAfter cluster (cs ++ ds) = done ++ clustersAfter last ds := by
  induction cs generalizing cluster with
  | nil => exact ⟨[], cluster, hne, rfl, fun ds => rfl⟩
  | cons c cs ih =>
    by_cases hjoins : joins cluster c = true
    · obtain ⟨done, last, hlast, heq, happend⟩ := ih (c :: cluster) (List.cons_ne_nil _ _)
      refine ⟨done, last, hlast, ?_, fun ds => ?_⟩
      · rw [clustersAfter, if_pos hjoins, heq]
      · rw [List.cons_append, clustersAfter, if_pos hjoins, happend]
    · obtain ⟨done, last, hlast, heq, happend⟩ := ih [c] (List.cons_ne_nil _ _)
      refine ⟨cluster.reverse :: done, last, hlast, ?_, fun ds => ?_⟩
      · rw [clustersAfter, if_neg hjoins, heq, List.cons_append]
      · rw [List.cons_append, clustersAfter, if_neg hjoins, happend, List.cons_append]

theorem clusters_append {cs : List Char} (hne : cs ≠ []) :
    ∃ done last, last ≠ [] ∧ clusters cs = done ++ [last.reverse] ∧
      ∀ ds, clusters (cs ++ ds) = done ++ clustersAfter last ds := by
  obtain ⟨c, cs, rfl⟩ := List.exists_cons_of_ne_nil hne
  exact clustersAfter_append [c] cs (List.cons_ne_nil _ _)

theorem clustersAfter_ascii {p : Char} {before cs : List Char} (hp : p.toNat < 128)
    (hcs : ∀ c ∈ cs, 32 ≤ c.toNat ∧ c.toNat < 127) :
    clustersAfter (p :: before) cs = (p :: before).reverse :: cs.map fun c => [c] := by
  induction cs generalizing p before with
  | nil => rfl
  | cons c cs ih =>
    rw [List.forall_mem_cons] at hcs
    have hjoins : joins (p :: before) c = false := by
      rw [joins_ascii hcs.1.1 hcs.1.2, not_isPrepend_of_ascii hp, Bool.false_and]
    rw [clustersAfter, hjoins, if_neg Bool.false_ne_true, ih (by omega) hcs.2, List.map_cons,
      List.reverse_singleton]

theorem clusters_ascii {cs : List Char} (hcs : ∀ c ∈ cs, 32 ≤ c.toNat ∧ c.toNat < 127) :
    clusters cs = cs.map fun c => [c] := by
  cases cs with
  | nil => rfl
  | cons c cs =>
    rw [List.forall_mem_cons] at hcs
    exact clustersAfter_ascii (by omega) hcs.2

end Append

end SchemaGen.Text
