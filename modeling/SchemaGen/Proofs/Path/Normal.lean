import Mathlib.Data.List.Induction
import SchemaGen.Proofs.Path.Specifier

namespace SchemaGen.Path

/-- Steps up come first, and a path from the root has none; there is no step to the same directory. -/
structure IsNormal (p : Path) : Prop where
  notHere : .here ∉ p.steps
  climbsFirst : ∀ before after, p.steps = before ++ .up :: after → ∀ s ∈ before, s = .up
  notAboveRoot : p.rooted = true → .up ∉ p.steps

variable {p : Path} {s : Step} {steps : List Step}

theorem Settled.at_split {rooted : Bool} {before after : List Step}
    (h : Settled rooted (before ++ s :: after).reverse) : Settled rooted (s :: before.reverse) := by
  rw [List.reverse_append, List.reverse_cons, List.append_assoc] at h
  exact h.right

theorem Settled.isNormal (h : Settled p.rooted p.steps.reverse) : p.IsNormal where
  notHere := by
    intro hhere
    obtain ⟨before, after, hsplit⟩ := List.append_of_mem hhere
    rw [hsplit] at h
    exact h.at_split
  climbsFirst := by
    intro before after hsplit s hs
    rw [hsplit] at h
    exact h.at_split.2 s (List.mem_reverse.2 hs)
  notAboveRoot := by
    intro hrooted hup
    obtain ⟨before, after, hsplit⟩ := List.append_of_mem hup
    rw [hsplit] at h
    exact absurd (hrooted.symm.trans h.at_split.1) (by decide)

/-- The steps before the last are in normal form too. -/
theorem IsNormal.init {rooted : Bool} (h : IsNormal ⟨rooted, steps ++ [s]⟩) :
    IsNormal ⟨rooted, steps⟩ where
  notHere := fun hhere => h.notHere (List.mem_append_left _ hhere)
  climbsFirst := by
    intro before after hsplit
    refine h.climbsFirst before (after ++ [s]) ?_
    rw [← List.cons_append, ← List.append_assoc, ← hsplit]
  notAboveRoot := fun hrooted hup => h.notAboveRoot hrooted (List.mem_append_left _ hup)

theorem IsNormal.settled (h : p.IsNormal) : Settled p.rooted p.steps.reverse := by
  obtain ⟨rooted, steps⟩ := p
  change Settled rooted steps.reverse
  induction steps using List.reverseRecOn with
  | nil => trivial
  | append_singleton steps s ih =>
    rw [List.reverse_concat]
    cases s with
    | here => exact h.notHere (List.mem_append_right _ (List.mem_singleton_self _))
    | down name => exact ih h.init
    | up =>
      refine ⟨?_, fun s hs => h.climbsFirst steps [] rfl s (List.mem_reverse.1 hs)⟩
      cases rooted with
      | true => exact (h.notAboveRoot rfl (List.mem_append_right _ (List.mem_singleton_self _))).elim
      | false => rfl

theorem isNormal_normalize (p : Path) : p.normalize.IsNormal := (settled_reverse_normalize p).isNormal

/-- Just the paths in normal form stay as they are. -/
theorem normalize_eq_self_iff (p : Path) : p.normalize = p ↔ p.IsNormal := by
  constructor
  · intro h
    rw [← h]
    exact isNormal_normalize p
  · intro h
    exact normalize_of_settled h.settled

theorem normalize_join_normalize (p q : Path) : (p.normalize.join q).normalize = (p.join q).normalize := by
  cases q with
  | mk rooted steps =>
    cases rooted with
    | true => rfl
    | false =>
      rw [normalize_join, normalize_join, normalize_normalize]
      rfl

theorem head?_joined (h : ∀ s ∈ steps, s.Proper) : (joined steps).head? ≠ some '/' := by
  cases steps with
  | nil => exact (nomatch ·)
  | cons s steps =>
    obtain ⟨hne, hslash⟩ := text_unbroken (List.forall_mem_cons.1 h).1
    obtain ⟨c, cs, htext⟩ := List.exists_cons_of_ne_nil hne
    have hhead : (joined (s :: steps)).head? = some c := by
      cases steps with
      | nil =>
        have hone : joined [s] = s.text.toList := List.intercalate_singleton
        rw [hone, htext, List.head?_cons]
      | cons t steps => rw [joined_cons_cons, htext, List.cons_append, List.head?_cons]
    rw [hhead]
    intro hc
    obtain rfl := Option.some.inj hc
    exact hslash (htext ▸ List.mem_cons_self)

theorem toList_text (p : Path) : p.text.toList = (if p.rooted then ['/'] else []) ++ joined p.steps := by
  have hjoined : ("/".intercalate (p.steps.map Step.text)).toList = joined p.steps := by
    rw [String.toList_intercalate, List.map_map]
    rfl
  rw [text, String.toList_append, hjoined]
  split_ifs <;> rfl

/-- What is written for a path of texts is read as the path. -/
theorem ofString_text (hproper : ∀ s ∈ p.steps, s.Proper) (htexts : ∀ s ∈ p.steps, s.isText)
    (hhere : .here ∉ p.steps) : ofString p.text = p := by
  obtain ⟨rooted, steps⟩ := p
  have htext : (Path.mk rooted steps).text.toList = (if rooted then ['/'] else []) ++ joined steps :=
    toList_text _
  have hsteps : stepsOf (Path.mk rooted steps).text.toList = steps := by
    rw [htext]
    have hjoined : stepsOf (joined steps) = steps :=
      (stepsOf_joined hproper).trans (map_shown_eq_self_iff.2 htexts)
    cases rooted with
    | true => exact hjoined
    | false => exact hjoined
  have hrooted : (ofString (Path.mk rooted steps).text).rooted = rooted := by
    rw [ofString, rooted_ofChars, htext]
    cases rooted with
    | true => rfl
    | false => exact decide_eq_false (head?_joined hproper)
  have hread : (ofString (Path.mk rooted steps).text).steps = steps := by
    rcases steps_ofChars (Path.mk rooted steps).text.toList with ⟨first, rest, hfirst, -⟩ | heq
    · rw [hsteps] at hfirst
      exact absurd (hfirst ▸ List.mem_cons_self) hhere
    · rw [ofString, heq, hsteps, List.filter_eq_self]
      intro s hs
      simpa using ne_of_mem_of_not_mem hs hhere
  exact congrArg₂ Path.mk hrooted hread

/-- The normal form has no step to the same directory, steps up at most at its beginning, and none from the
root. It is the path itself exactly if this has that form, and so to normalize again changes nothing. To go
on from a path and normalize is to go on from its normal form and normalize. The text of the normal form of
a path that was read is read as that normal form. -/
theorem normalize_canonical :
    (∀ p : Path, p.normalize.IsNormal ∧ p.normalize.rooted = p.rooted ∧
      p.normalize.normalize = p.normalize ∧ (p.normalize = p ↔ p.IsNormal)) ∧
    (∀ p q : Path, (p.join q).normalize = (p.normalize.join q).normalize) ∧
    ∀ text, ofString (ofString text).normalize.text = (ofString text).normalize := by
  refine ⟨fun p => ?_, fun p q => (normalize_join_normalize p q).symm, fun text => ?_⟩
  · exact ⟨isNormal_normalize p, rfl, normalize_normalize p, normalize_eq_self_iff p⟩
  · have hread : ∀ s ∈ (ofString text).steps, s.Proper := fun s hs =>
      proper_stepsOf (mem_steps_ofChars hs)
    have htexts : ∀ s ∈ (ofString text).normalize.steps, s.isText := by
      intro s hs
      rcases mem_normalize hs with hs | rfl
      · exact isText_stepsOf (mem_steps_ofChars hs)
      · trivial
    exact ofString_text (proper_normalize hread) htexts (isNormal_normalize _).notHere

end SchemaGen.Path
