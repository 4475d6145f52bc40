import Mathlib.Tactic.Common
import SchemaGen.Path

namespace SchemaGen.Path

/-- Where steps lead from a place. The steps to a place are given last first. -/
def follow (rooted : Bool) (done steps : List Step) : List Step := steps.foldl (advance rooted) done

/-- Steps, last first, of which none can be taken back: down, and up only from where one stands. -/
def Settled (rooted : Bool) : List Step → Prop
  | [] => True
  | .down _ :: done => Settled rooted done
  | .up :: done => rooted = false ∧ ∀ s ∈ done, s = .up
  | .here :: _ => False

variable {rooted : Bool} {done steps : List Step} {s : Step}

theorem normalize_steps (p : Path) : p.normalize.steps = (follow p.rooted [] p.steps).reverse := rfl

theorem reverse_normalize_steps (p : Path) : p.normalize.steps.reverse = follow p.rooted [] p.steps := by
  rw [normalize_steps, List.reverse_reverse]

theorem follow_append (rooted : Bool) (done as bs : List Step) :
    follow rooted done (as ++ bs) = follow rooted (follow rooted done as) bs :=
  List.foldl_append

theorem settled_of_forall_up (hr : rooted = false) (h : ∀ s ∈ done, s = .up) : Settled rooted done := by
  cases done with
  | nil => trivial
  | cons s done =>
    obtain ⟨rfl, hdone⟩ := List.forall_mem_cons.1 h
    exact ⟨hr, hdone⟩

theorem settled_advance (h : Settled rooted done) (s : Step) : Settled rooted (advance rooted done s) := by
  cases s with
  | here => exact h
  | down name => exact h
  | up =>
    match done, h with
    | [], _ =>
      cases hr : rooted with
      | true => trivial
      | false => exact ⟨rfl, List.forall_mem_nil _⟩
    | .down _ :: _, h => exact h
    | .up :: _, h => exact ⟨h.1, List.forall_mem_cons.2 ⟨rfl, h.2⟩⟩

theorem settled_follow (h : Settled rooted done) (steps : List Step) :
    Settled rooted (follow rooted done steps) := by
  induction steps generalizing done with
  | nil => exact h
  | cons s steps ih => exact ih (settled_advance h s)

theorem Settled.tail (h : Settled rooted (s :: done)) : Settled rooted done := by
  cases s with
  | here => exact h.elim
  | down name => exact h
  | up => exact settled_of_forall_up h.1 h.2

theorem Settled.right {as : List Step} (h : Settled rooted (as ++ done)) : Settled rooted done := by
  induction as with
  | nil => exact h
  | cons s as ih => exact ih h.tail

theorem Settled.advance_eq (h : Settled rooted (s :: done)) : advance rooted done s = s :: done := by
  cases s with
  | here => exact h.elim
  | down name => rfl
  | up =>
    obtain ⟨rfl, hdone⟩ := h
    cases done with
    | nil => rfl
    | cons s done =>
      obtain rfl := hdone s List.mem_cons_self
      rfl

/-- Steps of which none can be taken back lead on. -/
theorem follow_of_settled (h : Settled rooted (steps.reverse ++ done)) :
    follow rooted done steps = steps.reverse ++ done := by
  induction steps generalizing done with
  | nil => rfl
  | cons s steps ih =>
    rw [List.reverse_cons, List.append_assoc] at h ⊢
    have hstep : advance rooted done s = s :: done := h.right.advance_eq
    have hfollow : follow rooted done (s :: steps) = follow rooted (advance rooted done s) steps := rfl
    rw [hfollow, hstep]
    exact ih h

theorem follow_back (rooted : Bool) {downs : List Step} (h : ∀ s ∈ downs, ∃ name, s = .down name)
    (done : List Step) :
    follow rooted (downs ++ done) (List.replicate downs.length .up) = done := by
  induction downs with
  | nil => rfl
  | cons s downs ih =>
    obtain ⟨⟨name, rfl⟩, hdowns⟩ := List.forall_mem_cons.1 h
    exact ih hdowns

theorem Settled.eq_down (h : Settled rooted done) (hup : rooted = false → .up ∉ done) :
    ∀ s ∈ done, ∃ name, s = .down name := by
  induction done with
  | nil => exact List.forall_mem_nil _
  | cons s done ih =>
    have hrest := ih h.tail fun hr hmem => hup hr (List.mem_cons_of_mem _ hmem)
    refine List.forall_mem_cons.2 ⟨?_, hrest⟩
    cases s with
    | here => exact h.elim
    | down name => exact ⟨name, rfl⟩
    | up => exact absurd List.mem_cons_self (hup h.1)

theorem take_common (as bs : List Step) : as.take (common as bs) = bs.take (common as bs) := by
  induction as generalizing bs with
  | nil => simp [common]
  | cons a as ih =>
    cases bs with
    | nil => simp [common]
    | cons b bs =>
      rw [common]
      split_ifs with h
      · rw [List.take_succ_cons, List.take_succ_cons, h, ih]
      · rfl

theorem settled_reverse_normalize (p : Path) : Settled p.rooted p.normalize.steps.reverse := by
  have hstart : Settled p.rooted [] := trivial
  rw [reverse_normalize_steps]
  exact settled_follow hstart p.steps

/-- A path whose steps cannot be taken back stays as it is. -/
theorem normalize_of_settled {p : Path} (h : Settled p.rooted p.steps.reverse) : p.normalize = p := by
  rw [← List.append_nil p.steps.reverse] at h
  have hfollow := follow_of_settled h
  rw [List.append_nil] at hfollow
  have hsteps : p.normalize.steps = p.steps := by
    rw [normalize_steps, hfollow, List.reverse_reverse]
  exact congrArg (Path.mk p.rooted) hsteps

theorem normalize_normalize (p : Path) : p.normalize.normalize = p.normalize :=
  normalize_of_settled (settled_reverse_normalize p)

theorem relative_eq {source target : Path} (h : source.rooted = target.rooted) :
    source.relative target =
      ⟨false, List.replicate (source.normalize.steps.length -
          common source.normalize.steps target.normalize.steps) .up ++
        target.normalize.steps.drop (common source.normalize.steps target.normalize.steps)⟩ :=
  if_pos h

/-- Up to what two ways have in common, and from there down again. -/
theorem follow_way {ss ts : List Step} (hs : Settled rooted ss.reverse) (ht : Settled rooted ts.reverse)
    (hup : rooted = false → .up ∉ ss) :
    follow rooted ss.reverse
        (List.replicate (ss.length - common ss ts) .up ++ ts.drop (common ss ts)) = ts.reverse := by
  have htake := take_common ss ts
  generalize common ss ts = n at htake ⊢
  have hdowns : ∀ s ∈ (ss.drop n).reverse, ∃ name, s = .down name := by
    intro s hs'
    have hall := hs.eq_down fun hr hmem => hup hr (List.mem_reverse.1 hmem)
    exact hall s (List.mem_reverse.2 (List.mem_of_mem_drop (List.mem_reverse.1 hs')))
  have hback : follow rooted ss.reverse (List.replicate (ss.length - n) .up) =
      (ss.take n).reverse := by
    have hcut : ss.reverse = (ss.drop n).reverse ++ (ss.take n).reverse := by
      rw [← List.reverse_append, List.take_append_drop]
    have hlength : (ss.drop n).reverse.length = ss.length - n := by simp
    rw [hcut, ← hlength]
    exact follow_back rooted hdowns _
  have hcut : (ts.drop n).reverse ++ (ts.take n).reverse = ts.reverse := by
    rw [← List.reverse_append, List.take_append_drop]
  rw [follow_append, hback, htake, follow_of_settled (hcut ▸ ht), hcut]

/-- To normalize a path that goes on from another, go on from where that one leads. -/
theorem normalize_join (p : Path) (steps : List Step) :
    (p.join ⟨false, steps⟩).normalize =
      ⟨p.rooted, (follow p.rooted p.normalize.steps.reverse steps).reverse⟩ := by
  rw [reverse_normalize_steps, ← follow_append]
  rfl

/-- The way from a directory to a path leads there. The way up to what the two have in common must be known,
which it is unless the directory lies above where one stands. -/
theorem normalize_join_relative {source target : Path} (hrooted : source.rooted = target.rooted)
    (hup : source.rooted = false → .up ∉ source.normalize.steps) :
    (source.join (source.relative target)).normalize = target.normalize := by
  have hsource := settled_reverse_normalize source
  have htarget := settled_reverse_normalize target
  rw [← hrooted] at htarget
  rw [relative_eq hrooted, normalize_join, follow_way hsource htarget hup, List.reverse_reverse, hrooted]
  rfl

end SchemaGen.Path
