import Mathlib.Data.List.Perm.Basic
import SchemaGen.Proofs.Zod.Closure

namespace SchemaGen.Zod

/-- Every declaration stands below those that it needs, after the names given. -/
def InOrder (above : List String) : List Declaration → Prop
  | [] => True
  | d :: ds => (∀ n ∈ d.needs, n ∈ above) ∧ InOrder (d.name :: above) ds

theorem InOrder.mono {above names : List String} (hs : above ⊆ names) {ds : List Declaration}
    (h : InOrder above ds) : InOrder names ds := by
  induction ds generalizing above names with
  | nil => trivial
  | cons d ds ih => exact ⟨fun n hn => hs (h.1 n hn), ih (List.cons_subset_cons d.name hs) h.2⟩

theorem InOrder.append {above : List String} {ds es : List Declaration} (hd : InOrder above ds)
    (he : InOrder (ds.map (·.name) ++ above) es) : InOrder above (ds ++ es) := by
  induction ds generalizing above with
  | nil => exact he
  | cons d ds ih =>
    refine ⟨hd.1, ih hd.2 (he.mono ?_)⟩
    intro n hn
    simpa [or_left_comm] using hn

theorem InOrder.needs_mem {above : List String} {ds : List Declaration} (h : InOrder above ds) :
    ∀ d ∈ ds, ∀ n ∈ d.needs, n ∈ above ∨ n ∈ ds.map (·.name) := by
  induction ds generalizing above with
  | nil => simp
  | cons e ds ih =>
    intro d hd n hn
    rcases List.mem_cons.1 hd with rfl | hd
    · exact .inl (h.1 n hn)
    · have := ih h.2 d hd n hn
      simp only [List.mem_cons, List.map_cons] at this ⊢
      tauto

section Pass

variable (taken : List String) (ds : List Declaration)

theorem pass_inOrder : InOrder taken (pass taken ds).1 := by
  induction ds generalizing taken with
  | nil => trivial
  | cons d ds ih =>
    rw [pass]
    split_ifs with h
    · exact ⟨(metBy_iff taken d).1 h, ih (d.name :: taken)⟩
    · exact ih taken

theorem pass_perm : ((pass taken ds).1 ++ (pass taken ds).2).Perm ds := by
  induction ds generalizing taken with
  | nil => exact .nil
  | cons d ds ih =>
    rw [pass]
    split_ifs
    · exact (ih (d.name :: taken)).cons d
    · exact List.perm_middle.trans ((ih taken).cons d)

/-- What a pass leaves had needs that were not met before it. -/
theorem not_metBy_of_mem_pass : ∀ d ∈ (pass taken ds).2, ¬d.metBy taken := by
  induction ds generalizing taken with
  | nil => simp [pass]
  | cons e ds ih =>
    intro d hd
    rw [pass] at hd
    split_ifs at hd with h
    · intro hm
      refine ih (e.name :: taken) d hd ((metBy_iff _ d).2 fun n hn => ?_)
      exact List.mem_cons_of_mem _ ((metBy_iff taken d).1 hm n hn)
    · rcases List.mem_cons.1 hd with rfl | hd
      · exact h
      · exact ih taken d hd

end Pass

/-- One pass that takes something, and the passes after it. -/
theorem orderAfter_cons (taken : List String) (ds : List Declaration) (passes : Nat)
    (h : (pass taken ds).1 ≠ []) :
    orderAfter taken ds (passes + 1) =
      let rest := orderAfter ((pass taken ds).1.map (·.name) ++ taken) (pass taken ds).2 passes
      { rest with ordered := (pass taken ds).1 ++ rest.ordered } := by
  have hne : ds ≠ [] := by
    rintro rfl
    exact h rfl
  rw [orderAfter, if_neg (by simpa using hne)]
  split
  · next hp => exact absurd (congrArg Prod.fst hp) h
  · next now later _ hp => rw [hp]

theorem orderAfter_nil (taken : List String) (ds : List Declaration) (passes : Nat)
    (h : (pass taken ds).1 = []) (hne : ds ≠ []) :
    orderAfter taken ds (passes + 1) = ⟨[], (pass taken ds).2, true⟩ := by
  rw [orderAfter, if_neg (by simpa using hne)]
  split
  · next hp => rw [hp]
  · next now later hn hp =>
    rw [hp] at h
    exact absurd h hn

theorem orderAfter_empty (taken : List String) (passes : Nat) :
    orderAfter taken [] passes = ⟨[], [], false⟩ := by
  cases passes <;> rfl

/-- A way to reason on passes: nothing is left, the passes are used up, a pass takes nothing, or it
takes something and the passes go on. -/
theorem orderAfter_induction {P : List String → List Declaration → Nat → Ordering → Prop}
    (empty : ∀ taken passes, P taken [] passes ⟨[], [], false⟩)
    (used : ∀ taken ds, P taken ds 0 ⟨[], ds, false⟩)
    (stuck : ∀ taken ds passes, ds ≠ [] → (pass taken ds).1 = [] →
      P taken ds (passes + 1) ⟨[], (pass taken ds).2, true⟩)
    (step : ∀ taken ds passes o, (pass taken ds).1 ≠ [] →
      P ((pass taken ds).1.map (·.name) ++ taken) (pass taken ds).2 passes o →
      P taken ds (passes + 1) { o with ordered := (pass taken ds).1 ++ o.ordered })
    (taken : List String) (ds : List Declaration) (passes : Nat) :
    P taken ds passes (orderAfter taken ds passes) := by
  induction passes generalizing taken ds with
  | zero => exact used taken ds
  | succ passes ih =>
    by_cases hne : ds = []
    · subst hne
      rw [orderAfter_empty]
      exact empty taken (passes + 1)
    by_cases h : (pass taken ds).1 = []
    · rw [orderAfter_nil taken ds passes h hne]
      exact stuck taken ds passes hne h
    · rw [orderAfter_cons taken ds passes h]
      exact step taken ds passes _ h (ih _ _)

theorem orderAfter_perm (taken : List String) (ds : List Declaration) (passes : Nat) :
    ((orderAfter taken ds passes).ordered ++ (orderAfter taken ds passes).leftover).Perm ds := by
  refine orderAfter_induction (P := fun _ ds _ o => (o.ordered ++ o.leftover).Perm ds)
    ?_ ?_ ?_ ?_ taken ds passes
  · exact fun _ _ => .nil
  · exact fun _ ds => .refl ds
  · intro taken ds _ _ h
    have := pass_perm taken ds
    rwa [h] at this
  · intro taken ds _ o _ ih
    rw [List.append_assoc]
    exact (ih.append_left _).trans (pass_perm taken ds)

theorem orderAfter_inOrder (taken : List String) (ds : List Declaration) (passes : Nat) :
    InOrder taken (orderAfter taken ds passes).ordered := by
  refine orderAfter_induction (P := fun taken _ _ o => InOrder taken o.ordered)
    ?_ ?_ ?_ ?_ taken ds passes
  · exact fun _ _ => trivial
  · exact fun _ _ => trivial
  · exact fun _ _ _ _ _ => trivial
  · exact fun taken ds _ o _ ih => (pass_inOrder taken ds).append ih

/-- With a pass for each declaration, something is left only when a pass took nothing. -/
theorem stalled_of_leftover (taken : List String) (ds : List Declaration) (passes : Nat)
    (hp : ds.length ≤ passes) (hl : (orderAfter taken ds passes).leftover ≠ []) :
    (orderAfter taken ds passes).stalled = true := by
  refine orderAfter_induction
    (P := fun _ ds passes o => ds.length ≤ passes → o.leftover ≠ [] → o.stalled = true)
    ?_ ?_ ?_ ?_ taken ds passes hp hl
  · exact fun _ _ _ h => absurd rfl h
  · intro _ ds h hl
    exact absurd (List.length_eq_zero_iff.1 (Nat.le_zero.1 h)) hl
  · exact fun _ _ _ _ _ _ _ => rfl
  · intro taken ds passes o h ih hp hl
    refine ih ?_ hl
    have hlen := (pass_perm taken ds).length_eq
    have hpos := List.length_pos_iff.2 h
    rw [List.length_append] at hlen
    omega

/-- When a pass takes nothing, each declaration that is left needs a name that has no place. -/
theorem not_metBy_of_stalled (taken : List String) (ds : List Declaration) (passes : Nat)
    (hs : (orderAfter taken ds passes).stalled = true) :
    ∀ d ∈ (orderAfter taken ds passes).leftover,
      ¬d.metBy ((orderAfter taken ds passes).ordered.map (·.name) ++ taken) := by
  refine orderAfter_induction
    (P := fun taken _ _ o => o.stalled = true → ∀ d ∈ o.leftover,
      ¬d.metBy (o.ordered.map (·.name) ++ taken)) ?_ ?_ ?_ ?_ taken ds passes hs
  · exact fun _ _ h => absurd h (by simp)
  · exact fun _ _ h => absurd h (by simp)
  · exact fun taken ds _ _ _ _ d hd => not_metBy_of_mem_pass taken ds d hd
  · intro taken ds _ o _ ih hs d hd hm
    refine ih hs d hd ((metBy_iff _ d).2 fun n hn => ?_)
    have := (metBy_iff _ d).1 hm n hn
    simp only [List.map_append, List.mem_append] at this ⊢
    tauto

section Order

variable (ds : List Declaration) (passes : Nat)

theorem order_perm : ((order ds passes).ordered ++ (order ds passes).leftover).Perm ds :=
  orderAfter_perm [] ds (max passes 1)

theorem order_inOrder : InOrder [] (order ds passes).ordered :=
  orderAfter_inOrder [] ds (max passes 1)

theorem countP_order (name : String) :
    (order ds passes).ordered.countP (·.name = name) +
      (order ds passes).leftover.countP (·.name = name) = ds.countP (·.name = name) := by
  rw [← List.countP_append]
  exact (order_perm ds passes).countP_eq _

/-- When a pass takes nothing of declarations that need only one another, each that is left needs another that
is left. -/
theorem exists_need_of_stalled (hc : IsClosed ds) (hs : (order ds passes).stalled = true) :
    ∀ d ∈ (order ds passes).leftover, ∃ e ∈ (order ds passes).leftover, e.name ∈ d.needs := by
  intro d hd
  have hm := not_metBy_of_stalled [] ds _ hs d hd
  simp only [metBy_iff, not_forall] at hm
  obtain ⟨n, hn, ho⟩ := hm
  have hmem : d ∈ ds := (order_perm ds passes).subset (List.mem_append_right _ hd)
  obtain ⟨e, he, rfl⟩ := List.mem_map.1 (hc d hmem n hn)
  rcases List.mem_append.1 ((order_perm ds passes).mem_iff.2 he) with hin | hin
  · refine absurd ?_ ho
    rw [List.append_nil]
    exact List.mem_map.2 ⟨e, hin, rfl⟩
  · exact ⟨e, hin, hn⟩

/-- Declarations that need only one another and are not ordered in as many passes each need another
that is not ordered. -/
theorem exists_need_of_mem_leftover (hc : IsClosed ds) (hp : ds.length ≤ passes) :
    ∀ d ∈ (order ds passes).leftover, ∃ e ∈ (order ds passes).leftover, e.name ∈ d.needs := by
  intro d hd
  have hstall : (order ds passes).stalled = true :=
    stalled_of_leftover [] ds _ (by omega) (List.ne_nil_of_mem hd)
  exact exists_need_of_stalled ds passes hc hstall d hd

end Order

end SchemaGen.Zod
