import SchemaGen.Proofs.Zod.Emission

namespace SchemaGen.Zod

open Relation

section After

variable (taken : List String) (ds : List Declaration) (passes : Nat)

/-- More passes add declarations behind those that have their places. -/
theorem ordered_grows (more : Nat) :
    (orderAfter taken ds passes).ordered <+: (orderAfter taken ds (passes + more)).ordered := by
  refine orderAfter_induction
    (P := fun taken ds passes o => o.ordered <+: (orderAfter taken ds (passes + more)).ordered)
    ?_ ?_ ?_ ?_ taken ds passes
  · exact fun _ _ => List.nil_prefix
  · exact fun _ _ => List.nil_prefix
  · exact fun _ _ _ _ _ => List.nil_prefix
  · intro taken ds passes o h ih
    rw [Nat.add_right_comm, orderAfter_cons taken ds (passes + more) h]
    exact (List.prefix_append_right_inj (pass taken ds).1).2 ih

/-- After a pass that takes nothing, more passes change nothing. -/
theorem orderAfter_add_of_stalled (more : Nat) (hs : (orderAfter taken ds passes).stalled = true) :
    orderAfter taken ds (passes + more) = orderAfter taken ds passes := by
  refine orderAfter_induction
    (P := fun taken ds passes o => o.stalled = true → orderAfter taken ds (passes + more) = o)
    ?_ ?_ ?_ ?_ taken ds passes hs
  · exact fun _ _ h => absurd h (by simp)
  · exact fun _ _ h => absurd h (by simp)
  · intro taken ds passes hne h _
    rw [Nat.add_right_comm, orderAfter_nil taken ds (passes + more) h hne]
  · intro taken ds passes o h ih hs
    rw [Nat.add_right_comm, orderAfter_cons taken ds (passes + more) h, ih hs]

theorem leftover_ne_nil_of_stalled (hs : (orderAfter taken ds passes).stalled = true) :
    (orderAfter taken ds passes).leftover ≠ [] := by
  refine orderAfter_induction (P := fun _ _ _ o => o.stalled = true → o.leftover ≠ [])
    ?_ ?_ ?_ ?_ taken ds passes hs
  · exact fun _ _ h => absurd h (by simp)
  · exact fun _ _ h => absurd h (by simp)
  · intro taken ds _ hne h _ hnil
    have hperm := pass_perm taken ds
    have hlater : (pass taken ds).2 = [] := hnil
    rw [h, hlater, List.append_nil] at hperm
    exact hne hperm.nil_eq.symm
  · exact fun _ _ _ _ _ ih => ih

end After

section Cycle

variable (ds : List Declaration)

def NeedsIn (d e : Declaration) : Prop := e ∈ ds ∧ e.name ∈ d.needs

/-- The needs of a declaration lead to one that needs itself, or to two that lead to one another. -/
def LeadsToCycle (d : Declaration) : Prop :=
  ∃ x ∈ ds, ReflTransGen (NeedsIn ds) d x ∧
    (x.name ∈ x.needs ∨
      ∃ y ∈ ds, y ≠ x ∧ ReflTransGen (NeedsIn ds) x y ∧ ReflTransGen (NeedsIn ds) y x)

variable {ds}

theorem leadsToCycle_of_transGen {d x : Declaration} (hx : ReflTransGen (NeedsIn ds) d x)
    (hcycle : TransGen (NeedsIn ds) x x) : LeadsToCycle ds d := by
  obtain ⟨_, -, hlast⟩ := TransGen.tail'_iff.1 hcycle
  obtain ⟨y, hstep, hback⟩ := TransGen.head'_iff.1 hcycle
  refine ⟨x, hlast.1, hx, ?_⟩
  by_cases hself : y = x
  · rw [hself] at hstep
    exact .inl hstep.2
  · exact .inr ⟨y, hstep.1, hself, .single hstep, hback⟩

variable {passes : Nat}

/-- When a pass takes nothing, each declaration that is left leads to a cycle. -/
theorem leadsToCycle_of_stalled (hc : IsClosed ds) (hs : (order ds passes).stalled = true) :
    ∀ d ∈ (order ds passes).leftover, LeadsToCycle ds d := by
  classical
  intro d hd
  have succ : ∀ a ∈ (order ds passes).leftover.toFinset,
      ∃ b ∈ (order ds passes).leftover.toFinset, NeedsIn ds a b := by
    intro a ha
    obtain ⟨b, hb, hneed⟩ := exists_need_of_stalled ds passes hc hs a (List.mem_toFinset.1 ha)
    have hmem : b ∈ ds := (order_perm ds passes).subset (List.mem_append_right _ hb)
    exact ⟨b, List.mem_toFinset.2 hb, hmem, hneed⟩
  obtain ⟨x, hx, hcycle⟩ := exists_cycle _ succ (List.mem_toFinset.2 hd)
  exact leadsToCycle_of_transGen hx hcycle

end Cycle

section Order

variable {ds : List Declaration} {m m' : Nat}

theorem order_grows (h : m ≤ m') : (order ds m).ordered <+: (order ds m').ordered := by
  have hmore : max m' 1 = max m 1 + (max m' 1 - max m 1) := by omega
  rw [order, order, hmore]
  exact ordered_grows [] ds (max m 1) _

theorem order_eq_of_stalled (h : m ≤ m') (hs : (order ds m).stalled = true) : order ds m' = order ds m := by
  have hmore : max m' 1 = max m 1 + (max m' 1 - max m 1) := by omega
  rw [order, order, hmore]
  exact orderAfter_add_of_stalled [] ds (max m 1) _ hs

/-- No number of passes finds a place for what is left when a pass takes nothing. -/
theorem not_mem_ordered_of_stalled (hnames : (ds.map (·.name)).Nodup) (hs : (order ds m).stalled = true)
    {d : Declaration} (hd : d ∈ (order ds m).leftover) (m' : Nat) : d ∉ (order ds m').ordered := by
  intro hordered
  have hplaced : d ∈ (order ds m).ordered := by
    rcases Nat.le_total m m' with hle | hle
    · rwa [order_eq_of_stalled hle hs] at hordered
    · exact (order_grows hle).subset hordered
  have hnodup := ((order_perm ds m).nodup_iff.2 hnames.of_map)
  exact (List.nodup_append.1 hnodup).2.2 d hplaced d hd rfl

theorem circular_iff_stalled {d : Declaration} :
    ((order ds m).leftoverReport m d).problem = .circular d.needs ↔ (order ds m).stalled = true := by
  unfold Ordering.leftoverReport
  cases (order ds m).stalled <;> simp

/-- Declarations with different names that need only one another are ordered or left. With more passes the
order only grows at its end; with a pass for each, something is left exactly when a pass took nothing. Whenever
a pass took nothing, which is what the report on a cycle says, all that is left leads to a cycle and finds no
place in any number of passes. -/
theorem order_passes (hnames : (ds.map (·.name)).Nodup) (hc : IsClosed ds) :
    (∀ m, ((order ds m).ordered ++ (order ds m).leftover).Perm ds) ∧
    (∀ m m', m ≤ m' → (order ds m).ordered <+: (order ds m').ordered) ∧
    (∀ m, ds.length ≤ m → ((order ds m).leftover ≠ [] ↔ (order ds m).stalled = true)) ∧
    ∀ m, ∀ d ∈ (order ds m).leftover,
      (((order ds m).leftoverReport m d).problem = .circular d.needs ↔ (order ds m).stalled = true) ∧
      ((order ds m).stalled = true → LeadsToCycle ds d ∧ ∀ m', d ∉ (order ds m').ordered) := by
  refine ⟨order_perm ds, fun _ _ => order_grows, fun m hm => ⟨fun hleft => ?_, fun hs => ?_⟩,
    fun m d hd => ⟨circular_iff_stalled, fun hs => ⟨?_, ?_⟩⟩⟩
  · exact stalled_of_leftover [] ds (max m 1) (by omega) hleft
  · exact leftover_ne_nil_of_stalled [] ds (max m 1) hs
  · exact leadsToCycle_of_stalled hc hs d hd
  · exact not_mem_ordered_of_stalled hnames hs hd

/-- A chain in the wrong order, two declarations that need one another, and one that needs both. -/
def knotted : List Declaration :=
  let declare (name : String) (needs : List String) : Declaration :=
    { (default : Declaration) with name := name, needs := needs }
  [declare "Hub" ["Branch", "Ping"], declare "Branch" ["Leaf"], declare "Leaf" [],
    declare "Ping" ["Pong"], declare "Pong" ["Ping"]]

theorem order_passes_knotted : (knotted.map (·.name)).Nodup ∧ IsClosed knotted ∧
    (order knotted 1).ordered.map (·.name) = ["Leaf"] ∧ (order knotted 2).stalled = false ∧
    (order knotted 3).ordered.map (·.name) = ["Leaf", "Branch"] ∧ (order knotted 3).stalled = true ∧
    ∀ d ∈ (order knotted 3).leftover, LeadsToCycle knotted d := by
  have hnames : (knotted.map (·.name)).Nodup := by decide +kernel
  have hclosed : IsClosed knotted := by decide +kernel
  have hstalled : (order knotted 3).stalled = true := by decide +kernel
  obtain ⟨-, -, -, hleft⟩ := order_passes hnames hclosed
  exact ⟨hnames, hclosed, by decide +kernel, by decide +kernel, by decide +kernel, hstalled,
    fun d hd => ((hleft 3 d hd).2 hstalled).1⟩

end Order

end SchemaGen.Zod
