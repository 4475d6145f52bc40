import Mathlib.Data.List.Count
import Mathlib.Logic.Function.Iterate
import Mathlib.Tactic.Common
import SchemaGen.Zod.Declaration

namespace SchemaGen

/-- Whether a report says why a declaration of the name is missing. Being declared twice is no reason:
the first declaration counts. -/
def Report.excludes (name : String) (r : Report) : Bool :=
  r.declaration = some name && r.problem ≠ .declaredTwice

namespace Zod

def IsClosed (ds : List Declaration) : Prop := ∀ d ∈ ds, ∀ n ∈ d.needs, n ∈ ds.map (·.name)

instance : DecidablePred IsClosed := fun ds =>
  inferInstanceAs (Decidable (∀ d ∈ ds, ∀ n ∈ d.needs, n ∈ ds.map (·.name)))

theorem metBy_iff (names : List String) (d : Declaration) :
    d.metBy names = true ↔ ∀ n ∈ d.needs, n ∈ names := by
  simp [Declaration.metBy]

theorem mem_selfContained (ds : List Declaration) (d : Declaration) :
    d ∈ selfContained ds ↔ d ∈ ds ∧ ∀ n ∈ d.needs, n ∈ ds.map (·.name) := by
  rw [selfContained, List.mem_filter, metBy_iff]

theorem selfContained_sublist (ds : List Declaration) : (selfContained ds).Sublist ds :=
  List.filter_sublist

theorem isClosed_of_length {ds : List Declaration} (h : ¬(selfContained ds).length < ds.length) :
    IsClosed ds := by
  have he : selfContained ds = ds :=
    (selfContained_sublist ds).eq_of_length_le (Nat.le_of_not_lt h)
  intro d hd
  rw [← he] at hd
  exact ((mem_selfContained ds d).1 hd).2

theorem closed_sublist (ds : List Declaration) : (closed ds).1.Sublist ds := by
  fun_induction closed ds with
  | case1 ds _ kept reports hc ih =>
    rw [hc] at ih
    exact ih.trans (selfContained_sublist ds)
  | case2 ds _ => exact List.Sublist.refl ds

theorem isClosed_closed (ds : List Declaration) : IsClosed (closed ds).1 := by
  fun_induction closed ds with
  | case1 ds _ kept reports hc ih =>
    rw [hc] at ih
    exact ih
  | case2 ds h => exact isClosed_of_length h

theorem subset_closed {es : List Declaration} (hc : IsClosed es) (ds : List Declaration)
    (hs : es ⊆ ds) : es ⊆ (closed ds).1 := by
  fun_induction closed ds with
  | case1 ds _ kept reports hk ih =>
    rw [hk] at ih
    apply ih
    intro e he
    refine (mem_selfContained ds e).2 ⟨hs he, fun n hn => ?_⟩
    exact List.map_subset _ hs (hc e he n hn)
  | case2 ds _ => exact hs

/-- The same for a part of the list, in which a declaration may be repeated. -/
theorem sublist_closed {es : List Declaration} (hc : IsClosed es) (ds : List Declaration)
    (hs : es.Sublist ds) : es.Sublist (closed ds).1 := by
  fun_induction closed ds with
  | case1 ds _ kept reports hk ih =>
    rw [hk] at ih
    have hkept : es.filter (·.metBy (ds.map (·.name))) = es :=
      List.filter_eq_self.2 fun e he => (metBy_iff _ e).2 fun n hn =>
        (hs.map (·.name)).mem (hc e he n hn)
    apply ih
    rw [← hkept]
    exact hs.filter _
  | case2 ds _ => exact hs

theorem closed_eq_iterate (ds : List Declaration) :
    ∃ rounds ≤ ds.length, (closed ds).1 = selfContained^[rounds] ds := by
  fun_induction closed ds with
  | case1 ds hshorter kept reports hk ih =>
    rw [hk] at ih
    obtain ⟨rounds, hle, heq⟩ := ih
    exact ⟨rounds + 1, by omega, heq⟩
  | case2 ds _ => exact ⟨0, Nat.zero_le _, rfl⟩

def Declaration.missing (names : List String) (d : Declaration) : String :=
  (d.needs.find? (!names.contains ·)).getD ""

theorem missing_of_not_metBy {names : List String} {d : Declaration} (h : ¬d.metBy names = true) :
    d.missing names ∈ d.needs ∧ d.missing names ∉ names := by
  unfold Declaration.missing
  cases hfind : d.needs.find? (!names.contains ·) with
  | none =>
    rw [List.find?_eq_none] at hfind
    refine absurd ((metBy_iff names d).2 fun n hn => ?_) h
    simpa using hfind n hn
  | some n =>
    have hmissing := List.find?_some hfind
    exact ⟨List.mem_of_find?_eq_some hfind, by simpa using hmissing⟩

/-- The declarations that one round drops, with the needs that are not met. -/
def dropped (ds : List Declaration) : List (Declaration × String) :=
  (ds.filter (!·.metBy (ds.map (·.name)))).map fun d => (d, d.missing (ds.map (·.name)))

def dropReport (drop : Declaration × String) : Report := ⟨some drop.1.name, .brokenNeed drop.2⟩

theorem brokenReports_eq (ds : List Declaration) : brokenReports ds = (dropped ds).map dropReport := by
  rw [dropped, List.map_map]
  rfl

theorem selfContained_append_dropped (ds : List Declaration) :
    (selfContained ds ++ (dropped ds).map (·.1)).Perm ds := by
  have hfst : (dropped ds).map (·.1) = ds.filter (!·.metBy (ds.map (·.name))) := by
    rw [dropped, List.map_map]
    exact List.map_id _
  rw [hfst]
  exact List.filter_append_perm _ ds

theorem mem_dropped {ds : List Declaration} {drop : Declaration × String} (h : drop ∈ dropped ds) :
    drop.2 ∈ drop.1.needs ∧ drop.2 ∉ ds.map (·.name) := by
  obtain ⟨d, hd, rfl⟩ := List.mem_map.1 h
  have hbroken := (List.mem_filter.1 hd).2
  exact missing_of_not_metBy (by simpa using hbroken)

/-- Every declaration is kept or reported, and not both. The report names a need that is not kept. -/
theorem exists_removed (ds : List Declaration) :
    ∃ removed : List (Declaration × String),
      ((closed ds).1 ++ removed.map (·.1)).Perm ds ∧ (closed ds).2 = removed.map dropReport ∧
      ∀ drop ∈ removed, drop.2 ∈ drop.1.needs ∧ drop.2 ∉ (closed ds).1.map (·.name) := by
  fun_induction closed ds with
  | case1 ds _ kept reports hk ih =>
    have hsub := closed_sublist (selfContained ds)
    rw [hk] at ih hsub
    obtain ⟨later, hperm, hreports, hmissing⟩ := ih
    refine ⟨dropped ds ++ later, ?_, ?_, List.forall_mem_append.2 ⟨fun drop hdrop => ?_, hmissing⟩⟩
    · have hswap : (kept ++ ((dropped ds).map (·.1) ++ later.map (·.1))).Perm
          (kept ++ later.map (·.1) ++ (dropped ds).map (·.1)) := by
        rw [List.append_assoc]
        exact List.perm_append_comm.append_left kept
      rw [List.map_append]
      exact hswap.trans ((hperm.append_right _).trans (selfContained_append_dropped ds))
    · rw [List.map_append, ← hreports, brokenReports_eq]
    · obtain ⟨hneed, hnone⟩ := mem_dropped hdrop
      have hnames : (kept.map (·.name)).Sublist (ds.map (·.name)) :=
        (hsub.trans (selfContained_sublist ds)).map _
      exact ⟨hneed, fun hin => hnone (hnames.mem hin)⟩
  | case2 ds _ => exact ⟨[], by simp⟩

theorem exists_excludes_of_mem_closed (ds : List Declaration) :
    ∀ r ∈ (closed ds).2, ∃ name, r.excludes name := by
  obtain ⟨removed, -, hreports, -⟩ := exists_removed ds
  rw [hreports]
  intro r hr
  obtain ⟨drop, -, rfl⟩ := List.mem_map.1 hr
  exact ⟨drop.1.name, by simp [Report.excludes, dropReport]⟩

theorem countP_closed (name : String) (ds : List Declaration) :
    (closed ds).1.countP (·.name = name) + (closed ds).2.countP (Report.excludes name) =
      ds.countP (·.name = name) := by
  obtain ⟨removed, hperm, hreports, -⟩ := exists_removed ds
  have hexcludes : removed.countP (Report.excludes name ∘ dropReport) =
      (removed.map (·.1)).countP (·.name = name) := by
    rw [List.countP_map]
    refine List.countP_congr fun drop _ => ?_
    simp [Report.excludes, dropReport]
  rw [← hperm.countP_eq, List.countP_append, hreports, List.countP_map, hexcludes]

/-- What is left, after at most as many rounds as there are declarations, is the largest part of the list
that needs nothing else, in the order of the list. Each declaration that goes is reported once, with a need
of it that is not left. -/
theorem closed_largest (ds : List Declaration) :
    (∃ rounds ≤ ds.length, (closed ds).1 = selfContained^[rounds] ds) ∧
    (closed ds).1.Sublist ds ∧ IsClosed (closed ds).1 ∧
    (∀ es : List Declaration, es.Sublist ds → IsClosed es → es.Sublist (closed ds).1) ∧
    ∃ removed : List (Declaration × String),
      ((closed ds).1 ++ removed.map (·.1)).Perm ds ∧ (closed ds).2 = removed.map dropReport ∧
      ∀ drop ∈ removed, drop.2 ∈ drop.1.needs ∧ drop.2 ∉ (closed ds).1.map (·.name) :=
  ⟨closed_eq_iterate ds, closed_sublist ds, isClosed_closed ds,
    fun _ hs hc => sublist_closed hc ds hs, exists_removed ds⟩

/-- A chain that ends at a name without declaration, and two declarations that need one another. -/
def brokenChain : List Declaration :=
  [⟨"A", none, ["B"], false, .ref "B"⟩, ⟨"C", none, ["D"], false, .ref "D"⟩,
    ⟨"B", none, ["X"], false, .ref "X"⟩, ⟨"D", none, ["C"], false, .ref "C"⟩]

def brokenChainCycle : List Declaration :=
  [⟨"C", none, ["D"], false, .ref "D"⟩, ⟨"D", none, ["C"], false, .ref "C"⟩]

theorem closed_largest_cycle :
    brokenChainCycle.Sublist brokenChain ∧ IsClosed brokenChainCycle ∧
      brokenChainCycle.Sublist (closed brokenChain).1 ∧
      (closed brokenChain).1.map (·.name) = ["C", "D"] ∧
      (closed brokenChain).2 = [⟨some "B", .brokenNeed "X"⟩, ⟨some "A", .brokenNeed "B"⟩] := by
  have hpart : brokenChainCycle.Sublist brokenChain :=
    .cons _ (.cons_cons _ (.cons _ (.cons_cons _ .slnil)))
  have hclosed : IsClosed brokenChainCycle := by decide +kernel
  obtain ⟨-, -, -, hlargest, -⟩ := closed_largest brokenChain
  exact ⟨hpart, hclosed, hlargest brokenChainCycle hpart hclosed, by decide +kernel, by decide +kernel⟩

end Zod

end SchemaGen
