import Mathlib.Tactic.Common
import Mathlib.Tactic.SplitIfs
import SchemaGen.Entity.Grouping

namespace SchemaGen.Entity

def Group.names (naming : Naming) (g : Group) : List String :=
  [g.entity, naming.aggregateName g.entity]

/-- Whether the members of a group allow a pair: there are several, and all of them have a suffix. -/
def Group.IsComplete (g : Group) : Prop := 2 ≤ g.members.length ∧ ∀ m ∈ g.members, m.suffix ≠ none

theorem hasPair_iff (g : Group) : g.hasPair = true ↔ g.IsComplete ∧ g.nameTaken = false := by
  unfold Group.hasPair Group.IsComplete
  simp only [Bool.and_eq_true, decide_eq_true_eq, Bool.not_eq_true', List.all_eq_true,
    Option.isSome_iff_ne_none]
  tauto

section Reserve

variable (n : Naming) (taken : List String)

/-- The name for which a group cannot have the pair that its members allow. -/
def Group.clash? (g : Group) : Option String :=
  if g.hasPair then (g.names n).find? taken.contains else none

/-- A group beside names that are taken. -/
def Group.reserved (g : Group) : Group :=
  if (g.clash? n taken).isSome then { g with nameTaken := true } else g

def Group.claims (g : Group) : List String := if g.hasPair then g.names n else []

theorem reserve_nil : reserve n taken [] = ([], []) := rfl

/-- One group is settled, and the others beside the names that it claims. -/
theorem reserve_cons (g : Group) (gs : List Group) :
    reserve n taken (g :: gs) =
      (g.reserved n taken :: (reserve n ((g.reserved n taken).claims n ++ taken) gs).1,
        ((g.clash? n taken).map fun name =>
          ⟨some g.entity, .nameExported name g.entity⟩).toList ++
          (reserve n ((g.reserved n taken).claims n ++ taken) gs).2) := by
  cases hp : g.hasPair with
  | false =>
    have hclash : g.clash? n taken = none := by rw [Group.clash?, hp, if_neg Bool.false_ne_true]
    have hsame : g.reserved n taken = g := by rw [Group.reserved, hclash, if_neg (by decide)]
    have hclaims : g.claims n = [] := by rw [Group.claims, hp, if_neg Bool.false_ne_true]
    rw [reserve, hp, if_neg Bool.false_ne_true, hsame, hclash, hclaims]
    rfl
  | true =>
    have hclash : g.clash? n taken = (g.names n).find? taken.contains := by
      rw [Group.clash?, hp, if_pos rfl]
    rw [Group.names] at hclash
    cases hc : [g.entity, n.aggregateName g.entity].find? taken.contains with
    | none =>
      rw [hc] at hclash
      have hsame : g.reserved n taken = g := by rw [Group.reserved, hclash, if_neg (by decide)]
      have hclaims : g.claims n = g.names n := by rw [Group.claims, hp, if_pos rfl]
      rw [reserve, hp, if_pos rfl, hc, hsame, hclash, hclaims]
      rfl
    | some name =>
      rw [hc] at hclash
      have hlost : g.reserved n taken = { g with nameTaken := true } := by
        rw [Group.reserved, hclash, Option.isSome_some, if_pos rfl]
      have hclaims : (g.reserved n taken).claims n = [] := by
        rw [hlost, Group.claims, if_neg]
        rw [hasPair_iff]
        exact fun hpair => Bool.false_ne_true hpair.2.symm
      rw [reserve, hp, if_pos rfl, hc, hclaims, hlost, hclash]
      rfl

theorem entity_reserved (g : Group) : (g.reserved n taken).entity = g.entity := by
  unfold Group.reserved
  split_ifs <;> rfl

theorem members_reserved (g : Group) : (g.reserved n taken).members = g.members := by
  unfold Group.reserved
  split_ifs <;> rfl

theorem clash?_eq_none_iff (g : Group) :
    g.clash? n taken = none ↔ (g.hasPair = true → ∀ name ∈ g.names n, name ∉ taken) := by
  unfold Group.clash?
  split_ifs with hp <;> simp [hp]

/-- A group without a name that is taken loses its pair exactly for a clash. -/
theorem nameTaken_reserved {g : Group} (hnew : g.nameTaken = false) :
    (g.reserved n taken).nameTaken = false ↔ g.clash? n taken = none := by
  unfold Group.reserved
  split_ifs with hc
  · have hne : g.clash? n taken ≠ none := Option.isSome_iff_ne_none.1 hc
    simp [hne]
  · simpa [hnew] using hc

theorem isComplete_reserved (g : Group) : (g.reserved n taken).IsComplete ↔ g.IsComplete := by
  unfold Group.IsComplete
  rw [members_reserved]

theorem names_reserved (g : Group) : (g.reserved n taken).names n = g.names n := by
  unfold Group.names
  rw [entity_reserved]

/-- A group keeps the pair that its members allow exactly if its names are free. -/
theorem hasPair_reserved {g : Group} (hnew : g.nameTaken = false) :
    (g.reserved n taken).hasPair = true ↔
      (g.reserved n taken).IsComplete ∧ ∀ name ∈ (g.reserved n taken).names n, name ∉ taken := by
  rw [isComplete_reserved, names_reserved, hasPair_iff, isComplete_reserved,
    nameTaken_reserved n taken hnew, clash?_eq_none_iff, hasPair_iff]
  tauto

theorem mem_claims_iff (g : Group) (name : String) :
    name ∈ g.claims n ↔ g.hasPair = true ∧ name ∈ g.names n := by
  unfold Group.claims
  split_ifs with hp <;> simp [hp]

theorem doubts_reserved (g : Group) : (g.reserved n taken).doubts = g.doubts := by
  unfold Group.reserved
  split_ifs <;> rfl

theorem map_reserve (gs : List Group) :
    (reserve n taken gs).1.map (fun g => (g.entity, g.members)) =
      gs.map fun g => (g.entity, g.members) := by
  induction gs generalizing taken with
  | nil => rfl
  | cons g gs ih =>
    rw [reserve_cons, List.map_cons, List.map_cons, ih, entity_reserved, members_reserved]

theorem flatMap_doubts_reserve (gs : List Group) :
    (reserve n taken gs).1.flatMap Group.doubts = gs.flatMap Group.doubts := by
  induction gs generalizing taken with
  | nil => rfl
  | cons g gs ih =>
    rw [reserve_cons, List.flatMap_cons, List.flatMap_cons, ih, doubts_reserved]

/-- A group has a pair exactly if its members allow it and its names are neither taken nor those of a pair
above it. -/
theorem hasPair_reserve_iff {gs : List Group} (hnew : ∀ g ∈ gs, g.nameTaken = false)
    {above below : List Group} {g : Group} (h : (reserve n taken gs).1 = above ++ g :: below) :
    g.hasPair = true ↔ g.IsComplete ∧ ∀ name ∈ g.names n,
      name ∉ taken ∧ ∀ p ∈ above, p.hasPair = true → name ∉ p.names n := by
  induction gs generalizing taken above with
  | nil => simp [reserve_nil] at h
  | cons x gs ih =>
    rw [List.forall_mem_cons] at hnew
    rw [reserve_cons] at h
    cases above with
    | nil =>
      obtain ⟨rfl, -⟩ := List.cons.inj h
      rw [hasPair_reserved n taken hnew.1]
      simp
    | cons p above =>
      obtain ⟨rfl, htail⟩ := List.cons.inj h
      rw [ih _ hnew.2 htail]
      refine and_congr_right fun _ => forall₂_congr fun name _ => ?_
      rw [List.mem_append, mem_claims_iff, not_or, not_and, List.forall_mem_cons]
      tauto

/-- Only groups that lose their pair for a name are reported. -/
theorem of_mem_reserve {gs : List Group} {d : Diagnostic} (hd : d ∈ (reserve n taken gs).2) :
    ∃ g ∈ (reserve n taken gs).1, g.nameTaken = true ∧
      ∃ name, d = ⟨some g.entity, .nameExported name g.entity⟩ := by
  induction gs generalizing taken with
  | nil => simp [reserve_nil] at hd
  | cons x gs ih =>
    rw [reserve_cons] at hd ⊢
    rcases List.mem_append.1 hd with hd | hd
    · obtain ⟨name, hname, rfl⟩ := Option.map_eq_some_iff.1 (Option.mem_toList.1 hd)
      refine ⟨x.reserved n taken, List.mem_cons_self, ?_, name, ?_⟩
      · simp [Group.reserved, hname]
      · rw [entity_reserved]
    · obtain ⟨g, hg, hrest⟩ := ih _ hd
      exact ⟨g, List.mem_cons_of_mem _ hg, hrest⟩

/-- Every group that loses its pair for a name is reported. -/
theorem exists_mem_reserve {gs : List Group} (hnew : ∀ g ∈ gs, g.nameTaken = false) {g : Group}
    (hg : g ∈ (reserve n taken gs).1) (ht : g.nameTaken = true) :
    ∃ name, ⟨some g.entity, .nameExported name g.entity⟩ ∈ (reserve n taken gs).2 := by
  induction gs generalizing taken with
  | nil => simp [reserve_nil] at hg
  | cons x gs ih =>
    rw [List.forall_mem_cons] at hnew
    rw [reserve_cons] at hg ⊢
    rcases List.mem_cons.1 hg with rfl | hg
    · have hclash : x.clash? n taken ≠ none := by
        intro hnone
        rw [(nameTaken_reserved n taken hnew.1).2 hnone] at ht
        exact Bool.false_ne_true ht
      obtain ⟨name, hname⟩ := Option.ne_none_iff_exists'.1 hclash
      refine ⟨name, List.mem_append_left _ ?_⟩
      simp [hname, entity_reserved]
    · obtain ⟨name, hmem⟩ := ih _ hnew.2 hg
      exact ⟨name, List.mem_append_right _ hmem⟩

end Reserve

end SchemaGen.Entity
