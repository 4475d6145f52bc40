import Mathlib.Data.Fin.Tuple.Basic
import Mathlib.Data.List.FinRange
import Mathlib.Data.List.Nodup
import Mathlib.Tactic.Common
import Mathlib.Tactic.SplitIfs
import SchemaGen.Database.Selection

namespace SchemaGen.Database

variable (o : Options)

theorem select_sublist (kept : List (String × String)) (cs : List Candidate) :
    (o.select kept cs).1.Sublist cs := by
  induction cs generalizing kept with
  | nil => exact List.Sublist.refl []
  | cons c cs ih =>
    unfold Options.select
    dsimp only
    split_ifs
    · split
      · exact (ih kept).cons c
      · exact (ih _).cons_cons c
    · exact (ih kept).cons c

/-- The identifiers of what is kept are different, and they are none of those kept before. -/
theorem nodup_select (kept : List (String × String)) (cs : List Candidate) :
    ((o.select kept cs).1.map (o.naming.schemaName ·.name)).Nodup ∧
      ∀ c ∈ (o.select kept cs).1, o.naming.schemaName c.name ∉ kept.map (·.1) := by
  induction cs generalizing kept with
  | nil => simp [Options.select]
  | cons c cs ih =>
    unfold Options.select
    dsimp only
    split_ifs
    · split
      · exact ih kept
      · next hlookup =>
        obtain ⟨hnodup, hfresh⟩ := ih ((o.naming.schemaName c.name, c.name) :: kept)
        have hnew : o.naming.schemaName c.name ∉ kept.map (·.1) := by
          intro hmem
          obtain ⟨e, he, heq⟩ := List.mem_map.1 hmem
          have hne := List.lookup_eq_none_iff.1 hlookup e he
          simp [heq] at hne
        refine ⟨List.nodup_cons.2 ⟨?_, hnodup⟩, List.forall_mem_cons.2 ⟨hnew, ?_⟩⟩
        · intro hmem
          obtain ⟨d, hd, heq⟩ := List.mem_map.1 hmem
          exact hfresh d hd (by simp [heq])
        · intro d hd hmem
          exact hfresh d hd (List.mem_cons_of_mem _ hmem)
    · exact ih kept

theorem eq_of_mem_select {kept : List (String × String)} {cs : List Candidate} {a b : Candidate}
    (ha : a ∈ (o.select kept cs).1) (hb : b ∈ (o.select kept cs).1) (hname : a.name = b.name) :
    a = b := by
  have hnodup := (nodup_select o kept cs).1
  exact List.inj_on_of_nodup_map hnodup ha hb (by rw [hname])

def Options.identifier (c : Candidate) : String := o.naming.schemaName c.name

/-- The notice that a candidate is dropped because its identifier is that of another. -/
def Options.clash (c : Candidate) (first : String) : Diagnostic :=
  ⟨some c.name, .identifierUsed (o.identifier c) first⟩

section Positions

variable {cs : List Candidate}

def marked (cs : List Candidate) (p : Fin cs.length → Bool) : List Candidate :=
  ((List.finRange cs.length).filter p).map (cs[·])

/-- The positions of the candidates that are wanted but not marked. -/
def Options.droppedBut (cs : List Candidate) (p : Fin cs.length → Bool) : List (Fin cs.length) :=
  (List.finRange cs.length).filter fun i => o.wants cs[i] && !p i

theorem filter_finRange_cons {n : ℕ} (p : Fin (n + 1) → Bool) :
    (List.finRange (n + 1)).filter p =
      (if p 0 then [0] else []) ++ ((List.finRange n).filter fun i => p i.succ).map Fin.succ := by
  rw [List.finRange_succ, List.filter_cons, List.filter_map]
  split_ifs <;> rfl

theorem marked_cons (c : Candidate) (p : Fin (c :: cs).length → Bool) :
    marked (c :: cs) p = (if p 0 then [c] else []) ++ marked cs fun i => p i.succ := by
  have hpositions := filter_finRange_cons (n := cs.length) p
  rw [marked]
  refine (congrArg (List.map ((c :: cs)[·])) hpositions).trans ?_
  rw [List.map_append, List.map_map, marked]
  split_ifs <;> rfl

theorem droppedBut_cons (c : Candidate) (p : Fin (c :: cs).length → Bool) :
    o.droppedBut (c :: cs) p =
      (if o.wants c && !p 0 then [0] else []) ++ (o.droppedBut cs fun i => p i.succ).map Fin.succ :=
  filter_finRange_cons (n := cs.length) fun i => o.wants (c :: cs)[i] && !p i

end Positions

/-- A choice of candidates by their positions, behind those kept before: the wanted ones with an identifier that
none chosen in front has. Each other one that is wanted gets a notice, with the name of the one chosen in front. -/
structure Options.Chooses (kept : List (String × String)) (cs : List Candidate)
    (chosen : Fin cs.length → Bool) : Prop where
  chosen_iff : ∀ i, chosen i = true ↔ o.wants cs[i] = true ∧ kept.lookup (o.identifier cs[i]) = none ∧
    ∀ j < i, chosen j = true → o.identifier cs[j] ≠ o.identifier cs[i]
  selected : (o.select kept cs).1 = marked cs chosen
  reported : List.Forall₂ (fun i d => ∃ first, d = o.clash cs[i] first ∧
      (kept.lookup (o.identifier cs[i]) = some first ∨ ∃ j < i, chosen j = true ∧
        o.identifier cs[j] = o.identifier cs[i] ∧ cs[j].name = first))
    (o.droppedBut cs chosen) (o.select kept cs).2

variable {o} {kept : List (String × String)} {c : Candidate} {cs : List Candidate}

theorem select_of_unwanted (h : o.wants c = false) : o.select kept (c :: cs) = o.select kept cs := by
  rw [Options.select, if_neg (by simp [h])]

theorem select_of_used {first : String} (h : o.wants c = true)
    (hused : kept.lookup (o.identifier c) = some first) :
    o.select kept (c :: cs) = ((o.select kept cs).1, o.clash c first :: (o.select kept cs).2) := by
  rw [Options.identifier] at hused
  simp only [Options.select, if_pos h, hused]
  rfl

theorem select_of_fresh (h : o.wants c = true) (hfresh : kept.lookup (o.identifier c) = none) :
    o.select kept (c :: cs) =
      (c :: (o.select ((o.identifier c, c.name) :: kept) cs).1,
        (o.select ((o.identifier c, c.name) :: kept) cs).2) := by
  rw [Options.identifier] at hfresh ⊢
  simp only [Options.select, if_pos h, hfresh]

theorem lookup_cons_eq_ite (key name identifier : String) :
    ((key, name) :: kept).lookup identifier = if identifier = key then some name else kept.lookup identifier := by
  rw [List.lookup_cons]
  by_cases h : identifier = key
  · simp [h]
  · rw [beq_false_of_ne h, if_neg h]

theorem Options.Chooses.skip {chosen : Fin cs.length → Bool} (h : o.Chooses kept cs chosen)
    (hskip : o.wants c = false ∨ ∃ first, kept.lookup (o.identifier c) = some first) :
    o.Chooses kept (c :: cs) (Fin.cons false chosen) where
  chosen_iff := by
    refine Fin.cases ?_ fun i => ?_
    · refine iff_of_false (by simp) fun ⟨hwants, hnone, _⟩ => ?_
      have hwants' : o.wants c = true := hwants
      have hnone' : kept.lookup (o.identifier c) = none := hnone
      rcases hskip with hskip | ⟨first, hfirst⟩
      · rw [hwants'] at hskip
        cases hskip
      · rw [hnone'] at hfirst
        cases hfirst
    · simpa [Fin.forall_fin_succ] using h.chosen_iff i
  selected := by
    have hselect : (o.select kept (c :: cs)).1 = (o.select kept cs).1 := by
      cases hwants : o.wants c with
      | false => rw [select_of_unwanted hwants]
      | true =>
        obtain ⟨first, hfirst⟩ := hskip.resolve_left (by simp [hwants])
        rw [select_of_used hwants hfirst]
    rw [hselect, h.selected, marked_cons]
    rfl
  reported := by
    have htail := h.reported
    rw [droppedBut_cons]
    cases hwants : o.wants c with
    | false =>
      rw [select_of_unwanted hwants]
      refine List.forall₂_map_left_iff.2 (htail.imp fun i d hd => ?_)
      simpa [Fin.exists_fin_succ] using hd
    | true =>
      obtain ⟨first, hfirst⟩ := hskip.resolve_left (by simp [hwants])
      rw [select_of_used hwants hfirst]
      refine .cons ⟨first, rfl, .inl hfirst⟩ (List.forall₂_map_left_iff.2 (htail.imp fun i d hd => ?_))
      simpa [Fin.exists_fin_succ] using hd

theorem Options.Chooses.keep {chosen : Fin cs.length → Bool}
    (h : o.Chooses ((o.identifier c, c.name) :: kept) cs chosen) (hwants : o.wants c = true)
    (hfresh : kept.lookup (o.identifier c) = none) :
    o.Chooses kept (c :: cs) (Fin.cons true chosen) where
  chosen_iff := by
    refine Fin.cases ?_ fun i => ?_
    · exact iff_of_true rfl ⟨hwants, hfresh, fun j hj => absurd hj (Fin.not_lt_zero j)⟩
    · constructor
      · intro hchosen
        obtain ⟨hwanted, hnone, hbefore⟩ := (h.chosen_iff i).1 hchosen
        rw [lookup_cons_eq_ite] at hnone
        split_ifs at hnone with hsame
        refine ⟨hwanted, hnone, Fin.cases (fun _ _ heq => hsame heq.symm) fun j hj hchosen => ?_⟩
        exact hbefore j (Fin.succ_lt_succ_iff.1 hj) hchosen
      · rintro ⟨hwanted, hnone, hbefore⟩
        have hother : o.identifier c ≠ o.identifier cs[i] := hbefore 0 (Fin.succ_pos i) rfl
        refine (h.chosen_iff i).2 ⟨hwanted, ?_, fun j hj hchosen => ?_⟩
        · rw [lookup_cons_eq_ite, if_neg hother.symm]
          exact hnone
        · exact hbefore j.succ (Fin.succ_lt_succ_iff.2 hj) hchosen
  selected := by
    rw [select_of_fresh hwants hfresh, h.selected, marked_cons]
    rfl
  reported := by
    have htail := h.reported
    rw [droppedBut_cons, select_of_fresh hwants hfresh, hwants]
    refine List.forall₂_map_left_iff.2 (htail.imp fun i d hd => ?_)
    obtain ⟨first, rfl, hfirst | ⟨j, hj, hchosen, hsame, hname⟩⟩ := hd
    · refine ⟨first, rfl, ?_⟩
      rw [lookup_cons_eq_ite] at hfirst
      split_ifs at hfirst with hsame
      · exact .inr ⟨0, Fin.succ_pos i, rfl, hsame.symm, Option.some.inj hfirst⟩
      · exact .inl hfirst
    · exact ⟨first, rfl, .inr ⟨j.succ, Fin.succ_lt_succ_iff.2 hj, hchosen, hsame, hname⟩⟩

theorem exists_chooses (kept : List (String × String)) (cs : List Candidate) :
    ∃ chosen, o.Chooses kept cs chosen := by
  induction cs generalizing kept with
  | nil => exact ⟨fun _ => false, fun i => i.elim0, rfl, .nil⟩
  | cons c cs ih =>
    cases hwants : o.wants c with
    | false =>
      obtain ⟨chosen, h⟩ := ih kept
      exact ⟨_, h.skip (.inl hwants)⟩
    | true =>
      cases hlookup : kept.lookup (o.identifier c) with
      | some first =>
        obtain ⟨chosen, h⟩ := ih kept
        exact ⟨_, h.skip (.inr ⟨first, hlookup⟩)⟩
      | none =>
        obtain ⟨chosen, h⟩ := ih ((o.identifier c, c.name) :: kept)
        exact ⟨_, h.keep hwants hlookup⟩

theorem select_filter_wants (kept : List (String × String)) (cs : List Candidate) :
    o.select kept (cs.filter o.wants) = o.select kept cs := by
  induction cs generalizing kept with
  | nil => rfl
  | cons c cs ih =>
    cases hwants : o.wants c with
    | false => rw [List.filter_cons_of_neg (by simp [hwants]), select_of_unwanted hwants, ih]
    | true =>
      rw [List.filter_cons_of_pos hwants]
      cases hlookup : kept.lookup (o.identifier c) with
      | some first => rw [select_of_used hwants hlookup, select_of_used hwants hlookup, ih]
      | none => rw [select_of_fresh hwants hlookup, select_of_fresh hwants hlookup, ih]

/-- A selection keeps in order the wanted candidates whose identifier is that of no kept one in front. Each other
wanted one adds one notice, which names the kept one with its identifier. What is not wanted makes no difference,
and the source and the names that are handed on are those of the kept ones. -/
theorem selected_firstOfIdentifier (o : Options) (f : Flattened) :
    let cs := f.candidates
    ∃ chosen : Fin cs.length → Bool,
      (∀ i, chosen i = true ↔ o.wants cs[i] = true ∧
        ∀ j < i, chosen j = true → o.identifier cs[j] ≠ o.identifier cs[i]) ∧
      (o.selected f).declarations = (marked cs chosen).map (·.name) ∧
      (o.selected f).source = "\n\n".intercalate ((marked cs chosen).map (·.text)) ++ "\n" ∧
      ((marked cs chosen).map o.identifier).Nodup ∧
      (∃ notices, (o.selected f).diagnostics = f.diagnostics ++ notices ∧
        List.Forall₂ (fun i d => ∃ j < i, chosen j = true ∧ o.identifier cs[j] = o.identifier cs[i] ∧
          d = o.clash cs[i] cs[j].name) (o.droppedBut cs chosen) notices) ∧
      o.selected ⟨cs.filter o.wants, f.diagnostics⟩ = o.selected f := by
  intro cs
  obtain ⟨chosen, h⟩ := exists_chooses (o := o) [] cs
  refine ⟨chosen, fun i => ?_, ?_, ?_, ?_, ⟨(o.select [] cs).2, rfl, ?_⟩, ?_⟩
  · simpa using h.chosen_iff i
  · rw [← h.selected]
    rfl
  · rw [← h.selected]
    rfl
  · rw [← h.selected]
    exact (nodup_select o [] cs).1
  · refine h.reported.imp fun i d => ?_
    rintro ⟨first, rfl, hnone | ⟨j, hj, hchosen, hsame, rfl⟩⟩
    · simp at hnone
    · exact ⟨j, hj, hchosen, hsame, rfl⟩
  · have hsame := select_filter_wants (o := o) [] f.candidates
    simp only [Options.selected, cs, hsame]

end SchemaGen.Database
