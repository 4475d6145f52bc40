import Mathlib.Data.List.Basic
import Mathlib.Tactic.Common
import SchemaGen.Text.Case
import SchemaGen.Text.Pascal

namespace SchemaGen.Text

section Tables

theorem forall_ascii {P : Char → Prop} (h : ∀ n < 128, P (Char.ofNat n)) (c : Char)
    (hc : c.toNat < 128) : P c := by
  have hp := h c.toNat hc
  rwa [Char.ofNat_toNat] at hp

/-- A number in one list of ranges is in no list that overlaps with none of them. -/
theorem inRanges_eq_false (rs ss : List (Nat × Nat))
    (h : (rs.all fun r => ss.all fun s => r.2.blt s.1 || s.2.blt r.1) = true) {n : Nat}
    (hn : inRanges rs n = true) : inRanges ss n = false := by
  obtain ⟨r, hr, hin⟩ := List.any_eq_true.1 hn
  rw [Bool.and_eq_true, decide_eq_true_eq, decide_eq_true_eq] at hin
  rw [inRanges, List.any_eq_false]
  intro s hs hout
  rw [Bool.and_eq_true, decide_eq_true_eq, decide_eq_true_eq] at hout
  have hapart := List.all_eq_true.1 (List.all_eq_true.1 h r hr) s hs
  rw [Bool.or_eq_true, Nat.blt_eq, Nat.blt_eq] at hapart
  omega

variable {runs : List (Nat × Nat × Nat × Nat)} {special : List (Nat × List Nat)} {c : Char}

/-- What a character is mapped to comes from its entry among the special ones or from a run that it belongs
to, or it is the character itself. -/
theorem mapCase_cases (runs : List (Nat × Nat × Nat × Nat)) (special : List (Nat × List Nat))
    (c : Char) :
    (∃ e ∈ special, e.1 = c.toNat ∧ mapCase runs special c = e.2.map Char.ofNat) ∨
    (∃ r ∈ runs, r.1 ≤ c.toNat ∧ c.toNat ≤ r.2.1 ∧ (c.toNat - r.1) % r.2.2.1 = 0 ∧
      mapCase runs special c = [Char.ofNat (r.2.2.2 + (c.toNat - r.1))]) ∨
    mapCase runs special c = [c] := by
  unfold mapCase
  dsimp only
  split
  · next codes hlookup =>
    obtain ⟨before, after, rfl, -⟩ := List.lookup_eq_some_iff.1 hlookup
    exact .inl ⟨(c.toNat, codes), by simp, rfl, rfl⟩
  · split
    · next start stop step target hfind =>
      have hin := List.find?_some hfind
      simp only [Bool.and_eq_true, decide_eq_true_eq] at hin
      obtain ⟨⟨hfirst, hlast⟩, hstep⟩ := hin
      exact .inr (.inl ⟨_, List.mem_of_find?_eq_some hfind, hfirst, hlast, hstep, rfl⟩)
    · exact .inr (.inr rfl)

/-- A character outside of the tables of a case is mapped to itself. -/
theorem mapCase_eq_self (hr : inRanges (runs.map fun r => (r.1, r.2.1)) c.toNat = false)
    (hs : inRanges (special.map fun e => (e.1, e.1)) c.toNat = false) :
    mapCase runs special c = [c] := by
  rcases mapCase_cases runs special c with
    ⟨e, he, hcode, -⟩ | ⟨r, hrun, hfirst, hlast, -⟩ | heq
  · have hout := List.any_eq_false.1 hs (e.1, e.1) (List.mem_map_of_mem he)
    simp [hcode] at hout
  · have hout := List.any_eq_false.1 hr (r.1, r.2.1) (List.mem_map_of_mem hrun)
    simp [hfirst, hlast] at hout
  · exact heq

theorem toNat_ofNat (n : Nat) : (Char.ofNat n).toNat = if n.isValidChar then n else 0 := by
  by_cases h : n.isValidChar
  · have hvalid : Char.ofNat n = Char.ofNatAux n h := dif_pos h
    rw [hvalid, if_pos h]
    rfl
  · have hinvalid : Char.ofNat n = '\x00' := dif_neg h
    rw [hinvalid, if_neg h]
    rfl

/-- A number above those of the characters between words is that of none of them. -/
theorem not_isDelimiter_ofNat {n : Nat} (h : 95 < n) : Pascal.isDelimiter [Char.ofNat n] = false := by
  have hne (d : Char) (hlow : 0 < d.toNat) (hhigh : d.toNat ≤ 95) : Char.ofNat n ≠ d := by
    rintro rfl
    rw [toNat_ofNat] at hlow hhigh
    split_ifs at hlow hhigh <;> omega
  have hunderscore := hne '_' (by decide) (by decide)
  have hhyphen := hne '-' (by decide) (by decide)
  have hblank := hne ' ' (by decide) (by decide)
  simp [Pascal.isDelimiter, hunderscore, hhyphen, hblank]

/-- Whether a table of case maps to a character that does not stand between words always. -/
def keepsVisible (runs : List (Nat × Nat × Nat × Nat)) (special : List (Nat × List Nat)) : Bool :=
  (runs.all fun r => Nat.blt 95 r.2.2.2 ||
      r.1.beq r.2.1 && !Pascal.isDelimiter [Char.ofNat r.2.2.2]) &&
    special.all fun e => e.2.any fun n => !Pascal.isDelimiter [Char.ofNat n]

theorem exists_mem_mapCase (h : keepsVisible runs special = true)
    (hc : Pascal.isDelimiter [c] = false) :
    ∃ d ∈ mapCase runs special c, Pascal.isDelimiter [d] = false := by
  simp only [keepsVisible, Bool.and_eq_true, List.all_eq_true, Bool.or_eq_true, Nat.blt_eq, Nat.beq_eq,
    List.any_eq_true, Bool.not_eq_true'] at h
  obtain ⟨hr, hs⟩ := h
  rcases mapCase_cases runs special c with
    ⟨e, he, -, heq⟩ | ⟨r, hrun, hfirst, hlast, -, heq⟩ | heq
  · obtain ⟨n, hn, hvisible⟩ := hs e he
    rw [heq]
    exact ⟨Char.ofNat n, List.mem_map_of_mem hn, hvisible⟩
  · rw [heq]
    refine ⟨_, List.mem_singleton_self _, ?_⟩
    rcases hr r hrun with htarget | ⟨hone, htarget⟩
    · exact not_isDelimiter_ofNat (by omega)
    · have hzero : c.toNat - r.1 = 0 := by omega
      rwa [hzero, Nat.add_zero]
  · rw [heq]
    exact ⟨c, List.mem_singleton_self c, hc⟩

theorem tables_keepVisible :
    keepsVisible upperRuns upperSpecial = true ∧ keepsVisible lowerRuns lowerSpecial = true := by
  decide +kernel

/-- What a change of case does to the ASCII letters, and that it makes no delimiter. -/
theorem ascii_case (c : Char) (hc : c.toNat < 128) :
    (c.isUpper = true → upperChar c = [c] ∧ c.toLower ≠ c) ∧
    (c.isLower = true → lowerChar c = [c] ∧ isUpper [c] = false ∧ isLower [c] = true) ∧
    (Pascal.isDelimiter [c] = false →
      Pascal.isDelimiter [c.toUpper] = false ∧ Pascal.isDelimiter [c.toLower] = false) := by
  refine forall_ascii (P := fun c =>
    (c.isUpper = true → upperChar c = [c] ∧ c.toLower ≠ c) ∧
    (c.isLower = true → lowerChar c = [c] ∧ isUpper [c] = false ∧ isLower [c] = true) ∧
    (Pascal.isDelimiter [c] = false →
      Pascal.isDelimiter [c.toUpper] = false ∧ Pascal.isDelimiter [c.toLower] = false)) ?_ c hc
  decide +kernel

theorem exists_mem_upperChar (hc : Pascal.isDelimiter [c] = false) :
    ∃ d ∈ upperChar c, Pascal.isDelimiter [d] = false := by
  unfold upperChar
  split_ifs with hascii
  · exact ⟨_, List.mem_singleton_self _, ((ascii_case c hascii).2.2 hc).1⟩
  · exact exists_mem_mapCase tables_keepVisible.1 hc

theorem exists_mem_lowerChar (hc : Pascal.isDelimiter [c] = false) :
    ∃ d ∈ lowerChar c, Pascal.isDelimiter [d] = false := by
  unfold lowerChar
  split_ifs with hascii
  · exact ⟨_, List.mem_singleton_self _, ((ascii_case c hascii).2.2 hc).2⟩
  · exact exists_mem_mapCase tables_keepVisible.2 hc

end Tables

section Letters

variable {c : Char} {cs : List Char}

theorem toNat_of_isUpper (h : c.isUpper = true) : 65 ≤ c.toNat ∧ c.toNat ≤ 90 := by
  have hrange : c.val ≥ 'A'.val ∧ c.val ≤ 'Z'.val := of_decide_eq_true h
  simpa [UInt32.le_iff_toNat_le] using hrange

theorem toNat_of_isLower (h : c.isLower = true) : 97 ≤ c.toNat ∧ c.toNat ≤ 122 := by
  have hrange : (c.val ≥ 'a'.val && c.val ≤ 'z'.val) = true := h
  simpa [UInt32.le_iff_toNat_le] using hrange

theorem lt_of_isUpper (h : c.isUpper = true) : c.toNat < 128 := by
  have hrange := toNat_of_isUpper h
  omega

theorem lt_of_isLower (h : c.isLower = true) : c.toNat < 128 := by
  have hrange := toNat_of_isLower h
  omega

theorem upperChar_of_isUpper (h : c.isUpper = true) : upperChar c = [c] :=
  ((ascii_case c (lt_of_isUpper h)).1 h).1

theorem lowerChar_of_isUpper (h : c.isUpper = true) : lowerChar c = [c.toLower] := by
  rw [lowerChar, if_pos (lt_of_isUpper h)]

theorem toLower_ne_of_isUpper (h : c.isUpper = true) : c.toLower ≠ c :=
  ((ascii_case c (lt_of_isUpper h)).1 h).2

theorem lowerChar_of_isLower (h : c.isLower = true) : lowerChar c = [c] :=
  ((ascii_case c (lt_of_isLower h)).2.1 h).1

/-- The lower case of a text hangs on what stands before it only by what it begins with. -/
theorem lowerAfter_append (before cs ds : List Char) :
    ∃ done, lowerAfter before (cs ++ ds) = done ++ lowerAfter (cs.reverse ++ before) ds := by
  induction cs generalizing before with
  | nil => exact ⟨[], rfl⟩
  | cons c cs ih =>
    obtain ⟨done, hdone⟩ := ih (c :: before)
    rw [List.cons_append, lowerAfter, hdone, List.reverse_cons, List.append_assoc,
      List.singleton_append]
    exact ⟨_, (List.append_assoc _ _ _).symm⟩

/-- A change to lower case leaves something of a text that has more than delimiters in it. -/
theorem exists_mem_lower (hc : c ∈ cs) (hd : Pascal.isDelimiter [c] = false) :
    ∃ d ∈ lower cs, Pascal.isDelimiter [d] = false := by
  obtain ⟨before, after, rfl⟩ := List.append_of_mem hc
  obtain ⟨done, hdone⟩ := lowerAfter_append [] before (c :: after)
  rw [lower, hdone, lowerAfter]
  split_ifs
  · exact ⟨'ς', by simp, by decide⟩
  · exact ⟨'σ', by simp, by decide⟩
  · obtain ⟨d, hmem, hvisible⟩ := exists_mem_lowerChar hd
    exact ⟨d, by simp [hmem], hvisible⟩

theorem lowerAfter_cons (hc : c ≠ 'Σ') (before : List Char) :
    lowerAfter before (c :: cs) = lowerChar c ++ lowerAfter (c :: before) cs := by
  rw [lowerAfter, if_neg hc]

theorem lowerAfter_of_isLower (hcs : ∀ c ∈ cs, c.isLower = true) (before : List Char) :
    lowerAfter before cs = cs := by
  induction cs generalizing before with
  | nil => rfl
  | cons c cs ih =>
    rw [List.forall_mem_cons] at hcs
    have hsigma : c ≠ 'Σ' := by
      rintro rfl
      exact absurd hcs.1 (by decide)
    rw [lowerAfter_cons hsigma, lowerChar_of_isLower hcs.1, ih hcs.2, List.singleton_append]

theorem lowerAfter_capital (hc : c.isUpper = true) (hcs : ∀ d ∈ cs, d.isLower = true)
    (before : List Char) : lowerAfter before (c :: cs) = c.toLower :: cs := by
  have hsigma : c ≠ 'Σ' := by
    rintro rfl
    exact absurd hc (by decide)
  rw [lowerAfter_cons hsigma, lowerChar_of_isUpper hc, lowerAfter_of_isLower hcs,
    List.singleton_append]

theorem isUpper_singleton (h : c.isLower = true) : isUpper [c] = false :=
  ((ascii_case c (lt_of_isLower h)).2.1 h).2.1

theorem isLower_singleton (h : c.isLower = true) : isLower [c] = true :=
  ((ascii_case c (lt_of_isLower h)).2.1 h).2.2

theorem isLower_of_isUpper (h : isUpper cs = true) : isLower cs = false := by
  rw [isUpper, Bool.and_eq_true, bne_iff_ne, beq_iff_eq] at h
  rw [isLower, Bool.and_eq_false_iff, beq_eq_false_iff_ne]
  exact .inr fun hlower => h.1 (h.2.symm.trans hlower)

end Letters

end SchemaGen.Text
