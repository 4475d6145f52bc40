import SchemaGen.Proofs.Text.Pascal
import SchemaGen.Proofs.TypeScript.Identifier

namespace SchemaGen.TypeScript

/-! ### Ranges of characters that identifiers can have -/

/-- Whether one of some ranges holds all the numbers from one to another. -/
def spanned (ranges : List (Nat × Nat)) (first last : Nat) : Bool :=
  ranges.any fun r => r.1.ble first && last.ble r.2

/-- Whether identifiers can have all the characters with the numbers from one to another: they are those of
words, and none of them encloses others. -/
def isPartRange (first last : Nat) : Bool :=
  spanned Text.wordRanges first last &&
    enclosureRanges.all fun r => last.blt r.1 || r.2.blt first

theorem exists_of_spanned {ranges : List (Nat × Nat)} {first last n : Nat}
    (h : spanned ranges first last = true) (hfirst : first ≤ n) (hlast : n ≤ last) :
    ∃ r ∈ ranges, r.1 ≤ n ∧ n ≤ r.2 := by
  obtain ⟨r, hr, hin⟩ := List.any_eq_true.1 h
  rw [Bool.and_eq_true, Nat.ble_eq, Nat.ble_eq] at hin
  exact ⟨r, hr, by omega, by omega⟩

theorem inRanges_of_spanned {ranges : List (Nat × Nat)} {first last n : Nat}
    (h : spanned ranges first last = true) (hfirst : first ≤ n) (hlast : n ≤ last) :
    Text.inRanges ranges n = true := by
  obtain ⟨r, hr, hlow, hhigh⟩ := exists_of_spanned h hfirst hlast
  exact List.any_eq_true.2 ⟨r, hr, by simp [hlow, hhigh]⟩

/-- Whether the numbers from one to another are those of characters beyond ASCII. -/
def isBeyondAscii (first last : Nat) : Bool :=
  Nat.ble 128 first && last.blt 0xD800 || Nat.blt 0xDFFF first && last.blt 0x110000

theorem isValidChar_of_isBeyondAscii {first last n : Nat} (h : isBeyondAscii first last = true)
    (hfirst : first ≤ n) (hlast : n ≤ last) : 128 ≤ n ∧ n.isValidChar := by
  simp only [isBeyondAscii, Bool.or_eq_true, Bool.and_eq_true, Nat.ble_eq, Nat.blt_eq] at h
  rcases h with ⟨hlow, hhigh⟩ | ⟨hlow, hhigh⟩
  · exact ⟨by omega, .inl (by omega)⟩
  · exact ⟨by omega, .inr ⟨by omega, by omega⟩⟩

theorem isValidChar_of_spanned {ranges : List (Nat × Nat)}
    (hranges : ranges.all (fun r => isBeyondAscii r.1 r.2) = true) {first last n : Nat}
    (h : spanned ranges first last = true) (hfirst : first ≤ n) (hlast : n ≤ last) :
    128 ≤ n ∧ n.isValidChar := by
  obtain ⟨r, hr, hlow, hhigh⟩ := exists_of_spanned h hfirst hlast
  exact isValidChar_of_isBeyondAscii (List.all_eq_true.1 hranges r hr) hlow hhigh

theorem isIdentifierPart_of_isPartRange {first last n : Nat} (h : isPartRange first last = true)
    (hfirst : first ≤ n) (hlast : n ≤ last) : n.isValidChar ∧ isIdentifierPart n = true := by
  rw [isPartRange, Bool.and_eq_true] at h
  obtain ⟨hlarge, hvalid⟩ := isValidChar_of_spanned (by decide +kernel) h.1 hfirst hlast
  have hword := inRanges_of_spanned h.1 hfirst hlast
  have hopen : Text.inRanges enclosureRanges n = false := by
    rw [Text.inRanges, List.any_eq_false]
    intro r hr
    have hapart := List.all_eq_true.1 h.2 r hr
    rw [Bool.or_eq_true, Nat.blt_eq, Nat.blt_eq] at hapart
    rw [Bool.and_eq_true, decide_eq_true_eq, decide_eq_true_eq]
    omega
  exact ⟨hvalid, by rw [isIdentifierPart, if_neg (by omega), hword, hopen]; rfl⟩

theorem not_isIdentifierPart_of_spanned {first last n : Nat}
    (h : spanned enclosureRanges first last = true) (hfirst : first ≤ n) (hlast : n ≤ last) :
    n.isValidChar ∧ isIdentifierPart n = false := by
  obtain ⟨hlarge, hvalid⟩ := isValidChar_of_spanned (by decide) h hfirst hlast
  have henclosed := inRanges_of_spanned h hfirst hlast
  have hsign := Text.inRanges_eq_false enclosureRanges signRanges (by decide) henclosed
  exact ⟨hvalid, by rw [isIdentifierPart, if_neg (by omega), henclosed, hsign]; simp⟩

/-! ### Ranges of letters with two cases -/

/-- The ranges of words in which there are letters with two cases, or characters that such letters become. -/
def twoCaseRanges : List (Nat × Nat) :=
  [(0xB5, 0xB5), (0xC0, 0xD6), (0xD8, 0xF6), (0xF8, 0x2C1), (0x300, 0x374), (0x376, 0x377),
   (0x37A, 0x37D), (0x37F, 0x37F), (0x386, 0x386), (0x388, 0x38A), (0x38C, 0x38C), (0x38E, 0x3A1),
   (0x3A3, 0x3F5), (0x3F7, 0x481), (0x483, 0x52F), (0x531, 0x556), (0x560, 0x588), (0x10A0, 0x10C5),
   (0x10C7, 0x10C7), (0x10CD, 0x10CD), (0x10D0, 0x10FA), (0x10FC, 0x1248), (0x13A0, 0x13F5),
   (0x13F8, 0x13FD), (0x1C80, 0x1C8A), (0x1C90, 0x1CBA), (0x1CBD, 0x1CBF), (0x1D00, 0x1F15),
   (0x1F18, 0x1F1D), (0x1F20, 0x1F45), (0x1F48, 0x1F4D), (0x1F50, 0x1F57), (0x1F5F, 0x1F7D),
   (0x1F80, 0x1FB4), (0x1FB6, 0x1FBC), (0x1FBE, 0x1FBE), (0x1FC2, 0x1FC4), (0x1FC6, 0x1FCC),
   (0x1FD0, 0x1FD3), (0x1FD6, 0x1FDB), (0x1FE0, 0x1FEC), (0x1FF2, 0x1FF4), (0x1FF6, 0x1FFC),
   (0x2126, 0x2126), (0x212A, 0x212D), (0x212F, 0x2139), (0x214E, 0x214E), (0x2160, 0x2188),
   (0x2C00, 0x2CE4), (0x2CEB, 0x2CF3), (0x2D00, 0x2D25), (0x2D27, 0x2D27), (0x2D2D, 0x2D2D),
   (0xA640, 0xA672), (0xA67F, 0xA6F1), (0xA722, 0xA788), (0xA78B, 0xA7DC), (0xA7F1, 0xA827),
   (0xAB30, 0xAB5A), (0xAB70, 0xABEA), (0xFB00, 0xFB06), (0xFB13, 0xFB17), (0xFF21, 0xFF3A),
   (0xFF41, 0xFF5A), (0x10400, 0x1049D), (0x104B0, 0x104D3), (0x104D8, 0x104FB), (0x10570, 0x1057A),
   (0x1057C, 0x1058A), (0x1058C, 0x10592), (0x10594, 0x10595), (0x10597, 0x105A1),
   (0x105A3, 0x105B1), (0x105B3, 0x105B9), (0x105BB, 0x105BC), (0x10C80, 0x10CB2),
   (0x10CC0, 0x10CF2), (0x10D40, 0x10D65), (0x10D6F, 0x10D85), (0x118A0, 0x118E9),
   (0x16E40, 0x16E7F), (0x16EA0, 0x16EB8), (0x16EBB, 0x16ED3), (0x1E900, 0x1E94B)]

/-- As `isPartRange`, but the characters are looked for in the ranges of letters with two cases only. -/
def isTwoCaseRange (first last : Nat) : Bool :=
  spanned twoCaseRanges first last && enclosureRanges.all fun r => last.blt r.1 || r.2.blt first

theorem isPartRange_of_isTwoCaseRange {first last : Nat} (h : isTwoCaseRange first last = true) :
    isPartRange first last = true := by
  have hsublist : twoCaseRanges.Sublist Text.wordRanges := by decide +kernel
  rw [isTwoCaseRange, Bool.and_eq_true] at h
  rw [isPartRange, Bool.and_eq_true]
  obtain ⟨r, hr, hin⟩ := List.any_eq_true.1 h.1
  exact ⟨List.any_eq_true.2 ⟨r, hsublist.subset hr, hin⟩, h.2⟩

/-! ### Changes of case -/

/-- Whether a run of characters and what they are mapped to can be had by identifiers alike. -/
def keepsParts (r : Nat × Nat × Nat × Nat) : Bool :=
  let last := r.2.2.2 + (r.2.1 - r.1)
  isPartRange r.1 r.2.1 && isPartRange r.2.2.2 last ||
    spanned enclosureRanges r.1 r.2.1 && spanned enclosureRanges r.2.2.2 last ||
    (List.range (r.2.1 - r.1 + 1)).all fun k => k % r.2.2.1 ≠ 0 ||
      (r.2.2.2 + k).isValidChar && isIdentifierPart (r.1 + k) == isIdentifierPart (r.2.2.2 + k)

theorem isIdentifierPart_run {r : Nat × Nat × Nat × Nat} (h : keepsParts r = true) {n : Nat}
    (hfirst : r.1 ≤ n) (hlast : n ≤ r.2.1) (hstep : (n - r.1) % r.2.2.1 = 0) :
    isIdentifierPart (Char.ofNat (r.2.2.2 + (n - r.1))).toNat = isIdentifierPart n := by
  simp only [keepsParts, Bool.or_eq_true, Bool.and_eq_true] at h
  rw [Text.toNat_ofNat]
  rcases h with (⟨hsource, htarget⟩ | ⟨hsource, htarget⟩) | hall
  · obtain ⟨-, hn⟩ := isIdentifierPart_of_isPartRange hsource hfirst hlast
    obtain ⟨hvalid, hm⟩ := isIdentifierPart_of_isPartRange htarget
      (Nat.le_add_right _ (n - r.1)) (by omega)
    rw [if_pos hvalid, hn, hm]
  · obtain ⟨-, hn⟩ := not_isIdentifierPart_of_spanned hsource hfirst hlast
    obtain ⟨hvalid, hm⟩ := not_isIdentifierPart_of_spanned htarget
      (Nat.le_add_right _ (n - r.1)) (by omega)
    rw [if_pos hvalid, hn, hm]
  · have hk := List.all_eq_true.1 hall (n - r.1) (by rw [List.mem_range]; omega)
    simp only [hstep, ne_eq, not_true_eq_false, decide_false, Bool.false_or, Bool.and_eq_true,
      decide_eq_true_eq, beq_iff_eq] at hk
    rw [if_pos hk.1, ← hk.2, Nat.add_sub_cancel' hfirst]

/-- Whether the special characters of a table of case and what they are mapped to can be had by
identifiers. -/
def keepsSpecial (special : List (Nat × List Nat)) : Bool :=
  special.all fun e => isPartRange e.1 e.1 &&
    e.2.all fun n => isPartRange n n || n.blt 128 && (Char.ofNat n).isAlpha

variable {runs : List (Nat × Nat × Nat × Nat)} {special : List (Nat × List Nat)} {c d : Char}

theorem isIdentifierPart_of_isAlpha (h : c.isAlpha = true) : isIdentifierPart c.toNat = true := by
  have hsmall : c.toNat < 128 := by
    rcases Bool.or_eq_true_iff.1 h with h | h
    · exact Text.lt_of_isUpper h
    · exact Text.lt_of_isLower h
  rw [isIdentifierPart, if_pos hsmall, Char.ofNat_toNat, isIdentifierLetter, h]
  rfl

/-- Most runs of a table are in the ranges of letters with two cases, so only the others are looked at one
by one. -/
theorem all_keepsParts (h : (runs.all fun r => isTwoCaseRange r.1 r.2.1 &&
    isTwoCaseRange r.2.2.2 (r.2.2.2 + (r.2.1 - r.1)) || keepsParts r) = true) :
    runs.all keepsParts = true := by
  rw [List.all_eq_true] at h ⊢
  intro r hr
  rcases Bool.or_eq_true_iff.1 (h r hr) with hcased | hkeeps
  · rw [Bool.and_eq_true] at hcased
    simp [keepsParts, isPartRange_of_isTwoCaseRange hcased.1, isPartRange_of_isTwoCaseRange hcased.2]
  · exact hkeeps

theorem keepsSpecial_of_isTwoCaseRange (h : (special.all fun e => isTwoCaseRange e.1 e.1 &&
    e.2.all fun n => isTwoCaseRange n n || n.blt 128 && (Char.ofNat n).isAlpha) = true) :
    keepsSpecial special = true := by
  rw [keepsSpecial, List.all_eq_true]
  rw [List.all_eq_true] at h
  intro e he
  have hentry := h e he
  rw [Bool.and_eq_true, List.all_eq_true] at hentry ⊢
  refine ⟨isPartRange_of_isTwoCaseRange hentry.1, fun n hn => ?_⟩
  rcases Bool.or_eq_true_iff.1 (hentry.2 n hn) with hcased | hletter
  · rw [isPartRange_of_isTwoCaseRange hcased, Bool.true_or]
  · rw [hletter, Bool.or_true]

/-- Tables that pass the checks map characters that identifiers can have to such characters, and others to
others. -/
theorem isIdentifierPart_mapCase (hr : runs.all keepsParts = true)
    (hs : keepsSpecial special = true) (hd : d ∈ Text.mapCase runs special c) :
    isIdentifierPart d.toNat = isIdentifierPart c.toNat := by
  rcases Text.mapCase_cases runs special c with
    ⟨e, he, hcode, heq⟩ | ⟨r, hrun, hfirst, hlast, hstep, heq⟩ | heq
  · rw [heq] at hd
    obtain ⟨n, hn, rfl⟩ := List.mem_map.1 hd
    have hentry := List.all_eq_true.1 hs e he
    rw [Bool.and_eq_true, hcode] at hentry
    rw [(isIdentifierPart_of_isPartRange hentry.1 (Nat.le_refl _) (Nat.le_refl _)).2]
    have hcodes := List.all_eq_true.1 hentry.2 n hn
    rw [Bool.or_eq_true, Bool.and_eq_true] at hcodes
    rcases hcodes with hrange | ⟨-, hletter⟩
    · obtain ⟨hvalid, hpart⟩ := isIdentifierPart_of_isPartRange hrange (Nat.le_refl _) (Nat.le_refl _)
      rw [Text.toNat_ofNat, if_pos hvalid, hpart]
    · exact isIdentifierPart_of_isAlpha hletter
  · rw [heq, List.mem_singleton] at hd
    rw [hd]
    exact isIdentifierPart_run (List.all_eq_true.1 hr r hrun) hfirst hlast hstep
  · rw [heq, List.mem_singleton] at hd
    rw [hd]

theorem tables_keepParts :
    (Text.upperRuns.all keepsParts = true ∧ keepsSpecial Text.upperSpecial = true) ∧
      Text.lowerRuns.all keepsParts = true ∧ keepsSpecial Text.lowerSpecial = true := by
  refine .imp (.imp all_keepsParts keepsSpecial_of_isTwoCaseRange)
    (.imp all_keepsParts keepsSpecial_of_isTwoCaseRange) ?_
  decide +kernel

theorem isIdentifierPart_ascii (hc : c.toNat < 128) :
    isIdentifierPart c.toUpper.toNat = isIdentifierPart c.toNat ∧
      isIdentifierPart c.toLower.toNat = isIdentifierPart c.toNat := by
  refine Text.forall_ascii (P := fun c =>
    isIdentifierPart c.toUpper.toNat = isIdentifierPart c.toNat ∧
      isIdentifierPart c.toLower.toNat = isIdentifierPart c.toNat) ?_ c hc
  decide +kernel

theorem isIdentifierPart_upperChar (hd : d ∈ Text.upperChar c) :
    isIdentifierPart d.toNat = isIdentifierPart c.toNat := by
  unfold Text.upperChar at hd
  split_ifs at hd with hascii
  · rw [List.mem_singleton.1 hd, (isIdentifierPart_ascii hascii).1]
  · exact isIdentifierPart_mapCase tables_keepParts.1.1 tables_keepParts.1.2 hd

theorem isIdentifierPart_lowerChar (hd : d ∈ Text.lowerChar c) :
    isIdentifierPart d.toNat = isIdentifierPart c.toNat := by
  unfold Text.lowerChar at hd
  split_ifs at hd with hascii
  · rw [List.mem_singleton.1 hd, (isIdentifierPart_ascii hascii).2]
  · exact isIdentifierPart_mapCase tables_keepParts.2.1 tables_keepParts.2.2 hd

/-! ### ASCII characters that come out of a change of case -/

/-- Whether a table of case maps to some characters always, and to no ASCII characters but letters of one
kind. -/
def lettersOnly (isLetter : Char → Bool) (runs : List (Nat × Nat × Nat × Nat))
    (special : List (Nat × List Nat)) : Bool :=
  (runs.all fun r => isBeyondAscii r.2.2.2 (r.2.2.2 + (r.2.1 - r.1)) ||
      r.1.beq r.2.1 && isLetter (Char.ofNat r.2.2.2)) &&
    special.all fun e => !e.2.isEmpty && e.2.all fun n => isBeyondAscii n n || isLetter (Char.ofNat n)

variable {isLetter : Char → Bool}

theorem le_toNat_of_isBeyondAscii {first last n : Nat} (h : isBeyondAscii first last = true)
    (hfirst : first ≤ n) (hlast : n ≤ last) : 128 ≤ (Char.ofNat n).toNat := by
  obtain ⟨hlarge, hvalid⟩ := isValidChar_of_isBeyondAscii h hfirst hlast
  rwa [Text.toNat_ofNat, if_pos hvalid]

theorem mem_mapCase_ascii (h : lettersOnly isLetter runs special = true)
    (hd : d ∈ Text.mapCase runs special c) (hascii : d.toNat < 128) : isLetter d = true ∨ d = c := by
  simp only [lettersOnly, Bool.and_eq_true, List.all_eq_true, Bool.or_eq_true, Nat.beq_eq] at h
  obtain ⟨hruns, hspecial⟩ := h
  rcases Text.mapCase_cases runs special c with
    ⟨e, he, -, heq⟩ | ⟨r, hrun, hfirst, hlast, -, heq⟩ | heq
  · rw [heq] at hd
    obtain ⟨n, hn, rfl⟩ := List.mem_map.1 hd
    rcases (hspecial e he).2 n hn with hbeyond | hletter
    · have hlarge := le_toNat_of_isBeyondAscii hbeyond (Nat.le_refl n) (Nat.le_refl n)
      omega
    · exact .inl hletter
  · rw [heq, List.mem_singleton] at hd
    subst hd
    rcases hruns r hrun with hbeyond | ⟨hone, hletter⟩
    · have hlarge := le_toNat_of_isBeyondAscii hbeyond
        (Nat.le_add_right r.2.2.2 (c.toNat - r.1)) (by omega)
      omega
    · have hzero : c.toNat - r.1 = 0 := by omega
      rw [hzero, Nat.add_zero]
      exact .inl hletter
  · rw [heq, List.mem_singleton] at hd
    exact .inr hd

theorem mapCase_ne_nil (h : lettersOnly isLetter runs special = true) (c : Char) :
    Text.mapCase runs special c ≠ [] := by
  simp only [lettersOnly, Bool.and_eq_true, List.all_eq_true] at h
  rcases Text.mapCase_cases runs special c with ⟨e, he, -, heq⟩ | ⟨r, -, -, -, -, heq⟩ | heq
  · have hne := (h.2 e he).1
    rw [heq]
    simpa using hne
  · simp [heq]
  · simp [heq]

theorem tables_lettersOnly : lettersOnly Char.isUpper Text.upperRuns Text.upperSpecial = true ∧
    lettersOnly Char.isLower Text.lowerRuns Text.lowerSpecial = true := by
  decide +kernel

theorem toUpper_ascii (hc : c.toNat < 128) :
    (c.toUpper.isUpper = true ∨ c.toUpper = c ∧ c.isLower = false) ∧
      (c.toLower.isLower = true ∨ c.toLower = c) := by
  refine Text.forall_ascii (P := fun c =>
    (c.toUpper.isUpper = true ∨ c.toUpper = c ∧ c.isLower = false) ∧
      (c.toLower.isLower = true ∨ c.toLower = c)) ?_ c hc
  decide +kernel

theorem mem_upperChar_ascii (hd : d ∈ Text.upperChar c) (hascii : d.toNat < 128) :
    d.isUpper = true ∨ d = c ∧ c.isLower = false := by
  unfold Text.upperChar at hd
  split_ifs at hd with hc
  · rw [List.mem_singleton.1 hd]
    exact (toUpper_ascii hc).1
  · rcases mem_mapCase_ascii tables_lettersOnly.1 hd hascii with hletter | rfl
    · exact .inl hletter
    · exact absurd hascii hc

theorem mem_lowerChar_ascii (hd : d ∈ Text.lowerChar c) (hascii : d.toNat < 128) :
    d.isLower = true ∨ d = c := by
  unfold Text.lowerChar at hd
  split_ifs at hd with hc
  · rw [List.mem_singleton.1 hd]
    exact (toUpper_ascii hc).2
  · exact mem_mapCase_ascii tables_lettersOnly.2 hd hascii

theorem upperChar_ne_nil (c : Char) : Text.upperChar c ≠ [] := by
  unfold Text.upperChar
  split_ifs
  · simp
  · exact mapCase_ne_nil tables_lettersOnly.1 c

theorem lowerChar_ne_nil (c : Char) : Text.lowerChar c ≠ [] := by
  unfold Text.lowerChar
  split_ifs
  · simp
  · exact mapCase_ne_nil tables_lettersOnly.2 c

/-! ### Characters in either case -/

/-- A character that another becomes in one of the two cases. -/
def IsCaseOf (c d : Char) : Prop :=
  d ∈ Text.upperChar c ∨ d ∈ Text.lowerChar c ∨ c = 'Σ' ∧ (d = 'ς' ∨ d = 'σ')

theorem isIdentifierPart_of_isCaseOf (h : IsCaseOf c d) :
    isIdentifierPart d.toNat = isIdentifierPart c.toNat := by
  rcases h with h | h | ⟨rfl, rfl | rfl⟩
  · exact isIdentifierPart_upperChar h
  · exact isIdentifierPart_lowerChar h
  · decide
  · decide

theorem eq_backslash_of_isCaseOf (h : IsCaseOf c '\\') : c = '\\' := by
  rcases h with h | h | ⟨-, h⟩
  · rcases mem_upperChar_ascii h (by decide) with hletter | ⟨heq, -⟩
    · exact absurd hletter (by decide)
    · exact heq.symm
  · rcases mem_lowerChar_ascii h (by decide) with hletter | heq
    · exact absurd hletter (by decide)
    · exact heq.symm
  · exact absurd h (by decide)

end SchemaGen.TypeScript
