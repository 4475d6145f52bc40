import SchemaGen.Proofs.Schema.Numeral
import SchemaGen.Proofs.TypeScript.MethodCall
import SchemaGen.Zod.Refinement

namespace SchemaGen.Zod

open TypeScript

variable {cs ds tail : List Char}

/-- Whether a zero stands in front of another digit. -/
def leadsWithZero : List Char → Bool
  | '0' :: c :: _ => c.isDigit
  | _ => false

theorem withoutSign_of_ne (hplus : ∀ ds, cs ≠ '+' :: ds) (hminus : ∀ ds, cs ≠ '-' :: ds) :
    withoutSign cs = cs := by
  cases cs with
  | nil => rfl
  | cons c cs =>
    refine if_neg ?_
    rw [Bool.or_eq_true, decide_eq_true_eq, decide_eq_true_eq]
    rintro (rfl | rfl)
    · exact hplus cs rfl
    · exact hminus cs rfl

theorem isNumberExpression_eq (cs : List Char) :
    isNumberExpression cs = isUnsignedNumber (withoutSign cs) := by
  unfold isNumberExpression
  split
  · rfl
  · rfl
  · next hplus hminus => rw [withoutSign_of_ne hplus hminus]

/-! ### Decimals -/

def EndsDigits (tail : List Char) : Prop := ∀ c ∈ tail.head?, TypeScript.isDecimal c = false

theorem isDecimal_of_isDigit {c : Char} (h : c.isDigit = true) : TypeScript.isDecimal c = true := by
  rw [TypeScript.isDecimal, h, Bool.true_or]

theorem takeWhile_digits (hds : ∀ c ∈ ds, c.isDigit = true) (htail : EndsDigits tail) :
    (ds ++ tail).takeWhile TypeScript.isDecimal = ds := by
  have hnone : tail.takeWhile TypeScript.isDecimal = [] := by
    cases tail with
    | nil => rfl
    | cons c tail => exact List.takeWhile_cons_of_neg (by simp [htail c rfl])
  rw [List.takeWhile_append_of_pos fun c hc => isDecimal_of_isDigit (hds c hc), hnone, List.append_nil]

theorem dropWhile_digits (hds : ∀ c ∈ ds, c.isDigit = true) (htail : EndsDigits tail) :
    (ds ++ tail).dropWhile TypeScript.isDecimal = tail := by
  rw [List.dropWhile_append_of_pos fun c hc => isDecimal_of_isDigit (hds c hc)]
  cases tail with
  | nil => rfl
  | cons c tail => exact List.dropWhile_cons_of_neg (by simp [htail c rfl])

theorem isDigit_of_isDigitRow (h : isDigitRow cs = true) : cs ≠ [] ∧ ∀ c ∈ cs, c.isDigit = true := by
  rw [isDigitRow, Bool.and_eq_true, List.all_eq_true] at h
  exact ⟨by simpa using h.1, h.2⟩

theorem exists_exponent? (h : isExponent cs = true) : ∃ e, exponent? cs = some e := by
  cases cs with
  | nil => exact ⟨0, rfl⟩
  | cons c cs =>
    simp only [isExponent, Bool.and_eq_true] at h
    obtain ⟨hletter, hrow⟩ := h
    obtain ⟨hne, hdigits⟩ := isDigit_of_isDigitRow hrow
    have hread := digitsOf?_of_isDigit hne hdigits
    simp only [exponent?, if_pos hletter]
    split
    · next ds =>
      have hds : digitsOf? 10 ds = some ds := hread
      exact ⟨_, by rw [hds]; rfl⟩
    · next ds =>
      have hds : digitsOf? 10 ds = some ds := hread
      exact ⟨_, by rw [hds]; rfl⟩
    · next hminus hplus =>
      rw [withoutSign_of_ne hplus hminus] at hread
      exact ⟨_, by rw [hread]; rfl⟩

theorem endsDigits_of_isExponent (h : isExponent cs = true) : EndsDigits cs ∧ cs.head? ≠ some '.' := by
  cases cs with
  | nil => exact ⟨by simp [EndsDigits], by simp⟩
  | cons c cs =>
    simp only [isExponent, Bool.and_eq_true, Bool.or_eq_true, decide_eq_true_eq] at h
    refine ⟨?_, ?_⟩
    · rintro d hd
      obtain rfl := Option.some.inj hd
      rcases h.1 with rfl | rfl <;> decide
    · rw [List.head?_cons]
      rcases h.1 with rfl | rfl <;> decide

/-- A decimal is a row of digits, then a point with digits behind it or not, then an exponent or not. -/
theorem exists_of_isDecimal (h : isDecimal cs = true) : ∃ whole tail, cs = whole ++ tail ∧
    (∀ c ∈ whole, c.isDigit = true) ∧
      ((∃ behind exponent, tail = '.' :: (behind ++ exponent) ∧ (∀ c ∈ behind, c.isDigit = true) ∧
          (whole ≠ [] ∨ behind ≠ []) ∧ isExponent exponent = true) ∨
        whole ≠ [] ∧ isExponent tail = true) := by
  refine ⟨cs.takeWhile Char.isDigit, cs.dropWhile Char.isDigit, List.takeWhile_append_dropWhile.symm,
    fun c hc => List.mem_takeWhile_imp hc, ?_⟩
  unfold isDecimal at h
  dsimp only at h
  split at h
  · next rest htail =>
    rw [Bool.and_eq_true] at h
    refine .inl ⟨rest.takeWhile Char.isDigit, rest.dropWhile Char.isDigit, ?_,
      fun c hc => List.mem_takeWhile_imp hc, ?_, h.2⟩
    · rw [htail, List.takeWhile_append_dropWhile]
    · have hsome := h.1
      simp only [Bool.not_eq_true', Bool.and_eq_false_iff, List.isEmpty_eq_false_iff] at hsome
      exact hsome
  · rw [Bool.and_eq_true] at h
    exact .inr ⟨by simpa using h.1, h.2⟩

/-! ### Bounds as expressions -/

/-- Digits in front of a point or behind the last one are read unless a zero stands in front of another. -/
theorem digitsBefore?_isSome {whole : List Char} (behind : List Char) (hwhole : ∀ c ∈ whole, c.isDigit = true)
    (hne : whole ≠ [] ∨ behind ≠ []) (htail : EndsDigits tail) :
    (digitsBefore? whole behind).isSome = !leadsWithZero (whole ++ tail) := by
  have hnodigit : ∀ c ∈ tail.head?, c.isDigit = false := by
    intro c hc
    have hdecimal := htail c hc
    rw [TypeScript.isDecimal, Bool.or_eq_false_iff] at hdecimal
    exact hdecimal.1
  cases whole with
  | nil =>
    have hbehind : behind.isEmpty = false := by simpa using hne
    have htail : leadsWithZero tail = false := by
      unfold leadsWithZero
      split
      · exact absurd (hnodigit '0' rfl) (by decide)
      · rfl
    rw [digitsBefore?, hbehind, List.nil_append, htail]
    rfl
  | cons c ds =>
    have hread : wholeDigits? (c :: ds) =
        (some (c :: ds)).filter fun digits => digits.length = 1 || digits.head? ≠ some '0' := by
      rw [wholeDigits?, digitsOf?_of_isDigit (List.cons_ne_nil c ds) hwhole]
    rw [digitsBefore?, if_neg (by simp), hread, List.cons_append]
    cases ds with
    | nil =>
      have hzero : leadsWithZero (c :: tail) = false := by
        unfold leadsWithZero
        split
        · next d ds heq =>
          obtain ⟨-, rfl⟩ := List.cons.inj heq
          exact hnodigit d rfl
        · rfl
      rw [List.nil_append, hzero]
      rfl
    | cons d ds =>
      have hd : d.isDigit = true := hwhole d (by simp)
      by_cases hc : c = '0'
      · subst hc
        simp [leadsWithZero, hd]
      · simp [leadsWithZero, hc]

theorem fraction?_isSome (h : isDecimal cs = true) : (fraction? cs).isSome = !leadsWithZero cs := by
  obtain ⟨whole, tail, rfl, hwhole, ⟨behind, exponent, rfl, hbehind, hne, hexponent⟩ | ⟨hne, hexponent⟩⟩ :=
    exists_of_isDecimal h
  · have htail : EndsDigits ('.' :: (behind ++ exponent)) := by
      rintro c hc
      obtain rfl := Option.some.inj hc
      decide
    have hend := (endsDigits_of_isExponent hexponent).1
    obtain ⟨e, he⟩ := exists_exponent? hexponent
    have hread : ∃ ds, digitsBehind? behind = some ds := by
      unfold digitsBehind?
      split_ifs with hempty
      · exact ⟨_, rfl⟩
      · exact ⟨_, digitsOf?_of_isDigit (by simpa using hempty) hbehind⟩
    obtain ⟨decimals, hdecimals⟩ := hread
    rw [← digitsBefore?_isSome behind hwhole hne htail, fraction?]
    simp only [takeWhile_digits hwhole htail, dropWhile_digits hwhole htail, List.head?_cons,
      List.tail_cons, if_true, takeWhile_digits hbehind hend, dropWhile_digits hbehind hend, hdecimals, he]
    cases digitsBefore? whole behind <;> rfl
  · obtain ⟨htail, hpoint⟩ := endsDigits_of_isExponent hexponent
    obtain ⟨e, he⟩ := exists_exponent? hexponent
    rw [← digitsBefore?_isSome [] hwhole (.inl hne) htail, fraction?]
    simp only [takeWhile_digits hwhole htail, dropWhile_digits hwhole htail, hpoint, if_false, he]
    cases digitsBefore? whole [] <;> rfl

theorem based?_of_isDecimal (h : isDecimal cs = true) : based? cs = none := by
  unfold based?
  split
  · next c cs =>
    have hletter : baseOf? c = none := by
      unfold baseOf?
      simp only [Bool.or_eq_true, decide_eq_true_eq]
      split_ifs with hx ho hb
      · rcases hx with rfl | rfl <;> cases h
      · rcases ho with rfl | rfl <;> cases h
      · rcases hb with rfl | rfl <;> cases h
      · rfl
    rw [hletter]
    rfl
  · rfl

theorem toLower_of_isDecimal {c : Char} (h : TypeScript.isDecimal c = true) : c.toLower = c := by
  rw [TypeScript.isDecimal, Bool.or_eq_true, decide_eq_true_eq] at h
  rcases h with hdigit | rfl
  · have hhigh := UInt32.le_iff_toNat_le.1 (range_of_isDigit hdigit).2
    refine dif_neg fun hupper => ?_
    have hlow := UInt32.le_iff_toNat_le.1 hupper.1
    exact absurd (hlow.trans hhigh) (by decide)
  · rfl

/-- The name of a number begins with a letter, so no digits are read of it. -/
theorem isUnsignedNumber_of_isNumberName (h : isNumberName cs = true) :
    isUnsignedNumber cs = true ↔ cs = "NaN".toList ∨ cs = "Infinity".toList := by
  have hnames : ∀ name ∈ ["inf".toList, "infinity".toList, "nan".toList],
      name.head? = some 'i' ∨ name.head? = some 'n' := by decide
  have hhead := hnames _ (List.contains_iff_mem.1 h)
  cases cs with
  | nil => simp at hhead
  | cons c cs =>
    have hletter : c.toLower = 'i' ∨ c.toLower = 'n' := by simpa using hhead
    have hdecimal : TypeScript.isDecimal c = false := by
      by_contra hdigit
      have hsame := toLower_of_isDecimal (by simpa using hdigit)
      rw [hsame] at hletter
      rcases hletter with rfl | rfl <;> exact hdigit rfl
    have hpoint : c ≠ '.' := by
      rintro rfl
      exact absurd hletter (by decide)
    have hzero : c ≠ '0' := by
      rintro rfl
      cases hdecimal
    have hbased : based? (c :: cs) = none := by
      unfold based?
      split
      · next heq => exact absurd (List.cons.inj heq).1 hzero
      · rfl
    have hfraction : fraction? (c :: cs) = none := by
      have hwhole : (c :: cs).takeWhile TypeScript.isDecimal = [] :=
        List.takeWhile_cons_of_neg (by simp [hdecimal])
      have hrest : (c :: cs).dropWhile TypeScript.isDecimal = c :: cs :=
        List.dropWhile_cons_of_neg (by simp [hdecimal])
      have hhead : ¬(c :: cs).head? = some '.' := fun heq => hpoint (Option.some.inj heq)
      simp only [fraction?, hwhole, hrest, hhead, if_false]
      rfl
    rw [isUnsignedNumber, hbased, hfraction, Option.isSome_none, Option.isSome_none, Bool.or_false,
      Bool.or_false, Bool.or_eq_true, decide_eq_true_eq, decide_eq_true_eq]

/-- What a bound must be to be a number where it is written. -/
def IsSoundBound (bound : List Char) : Prop :=
  withoutSign bound = "NaN".toList ∨ withoutSign bound = "Infinity".toList ∨
    isDecimal (withoutSign bound) = true ∧ leadsWithZero (withoutSign bound) = false

theorem isNumberExpression_iff (h : isNumber cs = true) :
    isNumberExpression cs = true ↔ IsSoundBound cs := by
  rw [isNumberExpression_eq]
  unfold IsSoundBound
  cases hdecimal : isDecimal (withoutSign cs) with
  | true =>
    rw [isUnsignedNumber, based?_of_isDecimal hdecimal, fraction?_isSome hdecimal, Option.isSome_none,
      Bool.or_false, Bool.or_eq_true, Bool.or_eq_true, decide_eq_true_eq, decide_eq_true_eq, or_assoc,
      Bool.not_eq_true', eq_self, true_and]
  | false =>
    have hname : isNumberName (withoutSign cs) = true := by simpa [isNumber, hdecimal] using h
    rw [isUnsignedNumber_of_isNumberName hname, Bool.false_eq_true, false_and, or_false]

end SchemaGen.Zod
