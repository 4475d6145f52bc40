import SchemaGen.Proofs.TypeScript.Numeral
import SchemaGen.Schema.Literal

namespace SchemaGen

namespace TypeScript

/-- The value of a whole number in decimal digits, which can be separated, behind an optional sign. -/
def wholeNumber? : List Char → Option Int
  | '-' :: cs => (wholeDigits? (Text.trimStart cs)).map fun digits => -(numberOf 10 digits : Int)
  | '+' :: cs => (wholeDigits? (Text.trimStart cs)).map fun digits => (numberOf 10 digits : Int)
  | cs => (wholeDigits? cs).map fun digits => (numberOf 10 digits : Int)

def isPlain : List Char → Bool
  | '-' :: cs => cs.all (·.isDigit)
  | '+' :: cs => cs.all (·.isDigit)
  | cs => cs.all (·.isDigit)

theorem range_of_isDigit {c : Char} (h : c.isDigit = true) : '0' ≤ c ∧ c ≤ '9' := by
  have hrange : (c.val ≥ '0'.val && c.val ≤ '9'.val) = true := h
  rw [Bool.and_eq_true, decide_eq_true_eq, decide_eq_true_eq] at hrange
  exact hrange

theorem hexValue?_of_isDigit {c : Char} (h : c.isDigit = true) : hexValue? c = some (c.toNat - 48) :=
  if_pos (range_of_isDigit h)

theorem isDigitOf_of_isDigit {c : Char} (h : c.isDigit = true) : isDigitOf 10 c = true := by
  have hhigh : c.toNat ≤ 57 := UInt32.le_iff_toNat_le.1 (range_of_isDigit h).2
  rw [isDigitOf, hexValue?_of_isDigit h, Option.any_some, decide_eq_true_eq]
  omega

theorem digitsOf?_of_isDigit {cs : List Char} (hne : cs ≠ []) (h : ∀ c ∈ cs, c.isDigit = true) :
    digitsOf? 10 cs = some cs := by
  fun_induction digitsOf? 10 cs with
  | case1 => exact absurd rfl hne
  | case2 => rfl
  | case3 c hc => exact absurd (isDigitOf_of_isDigit (h c (by simp))) hc
  | case4 => exact absurd (h '_' (by simp)) (by decide)
  | case5 => exact absurd (h '_' (by simp)) (by decide)
  | case6 c cs hcs _ _ ih =>
    have hrest : cs ≠ [] := fun hnil => hcs hnil
    rw [ih hrest fun d hd => h d (List.mem_cons_of_mem c hd)]
    rfl
  | case7 c cs _ _ hc => exact absurd (isDigitOf_of_isDigit (h c (by simp))) hc

end TypeScript

namespace Schema

open TypeScript

theorem Numeral.digits_eq (acc : Nat) (cs : List Char) :
    Numeral.digits acc cs =
      if cs.all (·.isDigit) then some (cs.foldl (fun n c => 10 * n + (hexValue? c).getD 0) acc)
      else none := by
  induction cs generalizing acc with
  | nil => rfl
  | cons c cs ih =>
    rw [Numeral.digits, List.all_cons, List.foldl_cons]
    cases hc : c.isDigit with
    | false => rfl
    | true => rw [if_pos rfl, ih, hexValue?_of_isDigit hc, Option.getD_some, Bool.true_and]

theorem trimStart_of_isDigit {cs : List Char} (hall : cs.all (·.isDigit) = true) :
    Text.trimStart cs = cs := by
  cases cs with
  | nil => rfl
  | cons c cs =>
    rw [List.all_cons, Bool.and_eq_true] at hall
    have halphanum : (c.isAlpha || c.isDigit) = true := by rw [hall.1, Bool.or_true]
    have hmark := isMark_of_isAlphanum halphanum
    simp only [isMark, Bool.or_eq_false_iff] at hmark
    exact List.dropWhile_cons_of_neg (by simp [hmark.2])

/-- Digits are read if nothing separates them and nothing stands in front of them. -/
theorem Numeral.natural?_of_wholeDigits? {cs rest digits : List Char}
    (h : wholeDigits? rest = some digits) (hrest : rest = cs ∨ rest = Text.trimStart cs) :
    Numeral.natural? cs = if cs.all (·.isDigit) then some (numberOf 10 digits) else none := by
  have hdigits := (Option.filter_eq_some_iff.1 h).1
  cases hall : cs.all (·.isDigit) with
  | true =>
    have hrest : rest = cs := hrest.elim id fun htrim => htrim.trans (trimStart_of_isDigit hall)
    subst hrest
    cases rest with
    | nil => cases hdigits
    | cons c rest =>
      have hkept := digitsOf?_of_isDigit (List.cons_ne_nil c rest) (List.all_eq_true.1 hall)
      obtain rfl := Option.some.inj (hkept.symm.trans hdigits)
      change Numeral.digits 0 (c :: rest) = _
      rw [Numeral.digits_eq, if_pos hall, if_pos rfl, numberOf]
  | false =>
    cases cs with
    | nil => cases hall
    | cons c cs =>
      change Numeral.digits 0 (c :: cs) = _
      rw [Numeral.digits_eq, hall]
      rfl

def Numeral.signed? : List Char → Option Int
  | '-' :: cs => (natural? cs).map fun n => -(n : Int)
  | '+' :: cs => (natural? cs).map Int.ofNat
  | cs => (natural? cs).map Int.ofNat

def Numeral.fitting? (i : Int) : Option Int :=
  if -9223372036854775808 ≤ i && i < 9223372036854775808 then some i else none

theorem Numeral.integer?_eq (cs : List Char) :
    Numeral.integer? cs = (Numeral.signed? cs).bind Numeral.fitting? := by
  fun_cases Numeral.signed? cs with
  | case1 cs =>
    change Option.bind _ _ = _
    cases Numeral.natural? cs <;> rfl
  | case2 cs => rfl
  | case3 cs hminus hplus =>
    unfold Numeral.integer?
    split
    · exact absurd rfl (hminus _)
    · exact absurd rfl (hplus _)
    · rfl

theorem Numeral.signed?_of_wholeNumber? {cs : List Char} {i : Int} (h : wholeNumber? cs = some i) :
    Numeral.signed? cs = if isPlain cs then some i else none := by
  unfold wholeNumber? at h
  unfold isPlain Numeral.signed?
  split at h
  · obtain ⟨digits, hdigits, rfl⟩ := Option.map_eq_some_iff.1 h
    have hnatural := Numeral.natural?_of_wholeDigits? hdigits (.inr rfl)
    split_ifs at hnatural ⊢ <;> simp [hnatural]
  · obtain ⟨digits, hdigits, rfl⟩ := Option.map_eq_some_iff.1 h
    have hnatural := Numeral.natural?_of_wholeDigits? hdigits (.inr rfl)
    split_ifs at hnatural ⊢ <;> simp [hnatural]
  · obtain ⟨digits, hdigits, rfl⟩ := Option.map_eq_some_iff.1 h
    have hnatural := Numeral.natural?_of_wholeDigits? hdigits (.inl rfl)
    split_ifs at hnatural ⊢ <;> simp [hnatural]

/-- A number of 64 bits is read if there is nothing but digits behind its sign. -/
theorem Numeral.integer?_of_wholeNumber? {cs : List Char} {i : Int} (h : wholeNumber? cs = some i)
    (hlow : -9223372036854775808 ≤ i) (hhigh : i < 9223372036854775808) :
    Numeral.integer? cs = if isPlain cs then some i else none := by
  have hfits : Numeral.fitting? i = some i := by
    rw [Numeral.fitting?, decide_eq_true hlow, decide_eq_true hhigh, Bool.and_true, if_pos rfl]
  rw [Numeral.integer?_eq, Numeral.signed?_of_wholeNumber? h]
  split_ifs
  · exact hfits
  · rfl

end Schema

end SchemaGen
