import Mathlib.Algebra.Group.Nat.Defs
import Mathlib.Data.List.TakeWhile
import SchemaGen.Proofs.TypeScript.Identifier

namespace SchemaGen.TypeScript

/-! ### Numbers of 64 bits -/

/-- A quotient rounded to a whole number, from the middle between two to the even one. -/
def roundedQuotient (p q : Nat) : Nat :=
  if 2 * (p % q) > q || 2 * (p % q) = q && p / q % 2 = 1 then p / q + 1 else p / q

/-- The power of two below a positive fraction. -/
def binaryExponent (p q : Nat) : Int :=
  let e : Int := (Nat.log2 p : Int) - Nat.log2 q
  if q * 2 ^ e.toNat ≤ p * 2 ^ (-e).toNat then e else e - 1

/-- The number of 64 bits nearest to a fraction, as a fraction, unless that is infinite. -/
def nearest? (p q : Nat) : Option (Nat × Nat) :=
  let e := max (binaryExponent p q - 52) (-1074)
  let significand := roundedQuotient (p * 2 ^ (-e).toNat) (q * 2 ^ e.toNat)
  let value := (significand * 2 ^ e.toNat, 2 ^ (-e).toNat)
  if value.1 < 2 ^ 1024 * value.2 then some value else none

/-- The number of digits of a fraction before the point, or less than zero for zeros behind it. -/
def decimalExponent (p q : Nat) : Int :=
  let e : Int := ((Nat.toDigits 10 p).length : Int) - (Nat.toDigits 10 q).length
  if q * 10 ^ e.toNat ≤ p * 10 ^ (-e).toNat then e + 1 else e

/-- A whole number times a power of ten, as a fraction. -/
def scaled (n : Nat) (e : Int) : Nat × Nat := (n * 10 ^ e.toNat, 10 ^ (-e).toNat)

/-- The number of the given count of digits that is nearest to a number among those read as it. -/
def digitsFor? (p q : Nat) (e : Int) (count : Nat) : Option Nat :=
  let (above, below) := scaled p (count - e)
  let low := above / (q * below)
  let reads (n : Nat) : Bool :=
    let (a, b) := scaled n (e - count)
    (nearest? a b).any fun r => r.1 * q = p * r.2
  match reads low, reads (low + 1) with
  | true, true => some (if 2 * (above % (q * below)) > q * below then low + 1 else low)
  | true, false => some low
  | false, true => some (low + 1)
  | false, false => none

/-- Digits with the point behind as many of them as given, or with an exponent. -/
def placePoint (digits : List Char) (n : Int) : List Char :=
  let k := digits.length
  if k ≤ n ∧ n ≤ 21 then digits ++ List.replicate (n.toNat - k) '0'
  else if 0 < n ∧ n ≤ 21 then digits.take n.toNat ++ '.' :: digits.drop n.toNat
  else if -6 < n ∧ n ≤ 0 then '0' :: '.' :: (List.replicate (-n).toNat '0' ++ digits)
  else
    let exponent := (if n < 1 then '-' else '+') :: Nat.toDigits 10 (n - 1).natAbs
    match digits with
    | [] => []
    | [d] => d :: 'e' :: exponent
    | d :: ds => d :: '.' :: (ds ++ 'e' :: exponent)

/-- The text of the number of 64 bits that a fraction is read as. -/
def numberText (p q : Nat) : List Char :=
  if p = 0 then ['0']
  else
    match nearest? p q with
    | none => "Infinity".toList
    | some (0, _) => ['0']
    | some (p, q) =>
      let e := decimalExponent p q
      match (List.range 17).findSome? fun k => (digitsFor? p q e (k + 1)).map (·, k + 1) with
      | none => []
      | some (n, count) =>
        let digits := Nat.toDigits 10 n
        let point := e - count + digits.length
        placePoint (digits.reverse.dropWhile (· = '0')).reverse point

/-! ### Numerals -/

def isDigitOf (base : Nat) (c : Char) : Bool := (hexValue? c).any (· < base)

def digitsOf? (base : Nat) : List Char → Option (List Char)
  | [] => none
  | [c] => if isDigitOf base c then some [c] else none
  | c :: '_' :: d :: cs => if isDigitOf base c then (digitsOf? base (d :: cs)).map (c :: ·) else none
  | c :: cs => if isDigitOf base c then (digitsOf? base cs).map (c :: ·) else none

def numberOf (base : Nat) (digits : List Char) : Nat :=
  digits.foldl (fun n c => base * n + (hexValue? c).getD 0) 0

/-- Decimal digits that do not begin with a zero, or only a zero. -/
def wholeDigits? (cs : List Char) : Option (List Char) :=
  (digitsOf? 10 cs).filter fun digits => digits.length = 1 || digits.head? ≠ some '0'

def exponent? : List Char → Option Int
  | [] => some 0
  | c :: cs =>
    if c = 'e' || c = 'E' then
      match cs with
      | '-' :: cs => (digitsOf? 10 cs).map fun digits => -(numberOf 10 digits : Int)
      | '+' :: cs => (digitsOf? 10 cs).map fun digits => (numberOf 10 digits : Int)
      | cs => (digitsOf? 10 cs).map fun digits => (numberOf 10 digits : Int)
    else none

def isDecimal (c : Char) : Bool := c.isDigit || c = '_'

/-- The digits of a decimal numeral in front of the point, which can be left out if there are some behind
it. -/
def digitsBefore? (whole behind : List Char) : Option (List Char) :=
  if whole.isEmpty && !behind.isEmpty then some [] else wholeDigits? whole

def digitsBehind? (behind : List Char) : Option (List Char) :=
  if behind.isEmpty then some [] else digitsOf? 10 behind

/-- The number of a decimal numeral with a point or an exponent, as a fraction. -/
def fraction? (cs : List Char) : Option (Nat × Nat) :=
  let whole := cs.takeWhile isDecimal
  let rest := cs.dropWhile isDecimal
  let pointed := rest.head? = some '.'
  let behind := if pointed then rest.tail.takeWhile isDecimal else []
  let after := if pointed then rest.tail.dropWhile isDecimal else rest
  (digitsBefore? whole behind).bind fun digits =>
    (digitsBehind? behind).bind fun decimals =>
      (exponent? after).map fun e =>
        scaled (numberOf 10 (digits ++ decimals)) (e - decimals.length)

/-- The base that a letter behind a zero gives. -/
def baseOf? (c : Char) : Option Nat :=
  if c = 'x' || c = 'X' then some 16
  else if c = 'o' || c = 'O' then some 8
  else if c = 'b' || c = 'B' then some 2
  else none

/-- The whole number of a numeral to a base that is given. -/
def based? : List Char → Option Nat
  | '0' :: c :: cs => (baseOf? c).bind fun base => (digitsOf? base cs).map (numberOf base)
  | _ => none

/-- The name of a property that is given by a numeral. Whole numbers of any size have a letter at the end. -/
def numeralName? (cs : List Char) : Option (List Char) :=
  if cs.getLast? = some 'n' then
    ((based? cs.dropLast).or ((wholeDigits? cs.dropLast).map (numberOf 10))).map (Nat.toDigits 10)
  else ((based? cs).map (numberText · 1)).or ((fraction? cs).map fun r => numberText r.1 r.2)

/-! ### Characters of numerals -/

def isNumeralChar (c : Char) : Bool := c.isAlphanum || c = '_' || c = '.' || c = '+' || c = '-'

variable {base : Nat} {cs digits : List Char}

theorem isNumeralChar_of_isAlphanum {c : Char} (h : c.isAlphanum = true) : isNumeralChar c = true := by
  rw [isNumeralChar, h]
  rfl

theorem isNumeralChar_of_isDigitOf {c : Char} (h : isDigitOf base c = true) : isNumeralChar c = true := by
  rw [isDigitOf, Option.any_eq_true] at h
  obtain ⟨d, hd, -⟩ := h
  exact isNumeralChar_of_isAlphanum (isAlphanum_of_hexValue? (by simp [hd]))

theorem isNumeralChar_of_isDecimal {c : Char} (h : isDecimal c = true) : isNumeralChar c = true := by
  rw [isDecimal, Bool.or_eq_true, decide_eq_true_eq] at h
  rcases h with h | rfl
  · exact isNumeralChar_of_isAlphanum (by rw [Char.isAlphanum, h, Bool.or_true])
  · decide

theorem isNumeralChar_of_digitsOf? (h : digitsOf? base cs = some digits) :
    ∀ c ∈ cs, isNumeralChar c = true := by
  fun_induction digitsOf? base cs generalizing digits with
  | case1 => simp
  | case2 c hc => exact List.forall_mem_cons.2 ⟨isNumeralChar_of_isDigitOf hc, by simp⟩
  | case3 => cases h
  | case4 c d cs hc ih =>
    obtain ⟨ds, hds, -⟩ := Option.map_eq_some_iff.1 h
    exact List.forall_mem_cons.2 ⟨isNumeralChar_of_isDigitOf hc,
      List.forall_mem_cons.2 ⟨by decide, ih hds⟩⟩
  | case5 => cases h
  | case6 c cs _ _ hc ih =>
    obtain ⟨ds, hds, -⟩ := Option.map_eq_some_iff.1 h
    exact List.forall_mem_cons.2 ⟨isNumeralChar_of_isDigitOf hc, ih hds⟩
  | case7 => cases h

theorem isNumeralChar_of_based? {n : Nat} (h : based? cs = some n) : ∀ c ∈ cs, isNumeralChar c = true := by
  unfold based? at h
  split at h
  · next c cs =>
    obtain ⟨base, hbase, hdigits⟩ := Option.bind_eq_some_iff.1 h
    obtain ⟨digits, hdigits, -⟩ := Option.map_eq_some_iff.1 hdigits
    have hletter : isNumeralChar c = true := by
      unfold baseOf? at hbase
      split_ifs at hbase with hx ho hb
      · rcases (by simpa using hx : c = 'x' ∨ c = 'X') with rfl | rfl <;> decide
      · rcases (by simpa using ho : c = 'o' ∨ c = 'O') with rfl | rfl <;> decide
      · rcases (by simpa using hb : c = 'b' ∨ c = 'B') with rfl | rfl <;> decide
    exact List.forall_mem_cons.2 ⟨by decide, List.forall_mem_cons.2 ⟨hletter,
      isNumeralChar_of_digitsOf? hdigits⟩⟩
  · cases h

theorem isNumeralChar_of_exponent? {e : Int} (h : exponent? cs = some e) :
    ∀ c ∈ cs, isNumeralChar c = true := by
  cases cs with
  | nil => simp
  | cons c cs =>
    simp only [exponent?] at h
    split_ifs at h with hletter
    have hc : isNumeralChar c = true := by
      rcases (by simpa using hletter : c = 'e' ∨ c = 'E') with rfl | rfl <;> decide
    refine List.forall_mem_cons.2 ⟨hc, ?_⟩
    split at h
    · obtain ⟨digits, hdigits, -⟩ := Option.map_eq_some_iff.1 h
      exact List.forall_mem_cons.2 ⟨by decide, isNumeralChar_of_digitsOf? hdigits⟩
    · obtain ⟨digits, hdigits, -⟩ := Option.map_eq_some_iff.1 h
      exact List.forall_mem_cons.2 ⟨by decide, isNumeralChar_of_digitsOf? hdigits⟩
    · obtain ⟨digits, hdigits, -⟩ := Option.map_eq_some_iff.1 h
      exact isNumeralChar_of_digitsOf? hdigits

/-- A scan over decimal digits leaves a text whose characters decide. -/
theorem isNumeralChar_of_dropWhile (h : ∀ c ∈ cs.dropWhile isDecimal, isNumeralChar c = true) :
    ∀ c ∈ cs, isNumeralChar c = true := by
  intro c hc
  rw [← List.takeWhile_append_dropWhile (p := isDecimal) (l := cs), List.mem_append] at hc
  rcases hc with hc | hc
  · exact isNumeralChar_of_isDecimal (List.mem_takeWhile_imp hc)
  · exact h c hc

theorem isNumeralChar_of_fraction? {r : Nat × Nat} (h : fraction? cs = some r) :
    ∀ c ∈ cs, isNumeralChar c = true := by
  obtain ⟨digits, -, hbehind⟩ := Option.bind_eq_some_iff.1 h
  obtain ⟨decimals, -, hafter⟩ := Option.bind_eq_some_iff.1 hbehind
  obtain ⟨e, hexponent, -⟩ := Option.map_eq_some_iff.1 hafter
  have hafter := isNumeralChar_of_exponent? hexponent
  refine isNumeralChar_of_dropWhile ?_
  split_ifs at hafter with hpoint
  · obtain ⟨rest, hrest⟩ := List.head?_eq_some_iff.1 hpoint
    rw [hrest] at hafter ⊢
    exact List.forall_mem_cons.2 ⟨by decide, isNumeralChar_of_dropWhile hafter⟩
  · exact hafter

/-- A numeral has no characters that text literals treat in a way of their own. -/
theorem isNumeralChar_of_numeralName? {name : List Char} (h : numeralName? cs = some name) :
    ∀ c ∈ cs, isNumeralChar c = true := by
  unfold numeralName? at h
  split_ifs at h with hlast
  · obtain ⟨n, hn, -⟩ := Option.map_eq_some_iff.1 h
    have hinit : ∀ c ∈ cs.dropLast, isNumeralChar c = true := by
      rcases Option.or_eq_some_iff.1 hn with hbased | ⟨-, hwhole⟩
      · exact isNumeralChar_of_based? hbased
      · obtain ⟨digits, hdigits, -⟩ := Option.map_eq_some_iff.1 hwhole
        exact isNumeralChar_of_digitsOf? (Option.filter_eq_some_iff.1 hdigits).1
    rw [← List.dropLast_append_getLast? _ hlast]
    simp only [List.mem_append, List.mem_singleton]
    rintro c (hc | rfl)
    · exact hinit c hc
    · decide
  · rcases Option.or_eq_some_iff.1 h with hbased | ⟨-, hfraction⟩
    · obtain ⟨n, hn, -⟩ := Option.map_eq_some_iff.1 hbased
      exact isNumeralChar_of_based? hn
    · obtain ⟨r, hr, -⟩ := Option.map_eq_some_iff.1 hfraction
      exact isNumeralChar_of_fraction? hr

end SchemaGen.TypeScript
