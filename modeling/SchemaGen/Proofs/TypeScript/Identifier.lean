import Mathlib.Tactic.SplitIfs
import SchemaGen.Proofs.Text.Case
import SchemaGen.Text.Blank
import SchemaGen.Text.Property

namespace SchemaGen.TypeScript

/-! ### Escaped characters -/

def hexValue? (c : Char) : Option Nat :=
  if '0' ≤ c ∧ c ≤ '9' then some (c.toNat - 48)
  else if 'a' ≤ c ∧ c ≤ 'f' then some (c.toNat - 87)
  else if 'A' ≤ c ∧ c ≤ 'F' then some (c.toNat - 55)
  else none

/-- The number that a row of hexadecimal digits gives behind those that gave `acc`. -/
def hexNumber? (acc : Nat) : List Char → Option Nat
  | [] => some acc
  | c :: cs => (hexValue? c).bind fun d => hexNumber? (16 * acc + d) cs

/-- Read a character that is escaped by its number, behind the backslash. -/
def codePoint? : List Char → Option (Nat × List Char)
  | 'u' :: '\x7b' :: cs =>
    let digits := cs.takeWhile (· ≠ '\x7d')
    match hexNumber? 0 digits, cs.dropWhile (· ≠ '\x7d') with
    | some n, _ :: rest => if digits ≠ [] ∧ n ≤ 0x10FFFF then some (n, rest) else none
    | _, _ => none
  | 'u' :: a :: b :: c :: d :: rest => (hexNumber? 0 [a, b, c, d]).map (·, rest)
  | _ => none

theorem length_lt_of_codePoint? {cs rest : List Char} {n : Nat}
    (h : codePoint? cs = some (n, rest)) : rest.length < cs.length := by
  unfold codePoint? at h
  split at h
  · next cs =>
    dsimp only at h
    split at h
    · next m c after hdigits hdrop =>
      split_ifs at h
      obtain ⟨-, rfl⟩ := Prod.mk.inj (Option.some.inj h)
      have hlength := (List.dropWhile_sublist (p := (· ≠ '\x7d')) (l := cs)).length_le
      rw [hdrop] at hlength
      simp only [List.length_cons] at *
      omega
    · simp at h
  · obtain ⟨m, -, heq⟩ := Option.map_eq_some_iff.1 h
    obtain ⟨-, rfl⟩ := Prod.mk.inj heq
    simp only [List.length_cons]
    omega
  · simp at h

/-- The numbers of the characters of a word in which characters can be escaped. -/
def codePoints? : List Char → Option (List Nat)
  | [] => some []
  | c :: cs =>
    if c = '\\' then
      match _h : codePoint? cs with
      | some (n, rest) => (codePoints? rest).map (n :: ·)
      | none => none
    else (codePoints? cs).map (c.toNat :: ·)
termination_by cs => cs.length
decreasing_by
  · have := length_lt_of_codePoint? _h
    simp only [List.length_cons]
    omega
  · simp

theorem codePoints?_cons_of_ne {c : Char} (hc : c ≠ '\\') (cs : List Char) :
    codePoints? (c :: cs) = (codePoints? cs).map (c.toNat :: ·) := by
  rw [codePoints?, if_neg hc]

theorem codePoints?_of_notMem {cs : List Char} (h : '\\' ∉ cs) :
    codePoints? cs = some (cs.map Char.toNat) := by
  induction cs with
  | nil => rw [codePoints?]; rfl
  | cons c cs ih =>
    rw [List.mem_cons, not_or] at h
    rw [codePoints?_cons_of_ne (Ne.symm h.1), ih h.2]
    rfl

/-! ### Identifiers -/

def isIdentifierLetter (c : Char) : Bool := c.isAlpha || c = '$' || c = '_'

/-- Characters of words that identifiers cannot have: enclosing marks and enclosed letters. -/
def enclosureRanges : List (Nat × Nat) :=
  [(0x488, 0x489), (0x1ABE, 0x1ABE), (0x20DD, 0x20E0), (0x20E2, 0x20E4), (0x24B6, 0x24E9),
   (0x2E2F, 0x2E2F), (0xA670, 0xA672), (0x1F130, 0x1F149), (0x1F150, 0x1F169), (0x1F170, 0x1F189)]

/-- Characters that identifiers can have although words cannot. -/
def signRanges : List (Nat × Nat) :=
  [(0xB7, 0xB7), (0x387, 0x387), (0x1369, 0x1371), (0x19DA, 0x19DA), (0x2118, 0x2118),
   (0x212E, 0x212E), (0x309B, 0x309C), (0x30FB, 0x30FB), (0xFF65, 0xFF65)]

/-- Numbers of characters that an identifier can go on with. -/
def isIdentifierPart (n : Nat) : Bool :=
  if n < 128 then isIdentifierLetter (Char.ofNat n) || (Char.ofNat n).isDigit
  else Text.inRanges Text.wordRanges n && !Text.inRanges enclosureRanges n ||
    Text.inRanges signRanges n

/-- Numbers of characters that can begin an identifier: letters and numbers that are letters, and some
signs that once were. -/
def isIdentifierStart (n : Nat) : Bool :=
  isIdentifierPart n &&
    if n < 128 then isIdentifierLetter (Char.ofNat n)
    else
      ["lu", "ll", "lt", "lm", "lo", "nl"].any (fun name => Text.inRanges (Text.propertyRanges name) n) ||
        Text.inRanges [(0x1885, 0x1886), (0x2118, 0x2118), (0x212E, 0x212E), (0x309B, 0x309C)] n

/-- Words that are no identifiers, although they have the characters of one. -/
def reservedWords : List String :=
  ["await", "break", "case", "catch", "class", "const", "continue", "debugger", "default", "delete",
   "do", "else", "enum", "export", "extends", "false", "finally", "for", "function", "if",
   "implements", "import", "in", "instanceof", "interface", "let", "new", "null", "package",
   "private", "protected", "public", "return", "static", "super", "switch", "this", "throw", "true",
   "try", "typeof", "var", "void", "while", "with", "yield"]

/-- Whether numbers are those of the characters of a word: the first can begin one, and the others can go
on in one. -/
def isWordOf : List Nat → Bool
  | n :: ns => isIdentifierStart n && ns.all isIdentifierPart
  | [] => false

/-- A text that names something: a word that is not reserved. -/
def IsIdentifier (cs : List Char) : Prop :=
  ∃ ns, codePoints? cs = some ns ∧ isWordOf ns = true ∧
    ns ∉ reservedWords.map fun word => word.toList.map Char.toNat

/-! ### Characters that no identifier has -/

/-- Brackets, quotes and white space, which stand between words. -/
def isMark (c : Char) : Bool := c = '[' || c = ']' || c = '"' || c = '\'' || Text.isBlank c

theorem toNat_le {a b : Char} (h : a ≤ b) : a.toNat ≤ b.toNat := UInt32.le_iff_toNat_le.1 h

def blankNumbers : List Nat :=
  [9, 10, 11, 12, 13, 32] ++ [0x85, 0xA0, 0x1680, 0x2028, 0x2029, 0x202F, 0x205F, 0x3000] ++
    (List.range 11).map (0x2000 + ·)

theorem mem_blankNumbers {c : Char} (h : Text.isBlank c = true) : c.toNat ∈ blankNumbers := by
  simp only [Text.isBlank, Bool.or_eq_true, Bool.and_eq_true, decide_eq_true_eq,
    List.contains_iff_mem] at h
  rcases h with ((rfl | ⟨hlow, hhigh⟩) | hmem) | ⟨hlow, hhigh⟩
  · decide
  · have h9 : 9 ≤ c.toNat := toNat_le hlow
    have h13 : c.toNat ≤ 13 := toNat_le hhigh
    refine List.mem_append_left _ (List.mem_append_left _ ?_)
    simp only [List.mem_cons, List.not_mem_nil, or_false]
    omega
  · exact List.mem_append_left _ (List.mem_append_right _ hmem)
  · refine List.mem_append_right _ (List.mem_map.2 ⟨c.toNat - 0x2000, ?_, by omega⟩)
    rw [List.mem_range]
    omega

def blankRanges : List (Nat × Nat) :=
  [(0x85, 0x85), (0xA0, 0xA0), (0x1680, 0x1680), (0x2000, 0x200A), (0x2028, 0x2029), (0x202F, 0x202F),
   (0x205F, 0x205F), (0x3000, 0x3000)]

/-- White space is no part of identifiers: beyond ASCII it overlaps with none of their ranges. -/
theorem isIdentifierPart_of_mem_blankNumbers {n : Nat} (h : n ∈ blankNumbers) :
    isIdentifierPart n = false := by
  have hnumbers : ∀ n ∈ blankNumbers, n < 128 ∧ isIdentifierPart n = false ∨
      128 ≤ n ∧ Text.inRanges blankRanges n = true := by decide
  rcases hnumbers n h with ⟨-, hpart⟩ | ⟨hlarge, hin⟩
  · exact hpart
  · have hword := Text.inRanges_eq_false blankRanges Text.wordRanges (by decide +kernel) hin
    have hsign := Text.inRanges_eq_false blankRanges signRanges (by decide) hin
    rw [isIdentifierPart, if_neg (by omega), hword, hsign]
    rfl

theorem isMark_of_isIdentifierPart {c : Char} (h : isIdentifierPart c.toNat = true) :
    isMark c = false := by
  by_contra hmark
  simp only [Bool.not_eq_false, isMark, Bool.or_eq_true, decide_eq_true_eq] at hmark
  rcases hmark with (((rfl | rfl) | rfl) | rfl) | hc
  · exact absurd h (by decide)
  · exact absurd h (by decide)
  · exact absurd h (by decide)
  · exact absurd h (by decide)
  · exact absurd h (by simp [isIdentifierPart_of_mem_blankNumbers (mem_blankNumbers hc)])

example : isIdentifierPart 'é'.toNat = true ∧ isMark 'é' = false ∧ isIdentifierPart ' '.toNat = false ∧
    isMark '\u3000' = true := by decide +kernel

theorem isAlphanum_of_hexValue? {c : Char} (h : hexValue? c ≠ none) : c.isAlphanum = true := by
  have hascii : c.toNat < 128 := by
    unfold hexValue? at h
    split_ifs at h with hdigit hsmall hcapital
    · exact Nat.lt_of_le_of_lt (toNat_le hdigit.2) (by decide)
    · exact Nat.lt_of_le_of_lt (toNat_le hsmall.2) (by decide)
    · exact Nat.lt_of_le_of_lt (toNat_le hcapital.2) (by decide)
    · exact absurd rfl h
  refine Text.forall_ascii (P := fun c => hexValue? c ≠ none → c.isAlphanum = true) ?_ c hascii h
  decide +kernel

theorem isAlphanum_of_hexNumber? {cs : List Char} {acc n : Nat} (h : hexNumber? acc cs = some n) :
    ∀ c ∈ cs, c.isAlphanum = true := by
  induction cs generalizing acc with
  | nil => simp
  | cons c cs ih =>
    obtain ⟨d, hd, hrest⟩ := Option.bind_eq_some_iff.1 h
    exact List.forall_mem_cons.2 ⟨isAlphanum_of_hexValue? (by simp [hd]), ih hrest⟩

theorem ne_of_isAlphanum {c d : Char} (h : c.isAlphanum = true) (hd : d.isAlphanum = false) : c ≠ d := by
  rintro rfl
  exact absurd (h.symm.trans hd) (by simp)

theorem lt_of_isAlphanum {c : Char} (h : c.isAlphanum = true) : c.toNat < 128 := by
  have hclass : (c.isUpper || c.isLower || c.isDigit) = true := h
  rw [Bool.or_eq_true, Bool.or_eq_true] at hclass
  rcases hclass with (h | h) | h
  · exact Text.lt_of_isUpper h
  · exact Text.lt_of_isLower h
  · have hrange : (c.val ≥ '0'.val && c.val ≤ '9'.val) = true := h
    rw [Bool.and_eq_true, decide_eq_true_eq, decide_eq_true_eq] at hrange
    exact Nat.lt_of_le_of_lt (UInt32.le_iff_toNat_le.1 hrange.2) (by decide)

theorem isMark_of_isAlphanum {c : Char} (h : c.isAlphanum = true) : isMark c = false := by
  have hascii := lt_of_isAlphanum h
  refine Text.forall_ascii (P := fun c => c.isAlphanum = true → isMark c = false) ?_ c hascii h
  decide +kernel

theorem codePoint?_braces {digits : List Char} {n : Nat} (hdigits : hexNumber? 0 digits = some n)
    (hvalid : digits ≠ [] ∧ n ≤ 0x10FFFF) (rest : List Char) :
    codePoint? ('u' :: '\x7b' :: (digits ++ '\x7d' :: rest)) = some (n, rest) := by
  have hdigit : ∀ c ∈ digits, decide (c ≠ '\x7d') = true := fun c hc =>
    decide_eq_true (ne_of_isAlphanum (isAlphanum_of_hexNumber? hdigits c hc) (by decide))
  have htake : (digits ++ '\x7d' :: rest).takeWhile (· ≠ '\x7d') = digits := by
    rw [List.takeWhile_append_of_pos hdigit, List.takeWhile_cons_of_neg (by decide), List.append_nil]
  have hdrop : (digits ++ '\x7d' :: rest).dropWhile (· ≠ '\x7d') = '\x7d' :: rest := by
    rw [List.dropWhile_append_of_pos hdigit, List.dropWhile_cons_of_neg (by decide)]
  simp only [codePoint?, htake, hdrop, hdigits, if_pos hvalid]

theorem codePoint?_four {a b c d : Char} {n : Nat} (hdigits : hexNumber? 0 [a, b, c, d] = some n)
    (rest : List Char) : codePoint? ('u' :: a :: b :: c :: d :: rest) = some (n, rest) := by
  have hbrace : a ≠ '\x7b' :=
    ne_of_isAlphanum (isAlphanum_of_hexNumber? hdigits a List.mem_cons_self) (by decide)
  unfold codePoint?
  split
  · next heq => exact absurd (List.cons.inj (List.cons.inj heq).2).1 hbrace
  · next heq =>
    simp only [List.cons.injEq, true_and] at heq
    obtain ⟨rfl, rfl, rfl, rfl, rfl⟩ := heq
    rw [hdigits]
    rfl
  · next hnone => exact absurd rfl (hnone a b c d rest)

/-- A character that is escaped by its number is read from the escape alone, which has letters, digits and
braces. -/
theorem exists_of_codePoint? {cs rest : List Char} {n : Nat} (h : codePoint? cs = some (n, rest)) :
    ∃ escape, cs = escape ++ rest ∧
      (∀ c ∈ escape, c.isAlphanum = true ∨ c = '\x7b' ∨ c = '\x7d') ∧
      ∀ ds, codePoint? (escape ++ ds) = some (n, ds) := by
  unfold codePoint? at h
  split at h
  · next cs =>
    dsimp only at h
    split at h
    · next m c after hdigits hdrop =>
      split_ifs at h with hvalid
      obtain ⟨rfl, rfl⟩ := Prod.mk.inj (Option.some.inj h)
      obtain rfl : c = '\x7d' := by
        have hhead := List.head?_dropWhile_not (fun c => decide (c ≠ '\x7d')) cs
        rw [hdrop] at hhead
        simpa using hhead
      have hcs : cs = cs.takeWhile (· ≠ '\x7d') ++ '\x7d' :: after := by
        rw [← hdrop, List.takeWhile_append_dropWhile]
      generalize cs.takeWhile (· ≠ '\x7d') = digits at hcs hdigits hvalid
      refine ⟨'u' :: '\x7b' :: (digits ++ ['\x7d']), by simpa using hcs, ?_, fun ds => ?_⟩
      · simp only [List.mem_cons, List.mem_append, List.not_mem_nil, or_false]
        rintro c (rfl | rfl | hc | rfl)
        · exact .inl (by decide)
        · exact .inr (.inl rfl)
        · exact .inl (isAlphanum_of_hexNumber? hdigits c hc)
        · exact .inr (.inr rfl)
      · have hbraces := codePoint?_braces hdigits hvalid ds
        simpa only [List.cons_append, List.append_assoc, List.nil_append] using hbraces
    · cases h
  · next a b c d rest' _ =>
    obtain ⟨m, hdigits, heq⟩ := Option.map_eq_some_iff.1 h
    obtain ⟨rfl, rfl⟩ := Prod.mk.inj heq
    refine ⟨['u', a, b, c, d], rfl, List.forall_mem_cons.2 ⟨.inl (by decide), fun c hc => ?_⟩,
      fun ds => codePoint?_four hdigits ds⟩
    exact .inl (isAlphanum_of_hexNumber? hdigits c hc)
  · cases h

theorem isMark_of_codePoints? {cs : List Char} {ns : List Nat} (h : codePoints? cs = some ns)
    (hparts : ∀ n ∈ ns, isIdentifierPart n = true) : ∀ c ∈ cs, isMark c = false := by
  fun_induction codePoints? cs generalizing ns with
  | case1 => simp
  | case2 cs n rest hcode ih =>
    obtain ⟨ms, hms, rfl⟩ := Option.map_eq_some_iff.1 h
    obtain ⟨escape, rfl, hescape, -⟩ := exists_of_codePoint? hcode
    have hrest := ih hms fun m hm => hparts m (List.mem_cons_of_mem n hm)
    refine List.forall_mem_cons.2 ⟨by decide, fun c hc => ?_⟩
    rcases List.mem_append.1 hc with hc | hc
    · rcases hescape c hc with halphanum | rfl | rfl
      · exact isMark_of_isAlphanum halphanum
      · decide
      · decide
    · exact hrest c hc
  | case3 => cases h
  | case4 c cs hc ih =>
    obtain ⟨ms, hms, rfl⟩ := Option.map_eq_some_iff.1 h
    obtain ⟨hpart, hrest⟩ := List.forall_mem_cons.1 hparts
    exact List.forall_mem_cons.2 ⟨isMark_of_isIdentifierPart hpart, ih hms hrest⟩

/-- Identifiers have none of the characters that stand between words. -/
theorem isMark_of_isIdentifier {cs : List Char} (h : IsIdentifier cs) :
    cs ≠ [] ∧ ∀ c ∈ cs, isMark c = false := by
  obtain ⟨ns, hns, hword, -⟩ := h
  cases ns with
  | nil => cases hword
  | cons n ns =>
    rw [isWordOf, Bool.and_eq_true, isIdentifierStart, Bool.and_eq_true, List.all_eq_true] at hword
    refine ⟨?_, isMark_of_codePoints? hns (List.forall_mem_cons.2 ⟨hword.1.1, hword.2⟩)⟩
    rintro rfl
    rw [codePoints?] at hns
    cases hns

end SchemaGen.TypeScript
