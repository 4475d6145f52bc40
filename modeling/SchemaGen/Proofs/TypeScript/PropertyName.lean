import SchemaGen.Proofs.TypeScript.Numeral
import SchemaGen.Proofs.TypeScript.StringLiteral

namespace SchemaGen.TypeScript

def isQuote (c : Char) : Bool := c = '"' || c = '\''

def nameKind : List Char → String
  | [] => "property_identifier"
  | c :: _ =>
    if isQuote c then "string" else if c.isDigit || c = '.' then "number" else "property_identifier"

/-- The units of the text that a name of a property stands for. Reserved words can be names. -/
def nameUnits? : List Char → Option (List Nat)
  | [] => none
  | c :: cs =>
    if isQuote c then stringUnits? c cs
    else if c.isDigit || c = '.' then (numeralName? (c :: cs)).map (·.flatMap (units ·.toNat))
    else (codePoints? (c :: cs)).bind fun ns => if isWordOf ns then some (ns.flatMap units) else none

/-- The units of what a name stands for in which characters can be escaped and quotes stand for themselves. -/
def contentUnits? : List Char → Option (List Nat)
  | [] => some []
  | c :: cs =>
    if c = '\\' then
      match _h : escape? cs with
      | some (us, rest) => (contentUnits? rest).map (us ++ ·)
      | none => none
    else if c = '\n' || c = '\r' then none
    else (contentUnits? cs).map (units c.toNat ++ ·)
termination_by cs => cs.length
decreasing_by
  · have := length_lt_of_escape? _h
    simp only [List.length_cons]
    omega
  · simp

theorem contentUnits?_cons {c : Char} (hc : isOrdinary '\\' c = true) (cs : List Char) :
    contentUnits? (c :: cs) = (contentUnits? cs).map (units c.toNat ++ ·) := by
  obtain ⟨hbackslash, -, hfeed, hreturn⟩ := isOrdinary_iff.1 hc
  rw [contentUnits?, if_neg hbackslash, if_neg (by simp [hfeed, hreturn])]

theorem contentUnits?_of_ordinary {cs : List Char} (h : ∀ c ∈ cs, isOrdinary '\\' c = true) :
    contentUnits? cs = some (cs.flatMap (units ·.toNat)) := by
  induction cs with
  | nil =>
    rw [contentUnits?]
    rfl
  | cons c cs ih =>
    obtain ⟨hc, hcs⟩ := List.forall_mem_cons.1 h
    rw [contentUnits?_cons hc, ih hcs]
    rfl

/-- What a name begins with: an escape, or a character that stands for itself. -/
theorem contentUnits?_cases {c : Char} {cs : List Char} {v : List Nat}
    (h : contentUnits? (c :: cs) = some v) :
    (c = '\\' ∧ ∃ us rest vs, escape? cs = some (us, rest) ∧ contentUnits? rest = some vs ∧ v = us ++ vs) ∨
      (isOrdinary '\\' c = true ∧ ∃ vs, contentUnits? cs = some vs ∧ v = units c.toNat ++ vs) := by
  rw [contentUnits?] at h
  split_ifs at h with hescape hline
  · split at h
    · next us rest hread =>
      obtain ⟨vs, hvs, rfl⟩ := Option.map_eq_some_iff.1 h
      exact .inl ⟨hescape, us, rest, vs, hread, hvs, rfl⟩
    · cases h
  · obtain ⟨vs, hvs, rfl⟩ := Option.map_eq_some_iff.1 h
    simp only [Bool.or_eq_true, decide_eq_true_eq, not_or] at hline
    exact .inr ⟨isOrdinary_iff.2 ⟨hescape, hescape, hline⟩, vs, hvs, rfl⟩

theorem escape?_of_codePoint? {cs rest : List Char} {n : Nat} (h : codePoint? cs = some (n, rest)) :
    escape? cs = some (units n, rest) := by
  have hletter : ∃ ds, cs = 'u' :: ds := by
    unfold codePoint? at h
    split at h
    · exact ⟨_, rfl⟩
    · exact ⟨_, rfl⟩
    · cases h
  obtain ⟨ds, rfl⟩ := hletter
  rw [escape?, if_pos rfl, h]
  rfl

theorem isOrdinary_of_isIdentifierPart {quote c : Char} (hquote : isQuote quote = true)
    (hc : isIdentifierPart c.toNat = true) : isOrdinary quote c = true := by
  have hmark := isMark_of_isIdentifierPart hc
  have hne {d : Char} (hd : isMark d = true) : c ≠ d := by
    rintro rfl
    exact absurd (hd.symm.trans hmark) (by simp)
  refine isOrdinary_iff.2 ⟨hne ?_, ?_, hne (by decide), hne (by decide)⟩
  · rcases (by simpa [isQuote] using hquote : quote = '"' ∨ quote = '\'') with rfl | rfl <;> decide
  · rintro rfl
    exact absurd hc (by decide)

theorem stringUnits?_of_codePoints? {quote : Char} (hquote : isQuote quote = true) {cs : List Char}
    {ns : List Nat} (h : codePoints? cs = some ns) (hparts : ∀ n ∈ ns, isIdentifierPart n = true) :
    stringUnits? quote (cs ++ [quote]) = some (ns.flatMap units) := by
  have hbackslash : quote ≠ '\\' := by
    rintro rfl
    exact absurd hquote (by decide)
  fun_induction codePoints? cs generalizing ns with
  | case1 =>
    obtain rfl := Option.some.inj h
    exact stringUnits?_quote
  | case2 cs n rest hcode ih =>
    obtain ⟨ms, hms, rfl⟩ := Option.map_eq_some_iff.1 h
    obtain ⟨escape, rfl, -, hread⟩ := exists_of_codePoint? hcode
    have hrest := ih hms fun m hm => hparts m (List.mem_cons_of_mem n hm)
    rw [List.cons_append, List.append_assoc,
      stringUnits?_escape hbackslash (escape?_of_codePoint? (hread _)), hrest]
    rfl
  | case3 => cases h
  | case4 c cs hc ih =>
    obtain ⟨ms, hms, rfl⟩ := Option.map_eq_some_iff.1 h
    obtain ⟨hpart, hrest⟩ := List.forall_mem_cons.1 hparts
    rw [List.cons_append, stringUnits?_ordinary (isOrdinary_of_isIdentifierPart hquote hpart),
      ih hms hrest]
    rfl

end SchemaGen.TypeScript
