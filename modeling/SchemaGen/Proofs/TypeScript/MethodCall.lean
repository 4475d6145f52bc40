import SchemaGen.Proofs.TypeScript.Numeral
import SchemaGen.Proofs.TypeScript.RegularExpression

namespace SchemaGen.TypeScript

/-- A number without a sign: a numeral or a constant. -/
def isUnsignedNumber (cs : List Char) : Bool :=
  cs = "NaN".toList || cs = "Infinity".toList || (based? cs).isSome || (fraction? cs).isSome

/-- An expression for a number, with one sign or none. The only names in it are those of the constants. -/
def isNumberExpression : List Char → Bool
  | '+' :: cs => isUnsignedNumber cs
  | '-' :: cs => isUnsignedNumber cs
  | cs => isUnsignedNumber cs

inductive Argument where
  | number (source : List Char)
  | pattern (symbols : List Symbol)
  deriving DecidableEq, Inhabited

structure Call where
  method : List Char
  argument : Option Argument
  deriving DecidableEq, Inhabited

/-- Read a regular expression and the parenthesis behind it. -/
def patternArgument? (cs : List Char) : Option (Argument × List Char) :=
  match regex? cs with
  | some (ss, ')' :: rest) => some (.pattern ss, rest)
  | _ => none

/-- Read a number and the parenthesis behind it. No expression for a number has a parenthesis in it. -/
def numberArgument? (cs : List Char) : Option (Argument × List Char) :=
  match cs.dropWhile (· ≠ ')') with
  | _ :: rest =>
    let source := cs.takeWhile (· ≠ ')')
    if isNumberExpression source then some (.number source, rest) else none
  | [] => none

/-- Read an argument, or none, and the parenthesis behind it. -/
def argument? (cs : List Char) : Option (Option Argument × List Char) :=
  if cs.head? = some ')' then some (none, cs.tail)
  else if cs.head? = some '/' then (patternArgument? cs).map fun r => (some r.1, r.2)
  else (numberArgument? cs).map fun r => (some r.1, r.2)

/-- Read a call from the point in front of its name on. -/
def call? : List Char → Option (Call × List Char)
  | '.' :: cs =>
    let method := cs.takeWhile (isIdentifierPart ·.toNat)
    match cs.dropWhile (isIdentifierPart ·.toNat) with
    | '(' :: rest =>
      if method.head?.any (isIdentifierStart ·.toNat) then
        (argument? rest).map fun r => (⟨method, r.1⟩, r.2)
      else none
    | _ => none
  | _ => none

variable {cs rest : List Char}

theorem length_lt_of_patternArgument? {a : Argument} (h : patternArgument? cs = some (a, rest)) :
    rest.length < cs.length := by
  unfold patternArgument? at h
  split at h
  · next ss rest' hregex =>
    obtain ⟨-, rfl⟩ := Prod.mk.inj (Option.some.inj h)
    have := length_lt_of_regex? hregex
    simp only [List.length_cons] at this
    omega
  · cases h

theorem length_lt_of_numberArgument? {a : Argument} (h : numberArgument? cs = some (a, rest)) :
    rest.length < cs.length := by
  unfold numberArgument? at h
  split at h
  · next d rest' hdrop =>
    have hlength := (List.dropWhile_sublist (· ≠ ')') (l := cs)).length_le
    rw [hdrop, List.length_cons] at hlength
    dsimp only at h
    split_ifs at h
    obtain ⟨-, rfl⟩ := Prod.mk.inj (Option.some.inj h)
    omega
  · cases h

theorem length_lt_of_argument? {a : Option Argument} (h : argument? cs = some (a, rest)) :
    rest.length < cs.length := by
  unfold argument? at h
  split_ifs at h with hclose hslash
  · obtain ⟨-, rfl⟩ := Prod.mk.inj (Option.some.inj h)
    obtain ⟨tail, rfl⟩ := List.head?_eq_some_iff.1 hclose
    simp
  · obtain ⟨r, hr, heq⟩ := Option.map_eq_some_iff.1 h
    obtain ⟨-, rfl⟩ := Prod.mk.inj heq
    exact length_lt_of_patternArgument? hr
  · obtain ⟨r, hr, heq⟩ := Option.map_eq_some_iff.1 h
    obtain ⟨-, rfl⟩ := Prod.mk.inj heq
    exact length_lt_of_numberArgument? hr

theorem length_lt_of_call? {c : Call} (h : call? cs = some (c, rest)) : rest.length < cs.length := by
  unfold call? at h
  split at h
  · next cs =>
    dsimp only at h
    split at h
    · next args hdrop =>
      have hlength := (List.dropWhile_sublist (isIdentifierPart ·.toNat) (l := cs)).length_le
      rw [hdrop] at hlength
      split_ifs at h with hstart
      obtain ⟨⟨a, rest'⟩, ha, heq⟩ := Option.map_eq_some_iff.1 h
      obtain ⟨-, rfl⟩ := Prod.mk.inj heq
      have := length_lt_of_argument? ha
      simp only [List.length_cons] at hlength ⊢
      omega
    · cases h
  · cases h

/-- Read a chain of calls that goes on to the end. -/
def calls? : List Char → Option (List Call)
  | [] => some []
  | c :: cs =>
    match _h : call? (c :: cs) with
    | some (call, rest) => (calls? rest).map (call :: ·)
    | none => none
termination_by cs => cs.length
decreasing_by exact length_lt_of_call? _h

theorem calls?_append {c : Call} (h : call? cs = some (c, rest)) :
    calls? cs = (calls? rest).map (c :: ·) := by
  cases cs with
  | nil => cases h
  | cons d cs =>
    rw [calls?]
    split
    · next heq =>
      obtain ⟨rfl, rfl⟩ := Prod.mk.inj (Option.some.inj (heq.symm.trans h))
      rfl
    · next heq => cases heq.symm.trans h

theorem exists_of_calls?_cons {c : Call} {calls : List Call} (h : calls? cs = some (c :: calls)) :
    ∃ rest, call? cs = some (c, rest) ∧ calls? rest = some calls := by
  cases hread : call? cs with
  | none =>
    cases cs with
    | nil =>
      rw [calls?] at h
      cases h
    | cons d cs =>
      rw [calls?] at h
      split at h
      · next heq => cases heq.symm.trans hread
      · cases h
  | some r =>
    rw [calls?_append hread] at h
    obtain ⟨calls', hrest, heq⟩ := Option.map_eq_some_iff.1 h
    obtain ⟨rfl, rfl⟩ := List.cons.inj heq
    exact ⟨r.2, rfl, hrest⟩

theorem call?_named {name : List Char} (hstart : name.head?.any (isIdentifierStart ·.toNat) = true)
    (hname : name.all (isIdentifierPart ·.toNat) = true) (cs : List Char) :
    call? ('.' :: (name ++ '(' :: cs)) = (argument? cs).map fun r => (⟨name, r.1⟩, r.2) := by
  have hall := List.all_eq_true.1 hname
  have htake : (name ++ '(' :: cs).takeWhile (isIdentifierPart ·.toNat) = name := by
    rw [List.takeWhile_append_of_pos hall, List.takeWhile_cons_of_neg (by decide), List.append_nil]
  have hdrop : (name ++ '(' :: cs).dropWhile (isIdentifierPart ·.toNat) = '(' :: cs := by
    rw [List.dropWhile_append_of_pos hall, List.dropWhile_cons_of_neg (by decide)]
  rw [call?, htake, hdrop]
  exact if_pos hstart

theorem argument?_number {source : List Char} (hne : source ≠ []) (hclose : ')' ∉ source)
    (hslash : source.head? ≠ some '/') (rest : List Char) :
    argument? (source ++ ')' :: rest) =
      if isNumberExpression source then some (some (.number source), rest) else none := by
  have hall : ∀ c ∈ source, decide (c ≠ ')') = true := by
    intro c hc
    rw [decide_eq_true_eq]
    rintro rfl
    exact hclose hc
  have htake : (source ++ ')' :: rest).takeWhile (· ≠ ')') = source := by
    rw [List.takeWhile_append_of_pos hall, List.takeWhile_cons_of_neg (by decide), List.append_nil]
  have hdrop : (source ++ ')' :: rest).dropWhile (· ≠ ')') = ')' :: rest := by
    rw [List.dropWhile_append_of_pos hall, List.dropWhile_cons_of_neg (by decide)]
  have hhead : (source ++ ')' :: rest).head? = source.head? := List.head?_append_of_ne_nil _ hne
  have hother : source.head? ≠ some ')' := fun h => hclose (List.mem_of_head? h)
  rw [argument?, hhead, if_neg hother, if_neg hslash, numberArgument?, hdrop, htake]
  dsimp only
  split_ifs <;> rfl

end SchemaGen.TypeScript
