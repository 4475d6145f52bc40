import SchemaGen.Proofs.TypeScript.StringLiteral

namespace SchemaGen.TypeScript

/-- A symbol of a pattern: a character, or a character behind a backslash. -/
inductive Symbol where
  | plain (c : Char)
  | escaped (c : Char)
  deriving DecidableEq, Inhabited

namespace Symbol

/-- A slash means the same behind a backslash and without one. -/
def meaning : Symbol → Symbol
  | plain c => plain c
  | escaped c => if c = '/' then plain c else escaped c

/-- Whether a class is open behind a symbol. Brackets inside a class do not open another one. -/
def opens (inClass : Bool) : Symbol → Bool
  | plain c => if c = '[' then true else if c = ']' then false else inClass
  | escaped _ => inClass

end Symbol

open TypeScript.Symbol

/-- The symbols of a pattern. No backslash is left over at its end. -/
def symbols? : List Char → Option (List Symbol)
  | [] => some []
  | ['\\'] => none
  | '\\' :: c :: cs => (symbols? cs).map (escaped c :: ·)
  | c :: cs => (symbols? cs).map (plain c :: ·)

/-- Read the body of a literal on one line, up to the slash that ends it: the first one outside classes and
without a backslash. -/
def regexBody? (inClass : Bool) : List Char → Option (List Symbol × List Char)
  | [] => none
  | ['\\'] => none
  | '\\' :: c :: cs =>
    if isLineEnd c then none
    else (regexBody? inClass cs).map fun r => (escaped c :: r.1, r.2)
  | c :: cs =>
    if isLineEnd c then none
    else if c = '/' && !inClass then some ([], cs)
    else (regexBody? ((plain c).opens inClass) cs).map fun r => (plain c :: r.1, r.2)

/-- Read a literal. What begins with two slashes or with a slash and a star is a comment. -/
def regex? : List Char → Option (List Symbol × List Char)
  | '/' :: cs => if cs.head? = some '/' || cs.head? = some '*' then none else regexBody? false cs
  | _ => none

variable {c : Char} {cs rest : List Char} {ss : List Symbol} {inClass : Bool}

theorem regexBody?_escaped (inClass : Bool) (c : Char) (cs : List Char) :
    regexBody? inClass ('\\' :: c :: cs) =
      if isLineEnd c then none
      else (regexBody? inClass cs).map fun r => (escaped c :: r.1, r.2) := by
  rw [regexBody?]

theorem regexBody?_plain (hc : c ≠ '\\') (inClass : Bool) (cs : List Char) :
    regexBody? inClass (c :: cs) =
      if isLineEnd c then none
      else if c = '/' && !inClass then some ([], cs)
      else (regexBody? ((plain c).opens inClass) cs).map fun r => (plain c :: r.1, r.2) := by
  rw [regexBody?]
  · simp [hc]
  · simp [hc]

/-- What is read of a literal is shorter than the literal. -/
theorem length_lt_of_regexBody? {r : List Symbol × List Char} (h : regexBody? inClass cs = some r) :
    r.2.length < cs.length := by
  fun_induction regexBody? inClass cs generalizing r with
  | case1 => cases h
  | case2 => cases h
  | case3 => cases h
  | case4 inClass c cs _ ih =>
    obtain ⟨r', hr', rfl⟩ := Option.map_eq_some_iff.1 h
    have := ih hr'
    simp only [List.length_cons]
    omega
  | case5 => cases h
  | case6 =>
    obtain rfl := Option.some.inj h
    simp
  | case7 inClass c cs _ _ _ _ ih =>
    obtain ⟨r', hr', rfl⟩ := Option.map_eq_some_iff.1 h
    have := ih hr'
    simp only [List.length_cons]
    omega

theorem length_lt_of_regex? {r : List Symbol × List Char} (h : regex? cs = some r) :
    r.2.length < cs.length := by
  unfold regex? at h
  split at h
  · split_ifs at h
    have := length_lt_of_regexBody? h
    rw [List.length_cons]
    omega
  · cases h

/-- What holds of no characters, and of characters with a symbol in front, holds of every pattern and its
symbols. -/
theorem symbols_induction {motive : List Char → List Symbol → Prop} (nil : motive [] [])
    (escaped : ∀ c cs ss, symbols? cs = some ss → motive cs ss →
      motive ('\\' :: c :: cs) (.escaped c :: ss))
    (plain : ∀ c cs ss, c ≠ '\\' → symbols? cs = some ss → motive cs ss →
      motive (c :: cs) (.plain c :: ss))
    (h : symbols? cs = some ss) : motive cs ss := by
  fun_induction symbols? cs generalizing ss with
  | case1 =>
    obtain rfl := Option.some.inj h
    exact nil
  | case2 => cases h
  | case3 c cs ih =>
    obtain ⟨ss, hss, rfl⟩ := Option.map_eq_some_iff.1 h
    exact escaped c cs ss hss (ih hss)
  | case4 c cs hend hescape ih =>
    obtain ⟨ss, hss, rfl⟩ := Option.map_eq_some_iff.1 h
    refine plain c cs ss (fun hc => ?_) hss (ih hss)
    cases cs with
    | nil => exact hend hc rfl
    | cons d ds => exact hescape d ds hc rfl

end SchemaGen.TypeScript
