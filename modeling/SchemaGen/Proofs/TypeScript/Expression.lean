import SchemaGen.Proofs.TypeScript.PropertyName

namespace SchemaGen.TypeScript

structure Entry (α : Type) where
  key : List Nat
  value : α

/-- Names, literals, calls and what their arguments are made of. -/
inductive Expression where
  | word (name : String)
  | text (units : List Nat)
  | numeral (source : String)
  | list (items : List Expression)
  | object (entries : List (Entry Expression))
  | member (whole : Expression) (name : String)
  | call (function : Expression) (arguments : List Expression)

inductive Atom where
  | word (name : String)
  | member (name : String)
  | text (units : List Nat)
  | numeral (source : String)
  | mark (c : Char)

/-! ### Atoms -/

def isGap (c : Char) : Bool := c = ' ' || c = '\n' || c = '\r' || c = '\t'

def isPunctuator (c : Char) : Bool := ['(', ')', '[', ']', '\x7b', '\x7d', ',', ':'].contains c

/-- A numeral begins with a digit or a point before one. -/
def isNumeral : List Char → Bool
  | '.' :: d :: cs => d.isDigit && (numeralName? ('.' :: d :: cs)).isSome
  | c :: cs => c.isDigit && (numeralName? (c :: cs)).isSome
  | [] => false

def isSignedNumeral : List Char → Bool
  | c :: cs => if c = '+' || c = '-' then isNumeral (cs.dropWhile isGap) else isNumeral (c :: cs)
  | [] => false

/-- The contents of a literal behind its opening quote, and what stands behind the closing one. -/
def splitQuote (quote : Char) : List Char → Option (List Char × List Char)
  | [] => none
  | '\\' :: c :: cs => (splitQuote quote cs).map fun r => ('\\' :: c :: r.1, r.2)
  | c :: cs => if c = quote then some ([], cs) else (splitQuote quote cs).map fun r => (c :: r.1, r.2)

def isWordPart (c : Char) : Bool := isIdentifierPart c.toNat

def isWordStart (c : Char) : Bool := isIdentifierStart c.toNat

def isNumeralPart (c : Char) : Bool := isNumeralChar c || isGap c

def atom? : List Char → Option (Atom × List Char)
  | [] => none
  | c :: cs =>
    if isPunctuator c then some (.mark c, cs)
    else if isQuote c then
      (splitQuote c cs).bind fun r => (stringUnits? c (r.1 ++ [c])).map fun us => (.text us, r.2)
    else if isWordStart c then
      some (.word (.ofList (c :: cs.takeWhile isWordPart)), cs.dropWhile isWordPart)
    else if c = '.' && cs.head?.any isWordStart then
      some (.member (.ofList (cs.takeWhile isWordPart)), cs.dropWhile isWordPart)
    else
      let source := c :: cs.takeWhile isNumeralPart
      if isSignedNumeral source then some (.numeral (.ofList source), cs.dropWhile isNumeralPart)
      else none

theorem length_lt_of_splitQuote {quote : Char} {cs : List Char} {r : List Char × List Char}
    (h : splitQuote quote cs = some r) : r.2.length < cs.length := by
  fun_induction splitQuote quote cs generalizing r with
  | case1 => cases h
  | case2 c cs ih =>
    obtain ⟨s, hs, rfl⟩ := Option.map_eq_some_iff.1 h
    have := ih hs
    simp only [List.length_cons]
    omega
  | case3 cs =>
    obtain rfl := Option.some.inj h
    simp
  | case4 c cs _ _ ih =>
    obtain ⟨s, hs, rfl⟩ := Option.map_eq_some_iff.1 h
    have := ih hs
    simp only [List.length_cons]
    omega

theorem length_lt_of_atom? {cs rest : List Char} {t : Atom} (h : atom? cs = some (t, rest)) :
    rest.length < cs.length := by
  cases cs with
  | nil => cases h
  | cons c cs =>
    have hdrop (p : Char → Bool) : (cs.dropWhile p).length < (c :: cs).length :=
      Nat.lt_succ_of_le (List.dropWhile_sublist p).length_le
    simp only [atom?] at h
    split_ifs at h with hmark hquote hword hmember hnumeral
    · obtain ⟨-, rfl⟩ := Prod.mk.inj (Option.some.inj h)
      exact Nat.lt_succ_self _
    · obtain ⟨r, hr, hunits⟩ := Option.bind_eq_some_iff.1 h
      obtain ⟨us, -, heq⟩ := Option.map_eq_some_iff.1 hunits
      obtain ⟨-, rfl⟩ := Prod.mk.inj heq
      exact Nat.lt_succ_of_lt (length_lt_of_splitQuote hr)
    · obtain ⟨-, rfl⟩ := Prod.mk.inj (Option.some.inj h)
      exact hdrop _
    · obtain ⟨-, rfl⟩ := Prod.mk.inj (Option.some.inj h)
      exact hdrop _
    · obtain ⟨-, rfl⟩ := Prod.mk.inj (Option.some.inj h)
      exact hdrop _

/-! ### Expressions -/

/-- Something that is open: the arguments of a call, the items of a list, or the properties of an object, the
last perhaps with its key. -/
inductive Frame where
  | arguments (function : Expression) (before : List Expression)
  | items (before : List Expression)
  | entries (before : List (Entry Expression)) (key : Option (List Nat))

/-- What has been read: all that is open, inner frames first, and the expression that has begun. -/
structure Progress where
  frames : List Frame
  current : Option Expression

/-- The key that stands before a colon. -/
def Expression.key? : Expression → Option (List Nat)
  | word name => some (name.toList.flatMap (units ·.toNat))
  | text us => some us
  | _ => none

namespace Progress

def begin (p : Progress) (e : Expression) : Option Progress :=
  if p.current.isNone then some ⟨p.frames, some e⟩ else none

def enter (p : Progress) (f : Frame) : Option Progress :=
  if p.current.isNone then some ⟨f :: p.frames, none⟩ else none

def separate (p : Progress) : Option Progress :=
  match p.frames, p.current with
  | .arguments f es :: fs, some e => some ⟨.arguments f (es ++ [e]) :: fs, none⟩
  | .items es :: fs, some e => some ⟨.items (es ++ [e]) :: fs, none⟩
  | .entries es (some key) :: fs, some e => some ⟨.entries (es ++ [⟨key, e⟩]) none :: fs, none⟩
  | _, _ => none

/-- Close what is open with the mark for it. A comma can stand behind the last part. -/
def close (p : Progress) (c : Char) : Option Progress :=
  match c, p.frames, p.current with
  | ')', .arguments f es :: fs, last => some ⟨fs, some (.call f (es ++ last.toList))⟩
  | ']', .items es :: fs, last => some ⟨fs, some (.list (es ++ last.toList))⟩
  | '\x7d', .entries es none :: fs, none => some ⟨fs, some (.object es)⟩
  | '\x7d', .entries es (some key) :: fs, some e => some ⟨fs, some (.object (es ++ [⟨key, e⟩]))⟩
  | _, _, _ => none

def step (p : Progress) : Atom → Option Progress
  | .word name => p.begin (.word name)
  | .text us => p.begin (.text us)
  | .numeral source => p.begin (.numeral source)
  | .member name => p.current.map fun e => ⟨p.frames, some (.member e name)⟩
  | .mark '(' => p.current.map fun e => ⟨.arguments e [] :: p.frames, none⟩
  | .mark '[' => p.enter (.items [])
  | .mark '\x7b' => p.enter (.entries [] none)
  | .mark ',' => p.separate
  | .mark ':' =>
    match p.frames, p.current with
    | .entries es none :: fs, some e => e.key?.map fun key => ⟨.entries es (some key) :: fs, none⟩
    | _, _ => none
  | .mark c => p.close c

def read (p : Progress) : List Char → Option Progress
  | [] => some p
  | c :: cs =>
    if isGap c then p.read cs
    else
      match _h : atom? (c :: cs) with
      | some (t, rest) => (p.step t).bind fun q => q.read rest
      | none => none
termination_by cs => cs.length
decreasing_by
  · simp
  · exact length_lt_of_atom? _h

end Progress

def expression? (cs : List Char) : Option Expression :=
  ((Progress.mk [] none).read cs).bind fun p => if p.frames.isEmpty then p.current else none

/-! ### Characters of atoms -/

section Characters

variable {c d : Char} {cs source : List Char}

theorem isWordPart_of_isWordStart (h : isWordStart c = true) : isWordPart c = true := by
  rw [isWordStart, isIdentifierStart, Bool.and_eq_true] at h
  exact h.1

theorem isWordOf_cons (h : isWordOf ((c :: cs).map Char.toNat) = true) :
    isWordStart c = true ∧ ∀ d ∈ cs, isWordPart d = true := by
  rw [List.map_cons, isWordOf, Bool.and_eq_true, List.all_map, List.all_eq_true] at h
  exact h

theorem not_isWordPart_cases (h : isWordPart c = true) :
    isGap c = false ∧ isPunctuator c = false ∧ isQuote c = false := by
  have hne {d : Char} (hd : isWordPart d = false) : c ≠ d := by
    rintro rfl
    exact absurd (hd.symm.trans h) (by decide)
  refine ⟨?_, ?_, ?_⟩
  · simp [isGap, hne (by decide : isWordPart ' ' = false), hne (by decide : isWordPart '\n' = false),
      hne (by decide : isWordPart '\r' = false), hne (by decide : isWordPart '\t' = false)]
  · rw [← Bool.not_eq_true, isPunctuator, List.contains_iff_mem]
    intro hmem
    simp only [List.mem_cons, List.not_mem_nil, or_false] at hmem
    rcases hmem with rfl | rfl | rfl | rfl | rfl | rfl | rfl | rfl <;> exact absurd h (by decide)
  · simp [isQuote, hne (by decide : isWordPart '"' = false), hne (by decide : isWordPart '\'' = false)]

theorem isNumeralChar_of_isNumeral (h : isNumeral cs = true) : ∀ c ∈ cs, isNumeralChar c = true := by
  unfold isNumeral at h
  split at h
  · rw [Bool.and_eq_true] at h
    obtain ⟨name, hname⟩ := Option.isSome_iff_exists.1 h.2
    exact isNumeralChar_of_numeralName? hname
  · rw [Bool.and_eq_true] at h
    obtain ⟨name, hname⟩ := Option.isSome_iff_exists.1 h.2
    exact isNumeralChar_of_numeralName? hname
  · cases h

theorem isNumeralPart_of_isSignedNumeral (h : isSignedNumeral cs = true) :
    ∀ c ∈ cs, isNumeralPart c = true := by
  have hpart {c : Char} (hc : isNumeralChar c = true) : isNumeralPart c = true := by
    rw [isNumeralPart, hc, Bool.true_or]
  cases cs with
  | nil => cases h
  | cons c cs =>
    rw [isSignedNumeral] at h
    split_ifs at h with hsign
    · refine List.forall_mem_cons.2 ⟨hpart ?_, fun d hd => ?_⟩
      · rcases (by simpa using hsign : c = '+' ∨ c = '-') with rfl | rfl <;> decide
      · rw [← List.takeWhile_append_dropWhile (p := isGap) (l := cs), List.mem_append] at hd
        rcases hd with hd | hd
        · rw [isNumeralPart, List.mem_takeWhile_imp hd, Bool.or_true]
        · exact hpart (isNumeralChar_of_isNumeral h d hd)
    · exact fun d hd => hpart (isNumeralChar_of_isNumeral h d hd)

theorem splitQuote_of_stringUnits? {quote : Char} (hquote : isQuote quote = true) {v : List Nat}
    (h : stringUnits? quote (cs ++ [quote]) = some v) (rest : List Char) :
    splitQuote quote (cs ++ quote :: rest) = some (cs, rest) := by
  have hne : quote ≠ '\\' := by
    rintro rfl
    exact absurd hquote (by decide)
  have hplain {c : Char} (hc : c ≠ '\\') (cs : List Char) : splitQuote quote (c :: cs) =
      if c = quote then some ([], cs) else (splitQuote quote cs).map fun r => (c :: r.1, r.2) := by
    rw [splitQuote]
    simp [hc]
  have hrest {e : List Char} (he : EscapeRest e) (cs : List Char) : splitQuote quote (e ++ cs) =
      (splitQuote quote cs).map fun r => (e ++ r.1, r.2) := by
    obtain ⟨hbackslash, hdouble, hsingle⟩ := he
    induction e with
    | nil => simp
    | cons c e ih =>
      rw [List.mem_cons, not_or] at hbackslash hdouble hsingle
      have hquote' : c ≠ quote := by
        rcases (by simpa [isQuote] using hquote : quote = '"' ∨ quote = '\'') with rfl | rfl
        · exact Ne.symm hdouble.1
        · exact Ne.symm hsingle.1
      rw [List.cons_append, hplain (Ne.symm hbackslash.1), if_neg hquote',
        ih hbackslash.2 hdouble.2 hsingle.2, Option.map_map]
      rfl
  refine contents_induction (motive := fun cs _ => splitQuote quote (cs ++ quote :: rest) =
    some (cs, rest)) ?_ (fun d e us r vs he _ ih => ?_) (fun c cs vs hc ih => ?_) h
  · rw [List.nil_append, hplain hne, if_pos rfl]
  · rw [List.cons_append, List.cons_append, List.append_assoc, splitQuote, hrest he, ih]
    rfl
  · obtain ⟨hcquote, hbackslash, -⟩ := isOrdinary_iff.1 hc
    rw [List.cons_append, hplain hbackslash, if_neg hcquote, ih]
    rfl

theorem isSignedNumeral_cases (h : isSignedNumeral (c :: cs) = true) (rest : List Char) :
    isGap c = false ∧ isPunctuator c = false ∧ isQuote c = false ∧ isWordStart c = false ∧
      (decide (c = '.') && (cs ++ rest).head?.any isWordStart) = false := by
  have hdigit {c : Char} (hc : c.isDigit = true) : isGap c = false ∧ isPunctuator c = false ∧
      isQuote c = false ∧ isWordStart c = false ∧ c ≠ '.' := by
    have hascii : c.toNat < 128 := lt_of_isAlphanum (by rw [Char.isAlphanum, hc, Bool.or_true])
    refine Text.forall_ascii (P := fun c => c.isDigit = true → isGap c = false ∧ isPunctuator c = false ∧
      isQuote c = false ∧ isWordStart c = false ∧ c ≠ '.') ?_ c hascii hc
    decide +kernel
  rw [isSignedNumeral] at h
  split_ifs at h with hsign
  · rcases (by simpa using hsign : c = '+' ∨ c = '-') with rfl | rfl <;> simp <;> decide
  · unfold isNumeral at h
    split at h
    · next d ds heq =>
      obtain ⟨rfl, rfl⟩ := List.cons.inj heq
      rw [Bool.and_eq_true] at h
      have hd := (hdigit h.1).2.2.2.1
      refine ⟨by decide, by decide, by decide, by decide, ?_⟩
      simp [hd]
    · next d ds _ heq =>
      obtain ⟨rfl, rfl⟩ := List.cons.inj heq
      rw [Bool.and_eq_true] at h
      obtain ⟨hgap, hmark, hquote, hword, hpoint⟩ := hdigit h.1
      exact ⟨hgap, hmark, hquote, hword, by simp [hpoint]⟩
    · next heq => cases heq

end Characters

/-! ### Reading on -/

namespace Progress

variable {p q : Progress} {fs : List Frame} {e : Expression} {c : Char} {cs rest : List Char}

theorem read_gap (hc : isGap c = true) : p.read (c :: cs) = p.read cs := by
  rw [read, if_pos hc]

theorem read_gaps {gaps : List Char} (h : ∀ c ∈ gaps, isGap c = true) :
    p.read (gaps ++ cs) = p.read cs := by
  induction gaps with
  | nil => rfl
  | cons c gaps ih =>
    obtain ⟨hc, hgaps⟩ := List.forall_mem_cons.1 h
    rw [List.cons_append, read_gap hc, ih hgaps]

theorem read_atom {t : Atom} (hc : isGap c = false) (ht : atom? (c :: cs) = some (t, rest))
    (hstep : p.step t = some q) : p.read (c :: cs) = q.read rest := by
  rw [read, hc, if_neg (by decide)]
  split
  · next t' rest' hatom =>
    obtain ⟨rfl, rfl⟩ := Prod.mk.inj (Option.some.inj (ht.symm.trans hatom))
    rw [hstep, Option.bind_some]
  · next hnone => exact absurd (ht.symm.trans hnone) (by simp)

theorem read_mark (hc : isPunctuator c = true) (hstep : p.step (.mark c) = some q) :
    p.read (c :: cs) = q.read cs := by
  refine read_atom ?_ (by rw [atom?, if_pos hc]) hstep
  simp only [isPunctuator, List.contains_iff_mem, List.mem_cons, List.not_mem_nil, or_false] at hc
  rcases hc with rfl | rfl | rfl | rfl | rfl | rfl | rfl | rfl <;> decide

/-- A text at which a word or a name of a method ends. -/
def Stops (rest : List Char) : Prop := ∀ c ∈ rest.head?, isWordPart c = false

theorem stops_cons (hc : isWordPart c = false) : Stops (c :: rest) := by
  intro d hd
  obtain rfl := Option.some.inj hd
  exact hc

theorem span_of_all {p : Char → Bool} (hcs : ∀ c ∈ cs, p c = true) (hrest : ∀ c ∈ rest.head?, p c = false) :
    (cs ++ rest).takeWhile p = cs ∧ (cs ++ rest).dropWhile p = rest := by
  have hnone : rest.takeWhile p = [] ∧ rest.dropWhile p = rest := by
    cases rest with
    | nil => exact ⟨rfl, rfl⟩
    | cons d rest =>
      have hd : ¬p d = true := by simp [hrest d rfl]
      exact ⟨List.takeWhile_cons_of_neg hd, List.dropWhile_cons_of_neg hd⟩
  rw [List.takeWhile_append_of_pos hcs, List.dropWhile_append_of_pos hcs, hnone.1, hnone.2,
    List.append_nil]
  exact ⟨rfl, rfl⟩

theorem read_word (h : isWordOf (cs.map Char.toNat) = true) (hrest : Stops rest) :
    (Progress.mk fs none).read (cs ++ rest) =
      (Progress.mk fs (some (.word (.ofList cs)))).read rest := by
  cases cs with
  | nil => cases h
  | cons c cs =>
    obtain ⟨hstart, hcs⟩ := isWordOf_cons h
    obtain ⟨hgap, hmark, hquote⟩ := not_isWordPart_cases (isWordPart_of_isWordStart hstart)
    obtain ⟨htake, hdrop⟩ := span_of_all hcs hrest
    have hatom : atom? (c :: (cs ++ rest)) = some (.word (.ofList (c :: cs)), rest) := by
      rw [atom?, hmark, if_neg (by decide), hquote, if_neg (by decide), if_pos hstart, htake, hdrop]
    exact read_atom hgap hatom rfl

theorem read_member (h : isWordOf (cs.map Char.toNat) = true) (hrest : Stops rest) :
    (Progress.mk fs (some e)).read ('.' :: (cs ++ rest)) =
      (Progress.mk fs (some (.member e (.ofList cs)))).read rest := by
  cases cs with
  | nil => cases h
  | cons c cs =>
    obtain ⟨hstart, hcs⟩ := isWordOf_cons h
    have hall : ∀ d ∈ c :: cs, isWordPart d = true :=
      List.forall_mem_cons.2 ⟨isWordPart_of_isWordStart hstart, hcs⟩
    obtain ⟨htake, hdrop⟩ := span_of_all hall hrest
    rw [List.cons_append] at htake hdrop ⊢
    have hnext : (decide ('.' = '.') && (c :: (cs ++ rest)).head?.any isWordStart) = true := by
      simp [hstart]
    have hatom : atom? ('.' :: c :: (cs ++ rest)) = some (.member (.ofList (c :: cs)), rest) := by
      rw [atom?, if_neg (by decide), if_neg (by decide), if_neg (by decide), if_pos hnext, htake, hdrop]
    exact read_atom (by decide) hatom rfl

theorem read_text {v : List Nat} (h : stringUnits? '"' (cs ++ ['"']) = some v) :
    (Progress.mk fs none).read ('"' :: (cs ++ '"' :: rest)) =
      (Progress.mk fs (some (.text v))).read rest := by
  have hsplit := splitQuote_of_stringUnits? (by decide) h rest
  have hatom : atom? ('"' :: (cs ++ '"' :: rest)) = some (.text v, rest) := by
    rw [atom?, if_neg (by decide), if_pos (by decide), hsplit, Option.bind_some, h]
    rfl
  exact read_atom (by decide) hatom rfl

theorem read_numeral (h : isSignedNumeral cs = true) (hrest : ∀ c ∈ rest.head?, isNumeralPart c = false) :
    (Progress.mk fs none).read (cs ++ rest) =
      (Progress.mk fs (some (.numeral (.ofList cs)))).read rest := by
  cases cs with
  | nil => cases h
  | cons c cs =>
    have hparts := isNumeralPart_of_isSignedNumeral h
    obtain ⟨htake, hdrop⟩ := span_of_all (fun d hd => hparts d (List.mem_cons_of_mem c hd)) hrest
    obtain ⟨hgap, hmark, hquote, hword, hmember⟩ := isSignedNumeral_cases h rest
    have hatom : atom? (c :: (cs ++ rest)) = some (.numeral (.ofList (c :: cs)), rest) := by
      rw [atom?, hmark, if_neg (by decide), hquote, if_neg (by decide), hword, if_neg (by decide), hmember,
        if_neg (by decide), htake, hdrop]
      exact if_pos h
    exact read_atom hgap hatom rfl

end Progress

end SchemaGen.TypeScript
