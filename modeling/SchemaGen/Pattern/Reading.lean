import SchemaGen.Pattern.Basic
import SchemaGen.Text.Blank
import SchemaGen.Text.Property

namespace SchemaGen.Pattern

/-- What the flags in a pattern say. `crlf` makes a carriage return part of a line break, and `verbose`
lets white space and comments stand in a pattern without meaning. -/
structure Flags where
  ignoreCase : Bool
  multiLine : Bool
  dotAll : Bool
  unicode : Bool
  crlf : Bool
  verbose : Bool

def Flags.standard : Flags := ⟨false, false, false, true, false, false⟩

def Flags.accepting (f : Flags) (accepts : Char → Bool) : Char → Bool :=
  if f.ignoreCase then foldClass accepts else accepts

def Flags.word (f : Flags) : Char → Bool := if f.unicode then Text.isWord else isAsciiWord

/-- Drop white space and comments if they have no meaning. Each comment ends with its line. -/
def Flags.skip (f : Flags) (cs : List Char) : List Char :=
  if f.verbose then go false cs else cs
where
  go (comment : Bool) : List Char → List Char
    | [] => []
    | c :: cs =>
      if comment then go (c ≠ '\n') cs
      else if c = '#' then go true cs
      else if Text.isBlank c then go false cs
      else c :: cs

/-- Characters that mean something in a pattern, which a backslash takes away. -/
def isEscapable (c : Char) : Bool := c.toNat < 128 && !c.isAlphanum && c ≠ '<' && c ≠ '>'

def hexValue? (c : Char) : Option Nat :=
  if c.isDigit then some (c.toNat - 48)
  else if range 'a' 'f' c then some (c.toNat - 87)
  else if range 'A' 'F' c then some (c.toNat - 55)
  else none

/-- The character whose number is written with hexadecimal digits. -/
def hexChar? (digits : List Char) : Option Char := do
  let values ← digits.mapM hexValue?
  let n := values.foldl (fun n v => 16 * n + v) 0
  if !digits.isEmpty && digits.length ≤ 8 && n.isValidChar then some (Char.ofNat n) else none

/-- Read a character by its number: in braces, or with the given count of digits. -/
def hexEscape? (count : Nat) : List Char → Option (Char × List Char)
  | '\x7b' :: cs => do
    let c ← hexChar? (cs.takeWhile (· ≠ '\x7d'))
    match cs.dropWhile (· ≠ '\x7d') with
    | _ :: rest => some (c, rest)
    | [] => none
  | cs => do
    if cs.length < count then none
    return (← hexChar? (cs.take count), cs.drop count)

/-- What a backslash and the characters behind it stand for. -/
inductive Escape where
  | char (c : Char)
  | class (accepts : Char → Bool)
  | place (place : Place)

def Flags.escapedClass (f : Flags) (unicode ascii : Char → Bool) (negated : Bool) : Option Escape :=
  if f.unicode then some (.class fun c => unicode c != negated)
  else if negated then none
  else some (.class ascii)

/-- The name of a property, perhaps behind the name of the kind of property. -/
def propertyValue (name : List Char) : List Char :=
  match name.dropWhile fun c => c ≠ '=' && c ≠ ':' with
  | _ :: value => value
  | [] => name

def propertyEscape? (f : Flags) (negated : Bool) (cs : List Char) : Option (Escape × List Char) := do
  if !f.unicode then none
  let (name, rest) ← match cs with
    | '\x7b' :: cs =>
      match cs.dropWhile (· ≠ '\x7d') with
      | _ :: rest => some (cs.takeWhile (· ≠ '\x7d'), rest)
      | [] => none
    | c :: rest => some ([c], rest)
    | [] => none
  let accepts ← Text.property? (propertyValue name)
  let accepts := f.accepting accepts
  return (.class fun c => accepts c != negated, rest)

/-- Read the kind of a boundary in braces. What does not look like one is left alone. -/
def boundaryEscape? (cs : List Char) : Option (Place × List Char) :=
  match cs with
  | '\x7b' :: [] => none
  | '\x7b' :: c :: rest =>
    if c.isAlpha || c = '-' then
      match (c :: rest).dropWhile (· ≠ '\x7d') with
      | _ :: after =>
        match String.ofList ((c :: rest).takeWhile (· ≠ '\x7d')) with
        | "start" => some (.wordStart, after)
        | "end" => some (.wordEnd, after)
        | "start-half" => some (.wordStartHalf, after)
        | "end-half" => some (.wordEndHalf, after)
        | _ => none
      | [] => none
    else some (.boundary, cs)
  | _ => some (.boundary, cs)

def escape? (f : Flags) : List Char → Option (Escape × List Char)
  | [] => none
  | c :: cs =>
    if isEscapable c then some (.char c, cs)
    else match c with
      | 'x' => (hexEscape? 2 cs).map fun (c, rest) => (.char c, rest)
      | 'u' => (hexEscape? 4 cs).map fun (c, rest) => (.char c, rest)
      | 'U' => (hexEscape? 8 cs).map fun (c, rest) => (.char c, rest)
      | 'p' => propertyEscape? f false cs
      | 'P' => propertyEscape? f true cs
      | 'd' => (f.escapedClass Text.isDigit Char.isDigit false).map (·, cs)
      | 'D' => (f.escapedClass Text.isDigit Char.isDigit true).map (·, cs)
      | 's' => (f.escapedClass Text.isBlank isAsciiBlank false).map (·, cs)
      | 'S' => (f.escapedClass Text.isBlank isAsciiBlank true).map (·, cs)
      | 'w' => (f.escapedClass Text.isWord isAsciiWord false).map (·, cs)
      | 'W' => (f.escapedClass Text.isWord isAsciiWord true).map (·, cs)
      | 'a' => some (.char '\x07', cs)
      | 'f' => some (.char '\x0c', cs)
      | 't' => some (.char '\t', cs)
      | 'n' => some (.char '\n', cs)
      | 'r' => some (.char '\r', cs)
      | 'v' => some (.char '\x0b', cs)
      | 'A' => some (.place .textStart, cs)
      | 'z' => some (.place .textEnd, cs)
      | 'b' => (boundaryEscape? cs).map fun (p, rest) => (.place p, rest)
      | 'B' => some (.place .noBoundary, cs)
      | '<' => some (.place .wordStart, cs)
      | '>' => some (.place .wordEnd, cs)
      | _ => none

/-! ### Classes in brackets -/

def asciiClass? (name : String) : Option (Char → Bool) :=
  match name with
  | "alnum" => some Char.isAlphanum
  | "alpha" => some Char.isAlpha
  | "ascii" => some fun c => c.toNat < 128
  | "blank" => some fun c => c = ' ' || c = '\t'
  | "cntrl" => some fun c => c.toNat < 32 || c.toNat = 127
  | "digit" => some Char.isDigit
  | "graph" => some (range '!' '~')
  | "lower" => some (range 'a' 'z')
  | "print" => some (range ' ' '~')
  | "punct" => some fun c => range '!' '~' c && !c.isAlphanum
  | "space" => some isAsciiBlank
  | "upper" => some (range 'A' 'Z')
  | "word" => some isAsciiWord
  | "xdigit" => some fun c => (hexValue? c).isSome
  | _ => none

def namedClass? (f : Flags) : List Char → Option ((Char → Bool) × List Char)
  | ':' :: cs =>
    let (negated, cs) := match cs with
      | '^' :: cs => (true, cs)
      | cs => (false, cs)
    match cs.dropWhile (· ≠ ':') with
    | ':' :: ']' :: rest =>
      (asciiClass? (String.ofList (cs.takeWhile (· ≠ ':')))).map fun accepts =>
        let accepts := f.accepting accepts
        (fun c => accepts c != negated, rest)
    | _ => none
  | _ => none

/-- How the classes on both sides of an operator are put together. -/
inductive Combine where
  | both
  | leftOnly
  | oneSide

def Combine.apply (left right : Char → Bool) : Combine → Char → Bool
  | both, c => left c && right c
  | leftOnly, c => left c && !right c
  | oneSide, c => left c != right c

/-- A class that is being read: what stands before the last operator, and what has been seen since. -/
structure Bracket where
  before : Option ((Char → Bool) × Combine)
  accepts : Char → Bool

def Bracket.new : Bracket := ⟨none, fun _ => false⟩

def Bracket.add (b : Bracket) (accepts : Char → Bool) : Bracket :=
  { b with accepts := fun c => b.accepts c || accepts c }

def Bracket.value (b : Bracket) : Char → Bool :=
  match b.before with
  | some (left, combine) => combine.apply left b.accepts
  | none => b.accepts

def Bracket.operator (b : Bracket) (combine : Combine) : Bracket :=
  ⟨some (b.value, combine), fun _ => false⟩

inductive ClassItem where
  | char (c : Char)
  | class (accepts : Char → Bool)

/-- Read an item of a class. Conditions on places are no items. -/
def classItem? (f : Flags) : List Char → Option (ClassItem × List Char)
  | '\\' :: cs =>
    match escape? f cs with
    | some (.char c, rest) => some (.char c, rest)
    | some (.class accepts, rest) => some (.class accepts, rest)
    | _ => none
  | c :: cs => some (.char c, cs)
  | [] => none

/-- Read an item or a range of characters. A hyphen before the end of the class or before another
hyphen makes no range. -/
def classRange? (f : Flags) (cs : List Char) : Option ((Char → Bool) × List Char) := do
  let (first, rest) ← classItem? f cs
  let single : Char → Bool := match first with
    | .char c => f.accepting (· = c)
    | .class accepts => accepts
  match f.skip rest with
  | [] => none
  | '-' :: after =>
    match f.skip after with
    | [] => none
    | ']' :: _ | '-' :: _ => some (single, f.skip rest)
    | after =>
      match first, ← classItem? f after with
      | .char a, (.char b, rest) =>
        if a ≤ b then some (f.accepting (range a b), rest) else none
      | _, _ => none
  | rest => some (single, rest)

/-- Read what stands at the beginning of a class: whether it is negated, and hyphens and a closing
bracket that stand for themselves. -/
def openBracket? (f : Flags) (cs : List Char) : Option (Bool × Bracket × List Char) :=
  let cs := f.skip cs
  let (negated, cs) := match cs with
    | '^' :: cs => (true, f.skip cs)
    | cs => (false, cs)
  let hyphens := cs.takeWhile (· = '-')
  let b := if hyphens.isEmpty then Bracket.new else Bracket.new.add (f.accepting (· = '-'))
  match f.skip (cs.dropWhile (· = '-')) with
  | [] => none
  | ']' :: rest =>
    if hyphens.isEmpty then some (negated, b.add (· = ']'), f.skip rest)
    else some (negated, b, ']' :: rest)
  | cs => some (negated, b, cs)

def bracket? (f : Flags) : Nat → Bracket → List Char → Option ((Char → Bool) × List Char)
  | 0, _, _ => none
  | fuel + 1, b, cs =>
    match f.skip cs with
    | [] => none
    | ']' :: rest => some (b.value, rest)
    | '[' :: cs =>
      match namedClass? f cs with
      | some (accepts, rest) => bracket? f fuel (b.add accepts) rest
      | none => do
        let (negated, inner, cs) ← openBracket? f cs
        let (accepts, rest) ← bracket? f fuel inner cs
        if negated && !f.unicode then none
        bracket? f fuel (b.add fun c => accepts c != negated) rest
    | '&' :: '&' :: cs => bracket? f fuel (b.operator .both) cs
    | '-' :: '-' :: cs => bracket? f fuel (b.operator .leftOnly) cs
    | '~' :: '~' :: cs => bracket? f fuel (b.operator .oneSide) cs
    | cs => do
      let (accepts, rest) ← classRange? f cs
      bracket? f fuel (b.add accepts) rest

def class? (f : Flags) (cs : List Char) : Option (Pattern × List Char) := do
  let (negated, b, rest) ← openBracket? f cs
  let (accepts, rest) ← bracket? f (cs.length + 1) b rest
  if negated && !f.unicode then none
  return (.one fun c => accepts c != negated, rest)

/-! ### Repetitions -/

/-- Read a number of repetitions, which fits into 32 bits. -/
def count? (f : Flags) (cs : List Char) : Option (Nat × List Char) := do
  let cs := (f.skip cs).dropWhile Text.isBlank
  let digits := cs.takeWhile Char.isDigit
  let rest := (cs.dropWhile Char.isDigit).dropWhile Text.isBlank
  let n := digits.foldl (fun n c => 10 * n + (c.toNat - 48)) 0
  if digits.isEmpty || n ≥ 4294967296 then none
  return (n, rest)

/-- Read how often something is repeated, behind the opening brace. -/
def bounds? (f : Flags) (cs : List Char) : Option (Nat × Option Nat × List Char) := do
  let (min, rest) ← count? f cs
  match f.skip rest with
  | '\x7d' :: rest => some (min, some min, rest)
  | ',' :: rest =>
    match f.skip rest with
    | '\x7d' :: rest => some (min, none, rest)
    | rest =>
      let (max, rest) ← count? f rest
      match f.skip rest with
      | '\x7d' :: rest => if min ≤ max then some (min, some max, rest) else none
      | _ => none
  | _ => none

/-- A question mark behind a repetition asks for few instead of many, which matches the same texts. -/
def dropLazy (f : Flags) (cs : List Char) : List Char :=
  match f.skip cs with
  | '?' :: rest => rest
  | cs => cs

/-! ### Groups -/

/-- Set a flag. Whether many or few repetitions are preferred is of no importance. -/
def Flags.set (f : Flags) (value : Bool) : Char → Option Flags
  | 'i' => some { f with ignoreCase := value }
  | 'm' => some { f with multiLine := value }
  | 's' => some { f with dotAll := value }
  | 'u' => some { f with unicode := value }
  | 'R' => some { f with crlf := value }
  | 'x' => some { f with verbose := value }
  | 'U' => some f
  | _ => none

/-- Read flags up to a colon or a closing parenthesis; those behind a minus are taken away. No flag
comes twice, and something follows the minus. -/
def flags? (f : Flags) (value : Bool) (seen : List Char) : List Char → Option (Flags × List Char)
  | [] => none
  | c :: cs =>
    if c = ':' || c = ')' then
      if seen.head? = some '-' then none else some (f, c :: cs)
    else if seen.contains c then none
    else if c = '-' then flags? f false (c :: seen) cs
    else (f.set value c).bind fun f => flags? f value (c :: seen) cs

def isGroupName (first : Bool) (c : Char) : Bool :=
  c = '_' ||
    (if first then Text.isWord c && !Text.isDigit c
    else c = '.' || c = '[' || c = ']' || Text.isWord c)

def groupName? (names : List String) (cs : List Char) : Option (String × List Char) :=
  match cs.takeWhile (· ≠ '>'), cs.dropWhile (· ≠ '>') with
  | c :: rest, _ :: after =>
    let name := String.ofList (c :: rest)
    if isGroupName true c && rest.all (isGroupName false) && !names.contains name then
      some (name, after)
    else none
  | _, _ => none

/-- The opening of a group: a change of flags, or a group with its own flags and the names known in
it. -/
inductive Opening where
  | flags (flags : Flags)
  | group (flags : Flags) (names : List String)

def opening? (f : Flags) (names : List String) (cs : List Char) : Option (Opening × List Char) :=
  match cs with
  | '?' :: '=' :: _ | '?' :: '!' :: _ | '?' :: '<' :: '=' :: _ | '?' :: '<' :: '!' :: _ => none
  | '?' :: 'P' :: '<' :: cs | '?' :: '<' :: cs =>
    (groupName? names cs).map fun (name, rest) => (.group f (name :: names), rest)
  | '?' :: cs =>
    match flags? f true [] cs with
    | some (f, ':' :: rest) => some (.group f names, rest)
    | some (f, _ :: rest) => if cs.head? = some ')' then none else some (.flags f, rest)
    | _ => none
  | cs => some (.group f names, cs)

/-! ### Patterns -/

/-- What has been read of a sequence: a part of the pattern, or a change of flags, which cannot be
repeated. -/
inductive Item where
  | part (p : Pattern)
  | flags

def Item.pattern : Item → Pattern
  | part p => p
  | flags => .nothing

def sequenceOf (items : List Item) : Pattern :=
  items.foldl (fun p item => match p with
    | .nothing => item.pattern
    | p => .sequence item.pattern p) .nothing

def alternative (before : Option Pattern) (items : List Item) : Pattern :=
  match before with
  | some p => .either p (sequenceOf items)
  | none => sequenceOf items

def repeatLast? (items : List Item) (min : Nat) (max : Option Nat) : Option (List Item) :=
  match items with
  | .part p :: rest => some (.part (.times p min max) :: rest)
  | _ => none

def Flags.dot? (f : Flags) : Option Pattern :=
  if !f.unicode then none
  else if f.dotAll then some (.one fun _ => true)
  else if f.crlf then some (.one fun c => c ≠ '\n' && c ≠ '\r')
  else some (.one (· ≠ '\n'))

def Flags.caret (f : Flags) : Pattern :=
  .place (if f.multiLine then .lineStart else .textStart) f.word

def Flags.dollar (f : Flags) : Pattern :=
  .place (if f.multiLine then .lineEnd else .textEnd) f.word

/-- The meaning of what stands behind a backslash. -/
def Flags.escaped (f : Flags) : Escape → Pattern
  | .char c => .one (f.accepting (· = c))
  | .class accepts => .one accepts
  | .place p => .place p f.word

/-- Read a pattern up to its end or, in a group, up to the closing parenthesis. `items` are the items of
the alternative that is being read, last first. -/
def read? (inGroup : Bool) : Nat → Flags → List String → Option Pattern → List Item → List Char →
    Option (Pattern × List String × List Char)
  | 0, _, _, _, _, _ => none
  | fuel + 1, f, names, before, items, cs =>
    let continueWith (item : Pattern) (rest : List Char) :=
      read? inGroup fuel f names before (.part item :: items) rest
    let again (min : Nat) (max : Option Nat) (rest : List Char) :=
      (repeatLast? items min max).bind fun items =>
        read? inGroup fuel f names before items (dropLazy f rest)
    match f.skip cs with
    | [] => if inGroup then none else some (alternative before items, names, [])
    | ')' :: rest => if inGroup then some (alternative before items, names, rest) else none
    | '|' :: rest => read? inGroup fuel f names (some (alternative before items)) [] rest
    | '(' :: cs => do
      match ← opening? f names cs with
      | (.flags f, rest) => read? inGroup fuel f names before (.flags :: items) rest
      | (.group inner names, rest) =>
        let (p, names, rest) ← read? true fuel inner names none [] rest
        read? inGroup fuel f names before (.part p :: items) rest
    | '[' :: cs => (class? f cs).bind fun (p, rest) => continueWith p rest
    | '*' :: rest => again 0 none rest
    | '+' :: rest => again 1 none rest
    | '?' :: rest => again 0 (some 1) rest
    | '\x7b' :: cs => (bounds? f cs).bind fun (min, max, rest) => again min max rest
    | '.' :: rest => f.dot?.bind fun p => continueWith p rest
    | '^' :: rest => continueWith f.caret rest
    | '$' :: rest => continueWith f.dollar rest
    | '\\' :: cs => (escape? f cs).bind fun (e, rest) => continueWith (f.escaped e) rest
    | c :: rest => continueWith (.one (f.accepting (· = c))) rest

def ofString? (source : String) : Option Pattern :=
  (read? false (source.toList.length + 1) .standard [] none [] source.toList).map (·.1)

end SchemaGen.Pattern
