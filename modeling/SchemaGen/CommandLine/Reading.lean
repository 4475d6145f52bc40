import SchemaGen.CommandLine.Parameter

namespace SchemaGen

structure CommandLine where
  input : Option String := none
  output : Option String := none
  config : Option String := none
  schema : Option String := none
  includeNames : List String := []
  excludeNames : List String := []
  excludeTags : List String := []
  keepComments : Bool := false
  skipTags : Bool := false
  skipValidation : Bool := false
  passes : Option Nat := none
  formatCommand : List String := []
  json : Bool := false
  verbosity : Nat := 0
  deriving DecidableEq, Inhabited

namespace CommandLine

/-- Why a word is no count. -/
inductive NoCount where
  | empty
  | badDigit
  | tooLarge
  deriving DecidableEq, Inhabited

def NoCount.message : NoCount → String
  | empty => "cannot parse integer from empty string"
  | badDigit => "invalid digit found in string"
  | tooLarge => "number too large to fit in target type"

inductive Problem where
  | unexpected (word : String)
  | missingValue (parameter : Parameter)
  | repeated (parameter : Parameter)
  | unexpectedValue (value : String) (parameter : Parameter)
  | badValue (value : String) (parameter : Parameter) (cause : NoCount)
  deriving DecidableEq, Inhabited

def Problem.message : Problem → String
  | unexpected word => s!"unexpected argument '{word}' found"
  | missingValue p => s!"a value is required for '{p.shown}' but none was supplied"
  | repeated p => s!"the argument '{p.shown}' cannot be used multiple times"
  | unexpectedValue value p =>
    s!"unexpected value '{value}' for '{p.shown}' found; no more were expected"
  | badValue value p cause => s!"invalid value '{value}' for '{p.shown}': {cause.message}"

def Problem.showsUsage : Problem → Bool
  | unexpected _ | repeated _ | unexpectedValue _ _ => true
  | missingValue _ | badValue _ _ _ => false

def Problem.text (p : Problem) : String :=
  "error: " ++ p.message ++ "\n\n" ++ (if p.showsUsage then usage ++ "\n" else "") ++
    "For more information, try '--help'.\n"

/-- Why the command line is not read to its end. -/
inductive Stop where
  | help
  | version
  | problem (problem : Problem)
  deriving DecidableEq, Inhabited

/-- The least number that is too large for a count. -/
def countBound : Nat := 18446744073709551616

/-- Go on with a count by its next digits. The first mistake counts. -/
def readDigits (n : Nat) : List Char → Except NoCount Nat
  | [] => .ok n
  | c :: cs =>
    if !c.isDigit then .error .badDigit
    else
      let next := 10 * n + (c.toNat - '0'.toNat)
      if next ≥ countBound then .error .tooLarge else readDigits next cs

def readCount (word : String) : Except NoCount Nat :=
  match word.toList with
  | [] => .error .empty
  | ['+'] => .error .badDigit
  | '+' :: digits => readDigits 0 digits
  | digits => readDigits 0 digits

/-- The path of a file is not empty. -/
def readPath (p : Parameter) (word : String) : Except Stop String :=
  if word.isEmpty then .error (.problem (.missingValue p)) else .ok word

/-- Let a parameter say what it says; those without a value ignore the word. -/
def set (c : CommandLine) (p : Parameter) (word : String) : Except Stop CommandLine :=
  match p with
  | .input => return { c with input := some (← readPath p word) }
  | .output => return { c with output := some (← readPath p word) }
  | .config => return { c with config := some (← readPath p word) }
  | .schema => .ok { c with schema := some word }
  | .includeNames => .ok { c with includeNames := c.includeNames ++ [word] }
  | .excludeNames => .ok { c with excludeNames := c.excludeNames ++ [word] }
  | .excludeTags => .ok { c with excludeTags := c.excludeTags ++ [word] }
  | .keepComments => .ok { c with keepComments := true }
  | .skipTags => .ok { c with skipTags := true }
  | .skipValidation => .ok { c with skipValidation := true }
  | .passes =>
    match readCount word with
    | .ok n => .ok { c with passes := some n }
    | .error cause => .error (.problem (.badValue word p cause))
  | .formatCommand => .ok { c with formatCommand := c.formatCommand ++ [word] }
  | .json => .ok { c with json := true }
  | .verbose => .ok { c with verbosity := c.verbosity + 1 }
  | .help => .error .help
  | .version => .error .version

/-- How far a command line has been read: what it says so far, the parameters that have been given, the
one that waits, with its value if that has come, and whether only plain words may follow. -/
structure Draft where
  line : CommandLine
  seen : List Parameter
  waiting : Option (Parameter × Option String)
  onlyWords : Bool

def Draft.start : Draft := ⟨{}, [], none, false⟩

def Draft.take (d : Draft) (p : Parameter) (value : Option String) : Except Stop Draft :=
  if p.valueName?.isSome && value.isNone then .error (.problem (.missingValue p))
  else if !p.repeatable && d.seen.contains p then .error (.problem (.repeated p))
  else do
    let line ← d.line.set p (value.getD "")
    return { d with line, seen := p :: d.seen }

def Draft.settle (d : Draft) : Except Stop Draft :=
  match d.waiting with
  | some (p, value) => { d with waiting := none }.take p value
  | none => .ok d

/-- A parameter whose value is the next word. -/
def Draft.await (d : Draft) (p : Parameter) : Except Stop Draft := do
  return { ← d.settle with waiting := some (p, none) }

/-- Read a parameter by its name, with the value behind an equals sign if there is one. -/
def Draft.readName (d : Draft) (word : List Char) : Except Stop Draft :=
  let name := String.ofList (word.takeWhile (· ≠ '='))
  let value := match word.dropWhile (· ≠ '=') with
    | _ :: value => some (String.ofList value)
    | [] => none
  match Parameter.ofName? name, value with
  | none, _ => .error (.problem (.unexpected ("--" ++ name)))
  | some p, none => if p.valueName?.isSome then d.await p else d.settle.bind (·.take p none)
  | some p, some v =>
    if p.valueName?.isSome then d.settle.bind (·.take p (some v))
    else .error (.problem (.unexpectedValue v p))

/-- Read parameters by their letters. What stands behind the letter of a parameter that has a value is
its value, less an equals sign. -/
def Draft.readLetters (d : Draft) : List Char → Except Stop Draft
  | [] => .ok d
  | c :: cs =>
    match Parameter.ofLetter? c with
    | none => .error (.problem (.unexpected ("-" ++ c.toString)))
    | some p =>
      if p.valueName?.isSome then
        match cs with
        | [] => d.await p
        | '=' :: value => d.settle.bind (·.take p (some (String.ofList value)))
        | value => d.settle.bind (·.take p (some (String.ofList value)))
      else do
        let d ← (← d.settle).take p none
        d.readLetters cs

def Draft.readPlain (d : Draft) (word : String) : Except Stop Draft :=
  match d.waiting with
  | some (p, none) => .ok { d with waiting := some (p, some word) }
  | _ => .error (.problem (.unexpected word))

def Draft.wantsAnything (d : Draft) : Bool :=
  match d.waiting with
  | some (p, none) => p.takesAnything
  | _ => false

def Draft.readWord (d : Draft) (word : String) : Except Stop Draft :=
  if d.onlyWords then .error (.problem (.unexpected word))
  else if d.wantsAnything then d.readPlain word
  else match word.toList with
    | ['-', '-'] => .ok { d with onlyWords := true }
    | '-' :: '-' :: rest => d.readName rest
    | ['-'] => d.readPlain word
    | '-' :: rest => d.readLetters rest
    | _ => d.readPlain word

def read (words : List String) : Except Stop CommandLine := do
  return (← (← words.foldlM Draft.readWord .start).settle).line

end CommandLine

end SchemaGen
