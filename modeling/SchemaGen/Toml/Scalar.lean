import SchemaGen.Toml.Reader

namespace SchemaGen.Toml

open Reader

/-- A simple value. Of numbers with a fraction and of dates only the kind is kept. -/
inductive Scalar where
  | text (value : String)
  | integer (value : Int)
  | float
  | truth (value : Bool)
  | moment
  deriving DecidableEq, Inhabited

/-! ### White space and comments -/

def isSpace (c : Char) : Bool := c = ' ' || c = '\t'

def space : Reader (List Char) := run isSpace

def isCommentChar (c : Char) : Bool := c = '\t' || (' ' ≤ c && c ≤ '~') || c.toNat ≥ 128

def comment : Reader Unit := do
  let _ ← char '#'
  let _ ← run isCommentChar

def newline : Reader Unit :=
  either (do let _ ← char '\n') (do
    let _ ← char '\r'
    let _ ← char '\n')

def endOfText : Reader Unit := fun cs => if cs.isEmpty then .found () [] else .missed cs

def lineEnd : Reader Unit := either newline endOfText

/-- The rest of a line behind a value or a header. -/
def lineRest : Reader Unit := do
  let _ ← space
  let _ ← perhaps comment
  lineEnd

/-- White space, comments and line breaks up to something else, at most as many steps as given. -/
def blanksFrom : Nat → Reader Unit
  | 0 => pure ()
  | n + 1 => do
    let _ ← space
    match ← ahead (perhaps (one fun _ => true)) with
    | some '#' =>
      comment
      newline
      blanksFrom n
    | some '\n' | some '\r' =>
      newline
      blanksFrom n
    | _ => pure ()

/-- White space, comments and line breaks up to something else. -/
def blanks : Reader Unit := fun cs => blanksFrom (cs.length + 1) cs

/-! ### Texts -/

def isPlain (c : Char) : Bool :=
  c = '\t' || (' ' ≤ c && c ≤ '~' && c ≠ '"' && c ≠ '\\') || c.toNat ≥ 128

def isLiteral (c : Char) : Bool :=
  c = '\t' || (' ' ≤ c && c ≤ '~' && c ≠ '\'') || c.toNat ≥ 128

def hexDigit? (c : Char) : Option Nat :=
  if c.isDigit then some (c.toNat - 48)
  else if 'a' ≤ c && c ≤ 'f' then some (c.toNat - 87)
  else if 'A' ≤ c && c ≤ 'F' then some (c.toNat - 55)
  else none

def numberOf (base : Nat) (digits : List Char) : Nat :=
  digits.foldl (fun n c => base * n + (hexDigit? c).getD 0) 0

def numbered (count : Nat) : Reader (List Char) :=
  mapIf (exactly count fun c => (hexDigit? c).isSome) fun digits =>
    let n := numberOf 16 digits
    if n.isValidChar then some [Char.ofNat n] else none

def escapeRest : Reader (List Char) := do
  match ← one fun _ => true with
  | 'b' => return ['\x08']
  | 'f' => return ['\x0c']
  | 'n' => return ['\n']
  | 'r' => return ['\r']
  | 't' => return ['\t']
  | 'u' => must (numbered 4)
  | 'U' => must (numbered 8)
  | '\\' => return ['\\']
  | '"' => return ['"']
  | _ => must nothing

def escape : Reader (List Char) := do
  let _ ← char '\\'
  escapeRest

def basicText : Reader (List Char) := do
  let _ ← char '"'
  let parts ← many (either (someRun isPlain) escape)
  let _ ← must (char '"')
  return parts.flatten

def literalText : Reader (List Char) := do
  let _ ← char '\''
  let contents ← run isLiteral
  let _ ← must (char '\'')
  return contents

/-- A line break behind a backslash, with the white space around it, which stands for nothing. -/
def joinedLine : Reader (List Char) := do
  let _ ← several (do
    let _ ← char '\\'
    let _ ← space
    newline
    let _ ← many (either newline (do let _ ← someRun isSpace)))
  return []

def basicPart : Reader (List Char) :=
  either (someRun isPlain) (either joinedLine (either escape (do
    newline
    return ['\n'])))

def quotesBefore (quote : Char) (next : Reader Unit) : Reader (List Char) :=
  either (do
    word [quote, quote]
    ahead next
    return [quote, quote]) (do
    word [quote]
    ahead next
    return [quote])

/-- What stands between triple quotes: parts, and quotes between parts or before the end. -/
def linesBody (quote : Char) (part : Reader (List Char)) : Reader (List Char) := do
  let body ← many (either part (quotesBefore quote (do let _ ← part)))
  let last ← perhaps (quotesBefore quote (word [quote, quote, quote]))
  return body.flatten ++ last.getD []

/-- Several lines between triple quotes. A line break behind the opening says nothing. -/
def linesBetween (quote : Char) (part : Reader (List Char)) : Reader (List Char) := do
  word [quote, quote, quote]
  let _ ← perhaps newline
  let body ← must (linesBody quote part)
  must (word [quote, quote, quote])
  return body

def literalPart : Reader (List Char) :=
  either (do return [← one isLiteral]) (do
    newline
    return ['\n'])

def text : Reader (List Char) :=
  either (linesBetween '"' basicPart) (either basicText
    (either (linesBetween '\'' literalPart) literalText))

/-! ### Numbers -/

def digit : Reader Char := one Char.isDigit

def digitsRest (kind : Char → Bool) : Reader (List Char) :=
  many (either (one kind) (do
    let _ ← char '_'
    must (one kind)))

def sign : Reader (Option Char) := perhaps (one fun c => c = '+' || c = '-')

def wholeDigits : Reader (List Char) :=
  either (do
    let first ← one fun c => '1' ≤ c && c ≤ '9'
    return first :: (← digitsRest Char.isDigit)) (do return [← digit])

def anyDigits : Reader (List Char) := do
  let first ← digit
  return first :: (← digitsRest Char.isDigit)

/-- A number that fits into 64 bits with a sign. -/
def inRange (n : Int) : Option Int :=
  if -9223372036854775808 ≤ n && n < 9223372036854775808 then some n else none

def decimal : Reader Int :=
  mapIf (do
    let s ← sign
    return (s, ← wholeDigits)) fun (s, digits) =>
      let n : Int := numberOf 10 digits
      inRange (if s = some '-' then -n else n)

def marked (mark : Char) (base : Nat) : Reader Int :=
  mapIf (do
    word ['0', mark]
    must (do
      let kind (c : Char) : Bool := (hexDigit? c).any (· < base)
      let first ← one kind
      return first :: (← digitsRest kind))) fun digits => inRange (numberOf base digits)

def integer : Reader Int := do
  match ← ahead (perhaps (exactly 2 fun _ => true)) with
  | some ['0', 'x'] => must (marked 'x' 16)
  | some ['0', 'o'] => must (marked 'o' 8)
  | some ['0', 'b'] => must (marked 'b' 2)
  | _ => decimal

def exponent : Reader Unit := do
  let _ ← one fun c => c = 'e' || c = 'E'
  let _ ← sign
  let _ ← must anyDigits

def fraction : Reader Unit := do
  let _ ← char '.'
  let _ ← must anyDigits

def infinity : Reader Unit := word "inf".toList

def notANumber : Reader Unit := word "nan".toList

def float : Reader Unit :=
  either (do
    let _ ← sign
    let _ ← wholeDigits
    either exponent (do
      fraction
      let _ ← perhaps exponent)) (do
    let _ ← sign
    either infinity notANumber)

/-! ### Dates and times -/

/-- A number of two digits within bounds. -/
def twoDigits (low high : Nat) : Reader Nat :=
  mapIf (exactly 2 Char.isDigit) fun digits =>
    let n := numberOf 10 digits
    if low ≤ n && n ≤ high then some n else none

def daysIn (year month : Nat) : Nat :=
  if month = 2 then
    if year % 4 = 0 && (year % 100 ≠ 0 || year % 400 = 0) then 29 else 28
  else if [4, 6, 9, 11].contains month then 30
  else 31

def date : Reader Unit := do
  let year ← exactly 4 Char.isDigit
  let _ ← char '-'
  let month ← must (twoDigits 1 12)
  let _ ← must (char '-')
  let place ← rest
  let day ← must (twoDigits 1 31)
  if day > daysIn (numberOf 10 year) month then must (failAt place)

def time : Reader Unit := do
  let _ ← twoDigits 0 23
  let _ ← char ':'
  must (do
    let _ ← twoDigits 0 59
    let _ ← char ':'
    let _ ← twoDigits 0 60
    let _ ← perhaps (do
      let _ ← char '.'
      someRun Char.isDigit))

def offset : Reader Unit :=
  either (do let _ ← one fun c => c = 'Z' || c = 'z') (do
    let _ ← one fun c => c = '+' || c = '-'
    must (do
      let _ ← twoDigits 0 23
      let _ ← char ':'
      let _ ← twoDigits 0 59))

def moment : Reader Unit :=
  either (do
    date
    let _ ← perhaps (do
      let _ ← one fun c => c = 'T' || c = 't' || c = ' '
      time
      perhaps offset)) time

/-- A simple value; the first character tells what it is. -/
def scalar : Reader Scalar := do
  let next ← ahead (one fun _ => true)
  if next = '"' || next = '\'' then return .text (String.ofList (← text))
  else if next = '+' || next = '-' || next.isDigit then
    either (do
      moment
      return .moment) (either (do
      float
      return .float) (do return .integer (← integer)))
  else if next = '_' then return .integer (← integer)
  else match next with
    | '.' =>
      float
      return .float
    | 't' =>
      must (word "true".toList)
      return .truth true
    | 'f' =>
      must (word "false".toList)
      return .truth false
    | 'i' =>
      infinity
      return .float
    | 'n' =>
      notANumber
      return .float
    | _ => nothing

end SchemaGen.Toml
