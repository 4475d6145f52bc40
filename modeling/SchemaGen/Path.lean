namespace SchemaGen.Text

def isContinuation (b : UInt8) : Bool := 0x80 ≤ b && b ≤ 0xBF

/-- Whether the second byte can stand behind the first one, of a character of three bytes or four. -/
def opens (first second : UInt8) : Bool :=
  if first = 0xE0 then 0xA0 ≤ second && second ≤ 0xBF
  else if first = 0xED then 0x80 ≤ second && second ≤ 0x9F
  else if first = 0xF0 then 0x90 ≤ second && second ≤ 0xBF
  else if first = 0xF4 then 0x80 ≤ second && second ≤ 0x8F
  else 0xE0 < first && first < 0xF4 && isContinuation second

/-- How many bytes begin a character that is not completed, one at least. -/
def broken : List UInt8 → Nat
  | a :: b :: rest =>
    if opens a b then if 0xF0 ≤ a && rest.head?.any isContinuation then 3 else 2 else 1
  | _ => 1

/-- The characters of bytes behind some that are passed over. A replacement stands for what is no
character. -/
def decode : Nat → List UInt8 → List Char
  | _, [] => []
  | skip + 1, _ :: bs => decode skip bs
  | 0, b :: bs =>
    match (b :: bs).toByteArray.utf8DecodeChar? 0 with
    | some c => c :: decode (c.utf8Size - 1) bs
    | none => '\uFFFD' :: decode (broken (b :: bs) - 1) bs

def looseText (bytes : List UInt8) : String := String.ofList (decode 0 bytes)

end SchemaGen.Text

namespace SchemaGen

/-- The name of a file or a directory: bytes, which need not be a text in UTF-8. -/
structure FileName where
  bytes : List UInt8
  deriving DecidableEq, Inhabited

namespace FileName

def ofString (s : String) : FileName := ⟨s.toList.flatMap String.utf8EncodeChar⟩

/-- The name as a text, with a replacement for each piece that is no character. -/
def text (n : FileName) : String := Text.looseText n.bytes

def isText (n : FileName) : Bool := ofString n.text = n

/-- Bytes before the last dot, unless they begin with that one. Two dots at the beginning are not
parted. -/
def stemBytes (bytes : List UInt8) : List UInt8 :=
  match bytes.reverse.dropWhile (· ≠ 0x2E) with
  | _ :: [] | [] => bytes
  | _ :: [0x2E] => [0x2E, 0x2E]
  | _ :: before => before.reverse

def stem (n : FileName) : FileName := ⟨stemBytes n.bytes⟩

end FileName

/-- A step of a path: to the same directory, to the one above, or to a name. -/
inductive Path.Step where
  | here
  | up
  | down (name : FileName)
  deriving DecidableEq, Inhabited

structure Path where
  rooted : Bool
  steps : List Path.Step
  deriving DecidableEq, Inhabited

namespace Path

def Step.ofName (name : FileName) : Step :=
  if name = .ofString "." then here else if name = .ofString ".." then up else down name

def Step.text : Step → String
  | here => "."
  | up => ".."
  | down name => name.text

def Step.isText : Step → Bool
  | down name => name.isText
  | _ => true

def isText (p : Path) : Bool := p.steps.all Step.isText

def pieces : List Char → List (List Char)
  | [] => [[]]
  | c :: cs =>
    if c = '/' then [] :: pieces cs
    else match pieces cs with
      | [] => [[c]]
      | p :: ps => (c :: p) :: ps

/-- Read a path. Empty steps say nothing, and a step to the same directory only does at the
beginning. -/
def ofChars (cs : List Char) : Path :=
  let steps := ((pieces cs).filter (!·.isEmpty)).map fun p =>
    Step.ofName (.ofString (String.ofList p))
  let rooted := cs.head? = some '/'
  match steps with
  | .here :: rest =>
    ⟨rooted, (if rooted then [] else [.here]) ++ rest.filter (· ≠ .here)⟩
  | steps => ⟨rooted, steps.filter (· ≠ .here)⟩

def ofString (s : String) : Path := ofChars s.toList

def text (p : Path) : String :=
  (if p.rooted then "/" else "") ++ "/".intercalate (p.steps.map Step.text)

/-- Go on by a step from where some steps lead; these are given last first. Above the root is the root
itself. -/
def advance (rooted : Bool) (done : List Step) : Step → List Step
  | .here => done
  | .down name => .down name :: done
  | .up =>
    match done with
    | .down _ :: rest => rest
    | [] => if rooted then [] else [.up]
    | rest => .up :: rest

/-- The same path with steps up taken as far as possible, without a look at any file. -/
def normalize (p : Path) : Path := ⟨p.rooted, (p.steps.foldl (advance p.rooted) []).reverse⟩

def join (p q : Path) : Path := if q.rooted then q else ⟨p.rooted, p.steps ++ q.steps⟩

/-- The path without its last step. For the root, which has none, this is the empty path. -/
def parent (p : Path) : Path :=
  match p.steps with
  | [] => ⟨false, []⟩
  | steps => ⟨p.rooted, steps.dropLast⟩

def directory (p : Path) : Path :=
  if p.parent = ⟨false, []⟩ then ⟨false, [.here]⟩ else p.parent

def common : List Step → List Step → Nat
  | s :: ss, t :: ts => if s = t then common ss ts + 1 else 0
  | _, _ => 0

/-- The way from one directory to a path. Both should begin at the root, or neither. -/
def relative (source target : Path) : Path :=
  let s := source.normalize
  let t := target.normalize
  if s.rooted = t.rooted then
    let n := common s.steps t.steps
    ⟨false, List.replicate (s.steps.length - n) .up ++ t.steps.drop n⟩
  else if t.rooted then t
  else ⟨false, List.replicate (s.steps.length + 1) .up ++ t.steps⟩

def withoutExtension (p : Path) : Path :=
  match p.steps.getLast? with
  | some (.down name) => ⟨p.rooted, p.steps.dropLast ++ [Step.ofName name.stem]⟩
  | _ => p

/-- The specifier by which the module at `output` imports the one at `input`: the way there without
extension. It begins with a dot. -/
def importSpecifier (input output : Path) : String :=
  let way := relative output.parent input.withoutExtension
  let joined := "/".intercalate ((if way.rooted then ["/"] else []) ++ way.steps.map Step.text)
  match way.steps with
  | .up :: _ :: _ => if way.rooted then "./" ++ joined else joined
  | _ => "./" ++ joined

end Path

end SchemaGen
