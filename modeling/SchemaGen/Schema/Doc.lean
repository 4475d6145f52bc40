import SchemaGen.Text.Blank

namespace SchemaGen.Schema

/-- A tag with the text that follows its name, if any. -/
structure Tag where
  name : String
  value : Option String
  deriving DecidableEq, Inhabited

/-- A documentation comment: the lines before the first tag, and the tags. -/
structure Doc where
  description : List String
  tags : List Tag
  deriving DecidableEq, Inhabited

namespace Doc

def tag? (d : Doc) (name : String) : Option Tag := d.tags.find? (·.name = name)

def isEmpty (d : Doc) : Bool := d.description.isEmpty && d.tags.isEmpty

inductive Line where
  | text (text : String)
  | tag (tag : Tag)
  deriving DecidableEq

/-- Read what follows an at sign: a name up to white space, and the rest as the value. -/
def readTag (cs : List Char) : Tag :=
  let name := String.ofList (cs.takeWhile (!Text.isBlank ·))
  match Text.trim (cs.dropWhile (!Text.isBlank ·)) with
  | [] => ⟨name, none⟩
  | value => ⟨name, some (String.ofList value)⟩

/-- Read a line without the stars before it; an empty line says nothing. -/
def readLine (cs : List Char) : Option Line :=
  match Text.trim ((Text.trim cs).dropWhile (· = '*')) with
  | [] => none
  | '@' :: rest => some (.tag (readTag rest))
  | text => some (.text (String.ofList text))

/-- Go on with a value on the next line. -/
def Tag.extend (t : Tag) (line : String) : Tag :=
  { t with value := some (match t.value with
    | some v => v ++ " " ++ line
    | none => line) }

/-- Add a line. After a tag, text belongs to the value of that tag. -/
def addLine (d : Doc) : Line → Doc
  | .tag t => { d with tags := d.tags ++ [t] }
  | .text s =>
    match d.tags.getLast? with
    | some t => { d with tags := d.tags.dropLast ++ [Tag.extend t s] }
    | none => { d with description := d.description ++ [s] }

def ofLines (ls : List Line) : Doc := ls.foldl addLine ⟨[], []⟩

/-- Read a comment. Only a comment that opens with a slash and two stars and says something is a
documentation comment. -/
def parse? (comment : String) : Option Doc := do
  let opened ← Text.afterPrefix? "/**".toList (Text.trim comment.toList)
  let inner ← Text.beforeSuffix? "*/".toList opened
  let d := ofLines ((Text.lines inner).filterMap readLine)
  if d.isEmpty then none else some d

def Tag.text (t : Tag) : String :=
  match t.value with
  | some v => "@" ++ t.name ++ " " ++ v
  | none => "@" ++ t.name

/-- The lines of a comment: the description, then one line for each tag. -/
def lines (d : Doc) : List String := d.description ++ d.tags.map Tag.text

def margin (indent : Nat) : String := String.ofList (List.replicate (2 * indent) ' ')

/-- Write a comment with a line break at its end: on one line if it has one line. -/
def render (d : Doc) (indent : Nat) : String :=
  let pad := margin indent
  match d.lines with
  | [single] => pad ++ "/** " ++ single ++ " */\n"
  | ls =>
    pad ++ "/**\n" ++ String.join (ls.map fun l => pad ++ " * " ++ l ++ "\n") ++ pad ++ " */\n"

end Doc

end SchemaGen.Schema
