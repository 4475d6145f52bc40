import SchemaGen.Toml.Scalar

namespace SchemaGen.Toml

open Reader

/-- How a table came to be: under a header of its own, on the way to one below, by a key with dots, or
as a value in braces. -/
inductive Origin where
  | header
  | implied
  | dotted
  | braces
  deriving DecidableEq, Inhabited

/-- Something in a document, with the place where it begins. `tables` are the tables under headers that
can be repeated. -/
inductive Item where
  | scalar (left : Nat) (value : Scalar)
  | array (left : Nat) (items : List Item)
  | table (left : Nat) (origin : Origin) (entries : List (String × Item))
  | tables (left : Nat) (elements : List Item)
  deriving Inhabited

def Item.left : Item → Nat
  | scalar left _ | array left _ | table left _ _ | tables left _ => left

/-- The entries of a table in the order in which they were added. -/
abbrev Entries := List (String × Item)

structure Key where
  left : Nat
  name : String
  deriving DecidableEq, Inhabited

/-! ### Adding to tables -/

def Entries.replace (es : Entries) (name : String) (item : Item) : Entries :=
  es.map fun e => if e.1 = name then (name, item) else e

/-- Change the table that a way of keys leads to. Tables that are missing on the way are made;
`enter` says through which tables the way may go. -/
def Entries.update (made : Origin) (enter : Origin → Bool)
    (change : Option Origin → Entries → Option Entries) :
    Option Origin → List Key → Entries → Option Entries
  | origin, [], es => change origin es
  | _, k :: ks, es =>
    match es.lookup k.name with
    | none =>
      (update made enter change (some made) ks []).map fun inner =>
        es ++ [(k.name, .table k.left made inner)]
    | some (.table left origin inner) =>
      if enter origin then
        (update made enter change (some origin) ks inner).map fun inner =>
          es.replace k.name (.table left origin inner)
      else none
    | some (.tables left elements) =>
      match elements.getLast? with
      | some (.table start origin inner) =>
        (update made enter change (some origin) ks inner).map fun inner =>
          es.replace k.name (.tables left (elements.dropLast ++ [.table start origin inner]))
      | _ => none
    | some _ => none

def Entries.add (es : Entries) (name : String) (item : Item) : Option Entries :=
  if (es.lookup name).isSome then none else some (es ++ [(name, item)])

/-- Add a pair whose key may have dots. Keys with dots go only through tables that such keys made. -/
def Entries.addPair (es : Entries) (path : List Key) (key : Key) (item : Item) : Option Entries :=
  update .dotted (fun o => o = .dotted || o = .implied)
    (fun origin inner =>
      match origin with
      | none | some .dotted => inner.add key.name item
      | _ => none) none path es

def Entries.updateAbove (es : Entries) (path : List Key) (change : Entries → Option Entries) :
    Option Entries :=
  update .implied (· ≠ .braces) (fun _ inner => change inner) none path es

/-! ### Values -/

def left : Reader Nat := do return (← rest).length

def isKeyChar (c : Char) : Bool := c.isAlphanum || c = '-' || c = '_'

def simpleKey : Reader Key := do
  let place ← left
  let next ← ahead (one fun _ => true)
  let name ←
    if next = '"' then basicText
    else if next = '\'' then literalText
    else someRun isKeyChar
  return ⟨place, String.ofList name⟩

def dottedKey : Reader (List Key × Key) := do
  let keys ← separated1 (do
    let _ ← space
    let key ← simpleKey
    let _ ← space
    return key) (char '.')
  return (keys.dropLast, keys.getLastD default)

/-- A table of pairs, if no key stands in the way of another. -/
def tableOf? (pairs : List ((List Key × Key) × Item)) : Option Entries :=
  pairs.foldlM (fun es ((path, key), item) => es.addPair path key item) []

mutual

/-- A value that is nested at most as deep as given. -/
def value : Nat → Reader Item
  | 0 => nothing
  | depth + 1 => do
    let place ← left
    match ← ahead (one fun _ => true) with
    | '[' =>
      let _ ← char '['
      let items ← must (arrayItems depth)
      let _ ← must (char ']')
      return .array place items
    | '\x7b' =>
      let _ ← char '\x7b'
      let entries ← must (mapIf (pairs depth) tableOf?)
      let _ ← must (char '\x7d')
      return .table place .braces entries
    | _ => return .scalar place (← scalar)

/-- The items of an array. A comma may follow the last one. -/
def arrayItems (depth : Nat) : Reader (List Item) := do
  if (← ahead (perhaps (char ']'))).isSome then return []
  let items ← separated (do
    blanks
    let item ← value depth
    blanks
    return item) (char ',')
  if !items.isEmpty then
    let _ ← perhaps (char ',')
  blanks
  return items

def pairs (depth : Nat) : Reader (List ((List Key × Key) × Item)) := do
  let found ← separated (do
    let key ← dottedKey
    let item ← must (do
      let _ ← char '='
      let _ ← space
      let item ← value depth
      let _ ← space
      return item)
    return (key, item)) (char ',')
  let _ ← space
  return found

end

/-! ### Statements -/

/-- A line of a document: a pair, or a header for one table or for one of several. -/
inductive Statement where
  | pair (path : List Key) (key : Key) (item : Item)
  | header (path : List Key) (key : Key)
  | element (path : List Key) (key : Key)

def pairLine (depth : Nat) : Reader Statement := do
  let (path, key) ← dottedKey
  let item ← must (do
    let _ ← char '='
    let _ ← space
    let item ← value depth
    lineRest
    return item)
  return .pair path key item

def headerLine : Reader Statement := do
  match ← ahead (exactly 2 fun _ => true) with
  | ['[', '['] =>
    word ['[', '[']
    let (path, key) ← must dottedKey
    must (word [']', ']'])
    must lineRest
    return .element path key
  | _ =>
    let _ ← char '['
    let (path, key) ← must dottedKey
    let _ ← must (char ']')
    must lineRest
    return .header path key

/-- A statement, or nothing in a line that says nothing. -/
def line (depth : Nat) : Reader (Option Statement) := do
  match ← ahead (one fun _ => true) with
  | '#' =>
    comment
    lineEnd
    return none
  | '[' => return some (← headerLine)
  | _ => return some (← pairLine depth)

/-- The statements of a document with their places, and the place where it is broken, if it is. -/
def lines (depth : Nat) : Nat → List Char → List (Nat × Statement) × Option Nat
  | 0, cs => ([], some cs.length)
  | fuel + 1, cs =>
    match cs.dropWhile isSpace with
    | [] => ([], none)
    | c :: cs =>
      if c = '\n' || c = '\r' then
        match newline (c :: cs) with
        | .found _ rest => lines depth fuel rest
        | _ => ([], some (c :: cs).length)
      else
        match line depth (c :: cs) with
        | .found (some s) rest =>
          let (ss, broken) := lines depth fuel rest
          (((c :: cs).length, s) :: ss, broken)
        | .found none rest => lines depth fuel rest
        | .missed rest | .broken rest => ([], some rest.length)

/-! ### Documents -/

/-- A document up to some statement: the tables that are complete, and the one that is being filled. -/
structure Draft where
  root : Entries
  path : List Key
  key : Option Key
  repeated : Bool
  left : Nat
  current : Entries

def Draft.complete (d : Draft) : Option Entries :=
  match d.key with
  | none => some d.current
  | some key =>
    let table := Item.table d.left .header d.current
    d.root.updateAbove d.path fun above =>
      if d.repeated then
        match above.lookup key.name with
        | none => some (above ++ [(key.name, .tables d.left [table])])
        | some (.tables left elements) =>
          some (above.replace key.name (.tables left (elements ++ [table])))
        | some _ => none
      else above.add key.name table

/-- The table that a way of keys leads to. -/
def Entries.below : List Key → Entries → Option Entries
  | [], es => some es
  | k :: ks, es =>
    match es.lookup k.name with
    | some (.table _ _ inner) => Entries.below ks inner
    | some (.tables _ elements) =>
      match elements.getLast? with
      | some (.table _ _ inner) => Entries.below ks inner
      | _ => none
    | _ => none

/-- Begin a table under a header. A table that only headers below it have made is filled further. -/
def Draft.beginTable (left : Nat) (root : Entries) (path : List Key) (key : Key) : Option Draft := do
  let root ← root.updateAbove path some
  let current ← match (← root.below path).lookup key.name with
    | none => some []
    | some (.table _ .implied inner) => some inner
    | some _ => none
  let root ← root.updateAbove path fun above => some (above.filter (·.1 ≠ key.name))
  return ⟨root, path, some key, false, left, current⟩

/-- Begin a further table under a header that can be repeated. -/
def Draft.beginElement (left : Nat) (root : Entries) (path : List Key) (key : Key) : Option Draft := do
  let root ← root.updateAbove path some
  match (← root.below path).lookup key.name with
  | none | some (.tables _ _) => return ⟨root, path, some key, true, left, []⟩
  | some _ => none

/-- Go on by a statement, unless it contradicts those before. -/
def Draft.add (d : Draft) (left : Nat) : Statement → Option Draft
  | .pair path key item => (d.current.addPair path key item).map ({ d with current := · })
  | .header path key => d.complete.bind fun root => beginTable left root path key
  | .element path key => d.complete.bind fun root => beginElement left root path key

/-- Put statements together; if that fails, the place of the one that contradicts those before. -/
def Draft.addAll (d : Draft) : List (Nat × Statement) → Except Nat Draft
  | [] => .ok d
  | (left, s) :: ss =>
    match d.add left s with
    | some d => d.addAll ss
    | none => .error left

/-- Read a document; if it cannot be read, the place where it is wrong. Places are told by how many characters
are left to the end. -/
def document (cs : List Char) : Except Nat Entries := do
  let body := match cs with
    | '\uFEFF' :: cs => cs
    | cs => cs
  let (statements, broken) := lines body.length (body.length + 1) body
  let draft ← Draft.addAll ⟨[], [], none, false, body.length, []⟩ statements
  match broken with
  | some left => .error left
  | none =>
    match draft.complete with
    | some entries => .ok entries
    | none => .error 0

/-! ### Places -/

/-- A line and a column, counted from one. -/
structure Place where
  line : Nat
  column : Nat
  deriving DecidableEq, Inhabited

/-- The place with the given number of characters left. The end of a text is the place behind its last
character, even if that is a line break. At a character beyond ASCII, columns are bytes. -/
def placeOf (cs : List Char) (left : Nat) : Place :=
  let before := cs.take (cs.length - left)
  let (before, beyond) := if left = 0 then (before.dropLast, min before.length 1) else (before, 0)
  let lineStart := before.reverse.takeWhile (· ≠ '\n')
  let wide := left ≠ 0 && (cs.drop (cs.length - left)).head?.any (·.toNat ≥ 128)
  let column := if wide then lineStart.foldl (fun n c => n + c.utf8Size) 0 else lineStart.length
  ⟨before.count '\n' + 1, column + beyond + 1⟩

end SchemaGen.Toml
