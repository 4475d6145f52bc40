namespace SchemaGen.Toml

/-- What comes of reading from a text: what was found, or how reading failed, and what stands behind
the place that was reached. -/
inductive Outcome (α : Type) where
  | found (value : α) (rest : List Char)
  | missed (rest : List Char)
  | broken (rest : List Char)

/-- Reads something from the beginning of a text. -/
def Reader (α : Type) := List Char → Outcome α

namespace Reader

instance : Monad Reader where
  pure a := fun cs => .found a cs
  bind p f := fun cs =>
    match p cs with
    | .found a rest => f a rest
    | .missed rest => .missed rest
    | .broken rest => .broken rest

def nothing {α : Type} : Reader α := .missed

/-- Find nothing, and say so at the place that another reader begins from. -/
def failAt {α : Type} (place : List Char) : Reader α := fun _ => .missed place

def rest : Reader (List Char) := fun cs => .found cs cs

def either {α : Type} (p q : Reader α) : Reader α := fun cs =>
  match p cs with
  | .missed _ => q cs
  | outcome => outcome

def perhaps {α : Type} (p : Reader α) : Reader (Option α) := fun cs =>
  match p cs with
  | .found a rest => .found (some a) rest
  | .missed _ => .found none cs
  | .broken rest => .broken rest

def must {α : Type} (p : Reader α) : Reader α := fun cs =>
  match p cs with
  | .missed rest => .broken rest
  | outcome => outcome

def ahead {α : Type} (p : Reader α) : Reader α := fun cs =>
  match p cs with
  | .found a _ => .found a cs
  | .missed _ => .missed cs
  | .broken rest => .broken rest

def one (kind : Char → Bool) : Reader Char
  | c :: cs => if kind c then .found c cs else .missed (c :: cs)
  | [] => .missed []

def char (c : Char) : Reader Char := one (· = c)

def word (expected : List Char) : Reader Unit := fun cs =>
  if expected.isPrefixOf cs then .found () (cs.drop expected.length) else .missed cs

def run (kind : Char → Bool) : Reader (List Char) := fun cs =>
  .found (cs.takeWhile kind) (cs.dropWhile kind)

def someRun (kind : Char → Bool) : Reader (List Char) := fun cs =>
  if (cs.takeWhile kind).isEmpty then .missed cs else run kind cs

def exactly (count : Nat) (kind : Char → Bool) : Reader (List Char) := fun cs =>
  let found := cs.take count
  if found.length = count && found.all kind then .found found (cs.drop count) else .missed cs

/-- Accept what is read only if it has a value; otherwise nothing was found where it begins. -/
def mapIf {α β : Type} (p : Reader α) (f : α → Option β) : Reader β := fun cs =>
  match p cs with
  | .found a rest =>
    match f a with
    | some b => .found b rest
    | none => .missed cs
  | .missed rest => .missed rest
  | .broken rest => .broken rest

/-- Read something again and again, at most as often as there are characters. -/
def manyFrom {α : Type} (p : Reader α) : Nat → Reader (List α)
  | 0 => fun cs => .found [] cs
  | n + 1 => fun cs =>
    match p cs with
    | .found a rest =>
      match manyFrom p n rest with
      | .found as rest => .found (a :: as) rest
      | .missed rest => .missed rest
      | .broken rest => .broken rest
    | .missed _ => .found [] cs
    | .broken rest => .broken rest

def many {α : Type} (p : Reader α) : Reader (List α) := fun cs => manyFrom p cs.length cs

def several {α : Type} (p : Reader α) : Reader (List α) := do
  let first ← p
  return first :: (← many p)

/-- Read items with separators between them, at least one item. A separator without an item behind it
is not read. -/
def separated1 {α β : Type} (item : Reader α) (separator : Reader β) : Reader (List α) := do
  let first ← item
  return first :: (← many do
    let _ ← separator
    item)

def separated {α β : Type} (item : Reader α) (separator : Reader β) : Reader (List α) :=
  either (separated1 item separator) (pure [])

end Reader

end SchemaGen.Toml
