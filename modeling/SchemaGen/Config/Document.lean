import SchemaGen.Config.Basic

namespace SchemaGen.Config

open Toml

/-- Reads a value from an item. An item of another kind is a mistake at its place. -/
abbrev Decoder (α : Type) := Item → Except Nat α

namespace Decoder

def text : Decoder String
  | .scalar _ (.text s) => .ok s
  | item => .error item.left

def truth : Decoder Bool
  | .scalar _ (.truth b) => .ok b
  | item => .error item.left

def count : Decoder Nat
  | .scalar left (.integer n) => if n < 0 then .error left else .ok n.toNat
  | item => .error item.left

def texts : Decoder (List String)
  | .array _ items | .tables _ items => items.mapM text
  | item => .error item.left

end Decoder

/-- The entries of a table: their names, and how a value is changed by what an entry holds. -/
abbrev Fields (α : Type) := List (String × (Item → α → Except Nat α))

/-- An entry with a value that is put into another value. -/
def field {α β : Type} (name : String) (decoder : Decoder β) (put : α → β → α) :
    String × (Item → α → Except Nat α) :=
  (name, fun item a => return put a (← decoder item))

/-- Change a value by one entry of a table. Entries of other names say nothing. -/
def Fields.step {α : Type} (fields : Fields α) (a : α) (entry : String × Item) : Except Nat α :=
  match fields.lookup entry.1 with
  | some change => change entry.2 a
  | none => .ok a

/-- Change a value by all entries of a table. A moment counts as a table without entries. -/
def Fields.read {α : Type} (fields : Fields α) (item : Item) (a : α) : Except Nat α :=
  match item with
  | .table _ _ entries => entries.foldlM fields.step a
  | .array _ items | .tables _ items =>
    (fields.zip items).foldlM (fun a (field, item) => field.2 item a) a
  | .scalar _ .moment => .ok a
  | item => .error item.left

def part {α : Type} (name : String) (fields : Fields α) : String × (Item → α → Except Nat α) :=
  (name, fields.read)

def filterFields : Fields Config :=
  [field "include" .texts fun c v => { c with filter.includeNames := v },
   field "exclude" .texts fun c v => { c with filter.excludeNames := v },
   field "include_tags" .texts fun c v => { c with filter.includeTags := v },
   field "exclude_tags" .texts fun c v => { c with filter.excludeTags := v }]

def namingFields : Fields Config :=
  [field "prefix" .text fun c v => { c with naming.lead := v },
   field "suffix" .text fun c v => { c with naming.suffix := v },
   field "entity_suffixes" .texts fun c v => { c with suffixes := v }]

def conversionFields : Fields Config :=
  [field "converter" .text fun c v => { c with converter := v },
   field "keep_comments" .truth fun c v => { c with keepComments := v },
   field "skip_parse_jsdoc" .truth fun c v => { c with skipTags := v },
   field "skip_validation" .truth fun c v => { c with skipValidation := v },
   field "max_run" .count fun c v => { c with passes := v }]

def formatFields : Fields Config := [field "command" .texts fun c v => { c with command := v }]

def fields : Fields Config :=
  [field "input" .text fun c v => { c with input := some v },
   field "output" .text fun c v => { c with output := some v },
   field "schema" .text fun c v => { c with schema := v },
   field "database_type" .text fun c v => { c with database := v },
   part "filter" filterFields,
   part "naming" namingFields,
   part "convert" conversionFields,
   part "format" formatFields]

def ofEntries (entries : Entries) : Except Nat Config := entries.foldlM fields.step {}

/-- Read a configuration; if that fails, the place of the mistake. -/
def ofText (text : String) : Except Place Config :=
  ((document text.toList).bind ofEntries).mapError (placeOf text.toList)

variable {m : Type → Type} [Monad m]

def fileName : String := "supazod.toml"

def pathIn (directory : String) : String :=
  if directory.isEmpty then fileName
  else if directory.endsWith "/" then directory ++ fileName
  else directory ++ "/" ++ fileName

def loadFile (s : Storage m) (path : String) : m (Except Problem Config) := do
  match ← s.readText (.ofString path) with
  | .error cause => return .error (.unreadable path cause)
  | .ok text => return (ofText text).mapError (.malformed path)

/-- Load a configuration: from the given file, or else from that in the directory, if there is one. -/
def load (s : Storage m) (directory : String) (path : Option String) : m (Except Problem Config) := do
  match path with
  | some path => loadFile s path
  | none =>
    if ← s.isFile (.ofString (pathIn directory)) then loadFile s (pathIn directory)
    else return .ok {}

end SchemaGen.Config
