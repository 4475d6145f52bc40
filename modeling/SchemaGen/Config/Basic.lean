import SchemaGen.Conversion
import SchemaGen.Files.Storage
import SchemaGen.Format.Formatter
import SchemaGen.Pattern.Reading
import SchemaGen.Run.Basic
import SchemaGen.Toml.Document

namespace SchemaGen

/-- Which types are wanted: patterns for their names and tags in their documentation. Of names and of
tags, empty lists to include mean that nothing special is asked for. -/
structure Config.Filter where
  includeNames : List String := []
  excludeNames : List String := []
  includeTags : List String := []
  excludeTags : List String := []
  deriving DecidableEq, Inhabited

/-- A configuration. The files have no defaults. An empty command stands for the plain form. -/
structure Config where
  input : Option String := none
  output : Option String := none
  schema : String := "public"
  database : String := "Database"
  filter : Config.Filter := {}
  naming : Naming := .standard
  suffixes : List String := Entity.standardSuffixes
  converter : String := "zod"
  keepComments : Bool := false
  skipTags : Bool := false
  skipValidation : Bool := false
  passes : Nat := 10
  command : List String := []
  deriving DecidableEq, Inhabited

namespace Config

/-- Why there is no run for a configuration, or why a configuration cannot be read. -/
inductive Problem where
  | noInput
  | noOutput
  | noMarker
  | noPasses
  | badPattern (pattern : String)
  | unknownConverter (name : String) (available : List String)
  | unreadable (path : String) (cause : FileError)
  | malformed (path : String) (place : Toml.Place)
  deriving DecidableEq, Inhabited

def Problem.message (p : Problem) : String :=
  "invalid configuration: " ++ match p with
    | noInput => "no input file (set `input` or pass --input)"
    | noOutput => "no output file (set `output` or pass --output)"
    | noMarker => "naming needs a non-empty prefix or suffix"
    | noPasses => "max_run must be at least 1"
    | badPattern pattern => s!"invalid filter pattern `{pattern}`: regex parse error:"
    | unknownConverter name available =>
      s!"unknown converter `{name}` (available: " ++ ", ".intercalate available ++ ")"
    | unreadable path cause => s!"{path}: {cause.message}"
    | malformed path place =>
      s!"{path}: TOML parse error at line {place.line}, column {place.column}"

def patterns (sources : List String) : Except Problem (List Pattern) :=
  sources.mapM fun source =>
    match Pattern.ofString? source with
    | some p => .ok p
    | none => .error (.badPattern source)

/-- Whether something to include applies, if there is any, and nothing to exclude. -/
def admits {α : Type} (includes excludes : List α) (applies : α → Bool) : Bool :=
  (includes.isEmpty || includes.any applies) && !excludes.any applies

/-- The condition on names. There is none without patterns. -/
def Filter.nameFilter (f : Filter) : Except Problem (Option (String → Bool)) :=
  if f.includeNames.isEmpty && f.excludeNames.isEmpty then .ok none
  else do
    let includes ← patterns f.includeNames
    let excludes ← patterns f.excludeNames
    return some fun name => admits includes excludes (·.isMatch name)

/-- The condition on tags. There is none without names of tags. -/
def Filter.tagFilter (f : Filter) : Option (List Schema.Tag → Bool) :=
  if f.includeTags.isEmpty && f.excludeTags.isEmpty then none
  else some fun tags => admits f.includeTags f.excludeTags fun name => tags.any (·.name = name)

def files (c : Config) : Except Problem (String × String) :=
  match c.input, c.output with
  | none, _ => .error .noInput
  | _, none => .error .noOutput
  | some input, some output => .ok (input, output)

def run (c : Config) : Except Problem Run := do
  let (input, output) ← c.files
  if c.naming.marker.isEmpty then throw .noMarker
  if c.passes = 0 then throw .noPasses
  let nameFilter ← c.filter.nameFilter
  return { input, output
           selection := ⟨⟨c.database, c.schema⟩, c.naming, nameFilter, c.filter.tagFilter⟩
           suffixes := c.suffixes
           keepComments := c.keepComments
           skipTags := c.skipTags
           skipValidation := c.skipValidation
           passes := c.passes }

def findConverter (c : Config) (converters : List Converter) : Except Problem Converter :=
  match Converter.find? converters c.converter with
  | some converter => .ok converter
  | none => .error (.unknownConverter c.converter (converters.map (·.name)))

def formatter (c : Config) (output : String) : Format.Formatter :=
  if c.command.isEmpty then .plain else .command c.command (some output)

end Config

end SchemaGen
