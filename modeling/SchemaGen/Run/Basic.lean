import SchemaGen.Database.Selection
import SchemaGen.Entity.Layout

namespace SchemaGen

/-- What a run does: the files that it reads and writes, as they are written in a configuration, the
types that it selects, and how these are converted and grouped. -/
structure Run where
  input : String
  output : String
  selection : Database.Options
  suffixes : List String
  keepComments : Bool
  skipTags : Bool
  skipValidation : Bool
  passes : Nat

/-- A module of validators: its text, how many types it was made from, how many validators (that of the
type `Json` apart) and how many pairs of aggregates are in it, and what was left out. -/
structure Run.Result where
  text : String
  declarations : Nat
  schemas : Nat
  entities : Nat
  diagnostics : List Diagnostic
  deriving Inhabited

namespace Run

/-- How types are converted; they are imported from the module at the given path. -/
def conversionOptions (r : Run) (importPath : String) : Conversion.Options where
  identifier := r.selection.naming.schemaName
  keepComments := r.keepComments
  skipTags := r.skipTags
  skipValidation := r.skipValidation
  passes := r.passes
  importPath := importPath

def groupingOptions (r : Run) : Entity.Options := .ofNaming r.selection.naming r.suffixes

/-- What a run makes of selected types that have been converted and grouped. -/
def resultOf (r : Run) (importPath : String) (selected : Database.Selected) (converted : Conversion)
    (catalog : Entity.Catalog) : Result where
  text := catalog.render r.selection.naming importPath
  declarations := selected.declarations.length
  schemas := catalog.blocks.length
  entities := catalog.pairs.length
  diagnostics := selected.diagnostics ++ converted.reports.map Diagnostic.ofReport ++
    catalog.diagnostics

/-- Make a module of validators from the types in a source. -/
def transform (r : Run) (read : TypeScript.Reader) (converter : Converter)
    (importPath source : String) : Except Stop Result := do
  let selected ← r.selection.preprocess read source
  let converted ←
    (converter.convert (r.conversionOptions importPath) selected.source).mapError .unparsed
  let statements ← (Entity.statements read converted.source).mapError .unparsed
  return r.resultOf importPath selected converted (.ofStatements r.groupingOptions statements)

end Run

end SchemaGen
