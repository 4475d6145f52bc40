import SchemaGen.Database.Flattening
import SchemaGen.Naming
import SchemaGen.TypeScript.Parse

namespace SchemaGen

namespace Database

/-- What to hand on: declarations whose name and whose tags are wanted, one for each identifier of a
validator. -/
structure Options where
  target : Target
  naming : Naming
  nameFilter : Option (String → Bool)
  tagFilter : Option (List Schema.Tag → Bool)

def Options.wants (o : Options) (c : Candidate) : Bool :=
  o.nameFilter.all (· c.name) && o.tagFilter.all (· c.tags)

/-- The wanted declarations behind those already kept, which are given with the identifiers of their
validators. -/
def Options.select (o : Options) (kept : List (String × String)) :
    List Candidate → List Candidate × List Diagnostic
  | [] => ([], [])
  | c :: cs =>
    if o.wants c then
      let identifier := o.naming.schemaName c.name
      match kept.lookup identifier with
      | some first =>
        let (selected, diagnostics) := o.select kept cs
        (selected, ⟨some c.name, .identifierUsed identifier first⟩ :: diagnostics)
      | none =>
        let (selected, diagnostics) := o.select ((identifier, c.name) :: kept) cs
        (c :: selected, diagnostics)
    else o.select kept cs

structure Selected where
  source : String
  declarations : List String
  diagnostics : List Diagnostic
  deriving Inhabited

def Options.selected (o : Options) (f : Flattened) : Selected :=
  let (candidates, diagnostics) := o.select [] f.candidates
  { source := "\n\n".intercalate (candidates.map (·.text)) ++ "\n"
    declarations := candidates.map (·.name)
    diagnostics := f.diagnostics ++ diagnostics }

end Database

/-- Why no module can be made: a source cannot be read, or the database lacks the schema. -/
inductive Stop where
  | unparsed (cause : ParseFailure)
  | missingSchema (missing : Database.MissingSchema)
  deriving DecidableEq, Inhabited

def Stop.message : Stop → String
  | unparsed cause => cause.message
  | missingSchema m =>
    s!"schema `{m.schema}` not found in `{m.database}` (available: " ++
      ", ".intercalate m.available ++ ")"

def Database.Options.preprocess (o : Options) (read : TypeScript.Reader) (source : String) :
    Except Stop Selected := do
  let tree ← (read source).mapError .unparsed
  let flat ← (o.target.flatten source.toList.toArray tree).mapError .missingSchema
  return o.selected flat

end SchemaGen
