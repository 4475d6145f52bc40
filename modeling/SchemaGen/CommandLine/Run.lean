import SchemaGen.CommandLine.Json
import SchemaGen.CommandLine.Reading
import SchemaGen.Config.Document
import SchemaGen.Run.Generate
import SchemaGen.Zod.Converter

namespace SchemaGen.CommandLine

/-- How the program ends, and what it prints. -/
structure Answer where
  code : Nat
  output : String
  errors : String
  deriving DecidableEq, Inhabited

/-- A configuration with what the command line says. Conditions and permissions are added to those that
are there; everything else is replaced. -/
def apply (c : CommandLine) (config : Config) : Config :=
  { config with
    input := c.input.or config.input
    output := c.output.or config.output
    schema := c.schema.getD config.schema
    filter.includeNames := config.filter.includeNames ++ c.includeNames
    filter.excludeNames := config.filter.excludeNames ++ c.excludeNames
    filter.excludeTags := config.filter.excludeTags ++ c.excludeTags
    keepComments := config.keepComments || c.keepComments
    skipTags := config.skipTags || c.skipTags
    skipValidation := config.skipValidation || c.skipValidation
    passes := c.passes.getD config.passes
    command := if c.formatCommand.isEmpty then config.command else c.formatCommand }

def diagnosticJson (d : Diagnostic) : Json :=
  .object [("stage", .text d.stage.name),
    ("declaration", (d.declaration.map Json.text).getD .null), ("message", .text d.message)]

def generatedJson (g : Run.Generated) : Json :=
  .object [("output", .text g.output.text), ("declarations", .number g.result.declarations),
    ("schemas", .number g.result.schemas), ("entities", .number g.result.entities),
    ("diagnostics", .list (g.result.diagnostics.map diagnosticJson))]

def fatal (text : String) : Answer := ⟨1, "", s!"supazod: {text}\n"⟩

/-- What is printed after a run. JSON has no place for a path that is no text. -/
def success (json : Bool) (g : Run.Generated) : Answer :=
  if json then
    if g.output.isText then ⟨0, (generatedJson g).pretty 0 ++ "\n", ""⟩
    else fatal "path contains invalid UTF-8 characters"
  else
    ⟨0, s!"Generated {g.output.text}\n",
      if g.result.diagnostics.isEmpty then ""
      else s!"{g.result.diagnostics.length} warning(s)\n"⟩

def plan (config : Config) : Except Config.Problem (Run × Converter) := do
  let run ← config.run
  let converter ← config.findConverter (Converter.builtin TypeScript.read)
  return (run, converter)

variable {m : Type → Type} [Monad m]

def perform (s : Storage m) (commands : Format.Commands) (working : Path) (c : CommandLine) :
    m Answer := do
  match ← Config.load s working.text c.config with
  | .error problem => return fatal problem.message
  | .ok config =>
    let config := c.apply config
    match plan config with
    | .error problem => return fatal problem.message
    | .ok (run, converter) =>
      let format := (config.formatter run.output).run commands
      match ← run.generate s working TypeScript.read converter format with
      | .error failure => return fatal s!"failed to generate {run.output}: {failure.chain}"
      | .ok generated => return success c.json generated

def run (s : Storage m) (commands : Format.Commands) (working : Path) (words : List String) :
    m Answer := do
  match read words with
  | .ok c => c.perform s commands working
  | .error .help => return ⟨0, help, ""⟩
  | .error .version => return ⟨0, version, ""⟩
  | .error (.problem p) => return ⟨2, "", p.text⟩

end SchemaGen.CommandLine
