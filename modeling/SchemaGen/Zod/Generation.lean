import SchemaGen.Zod.Declaration

namespace SchemaGen.Zod

open Schema

/-- A module of validators. `imported` are the types that validators refer to by name. -/
structure Module where
  imported : List String
  importPath : String
  declarations : List Declaration

def Module.render (s : Style) (m : Module) : String :=
  "// Generated by supazod\nimport \x7b z \x7d from \"zod\";\n" ++
    (if m.imported.isEmpty then ""
    else "import type \x7b " ++ ", ".intercalate m.imported ++ " \x7d from \"" ++ m.importPath ++
      "\";\n") ++
    String.join (m.declarations.map fun d => "\n" ++ d.render s ++ "\n")

def firstOfEach (seen : List String) : List Definition → List Definition
  | [] => []
  | d :: ds => if d.name ∈ seen then firstOfEach seen ds else d :: firstOfEach (d.name :: seen) ds

def repeatedNames (seen : List String) : List Definition → List String
  | [] => []
  | d :: ds =>
    if d.name ∈ seen then d.name :: repeatedNames seen ds else repeatedNames (d.name :: seen) ds

/-- What can be declared by itself, and reports on the rest. -/
def declareAll (s : Scope) : List Definition → List Declaration × List Report
  | [] => ([], [])
  | d :: ds =>
    let (declarations, reports) := declareAll s ds
    match Declaration.ofDefinition s d with
    | .ok declaration => (declaration :: declarations, reports)
    | .error problem => (declarations, ⟨some d.name, problem⟩ :: reports)

def scopeOf (schema : Schema) (options : Conversion.Options) : Scope :=
  ⟨schema.definitions.map (·.name), !options.skipTags⟩

def styleOf (options : Conversion.Options) : Style := ⟨options.identifier, options.keepComments⟩

def generate (schema : Schema) (options : Conversion.Options) : Module × List Report :=
  let unread := schema.syntaxErrors.map fun e => Report.mk none (.syntaxError e.line e.snippet)
  let twice := (repeatedNames [] schema.definitions).map fun n => Report.mk (some n) .declaredTwice
  let (declared, failed) := declareAll (scopeOf schema options) (firstOfEach [] schema.definitions)
  let (kept, broken) := closed declared
  let result := order kept options.passes
  let leftover := result.leftover.map (result.leftoverReport options.passes)
  let imported := (declared.filter (·.recursive)).map (·.name)
  let there := result.ordered.map (·.name)
  (⟨imported.filter there.contains, options.importPath, result.ordered⟩,
    unread ++ twice ++ failed ++ broken ++ leftover)

def convertSchema (schema : Schema) (options : Conversion.Options) : Conversion :=
  let (m, reports) := generate schema options
  ⟨m.render (styleOf options), reports⟩

end SchemaGen.Zod
