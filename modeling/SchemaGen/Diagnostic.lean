import SchemaGen.Conversion

namespace SchemaGen

/-- The part of the work that a diagnostic comes from. -/
inductive Stage where
  | preprocess
  | convert
  | reorganize
  deriving DecidableEq, Inhabited

def Stage.name : Stage → String
  | preprocess => "preprocess"
  | convert => "convert"
  | reorganize => "reorganize"

/-- What is said of a declaration. -/
inductive Notice where
  | overloaded
  | notAnObject (kind : String)
  | identifierUsed (identifier first : String)
  | conversion (problem : Problem)
  | unmarked (marker : String)
  | repeated
  | mixedGroup (entity : String)
  | loneSuffix (suffix entity : String)
  | nameExported (name entity : String)
  deriving DecidableEq, Inhabited

def Notice.stage : Notice → Stage
  | overloaded | notAnObject _ | identifierUsed _ _ => .preprocess
  | conversion _ => .convert
  | unmarked _ | repeated | mixedGroup _ | loneSuffix _ _ | nameExported _ _ => .reorganize

def Notice.message : Notice → String
  | overloaded => "has overloaded signatures; not generated"
  | notAnObject kind => s!"is a `{kind}`, not an object type; not generated"
  | identifierUsed identifier first =>
    s!"validator name `{identifier}` is already used by `{first}`; dropped"
  | conversion problem => problem.message
  | unmarked marker => s!"exported const without the `{marker}` marker; dropped"
  | repeated => "declared more than once; keeping the first"
  | mixedGroup entity =>
    s!"has no suffix but shares entity `{entity}` with suffixed declarations; " ++
      s!"no aggregate emitted for `{entity}`"
  | loneSuffix suffix entity =>
    s!"ends in `{suffix}` but no other declaration of `{entity}` exists; " ++
      "treated as a standalone schema"
  | nameExported name entity =>
    s!"`{name}` is already exported; no aggregate emitted for `{entity}`"

/-- A notice, with the name of the declaration unless it concerns the whole module. -/
structure Diagnostic where
  declaration : Option String
  notice : Notice
  deriving DecidableEq, Inhabited

def Diagnostic.stage (d : Diagnostic) : Stage := d.notice.stage

def Diagnostic.message (d : Diagnostic) : String := d.notice.message

def Diagnostic.text (d : Diagnostic) : String :=
  match d.declaration with
  | some name => s!"[{d.stage.name}] {name}: {d.message}"
  | none => s!"[{d.stage.name}] {d.message}"

def Diagnostic.ofReport (r : Report) : Diagnostic := ⟨r.declaration, .conversion r.problem⟩

end SchemaGen
