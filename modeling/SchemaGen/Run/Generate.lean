import SchemaGen.Config.Basic

namespace SchemaGen

inductive Failure where
  | unreadable (path : String) (cause : FileError)
  | stopped (stop : Stop)
  | format (error : Format.Error)
  | unwritable (path : String) (cause : FileError)
  | config (problem : Config.Problem)
  deriving DecidableEq, Inhabited

namespace Failure

def message : Failure → String
  | unreadable path cause => s!"failed to read {path}: {cause.message}"
  | stopped stop => stop.message
  | format error => error.message
  | unwritable path cause => s!"failed to write {path}: {cause.message}"
  | config problem => problem.message

/-- The failure of an action on a file that stands behind a failure. -/
def cause? : Failure → Option FileError
  | unreadable _ cause | unwritable _ cause => some cause
  | format error => error.cause?
  | stopped _ | config _ => none

def chain (f : Failure) : String :=
  ": ".intercalate (f.message :: f.cause?.toList.map (·.message))

end Failure

structure Run.Generated where
  output : Path
  result : Run.Result
  deriving Inhabited

namespace Run

/-- The path from the root that a path stands for in a working directory. -/
def resolve (working : Path) (path : String) : Except FileError Path :=
  if path.isEmpty then .error .emptyPath else .ok (working.join (.ofString path)).normalize

/-- The text that a run writes to one path, with what it tells, for the text that it has read from
another. -/
def produce (r : Run) (read : TypeScript.Reader) (converter : Converter)
    (format : String → Except Format.Error String) (input output : Path) (source : String) :
    Except Failure (String × Result) := do
  let result ← (r.transform read converter (input.importSpecifier output) source).mapError .stopped
  let text ← (format result.text).mapError .format
  return (text, result)

/-- The paths of the files that a run reads and writes. -/
def paths (r : Run) (working : Path) : Except Failure (Path × Path) := do
  let input ← (resolve working r.input).mapError (.unreadable r.input)
  let output ← (resolve working r.output).mapError (.unwritable r.output)
  return (input, output)

variable {m : Type → Type} [Monad m]

/-- Read one file, make a text from what is in it, and write that to the other. -/
def carryOut (s : Storage m) (paths : Except Failure (Path × Path))
    (produce : Path → Path → String → Except Failure (String × Result)) :
    m (Except Failure Generated) := do
  match paths with
  | .error failure => return .error failure
  | .ok (input, output) =>
    match ← s.readText input with
    | .error cause => return .error (.unreadable input.text cause)
    | .ok source =>
      match produce input output source with
      | .error failure => return .error failure
      | .ok (text, result) =>
        match ← s.writeAtomic output text with
        | .error cause => return .error (.unwritable output.text cause)
        | .ok () => return .ok ⟨output, result⟩

/-- Read the input, make a module of validators, format it and write it to the output. -/
def generate (s : Storage m) (working : Path) (r : Run) (read : TypeScript.Reader)
    (converter : Converter) (format : String → Except Format.Error String) :
    m (Except Failure Generated) :=
  carryOut s (r.paths working) (r.produce read converter format)

end Run

end SchemaGen
