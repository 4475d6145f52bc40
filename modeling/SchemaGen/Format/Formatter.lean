import SchemaGen.Files.Storage
import SchemaGen.Text.Blank
import SchemaGen.Text.Search

namespace SchemaGen.Format

/-- Drop empty lines that follow an empty line, and those at the beginning if the text is taken to stand
behind one. -/
def collapse (afterEmpty : Bool) : List (List Char) → List (List Char)
  | [] => []
  | l :: ls =>
    if l.isEmpty then (if afterEmpty then collapse true ls else l :: collapse true ls)
    else l :: collapse false ls

def dropLastEmpty (ls : List (List Char)) : List (List Char) :=
  if ls.getLast? = some [] then ls.dropLast else ls

def plainLines (cs : List Char) : List (List Char) :=
  dropLastEmpty (collapse true ((Text.lines cs).map Text.trimEnd))

/-- Lines with their breaks; a text without lines is one break. -/
def joinLines : List (List Char) → List Char
  | [] => ['\n']
  | ls => ls.flatMap (· ++ ['\n'])

def plain (text : String) : String := onChars (fun cs => joinLines (plainLines cs)) text

inductive Ending where
  | code (n : Nat)
  | signal (n : Nat)
  deriving DecidableEq, Inhabited

def signalNames : List (Nat × String) :=
  [(1, "SIGHUP"), (2, "SIGINT"), (3, "SIGQUIT"), (4, "SIGILL"), (5, "SIGTRAP"), (6, "SIGABRT"),
   (7, "SIGBUS"), (8, "SIGFPE"), (9, "SIGKILL"), (10, "SIGUSR1"), (11, "SIGSEGV"), (12, "SIGUSR2"),
   (13, "SIGPIPE"), (14, "SIGALRM"), (15, "SIGTERM")]

def Ending.text : Ending → String
  | code n => s!"exit status: {n}"
  | signal n =>
    match signalNames.lookup n with
    | some name => s!"signal: {n} ({name})"
    | none => s!"signal: {n}"

/-- What comes of a command. It need not read all its input, and `unread` is what its writer is told then. -/
structure Outcome where
  ending : Ending
  output : List UInt8
  errors : List UInt8
  unread : Option FileError := none

/-- The programs of a machine: what one of a name does with arguments and an input. -/
abbrev Commands := String → List String → String → Except FileError Outcome

/-- Why a text is not formatted. -/
inductive Error where
  | spawn (command : String) (cause : FileError)
  | failed (command : String) (status errors : String)
  | notText (command : String)
  | emptyCommand
  deriving DecidableEq, Inhabited

def Error.message : Error → String
  | spawn command cause => s!"failed to run formatter `{command}`: {cause.message}"
  | failed command status errors => s!"formatter `{command}` exited with {status}: {errors}"
  | notText command => s!"formatter `{command}` produced non-UTF-8 output"
  | emptyCommand => "empty formatter command"

def Error.cause? : Error → Option FileError
  | spawn _ cause => some cause
  | _ => none

/-- Bring a text into its plain form, or hand it to a command. In the words of a command, marks stand for
the path of the file that is written, if it is known, and for the language. -/
inductive Formatter where
  | plain
  | command (words : List String) (path : Option String)
  deriving DecidableEq, Inhabited

def expandMarks (path : Option String) (word : String) : String :=
  let word := replaceString "\x7bparser\x7d" "typescript" word
  match path with
  | some p => replaceString "\x7bpath\x7d" p word
  | none => word

def runWords (commands : Commands) (words : List String) (text : String) : Except Error String :=
  match words with
  | [] => .error .emptyCommand
  | name :: args =>
    let command := " ".intercalate words
    match commands name args text with
    | .error cause => .error (.spawn command cause)
    | .ok outcome =>
      if outcome.ending ≠ .code 0 then
        .error (.failed command outcome.ending.text (trimString (Text.looseText outcome.errors)))
      else match outcome.unread, String.fromUTF8? ⟨outcome.output.toArray⟩ with
        | some cause, _ => .error (.spawn command cause)
        | none, some text => .ok text
        | none, none => .error (.notText command)

def Formatter.run (f : Formatter) (commands : Commands) (text : String) : Except Error String :=
  match f with
  | .plain => .ok (Format.plain text)
  | .command words path => runWords commands (words.map (expandMarks path)) text

end SchemaGen.Format
