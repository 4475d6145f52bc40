namespace SchemaGen.CommandLine

inductive Parameter where
  | input
  | output
  | config
  | schema
  | includeNames
  | excludeNames
  | excludeTags
  | keepComments
  | skipTags
  | skipValidation
  | passes
  | formatCommand
  | json
  | verbose
  | help
  | version
  deriving DecidableEq, Inhabited

namespace Parameter

def all : List Parameter :=
  [input, output, config, schema, includeNames, excludeNames, excludeTags, keepComments, skipTags,
   skipValidation, passes, formatCommand, json, verbose, help, version]

def name : Parameter → String
  | input => "input"
  | output => "output"
  | config => "config"
  | schema => "schema"
  | includeNames => "include"
  | excludeNames => "exclude"
  | excludeTags => "exclude-tag"
  | keepComments => "keep-comments"
  | skipTags => "skip-parse-jsdoc"
  | skipValidation => "skip-validation"
  | passes => "max-run"
  | formatCommand => "format-command"
  | json => "json"
  | verbose => "verbose"
  | help => "help"
  | version => "version"

def letter? : Parameter → Option Char
  | input => some 'i'
  | output => some 'o'
  | schema => some 's'
  | verbose => some 'v'
  | help => some 'h'
  | version => some 'V'
  | _ => none

def valueName? : Parameter → Option String
  | input | output | config => some "FILE"
  | schema => some "NAME"
  | includeNames | excludeNames => some "REGEX"
  | excludeTags => some "TAG"
  | passes => some "N"
  | formatCommand => some "ARG"
  | _ => none

def repeatable : Parameter → Bool
  | includeNames | excludeNames | excludeTags | formatCommand | verbose => true
  | _ => false

/-- Whether a value may look like a parameter. -/
def takesAnything : Parameter → Bool
  | formatCommand => true
  | _ => false

def shown (p : Parameter) : String :=
  "--" ++ p.name ++ match p.valueName? with
    | some value => " <" ++ value ++ ">"
    | none => if p = verbose then "..." else ""

def description : Parameter → String
  | input => "Supabase type declarations (output of `supabase gen types typescript`)"
  | output => "File to write the generated schemas to"
  | config => "Config file (default: ./supazod.toml when present)"
  | schema => "Database schema to generate"
  | includeNames => "Only generate declarations whose name matches (repeatable)"
  | excludeNames => "Skip declarations whose name matches (repeatable)"
  | excludeTags => "Skip declarations carrying this JSDoc tag (repeatable)"
  | keepComments => "Keep JSDoc comments in the generated schemas"
  | skipTags => "Do not turn JSDoc tags into refinements"
  | skipValidation => "Do not re-check the generated schemas"
  | passes => "Maximum dependency-ordering passes"
  | formatCommand =>
    "External formatter argv, `\x7bpath\x7d` is replaced by the output path (repeatable)"
  | json => "Print the run report as JSON on stdout"
  | verbose => "Increase log verbosity (-v info, -vv debug, -vvv trace)"
  | help => "Print help"
  | version => "Print version"

def heading (p : Parameter) : String :=
  (match p.letter? with
    | some c => "  -" ++ c.toString ++ ", "
    | none => "      ") ++ p.shown

def ofName? (name : String) : Option Parameter := all.find? (·.name = name)

def ofLetter? (c : Char) : Option Parameter := all.find? (·.letter? = some c)

end Parameter

def padded (width : Nat) (s : String) : String :=
  s ++ String.ofList (List.replicate (width - s.length) ' ')

def usage : String := "Usage: supazod [OPTIONS]\n"

/-- The help. Descriptions begin two columns behind the widest heading. -/
def help : String :=
  let width := (Parameter.all.map (·.heading.length)).foldl max 0 + 2
  "Generate Zod schemas from Supabase database types\n\n" ++ usage ++ "\nOptions:\n" ++
    String.join (Parameter.all.map fun p => padded width p.heading ++ p.description ++ "\n")

def version : String := "supazod 0.2.0\n"

end SchemaGen.CommandLine
