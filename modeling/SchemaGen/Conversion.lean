namespace SchemaGen

inductive Problem where
  | syntaxError (line : Nat) (snippet : String)
  | declaredTwice
  | unsupported (what : String)
  | unknownType (name : String)
  | brokenNeed (name : String)
  | circular (needs : List String)
  | passesExhausted (passes : Nat)
  | unreadable (line : Nat)
  | usedEarly (name : String)
  | undeclared (name : String)
  | note (text : String)
  deriving DecidableEq, Inhabited

def Problem.message : Problem → String
  | syntaxError line snippet => s!"syntax error at line {line}: {snippet}"
  | declaredTwice => "declared more than once"
  | unsupported what => s!"unsupported type: {what}"
  | unknownType name => s!"references unknown type `{name}`"
  | brokenNeed name => s!"depends on `{name}` which could not be generated"
  | circular needs => "circular dependency through " ++ ", ".intercalate needs
  | passesExhausted passes => s!"dependencies not resolved within {passes} passes"
  | unreadable line => s!"generated source does not parse (line {line})"
  | usedEarly name => s!"`{name}` is used before its declaration"
  | undeclared name => s!"reference to undeclared schema `{name}`"
  | note text => text

/-- A problem, with the name of the declaration that has it unless it concerns the whole module. -/
structure Report where
  declaration : Option String
  problem : Problem
  deriving DecidableEq, Inhabited

def Report.message (r : Report) : String := r.problem.message

def Report.text (r : Report) : String :=
  match r.declaration with
  | some name => s!"{name}: {r.message}"
  | none => r.message

/-- Why a source cannot be read at all. -/
inductive ParseFailure where
  | init (reason : String)
  | failed
  deriving DecidableEq, Inhabited

def ParseFailure.message : ParseFailure → String
  | init reason => s!"tree-sitter init: {reason}"
  | failed => "failed to parse TypeScript"

/-- What a conversion makes: a source, and reports on what is not in it. -/
structure Conversion where
  source : String
  reports : List Report
  deriving Inhabited

/-- How to convert. `identifier` names the validator of a type, `importPath` is the module that
declares the types, and `passes` limits how often the dependencies are gone through. -/
structure Conversion.Options where
  identifier : String → String
  keepComments : Bool
  skipTags : Bool
  skipValidation : Bool
  passes : Nat
  importPath : String

structure Converter where
  name : String
  convert : Conversion.Options → String → Except ParseFailure Conversion

def Converter.find? (converters : List Converter) (name : String) : Option Converter :=
  converters.find? (·.name = name)

end SchemaGen
