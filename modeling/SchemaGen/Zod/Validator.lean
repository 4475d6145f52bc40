import SchemaGen.Schema.Basic
import SchemaGen.Zod.Refinement

namespace SchemaGen.Zod

open Schema

inductive Base where
  | string
  | number
  | bigint
  | boolean
  | date
  | null
  | undefined
  | unknown
  | any
  | never
  | void
  deriving DecidableEq, Inhabited

def Base.name : Base → String
  | string => "string"
  | number => "number"
  | bigint => "bigint"
  | boolean => "boolean"
  | date => "date"
  | null => "null"
  | undefined => "undefined"
  | unknown => "unknown"
  | any => "any"
  | never => "never"
  | void => "void"

/-- A value as it is written. The contents of `text` can stand between double quotes. -/
inductive Literal where
  | text (contents : String)
  | numeral (source : String)
  | truth (value : Bool)
  deriving DecidableEq, Inhabited

def quoted (contents : String) : String := "\"" ++ contents ++ "\""

def Literal.render : Literal → String
  | text contents => quoted contents
  | numeral source => source
  | truth value => if value then "true" else "false"

structure Property (ν : Type) where
  docs : Option Doc
  name : String
  validator : ν
  deriving Inhabited

/-- A validator. A record without a validator for its keys has texts as keys; `rest` is the validator
of the properties that an object does not name; `ref` is the validator of the type of that name. -/
inductive Validator where
  | base (base : Base)
  | literal (value : Literal)
  | choice (values : List String)
  | array (item : Validator)
  | tuple (items : List Validator)
  | record (key : Option Validator) (value : Validator)
  | object (properties : List (Property Validator)) (rest : Option Validator)
  | union (members : List Validator)
  | both (left right : Validator)
  | ref (type : String)
  | refined (inner : Validator) (refinement : Refinement)
  | optional (inner : Validator)
  | nullable (inner : Validator)
  | withDefault (inner : Validator) (value : String)
  deriving Inhabited

mutual

/-- Add the names of the types whose validators are mentioned, in the order in which they are met. The
values of a record are met before its keys. -/
def Validator.addReferences (seen : List String) : Validator → List String
  | .base _ | .literal _ | .choice _ => seen
  | .array item => item.addReferences seen
  | .tuple items => addReferencesAll seen items
  | .record key value =>
    match key with
    | some k => k.addReferences (value.addReferences seen)
    | none => value.addReferences seen
  | .object properties rest =>
    match rest with
    | some r => r.addReferences (addReferencesProperties seen properties)
    | none => addReferencesProperties seen properties
  | .union members => addReferencesAll seen members
  | .both left right => right.addReferences (left.addReferences seen)
  | .ref type => addName seen type
  | .refined inner _ | .optional inner | .nullable inner | .withDefault inner _ =>
    inner.addReferences seen

def addReferencesAll (seen : List String) : List Validator → List String
  | [] => seen
  | v :: vs => addReferencesAll (v.addReferences seen) vs

def addReferencesProperties (seen : List String) : List (Property Validator) → List String
  | [] => seen
  | p :: ps => addReferencesProperties (p.validator.addReferences seen) ps

end

def Validator.references (v : Validator) : List String := v.addReferences []

/-- How validators are written: the identifier of the validator of a type, and whether documentation
stands above the properties. -/
structure Style where
  identifier : String → String
  comments : Bool

def isNameStart (c : Char) : Bool := c.isAlpha || c = '_' || c = '$'

def isNameRest (c : Char) : Bool := c.isAlphanum || c = '_' || c = '$'

def isPlainName : List Char → Bool
  | c :: cs => isNameStart c && cs.all isNameRest
  | [] => false

def escapeQuotes (cs : List Char) : List Char :=
  cs.flatMap fun c => if c = '"' then ['\\', '"'] else [c]

def propertyKey (name : String) : String :=
  if isPlainName name.toList then name else quoted (String.ofList (escapeQuotes name.toList))

def Style.comment (s : Style) (docs : Option Doc) (indent : Nat) : String :=
  match docs with
  | some d => if s.comments then d.render indent else ""
  | none => ""

mutual

/-- Write a validator; the lines of an object stand one level deeper than `indent`. -/
def Validator.render (s : Style) (indent : Nat) : Validator → String
  | .base b => "z." ++ b.name ++ "()"
  | .literal l => "z.literal(" ++ l.render ++ ")"
  | .choice values => "z.enum([" ++ ", ".intercalate (values.map quoted) ++ "])"
  | .array item => "z.array(" ++ item.render s indent ++ ")"
  | .tuple items => "z.tuple([" ++ ", ".intercalate (renderAll s indent items) ++ "])"
  | .record key value =>
    match key with
    | some k => "z.record(" ++ k.render s indent ++ ", " ++ value.render s indent ++ ")"
    | none => "z.record(" ++ value.render s indent ++ ")"
  | .object properties rest =>
    let body := match properties with
      | [] => "z.object(\x7b\x7d)"
      | ps =>
        "z.object(\x7b\n" ++ String.join (renderProperties s (indent + 1) ps) ++ Doc.margin indent ++
          "\x7d)"
    match rest with
    | some r => body ++ ".catchall(" ++ r.render s indent ++ ")"
    | none => body
  | .union members => "z.union([" ++ ", ".intercalate (renderAll s indent members) ++ "])"
  | .both left right => left.render s indent ++ ".and(" ++ right.render s indent ++ ")"
  | .ref type => s.identifier type
  | .refined inner r => inner.render s indent ++ r.render
  | .optional inner => inner.render s indent ++ ".optional()"
  | .nullable inner => inner.render s indent ++ ".nullable()"
  | .withDefault inner value => inner.render s indent ++ ".default(" ++ value ++ ")"

def renderAll (s : Style) (indent : Nat) : List Validator → List String
  | [] => []
  | v :: vs => v.render s indent :: renderAll s indent vs

def renderProperties (s : Style) (indent : Nat) : List (Property Validator) → List String
  | [] => []
  | p :: ps =>
    (s.comment p.docs indent ++ Doc.margin indent ++ propertyKey p.name ++ ": " ++
      p.validator.render s indent ++ ",\n") :: renderProperties s indent ps

end

end SchemaGen.Zod
