import SchemaGen.Schema.Doc

namespace SchemaGen.Schema

/-- A property of an object. `name` is without quotes. -/
structure Field (τ : Type) where
  name : String
  type : τ
  required : Bool
  docs : Option Doc
  deriving Inhabited

/-- A type. The contents of `text` can stand between double quotes as they are; `numeral` is a number
as it was written; `index` is the type of the properties that an object does not name. -/
inductive TypeExpr where
  | string
  | number
  | bigint
  | boolean
  | date
  | null
  | undefined
  | unknown
  | any
  | never
  | void
  | array (item : TypeExpr)
  | tuple (items : List TypeExpr)
  | record (key value : TypeExpr)
  | object (fields : List (Field TypeExpr)) (index : Option TypeExpr)
  | union (members : List TypeExpr)
  | intersection (members : List TypeExpr)
  | ref (name : String)
  | text (contents : String)
  | numeral (source : String)
  | truth (value : Bool)
  | unsupported (what : String)
  deriving Inhabited

structure Variant where
  value : Int
  name : Option String
  deriving DecidableEq, Inhabited

inductive Enumeration where
  | texts (values : List String)
  | numbers (variants : List Variant)
  deriving DecidableEq, Inhabited

inductive Shape where
  | struct (fields : List (Field TypeExpr))
  | enumeration (values : Enumeration)
  | alias (type : TypeExpr)
  deriving Inhabited

structure Definition where
  name : String
  docs : Option Doc
  shape : Shape
  deriving Inhabited

structure SyntaxError where
  line : Nat
  snippet : String
  deriving DecidableEq, Inhabited

def Definition.unsupported (name what : String) : Definition :=
  { name, docs := none, shape := .alias (.unsupported what) }

def addName (seen : List String) (name : String) : List String :=
  if name ∈ seen then seen else seen ++ [name]

mutual

/-- Add the names that a type refers to, in the order of their first mention. -/
def TypeExpr.addReferences (seen : List String) : TypeExpr → List String
  | .ref name => addName seen name
  | .array item => item.addReferences seen
  | .tuple items => addReferencesAll seen items
  | .union members => addReferencesAll seen members
  | .intersection members => addReferencesAll seen members
  | .record key value => value.addReferences (key.addReferences seen)
  | .object fields index =>
    let seen := addReferencesFields seen fields
    match index with
    | some t => t.addReferences seen
    | none => seen
  | _ => seen

def addReferencesAll (seen : List String) : List TypeExpr → List String
  | [] => seen
  | t :: ts => addReferencesAll (t.addReferences seen) ts

def addReferencesFields (seen : List String) : List (Field TypeExpr) → List String
  | [] => seen
  | f :: fs => addReferencesFields (f.type.addReferences seen) fs

end

def Definition.references (d : Definition) : List String :=
  match d.shape with
  | .struct fields => addReferencesFields [] fields
  | .enumeration _ => []
  | .alias t => t.addReferences []

end SchemaGen.Schema

namespace SchemaGen

/-- The declarations of a module in order, and what could not be read. -/
structure Schema where
  definitions : List Schema.Definition
  syntaxErrors : List Schema.SyntaxError
  deriving Inhabited

def Schema.get? (s : Schema) (name : String) : Option Definition :=
  s.definitions.find? (·.name = name)

end SchemaGen
