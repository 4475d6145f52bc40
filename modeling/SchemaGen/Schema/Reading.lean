import SchemaGen.Schema.Basic
import SchemaGen.Schema.Literal
import SchemaGen.Syntax.Node

namespace SchemaGen.Schema

open Syntax

/-- The text of a property name without its quotes; a computed name has none. -/
def propertyName? (name : Node) : Option String :=
  if name.kind = "property_identifier" || name.kind = "number" then some name.text
  else if name.kind = "string" then some (onChars Literal.contents name.text)
  else none

def isOptional (property : Node) : Bool :=
  property.children.any fun c => !c.isNamed && c.text = "?"

/-- Types with a name of their own in the language. -/
def TypeExpr.predefined (name : String) : TypeExpr :=
  match name with
  | "string" => .string
  | "number" => .number
  | "boolean" => .boolean
  | "bigint" => .bigint
  | "any" => .any
  | "unknown" => .unknown
  | "never" => .never
  | "void" => .void
  | "undefined" => .undefined
  | "null" => .null
  | "object" => .record .string .any
  | other => .unsupported s!"`{other}`"

/-- A type that is mentioned by name. Some names are known. -/
def TypeExpr.named (name : String) : TypeExpr :=
  match name with
  | "Date" => .date
  | "PropertyKey" => .union [.string, .number]
  | other => .ref other

/-- A known type with arguments. Missing arguments stand for the widest choice. -/
def TypeExpr.applied (name : String) (arguments : List TypeExpr) : TypeExpr :=
  match name with
  | "Array" | "ReadonlyArray" => .array (arguments.headD .any)
  | "Record" => .record (arguments.headD .string) (arguments.tail.headD .any)
  | "Readonly" => arguments.headD .any
  | other => .unsupported s!"generic type `{other}`"

/-- The type that holds one value only. -/
def TypeExpr.literal (n : Node) : TypeExpr :=
  match n.namedChildren with
  | [] => .unsupported "empty literal"
  | value :: _ =>
    match value.kind with
    | "string" => .text (onChars Literal.doubleQuoted value.text)
    | "number" | "unary_expression" => .numeral value.text
    | "true" => .truth true
    | "false" => .truth false
    | "null" => .null
    | "undefined" => .undefined
    | other => .unsupported s!"`{other}` literal"

inductive Member where
  | comment (doc : Option Doc)
  | property (field : Field TypeExpr)
  | index (type : TypeExpr)
  | unsupported (what : String)
  | other

/-- What the members up to some point of a body say: the properties, the type of all others, and the
documentation comment that waits for a property. -/
structure Body where
  fields : List (Field TypeExpr)
  index : Option TypeExpr
  pending : Option Doc

/-- Go on by one member, unless it cannot be expressed. A comment belongs to the property that
follows it directly. -/
def Body.add (b : Body) : Member → Except String Body
  | .comment doc => .ok { b with pending := doc }
  | .property f => .ok { b with fields := b.fields ++ [{ f with docs := b.pending }], pending := none }
  | .index t => .ok { b with index := some t, pending := none }
  | .unsupported what => .error what
  | .other => .ok { b with pending := none }

def Body.toType (b : Body) : TypeExpr :=
  match b.fields, b.index with
  | [], some value => .record .string value
  | fields, index => .object fields index

def TypeExpr.ofMembers (members : List Member) : TypeExpr :=
  match members.foldlM Body.add ⟨[], none, none⟩ with
  | .ok body => body.toType
  | .error what => .unsupported what

mutual

def TypeExpr.ofNode (n : Node) : TypeExpr :=
  match n.kind with
  | "predefined_type" => .predefined n.text
  | "type_identifier" => .named n.text
  | "union_type" => .union (operands "union_type" n)
  | "intersection_type" => .intersection (operands "intersection_type" n)
  | "array_type" => .array (ofFirstPart n)
  | "readonly_type" | "parenthesized_type" => ofFirstPart n
  | "generic_type" =>
    .applied ((n.field? "name").elim "" (·.text)) (match n.innerField? "type_arguments" with
      | some ⟨arguments, _⟩ => ofParts arguments
      | none => [])
  | "literal_type" => .literal n
  | "tuple_type" =>
    if n.parts.any fun c => c.kind = "optional_type" || c.kind = "rest_type" then
      .unsupported "optional or rest tuple element"
    else .tuple (ofParts n)
  | "object_type" => ofBody n
  | "lookup_type" => .unsupported "indexed access type"
  | "function_type" | "constructor_type" => .unsupported "function type"
  | "conditional_type" => .unsupported "conditional type"
  | "template_literal_type" => .unsupported "template literal type"
  | other => .unsupported s!"`{other}`"
termination_by (sizeOf n, 1)
decreasing_by all_goals omega

def ofParts (n : Node) : List TypeExpr := n.innerParts.map fun ⟨c, _⟩ => TypeExpr.ofNode c
termination_by (sizeOf n, 0)

def ofFirstPart (n : Node) : TypeExpr :=
  match n.innerParts with
  | ⟨c, _⟩ :: _ => TypeExpr.ofNode c
  | [] => .any
termination_by (sizeOf n, 0)

def operands (operator : String) (n : Node) : List TypeExpr :=
  n.innerParts.flatMap fun ⟨c, _⟩ =>
    if c.kind = operator then operands operator c else [TypeExpr.ofNode c]
termination_by (sizeOf n, 0)

def ofBody (n : Node) : TypeExpr := .ofMembers (n.namedInner.map fun ⟨c, _⟩ => Member.ofNode c)
termination_by (sizeOf n, 0)

def Member.ofNode (n : Node) : Member :=
  match n.kind with
  | "comment" => .comment (Doc.parse? n.text)
  | "property_signature" =>
    match (n.field? "name").bind propertyName? with
    | none => .unsupported "computed property name"
    | some name =>
      .property ⟨name, (match n.innerField? "type" with
        | some ⟨typing, _⟩ => ofFirstPart typing
        | none => .any), !isOptional n, none⟩
  | "index_signature" => indexOf n
  | "method_signature" | "call_signature" | "construct_signature" => .unsupported "method signature"
  | _ => .other
termination_by (sizeOf n, 1)
decreasing_by all_goals omega

/-- Read an index signature. Its keys are texts or numbers. -/
def indexOf (n : Node) : Member :=
  if n.parts.any (·.kind = "mapped_type_clause") then .unsupported "mapped type"
  else match (n.innerField? "index_type").or n.innerParts[1]? with
    | none => .unsupported "index signature without key type"
    | some ⟨key, _⟩ =>
      match TypeExpr.ofNode key with
      | .string | .number =>
        .index (match n.innerField? "type" with
          | some ⟨typing, _⟩ => ofFirstPart typing
          | none => .any)
      | _ => .unsupported "index signature with non-primitive key"
termination_by (sizeOf n, 0)

end

/-- Members of an enumeration that have been read: the texts, the numbers, and the value that a number
without one gets next, in 64 bits. -/
structure Tally where
  texts : List String
  numbers : List Variant
  next : Int

def Tally.number (t : Tally) (value : Int) (name : Option String) : Tally :=
  { t with numbers := t.numbers ++ [⟨value, name⟩], next := Numeral.wrapped (value + 1) }

/-- Go on by one member; there is no answer for a value that must be computed. -/
def Tally.add (t : Tally) (n : Node) : Option Tally :=
  match n.kind with
  | "enum_assignment" =>
    let name := (n.field? "name").map (·.text)
    match n.field? "value" with
    | none => some (t.number t.next name)
    | some value =>
      if value.kind = "string" then
        some { t with texts := t.texts ++ [onChars Literal.doubleQuoted value.text] }
      else (Numeral.integer? value.text.toList).map (t.number · name)
  | "property_identifier" => some (t.number t.next (some n.text))
  | _ => some t

def Shape.ofEnumMembers (members : List Node) : Shape :=
  match members.foldlM Tally.add ⟨[], [], 0⟩ with
  | none => .alias (.unsupported "computed enum member")
  | some ⟨[], numbers, _⟩ => .enumeration (.numbers numbers)
  | some ⟨texts, [], _⟩ => .enumeration (.texts texts)
  | some _ => .alias (.unsupported "heterogeneous enum")

def Shape.ofType : TypeExpr → Shape
  | .object fields none => .struct fields
  | other => .alias other

def Shape.ofInterface (n body : Node) : Shape :=
  if (n.field? "type_parameters").isSome then .alias (.unsupported "generic interface")
  else if n.namedChildren.any (·.kind = "extends_type_clause") then
    .alias (.unsupported "interface inheritance")
  else .ofType (ofBody body)

/-- The shape that a declaration of a type gives to its name. -/
def Shape.ofNode? (n : Node) : Option Shape :=
  match n.kind with
  | "interface_declaration" => (n.field? "body").map (Shape.ofInterface n)
  | "type_alias_declaration" =>
    if (n.field? "type_parameters").isSome then
      some (.alias (.unsupported "generic type alias"))
    else (n.field? "value").map fun value => .alias (.ofNode value)
  | "enum_declaration" => (n.field? "body").map fun body => Shape.ofEnumMembers body.namedChildren
  | _ => none

/-- Read a declaration of a type, apart from its documentation. -/
def Definition.ofNode? (n : Node) : Option Definition := do
  let shape ← Shape.ofNode? n
  let name ← n.field? "name"
  return { name := name.text, docs := none, shape }

/-- What has been read of a module, and the documentation comment that waits for a declaration. -/
structure Outline where
  schema : Schema
  pending : Option Doc

def declarationIn? (n : Node) : Option Node :=
  if n.kind = "export_statement" then n.field? "declaration"
  else if n.isError then none
  else some n

/-- Go on by one node at the top of a module. A comment belongs to the declaration that follows it
directly. -/
def Outline.add (o : Outline) (n : Node) : Outline :=
  if n.isComment then { o with pending := Doc.parse? n.text }
  else
    let errors :=
      if n.isError then [⟨n.info.line, trimString (firstLine n.text)⟩] else []
    let definitions :=
      match (declarationIn? n).bind Definition.ofNode? with
      | some d => [{ d with docs := o.pending }]
      | none => []
    ⟨⟨o.schema.definitions ++ definitions, o.schema.syntaxErrors ++ errors⟩, none⟩

protected def ofNode (root : Node) : Schema :=
  (root.children.foldl Outline.add ⟨⟨[], []⟩, none⟩).schema

end SchemaGen.Schema
