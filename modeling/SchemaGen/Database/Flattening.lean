import SchemaGen.Database.Lookup
import SchemaGen.Diagnostic
import SchemaGen.Syntax.Annotated

namespace SchemaGen.Database

open Syntax

/-- A declaration at the top of a module: its name, the tags in its documentation and its text. -/
structure Candidate where
  name : String
  tags : List Schema.Tag
  text : String
  deriving DecidableEq, Inhabited

structure MissingSchema where
  schema : String
  database : String
  available : List String
  deriving DecidableEq, Inhabited

/-- The database type and the schema that is flattened. -/
structure Target where
  database : String
  schema : String
  deriving DecidableEq, Inhabited

structure Member where
  name : String
  type : Option Node
  tags : List Schema.Tag
  deriving Inhabited

/-- What stands between quotes of a kind, if anything does. -/
def between? (quote : Char) (cs : List Char) : Option (List Char) :=
  (Text.afterPrefix? [quote] cs).bind (Text.beforeSuffix? [quote])

def bareName (cs : List Char) : List Char :=
  let name := Text.trim cs
  (['"', '\'', '\x60'].findSome? (between? · name)).getD name

/-- Read a property. Its type is the first node behind the colon. -/
def Member.ofAnnotated? (a : Annotated) : Option Member :=
  if a.node.kind = "property_signature" then
    (a.node.field? "name").map fun name =>
      { name := onChars bareName name.text
        type := (a.node.field? "type").bind (·.namedChildren.head?)
        tags := a.tags }
  else none

def members (object : Node) : List Member :=
  (annotate object.namedChildren).filterMap Member.ofAnnotated?

structure Flattened where
  candidates : List Candidate
  diagnostics : List Diagnostic
  deriving Inhabited

def Flattened.none : Flattened := ⟨[], []⟩

def Flattened.append (a b : Flattened) : Flattened :=
  ⟨a.candidates ++ b.candidates, a.diagnostics ++ b.diagnostics⟩

def Flattened.join (fs : List Flattened) : Flattened := fs.foldl Flattened.append .none

/-- A declaration of a name for a type, with flat names in place of lookups. -/
def Target.candidate (t : Target) (name : String) (tags : List Schema.Tag) (type : Node) :
    Candidate :=
  ⟨name, tags, s!"export type {name} = {resolveLookups t.database t.schema type.text};"⟩

def Target.flattenWhole (t : Target) (entries : List Member) : Flattened :=
  ⟨entries.filterMap fun e => e.type.map (t.candidate (pascal e.name) e.tags), []⟩

/-- Flatten the wanted members of an entry. An entry that is no object type is left out. -/
def Target.flattenEntry (t : Target) (wanted : List String) (entry : Member) : Flattened :=
  match entry.type with
  | .none => .none
  | some type =>
    if type.kind = "object_type" then
      ⟨(members type).filterMap fun m =>
        if wanted.contains m.name then
          m.type.map (t.candidate (pascal entry.name ++ m.name) (entry.tags ++ m.tags))
        else Option.none, []⟩
    else
      ⟨[], [⟨some entry.name,
        if type.kind = "union_type" then .overloaded else .notAnObject type.kind⟩]⟩

def Target.flattenSection (t : Target) (part : Member) : Flattened :=
  match part.type with
  | .none => .none
  | some type =>
    match part.name with
    | "Tables" | "Views" =>
      .join ((members type).map (t.flattenEntry ["Row", "Insert", "Update"]))
    | "Functions" => .join ((members type).map (t.flattenEntry ["Args", "Returns"]))
    | "Enums" | "CompositeTypes" => t.flattenWhole (members type)
    | _ => .none

def schemasOf (declaration : Node) : List Member :=
  match (declaration.field? "value").or (declaration.field? "body") with
  | some n => if n.kind = "object_type" || n.kind = "interface_body" then members n else []
  | none => []

def Target.flattenDatabase (t : Target) (declaration : Node) : Except MissingSchema Flattened :=
  let schemas := schemasOf declaration
  match (schemas.find? (·.name = t.schema)).bind (·.type) with
  | some schema => .ok (.join ((members schema).map t.flattenSection))
  | none => .error ⟨t.schema, t.database, schemas.map (·.name)⟩

def exportedType? (n : Node) : Option Node :=
  if n.kind = "export_statement" then
    (n.field? "declaration").bind fun d =>
      if ["type_alias_declaration", "interface_declaration", "enum_declaration"].contains d.kind then
        some d
      else none
  else none

def Target.flattenStatement (t : Target) (source : Array Char) (a : Annotated) :
    Except MissingSchema Flattened :=
  match exportedType? a.node with
  | .none => .ok .none
  | some declaration =>
    match declaration.field? "name" with
    | .none => .ok .none
    | some name =>
      if name.text = t.database then t.flattenDatabase declaration
      else if (declaration.field? "type_parameters").isSome ||
          declaration.mentions "type_identifier" t.database then .ok .none
      else .ok ⟨[⟨name.text, a.tags, a.text source⟩], []⟩

def Target.flatten (t : Target) (source : Array Char) (root : Node) :
    Except MissingSchema Flattened :=
  return .join (← (annotate root.namedChildren).mapM (t.flattenStatement source))

end SchemaGen.Database
