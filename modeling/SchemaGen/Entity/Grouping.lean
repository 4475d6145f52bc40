import SchemaGen.Diagnostic
import SchemaGen.Naming
import SchemaGen.Syntax.Annotated
import SchemaGen.Text.Blank
import SchemaGen.TypeScript.Parse

namespace SchemaGen.Entity

open Syntax

/-- What a statement does: it exports a constant, it imports something, of which the names of types are
kept, or it does something else. -/
inductive Statement.Kind where
  | constant (identifier : String)
  | imports (types : List String)
  | other
  deriving DecidableEq, Inhabited

/-- A statement with its text, the comments above it included. -/
structure Statement where
  kind : Statement.Kind
  text : String
  deriving DecidableEq, Inhabited

def Statement.Kind.ofNode (n : Node) : Statement.Kind :=
  if n.kind = "import_statement" then .imports (TypeScript.importedTypes n)
  else match TypeScript.exportedIdentifier? n with
    | some identifier => .constant identifier
    | none => .other

def Statement.ofAnnotated (source : Array Char) (a : Annotated) : Statement :=
  ⟨.ofNode a.node, a.text source⟩

def Statement.ofNodes (source : Array Char) (ns : List Node) : List Statement :=
  (annotate ns).map (Statement.ofAnnotated source)

def statements (read : TypeScript.Reader) (source : String) : Except ParseFailure (List Statement) :=
  return Statement.ofNodes source.toList.toArray (← read source).namedChildren

/-- The suffixes that are known unless others are chosen. -/
def standardSuffixes : List String := ["Row", "Insert", "Update"]

/-- Take a suffix in place of the one found so far if it leaves a shorter entity. An entity has at
least one character. -/
def betterSplit (name : List Char) (best : List Char × Option (List Char)) (suffix : List Char) :
    List Char × Option (List Char) :=
  match Text.beforeSuffix? suffix name with
  | some (c :: entity) =>
    if (c :: entity).length < best.1.length then (c :: entity, some suffix) else best
  | _ => best

/-- Split a name into entity and suffix. The longest suffix wins. -/
def splitChars (suffixes : List (List Char)) (name : List Char) : List Char × Option (List Char) :=
  suffixes.foldl (betterSplit name) (name, none)

def splitSuffix (suffixes : List String) (name : String) : String × Option String :=
  let (entity, suffix) := splitChars (suffixes.map String.toList) name.toList
  (String.ofList entity, suffix.map String.ofList)

/-- How to group. The constant named `jsonIdentifier` belongs to no entity. -/
structure Options where
  naming : Naming
  suffixes : List String
  jsonIdentifier : String

/-- The constant that belongs to no entity is the validator of the type `Json`. -/
def Options.ofNaming (naming : Naming) (suffixes : List String) : Options :=
  ⟨naming, suffixes, naming.schemaName "Json"⟩

/-- A declaration of a validator; `name` is the identifier without marks. -/
structure Block where
  identifier : String
  name : String
  text : String
  deriving DecidableEq, Inhabited

structure Member where
  identifier : String
  name : String
  suffix : Option String
  deriving DecidableEq, Inhabited

/-- The validators of an entity. `nameTaken` says that the names of its aggregates are not free. -/
structure Group where
  entity : String
  members : List Member
  nameTaken : Bool
  deriving DecidableEq, Inhabited

/-- Whether a group gets a pair of aggregates. A member without a suffix has the name of the entity
itself. -/
def Group.hasPair (g : Group) : Bool :=
  g.members.length ≥ 2 && !g.nameTaken && g.members.all (·.suffix.isSome)

def Group.push (m : Member) (g : Group) : Group := { g with members := g.members ++ [m] }

def Options.entityOf (o : Options) (b : Block) : String := (splitSuffix o.suffixes b.name).1

def Options.memberOf (o : Options) (b : Block) : Member :=
  ⟨b.identifier, b.name, (splitSuffix o.suffixes b.name).2⟩

/-- What has been gathered from statements. `seen` are the identifiers of validators, and `index` tells
where among the groups that of an entity stands. -/
structure Gathered where
  json : Option Block := none
  blocks : List Block := []
  groups : List Group := []
  typeImports : List String := []
  diagnostics : List Diagnostic := []
  seen : List String := []
  index : List (String × Nat) := []
  deriving Inhabited

def Gathered.notice (g : Gathered) (declaration : String) (notice : Notice) : Gathered :=
  { g with diagnostics := g.diagnostics ++ [⟨some declaration, notice⟩] }

/-- Add a type to the imports, unless it is imported anyway. -/
def addImport (imports : List String) (name : String) : List String :=
  if name = "Json" || imports.contains name then imports else imports ++ [name]

/-- Add a validator to the group of its entity, which is a new one unless the entity has one. -/
def Gathered.addMember (g : Gathered) (entity : String) (m : Member) : Gathered :=
  match g.index.lookup entity with
  | some i => { g with groups := g.groups.modify i (Group.push m) }
  | none =>
    { g with
      index := (entity, g.groups.length) :: g.index
      groups := g.groups ++ [⟨entity, [m], false⟩] }

def Gathered.addNew (o : Options) (g : Gathered) (b : Block) : Gathered :=
  if b.identifier = o.jsonIdentifier then { g with json := some b }
  else { g.addMember (o.entityOf b) (o.memberOf b) with blocks := g.blocks ++ [b] }

/-- Add a declaration of a validator. The first of an identifier counts. -/
def Gathered.addBlock (o : Options) (g : Gathered) (b : Block) : Gathered :=
  if b.identifier ∈ g.seen then g.notice b.identifier .repeated
  else { g with seen := b.identifier :: g.seen }.addNew o b

def Gathered.add (o : Options) (g : Gathered) (s : Statement) : Gathered :=
  match s.kind with
  | .constant identifier =>
    match o.naming.baseName? identifier with
    | some name => g.addBlock o ⟨identifier, name, s.text⟩
    | none => g.notice identifier (.unmarked o.naming.marker)
  | .imports types => { g with typeImports := types.foldl addImport g.typeImports }
  | .other => g

def gather (o : Options) (ss : List Statement) : Gathered := ss.foldl (Gathered.add o) {}

/-- What is to be said of a group whose members only happen to end in a suffix. -/
def Group.doubts (g : Group) : List Diagnostic :=
  match g.members with
  | [m] =>
    match m.suffix with
    | some suffix =>
      if suffix = "Row" then [] else [⟨some m.identifier, .loneSuffix suffix g.entity⟩]
    | none => []
  | ms =>
    (ms.filter (·.suffix.isNone)).map fun m => ⟨some m.identifier, .mixedGroup g.entity⟩

/-- Reserve the names of aggregates, group by group, beside those taken. A group with a name that is not
free gets no pair. -/
def reserve (naming : Naming) (taken : List String) : List Group → List Group × List Diagnostic
  | [] => ([], [])
  | g :: gs =>
    let names := [g.entity, naming.aggregateName g.entity]
    if g.hasPair then
      match names.find? taken.contains with
      | some name =>
        let (rest, diagnostics) := reserve naming taken gs
        ({ g with nameTaken := true } :: rest,
          ⟨some g.entity, .nameExported name g.entity⟩ :: diagnostics)
      | none =>
        let (rest, diagnostics) := reserve naming (names ++ taken) gs
        (g :: rest, diagnostics)
    else
      let (rest, diagnostics) := reserve naming taken gs
      (g :: rest, diagnostics)

/-- The names that a module exports or imports without its aggregates. -/
def Gathered.taken (o : Options) (g : Gathered) : List String :=
  "Json" :: o.jsonIdentifier :: g.typeImports ++
    g.blocks.flatMap fun b => [b.identifier, b.name]

structure Catalog where
  json : Option Block
  blocks : List Block
  groups : List Group
  typeImports : List String
  diagnostics : List Diagnostic
  deriving Inhabited

def Catalog.ofStatements (o : Options) (ss : List Statement) : Catalog :=
  let g := gather o ss
  let (reserved, clashes) := reserve o.naming (g.taken o) g.groups
  { json := g.json, blocks := g.blocks, groups := reserved, typeImports := g.typeImports
    diagnostics := g.diagnostics ++ g.groups.flatMap Group.doubts ++ clashes }

end SchemaGen.Entity
