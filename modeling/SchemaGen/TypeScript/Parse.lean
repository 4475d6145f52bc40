import SchemaGen.Conversion
import SchemaGen.Syntax.Node
import SchemaGen.Text.Blank
import SchemaGen.TypeScript.Token

namespace SchemaGen.TypeScript

open SchemaGen.Grammar SchemaGen.Parsing SchemaGen.Syntax

namespace Tree

/-- The kind under which a tree is shown and whether it is named; `none` if it leaves no node. -/
def shownKind (g : Flat) (shown : Option Alias) (i : Info) : Option (String × Bool) :=
  if i.symbol = Subtree.errorSymbol g then some ("ERROR", true)
  else match shown <|> g.usualAlias.getD i.symbol none with
    | some a => some (a.kind, a.named)
    | none => match g.symbols[i.symbol]? with
      | some s => if s.visible then some (s.name, s.named) else none
      | none => none

def labelFirst (field : Option String) (nodes : List Node) : List Node :=
  match field, nodes with
  | some f, .mk i cs :: rest => .mk { i with fields := f :: i.fields } cs :: rest
  | _, nodes => nodes

mutual

/-- The nodes that a parse tree leaves: itself, or what lies below it if it is hidden. -/
def nodes (g : Flat) (t : Text) (shown : Option Alias) : Subtree → List Node
  | .node i children =>
    let steps := (i.production.bind (g.productions[·]?)).elim [] (·.steps.toList)
    let inner := childNodes g t steps children
    match shownKind g shown i with
    | none => inner
    | some (kind, named) =>
      [.mk { kind, named, fields := [], text := t.slice i.start i.stop, start := i.start
             stop := i.stop, line := t.rows.getD i.start 0 + 1, missing := i.missing } inner]

/-- The nodes of the children. Extras take no step of the production. -/
def childNodes (g : Flat) (t : Text) (steps : List Step) : List Subtree → List Node
  | [] => []
  | c :: rest =>
    if c.extra then nodes g t none c ++ childNodes g t steps rest
    else match steps with
      | [] => nodes g t none c ++ childNodes g t [] rest
      | s :: steps => labelFirst s.field (nodes g t s.shown c) ++ childNodes g t steps rest

end

end Tree

structure Language where
  table : Table
  scanner : Scanner

/-- The language, worked out when the first source is parsed. -/
def language : Thunk Language := Thunk.mk fun _ =>
  let flat := Grammar.definition.flat
  ⟨Table.ofFlat flat (Token.lexicon flat), Token.scanner flat⟩

def parse (source : String) : Node :=
  let text := Text.ofString source
  let ⟨table, scanner⟩ := language.get
  match Tree.nodes table.flat text none (Parsing.parse table scanner text) with
  | n :: _ => n
  | [] => default

/-- Gives the syntax tree of a source, or why there is none. -/
abbrev Reader := String → Except ParseFailure Node

def read : Reader := fun source => .ok (parse source)

def exportedDeclarator? (n : Node) : Option Node :=
  if n.kind = "export_statement" then
    (n.field? "declaration").bind fun d =>
      if d.kind = "lexical_declaration" then
        d.namedChildren.find? (·.kind = "variable_declarator")
      else none
  else none

def exportedIdentifier? (n : Node) : Option String :=
  ((exportedDeclarator? n).bind (·.field? "name")).bind fun name =>
    if name.kind = "identifier" then some name.text else none

def boundNames (n : Node) : List String :=
  if n.kind = "import_specifier" then
    (((n.field? "alias").or (n.field? "name")).map (·.text)).toList
  else n.namedInner.flatMap fun ⟨c, _⟩ => boundNames c
termination_by sizeOf n

def importedTypes (n : Node) : List String :=
  if (Text.afterPrefix? "import type".toList n.text.toList).isSome then boundNames n else []

end SchemaGen.TypeScript
