import SchemaGen.Proofs.Schema.Reading
import SchemaGen.Syntax.Node

namespace SchemaGen.Run

open Syntax

/-- A text that is given by the characters of its parts. -/
theorem ofList_flatMap_toList (parts : List String) :
    String.ofList (parts.flatMap String.toList) = String.join parts := by
  rw [← String.toList_inj, String.toList_ofList, String.toList_join]

def nodeAt (line start : Nat) (kind : String) (fields : List String) (text : String)
    (children : List Node) : Node :=
  .mk ⟨kind, true, fields, text, start, start + text.length, line, false⟩ children

def tokenAt (line start : Nat) (fields : List String) (text : String) : Node :=
  .mk ⟨text, false, fields, text, start, start + text.length, line, false⟩ []

/-- A node from the start of its first child to the end of its last one. -/
def spanning (source : List Char) (kind : String) (fields : List String) (children : List Node) : Node :=
  let first := (children.head?.getD default).info
  let stop := (children.getLast?.getD default).info.stop
  .mk ⟨kind, true, fields, String.ofList (source.extract first.start stop), first.start, stop,
    first.line, false⟩ children

def stringAt (line start : Nat) (fields : List String) (contents : String) : Node :=
  nodeAt line start "string" fields ("\"" ++ contents ++ "\"") [
    tokenAt line start [] "\"",
    nodeAt line (start + 1) "string_fragment" [] contents [],
    tokenAt line (start + 1 + contents.length) [] "\""]

def propertyAt (source : List Char) (line start : Nat) (name : String) (type : Node) : Node :=
  spanning source "property_signature" [] [
    nodeAt line start "property_identifier" ["name"] name [],
    spanning source "type_annotation" ["type"] [tokenAt line (start + name.length) [] ":", type]]

def indexAt (source : List Char) (type : Node) (key : String) : Node :=
  let line := type.info.line
  let start := type.info.stop
  spanning source "lookup_type" [] [
    type,
    tokenAt line start [] "[",
    spanning source "literal_type" [] [stringAt line (start + 1) [] key],
    tokenAt line (start + 3 + key.length) [] "]"]

def lookupAt (source : List Char) (line start : Nat) (part entry : String) : Node :=
  let database := nodeAt line start "type_identifier" [] "Database" []
  indexAt source (indexAt source (indexAt source database "public") part) entry

/-- An exported declaration of a type, given from its equals sign on. -/
def exportAt (source : List Char) (line start : Nat) (name : String) (rest : List Node) : Node :=
  spanning source "export_statement" [] [
    tokenAt line start [] "export",
    spanning source "type_alias_declaration" ["declaration"] ([
      tokenAt line (start + 7) [] "type",
      nodeAt line (start + 12) "type_identifier" ["name"] name []] ++ rest)]

/-- An import of one name, given by the token before it. -/
def importAt (source : List Char) (line start : Nat) (keywords : List Node) (name path : String) : Node :=
  let behind := start + name.length
  spanning source "import_statement" [] (keywords ++ [
    spanning source "import_clause" [] [
      spanning source "named_imports" [] [
        tokenAt line (start - 2) [] "\x7b",
        spanning source "import_specifier" [] [nodeAt line start "identifier" ["name"] name []],
        tokenAt line (behind + 1) [] "\x7d"]],
    tokenAt line (behind + 3) [] "from",
    stringAt line (behind + 8) ["source"] path,
    tokenAt line (behind + 10 + path.length) [] ";"])

/-- A call of a function of the library, with the parentheses of its arguments. -/
def callAt (source : List Char) (line start : Nat) (fields : List String) (function : String)
    (arguments : List Node) : Node :=
  spanning source "call_expression" fields [
    spanning source "member_expression" ["function"] [
      nodeAt line start "identifier" ["object"] "z" [],
      tokenAt line (start + 1) [] ".",
      nodeAt line (start + 2) "property_identifier" ["property"] function []],
    spanning source "arguments" ["arguments"] arguments]

def constantAt (source : List Char) (line start : Nat) (name : String) (rest : List Node)
    (semicolon : Node) : Node :=
  spanning source "export_statement" [] [
    tokenAt line start [] "export",
    spanning source "lexical_declaration" ["declaration"] [
      tokenAt line (start + 7) ["kind"] "const",
      spanning source "variable_declarator" []
        (nodeAt line (start + 13) "identifier" ["name"] name [] :: rest),
      semicolon]]

/-- An exported constant with its type, in a wrapper that looks it up later, and the line on which the
wrapper ends. -/
def wrappedAt (source : List Char) (line start : Nat) (name type : String) (body : Node) (last : Nat) :
    Node :=
  let colon := start + 13 + name.length
  let equals := colon + 16 + type.length
  constantAt source line start name [
    spanning source "type_annotation" ["type"] [
      tokenAt line colon [] ":",
      spanning source "generic_type" [] [
        spanning source "nested_type_identifier" ["name"] [
          nodeAt line (colon + 2) "identifier" ["module"] "z" [],
          tokenAt line (colon + 3) [] ".",
          nodeAt line (colon + 4) "type_identifier" ["name"] "ZodSchema" []],
        spanning source "type_arguments" ["type_arguments"] [
          tokenAt line (colon + 13) [] "<",
          nodeAt line (colon + 14) "type_identifier" [] type [],
          tokenAt line (colon + 14 + type.length) [] ">"]]],
    tokenAt line equals [] "=",
    callAt source line (equals + 2) ["value"] "lazy" [
      tokenAt line (equals + 8) [] "(",
      spanning source "arrow_function" [] [
        spanning source "formal_parameters" ["parameters"] [
          tokenAt line (equals + 9) [] "(", tokenAt line (equals + 10) [] ")"],
        tokenAt line (equals + 12) [] "=>",
        body],
      tokenAt last body.info.stop [] ")"]] (tokenAt last (body.info.stop + 1) [] ";")

theorem ofFirstPart_typed (info : NodeInfo) {colon type : Node} (hcolon : colon.isNamed = false)
    (hpart : type.isNamed && !type.isComment) :
    Schema.ofFirstPart (.mk info [colon, type]) = .ofNode type := by
  have hparts : (Node.mk info [colon, type]).parts = [type] := by
    simp_all [Node.parts, Node.namedChildren, Node.children]
  rw [Schema.ofFirstPart_eq, hparts]
  rfl

theorem ofNode_propertyAt (source : List Char) (line start : Nat) (name : String) {type : Node}
    (hpart : type.isNamed && !type.isComment) :
    Schema.Member.ofNode (propertyAt source line start name type) =
      .property ⟨name, .ofNode type, true, none⟩ := by
  rw [Schema.Member.ofNode_eq]
  exact congrArg (fun t => Schema.Member.property ⟨name, t, true, none⟩)
    (ofFirstPart_typed _ rfl hpart)

theorem ofNode_identifier (line start : Nat) (fields : List String) (name : String) :
    Schema.TypeExpr.ofNode (nodeAt line start "type_identifier" fields name []) = .named name := by
  rw [Schema.TypeExpr.ofNode_eq]
  rfl

/-- A source in which a type of the database refers to itself. -/
def treeSource : List Char := [
  "export type Database = \x7b public: \x7b CompositeTypes: \x7b tree: \x7b ",
  "at: Database[\"public\"][\"Enums\"][\"date\"]; ",
  "up: Database[\"public\"][\"CompositeTypes\"][\"tree\"] \x7d \x7d; ",
  "Enums: \x7b date: \"soon\" \x7d \x7d \x7d"].flatMap String.toList

/-- The type that refers to itself, as it is in the database. -/
def treeBody : Node :=
  spanning treeSource "object_type" [] [
    tokenAt 1 59 [] "\x7b",
    propertyAt treeSource 1 61 "at" (lookupAt treeSource 1 65 "Enums" "date"),
    tokenAt 1 100 [] ";",
    propertyAt treeSource 1 102 "up" (lookupAt treeSource 1 106 "CompositeTypes" "tree"),
    tokenAt 1 151 [] "\x7d"]

def treeSourceTree : Node :=
  spanning treeSource "program" [] [exportAt treeSource 1 0 "Database" [
    tokenAt 1 21 [] "=",
    spanning treeSource "object_type" ["value"] [
      tokenAt 1 23 [] "\x7b",
      propertyAt treeSource 1 25 "public" (spanning treeSource "object_type" [] [
        tokenAt 1 33 [] "\x7b",
        propertyAt treeSource 1 35 "CompositeTypes" (spanning treeSource "object_type" [] [
          tokenAt 1 51 [] "\x7b",
          propertyAt treeSource 1 53 "tree" treeBody,
          tokenAt 1 153 [] "\x7d"]),
        tokenAt 1 154 [] ";",
        propertyAt treeSource 1 156 "Enums" (spanning treeSource "object_type" [] [
          tokenAt 1 163 [] "\x7b",
          propertyAt treeSource 1 165 "date"
            (spanning treeSource "literal_type" [] [stringAt 1 171 [] "soon"]),
          tokenAt 1 178 [] "\x7d"]),
        tokenAt 1 180 [] "\x7d"]),
      tokenAt 1 182 [] "\x7d"]]]

end SchemaGen.Run
