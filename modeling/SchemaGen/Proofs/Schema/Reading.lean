import Mathlib.Tactic.Common
import SchemaGen.Schema.Reading

namespace SchemaGen.Schema

open Syntax

theorem ofParts_eq (n : Node) : ofParts n = n.parts.map TypeExpr.ofNode := by
  rw [ofParts, ← n.innerParts_map_val, List.map_map]
  rfl

theorem ofFirstPart_eq (n : Node) : ofFirstPart n = n.parts.head?.elim .any TypeExpr.ofNode := by
  rw [ofFirstPart, ← n.innerParts_map_val]
  cases n.innerParts with
  | nil => rfl
  | cons c cs => rfl

theorem operands_eq (operator : String) (n : Node) :
    operands operator n = n.parts.flatMap fun c =>
      if c.kind = operator then operands operator c else [TypeExpr.ofNode c] := by
  rw [operands, ← n.innerParts_map_val, List.flatMap_map]

theorem ofBody_eq (n : Node) : ofBody n = .ofMembers (n.namedChildren.map Member.ofNode) := by
  rw [ofBody, ← n.namedInner_map_val, List.map_map]
  rfl

theorem TypeExpr.ofNode_eq (n : Node) : TypeExpr.ofNode n =
    match n.kind with
    | "predefined_type" => .predefined n.text
    | "type_identifier" => .named n.text
    | "union_type" => .union (operands "union_type" n)
    | "intersection_type" => .intersection (operands "intersection_type" n)
    | "array_type" => .array (ofFirstPart n)
    | "readonly_type" | "parenthesized_type" => ofFirstPart n
    | "generic_type" =>
      .applied ((n.field? "name").elim "" (·.text)) ((n.field? "type_arguments").elim [] ofParts)
    | "literal_type" => .literal n
    | "tuple_type" =>
      if n.parts.any fun c => c.kind = "optional_type" || c.kind = "rest_type" then
        .unsupported "optional or rest tuple element"
      else .tuple (ofParts n)
    | "object_type" => ofBody n
    | "lookup_type" => .unsupported "indexed access type"
    | "function_type" | "constructor_type" => .unsupported "function type"
    | "conditional_type" => .unsupported "conditional type"
    | "template_literal_type" => .unsupported "template literal type"
    | other => .unsupported s!"`{other}`" := by
  rw [TypeExpr.ofNode, ← n.innerField?_map_val "type_arguments"]
  cases n.innerField? "type_arguments" with
  | none => rfl
  | some c => rfl

theorem Member.ofNode_eq (n : Node) : Member.ofNode n =
    match n.kind with
    | "comment" => .comment (Doc.parse? n.text)
    | "property_signature" =>
      match (n.field? "name").bind propertyName? with
      | none => .unsupported "computed property name"
      | some name =>
        .property ⟨name, (n.field? "type").elim .any ofFirstPart, !isOptional n, none⟩
    | "index_signature" => indexOf n
    | "method_signature" | "call_signature" | "construct_signature" =>
      .unsupported "method signature"
    | _ => .other := by
  rw [Member.ofNode, ← n.innerField?_map_val "type"]
  cases n.innerField? "type" with
  | none => rfl
  | some c => rfl

/-- An index signature is read if its keys are texts or numbers. -/
theorem indexOf_eq (n : Node) : indexOf n =
    if n.parts.any (·.kind = "mapped_type_clause") then .unsupported "mapped type"
    else match (n.field? "index_type").or n.parts[1]? with
      | none => .unsupported "index signature without key type"
      | some key =>
        match TypeExpr.ofNode key with
        | .string | .number => .index ((n.field? "type").elim .any ofFirstPart)
        | _ => .unsupported "index signature with non-primitive key" := by
  rw [indexOf, ← n.innerField?_map_val "type", ← n.innerField?_map_val "index_type",
    ← n.innerParts_map_val, List.getElem?_map, ← Option.map_or]
  cases (n.innerField? "index_type").or n.innerParts[1]? with
  | none => rfl
  | some key => cases n.innerField? "type" <;> rfl

end SchemaGen.Schema
