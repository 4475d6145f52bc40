import SchemaGen.Grammar.Production
import SchemaGen.TypeScript.Grammar.TypeExpression

namespace SchemaGen.TypeScript.Grammar

open SchemaGen.Grammar

/-- Operators and rules from the tightest to the loosest. -/
def orderings : List (List Rank) := [
  [.name "member", .name "template_call", .name "call", .rule "update_expression",
    .name "unary_void", .name "binary_exp", .name "binary_times", .name "binary_plus",
    .name "binary_shift", .name "binary_compare", .name "binary_relation",
    .name "binary_equality", .name "bitwise_and", .name "bitwise_xor", .name "bitwise_or",
    .name "logical_and", .name "logical_or", .name "ternary", .rule "sequence_expression",
    .rule "arrow_function"],
  [.name "assign", .rule "primary_expression"],
  [.name "member", .name "template_call", .name "new", .name "call", .rule "expression"],
  [.name "declare", .name "literal"],
  [.rule "primary_expression", .rule "statement_block", .name "object"],
  [.rule "meta_property", .rule "import"],
  [.rule "import_statement", .rule "import"],
  [.rule "export_statement", .rule "primary_expression"],
  [.rule "lexical_declaration", .rule "primary_expression"],
  [.name "call", .name "instantiation", .name "unary", .name "binary", .rule "await_expression",
    .rule "arrow_function"],
  [.name "extends", .name "instantiation"],
  [.rule "intersection_type", .rule "union_type", .rule "conditional_type",
    .rule "function_type", .name "binary", .rule "type_predicate", .rule "readonly_type"],
  [.rule "mapped_type_clause", .rule "primary_expression"],
  [.rule "accessibility_modifier", .rule "primary_expression"],
  [.name "unary_void", .rule "expression"],
  [.rule "extends_clause", .rule "primary_expression"],
  [.name "unary", .name "assign"],
  [.name "declare", .rule "expression"],
  [.rule "predefined_type", .rule "unary_expression"],
  [.rule "type", .rule "flow_maybe_type"],
  [.rule "tuple_type", .rule "array_type", .rule "pattern", .rule "type"],
  [.rule "readonly_type", .rule "pattern"],
  [.rule "readonly_type", .rule "primary_expression"],
  [.rule "type_query", .rule "subscript_expression", .rule "expression"],
  [.rule "type_query", .rule "_type_query_subscript_expression"],
  [.rule "nested_type_identifier", .rule "generic_type", .rule "primary_type",
    .rule "lookup_type", .rule "index_type_query", .rule "type"],
  [.rule "as_expression", .rule "satisfies_expression", .rule "primary_type"],
  [.rule "_type_query_member_expression", .rule "member_expression"],
  [.rule "member_expression", .rule "_type_query_member_expression_in_type_annotation"],
  [.rule "_type_query_member_expression", .rule "primary_expression"],
  [.rule "_type_query_subscript_expression", .rule "subscript_expression"],
  [.rule "_type_query_subscript_expression", .rule "primary_expression"],
  [.rule "_type_query_call_expression", .rule "primary_expression"],
  [.rule "_type_query_instantiation_expression", .rule "primary_expression"],
  [.rule "type_query", .rule "primary_expression"],
  [.rule "override_modifier", .rule "primary_expression"],
  [.rule "decorator_call_expression", .rule "decorator"],
  [.rule "literal_type", .rule "pattern"],
  [.rule "predefined_type", .rule "pattern"],
  [.rule "call_expression", .rule "_type_query_call_expression"],
  [.rule "call_expression", .rule "_type_query_call_expression_in_type_annotation"],
  [.rule "new_expression", .rule "primary_expression"],
  [.rule "meta_property", .rule "primary_expression"],
  [.rule "construct_signature", .rule "_property_name"]]

def definition : Definition where
  rules := programRules ++ expressionRules ++ functionRules ++ literalRules ++ memberRules ++
    declarationRules ++ annotationRules ++ typeRules
  word := "identifier"
  contextual := ["_automatic_semicolon", "_template_chars", "_ternary_qmark", "html_comment",
    "_function_signature_automatic_semicolon"]
  extras := ["comment", "html_comment"]
  inlined := ["_expressions", "_semicolon", "_identifier", "_reserved_identifier",
    "_lhs_expression", "_type_identifier"]
  supertypes := ["statement", "declaration", "expression", "primary_expression", "pattern",
    "type", "primary_type"]
  orderings := orderings

end SchemaGen.TypeScript.Grammar
