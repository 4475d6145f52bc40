import SchemaGen.TypeScript.Grammar.Statement

namespace SchemaGen.TypeScript.Grammar

open SchemaGen.Grammar Rule

def memberName : Rule := .choice [
  .ref "private_property_identifier",
  shown "property_identifier" (.ref "identifier")]

/-- A string literal in the given quotes, with the fragments that can stand between them. -/
def quoted (quote fragment : String) : Rule :=
  between quote quote (many (.choice [
    shown "string_fragment" (.ref fragment), .ref "escape_sequence"]))

def binaryOperators : List (String × String) := [
  ("&&", "logical_and"), ("||", "logical_or"), (">>", "binary_shift"), (">>>", "binary_shift"),
  ("<<", "binary_shift"), ("&", "bitwise_and"), ("^", "bitwise_xor"), ("|", "bitwise_or"),
  ("+", "binary_plus"), ("-", "binary_plus"), ("*", "binary_times"), ("/", "binary_times"),
  ("%", "binary_times"), ("**", "binary_exp"), ("<", "binary_relation"),
  ("<=", "binary_relation"), ("==", "binary_equality"), ("===", "binary_equality"),
  ("!=", "binary_equality"), ("!==", "binary_equality"), (">=", "binary_relation"),
  (">", "binary_relation"), ("??", "ternary"), ("instanceof", "binary_relation"),
  ("in", "binary_relation")]

/-- Only the power operator groups to the right; only `in` takes a private name on its left. -/
def binaryExpression (operator level : String) : Rule :=
  let left := if operator = "in" then
    .choice [.ref "expression", .ref "private_property_identifier"] else .ref "expression"
  .binding (.named level) (some (if operator = "**" then .right else .left)) (.seq [
    .field "left" left,
    .field "operator" (.literal operator),
    .field "right" (.ref "expression")])

def expressionRules : List (String × Rule) := [
  ("parenthesized_expression", between "(" ")" (.choice [
    .seq [.ref "expression", .field "type" (opt (.ref "type_annotation"))],
    .ref "sequence_expression"])),
  ("_expressions", .choice [.ref "expression", .ref "sequence_expression"]),
  ("expression", .choice [
    .ref "as_expression", .ref "satisfies_expression", .ref "instantiation_expression",
    .ref "internal_module", .ref "type_assertion", .ref "primary_expression",
    .ref "assignment_expression", .ref "augmented_assignment_expression",
    .ref "await_expression", .ref "unary_expression", .ref "binary_expression",
    .ref "ternary_expression", .ref "update_expression", .ref "new_expression",
    .ref "yield_expression"]),
  ("primary_expression", .choice [
    .ref "subscript_expression", .ref "member_expression", .ref "parenthesized_expression",
    .ref "_identifier", shown "identifier" (.ref "_reserved_identifier"), .ref "this",
    .ref "super", .ref "number", .ref "string", .ref "template_string", .ref "regex",
    .ref "true", .ref "false", .ref "null", .ref "object", .ref "array",
    .ref "function_expression", .ref "arrow_function", .ref "generator_function", .ref "class",
    .ref "meta_property", .ref "call_expression", .ref "non_null_expression"]),
  ("yield_expression", rightAssoc (.level 0) (after "yield" (.choice [
    .seq [.literal "*", .ref "expression"], opt (.ref "expression")]))),
  ("object", prec (.named "object") (braced (commaSep (opt (.choice [
    .ref "pair", .ref "spread_element", .ref "method_definition",
    nameShown "shorthand_property_identifier"]))))),
  ("object_pattern", prec (.named "object") (braced (commaSep (opt (.choice [
    .ref "pair_pattern", .ref "rest_pattern", .ref "object_assignment_pattern",
    nameShown "shorthand_property_identifier_pattern"]))))),
  ("assignment_pattern", .seq [
    .field "left" (.ref "pattern"), .literal "=", .field "right" (.ref "expression")]),
  ("object_assignment_pattern", .seq [
    .field "left" (.choice [
      shown "shorthand_property_identifier_pattern"
        (.choice [.ref "_reserved_identifier", .ref "identifier"]),
      .ref "_destructuring_pattern"]),
    .literal "=",
    .field "right" (.ref "expression")]),
  ("array", between "[" "]" (commaSep (opt (.choice [
    .ref "expression", .ref "spread_element"])))),
  ("array_pattern", between "[" "]" (commaSep (opt (.choice [
    .ref "pattern", .ref "assignment_pattern"])))),
  ("nested_identifier", prec (.named "member") (.seq [
    .field "object" (.choice [
      .ref "identifier", shown "member_expression" (.ref "nested_identifier")]),
    .literal ".",
    .field "property" (shown "property_identifier" (.ref "identifier"))]))]

def functionRules : List (String × Rule) := [
  ("class", prec (.named "literal") (.seq [
    decorators,
    .literal "class",
    .field "name" (opt (.ref "_type_identifier")),
    optionalTypeParameters,
    opt (.ref "class_heritage"),
    .field "body" (.ref "class_body")])),
  ("class_declaration", leftAssoc (.named "declare") (.seq [
    decorators,
    .literal "class",
    .field "name" (.ref "_type_identifier"),
    optionalTypeParameters,
    opt (.ref "class_heritage"),
    .field "body" (.ref "class_body"),
    opt (.ref "_automatic_semicolon")])),
  ("class_heritage", .choice [
    .seq [.ref "extends_clause", opt (.ref "implements_clause")],
    .ref "implements_clause"]),
  ("function_expression", prec (.named "literal") (.seq [
    opt (.literal "async"),
    .literal "function",
    .field "name" (opt (.ref "identifier")),
    .ref "_call_signature",
    .field "body" (.ref "statement_block")])),
  ("function_declaration", rightAssoc (.named "declare") (.seq [
    opt (.literal "async"),
    .literal "function",
    .field "name" (.ref "identifier"),
    .ref "_call_signature",
    .field "body" (.ref "statement_block"),
    opt (.ref "_automatic_semicolon")])),
  ("generator_function", prec (.named "literal") (.seq [
    opt (.literal "async"),
    .literal "function",
    .literal "*",
    .field "name" (opt (.ref "identifier")),
    .ref "_call_signature",
    .field "body" (.ref "statement_block")])),
  ("generator_function_declaration", rightAssoc (.named "declare") (.seq [
    opt (.literal "async"),
    .literal "function",
    .literal "*",
    .field "name" (.ref "identifier"),
    .ref "_call_signature",
    .field "body" (.ref "statement_block"),
    opt (.ref "_automatic_semicolon")])),
  ("arrow_function", .seq [
    opt (.literal "async"),
    .choice [
      .field "parameter" (.choice [
        shown "identifier" (.ref "_reserved_identifier"), .ref "identifier"]),
      .ref "_call_signature"],
    .literal "=>",
    .field "body" (.choice [.ref "expression", .ref "statement_block"])]),
  ("_call_signature", .seq [
    optionalTypeParameters,
    .field "parameters" (.ref "formal_parameters"),
    .field "return_type" (opt (.choice [
      .ref "type_annotation", .ref "asserts_annotation", .ref "type_predicate_annotation"]))]),
  ("_formal_parameter", .choice [.ref "required_parameter", .ref "optional_parameter"]),
  ("optional_chain", .literal "?."),
  ("call_expression", .choice [
    prec (.named "call") (.seq [
      .field "function" (.choice [.ref "expression", .ref "import"]),
      optionalTypeArguments,
      .field "arguments" (.ref "arguments")]),
    prec (.named "template_call") (.seq [
      .field "function" (.choice [.ref "primary_expression", .ref "new_expression"]),
      .field "arguments" (.ref "template_string")]),
    prec (.named "member") (.seq [
      .field "function" (.ref "primary_expression"),
      .literal "?.",
      optionalTypeArguments,
      .field "arguments" (.ref "arguments")])]),
  ("new_expression", rightAssoc (.named "new") (.seq [
    .literal "new",
    .field "constructor" (.ref "primary_expression"),
    optionalTypeArguments,
    .field "arguments" (opt (.ref "arguments"))])),
  ("await_expression", prec (.named "unary_void") (after "await" (.ref "expression"))),
  ("member_expression", prec (.named "member") (.seq [
    .field "object" (.choice [.ref "expression", .ref "primary_expression", .ref "import"]),
    .choice [.literal ".", .field "optional_chain" (.ref "optional_chain")],
    .field "property" memberName])),
  ("subscript_expression", rightAssoc (.named "member") (.seq [
    .field "object" (.choice [.ref "expression", .ref "primary_expression"]),
    opt (.field "optional_chain" (.ref "optional_chain")),
    .literal "[",
    .field "index" (.ref "_expressions"),
    .literal "]"])),
  ("_lhs_expression", .choice [
    .ref "member_expression", .ref "subscript_expression", .ref "_identifier",
    shown "identifier" (.ref "_reserved_identifier"), .ref "_destructuring_pattern",
    .ref "non_null_expression"]),
  ("assignment_expression", rightAssoc (.named "assign") (.seq [
    opt (.literal "using"),
    .field "left" (.choice [.ref "parenthesized_expression", .ref "_lhs_expression"]),
    .literal "=",
    .field "right" (.ref "expression")])),
  ("_augmented_assignment_lhs", .choice [
    .ref "member_expression", .ref "subscript_expression",
    shown "identifier" (.ref "_reserved_identifier"), .ref "identifier",
    .ref "parenthesized_expression", .ref "non_null_expression"]),
  ("augmented_assignment_expression", rightAssoc (.named "assign") (.seq [
    .field "left" (.ref "_augmented_assignment_lhs"),
    .field "operator" (oneOf ["+=", "-=", "*=", "/=", "%=", "^=", "&=", "|=", ">>=", ">>>=",
      "<<=", "**=", "&&=", "||=", "??="]),
    .field "right" (.ref "expression")])),
  ("_initializer", after "=" (.field "value" (.ref "expression"))),
  ("_destructuring_pattern", .choice [.ref "object_pattern", .ref "array_pattern"]),
  ("spread_element", after "..." (.ref "expression")),
  ("ternary_expression", rightAssoc (.named "ternary") (.seq [
    .field "condition" (.ref "expression"),
    .shownAs ⟨"?", false⟩ (.ref "_ternary_qmark"),
    .field "consequence" (.ref "expression"),
    .literal ":",
    .field "alternative" (.ref "expression")])),
  ("binary_expression", .choice (binaryOperators.map fun (o, p) => binaryExpression o p)),
  ("unary_expression", leftAssoc (.named "unary_void") (.seq [
    .field "operator" (oneOf ["!", "~", "-", "+", "typeof", "void", "delete"]),
    .field "argument" (.ref "expression")])),
  ("update_expression", leftAssoc (.level 0) (.choice [
    .seq [.field "argument" (.ref "expression"), .field "operator" (oneOf ["++", "--"])],
    .seq [.field "operator" (oneOf ["++", "--"]), .field "argument" (.ref "expression")]])),
  ("sequence_expression", rightAssoc (.level 0) (commaSep1 (.ref "expression")))]

def literalRules : List (String × Rule) := [
  ("string", .choice [
    quoted "\"" "unescaped_double_string_fragment",
    quoted "'" "unescaped_single_string_fragment"]),
  ("unescaped_double_string_fragment", .token),
  ("unescaped_single_string_fragment", .token),
  ("escape_sequence", .token),
  ("comment", .token),
  ("template_string", between "`" "`" (many (.choice [
    shown "string_fragment" (.ref "_template_chars"), .ref "escape_sequence",
    .ref "template_substitution"]))),
  ("template_substitution", between "$\x7b" "\x7d" (.ref "_expressions")),
  ("regex", .seq [
    .literal "/",
    .field "pattern" (.ref "regex_pattern"),
    .shownAs ⟨"/", false⟩ (.ref "regex_end"),
    opt (.field "flags" (.ref "regex_flags"))]),
  ("regex_end", .token),
  ("regex_pattern", .token),
  ("regex_flags", .token),
  ("number", .token),
  ("identifier", .token),
  ("private_property_identifier", .token),
  ("meta_property", .choice [
    .seq [.literal "new", .literal ".", .literal "target"],
    .seq [.literal "import", .literal ".", .literal "meta"]]),
  ("this", .token),
  ("super", .token),
  ("true", .token),
  ("false", .token),
  ("null", .token),
  ("undefined", .token),
  ("_identifier", .choice [.ref "undefined", .ref "identifier"]),
  ("arguments", between "(" ")" (commaSep (opt (.choice [
    .ref "expression", .ref "spread_element"]))))]

def memberRules : List (String × Rule) := [
  ("decorator", after "@" (.choice [
    .ref "identifier",
    shown "member_expression" (.ref "decorator_member_expression"),
    shown "call_expression" (.ref "decorator_call_expression"),
    shown "parenthesized_expression" (.ref "decorator_parenthesized_expression")])),
  ("decorator_member_expression", prec (.named "member") (.seq [
    .field "object" (.choice [
      .ref "identifier", shown "member_expression" (.ref "decorator_member_expression")]),
    .literal ".",
    .field "property" (shown "property_identifier" (.ref "identifier"))])),
  ("decorator_call_expression", prec (.named "call") (.seq [
    .field "function" (.choice [
      .ref "identifier", shown "member_expression" (.ref "decorator_member_expression")]),
    opt (.field "type_arguments" (.ref "type_arguments")),
    .field "arguments" (.ref "arguments")])),
  ("class_body", braced (many (.choice [
    .seq [decorators, .ref "method_definition", opt semicolon],
    .seq [.ref "method_signature",
      .choice [.ref "_function_signature_automatic_semicolon", .literal ","]],
    .ref "class_static_block",
    .seq [
      .choice [
        .ref "abstract_method_signature", .ref "index_signature", .ref "method_signature",
        .ref "public_field_definition"],
      .choice [semicolon, .literal ","]],
    .literal ";"]))),
  ("formal_parameters", between "(" ")" (opt (.seq [
    commaSep1 (.ref "_formal_parameter"), opt (.literal ",")]))),
  ("class_static_block", .seq [
    .literal "static",
    opt (.ref "_automatic_semicolon"),
    .field "body" (.ref "statement_block")]),
  ("pattern", .dynamic (-1) (.choice [.ref "_lhs_expression", .ref "rest_pattern"])),
  ("rest_pattern", rightAssoc (.level 0) (after "..." (.ref "_lhs_expression"))),
  ("method_definition", leftAssoc (.level 0) (.seq [
    opt (.ref "accessibility_modifier"),
    opt (.literal "static"),
    opt (.ref "override_modifier"),
    opt (.literal "readonly"),
    opt (.literal "async"),
    opt (oneOf ["get", "set", "*"]),
    .field "name" (.ref "_property_name"),
    opt (.literal "?"),
    .ref "_call_signature",
    .field "body" (.ref "statement_block")])),
  ("pair", .seq [
    .field "key" (.ref "_property_name"), .literal ":", .field "value" (.ref "expression")]),
  ("pair_pattern", .seq [
    .field "key" (.ref "_property_name"),
    .literal ":",
    .field "value" (.choice [.ref "pattern", .ref "assignment_pattern"])]),
  ("_property_name", .choice [
    nameShown "property_identifier", .ref "private_property_identifier", .ref "string",
    .ref "number", .ref "computed_property_name"]),
  ("computed_property_name", between "[" "]" (.ref "expression")),
  ("_reserved_identifier", oneOf ["declare", "namespace", "type", "public", "private",
    "protected", "override", "readonly", "module", "any", "number", "boolean", "string", "symbol",
    "export", "object", "new", "get", "set", "async", "static", "let"]),
  ("_semicolon", .choice [.ref "_automatic_semicolon", .literal ";"])]

end SchemaGen.TypeScript.Grammar
