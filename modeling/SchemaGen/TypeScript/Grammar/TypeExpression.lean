import SchemaGen.TypeScript.Grammar.Expression

namespace SchemaGen.TypeScript.Grammar

open SchemaGen.Grammar Rule

def memberModifiers : List Rule := [
  opt (.ref "accessibility_modifier"),
  opt (.literal "static"),
  opt (.ref "override_modifier"),
  opt (.literal "readonly")]

/-- The parts of a member, subscript, call or instantiation that `typeof` can name, each shown as
the expression that it looks like. -/
def querySubscript : Rule := shown "subscript_expression" (.ref "_type_query_subscript_expression")
def queryMember : Rule := shown "member_expression" (.ref "_type_query_member_expression")
def queryCall : Rule := shown "call_expression" (.ref "_type_query_call_expression")
def queryInstantiation : Rule :=
  shown "instantiation_expression" (.ref "_type_query_instantiation_expression")
def annotatedMember : Rule :=
  shown "member_expression" (.ref "_type_query_member_expression_in_type_annotation")
def annotatedCall : Rule :=
  shown "call_expression" (.ref "_type_query_call_expression_in_type_annotation")

def queriedObject : Rule :=
  .choice [.ref "identifier", .ref "this", querySubscript, queryMember, queryCall]

def queriedFunction : Rule :=
  .choice [.ref "import", .ref "identifier", queryMember, querySubscript]

/-- A binary type operator; the operand before the first one may be left out. -/
def typeOperator (operator : String) : Rule :=
  leftAssoc (.level 0) (.seq [opt (.ref "type"), .literal operator, .ref "type"])

def declarationRules : List (String × Rule) := [
  ("public_field_definition", .seq [
    decorators,
    opt (.choice [
      .seq [.literal "declare", opt (.ref "accessibility_modifier")],
      .seq [.ref "accessibility_modifier", opt (.literal "declare")]]),
    .choice [
      .seq [opt (.literal "static"), opt (.ref "override_modifier"),
        opt (.literal "readonly")],
      .seq [opt (.literal "abstract"), opt (.literal "readonly")],
      .seq [opt (.literal "readonly"), opt (.literal "abstract")],
      opt (.literal "accessor")],
    .field "name" (.ref "_property_name"),
    opt (oneOf ["?", "!"]),
    .field "type" (opt (.ref "type_annotation")),
    opt (.ref "_initializer")]),
  ("non_null_expression", leftAssoc (.named "unary") (.seq [.ref "expression", .literal "!"])),
  ("method_signature", .seq (memberModifiers ++ [
    opt (.literal "async"),
    opt (oneOf ["get", "set", "*"]),
    .field "name" (.ref "_property_name"),
    opt (.literal "?"),
    .ref "_call_signature"])),
  ("abstract_method_signature", .seq [
    opt (.ref "accessibility_modifier"),
    .literal "abstract",
    opt (.ref "override_modifier"),
    opt (oneOf ["get", "set", "*"]),
    .field "name" (.ref "_property_name"),
    opt (.literal "?"),
    .ref "_call_signature"]),
  ("function_signature", .seq [
    opt (.literal "async"),
    .literal "function",
    .field "name" (.ref "identifier"),
    .ref "_call_signature",
    .choice [semicolon, .ref "_function_signature_automatic_semicolon"]]),
  ("decorator_parenthesized_expression", between "(" ")" (.choice [
    .ref "identifier",
    shown "member_expression" (.ref "decorator_member_expression"),
    shown "call_expression" (.ref "decorator_call_expression")])),
  ("type_assertion", leftAssoc (.named "unary") (.seq [
    .ref "type_arguments", .ref "expression"])),
  ("as_expression", leftAssoc (.named "binary") (.seq [
    .ref "expression", .literal "as", .choice [.literal "const", .ref "type"]])),
  ("satisfies_expression", leftAssoc (.named "binary") (.seq [
    .ref "expression", .literal "satisfies", .ref "type"])),
  ("instantiation_expression", prec (.named "instantiation") (.seq [
    .ref "expression", .field "type_arguments" (.ref "type_arguments")])),
  ("import_require_clause", .seq [
    .ref "identifier", .literal "=", .literal "require",
    between "(" ")" (.field "source" (.ref "string"))]),
  ("extends_clause", after "extends" (commaSep1 (.ref "_extends_clause_single"))),
  ("_extends_clause_single", prec (.named "extends") (.seq [
    .field "value" (.ref "expression"), optionalTypeArguments])),
  ("implements_clause", after "implements" (commaSep1 (.ref "type"))),
  ("ambient_declaration", after "declare" (.choice [
    .ref "declaration",
    .seq [.literal "global", .ref "statement_block"],
    .seq [.literal "module", .literal ".",
      shown "property_identifier" (.ref "identifier"),
      .literal ":", .ref "type", semicolon]])),
  ("abstract_class_declaration", prec (.named "declare") (.seq [
    decorators,
    .literal "abstract",
    .literal "class",
    .field "name" (.ref "_type_identifier"),
    optionalTypeParameters,
    opt (.ref "class_heritage"),
    .field "body" (.ref "class_body")])),
  ("module", after "module" (.ref "_module")),
  ("internal_module", after "namespace" (.ref "_module")),
  ("_module", rightAssoc (.level 0) (.seq [
    .field "name" (.choice [.ref "string", .ref "identifier", .ref "nested_identifier"]),
    .field "body" (opt (.ref "statement_block"))])),
  ("import_alias", .seq [
    .literal "import", .ref "identifier", .literal "=",
    .choice [.ref "identifier", .ref "nested_identifier"], semicolon]),
  ("nested_type_identifier", prec (.named "member") (.seq [
    .field "module" (.choice [.ref "identifier", .ref "nested_identifier"]),
    .literal ".",
    .field "name" (.ref "_type_identifier")])),
  ("interface_declaration", .seq [
    .literal "interface",
    .field "name" (.ref "_type_identifier"),
    optionalTypeParameters,
    opt (.ref "extends_type_clause"),
    .field "body" (shown "interface_body" (.ref "object_type"))]),
  ("extends_type_clause", after "extends" (commaSep1 (.field "type" (.choice [
    .ref "_type_identifier", .ref "nested_type_identifier", .ref "generic_type"])))),
  ("enum_declaration", .seq [
    opt (.literal "const"),
    .literal "enum",
    .field "name" (.ref "identifier"),
    .field "body" (.ref "enum_body")]),
  ("enum_body", braced (opt (.seq [
    commaSep1 (.choice [.field "name" (.ref "_property_name"), .ref "enum_assignment"]),
    opt (.literal ",")]))),
  ("enum_assignment", .seq [.field "name" (.ref "_property_name"), .ref "_initializer"]),
  ("type_alias_declaration", .seq [
    .literal "type",
    .field "name" (.ref "_type_identifier"),
    optionalTypeParameters,
    .literal "=",
    .field "value" (.ref "type"),
    semicolon]),
  ("accessibility_modifier", oneOf ["public", "private", "protected"]),
  ("override_modifier", .literal "override"),
  ("required_parameter", .seq [
    .ref "_parameter_name",
    .field "type" (opt (.ref "type_annotation")),
    opt (.ref "_initializer")]),
  ("optional_parameter", .seq [
    .ref "_parameter_name",
    .literal "?",
    .field "type" (opt (.ref "type_annotation")),
    opt (.ref "_initializer")]),
  ("_parameter_name", .seq [
    decorators,
    opt (.ref "accessibility_modifier"),
    opt (.ref "override_modifier"),
    opt (.literal "readonly"),
    .field "pattern" (.choice [.ref "pattern", .ref "this"])])]

def annotationRules : List (String × Rule) := [
  ("omitting_type_annotation", after "-?:" (.ref "type")),
  ("adding_type_annotation", after "+?:" (.ref "type")),
  ("opting_type_annotation", after "?:" (.ref "type")),
  ("type_annotation", after ":" (.choice [.ref "type", annotatedMember, annotatedCall])),
  ("_type_query_member_expression_in_type_annotation", .seq [
    .field "object" (.choice [.ref "import", annotatedMember, annotatedCall]),
    .literal ".",
    .field "property" memberName]),
  ("_type_query_call_expression_in_type_annotation", .seq [
    .field "function" (.choice [.ref "import", annotatedMember]),
    .field "arguments" (.ref "arguments")]),
  ("asserts", after "asserts" (.choice [.ref "type_predicate", .ref "identifier", .ref "this"])),
  ("asserts_annotation", after ":" (.ref "asserts"))]

def typeRules : List (String × Rule) := [
  ("type", .choice [
    .ref "primary_type", .ref "function_type", .ref "readonly_type", .ref "constructor_type",
    .ref "infer_type", prec (.level (-1)) annotatedMember, prec (.level (-1)) annotatedCall]),
  ("tuple_parameter", .seq [
    .field "name" (.choice [.ref "identifier", .ref "rest_pattern"]),
    .field "type" (.ref "type_annotation")]),
  ("optional_tuple_parameter", .seq [
    .field "name" (.ref "identifier"),
    .literal "?",
    .field "type" (.ref "type_annotation")]),
  ("optional_type", .seq [.ref "type", .literal "?"]),
  ("rest_type", after "..." (.ref "type")),
  ("_tuple_type_member", .choice [
    shown "required_parameter" (.ref "tuple_parameter"),
    shown "optional_parameter" (.ref "optional_tuple_parameter"),
    .ref "optional_type", .ref "rest_type", .ref "type"]),
  ("constructor_type", leftAssoc (.level 0) (.seq [
    opt (.literal "abstract"),
    .literal "new",
    optionalTypeParameters,
    .field "parameters" (.ref "formal_parameters"),
    .literal "=>",
    .field "type" (.ref "type")])),
  ("primary_type", .choice [
    .ref "parenthesized_type", .ref "predefined_type", .ref "_type_identifier",
    .ref "nested_type_identifier", .ref "generic_type", .ref "object_type", .ref "array_type",
    .ref "tuple_type", .ref "flow_maybe_type", .ref "type_query", .ref "index_type_query",
    shown "this_type" (.ref "this"), .ref "existential_type", .ref "literal_type",
    .ref "lookup_type", .ref "conditional_type", .ref "template_literal_type",
    .ref "intersection_type", .ref "union_type", .literal "const"]),
  ("template_type", between "$\x7b" "\x7d" (.choice [.ref "primary_type", .ref "infer_type"])),
  ("template_literal_type", between "`" "`" (many (.choice [
    shown "string_fragment" (.ref "_template_chars"), .ref "template_type"]))),
  ("infer_type", rightAssoc (.level 0) (.seq [
    .literal "infer", .ref "_type_identifier", opt (after "extends" (.ref "type"))])),
  ("conditional_type", rightAssoc (.level 0) (.seq [
    .field "left" (.ref "type"),
    .literal "extends",
    .field "right" (.ref "type"),
    .literal "?",
    .field "consequence" (.ref "type"),
    .literal ":",
    .field "alternative" (.ref "type")])),
  ("generic_type", prec (.named "call") (.seq [
    .field "name" (.choice [.ref "_type_identifier", .ref "nested_type_identifier"]),
    .field "type_arguments" (.ref "type_arguments")])),
  ("type_predicate", .seq [
    .field "name" (.choice [
      .ref "identifier", .ref "this", shown "identifier" (.ref "predefined_type")]),
    .literal "is",
    .field "type" (.ref "type")]),
  ("type_predicate_annotation", after ":" (.ref "type_predicate")),
  ("_type_query_member_expression", .seq [
    .field "object" queriedObject,
    oneOf [".", "?."],
    .field "property" memberName]),
  ("_type_query_subscript_expression", .seq [
    .field "object" queriedObject,
    opt (.literal "?."),
    .literal "[",
    .field "index" (.choice [.ref "predefined_type", .ref "string", .ref "number"]),
    .literal "]"]),
  ("_type_query_call_expression", .seq [
    .field "function" queriedFunction,
    .field "arguments" (.ref "arguments")]),
  ("_type_query_instantiation_expression", .seq [
    .field "function" queriedFunction,
    .field "type_arguments" (.ref "type_arguments")]),
  ("type_query", rightAssoc (.level 0) (after "typeof" (.choice [
    querySubscript, queryMember, queryCall, queryInstantiation, .ref "identifier",
    .ref "this"]))),
  ("index_type_query", after "keyof" (.ref "primary_type")),
  ("lookup_type", .seq [.ref "primary_type", .literal "[", .ref "type", .literal "]"]),
  ("mapped_type_clause", .seq [
    .field "name" (.ref "_type_identifier"),
    .literal "in",
    .field "type" (.ref "type"),
    opt (after "as" (.field "alias" (.ref "type")))]),
  ("literal_type", .choice [
    shown "unary_expression" (.ref "_number"), .ref "number", .ref "string", .ref "true",
    .ref "false", .ref "null", .ref "undefined"]),
  ("_number", leftAssoc (.level 1) (.seq [
    .field "operator" (oneOf ["-", "+"]), .field "argument" (.ref "number")])),
  ("existential_type", .literal "*"),
  ("flow_maybe_type", rightAssoc (.level 0) (after "?" (.ref "primary_type"))),
  ("parenthesized_type", between "(" ")" (.ref "type")),
  ("predefined_type", .choice [
    oneOf ["any", "number", "boolean", "string", "symbol"],
    .shownAs ⟨"unique symbol", false⟩ (.seq [.literal "unique", .literal "symbol"]),
    oneOf ["void", "unknown", "never", "object"]]),
  ("type_arguments", between "<" ">" (.seq [
    commaSep1 (.ref "type"), opt (.literal ",")])),
  ("object_type", .seq [
    .choice [openBrace, .literal "\x7b|"],
    opt (.seq [
      opt (oneOf [",", ";"]),
      sepBy1 (.choice [.literal ",", semicolon]) (.choice [
        .ref "export_statement", .ref "property_signature", .ref "call_signature",
        .ref "construct_signature", .ref "index_signature", .ref "method_signature"]),
      opt (.choice [.literal ",", semicolon])]),
    .choice [closeBrace, .literal "|\x7d"]]),
  ("call_signature", .ref "_call_signature"),
  ("property_signature", .seq (memberModifiers ++ [
    .field "name" (.ref "_property_name"),
    opt (.literal "?"),
    .field "type" (opt (.ref "type_annotation"))])),
  ("type_parameters", between "<" ">" (.seq [
    commaSep1 (.ref "type_parameter"), opt (.literal ",")])),
  ("type_parameter", .seq [
    opt (.literal "const"),
    .field "name" (.ref "_type_identifier"),
    .field "constraint" (opt (.ref "constraint")),
    .field "value" (opt (.ref "default_type"))]),
  ("default_type", after "=" (.ref "type")),
  ("constraint", .seq [oneOf ["extends", ":"], .ref "type"]),
  ("construct_signature", .seq [
    opt (.literal "abstract"),
    .literal "new",
    optionalTypeParameters,
    .field "parameters" (.ref "formal_parameters"),
    .field "type" (opt (.ref "type_annotation"))]),
  ("index_signature", .seq [
    opt (.seq [.field "sign" (opt (oneOf ["-", "+"])), .literal "readonly"]),
    .literal "[",
    .choice [
      .seq [
        .field "name" (.choice [
          .ref "identifier", shown "identifier" (.ref "_reserved_identifier")]),
        .literal ":",
        .field "index_type" (.ref "type")],
      .ref "mapped_type_clause"],
    .literal "]",
    .field "type" (.choice [
      .ref "type_annotation", .ref "omitting_type_annotation", .ref "adding_type_annotation",
      .ref "opting_type_annotation"])]),
  ("array_type", .seq [.ref "primary_type", .literal "[", .literal "]"]),
  ("tuple_type", between "[" "]" (.seq [
    commaSep (.ref "_tuple_type_member"), opt (.literal ",")])),
  ("readonly_type", after "readonly" (.ref "type")),
  ("union_type", typeOperator "|"),
  ("intersection_type", typeOperator "&"),
  ("function_type", leftAssoc (.level 0) (.seq [
    optionalTypeParameters,
    .field "parameters" (.ref "formal_parameters"),
    .literal "=>",
    .field "return_type" (.choice [.ref "type", .ref "asserts", .ref "type_predicate"])])),
  ("_type_identifier", shown "type_identifier" (.ref "identifier"))]

end SchemaGen.TypeScript.Grammar
