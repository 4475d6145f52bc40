import SchemaGen.Grammar.Rule

namespace SchemaGen.TypeScript.Grammar

open SchemaGen.Grammar Rule

def openBrace : Rule := .literal "\x7b"

def closeBrace : Rule := .literal "\x7d"

def between (a b : String) (r : Rule) : Rule := .seq [.literal a, r, .literal b]

def braced (r : Rule) : Rule := .seq [openBrace, r, closeBrace]

def semicolon : Rule := .ref "_semicolon"

def after (word : String) (r : Rule) : Rule := .seq [.literal word, r]

def decorators : Rule := many (.field "decorator" (.ref "decorator"))

def optionalTypeParameters : Rule := .field "type_parameters" (opt (.ref "type_parameters"))

def optionalTypeArguments : Rule := .field "type_arguments" (opt (.ref "type_arguments"))

/-- What a variable declaration or a loop binds. -/
def bindingTarget : Rule := .choice [.ref "identifier", .ref "_destructuring_pattern"]

/-- A word that may serve as a name, shown as the given kind. -/
def nameShown (kind : String) : Rule :=
  shown kind (.choice [.ref "identifier", .ref "_reserved_identifier"])

def exportRules : List (String × Rule) := [
  ("export_statement", .choice [
    .seq [.literal "export",
      .choice [
        .seq [.literal "*", .ref "_from_clause"],
        .seq [.ref "namespace_export", .ref "_from_clause"],
        .seq [.ref "export_clause", .ref "_from_clause"],
        .ref "export_clause"],
      semicolon],
    .seq [decorators, .literal "export",
      .choice [
        .field "declaration" (.ref "declaration"),
        after "default" (.choice [
          .field "declaration" (.ref "declaration"),
          .seq [.field "value" (.ref "expression"), semicolon]])]],
    .seq [.literal "export", .literal "type", .ref "export_clause",
      opt (.ref "_from_clause"), semicolon],
    .seq [.literal "export", .literal "import", .ref "import_alias"],
    .seq [.literal "export", .literal "=", .ref "expression", semicolon],
    .seq [.literal "export", .literal "as", .literal "namespace", .ref "identifier", semicolon]]),
  ("namespace_export", .seq [.literal "*", .literal "as", .ref "_module_export_name"]),
  ("export_clause",
    braced (.seq [commaSep (.ref "export_specifier"), opt (.literal ",")])),
  ("export_specifier", .seq [
    opt (oneOf ["type", "typeof"]),
    .field "name" (.ref "_module_export_name"),
    opt (after "as" (.field "alias" (.ref "_module_export_name")))]),
  ("_module_export_name", .choice [.ref "identifier", .ref "string"])]

def importRules : List (String × Rule) := [
  ("import", .literal "import"),
  ("import_statement", .seq [
    .literal "import",
    opt (oneOf ["type", "typeof"]),
    .choice [
      .seq [.ref "import_clause", .ref "_from_clause"],
      .ref "import_require_clause",
      .field "source" (.ref "string")],
    opt (.ref "import_attribute"),
    semicolon]),
  ("import_clause", .choice [
    .ref "namespace_import",
    .ref "named_imports",
    .seq [.ref "identifier",
      opt (.seq [.literal ",", .choice [.ref "namespace_import", .ref "named_imports"]])]]),
  ("_from_clause", after "from" (.field "source" (.ref "string"))),
  ("namespace_import", .seq [.literal "*", .literal "as", .ref "identifier"]),
  ("named_imports",
    braced (.seq [commaSep (.ref "import_specifier"), opt (.literal ",")])),
  ("import_specifier", .seq [
    opt (oneOf ["type", "typeof"]),
    .choice [
      .field "name" (.ref "identifier"),
      .seq [
        .field "name" (.choice [.ref "_module_export_name",
          shown "identifier" (.literal "default")]),
        .literal "as",
        .field "alias" (.ref "identifier")]]]),
  ("import_attribute", after "with" (.ref "object"))]

def statementRules : List (String × Rule) := [
  ("statement", .choice [
    .ref "export_statement", .ref "import_statement", .ref "debugger_statement",
    .ref "expression_statement", .ref "declaration", .ref "statement_block",
    .ref "if_statement", .ref "switch_statement", .ref "for_statement",
    .ref "for_in_statement", .ref "while_statement", .ref "do_statement",
    .ref "try_statement", .ref "with_statement", .ref "break_statement",
    .ref "continue_statement", .ref "return_statement", .ref "throw_statement",
    .ref "empty_statement", .ref "labeled_statement"]),
  ("expression_statement", .seq [.ref "_expressions", semicolon]),
  ("variable_declaration",
    .seq [.literal "var", commaSep1 (.ref "variable_declarator"), semicolon]),
  ("lexical_declaration", .seq [
    .field "kind" (oneOf ["let", "const"]),
    commaSep1 (.ref "variable_declarator"),
    semicolon]),
  ("variable_declarator", .choice [
    .seq [
      .field "name" bindingTarget,
      .field "type" (opt (.ref "type_annotation")),
      opt (.ref "_initializer")],
    prec (.named "declare") (.seq [
      .field "name" (.ref "identifier"),
      .literal "!",
      .field "type" (.ref "type_annotation")])]),
  ("statement_block", rightAssoc (.level 0) (.seq [
    openBrace, many (.ref "statement"), closeBrace, opt (.ref "_automatic_semicolon")])),
  ("else_clause", after "else" (.ref "statement")),
  ("if_statement", rightAssoc (.level 0) (.seq [
    .literal "if",
    .field "condition" (.ref "parenthesized_expression"),
    .field "consequence" (.ref "statement"),
    opt (.field "alternative" (.ref "else_clause"))])),
  ("switch_statement", .seq [
    .literal "switch",
    .field "value" (.ref "parenthesized_expression"),
    .field "body" (.ref "switch_body")]),
  ("for_statement", .seq [
    .literal "for",
    .literal "(",
    .choice [
      .field "initializer" (.choice [.ref "lexical_declaration", .ref "variable_declaration"]),
      .seq [.field "initializer" (.ref "_expressions"), .literal ";"],
      .field "initializer" (.ref "empty_statement")],
    .field "condition" (.choice [
      .seq [.ref "_expressions", .literal ";"],
      .ref "empty_statement"]),
    .field "increment" (opt (.ref "_expressions")),
    .literal ")",
    .field "body" (.ref "statement")]),
  ("for_in_statement", .seq [
    .literal "for",
    opt (.literal "await"),
    .ref "_for_header",
    .field "body" (.ref "statement")]),
  ("_for_header", .seq [
    .literal "(",
    .choice [
      .field "left" (.choice [.ref "_lhs_expression", .ref "parenthesized_expression"]),
      .seq [
        .field "kind" (.literal "var"),
        .field "left" bindingTarget,
        opt (.ref "_initializer")],
      .seq [
        .field "kind" (oneOf ["let", "const"]),
        .field "left" bindingTarget,
        opt (.ref "_automatic_semicolon")]],
    .field "operator" (oneOf ["in", "of"]),
    .field "right" (.ref "_expressions"),
    .literal ")"]),
  ("while_statement", .seq [
    .literal "while",
    .field "condition" (.ref "parenthesized_expression"),
    .field "body" (.ref "statement")]),
  ("do_statement", rightAssoc (.level 0) (.seq [
    .literal "do",
    .field "body" (.ref "statement"),
    .literal "while",
    .field "condition" (.ref "parenthesized_expression"),
    opt semicolon])),
  ("try_statement", .seq [
    .literal "try",
    .field "body" (.ref "statement_block"),
    opt (.field "handler" (.ref "catch_clause")),
    opt (.field "finalizer" (.ref "finally_clause"))]),
  ("with_statement", .seq [
    .literal "with",
    .field "object" (.ref "parenthesized_expression"),
    .field "body" (.ref "statement")]),
  ("break_statement", .seq [
    .literal "break",
    .field "label" (opt (shown "statement_identifier" (.ref "identifier"))),
    semicolon]),
  ("continue_statement", .seq [
    .literal "continue",
    .field "label" (opt (shown "statement_identifier" (.ref "identifier"))),
    semicolon]),
  ("debugger_statement", .seq [.literal "debugger", semicolon]),
  ("return_statement", .seq [.literal "return", opt (.ref "_expressions"), semicolon]),
  ("throw_statement", .seq [.literal "throw", .ref "_expressions", semicolon]),
  ("empty_statement", .literal ";"),
  ("labeled_statement", .dynamic (-1) (.seq [
    .field "label" (nameShown "statement_identifier"),
    .literal ":",
    .field "body" (.ref "statement")])),
  ("switch_body", braced (many (.choice [.ref "switch_case", .ref "switch_default"]))),
  ("switch_case", .seq [
    .literal "case",
    .field "value" (.ref "_expressions"),
    .literal ":",
    .field "body" (many (.ref "statement"))]),
  ("switch_default", .seq [
    .literal "default",
    .literal ":",
    .field "body" (many (.ref "statement"))]),
  ("catch_clause", .seq [
    .literal "catch",
    opt (between "(" ")" (.seq [
      .field "parameter" bindingTarget,
      opt (.field "type" (.ref "type_annotation"))])),
    .field "body" (.ref "statement_block")]),
  ("finally_clause", after "finally" (.field "body" (.ref "statement_block")))]

def programRules : List (String × Rule) :=
  [("program", .seq [opt (.ref "hash_bang_line"), many (.ref "statement")]),
   ("hash_bang_line", .token)] ++
  exportRules ++
  [("declaration", .choice [
    .ref "function_declaration", .ref "generator_function_declaration",
    .ref "class_declaration", .ref "lexical_declaration", .ref "variable_declaration",
    .ref "function_signature", .ref "abstract_class_declaration", .ref "module",
    prec (.named "declare") (.ref "internal_module"),
    .ref "type_alias_declaration", .ref "enum_declaration", .ref "interface_declaration",
    .ref "import_alias", .ref "ambient_declaration"])] ++
  importRules ++ statementRules

end SchemaGen.TypeScript.Grammar
