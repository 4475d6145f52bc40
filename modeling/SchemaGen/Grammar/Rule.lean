namespace SchemaGen.Grammar

/-- How strongly a rule binds: by default, by a number, or by a name that an ordering ranks. -/
inductive Precedence where
  | unset
  | level (n : Int)
  | named (name : String)
  deriving DecidableEq, Hashable, Inhabited

/-- Which way a chain of equally strong operators groups. -/
inductive Associativity where
  | left
  | right
  deriving DecidableEq, Hashable, Inhabited

/-- The kind under which a part is shown instead of its own. -/
structure Alias where
  kind : String
  named : Bool
  deriving DecidableEq, Hashable, Inhabited

/-- A grammar rule. A rule that is a `token` as a whole is read by the lexer and known by its name;
`literal` is an anonymous token; `repeated` is one or more. -/
inductive Rule where
  | blank
  | token
  | literal (text : String)
  | ref (name : String)
  | seq (parts : List Rule)
  | choice (parts : List Rule)
  | repeated (part : Rule)
  | binding (precedence : Precedence) (associativity : Option Associativity) (part : Rule)
  | dynamic (weight : Int) (part : Rule)
  | field (name : String) (part : Rule)
  | shownAs (shown : Alias) (part : Rule)
  deriving Inhabited

/-- One place in an ordering of precedences: a precedence name or a rule that has no precedence of
its own. -/
inductive Rank where
  | name (name : String)
  | rule (name : String)
  deriving DecidableEq, Inhabited

/-- A grammar: its rules in order, the first being the start rule, and what else a parser has to
know. -/
structure Definition where
  rules : List (String × Rule)
  /-- The token of which keywords are special cases. -/
  word : String
  /-- Tokens without a rule that only the surroundings decide. -/
  contextual : List String
  /-- Tokens that may stand anywhere. -/
  extras : List String
  /-- Rules that are always replaced by their alternatives. -/
  inlined : List String
  /-- Rules that leave no node of their own, beside those whose name starts with an underscore. -/
  supertypes : List String
  /-- Orderings of precedences, each from the strongest to the weakest. -/
  orderings : List (List Rank)

namespace Rule

def opt (r : Rule) : Rule := .choice [r, .blank]

def many (r : Rule) : Rule := .choice [.repeated r, .blank]

/-- One or more `r` with `s` between them. -/
def sepBy1 (s r : Rule) : Rule := .seq [r, many (.seq [s, r])]

def commaSep1 (r : Rule) : Rule := sepBy1 (.literal ",") r

def commaSep (r : Rule) : Rule := opt (commaSep1 r)

def prec (p : Precedence) (r : Rule) : Rule := .binding p none r

def leftAssoc (p : Precedence) (r : Rule) : Rule := .binding p (some .left) r

def rightAssoc (p : Precedence) (r : Rule) : Rule := .binding p (some .right) r

/-- Show `r` as a named node of the given kind. -/
def shown (kind : String) (r : Rule) : Rule := .shownAs ⟨kind, true⟩ r

def oneOf (texts : List String) : Rule := .choice (texts.map .literal)

end Rule

end SchemaGen.Grammar
