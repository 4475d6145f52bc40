import SchemaGen.Schema.Doc

namespace SchemaGen.Zod

open Schema

def isDigitRow (cs : List Char) : Bool := !cs.isEmpty && cs.all Char.isDigit

def withoutSign : List Char → List Char
  | c :: cs => if c = '+' || c = '-' then cs else c :: cs
  | [] => []

def isExponent : List Char → Bool
  | [] => true
  | c :: cs => (c = 'e' || c = 'E') && isDigitRow (withoutSign cs)

/-- Decimal digits, at least one, with at most one point, and an exponent or none. -/
def isDecimal (cs : List Char) : Bool :=
  let whole := cs.takeWhile Char.isDigit
  match cs.dropWhile Char.isDigit with
  | '.' :: rest =>
    !(whole.isEmpty && (rest.takeWhile Char.isDigit).isEmpty) &&
      isExponent (rest.dropWhile Char.isDigit)
  | rest => !whole.isEmpty && isExponent rest

/-- The names of numbers that have no digits, in any case. -/
def isNumberName (cs : List Char) : Bool :=
  ["inf".toList, "infinity".toList, "nan".toList].contains (cs.map Char.toLower)

def isNumber (cs : List Char) : Bool :=
  isDecimal (withoutSign cs) || isNumberName (withoutSign cs)

/-- A condition on a value. Bounds and patterns are kept as they were written. -/
inductive Refinement where
  | min (bound : String)
  | max (bound : String)
  | email
  | uuid
  | url
  | dateTime
  | pattern (source : String)
  deriving DecidableEq, Inhabited

/-- A slash ends a regular expression, so one inside gets a backslash. -/
def escapeSlashes (cs : List Char) : List Char :=
  cs.flatMap fun c => if c = '/' then ['\\', '/'] else [c]

def Refinement.render : Refinement → String
  | min bound => ".min(" ++ bound ++ ")"
  | max bound => ".max(" ++ bound ++ ")"
  | email => ".email()"
  | uuid => ".uuid()"
  | url => ".url()"
  | dateTime => ".datetime()"
  | pattern source => ".regex(/" ++ String.ofList (escapeSlashes source.toList) ++ "/)"

def Refinement.ofFormat? (format : String) : Option Refinement :=
  match format with
  | "email" => some email
  | "uuid" => some uuid
  | "url" | "uri" => some url
  | "date-time" => some dateTime
  | _ => none

/-- The condition that a tag states. A bound that names no number states none. -/
def Refinement.ofTag? (t : Tag) : Option Refinement :=
  match t.name, t.value with
  | _, none => none
  | "minimum", some v | "minLength", some v | "minItems", some v =>
    if isNumber v.toList then some (min v) else none
  | "maximum", some v | "maxLength", some v | "maxItems", some v =>
    if isNumber v.toList then some (max v) else none
  | "format", some v => ofFormat? v
  | "pattern", some v => some (pattern v)
  | _, _ => none

def refinements (d : Doc) : List Refinement := d.tags.filterMap Refinement.ofTag?

def defaultValue? (d : Doc) : Option String := (d.tag? "default").bind (·.value)

end SchemaGen.Zod
