namespace SchemaGen.Schema.Literal

/-- What stands between the quotes. A text without an opening quote is taken as it is. -/
def contents : List Char → List Char
  | c :: d :: cs => if c = '"' || c = '\'' then (d :: cs).dropLast else c :: d :: cs
  | cs => cs

/-- Write contents that stood between single quotes for use between double quotes: a double quote
gets a backslash and a single quote loses it. Other escapes stay. -/
def requote : List Char → List Char
  | [] => []
  | ['\\'] => ['\\']
  | '\\' :: c :: cs => if c = '\'' then c :: requote cs else '\\' :: c :: requote cs
  | c :: cs => if c = '"' then '\\' :: c :: requote cs else c :: requote cs

def doubleQuoted (literal : List Char) : List Char :=
  if literal.head? = some '\'' then requote (contents literal) else contents literal

end SchemaGen.Schema.Literal

namespace SchemaGen.Schema.Numeral

/-- The value of a row of decimal digits, read after those that give `acc`. -/
def digits (acc : Nat) : List Char → Option Nat
  | [] => some acc
  | c :: cs => if c.isDigit then digits (10 * acc + (c.toNat - 48)) cs else none

/-- At least one digit and nothing else. -/
def natural? : List Char → Option Nat
  | [] => none
  | cs => digits 0 cs

/-- A whole number that fits into 64 bits with a sign. -/
def integer? (cs : List Char) : Option Int := do
  let value : Int ← match cs with
    | '-' :: rest => (natural? rest).map fun n => -(n : Int)
    | '+' :: rest => (natural? rest).map Int.ofNat
    | rest => (natural? rest).map Int.ofNat
  if -9223372036854775808 ≤ value && value < 9223372036854775808 then some value else none

/-- The number of 64 bits with a sign that is left of a sum: the highest bits are lost. -/
def wrapped (value : Int) : Int := value.bmod 18446744073709551616

theorem wrapped_eq {value : Int} (hlow : -9223372036854775808 ≤ value)
    (hhigh : value < 9223372036854775808) : wrapped value = value :=
  Int.bmod_eq_of_le_mul_two (by omega) (by omega)

end SchemaGen.Schema.Numeral
