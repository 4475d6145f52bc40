import SchemaGen.Proofs.TypeScript.Expression
import SchemaGen.Proofs.Zod.Acceptance

namespace SchemaGen.Zod

open Schema TypeScript

variable {ν : Type}

/-- What an expression stands for. An object literal is given by its own properties, and a validator of objects
by what it asks of theirs, since it can still be told about the others. -/
inductive Thing (ν : Type) where
  | library
  | value (v : Value ν)
  | list (items : List (Thing ν))
  | literal (properties : List (Entry (Thing ν)))
  | validator (accepts : Value ν → Prop)
  | shape (properties : List (List Nat × (Value ν → Prop)))

namespace Thing

def accepts? : Thing ν → Option (Value ν → Prop)
  | validator p => some p
  | shape properties => some (objectOf properties fun _ => True)
  | _ => none

def text? : Thing ν → Option (List Nat)
  | value (.text us) => some us
  | _ => none

/-- What the library makes of arguments. -/
def make? : String → List (Thing ν) → Option (Thing ν)
  | "string", [] => some (validator fun v => ∃ s, v = .text s)
  | "number", [] => some (validator fun v => ∃ n, v = .number n)
  | "bigint", [] => some (validator fun v => ∃ n, v = .bigint n)
  | "boolean", [] => some (validator fun v => ∃ b, v = .boolean b)
  | "date", [] => some (validator fun v => ∃ t, v = .date t)
  | "null", [] => some (validator fun v => v = .null)
  | "undefined", [] => some (validator fun v => v = .undefined)
  | "void", [] => some (validator fun v => v = .undefined)
  | "unknown", [] => some (validator fun _ => True)
  | "any", [] => some (validator fun _ => True)
  | "never", [] => some (validator fun _ => False)
  | "literal", [value v] => some (validator fun x => x = v)
  | "enum", [list items] => (items.mapM text?).map fun texts => validator fun v => ∃ us ∈ texts, v = .text us
  | "array", [item] => item.accepts?.map fun p => validator (arrayOf p)
  | "tuple", [list items] => (items.mapM accepts?).map fun ps => validator (tupleOf ps)
  | "union", [list items] => (items.mapM accepts?).map fun ps => validator (someOf ps)
  | "record", [item] => item.accepts?.map fun p => validator (recordOf (fun v => ∃ s, v = .text s) p)
  | "record", [key, item] =>
    key.accepts?.bind fun p => item.accepts?.map fun q => validator (recordOf p q)
  | "object", [literal properties] =>
    (properties.mapM fun e : Entry (Thing ν) => e.value.accepts?.map (e.key, ·)).map shape
  | _, _ => none

/-- What a method of a validator makes of arguments. -/
def change? (p : Value ν → Prop) : String → List (Thing ν) → Option (Thing ν)
  | "optional", [] => some (validator fun v => p v ∨ v = .undefined)
  | "nullable", [] => some (validator fun v => p v ∨ v = .null)
  | "and", [other] => other.accepts?.map fun q => validator fun v => p v ∧ q v
  | _, _ => none

/-- Call a method. Only a validator of objects can be told about the properties that it does not name. -/
def call? (x : Thing ν) (method : String) (args : List (Thing ν)) : Option (Thing ν) :=
  match x, method, args with
  | library, method, args => make? method args
  | shape properties, "catchall", [rest] => rest.accepts?.map fun p => validator (objectOf properties p)
  | x, method, args => x.accepts?.bind fun p => change? p method args

end Thing

/-- In an object literal this key with a colon gives no property but the prototype. -/
def prototypeKey : List Nat := "__proto__".toList.flatMap (units ·.toNat)

section Meaning

variable (numeral : String → Value ν) (env : String → Value ν → Prop)

/-- What a word stands for. The library is imported as `z`, and `env` says what the other validators accept. -/
def wordThing? (name : String) : Option (Thing ν) :=
  if name = "z" then some .library
  else if name = "true" then some (.value (.boolean true))
  else if name = "false" then some (.value (.boolean false))
  else if reservedWords.contains name then none
  else some (.validator (env name))

mutual

def thing? : Expression → Option (Thing ν)
  | .word name => wordThing? env name
  | .text us => some (.value (.text us))
  | .numeral source => some (.value (numeral source))
  | .list items => (things? items).map .list
  | .object entries => (entryThings? entries).map fun es => .literal (es.filter (·.key ≠ prototypeKey))
  | .member _ _ => none
  | .call (.member whole method) args =>
    (thing? whole).bind fun x => (things? args).bind fun xs => x.call? method xs
  | .call _ _ => none

def things? : List Expression → Option (List (Thing ν))
  | [] => some []
  | e :: es => (thing? e).bind fun x => (things? es).map (x :: ·)

def entryThings? : List (Entry Expression) → Option (List (Entry (Thing ν)))
  | [] => some []
  | e :: es => (thing? e.value).bind fun x => (entryThings? es).map (⟨e.key, x⟩ :: ·)

end

/-- The values that a validator accepts that is written as an expression. -/
def accepted? (source : String) : Option (Value ν → Prop) :=
  (expression? source.toList).bind fun e => (thing? numeral env e).bind Thing.accepts?

end Meaning

end SchemaGen.Zod
