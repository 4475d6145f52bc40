import Mathlib.Data.List.Forall2
import SchemaGen.Proofs.Schema.Meaning
import SchemaGen.Proofs.Zod.Admission

namespace SchemaGen.Zod

open Schema

variable {ν : Type}

section Combinators

def arrayOf (p : Value ν → Prop) (v : Value ν) : Prop := ∃ xs, v = .array xs ∧ ∀ x ∈ xs, p x

def tupleOf (ps : List (Value ν → Prop)) (v : Value ν) : Prop :=
  ∃ xs, v = .array xs ∧ List.Forall₂ (fun p x => p x) ps xs

def recordOf (key value : Value ν → Prop) (v : Value ν) : Prop :=
  ∃ get, v = .object get ∧ ∀ n x, get n = some x → key (.text n) ∧ value x

/-- Of properties with the same key only the last counts, as in any object literal. -/
def HoldEntries (get : List Nat → Option (Value ν)) : List (List Nat × (Value ν → Prop)) → Prop
  | [] => True
  | e :: es => (e.1 ∈ es.map (·.1) ∨ e.2 (readKey get e.1)) ∧ HoldEntries get es

/-- An object with the given properties, and `rest` of the values that are under other keys. -/
def objectOf (entries : List (List Nat × (Value ν → Prop))) (rest : Value ν → Prop) (v : Value ν) :
    Prop :=
  ∃ get, v = .object get ∧ HoldEntries get entries ∧
    ∀ n x, get n = some x → n ∉ entries.map (·.1) → rest x

def someOf (ps : List (Value ν → Prop)) (v : Value ν) : Prop := ∃ p ∈ ps, p v

end Combinators

def Base.Accepts : Base → Value ν → Prop
  | .string, v => ∃ s, v = .text s
  | .number, v => ∃ n, v = .number n
  | .bigint, v => ∃ n, v = .bigint n
  | .boolean, v => ∃ b, v = .boolean b
  | .date, v => ∃ t, v = .date t
  | .null, v => v = .null
  | .undefined, v => v = .undefined
  | .unknown, _ => True
  | .any, _ => True
  | .never, _ => False
  | .void, v => v = .undefined

def Literal.value (r : Reading ν) : Literal → Value ν
  | .text contents => .text (r.text contents)
  | .numeral source => r.numeral source
  | .truth b => .boolean b

section Semantics

variable (r : Reading ν) (meets : Refinement → Value ν → Prop) (env : String → Value ν → Prop)

mutual

/-- What a validator accepts, if `env` says this for the types that are mentioned and `meets` for the
refinements. -/
def Validator.Accepts : Validator → Value ν → Prop
  | .base b => b.Accepts
  | .literal l => fun v => v = l.value r
  | .choice values => fun v => ∃ s ∈ values, v = .text (r.text s)
  | .array item => arrayOf item.Accepts
  | .tuple items => tupleOf (acceptAll items)
  | .record key value =>
    match key with
    | some k => recordOf k.Accepts value.Accepts
    | none => recordOf (fun v => ∃ s, v = .text s) value.Accepts
  | .object properties rest =>
    match rest with
    | some w =>
      objectOf ((properties.map (r.key ·.name)).zip (acceptProperties properties)) w.Accepts
    | none =>
      objectOf ((properties.map (r.key ·.name)).zip (acceptProperties properties)) fun _ => True
  | .union members => someOf (acceptAll members)
  | .both left right => fun v => left.Accepts v ∧ right.Accepts v
  | .ref type => env type
  | .refined inner refinement => fun v => inner.Accepts v ∧ meets refinement v
  | .optional inner => fun v => inner.Accepts v ∨ v = .undefined
  | .nullable inner => fun v => inner.Accepts v ∨ v = .null
  | .withDefault inner _ => fun v => inner.Accepts v ∨ v = .undefined

def acceptAll : List Validator → List (Value ν → Prop)
  | [] => []
  | v :: vs => v.Accepts :: acceptAll vs

def acceptProperties : List (Property Validator) → List (Value ν → Prop)
  | [] => []
  | p :: ps => p.validator.Accepts :: acceptProperties ps

end

end Semantics

variable {r : Reading ν} {meets : Refinement → Value ν → Prop} {env : String → Value ν → Prop}

theorem length_acceptProperties (ps : List (Property Validator)) :
    (acceptProperties r meets env ps).length = ps.length := by
  induction ps with
  | nil => rfl
  | cons p ps ih => rw [acceptProperties, List.length_cons, List.length_cons, ih]

theorem render_object_some (s : Style) (indent : Nat) (ps : List (Property Validator))
    (rest : Validator) :
    (Validator.object ps (some rest)).render s indent =
      (Validator.object ps none).render s indent ++ ".catchall(" ++ rest.render s indent ++ ")" := by
  cases ps with
  | nil => rfl
  | cons p ps => rfl

end SchemaGen.Zod
