import SchemaGen.Proofs.Schema.Mention

namespace SchemaGen.Schema

/-- A value of a running program. Texts and keys are given by their units of 16 bits, plain objects by their
own properties, and everything that no type tells apart, such as a function, is `other`. -/
inductive Value (ν : Type) where
  | undefined
  | null
  | boolean (value : Bool)
  | number (value : ν)
  | bigint (value : Int)
  | text (units : List Nat)
  | date (milliseconds : Int)
  | array (items : List (Value ν))
  | object (get : List Nat → Option (Value ν))
  | other (kind : String)

/-- What the contents of a text literal, the name of a property and the source of a numeral stand for. -/
structure Reading (ν : Type) where
  text : String → List Nat
  key : String → List Nat
  numeral : String → Value ν

variable {ν : Type}

def readKey (get : List Nat → Option (Value ν)) (key : List Nat) : Value ν := (get key).getD .undefined

section Has

variable (r : Reading ν) (env : String → Value ν → Prop)

mutual

/-- The type has the value, if `env` gives the values of the names. Where a type stands for whatever
keys there are, `keyed` holds: there `undefined` in a union with other members says that the key may be
missing, and is no value. -/
def TypeExpr.Has (keyed : Prop) : TypeExpr → Value ν → Prop
  | .string, v => ∃ s, v = .text s
  | .number, v => ∃ n, v = .number n
  | .bigint, v => ∃ n, v = .bigint n
  | .boolean, v => ∃ b, v = .boolean b
  | .date, v => ∃ t, v = .date t
  | .null, v => v = .null
  | .undefined, v => v = .undefined
  | .unknown, _ => True
  | .any, _ => True
  | .never, _ => False
  | .void, v => v = .undefined
  | .text contents, v => v = .text (r.text contents)
  | .numeral source, v => v = r.numeral source
  | .truth b, v => v = .boolean b
  | .array item, v => ∃ xs, v = .array xs ∧ ∀ x ∈ xs, item.Has False x
  | .tuple items, v => ∃ xs, v = .array xs ∧ HasEach items xs
  | .record key value, v =>
    ∃ get, v = .object get ∧
      ∀ n x, get n = some x → key.Has False (.text n) ∧ value.Has True x
  | .object fields index, v =>
    ∃ get, v = .object get ∧ HasFields fields get ∧
      match index with
      | some t => ∀ n x, get n = some x → n ∉ fields.map (r.key ·.name) → t.Has True x
      | none => True
  | .union members, v => HasSome (keyed ∧ ∃ t ∈ members, t ≠ .undefined) members v
  | .intersection members, v => HasAll members v
  | .ref name, v => env name v
  | .unsupported _, _ => False

/-- The types have the values, one each. -/
def HasEach : List TypeExpr → List (Value ν) → Prop
  | [], xs => xs = []
  | t :: ts, xs => ∃ y ys, xs = y :: ys ∧ t.Has False y ∧ HasEach ts ys

/-- One of the types has the value. `undefined` can be left out. -/
def HasSome (dropped : Prop) : List TypeExpr → Value ν → Prop
  | [], _ => False
  | t :: ts, v => (dropped → t ≠ .undefined) ∧ t.Has False v ∨ HasSome dropped ts v

def HasAll : List TypeExpr → Value ν → Prop
  | [], _ => True
  | t :: ts, v => t.Has False v ∧ HasAll ts v

def HasFields : List (Field TypeExpr) → (List Nat → Option (Value ν)) → Prop
  | [], _ => True
  | f :: fs, get =>
    (f.type.Has False (readKey get (r.key f.name)) ∨
      f.required = false ∧ readKey get (r.key f.name) = .undefined) ∧ HasFields fs get

end

end Has

section

variable (key : String → List Nat)

mutual

/-- Every union in the type has a member, and no object has two fields with the same key. -/
def TypeExpr.wellFormed : TypeExpr → Bool
  | .array item => item.wellFormed
  | .tuple items => wellFormedAll items
  | .union members => !members.isEmpty && wellFormedAll members
  | .intersection members => wellFormedAll members
  | .record keys values => keys.wellFormed && values.wellFormed
  | .object fields index =>
    decide (fields.map (key ·.name)).Nodup && wellFormedFields fields &&
      match index with
      | some t => t.wellFormed
      | none => true
  | _ => true

def wellFormedAll : List TypeExpr → Bool
  | [] => true
  | t :: ts => t.wellFormed && wellFormedAll ts

def wellFormedFields : List (Field TypeExpr) → Bool
  | [] => true
  | f :: fs => f.type.wellFormed && wellFormedFields fs

end

end

section

variable {r : Reading ν} {env : String → Value ν → Prop}

theorem hasSome_iff (dropped : Prop) (ts : List TypeExpr) (v : Value ν) :
    HasSome r env dropped ts v ↔
      ∃ t ∈ ts, (dropped → t ≠ .undefined) ∧ t.Has r env False v := by
  induction ts with
  | nil => simp [HasSome]
  | cons t ts ih => simp [HasSome, ih]

theorem has_keyed {t : TypeExpr} (h : ∀ ts, t ≠ .union ts) (keyed : Prop) (v : Value ν) :
    t.Has r env keyed v ↔ t.Has r env False v := by
  cases t with
  | union ts => exact absurd rfl (h ts)
  | _ => simp [TypeExpr.Has]

end

end SchemaGen.Schema
