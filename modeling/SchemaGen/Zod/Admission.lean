import SchemaGen.Conversion
import SchemaGen.Zod.Validator

namespace SchemaGen.Zod

open Schema

/-- A validator, and whether `null` and `undefined` are admitted beside what it accepts. -/
structure Admitted where
  core : Validator
  null : Bool
  undefined : Bool

def Admitted.only (v : Validator) : Admitted := ⟨v, false, false⟩

def refine (docs : Option Doc) (v : Validator) : Validator :=
  match docs with
  | some d => (refinements d).foldl Validator.refined v
  | none => v

def wrap (nullable optional : Bool) (v : Validator) : Validator :=
  let v := if optional then .optional v else v
  if nullable then .nullable v else v

def Admitted.documented (a : Admitted) (required : Bool) (docs : Option Doc) : Validator :=
  let v := wrap a.null (!required || a.undefined) (refine docs a.core)
  match docs.bind defaultValue? with
  | some value => .withDefault v value
  | none => v

def Admitted.whole (a : Admitted) : Validator := a.documented true none

/-- The whole validator of the values under arbitrary keys: a missing one needs no mention. -/
def Admitted.present (a : Admitted) : Validator := wrap a.null false a.core

/-- What a union admits whose members beside `null` and `undefined` have the given validators. -/
def Admitted.ofUnion (core : List Validator) (null undefined : Bool) : Admitted :=
  match core with
  | [] => if null then ⟨.base .null, false, undefined⟩ else .only (.base .undefined)
  | [v] => ⟨v, null, undefined⟩
  | vs => ⟨.union vs, null, undefined⟩

def isNull : TypeExpr → Bool
  | .null => true
  | _ => false

def isUndefined : TypeExpr → Bool
  | .undefined => true
  | _ => false

def isString : TypeExpr → Bool
  | .string => true
  | _ => false

def allOf : List Validator → Validator
  | [] => .base .unknown
  | v :: vs => vs.foldl Validator.both v

/-- What the validators of a module may count on: the names of the types that it declares, and whether
tags in documentation state conditions. -/
structure Scope where
  known : List String
  tags : Bool

/-- What the declaration of a name may count on besides: the name itself. -/
def Scope.within (s : Scope) (name : String) : Scope := { s with known := s.known.insert name }

def Scope.conditions (s : Scope) (docs : Option Doc) : Option Doc := if s.tags then docs else none

mutual

/-- The validator of a type; a part that cannot be expressed and a name that is not known are
problems. -/
def admitted (s : Scope) : TypeExpr → Except Problem Admitted
  | .string => .ok (.only (.base .string))
  | .number => .ok (.only (.base .number))
  | .bigint => .ok (.only (.base .bigint))
  | .boolean => .ok (.only (.base .boolean))
  | .date => .ok (.only (.base .date))
  | .null => .ok (.only (.base .null))
  | .undefined => .ok (.only (.base .undefined))
  | .unknown => .ok (.only (.base .unknown))
  | .any => .ok (.only (.base .any))
  | .never => .ok (.only (.base .never))
  | .void => .ok (.only (.base .void))
  | .text contents => .ok (.only (.literal (.text contents)))
  | .numeral source => .ok (.only (.literal (.numeral source)))
  | .truth value => .ok (.only (.literal (.truth value)))
  | .array item => return .only (.array (← admitted s item).whole)
  | .tuple items => return .only (.tuple (← admittedAll s items))
  | .record key value => do
    let v ← admitted s value
    if isString key then return .only (.record none v.present)
    else return .only (.record (some (← admitted s key).whole) v.present)
  | .object fields index => do
    let properties ← admittedFields s fields
    match index with
    | some type => return .only (.object properties (some (← admitted s type).present))
    | none => return .only (.object properties none)
  | .union members =>
    return .ofUnion (← admittedCore s members) (members.any isNull) (members.any isUndefined)
  | .intersection members => return .only (allOf (← admittedAll s members))
  | .ref name => if name ∈ s.known then .ok (.only (.ref name)) else .error (.unknownType name)
  | .unsupported what => .error (.unsupported what)

def admittedAll (s : Scope) : List TypeExpr → Except Problem (List Validator)
  | [] => .ok []
  | t :: ts => return (← admitted s t).whole :: (← admittedAll s ts)

/-- The validators of the members of a union, `null` and `undefined` left out. -/
def admittedCore (s : Scope) : List TypeExpr → Except Problem (List Validator)
  | [] => .ok []
  | .null :: ts => admittedCore s ts
  | .undefined :: ts => admittedCore s ts
  | t :: ts => return (← admitted s t).whole :: (← admittedCore s ts)

def admittedFields (s : Scope) : List (Schema.Field TypeExpr) → Except Problem (List (Property Validator))
  | [] => .ok []
  | f :: fs => do
    let v := (← admitted s f.type).documented f.required (s.conditions f.docs)
    return ⟨f.docs, f.name, v⟩ :: (← admittedFields s fs)

end

def ofEnumeration : Enumeration → Validator
  | .texts [] | .numbers [] => .base .never
  | .texts values => .choice values
  | .numbers [v] => .literal (.numeral (toString v.value))
  | .numbers vs => .union (vs.map fun v => .literal (.numeral (toString v.value)))

/-- The validator of a declaration. The documentation of an alias states conditions on its values. -/
def ofShape (s : Scope) (docs : Option Doc) : Shape → Except Problem Validator
  | .struct fields => return .object (← admittedFields s fields) none
  | .enumeration values => .ok (ofEnumeration values)
  | .alias type => return (← admitted s type).documented true (s.conditions docs)

end SchemaGen.Zod
