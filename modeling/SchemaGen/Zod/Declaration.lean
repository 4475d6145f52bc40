import SchemaGen.Zod.Admission

namespace SchemaGen.Zod

open Schema

/-- A declaration of the validator of a type. `needs` are the other types whose validators it
mentions. -/
structure Declaration where
  name : String
  docs : Option Doc
  needs : List String
  recursive : Bool
  validator : Validator
  deriving Inhabited

/-- The declaration for the validator of a type, which may mention itself. -/
def Declaration.ofDefinition (s : Scope) (d : Definition) : Except Problem Declaration := do
  let validator ← ofShape (s.within d.name) d.docs d.shape
  let mentioned := validator.references
  return { name := d.name, docs := d.docs, needs := mentioned.filter (· ≠ d.name)
           recursive := mentioned.contains d.name, validator }

/-- Write a declaration. A validator that mentions itself is wrapped, so that it is looked up later, and
says of what type it is. -/
def Declaration.render (s : Style) (d : Declaration) : String :=
  s.comment d.docs 0 ++ "export const " ++ s.identifier d.name ++
    (if d.recursive then
      ": z.ZodSchema<" ++ d.name ++ "> = z.lazy(() => " ++ d.validator.render s 0 ++ ");"
    else " = " ++ d.validator.render s 0 ++ ";")

def Declaration.metBy (names : List String) (d : Declaration) : Bool := d.needs.all names.contains

def Declaration.broken (names : List String) (d : Declaration) : Report :=
  ⟨some d.name, .brokenNeed ((d.needs.find? (!names.contains ·)).getD "")⟩

def selfContained (ds : List Declaration) : List Declaration :=
  ds.filter (·.metBy (ds.map (·.name)))

def brokenReports (ds : List Declaration) : List Report :=
  (ds.filter (!·.metBy (ds.map (·.name)))).map (·.broken (ds.map (·.name)))

/-- Drop declarations that need something that is not there, until none is left. -/
def closed (ds : List Declaration) : List Declaration × List Report :=
  if _h : (selfContained ds).length < ds.length then
    let (kept, reports) := closed (selfContained ds)
    (kept, brokenReports ds ++ reports)
  else (ds, [])
termination_by ds.length

/-- Go through declarations once and take those whose needs have been taken, in this pass or before.
The answer is what is taken and what remains. -/
def pass (taken : List String) : List Declaration → List Declaration × List Declaration
  | [] => ([], [])
  | d :: ds =>
    if d.metBy taken then
      let (now, later) := pass (d.name :: taken) ds
      (d :: now, later)
    else
      let (now, later) := pass taken ds
      (now, d :: later)

/-- Declarations in order, those for which no place was found, and whether the last pass found
none. -/
structure Ordering where
  ordered : List Declaration
  leftover : List Declaration
  stalled : Bool

/-- Order declarations in at most the given number of passes, after those taken before. -/
def orderAfter (taken : List String) (ds : List Declaration) : Nat → Ordering
  | 0 => ⟨[], ds, false⟩
  | passes + 1 =>
    if ds.isEmpty then ⟨[], [], false⟩
    else
      match pass taken ds with
      | ([], later) => ⟨[], later, true⟩
      | (now, later) =>
        let rest := orderAfter (now.map (·.name) ++ taken) later passes
        { rest with ordered := now ++ rest.ordered }

/-- Order declarations by their needs. One pass is made in any case. -/
def order (ds : List Declaration) (passes : Nat) : Ordering := orderAfter [] ds (max passes 1)

def Ordering.leftoverReport (o : Ordering) (passes : Nat) (d : Declaration) : Report :=
  ⟨some d.name, if o.stalled then .circular d.needs else .passesExhausted passes⟩

end SchemaGen.Zod
