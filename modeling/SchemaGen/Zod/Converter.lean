import SchemaGen.Conversion
import SchemaGen.Schema.Reading
import SchemaGen.TypeScript.Parse
import SchemaGen.Zod.Generation

namespace SchemaGen.Zod

open Syntax

/-- An exported constant: its name, and its value if it has one. -/
structure Constant where
  name : String
  value : Option Node

def Constant.ofStatement? (n : Node) : Option Constant := do
  let declarator ← TypeScript.exportedDeclarator? n
  let name ← declarator.field? "name"
  return ⟨name.text, declarator.field? "value"⟩

def constants (root : Node) : List Constant := root.namedChildren.filterMap Constant.ofStatement?

def identifiersIn (n : Node) : List String :=
  if n.kind = "identifier" then [n.text]
  else n.namedInner.flatMap fun ⟨c, _⟩ => identifiersIn c
termination_by sizeOf n

def Constant.used (c : Constant) : List String :=
  match c.value with
  | some value => (identifiersIn value).eraseDups
  | none => []

def useReport? (all declared : List String) (user name : String) : Option Report :=
  if name = "z" || name ∈ declared then none
  else if name ∈ all then some ⟨some user, .usedEarly name⟩
  else some ⟨some user, .undeclared name⟩

def checkUses (all declared : List String) : List Constant → List Report
  | [] => []
  | c :: cs =>
    let declared := c.name :: declared
    c.used.filterMap (useReport? all declared c.name) ++ checkUses all declared cs

def check (root : Node) : List Report :=
  let unreadable := root.firstError?.toList.map fun n => Report.mk none (.unreadable n.info.line)
  let cs := constants root
  unreadable ++ checkUses (cs.map (·.name)) [] cs

end SchemaGen.Zod

namespace SchemaGen

open Schema

def schemaOf (read : TypeScript.Reader) (source : String) : Except ParseFailure Schema :=
  return .ofNode (← read source)

namespace Zod

def checkSource (read : TypeScript.Reader) (source : String) : Except ParseFailure (List Report) :=
  return check (← read source)

/-- Convert a source, and check the result unless that is skipped. -/
def convert (read : TypeScript.Reader) (options : Conversion.Options) (source : String) :
    Except ParseFailure Conversion := do
  let made := convertSchema (← schemaOf read source) options
  if options.skipValidation then return made
  else return { made with reports := made.reports ++ (← checkSource read made.source) }

def converter (read : TypeScript.Reader) : Converter := ⟨"zod", convert read⟩

end Zod

def Converter.builtin (read : TypeScript.Reader) : List Converter := [Zod.converter read]

end SchemaGen
