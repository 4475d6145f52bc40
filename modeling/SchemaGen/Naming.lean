import SchemaGen.Text.Pascal
import SchemaGen.Text.Search

namespace SchemaGen

structure Naming where
  lead : String
  suffix : String
  deriving DecidableEq, Inhabited

namespace Naming

/-- The suffix is `Schema` unless another is chosen. -/
def standard : Naming := ⟨"", "Schema"⟩

def schemaName (n : Naming) (type : String) : String := n.lead ++ pascal type ++ n.suffix

/-- The identifier of the object that holds the validators of an entity. The name of the entity comes
from identifiers and is taken as it is. -/
def aggregateName (n : Naming) (entity : String) : String := n.lead ++ entity ++ n.suffix

def marker (n : Naming) : String := if n.suffix.isEmpty then n.lead else n.suffix

/-- Take the mark out of an identifier: the last one if it is a suffix, else the first. -/
def withoutMarker? (n : Naming) (identifier : List Char) : Option (List Char) :=
  let cut := if n.suffix.isEmpty then Text.cutFirst? else Text.cutLast?
  (cut n.marker.toList identifier).map fun (before, after) => before ++ after

/-- Take away the beginning that stands beside a suffix. -/
def withoutLead (n : Naming) (base : List Char) : List Char :=
  if n.suffix.isEmpty then base
  else (Text.afterPrefix? n.lead.toList base).getD base

/-- The name in the identifier of a validator. An identifier without mark has none, and neither has
the mark alone. -/
def baseName? (n : Naming) (identifier : String) : Option String :=
  if n.marker.isEmpty then none
  else
    match (n.withoutMarker? identifier.toList).map n.withoutLead with
    | none | some [] => none
    | some base => some (String.ofList base)

end Naming

end SchemaGen
