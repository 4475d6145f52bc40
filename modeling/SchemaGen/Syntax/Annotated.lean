import SchemaGen.Schema.Doc
import SchemaGen.Syntax.Node

namespace SchemaGen.Syntax

/-- A node that is no comment, and the comments between it and the node before it. -/
structure Annotated where
  comments : List Node
  node : Node
  deriving Inhabited

/-- Gather comments with the nodes that follow them, the first ones given. Comments that nothing follows
are dropped. -/
def annotateAfter (comments : List Node) : List Node → List Annotated
  | [] => []
  | n :: ns =>
    if n.isComment then annotateAfter (comments ++ [n]) ns
    else ⟨comments, n⟩ :: annotateAfter [] ns

/-- The nodes among the given ones that are no comments, with their comments. -/
def annotate (ns : List Node) : List Annotated := annotateAfter [] ns

namespace Annotated

/-- Where the first comment stands, or the node itself. -/
def start (a : Annotated) : Nat :=
  match a.comments with
  | c :: _ => c.info.start
  | [] => a.node.info.start

def stop (a : Annotated) : Nat := a.node.info.stop

def doc? (a : Annotated) : Option Schema.Doc :=
  (a.comments.filterMap fun c => Schema.Doc.parse? c.text).getLast?

def tags (a : Annotated) : List Schema.Tag := (a.doc?.map (·.tags)).getD []

/-- The text from the first comment to the end of the node. -/
def text (source : Array Char) (a : Annotated) : String :=
  String.ofList (source.extract a.start a.stop).toList

end Annotated

end SchemaGen.Syntax
