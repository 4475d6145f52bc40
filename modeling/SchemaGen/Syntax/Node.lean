namespace SchemaGen.Syntax

/-- What is known of a node beside its children. `fields` are the parts that it plays in the node
above; `line` counts from one. A missing node stands for a token that the source lacks. -/
structure NodeInfo where
  kind : String
  named : Bool
  fields : List String
  text : String
  start : Nat
  stop : Nat
  line : Nat
  missing : Bool
  deriving DecidableEq, Inhabited

inductive Node where
  | mk (info : NodeInfo) (children : List Node)
  deriving Inhabited

namespace Node

def info : Node → NodeInfo
  | mk i _ => i

def children : Node → List Node
  | mk _ cs => cs

def kind (n : Node) : String := n.info.kind

def text (n : Node) : String := n.info.text

def isNamed (n : Node) : Bool := n.info.named

/-- A piece of text that the parser could not understand. -/
def isError (n : Node) : Bool := n.kind = "ERROR"

def isComment (n : Node) : Bool := n.kind = "comment"

theorem sizeOf_lt_of_mem {n c : Node} (h : c ∈ n.children) : sizeOf c < sizeOf n := by
  cases n with
  | mk i cs =>
    have hc : sizeOf c < sizeOf cs := List.sizeOf_lt_of_mem h
    simp only [Node.mk.sizeOf_spec]
    omega

/-- A node that is smaller than `n`, as its parts are. -/
abbrev Inner (n : Node) := { c : Node // sizeOf c < sizeOf n }

def inner (n : Node) : List n.Inner := n.children.attach.map fun c => ⟨c.1, sizeOf_lt_of_mem c.2⟩

theorem inner_map_val (n : Node) : n.inner.map (·.1) = n.children := by
  simp [inner, List.map_map, Function.comp_def]

def namedInner (n : Node) : List n.Inner := n.inner.filter (·.1.isNamed)

/-- The named children that carry meaning: comments may stand anywhere. -/
def innerParts (n : Node) : List n.Inner := n.namedInner.filter (!·.1.isComment)

/-- The child that plays the given part. -/
def innerField? (n : Node) (field : String) : Option n.Inner :=
  n.inner.find? (·.1.info.fields.contains field)

def namedChildren (n : Node) : List Node := n.children.filter (·.isNamed)

def parts (n : Node) : List Node := n.namedChildren.filter (!·.isComment)

def field? (n : Node) (field : String) : Option Node :=
  n.children.find? (·.info.fields.contains field)

theorem namedInner_map_val (n : Node) : n.namedInner.map (·.1) = n.namedChildren := by
  rw [namedInner, namedChildren, ← inner_map_val, List.filter_map]
  rfl

theorem innerParts_map_val (n : Node) : n.innerParts.map (·.1) = n.parts := by
  rw [innerParts, parts, ← namedInner_map_val, List.filter_map]
  rfl

theorem innerField?_map_val (n : Node) (field : String) :
    (n.innerField? field).map (·.1) = n.field? field := by
  rw [innerField?, field?, ← inner_map_val, List.find?_map]
  rfl

/-- The first node, from the outside in, that is an error or stands for a missing token. -/
def firstError? (n : Node) : Option Node :=
  if n.isError || n.info.missing then some n
  else n.inner.findSome? fun c => firstError? c.1
termination_by sizeOf n
decreasing_by exact c.2

/-- Whether some node of the given kind and text lies in the tree, itself included. Nothing below a
node of that kind is looked at. -/
def mentions (kind text : String) (n : Node) : Bool :=
  if n.kind = kind then n.text = text
  else n.namedInner.any fun c => mentions kind text c.1
termination_by sizeOf n
decreasing_by exact c.2

end Node

end SchemaGen.Syntax
