import SchemaGen.Grammar.Production

namespace SchemaGen.Parsing

open SchemaGen.Grammar

/-- A text with the number of bytes and of line breaks before each of its characters. -/
structure Text where
  chars : Array Char
  bytes : Array Nat
  rows : Array Nat

namespace Text

def ofString (s : String) : Text :=
  let chars := s.toList.toArray
  let step (acc : Array Nat × Array Nat × Nat × Nat) (c : Char) :=
    let (bytes, rows, b, r) := acc
    let b := b + c.utf8Size
    let r := if c = '\n' then r + 1 else r
    (bytes.push b, rows.push r, b, r)
  let (bytes, rows, _, _) := chars.foldl step (#[0], #[0], 0, 0)
  { chars, bytes, rows }

def size (t : Text) : Nat := t.chars.size

def bytesBetween (t : Text) (start stop : Nat) : Nat := t.bytes.getD stop 0 - t.bytes.getD start 0

def rowsBetween (t : Text) (start stop : Nat) : Nat := t.rows.getD stop 0 - t.rows.getD start 0

def slice (t : Text) (start stop : Nat) : String := String.ofList (t.chars.extract start stop).toList

end Text

/-- What is known of a parse tree beside its children. The white space before it goes from `lead` to
`start`. -/
structure Info where
  symbol : Nat
  production : Option Nat := none
  extra : Bool := false
  missing : Bool := false
  keyword : Bool := false
  lead : Nat
  start : Nat
  stop : Nat
  cost : Nat := 0
  weight : Int := 0
  /-- How many nodes of the syntax tree lie below, and how many of them directly. -/
  descendants : Nat := 0
  visibleChildren : Nat := 0
  deriving Inhabited

inductive Subtree where
  | node (info : Info) (children : List Subtree)
  deriving Inhabited

/-- Costs of what an error makes the parser do. -/
structure Costs where
  recovery : Nat := 500
  missing : Nat := 110
  skippedTree : Nat := 100
  skippedByte : Nat := 1
  skippedRow : Nat := 30

def costs : Costs := {}

namespace Subtree

def info : Subtree → Info
  | .node i _ => i

def children : Subtree → List Subtree
  | .node _ cs => cs

def symbol (t : Subtree) : Nat := t.info.symbol

def extra (t : Subtree) : Bool := t.info.extra

/-- The symbols of text that could not be understood, and of a run of it that is still growing. -/
def errorSymbol (g : Flat) : Nat := g.symbols.size

def errorRunSymbol (g : Flat) : Nat := g.symbols.size + 1

def isError (g : Flat) (t : Subtree) : Bool := t.symbol = errorSymbol g

/-- Whether a symbol leaves a node in the syntax tree where no production says otherwise. -/
def symbolVisible (g : Flat) (symbol : Nat) : Bool :=
  if symbol = errorSymbol g then true
  else if (g.usualAlias.getD symbol none).isSome then true
  else (g.symbols[symbol]?).elim false (·.visible)

def visible (g : Flat) (t : Subtree) : Bool := symbolVisible g t.symbol

def cost (t : Subtree) : Nat :=
  if t.info.missing then costs.missing + costs.recovery else t.info.cost

def leaf (symbol lead start stop : Nat) : Subtree := .node { symbol, lead, start, stop } []

/-- A token that is not in the text but would have made it understandable. -/
def missingLeaf (symbol position : Nat) : Subtree :=
  .node { symbol, lead := position, start := position, stop := position, missing := true } []

def setExtra (extra : Bool) : Subtree → Subtree
  | .node i cs => .node { i with extra } cs

def addWeight (weight : Int) : Subtree → Subtree
  | .node i cs => .node { i with weight := i.weight + weight } cs

/-- How many nodes of the syntax tree a tree brings, runs of errors counted too. -/
def nodeCount (g : Flat) (t : Subtree) : Nat :=
  t.info.descendants + (if t.visible g then 1 else 0) +
    (if t.symbol = errorRunSymbol g then 1 else 0)

/-- Add one child to the summary of a tree; `place` counts the children that are no extras. -/
def addChild (g : Flat) (steps : Array Step) (acc : Info × Nat) (child : Subtree) : Info × Nat :=
  let (i, place) := acc
  let c := child.info
  let isRun := c.symbol = errorRunSymbol g
  let inError := i.symbol = errorSymbol g || i.symbol = errorRunSymbol g
  let bare := child.children.isEmpty
  let skipped :=
    if inError && !c.extra && !(child.isError g && bare) then
      if child.visible g then costs.skippedTree
      else if !bare then costs.skippedTree * c.visibleChildren
      else 0
    else 0
  let shown := !c.extra && ((steps[place]?).elim false (·.shown.isSome)) || child.visible g
  let i := { i with
    cost := i.cost + (if isRun then 0 else child.cost) + skipped
    weight := i.weight + c.weight
    descendants := i.descendants + c.descendants + (if shown then 1 else 0)
    visibleChildren := i.visibleChildren +
      (if shown then 1 else if bare then 0 else c.visibleChildren) }
  (i, if c.extra then place else place + 1)

/-- A tree from its children. An error costs a recovery and the text that it covers. -/
def build (g : Flat) (text : Text) (symbol : Nat) (production : Option Nat)
    (children : List Subtree) (position : Nat) : Subtree :=
  let lead := (children.head?.map (·.info.lead)).getD position
  let start := (children.head?.map (·.info.start)).getD position
  let stop := (children.getLast?.map (·.info.stop)).getD position
  let steps := (production.bind (g.productions[·]?)).elim #[] (·.steps)
  let (i, _) := children.foldl (addChild g steps)
    ({ symbol, production, lead, start, stop }, 0)
  let inError := symbol = errorSymbol g || symbol = errorRunSymbol g
  let own := if inError then
      costs.recovery + costs.skippedByte * text.bytesBetween start stop +
        costs.skippedRow * text.rowsBetween start stop
    else 0
  .node { i with cost := i.cost + own } children

mutual

/-- Compare two trees by symbols and numbers of children, outside in. -/
def compare : Subtree → Subtree → Ordering
  | .node a as, .node b bs =>
    match Ord.compare a.symbol b.symbol with
    | .eq => match Ord.compare as.length bs.length with
      | .eq => compareAll as bs
      | o => o
    | o => o

def compareAll : List Subtree → List Subtree → Ordering
  | a :: as, b :: bs => match compare a b with
    | .eq => compareAll as bs
    | o => o
  | _, _ => .eq

end

/-- Whether `right` is the better reading of the same text: fewer errors, then more weight, then the
symbols that come first. -/
def prefers (left right : Subtree) : Bool :=
  if right.cost < left.cost then true
  else if left.cost < right.cost then false
  else if right.info.weight > left.info.weight then true
  else if left.info.weight > right.info.weight then false
  else if left.cost > 0 then true
  else compare left right = .gt

def splitExtras (ts : List Subtree) : List Subtree × List Subtree :=
  let trailing := (ts.reverse.takeWhile (·.extra)).reverse
  (ts.take (ts.length - trailing.length), trailing)

/-- Whether two trees may stand for each other below one state. -/
def equivalent (a b : Subtree) : Bool :=
  a.symbol = b.symbol &&
    ((a.cost > 0 && b.cost > 0) ||
      (a.info.lead = b.info.lead && a.info.start = b.info.start && a.info.stop = b.info.stop &&
        a.children.length = b.children.length && a.extra = b.extra))

end Subtree

end SchemaGen.Parsing
