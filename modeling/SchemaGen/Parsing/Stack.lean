import SchemaGen.Parsing.Subtree

namespace SchemaGen.Parsing

open SchemaGen.Grammar

/-- A way down from a node. Without a tree it marks the place where an error began. -/
structure Link where
  below : Nat
  tree : Option Subtree
  deriving Inhabited

structure StackNode where
  state : Nat
  links : Array Link
  position : Nat
  cost : Nat
  count : Nat
  weight : Int
  deriving Inhabited

/-- A state that was on the stack when an error was found. -/
structure Ancestor where
  state : Nat
  depth : Nat
  position : Nat
  deriving Inhabited

inductive Status where
  | active
  | paused (lookahead : Subtree)
  | halted
  deriving Inhabited

structure Version where
  node : Nat
  /-- The node count when the last error was found. -/
  countAtError : Nat := 0
  status : Status := .active
  ancestors : Option (Array Ancestor) := none
  deriving Inhabited

structure Slice where
  version : Nat
  trees : List Subtree

/-- A graph: a node holds a state of the automaton, and each of its links leads to the node below and carries
the tree between the two. A version is one top of the graph. -/
structure Stack where
  nodes : Array StackNode
  versions : Array Version

namespace Stack

/-- How many links a node can have, how many ways down are followed at once and how deep the
ancestors of an error are noted. -/
structure Limits where
  links : Nat := 8
  ways : Nat := 64
  ancestors : Nat := 16

def limits : Limits := {}

def errorState : Nat := 0

def startState : Nat := 1

def initial : Stack :=
  { nodes := #[⟨startState, #[], 0, 0, 0, 0⟩], versions := #[{ node := 0 }] }

def version (s : Stack) (v : Nat) : Version := s.versions.getD v default

def node (s : Stack) (n : Nat) : StackNode := s.nodes.getD n default

def top (s : Stack) (v : Nat) : StackNode := s.node (s.version v).node

def state (s : Stack) (v : Nat) : Nat := (s.top v).state

def position (s : Stack) (v : Nat) : Nat := (s.top v).position

def isActive (s : Stack) (v : Nat) : Bool :=
  match (s.version v).status with
  | .active => true
  | _ => false

def isPaused (s : Stack) (v : Nat) : Bool :=
  match (s.version v).status with
  | .paused _ => true
  | _ => false

def isHalted (s : Stack) (v : Nat) : Bool :=
  match (s.version v).status with
  | .halted => true
  | _ => false

def haltedCount (s : Stack) : Nat :=
  (List.range s.versions.size).countP s.isHalted

/-- What a version has cost so far, an error that it is about to handle included. -/
def cost (s : Stack) (v : Nat) : Nat :=
  let n := s.top v
  let fresh := n.state = errorState && (n.links[0]?).elim false (·.tree.isNone)
  n.cost + (if s.isPaused v || fresh then costs.recovery else 0)

def setVersion (s : Stack) (v : Nat) (f : Version → Version) : Stack :=
  { s with versions := s.versions.modify v f }

/-- How many nodes a version has made since its last error. If it has fewer nodes than it had then,
the count starts again from these. -/
def countSinceError (s : Stack) (v : Nat) : Nat × Stack :=
  let count := (s.top v).count
  let before := (s.version v).countAtError
  if count < before then (0, s.setVersion v fun h => { h with countAtError := count })
  else (count - before, s)

def halt (s : Stack) (v : Nat) : Stack := s.setVersion v fun h => { h with status := .halted }

def remove (s : Stack) (v : Nat) : Stack :=
  { s with versions := (s.versions.toList.eraseIdx v).toArray }

/-- Put a version into the place of an earlier one. -/
def renumber (s : Stack) (source target : Nat) : Stack :=
  if source = target then s else
  let h := s.version source
  let h := { h with ancestors := h.ancestors <|> (s.version target).ancestors }
  (s.setVersion target fun _ => h).remove source

def swap (s : Stack) (v w : Nat) : Stack :=
  let a := s.version v
  let b := s.version w
  (s.setVersion v fun _ => b).setVersion w fun _ => a

/-- Add a copy of a version; its number is the old number of versions. -/
def copy (s : Stack) (v : Nat) : Stack :=
  let h := s.version v
  { s with versions := s.versions.push { h with ancestors := none } }

def pause (s : Stack) (v : Nat) (lookahead : Subtree) : Stack :=
  let count := (s.top v).count
  s.setVersion v fun h => { h with status := .paused lookahead, countAtError := count }

def push (g : Flat) (s : Stack) (v : Nat) (tree : Option Subtree) (state : Nat) : Stack :=
  let below := (s.version v).node
  let n := s.node below
  let pushed : StackNode := match tree with
    | none => { n with state, links := #[⟨below, none⟩] }
    | some t =>
      { state, links := #[⟨below, tree⟩], position := t.info.stop, cost := n.cost + t.cost
        count := n.count + t.nodeCount g, weight := n.weight + t.info.weight }
  let number := s.nodes.size
  let s := { s with nodes := s.nodes.push pushed }
  s.setVersion v fun h => { h with
    node := number
    countAtError := if tree.isNone then pushed.count else h.countAtError }

/-- Whether two links say the same of what lies between two nodes. -/
def sameTree : Option Subtree → Option Subtree → Bool
  | none, none => true
  | some a, some b => a.equivalent b
  | _, _ => false

def setNode (s : Stack) (n : Nat) (f : StackNode → StackNode) : Stack :=
  { s with nodes := s.nodes.modify n f }

/-- The first of `links` that stands for the same tree as `link` and leads to the same node, or to
one that it can be merged with. -/
def findTwin (s : Stack) (link : Link) (links : Array Link) : Option (Nat × Bool) :=
  let below := s.node link.below
  (List.range links.size).findSome? fun i =>
    let other := links.getD i default
    if !sameTree other.tree link.tree then none
    else if other.below = link.below then some (i, true)
    else
      let n := s.node other.below
      if n.state = below.state && n.position = below.position && n.cost = below.cost then
        some (i, false)
      else none

/-- Add a link to a node, joining it with one that stands for the same. -/
def addLink (g : Flat) (s : Stack) (n : Nat) (link : Link) : Nat → Stack
  | 0 => s
  | fuel + 1 =>
    if link.below = n then s else
    let self := s.node n
    let below := s.node link.below
    let weight := below.weight + (link.tree.elim 0 (·.info.weight))
    match s.findTwin link self.links with
    | some (i, true) =>
      let old := (self.links.getD i default).tree.elim 0 (·.info.weight)
      if old < link.tree.elim 0 (·.info.weight) then
        s.setNode n fun x => { x with links := x.links.set! i link, weight }
      else s
    | some (i, false) =>
      let twin := (self.links.getD i default).below
      let s := below.links.foldl (fun s l => addLink g s twin l fuel) s
      s.setNode n fun x => { x with weight := max x.weight weight }
    | none =>
      if self.links.size ≥ limits.links then s else
      let count := below.count + link.tree.elim 0 (·.nodeCount g)
      s.setNode n fun x => { x with
        links := x.links.push link
        count := max x.count count
        weight := max x.weight weight }

def canMerge (s : Stack) (v w : Nat) : Bool :=
  let a := s.top v
  let b := s.top w
  s.isActive v && s.isActive w && a.state = b.state && a.position = b.position && a.cost = b.cost

/-- Join version `w` into version `v` if both are in the same state at the same place; tells whether
they were. -/
def merge (g : Flat) (s : Stack) (v w : Nat) : Stack × Bool :=
  if !s.canMerge v w then (s, false) else
  let n := (s.version v).node
  let links := (s.top w).links
  let fuel := s.nodes.size + 1
  let s := links.foldl (fun s l => addLink g s n l fuel) s
  let s := if s.state v = errorState then
      let count := (s.top v).count
      s.setVersion v fun h => { h with countAtError := count }
    else s
  (s.remove w, true)

/-- A way down from the top: the node reached, the trees passed and how many of them count. -/
structure Way where
  node : Nat
  trees : List Subtree
  depth : Nat

/-- What to do at a node on the way down. -/
inductive Verdict where
  | take
  | leave
  | goOn
  deriving DecidableEq

def Way.along (w : Way) (l : Link) : Way :=
  match l.tree with
  | none => { w with node := l.below, depth := w.depth + 1 }
  | some t => ⟨l.below, t :: w.trees, if t.extra then w.depth else w.depth + 1⟩

/-- Follow all ways down, one link at a time; a way that is taken, left or at the bottom ends. The
state of the visitor is threaded through. -/
def descend {σ : Type} (s : Stack) (visit : σ → Way → Verdict × σ) :
    Nat → List Way → σ → List Way × σ
  | 0, _, x => ([], x)
  | _, [], x => ([], x)
  | fuel + 1, ways, x =>
    let step (acc : List Way × List Way × List Way × σ) (w : Way) :=
      let (taken, going, forks, x) := acc
      let (verdict, x) := visit x w
      let links := (s.node w.node).links.toList
      match verdict, links with
      | .take, _ => (w :: taken, going, forks, x)
      | .leave, _ | .goOn, [] => (taken, going, forks, x)
      | .goOn, l :: others =>
        let more := others.map w.along
        (taken, w.along l :: going, more.reverse ++ forks, x)
    let (taken, going, forks, x) := ways.foldl step ([], [], [], x)
    let ways := (going.reverse ++ forks.reverse).take limits.ways
    let (later, x) := descend s visit fuel ways x
    (taken.reverse ++ later, x)

/-- Start a way at the top of a version and follow it; no way has more links than there are
nodes. -/
def walk {σ : Type} (s : Stack) (v : Nat) (visit : σ → Way → Verdict × σ) (x : σ) :
    List Way × σ :=
  descend s visit (s.nodes.size + 1) [⟨(s.version v).node, [], 0⟩] x

/-- Make a version for each node that the ways end in; ways to the same node share it. -/
def slices (s : Stack) (v : Nat) (ways : List Way) : List Slice × Stack :=
  let base := s.version v
  let step (acc : List (Slice × Nat) × Stack) (w : Way) : List (Slice × Nat) × Stack :=
    match acc.1.reverse.find? (·.2 = w.node) with
    | some (twin, _) =>
      let lastTwin := acc.1.length - 1 -
        ((acc.1.reverse.findIdx? (·.2 = w.node)).getD 0)
      (acc.1.take (lastTwin + 1) ++ [(⟨twin.version, w.trees⟩, w.node)] ++
        acc.1.drop (lastTwin + 1), acc.2)
    | none =>
      let number := acc.2.versions.size
      let added : Version := { node := w.node, countAtError := base.countAtError }
      (acc.1 ++ [(⟨number, w.trees⟩, w.node)],
        { acc.2 with versions := acc.2.versions.push added })
  let (found, s) := ways.foldl step ([], s)
  (found.map (·.1), s)

/-- Take trees off a version until `count` of them are no extras. -/
def popCount (s : Stack) (v count : Nat) : List Slice × Stack :=
  let (ways, _) := s.walk v (fun (_ : Unit) w =>
    (if w.depth = count then .take else .goOn, ())) ()
  s.slices v ways

def popAll (s : Stack) (v : Nat) : List Slice × Stack :=
  let (ways, _) := s.walk v (fun (_ : Unit) w =>
    (if (s.node w.node).links.isEmpty then .take else .goOn, ())) ()
  s.slices v ways

/-- Take off the error at the top of a version, if there is one. -/
def popError (g : Flat) (s : Stack) (v : Nat) : List Subtree × Stack :=
  if (s.top v).links.any fun l => l.tree.elim false (·.isError g) then
    let (ways, _) := s.walk v (fun found w => match w.trees with
      | [] => (.goOn, found)
      | t :: _ => if !found && t.isError g then (.take, true) else (.leave, found)) false
    match s.slices v ways with
    | (slice :: _, s) => (slice.trees, s.renumber slice.version v)
    | ([], s) => ([], s)
  else ([], s)

/-- Note the states below the top of a version, nearest first. -/
def noteAncestors (s : Stack) (v : Nat) : Stack :=
  let visit (found : Array Ancestor) (w : Way) :=
    if w.depth > limits.ancestors then (Verdict.leave, found) else
    let n := s.node w.node
    if found.any fun a => a.depth = w.depth && a.state = n.state then (.goOn, found)
    else (.goOn, found.push ⟨n.state, w.depth, n.position⟩)
  let (_, found) := s.walk v visit #[]
  s.setVersion v fun h => { h with ancestors := some found }

/-- Whether a version has read any text since its last error. -/
def hasAdvanced (s : Stack) (v : Nat) : Bool :=
  let countAtError := (s.version v).countAtError
  let rec go : Nat → StackNode → Bool
    | 0, _ => false
    | fuel + 1, n =>
      match n.links[0]?.bind fun l => l.tree.map fun t => (l.below, t) with
      | some (below, t) =>
        if t.info.lead < t.info.stop then true
        else if countAtError < n.count && t.cost = 0 then go fuel (s.node below)
        else false
      | none => false
  let n := s.top v
  n.cost = 0 || go (s.nodes.size + 1) n

end Stack

end SchemaGen.Parsing
