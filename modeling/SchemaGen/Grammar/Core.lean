import SchemaGen.Grammar.Item
import SchemaGen.Grammar.Production

namespace SchemaGen.Grammar

/-- The members of a set of numbers. -/
def places (n : Nat) : List Nat := if n = 0 then [] else (List.range (n.log2 + 1)).filter n.testBit

/-- Where the tokens that may follow an item come from: some are fixed, the others are those that
follow the items at some places of the core. -/
structure Origin where
  fixed : TokenSet
  inherited : List Nat
  deriving Inhabited

/-- The tokens that come from an origin in a state with the given followers. -/
def Origin.tokens (o : Origin) (following : Array TokenSet) : TokenSet :=
  o.inherited.foldl (fun acc i => acc ||| following.getD i 0) o.fixed

/-- The step from a core to another one by a symbol; for each item there the number of its origin. -/
structure Move where
  symbol : Nat
  target : Nat
  origins : Array Nat
  /-- Whether no follower is inherited, so that the move leads to the same state from everywhere. -/
  isFixed : Bool
  deriving Inhabited

/-- A set of items and the moves out of it. The tokens that may follow are left out. -/
structure Core where
  kernel : Array Nat
  origins : Array Origin
  /-- The moves in the order of their symbols, and where to find the one by a symbol. -/
  moves : Array Move
  moveOf : Std.HashMap Nat Nat
  /-- The complete items, each with the number of its origin, from the shortest production to the
  longest. -/
  completions : Array (Nat × Nat)
  /-- The tokens among the symbols of the moves. -/
  tokens : TokenSet
  deriving Inhabited

/-- An item with the fixed tokens and the set of places that its followers come from. -/
abbrev Reached := Nat × TokenSet × Nat

namespace Core

def join (found : Array Reached) : Array Reached :=
  (found.qsort fun x y => x.1 < y.1).foldl (fun acc x => match acc.back? with
    | some last =>
      if last.1 = x.1 then acc.pop.push (x.1, last.2.1 ||| x.2.1, last.2.2 ||| x.2.2)
      else acc.push x
    | none => acc.push x) #[]

/-- The rules that can begin in a set of items: for every rule the tokens and the places that its
followers come from; both are empty for the other rules. -/
def beginnings (a : Items) (kernel : Array Nat) : Array (TokenSet × Nat) :=
  let count := a.flat.symbols.size - a.flat.tokenCount
  let visit (acc : Array (TokenSet × Nat)) (item place : Nat) :=
    match a.nextSymbol item with
    | none => acc
    | some s =>
      if s < a.flat.tokenCount then acc else
      let (fixed, inherited) := match a.nextSymbol (item + 1) with
        | some t => (a.first.getD t 0, 0)
        | none => (0, 1 <<< place)
      (a.leading.getD (s - a.flat.tokenCount) #[]).foldl (fun acc (r, tokens, whole) =>
        acc.modify r fun (f, i) =>
          if whole then (f ||| tokens ||| fixed, i ||| inherited) else (f ||| tokens, i)) acc
  (kernel.foldl (fun (acc, place) item => (visit acc item place, place + 1))
    (Array.replicate count (0, 0), 0)).1

/-- The items after each symbol that can be read next in a set of items. -/
def successors (a : Items) (kernel : Array Nat) (begins : Array (TokenSet × Nat)) :
    Array (Array Reached) :=
  let moved := (kernel.foldl (fun (acc, place) item => match a.nextSymbol item with
    | some s => (acc.modify s (·.push (a.after item, 0, 1 <<< place)), place + 1)
    | none => (acc, place + 1))
    ((Array.replicate a.flat.symbols.size #[] : Array (Array Reached)), 0)).1
  (begins.foldl (fun (acc, r) (fixed, inherited) =>
    if fixed = 0 && inherited = 0 then (acc, r + 1)
    else ((a.openings.getD r #[]).foldl (fun acc (s, item) =>
      acc.modify s (·.push (item, fixed, inherited))) acc, r + 1)) (moved, 0)).1

def complete (a : Items) (kernel : Array Nat) (begins : Array (TokenSet × Nat)) :
    Array Reached :=
  let empties := (begins.foldl (fun (acc, r) (fixed, inherited) =>
    match a.silent.getD r none with
    | some p =>
      if fixed = 0 && inherited = 0 then (acc, r + 1)
      else (acc.push (a.start.getD p 0, fixed, inherited), r + 1)
    | none => (acc, r + 1)) ((#[] : Array Reached), 0)).1
  let whole := (kernel.foldl (fun (acc, place) item =>
    if (a.nextSymbol item).isNone then
      (acc.push (item, 0, 1 <<< place), place + 1)
    else (acc, place + 1)) ((#[] : Array Reached), 0)).1
  let rank (x : Reached) := (a.place.getD x.1 0, (a.productionOf x.1).head)
  empties ++ whole.insertionSort fun x y =>
    (rank x).1 < (rank y).1 || ((rank x).1 = (rank y).1 && (rank x).2 < (rank y).2)

end Core

/-- All cores of a grammar. The first is that of the start. -/
structure Cores where
  items : Items
  all : Array Core

namespace Cores

def get (c : Cores) (core : Nat) : Core := c.all.getD core default

/-- The core of a kernel; kernels that its moves lead to are added. -/
def expand (a : Items) (kernel : Array Nat) (kernels : Numbering (Array Nat)) :
    Core × Numbering (Array Nat) :=
  let begins := Core.beginnings a kernel
  let next := Core.successors a kernel begins
  let number (origins : Numbering (TokenSet × Nat)) (xs : Array Reached) :=
    xs.foldl (fun (numbers, origins) (_, o) =>
      let (n, origins) := origins.number o
      (numbers.push n, origins)) ((#[] : Array Nat), origins)
  let step (acc : Array Move × Nat × Numbering (TokenSet × Nat) × Numbering (Array Nat))
      (found : Array Reached) :=
    let (moves, symbol, origins, kernels) := acc
    if found.isEmpty then (moves, symbol + 1, origins, kernels) else
    let joined := Core.join found
    let (target, kernels) := kernels.number (joined.map (·.1))
    let (numbers, origins) := number origins joined
    let isFixed := joined.all fun x => x.2.2 = 0
    (moves.push ⟨symbol, target, numbers, isFixed⟩, symbol + 1, origins, kernels)
  let (moves, _, origins, kernels) := next.foldl step (#[], 0, {}, kernels)
  let complete := Core.complete a kernel begins
  let (numbers, origins) := number origins complete
  let moveOf := (moves.foldl (fun (m, i) (move : Move) => (m.insert move.symbol i, i + 1))
    (({} : Std.HashMap Nat Nat), 0)).1
  let tokens := moves.foldl (fun acc m =>
    if m.symbol < a.flat.tokenCount then acc ||| (1 <<< m.symbol) else acc) 0
  ({ kernel, moves, moveOf, tokens
     origins := origins.values.map fun (fixed, inherited) => ⟨fixed, places inherited⟩
     completions := (complete.zip numbers).map fun (x, n) => (x.1, n) }, kernels)

def limit : Nat := 1000000

def ofItems (a : Items) : Cores :=
  let rec explore : Nat → Array Core → Numbering (Array Nat) → Array Core
    | 0, cores, _ => cores
    | fuel + 1, cores, kernels =>
      match kernels.values[cores.size]? with
      | none => cores
      | some kernel =>
        let (core, kernels) := expand a kernel kernels
        explore fuel (cores.push core) kernels
  ⟨a, explore limit #[] (({} : Numbering (Array Nat)).number #[a.wholeProgram]).2⟩

end Cores

end SchemaGen.Grammar
