import SchemaGen.Grammar.Grouping

namespace SchemaGen.Grammar

/-- What to do with a token in a state. A repetition's shift is only there to show that the token
could be read; the reduction beside it is always preferred. -/
inductive Action where
  | shift (target : Nat) (repetition : Bool)
  | reduce (production : Nat)
  | skipExtra
  | recover
  | accept
  deriving DecidableEq, Inhabited

/-- The states of one group as one: what they have in common and what any of them does. -/
structure Row where
  core : Nat
  conduct : Conduct
  tokens : TokenSet
  targets : Array Nat
  deriving Inhabited

/-- A parse table. Row 0 belongs to no state, row 1 to the start. -/
structure Table where
  cores : Cores
  rows : Array Row

namespace Table

def rowOf (states : Array State) (conducts : Array Conduct) (g : Grouping) (group : Array Nat) :
    Row :=
  match group[0]? with
  | none => default
  | some i =>
    let s := states.getD i default
    let c := conducts.getD i default
    let reduces := group.foldl (fun acc j =>
      acc.zipWith (· ||| ·) (conducts.getD j default).reduces) c.reduces
    let conduct := { c with reduces }
    { core := s.core, conduct
      tokens := group.foldl (fun acc j => acc ||| (conducts.getD j default).tokens) 0
      targets := s.targets.map fun t => g.groupOf.getD t 0 + 1 }

def ofFlat (flat : Flat) (lexicon : Lexicon) : Table :=
  let cores := Cores.ofItems (Items.ofFlat flat)
  let states := State.ofCores cores
  let conducts := Conduct.ofStates cores states
  let g := Grouping.ofStates cores lexicon states conducts
  { cores, rows := #[default] ++ g.groups.map (rowOf states conducts g) }

def flat (t : Table) : Flat := t.cores.items.flat

def row (t : Table) (state : Nat) : Row := t.rows.getD state default

/-- The tokens that a state has an action for, extras apart. -/
def tokens (t : Table) (state : Nat) : TokenSet := (t.row state).tokens

/-- The state that a move by a symbol leads to; 0 if there is none. -/
def target (t : Table) (state symbol : Nat) : Nat :=
  let row := t.row state
  match (t.cores.get row.core).moveOf[symbol]? with
  | some i => row.targets.getD i 0
  | none => 0

/-- The actions of a state for a token: reductions first. Where the whole program is complete it is
accepted. -/
def actions (t : Table) (state token : Nat) : List Action :=
  let row := t.row state
  let core := t.cores.get row.core
  if !row.tokens.testBit token then
    if t.flat.extras.contains token then [.skipExtra] else []
  else
    let reductions := (core.completions.zip row.conduct.reduces).toList.filterMap
      fun ((item, _), tokens) =>
        if tokens.testBit token then
          some ((t.cores.items.production[item]?).elim .accept .reduce)
        else none
    if row.conduct.reads.testBit token then
      reductions ++ [.shift (t.target state token) (row.conduct.repeats.testBit token)]
    else reductions

end Table

end SchemaGen.Grammar
