import SchemaGen.Grammar.Core
import SchemaGen.Grammar.Resolution

namespace SchemaGen.Grammar

/-- What tells a state from the others: its core and what may follow each item of the core, as numbers
of token sets. -/
structure Seed where
  core : Nat
  following : Array Nat
  deriving DecidableEq, Hashable, Inhabited

/-- A state, with the tokens that may follow at each origin of its core and the states that the moves
of its core lead to. -/
structure State where
  core : Nat
  origins : Array TokenSet
  targets : Array Nat
  deriving Inhabited

namespace State

/-- States and token sets found so far. A token set goes with its residue, which tells most sets
apart. `shared` has for every core the targets of its fixed moves. -/
structure Search where
  seeds : Numbering Seed
  sets : Numbering (Nat × TokenSet)
  shared : Array (Array (Option Nat))

def residue (t : TokenSet) : Nat × TokenSet := (t % 0x1fffffffffffffff, t)

def originsOf (core : Core) (following : Array TokenSet) (sets : Numbering (Nat × TokenSet)) :
    Array TokenSet × Array Nat × Numbering (Nat × TokenSet) :=
  core.origins.foldl (fun (tokens, numbers, sets) o =>
    let t := o.tokens following
    let (n, sets) := sets.number (residue t)
    (tokens.push t, numbers.push n, sets)) (#[], #[], sets)

def targetsOf (core : Core) (numbers : Array Nat) (shared : Array (Option Nat))
    (seeds : Numbering Seed) : Array Nat × Array (Option Nat) × Numbering Seed :=
  core.moves.foldl (fun (targets, shared, seeds) move =>
    match shared.getD targets.size none with
    | some n => (targets.push n, shared, seeds)
    | none =>
      let (n, seeds) := seeds.number ⟨move.target, move.origins.map (numbers.getD · 0)⟩
      let shared := if move.isFixed then shared.set! targets.size (some n) else shared
      (targets.push n, shared, seeds)) (#[], shared, seeds)

/-- Complete a seed to a state; states that its moves lead to are added. -/
def expand (c : Cores) (seed : Seed) (search : Search) : State × Search :=
  match search with
  | ⟨seeds, sets, shared⟩ =>
    let core := c.get seed.core
    let following := seed.following.map fun n => (sets.values.getD n (0, 0)).2
    let (origins, numbers, sets) := originsOf core following sets
    let mine := shared.getD seed.core #[]
    let shared := shared.set! seed.core #[]
    let (targets, mine, seeds) := targetsOf core numbers mine seeds
    (⟨seed.core, origins, targets⟩, ⟨seeds, sets, shared.set! seed.core mine⟩)

def limit : Nat := 10000000

/-- All states. The first is the start, and states are numbered in the order in which they are
reached. -/
def ofCores (c : Cores) : Array State :=
  let rec explore : Nat → Array State → Search → Array State
    | 0, states, _ => states
    | fuel + 1, states, search =>
      match search.seeds.values[states.size]? with
      | none => states
      | some seed =>
        let (s, search) := expand c seed search
        explore fuel (states.push s) search
  let (atEnd, sets) := ({} : Numbering (Nat × TokenSet)).number (residue 1)
  explore limit #[] ⟨(({} : Numbering Seed).number ⟨0, #[atEnd]⟩).2, sets,
    c.all.map fun core => Array.replicate core.moves.size none⟩

end State

/-- The actions of a state as sets of tokens: those that it reads, those of them that it reads only
in a repetition, and for every completion of its core those that it is reduced before. -/
structure Conduct where
  reads : TokenSet
  repeats : TokenSet
  reduces : Array TokenSet
  deriving Inhabited

namespace Conduct

def tokens (c : Conduct) : TokenSet := c.reduces.foldl (· ||| ·) c.reads

/-- Verdicts on the tokens that certain rivals compete for, as sets: the tokens ruled on so far, and
those of them that stay with each rival. -/
structure Ruling where
  decided : TokenSet
  reads : TokenSet
  repeats : TokenSet
  reduces : List TokenSet
  deriving Inhabited

/-- Rulings by core, whether reading competes, and the competing completions. -/
abbrev Rulings := Std.HashMap (Nat × Bool × List Nat) Ruling

def Ruling.add (c : Cores) (core : Core) (reads : Bool) (rivals : List Nat) (r : Ruling)
    (token : Nat) : Ruling :=
  let items := rivals.map fun i => (core.completions.getD i (0, 0)).1
  let verdict := resolve c.items core.kernel token reads items
  let mark (b : Bool) (t : TokenSet) : TokenSet := if b then t ||| (1 <<< token) else t
  { decided := mark true r.decided
    reads := mark verdict.reads r.reads
    repeats := mark verdict.repetition r.repeats
    reduces := List.zipWith (fun item t => mark (verdict.reductions.contains item) t)
      items r.reduces }

/-- Tokens by who competes for them: whether they are read, and the completions. -/
def contests (reads : TokenSet) (reduces : Array TokenSet) : List (Bool × List Nat × TokenSet) :=
  let all := reduces.foldl (· ||| ·) 0
  let both := all &&& reads
  let split (acc : List (Bool × List Nat × TokenSet) × Nat) (t : TokenSet) :=
    (acc.1.flatMap fun (b, rivals, tokens) =>
      let inside := tokens &&& t
      let outside := tokens ^^^ inside
      (if inside = 0 then [] else [(b, rivals ++ [acc.2], inside)]) ++
        (if outside = 0 then [] else [(b, rivals, outside)]), acc.2 + 1)
  let classes := (reduces.foldl split ([(true, [], both), (false, [], all ^^^ both)], 0)).1
  classes.filter fun (b, rivals, tokens) => tokens ≠ 0 && (b || 1 < rivals.length)

/-- Give the tokens of one contest to those that they stay with. -/
def settle (c : Cores) (number : Nat) (core : Core) (acc : Conduct × Rulings)
    (contest : Bool × List Nat × TokenSet) : Conduct × Rulings :=
  let (conduct, rulings) := acc
  let (reads, rivals, tokens) := contest
  let key := (number, reads, rivals)
  let known := rulings.getD key ⟨0, 0, 0, rivals.map fun _ => 0⟩
  let missing := tokens ^^^ (tokens &&& known.decided)
  let ruling := (places missing).foldl (·.add c core reads rivals) known
  let rulings := if missing = 0 then rulings else rulings.insert key ruling
  let keep (before kept : TokenSet) : TokenSet :=
    (before ^^^ (before &&& tokens)) ||| (tokens &&& kept)
  let conduct : Conduct :=
    { reads := if reads then keep conduct.reads ruling.reads else conduct.reads
      repeats := conduct.repeats ||| (tokens &&& ruling.repeats)
      reduces := (rivals.zip ruling.reduces).foldl (fun rs (i, kept) =>
        rs.modify i (keep · kept)) conduct.reduces }
  (conduct, rulings)

def ofState (c : Cores) (s : State) (rulings : Rulings) : Conduct × Rulings :=
  let core := c.get s.core
  let reduces := core.completions.map fun (_, origin) => s.origins.getD origin 0
  (contests core.tokens reduces).foldl (settle c s.core core) (⟨core.tokens, 0, reduces⟩, rulings)

def ofStates (c : Cores) (states : Array State) : Array Conduct :=
  ((states.mapM fun s => (modifyGet (ofState c s) : StateM Rulings Conduct)).run {}).1

end Conduct

end SchemaGen.Grammar
