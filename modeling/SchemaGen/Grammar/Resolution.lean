import SchemaGen.Grammar.Item

namespace SchemaGen.Grammar

structure Strength where
  precedence : Precedence
  heads : List Nat

namespace Strength

/-- Whether a rank stands for a precedence or, failing that, for one of the rules. -/
def hasRank (g : Flat) (s : Strength) : Rank → Bool
  | .name n => s.precedence = .named n
  | .rule n => s.heads.any fun h => (g.symbols[h]?).elim false (·.name = n)

/-- Compare two strengths within one ordering, if it ranks both: the one that comes first is the
stronger. -/
def compareIn (g : Flat) (left right : Strength) (ordering : List Rank) : Option Ordering :=
  let step (acc : Bool × Bool × Option Ordering) (r : Rank) :=
    let (sawLeft, sawRight, found) := acc
    if found.isSome then acc
    else if left.hasRank g r then (true, sawRight, if sawRight then some .lt else none)
    else if right.hasRank g r then (sawLeft, true, if sawLeft then some .gt else none)
    else acc
  (ordering.foldl step (false, false, none)).2.2

/-- Compare two strengths. Numbers compare with numbers, no precedence being zero; all else compares
by the first ordering that ranks both. -/
def compare (g : Flat) (left right : Strength) : Ordering :=
  let byName := (g.orderings.findSome? (compareIn g left right)).getD .eq
  match left.precedence, right.precedence with
  | .level a, .level b => if a ≠ 0 ∨ b ≠ 0 then Ord.compare a b else byName
  | .level a, .unset => if a ≠ 0 then Ord.compare a 0 else byName
  | .unset, .level b => if b ≠ 0 then Ord.compare 0 b else byName
  | _, _ => byName

end Strength

namespace Items

def strength (a : Items) (item : Nat) : Strength :=
  ⟨(a.lastStep? item).elim .unset (·.precedence), [(a.productionOf item).head]⟩

end Items

/-- The reductions that are possible for a token, as items, with how strongly they bind and how they
associate. -/
structure Reductions where
  items : List Nat := []
  strength : Strength := ⟨.unset, []⟩
  left : Bool := false
  right : Bool := false
  neither : Bool := false

def Reductions.add (a : Items) (r : Reductions) (item : Nat) : Reductions :=
  let mine := a.strength item
  let note (r : Reductions) : Reductions :=
    let heads := r.strength.heads ++ mine.heads.filter (!r.strength.heads.contains ·)
    let r := { r with items := r.items ++ [item], strength := ⟨mine.precedence, heads⟩ }
    match (a.lastStep? item).bind (·.associativity) with
    | some .left => { r with left := true }
    | some .right => { r with right := true }
    | none => { r with neither := true }
  if r.items.isEmpty then note r
  else match mine.compare a.flat r.strength with
    | .gt => note {}
    | .eq => note r
    | .lt => r

/-- What is left of the ways to go on with a token: reading it, and some reductions. The reading of a
repetition only shows that the token could be read; the reduction beside it is always preferred. -/
structure Verdict where
  reads : Bool
  repetition : Bool := false
  reductions : List Nat
  deriving Inhabited

/-- Choose between reading a token and reducing before it. `kernel` has the items of the state, and
`complete` those that could be reduced before the token, in order. -/
def resolve (a : Items) (kernel : Array Nat) (token : Nat) (reads : Bool) (complete : List Nat) :
    Verdict :=
  let r := complete.foldl (·.add a ·) ({} : Reductions)
  if !reads then ⟨false, false, r.items⟩
  else if r.items.isEmpty then ⟨true, false, []⟩
  else
    let reading := kernel.toList.filter fun item => match a.nextSymbol item with
      | some symbol => item < a.wholeProgram && (a.first.getD symbol 0).testBit token
      | none => false
    let reducing := complete.filter (kernel.contains ·)
    let heads := (reading ++ reducing).map fun item => (a.productionOf item).head
    let isRepetition := match heads with
      | [] => false
      | h :: rest => ((a.flat.symbols[h]?).elim false (·.auxiliary)) && rest.all (· = h)
    if isRepetition then ⟨true, true, r.items⟩
    else
      let verdicts := reading.map fun item => (a.strength item).compare a.flat r.strength
      match verdicts.contains .gt, verdicts.contains .lt with
      | true, false => ⟨true, false, []⟩
      | false, true => ⟨false, false, r.items⟩
      | true, true => ⟨true, false, r.items⟩
      | false, false =>
        if r.left && !r.right && !r.neither then ⟨false, false, r.items⟩
        else if r.right && !r.left && !r.neither then ⟨true, false, []⟩
        else ⟨true, false, r.items⟩

end SchemaGen.Grammar
