import SchemaGen.Grammar.Production

namespace SchemaGen.Grammar

abbrev TokenSet := Nat

/-- What is known of the items of a grammar, worked out once. -/
structure Items where
  flat : Flat
  /-- The number of a production's first item. -/
  start : Array Nat
  /-- For every item its production, its place and the symbol that is read next, if any. -/
  production : Array Nat
  place : Array Nat
  next : Array (Option Nat)
  /-- For every item the first one of the items that it cannot be told from any more. -/
  representative : Array Nat
  /-- For every symbol the tokens that it can start with. -/
  first : Array TokenSet
  /-- For every rule the rules that can stand at its start: each with the tokens that follow it there,
  and whether it can also be the whole rule. Here and below rules are counted from the first rule. -/
  leading : Array (Array (Nat × TokenSet × Bool))
  /-- For every rule its productions by their first symbol: the symbol and the item after it. -/
  openings : Array (Array (Nat × Nat))
  /-- For every rule its production without symbols, if it has one. -/
  silent : Array (Option Nat)

namespace Items

/-- Repeat `step` until it changes nothing, at most `fuel` times. -/
def settle {α : Type} [BEq α] (step : α → α) : Nat → α → α
  | 0, x => x
  | fuel + 1, x => let y := step x; if y == x then x else settle step fuel y

def endSets (g : Flat) (outer : Production → Option Step) : Array TokenSet :=
  let initial := (Array.range g.symbols.size).map fun s =>
    if s < g.tokenCount then 1 <<< s else 0
  let step (sets : Array TokenSet) := g.productions.foldl (fun sets p =>
    match outer p with
    | none => sets
    | some s => sets.modify p.head (· ||| sets.getD s.symbol 0)) sets
  settle step g.symbols.size initial

def firstSets (g : Flat) : Array TokenSet := endSets g (·.steps[0]?)

def lastSets (g : Flat) : Array TokenSet := endSets g (·.steps.back?)

/-- The rules that can stand at the start of a rule, found by following first symbols. -/
def leadingOf (g : Flat) (first : Array TokenSet) (byHead : Array (Array Nat)) (rule : Nat) :
    Array (Nat × TokenSet × Bool) :=
  let count := g.symbols.size - g.tokenCount
  let visit (entry : TokenSet × Bool) (acc : Array (Option (TokenSet × Bool)) × Bool)
      (p : Nat) :=
    let steps := g.productions[p]?.elim #[] (·.steps)
    match steps[0]? with
    | none => acc
    | some s =>
      if s.symbol < g.tokenCount then acc else
      let r := s.symbol - g.tokenCount
      let (more, whole) := match steps[1]? with
        | some t => (first.getD t.symbol 0, false)
        | none => entry
      match acc.1[r]? with
      | some (some (tokens, w)) =>
        if tokens ||| more = tokens && (w || !whole) then acc
        else (acc.1.set! r (some (tokens ||| more, w || whole)), true)
      | _ => (acc.1.set! r (some (more, whole)), true)
  let pass (entries : Array (Option (TokenSet × Bool))) :=
    (List.range count).foldl (fun acc r => match acc.1[r]? with
      | some (some entry) => (byHead.getD r #[]).foldl (visit entry) acc
      | _ => acc) (entries, false)
  let rec loop : Nat → Array (Option (TokenSet × Bool)) → Array (Option (TokenSet × Bool))
    | 0, entries => entries
    | fuel + 1, entries =>
      let (next, changed) := pass entries
      if changed then loop fuel next else next
  let start := (Array.replicate count none).set! (rule - g.tokenCount) (some (0, true))
  let entries := loop (2 * count) start
  ((entries.mapIdx fun r e => e.map fun (tokens, whole) => (r, tokens, whole)).filterMap id)

/-- What still matters of a production that was read up to some place: of the steps behind it only
how they are shown, and of the last one how it binds. -/
def remainder (p : Production) (place : Nat) : Nat × Int × Nat × List Step :=
  let keep (s : Step) (i : Nat) : Step :=
    if place ≤ i then s
    else if i + 1 = place then { s with symbol := 0 }
    else { s with symbol := 0, precedence := .unset, associativity := none }
  (p.head, p.weight, place, p.steps.toList.mapIdx fun i s => keep s i)

def representatives (g : Flat) : Array Nat :=
  let step (acc : Array Nat × Std.HashMap (Nat × Int × Nat × List Step) Nat) (p : Production) :=
    (List.range (p.steps.size + 1)).foldl (fun (found, first) place =>
      let key := remainder p place
      match first[key]? with
      | some item => (found.push item, first)
      | none => (found.push found.size, first.insert key found.size)) acc
  (g.productions.foldl step (#[], {})).1

def ofFlat (g : Flat) : Items :=
  let ruleCount := g.symbols.size - g.tokenCount
  let first := firstSets g
  let byHead := (List.range g.productions.size).foldl (fun acc p =>
    acc.modify ((g.productions[p]?.elim 0 (·.head)) - g.tokenCount) (·.push p))
    (Array.replicate ruleCount #[])
  let number (acc : Array Nat × Array Nat × Array Nat × Array (Option Nat)) (p : Production) :=
    let (starts, productions, places, nexts) := acc
    let index := starts.size
    let size := p.steps.size
    (starts.push productions.size,
     productions ++ Array.replicate (size + 1) index,
     places ++ Array.range (size + 1),
     (nexts ++ p.steps.map (some ·.symbol)).push none)
  let (start, production, place, next) := g.productions.foldl number (#[], #[], #[], #[])
  let representative := representatives g
  let openingOf (p : Nat) : Option (Nat × Nat) := do
    let s ← (← g.productions[p]?).steps[0]?
    let item := start.getD p 0 + 1
    pure (s.symbol, representative.getD item item)
  let openings := byHead.map fun ps =>
    (ps.foldl (fun (acc : Array (Nat × Nat) × Std.HashMap (Nat × Nat) Unit) p =>
      match openingOf p with
      | some o => if acc.2.contains o then acc else (acc.1.push o, acc.2.insert o ())
      | none => acc) (#[], {})).1
  { flat := g, start, production, place, next, representative, first, openings
    leading := (Array.range ruleCount).map fun r => leadingOf g first byHead (r + g.tokenCount)
    silent := byHead.map fun ps =>
      ps.find? fun p => (g.productions[p]?.elim false (·.steps.isEmpty)) }

def wholeProgram (a : Items) : Nat := a.production.size

def nextSymbol (a : Items) (item : Nat) : Option Nat :=
  if item = a.wholeProgram then some a.flat.start
  else if item < a.wholeProgram then a.next.getD item none
  else none

def after (a : Items) (item : Nat) : Nat := a.representative.getD (item + 1) (item + 1)

def productionOf (a : Items) (item : Nat) : Production :=
  (a.production[item]?.bind (a.flat.productions[·]?)).getD default

def lastStep? (a : Items) (item : Nat) : Option Step :=
  match a.place[item]? with
  | some (place + 1) => (a.productionOf item).steps[place]?
  | _ => none

end Items

end SchemaGen.Grammar
