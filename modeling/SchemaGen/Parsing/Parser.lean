import SchemaGen.Grammar.Table
import SchemaGen.Parsing.Stack

namespace SchemaGen.Parsing

open SchemaGen.Grammar

/-- A token found in the text from `start` to before `stop`. -/
structure Lexeme where
  token : Nat
  start : Nat
  stop : Nat
  deriving Inhabited

/-- How the tokens of a language are found. Both readers are given the tokens that could stand at a
place; `contextual` is for tokens that need to know them all, `plain` takes the longest. -/
structure Scanner where
  contextual : Text → Nat → TokenSet → Option Lexeme
  plain : Text → Nat → TokenSet → Option Lexeme
  /-- The keyword that a word is. -/
  keyword : String → Option Nat
  /-- Tokens to look for where none fits. -/
  anywhere : TokenSet
  /-- The characters between tokens. -/
  isBlank : Char → Bool

/-- What does not change while a text is parsed. -/
structure Setting where
  table : Table
  scanner : Scanner
  text : Text

namespace Setting

def flat (e : Setting) : Flat := e.table.flat

/-- The actions of a state for a token. In the error state every token is a way to recover. -/
def actions (e : Setting) (state token : Nat) : List Action :=
  if state = Stack.errorState then
    if e.flat.extras.contains token then [.skipExtra]
    else if e.scanner.anywhere.testBit token then [.recover] else []
  else e.table.actions state token

/-- The state that reading a symbol leads to; 0 if there is none. -/
def nextState (e : Setting) (state symbol : Nat) : Nat :=
  if symbol < e.flat.tokenCount then
    match (e.actions state symbol).getLast? with
    | some (.shift target _) => target
    | some .skipExtra => state
    | _ => 0
  else if state = Stack.errorState then 0
  else e.table.target state symbol

/-- The tokens that a state has an action for, extras included. -/
def validTokens (e : Setting) (state : Nat) : TokenSet :=
  let extras := e.flat.extras.foldl (fun acc t => acc ||| (1 <<< t)) 0
  if state = Stack.errorState then e.scanner.anywhere ||| extras
  else e.table.tokens state ||| extras

def hasActions (e : Setting) (state token : Nat) : Bool := (e.validTokens state).testBit token

def build (e : Setting) (symbol : Nat) (production : Option Nat) (children : List Subtree)
    (position : Nat) : Subtree :=
  Subtree.build e.flat e.text symbol production children position

def errorNode (e : Setting) (children : List Subtree) (position : Nat) : Subtree :=
  e.build (Subtree.errorSymbol e.flat) none children position

def errorRun (e : Setting) (children : List Subtree) (position : Nat) : Subtree :=
  e.build (Subtree.errorRunSymbol e.flat) none children position

end Setting

structure Machine where
  stack : Stack
  finished : Option Subtree := none
  accepted : Nat := 0

abbrev ParseM := StateM Machine

/-- How many readings are followed, how many more may arise for a moment, and how much worse a
reading may be before it is given up. -/
structure Bounds where
  versions : Nat := 6
  overflow : Nat := 4
  difference : Nat := 18 * costs.skippedTree

def bounds : Bounds := {}

structure Standing where
  cost : Nat
  count : Nat
  weight : Int
  inError : Bool

inductive Preference where
  | takeLeft
  | preferLeft
  | none
  | preferRight
  | takeRight
  deriving DecidableEq

def Standing.compare (a b : Standing) : Preference :=
  if !a.inError && b.inError then (if a.cost < b.cost then .takeLeft else .preferLeft)
  else if a.inError && !b.inError then (if b.cost < a.cost then .takeRight else .preferRight)
  else if a.cost < b.cost then
    if (b.cost - a.cost) * (1 + a.count) > bounds.difference then .takeLeft else .preferLeft
  else if b.cost < a.cost then
    if (a.cost - b.cost) * (1 + b.count) > bounds.difference then .takeRight else .preferRight
  else if a.weight > b.weight then .preferLeft
  else if b.weight > a.weight then .preferRight
  else .none

namespace Machine

def modifyStack (f : Stack → Stack) : ParseM Unit :=
  modify fun ⟨stack, finished, accepted⟩ => ⟨f stack, finished, accepted⟩

def withStack {α : Type} (f : Stack → α × Stack) : ParseM α :=
  modifyGet fun ⟨stack, finished, accepted⟩ =>
    let (x, stack) := f stack
    (x, ⟨stack, finished, accepted⟩)

def onStack {α : Type} (f : Stack → α) : ParseM α := do return f (← get).stack

def versionCount : ParseM Nat := onStack (·.versions.size)

def standing (v : Nat) : ParseM Standing := do
  let count ← withStack (·.countSinceError v)
  onStack fun s =>
    let paused := s.isPaused v
    { cost := s.cost v + (if paused then costs.skippedTree else 0)
      count
      weight := (s.top v).weight
      inError := paused || s.state v = Stack.errorState }

/-- Whether some other version makes it pointless to go on with one at the given cost. -/
def betterVersionExists (v cost : Nat) : ParseM Bool := do
  if (← get).finished.elim false (fun t => t.cost ≤ cost) then return true
  let position ← onStack (·.position v)
  let count ← withStack (·.countSinceError v)
  let weight ← onStack fun s => (s.top v).weight
  let mine : Standing := { cost, count, weight, inError := false }
  for i in List.range (← versionCount) do
    if i ≠ v && (← onStack fun s => s.isActive i && position ≤ s.position i) then
      match mine.compare (← standing i) with
      | .takeRight => return true
      | .preferRight => if ← onStack (·.canMerge i v) then return true
      | _ => pure ()
  return false

def skipBlanks (e : Setting) (place : Nat) : Nat :=
  let rec go : Nat → Nat → Nat
    | 0, i => i
    | fuel + 1, i => if (e.text.chars[i]?).elim false e.scanner.isBlank then go fuel (i + 1) else i
  go (e.text.size - place) place

/-- The end of the unreadable text that begins before `place`: blanks and characters are passed over
until a token begins. -/
def endOfUnreadable (e : Setting) (stop : Nat) : Nat → Nat
  | 0 => stop
  | fuel + 1 =>
    match e.scanner.plain e.text stop e.scanner.anywhere with
    | some _ => stop
    | none => endOfUnreadable e (min (skipBlanks e stop + 1) e.text.size) fuel

/-- Read the next token of a version in a state. Characters that start no token become one error. -/
def lex (e : Setting) (v state : Nat) : ParseM Subtree := do
  let position ← onStack (·.position v)
  let advanced ← onStack (·.hasAdvanced v)
  let valid := e.validTokens state
  let contextual := (e.scanner.contextual e.text position valid).filter fun l =>
    position < l.stop || (advanced && !e.flat.extras.contains l.token)
  let fitting := if state = Stack.errorState then none
    else contextual <|> e.scanner.plain e.text position valid
  match fitting <|> e.scanner.plain e.text position e.scanner.anywhere with
  | some l =>
    let word := if l.token = e.flat.word then e.scanner.keyword (e.text.slice l.start l.stop)
      else none
    let token := match word with
      | some k => if e.hasActions state k then k else l.token
      | none => l.token
    return .node { symbol := token, lead := position, start := l.start, stop := l.stop
                   keyword := word.isSome, extra := token = 0 } []
  | none =>
    let start := skipBlanks e position
    let stop := endOfUnreadable e (min (start + 1) e.text.size) (e.text.size + 1)
    return Subtree.leaf (Subtree.errorSymbol e.flat) position start stop

/-- Put the trees of one slice together below a new node, the better of several choices of
children; the extras at the end stay apart. -/
def bestChildren (e : Setting) (production : Nat) (position : Nat) :
    List Subtree → List (List Subtree) → Subtree × List Subtree
  | first, others =>
    let make (trees : List Subtree) :=
      let (children, trailing) := Subtree.splitExtras trees
      let head := (e.flat.productions[production]?).elim 0 (·.head)
      (e.build head (some production) children position, trailing)
    others.foldl (fun best trees =>
      let other := make trees
      if best.1.prefers other.1 then other else best) (make first)

/-- Reduce the top of a version by a production. Gives the first version that arises. -/
def reduce (e : Setting) (v production : Nat) : ParseM (Option Nat) := do
  let p := e.flat.productions.getD production default
  let initial ← versionCount
  let halted ← onStack (·.haltedCount)
  let slices ← withStack (·.popCount v p.steps.size)
  let rec go : Nat → Nat → List Slice → ParseM Unit
    | 0, _, _ => pure ()
    | _, _, [] => pure ()
    | fuel + 1, removed, slice :: rest => do
      let number := slice.version - removed
      let (same, rest) := rest.span (·.version = slice.version)
      if number > bounds.versions + bounds.overflow + halted then
        modifyStack (·.remove number)
        go fuel (removed + 1) rest
      else
        let position ← onStack (·.position number)
        let (parent, trailing) := bestChildren e production position slice.trees
          (same.map (·.trees))
        let parent := parent.addWeight p.weight
        let state ← onStack (·.state number)
        let target := e.nextState state p.head
        modifyStack fun s => trailing.foldl (fun s t => s.push e.flat number (some t) target)
          (s.push e.flat number (some parent) target)
        let rec join : List Nat → ParseM Bool
          | [] => pure false
          | j :: js => do
            if j = v then join js
            else if ← withStack (fun s => let (s, did) := s.merge e.flat j number; (did, s)) then
              pure true
            else join js
        let merged ← join (List.range number)
        go fuel (if merged then removed + 1 else removed) rest
  go (slices.length + 1) 0 slices
  return if initial < (← versionCount) then some initial else none

/-- Finish a version: all that is on it becomes the children of the root. -/
def accept (e : Setting) (v : Nat) (lookahead : Subtree) : ParseM Unit := do
  modifyStack fun s => s.push e.flat v (some lookahead) Stack.startState
  let slices ← withStack (·.popAll v)
  for slice in slices do
    let later := slice.trees.reverse.takeWhile (·.extra)
    let rest := slice.trees.reverse.drop later.length
    match rest with
    | [] => pure ()
    | tree :: earlier =>
      let trees := earlier.reverse ++ tree.children ++ later.reverse
      let root := e.build tree.symbol tree.info.production trees 0
      modify fun m => { m with
        accepted := m.accepted + 1
        finished := match m.finished with
          | none => some root
          | some best => if best.prefers root then some root else some best }
  match slices.head? with
  | some slice => modifyStack fun s => (s.remove slice.version).halt v
  | none => modifyStack (·.halt v)

/-- Do all reductions that are possible in a state, for the given token or for any; tells whether
some version can then read the token. -/
def reduceAll (e : Setting) (start : Nat) (lookahead : Option Nat) : ParseM Bool := do
  let initial ← versionCount
  let rec go : Nat → Nat → Nat → Bool → ParseM Bool
    | 0, _, _, can => pure can
    | fuel + 1, round, v, can => do
      let count ← versionCount
      if count ≤ v then return can
      let rec join : List Nat → ParseM Bool
        | [] => pure false
        | j :: js => do
          if ← withStack (fun s => let (s, did) := s.merge e.flat j v; (did, s)) then pure true
          else join js
      if ← join ((List.range v).drop initial) then return ← go fuel (round + 1) v can
      let state ← onStack (·.state v)
      let tokens := match lookahead with
        | some t => [t]
        | none => ((List.range e.flat.tokenCount).drop 1).filter (e.validTokens state).testBit
      let mut canShift := false
      let mut productions : List Nat := []
      for t in tokens do
        for a in e.actions state t do
          match a with
          | .shift _ repetition => if !repetition then canShift := true
          | .recover => canShift := true
          | .reduce p =>
            let x := e.flat.productions.getD p default
            if 0 < x.steps.size && !productions.any fun q =>
                let y := e.flat.productions.getD q default
                y.head = x.head && y.steps.size = x.steps.size then
              productions := productions ++ [p]
          | _ => pure ()
      let mut reduced : Option Nat := none
      for p in productions do
        reduced ← reduce e v p
      let next := if v = start then count else v + 1
      if canShift then go fuel (round + 1) next true
      else match reduced with
        | some r =>
          if round < bounds.versions then
            modifyStack (·.renumber r v)
            go fuel (round + 1) v can
          else
            if lookahead.isSome then modifyStack (·.remove v)
            go fuel (round + 1) next can
        | none =>
          if lookahead.isSome then modifyStack (·.remove v)
          go fuel (round + 1) next can
  go 1000 0 start false

/-- Go back `depth` trees to an earlier state and put what was read since then into an error. -/
def recoverTo (e : Setting) (v depth goal : Nat) : ParseM Bool := do
  let slices ← withStack (·.popCount v depth)
  let rec go : List Slice → Option Nat → ParseM (Option Nat)
    | [], previous => pure previous
    | slice :: rest, previous => do
      if previous = some slice.version then go rest previous
      else if (← onStack (·.state slice.version)) ≠ goal then
        modifyStack (·.halt slice.version)
        go rest previous
      else
        let below ← withStack (·.popError e.flat slice.version)
        let inner := match below with
          | error :: _ => error.children
          | [] => []
        let (children, trailing) := Subtree.splitExtras (inner ++ slice.trees)
        let position ← onStack (·.position slice.version)
        if !children.isEmpty then
          let error := (e.errorNode children position).setExtra true
          modifyStack fun s => s.push e.flat slice.version (some error) goal
        modifyStack fun s => trailing.foldl
          (fun s t => s.push e.flat slice.version (some t) goal) s
        go rest (some slice.version)
  return (← go slices none).isSome

/-- Remove the versions from a number on that are no longer active. -/
def removeIdle (start : Nat) : ParseM Unit :=
  modifyStack fun s => { s with
    versions := s.versions.extract 0 start ++
      (s.versions.extract start s.versions.size).filter fun h => match h.status with
        | .active => true
        | _ => false }

/-- Handle a token in the error state: look for an earlier state that can read it, and also pass
over it. -/
def recover (e : Setting) (v : Nat) (lookahead : Subtree) : ParseM Unit := do
  let previous ← versionCount
  let position ← onStack (·.position v)
  let ancestors := (← onStack fun s => (s.version v).ancestors).getD #[]
  let since ← withStack (·.countSinceError v)
  let cost ← onStack (·.cost v)
  let rec search : List Ancestor → ParseM Bool
    | [] => pure false
    | a :: rest => do
      if a.state = Stack.errorState || a.position = position then search rest
      else
        let depth := if 0 < since then a.depth + 1 else a.depth
        let redundant ← onStack fun s => (List.range previous).any fun j =>
          s.state j = a.state && s.position j = position
        if redundant then search rest
        else
          let newCost := cost + a.depth * costs.skippedTree +
            e.text.bytesBetween a.position position * costs.skippedByte +
            e.text.rowsBetween a.position position * costs.skippedRow
          if ← betterVersionExists v newCost then pure false
          else if e.hasActions a.state lookahead.symbol then
            if ← recoverTo e v depth a.state then pure true else search rest
          else search rest
  let did ← if lookahead.isError e.flat then pure false else search ancestors.toList
  removeIdle previous
  if lookahead.symbol = 0 then
    modifyStack fun s => s.push e.flat v (some (e.errorNode [] position)) Stack.startState
    accept e v lookahead
  else if did && bounds.versions < (← versionCount) then modifyStack (·.halt v)
  else
    let stop := lookahead.info.stop
    let newCost := cost + costs.skippedTree +
      e.text.bytesBetween lookahead.info.lead stop * costs.skippedByte +
      e.text.rowsBetween lookahead.info.lead stop * costs.skippedRow
    if ← betterVersionExists v newCost then modifyStack (·.halt v)
    else
      let lookahead := if e.flat.extras.contains lookahead.symbol then lookahead.setExtra true
        else lookahead
      let run := e.errorRun [lookahead] position
      if 0 < since then
        let slices ← withStack (·.popCount v 1)
        match slices with
        | [] => modifyStack fun s => s.push e.flat v (some run) Stack.errorState
        | slice :: _ =>
          modifyStack fun s =>
            let s := { s with versions := s.versions.extract 0 (slice.version + 1) }
            let s := s.renumber slice.version v
            s.push e.flat v (some (e.errorRun (slice.trees ++ [run]) position)) Stack.errorState
      else modifyStack fun s => s.push e.flat v (some run) Stack.errorState

/-- Begin to recover from a token that no reading can take: reduce all that can be reduced, suppose a
missing token if one makes the next one readable, and enter the error state. -/
def handleError (e : Setting) (v : Nat) (lookahead : Subtree) : ParseM Unit := do
  let previous ← versionCount
  let _ ← reduceAll e v none
  let count ← versionCount
  let position ← onStack (·.position v)
  let supposeMissing (w : Nat) : ParseM Bool := do
    let state ← onStack (·.state w)
    let valid := e.validTokens state
    let rec try_ : List Nat → ParseM Bool
      | [] => pure false
      | token :: rest => do
        let target := e.nextState state token
        if target = 0 || target = state then try_ rest
        else match e.actions target lookahead.symbol with
          | .reduce _ :: _ =>
            let copy ← versionCount
            modifyStack fun s =>
              (s.copy w).push e.flat copy (some (Subtree.missingLeaf token position)) target
            -- Before the end of the input any token will do.
            let next := if lookahead.symbol = 0 then none else some lookahead.symbol
            if ← reduceAll e copy next then pure true else try_ rest
          | _ => try_ rest
    try_ (((List.range e.flat.tokenCount).drop 1).filter valid.testBit)
  let rec enter : List Nat → Bool → ParseM Unit
    | [], _ => pure ()
    | w :: rest, did => do
      let did ← if did then pure true else supposeMissing w
      modifyStack fun s => s.push e.flat w none Stack.errorState
      enter rest did
  enter (v :: (List.range count).drop previous) false
  for _ in (List.range count).drop previous do
    modifyStack fun s => (s.merge e.flat v previous).1
  modifyStack (·.noteAncestors v)
  recover e v lookahead

/-- Handle a token in a version until it is read, or the version is paused, halted or finished. -/
def advance (e : Setting) (v : Nat) : ParseM Unit := do
  let state ← onStack (·.state v)
  let token ← lex e v state
  let rec go : Nat → Subtree → Option (List Action) → ParseM Unit
    | 0, _, _ => pure ()
    | fuel + 1, lookahead, given => do
      let state ← onStack (·.state v)
      let found := given.getD (e.actions state lookahead.symbol)
      let rec act : List Action → Option Nat → Bool → ParseM (Bool × Option Nat × Bool)
        | [], last, did => pure (false, last, did)
        | a :: rest, last, did => do
          match a with
          | .shift target repetition =>
            if repetition then act rest last did
            else
              modifyStack fun s => s.push e.flat v (some (lookahead.setExtra false)) target
              pure (true, last, did)
          | .skipExtra =>
            modifyStack fun s => s.push e.flat v (some (lookahead.setExtra true)) state
            pure (true, last, did)
          | .reduce p =>
            let r ← reduce e v p
            act rest (r <|> last) true
          | .accept =>
            accept e v lookahead
            pure (true, last, did)
          | .recover =>
            recover e v lookahead
            pure (true, last, did)
      let (done, last, did) ← act found none false
      if done then pure ()
      else match last with
        | some r =>
          modifyStack (·.renumber r v)
          go fuel lookahead none
        | none =>
          if did then modifyStack (·.halt v)
          else
            let asWord := if lookahead.info.keyword && lookahead.symbol ≠ e.flat.word
              then e.actions state e.flat.word else []
            if !asWord.isEmpty then
              go fuel (.node { lookahead.info with symbol := e.flat.word } []) (some asWord)
            else if state = Stack.errorState then recover e v lookahead
            else modifyStack (·.pause v lookahead)
  go 100000 token none

/-- Bring the versions into order, best first, joining those that have become the same and giving up
those that are much worse than another. Gives the least cost of a version without an error. -/
def condense (e : Setting) : ParseM (Option Nat) := do
  let rec compareWith (mine : Standing) : Nat → Nat → Nat → ParseM Nat
    | 0, i, _ => pure i
    | fuel + 1, i, j => do
      if i ≤ j then pure (i + 1)
      else
        let other ← standing j
        let tryMerge := withStack fun s => let (s, did) := s.merge e.flat j i; (did, s)
        match other.compare mine with
        | .takeLeft =>
          modifyStack (·.remove i)
          pure i
        | .preferLeft | .none =>
          if ← tryMerge then pure i else compareWith mine fuel i (j + 1)
        | .preferRight =>
          if ← tryMerge then pure i
          else
            modifyStack (·.swap i j)
            compareWith mine fuel i (j + 1)
        | .takeRight =>
          modifyStack (·.remove j)
          compareWith mine fuel (i - 1) j
  let rec order : Nat → Nat → Option Nat → ParseM (Option Nat)
    | 0, _, least => pure least
    | fuel + 1, i, least => do
      if (← versionCount) ≤ i then pure least
      else if ← onStack (·.isHalted i) then
        modifyStack (·.remove i)
        order fuel i least
      else
        let mine ← standing i
        let least := if mine.inError then least
          else some (match least with
            | some c => min c mine.cost
            | none => mine.cost)
        let next ← compareWith mine 1000 i 0
        order fuel next least
  let least ← order 1000 0 none
  modifyStack fun s => { s with versions := s.versions.extract 0 bounds.versions }
  let rec resume : Nat → Nat → Nat → Bool → Option Nat → ParseM (Option Nat)
    | 0, _, _, _, least => pure least
    | fuel + 1, i, n, running, least => do
      if n ≤ i then pure least
      else match (← onStack (·.version i)).status with
        | .paused lookahead =>
          if !running && (← get).accepted < bounds.versions then
            let cost ← onStack (·.cost i)
            modifyStack (·.setVersion i fun h => { h with status := .active })
            handleError e i lookahead
            resume fuel (i + 1) n true (some cost)
          else
            modifyStack (·.remove i)
            resume fuel i (n - 1) running least
        | _ => resume fuel (i + 1) n true least
  let n ← versionCount
  resume (n + 1) 0 n false least

/-- Advance every version until it is beyond the place that has been reached before; gives the place
that is reached now. -/
def advanceAll (e : Setting) : Nat → Nat → Nat → ParseM Nat
  | 0, _, last => pure last
  | fuel + 1, v, last => do
    if (← versionCount) ≤ v then pure last
    else if ← onStack (·.isActive v) then
      advance e v
      let position ← onStack (·.position v)
      if last < position || (0 < v && last = position) then advanceAll e fuel (v + 1) position
      else advanceAll e fuel v last
    else advanceAll e fuel (v + 1) last

end Machine

open Machine in
/-- Parse a text. Every repair of the text has a cost, and the cheapest reading is the answer. There is always
a tree; its root is an error if nothing else fits. -/
def parse (table : Table) (scanner : Scanner) (text : Text) : Subtree :=
  let e : Setting := { table, scanner, text }
  let rec rounds : Nat → Nat → ParseM Unit
    | 0, _ => pure ()
    | fuel + 1, last => do
      let last ← advanceAll e 100000 0 last
      let least ← condense e
      let done := (← get).finished.elim false fun t => least.elim true fun c => t.cost < c
      if done || (← versionCount) = 0 then pure () else rounds fuel last
  let start : Machine := { stack := Stack.initial }
  let (_, m) := (rounds (100 * (text.size + 100)) 0).run start
  m.finished.getD (e.errorNode [] 0)

end SchemaGen.Parsing
