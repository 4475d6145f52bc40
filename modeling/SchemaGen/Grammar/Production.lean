import Std.Data.HashMap
import SchemaGen.Grammar.Rule

namespace SchemaGen.Grammar

structure Numbering (α : Type) [BEq α] [Hashable α] where
  values : Array α := #[]
  numbers : Std.HashMap α Nat := {}

namespace Numbering

variable {α : Type} [BEq α] [Hashable α]

/-- The number of a value, which gets the next one if it is new. -/
def number (n : Numbering α) (x : α) : Nat × Numbering α :=
  match n with
  | ⟨values, numbers⟩ =>
    match numbers[x]? with
    | some i => (i, ⟨values, numbers⟩)
    | none => (values.size, ⟨values.push x, numbers.insert x values.size⟩)

/-- Distinct values in the order of their first places. -/
def ofList (xs : List α) : Numbering α := xs.foldl (fun n x => (n.number x).2) {}

end Numbering

/-- One place of a production: the symbol read there, and how it binds and is shown. -/
structure Step where
  symbol : Nat
  precedence : Precedence
  associativity : Option Associativity
  shown : Option Alias
  field : Option String
  deriving DecidableEq, Hashable, Inhabited

/-- The right-hand side of a production with its weight among ambiguous readings. -/
structure Body where
  steps : List Step
  weight : Int
  deriving DecidableEq, Hashable, Inhabited

structure Production where
  head : Nat
  steps : Array Step
  weight : Int
  deriving Inhabited

/-- What is known of a symbol as such. Invisible symbols leave no node in the syntax tree. -/
structure SymbolInfo where
  name : String
  visible : Bool
  named : Bool
  auxiliary : Bool
  deriving Inhabited

/-- A grammar ready for parsing. Symbol 0 is the end of input; symbols below `tokenCount` are
tokens, the others rules. -/
structure Flat where
  symbols : Array SymbolInfo
  tokenCount : Nat
  productions : Array Production
  start : Nat
  word : Nat
  extras : List Nat
  orderings : List (List Rank)
  /-- Codes of the anonymous tokens by their text and of the named symbols by their name. -/
  literals : Std.HashMap String Nat
  names : Std.HashMap String Nat
  /-- The kind under which a symbol is shown where no production says it, if all productions that
  use it show it under another kind. -/
  usualAlias : Array (Option Alias)

namespace Flat

/-- Bodies without repetitions, in the order of their first places. -/
def distinct (bs : List Body) : List Body := (Numbering.ofList bs).values.toList

/-- The weight of larger size; the first one on a tie. -/
def heavier (a b : Int) : Int := if a.natAbs < b.natAbs then b else a

/-- The metadata that applies to a part of a rule. -/
structure Context where
  precedence : Precedence := .unset
  associativity : Option Associativity := none
  shown : Option Alias := none
  field : Option String := none

/-- Auxiliary rules found so far, each with the bodies of what it repeats. -/
structure Repeats where
  firstCode : Nat
  found : Array (String × List Body) := #[]

def withLast (f : Step → Step) (b : Body) : Body :=
  match b.steps.getLast? with
  | none => b
  | some s => { b with steps := b.steps.dropLast ++ [f s] }

/-- The code of the auxiliary rule that repeats `bodies`; equal repetitions share one. -/
def Repeats.code (owner : String) (bodies : List Body) (r : Repeats) : Nat × Repeats :=
  match r.found.findIdx? (fun x => x.2 = bodies) with
  | some i => (r.firstCode + i, r)
  | none => (r.firstCode + r.found.size,
      { r with found := r.found.push (owner ++ "_repeat", bodies) })

def pairUp (xs ys : List Body) : List Body :=
  xs.flatMap fun x => ys.map fun y => ⟨x.steps ++ y.steps, heavier x.weight y.weight⟩

structure Codes where
  literals : Std.HashMap String Nat
  names : Std.HashMap String Nat

mutual

/-- The bodies of a rule. A part that binds by itself and does not end the whole rule gives the
place after it back to the surrounding precedence. -/
def bodies (codes : Codes) (owner : String) (context : Context) (atEnd : Bool) :
    Rule → StateM Repeats (List Body)
  | .blank | .token => pure [⟨[], 0⟩]
  | .literal text => pure [single (codes.literals.getD text 0)]
  | .ref name => pure [single (codes.names.getD name 0)]
  | .seq parts => sequence codes owner context atEnd [⟨[], 0⟩] parts
  | .choice parts => alternatives codes owner context atEnd parts
  | .repeated part => do
    let inner ← bodies codes owner {} true part
    let code ← modifyGet (·.code owner (distinct inner))
    pure [single code]
  | .binding p a part => do
    let inner := { context with
      precedence := if p = .unset then context.precedence else p
      associativity := a <|> context.associativity }
    let bs ← bodies codes owner inner atEnd part
    if atEnd then pure bs
    else pure (bs.map (withLast fun s => { s with
      precedence := if p = .unset then s.precedence else context.precedence
      associativity := if a.isSome then context.associativity else s.associativity }))
  | .dynamic weight part => do
    let bs ← bodies codes owner context atEnd part
    pure (bs.map fun b => { b with weight := heavier weight b.weight })
  | .field name part => bodies codes owner { context with field := some name } atEnd part
  | .shownAs shown part => bodies codes owner { context with shown := some shown } atEnd part
where
  single (code : Nat) : Body :=
    ⟨[⟨code, context.precedence, context.associativity, context.shown, context.field⟩], 0⟩

def sequence (codes : Codes) (owner : String) (context : Context) (atEnd : Bool)
    (done : List Body) : List Rule → StateM Repeats (List Body)
  | [] => pure done
  | r :: rest => do
    let bs ← bodies codes owner context (rest.isEmpty && atEnd) r
    sequence codes owner context atEnd (pairUp done bs) rest

def alternatives (codes : Codes) (owner : String) (context : Context) (atEnd : Bool) :
    List Rule → StateM Repeats (List Body)
  | [] => pure []
  | r :: rest => do
    let bs ← bodies codes owner context atEnd r
    let more ← alternatives codes owner context atEnd rest
    pure (bs ++ more)

end

mutual

/-- The texts of the anonymous tokens of a rule in the order of their first use. -/
def literalsOf (seen : Array String) : Rule → Array String
  | .literal text => if seen.contains text then seen else seen.push text
  | .seq parts | .choice parts => literalsOfAll seen parts
  | .repeated part | .binding _ _ part | .dynamic _ part | .field _ part | .shownAs _ part =>
    literalsOf seen part
  | .blank | .token | .ref _ => seen

def literalsOfAll (seen : Array String) : List Rule → Array String
  | [] => seen
  | r :: rest => literalsOfAll (literalsOf seen r) rest

end

inductive TokenName where
  | text (text : String)
  | named (name : String)
  deriving DecidableEq

/-- All tokens in the order of their numbers, the end of input apart. -/
def tokenNames (d : Definition) : List TokenName :=
  let step (acc : Array String × List TokenName) (entry : String × Rule) :=
    match entry.2 with
    | .token => (acc.1, acc.2 ++ [.named entry.1])
    | r =>
      let seen := literalsOf acc.1 r
      (seen, acc.2 ++ ((seen.toList.drop acc.1.size).map .text))
  let inRules := (d.rules.foldl step (#[], [])).2
  .named d.word :: inRules.filter (· ≠ .named d.word) ++ d.contextual.map .named

def inlineStep (s : Step) (b : Body) : List Step :=
  let steps := b.steps.map fun t => { t with
    shown := s.shown <|> t.shown
    field := s.field <|> t.field }
  (withLast (fun t => { t with
    precedence := if t.precedence = .unset then s.precedence else t.precedence
    associativity := t.associativity <|> s.associativity }) ⟨steps, 0⟩).steps

/-- Replace the inlined symbols of a body by the bodies that `table` has for them. -/
def inlineBody (table : Std.HashMap Nat (List Body)) (b : Body) : List Body :=
  let step (acc : List Body) (s : Step) : List Body :=
    match table[s.symbol]? with
    | none => acc.map fun a => { a with steps := a.steps ++ [s] }
    | some alternatives => acc.flatMap fun a => alternatives.map fun x =>
        ⟨a.steps ++ inlineStep s x, heavier a.weight x.weight⟩
  b.steps.foldl step [⟨[], b.weight⟩]

/-- The alias that is used most for a symbol, if no step shows the symbol as itself. -/
def usualAliases (symbolCount : Nat) (productions : Array Production) : Array (Option Alias) :=
  let note (acc : Array (Option (List (Alias × Nat)))) (s : Step) :=
    acc.modify s.symbol fun uses => match uses, s.shown with
      | some counts, some a =>
        if counts.any (·.1 = a) then
          some (counts.map fun c => if c.1 = a then (a, c.2 + 1) else c)
        else some (counts ++ [(a, 1)])
      | _, _ => none
  let uses := productions.foldl (fun acc p => p.steps.foldl note acc)
    (Array.replicate symbolCount (some []))
  uses.map fun counts => do
    let best ← (← counts).foldl (fun best c => match best with
      | some b => if b.2 < c.2 then some c else some b
      | none => some c) none
    pure best.1

end Flat

open Flat in
/-- Make a grammar ready for parsing: choices are multiplied out, repetitions become rules that join two shorter
runs, and inlined rules are replaced by their alternatives. -/
def Definition.flat (d : Definition) : Flat :=
  let tokens := tokenNames d
  let ruleNames := d.rules.filterMap fun
    | (_, .token) => none
    | (name, _) => some name
  let tokenCount := tokens.length + 1
  let number (code : Nat) : List TokenName → Codes → Codes
    | ts, c => (ts.foldl (fun (acc : Nat × Codes) t => (acc.1 + 1, match t with
        | .text s => { acc.2 with literals := acc.2.literals.insert s acc.1 }
        | .named s => { acc.2 with names := acc.2.names.insert s acc.1 })) (code, c)).2
  let codes := number 1 tokens ⟨{}, {}⟩
  let codes := number tokenCount (ruleNames.map .named) codes
  let raw : StateM Repeats (List (Nat × List Body)) :=
    d.rules.filterMapM fun (name, rule) => match rule with
      | .token => pure none
      | _ => do
        let bs ← bodies codes name {} true rule
        pure (some (codes.names.getD name 0, distinct bs))
  let (named, repeats) := raw.run { firstCode := tokenCount + ruleNames.length }
  let plain : Step := ⟨0, .unset, none, none, none⟩
  let auxiliary := repeats.found.toList.mapIdx fun i (_, inner) =>
    let self := { plain with symbol := repeats.firstCode + i }
    (repeats.firstCode + i, (⟨[self, self], 0⟩ : Body) :: inner)
  let inlinedCodes := d.inlined.filterMap (codes.names[·]?)
  let firstTable := named.foldl (fun t (c, bs) =>
    if inlinedCodes.contains c then t.insert c bs else t) ({} : Std.HashMap Nat (List Body))
  -- Inlined rules may use each other, though not in a circle.
  let table := inlinedCodes.foldl (fun t _ =>
    t.map fun _ bs => bs.flatMap (inlineBody firstTable)) firstTable
  let keep := (named.filter fun (c, _) => !inlinedCodes.contains c) ++ auxiliary
  let productions := (keep.flatMap fun (c, bs) =>
    (distinct (bs.flatMap (inlineBody table))).map fun b =>
      (⟨c, b.steps.toArray, b.weight⟩ : Production)).toArray
  let hidden (name : String) := name.startsWith "_" || d.supertypes.contains name
  let tokenInfo := tokens.map fun
    | .text s => (⟨s, true, false, false⟩ : SymbolInfo)
    | .named s => ⟨s, !hidden s, true, false⟩
  let ruleInfo := ruleNames.map fun s => (⟨s, !hidden s, true, false⟩ : SymbolInfo)
  let auxInfo := repeats.found.toList.map fun (s, _) => (⟨s, false, false, true⟩ : SymbolInfo)
  let symbols := ((⟨"end", false, false, false⟩ : SymbolInfo) :: tokenInfo ++ ruleInfo ++
    auxInfo).toArray
  { symbols, tokenCount, productions
    start := codes.names.getD ((d.rules.head?.map (·.1)).getD "") 0
    word := codes.names.getD d.word 0
    extras := d.extras.filterMap (codes.names[·]?)
    orderings := d.orderings
    literals := codes.literals
    names := codes.names
    usualAlias := usualAliases symbols.size productions }

end SchemaGen.Grammar
