import SchemaGen.Grammar.State

namespace SchemaGen.Grammar

/-- What grouping needs to know of the text of tokens. -/
structure Lexicon where
  /-- Tokens that more than their text decides. -/
  contextual : TokenSet
  /-- Whether a token can begin with a character. -/
  begins : Nat → Char → Bool

namespace Lexicon

def followers (a : Items) (last : Array TokenSet) (token : Nat) : TokenSet :=
  a.flat.productions.foldl (fun acc p =>
    (p.steps.zip (p.steps.extract 1 p.steps.size)).foldl (fun acc (s, t) =>
      if (last.getD s.symbol 0).testBit token then acc ||| a.first.getD t.symbol 0 else acc) acc) 0

/-- For each token whose text others begin with, those of the others that also swallow a character
with which a token after it can begin. -/
def swallowing (l : Lexicon) (a : Items) : List (Nat × TokenSet) :=
  let last := Items.lastSets a.flat
  let texts := a.flat.literals.toList.map fun (s, token) => (s.toList, token)
  texts.filterMap fun (text, token) =>
    let longer := texts.filterMap fun (other, t) =>
      if text.length < other.length && text.isPrefixOf other then
        some ((other.drop text.length).headD ' ', t) else none
    if longer.isEmpty then none else
    let after := places (followers a last token)
    let swallowed := longer.foldl (fun acc (c, t) =>
      if after.any (l.begins · c) then acc ||| (1 <<< t) else acc) 0
    some (token, swallowed)

end Lexicon

structure Member where
  conduct : Conduct
  tokens : TokenSet
  /-- The tokens that must not be brought in. -/
  barred : TokenSet
  deriving Inhabited

def Member.ofConduct (contextual : TokenSet) (swallowing : List (Nat × TokenSet)) (c : Conduct) :
    Member :=
  let tokens := c.tokens
  { conduct := c, tokens
    barred := swallowing.foldl (fun acc (t, others) =>
      if tokens.testBit t then acc ||| others else acc) contextual }

/-- Whether two states of one core disagree about a token. -/
def Member.disagrees (x y : Member) : Bool :=
  let shared := x.tokens &&& y.tokens
  (x.tokens ^^^ shared) &&& y.barred ≠ 0 || (y.tokens ^^^ shared) &&& x.barred ≠ 0 ||
    (x.conduct.reads ^^^ y.conduct.reads) &&& shared ≠ 0 ||
    (x.conduct.repeats ^^^ y.conduct.repeats) &&& shared ≠ 0 ||
    (x.conduct.reduces.zip y.conduct.reduces).any fun (s, t) => (s ^^^ t) &&& shared ≠ 0

/-- A division of the states into groups. -/
structure Grouping where
  groups : Array (Array Nat)
  groupOf : Array Nat

namespace Grouping

def ofCores (count : Nat) (states : Array State) : Grouping :=
  let groups := (states.foldl (fun (groups, i) s => (groups.modify s.core (·.push i), i + 1))
    ((Array.replicate count #[] : Array (Array Nat)), 0)).1
  ⟨groups, states.map (·.core)⟩

/-- Split every group by a rule that says which of its members stay; the others become a new group at
the end, to which the rule is applied in turn. Also tells whether any group was split. -/
def split (rule : Array Nat → Array Nat → Array Nat × Array Nat) :
    Nat → Nat → Bool → Grouping → Bool × Grouping
  | 0, _, did, g => (did, g)
  | fuel + 1, i, did, ⟨groups, groupOf⟩ =>
    match groups[i]? with
    | none => (did, ⟨groups, groupOf⟩)
    | some members =>
      let (staying, leaving) := rule groupOf members
      if leaving.isEmpty then split rule fuel (i + 1) did ⟨groups, groupOf⟩
      else
        let groupOf := leaving.foldl (fun acc s => acc.set! s groups.size) groupOf
        split rule fuel (i + 1) true ⟨(groups.set! i staying).push leaving, groupOf⟩

/-- The moves of a core that can lead two of its states to different ones. -/
def openMoves (tokenCount : Nat) (core : Core) : Array (Nat × Nat) × Array (Nat × Nat) :=
  let all := (core.moves.foldl (fun (acc, i) m =>
    (if m.isFixed then acc else acc.push (m.symbol, i), i + 1)) ((#[] : Array (Nat × Nat)), 0)).1
  (all.filter (·.1 < tokenCount), all.filter (tokenCount ≤ ·.1))

/-- Whether some move of a list, if it counts, leads two states to different groups. -/
def parts (groupOf : Array Nat) (x y : State) (moves : Array (Nat × Nat))
    (counts : Nat → Bool) : Bool :=
  moves.any fun (symbol, i) =>
    groupOf.getD (x.targets.getD i 0) 0 ≠ groupOf.getD (y.targets.getD i 0) 0 && counts symbol

/-- Divide the states so that no two of a group disagree, and then until the same move leads all
states of a group to the same group. Where a text does not fit the grammar, the groups decide how far the
parser reduces before it notices. -/
def ofStates (c : Cores) (l : Lexicon) (states : Array State) (conducts : Array Conduct) :
    Grouping :=
  let swallowing := l.swallowing c.items
  let members := conducts.map (Member.ofConduct l.contextual swallowing)
  let moves := c.all.map (openMoves c.items.flat.tokenCount)
  let state (i : Nat) := states.getD i default
  let member (i : Nat) := members.getD i default
  let apart (groupOf : Array Nat) (i j : Nat) : Bool :=
    (member i).disagrees (member j) ||
      parts groupOf (state i) (state j) (moves.getD (state i).core default).1 fun t =>
        (member i).conduct.reads.testBit t && (member j).conduct.reads.testBit t
  let agreeing (groupOf : Array Nat) (group : Array Nat) : Array Nat × Array Nat :=
    group.foldl (fun (staying, leaving) j =>
      if staying.any (apart groupOf · j) then (staying, leaving.push j)
      else (staying.push j, leaving)) (#[], #[])
  let parallel (groupOf : Array Nat) (group : Array Nat) : Array Nat × Array Nat :=
    match group[0]? with
    | none => (group, #[])
    | some i =>
      let (tokens, rules) := moves.getD (state i).core default
      group.partition fun j =>
        !parts groupOf (state i) (state j) rules (fun _ => true) &&
        !parts groupOf (state i) (state j) tokens fun t =>
          (member i).conduct.reads.testBit t && (member j).conduct.reads.testBit t
  let limit := states.size + 1
  let rec refine : Nat → Grouping → Grouping
    | 0, g => g
    | fuel + 1, g =>
      let (did, g) := split parallel limit 0 false g
      if did then refine fuel g else g
  refine limit (split agreeing limit 0 false (ofCores c.all.size states)).2

end Grouping

end SchemaGen.Grammar
