import SchemaGen.Text.Fold
import SchemaGen.Text.Property

namespace SchemaGen

namespace Pattern

/-- Conditions on the place between two characters. -/
inductive Place where
  | textStart
  | textEnd
  | lineStart
  | lineEnd
  | boundary
  | noBoundary
  | wordStart
  | wordEnd
  | wordStartHalf
  | wordEndHalf
  deriving DecidableEq, Inhabited

/-- Whether a condition holds between two characters or at an end of the text; words are made of the
characters of the given class. -/
def Place.holds (word : Char → Bool) (before after : Option Char) : Place → Bool
  | textStart => before.isNone
  | textEnd => after.isNone
  | lineStart => before.all (· = '\n')
  | lineEnd => after.all (· = '\n')
  | boundary => before.any word != after.any word
  | noBoundary => before.any word == after.any word
  | wordStart => !before.any word && after.any word
  | wordEnd => before.any word && !after.any word
  | wordStartHalf => !before.any word
  | wordEndHalf => !after.any word

end Pattern

/-- A pattern. `times` repeats at least `min` and, if there is a bound, at most `max` times. -/
inductive Pattern where
  | nothing
  | one (accepts : Char → Bool)
  | place (place : Pattern.Place) (word : Char → Bool)
  | sequence (left right : Pattern)
  | either (left right : Pattern)
  | times (inner : Pattern) (min : Nat) (max : Option Nat)

namespace Pattern

instance : Inhabited Pattern := ⟨nothing⟩

def mergeEnds (xs ys : List Nat) : List Nat := xs ++ ys.filter (!xs.contains ·)

def endsOfAll (step : Nat → List Nat) (positions : List Nat) : List Nat :=
  positions.foldr (fun i ends => mergeEnds (step i) ends) []

/-- Repeat a step an exact number of times, or less often if nothing changes any more. -/
def repeatExactly (step : Nat → List Nat) : Nat → List Nat → List Nat
  | 0, positions => positions
  | n + 1, positions =>
    let next := endsOfAll step positions
    if next = positions then positions else repeatExactly step n next

/-- Repeat a step at most a number of times, or less often if nothing new is reached. -/
def repeatUpTo (step : Nat → List Nat) : Nat → List Nat → List Nat
  | 0, positions => positions
  | n + 1, positions =>
    let next := mergeEnds positions (endsOfAll step positions)
    if next.length = positions.length then positions else repeatUpTo step n next

/-- The ends of the matches that begin at a position of a text. -/
def ends (text : Array Char) : Pattern → Nat → List Nat
  | nothing, i => [i]
  | one accepts, i =>
    match text[i]? with
    | some c => if accepts c then [i + 1] else []
    | none => []
  | place p word, i =>
    let before := if i = 0 then none else text[i - 1]?
    if p.holds word before text[i]? then [i] else []
  | sequence left right, i => endsOfAll (right.ends text) (left.ends text i)
  | either left right, i => mergeEnds (left.ends text i) (right.ends text i)
  | times inner min max, i =>
    let more := match max with
      | some m => m - min
      | none => text.size + 1
    repeatUpTo (inner.ends text) more (repeatExactly (inner.ends text) min [i])

def isMatch (p : Pattern) (text : String) : Bool :=
  let chars := text.toList.toArray
  (List.range (chars.size + 1)).any fun i => !(p.ends chars i).isEmpty

def foldClass (accepts : Char → Bool) (c : Char) : Bool := (Text.caseVariants c).any accepts

def range (first last : Char) (c : Char) : Bool := first ≤ c && c ≤ last

def isAsciiWord (c : Char) : Bool := c.isAlphanum || c = '_'

def isAsciiBlank (c : Char) : Bool := c = ' ' || range '\t' '\r' c

end Pattern

end SchemaGen
