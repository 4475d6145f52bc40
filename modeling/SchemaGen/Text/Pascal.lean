import SchemaGen.Text.Case
import SchemaGen.Text.Cluster

namespace SchemaGen.Text.Pascal

/-- A character as a reader takes it. -/
abbrev Cluster := List Char

def isDelimiter (c : Cluster) : Bool := c = ['_'] || c = ['-'] || c = [' ']

def isDigits (c : Cluster) : Bool := c.all Char.isDigit

/-- Whether a word ends between two clusters, seen with the one after them. -/
def endsBetween (p c : Cluster) (next : Option Cluster) : Bool :=
  (isLower p && isUpper c) || (isUpper p && isDigits c) || (isDigits p && isUpper c) ||
    (isDigits p && isLower c) || (isLower p && isDigits c) ||
    (isUpper p && isUpper c && next.any isLower)

/-- The words of a text behind a word that has begun, which is given with its last cluster first. -/
def wordsAfter (word : List Cluster) : List Cluster → List (List Cluster)
  | [] => [word.reverse]
  | c :: cs =>
    if isDelimiter c then word.reverse :: wordsAfter [] cs
    else
      match word with
      | p :: _ =>
        if endsBetween p c cs.head? then word.reverse :: wordsAfter [c] cs
        else wordsAfter (c :: word) cs
      | [] => wordsAfter [c] cs

/-- The words of a name. They end at underscores, hyphens and blanks, from lower to upper case, from a letter to a
digit or back, and before the last of several capitals that a small letter follows. -/
def words (name : List Char) : List (List Cluster) :=
  (wordsAfter [] (clusters name)).filter (!·.isEmpty)

/-- A word with its first cluster in upper case and the rest in lower case. -/
def capitalize : List Cluster → List Char
  | [] => []
  | c :: cs => upper c ++ lower cs.flatten

def ofName (name : List Char) : List Char := (words name).flatMap capitalize

end SchemaGen.Text.Pascal

namespace SchemaGen

def pascal (name : String) : String := String.ofList (Text.Pascal.ofName name.toList)

end SchemaGen
