namespace SchemaGen.Text

/-- Unicode white space. -/
def isBlank (c : Char) : Bool :=
  c = ' ' || ('\t' ≤ c && c ≤ '\r') ||
    [0x85, 0xA0, 0x1680, 0x2028, 0x2029, 0x202F, 0x205F, 0x3000].contains c.toNat ||
    (0x2000 ≤ c.toNat && c.toNat ≤ 0x200A)

def trimStart (cs : List Char) : List Char := cs.dropWhile isBlank

def trimEnd (cs : List Char) : List Char := (cs.reverse.dropWhile isBlank).reverse

def trim (cs : List Char) : List Char := trimEnd (trimStart cs)

/-- The pieces between line feeds. A text without a line feed is one piece; a line feed at the end
leaves an empty last piece. -/
def splitLines : List Char → List (List Char)
  | [] => [[]]
  | c :: cs =>
    if c = '\n' then [] :: splitLines cs
    else match splitLines cs with
      | [] => [[c]]
      | l :: ls => (c :: l) :: ls

/-- A carriage return before a line feed belongs to the line break. -/
def dropReturn (line : List Char) : List Char :=
  if line.getLast? = some '\r' then line.dropLast else line

/-- The lines of a text without their breaks. The last line needs no break, and no empty line follows
the last break. -/
def lines (cs : List Char) : List (List Char) :=
  let pieces := splitLines cs
  let complete := pieces.dropLast.map dropReturn
  match pieces.getLast? with
  | some (c :: rest) => complete ++ [c :: rest]
  | _ => complete

/-- The text after a beginning, if it begins so. -/
def afterPrefix? : List Char → List Char → Option (List Char)
  | [], cs => some cs
  | _ :: _, [] => none
  | p :: ps, c :: cs => if p = c then afterPrefix? ps cs else none

/-- The text before an end, if it ends so. -/
def beforeSuffix? (suffix cs : List Char) : Option (List Char) :=
  (afterPrefix? suffix.reverse cs.reverse).map List.reverse

theorem afterPrefix?_eq_some_iff {p cs r : List Char} : afterPrefix? p cs = some r ↔ cs = p ++ r := by
  induction p generalizing cs with
  | nil => simp [afterPrefix?, eq_comm]
  | cons a p ih =>
    cases cs with
    | nil => simp [afterPrefix?]
    | cons c cs =>
      by_cases h : a = c
      · subst h; simp [afterPrefix?, ih]
      · simp [afterPrefix?, h, Ne.symm h]

theorem beforeSuffix?_eq_some_iff {s cs r : List Char} :
    beforeSuffix? s cs = some r ↔ cs = r ++ s := by
  simp only [beforeSuffix?, Option.map_eq_some_iff, afterPrefix?_eq_some_iff]
  constructor
  · rintro ⟨a, h, rfl⟩
    have := congrArg List.reverse h
    simpa using this
  · rintro rfl
    exact ⟨r.reverse, by simp, by simp⟩

end SchemaGen.Text

namespace SchemaGen

def onChars (f : List Char → List Char) (s : String) : String := String.ofList (f s.toList)

def trimString (s : String) : String := onChars Text.trim s

def linesOf (s : String) : List String := (Text.lines s.toList).map String.ofList

def firstLine (s : String) : String := (linesOf s).headD ""

end SchemaGen
