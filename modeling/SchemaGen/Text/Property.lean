import SchemaGen.Text.CaseTable
import SchemaGen.Text.PropertyTable
import SchemaGen.Text.WordTable

namespace SchemaGen.Text

def digitValue (c : Char) : Nat := if c.isDigit then c.toNat - 48 else c.toNat - 87

/-- Numbers to the base 36 between blanks. -/
def numbersOf (s : String) : List Nat :=
  ((s.toList.splitOn ' ').filter (!·.isEmpty)).map fun digits =>
    digits.foldl (fun n c => 36 * n + digitValue c) 0

/-- Ranges from runs of characters left out and taken. -/
def rangesOf (start : Nat) : List Nat → List (Nat × Nat)
  | gap :: taken :: rest => (start + gap, start + gap + taken - 1) :: rangesOf (start + gap + taken) rest
  | _ => []

def propertyRanges (name : String) : List (Nat × Nat) :=
  rangesOf 0 (((propertyRuns.lookup name).getD []).flatMap numbersOf)

/-- Short names of general categories with their long names and with what they consist of. -/
def categoryNames : List (String × List String × List String) :=
  [("l", ["letter"], ["lu", "ll", "lt", "lm", "lo"]), ("lc", ["casedletter"], ["lu", "ll", "lt"]),
   ("lu", ["uppercaseletter"], ["lu"]), ("ll", ["lowercaseletter"], ["ll"]),
   ("lt", ["titlecaseletter"], ["lt"]), ("lm", ["modifierletter"], ["lm"]),
   ("lo", ["otherletter"], ["lo"]), ("m", ["mark", "combiningmark"], ["mn", "mc", "me"]),
   ("mn", ["nonspacingmark"], ["mn"]), ("mc", ["spacingmark"], ["mc"]),
   ("me", ["enclosingmark"], ["me"]), ("n", ["number"], ["nd", "nl", "no"]),
   ("nd", ["decimalnumber", "digit"], ["nd"]), ("nl", ["letternumber"], ["nl"]),
   ("no", ["othernumber"], ["no"]),
   ("p", ["punctuation", "punct"], ["pc", "pd", "ps", "pe", "pi", "pf", "po"]),
   ("pc", ["connectorpunctuation"], ["pc"]), ("pd", ["dashpunctuation"], ["pd"]),
   ("ps", ["openpunctuation"], ["ps"]), ("pe", ["closepunctuation"], ["pe"]),
   ("pi", ["initialpunctuation"], ["pi"]), ("pf", ["finalpunctuation"], ["pf"]),
   ("po", ["otherpunctuation"], ["po"]), ("s", ["symbol"], ["sm", "sc", "sk", "so"]),
   ("sm", ["mathsymbol"], ["sm"]), ("sc", ["currencysymbol"], ["sc"]),
   ("sk", ["modifiersymbol"], ["sk"]), ("so", ["othersymbol"], ["so"]),
   ("z", ["separator"], ["zs", "zl", "zp"]), ("zs", ["spaceseparator"], ["zs"]),
   ("zl", ["lineseparator"], ["zl"]), ("zp", ["paragraphseparator"], ["zp"]),
   ("cc", ["control", "cntrl"], ["cc"]), ("cf", ["format"], ["cf"]), ("co", ["privateuse"], ["co"]),
   ("alphabetic", ["alpha"], ["alphabetic"]), ("lowercase", ["lower"], ["lowercase"]),
   ("uppercase", ["upper"], ["uppercase"]),
   ("whitespace", ["wspace", "space"], ["zs", "zl", "zp", "white"]),
   ("latin", ["latn"], ["latin"]), ("greek", ["grek"], ["greek"]),
   ("cyrillic", ["cyrl"], ["cyrillic"]), ("armenian", ["armn"], ["armenian"]),
   ("hebrew", ["hebr"], ["hebrew"]), ("arabic", ["arab"], ["arabic"]),
   ("devanagari", ["deva"], ["devanagari"]), ("thai", [], ["thai"]),
   ("georgian", ["geor"], ["georgian"]), ("hangul", ["hang"], ["hangul"]),
   ("hiragana", ["hira"], ["hiragana"]), ("katakana", ["kana"], ["katakana"]),
   ("han", ["hani"], ["han"])]

/-- A name without the differences that do not count. -/
def looseName (name : List Char) : String :=
  String.ofList ((name.filter fun c => c ≠ '_' && c ≠ '-' && c ≠ ' ').map Char.toLower)

def property? (name : List Char) : Option (Char → Bool) :=
  match looseName name with
  | "any" => some fun _ => true
  | "ascii" => some fun c => c.toNat < 128
  | loose =>
    (categoryNames.find? fun e => e.1 = loose || e.2.1.contains loose).map fun e =>
      let ranges := e.2.2.flatMap fun part =>
        if part = "white" then [(0x09, 0x0D), (0x85, 0x85)] else propertyRanges part
      fun c => inRanges ranges c.toNat

def isWord (c : Char) : Bool :=
  if c.toNat < 128 then c.isAlphanum || c = '_' else inRanges wordRanges c.toNat

def isDigit (c : Char) : Bool :=
  if c.toNat < 128 then c.isDigit else inRanges digitRanges c.toNat

/-- Whether a word begins or ends between two characters, or at an end of the text. -/
def isBoundary (before after : Option Char) : Bool := before.any isWord != after.any isWord

end SchemaGen.Text
