import SchemaGen.Parsing.Parser
import SchemaGen.TypeScript.Grammar.Definition

namespace SchemaGen.TypeScript.Token

open SchemaGen.Grammar SchemaGen.Parsing

/-! ### Characters -/

def isAsciiBlank (c : Char) : Bool := c = ' ' || ('\t' ≤ c && c ≤ '\r')

/-- White space between tokens: Unicode white space, the byte order mark and characters without
width that do not show. -/
def isBlank (c : Char) : Bool :=
  isAsciiBlank c || [0x85, 0xA0, 0x1680, 0x2028, 0x2029, 0x202F, 0x205F, 0x2060, 0x3000, 0x200B,
    0xFEFF].contains c.toNat || (0x2000 ≤ c.toNat && c.toNat ≤ 0x200A)

def isDigit (c : Char) : Bool := '0' ≤ c && c ≤ '9'

def isHexDigit (c : Char) : Bool := isDigit c || ('a' ≤ c && c ≤ 'f') || ('A' ≤ c && c ≤ 'F')

def isLetter (c : Char) : Bool := ('a' ≤ c && c ≤ 'z') || ('A' ≤ c && c ≤ 'Z')

def isWordChar (c : Char) : Bool :=
  !(c.toNat < 0x20 || isBlank c || ":;`\"'@#.,|^&<=>+-*/\\%?!~()[]\x7b\x7d".toList.contains c)

def isWordStart (c : Char) : Bool := isWordChar c && !isDigit c

/-! ### Patterns

A pattern gives the end of its longest match at a place. -/

abbrev Pattern := Text → Nat → Option Nat

/-- The first place from `i` on, within `fuel` characters, whose character is not in the class. -/
def skipWithin (p : Char → Bool) (t : Text) : Nat → Nat → Nat
  | 0, i => i
  | fuel + 1, i => if (t.chars[i]?).elim false p then skipWithin p t fuel (i + 1) else i

/-- The first place from `i` on whose character is not in the class. -/
def skipWhile (p : Char → Bool) (t : Text) (i : Nat) : Nat := skipWithin p t (t.size - i) i

def charAt (t : Text) (i : Nat) (p : Char → Bool) : Bool := (t.chars[i]?).elim false p

def run (p : Char → Bool) : Pattern := fun t i =>
  let j := skipWhile p t i
  if i < j then some j else none

def digits (p : Char → Bool) : Pattern := fun t i =>
  let rec go : Nat → Nat → Nat
    | 0, j => j
    | fuel + 1, j =>
      let j := skipWhile p t j
      if charAt t j (· = '_') && charAt t (j + 1) p then go fuel (j + 1) else j
  if charAt t i p then some (go t.size i) else none

/-- A number in another base, after `0` and one of two letters. -/
def basedDigits (lower upper : Char) (p : Char → Bool) : Pattern := fun t i =>
  if charAt t i (· = '0') && charAt t (i + 1) (fun c => c = lower || c = upper)
  then digits p t (i + 2) else none

def longest (xs : List (Option Nat)) : Option Nat :=
  xs.foldl (fun best x => match best, x with
    | some a, some b => some (max a b)
    | none, x => x
    | best, none => best) none

def exponent (t : Text) (i : Nat) : Option Nat :=
  if charAt t i (fun c => c = 'e' || c = 'E') then
    let j := if charAt t (i + 1) (fun c => c = '-' || c = '+') then i + 2 else i + 1
    digits isDigit t j
  else none

/-- The whole part of a decimal number: zero, or digits with at most one leading zero. -/
def wholePart (t : Text) (i : Nat) : Option Nat :=
  let rest (j : Nat) : Option Nat :=
    if charAt t j (fun c => '1' ≤ c && c ≤ '9') then
      let k := if charAt t (j + 1) (· = '_') then j + 2 else j + 1
      longest [some (j + 1), digits isDigit t k]
    else none
  if charAt t i (· = '0') then longest [some (i + 1), rest (i + 1)] else rest i

def number : Pattern := fun t i =>
  let hex := basedDigits 'x' 'X' isHexDigit t i
  let binary := basedDigits 'b' 'B' (fun c => c = '0' || c = '1') t i
  let octal := basedDigits 'o' 'O' (fun c => '0' ≤ c && c ≤ '7') t i
  let plain := digits isDigit t i
  let big := longest ([hex, binary, octal, plain].map fun e =>
    e.bind fun j => if charAt t j (· = 'n') then some (j + 1) else none)
  let whole := wholePart t i
  let fraction := whole.bind fun j =>
    if charAt t j (· = '.') then
      let k := (digits isDigit t (j + 1)).getD (j + 1)
      longest [some k, exponent t k]
    else none
  let bare := if charAt t i (· = '.') then
      (digits isDigit t (i + 1)).bind fun k => longest [some k, exponent t k]
    else none
  let scientific := whole.bind (exponent t)
  longest [hex, binary, octal, big, plain, fraction, bare, scientific]

/-- An escaped character in a word: `\uXXXX` or `\u{X…}`. -/
def unicodeEscape : Pattern := fun t i =>
  if charAt t i (· = '\\') && charAt t (i + 1) (· = 'u') then
    if charAt t (i + 2) (· = '\x7b') then
      (run isHexDigit t (i + 3)).bind fun j =>
        if charAt t j (· = '\x7d') then some (j + 1) else none
    else if (List.range 4).all fun k => charAt t (i + 2 + k) isHexDigit then some (i + 6)
    else none
  else none

def word : Pattern := fun t i =>
  let rec go : Nat → Nat → Nat
    | 0, j => j
    | fuel + 1, j =>
      let j := skipWhile isWordChar t j
      match unicodeEscape t j with
      | some k => go fuel k
      | none => j
  if charAt t i isWordStart then some (go t.size i)
  else (unicodeEscape t i).map (go t.size)

def privateName : Pattern := fun t i =>
  if charAt t i (· = '#') then word t (i + 1) else none

def isLineEnd (c : Char) : Bool := c = '\n' || c = '\r' || c.toNat = 0x2028 || c.toNat = 0x2029

def closeComment (t : Text) (i : Nat) : Option Nat :=
  let rec go : Nat → Nat → Option Nat
    | 0, _ => none
    | fuel + 1, i =>
      if charAt t i (· = '*') && charAt t (i + 1) (· = '/') then some (i + 2) else go fuel (i + 1)
  go (t.size - i) i

def comment : Pattern := fun t i =>
  if !charAt t i (· = '/') then none
  else if charAt t (i + 1) (· = '/') then some (skipWhile (!isLineEnd ·) t (i + 2))
  else if charAt t (i + 1) (· = '*') then closeComment t (i + 2)
  else none

def hashBang : Pattern := fun t i =>
  if charAt t i (· = '#') && charAt t (i + 1) (· = '!') then
    some (skipWhile (· ≠ '\n') t (i + 2))
  else none

/-- Text inside quotes, up to a quote, a backslash or the end of the line. -/
def fragment (quote : Char) : Pattern :=
  run fun c => c ≠ quote && c ≠ '\\' && c ≠ '\n' && c ≠ '\r'

def isOctalDigit (c : Char) : Bool := '0' ≤ c && c ≤ '7'

def escapeSequence : Pattern := fun t i =>
  if !charAt t i (· = '\\') then none else
  let simple := if charAt t (i + 1) (fun c => c ≠ 'x' && c ≠ 'u' && !isOctalDigit c)
    then some (i + 2) else none
  let octal := if charAt t (i + 1) isOctalDigit
    then some (min (skipWhile isOctalDigit t (i + 1)) (i + 4)) else none
  let hex := if charAt t (i + 1) (· = 'x') && charAt t (i + 2) isHexDigit &&
    charAt t (i + 3) isHexDigit then some (i + 4) else none
  let lineBreak := if charAt t (i + 1) (fun c => c = '\r' || c = '?') &&
    charAt t (i + 2) (fun c => c = '\n' || c.toNat = 0x2028 || c.toNat = 0x2029)
    then some (i + 3) else none
  longest [simple, octal, hex, unicodeEscape t i, lineBreak]

/-- The body of a regular expression, up to a slash outside of brackets. -/
def regexBody : Pattern := fun t i =>
  let escaped (j : Nat) := charAt t j (· = '\\') && charAt t (j + 1) (· ≠ '\n')
  let rec closeClass : Nat → Nat → Option Nat
    | 0, _ => none
    | fuel + 1, j =>
      if charAt t j (· = ']') then some (j + 1)
      else if escaped j then closeClass fuel (j + 2)
      else if charAt t j (fun c => c ≠ '\n' && c ≠ '\\') then closeClass fuel (j + 1)
      else none
  let rec go : Nat → Nat → Nat
    | 0, j => j
    | fuel + 1, j =>
      if charAt t j (· = '[') then match closeClass (t.size + 1) (j + 1) with
        | some k => go fuel k
        | none => j
      else if escaped j then go fuel (j + 2)
      else if charAt t j (fun c => c ≠ '/' && c ≠ '\\' && c ≠ '\n') then go fuel (j + 1)
      else j
  let stop := go (t.size + 1) i
  if i < stop then some stop else none

/-! ### The scanner -/

structure Codes where
  word : Nat
  semicolon : Nat
  signatureSemicolon : Nat
  template : Nat
  questionMark : Nat
  htmlComment : Nat
  logicalOr : Nat
  escape : Nat
  regexBody : Nat
  regexEnd : Nat
  doubleFragment : Nat
  singleFragment : Nat
  regexFlags : Nat
  number : Nat
  privateName : Nat
  comment : Nat
  hashBang : Nat
  /-- Punctuation by the number of its first character, the longest first. -/
  punctuation : Std.HashMap Nat (List (Array Char × Nat))
  keywords : Std.HashMap String Nat
  /-- Keywords and words. -/
  words : TokenSet

def Codes.ofFlat (g : Flat) : Codes :=
  let named (n : String) := g.names.getD n 0
  let isWord (s : String) := s.toList.all isWordChar
  let literals := g.literals.toList
  let punctuation := (literals.filter fun x => !isWord x.1).foldl (fun m (s, code) =>
    match s.toList with
    | [] => m
    | c :: _ => m.insert c.toNat ((s.toList.toArray, code) :: m.getD c.toNat []))
    ({} : Std.HashMap Nat (List (Array Char × Nat)))
  let values := ["this", "super", "true", "false", "null", "undefined"].map fun s => (s, named s)
  let keywords := literals.filter (fun x => isWord x.1) ++ values
  { word := g.word
    semicolon := named "_automatic_semicolon"
    signatureSemicolon := named "_function_signature_automatic_semicolon"
    template := named "_template_chars"
    questionMark := named "_ternary_qmark"
    htmlComment := named "html_comment"
    logicalOr := g.literals.getD "||" 0
    escape := named "escape_sequence"
    regexBody := named "regex_pattern"
    regexEnd := named "regex_end"
    doubleFragment := named "unescaped_double_string_fragment"
    singleFragment := named "unescaped_single_string_fragment"
    regexFlags := named "regex_flags"
    number := named "number"
    privateName := named "private_property_identifier"
    comment := named "comment"
    hashBang := named "hash_bang_line"
    punctuation := punctuation.map fun _ xs => xs.mergeSort fun a b => b.1.size ≤ a.1.size
    keywords := Std.HashMap.ofList keywords
    words := keywords.foldl (fun acc x => acc ||| (1 <<< x.2)) (1 <<< g.word) }

/-- The tokens to look for where no token fits. Those that could be part of almost any text are left
out. -/
def Codes.anywhere (k : Codes) (g : Flat) : TokenSet :=
  let excluded := [k.doubleFragment, k.singleFragment, k.regexFlags, k.semicolon,
    k.signatureSemicolon, k.template, k.questionMark, k.htmlComment, g.literals.getD "?:" 0]
  (List.range g.tokenCount).foldl (fun acc t =>
    if t ≠ 0 && excluded.contains t then acc else acc ||| (1 <<< t)) 0

/-- The longest of the given texts that stands at a place and can be a token there. -/
def matchPunctuation (k : Codes) (t : Text) (i : Nat) (valid : TokenSet) : Option (Nat × Nat) :=
  match t.chars[i]? with
  | none => none
  | some c => (k.punctuation.getD c.toNat []).findSome? fun (s, code) =>
    if valid.testBit code && (List.range s.size).all fun j => t.chars[i + j]? = s[j]?
    then some (code, i + s.size) else none

def attached (k : Codes) (t : Text) (i : Nat) (valid : TokenSet) : Option Lexeme :=
  let candidates := [(k.doubleFragment, fragment '"'), (k.singleFragment, fragment '\''),
    (k.escape, escapeSequence), (k.regexEnd, fun t i =>
      if charAt t i (· = '/') then some (i + 1) else none),
    (k.regexBody, regexBody), (k.regexFlags, run fun c => 'a' ≤ c && c ≤ 'z')]
  candidates.findSome? fun (code, pattern) =>
    if valid.testBit code then (pattern t i).map fun j => ⟨code, i, j⟩ else none

def detached (k : Codes) (t : Text) (i : Nat) (valid : TokenSet) : Option Lexeme :=
  let start := skipWhile isBlank t i
  let patterns := [(k.number, number), (k.privateName, privateName), (k.comment, comment),
    (k.hashBang, hashBang)]
  let matched := patterns.filterMap fun (code, pattern) =>
    if valid.testBit code then (pattern t start).map fun j => (code, j) else none
  let worded := if valid &&& k.words = 0 then none else (word t start).map fun j => (k.word, j)
  let ended := if start = t.size && valid.testBit 0 then some (0, start) else none
  let all := (matchPunctuation k t start valid).toList ++ matched ++ worded.toList ++ ended.toList
  let best := all.foldl (fun best x => match best with
    | none => some x
    | some b => if b.2 < x.2 then some x else some b) (none : Option (Nat × Nat))
  best.map fun (code, stop) => ⟨code, start, stop⟩

def plain (k : Codes) (t : Text) (i : Nat) (valid : TokenSet) : Option Lexeme :=
  -- The body of a regular expression gives way to any other token.
  let body := 1 <<< k.regexBody
  let loose := if valid.testBit k.regexBody && valid.testBit k.word then valid ^^^ body else valid
  attached k t i loose <|> detached k t i valid <|>
    (if loose = valid then none else attached k t i body)

/-- Skip white space and comments before a line; `none` if a slash stands there, else the place and
whether there was a comment. -/
def skipLines (t : Text) (i : Nat) : Option Nat × Bool :=
  let rec go : Nat → Nat → Bool → Option Nat × Bool
    | 0, i, seen => (some i, seen)
    | fuel + 1, i, seen =>
      let i := skipWhile isAsciiBlank t i
      if !charAt t i (· = '/') then (some i, seen)
      else if charAt t (i + 1) (· = '/') then go fuel (skipWhile (· ≠ '\n') t (i + 2)) true
      else if charAt t (i + 1) (· = '*') then
        go fuel ((closeComment t (i + 2)).getD t.size) seen
      else (none, seen)
  go (t.size + 1) i false

/-- Whether the word at a place is the operator `in` or `instanceof`. -/
def isWordOperator (t : Text) (i : Nat) : Bool :=
  if !charAt t (i + 1) (· = 'n') then false
  else if !charAt t (i + 2) isLetter then true
  else
    let rest := "stanceof".toList
    ((rest.zipIdx.all fun (c, j) => charAt t (i + 2 + j) (· = c))) &&
      !charAt t (i + 10) isLetter

/-- Whether a semicolon is understood before what begins a new line at `i`. -/
def semicolonBefore (k : Codes) (valid : TokenSet) (t : Text) (i : Nat) : Bool :=
  match t.chars[i]? with
  | none => true
  | some c =>
    if "`,.;*%><=?^|&/:".toList.contains c then false
    else if c = '\x7b' then !valid.testBit k.signatureSemicolon
    else if c = '(' || c = '[' then !valid.testBit k.logicalOr
    else if c = '+' then charAt t (i + 1) (· = '+')
    else if c = '-' then charAt t (i + 1) (· = '-')
    else if c = '!' then !charAt t (i + 1) (· = '=')
    else if c = 'i' then !isWordOperator t i
    else true

/-- Whether a semicolon that is not written is understood at a place: at the end of the input, before
a closing brace, and at the end of a line that the next one does not continue. Also tells the place
that was looked at last and whether a comment was passed. -/
def impliedSemicolon (k : Codes) (valid : TokenSet) (t : Text) (i : Nat) : Bool × Nat × Bool :=
  let j := skipWhile (fun c => isAsciiBlank c && c ≠ '\n') t i
  match t.chars[j]? with
  | none => (true, j, false)
  | some '\x7d' =>
    let k' := skipWhile isAsciiBlank t (j + 1)
    (if charAt t k' (· = ':') then valid.testBit k.logicalOr else true, k', false)
  | some '\n' =>
    match skipLines t (j + 1) with
    | (none, seen) => (false, t.size, seen)
    | (some i, seen) => (semicolonBefore k valid t i, i, seen)
  | some _ => (false, j, false)

/-- The question mark of a conditional expression, as opposed to that of an optional parameter or of
an optional chain. -/
def questionMark (k : Codes) (t : Text) (i : Nat) : Option Lexeme :=
  let start := skipWhile isAsciiBlank t i
  if !charAt t start (· = '?') || charAt t (start + 1) (· = '?') then none else
  let j := skipWhile isAsciiBlank t (start + 1)
  if charAt t j (fun c => c = ':' || c = ')' || c = ',') then none
  else if charAt t j (· = '.') && !charAt t (j + 1) isDigit then none
  else some ⟨k.questionMark, start, start + 1⟩

/-- The text of a template up to a substitution, an escape or the closing backquote. -/
def templateText (k : Codes) (t : Text) (i : Nat) : Option Lexeme :=
  let rec go : Nat → Nat → Option Nat
    | 0, _ => none
    | fuel + 1, j =>
      match t.chars[j]? with
      | none | some '\x00' => none
      | some c =>
        if c = '\x60' || c = '\\' then some j
        else if c = '$' && charAt t (j + 1) (· = '\x7b') then some j
        else go fuel (j + 1)
  (go (t.size + 1) i).bind fun j => if i < j then some ⟨k.template, i, j⟩ else none

/-- A comment from `<!--` or `-->` to the end of the line. -/
def htmlComment (k : Codes) (t : Text) (i : Nat) : Option Lexeme :=
  let start := skipWhile (fun c => isAsciiBlank c || c.toNat = 0x2028 || c.toNat = 0x2029) t i
  let opens (s : String) := s.toList.zipIdx.all fun (c, j) => charAt t (start + j) (· = c)
  let toLineEnd := skipWhile fun c => c ≠ '\n' && c.toNat ≠ 0x2028 && c.toNat ≠ 0x2029
  if opens "<!--" then some ⟨k.htmlComment, start, toLineEnd t (start + 4)⟩
  else if opens "-->" then some ⟨k.htmlComment, start, toLineEnd t (start + 3)⟩
  else none

def contextual (k : Codes) (t : Text) (i : Nat) (valid : TokenSet) : Option Lexeme :=
  if valid.testBit k.template then
    if valid.testBit k.semicolon then none else templateText k t i
  else if valid.testBit k.semicolon || valid.testBit k.signatureSemicolon then
    let (found, place, seenComment) := impliedSemicolon k valid t i
    if found then some ⟨k.semicolon, i, i⟩
    else if !seenComment && valid.testBit k.questionMark && charAt t place (· = '?') then
      questionMark k t place
    else none
  else if valid.testBit k.questionMark then questionMark k t i
  else if valid.testBit k.htmlComment && !valid.testBit k.logicalOr && !valid.testBit k.escape &&
      !valid.testBit k.regexBody then htmlComment k t i
  else none

def scanner (g : Flat) : Scanner :=
  let k := Codes.ofFlat g
  { contextual := contextual k
    plain := plain k
    keyword := fun s => k.keywords[s]?
    anywhere := k.anywhere g
    isBlank := isBlank }

/-- Whether a token that is no fixed text can begin with a character. -/
def beginsPattern (k : Codes) (token : Nat) (c : Char) : Bool :=
  if token = k.word then isWordStart c || c = '\\'
  else if token = k.number then isDigit c || c = '.'
  else if token = k.privateName || token = k.hashBang then c = '#'
  else if token = k.comment || token = k.regexEnd then c = '/'
  else if token = k.escape then c = '\\'
  else if token = k.regexFlags then 'a' ≤ c && c ≤ 'z'
  else if token = k.regexBody then c ≠ '/' && c ≠ '\n'
  else if token = k.doubleFragment then c ≠ '"' && c ≠ '\\' && c ≠ '\n'
  else if token = k.singleFragment then c ≠ '\'' && c ≠ '\\' && c ≠ '\n'
  else false

def lexicon (g : Flat) : Lexicon :=
  let k := Codes.ofFlat g
  let initials := (g.literals.toList ++ k.keywords.toList).foldl (fun m (s, code) =>
    m.insert code (s.toList.headD ' ')) ({} : Std.HashMap Nat Char)
  { contextual := [k.semicolon, k.signatureSemicolon, k.template, k.questionMark, k.htmlComment,
      k.logicalOr, k.escape, k.regexBody].foldl (fun acc t => acc ||| (1 <<< t)) 0
    begins := fun token c => match initials[token]? with
      | some i => i = c
      | none => beginsPattern k token c }

end SchemaGen.TypeScript.Token
