namespace SchemaGen.CommandLine

inductive Json where
  | null
  | text (s : String)
  | number (n : Nat)
  | list (items : List Json)
  | object (entries : List (String × Json))
  deriving Inhabited

namespace Json

def hexDigit (n : Nat) : Char :=
  if n < 10 then Char.ofNat ('0'.toNat + n) else Char.ofNat ('a'.toNat + n - 10)

def escaped (c : Char) : String :=
  if c = '"' then "\\\""
  else if c = '\\' then "\\\\"
  else if c = '\n' then "\\n"
  else if c = '\r' then "\\r"
  else if c = '\t' then "\\t"
  else if c = '\x08' then "\\b"
  else if c = '\x0c' then "\\f"
  else if c.toNat < 32 then
    "\\u00" ++ String.ofList [hexDigit (c.toNat / 16), hexDigit (c.toNat % 16)]
  else c.toString

def quoted (s : String) : String := "\"" ++ String.join (s.toList.map escaped) ++ "\""

/-- Items on lines of their own, two columns further than what is around them. -/
def block (opening closing : String) (indent : Nat) : List String → String
  | [] => opening ++ closing
  | items =>
    let margin := String.ofList (List.replicate indent ' ')
    opening ++ "\n" ++ ",\n".intercalate (items.map fun item => margin ++ "  " ++ item) ++ "\n" ++
      margin ++ closing

mutual

def pretty (indent : Nat) : Json → String
  | null => "null"
  | text s => quoted s
  | number n => toString n
  | list items => block "[" "]" indent (prettyItems (indent + 2) items)
  | object entries => block "\x7b" "\x7d" indent (prettyEntries (indent + 2) entries)

def prettyItems (indent : Nat) : List Json → List String
  | [] => []
  | item :: items => pretty indent item :: prettyItems indent items

def prettyEntries (indent : Nat) : List (String × Json) → List String
  | [] => []
  | (name, value) :: entries =>
    (quoted name ++ ": " ++ pretty indent value) :: prettyEntries indent entries

end

end Json

end SchemaGen.CommandLine
