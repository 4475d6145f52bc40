import SchemaGen.Proofs.Run.Tree
import SchemaGen.Proofs.Schema.Reading
import SchemaGen.Proofs.TypeScript.PropertyName
import SchemaGen.Proofs.Zod.TextLiteral
import SchemaGen.Zod.Validator

namespace SchemaGen.Zod

open Syntax TypeScript

/-- Whether a double quote is escaped in the contents of a literal. -/
def escapesQuote : List Char → Bool
  | '\\' :: c :: cs => c = '"' || escapesQuote cs
  | _ :: cs => escapesQuote cs
  | [] => false

theorem escapesQuote_cons {c : Char} (hc : c ≠ '\\') (cs : List Char) :
    escapesQuote (c :: cs) = escapesQuote cs := by
  conv_lhs => rw [escapesQuote.eq_def]
  split
  · next heq => exact absurd (List.cons.inj heq).1 hc
  · next heq => rw [(List.cons.inj heq).2]
  · next heq => cases heq

theorem escapesQuote_append {e : List Char} (he : '\\' ∉ e) (cs : List Char) :
    escapesQuote (e ++ cs) = escapesQuote cs := by
  induction e with
  | nil => rfl
  | cons c e ih =>
    rw [List.mem_cons, not_or] at he
    rw [List.cons_append, escapesQuote_cons (Ne.symm he.1), ih he.2]

theorem escapeQuotes_cons (c : Char) (cs : List Char) :
    escapeQuotes (c :: cs) = (if c = '"' then ['\\', '"'] else [c]) ++ escapeQuotes cs := rfl

theorem escapeQuotes_append (cs ds : List Char) :
    escapeQuotes (cs ++ ds) = escapeQuotes cs ++ escapeQuotes ds := List.flatMap_append

theorem escapeQuotes_of_notMem {cs : List Char} (h : '"' ∉ cs) : escapeQuotes cs = cs := by
  induction cs with
  | nil => rfl
  | cons c cs ih =>
    rw [List.mem_cons, not_or] at h
    rw [escapeQuotes_cons, if_neg (Ne.symm h.1), ih h.2]
    rfl

theorem follows_escapeQuotes (cs behind : List Char) : Follows (cs ++ behind) (escapeQuotes cs ++ ['"']) := by
  cases cs with
  | nil => exact .inr (by simp [escapeQuotes])
  | cons c cs =>
    rw [escapeQuotes_cons]
    split_ifs with hquote
    · exact .inr (by simp)
    · exact .inl rfl

/-- Between quotes a name with its quotes escaped stands for the same, if none of them was escaped before. -/
theorem stringUnits?_of_contentUnits? {cs : List Char} {v : List Nat} (h : contentUnits? cs = some v)
    (hescapes : escapesQuote cs = false) : stringUnits? '"' (escapeQuotes cs ++ ['"']) = some v := by
  generalize hn : cs.length = n
  induction n using Nat.strongRecOn generalizing cs v with
  | ind n ih =>
    subst hn
    cases cs with
    | nil =>
      rw [contentUnits?] at h
      rw [← Option.some.inj h]
      exact stringUnits?_quote
    | cons c cs =>
      rcases contentUnits?_cases h with ⟨rfl, us, rest, vs, hescape, hrest, rfl⟩ | ⟨hc, vs, hvs, rfl⟩
      · obtain ⟨d, e, rfl, hplain, hread⟩ := exists_of_escape? hescape
        have hmark {m : Char} (hm : (m.isAlphanum = true ∨ m = '\x7b' ∨ m = '\x7d' ∨ m = '\n') → False) :
            m ∉ e := fun hmem => hm (hplain m hmem)
        have hquote : '"' ∉ e := hmark (by decide)
        rw [escapesQuote, Bool.or_eq_false_iff, decide_eq_false_iff_not,
          escapesQuote_append (hmark (by decide))] at hescapes
        have hfollows := follows_escapeQuotes rest []
        rw [List.append_nil] at hfollows
        have hlater := ih rest.length (by simp only [List.length_cons, List.length_append]; omega) hrest
          hescapes.2 rfl
        rw [escapeQuotes_cons, if_neg (by decide), escapeQuotes_cons, if_neg hescapes.1,
          escapeQuotes_append, escapeQuotes_of_notMem hquote, List.singleton_append,
          List.singleton_append, List.cons_append, List.cons_append, List.append_assoc,
          stringUnits?_escape (by decide) (hread _ hfollows), hlater]
        rfl
      · obtain ⟨-, hbackslash, hline⟩ := isOrdinary_iff.1 hc
        rw [escapesQuote_cons hbackslash] at hescapes
        have hlater := ih cs.length (by simp) hvs hescapes rfl
        rw [escapeQuotes_cons, List.append_assoc]
        split_ifs with hquote
        · subst hquote
          have hescape : escape? ('"' :: (escapeQuotes cs ++ ['"'])) =
              some ([34], escapeQuotes cs ++ ['"']) := rfl
          rw [List.cons_append, List.singleton_append, stringUnits?_escape (by decide) hescape, hlater]
          rfl
        · have hordinary : isOrdinary '"' c = true := isOrdinary_iff.2 ⟨hquote, hbackslash, hline⟩
          rw [List.singleton_append, stringUnits?_ordinary hordinary, hlater]
          rfl

/-- Contents of a literal, with their quotes escaped, mean the same between double quotes, or nothing if
one of the quotes was escaped before. -/
theorem stringUnits?_escapeQuotes {quote : Char} {cs : List Char}
    {v : List Nat} (h : stringUnits? quote (cs ++ [quote]) = some v) :
    stringUnits? '"' (escapeQuotes cs ++ ['"']) = if escapesQuote cs then none else some v := by
  refine contents_induction (motive := fun cs v =>
    stringUnits? '"' (escapeQuotes cs ++ ['"']) = if escapesQuote cs then none else some v)
    ?_ (fun d e us r vs he hread ih => ?_) (fun c cs vs hc ih => ?_) h
  · exact stringUnits?_quote
  · have hleft : escapeQuotes ('\\' :: d :: (e ++ r)) ++ ['"'] = '\\' ::
        ((if d = '"' then ['\\', '"'] else [d]) ++ (e ++ (escapeQuotes r ++ ['"']))) := by
      rw [escapeQuotes_cons, if_neg (by decide), escapeQuotes_cons, escapeQuotes_append,
        escapeQuotes_of_notMem he.2.1]
      simp
    have hright : escapesQuote ('\\' :: d :: (e ++ r)) = (d = '"' || escapesQuote r) := by
      rw [escapesQuote, escapesQuote_append he.1]
    rw [hleft, hright]
    by_cases hd : d = '"'
    · -- The backslash that was there escapes the new one, and the quote ends the literal.
      have hescape : escape? ('\\' :: '"' :: (e ++ (escapeQuotes r ++ ['"']))) =
          some ([92], '"' :: (e ++ (escapeQuotes r ++ ['"']))) := rfl
      rw [if_pos hd, decide_eq_true hd, Bool.true_or, if_pos rfl, List.cons_append,
        List.singleton_append, stringUnits?_escape (by decide) hescape,
        stringUnits?_quote_cons (by simp)]
      rfl
    · rw [if_neg hd, decide_eq_false hd, Bool.false_or, List.singleton_append,
        stringUnits?_escape (by decide) (hread _ (follows_escapeQuotes r [quote])), ih]
      split_ifs <;> rfl
  · obtain ⟨-, hbackslash, hfeed⟩ := isOrdinary_iff.1 hc
    rw [escapeQuotes_cons, List.append_assoc, escapesQuote_cons hbackslash]
    by_cases hquote : c = '"'
    · rw [if_pos hquote]
      have hescape : escape? ('"' :: (escapeQuotes cs ++ ['"'])) =
          some ([34], escapeQuotes cs ++ ['"']) := rfl
      rw [List.cons_append, List.singleton_append, stringUnits?_escape (by decide) hescape, ih, hquote]
      split_ifs <;> rfl
    · have hordinary : isOrdinary '"' c = true := isOrdinary_iff.2 ⟨hquote, hbackslash, hfeed⟩
      rw [if_neg hquote, List.singleton_append, stringUnits?_ordinary hordinary, ih]
      split_ifs <;> rfl

theorem isIdentifierPart_of_isNameRest {c : Char} (h : isNameRest c = true) :
    isIdentifierPart c.toNat = true := by
  have hascii : c.toNat < 128 := by
    simp only [isNameRest, Bool.or_eq_true, decide_eq_true_eq] at h
    rcases h with (h | rfl) | rfl
    · exact lt_of_isAlphanum h
    · decide
    · decide
  refine Text.forall_ascii (P := fun c => isNameRest c = true → isIdentifierPart c.toNat = true) ?_
    c hascii h
  decide +kernel

theorem isIdentifierStart_of_isNameStart {c : Char} (h : isNameStart c = true) :
    isIdentifierStart c.toNat = true ∧ isQuote c = false ∧ (c.isDigit || c = '.') = false := by
  have hascii : c.toNat < 128 := by
    simp only [isNameStart, Bool.or_eq_true, decide_eq_true_eq] at h
    rcases h with (h | rfl) | rfl
    · exact lt_of_isAlphanum (by rw [Char.isAlphanum, h, Bool.true_or])
    · decide
    · decide
  refine Text.forall_ascii (P := fun c => isNameStart c = true →
    isIdentifierStart c.toNat = true ∧ isQuote c = false ∧ (c.isDigit || c = '.') = false) ?_ c hascii h
  decide +kernel

theorem isIdentifierPart_of_isPlainName {cs : List Char} (h : isPlainName cs = true) :
    ∀ c ∈ cs, isIdentifierPart c.toNat = true := by
  cases cs with
  | nil => simp
  | cons c cs =>
    rw [isPlainName, Bool.and_eq_true, List.all_eq_true] at h
    have hstart := (isIdentifierStart_of_isNameStart h.1).1
    rw [isIdentifierStart, Bool.and_eq_true] at hstart
    exact List.forall_mem_cons.2 ⟨hstart.1, fun d hd => isIdentifierPart_of_isNameRest (h.2 d hd)⟩

theorem backslash_notMem {cs : List Char} (h : ∀ c ∈ cs, isIdentifierPart c.toNat = true) :
    '\\' ∉ cs := fun hmem => absurd (h _ hmem) (by decide)

theorem isWordOf_of_isPlainName {cs : List Char} (h : isPlainName cs = true) :
    isWordOf (cs.map Char.toNat) = true := by
  have hparts := isIdentifierPart_of_isPlainName h
  cases cs with
  | nil => cases h
  | cons c cs =>
    rw [isPlainName, Bool.and_eq_true] at h
    rw [List.map_cons, isWordOf, (isIdentifierStart_of_isNameStart h.1).1, Bool.true_and, List.all_map,
      List.all_eq_true]
    exact fun d hd => hparts d (List.mem_cons_of_mem c hd)

theorem nameUnits?_of_isPlainName {cs : List Char} (h : isPlainName cs = true) :
    nameUnits? cs = some (cs.flatMap (units ·.toNat)) := by
  have hparts := isIdentifierPart_of_isPlainName h
  have hcodes := codePoints?_of_notMem (backslash_notMem hparts)
  cases cs with
  | nil => cases h
  | cons c cs =>
    have hword := isWordOf_of_isPlainName h
    rw [isPlainName, Bool.and_eq_true] at h
    obtain ⟨-, hquote, hdigit⟩ := isIdentifierStart_of_isNameStart h.1
    rw [nameUnits?, hquote, if_neg (by decide), hdigit, if_neg (by decide), hcodes, Option.bind_some,
      if_pos hword, List.flatMap_map]

theorem propertyKey_of_isPlainName {cs : List Char} (h : isPlainName cs = true) :
    (propertyKey (.ofList cs)).toList = cs := by
  rw [propertyKey, String.toList_ofList, h, if_pos rfl, String.toList_ofList]

theorem nameUnits?_quoted {cs : List Char} (h : isPlainName cs = false) :
    nameUnits? (propertyKey (.ofList cs)).toList = stringUnits? '"' (escapeQuotes cs ++ ['"']) := by
  rw [propertyKey, String.toList_ofList, h, if_neg (by decide), quoted]
  simp only [String.toList_append, String.toList_ofList]
  rfl

theorem isOrdinary_of_isNumeralChar {c : Char} (h : isNumeralChar c = true) : isOrdinary '"' c = true := by
  refine isOrdinary_iff.2 ⟨?_, ?_, ?_, ?_⟩ <;>
  · rintro rfl
    exact absurd h (by decide)

/-- A word is written as it is or between quotes, and means the same. -/
theorem nameUnits?_word {cs : List Char} {ns : List Nat} (h : codePoints? cs = some ns)
    (hword : isWordOf ns = true) :
    nameUnits? (propertyKey (.ofList cs)).toList = some (ns.flatMap units) := by
  have hparts : ∀ n ∈ ns, isIdentifierPart n = true := by
    cases ns with
    | nil => simp
    | cons n ns =>
      rw [isWordOf, isIdentifierStart, Bool.and_eq_true, Bool.and_eq_true, List.all_eq_true] at hword
      exact List.forall_mem_cons.2 ⟨hword.1.1, hword.2⟩
  cases hplain : isPlainName cs with
  | true =>
    rw [propertyKey_of_isPlainName hplain, nameUnits?_of_isPlainName hplain]
    rw [codePoints?_of_notMem (backslash_notMem (isIdentifierPart_of_isPlainName hplain))] at h
    rw [← Option.some.inj h, List.flatMap_map]
  | false =>
    have hquote : '"' ∉ cs := fun hmem => absurd (isMark_of_codePoints? h hparts _ hmem) (by decide)
    rw [nameUnits?_quoted hplain, escapeQuotes_of_notMem hquote,
      stringUnits?_of_codePoints? (by decide) h hparts]

/-- Characters that stand for themselves between quotes are written as they are, or between quotes. -/
theorem nameUnits?_ordinary {cs : List Char} (h : ∀ c ∈ cs, isOrdinary '"' c = true) :
    nameUnits? (propertyKey (.ofList cs)).toList = some (cs.flatMap (units ·.toNat)) := by
  cases hplain : isPlainName cs with
  | true => rw [propertyKey_of_isPlainName hplain, nameUnits?_of_isPlainName hplain]
  | false =>
    have hquote : '"' ∉ cs := fun hmem => (isOrdinary_iff.1 (h _ hmem)).1 rfl
    rw [nameUnits?_quoted hplain, escapeQuotes_of_notMem hquote, stringUnits?_of_ordinary h]

/-- Contents of a literal are written so that they mean the same, unless a double quote is escaped in them. -/
theorem nameUnits?_contents {quote : Char} (hquote : isQuote quote = true) {cs : List Char} {v : List Nat}
    (h : stringUnits? quote (cs ++ [quote]) = some v) :
    nameUnits? (propertyKey (.ofList cs)).toList = if escapesQuote cs then none else some v := by
  cases hplain : isPlainName cs with
  | true =>
    have hparts := isIdentifierPart_of_isPlainName hplain
    rw [stringUnits?_of_ordinary fun c hc => isOrdinary_of_isIdentifierPart hquote (hparts c hc)] at h
    have hescape := escapesQuote_append (backslash_notMem hparts) []
    rw [List.append_nil] at hescape
    rw [propertyKey_of_isPlainName hplain, nameUnits?_of_isPlainName hplain, hescape, ← h]
    rfl
  | false => rw [nameUnits?_quoted hplain, stringUnits?_escapeQuotes h]

theorem exists_property {property name : Node} (hkind : property.kind = "property_signature")
    (hname : property.field? "name" = some name) {text : String}
    (h : Schema.propertyName? name = some text) :
    ∃ p, Schema.Member.ofNode property = .property p ∧ p.name = text := by
  rw [Schema.Member.ofNode_eq, hkind, hname]
  simp only [Option.bind_some, h]
  exact ⟨_, rfl, rfl⟩

/-- What is read as the name of a property is written as a key that means the same, for every word. For a
literal it does unless a double quote is escaped in it, and then the key is not one. For a numeral the key
means the text of the numeral. -/
theorem ofNode_propertyKey {property name : Node} {v : List Nat}
    (hkind : property.kind = "property_signature") (hname : property.field? "name" = some name)
    (hspelled : name.kind = nameKind name.text.toList) (hv : nameUnits? name.text.toList = some v) :
    ∃ p, Schema.Member.ofNode property = .property p ∧
      (name.kind = "property_identifier" → nameUnits? (propertyKey p.name).toList = some v) ∧
      (name.kind = "string" → nameUnits? (propertyKey p.name).toList =
        if escapesQuote (Schema.Literal.contents name.text.toList) then none else some v) ∧
      (name.kind = "number" → nameUnits? (propertyKey p.name).toList =
        some (name.text.toList.flatMap (units ·.toNat))) := by
  have htext : String.ofList name.text.toList = name.text := String.ofList_toList
  have hread (text : String) (h : Schema.propertyName? name = some text) :=
    exists_property hkind hname h
  generalize hcs : name.text.toList = cs at hspelled hv htext ⊢
  cases cs with
  | nil => cases hv
  | cons c cs =>
    rw [nameKind] at hspelled
    rw [nameUnits?] at hv
    split_ifs at hspelled hv with hquote hdigit
    · obtain ⟨contents, rfl⟩ := exists_of_stringUnits? hv
      have hcontents := Schema.Literal.contents_quoted hquote contents
      obtain ⟨p, hp, hpname⟩ := hread (.ofList contents) (by
        simp [Schema.propertyName?, hspelled, onChars, hcs, hcontents])
      refine ⟨p, hp, fun h => absurd (hspelled.symm.trans h) (by decide), fun _ => ?_,
        fun h => absurd (hspelled.symm.trans h) (by decide)⟩
      rw [hcontents, hpname, nameUnits?_contents hquote hv]
    · obtain ⟨p, hp, hpname⟩ := hread (.ofList (c :: cs)) (by
        simp [Schema.propertyName?, hspelled, htext])
      refine ⟨p, hp, fun h => absurd (hspelled.symm.trans h) (by decide),
        fun h => absurd (hspelled.symm.trans h) (by decide), fun _ => ?_⟩
      obtain ⟨numeral, hnumeral, -⟩ := Option.map_eq_some_iff.1 hv
      have hordinary : ∀ d ∈ c :: cs, isOrdinary '"' d = true := fun d hd =>
        isOrdinary_of_isNumeralChar (isNumeralChar_of_numeralName? hnumeral d hd)
      rw [hpname, nameUnits?_ordinary hordinary]
    · obtain ⟨p, hp, hpname⟩ := hread (.ofList (c :: cs)) (by
        simp [Schema.propertyName?, hspelled, htext])
      refine ⟨p, hp, fun _ => ?_, fun h => absurd (hspelled.symm.trans h) (by decide),
        fun h => absurd (hspelled.symm.trans h) (by decide)⟩
      obtain ⟨ns, hns, hunits⟩ := Option.bind_eq_some_iff.1 hv
      split_ifs at hunits with hword
      rw [hpname, nameUnits?_word hns hword, hunits]

/-- A property whose name has an escaped double quote. -/
def escapedSource : List Char := "\"a\\\"b\": string".toList

def escapedName : Node :=
  Run.spanning escapedSource "string" ["name"] [
    Run.tokenAt 1 0 [] "\"",
    Run.nodeAt 1 1 "string_fragment" [] "a" [],
    Run.nodeAt 1 2 "escape_sequence" [] "\\\"" [],
    Run.nodeAt 1 4 "string_fragment" [] "b" [],
    Run.tokenAt 1 5 [] "\""]

def escapedProperty : Node :=
  Run.spanning escapedSource "property_signature" [] [
    escapedName,
    Run.spanning escapedSource "type_annotation" ["type"] [
      Run.tokenAt 1 6 [] ":",
      Run.nodeAt 1 8 "predefined_type" [] "string" [Run.tokenAt 1 8 [] "string"]]]

theorem ofNode_propertyKey_escaped : nameUnits? escapedName.text.toList = some [97, 34, 98] ∧
    ∃ p, Schema.Member.ofNode escapedProperty = .property p ∧
      nameUnits? (propertyKey p.name).toList = none := by
  have hname : nameUnits? escapedName.text.toList = some [97, 34, 98] := by decide +kernel
  obtain ⟨p, hp, -, hkey, -⟩ := @ofNode_propertyKey escapedProperty escapedName _ rfl rfl
    (by decide) hname
  refine ⟨hname, p, hp, ?_⟩
  rw [hkey (by decide), if_pos (by decide)]

end SchemaGen.Zod
