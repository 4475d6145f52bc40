import SchemaGen.Proofs.Schema.Reading
import SchemaGen.Proofs.TypeScript.PropertyName
import SchemaGen.Zod.Validator

namespace SchemaGen

namespace TypeScript

/-- The units of the text that a literal denotes, in quotes of either kind. -/
def literalUnits? : List Char → Option (List Nat)
  | [] => none
  | c :: cs => if isQuote c then stringUnits? c cs else none

theorem literalUnits?_cons {quote : Char} (hquote : isQuote quote = true) (cs : List Char) :
    literalUnits? (quote :: cs) = stringUnits? quote cs := by
  rw [literalUnits?, if_pos hquote]

theorem exists_of_literalUnits? {cs : List Char} {v : List Nat} (h : literalUnits? cs = some v) :
    ∃ quote contents, isQuote quote = true ∧ cs = quote :: (contents ++ [quote]) ∧
      stringUnits? quote (contents ++ [quote]) = some v := by
  cases cs with
  | nil => cases h
  | cons quote cs =>
    rw [literalUnits?] at h
    split_ifs at h with hquote
    obtain ⟨contents, rfl⟩ := exists_of_stringUnits? h
    exact ⟨quote, contents, hquote, rfl, h⟩

/-- Whether contents can stand between double quotes: every double quote in them is escaped, and no
backslash is left over at their end. -/
def fitsDoubleQuotes : List Char → Bool
  | [] => true
  | ['\\'] => false
  | '\\' :: _ :: cs => fitsDoubleQuotes cs
  | c :: cs => c ≠ '"' && fitsDoubleQuotes cs

theorem fitsDoubleQuotes_cons {c : Char} (hc : c ≠ '\\') (cs : List Char) :
    fitsDoubleQuotes (c :: cs) = (c ≠ '"' && fitsDoubleQuotes cs) := by
  rw [fitsDoubleQuotes]
  · simp [hc]
  · simp [hc]

theorem fitsDoubleQuotes_append {e : List Char} (he : EscapeRest e) (cs : List Char) :
    fitsDoubleQuotes (e ++ cs) = fitsDoubleQuotes cs := by
  obtain ⟨hbackslash, hdouble, -⟩ := he
  induction e with
  | nil => rfl
  | cons c e ih =>
    rw [List.mem_cons, not_or] at hbackslash hdouble
    rw [List.cons_append, fitsDoubleQuotes_cons (Ne.symm hbackslash.1), ih hbackslash.2 hdouble.2,
      decide_eq_true (Ne.symm hdouble.1), Bool.true_and]

theorem fitsDoubleQuotes_of_stringUnits? {cs : List Char} {v : List Nat}
    (h : stringUnits? '"' (cs ++ ['"']) = some v) : fitsDoubleQuotes cs = true := by
  refine contents_induction (motive := fun cs _ => fitsDoubleQuotes cs = true) rfl
    (fun d e us r vs he _ ih => ?_) (fun c cs vs hc ih => ?_) h
  · rw [fitsDoubleQuotes, fitsDoubleQuotes_append he, ih]
  · obtain ⟨hquote, hbackslash, -⟩ := isOrdinary_iff.1 hc
    rw [fitsDoubleQuotes_cons hbackslash, ih, decide_eq_true hquote, Bool.true_and]

end TypeScript

namespace Schema.Literal

open TypeScript

theorem requote_escape (d : Char) (cs : List Char) :
    requote ('\\' :: d :: cs) = (if d = '\'' then [d] else ['\\', d]) ++ requote cs := by
  rw [requote]
  split_ifs <;> rfl

theorem requote_cons {c : Char} (hc : c ≠ '\\') (cs : List Char) :
    requote (c :: cs) = (if c = '"' then ['\\', c] else [c]) ++ requote cs := by
  rw [requote]
  · split_ifs <;> rfl
  · simp [hc]
  · simp [hc]

theorem requote_append {e : List Char} (he : EscapeRest e) (cs : List Char) :
    requote (e ++ cs) = e ++ requote cs := by
  obtain ⟨hbackslash, hdouble, -⟩ := he
  induction e with
  | nil => rfl
  | cons c e ih =>
    rw [List.mem_cons, not_or] at hbackslash hdouble
    rw [List.cons_append, requote_cons (Ne.symm hbackslash.1), if_neg (Ne.symm hdouble.1),
      ih hbackslash.2 hdouble.2]
    rfl

/-- What is written follows an escape as the contents did: what is new in front of them is a quote or a
backslash, and goes on in no escape. -/
theorem follows_requote (cs : List Char) : Follows (cs ++ ['\'']) (requote cs ++ ['"']) := by
  cases cs with
  | nil => exact .inr (by simp [requote])
  | cons c cs =>
    by_cases hc : c = '\\'
    · subst hc
      cases cs with
      | nil => exact .inl rfl
      | cons d cs =>
        rw [requote_escape]
        split_ifs with hd
        · exact .inr (by simp [hd])
        · exact .inl rfl
    · rw [requote_cons hc]
      split_ifs with hquote
      · exact .inr (by simp)
      · exact .inl rfl

/-- Contents between single quotes denote the same when they are written for double quotes. -/
theorem stringUnits?_requote {cs : List Char} {v : List Nat}
    (h : stringUnits? '\'' (cs ++ ['\'']) = some v) :
    stringUnits? '"' (requote cs ++ ['"']) = some v := by
  refine contents_induction (motive := fun cs v => stringUnits? '"' (requote cs ++ ['"']) = some v)
    stringUnits?_quote (fun d e us r vs he hread ih => ?_) (fun c cs vs hc ih => ?_) h
  · rw [requote_escape, requote_append he, List.append_assoc, List.append_assoc]
    by_cases hd : d = '\''
    · -- The single quote is the whole escape, and needs none between double quotes.
      subst hd
      have hquote := hread _ (.inl rfl)
      have hsingle : escape? ('\'' :: (e ++ (r ++ ['\'']))) = some ([39], e ++ (r ++ ['\''])) := rfl
      obtain ⟨hunits, hrest⟩ := Prod.mk.inj (Option.some.inj (hsingle.symm.trans hquote))
      have hnil : e = [] := by simpa using hrest
      rw [if_pos rfl, hnil, ← hunits, List.nil_append, List.singleton_append,
        stringUnits?_ordinary (by decide), ih]
      rfl
    · rw [if_neg hd, List.cons_append, List.singleton_append,
        stringUnits?_escape (by decide) (hread _ (follows_requote r)), ih]
      rfl
  · obtain ⟨-, hbackslash, hfeed⟩ := isOrdinary_iff.1 hc
    rw [requote_cons hbackslash, List.append_assoc]
    by_cases hquote : c = '"'
    · subst hquote
      have hescape : escape? ('"' :: (requote cs ++ ['"'])) = some ([34], requote cs ++ ['"']) := rfl
      rw [if_pos rfl, List.cons_append, List.singleton_append,
        stringUnits?_escape (by decide) hescape, ih]
      rfl
    · have hordinary : isOrdinary '"' c = true := isOrdinary_iff.2 ⟨hquote, hbackslash, hfeed⟩
      rw [if_neg hquote, List.singleton_append, stringUnits?_ordinary hordinary, ih]
      rfl

theorem contents_quoted {c : Char} (hc : isQuote c = true) (cs : List Char) :
    contents (c :: (cs ++ [c])) = cs := by
  have hquote : c = '"' ∨ c = '\'' := by simpa [isQuote] using hc
  cases cs with
  | nil => simp [contents, hquote]
  | cons d ds =>
    rw [List.cons_append, contents, if_pos (by simpa using hquote), ← List.cons_append,
      List.dropLast_concat]

theorem stringUnits?_doubleQuoted {literal : List Char} {v : List Nat}
    (h : literalUnits? literal = some v) :
    stringUnits? '"' (doubleQuoted literal ++ ['"']) = some v := by
  obtain ⟨quote, cs, hquote, rfl, hv⟩ := exists_of_literalUnits? h
  have hkept := contents_quoted hquote cs
  rw [doubleQuoted, hkept, List.head?_cons]
  rcases (by simpa [isQuote] using hquote : quote = '"' ∨ quote = '\'') with rfl | rfl
  · rw [if_neg (by decide)]
    exact hv
  · rw [if_pos rfl]
    exact stringUnits?_requote hv

end Schema.Literal

namespace Zod

open Schema Syntax TypeScript

theorem literalUnits?_quoted (contents : String) :
    literalUnits? (quoted contents).toList = stringUnits? '"' (contents.toList ++ ['"']) := by
  have hchars : (quoted contents).toList = '"' :: (contents.toList ++ ['"']) := by
    simp only [quoted, String.toList_append]
    rfl
  rw [hchars, literalUnits?_cons (by decide)]

theorem literalUnits?_quoted_doubleQuoted {literal : String} {v : List Nat}
    (h : literalUnits? literal.toList = some v) :
    literalUnits? (quoted (onChars Literal.doubleQuoted literal)).toList = some v := by
  rw [literalUnits?_quoted, onChars, String.toList_ofList, Literal.stringUnits?_doubleQuoted h]

/-- Every text literal is kept as contents that fit between double quotes, and between them they denote the
text of the literal. This is what is read of the literal as a type. -/
theorem doubleQuoted_denotes {literal : String} {v : List Nat}
    (h : literalUnits? literal.toList = some v) :
    fitsDoubleQuotes (Literal.doubleQuoted literal.toList) = true ∧
      literalUnits? (quoted (onChars Literal.doubleQuoted literal)).toList = some v ∧
      ∀ type value : Node, type.kind = "literal_type" → type.namedChildren.head? = some value →
        value.kind = "string" → value.text = literal →
          TypeExpr.ofNode type = .text (onChars Literal.doubleQuoted literal) := by
  refine ⟨fitsDoubleQuotes_of_stringUnits? (Literal.stringUnits?_doubleQuoted h),
    literalUnits?_quoted_doubleQuoted h, ?_⟩
  intro type value hkind hvalue hstring htext
  obtain ⟨rest, hchildren⟩ := List.head?_eq_some_iff.1 hvalue
  rw [TypeExpr.ofNode_eq, hkind]
  change TypeExpr.literal type = _
  rw [TypeExpr.literal, hchildren]
  simp only [hstring, htext]

theorem doubleQuoted_denotes_mixed :
    literalUnits? "'it\\'s \"so\\\" \\x41\\\n'".toList =
        some [105, 116, 39, 115, 32, 34, 115, 111, 34, 32, 65] ∧
      literalUnits? (quoted (onChars Literal.doubleQuoted "'it\\'s \"so\\\" \\x41\\\n'")).toList =
        some [105, 116, 39, 115, 32, 34, 115, 111, 34, 32, 65] := by
  have h : literalUnits? "'it\\'s \"so\\\" \\x41\\\n'".toList =
      some [105, 116, 39, 115, 32, 34, 115, 111, 34, 32, 65] := by cbv
  exact ⟨h, (doubleQuoted_denotes h).2.1⟩

end Zod

end SchemaGen
