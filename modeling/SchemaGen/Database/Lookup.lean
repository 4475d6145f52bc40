import SchemaGen.Text.Blank
import SchemaGen.Text.Pascal
import SchemaGen.Text.Property

namespace SchemaGen.Database

def isQuote (c : Char) : Bool := c = '"' || c = '\''

/-- Read a text in quotes and brackets. The quotes need not be the same, and white space may stand
between quotes and brackets. -/
def bracketed? : List Char → Option (List Char × List Char)
  | '[' :: cs =>
    match Text.trimStart cs with
    | q :: cs =>
      let contents := cs.takeWhile (!isQuote ·)
      match cs.dropWhile (!isQuote ·) with
      | _ :: cs =>
        match Text.trimStart cs with
        | ']' :: rest => if isQuote q && !contents.isEmpty then some (contents, rest) else none
        | _ => none
      | [] => none
    | [] => none
  | _ => none

theorem length_dropWhile_le (p : Char → Bool) (cs : List Char) :
    (cs.dropWhile p).length ≤ cs.length := (List.dropWhile_sublist p).length_le

theorem length_lt_of_bracketed? {cs contents rest : List Char}
    (h : bracketed? cs = some (contents, rest)) : rest.length < cs.length := by
  unfold bracketed? at h
  split at h
  · next cs =>
    split at h
    · next q ds hd =>
      have h1 := length_dropWhile_le Text.isBlank cs
      rw [show cs.dropWhile Text.isBlank = q :: ds from hd] at h1
      dsimp only at h
      split at h
      · next x es he =>
        have h2 := length_dropWhile_le (!isQuote ·) ds
        rw [he] at h2
        split at h
        · next fs hf =>
          have h3 := length_dropWhile_le Text.isBlank es
          rw [show es.dropWhile Text.isBlank = ']' :: fs from hf] at h3
          split at h
          · simp only [Option.some.injEq, Prod.mk.injEq] at h
            obtain ⟨-, rfl⟩ := h
            simp only [List.length_cons] at *
            omega
          · simp at h
        · simp at h
      · simp at h
    · simp at h
  · simp at h

/-- A lookup of an entry of a schema, or of a member of an entry. -/
structure Lookup where
  schema : List Char
  entry : List Char
  member : Option (List Char)
  deriving DecidableEq, Inhabited

def sections : List String := ["Tables", "Views", "Enums", "CompositeTypes", "Functions"]

def lookupMembers : List String := ["Row", "Insert", "Update", "Args", "Returns"]

def lookupMember? (cs : List Char) : Option (List Char) × List Char :=
  match bracketed? cs with
  | some (name, rest) =>
    if (lookupMembers.map String.toList).contains name then (some name, rest) else (none, cs)
  | none => (none, cs)

def Lookup.read? (database cs : List Char) : Option (Lookup × List Char) := do
  let cs ← Text.afterPrefix? database cs
  let (schema, cs) ← bracketed? cs
  let (part, cs) ← bracketed? cs
  let (entry, cs) ← bracketed? cs
  if (sections.map String.toList).contains part then
    let (member, rest) := lookupMember? cs
    return (⟨schema, entry, member⟩, rest)
  else none

theorem length_lookupMember?_le (cs : List Char) : (lookupMember? cs).2.length ≤ cs.length := by
  unfold lookupMember?
  split
  · next name rest h =>
    have := length_lt_of_bracketed? h
    split
    · simp only; omega
    · simp
  · simp

theorem Lookup.length_lt_of_read? {database cs rest : List Char} {l : Lookup}
    (h : Lookup.read? database cs = some (l, rest)) : rest.length < cs.length := by
  simp only [Lookup.read?, Option.bind_eq_bind, Option.bind_eq_some_iff] at h
  obtain ⟨c1, h1, ⟨_, c2⟩, h2, ⟨_, c3⟩, h3, ⟨_, c4⟩, h4, h5⟩ := h
  have l1 : c1.length ≤ cs.length := by
    rw [Text.afterPrefix?_eq_some_iff] at h1
    simp [h1]
  have l2 := length_lt_of_bracketed? h2
  have l3 := length_lt_of_bracketed? h3
  have l4 := length_lt_of_bracketed? h4
  have l5 := length_lookupMember?_le c4
  split at h5
  · simp only [Option.pure_def, Option.some.injEq, Prod.mk.injEq] at h5
    obtain ⟨-, rfl⟩ := h5
    dsimp only at l2 l3 l4
    omega
  · simp at h5

def Lookup.flatName (l : Lookup) : List Char := Text.Pascal.ofName l.entry ++ l.member.getD []

/-- Put flat names in place of the lookups into a schema, in a text that stands behind another
character or at the beginning. Other lookups stay. A lookup begins where a word begins or ends. -/
def resolveAfter (database schema : List Char) (before : Option Char) : List Char → List Char
  | [] => []
  | c :: cs =>
    if Text.isBoundary before (some c) then
      match _h : Lookup.read? database (c :: cs) with
      | some (l, rest) =>
        (if l.schema = schema then l.flatName
          else (c :: cs).take ((c :: cs).length - rest.length)) ++
          resolveAfter database schema (some ']') rest
      | none => c :: resolveAfter database schema (some c) cs
    else c :: resolveAfter database schema (some c) cs
termination_by cs => cs.length
decreasing_by
  · exact Lookup.length_lt_of_read? _h
  all_goals simp

def resolveLookups (database schema text : String) : String :=
  onChars (resolveAfter database.toList schema.toList none) text

end SchemaGen.Database
