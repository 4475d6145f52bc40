import SchemaGen.Text.Blank

namespace SchemaGen.Text

/-- What stands before and after the first occurrence. -/
def cutFirst? (needle : List Char) : List Char → Option (List Char × List Char)
  | [] => if needle.isEmpty then some ([], []) else none
  | c :: cs =>
    match afterPrefix? needle (c :: cs) with
    | some rest => some ([], rest)
    | none => (cutFirst? needle cs).map fun (before, after) => (c :: before, after)

/-- What stands before and after the last occurrence. -/
def cutLast? (needle : List Char) : List Char → Option (List Char × List Char)
  | [] => if needle.isEmpty then some ([], []) else none
  | c :: cs =>
    match cutLast? needle cs with
    | some (before, after) => some (c :: before, after)
    | none => (afterPrefix? needle (c :: cs)).map fun rest => ([], rest)

theorem eq_append_of_cutFirst? {needle cs before after : List Char}
    (h : cutFirst? needle cs = some (before, after)) : cs = before ++ needle ++ after := by
  induction cs generalizing before with
  | nil =>
    simp only [cutFirst?] at h
    split at h <;> simp_all
  | cons c cs ih =>
    unfold cutFirst? at h
    split at h
    · next rest hr =>
      simp only [Option.some.injEq, Prod.mk.injEq] at h
      obtain ⟨rfl, rfl⟩ := h
      simpa using afterPrefix?_eq_some_iff.1 hr
    · obtain ⟨⟨b, a⟩, hb, he⟩ := Option.map_eq_some_iff.1 h
      simp only [Prod.mk.injEq] at he
      obtain ⟨rfl, rfl⟩ := he
      simp [ih hb]

theorem eq_append_of_cutLast? {needle cs before after : List Char}
    (h : cutLast? needle cs = some (before, after)) : cs = before ++ needle ++ after := by
  induction cs generalizing before with
  | nil =>
    simp only [cutLast?] at h
    split at h <;> simp_all
  | cons c cs ih =>
    unfold cutLast? at h
    split at h
    · next b a hb =>
      simp only [Option.some.injEq, Prod.mk.injEq] at h
      obtain ⟨rfl, rfl⟩ := h
      simp [ih hb]
    · obtain ⟨rest, hr, he⟩ := Option.map_eq_some_iff.1 h
      simp only [Prod.mk.injEq] at he
      obtain ⟨rfl, rfl⟩ := he
      simpa using afterPrefix?_eq_some_iff.1 hr

/-- Put a text in place of every occurrence of another, from left to right. -/
def replaceAll (needle new : List Char) (cs : List Char) : List Char :=
  if _hn : needle = [] then cs
  else
    match _h : cutFirst? needle cs with
    | some (before, after) => before ++ new ++ replaceAll needle new after
    | none => cs
termination_by cs.length
decreasing_by
  have := congrArg List.length (eq_append_of_cutFirst? _h)
  have := List.length_pos_iff.2 _hn
  simp only [List.length_append] at *
  omega

end SchemaGen.Text

namespace SchemaGen

def replaceString (needle new text : String) : String :=
  onChars (Text.replaceAll needle.toList new.toList) text

end SchemaGen
