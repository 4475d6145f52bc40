import SchemaGen.Proofs.TypeScript.Identifier

namespace SchemaGen.TypeScript

/-- The units of a character by its number: two for those that do not fit into 16 bits. -/
def units (n : Nat) : List Nat :=
  if n < 0x10000 then [n] else [0xD800 + (n - 0x10000) / 0x400, 0xDC00 + (n - 0x10000) % 0x400]

/-- Characters that end a line. A literal goes on in the next line if one is escaped. -/
def isLineEnd (c : Char) : Bool := c = '\n' || c = '\r' || c.toNat = 0x2028 || c.toNat = 0x2029

/-- What an escaped character stands for if it is no number: a control character or itself. -/
def controlOf (c : Char) : Nat :=
  match c with
  | 'b' => 8
  | 't' => 9
  | 'n' => 10
  | 'v' => 11
  | 'f' => 12
  | 'r' => 13
  | c => c.toNat

/-- Read a character that is escaped by two hexadecimal digits. -/
def twoDigits? : List Char → Option (List Nat × List Char)
  | a :: b :: rest => (hexNumber? 0 [a, b]).map fun n => ([n], rest)
  | _ => none

/-- Read what is escaped, behind the backslash. No digit but zero is escaped, and no digit follows it. -/
def escape? : List Char → Option (List Nat × List Char)
  | [] => none
  | c :: cs =>
    if c = 'u' then (codePoint? (c :: cs)).map fun r => (units r.1, r.2)
    else if c = 'x' then twoDigits? cs
    else if c = '\r' ∧ cs.head? = some '\n' then some ([], cs.tail)
    else if isLineEnd c then some ([], cs)
    else if c = '0' then if cs.head?.any Char.isDigit then none else some ([0], cs)
    else if c.isDigit then none
    else some (units (controlOf c), cs)

/-- Whether a text can stand behind an escape in place of another: it begins with the same character, or with
one that goes on in no escape. -/
def Follows (rest ds : List Char) : Prop :=
  ds.head? = rest.head? ∨ ∀ c ∈ ds.head?, c.isDigit = false ∧ c ≠ '\n'

section Follows

variable {rest ds : List Char} (h : Follows rest ds)

include h

theorem Follows.head?_ne_feed (hrest : rest.head? ≠ some '\n') : ds.head? ≠ some '\n' := by
  intro hfeed
  rcases h with hsame | hother
  · exact hrest (hsame ▸ hfeed)
  · exact (hother _ hfeed).2 rfl

theorem Follows.head?_not_isDigit (hrest : ¬ rest.head?.any Char.isDigit = true) :
    ¬ ds.head?.any Char.isDigit = true := by
  rcases h with hsame | hother
  · rwa [hsame]
  · rw [Option.any_eq_true]
    rintro ⟨d, hd, hisDigit⟩
    exact absurd (hisDigit.symm.trans (hother d hd).1) (by simp)

end Follows

theorem not_return_of_not_isLineEnd {c : Char} (hline : ¬ isLineEnd c = true) (p : Prop) :
    ¬ (c = '\r' ∧ p) := by
  rintro ⟨rfl, -⟩
  exact hline (by decide)

theorem exists_of_twoDigits? {cs rest : List Char} {us : List Nat}
    (h : twoDigits? cs = some (us, rest)) : ∃ a b, cs = a :: b :: rest ∧ a.isAlphanum = true ∧
      b.isAlphanum = true ∧ ∀ ds, twoDigits? (a :: b :: ds) = some (us, ds) := by
  unfold twoDigits? at h
  split at h
  · next a b rest =>
    obtain ⟨n, hn, heq⟩ := Option.map_eq_some_iff.1 h
    obtain ⟨rfl, rfl⟩ := Prod.mk.inj heq
    have hdigits := isAlphanum_of_hexNumber? hn
    exact ⟨a, b, rfl, hdigits a (by simp), hdigits b (by simp), fun ds => by rw [twoDigits?, hn]; rfl⟩
  · cases h

/-- What is escaped is read from the escape alone: a character, and letters, digits, braces or a line feed
behind it. -/
theorem exists_of_escape? {cs rest : List Char} {us : List Nat} (h : escape? cs = some (us, rest)) :
    ∃ c e, cs = c :: (e ++ rest) ∧
      (∀ d ∈ e, d.isAlphanum = true ∨ d = '\x7b' ∨ d = '\x7d' ∨ d = '\n') ∧
      ∀ ds, Follows rest ds → escape? (c :: (e ++ ds)) = some (us, ds) := by
  cases cs with
  | nil => cases h
  | cons c cs =>
    simp only [escape?] at h
    split_ifs at h with hu hx hreturn hline hzero hdigit hother
    · subst hu
      obtain ⟨⟨n, rest'⟩, hcode, heq⟩ := Option.map_eq_some_iff.1 h
      obtain ⟨rfl, rfl⟩ := Prod.mk.inj heq
      obtain ⟨escape, hcs, hplain, hread⟩ := exists_of_codePoint? hcode
      cases escape with
      | nil => exact absurd (hread []) (by simp [codePoint?])
      | cons d e =>
        obtain ⟨rfl, rfl⟩ := List.cons.inj hcs
        refine ⟨'u', e, rfl, fun d hd => ?_, fun ds _ => ?_⟩
        · rcases hplain d (List.mem_cons_of_mem _ hd) with h | h | h
          · exact .inl h
          · exact .inr (.inl h)
          · exact .inr (.inr (.inl h))
        · have hu := hread ds
          rw [List.cons_append] at hu
          rw [escape?, if_pos rfl, hu]
          rfl
    · subst hx
      obtain ⟨a, b, rfl, ha, hb, hread⟩ := exists_of_twoDigits? h
      refine ⟨'x', [a, b], rfl, by simp [ha, hb], fun ds _ => ?_⟩
      rw [escape?, if_neg hu, if_pos rfl]
      exact hread ds
    · obtain ⟨rfl, hfeed⟩ := hreturn
      obtain ⟨rfl, rfl⟩ := Prod.mk.inj (Option.some.inj h)
      obtain ⟨cs, rfl⟩ := List.head?_eq_some_iff.1 hfeed
      exact ⟨'\r', ['\n'], rfl, by simp, fun ds _ => rfl⟩
    · obtain ⟨rfl, rfl⟩ := Prod.mk.inj (Option.some.inj h)
      refine ⟨c, [], rfl, by simp, fun ds hds => ?_⟩
      have hreturn' : ¬ (c = '\r' ∧ ds.head? = some '\n') := fun hr =>
        hds.head?_ne_feed (fun hfeed => hreturn ⟨hr.1, hfeed⟩) hr.2
      rw [List.nil_append, escape?, if_neg hu, if_neg hx, if_neg hreturn', if_pos hline]
    · obtain ⟨rfl, rfl⟩ := Prod.mk.inj (Option.some.inj h)
      refine ⟨c, [], rfl, by simp, fun ds hds => ?_⟩
      rw [List.nil_append, escape?, if_neg hu, if_neg hx,
        if_neg (not_return_of_not_isLineEnd hline _), if_neg hline, if_pos hzero,
        if_neg (hds.head?_not_isDigit hdigit)]
    · obtain ⟨rfl, rfl⟩ := Prod.mk.inj (Option.some.inj h)
      refine ⟨c, [], rfl, by simp, fun ds _ => ?_⟩
      rw [List.nil_append, escape?, if_neg hu, if_neg hx,
        if_neg (not_return_of_not_isLineEnd hline _), if_neg hline, if_neg hzero, if_neg hother]

theorem length_lt_of_escape? {cs rest : List Char} {us : List Nat} (h : escape? cs = some (us, rest)) :
    rest.length < cs.length := by
  obtain ⟨c, e, rfl, -, -⟩ := exists_of_escape? h
  simp only [List.length_cons, List.length_append]
  omega

/-- The units of a literal, read behind its opening quote up to the closing one, which is the last
character. -/
def stringUnits? (quote : Char) : List Char → Option (List Nat)
  | [] => none
  | c :: cs =>
    if c = quote then if cs.isEmpty then some [] else none
    else if c = '\\' then
      match _h : escape? cs with
      | some (us, rest) => (stringUnits? quote rest).map (us ++ ·)
      | none => none
    else if c = '\n' || c = '\r' then none
    else (stringUnits? quote cs).map (units c.toNat ++ ·)
termination_by cs => cs.length
decreasing_by
  · have := length_lt_of_escape? _h
    simp only [List.length_cons]
    omega
  · simp

variable {quote : Char}

theorem stringUnits?_quote : stringUnits? quote [quote] = some [] := by
  rw [stringUnits?, if_pos rfl]
  rfl

theorem stringUnits?_quote_cons {cs : List Char} (hne : cs ≠ []) :
    stringUnits? quote (quote :: cs) = none := by
  rw [stringUnits?, if_pos rfl, if_neg (by simpa using hne)]

theorem stringUnits?_escape {cs rest : List Char} {us : List Nat} (hquote : quote ≠ '\\')
    (h : escape? cs = some (us, rest)) :
    stringUnits? quote ('\\' :: cs) = (stringUnits? quote rest).map (us ++ ·) := by
  rw [stringUnits?, if_neg (Ne.symm hquote), if_pos rfl]
  split
  · next hread =>
    obtain ⟨rfl, rfl⟩ := Prod.mk.inj (Option.some.inj (h.symm.trans hread))
    rfl
  · next hnone => exact absurd (h.symm.trans hnone) (by simp)

/-- Characters that stand for themselves between quotes. -/
def isOrdinary (quote c : Char) : Bool := c ≠ quote && c ≠ '\\' && c ≠ '\n' && c ≠ '\r'

theorem isOrdinary_iff {c : Char} :
    isOrdinary quote c = true ↔ c ≠ quote ∧ c ≠ '\\' ∧ c ≠ '\n' ∧ c ≠ '\r' := by
  simp [isOrdinary, and_assoc]

theorem stringUnits?_ordinary {c : Char} (hc : isOrdinary quote c = true) (cs : List Char) :
    stringUnits? quote (c :: cs) = (stringUnits? quote cs).map (units c.toNat ++ ·) := by
  obtain ⟨hquote, hescape, hfeed, hreturn⟩ := isOrdinary_iff.1 hc
  rw [stringUnits?, if_neg hquote, if_neg hescape, if_neg (by simp [hfeed, hreturn])]

/-- What a literal begins with: its end, an escape or a character that stands for itself. -/
theorem stringUnits?_cases {c : Char} {cs : List Char} {v : List Nat}
    (h : stringUnits? quote (c :: cs) = some v) :
    (c = quote ∧ cs = [] ∧ v = []) ∨
    (c = '\\' ∧ quote ≠ '\\' ∧ ∃ us rest vs, escape? cs = some (us, rest) ∧
      stringUnits? quote rest = some vs ∧ v = us ++ vs) ∨
    (isOrdinary quote c = true ∧ ∃ vs, stringUnits? quote cs = some vs ∧ v = units c.toNat ++ vs) := by
  rw [stringUnits?] at h
  split_ifs at h with hquote hend hescape hline
  · exact .inl ⟨hquote, List.isEmpty_iff.1 hend, (Option.some.inj h).symm⟩
  · split at h
    · next us rest hread =>
      obtain ⟨vs, hvs, rfl⟩ := Option.map_eq_some_iff.1 h
      exact .inr (.inl ⟨hescape, fun hq => hquote (hescape.trans hq.symm), us, rest, vs, hread, hvs, rfl⟩)
    · cases h
  · obtain ⟨vs, hvs, rfl⟩ := Option.map_eq_some_iff.1 h
    simp only [Bool.or_eq_true, decide_eq_true_eq, not_or] at hline
    exact .inr (.inr ⟨isOrdinary_iff.2 ⟨hquote, hescape, hline⟩, vs, hvs, rfl⟩)

theorem stringUnits?_of_ordinary {cs : List Char} (h : ∀ c ∈ cs, isOrdinary quote c = true) :
    stringUnits? quote (cs ++ [quote]) = some (cs.flatMap (units ·.toNat)) := by
  induction cs with
  | nil => exact stringUnits?_quote
  | cons c cs ih =>
    obtain ⟨hc, hcs⟩ := List.forall_mem_cons.1 h
    rw [List.cons_append, stringUnits?_ordinary hc, ih hcs]
    rfl

theorem exists_of_stringUnits? {cs : List Char} {v : List Nat} (h : stringUnits? quote cs = some v) :
    ∃ contents, cs = contents ++ [quote] := by
  generalize hn : cs.length = n
  induction n using Nat.strongRecOn generalizing cs v with
  | ind n ih =>
    subst hn
    cases cs with
    | nil =>
      rw [stringUnits?] at h
      cases h
    | cons c cs =>
      rcases stringUnits?_cases h with ⟨rfl, rfl, -⟩ | ⟨rfl, -, us, rest, vs, hescape, hrest, -⟩ |
        ⟨-, vs, hvs, -⟩
      · exact ⟨[], rfl⟩
      · obtain ⟨d, e, rfl, -, -⟩ := exists_of_escape? hescape
        obtain ⟨contents, rfl⟩ := ih rest.length (by simp; omega) hrest rfl
        exact ⟨'\\' :: d :: (e ++ contents), by simp⟩
      · obtain ⟨contents, rfl⟩ := ih cs.length (by simp) hvs rfl
        exact ⟨c :: contents, rfl⟩

theorem exists_of_append_singleton {α : Type} {xs ys zs : List α} {x : α} (h : xs ++ [x] = ys ++ zs)
    (hne : zs ≠ []) : ∃ r, zs = r ++ [x] ∧ xs = ys ++ r := by
  obtain ⟨r, z, rfl⟩ := (List.eq_nil_or_concat' zs).resolve_left hne
  rw [← List.append_assoc] at h
  obtain ⟨hxs, hx⟩ := List.append_inj' h rfl
  exact ⟨r, by rw [hx], hxs⟩

/-- Characters of an escape behind the first one: no quotes and no backslash. -/
def EscapeRest (e : List Char) : Prop := '\\' ∉ e ∧ '"' ∉ e ∧ '\'' ∉ e

/-- What holds of no contents, and of contents with an escape or a character that stands for itself in front,
holds of the contents of every literal and its units. -/
theorem contents_induction {motive : List Char → List Nat → Prop} (nil : motive [] [])
    (escape : ∀ d e us r vs, EscapeRest e →
      (∀ ds, Follows (r ++ [quote]) ds → escape? (d :: (e ++ ds)) = some (us, ds)) →
      motive r vs → motive ('\\' :: d :: (e ++ r)) (us ++ vs))
    (ordinary : ∀ c cs vs, isOrdinary quote c = true → motive cs vs →
      motive (c :: cs) (units c.toNat ++ vs))
    {cs : List Char} {v : List Nat} (h : stringUnits? quote (cs ++ [quote]) = some v) : motive cs v := by
  generalize hn : cs.length = n
  induction n using Nat.strongRecOn generalizing cs v with
  | ind n ih =>
    subst hn
    cases cs with
    | nil =>
      rw [List.nil_append, stringUnits?_quote] at h
      rw [← Option.some.inj h]
      exact nil
    | cons c cs =>
      rw [List.cons_append] at h
      rcases stringUnits?_cases h with ⟨-, hend, -⟩ | ⟨rfl, -, us, rest, vs, hescape, hrest, rfl⟩ |
        ⟨hc, vs, hvs, rfl⟩
      · simp at hend
      · obtain ⟨d, e, hcs, hplain, hread⟩ := exists_of_escape? hescape
        have hne : rest ≠ [] := by
          rintro rfl
          rw [stringUnits?] at hrest
          cases hrest
        obtain ⟨r, rfl, rfl⟩ := exists_of_append_singleton (hcs.trans (List.cons_append).symm) hne
        have hmark {m : Char} (hm : (m.isAlphanum = true ∨ m = '\x7b' ∨ m = '\x7d' ∨ m = '\n') → False) :
            m ∉ e := fun hmem => hm (hplain m hmem)
        have he : EscapeRest e := ⟨hmark (by decide), hmark (by decide), hmark (by decide)⟩
        exact escape d e us r vs he hread (ih r.length (by simp; omega) hrest rfl)
      · exact ordinary c cs vs hc (ih cs.length (by simp) hvs rfl)

end SchemaGen.TypeScript
