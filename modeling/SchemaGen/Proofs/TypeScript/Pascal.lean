import SchemaGen.Proofs.TypeScript.LetterCase

namespace SchemaGen.TypeScript

variable {c d : Char}

/-- Two texts of which each character of the one is a case of one of the other, and has a case there. -/
structure CasesOf (cs ds : List Char) : Prop where
  mem_left : ∀ d ∈ ds, ∃ c ∈ cs, IsCaseOf c d
  mem_right : ∀ c ∈ cs, ∃ d ∈ ds, IsCaseOf c d

theorem CasesOf.append {cs ds cs' ds' : List Char} (h : CasesOf cs ds) (h' : CasesOf cs' ds') :
    CasesOf (cs ++ cs') (ds ++ ds') := by
  constructor
  · intro d hd
    rcases List.mem_append.1 hd with hd | hd
    · obtain ⟨c, hc, hcase⟩ := h.mem_left d hd
      exact ⟨c, List.mem_append_left _ hc, hcase⟩
    · obtain ⟨c, hc, hcase⟩ := h'.mem_left d hd
      exact ⟨c, List.mem_append_right _ hc, hcase⟩
  · intro c hc
    rcases List.mem_append.1 hc with hc | hc
    · obtain ⟨d, hd, hcase⟩ := h.mem_right c hc
      exact ⟨d, List.mem_append_left _ hd, hcase⟩
    · obtain ⟨d, hd, hcase⟩ := h'.mem_right c hc
      exact ⟨d, List.mem_append_right _ hd, hcase⟩

theorem casesOf_nil : CasesOf [] [] := ⟨by simp, by simp⟩

theorem casesOf_singleton {ds : List Char} (hne : ds ≠ []) (h : ∀ d ∈ ds, IsCaseOf c d) :
    CasesOf [c] ds := by
  refine ⟨fun d hd => ⟨c, List.mem_singleton_self c, h d hd⟩, fun b hb => ?_⟩
  obtain rfl := List.mem_singleton.1 hb
  obtain ⟨d, hd⟩ := List.exists_mem_of_ne_nil ds hne
  exact ⟨d, hd, h d hd⟩

theorem casesOf_upper (cs : List Char) : CasesOf cs (Text.upper cs) := by
  induction cs with
  | nil => exact casesOf_nil
  | cons c cs ih => exact (casesOf_singleton (upperChar_ne_nil c) fun d hd => .inl hd).append ih

theorem casesOf_lowerAfter (before cs : List Char) : CasesOf cs (Text.lowerAfter before cs) := by
  induction cs generalizing before with
  | nil => exact casesOf_nil
  | cons c cs ih =>
    have hcons {ds : List Char} (h : CasesOf [c] ds) :
        CasesOf (c :: cs) (ds ++ Text.lowerAfter (c :: before) cs) := h.append (ih (c :: before))
    refine hcons ?_
    split_ifs with hsigma
    · exact casesOf_singleton (by simp) (by simp [IsCaseOf, hsigma])
    · exact casesOf_singleton (by simp) (by simp [IsCaseOf, hsigma])
    · exact casesOf_singleton (lowerChar_ne_nil c) fun d hd => .inr (.inl hd)

theorem casesOf_capitalize (word : List Text.Pascal.Cluster) :
    CasesOf word.flatten (Text.Pascal.capitalize word) := by
  cases word with
  | nil => exact casesOf_nil
  | cons k ks => exact (casesOf_upper k).append (casesOf_lowerAfter [] ks.flatten)

def inWords (name : List Char) : List Char := (Text.Pascal.words name).flatten.flatten

/-- Pascal case changes the characters in the words of a name to one of their cases, and drops the others. -/
theorem casesOf_ofName (name : List Char) : CasesOf (inWords name) (Text.Pascal.ofName name) := by
  unfold inWords Text.Pascal.ofName
  induction Text.Pascal.words name with
  | nil => exact casesOf_nil
  | cons w ws ih =>
    rw [List.flatten_cons, List.flatten_append, List.flatMap_cons]
    exact (casesOf_capitalize w).append ih

/-- The first character in a word is put into upper case. -/
theorem exists_ofName_eq {name rest : List Char} (h : inWords name = c :: rest) :
    ∃ tail, Text.Pascal.ofName name = Text.upperChar c ++ tail := by
  have hclusters : ∀ w ∈ Text.Pascal.words name, w ≠ [] ∧ ∀ k ∈ w, k ≠ [] := by
    intro w hw
    refine ⟨by simpa using (List.mem_filter.1 hw).2, fun k hk => ?_⟩
    have hmem : k ∈ (Text.Pascal.words name).flatten := List.mem_flatten.2 ⟨w, hw, hk⟩
    rw [Text.Pascal.flatten_words] at hmem
    exact (Text.isJoined_of_mem_clusters (List.mem_filter.1 hmem).1).1
  unfold inWords at h
  unfold Text.Pascal.ofName
  cases hwords : Text.Pascal.words name with
  | nil => simp [hwords] at h
  | cons w ws =>
    rw [hwords] at h hclusters
    obtain ⟨hword, hfirst⟩ := hclusters w List.mem_cons_self
    obtain ⟨k, ks, rfl⟩ := List.exists_cons_of_ne_nil hword
    obtain ⟨b, k, rfl⟩ := List.exists_cons_of_ne_nil (hfirst k List.mem_cons_self)
    obtain rfl : b = c := by simpa using congrArg List.head? h
    refine ⟨Text.upper k ++ Text.lower ks.flatten ++ ws.flatMap Text.Pascal.capitalize, ?_⟩
    simp [Text.Pascal.capitalize, Text.upper, List.append_assoc]

theorem mem_of_mem_inWords {name : List Char} (h : c ∈ inWords name) : c ∈ name := by
  rw [inWords, Text.Pascal.flatten_words, List.mem_flatten] at h
  obtain ⟨k, hk, hc⟩ := h
  rw [← Text.flatten_clusters name]
  exact List.mem_flatten.2 ⟨k, (List.mem_filter.1 hk).1, hc⟩

theorem all_isIdentifierPart_ofName (name : List Char) :
    (Text.Pascal.ofName name).all (isIdentifierPart ·.toNat) =
      (inWords name).all (isIdentifierPart ·.toNat) := by
  have hcases := casesOf_ofName name
  rw [Bool.eq_iff_iff, List.all_eq_true, List.all_eq_true]
  constructor
  · intro h c hc
    obtain ⟨d, hd, hcase⟩ := hcases.mem_right c hc
    rw [← isIdentifierPart_of_isCaseOf hcase]
    exact h d hd
  · intro h d hd
    obtain ⟨c, hc, hcase⟩ := hcases.mem_left d hd
    rw [isIdentifierPart_of_isCaseOf hcase]
    exact h c hc

/-- Whether a name in Pascal case has the characters of an identifier, when the name of a member stands
behind it or nothing does: identifiers can have all the characters in its words, and the first of them in
upper case can begin one. -/
def makesIdentifier (name : List Char) (hasMember : Bool) : Bool :=
  match inWords name with
  | [] => hasMember
  | c :: cs =>
    (Text.upperChar c).head?.any (isIdentifierStart ·.toNat) &&
      (c :: cs).all (isIdentifierPart ·.toNat)

/-- A member's name: letters, the first of them a capital, or nothing. -/
def IsMemberName (cs : List Char) : Prop :=
  (∀ c ∈ cs, c.isAlpha = true) ∧ ∀ c ∈ cs.head?, c.isUpper = true

variable {name member : List Char}

theorem isIdentifierStart_of_isUpper (h : c.isUpper = true) : isIdentifierStart c.toNat = true := by
  have halpha : c.isAlpha = true := by
    change (c.isUpper || c.isLower) = true
    rw [h, Bool.true_or]
  rw [isIdentifierStart, isIdentifierPart_of_isAlpha halpha, if_pos (Text.lt_of_isUpper h),
    Char.ofNat_toNat, isIdentifierLetter, halpha]
  rfl

theorem isIdentifierPart_of_isIdentifierStart {n : Nat} (h : isIdentifierStart n = true) :
    isIdentifierPart n = true := by
  rw [isIdentifierStart, Bool.and_eq_true] at h
  exact h.1

theorem ofName_eq_nil (h : inWords name = []) : Text.Pascal.ofName name = [] := by
  rw [List.eq_nil_iff_forall_not_mem]
  intro d hd
  obtain ⟨c, hc, -⟩ := (casesOf_ofName name).mem_left d hd
  rw [h] at hc
  exact List.not_mem_nil hc

theorem isWordOf_append (hmember : IsMemberName member) :
    isWordOf ((Text.Pascal.ofName name ++ member).map Char.toNat) =
      makesIdentifier name (!member.isEmpty) := by
  have hparts : member.all (isIdentifierPart ·.toNat) = true :=
    List.all_eq_true.2 fun c hc => isIdentifierPart_of_isAlpha (hmember.1 c hc)
  unfold makesIdentifier
  cases hwords : inWords name with
  | nil =>
    rw [ofName_eq_nil hwords, List.nil_append]
    cases member with
    | nil => rfl
    | cons c cs =>
      rw [List.all_cons, Bool.and_eq_true] at hparts
      have hstart := isIdentifierStart_of_isUpper (hmember.2 c rfl)
      simp [isWordOf, List.all_map, Function.comp_def, hstart, hparts.2]
  | cons c cs =>
    obtain ⟨tail, hname⟩ := exists_ofName_eq hwords
    obtain ⟨u, us, hupper⟩ := List.exists_cons_of_ne_nil (upperChar_ne_nil c)
    have hall := all_isIdentifierPart_ofName name
    rw [hwords, hname, hupper, List.cons_append, List.all_cons] at hall
    dsimp only
    rw [hname, hupper, List.cons_append, List.cons_append, List.map_cons, isWordOf, List.all_map,
      List.all_append, List.head?_cons, Option.any_some, ← hall]
    cases hstart : isIdentifierStart u.toNat with
    | false => rfl
    | true =>
      rw [isIdentifierPart_of_isIdentifierStart hstart, Bool.true_and, Bool.true_and, Bool.true_and]
      exact (congrArg _ hparts).trans (Bool.and_true _)

theorem not_isLower_of_isUpper (h : c.isUpper = true) : c.isLower = false := by
  by_contra hlower
  rw [Bool.not_eq_false] at hlower
  have := Text.toNat_of_isUpper h
  have := Text.toNat_of_isLower hlower
  omega

theorem isLower_upperChar (hd : d ∈ Text.upperChar c) : d.isLower = false := by
  by_contra hlower
  rw [Bool.not_eq_false] at hlower
  rcases mem_upperChar_ascii hd (Text.lt_of_isLower hlower) with hupper | ⟨rfl, hc⟩
  · exact absurd (hlower.symm.trans (not_isLower_of_isUpper hupper)) (by decide)
  · exact absurd (hlower.symm.trans hc) (by decide)

theorem head?_append_isLower (hmember : IsMemberName member) :
    (Text.Pascal.ofName name ++ member).head?.any Char.isLower = false := by
  cases hwords : inWords name with
  | nil =>
    rw [ofName_eq_nil hwords, List.nil_append, Option.any_eq_false]
    exact fun c hc => not_isLower_of_isUpper (hmember.2 c hc)
  | cons c cs =>
    obtain ⟨tail, hname⟩ := exists_ofName_eq hwords
    obtain ⟨u, us, hupper⟩ := List.exists_cons_of_ne_nil (upperChar_ne_nil c)
    rw [hname, hupper]
    exact isLower_upperChar (c := c) (by simp [hupper])

/-- A name in Pascal case, with the name of a member behind it, is no reserved word: these begin with small
letters. -/
theorem notMem_reservedWords (hmember : IsMemberName member) :
    (Text.Pascal.ofName name ++ member).map Char.toNat ∉
      reservedWords.map fun word => word.toList.map Char.toNat := by
  have hsmall : ∀ word ∈ reservedWords, word.toList.head?.any Char.isLower = true := by decide
  intro hreserved
  obtain ⟨word, hword, heq⟩ := List.mem_map.1 hreserved
  have hinjective : Function.Injective Char.toNat := fun a b h => Char.ext (UInt32.toNat_inj.1 h)
  have hlower := hsmall word hword
  rw [List.map_injective_iff.2 hinjective heq, head?_append_isLower hmember] at hlower
  cases hlower

theorem isIdentifier_append (hmember : IsMemberName member)
    (h : makesIdentifier name (!member.isEmpty) = true) :
    IsIdentifier (Text.Pascal.ofName name ++ member) := by
  rw [← isWordOf_append hmember] at h
  have hparts : ∀ c ∈ Text.Pascal.ofName name ++ member, isIdentifierPart c.toNat = true := by
    cases hcs : Text.Pascal.ofName name ++ member with
    | nil => simp
    | cons c cs =>
      rw [hcs, List.map_cons, isWordOf, Bool.and_eq_true, List.all_map, List.all_eq_true] at h
      exact List.forall_mem_cons.2 ⟨isIdentifierPart_of_isIdentifierStart h.1, h.2⟩
  have hescape : '\\' ∉ Text.Pascal.ofName name ++ member := fun hmem =>
    absurd (hparts _ hmem) (by decide)
  exact ⟨_, codePoints?_of_notMem hescape, h, notMem_reservedWords hmember⟩

/-- Where the name has no escaped characters, its characters make an identifier if it is one. -/
theorem makesIdentifier_of_isIdentifier (hmember : IsMemberName member) (hname : '\\' ∉ name)
    (h : IsIdentifier (Text.Pascal.ofName name ++ member)) :
    makesIdentifier name (!member.isEmpty) = true := by
  have hescape : '\\' ∉ Text.Pascal.ofName name ++ member := by
    rw [List.mem_append, not_or]
    constructor
    · intro hmem
      obtain ⟨c, hc, hcase⟩ := (casesOf_ofName name).mem_left _ hmem
      rw [eq_backslash_of_isCaseOf hcase] at hc
      exact hname (mem_of_mem_inWords hc)
    · exact fun hmem => absurd (hmember.1 _ hmem) (by decide)
  obtain ⟨ns, hns, hword, -⟩ := h
  rw [codePoints?_of_notMem hescape] at hns
  rw [← isWordOf_append hmember, Option.some.inj hns]
  exact hword

end SchemaGen.TypeScript
