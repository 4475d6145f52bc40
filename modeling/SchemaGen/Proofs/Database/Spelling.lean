import Mathlib.Data.List.TakeWhile
import Mathlib.Tactic.Common
import Mathlib.Tactic.SplitIfs
import SchemaGen.Database.Lookup

namespace SchemaGen.Database

/-- A name in quotes and brackets. The quotes need not be the same. -/
inductive Bracketed (name : List Char) : List Char → Prop where
  | mk {q r : Char} {before after : List Char} : name ≠ [] → (∀ c ∈ name, isQuote c = false) →
    isQuote q = true → isQuote r = true → (∀ c ∈ before, Text.isBlank c = true) →
    (∀ c ∈ after, Text.isBlank c = true) →
      Bracketed name ('[' :: (before ++ q :: (name ++ r :: (after ++ [']']))))

/-- A text that is a lookup of an entry in a section, or of a member of an entry. -/
inductive Spells (database part : List Char) : Lookup → List Char → Prop where
  | entry {schema entry a b c : List Char} : part ∈ sections.map String.toList → Bracketed schema a →
    Bracketed part b → Bracketed entry c →
      Spells database part ⟨schema, entry, none⟩ (database ++ (a ++ (b ++ c)))
  | member {schema entry m a b c d : List Char} : part ∈ sections.map String.toList →
    m ∈ lookupMembers.map String.toList → Bracketed schema a → Bracketed part b →
    Bracketed entry c → Bracketed m d →
      Spells database part ⟨schema, entry, some m⟩ (database ++ (a ++ (b ++ (c ++ d))))

def BeginsWithMember (cs : List Char) : Prop :=
  ∃ m d rest, m ∈ lookupMembers.map String.toList ∧ Bracketed m d ∧ cs = d ++ rest

variable {database part name cs rest s : List Char} {l : Lookup}

theorem isBlank_of_isQuote {c : Char} (h : isQuote c = true) : Text.isBlank c = false := by
  rw [isQuote, Bool.or_eq_true, decide_eq_true_eq, decide_eq_true_eq] at h
  rcases h with rfl | rfl <;> decide

theorem trimStart_append {before : List Char} {c : Char} (h : ∀ b ∈ before, Text.isBlank b = true)
    (hc : Text.isBlank c = false) (cs : List Char) :
    Text.trimStart (before ++ c :: cs) = c :: cs := by
  rw [Text.trimStart, List.dropWhile_append_of_pos h, List.dropWhile_cons_of_neg (by simp [hc])]

/-- A text is the white space at its beginning and the rest of it. -/
theorem exists_eq_append_trimStart (cs : List Char) :
    ∃ before, (∀ b ∈ before, Text.isBlank b = true) ∧ cs = before ++ Text.trimStart cs :=
  ⟨cs.takeWhile Text.isBlank, fun _ => List.mem_takeWhile_imp, List.takeWhile_append_dropWhile.symm⟩

theorem bracketed?_append (h : Bracketed name s) (rest : List Char) :
    bracketed? (s ++ rest) = some (name, rest) := by
  obtain ⟨hne, hname, hq, hr, hbefore, hafter⟩ := h
  next q r before after =>
  have hplain : ∀ c ∈ name, (!isQuote c) = true := by simpa using hname
  have hopen : Text.trimStart (before ++ q :: (name ++ r :: (after ++ ']' :: rest))) =
      q :: (name ++ r :: (after ++ ']' :: rest)) :=
    trimStart_append hbefore (isBlank_of_isQuote hq) _
  have htake : (name ++ r :: (after ++ ']' :: rest)).takeWhile (!isQuote ·) = name := by
    rw [List.takeWhile_append_of_pos hplain, List.takeWhile_cons_of_neg (by simp [hr]), List.append_nil]
  have hdrop : (name ++ r :: (after ++ ']' :: rest)).dropWhile (!isQuote ·) =
      r :: (after ++ ']' :: rest) := by
    rw [List.dropWhile_append_of_pos hplain, List.dropWhile_cons_of_neg (by simp [hr])]
  have hclose : Text.trimStart (after ++ ']' :: rest) = ']' :: rest :=
    trimStart_append hafter (by decide) rest
  simp [bracketed?, hopen, htake, hdrop, hclose, hq, hne]

theorem exists_of_bracketed? (h : bracketed? cs = some (name, rest)) :
    ∃ s, Bracketed name s ∧ cs = s ++ rest := by
  unfold bracketed? at h
  split at h
  · next cs =>
    obtain ⟨before, hbefore, hcs⟩ := exists_eq_append_trimStart cs
    split at h
    · next q ds hopen =>
      rw [hopen] at hcs
      dsimp only at h
      split at h
      · next r es hdrop =>
        obtain ⟨after, hafter, hes⟩ := exists_eq_append_trimStart es
        split at h
        · next fs hclose =>
          rw [hclose] at hes
          split_ifs at h with hq
          obtain ⟨rfl, rfl⟩ := Prod.mk.inj (Option.some.inj h)
          rw [Bool.and_eq_true, Bool.not_eq_true', List.isEmpty_eq_false_iff] at hq
          have hname : ∀ c ∈ ds.takeWhile (!isQuote ·), isQuote c = false := fun c hc => by
            simpa using List.mem_takeWhile_imp hc
          have hr : isQuote r = true := by
            have hhead := List.head?_dropWhile_not (!isQuote ·) ds
            rw [hdrop] at hhead
            simpa using hhead
          refine ⟨_, .mk hq.2 hname hq.1 hr hbefore hafter, ?_⟩
          have hds : ds = ds.takeWhile (!isQuote ·) ++ r :: es := by
            rw [← hdrop, List.takeWhile_append_dropWhile]
          simpa [hcs, hes] using hds
        · cases h
      · cases h
    · cases h
  · cases h

theorem bracketed_iff : Bracketed name s ↔ bracketed? s = some (name, []) := by
  constructor
  · intro h
    simpa using bracketed?_append h []
  · intro h
    obtain ⟨b, hb, rfl⟩ := exists_of_bracketed? h
    rwa [List.append_nil]

theorem not_beginsWithMember (h : bracketed? cs = none) : ¬ BeginsWithMember cs := by
  rintro ⟨m, d, rest, -, hd, rfl⟩
  exact absurd (h.symm.trans (bracketed?_append hd rest)) (by simp)

theorem lookupMember?_append {m d : List Char} (hm : m ∈ lookupMembers.map String.toList)
    (hd : Bracketed m d) (rest : List Char) : lookupMember? (d ++ rest) = (some m, rest) := by
  simp only [lookupMember?, bracketed?_append hd, List.contains_iff_mem, hm, if_true]

theorem lookupMember?_of_not (h : ¬ BeginsWithMember cs) : lookupMember? cs = (none, cs) := by
  unfold lookupMember?
  split
  · next m rest hread =>
    obtain ⟨d, hd, hcs⟩ := exists_of_bracketed? hread
    rw [if_neg]
    intro hm
    exact h ⟨m, d, rest, List.contains_iff_mem.1 hm, hd, hcs⟩
  · rfl

theorem read?_append (h : Spells database part l s) (rest : List Char)
    (hrest : l.member = none → ¬ BeginsWithMember rest) :
    Lookup.read? database (s ++ rest) = some (l, rest) := by
  cases h with
  | entry hpart ha hb hc =>
    simp only [Lookup.read?, List.append_assoc, Text.afterPrefix?_eq_some_iff.2 rfl,
      bracketed?_append ha, bracketed?_append hb, bracketed?_append hc, Option.bind_eq_bind,
      Option.bind_some, List.contains_iff_mem, hpart, if_true, lookupMember?_of_not (hrest rfl),
      Option.pure_def]
  | member hpart hm ha hb hc hd =>
    simp only [Lookup.read?, List.append_assoc, Text.afterPrefix?_eq_some_iff.2 rfl,
      bracketed?_append ha, bracketed?_append hb, bracketed?_append hc, Option.bind_eq_bind,
      Option.bind_some, List.contains_iff_mem, hpart, if_true, lookupMember?_append hm hd,
      Option.pure_def]

theorem exists_of_read? (h : Lookup.read? database cs = some (l, rest)) :
    ∃ part s, Spells database part l s ∧ cs = s ++ rest ∧
      (l.member = none → ¬ BeginsWithMember rest) := by
  simp only [Lookup.read?, Option.bind_eq_bind, Option.bind_eq_some_iff] at h
  obtain ⟨c₁, hdatabase, ⟨schema, c₂⟩, hschema, ⟨part, c₃⟩, hpart, ⟨entry, c₄⟩, hentry, h⟩ := h
  rw [Text.afterPrefix?_eq_some_iff] at hdatabase
  obtain ⟨a, ha, rfl⟩ := exists_of_bracketed? hschema
  obtain ⟨b, hb, rfl⟩ := exists_of_bracketed? hpart
  obtain ⟨c, hc, rfl⟩ := exists_of_bracketed? hentry
  split_ifs at h with hsection
  rw [List.contains_iff_mem] at hsection
  by_cases hmember : BeginsWithMember c₄
  · obtain ⟨m, d, behind, hm, hd, rfl⟩ := hmember
    rw [lookupMember?_append hm hd] at h
    obtain ⟨rfl, rfl⟩ := Prod.mk.inj (Option.some.inj h)
    exact ⟨part, _, .member hsection hm ha hb hc hd, by simp [hdatabase], by simp⟩
  · rw [lookupMember?_of_not hmember] at h
    obtain ⟨rfl, rfl⟩ := Prod.mk.inj (Option.some.inj h)
    exact ⟨part, _, .entry hsection ha hb hc, by simp [hdatabase], fun _ => hmember⟩

theorem read?_eq_none_iff : Lookup.read? database cs = none ↔
    ∀ part l s rest, Spells database part l s → cs ≠ s ++ rest := by
  constructor
  · rintro hnone part l s rest hspells rfl
    by_cases hmore : l.member = none ∧ BeginsWithMember rest
    · obtain ⟨hmember, m, d, behind, hm, hd, rfl⟩ := hmore
      cases hspells with
      | entry hpart ha hb hc =>
        have hlonger : Spells database part _ _ := .member hpart hm ha hb hc hd
        have hread := read?_append hlonger behind (by simp)
        simp only [List.append_assoc] at hnone hread
        exact absurd (hnone.symm.trans hread) (by simp)
      | member => cases hmember
    · have hread := read?_append hspells rest fun hmember hbegins =>
        hmore ⟨hmember, hbegins⟩
      exact absurd (hnone.symm.trans hread) (by simp)
  · intro h
    by_contra hsome
    obtain ⟨⟨l, rest⟩, hread⟩ := Option.ne_none_iff_exists'.1 hsome
    obtain ⟨part, s, hspells, hcs, -⟩ := exists_of_read? hread
    exact h part l s rest hspells hcs

end SchemaGen.Database
