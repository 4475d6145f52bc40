import Mathlib.Data.List.Induction
import Mathlib.Tactic.Common
import SchemaGen.Entity.Grouping

namespace SchemaGen.Entity

section Longest

variable {suffixes others : List (List Char)} {name entity suffix : List Char}
variable {best split split' : List Char × Option (List Char)}

/-- A suffix fits a name if it leaves an entity and takes something away. -/
def Fits (name suffix : List Char) : Prop :=
  suffix ≠ [] ∧ ∃ entity, entity ≠ [] ∧ entity ++ suffix = name

/-- The split of a name by the longest suffix that fits it. -/
inductive Longest (suffixes : List (List Char)) (name : List Char) :
    List Char × Option (List Char) → Prop
  | whole (h : ∀ t ∈ suffixes, ¬Fits name t) : Longest suffixes name (name, none)
  | cut {entity suffix : List Char} (hmem : suffix ∈ suffixes) (hsuffix : suffix ≠ [])
      (hentity : entity ≠ []) (happend : entity ++ suffix = name)
      (h : ∀ t ∈ suffixes, Fits name t → t.length ≤ suffix.length) :
      Longest suffixes name (entity, some suffix)

theorem Longest.length_le (h : Longest suffixes name best) : best.1.length ≤ name.length := by
  cases h with
  | whole h => exact Nat.le_refl _
  | cut hmem hsuffix hentity happend h =>
    rw [← happend, List.length_append]
    exact Nat.le_add_right _ _

theorem betterSplit_append (hentity : entity ≠ []) (suffix : List Char)
    (best : List Char × Option (List Char)) :
    betterSplit (entity ++ suffix) best suffix =
      if entity.length < best.1.length then (entity, some suffix) else best := by
  have hcut : Text.beforeSuffix? suffix (entity ++ suffix) = some entity :=
    Text.beforeSuffix?_eq_some_iff.2 rfl
  obtain ⟨c, cs, rfl⟩ := List.exists_cons_of_ne_nil hentity
  rw [betterSplit, hcut]

/-- A suffix that does not fit changes no split. The empty suffix leaves the whole name, which is not
shorter. -/
theorem betterSplit_of_not_fits (h : ¬Fits name suffix) (hbest : best.1.length ≤ name.length) :
    betterSplit name best suffix = best := by
  unfold betterSplit
  split
  · next c entity hcut =>
    have hname : name = c :: entity ++ suffix := Text.beforeSuffix?_eq_some_iff.1 hcut
    have hempty : suffix = [] := by
      by_contra hne
      exact h ⟨hne, c :: entity, List.cons_ne_nil _ _, hname.symm⟩
    rw [hempty, List.append_nil] at hname
    rw [← hname, if_neg (Nat.not_lt.2 hbest)]
  · rfl

theorem Longest.concat_of_not_fits (h : Longest suffixes name best) (hfits : ¬Fits name suffix) :
    Longest (suffixes ++ [suffix]) name best := by
  cases h with
  | whole h => exact .whole (List.forall_mem_append.2 ⟨h, List.forall_mem_singleton.2 hfits⟩)
  | cut hmem hsuffix hentity happend h =>
    exact .cut (List.mem_append_left _ hmem) hsuffix hentity happend
      (List.forall_mem_append.2 ⟨h, List.forall_mem_singleton.2 fun hfits' => absurd hfits' hfits⟩)

theorem Longest.betterSplit (h : Longest suffixes name best) (suffix : List Char) :
    Longest (suffixes ++ [suffix]) name (betterSplit name best suffix) := by
  by_cases hfits : Fits name suffix
  · obtain ⟨hsuffix, entity, hentity, rfl⟩ := hfits
    have hlast : suffix ∈ suffixes ++ [suffix] := List.mem_append_right _ (List.mem_singleton_self _)
    rw [betterSplit_append hentity]
    cases h with
    | whole h =>
      have hshorter : entity.length < (entity ++ suffix).length := by
        rw [List.length_append]
        exact Nat.lt_add_of_pos_right (List.length_pos_iff.2 hsuffix)
      rw [if_pos hshorter]
      refine .cut hlast hsuffix hentity rfl (List.forall_mem_append.2 ⟨?_, ?_⟩)
      · exact fun t ht hfits => absurd hfits (h t ht)
      · exact List.forall_mem_singleton.2 fun _ => Nat.le_refl _
    | @cut entity' suffix' hmem hsuffix' hentity' happend h =>
      -- Both suffixes end the same name, so the longer one leaves the shorter entity.
      have hlength : entity'.length + suffix'.length = entity.length + suffix.length := by
        rw [← List.length_append, happend, List.length_append]
      by_cases hshorter : entity.length < entity'.length
      · rw [if_pos hshorter]
        refine .cut hlast hsuffix hentity rfl (List.forall_mem_append.2 ⟨fun t ht hfits => ?_, ?_⟩)
        · have hle := h t ht hfits
          omega
        · exact List.forall_mem_singleton.2 fun _ => Nat.le_refl _
      · rw [if_neg hshorter]
        refine .cut (List.mem_append_left _ hmem) hsuffix' hentity' happend
          (List.forall_mem_append.2 ⟨h, List.forall_mem_singleton.2 fun _ => ?_⟩)
        omega
  · rw [betterSplit_of_not_fits hfits h.length_le]
    exact h.concat_of_not_fits hfits

theorem longest_splitChars (suffixes : List (List Char)) (name : List Char) :
    Longest suffixes name (splitChars suffixes name) := by
  unfold splitChars
  induction suffixes using List.reverseRecOn with
  | nil => exact .whole (List.forall_mem_nil _)
  | append_singleton suffixes suffix ih =>
    rw [List.foldl_append]
    exact ih.betterSplit suffix

/-- There is one such split, whatever the order of the suffixes. Two suffixes of one length that fit are
the same. -/
theorem Longest.unique (hsame : ∀ t, t ∈ others ↔ t ∈ suffixes) (h : Longest suffixes name split)
    (h' : Longest others name split') : split' = split := by
  cases h with
  | whole h =>
    cases h' with
    | whole h' => rfl
    | cut hmem' hsuffix' hentity' happend' h' =>
      exact absurd ⟨hsuffix', _, hentity', happend'⟩ (h _ ((hsame _).1 hmem'))
  | cut hmem hsuffix hentity happend h =>
    cases h' with
    | whole h' => exact absurd ⟨hsuffix, _, hentity, happend⟩ (h' _ ((hsame _).2 hmem))
    | cut hmem' hsuffix' hentity' happend' h' =>
      have hle := h _ ((hsame _).1 hmem') ⟨hsuffix', _, hentity', happend'⟩
      have hge := h' _ ((hsame _).2 hmem) ⟨hsuffix, _, hentity, happend⟩
      obtain ⟨rfl, rfl⟩ := List.append_inj' (happend'.trans happend.symm) (Nat.le_antisymm hle hge)
      rfl

end Longest

section Texts

variable {suffixes : List String} {name entity suffix : String}

/-- A name ends in a suffix and has something in front of it. -/
def IsProperSuffix (suffix name : String) : Prop := ∃ entity, entity ≠ "" ∧ entity ++ suffix = name

theorem fits_toList_iff : Fits name.toList suffix.toList ↔ suffix ≠ "" ∧ IsProperSuffix suffix name := by
  refine and_congr (by simp) ⟨?_, ?_⟩
  · rintro ⟨entity, hentity, happend⟩
    refine ⟨String.ofList entity, by simpa using hentity, ?_⟩
    rw [← String.toList_inj, String.toList_append, String.toList_ofList, happend]
  · rintro ⟨entity, hentity, rfl⟩
    exact ⟨entity.toList, by simpa using hentity, String.toList_append.symm⟩

/-- Of two suffixes of one name, the one with fewer characters has fewer bytes too. -/
theorem utf8ByteSize_le {t : String} (hs : IsProperSuffix suffix name) (ht : IsProperSuffix t name)
    (hle : t.toList.length ≤ suffix.toList.length) : t.utf8ByteSize ≤ suffix.utf8ByteSize := by
  obtain ⟨e, -, he⟩ := hs
  obtain ⟨f, -, hf⟩ := ht
  have hs : suffix.toList <:+ name.toList := ⟨e.toList, by rw [← String.toList_append, he]⟩
  have ht : t.toList <:+ name.toList := ⟨f.toList, by rw [← String.toList_append, hf]⟩
  obtain ⟨front, hfront⟩ := List.suffix_of_suffix_length_le ht hs hle
  have hsuffix : suffix = String.ofList front ++ t := by
    rw [← String.toList_inj, String.toList_append, String.toList_ofList, hfront]
  rw [hsuffix, String.utf8ByteSize_append]
  exact Nat.le_add_left _ _

theorem splitSuffix_cases (suffixes : List String) (name : String) :
    (splitSuffix suffixes name = (name, none) ∧
      ∀ t ∈ suffixes, t ≠ "" → ¬IsProperSuffix t name) ∨
    ∃ entity, ∃ suffix ∈ suffixes, splitSuffix suffixes name = (entity, some suffix) ∧
      entity ≠ "" ∧ suffix ≠ "" ∧ entity ++ suffix = name ∧
      ∀ t ∈ suffixes, t ≠ "" → IsProperSuffix t name → t.utf8ByteSize ≤ suffix.utf8ByteSize := by
  have h := longest_splitChars (suffixes.map String.toList) name.toList
  unfold splitSuffix
  generalize splitChars (suffixes.map String.toList) name.toList = split at h ⊢
  cases h with
  | whole h =>
    refine .inl ⟨?_, fun t ht hne hproper => ?_⟩
    · exact congrArg (·, none) String.ofList_toList
    · exact h _ (List.mem_map_of_mem ht) (fits_toList_iff.2 ⟨hne, hproper⟩)
  | @cut entity chars hmap hsuffix hentity happend h =>
    obtain ⟨suffix, hmem, rfl⟩ := List.mem_map.1 hmap
    have hne : suffix ≠ "" := by simpa using hsuffix
    have hentity' : String.ofList entity ≠ "" := by simpa using hentity
    have hname : String.ofList entity ++ suffix = name := by
      rw [← String.toList_inj, String.toList_append, String.toList_ofList, happend]
    refine .inr ⟨String.ofList entity, suffix, hmem, ?_, hentity', hne, hname, fun t ht htne hproper => ?_⟩
    · exact congrArg (fun s => (String.ofList entity, some s)) String.ofList_toList
    · have hle := h _ (List.mem_map_of_mem ht) (fits_toList_iff.2 ⟨htne, hproper⟩)
      exact utf8ByteSize_le ⟨_, hentity', hname⟩ hproper hle

theorem splitSuffix_congr {others : List String} (h : ∀ t, t ∈ others ↔ t ∈ suffixes) (name : String) :
    splitSuffix others name = splitSuffix suffixes name := by
  have hsame (t : List Char) : t ∈ others.map String.toList ↔ t ∈ suffixes.map String.toList := by
    simp only [List.mem_map, h]
  have hsplit := (longest_splitChars (suffixes.map String.toList) name.toList).unique hsame
    (longest_splitChars (others.map String.toList) name.toList)
  rw [splitSuffix, hsplit]
  rfl

/-- An entity and the suffix that was cut off make up the name. -/
theorem splitSuffix_append (suffixes : List String) (name : String) :
    (splitSuffix suffixes name).1 ++ (splitSuffix suffixes name).2.getD "" = name := by
  rcases splitSuffix_cases suffixes name with ⟨hsplit, -⟩ | ⟨entity, suffix, -, hsplit, -, -, hname, -⟩
  · rw [hsplit, Option.getD_none, String.append_empty]
  · rw [hsplit, Option.getD_some, hname]

/-- The longest suffix that leaves an entity is cut off, measured in bytes, and a name without such a
suffix stays whole. Neither the order of the suffixes nor their repetition matters, and the two parts
determine the name. -/
theorem splitSuffix_longest (suffixes : List String) (name : String) :
    (∀ suffix, (splitSuffix suffixes name).2 = some suffix →
      (splitSuffix suffixes name).1 ≠ "" ∧ (splitSuffix suffixes name).1 ++ suffix = name ∧
        suffix ∈ suffixes ∧ suffix ≠ "" ∧
        ∀ t ∈ suffixes, suffix.utf8ByteSize < t.utf8ByteSize → ¬IsProperSuffix t name) ∧
    ((splitSuffix suffixes name).2 = none ↔ ∀ t ∈ suffixes, t ≠ "" → ¬IsProperSuffix t name) ∧
    ((splitSuffix suffixes name).2 = none → (splitSuffix suffixes name).1 = name) ∧
    (∀ others, (∀ t, t ∈ others ↔ t ∈ suffixes) →
      splitSuffix others name = splitSuffix suffixes name) ∧
    ∀ other, splitSuffix suffixes other = splitSuffix suffixes name → other = name := by
  have hrest : (∀ others, (∀ t, t ∈ others ↔ t ∈ suffixes) →
      splitSuffix others name = splitSuffix suffixes name) ∧
      ∀ other, splitSuffix suffixes other = splitSuffix suffixes name → other = name := by
    refine ⟨fun others h => splitSuffix_congr h name, fun other h => ?_⟩
    rw [← splitSuffix_append suffixes other, h, splitSuffix_append]
  rcases splitSuffix_cases suffixes name with
    ⟨hsplit, hnone⟩ | ⟨entity, suffix, hmem, hsplit, hentity, hsuffix, hname, hlongest⟩
  · rw [hsplit] at hrest ⊢
    exact ⟨fun suffix h => (nomatch h), ⟨fun _ => hnone, fun _ => rfl⟩, fun _ => rfl, hrest⟩
  · rw [hsplit] at hrest ⊢
    refine ⟨fun suffix' h => ?_, ⟨fun h => (nomatch h), fun h => ?_⟩, fun h => (nomatch h), hrest⟩
    · obtain rfl := Option.some.inj h
      refine ⟨hentity, hname, hmem, hsuffix, fun t ht hlonger hproper => ?_⟩
      have hne : t ≠ "" := by
        rintro rfl
        exact absurd hlonger (Nat.not_lt_zero _)
      exact absurd (hlongest t ht hne hproper) (Nat.not_le.2 hlonger)
    · exact absurd ⟨entity, hentity, hname⟩ (h suffix hmem hsuffix)

/-- A suffix within another, one that is the whole name, and the empty one. -/
theorem splitSuffix_longest_nested :
    splitSuffix ["", "Insert", "Row", "BulkInsert", "Insert"] "OrdersBulkInsert" =
        ("Orders", some "BulkInsert") ∧
      ¬IsProperSuffix "OrdersBulkInsert" "OrdersBulkInsert" ∧
      splitSuffix ["OrdersBulkInsert", "BulkInsert", "Insert"] "OrdersBulkInsert" =
        ("Orders", some "BulkInsert") := by
  have hsplit : splitSuffix ["", "Insert", "Row", "BulkInsert", "Insert"] "OrdersBulkInsert" =
      ("Orders", some "BulkInsert") := by decide +kernel
  have hwhole : splitSuffix ["OrdersBulkInsert", "BulkInsert", "Insert"] "OrdersBulkInsert" =
      ("Orders", some "BulkInsert") := by decide +kernel
  obtain ⟨hcut, -, -, -⟩ := splitSuffix_longest ["OrdersBulkInsert", "BulkInsert", "Insert"]
    "OrdersBulkInsert"
  rw [hwhole] at hcut
  obtain ⟨-, -, -, -, hlongest⟩ := hcut "BulkInsert" rfl
  exact ⟨hsplit, hlongest "OrdersBulkInsert" List.mem_cons_self (by decide +kernel), hwhole⟩

end Texts

section Unrelated

variable {suffixes : List (List Char)} {entity tail suffix : List Char}

/-- Neither of two texts ends in the other. -/
def Unrelated (s t : List Char) : Prop := ¬s <:+ t ∧ ¬t <:+ s

instance (s t : List Char) : Decidable (Unrelated s t) := inferInstanceAs (Decidable (_ ∧ _))

/-- A suffix that has nothing to do with the end of a name does not fit it. -/
theorem not_unrelated_of_fits (h : Fits (entity ++ tail) suffix) : ¬Unrelated suffix tail := by
  obtain ⟨-, front, -, hname⟩ := h
  have hsuffix : suffix <:+ entity ++ tail := ⟨front, hname⟩
  rintro ⟨hbehind, hbefore⟩
  rcases List.suffix_or_suffix_of_suffix hsuffix (List.suffix_append entity tail) with hs | hs
  · exact hbehind hs
  · exact hbefore hs

theorem splitChars_of_unrelated (entity : List Char) (h : ∀ s ∈ suffixes, Unrelated s tail) :
    splitChars suffixes (entity ++ tail) = (entity ++ tail, none) := by
  have hnone (t : List Char) (ht : t ∈ suffixes) : ¬Fits (entity ++ tail) t := fun hfits =>
    not_unrelated_of_fits hfits (h t ht)
  exact (Longest.whole hnone).unique (fun _ => Iff.rfl) (longest_splitChars suffixes _)

theorem splitChars_append (hentity : entity ≠ []) (htail : tail ≠ []) (hmem : tail ∈ suffixes)
    (h : ∀ s ∈ suffixes, s = tail ∨ Unrelated s tail) :
    splitChars suffixes (entity ++ tail) = (entity, some tail) := by
  have hlongest (t : List Char) (ht : t ∈ suffixes) (hfits : Fits (entity ++ tail) t) :
      t.length ≤ tail.length := by
    rcases h t ht with rfl | hunrelated
    · exact Nat.le_refl _
    · exact absurd hunrelated (not_unrelated_of_fits hfits)
  exact (Longest.cut hmem htail hentity rfl hlongest).unique (fun _ => Iff.rfl)
    (longest_splitChars suffixes _)

end Unrelated

end SchemaGen.Entity
