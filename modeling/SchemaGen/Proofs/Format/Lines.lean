import Mathlib.Data.List.Chain
import SchemaGen.Format.Formatter
import SchemaGen.Proofs.Text.Trim

namespace SchemaGen.Format

open Text

/-- A text in plain form: it ends with one line break, no white space stands before a line break, no two
empty lines follow each other, and the text does not begin with one, unless it is nothing else. -/
structure IsPlain (cs : List Char) : Prop where
  ended : ['\n'] <:+ cs
  endedOnce : ¬['\n', '\n'] <:+ cs
  trimmed : ∀ c, isBlank c = true → [c, '\n'] <:+: cs → c = '\n'
  spaced : ¬['\n', '\n', '\n'] <:+: cs
  opened : ['\n'] <+: cs → cs = ['\n']

/-- Lines as a plain text has them. -/
structure Tidy (ls : List (List Char)) : Prop where
  oneLine : ∀ l ∈ ls, '\n' ∉ l
  trimmed : ∀ l ∈ ls, trimEnd l = l
  spaced : ls.IsChain fun a b => a = [] → b ≠ []
  first : ls.head? ≠ some []
  last : ls.getLast? ≠ some []

def broken (ls : List (List Char)) : List Char := ls.flatMap (· ++ ['\n'])

variable {ls : List (List Char)} {cs : List Char}

/-! ### What formatting does to lines -/

section Collapse

variable {afterEmpty : Bool}

theorem collapse_sublist (afterEmpty : Bool) (ls : List (List Char)) :
    (collapse afterEmpty ls).Sublist ls := by
  induction ls generalizing afterEmpty with
  | nil => exact List.Sublist.refl []
  | cons l ls ih =>
    rw [collapse]
    split_ifs
    · exact (ih true).cons l
    · exact (ih true).cons_cons l
    · exact (ih false).cons_cons l

theorem head?_collapse (ls : List (List Char)) : (collapse true ls).head? ≠ some [] := by
  induction ls with
  | nil => simp [collapse]
  | cons l ls ih =>
    rw [collapse, if_pos rfl]
    split_ifs with hl
    · exact ih
    · simpa using hl

theorem isChain_collapse (afterEmpty : Bool) (ls : List (List Char)) :
    (collapse afterEmpty ls).IsChain fun a b => a = [] → b ≠ [] := by
  induction ls generalizing afterEmpty with
  | nil => exact .nil
  | cons l ls ih =>
    have hnext (b : Bool) (h : l = [] → b = true) : ∀ m ∈ (collapse b ls).head?, l = [] → m ≠ [] := by
      rintro m hm hl rfl
      obtain rfl := h hl
      exact head?_collapse ls hm
    rw [collapse]
    split_ifs with hl
    · exact ih true
    · exact List.isChain_cons.2 ⟨hnext true fun _ => rfl, ih true⟩
    · exact List.isChain_cons.2 ⟨hnext false fun h => absurd h (by simpa using hl), ih false⟩

theorem filter_collapse (afterEmpty : Bool) (ls : List (List Char)) :
    (collapse afterEmpty ls).filter (!·.isEmpty) = ls.filter (!·.isEmpty) := by
  induction ls generalizing afterEmpty with
  | nil => rfl
  | cons l ls ih =>
    rw [collapse]
    split_ifs with hl
    · simp [hl, ih]
    · simp [hl, ih]
    · simp [hl, ih]

/-- Where no empty line stands behind an empty line, none is dropped. -/
theorem collapse_eq_self (hchain : ls.IsChain fun a b => a = [] → b ≠ [])
    (hfirst : afterEmpty = true → ls.head? ≠ some []) : collapse afterEmpty ls = ls := by
  induction ls generalizing afterEmpty with
  | nil => rfl
  | cons l ls ih =>
    obtain ⟨hnext, hrest⟩ := List.isChain_cons.1 hchain
    rw [collapse]
    split_ifs with hl hafter
    · have hempty : l = [] := by simpa using hl
      exact absurd (congrArg some hempty) (hfirst hafter)
    · have hhead : ls.head? ≠ some [] := fun h => hnext [] h (by simpa using hl) rfl
      rw [ih hrest fun _ => hhead]
    · rw [ih hrest fun h => absurd h Bool.false_ne_true]

end Collapse

theorem dropLastEmpty_eq_self (h : ls.getLast? ≠ some []) : dropLastEmpty ls = ls := if_neg h

theorem dropLastEmpty_concat (ls : List (List Char)) : dropLastEmpty (ls ++ [[]]) = ls := by
  rw [dropLastEmpty, List.getLast?_concat, if_pos rfl, List.dropLast_concat]

/-- An empty line at the end is the only one there, so none is left. -/
theorem tidy_dropLastEmpty (hline : ∀ l ∈ ls, '\n' ∉ l) (htrim : ∀ l ∈ ls, trimEnd l = l)
    (hchain : ls.IsChain fun a b => a = [] → b ≠ []) (hfirst : ls.head? ≠ some []) :
    Tidy (dropLastEmpty ls) := by
  by_cases hlast : ls.getLast? = some []
  · obtain ⟨init, rfl⟩ : ∃ init, ls = init ++ [[]] := List.getLast?_eq_some_iff.1 hlast
    rw [dropLastEmpty_concat]
    have hmem {l : List Char} (hl : l ∈ init) : l ∈ init ++ [[]] := List.mem_append_left _ hl
    refine ⟨fun l hl => hline l (hmem hl), fun l hl => htrim l (hmem hl), hchain.left_of_append, ?_, ?_⟩
    · intro hhead
      exact hfirst (by rw [List.head?_append, hhead]; rfl)
    · intro hend
      exact (List.isChain_append.1 hchain).2.2 [] hend [] rfl rfl rfl
  · rw [dropLastEmpty_eq_self hlast]
    exact ⟨hline, htrim, hchain, hfirst, hlast⟩

theorem filter_dropLastEmpty (ls : List (List Char)) :
    (dropLastEmpty ls).filter (!·.isEmpty) = ls.filter (!·.isEmpty) := by
  by_cases hlast : ls.getLast? = some []
  · obtain ⟨init, rfl⟩ : ∃ init, ls = init ++ [[]] := List.getLast?_eq_some_iff.1 hlast
    rw [dropLastEmpty_concat, List.filter_append]
    simp
  · rw [dropLastEmpty_eq_self hlast]

theorem trimEnd_trimEnd (cs : List Char) : trimEnd (trimEnd cs) = trimEnd cs :=
  trimEnd_eq_self (getLast?_trimEnd cs)

theorem tidy_plainLines (cs : List Char) : Tidy (plainLines cs) := by
  have hsub := collapse_sublist true ((lines cs).map trimEnd)
  have hof {l : List Char} (hl : l ∈ collapse true ((lines cs).map trimEnd)) :
      ∃ k ∈ lines cs, trimEnd k = l := List.mem_map.1 (hsub.mem hl)
  refine tidy_dropLastEmpty ?_ ?_ (isChain_collapse _ _) (head?_collapse _)
  · intro l hl hfeed
    obtain ⟨k, hk, rfl⟩ := hof hl
    exact (mem_lines hk).1 ((isPrefix_trimEnd k).subset hfeed)
  · intro l hl
    obtain ⟨k, _, rfl⟩ := hof hl
    exact trimEnd_trimEnd k

theorem filter_plainLines (cs : List Char) :
    (plainLines cs).filter (!·.isEmpty) = ((lines cs).map trimEnd).filter (!·.isEmpty) := by
  rw [plainLines, filter_dropLastEmpty, filter_collapse]

/-! ### Lines and their breaks -/

theorem joinLines_of_ne_nil (h : ls ≠ []) : joinLines ls = broken ls := by
  cases ls with
  | nil => exact absurd rfl h
  | cons l ls => rfl

theorem broken_append (as bs : List (List Char)) : broken (as ++ bs) = broken as ++ broken bs :=
  List.flatMap_append

theorem broken_concat (ls : List (List Char)) (l : List Char) :
    broken (ls ++ [l]) = broken ls ++ l ++ ['\n'] := by
  rw [broken_append, List.append_assoc]
  simp [broken]

theorem broken_eq_nil_iff : broken ls = [] ↔ ls = [] := by
  cases ls <;> simp [broken]

theorem exists_of_broken_eq (hls : ∀ l ∈ ls, '\n' ∉ l) {before after : List Char}
    (h : broken ls = before ++ '\n' :: after) :
    ∃ above l below, ls = above ++ l :: below ∧ before = broken above ++ l ∧ after = broken below := by
  induction ls generalizing before with
  | nil => simp [broken] at h
  | cons l ls ih =>
    obtain ⟨hl, hrest⟩ := List.forall_mem_cons.1 hls
    have htext : l ++ '\n' :: broken ls = before ++ '\n' :: after := by simpa [broken] using h
    rcases List.append_eq_append_iff.1 htext with ⟨more, rfl, hmore⟩ | ⟨more, rfl, hmore⟩
    · cases more with
      | nil =>
        rw [List.nil_append, List.cons.injEq] at hmore
        exact ⟨[], l, ls, rfl, by simp [broken], hmore.2.symm⟩
      | cons c more =>
        rw [List.cons_append, List.cons.injEq] at hmore
        obtain ⟨rfl, hmore⟩ := hmore
        obtain ⟨above, k, below, rfl, rfl, rfl⟩ := ih hrest hmore
        exact ⟨l :: above, k, below, rfl, by simp [broken], rfl⟩
    · cases more with
      | nil =>
        rw [List.nil_append, List.cons.injEq] at hmore
        exact ⟨[], before, ls, by simp, by simp [broken], hmore.2⟩
      | cons c more =>
        rw [List.cons_append, List.cons.injEq] at hmore
        exact absurd (by simp [← hmore.1]) hl

/-- The last character of a line that has no break yet, or the break before it if it is empty. -/
theorem last_broken_append {l before : List Char} {c : Char} (h : before ++ [c] = broken ls ++ l) :
    l = [] ∧ c = '\n' ∧ ls ≠ [] ∨ l.getLast? = some c := by
  have hlast := congrArg List.getLast? h
  rw [List.getLast?_concat, List.getLast?_append] at hlast
  cases hl : l.getLast? with
  | some d =>
    rw [hl] at hlast
    exact .inr hlast.symm
  | none =>
    obtain rfl := List.getLast?_eq_none_iff.1 hl
    left
    obtain rfl | ⟨init, k, rfl⟩ := List.eq_nil_or_concat' ls
    · simp [broken] at h
    · rw [broken_concat, List.getLast?_concat] at hlast
      exact ⟨rfl, Option.some.inj hlast, by simp⟩

/-- Where two breaks stand side by side, a line is empty. -/
theorem eq_nil_of_break {l before : List Char} (hl : '\n' ∉ l)
    (h : before ++ ['\n'] = broken ls ++ l) : l = [] ∧ ls ≠ [] ∧ before ++ ['\n'] = broken ls := by
  rcases last_broken_append h with ⟨rfl, -, hne⟩ | hlast
  · exact ⟨rfl, hne, by rw [h, List.append_nil]⟩
  · exact absurd (List.mem_of_getLast? hlast) hl

/-! ### The plain form -/

theorem isPlain_joinLines (h : Tidy ls) : IsPlain (joinLines ls) := by
  by_cases hnil : ls = []
  · subst hnil
    refine ⟨List.suffix_refl _, by decide, ?_, by decide, fun _ => rfl⟩
    intro c _ hinfix
    have hlength : 2 ≤ 1 := hinfix.length_le
    omega
  rw [joinLines_of_ne_nil hnil]
  refine ⟨?_, ?_, ?_, ?_, ?_⟩
  · obtain ⟨init, l, rfl⟩ := (List.eq_nil_or_concat' ls).resolve_left hnil
    rw [broken_concat]
    exact List.suffix_append _ _
  · rintro ⟨before, hbefore⟩
    have hcut : broken ls = (before ++ ['\n']) ++ '\n' :: [] := by rw [← hbefore]; simp
    obtain ⟨above, l, below, rfl, hl, hbelow⟩ := exists_of_broken_eq h.oneLine hcut
    obtain rfl := broken_eq_nil_iff.1 hbelow.symm
    obtain ⟨rfl, -⟩ := eq_nil_of_break (h.oneLine l (by simp)) hl
    exact h.last (by simp)
  · rintro c hc ⟨before, after, hinfix⟩
    have hcut : broken ls = (before ++ [c]) ++ '\n' :: after := by rw [← hinfix]; simp
    obtain ⟨above, l, below, rfl, hl, -⟩ := exists_of_broken_eq h.oneLine hcut
    rcases last_broken_append hl with ⟨-, rfl, -⟩ | hlast
    · rfl
    · have hend : (trimEnd l).getLast? = some c := by rw [h.trimmed l (by simp), hlast]
      exact absurd hc (by simp [getLast?_trimEnd l c hend])
  · rintro ⟨before, after, hinfix⟩
    have hcut : broken ls = ((before ++ ['\n']) ++ ['\n']) ++ '\n' :: after := by rw [← hinfix]; simp
    obtain ⟨above, l, below, rfl, hl, -⟩ := exists_of_broken_eq h.oneLine hcut
    obtain ⟨rfl, -, habove⟩ := eq_nil_of_break (h.oneLine l (by simp)) hl
    obtain ⟨above, k, between, rfl, hk, hbetween⟩ :=
      exists_of_broken_eq (fun l hl => h.oneLine l (by simp [hl])) habove.symm
    obtain rfl := broken_eq_nil_iff.1 hbetween.symm
    obtain ⟨rfl, -⟩ := eq_nil_of_break (h.oneLine k (by simp)) hk
    have hchain := h.spaced
    rw [List.append_assoc] at hchain
    exact (List.isChain_iff_forall_rel_of_append_cons_cons.1 hchain rfl) rfl rfl
  · rintro ⟨after, hprefix⟩
    have hcut : broken ls = [] ++ '\n' :: after := hprefix.symm
    obtain ⟨above, l, below, rfl, hl, -⟩ := exists_of_broken_eq h.oneLine hcut
    obtain ⟨habove, rfl⟩ := List.append_eq_nil_iff.1 hl.symm
    obtain rfl := broken_eq_nil_iff.1 habove
    exact absurd rfl h.first

/-- Every text is lines with their breaks and what stands behind the last break. -/
theorem exists_broken (cs : List Char) :
    ∃ ls last, (∀ l ∈ ls, '\n' ∉ l) ∧ '\n' ∉ last ∧ cs = broken ls ++ last := by
  induction cs with
  | nil => exact ⟨[], [], by simp, by simp, rfl⟩
  | cons c cs ih =>
    obtain ⟨ls, last, hls, hlast, rfl⟩ := ih
    by_cases hc : c = '\n'
    · subst hc
      exact ⟨[] :: ls, last, List.forall_mem_cons.2 ⟨by simp, hls⟩, hlast, rfl⟩
    · cases ls with
      | nil => exact ⟨[], c :: last, hls, by simp [Ne.symm hc, hlast], rfl⟩
      | cons l ls =>
        obtain ⟨hl, hrest⟩ := List.forall_mem_cons.1 hls
        exact ⟨(c :: l) :: ls, last, List.forall_mem_cons.2 ⟨by simp [Ne.symm hc, hl], hrest⟩, hlast, rfl⟩

theorem tidy_of_isPlain_broken (hls : ∀ l ∈ ls, '\n' ∉ l) (hne : broken ls ≠ ['\n'])
    (h : IsPlain (broken ls)) : Tidy ls := by
  have hopened {l : List Char} {below : List (List Char)} (hl : ls = l :: below) : l ≠ [] := by
    rintro rfl
    exact hne (h.opened ⟨broken below, by rw [hl]; rfl⟩)
  refine ⟨hls, fun l hl => trimEnd_eq_self fun c hc => ?_, ?_, ?_, ?_⟩
  · obtain ⟨above, below, rfl⟩ := List.append_of_mem hl
    obtain ⟨init, rfl⟩ : ∃ init, l = init ++ [c] := List.getLast?_eq_some_iff.1 hc
    have hinfix : [c, '\n'] <:+: broken (above ++ (init ++ [c]) :: below) :=
      ⟨broken above ++ init, broken below, by simp [broken]⟩
    by_contra hblank
    obtain rfl := h.trimmed c (by simpa using hblank) hinfix
    exact hls _ hl (by simp)
  · rw [List.isChain_iff_forall_rel_of_append_cons_cons]
    rintro a b above below hsplit rfl rfl
    obtain rfl | ⟨above, k, rfl⟩ := List.eq_nil_or_concat' above
    · exact hopened hsplit rfl
    · refine h.spaced ⟨broken above ++ k, broken below, ?_⟩
      rw [hsplit]
      simp [broken]
  · intro hhead
    obtain ⟨below, hl⟩ := List.head?_eq_some_iff.1 hhead
    exact hopened hl rfl
  · intro hlast
    obtain ⟨init, hinit⟩ : ∃ init, ls = init ++ [[]] := List.getLast?_eq_some_iff.1 hlast
    obtain rfl | ⟨above, k, rfl⟩ := List.eq_nil_or_concat' init
    · exact hopened hinit rfl
    · refine h.endedOnce ⟨broken above ++ k, ?_⟩
      rw [hinit]
      simp [broken]

theorem isPlain_iff : IsPlain cs ↔ ∃ ls, Tidy ls ∧ cs = joinLines ls := by
  constructor
  · intro h
    by_cases hsingle : cs = ['\n']
    · exact ⟨[], ⟨by simp, by simp, .nil, by simp, by simp⟩, hsingle⟩
    obtain ⟨ls, last, hls, hlast, rfl⟩ := exists_broken cs
    obtain ⟨before, hbefore⟩ := h.ended
    obtain ⟨rfl, hne, -⟩ := eq_nil_of_break hlast hbefore
    rw [List.append_nil] at h hsingle ⊢
    exact ⟨ls, tidy_of_isPlain_broken hls hsingle h, (joinLines_of_ne_nil hne).symm⟩
  · rintro ⟨ls, hls, rfl⟩
    exact isPlain_joinLines hls

/-- The lines of a plain text are those that make it up. -/
theorem lines_joinLines (h : Tidy ls) (hne : ls ≠ []) : lines (joinLines ls) = ls := by
  rw [joinLines_of_ne_nil hne]
  refine lines_flatMap fun l hl => ⟨h.oneLine l hl, fun hreturn => ?_⟩
  have hend : (trimEnd l).getLast? = some '\r' := by rw [h.trimmed l hl, hreturn]
  exact absurd (getLast?_trimEnd l '\r' hend) (by decide)

theorem filter_lines_joinLines (h : Tidy ls) :
    (lines (joinLines ls)).filter (!·.isEmpty) = ls.filter (!·.isEmpty) := by
  by_cases hne : ls = []
  · subst hne
    rfl
  · rw [lines_joinLines h hne]

theorem plainLines_joinLines (h : Tidy ls) : plainLines (joinLines ls) = ls := by
  by_cases hne : ls = []
  · subst hne
    rfl
  · have htrim : ls.map trimEnd = ls := (List.map_congr_left h.trimmed).trans ls.map_id
    rw [plainLines, lines_joinLines h hne, htrim, collapse_eq_self h.spaced fun _ => h.first,
      dropLastEmpty_eq_self h.last]

theorem toList_plain (text : String) : (plain text).toList = joinLines (plainLines text.toList) :=
  String.toList_ofList

theorem isPlain_plain (text : String) : IsPlain (plain text).toList := by
  rw [toList_plain]
  exact isPlain_joinLines (tidy_plainLines _)

theorem plain_eq_self {text : String} (h : IsPlain text.toList) : plain text = text := by
  obtain ⟨ls, hls, htext⟩ := isPlain_iff.1 h
  rw [← String.toList_inj, toList_plain, htext, plainLines_joinLines hls]

theorem filter_lines_plain (text : String) :
    (lines (plain text).toList).filter (!·.isEmpty) =
      ((lines text.toList).map trimEnd).filter (!·.isEmpty) := by
  rw [toList_plain, filter_lines_joinLines (tidy_plainLines _), filter_plainLines]

/-- Formatting brings every text into plain form and leaves one that has it as it is, so that to format again
changes nothing. The lines that are not empty stay, without white space at their ends. -/
theorem run_plain (commands : Commands) (text : String) :
    ∃ result, Formatter.plain.run commands text = .ok result ∧
      Formatter.plain.run commands result = .ok result ∧
      IsPlain result.toList ∧
      (IsPlain text.toList ↔ result = text) ∧
      (lines result.toList).filter (!·.isEmpty) =
        ((lines text.toList).map trimEnd).filter (!·.isEmpty) := by
  have hplain := isPlain_plain text
  refine ⟨plain text, rfl, ?_, hplain, ⟨plain_eq_self, fun h => h ▸ hplain⟩, filter_lines_plain text⟩
  exact congrArg Except.ok (plain_eq_self hplain)

example : plain "\n\na  \n\u00a0\n\n  b\t\r\n\n" = "a\n\n  b\n" ∧ plain " \n" = "\n" := by decide +kernel

end SchemaGen.Format
