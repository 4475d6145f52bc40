import Mathlib.Data.List.DropRight
import Mathlib.Data.List.Infix
import Mathlib.Data.List.TakeWhile
import Mathlib.Tactic.SplitIfs
import SchemaGen.Text.Blank

namespace SchemaGen.Text

/-! ### White space around a text -/

/-- Whether no white space stands at either end of a text. -/
def Trimmed (cs : List Char) : Prop :=
  (∀ c ∈ cs.head?, isBlank c = false) ∧ ∀ c ∈ cs.getLast?, isBlank c = false

variable {cs : List Char}

theorem trimStart_eq_self (h : ∀ c ∈ cs.head?, isBlank c = false) : trimStart cs = cs := by
  cases cs with
  | nil => rfl
  | cons c cs => exact List.dropWhile_cons_of_neg (by simp [h c rfl])

theorem trimEnd_eq_self (h : ∀ c ∈ cs.getLast?, isBlank c = false) : trimEnd cs = cs := by
  have hstart : trimStart cs.reverse = cs.reverse := trimStart_eq_self (by simpa using h)
  rw [trimEnd, show cs.reverse.dropWhile isBlank = cs.reverse from hstart, List.reverse_reverse]

theorem trim_eq_self (h : Trimmed cs) : trim cs = cs := by
  rw [trim, trimStart_eq_self h.1, trimEnd_eq_self h.2]

theorem isPrefix_trimEnd (cs : List Char) : trimEnd cs <+: cs := List.rdropWhile_prefix isBlank cs

theorem isInfix_trim (cs : List Char) : trim cs <:+: cs :=
  (isPrefix_trimEnd _).isInfix.trans (List.dropWhile_suffix isBlank).isInfix

theorem head?_trimStart (cs : List Char) : ∀ c ∈ (trimStart cs).head?, isBlank c = false := by
  intro c hc
  have hnot := List.head?_dropWhile_not isBlank cs
  rw [show (cs.dropWhile isBlank).head? = some c from hc] at hnot
  simpa using hnot

theorem getLast?_trimEnd (cs : List Char) : ∀ c ∈ (trimEnd cs).getLast?, isBlank c = false := by
  intro c hc
  refine head?_trimStart cs.reverse c ?_
  rwa [trimEnd, List.getLast?_reverse] at hc

theorem trimmed_trim (cs : List Char) : Trimmed (trim cs) := by
  refine ⟨fun c hc => ?_, getLast?_trimEnd _⟩
  obtain ⟨rest, hrest⟩ := isPrefix_trimEnd (trimStart cs)
  refine head?_trimStart cs c ?_
  rw [← hrest, List.head?_append, show (trimEnd (trimStart cs)).head? = some c from hc]
  rfl

/-- White space is taken away from both ends of a text that has none itself there. -/
theorem trim_padded (before after : List Char) (hbefore : ∀ c ∈ before, isBlank c = true)
    (hafter : ∀ c ∈ after, isBlank c = true) (h : Trimmed cs) (hne : cs ≠ []) :
    trim (before ++ (cs ++ after)) = cs := by
  have hstart : trimStart (before ++ (cs ++ after)) = cs ++ after := by
    rw [trimStart, List.dropWhile_append_of_pos hbefore]
    refine trimStart_eq_self fun c hc => h.1 c ?_
    rwa [List.head?_append_of_ne_nil _ hne] at hc
  have hend : (cs ++ after).reverse.dropWhile isBlank = cs.reverse := by
    rw [List.reverse_append, List.dropWhile_append_of_pos (by simpa using hafter)]
    exact trimStart_eq_self (by simpa using h.2)
  rw [trim, hstart, trimEnd, hend, List.reverse_reverse]

theorem isBlank_of_mem_space : ∀ c ∈ [' '], isBlank c = true := List.forall_mem_singleton.2 (by decide)

theorem trim_cons_blank (h : Trimmed cs) (hne : cs ≠ []) : trim (' ' :: cs) = cs := by
  simpa using trim_padded [' '] [] isBlank_of_mem_space (List.forall_mem_nil _) h hne

theorem trim_eq_nil (h : ∀ c ∈ cs, isBlank c = true) : trim cs = [] := by
  rw [trim, trimStart, List.dropWhile_eq_nil_iff.2 h]
  rfl

/-! ### Lines -/

theorem splitLines_ne_nil (cs : List Char) : splitLines cs ≠ [] := by
  cases cs with
  | nil => simp [splitLines]
  | cons c cs =>
    rw [splitLines]
    split_ifs
    · simp
    · split <;> simp

/-- A text in front of a line feed is the first piece. -/
theorem splitLines_append (h : '\n' ∉ cs) (rest : List Char) :
    splitLines (cs ++ '\n' :: rest) = cs :: splitLines rest := by
  induction cs with
  | nil => rfl
  | cons c cs ih =>
    rw [List.mem_cons, not_or] at h
    rw [List.cons_append, splitLines, if_neg (Ne.symm h.1), ih h.2]

theorem splitLines_of_notMem (h : '\n' ∉ cs) : splitLines cs = [cs] := by
  induction cs with
  | nil => rfl
  | cons c cs ih =>
    rw [List.mem_cons, not_or] at h
    rw [splitLines, if_neg (Ne.symm h.1), ih h.2]

/-- The pieces of a text are parts of it without line feeds. -/
theorem mem_splitLines {l : List Char} (h : l ∈ splitLines cs) : '\n' ∉ l ∧ l <:+: cs := by
  -- The first piece is the beginning of the text, which is what the others need to grow by.
  suffices hall : (∀ l ∈ splitLines cs, '\n' ∉ l ∧ l <:+: cs) ∧
      ∀ l ∈ (splitLines cs).head?, l <+: cs from hall.1 l h
  clear h l
  induction cs with
  | nil => simp [splitLines]
  | cons c cs ih =>
    obtain ⟨hall, hfirst⟩ := ih
    have hlater {l : List Char} (hl : l ∈ splitLines cs) : '\n' ∉ l ∧ l <:+: c :: cs :=
      ⟨(hall l hl).1, (hall l hl).2.trans (List.suffix_cons c cs).isInfix⟩
    rw [splitLines]
    split_ifs with hfeed
    · refine ⟨List.forall_mem_cons.2 ⟨⟨by simp, List.nil_infix⟩, fun l hl => hlater hl⟩, ?_⟩
      simp
    · split
      · next hnil => exact absurd hnil (splitLines_ne_nil cs)
      · next first ls hcons =>
        have hbegins : c :: first <+: c :: cs :=
          List.cons_prefix_cons.2 ⟨rfl, hfirst first (by rw [hcons]; rfl)⟩
        have hplain : '\n' ∉ c :: first := by
          rw [List.mem_cons, not_or]
          exact ⟨Ne.symm hfeed, (hall first (by simp [hcons])).1⟩
        have hlater' : ∀ l ∈ ls, '\n' ∉ l ∧ l <:+: c :: cs := fun l hl => hlater (by simp [hcons, hl])
        refine ⟨List.forall_mem_cons.2 ⟨⟨hplain, hbegins.isInfix⟩, hlater'⟩, ?_⟩
        simpa using hbegins

theorem isPrefix_dropReturn (cs : List Char) : dropReturn cs <+: cs := by
  unfold dropReturn
  split_ifs
  · exact cs.dropLast_prefix
  · exact List.prefix_refl cs

theorem dropReturn_eq_self (h : cs.getLast? ≠ some '\r') : dropReturn cs = cs := if_neg h

/-- The lines of a text are parts of it without line feeds. -/
theorem mem_lines {l : List Char} (h : l ∈ lines cs) : '\n' ∉ l ∧ l <:+: cs := by
  have hcomplete : l ∈ (splitLines cs).dropLast.map dropReturn → '\n' ∉ l ∧ l <:+: cs := by
    intro hl
    obtain ⟨piece, hpiece, rfl⟩ := List.mem_map.1 hl
    obtain ⟨hplain, hpart⟩ := mem_splitLines ((List.dropLast_sublist _).mem hpiece)
    have hbegins := isPrefix_dropReturn piece
    exact ⟨fun hfeed => hplain (hbegins.subset hfeed), hbegins.isInfix.trans hpart⟩
  unfold lines at h
  dsimp only at h
  split at h
  · next c rest hlast =>
    rcases List.mem_append.1 h with hl | hl
    · exact hcomplete hl
    · obtain rfl := List.mem_singleton.1 hl
      exact mem_splitLines (List.mem_of_getLast? hlast)
  · exact hcomplete h

/-- Lines that are ended one by one are the pieces of the text, and so is what stands behind them. -/
theorem splitLines_broken {ls : List (List Char)} {last : List Char} (hls : ∀ l ∈ ls, '\n' ∉ l)
    (hlast : '\n' ∉ last) : splitLines (ls.flatMap (· ++ ['\n']) ++ last) = ls ++ [last] := by
  induction ls with
  | nil => exact splitLines_of_notMem hlast
  | cons l ls ih =>
    obtain ⟨hl, hrest⟩ := List.forall_mem_cons.1 hls
    have htext : (l :: ls).flatMap (· ++ ['\n']) ++ last =
        l ++ '\n' :: (ls.flatMap (· ++ ['\n']) ++ last) := by
      rw [List.flatMap_cons, List.append_assoc, List.append_assoc]
      rfl
    rw [htext, splitLines_append hl, ih hrest]
    rfl

theorem map_dropReturn {ls : List (List Char)} (hls : ∀ l ∈ ls, l.getLast? ≠ some '\r') :
    ls.map dropReturn = ls := by
  refine (List.map_congr_left fun l hl => ?_).trans ls.map_id
  exact dropReturn_eq_self (hls l hl)

/-- Lines that are ended one by one are the lines of the text, and so is what stands behind them. -/
theorem lines_broken {ls : List (List Char)} {last : List Char}
    (hls : ∀ l ∈ ls, '\n' ∉ l ∧ l.getLast? ≠ some '\r') (hlast : '\n' ∉ last) (hne : last ≠ []) :
    lines (ls.flatMap (· ++ ['\n']) ++ last) = ls ++ [last] := by
  have hpieces := splitLines_broken (fun l hl => (hls l hl).1) hlast
  have hcomplete := map_dropReturn fun l hl => (hls l hl).2
  obtain ⟨c, rest, rfl⟩ := List.exists_cons_of_ne_nil hne
  rw [lines, hpieces]
  simp only [List.dropLast_concat, List.getLast?_concat, hcomplete]

theorem lines_flatMap {ls : List (List Char)}
    (hls : ∀ l ∈ ls, '\n' ∉ l ∧ l.getLast? ≠ some '\r') :
    lines (ls.flatMap (· ++ ['\n'])) = ls := by
  have hpieces := splitLines_broken (fun l hl => (hls l hl).1) (List.not_mem_nil (a := '\n'))
  have hcomplete := map_dropReturn fun l hl => (hls l hl).2
  rw [List.append_nil] at hpieces
  rw [lines, hpieces]
  simp only [List.dropLast_concat, List.getLast?_concat, hcomplete]

end SchemaGen.Text
