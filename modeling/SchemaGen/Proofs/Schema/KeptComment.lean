import SchemaGen.Proofs.Schema.Comment

namespace SchemaGen.Schema.Doc

open Text

variable {cs : List Char} {c : Char}

/-! ### Reading back what is written -/

def Line.written : Line → String
  | .text s => s
  | .tag t => Tag.text t

/-- The lines that a comment is written as. -/
def parts (d : Doc) : List Line := d.description.map .text ++ d.tags.map .tag

theorem lines_eq (d : Doc) : d.lines = d.parts.map Line.written := by
  simp only [lines, parts, List.map_append, List.map_map]
  exact congrArg (· ++ _) (List.map_id _).symm

theorem ofLines_parts (d : Doc) : ofLines d.parts = d := by
  have htexts (ls before : List String) :
      (ls.map Line.text).foldl addLine ⟨before, []⟩ = ⟨before ++ ls, []⟩ := by
    induction ls generalizing before with
    | nil => simp
    | cons l ls ih => simp [addLine, ih]
  have htags (ts before : List Tag) (description : List String) :
      (ts.map Line.tag).foldl addLine ⟨description, before⟩ = ⟨description, before ++ ts⟩ := by
    induction ts generalizing before with
    | nil => simp
    | cons t ts ih => simp [addLine, ih]
  rw [ofLines, parts, List.foldl_append, htexts, htags]
  simp

theorem parts_settled {d : Doc} (h : d.Settled) : ∀ l ∈ d.parts, l.Settled := by
  intro l hl
  rcases List.mem_append.1 hl with hl | hl
  · obtain ⟨s, hs, rfl⟩ := List.mem_map.1 hl
    exact h.description s hs
  · obtain ⟨t, ht, rfl⟩ := List.mem_map.1 hl
    exact h.tags t ht

theorem readTag_written {t : Tag} (h : t.Settled) {rest : List Char}
    (ht : (Tag.text t).toList = '@' :: rest) : readTag rest = t := by
  obtain ⟨name, value⟩ := t
  have hname : ∀ c ∈ name.toList, (!isBlank c) = true := fun c hc => by simp [h.name c hc]
  cases value with
  | none =>
    obtain rfl : name.toList = rest := by simpa [Tag.text] using ht
    have hall : name.toList.takeWhile (!isBlank ·) = name.toList := List.takeWhile_eq_self_iff.2 hname
    have hnone : name.toList.dropWhile (!isBlank ·) = [] := List.dropWhile_eq_nil_iff.2 hname
    simp [readTag, hall, hnone, trim_eq_nil]
  | some v =>
    obtain rfl : name.toList ++ ' ' :: v.toList = rest := by simpa [Tag.text] using ht
    have hv := h.value v rfl
    have htake : (name.toList ++ ' ' :: v.toList).takeWhile (!isBlank ·) = name.toList := by
      rw [List.takeWhile_append_of_pos hname, List.takeWhile_cons_of_neg (by decide), List.append_nil]
    have hdrop : (name.toList ++ ' ' :: v.toList).dropWhile (!isBlank ·) = ' ' :: v.toList := by
      rw [List.dropWhile_append_of_pos hname, List.dropWhile_cons_of_neg (by decide)]
    have htrim : trim (' ' :: v.toList) = v.toList := trim_cons_blank hv.trimmed hv.nonempty
    unfold readTag
    dsimp only
    rw [htake, hdrop, htrim]
    split
    · next hnil => exact absurd hnil hv.nonempty
    · simp

theorem readBare_written {l : Line} (h : l.Settled) : readBare l.written.toList = some l := by
  cases l with
  | text s => rw [Line.written, readBare_eq_text h.1.nonempty h.2, String.ofList_toList]
  | tag t =>
    obtain ⟨rest, hrest⟩ : ∃ rest, (Tag.text t).toList = '@' :: rest := by
      cases hvalue : t.value <;> simp [Tag.text, hvalue]
    rw [Line.written, hrest, readBare, readTag_written h hrest]

theorem written_plain {l : Line} (h : l.Settled) : Plain l.written.toList := by
  cases l with
  | text s => exact h.1
  | tag t =>
    have hname : Plain ('@' :: t.name.toList) := by
      have hall : ∀ c ∈ '@' :: t.name.toList, isBlank c = false :=
        List.forall_mem_cons.2 ⟨by decide, h.name⟩
      refine ⟨by simp,
        ⟨fun c hc => hall c (List.mem_of_head? hc), fun c hc => hall c (List.mem_of_getLast? hc)⟩,
        fun hfeed => ?_, (unclosed_between (a := []) (by decide) (by decide)).2 ⟨.nil, h.unclosed⟩⟩
      exact absurd (hall _ hfeed) (by decide)
    cases hvalue : t.value with
    | none => simpa [Line.written, Tag.text, hvalue] using hname
    | some v => simpa [Line.written, Tag.text, hvalue] using hname.join (h.value v hvalue)

/-- The star in front of a line is not part of the line. -/
theorem readLine_starred {before : List Char} (hbefore : ∀ c ∈ before, isBlank c = true) (h : Plain cs) :
    readLine (before ++ '*' :: ' ' :: cs) = readBare cs := by
  have hstar : Trimmed ('*' :: ' ' :: cs) := by
    refine ⟨fun c hc => ?_, fun c hc => h.trimmed.2 c ?_⟩
    · obtain rfl := Option.some.inj hc
      decide
    · rwa [List.getLast?_cons_of_ne_nil (by simp), List.getLast?_cons_of_ne_nil h.nonempty] at hc
  have houter : trim (before ++ '*' :: ' ' :: cs) = '*' :: ' ' :: cs := by
    simpa using trim_padded before [] hbefore (by simp) hstar (by simp)
  have hinner : trim (' ' :: cs) = cs := trim_cons_blank h.trimmed h.nonempty
  rw [readLine_eq, houter, List.dropWhile_cons_of_pos (by decide), List.dropWhile_cons_of_neg (by decide),
    hinner]

/-- Without a star in front of it, a line loses the stars it starts with. -/
theorem readLine_spaced (h : Plain cs) :
    readLine (' ' :: (cs ++ [' '])) = readBare (trim (cs.dropWhile (· = '*'))) := by
  have houter : trim (' ' :: (cs ++ [' '])) = cs :=
    trim_padded [' '] [' '] isBlank_of_mem_space isBlank_of_mem_space h.trimmed h.nonempty
  rw [readLine_eq, houter]

/-! ### Written comments -/

/-- The blanks in front of each line of a comment but the first. -/
def edge (indent : Nat) : List Char := (margin indent).toList ++ [' ']

theorem eq_of_mem_margin {indent : Nat} (h : c ∈ (margin indent).toList) : c = ' ' := by
  rw [margin, String.toList_ofList] at h
  exact List.eq_of_mem_replicate h

theorem eq_of_mem_edge {indent : Nat} (h : c ∈ edge indent) : c = ' ' :=
  (List.mem_append.1 h).elim eq_of_mem_margin List.mem_singleton.1

theorem blank_margin (indent : Nat) : ∀ c ∈ (margin indent).toList, isBlank c = true :=
  fun _ hc => eq_of_mem_margin hc ▸ by decide

theorem blank_edge (indent : Nat) : ∀ c ∈ edge indent, isBlank c = true :=
  fun _ hc => eq_of_mem_edge hc ▸ by decide

/-- What stands between the marks of a written comment. -/
def inside (d : Doc) (indent : Nat) : List Char :=
  match d.lines with
  | [single] => ' ' :: (single.toList ++ [' '])
  | ls => ([] :: ls.map fun l => edge indent ++ '*' :: ' ' :: l.toList).flatMap (· ++ ['\n']) ++ edge indent

theorem render_toList (d : Doc) (indent : Nat) : (d.render indent).toList =
    (margin indent).toList ++ ("/**".toList ++ (d.inside indent ++ "*/".toList) ++ ['\n']) := by
  unfold render inside
  generalize d.lines = ls
  match ls with
  | [single] => simp
  | [] => simp [edge]
  | _ :: _ :: _ => simp [edge, List.flatMap_map]

theorem trim_render (d : Doc) (indent : Nat) :
    trim (d.render indent).toList = "/**".toList ++ (d.inside indent ++ "*/".toList) := by
  rw [render_toList]
  refine trim_padded _ _ (blank_margin indent) (List.forall_mem_singleton.2 (by decide)) ⟨?_, ?_⟩ (by simp)
  · rintro c hc
    obtain rfl := Option.some.inj hc
    decide
  · intro c hc
    rw [← List.append_assoc, List.getLast?_append_of_ne_nil _ (by decide)] at hc
    obtain rfl := Option.some.inj hc
    decide

theorem inside_of_single {d : Doc} {l : String} (h : d.lines = [l]) (indent : Nat) :
    d.inside indent = ' ' :: (l.toList ++ [' ']) := by
  rw [inside, h]

theorem inside_of_many {d : Doc} (h : ∀ l, d.lines ≠ [l]) (indent : Nat) :
    d.inside indent =
      ([] :: d.lines.map fun l => edge indent ++ '*' :: ' ' :: l.toList).flatMap (· ++ ['\n']) ++
      edge indent := by
  rw [inside]
  split
  · next single hlines => exact absurd hlines (h single)
  · rfl

theorem lines_plain {d : Doc} (hd : d.Settled) : ∀ l ∈ d.lines, Plain l.toList := by
  rw [lines_eq, List.forall_mem_map]
  exact fun l hl => written_plain (parts_settled hd l hl)

theorem unclosed_lines {ls : List (List Char)} (h : ∀ l ∈ ls, Unclosed l) (hcs : Unclosed cs) :
    Unclosed (ls.flatMap (· ++ ['\n']) ++ cs) := by
  induction ls with
  | nil => exact hcs
  | cons l ls ih =>
    obtain ⟨hl, hls⟩ := List.forall_mem_cons.1 h
    have hrest := (unclosed_between (c := '\n') (by decide) (by decide)).2 ⟨hl, ih hls⟩
    simpa using hrest

/-- Whatever the form of a comment, a blank or a line break keeps its lines and its marks apart. -/
theorem unclosed_inside {d : Doc} (hd : d.Settled) (indent : Nat) :
    Unclosed ("/**".toList ++ (d.inside indent ++ ['*'])) := by
  have hplain := lines_plain hd
  have hopening : Unclosed "/**".toList := by simp [Unclosed]
  have hstar : Unclosed ['*'] := .singleton _
  by_cases hsingle : ∃ l, d.lines = [l]
  · obtain ⟨l, hl⟩ := hsingle
    have hline : Unclosed (l.toList ++ ' ' :: ['*']) :=
      (unclosed_between (by decide) (by decide)).2 ⟨(hplain l (by simp [hl])).unclosed, hstar⟩
    rw [inside_of_single hl]
    simpa using (unclosed_between (c := ' ') (by decide) (by decide)).2 ⟨hopening, hline⟩
  · have hstarred : ∀ l ∈ d.lines.map fun l => edge indent ++ '*' :: ' ' :: l.toList, Unclosed l := by
      rw [List.forall_mem_map]
      intro l hl
      have hbehind := (unclosed_between (c := ' ') (by decide) (by decide)).2 ⟨hstar, (hplain l hl).unclosed⟩
      exact hbehind.behind_blanks (blank_edge indent)
    have hall := unclosed_lines hstarred (hstar.behind_blanks (blank_edge indent))
    rw [inside_of_many (by simpa using hsingle)]
    simpa using (unclosed_between (c := '\n') (by decide) (by decide)).2 ⟨hopening, hall⟩

theorem closesAtEnd_render {d : Doc} (hd : d.Settled) (indent : Nat) :
    ∃ text, (d.render indent).toList = text ++ ['\n'] ∧ ClosesAtEnd text := by
  refine ⟨(margin indent).toList ++ ("/**".toList ++ (d.inside indent ++ "*/".toList)), ?_, ?_⟩
  · rw [render_toList]
    simp
  · refine closesAtEnd_iff.2 ⟨(margin indent).toList ++ ("/**".toList ++ d.inside indent), by simp, ?_⟩
    simpa using (unclosed_inside hd indent).behind_blanks (blank_margin indent)

theorem parse?_render {d e : Doc} {indent : Nat} : parse? (d.render indent) = some e ↔
    e = ofLines ((Text.lines (d.inside indent)).filterMap readLine) ∧ e.isEmpty = false := by
  rw [parse?_eq_some_iff, trim_render]
  constructor
  · rintro ⟨inner, hinner, h⟩
    obtain rfl := List.append_cancel_right (List.append_cancel_left hinner)
    exact h
  · exact fun h => ⟨_, rfl, h⟩

/-- Written with a star in front of each, the lines are read as they were. -/
theorem filterMap_inside_of_many {d : Doc} (hd : d.Settled) (h : ∀ l, d.lines ≠ [l]) (indent : Nat) :
    (Text.lines (d.inside indent)).filterMap readLine = d.parts := by
  have hfeed : '\n' ∉ edge indent := fun hmem => absurd (eq_of_mem_edge hmem) (by decide)
  have hbroken : ∀ l ∈ [] :: d.lines.map fun l => edge indent ++ '*' :: ' ' :: l.toList,
      '\n' ∉ l ∧ l.getLast? ≠ some '\r' := by
    rw [List.forall_mem_cons, List.forall_mem_map]
    refine ⟨by simp, fun l hl => ?_⟩
    have hplain := lines_plain hd l hl
    refine ⟨by simpa [hfeed] using hplain.oneLine, fun hreturn => ?_⟩
    rw [List.getLast?_append_of_ne_nil _ (by simp), List.getLast?_cons_of_ne_nil (by simp),
      List.getLast?_cons_of_ne_nil hplain.nonempty] at hreturn
    exact absurd (hplain.trimmed.2 _ hreturn) (by decide)
  have hlast : readLine (edge indent) = none := by
    rw [readLine_eq, trim_eq_nil (blank_edge indent)]
    rfl
  have hnil : readLine [] = none := rfl
  have hline : ∀ l ∈ d.parts, (readLine ∘ (fun l => edge indent ++ '*' :: ' ' :: l.toList) ∘ Line.written) l =
      some l := by
    intro l hl
    have hsettled := parts_settled hd l hl
    rw [Function.comp_apply, Function.comp_apply,
      readLine_starred (blank_edge indent) (written_plain hsettled),
      readBare_written hsettled]
  rw [inside_of_many h, lines_broken hbroken hfeed (by simp [edge]), List.filterMap_append,
    List.filterMap_cons_none hnil, lines_eq, List.map_map, List.filterMap_map,
    List.filterMap_congr hline, List.filterMap_some, List.filterMap_cons_none hlast, List.filterMap_nil,
    List.append_nil]

/-- Without a star in front of it, a line is read as it was unless it starts with a star. -/
theorem filterMap_inside_of_single {d : Doc} (hd : d.Settled) {l : Line} (h : d.parts = [l]) (indent : Nat) :
    (Text.lines (d.inside indent)).filterMap readLine =
      (readBare (trim (l.written.toList.dropWhile (· = '*')))).toList := by
  have hplain : Plain l.written.toList := written_plain (parts_settled hd l (by simp [h]))
  have hfeed : '\n' ∉ ' ' :: (l.written.toList ++ [' ']) := by simpa using hplain.oneLine
  have hone : Text.lines (' ' :: (l.written.toList ++ [' '])) = [' ' :: (l.written.toList ++ [' '])] :=
    lines_broken (List.forall_mem_nil _) hfeed (by simp)
  rw [inside_of_single (by rw [lines_eq, h]; rfl), hone, ← readLine_spaced hplain]
  cases hread : readLine (' ' :: (l.written.toList ++ [' '])) <;> simp [hread]

theorem toList_of_readBare_eq_text {s : String} (h : readBare cs = some (.text s)) : s.toList = cs := by
  unfold readBare at h
  split at h
  · exact absurd h (by simp)
  · exact absurd h (by simp)
  · obtain rfl := Line.text.inj (Option.some.inj h)
    exact String.toList_ofList

/-- A line that starts with a star is not what is read behind its stars. -/
theorem readBare_dropWhile_ne {l : Line} (hstar : l.written.toList.head? = some '*') :
    readBare (trim (l.written.toList.dropWhile (· = '*'))) ≠ some l := by
  obtain ⟨rest, hrest⟩ := List.head?_eq_some_iff.1 hstar
  intro hread
  cases l with
  | tag t => cases hvalue : t.value <;> simp [Line.written, Tag.text, hvalue] at hrest
  | text s =>
    have htext : s.toList = trim (s.toList.dropWhile (· = '*')) := toList_of_readBare_eq_text hread
    have hdrop : s.toList.dropWhile (· = '*') <:+: rest := by
      rw [show s.toList = '*' :: rest from hrest, List.dropWhile_cons_of_pos (by decide)]
      exact (List.dropWhile_suffix _).isInfix
    have hlength : s.toList.length ≤ rest.length := by
      rw [htext]
      exact ((isInfix_trim _).trans hdrop).length_le
    rw [show s.toList = '*' :: rest from hrest, List.length_cons] at hlength
    omega

theorem parts_ofLines_toList (l : Option Line) : (ofLines l.toList).parts = l.toList := by
  cases l with
  | none => rfl
  | some l => cases l <;> rfl

/-- A kept comment ends where it should, and it says what the comment in the source said unless that is
one line that starts with a star: written behind the opening mark, its stars belong to the mark. -/
theorem render_readsBack {t : String} {d : Doc} (h : parse? t = some d) (hend : ClosesAtEnd (trim t.toList))
    (indent : Nat) :
    (∃ text, (d.render indent).toList = text ++ ['\n'] ∧ ClosesAtEnd text) ∧
      (parse? (d.render indent) = some d ↔ ∀ l, d.lines = [l] → l.toList.head? ≠ some '*') := by
  have hd := parse?_settled h hend
  refine ⟨closesAtEnd_render hd indent, ?_⟩
  obtain ⟨-, -, -, hsome⟩ := parse?_eq_some_iff.1 h
  rw [parse?_render, and_iff_left hsome]
  by_cases hsingle : ∃ l, d.lines = [l]
  · obtain ⟨l, hl, hlines⟩ : ∃ l, d.parts = [l] ∧ d.lines = [l.written] := by
      obtain ⟨s, hs⟩ := hsingle
      rw [lines_eq] at hs
      obtain ⟨l, hl, rfl⟩ := List.map_eq_singleton_iff.1 hs
      exact ⟨l, hl, by rw [lines_eq, hs]⟩
    have hsettled : l.Settled := parts_settled hd l (by simp [hl])
    have hdoc : ofLines [l] = d := by rw [← hl, ofLines_parts]
    rw [filterMap_inside_of_single hd hl, hlines]
    constructor
    · rintro hback s hs hstar
      obtain rfl := List.singleton_inj.1 hs
      have hread := parts_ofLines_toList (readBare (trim (l.written.toList.dropWhile (· = '*'))))
      rw [← hback, hl] at hread
      exact readBare_dropWhile_ne hstar (Option.toList_eq_singleton_iff.1 hread.symm)
    · intro hstar
      have hself : l.written.toList.dropWhile (· = '*') = l.written.toList := by
        have hhead := hstar _ rfl
        cases hcs : l.written.toList with
        | nil => rfl
        | cons c cs => exact List.dropWhile_cons_of_neg (by simpa [hcs] using hhead)
      rw [hself, trim_eq_self (written_plain hsettled).trimmed, readBare_written hsettled]
      exact hdoc.symm
  · have hmany : ∀ l, d.lines ≠ [l] := by simpa using hsingle
    rw [filterMap_inside_of_many hd hmany, ofLines_parts]
    exact iff_of_true rfl fun l hl => absurd hl (hmany l)

/-- A comment of one list item is read as an item and read again without its star. -/
theorem render_readsBack_item :
    (parse? "/**\n * * item\n */" = some ⟨["* item"], []⟩ ∧
        ClosesAtEnd (trim "/**\n * * item\n */".toList)) ∧
      parse? ((⟨["* item"], []⟩ : Doc).render 0) ≠ some ⟨["* item"], []⟩ := by
  have hread : parse? "/**\n * * item\n */" = some ⟨["* item"], []⟩ := by decide +kernel
  have hend : ClosesAtEnd (trim "/**\n * * item\n */".toList) := by
    refine closesAtEnd_iff.2 ⟨"/**\n * * item\n ".toList, by decide +kernel, ?_⟩
    simp [Unclosed]
  refine ⟨⟨hread, hend⟩, fun hback => ?_⟩
  exact (render_readsBack hread hend 0).2.1 hback "* item" rfl rfl

end SchemaGen.Schema.Doc
