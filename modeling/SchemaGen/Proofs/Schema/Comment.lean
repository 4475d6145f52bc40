import Mathlib.Data.List.Chain
import SchemaGen.Schema.Doc
import SchemaGen.Proofs.Text.Trim

namespace SchemaGen.Schema

open Text

/-! ### The end of a comment -/

/-- Whether nothing in the text ends a comment. -/
def Unclosed (cs : List Char) : Prop := cs.IsChain fun a b => ¬(a = '*' ∧ b = '/')

/-- Whether the text ends a comment at its own end and nowhere before. -/
def ClosesAtEnd (cs : List Char) : Prop :=
  ['*', '/'] <:+ cs ∧ ∀ first rest, cs = first ++ '*' :: '/' :: rest → rest = []

variable {cs a b : List Char} {c : Char}

theorem Unclosed.of_isInfix (h : Unclosed cs) (ha : a <:+: cs) : Unclosed a := List.IsChain.infix h ha

/-- A character that is neither the star nor the slash keeps the texts around it apart. -/
theorem unclosed_between (hstar : c ≠ '*') (hslash : c ≠ '/') :
    Unclosed (a ++ c :: b) ↔ Unclosed a ∧ Unclosed b := by
  simp only [Unclosed, List.isChain_append, List.isChain_cons]
  have hbefore : ∀ x ∈ a.getLast?, ∀ y ∈ (c :: b).head?, ¬(x = '*' ∧ y = '/') := by
    rintro x - y hy ⟨-, rfl⟩
    exact hslash (Option.some.inj hy)
  have hafter : ∀ y ∈ b.head?, ¬(c = '*' ∧ y = '/') := fun y _ h => hstar h.1
  exact ⟨fun h => ⟨h.1, h.2.1.2⟩, fun h => ⟨h.1, ⟨hafter, h.2⟩, hbefore⟩⟩

theorem Unclosed.behind_blanks (ha : ∀ c ∈ a, isBlank c = true) (hb : Unclosed b) : Unclosed (a ++ b) := by
  induction a with
  | nil => exact hb
  | cons c a ih =>
    obtain ⟨hc, ha⟩ := List.forall_mem_cons.1 ha
    have hstar : c ≠ '*' := by rintro rfl; exact absurd hc (by decide)
    have hslash : c ≠ '/' := by rintro rfl; exact absurd hc (by decide)
    exact (unclosed_between (a := []) hstar hslash).2 ⟨.nil, ih ha⟩

theorem closesAtEnd_iff :
    ClosesAtEnd cs ↔ ∃ before, cs = before ++ ['*', '/'] ∧ Unclosed (before ++ ['*']) := by
  constructor
  · rintro ⟨⟨before, rfl⟩, hend⟩
    refine ⟨before, rfl, ?_⟩
    rw [Unclosed, List.isChain_iff_forall_rel_of_append_cons_cons]
    rintro x y first rest hsplit ⟨rfl, rfl⟩
    have hnil := hend first (rest ++ ['/']) (by simpa using congrArg (· ++ ['/']) hsplit)
    simp at hnil
  · rintro ⟨before, rfl, hopen⟩
    refine ⟨List.suffix_append _ _, fun first rest hsplit => ?_⟩
    rw [Unclosed, List.isChain_iff_forall_rel_of_append_cons_cons] at hopen
    by_contra hne
    obtain ⟨rest, last, rfl⟩ := List.eq_nil_or_concat rest |>.resolve_left hne
    have hcut : (before ++ ['*']) ++ ['/'] = (first ++ '*' :: '/' :: rest) ++ [last] := by
      simpa using hsplit
    exact hopen (List.append_inj_left' hcut rfl) ⟨rfl, rfl⟩

/-! ### Settled comments -/

/-- A text that can stand on a line of a comment: not empty, without white space around it, on one line
and with nothing that ends the comment. -/
structure Plain (cs : List Char) : Prop where
  nonempty : cs ≠ []
  trimmed : Trimmed cs
  oneLine : '\n' ∉ cs
  unclosed : Unclosed cs

theorem plain_trim (hline : '\n' ∉ cs) (hopen : Unclosed cs) (hne : trim cs ≠ []) : Plain (trim cs) :=
  ⟨hne, trimmed_trim cs, fun h => hline ((isInfix_trim cs).subset h), hopen.of_isInfix (isInfix_trim cs)⟩

/-- Two texts with a blank between them can stand on a line where each of them can. -/
theorem Plain.join (ha : Plain a) (hb : Plain b) : Plain (a ++ ' ' :: b) := by
  refine ⟨by simp, ⟨fun c hc => ha.trimmed.1 c ?_, fun c hc => hb.trimmed.2 c ?_⟩, ?_,
    (unclosed_between (by decide) (by decide)).2 ⟨ha.unclosed, hb.unclosed⟩⟩
  · rwa [List.head?_append_of_ne_nil _ ha.nonempty] at hc
  · rwa [List.getLast?_append_of_ne_nil _ (by simp), List.getLast?_cons_of_ne_nil hb.nonempty] at hc
  · simpa using ⟨ha.oneLine, hb.oneLine⟩

/-- A tag whose name has no white space and whose value can stand on a line. -/
structure Tag.Settled (t : Tag) : Prop where
  name : ∀ c ∈ t.name.toList, isBlank c = false
  value : ∀ v ∈ t.value, Plain v.toList
  unclosed : Unclosed t.name.toList

namespace Doc

def Line.Settled : Line → Prop
  | .text s => Plain s.toList ∧ s.toList.head? ≠ some '@'
  | .tag t => t.Settled

/-- A comment as reading leaves it: only settled lines and tags. -/
structure Settled (d : Doc) : Prop where
  description : ∀ l ∈ d.description, (Line.text l).Settled
  tags : ∀ t ∈ d.tags, t.Settled

theorem readTag_settled (hline : '\n' ∉ cs) (hopen : Unclosed cs) : (readTag cs).Settled := by
  have hname : ∀ c ∈ cs.takeWhile (!isBlank ·), isBlank c = false := fun c hc => by
    simpa using List.mem_takeWhile_imp hc
  have hbegins : cs.takeWhile (!isBlank ·) <:+: cs := (List.takeWhile_prefix _).isInfix
  have hends : cs.dropWhile (!isBlank ·) <:+: cs := (List.dropWhile_suffix _).isInfix
  have hrest := plain_trim (fun h => hline (hends.subset h)) (hopen.of_isInfix hends)
  unfold readTag
  dsimp only
  split
  · exact ⟨by simpa using hname, by simp, by simpa using hopen.of_isInfix hbegins⟩
  · next hvalue =>
    refine ⟨by simpa using hname, ?_, by simpa using hopen.of_isInfix hbegins⟩
    rintro v ⟨⟩
    simpa using hrest hvalue

/-- A line that is trimmed and has no star before it. -/
def readBare : List Char → Option Line
  | [] => none
  | '@' :: rest => some (.tag (readTag rest))
  | text => some (.text (String.ofList text))

theorem readLine_eq (cs : List Char) : readLine cs = readBare (trim ((trim cs).dropWhile (· = '*'))) := rfl

theorem readBare_eq_text (hne : cs ≠ []) (hat : cs.head? ≠ some '@') :
    readBare cs = some (.text (String.ofList cs)) := by
  unfold readBare
  split
  · exact absurd rfl hne
  · exact absurd rfl hat
  · rfl

theorem readBare_settled {l : Line} (hplain : cs ≠ [] → Plain cs) (h : readBare cs = some l) :
    l.Settled := by
  unfold readBare at h
  split at h
  · exact absurd h (by simp)
  · next rest =>
    obtain rfl := Option.some.inj h
    have hall := hplain (by simp)
    have hrest : rest <:+: '@' :: rest := (List.suffix_cons _ _).isInfix
    exact readTag_settled (fun hn => hall.oneLine (hrest.subset hn)) (hall.unclosed.of_isInfix hrest)
  · next hnil hat =>
    obtain rfl := Option.some.inj h
    refine ⟨by simpa using hplain hnil, ?_⟩
    rw [String.toList_ofList]
    intro hhead
    obtain ⟨rest, hcs⟩ := List.head?_eq_some_iff.1 hhead
    exact hat rest hcs

theorem readLine_settled {l : Line} (hline : '\n' ∉ cs) (hopen : Unclosed cs) (h : readLine cs = some l) :
    l.Settled := by
  have hpart : (trim cs).dropWhile (· = '*') <:+: cs :=
    (List.dropWhile_suffix _).isInfix.trans (isInfix_trim cs)
  exact readBare_settled (plain_trim (fun hn => hline (hpart.subset hn)) (hopen.of_isInfix hpart)) h

theorem Tag.extend_settled {t : Tag} {s : String} (ht : t.Settled) (hs : Plain s.toList) :
    (Tag.extend t s).Settled := by
  refine ⟨ht.name, ?_, ht.unclosed⟩
  rintro v ⟨⟩
  cases hvalue : t.value with
  | none => exact hs
  | some v => simpa using (ht.value v hvalue).join hs

theorem addLine_settled {d : Doc} {l : Line} (hd : d.Settled) (hl : l.Settled) : (d.addLine l).Settled := by
  cases l with
  | tag t => exact ⟨hd.description, by simpa [addLine, or_imp, forall_and] using ⟨hd.tags, hl⟩⟩
  | text s =>
    unfold addLine
    dsimp only
    split
    · next t hlast =>
      refine ⟨hd.description, fun u hu => ?_⟩
      rcases List.mem_append.1 hu with hu | hu
      · exact hd.tags u ((List.dropLast_sublist _).mem hu)
      · obtain rfl := List.mem_singleton.1 hu
        exact Tag.extend_settled (hd.tags t (List.mem_of_getLast? hlast)) hl.1
    · refine ⟨fun u hu => ?_, hd.tags⟩
      rcases List.mem_append.1 hu with hu | hu
      · exact hd.description u hu
      · obtain rfl := List.mem_singleton.1 hu
        exact hl

theorem ofLines_settled {ls : List Line} (h : ∀ l ∈ ls, l.Settled) : (ofLines ls).Settled := by
  refine List.foldlRecOn ls addLine ⟨by simp, by simp⟩ fun d hd l hl => ?_
  exact addLine_settled hd (h l hl)

theorem parse?_eq_some_iff {t : String} {d : Doc} :
    parse? t = some d ↔ ∃ inner, trim t.toList = "/**".toList ++ (inner ++ "*/".toList) ∧
      d = ofLines ((Text.lines inner).filterMap readLine) ∧ d.isEmpty = false := by
  have hread (inner : List Char) : (let e := ofLines ((Text.lines inner).filterMap readLine)
      if e.isEmpty then none else some e) = some d ↔
      d = ofLines ((Text.lines inner).filterMap readLine) ∧ d.isEmpty = false := by
    dsimp only
    split_ifs with hempty
    · simp only [false_iff]
      rintro ⟨rfl, hnot⟩
      exact absurd hempty (by simp [hnot])
    · rw [Option.some.injEq, eq_comm]
      exact ⟨fun h => ⟨h, by simpa [h] using hempty⟩, And.left⟩
  unfold parse?
  constructor
  · intro h
    obtain ⟨opened, hopened, h⟩ := Option.bind_eq_some_iff.1 h
    obtain ⟨inner, hinner, h⟩ := Option.bind_eq_some_iff.1 h
    rw [afterPrefix?_eq_some_iff] at hopened
    rw [beforeSuffix?_eq_some_iff] at hinner
    exact ⟨inner, by rw [hopened, hinner], (hread inner).1 h⟩
  · rintro ⟨inner, hinner, h⟩
    refine Option.bind_eq_some_iff.2 ⟨_, afterPrefix?_eq_some_iff.2 hinner, ?_⟩
    exact Option.bind_eq_some_iff.2 ⟨_, beforeSuffix?_eq_some_iff.2 rfl, (hread inner).2 h⟩

theorem parse?_settled {t : String} {d : Doc} (h : parse? t = some d) (hend : ClosesAtEnd (trim t.toList)) :
    d.Settled := by
  obtain ⟨inner, ht, rfl, -⟩ := parse?_eq_some_iff.1 h
  obtain ⟨before, hbefore, hopen⟩ := closesAtEnd_iff.1 hend
  have hinner : inner <:+: before ++ ['*'] := by
    have hcut : before = "/**".toList ++ inner :=
      List.append_cancel_right (hbefore.symm.trans (ht.trans (List.append_assoc _ _ _).symm))
    exact ⟨"/**".toList, ['*'], by rw [hcut]⟩
  refine ofLines_settled fun l hl => ?_
  obtain ⟨line, hline, hread⟩ := List.mem_filterMap.1 hl
  obtain ⟨hfeed, hpart⟩ := mem_lines hline
  exact readLine_settled hfeed (hopen.of_isInfix (hpart.trans hinner)) hread

end Doc

end SchemaGen.Schema
