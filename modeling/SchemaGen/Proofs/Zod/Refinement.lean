import SchemaGen.Proofs.Zod.Bound
import SchemaGen.Zod.Validator

namespace SchemaGen.Zod

open Schema TypeScript

/-! ### Patterns -/

variable {c : Char} {cs rest : List Char} {ss ts : List Symbol} {inClass : Bool}

theorem escapeSlashes_slash (cs : List Char) :
    escapeSlashes ('/' :: cs) = '\\' :: '/' :: escapeSlashes cs := rfl

theorem escapeSlashes_cons (hc : c ≠ '/') (cs : List Char) :
    escapeSlashes (c :: cs) = c :: escapeSlashes cs := by
  rw [escapeSlashes, List.flatMap_cons, if_neg hc]
  rfl

/-- A closed pattern on one line without a backslash in front of a slash. -/
structure Fits (inClass : Bool) (cs : List Char) (ss : List Symbol) : Prop where
  oneLine : ∀ c ∈ cs, isLineEnd c = false
  closed : ss.foldl Symbol.opens inClass = false
  bare : Symbol.escaped '/' ∉ ss

theorem fits_escaped : Fits inClass ('\\' :: c :: cs) (.escaped c :: ss) ↔
    c ≠ '/' ∧ isLineEnd c = false ∧ Fits inClass cs ss := by
  constructor
  · rintro ⟨hline, hclosed, hbare⟩
    obtain ⟨-, hc, hcs⟩ := by simpa only [List.forall_mem_cons] using hline
    rw [List.mem_cons, not_or] at hbare
    exact ⟨fun h => hbare.1 (h ▸ rfl), hc, hcs, hclosed, hbare.2⟩
  · rintro ⟨hslash, hc, hline, hclosed, hbare⟩
    refine ⟨List.forall_mem_cons.2 ⟨by decide, List.forall_mem_cons.2 ⟨hc, hline⟩⟩, hclosed, ?_⟩
    rw [List.mem_cons, not_or]
    exact ⟨fun h => hslash (Symbol.escaped.inj h).symm, hbare⟩

theorem fits_plain : Fits inClass (c :: cs) (.plain c :: ss) ↔
    isLineEnd c = false ∧ Fits ((Symbol.plain c).opens inClass) cs ss := by
  constructor
  · rintro ⟨hline, hclosed, hbare⟩
    obtain ⟨hc, hcs⟩ := List.forall_mem_cons.1 hline
    exact ⟨hc, hcs, hclosed, fun h => hbare (List.mem_cons_of_mem _ h)⟩
  · rintro ⟨hc, hline, hclosed, hbare⟩
    exact ⟨List.forall_mem_cons.2 ⟨hc, hline⟩, hclosed, by simpa using hbare⟩

/-- A pattern that fits is read up to the slash behind it, and its meaning stays. -/
theorem exists_regexBody? (h : symbols? cs = some ss) (rest : List Char) (hfits : Fits inClass cs ss) :
    ∃ ts, regexBody? inClass (escapeSlashes cs ++ '/' :: rest) = some (ts, rest) ∧
      ts.map Symbol.meaning = ss.map Symbol.meaning := by
  refine symbols_induction (motive := fun cs ss => ∀ inClass, Fits inClass cs ss →
    ∃ ts, regexBody? inClass (escapeSlashes cs ++ '/' :: rest) = some (ts, rest) ∧
      ts.map Symbol.meaning = ss.map Symbol.meaning)
    (fun inClass hfits => ?_) (fun c cs ss _ ih inClass hfits => ?_)
    (fun c cs ss hc _ ih inClass hfits => ?_) h inClass hfits
  · obtain rfl : inClass = false := hfits.closed
    exact ⟨[], rfl, rfl⟩
  · obtain ⟨hslash, hline, hrest⟩ := fits_escaped.1 hfits
    obtain ⟨ts, hread, hmeaning⟩ := ih inClass hrest
    refine ⟨.escaped c :: ts, ?_, by rw [List.map_cons, List.map_cons, hmeaning]⟩
    rw [escapeSlashes_cons (by decide), escapeSlashes_cons hslash, List.cons_append, List.cons_append,
      regexBody?_escaped, if_neg (by simp [hline]), hread]
    rfl
  · obtain ⟨hline, hrest⟩ := fits_plain.1 hfits
    obtain ⟨ts, hread, hmeaning⟩ := ih _ hrest
    by_cases hslash : c = '/'
    · subst hslash
      refine ⟨.escaped '/' :: ts, ?_, by rw [List.map_cons, List.map_cons, hmeaning]; rfl⟩
      rw [escapeSlashes_slash, List.cons_append, List.cons_append, regexBody?_escaped,
        if_neg (by decide), show inClass = (Symbol.plain '/').opens inClass from rfl, hread]
      rfl
    · refine ⟨.plain c :: ts, ?_, by rw [List.map_cons, List.map_cons, hmeaning]⟩
      rw [escapeSlashes_cons hslash, List.cons_append, regexBody?_plain hc, if_neg (by simp [hline]),
        if_neg (by simp [hslash]), hread]
      rfl

/-- If what is read has the meaning of the pattern, then the pattern fits and is all that is read. Else a slash
with a backslash of its own is read as two symbols, the first of them a backslash. -/
theorem fits_of_regexBody? (h : symbols? cs = some ss) {rest' : List Char}
    (hread : regexBody? inClass (escapeSlashes cs ++ '/' :: rest) = some (ts, rest'))
    (hmeaning : ts.map Symbol.meaning = ss.map Symbol.meaning) : Fits inClass cs ss ∧ rest' = rest := by
  refine symbols_induction (motive := fun cs ss => ∀ inClass ts,
    regexBody? inClass (escapeSlashes cs ++ '/' :: rest) = some (ts, rest') →
      ts.map Symbol.meaning = ss.map Symbol.meaning → Fits inClass cs ss ∧ rest' = rest)
    (fun inClass ts hread hmeaning => ?_) (fun c cs ss _ ih inClass ts hread hmeaning => ?_)
    (fun c cs ss hc _ ih inClass ts hread hmeaning => ?_) h inClass ts hread hmeaning
  · obtain rfl : ts = [] := List.map_eq_nil_iff.1 hmeaning
    cases inClass with
    | false => exact ⟨⟨by simp, rfl, by simp⟩, (Prod.mk.inj (Option.some.inj hread)).2.symm⟩
    | true =>
      obtain ⟨r, -, heq⟩ := Option.map_eq_some_iff.1 hread
      cases heq
  · by_cases hslash : c = '/'
    · subst hslash
      rw [escapeSlashes_cons (by decide), escapeSlashes_slash, List.cons_append, List.cons_append,
        regexBody?_escaped, if_neg (by decide)] at hread
      obtain ⟨r, -, heq⟩ := Option.map_eq_some_iff.1 hread
      obtain ⟨rfl, -⟩ := Prod.mk.inj heq
      cases (List.cons.inj hmeaning).1
    · rw [escapeSlashes_cons (by decide), escapeSlashes_cons hslash, List.cons_append, List.cons_append,
        regexBody?_escaped] at hread
      split_ifs at hread with hline
      obtain ⟨r, hr, heq⟩ := Option.map_eq_some_iff.1 hread
      obtain ⟨rfl, rfl⟩ := Prod.mk.inj heq
      obtain ⟨hfits, hrest⟩ := ih inClass r.1 hr (List.cons.inj hmeaning).2
      exact ⟨fits_escaped.2 ⟨hslash, by simpa using hline, hfits⟩, hrest⟩
  · by_cases hslash : c = '/'
    · subst hslash
      rw [escapeSlashes_slash, List.cons_append, List.cons_append, regexBody?_escaped,
        if_neg (by decide)] at hread
      obtain ⟨r, hr, heq⟩ := Option.map_eq_some_iff.1 hread
      obtain ⟨rfl, rfl⟩ := Prod.mk.inj heq
      obtain ⟨hfits, hrest⟩ := ih inClass r.1 hr (List.cons.inj hmeaning).2
      exact ⟨fits_plain.2 ⟨by decide, hfits⟩, hrest⟩
    · rw [escapeSlashes_cons hslash, List.cons_append, regexBody?_plain hc] at hread
      split_ifs at hread with hline hend
      · exact absurd hend (by simp [hslash])
      · obtain ⟨r, hr, heq⟩ := Option.map_eq_some_iff.1 hread
        obtain ⟨rfl, rfl⟩ := Prod.mk.inj heq
        obtain ⟨hfits, hrest⟩ := ih _ r.1 hr (List.cons.inj hmeaning).2
        exact ⟨fits_plain.2 ⟨by simpa using hline, hfits⟩, hrest⟩

/-- A pattern that keeps its meaning: it begins no comment and fits between slashes. -/
structure IsSoundPattern (cs : List Char) : Prop where
  nonempty : cs ≠ []
  noComment : cs.head? ≠ some '*'
  fits : ∃ ss, symbols? cs = some ss ∧ Fits false cs ss

/-- The body of a literal begins a comment only where the pattern begins with a star. -/
theorem head?_escapeSlashes (hne : cs ≠ []) (rest : List Char) :
    (escapeSlashes cs ++ rest).head? = some (if cs.head? = some '/' then '\\' else cs.head hne) := by
  obtain ⟨c, cs, rfl⟩ := List.exists_cons_of_ne_nil hne
  by_cases hslash : c = '/'
  · subst hslash
    rfl
  · rw [escapeSlashes_cons hslash, if_neg (by simpa using hslash)]
    rfl

theorem opensComment_iff (hne : cs ≠ []) (rest : List Char) :
    ((escapeSlashes cs ++ rest).head? = some '/' || (escapeSlashes cs ++ rest).head? = some '*') = true ↔
      cs.head? = some '*' := by
  rw [head?_escapeSlashes hne]
  obtain ⟨c, cs, rfl⟩ := List.exists_cons_of_ne_nil hne
  by_cases hslash : c = '/' <;> simp [hslash]

/-- A sound pattern is one literal, which ends at the slash behind the pattern and has its meaning. -/
theorem exists_regex? (h : IsSoundPattern cs) (rest : List Char) : ∃ ss ts, symbols? cs = some ss ∧
    regex? ('/' :: (escapeSlashes cs ++ '/' :: rest)) = some (ts, rest) ∧
      ts.map Symbol.meaning = ss.map Symbol.meaning := by
  obtain ⟨hne, hcomment, ss, hss, hfits⟩ := h
  obtain ⟨ts, hread, hmeaning⟩ := exists_regexBody? hss rest hfits
  refine ⟨ss, ts, hss, ?_, hmeaning⟩
  rw [regex?, if_neg (mt (opensComment_iff hne _).1 hcomment), hread]

theorem isSoundPattern_of_regex? {rest' : List Char} (hss : symbols? cs = some ss)
    (hread : regex? ('/' :: (escapeSlashes cs ++ '/' :: rest)) = some (ts, rest'))
    (hmeaning : ts.map Symbol.meaning = ss.map Symbol.meaning) : IsSoundPattern cs ∧ rest' = rest := by
  rw [regex?] at hread
  split_ifs at hread with hcomment
  obtain ⟨hfits, hrest⟩ := fits_of_regexBody? hss hread hmeaning
  have hne : cs ≠ [] := by
    rintro rfl
    exact hcomment rfl
  exact ⟨⟨hne, mt (opensComment_iff hne _).2 hcomment, ss, hss, hfits⟩, hrest⟩

/-! ### Conditions -/

def Refinement.method : Refinement → List Char
  | min _ => "min".toList
  | max _ => "max".toList
  | email => "email".toList
  | uuid => "uuid".toList
  | url => "url".toList
  | dateTime => "datetime".toList
  | pattern _ => "regex".toList

/-- The argument of the method as it is written. -/
def Refinement.written : Refinement → List Char
  | min bound | max bound => bound.toList
  | pattern source => '/' :: (escapeSlashes source.toList ++ ['/'])
  | _ => []

/-- Whether an argument is that of a condition: its bound as it is written, or a pattern of the meaning of
its own. -/
def Refinement.Takes : Refinement → Option Argument → Prop
  | min bound, a | max bound, a => a = some (.number bound.toList)
  | pattern source, a => ∃ ss ts, symbols? source.toList = some ss ∧ a = some (.pattern ts) ∧
      ts.map Symbol.meaning = ss.map Symbol.meaning
  | _, a => a = none

def Refinement.StatedBy (r : Refinement) (call : Call) : Prop :=
  call.method = r.method ∧ r.Takes call.argument

/-- Whether what a condition says has no grip on anything but its own argument. -/
def Refinement.IsSound : Refinement → Prop
  | min bound | max bound => IsSoundBound bound.toList
  | pattern source => IsSoundPattern source.toList
  | _ => True

/-- Whether the bound of a condition is taken for a number. -/
def Refinement.HasNumber : Refinement → Prop
  | min bound | max bound => isNumber bound.toList = true
  | _ => True

theorem hasNumber_of_ofFormat? {format : String} {r : Refinement} (h : Refinement.ofFormat? format = some r) :
    r.HasNumber := by
  unfold Refinement.ofFormat? at h
  split at h <;> cases h <;> trivial

theorem hasNumber_of_mem {d : Doc} {r : Refinement} (h : r ∈ refinements d) : r.HasNumber := by
  obtain ⟨t, -, ht⟩ := List.mem_filterMap.1 h
  have hbound {b : Bool} {s : Refinement} (hs : b = true → s.HasNumber)
      (hr : (if b then some s else none) = some r) : r.HasNumber := by
    split_ifs at hr with hb
    exact Option.some.inj hr ▸ hs hb
  unfold Refinement.ofTag? at ht
  split at ht
  case h_1 => cases ht
  case h_2 | h_3 | h_4 | h_5 | h_6 | h_7 => exact hbound id ht
  case h_8 => exact hasNumber_of_ofFormat? ht
  case h_9 => cases ht; trivial
  case h_10 => cases ht

/-- Neither a parenthesis nor a slash stands in a bound. -/
def IsInert (cs : List Char) : Prop := ∀ c ∈ cs, c ≠ ')' ∧ c ≠ '/'

theorem inert_of_isDigit (h : ∀ c ∈ cs, c.isDigit = true) : IsInert cs := by
  intro c hc
  refine ⟨?_, ?_⟩ <;> rintro rfl <;> exact absurd (h _ hc) (by decide)

theorem inert_of_withoutSign (h : IsInert (withoutSign cs)) : IsInert cs := by
  cases cs with
  | nil => exact h
  | cons c cs =>
    rw [withoutSign] at h
    split_ifs at h with hsign
    · rw [Bool.or_eq_true, decide_eq_true_eq, decide_eq_true_eq] at hsign
      refine List.forall_mem_cons.2 ⟨?_, h⟩
      rcases hsign with rfl | rfl <;> decide
    · exact h

theorem inert_of_isExponent (h : isExponent cs = true) : IsInert cs := by
  cases cs with
  | nil => exact List.forall_mem_nil _
  | cons c cs =>
    simp only [isExponent, Bool.and_eq_true, Bool.or_eq_true, decide_eq_true_eq] at h
    refine List.forall_mem_cons.2 ⟨?_, inert_of_withoutSign (inert_of_isDigit (isDigit_of_isDigitRow h.2).2)⟩
    rcases h.1 with rfl | rfl <;> decide

theorem inert_of_isDecimal (h : isDecimal cs = true) : IsInert cs := by
  obtain ⟨whole, tail, rfl, hwhole, ⟨behind, exponent, rfl, hbehind, -, hexponent⟩ | ⟨-, hexponent⟩⟩ :=
    exists_of_isDecimal h
  · refine List.forall_mem_append.2 ⟨inert_of_isDigit hwhole, List.forall_mem_cons.2 ⟨by decide, ?_⟩⟩
    exact List.forall_mem_append.2 ⟨inert_of_isDigit hbehind, inert_of_isExponent hexponent⟩
  · exact List.forall_mem_append.2 ⟨inert_of_isDigit hwhole, inert_of_isExponent hexponent⟩

theorem inert_of_isNumberName (h : isNumberName cs = true) : IsInert cs := by
  have hnames : ∀ name ∈ ["inf".toList, "infinity".toList, "nan".toList],
      ')' ∉ name ∧ '/' ∉ name := by decide
  obtain ⟨hclosing, hslash⟩ := hnames _ (List.contains_iff_mem.1 h)
  intro c hc
  have hlower : c.toLower ∈ cs.map Char.toLower := List.mem_map_of_mem hc
  refine ⟨?_, ?_⟩ <;> rintro rfl
  · exact hclosing hlower
  · exact hslash hlower

theorem inert_of_isNumber (h : isNumber cs = true) : IsInert cs := by
  rw [isNumber, Bool.or_eq_true] at h
  exact inert_of_withoutSign (h.elim inert_of_isDecimal inert_of_isNumberName)

/-- A bound is read as a number if it is one where it is written. -/
theorem argument?_bound (h : isNumber cs = true) (rest : List Char) : argument? (cs ++ ')' :: rest) =
    if isNumberExpression cs then some (some (.number cs), rest) else none := by
  have hinert := inert_of_isNumber h
  refine argument?_number ?_ (fun hmem => (hinert _ hmem).1 rfl)
    (fun hhead => (hinert _ (List.mem_of_head? hhead)).2 rfl) rest
  rintro rfl
  exact absurd h (by decide)

/-- A literal is an argument if a parenthesis stands behind the slash that ends it. -/
theorem argument?_slash (cs : List Char) :
    argument? ('/' :: cs) = (patternArgument? ('/' :: cs)).map fun r => (some r.1, r.2) := rfl

/-- The argument of a sound condition is read up to its parenthesis. -/
theorem exists_argument? {r : Refinement} (hnumber : r.HasNumber) (h : r.IsSound) (rest : List Char) :
    ∃ a, argument? (r.written ++ ')' :: rest) = some (a, rest) ∧ r.Takes a := by
  cases r with
  | min bound | max bound =>
    refine ⟨_, ?_, rfl⟩
    rw [Refinement.written, argument?_bound hnumber, if_pos ((isNumberExpression_iff hnumber).2 h)]
  | email | uuid | url | dateTime => exact ⟨none, rfl, rfl⟩
  | pattern source =>
    obtain ⟨ss, ts, hss, hread, hmeaning⟩ := exists_regex? h (')' :: rest)
    refine ⟨_, ?_, ss, ts, hss, rfl, hmeaning⟩
    rw [Refinement.written, List.cons_append, List.append_assoc, List.singleton_append, argument?_slash,
      patternArgument?, hread]
    rfl

/-- If the argument of a condition is read, then the condition is sound, and nothing else is read. -/
theorem isSound_of_argument? {r : Refinement} (hnumber : r.HasNumber) {a : Option Argument}
    {rest' : List Char} (hread : argument? (r.written ++ ')' :: rest) = some (a, rest')) (ha : r.Takes a) :
    r.IsSound ∧ rest' = rest := by
  cases r with
  | min bound | max bound =>
    rw [Refinement.written, argument?_bound hnumber] at hread
    split_ifs at hread with hexpression
    exact ⟨(isNumberExpression_iff hnumber).1 hexpression, (Prod.mk.inj (Option.some.inj hread)).2.symm⟩
  | email | uuid | url | dateTime => exact ⟨trivial, (Prod.mk.inj (Option.some.inj hread)).2.symm⟩
  | pattern source =>
    obtain ⟨ss, ts, hss, rfl, hmeaning⟩ := ha
    rw [Refinement.written, List.cons_append, List.append_assoc, List.singleton_append, argument?_slash,
      patternArgument?] at hread
    split at hread
    · next ts' rest'' hregex =>
      obtain ⟨hts, hrest⟩ := Prod.mk.inj (Option.some.inj hread)
      obtain rfl := Argument.pattern.inj (Option.some.inj hts)
      obtain ⟨hsound, hbehind⟩ := isSoundPattern_of_regex? hss hregex hmeaning
      exact ⟨hsound, hrest.symm.trans (List.cons.inj hbehind).2⟩
    · cases hread

theorem render_append (r : Refinement) (rest : List Char) :
    r.render.toList ++ rest = '.' :: (r.method ++ '(' :: (r.written ++ ')' :: rest)) := by
  cases r with
  | min bound | max bound =>
    rw [Refinement.render, String.toList_append, String.toList_append, List.append_assoc, List.append_assoc]
    rfl
  | email | uuid | url | dateTime => rfl
  | pattern source =>
    have hwritten : (Refinement.pattern source).written ++ ')' :: rest =
        '/' :: (escapeSlashes source.toList ++ ("/)".toList ++ rest)) := by
      rw [Refinement.written, List.cons_append, List.append_assoc]
      rfl
    rw [hwritten, Refinement.render, String.toList_append, String.toList_append,
      String.toList_ofList (l := escapeSlashes source.toList),
      List.append_assoc, List.append_assoc]
    rfl

theorem call?_render (r : Refinement) (rest : List Char) : call? (r.render.toList ++ rest) =
    (argument? (r.written ++ ')' :: rest)).map fun a => (⟨r.method, a.1⟩, a.2) := by
  rw [render_append]
  refine call?_named ?_ ?_ _ <;> cases r <;> rfl

/-- A sound condition is one call that states it, whatever stands behind it. -/
theorem exists_call? {r : Refinement} (hnumber : r.HasNumber) (h : r.IsSound) (rest : List Char) :
    ∃ call, call? (r.render.toList ++ rest) = some (call, rest) ∧ r.StatedBy call := by
  obtain ⟨a, hread, ha⟩ := exists_argument? hnumber h rest
  exact ⟨⟨r.method, a⟩, by rw [call?_render, hread]; rfl, rfl, ha⟩

/-- If a call that states a condition is read, then the condition is sound, and nothing else is read. -/
theorem isSound_of_call? {r : Refinement} (hnumber : r.HasNumber) {call : Call} {rest' : List Char}
    (hread : call? (r.render.toList ++ rest) = some (call, rest')) (hstated : r.StatedBy call) :
    r.IsSound ∧ rest' = rest := by
  rw [call?_render] at hread
  obtain ⟨⟨a, rest''⟩, hargument, heq⟩ := Option.map_eq_some_iff.1 hread
  obtain ⟨rfl, rfl⟩ := Prod.mk.inj heq
  exact isSound_of_argument? hnumber hargument hstated.2

/-- A condition is sound exactly if it is one call that states it, whatever stands behind it. -/
theorem exists_call?_iff {r : Refinement} (hnumber : r.HasNumber) (rest : List Char) :
    (∃ call, call? (r.render.toList ++ rest) = some (call, rest) ∧ r.StatedBy call) ↔ r.IsSound := by
  constructor
  · rintro ⟨call, hread, hstated⟩
    exact (isSound_of_call? hnumber hread hstated).1
  · exact fun h => exists_call? hnumber h rest

/-! ### Chains -/

/-- Conditions are sound exactly if their texts are read as a chain of calls that state them. -/
theorem exists_calls?_iff {rs : List Refinement} (hnumber : ∀ r ∈ rs, r.HasNumber) :
    (∃ calls, calls? (String.join (rs.map Refinement.render)).toList = some calls ∧
      List.Forall₂ Refinement.StatedBy rs calls) ↔ ∀ r ∈ rs, r.IsSound := by
  induction rs with
  | nil => exact iff_of_true ⟨[], by rw [calls?.eq_def]; rfl, .nil⟩ (List.forall_mem_nil _)
  | cons r rs ih =>
    obtain ⟨hr, hrs⟩ := List.forall_mem_cons.1 hnumber
    rw [List.map_cons, String.join_cons, String.toList_append, List.forall_mem_cons]
    constructor
    · rintro ⟨calls, hread, hstated⟩
      cases hstated with
      | cons hcall hcalls =>
        obtain ⟨rest, hfirst, hrest⟩ := exists_of_calls?_cons hread
        obtain ⟨hsound, rfl⟩ := isSound_of_call? hr hfirst hcall
        exact ⟨hsound, (ih hrs).1 ⟨_, hrest, hcalls⟩⟩
    · rintro ⟨hsound, hall⟩
      obtain ⟨calls, hrest, hcalls⟩ := (ih hrs).2 hall
      obtain ⟨call, hcall, hstated⟩ := exists_call? hr hsound (String.join (rs.map Refinement.render)).toList
      exact ⟨call :: calls, by rw [calls?_append hcall, hrest]; rfl, .cons hstated hcalls⟩

theorem render_foldl_refined (rs : List Refinement) (v : Validator) (s : Style) (indent : Nat) :
    (rs.foldl Validator.refined v).render s indent =
      v.render s indent ++ String.join (rs.map Refinement.render) := by
  induction rs generalizing v with
  | nil => simp
  | cons r rs ih =>
    have hrefined : (Validator.refined v r).render s indent = v.render s indent ++ r.render := rfl
    rw [List.foldl_cons, ih, hrefined, List.map_cons, String.join_cons, String.append_assoc]

/-- What documentation adds to a validator is a chain of calls, each of which states its condition, exactly if
every condition is sound. One that is not fails on its own, whatever stands behind it. -/
theorem refinements_calls (d : Doc) (v : Validator) (s : Style) (indent : Nat) :
    ∃ text, ((refinements d).foldl Validator.refined v).render s indent = v.render s indent ++ text ∧
      ((∃ calls, calls? text.toList = some calls ∧ List.Forall₂ Refinement.StatedBy (refinements d) calls) ↔
        ∀ r ∈ refinements d, r.IsSound) ∧
      ∀ r ∈ refinements d, ∀ rest,
        (∃ call, call? (r.render.toList ++ rest) = some (call, rest) ∧ r.StatedBy call) ↔ r.IsSound :=
  ⟨_, render_foldl_refined (refinements d) v s indent, exists_calls?_iff fun _ hr => hasNumber_of_mem hr,
    fun _ hr rest => exists_call?_iff (hasNumber_of_mem hr) rest⟩

example : escapeSlashes ['a', '\\', '/', 'b'] = ['a', '\\', '\\', '/', 'b'] := rfl

example : isNumber ['i', 'n', 'f'] = true ∧ isNumberExpression ['i', 'n', 'f'] = false := by decide

end SchemaGen.Zod
