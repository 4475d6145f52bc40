import SchemaGen.Proofs.Text.Cluster

namespace SchemaGen.Text.Pascal

section Words

variable {k : Cluster}

/-- The last cluster of a word that is still open, if there is one. -/
def tipAfter (tip : Option Cluster) : List Cluster → Option Cluster
  | [] => tip
  | k :: ks => tipAfter (if isDelimiter k then none else some k) ks

/-- The words of a text that goes on with no small letter: all but the last stay. -/
theorem wordsAfter_append (word ks ms : List Cluster) (hms : ms.head?.any isLower = false) :
    ∃ done last, wordsAfter word ks = done ++ [last.reverse] ∧
      wordsAfter word (ks ++ ms) = done ++ wordsAfter last ms ∧
      last.head? = tipAfter word.head? ks := by
  induction ks generalizing word with
  | nil => exact ⟨[], word, rfl, rfl, rfl⟩
  | cons c cs ih =>
    by_cases hdelimiter : isDelimiter c = true
    · obtain ⟨done, last, hwords, happend, htip⟩ := ih []
      refine ⟨word.reverse :: done, last, ?_, ?_, ?_⟩
      · simp [wordsAfter, hdelimiter, hwords]
      · simp [wordsAfter, hdelimiter, happend]
      · simpa [tipAfter, hdelimiter] using htip
    · cases word with
      | nil =>
        obtain ⟨done, last, hwords, happend, htip⟩ := ih [c]
        refine ⟨done, last, ?_, ?_, ?_⟩
        · simp [wordsAfter, hdelimiter, hwords]
        · simp [wordsAfter, hdelimiter, happend]
        · simpa [tipAfter, hdelimiter] using htip
      | cons p word =>
        -- What comes next counts only between two capitals, and then only as a small letter.
        have hnext : endsBetween p c (cs ++ ms).head? = endsBetween p c cs.head? := by
          cases cs with
          | nil => simp [endsBetween, hms]
          | cons d cs => rfl
        cases hends : endsBetween p c cs.head? with
        | true =>
          obtain ⟨done, last, hwords, happend, htip⟩ := ih [c]
          refine ⟨(p :: word).reverse :: done, last, ?_, ?_, ?_⟩
          · simp [wordsAfter, hdelimiter, hends, hwords]
          · simp only [List.cons_append, wordsAfter, hdelimiter, hnext, hends, happend]
            simp
          · simpa [tipAfter, hdelimiter] using htip
        | false =>
          obtain ⟨done, last, hwords, happend, htip⟩ := ih (c :: p :: word)
          refine ⟨done, last, ?_, ?_, ?_⟩
          · simp [wordsAfter, hdelimiter, hends, hwords]
          · simp only [List.cons_append, wordsAfter, hdelimiter, hnext, hends, happend]
            simp
          · simpa [tipAfter, hdelimiter] using htip

theorem isDelimiter_false_of_mem {c : Char} (hc : c ∈ k) (hd : isDelimiter [c] = false) :
    isDelimiter k = false := by
  by_contra h
  rw [Bool.not_eq_false] at h
  simp only [isDelimiter, Bool.or_eq_true, decide_eq_true_eq] at h
  rcases h with (rfl | rfl) | rfl <;>
  · obtain rfl := List.mem_singleton.1 hc
    exact absurd hd (by decide)

theorem flatten_wordsAfter (word ks : List Cluster) :
    (wordsAfter word ks).flatten = word.reverse ++ ks.filter (!isDelimiter ·) := by
  induction ks generalizing word with
  | nil => simp [wordsAfter]
  | cons c cs ih =>
    by_cases hdelimiter : isDelimiter c = true
    · simp [wordsAfter, hdelimiter, ih]
    · cases word with
      | nil => simp [wordsAfter, hdelimiter, ih]
      | cons p word => cases hends : endsBetween p c cs.head? <;> simp [wordsAfter, hdelimiter, hends, ih]

theorem flatten_words (name : List Char) :
    (words name).flatten = (clusters name).filter (!isDelimiter ·) := by
  have hflatten := flatten_wordsAfter [] (clusters name)
  rw [words, List.flatten_filter_not_isEmpty, hflatten, List.reverse_nil, List.nil_append]

theorem ofName_eq (name : List Char) :
    ofName name = (wordsAfter [] (clusters name)).flatMap capitalize := by
  rw [ofName, words]
  generalize wordsAfter [] (clusters name) = ws
  induction ws with
  | nil => rfl
  | cons w ws ih =>
    cases w with
    | nil => simpa [capitalize] using ih
    | cons k ks => simp [ih]

/-- A change of case leaves something of a word that has more than delimiters in it. -/
theorem exists_mem_capitalize {w : List Cluster} {c : Char} (hc : c ∈ w.flatten)
    (hd : isDelimiter [c] = false) : ∃ d ∈ capitalize w, isDelimiter [d] = false := by
  cases w with
  | nil => simp at hc
  | cons k ks =>
    rw [List.flatten_cons, List.mem_append] at hc
    rcases hc with hc | hc
    · obtain ⟨d, hmem, hvisible⟩ := exists_mem_upperChar hd
      have hupper : d ∈ upper k := List.mem_flatMap.2 ⟨c, hc, hmem⟩
      exact ⟨d, List.mem_append_left _ hupper, hvisible⟩
    · obtain ⟨d, hmem, hvisible⟩ := exists_mem_lower hc hd
      exact ⟨d, List.mem_append_right _ hmem, hvisible⟩

theorem exists_mem_ofName {name : List Char} {c : Char} (hc : c ∈ name)
    (hd : isDelimiter [c] = false) : ∃ d ∈ ofName name, isDelimiter [d] = false := by
  rw [← flatten_clusters name, List.mem_flatten] at hc
  obtain ⟨k, hk, hc⟩ := hc
  have hword : k ∈ (words name).flatten := by
    rw [flatten_words]
    simp [hk, isDelimiter_false_of_mem hc hd]
  obtain ⟨w, hw, hkw⟩ := List.mem_flatten.1 hword
  obtain ⟨d, hmem, hvisible⟩ := exists_mem_capitalize (List.mem_flatten.2 ⟨k, hkw, hc⟩) hd
  exact ⟨d, List.mem_flatMap.2 ⟨w, hw, hmem⟩, hvisible⟩

theorem ofName_of_delimiters {name : List Char} (h : ∀ c ∈ name, isDelimiter [c] = true) :
    ofName name = [] := by
  have hclusters : clusters name = name.map fun c => [c] := by
    apply clusters_ascii
    intro c hc
    have hd := h c hc
    simp only [isDelimiter, Bool.or_eq_true, decide_eq_true_eq, List.cons.injEq, and_true] at hd
    rcases hd with (rfl | rfl) | rfl <;> decide
  have hflatten : (words name).flatten = [] := by
    rw [flatten_words, hclusters]
    simpa using h
  have hwords : words name = [] := by
    rw [List.eq_nil_iff_forall_not_mem]
    intro w hw
    have hne : w ≠ [] := by simpa [words] using (List.mem_filter.1 hw).2
    exact hne (List.flatten_eq_nil_iff.1 hflatten w hw)
  rw [ofName, hwords, List.flatMap_nil]

/-- A name of which something is left has that in Pascal case too. -/
theorem ofName_ofName_ne_nil {name : List Char} (h : ofName name ≠ []) :
    ofName (ofName name) ≠ [] := by
  by_contra hnil
  apply h
  apply ofName_of_delimiters
  intro c hc
  by_contra hd
  obtain ⟨d, hmem, hvisible⟩ := exists_mem_ofName hc (by simpa using hd)
  obtain ⟨e, he, -⟩ := exists_mem_ofName hmem hvisible
  rw [hnil] at he
  exact absurd he List.not_mem_nil

end Words

section Capital

variable {c : Char} {cs : List Char}

def takesLetter (k : Cluster) : Bool := k.getLast?.any fun p => isPrepend p && !isControl p

/-- The characters at the end of a name that make one cluster with a letter that follows. -/
def overhang (name : List Char) : List Char := ((clusters name).getLast?.filter takesLetter).getD []

/-- The clusters of a name that stay as they are when a letter follows. -/
def settled (name : List Char) : List Cluster :=
  if overhang name = [] then clusters name else (clusters name).dropLast

/-- Whether a word ends behind a name when a capital with small letters follows. -/
def endsWord (name : List Char) : Bool :=
  (tipAfter none (settled name)).all fun p => isLower p || isUpper p || isDigits p

/-- What a name becomes in front of a word of its own. -/
def stem (name : List Char) : List Char :=
  (wordsAfter [] (settled name)).flatMap capitalize ++ overhang name

theorem ascii_of_isUpper (hc : c.isUpper = true) : 32 ≤ c.toNat ∧ c.toNat < 127 := by
  have := toNat_of_isUpper hc
  omega

theorem ascii_of_isLower (hcs : ∀ d ∈ cs, d.isLower = true) :
    ∀ d ∈ cs, 32 ≤ d.toNat ∧ d.toNat < 127 := by
  intro d hd
  have := toNat_of_isLower (hcs d hd)
  omega

theorem plain_of_letter (hc : c.isUpper = true ∨ c.isLower = true) :
    isDelimiter [c] = false ∧ isDigits [c] = false :=
  forall_ascii (P := fun c => c.isUpper = true ∨ c.isLower = true →
    isDelimiter [c] = false ∧ isDigits [c] = false) (by decide +kernel) c
      (hc.elim lt_of_isUpper lt_of_isLower) hc

theorem clusters_append_capital (name : List Char) (hc : c.isUpper = true)
    (hcs : ∀ d ∈ cs, d.isLower = true) :
    clusters (name ++ c :: cs) = settled name ++ (overhang name ++ [c]) :: cs.map fun d => [d] := by
  obtain ⟨hlow, hhigh⟩ := ascii_of_isUpper hc
  have hletters (before : List Char) :
      clustersAfter (c :: before) cs = (c :: before).reverse :: cs.map fun d => [d] :=
    clustersAfter_ascii (by omega) (ascii_of_isLower hcs)
  by_cases hname : name = []
  · subst hname
    simp [settled, overhang, clusters, hletters]
  · obtain ⟨done, last, hlast, hclusters, happend⟩ := clusters_append hname
    obtain ⟨p, before, rfl⟩ := List.exists_cons_of_ne_nil hlast
    rw [List.reverse_cons] at hclusters
    have htakes : takesLetter (before.reverse ++ [p]) = (isPrepend p && !isControl p) := by
      simp [takesLetter]
    have hjoins : joins (p :: before) c = (isPrepend p && !isControl p) := joins_ascii hlow hhigh
    rw [happend, clustersAfter, hjoins]
    cases htake : isPrepend p && !isControl p with
    | true =>
      have hoverhang : overhang name = before.reverse ++ [p] := by
        simp [overhang, hclusters, Option.filter, htakes, htake]
      simp [settled, hoverhang, hclusters, hletters]
    | false =>
      have hoverhang : overhang name = [] := by
        simp [overhang, hclusters, Option.filter, htakes, htake]
      simp [settled, hoverhang, hclusters, hletters]

theorem upper_overhang (name : List Char) : upper (overhang name) = overhang name := by
  have hprepend : ∀ c ∈ overhang name, isPrepend c = true := by
    intro c hc
    unfold overhang at hc
    cases hlast : (clusters name).getLast? with
    | none => simp [hlast] at hc
    | some k =>
      by_cases htakes : takesLetter k = true
      · have hk : c ∈ k := by simpa [hlast, Option.filter, htakes] using hc
        have hjoined := (isJoined_of_mem_clusters (List.mem_of_getLast? hlast)).2
        cases hreverse : k.reverse with
        | nil => simp_all
        | cons p before =>
          have hp : isPrepend p = true := by
            have hgetLast : k.getLast? = some p := by simp [← List.head?_reverse, hreverse]
            simp [takesLetter, hgetLast] at htakes
            exact htakes.1
          rw [hreverse] at hjoined
          apply isPrepend_of_isJoined hjoined hp
          rw [← hreverse]
          exact List.mem_reverse.2 hk
      · simp [hlast, Option.filter, htakes] at hc
  generalize overhang name = cs at hprepend
  induction cs with
  | nil => rfl
  | cons c cs ih =>
    rw [List.forall_mem_cons] at hprepend
    have hupper : upper (c :: cs) = upperChar c ++ upper cs := rfl
    rw [hupper, (apart_of_isPrepend hprepend.1).2.2.2, ih hprepend.2, List.singleton_append]

theorem upper_append_capital (name : List Char) (hc : c.isUpper = true) :
    upper (overhang name ++ [c]) = overhang name ++ [c] := by
  have happend : upper (overhang name ++ [c]) = upper (overhang name) ++ upperChar c := by
    simp [upper]
  rw [happend, upper_overhang, upperChar_of_isUpper hc]

theorem isUpper_append_capital (name : List Char) (hc : c.isUpper = true) :
    isUpper (overhang name ++ [c]) = true := by
  obtain ⟨done, hdone⟩ := lowerAfter_append [] (overhang name) [c]
  have hlower : lower (overhang name ++ [c]) = done ++ [c.toLower] := by
    rw [lower, hdone, lowerAfter_capital hc (List.forall_mem_nil _)]
  have hne : overhang name ++ [c] ≠ lower (overhang name ++ [c]) := by
    intro heq
    rw [hlower] at heq
    have hlast := congrArg List.getLast? heq
    simp only [List.getLast?_append, List.getLast?_singleton, Option.some_or, Option.some.injEq] at hlast
    exact toLower_ne_of_isUpper hc hlast.symm
  simp [isUpper, upper_append_capital name hc, hne]

/-- Small letters go on with a word that does not end in digits. -/
theorem wordsAfter_small {p : Cluster} (hp : isDigits p = false) (hcs : ∀ d ∈ cs, d.isLower = true)
    (word : List Cluster) :
    wordsAfter (p :: word) (cs.map fun d => [d]) = [(p :: word).reverse ++ cs.map fun d => [d]] := by
  induction cs generalizing p word with
  | nil => simp [wordsAfter]
  | cons d cs ih =>
    rw [List.forall_mem_cons] at hcs
    obtain ⟨hdelimiter, hdigits⟩ := plain_of_letter (.inr hcs.1)
    have hends (next : Option Cluster) : endsBetween p [d] next = false := by
      simp [endsBetween, hp, hdigits, isUpper_singleton hcs.1]
    simp [wordsAfter, hdelimiter, hends, ih hdigits hcs.2]

/-- A word ends before a capital with a small letter behind it if there is case or a number. -/
theorem endsBetween_capital {p k : Cluster} {next : Option Cluster} (hk : isUpper k = true)
    (hdigits : isDigits k = false) (hnext : next.any isLower = true) :
    endsBetween p k next = (isLower p || isUpper p || isDigits p) := by
  simp only [endsBetween, hk, isLower_of_isUpper hk, hdigits, hnext]
  cases isLower p <;> cases isUpper p <;> cases isDigits p <;> rfl

theorem capitalize_capital (name : List Char) (hc : c.isUpper = true)
    (hcs : ∀ d ∈ cs, d.isLower = true) :
    capitalize ((overhang name ++ [c]) :: cs.map fun d => [d]) = overhang name ++ c :: cs := by
  have hflatten : (cs.map fun d => [d]).flatten = cs := by
    rw [← List.flatMap_def, List.flatMap_singleton']
  rw [capitalize, hflatten, upper_append_capital name hc, lower, lowerAfter_of_isLower hcs,
    List.append_assoc, List.singleton_append]

/-- A word that goes on behind its beginning ends in lower case. -/
theorem capitalize_append_capital {word : List Cluster} (hword : word ≠ []) (name : List Char)
    (hc : c.isUpper = true) (hcs : ∀ d ∈ cs, d.isLower = true) :
    ∃ before, capitalize (word ++ (overhang name ++ [c]) :: cs.map fun d => [d]) =
      before ++ c.toLower :: cs := by
  obtain ⟨p, word, rfl⟩ := List.exists_cons_of_ne_nil hword
  have hflatten : (word ++ (overhang name ++ [c]) :: cs.map fun d => [d]).flatten =
      (word.flatten ++ overhang name) ++ c :: cs := by
    simp [← List.flatMap_def]
  obtain ⟨done, hdone⟩ := lowerAfter_append [] (word.flatten ++ overhang name) (c :: cs)
  rw [lowerAfter_capital hc hcs] at hdone
  refine ⟨upper p ++ done, ?_⟩
  rw [List.cons_append, capitalize, hflatten, lower, hdone, List.append_assoc]

/-- A capital with small letters behind it, in the Pascal case of what goes on behind a word. -/
theorem flatMap_wordsAfter_capital (name : List Char) (hc : c.isUpper = true)
    (hcs : ∀ d ∈ cs, d.isLower = true) (hne : cs ≠ []) (word : List Cluster) :
    let text := (wordsAfter word ((overhang name ++ [c]) :: cs.map fun d => [d])).flatMap capitalize
    if word.head?.all fun p => isLower p || isUpper p || isDigits p then
      text = capitalize word.reverse ++ overhang name ++ c :: cs
    else ∃ before, text = before ++ c.toLower :: cs := by
  have hplain := plain_of_letter (.inl hc)
  have hupper := isUpper_append_capital name hc
  have hdelimiter : isDelimiter (overhang name ++ [c]) = false :=
    isDelimiter_false_of_mem (by simp) hplain.1
  have hdigits : isDigits (overhang name ++ [c]) = false := by
    have hdigit : c.isDigit = false := by simpa [isDigits] using hplain.2
    simp [isDigits, hdigit]
  have hnext : (cs.map fun d => [d]).head?.any isLower = true := by
    obtain ⟨d, ds, rfl⟩ := List.exists_cons_of_ne_nil hne
    simp [isLower_singleton (hcs d List.mem_cons_self)]
  have hsmall := wordsAfter_small hdigits hcs
  have hown := capitalize_capital name hc hcs
  have hopen (hword : word.reverse ≠ []) := capitalize_append_capital hword name hc hcs
  generalize (cs.map fun d => [d]) = ks at hnext hsmall hown hopen ⊢
  cases word with
  | nil =>
    have hwords : wordsAfter [] ((overhang name ++ [c]) :: ks) = [(overhang name ++ [c]) :: ks] := by
      simp [wordsAfter, hdelimiter, hsmall]
    rw [hwords]
    simpa [capitalize] using hown
  | cons p word =>
    have hends := endsBetween_capital (p := p) hupper hdigits hnext
    cases hcase : isLower p || isUpper p || isDigits p with
    | true =>
      have hwords : wordsAfter (p :: word) ((overhang name ++ [c]) :: ks) =
          [(p :: word).reverse, (overhang name ++ [c]) :: ks] := by
        simp only [wordsAfter, hdelimiter, hends, hcase, hsmall]
        simp
      simp [hwords, hown, hcase]
    | false =>
      have hwords : wordsAfter (p :: word) ((overhang name ++ [c]) :: ks) =
          [(p :: word).reverse ++ (overhang name ++ [c]) :: ks] := by
        simp only [wordsAfter, hdelimiter, hends, hcase, hsmall]
        simp
      rw [hwords, List.flatMap_singleton, List.head?_cons, Option.all_some, hcase]
      exact hopen (by simp)

theorem ofName_append_capital (name : List Char) (hc : c.isUpper = true)
    (hcs : ∀ d ∈ cs, d.isLower = true) (hne : cs ≠ []) :
    (endsWord name = true → ofName (name ++ c :: cs) = stem name ++ c :: cs) ∧
    (endsWord name = false → ∃ before, ofName (name ++ c :: cs) = before ++ c.toLower :: cs) := by
  have hcapital := isLower_of_isUpper (isUpper_append_capital name hc)
  obtain ⟨done, last, hwords, happend, htip⟩ := wordsAfter_append [] (settled name)
    ((overhang name ++ [c]) :: cs.map fun d => [d]) (by simp [hcapital])
  have htext := flatMap_wordsAfter_capital name hc hcs hne last
  rw [htip, List.head?_nil, ← endsWord] at htext
  rw [ofName_eq, clusters_append_capital name hc hcs, happend, stem, hwords]
  simp only [List.flatMap_append, List.flatMap_singleton] at htext ⊢
  constructor
  · intro hends
    rw [hends, if_pos rfl] at htext
    rw [htext]
    simp
  · intro hends
    rw [hends, if_neg Bool.false_ne_true] at htext
    obtain ⟨before, hbefore⟩ := htext
    refine ⟨done.flatMap capitalize ++ before, ?_⟩
    rw [hbefore, List.append_assoc]

/-- Something is left of a name in front of a word of its own. -/
theorem stem_ne_nil {name : List Char} (h : ofName name ≠ []) : stem name ≠ [] := by
  by_cases hoverhang : overhang name = []
  · have hsettled : settled name = clusters name := if_pos hoverhang
    rwa [stem, hoverhang, hsettled, List.append_nil, ← ofName_eq]
  · simp [stem, hoverhang]

end Capital

end SchemaGen.Text.Pascal
