import SchemaGen.Proofs.Database.Spelling
import SchemaGen.Proofs.TypeScript.Identifier

namespace SchemaGen.Database

open TypeScript

/-- A text with flat names in place of the lookups into a schema, behind another character or at the
beginning of a text. A lookup into another schema stays. -/
inductive Rewrites (database schema : List Char) : Option Char → List Char → List Char → Prop where
  | nil {before : Option Char} : Rewrites database schema before [] []
  | keep {before : Option Char} {c : Char} {cs out : List Char} :
    (Text.isBoundary before (some c) = true →
      ∀ part l s rest, Spells database part l s → c :: cs ≠ s ++ rest) →
    Rewrites database schema (some c) cs out → Rewrites database schema before (c :: cs) (c :: out)
  | lookup {before : Option Char} {part s rest out : List Char} {l : Lookup} :
    Text.isBoundary before (s ++ rest).head? = true → Spells database part l s →
    (l.member = none → ¬ BeginsWithMember rest) → Rewrites database schema (some ']') rest out →
      Rewrites database schema before (s ++ rest) ((if l.schema = schema then l.flatName else s) ++ out)

variable {database schema part cs rest s out : List Char} {before : Option Char} {c : Char} {l : Lookup}

theorem Bracketed.getLast? {name : List Char} (h : Bracketed name s) : s.getLast? = some ']' := by
  obtain ⟨-, -, -, -, -, -⟩ := h
  simp [List.getLast?_cons, List.getLast?_append]

theorem Spells.getLast? (h : Spells database part l s) : s.getLast? = some ']' := by
  cases h with
  | entry _ _ _ hc => simp [List.getLast?_append, hc.getLast?]
  | member _ _ _ _ _ hd => simp [List.getLast?_append, hd.getLast?]

theorem Spells.ne_nil (h : Spells database part l s) : s ≠ [] := by
  rintro rfl
  exact absurd (h.getLast?) (by simp)

theorem resolveAfter_keep (h : Text.isBoundary before (some c) = true →
      Lookup.read? database (c :: cs) = none) :
    resolveAfter database schema before (c :: cs) =
      c :: resolveAfter database schema (some c) cs := by
  rw [resolveAfter]
  split_ifs with hboundary
  · split
    · next hread => exact absurd (hread.symm.trans (h hboundary)) (by simp)
    · rfl
  · rfl

theorem resolveAfter_lookup (hboundary : Text.isBoundary before (s ++ rest).head? = true)
    (hne : s ≠ []) (hread : Lookup.read? database (s ++ rest) = some (l, rest)) :
    resolveAfter database schema before (s ++ rest) =
      (if l.schema = schema then l.flatName else s) ++
        resolveAfter database schema (some ']') rest := by
  obtain ⟨c, cs, rfl⟩ := List.exists_cons_of_ne_nil hne
  rw [List.cons_append] at hboundary hread ⊢
  rw [resolveAfter, if_pos (by simpa using hboundary)]
  split
  · next l' rest' hread' =>
    obtain ⟨rfl, rfl⟩ := Prod.mk.inj (Option.some.inj (hread.symm.trans hread'))
    have htake : (c :: (cs ++ rest)).take ((c :: (cs ++ rest)).length - rest.length) = c :: cs := by
      have hlength : (c :: (cs ++ rest)).length - rest.length = (c :: cs).length := by
        simp only [List.length_cons, List.length_append]
        omega
      rw [hlength, ← List.cons_append, List.take_left]
    rw [htake]
  · next hnone => exact absurd (hnone.symm.trans hread) (by simp)

theorem rewrites_resolveAfter (database schema : List Char) (before : Option Char) (cs : List Char) :
    Rewrites database schema before cs (resolveAfter database schema before cs) := by
  generalize hlength : cs.length = n
  induction n using Nat.strongRecOn generalizing before cs with
  | ind n ih =>
    cases cs with
    | nil =>
      rw [resolveAfter]
      exact .nil
    | cons c cs =>
      by_cases hread : Text.isBoundary before (some c) = true ∧
          Lookup.read? database (c :: cs) ≠ none
      · obtain ⟨hboundary, hsome⟩ := hread
        obtain ⟨⟨l, rest⟩, hread⟩ := Option.ne_none_iff_exists'.1 hsome
        obtain ⟨part, s, hspells, hcs, hlongest⟩ := exists_of_read? hread
        have hshorter := Lookup.length_lt_of_read? hread
        rw [hcs] at hread hshorter hlength ⊢
        have hboundary' : Text.isBoundary before (s ++ rest).head? = true := by
          rw [← hcs]
          exact hboundary
        rw [resolveAfter_lookup hboundary' hspells.ne_nil hread]
        exact .lookup hboundary' hspells hlongest (ih _ (by omega) _ _ rfl)
      · rw [not_and_not_right] at hread
        rw [resolveAfter_keep hread]
        refine .keep (fun hboundary => read?_eq_none_iff.1 (hread hboundary)) (ih _ ?_ _ _ rfl)
        rw [← hlength]
        exact Nat.lt_succ_self _

theorem Rewrites.resolveAfter_eq (h : Rewrites database schema before cs out) :
    resolveAfter database schema before cs = out := by
  induction h with
  | nil => rw [resolveAfter]
  | keep hnone _ ih =>
    rw [resolveAfter_keep fun hboundary => read?_eq_none_iff.2 (hnone hboundary), ih]
  | lookup hboundary hspells hlongest _ ih =>
    rw [resolveAfter_lookup hboundary hspells.ne_nil (read?_append hspells _ hlongest), ih]

/-- Putting flat names in place of lookups does that and nothing else. -/
theorem rewrites_iff : Rewrites database schema before cs out ↔
    resolveAfter database schema before cs = out :=
  ⟨Rewrites.resolveAfter_eq, fun h => h ▸ rewrites_resolveAfter database schema before cs⟩

/-- A text that begins as a lookup does: with the name of the database type, which has none of the
characters around names, and a bracket. No bracket is closed right behind the first quote. -/
structure Opens (database cs : List Char) : Prop where
  ne_nil : database ≠ []
  plain : ∀ c ∈ database, isMark c = false
  bracket : ∃ ds, cs = database ++ '[' :: ds
  quote : ∃ r ds, cs.dropWhile (!isQuote ·) = r :: ds ∧ (Text.trimStart ds).head? ≠ some ']'

theorem Opens.exists_eq_cons (h : Opens database cs) : ∃ c ds, cs = c :: ds ∧ isMark c = false := by
  obtain ⟨ds, rfl⟩ := h.bracket
  obtain ⟨c, database, rfl⟩ := List.exists_cons_of_ne_nil h.ne_nil
  exact ⟨c, _, rfl, h.plain c List.mem_cons_self⟩

theorem isMark_eq_false (h : isMark c = false) :
    c ≠ '[' ∧ c ≠ ']' ∧ isQuote c = false ∧ Text.isBlank c = false := by
  simp only [isMark, Bool.or_eq_false_iff, decide_eq_false_iff_not] at h
  obtain ⟨⟨⟨⟨hopen, hclose⟩, hdouble⟩, hsingle⟩, hblank⟩ := h
  exact ⟨hopen, hclose, by simp [isQuote, hdouble, hsingle], hblank⟩

theorem bracketed?_of_ne (h : cs.head? ≠ some '[') : bracketed? cs = none := by
  unfold bracketed?
  split
  · exact absurd rfl h
  · rfl

theorem bracketed?_of_not_isQuote {q : Char} {ds es : List Char} (h : Text.trimStart ds = q :: es)
    (hq : isQuote q = false) : bracketed? ('[' :: ds) = none := by
  simp only [bracketed?, h, hq, Bool.false_and, Bool.false_eq_true, if_false]
  split
  · split <;> rfl
  · rfl

theorem bracketed?_of_unclosed {q r : Char} {ds es fs : List Char} (h : Text.trimStart ds = q :: es)
    (hes : es.dropWhile (!isQuote ·) = r :: fs) (hfs : (Text.trimStart fs).head? ≠ some ']') :
    bracketed? ('[' :: ds) = none := by
  simp only [bracketed?, h, hes]
  split
  · next rest hclosed =>
    rw [hclosed] at hfs
    exact absurd rfl hfs
  · rfl

section Scans

variable {α : Type} {p : α → Bool} {x : α} {xs ys : List α}

theorem dropWhile_append_of_nil (h : xs.dropWhile p = []) (zs : List α) :
    (xs ++ zs).dropWhile p = zs.dropWhile p := by
  rw [List.dropWhile_append, h]
  rfl

theorem dropWhile_append_of_cons (h : xs.dropWhile p = x :: ys) (zs : List α) :
    (xs ++ zs).dropWhile p = x :: (ys ++ zs) := by
  rw [List.dropWhile_append, h]
  rfl

theorem takeWhile_append_of_cons (h : xs.dropWhile p = x :: ys) (zs : List α) :
    (xs ++ zs).takeWhile p = xs.takeWhile p := by
  rw [List.takeWhile_append, if_neg]
  intro hall
  have hlength := congrArg List.length (List.takeWhile_append_dropWhile (p := p) (l := xs))
  rw [List.length_append, h, List.length_cons] at hlength
  omega

end Scans

/-- A name in brackets that begins in front of a lookup ends there. -/
theorem bracketed?_append_of_opens (h : Opens database cs) (ds : List Char) :
    bracketed? (ds ++ cs) = (bracketed? ds).map fun r => (r.1, r.2 ++ cs) := by
  obtain ⟨c, behind, hcons, hmark⟩ := h.exists_eq_cons
  obtain ⟨r, after, hquote, hclosed⟩ := h.quote
  obtain ⟨hopen, hclose, hplain, hblank⟩ := isMark_eq_false hmark
  have htrim : Text.trimStart cs = c :: behind := by
    rw [hcons, Text.trimStart, List.dropWhile_cons_of_neg (by simp [hblank])]
  cases ds with
  | nil =>
    rw [List.nil_append, bracketed?_of_ne (by simpa [hcons] using hopen)]
    rfl
  | cons d ds =>
    by_cases hbracket : d = '['
    swap
    · rw [bracketed?_of_ne (by simpa using hbracket), bracketed?_of_ne (by simpa using hbracket)]
      rfl
    subst hbracket
    rw [List.cons_append]
    -- Each of the three scans either stops in front of the lookup or runs into it.
    cases hds : Text.trimStart ds with
    | nil =>
      have hinto := (dropWhile_append_of_nil hds cs).trans htrim
      rw [bracketed?_of_not_isQuote hinto hplain, bracketed?, hds]
      rfl
    | cons q es =>
      have hq : Text.trimStart (ds ++ cs) = q :: (es ++ cs) := dropWhile_append_of_cons hds cs
      cases hes : es.dropWhile (!isQuote ·) with
      | nil =>
        have hinto := (dropWhile_append_of_nil hes cs).trans hquote
        rw [bracketed?_of_unclosed hq hinto hclosed]
        simp only [bracketed?, hds, hes]
        rfl
      | cons q' fs =>
        have hq' := dropWhile_append_of_cons hes cs
        cases hfs : Text.trimStart fs with
        | nil =>
          have hinto : Text.trimStart (fs ++ cs) = c :: behind :=
            (dropWhile_append_of_nil hfs cs).trans htrim
          rw [bracketed?_of_unclosed hq hq' (by simpa [hinto] using hclose)]
          simp only [bracketed?, hds, hes, hfs]
          rfl
        | cons e gs =>
          have he : Text.trimStart (fs ++ cs) = e :: (gs ++ cs) := dropWhile_append_of_cons hfs cs
          by_cases hend : e = ']'
          · subst hend
            simp only [bracketed?, hds, hes, hfs, hq, hq', he, takeWhile_append_of_cons hes cs]
            split_ifs <;> rfl
          · rw [bracketed?_of_unclosed hq hq' (by simpa [he] using hend),
              bracketed?_of_unclosed hds hes (by simpa [hfs] using hend)]
            rfl

theorem lookupMember?_append_of_opens (h : Opens database cs) (ds : List Char) :
    lookupMember? (ds ++ cs) = ((lookupMember? ds).1, (lookupMember? ds).2 ++ cs) := by
  unfold lookupMember?
  rw [bracketed?_append_of_opens h]
  cases bracketed? ds with
  | none => rfl
  | some r =>
    obtain ⟨name, rest⟩ := r
    dsimp only [Option.map_some]
    split_ifs <;> rfl

/-- A name of the database type that reaches into a lookup does not reach beyond its own first part, so no
bracket stands behind it. -/
theorem Opens.head?_ne_bracket (h : Opens database cs) {ds es : List Char} (hne : ds ≠ [])
    (hname : ¬∃ es, ds = database ++ es) (hread : ds ++ cs = database ++ es) :
    es.head? ≠ some '[' := by
  obtain ⟨a, hdatabase, hcs⟩ | ⟨a, hds, -⟩ := List.append_eq_append_iff.1 hread
  swap
  · exact absurd ⟨a, hds⟩ hname
  obtain ⟨behind, hbracket⟩ := h.bracket
  have hlt : a.length < database.length := by
    have hlength := congrArg List.length hdatabase
    rw [List.length_append] at hlength
    have := List.length_pos_iff.2 hne
    omega
  have hleft : (database ++ '[' :: behind)[a.length]? = database[a.length]? :=
    List.getElem?_append_left hlt
  have hinside : es.head? = database[a.length]? := by
    rw [← hleft, ← hbracket, hcs, List.getElem?_append_right (Nat.le_refl _), Nat.sub_self,
      List.head?_eq_getElem?]
  intro hes
  have hmem := List.mem_of_getElem? (hinside.symm.trans hes)
  exact absurd (h.plain _ hmem) (by decide)

/-- No lookup begins in front of another without the name of the database type. -/
theorem read?_append_eq_none (h : Opens database cs) {ds : List Char} (hne : ds ≠ [])
    (hname : ¬∃ es, ds = database ++ es) : Lookup.read? database (ds ++ cs) = none := by
  rw [Lookup.read?]
  cases hread : Text.afterPrefix? database (ds ++ cs) with
  | none => rfl
  | some es =>
    have hhead := h.head?_ne_bracket hne hname (Text.afterPrefix?_eq_some_iff.1 hread)
    rw [Option.bind_eq_bind, Option.bind_some, bracketed?_of_ne hhead]
    rfl

/-- A lookup that begins in front of another ends there. -/
theorem read?_append_of_opens (h : Opens database cs) {ds : List Char} (hne : ds ≠ []) :
    Lookup.read? database (ds ++ cs) = (Lookup.read? database ds).map fun r => (r.1, r.2 ++ cs) := by
  by_cases hname : ∃ es, ds = database ++ es
  · obtain ⟨es, rfl⟩ := hname
    simp only [Lookup.read?, List.append_assoc, Text.afterPrefix?_eq_some_iff.2 rfl,
      Option.bind_eq_bind, Option.bind_some, bracketed?_append_of_opens h]
    cases bracketed? es with
    | none => rfl
    | some schema =>
      simp only [Option.map_some, Option.bind_some, bracketed?_append_of_opens h]
      cases bracketed? schema.2 with
      | none => rfl
      | some part =>
        simp only [Option.map_some, Option.bind_some, bracketed?_append_of_opens h]
        cases bracketed? part.2 with
        | none => rfl
        | some entry =>
          simp only [Option.map_some, Option.bind_some, lookupMember?_append_of_opens h]
          split_ifs <;> rfl
  · have hnone : Text.afterPrefix? database ds = none := by
      rw [Option.eq_none_iff_forall_ne_some]
      intro es hes
      exact hname ⟨es, Text.afterPrefix?_eq_some_iff.1 hes⟩
    have hleft : Lookup.read? database ds = none := by
      rw [Lookup.read?, hnone]
      rfl
    rw [hleft, Option.map_none, read?_append_eq_none h hne hname]

theorem head?_append {ds es : List Char} (h : ds ≠ []) : (ds ++ es).head? = ds.head? := by
  obtain ⟨d, ds, rfl⟩ := List.exists_cons_of_ne_nil h
  rfl

/-- What is made of a text is made of its part in front of a lookup and of the rest. -/
theorem Rewrites.append {ds out' : List Char} (h : Rewrites database schema before ds out)
    (hopens : Opens database cs)
    (hcs : Rewrites database schema (ds.getLast?.or before) cs out') :
    Rewrites database schema before (ds ++ cs) (out ++ out') := by
  induction h with
  | nil => exact hcs
  | @keep before c ds out hnone _ ih =>
    refine .keep (fun hboundary => read?_eq_none_iff.1 ?_) (ih ?_)
    · have hread := read?_append_of_opens hopens (List.cons_ne_nil c ds)
      rwa [read?_eq_none_iff.2 (hnone hboundary)] at hread
    · simpa [List.getLast?_cons] using hcs
  | @lookup before part s rest out l hboundary hspells hlongest _ ih =>
    have hread : Lookup.read? database (s ++ rest ++ cs) = some (l, rest ++ cs) := by
      rw [read?_append_of_opens hopens (by simp [hspells.ne_nil]), read?_append hspells rest hlongest]
      rfl
    obtain ⟨-, -, -, -, hlongest'⟩ := exists_of_read? hread
    rw [List.append_assoc, List.append_assoc]
    refine .lookup ?_ hspells hlongest' (ih ?_)
    · rwa [head?_append hspells.ne_nil] at hboundary ⊢
    · rwa [List.getLast?_append, hspells.getLast?, Option.or_assoc] at hcs

theorem Spells.exists_eq_append (h : Spells database part l s) :
    ∃ a b, Bracketed l.schema a ∧ s = database ++ (a ++ b) := by
  cases h with
  | entry _ ha _ _ => exact ⟨_, _, ha, rfl⟩
  | member _ _ ha _ _ _ => exact ⟨_, _, ha, rfl⟩

theorem head?_trimStart_append {name ds : List Char} (hc : Text.isBlank c = false) :
    (Text.trimStart (name ++ c :: ds)).head? = (Text.trimStart name).head?.or (some c) := by
  cases htrim : Text.trimStart name with
  | nil =>
    have hnext := dropWhile_append_of_nil htrim (c :: ds)
    rw [List.dropWhile_cons_of_neg (by simp [hc])] at hnext
    exact congrArg List.head? hnext
  | cons d es => exact congrArg List.head? (dropWhile_append_of_cons htrim (c :: ds))

/-- A lookup begins as lookups do, unless its schema begins with a closing bracket. -/
theorem Spells.opens (h : Spells database part l s) (hne : database ≠ [])
    (hplain : ∀ c ∈ database, isMark c = false)
    (hschema : (Text.trimStart l.schema).head? ≠ some ']') (rest : List Char) :
    Opens database (s ++ rest) := by
  obtain ⟨a, b, ⟨-, hname, hq, hr, hblank, -⟩, rfl⟩ := h.exists_eq_append
  next q r before after =>
  have hscanned : ∀ c ∈ database ++ '[' :: before, (!isQuote c) = true := by
    intro c hc
    rw [Bool.not_eq_true', ← Bool.not_eq_true]
    intro hquote
    rcases List.mem_append.1 hc with hc | hc
    · exact absurd hquote (by simp [(isMark_eq_false (hplain c hc)).2.2.1])
    · rcases List.mem_cons.1 hc with rfl | hc
      · exact absurd hquote (by decide)
      · exact absurd (hblank c hc) (by simp [isBlank_of_isQuote hquote])
  have htext : database ++ ('[' :: (before ++ q :: (l.schema ++ r :: (after ++ [']']))) ++ b) ++ rest =
      (database ++ '[' :: before) ++ q :: (l.schema ++ r :: (after ++ ']' :: (b ++ rest))) := by
    simp
  refine ⟨hne, hplain, ⟨_, by simp only [List.append_assoc, List.cons_append]; rfl⟩,
    q, l.schema ++ r :: (after ++ ']' :: (b ++ rest)), ?_, ?_⟩
  · rw [htext, List.dropWhile_append_of_pos hscanned, List.dropWhile_cons_of_neg (by simp [hq])]
  · rw [head?_trimStart_append (isBlank_of_isQuote hr), ne_eq, Option.or_eq_some_iff]
    rintro (hbracket | ⟨-, heq⟩)
    · exact hschema hbracket
    · rw [Option.some.inj heq] at hr
      exact absurd hr (by decide)

/-- Where a lookup stands so that it is read as it is meant: a word begins or ends in front of it, no member
that it does not have stands behind it, and its schema does not begin as if a name ended there. -/
structure Stands (database : List Char) (l : Lookup) (before behind : List Char) : Prop where
  boundary : Text.isBoundary before.getLast? database.head? = true
  whole : l.member = none → ¬ BeginsWithMember behind
  schema : (Text.trimStart l.schema).head? ≠ some ']'

/-- A lookup gives way where it stands so, or it stays if it is one into another schema. What stands before
it or behind it makes no difference to that. -/
theorem resolveAfter_append_lookup (schema : List Char) {ds : List Char} (h : Spells database part l s)
    (hne : database ≠ []) (hplain : ∀ c ∈ database, isMark c = false)
    (hstands : Stands database l ds rest) :
    resolveAfter database schema none (ds ++ (s ++ rest)) =
      resolveAfter database schema none ds ++ ((if l.schema = schema then l.flatName else s) ++
        resolveAfter database schema (some ']') rest) := by
  have hopens := h.opens hne hplain hstands.schema rest
  refine (Rewrites.append (rewrites_resolveAfter _ _ _ _) hopens ?_).resolveAfter_eq
  refine .lookup ?_ h hstands.whole (rewrites_resolveAfter _ _ _ _)
  obtain ⟨a, b, -, rfl⟩ := h.exists_eq_append
  rw [List.append_assoc, head?_append hne, Option.or_none]
  exact hstands.boundary

end SchemaGen.Database
