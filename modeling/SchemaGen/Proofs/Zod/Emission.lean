import Mathlib.Data.Fintype.Pigeonhole
import Mathlib.Logic.Relation
import SchemaGen.Proofs.Zod.Outcome

namespace SchemaGen.Schema

/-- The definition of a name refers to another name. -/
def Refers (s : Schema) (a b : String) : Prop := ∃ d, s.get? a = some d ∧ b ∈ d.references

/-- The names to which references lead from a name, itself included. -/
abbrev Reaches (s : Schema) : String → String → Prop := Relation.ReflTransGen s.Refers

/-- Whatever a name reaches is defined and can be expressed, and two names that it reaches and that reach
one another are the same. -/
structure Sound (s : Schema) (name : String) : Prop where
  defined : ∀ a, s.Reaches name a → ∃ d, s.get? a = some d ∧ d.shape.expressible
  acyclic : ∀ a b, s.Reaches name a → s.Reaches a b → s.Reaches b a → a = b

theorem Sound.reaches {s : Schema} {a b : String} (h : s.Sound a) (hr : s.Reaches a b) :
    s.Sound b :=
  ⟨fun c hc => h.defined c (hr.trans hc), fun c d hc => h.acyclic c d (hr.trans hc)⟩

theorem name_of_get? {s : Schema} {name : String} {d : Definition}
    (h : s.get? name = some d) : d.name = name := by
  simpa using List.find?_some h

theorem mem_of_get? {s : Schema} {name : String} {d : Definition}
    (h : s.get? name = some d) : name ∈ s.definitions.map (·.name) :=
  List.mem_map.2 ⟨d, List.mem_of_find?_eq_some h, s.name_of_get? h⟩

end SchemaGen.Schema

namespace SchemaGen.Zod

open Schema Relation

/-- If every element of a finite set has a successor in it, all of them lead to a cycle. -/
theorem exists_cycle {α : Type} {r : α → α → Prop} (s : Finset α) (h : ∀ a ∈ s, ∃ b ∈ s, r a b)
    {a : α} (ha : a ∈ s) : ∃ x, ReflTransGen r a x ∧ TransGen r x x := by
  choose f hf using fun x : s => h x.1 x.2
  let next (x : s) : s := ⟨f x, (hf x).1⟩
  let walk (i : ℕ) : s := next^[i] ⟨a, ha⟩
  have step (i : ℕ) : r (walk i).1 (walk (i + 1)).1 := by
    have hnext : walk (i + 1) = next (walk i) := Function.iterate_succ_apply' next i _
    rw [hnext]
    exact (hf (walk i)).2
  have along (i k : ℕ) : ReflTransGen r (walk i).1 (walk (i + k)).1 := by
    induction k with
    | zero => exact .refl
    | succ k ih => exact ih.tail (step (i + k))
  -- The walk is longer than the set is large, so it comes back to some element.
  obtain ⟨i, j, hne, heq⟩ := Finite.exists_ne_map_eq_of_infinite walk
  wlog hlt : i < j generalizing i j
  · exact this j i hne.symm heq.symm (by omega)
  have start := along 0 i
  have round := along (i + 1) (j - (i + 1))
  rw [Nat.zero_add] at start
  rw [show i + 1 + (j - (i + 1)) = j by omega, ← heq] at round
  exact ⟨(walk i).1, start, TransGen.head' (step i) round⟩

/-- In an order without repetitions, what a declaration needs has a smaller index. -/
theorem InOrder.idxOf_lt {above : List String} {ds : List Declaration} (h : InOrder above ds)
    (hn : (ds.map (·.name)).Nodup) {d : Declaration} (hd : d ∈ ds) {n : String} (hne : n ∈ d.needs) :
    n ∈ above ∨ (ds.map (·.name)).idxOf n < (ds.map (·.name)).idxOf d.name := by
  induction ds generalizing above with
  | nil => simp at hd
  | cons e ds ih =>
    rw [List.map_cons, List.nodup_cons] at hn
    rcases List.mem_cons.1 hd with rfl | hd
    · exact .inl (h.1 n hne)
    · have hen : e.name ≠ d.name := by
        intro heq
        exact hn.1 (heq ▸ List.mem_map_of_mem hd)
      rcases ih h.2 hn.2 hd with hm | hlt
      · rcases List.mem_cons.1 hm with rfl | hm
        · right
          rw [List.map_cons, List.idxOf_cons_self, List.idxOf_cons_ne _ hen]
          omega
        · exact .inl hm
      · right
        by_cases heq : e.name = n
        · rw [List.map_cons, heq, List.idxOf_cons_self, List.idxOf_cons_ne _ (heq ▸ hen)]
          omega
        · rw [List.map_cons, List.idxOf_cons_ne _ heq, List.idxOf_cons_ne _ hen]
          omega

theorem count_map_name {α : Type} (name : α → String) (n : String) (xs : List α) :
    (xs.map name).count n = xs.countP (name · = n) := by
  simp [List.count, List.countP_map, Function.comp_def, BEq.beq]

theorem nodup_firstOfEach (ds : List Definition) : ((firstOfEach [] ds).map (·.name)).Nodup := by
  rw [List.nodup_iff_count_le_one]
  intro name
  rw [count_map_name, countP_firstOfEach]
  split_ifs <;> omega

theorem mem_firstOfEach (seen : List String) (ds : List Definition) (d : Definition) :
    d ∈ firstOfEach seen ds ↔ d.name ∉ seen ∧ ds.find? (·.name = d.name) = some d := by
  induction ds generalizing seen with
  | nil => simp [firstOfEach]
  | cons e ds ih =>
    rw [firstOfEach, List.find?_cons]
    by_cases hs : e.name ∈ seen
    · rw [if_pos hs, ih]
      by_cases hn : e.name = d.name
      · rw [hn] at hs
        simp [hs]
      · simp [hn]
    · rw [if_neg hs, List.mem_cons, ih]
      by_cases hn : e.name = d.name
      · rw [hn] at hs
        simp [hn, hs, eq_comm]
      · have hne : d ≠ e := by
          rintro rfl
          exact hn rfl
        simp [hn, hne, Ne.symm hn]

theorem mem_declareAll (s : Scope) (ds : List Definition) (e : Declaration) :
    e ∈ (declareAll s ds).1 ↔ ∃ d ∈ ds, Declaration.ofDefinition s d = .ok e := by
  induction ds with
  | nil => simp [declareAll]
  | cons d ds ih =>
    rw [declareAll]
    cases h : Declaration.ofDefinition s d with
    | ok e' => simp [h, ih, eq_comm]
    | error p => simp [h, ih]

theorem length_declareAll_le (s : Scope) (ds : List Definition) :
    (declareAll s ds).1.length ≤ ds.length := by
  induction ds with
  | nil => simp [declareAll]
  | cons d ds ih =>
    rw [declareAll]
    cases Declaration.ofDefinition s d <;> simp only [List.length_cons] <;> omega

section Generate

variable (schema : Schema) (o : Conversion.Options)

theorem mem_declared (e : Declaration) :
    e ∈ (declared schema o).1 ↔
      ∃ d, schema.get? e.name = some d ∧ Declaration.ofDefinition (scopeOf schema o) d = .ok e := by
  rw [declared, mem_declareAll]
  constructor
  · rintro ⟨d, hd, he⟩
    have hfirst := ((mem_firstOfEach [] schema.definitions d).1 hd).2
    exact ⟨d, by rw [name_ofDefinition he]; exact hfirst, he⟩
  · rintro ⟨d, hd, he⟩
    refine ⟨d, (mem_firstOfEach [] schema.definitions d).2 ⟨by simp, ?_⟩, he⟩
    rw [← name_ofDefinition he]
    exact hd

/-- A declaration mentions what it needs, and itself if it is recursive. -/
theorem mem_references_iff {e : Declaration} (he : e ∈ (declared schema o).1) (n : String) :
    n ∈ e.validator.references ↔ n ∈ e.needs ∨ n = e.name ∧ e.recursive = true := by
  obtain ⟨d, _, hok⟩ := (mem_declared schema o e).1 he
  rw [mem_references_ofDefinition hok, mem_needs_ofDefinition hok, recursive_ofDefinition hok,
    name_ofDefinition hok]
  by_cases hn : n = d.name
  · simp [hn]
  · simp [hn]

/-- What is ordered and what finds no place was declared by itself. -/
theorem ordering_subset :
    (ordering schema o).ordered ++ (ordering schema o).leftover ⊆ (declared schema o).1 := by
  intro e he
  have hmem : e ∈ (closed (declared schema o).1).1 := (order_perm _ o.passes).subset he
  exact (closed_sublist (declared schema o).1).subset hmem

theorem declarations_subset : (generate schema o).1.declarations ⊆ (declared schema o).1 :=
  fun _ he => ordering_subset schema o (List.mem_append_left _ he)

theorem declarations_inOrder : InOrder [] (generate schema o).1.declarations :=
  order_inOrder (closed (declared schema o).1).1 o.passes

theorem declarations_nodup : ((generate schema o).1.declarations.map (·.name)).Nodup := by
  rw [List.nodup_iff_count_le_one]
  intro name
  obtain ⟨rs, _, _, hcount⟩ := generate_reports schema o
  have total := hcount name
  have one := List.nodup_iff_count_le_one.1 (nodup_firstOfEach schema.definitions) name
  rw [count_map_name] at one ⊢
  omega

/-- The names of a module are closed under references, and each stands above those that refer to it. -/
theorem refers_declarations {a b : String}
    (ha : a ∈ (generate schema o).1.declarations.map (·.name)) (h : schema.Refers a b) :
    b = a ∨ b ∈ (generate schema o).1.declarations.map (·.name) ∧
      ((generate schema o).1.declarations.map (·.name)).idxOf b <
        ((generate schema o).1.declarations.map (·.name)).idxOf a := by
  obtain ⟨e, he, rfl⟩ := List.mem_map.1 ha
  obtain ⟨d, hd, hb⟩ := h
  obtain ⟨d', hd', hok⟩ := (mem_declared schema o e).1 (declarations_subset schema o he)
  rw [hd, Option.some.injEq] at hd'
  subst hd'
  by_cases hn : b = e.name
  · exact .inl hn
  · have hneed : b ∈ e.needs := by
      rw [mem_needs_ofDefinition hok, ← name_ofDefinition hok]
      exact ⟨hb, hn⟩
    have horder := declarations_inOrder schema o
    have hmem := horder.needs_mem e he b hneed
    have hidx := horder.idxOf_lt (declarations_nodup schema o) he hneed
    exact .inr ⟨hmem.resolve_left (by simp), hidx.resolve_left (by simp)⟩

theorem reaches_declarations {a b : String}
    (ha : a ∈ (generate schema o).1.declarations.map (·.name)) (h : schema.Reaches a b) :
    b ∈ (generate schema o).1.declarations.map (·.name) ∧
      (b = a ∨ ((generate schema o).1.declarations.map (·.name)).idxOf b <
        ((generate schema o).1.declarations.map (·.name)).idxOf a) := by
  induction h with
  | refl => exact ⟨ha, .inl rfl⟩
  | tail _ hstep ih =>
    rcases refers_declarations schema o ih.1 hstep with rfl | ⟨hmem, hlt⟩
    · exact ih
    · refine ⟨hmem, .inr ?_⟩
      rcases ih.2 with rfl | hle
      · exact hlt
      · omega

theorem sound_of_mem_declarations {e : Declaration} (he : e ∈ (generate schema o).1.declarations) :
    schema.Sound e.name := by
  have hname : e.name ∈ (generate schema o).1.declarations.map (·.name) := List.mem_map_of_mem he
  constructor
  · intro a ha
    obtain ⟨x, hx, rfl⟩ := List.mem_map.1 (reaches_declarations schema o hname ha).1
    obtain ⟨d, hd, hok⟩ := (mem_declared schema o x).1 (declarations_subset schema o hx)
    exact ⟨d, hd, ((ofDefinition_ok_iff _ d).1 ⟨x, hok⟩).1⟩
  · intro a b ha hab hba
    have hma := (reaches_declarations schema o hname ha).1
    have forth := reaches_declarations schema o hma hab
    have back := reaches_declarations schema o forth.1 hba
    rcases forth.2 with rfl | hlt
    · rfl
    · rcases back.2 with rfl | hgt
      · rfl
      · omega

theorem exists_declared_of_sound {name : String} (h : schema.Sound name) :
    ∃ e ∈ (declared schema o).1, e.name = name := by
  obtain ⟨d, hd, hex⟩ := h.defined name .refl
  have known : ∀ n ∈ d.references, n ∈ (scopeOf schema o).known := by
    intro n hn
    obtain ⟨d', hd', _⟩ := h.defined n (.single ⟨d, hd, hn⟩)
    exact schema.mem_of_get? hd'
  obtain ⟨e, he⟩ := (ofDefinition_ok_iff (scopeOf schema o) d).2 ⟨hex, fun n hn _ => known n hn⟩
  have hname : e.name = name := (name_ofDefinition he).trans (schema.name_of_get? hd)
  exact ⟨e, (mem_declared schema o e).2 ⟨d, by rw [hname]; exact hd, he⟩, hname⟩

theorem refers_of_mem_needs {e : Declaration} (he : e ∈ (declared schema o).1) {n : String}
    (hn : n ∈ e.needs) : schema.Refers e.name n ∧ n ≠ e.name := by
  obtain ⟨d, hd, hok⟩ := (mem_declared schema o e).1 he
  obtain ⟨href, hne⟩ := (mem_needs_ofDefinition hok n).1 hn
  exact ⟨⟨d, hd, href⟩, by rwa [name_ofDefinition hok]⟩

/-- No declaration of a sound name is dropped for its needs. -/
theorem mem_closed_of_sound {e : Declaration} (he : e ∈ (declared schema o).1)
    (h : schema.Sound e.name) : e ∈ (closed (declared schema o).1).1 := by
  classical
  have hc : IsClosed ((declared schema o).1.filter fun x => schema.Sound x.name) := by
    intro x hx n hn
    simp only [List.mem_filter, decide_eq_true_eq] at hx
    have hs : schema.Sound n := hx.2.reaches (.single (refers_of_mem_needs schema o hx.1 hn).1)
    obtain ⟨y, hy, rfl⟩ := exists_declared_of_sound schema o hs
    exact List.mem_map.2 ⟨y, by simp [hy, hs], rfl⟩
  exact subset_closed hc _ List.filter_sublist.subset (by simp [he, h])

theorem length_closed_le :
    (closed (declared schema o).1).1.length ≤ (schema.definitions.map (·.name)).toFinset.card := by
  have kept := (closed_sublist (declared schema o).1).length_le
  have names : ((firstOfEach [] schema.definitions).map (·.name)).toFinset ⊆
      (schema.definitions.map (·.name)).toFinset := by
    intro name hname
    obtain ⟨d, hd, rfl⟩ := List.mem_map.1 (List.mem_toFinset.1 hname)
    have hfind := ((mem_firstOfEach [] schema.definitions d).1 hd).2
    exact List.mem_toFinset.2 (List.mem_map_of_mem (List.mem_of_find?_eq_some hfind))
  have card := Finset.card_le_card names
  rw [List.toFinset_card_of_nodup (nodup_firstOfEach schema.definitions), List.length_map] at card
  have decl : (declared schema o).1.length ≤ _ :=
    length_declareAll_le (scopeOf schema o) (firstOfEach [] schema.definitions)
  omega

/-- With a pass for each name, a declaration that finds no place leads to a cycle. -/
theorem not_sound_of_mem_leftover
    (hp : (schema.definitions.map (·.name)).toFinset.card ≤ o.passes) {e : Declaration}
    (he : e ∈ (ordering schema o).leftover) : ¬schema.Sound e.name := by
  intro hsound
  have stuck := exists_need_of_mem_leftover _ o.passes (isClosed_closed (declared schema o).1)
    ((length_closed_le schema o).trans hp)
  have sub : (ordering schema o).leftover ⊆ (declared schema o).1 := fun x hx =>
    ordering_subset schema o (List.mem_append_right _ hx)
  have succ : ∀ a ∈ ((ordering schema o).leftover.map (·.name)).toFinset,
      ∃ b ∈ ((ordering schema o).leftover.map (·.name)).toFinset,
        schema.Refers a b ∧ b ≠ a := by
    intro a ha
    obtain ⟨x, hx, rfl⟩ := List.mem_map.1 (List.mem_toFinset.1 ha)
    obtain ⟨y, hy, hn⟩ := stuck x hx
    exact ⟨y.name, List.mem_toFinset.2 (List.mem_map_of_mem hy),
      refers_of_mem_needs schema o (sub hx) hn⟩
  obtain ⟨x, hx, hcycle⟩ := exists_cycle _ succ (List.mem_toFinset.2 (List.mem_map_of_mem he))
  obtain ⟨y, hstep, hback⟩ := TransGen.head'_iff.1 hcycle
  have forget : ∀ a b, schema.Refers a b ∧ b ≠ a → schema.Refers a b := fun _ _ h => h.1
  have reach := ReflTransGen.mono forget _ _ hx
  have back := ReflTransGen.mono forget _ _ hback
  exact hstep.2 (hsound.acyclic x y reach (.single hstep.1) back).symm

end Generate

/-- With a pass for each name, the source consists of the declarations of those first definitions of
their names that are sound, each declared once. -/
theorem declared_iff_sound (schema : Schema) (o : Conversion.Options)
    (hp : (schema.definitions.map (·.name)).toFinset.card ≤ o.passes) :
    let m := (generate schema o).1
    (convertSchema schema o).source =
      "// Generated by supazod\nimport \x7b z \x7d from \"zod\";\n" ++
        typeImport m.imported o.importPath ++ declarationLines (styleOf o) m.declarations ∧
    (m.declarations.map (·.name)).Nodup ∧
    (∀ e ∈ m.declarations, ∃ d, schema.get? e.name = some d ∧
      Declaration.ofDefinition (scopeOf schema o) d = .ok e) ∧
    ∀ d, schema.get? d.name = some d →
      ((∃ e ∈ m.declarations, Declaration.ofDefinition (scopeOf schema o) d = .ok e) ↔
        schema.Sound d.name) := by
  intro m
  refine ⟨convertSchema_source schema o, declarations_nodup schema o,
    fun e he => (mem_declared schema o e).1 (declarations_subset schema o he), ?_⟩
  intro d hd
  constructor
  · rintro ⟨e, he, hok⟩
    rw [← name_ofDefinition hok]
    exact sound_of_mem_declarations schema o he
  · intro hs
    obtain ⟨e, he, hname⟩ := exists_declared_of_sound schema o hs
    have hclosed := mem_closed_of_sound schema o he (hname ▸ hs)
    obtain ⟨d', hd', hok⟩ := (mem_declared schema o e).1 he
    rw [hname, hd, Option.some.injEq] at hd'
    subst hd'
    rcases List.mem_append.1 ((order_perm _ o.passes).mem_iff.2 hclosed) with hin | hleft
    · exact ⟨e, hin, hok⟩
    · exact absurd (hname ▸ hs) (not_sound_of_mem_leftover schema o hp hleft)

/-- A struct that refers to an alias that refers to itself, and two aliases that refer to one another. -/
def petSchema : Schema where
  definitions := [
    { name := "Owner", docs := none
      shape := .struct [{ name := "pets", type := .array (.ref "Pet"), required := true, docs := none }] },
    { name := "Pet", docs := none, shape := .alias (.union [.string, .array (.ref "Pet")]) },
    { name := "Ping", docs := none, shape := .alias (.array (.ref "Pong")) },
    { name := "Pong", docs := none, shape := .alias (.array (.ref "Ping")) }]
  syntaxErrors := []

def petOptions : Conversion.Options where
  identifier := id
  keepComments := true
  skipTags := false
  skipValidation := false
  passes := 4
  importPath := "./types"

theorem declared_iff_sound_pets :
    (petSchema.definitions.map (·.name)).toFinset.card ≤ petOptions.passes ∧
      petSchema.Sound "Owner" ∧ ¬petSchema.Sound "Ping" := by
  have hp : (petSchema.definitions.map (·.name)).toFinset.card ≤ petOptions.passes := by decide
  have names : (generate petSchema petOptions).1.declarations.map (·.name) = ["Pet", "Owner"] := by
    decide +kernel
  obtain ⟨_, _, only, iff⟩ := declared_iff_sound petSchema petOptions hp
  refine ⟨hp, ?_, ?_⟩
  · obtain ⟨e, he, hname⟩ := List.mem_map.1 (names ▸ List.mem_cons_of_mem _ List.mem_cons_self :
      "Owner" ∈ (generate petSchema petOptions).1.declarations.map (·.name))
    obtain ⟨d, hd, hok⟩ := only e he
    have hdn : d.name = "Owner" := (petSchema.name_of_get? hd).trans hname
    rw [hname] at hd
    exact hdn ▸ (iff d (hdn.symm ▸ hd)).1 ⟨e, he, hok⟩
  · intro hs
    obtain ⟨e, he, hok⟩ := (iff { name := "Ping", docs := none, shape := .alias (.array (.ref "Pong")) }
      (by simp [petSchema, Schema.get?])).2 hs
    have hmem := List.mem_map_of_mem (f := (·.name)) he
    rw [names, name_ofDefinition hok] at hmem
    simp at hmem

end SchemaGen.Zod
