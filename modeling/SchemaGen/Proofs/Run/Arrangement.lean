import SchemaGen.Proofs.Entity.Gathering
import SchemaGen.Proofs.Naming
import SchemaGen.Proofs.Zod.Emission

namespace SchemaGen.Run

open Zod

/-- Each declaration mentions validators that are declared above it, or its own inside a wrapper. -/
def DeclaredBeforeUse (identifier : String → String) (above : List String) :
    List Declaration → Prop
  | [] => True
  | d :: ds =>
    (∀ m ∈ d.validator.references,
      identifier m ∈ above ∨ identifier m = identifier d.name ∧ d.recursive = true) ∧
    DeclaredBeforeUse identifier (identifier d.name :: above) ds

section DeclaredBeforeUse

variable {identifier : String → String}

theorem declaredBeforeUse_append {above : List String} {ds es : List Declaration} :
    DeclaredBeforeUse identifier above (ds ++ es) ↔
      DeclaredBeforeUse identifier above ds ∧
        DeclaredBeforeUse identifier ((ds.map fun d => identifier d.name).reverse ++ above) es := by
  induction ds generalizing above with
  | nil => simp [DeclaredBeforeUse]
  | cons d ds ih =>
    simp [DeclaredBeforeUse, ih, and_assoc]

/-- Whatever is mentioned has the identifier of something above or of something declared. -/
theorem DeclaredBeforeUse.mem {above : List String} {ds : List Declaration}
    (h : DeclaredBeforeUse identifier above ds) {d : Declaration} (hd : d ∈ ds) {m : String}
    (hm : m ∈ d.validator.references) :
    identifier m ∈ above ∨ ∃ e ∈ ds, identifier m = identifier e.name := by
  induction ds generalizing above with
  | nil => simp at hd
  | cons e ds ih =>
    rcases List.mem_cons.1 hd with rfl | hd
    · rcases h.1 m hm with ha | ⟨heq, _⟩
      · exact .inl ha
      · exact .inr ⟨d, List.mem_cons_self, heq⟩
    · rcases ih h.2 hd with ha | ⟨x, hx, heq⟩
      · rcases List.mem_cons.1 ha with heq | ha
        · exact .inr ⟨e, List.mem_cons_self, heq⟩
        · exact .inl ha
      · exact .inr ⟨x, List.mem_cons_of_mem _ hx, heq⟩

end DeclaredBeforeUse

section Arrangement

variable (n : Naming)

/-- The declarations that are kept: the first of each identifier behind those seen, if it has a mark
and a name. -/
def kept (seen : List String) : List Declaration → List Declaration
  | [] => []
  | d :: ds =>
    if pascal d.name = "" ∨ n.schemaName d.name ∈ seen then kept seen ds
    else d :: kept (n.schemaName d.name :: seen) ds

/-- The declarations in the order in which they are written: that of `Json` comes first. -/
def arranged (ds : List Declaration) : List Declaration :=
  ((kept n [] ds).find? fun d => n.schemaName d.name = n.schemaName "Json").toList ++
    (kept n [] ds).filter fun d => n.schemaName d.name ≠ n.schemaName "Json"

/-- Declarations with different identifiers, each below those that it needs and that have a name. -/
def Settled (above : List String) : List Declaration → Prop
  | [] => True
  | d :: ds =>
    (pascal d.name ≠ "" ∧ n.schemaName d.name ∉ above ∧
      ∀ m ∈ d.needs, pascal m ≠ "" → n.schemaName m ∈ above) ∧
    Settled (n.schemaName d.name :: above) ds

section Kept

variable {n} {seen : List String} {d : Declaration} {ds : List Declaration}

theorem kept_cons_of_dropped (h : pascal d.name = "" ∨ n.schemaName d.name ∈ seen) :
    kept n seen (d :: ds) = kept n seen ds := if_pos h

theorem kept_cons_of_kept (h : ¬(pascal d.name = "" ∨ n.schemaName d.name ∈ seen)) :
    kept n seen (d :: ds) = d :: kept n (n.schemaName d.name :: seen) ds := if_neg h

end Kept

theorem settled_kept {names seen : List String} {ds : List Declaration} (h : InOrder names ds)
    (hs : ∀ m ∈ names, pascal m ≠ "" → n.schemaName m ∈ seen) : Settled n seen (kept n seen ds) := by
  induction ds generalizing names seen with
  | nil => exact True.intro
  | cons d ds ih =>
    obtain hd | hd := Classical.em (pascal d.name = "" ∨ n.schemaName d.name ∈ seen)
    · rw [kept_cons_of_dropped hd]
      refine ih h.2 fun m hm hp => ?_
      rcases List.mem_cons.1 hm with rfl | hm
      · exact hd.resolve_left hp
      · exact hs m hm hp
    · rw [kept_cons_of_kept hd]
      rw [not_or] at hd
      refine ⟨⟨hd.1, hd.2, fun m hm => hs m (h.1 m hm)⟩, ih h.2 fun m hm hp => ?_⟩
      rcases List.mem_cons.1 hm with rfl | hm
      · exact List.mem_cons_self
      · exact List.mem_cons_of_mem _ (hs m hm hp)

theorem kept_sublist (seen : List String) (ds : List Declaration) : (kept n seen ds).Sublist ds := by
  induction ds generalizing seen with
  | nil => exact .slnil
  | cons d ds ih =>
    obtain hd | hd := Classical.em (pascal d.name = "" ∨ n.schemaName d.name ∈ seen)
    · rw [kept_cons_of_dropped hd]
      exact (ih seen).cons d
    · rw [kept_cons_of_kept hd]
      exact (ih _).cons_cons d

variable {n}

theorem Settled.pascal_ne {above : List String} {ds : List Declaration} (h : Settled n above ds)
    {d : Declaration} (hd : d ∈ ds) : pascal d.name ≠ "" := by
  induction ds generalizing above with
  | nil => simp at hd
  | cons e ds ih =>
    rcases List.mem_cons.1 hd with rfl | hd
    · exact h.1.1
    · exact ih h.2 hd

theorem Settled.needs_ne {above : List String} {ds : List Declaration} (h : Settled n above ds)
    {d : Declaration} (hd : d ∈ ds) {m : String} (hm : m ∈ d.needs) :
    n.schemaName m ≠ n.schemaName d.name := by
  induction ds generalizing above with
  | nil => simp at hd
  | cons e ds ih =>
    rcases List.mem_cons.1 hd with rfl | hd
    · intro heq
      have hp : pascal m ≠ "" := by
        rw [(n.schemaName_eq_iff m d.name).1 heq]
        exact h.1.1
      exact h.1.2.1 (heq ▸ h.1.2.2 m hm hp)
    · exact ih h.2 hd

theorem mem_arranged {ds : List Declaration} {d : Declaration} :
    d ∈ arranged n ds → d ∈ kept n [] ds := by
  intro hd
  rcases List.mem_append.1 hd with hd | hd
  · exact List.mem_of_find?_eq_some (Option.mem_toList.1 hd)
  · exact (List.mem_filter.1 hd).1

/-- The declaration that is written for `Json` is the one that was found. -/
theorem find?_of_mem_arranged {ds : List Declaration} {d : Declaration} (hd : d ∈ arranged n ds)
    (hj : n.schemaName d.name = n.schemaName "Json") :
    (kept n [] ds).find? (fun e => n.schemaName e.name = n.schemaName "Json") = some d := by
  rcases List.mem_append.1 hd with hd | hd
  · exact Option.mem_toList.1 hd
  · exact absurd hj (by simpa using (List.mem_filter.1 hd).2)

/-- The declarations other than that of one identifier stay below those that they mention. -/
theorem declaredBeforeUse_others (first : String) {above written : List String} {ds : List Declaration}
    (h : Settled n above ds) (hs : above ⊆ written)
    (hj : ∀ d ∈ ds, n.schemaName d.name = first → first ∈ written)
    (hn : ∀ d ∈ ds, n.schemaName d.name ≠ first → ∀ m ∈ d.needs, pascal m ≠ "")
    (hr : ∀ d ∈ ds, ∀ m ∈ d.validator.references, m ∈ d.needs ∨ m = d.name ∧ d.recursive = true) :
    DeclaredBeforeUse n.schemaName written
      (ds.filter fun d => n.schemaName d.name ≠ first) := by
  induction ds generalizing above written with
  | nil => trivial
  | cons d ds ih =>
    rw [List.forall_mem_cons] at hj hn hr
    by_cases hd : n.schemaName d.name = first
    · rw [List.filter_cons_of_neg (by simpa using hd)]
      refine ih h.2 ?_ hj.2 hn.2 hr.2
      have hmem : n.schemaName d.name ∈ written := by
        rw [hd]
        exact hj.1 hd
      exact List.cons_subset.2 ⟨hmem, hs⟩
    · rw [List.filter_cons_of_pos (by simpa using hd)]
      refine ⟨fun m hm => ?_, ih h.2 (List.cons_subset_cons _ hs) ?_ hn.2 hr.2⟩
      · rcases hr.1 m hm with hm | ⟨rfl, hrec⟩
        · exact .inl (hs (h.1.2.2 m hm (hn.1 hd m hm)))
        · exact .inr ⟨rfl, hrec⟩
      · exact fun e he heq => List.mem_cons_of_mem _ (hj.2 e he heq)

/-- The written order is right exactly if nothing is needed that has no name, and `Json` needs nothing. -/
theorem declaredBeforeUse_arranged_iff {ds : List Declaration} (h : InOrder [] ds)
    (hr : ∀ d ∈ ds, ∀ m, m ∈ d.validator.references ↔
      m ∈ d.needs ∨ m = d.name ∧ d.recursive = true) :
    DeclaredBeforeUse n.schemaName [] (arranged n ds) ↔
      (∀ d ∈ arranged n ds, ∀ m ∈ d.needs, pascal m ≠ "") ∧
      ∀ d ∈ arranged n ds, n.schemaName d.name = n.schemaName "Json" → d.needs = [] := by
  have hset : Settled n [] (kept n [] ds) := settled_kept n h (by simp)
  have hkept := (kept_sublist n [] ds).subset
  constructor
  · intro hu
    constructor
    · intro d hd m hm
      have href := (hr d (hkept (mem_arranged hd)) m).2 (.inl hm)
      obtain ⟨e, he, heq⟩ := (hu.mem hd href).resolve_left (by simp)
      rw [(n.schemaName_eq_iff m e.name).1 heq]
      exact hset.pascal_ne (mem_arranged he)
    · intro d hd hj
      rw [arranged, find?_of_mem_arranged hd hj] at hu
      rw [List.eq_nil_iff_forall_not_mem]
      intro m hm
      have href := (hr d (hkept (mem_arranged hd)) m).2 (.inl hm)
      obtain ⟨heq, _⟩ := (hu.1 m href).resolve_left (by simp)
      exact hset.needs_ne (mem_arranged hd) hm heq
  · rintro ⟨hn, hj⟩
    rw [arranged, declaredBeforeUse_append]
    constructor
    · cases hfind : (kept n [] ds).find? fun d => n.schemaName d.name = n.schemaName "Json" with
      | none => trivial
      | some d =>
        have hd : d ∈ arranged n ds := List.mem_append_left _ (by simp [hfind])
        have hnil := hj d hd (by simpa using List.find?_some hfind)
        refine ⟨fun m hm => ?_, trivial⟩
        rcases (hr d (hkept (mem_arranged hd)) m).1 hm with hm | ⟨rfl, hrec⟩
        · simp [hnil] at hm
        · exact .inr ⟨rfl, hrec⟩
    · refine declaredBeforeUse_others (n.schemaName "Json") hset (by simp) ?_ ?_ ?_
      · intro d hd heq
        obtain ⟨e, he⟩ := Option.isSome_iff_exists.1
          (List.find?_isSome.2 ⟨d, hd, by simpa using heq⟩ :
            ((kept n [] ds).find? fun d => n.schemaName d.name = n.schemaName "Json").isSome)
        have hname : n.schemaName e.name = n.schemaName "Json" := by
          simpa using List.find?_some he
        simp [he, hname]
      · intro d hd hne
        exact hn d (List.mem_append_right _ (List.mem_filter.2 ⟨hd, by simpa using hne⟩))
      · exact fun d hd m hm => (hr d (hkept hd) m).1 hm

end Arrangement

end SchemaGen.Run
