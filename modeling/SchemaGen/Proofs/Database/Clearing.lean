import SchemaGen.Proofs.Database.Resolution
import SchemaGen.Proofs.Schema.Clearing

namespace SchemaGen.Database

open Syntax Schema

/-- Where notes can stand: they are named and play no part, no token and no known name has one in it, and none
stands in a literal. -/
structure Orderly (n : Node) : Prop where
  apart : n.isNote = true → n.isNamed = true ∧ n.info.fields = []
  token : n.isNamed = false ∨ n.kind ∈ tokenKinds → n.notes = []
  predefined : n.kind = "predefined_type" →
    n.notes = [] ∨ isPredefined n.text = false ∧ isPredefined n.bare.text = false
  generic : n.kind = "generic_type" → ∀ name ∈ n.field? "name",
    name.notes = [] ∨ isApplicable name.text = false ∧ isApplicable name.bare.text = false
  literal : n.kind = "literal_type" → ∀ c ∈ n.children, c.isNote = false

instance : DecidablePred Orderly := fun n =>
  decidable_of_iff
    ((n.isNote = true → n.isNamed = true ∧ n.info.fields = []) ∧
      (n.isNamed = false ∨ n.kind ∈ tokenKinds → n.notes = []) ∧
      (n.kind = "predefined_type" →
        n.notes = [] ∨ isPredefined n.text = false ∧ isPredefined n.bare.text = false) ∧
      (n.kind = "generic_type" → ∀ name ∈ n.field? "name",
        name.notes = [] ∨ isApplicable name.text = false ∧ isApplicable name.bare.text = false) ∧
      (n.kind = "literal_type" → ∀ c ∈ n.children, c.isNote = false))
    ⟨fun ⟨apart, token, predefined, generic, literal⟩ => ⟨apart, token, predefined, generic, literal⟩,
      fun h => ⟨h.apart, h.token, h.predefined, h.generic, h.literal⟩⟩

/-- Whether notes make no difference to what is a lookup and to how a number with a sign is read. -/
structure Target.Steady {α : Type} (t : Target) (number : String → α) (n : Node) : Prop where
  lookup : t.lookupOf? n.bare.info = t.lookupOf? n.info
  signed : n.kind = "unary_expression" → number n.text = number n.bare.text

variable {t : Target} {name : Lookup → String} {spell : String → String} {info : NodeInfo}
  {children : List Node}

theorem resolve_info (t : Target) (name : Lookup → String) (n : Node) (apart : Bool) :
    (t.resolve name apart n).info = n.info ∨
      t.lookupOf? n.info ≠ none ∧ ∃ l, t.resolve name apart n = nameNode n.info (name l) := by
  obtain ⟨info, children⟩ := n
  unfold Target.resolve
  split
  · next l hlookup => exact .inr ⟨by simp [Node.info, hlookup], l, rfl⟩
  · exact .inl rfl

theorem resolve_stays {apart : Bool} (h : t.lookupOf? info = none ∨ apart = true) :
    t.resolve name apart (.mk info children) =
      .mk info (t.resolveAll name (info.kind = "generic_type") children) := by
  unfold Target.resolve
  split
  · next hlookup => rcases h with h | h <;> simp_all
  · rfl

theorem kind_of_lookupOf? (h : t.lookupOf? info ≠ none) : info.kind = "lookup_type" := by
  by_contra hkind
  exact h (by rw [Target.lookupOf?, if_neg hkind])

theorem isNote_of_lookupOf? {n : Node} (h : t.lookupOf? n.info ≠ none) : n.isNote = false := by
  have hkind : n.kind = "lookup_type" := kind_of_lookupOf? h
  exact Node.isNote_of_kind (by rw [hkind]; decide)

/-- A lookup is no note, and neither is the name in its place. -/
theorem isNote_resolve (n : Node) (apart : Bool) : (t.resolve name apart n).isNote = n.isNote := by
  rcases resolve_info t name n apart with hsame | ⟨hlookup, l, hname⟩
  · exact Node.isNote_congr hsame
  · rw [isNote_of_lookupOf? hlookup, hname]
    rfl

theorem info_resolve_of_isNote {n : Node} (h : n.isNote = true) (name : Lookup → String) (apart : Bool) :
    (t.resolve name apart n).info = n.info := by
  rcases resolve_info t name n apart with hsame | ⟨hlookup, -⟩
  · exact hsame
  · rw [isNote_of_lookupOf? hlookup] at h
    cases h

theorem resolveAll_eq_map (ns : List Node) (apart : Bool) :
    t.resolveAll name apart ns = ns.map (t.resolve name apart) := by
  induction ns with
  | nil => rfl
  | cons n ns ih => rw [Target.resolveAll, ih, List.map_cons]

theorem nameNode_cleared (info : NodeInfo) (text other : String) :
    Cleared spell (nameNode info text) (nameNode { info with text := other } text) := by
  have hparts (info : NodeInfo) : ofParts (nameNode info text) = [] := by
    rw [ofParts_eq]
    rfl
  have hoperands (operator : String) (info : NodeInfo) : operands operator (nameNode info text) = [] := by
    rw [operands_eq]
    rfl
  have hmember (info : NodeInfo) : Member.ofNode (nameNode info text) = .other := by
    rw [Member.ofNode_eq]
    rfl
  refine
    { fields := rfl, kind := rfl, named := rfl, token := fun _ => rfl, signed := fun _ => rfl
      predefined := fun _ => rfl, type := ?_, parts := ?_, operands := fun operator => ?_, member := ?_ }
  · rw [ofNode_nameNode, ofNode_nameNode]
  · rw [hparts, hparts]
  · rw [hoperands, hoperands]
  · rw [hmember, hmember]

/-- A type with arguments is read alike without the notes in its name. -/
theorem name_cleared {n : Node} (horderly : Orderly n) (hbelow : ∀ c ∈ n.children, Orderly c)
    (hkind : n.kind = "generic_type") :
    AppliesAlike spell ((n.field? "name").elim "" (·.text)) ((n.bare.field? "name").elim "" (·.text)) := by
  rw [Node.field?_bare fun c hc hnote => ((hbelow c hc).apart hnote).2]
  cases hfield : n.field? "name" with
  | none => exact .refl ""
  | some c =>
    rcases horderly.generic hkind c hfield with hnotes | ⟨hbefore, hafter⟩
    · rw [Option.map_some, Option.elim_some, Option.elim_some, Node.bare_text hnotes]
      exact .refl _
    · exact .unknown hbefore hafter

theorem mk_cleared (name : Lookup → String) {n : Node} (horderly : Orderly n) (hsteady : t.Steady spell n)
    (hbelow : ∀ c ∈ n.children, Orderly c)
    (h : List.Forall₂ (Cleared spell)
      ((t.resolveAll name (n.kind = "generic_type") n.children).filter (!·.isNote))
      (t.resolveAll name (n.kind = "generic_type") n.bare.children)) :
    Cleared spell (.mk n.info (t.resolveAll name (n.kind = "generic_type") n.children))
      (.mk n.bare.info (t.resolveAll name (n.kind = "generic_type") n.bare.children)) := by
  have halike : AlikeButText spell (.mk n.info (t.resolveAll name (n.kind = "generic_type") n.children))
      (.mk n.bare.info (t.resolveAll name (n.kind = "generic_type") n.bare.children)) :=
    { fields := n.bare_fields.symm, kind := n.bare_kind.symm, named := n.bare_isNamed.symm
      token := fun htoken => (Node.bare_text (horderly.token htoken)).symm
      signed := hsteady.signed
      predefined := fun hkind => by
        rcases horderly.predefined hkind with hnotes | ⟨hbefore, hafter⟩
        · exact congrArg (fun s => (TypeExpr.predefined s).core spell) (Node.bare_text hnotes).symm
        · exact (core_predefined_unknown hbefore).trans (core_predefined_unknown hafter).symm }
  refine halike.cleared (fun hkind => ?_) (fun hkind c hc => ?_) ⟨fun c hc hnote => ?_, h⟩
  · have hname (ns : List Node) := text_find?_resolveAll (t := t) name (·.fields.contains "name") ns
    have hgeneric : decide (n.kind = "generic_type") = true := decide_eq_true hkind
    have halike : AppliesAlike spell _ _ := name_cleared horderly hbelow hkind
    rw [Node.field?, Node.field?, Node.children, Node.children, hgeneric, hname, hname]
    exact halike
  · rw [resolveAll_eq_map] at hc
    obtain ⟨c, hmem, rfl⟩ := List.mem_map.1 hc
    rw [isNote_resolve]
    exact horderly.literal hkind c hmem
  · have hc' : c ∈ t.resolveAll name (n.kind = "generic_type") n.children := hc
    rw [resolveAll_eq_map] at hc'
    obtain ⟨c, hmem, rfl⟩ := List.mem_map.1 hc'
    rw [isNote_resolve] at hnote
    have hinfo := info_resolve_of_isNote (t := t) hnote name (n.kind = "generic_type")
    rw [Node.isNamed, hinfo]
    exact (hbelow c hmem).apart hnote

mutual

theorem resolve_cleared : ∀ (n : Node) (apart : Bool),
    n.Every (fun c => Orderly c ∧ t.Steady spell c) →
      Cleared spell (t.resolve name apart n) (t.resolve name apart n.bare)
  | .mk info children, apart, hevery => by
    have hlookup : t.lookupOf? (Node.mk info children).bare.info = t.lookupOf? info := hevery.self.2.lookup
    have hbelow : ∀ c ∈ children, Orderly c := fun c hc => (hevery.below hc).self.1
    have hmk := mk_cleared name hevery.self.1 hevery.self.2 hbelow
      (resolveAll_cleared children (info.kind = "generic_type") hevery.2)
    by_cases hstays : t.lookupOf? info = none ∨ apart = true
    · have hstays' : t.lookupOf? (Node.mk info children).bare.info = none ∨ apart = true := by rwa [hlookup]
      have hbare : t.resolve name apart (Node.mk info children).bare = _ := resolve_stays hstays'
      rw [resolve_stays hstays, hbare]
      exact hmk
    · rw [not_or, ← ne_eq, Option.ne_none_iff_exists', Bool.not_eq_true] at hstays
      obtain ⟨⟨l, hl⟩, rfl⟩ := hstays
      have hfound : t.lookupOf? (Node.mk info children).info = some l := hl
      rw [Target.resolve_lookup hfound, Target.resolve_lookup (hlookup.trans hl)]
      exact nameNode_cleared info (name l) _

theorem resolveAll_cleared : ∀ (ns : List Node) (apart : Bool),
    Node.EveryAll (fun c => Orderly c ∧ t.Steady spell c) ns →
      List.Forall₂ (Cleared spell) ((t.resolveAll name apart ns).filter (!·.isNote))
        (t.resolveAll name apart (Node.bareAll ns))
  | [], _, _ => .nil
  | n :: ns, apart, hevery => by
    have hrest := resolveAll_cleared ns apart hevery.2
    rw [Target.resolveAll, Node.bareAll, List.filter_cons, isNote_resolve]
    cases hnote : n.isNote with
    | true => exact hrest
    | false => exact .cons (resolve_cleared n apart hevery.1) hrest

end

end SchemaGen.Database
