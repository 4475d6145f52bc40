import SchemaGen.Proofs.Schema.Core
import SchemaGen.Proofs.Schema.Note

namespace SchemaGen.Schema

open Syntax

/-- Kinds of nodes whose text is a single token. -/
def tokenKinds : List String :=
  ["comment", "property_identifier", "number", "string", "type_identifier"]

/-- Two nodes that differ at most in their text, where that is no single token, and in what stands below
them. -/
structure AlikeButText (spell : String → String) (a b : Node) : Prop where
  fields : a.info.fields = b.info.fields
  kind : a.kind = b.kind
  named : a.isNamed = b.isNamed
  token : a.isNamed = false ∨ a.kind ∈ tokenKinds → a.text = b.text
  signed : a.kind = "unary_expression" → spell a.text = spell b.text
  predefined : a.kind = "predefined_type" →
    (TypeExpr.predefined a.text).core spell = (TypeExpr.predefined b.text).core spell

/-- What is read of one tree is what is read of another, which lacks the notes of the first. -/
structure Cleared (spell : String → String) (a b : Node) : Prop extends AlikeButText spell a b where
  type : (TypeExpr.ofNode a).core spell = (TypeExpr.ofNode b).core spell
  parts : (ofParts a).map (·.core spell) = (ofParts b).map (·.core spell)
  operands (operator : String) :
    (operands operator a).map (·.core spell) = (operands operator b).map (·.core spell)
  member : (Member.ofNode a).core? spell = (Member.ofNode b).core? spell

variable {spell : String → String} {a b : Node} {cs ds : List Node}

theorem Cleared.sameForm (a b : Node) (h : Cleared spell a b) : SameForm a b :=
  ⟨h.fields, h.kind, h.named, fun htoken => h.token (.inl htoken)⟩

theorem ofFirstPart_core (hparts : (ofParts a).map (·.core spell) = (ofParts b).map (·.core spell)) :
    (ofFirstPart a).core spell = (ofFirstPart b).core spell := by
  rw [ofParts_eq, ofParts_eq] at hparts
  rw [ofFirstPart_eq, ofFirstPart_eq]
  cases ha : a.parts <;> cases hb : b.parts <;> simp_all

/-! ### Notes are skipped -/

section Skip

/-- Notes are named and play no part. -/
def NotesApart (cs : List Node) : Prop := ∀ c ∈ cs, c.isNote = true → c.isNamed = true ∧ c.info.fields = []

theorem parts_skip (cs : List Node) :
    ((cs.filter (!·.isNote)).filter (·.isNamed)).filter (!·.isComment) =
      (cs.filter (·.isNamed)).filter (!·.isComment) := by
  rw [List.filter_filter, List.filter_filter, List.filter_filter]
  refine List.filter_congr fun c _ => ?_
  cases hnote : c.isNote with
  | false => simp
  | true => simp [Node.isComment_of_isNote hnote]

theorem find?_skip (h : NotesApart cs) (field : String) :
    (cs.filter (!·.isNote)).find? (·.info.fields.contains field) =
      cs.find? (·.info.fields.contains field) :=
  Node.find?_filter_isNote fun c hc hnote => by rw [(h c hc hnote).2]; rfl

theorem any_mark_skip (h : NotesApart cs) :
    ((cs.filter (!·.isNote)).any fun c => !c.isNamed && c.text = "?") =
      cs.any fun c => !c.isNamed && c.text = "?" := by
  induction cs with
  | nil => rfl
  | cons c cs ih =>
    obtain ⟨hc, hcs⟩ := List.forall_mem_cons.1 h
    rw [List.filter_cons, List.any_cons, ← ih hcs]
    cases hnote : c.isNote with
    | false => rfl
    | true => simp [(hc hnote).1]

theorem core?_of_isNote {c : Node} (h : c.isNote = true) : (Member.ofNode c).core? spell = none := by
  have hkind : c.kind = "comment" := by simpa [Node.isComment] using Node.isComment_of_isNote h
  rw [Member.ofNode_eq, hkind]
  rfl

theorem members_skip (cs : List Node) :
    ((cs.filter (!·.isNote)).filter (·.isNamed)).filterMap (fun c => (Member.ofNode c).core? spell) =
      (cs.filter (·.isNamed)).filterMap fun c => (Member.ofNode c).core? spell := by
  induction cs with
  | nil => rfl
  | cons c cs ih =>
    cases hnote : c.isNote with
    | false =>
      rw [List.filter_cons_of_pos (by simp [hnote]), List.filter_cons, List.filter_cons]
      cases c.isNamed with
      | false => exact ih
      | true => rw [if_pos rfl, if_pos rfl, List.filterMap_cons, List.filterMap_cons, ih]
    | true =>
      rw [List.filter_cons_of_neg (by simp [hnote]), ih, List.filter_cons]
      cases c.isNamed with
      | false => rfl
      | true => rw [if_pos rfl, List.filterMap_cons, core?_of_isNote hnote]

end Skip

/-! ### Lists that are read alike -/

section Lists

variable (h : List.Forall₂ (Cleared spell) cs ds)

include h

theorem members_cleared : cs.filterMap (fun c => (Member.ofNode c).core? spell) =
    ds.filterMap fun d => (Member.ofNode d).core? spell := by
  induction h with
  | nil => rfl
  | cons hcd _ ih => rw [List.filterMap_cons, List.filterMap_cons, ih, hcd.member]

theorem map_ofNode_cleared :
    (cs.map TypeExpr.ofNode).map (·.core spell) = (ds.map TypeExpr.ofNode).map (·.core spell) := by
  induction h with
  | nil => rfl
  | cons hcd _ ih => rw [List.map_cons, List.map_cons, List.map_cons, List.map_cons, ih, hcd.type]

theorem flatMap_operands_cleared (operator : String) :
    (cs.flatMap fun c => if c.kind = operator then operands operator c else [TypeExpr.ofNode c]).map
        (·.core spell) =
      (ds.flatMap fun d => if d.kind = operator then operands operator d else [TypeExpr.ofNode d]).map
        (·.core spell) := by
  induction h with
  | nil => rfl
  | cons hcd _ ih =>
    rw [List.flatMap_cons, List.flatMap_cons, List.map_append, List.map_append, ih, hcd.kind]
    congr 1
    split_ifs
    · exact hcd.operands operator
    · rw [List.map_singleton, List.map_singleton, hcd.type]

end Lists

/-! ### Parts that are read alike -/

section Parts

variable {c d : Option Node} (h : Option.Rel (Cleared spell) c d)

include h

theorem elim_firstPart_cleared :
    (c.elim .any ofFirstPart).core spell = (d.elim .any ofFirstPart).core spell := by
  cases h with
  | none => rfl
  | some hcd => exact ofFirstPart_core hcd.parts

theorem elim_ofParts_cleared :
    (c.elim [] ofParts).map (·.core spell) = (d.elim [] ofParts).map (·.core spell) := by
  cases h with
  | none => rfl
  | some hcd => exact hcd.parts

theorem propertyName?_cleared : c.bind propertyName? = d.bind propertyName? := by
  cases h with
  | none => rfl
  | @some c d hcd =>
    have htext (hkind : d.kind ∈ tokenKinds) : c.text = d.text := hcd.token (.inr (hcd.kind ▸ hkind))
    rw [Option.bind_some, Option.bind_some, propertyName?, propertyName?, hcd.kind]
    by_cases hbare : d.kind = "property_identifier" ∨ d.kind = "number"
    · have hkind : d.kind ∈ tokenKinds := by rcases hbare with hkind | hkind <;> simp [tokenKinds, hkind]
      rw [htext hkind]
    · by_cases hstring : d.kind = "string"
      · rw [htext (by simp [tokenKinds, hstring])]
      · simp [hbare, hstring]

end Parts

/-! ### Nodes -/

/-- What is below two nodes is read alike, notes below the first apart. -/
structure ClearedBelow (spell : String → String) (a b : Node) : Prop where
  apart : NotesApart a.children
  each : List.Forall₂ (Cleared spell) (a.children.filter (!·.isNote)) b.children

section Below

variable (h : ClearedBelow spell a b)

include h

theorem parts_cleared : List.Forall₂ (Cleared spell) a.parts b.parts := by
  have hparts := forall₂_meaningful Cleared.sameForm (forall₂_named Cleared.sameForm h.each)
  rwa [parts_skip] at hparts

theorem field?_cleared (field : String) :
    Option.Rel (Cleared spell) (a.field? field) (b.field? field) := by
  have hfound := rel_find? Cleared.sameForm h.each field
  rwa [find?_skip h.apart] at hfound

theorem ofParts_cleared : (ofParts a).map (·.core spell) = (ofParts b).map (·.core spell) := by
  rw [ofParts_eq, ofParts_eq]
  exact map_ofNode_cleared (parts_cleared h)

theorem operands_cleared (operator : String) :
    (operands operator a).map (·.core spell) = (operands operator b).map (·.core spell) := by
  rw [operands_eq operator a, operands_eq operator b]
  exact flatMap_operands_cleared (parts_cleared h) operator

theorem ofBody_cleared : (ofBody a).core spell = (ofBody b).core spell := by
  have hmembers := members_cleared (forall₂_named Cleared.sameForm h.each)
  rw [members_skip] at hmembers
  rw [ofBody_eq, ofBody_eq, ofMembers_core, ofMembers_core, List.filterMap_map, List.filterMap_map]
  exact congrArg _ hmembers

theorem isOptional_cleared : isOptional a = isOptional b := by
  have hmark := any_mark_eq Cleared.sameForm h.each
  rwa [any_mark_skip h.apart] at hmark

/-- A literal is read from its first node, which is no note. -/
theorem literal_cleared (hnote : ∀ c ∈ a.children, c.isNote = false) :
    (TypeExpr.literal a).core spell = (TypeExpr.literal b).core spell := by
  have hall : a.children.filter (!·.isNote) = a.children :=
    List.filter_eq_self.2 fun c hc => by simp [hnote c hc]
  have hnamed : List.Forall₂ (Cleared spell) a.namedChildren b.namedChildren := by
    have heach := forall₂_named Cleared.sameForm h.each
    rwa [hall] at heach
  unfold TypeExpr.literal
  generalize a.namedChildren = cs at hnamed
  generalize b.namedChildren = ds at hnamed
  cases hnamed with
  | nil => rfl
  | @cons c d _ _ hcd _ =>
    dsimp only
    have htext (hkind : d.kind ∈ tokenKinds) : c.text = d.text := hcd.token (.inr (hcd.kind ▸ hkind))
    have hsigned := hcd.signed
    rw [hcd.kind] at hsigned ⊢
    generalize d.kind = kind at htext hsigned
    split
    · rw [htext (by decide)]
    · rw [htext (by decide)]
    · rw [TypeExpr.core, TypeExpr.core, hsigned rfl]
    all_goals rfl

theorem indexOf_cleared : (indexOf a).core? spell = (indexOf b).core? spell := by
  have hkey : Option.Rel (Cleared spell) ((a.field? "index_type").or a.parts[1]?)
      ((b.field? "index_type").or b.parts[1]?) :=
    rel_or (field?_cleared h "index_type") (rel_second (parts_cleared h))
  have htype := elim_firstPart_cleared (field?_cleared h "type")
  have hmapped := any_kind_eq Cleared.sameForm (parts_cleared h) fun k => k = "mapped_type_clause"
  rw [indexOf_eq a, indexOf_eq b, hmapped]
  split_ifs
  · rfl
  · generalize (a.field? "index_type").or a.parts[1]? = c at hkey
    generalize (b.field? "index_type").or b.parts[1]? = d at hkey
    cases hkey with
    | none => rfl
    | some hcd => exact core?_indexed hcd.type htype

end Below

/-- The type of a node is read alike if its names are, and no note stands in a literal. -/
theorem ofNode_cleared (halike : AlikeButText spell a b)
    (hgeneric : a.kind = "generic_type" →
      AppliesAlike spell ((a.field? "name").elim "" (·.text)) ((b.field? "name").elim "" (·.text)))
    (hliteral : a.kind = "literal_type" → ∀ c ∈ a.children, c.isNote = false)
    (h : ClearedBelow spell a b) : (TypeExpr.ofNode a).core spell = (TypeExpr.ofNode b).core spell := by
  have hparts := ofParts_cleared h
  have hfirst := ofFirstPart_core hparts
  have hidentifier (hkind : a.kind = "type_identifier") : a.text = b.text :=
    halike.token (.inr (hkind ▸ by decide))
  have hpredefined := halike.predefined
  rw [TypeExpr.ofNode_eq a, TypeExpr.ofNode_eq b]
  rw [halike.kind] at hgeneric hliteral hidentifier hpredefined ⊢
  generalize b.kind = kind at hgeneric hliteral hidentifier hpredefined
  split
  · exact hpredefined rfl
  · rw [hidentifier rfl]
  · rw [TypeExpr.core, TypeExpr.core, coreAll_eq_map, coreAll_eq_map, operands_cleared h]
  · rw [TypeExpr.core, TypeExpr.core, coreAll_eq_map, coreAll_eq_map, operands_cleared h]
  · rw [TypeExpr.core, TypeExpr.core, hfirst]
  · exact hfirst
  · exact hfirst
  · exact hgeneric rfl _ _ (elim_ofParts_cleared (field?_cleared h "type_arguments"))
  · exact literal_cleared h (hliteral rfl)
  · have hrest := any_kind_eq Cleared.sameForm (parts_cleared h) fun k =>
      k = "optional_type" || k = "rest_type"
    rw [hrest]
    split_ifs
    · rfl
    · rw [TypeExpr.core, TypeExpr.core, coreAll_eq_map, coreAll_eq_map, hparts]
  · exact ofBody_cleared h
  all_goals rfl

theorem member_cleared (halike : AlikeButText spell a b) (h : ClearedBelow spell a b) :
    (Member.ofNode a).core? spell = (Member.ofNode b).core? spell := by
  have hname := propertyName?_cleared (field?_cleared h "name")
  have htype := elim_firstPart_cleared (field?_cleared h "type")
  rw [Member.ofNode_eq a, Member.ofNode_eq b, halike.kind, hname, isOptional_cleared h]
  split
  · rfl
  · cases (b.field? "name").bind propertyName? with
    | none => rfl
    | some name => simp only [Member.core?, htype]
  · exact indexOf_cleared h
  all_goals rfl

theorem AlikeButText.cleared (halike : AlikeButText spell a b)
    (hgeneric : a.kind = "generic_type" →
      AppliesAlike spell ((a.field? "name").elim "" (·.text)) ((b.field? "name").elim "" (·.text)))
    (hliteral : a.kind = "literal_type" → ∀ c ∈ a.children, c.isNote = false)
    (h : ClearedBelow spell a b) : Cleared spell a b where
  toAlikeButText := halike
  type := ofNode_cleared halike hgeneric hliteral h
  parts := ofParts_cleared h
  operands := operands_cleared h
  member := member_cleared halike h

end SchemaGen.Schema
