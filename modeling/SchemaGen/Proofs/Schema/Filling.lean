import Mathlib.Tactic.SplitIfs
import SchemaGen.Proofs.Schema.Reading
import SchemaGen.Proofs.Syntax.Form

namespace SchemaGen.Schema

open Syntax

structure Filling where
  hole : String
  type : TypeExpr

mutual

def TypeExpr.fill (φ : Filling) : TypeExpr → TypeExpr
  | .ref name => if name = φ.hole then φ.type else .ref name
  | .array item => .array (item.fill φ)
  | .tuple items => .tuple (fillAll φ items)
  | .record key value => .record (key.fill φ) (value.fill φ)
  | .object fields index =>
    match index with
    | some t => .object (fillFields φ fields) (some (t.fill φ))
    | none => .object (fillFields φ fields) none
  | .union members => .union (fillAll φ members)
  | .intersection members => .intersection (fillAll φ members)
  | other => other

def fillAll (φ : Filling) : List TypeExpr → List TypeExpr
  | [] => []
  | t :: ts => t.fill φ :: fillAll φ ts

def fillFields (φ : Filling) : List (Field TypeExpr) → List (Field TypeExpr)
  | [] => []
  | f :: fs => { f with type := f.type.fill φ } :: fillFields φ fs

end

variable {φ : Filling}

theorem fillAll_eq_map (ts : List TypeExpr) : fillAll φ ts = ts.map (·.fill φ) := by
  induction ts with
  | nil => rfl
  | cons t ts ih => rw [fillAll, ih, List.map_cons]

theorem fillFields_append (fs gs : List (Field TypeExpr)) :
    fillFields φ (fs ++ gs) = fillFields φ fs ++ fillFields φ gs := by
  induction fs with
  | nil => rfl
  | cons f fs ih => rw [List.cons_append, fillFields, ih, fillFields, List.cons_append]

theorem named_fill {name : String} (h : name ≠ φ.hole) :
    (TypeExpr.named name).fill φ = .named name := by
  unfold TypeExpr.named
  split
  · rfl
  · rfl
  · rw [TypeExpr.fill, if_neg h]

theorem predefined_fill (name : String) :
    (TypeExpr.predefined name).fill φ = .predefined name := by
  unfold TypeExpr.predefined
  split <;> rfl

theorem literal_fill (n : Node) : (TypeExpr.literal n).fill φ = .literal n := by
  unfold TypeExpr.literal
  split
  · rfl
  · split <;> rfl

theorem applied_fill (name : String) (arguments : List TypeExpr) :
    (TypeExpr.applied name arguments).fill φ = .applied name (arguments.map (·.fill φ)) := by
  unfold TypeExpr.applied
  split
  · cases arguments <;> rfl
  · cases arguments <;> rfl
  · rcases arguments with _ | ⟨key, _ | ⟨value, rest⟩⟩ <;> rfl
  · cases arguments <;> rfl
  · rfl

section Members

def Member.fill (φ : Filling) : Member → Member
  | .property f => .property { f with type := f.type.fill φ }
  | .index t => .index (t.fill φ)
  | .comment doc => .comment doc
  | .unsupported what => .unsupported what
  | .other => .other

def Body.fill (φ : Filling) (b : Body) : Body :=
  ⟨fillFields φ b.fields, b.index.map (·.fill φ), b.pending⟩

theorem add_fill (b : Body) (m : Member) :
    (b.fill φ).add (m.fill φ) = (b.add m).map (·.fill φ) := by
  cases m with
  | property f =>
    have hfields := fillFields_append (φ := φ) b.fields [{ f with docs := b.pending }]
    simp [Body.add, Body.fill, Member.fill, Except.map, hfields, fillFields]
  | comment doc => rfl
  | index t => rfl
  | unsupported what => rfl
  | other => rfl

theorem foldlM_fill (b : Body) (ms : List Member) :
    (ms.map (·.fill φ)).foldlM Body.add (b.fill φ) =
      (ms.foldlM Body.add b).map (·.fill φ) := by
  induction ms generalizing b with
  | nil => rfl
  | cons m ms ih =>
    rw [List.map_cons, List.foldlM_cons, List.foldlM_cons, add_fill]
    cases b.add m with
    | error what => rfl
    | ok c => exact ih c

theorem toType_fill (b : Body) : (b.fill φ).toType = b.toType.fill φ := by
  obtain ⟨fields, index, pending⟩ := b
  cases fields <;> cases index <;> rfl

theorem ofMembers_fill (ms : List Member) :
    TypeExpr.ofMembers (ms.map (·.fill φ)) = (TypeExpr.ofMembers ms).fill φ := by
  have hstart : Body.fill φ ⟨[], none, none⟩ = ⟨[], none, none⟩ := rfl
  have hfold := foldlM_fill (φ := φ) ⟨[], none, none⟩ ms
  rw [hstart] at hfold
  unfold TypeExpr.ofMembers
  rw [hfold]
  cases ms.foldlM Body.add ⟨[], none, none⟩ with
  | error what => rfl
  | ok body => exact toType_fill body

end Members

section Trees

/-- Two nodes that differ at most in the text of a name of a type, and in what stands below them. -/
structure Alike (a b : Node) : Prop where
  fields : a.info.fields = b.info.fields
  kind : a.kind = b.kind
  named : a.isNamed = b.isNamed
  text : a.kind ≠ "type_identifier" → a.text = b.text
  token : a.isNamed = false → a.text = b.text

/-- What is read of one tree is what is read of another with a hole in it. -/
structure Filled (φ : Filling) (a b : Node) : Prop extends Alike a b where
  type : TypeExpr.ofNode a = (TypeExpr.ofNode b).fill φ
  parts : ofParts a = (ofParts b).map (·.fill φ)
  operands (operator : String) (h : operator ≠ "type_identifier") :
    operands operator a = (operands operator b).map (·.fill φ)
  member : Member.ofNode a = (Member.ofNode b).fill φ

variable {a b : Node}

theorem Filled.sameForm (a b : Node) (h : Filled φ a b) : SameForm a b := ⟨h.fields, h.kind, h.named, h.token⟩

theorem ofFirstPart_fill (hparts : ofParts a = (ofParts b).map (·.fill φ)) :
    ofFirstPart a = (ofFirstPart b).fill φ := by
  rw [ofParts_eq, ofParts_eq] at hparts
  rw [ofFirstPart_eq, ofFirstPart_eq]
  cases ha : a.parts <;> cases hb : b.parts <;> simp_all [TypeExpr.fill]

section Lists

variable {cs ds : List Node} (h : List.Forall₂ (Filled φ) cs ds)

include h

theorem map_ofNode_filled :
    cs.map TypeExpr.ofNode = (ds.map TypeExpr.ofNode).map (·.fill φ) := by
  induction h with
  | nil => rfl
  | cons hcd _ ih => rw [List.map_cons, List.map_cons, List.map_cons, ih, hcd.type]

theorem map_member_filled : cs.map Member.ofNode = (ds.map Member.ofNode).map (·.fill φ) := by
  induction h with
  | nil => rfl
  | cons hcd _ ih => rw [List.map_cons, List.map_cons, List.map_cons, ih, hcd.member]

theorem flatMap_operands_filled {operator : String} (hne : operator ≠ "type_identifier") :
    (cs.flatMap fun c => if c.kind = operator then operands operator c else [TypeExpr.ofNode c]) =
      (ds.flatMap fun d => if d.kind = operator then operands operator d
        else [TypeExpr.ofNode d]).map (·.fill φ) := by
  induction h with
  | nil => rfl
  | cons hcd _ ih =>
    rw [List.flatMap_cons, List.flatMap_cons, List.map_append, ih, hcd.kind, hcd.type,
      hcd.operands operator hne]
    split_ifs <;> rfl

end Lists

section Parts

variable {c d : Option Node} (h : Option.Rel (Filled φ) c d)

include h

theorem elim_firstPart_filled :
    c.elim .any ofFirstPart = (d.elim .any ofFirstPart).fill φ := by
  cases h with
  | none => rfl
  | some hcd => exact ofFirstPart_fill hcd.parts

theorem elim_ofParts_filled : c.elim [] ofParts = (d.elim [] ofParts).map (·.fill φ) := by
  cases h with
  | none => rfl
  | some hcd => exact hcd.parts

theorem propertyName?_filled : c.bind propertyName? = d.bind propertyName? := by
  cases h with
  | none => rfl
  | @some c d hcd =>
    rw [Option.bind_some, Option.bind_some, propertyName?, propertyName?, hcd.kind]
    by_cases hkind : d.kind = "type_identifier"
    · rw [hkind]
      rfl
    · rw [hcd.text (hcd.kind ▸ hkind)]

end Parts

section Below

variable (h : List.Forall₂ (Filled φ) a.children b.children)

include h

theorem filled_parts : List.Forall₂ (Filled φ) a.parts b.parts :=
  forall₂_meaningful Filled.sameForm (forall₂_named Filled.sameForm h)

theorem field?_filled (field : String) : Option.Rel (Filled φ) (a.field? field) (b.field? field) :=
  rel_find? Filled.sameForm h field

theorem ofParts_filled : ofParts a = (ofParts b).map (·.fill φ) := by
  rw [ofParts_eq, ofParts_eq]
  exact map_ofNode_filled (filled_parts h)

theorem operands_filled {operator : String} (hne : operator ≠ "type_identifier") :
    operands operator a = (operands operator b).map (·.fill φ) := by
  rw [operands_eq operator a, operands_eq operator b]
  exact flatMap_operands_filled (filled_parts h) hne

theorem ofBody_filled : ofBody a = (ofBody b).fill φ := by
  have hmembers : a.namedChildren.map Member.ofNode =
      (b.namedChildren.map Member.ofNode).map (·.fill φ) := map_member_filled (forall₂_named Filled.sameForm h)
  rw [ofBody_eq, ofBody_eq, hmembers, ofMembers_fill]

theorem literal_filled : TypeExpr.literal a = TypeExpr.literal b := by
  have hnamed : List.Forall₂ (Filled φ) a.namedChildren b.namedChildren :=
    forall₂_named Filled.sameForm h
  unfold TypeExpr.literal
  generalize a.namedChildren = cs at hnamed
  generalize b.namedChildren = ds at hnamed
  cases hnamed with
  | nil => rfl
  | @cons c d _ _ hcd _ =>
    dsimp only
    rw [hcd.kind]
    by_cases hname : d.kind = "type_identifier"
    · rw [hname]
      rfl
    · rw [hcd.text (hcd.kind ▸ hname)]

end Below

/-- What is read of a node with holes below it. The hole is no name of a generic type. -/
theorem ofNode_filled (hinfo : a.info = b.info)
    (hname : a.kind = "type_identifier" → a.text ≠ φ.hole)
    (hgeneric : a.kind = "generic_type" →
      (a.field? "name").elim "" (·.text) = (b.field? "name").elim "" (·.text))
    (h : List.Forall₂ (Filled φ) a.children b.children) :
    TypeExpr.ofNode a = (TypeExpr.ofNode b).fill φ := by
  have hkind : a.kind = b.kind := congrArg NodeInfo.kind hinfo
  have htext : a.text = b.text := congrArg NodeInfo.text hinfo
  have hparts := ofParts_filled h
  have hfirst := ofFirstPart_fill hparts
  rw [TypeExpr.ofNode_eq a, TypeExpr.ofNode_eq b]
  rw [hkind] at hname hgeneric ⊢
  rw [htext] at hname ⊢
  generalize b.kind = kind at hname hgeneric
  split
  · exact (predefined_fill _).symm
  · exact (named_fill (hname rfl)).symm
  · rw [operands_filled h (by decide), TypeExpr.fill, fillAll_eq_map]
  · rw [operands_filled h (by decide), TypeExpr.fill, fillAll_eq_map]
  · rw [hfirst, TypeExpr.fill]
  · exact hfirst
  · exact hfirst
  · have harguments : (a.field? "type_arguments").elim [] ofParts =
        ((b.field? "type_arguments").elim [] ofParts).map (·.fill φ) :=
      elim_ofParts_filled (field?_filled h "type_arguments")
    rw [harguments, hgeneric rfl, applied_fill]
  · rw [literal_filled h, literal_fill]
  · have hrest := any_kind_eq Filled.sameForm (filled_parts h) fun k => k = "optional_type" || k = "rest_type"
    rw [hrest]
    split_ifs
    · rfl
    · rw [hparts, TypeExpr.fill, fillAll_eq_map]
  · exact ofBody_filled h
  all_goals rfl

/-- The type of all other properties, if the keys have a type that allows for it. -/
def indexed (key value : TypeExpr) : Member :=
  match key with
  | .string | .number => .index value
  | _ => .unsupported "index signature with non-primitive key"

theorem indexed_fill {name : String} (hφ : φ.type = .named name) (key value : TypeExpr) :
    indexed (key.fill φ) (value.fill φ) = (indexed key value).fill φ := by
  cases key with
  | ref other =>
    rw [TypeExpr.fill, hφ]
    split_ifs
    · unfold TypeExpr.named
      split <;> rfl
    · rfl
  | object fields index => cases index <;> rfl
  | _ => rfl

theorem indexOf_filled {name : String} (hφ : φ.type = .named name)
    (h : List.Forall₂ (Filled φ) a.children b.children) : indexOf a = (indexOf b).fill φ := by
  have hkey : Option.Rel (Filled φ) ((a.field? "index_type").or a.parts[1]?)
      ((b.field? "index_type").or b.parts[1]?) :=
    rel_or (field?_filled h "index_type") (rel_second (filled_parts h))
  have htype : (a.field? "type").elim .any ofFirstPart =
      ((b.field? "type").elim .any ofFirstPart).fill φ := elim_firstPart_filled (field?_filled h "type")
  have hmapped := any_kind_eq Filled.sameForm (filled_parts h) fun k => k = "mapped_type_clause"
  rw [indexOf_eq a, indexOf_eq b, hmapped, htype]
  split_ifs
  · rfl
  · generalize (a.field? "index_type").or a.parts[1]? = c at hkey
    generalize (b.field? "index_type").or b.parts[1]? = d at hkey
    cases hkey with
    | none => rfl
    | some hcd =>
      dsimp only
      rw [hcd.type]
      exact indexed_fill hφ _ _

theorem member_filled {name : String} (hφ : φ.type = .named name) (hinfo : a.info = b.info)
    (h : List.Forall₂ (Filled φ) a.children b.children) :
    Member.ofNode a = (Member.ofNode b).fill φ := by
  have hkind : a.kind = b.kind := congrArg NodeInfo.kind hinfo
  have htext : a.text = b.text := congrArg NodeInfo.text hinfo
  rw [Member.ofNode_eq a, Member.ofNode_eq b, hkind, htext]
  split
  · rfl
  · have hname : (a.field? "name").bind propertyName? = (b.field? "name").bind propertyName? :=
      propertyName?_filled (field?_filled h "name")
    have htype : (a.field? "type").elim .any ofFirstPart =
        ((b.field? "type").elim .any ofFirstPart).fill φ :=
      elim_firstPart_filled (field?_filled h "type")
    have hoptional : isOptional a = isOptional b := any_mark_eq Filled.sameForm h
    rw [hname, htype, hoptional]
    cases (b.field? "name").bind propertyName? <;> rfl
  · exact indexOf_filled hφ h
  all_goals rfl

end Trees

end SchemaGen.Schema
