import Mathlib.Data.List.Forall2
import SchemaGen.Proofs.Run.Tree
import SchemaGen.Proofs.Schema.Reading

namespace SchemaGen.Schema

open Syntax

/-! ### Members -/

theorem indexOf_cases (c : Node) :
    (∃ what, indexOf c = .unsupported what) ∨ ∃ t, indexOf c = .index t := by
  rw [indexOf_eq]
  split_ifs
  · exact .inl ⟨_, rfl⟩
  · split
    · exact .inl ⟨_, rfl⟩
    · split
      · exact .inr ⟨_, rfl⟩
      · exact .inr ⟨_, rfl⟩
      · exact .inl ⟨_, rfl⟩

/-- Members that are called and hold no value. -/
def callables : List String := ["method_signature", "call_signature", "construct_signature"]

/-- What is read of a member behind those that gave `b`. A comment, and what is no member, say nothing of the
type. -/
inductive Body.Takes (b : Body) (c : Node) : Except String Body → Prop
  | property {f : Field TypeExpr} (hkind : c.kind = "property_signature")
      (hread : Member.ofNode c = .property { f with docs := none }) (hdocs : f.docs = b.pending) :
      Takes b c (.ok { b with fields := b.fields ++ [f], pending := none })
  | index {t : TypeExpr} (hkind : c.kind = "index_signature") (hread : Member.ofNode c = .index t) :
      Takes b c (.ok { b with index := some t, pending := none })
  | passed {pending : Option Doc} (hkind : c.kind ∉ "property_signature" :: "index_signature" :: callables)
      (hread : ∀ what, Member.ofNode c ≠ .unsupported what) : Takes b c (.ok { b with pending := pending })
  | refused {what : String} (hread : Member.ofNode c = .unsupported what) : Takes b c (.error what)

theorem Body.add_takes (b : Body) (c : Node) : b.Takes c (b.add (Member.ofNode c)) := by
  have hread := Member.ofNode_eq c
  split at hread
  · next hkind =>
    rw [hread]
    exact .passed (by rw [hkind]; decide) (by simp [hread])
  · next hkind =>
    split at hread
    · rw [hread]
      exact .refused hread
    · rw [hread]
      exact .property hkind hread rfl
  · next hkind =>
    rcases indexOf_cases c with ⟨what, hindex⟩ | ⟨t, hindex⟩
    · rw [hread, hindex]
      exact .refused (hread.trans hindex)
    · rw [hread, hindex]
      exact .index hkind (hread.trans hindex)
  · rw [hread]
    exact .refused hread
  · rw [hread]
    exact .refused hread
  · rw [hread]
    exact .refused hread
  · rw [hread]
    exact .passed (by simp_all [callables]) (by simp [hread])

theorem Body.Takes.ne_unsupported {b b' : Body} {c : Node} (h : b.Takes c (.ok b')) (what : String) :
    Member.ofNode c ≠ .unsupported what := by
  cases h with
  | property _ hread => simp [hread]
  | index _ hread => simp [hread]
  | passed _ hread => exact hread what

theorem Member.ofNode_of_callable {c : Node} (h : c.kind ∈ callables) :
    Member.ofNode c = .unsupported "method signature" := by
  have hkind : c.kind = "method_signature" ∨ c.kind = "call_signature" ∨
      c.kind = "construct_signature" := by simpa [callables] using h
  rw [Member.ofNode_eq]
  rcases hkind with h | h | h <;> rw [h] <;> rfl

/-! ### Bodies -/

section Run

variable {cs : List Node} {b b' : Body}

/-- The first member is refused, or the others are read behind it. -/
theorem Body.foldlM_add_cons (b : Body) (c : Node) (cs : List Node) :
    (∃ what, Member.ofNode c = .unsupported what ∧
        ((c :: cs).map Member.ofNode).foldlM Body.add b = .error what) ∨
      ∃ b₁, b.Takes c (.ok b₁) ∧ ((c :: cs).map Member.ofNode).foldlM Body.add b =
        (cs.map Member.ofNode).foldlM Body.add b₁ := by
  have htakes := b.add_takes c
  rw [List.map_cons, List.foldlM_cons]
  generalize b.add (Member.ofNode c) = r at htakes
  cases r with
  | error what =>
    cases htakes with
    | refused hread => exact .inl ⟨what, hread, rfl⟩
  | ok b₁ => exact .inr ⟨b₁, htakes, rfl⟩

theorem Body.exists_of_foldlM_add_eq_error {what : String}
    (h : (cs.map Member.ofNode).foldlM Body.add b = .error what) :
    ∃ c ∈ cs, Member.ofNode c = .unsupported what := by
  induction cs generalizing b with
  | nil => cases h
  | cons c cs ih =>
    rcases Body.foldlM_add_cons b c cs with ⟨what', hread, hfold⟩ | ⟨b₁, -, hfold⟩
    · obtain rfl := Except.error.inj (hfold.symm.trans h)
      exact ⟨c, by simp, hread⟩
    · obtain ⟨d, hd, hread⟩ := ih (hfold.symm.trans h)
      exact ⟨d, List.mem_cons_of_mem c hd, hread⟩

theorem Body.ne_unsupported_of_foldlM_add_eq_ok
    (h : (cs.map Member.ofNode).foldlM Body.add b = .ok b') (what : String) :
    ∀ c ∈ cs, Member.ofNode c ≠ .unsupported what := by
  induction cs generalizing b with
  | nil => simp
  | cons c cs ih =>
    rcases Body.foldlM_add_cons b c cs with ⟨what', -, hfold⟩ | ⟨b₁, htakes, hfold⟩
    · cases hfold.symm.trans h
    · exact List.forall_mem_cons.2 ⟨htakes.ne_unsupported what, ih (hfold.symm.trans h)⟩

/-- A body that is not refused has its properties behind those from before, and the value type of its last
index signature. -/
theorem Body.foldlM_add_eq_ok (h : (cs.map Member.ofNode).foldlM Body.add b = .ok b') :
    ∃ fields types, b'.fields = b.fields ++ fields ∧ b'.index = types.getLast?.or b.index ∧
      List.Forall₂ (fun c f => Member.ofNode c = .property { f with docs := none })
        (cs.filter (·.kind = "property_signature")) fields ∧
      List.Forall₂ (fun c t => Member.ofNode c = .index t)
        (cs.filter (·.kind = "index_signature")) types := by
  induction cs generalizing b with
  | nil =>
    obtain rfl := Except.ok.inj h
    exact ⟨[], [], by simp, by simp, .nil, .nil⟩
  | cons c cs ih =>
    rcases Body.foldlM_add_cons b c cs with ⟨what, -, hfold⟩ | ⟨b₁, htakes, hfold⟩
    · cases hfold.symm.trans h
    obtain ⟨fields, types, hfields, hindex, hproperties, hindexes⟩ := ih (hfold.symm.trans h)
    cases htakes with
    | @property f hkind hread hdocs =>
      refine ⟨f :: fields, types, by simpa using hfields, hindex, ?_, ?_⟩
      · rw [List.filter_cons_of_pos (by simp [hkind])]
        exact .cons hread hproperties
      · rwa [List.filter_cons_of_neg (by simp [hkind])]
    | @index t hkind hread =>
      refine ⟨fields, t :: types, hfields, ?_, ?_, ?_⟩
      · rw [hindex, List.getLast?_cons]
        cases types.getLast? <;> rfl
      · rwa [List.filter_cons_of_neg (by simp [hkind])]
      · rw [List.filter_cons_of_pos (by simp [hkind])]
        exact .cons hread hindexes
    | passed hkind _ =>
      simp only [List.mem_cons, not_or] at hkind
      refine ⟨fields, types, hfields, hindex, ?_, ?_⟩
      · rwa [List.filter_cons_of_neg (by simp [hkind.1])]
      · rwa [List.filter_cons_of_neg (by simp [hkind.2.1])]

end Run

/-- The type of the properties that the type of a body does not name. -/
def TypeExpr.index? : TypeExpr → Option TypeExpr
  | .object _ index => index
  | .record _ value => some value
  | _ => none

theorem Body.index?_toType (b : Body) : b.toType.index? = b.index := by
  obtain ⟨fields, index, pending⟩ := b
  cases fields with
  | nil => cases index <;> rfl
  | cons f fields => rfl

theorem toList_getLast?_eq_iff {α : Type} (l : List α) : l.getLast?.toList = l ↔ l.length ≤ 1 := by
  constructor
  · intro h
    rw [← h]
    cases l.getLast? <;> simp
  · intro h
    cases l with
    | nil => rfl
    | cons a l =>
      obtain rfl := List.length_eq_zero_iff.1 (Nat.le_zero.1 (Nat.le_of_succ_le_succ h))
      rfl

/-- A body is refused for a member that cannot be expressed, as those are that are called. If there is none,
the type has a field for every property, in their order, and the value type of the last index signature. So
no index signature is overwritten exactly if there is at most one. -/
theorem ofBody_members (n : Node) :
    (∃ c ∈ n.namedChildren, ∃ what, Member.ofNode c = .unsupported what ∧
        ofBody n = .unsupported what) ∨
      (∀ c ∈ n.namedChildren, c.kind ∉ callables ∧ ∀ what, Member.ofNode c ≠ .unsupported what) ∧
        ∃ fields types,
          List.Forall₂ (fun c f => Member.ofNode c = .property { f with docs := none })
            (n.namedChildren.filter (·.kind = "property_signature")) fields ∧
          List.Forall₂ (fun c t => Member.ofNode c = .index t)
            (n.namedChildren.filter (·.kind = "index_signature")) types ∧
          ofBody n = Body.toType ⟨fields, types.getLast?, none⟩ ∧
          ((ofBody n).index?.toList = types ↔ types.length ≤ 1) := by
  rw [ofBody_eq, TypeExpr.ofMembers]
  cases hfold : (n.namedChildren.map Member.ofNode).foldlM Body.add ⟨[], none, none⟩ with
  | error what =>
    obtain ⟨c, hc, hread⟩ := Body.exists_of_foldlM_add_eq_error hfold
    exact .inl ⟨c, hc, what, hread, rfl⟩
  | ok b =>
    have hread := Body.ne_unsupported_of_foldlM_add_eq_ok hfold
    obtain ⟨fields, types, hfields, hindex, hproperties, hindexes⟩ := Body.foldlM_add_eq_ok hfold
    rw [Option.or_none] at hindex
    refine .inr ⟨fun c hc => ⟨fun hkind => ?_, fun what => hread what c hc⟩, fields, types,
      hproperties, hindexes, ?_, ?_⟩
    · exact hread _ c hc (Member.ofNode_of_callable hkind)
    · change b.toType = _
      unfold Body.toType
      rw [hfields, hindex]
      rfl
    · change b.toType.index?.toList = types ↔ types.length ≤ 1
      rw [Body.index?_toType, hindex, toList_getLast?_eq_iff]

/-- An object type with an index signature for texts and one for numbers. -/
def recordSource : List Char := "\x7b [key: string]: string | number; [index: number]: number \x7d".toList

def predefinedAt (start : Nat) (fields : List String) (name : String) : Node :=
  Run.nodeAt 1 start "predefined_type" fields name [Run.tokenAt 1 start [] name]

def signatureAt (start : Nat) (name key : String) (type : Node) : Node :=
  let behind := start + 1 + name.length
  Run.spanning recordSource "index_signature" [] [
    Run.tokenAt 1 start [] "[",
    Run.nodeAt 1 (start + 1) "identifier" ["name"] name [],
    Run.tokenAt 1 behind [] ":",
    predefinedAt (behind + 2) ["index_type"] key,
    Run.tokenAt 1 (behind + 2 + key.length) [] "]",
    Run.spanning recordSource "type_annotation" ["type"]
      [Run.tokenAt 1 (behind + 3 + key.length) [] ":", type]]

def unionNode : Node :=
  Run.spanning recordSource "union_type" [] [
    predefinedAt 17 [] "string", Run.tokenAt 1 24 [] "|", predefinedAt 26 [] "number"]

def recordNodes : List Node := [
  signatureAt 2 "key" "string" unionNode,
  signatureAt 34 "index" "number" (predefinedAt 51 [] "number")]

def recordBody : Node :=
  Run.spanning recordSource "object_type" []
    (Run.tokenAt 1 0 [] "\x7b" :: recordNodes.intersperse (Run.tokenAt 1 32 [] ";") ++
      [Run.tokenAt 1 58 [] "\x7d"])

theorem ofNode_predefinedAt (start : Nat) (fields : List String) (name : String) :
    TypeExpr.ofNode (predefinedAt start fields name) = .predefined name := by
  rw [TypeExpr.ofNode_eq]
  rfl

theorem ofNode_signatureAt (start : Nat) (name : String) {key : String} (type : Node)
    (hkey : key = "string" ∨ key = "number") (hpart : (type.isNamed && !type.isComment) = true) :
    Member.ofNode (signatureAt start name key type) = .index (TypeExpr.ofNode type) := by
  have hread : Member.ofNode (signatureAt start name key type) =
      indexOf (signatureAt start name key type) := by
    rw [Member.ofNode_eq]
    rfl
  have hindex : (signatureAt start name key type).field? "index_type" =
      some (predefinedAt (start + 1 + name.length + 2) ["index_type"] key) := rfl
  have hclause : (signatureAt start name key type).parts.any (·.kind = "mapped_type_clause") =
      false := rfl
  rw [hread, indexOf_eq, hclause, hindex, Option.some_or]
  simp only [Bool.false_eq_true, if_false, ofNode_predefinedAt]
  have htype : ((signatureAt start name key type).field? "type").elim .any ofFirstPart =
      TypeExpr.ofNode type := Run.ofFirstPart_typed _ rfl hpart
  rcases hkey with rfl | rfl
  · exact congrArg Member.index htype
  · exact congrArg Member.index htype

theorem ofNode_unionNode : TypeExpr.ofNode unionNode = .union [.string, .number] := by
  have hoperands : operands "union_type" unionNode =
      [TypeExpr.ofNode (predefinedAt 17 [] "string"), TypeExpr.ofNode (predefinedAt 26 [] "number")] :=
    operands_eq _ _
  rw [TypeExpr.ofNode_eq]
  change TypeExpr.union (operands "union_type" unionNode) = _
  rw [hoperands, ofNode_predefinedAt, ofNode_predefinedAt]
  rfl

theorem ofBody_members_overwritten :
    recordNodes.map Member.ofNode = [.index (.union [.string, .number]), .index .number] ∧
      ofBody recordBody = .record .string .number := by
  have hwide : Member.ofNode (signatureAt 2 "key" "string" unionNode) =
      .index (.union [.string, .number]) := by
    rw [ofNode_signatureAt _ _ _ (.inl rfl) rfl, ofNode_unionNode]
  have hnarrow : Member.ofNode (signatureAt 34 "index" "number" (predefinedAt 51 [] "number")) =
      .index .number := by
    rw [ofNode_signatureAt _ _ _ (.inr rfl) rfl, ofNode_predefinedAt]
    rfl
  have hread : recordNodes.map Member.ofNode =
      [.index (.union [.string, .number]), .index .number] := by
    rw [recordNodes, List.map_cons, List.map_cons, hwide, hnarrow]
    rfl
  refine ⟨hread, ?_⟩
  have hnodes : recordBody.namedChildren = recordNodes := rfl
  rcases ofBody_members recordBody with ⟨c, hc, what, hrefused, -⟩ |
    ⟨-, fields, types, hproperties, hindexes, htype, -⟩
  · have hmem := List.mem_map_of_mem (f := Member.ofNode) (hnodes ▸ hc)
    rw [hread, hrefused] at hmem
    exact absurd hmem (by simp)
  · have hnone : recordBody.namedChildren.filter (·.kind = "property_signature") = [] := rfl
    have hall : recordBody.namedChildren.filter (·.kind = "index_signature") = recordNodes := rfl
    rw [hnone, List.forall₂_nil_left_iff] at hproperties
    rw [hall, recordNodes, List.forall₂_cons_left_iff] at hindexes
    obtain ⟨first, _, hfirst, hrest, rfl⟩ := hindexes
    obtain ⟨last, _, hlast, hnil, rfl⟩ := List.forall₂_cons_left_iff.1 hrest
    rw [List.forall₂_nil_left_iff] at hnil
    obtain rfl := Member.index.inj (hlast.symm.trans hnarrow)
    rw [htype, hproperties, hnil]
    rfl

end SchemaGen.Schema
