import SchemaGen.Database.Flattening
import SchemaGen.Proofs.Schema.Filling

namespace SchemaGen

namespace Syntax

mutual

/-- The names of types in a tree, those of generic types included. -/
def Node.typeNames : Node → List String
  | .mk info children => (if info.kind = "type_identifier" then [info.text] else []) ++ typeNamesAll children

def typeNamesAll : List Node → List String
  | [] => []
  | n :: ns => n.typeNames ++ typeNamesAll ns

end

end Syntax

namespace Database

open Syntax Schema

/-- The lookup into the chosen schema that the whole text of a node is. -/
def Target.lookupOf? (t : Target) (info : NodeInfo) : Option Lookup :=
  if info.kind = "lookup_type" then
    match Lookup.read? t.database.toList info.text.toList with
    | some (l, []) => if l.schema = t.schema.toList then some l else none
    | _ => none
  else none

def nameNode (info : NodeInfo) (name : String) : Node :=
  .mk { info with kind := "type_identifier", named := true, text := name } []

mutual

/-- Put names in place of the lookups in a tree. A node that stands apart, as the name of a generic type
does, stays itself. -/
def Target.resolve (t : Target) (name : Lookup → String) (apart : Bool) : Node → Node
  | .mk info children =>
    match t.lookupOf? info, apart with
    | some l, false => nameNode info (name l)
    | _, _ => .mk info (t.resolveAll name (info.kind = "generic_type") children)

def Target.resolveAll (t : Target) (name : Lookup → String) (apart : Bool) : List Node → List Node
  | [] => []
  | n :: ns => t.resolve name apart n :: t.resolveAll name apart ns

end

theorem Target.resolve_lookup {t : Target} {n : Node} {l : Lookup} (h : t.lookupOf? n.info = some l)
    (name : Lookup → String) : t.resolve name false n = nameNode n.info (name l) := by
  obtain ⟨info, children⟩ := n
  have hlookup : t.lookupOf? info = some l := h
  simp only [Target.resolve, hlookup]
  rfl

/-- Names for lookups, but a hole for those of one entry. -/
def holed (entry : Lookup) (hole : String) (name : Lookup → String) (l : Lookup) : String :=
  if l = entry then hole else name l

variable {t : Target} {name : Lookup → String} {entry : Lookup} {φ : Filling}

theorem ofNode_nameNode (info : NodeInfo) (name : String) :
    TypeExpr.ofNode (nameNode info name) = .named name := by
  rw [TypeExpr.ofNode_eq]
  rfl

theorem nameNode_filled (hφ : φ.type = .named (name entry))
    (hhole : TypeExpr.named φ.hole = .ref φ.hole) (info : NodeInfo) {l : Lookup}
    (hfresh : name l ≠ φ.hole) :
    Filled φ (nameNode info (name l)) (nameNode info (holed entry φ.hole name l)) := by
  have hparts (text : String) : ofParts (nameNode info text) = [] := by
    rw [ofParts_eq]
    rfl
  have hoperands (operator text : String) : operands operator (nameNode info text) = [] := by
    rw [operands_eq]
    rfl
  have hmember (text : String) : Member.ofNode (nameNode info text) = .other := by
    rw [Member.ofNode_eq]
    rfl
  refine
    { fields := rfl, kind := rfl, named := rfl, text := fun h => absurd rfl h, token := ?_
      type := ?_, parts := ?_, operands := ?_, member := ?_ }
  · intro hnamed
    exact absurd hnamed (by simp [nameNode, Node.isNamed, Node.info])
  · rw [ofNode_nameNode, ofNode_nameNode, holed]
    split_ifs with heq
    · rw [hhole, TypeExpr.fill, if_pos rfl, hφ, heq]
    · exact (named_fill hfresh).symm
  · rw [hparts, hparts, List.map_nil]
  · intro operator _
    rw [hoperands, hoperands, List.map_nil]
  · rw [hmember, hmember, Member.fill]

theorem text_find?_resolveAll (name : Lookup → String) (p : NodeInfo → Bool) (ns : List Node) :
    ((t.resolveAll name true ns).find? (p ·.info)).elim "" (·.text) =
      (ns.find? (p ·.info)).elim "" (·.text) := by
  induction ns with
  | nil => rfl
  | cons n ns ih =>
    obtain ⟨info, children⟩ := n
    have hinfo : (t.resolve name true (.mk info children)).info = info := by
      unfold Target.resolve
      cases t.lookupOf? info <;> rfl
    rw [Target.resolveAll, List.find?_cons, List.find?_cons, hinfo, Node.info]
    cases hp : p info with
    | true => exact congrArg NodeInfo.text hinfo
    | false => exact ih

theorem mk_filled (hφ : φ.type = .named (name entry)) (info : NodeInfo) {children : List Node}
    (hfresh : φ.hole ∉ (Node.mk info
      (t.resolveAll name (info.kind = "generic_type") children)).typeNames)
    (h : φ.hole ∉ typeNamesAll (t.resolveAll name (info.kind = "generic_type") children) →
      List.Forall₂ (Filled φ) (t.resolveAll name (info.kind = "generic_type") children)
        (t.resolveAll (holed entry φ.hole name) (info.kind = "generic_type") children)) :
    Filled φ (.mk info (t.resolveAll name (info.kind = "generic_type") children))
      (.mk info (t.resolveAll (holed entry φ.hole name) (info.kind = "generic_type") children)) := by
  rw [Node.typeNames, List.mem_append, not_or] at hfresh
  obtain ⟨hself, hbelow⟩ := hfresh
  have hchildren := h hbelow
  refine
    { fields := rfl, kind := rfl, named := rfl, text := fun _ => rfl, token := fun _ => rfl
      type := ofNode_filled rfl ?_ ?_ hchildren, parts := ofParts_filled hchildren
      operands := fun operator hne => operands_filled hchildren hne
      member := member_filled hφ rfl hchildren }
  · intro hkind hname
    have hkind' : info.kind = "type_identifier" := hkind
    rw [if_pos hkind', List.mem_singleton] at hself
    exact hself hname.symm
  · intro hkind
    have hkind' : info.kind = "generic_type" := hkind
    have hname (name : Lookup → String) := text_find?_resolveAll (t := t) name
      (·.fields.contains "name") children
    rw [decide_eq_true hkind']
    exact (hname name).trans (hname _).symm

mutual

theorem resolve_filled (hφ : φ.type = .named (name entry))
    (hhole : TypeExpr.named φ.hole = .ref φ.hole) : ∀ (n : Node) (apart : Bool),
    φ.hole ∉ (t.resolve name apart n).typeNames →
      Filled φ (t.resolve name apart n) (t.resolve (holed entry φ.hole name) apart n)
  | .mk info children, apart, hfresh => by
    cases hlookup : t.lookupOf? info with
    | none =>
      simp only [Target.resolve, hlookup] at hfresh ⊢
      exact mk_filled hφ info hfresh fun hbelow => resolveAll_filled hφ hhole children _ hbelow
    | some l =>
      cases apart with
      | true =>
        simp only [Target.resolve, hlookup] at hfresh ⊢
        exact mk_filled hφ info hfresh fun hbelow => resolveAll_filled hφ hhole children _ hbelow
      | false =>
        simp only [Target.resolve, hlookup] at hfresh ⊢
        refine nameNode_filled hφ hhole info ?_
        intro hname
        simp [nameNode, Node.typeNames, hname] at hfresh

theorem resolveAll_filled (hφ : φ.type = .named (name entry))
    (hhole : TypeExpr.named φ.hole = .ref φ.hole) : ∀ (ns : List Node) (apart : Bool),
    φ.hole ∉ typeNamesAll (t.resolveAll name apart ns) →
      List.Forall₂ (Filled φ) (t.resolveAll name apart ns)
        (t.resolveAll (holed entry φ.hole name) apart ns)
  | [], _, _ => .nil
  | n :: ns, apart, hfresh => by
    rw [Target.resolveAll, typeNamesAll, List.mem_append, not_or] at hfresh
    exact .cons (resolve_filled hφ hhole n apart hfresh.1) (resolveAll_filled hφ hhole ns apart hfresh.2)

end

end Database

end SchemaGen
