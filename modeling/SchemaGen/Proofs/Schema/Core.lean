import SchemaGen.Proofs.Schema.Filling
import SchemaGen.Proofs.Schema.Meaning

namespace SchemaGen.Schema

mutual

/-- A type without documentation and reasons, with its numerals spelled anew. -/
def TypeExpr.core (spell : String → String) : TypeExpr → TypeExpr
  | .array item => .array (item.core spell)
  | .tuple items => .tuple (coreAll spell items)
  | .record key value => .record (key.core spell) (value.core spell)
  | .object fields index =>
    match index with
    | some t => .object (coreFields spell fields) (some (t.core spell))
    | none => .object (coreFields spell fields) none
  | .union members => .union (coreAll spell members)
  | .intersection members => .intersection (coreAll spell members)
  | .numeral source => .numeral (spell source)
  | .unsupported _ => .unsupported ""
  | other => other

def coreAll (spell : String → String) : List TypeExpr → List TypeExpr
  | [] => []
  | t :: ts => t.core spell :: coreAll spell ts

def coreFields (spell : String → String) : List (Field TypeExpr) → List (Field TypeExpr)
  | [] => []
  | f :: fs => { f with type := f.type.core spell, docs := none } :: coreFields spell fs

end

variable {spell : String → String}

theorem coreAll_eq_map (ts : List TypeExpr) : coreAll spell ts = ts.map (·.core spell) := by
  induction ts with
  | nil => rfl
  | cons t ts ih => rw [coreAll, ih, List.map_cons]

theorem coreFields_eq_map (fs : List (Field TypeExpr)) :
    coreFields spell fs = fs.map fun f => { f with type := f.type.core spell, docs := none } := by
  induction fs with
  | nil => rfl
  | cons f fs ih => rw [coreFields, ih, List.map_cons]

theorem coreFields_keys (key : String → List Nat) (fs : List (Field TypeExpr)) :
    (coreFields spell fs).map (key ·.name) = fs.map (key ·.name) := by
  rw [coreFields_eq_map, List.map_map]
  rfl

theorem core_eq_undefined_iff (t : TypeExpr) : t.core spell = .undefined ↔ t = .undefined := by
  cases t with
  | object fields index => cases index <;> simp [TypeExpr.core]
  | _ => simp [TypeExpr.core]

/-! ### Values -/

section Has

variable {ν : Type} {r : Reading ν} {env : String → Value ν → Prop}

/-- Whether numerals give the same numbers when they are spelled anew. -/
def Reading.Keeps (r : Reading ν) (spell : String → String) : Prop :=
  ∀ source, r.numeral (spell source) = r.numeral source

mutual

/-- A type has the same values as what is left of it, if the numerals give the same numbers. -/
theorem has_core (h : r.Keeps spell) (keyed : Prop) : ∀ (t : TypeExpr) (v : Value ν),
    (t.core spell).Has r env keyed v ↔ t.Has r env keyed v
  | .array item, v => by
    simp only [TypeExpr.core, TypeExpr.Has, has_core h False item]
  | .tuple items, v => by
    simp only [TypeExpr.core, TypeExpr.Has, hasEach_core h items]
  | .record key value, v => by
    simp only [TypeExpr.core, TypeExpr.Has, has_core h False key, has_core h True value]
  | .object fields (some t), v => by
    simp only [TypeExpr.core, TypeExpr.Has, hasFields_core h fields, coreFields_keys, has_core h True t]
  | .object fields none, v => by
    simp only [TypeExpr.core, TypeExpr.Has, hasFields_core h fields]
  | .union members, v => by
    have hother : (∃ t ∈ coreAll spell members, t ≠ .undefined) ↔ ∃ t ∈ members, t ≠ .undefined := by
      simp [coreAll_eq_map, core_eq_undefined_iff]
    simp only [TypeExpr.core, TypeExpr.Has, hother, hasSome_core h _ members]
  | .intersection members, v => by
    simp only [TypeExpr.core, TypeExpr.Has, hasAll_core h members]
  | .numeral source, v => by
    rw [TypeExpr.core, TypeExpr.Has, TypeExpr.Has, h source]
  | .unsupported what, v => by simp only [TypeExpr.core, TypeExpr.Has]
  | .string, v | .number, v | .bigint, v | .boolean, v | .date, v | .null, v | .undefined, v
  | .unknown, v | .any, v | .never, v | .void, v | .ref _, v | .text _, v | .truth _, v => Iff.rfl

theorem hasEach_core (h : r.Keeps spell) : ∀ (ts : List TypeExpr) (xs : List (Value ν)),
    HasEach r env (coreAll spell ts) xs ↔ HasEach r env ts xs
  | [], xs => Iff.rfl
  | t :: ts, xs => by simp only [coreAll, HasEach, has_core h False t, hasEach_core h ts]

theorem hasSome_core (h : r.Keeps spell) (dropped : Prop) : ∀ (ts : List TypeExpr) (v : Value ν),
    HasSome r env dropped (coreAll spell ts) v ↔ HasSome r env dropped ts v
  | [], v => Iff.rfl
  | t :: ts, v => by
    simp only [coreAll, HasSome, has_core h False t, hasSome_core h dropped ts, ne_eq,
      core_eq_undefined_iff]

theorem hasAll_core (h : r.Keeps spell) : ∀ (ts : List TypeExpr) (v : Value ν),
    HasAll r env (coreAll spell ts) v ↔ HasAll r env ts v
  | [], v => Iff.rfl
  | t :: ts, v => by simp only [coreAll, HasAll, has_core h False t, hasAll_core h ts]

theorem hasFields_core (h : r.Keeps spell) :
    ∀ (fs : List (Field TypeExpr)) (get : List Nat → Option (Value ν)),
    HasFields r env (coreFields spell fs) get ↔ HasFields r env fs get
  | [], get => Iff.rfl
  | f :: fs, get => by simp only [coreFields, HasFields, has_core h False f.type, hasFields_core h fs]

end

/-- Types of which the same is left have the same values. -/
theorem has_congr (h : r.Keeps spell) {t u : TypeExpr}
    (hcore : t.core spell = u.core spell) (keyed : Prop) (v : Value ν) :
    t.Has r env keyed v ↔ u.Has r env keyed v := by
  rw [← has_core h keyed t, hcore, has_core h keyed u]

end Has

/-! ### Known names -/

/-- Whether types with arguments are read alike under two names. -/
def AppliesAlike (spell : String → String) (x y : String) : Prop :=
  ∀ ts us : List TypeExpr, ts.map (·.core spell) = us.map (·.core spell) →
    (TypeExpr.applied x ts).core spell = (TypeExpr.applied y us).core spell

theorem AppliesAlike.refl (name : String) : AppliesAlike spell name name := by
  intro ts us h
  have hhead (other : TypeExpr) : (ts.headD other).core spell = (us.headD other).core spell := by
    cases ts <;> cases us <;> simp_all
  have hsecond (other : TypeExpr) : (ts.tail.headD other).core spell = (us.tail.headD other).core spell := by
    rcases ts with _ | ⟨t, _ | ⟨t', ts⟩⟩ <;> rcases us with _ | ⟨u, _ | ⟨u', us⟩⟩ <;> simp_all
  unfold TypeExpr.applied
  split
  · simp only [TypeExpr.core, hhead]
  · simp only [TypeExpr.core, hhead]
  · simp only [TypeExpr.core, hhead, hsecond]
  · exact hhead _
  · rfl

/-- Whether a name is that of a known type with arguments. -/
def isApplicable (name : String) : Bool := ["Array", "ReadonlyArray", "Record", "Readonly"].contains name

theorem core_applied_unknown {name : String} (h : isApplicable name = false) (ts : List TypeExpr) :
    (TypeExpr.applied name ts).core spell = .unsupported "" := by
  unfold TypeExpr.applied
  split <;> first | rfl | cases h

theorem AppliesAlike.unknown {x y : String} (hx : isApplicable x = false) (hy : isApplicable y = false) :
    AppliesAlike spell x y :=
  fun ts us _ => (core_applied_unknown hx ts).trans (core_applied_unknown hy us).symm

/-- Whether a name is that of a type of the language. -/
def isPredefined (name : String) : Bool :=
  ["string", "number", "boolean", "bigint", "any", "unknown", "never", "void", "undefined", "null",
    "object"].contains name

theorem core_predefined_unknown {name : String} (h : isPredefined name = false) :
    (TypeExpr.predefined name).core spell = .unsupported "" := by
  unfold TypeExpr.predefined
  split <;> first | rfl | cases h

/-! ### Members -/

/-- What is left of a member, if it says something of values. -/
def Member.core? (spell : String → String) : Member → Option Member
  | .property f => some (.property { f with type := f.type.core spell, docs := none })
  | .index t => some (.index (t.core spell))
  | .unsupported _ => some (.unsupported "")
  | .comment _ => none
  | .other => none

def Body.core (spell : String → String) (b : Body) : Body :=
  ⟨coreFields spell b.fields, b.index.map (·.core spell), none⟩

theorem toType_core (b : Body) : (b.core spell).toType = b.toType.core spell := by
  obtain ⟨fields, index, pending⟩ := b
  cases fields <;> cases index <;> rfl

theorem foldlM_core (spell : String → String) (b : Body) (ms : List Member) :
    (ms.filterMap (·.core? spell)).foldlM Body.add (b.core spell) =
      match ms.foldlM Body.add b with
      | .ok c => .ok (c.core spell)
      | .error _ => .error "" := by
  induction ms generalizing b with
  | nil => rfl
  | cons m ms ih =>
    rw [List.foldlM_cons]
    cases m with
    | comment doc => exact ih { b with pending := doc }
    | other => exact ih { b with pending := none }
    | unsupported what => rfl
    | index t => exact ih { b with index := some t, pending := none }
    | property f =>
      have hfields : coreFields spell (b.fields ++ [{ f with docs := b.pending }]) =
          coreFields spell b.fields ++ [{ f with type := f.type.core spell, docs := none }] := by
        simp [coreFields_eq_map]
      have hbody := ih { b with fields := b.fields ++ [{ f with docs := b.pending }], pending := none }
      rw [Body.core, hfields] at hbody
      exact hbody

/-- A body is read from what is left of its members. -/
theorem ofMembers_core (ms : List Member) :
    (TypeExpr.ofMembers ms).core spell = .ofMembers (ms.filterMap (·.core? spell)) := by
  have hfold := foldlM_core spell ⟨[], none, none⟩ ms
  have hstart : Body.core spell ⟨[], none, none⟩ = ⟨[], none, none⟩ := rfl
  rw [hstart] at hfold
  unfold TypeExpr.ofMembers
  rw [hfold]
  cases ms.foldlM Body.add ⟨[], none, none⟩ with
  | error what => rfl
  | ok body => exact (toType_core body).symm

def TypeExpr.isKey : TypeExpr → Bool
  | .string => true
  | .number => true
  | _ => false

theorem isKey_core (spell : String → String) (t : TypeExpr) : (t.core spell).isKey = t.isKey := by
  cases t with
  | object fields index => cases index <;> rfl
  | _ => rfl

theorem indexed_eq (key value : TypeExpr) : indexed key value =
    if key.isKey then .index value else .unsupported "index signature with non-primitive key" := by
  cases key <;> rfl

theorem core?_indexed {key key' value value' : TypeExpr} (hkey : key.core spell = key'.core spell)
    (hvalue : value.core spell = value'.core spell) :
    (indexed key value).core? spell = (indexed key' value').core? spell := by
  have hsame : key.isKey = key'.isKey := by rw [← isKey_core spell key, hkey, isKey_core]
  rw [indexed_eq, indexed_eq, hsame]
  split_ifs
  · rw [Member.core?, Member.core?, hvalue]
  · rfl

end SchemaGen.Schema
