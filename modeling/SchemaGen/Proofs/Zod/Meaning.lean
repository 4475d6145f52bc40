import Mathlib.Tactic.Tauto
import SchemaGen.Proofs.Zod.Spelling

set_option linter.unusedSectionVars false

namespace SchemaGen.Zod

open Schema

section Accepts

variable {ν : Type} (r : Reading ν) (meets : Refinement → Value ν → Prop)
  (env : String → Value ν → Prop)

theorem accepts_wrap (nullable optional : Bool) (v : Validator) (x : Value ν) :
    (wrap nullable optional v).Accepts r meets env x ↔
      v.Accepts r meets env x ∨ nullable = true ∧ x = .null ∨ optional = true ∧ x = .undefined := by
  cases nullable <;> cases optional <;> simp [wrap, Validator.Accepts, or_assoc, or_comm]

theorem accepts_documented (a : Admitted) (required : Bool) (x : Value ν) :
    (a.documented required none).Accepts r meets env x ↔
      a.whole.Accepts r meets env x ∨ required = false ∧ x = .undefined := by
  have hd (req : Bool) : a.documented req none = wrap a.null (!req || a.undefined) a.core := rfl
  rw [Admitted.whole, hd, hd, accepts_wrap, accepts_wrap]
  cases required
  · simp
    tauto
  · simp

theorem accepts_whole (a : Admitted) (x : Value ν) :
    a.whole.Accepts r meets env x ↔
      a.core.Accepts r meets env x ∨ a.null = true ∧ x = .null ∨
        a.undefined = true ∧ x = .undefined := by
  have hw : a.whole = wrap a.null a.undefined a.core := rfl
  rw [hw, accepts_wrap]

theorem accepts_present (a : Admitted) (x : Value ν) :
    a.present.Accepts r meets env x ↔ a.core.Accepts r meets env x ∨ a.null = true ∧ x = .null := by
  rw [Admitted.present, accepts_wrap]
  simp

theorem someOf_acceptAll (vs : List Validator) (x : Value ν) :
    someOf (acceptAll r meets env vs) x ↔ ∃ v ∈ vs, v.Accepts r meets env x := by
  induction vs with
  | nil => simp [acceptAll, someOf]
  | cons v vs ih =>
    simp only [someOf, acceptAll, List.exists_mem_cons_iff] at ih ⊢
    rw [ih]

theorem accepts_allOf (vs : List Validator) (x : Value ν) :
    (allOf vs).Accepts r meets env x ↔ ∀ v ∈ vs, v.Accepts r meets env x := by
  have fold (vs : List Validator) (v : Validator) :
      (vs.foldl .both v).Accepts r meets env x ↔
        v.Accepts r meets env x ∧ ∀ w ∈ vs, w.Accepts r meets env x := by
    induction vs generalizing v with
    | nil => simp
    | cons w vs ih =>
      rw [List.foldl_cons, ih, List.forall_mem_cons, Validator.Accepts, and_assoc]
  cases vs with
  | nil => simp [allOf, Validator.Accepts, Base.Accepts]
  | cons v vs => rw [allOf, fold, List.forall_mem_cons]

theorem accepts_ofUnion (vs : List Validator) (null undefined : Bool) (x : Value ν) :
    ((Admitted.ofUnion vs null undefined).whole.Accepts r meets env x ↔
      (∃ v ∈ vs, v.Accepts r meets env x) ∨ null = true ∧ x = .null ∨
        (undefined = true ∨ vs = [] ∧ null = false) ∧ x = .undefined) ∧
    ((Admitted.ofUnion vs null undefined).present.Accepts r meets env x ↔
      (∃ v ∈ vs, v.Accepts r meets env x) ∨ null = true ∧ x = .null ∨
        (vs = [] ∧ null = false) ∧ x = .undefined) := by
  rw [accepts_whole, accepts_present]
  match vs with
  | [] => cases null <;> simp [Admitted.ofUnion, Admitted.only, Validator.Accepts, Base.Accepts]
  | [v] => simp [Admitted.ofUnion]
  | v :: w :: vs =>
    have h := someOf_acceptAll r meets env (v :: w :: vs) x
    simp only [Admitted.ofUnion, Validator.Accepts, h]
    simp

end Accepts

section Types

variable {ν : Type} {r : Reading ν} {meets : Refinement → Value ν → Prop}
  {env : String → Value ν → Prop}

/-- A member of a union that is not left out of its core. -/
def IsProper (t : TypeExpr) : Prop := t ≠ .null ∧ t ≠ .undefined

theorem has_union (keyed : Prop) (ts : List TypeExpr) (x : Value ν) :
    (TypeExpr.union ts).Has r env keyed x ↔
      (∃ t ∈ ts, IsProper t ∧ t.Has r env False x) ∨ .null ∈ ts ∧ x = .null ∨
        (.undefined ∈ ts ∧ ¬(keyed ∧ ∃ t ∈ ts, t ≠ .undefined)) ∧ x = .undefined := by
  rw [TypeExpr.Has, hasSome_iff]
  constructor
  · rintro ⟨t, ht, hd, hx⟩
    by_cases hn : t = .null
    · subst hn
      exact .inr (.inl ⟨ht, hx⟩)
    · by_cases hu : t = .undefined
      · subst hu
        exact .inr (.inr ⟨⟨ht, fun h => hd h rfl⟩, hx⟩)
      · exact .inl ⟨t, ht, ⟨hn, hu⟩, hx⟩
  · rintro (⟨t, ht, hp, hx⟩ | ⟨hn, rfl⟩ | ⟨⟨hu, hd⟩, rfl⟩)
    · exact ⟨t, ht, fun _ => hp.2, hx⟩
    · exact ⟨.null, hn, fun _ => by simp, by simp [TypeExpr.Has]⟩
    · exact ⟨.undefined, hu, fun h => absurd h hd, by simp [TypeExpr.Has]⟩

theorem accepts_only_iff {v : Validator} {t : TypeExpr} (hu : ∀ ts, t ≠ .union ts) {x : Value ν}
    (h : v.Accepts r meets env x ↔ t.Has r env False x) :
    ((Admitted.only v).whole.Accepts r meets env x ↔ t.Has r env False x) ∧
      ((Admitted.only v).present.Accepts r meets env x ↔ t.Has r env True x) := by
  rw [accepts_whole, accepts_present, has_keyed hu True]
  simp [Admitted.only, h]

theorem nil_of_admittedCore {s : Scope} {ts : List TypeExpr} {vs : List Validator}
    (h : admittedCore s ts = .ok vs) : vs = [] ↔ ∀ t ∈ ts, ¬IsProper t := by
  induction ts generalizing vs with
  | nil =>
    cases h
    simp
  | cons t ts ih =>
    obtain ⟨b, _, ws, hw, rfl⟩ := admittedCore_cons.1 h
    rw [List.forall_mem_cons, ← ih hw, IsProper, Ne, Ne, ← isNull_iff, ← isUndefined_iff]
    by_cases hp : isNull t = true ∨ isUndefined t = true
    · rcases hp with hp | hp <;> simp [hp]
    · rw [not_or] at hp
      simp [hp.1, hp.2]

theorem keys_of_admittedFields {s : Scope} {fs : List (Schema.Field TypeExpr)}
    {ps : List (Property Validator)} (h : admittedFields s fs = .ok ps) :
    ps.map (r.key ·.name) = fs.map (r.key ·.name) := by
  induction fs generalizing ps with
  | nil =>
    cases h
    rfl
  | cons f fs ih =>
    obtain ⟨b, _, qs, hq, rfl⟩ := admittedFields_cons.1 h
    rw [List.map_cons, List.map_cons, ih hq]

theorem keys_entries (ps : List (Property Validator)) :
    ((ps.map (r.key ·.name)).zip (acceptProperties r meets env ps)).map (·.1) =
      ps.map (r.key ·.name) := by
  exact List.map_fst_zip (by simp [length_acceptProperties])

theorem any_isNull (ts : List TypeExpr) : ts.any isNull = true ↔ .null ∈ ts := by
  simp [List.any_eq_true, isNull_iff]

theorem any_isUndefined (ts : List TypeExpr) : ts.any isUndefined = true ↔ .undefined ∈ ts := by
  simp [List.any_eq_true, isUndefined_iff]

theorem only_undefined {ts : List TypeExpr} (hne : ts ≠ []) :
    ((∀ t ∈ ts, ¬IsProper t) ∧ .null ∉ ts) ↔ .undefined ∈ ts ∧ ¬∃ t ∈ ts, t ≠ .undefined := by
  constructor
  · rintro ⟨hp, hn⟩
    have all : ∀ t ∈ ts, t = .undefined := by
      intro t ht
      by_contra hu
      exact hp t ht ⟨fun he => hn (he ▸ ht), hu⟩
    obtain ⟨t, ht⟩ := List.exists_mem_of_ne_nil ts hne
    exact ⟨all t ht ▸ ht, fun ⟨t, ht, hu⟩ => hu (all t ht)⟩
  · rintro ⟨_, hall⟩
    have all : ∀ t ∈ ts, t = .undefined := by
      intro t ht
      by_contra hu
      exact hall ⟨t, ht, hu⟩
    exact ⟨fun t ht hp => hp.2 (all t ht), fun hn => TypeExpr.noConfusion (all _ hn)⟩

/-- What the validator of a union accepts follows from what those of its members accept. -/
theorem accepts_union {s : Scope} {ts : List TypeExpr} {vs : List Validator}
    (h : admittedCore s ts = .ok vs) (hne : ts ≠ []) (x : Value ν)
    (hc : (∃ v ∈ vs, v.Accepts r meets env x) ↔ ∃ t ∈ ts, IsProper t ∧ t.Has r env False x) :
    ((Admitted.ofUnion vs (ts.any isNull) (ts.any isUndefined)).whole.Accepts r meets env x ↔
      (TypeExpr.union ts).Has r env False x) ∧
    ((Admitted.ofUnion vs (ts.any isNull) (ts.any isUndefined)).present.Accepts r meets env x ↔
      (TypeExpr.union ts).Has r env True x) := by
  have honly := only_undefined hne
  obtain ⟨hw, hp⟩ := accepts_ofUnion r meets env vs (ts.any isNull)
    (ts.any isUndefined) x
  have hnull : ts.any isNull = false ↔ .null ∉ ts := by
    rw [← any_isNull, Bool.not_eq_true]
  rw [hc, any_isNull, any_isUndefined, hnull, nil_of_admittedCore h, honly] at hw
  rw [hc, any_isNull, hnull, nil_of_admittedCore h, honly] at hp
  rw [hw, hp, has_union, has_union]
  constructor
  · have hu : (.undefined ∈ ts ∨ .undefined ∈ ts ∧ ¬∃ t ∈ ts, t ≠ .undefined) ↔ .undefined ∈ ts := by
      rw [or_iff_left_of_imp And.left]
    rw [hu, false_and, not_false_eq_true, and_true]
  · rw [true_and]

end Types

section Admitted

variable {ν : Type} (s : Scope) (hs : s.tags = false) (r : Reading ν)
  (meets : Refinement → Value ν → Prop) (env : String → Value ν → Prop)

include hs

mutual

/-- The validator of a type accepts the values of the type, and under arbitrary keys those that it has
there. -/
theorem accepts_admitted :
    ∀ (t : TypeExpr) (a : Admitted), admitted s t = .ok a → t.wellFormed r.key → ∀ x,
      (a.whole.Accepts r meets env x ↔ t.Has r env False x) ∧
        (a.present.Accepts r meets env x ↔ t.Has r env True x)
  | .array item, _, h, hw, x => by
    obtain ⟨b, hb, rfl⟩ := admitted_array.1 h
    have ih (y : Value ν) := (accepts_admitted item b hb hw y).1
    refine accepts_only_iff (by simp) ?_
    simp only [Validator.Accepts, arrayOf, TypeExpr.Has, ih]
  | .tuple items, _, h, hw, x => by
    obtain ⟨vs, hv, rfl⟩ := admitted_tuple.1 h
    refine accepts_only_iff (by simp) ?_
    simp only [Validator.Accepts, tupleOf, TypeExpr.Has]
    have ih (xs : List (Value ν)) := accepts_admittedAll items vs hv hw xs
    simp only [ih]
  | .union members, _, h, hw, x => by
    obtain ⟨vs, hv, rfl⟩ := admitted_union.1 h
    simp only [TypeExpr.wellFormed, Bool.and_eq_true, Bool.not_eq_true', List.isEmpty_eq_false_iff] at hw
    have hc := accepts_admittedCore members vs hv hw.2 x
    exact accepts_union hv hw.1 x hc
  | .intersection members, _, h, hw, x => by
    obtain ⟨vs, hv, rfl⟩ := admitted_intersection.1 h
    refine accepts_only_iff (by simp) ?_
    rw [accepts_allOf, TypeExpr.Has]
    exact forall_accepts_admittedAll members vs hv hw x
  | .record key value, _, h, hw, x => by
    obtain ⟨b, hb, c, hc, rfl⟩ := admitted_record.1 h
    simp only [TypeExpr.wellFormed, Bool.and_eq_true] at hw
    have hv (y : Value ν) := (accepts_admitted value b hb hw.2 y).2
    have hk (y : Value ν) := (accepts_admitted key c hc hw.1 y).1
    refine accepts_only_iff (by simp) ?_
    by_cases hstring : isString key
    · have he : key = .string := by cases key <;> simp_all [isString]
      subst he
      simp [Validator.Accepts, recordOf, TypeExpr.Has, isString, hv]
    · simp [Validator.Accepts, recordOf, TypeExpr.Has, hstring, hv, hk]
  | .object fields (some t), _, h, hw, x => by
    obtain ⟨ps, hp, b, hb, rfl⟩ := admitted_object_some.1 h
    simp only [TypeExpr.wellFormed, Bool.and_eq_true, decide_eq_true_eq] at hw
    have hf (get : List Nat → Option (Value ν)) :=
      accepts_admittedFields fields ps hp hw.1.1 hw.1.2 get
    have ht (y : Value ν) := (accepts_admitted t b hb hw.2 y).2
    refine accepts_only_iff (by simp) ?_
    simp only [Validator.Accepts, objectOf, TypeExpr.Has, keys_entries, hf, ht]
    rw [keys_of_admittedFields hp]
  | .object fields none, _, h, hw, x => by
    obtain ⟨ps, hp, rfl⟩ := admitted_object_none.1 h
    simp only [TypeExpr.wellFormed, Bool.and_eq_true, decide_eq_true_eq] at hw
    have hf (get : List Nat → Option (Value ν)) :=
      accepts_admittedFields fields ps hp hw.1.1 hw.1.2 get
    refine accepts_only_iff (by simp) ?_
    simp [Validator.Accepts, objectOf, TypeExpr.Has, hf]
  | .ref name, _, h, _, x => by
    obtain ⟨_, rfl⟩ := admitted_ref.1 h
    exact accepts_only_iff (by simp) Iff.rfl
  | .string, _, h, _, x | .number, _, h, _, x | .bigint, _, h, _, x | .boolean, _, h, _, x
  | .date, _, h, _, x | .null, _, h, _, x | .undefined, _, h, _, x | .unknown, _, h, _, x
  | .any, _, h, _, x | .never, _, h, _, x | .void, _, h, _, x | .text _, _, h, _, x
  | .numeral _, _, h, _, x | .truth _, _, h, _, x => by
    simp only [admitted, Except.ok.injEq] at h
    subst h
    exact accepts_only_iff (by simp) Iff.rfl

theorem accepts_admittedAll :
    ∀ (ts : List TypeExpr) (vs : List Validator), admittedAll s ts = .ok vs → wellFormedAll r.key ts →
      ∀ xs, List.Forall₂ (fun p x => p x) (acceptAll r meets env vs) xs ↔ HasEach r env ts xs
  | [], _, h, _, xs => by
    cases h
    rw [acceptAll, List.forall₂_nil_left_iff, HasEach]
  | t :: ts, _, h, hw, xs => by
    obtain ⟨b, hb, ws, hws, rfl⟩ := admittedAll_cons.1 h
    simp only [wellFormedAll, Bool.and_eq_true] at hw
    have ht (y : Value ν) := (accepts_admitted t b hb hw.1 y).1
    have hts (ys : List (Value ν)) := accepts_admittedAll ts ws hws hw.2 ys
    simp only [acceptAll, HasEach, List.forall₂_cons_left_iff, ht, hts]
    grind

theorem forall_accepts_admittedAll :
    ∀ (ts : List TypeExpr) (vs : List Validator), admittedAll s ts = .ok vs → wellFormedAll r.key ts →
      ∀ x, (∀ v ∈ vs, v.Accepts r meets env x) ↔ HasAll r env ts x
  | [], _, h, _, x => by
    cases h
    simp [HasAll]
  | t :: ts, _, h, hw, x => by
    obtain ⟨b, hb, ws, hws, rfl⟩ := admittedAll_cons.1 h
    simp only [wellFormedAll, Bool.and_eq_true] at hw
    rw [List.forall_mem_cons, HasAll, (accepts_admitted t b hb hw.1 x).1,
      forall_accepts_admittedAll ts ws hws hw.2 x]

theorem accepts_admittedCore :
    ∀ (ts : List TypeExpr) (vs : List Validator), admittedCore s ts = .ok vs → wellFormedAll r.key ts →
      ∀ x, (∃ v ∈ vs, v.Accepts r meets env x) ↔ ∃ t ∈ ts, IsProper t ∧ t.Has r env False x
  | [], _, h, _, x => by
    cases h
    simp
  | t :: ts, _, h, hw, x => by
    obtain ⟨b, hb, ws, hws, rfl⟩ := admittedCore_cons.1 h
    simp only [wellFormedAll, Bool.and_eq_true] at hw
    have ht := (accepts_admitted t b hb hw.1 x).1
    have hts := accepts_admittedCore ts ws hws hw.2 x
    rw [List.exists_mem_cons_iff, ← hts]
    split_ifs with hp
    · have hproper : ¬IsProper t := by
        rw [Bool.or_eq_true, isNull_iff, isUndefined_iff] at hp
        exact fun hq => hp.elim hq.1 hq.2
      simp [hproper]
    · have hproper : IsProper t := by
        rw [Bool.or_eq_true, isNull_iff, isUndefined_iff, not_or] at hp
        exact hp
      rw [List.exists_mem_cons_iff, ht]
      simp [hproper]

theorem accepts_admittedFields :
    ∀ (fs : List (Schema.Field TypeExpr)) (ps : List (Property Validator)),
      admittedFields s fs = .ok ps → (fs.map (r.key ·.name)).Nodup → wellFormedFields r.key fs → ∀ get,
        HoldEntries get ((ps.map (r.key ·.name)).zip (acceptProperties r meets env ps)) ↔
          HasFields r env fs get
  | [], _, h, _, _, get => by
    cases h
    simp [HoldEntries, HasFields, acceptProperties]
  | f :: fs, _, h, hn, hw, get => by
    obtain ⟨b, hb, qs, hq, rfl⟩ := admittedFields_cons.1 h
    simp only [wellFormedFields, Bool.and_eq_true] at hw
    rw [List.map_cons, List.nodup_cons] at hn
    have hf := (accepts_admitted f.type b hb hw.1 (readKey get (r.key f.name))).1
    have hfs := accepts_admittedFields fs qs hq hn.2 hw.2 get
    have hdocs : s.conditions f.docs = none := by simp [Scope.conditions, hs]
    rw [List.map_cons, acceptProperties, List.zip_cons_cons, HoldEntries, HasFields, hfs,
      keys_entries, keys_of_admittedFields hq]
    simp only [hdocs, accepts_documented, hf]
    simp [hn.1]

end

end Admitted

end SchemaGen.Zod

namespace SchemaGen.Schema

open Zod TypeScript

mutual

/-- The literals in the type can be read where they are written, and so can the names of its fields as keys. -/
def TypeExpr.readable : TypeExpr → Bool
  | .text contents => isTextContents contents
  | .numeral source => isSignedNumeral source.toList
  | .array item => item.readable
  | .tuple items | .union items | .intersection items => readableAll items
  | .record key value => key.readable && value.readable
  | .object fields index =>
    readableFields fields &&
      match index with
      | some t => t.readable
      | none => true
  | _ => true

def readableAll : List TypeExpr → Bool
  | [] => true
  | t :: ts => t.readable && readableAll ts

def readableFields : List (Schema.Field TypeExpr) → Bool
  | [] => true
  | f :: fs => isKeyName f.name && f.type.readable && readableFields fs

end

end SchemaGen.Schema

namespace SchemaGen.Zod

open Schema TypeScript

section Readable

variable {identifier : String → String}

theorem readable_wrap (nullable optional : Bool) (v : Validator) :
    (wrap nullable optional v).Readable identifier ↔ v.Readable identifier := by
  cases nullable <;> cases optional <;> rfl

theorem readable_documented (a : Admitted) (required : Bool) :
    (a.documented required none).Readable identifier ↔ a.core.Readable identifier :=
  readable_wrap a.null (!required || a.undefined) a.core

theorem readable_ofUnion {vs : List Validator} (h : ReadableAll identifier vs) (null undefined : Bool) :
    (Admitted.ofUnion vs null undefined).core.Readable identifier := by
  match vs with
  | [] => cases null <;> trivial
  | [_] => exact h.1
  | _ :: _ :: _ => exact h

theorem readable_allOf {vs : List Validator} (h : ReadableAll identifier vs) :
    (allOf vs).Readable identifier := by
  have fold (vs : List Validator) (v : Validator) (hv : v.Readable identifier)
      (hvs : ReadableAll identifier vs) : (vs.foldl Validator.both v).Readable identifier := by
    induction vs generalizing v with
    | nil => exact hv
    | cons w vs ih => exact ih (v.both w) ⟨hv, hvs.1⟩ hvs.2
  cases vs with
  | nil => trivial
  | cons v vs => exact fold vs v h.1 h.2

variable (s : Scope) (hs : s.tags = false) (hid : ∀ n ∈ s.known, isBinding (identifier n))

include hs hid

mutual

theorem readable_admitted : ∀ (t : TypeExpr) (a : Admitted), admitted s t = .ok a → t.readable →
    a.core.Readable identifier
  | .array item, _, h, hr => by
    obtain ⟨b, hb, rfl⟩ := admitted_array.1 h
    exact (readable_documented b true).2 (readable_admitted item b hb hr)
  | .tuple items, _, h, hr => by
    obtain ⟨vs, hv, rfl⟩ := admitted_tuple.1 h
    exact readable_admittedAll items vs hv hr
  | .union members, _, h, hr => by
    obtain ⟨vs, hv, rfl⟩ := admitted_union.1 h
    exact readable_ofUnion (readable_admittedCore members vs hv hr) _ _
  | .intersection members, _, h, hr => by
    obtain ⟨vs, hv, rfl⟩ := admitted_intersection.1 h
    exact readable_allOf (readable_admittedAll members vs hv hr)
  | .record key value, _, h, hr => by
    obtain ⟨b, hb, c, hc, rfl⟩ := admitted_record.1 h
    rw [TypeExpr.readable, Bool.and_eq_true] at hr
    have hvalue : b.present.Readable identifier :=
      (readable_wrap _ _ _).2 (readable_admitted value b hb hr.2)
    cases hstring : isString key with
    | true => exact hvalue
    | false => exact ⟨(readable_documented c true).2 (readable_admitted key c hc hr.1), hvalue⟩
  | .object fields (some t), _, h, hr => by
    obtain ⟨ps, hp, b, hb, rfl⟩ := admitted_object_some.1 h
    rw [TypeExpr.readable, Bool.and_eq_true] at hr
    have hindex : b.present.Readable identifier := (readable_wrap _ _ _).2 (readable_admitted t b hb hr.2)
    exact ⟨readable_admittedFields fields ps hp hr.1, hindex⟩
  | .object fields none, _, h, hr => by
    obtain ⟨ps, hp, rfl⟩ := admitted_object_none.1 h
    rw [TypeExpr.readable, Bool.and_eq_true] at hr
    exact readable_admittedFields fields ps hp hr.1
  | .ref name, _, h, _ => by
    obtain ⟨hname, rfl⟩ := admitted_ref.1 h
    exact hid name hname
  | .text _, _, h, hr | .numeral _, _, h, hr => by
    obtain rfl := Except.ok.inj h
    exact hr
  | .string, _, h, _ | .number, _, h, _ | .bigint, _, h, _ | .boolean, _, h, _ | .date, _, h, _
  | .null, _, h, _ | .undefined, _, h, _ | .unknown, _, h, _ | .any, _, h, _ | .never, _, h, _
  | .void, _, h, _ | .truth _, _, h, _ => by
    obtain rfl := Except.ok.inj h
    trivial

theorem readable_admittedAll : ∀ (ts : List TypeExpr) (vs : List Validator), admittedAll s ts = .ok vs →
    readableAll ts → ReadableAll identifier vs
  | [], _, h, _ => by
    obtain rfl := Except.ok.inj h
    trivial
  | t :: ts, _, h, hr => by
    obtain ⟨b, hb, ws, hws, rfl⟩ := admittedAll_cons.1 h
    rw [readableAll, Bool.and_eq_true] at hr
    exact ⟨(readable_documented b true).2 (readable_admitted t b hb hr.1), readable_admittedAll ts ws hws hr.2⟩

theorem readable_admittedCore : ∀ (ts : List TypeExpr) (vs : List Validator), admittedCore s ts = .ok vs →
    readableAll ts → ReadableAll identifier vs
  | [], _, h, _ => by
    obtain rfl := Except.ok.inj h
    trivial
  | t :: ts, _, h, hr => by
    obtain ⟨b, hb, ws, hws, rfl⟩ := admittedCore_cons.1 h
    rw [readableAll, Bool.and_eq_true] at hr
    have hrest := readable_admittedCore ts ws hws hr.2
    split_ifs
    · exact hrest
    · exact ⟨(readable_documented b true).2 (readable_admitted t b hb hr.1), hrest⟩

theorem readable_admittedFields : ∀ (fs : List (Schema.Field TypeExpr)) (ps : List (Property Validator)),
    admittedFields s fs = .ok ps → readableFields fs → ReadableProperties identifier ps
  | [], _, h, _ => by
    obtain rfl := Except.ok.inj h
    trivial
  | f :: fs, _, h, hr => by
    obtain ⟨b, hb, qs, hq, rfl⟩ := admittedFields_cons.1 h
    rw [readableFields, Bool.and_eq_true, Bool.and_eq_true] at hr
    have hdocs : s.conditions f.docs = none := by simp [Scope.conditions, hs]
    rw [hdocs]
    have hf := (readable_documented b f.required).2 (readable_admitted f.type b hb hr.1.2)
    exact ⟨hr.1.1, hf, readable_admittedFields fs qs hq hr.2⟩

end

end Readable

section Written

variable {ν : Type} {numeral : String → Value ν} {identifier : String → String}
  {env values : String → Value ν → Prop} {v : Validator} {p : Value ν → Prop}

/-- What is written for a validator is read as an expression that accepts what the validator accepts. -/
theorem accepted?_render (hr : v.Readable identifier) (hv : ∀ n ∈ v.names, values (identifier n) = env n)
    (hp : ∀ x, v.Accepts (javaScript numeral) (fun _ _ => True) env x ↔ p x) (indent : Nat) :
    accepted? numeral values (v.render ⟨identifier, false⟩ indent) = some p := by
  have hread : expression? (v.render ⟨identifier, false⟩ indent).toList = some (v.expression identifier) :=
    expression?_of_reads (reads_render indent v hr)
  have hmeans : Means numeral values (v.expression identifier)
      (v.Accepts (javaScript numeral) (fun _ _ => True) env) := means_expression v hr hv
  obtain ⟨x, hx, hmeaning⟩ := hmeans
  have hset : v.Accepts (javaScript numeral) (fun _ _ => True) env = p := funext fun x => propext (hp x)
  rw [accepted?, hread, Option.bind_some, hx, Option.bind_some, hmeaning, hset]

/-- Different names have different identifiers, so what the names stand for can be said of the
identifiers. -/
theorem exists_values {names : List String}
    (hi : ∀ m ∈ names, ∀ n ∈ names, identifier m = identifier n → m = n) (env : String → Value ν → Prop) :
    ∃ values : String → Value ν → Prop, ∀ n ∈ names, values (identifier n) = env n := by
  refine ⟨fun i x => ∃ n ∈ names, identifier n = i ∧ env n x, fun n hn => ?_⟩
  funext x
  apply propext
  constructor
  · rintro ⟨m, hm, he, hx⟩
    rwa [hi m hm n hn he] at hx
  · intro hx
    exact ⟨n, hn, rfl, hx⟩

end Written

/-- An optional property and an index whose unions mention `undefined`. -/
def rowType : TypeExpr :=
  .object [{ name := "data", type := .union [.undefined, .ref "Json", .null], required := false,
             docs := none },
           { name := "user id", type := .text "a\\n", required := true, docs := none }]
    (some (.union [.numeral "1", .undefined]))

section Names

variable {ν : Type} (numeral : String → Value ν) (values : String → Value ν → Prop)

/-- A property under the name of the prototype is not asked for. -/
theorem accepted?_prototype :
    accepted? numeral values
        (Validator.render ⟨id, false⟩ 0 (.object [⟨none, "__proto__", .base .string⟩] none)) =
      some (objectOf [] fun _ => True) := by
  have hunits : contentUnits? "__proto__".toList = some (keyUnits "__proto__") := by decide +kernel
  have hkey : keyUnits "__proto__" = prototypeKey := by decide +kernel
  have hentries : List.Forall₂ ReadsEntry (renderProperties ⟨id, false⟩ 1 [⟨none, "__proto__", .base .string⟩])
      [⟨keyUnits "__proto__", libraryCall "string" []⟩] := by
    rw [renderProperties_cons]
    exact .cons (readsEntry_property 1 hunits (by decide) (reads_base (m := "string") (by decide))) .nil
  have hread := expression?_of_reads (reads_object 0 _ hentries)
  rw [propertyExpressions, hkey] at hread
  have hown : [(⟨prototypeKey, .validator fun v => ∃ s, v = .text s⟩ : Entry (Thing ν))].filter
      (·.key ≠ prototypeKey) = [] := by simp
  have hobject : thing? numeral values (.object [⟨prototypeKey, libraryCall "string" []⟩]) =
      some (.literal []) := by
    rw [← hown]
    rfl
  have hthing := thing?_library (m := "object") (things?_singleton hobject)
  rw [accepted?, hread]
  exact congrArg (·.bind Thing.accepts?) hthing

/-- A name in which a double quote is escaped gives no expression. -/
theorem accepted?_escapedQuote :
    accepted? numeral values
        (Validator.render ⟨id, false⟩ 0 (.object [⟨none, "a\\\"b", .base .string⟩] none)) = none := by
  have hnone : (expression? (Validator.render ⟨id, false⟩ 0
      (.object [⟨none, "a\\\"b", .base .string⟩] none)).toList).isNone := by decide +kernel
  rw [accepted?, Option.isNone_iff_eq_none.1 hnone, Option.bind_none]

end Names

def textField (name : String) : TypeExpr :=
  .object [{ name := name, type := .string, required := true, docs := none }] none

end SchemaGen.Zod
