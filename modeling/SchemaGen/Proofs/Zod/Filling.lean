import SchemaGen.Proofs.Schema.Filling
import SchemaGen.Proofs.Zod.Admission

namespace SchemaGen.Zod

open Schema

def emitted (name : String) : Validator :=
  match name with
  | "Date" => .base .date
  | "PropertyKey" => .union [.base .string, .base .number]
  | other => .ref other

theorem emitted_eq_ref_iff (name : String) :
    emitted name = .ref name ↔ name ≠ "Date" ∧ name ≠ "PropertyKey" := by
  unfold emitted
  split <;> simp_all

def Scope.knowing (s : Scope) (name : String) : Scope := { s with known := name :: s.known }

structure Filling where
  hole : String
  validator : Validator

mutual

def Validator.fill (ψ : Filling) : Validator → Validator
  | .base b => .base b
  | .literal l => .literal l
  | .choice values => .choice values
  | .array item => .array (item.fill ψ)
  | .tuple items => .tuple (fillAll ψ items)
  | .record key value =>
    match key with
    | some k => .record (some (k.fill ψ)) (value.fill ψ)
    | none => .record none (value.fill ψ)
  | .object properties rest =>
    match rest with
    | some r => .object (fillProperties ψ properties) (some (r.fill ψ))
    | none => .object (fillProperties ψ properties) none
  | .union members => .union (fillAll ψ members)
  | .both left right => .both (left.fill ψ) (right.fill ψ)
  | .ref type => if type = ψ.hole then ψ.validator else .ref type
  | .refined inner r => .refined (inner.fill ψ) r
  | .optional inner => .optional (inner.fill ψ)
  | .nullable inner => .nullable (inner.fill ψ)
  | .withDefault inner value => .withDefault (inner.fill ψ) value

def fillAll (ψ : Filling) : List Validator → List Validator
  | [] => []
  | v :: vs => v.fill ψ :: fillAll ψ vs

def fillProperties (ψ : Filling) : List (Property Validator) → List (Property Validator)
  | [] => []
  | p :: ps => { p with validator := p.validator.fill ψ } :: fillProperties ψ ps

end

def Admitted.fill (ψ : Filling) (a : Admitted) : Admitted := { a with core := a.core.fill ψ }

section Wrappers

variable (ψ : Filling)

theorem fill_wrap (nullable optional : Bool) (v : Validator) :
    wrap nullable optional (v.fill ψ) = (wrap nullable optional v).fill ψ := by
  cases nullable <;> cases optional <;> rfl

theorem fill_refine (docs : Option Doc) (v : Validator) :
    refine docs (v.fill ψ) = (refine docs v).fill ψ := by
  have hfold (rs : List Refinement) (v : Validator) :
      rs.foldl Validator.refined (v.fill ψ) = (rs.foldl Validator.refined v).fill ψ := by
    induction rs generalizing v with
    | nil => rfl
    | cons r rs ih => exact ih (.refined v r)
  cases docs with
  | none => rfl
  | some d => exact hfold (refinements d) v

theorem fill_documented (a : Admitted) (required : Bool) (docs : Option Doc) :
    (a.fill ψ).documented required docs = (a.documented required docs).fill ψ := by
  unfold Admitted.documented
  cases docs.bind defaultValue? with
  | none => exact (congrArg _ (fill_refine ψ docs a.core)).trans (fill_wrap ψ _ _ _)
  | some value =>
    have hwrap := (congrArg _ (fill_refine ψ docs a.core)).trans
      (fill_wrap ψ a.null (!required || a.undefined) (refine docs a.core))
    exact congrArg (Validator.withDefault · value) hwrap

theorem fill_whole (a : Admitted) : (a.fill ψ).whole = a.whole.fill ψ := fill_documented ψ a true none

theorem fill_present (a : Admitted) : (a.fill ψ).present = a.present.fill ψ :=
  fill_wrap ψ a.null false a.core

theorem fill_ofUnion (vs : List Validator) (null undefined : Bool) :
    Admitted.ofUnion (fillAll ψ vs) null undefined = (Admitted.ofUnion vs null undefined).fill ψ := by
  match vs with
  | [] => cases null <;> rfl
  | [v] => rfl
  | v :: w :: vs => rfl

theorem fill_allOf (vs : List Validator) : allOf (fillAll ψ vs) = (allOf vs).fill ψ := by
  have hfold (vs : List Validator) (v : Validator) :
      (fillAll ψ vs).foldl Validator.both (v.fill ψ) = (vs.foldl Validator.both v).fill ψ := by
    induction vs generalizing v with
    | nil => rfl
    | cons w vs ih => exact ih (.both v w)
  cases vs with
  | nil => rfl
  | cons v vs => exact hfold vs v

end Wrappers

mutual

/-- A filled validator mentions what the filling mentions, if there is a hole, and what else was
mentioned before. -/
theorem mem_names_fill (ψ : Filling) (n : String) : ∀ v : Validator,
    n ∈ (v.fill ψ).names ↔ n ∈ v.names ∧ n ≠ ψ.hole ∨ ψ.hole ∈ v.names ∧ n ∈ ψ.validator.names
  | .base _ | .literal _ | .choice _ => by simp [Validator.fill, Validator.names]
  | .array item => mem_names_fill ψ n item
  | .tuple items => mem_namesOfAll_fill ψ n items
  | .union members => mem_namesOfAll_fill ψ n members
  | .record (some key) value => by
    have hkey := mem_names_fill ψ n key
    have hvalue := mem_names_fill ψ n value
    simp only [Validator.fill, Validator.names, List.mem_append, or_and_right]
    rw [hvalue, hkey, or_or_or_comm]
  | .record none value => mem_names_fill ψ n value
  | .object properties (some rest) => by
    have hproperties := mem_namesOfProperties_fill ψ n properties
    have hrest := mem_names_fill ψ n rest
    simp only [Validator.fill, Validator.names, List.mem_append, or_and_right]
    rw [hproperties, hrest, or_or_or_comm]
  | .object properties none => mem_namesOfProperties_fill ψ n properties
  | .both left right => by
    have hleft := mem_names_fill ψ n left
    have hright := mem_names_fill ψ n right
    simp only [Validator.fill, Validator.names, List.mem_append, or_and_right]
    rw [hleft, hright, or_or_or_comm]
  | .ref type => by
    by_cases h : type = ψ.hole
    · simp [Validator.fill, Validator.names, h]
    · have hne : ψ.hole ≠ type := fun heq => h heq.symm
      have hkeep : n = type ↔ n = type ∧ n ≠ ψ.hole := by
        constructor
        · rintro rfl
          exact ⟨rfl, h⟩
        · exact And.left
      simp [Validator.fill, Validator.names, h, hne, ← hkeep]
  | .refined inner _ => mem_names_fill ψ n inner
  | .optional inner => mem_names_fill ψ n inner
  | .nullable inner => mem_names_fill ψ n inner
  | .withDefault inner _ => mem_names_fill ψ n inner

theorem mem_namesOfAll_fill (ψ : Filling) (n : String) : ∀ vs : List Validator,
    n ∈ namesOfAll (fillAll ψ vs) ↔
      n ∈ namesOfAll vs ∧ n ≠ ψ.hole ∨ ψ.hole ∈ namesOfAll vs ∧ n ∈ ψ.validator.names
  | [] => by simp [fillAll, namesOfAll]
  | v :: vs => by
    have hv := mem_names_fill ψ n v
    have hvs := mem_namesOfAll_fill ψ n vs
    simp only [fillAll, namesOfAll, List.mem_append, or_and_right]
    rw [hv, hvs, or_or_or_comm]

theorem mem_namesOfProperties_fill (ψ : Filling) (n : String) : ∀ ps : List (Property Validator),
    n ∈ namesOfProperties (fillProperties ψ ps) ↔
      n ∈ namesOfProperties ps ∧ n ≠ ψ.hole ∨ ψ.hole ∈ namesOfProperties ps ∧ n ∈ ψ.validator.names
  | [] => by simp [fillProperties, namesOfProperties]
  | p :: ps => by
    have hp := mem_names_fill ψ n p.validator
    have hps := mem_namesOfProperties_fill ψ n ps
    simp only [fillProperties, namesOfProperties, List.mem_append, or_and_right]
    rw [hp, hps, or_or_or_comm]

end

section Named

variable (s : Scope) (hole name : String)

/-- A name that has a validator has that which is emitted for it. -/
theorem admitted_named {a : Admitted} (h : admitted s (.named name) = .ok a) :
    a = .only (emitted name) := by
  unfold TypeExpr.named at h
  split at h
  · exact (Except.ok.inj h).symm
  · exact (Except.ok.inj h).symm
  · next hdate hkey =>
    obtain ⟨-, rfl⟩ := admitted_ref.1 h
    rw [(emitted_eq_ref_iff name).2 ⟨hdate, hkey⟩]

/-- A hole is not `null`, `undefined` or a text, and no name means one of them. -/
theorem kind_fill (t : TypeExpr) :
    isNull (t.fill ⟨hole, .named name⟩) = isNull t ∧
      isUndefined (t.fill ⟨hole, .named name⟩) = isUndefined t ∧
      isString (t.fill ⟨hole, .named name⟩) = isString t := by
  cases t with
  | ref other =>
    rw [TypeExpr.fill]
    split_ifs
    · unfold TypeExpr.named
      split <;> exact ⟨rfl, rfl, rfl⟩
    · exact ⟨rfl, rfl, rfl⟩
  | object fields index => cases index <;> exact ⟨rfl, rfl, rfl⟩
  | _ => exact ⟨rfl, rfl, rfl⟩

mutual

/-- The validator of a type with a name in its hole is that of the type with the hole, filled. -/
theorem admitted_filled : ∀ (t : TypeExpr) {a : Admitted},
    admitted s (t.fill ⟨hole, .named name⟩) = .ok a →
      ∃ b, admitted (s.knowing hole) t = .ok b ∧ a = b.fill ⟨hole, emitted name⟩
  | .array item, _, h => by
    obtain ⟨c, hc, rfl⟩ := admitted_array.1 h
    obtain ⟨b, hb, rfl⟩ := admitted_filled item hc
    exact ⟨_, admitted_array.2 ⟨b, hb, rfl⟩, by rw [fill_whole]; rfl⟩
  | .tuple items, _, h => by
    obtain ⟨ws, hws, rfl⟩ := admitted_tuple.1 h
    obtain ⟨vs, hvs, rfl⟩ := admittedAll_filled items hws
    exact ⟨_, admitted_tuple.2 ⟨vs, hvs, rfl⟩, rfl⟩
  | .union members, _, h => by
    obtain ⟨ws, hws, rfl⟩ := admitted_union.1 h
    obtain ⟨vs, hvs, rfl⟩ := admittedCore_filled members hws
    refine ⟨_, admitted_union.2 ⟨vs, hvs, rfl⟩, ?_⟩
    have hnull : (Schema.fillAll ⟨hole, .named name⟩ members).any isNull = members.any isNull := by
      simp [fillAll_eq_map, List.any_map, Function.comp_def, kind_fill]
    have hundefined : (Schema.fillAll ⟨hole, .named name⟩ members).any isUndefined =
        members.any isUndefined := by
      simp [fillAll_eq_map, List.any_map, Function.comp_def, kind_fill]
    rw [hnull, hundefined, fill_ofUnion]
  | .intersection members, _, h => by
    obtain ⟨ws, hws, rfl⟩ := admitted_intersection.1 h
    obtain ⟨vs, hvs, rfl⟩ := admittedAll_filled members hws
    exact ⟨_, admitted_intersection.2 ⟨vs, hvs, rfl⟩, by rw [fill_allOf]; rfl⟩
  | .record key value, _, h => by
    obtain ⟨b, hb, c, hc, rfl⟩ := admitted_record.1 h
    obtain ⟨d, hd, rfl⟩ := admitted_filled value hb
    obtain ⟨e, he, rfl⟩ := admitted_filled key hc
    refine ⟨_, admitted_record.2 ⟨d, hd, e, he, rfl⟩, ?_⟩
    rw [(kind_fill hole name key).2.2, fill_whole, fill_present]
    cases isString key <;> rfl
  | .object fields (some t), _, h => by
    obtain ⟨qs, hqs, c, hc, rfl⟩ := admitted_object_some.1 h
    obtain ⟨ps, hps, rfl⟩ := admittedFields_filled fields hqs
    obtain ⟨b, hb, rfl⟩ := admitted_filled t hc
    exact ⟨_, admitted_object_some.2 ⟨ps, hps, b, hb, rfl⟩, by rw [fill_present]; rfl⟩
  | .object fields none, _, h => by
    obtain ⟨qs, hqs, rfl⟩ := admitted_object_none.1 h
    obtain ⟨ps, hps, rfl⟩ := admittedFields_filled fields hqs
    exact ⟨_, admitted_object_none.2 ⟨ps, hps, rfl⟩, rfl⟩
  | .ref other, _, h => by
    rw [TypeExpr.fill] at h
    split_ifs at h with heq
    · subst heq
      have hknown : admitted (s.knowing other) (.ref other) = .ok (.only (.ref other)) :=
        admitted_ref.2 ⟨List.mem_cons_self, rfl⟩
      refine ⟨_, hknown, ?_⟩
      rw [admitted_named s name h]
      simp [Admitted.only, Admitted.fill, Validator.fill]
    · obtain ⟨hknown, rfl⟩ := admitted_ref.1 h
      refine ⟨_, admitted_ref.2 ⟨List.mem_cons_of_mem _ hknown, rfl⟩, ?_⟩
      have hne : ¬other = hole := heq
      simp [Admitted.only, Admitted.fill, Validator.fill, hne]
  | .unsupported _, _, h => by simp [TypeExpr.fill, admitted] at h
  | .string, _, h | .number, _, h | .bigint, _, h | .boolean, _, h | .date, _, h | .null, _, h
  | .undefined, _, h | .unknown, _, h | .any, _, h | .never, _, h | .void, _, h | .text _, _, h
  | .numeral _, _, h | .truth _, _, h => by
    obtain rfl := Except.ok.inj h
    exact ⟨_, rfl, rfl⟩

theorem admittedAll_filled : ∀ (ts : List TypeExpr) {ws : List Validator},
    admittedAll s (Schema.fillAll ⟨hole, .named name⟩ ts) = .ok ws →
      ∃ vs, admittedAll (s.knowing hole) ts = .ok vs ∧ ws = fillAll ⟨hole, emitted name⟩ vs
  | [], _, h => by
    obtain rfl := Except.ok.inj h
    exact ⟨[], rfl, rfl⟩
  | t :: ts, _, h => by
    obtain ⟨c, hc, ws, hws, rfl⟩ := admittedAll_cons.1 h
    obtain ⟨b, hb, rfl⟩ := admitted_filled t hc
    obtain ⟨vs, hvs, rfl⟩ := admittedAll_filled ts hws
    exact ⟨_, admittedAll_cons.2 ⟨b, hb, vs, hvs, rfl⟩, by rw [fill_whole]; rfl⟩

theorem admittedCore_filled : ∀ (ts : List TypeExpr) {ws : List Validator},
    admittedCore s (Schema.fillAll ⟨hole, .named name⟩ ts) = .ok ws →
      ∃ vs, admittedCore (s.knowing hole) ts = .ok vs ∧ ws = fillAll ⟨hole, emitted name⟩ vs
  | [], _, h => by
    obtain rfl := Except.ok.inj h
    exact ⟨[], rfl, rfl⟩
  | t :: ts, _, h => by
    obtain ⟨c, hc, ws, hws, rfl⟩ := admittedCore_cons.1 h
    obtain ⟨b, hb, rfl⟩ := admitted_filled t hc
    obtain ⟨vs, hvs, rfl⟩ := admittedCore_filled ts hws
    refine ⟨_, admittedCore_cons.2 ⟨b, hb, vs, hvs, rfl⟩, ?_⟩
    obtain ⟨hnull, hundefined, -⟩ := kind_fill hole name t
    rw [hnull, hundefined, fill_whole]
    split_ifs <;> rfl

theorem admittedFields_filled : ∀ (fs : List (Schema.Field TypeExpr)) {qs : List (Property Validator)},
    admittedFields s (fillFields ⟨hole, .named name⟩ fs) = .ok qs →
      ∃ ps, admittedFields (s.knowing hole) fs = .ok ps ∧
        qs = fillProperties ⟨hole, emitted name⟩ ps
  | [], _, h => by
    obtain rfl := Except.ok.inj h
    exact ⟨[], rfl, rfl⟩
  | f :: fs, _, h => by
    obtain ⟨c, hc, qs, hqs, rfl⟩ := admittedFields_cons.1 h
    obtain ⟨b, hb, rfl⟩ := admitted_filled f.type hc
    obtain ⟨ps, hps, rfl⟩ := admittedFields_filled fs hqs
    exact ⟨_, admittedFields_cons.2 ⟨b, hb, ps, hps, rfl⟩, by rw [fill_documented]; rfl⟩

end

end Named

end SchemaGen.Zod
