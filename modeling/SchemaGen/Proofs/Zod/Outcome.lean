import SchemaGen.Proofs.Zod.Admission
import SchemaGen.Proofs.Zod.Ordering
import SchemaGen.Zod.Generation

namespace SchemaGen.Zod

open Schema

section Refusal

variable {α β : Type}

/-- The problems of a type: a part that cannot be expressed or a name that is not known. -/
def IsRefusal (s : Scope) : Problem → Prop
  | .unsupported _ => True
  | .unknownType name => name ∉ s.known
  | _ => False

/-- Failing is only possible with a problem of a type. -/
def Refuses (s : Scope) (x : Except Problem α) : Prop := ∀ p, x = .error p → IsRefusal s p

theorem refuses_ok (s : Scope) (a : α) : Refuses s (.ok a) := by
  intro p h
  cases h

theorem Refuses.bind {s : Scope} {x : Except Problem α} {f : α → Except Problem β}
    (hx : Refuses s x) (hf : ∀ a, Refuses s (f a)) : Refuses s (x >>= f) := by
  cases x with
  | error p =>
    intro q h
    cases h
    exact hx p rfl
  | ok a => exact hf a

mutual

theorem admitted_refuses (s : Scope) : ∀ t : TypeExpr, Refuses s (admitted s t)
  | .array item => (admitted_refuses s item).bind fun _ => refuses_ok s _
  | .tuple items => (admittedAll_refuses s items).bind fun _ => refuses_ok s _
  | .union members => (admittedCore_refuses s members).bind fun _ => refuses_ok s _
  | .intersection members => (admittedAll_refuses s members).bind fun _ => refuses_ok s _
  | .record key value => by
    rw [admitted]
    refine (admitted_refuses s value).bind fun v => ?_
    split_ifs
    · exact refuses_ok s _
    · exact (admitted_refuses s key).bind fun _ => refuses_ok s _
  | .object fields (some t) =>
    (admittedFields_refuses s fields).bind fun _ =>
      (admitted_refuses s t).bind fun _ => refuses_ok s _
  | .object fields none => (admittedFields_refuses s fields).bind fun _ => refuses_ok s _
  | .ref name => by
    rw [admitted]
    split_ifs with h
    · exact refuses_ok s _
    · intro p hp
      cases hp
      exact h
  | .unsupported _ => by
    intro p hp
    cases hp
    trivial
  | .string | .number | .bigint | .boolean | .date | .null | .undefined | .unknown | .any | .never
  | .void | .text _ | .numeral _ | .truth _ => refuses_ok s _

theorem admittedAll_refuses (s : Scope) : ∀ ts : List TypeExpr, Refuses s (admittedAll s ts)
  | [] => refuses_ok s _
  | t :: ts => (admitted_refuses s t).bind fun _ =>
    (admittedAll_refuses s ts).bind fun _ => refuses_ok s _

theorem admittedCore_refuses (s : Scope) : ∀ ts : List TypeExpr, Refuses s (admittedCore s ts)
  | [] => refuses_ok s _
  | t :: ts => by
    have hts := admittedCore_refuses s ts
    by_cases h : t = .null ∨ t = .undefined
    · rcases h with rfl | rfl <;> exact hts
    · rw [not_or] at h
      rw [admittedCore_cons_of_ne h.1 h.2]
      exact (admitted_refuses s t).bind fun _ => hts.bind fun _ => refuses_ok s _

theorem admittedFields_refuses (s : Scope) :
    ∀ fs : List (Schema.Field TypeExpr), Refuses s (admittedFields s fs)
  | [] => refuses_ok s _
  | f :: fs => (admitted_refuses s f.type).bind fun _ =>
    (admittedFields_refuses s fs).bind fun _ => refuses_ok s _

end

theorem ofDefinition_refuses (s : Scope) (d : Definition) :
    Refuses (s.within d.name) (Declaration.ofDefinition s d) := by
  refine Refuses.bind ?_ fun _ => refuses_ok _ _
  cases d.shape with
  | struct fields => exact (admittedFields_refuses _ fields).bind fun _ => refuses_ok _ _
  | enumeration values => exact refuses_ok _ _
  | «alias» t => exact (admitted_refuses _ t).bind fun _ => refuses_ok _ _

theorem excludes_of_refusal {s : Scope} {d : Definition} {p : Problem}
    (h : Declaration.ofDefinition s d = .error p) (name : String) :
    Report.excludes name ⟨some d.name, p⟩ = decide (d.name = name) := by
  have hp : p ≠ .declaredTwice := by
    rintro rfl
    exact ofDefinition_refuses s d _ h
  simp [Report.excludes, hp]

end Refusal

section Source

/-- The line that imports types, if there are any. -/
def typeImport (names : List String) (path : String) : String :=
  if names.isEmpty then ""
  else "import type \x7b " ++ ", ".intercalate names ++ " \x7d from \"" ++ path ++ "\";\n"

/-- A declaration with its type, in a wrapper that looks its identifier up later. -/
def Declaration.wrapped (s : Style) (d : Declaration) : String :=
  s.comment d.docs 0 ++ "export const " ++ s.identifier d.name ++
    (": z.ZodSchema<" ++ d.name ++ "> = z.lazy(() => " ++ d.validator.render s 0 ++ ");")

/-- A declaration without a type and a wrapper. -/
def Declaration.plain (s : Style) (d : Declaration) : String :=
  s.comment d.docs 0 ++ "export const " ++ s.identifier d.name ++
    (" = " ++ d.validator.render s 0 ++ ";")

theorem render_eq_ite (s : Style) (d : Declaration) :
    d.render s = if d.recursive then d.wrapped s else d.plain s := by
  unfold Declaration.render Declaration.wrapped Declaration.plain
  cases d.recursive <;> rfl

/-- Declarations as they stand in a source, in their order. -/
def declarationLines (s : Style) (ds : List Declaration) : String :=
  String.join (ds.map fun d => "\n" ++ (if d.recursive then d.wrapped s else d.plain s) ++ "\n")

/-- The source of the validators consists of the declarations made and nothing else. -/
theorem convertSchema_source (schema : Schema) (o : Conversion.Options) :
    (convertSchema schema o).source =
      "// Generated by supazod\nimport \x7b z \x7d from \"zod\";\n" ++
        typeImport (generate schema o).1.imported o.importPath ++
        declarationLines (styleOf o) (generate schema o).1.declarations := by
  simp only [declarationLines, ← render_eq_ite]
  rfl

end Source

section Definitions

variable (name : String)

theorem countP_firstOfEach (seen : List String) (ds : List Definition) :
    (firstOfEach seen ds).countP (·.name = name) =
      if name ∉ seen ∧ name ∈ ds.map (·.name) then 1 else 0 := by
  induction ds generalizing seen with
  | nil => simp [firstOfEach]
  | cons d ds ih =>
    rw [firstOfEach]
    by_cases hs : d.name ∈ seen
    · rw [if_pos hs, ih]
      by_cases hn : d.name = name
      · subst hn
        simp [hs]
      · simp [Ne.symm hn]
    · rw [if_neg hs, List.countP_cons, ih]
      by_cases hn : d.name = name
      · subst hn
        simp [hs]
      · simp [hn, Ne.symm hn]

/-- All definitions of a name but the first are repetitions. -/
theorem count_repeatedNames (seen : List String) (ds : List Definition) :
    (repeatedNames seen ds).count name =
      (ds.map (·.name)).count name - if name ∈ seen then 0 else 1 := by
  induction ds generalizing seen with
  | nil => simp [repeatedNames]
  | cons d ds ih =>
    rw [repeatedNames, List.map_cons]
    by_cases hn : d.name = name
    · subst hn
      by_cases hs : d.name ∈ seen
      · simp [hs, ih]
      · simp [hs, ih]
    · split_ifs <;> simp_all [Ne.symm hn]

/-- Every definition gets a declaration of its own or a report. -/
theorem countP_declareAll (s : Scope) (ds : List Definition) :
    (declareAll s ds).1.countP (·.name = name) +
      (declareAll s ds).2.countP (Report.excludes name) = ds.countP (·.name = name) := by
  induction ds with
  | nil => rfl
  | cons d ds ih =>
    rw [declareAll]
    cases h : Declaration.ofDefinition s d with
    | ok e =>
      have hn := name_ofDefinition h
      simp only [List.countP_cons, hn]
      omega
    | error p =>
      simp only [List.countP_cons, excludes_of_refusal h]
      omega

theorem exists_excludes_of_mem_declareAll (s : Scope) (ds : List Definition) :
    ∀ r ∈ (declareAll s ds).2, ∃ name, r.excludes name := by
  induction ds with
  | nil => simp [declareAll]
  | cons d ds ih =>
    rw [declareAll]
    cases h : Declaration.ofDefinition s d with
    | ok e => exact ih
    | error p =>
      intro r hr
      rcases List.mem_cons.1 hr with rfl | hr
      · exact ⟨d.name, by simp [excludes_of_refusal h]⟩
      · exact ih r hr

end Definitions

section Generate

variable (schema : Schema) (o : Conversion.Options)

/-- What can be declared of the first definitions of all names, and reports on the rest. -/
def declared : List Declaration × List Report :=
  declareAll (scopeOf schema o) (firstOfEach [] schema.definitions)

def ordering : Ordering := order (closed (declared schema o).1).1 o.passes

theorem generate_declarations :
    (generate schema o).1.declarations = (ordering schema o).ordered := rfl

end Generate

theorem excludes_leftoverReport (o : Ordering) (passes : Nat) (name : String) (d : Declaration) :
    Report.excludes name (o.leftoverReport passes d) = decide (d.name = name) := by
  unfold Ordering.leftoverReport Report.excludes
  cases o.stalled <;> simp

/-- The reports on the module as a whole and on repetitions come first; all others exclude a name. -/
theorem generate_reports (schema : Schema) (o : Conversion.Options) :
    ∃ rs, (generate schema o).2 =
      schema.syntaxErrors.map (fun e => ⟨none, .syntaxError e.line e.snippet⟩) ++
        (repeatedNames [] schema.definitions).map (fun n => ⟨some n, .declaredTwice⟩) ++ rs ∧
      (∀ r ∈ rs, ∃ name, r.excludes name) ∧
      ∀ name, (generate schema o).1.declarations.countP (·.name = name) +
        rs.countP (Report.excludes name) =
          (firstOfEach [] schema.definitions).countP (·.name = name) := by
  refine ⟨(declared schema o).2 ++ ((closed (declared schema o).1).2 ++
    (ordering schema o).leftover.map ((ordering schema o).leftoverReport o.passes)), ?_, ?_, ?_⟩
  · simp only [← List.append_assoc]
    rfl
  · intro r hr
    rcases List.mem_append.1 hr with hr | hr
    · exact exists_excludes_of_mem_declareAll _ _ r hr
    rcases List.mem_append.1 hr with hr | hr
    · exact exists_excludes_of_mem_closed _ r hr
    · obtain ⟨d, _, rfl⟩ := List.mem_map.1 hr
      exact ⟨d.name, by simp [excludes_leftoverReport]⟩
  · intro name
    have left : ((ordering schema o).leftover.map
        ((ordering schema o).leftoverReport o.passes)).countP (Report.excludes name) =
          (ordering schema o).leftover.countP (·.name = name) := by
      simp [List.countP_map, Function.comp_def, excludes_leftoverReport]
    have own : (declared schema o).1.countP (·.name = name) +
        (declared schema o).2.countP (Report.excludes name) = _ :=
      countP_declareAll name (scopeOf schema o) (firstOfEach [] schema.definitions)
    have kept := countP_closed name (declared schema o).1
    have placed : (ordering schema o).ordered.countP (·.name = name) +
        (ordering schema o).leftover.countP (·.name = name) = _ :=
      countP_order (closed (declared schema o).1).1 o.passes name
    rw [generate_declarations, List.countP_append, List.countP_append, left]
    omega

/-- A declared name has one declaration or one report that excludes it. -/
theorem countP_generate (schema : Schema) (o : Conversion.Options) (name : String) :
    (generate schema o).1.declarations.countP (·.name = name) +
        (generate schema o).2.countP (Report.excludes name) =
      if name ∈ schema.definitions.map (·.name) then 1 else 0 := by
  obtain ⟨rs, hrs, -, hcount⟩ := generate_reports schema o
  have first := countP_firstOfEach name [] schema.definitions
  have excluded : (generate schema o).2.countP (Report.excludes name) =
      rs.countP (Report.excludes name) := by
    simp [hrs, List.countP_map, Function.comp_def, Report.excludes]
  simp only [List.not_mem_nil, not_false_eq_true, true_and] at first
  rw [excluded, hcount, first]

/-- Every name that is defined is declared once in the source and excluded by no report, or it is not
declared and one report excludes it; a name defined `k` times is reported `k - 1` times for that, and the
reports on the module as a whole are those on the syntax errors, one each. -/
theorem generate_outcome (schema : Schema) (o : Conversion.Options) :
    let m := (generate schema o).1
    let made := convertSchema schema o
    made.source = "// Generated by supazod\nimport \x7b z \x7d from \"zod\";\n" ++
        typeImport m.imported o.importPath ++ declarationLines (styleOf o) m.declarations ∧
    (∀ name, if name ∈ schema.definitions.map (·.name) then
        m.declarations.countP (·.name = name) = 1 ∧
          made.reports.countP (Report.excludes name) = 0 ∨
        m.declarations.countP (·.name = name) = 0 ∧
          made.reports.countP (Report.excludes name) = 1
      else
        m.declarations.countP (·.name = name) = 0 ∧
          made.reports.countP (Report.excludes name) = 0) ∧
    (∀ name, made.reports.count ⟨some name, .declaredTwice⟩ =
      (schema.definitions.map (·.name)).count name - 1) ∧
    made.reports.filter (·.declaration = none) =
      schema.syntaxErrors.map fun e => ⟨none, .syntaxError e.line e.snippet⟩ := by
  intro m made
  obtain ⟨rs, hrs, hex, -⟩ := generate_reports schema o
  have hreports : made.reports = (generate schema o).2 := rfl
  rw [hreports]
  refine ⟨convertSchema_source schema o, fun name => ?_, fun name => ?_, ?_⟩
  · have total : m.declarations.countP (·.name = name) + _ = _ := countP_generate schema o name
    split_ifs at total ⊢ with h
    · omega
    · omega
  · have others : rs.count ⟨some name, .declaredTwice⟩ = 0 := by
      rw [List.count_eq_zero]
      intro hmem
      obtain ⟨n, hn⟩ := hex _ hmem
      simp [Report.excludes] at hn
    have inj : Function.Injective fun n => Report.mk (some n) .declaredTwice := by
      intro a b h
      simpa using h
    have twice := List.count_map_of_injective (repeatedNames [] schema.definitions) _ inj name
    have unread : (schema.syntaxErrors.map fun e =>
        Report.mk none (.syntaxError e.line e.snippet)).count ⟨some name, .declaredTwice⟩ = 0 := by
      simp [List.count_eq_zero]
    rw [hrs, List.count_append, List.count_append, unread, twice, others, count_repeatedNames]
    simp
  · have others : rs.filter (·.declaration = none) = [] := by
      rw [List.filter_eq_nil_iff]
      intro r hr hnone
      obtain ⟨n, hn⟩ := hex r hr
      simp_all [Report.excludes]
    rw [hrs, List.filter_append, List.filter_append, others]
    simp [List.filter_map, Function.comp_def]

end SchemaGen.Zod
