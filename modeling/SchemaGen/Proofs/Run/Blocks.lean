import SchemaGen.Proofs.Entity.Partition
import SchemaGen.Proofs.Run.Written

namespace SchemaGen

namespace Zod

def Module.importStatements (m : Module) : List Entity.Statement :=
  ⟨.imports [], "// Generated by supazod\nimport \x7b z \x7d from \"zod\";"⟩ ::
    if m.imported.isEmpty then []
    else [⟨.imports m.imported, "import type \x7b " ++ ", ".intercalate m.imported ++ " \x7d from \"" ++
      m.importPath ++ "\";"⟩]

def Declaration.statement (s : Style) (d : Declaration) : Entity.Statement :=
  ⟨.constant (s.identifier d.name), d.render s⟩

/-- The statements of a module: its imports, and one exported constant for each declaration. -/
def Module.statements (s : Style) (m : Module) : List Entity.Statement :=
  m.importStatements ++ m.declarations.map (·.statement s)

/-- The texts of the statements make up the written module. -/
theorem render_eq_statements (s : Style) (m : Module) :
    m.render s = String.join (m.importStatements.map fun t => t.text ++ "\n") ++
      String.join ((m.declarations.map (·.statement s)).map fun t => "\n" ++ t.text ++ "\n") := by
  unfold Module.render Module.importStatements
  rw [List.map_map]
  split_ifs with h
  · simp [Declaration.statement, Function.comp_def]
  · simp [Declaration.statement, Function.comp_def, String.append_assoc]

theorem constant?_statement (s : Style) (d : Declaration) :
    (d.statement s).constant? = some (s.identifier d.name, d.render s) := rfl

theorem constants_statements (s : Style) (m : Module) :
    (m.statements s).filterMap (·.constant?) =
      m.declarations.map fun d => (s.identifier d.name, d.render s) := by
  have himports : m.importStatements.filterMap (·.constant?) = [] := by
    unfold Module.importStatements
    split_ifs <;> rfl
  rw [Module.statements, List.filterMap_append, himports, List.nil_append, List.filterMap_map]
  simp only [Function.comp_def, constant?_statement, List.filterMap_eq_map']

theorem name_mem_definitions (schema : Schema) (o : Conversion.Options) {d : Declaration}
    (hd : d ∈ (generate schema o).1.declarations) : d.name ∈ schema.definitions.map (·.name) := by
  obtain ⟨definition, hget, -⟩ := (mem_declared schema o d).1 (declarations_subset schema o hd)
  exact schema.mem_of_get? hget

theorem nodup_schemaNames (n : Naming) (schema : Schema) (o : Conversion.Options)
    (hd : (schema.definitions.map fun d => n.schemaName d.name).Nodup) :
    ((generate schema o).1.declarations.map fun d => n.schemaName d.name).Nodup := by
  have hnames := declarations_nodup schema o
  have hdeclarations := hnames.of_map
  refine (List.nodup_map_iff_inj_on hdeclarations).2 ?_
  intro d hdm e hem heq
  obtain ⟨x, hx, hxd⟩ := List.mem_map.1 (name_mem_definitions schema o hdm)
  obtain ⟨y, hy, hye⟩ := List.mem_map.1 (name_mem_definitions schema o hem)
  have hxy : x = y := List.inj_on_of_nodup_map hd hx hy (by rw [hxd, hye, heq])
  refine List.inj_on_of_nodup_map hnames hdm hem ?_
  rw [← hxd, ← hye, hxy]

end Zod

namespace Run

open Zod

section Fate

variable (n : Naming) (s : Style) (suffixes : List String)

/-- What becomes of a declaration beside others with different identifiers. -/
def fate (d : Declaration) : Entity.Outcome :=
  if pascal d.name = "" then .dropped ⟨some (n.schemaName d.name), .unmarked n.marker⟩
  else if pascal d.name = "Json" then .json (blockOf n s d)
  else .block (blockOf n s d)

variable {n}

theorem pascal_json : pascal "Json" = "Json" := by decide +kernel

theorem outcome_declared (hm : n.marker ≠ "") {above : List String} {d : Declaration}
    (hnew : n.schemaName d.name ∉ above) :
    (Entity.Options.ofNaming n suffixes).outcome above (n.schemaName d.name, d.render s) =
      fate n s d := by
  unfold Entity.Options.outcome fate
  have hbase : (Entity.Options.ofNaming n suffixes).naming.baseName? (n.schemaName d.name) =
      if pascal d.name = "" then none else some (pascal d.name) := n.baseName?_schemaName hm d.name
  have hjson : n.schemaName d.name = (Entity.Options.ofNaming n suffixes).jsonIdentifier ↔
      pascal d.name = "Json" := by
    have h := n.schemaName_eq_iff d.name "Json"
    rw [pascal_json] at h
    exact h
  by_cases hp : pascal d.name = ""
  · simp only [hbase, if_pos hp]
    rfl
  · simp only [hbase, if_neg hp, if_neg hnew, hjson]
    rfl

theorem outcomes_declared (hm : n.marker ≠ "") (above : List String) {ds : List Declaration}
    (hd : (ds.map fun d => n.schemaName d.name).Nodup)
    (hnew : ∀ d ∈ ds, n.schemaName d.name ∉ above) :
    (Entity.Options.ofNaming n suffixes).outcomes above
        (ds.map fun d => (n.schemaName d.name, d.render s)) = ds.map (fate n s) := by
  induction ds generalizing above with
  | nil => rfl
  | cons d ds ih =>
    rw [List.map_cons, List.nodup_cons] at hd
    rw [List.forall_mem_cons] at hnew
    have hrest : ∀ e ∈ ds, n.schemaName e.name ∉ n.schemaName d.name :: above := by
      intro e he hmem
      rcases List.mem_cons.1 hmem with heq | hmem
      · exact hd.1 (List.mem_map.2 ⟨e, he, heq⟩)
      · exact hnew.2 e he hmem
    rw [List.map_cons, Entity.Options.outcomes, outcome_declared s suffixes hm hnew.1,
      ih _ hd.2 hrest, List.map_cons]

theorem json?_fate (d : Declaration) :
    (fate n s d).json? = if pascal d.name = "Json" then some (blockOf n s d) else none := by
  by_cases hp : pascal d.name = ""
  · simp [fate, hp, Entity.Outcome.json?]
  · by_cases hj : pascal d.name = "Json" <;> simp [fate, hp, hj, Entity.Outcome.json?]

theorem block?_fate (d : Declaration) :
    (fate n s d).block? =
      if pascal d.name ≠ "" ∧ pascal d.name ≠ "Json" then some (blockOf n s d) else none := by
  by_cases hp : pascal d.name = ""
  · simp [fate, hp, Entity.Outcome.block?]
  · by_cases hj : pascal d.name = "Json" <;> simp [fate, hp, hj, Entity.Outcome.block?]

theorem diagnostic?_fate (d : Declaration) :
    (fate n s d).diagnostic? =
      if pascal d.name = "" then some ⟨some (n.schemaName d.name), .unmarked n.marker⟩ else none := by
  by_cases hp : pascal d.name = ""
  · simp [fate, hp, Entity.Outcome.diagnostic?]
  · by_cases hj : pascal d.name = "Json" <;> simp [fate, hp, hj, Entity.Outcome.diagnostic?]

/-- Types have different names in Pascal case if they have different identifiers. -/
theorem nodup_pascal {ds : List Declaration} (hd : (ds.map fun d => n.schemaName d.name).Nodup) :
    (ds.map (pascal ·.name)).Nodup := by
  have hsame : (ds.map (pascal ·.name)).map (fun p => n.lead ++ p ++ n.suffix) =
      ds.map fun d => n.schemaName d.name := by
    rw [List.map_map]
    rfl
  exact List.Nodup.of_map _ (hsame ▸ hd)

/-- The fates of one kind come from the declarations that a condition picks out. -/
theorem filterMap_fate {β : Type} {part : Entity.Outcome → Option β} {f : Declaration → β}
    {c : Declaration → Prop} [DecidablePred c]
    (h : ∀ d, part (fate n s d) = if c d then some (f d) else none) (ds : List Declaration) :
    (ds.map (fate n s)).filterMap part = (ds.filter c).map f := by
  induction ds with
  | nil => rfl
  | cons d ds ih =>
    rw [List.map_cons, List.filterMap_cons, List.filter_cons, ih, h]
    by_cases hc : c d <;> simp [hc]

end Fate

/-- Names that hold the mark and the beginning of identifiers, and one of which nothing is left. -/
def versionSchema : Schema where
  definitions := [
    { name := "db_schema_versions", docs := none, shape := .alias (.array (.ref "Json")) },
    { name := "Json", docs := none, shape := .alias .string },
    { name := "SchemaDb", docs := none, shape := .alias (.ref "db_schema_versions") },
    { name := "_", docs := none, shape := .alias .null }]
  syntaxErrors := []

def versionNaming : Naming := ⟨"Db", "Schema"⟩

end Run

end SchemaGen
