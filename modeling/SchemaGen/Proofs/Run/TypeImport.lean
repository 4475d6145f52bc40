import SchemaGen.Proofs.Database.Flattening
import SchemaGen.Proofs.Database.Selection
import SchemaGen.Proofs.Entity.TypeName
import SchemaGen.Proofs.Run.Blocks
import SchemaGen.Proofs.Run.Tree
import SchemaGen.Proofs.Schema.Reading
import SchemaGen.Proofs.Zod.Source

namespace SchemaGen.Run

open Syntax Database

section Stages

variable (parse : String → Node) (r : Run) (importPath : String) (flat : Flattened)

/-- The declarations that are handed to the converter. -/
def keptOf : List Candidate := (r.selection.select [] flat.candidates).1

def schemaWith : Schema := .ofNode (parse (r.selection.selected flat).source)

def generatedWith : Zod.Module :=
  (Zod.generate (r.schemaWith parse flat) (r.conversionOptions importPath)).1

/-- The statements of what the converter makes, as they are read again. -/
def statementsWith : List Entity.Statement :=
  let text := (r.generatedWith parse importPath flat).render
    (Zod.styleOf (r.conversionOptions importPath))
  Entity.Statement.ofNodes text.toList.toArray (parse text).namedChildren

def catalogWith : Entity.Catalog :=
  .ofStatements r.groupingOptions (r.statementsWith parse importPath flat)

end Stages

variable {parse : String → Node} {r : Run} {importPath source : String} {flat : Flattened}

/-- What is written is the grouped module, whether what was made has been checked or not. -/
theorem transformWith_text
    (hflat : r.selection.target.flatten source.toList.toArray (parse source) = .ok flat) :
    ∃ result, r.transformWith parse importPath source = .ok result ∧
      result.text = (r.catalogWith parse importPath flat).render r.selection.naming importPath := by
  refine ⟨_, transformWith_of_flatten hflat, ?_⟩
  change (Entity.Catalog.ofStatements _ _).render _ _ = _
  rw [source_convertedWith]
  rfl

theorem types_statements (s : Zod.Style) (m : Zod.Module) :
    (m.statements s).flatMap Entity.Statement.types = m.imported := by
  have hdeclarations : (m.declarations.map (·.statement s)).flatMap Entity.Statement.types = [] := by
    simp [Zod.Declaration.statement, Entity.Statement.types]
  rw [Zod.Module.statements, List.flatMap_append, hdeclarations, List.append_nil]
  unfold Zod.Module.importStatements
  split_ifs with hempty
  · simpa [Entity.Statement.types] using hempty
  · simp [Entity.Statement.types]

example : ((⟨["Tree", "Json"], "./types", []⟩ : Zod.Module).statements ⟨id, true⟩).flatMap
    Entity.Statement.types = ["Tree", "Json"] := by decide +kernel

/-- The types that a module imports are those of the declarations that refer to themselves. -/
theorem mem_typeImports (hread : r.statementsWith parse importPath flat =
      (r.generatedWith parse importPath flat).statements
        (Zod.styleOf (r.conversionOptions importPath))) (name : String) :
    name ∈ (r.catalogWith parse importPath flat).typeImports ↔
      name ≠ "Json" ∧ name ∈ (r.generatedWith parse importPath flat).declarations.map (·.name) ∧
        (r.schemaWith parse flat).Refers name name := by
  have himports : (r.catalogWith parse importPath flat).typeImports =
      (Entity.gather r.groupingOptions (r.statementsWith parse importPath flat)).typeImports := rfl
  rw [himports, Entity.mem_typeImports_gather, hread, types_statements]
  exact and_congr_right fun _ => Zod.mem_imported _ _ name

/-- A module imports the types of its declarations that refer to themselves. The source exports them all
exactly if it exports those that come out of the database type. -/
theorem transform_typeImports
    (hflat : r.selection.target.flatten source.toList.toArray (parse source) = .ok flat)
    (hnames : ∀ d ∈ (r.schemaWith parse flat).definitions, d.name ∈ (r.keptOf flat).map (·.name))
    (hread : r.statementsWith parse importPath flat =
      (r.generatedWith parse importPath flat).statements
        (Zod.styleOf (r.conversionOptions importPath))) :
    let c := r.catalogWith parse importPath flat
    let m := r.generatedWith parse importPath flat
    let exports := (exported (parse source)).map (·.1)
    (∃ result, r.transformWith parse importPath source = .ok result ∧
      result.text = c.render r.selection.naming importPath) ∧
    (∀ name, name ∈ c.typeImports ↔
      name ≠ "Json" ∧ name ∈ m.declarations.map (·.name) ∧
        (r.schemaWith parse flat).Refers name name) ∧
    ((∀ name ∈ c.typeImports, name ∈ exports) ↔
      ∀ k ∈ r.keptOf flat, r.selection.target.Nests (parse source) k →
        k.name ≠ "Json" → k.name ∈ m.declarations.map (·.name) →
        (r.schemaWith parse flat).Refers k.name k.name → k.name ∈ exports) := by
  intro c m exports
  refine ⟨transformWith_text hflat, mem_typeImports hread, ?_⟩
  constructor
  · intro hall k _ _ hjson hdeclared hself
    exact hall k.name ((mem_typeImports hread k.name).2 ⟨hjson, hdeclared, hself⟩)
  · intro hnested name hname
    obtain ⟨hjson, hdeclared, hself⟩ := (mem_typeImports hread name).1 hname
    obtain ⟨d, hd, rfl⟩ := List.mem_map.1 hdeclared
    obtain ⟨x, hx, hxd⟩ := List.mem_map.1 (Zod.name_mem_definitions _ _ hd)
    obtain ⟨k, hk, hkx⟩ := List.mem_map.1 (hnames x hx)
    have hkd : k.name = d.name := hkx.trans hxd
    have hflatten := mem_flatten hflat ((select_sublist r.selection [] flat.candidates).subset hk)
    rw [← hkd] at hjson hdeclared hself ⊢
    rcases hflatten with hexported | hnests
    · exact hexported
    · exact hnested k hk hnests hjson hdeclared hself

def treeFlat : List Char := [
  "export type Tree = \x7b at: Date; up: Tree \x7d;\n\n",
  "export type Date = \"soon\";\n"].flatMap String.toList

def treeFlatBody : Node :=
  spanning treeFlat "object_type" ["value"] [
    tokenAt 1 19 [] "\x7b",
    propertyAt treeFlat 1 21 "at" (nodeAt 1 25 "type_identifier" [] "Date" []),
    tokenAt 1 29 [] ";",
    propertyAt treeFlat 1 31 "up" (nodeAt 1 35 "type_identifier" [] "Tree" []),
    tokenAt 1 40 [] "\x7d"]

def treeFlatTree : Node :=
  nodeAt 1 0 "program" [] (.ofList treeFlat) [
    exportAt treeFlat 1 0 "Tree" [tokenAt 1 17 [] "=", treeFlatBody, tokenAt 1 41 [] ";"],
    exportAt treeFlat 3 44 "Date" [
      tokenAt 3 61 [] "=",
      spanning treeFlat "literal_type" ["value"] [stringAt 3 63 [] "soon"],
      tokenAt 3 69 [] ";"]]

def treeOutput : List Char := [
  "// Generated by supazod\nimport \x7b z \x7d from \"zod\";\n",
  "import type \x7b Tree \x7d from \"./types\";\n\n",
  "export const TreeSchema: z.ZodSchema<Tree> = z.lazy(() => z.object(\x7b\n",
  "  at: z.date(),\n  up: TreeSchema,\n\x7d));\n\n",
  "export const DateSchema = z.literal(\"soon\");\n"].flatMap String.toList

def treeOutputTree : Node :=
  nodeAt 1 0 "program" [] (.ofList treeOutput) [
    nodeAt 1 0 "comment" [] "// Generated by supazod" [],
    importAt treeOutput 2 33 [tokenAt 2 24 [] "import"] "z" "zod",
    importAt treeOutput 3 63 [tokenAt 3 49 [] "import", tokenAt 3 56 [] "type"] "Tree" "./types",
    wrappedAt treeOutput 5 87 "TreeSchema" "Tree"
      (callAt treeOutput 5 145 ["body"] "object" [
        tokenAt 5 153 [] "(",
        spanning treeOutput "object" [] [
          tokenAt 5 154 [] "\x7b",
          spanning treeOutput "pair" [] [
            nodeAt 6 158 "property_identifier" ["key"] "at" [],
            tokenAt 6 160 [] ":",
            callAt treeOutput 6 162 ["value"] "date" [tokenAt 6 168 [] "(", tokenAt 6 169 [] ")"]],
          tokenAt 6 170 [] ",",
          spanning treeOutput "pair" [] [
            nodeAt 7 174 "property_identifier" ["key"] "up" [],
            tokenAt 7 176 [] ":",
            nodeAt 7 178 "identifier" ["value"] "TreeSchema" []],
          tokenAt 7 188 [] ",",
          tokenAt 8 190 [] "\x7d"],
        tokenAt 8 191 [] ")"]) 8,
    constantAt treeOutput 10 196 "DateSchema" [
      tokenAt 10 220 [] "=",
      callAt treeOutput 10 222 ["value"] "literal" [
        tokenAt 10 231 [] "(", stringAt 10 232 [] "soon", tokenAt 10 238 [] ")"]]
      (tokenAt 10 239 [] ";")]

def treeParse (source : String) : Node :=
  if source.toList = treeSource then treeSourceTree
  else if source.toList = treeFlat then treeFlatTree else treeOutputTree

/-- The schema that is read from the selected declarations. -/
def treeSchema : Schema :=
  ⟨[⟨"Tree", none, .alias (.object [⟨"at", .date, true, none⟩, ⟨"up", .ref "Tree", true, none⟩] none)⟩,
    ⟨"Date", none, .alias (.text "soon")⟩], []⟩

theorem ofNode_treeFlatBody : Schema.TypeExpr.ofNode treeFlatBody =
    .object [⟨"at", .date, true, none⟩, ⟨"up", .ref "Tree", true, none⟩] none := by
  have hbody : Schema.TypeExpr.ofNode treeFlatBody = .ofMembers ([
      propertyAt treeFlat 1 21 "at" (nodeAt 1 25 "type_identifier" [] "Date" []),
      propertyAt treeFlat 1 31 "up" (nodeAt 1 35 "type_identifier" [] "Tree" [])].map
        Schema.Member.ofNode) := by
    rw [Schema.TypeExpr.ofNode_eq]
    exact Schema.ofBody_eq treeFlatBody
  rw [hbody, List.map_cons, List.map_cons, ofNode_propertyAt _ _ _ _ rfl,
    ofNode_propertyAt _ _ _ _ rfl, ofNode_identifier, ofNode_identifier]
  rfl

theorem ofNode_treeFlatTree : Schema.ofNode treeFlatTree = treeSchema := by
  have hsoon : Schema.TypeExpr.ofNode
      (spanning treeFlat "literal_type" ["value"] [stringAt 3 63 [] "soon"]) = .text "soon" := by
    rw [Schema.TypeExpr.ofNode_eq]
    rfl
  rw [treeSchema, ← ofNode_treeFlatBody, ← hsoon]
  rfl

/-- Statements whose texts are taken from a list of characters. -/
theorem ofNodes_toArray (source : List Char) (ns : List Node) :
    Entity.Statement.ofNodes source.toArray ns = (annotate ns).map fun a =>
      ⟨.ofNode a.node, .ofList (source.extract a.start a.stop)⟩ := by
  refine List.map_congr_left fun a _ => ?_
  rw [Entity.Statement.ofAnnotated, Annotated.text, List.extract_toArray]

def treeCandidates : List Candidate := [
  ⟨"Tree", [], "export type Tree = \x7b at: Date; up: Tree \x7d;"⟩,
  ⟨"Date", [], "export type Date = \"soon\";"⟩]

theorem flatten_treeSource : ∃ flat,
    aliasRun.selection.target.flatten treeSource.toArray treeSourceTree = .ok flat ∧
      aliasRun.keptOf flat = treeCandidates := by
  have h : (aliasRun.selection.target.flatten treeSource.toArray treeSourceTree).toOption.map
      aliasRun.keptOf = some treeCandidates := by
    decide +kernel
  exact exists_of_toOption_map h

theorem schemaWith_tree {flat : Flattened} (hkept : aliasRun.keptOf flat = treeCandidates) :
    aliasRun.schemaWith treeParse flat = treeSchema := by
  have hsource : (aliasRun.selection.selected flat).source = .ofList treeFlat := by
    have hselected : (aliasRun.selection.selected flat).source =
        "\n\n".intercalate ((aliasRun.keptOf flat).map (·.text)) ++ "\n" := rfl
    rw [hselected, hkept]
    refine Eq.trans ?_ (ofList_flatMap_toList _).symm
    decide +kernel
  have hparse : treeParse (.ofList treeFlat) = treeFlatTree := by
    rw [treeParse, String.toList_ofList, if_neg (by decide +kernel), if_pos rfl]
  rw [schemaWith, hsource, hparse, ofNode_treeFlatTree]

theorem statementsWith_tree {flat : Flattened}
    (hschema : aliasRun.schemaWith treeParse flat = treeSchema) :
    aliasRun.statementsWith treeParse "./types" flat =
      (aliasRun.generatedWith treeParse "./types" flat).statements
        (Zod.styleOf (aliasRun.conversionOptions "./types")) := by
  have hrender : (Zod.generate treeSchema (aliasRun.conversionOptions "./types")).1.render
      (Zod.styleOf (aliasRun.conversionOptions "./types")) = .ofList treeOutput := by
    refine Eq.trans ?_ (ofList_flatMap_toList _).symm
    decide +kernel
  have hparse : treeParse (.ofList treeOutput) = treeOutputTree := by
    rw [treeParse, String.toList_ofList, if_neg (by decide +kernel), if_neg (by decide +kernel)]
  rw [statementsWith, generatedWith, hschema, hrender, hparse, String.toList_ofList, ofNodes_toArray]
  decide +kernel

theorem transform_typeImports_tree : ∃ flat,
    aliasRun.selection.target.flatten (String.ofList treeSource).toList.toArray
      (treeParse (.ofList treeSource)) = .ok flat ∧
    (∀ d ∈ (aliasRun.schemaWith treeParse flat).definitions,
      d.name ∈ (aliasRun.keptOf flat).map (·.name)) ∧
    aliasRun.statementsWith treeParse "./types" flat =
      (aliasRun.generatedWith treeParse "./types" flat).statements
        (Zod.styleOf (aliasRun.conversionOptions "./types")) ∧
    "Tree" ∈ (aliasRun.catalogWith treeParse "./types" flat).typeImports ∧
    "Tree" ∉ (exported (treeParse (.ofList treeSource))).map (·.1) := by
  have hparse : treeParse (.ofList treeSource) = treeSourceTree := by
    rw [treeParse, String.toList_ofList, if_pos rfl]
  obtain ⟨flat, hflat, hkept⟩ := flatten_treeSource
  have hflat' : aliasRun.selection.target.flatten (String.ofList treeSource).toList.toArray
      (treeParse (.ofList treeSource)) = .ok flat := by
    rw [hparse, String.toList_ofList, hflat]
  have hschema := schemaWith_tree hkept
  have hnames : ∀ d ∈ (aliasRun.schemaWith treeParse flat).definitions,
      d.name ∈ (aliasRun.keptOf flat).map (·.name) := by
    rw [hschema, hkept]
    decide
  have hread := statementsWith_tree hschema
  obtain ⟨_, himports, _⟩ := transform_typeImports hflat' hnames hread
  refine ⟨flat, hflat', hnames, hread, (himports "Tree").2 ⟨by decide, ?_, ?_⟩, ?_⟩
  · rw [generatedWith, hschema]
    decide +kernel
  · rw [hschema]
    exact ⟨_, rfl, by decide⟩
  · rw [hparse]
    decide +kernel

end SchemaGen.Run
