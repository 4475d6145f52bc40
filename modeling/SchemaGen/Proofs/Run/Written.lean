import SchemaGen.Proofs.Run.Arrangement
import SchemaGen.Proofs.Run.Tree
import SchemaGen.Run.Basic
import SchemaGen.Zod.Converter

namespace SchemaGen

open Syntax Zod

/-- A parser reads a generated module as one exported constant for each declaration. -/
def Reads (parse : String → Node) (s : Style) (m : Zod.Module) : Prop :=
  (Entity.Statement.ofNodes (m.render s).toList.toArray
      (parse (m.render s)).namedChildren).filterMap (·.constant?) =
    m.declarations.map fun d => (s.identifier d.name, d.render s)

namespace Run

section With

variable (parse : String → Node) (r : Run) (importPath source : String)

/-- The validators for the types in a source, which is read by the given parser. -/
def moduleWith : Except Database.MissingSchema Zod.Module := do
  let flat ← r.selection.target.flatten source.toList.toArray (parse source)
  let schema := Schema.ofNode (parse (r.selection.selected flat).source)
  return (Zod.generate schema (r.conversionOptions importPath)).1

/-- A run of the Zod converter with the given parser in all its stages. -/
def transformWith : Except Stop Result :=
  r.transform (fun s => .ok (parse s)) (Zod.converter fun s => .ok (parse s)) importPath source

/-- What the Zod converter makes of the selected types. -/
def convertedWith (flat : Database.Flattened) : Conversion :=
  let made := convertSchema (.ofNode (parse (r.selection.selected flat).source)) (r.conversionOptions importPath)
  if r.skipValidation then made
  else { made with reports := made.reports ++ check (parse made.source) }

end With

section Stages

variable {parse : String → Node} {r : Run} {importPath source : String} {flat : Database.Flattened}

theorem source_convertedWith :
    (r.convertedWith parse importPath flat).source = (convertSchema
      (.ofNode (parse (r.selection.selected flat).source)) (r.conversionOptions importPath)).source := by
  unfold convertedWith
  cases r.skipValidation <;> rfl

/-- A run that finds the schema gives a module, which is grouped from what the converter makes. -/
theorem transformWith_of_flatten
    (h : r.selection.target.flatten source.toList.toArray (parse source) = .ok flat) :
    let converted := r.convertedWith parse importPath flat
    r.transformWith parse importPath source =
      .ok (r.resultOf importPath (r.selection.selected flat) converted (.ofStatements r.groupingOptions
        (Entity.Statement.ofNodes converted.source.toList.toArray (parse converted.source).namedChildren))) := by
  have hconverted : Zod.convert (fun s => .ok (parse s)) (r.conversionOptions importPath)
      (r.selection.selected flat).source = .ok (r.convertedWith parse importPath flat) := by
    unfold Zod.convert convertedWith conversionOptions
    cases r.skipValidation <;> rfl
  have hselected : r.selection.preprocess (fun s => .ok (parse s)) source =
      .ok (r.selection.selected flat) := by
    change (Except.mapError Stop.missingSchema (r.selection.target.flatten _ (parse source)) >>= _) = _
    rw [h]
    rfl
  rw [transformWith, transform, hselected]
  change (Except.mapError Stop.unparsed (Zod.convert _ _ _) >>= _) = _
  rw [hconverted]
  rfl

end Stages

section Blocks

variable {n : Naming} (s : Style)

def blockOf (n : Naming) (s : Style) (d : Declaration) : Entity.Block :=
  ⟨n.schemaName d.name, pascal d.name, d.render s⟩

theorem blockOf?_eq (o : Entity.Options) (t : Entity.Statement) :
    o.blockOf? t = t.constant?.bind fun c =>
      (o.naming.baseName? c.1).map fun name => ⟨c.1, name, c.2⟩ := by
  unfold Entity.Options.blockOf? Entity.Statement.constant?
  cases t.kind with
  | constant identifier => rfl
  | imports types => rfl
  | other => rfl

theorem firstBlocks_declared (hm : n.marker ≠ "") (seen : List String) (ds : List Declaration) :
    Entity.firstBlocks seen (ds.filterMap fun d =>
        (n.baseName? (n.schemaName d.name)).map fun name =>
          ⟨n.schemaName d.name, name, d.render s⟩) =
      (kept n seen ds).map (blockOf n s) := by
  induction ds generalizing seen with
  | nil => rfl
  | cons d ds ih =>
    by_cases hp : pascal d.name = ""
    · rw [List.filterMap_cons_none (by simp [n.baseName?_schemaName hm, hp]),
        kept_cons_of_dropped (.inl hp), ih]
    · have hb : n.baseName? (n.schemaName d.name) = some (pascal d.name) := by
        rw [n.baseName?_schemaName hm, if_neg hp]
      rw [List.filterMap_cons_some (by rw [hb]; rfl), Entity.firstBlocks]
      by_cases hseen : n.schemaName d.name ∈ seen
      · rw [if_pos hseen, kept_cons_of_dropped (.inr hseen), ih]
      · rw [if_neg hseen, kept_cons_of_kept (not_or.2 ⟨hp, hseen⟩), ih, List.map_cons]
        rfl

/-- The blocks among statements that export one constant for each declaration. -/
theorem gather_declared (hm : n.marker ≠ "") (suffixes : List String) (ts : List Entity.Statement)
    (ds : List Declaration)
    (ht : ts.filterMap (·.constant?) = ds.map fun d => (n.schemaName d.name, d.render s)) :
    (Entity.gather (.ofNaming n suffixes) ts).json.toList ++
        (Entity.gather (.ofNaming n suffixes) ts).blocks =
      (arranged n ds).map (blockOf n s) := by
  have hblocks : ts.filterMap (Entity.Options.ofNaming n suffixes).blockOf? =
      ds.filterMap fun d => (n.baseName? (n.schemaName d.name)).map fun name =>
        ⟨n.schemaName d.name, name, d.render s⟩ := by
    have hbind := List.filterMap_filterMap (f := Entity.Statement.constant?)
      (g := fun c => (n.baseName? c.1).map fun name => Entity.Block.mk c.1 name c.2) (l := ts)
    rw [ht, List.filterMap_map] at hbind
    rw [List.filterMap_congr fun t _ => blockOf?_eq _ t]
    exact hbind.symm
  rw [Entity.gather_blocks, hblocks, firstBlocks_declared s hm, arranged, List.map_append,
    List.find?_map, List.filter_map, Option.toList_map]
  rfl

end Blocks

/-- The module that a run writes declares every validator before it is used, exactly if no validator that
is needed lacks a name and `Json` needs none. -/
theorem transform_declaredBeforeUse (parse : String → Node) (r : Run)
    (hm : r.selection.naming.marker ≠ "") (importPath source : String) (m : Zod.Module)
    (h : r.moduleWith parse importPath source = .ok m)
    (hread : Reads parse (styleOf (r.conversionOptions importPath)) m) :
    let n := r.selection.naming
    let ds := arranged n m.declarations
    ∃ result, r.transformWith parse importPath source = .ok result ∧
      ∃ c : Entity.Catalog, result.text = c.render n importPath ∧
        c.json.toList ++ c.blocks =
          ds.map (blockOf n (styleOf (r.conversionOptions importPath))) ∧
        (DeclaredBeforeUse n.schemaName [] ds ↔
          (∀ d ∈ ds, ∀ m ∈ d.needs, pascal m ≠ "") ∧
          ∀ d ∈ ds, n.schemaName d.name = n.schemaName "Json" → d.needs = []) := by
  intro n ds
  obtain ⟨flat, hflat, hm'⟩ := bind_eq_ok.1 h
  obtain rfl := pure_eq_ok.1 hm'
  refine ⟨_, transformWith_of_flatten hflat, _, rfl, ?_, ?_⟩
  · rw [source_convertedWith]
    exact gather_declared _ hm r.suffixes _ _ hread
  · refine declaredBeforeUse_arranged_iff (declarations_inOrder _ _) fun d hd k => ?_
    exact mem_references_iff _ _ (declarations_subset _ _ hd) k

def aliasSource : String := "export type Json = A\n\nexport type A = string\n"

def aliasTree : Node :=
  nodeAt 1 0 "program" [] aliasSource [
    nodeAt 1 0 "export_statement" [] "export type Json = A" [
      tokenAt 1 0 [] "export",
      nodeAt 1 7 "type_alias_declaration" ["declaration"] "type Json = A" [
        tokenAt 1 7 [] "type",
        nodeAt 1 12 "type_identifier" ["name"] "Json" [],
        tokenAt 1 17 [] "=",
        nodeAt 1 19 "type_identifier" ["value"] "A" []]],
    nodeAt 3 22 "export_statement" [] "export type A = string" [
      tokenAt 3 22 [] "export",
      nodeAt 3 29 "type_alias_declaration" ["declaration"] "type A = string" [
        tokenAt 3 29 [] "type",
        nodeAt 3 34 "type_identifier" ["name"] "A" [],
        tokenAt 3 36 [] "=",
        nodeAt 3 38 "predefined_type" ["value"] "string" [tokenAt 3 38 [] "string"]]]]

def aliasOutput : String :=
  "// Generated by supazod\nimport \x7b z \x7d from \"zod\";\n\n" ++
    "export const ASchema = z.string();\n\nexport const JsonSchema = ASchema;\n"

def aliasOutputTree : Node :=
  nodeAt 1 0 "program" [] aliasOutput [
    nodeAt 1 0 "comment" [] "// Generated by supazod" [],
    nodeAt 2 24 "import_statement" [] "import \x7b z \x7d from \"zod\";" [
      tokenAt 2 24 [] "import",
      nodeAt 2 31 "import_clause" [] "\x7b z \x7d" [
        nodeAt 2 31 "named_imports" [] "\x7b z \x7d" [
          tokenAt 2 31 [] "\x7b",
          nodeAt 2 33 "import_specifier" [] "z" [nodeAt 2 33 "identifier" ["name"] "z" []],
          tokenAt 2 35 [] "\x7d"]],
      tokenAt 2 37 [] "from",
      nodeAt 2 42 "string" ["source"] "\"zod\"" [
        tokenAt 2 42 [] "\"",
        nodeAt 2 43 "string_fragment" [] "zod" [],
        tokenAt 2 46 [] "\""],
      tokenAt 2 47 [] ";"],
    nodeAt 4 50 "export_statement" [] "export const ASchema = z.string();" [
      tokenAt 4 50 [] "export",
      nodeAt 4 57 "lexical_declaration" ["declaration"] "const ASchema = z.string();" [
        tokenAt 4 57 ["kind"] "const",
        nodeAt 4 63 "variable_declarator" [] "ASchema = z.string()" [
          nodeAt 4 63 "identifier" ["name"] "ASchema" [],
          tokenAt 4 71 [] "=",
          nodeAt 4 73 "call_expression" ["value"] "z.string()" [
            nodeAt 4 73 "member_expression" ["function"] "z.string" [
              nodeAt 4 73 "identifier" ["object"] "z" [],
              tokenAt 4 74 [] ".",
              nodeAt 4 75 "property_identifier" ["property"] "string" []],
            nodeAt 4 81 "arguments" ["arguments"] "()" [tokenAt 4 81 [] "(", tokenAt 4 82 [] ")"]]],
        tokenAt 4 83 [] ";"]],
    nodeAt 6 86 "export_statement" [] "export const JsonSchema = ASchema;" [
      tokenAt 6 86 [] "export",
      nodeAt 6 93 "lexical_declaration" ["declaration"] "const JsonSchema = ASchema;" [
        tokenAt 6 93 ["kind"] "const",
        nodeAt 6 99 "variable_declarator" [] "JsonSchema = ASchema" [
          nodeAt 6 99 "identifier" ["name"] "JsonSchema" [],
          tokenAt 6 110 [] "=",
          nodeAt 6 112 "identifier" ["value"] "ASchema" []],
        tokenAt 6 119 [] ";"]]]

def aliasParse (source : String) : Node := if source = aliasSource then aliasTree else aliasOutputTree

def aliasRun : Run where
  input := "types.ts"
  output := "schemas.ts"
  selection :=
    { target := ⟨"Database", "public"⟩, naming := .standard, nameFilter := none, tagFilter := none }
  suffixes := Entity.standardSuffixes
  keepComments := false
  skipTags := false
  skipValidation := false
  passes := 10

def aliasSchema : Schema :=
  ⟨[⟨"Json", none, .alias (.ref "A")⟩, ⟨"A", none, .alias .string⟩], []⟩

theorem ofNode_aliasTree : Schema.ofNode aliasTree = aliasSchema := by
  have hjson : Schema.TypeExpr.ofNode (nodeAt 1 19 "type_identifier" ["value"] "A" []) = .ref "A" := by
    rw [Schema.TypeExpr.ofNode]
    rfl
  have hstring : Schema.TypeExpr.ofNode
      (nodeAt 3 38 "predefined_type" ["value"] "string" [tokenAt 3 38 [] "string"]) = .string := by
    rw [Schema.TypeExpr.ofNode]
    rfl
  rw [aliasSchema, ← hjson, ← hstring]
  rfl

/-- A result is there if what is made of it is. -/
theorem exists_of_toOption_map {ε α β : Type} {x : Except ε α} {f : α → β} {b : β}
    (h : x.toOption.map f = some b) : ∃ a, x = .ok a ∧ f a = b := by
  cases x with
  | error e => cases h
  | ok a => exact ⟨a, rfl, Option.some.inj h⟩

theorem flatten_aliasSource : ∃ flat,
    aliasRun.selection.target.flatten aliasSource.toList.toArray aliasTree = .ok flat ∧
      (aliasRun.selection.selected flat).source = aliasSource := by
  have h : (aliasRun.selection.target.flatten aliasSource.toList.toArray aliasTree).toOption.map
      (fun flat => (aliasRun.selection.selected flat).source) = some aliasSource := by
    decide +kernel
  exact exists_of_toOption_map h

theorem transform_declaredBeforeUse_alias :
    aliasRun.selection.naming.marker ≠ "" ∧
      ∃ m, aliasRun.moduleWith aliasParse "./types" aliasSource = .ok m ∧
        Reads aliasParse (styleOf (aliasRun.conversionOptions "./types")) m ∧
        ∃ result, aliasRun.transformWith aliasParse "./types" aliasSource = .ok result ∧
          ¬DeclaredBeforeUse Naming.standard.schemaName []
            (arranged Naming.standard m.declarations) := by
  have hm : aliasRun.selection.naming.marker ≠ "" := by decide
  obtain ⟨flat, hflat, hsource⟩ := flatten_aliasSource
  have hin : aliasParse aliasSource = aliasTree := if_pos rfl
  have hout : aliasParse aliasOutput = aliasOutputTree := if_neg (by decide +kernel)
  have hmodule : aliasRun.moduleWith aliasParse "./types" aliasSource =
      .ok (Zod.generate aliasSchema (aliasRun.conversionOptions "./types")).1 := by
    have hread : aliasRun.moduleWith aliasParse "./types" aliasSource =
        .ok (Zod.generate (.ofNode (aliasParse (aliasRun.selection.selected flat).source))
          (aliasRun.conversionOptions "./types")).1 := by
      rw [moduleWith, hin, hflat]
      rfl
    rw [hread, hsource, hin, ofNode_aliasTree]
  have hread : Reads aliasParse (styleOf (aliasRun.conversionOptions "./types"))
      (Zod.generate aliasSchema (aliasRun.conversionOptions "./types")).1 := by
    have hrender : (Zod.generate aliasSchema (aliasRun.conversionOptions "./types")).1.render
        (styleOf (aliasRun.conversionOptions "./types")) = aliasOutput := by
      decide +kernel
    rw [Reads, hrender, hout]
    decide +kernel
  obtain ⟨result, hresult, c, _, _, hiff⟩ :=
    transform_declaredBeforeUse aliasParse aliasRun hm "./types" aliasSource _ hmodule hread
  refine ⟨hm, _, hmodule, hread, result, hresult, fun hu => ?_⟩
  have needs : (arranged Naming.standard
      (Zod.generate aliasSchema (aliasRun.conversionOptions "./types")).1.declarations).map
        (fun d => (d.name, d.needs)) = [("Json", ["A"]), ("A", [])] := by
    decide +kernel
  obtain ⟨d, hd, heq⟩ := List.mem_map.1 (needs ▸ List.mem_cons_self)
  rw [Prod.mk.injEq] at heq
  have hnil := (hiff.1 hu).2 d hd (by rw [heq.1])
  rw [heq.2] at hnil
  exact List.cons_ne_nil _ _ hnil

end Run

end SchemaGen
