import SchemaGen.Proofs.Entity.Alias
import SchemaGen.Proofs.Run.TypeImport

namespace SchemaGen

namespace Zod

theorem head?_comment (d : Schema.Doc) : (d.render 0).toList.head? = some '/' := by
  unfold Schema.Doc.render
  dsimp only
  split <;> simp [Schema.Doc.margin]

example : ((⟨["A user."], [⟨"deprecated", none⟩]⟩ : Schema.Doc).render 0).toList.head? = some '/' := by
  decide +kernel

/-- A validator is declared as a constant, and its type as a type. -/
theorem render_ne_alias (s : Style) (d : Declaration) (b : Entity.Block) : d.render s ≠ b.alias := by
  intro h
  have hchars := congrArg String.toList h
  have halias : b.alias.toList.take 8 = "export t".toList := by
    simp [Entity.alias_eq]
  have hcomment : s.comment d.docs 0 = "" ∨ (s.comment d.docs 0).toList.head? = some '/' := by
    unfold Style.comment
    cases d.docs with
    | none => exact .inl rfl
    | some docs =>
      cases s.comments with
      | true => exact .inr (head?_comment docs)
      | false => exact .inl rfl
  rcases hcomment with hnone | hslash
  · have hrender : (d.render s).toList.take 8 = "export c".toList := by
      simp [Declaration.render, hnone]
    rw [hchars, halias] at hrender
    exact absurd hrender (by decide)
  · have hrender : (d.render s).toList.head? = some '/' := by
      simp [Declaration.render, List.head?_append, hslash]
    have hfirst : b.alias.toList.head? = some 'e' := by
      simp [Entity.alias_eq]
    rw [hchars, hfirst] at hrender
    exact absurd hrender (by decide)

end Zod

namespace Run

open Syntax Database

variable {parse : String → Node} {r : Run} {importPath source : String} {flat : Flattened}

/-- The blocks of the grouped module are those of declarations. -/
theorem exists_declaration (hread : r.statementsWith parse importPath flat =
      (r.generatedWith parse importPath flat).statements
        (Zod.styleOf (r.conversionOptions importPath))) {b : Entity.Block}
    (hb : b ∈ (Entity.gather r.groupingOptions (r.statementsWith parse importPath flat)).json.toList ++
      (Entity.gather r.groupingOptions (r.statementsWith parse importPath flat)).blocks) :
    ∃ d ∈ (r.generatedWith parse importPath flat).declarations,
      b = blockOf r.selection.naming (Zod.styleOf (r.conversionOptions importPath)) d := by
  obtain ⟨hconstant, hname⟩ := Entity.exists_constant _ _ hb
  rw [hread, Zod.constants_statements] at hconstant
  obtain ⟨d, hd, heq⟩ := List.mem_map.1 hconstant
  obtain ⟨hidentifier, htext⟩ := Prod.mk.inj heq
  refine ⟨d, hd, ?_⟩
  rw [← hidentifier] at hname
  have hpascal : b.name = pascal d.name := Naming.eq_pascal_of_baseName? hname
  obtain ⟨identifier, name, text⟩ := b
  obtain rfl := hidentifier
  obtain rfl := htext
  obtain rfl := hpascal
  rfl

section Block

variable {d : Zod.Declaration}

/-- A module declares the type of a block once, if it imports no type of the name of the block. -/
theorem count_alias_blockOf (hread : r.statementsWith parse importPath flat =
      (r.generatedWith parse importPath flat).statements
        (Zod.styleOf (r.conversionOptions importPath)))
    (hb : blockOf r.selection.naming (Zod.styleOf (r.conversionOptions importPath)) d ∈
      (r.catalogWith parse importPath flat).blocks) :
    ((r.catalogWith parse importPath flat).above importPath ++
        (r.catalogWith parse importPath flat).aliases ++
        (r.catalogWith parse importPath flat).below r.selection.naming).count
      (blockOf r.selection.naming (Zod.styleOf (r.conversionOptions importPath)) d).alias =
        if pascal d.name ∈ (r.catalogWith parse importPath flat).typeImports then 0 else 1 := by
  refine Entity.count_alias r.groupingOptions _ importPath ?_ hb ?_
  · intro a ha
    obtain ⟨e, _, rfl⟩ := exists_declaration hread (List.mem_append_right _ ha)
    exact ⟨e.name, rfl, rfl⟩
  · intro a ha
    obtain ⟨e, _, rfl⟩ := exists_declaration hread ha
    exact Zod.render_ne_alias _ e _

theorem pascal_ne_json_of_mem_blocks
    (hb : blockOf r.selection.naming (Zod.styleOf (r.conversionOptions importPath)) d ∈
      (r.catalogWith parse importPath flat).blocks) : pascal d.name ≠ "Json" := by
  intro hname
  have hgrows := Entity.gather_grows r.groupingOptions (r.statementsWith parse importPath flat)
  have hsame : r.selection.naming.schemaName d.name = r.selection.naming.schemaName "Json" :=
    (r.selection.naming.schemaName_eq_iff d.name "Json").2 (hname.trans pascal_json.symm)
  exact hgrows.2.blocks _ hb hsame

/-- A declaration whose name is that of an imported type refers to itself, if types have different
identifiers and its name does not change when it is put in Pascal case once more. -/
theorem refers_of_imported (hdistinct : ((r.schemaWith parse flat).definitions.map fun x =>
      r.selection.naming.schemaName x.name).Nodup)
    (hd : d ∈ (r.generatedWith parse importPath flat).declarations)
    (hstable : pascal (pascal d.name) = pascal d.name)
    (himported : ∃ e ∈ (r.generatedWith parse importPath flat).declarations,
      (r.schemaWith parse flat).Refers e.name e.name ∧ e.name = pascal d.name) :
    (r.schemaWith parse flat).Refers d.name d.name := by
  obtain ⟨e, he, hself, hname⟩ := himported
  have hidentifiers := Zod.nodup_schemaNames r.selection.naming (r.schemaWith parse flat)
    (r.conversionOptions importPath) hdistinct
  have hsame : r.selection.naming.schemaName e.name = r.selection.naming.schemaName d.name :=
    (r.selection.naming.schemaName_eq_iff _ _).2 (by rw [hname, hstable])
  obtain rfl := List.inj_on_of_nodup_map hidentifiers he hd hsame
  exact hself

end Block

/-- A module declares the type of each of its validators once, unless it imports a type of that name; then it
does not declare it. The types that it imports are those of declarations that refer to themselves. If types
have different identifiers, the type of a declaration that does not refer to itself can be missing only if
its name in Pascal case changes when it is put in Pascal case again. -/
theorem transform_aliases
    (hflat : r.selection.target.flatten source.toList.toArray (parse source) = .ok flat)
    (hread : r.statementsWith parse importPath flat =
      (r.generatedWith parse importPath flat).statements
        (Zod.styleOf (r.conversionOptions importPath))) :
    let c := r.catalogWith parse importPath flat
    let m := r.generatedWith parse importPath flat
    let n := r.selection.naming
    let schema := r.schemaWith parse flat
    (∃ result, r.transformWith parse importPath source = .ok result ∧
      result.text = "\n\n".intercalate (c.above importPath ++
        (if c.aliases.isEmpty then [] else ["\n".intercalate c.aliases]) ++ c.below n) ++ "\n") ∧
    ∀ b ∈ c.blocks, ∃ d ∈ m.declarations,
      b = blockOf n (Zod.styleOf (r.conversionOptions importPath)) d ∧
      let times := (c.above importPath ++ c.aliases ++ c.below n).count b.alias
      (times = 0 ∨ times = 1) ∧
      (times = 0 ↔ ∃ e ∈ m.declarations, schema.Refers e.name e.name ∧ e.name = pascal d.name) ∧
      ((schema.definitions.map fun x => n.schemaName x.name).Nodup →
        ¬schema.Refers d.name d.name → pascal (pascal d.name) = pascal d.name → times = 1) := by
  intro c m n schema
  constructor
  · rw [← Entity.render_eq_aliases]
    exact transformWith_text hflat
  intro b hb
  obtain ⟨d, hd, rfl⟩ := exists_declaration hread (List.mem_append_right _ hb)
  refine ⟨d, hd, rfl, ?_⟩
  intro times
  have hcount : times = if pascal d.name ∈ c.typeImports then 0 else 1 := count_alias_blockOf hread hb
  have himport : pascal d.name ∈ c.typeImports ↔
      ∃ e ∈ m.declarations, schema.Refers e.name e.name ∧ e.name = pascal d.name := by
    rw [mem_typeImports hread]
    constructor
    · rintro ⟨-, hmem, hself⟩
      obtain ⟨e, he, hname⟩ := List.mem_map.1 hmem
      exact ⟨e, he, hname ▸ hself, hname⟩
    · rintro ⟨e, he, hself, hname⟩
      exact ⟨pascal_ne_json_of_mem_blocks hb, hname ▸ List.mem_map_of_mem he, hname ▸ hself⟩
  rw [← himport]
  by_cases hmem : pascal d.name ∈ c.typeImports
  · rw [if_pos hmem] at hcount
    refine ⟨.inl hcount, iff_of_true hcount hmem, fun hdistinct hself hstable => ?_⟩
    exact absurd (refers_of_imported hdistinct hd hstable (himport.1 hmem)) hself
  · rw [if_neg hmem] at hcount
    exact ⟨.inr hcount, iff_of_false (by rw [hcount]; decide) hmem, fun _ _ _ => hcount⟩

/-- A source in which the type of `a_b` is named as that of `AB`, which refers to itself. -/
def initialsSource : List Char := [
  "export type AB = AB[]\n\n",
  "export type a_b = string\n\n",
  "export type Name = string\n"].flatMap String.toList

/-- The type of a list of itself. -/
def initialsBody : Node :=
  spanning initialsSource "array_type" ["value"] [
    nodeAt 1 17 "type_identifier" [] "AB" [], tokenAt 1 19 [] "[", tokenAt 1 20 [] "]"]

def stringTypeAt (line start : Nat) : Node :=
  nodeAt line start "predefined_type" ["value"] "string" [tokenAt line start [] "string"]

def initialsSourceTree : Node :=
  nodeAt 1 0 "program" [] (.ofList initialsSource) [
    exportAt initialsSource 1 0 "AB" [tokenAt 1 15 [] "=", initialsBody],
    exportAt initialsSource 3 23 "a_b" [tokenAt 3 39 [] "=", stringTypeAt 3 41],
    exportAt initialsSource 5 49 "Name" [tokenAt 5 66 [] "=", stringTypeAt 5 68]]

def initialsOutput : List Char := [
  "// Generated by supazod\nimport \x7b z \x7d from \"zod\";\n",
  "import type \x7b AB \x7d from \"./types\";\n\n",
  "export const AbSchema: z.ZodSchema<AB> = z.lazy(() => z.array(AbSchema));\n\n",
  "export const ABSchema = z.string();\n\n",
  "export const NameSchema = z.string();\n"].flatMap String.toList

def initialsOutputTree : Node :=
  nodeAt 1 0 "program" [] (.ofList initialsOutput) [
    nodeAt 1 0 "comment" [] "// Generated by supazod" [],
    importAt initialsOutput 2 33 [tokenAt 2 24 [] "import"] "z" "zod",
    importAt initialsOutput 3 63 [tokenAt 3 49 [] "import", tokenAt 3 56 [] "type"] "AB" "./types",
    wrappedAt initialsOutput 5 85 "AbSchema" "AB"
      (callAt initialsOutput 5 139 ["body"] "array" [
        tokenAt 5 146 [] "(", nodeAt 5 147 "identifier" [] "AbSchema" [], tokenAt 5 155 [] ")"]) 5,
    constantAt initialsOutput 7 160 "ABSchema" [
      tokenAt 7 182 [] "=",
      callAt initialsOutput 7 184 ["value"] "string" [tokenAt 7 192 [] "(", tokenAt 7 193 [] ")"]]
      (tokenAt 7 194 [] ";"),
    constantAt initialsOutput 9 197 "NameSchema" [
      tokenAt 9 221 [] "=",
      callAt initialsOutput 9 223 ["value"] "string" [tokenAt 9 231 [] "(", tokenAt 9 232 [] ")"]]
      (tokenAt 9 233 [] ";")]

def initialsParse (source : String) : Node :=
  if source.toList = initialsSource then initialsSourceTree else initialsOutputTree

def initialsSchema : Schema :=
  ⟨[⟨"AB", none, .alias (.array (.ref "AB"))⟩, ⟨"a_b", none, .alias .string⟩,
    ⟨"Name", none, .alias .string⟩], []⟩

theorem ofNode_initialsSourceTree : Schema.ofNode initialsSourceTree = initialsSchema := by
  have hbody : Schema.TypeExpr.ofNode initialsBody = .array (.ref "AB") := by
    have hitem : Schema.ofFirstPart initialsBody =
        .ofNode (nodeAt 1 17 "type_identifier" [] "AB" []) := by
      rw [Schema.ofFirstPart_eq]
      rfl
    have harray : Schema.TypeExpr.ofNode initialsBody = .array (Schema.ofFirstPart initialsBody) := by
      rw [Schema.TypeExpr.ofNode_eq]
      rfl
    rw [harray, hitem, ofNode_identifier]
    rfl
  have hstring (line start : Nat) : Schema.TypeExpr.ofNode (stringTypeAt line start) = .string := by
    rw [Schema.TypeExpr.ofNode_eq]
    rfl
  rw [initialsSchema, ← hbody]
  nth_rewrite 1 [← hstring 3 41]
  rw [← hstring 5 68]
  rfl

theorem flatten_initialsSource : ∃ flat,
    aliasRun.selection.target.flatten initialsSource.toArray initialsSourceTree = .ok flat ∧
      (aliasRun.selection.selected flat).source = .ofList initialsSource := by
  have h : (aliasRun.selection.target.flatten initialsSource.toArray initialsSourceTree).toOption.map
      (fun flat => (aliasRun.selection.selected flat).source) = some (.ofList initialsSource) := by
    decide +kernel
  exact exists_of_toOption_map h

theorem statementsWith_initials {flat : Flattened}
    (hschema : aliasRun.schemaWith initialsParse flat = initialsSchema) :
    aliasRun.statementsWith initialsParse "./types" flat =
      (aliasRun.generatedWith initialsParse "./types" flat).statements
        (Zod.styleOf (aliasRun.conversionOptions "./types")) := by
  have hrender : (Zod.generate initialsSchema (aliasRun.conversionOptions "./types")).1.render
      (Zod.styleOf (aliasRun.conversionOptions "./types")) = .ofList initialsOutput := by
    refine Eq.trans ?_ (ofList_flatMap_toList _).symm
    decide +kernel
  have hparse : initialsParse (.ofList initialsOutput) = initialsOutputTree := by
    rw [initialsParse, String.toList_ofList, if_neg (by decide +kernel)]
  rw [statementsWith, generatedWith, hschema, hrender, hparse, String.toList_ofList, ofNodes_toArray]
  decide +kernel

theorem blocks_initials {flat : Flattened}
    (hschema : aliasRun.schemaWith initialsParse flat = initialsSchema) :
    (aliasRun.catalogWith initialsParse "./types" flat).blocks.map (fun b => (b.name, b.alias)) = [
      ("Ab", "export type Ab = z.infer<typeof AbSchema>;"),
      ("AB", "export type AB = z.infer<typeof ABSchema>;"),
      ("Name", "export type Name = z.infer<typeof NameSchema>;")] := by
  rw [catalogWith, statementsWith_initials hschema, generatedWith, hschema]
  decide +kernel

theorem not_refers_initials {name : String} (h : name = "a_b" ∨ name = "Name") :
    ¬initialsSchema.Refers name name := by
  rintro ⟨d, hd, hmem⟩
  rcases h with rfl | rfl
  · obtain rfl := Option.some.inj hd
    exact absurd hmem (by decide)
  · obtain rfl := Option.some.inj hd
    exact absurd hmem (by decide)

/-- The type of `a_b` is not declared, that of `Name` is declared once. Neither refers to itself. -/
theorem transform_aliases_initials : ∃ flat,
    aliasRun.selection.target.flatten (String.ofList initialsSource).toList.toArray
      (initialsParse (.ofList initialsSource)) = .ok flat ∧
    aliasRun.statementsWith initialsParse "./types" flat =
      (aliasRun.generatedWith initialsParse "./types" flat).statements
        (Zod.styleOf (aliasRun.conversionOptions "./types")) ∧
    aliasRun.schemaWith initialsParse flat = initialsSchema ∧
    (initialsSchema.definitions.map fun x => Naming.standard.schemaName x.name).Nodup ∧
    let c := aliasRun.catalogWith initialsParse "./types" flat
    let texts := c.above "./types" ++ c.aliases ++ c.below .standard
    (¬initialsSchema.Refers "a_b" "a_b" ∧
      texts.count "export type AB = z.infer<typeof ABSchema>;" = 0) ∧
    ¬initialsSchema.Refers "Name" "Name" ∧ pascal (pascal "Name") = pascal "Name" ∧
      texts.count "export type Name = z.infer<typeof NameSchema>;" = 1 := by
  have hparse : initialsParse (.ofList initialsSource) = initialsSourceTree := by
    rw [initialsParse, String.toList_ofList, if_pos rfl]
  obtain ⟨flat, hflat, hsource⟩ := flatten_initialsSource
  have hflat' : aliasRun.selection.target.flatten (String.ofList initialsSource).toList.toArray
      (initialsParse (.ofList initialsSource)) = .ok flat := by
    rw [hparse, String.toList_ofList, hflat]
  have hschema : aliasRun.schemaWith initialsParse flat = initialsSchema := by
    rw [schemaWith, hsource, hparse, ofNode_initialsSourceTree]
  have hread := statementsWith_initials hschema
  have hnames : (aliasRun.generatedWith initialsParse "./types" flat).declarations.map (·.name) =
      ["AB", "a_b", "Name"] := by
    rw [generatedWith, hschema]
    decide +kernel
  have hself : initialsSchema.Refers "AB" "AB" := ⟨_, rfl, by decide⟩
  obtain ⟨-, htimes⟩ := transform_aliases hflat' hread
  rw [hschema] at htimes
  have hdistinct : (initialsSchema.definitions.map fun x => Naming.standard.schemaName x.name).Nodup := by
    decide +kernel
  have hstable : pascal (pascal "Name") = pascal "Name" := by decide +kernel
  refine ⟨flat, hflat', hread, hschema, hdistinct, ⟨not_refers_initials (.inl rfl), ?_⟩,
    not_refers_initials (.inr rfl), hstable, ?_⟩
  · have hmem : ("AB", "export type AB = z.infer<typeof ABSchema>;") ∈
        (aliasRun.catalogWith initialsParse "./types" flat).blocks.map (fun b => (b.name, b.alias)) := by
      rw [blocks_initials hschema]
      decide
    obtain ⟨b, hb, heq⟩ := List.mem_map.1 hmem
    obtain ⟨hname, halias⟩ := Prod.mk.inj heq
    obtain ⟨d, _, rfl, -, hzero, -⟩ := htimes b hb
    have himported : "AB" ∈
        (aliasRun.generatedWith initialsParse "./types" flat).declarations.map (·.name) := by
      rw [hnames]
      decide
    obtain ⟨e, he, hedecl⟩ := List.mem_map.1 himported
    rw [← halias]
    exact hzero.2 ⟨e, he, hedecl ▸ hself, hedecl.trans hname.symm⟩
  · have hmem : ("Name", "export type Name = z.infer<typeof NameSchema>;") ∈
        (aliasRun.catalogWith initialsParse "./types" flat).blocks.map (fun b => (b.name, b.alias)) := by
      rw [blocks_initials hschema]
      decide
    obtain ⟨b, hb, heq⟩ := List.mem_map.1 hmem
    obtain ⟨hname, halias⟩ := Prod.mk.inj heq
    obtain ⟨d, hd, rfl, -, -, hone⟩ := htimes b hb
    have hd' : d.name ∈ ["AB", "a_b", "Name"] := hnames ▸ List.mem_map_of_mem hd
    have hdname : d.name = "Name" := by
      have hpascal : ∀ x ∈ ["AB", "a_b", "Name"], pascal x = "Name" → x = "Name" := by
        decide +kernel
      exact hpascal d.name hd' hname
    rw [← halias]
    exact hone hdistinct (hdname ▸ not_refers_initials (.inr rfl)) (hdname ▸ hstable)

end Run

end SchemaGen
