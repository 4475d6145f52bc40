import SchemaGen.Proofs.Zod.Acceptance
import SchemaGen.Proofs.Zod.Source

namespace SchemaGen.Zod

open Schema

/-- A place for a comment: above the line that begins with `line`. -/
structure Place where
  docs : Doc
  indent : Nat
  line : String

def places (docs : Option Doc) (indent : Nat) (line : String) : List Place :=
  docs.toList.map fun d => ⟨d, indent, line⟩

mutual

/-- The places above the properties in a validator, in the order in which they are written. -/
def Validator.places (indent : Nat) : Validator → List Place
  | .base _ | .literal _ | .choice _ | .ref _ => []
  | .array item => item.places indent
  | .tuple items => placesAll indent items
  | .record none value => value.places indent
  | .record (some key) value => key.places indent ++ value.places indent
  | .object properties none => placesProperties (indent + 1) properties
  | .object properties (some rest) => placesProperties (indent + 1) properties ++ rest.places indent
  | .union members => placesAll indent members
  | .both left right => left.places indent ++ right.places indent
  | .refined inner _ | .optional inner | .nullable inner | .withDefault inner _ => inner.places indent

def placesAll (indent : Nat) : List Validator → List Place
  | [] => []
  | v :: vs => v.places indent ++ placesAll indent vs

def placesProperties (indent : Nat) : List (Property Validator) → List Place
  | [] => []
  | p :: ps =>
    places p.docs indent (Doc.margin indent ++ propertyKey p.name ++ ": ") ++
      (p.validator.places indent ++ placesProperties indent ps)

end

/-- The places above a declaration and above the properties in it. -/
def Declaration.places (identifier : String → String) (d : Declaration) : List Place :=
  Zod.places d.docs 0 ("export const " ++ identifier d.name) ++ d.validator.places 0

/-- The first text becomes the second when exactly the comments at the given places are deleted from it, one
after the other. Each comment starts behind a line break and ends in front of the line that it stands
above. -/
def Strips : List Place → String → String → Prop
  | [], kept, bare => kept = bare
  | p :: ps, kept, bare => ∃ above kept' bare',
    kept = above ++ "\n" ++ p.docs.render p.indent ++ p.line ++ kept' ∧
      bare = above ++ "\n" ++ p.line ++ bare' ∧ Strips ps kept' bare'

namespace Strips

variable {ps qs : List Place} {kept bare kept' bare' : String}

theorem same (text : String) : Strips [] text text := rfl

theorem behind (above : String) (h : Strips ps kept bare) : Strips ps (above ++ kept) (above ++ bare) := by
  cases ps with
  | nil => exact congrArg (above ++ ·) h
  | cons p ps =>
    obtain ⟨first, k, b, rfl, rfl, hrest⟩ := h
    exact ⟨above ++ first, k, b, by simp only [String.append_assoc], by simp only [String.append_assoc],
      hrest⟩

theorem append (h : Strips ps kept bare) (h' : Strips qs kept' bare') :
    Strips (ps ++ qs) (kept ++ kept') (bare ++ bare') := by
  induction ps generalizing kept bare with
  | nil =>
    obtain rfl : kept = bare := h
    exact h'.behind kept
  | cons p ps ih =>
    obtain ⟨first, k, b, rfl, rfl, hrest⟩ := h
    exact ⟨first, k ++ kept', b ++ bare', by simp only [String.append_assoc],
      by simp only [String.append_assoc], ih hrest⟩

theorem before (h : Strips ps kept bare) (below : String) : Strips ps (kept ++ below) (bare ++ below) := by
  have hboth := h.append (same below)
  rwa [List.append_nil] at hboth

theorem line (identifier : String → String) (docs : Option Doc) (indent : Nat) (line : String)
    (h : Strips ps kept bare) : Strips (places docs indent line ++ ps)
      ("\n" ++ (Style.comment ⟨identifier, true⟩ docs indent ++ line ++ kept))
      ("\n" ++ (Style.comment ⟨identifier, false⟩ docs indent ++ line ++ bare)) := by
  cases docs with
  | none =>
    have hline := h.behind ("\n" ++ line)
    simpa [places, Style.comment, String.append_assoc] using hline
  | some d =>
    refine ⟨"", kept, bare, ?_, ?_, h⟩
    · simp [Style.comment, String.append_assoc]
    · simp [Style.comment, String.append_assoc]

end Strips

/-- A property stands on a line of its own, behind a line break. -/
theorem join_renderProperties_cons (s : Style) (indent : Nat) (p : Property Validator)
    (ps : List (Property Validator)) :
    "\n" ++ String.join (renderProperties s indent (p :: ps)) =
      "\n" ++ (s.comment p.docs indent ++ (Doc.margin indent ++ propertyKey p.name ++ ": ") ++
        (p.validator.render s indent ++ "," ++ ("\n" ++ String.join (renderProperties s indent ps)))) := by
  have hbreak : ",\n" = "," ++ "\n" := rfl
  rw [renderProperties, String.join_cons, hbreak]
  simp only [String.append_assoc, -String.reduceAppend]

theorem render_object_cons (s : Style) (indent : Nat) (p : Property Validator)
    (ps : List (Property Validator)) :
    (Validator.object (p :: ps) none).render s indent =
      "z.object(\x7b" ++ ("\n" ++ String.join (renderProperties s (indent + 1) (p :: ps))) ++
        Doc.margin indent ++ "\x7d)" := by
  have hrender : (Validator.object (p :: ps) none).render s indent =
      "z.object(\x7b" ++ "\n" ++ String.join (renderProperties s (indent + 1) (p :: ps)) ++
        Doc.margin indent ++ "\x7d)" := rfl
  rw [hrender]
  simp only [String.append_assoc, -String.reduceAppend]

section Render

variable (identifier : String → String)

theorem strips_object {indent : Nat} {ps : List (Property Validator)}
    (h : Strips (placesProperties (indent + 1) ps)
      ("\n" ++ String.join (renderProperties ⟨identifier, true⟩ (indent + 1) ps))
      ("\n" ++ String.join (renderProperties ⟨identifier, false⟩ (indent + 1) ps))) :
    Strips (placesProperties (indent + 1) ps)
      ((Validator.object ps none).render ⟨identifier, true⟩ indent)
      ((Validator.object ps none).render ⟨identifier, false⟩ indent) := by
  cases ps with
  | nil => exact .same _
  | cons p ps =>
    rw [render_object_cons, render_object_cons]
    exact ((h.behind _).before _).before _

mutual

/-- With and without comments, a validator is written alike but for the comments above properties. -/
theorem strips_render (indent : Nat) : ∀ v : Validator,
    Strips (v.places indent) (v.render ⟨identifier, true⟩ indent) (v.render ⟨identifier, false⟩ indent)
  | .base _ | .literal _ | .choice _ | .ref _ => .same _
  | .array item => ((strips_render indent item).behind _).before _
  | .tuple items => ((strips_renderAll indent items).behind _).before _
  | .record none value => ((strips_render indent value).behind _).before _
  | .record (some key) value => by
    have hkey := ((strips_render indent key).behind "z.record(").before ", "
    exact (hkey.append (strips_render indent value)).before _
  | .object properties none => strips_object identifier (strips_renderProperties (indent + 1) properties)
  | .object properties (some rest) => by
    have hbody := strips_object identifier (strips_renderProperties (indent + 1) properties)
    have hrest := strips_render indent rest
    rw [render_object_some, render_object_some, Validator.places]
    exact ((hbody.before _).append hrest).before _
  | .union members => ((strips_renderAll indent members).behind _).before _
  | .both left right => by
    have hleft := (strips_render indent left).before ".and("
    exact (hleft.append (strips_render indent right)).before _
  | .refined inner _ | .optional inner | .nullable inner => (strips_render indent inner).before _
  | .withDefault inner value => by
    have hinner := (strips_render indent inner).before ".default("
    exact (hinner.before value).before _

theorem strips_renderAll (indent : Nat) : ∀ vs : List Validator,
    Strips (placesAll indent vs) (", ".intercalate (renderAll ⟨identifier, true⟩ indent vs))
      (", ".intercalate (renderAll ⟨identifier, false⟩ indent vs))
  | [] => .same _
  | [v] => by
    have hv := strips_render indent v
    simpa only [placesAll, renderAll, String.intercalate_singleton, List.append_nil] using hv
  | v :: w :: vs => by
    have hv := (strips_render indent v).before ", "
    have hvs := strips_renderAll indent (w :: vs)
    simp only [renderAll] at hvs
    rw [placesAll, renderAll, renderAll, renderAll, renderAll, String.intercalate_cons_cons,
      String.intercalate_cons_cons]
    exact hv.append hvs

theorem strips_renderProperties (indent : Nat) : ∀ ps : List (Property Validator),
    Strips (placesProperties indent ps)
      ("\n" ++ String.join (renderProperties ⟨identifier, true⟩ indent ps))
      ("\n" ++ String.join (renderProperties ⟨identifier, false⟩ indent ps))
  | [] => .same _
  | p :: ps => by
    have hvalue := (strips_render indent p.validator).before ","
    have hrest := hvalue.append (strips_renderProperties indent ps)
    rw [join_renderProperties_cons, join_renderProperties_cons, placesProperties]
    exact hrest.line identifier p.docs indent _

end

theorem strips_declaration (d : Declaration) :
    Strips (d.places identifier) ("\n" ++ d.render ⟨identifier, true⟩)
      ("\n" ++ d.render ⟨identifier, false⟩) := by
  have hvalidator := strips_render identifier 0 d.validator
  rw [render_eq_ite, render_eq_ite]
  split_ifs
  · have hbelow := (hvalidator.behind (": z.ZodSchema<" ++ d.name ++ "> = z.lazy(() => ")).before ");"
    have hline := hbelow.line identifier d.docs 0 ("export const " ++ identifier d.name)
    simpa only [Declaration.wrapped, Declaration.places, String.append_assoc] using hline
  · have hbelow := (hvalidator.behind " = ").before ";"
    have hline := hbelow.line identifier d.docs 0 ("export const " ++ identifier d.name)
    simpa only [Declaration.plain, Declaration.places, String.append_assoc] using hline

theorem strips_declarations (ds : List Declaration) :
    Strips (ds.flatMap (·.places identifier))
      (String.join (ds.map fun d => "\n" ++ d.render ⟨identifier, true⟩ ++ "\n"))
      (String.join (ds.map fun d => "\n" ++ d.render ⟨identifier, false⟩ ++ "\n")) := by
  induction ds with
  | nil =>
    rw [List.map_nil, List.map_nil, List.flatMap_nil]
    exact .same _
  | cons d ds ih =>
    have hd := (strips_declaration identifier d).before "\n"
    rw [List.flatMap_cons, List.map_cons, List.map_cons, String.join_cons, String.join_cons]
    exact hd.append ih

end Render

section Options

variable (schema : Schema) (o : Conversion.Options)

/-- What is declared and reported does not depend on whether comments are kept. -/
theorem generate_keepComments (keepComments : Bool) :
    generate schema { o with keepComments } = generate schema o := by
  have hscope : scopeOf schema { o with keepComments } = scopeOf schema o := rfl
  unfold generate
  rw [hscope]

theorem reports_keepComments (keepComments : Bool) :
    (convertSchema schema { o with keepComments }).reports = (generate schema o).2 := by
  rw [← generate_keepComments schema o keepComments]
  rfl

theorem source_keepComments (keepComments : Bool) :
    (convertSchema schema { o with keepComments }).source =
      "// Generated by supazod\nimport \x7b z \x7d from \"zod\";\n" ++
        typeImport (generate schema o).1.imported o.importPath ++
        String.join ((generate schema o).1.declarations.map fun d =>
          "\n" ++ d.render ⟨o.identifier, keepComments⟩ ++ "\n") := by
  have hsource := (generate_inDependencyOrder schema { o with keepComments }).1
  rw [generate_keepComments] at hsource
  exact hsource

end Options

/-- Whether comments are kept or not, the same is reported and the same declarations are made in the same
order, with the same types imported. The source with comments becomes that without when exactly the comments
above declarations and above properties are deleted. -/
theorem convertSchema_keepComments (schema : Schema) (o : Conversion.Options) :
    let made (keepComments : Bool) := convertSchema schema { o with keepComments }
    let m := (generate schema o).1
    (made true).reports = (made false).reports ∧
      (∀ keepComments, (made keepComments).source =
        "// Generated by supazod\nimport \x7b z \x7d from \"zod\";\n" ++
          typeImport m.imported o.importPath ++
          String.join (m.declarations.map fun d =>
            "\n" ++ d.render ⟨o.identifier, keepComments⟩ ++ "\n")) ∧
      (∀ d ∈ m.declarations, Strips (d.places o.identifier)
        ("\n" ++ d.render ⟨o.identifier, true⟩) ("\n" ++ d.render ⟨o.identifier, false⟩)) ∧
      Strips (m.declarations.flatMap (·.places o.identifier)) (made true).source (made false).source := by
  intro made m
  have hreports (keepComments : Bool) := reports_keepComments schema o keepComments
  have hsource (keepComments : Bool) := source_keepComments schema o keepComments
  refine ⟨(hreports true).trans (hreports false).symm, hsource, ?_, ?_⟩
  · intro d _
    exact strips_declaration o.identifier d
  · rw [hsource true, hsource false]
    exact (strips_declarations o.identifier m.declarations).behind _

end SchemaGen.Zod
