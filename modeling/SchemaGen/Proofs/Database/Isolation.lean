import SchemaGen.Proofs.Database.Note
import SchemaGen.Proofs.Run.Written
import SchemaGen.Proofs.Syntax.Place

namespace SchemaGen.Database

open Syntax

variable {t : Target} {n n' d d' : Node}

/-! ### Places make no difference -/

/-- A property without the places where the nodes of its type stand. -/
def Member.unplaced (m : Member) : Member := { m with type := m.type.map Node.unplaced }

theorem ofAnnotated?_unplaced (a : Annotated) :
    Member.ofAnnotated? a.unplaced = (Member.ofAnnotated? a).map Member.unplaced := by
  have hfield (field : String) : a.unplaced.node.field? field = (a.node.field? field).map Node.unplaced :=
    a.node.unplaced_field? field
  have hkind : a.unplaced.node.kind = a.node.kind := a.node.unplaced_kind
  rw [Member.ofAnnotated?, Member.ofAnnotated?, hkind, hfield, hfield, Annotated.unplaced_tags]
  split_ifs
  · cases a.node.field? "name" <;> cases a.node.field? "type" <;>
      simp [Member.unplaced, Node.unplaced_namedChildren]
  · rfl

theorem members_unplaced (object : Node) :
    members object.unplaced = (members object).map Member.unplaced := by
  have hannotate : annotate (object.namedChildren.map Node.unplaced) =
      (annotate object.namedChildren).map Annotated.unplaced :=
    annotateAfter_map_unplaced [] object.namedChildren
  rw [members, members, Node.unplaced_namedChildren, hannotate, List.filterMap_map, List.map_filterMap]
  exact congrArg (List.filterMap · _) (funext ofAnnotated?_unplaced)

theorem candidate_unplaced (t : Target) (name : String) (tags : List Schema.Tag) (type : Node) :
    t.candidate name tags type.unplaced = t.candidate name tags type := by
  rw [Target.candidate, Node.unplaced_text, Target.candidate]

theorem flattenWhole_unplaced (entries : List Member) :
    t.flattenWhole (entries.map Member.unplaced) = t.flattenWhole entries := by
  simp [Target.flattenWhole, Member.unplaced, List.filterMap_map, Function.comp_def, candidate_unplaced]

theorem flattenEntry_unplaced (wanted : List String) (entry : Member) :
    t.flattenEntry wanted entry.unplaced = t.flattenEntry wanted entry := by
  cases htype : entry.type with
  | none => simp [Target.flattenEntry, Member.unplaced, htype]
  | some type =>
    simp [Target.flattenEntry, Member.unplaced, htype, members_unplaced, List.filterMap_map,
      Function.comp_def, candidate_unplaced]

theorem entriesOf_unplaced (part : Member) : entriesOf part.unplaced = (entriesOf part).map Member.unplaced := by
  rw [entriesOf, entriesOf, Member.unplaced]
  cases part.type with
  | none => rfl
  | some type => exact members_unplaced type

theorem flattenSection_unplaced (part : Member) : t.flattenSection part.unplaced = t.flattenSection part := by
  have hname : part.unplaced.name = part.name := rfl
  rw [flattenSection_eq, flattenSection_eq, hname, entriesOf_unplaced, flattenWhole_unplaced, List.map_map]
  have hentry : t.flattenEntry (wantedMembers part.name) ∘ Member.unplaced =
      t.flattenEntry (wantedMembers part.name) := funext (flattenEntry_unplaced _)
  rw [hentry]

theorem sections_congr (h : n.Same n') :
    (members n).map t.flattenSection = (members n').map t.flattenSection := by
  have hsections (schema : Node) :
      (members schema.unplaced).map t.flattenSection = (members schema).map t.flattenSection := by
    rw [members_unplaced, List.map_map]
    exact congrArg (List.map · _) (funext flattenSection_unplaced)
  have hunplaced : n.unplaced = n'.unplaced := h
  rw [← hsections n, hunplaced, hsections]

/-! ### The chosen schema -/

def memberName? (n : Node) : Option String :=
  if n.kind = "property_signature" then (n.field? "name").map fun name => onChars bareName name.text else none

def memberType? (n : Node) : Option Node := (n.field? "type").bind (·.namedChildren.head?)

theorem ofAnnotated?_eq (a : Annotated) : Member.ofAnnotated? a =
    (memberName? a.node).map fun name => ⟨name, memberType? a.node, a.tags⟩ := by
  rw [Member.ofAnnotated?, memberName?]
  split_ifs
  · rw [Option.map_map]
    rfl
  · rfl

theorem memberName?_of_isComment (h : n.isComment = true) : memberName? n = none := by
  have hkind : n.kind = "comment" := by simpa [Node.isComment] using h
  rw [memberName?, if_neg (by rw [hkind]; decide)]

/-- Names and types of properties do not depend on the comments above them. -/
theorem names_annotateAfter (comments ns : List Node) :
    ((annotateAfter comments ns).filterMap Member.ofAnnotated?).map (·.name) = ns.filterMap memberName? := by
  induction ns generalizing comments with
  | nil => rfl
  | cons n ns ih =>
    rw [annotateAfter]
    split_ifs with hcomment
    · rw [ih, List.filterMap_cons_none (memberName?_of_isComment hcomment)]
    · rw [List.filterMap_cons, List.filterMap_cons, ofAnnotated?_eq]
      cases memberName? n with
      | none => exact ih []
      | some name => exact congrArg (name :: ·) (ih [])

theorem find?_annotateAfter (name : String) (comments ns : List Node) :
    (((annotateAfter comments ns).filterMap Member.ofAnnotated?).find? (·.name = name)).bind (·.type) =
      (ns.find? (memberName? · = some name)).bind memberType? := by
  induction ns generalizing comments with
  | nil => rfl
  | cons n ns ih =>
    rw [annotateAfter, List.find?_cons]
    split_ifs with hcomment
    · rw [ih, memberName?_of_isComment hcomment]
      rfl
    · rw [List.filterMap_cons, ofAnnotated?_eq]
      cases hname : memberName? n with
      | none => exact ih []
      | some first =>
        rw [Option.map_some, List.find?_cons]
        by_cases hfirst : first = name
        · simp [hfirst]
        · simpa [hfirst] using ih []

/-- Two properties that differ at most inside of their types. -/
def SameProperty (n n' : Node) : Prop := n.SameBut "type" (fun _ _ => True) n'

/-- What stands in two objects if the first property of a name is the same and the others differ at most inside of
their types. -/
inductive SameFirst (name : String) : List Node → List Node → Prop where
  | nil : SameFirst name [] []
  | first {n n' : Node} {ns ns' : List Node} : memberName? n = some name → n.Same n' →
    List.Forall₂ SameProperty ns ns' → SameFirst name (n :: ns) (n' :: ns')
  | other {n n' : Node} {ns ns' : List Node} : memberName? n ≠ some name → SameProperty n n' →
    SameFirst name ns ns' → SameFirst name (n :: ns) (n' :: ns')

theorem SameProperty.name (h : SameProperty n n') : memberName? n = memberName? n' := by
  have hname : Option.Rel Node.Same (n.field? "name") (n'.field? "name") := h.field?_of_ne (by decide)
  rw [memberName?, memberName?, h.kind, map_eq_of_rel hname fun _ _ hc => by rw [hc.text]]

theorem filterMap_memberName? {ns ns' : List Node} (h : List.Forall₂ SameProperty ns ns') :
    ns.filterMap memberName? = ns'.filterMap memberName? := by
  induction h with
  | nil => rfl
  | cons hn _ ih => rw [List.filterMap_cons, List.filterMap_cons, hn.name, ih]

theorem rel_memberType? (h : n.Same n') : Option.Rel Node.Same (memberType? n) (memberType? n') := by
  have htype := h.field? "type"
  rw [memberType?, memberType?]
  generalize n.field? "type" = c at htype ⊢
  generalize n'.field? "type" = c' at htype ⊢
  cases htype with
  | none => exact .none
  | some hsame => exact rel_head? hsame.namedChildren

namespace SameFirst

variable {name : String} {ns ns' : List Node}

theorem of_same (h : List.Forall₂ Node.Same ns ns') : SameFirst name ns ns' := by
  induction h with
  | nil => exact .nil
  | @cons n _ _ _ hn hrest ih =>
    by_cases hname : memberName? n = some name
    · exact .first hname hn (hrest.imp fun _ _ h => h.sameBut _ _)
    · exact .other hname (hn.sameBut _ _) ih

theorem names (h : SameFirst name ns ns') : ns.filterMap memberName? = ns'.filterMap memberName? := by
  induction h with
  | nil => rfl
  | first _ hn hrest => exact filterMap_memberName? (.cons (hn.sameBut _ _) hrest)
  | other _ hn _ ih => rw [List.filterMap_cons, List.filterMap_cons, hn.name, ih]

theorem rel_type (h : SameFirst name ns ns') :
    Option.Rel Node.Same ((ns.find? (memberName? · = some name)).bind memberType?)
      ((ns'.find? (memberName? · = some name)).bind memberType?) := by
  induction h with
  | nil => exact .none
  | @first n n' _ _ hname hn _ =>
    have hname' : memberName? n' = some name := by rw [← hname, SameProperty.name (hn.sameBut _ _)]
    rw [List.find?_cons_of_pos (by simp [hname]), List.find?_cons_of_pos (by simp [hname'])]
    exact rel_memberType? hn
  | @other n n' _ _ hname hn _ ih =>
    have hname' : memberName? n' ≠ some name := by rwa [← hn.name]
    rw [List.find?_cons_of_neg (by simp [hname]), List.find?_cons_of_neg (by simp [hname'])]
    exact ih

end SameFirst

/-! ### The database type -/

/-- The bodies of two database types whose chosen schemas are the same. Their texts and the tokens in them are not
looked at. -/
structure Target.SameBody (t : Target) (body body' : Node) : Prop extends SameForm body body' where
  schemas : SameFirst t.schema body.namedChildren body'.namedChildren

/-- Two declarations of the database type that differ at most inside of the types of other schemas. -/
def Target.SameDatabase (t : Target) (d d' : Node) : Prop :=
  d.SameBut "value" t.SameBody d' ∨ d.SameBut "body" t.SameBody d'

theorem sameBody_of_same (h : n.Same n') : t.SameBody n n' := ⟨h.form, .of_same h.namedChildren⟩

theorem Target.SameDatabase.rel_body? (h : t.SameDatabase d d') :
    Option.Rel t.SameBody (body? d) (body? d') := by
  have hfield (field : String) : Option.Rel t.SameBody (d.field? field) (d'.field? field) := by
    rcases h with h | h
    all_goals exact rel_imp (h.rel_field? field) fun _ _ hc => hc.elim sameBody_of_same fun hc => hc.2.2
  exact rel_filter (rel_or (hfield "value") (hfield "body")) fun _ _ hc => by rw [hc.kind]

theorem Target.SameBody.names (h : t.SameBody n n') :
    (members n).map (·.name) = (members n').map (·.name) := by
  rw [members, members, annotate, annotate, names_annotateAfter, names_annotateAfter]
  exact h.schemas.names

theorem Target.SameBody.rel_schema (h : t.SameBody n n') :
    Option.Rel Node.Same (((members n).find? (·.name = t.schema)).bind (·.type))
      (((members n').find? (·.name = t.schema)).bind (·.type)) := by
  rw [members, members, annotate, annotate, find?_annotateAfter, find?_annotateAfter]
  exact h.schemas.rel_type

theorem Target.SameDatabase.names (h : t.SameDatabase d d') :
    (schemasOf d).map (·.name) = (schemasOf d').map (·.name) := by
  have hbody := h.rel_body?
  rw [schemasOf_eq, schemasOf_eq]
  generalize body? d = b at hbody ⊢
  generalize body? d' = b' at hbody ⊢
  cases hbody with
  | none => rfl
  | some hb => exact hb.names

theorem Target.SameDatabase.rel_schema? (h : t.SameDatabase d d') :
    Option.Rel Node.Same (t.schema? d) (t.schema? d') := by
  have hbody := h.rel_body?
  rw [Target.schema?, Target.schema?, schemasOf_eq, schemasOf_eq]
  generalize body? d = b at hbody ⊢
  generalize body? d' = b' at hbody ⊢
  cases hbody with
  | none => exact .none
  | some hb => exact hb.rel_schema

theorem flattenDatabase_congr (h : t.SameDatabase d d') : t.flattenDatabase d = t.flattenDatabase d' := by
  have hschema := h.rel_schema?
  rw [flattenDatabase_eq, flattenDatabase_eq, h.names]
  generalize t.schema? d = s at hschema ⊢
  generalize t.schema? d' = s' at hschema ⊢
  cases hschema with
  | none => rfl
  | some hs => exact congrArg (Except.ok ∘ Flattened.join) (sections_congr hs)

/-! ### Statements -/

def exportedName? (n : Node) : Option String :=
  ((exportedType? n).bind (·.field? "name")).map (·.text)

/-- Two statements of two sources: they are the same, in the tree with the comments above them and as they are
written, or both declare the database type and differ at most inside of the types of other schemas. -/
inductive Target.SameStatement (t : Target) (source source' : Array Char) (a a' : Annotated) : Prop where
  | same : a.unplaced = a'.unplaced → a.text source = a'.text source' → t.SameStatement source source' a a'
  | database : exportedName? a.node = some t.database → a.node.SameBut "declaration" t.SameDatabase a'.node →
    t.SameStatement source source' a a'

theorem exportedType?_eq (n : Node) : exportedType? n =
    if n.kind = "export_statement" then
      (n.field? "declaration").filter fun d =>
        ["type_alias_declaration", "interface_declaration", "enum_declaration"].contains d.kind
    else none := by
  rw [exportedType?]
  cases n.field? "declaration" <;> rfl

theorem flattenStatement_eq (t : Target) (source : Array Char) (a : Annotated) : t.flattenStatement source a =
    (exportedType? a.node).elim (.ok .none) fun d => (d.field? "name").elim (.ok .none) fun name =>
      if name.text = t.database then t.flattenDatabase d
      else if (d.field? "type_parameters").isSome || d.mentions "type_identifier" t.database then .ok .none
      else .ok ⟨[⟨name.text, a.tags, a.text source⟩], []⟩ := by
  rw [Target.flattenStatement]
  cases exportedType? a.node with
  | none => rfl
  | some d =>
    dsimp only [Option.elim_some]
    cases d.field? "name" <;> rfl

theorem sameDatabase_of_same (h : d.Same d') : t.SameDatabase d d' := .inl (h.sameBut _ _)

theorem Target.SameDatabase.form (h : t.SameDatabase d d') : SameForm d d' :=
  h.elim (·.toSameForm) (·.toSameForm)

theorem Target.SameDatabase.rel_name (h : t.SameDatabase d d') :
    Option.Rel Node.Same (d.field? "name") (d'.field? "name") :=
  h.elim (·.field?_of_ne (by decide)) (·.field?_of_ne (by decide))

/-- Statements of one kind export related types if their declarations are related. -/
theorem rel_exportedType? {r : Node → Node → Prop} (hr : ∀ d d', r d d' → SameForm d d')
    (hkind : n.kind = n'.kind) (h : Option.Rel r (n.field? "declaration") (n'.field? "declaration")) :
    Option.Rel r (exportedType? n) (exportedType? n') := by
  rw [exportedType?_eq, exportedType?_eq, hkind]
  split_ifs
  · exact rel_filter h fun d d' hd => by rw [(hr d d' hd).kind]
  · exact .none

theorem flattenStatement_same {source source' : Array Char} {a a' : Annotated} (h : a.unplaced = a'.unplaced)
    (htext : a.text source = a'.text source') : t.flattenStatement source a = t.flattenStatement source' a' := by
  have hnode : a.node.Same a'.node := congrArg Annotated.node h
  have htags : a.tags = a'.tags := by rw [← Annotated.unplaced_tags, h, Annotated.unplaced_tags]
  have htype := rel_exportedType? (fun _ _ => Node.Same.form) hnode.kind (hnode.field? "declaration")
  rw [flattenStatement_eq, flattenStatement_eq]
  refine elim_eq_of_rel htype fun d _ d' hd => elim_eq_of_rel (hd.field? "name") fun name _ name' hname => ?_
  rw [hname.text, isSome_eq_of_rel (hd.field? "type_parameters"), hd.mentions, htags, htext,
    flattenDatabase_congr (sameDatabase_of_same hd)]

theorem flattenStatement_database {source source' : Array Char} {a a' : Annotated}
    (hname : exportedName? a.node = some t.database)
    (h : a.node.SameBut "declaration" t.SameDatabase a'.node) :
    t.flattenStatement source a = t.flattenStatement source' a' := by
  have hdeclaration : Option.Rel t.SameDatabase (a.node.field? "declaration") (a'.node.field? "declaration") :=
    rel_imp (h.rel_field? "declaration") fun _ _ hd => hd.elim sameDatabase_of_same fun hd => hd.2.2
  have htype := rel_exportedType? (fun _ _ => Target.SameDatabase.form) h.kind hdeclaration
  rw [flattenStatement_eq, flattenStatement_eq]
  refine elim_eq_of_rel htype fun d hd d' hsame => elim_eq_of_rel hsame.rel_name fun name hn name' hnames => ?_
  have hdatabase : name.text = t.database := by
    rw [Option.mem_def] at hd hn
    simpa [exportedName?, hd, hn] using hname
  rw [if_pos hdatabase, if_pos (hnames.text ▸ hdatabase), flattenDatabase_congr hsame]

theorem flattenStatement_congr {source source' : Array Char} {a a' : Annotated}
    (h : t.SameStatement source source' a a') : t.flattenStatement source a = t.flattenStatement source' a' := by
  cases h with
  | same h htext => exact flattenStatement_same h htext
  | database hname h => exact flattenStatement_database hname h

theorem mapM_flattenStatement_congr {source source' : Array Char} {as as' : List Annotated}
    (h : List.Forall₂ (t.SameStatement source source') as as') :
    as.mapM (t.flattenStatement source) = as'.mapM (t.flattenStatement source') := by
  induction h with
  | nil => rfl
  | cons ha _ ih => rw [List.mapM_cons, List.mapM_cons, flattenStatement_congr ha, ih]

def Options.preprocessWith (o : Options) (parse : String → Node) (source : String) : Except Stop Selected :=
  o.preprocess (fun s => .ok (parse s)) source

/-- Sources whose trees differ at most inside of the types of schemas other than the chosen one give the same
declarations and the same reports, or lack the schema alike. -/
theorem preprocess_isolated (o : Options) (parse : String → Node) {source source' : String}
    (h : List.Forall₂ (o.target.SameStatement source.toList.toArray source'.toList.toArray)
      (annotate (parse source).namedChildren) (annotate (parse source').namedChildren)) :
    o.preprocessWith parse source = o.preprocessWith parse source' := by
  have hflat : o.target.flatten source.toList.toArray (parse source) =
      o.target.flatten source'.toList.toArray (parse source') := by
    rw [Target.flatten, Target.flatten, mapM_flattenStatement_congr h]
  change (Except.mapError Stop.missingSchema (o.target.flatten _ (parse source)) >>= _) = _
  rw [hflat]
  rfl

/-- A source with a database of two schemas, given the type of the one that is not chosen. -/
def schemasSource (auth : String) : List Char := [
  "export type Database = \x7b auth: ", auth,
  ", public: \x7b Enums: \x7b level: \"low\" \x7d \x7d \x7d\n",
  "/** @minimum 1 */\nexport type Age = number"].flatMap String.toList

def enumsAt (source : List Char) (start : Nat) (value : String) : Node :=
  Run.spanning source "object_type" [] [
    Run.tokenAt 1 start [] "\x7b",
    Run.propertyAt source 1 (start + 2) "Enums" (Run.spanning source "object_type" [] [
      Run.tokenAt 1 (start + 9) [] "\x7b",
      Run.propertyAt source 1 (start + 11) "level"
        (Run.spanning source "literal_type" [] [Run.stringAt 1 (start + 18) [] value]),
      Run.tokenAt 1 (start + 21 + value.length) [] "\x7d"]),
    Run.tokenAt 1 (start + 23 + value.length) [] "\x7d"]

def publicAt (auth : String) : Node :=
  Run.propertyAt (schemasSource auth) 1 (33 + auth.length) "public"
    (enumsAt (schemasSource auth) (41 + auth.length) "low")

def bodyAt (auth : String) (type : Node) : Node :=
  Run.spanning (schemasSource auth) "object_type" ["value"] [
    Run.tokenAt 1 23 [] "\x7b",
    Run.propertyAt (schemasSource auth) 1 25 "auth" type,
    Run.tokenAt 1 (31 + auth.length) [] ",",
    publicAt auth,
    Run.tokenAt 1 (69 + auth.length) [] "\x7d"]

def databaseAt (auth : String) (type : Node) : Node :=
  Run.exportAt (schemasSource auth) 1 0 "Database" [Run.tokenAt 1 21 [] "=", bodyAt auth type]

def ageAt (auth : String) : Annotated where
  comments := [Run.nodeAt 2 (71 + auth.length) "comment" [] "/** @minimum 1 */" []]
  node := Run.exportAt (schemasSource auth) 3 (89 + auth.length) "Age" [
    Run.tokenAt 3 (105 + auth.length) [] "=",
    Run.nodeAt 3 (107 + auth.length) "predefined_type" ["value"] "number" [
      Run.tokenAt 3 (107 + auth.length) [] "number"]]

def schemasTree (auth : String) (type : Node) : Node :=
  Run.nodeAt 1 0 "program" [] (.ofList (schemasSource auth))
    (databaseAt auth type :: (ageAt auth).comments ++ [(ageAt auth).node])

def nullTree : Node :=
  schemasTree "null" (Run.spanning (schemasSource "null") "literal_type" [] [Run.nodeAt 1 31 "null" [] "null" []])

def levelText : String := "\x7b Enums: \x7b level: \"high\" \x7d \x7d"

def levelTree : Node := schemasTree levelText (enumsAt (schemasSource levelText) 31 "high")

def schemasParse (source : String) : Node :=
  if source.toList = schemasSource "null" then nullTree else levelTree

def schemasOptions : Options := Run.aliasRun.selection

theorem annotate_schemasTree (auth : String) (type : Node) :
    annotate (schemasTree auth type).namedChildren = [⟨[], databaseAt auth type⟩, ageAt auth] := rfl

theorem memberName?_propertyAt (source : List Char) (line start : Nat) (name : String) (type : Node) :
    memberName? (Run.propertyAt source line start name type) = some (onChars bareName name) := rfl

section Spanning

variable {source source' : List Char} {kind : String} {fields : List String} {cs cs' : List Node}

theorem sameForm_spanning :
    SameForm (Run.spanning source kind fields cs) (Run.spanning source' kind fields cs') :=
  { fields := rfl, kind := rfl, named := rfl, token := nofun }

theorem sameBut_spanning {part : String} {r : Node → Node → Prop}
    (h : List.Forall₂ (fun c c' => c.Same c' ∨ SameForm c c' ∧ c.info.fields = [part] ∧ r c c') cs cs') :
    (Run.spanning source kind fields cs).SameBut part r (Run.spanning source' kind fields cs') :=
  ⟨sameForm_spanning, h⟩

end Spanning

theorem sameBody_bodyAt {auth auth' : String} (type type' : Node) (h : (publicAt auth).Same (publicAt auth')) :
    schemasOptions.target.SameBody (bodyAt auth type) (bodyAt auth' type') := by
  have hauth : SameProperty (Run.propertyAt (schemasSource auth) 1 25 "auth" type)
      (Run.propertyAt (schemasSource auth') 1 25 "auth" type') :=
    sameBut_spanning (.cons (.inl rfl) (.cons (.inr ⟨sameForm_spanning, rfl, trivial⟩) .nil))
  have hother : memberName? (Run.propertyAt (schemasSource auth) 1 25 "auth" type) ≠ some "public" := by
    rw [memberName?_propertyAt]
    decide
  have hchosen : memberName? (publicAt auth) = some "public" := by
    rw [publicAt, memberName?_propertyAt]
    decide
  exact ⟨sameForm_spanning, .other hother hauth (.first hchosen h .nil)⟩

theorem sameBut_databaseAt {auth auth' : String} (type type' : Node)
    (h : (publicAt auth).Same (publicAt auth')) :
    (databaseAt auth type).SameBut "declaration" schemasOptions.target.SameDatabase (databaseAt auth' type') := by
  have hbody := sameBody_bodyAt type type' h
  refine sameBut_spanning (.cons (.inl rfl) (.cons (.inr ⟨sameForm_spanning, rfl, .inl ?_⟩) .nil))
  exact sameBut_spanning (.cons (.inl rfl) (.cons (.inl rfl) (.cons (.inl rfl)
    (.cons (.inr ⟨sameForm_spanning, rfl, hbody⟩) .nil))))

theorem sameStatements_schemas :
    List.Forall₂ (schemasOptions.target.SameStatement (schemasSource "null").toArray
      (schemasSource levelText).toArray) (annotate nullTree.namedChildren) (annotate levelTree.namedChildren) := by
  have hpublic : (publicAt "null").Same (publicAt levelText) := by decide +kernel
  have hage : (ageAt "null").node.Same (ageAt levelText).node := by decide +kernel
  have htext : (ageAt "null").text (schemasSource "null").toArray =
      (ageAt levelText).text (schemasSource levelText).toArray := by decide +kernel
  rw [nullTree, levelTree, annotate_schemasTree, annotate_schemasTree]
  exact .cons (.database rfl (sameBut_databaseAt _ _ hpublic))
    (.cons (.same (congrArg (Annotated.mk _) hage) htext) .nil)

theorem preprocess_isolated_schemas : ¬nullTree.Same levelTree ∧
    schemasOptions.preprocessWith schemasParse (.ofList (schemasSource "null")) =
      schemasOptions.preprocessWith schemasParse (.ofList (schemasSource levelText)) ∧
    (schemasOptions.preprocessWith schemasParse (.ofList (schemasSource "null"))).toOption.map
      (·.declarations) = some ["Level", "Age"] := by
  have hnull : schemasParse (.ofList (schemasSource "null")) = nullTree := by
    rw [schemasParse, String.toList_ofList, if_pos rfl]
  have hlevel : schemasParse (.ofList (schemasSource levelText)) = levelTree := by
    rw [schemasParse, String.toList_ofList, if_neg (by decide +kernel)]
  refine ⟨by decide +kernel, ?_, ?_⟩
  · refine preprocess_isolated schemasOptions schemasParse ?_
    rw [hnull, hlevel, String.toList_ofList, String.toList_ofList]
    exact sameStatements_schemas
  · simp only [Options.preprocessWith, Options.preprocess, hnull, String.toList_ofList]
    decide +kernel

end SchemaGen.Database
