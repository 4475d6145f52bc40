import SchemaGen.Proofs.Database.Clearing
import SchemaGen.Proofs.Database.Origin
import SchemaGen.Proofs.Run.Tree

namespace SchemaGen

open Syntax Schema

/-! ### Comments above a node -/

namespace Syntax

def Annotated.bare (a : Annotated) : Annotated := ⟨Node.bareAll a.comments, a.node.bare⟩

theorem annotateAfter_bareAll (comments ns : List Node) :
    annotateAfter (Node.bareAll comments) (Node.bareAll ns) =
      (annotateAfter comments ns).map Annotated.bare := by
  induction ns generalizing comments with
  | nil => rfl
  | cons n ns ih =>
    rw [Node.bareAll, annotateAfter]
    cases hcomment : n.isComment with
    | true =>
      have hmore := ih (comments ++ [n])
      rw [if_pos rfl, ← hmore, Node.bareAll_eq (comments ++ [n]), List.filter_append, List.map_append,
        ← Node.bareAll_eq]
      cases hnote : n.isNote with
      | true => simp [hnote]
      | false => simp [hnote, annotateAfter, Node.bare_isComment, hcomment]
    | false =>
      have hnote : n.isNote = false := by rw [Node.isNote, hcomment, Bool.false_and]
      have hmore := ih []
      rw [Node.bareAll] at hmore
      rw [hnote, if_neg (by simp), if_neg (by simp), annotateAfter, Node.bare_isComment, hcomment,
        if_neg (by simp), hmore]
      rfl

theorem docs_bareAll {comments : List Node}
    (h : ∀ c ∈ comments, c.isComment = true ∧ c.notes = []) :
    ((Node.bareAll comments).filterMap fun c => Doc.parse? c.text) =
      comments.filterMap fun c => Doc.parse? c.text := by
  induction comments with
  | nil => rfl
  | cons c comments ih =>
    obtain ⟨⟨hcomment, hnotes⟩, hrest⟩ := List.forall_mem_cons.1 h
    rw [Node.bareAll, List.filterMap_cons (l := comments), ← ih hrest]
    cases hdoc : Doc.parse? c.text with
    | none => simp [Node.isNote, hcomment, hdoc]
    | some doc => simp [Node.isNote, hcomment, hdoc, Node.bare_text hnotes]

theorem Annotated.tags_bare {a : Annotated} (h : ∀ c ∈ a.comments, c.isComment = true ∧ c.notes = []) :
    a.bare.tags = a.tags := by
  have hdoc : a.bare.doc? = a.doc? := congrArg List.getLast? (docs_bareAll h)
  rw [Annotated.tags, hdoc, Annotated.tags]

end Syntax

namespace Database

/-! ### Properties of an object -/

/-- A property without notes in its name and, if it is looked into, between its colon and its type. -/
def TidyProperty (seen : String → Bool) (p : Node) : Prop :=
  ∀ name ∈ p.field? "name", name.notes = [] ∧ (seen (onChars bareName name.text) = true →
    ∀ annotation ∈ p.field? "type", ∀ c ∈ annotation.namedChildren.head?, c.isNote = false)

instance (seen : String → Bool) : DecidablePred (TidyProperty seen) := fun p =>
  inferInstanceAs (Decidable (∀ name ∈ p.field? "name", name.notes = [] ∧
    (seen (onChars bareName name.text) = true →
      ∀ annotation ∈ p.field? "type", ∀ c ∈ annotation.namedChildren.head?, c.isNote = false)))

def TidyFor (seen : String → Bool) (object : Node) : Prop :=
  ∀ p ∈ object.namedChildren, p.kind = "property_signature" → TidyProperty seen p

instance (seen : String → Bool) : DecidablePred (TidyFor seen) := fun object =>
  inferInstanceAs
    (Decidable (∀ p ∈ object.namedChildren, p.kind = "property_signature" → TidyProperty seen p))

/-- A property with and without notes, its type only if it is looked into. -/
structure Member.Matches (seen : String → Bool) (m m' : Member) : Prop where
  name : m'.name = m.name
  tags : m'.tags = m.tags
  type : seen m.name = true → m'.type = m.type.map Node.bare

variable {t : Target} {object n : Node} {m m' : Member} {seen : String → Bool}

theorem field?_bare_of_orderly (hn : n.Every Orderly) (field : String) :
    n.bare.field? field = (n.field? field).map Node.bare :=
  Node.field?_bare (fun _ hc hnote => ((hn.below hc).self.apart hnote).2) field

theorem head?_bare (h : ∀ c ∈ n.namedChildren.head?, c.isNote = false) :
    n.bare.namedChildren.head? = n.namedChildren.head?.map Node.bare := by
  rw [Node.namedChildren_bare]
  cases hnamed : n.namedChildren with
  | nil => rfl
  | cons c cs =>
    have hnote : c.isNote = false := h c (by rw [hnamed]; rfl)
    rw [List.filter_cons_of_pos (by simp [hnote])]
    rfl

theorem ofAnnotated?_matches {a : Annotated} (hn : a.node.Every Orderly)
    (hcomments : ∀ c ∈ a.comments, c.isComment = true ∧ c.notes = [])
    (htidy : a.node.kind = "property_signature" → TidyProperty seen a.node) :
    Option.Rel (Member.Matches seen) (Member.ofAnnotated? a) (Member.ofAnnotated? a.bare) := by
  have hkind : a.bare.node.kind = a.node.kind := a.node.bare_kind
  have hfield (field : String) : a.bare.node.field? field = (a.node.field? field).map Node.bare :=
    field?_bare_of_orderly hn field
  rw [Member.ofAnnotated?, Member.ofAnnotated?, hkind, hfield, hfield, Annotated.tags_bare hcomments]
  split_ifs with hproperty
  · cases hname : a.node.field? "name" with
    | none => exact .none
    | some name =>
      obtain ⟨hnotes, hfirst⟩ := htidy hproperty name hname
      refine .some ⟨congrArg (onChars bareName) (Node.bare_text hnotes), rfl, fun hseen => ?_⟩
      cases hannotation : a.node.field? "type" with
      | none => rfl
      | some annotation => exact head?_bare (hfirst hseen annotation hannotation)
  · exact .none

theorem forall₂_filterMap {α β γ δ : Type} {r : α → β → Prop} {s : γ → δ → Prop} {f : α → Option γ}
    {g : β → Option δ} {as : List α} {bs : List β} (h : List.Forall₂ r as bs)
    (hfg : ∀ a ∈ as, ∀ b, r a b → Option.Rel s (f a) (g b)) :
    List.Forall₂ s (as.filterMap f) (bs.filterMap g) := by
  induction h with
  | nil => exact .nil
  | @cons a b _ _ hab _ ih =>
    obtain ⟨ha, has⟩ := List.forall_mem_cons.1 hfg
    have hfirst := ha b hab
    rw [List.filterMap_cons, List.filterMap_cons]
    generalize f a = c at hfirst
    generalize g b = d at hfirst
    cases hfirst with
    | none => exact ih has
    | some hcd => exact .cons hcd (ih has)

theorem members_bare (hobject : object.Every Orderly) (htidy : TidyFor seen object) :
    List.Forall₂ (Member.Matches seen) (members object) (members object.bare) := by
  have hannotate : annotate object.bare.namedChildren =
      (annotate object.namedChildren).map Annotated.bare := by
    rw [Node.namedChildren_bare, ← Node.bareAll_eq]
    exact annotateAfter_bareAll [] object.namedChildren
  rw [members, members, hannotate, List.filterMap_map]
  have hself : List.Forall₂ Eq (annotate object.namedChildren) (annotate object.namedChildren) :=
    List.forall₂_refl _
  refine forall₂_filterMap hself fun a ha b hab => ?_
  obtain rfl := hab
  have hmem : a.node ∈ object.namedChildren := node_of_mem_annotateAfter ha
  refine ofAnnotated?_matches (hobject.namedChild hmem) (fun c hc => ?_) (htidy a.node hmem)
  rcases comments_of_mem_annotateAfter ha hc with hnone | ⟨hc, hcomment⟩
  · exact absurd hnone List.not_mem_nil
  · have hkind : c.kind = "comment" := by simpa [Node.isComment] using hcomment
    exact ⟨hcomment, (hobject.namedChild hc).self.token (.inr (hkind ▸ by decide))⟩

theorem every_type {p : Node → Prop} (hobject : object.Every p) (hm : m ∈ members object) {type : Node}
    (htype : type ∈ m.type) : type.Every p := by
  obtain ⟨a, ha, hread⟩ := List.mem_filterMap.1 hm
  have hnode := hobject.namedChild (node_of_mem_annotateAfter ha)
  unfold Member.ofAnnotated? at hread
  split_ifs at hread
  obtain ⟨name, -, rfl⟩ := Option.map_eq_some_iff.1 hread
  obtain ⟨typed, htyped, hfirst⟩ := Option.bind_eq_some_iff.1 htype
  exact (hnode.field? htyped).namedChild (List.mem_of_head? hfirst)

/-! ### Agreement -/

/-- Whether the type that a node stands for has the same values without notes, whatever stands for lookups. -/
def Target.SameType (t : Target) (type : Node) : Prop :=
  ∀ (ν : Type) (r : Reading ν) (env : String → Value ν → Prop) (name : Lookup → String),
    type.Every (t.Steady r.numeral) → ∀ keyed v,
      (TypeExpr.ofNode (t.resolve name false type)).Has r env keyed v ↔
        (TypeExpr.ofNode (t.resolve name false type.bare)).Has r env keyed v

theorem sameType_of_orderly {type : Node} (htype : type.Every Orderly) : t.SameType type := by
  intro ν r env name hsteady keyed v
  -- Numerals that give the same number are spelled alike.
  have hkeeps : r.Keeps fun source => Function.invFun r.numeral (r.numeral source) :=
    fun source => Function.invFun_eq ⟨source, rfl⟩
  refine has_congr hkeeps (resolve_cleared type false ?_).type keyed v
  refine Node.Every.zip (fun n horderly hn => ⟨horderly, hn.lookup, fun hkind => ?_⟩) type htype hsteady
  rw [hn.signed hkind]

/-- A flat declaration and the one that is made without notes: its name and its tags are the same, and so are
the values of its type. -/
inductive Target.SameButNotes (t : Target) : Candidate → Candidate → Prop where
  | mk {name : String} {tags : List Tag} {type : Node} : t.SameType type →
    t.SameButNotes (t.candidate name tags type) (t.candidate name tags type.bare)

/-- What flattening makes with and without notes. -/
structure Target.Agrees (t : Target) (f g : Flattened) : Prop where
  candidates : List.Forall₂ t.SameButNotes f.candidates g.candidates
  diagnostics : f.diagnostics = g.diagnostics

theorem agrees_none : t.Agrees .none .none := ⟨.nil, rfl⟩

theorem agrees_append {a b f g : Flattened} (hab : t.Agrees a b) (hfg : t.Agrees f g) :
    t.Agrees (a.append f) (b.append g) where
  candidates := List.rel_append hab.candidates hfg.candidates
  diagnostics := by rw [Flattened.append, Flattened.append, hab.diagnostics, hfg.diagnostics]

theorem agrees_join {ms ms' : List Member} {f : Member → Flattened}
    (h : List.Forall₂ (Member.Matches seen) ms ms')
    (hf : ∀ m ∈ ms, ∀ m', m.Matches seen m' → t.Agrees (f m) (f m')) :
    t.Agrees (.join (ms.map f)) (.join (ms'.map f)) := by
  have hfold {a b : Flattened} (hab : t.Agrees a b) : t.Agrees ((ms.map f).foldl Flattened.append a)
      ((ms'.map f).foldl Flattened.append b) := by
    induction h generalizing a b with
    | nil => exact hab
    | @cons m m' _ _ hm _ ih =>
      obtain ⟨hfirst, hrest⟩ := List.forall_mem_cons.1 hf
      exact ih hrest (agrees_append hab (hfirst m' hm))
  exact hfold agrees_none

theorem rel_candidate (hm : m'.type = m.type.map Node.bare) (h : ∀ type ∈ m.type, type.Every Orderly)
    (name : String) (tags : List Tag) :
    Option.Rel t.SameButNotes (m.type.map (t.candidate name tags)) (m'.type.map (t.candidate name tags)) := by
  rw [hm]
  cases htype : m.type with
  | none => exact .none
  | some type => exact .some (.mk (sameType_of_orderly (h type htype)))

/-! ### Flattening -/

theorem agrees_flattenWhole {entries entries' : List Member}
    (h : List.Forall₂ (Member.Matches fun _ => true) entries entries')
    (hevery : ∀ e ∈ entries, ∀ type ∈ e.type, type.Every Orderly) :
    t.Agrees (t.flattenWhole entries) (t.flattenWhole entries') := by
  refine ⟨forall₂_filterMap h fun e he e' hmatches => ?_, rfl⟩
  rw [hmatches.name, hmatches.tags]
  exact rel_candidate (hmatches.type rfl) (hevery e he) _ _

theorem agrees_flattenEntry {wanted : List String} (hmatches : m.Matches (fun _ => true) m')
    (hevery : ∀ type ∈ m.type, type.Every Orderly)
    (htidy : ∀ object ∈ m.type, object.kind = "object_type" → TidyFor wanted.contains object) :
    t.Agrees (t.flattenEntry wanted m) (t.flattenEntry wanted m') := by
  rw [Target.flattenEntry, Target.flattenEntry, hmatches.type rfl, hmatches.name, hmatches.tags]
  cases htype : m.type with
  | none => exact agrees_none
  | some object =>
    have hobject := hevery object htype
    rw [Option.map_some]
    dsimp only
    rw [Node.bare_kind]
    split_ifs with hkind
    · refine ⟨forall₂_filterMap (members_bare hobject (htidy object htype hkind)) ?_, rfl⟩
      intro e he e' hsame
      rw [hsame.name, hsame.tags]
      split_ifs with hwanted
      · exact rel_candidate (hsame.type hwanted) (fun type => every_type hobject he) _ _
      · exact .none
    all_goals exact ⟨.nil, rfl⟩

theorem isSection_of_isWhole {part : String} (h : isWhole part = true) : sections.contains part = true := by
  rw [isWhole, Bool.or_eq_true, decide_eq_true_eq, decide_eq_true_eq] at h
  rcases h with rfl | rfl <;> decide

theorem isSection_of_wantedMembers {part : String} (h : wantedMembers part ≠ []) :
    sections.contains part = true := by
  unfold wantedMembers at h
  split_ifs at h with htable hfunction
  · rcases htable with rfl | rfl <;> decide
  · obtain rfl := hfunction
    decide
  · exact absurd rfl h

theorem entriesOf_bare {part part' : Member} (hmatches : part.Matches sections.contains part')
    (hsection : sections.contains part.name = true) (hevery : ∀ type ∈ part.type, type.Every Orderly)
    (htidy : ∀ object ∈ part.type, TidyFor (fun _ => true) object) :
    List.Forall₂ (Member.Matches fun _ => true) (entriesOf part) (entriesOf part') := by
  rw [entriesOf, entriesOf, hmatches.type hsection]
  cases htype : part.type with
  | none => exact .nil
  | some object => exact members_bare (hevery object htype) (htidy object htype)

theorem every_entry {p : Node → Prop} {part e : Member} (h : ∀ type ∈ part.type, type.Every p)
    (he : e ∈ entriesOf part) {type : Node} (htype : type ∈ e.type) : type.Every p := by
  rw [entriesOf] at he
  cases hpart : part.type with
  | none => simp [hpart] at he
  | some object => exact every_type (h object hpart) (by simpa [hpart] using he) htype

theorem agrees_flattenSection {part part' : Member} (hmatches : part.Matches sections.contains part')
    (hevery : ∀ type ∈ part.type, type.Every Orderly)
    (hpart : sections.contains part.name = true → ∀ object ∈ part.type, TidyFor (fun _ => true) object)
    (hentry : ∀ e ∈ entriesOf part, ∀ object ∈ e.type, object.kind = "object_type" →
      TidyFor (wantedMembers part.name).contains object) :
    t.Agrees (t.flattenSection part) (t.flattenSection part') := by
  rw [flattenSection_eq, flattenSection_eq, hmatches.name]
  split_ifs with hwhole hwanted
  · have hsection := isSection_of_isWhole hwhole
    exact agrees_flattenWhole (entriesOf_bare hmatches hsection hevery (hpart hsection))
      fun e he type => every_entry hevery he
  · exact agrees_none
  · have hsection := isSection_of_wantedMembers hwanted
    refine agrees_join (entriesOf_bare hmatches hsection hevery (hpart hsection)) fun e he e' hsame => ?_
    exact agrees_flattenEntry hsame (fun type => every_entry hevery he) (hentry e he)

/-! ### The database type -/

/-- The object or interface that a declaration is made of. -/
def body? (declaration : Node) : Option Node :=
  ((declaration.field? "value").or (declaration.field? "body")).filter fun n =>
    n.kind = "object_type" || n.kind = "interface_body"

def Target.schema? (t : Target) (declaration : Node) : Option Node :=
  ((schemasOf declaration).find? (·.name = t.schema)).bind (·.type)

/-- Whether no note hides the type of a property that is looked into when a database type is flattened: the
chosen schema, its sections, their entries and the members that are wanted of these. -/
structure Target.Tidy (t : Target) (declaration : Node) : Prop where
  body : ∀ body ∈ body? declaration, TidyFor (· = t.schema) body
  schema : ∀ schema ∈ t.schema? declaration, TidyFor sections.contains schema
  part : ∀ schema ∈ t.schema? declaration, ∀ part ∈ members schema, sections.contains part.name = true →
    ∀ object ∈ part.type, TidyFor (fun _ => true) object
  entry : ∀ e ∈ t.entries declaration, ∀ object ∈ e.2.type, object.kind = "object_type" →
    TidyFor (wantedMembers e.1).contains object

variable {declaration : Node}

theorem schemasOf_eq (declaration : Node) : schemasOf declaration = (body? declaration).elim [] members := by
  rw [schemasOf, body?]
  cases (declaration.field? "value").or (declaration.field? "body") with
  | none => rfl
  | some n =>
    rw [Option.filter_some]
    dsimp only
    split_ifs <;> rfl

theorem flattenDatabase_eq (t : Target) (declaration : Node) : t.flattenDatabase declaration =
    match t.schema? declaration with
    | some schema => .ok (.join ((members schema).map t.flattenSection))
    | none => .error ⟨t.schema, t.database, (schemasOf declaration).map (·.name)⟩ := rfl

theorem entries_eq (t : Target) (declaration : Node) : t.entries declaration =
    match t.schema? declaration with
    | some schema => (members schema).flatMap fun part => (entriesOf part).map (part.name, ·)
    | none => [] := rfl

theorem every_body {p : Node → Prop} {body : Node} (h : declaration.Every p)
    (hbody : body ∈ body? declaration) : body.Every p := by
  rw [body?, Option.mem_filter_iff, Option.mem_def, Option.or_eq_some_iff] at hbody
  obtain ⟨hvalue | ⟨-, hbody⟩, -⟩ := hbody
  · exact h.field? hvalue
  · exact h.field? hbody

theorem body?_bare (h : declaration.Every Orderly) :
    body? declaration.bare = (body? declaration).map Node.bare := by
  rw [body?, body?, field?_bare_of_orderly h, field?_bare_of_orderly h]
  cases declaration.field? "value" <;> cases declaration.field? "body" <;>
    simp [Option.filter_some, Node.bare_kind]

theorem schemasOf_bare (h : declaration.Every Orderly)
    (htidy : ∀ body ∈ body? declaration, TidyFor seen body) :
    List.Forall₂ (Member.Matches seen) (schemasOf declaration) (schemasOf declaration.bare) := by
  rw [schemasOf_eq, schemasOf_eq, body?_bare h]
  cases hbody : body? declaration with
  | none => exact .nil
  | some body => exact members_bare (every_body h hbody) (htidy body hbody)

theorem names_of_matches {ms ms' : List Member} (h : List.Forall₂ (Member.Matches seen) ms ms') :
    ms'.map (·.name) = ms.map (·.name) := by
  induction h with
  | nil => rfl
  | cons hm _ ih => rw [List.map_cons, List.map_cons, hm.name, ih]

theorem find?_of_matches {ms ms' : List Member} {name : String}
    (h : List.Forall₂ (Member.Matches (· = name)) ms ms') :
    (ms'.find? (·.name = name)).bind (·.type) = ((ms.find? (·.name = name)).bind (·.type)).map Node.bare := by
  induction h with
  | nil => rfl
  | @cons m m' _ _ hm _ ih =>
    rw [List.find?_cons, List.find?_cons, hm.name]
    split
    · next hname => exact hm.type hname
    · exact ih

theorem every_schema {p : Node → Prop} {schema : Node} (h : declaration.Every p)
    (hschema : t.schema? declaration = some schema) : schema.Every p := by
  obtain ⟨m, hm, htype⟩ := Option.bind_eq_some_iff.1 hschema
  have hmem := List.mem_of_find?_eq_some hm
  rw [schemasOf_eq] at hmem
  cases hbody : body? declaration with
  | none => simp [hbody] at hmem
  | some body => exact every_type (every_body h hbody) (by simpa [hbody] using hmem) htype

/-- Notes make no difference to what is made of a database type if none hides a type that is looked for: the
names, the tags and what is reported are the same, and so are the values of the declared types. -/
theorem flattenDatabase_bare (h : declaration.Every Orderly) (htidy : t.Tidy declaration) :
    (∃ missing, t.flattenDatabase declaration = .error missing ∧
      t.flattenDatabase declaration.bare = .error missing) ∨
    ∃ f g, t.flattenDatabase declaration = .ok f ∧ t.flattenDatabase declaration.bare = .ok g ∧
      t.Agrees f g := by
  have hschemas := schemasOf_bare h htidy.body
  have hschema : t.schema? declaration.bare = (t.schema? declaration).map Node.bare :=
    find?_of_matches hschemas
  have hentries := entries_eq t declaration
  rw [flattenDatabase_eq, flattenDatabase_eq, hschema]
  cases hfound : t.schema? declaration with
  | none => exact .inl ⟨_, rfl, by rw [names_of_matches hschemas]; rfl⟩
  | some schema =>
    rw [hfound] at hentries
    have hevery := every_schema h hfound
    have hmembers := members_bare hevery (htidy.schema schema hfound)
    refine .inr ⟨_, _, rfl, rfl, agrees_join hmembers fun part hpart part' hmatches => ?_⟩
    refine agrees_flattenSection hmatches (fun type => every_type hevery hpart)
      (htidy.part schema hfound part hpart) fun e he => ?_
    exact htidy.entry (part.name, e) ((mem_entries hentries).2 ⟨part, hpart, he, rfl⟩)

/-- A database type with a note between two properties and one in a type. -/
def usersSource : List Char := [
  "export type Database = \x7b public: \x7b Tables: \x7b ",
  "users: \x7b /* a row */ Row: string /* or none */ | null \x7d \x7d \x7d \x7d"].flatMap String.toList

def usersRow : Node :=
  Run.spanning usersSource "union_type" [] [
    Run.nodeAt 1 71 "predefined_type" [] "string" [Run.tokenAt 1 71 [] "string"],
    Run.nodeAt 1 78 "comment" [] "/* or none */" [],
    Run.tokenAt 1 92 [] "|",
    Run.spanning usersSource "literal_type" [] [Run.nodeAt 1 94 "null" [] "null" []]]

def usersDeclaration : Node :=
  Run.spanning usersSource "type_alias_declaration" ["declaration"] [
    Run.tokenAt 1 7 [] "type",
    Run.nodeAt 1 12 "type_identifier" ["name"] "Database" [],
    Run.tokenAt 1 21 [] "=",
    Run.spanning usersSource "object_type" ["value"] [
      Run.tokenAt 1 23 [] "\x7b",
      Run.propertyAt usersSource 1 25 "public" (Run.spanning usersSource "object_type" [] [
        Run.tokenAt 1 33 [] "\x7b",
        Run.propertyAt usersSource 1 35 "Tables" (Run.spanning usersSource "object_type" [] [
          Run.tokenAt 1 43 [] "\x7b",
          Run.propertyAt usersSource 1 45 "users" (Run.spanning usersSource "object_type" [] [
            Run.tokenAt 1 52 [] "\x7b",
            Run.nodeAt 1 54 "comment" [] "/* a row */" [],
            Run.propertyAt usersSource 1 66 "Row" usersRow,
            Run.tokenAt 1 99 [] "\x7d"]),
          Run.tokenAt 1 101 [] "\x7d"]),
        Run.tokenAt 1 103 [] "\x7d"]),
      Run.tokenAt 1 105 [] "\x7d"]]

theorem flattenDatabase_bare_users : usersRow.bare.text = "string  | null" ∧
    ∃ f g, Target.flattenDatabase ⟨"Database", "public"⟩ usersDeclaration = .ok f ∧
      Target.flattenDatabase ⟨"Database", "public"⟩ usersDeclaration.bare = .ok g ∧
      f.candidates.map (·.name) = ["UsersRow"] ∧ Target.Agrees ⟨"Database", "public"⟩ f g := by
  refine ⟨by decide +kernel, ?_⟩
  have horderly : usersDeclaration.Every Orderly := by decide +kernel
  have htidy : Target.Tidy ⟨"Database", "public"⟩ usersDeclaration :=
    { body := by decide +kernel, schema := by decide +kernel, part := by decide +kernel
      entry := by decide +kernel }
  obtain ⟨f, hf, hnames⟩ : ∃ f, Target.flattenDatabase ⟨"Database", "public"⟩ usersDeclaration = .ok f ∧
      f.candidates.map (·.name) = ["UsersRow"] := ⟨_, rfl, by decide +kernel⟩
  rcases flattenDatabase_bare horderly htidy with ⟨missing, hmissing, -⟩ | ⟨f', g, hf', hg, hagrees⟩
  · rw [hf] at hmissing
    cases hmissing
  · obtain rfl := Except.ok.inj (hf.symm.trans hf')
    exact ⟨f, g, hf, hg, hnames, hagrees⟩

end Database

end SchemaGen
