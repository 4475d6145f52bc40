import SchemaGen.Proofs.Entity.Aggregate
import SchemaGen.Proofs.Entity.Suffix

namespace SchemaGen

/-- The name in the identifier of a validator that is made from a type is that of the type. -/
theorem Naming.eq_pascal_of_baseName? {n : Naming} {type name : String}
    (h : n.baseName? (n.schemaName type) = some name) : name = pascal type := by
  by_cases hm : n.marker = ""
  · simp [Naming.baseName?, hm] at h
  · rw [Naming.baseName?_schemaName hm] at h
    split_ifs at h
    exact (Option.some.inj h).symm

namespace Entity

/-- The names of types that a written module binds: those that it imports, those of its validators and
those of its aggregates. -/
def Catalog.typeNames (c : Catalog) : List String :=
  "Json" :: c.typeImports ++ c.inferred.map (·.name) ++ c.pairs.map (·.entity)

/-- A written module binds no type name twice and no aggregate has a key twice. -/
def Catalog.BindsOnce (c : Catalog) : Prop :=
  c.typeNames.Nodup ∧ ∀ g ∈ c.pairs, (g.keyed.map (·.1)).Nodup

section Imports

variable (o : Options)

theorem nodup_addImport {imports : List String} (h : ("Json" :: imports).Nodup) (name : String) :
    ("Json" :: addImport imports name).Nodup := by
  unfold addImport
  split_ifs with hc
  · exact h
  · simp only [Bool.or_eq_true, decide_eq_true_eq, List.contains_iff_mem, ← List.mem_cons] at hc
    rw [← List.cons_append, ← List.concat_eq_append]
    exact h.concat hc

theorem typeImports_addBlock (g : Gathered) (b : Block) :
    (g.addBlock o b).typeImports = g.typeImports := by
  unfold Gathered.addBlock
  split_ifs
  · rfl
  · exact addNew_typeImports o _ b

theorem nodup_foldl_addImport {imports : List String} (h : ("Json" :: imports).Nodup)
    (types : List String) : ("Json" :: types.foldl addImport imports).Nodup := by
  induction types generalizing imports with
  | nil => exact h
  | cons type types ih => exact ih (nodup_addImport h type)

def Statement.types (s : Statement) : List String :=
  match s.kind with
  | .imports types => types
  | _ => []

theorem typeImports_add (g : Gathered) (s : Statement) :
    (g.add o s).typeImports = s.types.foldl addImport g.typeImports := by
  unfold Gathered.add Statement.types
  cases s.kind with
  | imports types => rfl
  | other => rfl
  | constant identifier =>
    dsimp only
    cases o.naming.baseName? identifier with
    | none => rfl
    | some name => exact typeImports_addBlock o g _

theorem typeImports_gather (ss : List Statement) :
    (gather o ss).typeImports = (ss.flatMap Statement.types).foldl addImport [] := by
  have hfold (g : Gathered) : (ss.foldl (Gathered.add o) g).typeImports =
      (ss.flatMap Statement.types).foldl addImport g.typeImports := by
    induction ss generalizing g with
    | nil => rfl
    | cons s ss ih =>
      rw [List.foldl_cons, ih, typeImports_add, List.flatMap_cons, List.foldl_append]
  exact hfold {}

theorem nodup_typeImports_gather (ss : List Statement) :
    ("Json" :: (gather o ss).typeImports).Nodup := by
  rw [typeImports_gather]
  exact nodup_foldl_addImport (List.nodup_singleton _) _

theorem mem_foldl_addImport {imports types : List String} {name : String} :
    name ∈ types.foldl addImport imports ↔ name ∈ imports ∨ name ≠ "Json" ∧ name ∈ types := by
  induction types generalizing imports with
  | nil => simp
  | cons type types ih =>
    rw [List.foldl_cons, ih, addImport]
    split_ifs with hc
    · rw [Bool.or_eq_true, decide_eq_true_eq, List.contains_iff_mem] at hc
      by_cases heq : name = type
      · subst heq
        rcases hc with rfl | hc
        · simp
        · simp [hc]
      · simp [heq]
    · by_cases heq : name = type
      · subst heq
        simp_all
      · simp [heq]

/-- A module imports what its statements do, and `Json` in any case. -/
theorem mem_typeImports_gather {ss : List Statement} {name : String} :
    name ∈ (gather o ss).typeImports ↔ name ≠ "Json" ∧ name ∈ ss.flatMap Statement.types := by
  rw [typeImports_gather, mem_foldl_addImport]
  simp

end Imports

section Blocks

variable (o : Options)

/-- A block is a constant with a mark, and its name is without it. -/
theorem of_mem_outcomes {above : List String} {cs : List (String × String)} {b : Block}
    (hb : b ∈ (o.outcomes above cs).filterMap Outcome.block?) :
    (b.identifier, b.text) ∈ cs ∧ o.naming.baseName? b.identifier = some b.name := by
  obtain ⟨x, hx, hblock⟩ := List.mem_filterMap.1 hb
  obtain ⟨above', c, hc, rfl⟩ := exists_of_mem_outcomes hx
  unfold Options.outcome at hblock
  split at hblock
  · cases hblock
  · next name hname =>
    split_ifs at hblock
    · cases hblock
    · cases hblock
    · obtain rfl := Option.some.inj hblock
      exact ⟨hc, hname⟩

variable (ss : List Statement)

theorem nodup_identifiers : ((gather o ss).blocks.map (·.identifier)).Nodup := by
  have hdistinct := (gather_grows o ss).2.distinct
  exact hdistinct.sublist ((List.sublist_append_right _ _).map _)

theorem nodup_blocks : (gather o ss).blocks.Nodup := (nodup_identifiers o ss).of_map _

/-- The key of a block in the aggregate of its entity. -/
def Options.keyOf (b : Block) : String := (splitSuffix o.suffixes b.name).2.getD ""

theorem entityOf_append_keyOf (b : Block) : o.entityOf b ++ o.keyOf b = b.name :=
  splitSuffix_append o.suffixes b.name

/-- The keys of an aggregate are those of the blocks of its entity. -/
theorem map_keyed {g : Group} (hg : g ∈ (Catalog.ofStatements o ss).pairs) :
    g.keyed.map (·.1) =
      ((gather o ss).blocks.filter (o.entityOf · = g.entity)).map o.keyOf := by
  obtain ⟨hg, hp⟩ := List.mem_filter.1 hg
  have hcomplete := ((hasPair_iff g).1 hp).1
  have hkeys : g.keyed.map (·.1) = g.members.map fun m => m.suffix.getD "" := by
    unfold Group.keyed
    have hall := hcomplete.2
    generalize g.members = members at hall
    induction members with
    | nil => rfl
    | cons m members ih =>
      rw [List.forall_mem_cons] at hall
      obtain ⟨s, hs⟩ := Option.ne_none_iff_exists'.1 hall.1
      simp [hs, ih hall.2]
  rw [hkeys, (members_of_mem_groups o ss hg).2, List.map_map]
  rfl

end Blocks

section BindsOnce

variable (o : Options) (ss : List Statement)

theorem nodup_typeNames_iff :
    (Catalog.ofStatements o ss).typeNames.Nodup ↔
      (∀ b ∈ (Catalog.ofStatements o ss).inferred, b.name ≠ "Json") ∧
        ((Catalog.ofStatements o ss).inferred.map (·.name)).Nodup := by
  have himports : ("Json" :: (Catalog.ofStatements o ss).typeImports).Nodup :=
    nodup_typeImports_gather o ss
  unfold Catalog.typeNames
  rw [List.nodup_append, List.nodup_append]
  constructor
  · rintro ⟨⟨-, hinferred, hapart⟩, -⟩
    refine ⟨?_, hinferred⟩
    intro b hb hjson
    exact hapart "Json" List.mem_cons_self b.name (List.mem_map_of_mem hb) hjson.symm
  · rintro ⟨hjson, hinferred⟩
    refine ⟨⟨himports, hinferred, ?_⟩, nodup_entity_pairs o ss, ?_⟩
    · rintro name hname _ hinf rfl
      obtain ⟨b, hb, rfl⟩ := List.mem_map.1 hinf
      rcases List.mem_cons.1 hname with heq | himport
      · exact hjson b hb heq
      · have hout := (List.mem_filter.1 hb).2
        simp [himport] at hout
    · rintro name hname _ hpair rfl
      obtain ⟨g, hg, rfl⟩ := List.mem_map.1 hpair
      exact entity_pairs_fresh o ss hg hname

theorem mem_inferred_iff (c : Catalog) (b : Block) :
    b ∈ c.inferred ↔ b ∈ c.blocks ∧ b.name ∉ c.typeImports := by
  simp [Catalog.inferred]

/-- The name of a block determines its entity and its key, and these determine the name. -/
theorem name_eq_iff {a b : Block} :
    a.name = b.name ↔ o.entityOf a = o.entityOf b ∧ o.keyOf a = o.keyOf b := by
  constructor
  · intro h
    unfold Options.entityOf Options.keyOf
    rw [h]
    exact ⟨rfl, rfl⟩
  · rintro ⟨hentity, hkey⟩
    rw [← entityOf_append_keyOf o a, ← entityOf_append_keyOf o b, hentity, hkey]

theorem nodup_keyed_iff {g : Group} (hg : g ∈ (Catalog.ofStatements o ss).pairs) :
    (g.keyed.map (·.1)).Nodup ↔
      ∀ a ∈ (Catalog.ofStatements o ss).blocks, ∀ b ∈ (Catalog.ofStatements o ss).blocks,
        a.name = b.name → a = b ∨ g.entity ≠ o.entityOf a := by
  have hblocks : (gather o ss).blocks.Nodup := nodup_blocks o ss
  rw [map_keyed o ss hg, List.nodup_map_iff_inj_on (hblocks.filter _)]
  constructor
  · intro hinj a ha b hb hname
    obtain ⟨hentity, hkey⟩ := (name_eq_iff o).1 hname
    rw [or_iff_not_imp_right, not_not]
    intro ha'
    refine hinj a (List.mem_filter.2 ⟨ha, ?_⟩) b (List.mem_filter.2 ⟨hb, ?_⟩) hkey
    · simp [ha']
    · simp [ha', hentity]
  · intro h a ha b hb hkey
    obtain ⟨ha, hea⟩ := List.mem_filter.1 ha
    obtain ⟨hb, heb⟩ := List.mem_filter.1 hb
    rw [decide_eq_true_eq] at hea heb
    have hname := (name_eq_iff o).2 ⟨hea.trans heb.symm, hkey⟩
    exact (h a ha b hb hname).resolve_right (not_not.2 hea.symm)

/-- A module binds every type name and every key of an aggregate once exactly if no block has the type name
`Json`, and two blocks have one name only if it is imported and they are in no aggregate. -/
theorem bindsOnce_iff :
    (Catalog.ofStatements o ss).BindsOnce ↔
      (∀ b ∈ (Catalog.ofStatements o ss).inferred, b.name ≠ "Json") ∧
        ∀ a ∈ (Catalog.ofStatements o ss).blocks, ∀ b ∈ (Catalog.ofStatements o ss).blocks,
          a.name = b.name → a = b ∨ a.name ∈ (Catalog.ofStatements o ss).typeImports ∧
            ∀ g ∈ (Catalog.ofStatements o ss).pairs, g.entity ≠ o.entityOf a := by
  have hblocks : (Catalog.ofStatements o ss).blocks.Nodup := nodup_blocks o ss
  have hinferred : (Catalog.ofStatements o ss).inferred.Nodup := hblocks.sublist List.filter_sublist
  rw [Catalog.BindsOnce, nodup_typeNames_iff, List.nodup_map_iff_inj_on hinferred, and_assoc]
  refine and_congr_right fun _ => ?_
  constructor
  · rintro ⟨hinj, hkeyed⟩ a ha b hb hname
    rw [or_iff_not_imp_left]
    intro hne
    constructor
    · by_contra himport
      have ha' := (mem_inferred_iff _ a).2 ⟨ha, himport⟩
      have hb' := (mem_inferred_iff _ b).2 ⟨hb, hname ▸ himport⟩
      exact hne (hinj a ha' b hb' hname)
    · intro g hg
      exact ((nodup_keyed_iff o ss hg).1 (hkeyed g hg) a ha b hb hname).resolve_left hne
  · intro h
    constructor
    · intro a ha b hb hname
      obtain ⟨ha, himport⟩ := (mem_inferred_iff _ a).1 ha
      obtain ⟨hb, -⟩ := (mem_inferred_iff _ b).1 hb
      exact (h a ha b hb hname).resolve_right fun hboth => himport hboth.1
    · intro g hg
      refine (nodup_keyed_iff o ss hg).2 fun a ha b hb hname => ?_
      exact (h a ha b hb hname).imp_right fun hboth => hboth.2 g hg

/-- Constants that are named after types, as the naming wants it, have different names without marks, and
none but that of `Json` has this name. -/
theorem bindsOnce_of_named (hjson : o.jsonIdentifier = o.naming.schemaName "Json")
    (h : ∀ c ∈ ss.filterMap (·.constant?), ∃ type, c.1 = o.naming.schemaName type) :
    (Catalog.ofStatements o ss).BindsOnce := by
  obtain ⟨hgrows, hfollows⟩ := gather_grows o ss
  have hnamed : ∀ b ∈ (gather o ss).blocks,
      ∃ type, b.identifier = o.naming.schemaName type ∧ b.name = pascal type := by
    intro b hb
    rw [hgrows.blocks, List.nil_append] at hb
    obtain ⟨hc, hname⟩ := of_mem_outcomes o hb
    obtain ⟨type, htype⟩ : ∃ type, b.identifier = o.naming.schemaName type := h _ hc
    refine ⟨type, htype, ?_⟩
    rw [htype] at hname
    exact Naming.eq_pascal_of_baseName? hname
  rw [bindsOnce_iff]
  constructor
  · intro b hb hname
    have hb := ((mem_inferred_iff _ b).1 hb).1
    obtain ⟨type, hidentifier, htype⟩ := hnamed b hb
    have hpascal : pascal type = pascal "Json" := by
      rw [← htype, hname]
      decide +kernel
    refine hfollows.blocks b hb ?_
    rw [hidentifier, hjson]
    exact (o.naming.schemaName_eq_iff type "Json").2 hpascal
  · intro a ha b hb hname
    left
    obtain ⟨s, hs, has⟩ := hnamed a ha
    obtain ⟨t, ht, hbt⟩ := hnamed b hb
    have hpascal : pascal s = pascal t := by rw [← has, ← hbt, hname]
    refine List.inj_on_of_nodup_map (nodup_identifiers o ss) ha hb ?_
    rw [hs, ht]
    exact (o.naming.schemaName_eq_iff s t).2 hpascal

end BindsOnce

/-- A module binds a type name or a key of an aggregate twice exactly if a type that is not imported has the
name `Json`, or two blocks have one name, which is that of no import or the key of both in one aggregate.
If the constants are named after types, as the naming wants it, it binds none twice. -/
theorem ofStatements_bindsOnce (o : Options) (ss : List Statement) :
    let c := Catalog.ofStatements o ss
    (c.BindsOnce ↔
      (∀ b ∈ c.inferred, b.name ≠ "Json") ∧
      ∀ a ∈ c.blocks, ∀ b ∈ c.blocks, a.name = b.name →
        a = b ∨ a.name ∈ c.typeImports ∧ ∀ g ∈ c.pairs, g.entity ≠ o.entityOf a) ∧
    (o.jsonIdentifier = o.naming.schemaName "Json" →
      (∀ k ∈ ss.filterMap (·.constant?), ∃ type, k.1 = o.naming.schemaName type) →
      c.BindsOnce) := by
  intro c
  exact ⟨bindsOnce_iff o ss, bindsOnce_of_named o ss⟩

/-- The mark is at the end of one identifier and at the start of the other. -/
theorem ofStatements_bindsOnce_marks :
    ¬(Catalog.ofStatements (.ofNaming .standard standardSuffixes)
      [⟨.constant "FooRowSchema", "export const FooRowSchema = z.string();"⟩,
        ⟨.constant "SchemaFooRow", "export const SchemaFooRow = z.number();"⟩]).BindsOnce := by
  intro h
  have hnames := ((ofStatements_bindsOnce _ _).1.1 h).2
    ⟨"FooRowSchema", "FooRow", "export const FooRowSchema = z.string();"⟩ (by decide +kernel)
    ⟨"SchemaFooRow", "FooRow", "export const SchemaFooRow = z.number();"⟩ (by decide +kernel) rfl
  revert hnames
  decide +kernel

end Entity

end SchemaGen
