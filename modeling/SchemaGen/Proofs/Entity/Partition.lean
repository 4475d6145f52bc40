import Mathlib.Data.List.Induction
import Mathlib.Data.List.Nodup
import SchemaGen.Proofs.Entity.Gathering
import SchemaGen.Proofs.Entity.Reservation

namespace SchemaGen

def Notice.entity? : Notice → Option String
  | .mixedGroup entity | .loneSuffix _ entity | .nameExported _ entity => some entity
  | _ => none

namespace Entity

/-- What becomes of an exported constant. -/
inductive Outcome where
  | json (block : Block)
  | block (block : Block)
  | dropped (diagnostic : Diagnostic)

def Outcome.json? : Outcome → Option Block
  | json b => some b
  | _ => none

def Outcome.block? : Outcome → Option Block
  | block b => some b
  | _ => none

def Outcome.diagnostic? : Outcome → Option Diagnostic
  | dropped d => some d
  | _ => none

/-- What becomes of a constant, given by its identifier and its text, below constants of the given
identifiers. -/
def Options.outcome (o : Options) (above : List String) (c : String × String) : Outcome :=
  match o.naming.baseName? c.1 with
  | none => .dropped ⟨some c.1, .unmarked o.naming.marker⟩
  | some name =>
    if c.1 ∈ above then .dropped ⟨some c.1, .repeated⟩
    else if c.1 = o.jsonIdentifier then .json ⟨c.1, name, c.2⟩
    else .block ⟨c.1, name, c.2⟩

/-- What becomes of several constants, one after the other. -/
def Options.outcomes (o : Options) (above : List String) : List (String × String) → List Outcome
  | [] => []
  | c :: cs => o.outcome above c :: o.outcomes (c.1 :: above) cs

theorem exists_of_mem_outcomes {o : Options} {above : List String} {cs : List (String × String)}
    {x : Outcome} (hx : x ∈ o.outcomes above cs) : ∃ above', ∃ c ∈ cs, x = o.outcome above' c := by
  induction cs generalizing above with
  | nil => cases hx
  | cons c cs ih =>
    rcases List.mem_cons.1 hx with rfl | hx
    · exact ⟨above, c, List.mem_cons_self, rfl⟩
    · obtain ⟨above', k, hk, heq⟩ := ih hx
      exact ⟨above', k, List.mem_cons_of_mem _ hk, heq⟩

section Gather

variable (o : Options)

structure Gathered.Grows (g g' : Gathered) (os : List Outcome) : Prop where
  json : g'.json.toList = g.json.toList ++ os.filterMap Outcome.json?
  blocks : g'.blocks = g.blocks ++ os.filterMap Outcome.block?
  diagnostics : g'.diagnostics = g.diagnostics ++ os.filterMap Outcome.diagnostic?

theorem Gathered.Grows.trans {g g' g'' : Gathered} {os ps : List Outcome} (h : g.Grows g' os)
    (h' : g'.Grows g'' ps) : g.Grows g'' (os ++ ps) where
  json := by rw [h'.json, h.json, List.filterMap_append, List.append_assoc]
  blocks := by rw [h'.blocks, h.blocks, List.filterMap_append, List.append_assoc]
  diagnostics := by rw [h'.diagnostics, h.diagnostics, List.filterMap_append, List.append_assoc]

def Gathered.identifiers (g : Gathered) : List String :=
  (g.json.toList ++ g.blocks).map (·.identifier)

/-- The identifiers that have been seen are those above that have a mark, the blocks have them each once,
and only the block of `Json` has its identifier. -/
structure Gathered.Follows (g : Gathered) (above : List String) : Prop where
  seen : ∀ i, i ∈ g.seen ↔ i ∈ above ∧ (o.naming.baseName? i).isSome
  shown : ∀ i ∈ g.identifiers, i ∈ g.seen
  distinct : g.identifiers.Nodup
  json : ∀ b ∈ g.json, b.identifier = o.jsonIdentifier
  blocks : ∀ b ∈ g.blocks, b.identifier ≠ o.jsonIdentifier

theorem Gathered.Follows.congr {g : Gathered} {above : List String} (h : g.Follows o above)
    (typeImports : List String) (diagnostics : List Diagnostic) :
    { g with typeImports := typeImports, diagnostics := diagnostics }.Follows o above :=
  ⟨h.seen, h.shown, h.distinct, h.json, h.blocks⟩

theorem Gathered.Follows.jsonSeen {g : Gathered} {above : List String} (h : g.Follows o above) :
    g.JsonSeen o := by
  intro b hb
  refine ⟨h.json b hb, h.shown _ ?_⟩
  exact List.mem_map_of_mem (List.mem_append_left _ (Option.mem_toList.2 hb))

theorem add_other (g : Gathered) {s : Statement} (h : s.constant? = none) :
    ∃ typeImports, g.add o s = { g with typeImports := typeImports } := by
  unfold Statement.constant? at h
  unfold Gathered.add
  cases hk : s.kind with
  | constant identifier => simp [hk] at h
  | imports types => exact ⟨_, rfl⟩
  | other => exact ⟨_, rfl⟩

theorem add_unmarked {g : Gathered} {above : List String} (h : g.Follows o above) {s : Statement}
    {c : String × String} (hc : s.constant? = some c) (hb : o.naming.baseName? c.1 = none) :
    g.Grows (g.add o s) [o.outcome above c] ∧ (g.add o s).Follows o (c.1 :: above) := by
  obtain ⟨hkind, -⟩ := constant?_eq_some_iff.1 hc
  have hadd : g.add o s = g.notice c.1 (.unmarked o.naming.marker) := by
    rw [Gathered.add, hkind]
    simp [hb]
  have hout : o.outcome above c = .dropped ⟨some c.1, .unmarked o.naming.marker⟩ := by
    simp [Options.outcome, hb]
  rw [hadd, hout]
  refine ⟨⟨?_, ?_, rfl⟩, ⟨fun i => ?_, h.shown, h.distinct, h.json, h.blocks⟩⟩
  · exact (List.append_nil _).symm
  · exact (List.append_nil _).symm
  · have hseen := h.seen i
    have hne : (o.naming.baseName? i).isSome → i ≠ c.1 := by
      rintro hi rfl
      simp [hb] at hi
    change i ∈ g.seen ↔ _
    rw [hseen, List.mem_cons]
    tauto

/-- A block with a new identifier is the block of `Json` or comes behind the others. -/
theorem identifiers_addNew {g : Gathered} {above : List String} (h : g.Follows o above) {b : Block}
    (hnew : b.identifier ∉ g.seen) :
    ({ g with seen := b.identifier :: g.seen }.addNew o b).identifiers.Perm
      (b.identifier :: g.identifiers) := by
  unfold Gathered.identifiers
  rw [addNew_json, addNew_blocks]
  by_cases hjson : b.identifier = o.jsonIdentifier
  · rw [if_pos hjson, if_pos hjson, json_eq_none o (h.jsonSeen o) hnew hjson]
    exact .refl _
  · rw [if_neg hjson, if_neg hjson, ← List.append_assoc, List.map_append]
    exact List.perm_append_singleton _ _

section Marked

variable {o} {g : Gathered} {above : List String} {b : Block} (h : g.Follows o above)
  (hmarked : (o.naming.baseName? b.identifier).isSome)

include h hmarked

/-- A new identifier is one that has a mark, whatever it was before. -/
theorem Gathered.Follows.mem_cons (i : String) : i ∈ b.identifier :: g.seen ↔
    i ∈ b.identifier :: above ∧ (o.naming.baseName? i).isSome := by
  rw [List.mem_cons, List.mem_cons, h.seen]
  have hnew : i = b.identifier → (o.naming.baseName? i).isSome := by
    rintro rfl
    exact hmarked
  tauto

theorem Gathered.Follows.again (hold : b.identifier ∈ g.seen) :
    g.Follows o (b.identifier :: above) where
  seen i := by
    rw [← h.mem_cons hmarked, List.mem_cons]
    refine (or_iff_right_of_imp ?_).symm
    rintro rfl
    exact hold
  shown := h.shown
  distinct := h.distinct
  json := h.json
  blocks := h.blocks

theorem Gathered.Follows.addNew (hnew : b.identifier ∉ g.seen) :
    ({ g with seen := b.identifier :: g.seen }.addNew o b).Follows o (b.identifier :: above) where
  seen i := by
    rw [addNew_seen]
    exact h.mem_cons hmarked i
  shown i hi := by
    rw [(identifiers_addNew o h hnew).mem_iff] at hi
    rw [addNew_seen]
    rcases List.mem_cons.1 hi with rfl | hi
    · exact List.mem_cons_self
    · exact List.mem_cons_of_mem _ (h.shown i hi)
  distinct := by
    rw [(identifiers_addNew o h hnew).nodup_iff]
    exact List.nodup_cons.2 ⟨fun hmem => hnew (h.shown _ hmem), h.distinct⟩
  json c hc := (h.jsonSeen o).addNew o b c hc |>.1
  blocks c hc := by
    rw [addNew_blocks] at hc
    split_ifs at hc with hjson
    · exact h.blocks c hc
    · rcases List.mem_append.1 hc with hc | hc
      · exact h.blocks c hc
      · obtain rfl := List.mem_singleton.1 hc
        exact hjson

end Marked

/-- A constant with a mark is a block unless its identifier has been seen. -/
theorem add_marked {g : Gathered} {above : List String} (h : g.Follows o above) {s : Statement}
    {c : String × String} (hc : s.constant? = some c) {name : String}
    (hb : o.naming.baseName? c.1 = some name) :
    g.Grows (g.add o s) [o.outcome above c] ∧ (g.add o s).Follows o (c.1 :: above) := by
  obtain ⟨hkind, htext⟩ := constant?_eq_some_iff.1 hc
  have hblock : o.blockOf? s = some ⟨c.1, name, c.2⟩ := by
    rw [Options.blockOf?, hkind, htext]
    simp [hb]
  have hmarked : (o.naming.baseName? (Block.mk c.1 name c.2).identifier).isSome := by simp [hb]
  have hseen : c.1 ∈ g.seen ↔ c.1 ∈ above := by
    rw [h.seen]
    exact and_iff_left hmarked
  rw [add_of_some o g hblock, Gathered.addBlock, Options.outcome, hb]
  by_cases hold : c.1 ∈ g.seen
  · simp only [if_pos hold, if_pos (hseen.1 hold)]
    refine ⟨⟨?_, ?_, rfl⟩, (h.again hmarked hold).congr o _ _⟩
    · exact (List.append_nil _).symm
    · exact (List.append_nil _).symm
  · simp only [if_neg hold, if_neg (mt hseen.2 hold)]
    refine ⟨⟨?_, ?_, ?_⟩, h.addNew hmarked hold⟩
    · rw [addNew_json]
      by_cases hjson : c.1 = o.jsonIdentifier
      · have hnone : g.json = none :=
          json_eq_none o (b := ⟨c.1, name, c.2⟩) (h.jsonSeen o) hold hjson
        simp [hjson, hnone, Outcome.json?]
      · simp [hjson, Outcome.json?]
    · rw [addNew_blocks]
      by_cases hjson : c.1 = o.jsonIdentifier
      · simp [hjson, Outcome.block?]
      · simp [hjson, Outcome.block?]
    · rw [addNew_diagnostics]
      by_cases hjson : c.1 = o.jsonIdentifier
      · simp [hjson, Outcome.diagnostic?]
      · simp [hjson, Outcome.diagnostic?]

theorem foldl_add_outcomes (ss : List Statement) {g : Gathered} {above : List String}
    (h : g.Follows o above) :
    g.Grows (ss.foldl (Gathered.add o) g) (o.outcomes above (ss.filterMap (·.constant?))) ∧
      (ss.foldl (Gathered.add o) g).Follows o
        (((ss.filterMap (·.constant?)).map (·.1)).reverse ++ above) := by
  induction ss generalizing g above with
  | nil =>
    refine ⟨⟨?_, ?_, ?_⟩, h⟩
    · exact (List.append_nil _).symm
    · exact (List.append_nil _).symm
    · exact (List.append_nil _).symm
  | cons s ss ih =>
    rw [List.foldl_cons]
    cases hc : s.constant? with
    | none =>
      obtain ⟨typeImports, hadd⟩ := add_other o g hc
      obtain ⟨hgrows, hlast⟩ := ih (h.congr o typeImports g.diagnostics)
      rw [List.filterMap_cons_none hc, hadd]
      exact ⟨⟨hgrows.json, hgrows.blocks, hgrows.diagnostics⟩, hlast⟩
    | some c =>
      have hstep : g.Grows (g.add o s) [o.outcome above c] ∧
          (g.add o s).Follows o (c.1 :: above) := by
        cases hb : o.naming.baseName? c.1 with
        | none => exact add_unmarked o h hc hb
        | some name => exact add_marked o h hc hb
      obtain ⟨hgrows, hlast⟩ := ih hstep.2
      rw [List.filterMap_cons_some hc, List.map_cons, List.reverse_cons, List.append_assoc]
      exact ⟨hstep.1.trans hgrows, hlast⟩

theorem gather_grows (ss : List Statement) :
    Gathered.Grows {} (gather o ss) (o.outcomes [] (ss.filterMap (·.constant?))) ∧
      (gather o ss).Follows o ((ss.filterMap (·.constant?)).map (·.1)).reverse := by
  have hstart : Gathered.Follows o {} [] := by
    refine ⟨?_, ?_, List.nodup_nil, ?_, ?_⟩ <;> simp [Gathered.identifiers]
  have h := foldl_add_outcomes o ss hstart
  rw [List.append_nil] at h
  exact h

end Gather

section Groups

variable {α β : Type} [DecidableEq β]

/-- The parts of a list by the values of a function make up the list. -/
theorem flatMap_filter_perm (f : α → β) {keys : List β} (hn : keys.Nodup) {l : List α}
    (h : ∀ a ∈ l, f a ∈ keys) : (keys.flatMap fun k => l.filter (f · = k)).Perm l := by
  induction keys generalizing l with
  | nil =>
    have hnil : l = [] := List.eq_nil_iff_forall_not_mem.2 fun a ha => List.not_mem_nil (h a ha)
    rw [hnil]
    exact .nil
  | cons k keys ih =>
    rw [List.nodup_cons] at hn
    have hrest : (keys.flatMap fun k' => l.filter (f · = k')) =
        keys.flatMap fun k' => (l.filter fun a => !decide (f a = k)).filter (f · = k') := by
      refine List.flatMap_congr fun k' hk' => ?_
      rw [List.filter_filter]
      refine List.filter_congr fun a _ => ?_
      by_cases hk : f a = k'
      · have hne : k' ≠ k := by
          rintro rfl
          exact hn.1 hk'
        simp [hk, hne]
      · simp [hk]
    rw [List.flatMap_cons, hrest]
    refine List.Perm.trans ((ih hn.2 ?_).append_left _) (List.filter_append_perm _ l)
    intro a ha
    obtain ⟨ha, hne⟩ := List.mem_filter.1 ha
    exact (List.mem_cons.1 (h a ha)).resolve_left (by simpa using hne)

end Groups

section Catalog

variable (o : Options)

/-- The notice of a constant that is dropped is about no group. -/
theorem entity?_of_mem_outcomes (above : List String) (cs : List (String × String)) :
    ∀ d ∈ (o.outcomes above cs).filterMap Outcome.diagnostic?, d.notice.entity? = none := by
  intro d hd
  obtain ⟨x, hx, hdropped⟩ := List.mem_filterMap.1 hd
  obtain ⟨above', c, -, rfl⟩ := exists_of_mem_outcomes hx
  unfold Options.outcome at hdropped
  split at hdropped
  · obtain rfl := Option.some.inj hdropped
    rfl
  · split_ifs at hdropped
    · obtain rfl := Option.some.inj hdropped
      rfl
    · cases hdropped
    · cases hdropped

theorem entity?_of_mem_doubts {g : Group} {d : Diagnostic} (hd : d ∈ g.doubts) :
    d.notice.entity? = some g.entity := by
  unfold Group.doubts at hd
  split at hd
  · split at hd
    · split_ifs at hd
      · simp at hd
      · obtain rfl := List.mem_singleton.1 hd
        rfl
    · simp at hd
  · obtain ⟨m, _, rfl⟩ := List.mem_map.1 hd
    rfl

variable (ss : List Statement)

theorem ofStatements_groups :
    (Catalog.ofStatements o ss).groups =
      (reserve o.naming ((gather o ss).taken o) (o.groups (gather o ss).blocks)).1 := by
  rw [← gather_groups]
  rfl

/-- The notices of a module are those of dropped constants, the doubts about groups, and those of names
that are not free. -/
theorem ofStatements_diagnostics :
    (Catalog.ofStatements o ss).diagnostics =
      (gather o ss).diagnostics ++ (Catalog.ofStatements o ss).groups.flatMap Group.doubts ++
        (reserve o.naming ((gather o ss).taken o) (o.groups (gather o ss).blocks)).2 := by
  rw [ofStatements_groups, flatMap_doubts_reserve, ← gather_groups]
  rfl

/-- There is one group for each entity of a block, and its members are the blocks of that entity. -/
theorem map_groups :
    ((Catalog.ofStatements o ss).groups.map fun g => (g.entity, g.members)) =
      ((gather o ss).blocks.map o.entityOf).eraseDups.map fun entity =>
        (entity, ((gather o ss).blocks.filter (o.entityOf · = entity)).map o.memberOf) := by
  rw [ofStatements_groups, map_reserve, Options.groups, List.map_map]
  rfl

theorem map_entity_groups :
    (Catalog.ofStatements o ss).groups.map (·.entity) =
      ((gather o ss).blocks.map o.entityOf).eraseDups := by
  have h := congrArg (List.map Prod.fst) (map_groups o ss)
  simpa [Function.comp_def] using h

theorem members_of_mem_groups {g : Group} (hg : g ∈ (Catalog.ofStatements o ss).groups) :
    g.entity ∈ (gather o ss).blocks.map o.entityOf ∧
      g.members = ((gather o ss).blocks.filter (o.entityOf · = g.entity)).map o.memberOf := by
  have hmem := List.mem_map_of_mem (f := fun g : Group => (g.entity, g.members)) hg
  rw [map_groups] at hmem
  obtain ⟨entity, hentity, heq⟩ := List.mem_map.1 hmem
  obtain ⟨rfl, hmembers⟩ := Prod.mk.inj heq
  exact ⟨List.mem_eraseDups.1 hentity, hmembers.symm⟩

theorem pairwise_entity_groups :
    ((Catalog.ofStatements o ss).groups.map (·.entity)).Pairwise fun a b =>
      ((gather o ss).blocks.map o.entityOf).idxOf a <
        ((gather o ss).blocks.map o.entityOf).idxOf b := by
  rw [map_entity_groups]
  exact pairwise_idxOf_eraseDups _

theorem nodup_entity_groups : ((Catalog.ofStatements o ss).groups.map (·.entity)).Nodup :=
  (pairwise_entity_groups o ss).imp fun hlt heq => absurd hlt (by simp [heq])

theorem flatMap_members_perm :
    ((Catalog.ofStatements o ss).groups.flatMap (·.members)).Perm
      ((gather o ss).blocks.map o.memberOf) := by
  have hgroups : (Catalog.ofStatements o ss).groups.flatMap (·.members) =
      (((gather o ss).blocks.map o.entityOf).eraseDups.flatMap fun entity =>
        (gather o ss).blocks.filter (o.entityOf · = entity)).map o.memberOf := by
    have h := congrArg (List.flatMap Prod.snd) (map_groups o ss)
    rw [List.flatMap_map, List.flatMap_map] at h
    rw [List.map_flatMap]
    exact h
  have hkeys : ((gather o ss).blocks.map o.entityOf).eraseDups.Nodup := by
    rw [← map_entity_groups]
    exact nodup_entity_groups o ss
  rw [hgroups]
  refine List.Perm.map _ (flatMap_filter_perm o.entityOf hkeys fun b hb => ?_)
  exact List.mem_eraseDups.2 (List.mem_map_of_mem hb)

/-- The notices that are about no group are those of the constants that are dropped. -/
theorem filter_diagnostics :
    (Catalog.ofStatements o ss).diagnostics.filter (·.notice.entity? = none) =
      (o.outcomes [] (ss.filterMap (·.constant?))).filterMap Outcome.diagnostic? := by
  have hdropped : (gather o ss).diagnostics.filter (·.notice.entity? = none) =
      (o.outcomes [] (ss.filterMap (·.constant?))).filterMap Outcome.diagnostic? := by
    rw [(gather_grows o ss).1.diagnostics, List.nil_append, List.filter_eq_self]
    intro d hd
    simpa using entity?_of_mem_outcomes o [] _ d hd
  have hdoubts : ((Catalog.ofStatements o ss).groups.flatMap Group.doubts).filter
      (·.notice.entity? = none) = [] := by
    rw [List.filter_eq_nil_iff]
    intro d hd
    obtain ⟨g, _, hd⟩ := List.mem_flatMap.1 hd
    simp [entity?_of_mem_doubts hd]
  have hclashes : (reserve o.naming ((gather o ss).taken o)
      (o.groups (gather o ss).blocks)).2.filter (·.notice.entity? = none) = [] := by
    rw [List.filter_eq_nil_iff]
    intro d hd
    obtain ⟨g, _, _, name, rfl⟩ := of_mem_reserve _ _ hd
    simp [Notice.entity?]
  rw [ofStatements_diagnostics, List.filter_append, List.filter_append, hdropped, hdoubts, hclashes,
    List.append_nil, List.append_nil]

end Catalog

/-- Every exported constant has one outcome: it is the block of `Json`, it is another block with its text
as it stands, or it is dropped with one notice; and nothing else is gathered. The groups part the blocks
by their entities, in the order of their first blocks, and keep the order of the blocks of an entity. The
block of `Json` is in no group. -/
theorem ofStatements_partition (o : Options) (ss : List Statement) :
    let c := Catalog.ofStatements o ss
    let outcomes := o.outcomes [] (ss.filterMap (·.constant?))
    (c.json.toList = outcomes.filterMap Outcome.json? ∧
      c.blocks = outcomes.filterMap Outcome.block? ∧
      c.diagnostics.filter (·.notice.entity? = none) = outcomes.filterMap Outcome.diagnostic?) ∧
    (c.groups.flatMap (·.members)).Perm (c.blocks.map o.memberOf) ∧
    (c.groups.map (·.entity)).Nodup ∧
    (c.groups.map (·.entity)).Pairwise (fun a b =>
      (c.blocks.map o.entityOf).idxOf a < (c.blocks.map o.entityOf).idxOf b) ∧
    (∀ g ∈ c.groups, g.members ≠ [] ∧
      g.members = (c.blocks.filter fun b => (splitSuffix o.suffixes b.name).1 = g.entity).map
        o.memberOf) ∧
    ∀ j ∈ c.json, j.identifier = o.jsonIdentifier ∧
      (∀ b ∈ c.blocks, b.identifier ≠ j.identifier) ∧
      ∀ g ∈ c.groups, ∀ m ∈ g.members, m.identifier ≠ j.identifier := by
  intro c outcomes
  obtain ⟨hgrows, hfollows⟩ := gather_grows o ss
  have hblocks : ∀ b ∈ c.blocks, b.identifier ≠ o.jsonIdentifier := hfollows.blocks
  refine ⟨⟨hgrows.json, hgrows.blocks, filter_diagnostics o ss⟩, flatMap_members_perm o ss,
    nodup_entity_groups o ss, pairwise_entity_groups o ss, ?_, ?_⟩
  · intro g hg
    obtain ⟨hentity, hmembers⟩ := members_of_mem_groups o ss hg
    refine ⟨?_, hmembers⟩
    obtain ⟨b, hb, heq⟩ := List.mem_map.1 hentity
    have hmem : o.memberOf b ∈ g.members := by
      rw [hmembers]
      exact List.mem_map_of_mem (List.mem_filter.2 ⟨hb, by simpa using heq⟩)
    exact List.ne_nil_of_mem hmem
  · intro j hj
    have hjson : j.identifier = o.jsonIdentifier := hfollows.json j hj
    rw [hjson]
    refine ⟨rfl, hblocks, ?_⟩
    intro g hg m hm
    rw [(members_of_mem_groups o ss hg).2] at hm
    obtain ⟨b, hb, rfl⟩ := List.mem_map.1 hm
    exact hblocks b (List.mem_filter.1 hb).1

end Entity

end SchemaGen
