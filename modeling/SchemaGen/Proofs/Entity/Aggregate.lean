import SchemaGen.Entity.Layout
import SchemaGen.Proofs.Entity.Partition
import SchemaGen.Proofs.Naming

namespace SchemaGen.Entity

def Catalog.exported (c : Catalog) (naming : Naming) : List String :=
  (c.json.toList ++ c.blocks).map (·.identifier) ++
    c.pairs.map fun g => naming.aggregateName g.entity

theorem nameTaken_of_mem_groups {o : Options} {blocks : List Block} :
    ∀ g ∈ o.groups blocks, g.nameTaken = false := by
  intro g hg
  obtain ⟨entity, _, rfl⟩ := List.mem_map.1 hg
  rfl

theorem mem_taken_iff (o : Options) (g : Gathered) (name : String) :
    name ∈ g.taken o ↔ name = "Json" ∨ name = o.jsonIdentifier ∨ name ∈ g.typeImports ∨
      name ∈ g.blocks.map (·.identifier) ∨ name ∈ g.blocks.map (·.name) := by
  simp only [Gathered.taken, List.cons_append, List.mem_cons, List.mem_append, List.mem_flatMap,
    List.mem_map, List.not_mem_nil, or_false]
  constructor
  · rintro (rfl | rfl | himport | ⟨b, hb, rfl | rfl⟩) <;> grind
  · grind

section Group

variable {g : Group}

theorem not_isComplete_iff (h : 2 ≤ g.members.length) :
    ¬g.IsComplete ↔ ∃ m ∈ g.members, m.suffix = none := by
  unfold Group.IsComplete
  rw [not_and, not_forall]
  simp [h]

/-- In a group of several, the members without a suffix are doubted. -/
theorem doubts_of_two_le (h : 2 ≤ g.members.length) :
    g.doubts = (g.members.filter (·.suffix.isNone)).map fun m =>
      ⟨some m.identifier, .mixedGroup g.entity⟩ := by
  unfold Group.doubts
  split
  · next m hm => simp [hm] at h
  · rfl

theorem doubts_of_isComplete (h : g.IsComplete) : g.doubts = [] := by
  rw [doubts_of_two_le h.1, List.map_eq_nil_iff, List.filter_eq_nil_iff]
  intro m hm
  simpa using h.2 m hm

end Group

section Catalog

variable (o : Options) (ss : List Statement)

theorem hasPair_groups_iff {above below : List Group} {g : Group}
    (h : (Catalog.ofStatements o ss).groups = above ++ g :: below) :
    g.hasPair = true ↔ g.IsComplete ∧ ∀ name ∈ g.names o.naming,
      name ∉ (gather o ss).taken o ∧ ∀ p ∈ above, p.hasPair = true → name ∉ p.names o.naming :=
  hasPair_reserve_iff _ _ nameTaken_of_mem_groups (ofStatements_groups o ss ▸ h)

theorem names_free {g : Group} (hg : g ∈ (Catalog.ofStatements o ss).pairs) :
    ∀ name ∈ g.names o.naming, name ∉ (gather o ss).taken o := by
  obtain ⟨hg, hp⟩ := List.mem_filter.1 hg
  obtain ⟨above, below, h⟩ := List.append_of_mem hg
  intro name hname
  exact (((hasPair_groups_iff o ss h).1 hp).2 name hname).1

theorem nodup_entity_pairs : ((Catalog.ofStatements o ss).pairs.map (·.entity)).Nodup :=
  (nodup_entity_groups o ss).sublist (List.filter_sublist.map _)

theorem nodup_exported : ((Catalog.ofStatements o ss).exported o.naming).Nodup := by
  obtain ⟨-, hfollows⟩ := gather_grows o ss
  have hobjects : ((Catalog.ofStatements o ss).pairs.map fun g =>
      o.naming.aggregateName g.entity).Nodup := by
    have hinj : Function.Injective o.naming.aggregateName := fun a b =>
      (o.naming.aggregateName_eq_iff a b).1
    have h := (nodup_entity_pairs o ss).map hinj
    rwa [List.map_map] at h
  refine List.nodup_append.2 ⟨hfollows.distinct, hobjects, ?_⟩
  rintro identifier hid _ hobject rfl
  obtain ⟨g, hg, heq⟩ := List.mem_map.1 hobject
  have hfree := names_free o ss hg identifier (by simp [Group.names, heq])
  rw [mem_taken_iff] at hfree
  rw [List.map_append, List.mem_append] at hid
  rcases hid with hid | hid
  · obtain ⟨j, hj, rfl⟩ := List.mem_map.1 hid
    have hjson := hfollows.json j (Option.mem_toList.1 hj)
    exact hfree (.inr (.inl hjson))
  · exact hfree (.inr (.inr (.inr (.inl hid))))

theorem entity_pairs_fresh {g : Group} (hg : g ∈ (Catalog.ofStatements o ss).pairs) :
    g.entity ∉ "Json" :: (Catalog.ofStatements o ss).typeImports ++
      (Catalog.ofStatements o ss).inferred.map (·.name) := by
  have hfree := names_free o ss hg g.entity List.mem_cons_self
  rw [mem_taken_iff] at hfree
  intro hmem
  rcases List.mem_append.1 hmem with hmem | hmem
  · rcases List.mem_cons.1 hmem with hjson | himport
    · exact hfree (.inl hjson)
    · exact hfree (.inr (.inr (.inl himport)))
  · have hsub := (List.filter_sublist (l := (Catalog.ofStatements o ss).blocks)
      (p := (!(Catalog.ofStatements o ss).typeImports.contains ·.name))).map (·.name)
    exact hfree (.inr (.inr (.inr (.inr (hsub.subset hmem)))))

/-- A notice about a group is a doubt about it, or the group has lost its pair for a name. -/
theorem of_mem_diagnostics {d : Diagnostic} (hd : d ∈ (Catalog.ofStatements o ss).diagnostics)
    {entity : String} (he : d.notice.entity? = some entity) :
    ∃ g ∈ (Catalog.ofStatements o ss).groups, g.entity = entity ∧
      (d ∈ g.doubts ∨ g.nameTaken = true) := by
  obtain ⟨hgrows, -⟩ := gather_grows o ss
  rw [ofStatements_diagnostics, List.mem_append, List.mem_append] at hd
  rcases hd with (hd | hd) | hd
  · rw [hgrows.diagnostics, List.nil_append] at hd
    have hnone := entity?_of_mem_outcomes o [] _ d hd
    exact absurd (hnone.symm.trans he) nofun
  · obtain ⟨g, hg, hd⟩ := List.mem_flatMap.1 hd
    have hsome := entity?_of_mem_doubts hd
    exact ⟨g, hg, Option.some.inj (hsome.symm.trans he), .inl hd⟩
  · obtain ⟨g, hg, htaken, name, rfl⟩ := of_mem_reserve _ _ hd
    exact ⟨g, ofStatements_groups o ss ▸ hg, Option.some.inj he, .inr htaken⟩

theorem entity?_ne_of_hasPair {g : Group} (hg : g ∈ (Catalog.ofStatements o ss).groups)
    (hp : g.hasPair = true) :
    ∀ d ∈ (Catalog.ofStatements o ss).diagnostics, d.notice.entity? ≠ some g.entity := by
  intro d hd he
  obtain ⟨hcomplete, hnew⟩ := (hasPair_iff g).1 hp
  obtain ⟨x, hx, hentity, hcause⟩ := of_mem_diagnostics o ss hd he
  obtain rfl := List.inj_on_of_nodup_map (nodup_entity_groups o ss) hx hg hentity
  rcases hcause with hdoubt | htaken
  · rw [doubts_of_isComplete hcomplete] at hdoubt
    exact List.not_mem_nil hdoubt
  · exact Bool.false_ne_true (hnew.symm.trans htaken)

/-- A group of several that has no pair is told of. -/
theorem exists_notice {g : Group} (hg : g ∈ (Catalog.ofStatements o ss).groups)
    (hlen : 2 ≤ g.members.length) (hp : g.hasPair = false) :
    ∃ d ∈ (Catalog.ofStatements o ss).diagnostics, d.notice.entity? = some g.entity := by
  by_cases hcomplete : g.IsComplete
  · have htaken : g.nameTaken = true := by
      by_contra hnew
      have hpair := (hasPair_iff g).2 ⟨hcomplete, Bool.eq_false_iff.2 hnew⟩
      exact Bool.false_ne_true (hp.symm.trans hpair)
    rw [ofStatements_groups] at hg
    obtain ⟨name, hmem⟩ := exists_mem_reserve _ _ nameTaken_of_mem_groups hg htaken
    refine ⟨⟨some g.entity, .nameExported name g.entity⟩, ?_, rfl⟩
    rw [ofStatements_diagnostics]
    exact List.mem_append_right _ hmem
  · obtain ⟨m, hm, hnone⟩ := (not_isComplete_iff hlen).1 hcomplete
    refine ⟨⟨some m.identifier, .mixedGroup g.entity⟩, ?_, rfl⟩
    have hdoubt : ⟨some m.identifier, .mixedGroup g.entity⟩ ∈ g.doubts := by
      rw [doubts_of_two_le hlen]
      exact List.mem_map_of_mem (List.mem_filter.2 ⟨hm, by simp [hnone]⟩)
    rw [ofStatements_diagnostics]
    exact List.mem_append_left _ (List.mem_append_right _ (List.mem_flatMap.2 ⟨g, hg, hdoubt⟩))

end Catalog

/-- The constants of a written module are different, and an aggregate has the type of nothing else. A group
of several has no pair exactly if a member has no suffix or one of the two names is taken by a block, an
import, `Json` or a pair above; then something is said of the group, and nothing is said of a group that
has its pair. -/
theorem ofStatements_pairs (o : Options) (ss : List Statement) :
    let c := Catalog.ofStatements o ss
    (c.exported o.naming).Nodup ∧
    (∀ g ∈ c.pairs, g.entity ∉ "Json" :: c.typeImports ++ c.inferred.map (·.name)) ∧
    (c.pairs.map (·.entity)).Nodup ∧
    ∀ above g below, c.groups = above ++ g :: below →
      (g.hasPair = true → ∀ d ∈ c.diagnostics, d.notice.entity? ≠ some g.entity) ∧
      (2 ≤ g.members.length →
        (g.hasPair = false ↔ (∃ m ∈ g.members, m.suffix = none) ∨
          ∃ name ∈ [g.entity, o.naming.aggregateName g.entity],
            (name = "Json" ∨ name = o.jsonIdentifier ∨ name ∈ c.typeImports ∨
              name ∈ c.blocks.map (·.identifier) ∨ name ∈ c.blocks.map (·.name)) ∨
            ∃ p ∈ above, p.hasPair = true ∧
              name ∈ [p.entity, o.naming.aggregateName p.entity]) ∧
        (g.hasPair = false → ∃ d ∈ c.diagnostics, d.notice.entity? = some g.entity)) := by
  intro c
  refine ⟨nodup_exported o ss, fun g hg => entity_pairs_fresh o ss hg, nodup_entity_pairs o ss, ?_⟩
  intro above g below h
  have hg : g ∈ c.groups := by
    rw [h]
    exact List.mem_append_right _ List.mem_cons_self
  refine ⟨entity?_ne_of_hasPair o ss hg, fun hlen => ⟨?_, exists_notice o ss hg hlen⟩⟩
  have hiff := hasPair_groups_iff o ss h
  have hcause (name : String) : (name ∉ (gather o ss).taken o ∧
      ∀ p ∈ above, p.hasPair = true → name ∉ p.names o.naming) ↔
        ¬((name = "Json" ∨ name = o.jsonIdentifier ∨ name ∈ c.typeImports ∨
            name ∈ c.blocks.map (·.identifier) ∨ name ∈ c.blocks.map (·.name)) ∨
          ∃ p ∈ above, p.hasPair = true ∧
            name ∈ [p.entity, o.naming.aggregateName p.entity]) := by
    simp only [mem_taken_iff, not_or, not_exists, not_and, Group.names]
    rfl
  rw [← not_isComplete_iff hlen, Bool.eq_false_iff, Ne, hiff, not_and_or]
  refine or_congr_right ?_
  simp only [not_forall, hcause, not_not, exists_prop]
  rfl

/-- The entity of a table `audit_row` has the name of a type of the table `audit`. -/
example : ((Catalog.ofStatements (.ofNaming .standard standardSuffixes)
    (["AuditRowSchema", "AuditInsertSchema", "AuditRowRowSchema", "AuditRowInsertSchema"].map
      fun identifier => ⟨.constant identifier, ""⟩)).groups.map fun g => (g.entity, g.hasPair)) =
    [("Audit", true), ("AuditRow", false)] := by decide +kernel

end SchemaGen.Entity
