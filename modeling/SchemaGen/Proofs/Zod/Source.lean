import SchemaGen.Proofs.Zod.Emission

namespace SchemaGen.Zod

open Schema

/-- The two forms differ in the character behind the identifier. -/
theorem wrapped_ne_plain (s : Style) (d : Declaration) : d.wrapped s ≠ d.plain s := by
  intro h
  have hchars := congrArg String.toList h
  simp only [Declaration.wrapped, Declaration.plain, String.toList_append,
    List.append_right_inj] at hchars
  have hfirst := congrArg List.head? hchars
  simp at hfirst

theorem render_eq_wrapped_iff (s : Style) (d : Declaration) :
    d.render s = d.wrapped s ↔ d.recursive = true := by
  have hne := wrapped_ne_plain s d
  rw [render_eq_ite]
  split_ifs with h
  · exact ⟨fun _ => h, fun _ => rfl⟩
  · exact ⟨fun heq => absurd heq.symm hne, fun hrec => absurd hrec h⟩

theorem render_eq_plain_iff (s : Style) (d : Declaration) :
    d.render s = d.plain s ↔ ¬d.recursive = true := by
  have hne := wrapped_ne_plain s d
  rw [render_eq_ite]
  split_ifs with h
  · exact ⟨fun heq => absurd heq hne, fun hrec => absurd h hrec⟩
  · exact ⟨fun _ => h, fun _ => rfl⟩

theorem InOrder.mem_above {names : List String} {above below : List Declaration} {d : Declaration}
    (h : InOrder names (above ++ d :: below)) :
    ∀ n ∈ d.needs, n ∈ names ∨ n ∈ above.map (·.name) := by
  induction above generalizing names with
  | nil => exact fun n hn => .inl (h.1 n hn)
  | cons e above ih =>
    intro n hn
    rcases ih h.2 n hn with hm | hm
    · rcases List.mem_cons.1 hm with rfl | hm
      · exact .inr List.mem_cons_self
      · exact .inl hm
    · exact .inr (List.mem_cons_of_mem _ hm)

section Generate

variable (schema : Schema) (o : Conversion.Options)

theorem generate_imported :
    (generate schema o).1.imported =
      (((declared schema o).1.filter (·.recursive)).map (·.name)).filter
        ((generate schema o).1.declarations.map (·.name)).contains := rfl

/-- A declaration belongs to the first definition of its name, and is recursive if this refers to
itself. -/
theorem exists_definition {e : Declaration} (he : e ∈ (declared schema o).1) :
    ∃ d, schema.get? e.name = some d ∧
      (∀ n, n ∈ e.needs ↔ n ∈ d.references ∧ n ≠ e.name) ∧
      (e.recursive = true ↔ e.name ∈ d.references) := by
  obtain ⟨d, hd, hok⟩ := (mem_declared schema o e).1 he
  have hname := name_ofDefinition hok
  refine ⟨d, hd, ?_, ?_⟩
  · rw [hname]
    exact mem_needs_ofDefinition hok
  · rw [hname]
    exact recursive_ofDefinition hok

/-- The types of those declarations are imported whose definitions refer to themselves. -/
theorem mem_imported (n : String) :
    n ∈ (generate schema o).1.imported ↔
      n ∈ (generate schema o).1.declarations.map (·.name) ∧ schema.Refers n n := by
  rw [generate_imported, List.mem_filter, List.contains_iff_mem, and_comm]
  refine and_congr_right fun hn => ?_
  obtain ⟨e, he, rfl⟩ := List.mem_map.1 hn
  have hdeclared := declarations_subset schema o he
  constructor
  · intro hmem
    obtain ⟨f, hf, hname⟩ := List.mem_map.1 hmem
    obtain ⟨hf, hrec⟩ := List.mem_filter.1 hf
    obtain ⟨d, hd, _, hiff⟩ := exists_definition schema o hf
    rw [← hname]
    exact ⟨d, hd, hiff.1 hrec⟩
  · rintro ⟨d, hd, hself⟩
    obtain ⟨d', hd', _, hiff⟩ := exists_definition schema o hdeclared
    obtain rfl : d = d' := Option.some.inj (hd.symm.trans hd')
    exact List.mem_map_of_mem (List.mem_filter.2 ⟨hdeclared, hiff.2 hself⟩)

end Generate

/-- In a generated source every declaration stands below all others that its definition refers to;
exactly those that refer to themselves are wrapped, and exactly their types are imported. -/
theorem generate_inDependencyOrder (schema : Schema) (o : Conversion.Options) :
    let m := (generate schema o).1
    let s := styleOf o
    (convertSchema schema o).source =
        "// Generated by supazod\nimport \x7b z \x7d from \"zod\";\n" ++
          typeImport m.imported o.importPath ++
          String.join (m.declarations.map fun e => "\n" ++ e.render s ++ "\n") ∧
      (m.declarations.map (·.name)).Nodup ∧
      (∀ above e below, m.declarations = above ++ e :: below →
        ∃ d, schema.get? e.name = some d ∧
          (∀ n ∈ d.references, n ≠ e.name → n ∈ above.map (·.name)) ∧
          (e.render s = e.wrapped s ↔ e.name ∈ d.references) ∧
          (e.render s = e.plain s ↔ e.name ∉ d.references)) ∧
      ∀ n, n ∈ m.imported ↔ n ∈ m.declarations.map (·.name) ∧ schema.Refers n n := by
  intro m s
  refine ⟨rfl, declarations_nodup schema o, ?_, mem_imported schema o⟩
  intro above e below hm
  have he : e ∈ m.declarations := by
    rw [hm]
    exact List.mem_append_right _ List.mem_cons_self
  obtain ⟨d, hd, hneeds, hrec⟩ := exists_definition schema o (declarations_subset schema o he)
  have horder : InOrder [] (above ++ e :: below) := hm ▸ declarations_inOrder schema o
  refine ⟨d, hd, ?_, ?_, ?_⟩
  · intro n hn hne
    have habove := horder.mem_above n ((hneeds n).2 ⟨hn, hne⟩)
    exact habove.resolve_left List.not_mem_nil
  · rw [render_eq_wrapped_iff, hrec]
  · rw [render_eq_plain_iff, hrec]

end SchemaGen.Zod
