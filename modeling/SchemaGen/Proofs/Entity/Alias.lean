import Mathlib.Data.List.Forall2
import Mathlib.Data.List.ReduceOption
import SchemaGen.Proofs.Entity.TypeName

namespace SchemaGen.Entity

/-- What stands in front of the types in a written module: the imports and the validators. -/
def Catalog.above (c : Catalog) (path : String) : List String :=
  importSection c.typeImports path :: (c.json.toList ++ c.blocks).map (·.text)

def Catalog.aliases (c : Catalog) : List String := c.inferred.map Block.alias

/-- What stands behind the types in a written module: the aggregates. -/
def Catalog.below (c : Catalog) (naming : Naming) : List String :=
  c.pairs.flatMap fun g => [g.typeSection, g.objectSection naming]

theorem sections_eq_aliases (c : Catalog) (naming : Naming) (path : String) :
    c.sections naming path = c.above path ++
      (if c.aliases.isEmpty then [] else ["\n".intercalate c.aliases]) ++ c.below naming := by
  have hempty : c.aliases.isEmpty = c.inferred.isEmpty := by simp [Catalog.aliases]
  rw [hempty]
  rfl

/-- The types stand line by line in a section of their own, the rest of a module in a section each. -/
theorem render_eq_aliases (c : Catalog) (naming : Naming) (path : String) :
    c.render naming path = "\n\n".intercalate (c.above path ++
      (if c.aliases.isEmpty then [] else ["\n".intercalate c.aliases]) ++ c.below naming) ++ "\n" := by
  rw [Catalog.render, sections_eq_aliases]

/-! ### Other parts of a module -/

theorem ne_of_endings {s t : String} {a b : Char} (hs : [a, ';'] <:+ s.toList)
    (ht : [b, ';'] <:+ t.toList) (hab : a ≠ b) : s ≠ t := by
  rintro rfl
  have hsame := (List.suffix_of_suffix_length_le hs ht (Nat.le_refl 2)).eq_of_length rfl
  exact hab (List.cons.inj hsame).1

theorem ends_append (s t : String) : t.toList <:+ (s ++ t).toList := by
  rw [String.toList_append]
  exact List.suffix_append _ _

theorem alias_ends (b : Block) : ['>', ';'] <:+ b.alias.toList := ends_append _ ">;"

theorem importSection_ends (typeImports : List String) (path : String) :
    ['"', ';'] <:+ (importSection typeImports path).toList := ends_append _ "\";"

theorem typeSection_ends (g : Group) : ['}', ';'] <:+ g.typeSection.toList := ends_append _ "\x7d;"

theorem objectSection_ends (naming : Naming) (g : Group) :
    ['}', ';'] <:+ (g.objectSection naming).toList := ends_append _ "\x7d;"

theorem alias_notMem_below (c : Catalog) (naming : Naming) (b : Block) : b.alias ∉ c.below naming := by
  intro hmem
  obtain ⟨g, _, hmem⟩ := List.mem_flatMap.1 hmem
  rcases List.mem_pair.1 hmem with heq | heq
  · exact ne_of_endings (alias_ends b) (typeSection_ends g) (by decide) heq
  · exact ne_of_endings (alias_ends b) (objectSection_ends naming g) (by decide) heq

theorem alias_notMem_above {c : Catalog} {path : String} {b : Block}
    (h : ∀ d ∈ c.json.toList ++ c.blocks, d.text ≠ b.alias) : b.alias ∉ c.above path := by
  intro hmem
  rcases List.mem_cons.1 hmem with heq | hmem
  · exact ne_of_endings (alias_ends b) (importSection_ends _ _) (by decide) heq
  · obtain ⟨d, hd, heq⟩ := List.mem_map.1 hmem
    exact h d hd heq

/-! ### The types of blocks -/

theorem alias_eq (b : Block) :
    b.alias = "export type " ++ b.name ++ " = z.infer<typeof " ++ b.identifier ++ ">;" := rfl

def Block.Named (n : Naming) (b : Block) : Prop :=
  ∃ type, b.identifier = n.schemaName type ∧ b.name = pascal type

/-- The type of a block tells its name, which stands in it twice among texts that are the same for all. -/
theorem name_eq_of_alias {n : Naming} {a b : Block} (ha : a.Named n) (hb : b.Named n)
    (h : a.alias = b.alias) : a.name = b.name := by
  obtain ⟨s, hs, has⟩ := ha
  obtain ⟨t, ht, hbt⟩ := hb
  rw [alias_eq, alias_eq, hs, ht, has, hbt, Naming.schemaName, Naming.schemaName] at h
  rw [has, hbt]
  have hchars := congrArg String.toList h
  simp only [String.toList_append] at hchars
  have hlength := congrArg List.length hchars
  simp only [List.length_append] at hlength
  simp only [List.append_assoc] at hchars
  have hbehind := List.append_cancel_left hchars
  rw [← String.toList_inj]
  exact (List.append_inj hbehind (by omega)).1

section Count

variable (o : Options) (ss : List Statement)

theorem exists_constant {b : Block} (hb : b ∈ (gather o ss).json.toList ++ (gather o ss).blocks) :
    (b.identifier, b.text) ∈ ss.filterMap (·.constant?) ∧
      o.naming.baseName? b.identifier = some b.name := by
  obtain ⟨hgrows, -⟩ := gather_grows o ss
  rw [hgrows.json, hgrows.blocks] at hb
  rcases List.mem_append.1 hb with hb | hb
  · obtain ⟨x, hx, hjson⟩ := List.mem_filterMap.1 hb
    obtain ⟨above, c, hc, rfl⟩ := exists_of_mem_outcomes hx
    unfold Options.outcome at hjson
    split at hjson
    · cases hjson
    · next name hname =>
      split_ifs at hjson
      · cases hjson
      · obtain rfl := Option.some.inj hjson
        exact ⟨hc, hname⟩
      · cases hjson
  · exact of_mem_outcomes o hb

theorem nodup_aliases (h : ∀ b ∈ (Catalog.ofStatements o ss).blocks, b.Named o.naming) :
    (Catalog.ofStatements o ss).aliases.Nodup := by
  have hblocks : (Catalog.ofStatements o ss).blocks.Nodup := nodup_blocks o ss
  refine (hblocks.sublist List.filter_sublist).map_on ?_
  intro a ha b hb halias
  obtain ⟨ha, -⟩ := (mem_inferred_iff _ a).1 ha
  obtain ⟨hb, -⟩ := (mem_inferred_iff _ b).1 hb
  have hname := name_eq_of_alias (h a ha) (h b hb) halias
  obtain ⟨s, hs, has⟩ := h a ha
  obtain ⟨t, ht, hbt⟩ := h b hb
  refine List.inj_on_of_nodup_map (nodup_identifiers o ss) ha hb ?_
  rw [hs, ht]
  exact (o.naming.schemaName_eq_iff s t).2 (by rw [← has, ← hbt, hname])

/-- A module declares the type of a block once, if it imports no type of that name. -/
theorem count_alias (path : String)
    (hnamed : ∀ b ∈ (Catalog.ofStatements o ss).blocks, b.Named o.naming) {b : Block}
    (hb : b ∈ (Catalog.ofStatements o ss).blocks)
    (htexts : ∀ d ∈ (gather o ss).json.toList ++ (gather o ss).blocks, d.text ≠ b.alias) :
    ((Catalog.ofStatements o ss).above path ++ (Catalog.ofStatements o ss).aliases ++
      (Catalog.ofStatements o ss).below o.naming).count b.alias =
        if b.name ∈ (Catalog.ofStatements o ss).typeImports then 0 else 1 := by
  have habove : ((Catalog.ofStatements o ss).above path).count b.alias = 0 :=
    List.count_eq_zero.2 (alias_notMem_above htexts)
  have hbelow : ((Catalog.ofStatements o ss).below o.naming).count b.alias = 0 :=
    List.count_eq_zero.2 (alias_notMem_below _ _ b)
  rw [List.count_append, List.count_append, habove, hbelow, Nat.zero_add, Nat.add_zero]
  split_ifs with himport
  · refine List.count_eq_zero.2 fun hmem => ?_
    obtain ⟨a, ha, halias⟩ := List.mem_map.1 hmem
    obtain ⟨ha, hfree⟩ := (mem_inferred_iff _ a).1 ha
    rw [name_eq_of_alias (hnamed a ha) (hnamed b hb) halias] at hfree
    exact hfree himport
  · have hinferred := (mem_inferred_iff _ b).2 ⟨hb, himport⟩
    exact List.count_eq_one_of_mem (nodup_aliases o ss hnamed) (List.mem_map_of_mem hinferred)

end Count

/-! ### Exported constants -/

/-- A section exports a constant: it is the text of a statement that does, or its first words say so. Types and
imports export none. -/
inductive Exports (ss : List Statement) (text : String) : Option String → Prop
  | statement {s : Statement} {identifier : String} (hs : s ∈ ss)
    (hconstant : s.constant? = some (identifier, text)) : Exports ss text (some identifier)
  | object {name : String} (h : ("export const " ++ name ++ " = ").toList <+: text.toList) :
    Exports ss text (some name)
  | types (h : "export type ".toList <+: text.toList) : Exports ss text none
  | imports (h : "import ".toList <+: text.toList) : Exports ss text none

variable {ss : List Statement}

theorem begins_append (s t : String) : s.toList <+: (s ++ t).toList := by
  rw [String.toList_append]
  exact List.prefix_append _ _

theorem exports_importSection (typeImports : List String) (path : String) :
    Exports ss (importSection typeImports path) none := by
  have hfirst : "import ".toList <+: "import \x7b z \x7d from \"zod\";\nimport type \x7b ".toList := by
    decide +kernel
  unfold importSection
  rw [String.append_assoc, String.append_assoc, String.append_assoc]
  exact .imports (hfirst.trans (begins_append _ _))

theorem exports_typeSection (g : Group) : Exports ss g.typeSection none := by
  unfold Group.typeSection
  rw [String.append_assoc, String.append_assoc, String.append_assoc]
  exact .types (begins_append _ _)

theorem exports_objectSection (naming : Naming) (g : Group) :
    Exports ss (g.objectSection naming) (some (naming.aggregateName g.entity)) := by
  have hfirst : ("export const " ++ naming.aggregateName g.entity ++ " = ").toList <+:
      ("export const " ++ naming.aggregateName g.entity ++ " = \x7b\n").toList := by
    simp only [String.toList_append]
    exact (List.prefix_append_right_inj _).2 (by decide)
  unfold Group.objectSection
  rw [String.append_assoc]
  exact .object (hfirst.trans (begins_append _ _))

theorem exports_aliases {c : Catalog} (h : c.aliases ≠ []) :
    Exports ss ("\n".intercalate c.aliases) none := by
  have halias (b : Block) : "export type ".toList <+: b.alias.toList := by
    unfold Block.alias
    rw [String.append_assoc, String.append_assoc, String.append_assoc]
    exact begins_append _ _
  unfold Catalog.aliases at h ⊢
  match hinferred : c.inferred with
  | [] => exact absurd (by rw [hinferred]; rfl) h
  | [b] =>
    rw [List.map_singleton, String.intercalate_singleton]
    exact .types (halias b)
  | b :: b' :: bs =>
    rw [List.map_cons, List.map_cons, String.intercalate_cons_cons, String.append_assoc]
    exact .types ((halias b).trans (begins_append _ _))

/-- Each of some sections exports one of some constants or none, in this order. -/
def ExportInOrder (ss : List Statement) (texts names : List String) : Prop :=
  ∃ constants, List.Forall₂ (Exports ss) texts constants ∧ constants.reduceOption = names

theorem ExportInOrder.append {texts texts' names names' : List String} (h : ExportInOrder ss texts names)
    (h' : ExportInOrder ss texts' names') : ExportInOrder ss (texts ++ texts') (names ++ names') := by
  obtain ⟨constants, hconstants, hnames⟩ := h
  obtain ⟨constants', hconstants', hnames'⟩ := h'
  refine ⟨constants ++ constants', List.rel_append hconstants hconstants', ?_⟩
  rw [List.reduceOption_append, hnames, hnames']

theorem exportInOrder_above (o : Options) (ss : List Statement) (path : String) :
    let c := Catalog.ofStatements o ss
    ExportInOrder ss (c.above path) ((c.json.toList ++ c.blocks).map (·.identifier)) := by
  intro c
  have hblocks : List.Forall₂ (Exports ss) ((c.json.toList ++ c.blocks).map (·.text))
      ((c.json.toList ++ c.blocks).map fun b => some b.identifier) := by
    rw [List.forall₂_map_left_iff, List.forall₂_map_right_iff, List.forall₂_same]
    intro b hb
    obtain ⟨s, hs, hconstant⟩ := List.mem_filterMap.1 (exists_constant o ss hb).1
    exact .statement hs hconstant
  refine ⟨_, .cons (exports_importSection c.typeImports path) hblocks, ?_⟩
  rw [List.reduceOption_cons_of_none, List.reduceOption, List.filterMap_map]
  exact congrFun List.filterMap_eq_map' _

theorem exportInOrder_aliases (c : Catalog) :
    ExportInOrder ss (if c.aliases.isEmpty then [] else ["\n".intercalate c.aliases]) [] := by
  split_ifs with hempty
  · exact ⟨[], .nil, rfl⟩
  · exact ⟨[none], .cons (exports_aliases (by simpa using hempty)) .nil, rfl⟩

theorem exportInOrder_below (c : Catalog) (naming : Naming) :
    ExportInOrder ss (c.below naming) (c.pairs.map fun g => naming.aggregateName g.entity) := by
  unfold Catalog.below
  induction c.pairs with
  | nil => exact ⟨[], .nil, rfl⟩
  | cons g gs ih =>
    have hpair : ExportInOrder ss [g.typeSection, g.objectSection naming] [naming.aggregateName g.entity] :=
      ⟨_, .cons (exports_typeSection g) (.cons (exports_objectSection naming g) .nil), rfl⟩
    exact hpair.append ih

/-- The sections of a module export its constants and nothing else, one each, in this order. -/
theorem ofStatements_exported (o : Options) (ss : List Statement) (path : String) :
    let c := Catalog.ofStatements o ss
    ExportInOrder ss (c.sections o.naming path) (c.exported o.naming) := by
  intro c
  have htop := (exportInOrder_above o ss path).append (exportInOrder_aliases c)
  rw [List.append_nil] at htop
  rw [sections_eq_aliases]
  exact htop.append (exportInOrder_below c o.naming)

end SchemaGen.Entity
