import Mathlib.Data.List.Induction
import Mathlib.Data.List.Nodup
import Mathlib.Tactic.Common
import Mathlib.Tactic.SplitIfs
import SchemaGen.Entity.Grouping

namespace SchemaGen.Entity

/-- The identifier and the text of an exported constant. -/
def Statement.constant? (s : Statement) : Option (String × String) :=
  match s.kind with
  | .constant identifier => some (identifier, s.text)
  | _ => none

theorem constant?_eq_some_iff {s : Statement} {c : String × String} :
    s.constant? = some c ↔ s.kind = .constant c.1 ∧ s.text = c.2 := by
  unfold Statement.constant?
  cases hk : s.kind <;> simp [Prod.ext_iff]

/-- The block of a statement, if it exports a constant with a mark. -/
def Options.blockOf? (o : Options) (s : Statement) : Option Block :=
  match s.kind with
  | .constant identifier => (o.naming.baseName? identifier).map fun name => ⟨identifier, name, s.text⟩
  | _ => none

def firstBlocks (seen : List String) : List Block → List Block
  | [] => []
  | b :: bs =>
    if b.identifier ∈ seen then firstBlocks seen bs else b :: firstBlocks (b.identifier :: seen) bs

def Options.groupOf (o : Options) (blocks : List Block) (entity : String) : Group :=
  ⟨entity, (blocks.filter fun b => o.entityOf b = entity).map o.memberOf, false⟩

/-- The groups of validators, in the order of their first members. -/
def Options.groups (o : Options) (blocks : List Block) : List Group :=
  (blocks.map o.entityOf).eraseDups.map (o.groupOf blocks)

section Fields

variable (o : Options) (g : Gathered) (b : Block) (entity : String) (m : Member)

theorem addMember_frame : (g.addMember entity m).json = g.json ∧
    (g.addMember entity m).blocks = g.blocks ∧
    (g.addMember entity m).typeImports = g.typeImports ∧
    (g.addMember entity m).diagnostics = g.diagnostics ∧ (g.addMember entity m).seen = g.seen := by
  unfold Gathered.addMember
  split <;> exact ⟨rfl, rfl, rfl, rfl, rfl⟩

@[simp] theorem addNew_json :
    (g.addNew o b).json = if b.identifier = o.jsonIdentifier then some b else g.json := by
  unfold Gathered.addNew
  split_ifs
  · rfl
  · exact (addMember_frame g _ _).1

@[simp] theorem addNew_blocks : (g.addNew o b).blocks =
    if b.identifier = o.jsonIdentifier then g.blocks else g.blocks ++ [b] := by
  unfold Gathered.addNew
  split_ifs <;> rfl

@[simp] theorem addNew_typeImports : (g.addNew o b).typeImports = g.typeImports := by
  unfold Gathered.addNew
  split_ifs
  · rfl
  · exact (addMember_frame g _ _).2.2.1

@[simp] theorem addNew_diagnostics : (g.addNew o b).diagnostics = g.diagnostics := by
  unfold Gathered.addNew
  split_ifs
  · rfl
  · exact (addMember_frame g _ _).2.2.2.1

@[simp] theorem addNew_seen : (g.addNew o b).seen = g.seen := by
  unfold Gathered.addNew
  split_ifs
  · rfl
  · exact (addMember_frame g _ _).2.2.2.2

end Fields

section Gather

variable (o : Options)

/-- A statement without a block changes at most the imports and what there is to say. -/
theorem add_of_none (g : Gathered) {s : Statement} (h : o.blockOf? s = none) :
    ∃ typeImports diagnostics, g.add o s =
      { g with typeImports := typeImports, diagnostics := diagnostics } := by
  unfold Options.blockOf? at h
  unfold Gathered.add
  cases hk : s.kind with
  | constant identifier =>
    simp only [hk, Option.map_eq_none_iff] at h ⊢
    rw [h]
    exact ⟨_, _, rfl⟩
  | imports types => exact ⟨_, _, rfl⟩
  | other => exact ⟨_, _, rfl⟩

theorem add_of_some (g : Gathered) {s : Statement} {b : Block} (h : o.blockOf? s = some b) :
    g.add o s = g.addBlock o b := by
  unfold Options.blockOf? at h
  unfold Gathered.add
  cases hk : s.kind with
  | constant identifier =>
    simp only [hk, Option.map_eq_some_iff] at h ⊢
    obtain ⟨name, hn, rfl⟩ := h
    simp [hn]
  | imports types => simp [hk] at h
  | other => simp [hk] at h

/-- The block of `Json`, if there is one, has its identifier, which has been seen. -/
def Gathered.JsonSeen (g : Gathered) : Prop :=
  ∀ b ∈ g.json, b.identifier = o.jsonIdentifier ∧ b.identifier ∈ g.seen

/-- Before the first block of `Json` none has been gathered, or its identifier would have been seen. -/
theorem json_eq_none {g : Gathered} {b : Block} (hj : g.JsonSeen o) (hseen : b.identifier ∉ g.seen)
    (hb : b.identifier = o.jsonIdentifier) : g.json = none := by
  rw [Option.eq_none_iff_forall_ne_some]
  intro c hc
  obtain ⟨hid, hmem⟩ := hj c hc
  exact hseen (hb ▸ hid ▸ hmem)

theorem Gathered.JsonSeen.addNew {g : Gathered} (hj : g.JsonSeen o) (b : Block) :
    ({ g with seen := b.identifier :: g.seen }.addNew o b).JsonSeen o := by
  intro c hc
  rw [addNew_json] at hc
  rw [addNew_seen]
  split_ifs at hc with hjson
  · obtain rfl := Option.some.inj hc
    exact ⟨hjson, List.mem_cons_self⟩
  · exact (hj c hc).imp_right (List.mem_cons_of_mem _)

theorem foldl_add (ss : List Statement) (g : Gathered) (hj : g.JsonSeen o) :
    (ss.foldl (Gathered.add o) g).json =
        g.json.or ((firstBlocks g.seen (ss.filterMap o.blockOf?)).find?
          (·.identifier = o.jsonIdentifier)) ∧
      (ss.foldl (Gathered.add o) g).blocks =
        g.blocks ++ (firstBlocks g.seen (ss.filterMap o.blockOf?)).filter
          (·.identifier ≠ o.jsonIdentifier) := by
  induction ss generalizing g with
  | nil => simp [firstBlocks]
  | cons s ss ih =>
    rw [List.foldl_cons]
    cases hb : o.blockOf? s with
    | none =>
      obtain ⟨typeImports, diagnostics, hadd⟩ := add_of_none o g hb
      rw [List.filterMap_cons_none hb, hadd]
      exact ih { g with typeImports := typeImports, diagnostics := diagnostics } hj
    | some b =>
      rw [List.filterMap_cons_some hb, add_of_some o g hb, firstBlocks, Gathered.addBlock]
      by_cases hseen : b.identifier ∈ g.seen
      · rw [if_pos hseen, if_pos hseen]
        exact ih (g.notice b.identifier .repeated) hj
      · have h := ih _ (hj.addNew o b)
        rw [addNew_seen, addNew_json, addNew_blocks] at h
        rw [if_neg hseen, if_neg hseen, h.1, h.2]
        by_cases hjson : b.identifier = o.jsonIdentifier
        · simp [hjson, json_eq_none o hj hseen hjson]
        · simp [hjson]

end Gather

/-- The blocks of a module in the order in which they are written. -/
theorem gather_blocks (o : Options) (ss : List Statement) :
    (gather o ss).json.toList ++ (gather o ss).blocks =
      ((firstBlocks [] (ss.filterMap o.blockOf?)).find? (·.identifier = o.jsonIdentifier)).toList ++
        (firstBlocks [] (ss.filterMap o.blockOf?)).filter (·.identifier ≠ o.jsonIdentifier) := by
  obtain ⟨hjson, hblocks⟩ := foldl_add o ss {} (by simp [Gathered.JsonSeen])
  rw [gather, hjson, hblocks]
  rfl

section Groups

variable {α β : Type} [DecidableEq β]

theorem eraseDups_append_singleton (l : List β) (b : β) :
    (l ++ [b]).eraseDups = if b ∈ l then l.eraseDups else l.eraseDups ++ [b] := by
  rw [List.eraseDups_append]
  split_ifs with hb
  · simp [List.removeAll, hb]
  · simp [List.removeAll, hb, List.eraseDups_cons]

theorem pairwise_idxOf_eraseDups (l : List β) :
    l.eraseDups.Pairwise fun a b => l.idxOf a < l.idxOf b := by
  induction l using List.reverseRecOn with
  | nil => exact List.Pairwise.nil
  | append_singleton l b ih =>
    have hold : l.eraseDups.Pairwise fun x y => (l ++ [b]).idxOf x < (l ++ [b]).idxOf y := by
      refine ih.imp_of_mem ?_
      intro x y hx hy hlt
      rw [List.idxOf_append_of_mem (List.mem_eraseDups.1 hx),
        List.idxOf_append_of_mem (List.mem_eraseDups.1 hy)]
      exact hlt
    rw [eraseDups_append_singleton]
    split_ifs with hb
    · exact hold
    · rw [List.pairwise_append]
      refine ⟨hold, List.pairwise_singleton _ b, ?_⟩
      intro x hx y hy
      have hx := List.mem_eraseDups.1 hx
      obtain rfl := List.mem_singleton.1 hy
      rw [List.idxOf_append_of_mem hx, List.idxOf_append_of_notMem hb]
      have hlt := List.idxOf_lt_length_of_mem hx
      omega

/-- Changing the first element with a property is changing all of them, if there is only one. -/
theorem modify_findIdx? {f : α → α} {p : α → Bool} {l : List α} {i : Nat}
    (hone : l.Pairwise fun a b => ¬(p a = true ∧ p b = true)) (hi : l.findIdx? p = some i) :
    l.modify i f = l.map fun a => if p a then f a else a := by
  induction l generalizing i with
  | nil => cases hi
  | cons a l ih =>
    rw [List.pairwise_cons] at hone
    rw [List.findIdx?_cons] at hi
    cases hp : p a with
    | true =>
      rw [hp, if_pos rfl] at hi
      obtain rfl := Option.some.inj hi
      have hrest : (l.map fun b => if p b then f b else b) = l.map id :=
        List.map_congr_left fun b hb => if_neg fun hpb => hone.1 b hb ⟨hp, hpb⟩
      simp [hp, hrest]
    | false =>
      rw [hp, if_neg Bool.false_ne_true] at hi
      obtain ⟨j, hj, rfl⟩ := Option.map_eq_some_iff.1 hi
      simp [hp, ih hone.2 hj]

end Groups

section Index

variable (o : Options)

theorem groupOf_append (blocks : List Block) (b : Block) (entity : String) :
    o.groupOf (blocks ++ [b]) entity =
      if o.entityOf b = entity then (o.groupOf blocks entity).push (o.memberOf b)
      else o.groupOf blocks entity := by
  unfold Options.groupOf Group.push
  split_ifs with h
  · simp [h]
  · simp [h]

/-- A block joins the group of its entity, or it opens one. -/
theorem groups_append (blocks : List Block) (b : Block) :
    o.groups (blocks ++ [b]) =
      if o.entityOf b ∈ blocks.map o.entityOf then
        (o.groups blocks).map fun g =>
          if g.entity = o.entityOf b then g.push (o.memberOf b) else g
      else o.groups blocks ++ [⟨o.entityOf b, [o.memberOf b], false⟩] := by
  have hold : (blocks.map o.entityOf).eraseDups.map (o.groupOf (blocks ++ [b])) =
      (o.groups blocks).map fun g =>
        if g.entity = o.entityOf b then g.push (o.memberOf b) else g := by
    rw [Options.groups, List.map_map]
    refine List.map_congr_left fun entity _ => ?_
    rw [groupOf_append]
    exact if_congr eq_comm rfl rfl
  rw [Options.groups, List.map_append, List.map_singleton, eraseDups_append_singleton]
  split_ifs with h
  · exact hold
  · have hmembers : blocks.filter (fun c => o.entityOf c = o.entityOf b) = [] := by
      rw [List.filter_eq_nil_iff]
      intro c hc heq
      exact h (List.mem_map.2 ⟨c, hc, of_decide_eq_true heq⟩)
    have hlast : o.groupOf (blocks ++ [b]) (o.entityOf b) = ⟨o.entityOf b, [o.memberOf b], false⟩ := by
      rw [groupOf_append, if_pos rfl, Options.groupOf, hmembers]
      rfl
    have hsame : ((o.groups blocks).map fun g =>
        if g.entity = o.entityOf b then g.push (o.memberOf b) else g) = (o.groups blocks).map id := by
      refine List.map_congr_left fun g hg => if_neg ?_
      obtain ⟨entity, hentity, rfl⟩ := List.mem_map.1 hg
      exact fun heq => h (heq ▸ List.mem_eraseDups.1 hentity)
    rw [List.map_append, hold, hsame, List.map_id, List.map_singleton, hlast]

/-- The groups are those of the blocks, and the index tells where the group of each entity stands. -/
structure Gathered.Indexed (g : Gathered) : Prop where
  groups : g.groups = o.groups g.blocks
  index : ∀ entity, g.index.lookup entity = g.groups.findIdx? (·.entity = entity)

theorem pairwise_entity_ne (blocks : List Block) :
    (o.groups blocks).Pairwise fun g h => g.entity ≠ h.entity := by
  rw [Options.groups, List.pairwise_map]
  refine (pairwise_idxOf_eraseDups (blocks.map o.entityOf)).imp fun {x y} hlt heq => ?_
  obtain rfl : x = y := heq
  exact Nat.lt_irrefl _ hlt

theorem mem_entities_iff (blocks : List Block) (entity : String) :
    entity ∈ blocks.map o.entityOf ↔ ((o.groups blocks).findIdx? (·.entity = entity)).isSome := by
  rw [List.findIdx?_isSome, List.any_eq_true]
  constructor
  · intro h
    refine ⟨o.groupOf blocks entity, ?_, decide_eq_true rfl⟩
    exact List.mem_map_of_mem (List.mem_eraseDups.2 h)
  · rintro ⟨g, hg, heq⟩
    obtain ⟨e, he, rfl⟩ := List.mem_map.1 hg
    obtain rfl : e = entity := of_decide_eq_true heq
    exact List.mem_eraseDups.1 he

theorem Gathered.Indexed.addNew {g : Gathered} (h : g.Indexed o) (b : Block) :
    (g.addNew o b).Indexed o := by
  unfold Gathered.addNew
  split_ifs
  · exact ⟨h.groups, h.index⟩
  have hmem := mem_entities_iff o g.blocks (o.entityOf b)
  unfold Gathered.addMember
  rw [h.index, h.groups]
  cases hi : (o.groups g.blocks).findIdx? (·.entity = o.entityOf b) with
  | none =>
    rw [hi, Option.isSome_none, iff_false_right Bool.false_ne_true] at hmem
    refine ⟨?_, fun entity => ?_⟩
    · dsimp only
      rw [groups_append, if_neg hmem]
    · dsimp only
      rw [List.findIdx?_append, List.lookup_cons, h.index, h.groups]
      by_cases hentity : entity = o.entityOf b
      · subst hentity
        simp [hi]
      · simp [beq_eq_false_iff_ne.2 hentity, Ne.symm hentity]
  | some i =>
    rw [hi, Option.isSome_some, iff_true_right rfl] at hmem
    have hone := (pairwise_entity_ne o g.blocks).imp
      (S := fun x y => ¬(decide (x.entity = o.entityOf b) = true ∧
        decide (y.entity = o.entityOf b) = true)) fun hne hboth =>
      hne ((of_decide_eq_true hboth.1).trans (of_decide_eq_true hboth.2).symm)
    refine ⟨?_, fun entity => ?_⟩
    · dsimp only
      rw [groups_append, if_pos hmem, modify_findIdx? hone hi]
      simp only [decide_eq_true_eq]
    · dsimp only
      rw [modify_findIdx? hone hi, h.index, h.groups, List.findIdx?_map]
      congr 1
      funext x
      dsimp only [Function.comp]
      split_ifs <;> rfl

theorem foldl_add_indexed (ss : List Statement) {g : Gathered} (h : g.Indexed o) :
    (ss.foldl (Gathered.add o) g).Indexed o := by
  induction ss generalizing g with
  | nil => exact h
  | cons s ss ih =>
    rw [List.foldl_cons]
    refine ih ?_
    cases hb : o.blockOf? s with
    | none =>
      obtain ⟨typeImports, diagnostics, hadd⟩ := add_of_none o g hb
      rw [hadd]
      exact ⟨h.groups, h.index⟩
    | some b =>
      rw [add_of_some o g hb, Gathered.addBlock]
      split_ifs
      · exact ⟨h.groups, h.index⟩
      · have hseen : { g with seen := b.identifier :: g.seen }.Indexed o := ⟨h.groups, h.index⟩
        exact hseen.addNew o b

theorem gather_groups (ss : List Statement) : (gather o ss).groups = o.groups (gather o ss).blocks :=
  (foldl_add_indexed o ss ⟨rfl, fun _ => rfl⟩).groups

end Index

end SchemaGen.Entity
