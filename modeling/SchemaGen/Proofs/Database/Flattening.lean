import Mathlib.Tactic.Common
import SchemaGen.Database.Flattening
import SchemaGen.Proofs.Syntax.Annotated
import SchemaGen.Proofs.Zod.Admission

namespace SchemaGen

open Syntax

theorem exists_of_mem_mapM {ε α β : Type} {f : α → Except ε β} {xs : List α} {ys : List β} {y : β}
    (h : xs.mapM f = .ok ys) (hy : y ∈ ys) : ∃ x ∈ xs, f x = .ok y := by
  induction xs generalizing ys with
  | nil =>
    obtain rfl := pure_eq_ok.1 h
    simp at hy
  | cons x xs ih =>
    rw [List.mapM_cons] at h
    obtain ⟨z, hz, hrest⟩ := bind_eq_ok.1 h
    obtain ⟨zs, hzs, hys⟩ := bind_eq_ok.1 hrest
    obtain rfl := pure_eq_ok.1 hys
    rcases List.mem_cons.1 hy with rfl | hy
    · exact ⟨x, List.mem_cons_self, hz⟩
    · obtain ⟨w, hw, hwy⟩ := ih hzs hy
      exact ⟨w, List.mem_cons_of_mem x hw, hwy⟩

namespace Database

theorem mem_join {fs : List Flattened} {c : Candidate} :
    c ∈ (Flattened.join fs).candidates ↔ ∃ f ∈ fs, c ∈ f.candidates := by
  have hfold (a : Flattened) : c ∈ (fs.foldl Flattened.append a).candidates ↔
      c ∈ a.candidates ∨ ∃ f ∈ fs, c ∈ f.candidates := by
    induction fs generalizing a with
    | nil => simp
    | cons f fs ih => simp [ih, Flattened.append, or_assoc]
  rw [Flattened.join, hfold]
  simp [Flattened.none]

def exported (root : Node) : List (String × Node) :=
  root.namedChildren.filterMap fun n =>
    if n.kind = "export_statement" then
      (n.field? "declaration").bind fun d => (d.field? "name").map fun name => (name.text, d)
    else none

/-- A declaration that comes out of an exported database type. -/
def Target.Nests (t : Target) (root : Node) (c : Candidate) : Prop :=
  ∃ d f, (t.database, d) ∈ exported root ∧ t.flattenDatabase d = .ok f ∧ c ∈ f.candidates

theorem mem_exported {root n d name : Node} (hn : n ∈ root.namedChildren)
    (hd : exportedType? n = some d) (hname : d.field? "name" = some name) :
    (name.text, d) ∈ exported root := by
  unfold exportedType? at hd
  split_ifs at hd with hkind
  obtain ⟨e, he, hed⟩ := Option.bind_eq_some_iff.1 hd
  split_ifs at hed
  obtain rfl := Option.some.inj hed
  exact List.mem_filterMap.2 ⟨n, hn, by simp [hkind, he, hname]⟩

/-- Every flat declaration is exported by the module or comes out of the database type. -/
theorem mem_flatten {t : Target} {source : Array Char} {root : Node} {flat : Flattened}
    (h : t.flatten source root = .ok flat) {c : Candidate} (hc : c ∈ flat.candidates) :
    c.name ∈ (exported root).map (·.1) ∨ t.Nests root c := by
  obtain ⟨fs, hfs, hjoin⟩ := bind_eq_ok.1 h
  obtain rfl := pure_eq_ok.1 hjoin
  obtain ⟨f, hf, hcf⟩ := mem_join.1 hc
  obtain ⟨a, ha, haf⟩ := exists_of_mem_mapM hfs hf
  have hnode := node_of_mem_annotateAfter ha
  unfold Target.flattenStatement at haf
  split at haf
  · obtain rfl := Except.ok.inj haf
    simp [Flattened.none] at hcf
  · next d hd =>
    split at haf
    · obtain rfl := Except.ok.inj haf
      simp [Flattened.none] at hcf
    · next name hname =>
      have hexported := mem_exported hnode hd hname
      split_ifs at haf with hdatabase
      · rw [hdatabase] at hexported
        exact .inr ⟨d, f, hexported, haf, hcf⟩
      · obtain rfl := Except.ok.inj haf
        simp [Flattened.none] at hcf
      · obtain rfl := Except.ok.inj haf
        obtain rfl := List.mem_singleton.1 hcf
        exact .inl (List.mem_map_of_mem hexported)

end Database

end SchemaGen
