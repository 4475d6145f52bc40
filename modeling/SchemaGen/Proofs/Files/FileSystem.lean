import Mathlib.Data.Finset.Card
import Mathlib.Tactic.Common
import Mathlib.Tactic.SplitIfs
import SchemaGen.Files.FileSystem
import SchemaGen.Proofs.Path.Name
import SchemaGen.Proofs.Zod.Admission

namespace SchemaGen.FileSystem

variable {fs after : FileSystem} {l k : Location}

theorem entryAt?_of_ne_nil (fs : FileSystem) (hl : l ≠ []) : fs.entryAt? l = fs.entries.lookup l := by
  rw [entryAt?, if_neg (by simpa using hl)]

theorem lookup_filter_ne (es : List (Location × Entry)) (hk : k ≠ l) :
    (es.filter (·.1 ≠ l)).lookup k = es.lookup k := by
  induction es with
  | nil => rfl
  | cons e es ih =>
    obtain ⟨place, entry⟩ := e
    by_cases hplace : place = l
    · have hne : (k == place) = false := beq_eq_false_iff_ne.2 (hplace ▸ hk)
      rw [List.filter_cons_of_neg (by simpa using hplace), ih, List.lookup_cons, hne]
    · rw [List.filter_cons_of_pos (by simpa using hplace), List.lookup_cons, List.lookup_cons, ih]

theorem lookup_filter_self (es : List (Location × Entry)) (l : Location) :
    (es.filter (·.1 ≠ l)).lookup l = none := by
  rw [List.lookup_eq_none_iff]
  intro e he
  have hne : e.1 ≠ l := of_decide_eq_true (List.mem_filter.1 he).2
  exact bne_iff_ne.2 hne.symm

theorem entryAt?_set (fs : FileSystem) (hl : l ≠ []) (e : Entry) (k : Location) :
    (fs.set l e).entryAt? k = if k = l then some e else fs.entryAt? k := by
  by_cases hk : k = []
  · rw [if_neg (by rintro rfl; exact hl hk), hk]
    rfl
  · rw [entryAt?_of_ne_nil _ hk, entryAt?_of_ne_nil _ hk, set, List.lookup_append]
    split_ifs with heq
    · rw [heq, lookup_filter_self, List.lookup_cons, beq_self_eq_true]
      rfl
    · rw [lookup_filter_ne _ heq, List.lookup_cons, beq_eq_false_iff_ne.2 heq]
      simp

/-- What is put at a new place and taken out again leaves nothing behind. -/
theorem erase_set_of_new (hl : l ≠ []) (hnew : fs.entryAt? l = none) (e : Entry) :
    (fs.set l e).erase l = fs := by
  rw [entryAt?_of_ne_nil _ hl, List.lookup_eq_none_iff] at hnew
  have hkept : fs.entries.filter (·.1 ≠ l) = fs.entries := by
    rw [List.filter_eq_self]
    intro e he
    exact decide_eq_true (bne_iff_ne.1 (hnew e he)).symm
  simp only [set, erase, List.filter_append, hkept]
  simp

theorem set_set_self (fs : FileSystem) (l : Location) (e f : Entry) :
    (fs.set l e).set l f = fs.set l f := by
  simp [set]

/-- Two file systems in which one stands at the same place, with the same directories. -/
structure SameDirectories (fs after : FileSystem) : Prop where
  working : after.working = fs.working
  directory : ∀ k, fs.entryAt? k = some .directory ↔ after.entryAt? k = some .directory

theorem SameDirectories.symm (h : SameDirectories fs after) : SameDirectories after fs :=
  ⟨h.working.symm, fun k => (h.directory k).symm⟩

theorem sameDirectories_set (hl : l ≠ []) (hfile : fs.entryAt? l ≠ some .directory)
    (contents : ByteArray) : SameDirectories fs (fs.set l (.file contents)) := by
  refine ⟨rfl, fun k => ?_⟩
  rw [entryAt?_set _ hl]
  split_ifs with hk
  · subst hk
    simp [hfile]
  · rfl

theorem walk_cons_eq_ok_iff {fs : FileSystem} {l : Location} {s : Path.Step} {ss : List Path.Step}
    {place : Location} :
    fs.walk l (s :: ss) = .ok place ↔ fs.entryAt? l = some .directory ∧
      fs.walk (match s with
        | .here => l
        | .up => l.dropLast
        | .down name => l ++ [name]) ss = .ok place := by
  cases hentry : fs.entryAt? l with
  | none => simp [walk, hentry]
  | some e =>
    cases e with
    | file contents => simp [walk, hentry]
    | directory => cases s <;> simp [walk, hentry]

theorem SameDirectories.walk (h : SameDirectories fs after) {ss : List Path.Step} {place : Location}
    (hwalk : fs.walk l ss = .ok place) : after.walk l ss = .ok place := by
  induction ss generalizing l with
  | nil => exact hwalk
  | cons s ss ih =>
    rw [walk_cons_eq_ok_iff] at hwalk ⊢
    exact ⟨(h.directory l).1 hwalk.1, ih hwalk.2⟩

theorem SameDirectories.locate (h : SameDirectories fs after) {p : Path} {place : Location}
    (hlocate : fs.locate p = .ok place) : after.locate p = .ok place := by
  unfold FileSystem.locate at hlocate ⊢
  rw [h.working]
  split_ifs at hlocate ⊢
  · exact h.walk hlocate
  · exact h.walk hlocate

theorem walk_append_down {fs : FileSystem} {l place : Location} {ss : List Path.Step}
    (hwalk : fs.walk l ss = .ok place) (hplace : fs.entryAt? place = some .directory) (name : FileName) :
    fs.walk l (ss ++ [.down name]) = .ok (place ++ [name]) := by
  induction ss generalizing l with
  | nil =>
    obtain rfl := Except.ok.inj hwalk
    exact walk_cons_eq_ok_iff.2 ⟨hplace, rfl⟩
  | cons s ss ih =>
    rw [walk_cons_eq_ok_iff] at hwalk
    exact walk_cons_eq_ok_iff.2 ⟨hwalk.1, ih hwalk.2⟩

theorem locate_join_down {fs : FileSystem} {directory : Path} {place : Location}
    (hlocate : fs.locate directory = .ok place) (hplace : fs.entryAt? place = some .directory)
    (name : FileName) :
    fs.locate (directory.join ⟨false, [.down name]⟩) = .ok (place ++ [name]) := by
  unfold locate at hlocate ⊢
  simp only [Path.join, Bool.false_eq_true, if_false]
  split_ifs at hlocate ⊢ with hrooted hempty
  · exact walk_append_down hlocate hplace name
  · simp at hempty
  · exact walk_append_down hlocate hplace name

theorem entryAt?_of_walk_append_down {fs : FileSystem} {l place target : Location}
    {ss : List Path.Step} {name : FileName} (hwalk : fs.walk l ss = .ok place)
    (hdown : fs.walk l (ss ++ [.down name]) = .ok target) : fs.entryAt? place = some .directory := by
  induction ss generalizing l with
  | nil =>
    obtain rfl := Except.ok.inj hwalk
    exact (walk_cons_eq_ok_iff.1 hdown).1
  | cons s ss ih =>
    exact ih (walk_cons_eq_ok_iff.1 hwalk).2 (walk_cons_eq_ok_iff.1 hdown).2

theorem entryAt?_of_locate_join_down {fs : FileSystem} {directory : Path} {name : FileName}
    {place target : Location} (hlocate : fs.locate directory = .ok place)
    (htarget : fs.locate (directory.join ⟨false, [.down name]⟩) = .ok target) :
    fs.entryAt? place = some .directory := by
  unfold locate at hlocate htarget
  simp only [Path.join, Bool.false_eq_true, if_false] at htarget
  split_ifs at hlocate htarget
  · exact entryAt?_of_walk_append_down hlocate htarget
  · exact entryAt?_of_walk_append_down hlocate htarget

theorem temporaryName_injective : Function.Injective temporaryName := by
  intro m n h
  have hlength := congrArg (·.toList.length) (FileName.ofString_injective h)
  simpa using hlength

/-- Among more names than there are entries, one is free. -/
theorem exists_new_name (fs : FileSystem) (place : Location) :
    ∃ n ∈ List.range (fs.entries.length + 1), fs.entryAt? (place ++ [temporaryName n]) = none := by
  by_contra hnone
  push Not at hnone
  have hinjective : Function.Injective fun n => place ++ [temporaryName n] := by
    intro m n h
    exact temporaryName_injective (by simpa using h)
  have hmem : ∀ n ∈ List.range (fs.entries.length + 1),
      place ++ [temporaryName n] ∈ fs.entries.map (·.1) := by
    intro n hn
    obtain ⟨e, he⟩ := Option.ne_none_iff_exists'.1 (hnone n hn)
    rw [entryAt?_of_ne_nil _ (by simp)] at he
    obtain ⟨above, below, hentries, -⟩ := List.lookup_eq_some_iff.1 he
    simp [hentries]
  have hnodup : ((List.range (fs.entries.length + 1)).map
      fun n => place ++ [temporaryName n]).Nodup := List.nodup_range.map hinjective
  have hlength := (List.subperm_of_subset hnodup (by
    intro path hpath
    obtain ⟨n, hn, rfl⟩ := List.mem_map.1 hpath
    exact hmem n hn)).length_le
  simp only [List.length_map, List.length_range] at hlength
  omega

theorem exists_temporaryPath (fs : FileSystem) (directory : Path) (place : Location) :
    ∃ name, fs.temporaryPath directory place = directory.join ⟨false, [.down name]⟩ ∧
      fs.entryAt? (place ++ [name]) = none := by
  obtain ⟨n, hn, hnew⟩ := exists_new_name fs place
  cases hfind : (List.range (fs.entries.length + 1)).find? fun n =>
      (fs.entryAt? (place ++ [temporaryName n])).isNone with
  | none =>
    have := List.find?_eq_none.1 hfind n hn
    simp [hnew] at this
  | some m =>
    refine ⟨temporaryName m, by rw [temporaryPath, hfind]; rfl, ?_⟩
    simpa using List.find?_some hfind

theorem write_eq_ok_iff {fs after : FileSystem} {p : Path} {contents : ByteArray} :
    fs.write p contents = .ok after ↔ ∃ l, fs.locate p = .ok l ∧ fs.entryAt? l ≠ some .directory ∧
      after = fs.set l (.file contents) := by
  unfold write
  rw [bind_eq_ok]
  refine exists_congr fun l => and_congr_right fun _ => ?_
  split
  · next h => simp [h, throw, throwThe, MonadExceptOf.throw]
  · next h =>
    have hfile : fs.entryAt? l ≠ some .directory := h
    rw [pure_eq_ok, and_iff_right hfile, eq_comm]

/-- Making a temporary file puts an empty file at a place where nothing was, in the given directory. -/
theorem createTemporary_eq_ok {fs after : FileSystem} {directory p : Path}
    (h : fs.createTemporary directory = .ok (p, after)) :
    ∃ place l, fs.locate directory = .ok place ∧ fs.entryAt? place = some .directory ∧ l ≠ [] ∧
      fs.entryAt? l = none ∧ fs.locate p = .ok l ∧ after = fs.set l (.file .empty) := by
  unfold createTemporary at h
  split at h
  · simp at h
  · next place hplace =>
    obtain ⟨name, hpath, hnew⟩ := exists_temporaryPath fs directory place
    dsimp only at h
    split at h
    · next changed hwrite =>
      obtain ⟨rfl, rfl⟩ := Prod.mk.inj (Except.ok.inj h)
      obtain ⟨l, hl, -, rfl⟩ := write_eq_ok_iff.1 hwrite
      have hdirectory := entryAt?_of_locate_join_down hplace (hpath ▸ hl)
      obtain rfl : place ++ [name] = l := by
        have hjoin := locate_join_down hplace hdirectory name
        rw [← hpath, hl] at hjoin
        exact (Except.ok.inj hjoin).symm
      exact ⟨place, _, hplace, hdirectory, by simp, hnew, hl, rfl⟩
    · simp at h

theorem exists_createTemporary {fs : FileSystem} {directory : Path} {place : Location}
    (hlocate : fs.locate directory = .ok place) (hplace : fs.entryAt? place = some .directory) :
    ∃ p after, fs.createTemporary directory = .ok (p, after) := by
  obtain ⟨name, hpath, hnew⟩ := exists_temporaryPath fs directory place
  have hl := locate_join_down hlocate hplace name
  rw [← hpath] at hl
  refine ⟨fs.temporaryPath directory place, fs.set (place ++ [name]) (.file .empty), ?_⟩
  have hwrite : fs.write _ .empty = .ok _ := write_eq_ok_iff.2 ⟨_, hl, by simp [hnew], rfl⟩
  simp only [createTemporary, hlocate, hwrite]

end SchemaGen.FileSystem
