import SchemaGen.Proofs.Files.FileSystem

namespace SchemaGen.FileSystem

/-- Files in a file system where a write that fails can leave bytes behind in the file. -/
def tornStorage (torn : ByteArray → Option ByteArray) (fails : Action → Option FileError) :
    Storage (StateM FileSystem) :=
  { storage fails with
    write := fun p contents fs =>
      match fails .write with
      | some e => (.error e, ((torn contents).bind fun part => (fs.write p part).toOption).getD fs)
      | none => act none (·.write p contents) fs }

/-- A path leads to a place where a file can stand: it is no directory. -/
structure FilePlace (fs : FileSystem) (p : Path) (l : Location) : Prop where
  locate : fs.locate p = .ok l
  notDirectory : fs.entryAt? l ≠ some .directory

theorem read_set_self {fs : FileSystem} {p : Path} {l : Location} (hl : l ≠ [])
    (hplace : fs.FilePlace p l) (contents : ByteArray) :
    (fs.set l (.file contents)).read p = .ok contents := by
  have hlocate := (sameDirectories_set hl hplace.notDirectory contents).locate hplace.locate
  have hentry : (fs.set l (.file contents)).entryAt? l = some (.file contents) := by
    rw [entryAt?_set _ hl, if_pos rfl]
  simp only [read, hlocate]
  exact (by simp [bind, Except.bind, hentry, pure, Except.pure])

variable (torn : ByteArray → Option ByteArray) (fails : Action → Option FileError)

section Temporary

/-! ### The actions on a temporary file -/

variable {fs : FileSystem} {temporary : Path} {l : Location} (hl : l ≠ []) (hnew : fs.entryAt? l = none)
  (hlocate : fs.locate temporary = .ok l)

include hl hnew in
theorem sameDirectories_temporary (contents : ByteArray) :
    SameDirectories fs (fs.set l (.file contents)) :=
  sameDirectories_set hl (by simp [hnew]) contents

include hl hnew hlocate

theorem write_temporary (x contents : ByteArray) :
    (fs.set l (.file x)).write temporary contents = .ok (fs.set l (.file contents)) := by
  refine write_eq_ok_iff.2 ⟨l, (sameDirectories_temporary hl hnew x).locate hlocate, ?_, ?_⟩
  · rw [entryAt?_set _ hl, if_pos rfl]
    simp
  · rw [set_set_self]

theorem read_temporary (x : ByteArray) : (fs.set l (.file x)).read temporary = .ok x :=
  read_set_self hl ⟨hlocate, by simp [hnew]⟩ x

/-- A temporary file that is removed leaves everything as it was. -/
theorem remove_temporary (x : ByteArray) :
    (tornStorage torn fails).remove temporary (fs.set l (.file x)) = ((), fs) := by
  have hplace := (sameDirectories_temporary hl hnew x).locate hlocate
  have hentry : (fs.set l (.file x)).entryAt? l = some (.file x) := by
    rw [entryAt?_set _ hl, if_pos rfl]
  have hremove : (fs.set l (.file x)).remove temporary = .ok fs := by
    simp only [remove, hplace]
    exact (by simp [bind, Except.bind, hentry, pure, Except.pure, erase_set_of_new hl hnew])
  simp [tornStorage, storage, hremove, Except.toOption]

theorem tornStorage_write (x contents : ByteArray) : ∃ outcome y,
    (tornStorage torn fails).write temporary contents (fs.set l (.file x)) =
      (outcome, fs.set l (.file y)) ∧
    (outcome = .ok () ↔ fails .write = none) ∧ (outcome = .ok () → y = contents) := by
  cases hfails : fails .write with
  | none =>
    refine ⟨.ok (), contents, ?_, by simp, fun _ => rfl⟩
    simp [tornStorage, act, hfails, write_temporary hl hnew hlocate]
  | some e =>
    cases hpart : torn contents with
    | none => exact ⟨.error e, x, by simp [tornStorage, hfails, hpart], by simp, by simp⟩
    | some part =>
      refine ⟨.error e, part, ?_, by simp, by simp⟩
      simp [tornStorage, hfails, hpart, write_temporary hl hnew hlocate, Except.toOption]

/-- Moving the temporary file puts its contents at a place where a file can stand. -/
theorem rename_temporary (x : ByteArray) (target : Path) (after : FileSystem) :
    (fs.set l (.file x)).rename temporary target = .ok after ↔
      ∃ t, fs.FilePlace target t ∧ after = fs.set t (.file x) := by
  have hsame := sameDirectories_temporary hl hnew x
  have hplace := hsame.locate hlocate
  have hread := read_temporary hl hnew hlocate x
  unfold rename
  simp only [hplace, hread, bind, Except.bind]
  constructor
  · intro h
    split at h
    · simp at h
    · next t ht =>
      split at h
      · simp [throw, throwThe, MonadExceptOf.throw] at h
      · next hfile =>
        refine ⟨t, ⟨hsame.symm.locate ht, fun hdir => hfile ((hsame.directory t).1 hdir)⟩, ?_⟩
        rw [erase_set_of_new hl hnew] at h
        exact (pure_eq_ok.1 h).symm
  · rintro ⟨t, ⟨ht, hfile⟩, rfl⟩
    rw [hsame.locate ht]
    dsimp only
    split
    · next hdir => exact absurd ((hsame.directory t).2 hdir) hfile
    · rw [erase_set_of_new hl hnew]
      rfl

theorem tornStorage_rename (x : ByteArray) (target : Path) :
    (fails .rename = none ∧ ∃ t, fs.FilePlace target t ∧
      (tornStorage torn fails).rename temporary target (fs.set l (.file x)) =
        (.ok (), fs.set t (.file x))) ∨
    (¬(fails .rename = none ∧ ∃ t, fs.FilePlace target t) ∧ ∃ e,
      (tornStorage torn fails).rename temporary target (fs.set l (.file x)) =
        (.error e, fs.set l (.file x))) := by
  have hrename := rename_temporary hl hnew hlocate x target
  cases hfails : fails .rename with
  | some e => exact .inr ⟨by simp, e, by simp [tornStorage, storage, act, hfails]⟩
  | none =>
    cases hmoved : (fs.set l (.file x)).rename temporary target with
    | ok after =>
      obtain ⟨t, ht, rfl⟩ := (hrename after).1 hmoved
      exact .inl ⟨rfl, t, ht, by simp [tornStorage, storage, act, hfails, hmoved]⟩
    | error e =>
      refine .inr ⟨?_, e, by simp [tornStorage, storage, act, hfails, hmoved]⟩
      rintro ⟨-, t, ht⟩
      rw [(hrename _).2 ⟨t, ht, rfl⟩] at hmoved
      simp at hmoved

end Temporary

/-! ### Writing a text -/

theorem run_fillAndMove (s : Storage (StateM FileSystem)) (temporary target : Path) (text : String)
    (fs : FileSystem) :
    (s.fillAndMove temporary target text).run fs =
      match s.write temporary text.toUTF8 fs with
      | (.error e, after) => (.error e, after)
      | (.ok (), after) =>
        match s.sync temporary after with
        | (.error e, after) => (.error e, after)
        | (.ok (), after) => s.rename temporary target after := by
  simp only [Storage.fillAndMove, ExceptT.run, bind, ExceptT.bind, ExceptT.mk, StateT.bind]
  obtain ⟨_ | _, after⟩ := s.write temporary text.toUTF8 fs
  · rfl
  · simp only [ExceptT.bindCont, StateT.bind, bind]
    obtain ⟨_ | _, after⟩ := s.sync temporary after <;> rfl

theorem run_writeAtomic (s : Storage (StateM FileSystem)) (target : Path) (text : String)
    (fs : FileSystem) :
    s.writeAtomic target text fs =
      match s.createTemporary target.directory fs with
      | (.error e, after) => (.error e, after)
      | (.ok temporary, after) =>
        match (s.fillAndMove temporary target text).run after with
        | (.ok (), after) => (.ok (), after)
        | (.error e, after) => (.error e, (s.remove temporary after).2) := by
  simp only [Storage.writeAtomic, bind, StateT.bind]
  obtain ⟨_ | temporary, after⟩ := s.createTemporary target.directory fs
  · rfl
  · simp only [StateT.bind, bind]
    obtain ⟨_ | _, after⟩ := (s.fillAndMove temporary target text).run after <;> rfl

/-- A text can be written if none of the actions on the files fails, the directory of the target is there,
and a file can stand at the target. -/
structure Writable (fs : FileSystem) (target : Path) : Prop where
  directory : ∃ d, fs.locate target.directory = .ok d ∧ fs.entryAt? d = some .directory
  place : ∃ t, fs.FilePlace target t

section Temporary

variable {fs : FileSystem} {temporary : Path} {l : Location} (hl : l ≠ []) (hnew : fs.entryAt? l = none)
  (hlocate : fs.locate temporary = .ok l)

include hl hnew hlocate

/-- A filled temporary file that is moved gives the target all of the text. If it cannot be filled and
moved, it is all that there is beside what was there. -/
theorem fillAndMove_cases (x : ByteArray) (target : Path) (text : String) :
    (fails .write = none ∧ fails .sync = none ∧ fails .rename = none ∧
      ∃ t, fs.FilePlace target t ∧
        ((tornStorage torn fails).fillAndMove temporary target text).run (fs.set l (.file x)) =
          (.ok (), fs.set t (.file text.toUTF8))) ∨
    (¬(fails .write = none ∧ fails .sync = none ∧ fails .rename = none ∧
        ∃ t, fs.FilePlace target t) ∧
      ∃ e y, ((tornStorage torn fails).fillAndMove temporary target text).run (fs.set l (.file x)) =
        (.error e, fs.set l (.file y))) := by
  rw [run_fillAndMove]
  obtain ⟨outcome, y, hwrite, hok, hfull⟩ :=
    tornStorage_write torn fails hl hnew hlocate x text.toUTF8
  rw [hwrite]
  cases outcome with
  | error e => exact .inr ⟨fun h => by simp [h.1] at hok, e, y, rfl⟩
  | ok _ =>
    have hwritten : fails .write = none := hok.1 rfl
    obtain rfl := hfull rfl
    cases hsync : fails .sync with
    | some e => exact .inr ⟨by simp, e, text.toUTF8, by simp [tornStorage, storage, act, hsync]⟩
    | none =>
      have hsynced : (tornStorage torn fails).sync temporary (fs.set l (.file text.toUTF8)) =
          (.ok (), fs.set l (.file text.toUTF8)) := by
        simp [tornStorage, storage, act, hsync]
      simp only [hsynced]
      rcases tornStorage_rename torn fails hl hnew hlocate text.toUTF8 target with
        ⟨hrename, t, ht, hmoved⟩ | ⟨hnot, e, hstuck⟩
      · exact .inl ⟨hwritten, trivial, hrename, t, ht, hmoved⟩
      · exact .inr ⟨fun h => hnot h.2.2, e, _, hstuck⟩

end Temporary

/-- Writing a text puts all of it at the target and changes nothing else, or nothing changes. -/
theorem writeAtomic_cases (fs : FileSystem) (target : Path) (text : String) :
    ((∀ a, a ≠ .read → fails a = none) ∧ fs.Writable target ∧ ∃ t, fs.FilePlace target t ∧
      (tornStorage torn fails).writeAtomic target text fs =
        (.ok (), fs.set t (.file text.toUTF8))) ∨
    (¬((∀ a, a ≠ .read → fails a = none) ∧ fs.Writable target) ∧ ∃ e,
      (tornStorage torn fails).writeAtomic target text fs = (.error e, fs)) := by
  rw [run_writeAtomic]
  cases hcreate : fails .create with
  | some e =>
    refine .inr ⟨fun h => ?_, e, by simp [tornStorage, storage, hcreate]⟩
    simp [h.1 .create (by simp)] at hcreate
  | none =>
    cases hmade : fs.createTemporary target.directory with
    | error e =>
      refine .inr ⟨?_, e, by simp [tornStorage, storage, hcreate, hmade]⟩
      rintro ⟨-, ⟨d, hd, hdirectory⟩, -⟩
      obtain ⟨p, after, hok⟩ := exists_createTemporary hd hdirectory
      rw [hok] at hmade
      simp at hmade
    | ok made =>
      obtain ⟨temporary, after⟩ := made
      obtain ⟨d, l, hd, hdirectory, hl, hnew, hlocate, rfl⟩ := createTemporary_eq_ok hmade
      have hcreated : (tornStorage torn fails).createTemporary target.directory fs =
          (.ok temporary, fs.set l (.file .empty)) := by
        simp [tornStorage, storage, hcreate, hmade]
      rw [hcreated]
      dsimp only
      rcases fillAndMove_cases torn fails hl hnew hlocate .empty target text with
        ⟨hwrite, hsync, hrename, t, ht, hmoved⟩ | ⟨hnot, e, y, hstuck⟩
      · rw [hmoved]
        refine .inl ⟨fun a ha => ?_, ⟨⟨d, hd, hdirectory⟩, t, ht⟩, t, ht, rfl⟩
        cases a <;> simp_all
      · rw [hstuck]
        refine .inr ⟨?_, e, ?_⟩
        · rintro ⟨hall, -, hplace⟩
          exact hnot ⟨hall _ (by simp), hall _ (by simp), hall _ (by simp), hplace⟩
        · dsimp only
          rw [remove_temporary torn fails hl hnew hlocate]

end SchemaGen.FileSystem
