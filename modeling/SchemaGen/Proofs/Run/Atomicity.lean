import SchemaGen.Proofs.Files.Writing
import SchemaGen.Run.Generate

namespace SchemaGen

namespace FileSystem

theorem toUTF8_eq_of_fromUTF8? {bytes : ByteArray} {text : String}
    (h : String.fromUTF8? bytes = some text) : bytes = text.toUTF8 := by
  unfold String.fromUTF8? at h
  split at h
  · obtain rfl := Option.some.inj h
    rfl
  · simp at h

theorem fromUTF8?_toUTF8 (text : String) : String.fromUTF8? text.toUTF8 = some text := by
  have hvalid : text.toUTF8.IsValidUTF8 := text.isValidUTF8
  rw [String.fromUTF8?, dif_pos hvalid]
  rfl

variable (torn : ByteArray → Option ByteArray) (fails : Action → Option FileError)

/-- Reading a text changes nothing, and gives the contents of the file if it does not fail. -/
theorem readText_cases (fs : FileSystem) (p : Path) :
    (∃ text, fails .read = none ∧ fs.read p = .ok text.toUTF8 ∧
      (tornStorage torn fails).readText p fs = (.ok text, fs)) ∨
    ((¬∃ text, fails .read = none ∧ fs.read p = .ok (String.toUTF8 text)) ∧ ∃ e,
      (tornStorage torn fails).readText p fs = (.error e, fs)) := by
  have hrun : (tornStorage torn fails).readText p fs =
      (((fails .read).elim (fs.read p) .error).bind fun bytes =>
        (String.fromUTF8? bytes).elim (.error .notText) .ok, fs) := by
    simp only [Storage.readText, bind, StateT.bind, tornStorage, storage]
    cases (fails .read).elim (fs.read p) Except.error with
    | error e => rfl
    | ok bytes =>
      dsimp only [Except.bind]
      cases String.fromUTF8? bytes <;> rfl
  rw [hrun]
  cases hfails : fails .read with
  | some e => exact .inr ⟨by simp, e, rfl⟩
  | none =>
    dsimp only [Option.elim]
    cases hread : fs.read p with
    | error e => exact .inr ⟨by simp, e, rfl⟩
    | ok bytes =>
      dsimp only [Except.bind]
      cases htext : String.fromUTF8? bytes with
      | some text =>
        exact .inl ⟨text, rfl, congrArg Except.ok (toUTF8_eq_of_fromUTF8? htext), rfl⟩
      | none =>
        refine .inr ⟨?_, .notText, rfl⟩
        rintro ⟨text, -, heq⟩
        rw [Except.ok.inj heq, fromUTF8?_toUTF8] at htext
        simp at htext

end FileSystem

namespace Run

open FileSystem

/-- The text that a run makes for its output from what is in its input, and what it tells. -/
def Makes (r : Run) (read : TypeScript.Reader) (converter : Converter)
    (format : String → Except Format.Error String)
    (working : Path) (fs : FileSystem) (output : Path) (result : Result) (text : String) : Prop :=
  ∃ input source, r.paths working = .ok (input, output) ∧ fs.read input = .ok source.toUTF8 ∧
    r.transform read converter (input.importSpecifier output) source = .ok result ∧
    format result.text = .ok text

theorem mapError_eq_ok {ε δ α : Type} {f : ε → δ} {x : Except ε α} {a : α} :
    x.mapError f = .ok a ↔ x = .ok a := by
  cases x <;> simp [Except.mapError]

theorem produce_eq_ok {r : Run} {read : TypeScript.Reader} {converter : Converter}
  {format : String → Except Format.Error String}
    {input output : Path} {source text : String} {result : Result} :
    r.produce read converter format input output source = .ok (text, result) ↔
      r.transform read converter (input.importSpecifier output) source = .ok result ∧
        format result.text = .ok text := by
  simp only [produce, bind_eq_ok, mapError_eq_ok, pure_eq_ok, Prod.mk.injEq]
  constructor
  · rintro ⟨made, hmade, written, hwritten, rfl, rfl⟩
    exact ⟨hmade, hwritten⟩
  · rintro ⟨hmade, hwritten⟩
    exact ⟨result, hmade, text, hwritten, rfl, rfl⟩

section Steps

variable {s : Storage (StateM FileSystem)} {input output : Path} {fs after last : FileSystem}
  {produce : Path → Path → String → Except Failure (String × Result)} {source text : String}
  {result : Result} {failure : Failure} {cause : FileError}

theorem carryOut_of_unread (hread : s.readText input fs = (.error cause, after)) :
    carryOut s (.ok (input, output)) produce fs =
      (.error (.unreadable input.text cause), after) := by
  dsimp only [carryOut, bind, StateT.bind]
  rw [hread]
  rfl

section Read

variable (hread : s.readText input fs = (.ok source, after))

include hread

theorem carryOut_of_read : carryOut s (.ok (input, output)) produce fs =
    match produce input output source with
    | .error failure => (.error failure, after)
    | .ok (text, result) =>
      match s.writeAtomic output text after with
      | (.error cause, last) => (.error (.unwritable output.text cause), last)
      | (.ok (), last) => (.ok ⟨output, result⟩, last) := by
  dsimp only [carryOut, bind, StateT.bind]
  rw [hread]
  dsimp only
  rcases produce input output source with failure | ⟨text, result⟩
  · rfl
  dsimp only [StateT.bind]
  rcases s.writeAtomic output text after with ⟨cause | _, last⟩
  · rfl
  · rfl

theorem carryOut_of_unmade (hproduce : produce input output source = .error failure) :
    carryOut s (.ok (input, output)) produce fs = (.error failure, after) := by
  rw [carryOut_of_read hread, hproduce]

variable (hproduce : produce input output source = .ok (text, result))

include hproduce

theorem carryOut_of_unwritten (hwrite : s.writeAtomic output text after = (.error cause, last)) :
    carryOut s (.ok (input, output)) produce fs =
      (.error (.unwritable output.text cause), last) := by
  rw [carryOut_of_read hread, hproduce]
  dsimp only
  rw [hwrite]

theorem carryOut_of_written (hwrite : s.writeAtomic output text after = (.ok (), last)) :
    carryOut s (.ok (input, output)) produce fs = (.ok ⟨output, result⟩, last) := by
  rw [carryOut_of_read hread, hproduce]
  dsimp only
  rw [hwrite]

end Read

end Steps

section Makes

variable {r : Run} {read : TypeScript.Reader} {converter : Converter}
  {format : String → Except Format.Error String}
  {working input output o : Path} {fs : FileSystem} {result : Result} {text : String}

theorem makes_iff_of_paths (hpaths : r.paths working = .ok (input, output)) :
    r.Makes read converter format working fs o result text ↔
      o = output ∧ ∃ source, fs.read input = .ok source.toUTF8 ∧
        r.produce read converter format input output source = .ok (text, result) := by
  constructor
  · rintro ⟨i, source, hok, hread, hmade⟩
    obtain ⟨rfl, rfl⟩ := Prod.mk.inj (Except.ok.inj (hok.symm.trans hpaths))
    exact ⟨rfl, source, hread, produce_eq_ok.2 hmade⟩
  · rintro ⟨rfl, source, hread, hproduce⟩
    exact ⟨input, source, hpaths, hread, produce_eq_ok.1 hproduce⟩

/-- The bytes of a file are those of one text only. -/
theorem makes_iff_of_read (hpaths : r.paths working = .ok (input, output)) {source : String}
    (hread : fs.read input = .ok source.toUTF8) :
    r.Makes read converter format working fs o result text ↔
      o = output ∧ r.produce read converter format input output source = .ok (text, result) := by
  rw [makes_iff_of_paths hpaths]
  refine and_congr_right fun _ => ⟨?_, fun hproduce => ⟨source, hread, hproduce⟩⟩
  rintro ⟨other, hother, hproduce⟩
  obtain rfl := String.toByteArray_inj.1 (Except.ok.inj (hread.symm.trans hother))
  exact hproduce

end Makes

variable (torn : ByteArray → Option ByteArray) (fails : Action → Option FileError)
  (r : Run) (read : TypeScript.Reader) (converter : Converter)
  (format : String → Except Format.Error String)

/-- What lets a run succeed: a text is made, and it can be written. -/
def CanSucceed (working : Path) (fs : FileSystem) : Prop :=
  (∀ a, fails a = none) ∧ ∃ output result text,
    r.Makes read converter format working fs output result text ∧ fs.Writable output

/-- A run either puts its text at a place and succeeds, or it fails and all is as before. -/
theorem generate_cases (working : Path) (fs : FileSystem) :
    (CanSucceed fails r read converter format working fs ∧ ∃ output result text place,
      r.Makes read converter format working fs output result text ∧ fs.FilePlace output place ∧
      r.generate (tornStorage torn fails) working read converter format fs =
        (.ok ⟨output, result⟩, fs.set place (.file text.toUTF8))) ∨
    (¬CanSucceed fails r read converter format working fs ∧ ∃ failure,
      r.generate (tornStorage torn fails) working read converter format fs = (.error failure, fs)) := by
  rw [generate]
  rcases hpaths : r.paths working with failure | ⟨input, output⟩
  · refine .inr ⟨?_, failure, rfl⟩
    rintro ⟨-, _, _, _, ⟨_, _, hok, -⟩, -⟩
    simp [hpaths] at hok
  rcases readText_cases torn fails fs input with
    ⟨source, hreads, hread, htext⟩ | ⟨hnot, cause, hstuck⟩
  swap
  · -- The input cannot be read.
    refine .inr ⟨?_, _, carryOut_of_unread hstuck⟩
    rintro ⟨hall, _, _, _, hmakes, -⟩
    obtain ⟨-, source, hread, -⟩ := (makes_iff_of_paths hpaths).1 hmakes
    exact hnot ⟨source, hall _, hread⟩
  rcases hproduce : r.produce read converter format input output source with failure | ⟨text, result⟩
  · refine .inr ⟨?_, failure, carryOut_of_unmade htext hproduce⟩
    rintro ⟨-, _, _, _, hmakes, -⟩
    have hmade := ((makes_iff_of_read hpaths hread).1 hmakes).2
    simp [hproduce] at hmade
  have hmakes : r.Makes read converter format working fs output result text :=
    (makes_iff_of_read hpaths hread).2 ⟨rfl, hproduce⟩
  rcases writeAtomic_cases torn fails fs output text with
    ⟨hall, hwritable, place, hplace, hwrite⟩ | ⟨hnot, cause, hwrite⟩
  · refine .inl ⟨⟨fun a => ?_, output, result, text, hmakes, hwritable⟩,
      output, result, text, place, hmakes, hplace, carryOut_of_written htext hproduce hwrite⟩
    by_cases ha : a = .read
    · exact ha ▸ hreads
    · exact hall a ha
  · refine .inr ⟨?_, _, carryOut_of_unwritten htext hproduce hwrite⟩
    rintro ⟨hall, _, _, _, hother, hwritable⟩
    obtain ⟨rfl, -⟩ := (makes_iff_of_paths hpaths).1 hother
    exact hnot ⟨fun a _ => hall a, hwritable⟩

/-- A run that fails changes nothing. One that succeeds changes one file, its output, which then has all of
the text that is made from what was in the input. It succeeds exactly if there is such a text, no action on
files fails, and a file can be put at the output. -/
theorem generate_writesOrNothing (working : Path) (fs : FileSystem) :
    let run := r.generate (tornStorage torn fails) working read converter format fs
    (match run with
      | (.error _, after) => after = fs
      | (.ok done, after) => ∃ text place,
        r.Makes read converter format working fs done.output done.result text ∧
        fs.FilePlace done.output place ∧
        after.read done.output = .ok text.toUTF8 ∧ after.working = fs.working ∧
        ∀ l, after.entryAt? l = if l = place then some (.file text.toUTF8) else fs.entryAt? l) ∧
    ((∃ done, run.1 = .ok done) ↔ (∀ a, fails a = none) ∧
      ∃ output result text, r.Makes read converter format working fs output result text ∧
        fs.Writable output) := by
  rcases generate_cases torn fails r read converter format working fs with
    ⟨hcan, output, result, text, place, hmakes, hplace, hrun⟩ | ⟨hcannot, failure, hrun⟩
  · have hne : place ≠ [] := fun hroot => hplace.notDirectory (by rw [hroot]; rfl)
    simp only [hrun]
    refine ⟨⟨text, place, hmakes, hplace, ?_, rfl, entryAt?_set fs hne _⟩, ?_⟩
    · exact read_set_self hne hplace text.toUTF8
    · exact ⟨fun _ => hcan, fun _ => ⟨_, rfl⟩⟩
  · simp only [hrun]
    exact ⟨trivial, ⟨by simp, fun hcan => absurd hcan hcannot⟩⟩

end Run

end SchemaGen
