import SchemaGen.Proofs.Path.Name
import SchemaGen.Proofs.Path.Relative
import SchemaGen.Run.Generate

namespace SchemaGen.Path

/-- A name that is one step of a path, and neither of the two that are other steps. -/
structure IsName (name : FileName) : Prop where
  nonempty : name.bytes ≠ []
  unbroken : 0x2F ∉ name.bytes
  notHere : name ≠ .ofString "."
  notUp : name ≠ .ofString ".."

instance (name : FileName) : Decidable (IsName name) :=
  decidable_of_iff (name.bytes ≠ [] ∧ 0x2F ∉ name.bytes ∧ name ≠ .ofString "." ∧ name ≠ .ofString "..")
    ⟨fun ⟨h, h', h'', h'''⟩ => ⟨h, h', h'', h'''⟩, fun ⟨h, h', h'', h'''⟩ => ⟨h, h', h'', h'''⟩⟩

def Step.Proper : Step → Prop
  | down name => IsName name
  | _ => True

instance : DecidablePred Step.Proper
  | .down name => inferInstanceAs (Decidable (IsName name))
  | .here | .up => isTrue trivial

def Step.shown : Step → Step
  | down name => down (.ofString name.text)
  | s => s

/-- A path from the root as a run handles it. -/
structure IsAbsolute (p : Path) : Prop where
  rooted : p.rooted = true
  normal : p.normalize = p
  proper : ∀ s ∈ p.steps, s.Proper

instance (p : Path) : Decidable p.IsAbsolute :=
  decidable_of_iff (p.rooted = true ∧ p.normalize = p ∧ ∀ s ∈ p.steps, s.Proper)
    ⟨fun ⟨h, h', h''⟩ => ⟨h, h', h''⟩, fun ⟨h, h', h''⟩ => ⟨h, h', h''⟩⟩

variable {s : Step} {steps : List Step} {cs : List Char} {p : Path}

/-! ### Steps and their texts -/

theorem shown_eq_self_iff : s.shown = s ↔ s.isText := by
  cases s with
  | here => exact iff_of_true rfl rfl
  | up => exact iff_of_true rfl rfl
  | down name => rw [Step.shown, Step.down.injEq, Step.isText, FileName.isText, decide_eq_true_iff]

theorem map_shown_eq_self_iff : steps.map Step.shown = steps ↔ ∀ s ∈ steps, s.isText := by
  induction steps with
  | nil => simp
  | cons s steps ih =>
    rw [List.map_cons, List.cons.injEq, shown_eq_self_iff, ih, List.forall_mem_cons]

theorem ofName_text (h : s.Proper) : Step.ofName (.ofString s.text) = s.shown := by
  cases s with
  | here => rfl
  | up => rfl
  | down name =>
    have hhere : FileName.ofString name.text ≠ .ofString "." := fun heq =>
      h.notHere (FileName.eq_ofString_of_text (FileName.ofString_injective heq) (by decide))
    have hup : FileName.ofString name.text ≠ .ofString ".." := fun heq =>
      h.notUp (FileName.eq_ofString_of_text (FileName.ofString_injective heq) (by decide))
    rw [Step.text, Step.ofName, if_neg hhere, if_neg hup, Step.shown]

theorem text_unbroken (h : s.Proper) : s.text.toList ≠ [] ∧ '/' ∉ s.text.toList := by
  cases s with
  | here => decide
  | up => decide
  | down name =>
    exact ⟨by simpa [Step.text] using FileName.text_ne_empty h.nonempty, FileName.slash_notMem_text h.unbroken⟩

theorem proper_ofName {name : FileName} (hne : name.bytes ≠ []) (hslash : 0x2F ∉ name.bytes) :
    (Step.ofName name).Proper := by
  unfold Step.ofName
  split_ifs with hhere hup
  · trivial
  · trivial
  · exact ⟨hne, hslash, hhere, hup⟩

theorem isText_ofName {name : FileName} (h : name.isText = true) : (Step.ofName name).isText := by
  unfold Step.ofName
  split_ifs
  · trivial
  · trivial
  · exact h

theorem pieces_append (h : '/' ∉ cs) (rest : List Char) :
    pieces (cs ++ '/' :: rest) = cs :: pieces rest := by
  induction cs with
  | nil => rfl
  | cons c cs ih =>
    rw [List.mem_cons, not_or] at h
    rw [List.cons_append, pieces, if_neg (Ne.symm h.1), ih h.2]

theorem pieces_of_notMem (h : '/' ∉ cs) : pieces cs = [cs] := by
  induction cs with
  | nil => rfl
  | cons c cs ih =>
    rw [List.mem_cons, not_or] at h
    rw [pieces, if_neg (Ne.symm h.1), ih h.2]

theorem notMem_pieces {p : List Char} (h : p ∈ pieces cs) : '/' ∉ p := by
  induction cs generalizing p with
  | nil =>
    obtain rfl := List.mem_singleton.1 h
    exact List.not_mem_nil
  | cons c cs ih =>
    rw [pieces] at h
    split_ifs at h with hc
    · rcases List.mem_cons.1 h with rfl | h
      · exact List.not_mem_nil
      · exact ih h
    · split at h
      · obtain rfl := List.mem_singleton.1 h
        simpa using Ne.symm hc
      · next first rest hcut =>
        rcases List.mem_cons.1 h with rfl | h
        · rw [List.mem_cons, not_or]
          exact ⟨Ne.symm hc, ih (by rw [hcut]; exact List.mem_cons_self)⟩
        · exact ih (by rw [hcut]; exact List.mem_cons_of_mem _ h)

def stepsOf (cs : List Char) : List Step :=
  ((pieces cs).filter (!·.isEmpty)).map fun p => Step.ofName (.ofString (String.ofList p))

theorem isText_stepsOf (h : s ∈ stepsOf cs) : s.isText := by
  obtain ⟨p, -, rfl⟩ := List.mem_map.1 h
  exact isText_ofName (FileName.isText_ofString _)

theorem proper_stepsOf (h : s ∈ stepsOf cs) : s.Proper := by
  obtain ⟨p, hp, rfl⟩ := List.mem_map.1 h
  obtain ⟨hp, hne⟩ := List.mem_filter.1 hp
  refine proper_ofName ?_ ?_
  · exact FileName.bytes_ofString_ne_nil (by simpa using hne)
  · exact FileName.slash_notMem_ofString (by simpa using notMem_pieces hp)

theorem rooted_ofChars (cs : List Char) : (ofChars cs).rooted = decide (cs.head? = some '/') := by
  unfold ofChars
  dsimp only
  split <;> rfl

/-- A step to the same directory only stays at the beginning, and may stay there. -/
theorem steps_ofChars (cs : List Char) :
    (∃ first rest, stepsOf cs = .here :: rest ∧ (first = [] ∨ first = [.here]) ∧
      (ofChars cs).steps = first ++ rest.filter (· ≠ .here)) ∨
      (ofChars cs).steps = (stepsOf cs).filter (· ≠ .here) := by
  unfold ofChars
  dsimp only
  split
  · next rest hsteps =>
    refine .inl ⟨_, rest, hsteps, ?_, rfl⟩
    split_ifs
    · exact .inl rfl
    · exact .inr rfl
  · exact .inr rfl

theorem mem_steps_ofChars (h : s ∈ (ofChars cs).steps) : s ∈ stepsOf cs := by
  rcases steps_ofChars cs with ⟨first, rest, hsteps, hfirst, heq⟩ | heq
  · rw [heq] at h
    rw [hsteps]
    rcases List.mem_append.1 h with h | h
    · rcases hfirst with rfl | rfl
      · exact absurd h List.not_mem_nil
      · obtain rfl := List.mem_singleton.1 h
        exact List.mem_cons_self
    · exact List.mem_cons_of_mem _ (List.mem_filter.1 h).1
  · rw [heq] at h
    exact (List.mem_filter.1 h).1

theorem follow_filter_here (rooted : Bool) (done steps : List Step) :
    follow rooted done (steps.filter (· ≠ .here)) = follow rooted done steps := by
  induction steps generalizing done with
  | nil => rfl
  | cons s steps ih =>
    cases s with
    | here => exact ih done
    | up => exact ih (advance rooted done .up)
    | down name => exact ih (advance rooted done (.down name))

theorem follow_ofChars (rooted : Bool) (done : List Step) (cs : List Char) :
    follow rooted done (ofChars cs).steps = follow rooted done (stepsOf cs) := by
  rcases steps_ofChars cs with ⟨first, rest, hsteps, hfirst, heq⟩ | heq
  · have hhere : follow rooted done (.here :: rest) = follow rooted done rest := rfl
    rw [heq, hsteps, hhere, ← follow_filter_here rooted done rest]
    rcases hfirst with rfl | rfl
    · rfl
    · rfl
  · rw [heq]
    exact follow_filter_here rooted done _

/-- A step in front of others is read first, as its text shows it. -/
theorem stepsOf_append (h : s.Proper) (rest : List Char) :
    stepsOf (s.text.toList ++ '/' :: rest) = s.shown :: stepsOf rest := by
  obtain ⟨hne, hslash⟩ := text_unbroken h
  have hstep : Step.ofName (.ofString (String.ofList s.text.toList)) = s.shown := by
    rw [String.ofList_toList, ofName_text h]
  rw [stepsOf, pieces_append hslash, List.filter_cons, if_pos (by simpa using hne), List.map_cons, hstep]
  rfl

theorem stepsOf_text (h : s.Proper) : stepsOf s.text.toList = [s.shown] := by
  obtain ⟨hne, hslash⟩ := text_unbroken h
  have hstep : Step.ofName (.ofString (String.ofList s.text.toList)) = s.shown := by
    rw [String.ofList_toList, ofName_text h]
  rw [stepsOf, pieces_of_notMem hslash, List.filter_cons, if_pos (by simpa using hne), List.filter_nil,
    List.map_singleton, hstep]

def joined (steps : List Step) : List Char := ['/'].intercalate (steps.map (·.text.toList))

theorem joined_cons_cons (s t : Step) (steps : List Step) :
    joined (s :: t :: steps) = s.text.toList ++ '/' :: joined (t :: steps) := by
  rw [joined, List.map_cons, List.map_cons, List.intercalate_cons_cons, List.append_assoc]
  rfl

theorem stepsOf_joined (h : ∀ s ∈ steps, s.Proper) : stepsOf (joined steps) = steps.map Step.shown := by
  induction steps with
  | nil => rfl
  | cons s steps ih =>
    obtain ⟨hs, hsteps⟩ := List.forall_mem_cons.1 h
    cases steps with
    | nil =>
      have hone : joined [s] = s.text.toList := List.intercalate_singleton
      rw [hone, stepsOf_text hs, List.map_singleton]
    | cons t steps => rw [joined_cons_cons, stepsOf_append hs, ih hsteps, ← List.map_cons]

/-! ### The steps of the way -/

theorem mem_follow {rooted : Bool} {done : List Step} (h : s ∈ follow rooted done steps) :
    s ∈ done ∨ s ∈ steps ∨ s = .up := by
  induction steps generalizing done with
  | nil => exact .inl h
  | cons t steps ih =>
    have hadvance : s ∈ advance rooted done t → s ∈ done ∨ s = t ∨ s = .up := by
      intro hs
      unfold advance at hs
      split at hs
      · exact .inl hs
      · exact (List.mem_cons.1 hs).symm.imp_right .inl
      · split at hs
        · exact .inl (List.mem_cons_of_mem _ hs)
        · split_ifs at hs
          · exact .inl hs
          · exact .inr (.inr (List.mem_singleton.1 hs))
        · exact (List.mem_cons.1 hs).symm.imp_right .inr
    rcases ih h with hdone | hlater | rfl
    · rcases hadvance hdone with hdone | rfl | rfl
      · exact .inl hdone
      · exact .inr (.inl List.mem_cons_self)
      · exact .inr (.inr rfl)
    · exact .inr (.inl (List.mem_cons_of_mem _ hlater))
    · exact .inr (.inr rfl)

theorem mem_normalize (h : s ∈ p.normalize.steps) : s ∈ p.steps ∨ s = .up :=
  (mem_follow (List.mem_reverse.1 h)).resolve_left List.not_mem_nil

theorem mem_relative {source target : Path} (hrooted : source.rooted = target.rooted)
    (h : s ∈ (source.relative target).steps) : s ∈ target.steps ∨ s = .up := by
  rw [relative_eq hrooted] at h
  rcases List.mem_append.1 h with h | h
  · exact .inr (List.eq_of_mem_replicate h)
  · exact mem_normalize (List.mem_of_mem_drop h)

theorem mem_withoutExtension (h : s ∈ p.withoutExtension.steps) :
    s ∈ p.steps ∨ ∃ name, .down name ∈ p.steps ∧ s = Step.ofName name.stem := by
  unfold withoutExtension at h
  split at h
  · next name hlast =>
    rcases List.mem_append.1 h with h | h
    · exact .inl ((List.dropLast_sublist _).mem h)
    · exact .inr ⟨name, List.mem_of_getLast? hlast, List.mem_singleton.1 h⟩
  · exact .inl h

theorem proper_normalize (h : ∀ s ∈ p.steps, s.Proper) : ∀ s ∈ p.normalize.steps, s.Proper := by
  intro s hs
  rcases mem_normalize hs with hs | rfl
  · exact h s hs
  · trivial

theorem proper_stem {name : FileName} (h : IsName name) : (Step.ofName name.stem).Proper := by
  refine proper_ofName (FileName.stemBytes_ne_nil h.nonempty) fun hslash => ?_
  exact h.unbroken ((FileName.mem_stemBytes hslash).resolve_right (by decide))

theorem proper_withoutExtension (h : ∀ s ∈ p.steps, s.Proper) :
    ∀ s ∈ p.withoutExtension.steps, s.Proper := by
  intro s hs
  rcases mem_withoutExtension hs with hs | ⟨name, hname, rfl⟩
  · exact h s hs
  · exact proper_stem (h _ hname)

theorem isText_withoutExtension (h : ∀ s ∈ p.steps, s.isText) :
    ∀ s ∈ p.withoutExtension.steps, s.isText := by
  intro s hs
  rcases mem_withoutExtension hs with hs | ⟨name, hname, rfl⟩
  · exact h s hs
  · exact isText_ofName (FileName.isText_stem (h _ hname))

theorem rooted_withoutExtension (p : Path) : p.withoutExtension.rooted = p.rooted := by
  unfold withoutExtension
  split <;> rfl

theorem rooted_parent {p : Path} (h : p.steps ≠ []) : p.parent.rooted = p.rooted := by
  unfold parent
  split
  · next hnil => exact absurd hnil h
  · rfl

/-! ### The specifier -/

/-- The text of a specifier for a way is the way itself if this goes up and on, else the way below `.`. -/
def Specifies (text way : List Char) : Prop :=
  text = way ∧ ['.', '.', '/'] <+: way ∨ text = '.' :: '/' :: way

theorem specifies_importSpecifier {input output way : Path}
    (h : output.parent.relative input.withoutExtension = way) (hway : way.rooted = false) :
    Specifies (input.importSpecifier output).toList (joined way.steps) := by
  have htext : ("/".intercalate (way.steps.map Step.text)).toList = joined way.steps := by
    rw [String.toList_intercalate, List.map_map]
    rfl
  unfold importSpecifier
  dsimp only
  rw [h, hway]
  split
  · next s steps hsteps =>
    have hup : joined way.steps = ['.', '.', '/'] ++ joined (s :: steps) := by
      rw [hsteps, joined_cons_cons]
      rfl
    exact .inl ⟨htext, _, hup.symm⟩
  · right
    rw [String.toList_append]
    exact congrArg (fun text => '.' :: '/' :: text) htext

/-- A specifier that is read as a path leads where the steps lead that the way shows. -/
theorem normalize_join_ofString (hproper : ∀ s ∈ steps, s.Proper) {text : String}
    (htext : Specifies text.toList (joined steps)) :
    (p.join (.ofString text)).normalize = (p.join ⟨false, steps.map Step.shown⟩).normalize := by
  have hsteps := stepsOf_joined hproper
  have hroot : (ofString text).rooted = false := by
    rw [ofString, rooted_ofChars]
    rcases htext with ⟨htext, rest, hrest⟩ | htext
    · rw [htext, ← hrest]
      rfl
    · rw [htext]
      rfl
  have hfollow (done : List Step) :
      follow p.rooted done (ofString text).steps = follow p.rooted done (steps.map Step.shown) := by
    rw [ofString, follow_ofChars]
    rcases htext with ⟨htext, -⟩ | htext
    · rw [htext, hsteps]
    · have hdot : stepsOf ('.' :: '/' :: joined steps) = .here :: stepsOf (joined steps) :=
        stepsOf_append (s := .here) trivial _
      rw [htext, hdot, hsteps]
      rfl
  have hpath : ofString text = ⟨false, (ofString text).steps⟩ :=
    congrArg (Path.mk · (ofString text).steps) hroot
  rw [hpath, normalize_join, normalize_join, hfollow]

theorem follow_down (rooted : Bool) (done : List Step) (h : ∀ s ∈ steps, ∃ name, s = .down name) :
    follow rooted done steps = steps.reverse ++ done := by
  induction steps generalizing done with
  | nil => rfl
  | cons s steps ih =>
    obtain ⟨⟨name, rfl⟩, hsteps⟩ := List.forall_mem_cons.1 h
    have hfirst : follow rooted done (.down name :: steps) = follow rooted (.down name :: done) steps := rfl
    rw [hfirst, ih _ hsteps, List.reverse_cons, List.append_assoc]
    rfl

/-- Steps up and then down lead to the same place as what they show only if they are texts. -/
theorem follow_shown_iff (rooted : Bool) (done : List Step) (n : Nat)
    (h : ∀ s ∈ steps, ∃ name, s = .down name) :
    follow rooted done ((List.replicate n Step.up ++ steps).map Step.shown) =
        follow rooted done (List.replicate n .up ++ steps) ↔ ∀ s ∈ steps, s.isText := by
  have hshown : ∀ s ∈ steps.map Step.shown, ∃ name, s = .down name := by
    intro s hs
    obtain ⟨t, ht, rfl⟩ := List.mem_map.1 hs
    obtain ⟨name, rfl⟩ := h t ht
    exact ⟨_, rfl⟩
  have hups : (List.replicate n Step.up).map Step.shown = List.replicate n .up := List.map_replicate
  rw [List.map_append, hups, follow_append, follow_append, follow_down _ _ h, follow_down _ _ hshown,
    List.append_left_inj, List.reverse_inj, map_shown_eq_self_iff]

/-- A specifier leads to the imported module just if its text shows every step of the way. -/
theorem normalize_join_importSpecifier_iff {input output : Path} (hinput : input.IsAbsolute)
    (hparent : output.parent.rooted = true) :
    (output.parent.join (.ofString (input.importSpecifier output))).normalize =
        input.withoutExtension.normalize ↔
      ∀ s ∈ (output.parent.relative input.withoutExtension).steps, s.isText := by
  have htarget : input.withoutExtension.rooted = true :=
    (rooted_withoutExtension input).trans hinput.rooted
  have hrooted : output.parent.rooted = input.withoutExtension.rooted := hparent.trans htarget.symm
  have hleads := normalize_join_relative hrooted fun hfalse => absurd (hparent.symm.trans hfalse) (by decide)
  have hway : (output.parent.relative input.withoutExtension).rooted = false := by
    rw [relative_eq hrooted]
  have hspecifier := specifies_importSpecifier rfl hway
  have hproper : ∀ s ∈ (output.parent.relative input.withoutExtension).steps, s.Proper := by
    intro s hs
    rcases mem_relative hrooted hs with hs | rfl
    · exact proper_withoutExtension hinput.proper s hs
    · trivial
  rw [normalize_join_ofString hproper hspecifier, ← hleads]
  rw [relative_eq hrooted] at hproper ⊢
  have hdowns : ∀ s ∈ input.withoutExtension.normalize.steps.drop
      (common output.parent.normalize.steps input.withoutExtension.normalize.steps),
      ∃ name, s = .down name := by
    intro s hs
    have hsettled := settled_reverse_normalize input.withoutExtension
    have hall := hsettled.eq_down fun hfalse => absurd (htarget.symm.trans hfalse) (by decide)
    exact hall s (List.mem_reverse.2 (List.mem_of_mem_drop hs))
  rw [normalize_join, normalize_join, Path.mk.injEq, List.reverse_inj, follow_shown_iff _ _ _ hdowns,
    List.forall_mem_append]
  have hups : ∀ n, ∀ s ∈ List.replicate n Step.up, s.isText := by
    intro n s hs
    obtain rfl := List.eq_of_mem_replicate hs
    trivial
  exact ⟨fun h => ⟨hups _, h.2⟩, fun h => ⟨rfl, h.2⟩⟩

theorem mem_resolve {working : Path} {path : String} (h : Run.resolve working path = .ok p)
    (hs : s ∈ p.steps) : s ∈ working.steps ∨ s ∈ stepsOf path.toList ∨ s = .up := by
  unfold Run.resolve at h
  split_ifs at h
  obtain rfl := Except.ok.inj h
  rcases mem_normalize hs with hs | rfl
  · unfold join at hs
    split_ifs at hs
    · exact .inr (.inl (mem_steps_ofChars hs))
    · exact (List.mem_append.1 hs).imp_right fun hs => .inl (mem_steps_ofChars hs)
  · exact .inr (.inr rfl)

theorem isAbsolute_of_resolve {working : Path} {path : String} (hw : working.IsAbsolute)
    (h : Run.resolve working path = .ok p) : p.IsAbsolute where
  rooted := by
    unfold Run.resolve at h
    split_ifs at h
    obtain rfl := Except.ok.inj h
    change (working.join (ofString path)).rooted = true
    unfold join
    split_ifs with hroot
    · exact hroot
    · exact hw.rooted
  normal := by
    unfold Run.resolve at h
    split_ifs at h
    obtain rfl := Except.ok.inj h
    exact normalize_normalize _
  proper := by
    intro s hs
    rcases mem_resolve h hs with hs | hs | rfl
    · exact hw.proper s hs
    · exact proper_stepsOf hs
    · trivial

/-- The names of the paths of a run are texts if those of the path are where it works. -/
theorem isText_of_resolve {working : Path} {path : String} (hw : ∀ s ∈ working.steps, s.isText)
    (h : Run.resolve working path = .ok p) : ∀ s ∈ p.steps, s.isText := by
  intro s hs
  rcases mem_resolve h hs with hs | hs | rfl
  · exact hw s hs
  · exact isText_stepsOf hs
  · trivial

end SchemaGen.Path
