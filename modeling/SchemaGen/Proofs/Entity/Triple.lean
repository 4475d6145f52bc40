import SchemaGen.Proofs.Entity.Suffix
import SchemaGen.Proofs.Naming
import SchemaGen.Proofs.Text.Pascal

namespace SchemaGen.Entity

open Text.Pascal (endsWord stem)

theorem standardSuffixes_capital :
    ∀ m ∈ standardSuffixes, ∃ c cs, m.toList = c :: cs ∧ c.isUpper = true ∧
      (∀ d ∈ cs, d.isLower = true) ∧ cs ≠ [] := by
  intro m hm
  have hcheck : standardSuffixes.all (fun t => t.toList.head?.any Char.isUpper &&
      (t.toList.tail.all Char.isLower && !t.toList.tail.isEmpty)) = true := by decide +kernel
  have hshape := List.all_eq_true.1 hcheck m hm
  cases hchars : m.toList with
  | nil => simp [hchars] at hshape
  | cons c cs =>
    rw [hchars, Bool.and_eq_true, Bool.and_eq_true] at hshape
    obtain ⟨hc, hcs, hne⟩ := hshape
    exact ⟨c, cs, rfl, by simpa using hc, List.all_eq_true.1 hcs, by simpa using hne⟩

theorem splitSuffix_standard {m : String} (hm : m ∈ standardSuffixes) {entity : List Char}
    (hentity : entity ≠ []) :
    splitSuffix standardSuffixes (String.ofList (entity ++ m.toList)) =
      (String.ofList entity, some m) := by
  have htail : ∀ t ∈ standardSuffixes, t.toList ≠ [] := by decide
  have hothers : ∀ t ∈ standardSuffixes, ∀ s ∈ standardSuffixes.map String.toList,
      s = t.toList ∨ Unrelated s t.toList := by decide +kernel
  have hsplit := splitChars_append hentity (htail m hm) (List.mem_map_of_mem hm) (hothers m hm)
  simp [splitSuffix, hsplit]

/-- A name that ends in a standard suffix with a small first letter is not split. -/
theorem splitSuffix_lowered {m : String} (hm : m ∈ standardSuffixes) (before : List Char) :
    splitSuffix standardSuffixes (String.ofList (before ++ m.toList.modifyHead Char.toLower)) =
      (String.ofList (before ++ m.toList.modifyHead Char.toLower), none) := by
  have hothers : ∀ t ∈ standardSuffixes, ∀ s ∈ standardSuffixes.map String.toList,
      Unrelated s (t.toList.modifyHead Char.toLower) := by decide +kernel
  have hsplit := splitChars_of_unrelated before (hothers m hm)
  simp [splitSuffix, hsplit]

theorem ofList_ne_empty {cs : List Char} (h : cs ≠ []) : String.ofList cs ≠ "" := by
  simpa [← String.toList_inj] using h

theorem baseName?_member {n : Naming} (hn : n.marker ≠ "") {entry m : String} {name : List Char}
    (hname : name ≠ [])
    (hpascal : Text.Pascal.ofName ((pascal entry).toList ++ m.toList) = name) :
    n.baseName? (n.schemaName (pascal entry ++ m)) = some (String.ofList name) := by
  have heq : pascal (pascal entry ++ m) = String.ofList name := by
    rw [← hpascal, ← String.toList_append]
    rfl
  rw [Naming.baseName?_schemaName hn, heq, if_neg (ofList_ne_empty hname)]

/-- The validators of the members of an entry are those of one entity exactly if a word ends behind
the name of the entry. Else none of them has a suffix. -/
theorem memberNames_split {n : Naming} (hn : n.marker ≠ "") {entry : String} (he : pascal entry ≠ "") :
    (endsWord (pascal entry).toList = true →
      ∃ entity ≠ "", ∀ m ∈ standardSuffixes,
        (n.baseName? (n.schemaName (pascal entry ++ m))).map (splitSuffix standardSuffixes) =
          some (entity, some m)) ∧
    (endsWord (pascal entry).toList = false →
      ∀ m ∈ standardSuffixes, ∃ name,
        n.baseName? (n.schemaName (pascal entry ++ m)) = some name ∧
          splitSuffix standardSuffixes name = (name, none)) := by
  have hentry : Text.Pascal.ofName entry.toList ≠ [] := by simpa [pascal, ← String.toList_inj] using he
  have hstem : stem (pascal entry).toList ≠ [] := by
    apply Text.Pascal.stem_ne_nil
    rw [pascal, String.toList_ofList]
    exact Text.Pascal.ofName_ofName_ne_nil hentry
  constructor
  · intro hends
    refine ⟨String.ofList (stem (pascal entry).toList), ofList_ne_empty hstem, ?_⟩
    intro m hm
    obtain ⟨c, cs, hchars, hc, hcs, hne⟩ := standardSuffixes_capital m hm
    have hcapital := (Text.Pascal.ofName_append_capital (pascal entry).toList hc hcs hne).1 hends
    rw [← hchars] at hcapital
    rw [baseName?_member hn (by simp [hstem]) hcapital, Option.map_some,
      splitSuffix_standard hm hstem]
  · intro hends m hm
    obtain ⟨c, cs, hchars, hc, hcs, hne⟩ := standardSuffixes_capital m hm
    obtain ⟨before, hbefore⟩ :=
      (Text.Pascal.ofName_append_capital (pascal entry).toList hc hcs hne).2 hends
    have hlowered : m.toList.modifyHead Char.toLower = c.toLower :: cs := by rw [hchars]; rfl
    rw [← hchars, ← hlowered] at hbefore
    have hne' : before ++ m.toList.modifyHead Char.toLower ≠ [] := by simp [hlowered]
    exact ⟨_, baseName?_member hn hne' hbefore, splitSuffix_lowered hm before⟩

/-- A word ends behind `Users` and none behind `Foo$`. -/
theorem memberNames_split_users :
    (Naming.standard.marker ≠ "" ∧ pascal "users" ≠ "" ∧
      ∃ entity ≠ "", ∀ m ∈ standardSuffixes,
        (Naming.standard.baseName? (Naming.standard.schemaName (pascal "users" ++ m))).map
          (splitSuffix standardSuffixes) = some (entity, some m)) ∧
    pascal "foo$" ≠ "" ∧
      ∀ m ∈ standardSuffixes, ∃ name,
        Naming.standard.baseName? (Naming.standard.schemaName (pascal "foo$" ++ m)) = some name ∧
          splitSuffix standardSuffixes name = (name, none) := by
  have hmarker : Naming.standard.marker ≠ "" := by decide
  have husers : pascal "users" ≠ "" := by decide +kernel
  have hfoo : pascal "foo$" ≠ "" := by decide +kernel
  have husersEnds : endsWord (pascal "users").toList = true := by decide +kernel
  have hfooEnds : endsWord (pascal "foo$").toList = false := by decide +kernel
  exact ⟨⟨hmarker, husers, (memberNames_split hmarker husers).1 husersEnds⟩, hfoo,
    (memberNames_split hmarker hfoo).2 hfooEnds⟩

end SchemaGen.Entity
