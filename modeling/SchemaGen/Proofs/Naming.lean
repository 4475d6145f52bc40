import Mathlib.Tactic.Common
import Mathlib.Tactic.SplitIfs
import SchemaGen.Naming

namespace SchemaGen

namespace Text

/-- A text that ends in another is cut before that end, whatever stands there. -/
theorem cutLast?_append {needle : List Char} (h : needle ≠ []) (before : List Char) :
    cutLast? needle (before ++ needle) = some (before, []) := by
  induction before with
  | nil =>
    obtain ⟨c, cs, rfl⟩ := List.exists_cons_of_ne_nil h
    have later : cutLast? (c :: cs) cs = none := by
      rw [Option.eq_none_iff_forall_ne_some]
      rintro ⟨before, after⟩ hcut
      have hlen := congrArg List.length (eq_append_of_cutLast? hcut)
      simp only [List.length_append, List.length_cons] at hlen
      omega
    have whole : afterPrefix? (c :: cs) (c :: cs) = some [] := by
      rw [afterPrefix?_eq_some_iff, List.append_nil]
    rw [List.nil_append, cutLast?, later, whole, Option.map_some]
  | cons b before ih => rw [List.cons_append, cutLast?, ih]

theorem cutFirst?_append {needle : List Char} (h : needle ≠ []) (after : List Char) :
    cutFirst? needle (needle ++ after) = some ([], after) := by
  obtain ⟨c, cs, rfl⟩ := List.exists_cons_of_ne_nil h
  have whole : afterPrefix? (c :: cs) (c :: (cs ++ after)) = some after := by
    rw [afterPrefix?_eq_some_iff, List.cons_append]
  rw [List.cons_append, cutFirst?, whole]

end Text

namespace Naming

variable {n : Naming}

/-- What is left of a text between the two marks. The mark is found at the end that it was put at, however
often it stands in the text or laps over it. -/
theorem bare_aggregateName (hm : n.marker ≠ "") (text : String) :
    (n.withoutMarker? (n.aggregateName text).toList).map n.withoutLead = some text.toList := by
  by_cases hs : n.suffix = ""
  · have hlead : n.lead.toList ≠ [] := by
      simpa [marker, hs] using hm
    have hcut := Text.cutFirst?_append hlead text.toList
    simp [withoutMarker?, withoutLead, aggregateName, marker, hs, hcut]
  · have hsuffix : n.suffix.toList ≠ [] := by simpa using hs
    have hcut := Text.cutLast?_append hsuffix (n.lead.toList ++ text.toList)
    rw [List.append_assoc] at hcut
    have hbefore : Text.afterPrefix? n.lead.toList (n.lead.toList ++ text.toList) =
        some text.toList := Text.afterPrefix?_eq_some_iff.2 rfl
    simp [withoutMarker?, withoutLead, aggregateName, marker, hs, hcut, hbefore]

theorem baseName?_aggregateName (hm : n.marker ≠ "") (text : String) :
    n.baseName? (n.aggregateName text) = if text = "" then none else some text := by
  have hempty : n.marker.isEmpty = false := by simpa using hm
  rw [baseName?, bare_aggregateName hm]
  simp only [hempty, Bool.false_eq_true, if_false]
  by_cases h : text = ""
  · rw [if_pos h, h]
    rfl
  · obtain ⟨c, cs, hc⟩ := List.exists_cons_of_ne_nil (by simpa using h : text.toList ≠ [])
    rw [if_neg h, hc]
    simp only [← hc, String.ofList_toList]

/-- The identifier of a validator has a name unless nothing is left of that of the type. -/
theorem baseName?_schemaName (hm : n.marker ≠ "") (type : String) :
    n.baseName? (n.schemaName type) = if pascal type = "" then none else some (pascal type) :=
  baseName?_aggregateName hm (pascal type)

example : standard.baseName? "SchemaVersionsRowSchema" = some "SchemaVersionsRow" ∧
    standard.baseName? "Schema" = none ∧ standard.baseName? "ChannelsRow" = none := by decide +kernel

/-- Two types have the same identifier if their names are the same in Pascal case. -/
theorem schemaName_eq_iff (n : Naming) (a b : String) :
    n.schemaName a = n.schemaName b ↔ pascal a = pascal b := by
  simp [schemaName, ← String.toList_inj]

/-- The names of the objects of two entities are the same only if the entities are. -/
theorem aggregateName_eq_iff (n : Naming) (a b : String) :
    n.aggregateName a = n.aggregateName b ↔ a = b := by
  simp [aggregateName, ← String.toList_inj]

/-- Names are read back from identifiers: that of a type in Pascal case, and that of an entity as it is. So
the identifiers of two types are the same exactly if their names are in Pascal case, and those of the objects
of two entities only if the entities are. -/
theorem baseName?_roundTrip (hm : n.marker ≠ "") :
    (∀ type, pascal type ≠ "" → n.baseName? (n.schemaName type) = some (pascal type)) ∧
      (∀ entity, entity ≠ "" → n.baseName? (n.aggregateName entity) = some entity) ∧
      (∀ a b, n.schemaName a = n.schemaName b ↔ pascal a = pascal b) ∧
      ∀ a b, n.aggregateName a = n.aggregateName b → a = b := by
  refine ⟨fun type h => ?_, fun entity h => ?_, n.schemaName_eq_iff, fun a b => ?_⟩
  · rw [baseName?_schemaName hm, if_neg h]
  · rw [baseName?_aggregateName hm, if_neg h]
  · exact (n.aggregateName_eq_iff a b).1

/-- A suffix that laps over itself, within the prefix and in front of the entity. -/
theorem baseName?_roundTrip_lapping :
    (⟨"zaa", "aa"⟩ : Naming).marker ≠ "" ∧
      (⟨"zaa", "aa"⟩ : Naming).aggregateName "zaaaa" = "zaazaaaaaa" ∧
      (⟨"zaa", "aa"⟩ : Naming).baseName? "zaazaaaaaa" = some "zaaaa" := by
  have hm : (⟨"zaa", "aa"⟩ : Naming).marker ≠ "" := by decide
  have hname : (⟨"zaa", "aa"⟩ : Naming).aggregateName "zaaaa" = "zaazaaaaaa" := by decide
  have hback := (baseName?_roundTrip hm).2.1 "zaaaa" (by decide)
  rw [hname] at hback
  exact ⟨hm, hname, hback⟩

end Naming

end SchemaGen
