import SchemaGen.Path
import SchemaGen.Proofs.Text.Encoding

namespace SchemaGen.FileName

open Text

variable {b : UInt8} {bytes : List UInt8} {n : FileName}

@[simp] theorem text_ofString (s : String) : (ofString s).text = s := by
  rw [text, looseText, ofString, decode_flatMap, String.ofList_toList]

theorem ofString_injective : Function.Injective ofString := Function.LeftInverse.injective text_ofString

theorem ofString_text (h : '\uFFFD' ∉ n.text.toList) : ofString n.text = n := by
  rw [text, looseText, String.toList_ofList] at h
  rw [text, looseText, ofString, String.toList_ofList, flatMap_decode _ h]

/-- A text without replacements is that of its own bytes only. -/
theorem eq_ofString_of_text {s : String} (htext : n.text = s) (h : '\uFFFD' ∉ s.toList) :
    n = ofString s := by
  subst htext
  exact (ofString_text h).symm

theorem text_ne_empty (h : n.bytes ≠ []) : n.text ≠ "" := by
  obtain ⟨b, bs, hcons⟩ := List.exists_cons_of_ne_nil h
  rw [text, looseText, hcons, Ne, String.ofList_eq_empty_iff, decode]
  split <;> exact List.cons_ne_nil _ _

theorem isText_iff : n.isText = true ↔ ∃ s, n = ofString s := by
  rw [isText, decide_eq_true_iff]
  constructor
  · exact fun h => ⟨n.text, h.symm⟩
  · rintro ⟨s, rfl⟩
    rw [text_ofString]

@[simp] theorem isText_ofString (s : String) : (ofString s).isText = true := isText_iff.2 ⟨s, rfl⟩

theorem slash_notMem_text (h : 0x2F ∉ n.bytes) : '/' ∉ n.text.toList := by
  rw [text, looseText, String.toList_ofList]
  exact fun hmem => h (mem_of_mem_decode (by decide) hmem)

theorem slash_notMem_ofString {s : String} (h : '/' ∉ s.toList) : 0x2F ∉ (ofString s).bytes := by
  intro hmem
  obtain ⟨c, hc, hbyte⟩ := List.mem_flatMap.1 hmem
  have hslash : c = '/' := Char.toNat_inj.1 (utf8EncodeChar_of_mem hbyte (by decide)).2
  exact h (hslash ▸ hc)

theorem bytes_ofString_ne_nil {s : String} (h : s ≠ "") : (ofString s).bytes ≠ [] := by
  intro hnil
  have hempty : ofString s = ofString "" := congrArg FileName.mk hnil
  exact h (ofString_injective hempty)

theorem mem_stemBytes (h : b ∈ stemBytes bytes) : b ∈ bytes ∨ b = 0x2E := by
  unfold stemBytes at h
  split at h
  · exact .inl h
  · exact .inl h
  · exact .inr (by simpa using h)
  · next first before _ _ hcut =>
    left
    have hsuffix := List.dropWhile_suffix (· ≠ 0x2E) (l := bytes.reverse)
    rw [hcut] at hsuffix
    exact List.mem_reverse.1 (hsuffix.subset (List.mem_cons_of_mem _ (List.mem_reverse.1 h)))

theorem stemBytes_ne_nil (h : bytes ≠ []) : stemBytes bytes ≠ [] := by
  unfold stemBytes
  split
  · exact h
  · exact h
  · exact List.cons_ne_nil _ _
  · next first before hone _ hcut =>
    intro hnil
    exact hone (List.reverse_eq_nil_iff.1 hnil)

theorem isText_stem (h : n.isText = true) : n.stem.isText = true := by
  obtain ⟨s, rfl⟩ := isText_iff.1 h
  unfold stem stemBytes
  split
  · exact h
  · exact h
  · exact isText_iff.2 ⟨"..", by decide⟩
  · next first before _ _ hcut =>
    have hdot : first = 0x2E := by
      have hhead := List.head?_dropWhile_not (· ≠ 0x2E) (ofString s).bytes.reverse
      rw [hcut, List.head?_cons] at hhead
      simpa using hhead
    obtain ⟨after, hafter⟩ := List.dropWhile_suffix (· ≠ 0x2E) (l := (ofString s).bytes.reverse)
    rw [hcut] at hafter
    have hsplit : (ofString s).bytes = before.reverse ++ first :: after.reverse := by
      rw [← List.reverse_reverse (ofString s).bytes, ← hafter]
      simp
    obtain ⟨start, -, -, -, hstart, -⟩ := flatMap_utf8EncodeChar_split (by rw [hdot]; decide) hsplit
    refine isText_iff.2 ⟨String.ofList start, congrArg FileName.mk ?_⟩
    rw [String.toList_ofList, hstart]

end SchemaGen.FileName
