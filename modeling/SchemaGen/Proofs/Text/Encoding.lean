import Mathlib.Tactic.Common
import SchemaGen.Path

namespace SchemaGen.Text

variable {b : UInt8} {bs bytes before after : List UInt8} {c : Char} {cs : List Char}

/-- A character is one byte below 128, its code, or bytes that are none of these. -/
theorem utf8EncodeChar_cases (c : Char) :
    (c.toNat < 128 ∧ String.utf8EncodeChar c = [UInt8.ofNat c.toNat]) ∨
      128 ≤ c.toNat ∧ ∀ b ∈ String.utf8EncodeChar c, 128 ≤ b.toNat := by
  have hval : c.val.toNat = c.toNat := rfl
  unfold String.utf8EncodeChar
  dsimp only
  rw [hval]
  split_ifs with hone htwo hthree
  · exact .inl ⟨by omega, rfl⟩
  all_goals
    refine .inr ⟨by omega, ?_⟩
    simp only [List.forall_mem_cons, List.not_mem_nil, false_imp_iff, implies_true, and_true,
      UInt8.toNat_ofNat']
    omega

theorem utf8EncodeChar_ne_nil (c : Char) : String.utf8EncodeChar c ≠ [] := by
  rw [← List.length_pos_iff, String.length_utf8EncodeChar]
  exact c.utf8Size_pos

/-- A byte below 128 is the character of that code. -/
theorem utf8EncodeChar_of_mem (h : b ∈ String.utf8EncodeChar c) (hb : b.toNat < 128) :
    String.utf8EncodeChar c = [b] ∧ c.toNat = b.toNat := by
  rcases utf8EncodeChar_cases c with ⟨hc, hone⟩ | ⟨-, hmany⟩
  · rw [hone] at h ⊢
    obtain rfl := List.mem_singleton.1 h
    refine ⟨rfl, ?_⟩
    rw [UInt8.toNat_ofNat']
    omega
  · exact absurd (hmany b h) (by omega)

/-- Bytes of a text part at a byte below 128 into those of two texts. -/
theorem flatMap_utf8EncodeChar_split (hb : b.toNat < 128)
    (h : cs.flatMap String.utf8EncodeChar = before ++ b :: after) :
    ∃ first c rest, cs = first ++ c :: rest ∧ first.flatMap String.utf8EncodeChar = before ∧
      c.toNat = b.toNat := by
  induction cs generalizing before with
  | nil => exact absurd h.symm (by simp)
  | cons c cs ih =>
    rw [List.flatMap_cons] at h
    rcases List.append_eq_append_iff.1 h with ⟨middle, hbefore, hrest⟩ | ⟨middle, hchar, hrest⟩
    · obtain ⟨first, d, rest, rfl, rfl, hd⟩ := ih hrest
      exact ⟨c :: first, d, rest, rfl, hbefore.symm, hd⟩
    · cases middle with
      | nil =>
        have hafter : cs.flatMap String.utf8EncodeChar = [] ++ b :: after := hrest.symm
        obtain ⟨first, d, rest, rfl, hnil, hd⟩ := ih hafter
        refine ⟨c :: first, d, rest, rfl, ?_, hd⟩
        rw [List.flatMap_cons, hnil, hchar, List.append_nil, List.append_nil]
      | cons d middle =>
        obtain ⟨rfl, -⟩ := List.cons.inj hrest
        have hmem : b ∈ String.utf8EncodeChar c := by simp [hchar]
        obtain ⟨hone, hc⟩ := utf8EncodeChar_of_mem hmem hb
        have hnil : before = [] := by
          have hlength := congrArg List.length (hone.symm.trans hchar)
          simp only [List.length_append, List.length_cons, List.length_nil] at hlength
          exact List.eq_nil_of_length_eq_zero (by omega)
        exact ⟨[], c, cs, rfl, hnil.symm, hc⟩

theorem decode_eq_drop (skip : Nat) (bytes : List UInt8) :
    decode skip bytes = decode 0 (bytes.drop skip) := by
  induction bytes generalizing skip with
  | nil => rw [List.drop_nil, decode, decode]
  | cons b bs ih =>
    cases skip with
    | zero => rfl
    | succ skip => exact ih skip

/-- A character decoded first is what the bytes begin with, and the rest is decoded behind it. -/
theorem decode_of_some (h : (b :: bs).toByteArray.utf8DecodeChar? 0 = some c) :
    ∃ rest, b :: bs = String.utf8EncodeChar c ++ rest ∧ decode 0 (b :: bs) = c :: decode 0 rest := by
  obtain ⟨rest, hrest⟩ : String.utf8EncodeChar c <+: b :: bs := by
    have hdata := congrArg (·.data.toList) (ByteArray.eq_of_utf8DecodeChar?_eq_some h)
    simp only [List.data_toByteArray, ByteArray.data_append, Array.toList_append] at hdata
    exact ⟨_, hdata.symm⟩
  refine ⟨rest, hrest.symm, ?_⟩
  rw [decode, h]
  dsimp only
  rw [decode_eq_drop, ← List.drop_succ_cons, Nat.sub_add_cancel c.utf8Size_pos, ← hrest,
    ← String.length_utf8EncodeChar, List.drop_left]

theorem decode_append (c : Char) (bytes : List UInt8) :
    decode 0 (String.utf8EncodeChar c ++ bytes) = c :: decode 0 bytes := by
  obtain ⟨b, bs, hcons⟩ := List.exists_cons_of_ne_nil (utf8EncodeChar_ne_nil c)
  have hsome : (b :: (bs ++ bytes)).toByteArray.utf8DecodeChar? 0 = some c := by
    rw [← List.cons_append, ← hcons, List.toByteArray_append]
    exact ByteArray.utf8DecodeChar?_utf8EncodeChar_append
  obtain ⟨rest, hrest, hdecode⟩ := decode_of_some hsome
  rw [← List.cons_append, ← hcons] at hrest hdecode
  rw [hdecode, List.append_cancel_left hrest]

theorem decode_flatMap (cs : List Char) : decode 0 (cs.flatMap String.utf8EncodeChar) = cs := by
  induction cs with
  | nil => rfl
  | cons c cs ih => rw [List.flatMap_cons, decode_append, ih]

/-- Bytes in whose place no replacement was read are those of the characters read. -/
theorem flatMap_decode (bytes : List UInt8) (h : '\uFFFD' ∉ decode 0 bytes) :
    (decode 0 bytes).flatMap String.utf8EncodeChar = bytes := by
  match bytes with
  | [] => rfl
  | b :: bs =>
    cases hc : (b :: bs).toByteArray.utf8DecodeChar? 0 with
    | none =>
      rw [decode, hc] at h
      exact absurd List.mem_cons_self h
    | some c =>
      obtain ⟨rest, hrest, hdecode⟩ := decode_of_some hc
      have hlength : rest.length < (b :: bs).length := by
        rw [hrest, List.length_append, String.length_utf8EncodeChar]
        have hsize := c.utf8Size_pos
        omega
      rw [hdecode] at h ⊢
      rw [List.flatMap_cons, flatMap_decode rest (fun hmem => h (List.mem_cons_of_mem _ hmem)), ← hrest]
termination_by bytes.length
decreasing_by exact hlength

/-- A character below 128 is decoded only from its byte. -/
theorem mem_of_mem_decode {skip : Nat} (hc : c.toNat < 128) (h : c ∈ decode skip bytes) :
    UInt8.ofNat c.toNat ∈ bytes := by
  have hencode : String.utf8EncodeChar c = [UInt8.ofNat c.toNat] :=
    ((utf8EncodeChar_cases c).resolve_right fun hmany => absurd hmany.1 (by omega)).2
  induction bytes generalizing skip with
  | nil => exact absurd h (by rw [decode]; exact List.not_mem_nil)
  | cons b bs ih =>
    cases skip with
    | succ skip => exact List.mem_cons_of_mem _ (ih h)
    | zero =>
      cases hd : (b :: bs).toByteArray.utf8DecodeChar? 0 with
      | none =>
        rw [decode, hd] at h
        rcases List.mem_cons.1 h with rfl | h
        · exact absurd hc (by decide)
        · exact List.mem_cons_of_mem _ (ih h)
      | some d =>
        obtain ⟨rest, hrest, -⟩ := decode_of_some hd
        rw [decode, hd] at h
        rcases List.mem_cons.1 h with rfl | h
        · rw [hrest, hencode]
          exact List.mem_cons_self
        · exact List.mem_cons_of_mem _ (ih h)

end SchemaGen.Text
