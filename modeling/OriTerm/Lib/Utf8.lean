import Mathlib.Data.List.Infix

/-!
# `Lib.Utf8` — the bytes of a text

Only ASCII characters have ASCII bytes (`toNat_eq_of_mem`), so a byte below 128 says which character it is. Decoding
is strict: `decodeStrict` gives a text back just for its own bytes (`decodeStrict_eq_some_iff`).
-/

namespace Lib.Utf8

open List

/-- A byte below 128 is a character by itself. -/
theorem toNat_eq_of_mem {c : Char} {b : UInt8} (hb : b ∈ String.utf8EncodeChar c) (hlt : b.toNat < 128) :
    c.val.toNat = b.toNat := by
  have hbyte : ∀ n : Nat, (UInt8.ofNat n).toNat < 128 → 128 ≤ n % 256 → c.val.toNat = (UInt8.ofNat n).toNat := by
    intro n hn hge
    have hsmall : n % 256 < 128 := hn
    omega
  unfold String.utf8EncodeChar at hb
  dsimp only at hb
  -- the branches have one to four bytes
  split_ifs at hb
  case pos h =>
    rw [mem_singleton] at hb
    subst hb
    exact (Nat.mod_eq_of_lt (by omega)).symm
  all_goals
    simp only [List.mem_cons, List.not_mem_nil, or_false] at hb
    rcases hb with rfl | rfl | rfl | rfl
    all_goals exact hbyte _ hlt (by omega)

/-- The bytes of a text. -/
def bytes (s : String) : List UInt8 := s.toUTF8.toList

theorem toList_loop (a : ByteArray) (i : Nat) (r : List UInt8) :
    ByteArray.toList.loop a i r = r.reverse ++ a.data.toList.drop i := by
  unfold ByteArray.toList.loop
  split
  · rename_i h
    have hi : i < a.data.toList.length := h
    have hget : a.get! i = a.data.toList[i] := getElem!_pos a.data i h
    rw [toList_loop, List.drop_eq_getElem_cons hi, hget, reverse_cons, append_assoc]
    rfl
  · rename_i h
    rw [List.drop_eq_nil_of_le (Nat.le_of_not_lt h), append_nil]
termination_by a.size - i

theorem toList_eq (a : ByteArray) : a.toList = a.data.toList := toList_loop a 0 []

theorem bytes_eq_flatMap (s : String) : bytes s = s.toList.flatMap String.utf8EncodeChar := by
  unfold bytes
  rw [toList_eq, String.toUTF8_eq_toByteArray, ← String.utf8Encode_toList]
  exact List.toList_data_toByteArray

/-- An ASCII character stands in a text just when its byte does. -/
theorem mem_bytes_iff (s : String) {c : Char} (h : c.val.toNat < 128) :
    c.val.toNat.toUInt8 ∈ bytes s ↔ c ∈ s.toList := by
  have hself : (c.val.toNat.toUInt8).toNat = c.val.toNat := UInt8.toNat_ofNat_of_lt' (h.trans (by decide))
  rw [bytes_eq_flatMap, mem_flatMap]
  constructor
  · rintro ⟨d, hd, hmem⟩
    have heq := toNat_eq_of_mem hmem (by omega)
    rw [hself] at heq
    rwa [← Char.ext (UInt32.toNat_inj.mp heq)]
  · intro hmem
    refine ⟨c, hmem, ?_⟩
    unfold String.utf8EncodeChar
    rw [if_pos (by omega)]
    exact mem_singleton_self _

/-- `str::from_utf8`. -/
def decodeStrict (data : List UInt8) : Option String := String.fromUTF8? ⟨data.toArray⟩

/-- **Only its own bytes decode to a text.** -/
theorem decodeStrict_eq_some_iff (data : List UInt8) (s : String) : decodeStrict data = some s ↔ bytes s = data := by
  unfold decodeStrict String.fromUTF8? bytes
  rw [toList_eq]
  constructor
  · intro h
    split_ifs at h
    cases h
    rfl
  · rintro rfl
    exact dif_pos s.isValidUTF8

end Lib.Utf8
