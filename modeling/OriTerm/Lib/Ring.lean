import Mathlib.Data.List.Rotate
import Mathlib.Data.Nat.ModEq

/-!
# `Lib.Ring` — a window of a cyclic buffer

A cyclic buffer stores its elements in a list `l` with a start index `s`; the `n` elements it holds are the
first `n` of `l` read cyclically from `s`. That view is `window l s n`, written with Mathlib's `List.rotate`.
The lemmas say what the usual slot assignments do to the view: filling the slot behind the window extends it
(`window_set_end`), overwriting the oldest element and advancing the start shifts it (`window_advance`), and a
write to the slot behind the window does not show (`window_set_behind`).
-/

namespace Lib

open List

variable {α : Type*}

/-- The `n` elements of the cyclic list `l` from index `s` on. -/
def window (l : List α) (s n : Nat) : List α := (l.rotate s).take n

variable {l : List α}

@[simp] theorem length_window {n : Nat} (s : Nat) (h : n ≤ l.length) : (window l s n).length = n := by
  simp [window, h]

@[simp] theorem window_zero (l : List α) (s : Nat) : window l s 0 = [] := by simp [window]

theorem getElem?_window {s n i : Nat} (h : i < n) (hn : n ≤ l.length) :
    (window l s n)[i]? = l[(s + i) % l.length]? := by
  unfold window
  rw [getElem?_take, if_pos h, getElem?_rotate (by omega), Nat.add_comm]

/-- A write to a slot, seen in the rotated list. -/
theorem rotate_set {i : Nat} (s : Nat) (a : α) (hi : i < l.length) :
    (l.set ((s + i) % l.length) a).rotate s = (l.rotate s).set i a := by
  apply ext_getElem?
  intro j
  by_cases hj : j < l.length
  · have hl : 0 < l.length := by omega
    have hslot : (s + i) % l.length < l.length := Nat.mod_lt _ hl
    rw [getElem?_rotate (by simpa using hj), length_set, getElem?_set,
      getElem?_set, getElem?_rotate hj]
    by_cases hij : i = j
    · subst hij
      rw [Nat.add_comm i, if_pos rfl, if_pos rfl, if_pos hslot, if_pos (by rw [length_rotate]; exact hi)]
    · -- two offsets below the length that reach the same slot are equal
      have hne : (s + i) % l.length ≠ (j + s) % l.length := by
        intro he
        apply hij
        have hmod : Nat.ModEq l.length i j := by
          apply Nat.ModEq.add_left_cancel' s
          rw [Nat.add_comm s j]
          exact he
        exact Nat.ModEq.eq_of_lt_of_lt hmod hi hj
      rw [if_neg hne, if_neg hij]
  · rw [getElem?_eq_none (by simp; omega), getElem?_eq_none (by simp; omega)]

/-- Filling the slot behind the window extends the window at its end. -/
theorem window_set_end {n : Nat} (s : Nat) (a : α) (h : n < l.length) :
    window (l.set ((s + n) % l.length) a) s (n + 1) = window l s n ++ [a] := by
  unfold window
  rw [rotate_set s a h, take_add_one, take_set_of_le (Nat.le_refl n)]
  simp [h]

/-- Extending the storage of an unrotated buffer extends the window at its end. -/
theorem window_append (l : List α) (a : α) : window (l ++ [a]) 0 (l.length + 1) = window l 0 l.length ++ [a] := by
  simp [window]

/-- Overwriting the oldest element of a full buffer and advancing the start drops it from the window and
    appends the new one. -/
theorem window_advance {s : Nat} (a : α) (hs : s < l.length) :
    window (l.set s a) ((s + 1) % l.length) l.length = (window l s l.length).tail ++ [a] := by
  have hslot : (s + 0) % l.length = s := by rw [Nat.add_zero, Nat.mod_eq_of_lt hs]
  have hset : (l.set s a).rotate s = (l.rotate s).set 0 a := by
    rw [← rotate_set s a (by omega : 0 < l.length), hslot]
  have hrot : (l.set s a).rotate ((s + 1) % l.length) = ((l.rotate s).set 0 a).rotate 1 := by
    rw [← hset, rotate_rotate, ← rotate_mod (l.set s a) (s + 1), length_set]
  unfold window
  rw [hrot]
  have hlen : (l.rotate s).length = l.length := length_rotate ..
  cases hr : l.rotate s with
  | nil => simp [hr] at hlen; omega
  | cons b t =>
    rw [hr] at hlen
    simp [← hlen]

/-- The oldest element is the one at the start slot. -/
theorem head?_window {s n : Nat} (hs : s < l.length) (hn : 0 < n) (hle : n ≤ l.length) :
    (window l s n).head? = l[s]? := by
  rw [head?_eq_getElem?, getElem?_window hn hle, Nat.add_zero, Nat.mod_eq_of_lt hs]

/-- A write to the slot behind the window does not show. -/
theorem window_set_behind {n : Nat} (s : Nat) (a : α) (h : n < l.length) :
    window (l.set ((s + n) % l.length) a) s n = window l s n := by
  unfold window
  rw [rotate_set s a h, take_set_of_le (Nat.le_refl n)]

/-- The window without its newest element. -/
theorem dropLast_window {n : Nat} (s : Nat) (h : n < l.length) : (window l s (n + 1)).dropLast = window l s n := by
  unfold window
  have hlen : ((l.rotate s).take (n + 1)).length = n + 1 := by
    rw [length_take, length_rotate]
    omega
  rw [dropLast_eq_take, hlen, take_take, Nat.add_sub_cancel,
    Nat.min_eq_left (Nat.le_succ n)]

end Lib
