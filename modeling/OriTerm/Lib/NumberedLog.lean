import Mathlib.Data.List.Basic

/-!
# `Lib.NumberedLog` — a log whose entries keep their numbers

A log grows at its new end and is truncated at its old end. Entry number `base` is the oldest one held, and an
entry keeps its number for as long as it is held: `get? s` is the entry with number `s`.

`Advances l l'` says that `l'` comes from `l` by appending and then dropping the oldest entries, with `base`
counting what was dropped. It is closed under composition, and it is all that is needed for numbers to be
identities:

* `Advances.get?` — a number handed out in `l` that is still held in `l'` names the same entry;
* `Advances.dropped` — a number handed out and no longer held is never held again.

Nothing here mentions a particular program.
-/

namespace Lib

open List

/-- The entries held, oldest first, and the number of the oldest. -/
structure NumberedLog (α : Type*) where
  base : Nat
  items : List α

namespace NumberedLog

variable {α : Type*} {l l' l'' : NumberedLog α} {s : Nat} {a : α}

/-- The entry with number `s`, if it is held. -/
def get? (l : NumberedLog α) (s : Nat) : Option α := if s < l.base then none else l.items[s - l.base]?

/-- The first number not handed out yet. -/
def next (l : NumberedLog α) : Nat := l.base + l.items.length

theorem get?_eq_none_iff : l.get? s = none ↔ s < l.base ∨ l.next ≤ s := by
  unfold get? next
  by_cases h : s < l.base
  · simp [h]
  · rw [if_neg h, getElem?_eq_none_iff]
    omega

/-- Entries are appended, then the oldest ones are dropped and counted. -/
def Advances (l l' : NumberedLog α) : Prop :=
  ∃ (dropped : Nat) (fresh : List α), l'.base = l.base + dropped
    ∧ l'.items = (l.items ++ fresh).drop dropped ∧ dropped ≤ (l.items ++ fresh).length

@[refl] theorem Advances.refl (l : NumberedLog α) : Advances l l := ⟨0, [], rfl, by simp, Nat.zero_le _⟩

section

variable (h : Advances l l')
include h

theorem Advances.trans (h' : Advances l' l'') : Advances l l'' := by
  obtain ⟨k, fresh, hbase, hitems, hk⟩ := h
  obtain ⟨k', fresh', hbase', hitems', hk'⟩ := h'
  have happend : l'.items ++ fresh' = (l.items ++ (fresh ++ fresh')).drop k := by
    rw [hitems, ← append_assoc, drop_append_of_le_length hk]
  refine ⟨k + k', fresh ++ fresh', by omega, ?_, ?_⟩
  · rw [hitems', happend, drop_drop]
  · rw [happend, length_drop] at hk'
    rw [← append_assoc, length_append]
    rw [← append_assoc, length_append] at hk'
    omega

/-- The lookup after an advance reads the extended log, where it is still held. -/
theorem Advances.get?_eq : ∃ fresh, ∀ s, l'.get? s = if s < l'.base then none else (l.items ++ fresh)[s - l.base]? := by
  obtain ⟨k, fresh, hbase, hitems, _⟩ := h
  refine ⟨fresh, fun s => ?_⟩
  unfold get?
  by_cases hs : s < l'.base
  · rw [if_pos hs, if_pos hs]
  · rw [if_neg hs, if_neg hs, hitems, getElem?_drop]
    congr 1
    omega

/-- **Numbers are identities**: a number handed out that is still held names the same entry. -/
theorem Advances.get? (hs : s < l.next) (ha : l'.get? s = some a) : l.get? s = some a := by
  obtain ⟨k, fresh, hbase, _⟩ := id h
  obtain ⟨fresh, hget⟩ := h.get?_eq
  rw [hget] at ha
  by_cases hlow : s < l'.base
  · rw [if_pos hlow] at ha
    cases ha
  · rw [if_neg hlow, getElem?_append_left (by unfold next at hs; omega)] at ha
    unfold NumberedLog.get?
    rw [if_neg (by omega), ha]

/-- The numbers handed out stay handed out. -/
theorem Advances.next_le : l.next ≤ l'.next := by
  obtain ⟨k, fresh, hbase, hitems, hk⟩ := h
  unfold next
  rw [hitems, length_drop]
  rw [length_append] at hk ⊢
  omega

theorem Advances.base_le : l.base ≤ l'.base := by
  obtain ⟨k, _, hbase, _⟩ := h
  omega

/-- **A dropped number is never held again.** -/
theorem Advances.dropped (hs : s < l.next) (hnone : l.get? s = none) : l'.get? s = none := by
  rcases get?_eq_none_iff.mp hnone with hlow | hhigh
  · have := h.base_le
    exact get?_eq_none_iff.mpr (.inl (by omega))
  · omega

end

end NumberedLog

end Lib
