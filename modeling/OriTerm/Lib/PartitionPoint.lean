import Mathlib.Data.List.Basic

/-!
# `Lib.PartitionPoint` — binary search for the end of a prefix

`partitionPoint` halves the list until one element is left. In a list whose elements satisfy a predicate up to some
index and from there on do not, it finds that index.

* **`partitionPoint_eq`** — the index that parts the list is found.
-/

namespace Lib

variable {α : Type}

/-- Halves the range of `size` indices from `base` on. -/
def partitionLoop (pred : Nat → Bool) : Nat → Nat → Nat → Nat
  | 0, base, _ => base
  | fuel + 1, base, size =>
    if 1 < size then
      let half := size / 2
      let mid := base + half
      partitionLoop pred fuel (if pred mid then mid else base) (size - half)
    else base

/-- The number of elements in front that satisfy the predicate. -/
def partitionPoint (pred : α → Bool) (l : List α) : Nat :=
  if l = [] then 0
  else
    let holdsAt i := (l[i]?).any pred
    let base := partitionLoop holdsAt l.length 0 l.length
    base + if holdsAt base then 1 else 0

/-- The last index that satisfies the predicate is found, or the first one when none does: it stays among the `size`
indices from `base` on. -/
theorem partitionLoop_spec {pred : Nat → Bool} {k n : Nat} (hpred : ∀ i < n, pred i = true ↔ i < k) {fuel base size : Nat}
    (hfuel : size ≤ fuel) (hsize : 0 < size) (hn : base + size ≤ n) (hbase : base < k ∨ base = 0)
    (hk : k ≤ base + size) :
    partitionLoop pred fuel base size < n ∧
      (partitionLoop pred fuel base size < k ∨ partitionLoop pred fuel base size = 0) ∧ k ≤ partitionLoop pred fuel base size + 1 := by
  induction fuel generalizing base size with
  | zero => omega
  | succ fuel ih =>
    rw [partitionLoop]
    by_cases hmore : 1 < size
    · rw [if_pos hmore]
      have hmid := hpred (base + size / 2) (by omega)
      by_cases hin : base + size / 2 < k
      · dsimp only
        rw [if_pos (hmid.mpr hin)]
        exact @ih (base + size / 2) (size - size / 2) (by omega) (by omega) (by omega) (.inl hin) (by omega)
      · dsimp only
        rw [if_neg fun h => hin (hmid.mp h)]
        exact @ih base (size - size / 2) (by omega) (by omega) (by omega) hbase (by omega)
    · rw [if_neg hmore]
      omega

/-- **The index that parts the list is found.** -/
theorem partitionPoint_eq {pred : α → Bool} {l : List α} {k : Nat} (hk : k ≤ l.length)
    (hpred : ∀ i x, l[i]? = some x → (pred x = true ↔ i < k)) : partitionPoint pred l = k := by
  unfold partitionPoint
  by_cases hnil : l = []
  · rw [if_pos hnil]
    rw [hnil] at hk
    exact (Nat.le_zero.mp hk).symm
  · rw [if_neg hnil]
    have hlen := List.length_pos_iff.mpr hnil
    have hat : ∀ i < l.length, (l[i]?).any pred = true ↔ i < k := by
      intro i hi
      rw [List.getElem?_eq_getElem hi]
      exact hpred i _ (List.getElem?_eq_getElem hi)
    obtain ⟨hlt, hbelow, habove⟩ := partitionLoop_spec hat (Nat.le_refl l.length) hlen (by omega) (.inr rfl) (by omega)
    show partitionLoop _ l.length 0 l.length + (if (l[partitionLoop _ l.length 0 l.length]?).any pred then 1 else 0) = k
    generalize partitionLoop (fun i => (l[i]?).any pred) l.length 0 l.length = base at hlt hbelow habove ⊢
    by_cases hin : base < k
    · rw [if_pos ((hat _ hlt).mpr hin)]
      omega
    · rw [if_neg fun h => hin ((hat _ hlt).mp h)]
      omega

end Lib
