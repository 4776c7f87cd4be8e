import Mathlib.Algebra.Order.BigOperators.Group.Finset

/-!
# `Lib.Lru` — recency lists, and counters of what is stored

A recency list has each key once, the one used last at its end. `touch` moves a key there; a list that is only ever
touched is the history of the uses with all but the last use of each key left out (`dedup_concat`).

A counter of what is stored under all keys together follows the sum over the keys, one of which changes at a time:
`sum_exchange`.
-/

namespace Lib

open List

variable {κ : Type*} [DecidableEq κ]

/-- The key becomes the most recent one. -/
def touch (k : κ) (l : List κ) : List κ := l.filter (· ≠ k) ++ [k]

theorem mem_touch {k x : κ} {l : List κ} : x ∈ touch k l ↔ x = k ∨ x ∈ l := by
  unfold touch
  simp only [mem_append, mem_filter, mem_singleton, decide_eq_true_eq]
  tauto

/-- **One more use** makes the key the most recent of the history. -/
theorem dedup_concat (k : κ) (uses : List κ) : (uses ++ [k]).dedup = touch k uses.dedup := by
  induction uses with
  | nil => rfl
  | cons x uses ih =>
    rw [cons_append, dedup_cons, dedup_cons, ih]
    by_cases hmem : x ∈ uses
    · rw [if_pos (mem_append_left _ hmem), if_pos hmem]
    · rw [if_neg hmem]
      by_cases hk : x = k
      · rw [if_pos (by rw [hk]; exact mem_append_right _ (mem_singleton_self _))]
        unfold touch
        rw [filter_cons_of_neg (by simpa using hk)]
      · rw [if_neg (by simp [hmem, hk])]
        unfold touch
        rw [filter_cons_of_pos (by simpa using hk)]
        rfl

/-- Where a list without duplicates starts with the element found, the rest is found without it. -/
theorem filter_find {p : κ → Bool} {l : List κ} {k : κ} (hl : l.Nodup) (h : l.find? p = some k) :
    l.filter p = k :: (l.filter (· ≠ k)).filter p := by
  have hhead : (l.filter p).head? = some k := by rw [head?_filter, h]
  have hnodup := hl.filter p
  have hcomm : (l.filter (· ≠ k)).filter p = (l.filter p).filter (· ≠ k) := filter_comm ..
  rw [hcomm]
  cases hf : l.filter p with
  | nil =>
    rw [hf] at hhead
    cases hhead
  | cons x rest =>
    rw [hf] at hhead hnodup
    cases hhead
    have hrest : rest.filter (· ≠ k) = rest := by
      refine filter_eq_self.mpr fun x hx => decide_eq_true ?_
      rintro rfl
      exact (nodup_cons.mp hnodup).1 hx
    rw [filter_cons_of_neg (by simp), hrest]

/-- **One key changes the sum by its own part**, over whatever keys the two sums are taken. -/
theorem sum_exchange {s s' : Finset κ} {w w' : κ → Nat} (hs : ∀ x, x ∉ s → w x = 0) (hs' : ∀ x, x ∉ s' → w' x = 0)
    (k : κ) (h : ∀ x, x ≠ k → w' x = w x) : ∑ x ∈ s', w' x + w k = ∑ x ∈ s, w x + w' k := by
  let keys := insert k (s ∪ s')
  have hk : k ∈ keys := Finset.mem_insert_self ..
  have hw : ∑ x ∈ s, w x = ∑ x ∈ keys, w x :=
    Finset.sum_subset (Finset.subset_union_left.trans (Finset.subset_insert ..)) fun x _ hx => hs x hx
  have hw' : ∑ x ∈ s', w' x = ∑ x ∈ keys, w' x :=
    Finset.sum_subset (Finset.subset_union_right.trans (Finset.subset_insert ..)) fun x _ hx => hs' x hx
  have hrest : ∑ x ∈ keys.erase k, w' x = ∑ x ∈ keys.erase k, w x :=
    Finset.sum_congr rfl fun x hx => h x (Finset.ne_of_mem_erase hx)
  rw [hw, hw', ← Finset.add_sum_erase keys _ hk, ← Finset.add_sum_erase keys w hk]
  omega

end Lib
