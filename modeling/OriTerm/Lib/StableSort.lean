import Mathlib.Data.List.Perm.Basic

/-!
# `Lib.StableSort` — a stable sort that moves one element

A sorted list in which one element has got a new key is sorted again. A stable sort leaves the others in their order,
so an element above all others goes to the end and one below all others to the front.

* **`mergeSort_above`**, **`mergeSort_below`** — the two moves.
-/

namespace Lib.StableSort

open List

variable {α : Type}

/-- A list one longer than a sublist of it has one element more. -/
theorem exists_insert_of_sublist {l r : List α} (h : l.Sublist r) (hlen : r.length = l.length + 1) :
    ∃ l₁ x l₂, l = l₁ ++ l₂ ∧ r = l₁ ++ x :: l₂ := by
  induction h with
  | slnil => cases hlen
  | @cons l r x hsub ih =>
    have heq : l = r := hsub.eq_of_length (by simpa using hlen.symm)
    exact ⟨[], x, l, rfl, by rw [heq]; rfl⟩
  | @cons_cons l r a hsub ih =>
    obtain ⟨l₁, x, l₂, rfl, rfl⟩ := ih (by simpa using hlen)
    exact ⟨a :: l₁, x, l₂, rfl, rfl⟩

section Stable

variable {le : α → α → Bool} (trans : ∀ a b c, le a b → le b c → le a c) (total : ∀ a b, le a b || le b a)

include trans total

section

variable {l₁ l₂ : List α} (x : α) (hsorted : (l₁ ++ l₂).Pairwise (fun a b => le a b))
include x hsorted

/-- The sort puts the element with the new key somewhere among the others, which stay in order. -/
theorem mergeSort_insert : ∃ m₁ m₂, l₁ ++ l₂ = m₁ ++ m₂ ∧ (l₁ ++ x :: l₂).mergeSort le = m₁ ++ x :: m₂ := by
  have hsub : (l₁ ++ l₂).Sublist ((l₁ ++ x :: l₂).mergeSort le) :=
    sublist_mergeSort trans total hsorted ((sublist_cons_self x l₂).append_left l₁)
  have hperm := mergeSort_perm (l₁ ++ x :: l₂) le
  obtain ⟨m₁, y, m₂, hm, hr⟩ := exists_insert_of_sublist hsub (by rw [hperm.length_eq]; simp; omega)
  have hy : y = x := by
    rw [hr] at hperm
    have h₁ : (y :: (m₁ ++ m₂)).Perm (x :: (l₁ ++ l₂)) :=
      perm_middle.symm.trans (hperm.trans perm_middle)
    rw [← hm] at h₁
    have h₂ : ([y] ++ (l₁ ++ l₂)).Perm ([x] ++ (l₁ ++ l₂)) := h₁
    rw [perm_append_right_iff] at h₂
    exact singleton_perm_singleton.mp h₂
  exact ⟨m₁, m₂, hm, by rw [hr, hy]⟩

/-- An element above all others goes to the end. -/
theorem mergeSort_above (habove : ∀ y ∈ l₁ ++ l₂, le x y = false) : (l₁ ++ x :: l₂).mergeSort le = l₁ ++ l₂ ++ [x] := by
  obtain ⟨m₁, m₂, hm, hr⟩ := mergeSort_insert trans total x hsorted
  have hall := pairwise_mergeSort trans total (l₁ ++ x :: l₂)
  rw [hr, pairwise_append, pairwise_cons] at hall
  cases m₂ with
  | nil => rw [hr, hm, append_nil]
  | cons y m₂ =>
    have hle := hall.2.1.1 y mem_cons_self
    have := habove y (hm ▸ mem_append_right m₁ mem_cons_self)
    exact absurd (hle.symm.trans this) nofun

/-- An element below all others goes to the front. -/
theorem mergeSort_below (hbelow : ∀ y ∈ l₁ ++ l₂, le y x = false) : (l₁ ++ x :: l₂).mergeSort le = x :: (l₁ ++ l₂) := by
  obtain ⟨m₁, m₂, hm, hr⟩ := mergeSort_insert trans total x hsorted
  have hall := pairwise_mergeSort trans total (l₁ ++ x :: l₂)
  rw [hr, pairwise_append] at hall
  cases m₁ with
  | nil => rw [hr, hm]; rfl
  | cons y m₁ =>
    have hle := hall.2.2 y mem_cons_self x mem_cons_self
    have := hbelow y (hm ▸ mem_append_left m₂ mem_cons_self)
    exact absurd (hle.symm.trans this) nofun

end

end Stable

end Lib.StableSort
