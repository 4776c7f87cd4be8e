import Mathlib.Order.Lattice
import Mathlib.Data.List.Induction

/-!
# `Lib.FirstBest` — the first best of a list

A loop that scores some of the elements of a list and keeps the best so far, replacing it only by a better one. Scores
need an order only where they occur: `Good` scores are compared by a key.

* **`firstBest_spec`** — what is kept is scored, and nothing is better.
-/

namespace Lib

open List Option

variable {α β : Type}

/-- One round of the loop. -/
def keepBetter (better : β → β → Bool) (score : α → Option β) (best : Option (α × β)) (x : α) : Option (α × β) :=
  match score x with
  | none => best
  | some s => if best.all fun b => better s b.2 then some (x, s) else best

/-- The first best element with its score. -/
def firstBest (better : β → β → Bool) (score : α → Option β) (l : List α) : Option (α × β) :=
  l.foldl (keepBetter better score) none

variable {K : Type} [LinearOrder K] {better : β → β → Bool} {score : α → Option β}

theorem firstBest_concat (l : List α) (x : α) :
    firstBest better score (l ++ [x]) = keepBetter better score (firstBest better score l) x := by
  unfold firstBest
  rw [foldl_append]
  rfl

/-- **The loop finds a best element, if there is one to score.** -/
theorem firstBest_spec (Good : β → Prop) (key : β → K)
    (hbetter : ∀ s t, Good s → Good t → (better s t = true ↔ key s < key t)) {l : List α}
    (hgood : ∀ x ∈ l, ∀ s, score x = some s → Good s) :
    (firstBest better score l = none ↔ ∀ x ∈ l, score x = none) ∧
      ∀ x s, firstBest better score l = some (x, s) →
        x ∈ l ∧ score x = some s ∧ ∀ y ∈ l, ∀ t, score y = some t → key s ≤ key t := by
  induction l using List.reverseRecOn with
  | nil => exact ⟨iff_of_true rfl nofun, nofun⟩
  | append_singleton l x ih =>
    obtain ⟨hnone, hsome⟩ := ih fun y hy => hgood y (mem_append_left _ hy)
    have hall {p : α → Prop} : (∀ y ∈ l ++ [x], p y) ↔ (∀ y ∈ l, p y) ∧ p x := by
      rw [forall_mem_append, forall_mem_singleton]
    rw [firstBest_concat, hall]
    cases hx : score x with
    | none =>
      have hkeep : keepBetter better score (firstBest better score l) x = firstBest better score l := by
        simp [keepBetter, hx]
      rw [hkeep]
      refine ⟨hnone.trans (and_iff_left rfl).symm, fun y s hy => ?_⟩
      obtain ⟨hmem, hscore, hbest⟩ := hsome y s hy
      refine ⟨mem_append_left _ hmem, hscore, hall.mpr ⟨hbest, fun t ht => ?_⟩⟩
      rw [hx] at ht
      cases ht
    | some s =>
      have hs : Good s := hgood x (mem_append_right _ (mem_singleton_self x)) s hx
      cases hbest : firstBest better score l with
      | none =>
        have hkeep : keepBetter better score none x = some (x, s) := by simp [keepBetter, hx]
        rw [hkeep]
        refine ⟨iff_of_false nofun (fun h => nomatch h.2), fun y t hy => ?_⟩
        obtain ⟨rfl, rfl⟩ := Prod.mk.inj (some.inj hy)
        refine ⟨mem_append_right _ (mem_singleton_self _), hx, hall.mpr ⟨fun y hy t ht => ?_, fun t ht => ?_⟩⟩
        · rw [hnone.mp hbest y hy] at ht
          cases ht
        · rw [hx, some.injEq] at ht
          rw [ht]
      | some best =>
        obtain ⟨b, u⟩ := best
        obtain ⟨hmem, hscore, hleast⟩ := hsome b u hbest
        have hu : Good u := hgood b (mem_append_left _ hmem) u hscore
        by_cases hlt : better s u = true
        · have hkeep : keepBetter better score (some (b, u)) x = some (x, s) := by simp [keepBetter, hx, hlt]
          have hkey : key s < key u := (hbetter s u hs hu).mp hlt
          rw [hkeep]
          refine ⟨iff_of_false nofun (fun h => nomatch h.2), fun y t hy => ?_⟩
          obtain ⟨rfl, rfl⟩ := Prod.mk.inj (some.inj hy)
          refine ⟨mem_append_right _ (mem_singleton_self _), hx,
            hall.mpr ⟨fun y hy t ht => hkey.le.trans (hleast y hy t ht), fun t ht => ?_⟩⟩
          rw [hx, some.injEq] at ht
          rw [ht]
        · have hkeep : keepBetter better score (some (b, u)) x = some (b, u) := by simp [keepBetter, hx, hlt]
          have hkey : key u ≤ key s := not_lt.mp (mt (hbetter s u hs hu).mpr hlt)
          rw [hkeep]
          refine ⟨iff_of_false nofun (fun h => nomatch h.2), fun y t hy => ?_⟩
          obtain ⟨rfl, rfl⟩ := Prod.mk.inj (some.inj hy)
          refine ⟨mem_append_left _ hmem, hscore, hall.mpr ⟨hleast, fun t ht => ?_⟩⟩
          rw [hx, some.injEq] at ht
          exact ht ▸ hkey

end Lib
