import Mathlib.Data.Finset.Card
import OriTerm.Lib.Table

/-!
# `Lib.Climb` — the chain above a key of a parent map

A finite map from children to parents, read upwards: `climb t k` lists the parent of `k`, its parent, and so on. A
map with a cycle has keys above which the chain does not end; there `climb` is `none`, as the loop of a program
that walks up never stops.

`climb` looks at as many keys as the map has and one more. `climb_eq_some_iff` says that this is enough: a longer walk
has met a key twice.

Nothing here mentions a particular program.
-/

namespace Lib.Table

variable {κ : Type*}

/-- `l` is the whole chain above `k`. -/
def Climbs (t : Table κ κ) : κ → List κ → Prop
  | k, [] => t.get k = none
  | k, p :: l => t.get k = some p ∧ t.Climbs p l

/-- The chain above `k`, if at most `fuel` keys end it. -/
def climbWithin (t : Table κ κ) : Nat → κ → Option (List κ)
  | 0, _ => none
  | fuel + 1, k =>
    match t.get k with
    | none => some []
    | some p => (t.climbWithin fuel p).map (p :: ·)

/-- The chain above `k`; `none` when it does not end. -/
def climb (t : Table κ κ) (k : κ) : Option (List κ) := t.climbWithin (t.keys.card + 1) k

variable {t : Table κ κ} {k : κ} {l l' : List κ}

theorem climbWithin_eq_some_iff (fuel : Nat) : t.climbWithin fuel k = some l ↔ t.Climbs k l ∧ l.length < fuel := by
  induction fuel generalizing k l with
  | zero => simp [climbWithin]
  | succ fuel ih =>
    unfold climbWithin
    cases hk : t.get k <;> cases l <;> simp [Climbs, hk]
    grind

theorem Climbs.unique (h : t.Climbs k l) (h' : t.Climbs k l') : l = l' := by
  induction l generalizing k l' with
  | nil => cases l' <;> simp_all [Climbs]
  | cons p l ih =>
    cases l' with
    | nil => simp_all [Climbs]
    | cons q l' =>
      obtain rfl : p = q := by simpa [h.1] using h'.1
      rw [ih h.2 h'.2]

/-- The keys that are passed are as many as the chain is long, each above a shorter chain than the one before it. -/
theorem Climbs.passed (h : t.Climbs k l) : ∃ s ⊆ t.keys, s.card = l.length ∧
    ∀ x ∈ s, ∃ m, t.Climbs x m ∧ m.length ≤ l.length := by
  induction l generalizing k with
  | nil => exact ⟨∅, by simp, rfl, by simp⟩
  | cons p l ih =>
    obtain ⟨s, hs, hcard, hlen⟩ := ih h.2
    have hk : k ∉ s := by
      intro hk
      obtain ⟨m, hm, hle⟩ := hlen k hk
      rw [← h.unique hm] at hle
      exact Nat.not_succ_le_self _ hle
    refine ⟨s.cons k hk, Finset.cons_subset.2 ⟨by simp [t.mem_keys, h.1], hs⟩, by simp [hcard], fun x hx => ?_⟩
    rcases Finset.mem_cons.1 hx with rfl | hx
    · exact ⟨p :: l, h, le_rfl⟩
    · obtain ⟨m, hm, hle⟩ := hlen x hx
      exact ⟨m, hm, Nat.le_succ_of_le hle⟩

/-- **`climb` finds the chain whenever it ends.** -/
theorem climb_eq_some_iff : t.climb k = some l ↔ t.Climbs k l := by
  rw [climb, climbWithin_eq_some_iff]
  refine ⟨And.left, fun h => ⟨h, ?_⟩⟩
  obtain ⟨s, hs, hcard, -⟩ := h.passed
  exact Nat.lt_succ_of_le (hcard ▸ Finset.card_le_card hs)

end Lib.Table
