import Mathlib.Data.Nat.Basic

/-!
# `Lib.Halves` — things that take two positions of a line

A line holds things of which some take two neighbouring positions, a left half and a right half. Editors move, cut and
overwrite ranges of positions; the question is whether that leaves half a thing behind.

`Paired` says that it does not. Most operations are a `splice`: a range of positions is replaced, and what the two edges
cut off outside it is dropped. Then only the range matters (`Paired.splice_iff`): it has to hold whole things
(`Whole`). For the ranges that come from the line itself, shifted, that is a question about the two positions at which
the shift cuts (`Paired.whole_shiftLeft`, `Paired.whole_shiftRight`).

Nothing here mentions a particular program.
-/

namespace Lib

/-- Where a line has left halves and where it has right halves. -/
@[ext] structure Halves where
  left : Nat → Bool
  right : Nat → Bool

namespace Halves

/-- **Every half has its other half next to it.** -/
structure Paired (h : Halves) : Prop where
  start : h.right 0 = false
  next : ∀ c, h.left c = h.right (c + 1)

/-- No thing is cut at the edges of `[a, b)`, or inside it. -/
structure Whole (h : Halves) (a b : Nat) : Prop where
  start : h.right a = false
  stop : h.left (b - 1) = false
  next : ∀ c, a ≤ c → c + 1 < b → h.left c = h.right (c + 1)

def empty : Halves := ⟨fun _ => false, fun _ => false⟩

/-- `[a, b)` from `m`, the rest from `h` without the halves that belong to things cut at an edge. -/
def splice (h m : Halves) (a b : Nat) : Halves where
  left c := if a ≤ c ∧ c < b then m.left c else h.left c && c + 1 != a
  right c := if a ≤ c ∧ c < b then m.right c else h.right c && c != b

/-- What is left of `[a, b)` shifted left by `count`; the end is free. -/
def shiftLeft (h : Halves) (b count : Nat) : Halves where
  left c := c < b - count && h.left (c + count)
  right c := c < b - count && h.right (c + count)

/-- What is left of `[a, b)` shifted right by `count`; the start is free. -/
def shiftRight (h : Halves) (a count : Nat) : Halves where
  left c := a + count ≤ c && h.left (c - count)
  right c := a + count ≤ c && h.right (c - count)

variable {h m : Halves} {a b count : Nat}

theorem whole_empty (a b : Nat) : empty.Whole a b := ⟨rfl, rfl, fun _ _ _ => rfl⟩

/-- **A splice leaves no half behind exactly when the range holds whole things.** -/
theorem Paired.splice_iff (hp : h.Paired) (hab : a < b) : (h.splice m a b).Paired ↔ m.Whole a b := by
  unfold splice
  constructor
  · intro hs
    refine ⟨?_, ?_, fun c hac hcb => ?_⟩
    · cases a with
      | zero => simpa [hab] using hs.start
      | succ a =>
        have hnext := hs.next a
        have hout : ¬ (a + 1 ≤ a ∧ a < b) := by omega
        simpa [hab, hout] using hnext.symm
    · have hnext := hs.next (b - 1)
      have hb : b - 1 + 1 = b := by omega
      have hin : a ≤ b - 1 ∧ b - 1 < b := by omega
      simpa [hb, hin] using hnext
    · have hin : a ≤ c ∧ c < b := by omega
      have hin' : a ≤ c + 1 ∧ c + 1 < b := by omega
      simpa [hin, hin'] using hs.next c
  · intro hw
    refine ⟨?_, fun c => ?_⟩
    · cases a with
      | zero => simpa [hab] using hw.start
      | succ a => simp [hp.start]
    · show (if a ≤ c ∧ c < b then m.left c else h.left c && c + 1 != a)
        = (if a ≤ c + 1 ∧ c + 1 < b then m.right (c + 1) else h.right (c + 1) && c + 1 != b)
      rw [← hp.next]
      by_cases hin : a ≤ c ∧ c < b
      · rw [if_pos hin]
        by_cases hend : c + 1 < b
        · rw [if_pos ⟨by omega, hend⟩]
          exact hw.next c hin.1 hend
        · have hb : b = c + 1 := by omega
          subst hb
          simpa using hw.stop
      · rw [if_neg hin]
        by_cases hstart : c + 1 = a
        · subst hstart
          rw [if_pos ⟨Nat.le_refl _, hab⟩, hw.start, bne_self_eq_false, Bool.and_false]
        · have hout : ¬ (a ≤ c + 1 ∧ c + 1 < b) := by omega
          have hb : ¬ c + 1 = b := by omega
          rw [if_neg hout, bne_iff_ne.mpr hstart, bne_iff_ne.mpr hb]

theorem Paired.splice_empty (hp : h.Paired) (hab : a ≤ b) : (h.splice empty a b).Paired := by
  rcases Nat.lt_or_ge a b with hlt | hge
  · exact (hp.splice_iff hlt).mpr (whole_empty a b)
  · obtain rfl : a = b := by omega
    have hout : ∀ c, ¬ (a ≤ c ∧ c < a) := fun c => by omega
    refine ⟨?_, fun c => ?_⟩
    · unfold splice
      dsimp only
      rw [if_neg (hout 0), hp.start, Bool.false_and]
    · unfold splice
      dsimp only
      rw [if_neg (hout c), if_neg (hout (c + 1)), hp.next]

/-- Halves that are a splice, read position by position. -/
theorem eq_splice {h' : Halves} (hin : ∀ c, a ≤ c → c < b → h'.left c = m.left c ∧ h'.right c = m.right c)
    (hout : ∀ c, ¬ (a ≤ c ∧ c < b) → h'.left c = (h.left c && c + 1 != a) ∧ h'.right c = (h.right c && c != b)) :
    h' = h.splice m a b := by
  ext c
  · show h'.left c = if a ≤ c ∧ c < b then m.left c else h.left c && c + 1 != a
    split
    · next hc => exact (hin c hc.1 hc.2).1
    · next hc => exact (hout c hc).1
  · show h'.right c = if a ≤ c ∧ c < b then m.right c else h.right c && c != b
    split
    · next hc => exact (hin c hc.1 hc.2).2
    · next hc => exact (hout c hc).2

/-- A range of a line without half things holds whole things exactly when nothing is cut at its edges. -/
theorem Paired.whole_iff (hp : h.Paired) : h.Whole a b ↔ h.right a = false ∧ h.left (b - 1) = false :=
  ⟨fun hw => ⟨hw.start, hw.stop⟩, fun hcut => ⟨hcut.1, hcut.2, fun c _ _ => hp.next c⟩⟩

/-- A shift to the left cuts at the first position that stays and at the end. -/
theorem Paired.whole_shiftLeft (hp : h.Paired) (hcount : 0 < count) (hlt : a + count < b) :
    (h.shiftLeft b count).Whole a b ↔ h.right (a + count) = false ∧ h.left (b - 1) = false := by
  have hstart : (h.shiftLeft b count).right a = h.right (a + count) := by
    have hin : a < b - count := by omega
    simp [shiftLeft, hin]
  have hlast : (h.shiftLeft b count).left (b - count - 1) = h.left (b - 1) := by
    have hin : b - count - 1 < b - count := by omega
    have hpos : b - count - 1 + count = b - 1 := by omega
    simp [shiftLeft, hin, hpos]
  constructor
  · intro hw
    refine ⟨hstart.symm.trans hw.start, ?_⟩
    have hnext := hw.next (b - count - 1) (by omega) (by omega)
    have hfree : (h.shiftLeft b count).right (b - count - 1 + 1) = false := by
      have hout : ¬ b - count - 1 + 1 < b - count := by omega
      simp [shiftLeft, hout]
    rw [← hlast, hnext, hfree]
  · rintro ⟨hfirst, hend⟩
    refine ⟨hstart.trans hfirst, ?_, fun c _ hcb => ?_⟩
    · have hout : ¬ b - 1 < b - count := by omega
      simp [shiftLeft, hout]
    · by_cases hc : c + 1 < b - count
      · have hc' : c < b - count := by omega
        have hpos : c + 1 + count = c + count + 1 := by omega
        simp [shiftLeft, hc, hc', hpos, hp.next]
      · have hright : (h.shiftLeft b count).right (c + 1) = false := by simp [shiftLeft, hc]
        rw [hright]
        by_cases hc' : c = b - count - 1
        · rw [hc', hlast, hend]
        · have hout : ¬ c < b - count := by omega
          simp [shiftLeft, hout]

/-- A shift to the right cuts at the start and behind the last position that stays. -/
theorem Paired.whole_shiftRight (hp : h.Paired) (hcount : 0 < count) (hlt : a + count < b) :
    (h.shiftRight a count).Whole a b ↔ h.right a = false ∧ h.left (b - 1 - count) = false := by
  have hfirst : (h.shiftRight a count).right (a + count) = h.right a := by simp [shiftRight]
  have hend : (h.shiftRight a count).left (b - 1) = h.left (b - 1 - count) := by
    have hin : a + count ≤ b - 1 := by omega
    simp [shiftRight, hin]
  constructor
  · intro hw
    refine ⟨?_, hend.symm.trans hw.stop⟩
    have hnext := hw.next (a + count - 1) (by omega) (by omega)
    have hpos : a + count - 1 + 1 = a + count := by omega
    have hfree : (h.shiftRight a count).left (a + count - 1) = false := by
      have hout : ¬ a + count ≤ a + count - 1 := by omega
      simp [shiftRight, hout]
    rw [← hfirst, ← hpos, ← hnext, hfree]
  · rintro ⟨hstart, hlast⟩
    refine ⟨?_, hend.trans hlast, fun c _ _ => ?_⟩
    · have hout : ¬ a + count ≤ a := by omega
      simp [shiftRight, hout]
    · by_cases hc : a + count ≤ c
      · have hc' : a + count ≤ c + 1 := by omega
        have hpos : c + 1 - count = c - count + 1 := by omega
        simp [shiftRight, hc, hc', hpos, hp.next]
      · have hleft : (h.shiftRight a count).left c = false := by simp [shiftRight, hc]
        rw [hleft]
        by_cases hc' : c + 1 = a + count
        · rw [hc', hfirst, hstart]
        · have hout : ¬ a + count ≤ c + 1 := by omega
          simp [shiftRight, hout]

/-- Shifting everything out leaves nothing. -/
theorem whole_shiftLeft_all (h : Halves) (hab : a < b) (hge : b ≤ a + count) : (h.shiftLeft b count).Whole a b := by
  have hnone : ∀ c, a ≤ c → decide (c < b - count) = false := fun c hc => decide_eq_false (by omega)
  refine ⟨?_, ?_, fun c hc _ => ?_⟩
  · show (decide (a < b - count) && _) = false
    rw [hnone a (Nat.le_refl a), Bool.false_and]
  · show (decide (b - 1 < b - count) && _) = false
    rw [hnone (b - 1) (by omega), Bool.false_and]
  · show (decide (c < b - count) && _) = (decide (c + 1 < b - count) && _)
    rw [hnone c hc, hnone (c + 1) (by omega), Bool.false_and, Bool.false_and]

theorem whole_shiftRight_all (h : Halves) (hab : a < b) (hge : b ≤ a + count) : (h.shiftRight a count).Whole a b := by
  have hnone : ∀ c, c < b → decide (a + count ≤ c) = false := fun c hc => decide_eq_false (by omega)
  refine ⟨?_, ?_, fun c _ hc => ?_⟩
  · show (decide (a + count ≤ a) && _) = false
    rw [hnone a hab, Bool.false_and]
  · show (decide (a + count ≤ b - 1) && _) = false
    rw [hnone (b - 1) (by omega), Bool.false_and]
  · show (decide (a + count ≤ c) && _) = (decide (a + count ≤ c + 1) && _)
    rw [hnone c (by omega), hnone (c + 1) hc, Bool.false_and, Bool.false_and]

end Halves

end Lib
