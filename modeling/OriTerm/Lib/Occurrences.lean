import Mathlib.Algebra.GroupWithZero.Nat
import Mathlib.Data.List.Infix
import Mathlib.Data.List.Perm.Basic
import Mathlib.Data.List.Perm.Lattice
import Mathlib.Data.List.Range

/-!
# `Lib.Occurrences` — where a needle occurs in a haystack

Positions in a word are counted in weights: a letter of weight `w c` takes up that many places, as a character takes up
bytes in a string. `occurrences` lists the places where a needle occurs, overlapping ones included.

A haystack may be made of segments, one for each letter of a word that was translated letter by letter. A needle that
occurs in it may begin or end inside a segment; when none does, the occurrences are the ranges of segments that spell
the needle.

* **`occurrences_segments`** — the occurrences of an undivided needle are the ranges that spell it.
-/

namespace Lib.Occurrences

open List

variable {α : Type} (w : α → Nat)

/-! ## Weights -/

/-- How many places a word takes up. -/
def weight (l : List α) : Nat := (l.map w).sum

@[simp] theorem weight_nil : weight w [] = 0 := rfl

@[simp] theorem weight_cons (c : α) (l : List α) : weight w (c :: l) = w c + weight w l := by
  simp [weight]

@[simp] theorem weight_append (k l : List α) : weight w (k ++ l) = weight w k + weight w l := by
  simp [weight]

variable {w}

theorem weight_pos (hw : ∀ c, 0 < w c) {l : List α} (h : l ≠ []) : 0 < weight w l := by
  cases l with
  | nil => exact absurd rfl h
  | cons c l =>
    exact Nat.add_pos_left (hw c) _

variable (w)

/-- The rest of the word from a place on; `none` if no letter begins there. -/
def dropWeight : List α → Nat → Option (List α)
  | l, 0 => some l
  | [], _ + 1 => none
  | c :: cs, n + 1 => if w c ≤ n + 1 then dropWeight cs (n + 1 - w c) else none

variable {w}

theorem dropWeight_append (hw : ∀ c, 0 < w c) (pre l : List α) : dropWeight w (pre ++ l) (weight w pre) = some l := by
  induction pre with
  | nil => cases l <;> rfl
  | cons c pre ih =>
    have hc := hw c
    obtain ⟨n, hn⟩ : ∃ n, weight w (c :: pre) = n + 1 := ⟨weight w (c :: pre) - 1, by rw [weight_cons]; omega⟩
    have hrest : n + 1 - w c = weight w pre := by rw [← hn, weight_cons, Nat.add_sub_cancel_left]
    rw [hn, cons_append, dropWeight, if_pos (by rw [← hn, weight_cons]; omega), hrest]
    exact ih

/-! ## Occurrences -/

section Occurrences

variable [DecidableEq α] (w) (needle : List α)

/-- The place where the needle occurs first. -/
def find : List α → Option Nat
  | [] => if needle = [] then some 0 else none
  | c :: cs => if needle <+: c :: cs then some 0 else (find cs).map (w c + ·)

/-- The places where the needle occurs, counted from `off`. -/
def occurrences : Nat → List α → List Nat
  | _, [] => []
  | off, c :: cs =>
    if needle <+: c :: cs then off :: occurrences (off + w c) cs else occurrences (off + w c) cs

variable {w needle}

/-- What is not found does not occur; what is found occurs first. -/
theorem occurrences_find (hne : needle ≠ []) (off : Nat) (l : List α) :
    match find w needle l with
    | none => occurrences w needle off l = []
    | some pos =>
      ∃ pre c cs, l = pre ++ c :: cs ∧ pos = weight w pre ∧ needle <+: c :: cs ∧
        occurrences w needle off l = (off + pos) :: occurrences w needle (off + pos + w c) cs := by
  induction l generalizing off with
  | nil =>
    rw [find, if_neg hne]
    rfl
  | cons c cs ih =>
    rw [find, occurrences]
    by_cases hhere : needle <+: c :: cs
    · rw [if_pos hhere, if_pos hhere]
      exact ⟨[], c, cs, rfl, rfl, hhere, rfl⟩
    · rw [if_neg hhere, if_neg hhere]
      have hrest := ih (off + w c)
      cases hfind : find w needle cs with
      | none =>
        rw [hfind] at hrest
        exact hrest
      | some pos =>
        rw [hfind] at hrest
        obtain ⟨pre, d, ds, rfl, rfl, hocc, heq⟩ := hrest
        refine ⟨c :: pre, d, ds, rfl, rfl, hocc, ?_⟩
        rw [heq, Nat.add_assoc]

theorem mem_occurrences {off b : Nat} {l : List α} :
    b ∈ occurrences w needle off l ↔
      ∃ pre suf, l = pre ++ suf ∧ suf ≠ [] ∧ needle <+: suf ∧ b = off + weight w pre := by
  induction l generalizing off with
  | nil =>
    refine iff_of_false not_mem_nil ?_
    rintro ⟨pre, suf, hl, hne, -, -⟩
    exact hne (append_eq_nil_iff.mp hl.symm).2
  | cons c cs ih =>
    have hmem : b ∈ occurrences w needle off (c :: cs) ↔
        (needle <+: c :: cs ∧ b = off) ∨ b ∈ occurrences w needle (off + w c) cs := by
      rw [occurrences]
      by_cases hhere : needle <+: c :: cs
      · rw [if_pos hhere, mem_cons]
        exact or_congr_left ⟨fun h => ⟨hhere, h⟩, fun h => h.2⟩
      · rw [if_neg hhere]
        exact ⟨.inr, fun h => h.resolve_left fun h => hhere h.1⟩
    rw [hmem, ih]
    constructor
    · rintro (⟨hhere, rfl⟩ | ⟨pre, suf, rfl, hne, hocc, rfl⟩)
      · exact ⟨[], c :: cs, rfl, cons_ne_nil c cs, hhere, rfl⟩
      · exact ⟨c :: pre, suf, rfl, hne, hocc, by rw [weight_cons, Nat.add_assoc]⟩
    · rintro ⟨pre, suf, hl, hne, hocc, rfl⟩
      cases pre with
      | nil => exact .inl ⟨by rw [hl]; exact hocc, rfl⟩
      | cons d pre =>
        obtain ⟨rfl, rfl⟩ := cons_eq_cons.mp hl
        exact .inr ⟨pre, suf, rfl, hne, hocc, by rw [weight_cons, Nat.add_assoc]⟩

/-- Occurrences come in order. -/
theorem pairwise_occurrences (hw : ∀ c, 0 < w c) (off : Nat) (l : List α) :
    (occurrences w needle off l).Pairwise (· < ·) := by
  induction l generalizing off with
  | nil => exact List.Pairwise.nil
  | cons c cs ih =>
    rw [occurrences]
    split
    · refine List.Pairwise.cons (fun b hb => ?_) (ih _)
      obtain ⟨pre, -, -, -, -, rfl⟩ := mem_occurrences.mp hb
      have hc := hw c
      omega
    · exact ih _

end Occurrences

/-! ## Ranges -/

/-- The nonempty ranges of the indices below `n`, by their first index. -/
def ranges (n : Nat) : List (Nat × Nat) :=
  (List.range n).flatMap fun i => (List.range' (i + 1) (n - i)).map fun j => (i, j)

theorem mem_ranges {n : Nat} {r : Nat × Nat} : r ∈ ranges n ↔ r.1 < r.2 ∧ r.2 ≤ n := by
  obtain ⟨i, j⟩ := r
  simp only [ranges, mem_flatMap, mem_range, mem_map, mem_range'_1, Prod.mk.injEq]
  constructor
  · rintro ⟨i', hi, j', hj, rfl, rfl⟩
    omega
  · rintro ⟨hij, hjn⟩
    exact ⟨i, by omega, j, by omega, rfl, rfl⟩

theorem pairwise_ranges (n : Nat) : (ranges n).Pairwise fun r s => r.1 < s.1 ∨ r.1 = s.1 ∧ r.2 < s.2 := by
  rw [ranges, pairwise_flatMap]
  constructor
  · intro i _
    rw [pairwise_map]
    exact pairwise_lt_range' 1 |>.imp fun h => .inr ⟨rfl, h⟩
  · refine pairwise_lt_range.imp fun hlt r hr s hs => .inl ?_
    obtain ⟨_, _, rfl⟩ := mem_map.mp hr
    obtain ⟨_, _, rfl⟩ := mem_map.mp hs
    exact hlt

/-- The letters from index `i` on and before index `j`. -/
def slice {β : Type} (l : List β) (i j : Nat) : List β := (l.take j).drop i

theorem take_append_slice {β : Type} (l : List β) {i j : Nat} (hij : i ≤ j) : l.take i ++ slice l i j = l.take j := by
  have hsplit := take_append_drop i (l.take j)
  rwa [take_take, Nat.min_eq_left hij] at hsplit

theorem slice_append_drop {β : Type} (l : List β) {i j : Nat} (hij : i ≤ j) : slice l i j ++ l.drop j = l.drop i := by
  have h : l.take i ++ (slice l i j ++ l.drop j) = l.take i ++ l.drop i := by
    rw [← append_assoc, take_append_slice l hij, take_append_drop, take_append_drop]
  exact append_cancel_left h

/-! ## Segments -/

variable (w) in
/-- The place where the segment at an index begins. -/
def bound (segs : List (List α)) (i : Nat) : Nat := weight w (segs.take i).flatten

/-- The needle begins and ends between segments, wherever it occurs. -/
def Undivided (segs : List (List α)) (needle : List α) : Prop :=
  ∀ pre suf, segs.flatten = pre ++ needle ++ suf →
    ∃ i j, pre = (segs.take i).flatten ∧ pre ++ needle = (segs.take j).flatten

variable {segs : List (List α)}

theorem take_flatten_length_lt (hsegs : ∀ s ∈ segs, s ≠ []) {i j : Nat} (hij : i < j) (hi : i < segs.length) :
    (segs.take i).flatten.length < (segs.take j).flatten.length := by
  rw [← take_append_slice segs (Nat.le_of_lt hij), flatten_append, length_append, Nat.lt_add_right_iff_pos,
    length_pos_iff]
  have hmem : segs.get ⟨i, hi⟩ ∈ slice segs i j := by
    rw [slice, mem_iff_getElem?]
    refine ⟨0, ?_⟩
    rw [getElem?_drop, Nat.add_zero, getElem?_take_of_lt hij]
    exact getElem?_eq_getElem hi
  exact flatten_ne_nil_iff.mpr ⟨_, hmem, hsegs _ (get_mem segs _)⟩

theorem bound_lt (hw : ∀ c, 0 < w c) (hsegs : ∀ s ∈ segs, s ≠ []) {i j : Nat} (hij : i < j) (hi : i < segs.length) :
    bound w segs i < bound w segs j := by
  have hlen := take_flatten_length_lt hsegs hij hi
  unfold bound
  rw [← take_append_slice segs (Nat.le_of_lt hij), flatten_append] at hlen ⊢
  rw [weight_append, Nat.lt_add_right_iff_pos]
  refine weight_pos hw fun hnil => ?_
  rw [hnil, append_nil] at hlen
  exact Nat.lt_irrefl _ hlen

/-- The occurrences of an undivided needle begin where the ranges that spell it begin. -/
theorem mem_occurrences_segments [DecidableEq α] {needle : List α} (hne : needle ≠ [])
    (hundivided : Undivided segs needle) {b : Nat} :
    b ∈ occurrences w needle 0 segs.flatten ↔
      ∃ i j, i < j ∧ j ≤ segs.length ∧ (slice segs i j).flatten = needle ∧ bound w segs i = b := by
  rw [mem_occurrences]
  constructor
  · rintro ⟨pre, suf, hsplit, -, ⟨rest, rfl⟩, rfl⟩
    obtain ⟨i, j, hi, hj⟩ := hundivided pre rest (by rw [hsplit, append_assoc])
    have htaken : (segs.take (min j segs.length)).flatten = (segs.take i).flatten ++ needle := by
      rw [← hi, hj, ← take_take, take_length]
    -- the range is not empty, since the needle is not
    have hij : i < min j segs.length := by
      by_contra hle
      have hpre := take_append_slice segs (Nat.le_of_not_lt hle)
      have hlen := congrArg (fun l : List (List α) => l.flatten.length) hpre
      simp only [flatten_append, length_append, htaken] at hlen
      have hpos := length_pos_iff.mpr hne
      omega
    refine ⟨i, min j segs.length, hij, Nat.min_le_right _ _, ?_, by rw [bound, ← hi, Nat.zero_add]⟩
    rw [← take_append_slice segs (Nat.le_of_lt hij), flatten_append] at htaken
    exact append_cancel_left htaken
  · rintro ⟨i, j, hij, hj, hspell, rfl⟩
    have hrest := slice_append_drop segs (Nat.le_of_lt hij)
    refine ⟨(segs.take i).flatten, (segs.drop i).flatten, ?_, ?_, ?_, (Nat.zero_add _).symm⟩
    · rw [← flatten_append, take_append_drop]
    · rw [← hrest, flatten_append, hspell]
      exact append_ne_nil_of_left_ne_nil hne _
    · rw [← hrest, flatten_append, hspell]
      exact prefix_append _ _

/-- **The occurrences of an undivided needle are the ranges that spell it.** -/
theorem occurrences_segments [DecidableEq α] (hw : ∀ c, 0 < w c) {needle : List α} (hne : needle ≠ [])
    (hsegs : ∀ s ∈ segs, s ≠ []) (hundivided : Undivided segs needle) (Spells : Nat → Nat → Bool)
    (hspells : ∀ i j, i < j → j ≤ segs.length → (Spells i j = true ↔ (slice segs i j).flatten = needle)) :
    occurrences w needle 0 segs.flatten =
      ((ranges segs.length).filter fun r => Spells r.1 r.2).map fun r => bound w segs r.1 := by
  have hmemRange {r : Nat × Nat} : r ∈ (ranges segs.length).filter (fun r => Spells r.1 r.2) ↔
      r.1 < r.2 ∧ r.2 ≤ segs.length ∧ (slice segs r.1 r.2).flatten = needle := by
    rw [mem_filter, mem_ranges]
    constructor
    · exact fun h => ⟨h.1.1, h.1.2, (hspells _ _ h.1.1 h.1.2).mp h.2⟩
    · exact fun h => ⟨⟨h.1, h.2.1⟩, (hspells _ _ h.1 h.2.1).mpr h.2.2⟩
  -- from one segment on, only one range spells the needle: a longer one spells a longer word
  have honly : ((ranges segs.length).filter fun r => Spells r.1 r.2).Pairwise fun r s => r.1 < s.1 := by
    refine Pairwise.imp_of_mem (fun {r s} hr hs hrs => ?_) ((pairwise_ranges segs.length).filter _)
    rcases hrs with hlt | ⟨heq, hlt⟩
    · exact hlt
    · obtain ⟨hr1, hr2, hrspell⟩ := hmemRange.mp hr
      obtain ⟨hs1, hs2, hsspell⟩ := hmemRange.mp hs
      have hlonger := take_flatten_length_lt hsegs hlt (Nat.lt_of_lt_of_le hlt hs2)
      rw [← take_append_slice segs (Nat.le_of_lt hr1), ← take_append_slice segs (Nat.le_of_lt hs1),
        flatten_append, flatten_append, hrspell, hsspell, heq] at hlonger
      exact absurd hlonger (Nat.lt_irrefl _)
  have hsorted : (((ranges segs.length).filter fun r => Spells r.1 r.2).map fun r => bound w segs r.1).Pairwise
      (· < ·) := by
    rw [pairwise_map]
    refine Pairwise.imp_of_mem (fun {r s} hr hs hlt => ?_) honly
    obtain ⟨hr1, hr2, -⟩ := hmemRange.mp hr
    exact bound_lt hw hsegs hlt (Nat.lt_of_lt_of_le hr1 hr2)
  have hfound := @pairwise_occurrences _ w _ needle hw 0 segs.flatten
  refine Perm.eq_of_pairwise (fun a b _ _ hab hba => absurd hba (Nat.lt_asymm hab)) hfound hsorted ?_
  rw [perm_ext_iff_of_nodup (hfound.imp Nat.ne_of_lt) (hsorted.imp Nat.ne_of_lt)]
  intro b
  rw [mem_occurrences_segments hne hundivided, mem_map]
  constructor
  · rintro ⟨i, j, hij, hj, hspell, rfl⟩
    exact ⟨(i, j), hmemRange.mpr ⟨hij, hj, hspell⟩, rfl⟩
  · rintro ⟨⟨i, j⟩, hr, rfl⟩
    obtain ⟨hij, hj, hspell⟩ := hmemRange.mp hr
    exact ⟨i, j, hij, hj, hspell, rfl⟩

/-- A haystack whose segments are single letters divides no needle. -/
theorem undivided_of_single (hsingle : ∀ s ∈ segs, s.length = 1) (needle : List α) : Undivided segs needle := by
  have hlen : ∀ k, (segs.take k).flatten = segs.flatten.take k := by
    intro k
    induction segs generalizing k with
    | nil => simp
    | cons s segs ih =>
      obtain ⟨c, rfl⟩ := length_eq_one_iff.mp (hsingle s mem_cons_self)
      cases k with
      | zero => rfl
      | succ k => simpa using ih (fun s hs => hsingle s (mem_cons_of_mem _ hs)) k
  intro pre suf hsplit
  refine ⟨pre.length, (pre ++ needle).length, ?_, ?_⟩
  · rw [hlen, hsplit, append_assoc, take_left]
  · rw [hlen, hsplit, take_left]

end Lib.Occurrences
