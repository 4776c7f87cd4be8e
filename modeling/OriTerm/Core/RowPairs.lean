import OriTerm.Lib.Halves
import OriTerm.Core.Occupancy

/-!
# `Core.RowPairs` — wide characters in one row

A wide character takes two cells, the one with the wide flag and the spacer behind it. `Row.halves` reads the two
flags of a row as the halves of a line, and `Row.WidePaired` says that every half has its other half.

Each operation that moves or overwrites cells is first described cell by cell, then as a splice of halves. Writing and
inserting leave no half behind (`WidePaired.writeWide`, `WidePaired.insertColumns`): they clean up at every edge.
Deleting, shifting and copying do not, and for them the result is an equivalence that names the edges they cut
(`WidePaired.closeColumns_iff`, `WidePaired.shiftLeft_iff`, `WidePaired.shiftRight_iff`, `WidePaired.copyRange_iff`).
-/

namespace OriTerm

open Lib Lib.Bitflags List CellFlags Option

/-! ## Halves of cells and rows -/

namespace Cell

/-- The cell is no half of a wide character. -/
def IsPlain (c : Cell) : Prop := c.has wideChar = false ∧ c.has wideCharSpacer = false

theorem isPlain_ofBg (bg : Color) : (ofBg bg).IsPlain := by
  constructor
  · show contains (0 : CellFlags) wideChar = false
    decide
  · show contains (0 : CellFlags) wideCharSpacer = false
    decide

theorem isPlain_blank : blank.IsPlain := isPlain_ofBg _

/-- A cell with neither flag is plain. -/
theorem isPlain_of_not_intersects {c : Cell} (h : intersects c.flags widePair = false) : c.IsPlain := by
  unfold widePair at h
  rw [intersects_or, Bool.or_eq_false_iff] at h
  exact ⟨not_contains_of_not_intersects h.1 (by decide), not_contains_of_not_intersects h.2 (by decide)⟩

variable (c : Cell)

@[simp] theorem wide_orphan_wide : (c.orphan wideChar).has wideChar = false :=
  contains_remove_of_contains (by decide) (by decide)

@[simp] theorem spacer_orphan_wide : (c.orphan wideChar).has wideCharSpacer = c.has wideCharSpacer :=
  contains_remove_of_disjoint (by decide)

@[simp] theorem wide_orphan_spacer : (c.orphan wideCharSpacer).has wideChar = c.has wideChar :=
  contains_remove_of_disjoint (by decide)

/-- Blanking an orphan twice is blanking it once. -/
@[simp] theorem orphan_orphan (flag : CellFlags) : (c.orphan flag).orphan flag = c.orphan flag := by
  unfold orphan
  rw [remove_remove]

@[simp] theorem spacer_orphan_spacer : (c.orphan wideCharSpacer).has wideCharSpacer = false :=
  contains_remove_of_contains (by decide) (by decide)

@[simp] theorem wide_insertFlags_wide : (c.insertFlags wideChar).has wideChar = true :=
  contains_insert_self

@[simp] theorem spacer_insertFlags_wide : (c.insertFlags wideChar).has wideCharSpacer = c.has wideCharSpacer :=
  contains_insert_of_disjoint (by decide)

theorem isPlain_removeFlags : (c.removeFlags widePair).IsPlain :=
  ⟨contains_remove_of_contains (by decide) (by decide), contains_remove_of_contains (by decide) (by decide)⟩

theorem isPlain_padWide : c.padWide.IsPlain := by
  constructor
  · show contains (leadingWideCharSpacer ||| wrap ||| drawn) wideChar = false
    decide
  · show contains (leadingWideCharSpacer ||| wrap ||| drawn) wideCharSpacer = false
    decide

@[simp] theorem wide_drawSpacer (template : Cell) : (drawSpacer template c).has wideChar = false := by
  show contains (wideCharSpacer ||| drawn) wideChar = false
  decide

@[simp] theorem spacer_drawSpacer (template : Cell) : (drawSpacer template c).has wideCharSpacer = true := by
  show contains (wideCharSpacer ||| drawn) wideCharSpacer = true
  decide

/-- Flags that are no halves change no half. -/
theorem wide_insertFlags {flags : CellFlags} (h : Disjoint flags widePair) :
    (c.insertFlags flags).has wideChar = c.has wideChar ∧
      (c.insertFlags flags).has wideCharSpacer = c.has wideCharSpacer := by
  have hcomm : ∀ f : CellFlags, f &&& widePair = f → Disjoint flags f := by
    intro f hf
    have hdisj : Disjoint f flags := Disjoint.of_and_eq ((BitVec.and_comm _ _).trans h) hf
    exact (BitVec.and_comm _ _).trans hdisj
  exact ⟨contains_insert_of_disjoint (hcomm _ (by decide)), contains_insert_of_disjoint (hcomm _ (by decide))⟩

theorem IsPlain.insertFlags {c : Cell} (hc : c.IsPlain) {flags : CellFlags} (h : Disjoint flags widePair) :
    (c.insertFlags flags).IsPlain :=
  ⟨(c.wide_insertFlags h).1.trans hc.1, (c.wide_insertFlags h).2.trans hc.2⟩

/-- A drawn cell is plain, as its template is. -/
theorem isPlain_draw {template : Cell} (h : template.IsPlain) (ch : Char) : (draw template ch c).IsPlain := by
  have hdisj : Disjoint drawn widePair := by decide
  exact h.insertFlags hdisj

end Cell

namespace Row

variable {r r' : Row} {col c cols : Nat}

/-- The halves of a row. -/
def halves (r : Row) : Halves where
  left c := (r.get c).has wideChar
  right c := (r.get c).has wideCharSpacer

/-- Every wide character is followed by its spacer, and every spacer is preceded by its wide character. -/
def WidePaired (r : Row) : Prop := r.halves.Paired

/-- The cells past the watermark are no halves. -/
def PlainPastOcc (r : Row) : Prop := ∀ c ∈ r.tail, c.IsPlain

instance (c : Cell) : Decidable c.IsPlain := by
  unfold Cell.IsPlain
  infer_instance

instance (r : Row) : Decidable r.PlainPastOcc := by
  unfold PlainPastOcc
  infer_instance

theorem get_modify (r : Row) (col : Nat) (f : Cell → Cell) (c : Nat) :
    (r.modify col f).get c = if c = col ∧ c < r.cols then f (r.get c) else r.get c := by
  unfold Row.get
  rw [inner_modify, getD_eq_getElem?_getD, getD_eq_getElem?_getD, getElem?_modify]
  by_cases hlt : c < r.inner.length
  · rw [getElem?_eq_getElem hlt]
    by_cases hc : c = col
    · subst hc
      rw [if_pos ⟨rfl, hlt⟩]
      simp
    · have hne : ¬ (c = col ∧ c < r.cols) := fun h => hc h.1
      rw [if_neg hne]
      simp [Ne.symm hc]
  · have hne : ¬ (c = col ∧ c < r.cols) := fun h => hlt h.2
    rw [if_neg hne, getElem?_eq_none (Nat.le_of_not_lt hlt)]
    rfl

theorem get_of_le (h : r.cols ≤ c) : r.get c = Cell.blank := by
  unfold Row.get
  rw [getD_eq_getElem?_getD, getElem?_eq_none h]
  rfl

/-- There are no halves past the end of the row. -/
theorem lt_cols_of_left (h : r.halves.left c = true) : c < r.cols := by
  by_contra hge
  have hblank : (r.get c).has wideChar = true := h
  rw [get_of_le (Nat.le_of_not_lt hge)] at hblank
  cases hblank

theorem lt_cols_of_right (h : r.halves.right c = true) : c < r.cols := by
  by_contra hge
  have hblank : (r.get c).has wideCharSpacer = true := h
  rw [get_of_le (Nat.le_of_not_lt hge)] at hblank
  cases hblank

/-- Only the cells of the row have to be looked at. -/
theorem widePaired_iff_lt : r.WidePaired ↔
    r.halves.right 0 = false ∧ ∀ c < r.cols, r.halves.left c = r.halves.right (c + 1) := by
  refine ⟨fun hp => ⟨hp.start, fun c _ => hp.next c⟩, fun h => ⟨h.1, fun c => ?_⟩⟩
  by_cases hc : c < r.cols
  · exact h.2 c hc
  · have hblank : r.get c = Cell.blank := get_of_le (by omega)
    have hnext : r.get (c + 1) = Cell.blank := get_of_le (by omega)
    unfold halves
    dsimp only
    rw [hblank, hnext]
    rfl

instance (r : Row) : Decidable r.WidePaired := decidable_of_iff _ widePaired_iff_lt.symm

/-! ## The clean-up helpers in one row -/

/-- `clear_wide_char_at` in its row. -/
def clearWideAt (cols col : Nat) (r : Row) : Row :=
  if col ≥ cols then r
  else
    let r' :=
      if contains (r.get col).flags wideCharSpacer && col > 0 then
        r.modify (col - 1) (Cell.orphan wideChar)
      else r
    if contains (r.get col).flags wideChar && col + 1 < cols then
      r'.modify (col + 1) (Cell.orphan wideCharSpacer)
    else r'

/-- `fix_wide_boundaries` in its row. -/
def fixWide (cols start stop : Nat) (r : Row) : Row :=
  let r' :=
    if start > 0 && start < cols && (r.get start).has wideCharSpacer then
      r.modify (start - 1) (Cell.orphan wideChar)
    else r
  if stop > 0 && stop < cols && (r'.get (stop - 1)).has wideChar then
    r'.modify stop (Cell.orphan wideCharSpacer)
  else r'

theorem cols_fixWide (cols start stop : Nat) (r : Row) : (r.fixWide cols start stop).cols = r.cols := by
  unfold fixWide
  dsimp only
  split
  · split
    · rw [cols_modify, cols_modify]
    · rw [cols_modify]
  · split
    · rw [cols_modify]
    · rfl

/-- A blank is no half, so nothing is taken from it. -/
theorem orphan_get_of_le (flag : CellFlags) (h : r.cols ≤ c) : (r.get c).orphan flag = r.get c := by
  have hzero : remove (0#32) flag = 0#32 := zero_remove
  rw [get_of_le h]
  show ({ Cell.blank with ch := ' ', flags := remove (0#32) flag } : Cell) = Cell.blank
  rw [hzero]
  rfl

theorem get_modify_orphan (r : Row) (col : Nat) (flag : CellFlags) (c : Nat) :
    (r.modify col (Cell.orphan flag)).get c = if c = col then (r.get c).orphan flag else r.get c := by
  rw [get_modify]
  by_cases hc : c = col
  · by_cases hlt : c < r.cols
    · rw [if_pos ⟨hc, hlt⟩, if_pos hc]
    · rw [if_neg fun h => hlt h.2, if_pos hc, orphan_get_of_le flag (Nat.le_of_not_lt hlt)]
  · rw [if_neg fun h => hc h.1, if_neg hc]

variable {start stop : Nat}

/-- The halves outside `[start, stop)` of what its edges cut are blanked. -/
theorem get_fixWide (hr : r.cols = cols) (hle : start < stop ∨ cols ≤ start ∧ stop = cols) (c : Nat) :
    (r.fixWide cols start stop).get c =
      if c + 1 = start ∧ r.halves.right start = true then (r.get c).orphan wideChar
      else if c = stop ∧ 0 < stop ∧ r.halves.left (stop - 1) = true then (r.get c).orphan wideCharSpacer
      else r.get c := by
  have hright : (r.get start).has wideCharSpacer = r.halves.right start := rfl
  unfold fixWide
  rw [hright]
  dsimp only
  have hfirst : ∀ c, (if (decide (start > 0) && decide (start < cols) && r.halves.right start) = true then
      r.modify (start - 1) (Cell.orphan wideChar) else r).get c =
      if c + 1 = start ∧ r.halves.right start = true then (r.get c).orphan wideChar else r.get c := by
    intro c
    by_cases hspacer : r.halves.right start = true
    · have hlt := lt_cols_of_right hspacer
      by_cases hpos : 0 < start
      · have hiff : c = start - 1 ↔ c + 1 = start := by omega
        rw [if_pos (by simp [hspacer, hpos, ← hr, hlt]), get_modify_orphan]
        simp [hiff, hspacer]
      · have hne : ¬ (c + 1 = start ∧ r.halves.right start = true) := by omega
        rw [if_neg (by simp [hpos]), if_neg hne]
    · rw [if_neg (by simp [hspacer]), if_neg fun h => hspacer h.2]
  by_cases hpos : 0 < stop
  · -- the first blanking does not reach the last position of the range
    have hlast : ((if (decide (start > 0) && decide (start < cols) && r.halves.right start) = true then
        r.modify (start - 1) (Cell.orphan wideChar) else r).get (stop - 1)).has wideChar
        = r.halves.left (stop - 1) := by
      rw [hfirst]
      by_cases hcut : stop - 1 + 1 = start ∧ r.halves.right start = true
      · have hlt := lt_cols_of_right hcut.2
        omega
      · rw [if_neg hcut]
        rfl
    rw [hlast]
    by_cases hwide : r.halves.left (stop - 1) = true
    · by_cases hend : stop < cols
      · rw [if_pos (by simp [hwide, hend, hpos]), get_modify_orphan, hfirst]
        by_cases hc : c = stop
        · have hne : ¬ (c + 1 = start ∧ r.halves.right start = true) := by
            rintro ⟨heq, hspacer⟩
            omega
          rw [if_pos hc, if_neg hne, if_neg hne, if_pos ⟨hc, hpos, hwide⟩]
        · simp [hc]
      · rw [if_neg (by simp [hend]), hfirst]
        by_cases hc : c = stop
        · have hne : ¬ (c + 1 = start ∧ r.halves.right start = true) := by
            rintro ⟨heq, hspacer⟩
            have hlt := lt_cols_of_right hspacer
            omega
          rw [if_neg hne, if_neg hne, if_pos ⟨hc, hpos, hwide⟩, orphan_get_of_le _ (by omega)]
        · simp [hc]
    · rw [if_neg (by simp [hwide]), hfirst]
      simp [hwide]
  · rw [if_neg (by simp [hpos]), hfirst]
    simp [hpos, false_and]

/-- The clean-up at a position is that of the edges of the one cell. -/
theorem clearWideAt_eq (hcol : col < cols) (r : Row) : r.clearWideAt cols col = r.fixWide cols col (col + 1) := by
  have hguard : (decide (col > 0) && decide (col < cols) && (r.get col).has wideCharSpacer) =
      (contains (r.get col).flags wideCharSpacer && decide (col > 0)) := by
    rw [decide_eq_true hcol, Bool.and_true, Bool.and_comm]
    rfl
  unfold clearWideAt fixWide
  rw [if_neg (Nat.not_le.mpr hcol), hguard, Nat.add_sub_cancel]
  dsimp only
  -- the first blanking does not reach the position
  have hwide : ((if (contains (r.get col).flags wideCharSpacer && decide (col > 0)) = true then
      r.modify (col - 1) (Cell.orphan wideChar) else r).get col).has wideChar = contains (r.get col).flags wideChar := by
    split
    · next hcut =>
      have hpos : 0 < col := of_decide_eq_true (Bool.and_eq_true_iff.mp hcut).2
      rw [get_modify, if_neg (by omega)]
      rfl
    · rfl
  rw [hwide, decide_eq_true (Nat.succ_pos col), Bool.true_and, Bool.and_comm]

theorem cols_clearWideAt (cols col : Nat) (r : Row) : (r.clearWideAt cols col).cols = r.cols := by
  by_cases hcol : col < cols
  · rw [clearWideAt_eq hcol, cols_fixWide]
  · rw [clearWideAt, if_pos (Nat.le_of_not_lt hcol)]

/-- The other halves of what is at `col` are blanked. -/
theorem get_clearWideAt (hr : r.cols = cols) (hcol : col < cols) (c : Nat) :
    (r.clearWideAt cols col).get c =
      if c + 1 = col ∧ r.halves.right col = true then (r.get c).orphan wideChar
      else if c = col + 1 ∧ r.halves.left col = true then (r.get c).orphan wideCharSpacer
      else r.get c := by
  rw [clearWideAt_eq hcol, get_fixWide hr (.inl (Nat.lt_succ_self col))]
  simp

/-- The halves after one cell was edited. -/
theorem halves_modify (r : Row) (hcol : col < r.cols) (f : Cell → Cell) (c : Nat) :
    (r.modify col f).halves.left c = (if c = col then (f (r.get col)).has wideChar else r.halves.left c) ∧
      (r.modify col f).halves.right c =
        (if c = col then (f (r.get col)).has wideCharSpacer else r.halves.right c) := by
  unfold Row.halves
  dsimp only
  rw [get_modify]
  by_cases hc : c = col
  · subst hc
    rw [if_pos ⟨rfl, hcol⟩, if_pos rfl, if_pos rfl]
    exact ⟨rfl, rfl⟩
  · rw [if_neg fun h => hc h.1, if_neg hc, if_neg hc]
    exact ⟨rfl, rfl⟩

/-- The halves after a clean-up at `col`: one flag is taken on each side, of what the flags at `col` belong to. -/
theorem halves_clearWideAt_raw (hr : r.cols = cols) (hcol : col < cols) (c : Nat) :
    (r.clearWideAt cols col).halves.left c = (r.halves.left c && !(c + 1 == col && r.halves.right col)) ∧
      (r.clearWideAt cols col).halves.right c = (r.halves.right c && !(c == col + 1 && r.halves.left col)) := by
  have hget := get_clearWideAt hr hcol c
  by_cases hprev : c + 1 = col ∧ r.halves.right col = true
  · have hne : (c == col + 1) = false := beq_eq_false_iff_ne.mpr (by omega)
    rw [if_pos hprev] at hget
    rw [hprev.2, beq_iff_eq.mpr hprev.1, hne]
    refine ⟨?_, ?_⟩
    · show Cell.has _ _ = _
      rw [hget]
      simp
    · show Cell.has _ _ = _
      rw [hget]
      simp
      rfl
  · have hfalse : (c + 1 == col && r.halves.right col) = false := by
      rw [Bool.eq_false_iff]
      intro htrue
      rw [Bool.and_eq_true, beq_iff_eq] at htrue
      exact hprev htrue
    rw [if_neg hprev] at hget
    rw [hfalse, Bool.not_false, Bool.and_true]
    by_cases hnext : c = col + 1 ∧ r.halves.left col = true
    · rw [if_pos hnext] at hget
      rw [hnext.2, beq_iff_eq.mpr hnext.1]
      refine ⟨?_, ?_⟩
      · show Cell.has _ _ = _
        rw [hget, Cell.wide_orphan_spacer]
        rfl
      · show Cell.has _ _ = _
        rw [hget]
        simp
    · have hfalse' : (c == col + 1 && r.halves.left col) = false := by
        rw [Bool.eq_false_iff]
        intro htrue
        rw [Bool.and_eq_true, beq_iff_eq] at htrue
        exact hnext htrue
      rw [if_neg hnext] at hget
      rw [hfalse', Bool.not_false, Bool.and_true]
      unfold Row.halves
      dsimp only
      rw [hget]
      exact ⟨rfl, rfl⟩

theorem halves_fixWide (hr : r.cols = cols) (hle : start < stop ∨ cols ≤ start ∧ stop = cols) (hp : r.WidePaired)
    (c : Nat) :
    (r.fixWide cols start stop).halves.left c = (r.halves.left c && c + 1 != start) ∧
      (r.fixWide cols start stop).halves.right c = (r.halves.right c && c != stop) := by
  have hget := get_fixWide hr hle c
  unfold Row.halves at hget ⊢
  dsimp only at hget ⊢
  rw [hget]
  have hnext := hp.next
  have hfirst := hp.start
  unfold Row.halves at hnext hfirst
  dsimp only at hnext hfirst
  by_cases hprev : c + 1 = start
  · have hsame := hnext c
    rw [hprev] at hsame
    rw [hprev, bne_self_eq_false, Bool.and_false]
    by_cases hspacer : (r.get start).has wideCharSpacer = true
    · have hlt := lt_cols_of_right hspacer
      have hne : c ≠ stop := by omega
      rw [if_pos ⟨rfl, hspacer⟩, bne_iff_ne.mpr hne, Bool.and_true]
      exact ⟨Cell.wide_orphan_wide _, Cell.spacer_orphan_wide _⟩
    · rw [if_neg fun h => hspacer h.2]
      rw [Bool.eq_false_iff.mpr hspacer] at hsame
      by_cases hc : c = stop
      · -- past the end of the row nothing is cut
        have hblank : r.get c = Cell.blank := get_of_le (by omega)
        rw [hblank]
        split
        · exact ⟨Cell.wide_orphan_spacer _, Cell.spacer_orphan_spacer _⟩
        · exact ⟨rfl, rfl⟩
      · rw [if_neg fun h => hc h.1, hsame, bne_iff_ne.mpr hc, Bool.and_true]
        exact ⟨rfl, rfl⟩
  · rw [if_neg fun h => hprev h.1, bne_iff_ne.mpr hprev, Bool.and_true]
    by_cases hc : c = stop
    · subst hc
      rw [bne_self_eq_false, Bool.and_false]
      cases c with
      | zero =>
        exact ⟨rfl, hfirst⟩
      | succ c =>
        by_cases hwide : (r.get c).has wideChar = true
        · rw [if_pos ⟨rfl, Nat.succ_pos c, hwide⟩]
          exact ⟨Cell.wide_orphan_spacer _, Cell.spacer_orphan_spacer _⟩
        · rw [if_neg fun h => hwide h.2.2, ← hnext, Bool.eq_false_iff.mpr hwide]
          exact ⟨rfl, rfl⟩
    · rw [if_neg fun h => hc h.1, bne_iff_ne.mpr hc, Bool.and_true]
      exact ⟨rfl, rfl⟩

/-- In a paired row the other halves are where the clean-up looks for them. -/
theorem halves_clearWideAt (hr : r.cols = cols) (hcol : col < cols) (hp : r.WidePaired) (c : Nat) :
    (r.clearWideAt cols col).halves.left c = (r.halves.left c && c + 1 != col) ∧
      (r.clearWideAt cols col).halves.right c = (r.halves.right c && c != col + 1) := by
  rw [clearWideAt_eq hcol]
  exact halves_fixWide hr (.inl (Nat.lt_succ_self col)) hp c

/-! ## Cells after an operation on a row -/

/-- `for col in left..stop { self[col] = f(col, self[col]) }`. -/
theorem get_forRange_modify (r : Row) (left stop : Nat) (f : Nat → Cell → Cell) (c : Nat) :
    (forRange left stop (fun col r => r.modify col (f col)) r).get c =
      if (left ≤ c ∧ c < stop) ∧ c < r.cols then f c (r.get c) else r.get c := by
  rcases Nat.le_total left stop with hle | hle
  · refine (forRange_induction (P := fun k (r' : Row) => r'.cols = r.cols ∧
      r'.get c = if (left ≤ c ∧ c < k) ∧ c < r.cols then f c (r.get c) else r.get c) hle
      (fun k r' hk _ hr' => ⟨(cols_modify ..).trans hr'.1, ?_⟩) ⟨rfl, ?_⟩).2
    · rw [get_modify, hr'.1, hr'.2]
      by_cases hc : c = k
      · obtain rfl := hc
        have hbefore : ¬ ((left ≤ c ∧ c < c) ∧ c < r.cols) := by omega
        rw [if_neg hbefore]
        by_cases hlt : c < r.cols
        · rw [if_pos ⟨rfl, hlt⟩, if_pos ⟨⟨hk, Nat.lt_succ_self c⟩, hlt⟩]
        · rw [if_neg fun h => hlt h.2, if_neg fun h => hlt h.2]
      · have hiff : ((left ≤ c ∧ c < k) ∧ c < r.cols) ↔ ((left ≤ c ∧ c < k + 1) ∧ c < r.cols) := by omega
        rw [if_neg fun h => hc h.1]
        simp [hiff]
    · have hbefore : ¬ ((left ≤ c ∧ c < left) ∧ c < r.cols) := by omega
      rw [if_neg hbefore]
  · have hnone : stop - left = 0 := by omega
    have hbefore : ¬ ((left ≤ c ∧ c < stop) ∧ c < r.cols) := by omega
    rw [if_neg hbefore]
    unfold forRange
    rw [hnone]
    rfl

theorem get_modifyRange (r : Row) (left stop : Nat) (f : Cell → Cell) (c : Nat) :
    (r.modifyRange left stop f).get c = if (left ≤ c ∧ c < stop) ∧ c < r.cols then f (r.get c) else r.get c :=
  get_forRange_modify r left stop (fun _ => f) c

theorem get_copyRange (src r : Row) (left stop : Nat) (c : Nat) :
    (copyRange src left stop r).get c = if (left ≤ c ∧ c < stop) ∧ c < r.cols then src.get c else r.get c :=
  get_forRange_modify r left stop (fun col _ => src.get col) c

theorem get_resetCells (start stop : Nat) (template : Cell) (r : Row) (c : Nat) :
    (r.resetCells start stop template).get c =
      if (start ≤ c ∧ c < stop) ∧ c < r.cols then template else r.get c := by
  unfold Row.get
  rw [getD_eq_getElem?_getD, getD_eq_getElem?_getD, getElem?_resetCells_eq]
  by_cases hlt : c < r.inner.length
  · rw [getElem?_eq_getElem hlt, map_some, getD_some, getD_some]
    by_cases hin : start ≤ c ∧ c < stop
    · rw [if_pos hin, if_pos ⟨hin, hlt⟩]
    · rw [if_neg hin, if_neg fun h => hin h.1]
  · have hout : ¬ ((start ≤ c ∧ c < stop) ∧ c < r.cols) := fun h => hlt h.2
    rw [if_neg hout, getElem?_eq_none (Nat.le_of_not_lt hlt)]
    rfl

/-- Cells `[col, stop)` moved right by `count`, with the gap filled. -/
def gapped (r : Row) (col count stop : Nat) (template : Cell) (c : Nat) : Cell :=
  if col ≤ c ∧ c < stop then (if c < col + count then template else r.get (c - count)) else r.get c

/-- Cells `[col, stop)` moved left by `count`, with the end filled. -/
def closed (r : Row) (col count stop : Nat) (template : Cell) (c : Nat) : Cell :=
  if col ≤ c ∧ c < stop then (if c < stop - count then r.get (c + count) else template) else r.get c

variable {count : Nat}

section

variable (r) (template : Cell) (hgap : col + count ≤ stop) (hstop : stop ≤ r.cols)
include template hgap hstop

theorem getD_gapped (c : Nat) :
    (mapRange col (col + count) (Cell.reset · template)
      (forRangeRev (col + count) stop (fun i => swap i (i - count)) r.inner)).getD c Cell.blank =
      r.gapped col count stop template c := by
  have hlen := length_forRangeRev_swap (col + count) stop (fun i => i) (fun i => i - count) r.inner
  unfold gapped
  rw [getD_eq_getElem?_getD, getElem?_mapRange]
  by_cases hin : col ≤ c ∧ c < stop
  · rw [if_pos hin]
    by_cases hgapc : c < col + count
    · have hlt : c < (forRangeRev (col + count) stop (fun i => swap i (i - count)) r.inner).length := by
        rw [hlen]
        exact Nat.lt_of_lt_of_le hin.2 hstop
      rw [getElem?_eq_getElem hlt]
      simp [hin.1, hgapc]
    · have hout : ¬ (col ≤ c ∧ c < col + count) := fun h => hgapc h.2
      rw [if_neg hgapc, getElem?_shiftedRight (Nat.le_add_left ..) hgap hstop (by omega) hin.2]
      simp only [if_neg hout, Option.map_id']
      rfl
  · have hout : ¬ (col ≤ c ∧ c < col + count) := by omega
    rw [if_neg hin]
    simp only [if_neg hout, Option.map_id']
    rw [forRangeRev_invariant (fun j l _ _ hl => (getElem?_swap l (by omega) (by omega)).trans hl) rfl]
    rfl

theorem get_openGap (hpos : 0 < stop) (c : Nat) :
    (r.openGap col count stop template).get c =
      if c + 1 = stop ∧ (r.gapped col count stop template c).has wideChar = true then
        (r.gapped col count stop template c).orphan wideChar
      else r.gapped col count stop template c := by
  have hcell := getD_gapped r template hgap hstop
  unfold openGap mapCells Row.get
  dsimp only
  rw [hcell]
  by_cases hlast : c + 1 = stop
  · have hc : stop - 1 = c := by omega
    rw [hc]
    by_cases hwide : (r.gapped col count stop template c).has wideChar = true
    · rw [if_pos (by simp [hpos, hwide]), if_pos ⟨hlast, hwide⟩, ← hcell]
      have hlt : c < (mapRange col (col + count) (Cell.reset · template)
          (forRangeRev (col + count) stop (fun i => swap i (i - count)) r.inner)).length := by
        rw [length_mapRange, length_forRangeRev_swap]
        exact Nat.lt_of_lt_of_le (by omega) hstop
      rw [getD_eq_getElem?_getD, getD_eq_getElem?_getD, getElem?_modify_eq,
        getElem?_eq_getElem hlt]
      rfl
    · rw [if_neg (by simp [hwide]), if_neg fun h => hwide h.2, hcell]
  · have hc : stop - 1 ≠ c := by omega
    have hout : ¬ (c + 1 = stop ∧ (r.gapped col count stop template c).has wideChar = true) :=
      fun h => hlast h.1
    split
    · rw [getD_eq_getElem?_getD, getElem?_modify_ne _ _ hc, ← getD_eq_getElem?_getD, hcell]
    · exact hcell c

theorem get_closeGap (c : Nat) : (r.closeGap col count stop template).get c = r.closed col count stop template c := by
  have hlen := length_forRange_swap col (stop - count) (fun i => i) (fun i => i + count) r.inner
  unfold closeGap mapCells closed Row.get
  rw [getD_eq_getElem?_getD, getElem?_mapRange]
  by_cases hin : col ≤ c ∧ c < stop
  · rw [if_pos hin]
    by_cases hstays : c < stop - count
    · have hout : ¬ (stop - count ≤ c ∧ c < stop) := by omega
      have hbound : stop - count + count ≤ r.inner.length := by
        have hcols : r.inner.length = r.cols := rfl
        omega
      rw [if_pos hstays, getElem?_shiftedLeft (by omega) hbound hin.1 hstays]
      simp only [if_neg hout, Option.map_id']
      rw [← getD_eq_getElem?_getD]
    · have hlt : c < (forRange col (stop - count) (fun i => swap i (i + count)) r.inner).length := by
        rw [hlen]
        exact Nat.lt_of_lt_of_le hin.2 hstop
      rw [getElem?_eq_getElem hlt]
      simp [hin.2, Nat.le_of_not_lt hstays]
  · have hout : ¬ (stop - count ≤ c ∧ c < stop) := by omega
    rw [if_neg hin]
    simp only [if_neg hout, Option.map_id']
    rw [forRange_invariant
      (fun j l _ _ hl => (getElem?_swap l (by omega) (by omega)).trans hl) rfl, ← getD_eq_getElem?_getD]

end

section

variable (r) {left right : Nat} (template : Cell) (hle : left + count ≤ right + 1) (hright : right < r.cols)
include template hle hright

/-- SL in one row closes a gap at the left margin. -/
theorem get_shiftLeft (c : Nat) :
    (r.shiftLeft left right count template).get c = r.closed left count (right + 1) template c := by
  have hinner : (r.shiftLeft left right count template).inner = (r.closeGap left count (right + 1) template).inner := by
    show mapRange _ _ _ _ = mapRange _ _ _ _
    congr 1
    split
    · have hstop : right - count + 1 = right + 1 - count := by omega
      rw [hstop]
    · have hstop : right + 1 - count = left := by omega
      rw [hstop, forRange_self]
  rw [← get_closeGap r template hle hright]
  unfold Row.get
  rw [hinner]

/-- SR in one row opens a gap at the left margin. -/
theorem get_shiftRight (c : Nat) :
    (r.shiftRight left right count template).get c = r.gapped left count (right + 1) template c := by
  rw [← getD_gapped r template hle hright]
  show (mapRange _ _ _ _).getD c Cell.blank = (mapRange _ _ _ _).getD c Cell.blank
  congr 2
  split
  · rfl
  · have hstop : left + count = right + 1 := by omega
    rw [hstop]
    unfold forRangeRev
    rw [Nat.sub_self]
    rfl

end

/-! ## Operations on one row -/

/-- `strip_wide`: the pair at a cell is cleaned up and the cell itself is no half. -/
def stripWide (cols col : Nat) (r : Row) : Row :=
  (r.clearWideAt cols col).modify col (Cell.removeFlags widePair)

/-- A narrow character is written. -/
def writeNarrow (cols col : Nat) (template : Cell) (ch : Char) (r : Row) : Row :=
  (r.clearWideAt cols col).modify col (Cell.draw template ch)

/-- A wide character is written. -/
def writeWide (cols col : Nat) (template : Cell) (ch : Char) (r : Row) : Row :=
  let r := (r.writeNarrow cols col template ch).modify col (Cell.insertFlags wideChar)
  if col + 1 < cols then (r.clearWideAt cols (col + 1)).modify (col + 1) (Cell.drawSpacer template) else r

/-- Columns are inserted in one row. -/
def insertColumns (cols col count stop : Nat) (template : Cell) (r : Row) : Row :=
  let r := r.stripWide cols col
  let r := if stop < cols then r.clearWideAt cols (stop - 1) else r
  r.openGap col count stop template

/-- A spacer that lost its base is blanked, and the row is shifted left. -/
def closeColumns (col count stop : Nat) (template : Cell) (r : Row) : Row :=
  let r :=
    if col + count < stop ∧ (r.get (col + count)).has wideCharSpacer then
      r.modify (col + count) (Cell.orphan wideCharSpacer)
    else r
  r.closeGap col count stop template

/-- Cleaning up the pair at a position and overwriting the position with a plain cell. -/
theorem halves_clear_modify (hr : r.cols = cols) (hcol : col < cols) (hp : r.WidePaired) {f : Cell → Cell}
    (hf : ∀ c, (f c).IsPlain) :
    ((r.clearWideAt cols col).modify col f).halves = r.halves.splice Halves.empty col (col + 1) := by
  have hclear := halves_clearWideAt hr hcol hp
  have hcols : (r.clearWideAt cols col).cols = cols := (cols_clearWideAt ..).trans hr
  refine Halves.eq_splice (fun c hle hlt => ?_) fun c hout => ?_
  · obtain rfl : c = col := by omega
    unfold Row.halves
    dsimp only
    rw [get_modify, if_pos ⟨rfl, by omega⟩]
    exact hf _
  · have hne : c ≠ col := by omega
    have hget := get_modify (r.clearWideAt cols col) col f c
    rw [if_neg fun h => hne h.1] at hget
    have hsame : ((r.clearWideAt cols col).modify col f).halves.left c = (r.clearWideAt cols col).halves.left c ∧
        ((r.clearWideAt cols col).modify col f).halves.right c = (r.clearWideAt cols col).halves.right c := by
      unfold Row.halves
      dsimp only
      rw [hget]
      exact ⟨rfl, rfl⟩
    rw [hsame.1, hsame.2]
    exact hclear c

theorem WidePaired.stripWide (hp : r.WidePaired) (hr : r.cols = cols) (hcol : col < cols) :
    (r.stripWide cols col).WidePaired := by
  unfold WidePaired Row.stripWide
  rw [halves_clear_modify hr hcol hp Cell.isPlain_removeFlags]
  exact Halves.Paired.splice_empty hp (Nat.le_succ col)

/-- Behind the clean-up only the other halves of what was at `col` are gone. -/
theorem halves_stripWide (hr : r.cols = cols) (hcol : col < cols) (hp : r.WidePaired) (hc : c ≠ col) :
    (r.stripWide cols col).halves.left c = (r.halves.left c && c + 1 != col) ∧
      (r.stripWide cols col).halves.right c = (r.halves.right c && c != col + 1) := by
  have hcols : (r.clearWideAt cols col).cols = cols := (cols_clearWideAt ..).trans hr
  have hmodify := halves_modify (r.clearWideAt cols col) (hcol.trans_eq hcols.symm) (Cell.removeFlags widePair) c
  rw [if_neg hc, if_neg hc] at hmodify
  unfold Row.stripWide
  rw [hmodify.1, hmodify.2]
  exact halves_clearWideAt hr hcol hp c

variable {template : Cell}

theorem WidePaired.writeNarrow (hp : r.WidePaired) (hr : r.cols = cols) (hcol : col < cols) (ht : template.IsPlain)
    (ch : Char) : (r.writeNarrow cols col template ch).WidePaired := by
  unfold WidePaired Row.writeNarrow
  rw [halves_clear_modify hr hcol hp fun c => Cell.isPlain_draw c ht ch]
  exact Halves.Paired.splice_empty hp (Nat.le_succ col)

/-- The halves after a wide character was written, in any row whose cell behind `col` is no orphan. -/
theorem halves_writeWide (hr : r.cols = cols) (hnext : col + 1 < cols) (ht : template.IsPlain) (ch : Char)
    (hback : r.halves.right (col + 1) = true → r.halves.left col = true) (c : Nat) :
    (r.writeWide cols col template ch).halves.left c =
        (c == col || (c != col + 1 && (r.halves.left c && !(c + 1 == col && r.halves.right col)))) ∧
      (r.writeWide cols col template ch).halves.right c =
        (c == col + 1 || (c != col && (r.halves.right c && !(c == col + 2 && r.halves.left (col + 1))))) := by
  have hcol : col < cols := Nat.lt_of_succ_lt hnext
  have hclear := halves_clearWideAt_raw hr hcol
  have hcols₁ : (r.clearWideAt cols col).cols = cols := (cols_clearWideAt ..).trans hr
  unfold Row.writeWide Row.writeNarrow
  rw [if_pos hnext]
  have hdraw := halves_modify (r.clearWideAt cols col) (hcol.trans_eq hcols₁.symm) (Cell.draw template ch)
  have hcols₂ : ((r.clearWideAt cols col).modify col (Cell.draw template ch)).cols = cols := (cols_modify ..).trans hcols₁
  have hwide := halves_modify ((r.clearWideAt cols col).modify col (Cell.draw template ch)) (hcol.trans_eq hcols₂.symm)
    (Cell.insertFlags wideChar)
  have hcols₃ : (((r.clearWideAt cols col).modify col (Cell.draw template ch)).modify col
      (Cell.insertFlags wideChar)).cols = cols := (cols_modify ..).trans hcols₂
  have hplain : (((r.clearWideAt cols col).modify col (Cell.draw template ch)).get col).has wideCharSpacer = false := by
    have hself := (hdraw col).2
    rw [if_pos rfl] at hself
    exact hself.trans (Cell.isPlain_draw _ ht ch).2
  -- the row before the spacer is written
  have hmid : ∀ c, (((r.clearWideAt cols col).modify col (Cell.draw template ch)).modify col
        (Cell.insertFlags wideChar)).halves.left c =
          (if c = col then true else r.halves.left c && !(c + 1 == col && r.halves.right col)) ∧
      (((r.clearWideAt cols col).modify col (Cell.draw template ch)).modify col
        (Cell.insertFlags wideChar)).halves.right c =
          (if c = col then false else r.halves.right c && !(c == col + 1 && r.halves.left col)) := by
    intro c
    rw [(hwide c).1, (hwide c).2, (hdraw c).1, (hdraw c).2, (hclear c).1, (hclear c).2]
    by_cases hc : c = col
    · rw [if_pos hc, if_pos hc, if_pos hc, if_pos hc, Cell.wide_insertFlags_wide, Cell.spacer_insertFlags_wide]
      exact ⟨rfl, hplain⟩
    · simp [if_neg hc]
  generalize ((r.clearWideAt cols col).modify col (Cell.draw template ch)).modify col
    (Cell.insertFlags wideChar) = r₃ at hmid hcols₃ ⊢
  have hclear₃ := halves_clearWideAt_raw hcols₃ hnext
  have hcols₄ : (r₃.clearWideAt cols (col + 1)).cols = cols := (cols_clearWideAt ..).trans hcols₃
  have hspacer := halves_modify (r₃.clearWideAt cols (col + 1)) (hnext.trans_eq hcols₄.symm) (Cell.drawSpacer template)
  have hright : r₃.halves.right (col + 1) = false := by
    rw [(hmid (col + 1)).2, if_neg (Nat.succ_ne_self col), beq_self_eq_true]
    cases hb : r.halves.right (col + 1) with
    | false => rfl
    | true => rw [hback hb]; rfl
  have hleft : r₃.halves.left (col + 1) = r.halves.left (col + 1) := by
    have hne : (col + 1 + 1 == col) = false := beq_eq_false_iff_ne.mpr (by omega)
    rw [(hmid (col + 1)).1, if_neg (Nat.succ_ne_self col), hne, Bool.false_and, Bool.not_false, Bool.and_true]
  rw [(hspacer c).1, (hspacer c).2, (hclear₃ c).1, (hclear₃ c).2, (hmid c).1, (hmid c).2, hright, hleft]
  by_cases hc : c = col
  · subst hc
    simp
  · by_cases hc₁ : c = col + 1
    · subst hc₁
      simp
    · have hne : (c == col) = false := beq_eq_false_iff_ne.mpr hc
      have hne₁ : (c == col + 1) = false := beq_eq_false_iff_ne.mpr hc₁
      simp [hc, hc₁, hne, hne₁]

/-- A wide character covers its two columns, and what it cuts is cleaned up. -/
theorem WidePaired.writeWide (hp : r.WidePaired) (hr : r.cols = cols) (hnext : col + 1 < cols)
    (ht : template.IsPlain) (ch : Char) : (r.writeWide cols col template ch).WidePaired := by
  have hhalves := halves_writeWide hr hnext ht ch fun h => (hp.next col).trans h
  refine ⟨?_, fun c => ?_⟩
  · rw [(hhalves 0).2, hp.start]
    simp
  · rw [(hhalves c).1, (hhalves (c + 1)).2, hp.next]
    by_cases hc : c = col
    · subst hc
      simp
    · by_cases hprev : c + 1 = col
      · subst hprev
        simp
      · have hprev' : (c + 1 == col) = false := beq_eq_false_iff_ne.mpr hprev
        by_cases hc₁ : c = col + 1
        · subst hc₁
          simp [hp.next]
        · have hne₂ : (c + 1 == col + 2) = false := beq_eq_false_iff_ne.mpr (by omega)
          rw [hprev', hne₂, bne_iff_ne.mpr hprev, bne_iff_ne.mpr hc₁]
          simp

/-- The halves after a gap was opened: a wide character whose spacer fell off the end is dropped. -/
theorem halves_openGap (r : Row) (ht : template.IsPlain) (hgap : col + count ≤ stop) (hstop : stop ≤ r.cols)
    (hlt : col < stop) (c : Nat) :
    (r.openGap col count stop template).halves.left c =
        (if col ≤ c ∧ c < stop then (col + count ≤ c && r.halves.left (c - count)) && c + 1 != stop else r.halves.left c) ∧
      (r.openGap col count stop template).halves.right c =
        (if col ≤ c ∧ c < stop then col + count ≤ c && r.halves.right (c - count) else r.halves.right c) := by
  have hgapped : (r.gapped col count stop template c).has wideChar =
        (if col ≤ c ∧ c < stop then col + count ≤ c && r.halves.left (c - count) else r.halves.left c) ∧
      (r.gapped col count stop template c).has wideCharSpacer =
        (if col ≤ c ∧ c < stop then col + count ≤ c && r.halves.right (c - count) else r.halves.right c) := by
    unfold gapped
    split
    · split
      · next hc =>
        have hout : ¬ col + count ≤ c := by omega
        rw [decide_eq_false hout]
        exact ht
      · next hc =>
        rw [decide_eq_true (Nat.le_of_not_lt hc)]
        exact ⟨rfl, rfl⟩
    · exact ⟨rfl, rfl⟩
  unfold Row.halves
  dsimp only
  rw [get_openGap r template hgap hstop (by omega)]
  by_cases hlast : c + 1 = stop
  · have hin : col ≤ c ∧ c < stop := by omega
    rw [if_pos hin, if_pos hin, bne_eq_false_iff_eq.mpr hlast, Bool.and_false]
    rw [if_pos hin, if_pos hin] at hgapped
    by_cases hwide : (r.gapped col count stop template c).has wideChar = true
    · rw [if_pos ⟨hlast, hwide⟩]
      exact ⟨Cell.wide_orphan_wide _, (Cell.spacer_orphan_wide _).trans hgapped.2⟩
    · rw [if_neg fun h => hwide h.2]
      exact ⟨Bool.eq_false_iff.mpr hwide, hgapped.2⟩
  · rw [if_neg fun h => hlast h.1, bne_iff_ne.mpr hlast, Bool.and_true]
    exact hgapped

/-- **Inserted columns cut no pair in two**: what would be cut at the cursor and at the end is blanked. -/
theorem WidePaired.insertColumns (hp : r.WidePaired) (hr : r.cols = cols) (hpos : 0 < count)
    (hgap : col + count ≤ stop) (hstop : stop ≤ cols) (ht : template.IsPlain) :
    (r.insertColumns cols col count stop template).WidePaired := by
  have hstrip := hp.stripWide hr (by omega : col < cols)
  have hplain : (r.stripWide cols col).halves.left col = false ∧ (r.stripWide cols col).halves.right col = false := by
    unfold Row.stripWide
    rw [halves_clear_modify hr (by omega) hp Cell.isPlain_removeFlags]
    simp [Halves.splice, Halves.empty]
  have hcols : (r.stripWide cols col).cols = cols := (cols_modify ..).trans ((cols_clearWideAt ..).trans hr)
  unfold Row.insertColumns
  dsimp only
  generalize r.stripWide cols col = r₁ at hstrip hplain hcols ⊢
  -- the clean-up at the margin only takes halves that the shift drops, or that lie outside
  have hmargin : ∀ c, ((if stop < cols then r₁.clearWideAt cols (stop - 1) else r₁).halves.left c =
        (r₁.halves.left c && (c + 2 != stop || stop == cols))) ∧
      ((if stop < cols then r₁.clearWideAt cols (stop - 1) else r₁).halves.right c = (r₁.halves.right c && c != stop)) := by
    intro c
    by_cases hlt : stop < cols
    · have hclear := halves_clearWideAt hcols (by omega : stop - 1 < cols) hstrip c
      have hne : (stop == cols) = false := beq_eq_false_iff_ne.mpr (Nat.ne_of_lt hlt)
      have hprev : (c + 1 != stop - 1) = (c + 2 != stop) := by
        rw [Bool.eq_iff_iff, bne_iff_ne, bne_iff_ne]
        omega
      have hend : stop - 1 + 1 = stop := by omega
      rw [if_pos hlt, hne, Bool.or_false, ← hprev]
      rw [hend] at hclear
      exact hclear
    · have hend : stop = cols := by omega
      have hself : (stop == cols) = true := beq_iff_eq.mpr hend
      rw [if_neg hlt, hself, Bool.or_true, Bool.and_true]
      refine ⟨rfl, ?_⟩
      by_cases hc : c = stop
      · have hfalse : r₁.halves.right c = false := by
          by_contra htrue
          have hbound := lt_cols_of_right (Bool.not_eq_false _ ▸ htrue)
          omega
        rw [hfalse, Bool.false_and]
      · rw [bne_iff_ne.mpr hc, Bool.and_true]
  have hcols₂ : (if stop < cols then r₁.clearWideAt cols (stop - 1) else r₁).cols = cols := by
    split
    · exact (cols_clearWideAt ..).trans hcols
    · exact hcols
  generalize (if stop < cols then r₁.clearWideAt cols (stop - 1) else r₁) = r₂ at hmargin hcols₂ ⊢
  -- the halves after the shift
  have hhalves := halves_openGap r₂ ht hgap (hstop.trans (Nat.le_of_eq hcols₂.symm)) (by omega)
  refine ⟨?_, fun c => ?_⟩
  · rw [(hhalves 0).2]
    split
    · next hin =>
      have hout : ¬ col + count ≤ 0 := by omega
      rw [decide_eq_false hout, Bool.false_and]
    · rw [(hmargin 0).2, hstrip.start, Bool.false_and]
  · rw [(hhalves c).1, (hhalves (c + 1)).2, (hmargin c).1, (hmargin (c + 1)).2, (hmargin (c - count)).1,
      (hmargin (c + 1 - count)).2]
    have hpair := hstrip.next c
    by_cases hin : col ≤ c ∧ c < stop
    · rw [if_pos hin]
      by_cases hlast : c + 1 = stop
      · have hout : ¬ (col ≤ c + 1 ∧ c + 1 < stop) := by omega
        rw [if_neg hout, bne_eq_false_iff_eq.mpr hlast, Bool.and_false, Bool.and_false]
      · have hin' : col ≤ c + 1 ∧ c + 1 < stop := by omega
        rw [if_pos hin', bne_iff_ne.mpr hlast, Bool.and_true]
        by_cases hshift : col + count ≤ c
        · have hpos' : c + 1 - count = c - count + 1 := by omega
          have hne : c - count + 2 ≠ stop := by omega
          have hne' : c - count + 1 ≠ stop := by omega
          rw [decide_eq_true hshift, decide_eq_true (by omega : col + count ≤ c + 1), hpos', bne_iff_ne.mpr hne,
            bne_iff_ne.mpr hne', hstrip.next]
          simp
        · rw [decide_eq_false hshift, Bool.false_and]
          by_cases hfirst : col + count ≤ c + 1
          · have hcol' : c + 1 - count = col := by omega
            rw [hcol', hplain.2]
            simp
          · rw [decide_eq_false hfirst, Bool.false_and]
    · rw [if_neg hin]
      by_cases hprev : c + 1 = col
      · have hin' : col ≤ c + 1 ∧ c + 1 < stop := by omega
        have hout : ¬ col + count ≤ c + 1 := by omega
        have hnone : r₁.halves.left c = false := by
          rw [hpair, hprev]
          exact hplain.2
        rw [if_pos hin', decide_eq_false hout, hnone, Bool.false_and, Bool.false_and]
      · have hout : ¬ (col ≤ c + 1 ∧ c + 1 < stop) := by omega
        have hne : c + 2 ≠ stop := by omega
        have hne' : c + 1 ≠ stop := by omega
        rw [if_neg hout, bne_iff_ne.mpr hne, bne_iff_ne.mpr hne', hpair]
        simp

/-- The halves after a gap was closed. -/
theorem halves_closeGap (r : Row) (ht : template.IsPlain) (hgap : col + count ≤ stop) (hstop : stop ≤ r.cols)
    (c : Nat) :
    (r.closeGap col count stop template).halves.left c =
        (if col ≤ c ∧ c < stop then c < stop - count && r.halves.left (c + count) else r.halves.left c) ∧
      (r.closeGap col count stop template).halves.right c =
        (if col ≤ c ∧ c < stop then c < stop - count && r.halves.right (c + count) else r.halves.right c) := by
  unfold Row.halves
  dsimp only
  rw [get_closeGap r template hgap hstop]
  unfold closed
  split
  · split
    · next hc =>
      rw [decide_eq_true hc]
      exact ⟨rfl, rfl⟩
    · next hc =>
      rw [decide_eq_false hc]
      exact ht
  · exact ⟨rfl, rfl⟩

/-- A spacer that lost its base is cut off; past `col` nothing else changes. -/
theorem halves_cutSpacer (r : Row) (count stop : Nat) {r₁ : Row}
    (h₁ : ∀ c, c ≠ col → r₁.halves.left c = (r.halves.left c && c + 1 != col) ∧ r₁.halves.right c = (r.halves.right c && c != col + 1))
    (hc : c ≠ col) :
    (if col + count < stop ∧ (r₁.get (col + count)).has wideCharSpacer = true then
        r₁.modify (col + count) (Cell.orphan wideCharSpacer) else r₁).halves.left c
      = (r.halves.left c && c + 1 != col) ∧
    (if col + count < stop ∧ (r₁.get (col + count)).has wideCharSpacer = true then
        r₁.modify (col + count) (Cell.orphan wideCharSpacer) else r₁).halves.right c
      = (r.halves.right c && c != col + 1 && !(c == col + count && c < stop)) := by
  have hbase := h₁ c hc
  split
  · next hcut =>
    unfold Row.halves at hbase ⊢
    dsimp only at hbase ⊢
    rw [get_modify_orphan]
    by_cases heq : c = col + count
    · rw [if_pos heq, Cell.wide_orphan_spacer, beq_iff_eq.mpr heq, decide_eq_true (by omega : c < stop)]
      exact ⟨hbase.1, by simp⟩
    · rw [if_neg heq, beq_eq_false_iff_ne.mpr heq]
      exact ⟨hbase.1, by simpa using hbase.2⟩
  · next hcut =>
    refine ⟨hbase.1, ?_⟩
    rw [hbase.2]
    by_cases heq : c = col + count ∧ c < stop
    · have hnone : r₁.halves.right c = false := by
        by_contra htrue
        refine hcut ⟨by omega, ?_⟩
        rw [← heq.1]
        exact Bool.not_eq_false _ ▸ htrue
      rw [hbase.2] at hnone
      rw [hnone, Bool.false_and]
    · have hfalse : (c == col + count && decide (c < stop)) = false := by
        rw [Bool.eq_false_iff]
        intro htrue
        rw [Bool.and_eq_true, beq_iff_eq, decide_eq_true_eq] at htrue
        exact heq htrue
      rw [hfalse, Bool.not_false, Bool.and_true]

section CloseColumns

variable {count stop : Nat} {template : Cell} {r₂ : Row}

section

variable (hp : r.WidePaired) (hpos : 0 < count) (hgap : col + count ≤ stop) (hstop : stop ≤ r₂.cols)
  (ht : template.IsPlain)
  (h₂ : ∀ c, c ≠ col → r₂.halves.left c = (r.halves.left c && c + 1 != col) ∧ r₂.halves.right c = (r.halves.right c && c != col + 1 && !(c == col + count && c < stop)))
include hp hpos hgap hstop ht h₂

/-- The cell at the margin is cleaned up, or no wide character stands there. -/
theorem WidePaired.margin_of_closeGap (hpaired : (r₂.closeGap col count stop template).WidePaired) :
    stop = col + 1 ∨ r.halves.left (stop - 1) = false := by
  have hhalves := halves_closeGap r₂ ht hgap hstop
  by_contra hcut
  obtain ⟨hne, hwide⟩ := not_or.mp hcut
  rw [Bool.not_eq_false] at hwide
  -- the spacer behind the margin is still there, and its base has moved
  have hpair := hpaired.next (stop - 1)
  have hend : stop - 1 + 1 = stop := by omega
  have hspacer : r.halves.right stop = true := by
    have hnext := hp.next (stop - 1)
    rw [hend, hwide] at hnext
    exact hnext.symm
  have hin : col ≤ stop - 1 ∧ stop - 1 < stop := by omega
  have hgone : ¬ stop - 1 < stop - count := by omega
  have hout : ¬ (col ≤ stop ∧ stop < stop) := by omega
  rw [hend, (hhalves (stop - 1)).1, (hhalves stop).2, if_pos hin, decide_eq_false hgone, (h₂ stop (by omega)).2,
    hspacer, bne_iff_ne.mpr hne] at hpair
  simp at hpair

/-- **Nothing is cut** if no wide character stands at the margin. -/
theorem WidePaired.closeGap (hmargin : stop = col + 1 ∨ r.halves.left (stop - 1) = false) :
    (r₂.closeGap col count stop template).WidePaired := by
  have hhalves := halves_closeGap r₂ ht hgap hstop
  refine ⟨?_, fun c => ?_⟩
  · rw [(hhalves 0).2]
    by_cases hin : col ≤ 0 ∧ 0 < stop
    · rw [if_pos hin]
      by_cases hstay : 0 < stop - count
      · have hself : (0 + count == col + count) = true := beq_iff_eq.mpr (by omega)
        have hlt : decide (0 + count < stop) = true := decide_eq_true (by omega)
        rw [(h₂ (0 + count) (by omega)).2, hself, hlt]
        simp
      · rw [decide_eq_false hstay, Bool.false_and]
    · rw [if_neg hin]
      by_cases hcol : col = 0
      · omega
      · rw [(h₂ 0 (Ne.symm hcol)).2, hp.start, Bool.false_and, Bool.false_and]
  · rw [(hhalves c).1, (hhalves (c + 1)).2]
    by_cases hin : col ≤ c ∧ c < stop
    · rw [if_pos hin]
      by_cases hend : c + 1 < stop
      · rw [if_pos ⟨by omega, hend⟩]
        by_cases hstay : c + 1 < stop - count
        · have hne : (c + count + 1 != col) = true := bne_iff_ne.mpr (by omega)
          have hne₁ : (c + 1 + count != col + 1) = true := bne_iff_ne.mpr (by omega)
          have hne₂ : (c + 1 + count == col + count) = false := beq_eq_false_iff_ne.mpr (by omega)
          have hpos' : c + 1 + count = c + count + 1 := by omega
          rw [decide_eq_true (by omega : c < stop - count), decide_eq_true hstay, (h₂ (c + count) (by omega)).1,
            (h₂ (c + 1 + count) (by omega)).2, hne, hne₁, hne₂, hpos', hp.next]
          simp
        · rw [decide_eq_false hstay, Bool.false_and]
          by_cases hlast : c < stop - count
          · have hpos' : c + count = stop - 1 := by omega
            have hnone : r.halves.left (stop - 1) = false := hmargin.resolve_left (by omega)
            rw [(h₂ (c + count) (by omega)).1, hpos', hnone]
            simp
          · rw [decide_eq_false hlast, Bool.false_and]
      · -- the last column of the range is free, and behind it nothing may be left
        have hgone : ¬ c < stop - count := by omega
        have hout : ¬ (col ≤ c + 1 ∧ c + 1 < stop) := by omega
        rw [decide_eq_false hgone, Bool.false_and, if_neg hout, (h₂ (c + 1) (by omega)).2]
        rcases hmargin with hcol | hnone
        · have hself : (c + 1 != col + 1) = false := bne_eq_false_iff_eq.mpr (by omega)
          rw [hself]
          simp
        · have hright : r.halves.right (c + 1) = false := by
            have hnext := hp.next (stop - 1)
            have hpos' : stop - 1 + 1 = c + 1 := by omega
            rw [hpos', hnone] at hnext
            exact hnext.symm
          rw [hright, Bool.false_and, Bool.false_and]
    · rw [if_neg hin]
      by_cases hprev : c + 1 = col
      · have hin' : col ≤ c + 1 ∧ c + 1 < stop := by omega
        have hself : (c + 1 != col) = false := bne_eq_false_iff_eq.mpr hprev
        rw [if_pos hin', (h₂ c (by omega)).1, hself, Bool.and_false]
        by_cases hstay : c + 1 < stop - count
        · have hsame : (c + 1 + count == col + count) = true := beq_iff_eq.mpr (by omega)
          rw [(h₂ (c + 1 + count) (by omega)).2, hsame, decide_eq_true (by omega : c + 1 + count < stop)]
          simp
        · rw [decide_eq_false hstay, Bool.false_and]
      · have hout : ¬ (col ≤ c + 1 ∧ c + 1 < stop) := by omega
        have hne : (c + 1 != col + 1) = true := bne_iff_ne.mpr (by omega)
        have hfalse : (c + 1 == col + count && decide (c + 1 < stop)) = false := by
          rw [Bool.eq_false_iff]
          intro htrue
          rw [Bool.and_eq_true, beq_iff_eq] at htrue
          omega
        rw [if_neg hout, (h₂ c (by omega)).1, (h₂ (c + 1) (by omega)).2, bne_iff_ne.mpr hprev, hne, hfalse, hp.next]
        simp

end

end CloseColumns

/-- **Deleted columns cut a pair exactly at the right margin**: a wide character whose spacer lies behind it moves away
    from the spacer, unless it is the one at `col`, which is cleaned up. The cell at `col` may be anything: it goes. -/
theorem WidePaired.closeColumns_iff (hp : r.WidePaired) (hpos : 0 < count) (hgap : col + count ≤ stop)
    (hstop : stop ≤ cols) (ht : template.IsPlain) {r₁ : Row} (hcols : r₁.cols = cols)
    (h₁ : ∀ c, c ≠ col → r₁.halves.left c = (r.halves.left c && c + 1 != col) ∧ r₁.halves.right c = (r.halves.right c && c != col + 1)) :
    (r₁.closeColumns col count stop template).WidePaired ↔ stop = col + 1 ∨ r.halves.left (stop - 1) = false := by
  unfold Row.closeColumns
  have h₂ := fun c (hc : c ≠ col) => halves_cutSpacer r count stop h₁ hc
  have hcols₂ : (if col + count < stop ∧ (r₁.get (col + count)).has wideCharSpacer = true then
      r₁.modify (col + count) (Cell.orphan wideCharSpacer) else r₁).cols = cols := by
    split
    · exact (cols_modify ..).trans hcols
    · exact hcols
  generalize (if col + count < stop ∧ (r₁.get (col + count)).has wideCharSpacer = true then
      r₁.modify (col + count) (Cell.orphan wideCharSpacer) else r₁) = r₂ at h₂ hcols₂ ⊢
  have hstop₂ : stop ≤ r₂.cols := hstop.trans (Nat.le_of_eq hcols₂.symm)
  exact ⟨hp.margin_of_closeGap hpos hgap hstop₂ ht h₂, hp.closeGap hpos hgap hstop₂ ht h₂⟩

/-- Cleaning up the edges of a range and overwriting the range. -/
theorem halves_fix_overwrite (hr : r.cols = cols) (hle : start < stop) (hp : r.WidePaired) {m : Halves}
    {f : Row → Row} (hout : ∀ r c, ¬ (start ≤ c ∧ c < stop) → (f r).get c = r.get c)
    (hin : ∀ c, start ≤ c → c < stop → (f (r.fixWide cols start stop)).halves.left c = m.left c ∧ (f (r.fixWide cols start stop)).halves.right c = m.right c) :
    (f (r.fixWide cols start stop)).halves = r.halves.splice m start stop := by
  refine Halves.eq_splice hin fun c hc => ?_
  have hfix := halves_fixWide hr (.inl hle) hp c
  have hsame : (f (r.fixWide cols start stop)).get c = (r.fixWide cols start stop).get c := hout _ c hc
  unfold Row.halves at hfix ⊢
  dsimp only at hfix ⊢
  rw [hsame]
  exact hfix

/-- The halves of a range are untouched by the clean-up of its edges. -/
theorem halves_fixWide_inside (hr : r.cols = cols) (hle : start < stop) (hp : r.WidePaired) (hs : start ≤ c)
    (he : c < stop) :
    (r.fixWide cols start stop).halves.left c = r.halves.left c ∧
      (r.fixWide cols start stop).halves.right c = r.halves.right c := by
  have hfix := halves_fixWide hr (.inl hle) hp c
  rw [bne_iff_ne.mpr (by omega : c + 1 ≠ start), bne_iff_ne.mpr (by omega : c ≠ stop), Bool.and_true, Bool.and_true] at hfix
  exact hfix

section

variable (hp : r.WidePaired) (hr : r.cols = cols) {left right : Nat} (hpos : 0 < count)
  (hle : left + count ≤ right + 1) (hright : right < cols) (ht : template.IsPlain)
include hp hr hpos hle hright ht

/-- **SL in one row** cuts the pair at the first column that stays, and the pair across the right margin. -/
theorem WidePaired.shiftLeft_iff :
    ((r.fixWide cols left (right + 1)).shiftLeft left right count template).WidePaired ↔
      left + count < right + 1 → r.halves.right (left + count) = false ∧ r.halves.left right = false := by
  have hcols : (r.fixWide cols left (right + 1)).cols = cols := (cols_fixWide ..).trans hr
  have hget : ∀ c, ((r.fixWide cols left (right + 1)).shiftLeft left right count template).get c = _ :=
    get_shiftLeft _ template hle (by omega)
  have hsplice : ((r.fixWide cols left (right + 1)).shiftLeft left right count template).halves =
      r.halves.splice (r.halves.shiftLeft (right + 1) count) left (right + 1) := by
    refine Halves.eq_splice (fun c hs he => ?_) fun c hc => ?_
    · unfold Row.halves Halves.shiftLeft closed at *
      dsimp only at hget ⊢
      rw [hget, if_pos ⟨hs, he⟩]
      split
      · next hstay =>
        have hsame := halves_fixWide_inside hr (by omega : left < right + 1) hp (by omega : left ≤ c + count)
          (by omega : c + count < right + 1)
        rw [decide_eq_true hstay, Bool.true_and]
        exact hsame
      · next hstay =>
        rw [decide_eq_false hstay]
        exact ht
    · have hfix := halves_fixWide hr (.inl (by omega : left < right + 1)) hp c
      unfold Row.halves closed at *
      dsimp only at hget hfix ⊢
      rw [hget, if_neg hc]
      exact hfix
  unfold WidePaired
  rw [hsplice, Halves.Paired.splice_iff hp (by omega : left < right + 1)]
  by_cases hlt : left + count < right + 1
  · rw [Halves.Paired.whole_shiftLeft hp hpos hlt]
    exact ⟨fun h _ => h, fun h => h hlt⟩
  · exact iff_of_true (Halves.whole_shiftLeft_all _ (by omega) (by omega)) fun h => absurd h hlt

/-- **SR in one row** cuts the pair across the left margin, and the pair at the last column that stays. -/
theorem WidePaired.shiftRight_iff :
    ((r.fixWide cols left (right + 1)).shiftRight left right count template).WidePaired ↔
      left + count < right + 1 → r.halves.right left = false ∧ r.halves.left (right - count) = false := by
  have hcols : (r.fixWide cols left (right + 1)).cols = cols := (cols_fixWide ..).trans hr
  have hget : ∀ c, ((r.fixWide cols left (right + 1)).shiftRight left right count template).get c = _ :=
    get_shiftRight _ template hle (by omega)
  have hsplice : ((r.fixWide cols left (right + 1)).shiftRight left right count template).halves =
      r.halves.splice (r.halves.shiftRight left count) left (right + 1) := by
    refine Halves.eq_splice (fun c hs he => ?_) fun c hc => ?_
    · unfold Row.halves Halves.shiftRight gapped at *
      dsimp only at hget ⊢
      rw [hget, if_pos ⟨hs, he⟩]
      split
      · next hgone =>
        rw [decide_eq_false (by omega : ¬ left + count ≤ c)]
        exact ht
      · next hstay =>
        have hsame := halves_fixWide_inside hr (by omega : left < right + 1) hp (by omega : left ≤ c - count)
          (by omega : c - count < right + 1)
        rw [decide_eq_true (Nat.le_of_not_lt hstay), Bool.true_and]
        exact hsame
    · have hfix := halves_fixWide hr (.inl (by omega : left < right + 1)) hp c
      unfold Row.halves gapped at *
      dsimp only at hget hfix ⊢
      rw [hget, if_neg hc]
      exact hfix
  unfold WidePaired
  rw [hsplice, Halves.Paired.splice_iff hp (by omega : left < right + 1)]
  by_cases hlt : left + count < right + 1
  · rw [Halves.Paired.whole_shiftRight hp hpos hlt]
    exact ⟨fun h _ => h, fun h => h hlt⟩
  · exact iff_of_true (Halves.whole_shiftRight_all _ (by omega) (by omega)) fun h => absurd h hlt

end

/-- **Columns that take their cells from another row** cut the pairs across its margins. -/
theorem WidePaired.copyRange_iff {src : Row} (hp : r.WidePaired) (hr : r.cols = cols) (hsrc : src.WidePaired)
    (hsrcCols : src.cols = cols) {left : Nat} (hle : left < stop) (hstop : stop ≤ cols) :
    (copyRange (src.fixWide cols left stop) left stop (r.fixWide cols left stop)).WidePaired ↔
      src.halves.right left = false ∧ src.halves.left (stop - 1) = false := by
  have hcols : (r.fixWide cols left stop).cols = cols := (cols_fixWide ..).trans hr
  have hsplice : (copyRange (src.fixWide cols left stop) left stop (r.fixWide cols left stop)).halves =
      r.halves.splice src.halves left stop := by
    refine halves_fix_overwrite hr hle hp
      (fun r c hc => ?_) fun c hs he => ?_
    · rw [get_copyRange, if_neg fun h => hc h.1]
    · have hsame := halves_fixWide_inside hsrcCols hle hsrc hs he
      unfold Row.halves at hsame ⊢
      dsimp only at hsame ⊢
      rw [get_copyRange, if_pos ⟨⟨hs, he⟩, by omega⟩]
      exact hsame
  unfold WidePaired
  rw [hsplice, Halves.Paired.splice_iff hp hle]
  exact Halves.Paired.whole_iff hsrc

/-- Overwriting a range with plain cells. -/
theorem WidePaired.overwrite (hp : r.WidePaired) (hr : r.cols = cols) (hle : start < stop) {f : Row → Row}
    (hout : ∀ r c, ¬ (start ≤ c ∧ c < stop) → (f r).get c = r.get c)
    (hin : ∀ c, start ≤ c → c < stop → ((f (r.fixWide cols start stop)).get c).IsPlain) :
    (f (r.fixWide cols start stop)).WidePaired := by
  unfold WidePaired
  rw [halves_fix_overwrite (m := Halves.empty) hr hle hp hout hin]
  exact Halves.Paired.splice_empty hp (Nat.le_of_lt hle)

/-! ## Cleared rows -/

theorem paired_of_plain (h : ∀ c, (r.get c).IsPlain) : r.WidePaired := ⟨(h 0).2, fun c => (h c).1.trans (h (c + 1)).2.symm⟩

/-- What holds of the template and of the cells past the watermark holds after a reset. -/
theorem get_reset_of_tail {P : Cell → Prop} (h : ∀ c ∈ r.tail, P c) (cols : Nat) (ht : P template)
    (hblank : P Cell.blank) (c : Nat) : P ((r.reset cols template).get c) := by
  unfold Row.get
  rw [getD_eq_getElem?_getD, getElem?_reset]
  split
  · split
    · exact ht
    · next hkeep =>
      cases hcell : r.inner[c]? with
      | none => exact ht
      | some cell =>
        have hocc : r.occ ≤ c := by
          have hlt := (List.getElem?_eq_some_iff.mp hcell).1
          unfold resetOcc at hkeep
          split at hkeep
          · omega
          · omega
        exact h cell (mem_tail.mpr ⟨c, hocc, hcell⟩)
  · exact hblank

section

variable (h : r.PlainPastOcc) (cols : Nat) (ht : template.IsPlain) (c : Nat)
include h ht

/-- A reset leaves no half when there is none past the watermark. -/
theorem PlainPastOcc.get_reset :
    ((r.reset cols template).get c).IsPlain := get_reset_of_tail h cols ht Cell.isPlain_blank c

theorem PlainPastOcc.recycle : ((r.recycle cols template).get c).IsPlain := h.get_reset cols ht c

end

theorem plainPastOcc_of_plain (h : ∀ c, (r.get c).IsPlain) : r.PlainPastOcc := by
  intro cell hcell
  obtain ⟨i, -, hi⟩ := mem_tail.mp hcell
  have hget : r.get i = cell := by
    unfold Row.get
    rw [getD_eq_getElem?_getD, hi]
    rfl
  exact hget ▸ h i

theorem plainPastOcc_new (cols : Nat) : (new cols).PlainPastOcc := by
  intro cell hcell
  rw [plainTail_new cols cell hcell]
  exact Cell.isPlain_blank

/-! ## A cell that is overwritten without a clean-up -/

/-- Only the cells matter. -/
theorem WidePaired.of_get (hp : r.WidePaired) (h : ∀ c, r'.get c = r.get c) : r'.WidePaired := by
  have hhalves : r'.halves = r.halves := by
    unfold Row.halves
    simp [h]
  unfold WidePaired
  rw [hhalves]
  exact hp

theorem get_congr (h : r'.inner = r.inner) (c : Nat) : r'.get c = r.get c := by
  unfold Row.get
  rw [h]

theorem WidePaired.of_inner (hp : r.WidePaired) (h : r'.inner = r.inner) : r'.WidePaired := hp.of_get (get_congr h)

theorem widePaired_congr (h : r'.inner = r.inner) : r'.WidePaired ↔ r.WidePaired :=
  ⟨fun hp => hp.of_inner h.symm, fun hp => hp.of_inner h⟩

/-- **A plain cell written over a half** leaves the other half behind. -/
theorem WidePaired.modify_iff (hp : r.WidePaired) (hcol : col < r.cols) {f : Cell → Cell} (hf : (f (r.get col)).IsPlain) :
    (r.modify col f).WidePaired ↔ (r.get col).IsPlain := by
  have hhalves := halves_modify r hcol f
  constructor
  · intro hpaired
    refine ⟨?_, ?_⟩
    · by_contra hwide
      have hleft : r.halves.left col = true := Bool.not_eq_false _ ▸ hwide
      have hnext := hpaired.next col
      rw [(hhalves col).1, (hhalves (col + 1)).2, if_pos rfl, if_neg (Nat.succ_ne_self col), ← hp.next, hleft,
        hf.1] at hnext
      exact Bool.false_ne_true hnext
    · by_contra hspacer
      have hright : r.halves.right col = true := Bool.not_eq_false _ ▸ hspacer
      cases col with
      | zero => rw [hp.start] at hright; cases hright
      | succ col =>
        have hnext := hpaired.next col
        rw [(hhalves col).1, (hhalves (col + 1)).2, if_pos rfl, if_neg (Nat.succ_ne_self col).symm, hp.next, hright,
          hf.2] at hnext
        exact Bool.false_ne_true hnext.symm
  · intro hplain
    have hsame : (r.modify col f).halves = r.halves := by
      ext c
      · rw [(hhalves c).1]
        split
        · next hc =>
          rw [hc, hf.1]
          exact hplain.1.symm
        · rfl
      · rw [(hhalves c).2]
        split
        · next hc =>
          rw [hc, hf.2]
          exact hplain.2.symm
        · rfl
    unfold WidePaired
    rw [hsame]
    exact hp

/-- A flag that is no half may be set on any cell. -/
theorem WidePaired.insertFlags (hp : r.WidePaired) (col : Nat) {flags : CellFlags} (h : Disjoint flags widePair) :
    (r.modify col (Cell.insertFlags flags)).WidePaired := by
  have hsame : (r.modify col (Cell.insertFlags flags)).halves = r.halves := by
    ext c
    · show Cell.has _ _ = Cell.has _ _
      rw [get_modify]
      split
      · exact (Cell.wide_insertFlags _ h).1
      · rfl
    · show Cell.has _ _ = Cell.has _ _
      rw [get_modify]
      split
      · exact (Cell.wide_insertFlags _ h).2
      · rfl
  unfold WidePaired
  rw [hsame]
  exact hp

/-- **A wide character written into the row in which it was padded away** covers the half that the padding left behind
    only when it is the wide cell in front, at one of the two columns written. -/
theorem WidePaired.writeWide_padded_iff (hp : r.WidePaired) (hr : r.cols = cols) (hstart : start < col)
    (hcol : col < cols) (hhalf : ¬ (r.get col).IsPlain) (ht : template.IsPlain) (ch : Char) :
    ((r.modify col Cell.padWide).writeWide cols start template ch).WidePaired ↔
      r.halves.left col = false ∧ (col = start + 1 ∨ col = start + 2) := by
  have hcell := halves_modify r (hcol.trans_eq hr.symm) Cell.padWide
  have hpad : ∀ c, (r.modify col Cell.padWide).halves.left c = (c != col && r.halves.left c) ∧
      (r.modify col Cell.padWide).halves.right c = (c != col && r.halves.right c) := by
    intro c
    rw [(hcell c).1, (hcell c).2]
    by_cases hc : c = col
    · rw [if_pos hc, if_pos hc, bne_eq_false_iff_eq.mpr hc, Bool.false_and]
      exact Cell.isPlain_padWide _
    · rw [if_neg hc, if_neg hc, bne_iff_ne.mpr hc, Bool.true_and]
      exact ⟨rfl, rfl⟩
  have hcols : (r.modify col Cell.padWide).cols = cols := (cols_modify ..).trans hr
  have hback : (r.modify col Cell.padWide).halves.right (start + 1) = true →
      (r.modify col Cell.padWide).halves.left start = true := by
    intro hspacer
    rw [(hpad (start + 1)).2, Bool.and_eq_true] at hspacer
    rw [(hpad start).1, bne_iff_ne.mpr (by omega), hp.next, hspacer.2]
    rfl
  have hhalves := halves_writeWide hcols (by omega : start + 1 < cols) ht ch hback
  generalize (r.modify col Cell.padWide).writeWide cols start template ch = r₁ at hhalves
  generalize r.modify col Cell.padWide = r₂ at hpad hhalves
  constructor
  · intro hpaired
    have hleft : r.halves.left col = false := by
      -- otherwise the spacer behind the padding is an orphan
      by_contra hwide
      have hspacer : r.halves.right (col + 1) = true := (hp.next col).symm.trans (Bool.not_eq_false _ ▸ hwide)
      have hnext := hpaired.next col
      have h₁ : (col == start) = false := beq_eq_false_iff_ne.mpr (by omega)
      have h₂ : (col + 1 == start + 1) = false := beq_eq_false_iff_ne.mpr (by omega)
      have h₃ : (col + 1 != start) = true := bne_iff_ne.mpr (by omega)
      have h₄ : (col + 1 != col) = true := bne_iff_ne.mpr (by omega)
      rw [(hhalves col).1, (hhalves (col + 1)).2, (hpad col).1, (hpad (col + 1)).2, (hpad (start + 1)).1, h₁, h₃,
        hspacer] at hnext
      by_cases hc : col = start + 1
      · rw [hc] at hnext
        simp at hnext
      · have h₅ : (col + 1 == start + 2) = false := beq_eq_false_iff_ne.mpr (by omega)
        rw [h₅] at hnext
        simp at hnext
    refine ⟨hleft, ?_⟩
    by_contra hfar
    -- the wide cell in front of the padding is an orphan
    have hspacer : r.halves.right col = true := by
      by_contra hnone
      exact hhalf ⟨hleft, Bool.eq_false_iff.mpr hnone⟩
    obtain ⟨prev, rfl⟩ : ∃ prev, col = prev + 1 := ⟨col - 1, by omega⟩
    have hwide : r.halves.left prev = true := (hp.next prev).trans hspacer
    have hnext := hpaired.next prev
    have h₁ : (prev == start) = false := beq_eq_false_iff_ne.mpr (by omega)
    have h₂ : (prev + 1 == start + 1) = false := beq_eq_false_iff_ne.mpr (by omega)
    have h₃ : (prev != start + 1) = true := bne_iff_ne.mpr (by omega)
    have h₄ : (prev + 1 == start) = false := beq_eq_false_iff_ne.mpr (by omega)
    have h₅ : (prev != prev + 1) = true := bne_iff_ne.mpr (by omega)
    rw [(hhalves prev).1, (hhalves (prev + 1)).2, (hpad prev).1, (hpad (prev + 1)).2, h₂, h₃, h₄, hwide] at hnext
    simp at hnext
  · rintro ⟨hleft, hnear⟩
    refine ⟨?_, fun c => ?_⟩
    · rw [(hhalves 0).2, (hpad 0).2, hp.start]
      simp
    · rw [(hhalves c).1, (hhalves (c + 1)).2, (hpad c).1, (hpad (c + 1)).2, (hpad (start + 1)).1, (hpad start).2,
        hp.next]
      have hend : r.halves.right (col + 1) = false := (hp.next col).symm.trans hleft
      by_cases hc : c = start
      · rw [hc]
        simp
      · have h₁ : (c == start) = false := beq_eq_false_iff_ne.mpr hc
        have h₂ : (c + 1 == start + 1) = false := beq_eq_false_iff_ne.mpr (by omega)
        rw [h₁, h₂, Bool.false_or, Bool.false_or]
        by_cases hprev : c + 1 = start
        · have h₃ : (start != col) = true := bne_iff_ne.mpr (by omega)
          rw [hprev, h₃]
          simp
        · have h₃ : (c + 1 == start) = false := beq_eq_false_iff_ne.mpr hprev
          rw [h₃, bne_iff_ne.mpr hprev]
          by_cases hc₁ : c = start + 1
          · have h₄ : (c + 1 == start + 2) = true := beq_iff_eq.mpr (by omega)
            rw [h₄, ← hc₁, hp.next]
            by_cases hcol₁ : c = col
            · rw [hcol₁, hend]
              simp
            · rw [bne_iff_ne.mpr hcol₁]
              simp
          · have h₄ : (c + 1 == start + 2) = false := beq_eq_false_iff_ne.mpr (by omega)
            have h₅ : (c + 1 != col) = true := bne_iff_ne.mpr (by omega)
            rw [h₄, h₅, bne_iff_ne.mpr hc₁]
            by_cases hcol₂ : c = col
            · rw [hcol₂, hend]
              simp
            · rw [bne_iff_ne.mpr hcol₂]
              simp

/-- The row before the shift of an insertion. -/
theorem cols_insertPrefix (hr : r.cols = cols) (stop : Nat) :
    (if stop < cols then (r.stripWide cols col).clearWideAt cols (stop - 1) else r.stripWide cols col).cols = cols := by
  have hstrip : (r.stripWide cols col).cols = cols := (cols_modify ..).trans ((cols_clearWideAt ..).trans hr)
  split
  · exact (cols_clearWideAt ..).trans hstrip
  · exact hstrip

/-- The first inserted column is free. -/
theorem isPlain_insertColumns (hr : r.cols = cols) (hpos : 0 < count) (hgap : col + count ≤ stop)
    (hstop : stop ≤ cols) (ht : template.IsPlain) :
    ((r.insertColumns cols col count stop template).get col).IsPlain := by
  have hlt : col < stop := by omega
  have hout : ¬ col + count ≤ col := by omega
  have hcols : (if stop < cols then (r.stripWide cols col).clearWideAt cols (stop - 1) else r.stripWide cols col).cols
      = cols := cols_insertPrefix hr stop
  unfold Row.insertColumns
  dsimp only
  generalize (if stop < cols then (r.stripWide cols col).clearWideAt cols (stop - 1) else r.stripWide cols col) = r₁
    at hcols ⊢
  have hhalves := halves_openGap r₁ ht hgap (hstop.trans (Nat.le_of_eq hcols.symm)) hlt col
  rw [if_pos ⟨Nat.le_refl col, hlt⟩, if_pos ⟨Nat.le_refl col, hlt⟩, decide_eq_false hout] at hhalves
  exact hhalves

/-! ## The watermark -/

theorem PlainPastOcc.raises (h : r.PlainPastOcc) (hraises : Raises r r') : r'.PlainPastOcc :=
  fun c hc => h c (hraises.tail c hc)

/-- What lies past the watermark, by position. -/
theorem plainPastOcc_iff : r.PlainPastOcc ↔ ∀ c, r.occ ≤ c → (r.get c).IsPlain := by
  constructor
  · intro h c hc
    by_cases hlt : c < r.cols
    · have hget : r.inner[c]? = some (r.get c) := by
        have hlt' : c < r.inner.length := hlt
        unfold Row.get
        rw [getD_eq_getElem?_getD, getElem?_eq_getElem hlt']
        rfl
      exact h _ (mem_tail.mpr ⟨c, hc, hget⟩)
    · rw [get_of_le (Nat.le_of_not_lt hlt)]
      exact Cell.isPlain_blank
  · intro h cell hcell
    obtain ⟨i, hi, hget⟩ := mem_tail.mp hcell
    have hcell' : r.get i = cell := by
      unfold Row.get
      rw [getD_eq_getElem?_getD, hget]
      rfl
    exact hcell' ▸ h i hi

theorem raises_clearWideAt (cols col : Nat) (r : Row) : Raises r (r.clearWideAt cols col) := by
  unfold clearWideAt
  split
  · exact .refl r
  · split
    · split
      · exact (raises_modify ..).trans (raises_modify ..)
      · exact raises_modify ..
    · split
      · exact raises_modify ..
      · exact .refl r

/-- Inserted columns push the watermark before them. -/
theorem PlainPastOcc.insertColumns (h : r.PlainPastOcc) (hr : r.cols = cols) (hpos : 0 < count)
    (hgap : col + count ≤ stop) (hstop : stop ≤ cols) (ht : template.IsPlain) :
    ((r.insertColumns cols col count stop template).setOcc
      (min ((r.insertColumns cols col count stop template).occ + count) cols)).PlainPastOcc := by
  have hcols : (if stop < cols then (r.stripWide cols col).clearWideAt cols (stop - 1) else r.stripWide cols col).cols
      = cols := cols_insertPrefix hr stop
  have hstrip : Raises r (r.stripWide cols col) := (raises_clearWideAt cols col r).trans (raises_modify ..)
  have hraises : Raises r
      (if stop < cols then (r.stripWide cols col).clearWideAt cols (stop - 1) else r.stripWide cols col) := by
    split
    · exact hstrip.trans (raises_clearWideAt ..)
    · exact hstrip
  have hplain := plainPastOcc_iff.mp (h.raises hraises)
  have hget := get_openGap _ template hgap (hstop.trans (Nat.le_of_eq hcols.symm)) (by omega)
  unfold Row.insertColumns
  dsimp only
  generalize (if stop < cols then (r.stripWide cols col).clearWideAt cols (stop - 1) else r.stripWide cols col) = r₁
    at hcols hplain hget ⊢
  refine plainPastOcc_iff.mpr fun c hc => ?_
  have hc : min (r₁.occ + count) cols ≤ c := hc
  show ((r₁.openGap col count stop template).get c).IsPlain
  -- past the new watermark the cells come from past the old one
  have hgapped : (r₁.gapped col count stop template c).IsPlain := by
    by_cases hlt : c < cols
    · unfold gapped
      split
      · split
        · exact ht
        · exact hplain (c - count) (by omega)
      · exact hplain c (by omega)
    · unfold gapped
      rw [if_neg (by omega), get_of_le (by omega)]
      exact Cell.isPlain_blank
  rw [hget, if_neg]
  · exact hgapped
  · rintro ⟨-, hwide⟩
    rw [hgapped.1] at hwide
    cases hwide

end Row

end OriTerm
