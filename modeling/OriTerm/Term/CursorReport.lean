import OriTerm.Core.FastPath
import OriTerm.Term.Op
import OriTerm.Term.Snapshot

/-!
# `Term.CursorReport` — the cursor position report and the cursor addressing

DSR 6 reports where the cursor is, CUP, VPA and CHA put it somewhere. Both count from 1, and from the scroll region
under DECOM. The columns of CUP and CHA count from the left margin under DECOM and DECLRMM; the column of the report
does not, and VPA hands the absolute column on as if it did (`Term.OffsetMargins`).

**`Term.cursorReport_iff`**: report and addressing are inverse, and VPA keeps the column, exactly where that makes no
difference.
-/

namespace OriTerm

namespace Term

variable {t : Term}

/-! ## Sequences -/

/-- A parameter of a control sequence; 0 stands for the default. -/
def nextParamOr (default param : Nat) : Nat := if param ≠ 0 then param else default

/-- CUP. -/
def cup (t : Term) (y x : Nat) : Term := t.gotoOriginAware ((nextParamOr 1 y : Int) - 1) (nextParamOr 1 x - 1)

/-- VPA. -/
def vpa (t : Term) (line : Nat) : Term := t.gotoLine ((nextParamOr 1 line : Int) - 1)

/-- CHA and HPA. -/
def cha (t : Term) (col : Nat) : Term := t.gotoCol (nextParamOr 1 col - 1)

/-- The coordinates that DSR 6 reports. -/
def cursorReport (t : Term) : Nat × Nat :=
  let absLine := t.activeGrid.cursor.line
  let line := if t.has .origin then absLine - t.activeGrid.regionStart + 1 else absLine + 1
  (line, t.activeGrid.cursor.col + 1)

/-- DSR. -/
def statusDeviceStatus (t : Term) (arg : Nat) : Term :=
  match arg with
  | 5 => t.emit (.ptyWrite "\x1b[0n".toUTF8.toList .deviceStatus)
  | 6 =>
    let (line, col) := t.cursorReport
    t.emit (.ptyWrite s!"\x1b[{line};{col}R".toUTF8.toList .cursorReport)
  | _ => t

/-! ## Positions -/

/-- The cell the cursor is on: with a wrap pending, the one in front of it. -/
def cursorCell (t : Term) : Nat × Nat :=
  (t.activeGrid.cursor.line,
    if t.activeGrid.MarginWrapPending then t.activeGrid.rightMargin
    else min t.activeGrid.cursor.col (t.activeGrid.cols - 1))

/-- The cells that CUP can reach: their numbers of lines and columns. -/
def addressable (t : Term) : Nat × Nat :=
  (if t.has .origin then t.activeGrid.regionEnd - t.activeGrid.regionStart else t.activeGrid.lines,
    if t.has .origin ∧ t.has .leftRightMargin then t.activeGrid.rightMargin - t.activeGrid.leftMargin + 1
    else t.activeGrid.cols)

/-- The coordinates as near to the given ones as the mode allows. -/
def clamped (t : Term) (r c : Nat) : Nat × Nat := (min (max r 1) t.addressable.1, min (max c 1) t.addressable.2)

/-- The scroll region is a part of the screen. -/
def RegionOk (t : Term) : Prop :=
  t.activeGrid.regionStart < t.activeGrid.regionEnd ∧ t.activeGrid.regionEnd ≤ t.activeGrid.lines

/-- The cursor is on the screen, between the margins (perhaps with a wrap pending there), and under DECOM in the scroll
    region. -/
structure CursorInside (t : Term) : Prop where
  line : t.activeGrid.cursor.line < t.activeGrid.lines
  region : t.has .origin = true →
    t.activeGrid.regionStart ≤ t.activeGrid.cursor.line ∧ t.activeGrid.cursor.line < t.activeGrid.regionEnd
  band : t.activeGrid.cursorInMarginBand = true

/-- Columns count from a left margin that is not the left edge. -/
def OffsetMargins (t : Term) : Prop :=
  t.has .origin = true ∧ t.has .leftRightMargin = true ∧ 0 < t.activeGrid.leftMargin

instance (t : Term) : Decidable t.OffsetMargins := by
  unfold OffsetMargins
  infer_instance

/-! ## Where the cursor goes -/

theorem mode_gridEdit (t : Term) (e : GridEdit) : (t.gridEdit e).mode = t.mode := by
  unfold Term.gridEdit Term.gridOp Term.onGrid
  split <;> rfl

theorem nextParamOr_one (n : Nat) : nextParamOr 1 n = max n 1 := by
  unfold nextParamOr
  split <;> omega

/-- A move to a cell of the screen, and what it leaves of the rest. -/
structure MovedTo (line col : Nat) (t t' : Term) : Prop where
  mode : t'.mode = t.mode
  line : t'.activeGrid.cursor.line = line
  col : t'.activeGrid.cursor.col = col
  lines : t'.activeGrid.lines = t.activeGrid.lines
  cols : t'.activeGrid.cols = t.activeGrid.cols
  margins : t'.activeGrid.leftMargin = t.activeGrid.leftMargin ∧ t'.activeGrid.rightMargin = t.activeGrid.rightMargin
  region : t'.activeGrid.regionStart = t.activeGrid.regionStart ∧ t'.activeGrid.regionEnd = t.activeGrid.regionEnd

theorem MovedTo.has {t' : Term} {line col : Nat} (h : MovedTo line col t t') (flag : TermMode) :
    t'.has flag = t.has flag := by
  unfold Term.has
  rw [h.mode]

theorem movedTo_moveTo (t : Term) (line col : Nat) :
    MovedTo (min line (t.activeGrid.lines - 1)) (min col (t.activeGrid.cols - 1)) t (t.gridEdit (.moveTo line col)) := by
  have hgrid : (t.gridEdit (.moveTo line col)).activeGrid = t.activeGrid.moveTo line col := activeGrid_onGrid t _
  refine ⟨mode_gridEdit t _, ?_, ?_, ?_, ?_, ⟨?_, ?_⟩, ⟨?_, ?_⟩⟩ <;>
    simp only [hgrid, Grid.moveTo, Grid.moveCursorLine, Grid.moveCursorCol, Grid.markLine, Grid.setLine, Grid.setCol]

theorem originAwareCol_le (ht : t.Wf) (col : Nat) : t.originAwareCol col ≤ t.activeGrid.cols - 1 := by
  have hright := ht.activeGrid.right
  unfold originAwareCol
  split <;> omega

theorem wf_gotoOriginAware (ht : t.Wf) (line : Int) (col : Nat) : (t.gotoOriginAware line col).Wf :=
  (keeps_gotoOriginAware (G := ⟨False, False, False, False⟩) ht line col).wf

section

variable (ht : t.Wf) (hregion : t.RegionOk)
include ht hregion

/-- **Where CUP and VPA put the cursor.** -/
theorem movedTo_goto (line : Nat) (col : Nat) :
    MovedTo
      (if t.has .origin then min (line + t.activeGrid.regionStart) (t.activeGrid.regionEnd - 1)
        else min line (t.activeGrid.lines - 1))
      (t.originAwareCol col) t (t.gotoOriginAware line col) := by
  obtain ⟨hstart, hend⟩ := hregion
  have hcol := originAwareCol_le ht col
  unfold gotoOriginAware
  have hmoved := fun target => movedTo_moveTo t target (t.originAwareCol col)
  rw [Nat.min_eq_left hcol] at hmoved
  split
  · have h := hmoved (min (line + t.activeGrid.regionStart) (t.activeGrid.regionEnd - 1))
    rw [Nat.min_eq_left (by omega)] at h
    exact h
  · have h := hmoved (min line (t.activeGrid.lines - 1))
    rw [Nat.min_eq_left (by omega)] at h
    exact h

theorem movedTo_cup (r c : Nat) :
    MovedTo
      (if t.has .origin then min (max r 1 - 1 + t.activeGrid.regionStart) (t.activeGrid.regionEnd - 1)
        else min (max r 1 - 1) (t.activeGrid.lines - 1))
      (t.originAwareCol (max c 1 - 1)) t (t.cup r c) := by
  have hline : ((nextParamOr 1 r : Nat) : Int) - 1 = ((max r 1 - 1 : Nat) : Int) := by
    rw [nextParamOr_one]
    omega
  unfold cup
  rw [hline, nextParamOr_one]
  exact movedTo_goto ht hregion _ _

theorem movedTo_vpa (line : Nat) :
    ∃ target, MovedTo target (t.originAwareCol t.activeGrid.cursor.col) t (t.vpa line) := by
  exact ⟨_, movedTo_goto ht hregion _ _⟩

end

/-! ## Columns -/

/-- The column of the cursor's cell, where the cursor is between the margins. -/
theorem cursorCell_inside (ht : t.Wf) (hband : t.activeGrid.cursorInMarginBand = true) :
    t.cursorCell.2 = min t.activeGrid.cursor.col t.activeGrid.rightMargin := by
  have hright := ht.activeGrid.right
  have hinside := hband
  unfold Grid.cursorInMarginBand at hinside
  simp only [Bool.and_eq_true, decide_eq_true_eq] at hinside
  unfold cursorCell
  by_cases hpending : t.activeGrid.MarginWrapPending
  · rw [if_pos hpending]
    have := hpending.2
    omega
  · rw [if_neg hpending]
    have hne : t.activeGrid.cursor.col ≠ t.activeGrid.rightMargin + 1 := fun h => hpending ⟨hband, h⟩
    omega

/-- The cell of a cursor that was put at a column between the margins. -/
theorem MovedTo.cursorCell {t' : Term} {line col : Nat} (h : MovedTo line col t t') (ht' : t'.Wf)
    (hleft : t.activeGrid.leftMargin ≤ col) (hright : col ≤ t.activeGrid.rightMargin + 1) :
    t'.cursorCell = (line, min col t.activeGrid.rightMargin) := by
  have hband : t'.activeGrid.cursorInMarginBand = true := by
    unfold Grid.cursorInMarginBand
    rw [h.col, h.margins.1, h.margins.2]
    simp only [Bool.and_eq_true, decide_eq_true_eq]
    exact ⟨hleft, hright⟩
  have hcell := cursorCell_inside ht' hband
  rw [h.col, h.margins.2] at hcell
  exact Prod.ext h.line hcell

/-- The column that goes back to itself through the addressing, as a cell. -/
theorem originAwareCol_iff (ht : t.Wf) (hband : t.activeGrid.cursorInMarginBand = true) :
    min (t.originAwareCol t.activeGrid.cursor.col) t.activeGrid.rightMargin
        = min t.activeGrid.cursor.col t.activeGrid.rightMargin
      ↔ (t.OffsetMargins → t.cursorCell.2 = t.activeGrid.rightMargin) := by
  have hright := ht.activeGrid.right
  rw [cursorCell_inside ht hband]
  unfold originAwareCol OffsetMargins
  by_cases hmode : t.has .origin = true ∧ t.has .leftRightMargin = true
  · rw [if_pos hmode]
    simp only [hmode.1, hmode.2, true_and]
    omega
  · rw [if_neg hmode]
    refine iff_of_true (by omega) fun hoffset => absurd ⟨hoffset.1, hoffset.2.1⟩ hmode

/-- The addressing keeps the column between the margins. -/
theorem originAwareCol_inside (ht : t.Wf) (hband : t.activeGrid.cursorInMarginBand = true) :
    t.activeGrid.leftMargin ≤ t.originAwareCol t.activeGrid.cursor.col
      ∧ t.originAwareCol t.activeGrid.cursor.col ≤ t.activeGrid.rightMargin + 1 := by
  have hright := ht.activeGrid.right
  have hleft := ht.activeGrid.left
  unfold Grid.cursorInMarginBand at hband
  simp only [Bool.and_eq_true, decide_eq_true_eq] at hband
  unfold originAwareCol
  split <;> omega

/-! ## Report and addressing -/

section

variable (ht : t.Wf) (hregion : t.RegionOk)
include ht hregion

/-- Sending the report back. -/
theorem cup_cursorReport_iff (hin : t.CursorInside) :
    (t.cup t.cursorReport.1 t.cursorReport.2).cursorCell = t.cursorCell
      ↔ (t.OffsetMargins → t.cursorCell.2 = t.activeGrid.rightMargin) := by
  have hline := hin.line
  have hmoved := movedTo_cup ht hregion t.cursorReport.1 t.cursorReport.2
  have hcol : max t.cursorReport.2 1 - 1 = t.activeGrid.cursor.col := by
    show max (t.activeGrid.cursor.col + 1) 1 - 1 = _
    omega
  have htarget : (if t.has .origin then
      min (max t.cursorReport.1 1 - 1 + t.activeGrid.regionStart) (t.activeGrid.regionEnd - 1)
      else min (max t.cursorReport.1 1 - 1) (t.activeGrid.lines - 1)) = t.activeGrid.cursor.line := by
    unfold cursorReport
    dsimp only
    by_cases horigin : t.has .origin = true
    · have := hin.region horigin
      rw [if_pos horigin, if_pos horigin]
      omega
    · rw [if_neg horigin, if_neg horigin]
      omega
  rw [hcol, htarget] at hmoved
  obtain ⟨hleft, hright⟩ := originAwareCol_inside ht hin.band
  have hwf : (t.cup t.cursorReport.1 t.cursorReport.2).Wf := wf_gotoOriginAware ht _ _
  rw [hmoved.cursorCell hwf hleft hright, ← originAwareCol_iff ht hin.band]
  have hcell : t.cursorCell = (t.activeGrid.cursor.line, min t.activeGrid.cursor.col t.activeGrid.rightMargin) :=
    Prod.ext rfl (cursorCell_inside ht hin.band)
  rw [hcell, Prod.mk.injEq]
  exact and_iff_right rfl

/-- Reporting what was addressed. -/
theorem cursorReport_cup_iff (r c : Nat) : (t.cup r c).cursorReport = t.clamped r c ↔ ¬t.OffsetMargins := by
  obtain ⟨hstart, hend⟩ := hregion
  have hmargin := ht.activeGrid.right
  have hleft := ht.activeGrid.left
  have hmoved := movedTo_cup ht ⟨hstart, hend⟩ r c
  unfold cursorReport clamped addressable
  rw [hmoved.has, hmoved.line, hmoved.col, hmoved.region.1, Prod.mk.injEq]
  have hlines : (if t.has .origin then
        (if t.has .origin then min (max r 1 - 1 + t.activeGrid.regionStart) (t.activeGrid.regionEnd - 1)
          else min (max r 1 - 1) (t.activeGrid.lines - 1)) - t.activeGrid.regionStart + 1
      else (if t.has .origin then min (max r 1 - 1 + t.activeGrid.regionStart) (t.activeGrid.regionEnd - 1)
          else min (max r 1 - 1) (t.activeGrid.lines - 1)) + 1)
      = min (max r 1) (if t.has .origin then t.activeGrid.regionEnd - t.activeGrid.regionStart
          else t.activeGrid.lines) := by
    by_cases horigin : t.has .origin = true
    · simp only [if_pos horigin]
      omega
    · simp only [if_neg horigin]
      omega
  rw [and_iff_right hlines]
  unfold originAwareCol OffsetMargins
  by_cases hmode : t.has .origin = true ∧ t.has .leftRightMargin = true
  · rw [if_pos hmode, if_pos hmode]
    simp only [hmode.1, hmode.2, true_and]
    omega
  · rw [if_neg hmode, if_neg hmode]
    refine iff_of_true (by omega) fun hoffset => hmode ⟨hoffset.1, hoffset.2.1⟩

/-- VPA and the column. -/
theorem cursorCell_vpa_iff (hin : t.CursorInside) (line : Nat) : (t.vpa line).cursorCell.2 = t.cursorCell.2
      ↔ (t.OffsetMargins → t.cursorCell.2 = t.activeGrid.rightMargin) := by
  obtain ⟨target, hmoved⟩ := movedTo_vpa ht hregion line
  obtain ⟨hleft, hright⟩ := originAwareCol_inside ht hin.band
  have hwf : (t.vpa line).Wf := wf_gotoOriginAware ht _ _
  rw [← originAwareCol_iff ht hin.band, hmoved.cursorCell hwf hleft hright, cursorCell_inside ht hin.band]

end

/-- CHA and the line. -/
theorem line_cha (t : Term) (col : Nat) : (t.cha col).activeGrid.cursor.line = t.activeGrid.cursor.line := by
  have hgrid : (t.cha col).activeGrid = t.activeGrid.moveToColumn _ := activeGrid_onGrid t _
  rw [hgrid]
  rfl

/-- **Report and addressing.** For a cursor inside the region and the margins: sending the report back finds its cell,
    and VPA keeps its column, exactly if columns do not count from an offset margin or the cursor is at the right
    margin; what CUP addresses is reported, clamped, exactly if they do not; CHA always keeps the line. -/
theorem cursorReport_iff (ht : t.Wf) (hregion : t.RegionOk) (hin : t.CursorInside) :
    ((t.cup t.cursorReport.1 t.cursorReport.2).cursorCell = t.cursorCell
        ↔ (t.OffsetMargins → t.cursorCell.2 = t.activeGrid.rightMargin))
      ∧ (∀ r c, (t.cup r c).cursorReport = t.clamped r c ↔ ¬t.OffsetMargins)
      ∧ (∀ line, (t.vpa line).cursorCell.2 = t.cursorCell.2
        ↔ (t.OffsetMargins → t.cursorCell.2 = t.activeGrid.rightMargin))
      ∧ ∀ col, (t.cha col).cursorCell.1 = t.cursorCell.1 :=
  ⟨cup_cursorReport_iff ht hregion hin, cursorReport_cup_iff ht hregion, cursorCell_vpa_iff ht hregion hin, line_cha t⟩

/-- A screen of one line and eight columns, DECOM and DECLRMM, margins at the third and the seventh column, and the
    cursor on the fifth. -/
def offsetSample : Term :=
  [TermOp.setPrivateMode .leftRightMargin true, .decslrmOrSaveCursor true 3 7, .setPrivateMode .origin true,
    .gridOp (.edit (.moveToColumn 4))].foldl (TermOp.apply fun _ => some 1) (.new 1 8 0 .dark)

theorem cursorReport_iff_offsetSample :
    ((offsetSample.cup offsetSample.cursorReport.1 offsetSample.cursorReport.2).cursorCell = offsetSample.cursorCell
        ↔ (offsetSample.OffsetMargins → offsetSample.cursorCell.2 = offsetSample.activeGrid.rightMargin))
      ∧ (∀ r c, (offsetSample.cup r c).cursorReport = offsetSample.clamped r c ↔ ¬offsetSample.OffsetMargins)
      ∧ (∀ line, (offsetSample.vpa line).cursorCell.2 = offsetSample.cursorCell.2
        ↔ (offsetSample.OffsetMargins → offsetSample.cursorCell.2 = offsetSample.activeGrid.rightMargin))
      ∧ ∀ col, (offsetSample.cha col).cursorCell.1 = offsetSample.cursorCell.1 := by
  have hwf : offsetSample.Wf := wf_run _ (wf_new 0 .dark (by decide)) _
  exact cursorReport_iff hwf (show _ ∧ _ by decide +kernel) ⟨by decide +kernel, by decide +kernel, by decide +kernel⟩

/-- **The report is off by the left margin**: from the fifth column, back comes the seventh, and VPA goes there, too. -/
theorem report_misses_cell :
    offsetSample.cursorCell = (0, 4) ∧ offsetSample.cursorReport = (1, 5)
      ∧ (offsetSample.cup 1 5).cursorCell = (0, 6) ∧ (offsetSample.cup 1 2).cursorReport = (1, 4)
      ∧ (offsetSample.vpa 1).cursorCell = (0, 6) := by decide +kernel

end Term

end OriTerm
