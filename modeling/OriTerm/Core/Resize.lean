import OriTerm.Core.Reflow
import OriTerm.Core.RectOps

/-!
# `Core.Resize` — grid resize

A resize changes the number of rows (`resizeRows`: shrinking pushes rows into the scrollback, growing takes
them back), the number of columns, or both. With reflow the whole history is rewritten at the new width;
without it only the visible rows are resized, and the rows already in the scrollback keep the width they have.

`resize_spec` says that the visible part always has the new dimensions and that a change of dimensions
invalidates all damage; `shrinkRows_eq` and `growRows_eq` say what a change of the row count does to the rows
from the oldest to the newest.
-/

namespace OriTerm

open Lib List

/-- Maps old absolute row indices to rows after reflow. -/
structure ReflowMapping where
  firstOutputRow : List Nat
  oldTotalEvicted : Nat
  deriving DecidableEq, Repr

namespace ScrollbackBuffer

/-- Takes the `n` newest rows back, oldest of them first, each at `cols` columns. -/
def restore (sb : ScrollbackBuffer) (cols : Nat) : Nat → ScrollbackBuffer × List Row
  | 0 => (sb, [])
  | n + 1 =>
    let popped := sb.popNewest
    let rest := popped.1.restore cols n
    (rest.1, rest.2 ++ (popped.2.map (·.resize cols)).toList)

/-- Restoring takes rows off the new end. -/
theorem restore_eq (sb : ScrollbackBuffer) (cols : Nat) {n : Nat} (hn : n ≤ sb.len) :
    (sb.restore cols n).1 = sb.popMany n
      ∧ (sb.restore cols n).2 = (sb.rows.drop (sb.len - n)).map (·.resize cols) := by
  induction n generalizing sb with
  | zero => simp [restore, popMany]
  | succ n ih =>
    obtain ⟨hrows, hlast⟩ := rows_popNewest sb
    have hlen := len_popNewest sb
    obtain ⟨hsb, hrest⟩ := ih sb.popNewest.1 (by omega)
    refine ⟨hsb, ?_⟩
    unfold restore
    dsimp only
    rw [hrest, hrows, hlast, hlen]
    have hpos : 0 < sb.rows.length := by rw [length_rows]; omega
    have hne : sb.rows ≠ [] := length_pos_iff.mp hpos
    rw [getLast?_eq_some_getLast hne]
    have hidx : sb.len - (n + 1) = sb.len - 1 - n := by omega
    have hcut : sb.len - 1 - n ≤ sb.rows.dropLast.length := by
      rw [length_dropLast, length_rows]
      omega
    conv_rhs => rw [← dropLast_concat_getLast hne, hidx, drop_append_of_le_length hcut, map_append]
    rfl

end ScrollbackBuffer

/-- A cursor clamped to the screen. -/
def Cursor.clamp (c : Cursor) (maxLine maxCol : Nat) : Cursor :=
  { c with line := min c.line maxLine, col := min c.col maxCol }

namespace Grid

variable {newCols newLines : Nat}

/-! ## The code -/

/-- The loop of `countTrailingBlankRows`: at most `left` more rows may be counted. -/
def countBlankFrom (g : Grid) : Nat → Nat → Nat
  | 0, count => count
  | left + 1, count =>
    let idx := g.rows.length - 1 - count
    if g.rows.length > count + 1 ∧ idx > g.cursor.line ∧ (g.row idx).isBlank then
      g.countBlankFrom left (count + 1)
    else count

/-- Trailing blank rows below the cursor, at most `max`. -/
def countTrailingBlankRows (g : Grid) (max : Nat) : Nat := g.countBlankFrom max 0

/-- Shrinks the visible rows: trailing blanks are trimmed, the rest goes into the scrollback. -/
def shrinkRows (g : Grid) (newLines : Nat) : Grid :=
  let toRemove := g.lines - newLines
  let trimmed := g.countTrailingBlankRows toRemove
  let rows := g.rows.take (g.rows.length - trimmed)
  let pushCount := min (toRemove - trimmed) rows.length
  let pushed := g.scrollback.pushAll (rows.take pushCount)
  { g with
    scrollback := pushed.1
    totalEvicted := g.totalEvicted + pushed.2
    cursor := { g.cursor with line := g.cursor.line - pushCount }
    rows := Lib.resize newLines (Row.new g.cols) (rows.drop pushCount) }

/-- Grows the visible rows: with the cursor at the bottom scrollback rows come back first. -/
def growRows (g : Grid) (newLines : Nat) : Grid :=
  let delta := newLines - g.lines
  if g.cursor.line ≥ g.lines - 1 then
    let fromSb := min delta g.scrollback.len
    let restored := g.scrollback.restore g.cols fromSb
    { g with
      scrollback := restored.1
      resizePushed := g.resizePushed - fromSb
      rows := restored.2 ++ g.rows ++ List.replicate (delta - fromSb) (Row.new g.cols)
      cursor := { g.cursor with line := g.cursor.line + fromSb } }
  else { g with rows := g.rows ++ List.replicate delta (Row.new g.cols) }

/-- Resizes the number of visible lines. -/
def resizeRows (g : Grid) (newLines : Nat) : Grid :=
  if newLines = g.lines then g
  else
    let g := if newLines < g.lines then g.shrinkRows newLines else g.growRows newLines
    { g with lines := newLines, dirty := g.dirty.resize newLines g.cols }

/-- `while rows.len() > min_rows && rows.last().is_blank() { rows.pop() }`. -/
def trimResult (minRows : Nat) (rows : List Row) : List Row :=
  rows.take (max minRows (rows.rdropWhile Row.isBlank).length)

/-- Splits the reflowed rows into scrollback and visible rows and updates the cursor. -/
def applyReflowResult (g : Grid) (outcome : ReflowOutcome) (newCols : Nat) : Grid × List Nat :=
  let result := if outcome.rows.isEmpty then [Row.new newCols] else outcome.rows
  let result := trimResult (max g.lines (outcome.newCursorAbs + 1)) result
  let sbCount := result.length - g.lines
  let pushed := g.scrollback.clear.pushAll (result.take sbCount)
  let sb := pushed.1
  let cursorLine :=
    if outcome.newCursorAbs ≥ sb.len then min (outcome.newCursorAbs - sb.len) (g.lines - 1) else 0
  ({ g with
     scrollback := sb
     totalEvicted := g.totalEvicted + pushed.2
     resizePushed := if result.length > g.lines then sbCount - outcome.newHistoryBoundary else 0
     rows := Lib.resize g.lines (Row.new newCols) (result.drop sbCount)
     cursor := { g.cursor with line := cursorLine, col := min outcome.newCursorCol (newCols - 1) } },
    outcome.firstOutputRow)

/-- Reflows scrollback and visible rows to the new width. -/
def reflowCols (g : Grid) (newCols : Nat) : Grid × Option ReflowMapping :=
  let oldCols := g.cols
  if oldCols = newCols ∨ newCols = 0 then (g, none)
  else
    let oldTotalEvicted := g.totalEvicted
    let drained := g.scrollback.drainOldestFirst
    let allRows := drained.2 ++ g.rows
    let visibleStart := drained.2.length
    let outcome := reflowCells allRows
      { oldCols, newCols
        cursorAbs := visibleStart + g.cursor.line
        cursorCol := g.cursor.col
        historyBoundary := visibleStart - g.resizePushed }
    let applied := { g with scrollback := drained.1, rows := [] }.applyReflowResult outcome newCols
    (applied.1, some { firstOutputRow := applied.2, oldTotalEvicted })

/-- `self.cols = new_cols` and the tab stops reset. -/
def setCols (g : Grid) (newCols : Nat) : Grid := { g with cols := newCols, tabStops := initTabStops newCols }

/-- Without reflow only the visible rows are resized. -/
def resizeNoReflow (g : Grid) (newCols newLines : Nat) : Grid :=
  let g := g.resizeRows newLines
  if newCols ≠ g.cols then setCols { g with rows := g.rows.map fun r => r.resize newCols } newCols else g

/-- Scroll region, margins, cursors, view and damage after a resize. -/
def finalizeResize (g : Grid) : Grid :=
  { g with
    regionStart := 0, regionEnd := g.lines
    leftMargin := 0, rightMargin := g.cols - 1
    cursor := g.cursor.clamp (g.lines - 1) (g.cols - 1)
    savedCursor := g.savedCursor.map fun c => c.clamp (g.lines - 1) (g.cols - 1)
    displayOffset := 0
    dirty := g.dirty.resize g.lines g.cols }

/-- Resizes the grid. -/
def resize (g : Grid) (newLines newCols : Nat) (reflow : Bool) : Grid × Option ReflowMapping :=
  if newCols = 0 ∨ newLines = 0 then (g, none)
  else if newCols = g.cols ∧ newLines = g.lines then (g, none)
  else if reflow ∧ newCols ≠ g.cols then
    if newCols > g.cols then
      let reflowed := g.reflowCols newCols
      (((reflowed.1.setCols newCols).resizeRows newLines).finalizeResize, reflowed.2)
    else
      let reflowed := (g.resizeRows newLines).reflowCols newCols
      ((reflowed.1.setCols newCols).finalizeResize, reflowed.2)
  else ((g.resizeNoReflow newCols newLines).finalizeResize, none)

/-! ## The frame -/

variable {g : Grid}

theorem mem_of_mem_resize {n : Nat} {a r : Row} {l : List Row} (h : r ∈ Lib.resize n a l) : r ∈ l ∨ r = a := by
  rcases mem_append.mp h with hold | hnew
  · exact .inl (mem_of_mem_take hold)
  · exact .inr (eq_of_mem_replicate hnew)

/-- The visible rows have the grid's dimensions. -/
structure Sized (g : Grid) : Prop where
  rows : g.rows.length = g.lines
  width : ∀ r ∈ g.rows, r.cols = g.cols

/-- What a change of the row count does to the widths and the damage. -/
structure RowsResized (newLines : Nat) (g g' : Grid) : Prop where
  lines : g'.lines = newLines
  cols : g'.cols = g.cols
  sized : Sized g'
  uniform : HistoryUniform g → HistoryUniform g'
  dirty : g'.dirty = if newLines = g.lines then g.dirty else g.dirty.resize newLines g.cols

section

variable (hg : Sized g) (newLines : Nat)
include hg

theorem shrinkRows_rows : ∀ r ∈ (g.shrinkRows newLines).rows, r.cols = g.cols := by
  intro r hr
  rcases mem_of_mem_resize hr with hmem | rfl
  · exact hg.width r (mem_of_mem_take (mem_of_mem_drop hmem))
  · exact Row.cols_new _

theorem shrinkRows_uniform (hu : HistoryUniform g) : HistoryUniform (g.shrinkRows newLines) := by
  intro r hr
  rcases mem_pushAll hr with hold | hnew
  · exact hu r hold
  · exact hg.width r (mem_of_mem_take (mem_of_mem_take hnew))

theorem growRows_rows : ∀ r ∈ (g.growRows newLines).rows, r.cols = g.cols := by
  intro r hr
  unfold growRows at hr
  dsimp only at hr
  split at hr
  · rw [(g.scrollback.restore_eq g.cols (Nat.min_le_right ..)).2] at hr
    rcases mem_append.mp hr with hr | hnew
    · rcases mem_append.mp hr with hrestored | hold
      · obtain ⟨r₀, _, rfl⟩ := mem_map.mp hrestored
        exact Row.cols_resize ..
      · exact hg.width r hold
    · obtain rfl := eq_of_mem_replicate hnew
      exact Row.cols_new _
  · rcases mem_append.mp hr with hold | hnew
    · exact hg.width r hold
    · obtain rfl := eq_of_mem_replicate hnew
      exact Row.cols_new _

end

theorem growRows_uniform (newLines : Nat) (hu : HistoryUniform g) : HistoryUniform (g.growRows newLines) := by
  intro r hr
  unfold growRows at hr ⊢
  split at hr
  · rw [if_pos ‹_›]
    dsimp only at hr ⊢
    rw [(g.scrollback.restore_eq g.cols (Nat.min_le_right ..)).1, ScrollbackBuffer.rows_popMany] at hr
    exact hu r (mem_of_mem_take hr)
  · rw [if_neg ‹_›]
    exact hu r hr

theorem length_growRows (hg : Sized g) (h : g.lines ≤ newLines) :
    (g.growRows newLines).rows.length = newLines := by
  unfold growRows
  dsimp only
  split
  · rw [(g.scrollback.restore_eq g.cols (Nat.min_le_right ..)).2]
    simp only [length_append, length_map, length_drop, ScrollbackBuffer.length_rows,
      length_replicate, hg.rows]
    omega
  · simp only [length_append, length_replicate, hg.rows]
    omega

theorem growRows_keeps (newLines : Nat) :
    (g.growRows newLines).cols = g.cols ∧ (g.growRows newLines).dirty = g.dirty := by
  unfold growRows
  split <;> exact ⟨rfl, rfl⟩

theorem rowsResized_resizeRows (hg : Sized g) (newLines : Nat) : RowsResized newLines g (g.resizeRows newLines) := by
  unfold resizeRows
  by_cases hsame : newLines = g.lines
  · rw [if_pos hsame]
    exact ⟨hsame.symm, rfl, hg, id, by rw [if_pos hsame]⟩
  · rw [if_neg hsame]
    by_cases hlt : newLines < g.lines
    · rw [if_pos hlt]
      exact ⟨rfl, rfl, ⟨length_resize .., shrinkRows_rows hg newLines⟩, shrinkRows_uniform hg newLines,
        by rw [if_neg hsame]; rfl⟩
    · obtain ⟨hcols, hd⟩ := growRows_keeps newLines
      rw [if_neg hlt]
      refine ⟨rfl, hcols, ⟨length_growRows hg (by omega), ?_⟩, growRows_uniform newLines, ?_⟩
      · intro r hr
        rw [growRows_rows hg newLines r hr]
        exact hcols.symm
      · rw [if_neg hsame]
        show (g.growRows newLines).dirty.resize newLines (g.growRows newLines).cols = _
        rw [hd, hcols]

theorem countBlankFrom_le (g : Grid) (left count : Nat) : g.countBlankFrom left count ≤ left + count := by
  induction left generalizing count with
  | zero => exact Nat.le_of_eq (Nat.zero_add count).symm
  | succ left ih =>
    unfold countBlankFrom
    dsimp only
    split
    · exact Nat.le_trans (ih (count + 1)) (by omega)
    · omega

/-- At most as many rows are trimmed as must go. -/
theorem countTrailingBlankRows_le (g : Grid) (max : Nat) : g.countTrailingBlankRows max ≤ max :=
  g.countBlankFrom_le max 0

/-- How many rows a shrink pushes into the scrollback. -/
def shrinkPush (g : Grid) (newLines : Nat) : Nat :=
  g.lines - newLines - g.countTrailingBlankRows (g.lines - newLines)

/-- What is left of the scrollback after the rows were adjusted. -/
def historyAfterRows (g : Grid) (newLines : Nat) : Nat :=
  if newLines < g.lines then min (g.scrollback.len + g.shrinkPush newLines) g.scrollback.maxScrollback
  else if g.cursor.line ≥ g.lines - 1 then g.scrollback.len - (newLines - g.lines)
  else g.scrollback.len

/-- **A shrink**, once the trailing blanks are trimmed, only moves the border between scrollback and screen. -/
theorem shrinkRows_eq (hg : Sized g) (h : newLines < g.lines) :
    (g.shrinkRows newLines).scrollback = (g.scrollback.pushAll (g.rows.take (g.shrinkPush newLines))).1
      ∧ (g.shrinkRows newLines).totalEvicted
        = g.totalEvicted + (g.scrollback.pushAll (g.rows.take (g.shrinkPush newLines))).2
      ∧ (g.shrinkRows newLines).rows = (g.rows.take (g.shrinkPush newLines + newLines)).drop (g.shrinkPush newLines) := by
  have htrim := g.countTrailingBlankRows_le (g.lines - newLines)
  have hlen := hg.rows
  have hkeep : g.rows.length - g.countTrailingBlankRows (g.lines - newLines) = g.shrinkPush newLines + newLines := by
    unfold shrinkPush
    omega
  have hpush : min (g.lines - newLines - g.countTrailingBlankRows (g.lines - newLines))
      (g.rows.take (g.shrinkPush newLines + newLines)).length = g.shrinkPush newLines := by
    rw [length_take]
    omega
  have hrows : ((g.rows.take (g.shrinkPush newLines + newLines)).drop (g.shrinkPush newLines)).length = newLines := by
    rw [length_drop, length_take]
    omega
  have htake : (g.rows.take (g.shrinkPush newLines + newLines)).take (g.shrinkPush newLines)
      = g.rows.take (g.shrinkPush newLines) := by
    rw [take_take, Nat.min_eq_left (Nat.le_add_right ..)]
  unfold shrinkRows
  dsimp only
  rw [hkeep, hpush, htake]
  refine ⟨rfl, rfl, ?_⟩
  unfold Lib.resize
  rw [take_of_length_le (by omega), hrows, Nat.sub_self, replicate_zero, append_nil]

/-- **A grow** takes rows back from the scrollback, each at the current width, or none, and appends blank ones. -/
theorem growRows_eq (g : Grid) (newLines : Nat) :
    ∃ n k, n ≤ g.scrollback.len ∧ (g.growRows newLines).scrollback = g.scrollback.popMany n
      ∧ (g.growRows newLines).totalEvicted = g.totalEvicted
      ∧ (g.growRows newLines).rows = (g.scrollback.rows.drop (g.scrollback.len - n)).map (·.resize g.cols)
        ++ g.rows ++ List.replicate k (Row.new g.cols)
      ∧ g.scrollback.len - n = if g.cursor.line ≥ g.lines - 1 then g.scrollback.len - (newLines - g.lines)
        else g.scrollback.len := by
  unfold growRows
  dsimp only
  split
  · obtain ⟨hsb, hrows⟩ := g.scrollback.restore_eq g.cols (Nat.min_le_right (newLines - g.lines) g.scrollback.len)
    refine ⟨min (newLines - g.lines) g.scrollback.len, newLines - g.lines - min (newLines - g.lines) g.scrollback.len,
      Nat.min_le_right .., hsb, rfl, ?_, ?_⟩
    · rw [hrows]
    · omega
  · refine ⟨0, newLines - g.lines, Nat.zero_le _, rfl, rfl, ?_, by omega⟩
    rw [Nat.sub_zero, drop_of_length_le (by rw [ScrollbackBuffer.length_rows])]
    rfl

theorem len_resizeRows (hg : Sized g) (newLines : Nat) :
    (g.resizeRows newLines).scrollback.len = g.historyAfterRows newLines := by
  unfold resizeRows historyAfterRows
  rcases Nat.lt_trichotomy newLines g.lines with hlt | rfl | hgt
  · rw [if_neg (by omega), if_pos hlt, if_pos hlt]
    have hpush : (g.rows.take (g.shrinkPush newLines)).length = g.shrinkPush newLines := by
      rw [length_take, hg.rows]
      unfold shrinkPush
      omega
    rw [(shrinkRows_eq hg hlt).1, ScrollbackBuffer.len_pushAll, hpush]
  · rw [if_pos rfl, if_neg (Nat.lt_irrefl _), Nat.sub_self, Nat.sub_zero, ite_self]
  · rw [if_neg (by omega), if_neg (by omega), if_neg (by omega)]
    obtain ⟨n, _, _, hsb, _, _, hlen⟩ := growRows_eq g newLines
    rw [hsb, ScrollbackBuffer.len_popMany, hlen]

/-- The rows of a reflowed grid are all `newCols` wide. -/
theorem reflowCols_spec (g : Grid) (hne : g.cols ≠ newCols) (h0 : newCols ≠ 0) :
    (g.reflowCols newCols).1.lines = g.lines ∧ (g.reflowCols newCols).1.rows.length = g.lines
      ∧ (∀ r ∈ (g.reflowCols newCols).1.rows, r.cols = newCols)
      ∧ (∀ r ∈ (g.reflowCols newCols).1.scrollback.rows, r.cols = newCols)
      ∧ (g.reflowCols newCols).1.dirty = g.dirty := by
  unfold reflowCols
  rw [if_neg (by omega)]
  dsimp only
  generalize houtcome : reflowCells (g.scrollback.drainOldestFirst.2 ++ g.rows) _ = outcome
  have hwidth : ∀ r ∈ outcome.rows, r.cols = newCols := by
    rw [← houtcome]
    exact cols_reflowCells _ _
  have hresult : ∀ n, ∀ r ∈ trimResult n (if outcome.rows.isEmpty then [Row.new newCols] else outcome.rows),
      r.cols = newCols := by
    intro n r hr
    have hr := mem_of_mem_take hr
    split at hr
    · obtain rfl := mem_singleton.mp hr
      exact Row.cols_new _
    · exact hwidth r hr
  refine ⟨rfl, length_resize .., ?_, ?_, rfl⟩
  · intro r hr
    rcases mem_of_mem_resize hr with hmem | rfl
    · exact hresult _ r (mem_of_mem_drop hmem)
    · exact Row.cols_new _
  · intro r hr
    rcases mem_pushAll hr with hold | hnew
    · cases hold
    · exact hresult _ r (mem_of_mem_take hnew)

theorem framed_finalizeResize (hg : Sized g) : Framed g.finalizeResize :=
  ⟨hg.rows, hg.width, DirtyTracker.length_lines_resize .., DirtyTracker.cols_resize ..⟩

/-- The final damage is total when it was, or when the tracker still had other dimensions. -/
theorem allDirty_finalizeResize
    (h : g.dirty.allDirty = true ∨ g.dirty.cols ≠ g.cols ∨ g.dirty.lines.length ≠ g.lines) :
    g.finalizeResize.dirty.allDirty = true := DirtyTracker.allDirty_resize h

/-- When a resize keeps the widths uniform: it reflows, keeps the width, or leaves no scrollback row. -/
def ResizeUniform (g : Grid) (newLines newCols : Nat) (reflow : Bool) : Prop :=
  reflow = true ∨ newCols = g.cols ∨ newCols = 0 ∨ newLines = 0 ∨ g.historyAfterRows newLines = 0

instance (g : Grid) (newLines newCols : Nat) (reflow : Bool) : Decidable (g.ResizeUniform newLines newCols reflow) := by
  unfold ResizeUniform
  infer_instance

/-- What a resize guarantees: the frame, total damage, and uniform widths when it keeps them. -/
structure Resized (keepsWidths : Prop) (g g' : Grid) : Prop where
  framed : Framed g'
  uniform : HistoryUniform g → keepsWidths → HistoryUniform g'
  allDirty : g'.dirty.allDirty = true
  margins : MarginsOk g'

theorem marginsOk_finalizeResize (h : g.cols ≠ 0) : MarginsOk g.finalizeResize := by
  refine ⟨?_, .inr ⟨rfl, ?_⟩⟩
  · show g.cols - 1 < g.cols
    omega
  · show g.cols - 1 + 1 = g.cols
    omega

variable (hg : Framed g)
include hg

/-- Growing the columns: reflow first, then the rows. -/
theorem resized_growCols (newLines : Nat) (h : newCols > g.cols) (p : Prop) :
    Resized p g (((g.reflowCols newCols).1.setCols newCols).resizeRows newLines).finalizeResize := by
  obtain ⟨hl, hlen, hw, hsb, hd⟩ := reflowCols_spec g (show g.cols ≠ newCols by omega) (by omega)
  have hsized : Sized ((g.reflowCols newCols).1.setCols newCols) := ⟨hlen.trans hl.symm, hw⟩
  have hrows := rowsResized_resizeRows hsized newLines
  have hcols := hrows.cols
  refine ⟨framed_finalizeResize hrows.sized, fun _ _ => hrows.uniform hsb, ?_,
    marginsOk_finalizeResize (by rw [hcols]; show newCols ≠ 0; omega)⟩
  apply allDirty_finalizeResize
  rw [hrows.dirty, hcols]
  have hdirty : ((g.reflowCols newCols).1.setCols newCols).dirty = g.dirty := hd
  have hlines : ((g.reflowCols newCols).1.setCols newCols).lines = g.lines := hl
  rw [hdirty, hlines]
  by_cases hsame : newLines = g.lines
  · rw [if_pos hsame]
    exact .inr (.inl (by rw [hg.dirtyCols]; exact fun he => by have : g.cols = newCols := he; omega))
  · rw [if_neg hsame]
    refine .inl (DirtyTracker.allDirty_resize (.inr (.inr ?_)))
    rw [hg.dirtyLines]
    exact fun he => hsame he.symm

/-- Shrinking the columns: the rows first, then reflow. -/
theorem resized_shrinkCols (newLines : Nat) (h : newCols < g.cols) (h0 : newCols ≠ 0) (p : Prop) :
    Resized p g (((g.resizeRows newLines).reflowCols newCols).1.setCols newCols).finalizeResize := by
  have hrows := rowsResized_resizeRows ⟨hg.rows, hg.width⟩ newLines
  obtain ⟨hl, hlen, hw, hsb, hd⟩ := reflowCols_spec (g.resizeRows newLines)
    (show (g.resizeRows newLines).cols ≠ newCols by rw [hrows.cols]; omega) h0
  refine ⟨framed_finalizeResize ⟨hlen.trans hl.symm, hw⟩, fun _ _ => hsb, ?_, marginsOk_finalizeResize h0⟩
  apply allDirty_finalizeResize
  refine .inr (.inl ?_)
  show ((g.resizeRows newLines).reflowCols newCols).1.dirty.cols ≠ newCols
  rw [hd, hrows.dirty]
  split
  · rw [hg.dirtyCols]
    omega
  · rw [DirtyTracker.cols_resize]
    omega

/-- No reflow: the rows, and only the visible ones get the new width. -/
theorem resized_noReflow (h0 : newCols ≠ 0) (hne : ¬ (newCols = g.cols ∧ newLines = g.lines)) :
    Resized (newCols = g.cols ∨ g.historyAfterRows newLines = 0) g
      (g.resizeNoReflow newCols newLines).finalizeResize := by
  have hrows := rowsResized_resizeRows ⟨hg.rows, hg.width⟩ newLines
  unfold resizeNoReflow
  dsimp only
  rw [hrows.cols]
  by_cases hcols : newCols = g.cols
  · rw [if_neg (fun h => h hcols)]
    have hlines : newLines ≠ g.lines := fun h => hne ⟨hcols, h⟩
    refine ⟨framed_finalizeResize hrows.sized, fun hu _ => hrows.uniform hu, ?_,
      marginsOk_finalizeResize (by rw [hrows.cols]; omega)⟩
    apply allDirty_finalizeResize
    rw [hrows.dirty, if_neg hlines]
    refine .inl (DirtyTracker.allDirty_resize (.inr (.inr ?_)))
    rw [hg.dirtyLines]
    exact fun he => hlines he.symm
  · rw [if_pos hcols]
    refine ⟨framed_finalizeResize ⟨?_, ?_⟩, fun hu hkeep => ?_, ?_, marginsOk_finalizeResize h0⟩
    · show ((g.resizeRows newLines).rows.map _).length = (g.resizeRows newLines).lines
      rw [length_map, hrows.sized.rows]
    · intro r hr
      obtain ⟨r₀, _, rfl⟩ := mem_map.mp hr
      exact Row.cols_resize ..
    · intro r hr
      have hempty : (g.resizeRows newLines).scrollback.rows = [] :=
        length_eq_zero_iff.mp (by
          rw [ScrollbackBuffer.length_rows, len_resizeRows ⟨hg.rows, hg.width⟩]
          exact hkeep.resolve_left hcols)
      have hr : r ∈ (g.resizeRows newLines).scrollback.rows := hr
      rw [hempty] at hr
      cases hr
    · apply allDirty_finalizeResize
      refine .inr (.inl ?_)
      show (g.resizeRows newLines).dirty.cols ≠ newCols
      rw [hrows.dirty]
      split
      · rw [hg.dirtyCols]
        exact fun he => hcols he.symm
      · rw [DirtyTracker.cols_resize]
        exact fun he => hcols he.symm

/-- **Resize** does nothing, or keeps the frame and invalidates everything; the widths stay uniform except for
    rows that a plain column resize leaves behind in the scrollback. -/
theorem resize_spec (newLines newCols : Nat) (reflow : Bool) : (g.resize newLines newCols reflow).1 = g
      ∨ Resized (g.ResizeUniform newLines newCols reflow) g (g.resize newLines newCols reflow).1 := by
  unfold resize
  by_cases hzero : newCols = 0 ∨ newLines = 0
  · rw [if_pos hzero]
    exact .inl rfl
  rw [if_neg hzero]
  by_cases hsame : newCols = g.cols ∧ newLines = g.lines
  · rw [if_pos hsame]
    exact .inl rfl
  rw [if_neg hsame]
  right
  by_cases href : reflow = true ∧ newCols ≠ g.cols
  · rw [if_pos href]
    by_cases hgrow : newCols > g.cols
    · rw [if_pos hgrow]
      exact resized_growCols hg newLines hgrow _
    · rw [if_neg hgrow]
      exact resized_shrinkCols hg newLines (by omega) (by omega) _
  · rw [if_neg href]
    have h := resized_noReflow hg (by omega) hsame
    refine { h with uniform := fun hu hkeep => h.uniform hu ?_ }
    rcases hkeep with hr | hc | hz | hz | hk
    · left
      by_contra hc
      exact href ⟨hr, hc⟩
    · exact .inl hc
    · exact absurd (.inl hz) hzero
    · exact absurd (.inr hz) hzero
    · exact .inr hk

end Grid

end OriTerm
