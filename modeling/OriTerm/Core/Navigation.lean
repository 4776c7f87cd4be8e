import OriTerm.Core.Scroll

/-!
# `Core.Navigation` — cursor movement and tab stops

All movement is clamped to the grid and respects the scroll region and the margins. A move marks the lines it
touches and is `Tracked`; a line feed at the bottom of the region scrolls, and one on the last line below the
region does nothing at all (`linefeedMarks` is false there).
-/

namespace OriTerm

open Lib

/-- Tab clear mode for TBC. -/
inductive TabClearMode where
  | current
  | all
  deriving DecidableEq, Repr

namespace Grid

variable (g : Grid) (count : Nat)

/-- CUU. -/
def moveUp : Grid :=
  let top := if g.cursorInRegion then g.regionStart else 0
  g.moveCursorLine (max (g.cursor.line - count) top)

/-- CUD. -/
def moveDown : Grid :=
  let bottom := if g.cursorInRegion then g.regionEnd - 1 else g.lines - 1
  g.moveCursorLine (min (g.cursor.line + count) bottom)

/-- CUF. -/
def moveForward : Grid :=
  let bound := if g.cursorInMarginBand then g.rightMargin else g.cols - 1
  g.moveCursorCol (min (g.cursor.col + count) bound)

/-- CUB. -/
def moveBackward : Grid :=
  let bound := if g.cursorInMarginBand then g.leftMargin else 0
  g.moveCursorCol (max (g.cursor.col - count) bound)

/-- CUP: absolute, bypassing the margins. -/
def moveTo (line col : Nat) : Grid :=
  (g.moveCursorLine (min line (g.lines - 1))).moveCursorCol (min col (g.cols - 1))

/-- CHA. -/
def moveToColumn (col : Nat) : Grid := g.moveCursorCol (min col (g.cols - 1))

/-- VPA. -/
def moveToLine (line : Nat) : Grid := g.moveCursorLine (min line (g.lines - 1))

/-- CR. -/
def carriageReturn : Grid :=
  g.moveCursorCol (if g.cursorInMarginBand then g.leftMargin else 0)

/-- BS: out of the wrap-pending state it snaps to the last column. -/
def backspace : Grid :=
  if g.cursor.col ≥ g.cols then
    g.moveCursorCol (if g.cursorInMarginBand then g.rightMargin else g.cols - 1)
  else
    let bound := if g.cursorInMarginBand then g.leftMargin else 0
    if g.cursor.col > bound then g.moveCursorCol (g.cursor.col - 1) else g

/-- LF. -/
def linefeed : Grid :=
  let line := g.cursor.line
  if line + 1 = g.regionEnd then g.scrollUp 1
  else if line + 1 < g.lines then g.moveCursorLine (line + 1)
  else g

/-- RI. -/
def reverseIndex : Grid :=
  let line := g.cursor.line
  if line = g.regionStart then g.scrollDown 1
  else if line > 0 then g.moveCursorLine (line - 1)
  else g

/-- NEL. -/
def nextLine : Grid := g.carriageReturn.linefeed

/-- HT: the next tab stop, or the right bound. -/
def tab : Grid :=
  let col := g.cursor.col
  let rightBound := if g.cursorInMarginBand then g.rightMargin else g.cols - 1
  let stop := (List.range' (col + 1) (rightBound - col)).find? fun c => c < g.cols && g.tabStops.getD c false
  g.moveCursorCol (stop.getD rightBound)

/-- CBT: the previous tab stop, or the left bound. -/
def tabBackward : Grid :=
  let col := min g.cursor.col g.cols
  let leftBound := if g.cursorInMarginBand then g.leftMargin else 0
  let stop := (List.range' leftBound (col - leftBound)).reverse.find? fun c => g.tabStops.getD c false
  g.moveCursorCol (stop.getD leftBound)

/-- HTS. -/
def setTabStop : Grid :=
  if g.cursor.col < g.cols then { g with tabStops := g.tabStops.set g.cursor.col true } else g

/-- TBC. -/
def clearTabStop (mode : TabClearMode) : Grid :=
  match mode with
  | .current => if g.cursor.col < g.cols then { g with tabStops := g.tabStops.set g.cursor.col false } else g
  | .all => { g with tabStops := g.tabStops.map fun _ => false }

/-- DECSC. -/
def saveCursor : Grid := { g with savedCursor := some g.cursor }

/-- DECRC: the saved cursor, or the origin. -/
def restoreCursor : Grid :=
  let g' := { g.markLine g.cursor.line with cursor := g.savedCursor.getD {} }
  g'.markLine g'.cursor.line

/-! ## Moves are tracked -/

theorem tracked_moveTo (line col : Nat) : Tracked g (g.moveTo line col) :=
  (tracked_moveCursorLine ..).trans (tracked_moveCursorCol ..)

theorem tracked_backspace : Tracked g g.backspace := by
  unfold backspace
  by_cases hpending : g.cursor.col ≥ g.cols
  · rw [if_pos hpending]
    exact tracked_moveCursorCol ..
  · rw [if_neg hpending]
    by_cases hbound : g.cursor.col > if g.cursorInMarginBand then g.leftMargin else 0
    · rw [if_pos hbound]
      exact tracked_moveCursorCol ..
    · rw [if_neg hbound]

theorem tracked_setTabStop : Tracked g g.setTabStop := by
  unfold setTabStop
  split
  · exact .fields ..
  · exact .refl _ g

theorem tracked_clearTabStop (mode : TabClearMode) : Tracked g (g.clearTabStop mode) := by
  cases mode with
  | current =>
    unfold clearTabStop
    dsimp only
    split
    · exact .fields ..
    · exact .refl _ g
  | all => exact .fields ..

theorem tracked_saveCursor : Tracked g g.saveCursor :=
  .fields ..

theorem tracked_restoreCursor : Tracked g g.restoreCursor := by
  have hcursor : Tracked (g.markLine g.cursor.line)
      { g.markLine g.cursor.line with cursor := g.savedCursor.getD {} } :=
    .fields ..
  exact ((tracked_markLine ..).trans hcursor).trans (tracked_markLine ..)

theorem rolls_reverseIndex : Rolls g g.reverseIndex := by
  unfold reverseIndex
  dsimp only
  split
  · exact rolls_scrollDown g 1
  · split
    · exact (tracked_moveCursorLine ..).rolls
    · exact .refl g

/-! ## Line feeds -/

/-- The line feed repaints the cursor line: it scrolls the region, or moves the cursor. -/
def linefeedMarks : Bool :=
  if g.cursor.line + 1 = g.regionEnd then g.regionStart < g.regionEnd else g.cursor.line + 1 < g.lines

/-- The line feed scrolls. -/
def linefeedScrolls : Bool := g.cursor.line + 1 == g.regionEnd

theorem linefeed_of_scrolls {g : Grid} (h : g.linefeedScrolls = true) : g.linefeed = g.scrollUp 1 := by
  exact if_pos (by simpa [linefeedScrolls] using h)

/-- Without a scroll the line feed only moves the cursor. -/
theorem tracked_linefeed {g : Grid} (h : g.linefeedScrolls = false) : Tracked g g.linefeed := by
  unfold linefeed
  rw [if_neg (by simpa [linefeedScrolls] using h)]
  split
  · exact tracked_moveCursorLine ..
  · exact .refl _ g

theorem scrolls_linefeed {S : Nat → Nat → Prop} {g : Grid} (hg : Framed g) : Scrolls S g g.linefeed := by
  cases h : g.linefeedScrolls with
  | true => rw [linefeed_of_scrolls h]; exact scrolls_scrollUp 1 hg
  | false => exact (tracked_linefeed h).rolls.scrolls hg

/-- A scroll by at least one line marks its region. -/
theorem dirty_scrollUp {g : Grid} {count : Nat} (hlen : g.regionStart < g.regionEnd) (hc : count ≠ 0) :
    (g.scrollUp count).dirty = g.dirty.markRange g.regionStart g.regionEnd := by
  have hevict : ∀ (k : Nat) (x : Grid), (forRange 0 k evictRow x).dirty = x.dirty := by
    intro k x
    refine forRange_invariant (P := fun y : Grid => y.dirty = x.dirty) (fun i y _ _ h => ?_) rfl
    unfold evictRow
    dsimp only
    split <;> exact h
  have hview : ∀ k, (g.dropStale.holdView k).dirty = g.dirty := by
    intro k
    obtain ⟨offset, h, _⟩ := holdView_eq g.dropStale k
    rw [h]
    rfl
  unfold scrollUp scrollRangeUp
  rw [if_neg (by omega), if_neg (by omega), if_neg (by omega)]
  unfold markRange
  split
  · rw [hevict, hview]
  · rfl

/-- The line feed covers the line it leaves, when it marks. -/
theorem covers_linefeed {g : Grid} {col : Nat} (hl : g.cursor.line < g.dirty.lines.length)
    (hc : col < g.dirty.cols) (hmarks : g.linefeedMarks = true) :
    g.linefeed.dirty.Covers g.cursor.line col := by
  unfold linefeedMarks at hmarks
  by_cases hscroll : g.cursor.line + 1 = g.regionEnd
  · rw [if_pos hscroll, decide_eq_true_eq] at hmarks
    rw [linefeed_of_scrolls (by simp [linefeedScrolls, hscroll]), dirty_scrollUp hmarks (by omega)]
    exact DirtyTracker.covers_markRange hl (by omega) (by omega) hc
  · rw [if_neg hscroll, decide_eq_true_eq] at hmarks
    unfold linefeed
    rw [if_neg hscroll, if_pos hmarks]
    -- the move marks the old line first, and marks only grow
    exact (DirtyTracker.grows_mark _ _).covers _ _ hc (DirtyTracker.covers_mark hl hc)

/-- **A line feed that marks pays** for edits in the line it leaves. -/
theorem Edits.linefeed {S : Nat → Nat → Prop} {g g' : Grid} (h : Edits S g g') (hg : Framed g)
    (hS : ∀ i c, S i c → i = g'.cursor.line) (hmarks : g'.linefeedMarks = true) :
    Scrolls nothing g g'.linefeed := by
  have htotal := (h.scrolls hg).trans (scrolls_linefeed (h.framed hg))
  refine { htotal with cells := ?_ }
  intro line col hl hc hne
  rcases htotal.cells line col hl hc hne with howed | hdone
  · right
    obtain rfl := hS line col howed
    exact covers_linefeed (by rw [h.dirty.lines]; exact hl) (by rw [h.dirty.cols]; exact hc) hmarks
  · exact .inr hdone

end Grid

end OriTerm
