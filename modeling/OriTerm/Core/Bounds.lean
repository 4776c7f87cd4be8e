import OriTerm.Core.Paints

/-!
# `Core.Bounds` — the bounds of a grid

`Grid.Bounded` puts the coupled quantities of a grid together: the cursor and the saved cursor lie on the
screen (the column may be one past it, wrap pending), the scroll region is a non-empty range of lines, the
margins are ordered, and the view is scrolled back by no more rows than there are in the scrollback.

Most operations leave the cursor where it is (`SameCursor`) or clamp it, and what they do to the rest is known
from `Edits`, `Rolls` and `Scrolls`; `Bounded.scrolls` puts the two together. The exception is ED 2: it takes the
stale reflow overflow out of the scrollback and leaves the view where it was (`KeepsView`), so that the lines
shown may lie past the oldest row.
-/

namespace OriTerm

open Lib List

/-- On a screen of these dimensions, or in the wrap-pending column behind it. -/
def Cursor.Within (c : Cursor) (lines cols : Nat) : Prop := c.line < lines ∧ c.col ≤ cols

namespace Grid

/-- **Bounded.** The bounds every operation should keep. -/
structure Bounded (g : Grid) : Prop extends Wf g where
  cursor : g.cursor.Within g.lines g.cols
  saved : ∀ c ∈ g.savedCursor, c.Within g.lines g.cols
  region : g.regionStart < g.regionEnd ∧ g.regionEnd ≤ g.lines
  view : g.displayOffset ≤ g.scrollback.len

/-- The same without the view, unless `V` asks for it. -/
structure Placed (V : Prop) (g : Grid) : Prop extends Wf g where
  cursor : g.cursor.Within g.lines g.cols
  saved : ∀ c ∈ g.savedCursor, c.Within g.lines g.cols
  region : g.regionStart < g.regionEnd ∧ g.regionEnd ≤ g.lines
  view : V → g.displayOffset ≤ g.scrollback.len

variable {S : Nat → Nat → Prop} {V : Prop} {g g' g'' : Grid}

theorem Bounded.placed (hb : Bounded g) : Placed V g := { hb with view := fun _ => hb.view }

theorem Placed.bounded (hb : Placed True g) : Bounded g := { hb with view := hb.view trivial }

theorem bounded_withScrollback {lines cols : Nat} (maxScrollback : Nat) (hl : 0 < lines) (hc : 0 < cols) :
    Bounded (withScrollback lines cols maxScrollback) := by
  refine { wf_withScrollback lines maxScrollback hc with
           cursor := ⟨hl, Nat.zero_le _⟩, saved := ?_, region := ⟨hl, Nat.le_refl _⟩, view := Nat.zero_le _ }
  intro c hc
  cases hc

theorem MarginsOk.margins (hb : MarginsOk g) : g.leftMargin ≤ g.rightMargin ∧ g.rightMargin < g.cols := by
  have hr := hb.right
  rcases hb.left with hlt | ⟨h0, _⟩ <;> omega

/-- **The lines shown exist**: at the display offset every line of the view is a row of the history. -/
theorem Bounded.shown (hb : Bounded g) {line : Nat} (hl : line < g.lines) :
    (g.absoluteRow (g.scrollback.len - g.displayOffset + line)).isSome := by
  unfold absoluteRow
  dsimp only
  split
  · next h =>
    rw [ScrollbackBuffer.get_eq, if_pos (by omega),
      getElem?_eq_getElem (by rw [ScrollbackBuffer.length_rows]; omega)]
    rfl
  · next h =>
    have hidx : g.scrollback.len - g.displayOffset + line - g.scrollback.len < g.rows.length := by
      rw [hb.rows]
      omega
    rw [getElem?_eq_getElem hidx]
    rfl

/-! ## Operations that leave the cursor alone -/

/-- The cursor and the saved cursor are the same. -/
structure SameCursor (g g' : Grid) : Prop where
  cursor : g'.cursor = g.cursor
  saved : g'.savedCursor = g.savedCursor

@[refl] theorem SameCursor.refl (g : Grid) : SameCursor g g := ⟨rfl, rfl⟩

theorem SameCursor.trans (h : SameCursor g g') (h' : SameCursor g' g'') : SameCursor g g'' :=
  ⟨h'.cursor.trans h.cursor, h'.saved.trans h.saved⟩

/-- Edits of rows leave the cursor alone, whatever they mark. -/
theorem Paints.sameCursor (h : Paints False g g') : SameCursor g g' := by
  induction h with
  | refl => exact .refl g
  | same _ _ _ hcursor hsaved ih => exact ih.trans ⟨hcursor, hsaved⟩
  | markLine _ line ih | markAll _ ih | markRange _ start stop ih | markSpan _ line _ ih => exact ⟨ih.cursor, ih.saved⟩

theorem SameCursor.markCols (line left right : Nat) (h : SameCursor g g') :
    SameCursor g (g'.markCols line left right) := ⟨h.cursor, h.saved⟩

theorem SameCursor.setCol (col : Nat) (h : SameCursor g g') : SameCursor (g.setCol col) (g'.setCol col) :=
  ⟨by show { g'.cursor with col := col } = { g.cursor with col := col }; rw [h.cursor], h.saved⟩

/-- The write of a character moves the cursor behind it, and does nothing else to it. -/
theorem sameCursor_writeChar (g : Grid) (width : Nat) (ch : Char) :
    SameCursor (g.setCol (g.cursor.col + width)) (g.writeChar width ch) := by
  have hdraw := (paints_clearWideCharAt (B := False) g g.cursor.line g.cursor.col).editCell g.cursor.line g.cursor.col
    (Cell.draw g.cursor.template ch)
  unfold writeChar
  split
  · exact ((hdraw.trans (paints_writeSpacer ..)).sameCursor.setCol _).markCols ..
  · exact (hdraw.sameCursor.setCol _).markCols ..

/-! ## Operations one by one -/

section

variable (hb : Placed V g)
include hb

/-- **A scroll or an edit keeps the bounds** when the cursors and the view are where they should be. -/
theorem Placed.scrolls (h : Scrolls S g g') (hcur : g'.cursor.Within g.lines g.cols)
    (hsaved : ∀ c ∈ g'.savedCursor, c.Within g.lines g.cols) (hview : V → g'.displayOffset ≤ g'.scrollback.len) :
    Placed V g' := by
  refine { h.framed, hb.toMarginsOk.of_band h.toBandKept h.cols with
           cursor := ?_, saved := ?_, region := ?_, view := hview }
  · rw [h.lines, h.cols]
    exact hcur
  · rw [h.lines, h.cols]
    exact hsaved
  · rw [h.region.1, h.region.2, h.lines]
    exact hb.region

theorem Placed.rolls (h : Rolls g g') (hcur : g'.cursor.Within g.lines g.cols)
    (hsaved : ∀ c ∈ g'.savedCursor, c.Within g.lines g.cols) : Placed V g' := by
  refine hb.scrolls (h.scrolls (S := nothing) hb.toFramed) hcur hsaved ?_
  rw [h.scrollback, h.displayOffset]
  exact hb.view

/-- What leaves the cursor and the history alone. -/
theorem Placed.steady (h : Rolls g g') (hc : SameCursor g g') : Placed V g' := by
  refine hb.rolls h ?_ ?_
  · rw [hc.cursor]
    exact hb.cursor
  · rw [hc.saved]
    exact hb.saved

theorem Placed.paints (h : Rolls g g') (hp : Paints False g g') : Placed V g' := hb.steady h hp.sameCursor

theorem Placed.moveCursorLine {line : Nat} (h : line < g.lines) : Placed V (g.moveCursorLine line) :=
  hb.rolls (tracked_moveCursorLine g line).rolls ⟨h, hb.cursor.2⟩ hb.saved

theorem Placed.moveCursorCol {col : Nat} (h : col ≤ g.cols) : Placed V (g.moveCursorCol col) :=
  hb.rolls (tracked_moveCursorCol g col).rolls ⟨hb.cursor.1, h⟩ hb.saved

theorem Placed.setCol {col : Nat} (h : col ≤ g.cols) : Placed V (g.setCol col) :=
  hb.rolls (Edits.rolls (edits_setCol g col)) ⟨hb.cursor.1, h⟩ hb.saved

theorem Placed.moveTo (line col : Nat) : Placed V (g.moveTo line col) := by
  have hl := hb.cursor.1
  refine Placed.moveCursorCol (hb.moveCursorLine (by omega)) ?_
  show min col (g.cols - 1) ≤ g.cols
  omega

theorem Placed.moveUp (count : Nat) : Placed V (g.moveUp count) := by
  obtain ⟨hl, _⟩ := hb.cursor
  refine hb.moveCursorLine ?_
  by_cases hin : g.cursorInRegion = true
  · have hregion : g.regionStart ≤ g.cursor.line ∧ g.cursor.line < g.regionEnd := by
      simpa [cursorInRegion] using hin
    rw [if_pos hin]
    omega
  · rw [if_neg hin]
    omega

theorem Placed.moveDown (count : Nat) : Placed V (g.moveDown count) := by
  obtain ⟨hlt, hle⟩ := hb.region
  refine hb.moveCursorLine ?_
  split <;> omega

/-- The right end of a line, seen from the cursor. -/
theorem Placed.rightBound : (if g.cursorInMarginBand then g.rightMargin else g.cols - 1) < g.cols := by
  have hr := hb.right
  split <;> omega

/-- The left end of a line, seen from the cursor. -/
theorem Placed.leftBound : (if g.cursorInMarginBand then g.leftMargin else 0) < g.cols := by
  obtain ⟨hle, hr⟩ := hb.margins
  split <;> omega

theorem Placed.moveForward (count : Nat) : Placed V (g.moveForward count) := by
  have hright := hb.rightBound
  refine hb.moveCursorCol ?_
  omega

theorem Placed.moveBackward (count : Nat) : Placed V (g.moveBackward count) := by
  have hleft := hb.leftBound
  have hc := hb.cursor.2
  refine hb.moveCursorCol ?_
  omega

theorem Placed.carriageReturn : Placed V g.carriageReturn :=
  hb.moveCursorCol (Nat.le_of_lt hb.leftBound)

theorem Placed.backspace : Placed V g.backspace := by
  unfold Grid.backspace
  by_cases hpending : g.cursor.col ≥ g.cols
  · rw [if_pos hpending]
    exact hb.moveCursorCol (Nat.le_of_lt hb.rightBound)
  · rw [if_neg hpending]
    by_cases hbound : g.cursor.col > if g.cursorInMarginBand then g.leftMargin else 0
    · rw [if_pos hbound]
      exact hb.moveCursorCol (by omega)
    · rw [if_neg hbound]
      exact hb

end

/-- A tab stop found lies before the bound of the search. -/
theorem getD_find_lt {is : List Nat} {p : Nat → Bool} {bound d : Nat} (his : ∀ i ∈ is, i < bound) (hd : d < bound) :
    (is.find? p).getD d < bound := by
  cases h : is.find? p with
  | none => exact hd
  | some i => exact his i (mem_of_find?_eq_some h)

theorem Placed.tab (hb : Placed V g) : Placed V g.tab := by
  have hright := hb.rightBound
  refine hb.moveCursorCol (Nat.le_of_lt (getD_find_lt (fun i hi => ?_) hright))
  have := mem_range'_1.mp hi
  omega

theorem Placed.tabBackward (hb : Placed V g) : Placed V g.tabBackward := by
  have hleft := hb.leftBound
  refine hb.moveCursorCol (Nat.le_of_lt (getD_find_lt (fun i hi => ?_) hleft))
  have := mem_range'_1.mp (mem_reverse.mp hi)
  omega

theorem Placed.restoreCursor (hb : Placed V g) : Placed V g.restoreCursor := by
  refine hb.rolls (tracked_restoreCursor g).rolls ?_ hb.saved
  show (g.savedCursor.getD {}).Within g.lines g.cols
  cases h : g.savedCursor with
  | none => exact ⟨Nat.lt_of_le_of_lt (Nat.zero_le _) hb.cursor.1, Nat.zero_le _⟩
  | some c => exact hb.saved c h

theorem Placed.saveCursor (hb : Placed V g) : Placed V g.saveCursor := by
  refine hb.rolls (tracked_saveCursor g).rolls hb.cursor fun c hc => ?_
  obtain rfl := Option.some.inj hc
  exact hb.cursor

/-- An eviction moves no view. -/
theorem displayOffset_evictRows (k : Nat) (g : Grid) : (forRange 0 k evictRow g).displayOffset = g.displayOffset := by
  refine forRange_invariant (P := fun x : Grid => x.displayOffset = g.displayOffset) (fun i x _ _ hx => ?_) rfl
  unfold evictRow
  dsimp only
  split <;> exact hx

section

variable (hb : Placed V g)
include hb

/-- **The view of a full-screen scroll** follows the rows that are pushed, as far as the scrollback goes. -/
theorem Placed.view_scrollUp (count : Nat) :
    V → (g.scrollUp count).displayOffset ≤ (g.scrollUp count).scrollback.len := by
  by_cases hfull : g.isFullScreen = true
  · intro _
    have hpos : 0 < g.lines := by have := hb.cursor.1; omega
    obtain ⟨fresh, h⟩ := scrollUp_fullScreen g count hb.toFramed hfull hpos
    have hregion : g.regionStart = 0 ∧ g.regionEnd = g.lines := by simpa [isFullScreen] using hfull
    have hoffset : (g.scrollUp count).displayOffset = (g.dropStale.holdView (min count g.lines)).displayOffset := by
      unfold Grid.scrollUp
      dsimp only
      rw [hregion.1, hregion.2, Nat.sub_zero, if_neg (by omega), if_pos hfull,
        (rolls_scrollRange ..).1.displayOffset, displayOffset_evictRows]
    have hpushed : (g.rows.take (min count g.lines)).length = min count g.lines := by
      rw [length_take, hb.rows]
      omega
    rw [hoffset, h.scrollback, ScrollbackBuffer.len_pushAll, hpushed]
    unfold holdView
    split
    · show min (g.dropStale.displayOffset + _) (min (g.freshScrollback.len + _) g.freshScrollback.maxScrollback) ≤ _
      omega
    · next h0 =>
      have hzero : g.dropStale.displayOffset = 0 := by omega
      rw [hzero]
      exact Nat.zero_le _
  · have hrolls := rolls_scrollUp g count (by simpa using hfull)
    rw [hrolls.scrollback, hrolls.displayOffset]
    exact hb.view

theorem Placed.scrollUp (count : Nat) : Placed V (g.scrollUp count) := by
  have hc := (paints_scrollUp g count).sameCursor
  refine hb.scrolls (scrolls_scrollUp (S := nothing) count hb.toFramed) ?_ ?_ (hb.view_scrollUp count)
  · rw [hc.cursor]
    exact hb.cursor
  · rw [hc.saved]
    exact hb.saved

theorem Placed.linefeed : Placed V g.linefeed := by
  unfold Grid.linefeed
  dsimp only
  split
  · exact hb.scrollUp 1
  · split
    · next h => exact hb.moveCursorLine h
    · exact hb

theorem Placed.reverseIndex : Placed V g.reverseIndex := by
  have hl := hb.cursor.1
  unfold Grid.reverseIndex
  dsimp only
  split
  · exact hb.paints (rolls_scrollDown g 1) (paints_scrollRange ..).2
  · split
    · exact hb.moveCursorLine (by omega)
    · exact hb

/-- The write advances the cursor by the width of the character. -/
theorem Placed.writeChar {width : Nat} (ch : Char) (h : g.cursor.col + width ≤ g.cols) :
    Placed V (g.writeChar width ch) := by
  have hc := sameCursor_writeChar g width ch
  refine hb.rolls (tracked_writeChar g width ch).rolls ?_ ?_
  · rw [hc.cursor]
    exact ⟨hb.cursor.1, h⟩
  · rw [hc.saved]
    exact hb.saved

theorem Placed.wrapStep {width : Nat} (h : g.wrapWrite width = some g') : Placed V (g.wrapStep g') := by
  obtain ⟨col, f, rfl⟩ := wrapWrite_eq h
  have hedit : Placed V (g.editCell g.cursor.line col f) := by
    have hedits := edits_editCell g g.cursor.line col f
    exact hb.scrolls (hedits.scrolls hb.toFramed) hb.cursor hb.saved hb.view
  have hwrap := hb.leftBound
  refine hedit.linefeed.setCol ?_
  rw [(scrolls_linefeed (S := nothing) hedit.toFramed).cols]
  exact Nat.le_of_lt hwrap

end

/-- The edge that a character wraps at is on the screen. -/
theorem rightEdge_le (hm : g.rightMargin < g.cols) : g.rightEdge ≤ g.cols := by
  unfold rightEdge
  split
  · exact Nat.succ_le_of_lt hm
  · exact Nat.le_refl _

/-- Where nothing wraps, the character fits. -/
theorem col_add_width_le (hm : g.rightMargin < g.cols) {width : Nat} (hw : width ≤ 2)
    (h : g.wrapWrite width = none) : g.cursor.col + width ≤ g.cols := by
  have hedge := rightEdge_le hm
  unfold wrapWrite at h
  split at h
  · cases h
  · split at h
    · cases h
    · omega

section

variable (hb : Placed V g)
include hb

theorem Placed.putChar {width : Nat} (ch : Char) (hw : width ≤ 2) : Placed V (g.putChar width ch) := by
  unfold Grid.putChar putCharSlow
  split
  · exact hb
  · next hfits =>
    rw [putCharLoop_settles ch hb.toFramed hb.toMarginsOk (by omega) (Nat.le_refl _)]
    cases h : g.wrapWrite width with
    | none => exact hb.writeChar ch (col_add_width_le hb.right hw h)
    | some g' =>
      have hwrapped := hb.wrapStep h
      have hsettled := wrapWrite_wrapStep hb.toFramed hb.toMarginsOk (by omega) h
      exact hwrapped.writeChar ch (col_add_width_le hwrapped.right hw hsettled)

theorem Placed.putCharAscii {ch : Char} (h : g.putCharAscii ch = some g') : Placed V g' := by
  have htracked := tracked_putCharAscii h
  unfold Grid.putCharAscii at h
  dsimp only at h
  split at h
  · cases h
  · next hcol =>
    split at h
    · cases h
    · obtain rfl := Option.some.inj h
      refine hb.rolls htracked.rolls ⟨hb.cursor.1, ?_⟩ hb.saved
      show g.cursor.col + 1 ≤ g.cols
      omega

theorem Placed.setScrollRegion (top : Nat) (bottom : Option Nat) : Placed V (g.setScrollRegion top bottom) := by
  unfold Grid.setScrollRegion
  dsimp only
  split
  · exact hb
  · next h =>
    refine { hb with region := ⟨?_, ?_⟩ }
    · show max top 1 - 1 < bottom.elim g.lines (min · g.lines)
      omega
    · cases bottom with
      | none => exact Nat.le_refl _
      | some b => exact Nat.min_le_right ..

/-- New margins do not move the cursor. -/
theorem Placed.setMargins {left right : Nat} (h : MarginsOk { g with leftMargin := left, rightMargin := right }) :
    Placed V { g with leftMargin := left, rightMargin := right } :=
  { hb with right := h.right, left := h.left }

theorem Placed.setLeftRightMargins (left right : Nat) : Placed V (g.setLeftRightMargins left right) := by
  unfold Grid.setLeftRightMargins
  split
  · next h => exact hb.setMargins ⟨h.2, .inl h.1⟩
  · exact hb

theorem Placed.resetLeftRightMargins : Placed V g.resetLeftRightMargins := by
  have hpos := hb.right
  refine hb.setMargins ⟨?_, .inr ⟨rfl, ?_⟩⟩
  · show g.cols - 1 < g.cols
    omega
  · show g.cols - 1 + 1 = g.cols
    omega

theorem Placed.scrollDisplay (delta : Int) : Placed V (g.scrollDisplay delta) := by
  unfold Grid.scrollDisplay
  dsimp only
  split
  · refine { hb with toFramed := framed_markAll ⟨hb.rows, hb.width, hb.dirtyLines, hb.dirtyCols⟩, view := fun _ => ?_ }
    show (max 0 (min ((g.displayOffset : Int) + delta) g.scrollback.len)).toNat ≤ g.scrollback.len
    omega
  · exact hb

theorem Placed.reset : Placed V g.reset := by
  have hl := hb.cursor.1
  refine { (keeps_reset (S := nothing) (w := True) hb.toWf).wf with
           cursor := ⟨?_, Nat.zero_le _⟩, saved := ?_, region := ⟨?_, Nat.le_refl _⟩, view := fun _ => Nat.zero_le _ }
  · show 0 < g.lines
    omega
  · intro c hc
    cases hc
  · show 0 < g.lines
    omega

/-- ED keeps the bounds when the view is still inside the scrollback. -/
theorem Placed.eraseDisplay (mode : DisplayEraseMode)
    (hview : V → mode = .all → g.displayOffset ≤ g.scrollback.len - g.resizePushed) : Placed V (g.eraseDisplay mode) := by
  have hc := (paints_eraseDisplay (g := g) nofun mode nofun).sameCursor
  refine hb.scrolls (scrolls_eraseDisplay hb.toFramed mode) ?_ ?_ ?_
  · rw [hc.cursor]
    exact hb.cursor
  · rw [hc.saved]
    exact hb.saved
  · cases mode with
    | below =>
      have hkept := (tracked_eraseBelow hb.toFramed).toHistoryKept
      rw [hkept.scrollback, hkept.displayOffset]
      exact hb.view
    | above =>
      have hkept := (tracked_eraseAbove hb.toFramed).toHistoryKept
      rw [hkept.scrollback, hkept.displayOffset]
      exact hb.view
    | all =>
      obtain ⟨g₁, hedit, heq⟩ := eraseAll_eq hb.toFramed
      rw [heq]
      intro hv
      show g₁.displayOffset ≤ (g₁.scrollback.popMany g₁.resizePushed).len
      rw [ScrollbackBuffer.len_popMany, hedit.displayOffset, hedit.scrollback, hedit.resizePushed]
      exact hview hv rfl
    | scrollback => exact fun _ => Nat.zero_le _

end

/-- The end of a resize puts everything on the new screen. -/
theorem placed_finalizeResize (hl : 0 < g.lines) (hwf : Wf g.finalizeResize) : Placed V g.finalizeResize := by
  refine { hwf with cursor := ⟨?_, ?_⟩, saved := ?_, region := ⟨hl, Nat.le_refl _⟩, view := fun _ => Nat.zero_le _ }
  · show min g.cursor.line (g.lines - 1) < g.lines
    omega
  · show min g.cursor.col (g.cols - 1) ≤ g.cols
    omega
  · intro c hc
    obtain ⟨c₀, _, rfl⟩ := Option.map_eq_some_iff.mp hc
    refine ⟨?_, ?_⟩
    · show min c₀.line (g.lines - 1) < g.lines
      omega
    · show min c₀.col (g.cols - 1) ≤ g.cols
      omega

/-- A resize does nothing, or ends with `finalizeResize` on the new number of lines. -/
theorem resize_finalized (hg : Framed g) (newLines newCols : Nat) (reflow : Bool) :
    (g.resize newLines newCols reflow).1 = g
      ∨ ∃ x : Grid, 0 < x.lines ∧ (g.resize newLines newCols reflow).1 = x.finalizeResize := by
  have hrows := rowsResized_resizeRows ⟨hg.rows, hg.width⟩ newLines
  unfold resize
  by_cases hzero : newCols = 0 ∨ newLines = 0
  · rw [if_pos hzero]
    exact .inl rfl
  rw [if_neg hzero]
  by_cases hsame : newCols = g.cols ∧ newLines = g.lines
  · rw [if_pos hsame]
    exact .inl rfl
  rw [if_neg hsame]
  right
  by_cases href : reflow = true ∧ newCols ≠ g.cols
  · rw [if_pos href]
    by_cases hgrow : newCols > g.cols
    · rw [if_pos hgrow]
      obtain ⟨hl, hlen, hw, _, _⟩ := reflowCols_spec g (show g.cols ≠ newCols by omega) (by omega)
      have hsized : Sized ((g.reflowCols newCols).1.setCols newCols) := ⟨hlen.trans hl.symm, hw⟩
      exact ⟨_, by rw [(rowsResized_resizeRows hsized newLines).lines]; omega, rfl⟩
    · rw [if_neg hgrow]
      have hl := (reflowCols_spec (g.resizeRows newLines)
        (show (g.resizeRows newLines).cols ≠ newCols by rw [hrows.cols]; omega) (by omega)).1
      refine ⟨_, ?_, rfl⟩
      show 0 < ((g.resizeRows newLines).reflowCols newCols).1.lines
      rw [hl, hrows.lines]
      omega
  · rw [if_neg href]
    refine ⟨_, ?_, rfl⟩
    unfold resizeNoReflow
    dsimp only
    split
    · show 0 < (g.resizeRows newLines).lines
      rw [hrows.lines]
      omega
    · rw [hrows.lines]
      omega

theorem Placed.resize (hb : Placed V g) (newLines newCols : Nat) (reflow : Bool) :
    Placed V (g.resize newLines newCols reflow).1 := by
  have hwf := (keeps_resize (S := nothing) hb.toWf newLines newCols reflow).wf
  rcases resize_finalized hb.toFramed newLines newCols reflow with hsame | ⟨x, hl, heq⟩
  · rw [hsame]
    exact hb
  · rw [heq] at hwf ⊢
    exact placed_finalizeResize hl hwf

/-! ## Edits, operations and runs -/

end Grid

namespace GridEdit

/-- The cursor is put on the screen where its position is set directly. -/
def InRange (g : Grid) : GridEdit → Prop
  | setLine line => line < g.lines
  | setCol col => col ≤ g.cols
  | _ => True

instance (g : Grid) (e : GridEdit) : Decidable (e.InRange g) := by
  apply @GridEdit.casesOn (fun e => Decidable (e.InRange g)) <;> intros <;> (unfold InRange; infer_instance)

/-- The edit leaves the cursors alone: all do, but for writes of a character, moves and DECSC/DECRC. -/
theorem placed {V : Prop} {g : Grid} (hb : g.Placed V) {e : GridEdit} (h : e.InRange g) : (e.apply g).Placed V := by
  have hrolls := (Grid.tracked_edit hb.toFramed e).rolls
  have hpos : 0 < g.cols := Nat.zero_lt_of_lt hb.right
  cases e with
  | putCharAscii ch =>
    show ((g.putCharAscii ch).getD g).Placed V
    cases hput : g.putCharAscii ch with
    | none => exact hb
    | some g' => exact hb.putCharAscii hput
  | pushZerowidth ch => exact hb.paints hrolls (Grid.paints_pushZerowidth hpos ch)
  | insertBlank count => exact hb.paints hrolls (Grid.paints_insertBlank g count)
  | deleteChars count => exact hb.paints hrolls (Grid.paints_deleteChars g count)
  | eraseChars count => exact hb.paints hrolls (Grid.paints_eraseChars count nofun)
  | eraseLine mode => exact hb.paints hrolls (Grid.paints_eraseLineWithTemplate nofun mode _ nofun)
  | moveUp count => exact hb.moveUp count
  | moveDown count => exact hb.moveDown count
  | moveForward count => exact hb.moveForward count
  | moveBackward count => exact hb.moveBackward count
  | moveTo line col => exact hb.moveTo line col
  | moveToColumn col =>
    exact hb.moveCursorCol (by omega)
  | moveToLine line =>
    have hl := hb.cursor.1
    exact hb.moveCursorLine (by omega)
  | carriageReturn => exact hb.carriageReturn
  | backspace => exact hb.backspace
  | tab => exact hb.tab
  | tabBackward => exact hb.tabBackward
  | setTabStop =>
    refine hb.steady hrolls ?_
    show Grid.SameCursor g (Grid.setTabStop g)
    unfold Grid.setTabStop
    split <;> exact ⟨rfl, rfl⟩
  | clearTabStop mode =>
    refine hb.steady hrolls ?_
    show Grid.SameCursor g (Grid.clearTabStop g mode)
    unfold Grid.clearTabStop
    split
    · split <;> exact ⟨rfl, rfl⟩
    · exact ⟨rfl, rfl⟩
  | saveCursor => exact hb.saveCursor
  | restoreCursor => exact hb.restoreCursor
  | clearSavedCursor =>
    refine hb.rolls hrolls hb.cursor fun c hc => ?_
    cases hc
  | setLine line => exact hb.rolls hrolls ⟨h, hb.cursor.2⟩ hb.saved
  | setCol col => exact hb.setCol h
  | editTemplate f => exact hb.rolls hrolls hb.cursor hb.saved
  | pushSgr =>
    refine hb.steady hrolls ?_
    show Grid.SameCursor g (Grid.pushSgr g)
    unfold Grid.pushSgr
    split <;> exact ⟨rfl, rfl⟩
  | popSgr =>
    have hpos : (Grid.popSgr g).cursor.Within g.lines g.cols ∧ (Grid.popSgr g).savedCursor = g.savedCursor := by
      unfold Grid.popSgr
      split <;> exact ⟨hb.cursor, rfl⟩
    refine hb.rolls hrolls hpos.1 ?_
    show ∀ c ∈ (Grid.popSgr g).savedCursor, c.Within g.lines g.cols
    rw [hpos.2]
    exact hb.saved
  | clearSgrStack | markAll => exact hb.steady hrolls ⟨rfl, rfl⟩
  | scrollLeft count | scrollRight count => exact hb.paints hrolls (Grid.paints_scrollColumns g count _)
  | insertColumns count atCol => exact hb.paints hrolls (Grid.paints_insertColumns hb.toMarginsOk count atCol)
  | deleteColumns count atCol => exact hb.paints hrolls (Grid.paints_deleteColumns hb.toMarginsOk count atCol)
  | fillRect area template => exact hb.paints hrolls (Grid.paints_fillRect nofun template)
  | eraseRectAll area bg => exact hb.paints hrolls (Grid.paints_fillRect nofun _)
  | eraseRectUnprotected area bg => exact hb.paints hrolls (Grid.paints_eraseRectUnprotected nofun bg)
  | applySgrRect area params aceMode =>
    exact hb.paints hrolls (Grid.paints_applySgrRect nofun params aceMode)
  | reverseSgrRect area params aceMode =>
    exact hb.paints hrolls (Grid.paints_reverseSgrRect nofun params aceMode)
  | copyRect src dstTop dstLeft => exact hb.paints hrolls (Grid.paints_copyRect src dstTop nofun)
  | fillScreen f => exact hb.paints hrolls (Grid.paints_fillScreen g f)

end GridEdit

namespace GridOp

/-- What the callers promise: a position set directly lies on the screen, and a character is at most two
    columns wide. -/
def InRange (g : Grid) : GridOp → Prop
  | edit e => e.InRange g
  | putChar width _ => width ≤ 2
  | _ => True

/-- The view is not scrolled back into rows that the operation takes out of the scrollback: ED 2 removes the
    stale reflow overflow. -/
def KeepsView (g : Grid) : GridOp → Prop
  | eraseDisplay mode => mode = .all → g.displayOffset ≤ g.scrollback.len - g.resizePushed
  | _ => True

instance (g : Grid) (op : GridOp) : Decidable (op.InRange g) := by
  apply @GridOp.casesOn (fun op => Decidable (op.InRange g)) <;> intros <;> (unfold InRange; infer_instance)

instance (g : Grid) (op : GridOp) : Decidable (op.KeepsView g) := by
  apply @GridOp.casesOn (fun op => Decidable (op.KeepsView g)) <;> intros <;> (unfold KeepsView; infer_instance)

/-- **One operation keeps the bounds.** -/
theorem placed {V : Prop} {g : Grid} (hb : g.Placed V) {op : GridOp} (hrange : op.InRange g) (hview : V → op.KeepsView g) :
    (op.apply g).Placed V := by
  cases op with
  | edit e => exact e.placed hb hrange
  | putChar width ch => exact hb.putChar ch hrange
  | linefeed => exact hb.linefeed
  | nextLine => exact hb.carriageReturn.linefeed
  | reverseIndex => exact hb.reverseIndex
  | scrollUp count => exact hb.scrollUp count
  | scrollDown count => exact hb.paints (Grid.rolls_scrollDown g count) (Grid.paints_scrollRange ..).2
  | insertLines count => exact hb.paints (Grid.rolls_insertLines g count) (Grid.paints_insertLines g count)
  | deleteLines count => exact hb.paints (Grid.rolls_deleteLines g count) (Grid.paints_deleteLines g count)
  | eraseDisplay mode => exact hb.eraseDisplay mode hview
  | setScrollRegion top bottom => exact hb.setScrollRegion top bottom
  | setLeftRightMargins left right => exact hb.setLeftRightMargins left right
  | resetLeftRightMargins => exact hb.resetLeftRightMargins
  | scrollDisplay delta => exact hb.scrollDisplay delta
  | reset => exact hb.reset
  | resize newLines newCols reflow => exact hb.resize newLines newCols reflow

end GridOp

namespace Grid

/-- The invariant along a run. -/
theorem bounded_along {lines cols maxScrollback : Nat} (hl : 0 < lines) (hc : 0 < cols) {ops : List GridOp}
    (hops : Along GridOp.apply (fun g op => op.InRange g ∧ op.KeepsView g) (withScrollback lines cols maxScrollback) ops) :
    Bounded (run GridOp.apply (withScrollback lines cols maxScrollback) ops) := by
  refine Placed.bounded (hops.invariant (I := Placed True) (fun _ _ hb hG => GridOp.placed hb hG.1 fun _ => hG.2) ?_)
  exact (bounded_withScrollback maxScrollback hl hc).placed

end Grid

end OriTerm
