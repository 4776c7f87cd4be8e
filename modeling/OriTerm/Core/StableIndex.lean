import OriTerm.Lib.NumberedLog
import OriTerm.Core.GridOp

/-!
# `Core.StableIndex` — stable row identity

A `StableRowIndex` numbers the rows of a grid from the first one ever written: `totalEvicted` plus the absolute
index. Seen this way a grid is a numbered log of its rows (`Grid.rowLog`), and an index is good for as long as
the operations only advance that log.

`GridOp.KeepsNumbers` says when an operation does. Two operations break it because rows leave in the middle of
the history: a full-screen `scrollUp` and ED 2 take the stale reflow overflow out from under the visible rows
without counting it (`linefeed_after_reflow_renumbers`). Scrolls of a part of the screen, downward scrolls, and
a shrink that trims blank rows also give an old number to a new row.

Rows are followed by their ghost tags: `Grid.stamp` writes each row's own number on it.
-/

namespace OriTerm

open Lib List

/-- Row identity that survives scrollback eviction. -/
structure StableRowIndex where
  val : Nat
  deriving DecidableEq, Repr

namespace StableRowIndex

/-- From a viewport line, adjusted for the display offset. -/
def fromVisible (g : Grid) (line : Nat) : StableRowIndex :=
  ⟨g.totalEvicted + (g.scrollback.len - g.displayOffset + line)⟩

/-- From an absolute row index. -/
def fromAbsolute (g : Grid) (absRow : Nat) : StableRowIndex := ⟨g.totalEvicted + absRow⟩

/-- Back to an absolute row index; `none` once the row was evicted. -/
def toAbsolute (s : StableRowIndex) (g : Grid) : Option Nat :=
  if s.val < g.totalEvicted then none
  else
    let abs := s.val - g.totalEvicted
    if abs < g.scrollback.len + g.lines then some abs else none

/-- The row an index resolves to. -/
def row (s : StableRowIndex) (g : Grid) : Option Row := (s.toAbsolute g).bind g.absoluteRow

end StableRowIndex

/-! ## Labels -/

/-- The row with a ghost label. -/
def Row.label (n : Nat) (r : Row) : Row := { r with tag := some n }

/-- The row without its ghost label. -/
def Row.unlabel (r : Row) : Row := { r with tag := none }

/-- Writes on the row in each slot its distance from the oldest row, plus `base`. -/
def ScrollbackBuffer.stamp (sb : ScrollbackBuffer) (base : Nat) : ScrollbackBuffer :=
  { sb with
    inner := sb.inner.mapIdx fun p r => r.label (base + (p + sb.inner.length - sb.start) % sb.inner.length)
    len_le := by rw [length_mapIdx]; exact sb.len_le
    inner_le := by rw [length_mapIdx]; exact sb.inner_le
    start_lt := by rw [length_mapIdx]; exact sb.start_lt }

/-- Writes on each row its stable index. -/
def Grid.stamp (g : Grid) : Grid :=
  { g with
    scrollback := g.scrollback.stamp g.totalEvicted
    rows := g.rows.mapIdx fun i r => r.label (g.totalEvicted + g.scrollback.len + i) }

/-- The ring read oldest first carries its own positions. -/
theorem ScrollbackBuffer.rows_stamp (sb : ScrollbackBuffer) (base : Nat) :
    (sb.stamp base).rows = sb.rows.mapIdx fun i r => r.label (base + i) := by
  have hlen : (sb.stamp base).inner.length = sb.inner.length := length_mapIdx
  apply ext_getElem?
  intro i
  by_cases hi : i < sb.len
  · have hle := sb.len_le
    have hstart : sb.start < sb.inner.length := by
      by_cases h0 : sb.start = 0
      · omega
      · exact (sb.start_lt h0).1
    -- the label of the slot is the offset it is read at
    have hoff : ((sb.start + i) % sb.inner.length + sb.inner.length - sb.start) % sb.inner.length = i := by
      by_cases hwrap : sb.start + i < sb.inner.length
      · rw [Nat.mod_eq_of_lt hwrap,
          show sb.start + i + sb.inner.length - sb.start = i + sb.inner.length by omega,
          Nat.add_mod_right, Nat.mod_eq_of_lt (by omega)]
      · have hm : (sb.start + i) % sb.inner.length = sb.start + i - sb.inner.length := by
          rw [Nat.mod_eq_sub_mod (by omega), Nat.mod_eq_of_lt (by omega)]
        rw [Nat.mod_eq_of_lt (by omega)]
        omega
    have hstamped : (sb.stamp base).rows[i]? = (sb.stamp base).inner[(sb.start + i) % sb.inner.length]? := by
      rw [← hlen]
      exact getElem?_window hi (by rw [hlen]; exact hle)
    have hplain : sb.rows[i]? = sb.inner[(sb.start + i) % sb.inner.length]? := getElem?_window hi hle
    rw [hstamped, getElem?_mapIdx, hplain]
    show (sb.inner.mapIdx _)[(sb.start + i) % sb.inner.length]? = _
    rw [getElem?_mapIdx, hoff]
  · rw [getElem?_eq_none (by rw [length_rows]; exact Nat.le_of_not_lt hi),
      getElem?_eq_none (by rw [length_mapIdx, length_rows]; omega)]

namespace Grid

variable {g g' g'' : Grid} {S : Nat → Nat → Prop}

variable {count newLines : Nat}

/-! ## The log of rows -/

/-- The rows of the grid, numbered by their stable indices, as far as their identity goes. -/
def rowLog (g : Grid) : NumberedLog (Option Nat) := ⟨g.totalEvicted, g.history.map Row.tag⟩

theorem length_history (hg : Framed g) : g.history.length = g.scrollback.len + g.lines := by
  rw [history, length_append, ScrollbackBuffer.length_rows, hg.rows]

theorem absoluteRow_eq (g : Grid) (i : Nat) : g.absoluteRow i = g.history[i]? := by
  unfold absoluteRow history
  by_cases h : i < g.scrollback.len
  · have hidx : g.scrollback.len - 1 - (g.scrollback.len - 1 - i) = i := by omega
    rw [if_pos h, ScrollbackBuffer.get_eq, if_pos (by omega), hidx, getElem?_append_left (by simpa using h)]
  · rw [if_neg h, getElem?_append_right (by simpa using h), ScrollbackBuffer.length_rows]

/-- **Resolving an index looks it up in the log.** -/
theorem tag_row (hg : Framed g) (s : StableRowIndex) : (s.row g).map Row.tag = g.rowLog.get? s.val := by
  unfold StableRowIndex.row StableRowIndex.toAbsolute NumberedLog.get? rowLog
  dsimp only
  by_cases hlow : s.val < g.totalEvicted
  · rw [if_pos hlow, if_pos hlow]
    rfl
  · rw [if_neg hlow, if_neg hlow, getElem?_map]
    by_cases hin : s.val - g.totalEvicted < g.scrollback.len + g.lines
    · rw [if_pos hin, Option.bind_some, absoluteRow_eq]
    · rw [if_neg hin, getElem?_eq_none (by rw [length_history hg]; omega)]
      rfl

/-- An index resolves exactly when the log holds it. -/
theorem toAbsolute_eq_none_iff (hg : Framed g) (s : StableRowIndex) :
    s.toAbsolute g = none ↔ g.rowLog.get? s.val = none := by
  rw [NumberedLog.get?_eq_none_iff]
  unfold StableRowIndex.toAbsolute NumberedLog.next rowLog
  dsimp only
  rw [length_map, length_history hg]
  split
  · next h => simp [h]
  · split <;> simp <;> omega

theorem history_stamp (g : Grid) : g.stamp.history = g.history.mapIdx fun i r => r.label (g.totalEvicted + i) := by
  unfold history
  rw [mapIdx_append, ← ScrollbackBuffer.rows_stamp]
  show (g.scrollback.stamp g.totalEvicted).rows ++ g.rows.mapIdx _ = _
  congr 2
  funext i r
  rw [ScrollbackBuffer.length_rows, Nat.add_comm i, ← Nat.add_assoc]

/-- After stamping, each number in use is written on the row it stands for. -/
theorem rowLog_stamp (hg : Framed g) {s : StableRowIndex} (h : (s.toAbsolute g).isSome) :
    g.stamp.rowLog.get? s.val = some (some s.val) := by
  have hin : ¬ s.val < g.totalEvicted ∧ s.val - g.totalEvicted < g.history.length := by
    rw [length_history hg]
    unfold StableRowIndex.toAbsolute at h
    dsimp only at h
    split at h
    · cases h
    · split at h
      · exact ⟨‹_›, ‹_›⟩
      · cases h
  have hnum : g.totalEvicted + (s.val - g.totalEvicted) = s.val := by omega
  show (if s.val < g.totalEvicted then none else (g.stamp.history.map Row.tag)[s.val - g.totalEvicted]?) = _
  rw [if_neg hin.1, history_stamp, getElem?_map, getElem?_mapIdx, getElem?_eq_getElem hin.2]
  show some (some (g.totalEvicted + (s.val - g.totalEvicted))) = _
  rw [hnum]

theorem wf_stamp (hg : Wf g) : Wf g.stamp := by
  refine ⟨⟨?_, ?_, hg.dirtyLines, hg.dirtyCols⟩, ⟨hg.right, hg.left⟩⟩
  · show (g.rows.mapIdx _).length = g.lines
    rw [length_mapIdx, hg.rows]
  · intro r hr
    obtain ⟨i, hi, rfl⟩ := mem_mapIdx.mp hr
    show (g.rows[i]).cols = g.cols
    exact hg.width _ (getElem_mem hi)

/-! ## Operations that advance the log -/

/-- Rows were appended at the new end and dropped, counted, at the old end. -/
def Numbered (g g' : Grid) : Prop := g.rowLog.Advances g'.rowLog

theorem Numbered.refl (g : Grid) : Numbered g g := NumberedLog.Advances.refl _

theorem Numbered.trans (h : Numbered g g') (h' : Numbered g' g'') : Numbered g g'' :=
  NumberedLog.Advances.trans h h'

/-- The same rows under the same numbers. -/
theorem Numbered.of_eq (hbase : g'.totalEvicted = g.totalEvicted)
    (hrows : g'.history.map Row.tag = g.history.map Row.tag) : Numbered g g' := by
  unfold Numbered rowLog
  rw [hbase, hrows]

/-- The rows advance: some fresh ones at the new end, then some dropped at the old end. -/
theorem Numbered.of_history {evicted : Nat} (fresh : List Row) (hbase : g'.totalEvicted = g.totalEvicted + evicted)
    (hrows : g'.history = (g.history ++ fresh).drop evicted) (hle : evicted ≤ (g.history ++ fresh).length) :
    Numbered g g' := by
  refine ⟨evicted, fresh.map Row.tag, hbase, ?_, ?_⟩
  · show g'.history.map Row.tag = _
    rw [hrows, map_drop, map_append]
    rfl
  · show evicted ≤ (g.history.map Row.tag ++ fresh.map Row.tag).length
    rw [← map_append, length_map]
    exact hle

theorem tags_eq_of_shapes {l l' : List Row} (h : l'.map Row.shape = l.map Row.shape) :
    l'.map Row.tag = l.map Row.tag := by
  have hfst := congrArg (List.map Prod.fst) h
  rw [map_map, map_map] at hfst
  exact hfst

/-- **Edits in place keep the numbers.** -/
theorem Edits.numbered (h : Edits S g g') : Numbered g g' := by
  refine .of_eq h.totalEvicted ?_
  unfold history
  rw [map_append, map_append, tags_eq_of_shapes h.rows, h.scrollback]

/-- No stale overflow is left in the scrollback. -/
def NoStale (g : Grid) : Prop := g.resizePushed = 0 ∨ g.scrollback.len = 0

instance (g : Grid) : Decidable g.NoStale := by
  unfold NoStale
  infer_instance

theorem rows_freshScrollback (h : NoStale g) : g.freshScrollback.rows = g.scrollback.rows := by
  unfold freshScrollback
  rw [ScrollbackBuffer.rows_popMany, take_of_length_le]
  rw [ScrollbackBuffer.length_rows]
  rcases h with h | h <;> omega

theorem numbered_dropStale (h : NoStale g) : Numbered g g.dropStale := by
  refine .of_eq rfl ?_
  show (g.freshScrollback.rows ++ g.rows).map Row.tag = _
  rw [rows_freshScrollback h]
  rfl

/-- A scroll up of the region keeps the numbers when it covers the screen and finds no stale overflow, or does
    nothing. -/
def ScrollKeepsNumbers (g : Grid) (count : Nat) : Prop :=
  g.regionEnd - g.regionStart = 0 ∨ (if g.isFullScreen then g.NoStale else count = 0)

instance (g : Grid) (count : Nat) : Decidable (g.ScrollKeepsNumbers count) := by
  unfold ScrollKeepsNumbers
  infer_instance

theorem numbered_scrollUp (hg : Framed g) (h : g.ScrollKeepsNumbers count) :
    Numbered g (g.scrollUp count) := by
  rcases h with hempty | h
  · rw [scrollUp_empty hempty]
    exact .refl g
  by_cases hfull : g.isFullScreen = true
  · rw [if_pos hfull] at h
    rcases Nat.eq_zero_or_pos g.lines with h0 | hpos
    · have hregion : g.regionStart = 0 ∧ g.regionEnd = g.lines := by simpa [isFullScreen] using hfull
      rw [scrollUp_empty (by omega)]
      exact .refl g
    · obtain ⟨fresh, hup⟩ := scrollUp_fullScreen g count hg hfull hpos
      obtain ⟨evicted, hhist, hbase, hle⟩ := hup.history
      rw [rows_freshScrollback h] at hhist hle
      refine .of_history fresh hbase ?_ ?_
      · unfold history at hhist ⊢
        rw [hhist, drop_append_of_le_length hle]
      · rw [length_append]
        exact Nat.le_trans hle (Nat.le_add_right ..)
  · rw [if_neg hfull] at h
    have hnone : g.scrollUp count = g := by
      have hsub : g.isFullScreen = false := by simpa using hfull
      unfold scrollUp scrollRangeUp
      simp [hsub, h]
    rw [hnone]
    exact .refl g

/-- A line feed keeps the numbers unless it scrolls and the scroll does not. -/
def LinefeedKeepsNumbers (g : Grid) : Prop := g.linefeedScrolls = true → g.ScrollKeepsNumbers 1

instance (g : Grid) : Decidable g.LinefeedKeepsNumbers := by
  unfold LinefeedKeepsNumbers
  infer_instance

theorem numbered_linefeed (hg : Framed g) (h : g.LinefeedKeepsNumbers) : Numbered g g.linefeed := by
  cases hscroll : g.linefeedScrolls with
  | true =>
    rw [linefeed_of_scrolls hscroll]
    exact numbered_scrollUp hg (h hscroll)
  | false => exact (tracked_linefeed hscroll).numbered

/-- Writing a character feeds a line only to wrap. -/
def PutCharKeepsNumbers (g : Grid) (width : Nat) : Prop :=
  width ≤ g.cols → (g.wrapWrite width).isSome → g.LinefeedKeepsNumbers

instance (g : Grid) (width : Nat) : Decidable (g.PutCharKeepsNumbers width) := by
  unfold PutCharKeepsNumbers
  infer_instance

theorem numbered_putChar (hg : Wf g) (width : Nat) (ch : Char) (h : g.PutCharKeepsNumbers width) :
    Numbered g (g.putChar width ch) := by
  unfold putChar putCharSlow
  split
  · exact .refl g
  · next hw =>
    rw [putCharLoop_settles ch hg.toFramed hg.toMarginsOk (by omega) (Nat.le_refl _)]
    cases hwrap : g.wrapWrite width with
    | none => exact (tracked_writeChar g width ch).numbered
    | some g' =>
      have hfeed := h (by omega) (by rw [hwrap]; rfl)
      obtain ⟨col, f, rfl⟩ := wrapWrite_eq hwrap
      have hedit := edits_editCell g g.cursor.line col f
      -- the wrap flag is a cell of the same grid: region, cursor and history are those of `g`
      have hline : Numbered _ (g.editCell g.cursor.line col f).linefeed :=
        numbered_linefeed (hedit.framed hg.toFramed) hfeed
      exact (hedit.numbered.trans hline).trans
        ((edits_setCol (S := nothing) _ _).numbered.trans (tracked_writeChar _ width ch).numbered)

/-- Rotating no row. -/
theorem numbered_scrollRange {start stop : Nat} (h : stop - start = 0 ∨ count = 0) :
    Numbered g (g.scrollRangeUp start stop count) ∧ Numbered g (g.scrollRangeDown start stop count) := by
  have hnone : g.scrollRangeUp start stop count = g ∧ g.scrollRangeDown start stop count = g := by
    unfold scrollRangeUp scrollRangeDown
    rcases h with h | h <;> simp [h]
  rw [hnone.1, hnone.2]
  exact ⟨.refl g, .refl g⟩

/-- Inserting or deleting lines moves no row: outside the region, inside margins, or no lines at all. -/
def LineEditKeepsNumbers (g : Grid) (count : Nat) : Prop :=
  g.cursorInRegion = false ∨ g.hasHorizontalMargins = true ∨ g.regionEnd - g.cursor.line = 0 ∨ count = 0

instance (g : Grid) (count : Nat) : Decidable (g.LineEditKeepsNumbers count) := by
  unfold LineEditKeepsNumbers
  infer_instance

theorem numbered_insertLines (h : g.LineEditKeepsNumbers count) : Numbered g (g.insertLines count) := by
  unfold insertLines
  split
  · exact .refl g
  · next hin =>
    split
    · exact (tracked_scrollPartial ..).2.numbered
    · next hm =>
      rcases h with hout | hmargins | hnone
      · simp [hout] at hin
      · exact absurd hmargins hm
      · exact (numbered_scrollRange hnone).2

theorem numbered_deleteLines (h : g.LineEditKeepsNumbers count) : Numbered g (g.deleteLines count) := by
  unfold deleteLines
  split
  · exact .refl g
  · next hin =>
    split
    · exact (tracked_scrollPartial ..).1.numbered
    · next hm =>
      rcases h with hout | hmargins | hnone
      · simp [hout] at hin
      · exact absurd hmargins hm
      · exact (numbered_scrollRange hnone).1

theorem numbered_reverseIndex (h : g.cursor.line ≠ g.regionStart ∨ g.regionEnd - g.regionStart = 0) :
    Numbered g g.reverseIndex := by
  unfold reverseIndex
  dsimp only
  split
  · next hline => exact (numbered_scrollRange (.inl (h.resolve_left fun hne => hne hline))).2
  · split
    · exact (tracked_moveCursorLine ..).numbered
    · exact .refl g

/-- Emptying the scrollback drops its rows and counts them. -/
theorem Numbered.of_cleared (hbase : g'.totalEvicted = g.totalEvicted + g.scrollback.len)
    (hsb : g'.scrollback.rows = []) (hrows : g'.rows.map Row.tag = g.rows.map Row.tag) : Numbered g g' := by
  have hle : g.scrollback.rows.length ≤ (g.history.map Row.tag).length := by
    rw [length_map, history, length_append]
    exact Nat.le_add_right ..
  refine ⟨g.scrollback.len, [], hbase, ?_, ?_⟩
  · show g'.history.map Row.tag = ((g.history.map Row.tag) ++ []).drop g.scrollback.len
    rw [append_nil, ← map_drop, history, hsb, nil_append, hrows, history,
      ← ScrollbackBuffer.length_rows, drop_left]
  · rw [append_nil, ← ScrollbackBuffer.length_rows]
    exact hle

theorem numbered_eraseDisplay (hg : Framed g) {mode : DisplayEraseMode} (h : mode = .all → g.NoStale) :
    Numbered g (g.eraseDisplay mode) := by
  cases mode with
  | below => exact (tracked_eraseBelow hg).numbered
  | above => exact (tracked_eraseAbove hg).numbered
  | all =>
    obtain ⟨g₁, hedit, heq⟩ := eraseAll_eq hg
    have hstale : g₁.NoStale := by
      unfold NoStale
      rw [hedit.resizePushed, hedit.scrollback]
      exact h rfl
    rw [heq]
    exact (hedit.numbered.trans (numbered_dropStale hstale)).trans
      ((Edits.refl nothing g₁.dropStale).markAll).numbered
  | scrollback => exact .of_cleared rfl (ScrollbackBuffer.rows_clear _) rfl

theorem numbered_reset : Numbered g g.reset := by
  refine .of_cleared rfl (ScrollbackBuffer.rows_clear _) ?_
  show (g.rows.map fun r => r.reset g.cols .blank).map Row.tag = _
  rw [map_map]
  rfl

/-- A change of the row count keeps the numbers when it trims nothing. -/
theorem numbered_resizeRows (hg : Sized g) (h : newLines < g.lines → g.countTrailingBlankRows (g.lines - newLines) = 0) :
    Numbered g (g.resizeRows newLines) := by
  unfold resizeRows
  rcases Nat.lt_trichotomy newLines g.lines with hlt | rfl | hgt
  · rw [if_neg (by omega), if_pos hlt]
    have hpush : g.shrinkPush newLines + newLines = g.rows.length := by
      unfold shrinkPush
      rw [hg.rows]
      omega
    obtain ⟨hsb, hbase, hrows⟩ := shrinkRows_eq hg hlt
    rw [hpush, take_length] at hrows
    obtain ⟨hpushed, _, hle⟩ := g.scrollback.rows_pushAll (g.rows.take (g.shrinkPush newLines))
    have hle' : (g.scrollback.pushAll (g.rows.take (g.shrinkPush newLines))).2
        ≤ (g.scrollback.rows ++ g.rows.take (g.shrinkPush newLines)).length := by
      rw [length_append, ScrollbackBuffer.length_rows]
      exact hle
    refine .of_history [] hbase ?_ ?_
    · show (g.shrinkRows newLines).scrollback.rows ++ (g.shrinkRows newLines).rows = _
      rw [hsb, hrows, hpushed, append_nil, ← drop_append_of_le_length hle', append_assoc,
        take_append_drop]
      rfl
    · rw [append_nil, history, length_append]
      rw [length_append, length_take] at hle'
      omega
  · rw [if_pos rfl]
    exact .refl g
  · rw [if_neg (by omega), if_neg (by omega)]
    obtain ⟨n, k, hn, hsb, hbase, hrows, _⟩ := growRows_eq g newLines
    refine ⟨0, (List.replicate k (Row.new g.cols)).map Row.tag, hbase, ?_, Nat.zero_le _⟩
    show ((g.growRows newLines).scrollback.rows ++ (g.growRows newLines).rows).map Row.tag = _
    have hrestored : ((g.scrollback.rows.drop (g.scrollback.len - n)).map (·.resize g.cols)).map Row.tag
        = (g.scrollback.rows.drop (g.scrollback.len - n)).map Row.tag := by
      rw [map_map]
      rfl
    rw [hsb, hrows, ScrollbackBuffer.rows_popMany, map_append, map_append, map_append, hrestored, ← append_assoc,
      ← append_assoc, ← map_append, take_append_drop, ← map_append]
    rfl

/-- A resize keeps the numbers when it does nothing, or changes only the number of rows, without trimming. -/
def ResizeKeepsNumbers (g : Grid) (newLines newCols : Nat) (reflow : Bool) : Prop :=
  newCols = 0 ∨ newLines = 0 ∨
    (reflow = false ∨ newCols = g.cols) ∧
      (newLines < g.lines → g.countTrailingBlankRows (g.lines - newLines) = 0)

instance (g : Grid) (newLines newCols : Nat) (reflow : Bool) :
    Decidable (g.ResizeKeepsNumbers newLines newCols reflow) := by
  unfold ResizeKeepsNumbers
  infer_instance

theorem numbered_resizeNoReflow (hg : Sized g) (newCols : Nat)
    (h : newLines < g.lines → g.countTrailingBlankRows (g.lines - newLines) = 0) :
    Numbered g (g.resizeNoReflow newCols newLines) := by
  have hrows := numbered_resizeRows hg h
  unfold resizeNoReflow
  dsimp only
  split
  · refine hrows.trans (.of_eq rfl ?_)
    show ((g.resizeRows newLines).scrollback.rows ++ (g.resizeRows newLines).rows.map fun r => r.resize newCols).map
      Row.tag = _
    rw [map_append, map_map, history, map_append]
    rfl
  · exact hrows

theorem numbered_resize (hg : Framed g) {newCols : Nat} {reflow : Bool}
    (h : g.ResizeKeepsNumbers newLines newCols reflow) :
    Numbered g (g.resize newLines newCols reflow).1 := by
  unfold resize
  by_cases hzero : newCols = 0 ∨ newLines = 0
  · rw [if_pos hzero]
    exact .refl g
  rw [if_neg hzero]
  by_cases hsame : newCols = g.cols ∧ newLines = g.lines
  · rw [if_pos hsame]
    exact .refl g
  obtain ⟨hplain, htrim⟩ := (h.resolve_left fun h0 => hzero (.inl h0)).resolve_left fun h0 => hzero (.inr h0)
  have hno : ¬ (reflow = true ∧ newCols ≠ g.cols) := by
    rintro ⟨hr, hc⟩
    rcases hplain with hf | he
    · rw [hr] at hf
      cases hf
    · exact hc he
  rw [if_neg hsame, if_neg hno]
  exact (numbered_resizeNoReflow ⟨hg.rows, hg.width⟩ newCols htrim).trans (.of_eq rfl rfl)

end Grid

namespace GridOp

/-- **The operation keeps the numbers of the rows**: it moves no row within the history except off its old end,
    and removes none elsewhere. -/
def KeepsNumbers (g : Grid) : GridOp → Prop
  | edit _ => True
  | putChar width _ => g.PutCharKeepsNumbers width
  | linefeed => g.LinefeedKeepsNumbers
  | nextLine => g.LinefeedKeepsNumbers
  | reverseIndex => g.cursor.line ≠ g.regionStart ∨ g.regionEnd - g.regionStart = 0
  | scrollUp count => g.ScrollKeepsNumbers count
  | scrollDown count => g.regionEnd - g.regionStart = 0 ∨ count = 0
  | insertLines count => g.LineEditKeepsNumbers count
  | deleteLines count => g.LineEditKeepsNumbers count
  | eraseDisplay mode => mode = .all → g.NoStale
  | setScrollRegion _ _ => True
  | setLeftRightMargins _ _ => True
  | resetLeftRightMargins => True
  | scrollDisplay _ => True
  | reset => True
  | resize newLines newCols reflow => g.ResizeKeepsNumbers newLines newCols reflow

instance (g : Grid) (op : GridOp) : Decidable (op.KeepsNumbers g) := by
  apply @GridOp.casesOn (fun op => Decidable (op.KeepsNumbers g)) <;> intros <;> (unfold KeepsNumbers; infer_instance)

open Grid in
/-- **One step advances the log of rows.** -/
theorem numbered {g : Grid} (hg : g.Wf) {op : GridOp} (h : op.KeepsNumbers g) : g.Numbered (op.apply g) := by
  have hf := hg.toFramed
  cases op with
  | edit e => exact (tracked_edit hf e).numbered
  | putChar width ch => exact numbered_putChar hg width ch h
  | linefeed => exact numbered_linefeed hf h
  | nextLine =>
    have hret := tracked_moveCursorCol g (if g.cursorInMarginBand then g.leftMargin else 0)
    exact hret.numbered.trans (numbered_linefeed (hret.framed hf) h)
  | reverseIndex => exact numbered_reverseIndex h
  | scrollUp count => exact numbered_scrollUp hf h
  | scrollDown count => exact (numbered_scrollRange h).2
  | insertLines count => exact numbered_insertLines h
  | deleteLines count => exact numbered_deleteLines h
  | eraseDisplay mode => exact numbered_eraseDisplay hf h
  | setScrollRegion top bottom =>
    show g.Numbered (g.setScrollRegion top bottom)
    unfold Grid.setScrollRegion
    dsimp only
    split
    · exact .refl g
    · exact .of_eq rfl rfl
  | setLeftRightMargins left right =>
    show g.Numbered (g.setLeftRightMargins left right)
    unfold Grid.setLeftRightMargins
    split
    · exact .of_eq rfl rfl
    · exact .refl g
  | resetLeftRightMargins => exact .of_eq rfl rfl
  | scrollDisplay delta =>
    show g.Numbered (g.scrollDisplay delta)
    unfold Grid.scrollDisplay
    dsimp only
    split
    · exact .of_eq rfl rfl
    · exact .refl g
  | reset => exact numbered_reset
  | resize newLines newCols reflow => exact numbered_resize hf h

/-- **Along a run**: well-formedness, and the log advances from where the run started. -/
theorem numbered_run {g : Grid} (hg : g.Wf) {ops : List GridOp} (hG : Along apply (fun g op => op.KeepsNumbers g) g ops) :
    (run apply g ops).Wf ∧ g.Numbered (run apply g ops) :=
  hG.invariant (I := fun g' => g'.Wf ∧ g.Numbered g')
    (fun _ op h hop => ⟨(op.keeps h.1).wf, h.2.trans (numbered h.1 hop)⟩) ⟨hg, .refl g⟩

end GridOp

/-- A grid that some run of operations produces from a new one. -/
def Grid.Reachable (g : Grid) : Prop :=
  ∃ lines cols maxScrollback ops, 0 < lines ∧ 0 < cols
    ∧ g = run GridOp.apply (withScrollback lines cols maxScrollback) ops

theorem Grid.Reachable.wf {g : Grid} (h : g.Reachable) : g.Wf := by
  obtain ⟨lines, cols, maxScrollback, ops, _, hcols, rfl⟩ := h
  exact wf_run (wf_withScrollback lines maxScrollback hcols) ops

namespace StableRowIndex

/-- **Stable row identity.** Take any reachable grid, write on each row its stable index, and go on with
    operations that keep the numbers. Then `totalEvicted` counts the rows that left at the old end, rows are
    otherwise only added at the new end, an index handed out that still resolves finds its own row, and one
    that no longer resolves never does again. -/
theorem stable_run {g : Grid} (hg : g.Reachable) {ops ops' : List GridOp}
    (hG : Along GridOp.apply (fun g op => op.KeepsNumbers g) g.stamp (ops ++ ops'))
    {s : StableRowIndex} (hs : (s.toAbsolute g).isSome) :
    (∃ (evicted : Nat) (fresh : List (Option Nat)),
        (run GridOp.apply g.stamp ops).totalEvicted = g.totalEvicted + evicted
          ∧ (run GridOp.apply g.stamp ops).history.map Row.tag
            = (g.stamp.history.map Row.tag ++ fresh).drop evicted)
      ∧ (∀ a, s.toAbsolute (run GridOp.apply g.stamp ops) = some a →
          ∃ r, (run GridOp.apply g.stamp ops).absoluteRow a = some r ∧ r.tag = some s.val)
      ∧ (s.toAbsolute (run GridOp.apply g.stamp ops) = none →
          s.toAbsolute (run GridOp.apply g.stamp (ops ++ ops')) = none) := by
  have hwf := hg.wf
  have hstamp := Grid.wf_stamp hwf
  rw [along_append] at hG
  obtain ⟨hwf₁, hadv⟩ := GridOp.numbered_run hstamp hG.1
  obtain ⟨hwf₂, hadv'⟩ := GridOp.numbered_run hwf₁ hG.2
  have hlabel := Grid.rowLog_stamp hwf.toFramed hs
  have hissued : s.val < g.stamp.rowLog.next := by
    have hheld : g.stamp.rowLog.get? s.val ≠ none := by rw [hlabel]; exact fun h => by cases h
    rw [Ne, NumberedLog.get?_eq_none_iff] at hheld
    omega
  refine ⟨?_, ?_, ?_⟩
  · obtain ⟨evicted, fresh, hbase, hrows, _⟩ := hadv
    exact ⟨evicted, fresh, hbase, hrows⟩
  · intro a ha
    have hheld : (run GridOp.apply g.stamp ops).rowLog.get? s.val ≠ none := by
      rw [Ne, ← Grid.toAbsolute_eq_none_iff hwf₁.toFramed, ha]
      exact fun h => by cases h
    obtain ⟨tag, htag⟩ := Option.ne_none_iff_exists'.mp hheld
    have hsame := hadv.get? hissued htag
    rw [hlabel] at hsame
    obtain rfl := Option.some.inj hsame
    rw [← Grid.tag_row hwf₁.toFramed] at htag
    obtain ⟨r, hr, htag⟩ := Option.map_eq_some_iff.mp htag
    refine ⟨r, ?_, htag⟩
    unfold row at hr
    rw [ha] at hr
    exact hr
  · intro hnone
    rw [run_append]
    rw [Grid.toAbsolute_eq_none_iff hwf₁.toFramed] at hnone
    rw [Grid.toAbsolute_eq_none_iff hwf₂.toFramed]
    exact hadv'.dropped (Nat.lt_of_lt_of_le hissued hadv.next_le) hnone

/-- Three line feeds on a one-line grid with room for one scrollback row: the first row is still found after
    one of them, and is gone for good after two. -/
theorem stable_run_threeLines :
    (∃ r, (run GridOp.apply (Grid.withScrollback 1 2 1).stamp [.linefeed]).absoluteRow 0 = some r
        ∧ r.tag = some 0)
      ∧ (StableRowIndex.mk 0).toAbsolute
          (run GridOp.apply (Grid.withScrollback 1 2 1).stamp ([.linefeed, .linefeed] ++ [.linefeed])) = none := by
  have hreach : (Grid.withScrollback 1 2 1).Reachable := ⟨1, 2, 1, [], by decide, by decide, rfl⟩
  refine ⟨?_, ?_⟩
  · exact (@stable_run _ hreach [.linefeed] [] (by decide) ⟨0⟩ (by decide)).2.1 0 (by decide)
  · exact (@stable_run _ hreach [.linefeed, .linefeed] [.linefeed] (by decide) ⟨0⟩ (by decide)).2.2 (by decide)

/-- One line of four columns with `abcd`, reflowed to two columns: `ab` becomes stale overflow in the
    scrollback, `cd` stays on the screen. -/
def reflowed : Grid :=
  run GridOp.apply (Grid.withScrollback 1 4 8)
    [.putChar 1 'a', .putChar 1 'b', .putChar 1 'c', .putChar 1 'd', .resize 1 2 true]

/-- The line feed takes `ab` out from under `cd`: the index of `cd` now resolves to a new row. -/
theorem linefeed_after_reflow_renumbers :
    reflowed.Reachable ∧ ((StableRowIndex.mk 1).toAbsolute reflowed).isSome = true
      ∧ ∃ a r, (StableRowIndex.mk 1).toAbsolute (run GridOp.apply reflowed.stamp [.linefeed]) = some a
        ∧ (run GridOp.apply reflowed.stamp [.linefeed]).absoluteRow a = some r ∧ r.tag ≠ some 1 := by
  have hrow : ((run GridOp.apply reflowed.stamp [.linefeed]).absoluteRow 1).map Row.tag = some none := by decide
  obtain ⟨r, hr, htag⟩ := Option.map_eq_some_iff.mp hrow
  refine ⟨⟨1, 4, 8, _, by decide, by decide, rfl⟩, by decide, 1, r, by decide, hr, ?_⟩
  rw [htag]
  exact fun h => by cases h

end StableRowIndex

end OriTerm
