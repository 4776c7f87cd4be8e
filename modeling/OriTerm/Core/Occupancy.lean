import OriTerm.Core.Paints
import OriTerm.Core.RowOccupancy

/-!
# `Core.Occupancy` — cleared rows are clear

`Grid.OccBounds`: every row of a grid, on the screen and in the scrollback, is bounded by its watermark, so that a
reset clears it. Writes keep this because the watermark covers them (`Writes`); the erases and DCH/DECDC to the
default background, and resizes that widen rows without reflow, keep it under a condition on the rows they
touch, which `GridOp.KeepsOcc` collects. `reset_clears_run` is the run lemma.
-/

namespace OriTerm

open Lib Lib.Bitflags List CellFlags Option

namespace Grid

/-! ## Grids -/

/-- **Every row is bounded by its watermark**, on the screen and in the scrollback. -/
structure OccBounds (g : Grid) : Prop where
  rows : ∀ r ∈ g.rows, r.OccBounds
  history : ∀ r ∈ g.scrollback.rows, r.OccBounds

/-- Rows were written to in place; the history did not move. -/
structure Writes (g g' : Grid) : Prop where
  scrollback : g'.scrollback = g.scrollback
  rows : ∀ (i : Nat) (r' : Row), g'.rows[i]? = some r' → ∃ r, g.rows[i]? = some r ∧ Row.Raises r r'

variable {g g' g'' : Grid}

@[refl] theorem Writes.refl (g : Grid) : Writes g g := ⟨rfl, fun _ r' hr' => ⟨r', hr', .refl r'⟩⟩

theorem Writes.trans (h : Writes g g') (h' : Writes g' g'') : Writes g g'' := by
  refine ⟨h'.scrollback.trans h.scrollback, fun i r'' hr'' => ?_⟩
  obtain ⟨r', hr', hraises'⟩ := h'.rows i r'' hr''
  obtain ⟨r, hr, hraises⟩ := h.rows i r' hr'
  exact ⟨r, hr, hraises.trans hraises'⟩

theorem Writes.occBounds (hw : Writes g g') (h : g.OccBounds) : g'.OccBounds := by
  refine ⟨fun r' hr' => ?_, ?_⟩
  · obtain ⟨i, hi⟩ := mem_iff_getElem?.mp hr'
    obtain ⟨r, hr, hraises⟩ := hw.rows i r' hi
    exact (h.rows r (mem_of_getElem? hr)).raises hraises
  · rw [hw.scrollback]
    exact h.history

theorem Still.occBounds (hs : Still g g') (h : g.OccBounds) : g'.OccBounds := by
  refine ⟨?_, ?_⟩
  · rw [hs.rows]
    exact h.rows
  · rw [hs.scrollback]
    exact h.history

/-- The row after an edit of one line. -/
theorem getElem?_editRow {line i : Nat} {f : Row → Row} {r' : Row} (h : (g.editRow line f).rows[i]? = some r') :
    ∃ r, g.rows[i]? = some r ∧ (line = i ∧ r' = f r ∨ line ≠ i ∧ r' = r) := by
  unfold editRow at h
  by_cases hi : line = i
  · subst hi
    rw [getElem?_modify_eq] at h
    obtain ⟨r, hr, rfl⟩ := map_eq_some_iff.mp h
    exact ⟨r, hr, .inl ⟨rfl, rfl⟩⟩
  · rw [getElem?_modify_ne _ _ hi] at h
    exact ⟨r', h, .inr ⟨hi, rfl⟩⟩

theorem writes_editCell (g : Grid) (line col : Nat) (f : Cell → Cell) : Writes g (g.editCell line col f) := by
  refine ⟨rfl, fun i r' hr' => ?_⟩
  obtain ⟨r, hr, ⟨_, rfl⟩ | ⟨_, rfl⟩⟩ := getElem?_editRow hr'
  · exact ⟨r, hr, Row.raises_modify r col f⟩
  · exact ⟨r', hr, .refl r'⟩

theorem Writes.editCell (hw : Writes g g') (line col : Nat) (f : Cell → Cell) : Writes g (g'.editCell line col f) :=
  hw.trans (writes_editCell g' line col f)

theorem writes_blankOrphan (g : Grid) (line col : Nat) (flag : CellFlags) : Writes g (g.blankOrphan line col flag) := by
  have hcell := writes_editCell g line col (Cell.orphan flag)
  exact ⟨hcell.scrollback, hcell.rows⟩

theorem writes_fixWideBoundaries (g : Grid) (line start stop : Nat) :
    Writes g (g.fixWideBoundaries line start stop) := by
  unfold fixWideBoundaries
  dsimp only
  split
  · split
    · exact (writes_blankOrphan ..).trans (writes_blankOrphan ..)
    · exact writes_blankOrphan ..
  · split
    · exact writes_blankOrphan ..
    · exact .refl g

theorem writes_clearWideCharAt (g : Grid) (line col : Nat) : Writes g (g.clearWideCharAt line col) := by
  unfold clearWideCharAt
  split
  · exact .refl g
  · dsimp only
    split
    · split
      · exact (writes_blankOrphan ..).trans (writes_blankOrphan ..)
      · exact writes_blankOrphan ..
    · split
      · exact writes_blankOrphan ..
      · exact .refl g

theorem writes_writeSpacer (g : Grid) (line col : Nat) (template : Cell) :
    Writes g (g.writeSpacer line col template) := by
  have hwide := writes_editCell g line col (Cell.insertFlags wideChar)
  unfold writeSpacer
  dsimp only
  split
  · exact (hwide.trans (writes_clearWideCharAt ..)).editCell ..
  · exact hwide

/-- An edit of one row keeps the bounds when it keeps the bound of that row. -/
theorem OccBounds.editRow (h : g.OccBounds) (line : Nat) (f : Row → Row)
    (hf : ∀ r, g.rows[line]? = some r → r.OccBounds → (f r).OccBounds) : (g.editRow line f).OccBounds := by
  refine ⟨fun r' hr' => ?_, h.history⟩
  obtain ⟨i, hi⟩ := mem_iff_getElem?.mp hr'
  obtain ⟨r, hr, ⟨rfl, rfl⟩ | ⟨_, rfl⟩⟩ := getElem?_editRow hi
  · exact hf r hr (h.rows r (mem_of_getElem? hr))
  · exact h.rows r' (mem_of_getElem? hr)

theorem OccBounds.markCols (h : g.OccBounds) (line left right : Nat) : (g.markCols line left right).OccBounds :=
  ⟨h.rows, h.history⟩

theorem OccBounds.markRange (h : g.OccBounds) (start stop : Nat) : (g.markRange start stop).OccBounds :=
  ⟨h.rows, h.history⟩

theorem OccBounds.markAll (h : g.OccBounds) : g.markAll.OccBounds := ⟨h.rows, h.history⟩

/-- A loop over lines keeps the bounds when its body does. -/
theorem OccBounds.lines {start stop : Nat} {f : Nat → Grid → Grid} (hf : ∀ i g, g.OccBounds → (f i g).OccBounds)
    (h : g.OccBounds) : (forRange start stop f g).OccBounds :=
  forRange_invariant (fun i x _ _ hx => hf i x hx) h

/-! ## Operations that always keep the bounds -/

section

variable (h : g.OccBounds)
include h

theorem OccBounds.putCharAscii {ch : Char} (hput : g.putCharAscii ch = some g') : g'.OccBounds := by
  unfold Grid.putCharAscii at hput
  dsimp only at hput
  split at hput
  · cases hput
  · split at hput
    · cases hput
    · obtain rfl := some.inj hput
      have hcell := (writes_editCell g g.cursor.line g.cursor.col (Cell.draw g.cursor.template ch)).occBounds h
      exact ⟨hcell.rows, hcell.history⟩

theorem OccBounds.writeChar (width : Nat) (ch : Char) : (g.writeChar width ch).OccBounds := by
  have hdraw := (writes_clearWideCharAt g g.cursor.line g.cursor.col).editCell g.cursor.line g.cursor.col
    (Cell.draw g.cursor.template ch)
  unfold Grid.writeChar
  split
  · have hspacer := (hdraw.trans (writes_writeSpacer _ g.cursor.line g.cursor.col g.cursor.template)).occBounds h
    exact ⟨hspacer.rows, hspacer.history⟩
  · have hplain := hdraw.occBounds h
    exact ⟨hplain.rows, hplain.history⟩

theorem OccBounds.pushZerowidth (ch : Char) : (g.pushZerowidth ch).OccBounds := by
  unfold Grid.pushZerowidth
  split
  · exact h
  · exact ((writes_editCell ..).occBounds h).markCols ..

theorem OccBounds.resetLines (start stop : Nat) (bg : Color) : (g.resetLines start stop (Cell.ofBg bg)).OccBounds :=
  h.lines fun i _ hx => hx.editRow i _ fun _ _ hr => hr.reset _ bg

/-- Rows taken out of the scrollback. -/
theorem OccBounds.dropStale : g.dropStale.OccBounds :=
  ⟨h.rows, fun r hr => h.history r (mem_freshScrollback hr)⟩

theorem OccBounds.scrollRange (start stop count : Nat) :
    (g.scrollRangeUp start stop count).OccBounds ∧ (g.scrollRangeDown start stop count).OccBounds := by
  refine scrollRange_induction (P := OccBounds) start stop count h fun a b k _ _ => ⟨fun r hr => ?_, h.history⟩
  rcases mem_mapRange hr with hmem | ⟨r₀, hmem, rfl⟩
  · exact h.rows r ((perm_rotateRange ..).mem_iff.mp hmem)
  · exact (h.rows r₀ ((perm_rotateRange ..).mem_iff.mp hmem)).recycle _ _

theorem OccBounds.row (i : Nat) : (g.row i).OccBounds := by
  unfold Grid.row
  rw [getD_eq_getElem?_getD]
  cases hr : g.rows[i]? with
  | none => exact (Row.plainTail_new 0).occBounds
  | some r => exact h.rows r (mem_of_getElem? hr)

end

/-- A row that a push hands back was in the scrollback, or is the row pushed. -/
theorem mem_evicted {sb : ScrollbackBuffer} {row out : Row} (h : (sb.push row).2 = some out) :
    out ∈ sb.rows ∨ out = row := by
  by_cases h0 : sb.maxScrollback = 0
  · right
    unfold ScrollbackBuffer.push at h
    rw [dif_pos h0] at h
    exact (some.inj h).symm
  · left
    have hfull : sb.maxScrollback ≤ sb.len := (sb.rows_push row).2.mp (by rw [h]; rfl)
    rw [sb.evicted_push row h0 hfull] at h
    exact mem_of_mem_head? h

section

variable (h : g.OccBounds)
include h

theorem OccBounds.evictRow (i : Nat) : (Grid.evictRow i g).OccBounds := by
  have hrow := h.row i
  have hpush : ∀ r ∈ (g.scrollback.push (g.row i)).1.rows, r.OccBounds := by
    intro r hr
    rw [g.scrollback.rows_push_eq_drop] at hr
    rcases mem_append.mp (mem_of_mem_drop hr) with hold | hnew
    · exact h.history r hold
    · obtain rfl := mem_singleton.mp hnew
      exact hrow
  unfold Grid.evictRow
  dsimp only
  split
  · next recycled hout =>
    refine ⟨fun r hr => ?_, hpush⟩
    rcases mem_or_eq_of_mem_set hr with hold | rfl
    · exact h.rows r hold
    · have hevicted : recycled.OccBounds := by
        rcases mem_evicted hout with hold | rfl
        · exact h.history recycled hold
        · exact hrow
      exact hevicted.reset _ _
  · refine ⟨fun r hr => ?_, hpush⟩
    rcases mem_or_eq_of_mem_set hr with hold | rfl
    · exact h.rows r hold
    · exact (Row.plainTail_new 0).occBounds

theorem OccBounds.holdView (count : Nat) : (g.holdView count).OccBounds := by
  obtain ⟨offset, heq, _⟩ := holdView_eq g count
  rw [heq]
  exact ⟨h.rows, h.history⟩

theorem OccBounds.scrollUp (count : Nat) : (g.scrollUp count).OccBounds := by
  unfold Grid.scrollUp
  dsimp only
  split
  · exact h
  · refine (OccBounds.scrollRange ?_ ..).1
    split
    · exact (h.dropStale.holdView _).lines fun i _ hx => hx.evictRow i
    · exact h

theorem OccBounds.moveCursorLine (line : Nat) : (g.moveCursorLine line).OccBounds :=
  ⟨h.rows, h.history⟩

theorem OccBounds.linefeed : g.linefeed.OccBounds := by
  unfold Grid.linefeed
  dsimp only
  split
  · exact h.scrollUp 1
  · split
    · exact h.moveCursorLine _
    · exact h

theorem OccBounds.reverseIndex : g.reverseIndex.OccBounds := by
  unfold Grid.reverseIndex
  dsimp only
  split
  · exact (h.scrollRange ..).2
  · split
    · exact h.moveCursorLine _
    · exact h

end

/-- Each round of the wrap writes one cell and feeds a line. -/
theorem OccBounds.putCharLoop (width : Nat) (ch : Char) (fuel : Nat) (h : g.OccBounds) :
    (Grid.putCharLoop width ch fuel g).OccBounds := by
  induction fuel generalizing g with
  | zero => exact h
  | succ fuel ih =>
    rw [putCharLoop_succ]
    cases hwrap : g.wrapWrite width with
    | none => exact h.writeChar width ch
    | some g' =>
      obtain ⟨col, f, rfl⟩ := wrapWrite_eq hwrap
      have hfeed := ((writes_editCell g g.cursor.line col f).occBounds h).linefeed
      exact ih ⟨hfeed.rows, hfeed.history⟩

section

variable (h : g.OccBounds)
include h

theorem OccBounds.putChar (width : Nat) (ch : Char) : (g.putChar width ch).OccBounds := by
  unfold Grid.putChar putCharSlow
  split
  · exact h
  · exact h.putCharLoop width ch _

theorem OccBounds.scrollPartial (rowStart rowEnd left stop count : Nat) :
    (g.scrollPartialUp rowStart rowEnd left stop count).OccBounds ∧
      (g.scrollPartialDown rowStart rowEnd left stop count).OccBounds :=
  scrollPartial_induction count h h (fun i x _ _ hx => (writes_fixWideBoundaries x i left stop).occBounds hx)
    (fun _ _ _ _ _ hx => hx.editRow _ _ fun _ _ hr => hr.copyRange ..)
    (fun _ _ _ _ hx => hx.editRow _ _ fun _ _ hr => hr.modifyRange ..) fun _ hx => hx.markRange ..

theorem OccBounds.insertLines (count : Nat) : (g.insertLines count).OccBounds := by
  unfold Grid.insertLines
  split
  · exact h
  · split
    · exact (h.scrollPartial ..).2
    · exact (h.scrollRange ..).2

theorem OccBounds.deleteLines (count : Nat) : (g.deleteLines count).OccBounds := by
  unfold Grid.deleteLines
  split
  · exact h
  · split
    · exact (h.scrollPartial ..).1
    · exact (h.scrollRange ..).1

/-- SL and SR: the shift stays in the band, and the watermark covers the band. -/
theorem OccBounds.scrollColumns (count : Nat) {shift : Nat → Nat → Nat → Cell → Row → Row}
    (hshift : ∀ left right count template r, left + count ≤ right + 1 → Row.OccBounds r → (shift left right count template r).OccBounds) :
    (g.scrollColumns count shift).OccBounds := by
  unfold Grid.scrollColumns
  split
  · exact h
  · dsimp only
    split
    · exact h
    · refine OccBounds.markRange (h.lines fun i x hx => ?_) ..
      refine OccBounds.editRow ((writes_fixWideBoundaries ..).occBounds hx) i _ fun r _ hr => ?_
      exact hshift _ _ _ _ r (by omega) hr

theorem OccBounds.clearEdges (line left right : Nat) : (g.clearEdges line left right).OccBounds := by
  have hleft := (writes_clearWideCharAt g line left).occBounds h
  unfold Grid.clearEdges
  dsimp only
  split
  · exact (writes_clearWideCharAt ..).occBounds hleft
  · exact hleft

theorem OccBounds.fillRect (area : RectArea) (template : Cell) : (g.fillRect area template).OccBounds := by
  refine h.lines fun i x hx => OccBounds.markCols (OccBounds.editRow (hx.clearEdges ..) i _ fun r _ hr => ?_) ..
  exact (hr.modifyRange ..).raiseOcc _

theorem OccBounds.clearUnprotectedEdges (line left right : Nat) :
    (g.clearUnprotectedEdges line left right).OccBounds := by
  have hleft : OccBounds
      (if !(g.cell line left).has isProtected then g.clearWideCharAt line left else g) := by
    split
    · exact (writes_clearWideCharAt ..).occBounds h
    · exact h
  unfold Grid.clearUnprotectedEdges
  dsimp only
  generalize (if !(g.cell line left).has isProtected then g.clearWideCharAt line left else g) = g₁
    at hleft ⊢
  split
  · exact (writes_clearWideCharAt ..).occBounds hleft
  · exact hleft

theorem OccBounds.eraseRectUnprotected (area : RectArea) (bg : Color) : (g.eraseRectUnprotected area bg).OccBounds := by
  refine h.lines fun i x hx => ?_
  have hedges := hx.clearUnprotectedEdges i area.left area.right
  generalize x.clearUnprotectedEdges i area.left area.right = y at hedges ⊢
  have herase := hedges.editRow i (Row.modifyRange area.left (area.right + 1) (Cell.eraseUnprotected (Cell.ofBg bg)))
    fun r _ hr => hr.modifyRange ..
  dsimp only
  split
  · exact OccBounds.markCols (herase.editRow i _ fun r _ hr => hr.raiseOcc _) ..
  · exact herase

theorem OccBounds.editFlagsRect (area : RectArea) (aceMode : AceMode) (f : CellFlags → CellFlags) :
    (g.editFlagsRect area aceMode f).OccBounds :=
  h.lines fun i _ hx => OccBounds.markCols (hx.editRow i _ fun _ _ hr => hr.modifyRange ..) ..

section

variable (area : RectArea) (params : List Nat) (aceMode : AceMode)

theorem OccBounds.applySgrRect : (g.applySgrRect area params aceMode).OccBounds := by
  unfold Grid.applySgrRect
  dsimp only
  split
  · exact h
  · exact h.editFlagsRect ..

theorem OccBounds.reverseSgrRect : (g.reverseSgrRect area params aceMode).OccBounds := by
  unfold Grid.reverseSgrRect
  dsimp only
  split
  · exact h
  · exact h.editFlagsRect ..

end

theorem OccBounds.copyRect (src : RectArea) (dstTop dstLeft : Nat) : (g.copyRect src dstTop dstLeft).OccBounds := by
  refine h.lines fun i x hx => OccBounds.markCols (OccBounds.editRow (hx.clearEdges ..) _ _ fun r _ hr => ?_) ..
  refine Row.OccBounds.raiseOcc ?_ _
  exact forRange_invariant (fun col _ _ _ hy => hy.modify col _) hr

theorem OccBounds.fillScreen (f : Cell → Cell) : (g.fillScreen f).OccBounds := by
  refine OccBounds.markAll (h.lines fun line x hx => hx.lines fun col y hy => ?_)
  exact (writes_editCell y line col f).occBounds hy

end

/-! ## Erases and shifts -/

/-- The row that a later edit meets is the row of `g`, written to. -/
theorem Writes.row (hw : Writes g g') {i : Nat} {r' : Row} (h : g'.rows[i]? = some r') : Row.Raises (g.row i) r' := by
  obtain ⟨r, hr, hraises⟩ := hw.rows i r' h
  rw [row_eq hr]
  exact hraises

theorem Writes.width (hw : Writes g g') (hg : Framed g) {i : Nat} {r' : Row} (h : g'.rows[i]? = some r') :
    r'.cols = g.cols := by
  obtain ⟨r, hr, hraises⟩ := hw.rows i r' h
  rw [hraises.cols, hg.width r (mem_of_getElem? hr)]

/-- Erasing in the cursor line keeps the bounds when it keeps those of that line. -/
def EraseOk (g : Grid) (template : Cell) : LineEraseMode → Prop
  | .right => (g.row g.cursor.line).BlankOk g.cursor.col g.cols template
  | .left => (g.row g.cursor.line).BlankLeftOk (min g.cursor.col (g.cols - 1) + 1) template
  | .all => True

instance (g : Grid) (template : Cell) (mode : LineEraseMode) : Decidable (g.EraseOk template mode) := by
  cases mode <;> (unfold EraseOk; infer_instance)

theorem OccBounds.eraseLine (h : g.OccBounds) (hg : Framed g) (mode : LineEraseMode) (bg : Color)
    (hok : g.EraseOk (Cell.ofBg bg) mode) : (g.eraseLineWithTemplate mode (Cell.ofBg bg)).OccBounds := by
  cases mode with
  | right =>
    have hfix := writes_fixWideBoundaries g g.cursor.line g.cursor.col g.cols
    refine OccBounds.markCols (OccBounds.editRow (hfix.occBounds h) _ _ fun r hr hbounds => ?_) ..
    have hwidth := hfix.width hg hr
    have hrow := Row.BlankOk.raises hok (hfix.row hr)
    rw [← hwidth] at hrow ⊢
    exact hbounds.eraseRight hrow rfl
  | left =>
    have hfix := writes_fixWideBoundaries g g.cursor.line 0 (min g.cursor.col (g.cols - 1) + 1)
    refine OccBounds.markCols (OccBounds.editRow (hfix.occBounds h) _ _ fun r hr hbounds => ?_) ..
    exact hbounds.eraseLeft (Row.BlankLeftOk.raises hok (hfix.row hr)) rfl
  | all => exact ⟨(h.editRow _ _ fun r _ hr => hr.reset _ bg).rows, h.history⟩

/-- ED keeps the bounds when the erase of the cursor line does. -/
def EraseDisplayOk (g : Grid) : DisplayEraseMode → Prop
  | .below => g.EraseOk g.bceTemplate .right
  | .above => g.EraseOk g.bceTemplate .left
  | .all => True
  | .scrollback => True

instance (g : Grid) (mode : DisplayEraseMode) : Decidable (g.EraseDisplayOk mode) := by
  cases mode <;> (unfold EraseDisplayOk; infer_instance)

theorem OccBounds.eraseDisplay (h : g.OccBounds) (hg : Framed g) {mode : DisplayEraseMode}
    (hok : g.EraseDisplayOk mode) : (g.eraseDisplay mode).OccBounds := by
  cases mode with
  | below =>
    have hline := (h.eraseLine hg .right _ hok).resetLines
      ((g.eraseLineWithTemplate .right g.bceTemplate).cursor.line + 1)
      (g.eraseLineWithTemplate .right g.bceTemplate).lines g.cursor.template.bg
    unfold Grid.eraseDisplay
    dsimp only
    split
    · exact hline.markRange ..
    · exact hline
  | above =>
    have hline := (h.eraseLine hg .left _ hok).resetLines 0
      (g.eraseLineWithTemplate .left g.bceTemplate).cursor.line g.cursor.template.bg
    unfold Grid.eraseDisplay
    dsimp only
    split
    · exact hline.markRange ..
    · exact hline
  | all => exact (h.resetLines ..).dropStale.markAll
  | scrollback =>
    refine OccBounds.markAll ⟨h.rows, fun r hr => ?_⟩
    cases hr

/-- ECH keeps the bounds when the span it blanks does. -/
def EraseCharsOk (g : Grid) (count : Nat) : Prop :=
  (g.row g.cursor.line).BlankOk g.cursor.col (min (g.cursor.col + count) g.cols) g.bceTemplate

instance (g : Grid) (count : Nat) : Decidable (g.EraseCharsOk count) := by
  unfold EraseCharsOk
  infer_instance

theorem OccBounds.eraseChars (h : g.OccBounds) {count : Nat} (hok : g.EraseCharsOk count) :
    (g.eraseChars count).OccBounds := by
  have hfix := writes_fixWideBoundaries g g.cursor.line g.cursor.col (min (g.cursor.col + count) g.cols)
  unfold Grid.eraseChars
  split
  · exact h
  · refine OccBounds.markCols (OccBounds.editRow (hfix.occBounds h) _ _ fun r hr hbounds => ?_) ..
    exact hbounds.resetCells (Row.BlankOk.raises hok (hfix.row hr)) rfl

/-- The cell at the cursor is written, so that the watermark covers it. -/
theorem stripWide_row {line col : Nat} {r' : Row} (h : (g.stripWide line col).rows[line]? = some r') :
    Row.Raises ((g.row line).raiseOcc (col + 1)) r' ∧ col < r'.occ := by
  obtain ⟨r, hr, ⟨_, rfl⟩ | ⟨hne, _⟩⟩ := getElem?_editRow h
  · refine ⟨((writes_clearWideCharAt g line col).row hr).modify col _, ?_⟩
    exact Nat.le_max_right ..
  · exact absurd rfl hne

theorem writes_stripWide (g : Grid) (line col : Nat) : Writes g (g.stripWide line col) :=
  (writes_clearWideCharAt g line col).editCell ..

theorem writes_insertPrefix (g : Grid) (line col stop : Nat) :
    Writes (g.stripWide line col)
      (if stop < (g.stripWide line col).cols then (g.stripWide line col).clearWideCharAt line (stop - 1)
        else g.stripWide line col) := by
  split
  · exact writes_clearWideCharAt ..
  · exact .refl _

/-- Opening a gap in one row, together with the watermark that follows it. -/
theorem OccBounds.insertColumns_row (h : g.OccBounds) (hg : Framed g) {line col count stop : Nat} (template : Cell)
    (hgap : col + count ≤ stop) (hstop : stop ≤ g.cols) :
    ((g.rowInsertColumns line col count stop template).editRow line fun r =>
      r.setOcc (min (r.occ + count) g.cols)).OccBounds := by
  have hstrip := writes_stripWide g line col
  have hprefix := writes_insertPrefix g line col stop
  have hwrites := hstrip.trans hprefix
  unfold rowInsertColumns
  dsimp only
  generalize (if stop < (g.stripWide line col).cols then (g.stripWide line col).clearWideCharAt line (stop - 1)
    else g.stripWide line col) = y at hprefix hwrites ⊢
  have hy := hwrites.occBounds h
  refine ⟨fun r' hr' => ?_, hy.history⟩
  obtain ⟨i, hi⟩ := mem_iff_getElem?.mp hr'
  obtain ⟨r₁, hr₁, ⟨rfl, rfl⟩ | ⟨hne, rfl⟩⟩ := getElem?_editRow hi
  · obtain ⟨r₀, hr₀, ⟨_, rfl⟩ | ⟨hne, _⟩⟩ := getElem?_editRow hr₁
    · have hwidth := hwrites.width hg hr₀
      obtain ⟨r, hr, hraises⟩ := hprefix.rows line r₀ hr₀
      have hocc := (stripWide_row hr).2
      have hle := hraises.occ
      rw [← hwidth]
      exact (hy.rows r₀ (mem_of_getElem? hr₀)).openGap template (by omega) hgap (by omega)
    · exact absurd rfl hne
  · obtain ⟨r₀, hr₀, ⟨heq, _⟩ | ⟨_, rfl⟩⟩ := getElem?_editRow hr₁
    · exact absurd heq hne
    · exact hy.rows r' (mem_of_getElem? hr₀)

theorem OccBounds.insertBlank (h : g.OccBounds) (hg : Framed g) (count : Nat) : (g.insertBlank count).OccBounds := by
  unfold Grid.insertBlank
  split
  · exact h
  · next rightBound hbound =>
    obtain ⟨hcol, hle⟩ := editBound_spec hbound
    split
    · exact h
    · exact (h.insertColumns_row hg _ (by omega) hle).markCols ..

theorem writes_closePrefix (g : Grid) (line col count stop : Nat) :
    Writes g (if col + count < stop ∧ (g.cell line (col + count)).has wideCharSpacer then
      g.editCell line (col + count) (Cell.orphan wideCharSpacer) else g) := by
  split
  · exact writes_editCell ..
  · exact .refl g

/-- Closing a gap in one row, together with its watermark. -/
theorem OccBounds.closeColumns (h : g.OccBounds) (hg : Framed g) {line col count stop : Nat} {bg : Color}
    (hok : ∀ r, g.rows[line]? = some r → r.BlankOk (stop - count) stop (Cell.ofBg bg)) (hgap : col + count ≤ stop)
    (hstop : stop ≤ g.cols) :
    ((g.closeColumns line col count stop (Cell.ofBg bg)).editRow line fun r =>
      if (Cell.ofBg bg).isEmpty then r else r.setOcc g.cols).OccBounds := by
  have hprefix := writes_closePrefix g line col count stop
  unfold Grid.closeColumns
  generalize (if col + count < stop ∧ (g.cell line (col + count)).has wideCharSpacer then
    g.editCell line (col + count) (Cell.orphan wideCharSpacer) else g) = y at hprefix ⊢
  have hy := hprefix.occBounds h
  refine ⟨fun r' hr' => ?_, hy.history⟩
  obtain ⟨i, hi⟩ := mem_iff_getElem?.mp hr'
  obtain ⟨r₁, hr₁, ⟨rfl, rfl⟩ | ⟨hne, rfl⟩⟩ := getElem?_editRow hi
  · obtain ⟨r₀, hr₀, ⟨_, rfl⟩ | ⟨hne, _⟩⟩ := getElem?_editRow hr₁
    · have hwidth := hprefix.width hg hr₀
      obtain ⟨r, hr, hraises⟩ := hprefix.rows line r₀ hr₀
      rw [← hwidth]
      exact (hy.rows r₀ (mem_of_getElem? hr₀)).closeGap ((hok r hr).raises hraises) (by omega) hgap rfl
    · exact absurd rfl hne
  · obtain ⟨r₀, hr₀, ⟨heq, _⟩ | ⟨_, rfl⟩⟩ := getElem?_editRow hr₁
    · exact absurd heq hne
    · exact hy.rows r' (mem_of_getElem? hr₀)

/-- DCH keeps the bounds when the end it vacates does; the cell at the cursor counts as written. -/
def DeleteCharsOk (g : Grid) (count : Nat) : Prop :=
  match g.editBound with
  | none => True
  | some rightBound =>
    ((g.row g.cursor.line).raiseOcc (g.cursor.col + 1)).BlankOk
      (rightBound - min count (rightBound - g.cursor.col)) rightBound g.bceTemplate

instance (g : Grid) (count : Nat) : Decidable (g.DeleteCharsOk count) := by
  unfold DeleteCharsOk
  split <;> infer_instance

theorem OccBounds.deleteChars (h : g.OccBounds) (hg : Framed g) {count : Nat} (hok : g.DeleteCharsOk count) :
    (g.deleteChars count).OccBounds := by
  unfold DeleteCharsOk at hok
  unfold Grid.deleteChars
  split
  · exact h
  · next rightBound hbound =>
    rw [hbound] at hok
    obtain ⟨hcol, hle⟩ := editBound_spec hbound
    split
    · exact h
    · have hstrip := writes_stripWide g g.cursor.line g.cursor.col
      have hframed : Framed (g.stripWide g.cursor.line g.cursor.col) :=
        ((Edits.refl (span g.cursor.line g.cursor.col rightBound) g).stripWide hcol).framed hg
      have hcols : (g.stripWide g.cursor.line g.cursor.col).cols = g.cols :=
        ((Edits.refl (span g.cursor.line g.cursor.col rightBound) g).stripWide hcol).cols
      refine OccBounds.markCols ?_ ..
      rw [← hcols]
      refine OccBounds.closeColumns (hstrip.occBounds h) hframed (fun r hr => ?_) (by omega) (by omega)
      exact Row.BlankOk.raises hok (stripWide_row hr).1

/-- DECDC keeps the bounds when the end it vacates does, in every row of the region. -/
def DeleteColumnsOk (g : Grid) (count atCol : Nat) : Prop :=
  match g.columnOpExtent atCol with
  | none => True
  | some (rowStart, rowEnd, _, colEnd) =>
    ∀ line ∈ List.range' rowStart (rowEnd - rowStart),
      (g.row line).BlankOk (colEnd - min count (colEnd - atCol)) colEnd g.bceTemplate

instance (g : Grid) (count atCol : Nat) : Decidable (g.DeleteColumnsOk count atCol) := by
  unfold DeleteColumnsOk
  split <;> infer_instance

theorem OccBounds.deleteColumns_row (h : g.OccBounds) (hg : Framed g) {line atCol count stop : Nat} {bg : Color}
    (hok : ∀ r, g.rows[line]? = some r → r.BlankOk (stop - count) stop (Cell.ofBg bg)) (hgap : atCol + count ≤ stop)
    (hstop : stop ≤ g.cols) :
    (((g.rowDeleteColumns line atCol count stop (Cell.ofBg bg)).markCols line atCol (stop - 1)).editRow line
      fun r => if (Cell.ofBg bg).isEmpty then r else r.setOcc g.cols).OccBounds := by
  have hclear := writes_clearWideCharAt g line atCol
  have htracked := tracked_clearWideCharAt g line atCol
  have hline : ∀ r, (g.clearWideCharAt line atCol).rows[line]? = some r →
      r.BlankOk (stop - count) stop (Cell.ofBg bg) := by
    intro r hr
    obtain ⟨r₀, hr₀, hraises⟩ := hclear.rows line r hr
    exact (hok r₀ hr₀).raises hraises
  have hclose := (hclear.occBounds h).closeColumns (htracked.framed hg) hline hgap
    (by rw [htracked.cols]; exact hstop)
  rw [htracked.cols] at hclose
  exact ⟨hclose.rows, hclose.history⟩

/-- The lines behind the one that is edited are not touched. -/
theorem rows_deleteColumns_row (g : Grid) {line atCol count stop i : Nat} (template : Cell) (cols : Nat) (hi : line ≠ i) :
    (((g.rowDeleteColumns line atCol count stop template).markCols line atCol (stop - 1)).editRow line
      fun r => if template.isEmpty then r else r.setOcc cols).rows[i]? = g.rows[i]? := by
  have hedit : ∀ (x : Grid) (f : Row → Row), (x.editRow line f).rows[i]? = x.rows[i]? := fun x f =>
    getElem?_modify_ne _ _ hi
  have hclear : (g.clearWideCharAt line atCol).rows[i]? = g.rows[i]? := by
    have horphan : ∀ (x : Grid) col flag, (x.blankOrphan line col flag).rows[i]? = x.rows[i]? := fun x _ _ => hedit x _
    unfold clearWideCharAt
    split
    · rfl
    · dsimp only
      split
      · split
        · rw [horphan, horphan]
        · rw [horphan]
      · split
        · rw [horphan]
        · rfl
  rw [hedit]
  show (Grid.rowDeleteColumns g line atCol count stop template).rows[i]? = _
  unfold rowDeleteColumns closeColumns
  rw [hedit]
  split
  · exact (hedit _ _).trans hclear
  · exact hclear

theorem OccBounds.deleteColumns (h : g.OccBounds) (hg : Wf g) {count atCol : Nat} (hok : g.DeleteColumnsOk count atCol) :
    (g.deleteColumns count atCol).OccBounds := by
  unfold DeleteColumnsOk at hok
  unfold Grid.deleteColumns
  split
  · exact h
  · split
    · exact h
    · next rowStart rowEnd colStart colEnd hext =>
      rw [hext] at hok
      obtain ⟨hlt, hle, hrows⟩ := columnOpExtent_le hg.toMarginsOk hext
      -- up to the line of the index the rows are done; from it on they are those of `g`
      refine (forRange_induction (P := fun k x => OccBounds x ∧ Tracked g x
        ∧ ∀ i, k ≤ i → x.rows[i]? = g.rows[i]?) (Nat.le_of_lt hrows) ?_
        ⟨h, .refl _ g, fun _ _ => rfl⟩).1
      rintro line x hs he ⟨hx, htracked, hrest⟩
      refine ⟨?_, ?_, fun i hi => ?_⟩
      · rw [← htracked.cols]
        refine hx.deleteColumns_row (htracked.framed hg.toFramed) (fun r hr => ?_) (by omega)
          (by rw [htracked.cols]; exact hle)
        rw [hrest line (Nat.le_refl _)] at hr
        have hline := hok line (mem_range'_1.mpr (by omega))
        rw [row_eq hr] at hline
        exact hline
      · exact htracked.trans (tracked_deleteColumns_row x line g.bceTemplate g.cols (by omega))
      · exact (rows_deleteColumns_row x g.bceTemplate g.cols (by omega)).trans (hrest i (by omega))

theorem OccBounds.insertColumns (h : g.OccBounds) (hg : Wf g) (count atCol : Nat) :
    (g.insertColumns count atCol).OccBounds := by
  unfold Grid.insertColumns
  split
  · exact h
  · split
    · exact h
    · next rowStart rowEnd colStart colEnd hext =>
      obtain ⟨hlt, hle, _⟩ := columnOpExtent_le hg.toMarginsOk hext
      refine (forRange_invariant (P := fun x => OccBounds x ∧ Tracked g x) ?_ ⟨h, .refl _ g⟩).1
      rintro line x _ _ ⟨hx, htracked⟩
      refine ⟨?_, ?_⟩
      · have hrow := @OccBounds.insertColumns_row _ hx (htracked.framed hg.toFramed) line atCol
          (min count (colEnd - atCol)) colEnd g.bceTemplate (by omega)
          (by rw [htracked.cols]; exact hle)
        rw [htracked.cols] at hrow
        exact ⟨hrow.rows, hrow.history⟩
      · refine htracked.trans (Edits.trans ?_ (edits_setOccs _ _ _ (fun r => Row.shape_setOcc ..) fun _ => rfl))
        exact (edits_rowInsertColumns x _ hlt (by omega)).markCols _ _ _ fun _ _ h => h

/-! ## Resizes -/

theorem OccBounds.reset (h : g.OccBounds) : g.reset.OccBounds := by
  refine OccBounds.markAll ⟨fun r hr => ?_, fun r hr => ?_⟩
  · obtain ⟨r₀, hr₀, rfl⟩ := mem_map.mp hr
    exact (h.rows r₀ hr₀).reset ..
  · cases hr

/-- The scrollback rows that a growing screen takes back. -/
def restoredRows (g : Grid) (newLines : Nat) : List Row :=
  if g.lines < newLines ∧ g.cursor.line ≥ g.lines - 1 then
    g.scrollback.rows.drop (g.scrollback.len - (newLines - g.lines))
  else []

/-- A row that was padded or blank, or was on the screen. -/
theorem OccBounds.resizeRows (h : g.OccBounds) {newLines : Nat}
    (hok : ∀ r ∈ g.restoredRows newLines, r.WidenOk g.cols) : (g.resizeRows newLines).OccBounds := by
  unfold Grid.resizeRows
  split
  · exact h
  · next hne =>
    by_cases hlt : newLines < g.lines
    · rw [if_pos hlt]
      refine ⟨fun r hr => ?_, fun r hr => ?_⟩
      · rcases mem_of_mem_resize hr with hmem | rfl
        · exact h.rows r (mem_of_mem_take (mem_of_mem_drop hmem))
        · exact (Row.plainTail_new _).occBounds
      · rcases mem_pushAll hr with hold | hnew
        · exact h.history r hold
        · exact h.rows r (mem_of_mem_take (mem_of_mem_take hnew))
    · rw [if_neg hlt]
      obtain ⟨n, k, hn, hsb, _, hrows, hlen⟩ := growRows_eq g newLines
      refine ⟨fun r hr => ?_, fun r hr => ?_⟩
      · rw [hrows] at hr
        rcases mem_append.mp hr with hr | hnew
        · rcases mem_append.mp hr with hrestored | hold
          · obtain ⟨r₀, hr₀, rfl⟩ := mem_map.mp hrestored
            refine (h.history r₀ (mem_of_mem_drop hr₀)).resize (hok r₀ ?_)
            rw [hlen] at hr₀
            unfold restoredRows
            by_cases hbottom : g.cursor.line ≥ g.lines - 1
            · rw [if_pos hbottom] at hr₀
              rw [if_pos ⟨by omega, hbottom⟩]
              exact hr₀
            · rw [if_neg hbottom, drop_of_length_le (by rw [ScrollbackBuffer.length_rows])] at hr₀
              cases hr₀
          · exact h.rows r hold
        · obtain rfl := eq_of_mem_replicate hnew
          exact (Row.plainTail_new _).occBounds
      · rw [hsb, ScrollbackBuffer.rows_popMany] at hr
        exact h.history r (mem_of_mem_take hr)

/-- A reflow rewrites every row. -/
theorem occBounds_reflowCols (g : Grid) {newCols : Nat} (hne : g.cols ≠ newCols) (h0 : newCols ≠ 0) :
    (g.reflowCols newCols).1.OccBounds := by
  unfold reflowCols
  rw [if_neg (by omega)]
  dsimp only
  generalize houtcome : reflowCells (g.scrollback.drainOldestFirst.2 ++ g.rows) _ = outcome
  have hbounds : ∀ r ∈ outcome.rows, r.OccBounds := by
    rw [← houtcome]
    exact occBounds_reflowCells _ _
  have hresult : ∀ n, ∀ r ∈ trimResult n (if outcome.rows.isEmpty then [Row.new newCols] else outcome.rows),
      r.OccBounds := by
    intro n r hr
    have hr := mem_of_mem_take hr
    split at hr
    · obtain rfl := mem_singleton.mp hr
      exact (Row.plainTail_new _).occBounds
    · exact hbounds r hr
  refine ⟨fun r hr => ?_, fun r hr => ?_⟩
  · rcases mem_of_mem_resize hr with hmem | rfl
    · exact hresult _ r (mem_of_mem_drop hmem)
    · exact (Row.plainTail_new _).occBounds
  · rcases mem_pushAll hr with hold | hnew
    · cases hold
    · exact hresult _ r (mem_of_mem_take hnew)

/-- A resize keeps the bounds when it reflows, or pads only rows with a plain tail: the rows taken back from the
    scrollback, and the rows then on the screen. -/
def ResizeOk (g : Grid) (newLines newCols : Nat) (reflow : Bool) : Prop :=
  newCols = 0 ∨ newLines = 0 ∨ reflow = true ∧ newCols ≠ g.cols
    ∨ (∀ r ∈ g.restoredRows newLines, r.WidenOk g.cols) ∧ ∀ r ∈ (g.resizeRows newLines).rows, r.WidenOk newCols

instance (g : Grid) (newLines newCols : Nat) (reflow : Bool) : Decidable (g.ResizeOk newLines newCols reflow) := by
  unfold ResizeOk
  infer_instance

theorem OccBounds.finalizeResize (h : g.OccBounds) : g.finalizeResize.OccBounds := ⟨h.rows, h.history⟩

theorem OccBounds.resize (h : g.OccBounds) (hg : Framed g) {newLines newCols : Nat} {reflow : Bool}
    (hok : g.ResizeOk newLines newCols reflow) : (g.resize newLines newCols reflow).1.OccBounds := by
  have hrows := rowsResized_resizeRows ⟨hg.rows, hg.width⟩ newLines
  unfold Grid.resize
  by_cases hzero : newCols = 0 ∨ newLines = 0
  · rw [if_pos hzero]
    exact h
  rw [if_neg hzero]
  by_cases hsame : newCols = g.cols ∧ newLines = g.lines
  · rw [if_pos hsame]
    exact h
  rw [if_neg hsame]
  by_cases href : reflow = true ∧ newCols ≠ g.cols
  · rw [if_pos href]
    by_cases hgrow : newCols > g.cols
    · rw [if_pos hgrow]
      obtain ⟨_, _, _, hsb, _⟩ := reflowCols_spec g (show g.cols ≠ newCols by omega) (by omega)
      have hreflowed := occBounds_reflowCols g (show g.cols ≠ newCols by omega) (by omega)
      have hset : ((g.reflowCols newCols).1.setCols newCols).OccBounds := ⟨hreflowed.rows, hreflowed.history⟩
      refine (hset.resizeRows fun r hr => .inl ?_).finalizeResize
      -- after the reflow every row has the new width
      unfold restoredRows at hr
      split at hr
      · exact Nat.le_of_eq (hsb r (mem_of_mem_drop hr)).symm
      · cases hr
    · rw [if_neg hgrow]
      have hreflowed := occBounds_reflowCols (g.resizeRows newLines)
        (show (g.resizeRows newLines).cols ≠ newCols by rw [hrows.cols]; omega) (by omega)
      exact OccBounds.finalizeResize ⟨hreflowed.rows, hreflowed.history⟩
  · rw [if_neg href]
    obtain ⟨hrestored, hwiden⟩ : (∀ r ∈ g.restoredRows newLines, r.WidenOk g.cols)
        ∧ ∀ r ∈ (g.resizeRows newLines).rows, r.WidenOk newCols := by
      rcases hok with hc | hl | hr | hw
      · exact absurd (.inl hc) hzero
      · exact absurd (.inr hl) hzero
      · exact absurd hr href
      · exact hw
    have hresized := h.resizeRows hrestored
    refine OccBounds.finalizeResize ?_
    unfold resizeNoReflow
    dsimp only
    split
    · refine ⟨fun r hr => ?_, hresized.history⟩
      obtain ⟨r₀, hr₀, rfl⟩ := mem_map.mp hr
      exact (hresized.rows r₀ hr₀).resize (hwiden r₀ hr₀)
    · exact hresized

end Grid

/-! ## Steps and runs -/

namespace GridEdit

/-- The edit blanks no cells in front of a coloured tail. -/
def KeepsOcc (g : Grid) : GridEdit → Prop
  | deleteChars count => g.DeleteCharsOk count
  | eraseChars count => g.EraseCharsOk count
  | eraseLine mode => g.EraseOk g.bceTemplate mode
  | deleteColumns count atCol => g.DeleteColumnsOk count atCol
  | _ => True

instance (g : Grid) (e : GridEdit) : Decidable (e.KeepsOcc g) := by
  apply @GridEdit.casesOn (fun e => Decidable (e.KeepsOcc g)) <;> intros <;> (unfold KeepsOcc; infer_instance)

theorem occBounds {g : Grid} (h : g.OccBounds) (hg : g.Wf) {e : GridEdit} (hok : e.KeepsOcc g) :
    (e.apply g).OccBounds := by
  have hsilent : e.Silent → (e.apply g).OccBounds := fun hs => (e.still hg.toFramed hs).occBounds h
  cases e with
  | putCharAscii ch =>
    show ((g.putCharAscii ch).getD g).OccBounds
    cases hput : g.putCharAscii ch with
    | none => exact h
    | some g' => exact h.putCharAscii hput
  | pushZerowidth ch => exact h.pushZerowidth ch
  | insertBlank count => exact h.insertBlank hg.toFramed count
  | deleteChars count => exact h.deleteChars hg.toFramed hok
  | eraseChars count => exact h.eraseChars hok
  | eraseLine mode => exact h.eraseLine hg.toFramed mode _ hok
  | scrollLeft count => exact h.scrollColumns count fun _ _ _ template _ _ hr => hr.shiftLeft template
  | scrollRight count => exact h.scrollColumns count fun _ _ _ template _ hc hr => hr.shiftRight template hc
  | insertColumns count atCol => exact h.insertColumns hg count atCol
  | deleteColumns count atCol => exact h.deleteColumns hg hok
  | fillRect area template => exact h.fillRect area template
  | eraseRectAll area bg => exact h.fillRect area _
  | eraseRectUnprotected area bg => exact h.eraseRectUnprotected area bg
  | applySgrRect area params aceMode => exact h.applySgrRect area params aceMode
  | reverseSgrRect area params aceMode => exact h.reverseSgrRect area params aceMode
  | copyRect src dstTop dstLeft => exact h.copyRect src dstTop dstLeft
  | fillScreen f => exact h.fillScreen f
  | _ => exact hsilent trivial

end GridEdit

namespace GridOp

/-- The operation leaves a tail of one background in every row it touches. -/
def KeepsOcc (g : Grid) : GridOp → Prop
  | edit e => e.KeepsOcc g
  | eraseDisplay mode => g.EraseDisplayOk mode
  | resize newLines newCols reflow => g.ResizeOk newLines newCols reflow
  | _ => True

instance (g : Grid) (op : GridOp) : Decidable (op.KeepsOcc g) := by
  apply @GridOp.casesOn (fun op => Decidable (op.KeepsOcc g)) <;> intros <;> (unfold KeepsOcc; infer_instance)

/-- **One operation keeps every row bounded by its watermark.** -/
theorem occBounds {g : Grid} (h : g.OccBounds) (hg : g.Wf) {op : GridOp} (hok : op.KeepsOcc g) :
    (op.apply g).OccBounds := by
  cases op with
  | edit e => exact e.occBounds h hg hok
  | putChar width ch => exact h.putChar width ch
  | linefeed => exact h.linefeed
  | nextLine =>
    have hret : g.carriageReturn.OccBounds := ⟨h.rows, h.history⟩
    exact hret.linefeed
  | reverseIndex => exact h.reverseIndex
  | scrollUp count => exact h.scrollUp count
  | scrollDown count => exact (h.scrollRange ..).2
  | insertLines count => exact h.insertLines count
  | deleteLines count => exact h.deleteLines count
  | eraseDisplay mode => exact h.eraseDisplay hg.toFramed hok
  | setScrollRegion top bottom =>
    show (g.setScrollRegion top bottom).OccBounds
    unfold Grid.setScrollRegion
    dsimp only
    split
    · exact h
    · exact ⟨h.rows, h.history⟩
  | setLeftRightMargins left right =>
    show (g.setLeftRightMargins left right).OccBounds
    unfold Grid.setLeftRightMargins
    split
    · exact ⟨h.rows, h.history⟩
    · exact h
  | resetLeftRightMargins => exact ⟨h.rows, h.history⟩
  | scrollDisplay delta =>
    show (g.scrollDisplay delta).OccBounds
    unfold Grid.scrollDisplay
    dsimp only
    split
    · exact ⟨h.rows, h.history⟩
    · exact h
  | reset => exact h.reset
  | resize newLines newCols reflow => exact h.resize hg.toFramed hok

end GridOp

namespace Grid

theorem occBounds_withScrollback (lines cols maxScrollback : Nat) :
    (withScrollback lines cols maxScrollback).OccBounds := by
  refine ⟨fun r hr => ?_, fun r hr => ?_⟩
  · obtain rfl := eq_of_mem_replicate hr
    exact (Row.plainTail_new _).occBounds
  · cases hr

/-- **Cleared rows are clear.** In a run from a new grid in which no operation leaves cells of two backgrounds past a
    watermark, resetting any row, on the screen or in the scrollback, to any width and background leaves nothing
    but blanks of that background. -/
theorem reset_clears_run {lines cols maxScrollback : Nat} (hc : 0 < cols) {ops : List GridOp}
    (hops : Along GridOp.apply (fun g op => op.KeepsOcc g) (withScrollback lines cols maxScrollback) ops) :
    ∀ r ∈ (run GridOp.apply (withScrollback lines cols maxScrollback) ops).history,
      ∀ (newCols : Nat) (template : Cell), template = Cell.ofBg template.bg →
        ∀ c ∈ (r.reset newCols template).inner, c = template := by
  have hrun : Wf (run GridOp.apply (withScrollback lines cols maxScrollback) ops)
      ∧ OccBounds (run GridOp.apply (withScrollback lines cols maxScrollback) ops) := by
    refine hops.invariant (I := fun g => Wf g ∧ OccBounds g) (fun g op hinv hok => ?_)
      ⟨wf_withScrollback lines maxScrollback hc, occBounds_withScrollback lines cols maxScrollback⟩
    exact ⟨(op.keeps hinv.1).wf, op.occBounds hinv.2 hinv.1 hok⟩
  intro r hr newCols template ht
  have hbounds : r.OccBounds := by
    rcases mem_append.mp hr with hold | hnew
    · exact hrun.2.history r hold
    · exact hrun.2.rows r hnew
  rw [ht]
  exact hbounds.reset_clears newCols template.bg

/-- A line erased in red scrolls off and comes back; the default erase after it meets a row it may clear. -/
theorem reset_clears_run_bce :
    0 < 4 ∧ ∀ r ∈ (run GridOp.apply (withScrollback 2 4 1)
        [.edit (.editTemplate fun _ => .ofBg (.named .red)), .eraseDisplay .all, .scrollUp 1, .edit (.moveTo 0 3),
          .edit (.editTemplate fun _ => .blank), .edit (.eraseLine .all), .edit (.eraseLine .right)]).history,
      ∀ (newCols : Nat) (template : Cell), template = Cell.ofBg template.bg →
        ∀ c ∈ (r.reset newCols template).inner, c = template :=
  ⟨by decide, reset_clears_run (by decide) (by decide)⟩

/-- **Stale colour.** The screen is erased in red, then the line from column 2 on in the default background: the last
    cell is now a default one, so that a reset to the default background believes that the first two are too. -/
theorem reset_leaves_stale_background :
    ¬ ∀ (lines cols maxScrollback : Nat) (ops : List GridOp), 0 < lines → 0 < cols →
      ∀ r ∈ (run GridOp.apply (withScrollback lines cols maxScrollback) ops).history,
        ∀ (newCols : Nat) (template : Cell), template = Cell.ofBg template.bg →
          ∀ c ∈ (r.reset newCols template).inner, c = template := by
  intro h
  have hrow := h 1 4 0 [.edit (.editTemplate fun _ => .ofBg (.named .red)), .eraseDisplay .all, .edit (.setCol 2),
    .edit (.editTemplate fun _ => .blank), .edit (.eraseLine .right)] (by decide) (by decide)
  have hstale := fun r hr => hrow r hr 4 .blank rfl
  revert hstale
  decide

end Grid

end OriTerm
