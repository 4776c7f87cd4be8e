import OriTerm.Core.Bounds
import OriTerm.Core.LineEdits

/-!
# `Core.WidePairs` — printing and editing keep wide characters whole

`Grid.WidePaired`: in every row of a grid, on the screen and in the scrollback, a wide character is followed by its
spacer and a spacer is preceded by its wide character. `PrintOp` lists the operations that print at the cursor and move
cells around it.

Printing narrow characters, making room and inserting columns always keep the pairs. The other operations each miss an
edge: a wide character that does not fit overwrites a half with padding, DCH and DECDC move a wide character away from a
spacer behind the right margin, SL and SR cut at the column that becomes the first or the last one of the band, and the
partial scrolls copy half characters from row to row. `PrintOp.KeepsPairs` is the condition under which none of this
happens, and `PrintOp.keepsPairs_iff` says that it is exact.
-/

namespace OriTerm

open Lib Lib.Bitflags List Option

/-! ## What an operation may meet in a row -/

namespace Row

/-- The end of what a deletion at `col` moves up to cuts no wide character. -/
def ClosesWhole (col stop : Nat) (r : Row) : Prop := stop = col + 1 ∨ r.halves.left (stop - 1) = false

/-- A shift to the left cuts no wide character, neither at the first column that stays nor at the right margin. -/
def ShiftsLeftWhole (left right count : Nat) (r : Row) : Prop :=
  left + count < right + 1 → r.halves.right (left + count) = false ∧ r.halves.left right = false

/-- A shift to the right cuts no wide character, neither at the left margin nor at the last column that stays. -/
def ShiftsRightWhole (left right count : Nat) (r : Row) : Prop :=
  left + count < right + 1 → r.halves.right left = false ∧ r.halves.left (right - count) = false

/-- The margins cut no wide character. -/
def BandWhole (left right : Nat) (r : Row) : Prop := r.halves.right left = false ∧ r.halves.left right = false

instance (col stop : Nat) (r : Row) : Decidable (r.ClosesWhole col stop) := by
  unfold ClosesWhole
  infer_instance

instance (left right count : Nat) (r : Row) : Decidable (r.ShiftsLeftWhole left right count) := by
  unfold ShiftsLeftWhole
  infer_instance

instance (left right count : Nat) (r : Row) : Decidable (r.ShiftsRightWhole left right count) := by
  unfold ShiftsRightWhole
  infer_instance

instance (left right : Nat) (r : Row) : Decidable (r.BandWhole left right) := by
  unfold BandWhole
  infer_instance

end Row

namespace Grid

/-- **Every row has whole wide characters only**, on the screen and in the scrollback. -/
structure WidePaired (g : Grid) : Prop where
  rows : ∀ r ∈ g.rows, r.WidePaired
  history : ∀ r ∈ g.scrollback.rows, r.WidePaired

/-- What `occ` is for: the cells past the watermark of a row have not been written, so that none is a half. -/
structure PlainPastOcc (g : Grid) : Prop where
  rows : ∀ r ∈ g.rows, r.PlainPastOcc
  history : ∀ r ∈ g.scrollback.rows, r.PlainPastOcc

theorem widePaired_def (g : Grid) :
    g.WidePaired ↔ (∀ r ∈ g.rows, r.WidePaired) ∧ ∀ r ∈ g.scrollback.rows, r.WidePaired :=
  ⟨fun h => ⟨h.rows, h.history⟩, fun h => ⟨h.1, h.2⟩⟩

theorem plainPastOcc_def (g : Grid) :
    g.PlainPastOcc ↔ (∀ r ∈ g.rows, r.PlainPastOcc) ∧ ∀ r ∈ g.scrollback.rows, r.PlainPastOcc :=
  ⟨fun h => ⟨h.rows, h.history⟩, fun h => ⟨h.1, h.2⟩⟩

instance (g : Grid) : Decidable g.WidePaired := decidable_of_iff _ g.widePaired_def.symm

instance (g : Grid) : Decidable g.PlainPastOcc := decidable_of_iff _ g.plainPastOcc_def.symm

variable {g g' : Grid} {F : Nat → Row → Row} {f : Row → Row} {line : Nat}

/-- A visible row. -/
theorem getElem?_row {i : Nat} (hi : i < g.rows.length) : g.rows[i]? = some (g.row i) := by
  rw [getElem?_eq_getElem hi, row_eq (getElem?_eq_getElem hi)]

theorem WidePaired.row (hp : g.WidePaired) {i : Nat} (hi : i < g.rows.length) : (g.row i).WidePaired :=
  hp.rows _ (mem_of_getElem? (getElem?_row hi))

theorem Framed.cols_row (hg : Framed g) {i : Nat} (hi : i < g.rows.length) : (g.row i).cols = g.cols :=
  hg.width _ (mem_of_getElem? (getElem?_row hi))

/-- The cursor is on a row. -/
theorem Bounded.cursor_line (hb : Bounded g) : g.cursor.line < g.rows.length := by
  rw [hb.rows]
  exact hb.cursor.1

/-- The scroll region is on rows. -/
theorem Bounded.region_rows (hb : Bounded g) : g.regionEnd ≤ g.rows.length := by
  rw [hb.rows]
  exact hb.region.2

/-- A column operation acts on the rows of the scroll region. -/
theorem columnOpExtent_rows (hb : Bounded g) {atCol rowStart rowEnd colStart colEnd : Nat}
    (h : g.columnOpExtent atCol = some (rowStart, rowEnd, colStart, colEnd)) : rowEnd ≤ g.rows.length := by
  have hregion := hb.region_rows
  unfold columnOpExtent at h
  split at h
  · cases h
  · split at h
    · cases h
    · split at h
      · cases h
      · dsimp only at h
        split at h
        · cases h
        · simp only [some.injEq, Prod.mk.injEq] at h
          omega

/-- Edits are judged row by row. -/
theorem EditsRows.widePaired_iff (h : EditsRows F g g') (hp : g.WidePaired) :
    g'.WidePaired ↔ ∀ i r, g.rows[i]? = some r → (F i r).WidePaired := by
  have hrows := h.forall_rows Row.WidePaired
  refine ⟨fun hp' => hrows.mp hp'.rows, fun hall => ⟨hrows.mpr hall, ?_⟩⟩
  rw [h.scrollback]
  exact hp.history

theorem EditsRows.widePaired_onLines_iff {start stop : Nat} (h : EditsRows (onLines start stop f) g g')
    (hp : g.WidePaired) (hstop : stop ≤ g.rows.length) :
    g'.WidePaired ↔ ∀ i < stop, start ≤ i → (f (g.row i)).WidePaired := by
  rw [h.widePaired_iff hp]
  unfold onLines
  constructor
  · intro hall i he hs
    have hrow := hall i _ (getElem?_row (Nat.lt_of_lt_of_le he hstop))
    rwa [if_pos ⟨hs, he⟩] at hrow
  · intro hall i r hr
    split
    · next hin => exact row_eq hr ▸ hall i hin.2 hin.1
    · exact hp.rows r (mem_of_getElem? hr)

theorem EditsRows.widePaired_atLine_iff (h : EditsRows (atLine line f) g g') (hp : g.WidePaired)
    (hline : line < g.rows.length) : g'.WidePaired ↔ (f (g.row line)).WidePaired := by
  rw [h.widePaired_iff hp]
  unfold atLine
  constructor
  · intro hall
    have hrow := hall line _ (getElem?_row hline)
    rwa [if_pos rfl] at hrow
  · intro hall i r hr
    split
    · next hi => exact row_eq (hi ▸ hr) ▸ hall
    · exact hp.rows r (mem_of_getElem? hr)

/-! ## Writing and inserting -/

/-- The template of an erase is no half. -/
theorem isPlain_bceTemplate (g : Grid) : g.bceTemplate.IsPlain := Cell.isPlain_ofBg _

theorem WidePaired.putCharAscii (hp : g.WidePaired) (hb : Bounded g) (hpen : g.cursor.template.IsPlain) {ch : Char}
    (h : g.putCharAscii ch = some g') : g'.WidePaired := by
  unfold Grid.putCharAscii at h
  dsimp only at h
  split at h
  · cases h
  · next hcol =>
    split at h
    · cases h
    · next hflags =>
      obtain rfl := some.inj h
      have hline := hb.cursor_line
      have hedit := ((editsRows_editRow g g.cursor.line
        (Row.modify · g.cursor.col (Cell.draw g.cursor.template ch))).setCol (g.cursor.col + 1)).markCols
          g.cursor.line g.cursor.col g.cursor.col
      refine (hedit.widePaired_atLine_iff hp hline).mpr ?_
      refine ((hp.row hline).modify_iff ?_ (Cell.isPlain_draw _ hpen ch)).mpr ?_
      · rw [hb.cols_row hline]
        omega
      · exact Cell.isPlain_of_not_intersects (Bool.not_eq_true _ ▸ hflags)

theorem editsRows_insertBlank {stop count : Nat} (h : g.editBound = some stop) (hcount : count ≠ 0) :
    EditsRows (atLine g.cursor.line fun r =>
        (r.insertColumns g.cols g.cursor.col (min count (stop - g.cursor.col)) stop g.bceTemplate).setOcc
          (min ((r.insertColumns g.cols g.cursor.col (min count (stop - g.cursor.col)) stop g.bceTemplate).occ
            + min count (stop - g.cursor.col)) g.cols)) g (g.insertBlank count) := by
  unfold insertBlank
  rw [h]
  dsimp only
  rw [if_neg hcount]
  exact ((editsRows_rowInsertColumns g g.cursor.line g.cursor.col (min count (stop - g.cursor.col)) stop
    g.bceTemplate).editRow fun r => r.setOcc (min (r.occ + min count (stop - g.cursor.col)) g.cols)).markCols ..

section

variable (hp : g.WidePaired) (hb : Bounded g)
include hp hb

/-- **ICH cuts nothing.** -/
theorem WidePaired.insertBlank (count : Nat) : (g.insertBlank count).WidePaired := by
  cases h : g.editBound with
  | none =>
    unfold Grid.insertBlank
    rw [h]
    exact hp
  | some stop =>
    by_cases h0 : count = 0
    · unfold Grid.insertBlank
      rw [h]
      dsimp only
      rw [if_pos h0]
      exact hp
    · obtain ⟨hcol, hstop⟩ := editBound_spec h
      have hline := hb.cursor_line
      refine ((editsRows_insertBlank h h0).widePaired_atLine_iff hp hline).mpr ?_
      have hpos : 0 < min count (stop - g.cursor.col) := by omega
      have hgap : g.cursor.col + min count (stop - g.cursor.col) ≤ stop := by omega
      exact ((hp.row hline).insertColumns (hb.cols_row hline) hpos hgap hstop g.isPlain_bceTemplate).of_inner rfl

/-- **DECIC cuts nothing.** -/
theorem WidePaired.insertColumns (count atCol : Nat) : (g.insertColumns count atCol).WidePaired := by
  unfold Grid.insertColumns
  split
  · exact hp
  · next h0 =>
    cases hext : g.columnOpExtent atCol with
    | none => exact hp
    | some ext =>
      obtain ⟨rowStart, rowEnd, colStart, colEnd⟩ := ext
      obtain ⟨hcol, hend, -⟩ := columnOpExtent_le hb.toMarginsOk hext
      have hrows := columnOpExtent_rows hb hext
      dsimp only
      have hpos : 0 < min count (colEnd - atCol) := by omega
      have hgap : atCol + min count (colEnd - atCol) ≤ colEnd := by omega
      generalize min count (colEnd - atCol) = n at hpos hgap ⊢
      have hloop := editsRows_lines (a := rowStart) (b := rowEnd)
        (f := fun r => (r.insertColumns g.cols atCol n colEnd g.bceTemplate).setOcc
          (min ((r.insertColumns g.cols atCol n colEnd g.bceTemplate).occ + n) g.cols))
        (h := fun line x => ((x.rowInsertColumns line atCol n colEnd g.bceTemplate).markCols line atCol
          (colEnd - 1)).editRow line fun r => r.setOcc (min (r.occ + n) g.cols)) fun i x hx => by
        have hrow := (editsRows_rowInsertColumns x i atCol n colEnd g.bceTemplate).markCols i atCol (colEnd - 1)
        rw [hx] at hrow
        exact hrow.editRow fun r => r.setOcc (min (r.occ + n) g.cols)
      refine (hloop.widePaired_onLines_iff hp hrows).mpr fun i hi _ => ?_
      have hline : i < g.rows.length := Nat.lt_of_lt_of_le hi hrows
      exact ((hp.row hline).insertColumns (hb.cols_row hline) hpos hgap hend g.isPlain_bceTemplate).of_inner rfl

/-! ## Deleting -/

/-- **DCH cuts a pair exactly at the right margin.** -/
theorem WidePaired.deleteChars_iff (count : Nat) :
    (g.deleteChars count).WidePaired ↔
      (count ≠ 0 → ∀ stop ∈ g.editBound, (g.row g.cursor.line).ClosesWhole g.cursor.col stop) := by
  unfold Grid.deleteChars
  cases h : g.editBound with
  | none => exact iff_of_true hp fun _ _ hstop => by cases hstop
  | some stop =>
    dsimp only
    by_cases h0 : count = 0
    · rw [if_pos h0]
      exact iff_of_true hp fun hne => absurd h0 hne
    · rw [if_neg h0]
      obtain ⟨hcol, hstop⟩ := editBound_spec h
      have hline := hb.cursor_line
      have hpos : 0 < min count (stop - g.cursor.col) := by omega
      have hgap : g.cursor.col + min count (stop - g.cursor.col) ≤ stop := by omega
      generalize min count (stop - g.cursor.col) = n at hpos hgap ⊢
      have hstrip := editsRows_stripWide g g.cursor.line g.cursor.col
      have hedit := ((hstrip.then_line (editsRows_closeColumns _ g.cursor.line g.cursor.col n stop
        g.bceTemplate)).editRow fun r => if g.bceTemplate.isEmpty then r else r.setOcc g.cols).markCols
          g.cursor.line g.cursor.col (stop - 1)
      have hinner : ∀ r : Row, (if g.bceTemplate.isEmpty = true then r else r.setOcc g.cols).inner = r.inner := by
        intro r
        split <;> rfl
      rw [hedit.widePaired_atLine_iff hp hline, Row.widePaired_congr (hinner _)]
      have hcols := hb.cols_row hline
      have hclose := (hp.row hline).closeColumns_iff hpos hgap hstop g.isPlain_bceTemplate
        ((Row.cols_modify ..).trans ((Row.cols_clearWideAt ..).trans hcols)) fun c hc =>
          Row.halves_stripWide hcols (by omega : g.cursor.col < g.cols) (hp.row hline) hc
      refine hclose.trans ⟨fun hwhole _ stop' hstop' => ?_, fun hwhole => hwhole h0 stop rfl⟩
      obtain rfl := some.inj hstop'
      exact hwhole

/-- **DECDC cuts a pair exactly at the right margin**, in any row of the region. -/
theorem WidePaired.deleteColumns_iff (count atCol : Nat) :
    (g.deleteColumns count atCol).WidePaired ↔
      (count ≠ 0 → ∀ ext ∈ g.columnOpExtent atCol,
        ∀ i < ext.2.1, ext.1 ≤ i → (g.row i).ClosesWhole atCol ext.2.2.2) := by
  unfold Grid.deleteColumns
  by_cases h0 : count = 0
  · rw [if_pos h0]
    exact iff_of_true hp fun hne => absurd h0 hne
  · rw [if_neg h0]
    cases hext : g.columnOpExtent atCol with
    | none => exact iff_of_true hp fun _ _ hnone => by cases hnone
    | some ext =>
      obtain ⟨rowStart, rowEnd, colStart, colEnd⟩ := ext
      obtain ⟨hcol, hend, -⟩ := columnOpExtent_le hb.toMarginsOk hext
      have hrows := columnOpExtent_rows hb hext
      dsimp only
      have hpos : 0 < min count (colEnd - atCol) := by omega
      have hgap : atCol + min count (colEnd - atCol) ≤ colEnd := by omega
      generalize min count (colEnd - atCol) = n at hpos hgap ⊢
      have hinner : ∀ r : Row, (if g.bceTemplate.isEmpty = true then r else r.setOcc g.cols).inner = r.inner := by
        intro r
        split <;> rfl
      have hloop := editsRows_lines (a := rowStart) (b := rowEnd)
        (f := fun r =>
          let r := (r.clearWideAt g.cols atCol).closeColumns atCol n colEnd g.bceTemplate
          if g.bceTemplate.isEmpty then r else r.setOcc g.cols)
        (h := fun line x => ((x.rowDeleteColumns line atCol n colEnd g.bceTemplate).markCols line atCol
          (colEnd - 1)).editRow line fun r => if g.bceTemplate.isEmpty then r else r.setOcc g.cols) fun i x hx => by
        have hrow := ((editsRows_clearWideCharAt x i atCol).then_line
          (editsRows_closeColumns _ i atCol n colEnd g.bceTemplate)).markCols i atCol (colEnd - 1)
        rw [hx] at hrow
        exact hrow.editRow fun r => if g.bceTemplate.isEmpty then r else r.setOcc g.cols
      have hrow : ∀ i < rowEnd, ((let r := ((g.row i).clearWideAt g.cols atCol).closeColumns atCol n colEnd g.bceTemplate
          if g.bceTemplate.isEmpty then r else r.setOcc g.cols).WidePaired ↔ (g.row i).ClosesWhole atCol colEnd) := by
        intro i hi
        have hline : i < g.rows.length := Nat.lt_of_lt_of_le hi hrows
        have hcols := hb.cols_row hline
        exact (Row.widePaired_congr (hinner _)).trans ((hp.row hline).closeColumns_iff hpos hgap hend
          g.isPlain_bceTemplate ((Row.cols_clearWideAt ..).trans hcols) fun c _ =>
            Row.halves_clearWideAt hcols (by omega : atCol < g.cols) (hp.row hline) c)
      rw [hloop.widePaired_onLines_iff hp hrows]
      constructor
      · intro hall _ ext' hext'
        obtain rfl := some.inj hext'
        exact fun i hi hs => (hrow i hi).mp (hall i hi hs)
      · exact fun hall i hi hs => (hrow i hi).mpr (hall h0 _ rfl i hi hs)

end

/-! ## Shifting -/

/-- The margin band lies on the screen. -/
theorem Bounded.marginBand (hb : Bounded g) : g.marginBand.1 ≤ g.marginBand.2 ∧ g.marginBand.2 < g.cols := by
  have hmargins := hb.margins
  unfold Grid.marginBand
  split
  · exact hmargins
  · exact ⟨Nat.zero_le _, by omega⟩

section

variable (hp : g.WidePaired) (hb : Bounded g)
include hp hb

/-- A shift of the band is judged row by row. -/
theorem WidePaired.scrollColumns_iff (count : Nat) {shift : Nat → Nat → Nat → Cell → Row → Row}
    {Q : Nat → Nat → Nat → Row → Prop}
    (hshift : ∀ {r : Row} {left right count : Nat}, r.WidePaired → r.cols = g.cols → 0 < count → left + count ≤ right + 1 → right < g.cols → ((shift left right count g.bceTemplate (r.fixWide g.cols left (right + 1))).WidePaired ↔ Q left right count r)) :
    (g.scrollColumns count shift).WidePaired ↔
      (count ≠ 0 → ∀ i < g.regionEnd, g.regionStart ≤ i →
        Q g.marginBand.1 g.marginBand.2 (min count (g.marginBand.2 + 1 - g.marginBand.1)) (g.row i)) := by
  obtain ⟨hband, hright⟩ := hb.marginBand
  have hrows := hb.region_rows
  unfold scrollColumns
  by_cases h0 : count = 0
  · rw [if_pos h0]
    exact iff_of_true hp fun hne => absurd h0 hne
  · rw [if_neg h0]
    rw [if_neg (by omega)]
    have hpos : 0 < min count (g.marginBand.2 + 1 - g.marginBand.1) := by omega
    have hgap : g.marginBand.1 + min count (g.marginBand.2 + 1 - g.marginBand.1) ≤ g.marginBand.2 + 1 := by omega
    generalize min count (g.marginBand.2 + 1 - g.marginBand.1) = n at hpos hgap ⊢
    have hloop := (editsRows_lines (a := g.regionStart) (b := g.regionEnd)
      (f := fun r => shift g.marginBand.1 g.marginBand.2 n g.bceTemplate
        (r.fixWide g.cols g.marginBand.1 (g.marginBand.2 + 1)))
      (h := fun i x => (x.fixWideBoundaries i g.marginBand.1 (g.marginBand.2 + 1)).editRow i
        (shift g.marginBand.1 g.marginBand.2 n g.bceTemplate)) fun i x hx => by
      have hfix := editsRows_fixWideBoundaries x i g.marginBand.1 (g.marginBand.2 + 1)
      rw [hx] at hfix
      exact hfix.editRow _).markRange g.regionStart g.regionEnd
    have hrow : ∀ i < g.regionEnd, ((shift g.marginBand.1 g.marginBand.2 n g.bceTemplate
        ((g.row i).fixWide g.cols g.marginBand.1 (g.marginBand.2 + 1))).WidePaired ↔
          Q g.marginBand.1 g.marginBand.2 n (g.row i)) := by
      intro i hi
      have hline : i < g.rows.length := Nat.lt_of_lt_of_le hi hrows
      exact hshift (hp.row hline) (hb.cols_row hline) hpos hgap hright
    rw [hloop.widePaired_onLines_iff hp hrows]
    exact ⟨fun hall _ i hi hs => (hrow i hi).mp (hall i hi hs), fun hall i hi hs => (hrow i hi).mpr (hall h0 i hi hs)⟩

/-- **SL and SR cut pairs at the edges of what stays in the band.** -/
theorem WidePaired.scrollLeft_iff (count : Nat) :
    (g.scrollLeft count).WidePaired ↔
      (count ≠ 0 → ∀ i < g.regionEnd, g.regionStart ≤ i → (g.row i).ShiftsLeftWhole g.marginBand.1 g.marginBand.2
        (min count (g.marginBand.2 + 1 - g.marginBand.1))) :=
  hp.scrollColumns_iff hb count fun hr hcols hpos hle hright =>
    hr.shiftLeft_iff hcols hpos hle hright g.isPlain_bceTemplate

theorem WidePaired.scrollRight_iff (count : Nat) :
    (g.scrollRight count).WidePaired ↔
      (count ≠ 0 → ∀ i < g.regionEnd, g.regionStart ≤ i → (g.row i).ShiftsRightWhole g.marginBand.1 g.marginBand.2
        (min count (g.marginBand.2 + 1 - g.marginBand.1))) :=
  hp.scrollColumns_iff hb count fun hr hcols hpos hle hright =>
    hr.shiftRight_iff hcols hpos hle hright g.isPlain_bceTemplate

/-! ## Scrolling -/

/-- What a partial scroll leaves in a row is whole exactly when it takes no cut character from the row it copies. -/
theorem WidePaired.bandFrom_iff {src : Option Nat} {i left right : Nat} (hi : i < g.rows.length)
    (hsrc : ∀ j ∈ src, j < g.rows.length) (hband : left ≤ right) (hright : right < g.cols) :
    (bandFrom g src left (right + 1) g.bceTemplate (g.row i)).WidePaired ↔ ∀ j ∈ src, (g.row j).BandWhole left right := by
  have hlt : left < right + 1 := Nat.lt_succ_of_le hband
  cases src with
  | none =>
    refine iff_of_true ?_ fun j hj => by cases hj
    refine (hp.row hi).overwrite (hb.cols_row hi) hlt
      (fun r c hc => ?_) fun c hs he => ?_
    · rw [Row.get_modifyRange, if_neg fun h => hc h.1]
    · have hcols : ((g.row i).fixWide g.cols left (right + 1)).cols = g.cols :=
        (Row.cols_fixWide ..).trans (hb.cols_row hi)
      rw [Row.get_modifyRange, if_pos ⟨⟨hs, he⟩, by omega⟩]
      exact g.isPlain_bceTemplate
  | some j =>
    have hj := hsrc j rfl
    have hcopy := (hp.row hi).copyRange_iff (hb.cols_row hi) (hp.row hj) (hb.cols_row hj) hlt (by omega)
    refine hcopy.trans ⟨fun hwhole j' hj' => ?_, fun hwhole => hwhole j rfl⟩
    obtain rfl := some.inj hj'
    exact hwhole

variable {rowStart rowEnd : Nat} (hrows : rowEnd ≤ g.rows.length)
include hrows

/-- Rows that take the band from other rows are whole exactly when no character is cut in a row that is copied. -/
theorem WidePaired.bandRows_iff {src : Nat → Option Nat}
    (hedit : EditsRows (fun i r => if rowStart ≤ i ∧ i < rowEnd then bandFrom g (src i) g.leftMargin (g.rightMargin + 1) g.bceTemplate r else r) g g')
    (hsrc : ∀ i < rowEnd, ∀ j ∈ src i, j < g.rows.length) :
    g'.WidePaired ↔
      ∀ i, rowStart ≤ i → i < rowEnd → ∀ j ∈ src i, (g.row j).BandWhole g.leftMargin g.rightMargin := by
  obtain ⟨hband, hright⟩ := hb.margins
  rw [hedit.widePaired_iff hp]
  constructor
  · intro hall i hs he
    have hi : i < g.rows.length := Nat.lt_of_lt_of_le he hrows
    have hrow := hall i _ (getElem?_row hi)
    rw [if_pos ⟨hs, he⟩] at hrow
    exact (hp.bandFrom_iff hb hi (hsrc i he) hband hright).mp hrow
  · intro hall i r hr
    have hi := (List.getElem?_eq_some_iff.mp hr).1
    obtain rfl := row_eq hr
    split
    · next hin => exact (hp.bandFrom_iff hb hi (hsrc i hin.2) hband hright).mpr (hall i hin.1 hin.2)
    · exact hp.rows _ (mem_of_getElem? hr)

/-- **A partial scroll copies cut characters** exactly when the margins cut one in a row that is copied. -/
theorem WidePaired.scrollPartialUp_iff (hlt : rowStart < rowEnd) (count : Nat) :
    (g.scrollPartialUp rowStart rowEnd g.leftMargin (g.rightMargin + 1) count).WidePaired ↔
      (count ≠ 0 → ∀ j < rowEnd, rowStart + min count (rowEnd - rowStart) ≤ j →
        (g.row j).BandWhole g.leftMargin g.rightMargin) := by
  have hband := hb.margins.1
  by_cases h0 : count = 0
  · have hsame : g.scrollPartialUp rowStart rowEnd g.leftMargin (g.rightMargin + 1) count = g := by
      unfold scrollPartialUp
      rw [if_neg (by omega), if_pos (by omega)]
    rw [hsame]
    exact iff_of_true hp fun hne => absurd h0 hne
  · have hedit := editsRows_scrollPartialUp g g.leftMargin (g.rightMargin + 1) count rfl hrows
      (Nat.lt_succ_of_le hband) (by omega : 0 < min count (rowEnd - rowStart))
    generalize min count (rowEnd - rowStart) = c at hedit ⊢
    have hsrc : ∀ i j, j ∈ sourceUp rowEnd c i ↔ i + c < rowEnd ∧ i + c = j := by
      intro i j
      unfold sourceUp
      rw [mem_ite_none_right, mem_some]
    have hbound : ∀ i < rowEnd, ∀ j ∈ sourceUp rowEnd c i, j < g.rows.length := by
      intro i _ j hj
      obtain ⟨he, rfl⟩ := (hsrc i j).mp hj
      exact Nat.lt_of_lt_of_le he hrows
    rw [hp.bandRows_iff hb hrows hedit hbound]
    constructor
    · intro hall _ j he hs
      exact hall (j - c) (by omega) (by omega) j ((hsrc _ j).mpr (by omega))
    · intro hall i hs _ j hj
      obtain ⟨he, rfl⟩ := (hsrc i j).mp hj
      exact hall h0 _ he (by omega)

end

section

variable (hp : g.WidePaired)
include hp

theorem WidePaired.scrollPartialDown_iff (hb : Bounded g) {rowStart rowEnd : Nat} (hrows : rowEnd ≤ g.rows.length)
    (hlt : rowStart < rowEnd) (count : Nat) :
    (g.scrollPartialDown rowStart rowEnd g.leftMargin (g.rightMargin + 1) count).WidePaired ↔
      (count ≠ 0 → ∀ j < rowEnd - min count (rowEnd - rowStart), rowStart ≤ j →
        (g.row j).BandWhole g.leftMargin g.rightMargin) := by
  have hband := hb.margins.1
  by_cases h0 : count = 0
  · have hsame : g.scrollPartialDown rowStart rowEnd g.leftMargin (g.rightMargin + 1) count = g := by
      unfold scrollPartialDown
      rw [if_neg (by omega), if_pos (by omega)]
    rw [hsame]
    exact iff_of_true hp fun hne => absurd h0 hne
  · have hedit := editsRows_scrollPartialDown g g.leftMargin (g.rightMargin + 1) count rfl hrows
      (Nat.lt_succ_of_le hband) (by omega : 0 < min count (rowEnd - rowStart))
    generalize min count (rowEnd - rowStart) = c at hedit ⊢
    have hsrc : ∀ i j, j ∈ sourceDown rowStart c i ↔ rowStart + c ≤ i ∧ i - c = j := by
      intro i j
      unfold sourceDown
      rw [mem_ite_none_right, mem_some]
    have hbound : ∀ i < rowEnd, ∀ j ∈ sourceDown rowStart c i, j < g.rows.length := by
      intro i hi j hj
      obtain ⟨_, rfl⟩ := (hsrc i j).mp hj
      omega
    rw [hp.bandRows_iff hb hrows hedit hbound]
    constructor
    · intro hall _ j he hs
      exact hall (j + c) (by omega) (by omega) j ((hsrc _ j).mpr (by omega))
    · intro hall i _ hi j hj
      obtain ⟨hs, rfl⟩ := (hsrc i j).mp hj
      exact hall h0 _ (by omega) (by omega)

/-- A scroll of whole rows cuts nothing. -/
theorem WidePaired.recycled (hocc : g.PlainPastOcc) {start stop a b k : Nat} :
    ∀ r ∈ mapRange a b (Row.recycle g.cols g.bceTemplate) (rotateRange start stop k g.rows), r.WidePaired := by
  intro r hr
  rcases mem_mapRange hr with hmem | ⟨r₀, hmem, rfl⟩
  · exact hp.rows r ((perm_rotateRange ..).mem_iff.mp hmem)
  · have hplain := hocc.rows r₀ ((perm_rotateRange ..).mem_iff.mp hmem)
    exact Row.paired_of_plain fun c => hplain.recycle g.cols g.isPlain_bceTemplate c

theorem WidePaired.scrollRange (hocc : g.PlainPastOcc) (start stop count : Nat) :
    (g.scrollRangeUp start stop count).WidePaired ∧ (g.scrollRangeDown start stop count).WidePaired :=
  scrollRange_induction (P := WidePaired) start stop count hp fun _ _ _ _ _ => ⟨hp.recycled hocc, hp.history⟩

variable (hb : Bounded g) (hocc : g.PlainPastOcc) (count : Nat)
include hb hocc

/-- **IL**: with margins it copies, without them it only moves and clears rows. -/
theorem WidePaired.insertLines_iff : (g.insertLines count).WidePaired ↔
      (g.cursorInRegion = true → g.hasHorizontalMargins = true → count ≠ 0 →
        ∀ j < g.regionEnd - min count (g.regionEnd - g.cursor.line), g.cursor.line ≤ j →
          (g.row j).BandWhole g.leftMargin g.rightMargin) := by
  unfold Grid.insertLines
  by_cases hin : g.cursorInRegion = true
  · rw [if_neg (by simp [hin])]
    by_cases hm : g.hasHorizontalMargins = true
    · have hlt : g.cursor.line < g.regionEnd := by
        unfold cursorInRegion at hin
        simp only [Bool.and_eq_true, decide_eq_true_eq] at hin
        exact hin.2
      rw [if_pos hm, hp.scrollPartialDown_iff hb hb.region_rows hlt]
      exact ⟨fun h _ _ => h, fun h => h hin hm⟩
    · rw [if_neg hm]
      exact iff_of_true (hp.scrollRange hocc ..).2 fun _ h => absurd h hm
  · rw [if_pos (by simp [hin])]
    exact iff_of_true hp fun h => absurd h hin

/-- **DL**: the same from below. -/
theorem WidePaired.deleteLines_iff : (g.deleteLines count).WidePaired ↔
      (g.cursorInRegion = true → g.hasHorizontalMargins = true → count ≠ 0 →
        ∀ j < g.regionEnd, g.cursor.line + min count (g.regionEnd - g.cursor.line) ≤ j →
          (g.row j).BandWhole g.leftMargin g.rightMargin) := by
  unfold Grid.deleteLines
  by_cases hin : g.cursorInRegion = true
  · rw [if_neg (by simp [hin])]
    by_cases hm : g.hasHorizontalMargins = true
    · have hlt : g.cursor.line < g.regionEnd := by
        unfold cursorInRegion at hin
        simp only [Bool.and_eq_true, decide_eq_true_eq] at hin
        exact hin.2
      rw [if_pos hm, hp.scrollPartialUp_iff hb hb.region_rows hlt]
      exact ⟨fun h _ _ => h, fun h => h hin hm⟩
    · rw [if_neg hm]
      exact iff_of_true (hp.scrollRange hocc ..).1 fun _ h => absurd h hm
  · rw [if_pos (by simp [hin])]
    exact iff_of_true hp fun h => absurd h hin

end

/-! ## One line up -/

/-- The rows after a scroll by one. -/
theorem getElem?_scrollRangeUp_one {start stop : Nat} (hlt : start < stop) (hstop : stop ≤ g.rows.length) (i : Nat) :
    (g.scrollRangeUp start stop 1).rows[i]? =
      if start ≤ i ∧ i + 1 < stop then g.rows[i + 1]?
      else if i + 1 = stop then some ((g.row start).recycle g.cols g.bceTemplate) else g.rows[i]? := by
  have hmin : min 1 (stop - start) = 1 := by omega
  unfold scrollRangeUp
  rw [if_neg (by omega), hmin]
  show (mapRange _ _ _ _)[i]? = _
  rw [getElem?_mapRange, getElem?_rotateRange_one g.rows hlt hstop]
  by_cases hin : start ≤ i ∧ i + 1 < stop
  · have hout : ¬ (stop - 1 ≤ i ∧ i < stop) := by omega
    simp only [if_pos hin, if_neg hout, Option.map_id']
  · rw [if_neg hin, if_neg hin]
    by_cases hlast : i + 1 = stop
    · have hin' : stop - 1 ≤ i ∧ i < stop := by omega
      rw [if_pos hlast, if_pos hlast, getElem?_row (by omega : start < g.rows.length)]
      simp only [if_pos hin', Option.map_some]
    · have hout : ¬ (stop - 1 ≤ i ∧ i < stop) := by omega
      rw [if_neg hlast, if_neg hlast]
      simp only [if_neg hout, Option.map_id']

/-- What a push adds to the scrollback. -/
theorem forall_push {sb : ScrollbackBuffer} {row : Row} {P : Row → Prop} (h : ∀ r ∈ sb.rows, P r) :
    (∀ r ∈ (sb.push row).1.rows, P r) ↔ (sb.maxScrollback ≠ 0 → P row) := by
  rw [(sb.rows_push row).1]
  by_cases h0 : sb.maxScrollback = 0
  · rw [if_neg (by omega), if_pos h0]
    exact iff_of_true (fun r hr => by cases hr) fun hne => absurd h0 hne
  · constructor
    · intro hall _
      refine hall row ?_
      split <;> exact mem_append_right _ (mem_singleton_self _)
    · intro hrow r hr
      have hmem : r ∈ sb.rows ∨ r = row := by
        split at hr
        · exact (mem_append.mp hr).imp id mem_singleton.mp
        · exact (mem_append.mp hr).imp mem_of_mem_tail mem_singleton.mp
      rcases hmem with hold | rfl
      · exact h r hold
      · exact hrow h0

/-- What a scroll of the region by one line leaves: a clear row at the bottom, and the top row in the scrollback when the
    region is the screen. -/
structure ScrolledOne (g g' : Grid) (fresh : Row) : Prop where
  plain : ∀ c, (fresh.get c).IsPlain
  rows : ∀ i, g'.rows[i]? =
    if g.regionStart ≤ i ∧ i + 1 < g.regionEnd then g.rows[i + 1]?
    else if i + 1 = g.regionEnd then some fresh else g.rows[i]?
  scrollback : g'.scrollback = if g.isFullScreen then (g.freshScrollback.push (g.row 0)).1 else g.scrollback

theorem PlainPastOcc.row (h : g.PlainPastOcc) (i : Nat) : (g.row i).PlainPastOcc := by
  unfold Grid.row
  rw [getD_eq_getElem?_getD]
  cases hr : g.rows[i]? with
  | none => exact Row.plainPastOcc_new 0
  | some r => exact h.rows r (mem_of_getElem? hr)

/-- The placeholder of an evicted row is clear or empty. -/
theorem PlainPastOcc.evictRow (h : g.PlainPastOcc) (i : Nat) :
    ∃ ph : Row, ph.PlainPastOcc ∧ (Grid.evictRow i g).rows = g.rows.set i ph ∧
      (Grid.evictRow i g).scrollback = (g.scrollback.push (g.row i)).1 ∧ (Grid.evictRow i g).cols = g.cols ∧
      (Grid.evictRow i g).cursor = g.cursor := by
  unfold Grid.evictRow
  dsimp only
  split
  · next recycled hout =>
    have hold : recycled.PlainPastOcc := by
      rcases mem_evicted hout with hmem | rfl
      · exact h.history recycled hmem
      · exact h.row i
    exact ⟨_, Row.plainPastOcc_of_plain fun c => hold.get_reset g.cols Cell.isPlain_blank c, rfl, rfl, rfl, rfl⟩
  · exact ⟨_, Row.plainPastOcc_new 0, rfl, rfl, rfl, rfl⟩

theorem scrolledOne_scrollUp (hb : Bounded g) (hocc : g.PlainPastOcc) : ∃ fresh, ScrolledOne g (g.scrollUp 1) fresh := by
  have hregion := hb.region
  have hrows := hb.region_rows
  unfold scrollUp
  dsimp only
  have hmin : min 1 (g.regionEnd - g.regionStart) = 1 := by omega
  rw [if_neg (by omega), hmin]
  by_cases hfull : g.isFullScreen = true
  · have hwhole : g.regionStart = 0 ∧ g.regionEnd = g.lines := by simpa [isFullScreen] using hfull
    rw [if_pos hfull]
    obtain ⟨offset, hview, -⟩ := holdView_eq g.dropStale 1
    have hocc₁ : PlainPastOcc { g.dropStale with displayOffset := offset } :=
      ⟨hocc.rows, fun r hr => hocc.history r (mem_freshScrollback hr)⟩
    obtain ⟨ph, hph, hset, hpush, hcols, hcursor⟩ := hocc₁.evictRow 0
    have hloop : forRange 0 1 Grid.evictRow (g.dropStale.holdView 1)
        = Grid.evictRow 0 { g.dropStale with displayOffset := offset } := by
      rw [hview]
      rfl
    rw [hloop]
    generalize Grid.evictRow 0 { g.dropStale with displayOffset := offset } = x at hset hpush hcols hcursor ⊢
    have hset : x.rows = g.rows.set 0 ph := hset
    have hstop : g.regionEnd ≤ x.rows.length := by rw [hset, length_set]; exact hrows
    have hrow : x.row g.regionStart = ph := by
      refine row_eq ?_
      rw [hset, hwhole.1, getElem?_set_self (by omega)]
    refine ⟨(x.row g.regionStart).recycle x.cols x.bceTemplate, ?_, fun i => ?_, ?_⟩
    · rw [hrow]
      exact fun c => hph.recycle x.cols x.isPlain_bceTemplate c
    · rw [getElem?_scrollRangeUp_one hregion.1 hstop, hset]
      by_cases hin : g.regionStart ≤ i ∧ i + 1 < g.regionEnd
      · rw [if_pos hin, if_pos hin, getElem?_set_ne (by omega)]
      · rw [if_neg hin, if_neg hin]
        by_cases hlast : i + 1 = g.regionEnd
        · rw [if_pos hlast, if_pos hlast]
        · rw [if_neg hlast, if_neg hlast, getElem?_set_ne (by omega)]
    · have hkept := (rolls_scrollRange x g.regionStart g.regionEnd 1).1.toHistoryKept.scrollback
      rw [hkept, hpush, if_pos hfull]
      rfl
  · rw [if_neg hfull]
    refine ⟨(g.row g.regionStart).recycle g.cols g.bceTemplate, ?_, fun i => ?_, ?_⟩
    · exact fun c => (hocc.row g.regionStart).recycle g.cols g.isPlain_bceTemplate c
    · exact getElem?_scrollRangeUp_one hregion.1 hrows i
    · have hkept := (rolls_scrollRange g g.regionStart g.regionEnd 1).1.toHistoryKept.scrollback
      rw [hkept, if_neg hfull]

/-! ## Wrapping -/

/-- The row after the write at the cursor. -/
def writtenRow (g : Grid) (width : Nat) (ch : Char) (r : Row) : Row :=
  if width = 2 then r.writeWide g.cols g.cursor.col g.cursor.template ch
  else r.writeNarrow g.cols g.cursor.col g.cursor.template ch

/-- A write leaves whole characters when the rows beside it and the row it leaves do. -/
theorem writeChar_widePaired_iff (g : Grid) (hline : g.cursor.line < g.rows.length) (width : Nat) (ch : Char) :
    (g.writeChar width ch).WidePaired ↔
      (∀ r ∈ g.scrollback.rows, r.WidePaired) ∧
      (∀ i r, g.rows[i]? = some r → i ≠ g.cursor.line → r.WidePaired) ∧
      (g.writtenRow width ch (g.row g.cursor.line)).WidePaired := by
  have hedit := editsRows_writeChar g width ch
  have hrows := hedit.forall_rows Row.WidePaired
  have hwritten : ∀ r : Row, (if width = 2 then Row.writeWide g.cols g.cursor.col g.cursor.template ch
      else Row.writeNarrow g.cols g.cursor.col g.cursor.template ch) r = g.writtenRow width ch r := by
    intro r
    unfold writtenRow
    split <;> rfl
  unfold atLine at hrows
  constructor
  · intro hp
    refine ⟨fun r hr => hp.history r (hedit.scrollback ▸ hr), fun i r hr hi => ?_, ?_⟩
    · have hrow := hrows.mp hp.rows i r hr
      rwa [if_neg hi] at hrow
    · have hrow := hrows.mp hp.rows _ _ (getElem?_row hline)
      rwa [if_pos rfl, hwritten] at hrow
  · rintro ⟨hhistory, hothers, hcursor⟩
    refine ⟨hrows.mpr fun i r hr => ?_, fun r hr => hhistory r (hedit.scrollback ▸ hr)⟩
    split
    · next hi =>
      rw [hi] at hr
      rw [hwritten, ← row_eq hr]
      exact hcursor
    · next hi => exact hothers i r hr hi

/-- The character fits at the cursor. -/
def Fits (g : Grid) (width : Nat) : Prop := g.cursor.col < g.cols ∧ (width = 2 → g.cursor.col + 1 < g.cols)

variable {width : Nat}

/-- Where nothing wraps the character fits. -/
theorem fits_of_wrapWrite (h : g.wrapWrite width = none) (hm : g.rightMargin < g.cols) : g.Fits width := by
  have hedge := rightEdge_le hm
  unfold wrapWrite at h
  split at h
  · cases h
  · split at h
    · cases h
    · exact ⟨by omega, fun hw => by omega⟩

/-- What a character that fits cuts is cleaned up. -/
theorem Fits.widePaired (hfits : g.Fits width) {r : Row} (hp : r.WidePaired) (hr : r.cols = g.cols)
    (hpen : g.cursor.template.IsPlain) (ch : Char) : (g.writtenRow width ch r).WidePaired := by
  unfold writtenRow
  split
  · next hw => exact hp.writeWide hr (hfits.2 hw) hpen ch
  · exact hp.writeNarrow hr hfits.1 hpen ch

/-- After a scroll, the row that the cursor was on is the one in front of its line, or it was the top of the region. -/
theorem ScrolledOne.others_iff {x : Grid} {fresh : Row} (hscroll : ScrolledOne g x fresh) (hb : Bounded g)
    (hothers : ∀ i r, g.rows[i]? = some r → i ≠ g.cursor.line → r.WidePaired)
    (hend : g.cursor.line + 1 = g.regionEnd) :
    (∀ i r, x.rows[i]? = some r → i ≠ g.cursor.line → r.WidePaired) ↔
      (g.regionStart < g.cursor.line → (g.row g.cursor.line).WidePaired) := by
  have hself := getElem?_row hb.cursor_line
  constructor
  · intro hall hlt
    have hpos : g.cursor.line - 1 + 1 = g.cursor.line := by omega
    have hrow := hscroll.rows (g.cursor.line - 1)
    rw [if_pos (by omega), hpos, hself] at hrow
    exact hall _ _ hrow (by omega)
  · intro hrow i r hr hi
    rw [hscroll.rows] at hr
    split at hr
    · next hin =>
      by_cases hup : i + 1 = g.cursor.line
      · rw [hup, hself] at hr
        exact some.inj hr ▸ hrow (by omega)
      · exact hothers _ _ hr hup
    · split at hr
      · omega
      · exact hothers _ _ hr hi

/-- The top row goes to the history, where there is one. -/
theorem ScrolledOne.history_iff {x : Grid} {fresh : Row} (hscroll : ScrolledOne g x fresh)
    (hhistory : ∀ r ∈ g.scrollback.rows, r.WidePaired) :
    (∀ r ∈ x.scrollback.rows, r.WidePaired) ↔
      (g.isFullScreen = true → g.scrollback.maxScrollback ≠ 0 → (g.row 0).WidePaired) := by
  rw [hscroll.scrollback]
  by_cases hfull : g.isFullScreen = true
  · rw [if_pos hfull]
    have hmax : g.freshScrollback.maxScrollback = g.scrollback.maxScrollback :=
      ScrollbackBuffer.maxScrollback_popMany ..
    rw [forall_push fun r hr => hhistory r (mem_freshScrollback hr), hmax]
    exact ⟨fun h _ => h, fun h => h hfull⟩
  · rw [if_neg hfull]
    exact iff_of_true hhistory fun h => absurd h hfull

/-- **A line feed and a write** when only the row of the cursor may hold a half: that row stays, moves up or is dropped,
    or is the row that is written. -/
theorem linefeed_writeChar_iff (hb : Bounded g) (hocc : g.PlainPastOcc) (hpen : g.cursor.template.IsPlain)
    (hhistory : ∀ r ∈ g.scrollback.rows, r.WidePaired)
    (hothers : ∀ i r, g.rows[i]? = some r → i ≠ g.cursor.line → r.WidePaired) {col : Nat} (ch : Char)
    (hfits : (g.setCol col).Fits width) :
    ((g.linefeed.setCol col).writeChar width ch).WidePaired ↔
      if g.cursor.line + 1 = g.regionEnd then
        (g.row g.cursor.line).WidePaired ∨
          (g.regionStart = g.cursor.line ∧ (g.isFullScreen = false ∨ g.scrollback.maxScrollback = 0))
      else if g.cursor.line + 1 < g.lines then (g.row g.cursor.line).WidePaired
      else ((g.setCol col).writtenRow width ch (g.row g.cursor.line)).WidePaired := by
  have hregion := hb.region
  have hself := getElem?_row hb.cursor_line
  unfold linefeed
  by_cases hend : g.cursor.line + 1 = g.regionEnd
  · rw [if_pos hend, if_pos hend]
    obtain ⟨fresh, hscroll⟩ := scrolledOne_scrollUp hb hocc
    have hsame := (paints_scrollUp g 1).sameCursor
    have hscrolled := (hb.placed.scrollUp 1).bounded
    have hxcols : (g.scrollUp 1).cols = g.cols := (scrolls_scrollUp (S := nothing) 1 hb.toFramed).cols
    generalize g.scrollUp 1 = x at hscroll hsame hscrolled hxcols ⊢
    have hline : x.cursor.line = g.cursor.line := congrArg Cursor.line hsame.cursor
    have hpen' : x.cursor.template.IsPlain := by
      rw [hsame.cursor]
      exact hpen
    have hlineLt : (x.setCol col).cursor.line < (x.setCol col).rows.length := hscrolled.cursor_line
    -- the line that is written next is clear
    have hnext : x.rows[g.cursor.line]? = some fresh := by
      rw [hscroll.rows, if_neg (by omega), if_pos hend]
    have hwritten : ((x.setCol col).writtenRow width ch ((x.setCol col).row (x.setCol col).cursor.line)).WidePaired := by
      have hrow : (x.setCol col).row (x.setCol col).cursor.line = fresh := row_eq (hline ▸ hnext)
      have hcols := hscrolled.cols_row hscrolled.cursor_line
      have hfresh : x.row x.cursor.line = fresh := row_eq (hline ▸ hnext)
      rw [hfresh] at hcols
      rw [hrow]
      have hfits' : (x.setCol col).Fits width := by
        have hcols' : (x.setCol col).cols = (g.setCol col).cols := hxcols
        unfold Fits
        rw [hcols']
        exact hfits
      exact hfits'.widePaired (Row.paired_of_plain hscroll.plain) hcols hpen' ch
    have hmoved := hscroll.others_iff hb hothers hend
    have hpushed := hscroll.history_iff hhistory
    have htop : g.isFullScreen = true → g.regionStart = 0 := by
      intro hfull
      have hwhole : g.regionStart = 0 ∧ g.regionEnd = g.lines := by simpa [isFullScreen] using hfull
      exact hwhole.1
    have hzero : g.cursor.line ≠ 0 → (g.row 0).WidePaired := by
      intro hne
      exact hothers 0 _ (getElem?_row (by have := hb.cursor_line; omega)) (Ne.symm hne)
    rw [writeChar_widePaired_iff _ hlineLt]
    have hline' : (x.setCol col).cursor.line = g.cursor.line := hline
    have hrows' : (x.setCol col).rows = x.rows := rfl
    have hscrollback' : (x.setCol col).scrollback = x.scrollback := rfl
    rw [hrows', hscrollback', hline', hmoved, hpushed]
    rw [hline'] at hwritten
    constructor
    · rintro ⟨hhist, hrow, -⟩
      by_cases htopLine : g.regionStart = g.cursor.line
      · by_cases hfull : g.isFullScreen = true
        · by_cases hmax : g.scrollback.maxScrollback = 0
          · exact .inr ⟨htopLine, .inr hmax⟩
          · have hzeroLine : g.cursor.line = 0 := htopLine.symm.trans (htop hfull)
            rw [hzeroLine]
            exact .inl (hhist hfull hmax)
        · exact .inr ⟨htopLine, .inl (Bool.eq_false_iff.mpr hfull)⟩
      · exact .inl (hrow (by omega))
    · intro hor
      refine ⟨fun hfull hmax => ?_, fun hlt => ?_, hwritten⟩
      · by_cases hne : g.cursor.line = 0
        · rcases hor with hrow | ⟨-, hdrop⟩
          · exact hne ▸ hrow
          · rcases hdrop with hpart | hnone
            · rw [hfull] at hpart
              cases hpart
            · exact absurd hnone hmax
        · exact hzero hne
      · rcases hor with hrow | ⟨htopLine, -⟩
        · exact hrow
        · omega
  · rw [if_neg hend, if_neg hend]
    by_cases hnext : g.cursor.line + 1 < g.lines
    · rw [if_pos hnext, if_pos hnext]
      have hnextLine : g.cursor.line + 1 < g.rows.length := by rw [hb.rows]; exact hnext
      rw [writeChar_widePaired_iff _ hnextLine]
      constructor
      · rintro ⟨-, hrows, -⟩
        exact hrows _ _ hself (Nat.succ_ne_self g.cursor.line).symm
      · intro hrow
        refine ⟨hhistory, fun i r hr _ => ?_, ?_⟩
        · by_cases hi : i = g.cursor.line
          · have hr : g.rows[i]? = some r := hr
            rw [hi, hself] at hr
            exact some.inj hr ▸ hrow
          · exact hothers i r hr hi
        · have hr := getElem?_row hnextLine
          have hfits' : ((g.moveCursorLine (g.cursor.line + 1)).setCol col).Fits width := hfits
          refine hfits'.widePaired ?_ ?_ hpen ch
          · exact hothers _ _ hr (Nat.succ_ne_self _)
          · exact hb.cols_row hnextLine
    · rw [if_neg hnext, if_neg hnext]
      have hlineLt : (g.setCol col).cursor.line < (g.setCol col).rows.length := hb.cursor_line
      rw [writeChar_widePaired_iff _ hlineLt]
      exact ⟨fun h => h.2.2, fun h => ⟨hhistory, hothers, h⟩⟩

/-- The same after one cell of the line was written. -/
theorem WidePaired.wrap_iff (hp : g.WidePaired) (hb : Bounded g) (hocc : g.PlainPastOcc)
    (hpen : g.cursor.template.IsPlain) {col start : Nat} {f : Cell → Cell} (ch : Char)
    (hfits : (g.setCol start).Fits width) :
    (((g.editCell g.cursor.line col f).linefeed.setCol start).writeChar width ch).WidePaired ↔
      if g.cursor.line + 1 = g.regionEnd then
        ((g.row g.cursor.line).modify col f).WidePaired ∨
          (g.regionStart = g.cursor.line ∧ (g.isFullScreen = false ∨ g.scrollback.maxScrollback = 0))
      else if g.cursor.line + 1 < g.lines then ((g.row g.cursor.line).modify col f).WidePaired
      else ((g.setCol start).writtenRow width ch ((g.row g.cursor.line).modify col f)).WidePaired := by
  have hedits := edits_editCell g g.cursor.line col f
  have hrows := editsRows_editRow g g.cursor.line (Row.modify · col f)
  have hedited : Bounded (g.editCell g.cursor.line col f) :=
    (hb.placed.scrolls (hedits.scrolls hb.toFramed) hb.cursor hb.saved fun _ => hb.view).bounded
  have hocc' : (g.editCell g.cursor.line col f).PlainPastOcc := by
    refine ⟨(hrows.forall_rows Row.PlainPastOcc).mpr fun i r hr => ?_, hocc.history⟩
    have hrow := hocc.rows r (mem_of_getElem? hr)
    unfold atLine
    split
    · exact hrow.raises (Row.raises_modify r col f)
    · exact hrow
  have hothers : ∀ i r, (g.editCell g.cursor.line col f).rows[i]? = some r → i ≠ g.cursor.line → r.WidePaired := by
    intro i r hr hi
    have hrow : (g.editCell g.cursor.line col f).rows[i]? = _ := hrows.rows i
    rw [hr] at hrow
    obtain ⟨r₀, hr₀, heq⟩ := map_eq_some_iff.mp hrow.symm
    unfold atLine at heq
    rw [if_neg hi] at heq
    exact heq ▸ hp.rows r₀ (mem_of_getElem? hr₀)
  have hself : (g.editCell g.cursor.line col f).row g.cursor.line = (g.row g.cursor.line).modify col f := by
    refine row_eq ?_
    have hrow := hrows.row (getElem?_row hb.cursor_line)
    unfold atLine at hrow
    rw [if_pos rfl] at hrow
    exact hrow
  have hiff := linefeed_writeChar_iff hedited hocc' hpen hp.history hothers ch hfits
  have hline : (g.editCell g.cursor.line col f).cursor.line = g.cursor.line := rfl
  rw [hline, hself] at hiff
  exact hiff

/-- A wide character does not fit at the end of the line, and its place is padded. -/
def Pads (g : Grid) (width : Nat) : Prop := width = 2 ∧ width ≤ g.cols ∧ g.cursor.col + 1 = g.rightEdge

/-- **The padding leaves no half behind**: there is none under it, or its row is dropped by the scroll that follows, or
    the wide character is written over the half in front of it because there is no other line to wrap to. -/
def PadsWhole (g : Grid) : Prop :=
  (g.cell g.cursor.line g.cursor.col).IsPlain ∨
  (g.cursor.line + 1 = g.regionEnd ∧ g.regionStart = g.cursor.line ∧
    (g.isFullScreen = false ∨ g.scrollback.maxScrollback = 0)) ∨
  (g.cursor.line + 1 ≠ g.regionEnd ∧ g.cursor.line + 1 = g.lines ∧
    (g.cell g.cursor.line g.cursor.col).has CellFlags.wideChar = false ∧
    (g.cursor.col = g.wrapCol + 1 ∨ g.cursor.col = g.wrapCol + 2))

/-- The band a wrap returns to is at least two columns wide. -/
theorem wrapCol_lt (hm : MarginsOk g) (hcols : 2 ≤ g.cols) (hedge : g.cursor.col + 1 = g.rightEdge) :
    g.wrapCol < g.cursor.col ∧ g.cursor.col < g.cols := by
  obtain ⟨hright, hleft⟩ := hm
  unfold rightEdge wrapCol at *
  split at hedge
  · next hin =>
    rw [if_pos hin]
    omega
  · next hin =>
    rw [if_neg hin]
    omega

instance (g : Grid) (width : Nat) : Decidable (g.Pads width) := by
  unfold Pads
  infer_instance

instance (g : Grid) : Decidable g.PadsWhole := by
  unfold PadsWhole Cell.IsPlain
  infer_instance

/-- The write of a wrap: the wrap flag, which is no half, or the padding. -/
theorem wrapWrite_cases (h : g.wrapWrite width = some g') :
    (¬ g.Pads width ∧ ∃ col, g' = g.editCell g.cursor.line col (Cell.insertFlags CellFlags.wrap)) ∨
    (g.rightEdge ≤ g.cols → width ≤ g.cols → g.Pads width) ∧ g.cursor.col < g.rightEdge ∧
      g' = g.editCell g.cursor.line g.cursor.col Cell.padWide := by
  unfold wrapWrite at h
  split at h
  · next hcol => exact .inl ⟨fun hpads => by unfold Pads at hpads; omega, _, (some.inj h).symm⟩
  · split at h
    · next hcol hwide =>
      exact .inr ⟨fun _ hw => ⟨hwide.1, hw, by omega⟩, by omega, (some.inj h).symm⟩
    · cases h

/-- After the wrap the character fits in the line the cursor is on. -/
theorem Bounded.fits_wrapCol (hb : Bounded g) (h : g.wrapWrite width = some g') (hw : width ≤ g.cols) :
    (g.setCol g.wrapCol).Fits width := by
  have hsettled := wrapWrite_wrapStep hb.toFramed hb.toMarginsOk hw h
  have hfits := fits_of_wrapWrite hsettled ((hb.placed (V := False)).wrapStep h).right
  obtain ⟨col, f, rfl⟩ := wrapWrite_eq h
  have hedit := (edits_editCell g g.cursor.line col f).framed hb.toFramed
  have hcols : (g.wrapStep (g.editCell g.cursor.line col f)).cols = g.cols :=
    (scrolls_linefeed (S := nothing) hedit).cols
  unfold Fits at hfits ⊢
  rw [hcols] at hfits
  exact hfits

/-- **Printing** cuts a pair only where the padding does. -/
theorem WidePaired.putChar_iff (hp : g.WidePaired) (hb : Bounded g) (hocc : g.PlainPastOcc)
    (hpen : g.cursor.template.IsPlain) (width : Nat) (ch : Char) :
    (g.putChar width ch).WidePaired ↔ (g.Pads width → g.PadsWhole) := by
  have hline := hb.cursor_line
  have hrow := hp.row hline
  have hcols := hb.cols_row hline
  have hedge := rightEdge_le hb.right
  unfold Grid.putChar putCharSlow
  by_cases hwide : width > g.cols
  · rw [if_pos hwide]
    exact iff_of_true hp fun hpads => by unfold Pads at hpads; omega
  · rw [if_neg hwide]
    have hw : width ≤ g.cols := Nat.le_of_not_lt hwide
    rw [putCharLoop_settles ch hb.toFramed hb.toMarginsOk hw (Nat.le_refl _)]
    cases h : g.wrapWrite width with
    | none =>
      refine iff_of_true ?_ fun hpads => ?_
      · rw [writeChar_widePaired_iff g hline]
        exact ⟨hp.history, fun i r hr _ => hp.rows r (mem_of_getElem? hr),
          (fits_of_wrapWrite h hb.right).widePaired hrow hcols hpen ch⟩
      · unfold wrapWrite at h
        unfold Pads at hpads
        rw [if_neg (by omega), if_pos ⟨hpads.1, by omega⟩] at h
        cases h
    | some x =>
      have hfits := hb.fits_wrapCol h hw
      rcases wrapWrite_cases h with ⟨hnot, col, rfl⟩ | ⟨hpads, hcol, rfl⟩
      · -- the wrap flag is no half
        have hflagged : ((g.row g.cursor.line).modify col (Cell.insertFlags CellFlags.wrap)).WidePaired :=
          hrow.insertFlags col (by decide)
        refine iff_of_true ((hp.wrap_iff hb hocc hpen ch hfits).mpr ?_) fun hpads => absurd hpads hnot
        split
        · exact .inl hflagged
        · split
          · exact hflagged
          · exact hfits.widePaired hflagged ((Row.cols_modify ..).trans hcols) hpen ch
      · have hpads := hpads hedge hw
        have hpadded := hrow.modify_iff (hcols.symm ▸ Nat.lt_of_lt_of_le hcol hedge)
          (Cell.isPlain_padWide ((g.row g.cursor.line).get g.cursor.col))
        have hbound := hb.cursor.1
        refine (hp.wrap_iff hb hocc hpen ch hfits).trans ?_
        rw [hpadded]
        by_cases hend : g.cursor.line + 1 = g.regionEnd
        · rw [if_pos hend]
          constructor
          · exact fun h _ => h.imp id fun htop => .inl ⟨hend, htop⟩
          · intro h
            rcases h hpads with hplain | ⟨-, htop⟩ | ⟨hne, -⟩
            · exact .inl hplain
            · exact .inr htop
            · exact absurd hend hne
        · rw [if_neg hend]
          by_cases hnext : g.cursor.line + 1 < g.lines
          · rw [if_pos hnext]
            constructor
            · exact fun h _ => .inl h
            · intro h
              rcases h hpads with hplain | ⟨heq, -⟩ | ⟨-, hlast, -⟩
              · exact hplain
              · exact absurd heq hend
              · omega
          · rw [if_neg hnext]
            obtain ⟨rfl, hcols₂, hedgeEq⟩ := hpads
            obtain ⟨hstart, hcolLt⟩ := wrapCol_lt hb.toMarginsOk hcols₂ hedgeEq
            have hpadCols : ((g.row g.cursor.line).modify g.cursor.col Cell.padWide).cols = g.cols :=
              (Row.cols_modify ..).trans hcols
            by_cases hplain : ((g.row g.cursor.line).get g.cursor.col).IsPlain
            · exact iff_of_true (hfits.widePaired (hpadded.mpr hplain) hpadCols hpen ch) fun _ => .inl hplain
            · have hwritten := hrow.writeWide_padded_iff hcols hstart hcolLt hplain hpen ch
              have hsame : (g.setCol g.wrapCol).writtenRow 2 ch ((g.row g.cursor.line).modify g.cursor.col Cell.padWide) =
                  ((g.row g.cursor.line).modify g.cursor.col Cell.padWide).writeWide g.cols g.wrapCol
                    g.cursor.template ch := rfl
              rw [hsame, hwritten]
              constructor
              · exact fun h _ => .inr (.inr ⟨hend, by omega, h⟩)
              · intro h
                rcases h ⟨rfl, hcols₂, hedgeEq⟩ with hplain' | ⟨heq, -⟩ | ⟨-, -, hnear⟩
                · exact absurd hplain' hplain
                · exact absurd heq hend
                · exact hnear

/-- The row ICH leaves has no half at the cursor. -/
theorem isPlain_insertBlank (hb : Bounded g) (count : Nat) (h : g.editBound.isSome = true) (h0 : count ≠ 0) :
    ((g.insertBlank count).cell g.cursor.line g.cursor.col).IsPlain := by
  obtain ⟨stop, hstop⟩ := isSome_iff_exists.mp h
  obtain ⟨hcol, hle⟩ := editBound_spec hstop
  have hline := hb.cursor_line
  have hpos : 0 < min count (stop - g.cursor.col) := by omega
  have hgap : g.cursor.col + min count (stop - g.cursor.col) ≤ stop := by omega
  have hrow := (editsRows_insertBlank hstop h0).row (getElem?_row hline)
  unfold atLine at hrow
  rw [if_pos rfl] at hrow
  unfold cell
  rw [row_eq hrow]
  exact Row.isPlain_insertColumns (hb.cols_row hline) hpos hgap hle g.isPlain_bceTemplate

theorem PlainPastOcc.insertBlank (hocc : g.PlainPastOcc) (hb : Bounded g) (count : Nat) :
    (g.insertBlank count).PlainPastOcc := by
  cases h : g.editBound with
  | none =>
    unfold Grid.insertBlank
    rw [h]
    exact hocc
  | some stop =>
    by_cases h0 : count = 0
    · unfold Grid.insertBlank
      rw [h]
      dsimp only
      rw [if_pos h0]
      exact hocc
    · obtain ⟨hcol, hstop⟩ := editBound_spec h
      have hedit := editsRows_insertBlank h h0
      refine ⟨(hedit.forall_rows Row.PlainPastOcc).mpr fun i r hr => ?_, fun r hr => hocc.history r (hedit.scrollback ▸ hr)⟩
      have hrow := hocc.rows r (mem_of_getElem? hr)
      unfold atLine
      split
      · exact hrow.insertColumns (hb.width r (mem_of_getElem? hr)) (by omega) (by omega) hstop g.isPlain_bceTemplate
      · exact hrow

end Grid

/-! ## All operations -/

/-- Printing at the cursor, and the edits that move cells around it. `putChar` is the slow path, which makes room first
    under IRM. -/
inductive PrintOp where
  | putCharAscii (ch : Char)
  | putChar (insertMode : Bool) (width : Nat) (ch : Char)
  | insertBlank (count : Nat)
  | deleteChars (count : Nat)
  | insertColumns (count atCol : Nat)
  | deleteColumns (count atCol : Nat)
  | scrollLeft (count : Nat)
  | scrollRight (count : Nat)
  | insertLines (count : Nat)
  | deleteLines (count : Nat)

namespace PrintOp

def apply (g : Grid) : PrintOp → Grid
  | putCharAscii ch => (g.putCharAscii ch).getD g
  | putChar insertMode width ch => (if insertMode then g.insertBlank width else g).putChar width ch
  | insertBlank count => g.insertBlank count
  | deleteChars count => g.deleteChars count
  | insertColumns count atCol => g.insertColumns count atCol
  | deleteColumns count atCol => g.deleteColumns count atCol
  | scrollLeft count => g.scrollLeft count
  | scrollRight count => g.scrollRight count
  | insertLines count => g.insertLines count
  | deleteLines count => g.deleteLines count

/-- **The operation meets no wide character at an edge it does not clean up.** -/
def KeepsPairs (g : Grid) : PrintOp → Prop
  | putChar insertMode width _ => g.Pads width → insertMode = true ∧ g.editBound.isSome = true ∨ g.PadsWhole
  | deleteChars count =>
    count ≠ 0 → ∀ stop ∈ g.editBound, (g.row g.cursor.line).ClosesWhole g.cursor.col stop
  | deleteColumns count atCol =>
    count ≠ 0 → ∀ ext ∈ g.columnOpExtent atCol, ∀ i < ext.2.1, ext.1 ≤ i → (g.row i).ClosesWhole atCol ext.2.2.2
  | scrollLeft count =>
    count ≠ 0 → ∀ i < g.regionEnd, g.regionStart ≤ i → (g.row i).ShiftsLeftWhole g.marginBand.1 g.marginBand.2
      (min count (g.marginBand.2 + 1 - g.marginBand.1))
  | scrollRight count =>
    count ≠ 0 → ∀ i < g.regionEnd, g.regionStart ≤ i → (g.row i).ShiftsRightWhole g.marginBand.1 g.marginBand.2
      (min count (g.marginBand.2 + 1 - g.marginBand.1))
  | insertLines count =>
    g.cursorInRegion = true → g.hasHorizontalMargins = true → count ≠ 0 →
      ∀ j < g.regionEnd - min count (g.regionEnd - g.cursor.line), g.cursor.line ≤ j →
        (g.row j).BandWhole g.leftMargin g.rightMargin
  | deleteLines count =>
    g.cursorInRegion = true → g.hasHorizontalMargins = true → count ≠ 0 →
      ∀ j < g.regionEnd, g.cursor.line + min count (g.regionEnd - g.cursor.line) ≤ j →
        (g.row j).BandWhole g.leftMargin g.rightMargin
  | _ => True

/-- **Printing and editing at the cursor keep wide characters whole exactly when they meet none at an edge they do not
    clean up.** -/
theorem keepsPairs_iff {g : Grid} (hb : g.Bounded) (hocc : g.PlainPastOcc) (hpen : g.cursor.template.IsPlain)
    (hp : g.WidePaired) (op : PrintOp) : (op.apply g).WidePaired ↔ op.KeepsPairs g := by
  cases op with
  | putCharAscii ch =>
    refine iff_of_true ?_ trivial
    show ((g.putCharAscii ch).getD g).WidePaired
    cases hput : g.putCharAscii ch with
    | none => exact hp
    | some g' => exact hp.putCharAscii hb hpen hput
  | putChar insertMode width ch =>
    show ((if insertMode then g.insertBlank width else g).putChar width ch).WidePaired ↔ _
    unfold KeepsPairs
    cases insertMode with
    | false =>
      rw [if_neg Bool.false_ne_true, hp.putChar_iff hb hocc hpen width ch]
      simp
    | true =>
      rw [if_pos rfl]
      have hsame := (Grid.paints_insertBlank g width).sameCursor
      have hroom := (hp.insertBlank hb width).putChar_iff
        (hb.placed.steady (Grid.tracked_insertBlank g width).rolls hsame).bounded (hocc.insertBlank hb width)
        (hsame.cursor.symm ▸ hpen) width ch
      rw [hroom]
      cases hedit : g.editBound with
      | none =>
        have hnone : g.insertBlank width = g := by
          unfold Grid.insertBlank
          rw [hedit]
        rw [hnone]
        simp
      | some stop =>
        refine iff_of_true (fun hpads => .inl ?_) fun _ => .inl ⟨rfl, rfl⟩
        have hfree := Grid.isPlain_insertBlank hb width (by rw [hedit]; rfl) (by have := hpads.1; omega)
        rw [hsame.cursor]
        exact hfree
  | insertBlank count => exact iff_of_true (hp.insertBlank hb count) trivial
  | deleteChars count => exact hp.deleteChars_iff hb count
  | insertColumns count atCol => exact iff_of_true (hp.insertColumns hb count atCol) trivial
  | deleteColumns count atCol => exact hp.deleteColumns_iff hb count atCol
  | scrollLeft count => exact hp.scrollLeft_iff hb count
  | scrollRight count => exact hp.scrollRight_iff hb count
  | insertLines count => exact hp.insertLines_iff hb hocc count
  | deleteLines count => exact hp.deleteLines_iff hb hocc count

/-- A screen whose first line ends in a wide character, with the cursor on its spacer. -/
def lineEnd : Grid := run GridOp.apply (Grid.withScrollback 2 3 0)
  [.edit (.moveTo 0 1), .putChar 2 'あ', .edit (.moveTo 0 2)]

theorem bounded_lineEnd : lineEnd.Bounded :=
  Grid.bounded_along (by decide) (by decide) (by decide)

/-- Under IRM the place is cleared before it is padded. -/
theorem widePaired_lineEnd :
    (apply lineEnd (putChar true 2 'い')).WidePaired ↔ KeepsPairs lineEnd (putChar true 2 'い') :=
  keepsPairs_iff bounded_lineEnd (by decide) (by decide) (by decide) _

/-- **The padding orphans a wide character**: the next one does not fit on the spacer at the end of the line, which is
    overwritten, and the wide cell in front of it stays. -/
theorem pad_orphans_wide :
    ¬ ∀ (g : Grid) (op : PrintOp), g.Bounded → g.PlainPastOcc → g.cursor.template.IsPlain → g.WidePaired →
      (op.apply g).WidePaired := by
  intro h
  have hpaired := h lineEnd (putChar false 2 'い') bounded_lineEnd (by decide) (by decide) (by decide)
  revert hpaired
  decide

end PrintOp

end OriTerm
