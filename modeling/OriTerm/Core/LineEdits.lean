import OriTerm.Core.RowPairs

/-!
# `Core.LineEdits` — what an edit does to each row

Most operations of a grid rewrite visible rows one at a time: the row of the cursor, each row of the scroll region, each
row of a rectangle. `Grid.EditsRows F` says what is left of such an operation when the cursor and the damage are
forgotten: row `i` became `F i`, and the scrollback did not move. An operation on one line is `atLine`, a loop over lines
is `onLines`, and the partial scrolls, whose rows take cells from each other, are `copyUp` and `copyDown`.

A property of rows holds after the operation exactly when each `F i` gives it (`EditsRows.forall_rows`), so that what the
row functions of `Core.RowPairs` do is all there is to know.
-/

namespace OriTerm

open Lib Lib.Bitflags List CellFlags

namespace Grid

/-! ## Edits row by row -/

/-- **Row `i` became `F i`**, and nothing else of the contents moved. -/
structure EditsRows (F : Nat → Row → Row) (g g' : Grid) : Prop where
  rows : ∀ i, g'.rows[i]? = g.rows[i]?.map (F i)
  scrollback : g'.scrollback = g.scrollback
  cols : g'.cols = g.cols

/-- An edit of one line. -/
def atLine (line : Nat) (F : Row → Row) (i : Nat) (r : Row) : Row := if i = line then F r else r

/-- An edit of the lines `[start, stop)`. -/
def onLines (start stop : Nat) (F : Row → Row) (i : Nat) (r : Row) : Row := if start ≤ i ∧ i < stop then F r else r

variable {g g' g'' : Grid} {F F' : Nat → Row → Row} {f f' : Row → Row} {line : Nat}

/-- Nothing of the contents moved. -/
theorem EditsRows.refl (g : Grid) : EditsRows (fun _ r => r) g g := ⟨fun i => by simp, rfl, rfl⟩

section

variable (h : EditsRows F g g')
include h

theorem EditsRows.trans (h' : EditsRows F' g' g'') : EditsRows (fun i r => F' i (F i r)) g g'' := by
  refine ⟨fun i => ?_, h'.scrollback.trans h.scrollback, h'.cols.trans h.cols⟩
  rw [h'.rows, h.rows, Option.map_map]
  rfl

/-- Only what the edit does to the rows there are matters. -/
theorem EditsRows.congr (hF : ∀ i r, g.rows[i]? = some r → F i r = F' i r) : EditsRows F' g g' := by
  refine ⟨fun i => ?_, h.scrollback, h.cols⟩
  rw [h.rows]
  cases hr : g.rows[i]? with
  | none => rfl
  | some r => exact congrArg some (hF i r hr)

/-- A row of the edited grid. -/
theorem EditsRows.row {i : Nat} {r : Row} (hr : g.rows[i]? = some r) : g'.rows[i]? = some (F i r) := by
  rw [h.rows, hr]
  rfl

/-- **Rows after an edit are edited rows.** -/
theorem EditsRows.forall_rows (P : Row → Prop) : (∀ r ∈ g'.rows, P r) ↔ ∀ i r, g.rows[i]? = some r → P (F i r) := by
  constructor
  · intro hall i r hr
    exact hall _ (mem_of_getElem? (h.row hr))
  · intro hall r' hr'
    obtain ⟨i, hi⟩ := mem_iff_getElem?.mp hr'
    rw [h.rows] at hi
    obtain ⟨r, hr, rfl⟩ := Option.map_eq_some_iff.mp hi
    exact hall i r hr

end

theorem EditsRows.then_line (h : EditsRows (atLine line f) g g') (h' : EditsRows (atLine line f') g' g'') :
    EditsRows (atLine line fun r => f' (f r)) g g'' := by
  refine (h.trans h').congr fun i r _ => ?_
  unfold atLine
  split <;> rfl

theorem editsRows_editRow (g : Grid) (line : Nat) (f : Row → Row) : EditsRows (atLine line f) g (g.editRow line f) := by
  refine ⟨fun i => ?_, rfl, rfl⟩
  unfold editRow atLine
  rw [getElem?_modify]
  cases g.rows[i]? with
  | none => split <;> rfl
  | some r =>
    by_cases hi : line = i
    · simp [hi]
    · simp [hi, Ne.symm]

theorem EditsRows.editRow (h : EditsRows (atLine line f) g g') (f' : Row → Row) :
    EditsRows (atLine line fun r => f' (f r)) g (g'.editRow line f') := h.then_line (editsRows_editRow ..)

/-- The damage is not part of the contents. -/
theorem EditsRows.markCols (h : EditsRows F g g') (i left right : Nat) : EditsRows F g (g'.markCols i left right) :=
  ⟨h.rows, h.scrollback, h.cols⟩

theorem EditsRows.markRange (h : EditsRows F g g') (start stop : Nat) : EditsRows F g (g'.markRange start stop) :=
  ⟨h.rows, h.scrollback, h.cols⟩

theorem EditsRows.setCol (h : EditsRows F g g') (col : Nat) : EditsRows F g (g'.setCol col) :=
  ⟨h.rows, h.scrollback, h.cols⟩

/-- A choice made by looking at the row. -/
theorem EditsRows.ite {p : Row → Prop} [DecidablePred p] {a b : Grid} (ha : EditsRows (atLine line f) g a)
    (hb : EditsRows (atLine line f') g b) :
    EditsRows (atLine line fun r => if p r then f r else f' r) g (if p (g.row line) then a else b) := by
  by_cases hp : p (g.row line)
  · rw [if_pos hp]
    refine ha.congr fun i r hr => ?_
    unfold atLine
    by_cases hi : i = line
    · rw [hi] at hr
      rw [row_eq hr] at hp
      rw [if_pos hi, if_pos hi]
      exact (if_pos hp).symm
    · rw [if_neg hi, if_neg hi]
  · rw [if_neg hp]
    refine hb.congr fun i r hr => ?_
    unfold atLine
    by_cases hi : i = line
    · rw [hi] at hr
      rw [row_eq hr] at hp
      rw [if_pos hi, if_pos hi]
      exact (if_neg hp).symm
    · rw [if_neg hi, if_neg hi]

/-- An edit that changes no row is an edit of any line. -/
theorem EditsRows.at_line (h : EditsRows (fun _ r => r) g g') (line : Nat) : EditsRows (atLine line fun r => r) g g' := by
  refine h.congr fun i r _ => ?_
  unfold atLine
  split <;> rfl

/-! ## The helpers and the edits at the cursor -/

section

variable (g : Grid)

theorem editsRows_blankOrphan (line col : Nat) (flag : CellFlags) :
    EditsRows (atLine line (Row.modify · col (Cell.orphan flag))) g (g.blankOrphan line col flag) :=
  (editsRows_editRow ..).markCols ..

theorem editsRows_clearWideCharAt (line col : Nat) :
    EditsRows (atLine line (Row.clearWideAt g.cols col)) g (g.clearWideCharAt line col) := by
  unfold clearWideCharAt Row.clearWideAt
  split
  · exact (EditsRows.refl g).at_line line
  · have hfirst := EditsRows.ite
      (p := fun r => (contains (r.get col).flags wideCharSpacer && decide (col > 0)) = true)
      (editsRows_blankOrphan g line (col - 1) wideChar) ((EditsRows.refl g).at_line line)
    have hcell : g.cell line col = (g.row line).get col := rfl
    dsimp only
    rw [hcell, hfirst.cols]
    exact EditsRows.ite
     
      (hfirst.then_line (editsRows_blankOrphan ..)) hfirst

theorem editsRows_fixWideBoundaries (line start stop : Nat) :
    EditsRows (atLine line (Row.fixWide g.cols start stop)) g (g.fixWideBoundaries line start stop) := by
  have hfirst := EditsRows.ite
    (p := fun r => (decide (start > 0) && decide (start < g.cols) && (r.get start).has wideCharSpacer) = true)
    (editsRows_blankOrphan g line (start - 1) wideChar) ((EditsRows.refl g).at_line line)
  have hcell : g.cell line start = (g.row line).get start := rfl
  unfold fixWideBoundaries Row.fixWide
  dsimp only
  rw [hcell]
  generalize (if (decide (start > 0) && decide (start < g.cols)
      && ((g.row line).get start).has wideCharSpacer) = true then
    g.blankOrphan line (start - 1) wideChar else g) = g₁ at hfirst ⊢
  have hsecond := EditsRows.ite
    (p := fun r => (decide (stop > 0) && decide (stop < g₁.cols) && (r.get (stop - 1)).has wideChar) = true)
    (editsRows_blankOrphan g₁ line stop wideCharSpacer) ((EditsRows.refl g₁).at_line line)
  have hboth := hfirst.then_line hsecond
  rw [hfirst.cols] at hboth ⊢
  exact hboth

theorem editsRows_stripWide (line col : Nat) :
    EditsRows (atLine line (Row.stripWide g.cols col)) g (g.stripWide line col) :=
  (editsRows_clearWideCharAt g line col).editRow (Row.modify · col (Cell.removeFlags widePair))

theorem editsRows_rowInsertColumns (line col count stop : Nat) (template : Cell) :
    EditsRows (atLine line (Row.insertColumns g.cols col count stop template)) g
      (g.rowInsertColumns line col count stop template) := by
  have hstrip := editsRows_stripWide g line col
  unfold rowInsertColumns Row.insertColumns
  dsimp only
  rw [hstrip.cols]
  refine EditsRows.editRow ?_ _
  by_cases hlt : stop < g.cols
  · simp only [if_pos hlt]
    have hclear := hstrip.then_line (editsRows_clearWideCharAt (g.stripWide line col) line (stop - 1))
    rw [hstrip.cols] at hclear
    exact hclear
  · simp only [if_neg hlt]
    exact hstrip

theorem editsRows_closeColumns (line col count stop : Nat) (template : Cell) :
    EditsRows (atLine line (Row.closeColumns col count stop template)) g
      (g.closeColumns line col count stop template) := by
  unfold closeColumns Row.closeColumns
  refine EditsRows.editRow ?_ _
  exact EditsRows.ite
   
    (editsRows_editRow ..) ((EditsRows.refl g).at_line line)

/-- The write at the cursor. -/
theorem editsRows_writeChar (width : Nat) (ch : Char) :
    EditsRows (atLine g.cursor.line (if width = 2 then Row.writeWide g.cols g.cursor.col g.cursor.template ch
      else Row.writeNarrow g.cols g.cursor.col g.cursor.template ch)) g (g.writeChar width ch) := by
  have hnarrow := (editsRows_clearWideCharAt g g.cursor.line g.cursor.col).editRow
    (Row.modify · g.cursor.col (Cell.draw g.cursor.template ch))
  refine EditsRows.markCols (EditsRows.setCol ?_ _) ..
  by_cases hw : width = 2
  · simp only [if_pos hw]
    have hwide := hnarrow.editRow (Row.modify · g.cursor.col (Cell.insertFlags wideChar))
    have hspacer := (hwide.then_line (editsRows_clearWideCharAt _ g.cursor.line (g.cursor.col + 1))).editRow
      (Row.modify · (g.cursor.col + 1) (Cell.drawSpacer g.cursor.template))
    have hcols := hwide.cols
    rw [hcols] at hspacer
    unfold writeSpacer Row.writeWide
    dsimp only
    have hcols' : (((g.clearWideCharAt g.cursor.line g.cursor.col).editCell g.cursor.line g.cursor.col
      (Cell.draw g.cursor.template ch)).editCell g.cursor.line g.cursor.col
      (Cell.insertFlags wideChar)).cols = g.cols := hcols
    rw [hcols']
    by_cases hlt : g.cursor.col + 1 < g.cols
    · simp only [if_pos hlt]
      exact hspacer
    · simp only [if_neg hlt]
      exact hwide
  · simp only [if_neg hw]
    exact hnarrow

end

/-! ## Loops over lines -/

/-- **A loop over lines edits each of them**, when its body edits the line it is at. -/
theorem editsRows_lines {a b : Nat} {h : Nat → Grid → Grid}
    (hbody : ∀ i x, x.cols = g.cols → EditsRows (atLine i f) x (h i x)) :
    EditsRows (onLines a b f) g (forRange a b h g) := by
  rcases Nat.le_total a b with hle | hle
  · refine forRange_induction (P := fun k x => EditsRows (onLines a k f) g x) hle
      (fun k x hs _ hx => ?_) ?_
    · refine (hx.trans (hbody k x hx.cols)).congr fun i r _ => ?_
      unfold atLine onLines
      by_cases hi : i = k
      · subst hi
        rw [if_pos rfl, if_neg (fun h => Nat.lt_irrefl i h.2), if_pos ⟨hs, Nat.lt_succ_self i⟩]
      · have hiff : (a ≤ i ∧ i < k) ↔ (a ≤ i ∧ i < k + 1) := by omega
        rw [if_neg hi]
        simp [hiff]
    · refine (EditsRows.refl g).congr fun i r _ => ?_
      unfold onLines
      rw [if_neg (by omega)]
  · have hnone : b - a = 0 := by omega
    unfold forRange
    rw [hnone]
    refine (EditsRows.refl g).congr fun i r _ => ?_
    unfold onLines
    rw [if_neg (by omega)]

/-- A row in the range of a loop. -/
theorem EditsRows.row_onLines {start stop i : Nat} (h : EditsRows (onLines start stop f) g g') (hs : start ≤ i)
    (he : i < stop) (hi : i < g.rows.length) : g'.row i = f (g.row i) := by
  have hr : g.rows[i]? = some g.rows[i] := getElem?_eq_getElem hi
  have hrow := h.row hr
  unfold onLines at hrow
  rw [if_pos ⟨hs, he⟩] at hrow
  rw [row_eq hrow, row_eq hr]

/-- A row that was not edited. -/
theorem EditsRows.row_same {i : Nat} (h : EditsRows F g g') (hF : ∀ r, F i r = r) : g'.row i = g.row i := by
  unfold Grid.row
  rw [getD_eq_getElem?_getD, getD_eq_getElem?_getD, h.rows]
  cases g.rows[i]? with
  | none => rfl
  | some r => exact hF r

/-- Row `i` takes the columns `[left, stop)` of the row `count` below it: what is still there when the loop gets to it is
    what was there before. -/
theorem editsRows_copyUp (g : Grid) (rowStart len count left stop : Nat) :
    EditsRows (fun i r => if rowStart ≤ i ∧ i < rowStart + len then Row.copyRange (g.row (i + count)) left stop r else r) g
      (forRange 0 len (fun offset x =>
        x.editRow (rowStart + offset) (Row.copyRange (x.row (rowStart + offset + count)) left stop)) g) := by
  refine forRange_induction (P := fun k x => EditsRows (fun i r =>
    if rowStart ≤ i ∧ i < rowStart + k then Row.copyRange (g.row (i + count)) left stop r else r) g x)
    (Nat.zero_le len) (fun k x _ _ hx => ?_) ?_
  · have hsrc : x.row (rowStart + k + count) = g.row (rowStart + k + count) := hx.row_same fun r => if_neg (by omega)
    rw [hsrc]
    refine (hx.trans (editsRows_editRow ..)).congr fun i r _ => ?_
    unfold atLine
    by_cases hi : i = rowStart + k
    · subst hi
      rw [if_pos rfl, if_neg (fun h => Nat.lt_irrefl _ h.2), if_pos ⟨Nat.le_add_right .., Nat.lt_succ_self _⟩]
    · have hiff : (rowStart ≤ i ∧ i < rowStart + k) ↔ (rowStart ≤ i ∧ i < rowStart + (k + 1)) := by omega
      rw [if_neg hi]
      simp [hiff]
  · refine (EditsRows.refl g).congr fun i r _ => ?_
    rw [if_neg (by omega)]

/-- The same downwards, where the loop starts at the bottom. -/
theorem editsRows_copyDown (g : Grid) (rowStart len left stop : Nat) {count : Nat} (hpos : 0 < count) :
    EditsRows (fun i r => if rowStart + count ≤ i ∧ i < rowStart + count + len
        then Row.copyRange (g.row (i - count)) left stop r else r) g
      (forRangeRev 0 len (fun offset x =>
        x.editRow (rowStart + offset + count) (Row.copyRange (x.row (rowStart + offset)) left stop)) g) := by
  have hloop := forRangeRev_induction (P := fun k x => EditsRows (fun i r =>
    if rowStart + count + k ≤ i ∧ i < rowStart + count + len then Row.copyRange (g.row (i - count)) left stop r else r) g x)
    (f := fun offset x =>
      x.editRow (rowStart + offset + count) (Row.copyRange (x.row (rowStart + offset)) left stop)) (x := g)
    (Nat.zero_le len) (fun k x _ hk hx => ?_) ?_
  · exact hloop
  · have hsrc : x.row (rowStart + k) = g.row (rowStart + k) := hx.row_same fun r => if_neg (by omega)
    rw [hsrc]
    refine (hx.trans (editsRows_editRow ..)).congr fun i r _ => ?_
    unfold atLine
    by_cases hi : i = rowStart + k + count
    · subst hi
      have hrow : rowStart + k + count - count = rowStart + k := Nat.add_sub_cancel ..
      rw [if_pos rfl, if_neg (by omega), if_pos (by omega), hrow]
    · have hiff : (rowStart + count + (k + 1) ≤ i ∧ i < rowStart + count + len) ↔
          (rowStart + count + k ≤ i ∧ i < rowStart + count + len) := by omega
      rw [if_neg hi]
      simp [hiff]
  · refine (EditsRows.refl g).congr fun i r _ => ?_
    rw [if_neg (by omega)]

/-! ## The partial scrolls -/

/-- What a partial scroll does to row `i`: the edges are cleaned up, and the columns `[left, stop)` come from the row
    `src`, if there is one, or are reset. -/
def bandFrom (g : Grid) (src : Option Nat) (left stop : Nat) (template : Cell) (r : Row) : Row :=
  match src with
  | some i => Row.copyRange ((g.row i).fixWide g.cols left stop) left stop (r.fixWide g.cols left stop)
  | none => (r.fixWide g.cols left stop).modifyRange left stop (·.reset template)

/-- The rows a partial scroll up takes the band from. -/
def sourceUp (rowEnd count i : Nat) : Option Nat := if i + count < rowEnd then some (i + count) else none

/-- The rows a partial scroll down takes the band from. -/
def sourceDown (rowStart count i : Nat) : Option Nat := if rowStart + count ≤ i then some (i - count) else none

theorem editsRows_fixRows (g : Grid) (rowStart rowEnd left stop : Nat) :
    EditsRows (onLines rowStart rowEnd (Row.fixWide g.cols left stop)) g
      (forRange rowStart rowEnd (fun i g => g.fixWideBoundaries i left stop) g) :=
  editsRows_lines fun i x hx => by
    have hfix := editsRows_fixWideBoundaries x i left stop
    rw [hx] at hfix
    exact hfix

section

variable (g) {rowStart rowEnd c : Nat} (left stop count : Nat) (hc : min count (rowEnd - rowStart) = c)
  (hrows : rowEnd ≤ g.rows.length) (hband : left < stop) (hpos : 0 < c)
include left stop count hc hrows hband hpos

/-- Rows `[rowStart, rowEnd)` of the band `[left, stop)` move up by `count`. -/
theorem editsRows_scrollPartialUp :
    EditsRows (fun i r => if rowStart ≤ i ∧ i < rowEnd
        then bandFrom g (sourceUp rowEnd c i) left stop g.bceTemplate r else r) g
      (g.scrollPartialUp rowStart rowEnd left stop count) := by
  have hfix := editsRows_fixRows g rowStart rowEnd left stop
  unfold scrollPartialUp
  rw [if_neg (by omega), hc, if_neg (by omega)]
  refine EditsRows.markRange ?_ ..
  have hsrc : ∀ i, rowStart ≤ i → i < rowEnd →
      (forRange rowStart rowEnd (fun i g => g.fixWideBoundaries i left stop) g).row i
        = (g.row i).fixWide g.cols left stop :=
    fun i hs he => hfix.row_onLines hs he (Nat.lt_of_lt_of_le he hrows)
  generalize forRange rowStart rowEnd (fun i g => g.fixWideBoundaries i left stop) g = g₁ at hfix hsrc ⊢
  have hcopy := editsRows_copyUp g₁ rowStart (rowEnd - rowStart - c) c left stop
  have hreset := editsRows_lines (g := forRange 0 (rowEnd - rowStart - c) (fun offset x =>
      x.editRow (rowStart + offset) (Row.copyRange (x.row (rowStart + offset + c)) left stop)) g₁)
    (a := rowEnd - c) (b := rowEnd)
    (h := fun i g' => g'.editRow i (Row.modifyRange left stop (·.reset g.bceTemplate)))
    fun i x _ => editsRows_editRow ..
  refine ((hfix.trans hcopy).trans hreset).congr fun i r _ => ?_
  unfold onLines bandFrom sourceUp
  by_cases hin : rowStart ≤ i ∧ i < rowEnd
  · rw [if_pos hin, if_pos hin]
    by_cases hmoved : i + c < rowEnd
    · rw [if_neg (by omega), if_pos (by omega), if_pos hmoved, hsrc _ (by omega) hmoved]
    · rw [if_pos (by omega), if_neg (by omega), if_neg hmoved]
  · rw [if_neg (by omega), if_neg (by omega), if_neg hin, if_neg hin]

/-- Rows `[rowStart, rowEnd)` of the band `[left, stop)` move down by `count`. -/
theorem editsRows_scrollPartialDown :
    EditsRows (fun i r => if rowStart ≤ i ∧ i < rowEnd
        then bandFrom g (sourceDown rowStart c i) left stop g.bceTemplate r else r) g
      (g.scrollPartialDown rowStart rowEnd left stop count) := by
  have hfix := editsRows_fixRows g rowStart rowEnd left stop
  unfold scrollPartialDown
  rw [if_neg (by omega), hc, if_neg (by omega)]
  refine EditsRows.markRange ?_ ..
  have hsrc : ∀ i, rowStart ≤ i → i < rowEnd →
      (forRange rowStart rowEnd (fun i g => g.fixWideBoundaries i left stop) g).row i
        = (g.row i).fixWide g.cols left stop :=
    fun i hs he => hfix.row_onLines hs he (Nat.lt_of_lt_of_le he hrows)
  generalize forRange rowStart rowEnd (fun i g => g.fixWideBoundaries i left stop) g = g₁ at hfix hsrc ⊢
  have hcopy := editsRows_copyDown g₁ rowStart (rowEnd - rowStart - c) left stop hpos
  have hreset := editsRows_lines (g := forRangeRev 0 (rowEnd - rowStart - c) (fun offset x =>
      x.editRow (rowStart + offset + c) (Row.copyRange (x.row (rowStart + offset)) left stop)) g₁)
    (a := rowStart) (b := rowStart + c)
    (h := fun i g' => g'.editRow i (Row.modifyRange left stop (·.reset g.bceTemplate)))
    fun i x _ => editsRows_editRow ..
  refine ((hfix.trans hcopy).trans hreset).congr fun i r _ => ?_
  unfold onLines bandFrom sourceDown
  by_cases hin : rowStart ≤ i ∧ i < rowEnd
  · rw [if_pos hin, if_pos hin]
    by_cases hmoved : rowStart + c ≤ i
    · rw [if_neg (by omega), if_pos (by omega), if_pos hmoved, hsrc _ (by omega) (by omega)]
    · rw [if_pos (by omega), if_neg (by omega), if_neg hmoved]
  · rw [if_neg (by omega), if_neg (by omega), if_neg hin, if_neg hin]

end

end Grid

end OriTerm
