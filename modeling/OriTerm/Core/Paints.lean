import OriTerm.Core.GridOp

/-!
# `Core.Paints` — edits that leave the cursors alone

Most edits of the grid change rows and mark damage: `Paints B g g'` says that `g'` comes from `g` in this way. With
`B` the columns marked are on the screen and in order, which asks more of some operations.
-/

namespace OriTerm

open Lib Lib.Bitflags CellFlags

namespace Grid

/-- Rows are edited and damage is marked; the cursors stay where they are. -/
inductive Paints (B : Prop) : Grid → Grid → Prop
  | refl (g : Grid) : Paints B g g
  | same {g g' g'' : Grid} (h : Paints B g g') (hcols : g''.cols = g'.cols) (hdirty : g''.dirty = g'.dirty)
      (hcursor : g''.cursor = g'.cursor) (hsaved : g''.savedCursor = g'.savedCursor) : Paints B g g''
  | markLine {g g' : Grid} (h : Paints B g g') (line : Nat) : Paints B g (g'.markLine line)
  | markAll {g g' : Grid} (h : Paints B g g') : Paints B g g'.markAll
  | markRange {g g' : Grid} (h : Paints B g g') (start stop : Nat) : Paints B g (g'.markRange start stop)
  | markSpan {g g' : Grid} (h : Paints B g g') (line : Nat) {left right : Nat}
      (hin : B → left ≤ right ∧ right < g.cols) : Paints B g (g'.markCols line left right)

variable {B : Prop} {g g' g'' : Grid}

theorem Paints.cols (h : Paints B g g') : g'.cols = g.cols := by
  induction h with
  | refl => rfl
  | same h hcols hdirty hcursor hsaved ih => exact hcols.trans ih
  | markLine h line ih | markAll h ih | markRange h start stop ih | markSpan h line hin ih => exact ih

theorem Paints.trans (h : Paints B g g') (h' : Paints B g' g'') : Paints B g g'' := by
  induction h' with
  | refl => exact h
  | same _ hcols hdirty hcursor hsaved ih => exact ih.same hcols hdirty hcursor hsaved
  | markLine _ line ih => exact ih.markLine line
  | markAll _ ih => exact ih.markAll
  | markRange _ start stop ih => exact ih.markRange start stop
  | markSpan _ line hin ih => exact ih.markSpan line fun hb => h.cols ▸ hin hb

section

variable (h : Paints B g g')
include h

theorem Paints.editRow (line : Nat) (f : Row → Row) : Paints B g (g'.editRow line f) := h.same rfl rfl rfl rfl

theorem Paints.editCell (line col : Nat) (f : Cell → Cell) : Paints B g (g'.editCell line col f) :=
  h.same rfl rfl rfl rfl

theorem Paints.markCols (line : Nat) {left right : Nat} (hle : left ≤ right) (hright : right < g.cols) :
    Paints B g (g'.markCols line left right) := h.markSpan line fun _ => ⟨hle, hright⟩

end

/-- A loop over lines. -/
theorem paints_lines {start stop : Nat} {f : Nat → Grid → Grid}
    (h : ∀ line x, start ≤ line → line < stop → x.cols = g.cols → Paints B x (f line x)) :
    Paints B g (forRange start stop f g) :=
  forRange_invariant (fun line x hs he hx => hx.trans (h line x hs he hx.cols)) (.refl g)

/-! ## Cells and lines -/

theorem paints_blankOrphan (line : Nat) {col : Nat} (flag : CellFlags) (hcol : col < g.cols) :
    Paints B g (g.blankOrphan line col flag) := ((Paints.refl g).editCell ..).markCols line (Nat.le_refl _) hcol

section

variable (g : Grid)

theorem paints_fixWideBoundaries (line start stop : Nat) : Paints B g (g.fixWideBoundaries line start stop) := by
  have hleft : Paints B g (if start > 0 && start < g.cols && (g.cell line start).has wideCharSpacer then
      g.blankOrphan line (start - 1) wideChar else g) := by
    split
    · next h =>
      simp only [Bool.and_eq_true, decide_eq_true_eq] at h
      exact paints_blankOrphan line _ (by omega)
    · exact .refl g
  unfold fixWideBoundaries
  dsimp only
  generalize (if start > 0 && start < g.cols && (g.cell line start).has wideCharSpacer then
    g.blankOrphan line (start - 1) wideChar else g) = g₁ at hleft ⊢
  split
  · next h =>
    simp only [Bool.and_eq_true, decide_eq_true_eq] at h
    exact hleft.trans (paints_blankOrphan line _ (by omega))
  · exact hleft

theorem paints_clearWideCharAt (line col : Nat) : Paints B g (g.clearWideCharAt line col) := by
  unfold clearWideCharAt
  split
  · exact .refl g
  · next hin =>
    have hleft : Paints B g (if contains (g.cell line col).flags wideCharSpacer && col > 0 then
        g.blankOrphan line (col - 1) wideChar else g) := by
      split
      · exact paints_blankOrphan line _ (by omega)
      · exact .refl g
    dsimp only
    generalize (if contains (g.cell line col).flags wideCharSpacer && col > 0 then
      g.blankOrphan line (col - 1) wideChar else g) = g₁ at hleft ⊢
    split
    · next h =>
      simp only [Bool.and_eq_true, decide_eq_true_eq] at h
      exact hleft.trans (paints_blankOrphan line _ h.2)
    · exact hleft

theorem paints_stripWide (line col : Nat) : Paints B g (g.stripWide line col) :=
  (paints_clearWideCharAt g line col).editCell ..

theorem paints_clearEdges (line left right : Nat) : Paints B g (g.clearEdges line left right) := by
  unfold clearEdges
  dsimp only
  split
  · exact (paints_clearWideCharAt ..).trans (paints_clearWideCharAt ..)
  · exact paints_clearWideCharAt ..

theorem paints_clearUnprotectedEdges (line left right : Nat) :
    Paints B g (g.clearUnprotectedEdges line left right) := by
  have hleft : Paints B g
      (if !(g.cell line left).has isProtected then g.clearWideCharAt line left else g) := by
    split
    · exact paints_clearWideCharAt ..
    · exact .refl g
  unfold clearUnprotectedEdges
  dsimp only
  generalize (if !(g.cell line left).has isProtected then g.clearWideCharAt line left else g) = g₁
    at hleft ⊢
  split
  · exact hleft.trans (paints_clearWideCharAt ..)
  · exact hleft

theorem paints_writeSpacer (line col : Nat) (template : Cell) : Paints B g (g.writeSpacer line col template) := by
  have hwide := (Paints.refl (B := B) g).editCell line col (Cell.insertFlags wideChar)
  unfold writeSpacer
  dsimp only
  split
  · exact (hwide.trans (paints_clearWideCharAt ..)).editCell ..
  · exact hwide

end

theorem paints_pushZerowidth (hpos : 0 < g.cols) (ch : Char) : Paints B g (g.pushZerowidth ch) := by
  unfold pushZerowidth
  split
  · exact .refl g
  · next prevCol hprev =>
    have hlt : prevCol < g.cols := by
      unfold zerowidthCol at hprev
      split at hprev
      · split at hprev
        · cases hprev
        · cases hprev
          omega
      · cases hprev
        omega
    refine ((Paints.refl g).editCell ..).markCols _ (Nat.le_refl _) ?_
    split <;> omega

section

variable (g : Grid) (line col count stop : Nat) (template : Cell)

theorem paints_rowInsertColumns : Paints B g (g.rowInsertColumns line col count stop template) := by
  have hstrip := paints_stripWide (B := B) g line col
  unfold rowInsertColumns
  dsimp only
  split
  · exact (hstrip.trans (paints_clearWideCharAt ..)).editRow ..
  · exact hstrip.editRow ..

theorem paints_closeColumns : Paints B g (g.closeColumns line col count stop template) := by
  unfold closeColumns
  split
  · exact ((Paints.refl g).editCell ..).editRow ..
  · exact (Paints.refl g).editRow ..

end

theorem paints_insertBlank (g : Grid) (count : Nat) : Paints B g (g.insertBlank count) := by
  unfold insertBlank
  split
  · exact .refl g
  · next rightBound hbound =>
    obtain ⟨hcol, hcols⟩ := editBound_spec hbound
    split
    · exact .refl g
    · exact ((paints_rowInsertColumns ..).editRow ..).markCols _ (by omega) (by omega)

theorem paints_deleteChars (g : Grid) (count : Nat) : Paints B g (g.deleteChars count) := by
  unfold deleteChars
  split
  · exact .refl g
  · next rightBound hbound =>
    obtain ⟨hcol, hcols⟩ := editBound_spec hbound
    split
    · exact .refl g
    · exact (((paints_stripWide ..).trans (paints_closeColumns ..)).editRow ..).markCols _ (by omega) (by omega)

theorem paints_eraseChars (count : Nat) (h : B → count = 0 ∨ g.cursor.col < g.cols) :
    Paints B g (g.eraseChars count) := by
  unfold eraseChars
  split
  · exact .refl g
  · next hcount =>
    refine ((paints_fixWideBoundaries ..).editRow ..).markSpan _ fun hb => ?_
    have hcol := (h hb).resolve_left hcount
    omega

theorem paints_eraseLineWithTemplate (hpos : B → 0 < g.cols) (mode : LineEraseMode) (template : Cell)
    (h : B → mode = .right → g.cursor.col < g.cols) : Paints B g (g.eraseLineWithTemplate mode template) := by
  cases mode with
  | right =>
    refine ((paints_fixWideBoundaries ..).editRow ..).markSpan _ fun hb => ?_
    have hcol := h hb rfl
    omega
  | left =>
    refine ((paints_fixWideBoundaries ..).editRow ..).markSpan _ fun hb => ?_
    have hcols := hpos hb
    omega
  | all => exact ((Paints.refl g).editRow ..).markLine _

/-! ## Displays and scrolls -/

/-- The columns of a column operation lie on the screen. -/
theorem columnOpExtent_le (hm : MarginsOk g) {atCol rowStart rowEnd colStart colEnd : Nat}
    (h : g.columnOpExtent atCol = some (rowStart, rowEnd, colStart, colEnd)) :
    atCol < colEnd ∧ colEnd ≤ g.cols ∧ rowStart < rowEnd := by
  have hright := hm.right
  have hband : g.marginBand.2 + 1 ≤ g.cols := by
    unfold marginBand
    split
    · exact hright
    · omega
  refine ⟨columnOpExtent_spec h, ?_⟩
  unfold columnOpExtent at h
  split at h
  · cases h
  · split at h
    · cases h
    · split at h
      · cases h
      · dsimp only at h
        split at h
        · cases h
        · simp only [Option.some.injEq, Prod.mk.injEq] at h
          omega

theorem Paints.resetLines (h : Paints B g g') (start stop : Nat) (template : Cell) :
    Paints B g (g'.resetLines start stop template) :=
  h.trans (paints_lines fun _ x _ _ _ => (Paints.refl x).editRow ..)

theorem paints_eraseDisplay (hpos : B → 0 < g.cols) (mode : DisplayEraseMode)
    (h : B → mode = .below → g.cursor.col < g.cols) :
    Paints B g (g.eraseDisplay mode) := by
  cases mode with
  | below =>
    have hreset := (paints_eraseLineWithTemplate hpos .right g.bceTemplate fun hb _ => h hb rfl).resetLines
      ((g.eraseLineWithTemplate .right g.bceTemplate).cursor.line + 1)
      (g.eraseLineWithTemplate .right g.bceTemplate).lines g.bceTemplate
    unfold eraseDisplay
    dsimp only
    split
    · exact hreset.markRange ..
    · exact hreset
  | above =>
    have hreset := (paints_eraseLineWithTemplate hpos .left g.bceTemplate fun _ => nofun).resetLines 0
      (g.eraseLineWithTemplate .left g.bceTemplate).cursor.line g.bceTemplate
    unfold eraseDisplay
    dsimp only
    split
    · exact hreset.markRange ..
    · exact hreset
  | all =>
    have hstale : Paints B g (g.resetLines 0 g.lines g.bceTemplate).dropStale :=
      ((Paints.refl g).resetLines 0 g.lines g.bceTemplate).same rfl rfl rfl rfl
    exact hstale.markAll
  | scrollback =>
    have hcleared : Paints B g
        { g with
          totalEvicted := g.totalEvicted + g.scrollback.len, scrollback := g.scrollback.clear, displayOffset := 0 } :=
      (Paints.refl g).same rfl rfl rfl rfl
    exact hcleared.markAll

section

variable (g) (count : Nat)

theorem paints_scrollRange (start stop count : Nat) :
    Paints B g (g.scrollRangeUp start stop count) ∧ Paints B g (g.scrollRangeDown start stop count) := by
  refine scrollRange_induction start stop count (.refl g) fun a b k _ _ => Paints.markRange ?_ ..
  exact (Paints.refl g).same rfl rfl rfl rfl

theorem paints_scrollUp : Paints B g (g.scrollUp count) := by
  have hevict : ∀ (i : Nat) (x : Grid), Paints B x (evictRow i x) := by
    intro i x
    unfold evictRow
    dsimp only
    split <;> exact (Paints.refl x).same rfl rfl rfl rfl
  have hheld : ∀ k, Paints B g (g.dropStale.holdView k) := by
    intro k
    unfold holdView
    split <;> exact (Paints.refl g).same rfl rfl rfl rfl
  unfold scrollUp
  dsimp only
  split
  · exact .refl g
  · refine Paints.trans ?_ (paints_scrollRange ..).1
    split
    · exact (hheld _).trans (paints_lines fun i x _ _ _ => hevict i x)
    · exact .refl g

theorem paints_scrollPartial (rowStart rowEnd left stop count : Nat) :
    Paints B g (g.scrollPartialUp rowStart rowEnd left stop count) ∧
      Paints B g (g.scrollPartialDown rowStart rowEnd left stop count) :=
  scrollPartial_induction (P := Paints B g) count (.refl g) (.refl g)
    (fun i x _ _ hx => hx.trans (paints_fixWideBoundaries x i left stop)) (fun _ _ _ _ _ hx => hx.editRow ..)
    (fun _ _ _ _ hx => hx.editRow ..) fun _ hx => hx.markRange ..

theorem paints_insertLines : Paints B g (g.insertLines count) := by
  unfold insertLines
  split
  · exact .refl g
  · split
    · exact (paints_scrollPartial ..).2
    · exact (paints_scrollRange ..).2

theorem paints_deleteLines : Paints B g (g.deleteLines count) := by
  unfold deleteLines
  split
  · exact .refl g
  · split
    · exact (paints_scrollPartial ..).1
    · exact (paints_scrollRange ..).1

theorem paints_scrollColumns (shift : Nat → Nat → Nat → Cell → Row → Row) : Paints B g (g.scrollColumns count shift) := by
  unfold scrollColumns
  split
  · exact .refl g
  · dsimp only
    split
    · exact .refl g
    · refine (paints_lines fun i x _ _ _ => ?_).markRange ..
      exact (paints_fixWideBoundaries ..).editRow ..

end

theorem paints_insertColumns (hm : MarginsOk g) (count atCol : Nat) : Paints B g (g.insertColumns count atCol) := by
  unfold insertColumns
  split
  · exact .refl g
  · split
    · exact .refl g
    · next hext =>
      obtain ⟨hlt, hle, -⟩ := columnOpExtent_le hm hext
      refine paints_lines fun i x _ _ hx => ?_
      exact ((paints_rowInsertColumns ..).markCols _ (by omega) (by omega)).editRow ..

theorem paints_deleteColumns (hm : MarginsOk g) (count atCol : Nat) : Paints B g (g.deleteColumns count atCol) := by
  unfold deleteColumns
  split
  · exact .refl g
  · split
    · exact .refl g
    · next hext =>
      obtain ⟨hlt, hle, -⟩ := columnOpExtent_le hm hext
      refine paints_lines fun i x _ _ hx => ?_
      exact (((paints_clearWideCharAt ..).trans (paints_closeColumns ..)).markCols _ (by omega) (by omega)).editRow ..

section

variable {area : RectArea} (h : B → area.left ≤ area.right ∧ area.right < g.cols)
include h

theorem paints_fillRect (template : Cell) : Paints B g (g.fillRect area template) := by
  refine paints_lines fun i x _ _ hx => ?_
  exact ((paints_clearEdges ..).editRow ..).markSpan _ fun hb => hx ▸ h hb

theorem paints_eraseRectUnprotected (bg : Color) : Paints B g (g.eraseRectUnprotected area bg) := by
  refine paints_lines fun i x _ _ hx => ?_
  have hedges := paints_clearUnprotectedEdges (B := B) x i area.left area.right
  dsimp only
  split
  · next endCol hlast =>
    have hin := List.mem_range'_1.mp (List.mem_reverse.mp (List.mem_of_find?_eq_some hlast))
    refine ((hedges.editRow ..).editRow ..).markSpan _ fun hb => ?_
    have hright := (h hb).2
    omega
  · exact hedges.editRow ..

theorem paints_editFlagsRect (aceMode : AceMode) (f : CellFlags → CellFlags) :
    Paints B g (g.editFlagsRect area aceMode f) := by
  refine paints_lines fun i x _ _ hx => ((Paints.refl x).editRow ..).markSpan _ fun hb => ?_
  obtain ⟨hle, hright⟩ := h hb
  rw [hx]
  unfold lineExtent
  cases aceMode with
  | rectangle => exact ⟨hle, hright⟩
  | stream =>
    dsimp only
    constructor
    · split
      · split <;> omega
      · exact Nat.zero_le _
    · split <;> omega

variable (params : List Nat) (aceMode : AceMode)

theorem paints_applySgrRect : Paints B g (g.applySgrRect area params aceMode) := by
  unfold applySgrRect
  dsimp only
  split
  · exact .refl g
  · exact paints_editFlagsRect h ..

theorem paints_reverseSgrRect : Paints B g (g.reverseSgrRect area params aceMode) := by
  unfold reverseSgrRect
  dsimp only
  split
  · exact .refl g
  · exact paints_editFlagsRect h ..

end

/-- The destination is clipped to the screen. -/
theorem paints_copyRect (src : RectArea) (dstTop : Nat) {dstLeft : Nat} (h : B → dstLeft < g.cols) :
    Paints B g (g.copyRect src dstTop dstLeft) := by
  refine paints_lines fun i x _ _ hx => ((paints_clearEdges ..).editRow ..).markSpan _ fun hb => ?_
  have hleft := h hb
  omega

theorem paints_fillScreen (g : Grid) (f : Cell → Cell) : Paints B g (g.fillScreen f) := by
  refine (paints_lines fun i x _ _ _ => ?_).markAll
  exact paints_lines fun col y _ _ _ => (Paints.refl y).editCell ..

end Grid

end OriTerm
