import OriTerm.Core.Resize

/-!
# `Core.GridOp` — the operations of the grid as one step function

`GridOp` lists the operations a terminal performs on a grid and `GridOp.apply` performs them, so that a run of
the grid is a `Lib.run` of operations. Those that only edit visible rows in place, move the cursor or touch the
damage are grouped as `GridEdit`.

What one operation does is said once. `GridEdit.tracked` covers the edits in place; `GridOp.keeps` covers all:
the grid stays well formed, the widths stay uniform unless a plain column resize breaks them
(`GridOp.KeepsWidths`), and every visible change is covered by the damage unless a wrap forgets to mark
(`GridOp.Marks`). The damage is in screen lines; what a scrolled-back view shows is only safe from the operations
that write no row at all (`GridOp.Silent`).
-/

namespace OriTerm

open Lib List

namespace Grid

/-- The fill of DECALN: `f` on every visible cell, then everything is marked. -/
def fillScreen (g : Grid) (f : Cell → Cell) : Grid :=
  (forRange 0 g.lines (fun line g =>
    forRange 0 g.cols (fun col g => g.editCell line col f) g) g).markAll

/-- Frame and margins: what every operation keeps. -/
structure Wf (g : Grid) : Prop extends Framed g, MarginsOk g

theorem wf_withScrollback (lines maxScrollback : Nat) {cols : Nat} (h : 0 < cols) :
    Wf (withScrollback lines cols maxScrollback) := by
  refine ⟨⟨length_replicate .., ?_, length_replicate .., rfl⟩, ⟨?_, .inr ⟨rfl, ?_⟩⟩⟩
  · intro r hr
    obtain rfl := eq_of_mem_replicate hr
    exact Row.cols_new cols
  · show cols - 1 < cols
    omega
  · show cols - 1 + 1 = cols
    omega

end Grid

/-- Operations that edit visible rows in place, move the cursor or mark damage. -/
inductive GridEdit where
  | putCharAscii (ch : Char)
  | pushZerowidth (ch : Char)
  | insertBlank (count : Nat)
  | deleteChars (count : Nat)
  | eraseChars (count : Nat)
  | eraseLine (mode : LineEraseMode)
  | moveUp (count : Nat)
  | moveDown (count : Nat)
  | moveForward (count : Nat)
  | moveBackward (count : Nat)
  | moveTo (line col : Nat)
  | moveToColumn (col : Nat)
  | moveToLine (line : Nat)
  | carriageReturn
  | backspace
  | tab
  | tabBackward
  | setTabStop
  | clearTabStop (mode : TabClearMode)
  | saveCursor
  | restoreCursor
  | clearSavedCursor
  | setLine (line : Nat)
  | setCol (col : Nat)
  | editTemplate (f : Cell → Cell)
  | pushSgr
  | popSgr
  | clearSgrStack
  | scrollLeft (count : Nat)
  | scrollRight (count : Nat)
  | insertColumns (count atCol : Nat)
  | deleteColumns (count atCol : Nat)
  | fillRect (area : RectArea) (template : Cell)
  | eraseRectAll (area : RectArea) (bg : Color)
  | eraseRectUnprotected (area : RectArea) (bg : Color)
  | applySgrRect (area : RectArea) (params : List Nat) (aceMode : AceMode)
  | reverseSgrRect (area : RectArea) (params : List Nat) (aceMode : AceMode)
  | copyRect (src : RectArea) (dstTop dstLeft : Nat)
  | fillScreen (f : Cell → Cell)
  | markAll

/-- The operations of a grid. -/
inductive GridOp where
  | edit (e : GridEdit)
  | putChar (width : Nat) (ch : Char)
  | linefeed
  | nextLine
  | reverseIndex
  | scrollUp (count : Nat)
  | scrollDown (count : Nat)
  | insertLines (count : Nat)
  | deleteLines (count : Nat)
  | eraseDisplay (mode : DisplayEraseMode)
  | setScrollRegion (top : Nat) (bottom : Option Nat)
  | setLeftRightMargins (left right : Nat)
  | resetLeftRightMargins
  | scrollDisplay (delta : Int)
  | reset
  | resize (newLines newCols : Nat) (reflow : Bool)

namespace GridEdit

/-- Performs an edit. -/
def apply (g : Grid) : GridEdit → Grid
  | putCharAscii ch => (g.putCharAscii ch).getD g
  | pushZerowidth ch => g.pushZerowidth ch
  | insertBlank count => g.insertBlank count
  | deleteChars count => g.deleteChars count
  | eraseChars count => g.eraseChars count
  | eraseLine mode => g.eraseLine mode
  | moveUp count => g.moveUp count
  | moveDown count => g.moveDown count
  | moveForward count => g.moveForward count
  | moveBackward count => g.moveBackward count
  | moveTo line col => g.moveTo line col
  | moveToColumn col => g.moveToColumn col
  | moveToLine line => g.moveToLine line
  | carriageReturn => g.carriageReturn
  | backspace => g.backspace
  | tab => g.tab
  | tabBackward => g.tabBackward
  | setTabStop => g.setTabStop
  | clearTabStop mode => g.clearTabStop mode
  | saveCursor => g.saveCursor
  | restoreCursor => g.restoreCursor
  | clearSavedCursor => g.clearSavedCursor
  | setLine line => g.setLine line
  | setCol col => g.setCol col
  | editTemplate f => g.editTemplate f
  | pushSgr => g.pushSgr
  | popSgr => g.popSgr
  | clearSgrStack => g.clearSgrStack
  | scrollLeft count => g.scrollLeft count
  | scrollRight count => g.scrollRight count
  | insertColumns count atCol => g.insertColumns count atCol
  | deleteColumns count atCol => g.deleteColumns count atCol
  | fillRect area template => g.fillRect area template
  | eraseRectAll area bg => g.eraseRectAll area bg
  | eraseRectUnprotected area bg => g.eraseRectUnprotected area bg
  | applySgrRect area params aceMode => g.applySgrRect area params aceMode
  | reverseSgrRect area params aceMode => g.reverseSgrRect area params aceMode
  | copyRect src dstTop dstLeft => g.copyRect src dstTop dstLeft
  | fillScreen f => g.fillScreen f
  | markAll => g.markAll

end GridEdit

/-- Performs an operation. -/
def GridOp.apply (g : Grid) : GridOp → Grid
  | edit e => e.apply g
  | putChar width ch => g.putChar width ch
  | linefeed => g.linefeed
  | nextLine => g.nextLine
  | reverseIndex => g.reverseIndex
  | scrollUp count => g.scrollUp count
  | scrollDown count => g.scrollDown count
  | insertLines count => g.insertLines count
  | deleteLines count => g.deleteLines count
  | eraseDisplay mode => g.eraseDisplay mode
  | setScrollRegion top bottom => g.setScrollRegion top bottom
  | setLeftRightMargins left right => g.setLeftRightMargins left right
  | resetLeftRightMargins => g.resetLeftRightMargins
  | scrollDisplay delta => g.scrollDisplay delta
  | reset => g.reset
  | resize newLines newCols reflow => (g.resize newLines newCols reflow).1

namespace Grid

variable {S S' : Nat → Nat → Prop} {g g' g'' : Grid}

/-! ## Edits in place -/

theorem tracked_fillScreen (g : Grid) (f : Cell → Cell) : Tracked g (g.fillScreen f) := by
  refine Edits.markAll (S := fun _ _ => True) ?_
  refine forRange_invariant (fun line x _ _ hx => ?_) (.refl _ g)
  exact forRange_invariant
    (fun col y _ _ hy => hy.editCell line col f trivial) hx

/-- **Every edit is tracked.** -/
theorem tracked_edit (hg : Framed g) (e : GridEdit) : Tracked g (e.apply g) := by
  cases e with
  | putCharAscii ch =>
    show Tracked g ((g.putCharAscii ch).getD g)
    cases h : g.putCharAscii ch with
    | none => exact .refl _ g
    | some g' => exact tracked_putCharAscii h
  | pushZerowidth ch => exact tracked_pushZerowidth g ch
  | insertBlank count => exact tracked_insertBlank g count
  | deleteChars count => exact tracked_deleteChars g count
  | eraseChars count => exact tracked_eraseChars g count
  | eraseLine mode => exact tracked_eraseLine hg mode
  | moveUp | moveDown | moveToLine => exact tracked_moveCursorLine ..
  | moveForward | moveBackward | moveToColumn | carriageReturn | tab | tabBackward => exact tracked_moveCursorCol ..
  | moveTo line col => exact tracked_moveTo g line col
  | backspace => exact tracked_backspace g
  | setTabStop => exact tracked_setTabStop g
  | clearTabStop mode => exact tracked_clearTabStop g mode
  | saveCursor => exact tracked_saveCursor g
  | restoreCursor => exact tracked_restoreCursor g
  | clearSavedCursor | clearSgrStack => exact .fields ..
  | setLine line => exact edits_setLine g line
  | setCol col => exact edits_setCol g col
  | editTemplate f => exact edits_editTemplate g f
  | pushSgr => exact tracked_pushSgr g
  | popSgr => exact tracked_popSgr g
  | scrollLeft count => exact tracked_scrollColumns g count Row.shape_shiftLeft
  | scrollRight count => exact tracked_scrollColumns g count Row.shape_shiftRight
  | insertColumns count atCol => exact tracked_insertColumns g count atCol
  | deleteColumns count atCol => exact tracked_deleteColumns g count atCol
  | fillRect area template => exact tracked_fillRect g area template
  | eraseRectAll area bg => exact tracked_fillRect g area _
  | eraseRectUnprotected area bg => exact tracked_eraseRectUnprotected g area bg
  | applySgrRect area params aceMode => exact tracked_applySgrRect g area params aceMode
  | reverseSgrRect area params aceMode => exact tracked_reverseSgrRect g area params aceMode
  | copyRect src dstTop dstLeft => exact tracked_copyRect g src dstTop dstLeft
  | fillScreen f => exact tracked_fillScreen g f
  | markAll => exact (Edits.refl nothing g).markAll

/-! ## Edits that write no cell -/

/-- The rows, the history and the view on them are where they were. -/
structure Still (g g' : Grid) : Prop where
  rows : g'.rows = g.rows
  scrollback : g'.scrollback = g.scrollback
  displayOffset : g'.displayOffset = g.displayOffset

@[refl] theorem Still.refl (g : Grid) : Still g g := ⟨rfl, rfl, rfl⟩

theorem Still.trans (h : Still g g') (h' : Still g' g'') : Still g g'' :=
  ⟨h'.rows.trans h.rows, h'.scrollback.trans h.scrollback, h'.displayOffset.trans h.displayOffset⟩

theorem still_carriageReturn (g : Grid) : Still g g.carriageReturn := ⟨rfl, rfl, rfl⟩

theorem still_linefeed (h : g.linefeedScrolls = false) : Still g g.linefeed := by
  have hline : g.cursor.line + 1 ≠ g.regionEnd := by simpa [linefeedScrolls] using h
  unfold linefeed
  rw [if_neg hline]
  split
  · exact ⟨rfl, rfl, rfl⟩
  · exact .refl g

theorem still_reverseIndex (h : g.cursor.line ≠ g.regionStart) : Still g g.reverseIndex := by
  unfold reverseIndex
  rw [if_neg h]
  split
  · exact ⟨rfl, rfl, rfl⟩
  · exact .refl g

end Grid

namespace GridEdit

/-- The edit writes no cell. -/
def Silent : GridEdit → Prop
  | moveUp _ | moveDown _ | moveForward _ | moveBackward _ | moveTo _ _ | moveToColumn _ | moveToLine _ => True
  | carriageReturn | backspace | tab | tabBackward | setTabStop | clearTabStop _ => True
  | saveCursor | restoreCursor | clearSavedCursor | setLine _ | setCol _ | editTemplate _ => True
  | pushSgr | popSgr | clearSgrStack | markAll => True
  | _ => False

instance (e : GridEdit) : Decidable e.Silent := by
  cases e <;> (unfold Silent; infer_instance)

/-- A silent edit leaves the rows alone, and no edit moves the history. -/
theorem still {g : Grid} (hg : g.Framed) {e : GridEdit} (h : e.Silent) : Grid.Still g (e.apply g) := by
  have htracked := Grid.tracked_edit hg e
  refine ⟨?_, htracked.scrollback, htracked.displayOffset⟩
  cases e with
  | backspace =>
    show (Grid.backspace g).rows = g.rows
    unfold Grid.backspace
    generalize (if g.cursorInMarginBand = true then g.leftMargin else 0) = bound
    dsimp only
    split
    · rfl
    · split <;> rfl
  | setTabStop =>
    show (Grid.setTabStop g).rows = g.rows
    unfold Grid.setTabStop
    split <;> rfl
  | clearTabStop mode =>
    show (Grid.clearTabStop g mode).rows = g.rows
    unfold Grid.clearTabStop
    split
    · split <;> rfl
    · rfl
  | pushSgr =>
    show (Grid.pushSgr g).rows = g.rows
    unfold Grid.pushSgr
    split <;> rfl
  | popSgr =>
    show (Grid.popSgr g).rows = g.rows
    unfold Grid.popSgr
    split <;> rfl
  | putCharAscii | pushZerowidth | insertBlank | deleteChars | eraseChars | eraseLine | scrollLeft
  | scrollRight | insertColumns | deleteColumns | fillRect | eraseRectAll | eraseRectUnprotected | applySgrRect
  | reverseSgrRect | copyRect | fillScreen => exact h.elim
  | moveUp | moveDown | moveForward | moveBackward | moveTo | moveToColumn | moveToLine | carriageReturn | tab
  | tabBackward | saveCursor | restoreCursor | clearSavedCursor | setLine | setCol | editTemplate
  | clearSgrStack | markAll => rfl

end GridEdit

namespace Grid

variable {S S' : Nat → Nat → Prop} {g g' g'' : Grid}

/-! ## All operations -/

/-- **Kept.** What an operation guarantees: well-formedness, uniform widths under the condition `w`, and either
    total damage or a repaint of the live view that owes `S`. -/
structure Keeps (S : Nat → Nat → Prop) (w : Prop) (g g' : Grid) : Prop where
  wf : Wf g'
  uniform : w → HistoryUniform g → HistoryUniform g'
  shown : g'.dirty.allDirty = true ∨ Repaints S g g' ∧ (g.displayOffset = 0 → g'.displayOffset = 0)

theorem Scrolls.keeps {w : Prop} (h : Scrolls S g g') (hg : Wf g) : Keeps S w g g' :=
  ⟨⟨h.framed, hg.toMarginsOk.of_band h.toBandKept h.cols⟩, fun _ => h.uniform, .inr ⟨h.toRepaints, h.live⟩⟩

section

variable {w : Prop} (hg : Wf g)
include hg

theorem keeps_setScrollRegion (top : Nat) (bottom : Option Nat) : Keeps S w g (g.setScrollRegion top bottom) := by
  unfold setScrollRegion
  dsimp only
  split
  · exact (Scrolls.refl hg.toFramed).keeps hg
  · exact ⟨⟨⟨hg.rows, hg.width, hg.dirtyLines, hg.dirtyCols⟩, ⟨hg.right, hg.left⟩⟩, fun _ hu => hu,
      .inr ⟨⟨rfl, rfl, .refl _, fun _ _ _ _ hne => absurd rfl hne⟩, id⟩⟩

/-- New margins that lie on the screen. -/
theorem keeps_margins {left right : Nat} (h : MarginsOk { g with leftMargin := left, rightMargin := right }) :
    Keeps S w g { g with leftMargin := left, rightMargin := right } :=
  ⟨⟨⟨hg.rows, hg.width, hg.dirtyLines, hg.dirtyCols⟩, h⟩, fun _ hu => hu,
    .inr ⟨⟨rfl, rfl, .refl _, fun _ _ _ _ hne => absurd rfl hne⟩, id⟩⟩

theorem keeps_setLeftRightMargins (left right : Nat) : Keeps S w g (g.setLeftRightMargins left right) := by
  unfold setLeftRightMargins
  split
  · next h => exact keeps_margins hg ⟨h.2, .inl h.1⟩
  · exact (Scrolls.refl hg.toFramed).keeps hg

theorem keeps_resetLeftRightMargins : Keeps S w g g.resetLeftRightMargins := by
  have hpos := hg.right
  refine keeps_margins hg ⟨?_, .inr ⟨rfl, ?_⟩⟩
  · show g.cols - 1 < g.cols
    omega
  · show g.cols - 1 + 1 = g.cols
    omega

theorem keeps_scrollDisplay (delta : Int) : Keeps S w g (g.scrollDisplay delta) := by
  unfold scrollDisplay
  dsimp only
  split
  · exact ⟨⟨framed_markAll ⟨hg.rows, hg.width, hg.dirtyLines, hg.dirtyCols⟩, ⟨hg.right, hg.left⟩⟩,
      fun _ hu => hu, .inl rfl⟩
  · exact (Scrolls.refl hg.toFramed).keeps hg

theorem keeps_reset : Keeps S w g g.reset := by
  have hpos := hg.right
  refine ⟨⟨framed_markAll ⟨?_, ?_, hg.dirtyLines, hg.dirtyCols⟩, ⟨?_, .inr ⟨rfl, ?_⟩⟩⟩, fun _ _ r hr => ?_,
    .inl rfl⟩
  · rw [length_map, hg.rows]
  · intro r hr
    obtain ⟨r₀, _, rfl⟩ := mem_map.mp hr
    exact Row.cols_reset ..
  · show g.cols - 1 < g.cols
    omega
  · show g.cols - 1 + 1 = g.cols
    omega
  · cases hr

end

theorem keeps_resize (hg : Wf g) (newLines newCols : Nat) (reflow : Bool) :
    Keeps S (g.ResizeUniform newLines newCols reflow) g (g.resize newLines newCols reflow).1 := by
  rcases resize_spec hg.toFramed newLines newCols reflow with hsame | h
  · rw [hsame]
    exact (Scrolls.refl hg.toFramed).keeps hg
  · exact ⟨⟨h.framed, h.margins⟩, fun hw hu => h.uniform hu hw, .inl h.allDirty⟩

theorem scrolls_nextLine (hg : Framed g) : Scrolls S g g.nextLine := by
  have hret := (tracked_moveCursorCol g (if g.cursorInMarginBand then g.leftMargin else 0)).edits (S := S)
  exact (hret.scrolls hg).trans (scrolls_linefeed (hret.framed hg))

end Grid

namespace GridOp

/-- The operation covers what it changes: all do, but for a wrap that does not mark. -/
def Marks (g : Grid) : GridOp → Prop
  | putChar width _ => g.WrapMarks width
  | _ => True

/-- The operation keeps the widths uniform: all do, but for a resize that leaves narrower or wider rows behind. -/
def KeepsWidths (g : Grid) : GridOp → Prop
  | resize newLines newCols reflow => g.ResizeUniform newLines newCols reflow
  | _ => True

instance (g : Grid) (op : GridOp) : Decidable (op.Marks g) := by
  cases op <;> (unfold Marks; infer_instance)

instance (g : Grid) (op : GridOp) : Decidable (op.KeepsWidths g) := by
  cases op <;> (unfold KeepsWidths; infer_instance)

/-- The operation writes no row and moves no row, or it repaints everything. -/
def Silent (g : Grid) : GridOp → Prop
  | edit e => e.Silent
  | linefeed => g.linefeedScrolls = false
  | nextLine => g.linefeedScrolls = false
  | reverseIndex => g.cursor.line ≠ g.regionStart
  | setScrollRegion _ _ | setLeftRightMargins _ _ | resetLeftRightMargins => True
  | scrollDisplay _ | reset | resize _ _ _ => True
  | _ => False

instance (g : Grid) (op : GridOp) : Decidable (op.Silent g) := by
  cases op <;> (unfold Silent; infer_instance)

/-- **What one operation keeps.** -/
theorem keeps {g : Grid} (hg : g.Wf) (op : GridOp) :
    Grid.Keeps (fun _ _ => ¬ op.Marks g) (op.KeepsWidths g) g (op.apply g) := by
  have hf := hg.toFramed
  cases op with
  | edit e => exact ((Grid.tracked_edit hf e).edits.scrolls hf).keeps hg
  | putChar width ch => exact (Grid.scrolls_putChar width ch hf hg.toMarginsOk).keeps hg
  | linefeed => exact (Grid.scrolls_linefeed hf).keeps hg
  | nextLine => exact (Grid.scrolls_nextLine hf).keeps hg
  | reverseIndex => exact ((Grid.rolls_reverseIndex g).scrolls hf).keeps hg
  | scrollUp count => exact (Grid.scrolls_scrollUp count hf).keeps hg
  | scrollDown count => exact ((Grid.rolls_scrollDown g count).scrolls hf).keeps hg
  | insertLines count => exact ((Grid.rolls_insertLines g count).scrolls hf).keeps hg
  | deleteLines count => exact ((Grid.rolls_deleteLines g count).scrolls hf).keeps hg
  | eraseDisplay mode =>
    exact ((Grid.scrolls_eraseDisplay hf mode).mono fun _ _ hn => hn.elim).keeps hg
  | setScrollRegion top bottom => exact Grid.keeps_setScrollRegion hg top bottom
  | setLeftRightMargins left right => exact Grid.keeps_setLeftRightMargins hg left right
  | resetLeftRightMargins => exact Grid.keeps_resetLeftRightMargins hg
  | scrollDisplay delta => exact Grid.keeps_scrollDisplay hg delta
  | reset => exact Grid.keeps_reset hg
  | resize newLines newCols reflow => exact Grid.keeps_resize hg newLines newCols reflow

/-- A silent operation leaves every view where it is, or repaints everything. -/
theorem still {g : Grid} (hg : g.Wf) {op : GridOp} (h : op.Silent g) :
    (op.apply g).dirty.allDirty = true ∨ Grid.Still g (op.apply g) := by
  cases op with
  | edit e => exact .inr (e.still hg.toFramed h)
  | putChar | scrollUp | scrollDown | insertLines | deleteLines | eraseDisplay => exact h.elim
  | linefeed => exact .inr (Grid.still_linefeed h)
  | nextLine => exact .inr ((Grid.still_carriageReturn g).trans (Grid.still_linefeed h))
  | reverseIndex => exact .inr (Grid.still_reverseIndex h)
  | setScrollRegion top bottom =>
    right
    show Grid.Still g (g.setScrollRegion top bottom)
    unfold Grid.setScrollRegion
    dsimp only
    split <;> exact ⟨rfl, rfl, rfl⟩
  | setLeftRightMargins left right =>
    right
    show Grid.Still g (g.setLeftRightMargins left right)
    unfold Grid.setLeftRightMargins
    split <;> exact ⟨rfl, rfl, rfl⟩
  | resetLeftRightMargins => exact .inr ⟨rfl, rfl, rfl⟩
  | scrollDisplay delta =>
    show (g.scrollDisplay delta).dirty.allDirty = true ∨ Grid.Still g (g.scrollDisplay delta)
    unfold Grid.scrollDisplay
    dsimp only
    split
    · exact .inl rfl
    · exact .inr (.refl g)
  | reset => exact .inl rfl
  | resize newLines newCols reflow =>
    rcases Grid.resize_spec hg.toFramed newLines newCols reflow with hsame | hresized
    · right
      show Grid.Still g (g.resize newLines newCols reflow).1
      rw [hsame]
    · exact .inl hresized.allDirty

/-- What a silent operation leaves behind: whatever the guards of the others, the damage covers it. -/
structure Quiet (g g' : Grid) : Prop where
  wf : g'.Wf
  uniform : g.HistoryUniform → g'.HistoryUniform
  allDirty : g.dirty.allDirty = true → g'.dirty.allDirty = true
  shown : g'.dirty.allDirty = true ∨ Grid.Repaints Grid.nothing g g' ∧ Grid.Still g g'

theorem Quiet.trans {g g' g'' : Grid} (h : Quiet g g') (h' : Quiet g' g'') : Quiet g g'' := by
  refine ⟨h'.wf, h'.uniform ∘ h.uniform, h'.allDirty ∘ h.allDirty, ?_⟩
  rcases h.shown with hd | ⟨hrep, hstill⟩
  · exact .inl (h'.allDirty hd)
  · exact h'.shown.imp id fun hs => ⟨hrep.trans hs.1, hstill.trans hs.2⟩

theorem quiet {g : Grid} (hg : g.Wf) {op : GridOp} (h : op.Silent g) (hw : op.KeepsWidths g) :
    Quiet g (op.apply g) := by
  have hkeeps := op.keeps hg
  have hmarks : op.Marks g := by
    cases op <;> trivial
  refine ⟨hkeeps.wf, hkeeps.uniform hw, fun hd => ?_, ?_⟩
  · rcases hkeeps.shown with hd' | ⟨hrep, _⟩
    · exact hd'
    · exact hrep.dirty.all hd
  · rcases hkeeps.shown with hd | ⟨hrep, _⟩
    · exact .inl hd
    · exact (op.still hg h).imp id fun hstill => ⟨hrep.mono fun _ _ hn => hn hmarks, hstill⟩

/-- Silent operations in a row. -/
theorem quiet_foldl {g : Grid} (hg : g.Wf) {ops : List GridOp}
    (h : ∀ op ∈ ops, ∀ g, op.Silent g ∧ op.KeepsWidths g) : Quiet g (ops.foldl GridOp.apply g) := by
  induction ops generalizing g with
  | nil => exact ⟨hg, id, id, .inr ⟨.refl _ g, .refl g⟩⟩
  | cons op ops ih =>
    obtain ⟨hsilent, hwidths⟩ := h op (mem_cons_self ..) g
    have hop := quiet hg hsilent hwidths
    exact hop.trans (ih hop.wf fun o ho => h o (mem_cons_of_mem _ ho))

end GridOp

/-- **Well-formedness along a run** of a grid. -/
theorem Grid.wf_run {g : Grid} (hg : g.Wf) (ops : List GridOp) : (run GridOp.apply g ops).Wf :=
  run_invariant (fun _ op h => (op.keeps h).wf) hg ops

end OriTerm
