import OriTerm.Core.CopyRect
import OriTerm.Core.DirtyDrain

/-!
# `Core.MarkBounds` — the bounds that edits pass to the damage tracker

An operation of the grid passes to its tracker only columns that are on the screen and in order: `Marks g g'` says that
`g'` got its damage from that of `g` in this way, and is walked through like `Tracked`.

The exceptions are ECH, EL 0 and ED 0 in the wrap-pending column, where the erased range is empty and its bounds are
swapped (`GridOp.ErasesPastEnd`). **`damage_sound`** has both halves: what a drain reports in every run of the tracker,
and that the tracker of every grid reached is used within bounds.
-/

namespace OriTerm

open Lib Lib.Bitflags CellFlags

/-! ## Marks within bounds -/

/-- The operation only adds damage, or changes the dimensions. -/
def DirtyOp.IsMark : DirtyOp → Prop
  | drain _ => False
  | _ => True

/-- `d'` is `d` after marks within bounds. -/
def DirtyTracker.Passes (d d' : DirtyTracker) : Prop :=
  ∃ ops : List DirtyOp, (∀ op ∈ ops, op.IsMark) ∧ Along DirtyOp.apply (fun d op => op.InBounds d) d ops
    ∧ d' = run DirtyOp.apply d ops

namespace DirtyTracker

variable {d d' d'' : DirtyTracker}

theorem Passes.refl (d : DirtyTracker) : Passes d d := ⟨[], nofun, trivial, rfl⟩

theorem Passes.trans (h : Passes d d') (h' : Passes d' d'') : Passes d d'' := by
  obtain ⟨ops, hmarks, hbounds, rfl⟩ := h
  obtain ⟨ops', hmarks', hbounds', rfl⟩ := h'
  refine ⟨ops ++ ops', fun op hop => ?_, ?_, ?_⟩
  · exact (List.mem_append.mp hop).elim (hmarks op) (hmarks' op)
  · rw [along_append]
    exact ⟨hbounds, hbounds'⟩
  · rw [run_append]

theorem Passes.op (op : DirtyOp) (hmark : op.IsMark) (hbounds : op.InBounds d) : Passes d (op.apply d) :=
  ⟨[op], by simpa using hmark, ⟨hbounds, trivial⟩, rfl⟩

end DirtyTracker

namespace Grid

open DirtyTracker

/-- **The damage of `g'` comes from marks within bounds**, as long as the tracker has the width of the grid. -/
structure Marks (g g' : Grid) : Prop where
  cols : g'.cols = g.cols
  dirtyCols : g'.dirty.cols = g.dirty.cols
  passes : g.dirty.cols = g.cols → g.dirty.Passes g'.dirty

variable {g g' g'' : Grid}

theorem Marks.refl (g : Grid) : Marks g g := ⟨rfl, rfl, fun _ => .refl _⟩

section

variable (h : Marks g g')
include h

theorem Marks.trans (h' : Marks g' g'') : Marks g g'' :=
  ⟨h'.cols.trans h.cols, h'.dirtyCols.trans h.dirtyCols,
    fun hw => (h.passes hw).trans (h'.passes (h.dirtyCols.trans (hw.trans h.cols.symm)))⟩

/-- Whatever leaves the damage alone. -/
theorem Marks.same (hcols : g''.cols = g'.cols) (hdirty : g''.dirty = g'.dirty) : Marks g g'' :=
  h.trans ⟨hcols, congrArg _ hdirty, fun _ => by rw [hdirty]; exact .refl _⟩

theorem Marks.editCell (line col : Nat) (f : Cell → Cell) : Marks g (g'.editCell line col f) :=
  h.same rfl rfl

theorem Marks.setCol (col : Nat) : Marks g (g'.setCol col) := h.same rfl rfl

/-- A mark by itself. -/
theorem Marks.dirtyOp (op : DirtyOp) (hmark : op.IsMark) (hbounds : g'.dirty.cols = g'.cols → op.InBounds g'.dirty)
    (hcols : (op.apply g'.dirty).cols = g'.dirty.cols) : Marks g { g' with dirty := op.apply g'.dirty } :=
  h.trans ⟨rfl, hcols, fun hw => .op op hmark (hbounds hw)⟩

theorem Marks.markLine (line : Nat) : Marks g (g'.markLine line) :=
  h.dirtyOp (.mark line) trivial (fun _ => trivial) rfl

theorem Marks.markAll : Marks g g'.markAll :=
  h.dirtyOp .markAll trivial (fun _ => trivial) rfl

theorem Marks.markRange (start stop : Nat) : Marks g (g'.markRange start stop) :=
  h.dirtyOp (.markRange start stop) trivial (fun _ => trivial) (DirtyTracker.grows_markRange ..).cols

theorem Marks.markCols (line : Nat) {left right : Nat} (hle : left ≤ right) (hright : right < g.cols) :
    Marks g (g'.markCols line left right) :=
  h.dirtyOp (.markCols line left right) trivial (fun hw => ⟨hle, by rw [hw, h.cols]; exact hright⟩) rfl

end

/-- Edits that mark columns of the screen only. -/
theorem Paints.marks (h : Paints True g g') : Marks g g' := by
  induction h with
  | refl => exact .refl g
  | same _ hcols hdirty _ _ ih => exact ih.same hcols hdirty
  | markLine _ line ih => exact ih.markLine line
  | markAll _ ih => exact ih.markAll
  | markRange _ start stop ih => exact ih.markRange start stop
  | markSpan _ line hin ih => exact ih.markCols line (hin trivial).1 (hin trivial).2

/-! ### Characters -/

theorem marks_putCharAscii {ch : Char} (h : g.putCharAscii ch = some g') : Marks g g' := by
  unfold putCharAscii at h
  dsimp only at h
  split at h
  · cases h
  · next hcol =>
    split at h
    · cases h
    · cases h
      exact (((Marks.refl g).editCell ..).setCol _).markCols _ (Nat.le_refl _) (by omega)

/-- A write where the character fits. -/
theorem marks_writeChar (hm : g.rightMargin < g.cols) {width : Nat} (ch : Char) (h : g.wrapWrite width = none) :
    Marks g (g.writeChar width ch) := by
  have hedge := rightEdge_le hm
  have hcol : g.cursor.col < g.rightEdge ∧ (width = 2 → g.cursor.col + 1 < g.rightEdge) := by
    unfold wrapWrite at h
    split at h
    · cases h
    · split at h
      · cases h
      · omega
  have hdraw := (paints_clearWideCharAt (B := True) g g.cursor.line g.cursor.col).editCell g.cursor.line
    g.cursor.col (Cell.draw g.cursor.template ch)
  unfold writeChar
  split
  · next hwide =>
    exact ((hdraw.trans (paints_writeSpacer ..)).marks.setCol _).markCols _ (Nat.le_succ _) (by omega)
  · exact (hdraw.marks.setCol _).markCols _ (Nat.le_refl _) (by omega)

/-! ### Scrolls and moves -/

section

variable (g)

variable (count : Nat)

theorem marks_moveCursorLine (line : Nat) : Marks g (g.moveCursorLine line) := by
  have hmoved : Marks g ((g.markLine g.cursor.line).setLine line) := ((Marks.refl g).markLine _).same rfl rfl
  exact hmoved.markLine _

theorem marks_moveCursorCol (col : Nat) : Marks g (g.moveCursorCol col) :=
  ((Marks.refl g).markLine _).setCol _

theorem marks_backspace : Marks g g.backspace := by
  unfold backspace
  by_cases hpending : g.cursor.col ≥ g.cols
  · rw [if_pos hpending]
    exact marks_moveCursorCol ..
  · rw [if_neg hpending]
    by_cases hbound : g.cursor.col > if g.cursorInMarginBand then g.leftMargin else 0
    · rw [if_pos hbound]
      exact marks_moveCursorCol ..
    · rw [if_neg hbound]
      exact .refl g

theorem marks_restoreCursor : Marks g g.restoreCursor := by
  have hrestored : Marks g { g.markLine g.cursor.line with cursor := g.savedCursor.getD {} } :=
    ((Marks.refl g).markLine _).same rfl rfl
  exact hrestored.markLine _

theorem marks_linefeed : Marks g g.linefeed := by
  unfold linefeed
  dsimp only
  split
  · exact (paints_scrollUp g 1).marks
  · split
    · exact marks_moveCursorLine ..
    · exact .refl g

theorem marks_reverseIndex : Marks g g.reverseIndex := by
  unfold reverseIndex
  dsimp only
  split
  · exact (paints_scrollRange ..).2.marks
  · split
    · exact marks_moveCursorLine ..
    · exact .refl g

end

/-- A wrapped character is written where it fits. -/
theorem marks_putChar (hg : Wf g) (width : Nat) (ch : Char) : Marks g (g.putChar width ch) := by
  unfold putChar putCharSlow
  split
  · exact .refl g
  · rw [putCharLoop_settles ch hg.toFramed hg.toMarginsOk (by omega) (Nat.le_refl _)]
    cases h : g.wrapWrite width with
    | none => exact marks_writeChar hg.right ch h
    | some g' =>
      have hsettled := wrapWrite_wrapStep hg.toFramed hg.toMarginsOk (by omega) h
      obtain ⟨col, f, rfl⟩ := wrapWrite_eq h
      have hedit := edits_editCell g g.cursor.line col f
      have hfeed := scrolls_linefeed (S := nothing) (hedit.framed hg.toFramed)
      have hmargins := (hg.toMarginsOk.of_band hedit.toBandKept hedit.cols).of_band hfeed.toBandKept hfeed.cols
      have hwrapped : Marks g (g.wrapStep (g.editCell g.cursor.line col f)) :=
        (((Marks.refl g).editCell ..).trans (marks_linefeed _)).setCol _
      have hright : (g.wrapStep (g.editCell g.cursor.line col f)).rightMargin
          < (g.wrapStep (g.editCell g.cursor.line col f)).cols := hmargins.right
      exact hwrapped.trans (marks_writeChar hright ch hsettled)

/-! ### Columns and areas -/

section

variable {area : RectArea} (h : g.InRange area)
include h

end

/-! ### Resizes -/

theorem passes_resizeRows (g : Grid) (newLines : Nat) : g.dirty.Passes (g.resizeRows newLines).dirty := by
  unfold resizeRows
  split
  · exact .refl _
  · have hkept : (if newLines < g.lines then g.shrinkRows newLines else g.growRows newLines).dirty = g.dirty := by
      split
      · rfl
      · exact (growRows_keeps newLines).2
    dsimp only
    rw [hkept]
    exact .op (.resize newLines _) trivial trivial

theorem passes_finalizeResize (h : g.dirty.Passes g'.dirty) : g.dirty.Passes g'.finalizeResize.dirty :=
  h.trans (.op (.resize g'.lines g'.cols) trivial trivial)

/-- A resize passes the new dimensions, perhaps in two steps. -/
theorem passes_resize (hg : Wf g) (newLines newCols : Nat) (reflow : Bool) :
    g.dirty.Passes (g.resize newLines newCols reflow).1.dirty := by
  have hrows := passes_resizeRows g newLines
  unfold resize
  by_cases hzero : newCols = 0 ∨ newLines = 0
  · rw [if_pos hzero]
    exact .refl _
  rw [if_neg hzero]
  by_cases hsame : newCols = g.cols ∧ newLines = g.lines
  · rw [if_pos hsame]
    exact .refl _
  rw [if_neg hsame]
  by_cases href : reflow = true ∧ newCols ≠ g.cols
  · rw [if_pos href]
    by_cases hgrow : newCols > g.cols
    · rw [if_pos hgrow]
      obtain ⟨-, -, -, -, hdirty⟩ := reflowCols_spec g (Ne.symm href.2) fun h => hzero (.inl h)
      have hreflowed : g.dirty = ((g.reflowCols newCols).1.setCols newCols).dirty := hdirty.symm
      refine passes_finalizeResize ?_
      rw [hreflowed]
      exact passes_resizeRows ..
    · rw [if_neg hgrow]
      have hcols := (rowsResized_resizeRows ⟨hg.rows, hg.width⟩ newLines).cols
      have hne : (g.resizeRows newLines).cols ≠ newCols := by
        rw [hcols]
        exact Ne.symm href.2
      obtain ⟨-, -, -, -, hdirty⟩ := reflowCols_spec (g.resizeRows newLines) hne fun h => hzero (.inl h)
      refine passes_finalizeResize ?_
      show g.dirty.Passes ((g.resizeRows newLines).reflowCols newCols).1.dirty
      rw [hdirty]
      exact hrows
  · rw [if_neg href]
    refine passes_finalizeResize ?_
    unfold resizeNoReflow
    dsimp only
    split <;> exact hrows

end Grid

/-! ## Every operation -/

namespace GridEdit

/-- The callers' promise, which the operations on areas assert: the area lies on the screen. -/
def OnScreen (g : Grid) : GridEdit → Prop
  | fillRect area _ | eraseRectAll area _ | eraseRectUnprotected area _ => g.InRange area
  | applySgrRect area _ _ | reverseSgrRect area _ _ => g.InRange area
  | copyRect src dstTop dstLeft => g.InRange src ∧ dstTop < g.lines ∧ dstLeft < g.cols
  | _ => True

/-- ECH and EL 0 in the wrap-pending column: there is no cell to erase. -/
def ErasesPastEnd (g : Grid) : GridEdit → Prop
  | eraseChars count => count ≠ 0 ∧ g.cols ≤ g.cursor.col
  | eraseLine mode => mode = .right ∧ g.cols ≤ g.cursor.col
  | _ => False

open Grid in
/-- **An edit passes bounds that are on the screen and in order.** -/
theorem marks {g : Grid} (hg : g.Wf) {e : GridEdit} (hin : e.OnScreen g) (hpast : ¬e.ErasesPastEnd g) :
    g.Marks (e.apply g) := by
  have hpos : 0 < g.cols := Nat.zero_lt_of_lt hg.right
  have hkept : ∀ g' : Grid, g'.cols = g.cols → g'.dirty = g.dirty → g.Marks g' := fun _ => (Marks.refl g).same
  cases e with
  | putCharAscii ch =>
    show g.Marks ((g.putCharAscii ch).getD g)
    cases hput : g.putCharAscii ch with
    | none => exact .refl g
    | some g' => exact marks_putCharAscii hput
  | pushZerowidth ch => exact (paints_pushZerowidth hpos ch).marks
  | insertBlank count => exact (paints_insertBlank g count).marks
  | deleteChars count => exact (paints_deleteChars g count).marks
  | eraseChars count =>
    refine (paints_eraseChars count fun _ => ?_).marks
    by_contra hbad
    exact hpast ⟨fun h => hbad (.inl h), Nat.le_of_not_lt fun h => hbad (.inr h)⟩
  | eraseLine mode =>
    refine (paints_eraseLineWithTemplate (fun _ => hpos) mode _ fun _ hright => ?_).marks
    exact Nat.lt_of_not_le fun h => hpast ⟨hright, h⟩
  | moveUp | moveDown | moveToLine => exact marks_moveCursorLine ..
  | moveForward | moveBackward | moveToColumn | carriageReturn | tab | tabBackward => exact marks_moveCursorCol ..
  | moveTo line col => exact (marks_moveCursorLine ..).trans (marks_moveCursorCol ..)
  | backspace => exact marks_backspace g
  | setTabStop =>
    show g.Marks g.setTabStop
    unfold Grid.setTabStop
    split <;> exact hkept _ rfl rfl
  | clearTabStop mode =>
    show g.Marks (g.clearTabStop mode)
    unfold Grid.clearTabStop
    repeat' split
    all_goals exact hkept _ rfl rfl
  | saveCursor | clearSavedCursor | setLine | setCol | editTemplate | clearSgrStack => exact hkept _ rfl rfl
  | restoreCursor => exact marks_restoreCursor g
  | pushSgr =>
    show g.Marks g.pushSgr
    unfold Grid.pushSgr
    split <;> exact hkept _ rfl rfl
  | popSgr =>
    show g.Marks g.popSgr
    unfold Grid.popSgr
    split <;> exact hkept _ rfl rfl
  | scrollLeft | scrollRight => exact (paints_scrollColumns ..).marks
  | insertColumns count atCol => exact (paints_insertColumns hg.toMarginsOk count atCol).marks
  | deleteColumns count atCol => exact (paints_deleteColumns hg.toMarginsOk count atCol).marks
  | fillRect area template => exact (paints_fillRect (fun _ => hin.2) template).marks
  | eraseRectAll area bg => exact (paints_fillRect (fun _ => hin.2) _).marks
  | eraseRectUnprotected area bg => exact (paints_eraseRectUnprotected (fun _ => hin.2) bg).marks
  | applySgrRect area params aceMode => exact (paints_applySgrRect (fun _ => hin.2) params aceMode).marks
  | reverseSgrRect area params aceMode => exact (paints_reverseSgrRect (fun _ => hin.2) params aceMode).marks
  | copyRect src dstTop dstLeft => exact (paints_copyRect src dstTop fun _ => hin.2.2).marks
  | fillScreen f => exact (paints_fillScreen g f).marks
  | markAll => exact (Marks.refl g).markAll

end GridEdit

namespace GridOp

def OnScreen (g : Grid) : GridOp → Prop
  | edit e => e.OnScreen g
  | _ => True

/-- ED 0 in the wrap-pending column begins with EL 0. -/
def ErasesPastEnd (g : Grid) : GridOp → Prop
  | edit e => e.ErasesPastEnd g
  | eraseDisplay mode => mode = .below ∧ g.cols ≤ g.cursor.col
  | _ => False

open Grid in
/-- **An operation passes bounds that are on the screen and in order**, and new dimensions when it resizes. -/
theorem passes {g : Grid} (hg : g.Wf) {op : GridOp} (hin : op.OnScreen g) (hpast : ¬op.ErasesPastEnd g) :
    g.dirty.Passes (op.apply g).dirty := by
  have hpos : 0 < g.cols := Nat.zero_lt_of_lt hg.right
  have hmarks : ∀ g' : Grid, g.Marks g' → g.dirty.Passes g'.dirty := fun _ h => h.passes hg.dirtyCols
  have hkept : ∀ g' : Grid, g'.cols = g.cols → g'.dirty = g.dirty → g.dirty.Passes g'.dirty :=
    fun g' hcols hdirty => hmarks g' ((Marks.refl g).same hcols hdirty)
  cases op with
  | edit e => exact hmarks _ (e.marks hg hin hpast)
  | putChar width ch => exact hmarks _ (marks_putChar hg width ch)
  | linefeed => exact hmarks _ (marks_linefeed g)
  | nextLine => exact hmarks _ ((marks_moveCursorCol ..).trans (marks_linefeed _))
  | reverseIndex => exact hmarks _ (marks_reverseIndex g)
  | scrollUp count => exact hmarks _ (paints_scrollUp g count).marks
  | scrollDown count => exact hmarks _ (paints_scrollRange ..).2.marks
  | insertLines count => exact hmarks _ (paints_insertLines g count).marks
  | deleteLines count => exact hmarks _ (paints_deleteLines g count).marks
  | eraseDisplay mode =>
    refine hmarks _ (paints_eraseDisplay (fun _ => hpos) mode fun _ hbelow => ?_).marks
    exact Nat.lt_of_not_le fun h => hpast ⟨hbelow, h⟩
  | setScrollRegion top bottom =>
    show g.dirty.Passes (g.setScrollRegion top bottom).dirty
    unfold Grid.setScrollRegion
    dsimp only
    split <;> exact hkept _ rfl rfl
  | setLeftRightMargins left right =>
    show g.dirty.Passes (g.setLeftRightMargins left right).dirty
    unfold Grid.setLeftRightMargins
    split <;> exact hkept _ rfl rfl
  | resetLeftRightMargins => exact hkept _ rfl rfl
  | scrollDisplay delta =>
    show g.dirty.Passes (g.scrollDisplay delta).dirty
    unfold Grid.scrollDisplay
    dsimp only
    split
    · exact .op .markAll trivial trivial
    · exact .refl _
  | reset => exact .op .markAll trivial trivial
  | resize newLines newCols reflow => exact passes_resize hg newLines newCols reflow

end GridOp

/-! ## Damage tracking -/

namespace DirtyTracker

/-- **Damage tracking.** At every point of a run of the tracker a drain reports what was marked (`Reports`), and at
    every point of a run of the grid an operation marks columns of the screen, from left to right, unless it erases
    past the end of a line. -/
theorem damage_sound :
    (∀ (numLines cols : Nat) (ops : List DirtyOp),
        Along DirtyOp.apply (fun d op => op.InBounds d) (.new numLines cols) ops →
        ∀ taken,
          Reports (run DirtyOp.damage (.new numLines cols) ops) (run DirtyOp.apply (.new numLines cols) ops) taken)
      ∧ ∀ (lines cols maxScrollback : Nat) (ops : List GridOp) (op : GridOp), 0 < cols →
        op.OnScreen (run GridOp.apply (.withScrollback lines cols maxScrollback) ops) →
        ¬op.ErasesPastEnd (run GridOp.apply (.withScrollback lines cols maxScrollback) ops) →
        (run GridOp.apply (.withScrollback lines cols maxScrollback) ops).dirty.Passes
          (op.apply (run GridOp.apply (.withScrollback lines cols maxScrollback) ops)).dirty :=
  ⟨fun numLines cols _ hops taken => reports_run numLines cols hops taken,
    fun lines _ maxScrollback ops _ hpos hin hpast =>
      GridOp.passes (Grid.wf_run (Grid.wf_withScrollback lines maxScrollback hpos) ops) hin hpast⟩

/-- A partial drain after marks of both kinds, and EL 0 behind a character. -/
theorem damage_sound_partial :
    Reports (run DirtyOp.damage (.new 2 4) [.markCols 0 1 2, .markAll]) (run DirtyOp.apply (.new 2 4)
        [.markCols 0 1 2, .markAll]) 1
      ∧ (run GridOp.apply (.withScrollback 1 2 0) [.putChar 1 'a']).dirty.Passes
        (GridOp.apply (run GridOp.apply (.withScrollback 1 2 0) [.putChar 1 'a']) (.edit (.eraseLine .right))).dirty :=
  ⟨damage_sound.1 2 4 [.markCols 0 1 2, .markAll] (by decide) 1,
    damage_sound.2 1 2 0 [.putChar 1 'a'] (.edit (.eraseLine .right)) (by decide) trivial
      fun hpast => absurd hpast.2 (by decide)⟩

end DirtyTracker

end OriTerm
