import OriTerm.Core.DirtyTracker
import OriTerm.Core.ScrollbackBuffer

/-!
# `Core.Grid` — visible rows, cursor, history and damage

The grid owns the visible rows, the cursor with its template cell, the scroll region and the margins, the
scrollback ring and the damage tracker. Vectors are lists; where the source indexes past the end it panics,
and here the access reads a blank or does nothing.

The operations live in the modules that follow, as in the source. What this module adds is the vocabulary in
which they are described:

* `Row.shape` — what an edit in place keeps of a row, its identity and its width;
* `Grid.Repaints S g g'` — every visible cell that differs is covered by the damage of `g'` or lies in `S`, the
  damage still owed;
* `Grid.Edits S g g'` — moreover the rows were edited in place and the history did not move. `Tracked` is the
  case where nothing is owed.

`Edits` composes (`Edits.trans`), a row edit owes the cells it touches (`edits_editRow`) and a mark pays
(`Edits.markCols`, `Edits.markLine`, `Edits.markRange`), so that an operation is described by walking through it.
-/

namespace OriTerm

open Lib List

/-- Cursor position and template cell. -/
structure Cursor where
  line : Nat := 0
  col : Nat := 0
  template : Cell := .blank
  deriving DecidableEq, Repr

/-- Saved SGR state for XTPUSHSGR/XTPOPSGR. -/
structure SgrSnapshot where
  flags : CellFlags
  fg : Color
  bg : Color
  underlineColor : Option Color
  deriving DecidableEq, Repr

/-- The 2D terminal cell grid. -/
structure Grid where
  rows : List Row
  cols : Nat
  lines : Nat
  cursor : Cursor
  savedCursor : Option Cursor
  tabStops : List Bool
  /-- DECSTBM scroll region: top inclusive, bottom exclusive. -/
  regionStart : Nat
  regionEnd : Nat
  scrollback : ScrollbackBuffer
  /-- How many lines scrolled back into history. -/
  displayOffset : Nat
  /-- Rows evicted from scrollback. -/
  totalEvicted : Nat
  /-- Scrollback rows created by column reflow that are stale copies of visible content. -/
  resizePushed : Nat
  leftMargin : Nat
  rightMargin : Nat
  dirty : DirtyTracker
  sgrStack : List SgrSnapshot

namespace Grid

variable (g : Grid) (line : Nat)

/-- Tab stops every 8 columns. -/
def initTabStops (cols : Nat) : List Bool := (List.range cols).map (· % 8 == 0)

/-- A grid with explicit scrollback capacity. -/
def withScrollback (lines cols maxScrollback : Nat) : Grid :=
  { rows := List.replicate lines (Row.new cols)
    cols, lines
    cursor := {}
    savedCursor := none
    tabStops := initTabStops cols
    regionStart := 0, regionEnd := lines
    scrollback := .new maxScrollback
    displayOffset := 0
    totalEvicted := 0
    resizePushed := 0
    leftMargin := 0, rightMargin := cols - 1
    dirty := .new lines cols
    sgrStack := [] }

def new (lines cols : Nat) : Grid := withScrollback lines cols defaultMaxScrollback

/-- `Grid[line]`. -/
def row : Row := g.rows.getD line (Row.new 0)

/-- `self.rows[line][Column(col)]`, read. -/
def cell (line col : Nat) : Cell := (g.row line).get col

/-- A write to one visible row. -/
def editRow (f : Row → Row) : Grid := { g with rows := g.rows.modify line f }

/-- A write through `self.rows[line][Column(col)]`. -/
def editCell (line col : Nat) (f : Cell → Cell) : Grid :=
  g.editRow line (·.modify col f)

def setLine : Grid := { g with cursor := { g.cursor with line := line } }

def setCol (col : Nat) : Grid := { g with cursor := { g.cursor with col := col } }

/-- An edit of the cursor template. -/
def editTemplate (f : Cell → Cell) : Grid :=
  { g with cursor := { g.cursor with template := f g.cursor.template } }

def markLine : Grid := { g with dirty := g.dirty.mark line }

def markCols (g : Grid) (line left right : Nat) : Grid :=
  { g with dirty := g.dirty.markCols line left right }

def markRange (g : Grid) (start stop : Nat) : Grid := { g with dirty := g.dirty.markRange start stop }

def markAll (g : Grid) : Grid := { g with dirty := g.dirty.markAll }

/-- `Cell::from(self.cursor.template.bg)`: erased cells get only the current background. -/
def bceTemplate : Cell := Cell.ofBg g.cursor.template.bg

/-! ## Margins -/

/-- DECLRMM margins, ignored unless `left < right < cols`. -/
def setLeftRightMargins (left right : Nat) : Grid :=
  if left < right ∧ right < g.cols then { g with leftMargin := left, rightMargin := right } else g

def resetLeftRightMargins : Grid :=
  { g with leftMargin := 0, rightMargin := g.cols - 1 }

/-- Horizontal margins narrower than the screen. -/
def hasHorizontalMargins : Bool := g.leftMargin > 0 || g.rightMargin < g.cols - 1

/-- The cursor is inside the margin band; one past the right margin (wrap pending) counts. -/
def cursorInMarginBand : Bool :=
  g.cursor.col ≥ g.leftMargin && g.cursor.col ≤ g.rightMargin + 1

/-! ## History and viewport -/

/-- Visible and scrollback lines. -/
def totalLines : Nat := g.lines + g.scrollback.len

/-- A row by absolute index: 0 is the oldest scrollback row, the visible rows follow. -/
def absoluteRow (absRow : Nat) : Option Row :=
  let sbLen := g.scrollback.len
  if absRow < sbLen then g.scrollback.get (sbLen - 1 - absRow) else g.rows[absRow - sbLen]?

/-- Adjusts the display offset, clamped to `0 ..= scrollback.len()`. -/
def scrollDisplay (delta : Int) : Grid :=
  let target := (max 0 (min ((g.displayOffset : Int) + delta) g.scrollback.len)).toNat
  if target ≠ g.displayOffset then markAll { g with displayOffset := target } else g

/-- Back to the initial state; the scrollback capacity stays. -/
def reset (g : Grid) : Grid :=
  markAll { g with
    rows := g.rows.map fun r => r.reset g.cols .blank
    cursor := {}
    savedCursor := none
    tabStops := initTabStops g.cols
    regionStart := 0, regionEnd := g.lines
    leftMargin := 0, rightMargin := g.cols - 1
    totalEvicted := g.totalEvicted + g.scrollback.len
    scrollback := g.scrollback.clear
    displayOffset := 0
    sgrStack := [] }

/-! ## The attribute stack -/

/-- Maximal depth of the XTPUSHSGR stack. -/
def maxSgrStack : Nat := 10

/-- XTPUSHSGR. The top of the stack is the head of the list. -/
def pushSgr : Grid :=
  if g.sgrStack.length ≥ maxSgrStack then g
  else
    let t := g.cursor.template
    { g with
      sgrStack := { flags := t.flags, fg := t.fg, bg := t.bg
                    underlineColor := t.extra.bind (·.underlineColor) } :: g.sgrStack }

/-- XTPOPSGR. -/
def popSgr : Grid :=
  match g.sgrStack with
  | [] => g
  | snap :: rest =>
    let t := { g.cursor.template with flags := snap.flags, fg := snap.fg, bg := snap.bg }
    { g with sgrStack := rest
             cursor := { g.cursor with template := t.setUnderlineColor snap.underlineColor } }

def clearSavedCursor : Grid := { g with savedCursor := none }

def clearSgrStack : Grid := { g with sgrStack := [] }

/-! ## Cursor moves -/

/-- Moves to `newLine`; the old and the new line are marked dirty. -/
def moveCursorLine (newLine : Nat) : Grid :=
  ((g.markLine g.cursor.line).setLine newLine).markLine newLine

/-- Moves to `newCol`; the line is marked dirty. -/
def moveCursorCol (newCol : Nat) : Grid := (g.markLine g.cursor.line).setCol newCol

end Grid

/-! ## In-place edits -/

/-- What an edit in place keeps of a row: which object it is, and its width. -/
def Row.shape (r : Row) : Option Nat × Nat := (r.tag, r.cols)

namespace Row

theorem shape_modify (r : Row) (c : Nat) (f : Cell → Cell) : (r.modify c f).shape = r.shape := by
  simp [shape, modify, Row.cols]

theorem shape_setOcc (r : Row) (occ : Nat) : (r.setOcc occ).shape = r.shape := rfl

theorem shape_mapCells {f : List Cell → List Cell} (h : ∀ l, (f l).length = l.length) (r : Row) :
    (r.mapCells f).shape = r.shape := by
  simp [shape, mapCells, Row.cols, h]

/-- Resetting a row at its own width keeps the object. -/
theorem shape_reset {r : Row} (cols : Nat) (template : Cell) (h : r.cols = cols) :
    (r.reset cols template).shape = r.shape := by
  have hcols := cols_reset r cols template
  have htag : (r.reset cols template).tag = r.tag := rfl
  simp [shape, htag, h]

end Row

namespace Grid

/-- The cell at a visible position, if there is one. -/
def cellAt? (g : Grid) (line col : Nat) : Option Cell := g.rows[line]?.bind (·.inner[col]?)

/-- **Repainted.** Same dimensions, the damage only grew, and a cell of the tracked area that changed is
    covered by the damage of `g'`, or lies in `S`. -/
structure Repaints (S : Nat → Nat → Prop) (g g' : Grid) : Prop where
  lines : g'.lines = g.lines
  cols : g'.cols = g.cols
  dirty : g.dirty.Grows g'.dirty
  cells : ∀ line col, line < g.dirty.lines.length → col < g.dirty.cols →
    g'.cellAt? line col ≠ g.cellAt? line col → S line col ∨ g'.dirty.Covers line col

/-- The history and the view on it did not move. -/
structure HistoryKept (g g' : Grid) : Prop where
  scrollback : g'.scrollback = g.scrollback
  displayOffset : g'.displayOffset = g.displayOffset
  totalEvicted : g'.totalEvicted = g.totalEvicted
  resizePushed : g'.resizePushed = g.resizePushed

/-- The scroll region and the margins are the same. -/
structure BandKept (g g' : Grid) : Prop where
  region : g'.regionStart = g.regionStart ∧ g'.regionEnd = g.regionEnd
  margins : g'.leftMargin = g.leftMargin ∧ g'.rightMargin = g.rightMargin

/-- **Edited in place.** `g'` is `g` repainted with its visible rows edited in place; the history did not
    move. -/
structure Edits (S : Nat → Nat → Prop) (g g' : Grid) : Prop
    extends Repaints S g g', HistoryKept g g', BandKept g g' where
  rows : g'.rows.map Row.shape = g.rows.map Row.shape

/-- The visible part has the grid's dimensions, and so has the damage tracker. -/
structure Framed (g : Grid) : Prop where
  rows : g.rows.length = g.lines
  width : ∀ r ∈ g.rows, r.cols = g.cols
  dirtyLines : g.dirty.lines.length = g.lines
  dirtyCols : g.dirty.cols = g.cols

/-- Nothing is owed. -/
def nothing : Nat → Nat → Prop := fun _ _ => False

/-- Edited in place, and every changed cell is covered. -/
abbrev Tracked (g g' : Grid) : Prop := Edits nothing g g'

variable {S S' : Nat → Nat → Prop} {g g' g'' : Grid}

@[refl] theorem Repaints.refl (S : Nat → Nat → Prop) (g : Grid) : Repaints S g g :=
  ⟨rfl, rfl, .refl _, fun _ _ _ _ h => absurd rfl h⟩

/-- Two repaints in a row owe what either owes. -/
theorem Repaints.trans (h : Repaints S g g') (h' : Repaints S g' g'') : Repaints S g g'' :=
  { lines := h'.lines.trans h.lines
    cols := h'.cols.trans h.cols
    dirty := h.dirty.trans h'.dirty
    cells := by
      intro line col hl hc hne
      have hl' : line < g'.dirty.lines.length := by rw [h.dirty.lines]; exact hl
      have hc' : col < g'.dirty.cols := by rw [h.dirty.cols]; exact hc
      by_cases hstep : g''.cellAt? line col = g'.cellAt? line col
      · rw [hstep] at hne
        exact (h.cells line col hl hc hne).imp id (h'.dirty.covers line col hc')
      · exact h'.cells line col hl' hc' hstep }

/-- Growing the damage changes no cell, and may pay what is owed. -/
theorem Repaints.pay {d : DirtyTracker} (h : Repaints S g g') (hgrow : g'.dirty.Grows d)
    (hS : ∀ line col, line < g'.dirty.lines.length → col < g'.dirty.cols → S line col →
      S' line col ∨ d.Covers line col) : Repaints S' g { g' with dirty := d } :=
  { lines := h.lines
    cols := h.cols
    dirty := h.dirty.trans hgrow
    cells := by
      intro line col hl hc hne
      have hl' : line < g'.dirty.lines.length := by rw [h.dirty.lines]; exact hl
      have hc' : col < g'.dirty.cols := by rw [h.dirty.cols]; exact hc
      rcases h.cells line col hl hc hne with howed | hcov
      · exact hS line col hl' hc' howed
      · exact .inr (hgrow.covers line col hc' hcov) }

theorem Repaints.mono (hS : ∀ line col, S line col → S' line col) (h : Repaints S g g') : Repaints S' g g' :=
  { h with cells := fun line col hl hc hne => (h.cells line col hl hc hne).imp (hS line col) id }

/-- Marking the lines that changed pays for them. -/
theorem Repaints.markRange (start stop : Nat) (h : Repaints S g g')
    (hS : ∀ i c, S i c → start ≤ i ∧ i < stop) : Repaints nothing g (g'.markRange start stop) :=
  h.pay (DirtyTracker.grows_markRange ..) fun i c hi hc howed =>
    .inr (DirtyTracker.covers_markRange hi (hS i c howed).1 (hS i c howed).2 hc)

theorem Repaints.markAll (h : Repaints S g g') : Repaints nothing g g'.markAll :=
  h.pay (DirtyTracker.grows_markAll _) fun i c _ _ _ => .inr (DirtyTracker.covers_markAll _ i c)

@[refl] theorem HistoryKept.refl (g : Grid) : HistoryKept g g := ⟨rfl, rfl, rfl, rfl⟩

theorem HistoryKept.trans (h : HistoryKept g g') (h' : HistoryKept g' g'') : HistoryKept g g'' :=
  ⟨h'.scrollback.trans h.scrollback, h'.displayOffset.trans h.displayOffset,
    h'.totalEvicted.trans h.totalEvicted, h'.resizePushed.trans h.resizePushed⟩

@[refl] theorem BandKept.refl (g : Grid) : BandKept g g := ⟨⟨rfl, rfl⟩, ⟨rfl, rfl⟩⟩

theorem BandKept.trans (h : BandKept g g') (h' : BandKept g' g'') : BandKept g g'' :=
  ⟨⟨h'.region.1.trans h.region.1, h'.region.2.trans h.region.2⟩,
    ⟨h'.margins.1.trans h.margins.1, h'.margins.2.trans h.margins.2⟩⟩

@[refl] theorem Edits.refl (S : Nat → Nat → Prop) (g : Grid) : Edits S g g :=
  ⟨.refl S g, .refl g, .refl g, rfl⟩

theorem Edits.mono (hS : ∀ line col, S line col → S' line col) (h : Edits S g g') : Edits S' g g' :=
  { h with toRepaints := h.toRepaints.mono hS }

/-- Two edits in a row owe what either owes. -/
theorem Edits.trans (h : Edits S g g') (h' : Edits S g' g'') : Edits S g g'' :=
  { toRepaints := h.toRepaints.trans h'.toRepaints
    toHistoryKept := h.toHistoryKept.trans h'.toHistoryKept
    toBandKept := h.toBandKept.trans h'.toBandKept
    rows := h'.rows.trans h.rows }

/-- An edit in place keeps the frame. -/
theorem Edits.framed (h : Edits S g g') (hg : Framed g) : Framed g' := by
  have hlen : g'.rows.length = g.rows.length := by
    simpa using congrArg List.length h.rows
  refine ⟨by rw [hlen, hg.rows, h.lines], ?_, by rw [h.dirty.lines, hg.dirtyLines, h.lines],
    by rw [h.dirty.cols, hg.dirtyCols, h.cols]⟩
  intro r hr
  have hshape : r.shape ∈ g.rows.map Row.shape := h.rows ▸ mem_map_of_mem hr
  obtain ⟨r₀, hr₀, he⟩ := mem_map.mp hshape
  have hcols : r₀.cols = r.cols := congrArg Prod.snd he
  rw [← hcols, hg.width r₀ hr₀, h.cols]

/-- Nothing owed is owed nowhere. -/
theorem Tracked.edits (h : Tracked g g') : Edits S g g' := h.mono fun _ _ hf => hf.elim

theorem Edits.pay {d : DirtyTracker} (h : Edits S g g') (hgrow : g'.dirty.Grows d)
    (hS : ∀ line col, line < g'.dirty.lines.length → col < g'.dirty.cols → S line col →
      S' line col ∨ d.Covers line col) : Edits S' g { g' with dirty := d } :=
  { h with toRepaints := h.toRepaints.pay hgrow hS }

/-- A mark keeps what is owed outside the marked columns. -/
theorem Edits.markCols' (line left right : Nat) (h : Edits S g g')
    (hS : ∀ i c, S i c → S' i c ∨ i = line ∧ left ≤ c ∧ c ≤ right) :
    Edits S' g (g'.markCols line left right) := by
  refine h.pay (DirtyTracker.grows_markCols ..) ?_
  intro i c hi _ howed
  refine (hS i c howed).imp id ?_
  rintro ⟨rfl, hl, hr⟩
  exact DirtyTracker.covers_markCols hi hl hr

/-- Marking the columns that were edited pays for the edit. -/
theorem Edits.markCols (line left right : Nat) (h : Edits S g g')
    (hS : ∀ i c, S i c → i = line ∧ left ≤ c ∧ c ≤ right) :
    Tracked g (g'.markCols line left right) :=
  h.markCols' line left right fun i c howed => .inr (hS i c howed)

/-- Marking the line that was edited pays for the edit. -/
theorem Edits.markLine (line : Nat) (h : Edits S g g') (hS : ∀ i c, S i c → i = line) :
    Tracked g (g'.markLine line) := by
  refine h.pay (DirtyTracker.grows_mark ..) ?_
  intro i c hi hc howed
  obtain rfl := hS i c howed
  exact .inr (DirtyTracker.covers_mark hi hc)

/-- Marking the lines that were edited pays for the edit. -/
theorem Edits.markRange (start stop : Nat) (h : Edits S g g')
    (hS : ∀ i c, S i c → start ≤ i ∧ i < stop) : Tracked g (g'.markRange start stop) :=
  { h with toRepaints := h.toRepaints.markRange start stop hS }

theorem Edits.markAll (h : Edits S g g') : Tracked g g'.markAll :=
  { h with toRepaints := h.toRepaints.markAll }

section

variable (g : Grid)

theorem tracked_markLine (line : Nat) : Tracked g (g.markLine line) :=
  (Edits.refl nothing g).markLine line fun _ _ h => h.elim

/-- The cursor, the saved cursor, the tab stops and the attribute stack are not what an edit is about. -/
theorem Edits.fields (cursor : Cursor) (savedCursor : Option Cursor) (tabStops : List Bool)
    (sgrStack : List SgrSnapshot) :
    Edits S g { g with cursor := cursor, savedCursor := savedCursor, tabStops := tabStops
                       sgrStack := sgrStack } :=
  ⟨⟨rfl, rfl, .refl _, fun _ _ _ _ hne => absurd rfl hne⟩, ⟨rfl, rfl, rfl, rfl⟩, ⟨⟨rfl, rfl⟩, ⟨rfl, rfl⟩⟩, rfl⟩

theorem edits_setLine (line : Nat) : Edits S g (g.setLine line) := .fields ..

theorem edits_setCol (col : Nat) : Edits S g (g.setCol col) := .fields ..

theorem edits_editTemplate (f : Cell → Cell) : Edits S g (g.editTemplate f) := .fields ..

theorem tracked_moveCursorLine (newLine : Nat) : Tracked g (g.moveCursorLine newLine) :=
  ((tracked_markLine g _).trans (edits_setLine _ newLine)).trans (tracked_markLine _ newLine)

theorem tracked_moveCursorCol (newCol : Nat) : Tracked g (g.moveCursorCol newCol) :=
  (tracked_markLine g _).trans (edits_setCol _ newCol)

theorem tracked_pushSgr : Tracked g g.pushSgr := by
  unfold pushSgr
  split
  · exact .refl _ g
  · exact .fields ..

theorem tracked_popSgr : Tracked g g.popSgr := by
  unfold popSgr
  split
  · exact .refl _ g
  · exact .fields ..

end

theorem map_shape_modify {l : List Row} (line : Nat) {f : Row → Row}
    (hf : ∀ r ∈ l, (f r).shape = r.shape) : (l.modify line f).map Row.shape = l.map Row.shape := by
  apply ext_getElem?
  intro i
  rw [getElem?_map, getElem?_map, getElem?_modify]
  cases hr : l[i]? with
  | none => rfl
  | some r =>
    have hmem := mem_of_getElem? hr
    by_cases hi : line = i
    · simp [hi, hf r hmem]
    · simp [hi]

/-- An edit of one row owes the cells it changes. -/
theorem edits_editRow (g : Grid) (line : Nat) (f : Row → Row) (hf : ∀ r ∈ g.rows, (f r).shape = r.shape)
    (hS : ∀ r col, g.rows[line]? = some r → (f r).inner[col]? ≠ r.inner[col]? → S line col) :
    Edits S g (g.editRow line f) :=
  { lines := rfl, cols := rfl, scrollback := rfl, displayOffset := rfl, totalEvicted := rfl
    resizePushed := rfl, region := ⟨rfl, rfl⟩, margins := ⟨rfl, rfl⟩
    rows := map_shape_modify line hf
    dirty := .refl _
    cells := by
      intro i col _ _ hne
      left
      by_cases hi : line = i
      · subst hi
        cases hr : g.rows[line]? with
        | none => simp [cellAt?, editRow, hr] at hne
        | some r => exact hS r col hr (by simpa [cellAt?, editRow, hr] using hne)
      · simp [cellAt?, editRow, hi] at hne }

/-- A write to one cell owes that cell. -/
theorem edits_editCell (g : Grid) (line col : Nat) (f : Cell → Cell) :
    Edits (fun i c => i = line ∧ c = col) g (g.editCell line col f) := by
  apply edits_editRow
  · intro r _
    exact Row.shape_modify r col f
  · intro r c _ hne
    refine ⟨rfl, ?_⟩
    by_contra hc
    apply hne
    simp [Ne.symm hc]

end Grid

end OriTerm
