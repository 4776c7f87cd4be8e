import Mathlib.Algebra.Group.Nat.Defs
import OriTerm.Lib.ListEdit
import OriTerm.Mux.SnapshotDoubleBuffer

/-!
# `Mux.PaneSnapshot` — the wire form of a snapshot and how it is filled

`PaneSnapshot` is what a client receives. `fillSnapshotFromRenderable` overwrites a cached one from a
`RenderableContent`, reusing the row buffers that are already there; `fillWireCells_eq` says that the reuse
is invisible: the filled rows are `wireRows`, the cells cut into rows of `cols`, whatever was in the buffer.
-/

namespace OriTerm

open Lib

variable (renderBuf : RenderableContent) (out : PaneSnapshot) (pane : Pane)

/-- Pane identifier. -/
abbrev PaneId := Nat

/-! ## Wire types -/

/-- A colour on the wire. -/
structure WireRgb where
  r : UInt8
  g : UInt8
  b : UInt8
  deriving DecidableEq, Repr

/-- A single terminal cell on the wire. -/
structure WireCell where
  ch : Char
  fg : WireRgb
  bg : WireRgb
  flags : CellFlags
  underlineColor : Option WireRgb
  fgAlpha : UInt8
  bgAlpha : UInt8
  underlineAlpha : UInt8
  hyperlinkUri : Option String
  zerowidth : List Char
  deriving DecidableEq, Repr

/-- Cursor shape on the wire. -/
inductive WireCursorShape where
  | block | underline | bar | hollowBlock | hidden
  deriving DecidableEq, Repr

/-- Cursor state on the wire. -/
structure WireCursor where
  col : Nat := 0
  row : Nat := 0
  shape : WireCursorShape := .block
  visible : Bool := false
  deriving DecidableEq, Repr

/-- A search match position on the wire. -/
structure WireSearchMatch where
  startRow : Nat
  startCol : Nat
  endRow : Nat
  endCol : Nat
  deriving DecidableEq, Repr

/-- An image placement on the wire. -/
structure WirePlacement where
  imageId : ImageId
  viewportX : F32
  viewportY : F32
  displayWidth : F32
  displayHeight : F32
  sourceX : F32
  sourceY : F32
  sourceW : F32
  sourceH : F32
  zIndex : Int
  opacity : F32
  deriving DecidableEq, Repr

/-- Decoded pixels on the wire. -/
structure WireImageData where
  id : ImageId
  data : List UInt8
  width : Nat
  height : Nat
  pixelGeneration : Nat
  deriving DecidableEq, Repr

/-- Full snapshot of a pane's visible state; `{}` is `PaneSnapshot::default()`. -/
structure PaneSnapshot where
  cells : List (List WireCell) := []
  cursor : WireCursor := {}
  palette : List Rgb := []
  images : List WirePlacement := []
  imageData : List WireImageData := []
  imagesDirty : Bool := false
  title : String := ""
  iconName : Option String := none
  cwd : Option String := none
  modes : TermMode := 0
  scrollbackLen : Nat := 0
  displayOffset : Nat := 0
  stableRowBase : Nat := 0
  hasUnseenOutput : Bool := false
  cols : Nat := 0
  searchActive : Bool := false
  searchQuery : String := ""
  searchMatches : List WireSearchMatch := []
  searchFocused : Option Nat := none
  searchTotalMatches : Nat := 0
  mouseCursorIcon : Option Nat := none
  deriving DecidableEq, Repr

/-! ## Conversions -/

/-- `u16::try_from(n).unwrap_or(u16::MAX)`. -/
def saturateU16 (n : Nat) : Nat := if n < 2 ^ 16 then n else 2 ^ 16 - 1

/-- `u32::try_from(n).unwrap_or(u32::MAX)`. -/
def saturateU32 (n : Nat) : Nat := if n < 2 ^ 32 then n else 2 ^ 32 - 1

def rgbToWire (rgb : Rgb) : WireRgb := ⟨rgb.r, rgb.g, rgb.b⟩

def WireCursorShape.ofShape : CursorShape → WireCursorShape
  | .block => .block
  | .underline => .underline
  | .bar => .bar
  | .hollowBlock => .hollowBlock
  | .hidden => .hidden

/-- The icons with a wire index, in wire order. -/
def osc22KnownIcons : List CursorIcon :=
  [.default, .contextMenu, .help, .pointer, .progress, .wait, .cell, .crosshair, .text, .verticalText,
   .alias, .copy, .move, .noDrop, .notAllowed, .grab, .grabbing, .eResize, .nResize, .neResize,
   .nwResize, .sResize, .seResize, .swResize, .wResize, .ewResize, .nsResize, .neswResize,
   .nwseResize, .colResize, .rowResize, .allScroll, .zoomIn, .zoomOut]

/-- The stable wire index of an icon, if it has one. -/
def encodeCursorIcon (icon : CursorIcon) : Option Nat :=
  osc22KnownIcons.findIdx? (· == icon)

/-- One renderable cell in wire form. -/
def wireCell (cell : RenderableCell) : WireCell where
  ch := cell.ch
  fg := rgbToWire cell.fg
  bg := rgbToWire cell.bg
  flags := cell.flags
  underlineColor := cell.underlineColor.map rgbToWire
  fgAlpha := cell.fgAlpha
  bgAlpha := cell.bgAlpha
  underlineAlpha := cell.underlineAlpha
  hyperlinkUri := cell.hyperlinkUri
  zerowidth := cell.zerowidth

def wirePlacement (p : RenderablePlacement) : WirePlacement where
  imageId := p.imageId
  viewportX := p.viewportX
  viewportY := p.viewportY
  displayWidth := p.displayWidth
  displayHeight := p.displayHeight
  sourceX := p.sourceX
  sourceY := p.sourceY
  sourceW := p.sourceW
  sourceH := p.sourceH
  zIndex := p.zIndex
  opacity := p.opacity

def wireCursor (c : RenderableCursor) : WireCursor where
  col := saturateU16 c.column
  row := saturateU16 c.line
  shape := .ofShape c.shape
  visible := c.visible

def wireSearchMatch (m : SearchMatch) : WireSearchMatch where
  startRow := m.startRow
  startCol := saturateU16 m.startCol
  endRow := m.endRow
  endCol := saturateU16 m.endCol

/-! ## The pane, as snapshot building sees it -/

/-- The parts of a pane that `build` reads: the mailbox of its IO thread and the pane-local metadata. -/
structure Pane where
  doubleBuffer : DoubleBufferSlot := .new
  title : String := ""
  iconName : Option String := none
  cwd : Option String := none
  hasExplicitTitle : Bool := false
  hasUnseenOutput : Bool := false
  deriving DecidableEq, Repr

/-- The last path component, `/` when there is none. -/
def cwdShortPath (cwd : String) : String :=
  if cwd == "/" then cwd
  else
    let trimmed := if cwd.toList.getLast? = some '/' then cwd.toList.dropLast else cwd.toList
    let component := (trimmed.reverse.takeWhile (· ≠ '/')).reverse
    if component.isEmpty then "/" else String.ofList component

/-- The explicit title, else the short path of the working directory, else the raw title. -/
def Pane.effectiveTitle (p : Pane) : String :=
  if p.hasExplicitTitle then p.title
  else
    match p.cwd with
    | some cwd => cwdShortPath cwd
    | none => p.title

/-! ## Filling -/

/-- The row buffer and the position of the next cell. -/
structure WireFill where
  rows : List (List WireCell)
  rowIdx : Nat
  colCount : Nat

namespace WireFill

/-- One iteration of the fill loop: a row is cleared or appended when it starts, the cell is pushed, and the
    position moves on. -/
def push (cols : Nat) (st : WireFill) (wire : WireCell) : WireFill :=
  let rows :=
    if st.colCount = 0 then
      if st.rowIdx < st.rows.length then st.rows.set st.rowIdx [] else st.rows ++ [[]]
    else st.rows
  let rows := if st.rowIdx < rows.length then rows.modify st.rowIdx (· ++ [wire]) else rows
  if st.colCount + 1 = cols then { rows := rows, rowIdx := st.rowIdx + 1, colCount := 0 }
  else { rows := rows, rowIdx := st.rowIdx, colCount := st.colCount + 1 }

/-- The rows kept at the end: a started row counts. -/
def finish (st : WireFill) : List (List WireCell) :=
  st.rows.take (if st.colCount > 0 then st.rowIdx + 1 else st.rowIdx)

end WireFill

/-- Fills the rows of a snapshot from the renderable cells, reusing its row buffers. -/
def fillWireCells : PaneSnapshot :=
  if renderBuf.cols = 0 then { out with cells := [] }
  else
    let st := run (WireFill.push renderBuf.cols) ⟨out.cells, 0, 0⟩ (renderBuf.cells.map wireCell)
    { out with cells := st.finish }

/-- Fills the search fields. -/
def fillSearch : PaneSnapshot :=
  if renderBuf.searchActive then
    { out with
      searchActive := true
      searchQuery := renderBuf.searchQuery
      searchMatches := renderBuf.searchMatches.map wireSearchMatch
      searchTotalMatches := renderBuf.searchTotalMatches
      searchFocused := renderBuf.searchFocused }
  else
    { out with
      searchActive := false
      searchQuery := ""
      searchMatches := []
      searchFocused := none
      searchTotalMatches := 0 }

/-- Fills the metadata that comes from the renderable content. -/
def fillWireMetadata : PaneSnapshot :=
  fillSearch renderBuf
    { out with
      cursor := wireCursor renderBuf.cursor
      palette := renderBuf.paletteSnapshot
      modes := renderBuf.mode
      scrollbackLen := saturateU32 renderBuf.scrollbackLen
      displayOffset := saturateU32 renderBuf.displayOffset
      stableRowBase := renderBuf.stableRowBase
      cols := renderBuf.cols % 2 ^ 16
      mouseCursorIcon := renderBuf.mouseCursorIcon.bind encodeCursorIcon }

/-- Fills the metadata that comes from the pane. -/
def fillPaneMetadata (out : PaneSnapshot) : PaneSnapshot :=
  { out with
    title := pane.effectiveTitle
    iconName := pane.iconName
    cwd := pane.cwd
    hasUnseenOutput := pane.hasUnseenOutput }

/-- Fills the placements; the pixel list of a cached snapshot stays empty. -/
def fillImages : PaneSnapshot :=
  { out with
    images := renderBuf.images.map wirePlacement
    imagesDirty := renderBuf.imagesDirty
    imageData := [] }

/-- Overwrites a cached snapshot from a renderable content. -/
def fillSnapshotFromRenderable (renderBuf : RenderableContent) (out : PaneSnapshot) : PaneSnapshot :=
  fillImages renderBuf (fillPaneMetadata pane (fillWireMetadata renderBuf (fillWireCells renderBuf out)))

/-! ## Buffer reuse is invisible -/

/-- Appends one cell to rows of `cols`, starting a new row when the last one is full. -/
def pushRow (cols : Nat) (rows : List (List WireCell)) (wire : WireCell) : List (List WireCell) :=
  match rows.getLast? with
  | some r => if r.length < cols then rows.dropLast ++ [r ++ [wire]] else rows ++ [[wire]]
  | none => [[wire]]

/-- The cells cut into rows of `cols`. -/
def wireRows (cols : Nat) (cells : List WireCell) : List (List WireCell) := run (pushRow cols) [] cells

/-- The fill loop has built `rows` in front of whatever is left of the old buffer: between two rows, or in
    the middle of the row `cur`. -/
inductive WireFill.Built (cols : Nat) : WireFill → List (List WireCell) → Prop where
  | between (rows rest : List (List WireCell)) (hfull : ∀ r, rows.getLast? = some r → r.length = cols) :
      Built cols ⟨rows ++ rest, rows.length, 0⟩ rows
  | inside (init : List (List WireCell)) (cur : List WireCell) (rest : List (List WireCell))
      (hpos : 0 < cur.length) (hlt : cur.length < cols) :
      Built cols ⟨init ++ cur :: rest, init.length, cur.length⟩ (init ++ [cur])

namespace WireFill

/-- A started row `cur` extended by one cell is finished or still inside, as the loop says. -/
theorem built_extend {cols : Nat} (init : List (List WireCell)) (cur : List WireCell)
    (rest : List (List WireCell)) (wire : WireCell) (hle : cur.length + 1 ≤ cols) :
    Built cols
      (if cur.length + 1 = cols then
        ⟨init ++ (cur ++ [wire]) :: rest, init.length + 1, 0⟩
       else ⟨init ++ (cur ++ [wire]) :: rest, init.length, cur.length + 1⟩)
      (init ++ [cur ++ [wire]]) := by
  by_cases hfull : cur.length + 1 = cols
  · rw [if_pos hfull]
    have h : Built cols _ _ := .between (init ++ [cur ++ [wire]]) rest (by simp [hfull])
    simpa using h
  · rw [if_neg hfull]
    have h : Built cols _ _ := .inside init (cur ++ [wire]) rest (by simp) (by simp; omega)
    simpa using h

theorem built_push {cols : Nat} (hcols : 0 < cols) {st : WireFill} {rows : List (List WireCell)}
    (h : Built cols st rows) (wire : WireCell) :
    Built cols (st.push cols wire) (pushRow cols rows wire) := by
  cases h with
  | between _ rest hfull =>
    have hrow : pushRow cols rows wire = rows ++ [[] ++ [wire]] := by
      unfold pushRow
      cases hl : rows.getLast? with
      | none => simp_all
      | some r => simp [hfull r hl]
    rw [hrow]
    -- the new row takes the place of an old buffer row, or is appended
    cases rest with
    | nil =>
      have h : Built cols _ _ := built_extend rows [] [] wire hcols
      simpa [push, modify_length_append] using h
    | cons old rest =>
      have h : Built cols _ _ := built_extend rows [] rest wire hcols
      simpa [push, modify_length_append] using h
  | inside init cur rest hpos hlt =>
    have hrow : pushRow cols (init ++ [cur]) wire = init ++ [cur ++ [wire]] := by
      simp [pushRow, hlt]
    rw [hrow]
    have h : Built cols _ _ := built_extend init cur rest wire (by omega)
    have hne : cur.length ≠ 0 := by omega
    simpa [push, hne, modify_length_append] using h

theorem built_finish {cols : Nat} {st : WireFill} {rows : List (List WireCell)}
    (h : Built cols st rows) : st.finish = rows := by
  cases h with
  | between _ rest _ => simp [finish]
  | inside init cur rest hpos _ =>
    have hcut : init ++ cur :: rest = (init ++ [cur]) ++ rest := by simp
    simp only [finish, hpos]
    rw [hcut, List.take_left' (by simp)]

end WireFill

/-- **Reusing the row buffers is invisible**: the filled rows are the cells cut into rows of `cols`. -/
theorem fillWireCells_cells :
    (fillWireCells renderBuf out).cells =
      if renderBuf.cols = 0 then [] else wireRows renderBuf.cols (renderBuf.cells.map wireCell) := by
  unfold fillWireCells
  by_cases hcols : renderBuf.cols = 0
  · simp [hcols]
  · simp only [hcols]
    have hinit : WireFill.Built renderBuf.cols ⟨out.cells, 0, 0⟩ [] := by
      have h : WireFill.Built renderBuf.cols _ _ := .between [] out.cells (by simp)
      simpa using h
    have hbuilt := run_simulation (R := WireFill.Built renderBuf.cols)
      (fun _ _ wire h => WireFill.built_push (Nat.pos_of_ne_zero hcols) h wire) hinit
      (renderBuf.cells.map wireCell)
    exact WireFill.built_finish hbuilt

/-! ## The content of a snapshot -/

/-- The snapshot shows `rc`: its cells, cursor, columns and modes. -/
structure PaneSnapshot.Shows (snap : PaneSnapshot) (rc : RenderableContent) : Prop where
  cells : snap.cells =
    if rc.cols = 0 then [] else wireRows rc.cols (rc.cells.map wireCell)
  cursor : snap.cursor = wireCursor rc.cursor
  cols : snap.cols = rc.cols % 2 ^ 16
  modes : snap.modes = rc.mode

/-- A filled snapshot shows the content it was filled from, whatever was there before. -/
theorem fillSnapshotFromRenderable_shows (rc : RenderableContent) (out : PaneSnapshot) :
    (fillSnapshotFromRenderable pane rc out).Shows rc := by
  have hcells := fillWireCells_cells rc out
  by_cases hs : rc.searchActive = true <;>
    constructor <;>
    simp_all [fillSnapshotFromRenderable, fillImages, fillPaneMetadata, fillWireMetadata, fillSearch]

end OriTerm
