import OriTerm.Core.Cell
import OriTerm.Term.Mode

/-!
# `Term.Renderable` — the snapshot handed to the renderer

`RenderableContent` is everything one frame needs, extracted from a terminal in one pass: the visible cells
with resolved colours, the cursor, the damage since the previous snapshot and the image placements with
their pixels. A renderer may skip every cell its damage does not cover; `RenderableContent.damaged` is that
reading of the damage fields.
-/

namespace OriTerm

open Lib.Bitflags

/-- The bits of an `f32`; snapshots only copy them. -/
abbrev F32 := BitVec 32

/-- Image identifier. -/
abbrev ImageId := Nat

/-- Cursor shape. -/
inductive CursorShape where
  | block | underline | bar | hollowBlock | hidden
  deriving DecidableEq, Repr, Inhabited

/-- Mouse cursor icons (OSC 22); `other` stands for an icon the wire has no index for. -/
inductive CursorIcon where
  | default | contextMenu | help | pointer | progress | wait | cell | crosshair | text | verticalText
  | alias | copy | move | noDrop | notAllowed | grab | grabbing | eResize | nResize | neResize
  | nwResize | sResize | seResize | swResize | wResize | ewResize | nsResize | neswResize
  | nwseResize | colResize | rowResize | allScroll | zoomIn | zoomOut
  | other (n : Nat)
  deriving DecidableEq, Repr

/-- Cursor state for rendering. -/
structure RenderableCursor where
  line : Nat
  column : Nat
  shape : CursorShape
  visible : Bool
  deriving DecidableEq, Repr

/-- A damaged line region; both columns are inclusive. -/
structure DamageLine where
  line : Nat
  left : Nat
  right : Nat
  deriving DecidableEq, Repr

/-- A single cell ready for rendering: colours resolved, alpha concrete. -/
structure RenderableCell where
  line : Nat
  column : Nat
  ch : Char
  fg : Rgb
  bg : Rgb
  flags : CellFlags
  underlineColor : Option Rgb
  fgAlpha : UInt8
  bgAlpha : UInt8
  underlineAlpha : UInt8
  hasHyperlink : Bool
  hyperlinkUri : Option String
  zerowidth : List Char
  deriving DecidableEq, Repr

/-- An image placement in viewport pixels. -/
structure RenderablePlacement where
  imageId : ImageId
  viewportX : F32
  viewportY : F32
  displayWidth : F32
  displayHeight : F32
  sourceX : F32
  sourceY : F32
  sourceW : F32
  sourceH : F32
  zIndex : Int
  opacity : F32
  deriving DecidableEq, Repr

/-- Decoded pixels of one image, with the generation of the pixels. -/
structure RenderableImageData where
  id : ImageId
  data : List UInt8
  width : Nat
  height : Nat
  pixelGeneration : Nat
  deriving DecidableEq, Repr

/-- A cell carrying a resolved unicode-placeholder reference. -/
structure RenderablePlaceholderCell where
  line : Nat
  column : Nat
  imageId : ImageId
  imageRow : Nat
  imageCol : Nat
  placementId : Nat
  placementCols : Nat
  placementRows : Nat
  deriving DecidableEq, Repr

/-- A search match; rows are stable row indices, `endCol` is inclusive. -/
structure SearchMatch where
  startRow : Nat
  startCol : Nat
  endRow : Nat
  endCol : Nat
  deriving DecidableEq, Repr

/-- Complete renderer snapshot extracted from a terminal. -/
structure RenderableContent where
  cells : List RenderableCell := []
  cursor : RenderableCursor := ⟨0, 0, .block, false⟩
  displayOffset : Nat := 0
  stableRowBase : Nat := 0
  mode : TermMode := 0
  allDirty : Bool := false
  damage : List DamageLine := []
  images : List RenderablePlacement := []
  imageData : List RenderableImageData := []
  imagesDirty : Bool := false
  placeholderCells : List RenderablePlaceholderCell := []
  cols : Nat := 0
  lines : Nat := 0
  scrollbackLen : Nat := 0
  paletteSnapshot : List Rgb := []
  searchActive : Bool := false
  searchQuery : String := ""
  searchMatches : List SearchMatch := []
  searchFocused : Option Nat := none
  searchTotalMatches : Nat := 0
  mouseCursorIcon : Option CursorIcon := none
  deriving DecidableEq, Repr

namespace RenderableContent

/-- The damage fields tell the renderer to redraw the cell at `line`, `col`. -/
def damaged (c : RenderableContent) (line col : Nat) : Bool :=
  c.allDirty || c.damage.any fun d => d.line == line && d.left ≤ col && col ≤ d.right

/-- Equal but for the three damage fields: `all_dirty`, the line damage and `images_dirty`. -/
def SameContent (a b : RenderableContent) : Prop :=
  { a with allDirty := b.allDirty, damage := b.damage, imagesDirty := b.imagesDirty } = b

/-- `all_dirty` reports every cell. -/
theorem damaged_of_allDirty {c : RenderableContent} (h : c.allDirty = true) (line col : Nat) :
    c.damaged line col = true := by
  simp [damaged, h]

end RenderableContent

/-! ## Colour resolution -/

/-- Foreground: DIM first, then bold-as-bright on ANSI 0–7 and named colours. -/
def resolveFg (color : Color) (flags : CellFlags) (palette : Palette) (boldIsBright : Bool) : Rgb :=
  let isBold := contains flags CellFlags.bold
  let isDim := contains flags CellFlags.dim
  match color with
  | .spec rgb => if isDim then dimRgb rgb else rgb
  | .indexed idx =>
    if isDim then dimRgb (palette.resolve color)
    else if boldIsBright && isBold && idx < 8 then palette.resolve (.indexed (idx + 8))
    else palette.resolve color
  | .named name =>
    if isDim then palette.resolve (.named name.toDim)
    else if boldIsBright && isBold then palette.resolve (.named name.toBright)
    else palette.resolve (.named name)

/-- Background. -/
def resolveBg (color : Color) (palette : Palette) : Rgb := palette.resolve color

/-- The four values that travel together through inverse resolution. -/
structure ChannelColors where
  fg : Rgb
  bg : Rgb
  fgAlpha : UInt8
  bgAlpha : UInt8
  deriving DecidableEq, Repr

/-- INVERSE exchanges the colours together with their alpha. -/
def applyInverse (c : ChannelColors) (flags : CellFlags) : ChannelColors :=
  if contains flags CellFlags.inverse then
    { fg := c.bg, bg := c.fg, fgAlpha := c.bgAlpha, bgAlpha := c.fgAlpha }
  else c

end OriTerm
