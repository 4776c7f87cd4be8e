import OriTerm.Image.CacheOp
import OriTerm.Term.Handler

/-!
# `Term.Snapshot` — the snapshot of a terminal

`renderableContent` extracts everything one frame needs: the visible rows with their colours resolved, the cursor,
the damage since the last reset, the palette and the images the view shows. It is a pure read; `resetDamage` is
what forgets the damage afterwards.

`SameView t t'` says that the two terminals differ in nothing a snapshot reads but the damage, and
`SameView.sameContent` that their snapshots then show the same.

Placements are in pixels, computed in single precision; that arithmetic is the parameter `F32Arith`. The ids seen
while the images are collected are a hash set in the source, whose order is unspecified; here the pixels follow the
order in which the ids are first referred to.
-/

namespace OriTerm

open Lib.Bitflags Option

/-- Single-precision arithmetic on the bits of an `f32`. -/
structure F32Arith where
  ofNat : Nat → F32
  ofInt : Int → F32
  add : F32 → F32 → F32
  sub : F32 → F32 → F32
  mul : F32 → F32 → F32
  div : F32 → F32 → F32

/-! ## Images -/

namespace Image

/-- Where in the image a placement's source rectangle lies, normalized; an image without pixels is shown whole. -/
def uvSourceRect (f : F32Arith) (p : Placement) (img : Data) : F32 × F32 × F32 × F32 :=
  if img.width = 0 ∨ img.height = 0 then (f.ofNat 0, f.ofNat 0, f.ofNat 1, f.ofNat 1)
  else
    let iw := f.ofNat img.width
    let ih := f.ofNat img.height
    let sx := f.div (f.ofNat p.sourceX) iw
    let sy := f.div (f.ofNat p.sourceY) ih
    (sx, sy, if p.sourceW > 0 then f.div (f.ofNat p.sourceW) iw else f.sub (f.ofNat 1) sx,
      if p.sourceH > 0 then f.div (f.ofNat p.sourceH) ih else f.sub (f.ofNat 1) sy)

/-- A placement in the pixels of a viewport whose top row is `stableRowBase`. -/
def renderablePlacement (f : F32Arith) (stableRowBase cellW cellH : Nat) (p : Placement) (img : Data) :
    RenderablePlacement :=
  let cw := f.ofNat cellW
  let ch := f.ofNat cellH
  let rowOffset := (p.cellRow.val : Int) - stableRowBase
  let disp := match p.sizing with
    | .cellCount => (f.mul (f.ofNat p.cols) cw, f.mul (f.ofNat p.rows) ch)
    | .fixedPixels width height => (f.ofNat width, f.ofNat height)
  let src := uvSourceRect f p img
  { imageId := p.imageId
    viewportX := f.add (f.mul (f.ofNat p.cellCol) cw) (f.ofNat p.cellXOffset)
    viewportY := f.add (f.mul (f.ofInt rowOffset) ch) (f.ofNat p.cellYOffset)
    displayWidth := disp.1, displayHeight := disp.2
    sourceX := src.1, sourceY := src.2.1, sourceW := src.2.2.1, sourceH := src.2.2.2
    zIndex := p.zIndex, opacity := f.ofNat 1 }

namespace Cache

/-- The placements the rows `[top, bottom]` show. -/
def viewportPlacements (c : Cache) (top bottom : StableRowIndex) : List Placement :=
  c.placements.filter (·.intersectsViewport top bottom)

/-- The visible placements whose image is still held. -/
def extractImages (f : F32Arith) (c : Cache) (stableRowBase lines cellW cellH : Nat) : List RenderablePlacement :=
  (c.viewportPlacements ⟨stableRowBase⟩ ⟨stableRowBase + (lines - 1)⟩).filterMap fun p =>
    (c.images.lookup p.imageId).map (renderablePlacement f stableRowBase cellW cellH p)

/-- The snapshot entry of a held image. -/
def cachedImageData (c : Cache) (id : ImageId) : Option RenderableImageData :=
  (c.images.lookup id).map fun img =>
    { id, data := img.data, width := img.width, height := img.height, pixelGeneration := img.pixelGeneration }

/-- The pixels of the images referred to, each once. -/
def collectImageData (c : Cache) (ids : List ImageId) : List RenderableImageData := ids.eraseDups.filterMap c.cachedImageData

end Cache

end Image

/-! ## Damage -/

/-- The dirty lines of a grid; when every line is dirty, `true` and no line. -/
def collectDamage (g : Grid) (lines : Nat) : Bool × List DamageLine :=
  if g.dirty.allDirty then (true, [])
  else if !g.dirty.isAnyDirty then (false, [])
  else
    let damage := (List.range lines).filterMap fun line =>
      (g.dirty.colBounds line).map fun b => { line, left := b.1, right := b.2 }
    if (List.range lines).all (fun line => (g.dirty.colBounds line).isSome) && !damage.isEmpty then (true, [])
    else (false, damage)

namespace Term

/-! ## Cells -/

/-- The palette cells resolve against: DECSCNM exchanges the default colours. -/
def snapshotPalette (t : Term) : Palette := if t.has .reverseVideo then t.palette.swapFgBg else t.palette

/-- The image quad that takes the place of a placeholder cell's glyph; `none` when the glyph is shown. -/
def resolvePlaceholderCell (t : Term) (line column : Nat) (resolved : Option ResolvedPlaceholder) :
    Option RenderablePlaceholderCell :=
  (resolved.filter fun r => decide (r.imageId ≠ 0) && t.activeCache.holds r.imageId).map fun r =>
    let grid := (t.activeCache.placeholderAnchorGrid.lookup r.imageId).getD (1, 1)
    { line, column, imageId := r.imageId, imageRow := r.imageRow, imageCol := r.imageCol
      placementId := r.placementId, placementCols := grid.1, placementRows := grid.2 }

/-- One cell, its colours resolved; an image quad suppresses the glyph. -/
def renderCell (t : Term) (palette : Palette) (line column : Nat) (cell : Cell) (suppressGlyph : Bool) :
    RenderableCell :=
  let colors := applyInverse
    { fg := resolveFg cell.fg cell.flags palette t.boldIsBright, bg := resolveBg cell.bg palette
      fgAlpha := cell.fgAlpha, bgAlpha := cell.bgAlpha } cell.flags
  { line, column, ch := if suppressGlyph then ' ' else cell.ch
    fg := colors.fg, bg := colors.bg, flags := cell.flags
    underlineColor := (cell.extra.bind (·.underlineColor)).map palette.resolve
    fgAlpha := colors.fgAlpha, bgAlpha := colors.bgAlpha, underlineAlpha := cell.underlineAlpha
    hasHyperlink := (cell.extra.bind (·.hyperlink)).isSome
    hyperlinkUri := (cell.extra.bind (·.hyperlink)).map (·.uri)
    zerowidth := cell.extra.elim [] (·.zerowidth) }

/-- The cells of one row, each with the image quad that suppresses its glyph. -/
def fillRowCells (t : Term) (palette : Palette) (cols line : Nat) (row : Row) :
    List (RenderableCell × Option RenderablePlaceholderCell) :=
  let cells := (List.range cols).map row.get
  (cells.zip (resolveRow cells)).zipIdx.map fun e =>
    let quad := t.resolvePlaceholderCell line e.2 e.1.2
    (t.renderCell palette line e.2 e.1.1 quad.isSome, quad)

/-- The row a view scrolled back by `offset` shows at `line`: history above, the screen below. -/
def viewRow (g : Grid) (offset line : Nat) : Option Row :=
  if line < offset then g.scrollback.get (offset - 1 - line) else some (g.row (line - offset))

/-- `grid.display_offset().min(grid.scrollback().len())`. -/
def viewOffset (g : Grid) : Nat := min g.displayOffset g.scrollback.len

/-- The cells of the view, row by row. -/
def fillCells (t : Term) : List (RenderableCell × Option RenderablePlaceholderCell) :=
  (List.range t.activeGrid.lines).flatMap fun line =>
    (viewRow t.activeGrid (viewOffset t.activeGrid) line).elim []
      (t.fillRowCells t.snapshotPalette t.activeGrid.cols line)

/-! ## The snapshot -/

/-- Extracts a complete snapshot. -/
def renderableContent (f : F32Arith) (t : Term) : RenderableContent :=
  let g := t.activeGrid
  let offset := viewOffset g
  let palette := t.snapshotPalette
  let cells := t.fillCells
  let damage := collectDamage g g.lines
  let stableRowBase := g.totalEvicted + (g.scrollback.len - offset)
  let images := t.activeCache.extractImages f stableRowBase g.lines t.cellPixelWidth t.cellPixelHeight
  let placeholderCells := cells.filterMap (·.2)
  { cells := cells.map (·.1)
    cursor :=
      { line := g.cursor.line, column := g.cursor.col, shape := t.cursorShape
        visible := t.has .showCursor && offset == 0 && t.cursorShape != .hidden }
    displayOffset := offset
    stableRowBase
    mode := t.mode
    -- An image mutation marks no line: it forces a full repaint.
    allDirty := damage.1 || t.activeCache.dirty
    damage := damage.2
    images
    imageData := t.activeCache.collectImageData (images.map (·.imageId) ++ placeholderCells.map (·.imageId))
    imagesDirty := t.activeCache.dirty
    placeholderCells
    cols := g.cols
    lines := g.lines
    scrollbackLen := g.scrollback.len
    paletteSnapshot := (List.range 270).map palette.color
    mouseCursorIcon := t.mouseCursorIcon }

/-- Clears all damage without reading it. -/
def resetDamage (t : Term) : Term :=
  (t.onGrid fun g => { g with dirty := g.dirty.drain.1 }).onCache fun c => c.takeDirty.1

/-! ## What a snapshot reads -/

variable {t t' t'' : Term}

theorem activeGrid_onGrid (t : Term) (f : Grid → Grid) : (t.onGrid f).activeGrid = f t.activeGrid := by
  unfold onGrid
  split
  · next g ha hg =>
    unfold altActive at ha
    simp [Term.activeGrid, altActive, ha, hg]
  · next hne =>
    unfold Term.activeGrid altActive at *
    cases ha : contains t.mode TermMode.altScreen with
    | false => simp
    | true =>
      cases hg : t.altGrid with
      | none => simp
      | some g => exact absurd hg (hne g ha)

theorem activeCache_onCache (t : Term) (f : Image.Cache → Image.Cache) :
    (t.onCache f).activeCache = f t.activeCache := by
  unfold onCache
  split
  · next c ha hc =>
    unfold altActive at ha
    simp [Term.activeCache, altActive, ha, hc]
  · next hne =>
    unfold Term.activeCache altActive at *
    cases ha : contains t.mode TermMode.altScreen with
    | false => simp
    | true =>
      cases hc : t.altImageCache with
      | none => simp
      | some c => exact absurd hc (hne c ha)

/-- The two terminals differ in nothing a snapshot reads, but for the damage. -/
structure SameView (t t' : Term) : Prop where
  grid : t'.activeGrid = { t.activeGrid with dirty := t'.activeGrid.dirty }
  mode : t'.mode = t.mode
  palette : t'.palette = t.palette
  boldIsBright : t'.boldIsBright = t.boldIsBright
  cursorShape : t'.cursorShape = t.cursorShape
  mouseCursorIcon : t'.mouseCursorIcon = t.mouseCursorIcon
  cellPixels : t'.cellPixelWidth = t.cellPixelWidth ∧ t'.cellPixelHeight = t.cellPixelHeight
  picture : Image.Cache.SamePicture t.activeCache t'.activeCache
  anchors : t'.activeCache.placeholderAnchorGrid = t.activeCache.placeholderAnchorGrid

@[refl] theorem SameView.refl (t : Term) : SameView t t :=
  ⟨rfl, rfl, rfl, rfl, rfl, rfl, ⟨rfl, rfl⟩, .refl _, rfl⟩

theorem SameView.trans (h : SameView t t') (h' : SameView t' t'') : SameView t t'' := by
  refine ⟨?_, h'.mode.trans h.mode, h'.palette.trans h.palette, h'.boldIsBright.trans h.boldIsBright,
    h'.cursorShape.trans h.cursorShape, h'.mouseCursorIcon.trans h.mouseCursorIcon,
    ⟨h'.cellPixels.1.trans h.cellPixels.1, h'.cellPixels.2.trans h.cellPixels.2⟩, h.picture.trans h'.picture,
    h'.anchors.trans h.anchors⟩
  rw [h'.grid, h.grid]

/-- Fields no snapshot reads. -/
theorem SameView.of_eq (hg : t'.grid = t.grid) (ha : t'.altGrid = t.altGrid) (hi : t'.imageCache = t.imageCache)
    (hai : t'.altImageCache = t.altImageCache) (hm : t'.mode = t.mode) (hp : t'.palette = t.palette)
    (hb : t'.boldIsBright = t.boldIsBright) (hs : t'.cursorShape = t.cursorShape)
    (hc : t'.mouseCursorIcon = t.mouseCursorIcon)
    (hpx : t'.cellPixelWidth = t.cellPixelWidth ∧ t'.cellPixelHeight = t.cellPixelHeight) : SameView t t' := by
  have hgrid : t'.activeGrid = t.activeGrid := by
    unfold Term.activeGrid altActive
    rw [hm, ha, hg]
  have hcache : t'.activeCache = t.activeCache := by
    unfold Term.activeCache altActive
    rw [hm, hai, hi]
  refine ⟨?_, hm, hp, hb, hs, hc, hpx, ?_, ?_⟩
  · rw [hgrid]
  · rw [hcache]
  · rw [hcache]

/-- A cache that shows the same picture. -/
theorem sameView_onCache (t : Term) {f : Image.Cache → Image.Cache}
    (hp : Image.Cache.SamePicture t.activeCache (f t.activeCache))
    (ha : (f t.activeCache).placeholderAnchorGrid = t.activeCache.placeholderAnchorGrid) :
    SameView t (t.onCache f) := by
  have hcache := activeCache_onCache t f
  rw [← hcache] at hp ha
  have hframe : (t.onCache f).activeGrid = t.activeGrid ∧ (t.onCache f).mode = t.mode
      ∧ (t.onCache f).palette = t.palette ∧ (t.onCache f).boldIsBright = t.boldIsBright
      ∧ (t.onCache f).cursorShape = t.cursorShape ∧ (t.onCache f).mouseCursorIcon = t.mouseCursorIcon
      ∧ (t.onCache f).cellPixelWidth = t.cellPixelWidth ∧ (t.onCache f).cellPixelHeight = t.cellPixelHeight := by
    unfold onCache
    split <;> exact ⟨rfl, rfl, rfl, rfl, rfl, rfl, rfl, rfl⟩
  obtain ⟨hg, hm, hpal, hb, hs, hc, hw, hh⟩ := hframe
  refine ⟨?_, hm, hpal, hb, hs, hc, ⟨hw, hh⟩, hp, ha⟩
  rw [hg]

/-- Only the damage of the active grid changes. -/
theorem sameView_damage (t : Term) (f : DirtyTracker → DirtyTracker) :
    SameView t (t.onGrid fun g => { g with dirty := f g.dirty }) := by
  have hactive := activeGrid_onGrid t fun g => { g with dirty := f g.dirty }
  have hframe : ∀ f : Grid → Grid, (t.onGrid f).activeCache = t.activeCache ∧ (t.onGrid f).mode = t.mode
      ∧ (t.onGrid f).palette = t.palette ∧ (t.onGrid f).boldIsBright = t.boldIsBright
      ∧ (t.onGrid f).cursorShape = t.cursorShape ∧ (t.onGrid f).mouseCursorIcon = t.mouseCursorIcon
      ∧ (t.onGrid f).cellPixelWidth = t.cellPixelWidth ∧ (t.onGrid f).cellPixelHeight = t.cellPixelHeight := by
    intro f
    unfold onGrid
    split <;> exact ⟨rfl, rfl, rfl, rfl, rfl, rfl, rfl, rfl⟩
  obtain ⟨hcache, hm, hpal, hb, hs, hc, hw, hh⟩ := hframe fun g => { g with dirty := f g.dirty }
  refine ⟨?_, hm, hpal, hb, hs, hc, ⟨hw, hh⟩, ?_, ?_⟩
  · rw [hactive]
  · rw [hcache]
  · rw [hcache]

/-- Resetting the damage forgets nothing else. -/
theorem sameView_resetDamage (t : Term) : SameView t t.resetDamage :=
  (sameView_damage t fun d => d.drain.1).trans (sameView_onCache _ ⟨rfl, fun _ => rfl⟩ rfl)

end Term

/-! ## Same view, same snapshot -/

namespace Image.Cache

variable {c c' : Cache}

variable (h : SamePicture c c')
include h

theorem SamePicture.holds (id : ImageId) : c'.holds id = c.holds id := by
  have hpixels := congrArg Option.isSome (h.pixels id)
  unfold Cache.pixels at hpixels
  rwa [isSome_map, isSome_map] at hpixels

theorem SamePicture.cachedImageData (id : ImageId) : c'.cachedImageData id = c.cachedImageData id := by
  have hfrom : ∀ c : Cache, c.cachedImageData id = (c.pixels id).map fun e =>
      { id, data := e.1, width := e.2.1, height := e.2.2.1, pixelGeneration := e.2.2.2 } := by
    intro c
    unfold Cache.cachedImageData Cache.pixels
    rw [map_map]
    rfl
  rw [hfrom, hfrom, h.pixels]

theorem SamePicture.collectImageData (ids : List ImageId) : c'.collectImageData ids = c.collectImageData ids := by
  unfold Cache.collectImageData
  rw [funext h.cachedImageData]

theorem SamePicture.extractImages (f : F32Arith) (stableRowBase lines cellW cellH : Nat) :
    c'.extractImages f stableRowBase lines cellW cellH = c.extractImages f stableRowBase lines cellW cellH := by
  unfold Cache.extractImages Cache.viewportPlacements
  rw [h.placements]
  refine List.filterMap_congr fun p _ => ?_
  have hpixels := h.pixels p.imageId
  unfold Cache.pixels at hpixels
  -- the rectangle in the image only needs the image's dimensions
  cases h' : c'.images.lookup p.imageId with
  | none =>
    rw [h'] at hpixels
    rw [map_eq_none_iff.mp hpixels.symm]
  | some img' =>
    rw [h'] at hpixels
    obtain ⟨img, himg, heq⟩ := map_eq_some_iff.mp hpixels.symm
    rw [himg]
    simp only [Prod.mk.injEq] at heq
    obtain ⟨_, hwidth, hheight, _⟩ := heq
    show some (renderablePlacement f stableRowBase cellW cellH p img')
      = some (renderablePlacement f stableRowBase cellW cellH p img)
    unfold renderablePlacement uvSourceRect
    rw [hwidth, hheight]

end Image.Cache

namespace Term

variable {t t' : Term}

variable (h : SameView t t')
include h

theorem SameView.has (flag : TermMode) : t'.has flag = t.has flag := by
  unfold Term.has
  rw [h.mode]

theorem SameView.snapshotPalette : t'.snapshotPalette = t.snapshotPalette := by
  unfold Term.snapshotPalette
  rw [h.has, h.palette]

theorem SameView.fillCells : t'.fillCells = t.fillCells := by
  have hquad : ∀ line column resolved,
      t'.resolvePlaceholderCell line column resolved = t.resolvePlaceholderCell line column resolved := by
    intro line column resolved
    unfold Term.resolvePlaceholderCell
    simp [h.picture.holds, h.anchors]
  have hcell : ∀ palette line column cell suppress,
      t'.renderCell palette line column cell suppress = t.renderCell palette line column cell suppress := by
    intro palette line column cell suppress
    unfold Term.renderCell
    rw [h.boldIsBright]
  have hrow : t'.fillRowCells = t.fillRowCells := by
    funext palette cols line row
    unfold Term.fillRowCells
    simp [hquad, hcell]
  unfold Term.fillCells
  rw [h.snapshotPalette, h.grid, hrow]
  rfl

/-- **The same view gives the same snapshot**, but for what it says of the damage. -/
theorem SameView.sameContent (f : F32Arith) :
    RenderableContent.SameContent (t.renderableContent f) (t'.renderableContent f) := by
  unfold RenderableContent.SameContent Term.renderableContent
  simp only [h.fillCells, h.snapshotPalette, h.picture.extractImages, h.picture.collectImageData, h.has,
    h.cursorShape, h.mode, h.mouseCursorIcon, h.cellPixels.1, h.cellPixels.2]
  rw [h.grid]
  rfl

end Term

end OriTerm
