import OriTerm.Image.Iterm2
import OriTerm.Image.Sixel
import OriTerm.Term.Kitty

/-!
# `Term.ImageProtocols` — a terminal with its three image protocols

Kitty graphics come as APC sequences (`Term.Kitty`), sixel images as DCS sequences that are decoded while they arrive,
and iTerm2 images as OSC 1337 commands. All three store decoded pixels in the cache of the active screen and place
them at the cursor.

`ImageTerm.step` is the terminal under everything that can happen to it: the commands of the three protocols, and any
operation of the terminal that is no image command.
-/

namespace OriTerm

open Image

/-- What the image handlers call outside the terminal. -/
structure ImageEnv (F : Type) extends KittyEnv F where
  openGif : GifDecoder
  hlsToRgb : Nat → Nat → Nat → Rgb

/-- A terminal with its pending upload and the sixel sequence that is being received. -/
structure ImageTerm (F : Type) extends KittyTerm F where
  sixelParser : Option SixelParser := none

namespace Term

variable (t : Term)

/-- The background in effect, which is the foreground under DECSCNM. -/
def effectiveBackground : Rgb :=
  t.palette.color (if t.has .reverseVideo then NamedColor.foreground.index else NamedColor.background.index)

/-! ## Sixel -/

/-- Places a sixel image at the cursor, in place of the image that was placed there. -/
def sixelCreatePlacement (id : ImageId) (w h : Nat) : Term :=
  let col := t.activeGrid.cursor.col
  let stableRow := StableRowIndex.fromVisible t.activeGrid t.activeGrid.cursor.line
  let cellW := max t.cellPixelWidth 1
  let cellH := max t.cellPixelHeight 1
  let cols := (w + cellW - 1) / cellW
  let rows := (h + cellH - 1) / cellH
  let placement : Placement :=
    { imageId := id, placementId := none, sourceX := 0, sourceY := 0, sourceW := w, sourceH := h, cellCol := col
      cellRow := stableRow, cols, rows, zIndex := 0, cellXOffset := 0, cellYOffset := 0, sizing := .fixedPixels w h }
  let orphaned := (t.activeCache.removeByPosition col stableRow).2
  let t := t.onCache fun c => (c.removeByPosition col stableRow).1
  let t := t.onCache (·.pruneIfOrphaned orphaned)
  let t := t.onCache (·.place placement)
  t.sixelAdvance col cols rows

/-- Stores decoded pixels under a new id, and places them. -/
def storeAndPlace (rgba : List UInt8) (w h : Nat) (createPlacement : Term → ImageId → Term) : Term :=
  let id := t.activeCache.nextImageId.2
  let t := t.onCache (·.nextImageId.1)
  let img : Data :=
    { id, width := w, height := h, data := rgba, pixelGeneration := 0, format := .rgba, source := .direct
      lastAccessed := 0, imageNumber := none }
  let t' := t.onCache fun c => (c.store img).1
  match (t.activeCache.store img).2 with
  | .ok _ => createPlacement t' id
  | .error _ => t'

/-! ## iTerm2 -/

/-- Saturating downcast to 32 bits. -/
def satU32 (v : Nat) : Nat := min v (2 ^ 32 - 1)

/-- Scales a dimension in proportion to the other one. -/
def scaleProportional (otherNative driver driverNative : Nat) : Nat :=
  if driverNative > 0 then satU32 (otherNative * driver / driverNative) else otherNative

/-- Parameters for resolving iTerm2 display dimensions. -/
structure DisplaySizeParams where
  wSpec : SizeSpec
  hSpec : SizeSpec
  imgW : Nat
  imgH : Nat
  cellW : Nat
  cellH : Nat
  termW : Nat
  termH : Nat
  preserveAspect : Bool
  deriving DecidableEq, Repr

/-- Resolves a single dimension. -/
def resolveOneDimension (spec : SizeSpec) (native cellSize termSize : Nat) : Nat :=
  match spec with
  | .auto => native
  | .cells n => satU32 (n * cellSize)
  | .pixels n => n
  | .percent pct => satU32 (termSize * pct / 100)

/-- The smaller of the two scales `wNum / wDen` and `hNum / hDen`. -/
def smallerScale (wNum wDen hNum hDen : Nat) : Nat × Nat :=
  if wNum * hDen ≤ hNum * wDen then (wNum, wDen) else (hNum, hDen)

/-- Scales down to fit within the terminal. -/
def clampToTerminal (w h termW termH : Nat) (preserve : Bool) : Nat × Nat :=
  if w ≤ termW ∧ h ≤ termH then (max w 1, max h 1)
  else if !preserve ∨ w = 0 ∨ h = 0 then (max (min w termW) 1, max (min h termH) 1)
  else
    let (num, den) := smallerScale termW w termH h
    (max (satU32 (w * num / den)) 1, max (satU32 (h * num / den)) 1)

/-- The display size from the specifications alone. -/
def resolveDisplaySizeWithinSpec (p : DisplaySizeParams) : Nat × Nat :=
  let rawW := resolveOneDimension p.wSpec p.imgW p.cellW p.termW
  let rawH := resolveOneDimension p.hSpec p.imgH p.cellH p.termH
  if !p.preserveAspect then (max rawW 1, max rawH 1)
  else
    match p.wSpec == .auto, p.hSpec == .auto with
    | true, true => (max p.imgW 1, max p.imgH 1)
    | false, true => (max rawW 1, max (scaleProportional p.imgH (max rawW 1) p.imgW) 1)
    | true, false => (max (scaleProportional p.imgW (max rawH 1) p.imgH) 1, max rawH 1)
    | false, false =>
      if p.imgW = 0 ∨ p.imgH = 0 then (max rawW 1, max rawH 1)
      else
        let (num, den) := smallerScale rawW p.imgW rawH p.imgH
        (max (satU32 (p.imgW * num / den)) 1, max (satU32 (p.imgH * num / den)) 1)

/-- The display size, fitted to the terminal. -/
def resolveDisplaySize (p : DisplaySizeParams) : Nat × Nat :=
  let (w, h) := resolveDisplaySizeWithinSpec p
  clampToTerminal w h p.termW p.termH p.preserveAspect

/-- The size is one in cells. -/
def isCells : SizeSpec → Bool
  | .cells _ => true
  | _ => false

/-- Places an iTerm2 image at the cursor. -/
def iterm2CreatePlacement (id : ImageId) (imgW imgH : Nat) (image : Iterm2Image) : Term :=
  let cellW := max t.cellPixelWidth 1
  let cellH := max t.cellPixelHeight 1
  let (displayW, displayH) := resolveDisplaySize
    { wSpec := image.width, hSpec := image.height, imgW, imgH, cellW, cellH, termW := t.activeGrid.cols * cellW
      termH := t.activeGrid.lines * cellH, preserveAspect := image.preserveAspectRatio }
  let rows := (displayH + cellH - 1) / cellH
  let placement : Placement :=
    { imageId := id, placementId := none, sourceX := 0, sourceY := 0, sourceW := imgW, sourceH := imgH
      cellCol := t.activeGrid.cursor.col
      cellRow := .fromVisible t.activeGrid t.activeGrid.cursor.line, cols := (displayW + cellW - 1) / cellW, rows
      zIndex := 0, cellXOffset := 0, cellYOffset := 0
      sizing := if isCells image.width && isCells image.height then .cellCount else .fixedPixels displayW displayH }
  (t.onCache (·.place placement)).imageAdvance rows

/-- Stores an animation under a new id, and places it. -/
def storeAnimation (gif : GifFrames) (image : Iterm2Image) : Term :=
  let id := t.activeCache.nextImageId.2
  let t := t.onCache (·.nextImageId.1)
  let img : Data :=
    { id, width := gif.width, height := gif.height, data := gif.frames.headD [], pixelGeneration := 0, format := .rgba
      source := .direct, lastAccessed := 0, imageNumber := none }
  let t' := t.onCache fun c => (c.storeAnimated img gif.frames gif.durations gif.loopCount).1
  match (t.activeCache.storeAnimated img gif.frames gif.durations gif.loopCount).2 with
  | .ok _ => t'.iterm2CreatePlacement id gif.width gif.height image
  | .error _ => t'

/-- Parses and executes an iTerm2 `File=` command. An image that is not inline is a download. -/
def handleIterm2File {F : Type} (env : ImageEnv F) (t : Term) (params : List (List UInt8)) : Term :=
  if !t.imageProtocolEnabled then t
  else
    match parseIterm2File params with
    | .error _ => t
    | .ok image =>
      let maxBytes := t.activeCache.maxSingleImageBytes
      if !image.isInline then t
      else if image.data.length > maxBytes then t
      else
        let gif := if detectFormat image.data = some .gif then decodeGifFrames env.openGif image.data maxBytes else none
        match gif with
        | some gif => t.storeAnimation gif image
        | none =>
          match env.decode image.data maxBytes with
          | .error _ => t
          | .ok (rgba, w, h) => t.storeAndPlace rgba w h fun t id => t.iterm2CreatePlacement id w h image

end Term

/-! ## The terminal -/

/-- What can happen to the terminal. -/
inductive ImageEvent where
  | apc (now : Nanos) (data : List UInt8)
  | sixelStart (params : List Nat)
  | sixelPut (byte : UInt8)
  | sixelEnd (aborted : Bool)
  | iterm2File (params : List (List UInt8))
  /-- An operation of the terminal that is no image command. -/
  | other (op : TermOp) (h : ∀ ops, op ≠ .imageOps ops)

namespace ImageTerm

variable {F : Type}

variable (env : ImageEnv F) (t : ImageTerm F)

/-- A mutation of the terminal. -/
def mapTerm (f : Term → Term) : ImageTerm F := { t with term := f t.term }

/-- Begins a sixel sequence. -/
def handleSixelStart (params : List Nat) : ImageTerm F :=
  if !t.term.imageProtocolEnabled then t
  else { t with sixelParser := some (.new params t.term.effectiveBackground t.term.colorRegisterCount) }

/-- Feeds one byte to the sixel parser. -/
def handleSixelPut (byte : UInt8) : ImageTerm F :=
  { t with sixelParser := t.sixelParser.map (·.feed env.hlsToRgb byte) }

/-- Ends a sixel sequence: what was drawn is stored and placed, unless it was aborted. -/
def handleSixelEnd (aborted : Bool) : ImageTerm F :=
  match t.sixelParser with
  | none => t
  | some parser =>
    let t := { t with sixelParser := none }
    if aborted then t
    else
      match parser.finish env.hlsToRgb with
      | .error _ => t
      | .ok (rgba, w, h) => t.mapTerm (·.storeAndPlace rgba w h fun t id => t.sixelCreatePlacement id w h)

/-- Performs an event. -/
def step (width : Char → Option Nat) (t : ImageTerm F) : ImageEvent → ImageTerm F
  | .apc now data => { t with toKittyTerm := t.toKittyTerm.handleKittyGraphics env.toKittyEnv now data }
  | .sixelStart params => t.handleSixelStart params
  | .sixelPut byte => t.handleSixelPut env byte
  | .sixelEnd aborted => t.handleSixelEnd env aborted
  | .iterm2File params => t.mapTerm (·.handleIterm2File env params)
  | .other op _ => t.mapTerm (op.apply width)

end ImageTerm

end OriTerm
