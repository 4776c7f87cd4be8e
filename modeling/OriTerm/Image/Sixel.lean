import OriTerm.Core.Color
import OriTerm.Lib.Raster
import OriTerm.Lib.Run

/-!
# `Image.Sixel` — the streaming sixel decoder

`SixelParser.feed` takes the data of a sixel sequence byte by byte, and `SixelParser.finish` turns what was drawn into
RGBA pixels. The working buffer grows in powers of two with the drawing and is wider than the picture; the picture
has the dimensions of the raster attributes, or of the drawing where that is larger, and is read out of the buffer
pixel by pixel. A sequence that asks for too much is aborted.

**`SixelParser.length_finish`**: a picture of `w` by `h` has `w * h * 4` bytes.

The conversion from hue, lightness and saturation is in floating point and stands outside this development:
`hlsToRgb` is a parameter.
-/

namespace OriTerm.Image

open Lib Lib.Raster

/-- Maximum dimensions. -/
def maxSixelDimension : Nat := 10000

/-- Maximum pixel buffer size. -/
def maxSixelPixelBytes : Nat := 100000000

/-- Sixel background mode, from P2. -/
inductive SixelBgMode where
  | deviceDefault | noChange | setToBg
  deriving DecidableEq, Repr

/-- Default VT340 palette. -/
def vt340Palette : List Rgb :=
  [⟨0, 0, 0⟩, ⟨51, 51, 204⟩, ⟨204, 33, 33⟩, ⟨51, 204, 51⟩, ⟨204, 51, 204⟩, ⟨51, 204, 204⟩, ⟨204, 204, 51⟩,
   ⟨135, 135, 135⟩, ⟨51, 51, 51⟩, ⟨68, 68, 255⟩, ⟨255, 68, 68⟩, ⟨68, 255, 68⟩, ⟨255, 68, 255⟩, ⟨68, 255, 255⟩,
   ⟨255, 255, 68⟩, ⟨255, 255, 255⟩]

/-- Streaming sixel parser. -/
structure SixelParser where
  width : Nat := 0
  height : Nat := 0
  pixels : List UInt8 := []
  palette : List Rgb
  currentColor : Nat := 0
  x : Nat := 0
  y : Nat := 0
  bgMode : SixelBgMode
  terminalBg : Rgb
  colorRegisters : Nat
  rasterWidth : Option Nat := none
  rasterHeight : Option Nat := none
  maxX : Nat := 0
  maxY : Nat := 0
  aborted : Bool := false
  /-- Active command character; 0 is none. -/
  cmd : UInt8 := 0
  params : List Nat := List.replicate 5 0
  paramIdx : Nat := 0
  deriving DecidableEq, Repr

namespace SixelParser

variable (p : SixelParser)

/-- Creates a parser from the DCS parameters. -/
def new (params : List Nat) (terminalBg : Rgb) (colorRegisters : Nat) : SixelParser :=
  let bgMode : SixelBgMode := match params[1]?.getD 0 with
    | 1 => .noChange
    | 2 => .setToBg
    | _ => .deviceDefault
  { palette := vt340Palette ++ List.replicate (256 - vt340Palette.length) ⟨0, 0, 0⟩, bgMode, terminalBg, colorRegisters }

/-- A parameter of the active command. -/
def param (i : Nat) : Nat := p.params.getD i 0

/-! ## Commands -/

/-- `#`: defines a colour, when it has the parameters, and selects the register. -/
def applyColor (hlsToRgb : Nat → Nat → Nat → Rgb) (p : SixelParser) : SixelParser :=
  let idx := p.param 0 % p.colorRegisters
  let percent := fun n => UInt8.ofNat (min n 100 * 255 / 100)
  let palette :=
    if p.paramIdx ≥ 2 then
      match p.param 1 with
      | 2 => p.palette.set idx ⟨percent (p.param 2), percent (p.param 3), percent (p.param 4)⟩
      | 1 => p.palette.set idx (hlsToRgb (min (p.param 2) 360) (min (p.param 3) 100) (min (p.param 4) 100))
      | _ => p.palette
    else p.palette
  { p with palette := palette, currentColor := idx }

/-- `"`: the dimensions of the picture; one that is too large aborts. -/
def applyRasterAttrs : SixelParser :=
  if p.paramIdx ≥ 3 then
    let w := p.param 2
    let h := p.param 3
    if w > maxSixelDimension ∨ h > maxSixelDimension then { p with aborted := true }
    else if w * h * 4 > maxSixelPixelBytes then { p with aborted := true }
    else { p with rasterWidth := some w, rasterHeight := some h }
  else p

/-- Completes a pending command. -/
def finishCommand (hlsToRgb : Nat → Nat → Nat → Rgb) (p : SixelParser) : SixelParser :=
  let cmd := p.cmd
  let p := { p with cmd := 0 }
  if cmd = 35 then p.applyColor hlsToRgb else if cmd = 34 then p.applyRasterAttrs else p

/-- Completes the command before another one. -/
def finishPending (hlsToRgb : Nat → Nat → Nat → Rgb) (p : SixelParser) : SixelParser :=
  if p.cmd ≠ 0 then p.finishCommand hlsToRgb else p

/-- Starts a command. -/
def startCommand (cmd : UInt8) : SixelParser :=
  { p with cmd := cmd, params := List.replicate 5 0, paramIdx := 0 }

/-! ## Drawing -/

/-- Grows the pixel buffer; a buffer that would be too large aborts. -/
def growBuffer (needW needH : Nat) : SixelParser :=
  let newW := if needW > p.width then min needW.nextPowerOfTwo maxSixelDimension else p.width
  let newH := if needH > p.height then min needH.nextPowerOfTwo maxSixelDimension else p.height
  let newTotal := newW * newH * 4
  if newTotal > maxSixelPixelBytes then { p with aborted := true }
  else
    let blank : List UInt8 := List.replicate newTotal 0
    let newPixels := forRange 0 p.height (fun row pixels =>
      let oldStart := row * p.width * 4
      let newStart := row * newW * 4
      if oldStart + p.width * 4 ≤ p.pixels.length then
        pixels.take newStart ++ (p.pixels.drop oldStart).take (p.width * 4) ++ pixels.drop (newStart + p.width * 4)
      else pixels) blank
    { p with pixels := newPixels, width := newW, height := newH }

/-- Sets a pixel, growing the buffer as needed. -/
def setPixel (x y : Nat) (rgb : Rgb) : SixelParser :=
  let p := if x + 1 > p.width ∨ y + 1 > p.height then p.growBuffer (x + 1) (y + 1) else p
  if p.aborted then p
  else
    let offset := (y * p.width + x) * 4
    if offset + 3 < p.pixels.length then
      { p with
        pixels := (((p.pixels.set offset rgb.r).set (offset + 1) rgb.g).set (offset + 2) rgb.b).set (offset + 3) 255 }
    else p

/-- The six pixels of a sixel value, the lowest bit on top. -/
def drawColumn (value : UInt8) (rgb : Rgb) : SixelParser :=
  forRange 0 6 (fun bit p => if value.toNat.testBit bit then p.setPixel p.x (p.y + bit) rgb else p) p

/-- `count` columns from the current position on, up to the right limit. -/
def emitColumns (value : UInt8) (rgb : Rgb) : Nat → SixelParser → SixelParser
  | 0, p => p
  | count + 1, p =>
    if p.x ≥ maxSixelDimension then p
    else
      let p := p.drawColumn value rgb
      emitColumns value rgb count { p with x := p.x + 1, maxX := max p.maxX (p.x + 1) }

/-- Draws a sixel value at the current position, repeated. -/
def emitSixel (value : UInt8) (count : Nat) : SixelParser :=
  let rgb := p.palette.getD p.currentColor ⟨0, 0, 0⟩
  let p := emitColumns value rgb (min count maxSixelDimension) p
  { p with maxY := max p.maxY (p.y + 6) }

/-- Processes one byte of sixel data. -/
def feed (hlsToRgb : Nat → Nat → Nat → Rgb) (p : SixelParser) (byte : UInt8) : SixelParser :=
  if p.aborted then p
  else if 0x3F ≤ byte ∧ byte ≤ 0x7E then
    let value := byte - 0x3F
    if p.cmd = 33 then emitSixel { p with cmd := 0 } value (max (p.param 0) 1)
    else (p.finishPending hlsToRgb).emitSixel value 1
  else if 48 ≤ byte ∧ byte ≤ 57 ∧ p.cmd ≠ 0 ∧ p.paramIdx < 5 then
    let shifted := min (p.param p.paramIdx * 10) (2 ^ 32 - 1)
    { p with params := p.params.set p.paramIdx (min (shifted + (byte.toNat - 48)) (2 ^ 32 - 1)) }
  else if byte = 59 ∧ p.cmd ≠ 0 ∧ p.paramIdx < 4 then { p with paramIdx := p.paramIdx + 1 }
  else if byte = 36 then { p.finishPending hlsToRgb with x := 0 }
  else if byte = 45 then
    let p := p.finishPending hlsToRgb
    { p with y := p.y + 6, x := 0 }
  else if byte = 33 ∨ byte = 35 ∨ byte = 34 then (p.finishPending hlsToRgb).startCommand byte
  else p

/-! ## The picture -/

/-- The fill of undrawn pixels. -/
def background : List UInt8 :=
  match p.bgMode with
  | .noChange => [0, 0, 0, 0]
  | .deviceDefault => [0, 0, 0, 255]
  | .setToBg => [p.terminalBg.r, p.terminalBg.g, p.terminalBg.b, 255]

/-- The byte offset of a pixel in the working buffer. -/
def pixelOffset (x y : Nat) : Option Nat :=
  if x < p.width ∧ y < p.height then some ((y * p.width + x) * 4) else none

/-- The bytes of a pixel of the picture: as drawn, or the background. -/
def pictureColor (col row : Nat) : List UInt8 :=
  match p.pixelOffset col row with
  | some src =>
    if src + 3 < p.pixels.length ∧ p.pixels.getD (src + 3) 0 ≠ 0 then
      [p.pixels.getD src 0, p.pixels.getD (src + 1) 0, p.pixels.getD (src + 2) 0, p.pixels.getD (src + 3) 0]
    else p.background
  | none => p.background

/-- Finalizes the parser: RGBA pixels, width and height. -/
def finish (hlsToRgb : Nat → Nat → Nat → Rgb) (p : SixelParser) : Except String (List UInt8 × Nat × Nat) :=
  let p := p.finishPending hlsToRgb
  if p.aborted then .error "image exceeds maximum size limit"
  else
    let w := max (p.rasterWidth.getD p.maxX) p.maxX
    let h := max (p.rasterHeight.getD p.maxY) p.maxY
    if w = 0 ∨ h = 0 then .error "image decode failed: sixel image has zero dimensions"
    else if w * h * 4 > maxSixelPixelBytes then .error "image exceeds maximum size limit"
    else .ok (build w h p.pictureColor, w, h)

theorem length_pictureColor (col row : Nat) : (p.pictureColor col row).length = 4 := by
  have hbackground : p.background.length = 4 := by
    unfold background
    cases p.bgMode <;> rfl
  unfold pictureColor
  split
  · split
    · rfl
    · exact hbackground
  · exact hbackground

/-- **A sixel picture has four bytes for each of its pixels.** -/
theorem length_finish {hlsToRgb : Nat → Nat → Nat → Rgb} {p : SixelParser} {rgba : List UInt8} {w h : Nat}
    (hok : p.finish hlsToRgb = .ok (rgba, w, h)) : rgba.length = w * h * 4 := by
  unfold finish at hok
  dsimp only at hok
  split at hok
  · cases hok
  · split at hok
    · cases hok
    · split at hok
      · cases hok
      · cases hok
        exact length_build (length_pictureColor _)

end SixelParser

end OriTerm.Image
