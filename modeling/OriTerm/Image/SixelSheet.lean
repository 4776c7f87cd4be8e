import OriTerm.Image.Sixel

/-!
# `Image.SixelSheet` — what a sixel stream draws

The meaning of a sixel stream, without a buffer: `SixelLexer` cuts the bytes into commands, and a command changes a
`SixelSheet`, the unbounded plane of pixels with the palette and the position of the pen. A draw command colours a run
of columns at once, and nothing is ever clipped or refused.

What the decoder makes of the same bytes is compared with the sheet: the picture has the dimensions of the sheet
(`width`, `height`), its pixels are those of the plane, and it should be refused exactly when it `Exceeds` the limits.
The decoder's own refusals are `Refused`: they look at the working buffer, whose sides are rounded up to powers of
two, and at every declared size, also at one that a later one replaces.
-/

namespace OriTerm.Image

open Lib

/-! ## Commands -/

/-- A complete command of a sixel stream. -/
inductive SixelCommand where
  /-- `count` columns of the same six bits. -/
  | draw (value : UInt8) (count : Nat)
  /-- Selects a register, after defining it when at least three parameters were given. -/
  | color (params : List Nat) (paramIdx : Nat)
  | raster (width height : Nat)
  | carriageReturn
  | newLine
  deriving DecidableEq

/-- The introducer being read, 0 for none, and its parameters so far. -/
structure SixelLexer where
  cmd : UInt8 := 0
  params : List Nat := List.replicate 5 0
  paramIdx : Nat := 0
  deriving DecidableEq

namespace SixelLexer

variable (lx : SixelLexer)

def param (i : Nat) : Nat := lx.params.getD i 0

/-- The command that ends when another one begins. A repeat that no sixel follows is none. -/
def pending : List SixelCommand :=
  if lx.cmd = 35 then [.color lx.params lx.paramIdx]
  else if lx.cmd = 34 ∧ lx.paramIdx ≥ 3 then [.raster (lx.param 2) (lx.param 3)]
  else []

/-- Nothing is being read. -/
def idle : SixelLexer := { lx with cmd := 0 }

/-- Reads one byte: the commands it completes. -/
def feed (byte : UInt8) : SixelLexer × List SixelCommand :=
  if 0x3F ≤ byte ∧ byte ≤ 0x7E then
    let value := byte - 0x3F
    if lx.cmd = 33 then (lx.idle, [.draw value (max (lx.param 0) 1)])
    else (lx.idle, lx.pending ++ [.draw value 1])
  else if 48 ≤ byte ∧ byte ≤ 57 ∧ lx.cmd ≠ 0 ∧ lx.paramIdx < 5 then
    let shifted := min (lx.param lx.paramIdx * 10) (2 ^ 32 - 1)
    ({ lx with params := lx.params.set lx.paramIdx (min (shifted + (byte.toNat - 48)) (2 ^ 32 - 1)) }, [])
  else if byte = 59 ∧ lx.cmd ≠ 0 ∧ lx.paramIdx < 4 then ({ lx with paramIdx := lx.paramIdx + 1 }, [])
  else if byte = 36 then (lx.idle, lx.pending ++ [.carriageReturn])
  else if byte = 45 then (lx.idle, lx.pending ++ [.newLine])
  else if byte = 33 ∨ byte = 35 ∨ byte = 34 then ({ cmd := byte }, lx.pending)
  else (lx, [])

end SixelLexer

/-! ## The sheet -/

/-- The plane being drawn on. -/
structure SixelSheet where
  /-- The colour of the last bit drawn over a pixel. -/
  canvas : Nat → Nat → Option Rgb := fun _ _ => none
  palette : List Rgb
  currentColor : Nat := 0
  x : Nat := 0
  y : Nat := 0
  /-- One past the rightmost column drawn, set bits or not. -/
  maxX : Nat := 0
  /-- One past the lowest row drawn. -/
  maxY : Nat := 0
  /-- The raster attributes, the latest first. -/
  declared : List (Nat × Nat) := []

/-- The bytes of a drawn pixel. -/
def rgbaOf (rgb : Rgb) : List UInt8 := [rgb.r, rgb.g, rgb.b, 255]

/-- The bytes of an undrawn pixel, from P2. -/
def sixelBackground (params : List Nat) (terminalBg : Rgb) : List UInt8 :=
  match params[1]?.getD 0 with
  | 1 => [0, 0, 0, 0]
  | 2 => rgbaOf terminalBg
  | _ => [0, 0, 0, 255]

/-- The colour of a definition, in RGB or HLS; another colour system defines none. -/
def definedColor (hlsToRgb : Nat → Nat → Nat → Rgb) (params : List Nat) : Option Rgb :=
  let percent := fun n => UInt8.ofNat (min n 100 * 255 / 100)
  match params.getD 1 0 with
  | 2 => some ⟨percent (params.getD 2 0), percent (params.getD 3 0), percent (params.getD 4 0)⟩
  | 1 => some (hlsToRgb (min (params.getD 2 0) 360) (min (params.getD 3 0) 100) (min (params.getD 4 0) 100))
  | _ => none

/-- The plane with the bits of `value` drawn in the columns `left ≤ x < right` below row `top`. -/
def drawBits (canvas : Nat → Nat → Option Rgb) (value : UInt8) (rgb : Rgb) (left right top : Nat) :
    Nat → Nat → Option Rgb := fun x y =>
  if left ≤ x ∧ x < right ∧ top ≤ y ∧ y < top + 6 ∧ value.toNat.testBit (y - top) then some rgb else canvas x y

namespace SixelSheet

variable (s : SixelSheet)

/-- A blank sheet with the VT340 palette. -/
def blank : SixelSheet := { palette := vt340Palette ++ List.replicate (256 - vt340Palette.length) ⟨0, 0, 0⟩ }

/-- Carries out a command. -/
def perform (hlsToRgb : Nat → Nat → Nat → Rgb) (colorRegisters : Nat) (s : SixelSheet) : SixelCommand → SixelSheet
  | .draw value count =>
    { s with
      canvas := drawBits s.canvas value (s.palette.getD s.currentColor ⟨0, 0, 0⟩) s.x (s.x + count) s.y
      x := s.x + count, maxX := max s.maxX (s.x + count), maxY := max s.maxY (s.y + 6) }
  | .color params paramIdx =>
    let idx := params.getD 0 0 % colorRegisters
    let palette :=
      if paramIdx ≥ 2 then ((definedColor hlsToRgb params).map (s.palette.set idx)).getD s.palette else s.palette
    { s with palette := palette, currentColor := idx }
  | .raster width height => { s with declared := (width, height) :: s.declared }
  | .carriageReturn => { s with x := 0 }
  | .newLine => { s with y := s.y + 6, x := 0 }

/-- The width of the picture: as declared last, or as drawn where that is more. -/
def width : Nat := max ((s.declared.head?.map Prod.fst).getD s.maxX) s.maxX

/-- The height of the picture. -/
def height : Nat := max ((s.declared.head?.map Prod.snd).getD s.maxY) s.maxY

/-- The bytes of a pixel of the picture over a background. -/
def colorAt (background : List UInt8) (x y : Nat) : List UInt8 :=
  ((s.canvas x y).map rgbaOf).getD background

/-- **The picture is too large** for the limits on its sides and its bytes. -/
def Exceeds : Prop :=
  s.width > maxSixelDimension ∨ s.height > maxSixelDimension ∨ s.width * s.height * 4 > maxSixelPixelBytes

end SixelSheet

/-- One byte of the stream, drawn on the sheet. -/
def sixelStep (hlsToRgb : Nat → Nat → Nat → Rgb) (colorRegisters : Nat) (state : SixelLexer × SixelSheet) (byte : UInt8) :
    SixelLexer × SixelSheet :=
  ((state.1.feed byte).1, (state.1.feed byte).2.foldl (SixelSheet.perform hlsToRgb colorRegisters) state.2)

/-- The state after all bytes. -/
def sixelState (hlsToRgb : Nat → Nat → Nat → Rgb) (colorRegisters : Nat) (bytes : List UInt8) :
    SixelLexer × SixelSheet :=
  run (sixelStep hlsToRgb colorRegisters) ({}, SixelSheet.blank) bytes

/-- **The sheet of a stream**: all its bytes, and the command that its end completes. -/
def sheetOf (hlsToRgb : Nat → Nat → Nat → Rgb) (colorRegisters : Nat) (bytes : List UInt8) : SixelSheet :=
  let state := sixelState hlsToRgb colorRegisters bytes
  state.1.pending.foldl (SixelSheet.perform hlsToRgb colorRegisters) state.2

/-! ## The decoder's refusals -/

/-- A side of the working buffer that holds `n` pixels. -/
def rounded (n : Nat) : Nat := min n.nextPowerOfTwo maxSixelDimension

/-- A declared size that is refused at once. -/
def DeclaredTooLarge (size : Nat × Nat) : Prop :=
  size.1 > maxSixelDimension ∨ size.2 > maxSixelDimension ∨ size.1 * size.2 * 4 > maxSixelPixelBytes

instance (size : Nat × Nat) : Decidable (DeclaredTooLarge size) := by unfold DeclaredTooLarge; infer_instance

/-- The working buffer for what is drawn within the column limit would be too large. -/
def BufferTooLarge (canvas : Nat → Nat → Option Rgb) : Prop :=
  ∃ x y x' y', x < maxSixelDimension ∧ x' < maxSixelDimension ∧ (canvas x y).isSome ∧ (canvas x' y').isSome ∧
    rounded (x + 1) * rounded (y' + 1) * 4 > maxSixelPixelBytes

namespace SixelSheet

/-- The decoder gives the stream up while it reads it. -/
def Aborts (s : SixelSheet) : Prop := (∃ size ∈ s.declared, DeclaredTooLarge size) ∨ BufferTooLarge s.canvas

/-- The width the decoder sees: it draws no column past the limit. -/
def clippedWidth (s : SixelSheet) : Nat :=
  max ((s.declared.head?.map Prod.fst).getD (min s.maxX maxSixelDimension)) (min s.maxX maxSixelDimension)

/-- **What the decoder refuses.** -/
def Refused (s : SixelSheet) : Prop := s.Aborts ∨ s.clippedWidth * s.height * 4 > maxSixelPixelBytes

end SixelSheet

end OriTerm.Image
