import Mathlib.Data.List.Basic

/-!
# `Core.Color` — colours and the 270-entry palette

`Color` is what a cell stores; `Palette.resolve` turns it into `Rgb`. The palette layout is 0–15 ANSI,
16–231 the colour cube, 232–255 the grayscale ramp, 256–269 the named semantic slots.
-/

namespace OriTerm

/-- A concrete colour. -/
structure Rgb where
  r : UInt8
  g : UInt8
  b : UInt8
  deriving DecidableEq, Repr, Inhabited

/-- Named colours; `NamedColor.index` is the discriminant, an index into the palette. -/
inductive NamedColor where
  | black | red | green | yellow | blue | magenta | cyan | white
  | brightBlack | brightRed | brightGreen | brightYellow
  | brightBlue | brightMagenta | brightCyan | brightWhite
  | foreground | background | cursor
  | dimBlack | dimRed | dimGreen | dimYellow | dimBlue | dimMagenta | dimCyan | dimWhite
  | brightForeground | dimForeground
  deriving DecidableEq, Repr

namespace NamedColor

/-- `name as usize`. -/
def index : NamedColor → Nat
  | black => 0 | red => 1 | green => 2 | yellow => 3
  | blue => 4 | magenta => 5 | cyan => 6 | white => 7
  | brightBlack => 8 | brightRed => 9 | brightGreen => 10 | brightYellow => 11
  | brightBlue => 12 | brightMagenta => 13 | brightCyan => 14 | brightWhite => 15
  | foreground => 256 | background => 257 | cursor => 258
  | dimBlack => 259 | dimRed => 260 | dimGreen => 261 | dimYellow => 262
  | dimBlue => 263 | dimMagenta => 264 | dimCyan => 265 | dimWhite => 266
  | brightForeground => 267 | dimForeground => 268

/-- The bold-as-bright promotion. -/
def toBright : NamedColor → NamedColor
  | foreground => brightForeground
  | black => brightBlack | red => brightRed | green => brightGreen | yellow => brightYellow
  | blue => brightBlue | magenta => brightMagenta | cyan => brightCyan | white => brightWhite
  | dimForeground => foreground
  | dimBlack => black | dimRed => red | dimGreen => green | dimYellow => yellow
  | dimBlue => blue | dimMagenta => magenta | dimCyan => cyan | dimWhite => white
  | val => val

/-- The dim variant. -/
def toDim : NamedColor → NamedColor
  | black => dimBlack | red => dimRed | green => dimGreen | yellow => dimYellow
  | blue => dimBlue | magenta => dimMagenta | cyan => dimCyan | white => dimWhite
  | foreground => dimForeground
  | brightBlack => black | brightRed => red | brightGreen => green | brightYellow => yellow
  | brightBlue => blue | brightMagenta => magenta | brightCyan => cyan | brightWhite => white
  | brightForeground => foreground
  | val => val

end NamedColor

/-- Terminal colour: named, direct, or indexed. -/
inductive Color where
  | named (name : NamedColor)
  | spec (rgb : Rgb)
  | indexed (idx : UInt8)
  deriving DecidableEq, Repr

/-! ## The palette -/

/-- 256 indexed entries and 14 named semantic slots. -/
def numColors : Nat := 270

/-- The colour of an out-of-range palette query. -/
def fallbackColor : Rgb := ⟨0, 0, 0⟩

/-- The host colour scheme. -/
inductive Theme where
  | dark | light | unknown
  deriving DecidableEq, Repr

/-- An unknown theme counts as dark. -/
def Theme.isDark : Theme → Bool
  | .light => false
  | _ => true

/-- Live entries, the defaults a reset goes back to, and the configured selection colours. -/
structure Palette where
  colors : List Rgb
  defaults : List Rgb
  selectionFg : Option Rgb
  selectionBg : Option Rgb
  deriving DecidableEq, Repr

/-- Two thirds of the brightness. -/
def dimRgb (c : Rgb) : Rgb :=
  let dim (v : UInt8) : UInt8 := UInt8.ofNat (v.toNat * 2 / 3)
  ⟨dim c.r, dim c.g, dim c.b⟩

namespace Palette

variable (p : Palette) (index : Nat) (theme : Theme)

/-- The ANSI entries 0–15. -/
def ansiColors : List Rgb :=
  [⟨0x00, 0x00, 0x00⟩, ⟨0xcd, 0x00, 0x00⟩, ⟨0x00, 0xcd, 0x00⟩, ⟨0xcd, 0xcd, 0x00⟩,
   ⟨0x00, 0x00, 0xee⟩, ⟨0xcd, 0x00, 0xcd⟩, ⟨0x00, 0xcd, 0xcd⟩, ⟨0xe5, 0xe5, 0xe5⟩,
   ⟨0x7f, 0x7f, 0x7f⟩, ⟨0xff, 0x00, 0x00⟩, ⟨0x00, 0xff, 0x00⟩, ⟨0xff, 0xff, 0x00⟩,
   ⟨0x5c, 0x5c, 0xff⟩, ⟨0xff, 0x00, 0xff⟩, ⟨0x00, 0xff, 0xff⟩, ⟨0xff, 0xff, 0xff⟩]

/-- One component of the colour cube: 0, otherwise `55 + n * 40`. -/
def cubeComponent (n : Nat) : UInt8 := if n = 0 then 0 else UInt8.ofNat (55 + n * 40)

/-- The 6×6×6 colour cube, entries 16–231. -/
def cube : List Rgb :=
  (List.range 216).map fun i =>
    ⟨cubeComponent (i / 36), cubeComponent (i / 6 % 6), cubeComponent (i % 6)⟩

/-- The grayscale ramp, entries 232–255. -/
def grayscale : List Rgb :=
  (List.range 24).map fun i => let v := UInt8.ofNat (8 + i * 10); ⟨v, v, v⟩

/-- Foreground, background and cursor colours of a theme. -/
def themeColors : Rgb × Rgb × Rgb :=
  if theme.isDark then (⟨0xcc, 0xcc, 0xcc⟩, ⟨0x00, 0x00, 0x00⟩, ⟨0xff, 0xff, 0xff⟩)
  else (⟨0x2e, 0x34, 0x36⟩, ⟨0xff, 0xff, 0xff⟩, ⟨0x00, 0x00, 0x00⟩)

/-- The 270 entries built for a theme; the last one is never assigned and stays black. -/
def buildPalette : List Rgb :=
  let (fg, bg, cursor) := themeColors theme
  ansiColors ++ cube ++ grayscale ++ [fg, bg, cursor] ++ (ansiColors.take 8).map dimRgb
    ++ [fg, dimRgb fg, ⟨0, 0, 0⟩]

/-- A palette whose semantic colours follow the theme. -/
def forTheme : Palette where
  colors := buildPalette theme
  defaults := buildPalette theme
  selectionFg := none
  selectionBg := none

/-- The colour at an index, black when out of range. -/
def color : Rgb := p.colors.getD index fallbackColor

/-- The concrete colour of a cell colour. -/
def resolve : Color → Rgb
  | .spec rgb => rgb
  | .indexed idx => p.color idx.toNat
  | .named name => p.color name.index

/-- OSC 4; an index past the table is ignored. -/
def setIndexed (color : Rgb) : Palette :=
  if index < numColors then { p with colors := p.colors.set index color } else p

/-- OSC 104; an index past the table is ignored. -/
def resetIndexed : Palette :=
  if index < numColors then
    { p with colors := p.colors.set index (p.defaults.getD index fallbackColor) }
  else p

/-- Sets both the live entry and the default it resets to. -/
def setDefault (color : Rgb) : Palette :=
  if index < numColors then
    { p with colors := p.colors.set index color, defaults := p.defaults.set index color }
  else p

/-- DECSCNM: the default foreground and background exchanged. -/
def swapFgBg : Palette :=
  let fg := p.color NamedColor.foreground.index
  let bg := p.color NamedColor.background.index
  { p with
    colors := (p.colors.set NamedColor.foreground.index bg).set NamedColor.background.index fg }

end Palette

end OriTerm
