import OriTerm.Lib.Bitflags
import OriTerm.Core.Color

/-!
# `Core.Cell` — one character position of the grid

`CellFlags` is the packed attribute word; `Cell` carries a character, its two colours, the flags and an
optional sidecar (`CellExtra`) for combining marks, a coloured underline, a hyperlink or alpha.

The structural flags (`WRAP`, the wide-character trio, `DRAWN`) are internal state set by concrete writes
only; a cursor template never carries them.
-/

namespace OriTerm

open Lib.Bitflags

/-- Per-cell attribute flags. -/
abbrev CellFlags := BitVec 32

namespace CellFlags

def bold : CellFlags := 1#32 <<< 0
def dim : CellFlags := 1#32 <<< 1
def italic : CellFlags := 1#32 <<< 2
def underline : CellFlags := 1#32 <<< 3
def blink : CellFlags := 1#32 <<< 4
def inverse : CellFlags := 1#32 <<< 5
def hidden : CellFlags := 1#32 <<< 6
def strikethrough : CellFlags := 1#32 <<< 7
def wideChar : CellFlags := 1#32 <<< 8
def wideCharSpacer : CellFlags := 1#32 <<< 9
def wrap : CellFlags := 1#32 <<< 10
def curlyUnderline : CellFlags := 1#32 <<< 11
def dottedUnderline : CellFlags := 1#32 <<< 12
def dashedUnderline : CellFlags := 1#32 <<< 13
def doubleUnderline : CellFlags := 1#32 <<< 14
/-- Padding cell before a wide char that wrapped to the next line. -/
def leadingWideCharSpacer : CellFlags := 1#32 <<< 15
def overline : CellFlags := 1#32 <<< 16
def superscript : CellFlags := 1#32 <<< 17
def subscript : CellFlags := 1#32 <<< 18
/-- Written by the application. -/
def drawn : CellFlags := 1#32 <<< 19
/-- DECSCA protection. -/
def isProtected : CellFlags := 1#32 <<< 20
/-- Some channel is not opaque. -/
def hasAlpha : CellFlags := 1#32 <<< 21

/-- All underline variants. -/
def allUnderlines : CellFlags :=
  underline ||| doubleUnderline ||| curlyUnderline ||| dottedUnderline ||| dashedUnderline

/-- The structural bits a cursor template must not carry. -/
def internalCellState : CellFlags :=
  drawn ||| wrap ||| wideChar ||| wideCharSpacer ||| leadingWideCharSpacer

end CellFlags

/-- Fully-opaque per-channel alpha. -/
def opaqueAlpha : UInt8 := 255

/-- OSC 8 hyperlink data. -/
structure Hyperlink where
  id : Option String
  uri : String
  deriving DecidableEq, Repr

/-- Optional data of the cells that need it. -/
structure CellExtra where
  underlineColor : Option Color := none
  hyperlink : Option Hyperlink := none
  zerowidth : List Char := []
  fgAlpha : UInt8 := opaqueAlpha
  bgAlpha : UInt8 := opaqueAlpha
  underlineAlpha : UInt8 := opaqueAlpha
  deriving DecidableEq, Repr

/-- The sidecar carries nothing and can be dropped. -/
def CellExtra.isDefault (e : CellExtra) : Bool :=
  e.underlineColor.isNone && e.hyperlink.isNone && e.zerowidth.isEmpty
    && e.fgAlpha == opaqueAlpha && e.bgAlpha == opaqueAlpha && e.underlineAlpha == opaqueAlpha

/-- One character position in the grid. -/
structure Cell where
  ch : Char := ' '
  fg : Color := .named .foreground
  bg : Color := .named .background
  flags : CellFlags := 0
  extra : Option CellExtra := none
  deriving DecidableEq, Repr

namespace Cell

variable (c : Cell) (alpha : UInt8)

/-- `Cell::default()`: a blank. -/
def blank : Cell := {}

/-- Background colour erase: a blank with a custom background. -/
def ofBg (bg : Color) : Cell := { bg := bg }

/-- Every field of the cell is overwritten with the template's. -/
def reset (_c template : Cell) : Cell :=
  { ch := template.ch, fg := template.fg, bg := template.bg,
    flags := template.flags, extra := template.extra }

@[simp] theorem reset_eq (c template : Cell) : c.reset template = template := rfl

/-- Visually empty; `DRAWN` and `PROTECTED` are masked out of the flag check. -/
def isEmpty : Bool :=
  c.ch == ' ' && c.fg == .named .foreground && c.bg == .named .background
    && remove c.flags (CellFlags.drawn ||| CellFlags.isProtected) == 0 && c.extra.isNone

/-- SGR 58/59. -/
def setUnderlineColor (color : Option Color) : Cell :=
  match color with
  | some col => { c with extra := some { c.extra.getD {} with underlineColor := some col } }
  | none =>
    match c.extra with
    | some e =>
      let e' := { e with underlineColor := none }
      { c with extra := if e'.isDefault then none else some e' }
    | none => c

/-- OSC 8. -/
def setHyperlink (link : Option Hyperlink) : Cell :=
  match link with
  | some l => { c with extra := some { c.extra.getD {} with hyperlink := some l } }
  | none =>
    match c.extra with
    | some e =>
      let e' := { e with hyperlink := none }
      { c with extra := if e'.isDefault then none else some e' }
    | none => c

/-- Appends a combining mark. -/
def pushZerowidth (ch : Char) : Cell :=
  let e := c.extra.getD {}
  { c with extra := some { e with zerowidth := e.zerowidth ++ [ch] } }

def fgAlpha (c : Cell) : UInt8 := c.extra.elim opaqueAlpha (·.fgAlpha)

def bgAlpha (c : Cell) : UInt8 := c.extra.elim opaqueAlpha (·.bgAlpha)

def underlineAlpha (c : Cell) : UInt8 := c.extra.elim opaqueAlpha (·.underlineAlpha)

/-- Drops a default sidecar and sets `HAS_ALPHA` exactly when some channel is not opaque. -/
def refreshAlphaState : Cell :=
  let extra := if c.extra.any (·.isDefault) then none else c.extra
  let hasAlpha := extra.any fun e =>
    e.fgAlpha != opaqueAlpha || e.bgAlpha != opaqueAlpha || e.underlineAlpha != opaqueAlpha
  { c with extra := extra, flags := set c.flags CellFlags.hasAlpha hasAlpha }

/-- The shared alpha setter: opaque on a cell without a sidecar changes nothing. -/
def setChannelAlpha (assign : CellExtra → CellExtra) : Cell :=
  if alpha = opaqueAlpha ∧ c.extra.isNone then c
  else refreshAlphaState { c with extra := some (assign (c.extra.getD {})) }

def setFgAlpha : Cell :=
  c.setChannelAlpha alpha fun e => { e with fgAlpha := alpha }

def setBgAlpha : Cell :=
  c.setChannelAlpha alpha fun e => { e with bgAlpha := alpha }

def setUnderlineAlpha : Cell :=
  c.setChannelAlpha alpha fun e => { e with underlineAlpha := alpha }

def insertFlags (flags : CellFlags) (c : Cell) : Cell := { c with flags := insert c.flags flags }

def removeFlags (flags : CellFlags) (c : Cell) : Cell := { c with flags := remove c.flags flags }

/-- The flag query used throughout: `cell.flags.contains(f)`. -/
def has (f : CellFlags) : Bool := contains c.flags f

end Cell

end OriTerm
