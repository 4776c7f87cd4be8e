import OriTerm.Core.Cell

/-!
# `Term.Sgr` — SGR attribute dispatch

Maps an attribute to an edit of the cursor template.
-/

namespace OriTerm

open Lib.Bitflags CellFlags

/-- Terminal character attributes. -/
inductive Attr where
  | reset | bold | dim | italic | underline | doubleUnderline | undercurl | dottedUnderline | dashedUnderline
  | blinkSlow | blinkFast | reverse | hidden | strike
  | cancelBold | cancelBoldDim | cancelItalic | cancelUnderline | cancelBlink | cancelReverse | cancelHidden
  | cancelStrike | overline | cancelOverline | superscript | subscript | cancelSuperSubscript
  | foreground (color : Color)
  | background (color : Color)
  | underlineColor (color : Option Color)
  | foregroundRgba (rgb : Rgb) (alpha : UInt8)
  | backgroundRgba (rgb : Rgb) (alpha : UInt8)
  | underlineColorRgba (rgb : Rgb) (alpha : UInt8)
  deriving DecidableEq, Repr

/-- Underline variants are mutually exclusive. -/
def Cell.setUnderline (f : CellFlags) (c : Cell) : Cell := (c.removeFlags allUnderlines).insertFlags f

namespace Attr

/-- Applies an attribute to the cursor template. A plain colour carries no alpha, so it resets its channel to
    opaque; `PROTECTED` is no SGR attribute and survives SGR 0. -/
def apply (attr : Attr) (t : Cell) : Cell :=
  match attr with
  | reset =>
    let t := { t with fg := .named .foreground, bg := .named .background
                      flags := t.flags &&& isProtected }
    (((t.setUnderlineColor none).setFgAlpha opaqueAlpha).setBgAlpha opaqueAlpha).setUnderlineAlpha opaqueAlpha
  | bold => t.insertFlags .bold
  | dim => t.insertFlags .dim
  | italic => t.insertFlags .italic
  | underline => t.setUnderline .underline
  | doubleUnderline => t.setUnderline .doubleUnderline
  | undercurl => t.setUnderline .curlyUnderline
  | dottedUnderline => t.setUnderline .dottedUnderline
  | dashedUnderline => t.setUnderline .dashedUnderline
  | blinkSlow | blinkFast => t.insertFlags .blink
  | reverse => t.insertFlags .inverse
  | hidden => t.insertFlags .hidden
  | strike => t.insertFlags .strikethrough
  | cancelBold => t.removeFlags .bold
  | cancelBoldDim => t.removeFlags (CellFlags.bold ||| CellFlags.dim)
  | cancelItalic => t.removeFlags .italic
  | cancelUnderline => t.removeFlags .allUnderlines
  | cancelBlink => t.removeFlags .blink
  | cancelReverse => t.removeFlags .inverse
  | cancelHidden => t.removeFlags .hidden
  | cancelStrike => t.removeFlags .strikethrough
  | overline => t.insertFlags .overline
  | cancelOverline => t.removeFlags .overline
  | superscript => (t.removeFlags .subscript).insertFlags .superscript
  | subscript => (t.removeFlags .superscript).insertFlags .subscript
  | cancelSuperSubscript => t.removeFlags (CellFlags.superscript ||| CellFlags.subscript)
  | foreground color => { t with fg := color }.setFgAlpha opaqueAlpha
  | background color => { t with bg := color }.setBgAlpha opaqueAlpha
  | underlineColor color => (t.setUnderlineColor color).setUnderlineAlpha opaqueAlpha
  | foregroundRgba rgb alpha => { t with fg := .spec rgb }.setFgAlpha alpha
  | backgroundRgba rgb alpha => { t with bg := .spec rgb }.setBgAlpha alpha
  | underlineColorRgba rgb alpha => (t.setUnderlineColor (some (.spec rgb))).setUnderlineAlpha alpha

end Attr

end OriTerm
