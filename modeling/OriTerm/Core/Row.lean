import Mathlib.Data.List.DropRight
import OriTerm.Lib.ListEdit
import OriTerm.Core.Cell

/-!
# `Core.Row` — one row of cells

A row is its cells and `occ`, an upper bound on the cells written since the last reset, which lets `reset`
touch only the written part.

`tag` is a ghost: the identity of the row object, `none` for one that was just made. It is not in the
source and no function reads it; edits keep it and a fresh or recycled row has none. The row-identity
results follow a row by its tag.
-/

namespace OriTerm

open Lib

/-- One row of cells. -/
structure Row where
  inner : List Cell
  occ : Nat
  tag : Option Nat := none
  deriving DecidableEq, Repr

namespace Row

variable (r : Row) (occ : Nat) (c : Nat)

/-- A row of `cols` default cells. -/
def new (cols : Nat) : Row := { inner := List.replicate cols Cell.blank, occ := 0 }

/-- Number of columns. -/
def cols : Nat := r.inner.length

/-- `row[Column(c)]`. -/
def get : Cell := r.inner.getD c Cell.blank

/-- Writes through `IndexMut`: the cell is edited and `occ` covers it. -/
def modify (r : Row) (c : Nat) (f : Cell → Cell) : Row :=
  { r with inner := r.inner.modify c f, occ := max r.occ (c + 1) }

/-- Resets all cells to the template. Only `occ` cells are touched unless the background differs from the
    one the untouched cells carry. -/
def reset (r : Row) (cols : Nat) (template : Cell) : Row :=
  let occ := if r.inner.getLast?.any (·.bg ≠ template.bg) then r.inner.length else r.occ
  let inner := Lib.resize cols template r.inner
  { r with inner := mapRange 0 (min occ cols) (·.reset template) inner, occ := 0 }

/-- Clears the cells `start ≤ c < stop`. -/
def clearRange (start stop : Nat) (template : Cell) : Row :=
  let stop := min stop r.inner.length
  if start ≥ stop then r
  else
    { r with
      inner := mapRange start stop (·.reset template) r.inner
      occ := if template.isEmpty then r.occ else max r.occ stop }

/-- Clears from a column to the end of the row. -/
def truncate (col : Nat) (template : Cell) : Row :=
  if col ≥ r.inner.length then r
  else
    { r with
      inner := mapRange col r.inner.length (·.reset template) r.inner
      occ := if template.isEmpty then min r.occ col else r.inner.length }

/-- Only empty cells. -/
def isBlank : Bool := r.inner.all Cell.isEmpty

/-- Number of cells with content: the trailing blanks do not count. -/
def contentLen : Nat := (r.inner.rdropWhile Cell.isEmpty).length

/-- Pads with default cells or truncates. -/
def resize (r : Row) (newCols : Nat) : Row :=
  { r with inner := Lib.resize newCols Cell.blank r.inner, occ := min r.occ newCols }

/-- Edits the cell slice; `occ` is the caller's business. -/
def mapCells (f : List Cell → List Cell) : Row := { r with inner := f r.inner }

def clampOcc (limit : Nat) : Row := { r with occ := min r.occ limit }

def setOcc : Row := { r with occ := occ }

/-! ## Widths -/

@[simp] theorem inner_new (cols : Nat) : (new cols).inner = List.replicate cols Cell.blank := rfl

@[simp] theorem cols_new (cols : Nat) : (new cols).cols = cols := by simp [Row.cols, new]

@[simp] theorem inner_modify (f : Cell → Cell) :
    (r.modify c f).inner = r.inner.modify c f := rfl

@[simp] theorem cols_modify (f : Cell → Cell) : (r.modify c f).cols = r.cols := by
  simp [Row.cols]

@[simp] theorem cols_reset (cols : Nat) (template : Cell) : (r.reset cols template).cols = cols := by
  simp [Row.cols, reset]

@[simp] theorem cols_resize (newCols : Nat) : (r.resize newCols).cols = newCols := by
  simp [Row.cols, resize]

@[simp] theorem inner_setOcc : (r.setOcc occ).inner = r.inner := rfl

@[simp] theorem cols_setOcc : (r.setOcc occ).cols = r.cols := rfl

end Row

end OriTerm
