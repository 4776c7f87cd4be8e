import OriTerm.Lib.Run
import OriTerm.Core.Grid

/-!
# `Core.WideChar` — wide-character boundary fix-ups

Overwriting half of a wide character leaves the other half orphaned. The two helpers blank the orphan and mark
it, so that either one alone is `Tracked`.
-/

namespace OriTerm

open Lib Lib.Bitflags CellFlags

/-- Blanks a cell's character and drops a flag. -/
def Cell.orphan (flag : CellFlags) (c : Cell) : Cell :=
  { c with ch := ' ', flags := remove c.flags flag }

namespace Grid

variable (g : Grid) (line col : Nat)

/-- Blanks an orphaned half and marks it. -/
def blankOrphan (flag : CellFlags) : Grid :=
  (g.editCell line col (Cell.orphan flag)).markCols line col col

/-- Clears the halves outside `[start, stop)` of the pairs split by an erase of that range. -/
def fixWideBoundaries (line start stop : Nat) : Grid :=
  let g :=
    if start > 0 && start < g.cols && (g.cell line start).has wideCharSpacer then
      g.blankOrphan line (start - 1) wideChar
    else g
  if stop > 0 && stop < g.cols && (g.cell line (stop - 1)).has wideChar then
    g.blankOrphan line stop wideCharSpacer
  else g

/-- Clears the other half of a wide pair at the position. -/
def clearWideCharAt : Grid :=
  if col ≥ g.cols then g
  else
    let flags := (g.cell line col).flags
    let g :=
      if contains flags wideCharSpacer && col > 0 then
        g.blankOrphan line (col - 1) wideChar
      else g
    if contains flags wideChar && col + 1 < g.cols then
      g.blankOrphan line (col + 1) wideCharSpacer
    else g

theorem tracked_blankOrphan (flag : CellFlags) : Tracked g (g.blankOrphan line col flag) := by
  refine (edits_editCell g line col _).markCols line col col ?_
  rintro i c ⟨rfl, rfl⟩
  exact ⟨rfl, Nat.le_refl _, Nat.le_refl _⟩

theorem tracked_fixWideBoundaries (line start stop : Nat) : Tracked g (g.fixWideBoundaries line start stop) := by
  unfold fixWideBoundaries
  dsimp only
  split
  · split
    · exact (tracked_blankOrphan ..).trans (tracked_blankOrphan ..)
    · exact tracked_blankOrphan ..
  · split
    · exact tracked_blankOrphan ..
    · exact .refl _ g

theorem tracked_clearWideCharAt : Tracked g (g.clearWideCharAt line col) := by
  unfold clearWideCharAt
  split
  · exact .refl _ g
  · dsimp only
    split
    · split
      · exact (tracked_blankOrphan ..).trans (tracked_blankOrphan ..)
      · exact tracked_blankOrphan ..
    · split
      · exact tracked_blankOrphan ..
      · exact .refl _ g

end Grid

end OriTerm
