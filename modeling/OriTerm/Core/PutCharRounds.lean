import OriTerm.Core.Bounds

/-!
# `Core.PutCharRounds` — printing ends

`LoopEnds` runs the loop of `put_char_slow` without fuel and counts its rounds. A character that is no wider than the
grid is written in the first round or in the second: after a wrap it fits (`wrapWrite_wrapStep`).

**`putChar_ends`** — so it is in every grid reached, and the cursor is left on the screen.
-/

namespace OriTerm.Grid

open Lib

/-- The loop of `put_char_slow`: so many rounds, the last of which writes the character. -/
inductive LoopEnds (width : Nat) (ch : Char) : Nat → Grid → Grid → Prop
  | write {g : Grid} (h : g.wrapWrite width = none) : LoopEnds width ch 1 g (g.writeChar width ch)
  | wrap {g g' g'' : Grid} {n : Nat} (h : g.wrapWrite width = some g') (rest : LoopEnds width ch n (g.wrapStep g') g'') :
      LoopEnds width ch (n + 1) g g''

/-- A character that is no wider than the grid takes at most two rounds. -/
theorem loopEnds_putChar {g : Grid} (hg : Wf g) {width : Nat} (ch : Char) (hw : width ≤ g.cols) :
    ∃ n ≤ 2, LoopEnds width ch n g (g.putChar width ch) := by
  unfold putChar putCharSlow
  rw [if_neg (Nat.not_lt.mpr hw), putCharLoop_settles ch hg.toFramed hg.toMarginsOk hw (Nat.le_refl _)]
  cases h : g.wrapWrite width with
  | none => exact ⟨1, by decide, .write h⟩
  | some g' => exact ⟨2, Nat.le_refl _, .wrap h (.write (wrapWrite_wrapStep hg.toFramed hg.toMarginsOk hw h))⟩

/-- **Printing makes progress** in every grid reached: a character that is wider than the grid is skipped, any other is
    written after at most one wrap, and the cursor stays on the screen. -/
theorem putChar_ends {lines cols maxScrollback : Nat} (hl : 0 < lines) (hc : 0 < cols) {ops : List GridOp}
    (hops : Along GridOp.apply (fun g op => op.InRange g) (withScrollback lines cols maxScrollback) ops) {width : Nat}
    (hw : width ≤ 2) (ch : Char) :
    let g := run GridOp.apply (withScrollback lines cols maxScrollback) ops
    (g.cols < width ∧ g.putChar width ch = g ∨ ∃ n ≤ 2, LoopEnds width ch n g (g.putChar width ch)) ∧
      (g.putChar width ch).cursor.Within (g.putChar width ch).lines (g.putChar width ch).cols := by
  have hb : Placed False (run GridOp.apply (withScrollback lines cols maxScrollback) ops) :=
    hops.invariant (I := Placed False) (fun _ _ hb hG => GridOp.placed hb hG nofun)
      (bounded_withScrollback maxScrollback hl hc).placed
  refine ⟨?_, (hb.putChar ch hw).cursor⟩
  by_cases hfits : width ≤ (run GridOp.apply (withScrollback lines cols maxScrollback) ops).cols
  · exact .inr (loopEnds_putChar hb.toWf ch hfits)
  · exact .inl ⟨Nat.lt_of_not_le hfits, if_pos (Nat.lt_of_not_le hfits)⟩

/-- A wide character between margins of two columns, behind one that has taken the first of them. -/
theorem putChar_ends_band :
    let g := run GridOp.apply (withScrollback 1 4 0)
      [.setLeftRightMargins 1 2, .edit (.setCol 1), .putChar 1 'a']
    (g.cols < 2 ∧ g.putChar 2 'b' = g ∨ ∃ n ≤ 2, LoopEnds 2 'b' n g (g.putChar 2 'b')) ∧
      (g.putChar 2 'b').cursor.Within (g.putChar 2 'b').lines (g.putChar 2 'b').cols :=
  putChar_ends (by decide) (by decide) (by decide) (by decide) 'b'

end OriTerm.Grid
