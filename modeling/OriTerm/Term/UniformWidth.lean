import OriTerm.Term.Op

/-!
# `Term.UniformWidth` — every row of a grid has the grid's width

A snapshot reads the columns `0 .. cols` of every row of the view, so a row of another width is read out of range.
The visible rows always have the grid's width (`Wf`). The scrollback rows keep it as long as no resize changes the
columns without a reflow while rows stay in the scrollback: such a resize rebuilds the visible rows only.
-/

namespace OriTerm

open Lib

/-- Every visible row and every scrollback row has the grid's width. -/
def Grid.UniformWidth (g : Grid) : Prop := (∀ r ∈ g.rows, r.cols = g.cols) ∧ ∀ r ∈ g.scrollback.rows, r.cols = g.cols

instance (g : Grid) : Decidable g.UniformWidth := by
  unfold Grid.UniformWidth
  infer_instance

namespace Term

/-- Both grids have rows of uniform width. -/
def UniformWidth (t : Term) : Prop := t.grid.UniformWidth ∧ ∀ g ∈ t.altGrid, g.UniformWidth

instance (t : Term) : Decidable t.UniformWidth := by
  unfold UniformWidth
  infer_instance

theorem uniform_new {lines cols : Nat} (scrollback : Nat) (theme : Theme) :
    (Term.new lines cols scrollback theme).Uniform := by
  refine ⟨fun r hr => ?_, fun g hg => ?_⟩
  · cases hr
  · have hnone : (none : Option Grid) = some g := hg
    cases hnone

/-- Uniform histories of well-formed grids are uniform widths. -/
theorem Wf.uniformWidth {t : Term} (ht : t.Wf) (hu : t.Uniform) : t.UniformWidth :=
  ⟨⟨ht.grid.width, hu.1⟩, fun g hg => ⟨(ht.altGrid g hg).width, hu.2 g hg⟩⟩

/-- **Uniform width along a run** whose resizes leave no row of another width behind. -/
theorem uniformWidth_run (width : Char → Option Nat) {lines cols : Nat} (scrollback : Nat) (theme : Theme)
    (hcols : 0 < cols) {ops : List TermOp}
    (hops : Along (TermOp.apply width) (fun t op => op.KeepsWidths t) (.new lines cols scrollback theme) ops) :
    (run (TermOp.apply width) (.new lines cols scrollback theme) ops).UniformWidth := by
  have hrun : Wf (run (TermOp.apply width) (.new lines cols scrollback theme) ops) ∧
      Uniform (run (TermOp.apply width) (.new lines cols scrollback theme) ops) := by
    refine hops.invariant (I := fun t => t.Wf ∧ t.Uniform) (fun t op hinv hguard => ?_)
      ⟨wf_new scrollback theme hcols, uniform_new scrollback theme⟩
    have hkeeps := op.keeps width hinv.1
    exact ⟨hkeeps.wf, hkeeps.uniform hguard hinv.2⟩
  exact hrun.1.uniformWidth hrun.2

/-- A line scrolls off, then the window shrinks with a reflow: the scrollback row is rewrapped. -/
theorem uniformWidth_run_reflow :
    (run (TermOp.apply fun _ => some 1) (.new 1 4 8 .dark)
      [.input 'a', .linefeed, .input 'b', .resize 1 2 true]).UniformWidth :=
  uniformWidth_run (fun _ => some 1) 8 .dark (by decide) (by decide)

/-- **Rows left behind.** The same resize without reflow keeps a row of 4 cells in the scrollback of a grid of 2
    columns. -/
theorem resize_leaves_wide_rows :
    ¬ ∀ (width : Char → Option Nat) (lines cols scrollback : Nat) (theme : Theme) (ops : List TermOp), 0 < lines →
      0 < cols → (run (TermOp.apply width) (.new lines cols scrollback theme) ops).UniformWidth := by
  intro h
  have hwide := h (fun _ => some 1) 1 4 8 .dark [.linefeed, .resize 1 2 false] (by decide) (by decide)
  revert hwide
  decide

end Term

end OriTerm
