import OriTerm.Term.Contents

/-!
# `Term.Grids` — the size of the two grids

Only a resize of the window, and a switch of the column mode where it is enabled, change the size of a grid
(**`Grid.size_apply`**, `Grid.hasSize_kept`); a resize gives both grids its size (**`Term.EachGrid.resize`**).
-/

namespace OriTerm

/-! ## The size of a grid -/

namespace Grid

/-- A well-formed grid of a size. -/
structure HasSize (lines cols : Nat) (g : Grid) : Prop where
  wf : g.Wf
  lines : g.lines = lines
  cols : g.cols = cols

variable {g : Grid} {lines cols : Nat}

/-- **Only a resize changes the size.** -/
theorem size_apply (hg : g.Wf) (op : GridOp) (hop : op.resizes = false) :
    (op.apply g).lines = g.lines ∧ (op.apply g).cols = g.cols := by
  have hf := hg.toFramed
  have hrepaints : ∀ {S : Nat → Nat → Prop} {g' : Grid}, Repaints S g g' → g'.lines = g.lines ∧ g'.cols = g.cols :=
    fun h => ⟨h.lines, h.cols⟩
  cases op with
  | edit e => exact hrepaints (tracked_edit hf e).toRepaints
  | putChar width ch => exact hrepaints (scrolls_putChar width ch hf hg.toMarginsOk).toRepaints
  | linefeed => exact hrepaints (scrolls_linefeed (S := nothing) hf).toRepaints
  | nextLine => exact hrepaints (scrolls_nextLine (S := nothing) hf).toRepaints
  | reverseIndex => exact hrepaints (rolls_reverseIndex g).toRepaints
  | scrollUp count => exact hrepaints (scrolls_scrollUp (S := nothing) count hf).toRepaints
  | scrollDown count => exact hrepaints (rolls_scrollDown g count).toRepaints
  | insertLines count => exact hrepaints (rolls_insertLines g count).toRepaints
  | deleteLines count => exact hrepaints (rolls_deleteLines g count).toRepaints
  | eraseDisplay mode => exact hrepaints (scrolls_eraseDisplay hf mode).toRepaints
  | setScrollRegion top bottom =>
    show (g.setScrollRegion top bottom).lines = _ ∧ (g.setScrollRegion top bottom).cols = _
    unfold setScrollRegion
    dsimp only
    split <;> exact ⟨rfl, rfl⟩
  | setLeftRightMargins left right =>
    show (g.setLeftRightMargins left right).lines = _ ∧ (g.setLeftRightMargins left right).cols = _
    unfold setLeftRightMargins
    split <;> exact ⟨rfl, rfl⟩
  | resetLeftRightMargins | reset => exact ⟨rfl, rfl⟩
  | scrollDisplay delta =>
    show (g.scrollDisplay delta).lines = _ ∧ (g.scrollDisplay delta).cols = _
    unfold scrollDisplay
    dsimp only
    split <;> exact ⟨rfl, rfl⟩
  | resize newLines newCols reflow => cases hop

/-- The size of both grids is kept. -/
theorem hasSize_kept (hcols : 0 < cols) : KeptUnlessResized (HasSize lines cols) where
  apply g op hop hg := by
    obtain ⟨hlines, hwidth⟩ := size_apply hg.wf op hop
    exact ⟨(op.keeps hg.wf).wf, hlines.trans hg.lines, hwidth.trans hg.cols⟩
  alternate g hg := by
    rw [hg.lines, hg.cols]
    exact ⟨wf_withScrollback lines 0 hcols, rfl, rfl⟩

/-! ### After a resize -/

theorem size_resizeRows (g : Grid) (newLines : Nat) :
    (g.resizeRows newLines).lines = newLines ∧ (g.resizeRows newLines).cols = g.cols := by
  unfold resizeRows
  by_cases hsame : newLines = g.lines
  · rw [if_pos hsame]
    exact ⟨hsame.symm, rfl⟩
  · rw [if_neg hsame]
    refine ⟨rfl, ?_⟩
    split
    · rfl
    · exact (growRows_keeps newLines).1

theorem lines_reflowCols (g : Grid) (newCols : Nat) : (g.reflowCols newCols).1.lines = g.lines := by
  unfold reflowCols
  dsimp only
  split <;> rfl

/-- **A resize to a size that is not empty** gives the grid that size. -/
theorem size_resize (g : Grid) {newLines newCols : Nat} (hlines : newLines ≠ 0) (hcols : newCols ≠ 0) (reflow : Bool) :
    (g.resize newLines newCols reflow).1.lines = newLines ∧ (g.resize newLines newCols reflow).1.cols = newCols := by
  unfold resize
  rw [if_neg (not_or.mpr ⟨hcols, hlines⟩)]
  by_cases hsame : newCols = g.cols ∧ newLines = g.lines
  · rw [if_pos hsame]
    exact ⟨hsame.2.symm, hsame.1.symm⟩
  rw [if_neg hsame]
  by_cases href : reflow = true ∧ newCols ≠ g.cols
  · rw [if_pos href]
    by_cases hgrow : newCols > g.cols
    · rw [if_pos hgrow]
      exact size_resizeRows ((g.reflowCols newCols).1.setCols newCols) newLines
    · rw [if_neg hgrow]
      exact ⟨(lines_reflowCols ..).trans (size_resizeRows g newLines).1, rfl⟩
  · rw [if_neg href]
    obtain ⟨hrows, hwidth⟩ := size_resizeRows g newLines
    unfold resizeNoReflow
    dsimp only
    split
    · exact ⟨hrows, rfl⟩
    · next hkept => exact ⟨hrows, (not_not.mp hkept).symm⟩

theorem HasSize.resize (hg : g.Wf) {newLines newCols : Nat} (hlines : newLines ≠ 0) (hcols : newCols ≠ 0)
    (reflow : Bool) : HasSize newLines newCols (g.resize newLines newCols reflow).1 := by
  obtain ⟨hnewLines, hnewCols⟩ := size_resize g hlines hcols reflow
  exact ⟨(GridOp.keeps hg (.resize newLines newCols reflow)).wf, hnewLines, hnewCols⟩

end Grid

/-- **A resize of the window** gives both grids its size, if they had one size before; an empty one is ignored. -/
theorem Term.EachGrid.resize {t : Term} {lines cols : Nat} (h : t.EachGrid (Grid.HasSize lines cols))
    (newLines newCols : Nat) (reflow : Bool) :
    (t.resize newLines newCols reflow).EachGrid
      (if newLines = 0 ∨ newCols = 0 then Grid.HasSize lines cols else Grid.HasSize newLines newCols) := by
  unfold Term.resize
  by_cases hempty : newLines = 0 ∨ newCols = 0
  · rw [if_pos hempty, if_pos hempty]
    exact h
  rw [if_neg hempty, if_neg hempty]
  obtain ⟨hlines, hcols⟩ := not_or.mp hempty
  by_cases hsame : t.grid.lines = newLines ∧ t.grid.cols = newCols
  · rw [if_pos hsame, ← hsame.1, ← hsame.2, h.primary.lines, h.primary.cols]
    exact h
  · rw [if_neg hsame]
    have hresized : ∀ reflow g, Grid.HasSize lines cols g →
        Grid.HasSize newLines newCols (g.resize newLines newCols reflow).1 :=
      fun reflow g hg => .resize hg.wf hlines hcols reflow
    exact h.map (hresized reflow) (hresized false) rfl rfl

end OriTerm
