import OriTerm.Core.Editing

/-!
# `Core.Erase` — display, line and character erase

Erased cells get the current background only. The line and character erases are tracked edits, and so are the
partial display erases; erasing the whole display also takes the stale reflow overflow out of the scrollback,
and erasing the scrollback empties it, counting its rows as evicted.
-/

namespace OriTerm

open Lib Lib.Bitflags

/-- ED / CSI Ps J. -/
inductive DisplayEraseMode where
  | below
  | above
  | all
  | scrollback
  deriving DecidableEq, Repr

/-- EL / CSI Ps K. -/
inductive LineEraseMode where
  | right
  | left
  | all
  deriving DecidableEq, Repr

namespace Row

/-- `for cell in &mut cells[start..stop] { cell.reset(template) }`, without touching `occ`. -/
def resetCells (start stop : Nat) (template : Cell) (r : Row) : Row :=
  r.mapCells (mapRange start stop (·.reset template))

/-- Bookkeeping of `occ` after an erase up to the end of the row. -/
def occAfterRight (col cols : Nat) (template : Cell) (r : Row) : Row :=
  if template.isEmpty then r.clampOcc col else r.setOcc cols

/-- Bookkeeping of `occ` after an erase from the start of the row. -/
def occAfterLeft (stop : Nat) (template : Cell) (r : Row) : Row :=
  if template.isEmpty then (if r.occ ≤ stop then r.setOcc 0 else r) else r.setOcc (max r.occ stop)

theorem shape_resetCells (start stop : Nat) (template : Cell) (r : Row) :
    (r.resetCells start stop template).shape = r.shape :=
  shape_mapCells (fun _ => length_mapRange ..) r

theorem getElem?_resetCells {start stop c : Nat} (template : Cell) (r : Row) (hc : ¬ (start ≤ c ∧ c < stop)) :
    (r.resetCells start stop template).inner[c]? = r.inner[c]? := by
  show (mapRange start stop (Cell.reset · template) r.inner)[c]? = _
  rw [getElem?_mapRange]
  simp [if_neg hc]

@[simp] theorem inner_occAfterRight (col cols : Nat) (template : Cell) (r : Row) :
    (r.occAfterRight col cols template).inner = r.inner := by
  unfold occAfterRight
  split <;> rfl

@[simp] theorem inner_occAfterLeft (stop : Nat) (template : Cell) (r : Row) :
    (r.occAfterLeft stop template).inner = r.inner := by
  unfold occAfterLeft
  split
  · split <;> rfl
  · rfl

theorem shape_occAfterRight (col cols : Nat) (template : Cell) (r : Row) :
    (r.occAfterRight col cols template).shape = r.shape := by
  unfold occAfterRight
  split <;> rfl

theorem shape_occAfterLeft (stop : Nat) (template : Cell) (r : Row) :
    (r.occAfterLeft stop template).shape = r.shape := by
  unfold occAfterLeft
  split
  · split <;> rfl
  · rfl

end Row

namespace Grid

/-- EL with a pre-built template. -/
def eraseLineWithTemplate (g : Grid) (mode : LineEraseMode) (template : Cell) : Grid :=
  let line := g.cursor.line
  let col := g.cursor.col
  match mode with
  | .right =>
    ((g.fixWideBoundaries line col g.cols).editRow line fun r =>
      (r.resetCells col g.cols template).occAfterRight col g.cols template).markCols line col (g.cols - 1)
  | .left =>
    let stop := min col (g.cols - 1) + 1
    ((g.fixWideBoundaries line 0 stop).editRow line fun r =>
      (r.resetCells 0 stop template).occAfterLeft stop template).markCols line 0 (min col (g.cols - 1))
  | .all => (g.editRow line (·.reset g.cols template)).markLine line

/-- EL. -/
def eraseLine (g : Grid) (mode : LineEraseMode) : Grid := g.eraseLineWithTemplate mode g.bceTemplate

/-- `for line in start..stop { self.rows[line].reset(self.cols, &template) }`. -/
def resetLines (g : Grid) (start stop : Nat) (template : Cell) : Grid :=
  forRange start stop (fun line g => g.editRow line (·.reset g.cols template)) g

/-- ED. -/
def eraseDisplay (g : Grid) (mode : DisplayEraseMode) : Grid :=
  let template := g.bceTemplate
  match mode with
  | .below =>
    let g := g.eraseLineWithTemplate .right template
    let next := g.cursor.line + 1
    let g := g.resetLines next g.lines template
    if next < g.lines then g.markRange next g.lines else g
  | .above =>
    let g := g.eraseLineWithTemplate .left template
    let line := g.cursor.line
    let g := g.resetLines 0 line template
    if line > 0 then g.markRange 0 line else g
  | .all => (g.resetLines 0 g.lines template).dropStale.markAll
  | .scrollback =>
    markAll { g with totalEvicted := g.totalEvicted + g.scrollback.len
                     scrollback := g.scrollback.clear, displayOffset := 0 }

/-- ECH. -/
def eraseChars (g : Grid) (count : Nat) : Grid :=
  if count = 0 then g
  else
    let line := g.cursor.line
    let col := g.cursor.col
    let template := g.bceTemplate
    let stop := min (col + count) g.cols
    ((g.fixWideBoundaries line col stop).editRow line fun r =>
      let r := r.resetCells col stop template
      if template.isEmpty then r else r.setOcc (max r.occ stop)).markCols line col (stop - 1)

/-! ## Erases are tracked -/

variable {g g' : Grid} {S : Nat → Nat → Prop}

/-- Erasing the cells `[start, stop)` of a line and marking them. -/
theorem tracked_eraseSpan {line start : Nat} (stop : Nat) (template : Cell) {f : Row → Row} (h : Tracked g g')
    (hshape : ∀ r, (f r).shape = r.shape) (hinner : ∀ r, (f r).inner = (r.resetCells start stop template).inner) :
    Tracked g ((g'.editRow line f).markCols line start (stop - 1)) := by
  refine Edits.markCols _ _ _ ?_ fun _ _ h => h
  refine h.edits.editRow line f hshape fun r c hne => ⟨rfl, ?_⟩
  rw [hinner] at hne
  by_contra hout
  exact hne (Row.getElem?_resetCells template r (by omega))

/-- Resetting a whole line that is owed. -/
theorem Edits.resetRow (h : Edits S g g') (hg : Framed g) (line : Nat) (template : Cell)
    (hS : ∀ c, S line c) : Edits S g (g'.editRow line (·.reset g'.cols template)) :=
  h.trans (edits_editRow g' line _
    (fun r hr => Row.shape_reset g'.cols template ((h.framed hg).width r hr)) fun _ c _ _ => hS c)

theorem Edits.resetLines (h : Edits S g g') (hg : Framed g) (start stop : Nat) (template : Cell)
    (hS : ∀ line c, start ≤ line → line < stop → S line c) :
    Edits S g (g'.resetLines start stop template) := by
  exact forRange_invariant
    (fun line x hs he hx => hx.resetRow hg line template fun c => hS line c hs he) h

theorem tracked_eraseLineWithTemplate (hg : Framed g) (mode : LineEraseMode) (template : Cell) :
    Tracked g (g.eraseLineWithTemplate mode template) := by
  cases mode with
  | right =>
    exact tracked_eraseSpan _ template (tracked_fixWideBoundaries ..)
      (fun r => (Row.shape_occAfterRight ..).trans (Row.shape_resetCells ..))
      fun r => Row.inner_occAfterRight ..
  | left =>
    exact tracked_eraseSpan (min g.cursor.col (g.cols - 1) + 1) template
      (tracked_fixWideBoundaries ..)
      (fun r => (Row.shape_occAfterLeft ..).trans (Row.shape_resetCells ..))
      fun r => Row.inner_occAfterLeft ..
  | all =>
    exact ((Edits.refl (fun i _ => i = g.cursor.line) g).resetRow hg g.cursor.line template
      fun _ => rfl).markLine g.cursor.line fun _ _ h => h

theorem tracked_eraseLine (hg : Framed g) (mode : LineEraseMode) : Tracked g (g.eraseLine mode) :=
  tracked_eraseLineWithTemplate hg mode _

theorem tracked_eraseChars (g : Grid) (count : Nat) : Tracked g (g.eraseChars count) := by
  unfold eraseChars
  split
  · exact .refl _ g
  · refine tracked_eraseSpan _ g.bceTemplate (tracked_fixWideBoundaries ..) (fun r => ?_)
      fun r => ?_
    · have hcells := Row.shape_resetCells g.cursor.col (min (g.cursor.col + count) g.cols) g.bceTemplate r
      split
      · exact hcells
      · exact (Row.shape_setOcc ..).trans hcells
    · split <;> rfl

section

variable (hg : Framed g)
include hg

theorem tracked_eraseBelow : Tracked g (g.eraseDisplay .below) := by
  have hline := tracked_eraseLineWithTemplate hg .right g.bceTemplate
  have hreset := Edits.resetLines (S := fun i _ => (g.eraseLineWithTemplate .right g.bceTemplate).cursor.line + 1 ≤ i
      ∧ i < (g.eraseLineWithTemplate .right g.bceTemplate).lines) hline.edits hg
    _ _ g.bceTemplate fun _ _ hs he => ⟨hs, he⟩
  unfold eraseDisplay
  dsimp only
  split
  · exact hreset.markRange _ _ fun _ _ h => ⟨h.1, by rw [hreset.lines, ← hline.lines]; exact h.2⟩
  · next hnot =>
    have hempty : ∀ i, ¬ ((g.eraseLineWithTemplate .right g.bceTemplate).cursor.line + 1 ≤ i
        ∧ i < (g.eraseLineWithTemplate .right g.bceTemplate).lines) := by
      intro i hi
      rw [hreset.lines, ← hline.lines] at hnot
      omega
    exact hreset.mono fun i _ h => absurd h (hempty i)

theorem tracked_eraseAbove : Tracked g (g.eraseDisplay .above) := by
  have hline := tracked_eraseLineWithTemplate hg .left g.bceTemplate
  have hreset := Edits.resetLines
    (S := fun i _ => 0 ≤ i ∧ i < (g.eraseLineWithTemplate .left g.bceTemplate).cursor.line) hline.edits hg
    0 _ g.bceTemplate fun _ _ hs he => ⟨hs, he⟩
  unfold eraseDisplay
  dsimp only
  split
  · exact hreset.markRange _ _ fun _ _ h => h
  · next hnot => exact hreset.mono fun i _ h => absurd h (by omega)

/-- **ED 2**: the visible rows are edited in place; only the stale overflow leaves the scrollback. -/
theorem eraseAll_eq : ∃ g₁, Edits (fun _ _ => True) g g₁ ∧ g.eraseDisplay .all = g₁.dropStale.markAll :=
  ⟨_, (Edits.refl (fun _ _ => True) g).resetLines hg 0 g.lines g.bceTemplate fun _ _ _ _ => trivial, rfl⟩

/-- Taking the stale overflow out of the scrollback shows nowhere on the screen. -/
theorem scrolls_dropStale : Scrolls S g g.dropStale :=
  { lines := rfl, cols := rfl, dirty := .refl _, cells := fun _ _ _ _ hne => absurd rfl hne
    region := ⟨rfl, rfl⟩, margins := ⟨rfl, rfl⟩
    framed := ⟨hg.rows, hg.width, hg.dirtyLines, hg.dirtyCols⟩
    uniform := fun hu r hr => hu r (mem_freshScrollback hr), live := id }

theorem framed_markAll : Framed g.markAll := ⟨hg.rows, hg.width, hg.dirtyLines, hg.dirtyCols⟩

end

theorem Scrolls.markAll (h : Scrolls S g g') : Scrolls nothing g g'.markAll :=
  { h with toRepaints := h.toRepaints.markAll, framed := framed_markAll h.framed }

theorem scrolls_eraseDisplay (hg : Framed g) (mode : DisplayEraseMode) : Scrolls nothing g (g.eraseDisplay mode) := by
  cases mode with
  | below => exact (tracked_eraseBelow hg).scrolls hg
  | above => exact (tracked_eraseAbove hg).scrolls hg
  | all =>
    obtain ⟨g₁, hedit, heq⟩ := eraseAll_eq hg
    rw [heq]
    exact ((hedit.scrolls hg).trans (scrolls_dropStale (hedit.framed hg))).markAll
  | scrollback =>
    exact { lines := rfl, cols := rfl, dirty := DirtyTracker.grows_markAll _
            cells := fun i c _ _ _ => .inr (DirtyTracker.covers_markAll _ i c)
            region := ⟨rfl, rfl⟩, margins := ⟨rfl, rfl⟩
            framed := ⟨hg.rows, hg.width, hg.dirtyLines, hg.dirtyCols⟩
            uniform := fun _ r hr => by
              cases hr
            live := fun _ => rfl }

end Grid

end OriTerm
