import OriTerm.Core.Bounds
import OriTerm.Core.Overflow
import OriTerm.Core.ReflowLayout

/-!
# `Core.ResizeCursor` — the cursor through a change of the number of columns

A resize with reflow rewrites the whole history at the new width, then shares the rows out: the last ones are the
screen, the ones above go into the scrollback, and what does not fit there is lost. `KeepsCursor` says what a user
expects of it: the text is the same, and the cursor is on the character it was on, on the row of the screen that
holds it.

Two things can go wrong. Past the content of an unwrapped row the column is kept instead of the character
(`EndColumnKept`), and the line of the cursor is counted from the rows the scrollback *retained*, so it is too low
by the rows that were lost (`LineKept`). `keepsCursor_iff` says that nothing else does.
-/

namespace OriTerm

open Lib List

namespace Grid

/-! ## What is expected -/

/-- The position of the cursor, counted from the oldest row. -/
def cursorPos (g : Grid) : Nat × Nat := (g.scrollback.len + g.cursor.line, g.cursor.col)

/-- **The rows are shared out**: blank rows at the end are left out or added, the oldest `lost` are evicted, and the
    others are the scrollback and the screen. -/
def Shares (all : List Row) (newCols lost : Nat) (after : Grid) : Prop :=
  ∃ kept blanks fill, all = kept ++ blanks ∧ (∀ r ∈ blanks, r.isBlank = true)
    ∧ after.history = (kept ++ List.replicate fill (Row.new newCols)).drop lost

/-- The rows that the resize evicts from the scrollback. -/
def lostRows (g : Grid) (newCols : Nat) : Nat := (g.resize g.lines newCols true).1.totalEvicted - g.totalEvicted

/-- **A change of the number of columns keeps the cursor on its character.** -/
structure KeepsCursor (g : Grid) (newCols : Nat) : Prop where
  /-- The rows at the new width read as the same lines. -/
  text : logicalLines newCols (g.rewrap newCols g.history).rows
    = ((readRows g.cols g.history).1 ++ (readRows g.cols g.history).2.toList).map (shownLine newCols)
  /-- They are the rows of the grid after the resize. -/
  shares : Shares (g.rewrap newCols g.history).rows newCols (lostRows g newCols) (g.resize g.lines newCols true).1
  /-- The tracked position stays on the character. -/
  char : ∀ line k, IsChar g.cols g.history line k → Points g.cols g.history g.cursorPos line k →
    Points newCols (g.rewrap newCols g.history).rows
      ((g.rewrap newCols g.history).newCursorAbs, (g.rewrap newCols g.history).newCursorCol) line k
  /-- As long as its row is on the screen, the cursor is there. -/
  visible : OnText g.cols g.history g.cursorPos →
    lostRows g newCols + (g.resize g.lines newCols true).1.scrollback.len ≤ (g.rewrap newCols g.history).newCursorAbs →
    lostRows g newCols + (g.resize g.lines newCols true).1.cursorPos.1 = (g.rewrap newCols g.history).newCursorAbs
      ∧ (g.resize g.lines newCols true).1.cursorPos.2 = (g.rewrap newCols g.history).newCursorCol

/-- **When the cursor comes out on the right line**: no row that holds something is lost above a cursor that is on
    the screen and not on the last row with text. -/
def LineKept (g : Grid) (newCols : Nat) : Prop :=
  let reach := (layout (g.reflowParams newCols 0) g.history).reach
  let row := cursorRow (g.reflowParams newCols 0) g.history
  row + 1 < reach → reach - g.lines ≤ row → reach - g.lines ≤ g.scrollback.maxScrollback

instance (g : Grid) (newCols : Nat) : Decidable (g.LineKept newCols) := by
  unfold LineKept
  infer_instance

/-! ## What a resize of the columns does -/

variable {g : Grid} {newCols : Nat}

/-- Which rows are history makes no difference to the column. -/
theorem newCursorCol_rewrap (g : Grid) (newCols boundary : Nat) (rows : List Row) :
    (reflowCells rows (g.reflowParams newCols boundary)).newCursorCol = (g.rewrap newCols rows).newCursorCol := by
  have hsink := sink_reflowLoop_boundary rows (g.reflowParams newCols boundary) 0
  unfold rewrap reflowCells
  dsimp only
  rw [← hsink]
  rfl

/-- The scrollback after a reflow, and how many rows it evicted. -/
def refilled (g : Grid) (newCols : Nat) : ScrollbackBuffer × Nat :=
  g.scrollback.drainOldestFirst.1.clear.pushAll ((g.rewrapped newCols).take (g.above newCols))

/-- What a reflow does: the rows above the screen and on it, the rows lost, the cursor. -/
structure Reflowed (g : Grid) (newCols : Nat) (after : Grid) : Prop where
  lines : after.lines = g.lines
  scrollback : after.scrollback = (g.refilled newCols).1
  rows : after.rows = Lib.resize g.lines (Row.new newCols) ((g.rewrapped newCols).drop (g.above newCols))
  totalEvicted : after.totalEvicted = g.totalEvicted + (g.refilled newCols).2
  cursorLine : after.cursor.line =
    if (g.rewrap newCols g.history).newCursorAbs ≥ (g.refilled newCols).1.len then
      min ((g.rewrap newCols g.history).newCursorAbs - (g.refilled newCols).1.len) (g.lines - 1)
    else 0
  cursorCol : after.cursor.col = min (g.rewrap newCols g.history).newCursorCol (newCols - 1)

theorem reflowed_reflowCols (hne : ¬ (g.cols = newCols ∨ newCols = 0)) : Reflowed g newCols (g.reflowCols newCols).1 := by
  have hdrain := g.scrollback.drainOldestFirst_eq.1
  have hall : g.scrollback.drainOldestFirst.2 ++ g.rows = g.history := by
    rw [hdrain]
    rfl
  have hstart : g.scrollback.drainOldestFirst.2.length = g.scrollback.len := by
    rw [hdrain, ScrollbackBuffer.length_rows]
  obtain ⟨hrows, hcursor⟩ := g.rewrap_eq newCols (g.scrollback.len - g.resizePushed) g.history
  have hcol := g.newCursorCol_rewrap newCols (g.scrollback.len - g.resizePushed) g.history
  have hreflow : (g.reflowCols newCols).1
      = ({ g with scrollback := g.scrollback.drainOldestFirst.1, rows := [] }.applyReflowResult
          (reflowCells g.history (g.reflowParams newCols (g.scrollback.len - g.resizePushed))) newCols).1 := by
    unfold reflowCols reflowParams
    rw [if_neg hne]
    dsimp only
    rw [hall, hstart]
  rw [hreflow]
  generalize reflowCells g.history (g.reflowParams newCols (g.scrollback.len - g.resizePushed)) = outcome at *
  have hkept : trimResult (max g.lines (outcome.newCursorAbs + 1))
      (if outcome.rows.isEmpty then [Row.new newCols] else outcome.rows) = g.rewrapped newCols := by
    unfold rewrapped
    rw [hrows, hcursor]
  have hrefilled : g.scrollback.drainOldestFirst.1.clear.pushAll
      ((g.rewrapped newCols).take ((g.rewrapped newCols).length - g.lines)) = g.refilled newCols := rfl
  constructor <;> unfold applyReflowResult <;> dsimp only
  · rw [hkept, hrefilled]
  · rw [hkept]
    rfl
  · rw [hkept, hrefilled]
  · rw [hkept, hrefilled, hcursor]
  · rw [hcol]

/-- A change of the columns is a reflow and the clamps. -/
theorem resize_cols (g : Grid) (h0 : newCols ≠ 0) (hl : g.lines ≠ 0) (hne : newCols ≠ g.cols) :
    (g.resize g.lines newCols true).1 = ((g.reflowCols newCols).1.setCols newCols).finalizeResize := by
  have hlines : (g.reflowCols newCols).1.lines = g.lines := by
    refine (reflowed_reflowCols ?_).lines
    rintro (h | h)
    · exact hne h.symm
    · exact h0 h
  unfold resize
  rw [if_neg (by omega), if_neg (by omega), if_pos ⟨rfl, hne⟩]
  split
  · dsimp only
    rw [show ((g.reflowCols newCols).1.setCols newCols).resizeRows g.lines = (g.reflowCols newCols).1.setCols newCols from
      if_pos hlines.symm]
  · rw [show g.resizeRows g.lines = g from if_pos rfl]

/-! ## The rows are shared out -/

theorem length_trimResult (minRows : Nat) (rows : List Row) :
    (trimResult minRows rows).length = min (max minRows (rows.rdropWhile Row.isBlank).length) rows.length := by
  unfold trimResult
  rw [length_take]

/-- What is trimmed is blank. -/
theorem isBlank_of_trimmed {minRows : Nat} {rows : List Row} :
    ∀ r ∈ rows.drop (max minRows (rows.rdropWhile Row.isBlank).length), r.isBlank = true := by
  intro r hr
  have hdrop := @drop_left _ (rows.rdropWhile Row.isBlank) (rows.rtakeWhile Row.isBlank)
  rw [rdropWhile_append_rtakeWhile] at hdrop
  have hmem : r ∈ rows.drop (rows.rdropWhile Row.isBlank).length :=
    mem_of_mem_drop (by
      rw [drop_drop]
      have hsum : (rows.rdropWhile Row.isBlank).length
          + (max minRows (rows.rdropWhile Row.isBlank).length - (rows.rdropWhile Row.isBlank).length)
          = max minRows (rows.rdropWhile Row.isBlank).length := by omega
      rwa [hsum])
  rw [hdrop] at hmem
  exact mem_rtakeWhile_imp hmem

/-- How many rows are evicted and how many are retained. -/
theorem refilled_spec (g : Grid) (newCols : Nat) :
    (g.refilled newCols).1.rows = ((g.rewrapped newCols).take (g.above newCols)).drop (g.refilled newCols).2
      ∧ (g.refilled newCols).1.len = min (g.above newCols) g.scrollback.maxScrollback
      ∧ (g.refilled newCols).2 + (g.refilled newCols).1.len = g.above newCols := by
  obtain ⟨-, -, hmax⟩ := g.scrollback.drainOldestFirst_eq
  obtain ⟨hrows, -, hle⟩ := g.scrollback.drainOldestFirst.1.clear.rows_pushAll ((g.rewrapped newCols).take (g.above newCols))
  have hlen := g.scrollback.drainOldestFirst.1.clear.len_pushAll ((g.rewrapped newCols).take (g.above newCols))
  have htake : ((g.rewrapped newCols).take (g.above newCols)).length = g.above newCols := by
    rw [length_take]
    unfold above
    omega
  change (g.refilled newCols).1.rows = List.drop (g.refilled newCols).2 _ at hrows
  change (g.refilled newCols).2 ≤ _ at hle
  rw [ScrollbackBuffer.rows_clear, nil_append] at hrows
  rw [ScrollbackBuffer.len_clear, Nat.zero_add, htake, ScrollbackBuffer.maxScrollback_clear, hmax] at hlen
  rw [ScrollbackBuffer.len_clear] at hle
  refine ⟨hrows, hlen, ?_⟩
  have hcount := congrArg List.length hrows
  rw [ScrollbackBuffer.length_rows, length_drop] at hcount
  omega

theorem readRows_ne_nil (cols : Nat) {rows : List Row} (h : rows ≠ []) :
    (readRows cols rows).1 ++ (readRows cols rows).2.toList ≠ [] := by
  obtain ⟨init, r, rfl⟩ : ∃ init r, rows = init ++ [r] := ⟨_, _, (dropLast_concat_getLast h).symm⟩
  rw [readRows_concat]
  unfold readRow
  split <;> simp

/-- Some row comes out. -/
theorem rewrap_ne_nil (hcols : 0 < newCols) (hwf : ∀ r ∈ g.history, r.WellFormed g.cols) (h : g.history ≠ []) :
    (g.rewrap newCols g.history).rows ≠ [] := by
  have htext := @logicalLines_reflowCells g.history (g.reflowParams newCols 0) hcols hwf
  intro hnil
  change logicalLines newCols (g.rewrap newCols g.history).rows = _ at htext
  rw [hnil] at htext
  exact readRows_ne_nil g.cols h (map_eq_nil_iff.mp htext.symm)

/-- **The rows of the grid after a reflow.** -/
theorem shares_of_reflowed {after : Grid} (hne : (g.rewrap newCols g.history).rows ≠ []) (h : Reflowed g newCols after) :
    Shares (g.rewrap newCols g.history).rows newCols (g.refilled newCols).2 after := by
  obtain ⟨hrefill, -, hsum⟩ := g.refilled_spec newCols
  have hkept : g.rewrapped newCols
      = trimResult (max g.lines ((g.rewrap newCols g.history).newCursorAbs + 1)) (g.rewrap newCols g.history).rows := by
    unfold rewrapped
    dsimp only
    rw [if_neg (by simpa using hne)]
  refine ⟨g.rewrapped newCols, (g.rewrap newCols g.history).rows.drop
    (max (max g.lines ((g.rewrap newCols g.history).newCursorAbs + 1))
      ((g.rewrap newCols g.history).rows.rdropWhile Row.isBlank).length),
    g.lines - ((g.rewrapped newCols).drop (g.above newCols)).length, ?_, isBlank_of_trimmed, ?_⟩
  · rw [hkept]
    exact (take_append_drop ..).symm
  · have hscreen : ((g.rewrapped newCols).drop (g.above newCols)).length ≤ g.lines := by
      rw [length_drop]
      unfold above
      omega
    have hbelow : (g.refilled newCols).2 ≤ ((g.rewrapped newCols).take (g.above newCols)).length := by
      rw [length_take]
      unfold above at hsum ⊢
      omega
    unfold history
    rw [h.scrollback, h.rows, hrefill]
    unfold Lib.resize
    rw [take_of_length_le hscreen, ← append_assoc, ← drop_append_of_le_length hbelow,
      take_append_drop, drop_append_of_le_length]
    rw [length_take] at hbelow
    omega

/-! ## The line of the cursor -/

/-- The line is counted from the rows retained: it is right unless rows are lost above a cursor on the screen. -/
theorem line_iff {lines row reach len limit above : Nat} (hlines : 0 < lines) (hreach : reach ≤ len) (hrow : row < len)
    (habove : above = min (max (max lines (row + 1)) reach) len - lines) :
    (above ≤ row →
        above + min (if row ≥ min above limit then min (row - min above limit) (lines - 1) else 0) (lines - 1) = row)
      ↔ (row + 1 < reach → reach - lines ≤ row → reach - lines ≤ limit) := by
  rcases Nat.lt_or_ge (row + 1) reach with hbelow | hlast
  · -- text below the cursor: it decides how many rows there are
    rcases Nat.lt_or_ge lines reach with hmany | hfew
    · have habove : above = reach - lines := by omega
      subst habove
      constructor
      · intro h _ hscreen
        have := h hscreen
        split at this <;> omega
      · intro h hscreen
        split <;> omega
    · constructor
      · intros
        omega
      · intros
        split <;> omega
  · -- the cursor is on the last row
    constructor
    · intros
      omega
    · intro _ hscreen
      split <;> omega

/-! ## The cursor -/

theorem getElem?_cursorPos (hg : g.Bounded) : ∃ r, g.history[g.cursorPos.1]? = some r := by
  have hlt : g.cursorPos.1 < g.history.length := by
    unfold history cursorPos
    rw [length_append, ScrollbackBuffer.length_rows, hg.rows]
    exact Nat.add_lt_add_left hg.cursor.1 _
  exact ⟨_, getElem?_eq_getElem hlt⟩

/-- **The cursor is on the tracked row** exactly if no row is lost above it, or it is on the last row with text. -/
theorem visible_iff {after : Grid} (hg : g.Bounded) (hwf : ∀ r ∈ g.history, r.WellFormed g.cols) (h0 : 0 < newCols)
    (h : Reflowed g newCols after) (htext : OnText g.cols g.history g.cursorPos) :
    (g.above newCols ≤ (g.rewrap newCols g.history).newCursorAbs →
        g.above newCols + min after.cursor.line (g.lines - 1) = (g.rewrap newCols g.history).newCursorAbs)
      ↔ g.LineKept newCols := by
  obtain ⟨r, hr⟩ := getElem?_cursorPos hg
  have hlt := @newCursorAbs_lt g.history (g.reflowParams newCols 0) r h0 hwf hr htext
  change (g.rewrap newCols g.history).newCursorAbs < (g.rewrap newCols g.history).rows.length at hlt
  have hreach := @reach_reflowCells (g.reflowParams newCols 0) g.history h0
  have hrow := @cursorRow_reflowCells g.history (g.reflowParams newCols 0) r h0 hr
  have habove : g.above newCols
      = min (max (max g.lines ((g.rewrap newCols g.history).newCursorAbs + 1))
          ((g.rewrap newCols g.history).rows.rdropWhile Row.isBlank).length) (g.rewrap newCols g.history).rows.length
        - g.lines := by
    unfold above rewrapped
    dsimp only
    rw [if_neg (by
      rw [List.isEmpty_iff]
      intro hnil
      rw [hnil] at hlt
      exact absurd hlt (Nat.not_lt_zero _)), length_trimResult]
  have hlines : 0 < g.lines := Nat.zero_lt_of_lt hg.cursor.1
  rw [h.cursorLine, (g.refilled_spec newCols).2.1]
  unfold LineKept
  rw [← hreach, ← hrow]
  exact line_iff hlines ( rdropWhile_prefix _ _).length_le hlt habove

/-- Two rows of three columns that read "abcd", the cursor directly after the last character. -/
def typed : Grid :=
  { withScrollback 2 3 1 with
    rows := [⟨[{ ch := 'a' }, { ch := 'b' }, { ch := 'c', flags := CellFlags.wrap }], 3, none⟩,
      ⟨[{ ch := 'd' }, Cell.blank, Cell.blank], 1, none⟩]
    cursor := { line := 1, col := 1 } }

/-- Two lines of three characters, the cursor on the first character of the second. -/
def twoLines : Grid :=
  { withScrollback 2 3 1 with
    rows := [⟨[{ ch := 'a' }, { ch := 'b' }, { ch := 'c' }], 3, none⟩, ⟨[{ ch := 'd' }, { ch := 'e' }, { ch := 'f' }], 3, none⟩]
    cursor := { line := 1, col := 0 } }

/-- **A change of the columns keeps the cursor on its character exactly** if its column past the content of an
    unwrapped row happens to be right, and no rows are lost above its line. -/
theorem keepsCursor_iff {g : Grid} (hg : g.Bounded) (hwf : ∀ r ∈ g.history, r.WellFormed g.cols) {newCols : Nat}
    (h0 : 0 < newCols) (hne : newCols ≠ g.cols) :
    KeepsCursor g newCols
      ↔ EndColumnKept g.history (g.reflowParams newCols 0)
        ∧ (OnText g.cols g.history g.cursorPos → g.LineKept newCols) := by
  have hlines : 0 < g.lines := Nat.zero_lt_of_lt hg.cursor.1
  have hreflow : Reflowed g newCols (g.reflowCols newCols).1 := reflowed_reflowCols (by omega)
  have hafter : (g.resize g.lines newCols true).1 = ((g.reflowCols newCols).1.setCols newCols).finalizeResize :=
    g.resize_cols (by omega) (by omega) hne
  obtain ⟨r, hr⟩ := getElem?_cursorPos hg
  obtain ⟨-, -, hsum⟩ := g.refilled_spec newCols
  have hlost : lostRows g newCols = (g.refilled newCols).2 := by
    unfold lostRows
    rw [hafter]
    show (g.reflowCols newCols).1.totalEvicted - g.totalEvicted = _
    rw [hreflow.totalEvicted]
    omega
  have hretained : (g.resize g.lines newCols true).1.scrollback.len = (g.refilled newCols).1.len := by
    rw [hafter]
    exact congrArg ScrollbackBuffer.len hreflow.scrollback
  have hpos : (g.resize g.lines newCols true).1.cursorPos
      = ((g.refilled newCols).1.len + min (g.reflowCols newCols).1.cursor.line (g.lines - 1),
          (g.rewrap newCols g.history).newCursorCol) := by
    have hcol : (g.rewrap newCols g.history).newCursorCol ≤ newCols - 1 :=
      @newCursorCol_le g.history (g.reflowParams newCols 0) r h0 hwf hr
    rw [hafter]
    refine Prod.ext ?_ ?_
    · show (g.reflowCols newCols).1.scrollback.len + min (g.reflowCols newCols).1.cursor.line
        ((g.reflowCols newCols).1.lines - 1) = _
      rw [hreflow.scrollback, hreflow.lines]
    · show min (g.reflowCols newCols).1.cursor.col (newCols - 1) = _
      rw [hreflow.cursorCol]
      omega
  have hkept := @cursorKept_iff g.history (g.reflowParams newCols 0) r h0 hwf hr
  constructor
  · intro h
    refine ⟨hkept.mp h.char, fun htext => (visible_iff hg hwf h0 hreflow htext).mp fun hscreen => ?_⟩
    have hvisible := (h.visible htext (by rw [hlost, hretained]; omega)).1
    rw [hlost, hpos] at hvisible
    omega
  · rintro ⟨hcolumn, hline⟩
    have hne : g.history ≠ [] := by
      intro hnil
      rw [hnil] at hr
      cases hr
    refine ⟨@logicalLines_reflowCells g.history (g.reflowParams newCols 0) h0 hwf, ?_, hkept.mpr hcolumn, ?_⟩
    · obtain ⟨kept, blanks, fill, hall, hblank, hshared⟩ := shares_of_reflowed (rewrap_ne_nil h0 hwf hne) hreflow
      refine ⟨kept, blanks, fill, hall, hblank, ?_⟩
      rw [hlost, hafter]
      exact hshared
    · intro htext hscreen
      rw [hlost, hretained] at hscreen
      have hvisible := (visible_iff hg hwf h0 hreflow htext).mpr (hline htext) (by omega)
      rw [hlost, hpos]
      exact ⟨by dsimp only; omega, rfl⟩

/-- Widened to six columns, the two lines keep the cursor on its character. -/
theorem twoLines_keepsCursor : KeepsCursor twoLines 6 := by
  have hbounded : twoLines.Bounded :=
    { bounded_withScrollback 1 (show 0 < 2 by decide) (show 0 < 3 by decide) with
      rows := rfl
      width := by decide
      cursor := ⟨by decide, by decide⟩ }
  exact (keepsCursor_iff hbounded (by decide) (by decide) (by decide)).mpr
    ⟨fun _ hpast => absurd hpast (by decide), fun _ => by decide⟩

/-- Widened to five columns, the cursor behind "abcd" comes out behind "a". Narrowed to two columns, the cursor on "d"
    comes out on "f": two rows are above it and the scrollback holds one. -/
theorem typed_loses_cursor : ¬ KeepsCursor typed 5 ∧ ¬ KeepsCursor twoLines 2 := by
  constructor
  · intro h
    have hchar := (h.char 0 3 (by unfold IsChar; decide) ⟨by decide, .inr (by decide)⟩).char
    revert hchar
    decide
  · intro h
    have hvisible := h.visible ⟨1, 0, by unfold IsChar; decide, ⟨by decide, .inl (by decide)⟩⟩ (by decide)
    revert hvisible
    decide

end Grid

end OriTerm
