import OriTerm.Core.Row

/-!
# `Core.Reflow` — cell-by-cell text reflow for column-width changes

`reflowCells` walks every source cell in row-major order and re-emits it at the new width: spacers are
skipped and regenerated, a row that overflows is pushed with its WRAP flag set, a row that is not wrapped
ends its line. The purpose is to move cells between rows **without changing the text**: `logicalLines` reads
rows back as the lines they wrap, and `reflowCells_preserves` says that reflow keeps them.

The proof follows the loop: `Emitting` describes the sink between two cells (what is written in the row in
progress, what the finished rows read as), one lemma carries it over a pushed row, one over a written cell,
and the inductions over the cells of a row and over the rows are built on those two.
-/

namespace OriTerm

open Lib Lib.Bitflags List CellFlags

variable (c : Cell) (cols : Nat) (rows : List Row) (allRows : List Row) (params : ReflowParams) (r : Row)

/-! ## The code -/

/-- Widths, cursor position and history boundary before the reflow. -/
structure ReflowParams where
  oldCols : Nat
  newCols : Nat
  cursorAbs : Nat
  cursorCol : Nat
  historyBoundary : Nat
  deriving DecidableEq, Repr

/-- Rows and positions after the reflow. -/
structure ReflowOutcome where
  rows : List Row
  newCursorAbs : Nat
  newCursorCol : Nat
  newHistoryBoundary : Nat
  firstOutputRow : List Nat
  deriving DecidableEq, Repr

/-- Read-only inputs of one source row. -/
structure RowReflowInput where
  srcRow : Row
  srcIdx : Nat
  contentLen : Nat
  newCols : Nat
  cursorAbs : Nat
  cursorCol : Nat

/-- Output built so far: finished rows, the row in progress with its write column, the tracked cursor. -/
structure RowReflowSink where
  result : List Row
  outRow : Row
  outCol : Nat
  newCursorAbs : Nat
  newCursorCol : Nat

/-- Either kind of wide-character spacer. -/
def Cell.isSpacer : Bool :=
  intersects c.flags (wideCharSpacer ||| leadingWideCharSpacer)

namespace RowReflowSink

/-- Pushes the full row in progress. Its last cell gets WRAP; when a wide character left that cell unused it
    becomes a leading spacer. -/
def pushWrapped (sink : RowReflowSink) (newCols : Nat) (isWide : Bool) : RowReflowSink :=
  let outRow :=
    if sink.outCol > 0 then
      sink.outRow.modify (newCols - 1) fun boundary =>
        let boundary := { boundary with flags := insert boundary.flags wrap }
        if isWide && sink.outCol < newCols then
          { boundary with
            ch := ' '
            flags := insert boundary.flags (leadingWideCharSpacer ||| drawn) }
        else boundary
    else sink.outRow
  { sink with
    result := sink.result ++ [outRow.setOcc newCols]
    outRow := Row.new newCols
    outCol := 0 }

/-- Writes a cell at the write column, with its structural flags stripped and its spacer regenerated. -/
def writeCell (sink : RowReflowSink) (cell : Cell) (isWide : Bool) : RowReflowSink :=
  let flags := remove cell.flags (wrap ||| leadingWideCharSpacer)
  let flags :=
    if !isWide && cell.has wideChar then remove flags wideChar else flags
  let newCell := { cell with flags := flags }
  let outRow := sink.outRow.modify sink.outCol fun _ => newCell
  let outCol := sink.outCol + 1
  if isWide then
    let spacer : Cell :=
      { fg := cell.fg, bg := cell.bg, flags := wideCharSpacer ||| drawn }
    { sink with
      outRow := (outRow.modify outCol fun _ => spacer).setOcc (outCol + 1), outCol := outCol + 1 }
  else { sink with outRow := outRow.setOcc outCol, outCol := outCol }

/-- One source cell: spacers are skipped, a cell that does not fit wraps first. -/
def reflowCell (sink : RowReflowSink) (input : RowReflowInput) (srcCol : Nat) : RowReflowSink :=
  let cell := input.srcRow.get srcCol
  let atCursor := input.srcIdx = input.cursorAbs ∧ srcCol = input.cursorCol
  if cell.isSpacer then
    if atCursor then
      { sink with newCursorAbs := sink.result.length, newCursorCol := sink.outCol - 1 }
    else sink
  else
    let isWide := cell.has wideChar && decide (input.newCols ≥ 2)
    let cellWidth := if isWide then 2 else 1
    let sink :=
      if sink.outCol + cellWidth > input.newCols then sink.pushWrapped input.newCols isWide else sink
    let sink :=
      if atCursor then
        { sink with newCursorAbs := sink.result.length, newCursorCol := sink.outCol }
      else sink
    sink.writeCell cell isWide

/-- The content cells of one source row. -/
def reflowRowCells (sink : RowReflowSink) (input : RowReflowInput) : RowReflowSink :=
  (List.range input.contentLen).foldl (fun sink srcCol => sink.reflowCell input srcCol) sink

/-- The cursor may sit past the content of its row. -/
def trackPastContent (sink : RowReflowSink) (input : RowReflowInput) (wrapped : Bool) : RowReflowSink :=
  if input.srcIdx = input.cursorAbs ∧ input.cursorCol ≥ input.contentLen then
    { sink with
      newCursorAbs := sink.result.length
      newCursorCol :=
        if wrapped then min sink.outCol (input.newCols - 1)
        else min input.cursorCol (input.newCols - 1) }
  else sink

/-- The end of a source row that is not wrapped: the row in progress is finished as it stands. -/
def finishRow (sink : RowReflowSink) (newCols : Nat) : RowReflowSink :=
  { sink with result := sink.result ++ [sink.outRow], outRow := Row.new newCols, outCol := 0 }

end RowReflowSink

/-- The row continues on the next one. -/
def Row.wrapped : Bool :=
  decide (cols > 0) && decide (r.cols ≥ cols) && (r.get (cols - 1)).has wrap

/-- The loop state of `reflowCells`. -/
structure ReflowState where
  sink : RowReflowSink
  newHistoryBoundary : Nat
  historyTracked : Bool
  firstOutputRow : List Nat

/-- One source row. -/
def ReflowState.reflowRow (st : ReflowState) (src : Row × Nat) : ReflowState :=
  let (srcRow, srcIdx) := src
  let track := !st.historyTracked && decide (srcIdx ≥ params.historyBoundary)
  let newHistoryBoundary := if track then st.sink.result.length else st.newHistoryBoundary
  let historyTracked := st.historyTracked || track
  let wrapped := srcRow.wrapped params.oldCols
  let contentLen := if wrapped then params.oldCols else srcRow.contentLen
  let firstRow :=
    if contentLen = 0 ∨ st.sink.outCol < params.newCols then st.sink.result.length
    else st.sink.result.length + 1
  let input : RowReflowInput :=
    { srcRow, srcIdx, contentLen, newCols := params.newCols, cursorAbs := params.cursorAbs
      cursorCol := params.cursorCol }
  let sink := (st.sink.reflowRowCells input).trackPastContent input wrapped
  let sink := if wrapped then sink else sink.finishRow params.newCols
  { sink, newHistoryBoundary, historyTracked, firstOutputRow := st.firstOutputRow ++ [firstRow] }

/-- The loop over all source rows. -/
def reflowLoop : ReflowState :=
  allRows.zipIdx.foldl (ReflowState.reflowRow params)
    { sink := ⟨[], Row.new params.newCols, 0, 0, 0⟩, newHistoryBoundary := 0, historyTracked := false
      firstOutputRow := [] }

/-- Reflow all rows from the old column width to the new one. -/
def reflowCells : ReflowOutcome :=
  let st := reflowLoop allRows params
  let newHistoryBoundary :=
    if st.historyTracked then st.newHistoryBoundary
    else st.sink.result.length + (if st.sink.outCol > 0 then 1 else 0)
  let rows := if st.sink.outCol > 0 then st.sink.result ++ [st.sink.outRow] else st.sink.result
  { rows, newCursorAbs := st.sink.newCursorAbs, newCursorCol := st.sink.newCursorCol
    newHistoryBoundary, firstOutputRow := st.firstOutputRow }

/-! ## Invariants of the sink -/

/-- What every write to the sink keeps, wherever the tracked cursor is, holds of the sink after all rows. -/
structure RowReflowSink.Invariant (newCols : Nat) (I : RowReflowSink → Prop) : Prop where
  init : I ⟨[], Row.new newCols, 0, 0, 0⟩
  cursor : ∀ {sink : RowReflowSink} (abs col : Nat), I sink → I { sink with newCursorAbs := abs, newCursorCol := col }
  push : ∀ {sink : RowReflowSink} (isWide : Bool), I sink → I (sink.pushWrapped newCols isWide)
  write : ∀ {sink : RowReflowSink} (cell : Cell) (isWide : Bool), I sink → I (sink.writeCell cell isWide)
  finish : ∀ {sink : RowReflowSink}, I sink → I (sink.finishRow newCols)

namespace RowReflowSink.Invariant

variable {newCols : Nat} {I : RowReflowSink → Prop} {sink : RowReflowSink}

section

variable {input : RowReflowInput} (hI : Invariant input.newCols I) (h : I sink)
include hI h

theorem reflowCell (srcCol : Nat) : I (sink.reflowCell input srcCol) := by
  unfold RowReflowSink.reflowCell
  dsimp only
  split
  · split
    · exact hI.cursor _ _ h
    · exact h
  · apply hI.write
    have hpush := hI.push ((input.srcRow.get srcCol).has wideChar && decide (input.newCols ≥ 2)) h
    generalize (if (input.srcRow.get srcCol).has wideChar && decide (input.newCols ≥ 2) then 2 else 1) = width
    have hwrap : I (if sink.outCol + width > input.newCols then
        sink.pushWrapped input.newCols ((input.srcRow.get srcCol).has wideChar && decide (input.newCols ≥ 2))
        else sink) := by
      split
      · exact hpush
      · exact h
    split
    · exact hI.cursor _ _ hwrap
    · exact hwrap

theorem reflowRowCells : I (sink.reflowRowCells input) := by
  unfold RowReflowSink.reflowRowCells
  generalize List.range input.contentLen = cols
  induction cols generalizing sink with
  | nil => exact h
  | cons c cols ih => exact ih (hI.reflowCell h c)

end

theorem reflowRow {params : ReflowParams} {st : ReflowState} (hI : Invariant params.newCols I) (h : I st.sink)
    (src : Row × Nat) : I (st.reflowRow params src).sink := by
  unfold ReflowState.reflowRow
  dsimp only
  have hcells : ∀ input : RowReflowInput, input.newCols = params.newCols →
      ∀ wrapped, I ((st.sink.reflowRowCells input).trackPastContent input wrapped) := by
    intro input hinput wrapped
    rw [← hinput] at hI
    have hrow := hI.reflowRowCells h
    unfold RowReflowSink.trackPastContent
    split
    · exact hI.cursor _ _ hrow
    · exact hrow
  split
  · exact hcells _ rfl _
  · exact hI.finish (hcells _ rfl _)

/-- **The loop keeps the invariant.** -/
theorem reflowLoop (hI : Invariant newCols I) (allRows : List Row) {params : ReflowParams}
    (hcols : params.newCols = newCols) : I (reflowLoop allRows params).sink := by
  subst hcols
  unfold OriTerm.reflowLoop
  generalize allRows.zipIdx = srcs
  generalize hst : ({ sink := ⟨[], Row.new params.newCols, 0, 0, 0⟩, newHistoryBoundary := 0
                      historyTracked := false, firstOutputRow := [] } : ReflowState) = st
  have hinit : I st.sink := hst ▸ hI.init
  clear hst
  induction srcs generalizing st with
  | nil => exact hinit
  | cons src srcs ih => exact ih _ (hI.reflowRow hinit src)

end RowReflowSink.Invariant

/-- A row that comes out of reflow is a finished row of the sink, or its row in progress. -/
theorem mem_reflowCells {allRows : List Row} {params : ReflowParams} {r : Row}
    (hr : r ∈ (reflowCells allRows params).rows) :
    r ∈ (reflowLoop allRows params).sink.result ∨ r = (reflowLoop allRows params).sink.outRow := by
  unfold reflowCells at hr
  dsimp only at hr
  split at hr
  · exact (mem_append.mp hr).imp id mem_singleton.mp
  · exact .inl hr

/-! ## Row widths -/

/-- Everything written so far is `newCols` wide. -/
structure RowReflowSink.Sized (newCols : Nat) (sink : RowReflowSink) : Prop where
  result : ∀ r ∈ sink.result, r.cols = newCols
  outRow : sink.outRow.cols = newCols

namespace RowReflowSink.Sized

variable {newCols : Nat} {sink : RowReflowSink}

theorem pushWrapped (h : sink.Sized newCols) (isWide : Bool) : (sink.pushWrapped newCols isWide).Sized newCols := by
  refine ⟨?_, Row.cols_new newCols⟩
  intro r hr
  rcases mem_append.mp hr with hold | hnew
  · exact h.result r hold
  · obtain rfl := mem_singleton.mp hnew
    rw [Row.cols_setOcc]
    split
    · rw [Row.cols_modify]
      exact h.outRow
    · exact h.outRow

theorem writeCell (h : sink.Sized newCols) (cell : Cell) (isWide : Bool) : (sink.writeCell cell isWide).Sized newCols := by
  unfold RowReflowSink.writeCell
  dsimp only
  split <;> exact ⟨h.result, by simpa using h.outRow⟩

theorem finishRow (h : sink.Sized newCols) : (sink.finishRow newCols).Sized newCols := by
  refine ⟨?_, Row.cols_new newCols⟩
  intro r hr
  rcases mem_append.mp hr with hold | hnew
  · exact h.result r hold
  · obtain rfl := mem_singleton.mp hnew
    exact h.outRow

theorem invariant (newCols : Nat) : RowReflowSink.Invariant newCols (RowReflowSink.Sized newCols) where
  init := ⟨by simp, Row.cols_new newCols⟩
  cursor _ _ h := ⟨h.result, h.outRow⟩
  push isWide h := h.pushWrapped isWide
  write cell isWide h := h.writeCell cell isWide
  finish h := h.finishRow

end RowReflowSink.Sized

/-- **Every row that comes out of reflow has the new width**, whatever the source rows are. -/
theorem cols_reflowCells : ∀ r ∈ (reflowCells allRows params).rows, r.cols = params.newCols := by
  intro r hr
  have hloop := (RowReflowSink.Sized.invariant params.newCols).reflowLoop allRows rfl
  rcases mem_reflowCells hr with hdone | rfl
  · exact hloop.result r hdone
  · exact hloop.outRow

/-! ## What the rows say -/

/-- A cell without its row-structure flags. -/
def Cell.strip : Cell :=
  { c with flags := remove c.flags (wrap ||| leadingWideCharSpacer) }

/-- The content of a run of cells: spacers dropped, row-structure flags stripped. -/
def content (cells : List Cell) : List Cell := (cells.filter (!·.isSpacer)).map Cell.strip

/-- Reads one more row: the finished lines and the line still open. -/
def readRow (acc : List (List Cell) × Option (List Cell)) (r : Row) : List (List Cell) × Option (List Cell) :=
  let line := acc.2.getD [] ++ content r.inner
  if r.wrapped cols then (acc.1, some line) else (acc.1 ++ [line], none)

/-- The rows joined on WRAP: the finished lines, and the open one when the last row is wrapped. -/
def readRows : List (List Cell) × Option (List Cell) :=
  rows.foldl (readRow cols) ([], none)

/-- A line without its trailing blanks. -/
def trimLine (line : List Cell) : List Cell := line.rdropWhile Cell.isEmpty

/-- **The logical lines**: rows joined on WRAP, spacers and trailing blanks dropped. -/
def logicalLines : List (List Cell) :=
  let (done, openLine) := readRows cols rows
  (done ++ openLine.toList).map trimLine

/-- Every wide character has its spacer right after it. -/
def WidePaired (cells : List Cell) : Prop :=
  ∀ c cell, cells[c]? = some cell → cell.has wideChar = true →
    ∃ spacer, cells[c + 1]? = some spacer ∧ spacer.has wideCharSpacer = true

/-- A well-formed source row: of the given width, wide-character spacers follow a wide character, leading
    spacers stand in the last column of a row that has others. -/
structure Row.WellFormed (cols : Nat) (r : Row) : Prop where
  width : r.cols = cols
  spacer : ∀ c, c < cols → (r.get c).has wideCharSpacer = true →
    0 < c ∧ (r.get (c - 1)).has wideChar = true
  leading : ∀ c, c < cols → (r.get c).has leadingWideCharSpacer = true →
    0 < c ∧ c + 1 = cols

instance (cols : Nat) (r : Row) : Decidable (r.WellFormed cols) :=
  decidable_of_iff
    (r.cols = cols ∧
      (∀ c, c < cols → (r.get c).has wideCharSpacer = true →
        0 < c ∧ (r.get (c - 1)).has wideChar = true) ∧
      ∀ c, c < cols → (r.get c).has leadingWideCharSpacer = true → 0 < c ∧ c + 1 = cols)
    ⟨fun h => ⟨h.1, h.2.1, h.2.2⟩, fun h => ⟨h.width, h.spacer, h.leading⟩⟩

/-! ## Content -/

@[simp] theorem content_nil : content [] = [] := rfl

@[simp] theorem content_append (a b : List Cell) : content (a ++ b) = content a ++ content b := by
  simp [content]

theorem content_singleton : content [c] = if c.isSpacer then [] else [c.strip] := by
  by_cases h : c.isSpacer <;> simp [content, h]

@[simp] theorem isSpacer_blank : Cell.blank.isSpacer = false := by decide

@[simp] theorem strip_blank : Cell.blank.strip = Cell.blank := by decide

theorem content_replicate_blank (n : Nat) : content (List.replicate n Cell.blank) = List.replicate n Cell.blank := by
  induction n with
  | zero => rfl
  | succ n ih => rw [replicate_succ', content_append, ih, content_singleton]; simp

/-- Trailing blanks do not show. -/
theorem trimLine_append_blank {a b : List Cell} (h : ∀ c ∈ b, c.isEmpty = true) : trimLine (a ++ b) = trimLine a := by
  induction b using List.reverseRecOn with
  | nil => simp
  | append_singleton b c ih =>
    unfold trimLine at ih ⊢
    rw [← append_assoc, rdropWhile_concat_pos _ _ _ (h c (by simp))]
    exact ih fun d hd => h d (by simp [hd])

theorem isEmpty_strip {c : Cell} (h : c.isEmpty = true) : c.strip.isEmpty = true := by
  simp only [Cell.isEmpty, Bool.and_eq_true, beq_iff_eq] at h
  obtain ⟨⟨⟨⟨hch, hfg⟩, hbg⟩, hflags⟩, hextra⟩ := h
  have hstrip : remove c.strip.flags (drawn ||| isProtected) = 0 := by
    show remove (remove c.flags _) _ = 0
    rw [remove_comm, hflags]
    exact zero_remove
  rw [Cell.isEmpty, hstrip]
  simp [Cell.strip, hch, hfg, hbg, hextra]

/-- The content of empty cells is empty. -/
theorem isEmpty_of_mem_content {cells : List Cell} (h : ∀ c ∈ cells, c.isEmpty = true) :
    ∀ c ∈ content cells, c.isEmpty = true := by
  intro c hc
  obtain ⟨d, hd, rfl⟩ := mem_map.mp hc
  exact isEmpty_strip (h d (mem_filter.mp hd).1)

/-- Past `contentLen` a row shows nothing. -/
theorem trimLine_content_take (line : List Cell) (r : Row) :
    trimLine (line ++ content (r.inner.take r.contentLen)) = trimLine (line ++ content r.inner) := by
  have hsplit : r.inner = r.inner.rdropWhile Cell.isEmpty ++ r.inner.rtakeWhile Cell.isEmpty :=
    rdropWhile_append_rtakeWhile.symm
  have htake : r.inner.take r.contentLen = r.inner.rdropWhile Cell.isEmpty :=
    (prefix_iff_eq_take.mp ( rdropWhile_prefix _ _)).symm
  rw [htake]
  conv_rhs => rw [hsplit, content_append, ← append_assoc]
  exact (trimLine_append_blank (isEmpty_of_mem_content fun c hc => mem_rtakeWhile_imp hc)).symm

@[simp] theorem strip_strip : c.strip.strip = c.strip := by simp [Cell.strip]

/-- Stripping a cell that is no spacer leaves it no spacer. -/
theorem isSpacer_strip {c : Cell} (h : c.isSpacer = false) : c.strip.isSpacer = false :=
  intersects_remove_of_intersects h

theorem has_wrap_strip : c.strip.has wrap = false :=
  contains_remove_of_contains (by decide) (by decide)

theorem has_wideChar_strip : c.strip.has wideChar = c.has wideChar :=
  contains_remove_of_disjoint (by decide)

/-! ## Wide pairs -/

theorem WidePaired.append {a b : List Cell} (ha : WidePaired a) (hb : WidePaired b) : WidePaired (a ++ b) := by
  intro c cell hcell hwide
  rw [getElem?_append] at hcell
  by_cases hc : c < a.length
  · rw [if_pos hc] at hcell
    obtain ⟨spacer, hs, hflag⟩ := ha c cell hcell hwide
    have hlt := (List.getElem?_eq_some_iff.mp hs).1
    exact ⟨spacer, by rw [getElem?_append_left hlt]; exact hs, hflag⟩
  · rw [if_neg hc] at hcell
    obtain ⟨spacer, hs, hflag⟩ := hb _ cell hcell hwide
    have hsub : c + 1 - a.length = c - a.length + 1 := by omega
    exact ⟨spacer, by rw [getElem?_append_right (by omega), hsub]; exact hs, hflag⟩

/-- Cells without wide characters are paired. -/
theorem widePaired_of_narrow {cells : List Cell} (h : ∀ c ∈ cells, c.has wideChar = false) : WidePaired cells := by
  intro c cell hcell hwide
  rw [h cell (mem_of_getElem? hcell)] at hwide
  exact absurd hwide (by simp)

theorem widePaired_pair {wide spacer : Cell} (hs : spacer.has wideCharSpacer = true)
    (hn : spacer.has wideChar = false) : WidePaired [wide, spacer] := by
  intro c cell hcell hwide
  match c with
  | 0 => exact ⟨spacer, rfl, hs⟩
  | 1 =>
    obtain rfl : spacer = cell := by simpa using hcell
    rw [hn] at hwide
    exact absurd hwide (by simp)
  | c + 2 => simp at hcell

/-- Pairing only looks at the two wide-character flags of the last cell. -/
theorem WidePaired.replace_last {init : List Cell} {c d : Cell} (h : WidePaired (init ++ [c]))
    (hw : d.has wideChar = c.has wideChar)
    (hs : d.has wideCharSpacer = c.has wideCharSpacer) :
    WidePaired (init ++ [d]) := by
  intro i cell hcell hwide
  by_cases hi : i < init.length
  · rw [getElem?_append_left hi] at hcell
    obtain ⟨spacer, hsp, hflag⟩ := h i cell (by rw [getElem?_append_left hi]; exact hcell) hwide
    by_cases hi1 : i + 1 < init.length
    · rw [getElem?_append_left hi1] at hsp
      exact ⟨spacer, by rw [getElem?_append_left hi1]; exact hsp, hflag⟩
    · have hlast : i + 1 = init.length := by omega
      have hc : c = spacer := by simpa [hlast] using hsp
      exact ⟨d, by simp [hlast], by rw [hs, hc]; exact hflag⟩
  · have hlen : i = init.length := by
      have := (List.getElem?_eq_some_iff.mp hcell).1
      simp at this
      omega
    obtain rfl : d = cell := by simpa [hlen] using hcell
    rw [hw] at hwide
    obtain ⟨spacer, hsp, -⟩ := h i c (by simp [hlen]) hwide
    simp [hlen] at hsp

/-! ## Reading one more row -/

theorem readRows_concat : readRows cols (rows ++ [r]) = readRow cols (readRows cols rows) r := by
  simp [readRows]

theorem readRow_of_wrapped {cols : Nat} {r : Row} (h : r.wrapped cols = true)
    (acc : List (List Cell) × Option (List Cell)) :
    readRow cols acc r = (acc.1, some (acc.2.getD [] ++ content r.inner)) := by
  simp [readRow, h]

theorem readRow_of_not_wrapped {cols : Nat} {r : Row} (h : r.wrapped cols = false)
    (acc : List (List Cell) × Option (List Cell)) :
    readRow cols acc r = (acc.1 ++ [acc.2.getD [] ++ content r.inner], none) := by
  simp [readRow, h]

/-! ## The sink between two cells -/

/-- The sink in the middle of a row: `written` fills the row in progress up to the write column and the rest
    of it is blank; the finished rows have the new width, keep wide characters whole, and read as the
    finished lines `done` and an open line that `written` continues to `line`. -/
structure Emitting (newCols : Nat) (done : List (List Cell)) (line written : List Cell)
    (sink : RowReflowSink) : Prop where
  written_len : written.length = sink.outCol
  col_le : sink.outCol ≤ newCols
  out_row : sink.outRow.inner = written ++ List.replicate (newCols - sink.outCol) Cell.blank
  no_wrap : ∀ c ∈ written, c.has wrap = false
  paired : WidePaired written
  rows_ok : ∀ r ∈ sink.result, r.cols = newCols ∧ WidePaired r.inner
  done_eq : (readRows newCols sink.result).1 = done
  line_eq : (readRows newCols sink.result).2.getD [] ++ content written = line

/-- Writing the first blank of the row in progress extends what is written. -/
theorem modify_first_blank (written : List Cell) {n k : Nat} (hk : written.length = k) (hn : 0 < n) (c : Cell) :
    (written ++ List.replicate n Cell.blank).modify k (fun _ => c) =
      (written ++ [c]) ++ List.replicate (n - 1) Cell.blank := by
  obtain ⟨m, rfl⟩ : ∃ m, n = m + 1 := ⟨n - 1, by omega⟩
  rw [replicate_succ, ← hk, modify_length_append]
  simp

namespace Emitting

variable {newCols : Nat} {done : List (List Cell)} {line written : List Cell} {sink : RowReflowSink}

section

variable (h : Emitting newCols done line written sink)
include h

/-- The cursor fields do not matter. -/
theorem setCursor (abs col : Nat) :
    Emitting newCols done line written { sink with newCursorAbs := abs, newCursorCol := col } :=
  ⟨h.written_len, h.col_le, h.out_row, h.no_wrap, h.paired, h.rows_ok, h.done_eq, h.line_eq⟩

/-- Pushing a row `full` that carries WRAP and reads as `written` opens the line. -/
theorem push_full {full : Row} (hcols : full.cols = newCols) (hpos : 0 < newCols)
    (hwrap : (full.get (newCols - 1)).has wrap = true) (hcontent : content full.inner = content written)
    (hpaired : WidePaired full.inner) :
    Emitting newCols done line []
      { sink with result := sink.result ++ [full], outRow := Row.new newCols, outCol := 0 } := by
  have hwrapped : full.wrapped newCols = true := by
    simp [Row.wrapped, hcols, hpos, hwrap]
  have hread : readRows newCols (sink.result ++ [full]) = (done, some line) := by
    rw [readRows_concat, readRow_of_wrapped hwrapped, h.done_eq, hcontent, h.line_eq]
  refine ⟨rfl, Nat.zero_le _, by simp, by simp, widePaired_of_narrow (by simp), ?_, ?_, ?_⟩
  · intro r hr
    rcases mem_append.mp hr with hr | hr
    · exact h.rows_ok r hr
    · obtain rfl : r = full := by simpa using hr
      exact ⟨hcols, hpaired⟩
  · rw [hread]
  · simp [hread]

/-- **Pushing an overflowing row keeps what is read.** The row is full, or a wide character leaves its last
    cell as a leading spacer. -/
theorem pushWrapped {isWide : Bool} (hpos : 0 < sink.outCol)
    (hfull : sink.outCol = newCols ∨ (isWide = true ∧ sink.outCol + 1 = newCols)) :
    Emitting newCols done line [] (sink.pushWrapped newCols isWide) := by
  unfold RowReflowSink.pushWrapped
  rw [if_pos hpos]
  rcases hfull with hfull | ⟨hwide, hgap⟩
  · -- the last written cell gets WRAP
    obtain ⟨init, last, rfl⟩ : ∃ init last, written = init ++ [last] :=
      ⟨_, _, (dropLast_append_getLast (by
        intro hnil
        have := h.written_len
        rw [hnil] at this
        simp at this
        omega)).symm⟩
    have hlen : init.length = newCols - 1 := by
      have := h.written_len
      simp at this
      omega
    have hinner : sink.outRow.inner = init ++ [last] := by
      rw [h.out_row, hfull]
      simp
    have hnot : ¬ sink.outCol < newCols := by omega
    simp only [hnot, decide_false, Bool.and_false]
    refine h.push_full ?_ (by omega) ?_ ?_ ?_
    · simp [Row.cols, hinner]
      omega
    · simp [Row.get, hinner, ← hlen, Cell.has]
    · have hsp : Cell.isSpacer { last with flags := insert last.flags wrap } = last.isSpacer :=
        intersects_insert_of_disjoint (by decide)
      have hst : Cell.strip { last with flags := insert last.flags wrap } = last.strip := by
        simp [Cell.strip, remove_insert_of_contains
          (show contains (wrap ||| leadingWideCharSpacer) wrap = true
            by decide)]
      simp [hinner, ← hlen, modify_length_append, content_singleton, hsp, hst]
    · simp only [Row.inner_setOcc, Row.inner_modify, hinner, ← hlen, modify_length_append]
      exact h.paired.replace_last (contains_insert_of_disjoint (by decide))
        (contains_insert_of_disjoint (by decide))
  · -- the unused last cell becomes a leading spacer
    have hlen : written.length = newCols - 1 := by
      have := h.written_len
      omega
    have hrest : newCols - sink.outCol = 1 := by omega
    have hinner : sink.outRow.inner = written ++ [Cell.blank] := by
      rw [h.out_row, hrest]
      rfl
    have hlt : sink.outCol < newCols := by omega
    simp only [hwide, hlt]
    refine h.push_full ?_ (by omega) ?_ ?_ ?_
    · simp [Row.cols, hinner]
      omega
    · simp [Row.get, hinner, ← hlen]
      decide
    · simp only [Row.inner_setOcc, Row.inner_modify, hinner, ← hlen, modify_length_append,
        content_append, content_singleton]
      rw [if_pos (by decide), append_nil]
    · simp only [Row.inner_setOcc, Row.inner_modify, hinner, ← hlen, modify_length_append]
      exact h.paired.append (widePaired_of_narrow (by simp; decide))

/-- **Writing a cell appends it to the line.** -/
theorem writeCell {cell : Cell} (hcell : cell.isSpacer = false)
    (hfit : sink.outCol + (if cell.has wideChar then 2 else 1) ≤ newCols) :
    ∃ written', Emitting newCols done (line ++ [cell.strip]) written'
        (sink.writeCell cell (cell.has wideChar)) ∧
      0 < (sink.writeCell cell (cell.has wideChar)).outCol := by
  have hstrip : content [cell.strip] = [cell.strip] := by
    rw [content_singleton, if_neg (by simp [isSpacer_strip hcell]), strip_strip]
  have hline : (readRows newCols sink.result).2.getD [] ++ (content written ++ [cell.strip]) =
      line ++ [cell.strip] := by
    rw [← append_assoc, h.line_eq]
  have hnew : { cell with
      flags := remove cell.flags (wrap ||| leadingWideCharSpacer) } = cell.strip := rfl
  unfold RowReflowSink.writeCell
  by_cases hwide : cell.has wideChar = true
  · -- the cell and its spacer
    rw [if_pos hwide] at hfit
    set spacer : Cell :=
      { fg := cell.fg, bg := cell.bg, flags := wideCharSpacer ||| drawn }
      with hspacer
    have hsp : content [spacer] = [] := by
      rw [content_singleton, if_pos]
      show intersects (wideCharSpacer ||| drawn) _ = true
      decide
    refine ⟨written ++ [cell.strip, spacer], ?_, by simp [hwide]⟩
    simp only [hwide, Bool.not_true, Bool.false_and, Bool.false_eq_true, if_false, if_true]
    refine ⟨by simp [h.written_len], hfit, ?_, ?_, ?_, h.rows_ok, h.done_eq, ?_⟩
    · have hlen : (written ++ [cell.strip]).length = sink.outCol + 1 := by simp [h.written_len]
      have hrest : newCols - sink.outCol - 1 - 1 = newCols - (sink.outCol + 1 + 1) := by omega
      simp only [Row.inner_setOcc, Row.inner_modify, h.out_row]
      rw [hnew, modify_first_blank written h.written_len (by omega),
        modify_first_blank (written ++ [cell.strip]) hlen (by omega), hrest]
      simp
    · intro c hc
      simp only [mem_append, mem_cons, not_mem_nil, or_false] at hc
      rcases hc with hc | rfl | rfl
      · exact h.no_wrap c hc
      · exact has_wrap_strip cell
      · show contains (wideCharSpacer ||| drawn) _ = false
        decide
    · refine h.paired.append (widePaired_pair ?_ ?_)
      · show contains (wideCharSpacer ||| drawn) _ = true
        decide
      · show contains (wideCharSpacer ||| drawn) _ = false
        decide
    · have hpair : content [cell.strip, spacer] = [cell.strip] := by
        rw [show [cell.strip, spacer] = [cell.strip] ++ [spacer] from rfl, content_append, hstrip, hsp,
          append_nil]
      rw [content_append, hpair]
      exact hline
  · have hnarrow : cell.has wideChar = false := by simpa using hwide
    rw [if_neg hwide] at hfit
    refine ⟨written ++ [cell.strip], ?_, by simp [hnarrow]⟩
    simp only [hnarrow, Bool.and_false, Bool.false_eq_true, if_false]
    refine ⟨by simp [h.written_len], hfit, ?_, ?_, ?_, h.rows_ok, h.done_eq, ?_⟩
    · have hrest : newCols - sink.outCol - 1 = newCols - (sink.outCol + 1) := by omega
      simp only [Row.inner_setOcc, Row.inner_modify, h.out_row]
      rw [hnew, modify_first_blank written h.written_len (by omega), hrest]
    · intro c hc
      simp only [mem_append, mem_singleton] at hc
      rcases hc with hc | rfl
      · exact h.no_wrap c hc
      · exact has_wrap_strip cell
    · refine h.paired.append (widePaired_of_narrow ?_)
      simp [has_wideChar_strip, hnarrow]
    · rw [content_append, hstrip]
      exact hline

/-- The row in progress as it stands: of the new width, unwrapped, with wide characters whole. -/
theorem outRow_ok :
    sink.outRow.cols = newCols ∧ WidePaired sink.outRow.inner ∧ sink.outRow.wrapped newCols = false := by
  have hle := h.col_le
  refine ⟨?_, ?_, ?_⟩
  · simp [Row.cols, h.out_row, h.written_len]
    omega
  · rw [h.out_row]
    exact h.paired.append (widePaired_of_narrow fun c hc => by
      obtain rfl := eq_of_mem_replicate hc
      decide)
  · have hget : ∀ c ∈ sink.outRow.inner, c.has wrap = false := by
      intro c hc
      rw [h.out_row] at hc
      rcases mem_append.mp hc with hc | hc
      · exact h.no_wrap c hc
      · obtain rfl := eq_of_mem_replicate hc
        decide
    have hlast : (sink.outRow.get (newCols - 1)).has wrap = false := by
      unfold Row.get
      cases hg : sink.outRow.inner[newCols - 1]? with
      | none =>
        rw [getD_eq_getElem?_getD, hg]
        decide
      | some c => simpa [hg] using hget c (mem_of_getElem? hg)
    simp [Row.wrapped, hlast]

/-- Pushing it as it stands finishes the line, up to trailing blanks. -/
theorem readRows_push_outRow :
    readRows newCols (sink.result ++ [sink.outRow]) =
      (done ++ [line ++ List.replicate (newCols - sink.outCol) Cell.blank], none) := by
  rw [readRows_concat, readRow_of_not_wrapped h.outRow_ok.2.2, h.done_eq, h.out_row, content_append,
    content_replicate_blank, ← append_assoc, h.line_eq]

/-- Finishing the row finishes the line. -/
theorem finishRow :
    ∃ n, Emitting newCols (done ++ [line ++ List.replicate n Cell.blank]) [] []
      (sink.finishRow newCols) := by
  obtain ⟨hcols, hpaired, -⟩ := h.outRow_ok
  refine ⟨newCols - sink.outCol, rfl, Nat.zero_le _, by simp [RowReflowSink.finishRow], by simp,
    widePaired_of_narrow (by simp), ?_, ?_, ?_⟩
  · intro r hr
    rcases mem_append.mp hr with hr | hr
    · exact h.rows_ok r hr
    · obtain rfl : r = sink.outRow := by simpa using hr
      exact ⟨hcols, hpaired⟩
  · show (readRows newCols (sink.result ++ [sink.outRow])).1 = _
    rw [h.readRows_push_outRow]
  · show (readRows newCols (sink.result ++ [sink.outRow])).2.getD [] ++ content [] = []
    rw [h.readRows_push_outRow]
    rfl

end

end Emitting

theorem trimLine_append_replicate_blank (line : List Cell) (n : Nat) :
    trimLine (line ++ List.replicate n Cell.blank) = trimLine line :=
  trimLine_append_blank fun c hc => by
    obtain rfl := eq_of_mem_replicate hc
    decide

/-! ## The cells of a row -/

/-- No line is open in the finished rows while the row in progress is empty. -/
def Fresh (newCols : Nat) (sink : RowReflowSink) : Prop :=
  sink.outCol = 0 → (readRows newCols sink.result).2 = none

variable {line : List Cell} {sink : RowReflowSink} {done : List (List Cell)} {written : List Cell}

/-- **One source cell adds its content to the line.** -/
theorem Emitting.reflowCell {input : RowReflowInput} (h : Emitting input.newCols done line written sink)
    (hfresh : Fresh input.newCols sink) (hnew : 2 ≤ input.newCols) (srcCol : Nat) :
    ∃ written', Emitting input.newCols done (line ++ content [input.srcRow.get srcCol]) written'
        (sink.reflowCell input srcCol) ∧ Fresh input.newCols (sink.reflowCell input srcCol) := by
  unfold RowReflowSink.reflowCell
  set cell := input.srcRow.get srcCol
  by_cases hspacer : cell.isSpacer = true
  · -- a spacer adds nothing; at most the cursor is tracked
    rw [content_singleton, if_pos hspacer, append_nil]
    simp only [hspacer, if_true]
    split
    · exact ⟨written, h.setCursor _ _, hfresh⟩
    · exact ⟨written, h, hfresh⟩
  · have hcell : cell.isSpacer = false := by simpa using hspacer
    have hwide : (cell.has wideChar && decide (input.newCols ≥ 2)) =
        cell.has wideChar := by simp [hnew]
    rw [content_singleton]
    simp only [hcell, Bool.false_eq_true, if_false, hwide]
    have hle := h.col_le
    -- after wrapping if needed, the cell fits
    obtain ⟨written₁, h₁, hfit⟩ : ∃ written₁,
        Emitting input.newCols done line written₁
          (if sink.outCol + (if cell.has wideChar then 2 else 1) > input.newCols then
            sink.pushWrapped input.newCols (cell.has wideChar) else sink) ∧
        (if sink.outCol + (if cell.has wideChar then 2 else 1) > input.newCols then
            sink.pushWrapped input.newCols (cell.has wideChar) else sink).outCol +
          (if cell.has wideChar then 2 else 1) ≤ input.newCols := by
      by_cases hover : sink.outCol + (if cell.has wideChar then 2 else 1) > input.newCols
      · simp only [hover]
        refine ⟨[], h.pushWrapped ?_ ?_, ?_⟩
        · split at hover <;> omega
        · split at hover
          · rename_i hw
            simp only [hw, true_and]
            omega
          · left
            omega
        · show 0 + _ ≤ _
          split <;> omega
      · simp only [hover, if_false]
        exact ⟨written, h, by omega⟩
    set sink₁ := if sink.outCol + (if cell.has wideChar then 2 else 1) > input.newCols then
      sink.pushWrapped input.newCols (cell.has wideChar) else sink
    split
    · obtain ⟨written₂, h₂, hpos⟩ := (h₁.setCursor sink₁.result.length sink₁.outCol).writeCell hcell hfit
      exact ⟨written₂, h₂, fun hz => absurd hz (by omega)⟩
    · obtain ⟨written₂, h₂, hpos⟩ := h₁.writeCell hcell hfit
      exact ⟨written₂, h₂, fun hz => absurd hz (by omega)⟩

/-- The first `n` cells of a source row add their content to the line. -/
theorem Emitting.reflowCells (input : RowReflowInput) (h : Emitting input.newCols done line written sink)
    (hfresh : Fresh input.newCols sink) (hnew : 2 ≤ input.newCols) {n : Nat} (hn : n ≤ input.srcRow.inner.length) :
    ∃ written', Emitting input.newCols done (line ++ content (input.srcRow.inner.take n)) written'
        ((List.range n).foldl (fun sink srcCol => sink.reflowCell input srcCol) sink) ∧
      Fresh input.newCols ((List.range n).foldl (fun sink srcCol => sink.reflowCell input srcCol) sink) := by
  induction n with
  | zero => exact ⟨written, by simpa using h, hfresh⟩
  | succ n ih =>
    obtain ⟨written₁, h₁, hfresh₁⟩ := ih (by omega)
    obtain ⟨written₂, h₂, hfresh₂⟩ := h₁.reflowCell hfresh₁ hnew n
    have htake : input.srcRow.inner.take (n + 1) =
        input.srcRow.inner.take n ++ [input.srcRow.get n] := by
      have hlt : n < input.srcRow.inner.length := by omega
      have hget : input.srcRow.get n = input.srcRow.inner[n] := by simp [Row.get, hlt]
      rw [take_succ_eq_append_getElem, hget]
    rw [range_succ, foldl_append, htake, content_append, ← append_assoc]
    exact ⟨written₂, h₂, hfresh₂⟩

/-! ## The rows -/

theorem contentLen_le : r.contentLen ≤ r.inner.length :=
  ( rdropWhile_prefix _ _).length_le

/-- A well-formed wrapped row shows something: its first column is no spacer. -/
theorem Row.WellFormed.content_ne_nil {cols : Nat} {r : Row} (h : r.WellFormed cols)
    (hw : r.wrapped cols = true) : content r.inner ≠ [] := by
  have hpos : 0 < cols := by
    simp only [Row.wrapped, Bool.and_eq_true, decide_eq_true_eq] at hw
    exact hw.1.1
  obtain ⟨c, cells, hinner⟩ : ∃ c cells, r.inner = c :: cells :=
    exists_cons_of_length_pos (by have := h.width; unfold Row.cols at this; omega)
  have hget : r.get 0 = c := by simp [Row.get, hinner]
  have hc : c.isSpacer = false := by
    by_contra hsp
    have hor : c.has wideCharSpacer = true ∨
        c.has leadingWideCharSpacer = true := by
      rw [Bool.not_eq_false] at hsp
      rw [Cell.isSpacer, intersects_or, Bool.or_eq_true] at hsp
      exact hsp.imp contains_of_intersects_bit contains_of_intersects_bit
    rcases hor with hs | hs
    · exact absurd (h.spacer 0 hpos (hget ▸ hs)).1 (by omega)
    · exact absurd (h.leading 0 hpos (hget ▸ hs)).1 (by omega)
  rw [hinner, show c :: cells = [c] ++ cells from rfl, content_append, content_singleton]
  simp [hc]

/-- Between two source rows, the output reads as the source rows consumed so far. -/
structure RowBoundary (oldCols newCols : Nat) (consumed : List Row) (sink : RowReflowSink)
    (done : List (List Cell)) (line written : List Cell) : Prop where
  emitting : Emitting newCols done line written sink
  fresh : Fresh newCols sink
  done_eq : done.map trimLine = (readRows oldCols consumed).1.map trimLine
  line_eq : line = (readRows oldCols consumed).2.getD []
  closed : (readRows oldCols consumed).2 = none → sink.outCol = 0
  shows : ∀ l, (readRows oldCols consumed).2 = some l → l ≠ []

theorem rowBoundary_init (oldCols newCols : Nat) :
    RowBoundary oldCols newCols [] ⟨[], Row.new newCols, 0, 0, 0⟩ [] [] [] :=
  ⟨⟨rfl, Nat.zero_le _, by simp, by simp, widePaired_of_narrow (by simp), by simp, rfl, rfl⟩,
    fun _ => rfl, rfl, rfl, fun _ => rfl, by simp [readRows]⟩

/-- Tracking the cursor changes nothing that is read. -/
theorem Emitting.trackPastContent {newCols : Nat} (h : Emitting newCols done line written sink)
    (input : RowReflowInput) (wrapped : Bool) :
    Emitting newCols done line written (sink.trackPastContent input wrapped) := by
  unfold RowReflowSink.trackPastContent
  split
  · exact h.setCursor _ _
  · exact h

theorem Fresh.trackPastContent {newCols : Nat} (h : Fresh newCols sink) (input : RowReflowInput) (wrapped : Bool) :
    Fresh newCols (sink.trackPastContent input wrapped) := by
  unfold RowReflowSink.trackPastContent
  split <;> exact h

theorem Emitting.fresh_finishRow {newCols : Nat} (h : Emitting newCols done line written sink) :
    Fresh newCols (sink.finishRow newCols) := by
  intro _
  show (readRows newCols (sink.result ++ [sink.outRow])).2 = none
  rw [h.readRows_push_outRow]

/-- **One source row keeps the output in step with the source.** -/
theorem RowBoundary.reflowRow {params : ReflowParams} (hnew : 2 ≤ params.newCols) {consumed : List Row}
    {st : ReflowState} (h : RowBoundary params.oldCols params.newCols consumed st.sink done line written) {r : Row}
    (hr : r.WellFormed params.oldCols) (idx : Nat) :
    ∃ done' line' written', RowBoundary params.oldCols params.newCols (consumed ++ [r])
      (st.reflowRow params (r, idx)).sink done' line' written' := by
  have hwidth : r.inner.length = params.oldCols := hr.width
  have hread := readRows_concat params.oldCols consumed r
  by_cases hw : r.wrapped params.oldCols = true
  · -- a wrapped row: all of its cells join the open line
    obtain ⟨written₁, h₁, hfresh₁⟩ := h.emitting.reflowCells
      ⟨r, idx, params.oldCols, params.newCols, params.cursorAbs, params.cursorCol⟩
      h.fresh hnew hwidth.ge
    have htake : r.inner.take params.oldCols = r.inner := take_of_length_le hwidth.le
    rw [htake] at h₁
    rw [readRow_of_wrapped hw] at hread
    refine ⟨done, line ++ content r.inner, written₁, ?_, ?_, ?_, ?_, ?_, ?_⟩
    · simp only [ReflowState.reflowRow, hw]
      exact h₁.trackPastContent _ _
    · simp only [ReflowState.reflowRow, hw]
      exact hfresh₁.trackPastContent _ _
    · rw [hread]
      exact h.done_eq
    · rw [hread, h.line_eq]
      rfl
    · rw [hread]
      simp
    · rw [hread]
      intro l hl
      obtain rfl : _ = l := by simpa using hl
      exact append_ne_nil_of_right_ne_nil _ (hr.content_ne_nil hw)
  · -- an unwrapped row: its content ends the line
    have hw' : r.wrapped params.oldCols = false := by simpa using hw
    obtain ⟨written₁, h₁, hfresh₁⟩ := h.emitting.reflowCells
      ⟨r, idx, r.contentLen, params.newCols, params.cursorAbs, params.cursorCol⟩
      h.fresh hnew (contentLen_le r)
    rw [readRow_of_not_wrapped hw'] at hread
    obtain ⟨n, h₂⟩ := (h₁.trackPastContent
      ⟨r, idx, r.contentLen, params.newCols, params.cursorAbs, params.cursorCol⟩ false).finishRow
    refine ⟨done ++ [line ++ content (r.inner.take r.contentLen) ++ List.replicate n Cell.blank],
      [], [], ?_, ?_, ?_, ?_, ?_, ?_⟩
    · simp only [ReflowState.reflowRow, hw']
      exact h₂
    · simp only [ReflowState.reflowRow, hw']
      exact h₁.trackPastContent _ _ |>.fresh_finishRow
    · rw [hread, map_append, map_append, h.done_eq, map_singleton,
        map_singleton, trimLine_append_replicate_blank, trimLine_content_take, h.line_eq]
    · rw [hread]
      rfl
    · simp only [ReflowState.reflowRow, hw']
      exact fun _ => rfl
    · rw [hread]
      simp

/-- The rows in order keep the output in step. -/
theorem RowBoundary.reflowRows {params : ReflowParams} (hnew : 2 ≤ params.newCols) (rows : List Row)
    (hwf : ∀ r ∈ rows, r.WellFormed params.oldCols) (start : Nat) {consumed : List Row} {st : ReflowState}
    (h : RowBoundary params.oldCols params.newCols consumed st.sink done line written) :
    ∃ done' line' written', RowBoundary params.oldCols params.newCols (consumed ++ rows)
      ((rows.zipIdx start).foldl (ReflowState.reflowRow params) st).sink done' line' written' := by
  induction rows generalizing start consumed st done line written with
  | nil => exact ⟨done, line, written, by simpa using h⟩
  | cons r rows ih =>
    obtain ⟨done₁, line₁, written₁, h₁⟩ := h.reflowRow hnew (hwf r (by simp)) start
    obtain ⟨done₂, line₂, written₂, h₂⟩ := ih (fun r' hr' => hwf r' (by simp [hr'])) (start + 1) h₁
    refine ⟨done₂, line₂, written₂, ?_⟩
    simpa using h₂

/-- **Reflow preserves the text.** For well-formed rows of width `oldCols` and a new width of at least two,
    every produced row has the new width, no wide character is split from its spacer, and the logical
    lines are the same. -/
theorem reflowCells_preserves (hnew : 2 ≤ params.newCols) (hwf : ∀ r ∈ rows, r.WellFormed params.oldCols) :
    (∀ r ∈ (reflowCells rows params).rows, r.cols = params.newCols ∧ WidePaired r.inner) ∧
      logicalLines params.newCols (reflowCells rows params).rows =
        logicalLines params.oldCols rows := by
  let start : ReflowState := ⟨⟨[], Row.new params.newCols, 0, 0, 0⟩, 0, false, []⟩
  have hstart : RowBoundary params.oldCols params.newCols [] start.sink [] [] [] :=
    rowBoundary_init params.oldCols params.newCols
  obtain ⟨done, line, written, h⟩ := RowBoundary.reflowRows hnew rows hwf 0 hstart
  rw [nil_append] at h
  have hrows : (reflowCells rows params).rows =
      if (reflowLoop rows params).sink.outCol > 0 then
        (reflowLoop rows params).sink.result ++ [(reflowLoop rows params).sink.outRow]
      else (reflowLoop rows params).sink.result := rfl
  rw [hrows]
  change RowBoundary _ _ _ (reflowLoop rows params).sink _ _ _ at h
  generalize (reflowLoop rows params).sink = sink at h ⊢
  by_cases hpos : sink.outCol > 0
  · -- the source ends in an open line and so does the output
    simp only [hpos, if_true]
    obtain ⟨hcols, hpaired, -⟩ := h.emitting.outRow_ok
    refine ⟨?_, ?_⟩
    · intro r hr
      rcases mem_append.mp hr with hr | hr
      · exact h.emitting.rows_ok r hr
      · obtain rfl : r = sink.outRow := by simpa using hr
        exact ⟨hcols, hpaired⟩
    · have hopen : (readRows params.oldCols rows).2 = some line := by
        cases ho : (readRows params.oldCols rows).2 with
        | none => exact absurd (h.closed ho) (by omega)
        | some l => rw [h.line_eq, ho]; rfl
      unfold logicalLines
      rw [h.emitting.readRows_push_outRow]
      simp only [Option.toList_none, append_nil, map_append, h.done_eq, hopen,
        Option.toList_some, map_singleton, trimLine_append_replicate_blank]
  · -- both end with a finished line
    have hzero : sink.outCol = 0 := by omega
    simp only [hpos, if_false]
    refine ⟨h.emitting.rows_ok, ?_⟩
    have hnew_none := h.fresh hzero
    have hwritten : written = [] := eq_nil_of_length_eq_zero (h.emitting.written_len.trans hzero)
    have hold_none : (readRows params.oldCols rows).2 = none := by
      cases ho : (readRows params.oldCols rows).2 with
      | none => rfl
      | some l =>
        have hl : line = l := by rw [h.line_eq, ho]; rfl
        have hnil := h.emitting.line_eq
        rw [hnew_none, hwritten] at hnil
        exact absurd (hl ▸ hnil.symm) (h.shows l ho)
    unfold logicalLines
    simp only [hnew_none, hold_none, Option.toList_none, append_nil, h.emitting.done_eq, h.done_eq]

/-- A row of four columns that ends in WRAP and holds a wide character, and the row it continues on. -/
def wideSample : List Row :=
  [{ inner := [{ ch := 'a' }, { ch := '世', flags := wideChar },
       { flags := wideCharSpacer }, { ch := 'b', flags := wrap }], occ := 4 },
   { inner := [{ ch := '界', flags := wideChar }, { flags := wideCharSpacer },
       Cell.blank, Cell.blank], occ := 2 }]

/-- At three columns the second wide character has to wrap behind a leading spacer. -/
theorem reflowCells_preserves_wideSample :
    logicalLines 3 (reflowCells wideSample ⟨4, 3, 0, 0, 0⟩).rows = logicalLines 4 wideSample :=
  (reflowCells_preserves wideSample ⟨4, 3, 0, 0, 0⟩ (by decide) (by decide)).2

end OriTerm
