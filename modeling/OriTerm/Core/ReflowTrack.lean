import Mathlib.Data.List.GetD
import OriTerm.Core.Reflow

/-!
# `Core.ReflowTrack` — where a source cell ends up

`reflowCells` forgets where it put a cell. `landing` is that position: the row and the column at which the
loop writes the cell. Later steps only add to the output, so the position still shows the cell when the loop
ends: `Extends` is the relation of a sink to a later one, and `get_landing` is the result.

The write column is also computed without the sink: `openColumn` adds up the widths of the cells of the line
that the source rows leave open.
-/

namespace OriTerm

open Lib Lib.Bitflags List CellFlags

/-! ## The source side -/

/-- The columns a cell takes at the new width. -/
def Cell.reflowWidth (newCols : Nat) (c : Cell) : Nat :=
  if c.has wideChar && decide (newCols ≥ 2) then 2 else 1

/-- How many cells of the row are emitted. -/
def Row.reflowLen (oldCols : Nat) (r : Row) : Nat := if r.wrapped oldCols then oldCols else r.contentLen

/-- The inputs of source row `i`. -/
def ReflowParams.input (params : ReflowParams) (r : Row) (i : Nat) : RowReflowInput :=
  { srcRow := r, srcIdx := i, contentLen := r.reflowLen params.oldCols, newCols := params.newCols
    cursorAbs := params.cursorAbs, cursorCol := params.cursorCol }

/-- The widths of the cells at these columns, spacers left out. -/
def Row.widthsAt (newCols : Nat) (r : Row) (cols : List Nat) : List Nat :=
  (cols.filter fun c => !(r.get c).isSpacer).map fun c => (r.get c).reflowWidth newCols

/-- The write column after a cell of width `w`: a cell that does not fit starts a row. -/
def advance (newCols col w : Nat) : Nat := if col + w > newCols then w else col + w

/-- The write column after one more source row. -/
def Row.openColumn (params : ReflowParams) (col : Nat) (r : Row) : Nat :=
  if r.wrapped params.oldCols then
    (r.widthsAt params.newCols (List.range (r.reflowLen params.oldCols))).foldl (advance params.newCols) col
  else 0

/-- **The column at which the next source row continues**: the line left open, laid out at the new width. -/
def openColumn (params : ReflowParams) (rows : List Row) : Nat := rows.foldl (Row.openColumn params) 0

/-! ## One cell -/

namespace RowReflowSink

/-- Pushes the row in progress when the cell does not fit. -/
def makeRoom (sink : RowReflowSink) (newCols : Nat) (cell : Cell) : RowReflowSink :=
  if sink.outCol + cell.reflowWidth newCols > newCols then
    sink.pushWrapped newCols (cell.has wideChar && decide (newCols ≥ 2))
  else sink

/-- The rows of a sink, whatever the tracked cursor is. -/
def output (sink : RowReflowSink) : List Row × Row × Nat := (sink.result, sink.outRow, sink.outCol)

variable {sink t : RowReflowSink}

theorem result_of_output (h : sink.output = t.output) : sink.result = t.result := congrArg Prod.fst h

theorem outRow_of_output (h : sink.output = t.output) : sink.outRow = t.outRow := congrArg (fun o => o.2.1) h

theorem outCol_of_output (h : sink.output = t.output) : sink.outCol = t.outCol := congrArg (fun o => o.2.2) h

/-- A spacer leaves the output alone. -/
theorem output_reflowCell_spacer {input : RowReflowInput} {c : Nat} (h : (input.srcRow.get c).isSpacer = true) :
    (sink.reflowCell input c).output = sink.output := by
  unfold reflowCell
  rw [if_pos h]
  split <;> rfl

/-- **Any other cell** is written where there is room for it. -/
theorem output_reflowCell_text {input : RowReflowInput} {c : Nat} (h : (input.srcRow.get c).isSpacer = false) :
    (sink.reflowCell input c).output
      = ((sink.makeRoom input.newCols (input.srcRow.get c)).writeCell (input.srcRow.get c)
          ((input.srcRow.get c).has wideChar && decide (input.newCols ≥ 2))).output := by
  unfold reflowCell
  rw [if_neg (by simp [h])]
  change RowReflowSink.output (RowReflowSink.writeCell (if _ then { sink.makeRoom input.newCols (input.srcRow.get c) with
    newCursorAbs := _, newCursorCol := _ } else sink.makeRoom input.newCols (input.srcRow.get c)) _ _) = _
  split
  · unfold writeCell output
    dsimp only
    split <;> rfl
  · rfl

section

variable (sink) (newCols : Nat) (cell : Cell)
include newCols cell

theorem outCol_makeRoom :
    (sink.makeRoom newCols cell).outCol = if sink.outCol + cell.reflowWidth newCols > newCols then 0 else sink.outCol := by
  unfold makeRoom
  split <;> rfl

theorem length_makeRoom :
    (sink.makeRoom newCols cell).result.length
      = if sink.outCol + cell.reflowWidth newCols > newCols then sink.result.length + 1 else sink.result.length := by
  unfold makeRoom
  split
  · exact length_append
  · rfl

theorem outCol_writeCell :
    (sink.writeCell cell (cell.has wideChar && decide (newCols ≥ 2))).outCol
      = sink.outCol + cell.reflowWidth newCols := by
  unfold writeCell Cell.reflowWidth
  dsimp only
  split <;> rfl

end

theorem result_writeCell (sink : RowReflowSink) (cell : Cell) (isWide : Bool) :
    (sink.writeCell cell isWide).result = sink.result := by
  unfold writeCell
  dsimp only
  split <;> rfl

section

variable {input : RowReflowInput} {c : Nat} (h : (input.srcRow.get c).isSpacer = false)
include h

/-- The write column after a cell. -/
theorem outCol_reflowCell_text : (sink.reflowCell input c).outCol
      = advance input.newCols sink.outCol ((input.srcRow.get c).reflowWidth input.newCols) := by
  rw [outCol_of_output (output_reflowCell_text h), outCol_writeCell, outCol_makeRoom]
  unfold advance
  split
  · exact Nat.zero_add _
  · rfl

/-- The finished rows after a cell. -/
theorem length_reflowCell_text : (sink.reflowCell input c).result.length
      = if sink.outCol + (input.srcRow.get c).reflowWidth input.newCols > input.newCols then sink.result.length + 1
        else sink.result.length := by
  rw [result_of_output (output_reflowCell_text h), result_writeCell, length_makeRoom]

end

/-- Spacers in a row leave the output alone. -/
theorem output_foldl_spacers (input : RowReflowInput) (cols : List Nat)
    (h : ∀ c ∈ cols, (input.srcRow.get c).isSpacer = true) :
    (cols.foldl (fun sink c => sink.reflowCell input c) sink).output = sink.output := by
  induction cols generalizing sink with
  | nil => rfl
  | cons c cols ih =>
    rw [foldl_cons, ih fun c hc => h c (mem_cons_of_mem _ hc),
      output_reflowCell_spacer (h c mem_cons_self)]

variable (sink : RowReflowSink) (input : RowReflowInput)

/-- The write column after some cells of a row. -/
theorem outCol_foldl_reflowCell (cols : List Nat) : (cols.foldl (fun sink c => sink.reflowCell input c) sink).outCol
      = (input.srcRow.widthsAt input.newCols cols).foldl (advance input.newCols) sink.outCol := by
  induction cols generalizing sink with
  | nil => rfl
  | cons c cols ih =>
    rw [foldl_cons, ih]
    unfold Row.widthsAt
    cases h : (input.srcRow.get c).isSpacer with
    | true =>
      rw [outCol_of_output (output_reflowCell_spacer h), filter_cons_of_neg (by simp [h])]
    | false =>
      rw [outCol_reflowCell_text h, filter_cons_of_pos (by simp [h]), map_cons, foldl_cons]

theorem output_trackPastContent (wrapped : Bool) : (sink.trackPastContent input wrapped).output = sink.output := by
  unfold trackPastContent
  split <;> rfl

end RowReflowSink

section

variable (sink : RowReflowSink) (input : RowReflowInput)
include sink input

/-- A cell leaves text in the row in progress unless it is a spacer. -/
theorem outCol_reflowCell (c : Nat) :
    0 < (sink.reflowCell input c).outCol ↔ 0 < sink.outCol ∨ (input.srcRow.get c).isSpacer = false := by
  unfold RowReflowSink.reflowCell
  dsimp only
  cases hspacer : (input.srcRow.get c).isSpacer with
  | true =>
    rw [if_pos rfl]
    split <;> simp
  | false =>
    rw [if_neg (by simp)]
    unfold RowReflowSink.writeCell
    dsimp only
    split <;> simp

theorem outCol_reflowRowCells :
    0 < (sink.reflowRowCells input).outCol
      ↔ 0 < sink.outCol ∨ ∃ c ∈ List.range input.contentLen, (input.srcRow.get c).isSpacer = false := by
  unfold RowReflowSink.reflowRowCells
  generalize List.range input.contentLen = cols
  induction cols generalizing sink with
  | nil => simp
  | cons c cols ih =>
    rw [foldl_cons, ih, outCol_reflowCell, exists_mem_cons_iff, or_assoc]

theorem outCol_trackPastContent (wrapped : Bool) : (sink.trackPastContent input wrapped).outCol = sink.outCol := by
  unfold RowReflowSink.trackPastContent
  split <;> rfl

end

/-! ## One row -/

/-- The sink after a row. -/
theorem sink_reflowRow (params : ReflowParams) (st : ReflowState) (r : Row) (i : Nat) :
    (st.reflowRow params (r, i)).sink
      = if r.wrapped params.oldCols then
          (st.sink.reflowRowCells (params.input r i)).trackPastContent (params.input r i) (r.wrapped params.oldCols)
        else
          ((st.sink.reflowRowCells (params.input r i)).trackPastContent (params.input r i)
            (r.wrapped params.oldCols)).finishRow params.newCols := rfl

/-- A wrapped row leaves its last output row in progress. -/
theorem output_reflowRow_wrapped {params : ReflowParams} (st : ReflowState) {r : Row} (i : Nat)
    (h : r.wrapped params.oldCols = true) :
    (st.reflowRow params (r, i)).sink.output = (st.sink.reflowRowCells (params.input r i)).output := by
  rw [sink_reflowRow, if_pos h, RowReflowSink.output_trackPastContent]

/-- The end of any other row finishes it. -/
theorem output_reflowRow_unwrapped {params : ReflowParams} (st : ReflowState) {r : Row} (i : Nat)
    (h : r.wrapped params.oldCols = false) :
    (st.reflowRow params (r, i)).sink.output
      = ((st.sink.reflowRowCells (params.input r i)).finishRow params.newCols).output := by
  rw [sink_reflowRow, if_neg (by simp [h])]
  have hkept := (st.sink.reflowRowCells (params.input r i)).output_trackPastContent (params.input r i)
    (r.wrapped params.oldCols)
  unfold RowReflowSink.finishRow RowReflowSink.output
  rw [RowReflowSink.result_of_output hkept, RowReflowSink.outRow_of_output hkept]

theorem reflowLoop_append (rows rest : List Row) (params : ReflowParams) :
    reflowLoop (rows ++ rest) params
      = (rest.zipIdx rows.length).foldl (ReflowState.reflowRow params) (reflowLoop rows params) := by
  unfold reflowLoop
  rw [zipIdx_append, foldl_append, Nat.zero_add]

theorem reflowLoop_concat (rows : List Row) (r : Row) (params : ReflowParams) :
    reflowLoop (rows ++ [r]) params = (reflowLoop rows params).reflowRow params (r, rows.length) := by
  rw [reflowLoop_append, zipIdx_singleton, foldl_cons, foldl_nil]

/-- How many rows some rows become: the finished ones and the one in progress. -/
theorem length_reflowCells (rows : List Row) (params : ReflowParams) :
    (reflowCells rows params).rows.length
      = (reflowLoop rows params).sink.result.length + if 0 < (reflowLoop rows params).sink.outCol then 1 else 0 := by
  unfold reflowCells
  dsimp only
  split
  · rw [length_append, length_singleton]
  · rfl

/-- **The write column between two source rows** is the one of the line left open. -/
theorem outCol_eq_openColumn (rows : List Row) (params : ReflowParams) :
    (reflowLoop rows params).sink.outCol = openColumn params rows := by
  induction rows using List.reverseRecOn with
  | nil => rfl
  | append_singleton rows r ih =>
    rw [reflowLoop_concat]
    unfold openColumn at ih ⊢
    rw [foldl_append, foldl_cons, ← ih]
    unfold Row.openColumn
    cases hwrap : r.wrapped params.oldCols with
    | true =>
      rw [RowReflowSink.outCol_of_output (output_reflowRow_wrapped _ _ hwrap)]
      exact RowReflowSink.outCol_foldl_reflowCell ..
    | false =>
      rw [RowReflowSink.outCol_of_output (output_reflowRow_unwrapped _ _ hwrap)]
      rfl

/-! ## Later output -/

/-- A cell without its WRAP flag. -/
def Cell.unwrapped (c : Cell) : Cell := { c with flags := remove c.flags wrap }

theorem unwrapped_strip (c : Cell) : c.strip.unwrapped = c.strip := by
  unfold Cell.unwrapped Cell.strip
  rw [remove_comm, remove_remove_of_contains (by decide)]

theorem isSpacer_unwrapped (c : Cell) : c.unwrapped.isSpacer = c.isSpacer :=
  intersects_remove_of_disjoint (by decide)

namespace RowReflowSink

/-- A position that has been written. -/
def Written (sink : RowReflowSink) (row col : Nat) : Prop :=
  row < sink.result.length ∨ row = sink.result.length ∧ col < sink.outCol

/-- What stands there, up to WRAP. -/
def shown (sink : RowReflowSink) (row col : Nat) : Cell :=
  (((sink.result ++ [sink.outRow]).getD row (Row.new 0)).get col).unwrapped

/-- **A later sink**: finished rows stay, and so does what is written in the row in progress. -/
structure Extends (sink t : RowReflowSink) : Prop where
  finished : sink.result <+: t.result
  keeps : ∀ row col, sink.Written row col → t.Written row col ∧ t.shown row col = sink.shown row col

variable {sink t u : RowReflowSink}

theorem Extends.refl (sink : RowReflowSink) : sink.Extends sink := ⟨prefix_refl _, fun _ _ h => ⟨h, rfl⟩⟩

theorem Extends.trans (h : sink.Extends t) (h' : t.Extends u) : sink.Extends u := by
  refine ⟨h.finished.trans h'.finished, fun row col hw => ?_⟩
  obtain ⟨hw₁, hshown₁⟩ := h.keeps row col hw
  obtain ⟨hw₂, hshown₂⟩ := h'.keeps row col hw₁
  exact ⟨hw₂, hshown₂.trans hshown₁⟩

theorem Extends.of_output (h : sink.output = t.output) : sink.Extends t := by
  refine ⟨(result_of_output h).symm ▸ prefix_refl _, fun row col hw => ?_⟩
  unfold Written shown at *
  rw [← result_of_output h, ← outRow_of_output h, ← outCol_of_output h]
  exact ⟨hw, rfl⟩

/-- A finished row is seen through the row pushed after it. -/
theorem shown_of_lt (h : ∃ rest, t.result ++ [t.outRow] = sink.result ++ rest) {row : Nat}
    (hrow : row < sink.result.length) (col : Nat) : t.shown row col = sink.shown row col := by
  obtain ⟨rest, hrest⟩ := h
  unfold shown
  rw [hrest, getD_append _ _ _ _ hrow, getD_append _ _ _ _ hrow]

theorem shown_outRow (sink : RowReflowSink) (col : Nat) :
    sink.shown sink.result.length col = (sink.outRow.get col).unwrapped := by
  unfold shown
  rw [getD_append_right _ _ _ _ (Nat.le_refl _), Nat.sub_self]
  rfl

/-- Pushing a row that shows the same in the written columns. -/
theorem extends_push {full next : Row} (newCol : Nat)
    (h : ∀ col < sink.outCol, (full.get col).unwrapped = (sink.outRow.get col).unwrapped) :
    sink.Extends { sink with result := sink.result ++ [full], outRow := next, outCol := newCol } := by
  refine ⟨prefix_append .., fun row col hw => ⟨.inl ?_, ?_⟩⟩
  · rw [length_append]
    rcases hw with hlt | ⟨rfl, -⟩
    · exact Nat.lt_succ_of_lt hlt
    · exact Nat.lt_succ_self _
  · rcases hw with hlt | ⟨rfl, hcol⟩
    · exact shown_of_lt ⟨[full, next], by simp⟩ hlt col
    · rw [shown_outRow, ← h col hcol]
      unfold shown
      rw [append_assoc, getD_append_right _ _ _ _ (Nat.le_refl _), Nat.sub_self]
      rfl

theorem get_modify_of_ne (r : Row) {c col : Nat} (h : c ≠ col) (f : Cell → Cell) : (r.modify c f).get col = r.get col := by
  unfold Row.get
  rw [Row.inner_modify, getD_eq_getElem?_getD, getD_eq_getElem?_getD, getElem?_modify_ne _ _ h]

theorem get_modify_self {r : Row} {c : Nat} (h : c < r.cols) (f : Cell → Cell) : (r.modify c f).get c = f (r.get c) := by
  unfold Row.get
  rw [Row.inner_modify, getD_eq_getElem?_getD, getD_eq_getElem?_getD, getElem?_modify_eq,
    getElem?_eq_getElem h]
  rfl

/-- Setting WRAP does not show. -/
theorem unwrapped_insert_wrap (c : Cell) :
    ({ c with flags := insert c.flags wrap } : Cell).unwrapped = c.unwrapped := by
  unfold Cell.unwrapped
  rw [remove_insert_of_contains (by decide)]

/-- An edit that does not show at column `c`. -/
theorem unwrapped_get_modify (r : Row) (c : Nat) (f : Cell → Cell) (h : ∀ cell, (f cell).unwrapped = cell.unwrapped)
    (col : Nat) : ((r.modify c f).get col).unwrapped = (r.get col).unwrapped := by
  by_cases hc : c = col
  · subst hc
    by_cases hlt : c < r.cols
    · rw [get_modify_self hlt, h]
    · unfold Row.get Row.cols at *
      rw [getD_eq_getElem?_getD, getD_eq_getElem?_getD, getElem?_eq_none (by simp; omega), getElem?_eq_none (by omega)]
  · rw [get_modify_of_ne r hc]

section

variable (sink)

theorem extends_pushWrapped (newCols : Nat) (isWide : Bool) : sink.Extends (sink.pushWrapped newCols isWide) := by
  refine extends_push 0 ?_
  intro col hcol
  unfold Row.get
  rw [Row.inner_setOcc]
  show (Row.get _ col).unwrapped = _
  rw [if_pos (by omega)]
  by_cases hgap : (isWide && decide (sink.outCol < newCols)) = true
  · -- the last column is padding: it has not been written
    rw [get_modify_of_ne]
    · rfl
    · simp only [Bool.and_eq_true, decide_eq_true_eq] at hgap
      omega
  · -- the last column only gets WRAP
    refine unwrapped_get_modify _ _ _ ?_ col
    intro cell
    rw [if_neg hgap]
    exact unwrapped_insert_wrap cell

theorem extends_makeRoom (newCols : Nat) (cell : Cell) : sink.Extends (sink.makeRoom newCols cell) := by
  unfold makeRoom
  split
  · exact extends_pushWrapped ..
  · exact Extends.refl sink

theorem extends_finishRow (newCols : Nat) : sink.Extends (sink.finishRow newCols) :=
  extends_push 0 fun _ _ => rfl

theorem extends_writeCell (cell : Cell) (isWide : Bool) : sink.Extends (sink.writeCell cell isWide) := by
  have hresult := result_writeCell sink cell isWide
  refine ⟨hresult.symm ▸ prefix_refl _, fun row col hw => ?_⟩
  have hcol : sink.outCol ≤ (sink.writeCell cell isWide).outCol := by
    unfold writeCell
    dsimp only
    split
    · exact Nat.le_add_right _ 2
    · exact Nat.le_succ _
  refine ⟨?_, ?_⟩
  · unfold Written at hw ⊢
    rw [hresult]
    exact hw.imp id fun h => ⟨h.1, by omega⟩
  · rcases hw with hlt | ⟨rfl, hlt⟩
    · exact shown_of_lt ⟨[(sink.writeCell cell isWide).outRow], by rw [hresult]⟩ hlt col
    · have hlast := (sink.writeCell cell isWide).shown_outRow col
      rw [hresult] at hlast
      rw [hlast, shown_outRow]
      unfold writeCell
      dsimp only
      split
      · show (Row.get (Row.modify (Row.modify _ _ _) _ _) col).unwrapped = _
        rw [get_modify_of_ne _ (by omega), get_modify_of_ne _ (by omega)]
      · show (Row.get (Row.modify _ _ _) col).unwrapped = _
        rw [get_modify_of_ne _ (by omega)]

theorem extends_reflowCell (input : RowReflowInput) (c : Nat) : sink.Extends (sink.reflowCell input c) := by
  cases h : (input.srcRow.get c).isSpacer with
  | true => exact Extends.of_output (output_reflowCell_spacer h).symm
  | false =>
    have hroom := extends_makeRoom sink input.newCols (input.srcRow.get c)
    exact (hroom.trans (extends_writeCell ..)).trans (Extends.of_output (output_reflowCell_text h).symm)

theorem extends_foldl_reflowCell (input : RowReflowInput) (cols : List Nat) :
    sink.Extends (cols.foldl (fun sink c => sink.reflowCell input c) sink) := by
  induction cols generalizing sink with
  | nil => exact Extends.refl sink
  | cons c cols ih => exact (extends_reflowCell sink input c).trans (ih _)

end

variable (params : ReflowParams) (st : ReflowState)

/-- The end of a row keeps what its cells wrote. -/
theorem extends_endRow (r : Row) (i : Nat) :
    (st.sink.reflowRowCells (params.input r i)).Extends (st.reflowRow params (r, i)).sink := by
  cases hwrap : r.wrapped params.oldCols with
  | true => exact Extends.of_output (output_reflowRow_wrapped st i hwrap).symm
  | false =>
    exact (extends_finishRow _ params.newCols).trans (Extends.of_output (output_reflowRow_unwrapped st i hwrap).symm)

theorem extends_reflowRow (r : Row) (i : Nat) : st.sink.Extends (st.reflowRow params (r, i)).sink :=
  (extends_foldl_reflowCell ..).trans (extends_endRow params st r i)

theorem extends_foldl_reflowRow (srcs : List (Row × Nat)) :
    st.sink.Extends (srcs.foldl (ReflowState.reflowRow params) st).sink := by
  induction srcs generalizing st with
  | nil => exact Extends.refl _
  | cons src srcs ih => exact (extends_reflowRow params st src.1 src.2).trans (ih _)

end RowReflowSink

/-! ## Landing -/

/-- The sink when the loop reaches column `c` of source row `i`. -/
def sinkAt (rows : List Row) (params : ReflowParams) (i c : Nat) : RowReflowSink :=
  (List.range c).foldl (fun sink srcCol => sink.reflowCell (params.input (rows.getD i (Row.new 0)) i) srcCol)
    (reflowLoop (rows.take i) params).sink

/-- **The row and the column at which the loop writes** the cell at column `c` of source row `i`. -/
def landing (rows : List Row) (params : ReflowParams) (i c : Nat) : Nat × Nat :=
  let room := (sinkAt rows params i c).makeRoom params.newCols ((rows.getD i (Row.new 0)).get c)
  (room.result.length, room.outCol)

/-- A cell as it stands in the output, up to its row-structure flags: at one column a wide character is cut. -/
def Cell.reflowed (newCols : Nat) (c : Cell) : Cell :=
  if c.has wideChar && decide (newCols < 2) then { c.strip with flags := remove c.strip.flags wideChar }
  else c.strip

theorem unwrapped_reflowed (newCols : Nat) (c : Cell) : (c.reflowed newCols).unwrapped = c.reflowed newCols := by
  have hstrip := unwrapped_strip c
  unfold Cell.reflowed
  split
  · unfold Cell.unwrapped at hstrip ⊢
    rw [remove_comm]
    exact congrArg (fun c : Cell => { c with flags := remove c.flags wideChar }) hstrip
  · exact hstrip

namespace RowReflowSink

variable {sink : RowReflowSink}

section

variable (sink : RowReflowSink) (newCols : Nat) (cell : Cell) (h : sink.outCol < sink.outRow.cols)
include h

/-- What is written for a cell. -/
theorem get_writeCell : (sink.writeCell cell (cell.has wideChar && decide (newCols ≥ 2))).outRow.get sink.outCol
      = cell.reflowed newCols := by
  unfold writeCell Cell.reflowed
  cases hwide : cell.has wideChar with
  | false =>
    show Row.get (Row.modify _ _ _) _ = _
    rw [get_modify_self h]
    rfl
  | true =>
    by_cases hnew : newCols ≥ 2
    · simp only [hnew, decide_true, Bool.not_true, show ¬ newCols < 2 by omega]
      show Row.get (Row.modify (Row.modify _ _ _) _ _) _ = _
      rw [get_modify_of_ne _ (by omega), get_modify_self h]
      rfl
    · simp only [hnew, Bool.and_false, show newCols < 2 by omega]
      show Row.get (Row.modify _ _ _) _ = _
      rw [get_modify_self h]
      rfl

/-- The cell just written is seen. -/
theorem shown_writeCell :
    (sink.writeCell cell (cell.has wideChar && decide (newCols ≥ 2))).shown sink.result.length sink.outCol
      = cell.reflowed newCols := by
  have hlast := (sink.writeCell cell (cell.has wideChar && decide (newCols ≥ 2))).shown_outRow sink.outCol
  rw [result_writeCell] at hlast
  rw [hlast, get_writeCell sink newCols cell h, unwrapped_reflowed]

end

theorem sized_sinkAt (rows : List Row) (params : ReflowParams) (i c : Nat) :
    (sinkAt rows params i c).Sized params.newCols := by
  have hsized := Sized.invariant params.newCols
  have hbase := hsized.reflowLoop (rows.take i) rfl
  unfold sinkAt
  generalize List.range c = cols
  generalize (reflowLoop (rows.take i) params).sink = sink at hbase
  induction cols generalizing sink with
  | nil => exact hbase
  | cons c cols ih => exact ih _ (@Invariant.reflowCell _ _ (params.input _ i) hsized hbase c)

theorem Sized.makeRoom {newCols : Nat} (h : sink.Sized newCols) (cell : Cell) :
    (sink.makeRoom newCols cell).Sized newCols := by
  unfold RowReflowSink.makeRoom
  split
  · exact h.pushWrapped _
  · exact h

/-- A cell fits into an empty row. -/
theorem reflowWidth_le_cols {newCols : Nat} (hcols : 0 < newCols) (c : Cell) : c.reflowWidth newCols ≤ newCols := by
  unfold Cell.reflowWidth
  split
  · rename_i hwide
    simp only [Bool.and_eq_true, decide_eq_true_eq] at hwide
    exact hwide.2
  · exact hcols

/-- With room made, the cell fits. -/
theorem outCol_makeRoom_fits {newCols : Nat} (hcols : 0 < newCols) (sink : RowReflowSink) (cell : Cell) :
    (sink.makeRoom newCols cell).outCol + cell.reflowWidth newCols ≤ newCols := by
  have hwidth := reflowWidth_le_cols hcols cell
  rw [outCol_makeRoom]
  split <;> omega

theorem reflowWidth_pos (newCols : Nat) (cell : Cell) : 0 < cell.reflowWidth newCols := by
  unfold Cell.reflowWidth
  split <;> omega

/-- What is written by the end of the loop is in the rows that come out. -/
theorem get_of_written {rows : List Row} {params : ReflowParams} {row col : Nat}
    (h : (reflowLoop rows params).sink.Written row col) :
    ∃ r, (reflowCells rows params).rows[row]? = some r
      ∧ (r.get col).unwrapped = (reflowLoop rows params).sink.shown row col := by
  unfold reflowCells
  dsimp only
  generalize (reflowLoop rows params).sink = sink at h ⊢
  have hlt : row < (sink.result ++ [sink.outRow]).length := by
    rw [length_append]
    rcases h with hdone | ⟨rfl, -⟩
    · exact Nat.lt_succ_of_lt hdone
    · exact Nat.lt_succ_self _
  refine ⟨(sink.result ++ [sink.outRow])[row], ?_, ?_⟩
  · split
    · exact getElem?_eq_getElem hlt
    · rcases h with hdone | ⟨-, hcol⟩
      · rw [getElem_append_left, getElem?_eq_getElem hdone]
      · omega
  · unfold shown
    rw [getD_eq_getElem]

end RowReflowSink

variable {rows : List Row}

theorem getD_of_getElem? {i : Nat} {r : Row} (hr : rows[i]? = some r) : rows.getD i (Row.new 0) = r := by
  rw [getD_eq_getElem?_getD, hr]
  rfl

section

variable (params : ReflowParams) {i : Nat}
include params

/-- One column further. -/
theorem sinkAt_succ {r : Row} (hr : rows[i]? = some r) (c : Nat) :
    sinkAt rows params i (c + 1) = (sinkAt rows params i c).reflowCell (params.input r i) c := by
  unfold sinkAt
  rw [range_succ, foldl_append, getD_of_getElem? hr]
  rfl

/-- The sink after all cells of a row. -/
theorem reflowRowCells_eq_sinkAt {r : Row} (hr : rows[i]? = some r) :
    (reflowLoop (rows.take i) params).sink.reflowRowCells (params.input r i)
      = sinkAt rows params i (r.reflowLen params.oldCols) := by
  unfold RowReflowSink.reflowRowCells sinkAt
  rw [getD_of_getElem? hr]
  rfl

/-- The loop runs up to a row and over the rest. -/
theorem reflowLoop_take_drop (hi : i < rows.length) :
    reflowLoop rows params
      = ((rows.drop i).zipIdx i).foldl (ReflowState.reflowRow params) (reflowLoop (rows.take i) params) := by
  have htake : (rows.take i).length = i := by rw [length_take]; omega
  conv_lhs => rw [← take_append_drop i rows]
  rw [reflowLoop_append, htake]

/-- The row itself comes first in the rest. -/
theorem reflowLoop_split {r : Row} (hr : rows[i]? = some r) :
    reflowLoop rows params = ((rows.drop (i + 1)).zipIdx (i + 1)).foldl (ReflowState.reflowRow params)
      ((reflowLoop (rows.take i) params).reflowRow params (r, i)) := by
  obtain ⟨hi, rfl⟩ := List.getElem?_eq_some_iff.mp hr
  rw [reflowLoop_take_drop params hi, drop_eq_getElem_cons, zipIdx_cons, foldl_cons]

end

/-- From a column of a row to the end of the loop. -/
theorem extends_sinkAt {params : ReflowParams} {i c : Nat} {r : Row} (hr : rows[i]? = some r)
    (hc : c ≤ r.reflowLen params.oldCols) : (sinkAt rows params i c).Extends (reflowLoop rows params).sink := by
  have hrow : (sinkAt rows params i c).Extends (sinkAt rows params i (r.reflowLen params.oldCols)) := by
    obtain ⟨n, hn⟩ : ∃ n, r.reflowLen params.oldCols = c + n := ⟨_, (Nat.add_sub_of_le hc).symm⟩
    unfold sinkAt
    rw [hn, range_add, foldl_append]
    exact RowReflowSink.extends_foldl_reflowCell ..
  rw [← reflowRowCells_eq_sinkAt params hr] at hrow
  rw [reflowLoop_split params hr]
  exact (hrow.trans (RowReflowSink.extends_endRow ..)).trans (RowReflowSink.extends_foldl_reflowRow ..)

/-- **The cell stands where it landed** in the rows that come out of reflow. -/
theorem get_landing {params : ReflowParams} (hcols : 0 < params.newCols) {i c : Nat} {r : Row}
    (hr : rows[i]? = some r) (hc : c < r.reflowLen params.oldCols) (htext : (r.get c).isSpacer = false) :
    ∃ row, (reflowCells rows params).rows[(landing rows params i c).1]? = some row
      ∧ (row.get (landing rows params i c).2).unwrapped = (r.get c).reflowed params.newCols := by
  have hget := getD_of_getElem? hr
  have hsized := (RowReflowSink.sized_sinkAt rows params i c).makeRoom (r.get c)
  have hroom := RowReflowSink.outCol_makeRoom_fits hcols (sinkAt rows params i c) (r.get c)
  have hwidth := RowReflowSink.reflowWidth_pos params.newCols (r.get c)
  have hcell := @RowReflowSink.output_reflowCell_text (sinkAt rows params i c) (params.input r i) c htext
  have hlater := (RowReflowSink.Extends.of_output hcell.symm).trans
    (sinkAt_succ params hr c ▸ extends_sinkAt hr (Nat.succ_le_of_lt hc))
  have hspot : landing rows params i c
      = (((sinkAt rows params i c).makeRoom params.newCols (r.get c)).result.length,
          ((sinkAt rows params i c).makeRoom params.newCols (r.get c)).outCol) := by
    unfold landing
    rw [hget]
  rw [hspot]
  change RowReflowSink.Extends (((sinkAt rows params i c).makeRoom params.newCols (r.get c)).writeCell (r.get c) _) _
    at hlater
  generalize (sinkAt rows params i c).makeRoom params.newCols (r.get c) = room at hsized hroom hlater ⊢
  have hwritten : (room.writeCell (r.get c) ((r.get c).has wideChar && decide (params.newCols ≥ 2))).Written
      room.result.length room.outCol := by
    refine .inr ⟨congrArg List.length (RowReflowSink.result_writeCell ..).symm, ?_⟩
    rw [RowReflowSink.outCol_writeCell]
    omega
  obtain ⟨hfinal, hshown⟩ := hlater.keeps _ _ hwritten
  obtain ⟨row, hrow, hstands⟩ := RowReflowSink.get_of_written hfinal
  refine ⟨row, hrow, ?_⟩
  rw [hstands, hshown]
  refine RowReflowSink.shown_writeCell room params.newCols (r.get c) ?_
  rw [hsized.outRow]
  omega

end OriTerm
