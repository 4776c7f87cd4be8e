import OriTerm.Core.ReflowCursor

/-!
# `Core.ReflowLayout` — how many rows a text takes

`layout` lays source rows out at a new width without building a row: it counts. `row` and `col` are where the
next cell goes, `reach` is the number of rows up to the last one with something to see. It agrees with the rows
that reflow builds (`layout_reflowLoop`, `reach_reflowCells`), so a condition on the size of a reflow can be read
off the source rows.
-/

namespace OriTerm

open Lib Lib.Bitflags CellFlags

/-! ## Counting -/

/-- Where the next cell goes, and how many rows have something to see. -/
structure Layout where
  row : Nat
  col : Nat
  reach : Nat
  deriving DecidableEq, Repr

namespace Layout

/-- One cell. A row that is full is shown, because it carries WRAP. -/
def cell (newCols : Nat) (l : Layout) (c : Cell) : Layout :=
  if c.isSpacer then l
  else
    let l := if l.col + c.reflowWidth newCols > newCols then ⟨l.row + 1, 0, l.row + 1⟩ else l
    { row := l.row
      col := l.col + c.reflowWidth newCols
      reach := if (c.reflowed newCols).isEmpty then l.reach else l.row + 1 }

/-- The first `n` cells of a row. -/
def cells (newCols : Nat) (l : Layout) (r : Row) (n : Nat) : Layout :=
  (List.range n).foldl (fun l c => l.cell newCols (r.get c)) l

/-- A source row: unless it is wrapped, its last output row ends with it. -/
def sourceRow (params : ReflowParams) (l : Layout) (r : Row) : Layout :=
  let l := l.cells params.newCols r (r.reflowLen params.oldCols)
  if r.wrapped params.oldCols then l else { l with row := l.row + 1, col := 0 }

end Layout

/-- **Source rows laid out at the new width.** -/
def layout (params : ReflowParams) (rows : List Row) : Layout := rows.foldl (Layout.sourceRow params) ⟨0, 0, 0⟩

/-- The output row of the cursor: of the character it is on, or of the last one before it. -/
def cursorRow (params : ReflowParams) (rows : List Row) : Nat :=
  let r := rows.getD params.cursorAbs (Row.new 0)
  let l := (layout params (rows.take params.cursorAbs)).cells params.newCols r
    (min params.cursorCol (r.reflowLen params.oldCols))
  let c := r.get params.cursorCol
  if params.cursorCol < r.reflowLen params.oldCols ∧ c.isSpacer = false
      ∧ l.col + c.reflowWidth params.newCols > params.newCols then l.row + 1
  else l.row

/-! ## Agreement with the rows -/

/-- The layout counts what the sink holds. -/
structure Layout.Counts (newCols : Nat) (sink : RowReflowSink) (l : Layout) : Prop where
  row : l.row = sink.result.length
  col : l.col = sink.outCol
  reach : l.reach = ((sink.result ++ [sink.outRow]).rdropWhile Row.isBlank).length
  width : sink.outRow.cols = newCols
  tail : ∀ c, sink.outCol ≤ c → c < newCols → (sink.outRow.get c).isEmpty = true

theorem Row.isBlank_iff (r : Row) : r.isBlank = true ↔ ∀ c < r.cols, (r.get c).isEmpty = true := by
  unfold Row.isBlank Row.cols Row.get
  rw [List.all_eq_true]
  constructor
  · intro h c hc
    rw [List.getD_eq_getElem _ _ hc]
    exact h _ (List.getElem_mem hc)
  · intro h x hx
    obtain ⟨c, hc, rfl⟩ := List.getElem_of_mem hx
    have := h c hc
    rwa [List.getD_eq_getElem] at this

theorem Row.isBlank_new (cols : Nat) : (Row.new cols).isBlank = true := by
  unfold Row.isBlank Row.new
  rw [List.all_eq_true]
  intro c hc
  obtain rfl := List.eq_of_mem_replicate hc
  decide

/-- Rows followed by one more, up to the last that shows something. -/
theorem length_rdropWhile_concat (rows : List Row) (r : Row) :
    ((rows ++ [r]).rdropWhile Row.isBlank).length
      = if r.isBlank then (rows.rdropWhile Row.isBlank).length else rows.length + 1 := by
  rw [List.rdropWhile_concat]
  split
  · rfl
  · rw [List.length_append, List.length_singleton]

/-- A cell with a structural flag is not empty. -/
theorem isEmpty_of_has {c : Cell} {f : CellFlags} (hf : f ≠ 0)
    (hdis : Disjoint (drawn ||| isProtected) f) (h : c.has f = true) : c.isEmpty = false := by
  rw [← Bool.not_eq_true]
  intro hempty
  simp only [Cell.isEmpty, Bool.and_eq_true, beq_iff_eq] at hempty
  have hflags := hempty.1.2
  have hcontains : contains (remove c.flags (drawn ||| isProtected)) f = true :=
    (contains_remove_of_disjoint hdis).trans h
  rw [hflags] at hcontains
  have hzero : (0 : CellFlags) &&& f = 0 := BitVec.zero_and
  simp only [contains, hzero, beq_iff_eq] at hcontains
  exact hf hcontains.symm

namespace Layout.Counts

open RowReflowSink

variable {newCols : Nat} {sink t : RowReflowSink} {l : Layout}

theorem of_output (h : l.Counts newCols sink) (hout : sink.output = t.output) : l.Counts newCols t := by
  obtain ⟨hrow, hcol, hreach, hwidth, htail⟩ := h
  rw [result_of_output hout] at hrow hreach
  rw [outCol_of_output hout] at hcol htail
  rw [outRow_of_output hout] at hreach hwidth htail
  exact ⟨hrow, hcol, hreach, hwidth, htail⟩

theorem init (newCols : Nat) : (⟨0, 0, 0⟩ : Layout).Counts newCols ⟨[], Row.new newCols, 0, 0, 0⟩ := by
  refine ⟨rfl, rfl, ?_, Row.cols_new newCols, fun c _ hc => (Row.isBlank_iff _).mp (Row.isBlank_new newCols) c ?_⟩
  · rw [length_rdropWhile_concat, Row.isBlank_new]
    rfl
  · rwa [Row.cols_new]

/-- A new row in progress is blank. -/
theorem next (rows : List Row) (abs col : Nat) :
    (⟨rows.length, 0, (rows.rdropWhile Row.isBlank).length⟩ : Layout).Counts newCols
      ⟨rows, Row.new newCols, 0, abs, col⟩ := by
  refine ⟨rfl, rfl, ?_, Row.cols_new newCols, fun c _ hc => (Row.isBlank_iff _).mp (Row.isBlank_new newCols) c ?_⟩
  · rw [length_rdropWhile_concat, Row.isBlank_new, if_pos rfl]
  · rwa [Row.cols_new]

/-- A row that overflows is shown. -/
theorem pushWrapped (h : l.Counts newCols sink) (hcols : 0 < newCols) (hpos : 0 < sink.outCol) (isWide : Bool) :
    (⟨l.row + 1, 0, l.row + 1⟩ : Layout).Counts newCols (sink.pushWrapped newCols isWide) := by
  have hpush := @next newCols (sink.pushWrapped newCols isWide).result sink.newCursorAbs sink.newCursorCol
  have hlen : (sink.pushWrapped newCols isWide).result.length = sink.result.length + 1 := List.length_append
  have hreach : ((sink.pushWrapped newCols isWide).result.rdropWhile Row.isBlank).length = sink.result.length + 1 := by
    unfold RowReflowSink.pushWrapped
    rw [length_rdropWhile_concat, if_neg]
    rw [if_pos hpos]
    intro hblank
    -- its last cell carries WRAP
    have hlast := (Row.isBlank_iff _).mp hblank (newCols - 1) (by rw [Row.cols_setOcc, Row.cols_modify, h.width]; omega)
    change Cell.isEmpty (Row.get (Row.modify _ _ _) _) = true at hlast
    rw [get_modify_self (by rw [h.width]; omega)] at hlast
    refine absurd hlast (Bool.not_eq_true _ ▸ isEmpty_of_has (f := wrap) (by decide) (by decide) ?_)
    split
    · exact contains_insert_of_disjoint (by decide) |>.trans contains_insert_self
    · exact contains_insert_self
  rw [hlen, hreach, ← h.row] at hpush
  exact hpush

/-- Writing touches the columns of the cell only. -/
theorem get_writeCell_of_ne (sink : RowReflowSink) (newCols : Nat) (c : Cell) {col : Nat}
    (h : col < sink.outCol ∨ sink.outCol + c.reflowWidth newCols ≤ col) :
    (sink.writeCell c (c.has wideChar && decide (newCols ≥ 2))).outRow.get col = sink.outRow.get col := by
  unfold Cell.reflowWidth at h
  unfold RowReflowSink.writeCell
  dsimp only
  split
  · rename_i hwide
    rw [if_pos hwide] at h
    show Row.get (Row.modify (Row.modify _ _ _) _ _) col = _
    rw [get_modify_of_ne _ (by omega), get_modify_of_ne _ (by omega)]
  · rename_i hwide
    rw [if_neg hwide] at h
    show Row.get (Row.modify _ _ _) col = _
    rw [get_modify_of_ne _ (by omega)]

theorem cols_writeCell (sink : RowReflowSink) (c : Cell) (isWide : Bool) :
    (sink.writeCell c isWide).outRow.cols = sink.outRow.cols := by
  unfold RowReflowSink.writeCell
  dsimp only
  split <;> simp

section

variable (h : l.Counts newCols sink) (c : Cell) (hfits : sink.outCol + c.reflowWidth newCols ≤ newCols)
include h hfits

/-- The row in progress stays blank while empty cells are written. -/
theorem isBlank_writeCell : (sink.writeCell c (c.has wideChar && decide (newCols ≥ 2))).outRow.isBlank
      = (sink.outRow.isBlank && (c.reflowed newCols).isEmpty) := by
  have hpos := reflowWidth_pos newCols c
  have hcol : sink.outCol < sink.outRow.cols := by rw [h.width]; omega
  have hself := get_writeCell sink newCols c hcol
  rw [Bool.eq_iff_iff, Bool.and_eq_true, Row.isBlank_iff, Row.isBlank_iff, cols_writeCell, h.width]
  constructor
  · intro hblank
    refine ⟨fun d hd => ?_, hself ▸ hblank _ (by omega)⟩
    by_cases hlt : d < sink.outCol
    · exact get_writeCell_of_ne sink newCols c (.inl hlt) ▸ hblank d hd
    · exact h.tail d (by omega) hd
  · rintro ⟨hblank, hempty⟩ d hd
    -- an empty cell is narrow
    have hone : c.reflowWidth newCols = 1 := by
      unfold Cell.reflowWidth
      rw [if_neg]
      intro hwide
      have hstill : (c.reflowed newCols).has wideChar = true := by
        rw [← strip_fitted, has_wideChar_strip, has_wideChar_fitted, hwide]
      rw [isEmpty_of_has (by decide) (by decide) hstill] at hempty
      cases hempty
    by_cases hat : d = sink.outCol
    · rw [hat, hself]
      exact hempty
    · rw [get_writeCell_of_ne sink newCols c (by omega)]
      exact hblank d hd

/-- A cell that fits is written. -/
theorem writeCell :
    (⟨l.row, l.col + c.reflowWidth newCols, if (c.reflowed newCols).isEmpty then l.reach else l.row + 1⟩ : Layout).Counts
      newCols (sink.writeCell c (c.has wideChar && decide (newCols ≥ 2))) := by
  have hresult := result_writeCell sink c (c.has wideChar && decide (newCols ≥ 2))
  have hreach := h.reach
  rw [length_rdropWhile_concat] at hreach
  refine ⟨?_, ?_, ?_, (cols_writeCell ..).trans h.width, ?_⟩
  · rw [hresult]
    exact h.row
  · rw [outCol_writeCell]
    exact congrArg (· + _) h.col
  · rw [length_rdropWhile_concat, hresult, h.isBlank_writeCell c hfits]
    cases (c.reflowed newCols).isEmpty with
    | true => simpa using hreach
    | false => simpa using h.row
  · intro d hd hlt
    rw [outCol_writeCell] at hd
    rw [get_writeCell_of_ne sink newCols c (.inr hd)]
    exact h.tail d (by omega) hlt

end

variable {input : RowReflowInput} (h : l.Counts input.newCols sink) (hcols : 0 < input.newCols)
include h hcols

/-- **One source cell.** -/
theorem reflowCell (c : Nat) :
    (l.cell input.newCols (input.srcRow.get c)).Counts input.newCols (sink.reflowCell input c) := by
  unfold Layout.cell
  cases hcell : (input.srcRow.get c).isSpacer with
  | true =>
    exact h.of_output (output_reflowCell_spacer hcell).symm
  | false =>
    refine Counts.of_output ?_ (output_reflowCell_text hcell).symm
    have hfits := outCol_makeRoom_fits hcols sink (input.srcRow.get c)
    refine Counts.writeCell ?_ _ hfits
    unfold makeRoom
    rw [← h.col]
    split
    · have hcol := h.col
      exact h.pushWrapped hcols (by omega) _
    · exact h

/-- The first cells of a row. -/
theorem cells (n : Nat) : (l.cells input.newCols input.srcRow n).Counts input.newCols
      ((List.range n).foldl (fun sink c => sink.reflowCell input c) sink) := by
  unfold Layout.cells
  induction n with
  | zero => exact h
  | succ n ih =>
    rw [List.range_succ, List.foldl_append, List.foldl_append]
    exact ih.reflowCell hcols n

end Layout.Counts

section Agreement

variable {rows : List Row} {params : ReflowParams}

/-- **The layout counts the rows of the loop.** -/
theorem layout_reflowLoop (rows : List Row) (hcols : 0 < params.newCols) :
    (layout params rows).Counts params.newCols (reflowLoop rows params).sink := by
  induction rows using List.reverseRecOn with
  | nil => exact Layout.Counts.init params.newCols
  | append_singleton rows r ih =>
    have hcells := @Layout.Counts.cells _ _ (params.input r rows.length) ih hcols (r.reflowLen params.oldCols)
    change Layout.Counts _ ((reflowLoop rows params).sink.reflowRowCells (params.input r rows.length)) _ at hcells
    rw [reflowLoop_concat]
    unfold layout
    rw [List.foldl_append, List.foldl_cons]
    unfold Layout.sourceRow
    cases hwrap : r.wrapped params.oldCols with
    | true =>
      exact hcells.of_output (output_reflowRow_wrapped _ _ hwrap).symm
    | false =>
      refine Layout.Counts.of_output ?_ (output_reflowRow_unwrapped _ _ hwrap).symm
      obtain ⟨hrow, -, hreach, -, -⟩ := hcells
      have hnext := @Layout.Counts.next params.newCols
        ((((reflowLoop rows params).sink.reflowRowCells (params.input r rows.length)).finishRow params.newCols).result)
        ((reflowLoop rows params).sink.reflowRowCells (params.input r rows.length)).newCursorAbs
        ((reflowLoop rows params).sink.reflowRowCells (params.input r rows.length)).newCursorCol
      have hlen : (((reflowLoop rows params).sink.reflowRowCells
          (params.input r rows.length)).finishRow params.newCols).result.length
          = ((reflowLoop rows params).sink.reflowRowCells (params.input r rows.length)).result.length + 1 :=
        List.length_append
      rw [hlen, ← hrow] at hnext
      have hsame : (((reflowLoop rows params).sink.reflowRowCells
          (params.input r rows.length)).finishRow params.newCols).result
          = ((reflowLoop rows params).sink.reflowRowCells (params.input r rows.length)).result
            ++ [((reflowLoop rows params).sink.reflowRowCells (params.input r rows.length)).outRow] := rfl
      rw [hsame, ← hreach] at hnext
      exact hnext

/-- **How far the text reaches** in the rows that come out. -/
theorem reach_reflowCells (rows : List Row) (hcols : 0 < params.newCols) :
    ((reflowCells rows params).rows.rdropWhile Row.isBlank).length = (layout params rows).reach := by
  obtain ⟨-, -, hreach, hwidth, htail⟩ := layout_reflowLoop rows hcols
  unfold reflowCells
  dsimp only
  split
  · exact hreach.symm
  · rename_i hzero
    rw [hreach, length_rdropWhile_concat, if_pos]
    exact (Row.isBlank_iff _).mpr fun c hc => htail c (by omega) (by omega)

/-- **The output row of the cursor.** -/
theorem cursorRow_reflowCells {r : Row} (hcols : 0 < params.newCols) (hr : rows[params.cursorAbs]? = some r) :
    (reflowCells rows params).newCursorAbs = cursorRow params rows := by
  have hcursor := congrArg Prod.fst (cursor_reflowCells hr)
  have hcount : ∀ n, ((layout params (rows.take params.cursorAbs)).cells params.newCols r n).Counts params.newCols
      (sinkAt rows params params.cursorAbs n) := by
    intro n
    unfold sinkAt
    rw [getD_of_getElem? hr]
    exact @Layout.Counts.cells _ _ (params.input r params.cursorAbs) (layout_reflowLoop _ hcols) hcols n
  refine hcursor.trans ?_
  unfold cursorRow
  dsimp only
  rw [getD_of_getElem? hr]
  by_cases hlt : params.cursorCol < r.reflowLen params.oldCols
  · rw [if_pos hlt, Nat.min_eq_left hlt.le]
    have hat := hcount params.cursorCol
    cases hcell : (r.get params.cursorCol).isSpacer with
    | true =>
      rw [if_pos rfl, if_neg (by simp)]
      exact hat.row.symm
    | false =>
      rw [if_neg (by simp), hat.row, hat.col]
      simp only [hlt, true_and]
      unfold landing
      dsimp only
      rw [getD_of_getElem? hr, RowReflowSink.length_makeRoom]
  · rw [if_neg hlt, Nat.min_eq_right (Nat.not_lt.mp hlt)]
    dsimp only
    rw [if_neg fun h => hlt h.1]
    exact (hcount _).row.symm

end Agreement

end OriTerm
