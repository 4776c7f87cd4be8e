import OriTerm.Core.ReflowText

/-!
# `Core.ReflowCursor` — the cursor through a reflow

The loop of `reflowCells` also tracks the cursor. `Points` says which character of which logical line a position
is on, or directly after; `CursorKept` says that a reflow keeps every such character.

Where the cursor comes out depends on what it was on (`cursor_reflowCells`): a character lands where it is
written, a spacer is followed by the last column written before it, and the end of a wrapped row is the write
column. All of these keep the character. Past the content of an unwrapped row the code keeps the *column*, which
is right only where the last character happens to end: `cursorKept_iff` is the exact condition.
-/

namespace OriTerm

open Lib Lib.Bitflags List Option

variable (cols : Nat) (rows : List Row) (params : ReflowParams)

/-! ## Characters and positions -/

/-- The index of the logical line a row belongs to. -/
def lineOf (row : Nat) : Nat := (readRows cols (rows.take row)).1.length

/-- How many characters of its line come before a position. -/
def charsBefore (row col : Nat) : Nat :=
  ((readRows cols (rows.take row)).2.getD [] ++ content ((rows.getD row (Row.new 0)).inner.take col)).length

/-- The logical line has a `k`-th character, trailing blanks left out. -/
def IsChar (line k : Nat) : Prop := k < ((logicalLines cols rows).getD line []).length

/-- **The position is on the `k`-th character of the line** (on its cell, or on a spacer behind it) or directly
    after it. -/
structure Points (cols : Nat) (rows : List Row) (pos : Nat × Nat) (line k : Nat) : Prop where
  line_eq : lineOf cols rows pos.1 = line
  char :
    (charsBefore cols rows pos.1 pos.2 = k ∧ pos.2 < (rows.getD pos.1 (Row.new 0)).cols
        ∧ ((rows.getD pos.1 (Row.new 0)).get pos.2).isSpacer = false)
      ∨ charsBefore cols rows pos.1 pos.2 = k + 1

/-- **The cursor stays on its character.** -/
def CursorKept : Prop :=
  ∀ line k, IsChar params.oldCols rows line k →
    Points params.oldCols rows (params.cursorAbs, params.cursorCol) line k →
    Points params.newCols (reflowCells rows params).rows
      ((reflowCells rows params).newCursorAbs, (reflowCells rows params).newCursorCol) line k

/-! ## The tracked cursor -/

namespace RowReflowSink

/-- The position tracked so far. -/
def cursor (sink : RowReflowSink) : Nat × Nat := (sink.newCursorAbs, sink.newCursorCol)

variable {sink : RowReflowSink}

theorem cursor_makeRoom (sink : RowReflowSink) (newCols : Nat) (cell : Cell) :
    (sink.makeRoom newCols cell).cursor = sink.cursor := by
  unfold makeRoom
  split <;> rfl

theorem cursor_writeCell (sink : RowReflowSink) (cell : Cell) (isWide : Bool) :
    (sink.writeCell cell isWide).cursor = sink.cursor := by
  unfold writeCell
  dsimp only
  split <;> rfl

section

variable {input : RowReflowInput}

/-- Only the cell at the cursor moves it. -/
theorem cursor_reflowCell_of_ne {c : Nat} (h : ¬ (input.srcIdx = input.cursorAbs ∧ c = input.cursorCol)) :
    (sink.reflowCell input c).cursor = sink.cursor := by
  unfold reflowCell
  dsimp only
  split
  · rfl
  · rw [cursor_writeCell]
    exact cursor_makeRoom sink input.newCols (input.srcRow.get c)

/-- A spacer at the cursor: the last column written. -/
theorem cursor_reflowCell_spacer (hrow : input.srcIdx = input.cursorAbs)
    (h : (input.srcRow.get input.cursorCol).isSpacer = true) :
    (sink.reflowCell input input.cursorCol).cursor = (sink.result.length, sink.outCol - 1) := by
  unfold reflowCell
  rw [if_pos h, if_pos ⟨hrow, rfl⟩]
  rfl

/-- A character at the cursor: where it is written. -/
theorem cursor_reflowCell_text (hrow : input.srcIdx = input.cursorAbs)
    (h : (input.srcRow.get input.cursorCol).isSpacer = false) :
    (sink.reflowCell input input.cursorCol).cursor
      = ((sink.makeRoom input.newCols (input.srcRow.get input.cursorCol)).result.length,
          (sink.makeRoom input.newCols (input.srcRow.get input.cursorCol)).outCol) := by
  unfold reflowCell
  dsimp only
  rw [if_neg (by simp [h]), if_pos ⟨hrow, rfl⟩, cursor_writeCell]
  rfl

theorem cursor_foldl_of_notMem (cols : List Nat)
    (h : ∀ c ∈ cols, ¬ (input.srcIdx = input.cursorAbs ∧ c = input.cursorCol)) :
    (cols.foldl (fun sink c => sink.reflowCell input c) sink).cursor = sink.cursor := by
  induction cols generalizing sink with
  | nil => rfl
  | cons c cols ih =>
    rw [foldl_cons, ih fun d hd => h d (mem_cons_of_mem _ hd), cursor_reflowCell_of_ne (h c mem_cons_self)]

end

end RowReflowSink

section Tracked

variable {rows : List Row} {params : ReflowParams} {i : Nat} {r : Row}

/-- Other rows do not move the cursor. -/
theorem cursor_reflowRow_of_ne (st : ReflowState) (h : i ≠ params.cursorAbs) :
    (st.reflowRow params (r, i)).sink.cursor = st.sink.cursor := by
  have hcells : (st.sink.reflowRowCells (params.input r i)).cursor = st.sink.cursor :=
    RowReflowSink.cursor_foldl_of_notMem _ fun c _ hc => h hc.1
  have hpast : (st.sink.reflowRowCells (params.input r i)).trackPastContent (params.input r i) (r.wrapped params.oldCols)
      = st.sink.reflowRowCells (params.input r i) := by
    exact if_neg fun hc => h hc.1
  rw [sink_reflowRow, hpast]
  split <;> exact hcells

/-- The cursor is settled by its own row. -/
theorem cursor_reflowLoop (hr : rows[params.cursorAbs]? = some r) :
    (reflowLoop rows params).sink.cursor
      = ((reflowLoop (rows.take params.cursorAbs) params).reflowRow params (r, params.cursorAbs)).sink.cursor := by
  rw [reflowLoop_split params hr]
  generalize (reflowLoop (rows.take params.cursorAbs) params).reflowRow params (r, params.cursorAbs) = st
  have hlater : ∀ src ∈ (rows.drop (params.cursorAbs + 1)).zipIdx (params.cursorAbs + 1), src.2 ≠ params.cursorAbs := by
    intro src hsrc
    have := (mem_zipIdx hsrc).1
    omega
  generalize (rows.drop (params.cursorAbs + 1)).zipIdx (params.cursorAbs + 1) = srcs at hlater
  induction srcs generalizing st with
  | nil => rfl
  | cons src srcs ih =>
    rw [foldl_cons, ih _ fun s hs => hlater s (mem_cons_of_mem _ hs)]
    exact cursor_reflowRow_of_ne st (hlater src mem_cons_self)

/-- **Where the cursor comes out.** -/
theorem cursor_reflowCells (hr : rows[params.cursorAbs]? = some r) :
    ((reflowCells rows params).newCursorAbs, (reflowCells rows params).newCursorCol)
      = if params.cursorCol < r.reflowLen params.oldCols then
          if (r.get params.cursorCol).isSpacer then
            ((sinkAt rows params params.cursorAbs params.cursorCol).result.length,
              (sinkAt rows params params.cursorAbs params.cursorCol).outCol - 1)
          else landing rows params params.cursorAbs params.cursorCol
        else
          ((sinkAt rows params params.cursorAbs (r.reflowLen params.oldCols)).result.length,
            if r.wrapped params.oldCols then
              min (sinkAt rows params params.cursorAbs (r.reflowLen params.oldCols)).outCol (params.newCols - 1)
            else min params.cursorCol (params.newCols - 1)) := by
  have hend : ∀ sink : RowReflowSink, (if r.wrapped params.oldCols then sink else sink.finishRow params.newCols).cursor
      = sink.cursor := by
    intro sink
    split <;> rfl
  show (reflowLoop rows params).sink.cursor = _
  rw [cursor_reflowLoop hr, sink_reflowRow, hend, reflowRowCells_eq_sinkAt params hr]
  unfold RowReflowSink.trackPastContent
  by_cases hlt : params.cursorCol < r.reflowLen params.oldCols
  · -- on a cell of the row
    rw [if_pos hlt, if_neg (fun hc => absurd hc.2 (Nat.not_le.mpr hlt))]
    obtain ⟨n, hn⟩ : ∃ n, r.reflowLen params.oldCols = (params.cursorCol + 1) + n := ⟨_, (Nat.add_sub_of_le hlt).symm⟩
    have hcells : sinkAt rows params params.cursorAbs (r.reflowLen params.oldCols)
        = ((List.range n).map (params.cursorCol + 1 + ·)).foldl
            (fun sink c => sink.reflowCell (params.input r params.cursorAbs) c)
            ((sinkAt rows params params.cursorAbs params.cursorCol).reflowCell (params.input r params.cursorAbs)
              params.cursorCol) := by
      unfold sinkAt
      rw [getD_of_getElem? hr, hn, range_add, range_succ, append_assoc, singleton_append,
        foldl_append, foldl_cons]
    have hafter : ∀ c ∈ (List.range n).map (params.cursorCol + 1 + ·),
        ¬ ((params.input r params.cursorAbs).srcIdx = (params.input r params.cursorAbs).cursorAbs
          ∧ c = (params.input r params.cursorAbs).cursorCol) := by
      intro c hc hat
      obtain ⟨d, -, rfl⟩ := mem_map.mp hc
      have : params.cursorCol + 1 + d = params.cursorCol := hat.2
      omega
    rw [hcells, RowReflowSink.cursor_foldl_of_notMem _ hafter]
    cases hcell : (r.get params.cursorCol).isSpacer with
    | true =>
      exact @RowReflowSink.cursor_reflowCell_spacer _ (params.input r params.cursorAbs) rfl hcell
    | false =>
      refine (@RowReflowSink.cursor_reflowCell_text _ (params.input r params.cursorAbs) rfl hcell).trans ?_
      unfold landing
      rw [getD_of_getElem? hr]
      rfl
  · -- past the content
    rw [if_neg hlt, if_pos ⟨rfl, Nat.not_lt.mp hlt⟩]
    rfl

end Tracked

/-! ## Reading the output at a written position -/

/-- One more column: one more character, unless it is a spacer. -/
theorem length_content_take_succ {r : Row} {c : Nat} (h : c < r.cols) :
    (content (r.inner.take (c + 1))).length
      = (content (r.inner.take c)).length + if (r.get c).isSpacer then 0 else 1 := by
  have hlt : c < r.inner.length := h
  have htake : r.inner.take (c + 1) = r.inner.take c ++ [r.get c] := by
    simp [Row.get, hlt]
  rw [htake, content_append, length_append, content_singleton]
  split <;> rfl

theorem length_content_take_mono (r : Row) {c d : Nat} (h : c ≤ d) :
    (content (r.inner.take c)).length ≤ (content (r.inner.take d)).length := by
  have hsplit : r.inner.take d = r.inner.take c ++ (r.inner.take d).drop c := by
    conv_lhs => rw [← take_append_drop c (r.inner.take d), take_take, Nat.min_eq_left h]
  rw [hsplit, content_append, length_append]
  exact Nat.le_add_right _ _

/-- Rows that agree on what is a spacer. -/
theorem length_content_take_congr {r r' : Row} {col : Nat} (hr : col ≤ r.cols) (hr' : col ≤ r'.cols)
    (h : ∀ c < col, (r.get c).isSpacer = (r'.get c).isSpacer) :
    (content (r.inner.take col)).length = (content (r'.inner.take col)).length := by
  induction col with
  | zero => rw [take_zero, take_zero]
  | succ col ih =>
    rw [length_content_take_succ (by omega), length_content_take_succ (by omega),
      ih (by omega) (by omega) fun c hc => h c (by omega), h col (Nat.lt_succ_self col)]

section Output

variable {rows : List Row} {params : ReflowParams} {done : List (List Cell)} {line written : List Cell}
  {sink : RowReflowSink}

/-- The finished rows come out first. -/
theorem finished_first (rows : List Row) (params : ReflowParams) :
    (reflowLoop rows params).sink.result <+: (reflowCells rows params).rows := by
  unfold reflowCells
  dsimp only
  split
  · exact prefix_append ..
  · exact prefix_refl _

/-- The finished rows are the first rows that come out. -/
theorem take_reflowCells (hlater : sink.Extends (reflowLoop rows params).sink) :
    (reflowCells rows params).rows.take sink.result.length = sink.result :=
  (prefix_iff_eq_take.mp (hlater.finished.trans (finished_first rows params))).symm

/-- What is written in the row in progress comes out. -/
theorem out_of_lt (hlater : sink.Extends (reflowLoop rows params).sink) {col : Nat} (hcol : col < sink.outCol) :
    ((reflowCells rows params).rows.getD sink.result.length (Row.new 0)).cols = params.newCols
      ∧ (((reflowCells rows params).rows.getD sink.result.length (Row.new 0)).get col).isSpacer
          = (sink.outRow.get col).isSpacer := by
  obtain ⟨hfinal, hshown⟩ := hlater.keeps _ _ (.inr ⟨rfl, hcol⟩)
  obtain ⟨row, hrow, hstands⟩ := RowReflowSink.get_of_written hfinal
  rw [getD_of_getElem? hrow]
  refine ⟨cols_reflowCells rows params row (mem_of_getElem? hrow), ?_⟩
  rw [← isSpacer_unwrapped, hstands, hshown, RowReflowSink.shown_outRow, isSpacer_unwrapped]

section

variable (h : Emitting params.newCols done line written sink)
include h

theorem lineOf_out (hlater : sink.Extends (reflowLoop rows params).sink) :
    lineOf params.newCols (reflowCells rows params).rows sink.result.length = done.length := by
  unfold lineOf
  rw [take_reflowCells hlater, h.done_eq]

/-- The characters before a written column. -/
theorem charsBefore_out (hlater : sink.Extends (reflowLoop rows params).sink) {col : Nat} (hcol : col ≤ sink.outCol) :
    charsBefore params.newCols (reflowCells rows params).rows sink.result.length col
      = ((readRows params.newCols sink.result).2.getD []).length + (content (sink.outRow.inner.take col)).length := by
  unfold charsBefore
  rw [take_reflowCells hlater, length_append]
  congr 1
  rcases Nat.eq_zero_or_pos col with rfl | hpos
  · rw [take_zero, take_zero]
  · have hle := h.col_le
    have hwidth := (out_of_lt hlater (show col - 1 < sink.outCol by omega)).1
    have hrow : sink.outRow.cols = params.newCols := h.outRow_ok.1
    exact length_content_take_congr (by omega) (by omega) fun c hc => (out_of_lt hlater (by omega)).2

/-- All of the text comes before the write column. -/
theorem length_line :
    ((readRows params.newCols sink.result).2.getD []).length + (content (sink.outRow.inner.take sink.outCol)).length
      = line.length := by
  rw [h.out_row, ← h.written_len, take_left, ← length_append, h.line_eq]

/-- **The write column is directly after the last character.** -/
theorem points_outCol (hlater : sink.Extends (reflowLoop rows params).sink) {k : Nat} (hk : line.length = k + 1) :
    Points params.newCols (reflowCells rows params).rows (sink.result.length, sink.outCol) done.length k :=
  ⟨lineOf_out h hlater, .inr (by rw [charsBefore_out h hlater (Nat.le_refl _), length_line h, hk])⟩

end

end Output

/-! ## The last character -/

/-- The widths of the characters of the line left open. -/
def openWidths (rows : List Row) : List Nat :=
  rows.foldl (fun widths r =>
    if r.wrapped params.oldCols then
      widths ++ r.widthsAt params.newCols (List.range (r.reflowLen params.oldCols))
    else []) []

/-- The widths of the characters of its line before column `c` of row `i`. -/
def lineWidths (rows : List Row) (i c : Nat) : List Nat :=
  openWidths params (rows.take i) ++ (rows.getD i (Row.new 0)).widthsAt params.newCols (List.range c)

/-- The row in progress ends with a character of the last of these widths: its cell, and a spacer if it has two. -/
structure RowReflowSink.EndsWith (newCols : Nat) (widths : List Nat) (sink : RowReflowSink) : Prop where
  outCol_eq : sink.outCol = widths.foldl (advance newCols) 0
  last : ∀ w, widths.getLast? = some w → 0 < w ∧ w ≤ sink.outCol
    ∧ (sink.outRow.get (sink.outCol - w)).isSpacer = false
    ∧ ∀ c, sink.outCol - w < c → c < sink.outCol → (sink.outRow.get c).isSpacer = true

namespace RowReflowSink.EndsWith

variable {newCols : Nat} {widths : List Nat} {sink t : RowReflowSink}

theorem of_output (h : sink.EndsWith newCols widths) (hout : sink.output = t.output) : t.EndsWith newCols widths := by
  obtain ⟨hcol, hlast⟩ := h
  rw [outCol_of_output hout, outRow_of_output hout] at *
  exact ⟨hcol, hlast⟩

section

variable {input : RowReflowInput} (h : sink.EndsWith input.newCols widths) (hsized : sink.Sized input.newCols)
  (hcols : 0 < input.newCols)
include h hsized hcols

/-- A written character is the last one. -/
theorem reflowCell_text {c : Nat} (hcell : (input.srcRow.get c).isSpacer = false) :
    (sink.reflowCell input c).EndsWith input.newCols (widths ++ [(input.srcRow.get c).reflowWidth input.newCols]) := by
  have hout := @output_reflowCell_text sink input c hcell
  refine ⟨?_, ?_⟩
  · rw [outCol_reflowCell_text hcell, foldl_append, h.outCol_eq, foldl_cons, foldl_nil]
  · intro w hw
    rw [getLast?_concat, some_inj] at hw
    subst hw
    rw [outCol_of_output hout, outRow_of_output hout, outCol_writeCell]
    have hfits := outCol_makeRoom_fits hcols sink (input.srcRow.get c)
    have hpos := reflowWidth_pos input.newCols (input.srcRow.get c)
    have hwidth := (hsized.makeRoom (input.srcRow.get c)).outRow
    generalize sink.makeRoom input.newCols (input.srcRow.get c) = room at hfits hwidth ⊢
    refine ⟨hpos, by omega, ?_, ?_⟩
    · -- its cell
      have hcellShown := room.shown_writeCell input.newCols (input.srcRow.get c) (by omega)
      have hlast := (room.writeCell (input.srcRow.get c)
        ((input.srcRow.get c).has CellFlags.wideChar && decide (input.newCols ≥ 2))).shown_outRow room.outCol
      rw [result_writeCell, hcellShown] at hlast
      rw [Nat.add_sub_cancel, ← isSpacer_unwrapped, ← hlast, ← strip_fitted]
      exact isSpacer_strip ((isSpacer_fitted _ _).trans hcell)
    · -- the spacer of a wide character
      intro d hlt hgt
      unfold Cell.reflowWidth at hlt hgt hfits
      split at hgt
      · rename_i hwide
        rw [if_pos hwide] at hlt hfits
        obtain rfl : d = room.outCol + 1 := by omega
        unfold writeCell
        rw [if_pos hwide]
        show (Row.get (Row.modify _ _ _) _).isSpacer = true
        rw [get_modify_self (by rw [Row.cols_modify]; omega)]
        show intersects (CellFlags.wideCharSpacer ||| CellFlags.drawn) _ = true
        decide
      · omega

/-- The cells of a row. -/
theorem foldl_reflowCell (cols : List Nat) :
    (cols.foldl (fun sink c => sink.reflowCell input c) sink).EndsWith input.newCols
      (widths ++ input.srcRow.widthsAt input.newCols cols) := by
  induction cols generalizing sink widths with
  | nil => simpa [Row.widthsAt] using h
  | cons c cols ih =>
    have hnext := (Sized.invariant input.newCols).reflowCell hsized c
    unfold Row.widthsAt
    cases hcell : (input.srcRow.get c).isSpacer with
    | true =>
      rw [filter_cons_of_neg (by simp [hcell])]
      exact ih (h.of_output (output_reflowCell_spacer hcell).symm) hnext
    | false =>
      rw [filter_cons_of_pos (by simp [hcell]), map_cons, append_cons]
      exact ih (h.reflowCell_text hsized hcols hcell) hnext

end

end RowReflowSink.EndsWith

section Ends

variable {rows : List Row} {params : ReflowParams} {i c : Nat}

/-- **Between two source rows** the row in progress ends with the last character of the open line. -/
theorem endsWith_reflowLoop (rows : List Row) (hcols : 0 < params.newCols) :
    (reflowLoop rows params).sink.EndsWith params.newCols (openWidths params rows) := by
  induction rows using List.reverseRecOn with
  | nil => exact ⟨rfl, fun w hw => by cases hw⟩
  | append_singleton rows r ih =>
    have hsized := (RowReflowSink.Sized.invariant params.newCols).reflowLoop rows rfl
    have hcells := @RowReflowSink.EndsWith.foldl_reflowCell _ _ (params.input r rows.length) ih hsized hcols
      (List.range (r.reflowLen params.oldCols))
    rw [reflowLoop_concat]
    unfold openWidths
    rw [foldl_append, foldl_cons]
    cases hwrap : r.wrapped params.oldCols with
    | true =>
      exact hcells.of_output (output_reflowRow_wrapped _ _ hwrap).symm
    | false =>
      refine ⟨RowReflowSink.outCol_of_output (output_reflowRow_unwrapped _ _ hwrap), fun w hw => by cases hw⟩

/-- **In the middle of a row** too. -/
theorem endsWith_sinkAt (rows : List Row) (hcols : 0 < params.newCols) (i c : Nat) :
    (sinkAt rows params i c).EndsWith params.newCols (lineWidths params rows i c) :=
  @RowReflowSink.EndsWith.foldl_reflowCell _ _ (params.input (rows.getD i (Row.new 0)) i) (endsWith_reflowLoop _ hcols)
    ((RowReflowSink.Sized.invariant params.newCols).reflowLoop _ rfl) hcols (List.range c)

/-- One width for each character. -/
theorem length_widthsAt (newCols : Nat) {r : Row} {n : Nat} (hn : n ≤ r.cols) :
    (r.widthsAt newCols (List.range n)).length = (content (r.inner.take n)).length := by
  induction n with
  | zero => rfl
  | succ n ih =>
    rw [length_content_take_succ (by omega), ← ih (by omega), range_succ]
    unfold Row.widthsAt
    cases h : (r.get n).isSpacer <;> simp [h]

theorem length_openWidths (hwf : ∀ r ∈ rows, r.WellFormed params.oldCols) :
    (openWidths params rows).length = ((readRows params.oldCols rows).2.getD []).length := by
  induction rows using List.reverseRecOn with
  | nil => rfl
  | append_singleton rows r ih =>
    have hr := hwf r (by simp)
    have hopen := ih fun s hs => hwf s (by simp [hs])
    unfold openWidths at hopen ⊢
    rw [foldl_append, foldl_cons, foldl_nil, readRows_concat]
    cases hwrap : r.wrapped params.oldCols with
    | true =>
      have hlen : r.reflowLen params.oldCols = params.oldCols := by
        unfold Row.reflowLen
        rw [if_pos hwrap]
      rw [if_pos rfl, readRow_of_wrapped hwrap, length_append, hopen, hlen, length_widthsAt _ hr.width.ge,
        getD_some, length_append, take_of_length_le hr.width.le]
    | false =>
      rw [readRow_of_not_wrapped hwrap]
      rfl

end Ends

/-! ## At the end of what is written -/

/-- Spacers add no character. -/
theorem length_content_take_spacers (r : Row) {a b : Nat} (hab : a ≤ b) (hb : b ≤ r.cols)
    (h : ∀ c, a ≤ c → c < b → (r.get c).isSpacer = true) :
    (content (r.inner.take b)).length = (content (r.inner.take a)).length := by
  induction b, hab using Nat.le_induction with
  | base => rfl
  | succ b hab ih =>
    rw [length_content_take_succ (by omega), ih (by omega) fun c hc hlt => h c hc (by omega), if_pos (h b hab (by omega)),
      Nat.add_zero]

section End

variable {rows : List Row} {params : ReflowParams} {done : List (List Cell)} {line written : List Cell}
  {sink : RowReflowSink} {widths : List Nat} {w k col : Nat}

section

variable (h : Emitting params.newCols done line written sink) (hends : sink.EndsWith params.newCols widths)
  (hw : widths.getLast? = some w)
include h hends hw

/-- The last character is the one before the write column. -/
theorem length_content_last (hlow : sink.outCol - w < col) (hhigh : col ≤ sink.outCol) :
    (content (sink.outRow.inner.take col)).length = (content (sink.outRow.inner.take (sink.outCol - w))).length + 1 := by
  obtain ⟨hpos, hle, hchar, hspacers⟩ := hends.last w hw
  have hrow : sink.outRow.cols = params.newCols := h.outRow_ok.1
  have hcol := h.col_le
  rw [length_content_take_spacers sink.outRow (show sink.outCol - w + 1 ≤ col by omega) (by omega)
      fun c hc hlt => hspacers c (by omega) (by omega),
    length_content_take_succ (by omega), hchar]
  rfl

variable (hlater : sink.Extends (reflowLoop rows params).sink)
include hlater

/-- **From the first column of the last character to the write column** a position points to it. -/
theorem points_last (hk : line.length = k + 1) (hlow : sink.outCol - w ≤ col) (hhigh : col ≤ sink.outCol) :
    Points params.newCols (reflowCells rows params).rows (sink.result.length, col) done.length k := by
  obtain ⟨hpos, hle, hchar, -⟩ := hends.last w hw
  have htotal := length_line h
  rw [length_content_last h hends hw (by omega) (Nat.le_refl _)] at htotal
  refine ⟨lineOf_out h hlater, ?_⟩
  rw [charsBefore_out h hlater hhigh]
  rcases Nat.eq_or_lt_of_le hlow with rfl | hlt
  · -- on its first column
    obtain ⟨hwidth, hspacer⟩ := out_of_lt hlater (show sink.outCol - w < sink.outCol by omega)
    have hcol := h.col_le
    exact .inl ⟨by omega, by dsimp only; omega, hspacer.trans hchar⟩
  · -- behind it
    rw [length_content_last h hends hw hlt hhigh]
    exact .inr (by omega)

/-- **Nowhere else**, when the row in progress comes out as it is. -/
theorem last_of_points
    (hrow : (reflowCells rows params).rows[sink.result.length]? = some sink.outRow) (hk : line.length = k + 1)
    (hcol : col < params.newCols) {l : Nat}
    (hpoints : Points params.newCols (reflowCells rows params).rows (sink.result.length, col) l k) :
    sink.outCol - w ≤ col ∧ col ≤ sink.outCol := by
  obtain ⟨hpos, hle, hchar, -⟩ := hends.last w hw
  have hwidth : sink.outRow.cols = params.newCols := h.outRow_ok.1
  have hout := h.col_le
  have htotal := length_line h
  have hlast := length_content_last h hends hw (show sink.outCol - w < sink.outCol by omega) (Nat.le_refl _)
  have hbefore : charsBefore params.newCols (reflowCells rows params).rows sink.result.length col
      = ((readRows params.newCols sink.result).2.getD []).length + (content (sink.outRow.inner.take col)).length := by
    unfold charsBefore
    rw [take_reflowCells hlater, getD_of_getElem? hrow, length_append]
  have hchars := hpoints.char
  rw [hbefore, getD_of_getElem? hrow] at hchars
  constructor
  · -- before its first column there are too few characters
    by_contra hlow
    have hmono := length_content_take_mono sink.outRow (show col ≤ sink.outCol - w by omega)
    rcases hchars with ⟨hk', -, hspacer⟩ | hk'
    · have hnext := length_content_take_mono sink.outRow (show col + 1 ≤ sink.outCol - w by omega)
      rw [length_content_take_succ (by omega), hspacer] at hnext
      simp only [Bool.false_eq_true, if_false] at hnext
      omega
    · omega
  · -- beyond the write column there are blanks
    by_contra hhigh
    have hblank : (sink.outRow.get sink.outCol).isSpacer = false := by
      unfold Row.get
      rw [h.out_row, getD_append_right _ _ _ _ h.written_len.le, h.written_len, Nat.sub_self]
      obtain ⟨n, hn⟩ : ∃ n, params.newCols - sink.outCol = n + 1 := ⟨params.newCols - sink.outCol - 1, by omega⟩
      rw [hn]
      exact isSpacer_blank
    have hmono := length_content_take_mono sink.outRow (show sink.outCol + 1 ≤ col by omega)
    rw [length_content_take_succ (by omega), hblank] at hmono
    simp only [Bool.false_eq_true, if_false] at hmono
    rcases hchars with ⟨hk', -⟩ | hk' <;> omega

end

end End

/-! ## The cursor -/

/-- The position belongs to a character of the text. -/
def OnText (pos : Nat × Nat) : Prop :=
  ∃ line k, IsChar cols rows line k ∧ Points cols rows pos line k

/-- **When a cursor past the content of an unwrapped row is kept**: its column is one of those the last character
    of its line takes at the new width, or the one after them. -/
def EndColumnKept : Prop :=
  let r := rows.getD params.cursorAbs (Row.new 0)
  let widths := lineWidths params rows params.cursorAbs (r.reflowLen params.oldCols)
  let endCol := widths.foldl (advance params.newCols) 0
  r.wrapped params.oldCols = false → r.reflowLen params.oldCols ≤ params.cursorCol →
    OnText params.oldCols rows (params.cursorAbs, params.cursorCol) →
    endCol - widths.getLastD 0 ≤ min params.cursorCol (params.newCols - 1)
      ∧ min params.cursorCol (params.newCols - 1) ≤ endCol

section Kept

variable {rows : List Row} {params : ReflowParams} {r : Row} {i : Nat}

/-- Later rows finish more lines. -/
theorem readRows_prefix (cols : Nat) (rows rest : List Row) :
    (readRows cols rows).1 <+: (readRows cols (rows ++ rest)).1 := by
  induction rest using List.reverseRecOn with
  | nil => rw [append_nil]
  | append_singleton rest r ih =>
    rw [← append_assoc, readRows_concat]
    refine ih.trans ?_
    unfold readRow
    split
    · exact prefix_refl _
    · exact prefix_append ..

/-- The line an unwrapped row ends. -/
theorem getD_logicalLines {cols : Nat} (hr : rows[i]? = some r) (hwrap : r.wrapped cols = false) :
    (logicalLines cols rows).getD (lineOf cols rows i) []
      = trimLine ((readRows cols (rows.take i)).2.getD [] ++ content r.inner) := by
  obtain ⟨hi, rfl⟩ := List.getElem?_eq_some_iff.mp hr
  have hprefix := readRows_prefix cols (rows.take (i + 1)) (rows.drop (i + 1))
  rw [take_append_drop, take_succ_eq_append_getElem hi, readRows_concat, readRow_of_not_wrapped hwrap] at hprefix
  obtain ⟨rest, hrest⟩ := hprefix
  unfold logicalLines lineOf
  dsimp only
  rw [← hrest]
  simp [getD_eq_getElem?_getD]

theorem length_trimLine_le (l : List Cell) : (trimLine l).length ≤ l.length := ( rdropWhile_prefix _ _).length_le

/-- Past the content of an unwrapped row a position can only be directly after the last character. -/
theorem charsBefore_of_past {cols line k col : Nat} (hr : rows[i]? = some r) (hwrap : r.wrapped cols = false)
    (hcol : r.reflowLen cols ≤ col) (hchar : IsChar cols rows line k) (hpoints : Points cols rows (i, col) line k) :
    charsBefore cols rows i (r.reflowLen cols) = k + 1 := by
  have hlen : r.reflowLen cols = r.contentLen := by
    unfold Row.reflowLen
    rw [if_neg (by simp [hwrap])]
  have hbefore : ∀ c, charsBefore cols rows i c
      = ((readRows cols (rows.take i)).2.getD [] ++ content (r.inner.take c)).length := by
    intro c
    unfold charsBefore
    rw [getD_of_getElem? hr]
  have hmono := length_content_take_mono r hcol
  unfold IsChar at hchar
  rw [← hpoints.line_eq, getD_logicalLines hr hwrap, ← trimLine_content_take, ← hlen] at hchar
  have htrim := length_trimLine_le ((readRows cols (rows.take i)).2.getD [] ++ content (r.inner.take (r.reflowLen cols)))
  have hchars := hpoints.char
  simp only [hbefore, length_append] at hchars htrim ⊢
  rcases hchars with ⟨h, -⟩ | h <;> omega

/-- Behind the last column of a wrapped row a position is directly after its last character. -/
theorem charsBefore_of_wrapped {cols line k col : Nat} (hwf : ∀ s ∈ rows, s.WellFormed cols) (hr : rows[i]? = some r)
    (hwrap : r.wrapped cols = true) (hcol : r.reflowLen cols ≤ col) (hpoints : Points cols rows (i, col) line k) :
    charsBefore cols rows i (r.reflowLen cols) = k + 1 := by
  have hlen : r.reflowLen cols = r.cols := by
    unfold Row.reflowLen
    rw [if_pos hwrap, (hwf r (mem_of_getElem? hr)).width]
  rcases hpoints.char with ⟨-, hin, -⟩ | hk
  · rw [getD_of_getElem? hr] at hin
    omega
  · rw [← hk]
    unfold charsBefore
    rw [getD_of_getElem? hr, take_of_length_le hlen.ge,
      take_of_length_le (hlen.ge.trans hcol)]

/-- What the sink holds at a column of the cursor's row. -/
theorem emitting_sinkAt (hcols : 0 < params.newCols) (hwf : ∀ s ∈ rows, s.WellFormed params.oldCols)
    (hr : rows[i]? = some r) {c : Nat} (hc : c ≤ r.reflowLen params.oldCols) :
    ∃ done line written, Emitting params.newCols done line written (sinkAt rows params i c)
      ∧ done.length = lineOf params.oldCols rows i ∧ line.length = charsBefore params.oldCols rows i c := by
  obtain ⟨done, written, hemit, -, hdone⟩ := emits_sinkAt hcols hwf hr hc
  refine ⟨done, _, written, hemit, ?_, ?_⟩
  · have := congrArg List.length hdone
    rwa [length_map, length_map] at this
  · unfold charsBefore
    rw [length_map, getD_of_getElem? hr]

/-- A line with a character before the column has a last one. -/
theorem exists_last_width (hwf : ∀ s ∈ rows, s.WellFormed params.oldCols) (hr : rows[i]? = some r) {c k : Nat}
    (hc : c ≤ r.reflowLen params.oldCols) (hk : charsBefore params.oldCols rows i c = k + 1) :
    ∃ w, (lineWidths params rows i c).getLast? = some w := by
  have hlen : (lineWidths params rows i c).length = charsBefore params.oldCols rows i c := by
    have hwfr := hwf r (mem_of_getElem? hr)
    unfold lineWidths charsBefore
    rw [length_append, length_append, length_openWidths fun s hs => hwf s (mem_of_mem_take hs),
      getD_of_getElem? hr, length_widthsAt _ (hc.trans (reflowLen_le hwfr.width))]
  have hne : lineWidths params rows i c ≠ [] := by
    intro hnil
    rw [hnil] at hlen
    simp only [length_nil] at hlen
    omega
  exact ⟨_, getLast?_eq_some_getLast hne⟩

section

variable (hcols : 0 < params.newCols) (hwf : ∀ s ∈ rows, s.WellFormed params.oldCols) (hr : rows[i]? = some r)
include hcols hwf hr

/-- **A character at the cursor stays at the cursor.** -/
theorem points_landing {c line k : Nat} (hc : c < r.reflowLen params.oldCols) (hcell : (r.get c).isSpacer = false)
    (hpoints : Points params.oldCols rows (i, c) line k) :
    Points params.newCols (reflowCells rows params).rows (landing rows params i c) line k := by
  obtain ⟨done, text, written, hemit, hdone, htext⟩ := emitting_sinkAt hcols hwf hr hc.le
  obtain ⟨written', hroom⟩ := hemit.makeRoom hcols (r.get c)
  have hcellOut := @RowReflowSink.output_reflowCell_text (sinkAt rows params i c) (params.input r i) c hcell
  have hlater : ((sinkAt rows params i c).makeRoom params.newCols (r.get c)).Extends (reflowLoop rows params).sink :=
    ((RowReflowSink.extends_writeCell ..).trans (RowReflowSink.Extends.of_output hcellOut.symm)).trans
      (sinkAt_succ params hr c ▸ extends_sinkAt hr (Nat.succ_le_of_lt hc))
  have hland : landing rows params i c
      = (((sinkAt rows params i c).makeRoom params.newCols (r.get c)).result.length,
          ((sinkAt rows params i c).makeRoom params.newCols (r.get c)).outCol) := by
    unfold landing
    rw [getD_of_getElem? hr]
  obtain ⟨row, hrow, hstands⟩ := get_landing hcols hr hc hcell
  rw [hland] at hrow hstands ⊢
  have hline : done.length = line := hdone.trans hpoints.line_eq
  rcases hpoints.char with ⟨hk, -⟩ | hk
  · -- on it
    refine ⟨(lineOf_out hroom hlater).trans hline, .inl ⟨?_, ?_, ?_⟩⟩
    · rw [charsBefore_out hroom hlater (Nat.le_refl _), length_line hroom, htext]
      exact hk
    · rw [getD_of_getElem? hrow, cols_reflowCells rows params row (mem_of_getElem? hrow)]
      have hfits := RowReflowSink.outCol_makeRoom_fits hcols (sinkAt rows params i c) (r.get c)
      have hpos := RowReflowSink.reflowWidth_pos params.newCols (r.get c)
      omega
    · rw [getD_of_getElem? hrow, ← isSpacer_unwrapped, hstands, ← strip_fitted]
      exact isSpacer_strip ((isSpacer_fitted _ _).trans hcell)
  · -- directly after the one before it
    exact hline ▸ points_outCol hroom hlater (htext.trans hk)

/-- The last column written, and the write column, point to the last character. -/
theorem points_written {c line k col : Nat} (hc : c ≤ r.reflowLen params.oldCols)
    (hline : lineOf params.oldCols rows i = line) (hk : charsBefore params.oldCols rows i c = k + 1)
    (hlow : (sinkAt rows params i c).outCol - (lineWidths params rows i c).getLastD 0 ≤ col)
    (hhigh : col ≤ (sinkAt rows params i c).outCol) :
    Points params.newCols (reflowCells rows params).rows ((sinkAt rows params i c).result.length, col) line k := by
  obtain ⟨done, text, written, hemit, hdone, htext⟩ := emitting_sinkAt hcols hwf hr hc
  obtain ⟨w, hw⟩ := exists_last_width hwf hr hc hk
  rw [getLastD_eq_getLast?, hw] at hlow
  exact (hdone.trans hline) ▸
    points_last hemit (endsWith_sinkAt rows hcols i c) hw (extends_sinkAt hr hc) (htext.trans hk) hlow hhigh

/-- The last character takes a column. -/
theorem getLastD_pos {c k : Nat} (hc : c ≤ r.reflowLen params.oldCols)
    (hk : charsBefore params.oldCols rows i c = k + 1) :
    0 < (lineWidths params rows i c).getLastD 0
      ∧ (lineWidths params rows i c).getLastD 0 ≤ (sinkAt rows params i c).outCol
      ∧ (sinkAt rows params i c).outCol ≤ params.newCols := by
  obtain ⟨done, text, written, hemit, -⟩ := emitting_sinkAt hcols hwf hr hc
  obtain ⟨w, hw⟩ := exists_last_width hwf hr hc hk
  obtain ⟨hpos, hle, -⟩ := (endsWith_sinkAt rows hcols i c).last w hw
  rw [getLastD_eq_getLast?, hw]
  exact ⟨hpos, hle, hemit.col_le⟩

end

/-- The row in progress of an unwrapped row comes out as it is. -/
theorem getElem?_finished (hr : rows[i]? = some r) (hwrap : r.wrapped params.oldCols = false) :
    (reflowCells rows params).rows[(sinkAt rows params i (r.reflowLen params.oldCols)).result.length]?
      = some (sinkAt rows params i (r.reflowLen params.oldCols)).outRow := by
  have hlater := @RowReflowSink.extends_foldl_reflowRow params
    ((reflowLoop (rows.take i) params).reflowRow params (r, i)) ((rows.drop (i + 1)).zipIdx (i + 1))
  rw [← reflowLoop_split params hr] at hlater
  have hout := output_reflowRow_unwrapped (reflowLoop (rows.take i) params) i hwrap
  rw [reflowRowCells_eq_sinkAt params hr] at hout
  have hpush : ((reflowLoop (rows.take i) params).reflowRow params (r, i)).sink.result
      = (sinkAt rows params i (r.reflowLen params.oldCols)).result
        ++ [(sinkAt rows params i (r.reflowLen params.oldCols)).outRow] := RowReflowSink.result_of_output hout
  have hprefix := hlater.finished
  rw [hpush] at hprefix
  obtain ⟨rest, hrest⟩ := hprefix.trans (finished_first rows params)
  rw [← hrest, append_assoc, getElem?_append_right (Nat.le_refl _), Nat.sub_self]
  rfl

section

variable (hcols : 0 < params.newCols) (hwf : ∀ s ∈ rows, s.WellFormed params.oldCols)
  (hr : rows[params.cursorAbs]? = some r)
include hcols hwf hr

/-- The tracked column is on the row. -/
theorem newCursorCol_le : (reflowCells rows params).newCursorCol ≤ params.newCols - 1 := by
  refine (congrArg Prod.snd (cursor_reflowCells hr)).trans_le ?_
  by_cases hlt : params.cursorCol < r.reflowLen params.oldCols
  · rw [if_pos hlt]
    cases hcell : (r.get params.cursorCol).isSpacer with
    | true =>
      obtain ⟨done, text, written, hemit, -⟩ := emitting_sinkAt hcols hwf hr hlt.le
      have hle := hemit.col_le
      rw [if_pos rfl]
      omega
    | false =>
      have hfits := RowReflowSink.outCol_makeRoom_fits hcols (sinkAt rows params params.cursorAbs params.cursorCol)
        (r.get params.cursorCol)
      have hpos := RowReflowSink.reflowWidth_pos params.newCols (r.get params.cursorCol)
      rw [if_neg (by simp)]
      unfold landing
      rw [getD_of_getElem? hr]
      dsimp only
      omega
  · rw [if_neg hlt]
    split <;> exact Nat.min_le_right _ _

/-- **A cursor on the text is tracked to a row that comes out.** -/
theorem newCursorAbs_lt (htext : OnText params.oldCols rows (params.cursorAbs, params.cursorCol)) :
    (reflowCells rows params).newCursorAbs < (reflowCells rows params).rows.length := by
  have hcursor := congrArg Prod.fst (cursor_reflowCells hr)
  obtain ⟨line, k, -, hpoints⟩ := htext
  -- a row in progress with something written in it comes out
  have hwritten : ∀ c, c ≤ r.reflowLen params.oldCols → charsBefore params.oldCols rows params.cursorAbs c = k + 1 →
      (sinkAt rows params params.cursorAbs c).result.length < (reflowCells rows params).rows.length := by
    intro c hc hk
    obtain ⟨hpos, hle, -⟩ := getLastD_pos hcols hwf hr hc hk
    obtain ⟨hfinal, -⟩ := (extends_sinkAt hr hc).keeps _ 0 (.inr ⟨rfl, by omega⟩)
    obtain ⟨row, hrow, -⟩ := RowReflowSink.get_of_written hfinal
    exact (List.getElem?_eq_some_iff.mp hrow).1
  refine hcursor.trans_lt ?_
  by_cases hlt : params.cursorCol < r.reflowLen params.oldCols
  · rw [if_pos hlt]
    cases hcell : (r.get params.cursorCol).isSpacer with
    | true =>
      refine hwritten _ hlt.le ?_
      rcases hpoints.char with ⟨-, -, hspacer⟩ | hk
      · rw [getD_of_getElem? hr, hcell] at hspacer
        cases hspacer
      · exact hk
    | false =>
      obtain ⟨row, hrow, -⟩ := get_landing hcols hr hlt hcell
      exact (List.getElem?_eq_some_iff.mp hrow).1
  · rw [if_neg hlt]
    cases hwrap : r.wrapped params.oldCols with
    | false => exact (List.getElem?_eq_some_iff.mp (getElem?_finished hr hwrap)).1
    | true => exact hwritten _ (Nat.le_refl _) (charsBefore_of_wrapped hwf hr hwrap (Nat.not_lt.mp hlt) hpoints)

/-- **The cursor stays on its character exactly** if it is not past the content of an unwrapped row, or its column
    there happens to be right. -/
theorem cursorKept_iff : CursorKept rows params ↔ EndColumnKept rows params := by
  have hcursor := cursor_reflowCells hr
  have hend : (sinkAt rows params params.cursorAbs (r.reflowLen params.oldCols)).outCol
      = (lineWidths params rows params.cursorAbs (r.reflowLen params.oldCols)).foldl (advance params.newCols) 0 :=
    (endsWith_sinkAt rows hcols _ _).outCol_eq
  unfold EndColumnKept
  dsimp only
  rw [getD_of_getElem? hr, ← hend]
  unfold CursorKept
  rw [hcursor]
  by_cases hlt : params.cursorCol < r.reflowLen params.oldCols
  · -- on a cell of the content
    rw [if_pos hlt]
    refine ⟨fun _ _ hle => absurd hle (Nat.not_le.mpr hlt), fun _ line k hchar hpoints => ?_⟩
    cases hcell : (r.get params.cursorCol).isSpacer with
    | false =>
      exact points_landing hcols hwf hr hlt hcell hpoints
    | true =>
      -- a spacer belongs to the character before it
      have hk : charsBefore params.oldCols rows params.cursorAbs params.cursorCol = k + 1 := by
        rcases hpoints.char with ⟨-, -, hspacer⟩ | hk
        · rw [getD_of_getElem? hr, hcell] at hspacer
          cases hspacer
        · exact hk
      obtain ⟨hpos, -, -⟩ := getLastD_pos hcols hwf hr hlt.le hk
      exact points_written hcols hwf hr hlt.le hpoints.line_eq hk (by omega) (by omega)
  · rw [if_neg hlt]
    have hpast := Nat.not_lt.mp hlt
    cases hwrap : r.wrapped params.oldCols with
    | true =>
      -- behind the last column of a wrapped row
      rw [if_pos rfl]
      refine ⟨fun _ hnot => (by cases hnot), fun _ line k hchar hpoints => ?_⟩
      have hk := charsBefore_of_wrapped hwf hr hwrap hpast hpoints
      obtain ⟨hpos, hle, htop⟩ := getLastD_pos hcols hwf hr (Nat.le_refl _) hk
      exact points_written hcols hwf hr (Nat.le_refl _) hpoints.line_eq hk (by omega) (by omega)
    | false =>
      -- past the content of an unwrapped row: the code keeps the column
      simp only [forall_const]
      have hcol : min params.cursorCol (params.newCols - 1) < params.newCols := by omega
      constructor
      · rintro hkept - ⟨line, k, hchar, hpoints⟩
        have hk := charsBefore_of_past hr hwrap hpast hchar hpoints
        obtain ⟨done, text, written, hemit, hdone, htext⟩ := emitting_sinkAt hcols hwf hr (Nat.le_refl _)
        obtain ⟨w, hw⟩ := exists_last_width hwf hr (Nat.le_refl _) hk
        have hspot := last_of_points hemit (endsWith_sinkAt rows hcols _ _) hw (extends_sinkAt hr (Nat.le_refl _))
          (getElem?_finished hr hwrap) (htext.trans hk) hcol (hkept line k hchar hpoints)
        rwa [getLastD_eq_getLast?, hw]
      · intro hkept line k hchar hpoints
        obtain ⟨hlow, hhigh⟩ := hkept hpast ⟨line, k, hchar, hpoints⟩
        exact points_written hcols hwf hr (Nat.le_refl _) hpoints.line_eq
          (charsBefore_of_past hr hwrap hpast hchar hpoints) hlow hhigh

end

end Kept

end OriTerm
