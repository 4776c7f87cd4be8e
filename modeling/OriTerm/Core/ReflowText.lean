import OriTerm.Core.ReflowTrack

/-!
# `Core.ReflowText` — the text of a reflow, at every width and in the middle of a row

`Core.Reflow` shows that the logical lines survive a reflow to two columns or more. At one column a wide
character is cut to its first cell, so the lines survive as `Cell.reflowed` shows their cells. `Emits` says what
the sink holds at any moment of the loop, also between two cells of a row: the finished lines and the part of
the open line that has been read. `emits_sinkAt` gives it for the sink the loop has at column `c` of row `i`.
-/

namespace OriTerm

open Lib Lib.Bitflags List CellFlags Option

variable (newCols : Nat)

/-! ## Cells at the new width -/

/-- The cell that is written at the new width: a wide character that does not fit loses its flag. -/
def Cell.fitted (c : Cell) : Cell :=
  if c.has wideChar && decide (newCols < 2) then { c with flags := remove c.flags wideChar } else c

section Cells

variable {newCols : Nat} {c : Cell}

section

variable (newCols : Nat) (c : Cell)

theorem strip_fitted : (c.fitted newCols).strip = c.reflowed newCols := by
  unfold Cell.fitted Cell.reflowed
  split
  · unfold Cell.strip
    rw [remove_comm]
  · rfl

theorem isSpacer_fitted : (c.fitted newCols).isSpacer = c.isSpacer := by
  unfold Cell.fitted
  split
  · exact intersects_remove_of_disjoint (by decide)
  · rfl

/-- Only at two columns or more is it still wide. -/
theorem has_wideChar_fitted : (c.fitted newCols).has wideChar = (c.has wideChar && decide (newCols ≥ 2)) := by
  unfold Cell.fitted
  by_cases hnew : newCols < 2
  · cases hwide : c.has wideChar with
    | true =>
      simp only [hnew, Bool.and_self]
      rw [show decide (newCols ≥ 2) = false by simp; omega]
      exact contains_remove_of_contains (by decide) (by decide)
    | false => simp [hwide]
  · simp [hnew, Nat.le_of_not_lt]

end

/-- The code's write is the write of the fitted cell. -/
theorem writeCell_fitted (sink : RowReflowSink) (newCols : Nat) (c : Cell) :
    sink.writeCell c (c.has wideChar && decide (newCols ≥ 2))
      = sink.writeCell (c.fitted newCols) ((c.fitted newCols).has wideChar) := by
  rw [has_wideChar_fitted]
  unfold Cell.fitted
  by_cases hcut : (c.has wideChar && decide (newCols < 2)) = true
  · have hwide : c.has wideChar = true := by
      rw [Bool.and_eq_true] at hcut
      exact hcut.1
    have hone : decide (newCols ≥ 2) = false := by
      simp only [Bool.and_eq_true, decide_eq_true_eq] at hcut
      simp only [decide_eq_false_iff_not]
      omega
    have hgone : Cell.has { c with flags := remove c.flags wideChar } wideChar = false :=
      contains_remove_of_contains (by decide) (by decide)
    rw [if_pos hcut]
    unfold RowReflowSink.writeCell
    simp only [hwide, hone, hgone, Bool.and_false, Bool.not_false, Bool.and_self, if_true, Bool.false_eq_true, if_false]
    rw [remove_comm]
  · rw [if_neg hcut]

theorem reflowed_strip (newCols : Nat) (c : Cell) : c.strip.reflowed newCols = c.reflowed newCols := by
  unfold Cell.reflowed
  rw [has_wideChar_strip, strip_strip]

/-- An empty cell stays empty. -/
theorem isEmpty_reflowed (newCols : Nat) (h : c.isEmpty = true) : (c.reflowed newCols).isEmpty = true := by
  have hstrip := isEmpty_strip h
  unfold Cell.reflowed
  split
  · simp only [Cell.isEmpty, Bool.and_eq_true, beq_iff_eq] at hstrip ⊢
    refine ⟨⟨hstrip.1.1, ?_⟩, hstrip.2⟩
    rw [remove_comm, hstrip.1.2]
    exact zero_remove
  · exact hstrip

/-- The content of a cell as it comes out. -/
theorem map_reflowed_content_singleton (newCols : Nat) (c : Cell) :
    (content [c]).map (Cell.reflowed newCols) = if c.isSpacer then [] else [c.reflowed newCols] := by
  rw [content_singleton]
  split
  · rfl
  · rw [map_singleton, reflowed_strip]

end Cells

/-! ## One cell -/

/-- Only the output matters. -/
theorem Emitting.of_output {newCols : Nat} {done : List (List Cell)} {line written : List Cell} {t u : RowReflowSink}
    (h : Emitting newCols done line written t) (hout : t.output = u.output) : Emitting newCols done line written u := by
  have hres := RowReflowSink.result_of_output hout
  have hrow := RowReflowSink.outRow_of_output hout
  have hcol := RowReflowSink.outCol_of_output hout
  exact ⟨hcol ▸ h.written_len, hcol ▸ h.col_le, hrow ▸ hcol ▸ h.out_row, h.no_wrap, h.paired, hres ▸ h.rows_ok,
    hres ▸ h.done_eq, hres ▸ h.line_eq⟩

/-- Making room keeps what is read. -/
theorem Emitting.makeRoom {newCols : Nat} {done : List (List Cell)} {line written : List Cell} {sink : RowReflowSink}
    (h : Emitting newCols done line written sink) (hcols : 0 < newCols) (cell : Cell) :
    ∃ written', Emitting newCols done line written' (sink.makeRoom newCols cell) := by
  have hle := h.col_le
  unfold RowReflowSink.makeRoom
  split
  · rename_i hover
    unfold Cell.reflowWidth at hover
    refine ⟨[], h.pushWrapped ?_ ?_⟩
    · split at hover
      · rename_i hwide
        simp only [Bool.and_eq_true, decide_eq_true_eq] at hwide
        omega
      · omega
    · split at hover
      · rename_i hwide
        rw [hwide]
        simp only [true_and]
        omega
      · exact .inl (by omega)
  · exact ⟨written, h⟩

/-- **One source cell adds its content to the line**, whatever the new width is. -/
theorem Emitting.reflowCell_at {done : List (List Cell)} {line written : List Cell} {sink : RowReflowSink}
    {input : RowReflowInput} (h : Emitting input.newCols done line written sink) (hcols : 0 < input.newCols) (c : Nat) :
    ∃ written', Emitting input.newCols done
      (line ++ (content [input.srcRow.get c]).map (Cell.reflowed input.newCols)) written' (sink.reflowCell input c) := by
  rw [map_reflowed_content_singleton]
  cases hcell : (input.srcRow.get c).isSpacer with
  | true =>
    rw [if_pos rfl, append_nil]
    exact ⟨written, h.of_output (RowReflowSink.output_reflowCell_spacer hcell).symm⟩
  | false =>
    have hout := @RowReflowSink.output_reflowCell_text sink input c hcell
    rw [writeCell_fitted] at hout
    -- after making room, the cell fits
    have hfit : (if ((input.srcRow.get c).fitted input.newCols).has wideChar then 2 else 1)
        = (input.srcRow.get c).reflowWidth input.newCols := by
      unfold Cell.reflowWidth
      rw [has_wideChar_fitted]
    obtain ⟨written₁, h₁⟩ := h.makeRoom hcols (input.srcRow.get c)
    have hroom := RowReflowSink.outCol_makeRoom_fits hcols sink (input.srcRow.get c)
    obtain ⟨written₂, h₂, -⟩ := h₁.writeCell ((isSpacer_fitted _ _).trans hcell) (by rw [hfit]; exact hroom)
    rw [strip_fitted] at h₂
    exact ⟨written₂, h₂.of_output hout.symm⟩

/-! ## The text read so far -/

/-- A line as it comes out at the new width, trailing blanks dropped. -/
def shownLine (line : List Cell) : List Cell := trimLine (line.map (Cell.reflowed newCols))

/-- **The sink holds what has been read**: the finished lines, and the beginning `text` of the open one. -/
def Emits (lines : List (List Cell)) (text : List Cell) (sink : RowReflowSink) : Prop :=
  ∃ done written, Emitting newCols done (text.map (Cell.reflowed newCols)) written sink ∧ Fresh newCols sink
    ∧ done.map trimLine = lines.map (shownLine newCols)

/-- Past `contentLen` a line shows nothing. -/
theorem shownLine_content_take (text : List Cell) (r : Row) :
    shownLine newCols (text ++ content (r.inner.take r.contentLen)) = shownLine newCols (text ++ content r.inner) := by
  have hsplit : r.inner = r.inner.rdropWhile Cell.isEmpty ++ r.inner.rtakeWhile Cell.isEmpty :=
    rdropWhile_append_rtakeWhile.symm
  have htake : r.inner.take r.contentLen = r.inner.rdropWhile Cell.isEmpty :=
    (prefix_iff_eq_take.mp ( rdropWhile_prefix _ _)).symm
  unfold shownLine
  rw [htake]
  conv_rhs => rw [hsplit, content_append, ← append_assoc, map_append]
  refine (trimLine_append_blank fun c hc => ?_).symm
  obtain ⟨d, hd, rfl⟩ := mem_map.mp hc
  exact isEmpty_reflowed newCols (isEmpty_of_mem_content (fun c hc => mem_rtakeWhile_imp hc) d hd)

namespace Emits

variable {newCols : Nat} {lines : List (List Cell)} {text : List Cell} {sink t : RowReflowSink}

theorem of_output (h : Emits newCols lines text sink) (hout : sink.output = t.output) : Emits newCols lines text t := by
  obtain ⟨done, written, hemit, hfresh, hdone⟩ := h
  refine ⟨done, written, hemit.of_output hout, ?_, hdone⟩
  unfold Fresh at hfresh ⊢
  rw [← RowReflowSink.result_of_output hout, ← RowReflowSink.outCol_of_output hout]
  exact hfresh

theorem init (newCols : Nat) : Emits newCols [] [] ⟨[], Row.new newCols, 0, 0, 0⟩ :=
  ⟨[], [], (rowBoundary_init 0 newCols).emitting, fun _ => rfl, rfl⟩

theorem reflowCell {input : RowReflowInput} (h : Emits input.newCols lines text sink) (hcols : 0 < input.newCols)
    (c : Nat) : Emits input.newCols lines (text ++ content [input.srcRow.get c]) (sink.reflowCell input c) := by
  obtain ⟨done, written, hemit, hfresh, hdone⟩ := h
  obtain ⟨written', hemit'⟩ := hemit.reflowCell_at hcols c
  rw [← map_append] at hemit'
  refine ⟨done, written', hemit', ?_, hdone⟩
  cases hcell : (input.srcRow.get c).isSpacer with
  | true =>
    have hout := @RowReflowSink.output_reflowCell_spacer sink input c hcell
    unfold Fresh
    rw [RowReflowSink.result_of_output hout, RowReflowSink.outCol_of_output hout]
    exact hfresh
  | false =>
    intro hzero
    have hpos := (outCol_reflowCell sink input c).mpr (.inr hcell)
    omega

/-- The first `n` cells of a row. -/
theorem reflowCells (input : RowReflowInput) (h : Emits input.newCols lines text sink) (hcols : 0 < input.newCols)
    {n : Nat} (hn : n ≤ input.srcRow.inner.length) :
    Emits input.newCols lines (text ++ content (input.srcRow.inner.take n))
      ((List.range n).foldl (fun sink c => sink.reflowCell input c) sink) := by
  induction n with
  | zero => simpa using h
  | succ n ih =>
    have hlt : n < input.srcRow.inner.length := by omega
    have htake : input.srcRow.inner.take (n + 1) = input.srcRow.inner.take n ++ [input.srcRow.get n] := by
      simp [Row.get, hlt]
    rw [range_succ, foldl_append, htake, content_append, ← append_assoc]
    exact (ih (by omega)).reflowCell hcols n

/-- The end of a line. -/
theorem finishRow (h : Emits newCols lines text sink) : Emits newCols (lines ++ [text]) [] (sink.finishRow newCols) := by
  obtain ⟨done, written, hemit, -, hdone⟩ := h
  obtain ⟨n, hfinish⟩ := hemit.finishRow
  refine ⟨_, [], hfinish, hemit.fresh_finishRow, ?_⟩
  rw [map_append, map_append, hdone, map_singleton, trimLine_append_replicate_blank]
  rfl

/-- Lines that show the same. -/
theorem congr_lines (h : Emits newCols lines text sink) {lines' : List (List Cell)}
    (heq : lines.map (shownLine newCols) = lines'.map (shownLine newCols)) : Emits newCols lines' text sink := by
  obtain ⟨done, written, hemit, hfresh, hdone⟩ := h
  exact ⟨done, written, hemit, hfresh, hdone.trans heq⟩

end Emits

/-! ## The rows -/

theorem reflowLen_le {cols : Nat} {r : Row} (h : r.cols = cols) : r.reflowLen cols ≤ r.inner.length := by
  unfold Row.reflowLen
  split
  · exact h.ge
  · exact contentLen_le r

/-- **The loop between two source rows** holds the lines read so far; an open line shows something. -/
theorem emits_reflowLoop (rows : List Row) {params : ReflowParams} (hcols : 0 < params.newCols)
    (hwf : ∀ r ∈ rows, r.WellFormed params.oldCols) :
    Emits params.newCols (readRows params.oldCols rows).1 ((readRows params.oldCols rows).2.getD [])
        (reflowLoop rows params).sink
      ∧ ((readRows params.oldCols rows).2 = none → (reflowLoop rows params).sink.outCol = 0)
      ∧ ∀ l, (readRows params.oldCols rows).2 = some l → l ≠ [] := by
  induction rows using List.reverseRecOn with
  | nil => exact ⟨Emits.init params.newCols, fun _ => rfl, by simp [readRows]⟩
  | append_singleton rows r ih =>
    have hr : r.WellFormed params.oldCols := hwf r (by simp)
    obtain ⟨hemits, -, -⟩ := ih fun s hs => hwf s (by simp [hs])
    have hcells := hemits.reflowCells (params.input r rows.length) hcols (reflowLen_le hr.width)
    change Emits _ _ _ ((reflowLoop rows params).sink.reflowRowCells (params.input r rows.length)) at hcells
    rw [reflowLoop_concat, readRows_concat]
    cases hwrap : r.wrapped params.oldCols with
    | true =>
      -- all of its cells join the open line
      have hlen : r.inner.take (r.reflowLen params.oldCols) = r.inner := by
        unfold Row.reflowLen
        rw [if_pos hwrap]
        exact take_of_length_le hr.width.le
      rw [readRow_of_wrapped hwrap]
      refine ⟨?_, by simp, ?_⟩
      · have hout := output_reflowRow_wrapped (reflowLoop rows params) rows.length hwrap
        rw [show (params.input r rows.length).srcRow = r from rfl, hlen] at hcells
        exact hcells.of_output hout.symm
      · intro l hl
        obtain rfl : _ = l := by simpa using hl
        exact append_ne_nil_of_right_ne_nil _ (hr.content_ne_nil hwrap)
    | false =>
      -- its content ends the line
      have hlen : r.reflowLen params.oldCols = r.contentLen := by
        unfold Row.reflowLen
        rw [if_neg (by simp [hwrap])]
      have hout := output_reflowRow_unwrapped (reflowLoop rows params) rows.length hwrap
      rw [readRow_of_not_wrapped hwrap]
      refine ⟨?_, fun _ => RowReflowSink.outCol_of_output hout, by simp⟩
      rw [show (params.input r rows.length).srcRow = r from rfl, hlen] at hcells
      refine (hcells.finishRow.of_output hout.symm).congr_lines ?_
      rw [map_append, map_append, map_singleton, map_singleton, shownLine_content_take]

section

variable {rows : List Row} {params : ReflowParams} (hcols : 0 < params.newCols)
  (hwf : ∀ r ∈ rows, r.WellFormed params.oldCols)
include hcols hwf

/-- **The loop in the middle of a row.** -/
theorem emits_sinkAt {i c : Nat} {r : Row} (hr : rows[i]? = some r) (hc : c ≤ r.reflowLen params.oldCols) :
    Emits params.newCols (readRows params.oldCols (rows.take i)).1
      ((readRows params.oldCols (rows.take i)).2.getD [] ++ content (r.inner.take c)) (sinkAt rows params i c) := by
  have hwfr := hwf r (mem_of_getElem? hr)
  obtain ⟨hemits, -, -⟩ := emits_reflowLoop (rows.take i) hcols fun s hs => hwf s (mem_of_mem_take hs)
  unfold sinkAt
  rw [getD_of_getElem? hr]
  exact hemits.reflowCells (params.input r i) hcols (hc.trans (reflowLen_le hwfr.width))

/-- **Reflow preserves the text**: the lines that come out are the lines that went in, as they are shown at the
    new width. -/
theorem logicalLines_reflowCells :
    logicalLines params.newCols (reflowCells rows params).rows
      = ((readRows params.oldCols rows).1 ++ (readRows params.oldCols rows).2.toList).map (shownLine params.newCols) := by
  obtain ⟨⟨done, written, hemit, hfresh, hdone⟩, hclosed, hshows⟩ := emits_reflowLoop rows hcols hwf
  unfold reflowCells
  dsimp only
  generalize (reflowLoop rows params).sink = sink at hemit hfresh hclosed ⊢
  by_cases hpos : sink.outCol > 0
  · -- the source ends in an open line and so does the output
    rw [if_pos hpos]
    obtain ⟨l, hopen⟩ : ∃ l, (readRows params.oldCols rows).2 = some l := by
      cases ho : (readRows params.oldCols rows).2 with
      | none => exact absurd (hclosed ho) (by omega)
      | some l => exact ⟨l, rfl⟩
    unfold logicalLines
    rw [hemit.readRows_push_outRow, hopen]
    simp only [toList_none, append_nil, map_append, hdone, map_singleton, trimLine_append_replicate_blank]
    rfl
  · -- both end with a finished line
    have hzero : sink.outCol = 0 := by omega
    rw [if_neg hpos]
    have hnone := hfresh hzero
    have hwritten : written = [] := eq_nil_of_length_eq_zero (hemit.written_len.trans hzero)
    have hold : (readRows params.oldCols rows).2 = none := by
      cases ho : (readRows params.oldCols rows).2 with
      | none => rfl
      | some l =>
        have hnil := hemit.line_eq
        rw [hnone, hwritten, ho] at hnil
        exact absurd (map_eq_nil_iff.mp hnil.symm) (hshows l ho)
    unfold logicalLines
    simp [hnone, hold, hemit.done_eq, hdone]

end

end OriTerm
