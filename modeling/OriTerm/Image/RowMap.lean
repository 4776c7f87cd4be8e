import OriTerm.Core.ReflowTrack
import OriTerm.Image.Cache

/-!
# `Image.RowMap` — the row map of a reflow, and the placements that follow it

`reflowCells` records, for each source row, the output row at which the row is expected to start. Image
placements are moved with that map. `MapsToText` is what the map is for: the recorded row is the one on which
the first character of the source row lands, the map is monotone and stays within the output.

The row is recorded before the first cell is looked at. That is the right moment except in one case: the output
row has exactly one column left and the first character is wide, so it is pushed to the next row after the
record was made. The other exceptions need wrapped rows that hold nothing but spacers. `RowMapped` is the exact
condition, row by row, and `mapsToText_iff` says so.
-/

namespace OriTerm

open Lib Lib.Bitflags List Option

/-! ## The source rows -/

/-- The first cell of the row that is no spacer. -/
def Row.firstText (oldCols : Nat) (r : Row) : Option Nat :=
  (List.range (r.reflowLen oldCols)).find? fun c => !(r.get c).isSpacer

/-- A wrapped row of spacers only: it adds nothing to the output. -/
def Row.silent (oldCols : Nat) (r : Row) : Bool := r.wrapped oldCols && (r.firstText oldCols).isNone

/-- **When the map is right at source row `i`.** -/
structure RowMapped (rows : List Row) (params : ReflowParams) (i : Nat) (r : Row) : Prop where
  /-- The first character fits into the output row in progress, or that row is full. -/
  fits : ∀ c ∈ r.firstText params.oldCols, (r.get c).reflowWidth params.newCols = 2 →
    openColumn params (rows.take i) + 1 ≠ params.newCols
  /-- A row of spacers behind a full output row is not followed by an empty one. -/
  goesOn : openColumn params (rows.take i) = params.newCols → r.silent params.oldCols = true →
    ∀ next ∈ rows[i + 1]?, next.reflowLen params.oldCols ≠ 0
  /-- The recorded row is reached: something is still to come, twice if the row in progress is full. -/
  reached :
    if r.reflowLen params.oldCols = 0 ∨ openColumn params (rows.take i) < params.newCols then
      0 < openColumn params (rows.take i) ∨ ∃ s ∈ rows.drop i, s.silent params.oldCols = false
    else
      (∃ s ∈ rows.drop i, (s.firstText params.oldCols).isSome = true)
        ∨ 2 ≤ (rows.drop i).countP fun s => !s.silent params.oldCols

instance (rows : List Row) (params : ReflowParams) (i : Nat) (r : Row) : Decidable (RowMapped rows params i r) :=
  decidable_of_iff
    ((∀ c ∈ r.firstText params.oldCols, (r.get c).reflowWidth params.newCols = 2 →
        openColumn params (rows.take i) + 1 ≠ params.newCols) ∧
      (openColumn params (rows.take i) = params.newCols → r.silent params.oldCols = true →
        ∀ next ∈ rows[i + 1]?, next.reflowLen params.oldCols ≠ 0) ∧
      if r.reflowLen params.oldCols = 0 ∨ openColumn params (rows.take i) < params.newCols then
        0 < openColumn params (rows.take i) ∨ ∃ s ∈ rows.drop i, s.silent params.oldCols = false
      else
        (∃ s ∈ rows.drop i, (s.firstText params.oldCols).isSome = true)
          ∨ 2 ≤ (rows.drop i).countP fun s => !s.silent params.oldCols)
    ⟨fun h => ⟨h.1, h.2.1, h.2.2⟩, fun h => ⟨h.fits, h.goesOn, h.reached⟩⟩

/-- **The row map keeps anchors on their content.** -/
structure MapsToText (rows : List Row) (params : ReflowParams) : Prop where
  /-- Each source row has an entry. -/
  total : (reflowCells rows params).firstOutputRow.length = rows.length
  /-- The entry is the output row on which the first character of the row lands. -/
  lands : ∀ i r c, rows[i]? = some r → r.firstText params.oldCols = some c →
    (reflowCells rows params).firstOutputRow[i]? = some (landing rows params i c).1
  /-- That row holds the character. -/
  shows : ∀ i r c, rows[i]? = some r → r.firstText params.oldCols = some c →
    ∃ row, (reflowCells rows params).rows[(landing rows params i c).1]? = some row
      ∧ (row.get (landing rows params i c).2).unwrapped = (r.get c).reflowed params.newCols
  monotone : (reflowCells rows params).firstOutputRow.Pairwise (· ≤ ·)
  inRange : ∀ k ∈ (reflowCells rows params).firstOutputRow, k < (reflowCells rows params).rows.length
  /-- An image placement on a row with text is moved to where the text is. -/
  keeps : ∀ (cache : Image.Cache) (evicted k : Nat) (p : Image.Placement) (i : Nat) (r : Row) (c : Nat),
    cache.placements[k]? = some p → p.cellRow = ⟨evicted + i⟩ → rows[i]? = some r →
    r.firstText params.oldCols = some c →
    (cache.remapPlacements ⟨(reflowCells rows params).firstOutputRow, evicted⟩).placements[k]?.map (·.cellRow)
      = some ⟨evicted + (landing rows params i c).1⟩

/-! ## What is recorded -/

/-- The row recorded for a source row. -/
def RowReflowSink.record (sink : RowReflowSink) (params : ReflowParams) (r : Row) : Nat :=
  if r.reflowLen params.oldCols = 0 ∨ sink.outCol < params.newCols then sink.result.length else sink.result.length + 1

section Recorded

variable {rows : List Row} {params : ReflowParams} {i : Nat} {r : Row}

/-- The loop records once for each row. -/
theorem firstOutputRow_eq (rows : List Row) (params : ReflowParams) :
    (reflowCells rows params).firstOutputRow
      = rows.zipIdx.map fun src => (reflowLoop (rows.take src.2) params).sink.record params src.1 := by
  show (reflowLoop rows params).firstOutputRow = _
  induction rows using List.reverseRecOn with
  | nil => rfl
  | append_singleton rows r ih =>
    rw [reflowLoop_concat, zipIdx_append, map_append, Nat.zero_add, zipIdx_singleton, map_singleton,
      take_left]
    show (reflowLoop rows params).firstOutputRow ++ _ = _
    rw [ih]
    refine congrArg (· ++ _) (map_congr_left fun src hsrc => ?_)
    have hlt : src.2 < rows.length := by
      have := (mem_zipIdx hsrc).2.1
      omega
    rw [take_append_of_le_length hlt.le]

/-- **The entry of row `i`.** -/
theorem getElem?_firstOutputRow (rows : List Row) (params : ReflowParams) (i : Nat) :
    (reflowCells rows params).firstOutputRow[i]?
      = rows[i]?.map fun r => (reflowLoop (rows.take i) params).sink.record params r := by
  rw [firstOutputRow_eq, getElem?_map, getElem?_zipIdx, Option.map_map, Nat.zero_add]
  rfl

/-- The state at the next row. -/
theorem reflowLoop_take_succ (h : rows[i]? = some r) :
    reflowLoop (rows.take (i + 1)) params = (reflowLoop (rows.take i) params).reflowRow params (r, i) := by
  obtain ⟨hi, rfl⟩ := List.getElem?_eq_some_iff.mp h
  rw [take_succ_eq_append_getElem, reflowLoop_concat, length_take, Nat.min_eq_left hi.le]

/-- The first character of a row and what is known of it. -/
theorem firstText_spec {oldCols c : Nat} (h : r.firstText oldCols = some c) :
    c < r.reflowLen oldCols ∧ (r.get c).isSpacer = false ∧ ∀ d < c, (r.get d).isSpacer = true := by
  obtain ⟨hc, hmem, hbefore⟩ := find?_range_eq_some.mp h
  exact ⟨mem_range.mp hmem, by simpa using hc, fun d hd => by simpa using hbefore d hd⟩

theorem firstText_none {oldCols : Nat} (h : r.firstText oldCols = none) :
    ∀ c ∈ List.range (r.reflowLen oldCols), (r.get c).isSpacer = true := by
  intro c hc
  simpa using find?_eq_none.mp h c hc

section

variable {c : Nat} (hr : rows[i]? = some r) (h : r.firstText params.oldCols = some c)
include hr h

/-- Before the first character the output is the one between the rows. -/
theorem output_sinkAt_firstText :
    (sinkAt rows params i c).output = (reflowLoop (rows.take i) params).sink.output := by
  have hget := getD_of_getElem? hr
  unfold sinkAt
  rw [hget]
  exact RowReflowSink.output_foldl_spacers (params.input r i) _ fun d hd =>
    (firstText_spec h).2.2 d (mem_range.mp hd)

/-- Where the first character lands. -/
theorem landing_firstText : (landing rows params i c).1
      = if openColumn params (rows.take i) + (r.get c).reflowWidth params.newCols > params.newCols then
          (reflowLoop (rows.take i) params).sink.result.length + 1
        else (reflowLoop (rows.take i) params).sink.result.length := by
  have hget := getD_of_getElem? hr
  have hout := output_sinkAt_firstText hr h
  unfold landing
  dsimp only
  rw [hget, RowReflowSink.length_makeRoom, RowReflowSink.outCol_of_output hout, RowReflowSink.result_of_output hout,
    outCol_eq_openColumn]

end

theorem reflowWidth_le_two (newCols : Nat) (c : Cell) : c.reflowWidth newCols ≤ 2 := by
  unfold Cell.reflowWidth
  split <;> omega

/-- **A row is recorded where its first character lands** unless that one is wide and one column is left. -/
theorem record_eq_landing_iff {c : Nat} (hr : rows[i]? = some r) (h : r.firstText params.oldCols = some c) :
    (reflowLoop (rows.take i) params).sink.record params r = (landing rows params i c).1
      ↔ ((r.get c).reflowWidth params.newCols = 2 → openColumn params (rows.take i) + 1 ≠ params.newCols) := by
  obtain ⟨hc, -, -⟩ := firstText_spec h
  have hone := RowReflowSink.reflowWidth_pos params.newCols (r.get c)
  have htwo := reflowWidth_le_two params.newCols (r.get c)
  rw [landing_firstText hr h]
  unfold RowReflowSink.record
  rw [outCol_eq_openColumn]
  split <;> split <;> omega

end Recorded

/-! ## How far the output reaches -/

theorem advance_le {newCols col w : Nat} (hw : w ≤ newCols) : advance newCols col w ≤ newCols := by
  unfold advance
  split <;> omega

/-- The open row is at most full. -/
theorem openColumn_le {params : ReflowParams} (hcols : 0 < params.newCols) (rows : List Row) :
    openColumn params rows ≤ params.newCols := by
  have hwidths : ∀ (r : Row) (widths : List Nat) (col : Nat), (∀ w ∈ widths, w ≤ params.newCols) → col ≤ params.newCols →
      widths.foldl (advance params.newCols) col ≤ params.newCols := by
    intro r widths
    induction widths with
    | nil => exact fun col _ hcol => hcol
    | cons w widths ih =>
      intro col hw _
      exact ih _ (fun v hv => hw v (mem_cons_of_mem _ hv)) (advance_le (hw w mem_cons_self))
  unfold openColumn
  induction rows using List.reverseRecOn with
  | nil => exact Nat.zero_le _
  | append_singleton rows r ih =>
    rw [foldl_append, foldl_cons]
    unfold Row.openColumn
    split
    · refine hwidths r _ _ ?_ ih
      intro w hw
      obtain ⟨c, -, rfl⟩ := mem_map.mp hw
      exact RowReflowSink.reflowWidth_le_cols hcols _
    · exact Nat.zero_le _

namespace RowReflowSink

/-- The rows of a sink, the one in progress counted when something is written in it. -/
def height (sink : RowReflowSink) : Nat := sink.result.length + if 0 < sink.outCol then 1 else 0

variable {sink t : RowReflowSink}

theorem height_of_output (h : sink.output = t.output) : sink.height = t.height := by
  unfold height
  rw [result_of_output h, outCol_of_output h]

theorem height_finishRow (sink : RowReflowSink) (newCols : Nat) : (sink.finishRow newCols).height = sink.result.length + 1 := by
  show (sink.result ++ [sink.outRow]).length + 0 = _
  rw [length_append]
  rfl

/-- A character takes the row in progress, or the next one if that is full. -/
theorem height_reflowCell_text {input : RowReflowInput} {c : Nat} (h : (input.srcRow.get c).isSpacer = false) :
    (sink.reflowCell input c).height
      = (if sink.outCol + (input.srcRow.get c).reflowWidth input.newCols > input.newCols then sink.result.length + 1
          else sink.result.length) + 1 := by
  have hpos : 0 < (sink.reflowCell input c).outCol := (outCol_reflowCell sink input c).mpr (.inr h)
  unfold height
  rw [if_pos hpos, length_reflowCell_text h]

theorem height_le_reflowCell (sink : RowReflowSink) (input : RowReflowInput) (c : Nat) :
    sink.height ≤ (sink.reflowCell input c).height := by
  cases h : (input.srcRow.get c).isSpacer with
  | true => exact (height_of_output (output_reflowCell_spacer h)).ge
  | false =>
    rw [height_reflowCell_text h]
    unfold height
    split <;> split <;> omega

theorem height_le_foldl (sink : RowReflowSink) (input : RowReflowInput) (cols : List Nat) :
    sink.height ≤ (cols.foldl (fun sink c => sink.reflowCell input c) sink).height := by
  induction cols generalizing sink with
  | nil => exact Nat.le_refl _
  | cons c cols ih => exact (height_le_reflowCell sink input c).trans (ih _)

/-- A row with text reaches the row in progress, and the one after it when that is full. -/
theorem height_of_text {input : RowReflowInput} {c : Nat} (cols : List Nat) (hc : c ∈ cols)
    (h : (input.srcRow.get c).isSpacer = false) :
    sink.result.length + (if input.newCols ≤ sink.outCol then 2 else 1)
      ≤ (cols.foldl (fun sink c => sink.reflowCell input c) sink).height := by
  induction cols generalizing sink with
  | nil => cases hc
  | cons d cols ih =>
    cases hd : (input.srcRow.get d).isSpacer with
    | true =>
      have hmem : c ∈ cols := by
        rcases mem_cons.mp hc with rfl | hmem
        · rw [h] at hd
          cases hd
        · exact hmem
      have hout := @output_reflowCell_spacer sink input d hd
      rw [← result_of_output hout, ← outCol_of_output hout]
      exact ih hmem
    | false =>
      refine le_trans ?_ (height_le_foldl (sink.reflowCell input d) input cols)
      have hone := reflowWidth_pos input.newCols (input.srcRow.get d)
      rw [height_reflowCell_text hd]
      split <;> split <;> omega

end RowReflowSink

section Height

variable {params : ReflowParams} {st : ReflowState} {r : Row} {i : Nat}

/-- A row that adds nothing leaves the output alone. -/
theorem output_reflowRow_silent (h : r.silent params.oldCols = true) :
    (st.reflowRow params (r, i)).sink.output = st.sink.output := by
  unfold Row.silent at h
  rw [Bool.and_eq_true, isNone_iff_eq_none] at h
  rw [output_reflowRow_wrapped st i h.1]
  exact RowReflowSink.output_foldl_spacers (params.input r i) _ (firstText_none h.2)

/-- An unwrapped row of spacers ends the row in progress. -/
theorem output_reflowRow_ends (hwrap : r.wrapped params.oldCols = false) (htext : r.firstText params.oldCols = none) :
    (st.reflowRow params (r, i)).sink.output = (st.sink.finishRow params.newCols).output := by
  have hkept : (st.sink.reflowRowCells (params.input r i)).output = st.sink.output :=
    RowReflowSink.output_foldl_spacers (params.input r i) _ (firstText_none htext)
  rw [output_reflowRow_unwrapped st i hwrap]
  unfold RowReflowSink.finishRow RowReflowSink.output
  rw [RowReflowSink.result_of_output hkept, RowReflowSink.outRow_of_output hkept]

section

variable (params : ReflowParams) (st : ReflowState) (r : Row) (i : Nat)

/-- The end of a row takes nothing away. -/
theorem height_reflowRowCells_le :
    (st.sink.reflowRowCells (params.input r i)).height ≤ (st.reflowRow params (r, i)).sink.height := by
  cases hwrap : r.wrapped params.oldCols with
  | true => exact (RowReflowSink.height_of_output (output_reflowRow_wrapped st i hwrap)).ge
  | false =>
    rw [RowReflowSink.height_of_output (output_reflowRow_unwrapped st i hwrap), RowReflowSink.height_finishRow]
    unfold RowReflowSink.height
    split <;> omega

theorem height_le_reflowRow : st.sink.height ≤ (st.reflowRow params (r, i)).sink.height :=
  (RowReflowSink.height_le_foldl ..).trans (height_reflowRowCells_le ..)

end

/-- A row with text reaches the row in progress, and the one after it when that is full. -/
theorem height_reflowRow_text (h : (r.firstText params.oldCols).isSome = true) :
    st.sink.result.length + (if params.newCols ≤ st.sink.outCol then 2 else 1)
      ≤ (st.reflowRow params (r, i)).sink.height := by
  obtain ⟨c, hc⟩ := isSome_iff_exists.mp h
  obtain ⟨hlt, htext, -⟩ := firstText_spec hc
  exact (@RowReflowSink.height_of_text st.sink (params.input r i) c _ (mem_range.mpr hlt) htext).trans
    (height_reflowRowCells_le ..)

/-- A row that is not silent reaches the row in progress. -/
theorem height_reflowRow_pos (h : r.silent params.oldCols = false) :
    st.sink.result.length < (st.reflowRow params (r, i)).sink.height := by
  cases htext : r.firstText params.oldCols with
  | some c =>
    have hreach := @height_reflowRow_text params st r i (by rw [htext]; rfl)
    split at hreach <;> omega
  | none =>
    have hwrap : r.wrapped params.oldCols = false := by
      unfold Row.silent at h
      simpa [htext] using h
    rw [RowReflowSink.height_of_output (output_reflowRow_ends hwrap htext), RowReflowSink.height_finishRow]
    omega

theorem height_le_reflowRows (params : ReflowParams) (st : ReflowState) (srcs : List (Row × Nat)) :
    st.sink.height ≤ (srcs.foldl (ReflowState.reflowRow params) st).sink.height := by
  induction srcs generalizing st with
  | nil => exact Nat.le_refl _
  | cons src srcs ih => exact (height_le_reflowRow params st src.1 src.2).trans (ih _)

/-- **The row in progress is reached** if something is written in it or some row still to come is not silent. -/
theorem lt_height_iff (st : ReflowState) (rest : List Row) (i : Nat) :
    st.sink.result.length < ((rest.zipIdx i).foldl (ReflowState.reflowRow params) st).sink.height
      ↔ 0 < st.sink.outCol ∨ ∃ s ∈ rest, s.silent params.oldCols = false := by
  induction rest generalizing st i with
  | nil =>
    show _ < st.sink.height ↔ _
    unfold RowReflowSink.height
    split <;> simp [*]
  | cons r rest ih =>
    rw [zipIdx_cons, foldl_cons, exists_mem_cons_iff]
    cases hsilent : r.silent params.oldCols with
    | true =>
      have hout := @output_reflowRow_silent params st r i hsilent
      rw [← RowReflowSink.result_of_output hout, ← RowReflowSink.outCol_of_output hout, ih]
      simp
    | false =>
      have hreach := (@height_reflowRow_pos params st r i hsilent).trans_le
        (height_le_reflowRows params (st.reflowRow params (r, i)) (rest.zipIdx (i + 1)))
      simp [hreach]

/-- **The row after a full one is reached** if some row still to come has text, or two of them are not silent. -/
theorem succ_lt_height_iff (hcols : 0 < params.newCols) (st : ReflowState) (hfull : st.sink.outCol = params.newCols)
    (rest : List Row) (i : Nat) :
    st.sink.result.length + 1 < ((rest.zipIdx i).foldl (ReflowState.reflowRow params) st).sink.height
      ↔ (∃ s ∈ rest, (s.firstText params.oldCols).isSome = true) ∨ 2 ≤ rest.countP fun s => !s.silent params.oldCols := by
  induction rest generalizing st i with
  | nil =>
    show _ < st.sink.height ↔ _
    unfold RowReflowSink.height
    rw [hfull, if_pos hcols]
    simp
  | cons r rest ih =>
    rw [zipIdx_cons, foldl_cons, exists_mem_cons_iff, countP_cons]
    cases htext : r.firstText params.oldCols with
    | some c =>
      have hreach := @height_reflowRow_text params st r i (by rw [htext]; rfl)
      rw [if_pos (by omega)] at hreach
      have hlater := hreach.trans
        (height_le_reflowRows params (st.reflowRow params (r, i)) (rest.zipIdx (i + 1)))
      simp only [isSome_some, true_or, iff_true]
      omega
    | none =>
      cases hwrap : r.wrapped params.oldCols with
      | true =>
        have hsilent : r.silent params.oldCols = true := by
          unfold Row.silent
          rw [hwrap, htext]
          rfl
        have hout := @output_reflowRow_silent params st r i hsilent
        rw [← RowReflowSink.result_of_output hout, ih _ ((RowReflowSink.outCol_of_output hout).trans hfull)]
        simp [hsilent]
      | false =>
        have hsilent : r.silent params.oldCols = false := by
          unfold Row.silent
          rw [hwrap]
          rfl
        have hout := @output_reflowRow_ends params st r i hwrap htext
        have hlen : (st.reflowRow params (r, i)).sink.result.length = st.sink.result.length + 1 := by
          rw [RowReflowSink.result_of_output hout]
          exact length_append
        have hcol : (st.reflowRow params (r, i)).sink.outCol = 0 := RowReflowSink.outCol_of_output hout
        rw [← hlen, lt_height_iff, hcol]
        have hmore : (∃ s ∈ rest, s.silent params.oldCols = false)
            ↔ 1 ≤ rest.countP fun s => !s.silent params.oldCols := by
          simp
        have htexts : (∃ s ∈ rest, (s.firstText params.oldCols).isSome = true)
            → ∃ s ∈ rest, s.silent params.oldCols = false := by
          rintro ⟨s, hs, hsome⟩
          refine ⟨s, hs, ?_⟩
          unfold Row.silent
          obtain ⟨c, hc⟩ := isSome_iff_exists.mp hsome
          rw [hc]
          simp
        simp only [hsilent, Bool.not_false, if_true, isSome_none, Bool.false_eq_true, false_or, Nat.lt_irrefl]
        constructor
        · intro h
          exact .inr (by have := hmore.mp h; omega)
        · rintro (h | h)
          · exact htexts h
          · exact hmore.mpr (by omega)

end Height

/-! ## The map -/

section Map

variable {rows : List Row} {params : ReflowParams} {i : Nat} {r : Row}

theorem length_firstOutputRow (rows : List Row) (params : ReflowParams) :
    (reflowCells rows params).firstOutputRow.length = rows.length := by
  rw [firstOutputRow_eq, length_map, length_zipIdx]

/-- The entries and the source rows correspond. -/
theorem exists_row_of_entry {k : Nat} (h : (reflowCells rows params).firstOutputRow[i]? = some k) :
    ∃ r, rows[i]? = some r ∧ k = (reflowLoop (rows.take i) params).sink.record params r := by
  rw [getElem?_firstOutputRow, map_eq_some_iff] at h
  obtain ⟨r, hr, hk⟩ := h
  exact ⟨r, hr, hk.symm⟩

/-- **The map lands on the text** exactly if every first character fits. -/
theorem lands_iff (rows : List Row) (params : ReflowParams) :
    (∀ i r c, rows[i]? = some r → r.firstText params.oldCols = some c →
        (reflowCells rows params).firstOutputRow[i]? = some (landing rows params i c).1)
      ↔ ∀ i r, rows[i]? = some r → ∀ c ∈ r.firstText params.oldCols, (r.get c).reflowWidth params.newCols = 2 →
        openColumn params (rows.take i) + 1 ≠ params.newCols := by
  have hentry : ∀ i r c, rows[i]? = some r → r.firstText params.oldCols = some c →
      ((reflowCells rows params).firstOutputRow[i]? = some (landing rows params i c).1
        ↔ ((r.get c).reflowWidth params.newCols = 2 → openColumn params (rows.take i) + 1 ≠ params.newCols)) := by
    intro i r c hr hc
    rw [getElem?_firstOutputRow, hr, map_some, some_inj]
    exact record_eq_landing_iff hr hc
  constructor
  · intro h i r hr c hc
    exact (hentry i r c hr hc).mp (h i r c hr hc)
  · intro h i r c hr hc
    exact (hentry i r c hr hc).mpr (h i r hr c hc)

/-- What one row records and what the next one does. -/
theorem record_le_next_iff (hcols : 0 < params.newCols) (hr : rows[i]? = some r) (next : Row) :
    (reflowLoop (rows.take i) params).sink.record params r
        ≤ (reflowLoop (rows.take (i + 1)) params).sink.record params next
      ↔ (openColumn params (rows.take i) = params.newCols → r.silent params.oldCols = true →
          next.reflowLen params.oldCols ≠ 0) := by
  have hcol := outCol_eq_openColumn (rows.take i) params
  have hle := openColumn_le hcols (rows.take i)
  rw [reflowLoop_take_succ hr] at *
  generalize reflowLoop (rows.take i) params = st at *
  cases hsilent : r.silent params.oldCols with
  | true =>
    -- the row adds nothing: both records are made at the same output
    have hout := @output_reflowRow_silent params st r i hsilent
    have hlen : r.reflowLen params.oldCols ≠ 0 := by
      unfold Row.silent at hsilent
      rw [Bool.and_eq_true] at hsilent
      unfold Row.reflowLen
      rw [if_pos hsilent.1]
      unfold Row.wrapped at hsilent
      simp only [Bool.and_eq_true, decide_eq_true_eq] at hsilent
      omega
    unfold RowReflowSink.record
    rw [RowReflowSink.result_of_output hout, RowReflowSink.outCol_of_output hout]
    split <;> split <;> simp <;> omega
  | false =>
    -- the row reaches what was recorded for it
    simp only [Bool.false_eq_true, false_implies, implies_true, iff_true]
    have hreach : st.sink.record params r ≤ (st.reflowRow params (r, i)).sink.result.length := by
      cases htext : r.firstText params.oldCols with
      | some c =>
        have hheight := @height_reflowRow_text params st r i (by rw [htext]; rfl)
        unfold RowReflowSink.record
        unfold RowReflowSink.height at hheight
        split <;> split at hheight <;> split at hheight <;> omega
      | none =>
        have hwrap : r.wrapped params.oldCols = false := by
          unfold Row.silent at hsilent
          simpa [htext] using hsilent
        have hout := @output_reflowRow_ends params st r i hwrap htext
        rw [RowReflowSink.result_of_output hout]
        show _ ≤ (st.sink.result ++ [st.sink.outRow]).length
        rw [length_append, length_singleton]
        unfold RowReflowSink.record
        split <;> omega
    refine hreach.trans ?_
    unfold RowReflowSink.record
    split <;> omega

theorem monotone_iff (rows : List Row) (hcols : 0 < params.newCols) :
    (reflowCells rows params).firstOutputRow.Pairwise (· ≤ ·)
      ↔ ∀ i r, rows[i]? = some r → openColumn params (rows.take i) = params.newCols → r.silent params.oldCols = true →
        ∀ next ∈ rows[i + 1]?, next.reflowLen params.oldCols ≠ 0 := by
  rw [← isChain_iff_pairwise, isChain_iff_getElem]
  constructor
  · intro h i r hr hfull hsilent next hnext
    have hi : i + 1 < (reflowCells rows params).firstOutputRow.length := by
      rw [length_firstOutputRow]
      exact (List.getElem?_eq_some_iff.mp hnext).1
    have hstep := h i hi
    have hfst := getElem?_firstOutputRow rows params i
    have hsnd := getElem?_firstOutputRow rows params (i + 1)
    rw [hr, map_some, getElem?_eq_getElem (by omega), some_inj] at hfst
    rw [show rows[i + 1]? = some next from hnext, map_some, getElem?_eq_getElem hi, some_inj] at hsnd
    rw [hfst, hsnd] at hstep
    exact (record_le_next_iff hcols hr next).mp hstep hfull hsilent
  · intro h i hi
    obtain ⟨r, hr, hfst⟩ := exists_row_of_entry (getElem?_eq_getElem (Nat.lt_of_succ_lt hi))
    obtain ⟨next, hnext, hsnd⟩ := exists_row_of_entry (getElem?_eq_getElem hi)
    rw [hfst, hsnd]
    exact (record_le_next_iff hcols hr next).mpr fun hfull hsilent => h i r hr hfull hsilent next hnext

/-- **A record is in range** exactly if the row it names is reached. -/
theorem record_lt_iff (hcols : 0 < params.newCols) (hr : rows[i]? = some r) :
    (reflowLoop (rows.take i) params).sink.record params r < (reflowCells rows params).rows.length
      ↔ if r.reflowLen params.oldCols = 0 ∨ openColumn params (rows.take i) < params.newCols then
          0 < openColumn params (rows.take i) ∨ ∃ s ∈ rows.drop i, s.silent params.oldCols = false
        else
          (∃ s ∈ rows.drop i, (s.firstText params.oldCols).isSome = true)
            ∨ 2 ≤ (rows.drop i).countP fun s => !s.silent params.oldCols := by
  obtain ⟨hi, -⟩ := List.getElem?_eq_some_iff.mp hr
  have hheight : (reflowCells rows params).rows.length
      = (((rows.drop i).zipIdx i).foldl (ReflowState.reflowRow params) (reflowLoop (rows.take i) params)).sink.height := by
    rw [length_reflowCells, ← reflowLoop_take_drop params hi]
    rfl
  have hle := openColumn_le hcols (rows.take i)
  rw [hheight]
  unfold RowReflowSink.record
  rw [← outCol_eq_openColumn] at hle ⊢
  split
  · exact lt_height_iff ..
  · rename_i hfull
    rw [not_or, Nat.not_lt] at hfull
    exact succ_lt_height_iff hcols _ (Nat.le_antisymm hle hfull.2) _ _

theorem inRange_iff (rows : List Row) (hcols : 0 < params.newCols) :
    (∀ k ∈ (reflowCells rows params).firstOutputRow, k < (reflowCells rows params).rows.length)
      ↔ ∀ i r, rows[i]? = some r →
        if r.reflowLen params.oldCols = 0 ∨ openColumn params (rows.take i) < params.newCols then
          0 < openColumn params (rows.take i) ∨ ∃ s ∈ rows.drop i, s.silent params.oldCols = false
        else
          (∃ s ∈ rows.drop i, (s.firstText params.oldCols).isSome = true)
            ∨ 2 ≤ (rows.drop i).countP fun s => !s.silent params.oldCols := by
  constructor
  · intro h i r hr
    have hentry := getElem?_firstOutputRow rows params i
    rw [hr] at hentry
    exact (record_lt_iff hcols hr).mp (h _ (mem_of_getElem? hentry))
  · intro h k hk
    obtain ⟨i, hi⟩ := mem_iff_getElem?.mp hk
    obtain ⟨r, hr, rfl⟩ := exists_row_of_entry hi
    exact (record_lt_iff hcols hr).mpr (h i r hr)

/-- A placement on a row of the map is moved to the row the map gives. -/
theorem cellRow_remapPlacements {cache : Image.Cache} {evicted k row : Nat} {map : List Nat} {p : Image.Placement}
    (hp : cache.placements[k]? = some p) (hrow : p.cellRow = ⟨evicted + i⟩) (hmap : map[i]? = some row) :
    (cache.remapPlacements ⟨map, evicted⟩).placements[k]?.map (·.cellRow) = some ⟨evicted + row⟩ := by
  unfold Image.Cache.remapPlacements Image.Cache.mapPlacements
  rw [getElem?_map, hp, map_some, map_some, hrow]
  rw [if_neg (Nat.not_lt.mpr (Nat.le_add_right evicted i)), Nat.add_sub_cancel_left, hmap]

/-- **The row map is right exactly at the rows that meet the condition.** -/
theorem mapsToText_iff (rows : List Row) {params : ReflowParams} (hcols : 0 < params.newCols) :
    MapsToText rows params ↔ ∀ i (hi : i < rows.length), RowMapped rows params i rows[i] := by
  constructor
  · intro h i hi
    have hr : rows[i]? = some rows[i] := getElem?_eq_getElem hi
    exact ⟨(lands_iff rows params).mp h.lands i _ hr, (monotone_iff rows hcols).mp h.monotone i _ hr,
      (inRange_iff rows hcols).mp h.inRange i _ hr⟩
  · intro h
    have hrow : ∀ i r, rows[i]? = some r → RowMapped rows params i r := by
      intro i r hr
      obtain ⟨hi, rfl⟩ := List.getElem?_eq_some_iff.mp hr
      exact h i hi
    have hlands := (lands_iff rows params).mpr fun i r hr => (hrow i r hr).fits
    refine ⟨length_firstOutputRow rows params, hlands, ?_, ?_, ?_, ?_⟩
    · intro i r c hr hc
      obtain ⟨hlt, htext, -⟩ := firstText_spec hc
      exact get_landing hcols hr hlt htext
    · exact (monotone_iff rows hcols).mpr fun i r hr => (hrow i r hr).goesOn
    · exact (inRange_iff rows hcols).mpr fun i r hr => (hrow i r hr).reached
    · intro cache evicted k p i r c hp hcell hr hc
      exact cellRow_remapPlacements hp hcell (hlands i r c hr hc)

end Map

/-- At three columns the second wide character of the sample starts in the middle of an output row. -/
theorem wideSample_mapsToText : MapsToText wideSample ⟨4, 3, 0, 0, 0⟩ :=
  (mapsToText_iff wideSample (by decide)).mpr (by decide)

/-- A full row of three columns, and the row it continues on, which starts with a wide character. -/
def wideContinuation : List Row :=
  [{ inner := [{ ch := 'a' }, { ch := 'b' }, { ch := 'c', flags := CellFlags.wrap }], occ := 3 },
   { inner := [{ ch := '界', flags := CellFlags.wideChar }, { flags := CellFlags.wideCharSpacer }, Cell.blank], occ := 2 }]

/-- At four columns one column is left for it: the map says row 0, the character is on row 1. -/
theorem wideContinuation_mapped_behind : ¬ MapsToText wideContinuation ⟨3, 4, 0, 0, 0⟩ := by
  intro h
  have hlands := h.lands 1 _ 0 rfl (by decide)
  revert hlands
  decide

end OriTerm
