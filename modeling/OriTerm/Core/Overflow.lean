import OriTerm.Core.ReflowTrack
import OriTerm.Core.StableIndex

/-!
# `Core.Overflow` — which scrollback rows a scroll may discard

A reflow to a narrower screen moves visible rows above the screen, and the shell repaints what it had shown: the
rows that came up that way are stale. The grid counts them in `resizePushed`, and the next full-screen scroll or
ED 2 takes that many rows off the new end of the scrollback.

Whether those rows are the right ones is a question about where each row came from, which the grid does not
record. `GridOp.history` keeps the scrollback a second time, each row with its `RowOrigin`, without looking at the
counter; `Tallied` says that the counter is right: the newest `resizePushed` rows are overflow and all older
ones are history. A step keeps that under the guard `GridOp.KeepsTally`, and `tallied_run` follows by induction
over the run. What the guard leaves out are the steps that move or empty the new end of the scrollback without
adjusting the counter, and the reflow that counts more rows than there is overflow.
-/

namespace OriTerm

open Lib List

/-- How a row came into the scrollback: scrolled or pushed there, or moved there by a reflow of what was visible. -/
inductive RowOrigin where
  | history
  | overflow
  deriving DecidableEq, Repr

/-- The scrollback rows with their origins, oldest first. -/
abbrev History := List (Row × RowOrigin)

namespace History

/-- The rows alone. -/
def rows (h : History) : List Row := h.map Prod.fst

def origins (h : History) : List RowOrigin := h.map Prod.snd

/-- What is left when the overflow is discarded. -/
def real (h : History) : History := h.filter fun e => e.2 = .history

/-- The newest entries, as many as the scrollback holds. -/
def keep (limit : Nat) (h : History) : History := h.drop (h.length - limit)

/-- Rows that enter at the new end with one origin. -/
def push (limit : Nat) (rows : List Row) (h : History) : History :=
  keep limit (h ++ rows.map fun r => (r, RowOrigin.history))

end History

namespace Grid

variable (g : Grid) (newCols : Nat)

/-! ## The rows at another width -/

/-- The parameters of a reflow to `newCols`. -/
def reflowParams (newCols historyBoundary : Nat) : ReflowParams :=
  { oldCols := g.cols, newCols, cursorAbs := g.scrollback.len + g.cursor.line, cursorCol := g.cursor.col
    historyBoundary }

/-- Rows of the grid as a reflow to `newCols` emits them. Which of them are history makes no difference. -/
def rewrap (rows : List Row) : ReflowOutcome := reflowCells rows (g.reflowParams newCols 0)

/-- All rows after the reflow, blank ones below the cursor trimmed. -/
def rewrapped : List Row :=
  let outcome := g.rewrap newCols g.history
  trimResult (max g.lines (outcome.newCursorAbs + 1))
    (if outcome.rows.isEmpty then [Row.new newCols] else outcome.rows)

/-- How many rows do not fit on the screen after the reflow. -/
def above : Nat := (g.rewrapped newCols).length - g.lines

/-- The last line of the rows, given newest first, goes on: it has text and no end. -/
def MidLine (cols : Nat) : List Row → Prop
  | [] => False
  | r :: older => r.wrapped cols = true ∧ ((∃ c ∈ List.range cols, (r.get c).isSpacer = false) ∨ MidLine cols older)

instance decidableMidLine (cols : Nat) : ∀ rows : List Row, Decidable (MidLine cols rows)
  | [] => .isFalse id
  | r :: older =>
    let _ := decidableMidLine cols older
    inferInstanceAs (Decidable (r.wrapped cols = true ∧ (_ ∨ MidLine cols older)))

/-! ## Where the rows come from -/

/-- A scroll up that covers the screen discards the overflow and pushes the rows that leave. -/
def scrollHistory (count : Nat) (h : History) : History :=
  if g.regionEnd - g.regionStart = 0 ∨ g.isFullScreen = false then h
  else h.real.push g.scrollback.maxScrollback (g.rows.take (min count g.lines))

def linefeedHistory (h : History) : History :=
  if g.linefeedScrolls then g.scrollHistory 1 h else h

def putCharHistory (width : Nat) (h : History) : History :=
  if width ≤ g.cols then
    match g.wrapWrite width with
    | some g' => g'.linefeedHistory h
    | none => h
  else h

/-- A change of the row count pushes rows, or takes the newest ones back. -/
def rowsHistory (newLines : Nat) (h : History) : History :=
  if newLines < g.lines then h.push g.scrollback.maxScrollback (g.rows.take (g.shrinkPush newLines))
  else if g.cursor.line ≥ g.lines - 1 then h.take (h.length - (newLines - g.lines))
  else h

/-- A reflow rewrites everything. Of the rows above the screen those that hold text of the history are history,
    the others overflow. -/
def reflowHistory (h : History) : History :=
  if g.cols = newCols ∨ newCols = 0 then h
  else
    let above := (g.rewrapped newCols).take (g.above newCols)
    let real := (g.rewrap newCols h.real.rows).rows.length
    History.keep g.scrollback.maxScrollback
      ((above.take real).map (fun r => (r, RowOrigin.history)) ++ (above.drop real).map fun r => (r, RowOrigin.overflow))

def resizeHistory (newLines newCols : Nat) (reflow : Bool) (h : History) : History :=
  if newCols = 0 ∨ newLines = 0 then h
  else if newCols = g.cols ∧ newLines = g.lines then h
  else if reflow ∧ newCols ≠ g.cols then
    if newCols > g.cols then
      ((g.reflowCols newCols).1.setCols newCols).rowsHistory newLines (g.reflowHistory newCols h)
    else (g.resizeRows newLines).reflowHistory newCols (g.rowsHistory newLines h)
  else g.rowsHistory newLines h

end Grid

/-- The scrollback with its origins after an operation. -/
def GridOp.history (g : Grid) (h : History) : GridOp → History
  | putChar width _ => g.putCharHistory width h
  | linefeed => g.linefeedHistory h
  | nextLine => g.carriageReturn.linefeedHistory h
  | scrollUp count => g.scrollHistory count h
  | eraseDisplay .all => h.real
  | eraseDisplay .scrollback => []
  | reset => []
  | resize newLines newCols reflow => g.resizeHistory newLines newCols reflow h
  | _ => h

/-- A grid and where its scrollback rows came from. -/
structure Recorded where
  grid : Grid
  history : History

/-- One operation, recorded. -/
def Recorded.step (s : Recorded) (op : GridOp) : Recorded := ⟨op.apply s.grid, op.history s.grid s.history⟩

/-- **The counter is right.** The recorded rows are those of the scrollback; the newest `resizePushed` are
    overflow, the older ones history. -/
structure Tallied (g : Grid) (h : History) : Prop where
  le : g.resizePushed ≤ g.scrollback.len
  rows : h.rows = g.scrollback.rows
  origins : h.origins
    = List.replicate (g.scrollback.len - g.resizePushed) .history ++ List.replicate g.resizePushed .overflow

/-! ## What moves the history -/

namespace History

variable {h : History}

theorem rows_push (limit : Nat) (rows : List Row) (h : History) :
    (h.push limit rows).rows = (h.rows ++ rows).drop ((h.rows ++ rows).length - limit) := by
  unfold push keep History.rows
  simp [Function.comp_def]

/-- Filtering a history whose origins are known is a prefix. -/
theorem real_eq_take {m k : Nat} (h : History)
    (horigins : h.origins = List.replicate m .history ++ List.replicate k .overflow) : h.real = h.take m := by
  induction m generalizing h with
  | zero =>
    refine filter_eq_nil_iff.mpr fun e he => ?_
    have hmem : e.2 ∈ h.origins := mem_map_of_mem he
    rw [horigins] at hmem
    rw [eq_of_mem_replicate hmem]
    decide
  | succ m ih =>
    cases h with
    | nil => simp [origins] at horigins
    | cons e h =>
      rw [origins, map_cons, replicate_succ, cons_append, List.cons.injEq] at horigins
      unfold real at ih ⊢
      rw [filter_cons_of_pos (by simp [horigins.1]), take_succ_cons, ih h horigins.2]

theorem length_rows (h : History) : h.rows.length = h.length := length_map _

end History

/-- Pushing rows keeps the newest that fit. -/
theorem ScrollbackBuffer.rows_pushAll_newest (sb : ScrollbackBuffer) (rows : List Row) :
    (sb.pushAll rows).1.rows = (sb.rows ++ rows).drop ((sb.rows ++ rows).length - sb.maxScrollback) := by
  obtain ⟨hrows, hmax, hle⟩ := sb.rows_pushAll rows
  have hlen := sb.len_pushAll rows
  rw [← length_rows, hrows, length_drop, length_append, length_rows] at hlen
  rw [hrows, length_append, length_rows]
  congr 1
  omega

namespace Tallied

variable {g g' : Grid} {h : History}

theorem length (ht : Tallied g h) : h.length = g.scrollback.len := by
  rw [← h.length_rows, ht.rows, ScrollbackBuffer.length_rows]

/-- What leaves the scrollback alone keeps the tally. -/
theorem of_kept (ht : Tallied g h) (hsb : g'.scrollback = g.scrollback) (hpushed : g'.resizePushed = g.resizePushed) :
    Tallied g' h := by
  refine ⟨?_, ?_, ?_⟩
  · rw [hsb, hpushed]
    exact ht.le
  · rw [hsb]
    exact ht.rows
  · rw [hsb, hpushed]
    exact ht.origins

theorem real_eq (ht : Tallied g h) : h.real = h.take (g.scrollback.len - g.resizePushed) :=
  h.real_eq_take ht.origins

/-- The rows a scroll leaves when it discards the overflow are the history. -/
theorem rows_real (ht : Tallied g h) : h.real.rows = g.freshScrollback.rows := by
  rw [ht.real_eq, History.rows, map_take, ← History.rows, ht.rows]
  exact (ScrollbackBuffer.rows_popMany ..).symm

/-- A scrollback of history rows only. -/
theorem of_history {h : History} (hpushed : g.resizePushed = 0) (hrows : h.rows = g.scrollback.rows)
    (horigin : ∀ o ∈ h.origins, o = .history) : Tallied g h := by
  have hlen : h.origins.length = g.scrollback.len := by
    rw [History.origins, length_map, ← h.length_rows, hrows, ScrollbackBuffer.length_rows]
  refine ⟨by omega, hrows, ?_⟩
  rw [hpushed, replicate_zero, append_nil]
  exact eq_replicate_iff.mpr ⟨hlen, horigin⟩

theorem origin_real {o : RowOrigin} (ho : o ∈ h.real.origins) : o = .history := by
  obtain ⟨e, he, rfl⟩ := mem_map.mp ho
  simpa using (mem_filter.mp he).2

theorem dropStale (ht : Tallied g h) (hsb : g'.scrollback = g.freshScrollback) (hpushed : g'.resizePushed = 0) :
    Tallied g' h.real := by
  refine of_history hpushed ?_ fun o ho => origin_real ho
  rw [hsb]
  exact ht.rows_real

/-- Rows pushed on a scrollback of history rows only. -/
theorem push (ht : Tallied g h) (h0 : g.resizePushed = 0) {rows : List Row}
    (hsb : g'.scrollback = (g.scrollback.pushAll rows).1) (hpushed : g'.resizePushed = 0) :
    Tallied g' (h.push g.scrollback.maxScrollback rows) := by
  refine of_history hpushed ?_ ?_
  · rw [History.rows_push, ht.rows, hsb]
    exact (ScrollbackBuffer.rows_pushAll_newest ..).symm
  · intro o ho
    have horigins := ht.origins
    rw [h0, replicate_zero, append_nil] at horigins
    obtain ⟨e, he, rfl⟩ := mem_map.mp ho
    rcases mem_append.mp (mem_of_mem_drop he) with hold | hnew
    · have hmem : e.2 ∈ h.origins := mem_map_of_mem hold
      rw [horigins] at hmem
      exact eq_of_mem_replicate hmem
    · obtain ⟨r, _, rfl⟩ := mem_map.mp hnew
      rfl

/-- Rows taken back from the new end: the counter goes down with them. -/
theorem popMany (ht : Tallied g h) {n : Nat} (hsb : g'.scrollback = g.scrollback.popMany n)
    (hpushed : g'.resizePushed = g.resizePushed - n) : Tallied g' (h.take (g.scrollback.len - n)) := by
  have hle := ht.le
  refine ⟨?_, ?_, ?_⟩
  · rw [hsb, ScrollbackBuffer.len_popMany]
    omega
  · rw [History.rows, map_take, ← History.rows, ht.rows, hsb, ScrollbackBuffer.rows_popMany]
  · rw [History.origins, map_take, ← History.origins, ht.origins, hsb, ScrollbackBuffer.len_popMany, take_append,
      take_replicate, take_replicate, length_replicate]
    congr 2 <;> omega

theorem cleared (hsb : g'.scrollback.rows = []) (hpushed : g'.resizePushed = 0) : Tallied g' [] :=
  of_history hpushed (by rw [hsb]; rfl) fun o ho => by cases ho

section

variable (ht : Tallied g h)
include ht

theorem origin_drop {e : Row × RowOrigin} (he : e ∈ h.drop (g.scrollback.len - g.resizePushed)) : e.2 = .overflow := by
  have hmem : e.2 ∈ h.origins.drop (g.scrollback.len - g.resizePushed) := by
    rw [History.origins, ← map_drop]
    exact mem_map_of_mem he
  rw [ht.origins, drop_append_of_le_length (by simp), drop_of_length_le (by simp)] at hmem
  exact eq_of_mem_replicate hmem

theorem origin_take {e : Row × RowOrigin} (he : e ∈ h.take (g.scrollback.len - g.resizePushed)) : e.2 = .history := by
  rw [← ht.real_eq] at he
  exact origin_real (mem_map_of_mem he)

/-! ## Scrolls -/

theorem scrollUp (hg : g.Framed) (count : Nat) : Tallied (g.scrollUp count) (g.scrollHistory count h) := by
  unfold Grid.scrollHistory
  by_cases hempty : g.regionEnd - g.regionStart = 0
  · rw [if_pos (.inl hempty), Grid.scrollUp_empty hempty]
    exact ht
  cases hfull : g.isFullScreen with
  | false =>
    have hroll := Grid.rolls_scrollUp g count hfull
    rw [if_pos (.inr rfl)]
    exact ht.of_kept hroll.scrollback hroll.resizePushed
  | true =>
    have hregion : g.regionStart = 0 ∧ g.regionEnd = g.lines := by simpa [Grid.isFullScreen] using hfull
    obtain ⟨fresh, hup⟩ := Grid.scrollUp_fullScreen g count hg hfull (by omega)
    rw [if_neg (by simp [hempty])]
    have hfresh : Tallied g.dropStale h.real := ht.dropStale rfl rfl
    have hpush := @Tallied.push _ (g.scrollUp count) _ hfresh rfl (g.rows.take (min count g.lines)) hup.scrollback
      hup.resizePushed
    have hmax : g.dropStale.scrollback.maxScrollback = g.scrollback.maxScrollback :=
      ScrollbackBuffer.maxScrollback_popMany ..
    rw [hmax] at hpush
    exact hpush

theorem linefeed (hg : g.Framed) : Tallied g.linefeed (g.linefeedHistory h) := by
  unfold Grid.linefeedHistory
  cases hscroll : g.linefeedScrolls with
  | true =>
    rw [Grid.linefeed_of_scrolls hscroll]
    exact ht.scrollUp hg 1
  | false =>
    have htracked := Grid.tracked_linefeed hscroll
    exact ht.of_kept htracked.scrollback htracked.resizePushed

theorem putChar (hg : g.Wf) (width : Nat) (ch : Char) : Tallied (g.putChar width ch) (g.putCharHistory width h) := by
  unfold Grid.putChar Grid.putCharSlow Grid.putCharHistory
  split
  · next hw =>
    rw [if_neg (by omega)]
    exact ht
  · next hw =>
    rw [if_pos (by omega), Grid.putCharLoop_settles ch hg.toFramed hg.toMarginsOk (by omega) (Nat.le_refl _)]
    cases hwrap : g.wrapWrite width with
    | none =>
      have hwrite := Grid.tracked_writeChar g width ch
      exact ht.of_kept hwrite.scrollback hwrite.resizePushed
    | some g' =>
      obtain ⟨col, f, rfl⟩ := Grid.wrapWrite_eq hwrap
      have hedit := Grid.edits_editCell g g.cursor.line col f
      have hfeed := (ht.of_kept hedit.scrollback hedit.resizePushed).linefeed (hedit.framed hg.toFramed)
      have hwrite := Grid.tracked_writeChar (g.wrapStep (g.editCell g.cursor.line col f)) width ch
      exact hfeed.of_kept hwrite.scrollback hwrite.resizePushed

/-! ## Row counts -/

theorem resizeRows (hg : g.Sized) {newLines : Nat}
    (hrows : newLines < g.lines → g.shrinkPush newLines = 0 ∨ g.resizePushed = 0) :
    Tallied (g.resizeRows newLines) (g.rowsHistory newLines h) := by
  unfold Grid.resizeRows Grid.rowsHistory
  rcases Nat.lt_trichotomy newLines g.lines with hlt | rfl | hgt
  · rw [if_neg (by omega), if_pos hlt, if_pos hlt]
    obtain ⟨hsb, _, _⟩ := Grid.shrinkRows_eq hg hlt
    rcases hrows hlt with hnone | h0
    · -- nothing is pushed: the scrollback is the one there was
      rw [hnone, take_zero] at hsb ⊢
      have hfits : h.length ≤ g.scrollback.maxScrollback := by
        rw [ht.length]
        exact g.scrollback.len_le_max
      have hsame : h.push g.scrollback.maxScrollback [] = h := by
        unfold History.push History.keep
        rw [map_nil, append_nil, Nat.sub_eq_zero_of_le hfits, drop_zero]
      rw [hsame]
      exact ht.of_kept hsb rfl
    · exact ht.push h0 hsb h0
  · rw [if_pos rfl, if_neg (Nat.lt_irrefl _)]
    split
    · rw [Nat.sub_self, Nat.sub_zero, take_length]
      exact ht
    · exact ht
  · rw [if_neg (by omega), if_neg (by omega), if_neg (by omega)]
    unfold Grid.growRows
    split
    · have hsb := (g.scrollback.restore_eq g.cols (Nat.min_le_right (newLines - g.lines) g.scrollback.len)).1
      have htake : h.length - (newLines - g.lines) = g.scrollback.len - min (newLines - g.lines) g.scrollback.len := by
        rw [ht.length]
        omega
      rw [htake]
      exact ht.popMany hsb rfl
    · exact ht.of_kept rfl rfl

end

end Tallied

/-! ## Where a reflow puts the boundary -/

section Boundary

variable {params : ReflowParams}

variable (rows : List Row)

/-- **What is in progress** after some rows is the line they leave open. -/
theorem outCol_reflowLoop (params : ReflowParams) :
    0 < (reflowLoop rows params).sink.outCol ↔ Grid.MidLine params.oldCols rows.reverse := by
  induction rows using List.reverseRecOn with
  | nil =>
    show 0 < 0 ↔ False
    simp
  | append_singleton rows r ih =>
    rw [reflowLoop_concat, reverse_append, reverse_singleton, singleton_append]
    unfold Grid.MidLine ReflowState.reflowRow
    dsimp only
    cases hwrap : r.wrapped params.oldCols with
    | true =>
      rw [if_pos rfl, outCol_trackPastContent, outCol_reflowRowCells, ih]
      rw [if_pos rfl, eq_self, true_and]
      exact or_comm
    | false =>
      show 0 < 0 ↔ _
      simp

/-- The rows up to the boundary do not set it. -/
theorem historyTracked_reflowLoop (h : rows.length ≤ params.historyBoundary) :
    (reflowLoop rows params).historyTracked = false := by
  induction rows using List.reverseRecOn with
  | nil => rfl
  | append_singleton rows r ih =>
    rw [length_append, length_singleton] at h
    rw [reflowLoop_concat]
    unfold ReflowState.reflowRow
    rw [ih (by omega)]
    simp
    omega

/-- Once set, the boundary stays. -/
theorem foldl_reflowRow_tracked (srcs : List (Row × Nat)) {st : ReflowState} (h : st.historyTracked = true) :
    (srcs.foldl (ReflowState.reflowRow params) st).historyTracked = true
      ∧ (srcs.foldl (ReflowState.reflowRow params) st).newHistoryBoundary = st.newHistoryBoundary := by
  induction srcs generalizing st with
  | nil => exact ⟨h, rfl⟩
  | cons src srcs ih =>
    have hstep : (st.reflowRow params src).historyTracked = true
        ∧ (st.reflowRow params src).newHistoryBoundary = st.newHistoryBoundary := by
      unfold ReflowState.reflowRow
      simp [h]
    obtain ⟨htracked, hkept⟩ := ih hstep.1
    exact ⟨htracked, hkept.trans hstep.2⟩

/-- **The new boundary** counts the finished rows of the history; a row in progress counts only when nothing
    follows the history. -/
theorem newHistoryBoundary_eq (rows rest : List Row) (h : params.historyBoundary = rows.length) :
    (reflowCells (rows ++ rest) params).newHistoryBoundary
      = if rest = [] then (reflowCells rows params).rows.length else (reflowLoop rows params).sink.result.length := by
  have hopen := @historyTracked_reflowLoop params rows (by omega)
  cases rest with
  | nil =>
    rw [append_nil, length_reflowCells]
    unfold reflowCells
    dsimp only
    rw [hopen]
    rfl
  | cons r rest =>
    have hset : ((reflowLoop rows params).reflowRow params (r, rows.length)).historyTracked = true
        ∧ ((reflowLoop rows params).reflowRow params (r, rows.length)).newHistoryBoundary
          = (reflowLoop rows params).sink.result.length := by
      unfold ReflowState.reflowRow
      simp [hopen, h]
    obtain ⟨htracked, hkept⟩ := @foldl_reflowRow_tracked params (rest.zipIdx (rows.length + 1)) _ hset.1
    rw [if_neg (by simp)]
    unfold reflowCells
    dsimp only
    rw [reflowLoop_append, zipIdx_cons, foldl_cons, htracked, if_pos rfl, hkept, hset.2]

/-- The boundary only says where it is: it changes no row. -/
theorem sink_reflowLoop_boundary (params : ReflowParams) (b : Nat) :
    (reflowLoop rows { params with historyBoundary := b }).sink = (reflowLoop rows params).sink := by
  induction rows using List.reverseRecOn with
  | nil => rfl
  | append_singleton rows r ih =>
    rw [reflowLoop_concat, reflowLoop_concat]
    unfold ReflowState.reflowRow
    rw [ih]

end Boundary

/-! ## The reflow -/

namespace Grid

variable {g g' : Grid} {h : History} {newCols : Nat}

theorem rewrap_eq (g : Grid) (newCols boundary : Nat) (rows : List Row) :
    (reflowCells rows (g.reflowParams newCols boundary)).rows = (g.rewrap newCols rows).rows
      ∧ (reflowCells rows (g.reflowParams newCols boundary)).newCursorAbs = (g.rewrap newCols rows).newCursorAbs := by
  have hsink := sink_reflowLoop_boundary rows (g.reflowParams newCols boundary) 0
  unfold rewrap reflowCells
  dsimp only
  rw [← hsink]
  exact ⟨rfl, rfl⟩

/-- How many rows the history takes when it is rewrapped alone. -/
def historyRewrapped (g : Grid) (newCols : Nat) : Nat := (g.rewrap newCols g.freshScrollback.rows).rows.length

/-- The boundary the reflow computes. -/
def reflowBoundary (g : Grid) (newCols : Nat) : Nat :=
  (reflowCells g.history (g.reflowParams newCols (g.scrollback.len - g.resizePushed))).newHistoryBoundary

/-- The boundary counts the rewrapped history, less a row that what follows goes on with. -/
theorem reflowBoundary_spec (g : Grid) (newCols : Nat) :
    g.reflowBoundary newCols ≤ g.historyRewrapped newCols
      ∧ g.historyRewrapped newCols ≤ g.reflowBoundary newCols + 1
      ∧ (¬ MidLine g.cols g.freshScrollback.rows.reverse →
          g.reflowBoundary newCols = g.historyRewrapped newCols) := by
  have hfresh : g.freshScrollback.rows = g.scrollback.rows.take (g.scrollback.len - g.resizePushed) :=
    ScrollbackBuffer.rows_popMany ..
  have hlen : g.scrollback.len - g.resizePushed = g.freshScrollback.rows.length := by
    rw [hfresh, length_take, ScrollbackBuffer.length_rows]
    omega
  have hsplit : g.history
      = g.freshScrollback.rows ++ (g.scrollback.rows.drop (g.scrollback.len - g.resizePushed) ++ g.rows) := by
    rw [hfresh, ← append_assoc, take_append_drop]
    rfl
  have hopen := outCol_reflowLoop g.freshScrollback.rows
    (g.reflowParams newCols (g.scrollback.len - g.resizePushed))
  have hcount := length_reflowCells g.freshScrollback.rows
    (g.reflowParams newCols (g.scrollback.len - g.resizePushed))
  have hreal := congrArg List.length
    (g.rewrap_eq newCols (g.scrollback.len - g.resizePushed) g.freshScrollback.rows).1
  have hboundary := @newHistoryBoundary_eq (g.reflowParams newCols (g.scrollback.len - g.resizePushed))
    g.freshScrollback.rows (g.scrollback.rows.drop (g.scrollback.len - g.resizePushed) ++ g.rows) hlen
  unfold historyRewrapped reflowBoundary
  rw [← hreal, hsplit, hboundary]
  split
  · exact ⟨Nat.le_refl _, Nat.le_succ _, fun _ => rfl⟩
  · rw [hcount]
    split
    · exact ⟨by omega, by omega, fun hnot => absurd (hopen.mp ‹_›) hnot⟩
    · exact ⟨by omega, by omega, fun _ => rfl⟩

/-- **What a reflow leaves in the scrollback, and what it counts.** -/
theorem reflowCols_scrollback (hne : ¬ (g.cols = newCols ∨ newCols = 0)) :
    (g.reflowCols newCols).1.scrollback
        = (g.scrollback.drainOldestFirst.1.clear.pushAll ((g.rewrapped newCols).take (g.above newCols))).1
      ∧ (g.reflowCols newCols).1.resizePushed = g.above newCols - g.reflowBoundary newCols := by
  have hdrain := g.scrollback.drainOldestFirst_eq.1
  have hall : g.scrollback.drainOldestFirst.2 ++ g.rows = g.history := by
    rw [hdrain]
    rfl
  have hstart : g.scrollback.drainOldestFirst.2.length = g.scrollback.len := by
    rw [hdrain, ScrollbackBuffer.length_rows]
  obtain ⟨hrows, hcursor⟩ := g.rewrap_eq newCols (g.scrollback.len - g.resizePushed) g.history
  unfold reflowCols
  rw [if_neg hne]
  dsimp only
  rw [hall, hstart]
  unfold applyReflowResult
  unfold reflowParams at hrows hcursor
  rw [hrows, hcursor]
  refine ⟨rfl, ?_⟩
  show (if (g.rewrapped newCols).length > g.lines then g.above newCols - g.reflowBoundary newCols else 0) = _
  split
  · rfl
  · unfold above
    omega

/-- A reflow counts the overflow: what it moves above the screen is history, or the history ends with a line and
    the overflow fits into the scrollback. -/
def ReflowTallies (g : Grid) (newCols : Nat) : Prop :=
  g.above newCols < g.historyRewrapped newCols
    ∨ ¬ MidLine g.cols g.freshScrollback.rows.reverse
      ∧ g.above newCols - g.historyRewrapped newCols ≤ g.scrollback.maxScrollback

instance (g : Grid) (newCols : Nat) : Decidable (g.ReflowTallies newCols) := by
  unfold ReflowTallies
  infer_instance

/-- The newest of some history rows followed by overflow rows. -/
theorem tallied_keep {limit : Nat} {real stale : List Row} (hfits : stale.length ≤ limit)
    (hpushed : g'.resizePushed = stale.length)
    (hrows : g'.scrollback.rows = (real ++ stale).drop ((real ++ stale).length - limit)) :
    Tallied g' (History.keep limit ((real.map fun r => (r, RowOrigin.history)) ++ stale.map fun r => (r, RowOrigin.overflow))) := by
  have hlen : g'.scrollback.len = min limit (real.length + stale.length) := by
    rw [← ScrollbackBuffer.length_rows, hrows, length_drop, length_append]
    omega
  refine ⟨by omega, ?_, ?_⟩
  · rw [hrows]
    unfold History.rows History.keep
    simp [Function.comp_def]
  · unfold History.origins History.keep
    simp only [map_drop, map_append, map_map, Function.comp_def, map_const', length_append,
      length_map, drop_append, drop_replicate]
    congr 2 <;> omega

theorem tallied_reflowCols (ht : Tallied g h) (hreflow : ¬ (g.cols = newCols ∨ newCols = 0) → g.ReflowTallies newCols) :
    Tallied (g.reflowCols newCols).1 (g.reflowHistory newCols h) := by
  by_cases hne : g.cols = newCols ∨ newCols = 0
  · unfold reflowHistory reflowCols
    rw [if_pos hne, if_pos hne]
    exact ht
  obtain ⟨hsb, hpushed⟩ := reflowCols_scrollback hne
  obtain ⟨hle, hge, hclosed⟩ := g.reflowBoundary_spec newCols
  obtain ⟨_, hempty, hmax⟩ := g.scrollback.drainOldestFirst_eq
  have hreal : (g.rewrap newCols h.real.rows).rows.length = g.historyRewrapped newCols := by
    rw [ht.rows_real]
    rfl
  have habove : ((g.rewrapped newCols).take (g.above newCols)).length = g.above newCols := by
    rw [length_take]
    unfold above
    omega
  have hguard := hreflow hne
  unfold reflowHistory
  rw [if_neg hne]
  rw [hreal]
  generalize hrows : (g.rewrapped newCols).take (g.above newCols) = rows at hsb habove
  have hstale : (rows.drop (g.historyRewrapped newCols)).length = g.above newCols - g.historyRewrapped newCols := by
    rw [length_drop, habove]
  refine tallied_keep ?_ ?_ ?_
  · rw [hstale]
    rcases hguard with hhistory | ⟨_, hfits⟩
    · omega
    · exact hfits
  · rw [hpushed, hstale]
    rcases hguard with hhistory | ⟨hline, _⟩
    · omega
    · rw [hclosed hline]
  · rw [hsb, ScrollbackBuffer.rows_pushAll_newest]
    simp [hmax]

/-- A change of the row count keeps the tally unless it pushes rows on top of overflow. -/
def RowsTally (g : Grid) (newLines : Nat) : Prop :=
  newLines < g.lines → g.shrinkPush newLines = 0 ∨ g.resizePushed = 0

instance (g : Grid) (newLines : Nat) : Decidable (g.RowsTally newLines) := by
  unfold RowsTally
  infer_instance

/-- A resize keeps the tally when its parts do, in the order in which it performs them. -/
def ResizeTallies (g : Grid) (newLines newCols : Nat) (reflow : Bool) : Prop :=
  if newCols = 0 ∨ newLines = 0 then True
  else if newCols = g.cols ∧ newLines = g.lines then True
  else if reflow ∧ newCols ≠ g.cols then
    if newCols > g.cols then g.ReflowTallies newCols ∧ ((g.reflowCols newCols).1.setCols newCols).RowsTally newLines
    else g.RowsTally newLines ∧ (g.resizeRows newLines).ReflowTallies newCols
  else g.RowsTally newLines

instance (g : Grid) (newLines newCols : Nat) (reflow : Bool) : Decidable (g.ResizeTallies newLines newCols reflow) := by
  unfold ResizeTallies
  infer_instance

theorem tallied_resize (ht : Tallied g h) (hg : g.Framed) {newLines newCols : Nat} {reflow : Bool}
    (hresize : g.ResizeTallies newLines newCols reflow) :
    Tallied (g.resize newLines newCols reflow).1 (g.resizeHistory newLines newCols reflow h) := by
  have hsized : Sized g := ⟨hg.rows, hg.width⟩
  unfold resize resizeHistory
  unfold ResizeTallies at hresize
  by_cases hzero : newCols = 0 ∨ newLines = 0
  · rw [if_pos hzero, if_pos hzero]
    exact ht
  rw [if_neg hzero] at hresize ⊢
  rw [if_neg hzero]
  by_cases hsame : newCols = g.cols ∧ newLines = g.lines
  · rw [if_pos hsame, if_pos hsame]
    exact ht
  rw [if_neg hsame] at hresize ⊢
  rw [if_neg hsame]
  by_cases href : reflow = true ∧ newCols ≠ g.cols
  · rw [if_pos href] at hresize ⊢
    rw [if_pos href]
    by_cases hgrow : newCols > g.cols
    · rw [if_pos hgrow] at hresize ⊢
      rw [if_pos hgrow]
      obtain ⟨hl, hlen, hw, _, _⟩ := reflowCols_spec g (show g.cols ≠ newCols by omega) (by omega)
      have hcols : Tallied ((g.reflowCols newCols).1.setCols newCols) (g.reflowHistory newCols h) :=
        (tallied_reflowCols ht fun _ => hresize.1).of_kept rfl rfl
      exact (hcols.resizeRows ⟨hlen.trans hl.symm, hw⟩ hresize.2).of_kept rfl rfl
    · rw [if_neg hgrow] at hresize ⊢
      rw [if_neg hgrow]
      exact (tallied_reflowCols (ht.resizeRows hsized hresize.1) fun _ => hresize.2).of_kept rfl rfl
  · rw [if_neg href] at hresize ⊢
    have hrows := ht.resizeRows hsized hresize
    unfold resizeNoReflow
    dsimp only
    split <;> exact hrows.of_kept rfl rfl

end Grid

/-! ## Every operation -/

namespace GridOp

/-- **The operation keeps the tally**: ED 3 and a reset find nothing counted, and a resize counts what it
    moves. -/
def KeepsTally (g : Grid) : GridOp → Prop
  | eraseDisplay .scrollback => g.resizePushed = 0
  | reset => g.resizePushed = 0
  | resize newLines newCols reflow => g.ResizeTallies newLines newCols reflow
  | _ => True

instance (g : Grid) (op : GridOp) : Decidable (op.KeepsTally g) := by
  apply @GridOp.casesOn (fun op => Decidable (op.KeepsTally g))
  case eraseDisplay =>
    intro mode
    apply @DisplayEraseMode.casesOn (fun mode => Decidable ((eraseDisplay mode).KeepsTally g)) <;>
      (unfold KeepsTally; infer_instance)
  all_goals intros; unfold KeepsTally; infer_instance

open Grid in
/-- **One step keeps the tally.** -/
theorem tallied {g : Grid} {h : History} (hg : g.Wf) (ht : Tallied g h) {op : GridOp} (hop : op.KeepsTally g) :
    Tallied (op.apply g) (op.history g h) := by
  have hf := hg.toFramed
  cases op with
  | edit e => exact ht.of_kept (tracked_edit hf e).scrollback (tracked_edit hf e).resizePushed
  | putChar width ch => exact ht.putChar hg width ch
  | linefeed => exact ht.linefeed hf
  | nextLine =>
    have hret := tracked_moveCursorCol g (if g.cursorInMarginBand then g.leftMargin else 0)
    exact (ht.of_kept hret.scrollback hret.resizePushed).linefeed (hret.framed hf)
  | reverseIndex =>
    show Tallied g.reverseIndex h
    unfold Grid.reverseIndex
    dsimp only
    split
    · exact ht.of_kept (rolls_scrollDown g 1).scrollback (rolls_scrollDown g 1).resizePushed
    · split
      · exact ht.of_kept rfl rfl
      · exact ht
  | scrollUp count => exact ht.scrollUp hf count
  | scrollDown count => exact ht.of_kept (rolls_scrollDown g count).scrollback (rolls_scrollDown g count).resizePushed
  | insertLines count => exact ht.of_kept (rolls_insertLines g count).scrollback (rolls_insertLines g count).resizePushed
  | deleteLines count => exact ht.of_kept (rolls_deleteLines g count).scrollback (rolls_deleteLines g count).resizePushed
  | eraseDisplay mode =>
    cases mode with
    | below => exact ht.of_kept (tracked_eraseBelow hf).scrollback (tracked_eraseBelow hf).resizePushed
    | above => exact ht.of_kept (tracked_eraseAbove hf).scrollback (tracked_eraseAbove hf).resizePushed
    | all =>
      obtain ⟨g₁, hedit, heq⟩ := eraseAll_eq hf
      have hcleared := @Tallied.dropStale _ (g.eraseDisplay .all) _
        (ht.of_kept hedit.scrollback hedit.resizePushed) (by rw [heq]; rfl) (by rw [heq]; rfl)
      exact hcleared
    | scrollback => exact .cleared (ScrollbackBuffer.rows_clear _) hop
  | setScrollRegion top bottom =>
    show Tallied (g.setScrollRegion top bottom) h
    unfold Grid.setScrollRegion
    dsimp only
    split
    · exact ht
    · exact ht.of_kept rfl rfl
  | setLeftRightMargins left right =>
    show Tallied (g.setLeftRightMargins left right) h
    unfold Grid.setLeftRightMargins
    split
    · exact ht.of_kept rfl rfl
    · exact ht
  | resetLeftRightMargins => exact ht.of_kept rfl rfl
  | scrollDisplay delta =>
    show Tallied (g.scrollDisplay delta) h
    unfold Grid.scrollDisplay
    dsimp only
    split
    · exact ht.of_kept rfl rfl
    · exact ht
  | reset => exact .cleared (ScrollbackBuffer.rows_clear _) hop
  | resize newLines newCols reflow => exact tallied_resize ht hf hop

end GridOp

namespace Recorded

/-- A new grid: nothing has come into the scrollback. -/
def new (lines cols maxScrollback : Nat) : Recorded := ⟨.withScrollback lines cols maxScrollback, []⟩

/-- The record does not change what the grid does. -/
theorem grid_run (s : Recorded) (ops : List GridOp) : (run step s ops).grid = run GridOp.apply s.grid ops := by
  induction ops generalizing s with
  | nil => rfl
  | cons op ops ih => exact ih _

/-- **Only overflow is discarded.** In every run whose steps keep the tally, the counter never exceeds the
    scrollback, the newest `resizePushed` scrollback rows are the overflow of the latest reflow and all older ones
    are history; so what a scroll and ED 2 leave of the scrollback is the whole history. -/
theorem tallied_run {lines cols maxScrollback : Nat} (hcols : 0 < cols) {ops : List GridOp}
    (hG : Along step (fun s op => op.KeepsTally s.grid) (new lines cols maxScrollback) ops) :
    let s := run step (new lines cols maxScrollback) ops
    s.grid = run GridOp.apply (.withScrollback lines cols maxScrollback) ops
      ∧ s.grid.resizePushed ≤ s.grid.scrollback.len
      ∧ s.history.rows = s.grid.scrollback.rows
      ∧ (∀ e ∈ s.history.drop (s.grid.scrollback.len - s.grid.resizePushed), e.2 = .overflow)
      ∧ (∀ e ∈ s.history.take (s.grid.scrollback.len - s.grid.resizePushed), e.2 = .history)
      ∧ (s.grid.scrollback.popMany s.grid.resizePushed).rows = s.history.real.rows := by
  intro s
  have hinv : s.grid.Wf ∧ Tallied s.grid s.history := by
    refine hG.invariant (I := fun s => s.grid.Wf ∧ Tallied s.grid s.history) ?_ ?_
    · intro s op hs hop
      exact ⟨(op.keeps hs.1).wf, op.tallied hs.1 hs.2 hop⟩
    · exact ⟨Grid.wf_withScrollback lines maxScrollback hcols, .cleared rfl rfl⟩
  obtain ⟨_, ht⟩ := hinv
  exact ⟨grid_run _ ops, ht.le, ht.rows, fun e he => ht.origin_drop he, fun e he => ht.origin_take he, ht.rows_real.symm⟩

/-- Two rows of four columns, filled, reflowed to two columns, and one line fed: the two rows that came up are
    discarded, the row the line feed scrolls out is kept. -/
theorem tallied_run_filled :
    let ops := [.putChar 1 'a', .putChar 1 'b', .putChar 1 'c', .putChar 1 'd', .putChar 1 'e', .putChar 1 'f',
      .resize 2 2 true, .linefeed]
    (run step (new 2 4 10) ops).grid = run GridOp.apply (.withScrollback 2 4 10) ops
      ∧ (run step (new 2 4 10) (ops.take 7)).grid.resizePushed = 1
      ∧ (run step (new 2 4 10) ops).history.length = 1 := by
  intro ops
  exact ⟨(tallied_run (by decide) (by decide)).1, by decide, by decide⟩

/-- Eight characters on two rows of four columns; the reflow to two columns moves `ab` and `cd` above the screen. -/
def overflowing : List GridOp :=
  [.putChar 1 'a', .putChar 1 'b', .putChar 1 'c', .putChar 1 'd', .putChar 1 'e', .putChar 1 'f', .putChar 1 'g',
    .putChar 1 'h', .resize 2 2 true]

/-- A smaller screen then pushes `ef` on top of them: one of the two counted rows is history, and the next line feed
    takes it off the scrollback. -/
theorem shrink_over_overflow :
    let s := run step (new 2 4 10) (overflowing ++ [.resize 1 2 true])
    s.grid.resizePushed = 2
      ∧ ¬ (∀ e ∈ s.history.drop (s.grid.scrollback.len - s.grid.resizePushed), e.2 = .overflow)
      ∧ ∃ e ∈ s.history, e.2 = .history ∧ e.1 ∉ s.grid.linefeed.scrollback.rows := by
  decide

end Recorded

end OriTerm
