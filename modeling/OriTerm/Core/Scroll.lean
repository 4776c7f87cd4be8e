import OriTerm.Core.WideChar

/-!
# `Core.Scroll` — scroll region and scroll operations

Scrolling whole rows rotates the range and recycles the rows that wrapped around (`scrollRangeUp`,
`scrollRangeDown`); a full-screen `scrollUp` first moves the leaving rows into the scrollback. With horizontal
margins the cells inside the band are copied instead, and the rows stay.

A scroll that leaves the history alone `Rolls` the visible rows. What a full-screen `scrollUp` does to the
history is `scrollUp_history`: the rows from the oldest one to the bottom of the screen lose some at the old end
and gain fresh ones at the new end, after the stale reflow overflow has been taken out of the middle.
-/

namespace OriTerm

open Lib

namespace Row

variable (left right count : Nat) (template : Cell) (r : Row)

/-- A row wrapped around by a scroll and reset: from here on it is a new row. -/
def recycle (cols : Nat) (template : Cell) (r : Row) : Row :=
  { r.reset cols template with tag := none }

@[simp] theorem cols_recycle (cols : Nat) (template : Cell) (r : Row) :
    (r.recycle cols template).cols = cols := cols_reset r cols template

/-- `for col in left..stop { self[col] = src[col].clone() }`. -/
def copyRange (src : Row) (left stop : Nat) (r : Row) : Row :=
  forRange left stop (fun col r => r.modify col fun _ => src.get col) r

/-- `for col in left..stop { f(&mut self[col]) }`. -/
def modifyRange (left stop : Nat) (f : Cell → Cell) (r : Row) : Row :=
  forRange left stop (fun col r => r.modify col f) r

/-- Cells of the band `[left, right]` shifted left by `count`, the vacated ones reset. -/
def shiftLeft : Row :=
  let cells := fun l =>
    mapRange (right + 1 - count) (right + 1) (·.reset template)
      (if count < right + 1 - left then
        forRange left (right - count + 1) (fun col => swap col (col + count)) l
      else l)
  let r := r.mapCells cells
  r.setOcc (min (max r.occ (right + 1)) r.cols)

/-- Cells of the band `[left, right]` shifted right by `count`, the vacated ones reset. -/
def shiftRight : Row :=
  let cells := fun l =>
    mapRange left (left + count) (·.reset template)
      (if count < right + 1 - left then
        forRangeRev (left + count) (right + 1) (fun col => swap col (col - count)) l
      else l)
  let r := r.mapCells cells
  r.setOcc (min (max r.occ (right + 1)) r.cols)

section

variable (start stop : Nat) (i j : Nat → Nat) (l : List Cell)

theorem length_forRange_swap : (forRange start stop (fun k => swap (i k) (j k)) l).length = l.length :=
  forRange_invariant (P := fun l' : List Cell => l'.length = l.length)
    (fun _ _ _ _ h => (length_swap ..).trans h) rfl

theorem length_forRangeRev_swap : (forRangeRev start stop (fun k => swap (i k) (j k)) l).length = l.length :=
  forRangeRev_invariant (P := fun l' : List Cell => l'.length = l.length)
    (fun _ _ _ _ h => (length_swap ..).trans h) rfl

end

theorem shape_copyRange (src : Row) (left stop : Nat) (r : Row) : (copyRange src left stop r).shape = r.shape := by
  exact forRange_invariant (P := fun r' : Row => r'.shape = r.shape)
    (fun _ _ _ _ h => (shape_modify ..).trans h) rfl

theorem shape_modifyRange (left stop : Nat) (f : Cell → Cell) (r : Row) :
    (r.modifyRange left stop f).shape = r.shape := by
  exact forRange_invariant (P := fun r' : Row => r'.shape = r.shape)
    (fun _ _ _ _ h => (shape_modify ..).trans h) rfl

theorem shape_shiftLeft : (r.shiftLeft left right count template).shape = r.shape := by
  refine (shape_setOcc ..).trans (shape_mapCells (fun l => ?_) r)
  rw [length_mapRange]
  split
  · exact length_forRange_swap ..
  · rfl

theorem shape_shiftRight : (r.shiftRight left right count template).shape = r.shape := by
  refine (shape_setOcc ..).trans (shape_mapCells (fun l => ?_) r)
  rw [length_mapRange]
  split
  · exact length_forRangeRev_swap ..
  · rfl

end Row

namespace Grid

variable {start stop : Nat} {rows : List Row}

/-! ## The operations -/

/-- DECSTBM, 1-based. The region must span at least 2 lines. -/
def setScrollRegion (g : Grid) (top : Nat) (bottom : Option Nat) : Grid :=
  let top := max top 1 - 1
  let bottom := bottom.elim g.lines (min · g.lines)
  if top + 1 ≥ bottom then g else { g with regionStart := top, regionEnd := bottom }

/-- Rows `[start, stop)` up by `count`: the top rows rotate to the bottom and are recycled. -/
def scrollRangeUp (g : Grid) (start stop count : Nat) : Grid :=
  let len := stop - start
  if len = 0 then g
  else
    let count := min count len
    if count = 0 then g
    else
      let template := g.bceTemplate
      let rows := rotateRange start stop count g.rows
      markRange { g with rows := mapRange (stop - count) stop (Row.recycle g.cols template) rows }
        start stop

/-- Rows `[start, stop)` down by `count`: the bottom rows rotate to the top and are recycled. -/
def scrollRangeDown (g : Grid) (start stop count : Nat) : Grid :=
  let len := stop - start
  if len = 0 then g
  else
    let count := min count len
    if count = 0 then g
    else
      let template := g.bceTemplate
      let rows := rotateRange start stop (len - count) g.rows
      markRange { g with rows := mapRange start (start + count) (Row.recycle g.cols template) rows }
        start stop

/-- Removes the stale reflow overflow from the new end of the scrollback. -/
def dropStale (g : Grid) : Grid :=
  { g with scrollback := g.scrollback.popMany g.resizePushed, resizePushed := 0 }

/-- Keeps a scrolled-back view stable when `count` rows are about to be pushed. -/
def holdView (g : Grid) (count : Nat) : Grid :=
  if g.displayOffset > 0 then
    let maxAfterPush := min (g.scrollback.len + count) g.scrollback.maxScrollback
    { g with displayOffset := min (g.displayOffset + count) maxAfterPush }
  else g

/-- Moves row `i` into the scrollback and leaves a placeholder, the evicted row if there is one. -/
def evictRow (i : Nat) (g : Grid) : Grid :=
  let p := g.scrollback.push (g.row i)
  match p.2 with
  | some recycled =>
    { g with scrollback := p.1, totalEvicted := g.totalEvicted + 1
             rows := g.rows.set i (recycled.reset g.cols .blank) }
  | none => { g with scrollback := p.1, rows := g.rows.set i (Row.new 0) }

/-- The scroll region covers the screen. -/
def isFullScreen (g : Grid) : Bool := g.regionStart == 0 && g.regionEnd == g.lines

/-- Scrolls the region up by `count` lines. -/
def scrollUp (g : Grid) (count : Nat) : Grid :=
  let len := g.regionEnd - g.regionStart
  if len = 0 then g
  else
    let count := min count len
    let g' := if g.isFullScreen then forRange 0 count evictRow (g.dropStale.holdView count) else g
    g'.scrollRangeUp g.regionStart g.regionEnd count

/-- Scrolls the region down by `count` lines; bottom rows are lost. -/
def scrollDown (g : Grid) (count : Nat) : Grid := g.scrollRangeDown g.regionStart g.regionEnd count

/-- Cells of the band `[left, stop)` up by `count` rows. -/
def scrollPartialUp (g : Grid) (rowStart rowEnd left stop count : Nat) : Grid :=
  let len := rowEnd - rowStart
  if len = 0 ∨ left ≥ stop then g
  else
    let count := min count len
    if count = 0 then g
    else
      let template := g.bceTemplate
      let g := forRange rowStart rowEnd (fun i g => g.fixWideBoundaries i left stop) g
      let g := forRange 0 (len - count) (fun offset g =>
        let dst := rowStart + offset
        g.editRow dst (Row.copyRange (g.row (dst + count)) left stop)) g
      let g := forRange (rowEnd - count) rowEnd (fun i g =>
        g.editRow i (Row.modifyRange left stop (·.reset template))) g
      g.markRange rowStart rowEnd

/-- Cells of the band `[left, stop)` down by `count` rows. -/
def scrollPartialDown (g : Grid) (rowStart rowEnd left stop count : Nat) : Grid :=
  let len := rowEnd - rowStart
  if len = 0 ∨ left ≥ stop then g
  else
    let count := min count len
    if count = 0 then g
    else
      let template := g.bceTemplate
      let g := forRange rowStart rowEnd (fun i g => g.fixWideBoundaries i left stop) g
      let g := forRangeRev 0 (len - count) (fun offset g =>
        let src := rowStart + offset
        g.editRow (src + count) (Row.copyRange (g.row src) left stop)) g
      let g := forRange rowStart (rowStart + count) (fun i g =>
        g.editRow i (Row.modifyRange left stop (·.reset template))) g
      g.markRange rowStart rowEnd

/-- The cursor is inside the scroll region. -/
def cursorInRegion (g : Grid) : Bool := g.cursor.line ≥ g.regionStart && g.cursor.line < g.regionEnd

/-- IL. -/
def insertLines (g : Grid) (count : Nat) : Grid :=
  if !g.cursorInRegion then g
  else if g.hasHorizontalMargins then
    g.scrollPartialDown g.cursor.line g.regionEnd g.leftMargin (g.rightMargin + 1) count
  else g.scrollRangeDown g.cursor.line g.regionEnd count

/-- DL. -/
def deleteLines (g : Grid) (count : Nat) : Grid :=
  if !g.cursorInRegion then g
  else if g.hasHorizontalMargins then
    g.scrollPartialUp g.cursor.line g.regionEnd g.leftMargin (g.rightMargin + 1) count
  else g.scrollRangeUp g.cursor.line g.regionEnd count

/-- The columns the horizontal scrolls act on. -/
def marginBand (g : Grid) : Nat × Nat :=
  if g.hasHorizontalMargins then (g.leftMargin, g.rightMargin) else (0, g.cols - 1)

/-- SL and SR: each row of the region is shifted inside the margin band by `shift`. -/
def scrollColumns (g : Grid) (count : Nat) (shift : Nat → Nat → Nat → Cell → Row → Row) : Grid :=
  if count = 0 then g
  else
    let left := g.marginBand.1
    let right := g.marginBand.2
    let bandWidth := right + 1 - left
    if bandWidth = 0 then g
    else
      let count := min count bandWidth
      let template := g.bceTemplate
      let g' := forRange g.regionStart g.regionEnd (fun i g =>
        (g.fixWideBoundaries i left (right + 1)).editRow i (shift left right count template)) g
      g'.markRange g.regionStart g.regionEnd

/-- SL. -/
def scrollLeft (g : Grid) (count : Nat) : Grid := g.scrollColumns count Row.shiftLeft

/-- SR. -/
def scrollRight (g : Grid) (count : Nat) : Grid := g.scrollColumns count Row.shiftRight

/-! ## Scrolls that leave the history alone -/

/-- The visible rows moved or were edited, all changes are covered, and the history did not move. -/
structure Rolls (g g' : Grid) : Prop extends Repaints nothing g g', HistoryKept g g', BandKept g g' where
  framed : Framed g → Framed g'

variable {g g' g'' : Grid}

theorem Edits.rolls (h : Tracked g g') : Rolls g g' :=
  { h with framed := h.framed }

@[refl] theorem Rolls.refl (g : Grid) : Rolls g g := (Edits.refl nothing g).rolls

/-- New contents for the rows of a range owe that range. -/
theorem repaints_rows (h : ∀ i, i < start ∨ stop ≤ i → rows[i]? = g.rows[i]?) :
    Repaints (fun i _ => start ≤ i ∧ i < stop) g { g with rows := rows } := by
  refine ⟨rfl, rfl, .refl _, ?_⟩
  intro line col _ _ hne
  left
  by_contra hout
  apply hne
  unfold cellAt?
  rw [h line (by omega)]

/-- Recycling rows of a rotated range keeps the frame. -/
theorem framed_recycle {a b k : Nat} {template : Cell} (hg : Framed g) :
    Framed { g with rows := mapRange a b (Row.recycle g.cols template) (rotateRange start stop k g.rows) } := by
  refine ⟨by simp [hg.rows], ?_, hg.dirtyLines, hg.dirtyCols⟩
  intro r hr
  rcases mem_mapRange hr with hmem | ⟨r₀, _, rfl⟩
  · exact hg.width r ((perm_rotateRange ..).mem_iff.mp hmem)
  · exact Row.cols_recycle ..

/-- Positions outside the rotated range keep their rows. -/
theorem getElem?_recycle {a b k i : Nat} {cols : Nat} {template : Cell} (rows : List Row)
    (ha : start ≤ a) (hb : b ≤ stop) (h : i < start ∨ stop ≤ i) :
    (mapRange a b (Row.recycle cols template) (rotateRange start stop k rows))[i]? = rows[i]? := by
  rw [getElem?_mapRange, getElem?_rotateRange k rows h]
  have hout : ¬ (a ≤ i ∧ i < b) := by omega
  simp [if_neg hout]

theorem framed_markRange (start stop : Nat) (hg : Framed g) : Framed (g.markRange start stop) := by
  have hgrow := DirtyTracker.grows_markRange g.dirty start stop
  exact ⟨hg.rows, hg.width, hgrow.lines.trans hg.dirtyLines, hgrow.cols.trans hg.dirtyCols⟩

/-- A scroll of whole rows, in either direction: nothing, or a rotation of the range that recycles some of its rows. -/
theorem scrollRange_induction {P : Grid → Prop} (start stop count : Nat) (h : P g)
    (hrecycle : ∀ a b k, start ≤ a → b ≤ stop → P (markRange { g with
      rows := mapRange a b (Row.recycle g.cols g.bceTemplate) (rotateRange start stop k g.rows) } start stop)) :
    P (g.scrollRangeUp start stop count) ∧ P (g.scrollRangeDown start stop count) := by
  unfold scrollRangeUp scrollRangeDown
  dsimp only
  split
  · exact ⟨h, h⟩
  · split
    · exact ⟨h, h⟩
    · exact ⟨hrecycle _ _ _ (by omega) (Nat.le_refl _), hrecycle _ _ _ (Nat.le_refl _) (by omega)⟩

theorem rolls_scrollRange (g : Grid) (start stop count : Nat) :
    Rolls g (g.scrollRangeUp start stop count) ∧ Rolls g (g.scrollRangeDown start stop count) := by
  refine scrollRange_induction start stop count (.refl g) fun a b k ha hb => ?_
  refine { toRepaints := ?_, toHistoryKept := ⟨rfl, rfl, rfl, rfl⟩, toBandKept := ⟨⟨rfl, rfl⟩, ⟨rfl, rfl⟩⟩
           framed := fun hg => framed_markRange start stop (framed_recycle hg) }
  exact (repaints_rows fun i hi => getElem?_recycle g.rows ha hb hi).markRange start stop fun _ _ h => h

/-- Cells of a band, in either direction: the edges of the band are cleaned up, cells are copied or reset row by row,
    and the rows are marked. -/
theorem scrollPartial_induction {P Q : Grid → Prop} {rowStart rowEnd left stop : Nat} (count : Nat) (h : Q g) (h₀ : P g)
    (hfix : ∀ i x, rowStart ≤ i → i < rowEnd → P x → P (x.fixWideBoundaries i left stop))
    (hcopy : ∀ i src x, rowStart ≤ i → i < rowEnd → P x → P (x.editRow i (Row.copyRange src left stop)))
    (hreset : ∀ i x, rowStart ≤ i → i < rowEnd → P x →
      P (x.editRow i (Row.modifyRange left stop (·.reset g.bceTemplate))))
    (hmark : ∀ x, P x → Q (x.markRange rowStart rowEnd)) :
    Q (g.scrollPartialUp rowStart rowEnd left stop count) ∧ Q (g.scrollPartialDown rowStart rowEnd left stop count) := by
  unfold scrollPartialUp scrollPartialDown
  dsimp only
  split
  · exact ⟨h, h⟩
  · split
    · exact ⟨h, h⟩
    · have hfixed := forRange_invariant hfix h₀
      refine ⟨hmark _ ?_, hmark _ ?_⟩
      · refine forRange_invariant (fun i x _ he hx => hreset i x (by omega) he hx) ?_
        exact forRange_invariant (fun _ x _ _ hx => hcopy _ _ x (by omega) (by omega) hx) hfixed
      · refine forRange_invariant (fun i x hs _ hx => hreset i x hs (by omega) hx) ?_
        exact forRangeRev_invariant (fun _ x _ _ hx => hcopy _ _ x (by omega) (by omega) hx) hfixed

/-- An edit of a row of the range, for any grid reached from `g` by edits in the range. -/
theorem Edits.editRow_in {i : Nat} {f : Row → Row}
    (h : Edits (fun i _ => start ≤ i ∧ i < stop) g g') (hs : start ≤ i) (he : i < stop)
    (hf : ∀ r, (f r).shape = r.shape) :
    Edits (fun i _ => start ≤ i ∧ i < stop) g (g'.editRow i f) :=
  h.trans (edits_editRow g' i f (fun r _ => hf r) fun _ _ _ _ => ⟨hs, he⟩)

theorem tracked_scrollPartial (g : Grid) (rowStart rowEnd left stop count : Nat) :
    Tracked g (g.scrollPartialUp rowStart rowEnd left stop count) ∧
      Tracked g (g.scrollPartialDown rowStart rowEnd left stop count) :=
  scrollPartial_induction (P := Edits (fun i _ => rowStart ≤ i ∧ i < rowEnd) g) count (.refl _ g) (.refl _ g)
    (fun i x _ _ hx => hx.trans (tracked_fixWideBoundaries x i left stop).edits)
    (fun _ src _ hs he hx => hx.editRow_in hs he (Row.shape_copyRange src left stop))
    (fun _ _ hs he hx => hx.editRow_in hs he (Row.shape_modifyRange left stop _))
    fun _ hx => hx.markRange rowStart rowEnd fun _ _ h => h

section

variable (g : Grid) (count : Nat)

theorem tracked_scrollColumns {shift : Nat → Nat → Nat → Cell → Row → Row}
    (hshift : ∀ left right count template r, (shift left right count template r).shape = r.shape) :
    Tracked g (g.scrollColumns count shift) := by
  unfold scrollColumns
  split
  · exact .refl _ g
  · dsimp only
    split
    · exact .refl _ g
    · refine Edits.markRange _ _ ?_ fun _ _ h => h
      refine forRange_invariant (fun i g' hs he h => ?_) (.refl _ g)
      exact (h.trans (tracked_fixWideBoundaries g' i _ _).edits).editRow_in hs he (hshift _ _ _ _)

theorem rolls_insertLines : Rolls g (g.insertLines count) := by
  unfold insertLines
  split
  · exact .refl g
  · split
    · exact (tracked_scrollPartial ..).2.rolls
    · exact (rolls_scrollRange ..).2

theorem rolls_deleteLines : Rolls g (g.deleteLines count) := by
  unfold deleteLines
  split
  · exact .refl g
  · split
    · exact (tracked_scrollPartial ..).1.rolls
    · exact (rolls_scrollRange ..).1

theorem rolls_scrollDown : Rolls g (g.scrollDown count) :=
  (rolls_scrollRange ..).2

end

/-! ## Full-screen scrolls and the history -/

/-- All rows, oldest scrollback row first. -/
def history (g : Grid) : List Row := g.scrollback.rows ++ g.rows

theorem row_eq {i : Nat} {r : Row} (h : g.rows[i]? = some r) : g.row i = r := by
  simp [row, h]

/-- Replacing the element after a prefix. -/
theorem set_append_drop {ph : List Row} (h : ph.length < rows.length) (r : Row) :
    (ph ++ rows.drop ph.length).set ph.length r = (ph ++ [r]) ++ rows.drop (ph.length + 1) := by
  rw [List.drop_eq_getElem_cons h, List.set_append_right _ _ (Nat.le_refl _), Nat.sub_self,
    List.set_cons_zero, List.append_assoc, List.singleton_append]

/-- One eviction: the row is pushed, and some placeholder takes its place. -/
theorem evictRow_eq {i : Nat} {r : Row} (h : g.rows[i]? = some r) :
    ∃ r' : Row, evictRow i g =
      { g with scrollback := (g.scrollback.push r).1
               totalEvicted := g.totalEvicted + if (g.scrollback.push r).2.isSome then 1 else 0
               rows := g.rows.set i r' } := by
  unfold evictRow
  rw [row_eq h]
  cases hout : (g.scrollback.push r).2 with
  | none => exact ⟨Row.new 0, by simp [hout]⟩
  | some recycled => exact ⟨recycled.reset g.cols .blank, by simp [hout]⟩

/-- The eviction loop pushes the first `k` rows in order and leaves `k` placeholders. -/
theorem evictRows_eq (g : Grid) {k : Nat} (hk : k ≤ g.rows.length) :
    ∃ ph : List Row, ph.length = k ∧ forRange 0 k evictRow g =
      { g with scrollback := (g.scrollback.pushAll (g.rows.take k)).1
               totalEvicted := g.totalEvicted + (g.scrollback.pushAll (g.rows.take k)).2
               rows := ph ++ g.rows.drop k } := by
  induction k with
  | zero => exact ⟨[], rfl, by simp [ScrollbackBuffer.pushAll]⟩
  | succ k ih =>
    obtain ⟨ph, rfl, heq⟩ := ih (by omega)
    have hlt : ph.length < g.rows.length := hk
    rw [forRange_succ _ _ (Nat.zero_le _), heq, ← List.take_concat_get' _ _ hlt,
      ScrollbackBuffer.pushAll_concat]
    have hrow : (ph ++ g.rows.drop ph.length)[ph.length]? = some g.rows[ph.length] := by
      rw [List.getElem?_append_right (Nat.le_refl _), Nat.sub_self, List.getElem?_drop, Nat.add_zero,
        List.getElem?_eq_getElem hlt]
    obtain ⟨r', hr'⟩ := evictRow_eq (g := { g with
      scrollback := (g.scrollback.pushAll (g.rows.take ph.length)).1
      totalEvicted := g.totalEvicted + (g.scrollback.pushAll (g.rows.take ph.length)).2
      rows := ph ++ g.rows.drop ph.length }) hrow
    refine ⟨ph ++ [r'], by simp, ?_⟩
    rw [hr']
    rw [set_append_drop hlt]
    congr 1
    split <;> rfl

/-- The scrollback of a full-screen scroll before the push: the stale overflow is gone. -/
def freshScrollback (g : Grid) : ScrollbackBuffer := g.scrollback.popMany g.resizePushed

theorem holdView_eq (g : Grid) (count : Nat) :
    ∃ offset, g.holdView count = { g with displayOffset := offset } ∧ (g.displayOffset = 0 → offset = 0) := by
  unfold holdView
  split
  · exact ⟨_, rfl, by omega⟩
  · exact ⟨g.displayOffset, rfl, id⟩

/-- What a full-screen `scrollUp` by `count` leaves behind. -/
structure ScrolledUp (g g' : Grid) (count : Nat) (fresh : List Row) : Prop where
  lines : g'.lines = g.lines
  cols : g'.cols = g.cols
  band : BandKept g g'
  rows : g'.rows = g.rows.drop count ++ fresh
  length_fresh : fresh.length = count
  fresh_new : ∀ r ∈ fresh, r.cols = g.cols ∧ r.tag = none
  scrollback : g'.scrollback = (g.freshScrollback.pushAll (g.rows.take count)).1
  totalEvicted : g'.totalEvicted = g.totalEvicted + (g.freshScrollback.pushAll (g.rows.take count)).2
  resizePushed : g'.resizePushed = 0
  live : g.displayOffset = 0 → g'.displayOffset = 0
  dirty : g'.dirty = if count = 0 then g.dirty else g.dirty.markRange 0 g.lines

/-- **A full-screen scroll** moves the top rows into the scrollback and appends fresh rows at the bottom. -/
theorem scrollUp_fullScreen (g : Grid) (count : Nat) (hg : Framed g) (hfull : g.isFullScreen = true)
    (hlines : 0 < g.lines) :
    ∃ fresh, ScrolledUp g (g.scrollUp count) (min count g.lines) fresh := by
  have hregion : g.regionStart = 0 ∧ g.regionEnd = g.lines := by simpa [isFullScreen] using hfull
  have hc : min count g.lines ≤ g.rows.length := by rw [hg.rows]; omega
  obtain ⟨offset, hview, hlive⟩ := holdView_eq g.dropStale (min count g.lines)
  obtain ⟨ph, hph, heq⟩ :=
    evictRows_eq { g.dropStale with displayOffset := offset } hc
  unfold scrollUp
  dsimp only
  rw [hregion.1, hregion.2, Nat.sub_zero, if_neg (by omega), if_pos hfull, hview, heq]
  unfold scrollRangeUp
  rw [if_neg (by omega), Nat.sub_zero, Nat.min_eq_left (Nat.min_le_right ..)]
  by_cases h0 : min count g.lines = 0
  · rw [if_pos h0]
    have hnil : ph = [] := List.length_eq_zero_iff.mp (hph.trans h0)
    exact ⟨[], { lines := rfl, cols := rfl, band := ⟨⟨rfl, rfl⟩, ⟨rfl, rfl⟩⟩
                 rows := by simp [dropStale, hnil], length_fresh := h0.symm
                 fresh_new := by simp, scrollback := rfl, totalEvicted := rfl, resizePushed := rfl, live := hlive
                 dirty := by rw [if_pos h0]; rfl }⟩
  · rw [if_neg h0]
    have hlen : (ph ++ g.rows.drop (min count g.lines)).length = g.lines := by
      rw [List.length_append, List.length_drop, hg.rows]
      omega
    refine ⟨ph.map (Row.recycle g.cols g.bceTemplate), ?_⟩
    refine { lines := rfl, cols := rfl, band := ⟨⟨rfl, rfl⟩, ⟨rfl, rfl⟩⟩, rows := ?_
             length_fresh := by simp [hph], fresh_new := ?_
             scrollback := rfl, totalEvicted := rfl, resizePushed := rfl, live := hlive
             dirty := by rw [if_neg h0]; rfl }
    · have hrot : rotateRange 0 g.lines (min count g.lines) (ph ++ g.rows.drop (min count g.lines))
          = g.rows.drop (min count g.lines) ++ ph := by
        have h := rotateRange_append ph (g.rows.drop (min count g.lines))
        rw [hlen, hph] at h
        exact h
      have hmap := mapRange_append (Row.recycle g.cols g.bceTemplate) (g.rows.drop (min count g.lines)) ph
      have hlen' : (g.rows.drop (min count g.lines) ++ ph).length = g.lines := by
        rw [List.length_append, Nat.add_comm, ← List.length_append, hlen]
      rw [hlen', List.length_drop, hg.rows] at hmap
      show mapRange (g.lines - min count g.lines) g.lines (Row.recycle g.cols g.bceTemplate)
        (rotateRange 0 g.lines (min count g.lines) (ph ++ g.rows.drop (min count g.lines))) = _
      rw [hrot, hmap]
    · intro r hr
      obtain ⟨r₀, _, rfl⟩ := List.mem_map.mp hr
      exact ⟨Row.cols_recycle .., rfl⟩

/-- A scroll that does not cover the screen leaves the history alone. -/
theorem rolls_scrollUp (g : Grid) (count : Nat) (h : g.isFullScreen = false) : Rolls g (g.scrollUp count) := by
  unfold scrollUp
  dsimp only
  split
  · exact .refl g
  · rw [if_neg (by simp [h])]
    exact (rolls_scrollRange ..).1

variable {count : Nat} {fresh : List Row}

/-- Every row of the scrollback has the width of the grid. -/
def HistoryUniform (g : Grid) : Prop := ∀ r ∈ g.scrollback.rows, r.cols = g.cols

/-- **Scrolled.** The frame, the bounds, uniform widths and the live view are kept and the changes are covered
    or lie in `S`; the history may have moved. -/
structure Scrolls (S : Nat → Nat → Prop) (g g' : Grid) : Prop extends Repaints S g g', BandKept g g' where
  framed : Framed g'
  uniform : HistoryUniform g → HistoryUniform g'
  live : g.displayOffset = 0 → g'.displayOffset = 0

variable {S S' : Nat → Nat → Prop}

theorem Scrolls.refl (hg : Framed g) : Scrolls S g g :=
  { toRepaints := .refl _ g, toBandKept := .refl g, framed := hg, uniform := id, live := id }

theorem Scrolls.trans (h : Scrolls S g g') (h' : Scrolls S g' g'') : Scrolls S g g'' :=
  { toRepaints := h.toRepaints.trans h'.toRepaints, toBandKept := h.toBandKept.trans h'.toBandKept
    framed := h'.framed, uniform := h'.uniform ∘ h.uniform, live := h'.live ∘ h.live }

theorem Scrolls.mono (hS : ∀ line col, S line col → S' line col) (h : Scrolls S g g') : Scrolls S' g g' :=
  { h with toRepaints := h.toRepaints.mono hS }

theorem HistoryKept.live (h : HistoryKept g g') (h0 : g.displayOffset = 0) : g'.displayOffset = 0 :=
  h.displayOffset.trans h0

theorem HistoryKept.uniform (h : HistoryKept g g') (hc : g'.cols = g.cols) (hu : HistoryUniform g) :
    HistoryUniform g' := by
  intro r hr
  rw [h.scrollback] at hr
  rw [hu r hr, hc]

theorem Edits.scrolls (h : Edits S g g') (hg : Framed g) : Scrolls S g g' :=
  { h with framed := h.framed hg, uniform := h.toHistoryKept.uniform h.cols, live := h.toHistoryKept.live }

theorem Rolls.scrolls (h : Rolls g g') (hg : Framed g) : Scrolls S g g' :=
  { toRepaints := h.toRepaints.mono fun _ _ hf => hf.elim, toBandKept := h.toBandKept, framed := h.framed hg
    uniform := h.toHistoryKept.uniform h.cols, live := h.toHistoryKept.live }

/-- What is pushed was there or comes from the pushed rows. -/
theorem mem_pushAll {sb : ScrollbackBuffer} {r : Row} (h : r ∈ (sb.pushAll rows).1.rows) :
    r ∈ sb.rows ∨ r ∈ rows := by
  rw [(sb.rows_pushAll rows).1] at h
  exact List.mem_append.mp (List.mem_of_mem_drop h)

/-- What is left after the stale rows are dropped was there before. -/
theorem mem_freshScrollback {r : Row} (h : r ∈ g.freshScrollback.rows) : r ∈ g.scrollback.rows := by
  unfold freshScrollback at h
  rw [ScrollbackBuffer.rows_popMany] at h
  exact List.mem_of_mem_take h

theorem ScrolledUp.scrolls (h : ScrolledUp g g' count fresh) (hg : Framed g) (hc : count ≤ g.lines) :
    Scrolls S g g' := by
  have hgrow : g.dirty.Grows g'.dirty := by
    rw [h.dirty]
    split
    · exact .refl _
    · exact DirtyTracker.grows_markRange ..
  refine { lines := h.lines, cols := h.cols, dirty := hgrow, cells := ?_, toBandKept := h.band
           framed := ⟨?_, ?_, hgrow.lines.trans (hg.dirtyLines.trans h.lines.symm),
             hgrow.cols.trans (hg.dirtyCols.trans h.cols.symm)⟩
           uniform := ?_, live := h.live }
  · intro line col hl hcol hne
    by_cases h0 : count = 0
    · have hrows : g'.rows = g.rows := by
        have hf : fresh = [] := List.length_eq_zero_iff.mp (h.length_fresh.trans h0)
        rw [h.rows, hf, h0]
        simp
      unfold cellAt? at hne
      rw [hrows] at hne
      exact absurd rfl hne
    · right
      rw [h.dirty, if_neg h0]
      exact DirtyTracker.covers_markRange hl (Nat.zero_le _) (by rw [← hg.dirtyLines]; exact hl) hcol
  · rw [h.rows, List.length_append, List.length_drop, h.length_fresh, hg.rows, h.lines]
    omega
  · intro r hr
    rw [h.rows] at hr
    rw [h.cols]
    rcases List.mem_append.mp hr with hold | hnew
    · exact hg.width r (List.mem_of_mem_drop hold)
    · exact (h.fresh_new r hnew).1
  · intro hu r hr
    rw [h.scrollback] at hr
    rw [h.cols]
    rcases mem_pushAll hr with hold | hnew
    · exact hu r (mem_freshScrollback hold)
    · exact hg.width r (List.mem_of_mem_take hnew)

/-- A scroll of an empty region does nothing. -/
theorem scrollUp_empty (h : g.regionEnd - g.regionStart = 0) (count : Nat) : g.scrollUp count = g := by
  exact if_pos h

theorem scrolls_scrollUp (count : Nat) (hg : Framed g) : Scrolls S g (g.scrollUp count) := by
  by_cases hfull : g.isFullScreen = true
  · rcases Nat.eq_zero_or_pos g.lines with h0 | hpos
    · have hregion : g.regionStart = 0 ∧ g.regionEnd = g.lines := by simpa [isFullScreen] using hfull
      rw [scrollUp_empty (by omega)]
      exact .refl hg
    · obtain ⟨fresh, h⟩ := scrollUp_fullScreen g count hg hfull hpos
      exact h.scrolls hg (Nat.min_le_right ..)
  · exact (rolls_scrollUp g count (by simpa using hfull)).scrolls hg

/-- **The history of a full-screen scroll.** Once the stale overflow is dropped, rows leave at the old end
    only, as many as `totalEvicted` counts, and fresh rows are appended at the new end. -/
theorem ScrolledUp.history (h : ScrolledUp g g' count fresh) :
    ∃ evicted, g'.history = (g.freshScrollback.rows ++ g.rows).drop evicted ++ fresh
      ∧ g'.totalEvicted = g.totalEvicted + evicted
      ∧ evicted ≤ (g.freshScrollback.rows ++ g.rows).length := by
  obtain ⟨hrows, _, hle⟩ := g.freshScrollback.rows_pushAll (g.rows.take count)
  refine ⟨_, ?_, h.totalEvicted, ?_⟩
  · have hle' : (g.freshScrollback.pushAll (g.rows.take count)).2
        ≤ (g.freshScrollback.rows ++ g.rows.take count).length := by
      rw [List.length_append, ScrollbackBuffer.length_rows]
      exact hle
    unfold Grid.history
    rw [h.scrollback, hrows, h.rows, ← List.append_assoc, ← List.drop_append_of_le_length hle', List.append_assoc,
      List.take_append_drop]
  · rw [List.length_append, ScrollbackBuffer.length_rows]
    rw [List.length_take] at hle
    omega

end Grid

end OriTerm
