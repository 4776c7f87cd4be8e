import OriTerm.Core.WideErase

/-!
# `Core.CopyRect` — DECCRA as a copy

A copy of a rectangle is true (`Copies`) when every destination cell has the value of its source cell before the copy,
when outside the destination only the other halves of what its edges cut are changed, and when every row still has whole
wide characters only.

The values are always right, whichever way source and destination overlap: the source is read before anything is
written. The edges of the destination are cleaned up. What `copyRect` does not look at is the edges of the source: a
character they cut arrives as a half. **`copies_iff`**: a copy is true exactly when the source, clipped as the
destination is, cuts no character (`CopiesWhole`).
-/

namespace OriTerm

open Lib Lib.Bitflags List

/-! ## In one row -/

namespace Row

variable {r : Row} {cols left right : Nat}

/-- What DECCRA does to a row: the edges are cleaned up, then the columns `left ..= right` take the cells given. -/
def copySpan (cols left right : Nat) (cells : Nat → Cell) (r : Row) : Row :=
  (forRange left (right + 1) (fun col r => r.modify col fun _ => cells (col - left))
    (r.clearEdges cols left right)).raiseOcc (right + 1)

variable (hp : r.WidePaired) (hr : r.cols = cols) (hle : left ≤ right) (hright : right < cols)
include hp hr hle hright

/-- The cells after a copy. -/
theorem get_copySpan (cells : Nat → Cell) (c : Nat) : (r.copySpan cols left right cells).get c =
      if left ≤ c ∧ c < right + 1 then cells (c - left) else (r.fixWide cols left (right + 1)).get c := by
  have hget : (r.copySpan cols left right cells).get c = (forRange left (right + 1)
      (fun col r => r.modify col fun _ => cells (col - left)) (r.clearEdges cols left right)).get c :=
    get_congr (inner_raiseOcc ..) c
  have hcols := cols_clearEdges cols left right r
  rw [hget, get_forRange_modify]
  by_cases hin : left ≤ c ∧ c < right + 1
  · rw [if_pos ⟨hin, by omega⟩, if_pos hin]
  · rw [if_neg fun h => hin h.1, if_neg hin, get_clearEdges hp hr hle hright c hin]

/-- **The row keeps whole characters** exactly when the columns of the source that it takes cut none. -/
theorem WidePaired.copySpan_iff {src : Row} (hsrc : src.WidePaired) (srcLeft : Nat) :
    (r.copySpan cols left right fun c => src.get (srcLeft + c)).WidePaired ↔
      src.halves.right srcLeft = false ∧ src.halves.left (srcLeft + (right - left)) = false := by
  have hget := get_copySpan hp hr hle hright fun c => src.get (srcLeft + c)
  have hlt : left < right + 1 := Nat.lt_succ_of_le hle
  unfold WidePaired
  rw [halves_of_get hp hr hlt
    (m := ⟨fun c => src.halves.left (srcLeft + (c - left)), fun c => src.halves.right (srcLeft + (c - left))⟩)
    (fun c hc => by rw [hget, if_neg hc]) fun c hs he => ?_, Halves.Paired.splice_iff hp hlt]
  · constructor
    · intro hw
      have hstart := hw.start
      have hstop := hw.stop
      dsimp only at hstart hstop
      rw [Nat.sub_self] at hstart
      exact ⟨hstart, hstop⟩
    · rintro ⟨hstart, hstop⟩
      refine ⟨?_, ?_, fun c hs he => ?_⟩
      · dsimp only
        rw [Nat.sub_self]
        exact hstart
      · exact hstop
      · have hnext : srcLeft + (c + 1 - left) = srcLeft + (c - left) + 1 := by omega
        dsimp only
        rw [hnext]
        exact hsrc.next _
  · unfold halves
    dsimp only
    rw [hget, if_pos ⟨hs, he⟩]
    exact ⟨rfl, rfl⟩

end Row

/-! ## In the grid -/

namespace Grid

variable {g g' : Grid} {src : RectArea} {dstTop dstLeft : Nat}

/-- The last line of the destination, clipped to the screen. -/
def dstBot (g : Grid) (src : RectArea) (dstTop : Nat) : Nat := min (dstTop + (src.bot - src.top + 1) - 1) (g.lines - 1)

/-- The last column of the destination, clipped to the screen. -/
def dstRight (g : Grid) (src : RectArea) (dstLeft : Nat) : Nat :=
  min (dstLeft + (src.right - src.left + 1) - 1) (g.cols - 1)

/-- The destination. -/
def dstArea (g : Grid) (src : RectArea) (dstTop dstLeft : Nat) : RectArea :=
  ⟨dstTop, dstLeft, g.dstBot src dstTop, g.dstRight src dstLeft⟩

/-- **A true copy**: the destination has the source's cells, outside it only the other halves of cut characters changed,
    and there is no half character anywhere. -/
structure Copies (g : Grid) (src : RectArea) (dstTop dstLeft : Nat) (g' : Grid) : Prop where
  copied : ∀ i c, i ≤ g.dstBot src dstTop - dstTop → c ≤ g.dstRight src dstLeft - dstLeft →
    g'.cell (dstTop + i) (dstLeft + c) = g.cell (src.top + i) (src.left + c)
  frame : ∀ line col, ¬ areaRegion (g.dstArea src dstTop dstLeft) line col → g'.cell line col ≠ g.cell line col →
    ∃ p, areaRegion (g.dstArea src dstTop dstLeft) line p ∧ (g.row line).OtherHalf col p
  history : g'.scrollback = g.scrollback
  paired : g'.WidePaired

/-- The columns copied cut no character of the source. -/
def CopiesWhole (g : Grid) (src : RectArea) (dstTop dstLeft : Nat) : Prop :=
  ∀ i < g.dstBot src dstTop + 1 - dstTop,
    (g.row (src.top + i)).halves.right src.left = false ∧
      (g.row (src.top + i)).halves.left (src.left + (g.dstRight src dstLeft - dstLeft)) = false

instance (g : Grid) (src : RectArea) (dstTop dstLeft : Nat) : Decidable (g.CopiesWhole src dstTop dstLeft) := by
  unfold CopiesWhole
  infer_instance

/-- Row `dstTop + i` takes its cells from row `src.top + i` as it was. -/
theorem editsRows_copyRect (g : Grid) (src : RectArea) (dstTop dstLeft : Nat) :
    EditsRows (fun i r => if dstTop ≤ i ∧ i < dstTop + (g.dstBot src dstTop - dstTop + 1)
        then r.copySpan g.cols dstLeft (g.dstRight src dstLeft) fun c => g.cell (src.top + (i - dstTop)) (src.left + c)
        else r) g (g.copyRect src dstTop dstLeft) := by
  refine forRange_induction (P := fun k x => EditsRows (fun i r =>
    if dstTop ≤ i ∧ i < dstTop + k
    then r.copySpan g.cols dstLeft (g.dstRight src dstLeft) fun c => g.cell (src.top + (i - dstTop)) (src.left + c)
    else r) g x) (Nat.zero_le _) (fun k x _ _ hx => ?_) ?_
  · have hedges := editsRows_clearEdges x (dstTop + k) dstLeft (g.dstRight src dstLeft)
    rw [hx.cols] at hedges
    have hrow := (hedges.editRow fun row => (forRange dstLeft (g.dstRight src dstLeft + 1) (fun col row =>
      row.modify col fun _ => g.cell (src.top + k) (src.left + (col - dstLeft))) row).raiseOcc
        (g.dstRight src dstLeft + 1)).markCols (dstTop + k) dstLeft (g.dstRight src dstLeft)
    refine (hx.trans hrow).congr fun i r _ => ?_
    unfold atLine
    by_cases hi : i = dstTop + k
    · subst hi
      have hk : dstTop + k - dstTop = k := Nat.add_sub_cancel_left ..
      rw [if_pos rfl, if_neg (by omega), if_pos (by omega), hk]
      rfl
    · have hiff : (dstTop ≤ i ∧ i < dstTop + k) ↔ (dstTop ≤ i ∧ i < dstTop + (k + 1)) := by omega
      rw [if_neg hi]
      simp [hiff]
  · refine (EditsRows.refl g).congr fun i r _ => ?_
    rw [if_neg (by omega)]

/-- The destination lies on the screen. -/
theorem dstArea_inRange (_ : g.InRange src) (htop : dstTop < g.lines) (hleft : dstLeft < g.cols) :
    g.InRange (g.dstArea src dstTop dstLeft) := by
  unfold dstArea dstBot dstRight InRange
  dsimp only
  omega

/-- **DECCRA is a true copy exactly when it cuts no character of the source.** -/
theorem copies_iff (hg : Framed g) (hp : g.WidePaired) (hsrc : g.InRange src) (htop : dstTop < g.lines)
    (hleft : dstLeft < g.cols) :
    g.Copies src dstTop dstLeft (g.copyRect src dstTop dstLeft) ↔ g.CopiesWhole src dstTop dstLeft := by
  have hedit := editsRows_copyRect g src dstTop dstLeft
  obtain ⟨⟨htb, hbot⟩, hlr, hright⟩ := dstArea_inRange hsrc htop hleft
  dsimp only [dstArea] at htb hbot hlr hright
  obtain ⟨⟨hstb, hsbot⟩, hslr, hsright⟩ := hsrc
  have hheight : g.dstBot src dstTop - dstTop ≤ src.bot - src.top := by
    unfold dstBot
    omega
  have hcell : ∀ line, line < g.lines → (g.copyRect src dstTop dstLeft).row line =
      if dstTop ≤ line ∧ line < dstTop + (g.dstBot src dstTop - dstTop + 1)
      then (g.row line).copySpan g.cols dstLeft (g.dstRight src dstLeft)
        fun c => g.cell (src.top + (line - dstTop)) (src.left + c)
      else g.row line := by
    intro line hline
    have hrow := hedit.row (getElem?_row (hg.rows ▸ hline))
    exact row_eq hrow
  have hget : ∀ line (hline : line < g.lines), dstTop ≤ line → line ≤ g.dstBot src dstTop → ∀ c,
      (g.copyRect src dstTop dstLeft).cell line c =
        if dstLeft ≤ c ∧ c < g.dstRight src dstLeft + 1
        then g.cell (src.top + (line - dstTop)) (src.left + (c - dstLeft))
        else ((g.row line).fixWide g.cols dstLeft (g.dstRight src dstLeft + 1)).get c := by
    intro line hline hs he c
    unfold cell
    rw [hcell line hline, if_pos ⟨hs, by omega⟩,
      Row.get_copySpan (hp.row (hg.rows ▸ hline)) (hg.cols_row (hg.rows ▸ hline)) hlr hright]
    rfl
  have hpaired : (g.copyRect src dstTop dstLeft).WidePaired ↔ g.CopiesWhole src dstTop dstLeft := by
    have hspan := fun line (hline : line < g.rows.length) i (hi : src.top + i < g.rows.length) =>
      (hp.row hline).copySpan_iff (hg.cols_row hline) hlr hright (hp.row hi) src.left
    rw [hedit.widePaired_iff hp]
    constructor
    · intro hall i hi
      have hline : dstTop + i < g.rows.length := by
        rw [hg.rows]
        omega
      have hsrcLine : src.top + i < g.rows.length := by
        rw [hg.rows]
        omega
      have hrow := hall (dstTop + i) _ (getElem?_row hline)
      rw [if_pos ⟨by omega, by omega⟩, Nat.add_sub_cancel_left] at hrow
      exact (hspan _ hline i hsrcLine).mp hrow
    · intro hwhole line r hr
      have hline := (List.getElem?_eq_some_iff.mp hr).1
      split
      · next hin =>
        have hsrcLine : src.top + (line - dstTop) < g.rows.length := by
          rw [hg.rows]
          omega
        rw [← row_eq hr]
        exact (hspan line hline _ hsrcLine).mpr (hwhole _ (by omega))
      · exact hp.rows r (mem_of_getElem? hr)
  refine ⟨fun h => hpaired.mp h.paired, fun h => ⟨fun i c hi hc => ?_, fun line col hout hne => ?_, ?_, hpaired.mpr h⟩⟩
  · rw [hget (dstTop + i) (by omega) (by omega) (by omega), if_pos ⟨by omega, by omega⟩, Nat.add_sub_cancel_left,
      Nat.add_sub_cancel_left]
  · by_cases hin : dstTop ≤ line ∧ line ≤ g.dstBot src dstTop
    · have hline : line < g.lines := by omega
      have hcol : ¬ (dstLeft ≤ col ∧ col < g.dstRight src dstLeft + 1) :=
        fun hc => hout ⟨hin, hc.1, Nat.le_of_lt_succ hc.2⟩
      have hrows : line < g.rows.length := hg.rows ▸ hline
      rw [hget line hline hin.1 hin.2, if_neg hcol] at hne
      obtain ⟨p, hspan, hother⟩ := Row.frame_of_get (hp.row hrows) (hg.cols_row hrows) (Nat.lt_succ_of_le hlr)
        (fun _ _ => rfl) col hcol hne
      exact ⟨p, ⟨hin, hspan.1, Nat.le_of_lt_succ hspan.2⟩, hother⟩
    · refine absurd ?_ hne
      unfold cell
      by_cases hline : line < g.lines
      · rw [hcell line hline, if_neg (by omega)]
      · have hnone : g.rows[line]? = none := getElem?_eq_none (by rw [hg.rows]; omega)
        have hnone' : (g.copyRect src dstTop dstLeft).rows[line]? = none := by
          rw [hedit.rows, hnone]
          rfl
        unfold row
        rw [getD_eq_getElem?_getD, getD_eq_getElem?_getD, hnone, hnone']
  · exact hedit.scrollback

/-- A wide character and two narrow ones on a line. -/
def wideLine : Grid := run GridOp.apply (withScrollback 1 6 0) [.putChar 2 'あ', .putChar 1 'b', .putChar 1 'c']

theorem wf_wideLine : wideLine.Wf := (bounded_along (by decide) (by decide) (by decide)).toWf

/-- Copying the character to the right, over the narrow ones that it overlaps. -/
theorem copies_wideLine : wideLine.Copies ⟨0, 0, 0, 2⟩ 0 2 (wideLine.copyRect ⟨0, 0, 0, 2⟩ 0 2) :=
  (copies_iff wf_wideLine.toFramed (by decide) (by decide) (by decide) (by decide)).mpr (by decide)

/-- **Copying its spacer only** leaves a spacer without its character. -/
theorem copyRect_copies_half :
    ¬ ∀ (g : Grid) (src : RectArea) (dstTop dstLeft : Nat), g.Wf → g.WidePaired → g.InRange src → dstTop < g.lines →
      dstLeft < g.cols → g.Copies src dstTop dstLeft (g.copyRect src dstTop dstLeft) := by
  intro h
  have hcopies := h wideLine ⟨0, 1, 0, 2⟩ 0 4 wf_wideLine (by decide) (by decide) (by decide) (by decide)
  have hpaired := hcopies.paired
  revert hpaired
  decide

end Grid

end OriTerm
