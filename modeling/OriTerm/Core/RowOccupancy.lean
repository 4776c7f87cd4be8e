import OriTerm.Core.RectOps
import OriTerm.Core.Reflow

/-!
# `Core.RowOccupancy` — `occ` bounds what a row has to clear

`Row.reset` only rewrites the first `occ` cells when the background of the last cell is already the one asked
for. That is right as long as the cells past `occ` all are blanks of one background (`Row.OccBounds`):
`reset_clears_iff` says it is exactly then that a reset clears, whatever the width and the background.

Most operations keep the bound because they raise `occ` over what they write. Erasing to the default background
does not raise it, and widening a row appends default cells, so these keep it only under a condition on the row
(`Row.BlankOk`, `Row.BlankLeftOk`, `Row.WidenOk`): in a row whose tail was coloured by an earlier erase they leave
cells of two backgrounds past `occ`.
-/

namespace OriTerm

open Lib Lib.Bitflags Option

namespace Row

variable {c : Cell} {i : Nat} {bg : Color}

/-- The cells past the watermark. -/
def tail (r : Row) : List Cell := r.inner.drop r.occ

/-- **`occ` bounds the row**: the cells past it are blanks of one background. -/
def OccBounds (r : Row) : Prop := ∃ bg, ∀ c ∈ r.tail, c = Cell.ofBg bg

/-- The cells past the watermark are default cells. -/
def PlainTail (r : Row) : Prop := ∀ c ∈ r.tail, c = Cell.blank

instance (r : Row) : Decidable r.PlainTail := by
  unfold PlainTail
  infer_instance

theorem mem_tail {r : Row} : c ∈ r.tail ↔ ∃ i, r.occ ≤ i ∧ r.inner[i]? = some c := by
  unfold tail
  rw [List.mem_iff_getElem?]
  constructor
  · rintro ⟨i, hi⟩
    exact ⟨r.occ + i, Nat.le_add_right .., by rw [← hi, List.getElem?_drop]⟩
  · rintro ⟨i, hle, hi⟩
    exact ⟨i - r.occ, by rw [List.getElem?_drop, Nat.add_sub_cancel' hle, hi]⟩

theorem PlainTail.occBounds {r : Row} (h : r.PlainTail) : r.OccBounds := ⟨.named .background, h⟩

/-- A tail that only lost cells is still of one background. -/
theorem OccBounds.of_tail {r r' : Row} (h : r.OccBounds) (hsub : ∀ c ∈ r'.tail, c ∈ r.tail) : r'.OccBounds := by
  obtain ⟨bg, hbg⟩ := h
  exact ⟨bg, fun c hc => hbg c (hsub c hc)⟩

theorem PlainTail.of_tail {r r' : Row} (h : r.PlainTail) (hsub : ∀ c ∈ r'.tail, c ∈ r.tail) : r'.PlainTail :=
  fun c hc => h c (hsub c hc)

/-- Nothing lies past the watermark. -/
theorem occBounds_of_le {r : Row} (h : r.inner.length ≤ r.occ) : r.OccBounds := by
  refine ⟨.named .background, fun c hc => ?_⟩
  unfold tail at hc
  rw [List.drop_of_length_le h] at hc
  cases hc

theorem plainTail_new (cols : Nat) : (new cols).PlainTail :=
  fun _ hc => List.eq_of_mem_replicate (List.mem_of_mem_drop hc)

/-! ## What a reset clears -/

/-- How many cells a reset rewrites: all of them when the last one has another background. -/
def resetOcc (r : Row) (template : Cell) : Nat :=
  if r.inner.getLast?.any (·.bg ≠ template.bg) then r.inner.length else r.occ

theorem getElem?_reset (r : Row) (cols : Nat) (template : Cell) (i : Nat) :
    (r.reset cols template).inner[i]?
      = if i < cols then some (if i < r.resetOcc template then template else r.inner[i]?.getD template) else none := by
  show (mapRange 0 (min (r.resetOcc template) cols) (·.reset template) (Lib.resize cols template r.inner))[i]? = _
  rw [getElem?_mapRange, getElem?_resize]
  by_cases hcols : i < cols
  · have hiff : (0 ≤ i ∧ i < min (r.resetOcc template) cols) ↔ i < r.resetOcc template := by omega
    simp only [if_pos hcols, map_some, Cell.reset_eq, hiff]
  · rw [if_neg hcols, if_neg hcols, map_none]

/-- The last cell of a row that has a cell. -/
theorem getLast?_of_getElem? {r : Row} (h : r.inner[i]? = some c) :
    ∃ last, r.inner.getLast? = some last ∧ r.inner[r.inner.length - 1]? = some last := by
  have hlt : i < r.inner.length := (List.getElem?_eq_some_iff.mp h).1
  have hne : r.inner ≠ [] := List.length_pos_iff.mp (by omega)
  refine ⟨r.inner.getLast hne, List.getLast?_eq_some_getLast hne, ?_⟩
  rw [← List.getLast?_eq_getElem?, List.getLast?_eq_some_getLast hne]

/-- When `occ` bounds the row, a cell that a reset does not rewrite is already what it should be. -/
theorem OccBounds.eq_of_resetOcc_le {r : Row} (h : r.OccBounds) (hle : r.resetOcc (Cell.ofBg bg) ≤ i) (hi : r.inner[i]? = some c) : c = Cell.ofBg bg := by
  obtain ⟨old, hold⟩ := h
  obtain ⟨last, hlast, hend⟩ := getLast?_of_getElem? hi
  have hlt : i < r.inner.length := (List.getElem?_eq_some_iff.mp hi).1
  unfold resetOcc at hle
  rw [hlast, any_some] at hle
  by_cases hsame : last.bg = bg
  · have hkeep : ¬ decide (last.bg ≠ (Cell.ofBg bg).bg) = true := by
      rw [decide_eq_true_eq]
      exact fun hne => hne hsame
    rw [if_neg hkeep] at hle
    have hcell := hold c (mem_tail.mpr ⟨i, hle, hi⟩)
    have hlastCell := hold last (mem_tail.mpr ⟨r.inner.length - 1, by omega, hend⟩)
    rw [hcell, ← hsame, hlastCell]
    rfl
  · have hchange : decide (last.bg ≠ (Cell.ofBg bg).bg) = true := decide_eq_true hsame
    rw [if_pos hchange] at hle
    omega

section

variable {r : Row} (h : r.OccBounds) (cols : Nat) (bg : Color)
include h

/-- A reset to a background leaves only blanks of that background when `occ` bounds the row. -/
theorem OccBounds.reset_clears : ∀ c ∈ (r.reset cols (Cell.ofBg bg)).inner, c = Cell.ofBg bg := by
  intro c hc
  obtain ⟨i, hi⟩ := List.mem_iff_getElem?.mp hc
  rw [getElem?_reset] at hi
  split at hi
  · obtain rfl := some.inj hi
    split
    · rfl
    · next hout =>
      cases hcell : r.inner[i]? with
      | none => rfl
      | some cell => exact h.eq_of_resetOcc_le (by omega) hcell
  · cases hi

theorem OccBounds.reset : (r.reset cols (Cell.ofBg bg)).OccBounds := ⟨bg, h.reset_clears cols bg⟩

theorem OccBounds.recycle : (r.recycle cols (Cell.ofBg bg)).OccBounds := ⟨bg, h.reset_clears cols bg⟩

end

/-! ## Writes raise the watermark -/

/-- Cells from the new watermark on that come from the old tail. -/
theorem tail_subset {r r' : Row}
    (h : ∀ i c, r'.occ ≤ i → r'.inner[i]? = some c → ∃ j, r.occ ≤ j ∧ r.inner[j]? = some c) :
    ∀ c ∈ r'.tail, c ∈ r.tail := by
  intro c hc
  obtain ⟨i, hle, hi⟩ := mem_tail.mp hc
  exact mem_tail.mpr (h i c hle hi)

/-- Cells left of `stop` were edited, and the watermark covers them. -/
theorem OccBounds.edited {r : Row} (h : r.OccBounds) {f : List Cell → List Cell} {stop occ : Nat}
    (hf : ∀ i, stop ≤ i → (f r.inner)[i]? = r.inner[i]?) (hocc : min (max r.occ stop) (f r.inner).length ≤ occ) :
    ((r.mapCells f).setOcc occ).OccBounds := by
  refine h.of_tail (tail_subset fun i c hle hi => ?_)
  have hlt : i < (f r.inner).length := (List.getElem?_eq_some_iff.mp hi).1
  have hle : occ ≤ i := hle
  exact ⟨i, by omega, by rw [← hf i (by omega)]; exact hi⟩

theorem OccBounds.shiftLeft {r : Row} (h : r.OccBounds) {left right count : Nat} (template : Cell) :
    (r.shiftLeft left right count template).OccBounds := by
  refine h.edited (fun i hi => ?_) (Nat.le_refl _)
  have hout : ¬ (right + 1 - count ≤ i ∧ i < right + 1) := by omega
  rw [getElem?_mapRange]
  simp only [if_neg hout, map_id']
  split
  · exact forRange_invariant
      (fun j l _ _ hl => (getElem?_swap l (by omega) (by omega)).trans hl) rfl
  · rfl

theorem OccBounds.shiftRight {r : Row} (h : r.OccBounds) {left right count : Nat} (template : Cell)
    (hcount : left + count ≤ right + 1) : (r.shiftRight left right count template).OccBounds := by
  refine h.edited (fun i hi => ?_) (Nat.le_refl _)
  have hout : ¬ (left ≤ i ∧ i < left + count) := by omega
  rw [getElem?_mapRange]
  simp only [if_neg hout, map_id']
  split
  · exact forRangeRev_invariant
      (fun j l _ _ hl => (getElem?_swap l (by omega) (by omega)).trans hl) rfl
  · rfl

/-! ## Blanking cells -/

/-- Blanking `[start, stop)` without raising the watermark leaves a tail of one background: the template raises it
    all the same, or the tail is plain, or the range lies below the watermark, is empty, or covers the tail. -/
def BlankOk (start stop : Nat) (template : Cell) (r : Row) : Prop :=
  template.isEmpty = false ∨ r.PlainTail ∨ stop ≤ r.occ ∨ stop ≤ start ∨ r.cols ≤ stop ∧ start ≤ r.occ

/-- The same for an erase from the start of the row, which gives the watermark up when it covers it. -/
def BlankLeftOk (stop : Nat) (template : Cell) (r : Row) : Prop :=
  template.isEmpty = false ∨ r.PlainTail ∨ stop < r.occ ∨ r.cols ≤ stop

/-- Padding with default cells leaves a tail of one background. -/
def WidenOk (newCols : Nat) (r : Row) : Prop := newCols ≤ r.cols ∨ r.PlainTail

instance (start stop : Nat) (template : Cell) (r : Row) : Decidable (r.BlankOk start stop template) := by
  unfold BlankOk
  infer_instance

instance (stop : Nat) (template : Cell) (r : Row) : Decidable (r.BlankLeftOk stop template) := by
  unfold BlankLeftOk
  infer_instance

instance (newCols : Nat) (r : Row) : Decidable (r.WidenOk newCols) := by
  unfold WidenOk
  infer_instance

/-- The row was written to, and the watermark covers what was written. -/
structure Raises (r r' : Row) : Prop where
  occ : r.occ ≤ r'.occ
  cols : r'.cols = r.cols
  cells : ∀ i, r'.occ ≤ i → r'.inner[i]? = r.inner[i]?

variable {r r' r'' : Row} {start stop : Nat} {template : Cell}

@[refl] theorem Raises.refl (r : Row) : Raises r r := ⟨Nat.le_refl _, rfl, fun _ _ => rfl⟩

theorem Raises.trans (h : Raises r r') (h' : Raises r' r'') : Raises r r'' := by
  have hocc := h'.occ
  exact ⟨Nat.le_trans h.occ hocc, h'.cols.trans h.cols, fun i hi => (h'.cells i hi).trans (h.cells i (by omega))⟩

theorem Raises.tail (h : Raises r r') : ∀ c ∈ r'.tail, c ∈ r.tail := by
  have hocc := h.occ
  exact tail_subset fun i c hle hi => ⟨i, by omega, by rw [← h.cells i hle, hi]⟩

theorem raises_modify (r : Row) (col : Nat) (f : Cell → Cell) : Raises r (r.modify col f) := by
  refine ⟨Nat.le_max_left .., cols_modify r col f, fun i hle => ?_⟩
  have hle : max r.occ (col + 1) ≤ i := hle
  rw [inner_modify, List.getElem?_modify_ne _ _ (by omega)]

theorem raises_raiseOcc (occ : Nat) (r : Row) : Raises r (r.raiseOcc occ) := by
  unfold raiseOcc
  split
  · next h => exact ⟨Nat.le_of_lt h, rfl, fun _ _ => rfl⟩
  · exact .refl r

/-- A write on top of others covers its own cell as well. -/
theorem Raises.modify (h : Raises r r') (col : Nat) (f : Cell → Cell) :
    Raises (r.raiseOcc (col + 1)) (r'.modify col f) := by
  have hocc := h.occ
  have hraised : (r.raiseOcc (col + 1)).occ = max r.occ (col + 1) := by
    unfold raiseOcc
    split
    · show col + 1 = _
      omega
    · omega
  refine ⟨?_, ?_, fun i hle => ?_⟩
  · rw [hraised]
    show max r.occ (col + 1) ≤ max r'.occ (col + 1)
    omega
  · rw [cols_modify, h.cols]
    exact (congrArg Prod.snd (shape_raiseOcc (col + 1) r)).symm
  · have hle : max r'.occ (col + 1) ≤ i := hle
    rw [inner_modify, List.getElem?_modify_ne _ _ (by omega), inner_raiseOcc]
    exact h.cells i (by omega)

section

variable (h : r.OccBounds)
include h

theorem OccBounds.raises (hraises : Raises r r') : r'.OccBounds := h.of_tail hraises.tail

theorem OccBounds.modify (col : Nat) (f : Cell → Cell) : (r.modify col f).OccBounds :=
  h.raises (raises_modify r col f)

theorem OccBounds.raiseOcc (occ : Nat) : (r.raiseOcc occ).OccBounds :=
  h.raises (raises_raiseOcc occ r)

theorem OccBounds.modifyRange (left stop : Nat) (f : Cell → Cell) : (r.modifyRange left stop f).OccBounds :=
  forRange_invariant (fun i _ _ _ hx => hx.modify i f) h

theorem OccBounds.copyRange (src : Row) (left stop : Nat) : (Row.copyRange src left stop r).OccBounds :=
  forRange_invariant (fun i _ _ _ hx => hx.modify i _) h

end

/-- A write at or past the watermark puts it right behind the cell. -/
theorem modify_setOcc {col : Nat} (h : r.occ ≤ col) (f : Cell → Cell) :
    (r.modify col f).setOcc (col + 1) = r.modify col f := by
  have hocc : max r.occ (col + 1) = col + 1 := by omega
  unfold modify setOcc
  rw [hocc]

/-- Writing to a row does not spoil the condition of a later erase. -/
theorem BlankOk.raises (hok : r.BlankOk start stop template) (h : Raises r r') : r'.BlankOk start stop template := by
  have hocc := h.occ
  have hcols := h.cols
  rcases hok with ht | hp | hs | he | ⟨hc, hs⟩
  · exact .inl ht
  · exact .inr (.inl (hp.of_tail h.tail))
  · exact .inr (.inr (.inl (by omega)))
  · exact .inr (.inr (.inr (.inl he)))
  · exact .inr (.inr (.inr (.inr ⟨by omega, by omega⟩)))

theorem BlankLeftOk.raises (hok : r.BlankLeftOk stop template) (h : Raises r r') : r'.BlankLeftOk stop template := by
  have hocc := h.occ
  have hcols := h.cols
  rcases hok with ht | hp | hs | hc
  · exact .inl ht
  · exact .inr (.inl (hp.of_tail h.tail))
  · exact .inr (.inr (.inl (by omega)))
  · exact .inr (.inr (.inr (by omega)))

/-- A blank of the default background is the default cell. -/
theorem ofBg_of_isEmpty (h : (Cell.ofBg bg).isEmpty = true) : Cell.ofBg bg = Cell.blank := by
  have hbg : bg = .named .background := by
    unfold Cell.isEmpty at h
    simp only [Bool.and_eq_true, beq_iff_eq] at h
    exact h.1.1.2
  rw [hbg]
  rfl

/-- What the cells of a row are after `[start, stop)` was reset. -/
theorem getElem?_resetCells_eq (start stop : Nat) (template : Cell) (r : Row) (i : Nat) :
    (r.resetCells start stop template).inner[i]?
      = r.inner[i]?.map fun c => if start ≤ i ∧ i < stop then template else c := by
  show (mapRange start stop (Cell.reset · template) r.inner)[i]? = _
  rw [getElem?_mapRange]
  rfl

theorem getElem?_resetCells_some (h : (r.resetCells start stop template).inner[i]? = some c) :
    i < r.cols ∧ (start ≤ i ∧ i < stop ∧ c = template ∨ ¬ (start ≤ i ∧ i < stop) ∧ r.inner[i]? = some c) := by
  rw [getElem?_resetCells_eq] at h
  obtain ⟨old, hold, heq⟩ := map_eq_some_iff.mp h
  refine ⟨(List.getElem?_eq_some_iff.mp hold).1, ?_⟩
  split at heq
  · next hin => exact .inl ⟨hin.1, hin.2, heq.symm⟩
  · next hout => exact .inr ⟨hout, by rw [hold, heq]⟩

section

variable (h : r.OccBounds)
include h

/-- `[start, stop)` was reset to the default cell, and the rest of the new tail comes from the old one. -/
theorem OccBounds.blanked (hok : r.BlankOk start stop Cell.blank) (hcols : r'.cols = r.cols)
    (hcells : ∀ i c, r'.occ ≤ i → r'.inner[i]? = some c →
      r.occ ≤ i ∧ (start ≤ i ∧ i < stop ∧ c = Cell.blank ∨ ¬ (start ≤ i ∧ i < stop) ∧ c ∈ r.tail)) :
    r'.OccBounds := by
  rcases hok with hne | hp | hs | he | ⟨hc, hs⟩
  · cases hne
  · refine PlainTail.occBounds fun c hc => ?_
    obtain ⟨i, hle, hi⟩ := mem_tail.mp hc
    rcases (hcells i c hle hi).2 with ⟨_, _, hblank⟩ | ⟨_, hold⟩
    · exact hblank
    · exact hp c hold
  · refine h.of_tail fun c hc => ?_
    obtain ⟨i, hle, hi⟩ := mem_tail.mp hc
    obtain ⟨hocc, ⟨_, hlt, _⟩ | ⟨_, hold⟩⟩ := hcells i c hle hi
    · omega
    · exact hold
  · refine h.of_tail fun c hc => ?_
    obtain ⟨i, hle, hi⟩ := mem_tail.mp hc
    rcases (hcells i c hle hi).2 with ⟨_, hlt, _⟩ | ⟨_, hold⟩
    · omega
    · exact hold
  · refine PlainTail.occBounds fun c hc' => ?_
    obtain ⟨i, hle, hi⟩ := mem_tail.mp hc'
    have hlt : i < r'.cols := (List.getElem?_eq_some_iff.mp hi).1
    obtain ⟨hocc, ⟨_, _, hblank⟩ | ⟨hout, _⟩⟩ := hcells i c hle hi
    · exact hblank
    · omega

/-- ECH. -/
theorem OccBounds.resetCells (hok : r.BlankOk start stop template) {bg : Color} (ht : template = Cell.ofBg bg) :
    (if template.isEmpty then r.resetCells start stop template
      else (r.resetCells start stop template).setOcc (max r.occ stop)).OccBounds := by
  split
  · next hempty =>
    have hblank : template = Cell.blank := by
      rw [ht] at hempty ⊢
      exact ofBg_of_isEmpty hempty
    subst hblank
    refine h.blanked hok (congrArg Prod.snd (shape_resetCells ..)) fun i c hle hi => ⟨hle, ?_⟩
    rcases (getElem?_resetCells_some hi).2 with hin | ⟨hout, hold⟩
    · exact .inl hin
    · exact .inr ⟨hout, mem_tail.mpr ⟨i, hle, hold⟩⟩
  · refine h.of_tail (tail_subset fun i c hle hi => ?_)
    have hle : max r.occ stop ≤ i := hle
    rcases (getElem?_resetCells_some hi).2 with ⟨_, hlt, _⟩ | ⟨_, hold⟩
    · omega
    · exact ⟨i, by omega, hold⟩

/-- EL to the end of the line. -/
theorem OccBounds.eraseRight {col : Nat} (hok : r.BlankOk col r.cols template) (ht : template = Cell.ofBg bg) :
    ((r.resetCells col r.cols template).occAfterRight col r.cols template).OccBounds := by
  unfold occAfterRight
  split
  · next hempty =>
    have hblank : template = Cell.blank := by
      rw [ht] at hempty ⊢
      exact ofBg_of_isEmpty hempty
    have hcells : ∀ i c, min r.occ col ≤ i → (r.resetCells col r.cols template).inner[i]? = some c →
        c = Cell.blank ∨ r.occ ≤ i ∧ i < col ∧ r.inner[i]? = some c := by
      intro i c hle hi
      obtain ⟨hlt, hcell⟩ := getElem?_resetCells_some hi
      rcases hcell with ⟨_, _, rfl⟩ | ⟨hout, hold⟩
      · exact .inl hblank
      · exact .inr ⟨by omega, by omega, hold⟩
    rcases hok with hne | hp | hs | he | ⟨_, hs⟩
    · rw [hempty] at hne
      cases hne
    · refine PlainTail.occBounds fun c hc => ?_
      obtain ⟨i, hle, hi⟩ := mem_tail.mp hc
      rcases hcells i c hle hi with hb | ⟨hle', _, hold⟩
      · exact hb
      · exact hp c (mem_tail.mpr ⟨i, hle', hold⟩)
    · refine PlainTail.occBounds fun c hc => ?_
      obtain ⟨i, hle, hi⟩ := mem_tail.mp hc
      rcases hcells i c hle hi with hb | ⟨hle', _, hold⟩
      · exact hb
      · have hlt := (getElem?_resetCells_some hi).1
        omega
    · refine h.of_tail (tail_subset fun i c hle hi => ?_)
      have hle : min r.occ col ≤ i := hle
      obtain ⟨hlt, hcell⟩ := getElem?_resetCells_some hi
      rcases hcell with ⟨hge, _, _⟩ | ⟨_, hold⟩
      · omega
      · exact ⟨i, by omega, hold⟩
    · refine PlainTail.occBounds fun c hc => ?_
      obtain ⟨i, hle, hi⟩ := mem_tail.mp hc
      rcases hcells i c hle hi with hb | ⟨hle', hlt, _⟩
      · exact hb
      · omega
  · refine occBounds_of_le ?_
    exact Nat.le_of_eq (congrArg Prod.snd (shape_resetCells col r.cols template r))

/-- EL from the start of the line. -/
theorem OccBounds.eraseLeft (hok : r.BlankLeftOk stop template) (ht : template = Cell.ofBg bg) :
    ((r.resetCells 0 stop template).occAfterLeft stop template).OccBounds := by
  unfold occAfterLeft
  split
  · next hempty =>
    have hblank : template = Cell.blank := by
      rw [ht] at hempty ⊢
      exact ofBg_of_isEmpty hempty
    by_cases hcover : r.occ ≤ stop
    · rw [if_pos (show (r.resetCells 0 stop template).occ ≤ stop from hcover)]
      refine PlainTail.occBounds fun c hc => ?_
      obtain ⟨i, _, hi⟩ := mem_tail.mp hc
      obtain ⟨hlt, hcell⟩ := getElem?_resetCells_some hi
      rcases hcell with ⟨_, _, rfl⟩ | ⟨hout, hold⟩
      · exact hblank
      · rcases hok with hne | hp | hs | hc'
        · rw [hempty] at hne
          cases hne
        · exact hp c (mem_tail.mpr ⟨i, by omega, hold⟩)
        · omega
        · omega
    · rw [if_neg (show ¬ (r.resetCells 0 stop template).occ ≤ stop from hcover)]
      refine h.of_tail (tail_subset fun i c hle hi => ?_)
      have hle : r.occ ≤ i := hle
      rcases (getElem?_resetCells_some hi).2 with ⟨_, hlt, _⟩ | ⟨_, hold⟩
      · omega
      · exact ⟨i, hle, hold⟩
  · refine h.of_tail (tail_subset fun i c hle hi => ?_)
    have hle : max r.occ stop ≤ i := hle
    rcases (getElem?_resetCells_some hi).2 with ⟨_, hlt, _⟩ | ⟨_, hold⟩
    · omega
    · exact ⟨i, by omega, hold⟩

/-- A resize keeps the bound when it does not pad a coloured tail. -/
theorem OccBounds.resize {newCols : Nat} (hok : r.WidenOk newCols) : (r.resize newCols).OccBounds := by
  have hcells : ∀ i c, min r.occ newCols ≤ i → (r.resize newCols).inner[i]? = some c →
      r.occ ≤ i ∧ r.inner[i]? = some c ∨ c = Cell.blank ∧ r.cols ≤ i ∧ i < newCols := by
    intro i c hle hi
    have hi : (Lib.resize newCols Cell.blank r.inner)[i]? = some c := hi
    rw [getElem?_resize] at hi
    split at hi
    · next hlt =>
      obtain rfl := some.inj hi
      cases hcell : r.inner[i]? with
      | none => exact .inr ⟨rfl, List.getElem?_eq_none_iff.mp hcell, hlt⟩
      | some cell => exact .inl ⟨by omega, rfl⟩
    · cases hi
  rcases hok with hle | hp
  · refine h.of_tail (tail_subset fun i c hocc hi => ?_)
    rcases hcells i c hocc hi with hold | ⟨_, hge, hlt⟩
    · exact ⟨i, hold⟩
    · omega
  · refine PlainTail.occBounds fun c hc => ?_
    obtain ⟨i, hle, hi⟩ := mem_tail.mp hc
    rcases hcells i c hle hi with hold | ⟨hblank, _⟩
    · exact hp c (mem_tail.mpr ⟨i, hold⟩)
    · exact hblank

end

/-! ## Opening and closing a gap -/

/-- Swapping upwards from the end shifts right. -/
theorem getElem?_shiftedRight {l : List Cell} {count : Nat} (hcount : count ≤ start)
    (hle : start ≤ stop) (hstop : stop ≤ l.length) (hs : start ≤ i) (he : i < stop) :
    (forRangeRev start stop (fun i => swap i (i - count)) l)[i]? = l[i - count]? := by
  -- at index `k` the positions from `k` on are done, and those that still feed others are untouched
  have hloop := forRangeRev_induction (f := fun i l => swap i (i - count) l)
    (P := fun k l' => l'.length = l.length ∧ (∀ j, k ≤ j → j < stop → l'[j]? = l[j - count]?)
      ∧ ∀ j, j + count < k → l'[j]? = l[j]?) hle ?_ ⟨rfl, fun j hj hj' => by omega, fun _ _ => rfl⟩
  · exact hloop.2.1 i hs he
  · rintro k l' hk hk' ⟨hlen, hdone, hrest⟩
    refine ⟨(length_swap ..).trans hlen, fun j hj hj' => ?_, fun j hj => ?_⟩
    · by_cases hjk : j = k
      · subst hjk
        rw [getElem?_swap_left (by omega) (by omega), hrest _ (by omega)]
      · rw [getElem?_swap l' (by omega) (by omega), hdone j (by omega) hj']
    · rw [getElem?_swap l' (by omega) (by omega), hrest j (by omega)]

/-- Swapping downwards from the start shifts left. -/
theorem getElem?_shiftedLeft {l : List Cell} {count : Nat} (hle : start ≤ stop)
    (hstop : stop + count ≤ l.length) (hs : start ≤ i) (he : i < stop) :
    (forRange start stop (fun i => swap i (i + count)) l)[i]? = l[i + count]? := by
  have hloop := forRange_induction (f := fun i l => swap i (i + count) l)
    (P := fun k l' => l'.length = l.length ∧ (∀ j, start ≤ j → j < k → l'[j]? = l[j + count]?)
      ∧ ∀ j, k + count ≤ j → l'[j]? = l[j]?) hle ?_ ⟨rfl, fun j hj hj' => by omega, fun _ _ => rfl⟩
  · exact hloop.2.1 i hs he
  · rintro k l' hk hk' ⟨hlen, hdone, hrest⟩
    refine ⟨(length_swap ..).trans hlen, fun j hj hj' => ?_, fun j hj => ?_⟩
    · by_cases hjk : j = k
      · subst hjk
        rw [getElem?_swap_left (by omega) (by omega), hrest _ (Nat.le_refl _)]
      · rw [getElem?_swap l' (by omega) (by omega), hdone j hj (by omega)]
    · rw [getElem?_swap l' (by omega) (by omega), hrest j (by omega)]

/-- No cell of the tail is half of a wide character. -/
theorem OccBounds.not_wide (h : r.OccBounds) (hc : c ∈ r.tail) : c.has CellFlags.wideChar = false := by
  obtain ⟨bg, hbg⟩ := h
  rw [hbg c hc]
  show contains (0 : CellFlags) CellFlags.wideChar = false
  decide

/-- ICH and DECIC: the watermark moves with the cells. -/
theorem OccBounds.openGap (h : r.OccBounds) {col count : Nat} (template : Cell) (hcol : col ≤ r.occ)
    (hgap : col + count ≤ stop) (hstop : stop ≤ r.cols) :
    ((r.openGap col count stop template).setOcc (min (r.occ + count) r.cols)).OccBounds := by
  -- past the watermark the gapped cells come from the old tail
  have hgapped : ∀ i c, r.occ + count ≤ i → (mapRange col (col + count) (Cell.reset · template)
      (forRangeRev (col + count) stop (fun i => swap i (i - count)) r.inner))[i]? = some c → c ∈ r.tail := by
    intro i c hle hi
    have hout : ¬ (col ≤ i ∧ i < col + count) := by omega
    rw [getElem?_mapRange] at hi
    simp only [if_neg hout, map_id'] at hi
    by_cases hin : i < stop
    · rw [getElem?_shiftedRight (by omega) hgap hstop (by omega) hin] at hi
      exact mem_tail.mpr ⟨i - count, by omega, hi⟩
    · rw [forRangeRev_invariant
        (fun j l _ _ hl => (getElem?_swap l (by omega) (by omega)).trans hl) rfl] at hi
      exact mem_tail.mpr ⟨i, by omega, hi⟩
  have hlen : (r.openGap col count stop template).inner.length = r.cols :=
    congrArg Prod.snd (shape_openGap col count stop template r)
  refine h.of_tail fun c hc => ?_
  obtain ⟨i, hle, hi⟩ := mem_tail.mp hc
  have hi : (r.openGap col count stop template).inner[i]? = some c := hi
  have hlt := (List.getElem?_eq_some_iff.mp hi).1
  have hle : min (r.occ + count) r.cols ≤ i := hle
  unfold Row.openGap mapCells at hi
  dsimp only at hi
  split at hi
  · next hwide =>
    by_cases hlast : stop - 1 = i
    · subst hlast
      rw [List.getElem?_modify_eq] at hi
      obtain ⟨c', hc', -⟩ := map_eq_some_iff.mp hi
      have hnot := h.not_wide (hgapped (stop - 1) c' (by omega) hc')
      rw [Bool.and_eq_true, List.getD_eq_getElem?_getD, hc', getD_some, hnot] at hwide
      cases hwide.2
    · rw [List.getElem?_modify_ne _ _ hlast] at hi
      exact hgapped i c (by omega) hi
  · exact hgapped i c (by omega) hi

/-- DCH and DECDC: past the watermark the cells come from further right, or are vacated. -/
theorem OccBounds.closeGap (h : r.OccBounds) {col count : Nat} (hok : r.BlankOk (stop - count) stop template)
    (hstop : stop ≤ r.cols) (hgap : col + count ≤ stop) {bg : Color} (ht : template = Cell.ofBg bg) :
    (if template.isEmpty then r.closeGap col count stop template
      else (r.closeGap col count stop template).setOcc r.cols).OccBounds := by
  have hcols : (r.closeGap col count stop template).cols = r.cols :=
    congrArg Prod.snd (shape_closeGap col count stop template r)
  split
  · next hempty =>
    have hblank : template = Cell.blank := by
      rw [ht] at hempty ⊢
      exact ofBg_of_isEmpty hempty
    subst hblank
    refine h.blanked hok hcols fun i c hle hi => ⟨hle, ?_⟩
    have hle : r.occ ≤ i := hle
    have hi : (mapRange (stop - count) stop (Cell.reset · Cell.blank)
      (forRange col (stop - count) (fun i => swap i (i + count)) r.inner))[i]? = some c := hi
    rw [getElem?_mapRange] at hi
    by_cases hvacated : stop - count ≤ i ∧ i < stop
    · obtain ⟨old, -, heq⟩ := map_eq_some_iff.mp hi
      rw [if_pos hvacated] at heq
      exact .inl ⟨hvacated.1, hvacated.2, heq.symm⟩
    · simp only [if_neg hvacated, map_id'] at hi
      refine .inr ⟨hvacated, ?_⟩
      by_cases hin : col ≤ i ∧ i < stop - count
      · have hlen : r.inner.length = r.cols := rfl
        rw [getElem?_shiftedLeft (by omega) (by omega) hin.1 hin.2] at hi
        exact mem_tail.mpr ⟨i + count, by omega, hi⟩
      · rw [forRange_invariant
          (fun j l _ _ hl => (getElem?_swap l (by omega) (by omega)).trans hl) rfl] at hi
        exact mem_tail.mpr ⟨i, hle, hi⟩
  · exact occBounds_of_le (Nat.le_of_eq hcols)

end Row

/-! ## Reflowed rows -/

/-- The rows a reflow has finished are bounded, and past the write column the row in progress is blank. -/
structure RowReflowSink.Occupied (newCols : Nat) (sink : RowReflowSink) : Prop extends sink.Sized newCols where
  bounds : ∀ r ∈ sink.result, r.OccBounds
  plain : sink.outRow.PlainTail
  occ : sink.outRow.occ ≤ sink.outCol

namespace RowReflowSink.Occupied

variable {newCols : Nat} {sink : RowReflowSink}

/-- A finished row whose watermark is its width has no tail. -/
theorem pushWrapped (h : sink.Occupied newCols) (isWide : Bool) : (sink.pushWrapped newCols isWide).Occupied newCols := by
  have hsized := h.toSized.pushWrapped isWide
  refine { hsized with bounds := ?_, plain := Row.plainTail_new newCols, occ := Nat.le_refl _ }
  intro r hr
  rcases List.mem_append.mp hr with hold | hnew
  · exact h.bounds r hold
  · have hcols := hsized.result r hr
    obtain rfl := List.mem_singleton.mp hnew
    exact Row.occBounds_of_le (Nat.le_of_eq hcols)

/-- A written cell moves the watermark to the write column. -/
theorem writeCell (h : sink.Occupied newCols) (cell : Cell) (isWide : Bool) :
    (sink.writeCell cell isWide).Occupied newCols := by
  have hsized := h.toSized.writeCell cell isWide
  have hplain : ∀ f, (sink.outRow.modify sink.outCol f).PlainTail := fun f =>
    h.plain.of_tail (Row.raises_modify sink.outRow sink.outCol f).tail
  have hocc : ∀ f, (sink.outRow.modify sink.outCol f).occ ≤ sink.outCol + 1 := fun f =>
    Nat.max_le.mpr ⟨Nat.le_succ_of_le h.occ, Nat.le_refl _⟩
  unfold RowReflowSink.writeCell at hsized ⊢
  dsimp only at hsized ⊢
  split at hsized
  · rw [if_pos ‹_›]
    refine { hsized with bounds := h.bounds, plain := ?_, occ := Nat.le_refl _ }
    rw [Row.modify_setOcc (hocc _)]
    exact (hplain _).of_tail (Row.raises_modify ..).tail
  · rw [if_neg ‹_›]
    refine { hsized with bounds := h.bounds, plain := ?_, occ := Nat.le_refl _ }
    rw [Row.modify_setOcc h.occ]
    exact hplain _

theorem finishRow (h : sink.Occupied newCols) : (sink.finishRow newCols).Occupied newCols := by
  refine { h.toSized.finishRow with bounds := ?_, plain := Row.plainTail_new newCols, occ := Nat.le_refl _ }
  intro r hr
  rcases List.mem_append.mp hr with hold | hnew
  · exact h.bounds r hold
  · obtain rfl := List.mem_singleton.mp hnew
    exact h.plain.occBounds

theorem invariant (newCols : Nat) : RowReflowSink.Invariant newCols (RowReflowSink.Occupied newCols) where
  init :=
    { result := by simp, outRow := Row.cols_new _, bounds := by simp, plain := Row.plainTail_new _
      occ := Nat.le_refl _ }
  cursor _ _ h := { h with }
  push isWide h := h.pushWrapped isWide
  write cell isWide h := h.writeCell cell isWide
  finish h := h.finishRow

end RowReflowSink.Occupied

/-- **Every row that comes out of reflow is bounded by its watermark**, whatever the source rows are. -/
theorem occBounds_reflowCells (allRows : List Row) (params : ReflowParams) :
    ∀ r ∈ (reflowCells allRows params).rows, r.OccBounds := by
  intro r hr
  have hloop := (RowReflowSink.Occupied.invariant params.newCols).reflowLoop allRows rfl
  rcases mem_reflowCells hr with hdone | rfl
  · exact hloop.bounds r hdone
  · exact hloop.plain.occBounds

end OriTerm
