import OriTerm.Core.WidePairs

/-!
# `Core.WideErase` — erasing keeps wide characters whole and guards protected cells

`EraseOp` lists the erases with the cells each is about (`EraseOp.Region`). An erase is clean (`ErasesCleanly`) when every
row still has whole wide characters only, a cell outside the region changes only as the other half of a character that
the region cuts, and, if the erase is a selective one, no protected cell changes.

The plain erases are clean: they blank both halves of what they cut. The selective ones are not, because the protection
of a character is on its wide cell only: DECSERA erases the spacer of a protected character, and blanks a protected half
whose other half lies in the rectangle; DECSED and DECSEL are the plain erases. `EraseOp.erasesCleanly_iff` says when
nothing of this happens.
-/

namespace OriTerm

open Lib Lib.Bitflags CellFlags

namespace Row

variable {r r' : Row} {cols c : Nat}

/-- The cell survives selective erases. -/
def guarded (r : Row) (c : Nat) : Bool := (r.get c).has isProtected

/-- The two cells of one wide character. -/
def OtherHalf (r : Row) (c p : Nat) : Prop := (p = c + 1 ∧ r.halves.left c = true) ∨ (c = p + 1 ∧ r.halves.left p = true)

/-- **Erased**: the row still has whole characters only, the cells inside were replaced, and a cell outside changed only
    as the other half of a character that was cut. -/
structure Erases (inside : Nat → Prop) (r r' : Row) : Prop where
  paired : r'.WidePaired
  erased : ∀ c, inside c → c < r.cols → (r'.get c).IsPlain ∧ r'.guarded c = false
  frame : ∀ c, ¬ inside c → r'.get c ≠ r.get c → ∃ p, inside p ∧ r.OtherHalf c p

/-- **What an erase owes a row**: whole characters, a change outside only of the other half of what was cut, and, if it
    is selective, the protected cells. -/
structure CleanErase (inside : Nat → Prop) (selective : Prop) (r r' : Row) : Prop where
  paired : r'.WidePaired
  frame : ∀ c, ¬ inside c → r'.get c ≠ r.get c → ∃ p, inside p ∧ r.OtherHalf c p
  guarded : selective → ∀ c, r.guarded c = true → r'.get c = r.get c

variable {inside inside' : Nat → Prop} {selective : Prop}

theorem lt_cols_of_guarded (h : r.guarded c = true) : c < r.cols := by
  by_contra hge
  unfold guarded at h
  rw [get_of_le (Nat.le_of_not_lt hge)] at h
  cases h

/-- Both cells of a character are on the row. -/
theorem OtherHalf.lt_cols (hp : r.WidePaired) {p : Nat} (h : r.OtherHalf c p) : c < r.cols ∧ p < r.cols := by
  rcases h with ⟨rfl, hwide⟩ | ⟨rfl, hwide⟩
  · have hnext : r.halves.right (c + 1) = true := (hp.next c).symm.trans hwide
    exact ⟨lt_cols_of_left hwide, lt_cols_of_right hnext⟩
  · have hnext : r.halves.right (p + 1) = true := (hp.next p).symm.trans hwide
    exact ⟨lt_cols_of_right hnext, lt_cols_of_left hwide⟩

/-- The other half of an erased half is gone as well. -/
theorem Erases.other_changed (h : Erases inside r r') (hp : r.WidePaired) {p : Nat} (hin : inside p)
    (hother : r.OtherHalf c p) : r'.get c ≠ r.get c := by
  intro hsame
  have hplain := (h.erased p hin (hother.lt_cols hp).2).1
  rcases hother with ⟨rfl, hwide⟩ | ⟨rfl, hwide⟩
  · have hleft : r'.halves.left c = true := by
      show (r'.get c).has wideChar = true
      rw [hsame]
      exact hwide
    have hright : r'.halves.right (c + 1) = false := hplain.2
    rw [h.paired.next, hright] at hleft
    cases hleft
  · have hright : r'.halves.right (p + 1) = true := by
      show (r'.get (p + 1)).has wideCharSpacer = true
      rw [hsame]
      exact (hp.next p).symm.trans hwide
    have hleft : r'.halves.left p = false := hplain.1
    rw [← h.paired.next, hleft] at hright
    cases hright

/-- **An erase spares the protected cells** exactly when none is inside, or the other half of what is. -/
theorem Erases.guarded_iff (h : Erases inside r r') (hp : r.WidePaired) :
    (∀ c, r.guarded c = true → r'.get c = r.get c) ↔
      ∀ c, r.guarded c = true → ¬ inside c ∧ ∀ p, inside p → ¬ r.OtherHalf c p := by
  constructor
  · intro hkept c hc
    refine ⟨fun hin => ?_, fun p hin hother => h.other_changed hp hin hother (hkept c hc)⟩
    have hgone := (h.erased c hin (lt_cols_of_guarded hc)).2
    unfold guarded at hgone hc
    rw [hkept c hc, hc] at hgone
    cases hgone
  · intro hnone c hc
    by_contra hchanged
    obtain ⟨p, hin, hother⟩ := h.frame c (hnone c hc).1 hchanged
    exact (hnone c hc).2 p hin hother

/-- The other half of a protected cell must stay as well. -/
def Spares (inside : Nat → Prop) (r : Row) : Prop :=
  ∀ c, r.guarded c = true → ¬ inside c ∧ ∀ p, inside p → ¬ r.OtherHalf c p

theorem Erases.cleanErase_iff (h : Erases inside r r') (hp : r.WidePaired) :
    CleanErase inside selective r r' ↔ (selective → r.Spares inside) :=
  ⟨fun hclean hsel => (h.guarded_iff hp).mp (hclean.guarded hsel),
    fun hspares => ⟨h.paired, h.frame, fun hsel => (h.guarded_iff hp).mpr (hspares hsel)⟩⟩

/-- A row that is left alone. -/
theorem cleanErase_refl (hp : r.WidePaired) : CleanErase inside selective r r :=
  ⟨hp, fun _ _ hne => absurd rfl hne, fun _ _ _ => rfl⟩

theorem CleanErase.of_get (h : CleanErase inside selective r r') {r'' : Row} (hget : ∀ c, r''.get c = r'.get c) :
    CleanErase inside selective r r'' :=
  ⟨h.paired.of_get hget, fun c hc hne => h.frame c hc (hget c ▸ hne),
    fun hsel c hc => (hget c).trans (h.guarded hsel c hc)⟩

/-- The cells that a larger region adds must not be on the row. -/
theorem Erases.mono (h : Erases inside r r') (hsub : ∀ c, inside c → inside' c)
    (hlt : ∀ c, inside' c → c < r.cols → inside c) : Erases inside' r r' := by
  refine ⟨h.paired, fun c hc hcols => h.erased c (hlt c hc hcols) hcols, fun c hc hne => ?_⟩
  obtain ⟨p, hp, hother⟩ := h.frame c (fun hin => hc (hsub c hin)) hne
  exact ⟨p, hsub p hp, hother⟩

/-! ## Spans -/

/-- The halves of a row whose edges were cleaned up and whose span was replaced. -/
theorem halves_of_get (hp : r.WidePaired) (hr : r.cols = cols) {start stop : Nat} (hle : start < stop) {m : Halves}
    (hout : ∀ c, ¬ (start ≤ c ∧ c < stop) → r'.get c = (r.fixWide cols start stop).get c)
    (hin : ∀ c, start ≤ c → c < stop → r'.halves.left c = m.left c ∧ r'.halves.right c = m.right c) :
    r'.halves = r.halves.splice m start stop := by
  refine Halves.eq_splice hin fun c hc => ?_
  have hfix := halves_fixWide hr (.inl hle) hp c
  unfold Row.halves at hfix ⊢
  dsimp only at hfix ⊢
  rw [hout c hc]
  exact hfix

section

variable (hp : r.WidePaired) (hr : r.cols = cols) {start stop : Nat} (hle : start < stop)
  (hout : ∀ c, ¬ (start ≤ c ∧ c < stop) → r'.get c = (r.fixWide cols start stop).get c)
include hp hr hle hout

/-- Outside the span only what the edges cut changes. -/
theorem frame_of_get (c : Nat) (hc : ¬ (start ≤ c ∧ c < stop)) (hne : r'.get c ≠ r.get c) :
    ∃ p, (start ≤ p ∧ p < stop) ∧ r.OtherHalf c p := by
  rw [hout c hc, get_fixWide hr (.inl hle)] at hne
  split at hne
  · next hcut =>
    refine ⟨start, ⟨Nat.le_refl start, hle⟩, .inl ⟨hcut.1.symm, ?_⟩⟩
    rw [hp.next, hcut.1]
    exact hcut.2
  · split at hne
    · next hcut => exact ⟨stop - 1, by omega, .inr ⟨by omega, hcut.2.2⟩⟩
    · exact absurd rfl hne

/-- **Cleaning up the edges of a span and filling it** is an erase. -/
theorem erases_of_get (hin : ∀ c, start ≤ c → c < stop → (r'.get c).IsPlain ∧ (c < cols → r'.guarded c = false)) :
    Erases (fun c => start ≤ c ∧ c < stop) r r' := by
  refine ⟨?_, fun c hc hlt => ?_, frame_of_get hp hr hle hout⟩
  · unfold WidePaired
    rw [halves_of_get (m := Halves.empty) hp hr hle hout fun c hs he => (hin c hs he).1]
    exact Halves.Paired.splice_empty hp (Nat.le_of_lt hle)
  · exact ⟨(hin c hc.1 hc.2).1, (hin c hc.1 hc.2).2 (hr ▸ hlt)⟩

end

/-- An erase that touches nothing. -/
theorem erases_none (hp : r.WidePaired) (hnone : ∀ c, inside c → r.cols ≤ c) : Erases inside r r :=
  ⟨hp, fun c hc hlt => absurd (hnone c hc) (by omega), fun _ _ hne => absurd rfl hne⟩

theorem Erases.of_get (h : Erases inside r r') {r'' : Row} (hget : ∀ c, r''.get c = r'.get c) : Erases inside r r'' := by
  refine ⟨h.paired.of_get hget, fun c hc hlt => ?_, fun c hc hne => h.frame c hc (hget c ▸ hne)⟩
  unfold guarded
  rw [hget]
  exact h.erased c hc hlt

theorem guarded_ofBg (bg : Color) : (Cell.ofBg bg).has isProtected = false := by
  show contains (0 : CellFlags) isProtected = false
  decide

/-- EL, ED and ECH: the cells of a span are reset. A span behind the last column is empty. -/
theorem erases_resetCells (hp : r.WidePaired) (hr : r.cols = cols) (start stop : Nat) (hstop : stop ≤ cols)
    (hle : start < stop ∨ cols ≤ start ∧ stop = cols) (bg : Color) :
    Erases (fun c => start ≤ c ∧ c < stop) r
      ((r.fixWide cols start stop).resetCells start stop (Cell.ofBg bg)) := by
  rcases hle with hlt | hpast
  · refine erases_of_get hp hr hlt (fun c hc => ?_) fun c hs he => ?_
    · rw [get_resetCells, if_neg fun h => hc h.1]
    · have hcols := cols_fixWide cols start stop r
      unfold guarded
      rw [get_resetCells, if_pos ⟨⟨hs, he⟩, by omega⟩]
      exact ⟨Cell.isPlain_ofBg bg, fun _ => guarded_ofBg bg⟩
  · refine (erases_none hp fun c hc => by omega).of_get fun c => ?_
    have hleft : r.halves.left (stop - 1) = false := by
      by_contra hwide
      have hnext : r.halves.right (stop - 1 + 1) = true := (hp.next _).symm.trans (Bool.not_eq_false _ ▸ hwide)
      have hlt := lt_cols_of_right hnext
      omega
    rw [get_resetCells, if_neg (by omega), get_fixWide hr (.inr hpast), if_neg, if_neg]
    · rw [hleft]
      exact fun h => Bool.false_ne_true h.2.2
    · intro hcut
      have hlt := lt_cols_of_right hcut.2
      omega

/-- The cells past the watermark carry no flags. -/
def ClearPastOcc (r : Row) : Prop := ∀ c ∈ r.tail, c.flags = 0

instance (r : Row) : Decidable r.ClearPastOcc := by
  unfold ClearPastOcc
  infer_instance

theorem ClearPastOcc.plainPastOcc (h : r.ClearPastOcc) : r.PlainPastOcc := by
  intro c hc
  unfold Cell.IsPlain Cell.has
  rw [h c hc]
  exact ⟨rfl, rfl⟩

/-- A whole row that is reset. -/
theorem erases_reset (h : r.ClearPastOcc) (cols : Nat) (bg : Color) :
    Erases (fun _ => True) r (r.reset cols (Cell.ofBg bg)) := by
  have hplain := h.plainPastOcc.get_reset cols (Cell.isPlain_ofBg bg)
  have hguard : ∀ c ∈ r.tail, c.has isProtected = false := by
    intro c hc
    unfold Cell.has
    rw [h c hc]
    rfl
  refine ⟨paired_of_plain hplain, fun c _ _ => ⟨hplain c, ?_⟩, fun c hc => absurd trivial hc⟩
  exact get_reset_of_tail hguard cols (guarded_ofBg bg) rfl c

/-- The pairs across the two edges of a span are cleaned up. -/
def clearEdges (cols left right : Nat) (r : Row) : Row :=
  let r := r.clearWideAt cols left
  if right + 1 < cols then r.clearWideAt cols right else r

/-- Outside the span the two clean-ups are the same. -/
theorem get_clearEdges (hp : r.WidePaired) (hr : r.cols = cols) {left right : Nat} (hle : left ≤ right)
    (hright : right < cols) (c : Nat) (hc : ¬ (left ≤ c ∧ c < right + 1)) :
    (r.clearEdges cols left right).get c = (r.fixWide cols left (right + 1)).get c := by
  have hlt : left < cols := by omega
  have hfirst := get_clearWideAt hr hlt
  have hraw := halves_clearWideAt_raw hr hlt
  have hcols : (r.clearWideAt cols left).cols = cols := (cols_clearWideAt ..).trans hr
  rw [get_fixWide hr (.inl (by omega)), Nat.add_sub_cancel]
  unfold clearEdges
  -- in front of the span, behind it, and anywhere else
  by_cases hprev : c + 1 = left ∧ r.halves.right left = true
  · rw [if_pos hprev]
    by_cases hend : right + 1 < cols
    · rw [if_pos hend, get_clearWideAt hcols hright, hfirst]
      split
      · exact Cell.orphan_orphan ..
      · rw [if_neg (by omega)]
    · rw [if_neg hend, hfirst, if_pos hprev]
  · rw [if_neg hprev]
    by_cases hnext : c = right + 1 ∧ 0 < right + 1 ∧ r.halves.left right = true
    · have hend : right + 1 < cols := by
        have hspacer : r.halves.right (right + 1) = true := (hp.next right).symm.trans hnext.2.2
        have hbound := lt_cols_of_right hspacer
        omega
      have hwide : (r.clearWideAt cols left).halves.left right = true := by
        have hne : (right + 1 == left) = false := beq_eq_false_iff_ne.mpr (by omega)
        rw [(hraw right).1, hne, hnext.2.2]
        rfl
      rw [if_pos hend, get_clearWideAt hcols hright, if_neg (by omega), if_pos ⟨hnext.1, hwide⟩, hfirst, if_neg hprev]
      split
      · exact Cell.orphan_orphan ..
      · rfl
    · rw [if_neg hnext]
      have hsame : (r.clearWideAt cols left).get c = r.get c := by
        rw [hfirst, if_neg hprev, if_neg]
        rintro ⟨hc', hwide⟩
        exact hnext ⟨by omega, by omega, (by omega : right = left) ▸ hwide⟩
      by_cases hend : right + 1 < cols
      · rw [if_pos hend, get_clearWideAt hcols hright, hsame, if_neg, if_neg]
        · rintro ⟨hc', hwide⟩
          rw [(hraw right).1, Bool.and_eq_true] at hwide
          exact hnext ⟨hc', by omega, hwide.1⟩
        · rintro ⟨hc', hspacer⟩
          rw [(hraw right).2, Bool.and_eq_true] at hspacer
          exact hprev ⟨by omega, (by omega : right = left) ▸ hspacer.1⟩
      · rw [if_neg hend]
        exact hsame

/-- DECFRA in one row. -/
def fillSpan (cols left right : Nat) (template : Cell) (r : Row) : Row :=
  ((r.clearEdges cols left right).modifyRange left (right + 1) fun c =>
    (c.reset template).insertFlags drawn).raiseOcc (right + 1)

theorem cols_clearEdges (cols left right : Nat) (r : Row) : (r.clearEdges cols left right).cols = r.cols := by
  unfold clearEdges
  split
  · rw [cols_clearWideAt, cols_clearWideAt]
  · rw [cols_clearWideAt]

section

variable (hp : r.WidePaired) (hr : r.cols = cols) {left right : Nat} (hle : left ≤ right) (hright : right < cols)
  (template : Cell)
include hp hr hle hright template

/-- The cells after a fill. -/
theorem get_fillSpan (c : Nat) :
    (r.fillSpan cols left right template).get c =
      if left ≤ c ∧ c < right + 1 then template.insertFlags drawn
      else (r.fixWide cols left (right + 1)).get c := by
  have hget : (r.fillSpan cols left right template).get c = ((r.clearEdges cols left right).modifyRange left (right + 1)
      fun c => (c.reset template).insertFlags drawn).get c := get_congr (inner_raiseOcc ..) c
  have hcols := cols_clearEdges cols left right r
  rw [hget, get_modifyRange]
  by_cases hin : left ≤ c ∧ c < right + 1
  · rw [if_pos ⟨hin, by omega⟩, if_pos hin, Cell.reset_eq]
  · rw [if_neg fun h => hin h.1, if_neg hin, get_clearEdges hp hr hle hright c hin]

/-- **A fill leaves whole characters exactly when it fills with no half.** -/
theorem WidePaired.fillSpan_iff : (r.fillSpan cols left right template).WidePaired ↔ template.IsPlain := by
  have hget := get_fillSpan hp hr hle hright template
  have hdisj : Disjoint drawn widePair := by decide
  have hflags := template.wide_insertFlags hdisj
  have hlt : left < right + 1 := Nat.lt_succ_of_le hle
  unfold WidePaired
  rw [halves_of_get hp hr hlt (m := ⟨fun _ => template.has wideChar, fun _ => template.has wideCharSpacer⟩)
    (fun c hc => by rw [hget, if_neg hc]) fun c hs he => ?_, Halves.Paired.splice_iff hp hlt]
  · constructor
    · exact fun h => ⟨h.stop, h.start⟩
    · exact fun h => ⟨h.2, h.1, fun _ _ _ => h.1.trans h.2.symm⟩
  · unfold halves
    dsimp only
    rw [hget, if_pos ⟨hs, he⟩]
    exact hflags

theorem frame_fillSpan (c : Nat) (hc : ¬ (left ≤ c ∧ c < right + 1))
    (hne : (r.fillSpan cols left right template).get c ≠ r.get c) :
    ∃ p, (left ≤ p ∧ p < right + 1) ∧ r.OtherHalf c p := by
  have hget := get_fillSpan hp hr hle hright template
  exact frame_of_get hp hr (Nat.lt_succ_of_le hle) (fun c hc => by rw [hget, if_neg hc]) c hc hne

/-- DECFRA and DECERA in one row. -/
theorem cleanErase_fillSpan_iff :
    CleanErase (fun c => left ≤ c ∧ c ≤ right) False r (r.fillSpan cols left right template) ↔ template.IsPlain := by
  have hpaired := hp.fillSpan_iff hr hle hright template
  refine ⟨fun h => hpaired.mp h.paired, fun ht => ⟨hpaired.mpr ht, fun c hc hne => ?_, fun h => absurd h id⟩⟩
  have hout : ¬ (left ≤ c ∧ c < right + 1) := fun h => hc ⟨h.1, Nat.le_of_lt_succ h.2⟩
  obtain ⟨p, hin, hother⟩ := frame_fillSpan hp hr hle hright template c hout hne
  exact ⟨p, ⟨hin.1, Nat.le_of_lt_succ hin.2⟩, hother⟩

end

/-! ## EL in one row -/

/-- The columns that EL with the cursor in column `col` is about. -/
def lineSpan (col : Nat) : LineEraseMode → Nat → Prop
  | .right, c => col ≤ c
  | .left, c => c ≤ col
  | .all, _ => True

/-- EL in one row. -/
def eraseLine (cols col : Nat) (template : Cell) (mode : LineEraseMode) (r : Row) : Row :=
  match mode with
  | .right => ((r.fixWide cols col cols).resetCells col cols template).occAfterRight col cols template
  | .left =>
    let stop := min col (cols - 1) + 1
    ((r.fixWide cols 0 stop).resetCells 0 stop template).occAfterLeft stop template
  | .all => r.reset cols template

theorem erases_eraseLine (hp : r.WidePaired) (hocc : r.ClearPastOcc) (hr : r.cols = cols) (h0 : 0 < cols) (col : Nat)
    (bg : Color) (mode : LineEraseMode) :
    Erases (lineSpan col mode) r (r.eraseLine cols col (Cell.ofBg bg) mode) := by
  cases mode with
  | right =>
    have hspan := erases_resetCells hp hr col cols (Nat.le_refl cols) (by omega) bg
    refine (hspan.of_get (get_congr (inner_occAfterRight ..))).mono (fun c hc => hc.1) fun c hc hlt => ⟨hc, hr ▸ hlt⟩
  | left =>
    have hspan := erases_resetCells hp hr 0 (min col (cols - 1) + 1) (by omega) (by omega) bg
    refine (hspan.of_get (get_congr (inner_occAfterLeft ..))).mono (fun c hc => ?_) fun c hc hlt => ?_
    · show c ≤ col
      omega
    · have hc : c ≤ col := hc
      omega
  | all => exact (erases_reset hocc cols bg).mono (fun _ h => h) fun _ h _ => h

/-- ECH in one row. -/
def eraseChars (cols col count : Nat) (template : Cell) (r : Row) : Row :=
  let stop := min (col + count) cols
  let r := (r.fixWide cols col stop).resetCells col stop template
  if template.isEmpty then r else r.setOcc (max r.occ stop)

theorem erases_eraseChars (hp : r.WidePaired) (hr : r.cols = cols) (col : Nat) {count : Nat} (hpos : 0 < count)
    (bg : Color) :
    Erases (fun c => col ≤ c ∧ c < col + count) r (r.eraseChars cols col count (Cell.ofBg bg)) := by
  have hspan := erases_resetCells hp hr col (min (col + count) cols) (by omega) (by omega) bg
  refine (hspan.of_get fun c => ?_).mono (fun c hc => ?_) fun c hc hlt => ?_
  · unfold eraseChars
    split <;> rfl
  · omega
  · omega

/-! ## DECSERA in one row -/

/-- The pairs across the edges whose own cell is not protected are cleaned up. -/
def clearUnprotectedEdges (cols left right : Nat) (r : Row) : Row :=
  let r' := if !r.guarded left then r.clearWideAt cols left else r
  if !r.guarded right && right + 1 < cols then r'.clearWideAt cols right else r'

/-- DECSERA in one row. -/
def eraseUnprotectedSpan (cols left right : Nat) (template : Cell) (r : Row) : Row :=
  (r.clearUnprotectedEdges cols left right).modifyRange left (right + 1) (Cell.eraseUnprotected template)

/-- **A character with a protected half is protected as a whole**, as far as the span goes. -/
def SparesGuarded (left right : Nat) (r : Row) : Prop := ∀ c < r.cols, r.halves.left c = true →
  (left ≤ c ∧ c ≤ right → r.guarded c = false → r.guarded (c + 1) = false) ∧
    (left ≤ c + 1 ∧ c + 1 ≤ right → r.guarded (c + 1) = false → r.guarded c = false)

instance (left right : Nat) (r : Row) : Decidable (r.SparesGuarded left right) := by
  unfold SparesGuarded
  infer_instance

section

variable (hr : r.cols = cols) {col : Nat} (hcol : col < cols)
include hr hcol

theorem guarded_clearWideAt (c : Nat) : (r.clearWideAt cols col).guarded c = r.guarded c := by
  unfold guarded
  rw [get_clearWideAt hr hcol]
  split
  · exact contains_remove_of_disjoint (by decide)
  · split
    · exact contains_remove_of_disjoint (by decide)
    · rfl

/-- A clean-up that may be left out. -/
theorem halves_clearIf (b : Bool) (c : Nat) :
    (if b then r.clearWideAt cols col else r).halves.left c =
        (r.halves.left c && !(b && (c + 1 == col && r.halves.right col))) ∧
      (if b then r.clearWideAt cols col else r).halves.right c =
        (r.halves.right c && !(b && (c == col + 1 && r.halves.left col))) := by
  cases b with
  | false => simp
  | true => simpa using halves_clearWideAt_raw hr hcol c

/-- A clean-up changes other halves only. -/
theorem clearWideAt_ne (hne : (r.clearWideAt cols col).get c ≠ r.get c) :
    (c + 1 = col ∧ r.halves.right col = true) ∨ (c = col + 1 ∧ r.halves.left col = true) := by
  rw [get_clearWideAt hr hcol] at hne
  split at hne
  · next h => exact .inl h
  · split at hne
    · next h => exact .inr h
    · exact absurd rfl hne

end

variable {left right : Nat}

theorem cols_clearFirst (hr : r.cols = cols) (left : Nat) :
    (if !r.guarded left then r.clearWideAt cols left else r).cols = cols := by
  split
  · exact (cols_clearWideAt ..).trans hr
  · exact hr

/-- **What the clean-up of DECSERA changes** is the other half of an unprotected edge. -/
theorem clearUnprotectedEdges_ne (hp : r.WidePaired) (hr : r.cols = cols) (hle : left ≤ right) (hright : right < cols)
    (hne : (r.clearUnprotectedEdges cols left right).get c ≠ r.get c) :
    ∃ q, (left ≤ q ∧ q ≤ right) ∧ r.guarded q = false ∧ r.OtherHalf c q := by
  have hlt : left < cols := by omega
  have hcols := cols_clearFirst hr left
  have hraw := halves_clearIf hr hlt (!r.guarded left) right
  -- in the first clean-up, in the second one, or not at all
  have hcase : ((if !r.guarded left then r.clearWideAt cols left else r).get c ≠ r.get c) ∨
      r.guarded right = false ∧ (((if !r.guarded left then r.clearWideAt cols left else r).clearWideAt cols right).get c
        ≠ (if !r.guarded left then r.clearWideAt cols left else r).get c) := by
    by_contra hsame
    obtain ⟨hfirst, hsecond⟩ := not_or.mp hsame
    rw [not_not] at hfirst
    refine hne ?_
    unfold clearUnprotectedEdges
    dsimp only
    split
    · next hb =>
      rw [Bool.and_eq_true, Bool.not_eq_true'] at hb
      by_contra hchanged
      exact hsecond ⟨hb.1, fun heq => hchanged (heq.trans hfirst)⟩
    · exact hfirst
  rcases hcase with hfirst | ⟨hguard, hsecond⟩
  · split at hfirst
    · next hg =>
      rw [Bool.not_eq_true'] at hg
      refine ⟨left, ⟨Nat.le_refl left, hle⟩, hg, ?_⟩
      rcases clearWideAt_ne hr hlt hfirst with ⟨heq, hspacer⟩ | ⟨heq, hwide⟩
      · refine .inl ⟨heq.symm, ?_⟩
        rw [hp.next, heq]
        exact hspacer
      · exact .inr ⟨heq, hwide⟩
    · exact absurd rfl hfirst
  · refine ⟨right, ⟨hle, Nat.le_refl right⟩, hguard, ?_⟩
    rcases clearWideAt_ne hcols hright hsecond with ⟨heq, hspacer⟩ | ⟨heq, hwide⟩
    · rw [hraw.2, Bool.and_eq_true] at hspacer
      refine .inl ⟨heq.symm, ?_⟩
      rw [hp.next, heq]
      exact hspacer.1
    · rw [hraw.1, Bool.and_eq_true] at hwide
      exact .inr ⟨heq, hwide.1⟩

/-- The cell is erased. -/
def Hit (left right : Nat) (r : Row) (c : Nat) : Prop := (left ≤ c ∧ c ≤ right) ∧ r.guarded c = false

theorem cols_clearUnprotectedEdges (hr : r.cols = cols) (left right : Nat) :
    (r.clearUnprotectedEdges cols left right).cols = cols := by
  have hcols := cols_clearFirst hr left
  unfold clearUnprotectedEdges
  dsimp only
  split
  · exact (cols_clearWideAt ..).trans hcols
  · exact hcols

section

variable (hr : r.cols = cols) (hle : left ≤ right) (hright : right < cols)
include hr hle hright

theorem guarded_clearUnprotectedEdges (c : Nat) :
    (r.clearUnprotectedEdges cols left right).guarded c = r.guarded c := by
  have hfirst : (if !r.guarded left then r.clearWideAt cols left else r).guarded c = r.guarded c := by
    split
    · exact guarded_clearWideAt hr (by omega) c
    · rfl
  unfold clearUnprotectedEdges
  dsimp only
  split
  · exact (guarded_clearWideAt (cols_clearFirst hr left) hright c).trans hfirst
  · exact hfirst

/-- The cells after DECSERA: the ones that are hit are replaced, the others are as the clean-up leaves them. -/
theorem get_eraseUnprotectedSpan (template : Cell) (c : Nat) :
    (Hit left right r c → (r.eraseUnprotectedSpan cols left right template).get c = template.insertFlags drawn) ∧
      (¬ Hit left right r c →
        (r.eraseUnprotectedSpan cols left right template).get c = (r.clearUnprotectedEdges cols left right).get c) := by
  have hcols := cols_clearUnprotectedEdges hr left right
  have hguard := guarded_clearUnprotectedEdges hr hle hright c
  unfold guarded at hguard
  unfold eraseUnprotectedSpan Hit guarded
  rw [get_modifyRange]
  constructor
  · rintro ⟨hin, hg⟩
    rw [if_pos ⟨⟨hin.1, by omega⟩, by omega⟩]
    unfold Cell.eraseUnprotected
    rw [hguard, hg, if_neg Bool.false_ne_true, Cell.reset_eq]
  · intro hmiss
    split
    · next hin =>
      have hg : (r.get c).has isProtected = true := by
        by_contra hfalse
        exact hmiss ⟨⟨hin.1.1, by omega⟩, Bool.eq_false_iff.mpr hfalse⟩
      unfold Cell.eraseUnprotected
      rw [hguard, hg, if_pos rfl]
    · rfl

/-- The halves after the clean-up of DECSERA. -/
theorem halves_clearUnprotectedEdges (c : Nat) :
    ((r.clearUnprotectedEdges cols left right).halves.left c = true ↔ r.halves.left c = true ∧
        ¬ (r.guarded left = false ∧ c + 1 = left ∧ r.halves.right left = true) ∧
        ¬ ((r.guarded right = false ∧ right + 1 < cols) ∧ c + 1 = right ∧ r.halves.right right = true ∧
          ¬ (r.guarded left = false ∧ right = left + 1 ∧ r.halves.left left = true))) ∧
      ((r.clearUnprotectedEdges cols left right).halves.right c = true ↔ r.halves.right c = true ∧
        ¬ (r.guarded left = false ∧ c = left + 1 ∧ r.halves.left left = true) ∧
        ¬ ((r.guarded right = false ∧ right + 1 < cols) ∧ c = right + 1 ∧ r.halves.left right = true)) := by
  have hcols := cols_clearFirst hr left
  have hlt : left < cols := by omega
  have hfirst := halves_clearIf hr hlt (!r.guarded left)
  have hsecond := halves_clearIf hcols hright (!r.guarded right && decide (right + 1 < cols)) c
  unfold clearUnprotectedEdges
  constructor
  · grind
  · grind

end

/-- A clean DECSERA has met no character of which only one half is protected. -/
theorem sparesGuarded_of_cleanErase (hp : r.WidePaired) (hr : r.cols = cols) (hle : left ≤ right) (hright : right < cols)
    {template : Cell} (ht : template.IsPlain)
    (hspares : CleanErase (fun c => left ≤ c ∧ c ≤ right) True r (r.eraseUnprotectedSpan cols left right template)) :
    r.SparesGuarded left right := by
  have hget := get_eraseUnprotectedSpan hr hle hright template
  have hplain := ht.insertFlags (show Disjoint drawn widePair by decide)
  intro c _ hwide
  have hpair : (r.eraseUnprotectedSpan cols left right template).halves.left c
      = (r.eraseUnprotectedSpan cols left right template).halves.right (c + 1) := hspares.paired.next c
  constructor
  · intro hin hg
    by_contra hother
    -- the spacer stays and its base is erased
    have hgone : (r.eraseUnprotectedSpan cols left right template).halves.left c = false := by
      show Cell.has _ _ = false
      rw [(hget c).1 ⟨hin, hg⟩]
      exact hplain.1
    have hstays : (r.eraseUnprotectedSpan cols left right template).halves.right (c + 1) = true := by
      show Cell.has _ _ = true
      rw [hspares.guarded trivial (c + 1) (Bool.not_eq_false _ ▸ hother)]
      exact (hp.next c).symm.trans hwide
    rw [hgone, hstays] at hpair
    cases hpair
  · intro hin hg
    by_contra hother
    -- the base stays and its spacer is erased
    have hstays : (r.eraseUnprotectedSpan cols left right template).halves.left c = true := by
      show Cell.has _ _ = true
      rw [hspares.guarded trivial c (Bool.not_eq_false _ ▸ hother)]
      exact hwide
    have hgone : (r.eraseUnprotectedSpan cols left right template).halves.right (c + 1) = false := by
      show Cell.has _ _ = false
      rw [(hget (c + 1)).1 ⟨hin, hg⟩]
      exact hplain.2
    rw [hgone, hstays] at hpair
    cases hpair

/-- A partner that is hit is not protected itself. -/
theorem SparesGuarded.partner (hspares : r.SparesGuarded left right) {q : Nat} (hq : Hit left right r q)
    (hother : r.OtherHalf c q) : r.guarded c = false := by
  obtain ⟨hin, hg⟩ := hq
  rcases hother with ⟨rfl, hwide⟩ | ⟨rfl, hwide⟩
  · exact (hspares c (lt_cols_of_left hwide) hwide).2 hin hg
  · exact (hspares q (lt_cols_of_left hwide) hwide).1 hin hg

section

variable (hspares : r.SparesGuarded left right) (hp : r.WidePaired) (hr : r.cols = cols) (hle : left ≤ right)
  (hright : right < cols)
include hspares hp hr hle hright

/-- A base that is not hit stays exactly when its spacer is not hit. -/
theorem SparesGuarded.left_iff (hc : ¬ Hit left right r c) :
    (r.clearUnprotectedEdges cols left right).halves.left c = true ↔
      r.halves.left c = true ∧ ¬ Hit left right r (c + 1) := by
  rw [(halves_clearUnprotectedEdges hr hle hright c).1]
  constructor
  · rintro ⟨hwide, hedge, -⟩
    refine ⟨hwide, fun hnext => ?_⟩
    have hg := hspares.partner hnext (.inl ⟨rfl, hwide⟩)
    have hout : ¬ (left ≤ c ∧ c ≤ right) := fun hin => hc ⟨hin, hg⟩
    have hcut : c + 1 = left := by have := hnext.1; omega
    refine hedge ⟨hcut ▸ hnext.2, hcut, ?_⟩
    rw [← hcut, ← hp.next]
    exact hwide
  · rintro ⟨hwide, hnext⟩
    refine ⟨hwide, ?_, ?_⟩
    · rintro ⟨hg, hcut, -⟩
      exact hnext ⟨by omega, hcut ▸ hg⟩
    · rintro ⟨⟨hg, -⟩, hcut, -⟩
      exact hnext ⟨by omega, hcut ▸ hg⟩

/-- And a spacer that is not hit stays exactly when its base is not hit. -/
theorem SparesGuarded.right_iff (hc : ¬ Hit left right r (c + 1)) :
    (r.clearUnprotectedEdges cols left right).halves.right (c + 1) = true ↔
      r.halves.left c = true ∧ ¬ Hit left right r c := by
  rw [(halves_clearUnprotectedEdges hr hle hright (c + 1)).2, ← hp.next]
  constructor
  · rintro ⟨hwide, -, hedge⟩
    refine ⟨hwide, fun hprev => ?_⟩
    have hg := hspares.partner hprev (.inr ⟨rfl, hwide⟩)
    have hout : ¬ (left ≤ c + 1 ∧ c + 1 ≤ right) := fun hin => hc ⟨hin, hg⟩
    have hcut : c = right := by have := hprev.1; omega
    have hbound : c + 1 < cols := hr ▸ lt_cols_of_right ((hp.next c).symm.trans hwide)
    exact hedge ⟨⟨hcut ▸ hprev.2, by omega⟩, by omega, hcut ▸ hwide⟩
  · rintro ⟨hwide, hprev⟩
    refine ⟨hwide, ?_, ?_⟩
    · rintro ⟨hg, hcut, -⟩
      have hcut : c = left := by omega
      exact hprev ⟨by omega, hcut ▸ hg⟩
    · rintro ⟨⟨hg, -⟩, hcut, -⟩
      have hcut : c = right := by omega
      exact hprev ⟨by omega, hcut ▸ hg⟩

end

/-- **DECSERA is clean exactly when it meets no character of which only one half is protected**: it would erase the other
    half, or blank the protected one. -/
theorem cleanErase_eraseUnprotectedSpan_iff (hp : r.WidePaired) (hr : r.cols = cols) (hle : left ≤ right) (hright : right < cols)
    {template : Cell} (ht : template.IsPlain) :
    CleanErase (fun c => left ≤ c ∧ c ≤ right) True r (r.eraseUnprotectedSpan cols left right template) ↔
      r.SparesGuarded left right := by
  have hget := get_eraseUnprotectedSpan hr hle hright template
  have hplain := ht.insertFlags (show Disjoint drawn widePair by decide)
  refine ⟨sparesGuarded_of_cleanErase hp hr hle hright ht, fun hspares => ?_⟩
  have hhit : ∀ c, Hit left right r c → (r.eraseUnprotectedSpan cols left right template).halves.left c = false ∧
      (r.eraseUnprotectedSpan cols left right template).halves.right c = false := by
    intro c h
    unfold halves
    dsimp only
    rw [(hget c).1 h]
    exact hplain
  have hmiss : ∀ c, ¬ Hit left right r c → (r.eraseUnprotectedSpan cols left right template).halves.left c =
        (r.clearUnprotectedEdges cols left right).halves.left c ∧
      (r.eraseUnprotectedSpan cols left right template).halves.right c =
        (r.clearUnprotectedEdges cols left right).halves.right c := by
    intro c h
    unfold halves
    dsimp only
    rw [(hget c).2 h]
    exact ⟨rfl, rfl⟩
  refine ⟨⟨?_, fun c => ?_⟩, fun c hc hne => ?_, fun _ c hc => ?_⟩
  · by_cases h : Hit left right r 0
    · exact (hhit 0 h).2
    · rw [(hmiss 0 h).2, Bool.eq_false_iff]
      intro htrue
      have hright₀ := ((halves_clearUnprotectedEdges hr hle hright 0).2.mp htrue).1
      rw [hp.start] at hright₀
      cases hright₀
  · by_cases hc : Hit left right r c
    · rw [(hhit c hc).1]
      by_cases hnext : Hit left right r (c + 1)
      · exact (hhit (c + 1) hnext).2.symm
      · rw [(hmiss (c + 1) hnext).2, eq_comm, Bool.eq_false_iff]
        exact fun htrue => ((hspares.right_iff hp hr hle hright hnext).mp htrue).2 hc
    · rw [(hmiss c hc).1]
      by_cases hnext : Hit left right r (c + 1)
      · rw [(hhit (c + 1) hnext).2, Bool.eq_false_iff]
        exact fun htrue => ((hspares.left_iff hp hr hle hright hc).mp htrue).2 hnext
      · rw [(hmiss (c + 1) hnext).2, Bool.eq_iff_iff, hspares.left_iff hp hr hle hright hc, hspares.right_iff hp hr hle hright hnext]
        exact and_congr_right fun _ => iff_of_true hnext hc
  · rw [(hget c).2 fun hhit => hc hhit.1] at hne
    obtain ⟨q, hin, -, hother⟩ := clearUnprotectedEdges_ne hp hr hle hright hne
    exact ⟨q, hin, hother⟩
  · by_contra hne
    have hmiss : ¬ Hit left right r c := by
      rintro ⟨-, hg⟩
      rw [hc] at hg
      cases hg
    rw [(hget c).2 hmiss] at hne
    obtain ⟨q, hin, hg, hother⟩ := clearUnprotectedEdges_ne hp hr hle hright hne
    rw [hspares.partner ⟨hin, hg⟩ hother] at hc
    cases hc

/-- The last unprotected column of `left ..= right`. -/
def lastUnprotected (left right : Nat) (r : Row) : Option Nat :=
  (List.range' left (right + 1 - left)).reverse.find? fun col => !r.guarded col

/-- DECSERA in one row, with the watermark. -/
def eraseUnprotected (cols left right : Nat) (template : Cell) (r : Row) : Row :=
  match (r.clearUnprotectedEdges cols left right).lastUnprotected left right with
  | some endCol => (r.eraseUnprotectedSpan cols left right template).raiseOcc (endCol + 1)
  | none => r.eraseUnprotectedSpan cols left right template

theorem inner_eraseUnprotected (cols left right : Nat) (template : Cell) (r : Row) :
    (r.eraseUnprotected cols left right template).inner = (r.eraseUnprotectedSpan cols left right template).inner := by
  unfold eraseUnprotected
  split
  · exact inner_raiseOcc ..
  · rfl

end Row

namespace Grid

variable {g g' : Grid} {F : Nat → Row → Row} {region : Nat → Nat → Prop} {selective : Prop}

variable {area : RectArea}

/-- The cells past the watermarks carry no flags. -/
structure ClearPastOcc (g : Grid) : Prop where
  rows : ∀ r ∈ g.rows, r.ClearPastOcc
  history : ∀ r ∈ g.scrollback.rows, r.ClearPastOcc

theorem clearPastOcc_def (g : Grid) :
    g.ClearPastOcc ↔ (∀ r ∈ g.rows, r.ClearPastOcc) ∧ ∀ r ∈ g.scrollback.rows, r.ClearPastOcc :=
  ⟨fun h => ⟨h.rows, h.history⟩, fun h => ⟨h.1, h.2⟩⟩

instance (g : Grid) : Decidable g.ClearPastOcc := decidable_of_iff _ g.clearPastOcc_def.symm

/-- **What an erase of a region of the screen owes the grid.** -/
structure CleanErase (region : Nat → Nat → Prop) (selective : Prop) (g g' : Grid) : Prop where
  paired : g'.WidePaired
  frame : ∀ i < g.rows.length, ∀ c, ¬ region i c → (g'.row i).get c ≠ (g.row i).get c →
    ∃ p, region i p ∧ (g.row i).OtherHalf c p
  guarded : selective → ∀ i < g.rows.length, ∀ c, (g.row i).guarded c = true → (g'.row i).get c = (g.row i).get c

/-- Erases are judged row by row. -/
theorem cleanErase_iff (hrows : ∀ i, g'.rows[i]? = g.rows[i]?.map (F i))
    (hhistory : ∀ r ∈ g'.scrollback.rows, r ∈ g.scrollback.rows) (hp : g.WidePaired) :
    CleanErase region selective g g' ↔
      ∀ i < g.rows.length, Row.CleanErase (region i) selective (g.row i) (F i (g.row i)) := by
  have hrow : ∀ i < g.rows.length, g'.rows[i]? = some (F i (g.row i)) := fun i hi => by
    rw [hrows, getElem?_row hi, Option.map_some]
  constructor
  · intro h i hi
    have hsame : g'.row i = F i (g.row i) := row_eq (hrow i hi)
    rw [← hsame]
    refine ⟨h.paired.rows _ ?_, h.frame i hi, fun hsel => h.guarded hsel i hi⟩
    rw [hsame]
    exact List.mem_of_getElem? (hrow i hi)
  · intro h
    refine ⟨⟨fun r' hr' => ?_, fun r hr => hp.history r (hhistory r hr)⟩, fun i hi => ?_, fun hsel i hi => ?_⟩
    · obtain ⟨i, hi⟩ := List.mem_iff_getElem?.mp hr'
      have hlt : i < g.rows.length := by
        by_contra hge
        rw [hrows, List.getElem?_eq_none (Nat.le_of_not_lt hge)] at hi
        cases hi
      obtain rfl := Option.some.inj ((hrow i hlt).symm.trans hi)
      exact (h i hlt).paired
    · rw [row_eq (hrow i hi)]
      exact (h i hi).frame
    · rw [row_eq (hrow i hi)]
      exact (h i hi).guarded hsel

/-- Nothing protected is in the region, or the other half of what is. -/
def Spares (g : Grid) (region : Nat → Nat → Prop) : Prop := ∀ i < g.rows.length, (g.row i).Spares (region i)

/-- A plain erase is clean; a selective one that is carried out as a plain one is clean when it meets nothing protected. -/
theorem cleanErase_iff_spares (hrows : ∀ i, g'.rows[i]? = g.rows[i]?.map (F i))
    (hhistory : ∀ r ∈ g'.scrollback.rows, r ∈ g.scrollback.rows) (hp : g.WidePaired)
    (herases : ∀ i < g.rows.length, Row.Erases (region i) (g.row i) (F i (g.row i))) :
    CleanErase region selective g g' ↔ (selective → g.Spares region) := by
  rw [cleanErase_iff hrows hhistory hp]
  constructor
  · exact fun h hsel i hi => ((herases i hi).cleanErase_iff (hp.row hi)).mp (h i hi) hsel
  · exact fun h i hi => ((herases i hi).cleanErase_iff (hp.row hi)).mpr fun hsel => h hsel i hi

/-! ## ED, EL and ECH -/

theorem editsRows_eraseLine (g : Grid) (mode : LineEraseMode) (template : Cell) :
    EditsRows (atLine g.cursor.line (Row.eraseLine g.cols g.cursor.col template mode)) g
      (g.eraseLineWithTemplate mode template) := by
  cases mode with
  | right =>
    exact ((editsRows_fixWideBoundaries g g.cursor.line g.cursor.col g.cols).editRow fun r =>
      (r.resetCells g.cursor.col g.cols template).occAfterRight g.cursor.col g.cols template).markCols ..
  | left =>
    exact ((editsRows_fixWideBoundaries g g.cursor.line 0 (min g.cursor.col (g.cols - 1) + 1)).editRow fun r =>
      (r.resetCells 0 (min g.cursor.col (g.cols - 1) + 1) template).occAfterLeft
        (min g.cursor.col (g.cols - 1) + 1) template).markCols ..
  | all =>
    have hedit := editsRows_editRow g g.cursor.line (·.reset g.cols template)
    exact ⟨hedit.rows, hedit.scrollback, hedit.cols⟩

theorem editsRows_resetLines (g : Grid) (start stop : Nat) (template : Cell) :
    EditsRows (onLines start stop (Row.reset · g.cols template)) g (g.resetLines start stop template) :=
  editsRows_lines fun i x hx => by
    rw [hx]
    exact editsRows_editRow ..

theorem editsRows_eraseChars (g : Grid) {count : Nat} (h0 : count ≠ 0) :
    EditsRows (atLine g.cursor.line (Row.eraseChars g.cols g.cursor.col count g.bceTemplate)) g (g.eraseChars count) := by
  unfold Grid.eraseChars
  rw [if_neg h0]
  exact ((editsRows_fixWideBoundaries g g.cursor.line g.cursor.col (min (g.cursor.col + count) g.cols)).editRow fun r =>
    let r := r.resetCells g.cursor.col (min (g.cursor.col + count) g.cols) g.bceTemplate
    if g.bceTemplate.isEmpty then r else r.setOcc (max r.occ (min (g.cursor.col + count) g.cols))).markCols ..

/-- The cells that EL is about. -/
def lineRegion (g : Grid) (mode : LineEraseMode) (i c : Nat) : Prop :=
  i = g.cursor.line ∧ Row.lineSpan g.cursor.col mode c

/-- The cells that ED is about. -/
def displayRegion (g : Grid) (mode : DisplayEraseMode) (i c : Nat) : Prop :=
  match mode with
  | .below => g.lineRegion .right i c ∨ g.cursor.line < i
  | .above => g.lineRegion .left i c ∨ i < g.cursor.line
  | .all => True
  | .scrollback => False

/-- What ED does to row `i`: the line of the cursor like EL, the lines on one side of it reset. -/
def displayEdit (g : Grid) (mode : DisplayEraseMode) (i : Nat) (r : Row) : Row :=
  let template := g.bceTemplate
  match mode with
  | .below =>
    onLines (g.cursor.line + 1) g.lines (Row.reset · g.cols template) i
      (atLine g.cursor.line (Row.eraseLine g.cols g.cursor.col template .right) i r)
  | .above =>
    onLines 0 g.cursor.line (Row.reset · g.cols template) i
      (atLine g.cursor.line (Row.eraseLine g.cols g.cursor.col template .left) i r)
  | .all => onLines 0 g.lines (Row.reset · g.cols template) i r
  | .scrollback => r

/-- EL, then the lines `[start, stop)` are reset. -/
theorem editsRows_lineThenReset (g : Grid) (mode : LineEraseMode) (start stop : Nat) (template : Cell) :
    EditsRows (fun i r => onLines start stop (Row.reset · g.cols template) i
      (atLine g.cursor.line (Row.eraseLine g.cols g.cursor.col template mode) i r)) g
      ((g.eraseLineWithTemplate mode template).resetLines start stop template) := by
  have hline := editsRows_eraseLine g mode template
  have hreset := editsRows_resetLines (g.eraseLineWithTemplate mode template) start stop template
  rw [hline.cols] at hreset
  exact hline.trans hreset

/-- What is marked afterwards is not part of the contents. -/
theorem EditsRows.markIf (h : EditsRows F g g') (p : Prop) [Decidable p] (start stop : Nat) :
    EditsRows F g (if p then g'.markRange start stop else g') := by
  split
  · exact h.markRange start stop
  · exact h

theorem editsRows_eraseBelow (hg : Framed g) : EditsRows (g.displayEdit .below) g (g.eraseDisplay .below) := by
  have hcursor := (paints_eraseLineWithTemplate (g := g) nofun .right g.bceTemplate nofun).sameCursor.cursor
  have hlines : (g.eraseLineWithTemplate .right g.bceTemplate).lines = g.lines :=
    (tracked_eraseLineWithTemplate hg .right g.bceTemplate).lines
  have hedit := editsRows_lineThenReset g .right (g.cursor.line + 1) g.lines g.bceTemplate
  unfold eraseDisplay
  dsimp only
  rw [hcursor, hlines]
  exact hedit.markIf ..

theorem editsRows_eraseAbove (g : Grid) : EditsRows (g.displayEdit .above) g (g.eraseDisplay .above) := by
  have hcursor := (paints_eraseLineWithTemplate (g := g) nofun .left g.bceTemplate nofun).sameCursor.cursor
  have hedit := editsRows_lineThenReset g .left 0 g.cursor.line g.bceTemplate
  unfold eraseDisplay
  dsimp only
  rw [hcursor]
  exact hedit.markIf ..

theorem rows_eraseDisplay (hg : Framed g) (mode : DisplayEraseMode) (i : Nat) :
    (g.eraseDisplay mode).rows[i]? = g.rows[i]?.map (g.displayEdit mode i) := by
  cases mode with
  | below => exact (editsRows_eraseBelow hg).rows i
  | above => exact (editsRows_eraseAbove g).rows i
  | all => exact (editsRows_resetLines g 0 g.lines g.bceTemplate).rows i
  | scrollback => exact (EditsRows.refl g).rows i

/-- ED leaves the scrollback alone, takes the stale overflow out of it, or empties it. -/
theorem history_eraseDisplay (hg : Framed g) (mode : DisplayEraseMode) :
    ∀ r ∈ (g.eraseDisplay mode).scrollback.rows, r ∈ g.scrollback.rows := by
  cases mode with
  | below =>
    rw [(editsRows_eraseBelow hg).scrollback]
    exact fun _ h => h
  | above =>
    rw [(editsRows_eraseAbove g).scrollback]
    exact fun _ h => h
  | all =>
    have hsame := (editsRows_resetLines g 0 g.lines g.bceTemplate).scrollback
    intro r hr
    rw [← hsame]
    exact mem_freshScrollback hr
  | scrollback =>
    intro r hr
    cases hr

theorem ClearPastOcc.row (h : g.ClearPastOcc) {i : Nat} (hi : i < g.rows.length) : (g.row i).ClearPastOcc :=
  h.rows _ (List.mem_of_getElem? (getElem?_row hi))

/-- EL in the line of the cursor. -/
theorem erases_line (hb : Bounded g) (hocc : g.ClearPastOcc) (hp : g.WidePaired) (mode : LineEraseMode) {i : Nat}
    (hi : i < g.rows.length) :
    Row.Erases (g.lineRegion mode i) (g.row i)
      (atLine g.cursor.line (Row.eraseLine g.cols g.cursor.col g.bceTemplate mode) i (g.row i)) := by
  have hmargins := hb.margins
  unfold atLine
  by_cases hline : i = g.cursor.line
  · rw [if_pos hline]
    have hrow := Row.erases_eraseLine (hp.row hi) (hocc.row hi) (hb.cols_row hi) (by omega) g.cursor.col
      g.cursor.template.bg mode
    exact hrow.mono (fun c hc => ⟨hline, hc⟩) fun c hc _ => hc.2
  · rw [if_neg hline]
    exact Row.erases_none (hp.row hi) fun c hc => absurd hc.1 hline

/-- ED: a line next to the one of the cursor is reset, the one of the cursor like EL. -/
theorem erases_display (hb : Bounded g) (hocc : g.ClearPastOcc) (hp : g.WidePaired) (mode : DisplayEraseMode) {i : Nat}
    (hi : i < g.rows.length) :
    Row.Erases (g.displayRegion mode i) (g.row i) (g.displayEdit mode i (g.row i)) := by
  have hlines := hb.rows
  have hreset : Row.Erases (fun _ => True) (g.row i) ((g.row i).reset g.cols g.bceTemplate) :=
    Row.erases_reset (hocc.row hi) g.cols g.cursor.template.bg
  cases mode with
  | below =>
    unfold displayEdit onLines
    dsimp only
    by_cases hbelow : g.cursor.line < i
    · rw [if_pos ⟨hbelow, by omega⟩]
      have hsame : atLine g.cursor.line (Row.eraseLine g.cols g.cursor.col g.bceTemplate .right) i (g.row i) = g.row i :=
        if_neg (by omega)
      rw [hsame]
      exact hreset.mono (fun _ _ => .inr hbelow) fun _ _ _ => trivial
    · rw [if_neg fun h => hbelow h.1]
      refine (erases_line hb hocc hp .right hi).mono (fun _ hc => .inl hc) fun c hc _ => ?_
      rcases hc with hc | hc
      · exact hc
      · exact absurd hc hbelow
  | above =>
    unfold displayEdit onLines
    dsimp only
    by_cases habove : i < g.cursor.line
    · rw [if_pos ⟨Nat.zero_le i, habove⟩]
      have hsame : atLine g.cursor.line (Row.eraseLine g.cols g.cursor.col g.bceTemplate .left) i (g.row i) = g.row i :=
        if_neg (by omega)
      rw [hsame]
      exact hreset.mono (fun _ _ => .inr habove) fun _ _ _ => trivial
    · rw [if_neg fun h => habove h.2]
      refine (erases_line hb hocc hp .left hi).mono (fun _ hc => .inl hc) fun c hc _ => ?_
      rcases hc with hc | hc
      · exact hc
      · exact absurd hc habove
  | all =>
    unfold displayEdit onLines
    dsimp only
    rw [if_pos ⟨Nat.zero_le i, by omega⟩]
    exact hreset
  | scrollback => exact Row.erases_none (hp.row hi) fun _ hc => absurd hc id

/-! ## Areas -/

theorem editsRows_clearEdges (g : Grid) (line left right : Nat) :
    EditsRows (atLine line (Row.clearEdges g.cols left right)) g (g.clearEdges line left right) := by
  have hfirst := editsRows_clearWideCharAt g line left
  unfold Grid.clearEdges Row.clearEdges
  dsimp only
  rw [hfirst.cols]
  by_cases hlt : right + 1 < g.cols
  · have hsecond := editsRows_clearWideCharAt (g.clearWideCharAt line left) line right
    rw [hfirst.cols] at hsecond
    simp only [if_pos hlt]
    exact hfirst.then_line hsecond
  · simp only [if_neg hlt]
    exact hfirst

theorem editsRows_fillRect (g : Grid) (area : RectArea) (template : Cell) :
    EditsRows (onLines area.top (area.bot + 1) (Row.fillSpan g.cols area.left area.right template)) g
      (g.fillRect area template) :=
  editsRows_lines fun i x hx => by
    have hedges := editsRows_clearEdges x i area.left area.right
    rw [hx] at hedges
    exact (hedges.editRow fun r => (r.modifyRange area.left (area.right + 1) fun c =>
      (c.reset template).insertFlags drawn).raiseOcc (area.right + 1)).markCols ..

theorem editsRows_clearUnprotectedEdges (g : Grid) (line left right : Nat) :
    EditsRows (atLine line (Row.clearUnprotectedEdges g.cols left right)) g (g.clearUnprotectedEdges line left right) := by
  have hfirst := EditsRows.ite (p := fun r => (!r.guarded left) = true)
    (editsRows_clearWideCharAt g line left) ((EditsRows.refl g).at_line line)
  have hcell : ∀ col, (g.cell line col).has isProtected = (g.row line).guarded col := fun _ => rfl
  unfold Grid.clearUnprotectedEdges Row.clearUnprotectedEdges
  dsimp only
  rw [hcell, hcell, hfirst.cols]
  have hsecond := editsRows_clearWideCharAt
    (if (!(g.row line).guarded left) = true then g.clearWideCharAt line left else g) line right
  rw [hfirst.cols] at hsecond
  exact EditsRows.ite
    (hfirst.then_line hsecond) hfirst

theorem editsRows_eraseUnprotected (g : Grid) (line left right : Nat) (template : Cell) :
    EditsRows (atLine line (Row.eraseUnprotected g.cols left right template)) g
      (match (g.clearUnprotectedEdges line left right).lastUnprotected line left right with
      | some endCol => (((g.clearUnprotectedEdges line left right).editRow line
          (Row.modifyRange left (right + 1) (Cell.eraseUnprotected template))).editRow line
          (Row.raiseOcc (endCol + 1))).markCols line left endCol
      | none => (g.clearUnprotectedEdges line left right).editRow line
          (Row.modifyRange left (right + 1) (Cell.eraseUnprotected template))) := by
  have hclean := editsRows_clearUnprotectedEdges g line left right
  have hspan := hclean.editRow (Row.modifyRange left (right + 1) (Cell.eraseUnprotected template))
  -- the column is looked up in the row as the clean-up leaves it
  have hlast : ∀ r, g.rows[line]? = some r →
      (g.clearUnprotectedEdges line left right).lastUnprotected line left right
        = (r.clearUnprotectedEdges g.cols left right).lastUnprotected left right := by
    intro r hr
    have hrow := hclean.row hr
    unfold atLine at hrow
    rw [if_pos rfl] at hrow
    rw [← row_eq hrow]
    rfl
  cases hfound : (g.clearUnprotectedEdges line left right).lastUnprotected line left right with
  | none =>
    refine hspan.congr fun i r hr => ?_
    unfold atLine
    by_cases hi : i = line
    · unfold Row.eraseUnprotected
      rw [← hlast r (hi ▸ hr), hfound]
      rfl
    · rw [if_neg hi, if_neg hi]
  | some endCol =>
    refine ((hspan.editRow (Row.raiseOcc (endCol + 1))).markCols line left endCol).congr fun i r hr => ?_
    unfold atLine
    by_cases hi : i = line
    · unfold Row.eraseUnprotected
      rw [← hlast r (hi ▸ hr), hfound]
      rfl
    · rw [if_neg hi, if_neg hi]

theorem editsRows_eraseRectUnprotected (g : Grid) (area : RectArea) (bg : Color) :
    EditsRows (onLines area.top (area.bot + 1) (Row.eraseUnprotected g.cols area.left area.right (Cell.ofBg bg))) g
      (g.eraseRectUnprotected area bg) :=
  editsRows_lines fun i x hx => by
    have hrow := editsRows_eraseUnprotected x i area.left area.right (Cell.ofBg bg)
    rw [hx] at hrow
    exact hrow

/-- The cells of an area. -/
def areaRegion (area : RectArea) (i c : Nat) : Prop := (area.top ≤ i ∧ i ≤ area.bot) ∧ area.left ≤ c ∧ c ≤ area.right

/-- The area lies on the screen. -/
def InRange (g : Grid) (area : RectArea) : Prop :=
  (area.top ≤ area.bot ∧ area.bot < g.lines) ∧ area.left ≤ area.right ∧ area.right < g.cols

instance (g : Grid) (area : RectArea) : Decidable (g.InRange area) := by
  unfold InRange
  infer_instance

/-- An erase of an area is judged by what it does to the columns of the area in each of its rows. -/
theorem cleanErase_area_iff {f : Row → Row} (h : EditsRows (onLines area.top (area.bot + 1) f) g g')
    (hb : Bounded g) (hp : g.WidePaired) (hin : g.InRange area) :
    CleanErase (areaRegion area) selective g g' ↔ ∀ i, area.top ≤ i → i ≤ area.bot →
      Row.CleanErase (fun c => area.left ≤ c ∧ c ≤ area.right) selective (g.row i) (f (g.row i)) := by
  have hlines := hb.rows
  have hbot := hin.1.2
  have hregion : ∀ i, (area.top ≤ i ∧ i < area.bot + 1) →
      areaRegion area i = fun c => area.left ≤ c ∧ c ≤ area.right := by
    intro i hi
    funext c
    exact propext ⟨fun hc => hc.2, fun hc => ⟨⟨hi.1, Nat.le_of_lt_succ hi.2⟩, hc⟩⟩
  rw [cleanErase_iff h.rows (fun r hr => h.scrollback ▸ hr) hp]
  unfold onLines
  constructor
  · intro hall i htop hle
    have hline : area.top ≤ i ∧ i < area.bot + 1 := ⟨htop, by omega⟩
    have hrow := hall i (by omega)
    rwa [if_pos hline, hregion i hline] at hrow
  · intro hall i hi
    by_cases hline : area.top ≤ i ∧ i < area.bot + 1
    · rw [if_pos hline, hregion i hline]
      exact hall i hline.1 (by omega)
    · rw [if_neg hline]
      exact Row.cleanErase_refl (hp.row hi)

variable (hb : Bounded g) (hp : g.WidePaired) (hin : g.InRange area)
include hb hp hin

/-- **DECFRA is clean exactly when it fills with no half.** -/
theorem cleanErase_fillRect_iff (template : Cell) :
    CleanErase (areaRegion area) False g (g.fillRect area template) ↔ template.IsPlain := by
  have hlines := hb.rows
  have hrow : ∀ i, area.top ≤ i → i ≤ area.bot → (Row.CleanErase (fun c => area.left ≤ c ∧ c ≤ area.right) False
      (g.row i) (Row.fillSpan g.cols area.left area.right template (g.row i)) ↔ template.IsPlain) := by
    intro i _ hle
    have hi : i < g.rows.length := by have := hin.1.2; omega
    exact Row.cleanErase_fillSpan_iff (hp.row hi) (hb.cols_row hi) hin.2.1 hin.2.2 template
  rw [cleanErase_area_iff (editsRows_fillRect g area template) hb hp hin]
  exact ⟨fun hall => (hrow area.top (Nat.le_refl _) hin.1.1).mp (hall area.top (Nat.le_refl _) hin.1.1),
    fun ht i htop hle => (hrow i htop hle).mpr ht⟩

/-- **DECSERA is clean exactly when no row of the area has a character of which only one half is protected.** -/
theorem cleanErase_eraseRectUnprotected_iff (bg : Color) :
    CleanErase (areaRegion area) True g (g.eraseRectUnprotected area bg) ↔
      ∀ i, area.top ≤ i → i ≤ area.bot → (g.row i).SparesGuarded area.left area.right := by
  have hlines := hb.rows
  rw [cleanErase_area_iff (editsRows_eraseRectUnprotected g area bg) hb hp hin]
  refine forall_congr' fun i => forall_congr' fun _ => forall_congr' fun hle => ?_
  have hi : i < g.rows.length := by have := hin.1.2; omega
  have hget : ∀ c, (Row.eraseUnprotected g.cols area.left area.right (Cell.ofBg bg) (g.row i)).get c
      = (Row.eraseUnprotectedSpan g.cols area.left area.right (Cell.ofBg bg) (g.row i)).get c :=
    Row.get_congr (Row.inner_eraseUnprotected ..)
  rw [← Row.cleanErase_eraseUnprotectedSpan_iff (hp.row hi) (hb.cols_row hi) hin.2.1 hin.2.2 (Cell.isPlain_ofBg bg)]
  exact ⟨fun h => h.of_get fun c => (hget c).symm, fun h => h.of_get hget⟩

end Grid

/-! ## All erases -/

/-- The erases. DECSED and DECSEL are dispatched to what ED and EL do; `CSI ? 3 J` is not handled. -/
inductive EraseOp where
  | eraseDisplay (mode : DisplayEraseMode)
  | eraseLine (mode : LineEraseMode)
  | eraseChars (count : Nat)
  | eraseRectAll (area : RectArea) (bg : Color)
  | fillRect (area : RectArea) (template : Cell)
  | eraseRectUnprotected (area : RectArea) (bg : Color)
  | selectiveEraseDisplay (mode : DisplayEraseMode)
  | selectiveEraseLine (mode : LineEraseMode)

namespace EraseOp

def apply (g : Grid) : EraseOp → Grid
  | eraseDisplay mode => g.eraseDisplay mode
  | eraseLine mode => g.eraseLine mode
  | eraseChars count => g.eraseChars count
  | eraseRectAll area bg => g.eraseRectAll area bg
  | fillRect area template => g.fillRect area template
  | eraseRectUnprotected area bg => g.eraseRectUnprotected area bg
  | selectiveEraseDisplay .scrollback => g
  | selectiveEraseDisplay mode => g.eraseDisplay mode
  | selectiveEraseLine mode => g.eraseLine mode

/-- The cells of the screen that an erase is about. -/
def Region (g : Grid) : EraseOp → Nat → Nat → Prop
  | eraseDisplay mode | selectiveEraseDisplay mode => g.displayRegion mode
  | eraseLine mode | selectiveEraseLine mode => g.lineRegion mode
  | eraseChars count => fun i c => i = g.cursor.line ∧ g.cursor.col ≤ c ∧ c < g.cursor.col + count
  | eraseRectAll area _ | fillRect area _ | eraseRectUnprotected area _ => Grid.areaRegion area

/-- The erases that are to leave protected cells alone. -/
def Selective : EraseOp → Prop
  | eraseRectUnprotected .. | selectiveEraseDisplay _ | selectiveEraseLine _ => True
  | _ => False

/-- An area is clamped to the screen before it is erased. -/
def InRange (g : Grid) : EraseOp → Prop
  | eraseRectAll area _ | fillRect area _ | eraseRectUnprotected area _ => g.InRange area
  | _ => True

instance (g : Grid) (op : EraseOp) : Decidable (op.InRange g) := by
  cases op <;> (unfold InRange; infer_instance)

/-- ED 2 takes the stale overflow of a resize out of the scrollback, and ED 3 empties it. -/
def TakesHistory : EraseOp → Prop
  | eraseDisplay .all | eraseDisplay .scrollback | selectiveEraseDisplay .all => True
  | _ => False

/-- **A clean erase**: every row has whole wide characters only, a cell outside the region changed only as the other half
    of a character that was cut, no row of the scrollback was rewritten, and a selective erase left the protected cells
    alone. -/
structure ErasesCleanly (g : Grid) (op : EraseOp) : Prop extends
    Grid.CleanErase (op.Region g) op.Selective g (op.apply g) where
  history : ∀ r ∈ (op.apply g).scrollback.rows, r ∈ g.scrollback.rows
  scrollback : ¬ op.TakesHistory → (op.apply g).scrollback = g.scrollback

/-- **What an erase must not meet**: DECFRA no half to fill with, DECSERA no character of which only one half is protected,
    DECSED and DECSEL nothing that is protected. -/
def MayErase (g : Grid) : EraseOp → Prop
  | fillRect _ template => template.IsPlain
  | eraseRectUnprotected area _ => ∀ i, area.top ≤ i → i ≤ area.bot → (g.row i).SparesGuarded area.left area.right
  | selectiveEraseDisplay mode => g.Spares (g.displayRegion mode)
  | selectiveEraseLine mode => g.Spares (g.lineRegion mode)
  | _ => True

variable {g : Grid}

theorem scrollback_apply (hg : Grid.Framed g) (op : EraseOp) (h : ¬ op.TakesHistory) :
    (op.apply g).scrollback = g.scrollback := by
  have hdisplay : ∀ mode : DisplayEraseMode, mode = .below ∨ mode = .above →
      (g.eraseDisplay mode).scrollback = g.scrollback := by
    rintro mode (rfl | rfl)
    · exact (Grid.editsRows_eraseBelow hg).scrollback
    · exact (Grid.editsRows_eraseAbove g).scrollback
  cases op with
  | eraseDisplay mode =>
    cases mode with
    | below => exact hdisplay _ (.inl rfl)
    | above => exact hdisplay _ (.inr rfl)
    | all | scrollback => exact absurd trivial h
  | eraseLine mode | selectiveEraseLine mode => exact (Grid.editsRows_eraseLine g mode g.bceTemplate).scrollback
  | eraseChars count =>
    show (g.eraseChars count).scrollback = _
    by_cases h0 : count = 0
    · unfold Grid.eraseChars
      rw [if_pos h0]
    · exact (Grid.editsRows_eraseChars g h0).scrollback
  | eraseRectAll area bg => exact (Grid.editsRows_fillRect g area (Cell.ofBg bg)).scrollback
  | fillRect area template => exact (Grid.editsRows_fillRect g area template).scrollback
  | eraseRectUnprotected area bg => exact (Grid.editsRows_eraseRectUnprotected g area bg).scrollback
  | selectiveEraseDisplay mode =>
    cases mode with
    | below => exact hdisplay _ (.inl rfl)
    | above => exact hdisplay _ (.inr rfl)
    | all => exact absurd trivial h
    | scrollback => rfl

theorem history_apply (hg : Grid.Framed g) (op : EraseOp) :
    ∀ r ∈ (op.apply g).scrollback.rows, r ∈ g.scrollback.rows := by
  by_cases h : op.TakesHistory
  · cases op with
    | eraseDisplay mode => exact Grid.history_eraseDisplay hg mode
    | selectiveEraseDisplay mode =>
      cases mode with
      | all => exact Grid.history_eraseDisplay hg .all
      | below | above | scrollback => exact absurd h id
    | _ => exact absurd h id
  · rw [scrollback_apply hg op h]
    exact fun _ hr => hr

/-- ED, and DECSED as the same. -/
theorem cleanErase_eraseDisplay_iff (hb : g.Bounded) (hocc : g.ClearPastOcc) (hp : g.WidePaired) (mode : DisplayEraseMode)
    {selective : Prop} :
    Grid.CleanErase (g.displayRegion mode) selective g (g.eraseDisplay mode) ↔
      (selective → g.Spares (g.displayRegion mode)) :=
  Grid.cleanErase_iff_spares (Grid.rows_eraseDisplay hb.toFramed mode) (Grid.history_eraseDisplay hb.toFramed mode) hp
    fun _ hi => Grid.erases_display hb hocc hp mode hi

/-- EL, and DECSEL as the same. -/
theorem cleanErase_eraseLine_iff (hb : g.Bounded) (hocc : g.ClearPastOcc) (hp : g.WidePaired) (mode : LineEraseMode)
    {selective : Prop} :
    Grid.CleanErase (g.lineRegion mode) selective g (g.eraseLine mode) ↔ (selective → g.Spares (g.lineRegion mode)) := by
  have hedit := Grid.editsRows_eraseLine g mode g.bceTemplate
  exact Grid.cleanErase_iff_spares hedit.rows (fun r hr => hedit.scrollback ▸ hr) hp
    fun _ hi => Grid.erases_line hb hocc hp mode hi

/-- **ECH is clean.** -/
theorem cleanErase_eraseChars (hb : g.Bounded) (hp : g.WidePaired) (count : Nat) :
    Grid.CleanErase ((eraseChars count).Region g) False g (g.eraseChars count) := by
  by_cases h0 : count = 0
  · have hnone : g.eraseChars count = g := by
      unfold Grid.eraseChars
      rw [if_pos h0]
    rw [hnone]
    exact ⟨hp, fun _ _ _ _ hne => absurd rfl hne, fun h => absurd h id⟩
  · have hedit := Grid.editsRows_eraseChars g h0
    refine (Grid.cleanErase_iff_spares hedit.rows (fun r hr => hedit.scrollback ▸ hr) hp fun i hi => ?_).mpr
      fun h => absurd h id
    unfold Grid.atLine
    by_cases hline : i = g.cursor.line
    · rw [if_pos hline]
      have hrow := Row.erases_eraseChars (hp.row hi) (hb.cols_row hi) g.cursor.col (Nat.pos_of_ne_zero h0)
        g.cursor.template.bg
      exact hrow.mono (fun c hc => ⟨hline, hc⟩) fun c hc _ => hc.2
    · rw [if_neg hline]
      exact Row.erases_none (hp.row hi) fun c hc => absurd hc.1 hline

/-- **Erasing is clean exactly when it meets nothing it does not look at.** -/
theorem erasesCleanly_iff (hb : g.Bounded) (hocc : g.ClearPastOcc) (hp : g.WidePaired) {op : EraseOp}
    (hin : op.InRange g) : op.ErasesCleanly g ↔ op.MayErase g := by
  have hcore : op.ErasesCleanly g ↔ Grid.CleanErase (op.Region g) op.Selective g (op.apply g) :=
    ⟨fun h => h.toCleanErase, fun h => ⟨h, history_apply hb.toFramed op, scrollback_apply hb.toFramed op⟩⟩
  rw [hcore]
  cases op with
  | eraseDisplay mode => exact iff_of_true ((cleanErase_eraseDisplay_iff hb hocc hp mode).mpr fun h => absurd h id) trivial
  | eraseLine mode => exact iff_of_true ((cleanErase_eraseLine_iff hb hocc hp mode).mpr fun h => absurd h id) trivial
  | eraseChars count => exact iff_of_true (cleanErase_eraseChars hb hp count) trivial
  | eraseRectAll area bg =>
    exact iff_of_true ((Grid.cleanErase_fillRect_iff hb hp hin (Cell.ofBg bg)).mpr (Cell.isPlain_ofBg bg)) trivial
  | fillRect area template => exact Grid.cleanErase_fillRect_iff hb hp hin template
  | eraseRectUnprotected area bg => exact Grid.cleanErase_eraseRectUnprotected_iff hb hp hin bg
  | selectiveEraseDisplay mode =>
    have hsame : (selectiveEraseDisplay mode).apply g = g.eraseDisplay mode ∨ mode = .scrollback := by
      cases mode with
      | scrollback => exact .inr rfl
      | below | above | all => exact .inl rfl
    rcases hsame with hsame | rfl
    · rw [hsame]
      exact (cleanErase_eraseDisplay_iff hb hocc hp mode).trans ⟨fun h => h trivial, fun h _ => h⟩
    · refine iff_of_true ⟨hp, fun _ _ _ _ hne => absurd rfl hne, fun _ _ _ _ _ => rfl⟩ fun i _ c _ => ?_
      exact ⟨id, fun _ h => absurd h id⟩
  | selectiveEraseLine mode =>
    exact (cleanErase_eraseLine_iff hb hocc hp mode).trans ⟨fun h => h trivial, fun h _ => h⟩

/-- A protected wide character at the start of a line. -/
def protectedWide : Grid := run GridOp.apply (Grid.withScrollback 1 4 0)
  [.edit (.editTemplate (Cell.insertFlags isProtected)), .putChar 2 'あ',
    .edit (.editTemplate (Cell.removeFlags isProtected))]

theorem bounded_protectedWide : protectedWide.Bounded :=
  Grid.bounded_along (by decide) (by decide) (by decide)

/-- DECSERA next to the character. -/
theorem erasesCleanly_protectedWide :
    (eraseRectUnprotected ⟨0, 2, 0, 3⟩ (.named .background)).ErasesCleanly protectedWide ↔
      (eraseRectUnprotected ⟨0, 2, 0, 3⟩ (.named .background)).MayErase protectedWide :=
  erasesCleanly_iff bounded_protectedWide (by decide) (by decide) (by decide)

/-- **DECSERA on the spacer**: it is not protected itself, so it goes, and with it the other half, which is. -/
theorem spacer_unprotects_wide :
    ¬ ∀ (g : Grid) (op : EraseOp), g.Bounded → g.ClearPastOcc → g.WidePaired → op.InRange g → op.ErasesCleanly g := by
  intro h
  have hclean := h protectedWide (eraseRectUnprotected ⟨0, 1, 0, 1⟩ (.named .background)) bounded_protectedWide
    (by decide) (by decide) (by decide)
  have hkept := hclean.guarded trivial 0 (by decide) 0 (by decide)
  revert hkept
  decide

end EraseOp

end OriTerm
