import OriTerm.Core.Navigation

/-!
# `Core.Editing` — writing, inserting and deleting characters

`putCharAscii` is the fast path and `putCharSlow` the general one: it wraps at the right edge of the margin
band, moves a wide character that does not fit to the next line, and cleans up the pairs it overwrites. The
width of a character comes from a Unicode table outside this development, so it is an argument.

The wrap of the source is a `loop`; here it has fuel, and `putCharLoop_settles` shows that two rounds always
reach the write. Everything but the wrap itself is tracked edits. A wrap writes a flag into the line it leaves
and relies on the line feed to mark that line (`wrapMarks`).
-/

namespace OriTerm

open Lib Lib.Bitflags CellFlags Option

/-- The wide-pair flags. -/
def CellFlags.widePair : CellFlags := wideChar ||| wideCharSpacer

namespace Cell

/-- The template's colours, attributes and sidecar with a character, marked as drawn. -/
def draw (template : Cell) (ch : Char) (_c : Cell) : Cell :=
  { ch, fg := template.fg, bg := template.bg, flags := template.flags ||| drawn
    extra := template.extra }

/-- The spacer behind a wide character. -/
def drawSpacer (template : Cell) (_c : Cell) : Cell :=
  { ch := ' ', fg := template.fg, bg := template.bg
    flags := wideCharSpacer ||| drawn, extra := none }

/-- The padding left where a wide character did not fit. -/
def padWide (c : Cell) : Cell :=
  { c with ch := ' ', flags := leadingWideCharSpacer ||| wrap ||| drawn }

end Cell

namespace Row

variable (col count stop : Nat) (template : Cell) (r : Row)

/-- Cells `[col, stop)` shifted right by `count`; the gap is reset, and a wide character whose spacer fell off
    the end is blanked. -/
def openGap : Row :=
  r.mapCells fun l =>
    let l := forRangeRev (col + count) stop (fun i => swap i (i - count)) l
    let l := mapRange col (col + count) (·.reset template) l
    if stop > 0 && (l.getD (stop - 1) .blank).has wideChar then
      l.modify (stop - 1) (Cell.orphan wideChar)
    else l

/-- Cells `[col, stop)` shifted left by `count`; the vacated end is reset. -/
def closeGap : Row :=
  r.mapCells fun l =>
    let l := forRange col (stop - count) (fun i => swap i (i + count)) l
    mapRange (stop - count) stop (·.reset template) l

theorem shape_openGap : (r.openGap col count stop template).shape = r.shape := by
  refine shape_mapCells (fun l => ?_) r
  dsimp only
  split
  · rw [List.length_modify, length_mapRange, length_forRangeRev_swap]
  · rw [length_mapRange, length_forRangeRev_swap]

theorem shape_closeGap : (r.closeGap col count stop template).shape = r.shape := by
  refine shape_mapCells (fun l => ?_) r
  rw [length_mapRange, length_forRange_swap]

/-- Opening a gap changes cells of `[col, stop)` only. -/
theorem getElem?_openGap {col count stop c : Nat} (template : Cell) (r : Row) (hcol : col < stop)
    (hcount : col + count ≤ stop) (hc : c < col ∨ stop ≤ c) : (r.openGap col count stop template).inner[c]? = r.inner[c]? := by
  have hswap : (forRangeRev (col + count) stop (fun i => swap i (i - count)) r.inner)[c]? = r.inner[c]? :=
    forRangeRev_invariant
      (fun i l _ _ h => (getElem?_swap l (by omega) (by omega)).trans h) rfl
  have hgap : (mapRange col (col + count) (Cell.reset · template)
      (forRangeRev (col + count) stop (fun i => swap i (i - count)) r.inner))[c]? = r.inner[c]? := by
    have hout : ¬ (col ≤ c ∧ c < col + count) := by omega
    rw [getElem?_mapRange, hswap]
    simp [if_neg hout]
  unfold openGap mapCells
  dsimp only
  split
  · have hlast : stop - 1 ≠ c := by omega
    rw [List.getElem?_modify, hgap]
    simp [hlast]
  · exact hgap

/-- Closing a gap changes cells of `[col, stop)` only. -/
theorem getElem?_closeGap {col count stop c : Nat} (template : Cell) (r : Row) (hcount : col + count ≤ stop)
    (hc : c < col ∨ stop ≤ c) : (r.closeGap col count stop template).inner[c]? = r.inner[c]? := by
  have hswap : (forRange col (stop - count) (fun i => swap i (i + count)) r.inner)[c]? = r.inner[c]? :=
    forRange_invariant
      (fun i l _ _ h => (getElem?_swap l (by omega) (by omega)).trans h) rfl
  have hout : ¬ (stop - count ≤ c ∧ c < stop) := by omega
  unfold closeGap mapCells
  rw [getElem?_mapRange, hswap]
  simp only [if_neg hout, map_id']

end Row

namespace Grid

variable {width : Nat}

/-! ## Writing a character -/

/-- The ASCII fast path: the grid after the write, or `none` when the caller must take the slow path. -/
def putCharAscii (g : Grid) (ch : Char) : Option Grid :=
  let line := g.cursor.line
  let col := g.cursor.col
  if col ≥ g.cols then none
  else if intersects (g.cell line col).flags widePair then none
  else
    some (((g.editCell line col (Cell.draw g.cursor.template ch)).setCol (col + 1)).markCols line col col)

/-- End of the line for the cursor: the right margin inside the band, else the screen edge. -/
def rightEdge (g : Grid) : Nat := if g.cursorInMarginBand then g.rightMargin + 1 else g.cols

/-- The column a wrap returns to. -/
def wrapCol (g : Grid) : Nat := if g.cursorInMarginBand then g.leftMargin else 0

/-- The write into the line a wrap leaves: the wrap flag at the right edge, or the padding where a wide
    character does not fit. -/
def wrapWrite (g : Grid) (width : Nat) : Option Grid :=
  if g.cursor.col ≥ g.rightEdge then
    some (g.editCell g.cursor.line (min (g.rightEdge - 1) (g.cols - 1)) (Cell.insertFlags wrap))
  else if width = 2 ∧ g.cursor.col + 1 ≥ g.rightEdge then
    some (g.editCell g.cursor.line g.cursor.col Cell.padWide)
  else none

/-- The second half of a wide character, if there is a column for it. -/
def writeSpacer (g : Grid) (line col : Nat) (template : Cell) : Grid :=
  let g := g.editCell line col (Cell.insertFlags wideChar)
  if col + 1 < g.cols then
    (g.clearWideCharAt line (col + 1)).editCell line (col + 1) (Cell.drawSpacer template)
  else g

/-- The write at the cursor: the pairs it overwrites are cleaned up, and the columns are marked. -/
def writeChar (g : Grid) (width : Nat) (ch : Char) : Grid :=
  let line := g.cursor.line
  let col := g.cursor.col
  let template := g.cursor.template
  let g := (g.clearWideCharAt line col).editCell line col (Cell.draw template ch)
  let g := if width = 2 then g.writeSpacer line col template else g
  (g.setCol (col + width)).markCols line col (if width = 2 then col + 1 else col)

/-- The `loop` of `put_char_slow`: wraps until the character fits, then writes. -/
def putCharLoop (width : Nat) (ch : Char) : Nat → Grid → Grid
  | 0, g => g
  | fuel + 1, g =>
    match g.wrapWrite width with
    | some g' => putCharLoop width ch fuel (g'.linefeed.setCol g.wrapCol)
    | none => g.writeChar width ch

/-- Fuel of the loop. -/
def putCharFuel : Nat := 2

/-- The slow path. A character wider than the grid is skipped. -/
def putCharSlow (g : Grid) (width : Nat) (ch : Char) : Grid :=
  if width > g.cols then g else putCharLoop width ch putCharFuel g

/-- Writes a character at the cursor. -/
def putChar (g : Grid) (width : Nat) (ch : Char) : Grid := g.putCharSlow width ch

/-- The column a combining mark goes to, if there is a cell before the cursor. -/
def zerowidthCol (g : Grid) : Option Nat :=
  if g.cursor.col < g.cols then (if g.cursor.col = 0 then none else some (g.cursor.col - 1))
  else some (g.cols - 1)

/-- Appends a combining mark to the previous cell, the base cell of a wide pair. -/
def pushZerowidth (g : Grid) (ch : Char) : Grid :=
  match g.zerowidthCol with
  | none => g
  | some prevCol =>
    let line := g.cursor.line
    let prevCol := if (g.cell line prevCol).has wideCharSpacer then prevCol - 1 else prevCol
    (g.editCell line prevCol fun c => (c.insertFlags drawn).pushZerowidth ch).markCols
      line prevCol prevCol

/-! ## Inserting and deleting -/

/-- Right end of an insert or delete at the cursor, or `none` when it does not apply: past the last column or
    outside the margins. -/
def editBound (g : Grid) : Option Nat :=
  let col := g.cursor.col
  if col ≥ g.cols then none
  else if g.hasHorizontalMargins && (col < g.leftMargin || col > g.rightMargin) then none
  else
    let rightBound := if g.hasHorizontalMargins then min (g.rightMargin + 1) g.cols else g.cols
    if col ≥ rightBound then none else some rightBound

/-- Cleans the pair at a cell and drops the cell's own wide flags, so that a shifted copy carries none. -/
def stripWide (g : Grid) (line col : Nat) : Grid :=
  (g.clearWideCharAt line col).editCell line col (Cell.removeFlags widePair)

/-- Opens `count` blank columns at `col` in one row, within `[col, stop)`. -/
def rowInsertColumns (g : Grid) (line col count stop : Nat) (template : Cell) : Grid :=
  let g := g.stripWide line col
  let g := if stop < g.cols then g.clearWideCharAt line (stop - 1) else g
  g.editRow line (Row.openGap col count stop template)

/-- Shifts a row left over `count` columns at `col`; a spacer that lost its base is blanked first. -/
def closeColumns (g : Grid) (line col count stop : Nat) (template : Cell) : Grid :=
  let g :=
    if col + count < stop ∧ (g.cell line (col + count)).has wideCharSpacer then
      g.editCell line (col + count) (Cell.orphan wideCharSpacer)
    else g
  g.editRow line (Row.closeGap col count stop template)

/-- ICH. -/
def insertBlank (g : Grid) (count : Nat) : Grid :=
  match g.editBound with
  | none => g
  | some rightBound =>
    if count = 0 then g
    else
      let line := g.cursor.line
      let col := g.cursor.col
      let count := min count (rightBound - col)
      let cols := g.cols
      ((g.rowInsertColumns line col count rightBound g.bceTemplate).editRow line fun r =>
        r.setOcc (min (r.occ + count) cols)).markCols line col (rightBound - 1)

/-- DCH. -/
def deleteChars (g : Grid) (count : Nat) : Grid :=
  match g.editBound with
  | none => g
  | some rightBound =>
    if count = 0 then g
    else
      let line := g.cursor.line
      let col := g.cursor.col
      let template := g.bceTemplate
      let count := min count (rightBound - col)
      let cols := g.cols
      (((g.stripWide line col).closeColumns line col count rightBound template).editRow line fun r =>
        if template.isEmpty then r else r.setOcc cols).markCols line col (rightBound - 1)

/-! ## Writes are tracked -/

variable {g g' : Grid} {S : Nat → Nat → Prop}

theorem tracked_putCharAscii {ch : Char} (h : g.putCharAscii ch = some g') : Tracked g g' := by
  unfold putCharAscii at h
  dsimp only at h
  split at h
  · cases h
  · split at h
    · cases h
    · obtain rfl := some.inj h
      refine ((edits_editCell g _ _ _).trans (edits_setCol _ _)).markCols _ _ _ ?_
      rintro i c ⟨rfl, rfl⟩
      exact ⟨rfl, Nat.le_refl _, Nat.le_refl _⟩

/-- A write to a cell that may be owed. -/
theorem Edits.editCell (h : Edits S g g') (line col : Nat) (f : Cell → Cell) (hS : S line col) :
    Edits S g (g'.editCell line col f) := by
  refine h.trans ((edits_editCell g' line col f).mono ?_)
  rintro i c ⟨rfl, rfl⟩
  exact hS

/-- An edit of a row that only touches the columns owed. -/
theorem Edits.editRow (h : Edits S g g') (line : Nat) (f : Row → Row) (hf : ∀ r, (f r).shape = r.shape)
    (hS : ∀ r c, (f r).inner[c]? ≠ r.inner[c]? → S line c) : Edits S g (g'.editRow line f) :=
  h.trans (edits_editRow g' line f (fun r _ => hf r) fun r c _ hne => hS r c hne)

theorem Edits.writeSpacer (h : Edits S g g') (line col : Nat) (template : Cell) (hcol : S line col)
    (hnext : S line (col + 1)) : Edits S g (g'.writeSpacer line col template) := by
  have hwide := h.editCell line col (Cell.insertFlags wideChar) hcol
  unfold Grid.writeSpacer
  dsimp only
  split
  · exact (hwide.trans (tracked_clearWideCharAt ..).edits).editCell _ _ _ hnext
  · exact hwide

theorem tracked_writeChar (g : Grid) (width : Nat) (ch : Char) : Tracked g (g.writeChar width ch) := by
  unfold writeChar
  dsimp only
  by_cases hw : width = 2
  · rw [if_pos hw, if_pos hw]
    refine Edits.markCols
      _ _ _ (Edits.trans ?_ (edits_setCol _ _)) fun _ _ h => h
    refine Edits.writeSpacer ?_ _ _ _ ⟨rfl, by omega, by omega⟩ ⟨rfl, by omega, by omega⟩
    exact (tracked_clearWideCharAt ..).edits.editCell _ _ _ ⟨rfl, by omega, by omega⟩
  · rw [if_neg hw, if_neg hw]
    refine Edits.markCols
      _ _ _ (Edits.trans ?_ (edits_setCol _ _)) fun _ _ h => h
    exact (tracked_clearWideCharAt ..).edits.editCell _ _ _ ⟨rfl, by omega, by omega⟩

theorem tracked_pushZerowidth (g : Grid) (ch : Char) : Tracked g (g.pushZerowidth ch) := by
  unfold pushZerowidth
  split
  · exact .refl _ g
  · refine (edits_editCell g _ _ _).markCols _ _ _ ?_
    rintro i c ⟨rfl, rfl⟩
    exact ⟨rfl, Nat.le_refl _, Nat.le_refl _⟩

theorem editBound_spec {rightBound : Nat} (h : g.editBound = some rightBound) :
    g.cursor.col < rightBound ∧ rightBound ≤ g.cols := by
  unfold editBound at h
  dsimp only at h
  split at h
  · cases h
  · split at h
    · cases h
    · by_cases hm : g.hasHorizontalMargins = true
      · simp only [hm, if_true] at h
        split at h
        · cases h
        · obtain rfl := some.inj h
          omega
      · simp only [hm, if_false, Bool.false_eq_true] at h
        split at h
        · cases h
        · obtain rfl := some.inj h
          omega

/-- The columns `[col, stop)` of a line. -/
def span (line col stop : Nat) : Nat → Nat → Prop := fun i c => i = line ∧ col ≤ c ∧ c ≤ stop - 1

theorem Edits.stripWide {line col stop : Nat} (h : Edits (span line col stop) g g') (hcol : col < stop) :
    Edits (span line col stop) g (g'.stripWide line col) :=
  (h.trans (tracked_clearWideCharAt ..).edits).editCell _ _ _ ⟨rfl, Nat.le_refl _, by omega⟩

theorem edits_rowInsertColumns (g : Grid) {line col count stop : Nat} (template : Cell) (hcol : col < stop)
    (hcount : col + count ≤ stop) :
    Edits (span line col stop) g (g.rowInsertColumns line col count stop template) := by
  have hstrip := (Edits.refl (span line col stop) g).stripWide hcol
  refine Edits.editRow ?_ _ _ (Row.shape_openGap col count stop template) fun r c hne => ?_
  · split
    · exact hstrip.trans (tracked_clearWideCharAt ..).edits
    · exact hstrip
  · refine ⟨rfl, ?_⟩
    by_contra hout
    exact hne (Row.getElem?_openGap template r hcol hcount (by omega))

theorem Edits.closeColumns {line col count stop : Nat} (h : Edits (span line col stop) g g')
    (template : Cell) (hcount : col + count ≤ stop) :
    Edits (span line col stop) g (g'.closeColumns line col count stop template) := by
  refine Edits.editRow ?_ _ _ (Row.shape_closeGap col count stop template) fun r c hne => ?_
  · split
    · next hspacer => exact h.editCell _ _ _ ⟨rfl, by omega, by omega⟩
    · exact h
  · refine ⟨rfl, ?_⟩
    by_contra hout
    exact hne (Row.getElem?_closeGap template r hcount (by omega))

theorem tracked_insertBlank (g : Grid) (count : Nat) : Tracked g (g.insertBlank count) := by
  unfold insertBlank
  split
  · exact .refl _ g
  · next rightBound hbound =>
    obtain ⟨hcol, _⟩ := editBound_spec hbound
    split
    · exact .refl _ g
    · refine Edits.markCols _ _ _ ?_ fun _ _ h => h
      refine Edits.editRow ?_ _ _ (fun r => Row.shape_setOcc r _) fun _ _ hne => absurd rfl hne
      exact edits_rowInsertColumns g _ hcol (by omega)

theorem tracked_deleteChars (g : Grid) (count : Nat) : Tracked g (g.deleteChars count) := by
  unfold deleteChars
  split
  · exact .refl _ g
  · next rightBound hbound =>
    obtain ⟨hcol, _⟩ := editBound_spec hbound
    split
    · exact .refl _ g
    · refine Edits.markCols _ _ _ ?_ fun _ _ h => h
      refine Edits.editRow ?_ _ _ (fun r => ?_) fun r c hne => ?_
      · exact ((Edits.refl _ g).stripWide hcol).closeColumns _ (by omega)
      · split <;> rfl
      · split at hne <;> exact absurd rfl hne

/-! ## The wrap -/

/-- The wrap at the cursor, if there is one, changes no cell or is followed by a line feed that marks. -/
def WrapMarks (g : Grid) (width : Nat) : Prop :=
  ∀ g', g.wrapWrite width = some g' → g.linefeedMarks = true ∨ g'.rows = g.rows

instance (g : Grid) (width : Nat) : Decidable (g.WrapMarks width) :=
  match h : g.wrapWrite width with
  | none => isTrue fun _ h' => by rw [h] at h'; cases h'
  | some g' =>
    if hm : g.linefeedMarks = true ∨ g'.rows = g.rows then
      isTrue fun g'' h' => by rw [h] at h'; cases h'; exact hm
    else isFalse fun hall => hm (hall g' h)

/-- The write of a wrap is an edit of one cell of the cursor line; nothing else changes. -/
theorem wrapWrite_eq (h : g.wrapWrite width = some g') : ∃ col f, g' = g.editCell g.cursor.line col f := by
  unfold wrapWrite at h
  split at h
  · exact ⟨_, _, (some.inj h).symm⟩
  · split at h
    · exact ⟨_, _, (some.inj h).symm⟩
    · cases h

/-- One round of the wrap: the write, the line feed and the return to the start of the band. -/
def wrapStep (g g' : Grid) : Grid := g'.linefeed.setCol g.wrapCol

theorem putCharLoop_succ (width : Nat) (ch : Char) (fuel : Nat) (g : Grid) :
    putCharLoop width ch (fuel + 1) g = match g.wrapWrite width with
      | some g' => putCharLoop width ch fuel (g.wrapStep g')
      | none => g.writeChar width ch := rfl

/-- The margins lie on the screen, and narrower ones leave at least two columns. -/
structure MarginsOk (g : Grid) : Prop where
  right : g.rightMargin < g.cols
  left : g.leftMargin < g.rightMargin ∨ g.leftMargin = 0 ∧ g.rightMargin + 1 = g.cols

theorem MarginsOk.of_band (hb : BandKept g g') (hc : g'.cols = g.cols) (h : MarginsOk g) : MarginsOk g' := by
  refine ⟨?_, ?_⟩
  · rw [hb.margins.2, hc]
    exact h.right
  · rw [hb.margins.1, hb.margins.2, hc]
    exact h.left

theorem bandKept_linefeed (hg : Framed g) : BandKept g g.linefeed :=
  (scrolls_linefeed (S := nothing) hg).toBandKept

/-- **After one wrap the character fits**: the start of the margin band is at least as far from its end as
    the character is wide. -/
theorem wrapWrite_wrapStep (hg : Framed g) (hm : MarginsOk g) (hw : width ≤ g.cols)
    (h : g.wrapWrite width = some g') : (g.wrapStep g').wrapWrite width = none := by
  obtain ⟨col, f, rfl⟩ := wrapWrite_eq h
  have hedit := edits_editCell g g.cursor.line col f
  have hband := hedit.toBandKept.trans (bandKept_linefeed (hedit.framed hg))
  have hcols : (g.editCell g.cursor.line col f).linefeed.cols = g.cols :=
    (scrolls_linefeed (S := nothing) (hedit.framed hg)).cols
  obtain ⟨hr, hl⟩ := hm
  unfold wrapStep wrapWrite rightEdge cursorInMarginBand wrapCol setCol
  dsimp only
  rw [hband.margins.1, hband.margins.2]
  by_cases hin : g.cursorInMarginBand = true
  · have hband' : (decide (g.leftMargin ≥ g.leftMargin) && decide (g.leftMargin ≤ g.rightMargin + 1)) = true := by
      simp
      omega
    rw [if_pos hin, hband', if_pos rfl, if_neg (by omega), if_neg (by omega)]
  · rw [if_neg hin]
    by_cases h0 : g.leftMargin = 0
    · have hband' : (decide (0 ≥ g.leftMargin) && decide (0 ≤ g.rightMargin + 1)) = true := by simp [h0]
      rw [hband', if_pos rfl, if_neg (by omega), if_neg (by omega)]
    · have hband' : (decide (0 ≥ g.leftMargin) && decide (0 ≤ g.rightMargin + 1)) = false := by
        simp
        omega
      have hfalse : ¬ (false = true) := by simp
      rw [hband', if_neg hfalse, if_neg (by omega), if_neg (by omega)]

/-- **The loop settles**: with sound margins two rounds always reach the write, and more fuel changes
    nothing. -/
theorem putCharLoop_settles (ch : Char) {fuel : Nat} (hg : Framed g) (hm : MarginsOk g)
    (hw : width ≤ g.cols) (hfuel : putCharFuel ≤ fuel) :
    putCharLoop width ch fuel g = (match g.wrapWrite width with
      | some g' => g.wrapStep g'
      | none => g).writeChar width ch := by
  obtain ⟨k, rfl⟩ : ∃ k, fuel = k + 2 := ⟨fuel - 2, by unfold putCharFuel at hfuel; omega⟩
  rw [putCharLoop_succ]
  cases h : g.wrapWrite width with
  | none => rfl
  | some g' =>
    show putCharLoop width ch (k + 1) (g.wrapStep g') = (g.wrapStep g').writeChar width ch
    rw [putCharLoop_succ, wrapWrite_wrapStep hg hm hw h]

/-- The line feed of a wrap covers the cell the wrap wrote, when the wrap marks. -/
theorem scrolls_wrapFeed (hg : Framed g) (hwrap : g.WrapMarks width)
    (h : g.wrapWrite width = some g') : Scrolls nothing g g'.linefeed := by
  obtain ⟨col, f, rfl⟩ := wrapWrite_eq h
  have hedit := edits_editCell g g.cursor.line col f
  rcases hwrap _ h with hmarks | hsame
  · exact hedit.linefeed hg (fun _ _ h => h.1) hmarks
  · have hnone : Tracked g (g.editCell g.cursor.line col f) :=
      { hedit with
        cells := by
          intro i c _ _ hne
          unfold cellAt? at hne
          rw [hsame] at hne
          exact absurd rfl hne }
    exact (hnone.scrolls hg).trans (scrolls_linefeed (hedit.framed hg))

/-- **Writing a character is covered** when its wrap marks. -/
theorem scrolls_putChar (width : Nat) (ch : Char) (hg : Framed g) (hm : MarginsOk g) :
    Scrolls (fun _ _ => ¬ g.WrapMarks width) g (g.putChar width ch) := by
  unfold putChar putCharSlow
  split
  · exact .refl hg
  · next hw =>
    rw [putCharLoop_settles ch hg hm (by omega) (Nat.le_refl _)]
    cases h : g.wrapWrite width with
    | none => exact (tracked_writeChar g width ch).edits.scrolls hg
    | some g' =>
      have hfeed : Scrolls (fun _ _ => ¬ g.WrapMarks width) g g'.linefeed := by
        by_cases hwrap : g.WrapMarks width
        · exact (scrolls_wrapFeed hg hwrap h).mono fun _ _ hf => hf.elim
        · obtain ⟨col, f, rfl⟩ := wrapWrite_eq h
          have hedit : Edits (fun _ _ => ¬ g.WrapMarks width) g _ :=
            (edits_editCell g g.cursor.line col f).mono fun _ _ _ => hwrap
          exact (hedit.scrolls hg).trans (scrolls_linefeed (hedit.framed hg))
      have hcol := hfeed.trans ((edits_setCol g'.linefeed g.wrapCol).scrolls hfeed.framed)
      exact hcol.trans ((tracked_writeChar _ width ch).edits.scrolls hcol.framed)

end Grid

end OriTerm
