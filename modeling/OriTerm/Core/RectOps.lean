import OriTerm.Core.Erase

/-!
# `Core.RectOps` — column operations and rectangular areas

DECIC and DECDC shift every row of the scroll region; DECFRA, DECERA, DECSERA, DECCARA, DECRARA and DECCRA act
on a rectangle, given 0-based and inclusive on every edge. Each is a loop over lines whose body edits one row
and marks the columns it edited, so each is tracked because its body is (`tracked_lines`).
-/

namespace OriTerm

open Lib Lib.Bitflags List CellFlags

/-- DECSACE extent. -/
inductive AceMode where
  | stream
  | rectangle
  deriving DecidableEq, Repr

/-- A rectangle of cells. -/
structure RectArea where
  top : Nat
  left : Nat
  bot : Nat
  right : Nat
  deriving DecidableEq, Repr

namespace Row

theorem getElem?_modifyRange {left stop c : Nat} (f : Cell → Cell) (r : Row) (hc : ¬ (left ≤ c ∧ c < stop)) :
    (r.modifyRange left stop f).inner[c]? = r.inner[c]? := by
  refine forRange_invariant (P := fun r' : Row => r'.inner[c]? = r.inner[c]?) (fun i r' hs he h => ?_) rfl
  have hne : i ≠ c := by omega
  rw [inner_modify, getElem?_modify_ne _ _ hne, h]

/-- `if occ < new_occ { set_occ(new_occ) }`. -/
def raiseOcc (occ : Nat) (r : Row) : Row := if occ > r.occ then r.setOcc occ else r

@[simp] theorem inner_raiseOcc (occ : Nat) (r : Row) : (r.raiseOcc occ).inner = r.inner := by
  unfold raiseOcc
  split <;> rfl

theorem shape_raiseOcc (occ : Nat) (r : Row) : (r.raiseOcc occ).shape = r.shape := by
  unfold raiseOcc
  split <;> rfl

end Row

/-- DECCARA: the flags that parameter 0 resets. -/
def deccaraResetMask : CellFlags :=
  CellFlags.bold ||| CellFlags.underline ||| CellFlags.blink ||| CellFlags.inverse ||| CellFlags.hidden

/-- A DECCARA parameter as the flags it sets and the flags it clears. -/
def deccaraSetClear (param : Nat) : CellFlags × CellFlags :=
  match param with
  | 0 => (0, deccaraResetMask)
  | 1 => (CellFlags.bold, 0)
  | 4 => (CellFlags.underline, 0)
  | 5 => (CellFlags.blink, 0)
  | 7 => (CellFlags.inverse, 0)
  | 8 => (CellFlags.hidden, 0)
  | 22 => (0, CellFlags.bold)
  | 24 => (0, CellFlags.underline)
  | 25 => (0, CellFlags.blink)
  | 27 => (0, CellFlags.inverse)
  | 28 => (0, CellFlags.hidden)
  | _ => (0, 0)

/-- A DECRARA parameter as the flags it toggles. -/
def decraraToggleMask (param : Nat) : CellFlags :=
  match param with
  | 0 => deccaraResetMask
  | 1 => CellFlags.bold
  | 4 => CellFlags.underline
  | 5 => CellFlags.blink
  | 7 => CellFlags.inverse
  | 8 => CellFlags.hidden
  | _ => 0

/-- A parameter list collapsed into one set mask and one clear mask. -/
def deccaraCombined (params : List Nat) : CellFlags × CellFlags :=
  params.foldl (fun (toSet, toClear) p =>
    let (s, c) := deccaraSetClear p
    (insert (remove toSet c) s, insert (remove toClear s) c)) (0, 0)

/-- A parameter list collapsed into one toggle mask. -/
def decraraCombined (params : List Nat) : CellFlags :=
  params.foldl (fun toggle p => insert toggle (decraraToggleMask p)) 0

/-- Erases a cell unless it is protected. -/
def Cell.eraseUnprotected (template c : Cell) : Cell :=
  if c.has isProtected then c else (c.reset template).insertFlags drawn

namespace Grid

/-! ## Column operations -/

/-- Rows and columns of a column operation at `atCol`, or `none` when it does not apply. -/
def columnOpExtent (g : Grid) (atCol : Nat) : Option (Nat × Nat × Nat × Nat) :=
  if g.lines = 0 ∨ g.cols = 0 then none
  else if g.regionStart ≥ g.regionEnd then none
  else if g.cursor.line < g.regionStart ∨ g.cursor.line ≥ g.regionEnd then none
  else
    let colStart := g.marginBand.1
    let colEnd := g.marginBand.2 + 1
    if atCol < colStart ∨ atCol ≥ colEnd then none
    else some (g.regionStart, g.regionEnd, colStart, colEnd)

/-- DECDC for one row. Unlike `deleteChars` it keeps the wide flags of the cell at `atCol`. -/
def rowDeleteColumns (g : Grid) (line atCol count stop : Nat) (template : Cell) : Grid :=
  (g.clearWideCharAt line atCol).closeColumns line atCol count stop template

/-- DECIC. -/
def insertColumns (g : Grid) (count atCol : Nat) : Grid :=
  if count = 0 then g
  else
    match g.columnOpExtent atCol with
    | none => g
    | some (rowStart, rowEnd, _, colEnd) =>
      let template := g.bceTemplate
      let cols := g.cols
      let count := min count (colEnd - atCol)
      forRange rowStart rowEnd (fun line g =>
        ((g.rowInsertColumns line atCol count colEnd template).markCols line atCol (colEnd - 1)).editRow line
          fun r => r.setOcc (min (r.occ + count) cols)) g

/-- DECDC. -/
def deleteColumns (g : Grid) (count atCol : Nat) : Grid :=
  if count = 0 then g
  else
    match g.columnOpExtent atCol with
    | none => g
    | some (rowStart, rowEnd, _, colEnd) =>
      let template := g.bceTemplate
      let cols := g.cols
      let count := min count (colEnd - atCol)
      forRange rowStart rowEnd (fun line g =>
        ((g.rowDeleteColumns line atCol count colEnd template).markCols line atCol (colEnd - 1)).editRow line
          fun r => if template.isEmpty then r else r.setOcc cols) g

/-! ## Rectangular areas -/

/-- Cleans the pairs across the two edges of a span. -/
def clearEdges (g : Grid) (line left right : Nat) : Grid :=
  let g := g.clearWideCharAt line left
  if right + 1 < g.cols then g.clearWideCharAt line right else g

/-- DECFRA. -/
def fillRect (g : Grid) (area : RectArea) (template : Cell) : Grid :=
  forRange area.top (area.bot + 1) (fun line g =>
    ((g.clearEdges line area.left area.right).editRow line fun r =>
      (r.modifyRange area.left (area.right + 1) fun c =>
        (c.reset template).insertFlags drawn).raiseOcc (area.right + 1)).markCols
      line area.left area.right) g

/-- DECERA: protected cells are erased like all others. -/
def eraseRectAll (g : Grid) (area : RectArea) (bg : Color) : Grid := g.fillRect area (Cell.ofBg bg)

/-- The last unprotected column of `left ..= right`. -/
def lastUnprotected (g : Grid) (line left right : Nat) : Option Nat :=
  (List.range' left (right + 1 - left)).reverse.find? fun col => !(g.cell line col).has isProtected

/-- Cleans the pairs across the edges whose own cell is not protected. -/
def clearUnprotectedEdges (g : Grid) (line left right : Nat) : Grid :=
  let leftUnprotected := !(g.cell line left).has isProtected
  let rightUnprotected := !(g.cell line right).has isProtected
  let g := if leftUnprotected then g.clearWideCharAt line left else g
  if rightUnprotected && right + 1 < g.cols then g.clearWideCharAt line right else g

/-- DECSERA: cells protected by DECSCA survive. -/
def eraseRectUnprotected (g : Grid) (area : RectArea) (bg : Color) : Grid :=
  let template := Cell.ofBg bg
  forRange area.top (area.bot + 1) (fun line g =>
    let g := g.clearUnprotectedEdges line area.left area.right
    let g' := g.editRow line (Row.modifyRange area.left (area.right + 1) (Cell.eraseUnprotected template))
    match g.lastUnprotected line area.left area.right with
    | some endCol => (g'.editRow line (Row.raiseOcc (endCol + 1))).markCols line area.left endCol
    | none => g') g

/-- Column span of one line of a rectangle. -/
def lineExtent (line : Nat) (area : RectArea) (cols : Nat) (mode : AceMode) : Nat × Nat :=
  match mode with
  | .rectangle => (area.left, area.right)
  | .stream =>
    (if line = area.top then area.left else 0, if line = area.bot then area.right else cols - 1)

/-- Edits the flags of every cell of the area. -/
def editFlagsRect (g : Grid) (area : RectArea) (aceMode : AceMode) (f : CellFlags → CellFlags) : Grid :=
  let cols := g.cols
  forRange area.top (area.bot + 1) (fun line g =>
    let rowLeft := (lineExtent line area cols aceMode).1
    let rowRight := (lineExtent line area cols aceMode).2
    (g.editRow line (Row.modifyRange rowLeft (rowRight + 1) fun c => { c with flags := f c.flags })).markCols
      line rowLeft rowRight) g

/-- DECCARA. -/
def applySgrRect (g : Grid) (area : RectArea) (params : List Nat) (aceMode : AceMode) : Grid :=
  let (toSet, toClear) := deccaraCombined params
  if toSet = 0 ∧ toClear = 0 then g
  else g.editFlagsRect area aceMode fun flags => insert (remove flags toClear) toSet

/-- DECRARA. -/
def reverseSgrRect (g : Grid) (area : RectArea) (params : List Nat) (aceMode : AceMode) : Grid :=
  let toggle := decraraCombined params
  if toggle = 0 then g else g.editFlagsRect area aceMode fun flags => flags ^^^ toggle

/-- DECCRA. The source cells are read before any is overwritten. -/
def copyRect (g : Grid) (src : RectArea) (dstTop dstLeft : Nat) : Grid :=
  let height := src.bot - src.top + 1
  let width := src.right - src.left + 1
  let dstBot := min (dstTop + height - 1) (g.lines - 1)
  let dstRight := min (dstLeft + width - 1) (g.cols - 1)
  let dh := dstBot - dstTop + 1
  let scratch := fun r c => g.cell (src.top + r) (src.left + c)
  forRange 0 dh (fun r g =>
    let dstLine := dstTop + r
    ((g.clearEdges dstLine dstLeft dstRight).editRow dstLine fun row =>
      (forRange dstLeft (dstRight + 1) (fun col row =>
        row.modify col fun _ => scratch r (col - dstLeft)) row).raiseOcc (dstRight + 1)).markCols
      dstLine dstLeft dstRight) g

/-! ## They are tracked -/

variable {g g' : Grid} {S : Nat → Nat → Prop}

/-- A loop over lines is tracked when its body is. -/
theorem tracked_lines {start stop : Nat} {f : Nat → Grid → Grid} (h : ∀ line g, Tracked g (f line g)) (g : Grid) :
    Tracked g (forRange start stop f g) :=
  forRange_invariant (fun line x _ _ hx => hx.trans (h line x)) (.refl _ g)

theorem edits_setOccs (g : Grid) (line : Nat) (f : Row → Row) (hshape : ∀ r, (f r).shape = r.shape)
    (hinner : ∀ r, (f r).inner = r.inner) : Edits S g (g.editRow line f) :=
  (Edits.refl S g).editRow line f hshape fun r c hne => absurd (by rw [hinner]) hne

/-- Editing the columns `left ..= right` of a line and marking them. -/
theorem tracked_editSpan {line left right : Nat} {f : Row → Row} (h : Tracked g g')
    (hshape : ∀ r, (f r).shape = r.shape)
    (hinner : ∀ r c, ¬ (left ≤ c ∧ c < right + 1) → (f r).inner[c]? = r.inner[c]?) :
    Tracked g ((g'.editRow line f).markCols line left right) := by
  refine Edits.markCols _ _ _ ?_ fun _ _ h => h
  refine h.edits.editRow line f hshape fun r c hne => ⟨rfl, ?_⟩
  by_contra hout
  exact hne (hinner r c (by omega))

theorem columnOpExtent_spec {atCol rowStart rowEnd colStart colEnd : Nat}
    (h : g.columnOpExtent atCol = some (rowStart, rowEnd, colStart, colEnd)) : atCol < colEnd := by
  unfold columnOpExtent at h
  split at h
  · cases h
  · split at h
    · cases h
    · split at h
      · cases h
      · dsimp only at h
        split at h
        · cases h
        · simp only [Option.some.injEq, Prod.mk.injEq] at h
          omega

theorem tracked_insertColumns (g : Grid) (count atCol : Nat) : Tracked g (g.insertColumns count atCol) := by
  unfold insertColumns
  split
  · exact .refl _ g
  · split
    · exact .refl _ g
    · next hext =>
      have hcol := columnOpExtent_spec hext
      refine tracked_lines (fun line x => ?_) g
      refine Edits.trans ?_ (edits_setOccs _ _ _ (fun r => Row.shape_setOcc ..) fun _ => rfl)
      exact (edits_rowInsertColumns x _ hcol (by omega)).markCols _ _ _ fun _ _ h => h

/-- DECDC in one row: the shift and its bookkeeping. -/
theorem tracked_deleteColumns_row (g : Grid) (line : Nat) {atCol count stop : Nat} (template : Cell) (cols : Nat)
    (hcount : atCol + count ≤ stop) :
    Tracked g (((g.rowDeleteColumns line atCol count stop template).markCols line atCol (stop - 1)).editRow line
      fun r => if template.isEmpty then r else r.setOcc cols) := by
  refine Edits.trans ?_ (edits_setOccs _ _ _ (fun r => ?_) fun r => ?_)
  · exact ((tracked_clearWideCharAt g line atCol).edits.closeColumns _ hcount).markCols _ _ _ fun _ _ h => h
  · split <;> rfl
  · split <;> rfl

theorem tracked_deleteColumns (g : Grid) (count atCol : Nat) : Tracked g (g.deleteColumns count atCol) := by
  unfold deleteColumns
  split
  · exact .refl _ g
  · split
    · exact .refl _ g
    · next hext =>
      have hcol := columnOpExtent_spec hext
      exact tracked_lines (fun line x => tracked_deleteColumns_row x line g.bceTemplate g.cols (by omega)) g

theorem tracked_clearEdges (g : Grid) (line left right : Nat) : Tracked g (g.clearEdges line left right) := by
  unfold clearEdges
  dsimp only
  split
  · exact (tracked_clearWideCharAt ..).trans (tracked_clearWideCharAt ..)
  · exact tracked_clearWideCharAt ..

theorem tracked_fillRect (g : Grid) (area : RectArea) (template : Cell) : Tracked g (g.fillRect area template) := by
  refine tracked_lines (fun line x => ?_) g
  refine tracked_editSpan (tracked_clearEdges ..) (fun r => ?_) fun r c hc => ?_
  · exact (Row.shape_raiseOcc ..).trans (Row.shape_modifyRange ..)
  · rw [Row.inner_raiseOcc]
    exact Row.getElem?_modifyRange _ r hc

/-- An erase of the unprotected cells ends at the last of them. -/
theorem getElem?_eraseUnprotected {left right c : Nat} (template : Cell) (r : Row)
    (h : ∀ i, left ≤ i → i < right + 1 → i = c → (r.get i).has isProtected = true) :
    (r.modifyRange left (right + 1) (Cell.eraseUnprotected template)).inner[c]? = r.inner[c]? := by
  refine forRange_invariant (P := fun r' : Row => r'.inner[c]? = r.inner[c]?) (fun i r' hs he hr' => ?_) rfl
  rw [Row.inner_modify]
  by_cases hi : i = c
  · subst hi
    have hprot := h i hs he rfl
    rw [getElem?_modify_eq, hr']
    cases hcell : r.inner[i]? with
    | none => rfl
    | some cell =>
      have hget : r.get i = cell := by simp [Row.get, hcell]
      rw [hget] at hprot
      simp [Cell.eraseUnprotected, hprot]
  · rw [getElem?_modify_ne _ _ hi, hr']

theorem lastUnprotected_some {line left right endCol i : Nat}
    (h : g.lastUnprotected line left right = some endCol) (hlt : endCol < i) (hl : left ≤ i)
    (hr : i < right + 1) : (g.cell line i).has isProtected = true := by
  obtain ⟨_, as, bs, hsplit, hall⟩ := find?_eq_some_iff_append.mp h
  have hmem : i ∈ (List.range' left (right + 1 - left)).reverse := by
    rw [mem_reverse, mem_range'_1]
    omega
  have hdesc : (List.range' left (right + 1 - left)).reverse.Pairwise (· > ·) :=
    pairwise_reverse.mpr (pairwise_lt_range' _)
  rw [hsplit] at hmem hdesc
  rcases mem_append.mp hmem with hbefore | hafter
  · simpa using hall i hbefore
  · rcases mem_cons.mp hafter with rfl | hrest
    · omega
    · have hgt := (pairwise_cons.mp (pairwise_append.mp hdesc).2.1).1 i hrest
      omega

theorem lastUnprotected_none {line left right i : Nat} (h : g.lastUnprotected line left right = none)
    (hl : left ≤ i) (hr : i < right + 1) : (g.cell line i).has isProtected = true := by
  have hmem : i ∈ (List.range' left (right + 1 - left)).reverse := by
    rw [mem_reverse, mem_range'_1]
    omega
  simpa using find?_eq_none.mp h i hmem

/-- The erase of one line owes the columns up to the last unprotected one. -/
theorem edits_eraseUnprotected (g : Grid) (line left right : Nat) (template : Cell) :
    Edits (fun i c => i = line ∧ left ≤ c ∧ ∃ endCol, g.lastUnprotected line left right = some endCol ∧ c ≤ endCol)
      g (g.editRow line (Row.modifyRange left (right + 1) (Cell.eraseUnprotected template))) := by
  refine edits_editRow g line _ (fun r _ => Row.shape_modifyRange ..) fun r c hr hne => ⟨rfl, ?_⟩
  have hrow : g.row line = r := row_eq hr
  by_contra hout
  apply hne
  apply getElem?_eraseUnprotected
  rintro i hl hright rfl
  have hcell : r.get i = g.cell line i := by rw [cell, hrow]
  rw [hcell]
  cases hlast : g.lastUnprotected line left right with
  | none => exact lastUnprotected_none hlast hl hright
  | some endCol =>
    refine lastUnprotected_some hlast ?_ hl hright
    by_contra hle
    exact hout ⟨hl, endCol, hlast, by omega⟩

theorem tracked_clearUnprotectedEdges (g : Grid) (line left right : Nat) :
    Tracked g (g.clearUnprotectedEdges line left right) := by
  have hleft : Tracked g
      (if !(g.cell line left).has isProtected then g.clearWideCharAt line left else g) := by
    split
    · exact tracked_clearWideCharAt ..
    · exact .refl _ g
  unfold clearUnprotectedEdges
  dsimp only
  generalize (if !(g.cell line left).has isProtected then g.clearWideCharAt line left else g) = g₁
    at hleft ⊢
  split
  · exact hleft.trans (tracked_clearWideCharAt ..)
  · exact hleft

section

variable (g : Grid) (area : RectArea)

theorem tracked_eraseRectUnprotected (bg : Color) : Tracked g (g.eraseRectUnprotected area bg) := by
  refine tracked_lines (fun line x => ?_) g
  -- the clean-up of the edges is tracked; `y` is the grid after it
  have hclean : ∀ y : Grid, Tracked x y → Tracked x
      (match y.lastUnprotected line area.left area.right with
      | some endCol => ((y.editRow line (Row.modifyRange area.left (area.right + 1)
          (Cell.eraseUnprotected (Cell.ofBg bg)))).editRow line (Row.raiseOcc (endCol + 1))).markCols
          line area.left endCol
      | none => y.editRow line (Row.modifyRange area.left (area.right + 1)
          (Cell.eraseUnprotected (Cell.ofBg bg)))) := by
    intro y hy
    have herase := edits_eraseUnprotected y line area.left area.right (Cell.ofBg bg)
    cases hlast : y.lastUnprotected line area.left area.right with
    | none =>
      refine hy.trans (herase.mono ?_)
      rintro i c ⟨_, _, endCol, hsome, _⟩
      rw [hlast] at hsome
      cases hsome
    | some endCol =>
      refine hy.trans (Edits.markCols _ _ _ (herase.trans
        (edits_setOccs _ _ _ (fun r => Row.shape_raiseOcc ..) fun r => Row.inner_raiseOcc ..)) ?_)
      rintro i c ⟨rfl, hl, endCol', hsome, hle⟩
      rw [hlast] at hsome
      obtain rfl := Option.some.inj hsome
      exact ⟨rfl, hl, hle⟩
  exact hclean _ (tracked_clearUnprotectedEdges ..)

theorem tracked_editFlagsRect (aceMode : AceMode) (f : CellFlags → CellFlags) :
    Tracked g (g.editFlagsRect area aceMode f) := by
  refine tracked_lines (fun line x => ?_) g
  exact tracked_editSpan (.refl _ x) (fun r => Row.shape_modifyRange ..)
    fun r c hc => Row.getElem?_modifyRange _ r hc

theorem tracked_applySgrRect (params : List Nat) (aceMode : AceMode) :
    Tracked g (g.applySgrRect area params aceMode) := by
  unfold applySgrRect
  dsimp only
  split
  · exact .refl _ g
  · exact tracked_editFlagsRect ..

theorem tracked_reverseSgrRect (params : List Nat) (aceMode : AceMode) :
    Tracked g (g.reverseSgrRect area params aceMode) := by
  unfold reverseSgrRect
  dsimp only
  split
  · exact .refl _ g
  · exact tracked_editFlagsRect ..

end

theorem tracked_copyRect (g : Grid) (src : RectArea) (dstTop dstLeft : Nat) :
    Tracked g (g.copyRect src dstTop dstLeft) := by
  refine tracked_lines (fun line x => ?_) g
  refine tracked_editSpan (tracked_clearEdges ..) (fun r => ?_) fun r c hc => ?_
  · refine (Row.shape_raiseOcc ..).trans ?_
    exact forRange_invariant (P := fun r' : Row => r'.shape = r.shape)
      (fun _ _ _ _ h => (Row.shape_modify ..).trans h) rfl
  · rw [Row.inner_raiseOcc]
    refine forRange_invariant (P := fun r' : Row => r'.inner[c]? = r.inner[c]?) (fun i r' hs he h => ?_) rfl
    have hne : i ≠ c := by omega
    rw [Row.inner_modify, getElem?_modify_ne _ _ hne, h]

end Grid

end OriTerm
