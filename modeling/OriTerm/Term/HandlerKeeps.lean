import OriTerm.Term.Keeps

/-!
# `Term.HandlerKeeps` — one `Keeps` lemma for each handler

A handler that writes to the screen says nothing about a scrolled-back view (`G.silent → False`), the others are
silent. Printing needs the wrap to mark (`InputMarks`), the resizes need uniform widths, and a soft reset shows
another screen when it leaves the alternate screen or reverse video.
-/

namespace OriTerm

open Lib Lib.Bitflags List Option
open Image (CacheOp)

namespace Term

variable {t t' : Term} {G : Guards}

/-! ## Images follow the grid -/

section

variable (ht : t.Wf)
include ht

theorem keeps_reconcile : Keeps G t t.reconcilePlaceholderAnchorsFromGrid := by
  unfold reconcilePlaceholderAnchorsFromGrid
  split
  · exact .refl ht
  · exact keeps_onCache ht fun c => (CacheOp.reconcilePlaceholderAnchors _).marks c

theorem keeps_reconcileIf (b : Bool) : Keeps G t (t.reconcileIf b) := by
  unfold reconcileIf
  split
  · exact keeps_reconcile ht
  · exact .refl ht

theorem keeps_pruneScrollback (evicted : StableRowIndex) : Keeps G t (t.onCache (·.pruneScrollback evicted)) :=
  keeps_onCache ht fun c => (CacheOp.pruneScrollback evicted).marks c

theorem keeps_removePlacementsInRegion (top bottom : StableRowIndex) (left right : Option Nat) :
    Keeps G t (t.onCache (·.removePlacementsInRegion top bottom left right)) :=
  keeps_onCache ht fun c => (CacheOp.removePlacementsInRegion top bottom left right).marks c

theorem keeps_pruneImagesIfEvicted (prevEvicted : Nat) : Keeps G t (t.pruneImagesIfEvicted prevEvicted) := by
  unfold pruneImagesIfEvicted
  dsimp only
  split
  · exact (keeps_pruneScrollback ht _).trans keeps_reconcile
  · exact .refl ht

theorem keeps_clearImagesAfterEd (mode : ClearMode) : Keeps G t (t.clearImagesAfterEd mode) := by
  refine Keeps.trans ?_ keeps_reconcile
  cases mode with
  | below | above =>
    dsimp only
    split
    · exact (keeps_removePlacementsInRegion ht ..).trans fun h => keeps_removePlacementsInRegion h ..
    · exact keeps_removePlacementsInRegion ht ..
  | all => exact keeps_removePlacementsInRegion ht ..
  | saved => exact keeps_pruneScrollback ht _

theorem keeps_clearImagesAfterEl (mode : LineEraseMode) : Keeps G t (t.clearImagesAfterEl mode) := by
  exact (keeps_removePlacementsInRegion ht ..).trans keeps_reconcile

theorem keeps_clearImagesAfterEch (count : Nat) : Keeps G t (t.clearImagesAfterEch count) := by
  unfold clearImagesAfterEch
  dsimp only
  split
  · exact (keeps_removePlacementsInRegion ht ..).trans keeps_reconcile
  · exact .refl ht

/-! ## Cursor positioning -/

theorem keeps_gotoOriginAware (line : Int) (col : Nat) : Keeps G t (t.gotoOriginAware line col) :=
  keeps_gridEdit ht _ fun _ => trivial

end

/-- A reverse wrap is a cursor move. -/
theorem tryReverseWrap_eq (h : t.tryReverseWrap = some t') : ∃ line col, t' = t.gridEdit (.moveTo line col) := by
  unfold tryReverseWrap at h
  dsimp only at h
  generalize (if t.activeGrid.cursorInMarginBand = true then t.activeGrid.leftMargin else 0) = left at h
  generalize (if t.activeGrid.cursorInMarginBand = true then t.activeGrid.rightMargin else t.activeGrid.cols - 1)
    = right at h
  split at h
  · cases h
  · split at h
    · cases h
    · split at h
      · exact ⟨_, _, (some.inj h).symm⟩
      · cases h

theorem keeps_backspace (ht : t.Wf) : Keeps G t t.backspace := by
  have hplain : Keeps G t (t.gridEdit .backspace) := keeps_gridEdit ht _ fun _ => trivial
  unfold Term.backspace
  split
  · cases h : t.tryReverseWrap with
    | none => exact hplain
    | some t' =>
      obtain ⟨line, col, rfl⟩ := tryReverseWrap_eq h
      exact keeps_gridEdit ht _ fun _ => trivial
  · exact hplain

theorem keeps_tabs (ht : t.Wf) (count : Nat) {e : GridEdit} (h : e.Silent) :
    Keeps G t (t.gridOps (List.replicate count (.edit e))) := by
  refine keeps_gridOps ht (fun op hop _ => ?_) (fun _ op hop _ => ?_) (fun op hop _ => ?_)
  · rw [eq_of_mem_replicate hop]
    trivial
  · rw [eq_of_mem_replicate hop]
    exact h
  · rw [eq_of_mem_replicate hop]
    trivial

theorem keeps_setScrollingRegion (ht : t.Wf) (top : Nat) (bottom : Option Nat) :
    Keeps G t (t.setScrollingRegion top bottom) :=
  (keeps_gridOp ht (.setScrollRegion top bottom) (fun _ => trivial) (fun _ => trivial) (fun _ => trivial)).trans
    fun h => keeps_gotoOriginAware h 0 0

/-! ## Printing -/

/-- A wrap that the character causes marks the cell it leaves behind. -/
def InputMarks (width : Char → Option Nat) (t : Term) (c : Char) : Prop :=
  let t := t.dirtySelection.dropPendingWrap
  t.takesAsciiPath c = true ∨
    let translated := t.charset.translate c
    let t := { t with charset := translated.1 }
    match width translated.2 with
    | some (w + 1) => t.dropsWide (w + 1) = true ∨ (t.makeRoom (w + 1)).activeGrid.WrapMarks (w + 1)
    | _ => True

instance (width : Char → Option Nat) (t : Term) (c : Char) : Decidable (InputMarks width t c) := by
  unfold InputMarks
  dsimp only
  split <;> infer_instance

section

variable (ht : t.Wf)
variable (rect : DecRect) (count : Nat)

include ht

theorem keeps_dropPendingWrap : Keeps G t t.dropPendingWrap := by
  unfold dropPendingWrap
  split
  · exact keeps_gridEdit ht _ fun _ => trivial
  · exact .refl ht

theorem keeps_makeRoom (width : Nat) (hq : ¬ G.silent) : Keeps G t (t.makeRoom width) := by
  unfold makeRoom
  split
  · exact keeps_gridEdit ht _ fun hG => absurd hG hq
  · exact .refl ht

theorem keeps_inputWide (width : Nat) (c : Char) (reconcile : Bool) (hq : ¬ G.silent)
    (hm : G.marks → t.dropsWide width = true ∨ (t.makeRoom width).activeGrid.WrapMarks width) :
    Keeps G t (t.inputWide width c reconcile) := by
  unfold inputWide
  split
  · exact keeps_gridEdit ht _ fun _ => trivial
  · next hdrops =>
    refine (keeps_makeRoom ht width hq).trans fun h => ?_
    have hput : Keeps G (t.makeRoom width) ((t.makeRoom width).gridOp (.putChar width c)) :=
      keeps_gridOp h _ (fun hG => (hm hG).resolve_left hdrops) (fun hG => absurd hG hq) (fun _ => trivial)
    exact (hput.trans fun h => keeps_pruneImagesIfEvicted h _).trans fun h => keeps_reconcileIf h _

theorem keeps_inputChar (width : Char → Option Nat) (c : Char) (hq : ¬ G.silent)
    (hm : G.marks → InputMarks width t c) : Keeps G t (inputChar width t c) := by
  unfold InputMarks at hm
  unfold inputChar
  dsimp only at hm ⊢
  refine ((keeps_dirtySelection ht).trans keeps_dropPendingWrap).trans fun h => ?_
  generalize t.dirtySelection.dropPendingWrap = t at hm h ⊢
  split
  · exact (keeps_gridEdit h _ fun hG => absurd hG hq).trans fun h => keeps_reconcileIf h _
  · next hascii =>
    have hcharset : Keeps G t { t with charset := (t.charset.translate c).1 } :=
      SameShown.keeps h ⟨⟨rfl, rfl, .refl _, rfl⟩, rfl, rfl, rfl, rfl⟩
    refine hcharset.trans fun h => ?_
    cases hwidth : width (t.charset.translate c).2 with
    | none => exact .refl h
    | some w =>
      cases w with
      | zero => exact keeps_gridEdit h _ fun hG => absurd hG hq
      | succ w =>
        refine keeps_inputWide h _ _ _ hq fun hG => ?_
        have hmarks := (hm hG).resolve_left hascii
        rw [hwidth] at hmarks
        exact hmarks

/-! ## Control characters, erasing and scrolling -/

theorem keeps_bell : Keeps G t t.bell := by
  unfold bell
  dsimp only
  split
  · exact (keeps_emit ht _).trans fun h => keeps_emit h _
  · exact keeps_emit ht _

theorem keeps_linefeed (hq : G.silent → t.activeGrid.linefeedScrolls = false) : Keeps G t t.linefeed := by
  refine ((keeps_dirtySelection ht).trans fun h => ?_).trans fun h => keeps_pruneImagesIfEvicted h _
  split <;> exact keeps_gridOp h _ (fun _ => trivial) hq (fun _ => trivial)

/-- A grid operation that may change the selection. -/
theorem keeps_dirtyGridOp (op : GridOp) (hm : op.Marks t.activeGrid) (hq : G.silent → op.Silent t.activeGrid)
    (hw : op.KeepsWidths t.activeGrid) : Keeps G t (t.dirtySelection.gridOp op) :=
  (keeps_dirtySelection ht).trans fun h => keeps_gridOp h op (fun _ => hm) hq (fun _ => hw)

theorem keeps_newline (hq : G.silent → t.activeGrid.linefeedScrolls = false) : Keeps G t t.newline :=
  (keeps_dirtyGridOp ht .nextLine trivial hq trivial).trans fun h => keeps_pruneImagesIfEvicted h _

theorem keeps_scrollUp (hq : ¬ G.silent) : Keeps G t (t.scrollUp count) :=
  (keeps_dirtyGridOp ht (.scrollUp count) trivial (fun hG => absurd hG hq) trivial).trans fun h =>
    keeps_pruneImagesIfEvicted h _

theorem keeps_clearScreen (mode : ClearMode) (hq : ¬ G.silent) : Keeps G t (t.clearScreen mode) :=
  (keeps_dirtyGridOp ht (.eraseDisplay _) trivial (fun hG => absurd hG hq) trivial).trans fun h =>
    keeps_clearImagesAfterEd h mode

theorem keeps_clearLine (mode : LineEraseMode) (hq : ¬ G.silent) : Keeps G t (t.clearLine mode) :=
  ((keeps_dirtySelection ht).trans fun h => keeps_gridEdit h _ fun hG => absurd hG hq).trans
    fun h => keeps_clearImagesAfterEl h mode

theorem keeps_eraseChars (hq : ¬ G.silent) : Keeps G t (t.eraseChars count) :=
  ((keeps_dirtySelection ht).trans fun h => keeps_clearImagesAfterEch h count).trans
    fun h => keeps_gridEdit h _ fun hG => absurd hG hq

/-! ## Rectangles and columns -/

theorem keeps_onRect {f : Term → RectArea → Term}
    (hf : ∀ t : Term, t.Wf → ∀ area, Keeps G t (f t area)) : Keeps G t (t.onRect rect f) := by
  unfold onRect
  split
  · exact .refl ht
  · exact (keeps_dirtySelection ht).trans fun h => hf _ h _

/-- An edit that may remove placeholder cells. -/
theorem keeps_editReconcile (e : GridEdit) (hq : ¬ G.silent) :
    Keeps G t (t.gridEdit e).reconcilePlaceholderAnchorsFromGrid :=
  (keeps_gridEdit ht e fun hG => absurd hG hq).trans keeps_reconcile

theorem keeps_deccara (attrs : List Nat) (hq : ¬ G.silent) : Keeps G t (t.deccara rect attrs) :=
  keeps_onRect ht rect fun _ h _ => keeps_gridEdit h _ fun hG => absurd hG hq

theorem keeps_decrara (attrs : List Nat) (hq : ¬ G.silent) : Keeps G t (t.decrara rect attrs) :=
  keeps_onRect ht rect fun _ h _ => keeps_gridEdit h _ fun hG => absurd hG hq

theorem keeps_deccra (src : DecRect) (dstTop dstLeft : Nat) (hq : ¬ G.silent) :
    Keeps G t (t.deccra src dstTop dstLeft) := by
  unfold deccra
  dsimp only
  split
  · exact .refl ht
  · exact keeps_onRect ht src fun _ h _ => keeps_editReconcile h _ hq

theorem keeps_decfra (ch : Nat) (rect : DecRect) (hq : ¬ G.silent) : Keeps G t (t.decfra ch rect) := by
  unfold decfra
  generalize (if ch = 0 then 0x20 else ch) = fillCode
  dsimp only
  split
  · exact keeps_onRect ht rect fun _ h _ => keeps_editReconcile h _ hq
  · exact .refl ht

theorem keeps_decera (hq : ¬ G.silent) : Keeps G t (t.decera rect) :=
  keeps_onRect ht rect fun _ h _ => keeps_editReconcile h _ hq

theorem keeps_decsera (hq : ¬ G.silent) : Keeps G t (t.decsera rect) :=
  keeps_onRect ht rect fun _ h _ => keeps_editReconcile h _ hq

theorem keeps_insertColumnsAt (count atCol : Nat) (hq : ¬ G.silent) : Keeps G t (t.insertColumnsAt count atCol) :=
  (keeps_dirtySelection ht).trans fun h => keeps_editReconcile h _ hq

theorem keeps_deleteColumnsAt (count atCol : Nat) (hq : ¬ G.silent) : Keeps G t (t.deleteColumnsAt count atCol) :=
  (keeps_dirtySelection ht).trans fun h => keeps_editReconcile h _ hq

theorem keeps_decic (hq : ¬ G.silent) : Keeps G t (t.decic count) := by
  unfold decic
  split
  · exact keeps_insertColumnsAt ht _ _ hq
  · exact .refl ht

theorem keeps_decdc (hq : ¬ G.silent) : Keeps G t (t.decdc count) := by
  unfold decdc
  split
  · exact keeps_deleteColumnsAt ht _ _ hq
  · exact .refl ht

theorem keeps_decbi (hq : ¬ G.silent) : Keeps G t t.decbi := by
  unfold decbi
  split
  · exact keeps_insertColumnsAt ht _ _ hq
  · exact keeps_gridEdit ht _ fun hG => absurd hG hq

theorem keeps_decfi (hq : ¬ G.silent) : Keeps G t t.decfi := by
  unfold decfi
  split
  · exact keeps_deleteColumnsAt ht _ _ hq
  · exact keeps_gridEdit ht _ fun hG => absurd hG hq

/-! ## Saved cursor, cursor style and keyboard -/

theorem keeps_saveCursor : Keeps G t t.saveCursor :=
  (keeps_gridEdit ht .saveCursor fun _ => trivial).trans fun h =>
    SameShown.keeps h ⟨⟨rfl, rfl, .refl _, rfl⟩, rfl, rfl, rfl, rfl⟩

theorem keeps_restoreCursor : Keeps G t t.restoreCursor := by
  unfold Term.restoreCursor
  refine (keeps_gridEdit ht .restoreCursor fun _ => trivial).trans fun h => ?_
  generalize t.gridEdit .restoreCursor = t at h ⊢
  have hcharset : Keeps G t { t with charset := t.savedCharset.getD t.charset } :=
    SameShown.keeps h ⟨⟨rfl, rfl, .refl _, rfl⟩, rfl, rfl, rfl, rfl⟩
  refine hcharset.trans fun h => ?_
  dsimp only
  split
  · exact keeps_setMode h _ (by decide) (by decide)
  · exact .refl h

theorem keeps_decslrmOrSaveCursor (hasParams : Bool) (left right : Nat) :
    Keeps G t (t.decslrmOrSaveCursor hasParams left right) := by
  unfold decslrmOrSaveCursor
  split
  · split
    · exact keeps_gridOp ht _ (fun _ => trivial) (fun _ => trivial) (fun _ => trivial)
    · exact .refl ht
  · split
    · exact keeps_gridOp ht _ (fun _ => trivial) (fun _ => trivial) (fun _ => trivial)
    · exact keeps_saveCursor ht

theorem keeps_setCursorShape (shape : CursorShape) : Keeps G t (t.setCursorShape shape) :=
  SameShown.keeps ht ⟨⟨rfl, rfl, .refl _, rfl⟩, rfl, rfl, rfl, rfl⟩

theorem keeps_setCursorStyle (style : Option (CursorShape × Bool)) : Keeps G t (t.setCursorStyle style) := by
  refine Keeps.trans ?_ fun h => keeps_emit h _
  cases style with
  | none => exact (keeps_setCursorShape ht _).trans fun h => keeps_insertMode h (by decide) (by decide)
  | some style => exact (keeps_setCursorShape ht _).trans fun h => keeps_setMode h _ (by decide) (by decide)

end

/-- What `setKeyboardMode` inserts are keyboard flags. -/
theorem applied_and {active newMode : TermMode} (ha : active &&& TermMode.kittyKeyboardProtocol = active)
    (hn : newMode &&& TermMode.kittyKeyboardProtocol = newMode) (apply : KeyboardModesApplyBehavior) :
    (match apply with
      | .replace => newMode
      | .union => active ||| newMode
      | .difference => active &&& ~~~newMode) &&& TermMode.kittyKeyboardProtocol =
    match apply with
      | .replace => newMode
      | .union => active ||| newMode
      | .difference => active &&& ~~~newMode := by
  cases apply with
  | replace => exact hn
  | union =>
    rw [BitVec.and_or_distrib_right, ha, hn]
  | difference =>
    rw [BitVec.and_assoc, BitVec.and_comm (~~~newMode), ← BitVec.and_assoc, ha]

/-- A kitty mode is made of keyboard flags. -/
theorem toTermMode_and (modes : KeyboardModes) :
    modes.toTermMode &&& TermMode.kittyKeyboardProtocol = modes.toTermMode := by
  have hall : ∀ a b c d e : Bool,
      set (set (set (set (set 0 TermMode.disambiguateEscCodes a) TermMode.reportEventTypes b)
        TermMode.reportAlternateKeys c) TermMode.reportAllKeysAsEsc d) TermMode.reportAssociatedText e
        &&& TermMode.kittyKeyboardProtocol =
      set (set (set (set (set 0 TermMode.disambiguateEscCodes a) TermMode.reportEventTypes b)
        TermMode.reportAlternateKeys c) TermMode.reportAllKeysAsEsc d) TermMode.reportAssociatedText e := by
    decide
  exact hall ..

theorem keeps_setKeyboardMode (ht : t.Wf) (mode : KeyboardModes) (apply : KeyboardModesApplyBehavior) :
    Keeps G t (t.setKeyboardMode mode apply) := by
  have hactive : t.mode &&& TermMode.kittyKeyboardProtocol &&& TermMode.kittyKeyboardProtocol =
      t.mode &&& TermMode.kittyKeyboardProtocol := by
    rw [BitVec.and_assoc, BitVec.and_self]
  have happlied := applied_and hactive (toTermMode_and mode) apply
  have hremove : Keeps G t (t.removeMode .kittyKeyboardProtocol) := keeps_removeMode ht (by decide) (by decide)
  refine hremove.trans fun h => ?_
  refine keeps_insertMode h ?_ ?_
  · exact Disjoint.of_and_eq (by decide) happlied
  · exact Disjoint.of_and_eq (by decide) happlied

theorem keeps_keyboardModeStack (ht : t.Wf) (stack : List KeyboardModes) :
    Keeps G t { t with keyboardModeStack := stack } :=
  SameShown.keeps ht ⟨⟨rfl, rfl, .refl _, rfl⟩, rfl, rfl, rfl, rfl⟩

theorem keeps_pushKeyboardMode (ht : t.Wf) (mode : KeyboardModes) : Keeps G t (t.pushKeyboardMode mode) := by
  unfold pushKeyboardMode
  exact (keeps_keyboardModeStack ht _).trans fun h => keeps_setKeyboardMode h ..

theorem keeps_popKeyboardModes (ht : t.Wf) (toPop : Nat) : Keeps G t (t.popKeyboardModes toPop) := by
  unfold popKeyboardModes
  exact (keeps_keyboardModeStack ht _).trans fun h => keeps_setKeyboardMode h ..

/-! ## Screens -/

/-- What repaints everything only owes the invariant and the image flags. -/
theorem Keeps.of_total (hwf : t'.Wf) (huniform : G.widths → t.Uniform → t'.Uniform)
    (htotal : t'.damageTotal = true) (himages : Image.Cache.Marks t.imageCache t'.imageCache)
    (haltImages : Image.Cache.Marks t.altCache t'.altCache) : Keeps G t t' :=
  ⟨hwf, huniform, fun _ _ => htotal, fun _ => .inl htotal, fun _ => .inl htotal, himages, haltImages⟩

theorem damageTotal_markAll (ht : t.Wf) : (t.gridEdit .markAll).damageTotal = true := by
  have hactive : (t.gridEdit .markAll).activeGrid = t.activeGrid.markAll := ht.activeGrid_onGrid _
  unfold damageTotal
  rw [hactive]
  rfl

theorem keeps_ensureAltGrid (ht : t.Wf) : Keeps G t t.ensureAltGrid := by
  unfold ensureAltGrid
  cases hg : t.altGrid with
  | some g => exact .refl ht
  | none =>
    have hpaired := ht.paired
    have hallocated := ht.allocated
    rw [hg] at hpaired hallocated
    have hoff : t.altActive = false := by
      cases ha : t.altActive with
      | false => rfl
      | true => cases hallocated ha
    have hcache : t.altImageCache = none := isSome_eq_false_iff.mp hpaired |> isNone_iff_eq_none.mp
    have halt : t.altCache = .new := by
      unfold altCache
      rw [hcache]
      rfl
    have hcols : 0 < t.grid.cols := Nat.lt_of_le_of_lt (Nat.zero_le _) ht.grid.right
    have hactive : (Term.activeGrid { t with altGrid := some (.withScrollback t.grid.lines t.grid.cols 0)
                                             altImageCache := some .new }) = t.activeGrid := by
      show (if t.altActive then _ else _) = if t.altActive then _ else _
      rw [hoff]
      rfl
    have hactiveCache : (Term.activeCache { t with altGrid := some (.withScrollback t.grid.lines t.grid.cols 0)
                                                   altImageCache := some .new }) = t.activeCache := by
      show (if t.altActive then _ else _) = if t.altActive then _ else _
      rw [hoff]
      rfl
    refine ⟨⟨ht.grid, fun g hg => ?_, rfl, fun _ => rfl⟩, fun _ hu => ⟨hu.1, fun g hg r hr => ?_⟩, fun _ h => ?_,
      fun _ => .inr ⟨⟨rfl, rfl, .refl _, rfl⟩, ?_, ?_⟩, fun _ => .inr ⟨⟨rfl, rfl, .refl _, rfl⟩, ?_, ?_⟩,
      .refl _, ?_⟩
    · cases hg
      exact Grid.wf_withScrollback _ _ hcols
    · cases hg
      cases hr
    · unfold damageTotal at h ⊢
      rw [hactive, hactiveCache]
      exact h
    · rw [hactive]
    · rw [hactive]
      exact id
    · rw [hactive]
    · rw [hactive]
    · rw [halt]
      exact .refl _

/-- **Flipping the screen** repaints everything, whatever was done to the grids before. -/
theorem keeps_toggleAltCommon {t₀ : Term} (ht : t.Wf) (halloc : t.altGrid.isSome = true)
    (huniform : G.widths → t₀.Uniform → t.Uniform) (himages : Image.Cache.Marks t₀.imageCache t.imageCache)
    (haltImages : Image.Cache.Marks t₀.altCache t.altCache) : Keeps G t₀ t.toggleAltCommon := by
  unfold toggleAltCommon
  dsimp only
  -- The flip exchanges what is kept per screen; neither the grids nor the caches are touched.
  generalize hflip : ({ t with
    mode := t.mode ^^^ TermMode.altScreen
    keyboardModeStack := t.inactiveKeyboardModeStack
    inactiveKeyboardModeStack := t.keyboardModeStack
    preCommandKbStackSnapshot := t.inactivePreCommandKbStackSnapshot
    inactivePreCommandKbStackSnapshot := t.preCommandKbStackSnapshot
    preCommandKbModeBitsSnapshot := t.inactivePreCommandKbModeBitsSnapshot
    inactivePreCommandKbModeBitsSnapshot := t.preCommandKbModeBitsSnapshot
    savedCharset := t.inactiveSavedCharset
    inactiveSavedCharset := t.savedCharset
    savedOriginMode := t.inactiveSavedOriginMode
    inactiveSavedOriginMode := t.savedOriginMode
    inactiveKeyboardModeBits := KeyboardModes.ofTermMode (t.mode ^^^ TermMode.altScreen) } : Term) = flipped
  have hgrid : flipped.grid = t.grid := by rw [← hflip]
  have haltGrid : flipped.altGrid = t.altGrid := by rw [← hflip]
  have hcache : flipped.imageCache = t.imageCache := by rw [← hflip]
  have haltCache : flipped.altImageCache = t.altImageCache := by rw [← hflip]
  have hwf : flipped.Wf := by
    refine ⟨hgrid ▸ ht.grid, haltGrid ▸ ht.altGrid, ?_, fun _ => ?_⟩
    · rw [haltGrid, haltCache]
      exact ht.paired
    · rw [haltGrid]
      exact halloc
  have hmode : Keeps G flipped (flipped.setKeyboardMode t.inactiveKeyboardModeBits .replace) :=
    keeps_setKeyboardMode hwf ..
  have hmark := hmode.trans fun h => keeps_gridEdit h .markAll fun _ => trivial
  refine .of_total hmark.wf (fun hw hu => hmark.uniform hw ?_) (damageTotal_markAll hmode.wf) ?_ ?_
  · unfold Uniform
    rw [hgrid, haltGrid]
    exact huniform hw hu
  · exact himages.trans (hcache ▸ hmark.images)
  · have halt : flipped.altCache = t.altCache := by unfold altCache; rw [haltCache]
    exact haltImages.trans (halt ▸ hmark.altImages)

theorem ensureAltGrid_isSome (t : Term) : t.ensureAltGrid.altGrid.isSome = true := by
  unfold ensureAltGrid
  split
  · next g hg => rw [hg]; rfl
  · rfl

/-- The state a swap starts from. -/
theorem keeps_prepareSwap (ht : t.Wf) : Keeps G t t.dirtySelection.ensureAltGrid :=
  (keeps_dirtySelection ht).trans keeps_ensureAltGrid

theorem keeps_swapAltNoCursor (ht : t.Wf) : Keeps G t t.swapAltNoCursor :=
  (keeps_prepareSwap ht).trans fun h =>
    keeps_toggleAltCommon h (ensureAltGrid_isSome _) (fun _ => id) (.refl _) (.refl _)

/-- Operations on both grids keep the terminal well formed. -/
theorem wf_grids (ht : t.Wf) {f f' : Grid → Grid} (hf : (f t.grid).Wf) (hf' : ∀ g : Grid, g.Wf → (f' g).Wf) :
    Wf { t with grid := f t.grid, altGrid := t.altGrid.map f' } := by
  refine ⟨hf, fun g hg => ?_, ?_, fun ha => ?_⟩
  · obtain ⟨g₀, hg₀, rfl⟩ := map_eq_some_iff.mp hg
    exact hf' g₀ (ht.altGrid g₀ hg₀)
  · rw [isSome_map]
    exact ht.paired
  · rw [isSome_map]
    exact ht.allocated ha

/-- Operations on both grids that keep their widths uniform. -/
theorem uniform_grids (hu : t.Uniform) {f k : Grid → Grid} (hf : t.grid.HistoryUniform → (f t.grid).HistoryUniform)
    (hf' : ∀ g, t.altGrid = some g → g.HistoryUniform → (k g).HistoryUniform) :
    Uniform { t with grid := f t.grid, altGrid := t.altGrid.map k } := by
  refine ⟨hf hu.1, fun g hg => ?_⟩
  obtain ⟨g₀, hg₀, rfl⟩ := map_eq_some_iff.mp hg
  exact hf' g₀ hg₀ (hu.2 g₀ hg₀)

/-- Silent edits of both grids, before the screen is flipped. -/
theorem keeps_flipAfter (ht : t.Wf) (halloc : t.altGrid.isSome = true) {e e' : GridEdit} (h : e.Silent)
    (h' : e'.Silent) :
    Keeps G t (toggleAltCommon { t with grid := e.apply t.grid, altGrid := t.altGrid.map fun g => e'.apply g }) := by
  have hquiet : ∀ {g : Grid} {e : GridEdit}, g.Wf → e.Silent → GridOp.Quiet g (e.apply g) := fun hg he =>
    @GridOp.quiet _ hg (.edit _) he trivial
  refine keeps_toggleAltCommon ?_ ?_ (fun _ hu => ?_) (.refl _) (.refl _)
  · exact wf_grids ht (f := fun g => e.apply g) (hquiet ht.grid h).wf fun g hg => (hquiet hg h').wf
  · rw [isSome_map]
    exact halloc
  · exact uniform_grids hu (f := fun g => e.apply g) (hquiet ht.grid h).uniform
      fun g hg => (hquiet (ht.altGrid g hg) h').uniform

theorem keeps_swapAlt (ht : t.Wf) : Keeps G t t.swapAlt := by
  unfold swapAlt
  refine (keeps_prepareSwap ht).trans fun h => ?_
  have halloc := ensureAltGrid_isSome t.dirtySelection
  generalize t.dirtySelection.ensureAltGrid = t at h halloc ⊢
  dsimp only
  split
  · exact @keeps_flipAfter _ _ h halloc .restoreCursor .saveCursor trivial trivial
  · exact @keeps_flipAfter _ _ h halloc .saveCursor .restoreCursor trivial trivial

theorem keeps_swapAltClear (ht : t.Wf) : Keeps G t t.swapAltClear := by
  unfold swapAltClear
  refine (keeps_prepareSwap ht).trans fun h => ?_
  have halloc := ensureAltGrid_isSome t.dirtySelection
  generalize t.dirtySelection.ensureAltGrid = t at h halloc ⊢
  refine keeps_toggleAltCommon ⟨h.grid, fun g hg => ?_, ?_, fun _ => ?_⟩ ?_ (fun _ hu => ⟨hu.1, fun g hg => ?_⟩)
    (.refl _) ?_
  · obtain ⟨g₀, hg₀, rfl⟩ := map_eq_some_iff.mp hg
    exact (GridOp.reset.keeps (h.altGrid g₀ hg₀)).wf
  · rw [isSome_map, isSome_map]
    exact h.paired
  · rw [isSome_map]
    exact halloc
  · rw [isSome_map]
    exact halloc
  · obtain ⟨g₀, hg₀, rfl⟩ := map_eq_some_iff.mp hg
    exact (GridOp.reset.keeps (h.altGrid g₀ hg₀)).uniform trivial (hu.2 g₀ hg₀)
  · unfold altCache
    cases t.altImageCache with
    | none => exact .refl _
    | some c => exact CacheOp.clear.marks c

/-! ## Modes -/

theorem keeps_setReverseVideo (ht : t.Wf) (enable : Bool) : Keeps G t (t.setReverseVideo enable) := by
  have ha : contains (set t.mode TermMode.reverseVideo enable) TermMode.altScreen
      = contains t.mode TermMode.altScreen := by
    cases enable with
    | false => exact contains_remove_of_disjoint (by decide)
    | true => exact contains_insert_of_disjoint (by decide)
  have hwf : (t.setMode TermMode.reverseVideo enable).Wf :=
    ⟨ht.grid, ht.altGrid, ht.paired, fun h => ht.allocated (ha.symm.trans h)⟩
  have hmark : Keeps G (t.setMode TermMode.reverseVideo enable) (t.setReverseVideo enable) :=
    keeps_gridEdit hwf .markAll fun _ => trivial
  exact .of_total hmark.wf hmark.uniform (damageTotal_markAll hwf) hmark.images hmark.altImages

/-- DECCOLM keeps the widths when it does not resize, or to a grid whose history has the new width. -/
def DeccolmKeepsWidths (t : Term) (isSet : Bool) : Prop :=
  t.has .enableMode3 = true →
    t.activeGrid.ResizeUniform t.activeGrid.lines (if isSet then 132 else t.deccolmDefaultCols) false

instance (t : Term) (isSet : Bool) : Decidable (t.DeccolmKeepsWidths isSet) := by
  unfold DeccolmKeepsWidths
  infer_instance

theorem keeps_applyDeccolm (ht : t.Wf) (isSet : Bool) (hq : ¬ G.silent) (hw : G.widths → t.DeccolmKeepsWidths isSet) :
    Keeps G t (t.applyDeccolm isSet) := by
  have hresize : Keeps G t (if t.has TermMode.enableMode3 = true then
      t.gridOp (.resize t.activeGrid.lines (if isSet = true then 132 else t.deccolmDefaultCols) false) else t) := by
    split
    · next h3 => exact keeps_gridOp ht _ (fun _ => trivial) (fun hG => absurd hG hq) (fun hG => hw hG h3)
    · exact .refl ht
  have hregion := hresize.trans fun h =>
    keeps_gridOp h (.setScrollRegion 1 none) (fun _ => trivial) (fun _ => trivial) (fun _ => trivial)
  have hmargins := hregion.trans fun h =>
    keeps_gridOp h .resetLeftRightMargins (fun _ => trivial) (fun _ => trivial) (fun _ => trivial)
  have herase := hmargins.trans fun h =>
    keeps_dirtyGridOp h (.eraseDisplay .all) trivial (fun hG => absurd hG hq) trivial
  exact (herase.trans fun h => keeps_clearImagesAfterEd h .all).trans fun h => keeps_gotoOriginAware h 0 0

section

variable (ht : t.Wf) {flag : TermMode} (ha : Disjoint flag TermMode.altScreen)
  (hr : Disjoint flag TermMode.reverseVideo)
include ht ha hr

theorem keeps_setMouseMode : Keeps G t (t.setMouseMode flag) := by
  have hremove : Keeps G t (t.removeMode .anyMouse) := keeps_removeMode ht (by decide) (by decide)
  exact (hremove.trans fun h => keeps_insertMode h ha hr).trans fun h => keeps_emit h _

theorem keeps_setMouseEncoding : Keeps G t (t.setMouseEncoding flag) := by
  have hremove : Keeps G t (t.removeMode .anyMouseEncoding) := keeps_removeMode ht (by decide) (by decide)
  exact hremove.trans fun h => keeps_insertMode h ha hr

end

/-- What the guards ask of a mode change: only DECCOLM erases or resizes. -/
def ModeGuards (G : Guards) (t : Term) (mode : NamedPrivateMode) (value : Bool) : Prop :=
  mode = .columnMode → ¬ G.silent ∧ (G.widths → t.DeccolmKeepsWidths value)

section

variable (ht : t.Wf) (mode : NamedPrivateMode)
include ht

theorem keeps_applyDecset (h : ModeGuards G t mode true) : Keeps G t (t.applyDecset mode) := by
  have hflag : ∀ flag : TermMode, Disjoint flag TermMode.altScreen ∧ Disjoint flag TermMode.reverseVideo →
      Keeps G t (t.insertMode flag) := fun flag hd => keeps_insertMode ht hd.1 hd.2
  have hunless : ∀ {t' : Term}, Keeps G t t' → Keeps G t (if t.altActive = true then t else t') := by
    intro t' hk
    split
    · exact .refl ht
    · exact hk
  cases mode with
  | origin => exact (hflag _ (by decide)).trans fun h => keeps_gotoOriginAware h 0 0
  | blinkingCursor => exact (hflag _ (by decide)).trans fun h => keeps_emit h _
  | x10Mouse | reportMouseClicks | reportCellMouseMotion | reportAllMouseMotion =>
    exact keeps_setMouseMode ht (by decide) (by decide)
  | utf8Mouse | sgrMouse | urxvtMouse => exact keeps_setMouseEncoding ht (by decide) (by decide)
  | altScreen => exact hunless (keeps_swapAltNoCursor ht)
  | altScreenOpt => exact hunless (keeps_swapAltClear ht)
  | saveCursor => exact keeps_gridEdit ht _ fun _ => trivial
  | swapScreenAndSetRestoreCursor => exact hunless (keeps_swapAlt ht)
  | reverseVideo => exact keeps_setReverseVideo ht true
  | columnMode => exact keeps_applyDeccolm ht true (h rfl).1 (h rfl).2
  | _ => exact hflag _ (by decide)

theorem keeps_applyDecrst (h : ModeGuards G t mode false) : Keeps G t (t.applyDecrst mode) := by
  have hflag : ∀ flag : TermMode, Disjoint flag TermMode.altScreen ∧ Disjoint flag TermMode.reverseVideo →
      Keeps G t (t.removeMode flag) := fun flag hd => keeps_removeMode ht hd.1 hd.2
  have hwhen : ∀ {t' : Term}, Keeps G t t' → Keeps G t (if t.altActive = true then t' else t) := by
    intro t' hk
    split
    · exact hk
    · exact .refl ht
  cases mode with
  | origin => exact (hflag _ (by decide)).trans fun h => keeps_gotoOriginAware h 0 0
  | blinkingCursor | x10Mouse | reportMouseClicks | reportCellMouseMotion | reportAllMouseMotion =>
    exact (hflag _ (by decide)).trans fun h => keeps_emit h _
  | altScreen | altScreenOpt => exact hwhen (keeps_swapAltNoCursor ht)
  | saveCursor => exact keeps_gridEdit ht _ fun _ => trivial
  | swapScreenAndSetRestoreCursor => exact hwhen (keeps_swapAlt ht)
  | reverseVideo => exact keeps_setReverseVideo ht false
  | columnMode => exact keeps_applyDeccolm ht false (h rfl).1 (h rfl).2
  | leftRightMargin =>
    exact (hflag _ (by decide)).trans fun h =>
      keeps_gridOp h .resetLeftRightMargins (fun _ => trivial) (fun _ => trivial) (fun _ => trivial)
  | _ => exact hflag _ (by decide)

theorem keeps_applyPrivateMode (value : Bool)
    (h : ModeGuards G t mode value) : Keeps G t (t.applyPrivateMode mode value) := by
  cases value with
  | false => exact keeps_applyDecrst ht mode h
  | true => exact keeps_applyDecset ht mode h

end

theorem keeps_applyMode (ht : t.Wf) (mode : NamedMode) (value : Bool) : Keeps G t (t.applyMode mode value) := by
  cases mode with
  | insert | lineFeedNewLine => exact keeps_setMode ht value (by decide) (by decide)

theorem keeps_applyXtsave (ht : t.Wf) (modes : List Nat) : Keeps G t (t.applyXtsave modes) := by
  induction modes generalizing t with
  | nil => exact .refl ht
  | cons num modes ih =>
    have hone : Keeps G t (t.xtsaveOne num) := SameShown.keeps ht ⟨⟨rfl, rfl, .refl _, rfl⟩, rfl, rfl, rfl, rfl⟩
    exact hone.trans fun h => ih h

theorem keeps_xtrestoreOne (ht : t.Wf) (num : Nat)
    (h : ∀ value, t.savedPrivateModes.lookup num = some value → ∀ mode, NamedPrivateMode.ofNumber num = some mode →
      ModeGuards G t mode value) : Keeps G t (t.xtrestoreOne num) := by
  unfold xtrestoreOne
  split
  · next saved named hs hn => exact keeps_applyPrivateMode ht named saved (h saved hs named hn)
  · exact .refl ht

/-! ## Resets -/

theorem quiet_softResetGrid {g : Grid} (hg : g.Wf) : GridOp.Quiet g (softResetGrid g) := by
  refine GridOp.quiet_foldl hg fun op hop g => ?_
  simp only [mem_cons, not_mem_nil, or_false] at hop
  rcases hop with rfl | rfl | rfl | rfl | rfl | rfl | rfl <;> exact ⟨trivial, trivial⟩

/-- A soft reset shows what was shown before, or repaints the primary screen. -/
def SoftResetShown (t : Term) : Prop :=
  t.altActive = false ∧ t.has .reverseVideo = false
    ∨ t.grid.dirty.allDirty = true ∨ t.imageCache.clear.dirty = true

instance (t : Term) : Decidable t.SoftResetShown := by
  unfold SoftResetShown
  infer_instance

theorem marks_clearAlt (t : Term) : Image.Cache.Marks t.altCache ((t.altImageCache.map (·.clear)).getD .new) := by
  unfold altCache
  cases t.altImageCache with
  | none => exact .refl _
  | some c => exact CacheOp.clear.marks c

section

variable (ht : t.Wf)
include ht

theorem keeps_softReset (hm : G.marks → t.SoftResetShown) (hq : G.silent → t.SoftResetShown)
    (hs : G.screen → t.SoftResetShown) : Keeps G t t.softReset := by
  have hquiet := quiet_softResetGrid ht.grid
  have hoff : t.softReset.altActive = false := by
    show contains TermMode.initial TermMode.altScreen = false
    decide
  have hvideo : t.softReset.has .reverseVideo = false := by
    show contains TermMode.initial TermMode.reverseVideo = false
    decide
  have hactive : t.softReset.activeGrid = softResetGrid t.grid := by
    unfold Term.activeGrid
    rw [hoff]
    rfl
  have hcache : t.softReset.activeCache = t.imageCache.clear := by
    unfold Term.activeCache
    rw [hoff]
    rfl
  have hwf : t.softReset.Wf := by
    have hgrids := wf_grids ht hquiet.wf fun g hg => (quiet_softResetGrid hg).wf
    refine ⟨hgrids.grid, hgrids.altGrid, ?_, fun ha => ?_⟩
    · show (t.altImageCache.map _).isSome = (t.altGrid.map _).isSome
      rw [isSome_map, isSome_map]
      exact ht.paired
    · rw [hoff] at ha
      cases ha
  have htotal : (t.grid.dirty.allDirty = true ∨ t.imageCache.clear.dirty = true) → t.softReset.damageTotal = true := by
    intro h
    unfold damageTotal
    rw [hactive, hcache, Bool.or_eq_true]
    exact h.imp hquiet.allDirty id
  have hshown : ∀ {V : Grid → Grid → Prop}, (∀ g g', Grid.Still g g' → V g g') → t.SoftResetShown →
      Shown V t t.softReset := by
    intro V hV h
    rcases h with ⟨ha, hr⟩ | h
    · have hprimary : t.activeGrid = t.grid := Wf.activeGrid_of_primary ha
      rcases hquiet.shown with hd | ⟨hrep, hstill⟩
      · left
        unfold damageTotal
        rw [hactive, hd]
        rfl
      · refine .inr ⟨⟨hoff.trans ha.symm, hvideo.trans hr.symm, .refl _, rfl⟩, ?_, ?_⟩ <;> rw [hactive, hprimary]
        · exact hrep
        · exact hV _ _ hstill
    · exact .inl (htotal h)
  refine ⟨hwf, fun _ hu => ?_, fun hG h => ?_, fun hG => hshown (fun _ _ hst h0 => hst.displayOffset.trans h0) (hm hG),
    fun hG => hshown (fun _ _ => id) (hq hG), CacheOp.clear.marks _, marks_clearAlt t⟩
  · exact uniform_grids hu hquiet.uniform
      fun g hg => (quiet_softResetGrid (ht.altGrid g hg)).uniform
  · rcases hs hG with ⟨ha, _⟩ | h'
    · refine htotal ?_
      unfold damageTotal at h
      rw [Wf.activeGrid_of_primary ha, ht.activeCache_eq, ha, Bool.or_eq_true] at h
      exact h.imp id (CacheOp.clear.marks _).stays
    · exact htotal h'

theorem keeps_decscl (level c1Mode : Nat) (hm : G.marks → t.SoftResetShown) (hq : G.silent → t.SoftResetShown)
    (hs : G.screen → t.SoftResetShown) : Keeps G t (t.decscl level c1Mode) := by
  have hlevel : Keeps G t { t with conformanceLevel := level, c1SevenBit := c1Mode == 1 } :=
    SameShown.keeps ht ⟨⟨rfl, rfl, .refl _, rfl⟩, rfl, rfl, rfl, rfl⟩
  exact hlevel.trans fun h => keeps_softReset h hm hq hs

theorem keeps_resetState : Keeps G t t.resetState := by
  have hreset : ∀ g : Grid, g.Wf → g.reset.Wf := fun g hg => (GridOp.reset.keeps hg).wf
  have hoff : t.resetState.altActive = false := by
    show contains TermMode.initial TermMode.altScreen = false
    decide
  have hactive : t.resetState.activeGrid = t.grid.reset := by
    unfold Term.activeGrid
    rw [hoff]
    rfl
  refine .of_total ?_ (fun _ hu => ?_) ?_ (CacheOp.clear.marks _) (marks_clearAlt t)
  · have hgrids := wf_grids ht (hreset _ ht.grid) hreset
    refine ⟨hgrids.grid, hgrids.altGrid, ?_, fun ha => ?_⟩
    · show (t.altImageCache.map _).isSome = (t.altGrid.map _).isSome
      rw [isSome_map, isSome_map]
      exact ht.paired
    · rw [hoff] at ha
      cases ha
  · exact uniform_grids hu ((GridOp.reset.keeps ht.grid).uniform trivial)
      fun g hg => (GridOp.reset.keeps (ht.altGrid g hg)).uniform trivial
  · unfold damageTotal
    rw [hactive]
    rfl

theorem keeps_decaln (hq : ¬ G.silent) : Keeps G t t.decaln := by
  have hregion : Keeps G t (t.dirtySelection.gridOp (.setScrollRegion 1 none)) :=
    keeps_dirtyGridOp ht _ trivial (fun _ => trivial) trivial
  have hmargins := hregion.trans fun h =>
    keeps_gridOp h .resetLeftRightMargins (fun _ => trivial) (fun _ => trivial) (fun _ => trivial)
  exact (hmargins.trans fun h => keeps_gridEdit h _ fun hG => absurd hG hq).trans fun h =>
    keeps_gotoOriginAware h 0 0

theorem keeps_decsca (isProtected : Nat) : Keeps G t (t.decsca isProtected) := by
  have hflag : Keeps G t { t with charProtection := isProtected == 1 } :=
    SameShown.keeps ht ⟨⟨rfl, rfl, .refl _, rfl⟩, rfl, rfl, rfl, rfl⟩
  exact hflag.trans fun h => keeps_gridEdit h _ fun _ => trivial

/-! ## Titles, colours, links -/

theorem keeps_setTitle (title : Option String) : Keeps G t (t.setTitle title) :=
  SameShown.keeps ht ⟨⟨rfl, rfl, .refl _, rfl⟩, rfl, rfl, rfl, rfl⟩

theorem keeps_popTitle : Keeps G t t.popTitle := by
  unfold popTitle
  split
  · exact SameShown.keeps ht ⟨⟨rfl, rfl, .refl _, rfl⟩, rfl, rfl, rfl, rfl⟩
  · exact .refl ht

/-- A palette change repaints, or only touches the cursor colour. -/
theorem keeps_onPalette (index : Nat) {f : Palette → Palette}
    (hf : index = NamedColor.cursor.index → t.palette.Agrees (f t.palette)) : Keeps G t (t.onPalette index f) := by
  have hwf : Wf { t with palette := f t.palette } := ⟨ht.grid, ht.altGrid, ht.paired, ht.allocated⟩
  unfold onPalette
  split
  · have hmark : Keeps G _ (gridEdit { t with palette := f t.palette } .markAll) :=
      keeps_gridEdit hwf .markAll fun _ => trivial
    exact .of_total hmark.wf hmark.uniform (damageTotal_markAll hwf) hmark.images hmark.altImages
  · next hcursor =>
    exact SameShown.keeps ht ⟨⟨rfl, rfl, hf (not_not.mp hcursor), rfl⟩, rfl, rfl, rfl, rfl⟩

theorem keeps_setColor (index : Nat) (color : Rgb) : Keeps G t (t.setColor index color) := by
  refine keeps_onPalette ht index fun h => ?_
  subst h
  exact .set t.palette color

theorem keeps_resetColor (index : Nat) : Keeps G t (t.resetColor index) := by
  refine keeps_onPalette ht index fun h => ?_
  subst h
  exact .set t.palette _

theorem keeps_setGraphicsAttribute (pi pa pv : Nat) : Keeps G t (t.setGraphicsAttribute pi pa pv) := by
  unfold setGraphicsAttribute
  split
  · split
    · exact SameShown.keeps ht ⟨⟨rfl, rfl, .refl _, rfl⟩, rfl, rfl, rfl, rfl⟩
    · split
      · exact SameShown.keeps ht ⟨⟨rfl, rfl, .refl _, rfl⟩, rfl, rfl, rfl, rfl⟩
      · exact .refl ht
  · exact .refl ht

theorem keeps_oscIterm2SetMark : Keeps G t t.oscIterm2SetMark := by
  unfold oscIterm2SetMark
  split
  · exact .refl ht
  · exact SameShown.keeps ht ⟨⟨rfl, rfl, .refl _, rfl⟩, rfl, rfl, rfl, rfl⟩

theorem keeps_setTheme (theme : Theme) : Keeps G t (t.setTheme theme) := by
  unfold setTheme
  split
  · exact .refl ht
  · have hwf : Wf { t with theme := theme, palette := .forTheme theme } :=
      ⟨ht.grid, ht.altGrid, ht.paired, ht.allocated⟩
    have hmark : Keeps G _ (gridEdit { t with theme := theme, palette := .forTheme theme } .markAll) :=
      keeps_gridEdit hwf .markAll fun _ => trivial
    have htotal : Keeps G t (gridEdit { t with theme := theme, palette := .forTheme theme } .markAll) :=
      .of_total hmark.wf hmark.uniform (damageTotal_markAll hwf) hmark.images hmark.altImages
    dsimp only
    split
    · refine htotal.trans fun h => ?_
      cases theme with
      | dark | light => exact keeps_emit h _
      | unknown => exact .refl h
    · exact htotal

/-! ## Images -/

/-- Line feeds that make room below the cursor. -/
theorem keeps_linefeeds (count : Nat) (hq : ¬ G.silent) : Keeps G t (t.gridOps (List.replicate count .linefeed)) := by
  refine keeps_gridOps ht (fun op hop _ => ?_) (fun hG => absurd hG hq) (fun op hop _ => ?_)
  · rw [eq_of_mem_replicate hop]
    trivial
  · rw [eq_of_mem_replicate hop]
    trivial

theorem keeps_kittyAdvance (cols rows : Nat) (hq : ¬ G.silent) : Keeps G t (t.kittyAdvance cols rows) :=
  (keeps_linefeeds ht _ hq).trans fun h => keeps_gridEdit h _ fun _ => trivial

theorem keeps_imageAdvance (rows : Nat) (hq : ¬ G.silent) : Keeps G t (t.imageAdvance rows) :=
  (keeps_linefeeds ht _ hq).trans fun h => keeps_pruneImagesIfEvicted h _

theorem keeps_sixelAdvance (col cols rows : Nat) (hq : ¬ G.silent) : Keeps G t (t.sixelAdvance col cols rows) := by
  unfold sixelAdvance
  split
  · exact keeps_gridEdit ht _ fun _ => trivial
  · split
    · exact keeps_imageAdvance ht rows hq
    · exact .refl ht

theorem keeps_setCellDimensions (width height : Nat) : Keeps G t (t.setCellDimensions width height) := by
  have hdims : Keeps G t { t with cellPixelWidth := width, cellPixelHeight := height } :=
    SameShown.keeps ht ⟨⟨rfl, rfl, .refl _, rfl⟩, rfl, rfl, rfl, rfl⟩
  exact hdims.trans fun h => keeps_onCaches h fun c => (CacheOp.updateCellCoverage width height).marks c

theorem keeps_setImageLimits (memoryLimit maxSingle : Nat) : Keeps G t (t.setImageLimits memoryLimit maxSingle) :=
  keeps_onCaches ht fun c =>
    ((CacheOp.setMemoryLimit memoryLimit).marks c).trans ((CacheOp.setMaxSingleImage maxSingle).marks _)

theorem keeps_setImageAnimationEnabled (enabled : Bool) : Keeps G t (t.setImageAnimationEnabled enabled) :=
  keeps_onCaches ht fun c => (CacheOp.setAnimationEnabled enabled).marks c

theorem keeps_advanceAnimations (now : Image.Nanos) : Keeps G t (t.advanceAnimations now).1 :=
  keeps_onCache ht fun c => (CacheOp.advanceAnimations now _ _).marks c

/-- Image commands on the active cache. -/
theorem keeps_cacheOps (ops : List CacheOp) : Keeps G t (t.onCache fun c => ops.foldl CacheOp.apply c) :=
  keeps_onCache ht fun c => Image.Cache.Marks.foldl (fun c op => op.marks c) ops c

end

/-! ## Resize -/

theorem marks_resizeCache (before after : Grid) (mapping : Option ReflowMapping) (newLines newCols : Nat)
    (c : Image.Cache) : Image.Cache.Marks c (resizeCache before after mapping newLines newCols c) := by
  have hprune : ∀ c : Image.Cache, Image.Cache.Marks c
      (if after.totalEvicted > before.totalEvicted then c.pruneScrollback ⟨after.totalEvicted⟩ else c) := by
    intro c
    split
    · exact (CacheOp.pruneScrollback _).marks c
    · exact .refl c
  cases mapping with
  | none => exact (hprune c).trans ((CacheOp.onResize newCols newLines).marks _)
  | some m =>
    exact (((CacheOp.remapPlacements m).marks c).trans (hprune _)).trans ((CacheOp.onResize newCols newLines).marks _)

theorem keeps_reconcileBoth (ht : t.Wf) : Keeps G t t.reconcileBothPlaceholderAnchors := by
  have hone : ∀ (g : Grid) (c : Image.Cache), Image.Cache.Marks c (if c.placeholderAnchors = ∅ then c
      else c.reconcilePlaceholderAnchors (collectPlaceholderImageIdsInGrid g)) := by
    intro g c
    split
    · exact .refl c
    · exact (CacheOp.reconcilePlaceholderAnchors _).marks c
  refine keeps_caches ht ?_ (hone _ _) ?_
  · cases t.altGrid with
    | none => rfl
    | some g => exact isSome_map
  · unfold altCache
    cases t.altGrid with
    | none => exact .refl _
    | some g =>
      cases t.altImageCache with
      | none => exact .refl _
      | some c => exact hone g c

/-- A resize keeps the widths of both grids; the alternate grid never reflows. -/
def ResizeKeepsWidths (t : Term) (newLines newCols : Nat) (reflow : Bool) : Prop :=
  t.grid.ResizeUniform newLines newCols reflow ∧
    ∀ g ∈ t.altGrid, g.ResizeUniform newLines newCols false

instance (t : Term) (newLines newCols : Nat) (reflow : Bool) :
    Decidable (t.ResizeKeepsWidths newLines newCols reflow) := by
  unfold ResizeKeepsWidths
  infer_instance

/-- Resizing the active grid repaints everything, or does nothing. -/
theorem resize_shown {g : Grid} (hg : g.Wf) (newLines newCols : Nat) (reflow : Bool) :
    (g.resize newLines newCols reflow).1.dirty.allDirty = true ∨ (g.resize newLines newCols reflow).1 = g := by
  rcases Grid.resize_spec hg.toFramed newLines newCols reflow with hsame | hresized
  · exact .inr hsame
  · exact .inl hresized.allDirty

section

variable (ht : t.Wf) (newLines newCols : Nat) (reflow : Bool)
  (hw : G.widths → t.ResizeKeepsWidths newLines newCols reflow)
include ht newLines newCols reflow hw

/-- Both grids resized. -/
theorem keeps_resizeGrids :
    Keeps G t { t with
      deccolmDefaultCols := newCols
      grid := (t.grid.resize newLines newCols reflow).1
      altGrid := t.altGrid.map fun g => (GridOp.resize newLines newCols false).apply g
      selectionDirty := true } := by
  have hkeeps : ∀ (g : Grid) (reflow : Bool), g.Wf → ((GridOp.resize newLines newCols reflow).apply g).Wf :=
    fun g reflow hg => ((GridOp.resize newLines newCols reflow).keeps hg).wf
  have hgrids := wf_grids ht (f := fun g => (g.resize newLines newCols reflow).1) (hkeeps _ reflow ht.grid)
    fun g hg => hkeeps g false hg
  have hwf : Wf { t with
      deccolmDefaultCols := newCols
      grid := (t.grid.resize newLines newCols reflow).1
      altGrid := t.altGrid.map fun g => (GridOp.resize newLines newCols false).apply g
      selectionDirty := true } := ⟨hgrids.grid, hgrids.altGrid, hgrids.paired, hgrids.allocated⟩
  generalize hr : ({ t with
      deccolmDefaultCols := newCols
      grid := (t.grid.resize newLines newCols reflow).1
      altGrid := t.altGrid.map fun g => (GridOp.resize newLines newCols false).apply g
      selectionDirty := true } : Term) = t' at hwf ⊢
  have hscreen : SameScreen t t' := by
    rw [← hr]
    exact ⟨rfl, rfl, .refl _, rfl⟩
  have hcaches : t'.imageCache = t.imageCache ∧ t'.altImageCache = t.altImageCache := by
    rw [← hr]
    exact ⟨rfl, rfl⟩
  have hactive : t'.activeGrid = (t.activeGrid.resize newLines newCols (!t.altActive && reflow)).1 := by
    cases ha : t.altActive with
    | false =>
      rw [Wf.activeGrid_of_primary ha, Wf.activeGrid_of_primary (hscreen.altActive.trans ha), ← hr]
      rfl
    | true =>
      obtain ⟨g, hg⟩ := ht.altGrid_isSome ha
      have hg' : t'.altGrid = some ((GridOp.resize newLines newCols false).apply g) := by
        rw [← hr]
        rw [hg]
        rfl
      rw [Wf.activeGrid_of_alt ha hg, Wf.activeGrid_of_alt (hscreen.altActive.trans ha) hg']
      rfl
  have hcache : t'.activeCache = t.activeCache := by
    unfold Term.activeCache
    rw [hscreen.altActive, hcaches.1, hcaches.2]
  have hshown := resize_shown ht.activeGrid newLines newCols (!t.altActive && reflow)
  rw [← hactive] at hshown
  have hboth : ∀ {V : Grid → Grid → Prop}, (∀ g, V g g) → Shown V t t' := by
    intro V hV
    rcases hshown with hd | hsame
    · left
      unfold damageTotal
      rw [hd]
      rfl
    · refine .inr ⟨hscreen, ?_, ?_⟩ <;> rw [hsame]
      exact hV _
  refine ⟨hwf, fun hG hu => ?_, fun _ h => ?_, fun _ => hboth fun _ => id, fun _ => hboth .refl, ?_, ?_⟩
  · have huni := uniform_grids hu (f := fun g => (g.resize newLines newCols reflow).1)
     
      (((GridOp.resize newLines newCols reflow).keeps ht.grid).uniform (hw hG).1)
      fun g hg => ((GridOp.resize newLines newCols false).keeps (ht.altGrid g hg)).uniform ((hw hG).2 g hg)
    rw [← hr]
    exact huni
  · rcases hshown with hd | hsame
    · unfold damageTotal
      rw [hd]
      rfl
    · unfold damageTotal at h ⊢
      rw [hsame, hcache]
      exact h
  · rw [hcaches.1]
  · unfold altCache
    rw [hcaches.2]

theorem keeps_resize : Keeps G t (t.resize newLines newCols reflow) := by
  unfold Term.resize
  split
  · exact .refl ht
  · split
    · exact .refl ht
    · refine Keeps.trans ?_ keeps_reconcileBoth
      refine Keeps.trans (keeps_resizeGrids ht newLines newCols reflow hw) fun h => keeps_caches h ?_ ?_ ?_
      · cases t.altGrid with
        | none => rfl
        | some g => exact isSome_map
      · exact marks_resizeCache ..
      · cases t.altGrid with
        | none => exact .refl _
        | some g =>
          cases t.altImageCache with
          | none => exact .refl _
          | some c =>
            exact marks_resizeCache g ((GridOp.resize newLines newCols false).apply g) none newLines newCols c

end

end Term

end OriTerm
