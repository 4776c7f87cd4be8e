import OriTerm.Term.Op

/-!
# `Term.Contents` — what the terminal does to its grids and its image caches

Every handler reaches a grid through the operations of `GridOp`, and a reset or a swap through a few of them on both
grids. Only a resize of the window, and a switch of the column mode where it is enabled, change the size of a grid.

Besides the commands of the image protocols, the terminal keeps its two image caches in step with the grids: it prunes
the placements that scroll out or are erased, derives the placeholder anchors again, clears the caches on a reset,
follows a resize, applies the configuration and plays the animations. These operations are `CacheOp.Housekeeping`.

One walk over the operations of the terminal, **`TermOp.each`**, serves both: a property of grids that every grid
operation but a resize keeps (`Grid.KeptUnlessResized`) is kept on both screens by what does not resize
(**`TermOp.eachGrid`**), and a property of caches that housekeeping keeps (`Image.Cache.Housekept`) is kept in both
caches as long as the image commands keep it (**`TermOp.eachCache`**).
-/

namespace OriTerm

open Lib.Bitflags List Option

/-- The operation changes the size of the grid. -/
def GridOp.resizes : GridOp → Bool
  | resize _ _ _ => true
  | _ => false

/-- A property of grids that every operation keeps, a resize aside. -/
structure Grid.KeptUnlessResized (P : Grid → Prop) : Prop where
  apply : ∀ (g : Grid) (op : GridOp), op.resizes = false → P g → P (op.apply g)
  alternate : ∀ g : Grid, P g → P (.withScrollback g.lines g.cols 0)

namespace Image

/-- What the terminal does to a cache without an image command. -/
def CacheOp.Housekeeping : CacheOp → Prop
  | clear | pruneScrollback _ | removePlacementsInRegion _ _ _ _ | onResize _ _ | updateCellCoverage _ _
  | remapPlacements _ | reconcilePlaceholderAnchors _ | setMemoryLimit _ | setMaxSingleImage _
  | setAnimationEnabled _ | advanceAnimations _ _ _ => True
  | _ => False

/-- A property of caches that housekeeping keeps. -/
structure Cache.Housekept (P : Cache → Prop) : Prop where
  new : P .new
  apply : ∀ (c : Cache) (op : CacheOp), op.Housekeeping → P c → P (op.apply c)

end Image

namespace Term

/-! ## The grids -/

section Grids

variable {P : Grid → Prop} {t : Term}

/-- The grids of both screens have the property. -/
structure EachGrid (P : Grid → Prop) (t : Term) : Prop where
  primary : P t.grid
  alternate : ∀ g, t.altGrid = some g → P g

theorem EachGrid.onGrid (h : t.EachGrid P) {f : Grid → Grid} (hf : ∀ g, P g → P (f g)) : (t.onGrid f).EachGrid P := by
  unfold Term.onGrid
  split
  · next g _ hg =>
    refine ⟨h.primary, fun g' hg' => ?_⟩
    cases hg'
    exact hf g (h.alternate g hg)
  · exact ⟨hf _ h.primary, h.alternate⟩

/-- Both grids are changed alike. -/
theorem EachGrid.map {Q : Grid → Prop} (h : t.EachGrid P) {f k : Grid → Grid} (hf : ∀ g, P g → Q (f g))
    (hk : ∀ g, P g → Q (k g)) {t' : Term} (hprimary : t'.grid = f t.grid) (halternate : t'.altGrid = t.altGrid.map k) :
    t'.EachGrid Q := by
  refine ⟨?_, fun g hg => ?_⟩
  · rw [hprimary]
    exact hf _ h.primary
  · rw [halternate] at hg
    obtain ⟨g', hg', rfl⟩ := map_eq_some_iff.mp hg
    exact hk g' (h.alternate g' hg')

theorem EachGrid.onCache (h : t.EachGrid P) (f : Image.Cache → Image.Cache) : (t.onCache f).EachGrid P := by
  unfold Term.onCache
  split <;> exact ⟨h.primary, h.alternate⟩

variable (hP : Grid.KeptUnlessResized P) (h : t.EachGrid P)
include hP h

theorem EachGrid.gridOp (op : GridOp) (hop : op.resizes = false) :
    (t.gridOp op).EachGrid P := h.onGrid fun g hg => hP.apply g op hop hg

theorem EachGrid.gridEdit (e : GridEdit) : (t.gridEdit e).EachGrid P := h.gridOp hP (.edit e) rfl

end Grids

/-! ## The caches -/

section Caches

variable {P : Image.Cache → Prop} {t : Term}

/-- The caches of both screens have the property. -/
structure EachCache (P : Image.Cache → Prop) (t : Term) : Prop where
  primary : P t.imageCache
  alternate : ∀ c, t.altImageCache = some c → P c

variable (h : t.EachCache P)
include h

/-- The cache in use has it too. -/
theorem EachCache.active : P t.activeCache := by
  unfold activeCache
  split
  · cases hc : t.altImageCache with
    | none => exact h.primary
    | some c => exact h.alternate c hc
  · exact h.primary

theorem EachCache.onGrid (f : Grid → Grid) : (t.onGrid f).EachCache P := by
  unfold Term.onGrid
  split <;> exact ⟨h.primary, h.alternate⟩

/-- A mutation of the cache in use, whose outcome has the property. -/
theorem EachCache.onActive {f : Image.Cache → Image.Cache} (hf : P (f t.activeCache)) :
    (t.onCache f).EachCache P := by
  unfold activeCache at hf
  unfold Term.onCache
  split
  · next c ha hc =>
    rw [if_pos ha, hc] at hf
    refine ⟨h.primary, fun c' hc' => ?_⟩
    cases hc'
    exact hf
  · next hne =>
    refine ⟨?_, h.alternate⟩
    split at hf
    · next ha =>
      cases hc : t.altImageCache with
      | none =>
        rw [hc] at hf
        exact hf
      | some c => exact absurd hc (hne c ha)
    · exact hf

theorem EachCache.onCache {f : Image.Cache → Image.Cache} (hf : ∀ c, P c → P (f c)) :
    (t.onCache f).EachCache P := h.onActive (hf _ h.active)

/-- The alternate cache is absent or changed alike. -/
theorem EachCache.map {f k : Image.Cache → Image.Cache} (hf : ∀ c, P c → P (f c))
    (hk : ∀ c, P c → P (k c)) {t' : Term} (hprimary : t'.imageCache = f t.imageCache)
    (halternate : t'.altImageCache = t.altImageCache.map k) : t'.EachCache P := by
  refine ⟨?_, fun c hc => ?_⟩
  · rw [hprimary]
    exact hf _ h.primary
  · rw [halternate] at hc
    obtain ⟨c', hc', rfl⟩ := map_eq_some_iff.mp hc
    exact hk c' (h.alternate c' hc')

end Caches

/-! ## Both -/

/-- What the operations of the terminal keep; a resize of a grid only where `R`. -/
structure Upkeep (R : Prop) (P : Grid → Prop) (Q : Image.Cache → Prop) : Prop where
  grid : Grid.KeptUnlessResized P
  resize : R → ∀ g newLines newCols reflow, P g → P (Grid.resize g newLines newCols reflow).1
  cache : Image.Cache.Housekept Q

/-- The grids of both screens have one property, their caches another. -/
structure Each (P : Grid → Prop) (Q : Image.Cache → Prop) (t : Term) : Prop where
  grids : t.EachGrid P
  caches : t.EachCache Q

variable {R : Prop} {P : Grid → Prop} {Q : Image.Cache → Prop} {t : Term}

section

variable (h : t.Each P Q)
include h

/-- A change of anything else. -/
theorem Each.frame {t' : Term} (hgrid : t'.grid = t.grid) (haltGrid : t'.altGrid = t.altGrid)
    (hcache : t'.imageCache = t.imageCache) (haltCache : t'.altImageCache = t.altImageCache) : t'.Each P Q := by
  refine ⟨⟨?_, ?_⟩, ⟨?_, ?_⟩⟩
  · rw [hgrid]
    exact h.grids.primary
  · rw [haltGrid]
    exact h.grids.alternate
  · rw [hcache]
    exact h.caches.primary
  · rw [haltCache]
    exact h.caches.alternate

section

variable {f : Image.Cache → Image.Cache} (hf : ∀ c, Q c → Q (f c))
include hf

theorem Each.onCache : (t.onCache f).Each P Q := ⟨h.grids.onCache f, h.caches.onCache hf⟩

theorem Each.onCaches : (t.onCaches f).Each P Q := ⟨⟨h.grids.primary, h.grids.alternate⟩, h.caches.map hf hf rfl rfl⟩

end

theorem Each.insertMode (flag : TermMode) : (t.insertMode flag).Each P Q := h.frame rfl rfl rfl rfl

theorem Each.removeMode (flag : TermMode) : (t.removeMode flag).Each P Q := h.frame rfl rfl rfl rfl

theorem Each.setMode (flag : TermMode) (value : Bool) : (t.setMode flag value).Each P Q :=
  h.frame rfl rfl rfl rfl

theorem Each.dirtySelection : t.dirtySelection.Each P Q := h.frame rfl rfl rfl rfl

/-! ### Handlers that touch neither -/

theorem Each.setCursorStyle (style : Option (CursorShape × Bool)) : (t.setCursorStyle style).Each P Q := by
  cases style <;> exact h.frame rfl rfl rfl rfl

theorem Each.bell : t.bell.Each P Q := by
  unfold Term.bell
  dsimp only
  split <;> exact h.frame rfl rfl rfl rfl

theorem Each.popTitle : t.popTitle.Each P Q := by
  unfold Term.popTitle
  split <;> exact h.frame rfl rfl rfl rfl

theorem Each.setGraphicsAttribute (pi pa pv : Nat) : (t.setGraphicsAttribute pi pa pv).Each P Q := by
  unfold Term.setGraphicsAttribute
  repeat' split
  all_goals exact h.frame rfl rfl rfl rfl

theorem Each.setMark : t.oscIterm2SetMark.Each P Q := by
  unfold Term.oscIterm2SetMark
  split <;> exact h.frame rfl rfl rfl rfl

theorem Each.xtsave (modes : List Nat) : (t.applyXtsave modes).Each P Q := by
  induction modes generalizing t with
  | nil => exact h
  | cons num modes ih => exact @ih (t.xtsaveOne num) (h.frame rfl rfl rfl rfl)

/-- A rectangle of the screen, if it is not empty. -/
theorem Each.onRect (rect : DecRect) {f : Term → RectArea → Term}
    (hf : ∀ (t : Term) (area : RectArea), t.Each P Q → (f t area).Each P Q) : (t.onRect rect f).Each P Q := by
  unfold Term.onRect
  split
  · exact h
  · exact hf _ _ (h.frame rfl rfl rfl rfl)

end

section Upkeep

variable (hU : Upkeep R P Q)

include hU

/-! ### Operations of the grid in use -/

section

variable (h : t.Each P Q)
include h

theorem Each.gridOp (op : GridOp) (hop : op.resizes = false) : (t.gridOp op).Each P Q :=
  ⟨h.grids.gridOp hU.grid op hop, h.caches.onGrid _⟩

theorem Each.gridEdit (e : GridEdit) : (t.gridEdit e).Each P Q := h.gridOp hU (.edit e) rfl

/-- An operation that resizes, where that is kept too. -/
theorem Each.sizedOp (op : GridOp) (hop : op.resizes = true → R) : (t.gridOp op).Each P Q := by
  cases op with
  | resize newLines newCols reflow =>
    exact ⟨h.grids.onGrid fun g hg => hU.resize (hop rfl) g newLines newCols reflow hg, h.caches.onGrid _⟩
  | _ => exact h.gridOp hU _ rfl

theorem Each.gridOps (ops : List GridOp) (hops : ∀ op ∈ ops, op.resizes = false) : (t.gridOps ops).Each P Q := by
  induction ops generalizing t with
  | nil => exact h
  | cons op ops ih =>
    exact ih (h.gridOp hU op (hops op (mem_cons_self ..))) fun op' hop' => hops op' (mem_cons_of_mem _ hop')

theorem Each.replicate (count : Nat) {op : GridOp} (hop : op.resizes = false) :
    (t.gridOps (List.replicate count op)).Each P Q := by
  refine h.gridOps hU _ fun op' hop' => ?_
  rw [eq_of_mem_replicate hop']
  exact hop

theorem Each.backspace : t.backspace.Each P Q := by
  unfold Term.backspace
  split
  · cases hwrap : t.tryReverseWrap with
    | none => exact h.gridEdit hU _
    | some t' =>
      obtain ⟨line, col, rfl⟩ := tryReverseWrap_eq hwrap
      exact h.gridEdit hU _
  · exact h.gridEdit hU _

theorem Each.restoreCursor : t.restoreCursor.Each P Q := by
  have hrestored := h.gridEdit hU .restoreCursor
  unfold Term.restoreCursor
  generalize t.gridEdit .restoreCursor = t at hrestored ⊢
  have hcharset : Each P Q { t with charset := t.savedCharset.getD t.charset } := hrestored.frame rfl rfl rfl rfl
  dsimp only
  split
  · exact hcharset.setMode _ _
  · exact hcharset

theorem Each.saveCursor : t.saveCursor.Each P Q :=
  (h.gridEdit hU .saveCursor).frame rfl rfl rfl rfl

theorem Each.decslrmOrSaveCursor (hasParams : Bool) (left right : Nat) :
    (t.decslrmOrSaveCursor hasParams left right).Each P Q := by
  unfold Term.decslrmOrSaveCursor
  split
  · split
    · exact h.gridOp hU _ rfl
    · exact h
  · split
    · exact h.gridOp hU _ rfl
    · exact h.saveCursor hU

theorem Each.onPalette (index : Nat) (f : Palette → Palette) : (t.onPalette index f).Each P Q := by
  have hpalette : Each P Q { t with palette := f t.palette } := h.frame rfl rfl rfl rfl
  unfold Term.onPalette
  split
  · exact hpalette.gridEdit hU _
  · exact hpalette

theorem Each.setTheme (theme : Theme) : (t.setTheme theme).Each P Q := by
  have htheme : Each P Q { t with theme := theme, palette := .forTheme theme } := h.frame rfl rfl rfl rfl
  have hmarked := htheme.gridEdit hU .markAll
  unfold Term.setTheme
  split
  · exact h
  · dsimp only
    split
    · cases theme <;> exact hmarked.frame rfl rfl rfl rfl
    · exact hmarked

/-! ### Images follow the grid -/

theorem Each.housekeep (op : Image.CacheOp) (hop : op.Housekeeping) :
    (t.onCache (op.apply ·)).Each P Q := h.onCache fun c hc => hU.cache.apply c op hop hc

theorem Each.reconcile : t.reconcilePlaceholderAnchorsFromGrid.Each P Q := by
  unfold reconcilePlaceholderAnchorsFromGrid
  split
  · exact h
  · exact h.housekeep hU (.reconcilePlaceholderAnchors _) trivial

theorem Each.reconcileIf (b : Bool) : (t.reconcileIf b).Each P Q := by
  unfold Term.reconcileIf
  split
  · exact h.reconcile hU
  · exact h

theorem Each.pruneScrollback (evicted : StableRowIndex) :
    (t.onCache (·.pruneScrollback evicted)).Each P Q := h.housekeep hU (.pruneScrollback evicted) trivial

theorem Each.removeRegion (top bottom : StableRowIndex) (left right : Option Nat) :
    (t.onCache (·.removePlacementsInRegion top bottom left right)).Each P Q :=
  h.housekeep hU (.removePlacementsInRegion top bottom left right) trivial

theorem Each.pruneImagesIfEvicted (prevEvicted : Nat) : (t.pruneImagesIfEvicted prevEvicted).Each P Q := by
  unfold Term.pruneImagesIfEvicted
  dsimp only
  split
  · exact (h.pruneScrollback hU _).reconcile hU
  · exact h

theorem Each.clearImagesAfterEd (mode : ClearMode) : (t.clearImagesAfterEd mode).Each P Q := by
  refine Each.reconcile hU ?_
  cases mode with
  | below | above =>
    dsimp only
    split
    · exact (h.removeRegion hU ..).removeRegion hU ..
    · exact h.removeRegion hU ..
  | all => exact h.removeRegion hU ..
  | saved => exact h.pruneScrollback hU _

theorem Each.clearImagesAfterEl (mode : LineEraseMode) : (t.clearImagesAfterEl mode).Each P Q := by
  exact (h.removeRegion hU ..).reconcile hU

theorem Each.clearImagesAfterEch (count : Nat) : (t.clearImagesAfterEch count).Each P Q := by
  unfold Term.clearImagesAfterEch
  dsimp only
  split
  · exact (h.removeRegion hU ..).reconcile hU
  · exact h

/-! ### Printing, rectangles and columns -/

theorem Each.inputWide (width : Nat) (c : Char) (reconcile : Bool) : (t.inputWide width c reconcile).Each P Q := by
  have hroom : (t.makeRoom width).Each P Q := by
    unfold makeRoom
    split
    · exact h.gridEdit hU _
    · exact h
  unfold Term.inputWide
  split
  · exact h.gridEdit hU _
  · exact ((hroom.gridOp hU (.putChar width c) rfl).pruneImagesIfEvicted hU _).reconcileIf hU _

theorem Each.inputChar (width : Char → Option Nat) (c : Char) : (t.inputChar width c).Each P Q := by
  have hselection := h.dirtySelection
  have hdropped : t.dirtySelection.dropPendingWrap.Each P Q := by
    unfold dropPendingWrap
    split
    · exact hselection.gridEdit hU _
    · exact hselection
  unfold Term.inputChar
  dsimp only
  generalize t.dirtySelection.dropPendingWrap = t at hdropped ⊢
  split
  · exact (hdropped.gridEdit hU _).reconcileIf hU _
  · have hcharset : Each P Q { t with charset := (t.charset.translate c).1 } := hdropped.frame rfl rfl rfl rfl
    split
    · exact hcharset
    · exact hcharset.gridEdit hU _
    · exact hcharset.inputWide hU _ _ _

theorem Each.feed (op : GridOp) (hop : op.resizes = false) (prevEvicted : Nat) :
    ((t.dirtySelection.gridOp op).pruneImagesIfEvicted prevEvicted).Each P Q :=
  (h.dirtySelection.gridOp hU op hop).pruneImagesIfEvicted hU prevEvicted

theorem Each.editReconcile (e : GridEdit) :
    (t.gridEdit e).reconcilePlaceholderAnchorsFromGrid.Each P Q := (h.gridEdit hU e).reconcile hU

section

variable (rect : DecRect)

theorem Each.deccara (attrs : List Nat) : (t.deccara rect attrs).Each P Q := by
  exact h.onRect rect fun _ _ h' => h'.gridEdit hU _

theorem Each.decrara (attrs : List Nat) : (t.decrara rect attrs).Each P Q := by
  exact h.onRect rect fun _ _ h' => h'.gridEdit hU _

theorem Each.decera : (t.decera rect).Each P Q := by
  exact h.onRect rect fun _ _ h' => h'.editReconcile hU _

theorem Each.decsera : (t.decsera rect).Each P Q := by
  exact h.onRect rect fun _ _ h' => h'.editReconcile hU _

end

theorem Each.deccra (src : DecRect) (dstTop dstLeft : Nat) : (t.deccra src dstTop dstLeft).Each P Q := by
  unfold Term.deccra
  dsimp only
  split
  · exact h
  · exact h.onRect src fun _ _ h' => h'.editReconcile hU _

theorem Each.decfra (ch : Nat) (rect : DecRect) : (t.decfra ch rect).Each P Q := by
  unfold Term.decfra
  generalize (if ch = 0 then 0x20 else ch) = fillCode
  dsimp only
  split
  · exact h.onRect rect fun _ _ h' => h'.editReconcile hU _
  · exact h

theorem Each.columnEdit (e : GridEdit) :
    (t.dirtySelection.gridEdit e).reconcilePlaceholderAnchorsFromGrid.Each P Q := h.dirtySelection.editReconcile hU e

theorem Each.decic (count : Nat) : (t.decic count).Each P Q := by
  unfold Term.decic
  split
  · exact h.columnEdit hU _
  · exact h

theorem Each.decdc (count : Nat) : (t.decdc count).Each P Q := by
  unfold Term.decdc
  split
  · exact h.columnEdit hU _
  · exact h

theorem Each.decbi : t.decbi.Each P Q := by
  unfold Term.decbi
  split
  · exact h.columnEdit hU _
  · exact h.gridEdit hU _

theorem Each.decfi : t.decfi.Each P Q := by
  unfold Term.decfi
  split
  · exact h.columnEdit hU _
  · exact h.gridEdit hU _

/-! ### Screens, modes and resets -/

theorem Each.toggleAltCommon : t.toggleAltCommon.Each P Q := by
  refine Each.gridEdit hU ?_ .markAll
  exact h.frame rfl rfl rfl rfl

theorem Each.prepareSwap : t.dirtySelection.ensureAltGrid.Each P Q := by
  unfold ensureAltGrid
  split
  · exact h.frame rfl rfl rfl rfl
  · refine ⟨⟨h.grids.primary, fun g hg => ?_⟩, ⟨h.caches.primary, fun c hc => ?_⟩⟩
    · cases hg
      exact hU.grid.alternate _ h.grids.primary
    · cases hc
      exact hU.cache.new

theorem Each.swapAlt : t.swapAlt.Each P Q := by
  have hprepared := h.prepareSwap hU
  have hedit : ∀ e : GridEdit, ∀ g, P g → P (e.apply g) := fun e g hg => hU.grid.apply g (.edit e) rfl hg
  unfold Term.swapAlt
  generalize t.dirtySelection.ensureAltGrid = t at hprepared ⊢
  have hcaches := hprepared.caches
  refine Each.toggleAltCommon hU ⟨?_, ?_⟩
  · split
    · exact hprepared.grids.map (hedit .restoreCursor) (hedit .saveCursor) rfl rfl
    · exact hprepared.grids.map (hedit .saveCursor) (hedit .restoreCursor) rfl rfl
  · split <;> exact ⟨hcaches.primary, hcaches.alternate⟩

theorem Each.swapAltClear : t.swapAltClear.Each P Q := by
  have hprepared := h.prepareSwap hU
  unfold Term.swapAltClear
  generalize t.dirtySelection.ensureAltGrid = t at hprepared ⊢
  refine Each.toggleAltCommon hU ⟨hprepared.grids.map (fun _ hg => hg) (fun g hg => ?_) rfl rfl,
    hprepared.caches.map (fun _ hc => hc) (fun c hc => ?_) rfl rfl⟩
  · exact hU.grid.apply g .reset rfl hg
  · exact hU.cache.apply c .clear trivial hc

end

/-- The mode switches the columns. -/
def SwitchesColumns (t : Term) (mode : NamedPrivateMode) : Prop := mode = .columnMode ∧ t.has .enableMode3 = true

instance (t : Term) (mode : NamedPrivateMode) : Decidable (t.SwitchesColumns mode) :=
  inferInstanceAs (Decidable (_ ∧ _))

/-- The column mode, which resizes where that is enabled. -/
theorem Each.applyDeccolm (h : t.Each P Q) (isSet : Bool) (hmode : t.has .enableMode3 = true → R) :
    (t.applyDeccolm isSet).Each P Q := by
  have hresized : Each P Q (if t.has .enableMode3 then
      t.gridOp (.resize t.activeGrid.lines (if isSet then 132 else t.deccolmDefaultCols) false) else t) := by
    split
    · next hon => exact h.sizedOp hU _ fun _ => hmode hon
    · exact h
  have hmargins := (hresized.gridOp hU (.setScrollRegion 1 none) rfl).gridOp hU .resetLeftRightMargins rfl
  exact ((hmargins.dirtySelection.gridOp hU (.eraseDisplay .all) rfl).clearImagesAfterEd hU .all).gridEdit hU _

section

variable (h : t.Each P Q) {mode : NamedPrivateMode}
include h

theorem Each.applyDecset (hmode : t.SwitchesColumns mode → R) : (t.applyDecset mode).Each P Q := by
  have hunless : ∀ {t' : Term}, t'.Each P Q → (if t.altActive = true then t else t').Each P Q := by
    intro t' h'
    split
    · exact h
    · exact h'
  cases mode with
  | altScreen => exact hunless ((h.prepareSwap hU).toggleAltCommon hU)
  | altScreenOpt => exact hunless (h.swapAltClear hU)
  | swapScreenAndSetRestoreCursor => exact hunless (h.swapAlt hU)
  | columnMode => exact h.applyDeccolm hU true fun hon => hmode ⟨rfl, hon⟩
  | origin => exact (h.insertMode .origin).gridEdit hU _
  | saveCursor => exact h.gridEdit hU _
  | reverseVideo => exact (h.setMode _ _).gridEdit hU _
  | _ => exact h.frame rfl rfl rfl rfl

theorem Each.applyDecrst (hmode : t.SwitchesColumns mode → R) : (t.applyDecrst mode).Each P Q := by
  have hwhen : ∀ {t' : Term}, t'.Each P Q → (if t.altActive = true then t' else t).Each P Q := by
    intro t' h'
    split
    · exact h'
    · exact h
  cases mode with
  | altScreen | altScreenOpt => exact hwhen ((h.prepareSwap hU).toggleAltCommon hU)
  | swapScreenAndSetRestoreCursor => exact hwhen (h.swapAlt hU)
  | columnMode => exact h.applyDeccolm hU false fun hon => hmode ⟨rfl, hon⟩
  | origin => exact (h.removeMode .origin).gridEdit hU _
  | saveCursor => exact h.gridEdit hU _
  | reverseVideo => exact (h.setMode _ _).gridEdit hU _
  | leftRightMargin => exact (h.removeMode .leftRightMargin).gridOp hU _ rfl
  | _ => exact h.frame rfl rfl rfl rfl

theorem Each.applyPrivateMode (value : Bool) (hmode : t.SwitchesColumns mode → R) :
    (t.applyPrivateMode mode value).Each P Q := by
  unfold Term.applyPrivateMode
  split
  · exact h.applyDecset hU hmode
  · exact h.applyDecrst hU hmode

end

theorem Each.xtrestoreOne (h : t.Each P Q) (num : Nat)
    (hmode : ∀ mode, NamedPrivateMode.ofNumber num = some mode → t.SwitchesColumns mode → R) :
    (t.xtrestoreOne num).Each P Q := by
  unfold Term.xtrestoreOne
  split
  · next hnamed => exact h.applyPrivateMode hU _ (hmode _ hnamed)
  · exact h

theorem kept_softResetGrid {g : Grid} (hg : P g) : P (softResetGrid g) := by
  have hrun : ∀ (ops : List GridOp), (∀ op ∈ ops, op.resizes = false) → ∀ g, P g → P (ops.foldl GridOp.apply g) := by
    intro ops hops
    induction ops with
    | nil => exact fun _ hg => hg
    | cons op ops ih =>
      intro g hg
      refine ih (fun op' hop' => hops op' (mem_cons_of_mem _ hop')) _ ?_
      exact hU.grid.apply g op (hops op (mem_cons_self ..)) hg
  refine hrun _ (fun op hop => ?_) g hg
  simp only [mem_cons, not_mem_nil, or_false] at hop
  rcases hop with rfl | rfl | rfl | rfl | rfl | rfl | rfl <;> rfl

theorem Each.clearCaches (h : t.EachCache Q) : (t.onCaches (·.clear)).EachCache Q :=
  have hclear : ∀ c, Q c → Q (Image.Cache.clear c) := fun c hc => hU.cache.apply c .clear trivial hc
  h.map hclear hclear rfl rfl

theorem Each.softReset (h : t.Each P Q) : t.softReset.Each P Q := by
  have hgrid : ∀ g, P g → P (softResetGrid g) := fun g hg => kept_softResetGrid hU hg
  exact ⟨h.grids.map hgrid hgrid rfl rfl, Each.clearCaches hU ⟨h.caches.primary, h.caches.alternate⟩⟩

theorem Each.resetState (h : t.Each P Q) : t.resetState.Each P Q := by
  have hreset : ∀ g, P g → P (Grid.reset g) := fun g hg => hU.grid.apply g .reset rfl hg
  have hcleared := Each.clearCaches hU h.caches
  exact ⟨h.grids.map hreset hreset rfl rfl, ⟨hcleared.primary, hcleared.alternate⟩⟩

/-! ### The host -/

theorem Each.imageAdvance (h : t.Each P Q) (rows : Nat) : (t.imageAdvance rows).Each P Q :=
  (h.replicate hU _ rfl).pruneImagesIfEvicted hU _

theorem Each.sixelAdvance (h : t.Each P Q) (col cols rows : Nat) : (t.sixelAdvance col cols rows).Each P Q := by
  unfold Term.sixelAdvance
  split
  · exact h.gridEdit hU _
  · split
    · exact h.imageAdvance hU rows
    · exact h

theorem Each.setImageLimits (h : t.Each P Q) (memoryLimit maxSingle : Nat) :
    (t.setImageLimits memoryLimit maxSingle).Each P Q := by
  refine h.onCaches fun c hc => ?_
  have hlimited := hU.cache.apply c (.setMemoryLimit memoryLimit) trivial hc
  exact hU.cache.apply _ (.setMaxSingleImage maxSingle) trivial hlimited

theorem resizeCache_housekept (before after : Grid) (mapping : Option ReflowMapping) (newLines newCols : Nat)
    {c : Image.Cache} (hc : Q c) : Q (Term.resizeCache before after mapping newLines newCols c) := by
  refine hU.cache.apply _ (.onResize newCols newLines) trivial ?_
  have hpruned : ∀ c, Q c → Q (if after.totalEvicted > before.totalEvicted then
      c.pruneScrollback ⟨after.totalEvicted⟩ else c) := by
    intro c hc
    split
    · exact hU.cache.apply _ (.pruneScrollback _) trivial hc
    · exact hc
  cases mapping with
  | none => exact hpruned c hc
  | some m => exact hpruned _ (hU.cache.apply c (.remapPlacements m) trivial hc)

theorem Each.reconcileBoth (h : t.Each P Q) : t.reconcileBothPlaceholderAnchors.Each P Q := by
  have hstep : ∀ (g : Grid) (c : Image.Cache), Q c → Q (if c.placeholderAnchors = ∅ then c
      else c.reconcilePlaceholderAnchors (collectPlaceholderImageIdsInGrid g)) := by
    intro g c hc
    split
    · exact hc
    · exact hU.cache.apply c (.reconcilePlaceholderAnchors _) trivial hc
  unfold reconcileBothPlaceholderAnchors
  refine ⟨⟨h.grids.primary, h.grids.alternate⟩, ?_⟩
  cases t.altGrid with
  | none => exact ⟨hstep _ _ h.caches.primary, h.caches.alternate⟩
  | some g => exact h.caches.map (hstep t.grid) (hstep g) rfl rfl

theorem Each.resize (h : t.Each P Q) (newLines newCols : Nat) (reflow : Bool) (hsize : R) :
    (t.resize newLines newCols reflow).Each P Q := by
  have hgrid : ∀ reflow g, P g → P (Grid.resize g newLines newCols reflow).1 := fun reflow g hg =>
    hU.resize hsize g newLines newCols reflow hg
  unfold Term.resize
  split
  · exact h
  · split
    · exact h
    · refine Each.reconcileBoth hU ⟨h.grids.map (hgrid reflow) (hgrid false) rfl rfl, ?_, fun c hc => ?_⟩
      · exact resizeCache_housekept hU _ _ _ newLines newCols h.caches.primary
      · split at hc
        · obtain ⟨c', hc', rfl⟩ := map_eq_some_iff.mp hc
          exact resizeCache_housekept hU _ _ _ _ _ (h.caches.alternate c' hc')
        · exact h.caches.alternate c hc

end Upkeep

end Term

namespace TermOp

variable {R : Prop} {P : Grid → Prop} {Q : Image.Cache → Prop} {t : Term}

/-- The operation changes the size of a grid: the host resizes it, or a column mode is switched where that is
    enabled. -/
def resizes (t : Term) : TermOp → Bool
  | gridOp op | dirtyGridOp op => op.resizes
  | setPrivateMode mode _ => t.SwitchesColumns mode
  | xtrestore num => (NamedPrivateMode.ofNumber num).any fun mode => t.SwitchesColumns mode
  | resize _ _ _ => true
  | _ => false

/-- The image commands among the operations. -/
def imageCommands : TermOp → List Image.CacheOp
  | imageOps ops => ops
  | _ => []

theorem imageCommands_eq_nil {op : TermOp} (h : ∀ ops, op ≠ imageOps ops) : op.imageCommands = [] := by
  cases op with
  | imageOps ops => exact absurd rfl (h ops)
  | _ => rfl

/-- **Every operation of the terminal** keeps what its grids and caches are kept to, as long as a resize keeps it where
    the operation resizes and its image commands do. -/
theorem each (hU : Term.Upkeep R P Q) (width : Char → Option Nat) (h : t.Each P Q) (op : TermOp)
    (hsize : op.resizes t = true → R) (himages : ∀ o ∈ op.imageCommands, ∀ c, Q c → Q (o.apply c)) :
    (op.apply width t).Each P Q := by
  cases op with
  | input c => exact h.inputChar hU width c
  | backspace => exact h.backspace hU
  | putTab | moveBackwardTabs => exact h.replicate hU _ rfl
  | linefeed =>
    refine h.feed hU (if t.has .lineFeedNewLine then .nextLine else .linefeed) ?_ _
    split <;> rfl
  | newline => exact h.feed hU .nextLine rfl _
  | bell => exact h.bell
  | goto | gotoLine | gotoCol | terminalAttribute | setHyperlink => exact h.gridEdit hU _
  | moveDownAndCr | moveUpAndCr => exact (h.gridEdit hU _).gridEdit hU _
  | gridOp op => exact h.sizedOp hU op hsize
  | dirtyGridOp op => exact h.dirtySelection.sizedOp hU op hsize
  | setScrollingRegion top bottom => exact (h.gridOp hU (.setScrollRegion top bottom) rfl).gridEdit hU _
  | scrollUp count => exact h.feed hU (.scrollUp count) rfl _
  | clearScreen mode => exact (h.dirtySelection.gridOp hU (.eraseDisplay _) rfl).clearImagesAfterEd hU mode
  | clearLine mode => exact (h.dirtySelection.gridEdit hU _).clearImagesAfterEl hU mode
  | eraseChars count => exact (h.dirtySelection.clearImagesAfterEch hU count).gridEdit hU _
  | saveCursor => exact h.saveCursor hU
  | restoreCursor => exact h.restoreCursor hU
  | decslrmOrSaveCursor hasParams left right => exact h.decslrmOrSaveCursor hU hasParams left right
  | setMode mode value =>
    cases mode <;> exact h.setMode _ value
  | setPrivateMode mode value => exact h.applyPrivateMode hU value fun hswitches => hsize (decide_eq_true hswitches)
  | xtsave modes => exact h.xtsave modes
  | xtrestore num =>
    refine h.xtrestoreOne hU num fun mode hmode hswitches => hsize ?_
    show (NamedPrivateMode.ofNumber num).any (fun mode => t.SwitchesColumns mode) = true
    rw [hmode, any_some, decide_eq_true hswitches]
  | setCursorStyle style => exact h.setCursorStyle style
  | resetState => exact h.resetState hU
  | softReset => exact h.softReset hU
  | decscl level c1Mode => exact Term.Each.softReset hU (h.frame rfl rfl rfl rfl)
  | decaln =>
    have hmargins := h.dirtySelection.gridOp hU (.setScrollRegion 1 none) rfl
    exact ((hmargins.gridOp hU .resetLeftRightMargins rfl).gridEdit hU _).gridEdit hU _
  | decsca isProtected =>
    refine Term.Each.gridEdit hU ?_ _
    exact h.frame rfl rfl rfl rfl
  | deccara rect attrs => exact h.deccara hU rect attrs
  | decrara rect attrs => exact h.decrara hU rect attrs
  | deccra src dstTop dstLeft => exact h.deccra hU src dstTop dstLeft
  | decfra ch rect => exact h.decfra hU ch rect
  | decera rect => exact h.decera hU rect
  | decsera rect => exact h.decsera hU rect
  | decic count => exact h.decic hU count
  | decdc count => exact h.decdc hU count
  | decbi => exact h.decbi hU
  | decfi => exact h.decfi hU
  | popTitle => exact h.popTitle
  | setColor index | resetColor index => exact h.onPalette hU index _
  | setGraphicsAttribute pi pa pv => exact h.setGraphicsAttribute pi pa pv
  | setMark => exact h.setMark
  | imageOps ops =>
    refine h.onCache fun c hc => ?_
    have hrun : ∀ (ops' : List Image.CacheOp), (∀ o ∈ ops', o ∈ ops) → ∀ c, Q c →
        Q (ops'.foldl Image.CacheOp.apply c) := by
      intro ops' hsub
      induction ops' with
      | nil => exact fun _ hc => hc
      | cons o rest ih =>
        intro c hc
        refine ih (fun o' ho' => hsub o' (mem_cons_of_mem _ ho')) _ ?_
        exact himages o (hsub o (mem_cons_self ..)) c hc
    exact hrun ops (fun _ ho => ho) c hc
  | kittyAdvance cols rows => exact (h.replicate hU _ rfl).gridEdit hU _
  | imageAdvance rows => exact h.imageAdvance hU rows
  | sixelAdvance col cols rows => exact h.sixelAdvance hU col cols rows
  | setTheme theme => exact h.setTheme hU theme
  | setCellDimensions width height =>
    refine Term.Each.onCaches ?_ fun c hc => hU.cache.apply c (.updateCellCoverage width height) trivial hc
    exact h.frame rfl rfl rfl rfl
  | setImageLimits memoryLimit maxSingle => exact h.setImageLimits hU memoryLimit maxSingle
  | setImageAnimationEnabled enabled =>
    exact h.onCaches fun c hc => hU.cache.apply c (.setAnimationEnabled enabled) trivial hc
  | advanceAnimations now => exact h.housekeep hU (.advanceAnimations now _ _) trivial
  | resize newLines newCols reflow => exact h.resize hU newLines newCols reflow (hsize rfl)
  | _ => exact h.frame rfl rfl rfl rfl

/-- **Every operation of the terminal that resizes no grid** keeps a property of its grids that every grid operation but
    a resize keeps. -/
theorem eachGrid (hP : Grid.KeptUnlessResized P) (width : Char → Option Nat) (h : t.EachGrid P) (op : TermOp)
    (hop : op.resizes t = false) : (op.apply width t).EachGrid P := by
  have hU : Term.Upkeep False P fun _ => True := ⟨hP, False.elim, trivial, fun _ _ _ _ => trivial⟩
  have hcaches : t.EachCache fun _ => True := ⟨trivial, fun _ _ => trivial⟩
  have hsize : op.resizes t = true → False := fun hresizes => by
    rw [hop] at hresizes
    cases hresizes
  exact (each hU width ⟨h, hcaches⟩ op hsize fun _ _ _ _ => trivial).grids

/-- **Every operation of the terminal** keeps a property of its caches that housekeeping keeps, as long as its image
    commands do. -/
theorem eachCache (hQ : Image.Cache.Housekept Q) (width : Char → Option Nat) (h : t.EachCache Q) (op : TermOp)
    (hop : ∀ o ∈ op.imageCommands, ∀ c, Q c → Q (o.apply c)) : (op.apply width t).EachCache Q := by
  have hU : Term.Upkeep True (fun _ => True) Q :=
    ⟨⟨fun _ _ _ _ => trivial, fun _ _ => trivial⟩, fun _ _ _ _ _ _ => trivial, hQ⟩
  have hgrids : t.EachGrid fun _ => True := ⟨trivial, fun _ _ => trivial⟩
  exact (each hU width ⟨hgrids, h⟩ op (fun _ => trivial) hop).caches

end TermOp

end OriTerm
