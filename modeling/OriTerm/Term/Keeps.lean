import OriTerm.Image.CacheOp
import OriTerm.Term.Handler

/-!
# `Term.Keeps` — what an operation of the terminal keeps

`Wf` is the invariant of every reachable terminal. `Keeps G t t'` says what `t'` owes to `t`: it is well formed,
its widths are uniform, its caches report their changes, and the active screen shows the same or the damage
covers the difference. The four promises that hold only under a condition on the operation are guarded by `G`.

`Keeps` composes (`Keeps.trans`), so a handler is done by naming the primitives it is made of: `keeps_gridOp`,
`keeps_onCache`, and `SameShown.keeps` for whatever is not shown.
-/

namespace OriTerm

open Lib Lib.Bitflags List Option

/-- The colours agree, but for the cursor's, which no operation reports. -/
structure Palette.Agrees (p p' : Palette) : Prop where
  length : p'.colors.length = p.colors.length
  color : ∀ i, i ≠ NamedColor.cursor.index → p'.color i = p.color i

namespace Palette.Agrees

variable {p p' p'' : Palette}

@[refl] theorem refl (p : Palette) : Agrees p p := ⟨rfl, fun _ _ => rfl⟩

theorem trans (h : Agrees p p') (h' : Agrees p' p'') : Agrees p p'' :=
  ⟨h'.length.trans h.length, fun i hi => (h'.color i hi).trans (h.color i hi)⟩

/-- A new cursor colour. -/
theorem set (p : Palette) (rgb : Rgb) : Agrees p { p with colors := p.colors.set NamedColor.cursor.index rgb } := by
  refine ⟨length_set .., fun i hi => ?_⟩
  show (p.colors.set NamedColor.cursor.index rgb).getD i fallbackColor = p.colors.getD i fallbackColor
  rw [getD_eq_getElem?_getD, getD_eq_getElem?_getD, getElem?_set_ne (Ne.symm hi)]

end Palette.Agrees

/-- The displayed view does not scroll back. -/
def Grid.Live (g g' : Grid) : Prop := g.displayOffset = 0 → g'.displayOffset = 0

namespace Term

/-! ## Well-formed terminals -/

/-- **The invariant.** Both grids are well formed, and the alternate screen, when it is active, is there. -/
structure Wf (t : Term) : Prop where
  grid : t.grid.Wf
  altGrid : ∀ g, t.altGrid = some g → g.Wf
  paired : t.altImageCache.isSome = t.altGrid.isSome
  allocated : t.altActive = true → t.altGrid.isSome = true

/-- The scrollback rows of both grids have their grid's width. -/
def Uniform (t : Term) : Prop := t.grid.HistoryUniform ∧ ∀ g, t.altGrid = some g → g.HistoryUniform

/-- The image cache of the alternate screen; before its first use an empty one. -/
def altCache (t : Term) : Image.Cache := t.altImageCache.getD .new

/-- The next snapshot reports everything: the damage is total, or an image changed. -/
def damageTotal (t : Term) : Bool := t.activeGrid.dirty.allDirty || t.activeCache.dirty

theorem wf_new {lines cols : Nat} (scrollback : Nat) (theme : Theme) (h : 0 < cols) :
    (Term.new lines cols scrollback theme).Wf := by
  have hoff : (Term.new lines cols scrollback theme).altActive = false := by
    show contains TermMode.initial TermMode.altScreen = false
    decide
  refine ⟨Grid.wf_withScrollback lines scrollback h, fun g hg => ?_, rfl, fun ha => ?_⟩
  · have hnone : (none : Option Grid) = some g := hg
    cases hnone
  · rw [hoff] at ha
    cases ha

variable {t t' t'' : Term}

theorem Wf.activeGrid (ht : t.Wf) : t.activeGrid.Wf := by
  unfold Term.activeGrid
  split
  · cases hg : t.altGrid with
    | none => exact ht.grid
    | some g => exact ht.altGrid g hg
  · exact ht.grid

theorem Uniform.activeGrid (h : t.Uniform) : t.activeGrid.HistoryUniform := by
  unfold Term.activeGrid
  split
  · cases hg : t.altGrid with
    | none => exact h.1
    | some g => exact h.2 g hg
  · exact h.1

theorem Wf.altGrid_isSome (ht : t.Wf) (ha : t.altActive = true) : ∃ g, t.altGrid = some g :=
  isSome_iff_exists.mp (ht.allocated ha)

theorem Wf.altImageCache_isSome (ht : t.Wf) (ha : t.altActive = true) : ∃ c, t.altImageCache = some c :=
  isSome_iff_exists.mp (ht.paired.trans (ht.allocated ha))

/-- The active cache of a well-formed terminal is the one of the active screen. -/
theorem Wf.activeCache_eq (ht : t.Wf) : t.activeCache = if t.altActive then t.altCache else t.imageCache := by
  unfold Term.activeCache altCache
  cases ha : t.altActive with
  | false => rfl
  | true =>
    obtain ⟨c, hc⟩ := ht.altImageCache_isSome ha
    rw [hc]
    rfl

/-- A mutation of the active grid, spelled out. -/
theorem Wf.onGrid_eq (ht : t.Wf) (f : Grid → Grid) :
    t.onGrid f =
      if t.altActive then { t with altGrid := t.altGrid.map f } else { t with grid := f t.grid } := by
  unfold onGrid
  cases ha : t.altActive with
  | false => rfl
  | true =>
    obtain ⟨g, hg⟩ := ht.altGrid_isSome ha
    rw [hg]
    rfl

/-- A mutation of the active cache, spelled out. -/
theorem Wf.onCache_eq (ht : t.Wf) (f : Image.Cache → Image.Cache) :
    t.onCache f =
      if t.altActive then { t with altImageCache := t.altImageCache.map f }
      else { t with imageCache := f t.imageCache } := by
  unfold onCache
  cases ha : t.altActive with
  | false => rfl
  | true =>
    obtain ⟨c, hc⟩ := ht.altImageCache_isSome ha
    rw [hc]
    rfl

theorem Wf.activeGrid_onGrid (ht : t.Wf) (f : Grid → Grid) : (t.onGrid f).activeGrid = f t.activeGrid := by
  rw [ht.onGrid_eq]
  cases ha : t.altActive with
  | false =>
    have hoff : contains t.mode TermMode.altScreen = false := ha
    simp [Term.activeGrid, altActive, hoff]
  | true =>
    have hon : contains t.mode TermMode.altScreen = true := ha
    obtain ⟨g, hg⟩ := ht.altGrid_isSome ha
    simp [Term.activeGrid, altActive, hon, hg]

theorem Wf.activeGrid_of_primary (ha : t.altActive = false) : t.activeGrid = t.grid := by
  unfold Term.activeGrid
  rw [ha]
  rfl

theorem Wf.activeGrid_of_alt {g : Grid} (ha : t.altActive = true) (hg : t.altGrid = some g) : t.activeGrid = g := by
  unfold Term.activeGrid
  rw [ha, hg]
  rfl

/-- A mutation of the active grid that keeps it well formed. -/
theorem Wf.onGrid (ht : t.Wf) {f : Grid → Grid} (h : (f t.activeGrid).Wf) : (t.onGrid f).Wf := by
  rw [ht.onGrid_eq]
  cases ha : t.altActive with
  | false =>
    rw [activeGrid_of_primary ha] at h
    exact ⟨h, ht.altGrid, ht.paired, ht.allocated⟩
  | true =>
    obtain ⟨g, hg⟩ := ht.altGrid_isSome ha
    rw [activeGrid_of_alt ha hg] at h
    rw [if_pos rfl, hg]
    refine ⟨ht.grid, fun g' hg' => ?_, ?_, fun _ => rfl⟩
    · cases hg'
      exact h
    · rw [ht.paired, hg]
      rfl

/-- A mutation of the active grid that keeps its widths uniform. -/
theorem Uniform.onGrid (ht : t.Wf) (hu : t.Uniform) {f : Grid → Grid} (h : (f t.activeGrid).HistoryUniform) :
    (t.onGrid f).Uniform := by
  rw [ht.onGrid_eq]
  cases ha : t.altActive with
  | false =>
    rw [Wf.activeGrid_of_primary ha] at h
    exact ⟨h, hu.2⟩
  | true =>
    obtain ⟨g, hg⟩ := ht.altGrid_isSome ha
    rw [Wf.activeGrid_of_alt ha hg] at h
    rw [hg]
    refine ⟨hu.1, fun g' hg' => ?_⟩
    cases hg'
    exact h

/-! ## What is shown -/

/-- The same screen is active and paints cells the same way. -/
structure SameScreen (t t' : Term) : Prop where
  altActive : t'.altActive = t.altActive
  reverseVideo : t'.has TermMode.reverseVideo = t.has TermMode.reverseVideo
  palette : t.palette.Agrees t'.palette
  boldIsBright : t'.boldIsBright = t.boldIsBright

@[refl] theorem SameScreen.refl (t : Term) : SameScreen t t := ⟨rfl, rfl, .refl _, rfl⟩

theorem SameScreen.trans (h : SameScreen t t') (h' : SameScreen t' t'') : SameScreen t t'' :=
  ⟨h'.altActive.trans h.altActive, h'.reverseVideo.trans h.reverseVideo, h.palette.trans h'.palette,
    h'.boldIsBright.trans h.boldIsBright⟩

/-- **Shown.** Everything is reported, or the screen is the same and its grid repainted; `V` relates the views. -/
def Shown (V : Grid → Grid → Prop) (t t' : Term) : Prop :=
  t'.damageTotal = true ∨
    SameScreen t t' ∧ Grid.Repaints Grid.nothing t.activeGrid t'.activeGrid ∧ V t.activeGrid t'.activeGrid

/-- The promises an operation makes only under a condition. -/
structure Guards where
  /-- What changes on the live screen is covered. -/
  marks : Prop
  /-- A scrolled-back view does not change. -/
  silent : Prop
  /-- Uniform widths stay uniform. -/
  widths : Prop
  /-- Total damage stays total. -/
  screen : Prop

/-- **Kept.** What an operation leaves behind, under the guards `G`. -/
structure Keeps (G : Guards) (t t' : Term) : Prop where
  wf : t'.Wf
  uniform : G.widths → t.Uniform → t'.Uniform
  total : G.screen → t.damageTotal = true → t'.damageTotal = true
  shown : G.marks → Shown Grid.Live t t'
  still : G.silent → Shown Grid.Still t t'
  images : Image.Cache.Marks t.imageCache t'.imageCache
  altImages : Image.Cache.Marks t.altCache t'.altCache

variable {G : Guards}

/-- Two shown steps in a row, when the second keeps total damage. -/
theorem Shown.trans {V : Grid → Grid → Prop} (hV : ∀ a b c, V a b → V b c → V a c) (h : Shown V t t')
    (h' : Shown V t' t'') (htotal : t'.damageTotal = true → t''.damageTotal = true) : Shown V t t'' := by
  rcases h with h | ⟨hscreen, hrep, hv⟩
  · exact .inl (htotal h)
  · rcases h' with h' | ⟨hscreen', hrep', hv'⟩
    · exact .inl h'
    · exact .inr ⟨hscreen.trans hscreen', hrep.trans hrep', hV _ _ _ hv hv'⟩

theorem Shown.refl {V : Grid → Grid → Prop} (hV : ∀ g, V g g) (t : Term) : Shown V t t :=
  .inr ⟨.refl t, .refl _ _, hV _⟩

theorem Keeps.refl (ht : t.Wf) : Keeps G t t :=
  ⟨ht, fun _ => id, fun _ => id, fun _ => .refl (fun _ => id) t, fun _ => .refl .refl t, .refl _, .refl _⟩

/-- The active cache reports its changes. -/
theorem Keeps.activeCache (h : Keeps G t t') (ht : t.Wf) (ha : t'.altActive = t.altActive) :
    Image.Cache.Marks t.activeCache t'.activeCache := by
  rw [ht.activeCache_eq, h.wf.activeCache_eq, ha]
  split
  · exact h.altImages
  · exact h.images

/-- A shown step keeps total damage. -/
theorem Keeps.total_of_shown (h : Keeps G t t') (ht : t.Wf) {V : Grid → Grid → Prop} (hs : Shown V t t')
    (htotal : t.damageTotal = true) : t'.damageTotal = true := by
  rcases hs with hs | ⟨hscreen, hrep, _⟩
  · exact hs
  · unfold damageTotal at htotal ⊢
    rw [Bool.or_eq_true] at htotal ⊢
    exact htotal.imp hrep.dirty.all (h.activeCache ht hscreen.altActive).stays

/-- **Kept along.** -/
theorem Keeps.trans (h : Keeps G t t') (h' : t'.Wf → Keeps G t' t'') : Keeps G t t'' := by
  have h' := h' h.wf
  refine ⟨h'.wf, fun hw => h'.uniform hw ∘ h.uniform hw, fun hs => h'.total hs ∘ h.total hs, fun hm => ?_,
    fun hq => ?_, h.images.trans h'.images, h.altImages.trans h'.altImages⟩
  · exact (h.shown hm).trans (fun _ _ _ hab hbc => hbc ∘ hab) (h'.shown hm) (h'.total_of_shown h.wf (h'.shown hm))
  · exact (h.still hq).trans (fun _ _ _ => Grid.Still.trans) (h'.still hq) (h'.total_of_shown h.wf (h'.still hq))

/-! ## Primitives -/

/-- What is shown did not change: neither the grids nor the caches nor the painting. -/
structure SameShown (t t' : Term) : Prop extends SameScreen t t' where
  grid : t'.grid = t.grid
  altGrid : t'.altGrid = t.altGrid
  imageCache : t'.imageCache = t.imageCache
  altImageCache : t'.altImageCache = t.altImageCache

theorem SameShown.keeps (ht : t.Wf) (h : SameShown t t') : Keeps G t t' := by
  have hgrid : t'.activeGrid = t.activeGrid := by
    unfold Term.activeGrid
    rw [h.altActive, h.altGrid, h.grid]
  have hcache : t'.activeCache = t.activeCache := by
    unfold Term.activeCache
    rw [h.altActive, h.altImageCache, h.imageCache]
  refine ⟨⟨h.grid ▸ ht.grid, h.altGrid ▸ ht.altGrid, ?_, ?_⟩, fun _ hu => ?_, fun _ htotal => ?_, fun _ => ?_,
    fun _ => ?_, ?_, ?_⟩
  · rw [h.altImageCache, h.altGrid]
    exact ht.paired
  · rw [h.altActive, h.altGrid]
    exact ht.allocated
  · unfold Uniform
    rw [h.grid, h.altGrid]
    exact hu
  · unfold damageTotal
    rw [hgrid, hcache]
    exact htotal
  · refine .inr ⟨h.toSameScreen, ?_, ?_⟩ <;> rw [hgrid]
    exact id
  · refine .inr ⟨h.toSameScreen, ?_, ?_⟩ <;> rw [hgrid]
  · rw [h.imageCache]
  · unfold altCache
    rw [h.altImageCache]

/-- Flags other than `ALT_SCREEN` and `REVERSE_VIDEO` are not shown. -/
theorem sameShown_mode {mode : TermMode} (ha : contains mode TermMode.altScreen = contains t.mode TermMode.altScreen)
    (hr : contains mode TermMode.reverseVideo = contains t.mode TermMode.reverseVideo) :
    SameShown t { t with mode := mode } :=
  ⟨⟨ha, hr, .refl _, rfl⟩, rfl, rfl, rfl, rfl⟩

section

variable (ht : t.Wf) {flag : TermMode} (ha : Disjoint flag TermMode.altScreen)
  (hr : Disjoint flag TermMode.reverseVideo)
include ht ha hr

theorem keeps_insertMode : Keeps G t (t.insertMode flag) :=
  (sameShown_mode (contains_insert_of_disjoint ha) (contains_insert_of_disjoint hr)).keeps ht

theorem keeps_removeMode : Keeps G t (t.removeMode flag) :=
  (sameShown_mode (contains_remove_of_disjoint ha) (contains_remove_of_disjoint hr)).keeps ht

end

section

variable (ht : t.Wf)
include ht

theorem keeps_setMode {flag : TermMode} (value : Bool) (ha : Disjoint flag TermMode.altScreen)
    (hr : Disjoint flag TermMode.reverseVideo) : Keeps G t (t.setMode flag value) := by
  cases value with
  | false => exact keeps_removeMode ht ha hr
  | true => exact keeps_insertMode ht ha hr

theorem keeps_emit (e : Effect) : Keeps G t (t.emit e) :=
  SameShown.keeps ht ⟨⟨rfl, rfl, .refl _, rfl⟩, rfl, rfl, rfl, rfl⟩

theorem keeps_dirtySelection : Keeps G t t.dirtySelection :=
  SameShown.keeps ht ⟨⟨rfl, rfl, .refl _, rfl⟩, rfl, rfl, rfl, rfl⟩

/-- **A grid operation.** -/
theorem keeps_gridOp (op : GridOp) (hm : G.marks → op.Marks t.activeGrid) (hq : G.silent → op.Silent t.activeGrid)
    (hw : G.widths → op.KeepsWidths t.activeGrid) : Keeps G t (t.gridOp op) := by
  have hkeeps := op.keeps ht.activeGrid
  have hactive := ht.activeGrid_onGrid fun g => op.apply g
  have hscreen : SameScreen t (t.gridOp op) ∧ (t.gridOp op).imageCache = t.imageCache
      ∧ (t.gridOp op).altImageCache = t.altImageCache ∧ (t.gridOp op).activeCache = t.activeCache := by
    unfold gridOp
    rw [ht.onGrid_eq]
    split <;> exact ⟨⟨rfl, rfl, .refl _, rfl⟩, rfl, rfl, rfl⟩
  obtain ⟨hscreen, hcache, haltCache, hactiveCache⟩ := hscreen
  have hgrows : t.activeGrid.dirty.allDirty = true → (op.apply t.activeGrid).dirty.allDirty = true := by
    intro hall
    rcases hkeeps.shown with hd | ⟨hrep, _⟩
    · exact hd
    · exact hrep.dirty.all hall
  have htotal : (op.apply t.activeGrid).dirty.allDirty = true → (t.gridOp op).damageTotal = true := by
    intro hd
    unfold damageTotal
    rw [gridOp, hactive, hd]
    rfl
  have hrepaints : op.Marks t.activeGrid → (t.gridOp op).damageTotal = true ∨
      Grid.Repaints Grid.nothing t.activeGrid (op.apply t.activeGrid) ∧ Grid.Live t.activeGrid (op.apply t.activeGrid) := by
    intro hmarks
    rcases hkeeps.shown with hd | ⟨hrep, hlive⟩
    · exact .inl (htotal hd)
    · exact .inr ⟨hrep.mono fun _ _ hn => hn hmarks, hlive⟩
  refine ⟨ht.onGrid hkeeps.wf, fun hG hu => hu.onGrid ht (hkeeps.uniform (hw hG) hu.activeGrid), fun _ h => ?_,
    fun hG => ?_, fun hG => ?_, ?_, ?_⟩
  · unfold damageTotal at h ⊢
    rw [Bool.or_eq_true] at h ⊢
    rw [gridOp, hactive, ← gridOp, hactiveCache]
    exact h.imp hgrows id
  · rcases hrepaints (hm hG) with hd | ⟨hrep, hlive⟩
    · exact .inl hd
    · refine .inr ⟨hscreen, ?_, ?_⟩ <;> rw [gridOp, hactive]
      · exact hrep
      · exact hlive
  · have hsilent := hq hG
    have hmarks : op.Marks t.activeGrid := by
      cases op <;> trivial
    rcases op.still ht.activeGrid hsilent with hd | hstill
    · exact .inl (htotal hd)
    · rcases hrepaints hmarks with hd | ⟨hrep, _⟩
      · exact .inl hd
      · refine .inr ⟨hscreen, ?_, ?_⟩ <;> rw [gridOp, hactive]
        · exact hrep
        · exact hstill
  · rw [hcache]
  · unfold altCache
    rw [haltCache]

/-- A grid operation that needs no guard but for a scrolled-back view. -/
theorem keeps_gridEdit (e : GridEdit) (hq : G.silent → e.Silent) : Keeps G t (t.gridEdit e) :=
  keeps_gridOp ht (.edit e) (fun _ => trivial) hq (fun _ => trivial)

/-- Operations in a row, none of which needs a guard but for a scrolled-back view. -/
theorem keeps_gridOps {ops : List GridOp} (hm : ∀ op ∈ ops, ∀ g, op.Marks g)
    (hq : G.silent → ∀ op ∈ ops, ∀ g, op.Silent g) (hw : ∀ op ∈ ops, ∀ g, op.KeepsWidths g) :
    Keeps G t (t.gridOps ops) := by
  induction ops generalizing t with
  | nil => exact .refl ht
  | cons op ops ih =>
    have hhead := keeps_gridOp ht op (fun _ => hm op (mem_cons_self ..) _)
      (fun hG => hq hG op (mem_cons_self ..) _) (fun _ => hw op (mem_cons_self ..) _)
    refine hhead.trans fun h => ih h (fun o ho => hm o (mem_cons_of_mem _ ho))
      (fun hG o ho => hq hG o (mem_cons_of_mem _ ho)) (fun o ho => hw o (mem_cons_of_mem _ ho))

/-- Caches that report their changes, and nothing else. -/
theorem keeps_caches {imageCache : Image.Cache} {altImageCache : Option Image.Cache}
    (hsome : altImageCache.isSome = t.altImageCache.isSome) (hi : Image.Cache.Marks t.imageCache imageCache)
    (ha : Image.Cache.Marks t.altCache (altImageCache.getD .new)) :
    Keeps G t { t with imageCache := imageCache, altImageCache := altImageCache } := by
  have hwf : Wf { t with imageCache := imageCache, altImageCache := altImageCache } :=
    ⟨ht.grid, ht.altGrid, hsome.trans ht.paired, ht.allocated⟩
  refine ⟨hwf, fun _ => id, fun _ h => ?_, fun _ => .inr ⟨⟨rfl, rfl, .refl _, rfl⟩, .refl _ _, id⟩,
    fun _ => .inr ⟨⟨rfl, rfl, .refl _, rfl⟩, .refl _ _, .refl _⟩, hi, ha⟩
  unfold damageTotal at h ⊢
  rw [Bool.or_eq_true] at h ⊢
  rw [hwf.activeCache_eq]
  rw [ht.activeCache_eq] at h
  refine h.imp id fun hd => ?_
  cases hon : t.altActive with
  | false =>
    rw [hon] at hd
    have hoff : contains t.mode TermMode.altScreen = false := hon
    simpa [altActive, hoff] using hi.stays hd
  | true =>
    rw [hon] at hd
    have hon' : contains t.mode TermMode.altScreen = true := hon
    simpa [altActive, hon', altCache] using ha.stays hd

variable {f : Image.Cache → Image.Cache} (hf : ∀ c, Image.Cache.Marks c (f c))
include hf

/-- **An operation on the active cache.** -/
theorem keeps_onCache : Keeps G t (t.onCache f) := by
  rw [ht.onCache_eq]
  cases ha : t.altActive with
  | false => exact keeps_caches ht rfl (hf _) (.refl _)
  | true =>
    obtain ⟨c, hc⟩ := ht.altImageCache_isSome ha
    refine keeps_caches ht ?_ (.refl _) ?_
    · exact isSome_map
    · unfold altCache
      rw [hc]
      exact hf c

/-- An operation on both caches. -/
theorem keeps_onCaches : Keeps G t (t.onCaches f) := by
  refine keeps_caches ht isSome_map (hf _) ?_
  unfold altCache
  cases t.altImageCache with
  | none => exact .refl _
  | some c => exact hf c

end

end Term

end OriTerm
