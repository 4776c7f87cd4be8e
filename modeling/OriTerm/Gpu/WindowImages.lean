import OriTerm.Gpu.ImageTexture
import OriTerm.Mux.PaneSnapshot
import OriTerm.Term.Op
import OriTerm.Term.Snapshot

/-!
# `Gpu.WindowImages` — the images a window draws

A window shows one pane or several (`Window.multiPane`), each with a terminal of its own. A redraw prepares the frame of
a pane, which uploads the images of the terminal's active screen, or serves it from the pane's cached frame; then it
evicts textures and draws the image quads, each with the texture found under its image id (`recordImageDraws`).

The textures are the window's, under the image id alone. **`WindowOp.draws_run`**: in every run whose redraws find
the ids undisputed (`Window.Undisputed`), every quad is drawn with the pixels its pane's image has now.

Fonts, cells and the placement of quads are left out; what decides whether a cached frame is served — the layout and the
damage key — is a parameter `κ`. A change of a terminal marks the pane's snapshot dirty, and a redraw refreshes it.
-/

namespace OriTerm.Gpu

open Lib List Option

variable {c : Image.Cache} {f : F32Arith} {img : RenderableImageData}

/-! ## The window -/

/-- A pane: its terminal, and whether it changed since the window last took its snapshot. -/
structure Pane where
  term : Term
  snapshotDirty : Bool

/-- An image quad of a prepared frame. -/
structure ImageQuad where
  imageId : ImageId
  /-- The pane it was emitted for (history only: nothing reads it). -/
  pane : PaneId
  deriving DecidableEq, Repr

/-- The image quads of a prepared frame: below and above the text. -/
structure PreparedFrame where
  imageQuadsBelow : List ImageQuad := []
  imageQuadsAbove : List ImageQuad := []

namespace PreparedFrame

/-- Appends the quads of another frame. -/
def extendFrom (frame other : PreparedFrame) : PreparedFrame :=
  { imageQuadsBelow := frame.imageQuadsBelow ++ other.imageQuadsBelow
    imageQuadsAbove := frame.imageQuadsAbove ++ other.imageQuadsAbove }

/-- All quads, in the order they are drawn. -/
def quads (frame : PreparedFrame) : List ImageQuad := frame.imageQuadsBelow ++ frame.imageQuadsAbove

/-- Emits the placements, split by z-index. -/
def emitImageQuads (pane : PaneId) (content : RenderableContent) (frame : PreparedFrame) : PreparedFrame :=
  { imageQuadsBelow := frame.imageQuadsBelow
      ++ (content.images.filter fun img => decide (img.zIndex < 0)).map fun img => ⟨img.imageId, pane⟩
    imageQuadsAbove := frame.imageQuadsAbove
      ++ (content.images.filter fun img => !decide (img.zIndex < 0)).map fun img => ⟨img.imageId, pane⟩ }

/-- Emits one quad for each placeholder cell. -/
def emitPlaceholderQuads (pane : PaneId) (content : RenderableContent) (frame : PreparedFrame) : PreparedFrame :=
  { frame with
    imageQuadsAbove := frame.imageQuadsAbove ++ content.placeholderCells.map fun pc => ⟨pc.imageId, pane⟩ }

/-- The frame of a pane's content. -/
def fill (pane : PaneId) (content : RenderableContent) : PreparedFrame :=
  emitPlaceholderQuads pane content (emitImageQuads pane content {})

end PreparedFrame

/-- A pane's frame, with the layout and the damage key it was prepared under. -/
structure CachedPaneFrame (κ : Type) where
  prepared : PreparedFrame
  key : κ

/-- A window. -/
structure Window (κ : Type) where
  panes : AList (fun _ : PaneId => Pane) := ∅
  /-- The panes of the active tab; the first is the active one where there is a single one. -/
  visible : List PaneId := []
  /-- The tab is split, zoomed or has floating panes. -/
  multiPane : Bool := false
  imageTextureCache : ImageTextureCache := {}
  paneCache : AList (fun _ : PaneId => CachedPaneFrame κ) := ∅
  prepared : PreparedFrame := {}
  lastRenderedPane : Option PaneId := none
  /-- The quads drawn in the last redraw, with their textures. -/
  drawn : List (ImageQuad × GpuImageTexture) := []

/-- An image texture unused for more frames than this is evicted. -/
def imageTextureEvictFrameThreshold : Nat := 60

namespace Window

variable {κ : Type}

/-- Ends the image frame: evicts stale and surplus textures. -/
def finishImageFrame (w : Window κ) : Window κ :=
  { w with
    imageTextureCache := (w.imageTextureCache.evictUnused imageTextureEvictFrameThreshold).evictOverLimit }

/-- Draws the prepared quads; one without a texture is skipped. -/
def recordImageDraws (w : Window κ) : Window κ :=
  { w with
    drawn := w.prepared.quads.filterMap fun quad => (w.imageTextureCache.texture quad.imageId).map (quad, ·) }

/-- Uploads the images of a pane's content. -/
def ensurePaneImagesUploaded (w : Window κ) (content : RenderableContent) : Window κ :=
  { w with imageTextureCache := content.imageData.foldl ImageTextureCache.ensureUploaded w.imageTextureCache }

/-- Marks the images of a cached frame used; whether all of them were there. -/
def touchCachedPaneImages (w : Window κ) (cached : PreparedFrame) : Window κ × Bool :=
  let touched := cached.quads.foldl
    (fun acc quad =>
      let next := acc.1.touchImage quad.imageId
      (next.1, acc.2 && next.2)) (w.imageTextureCache, true)
  ({ w with imageTextureCache := touched.1 }, touched.2)

/-- Prepares the frame of a single pane, and uploads its images. -/
def prepare (f : F32Arith) (w : Window κ) (id : PaneId) (pane : Pane) : Window κ :=
  let content := pane.term.renderableContent f
  let w := { w with prepared := .fill id content, imageTextureCache := w.imageTextureCache.beginFrame }
  (w.ensurePaneImagesUploaded content).finishImageFrame

/-- Redraws a tab of one pane. The prepared frame is drawn again when neither the content nor, as `unchanged` tells,
    anything else the frame depends on changed. -/
def redrawSinglePane (f : F32Arith) (unchanged : Bool) (w : Window κ) : Window κ :=
  match w.visible with
  | [] => { w with drawn := [] }
  | id :: _ =>
    let paneChanged := decide (w.lastRenderedPane ≠ some id)
    let w := { w with lastRenderedPane := some id }
    match w.panes.lookup id with
    | none => { w with drawn := [] }
    | some pane =>
      let contentChanged := pane.snapshotDirty || paneChanged
      let w := { w with panes := w.panes.insert id { pane with snapshotDirty := false } }
      if !contentChanged && unchanged then w.recordImageDraws else (w.prepare f id pane).recordImageDraws

variable [DecidableEq κ]

/-- The cached frame of a pane, when the pane is clean and the key is the one it was prepared under. -/
def cachedFrame (w : Window κ) (id : PaneId) (pane : Pane) (key : κ) : Option (CachedPaneFrame κ) :=
  if pane.snapshotDirty then none else (w.paneCache.lookup id).filter fun cached => cached.key = key

/-- Prepares a pane into its cached frame, and merges that. -/
def preparePane (f : F32Arith) (w : Window κ) (id : PaneId) (pane : Pane) (key : κ) : Window κ :=
  let content := pane.term.renderableContent f
  let frame := PreparedFrame.fill id content
  let w := w.ensurePaneImagesUploaded content
  { w with
    panes := w.panes.insert id { pane with snapshotDirty := false }
    paneCache := w.paneCache.insert id { prepared := frame, key }
    prepared := w.prepared.extendFrom frame }

/-- One pane of a multi-pane redraw. -/
def redrawPane (f : F32Arith) (keys : PaneId → κ) (w : Window κ) (id : PaneId) : Window κ :=
  match w.panes.lookup id with
  | none => w
  | some pane =>
    match w.cachedFrame id pane (keys id) with
    | some cached =>
      let touched := w.touchCachedPaneImages cached.prepared
      if touched.2 then { touched.1 with prepared := touched.1.prepared.extendFrom cached.prepared }
      else preparePane f { touched.1 with paneCache := touched.1.paneCache.erase id } id pane (keys id)
    | none => preparePane f w id pane (keys id)

/-- Redraws a tab of several panes. -/
def redrawMultiPane (f : F32Arith) (keys : PaneId → κ) (w : Window κ) : Window κ :=
  let w := { w with
    lastRenderedPane := none, imageTextureCache := w.imageTextureCache.beginFrame, prepared := {} }
  (w.visible.foldl (redrawPane f keys) w).finishImageFrame.recordImageDraws

end Window

/-- What happens to a window and its panes. -/
inductive WindowOp (κ : Type) where
  | openPane (id : PaneId) (term : Term)
  /-- A pane is closed; a single pane that is left does not become several. -/
  | closePane (id : PaneId) (visible : List PaneId) (multiPane : Bool)
  /-- A tab or pane is switched to, split, zoomed or moved. -/
  | arrange (visible : List PaneId) (multiPane : Bool)
  | termOp (id : PaneId) (op : TermOp)
  | setImageGpuMemoryLimit (limit : Nat)
  | redraw (keys : PaneId → κ) (unchanged : Bool)

namespace WindowOp

variable {κ : Type} [DecidableEq κ]

/-- Performs an operation. -/
def apply (f : F32Arith) (width : Char → Option Nat) (w : Window κ) : WindowOp κ → Window κ
  | openPane id term => { w with panes := w.panes.insert id { term, snapshotDirty := true } }
  | closePane id visible multiPane =>
    { w with
      panes := w.panes.erase id, paneCache := w.paneCache.erase id
      visible := visible, multiPane := w.multiPane && multiPane }
  | arrange visible multiPane => { w with visible := visible, multiPane := multiPane, paneCache := ∅ }
  | termOp id op =>
    match w.panes.lookup id with
    | some pane => { w with panes := w.panes.insert id { term := op.apply width pane.term, snapshotDirty := true } }
    | none => w
  | setImageGpuMemoryLimit limit => { w with imageTextureCache := w.imageTextureCache.setGpuMemoryLimit limit }
  | redraw keys unchanged => if w.multiPane then w.redrawMultiPane f keys else w.redrawSinglePane f unchanged

end WindowOp

/-! ## The pictures of a terminal -/

theorem mem_collectImageData {ids : List ImageId} :
    img ∈ c.collectImageData ids ↔ ∃ id ∈ ids, c.cachedImageData id = some img := by
  unfold Image.Cache.collectImageData
  rw [mem_filterMap]
  exact exists_congr fun id => by rw [mem_eraseDups]

theorem cachedImageData_eq {id : ImageId} (h : c.cachedImageData id = some img) : img.id = id ∧ ∃ data, c.images.lookup id = some data
      ∧ img.data = data.data ∧ img.width = data.width ∧ img.height = data.height
      ∧ img.pixelGeneration = data.pixelGeneration := by
  obtain ⟨data, hdata, rfl⟩ := map_eq_some_iff.mp h
  exact ⟨rfl, data, hdata, rfl, rfl, rfl, rfl⟩

theorem cachedImageData_of_holds {id : ImageId} (h : c.holds id = true) :
    ∃ img, c.cachedImageData id = some img := by
  obtain ⟨data, hdata⟩ := isSome_iff_exists.mp h
  exact ⟨_, map_eq_some_iff.mpr ⟨data, hdata, rfl⟩⟩

theorem mem_extractImages {base lines cellW cellH : Nat} {p : RenderablePlacement}
    (h : p ∈ c.extractImages f base lines cellW cellH) : c.holds p.imageId = true := by
  obtain ⟨placement, _, hp⟩ := mem_filterMap.mp h
  obtain ⟨data, hdata, rfl⟩ := map_eq_some_iff.mp hp
  exact isSome_iff_exists.mpr ⟨data, hdata⟩

/-- A placeholder cell refers to an image that is held. -/
theorem mem_placeholderCells {t : Term} {pc : RenderablePlaceholderCell}
    (h : pc ∈ (t.renderableContent f).placeholderCells) : t.activeCache.holds pc.imageId = true := by
  have hcells : pc ∈ t.fillCells.filterMap (·.2) := h
  obtain ⟨cell, hcell, hpc⟩ := mem_filterMap.mp hcells
  obtain ⟨line, _, hrow⟩ := mem_flatMap.mp hcell
  cases hview : Term.viewRow t.activeGrid (Term.viewOffset t.activeGrid) line with
  | none =>
    rw [hview] at hrow
    cases hrow
  | some row =>
    rw [hview] at hrow
    obtain ⟨e, _, rfl⟩ := mem_map.mp hrow
    obtain ⟨r, hr, rfl⟩ := map_eq_some_iff.mp hpc
    have hfilter := (filter_eq_some_iff.mp hr).2
    rw [Bool.and_eq_true] at hfilter
    exact hfilter.2

/-- **Every quad of a pane is one of its pictures**, which are the images of its active screen. -/
theorem mem_fill {t : Term} {pane : PaneId} {quad : ImageQuad}
    (h : quad ∈ (PreparedFrame.fill pane (t.renderableContent f)).quads) :
    quad.pane = pane ∧ ∃ img ∈ (t.renderableContent f).imageData, img.id = quad.imageId := by
  have hdata : ∀ id, id ∈ (t.renderableContent f).images.map (·.imageId)
        ++ (t.renderableContent f).placeholderCells.map (·.imageId) → t.activeCache.holds id = true →
      ∃ img ∈ (t.renderableContent f).imageData, img.id = id := by
    intro id hid hheld
    obtain ⟨img, himg⟩ := cachedImageData_of_holds hheld
    exact ⟨img, mem_collectImageData.mpr ⟨id, hid, himg⟩, (cachedImageData_eq himg).1⟩
  have himages : ∀ p ∈ (t.renderableContent f).images,
      ∃ img ∈ (t.renderableContent f).imageData, img.id = p.imageId := fun p hp =>
    hdata _ (mem_append_left _ (mem_map_of_mem hp)) (mem_extractImages hp)
  unfold PreparedFrame.quads PreparedFrame.fill PreparedFrame.emitPlaceholderQuads PreparedFrame.emitImageQuads at h
  rw [nil_append, mem_append, mem_append] at h
  rcases h with h | h | h
  · obtain ⟨p, hp, rfl⟩ := mem_map.mp h
    exact ⟨rfl, himages p (mem_filter.mp hp).1⟩
  · obtain ⟨p, hp, rfl⟩ := mem_map.mp h
    exact ⟨rfl, himages p (mem_filter.mp hp).1⟩
  · obtain ⟨pc, hpc, rfl⟩ := mem_map.mp h
    exact ⟨rfl, hdata _ (mem_append_right _ (mem_map_of_mem hpc)) (mem_placeholderCells hpc)⟩

theorem mem_imageData {t : Term} (h : img ∈ (t.renderableContent f).imageData) : ∃ data, t.activeCache.images.lookup img.id = some data
      ∧ img.data = data.data ∧ img.width = data.width ∧ img.height = data.height
      ∧ img.pixelGeneration = data.pixelGeneration := by
  obtain ⟨id, _, hid⟩ := mem_collectImageData.mp h
  obtain ⟨rfl, hdata⟩ := cachedImageData_eq hid
  exact hdata

/-! ## Textures that are wanted -/

/-- Two pictures look the same. -/
def SamePixels (img img' : RenderableImageData) : Prop :=
  img.data = img'.data ∧ img.width = img'.width ∧ img.height = img'.height

instance (img img' : RenderableImageData) : Decidable (SamePixels img img') := by
  unfold SamePixels
  infer_instance

section

variable (pictures : PaneId → List RenderableImageData) (onScreen : List PaneId)

/-- The panes on the screen agree about what an image id stands for. -/
def Agree : Prop :=
  ∀ p ∈ onScreen, ∀ img ∈ pictures p, ∀ q ∈ onScreen, ∀ img' ∈ pictures q, img.id = img'.id → SamePixels img img'

/-- The texture holds what the panes on the screen show under the id. -/
def Wanted (id : ImageId) (tex : GpuImageTexture) : Prop :=
  ∀ p ∈ onScreen, ∀ img ∈ pictures p, img.id = id → tex.Holds img

/-- A texture of the second cache is wanted, or a texture of the first. -/
def Replenishes (c c' : ImageTextureCache) : Prop :=
  ∀ id tex', c'.texture id = some tex' →
    Wanted pictures onScreen id tex' ∨ ∃ tex frame, c.texture id = some tex ∧ tex' = tex.used frame

variable {pictures onScreen} {c c' c'' : ImageTextureCache} {p : PaneId}

theorem wanted_of_holds (hagree : Agree pictures onScreen) (hp : p ∈ onScreen) {img : RenderableImageData}
    (himg : img ∈ pictures p) {tex : GpuImageTexture} (h : tex.Holds img) : Wanted pictures onScreen img.id tex := by
  intro q hq img' himg' hid
  obtain ⟨hdata, hwidth, hheight⟩ := hagree p hp img himg q hq img' himg' hid.symm
  exact ⟨h.1.trans hdata, h.2.1.trans hwidth, h.2.2.trans hheight⟩

theorem Wanted.used {id : ImageId} {tex : GpuImageTexture} (h : Wanted pictures onScreen id tex) (frame : Nat) :
    Wanted pictures onScreen id (tex.used frame) := fun q hq img himg hid => h q hq img himg hid

theorem Replenishes.of_lingers (h : c.Lingers c') : Replenishes pictures onScreen c c' :=
  fun id tex htex => .inr (h id tex htex)

theorem Replenishes.trans (h : Replenishes pictures onScreen c c') (h' : Replenishes pictures onScreen c' c'') :
    Replenishes pictures onScreen c c'' := by
  intro id tex'' htex''
  rcases h' id tex'' htex'' with hwanted | ⟨tex', frame', htex', rfl⟩
  · exact .inl hwanted
  · rcases h id tex' htex' with hwanted | ⟨tex, frame, htex, rfl⟩
    · exact .inl (hwanted.used frame')
    · exact .inr ⟨tex, frame', htex, rfl⟩

variable (hagree : Agree pictures onScreen) (hp : p ∈ onScreen)
include hagree hp

/-- An upload of a picture on the screen. -/
theorem replenishes_ensureUploaded {img : RenderableImageData}
    (himg : img ∈ pictures p) (c : ImageTextureCache) : Replenishes pictures onScreen c (c.ensureUploaded img) := by
  obtain ⟨⟨tex, htex, hupload⟩, hothers⟩ := c.ensureUploaded_texture img
  intro id tex' htex'
  by_cases hid : id = img.id
  · rw [hid, htex] at htex'
    cases htex'
    rw [hid]
    rcases hupload with hholds | ⟨tex₀, frame, htex₀, rfl, _⟩
    · exact .inl (wanted_of_holds hagree hp himg hholds)
    · exact .inr ⟨tex₀, frame, htex₀, rfl⟩
  · rw [hothers id hid] at htex'
    exact .inr ⟨tex', tex'.lastFrame, htex', rfl⟩

/-- **The uploads of a pane.** Where a texture of a picture's generation holds what is wanted, every picture of the pane
    has such a texture afterwards. -/
theorem uploads_spec (imgs : List RenderableImageData)
    (himgs : ∀ img ∈ imgs, img ∈ pictures p) (c : ImageTextureCache)
    (hcurrent : ∀ img ∈ imgs, ∀ tex, c.texture img.id = some tex → tex.pixelGeneration = img.pixelGeneration →
      Wanted pictures onScreen img.id tex) :
    Replenishes pictures onScreen c (imgs.foldl ImageTextureCache.ensureUploaded c)
      ∧ ∀ img ∈ imgs, ∀ tex, (imgs.foldl ImageTextureCache.ensureUploaded c).texture img.id = some tex →
          Wanted pictures onScreen img.id tex := by
  induction imgs generalizing c with
  | nil => exact ⟨.of_lingers (.refl c), nofun⟩
  | cons img imgs ih =>
    have himg := himgs img (mem_cons_self ..)
    have hfirst := replenishes_ensureUploaded hagree hp himg c
    obtain ⟨hrest, huploaded⟩ := ih (fun x hx => himgs x (mem_cons_of_mem _ hx)) (c.ensureUploaded img) (by
      intro x hx tex htex hgeneration
      rcases hfirst x.id tex htex with hwanted | ⟨tex₀, frame, htex₀, rfl⟩
      · exact hwanted
      · exact (hcurrent x (mem_cons_of_mem _ hx) tex₀ htex₀ hgeneration).used frame)
    refine ⟨hfirst.trans hrest, fun x hx tex htex => ?_⟩
    rcases mem_cons.mp hx with rfl | hx
    · rcases hrest x.id tex htex with hwanted | ⟨tex₁, frame, htex₁, rfl⟩
      · exact hwanted
      · obtain ⟨⟨tex₂, htex₂, hupload⟩, _⟩ := c.ensureUploaded_texture x
        rw [htex₁] at htex₂
        cases htex₂
        rcases hupload with hholds | ⟨tex₀, frame₀, htex₀, rfl, hgeneration⟩
        · exact (wanted_of_holds hagree hp himg hholds).used frame
        · exact ((hcurrent x (mem_cons_self ..) tex₀ htex₀ hgeneration).used frame₀).used frame
    · exact huploaded x hx tex htex

end

/-! ## What is drawn -/

namespace Window

variable {κ : Type}

variable {w' : Window κ}

/-- What a pane shows: the images of its active screen in view. -/
def pictures (f : F32Arith) (w : Window κ) (id : PaneId) : List RenderableImageData :=
  (w.panes.lookup id).elim [] fun pane => (pane.term.renderableContent f).imageData

/-- The panes a redraw draws. -/
def onScreen (w : Window κ) : List PaneId := if w.multiPane then w.visible else w.visible.take 1

/-- **Every quad is drawn with its own pixels**: those that the image of its pane has now, on the active screen. -/
def DrawsOwn (w : Window κ) : Prop :=
  ∀ d ∈ w.drawn, ∃ pane img, w.panes.lookup d.1.pane = some pane
    ∧ pane.term.activeCache.images.lookup d.1.imageId = some img
    ∧ d.2.data = img.data ∧ d.2.width = img.width ∧ d.2.height = img.height

/-- The cached frames of clean panes show their pictures. -/
def CachedFramesCurrent (f : F32Arith) (w : Window κ) : Prop :=
  ∀ id cached pane, w.paneCache.lookup id = some cached → w.panes.lookup id = some pane →
    pane.snapshotDirty = false → ∀ quad ∈ cached.prepared.quads,
      quad.pane = id ∧ ∃ img ∈ w.pictures f id, img.id = quad.imageId

variable {f : F32Arith} {keys : PaneId → κ} {w : Window κ} {id : PaneId} {pane : Pane}

theorem pictures_of_lookup (h : w.panes.lookup id = some pane) :
    w.pictures f id = (pane.term.renderableContent f).imageData := by
  unfold pictures
  rw [h]
  rfl

/-- Taking a pane's snapshot leaves what the panes show. -/
theorem pictures_refreshed (h : w.panes.lookup id = some pane)
    (hpanes : w'.panes = w.panes.insert id { pane with snapshotDirty := false }) (x : PaneId) :
    w'.pictures f x = w.pictures f x := by
  unfold pictures
  rw [hpanes]
  by_cases hx : x = id
  · rw [hx, AList.lookup_insert, h]
    rfl
  · rw [AList.lookup_insert_ne hx]

/-! ## Between redraws -/

theorem lingers_finishImageFrame (w : Window κ) : w.imageTextureCache.Lingers w.finishImageFrame.imageTextureCache :=
  (ImageTextureCache.lingers_evictUnused _ _).trans (ImageTextureCache.lingers_evictOverLimit _)

/-- Between redraws: cached frames are current where several panes are shown, and what was prepared for a single pane is
    right as long as the pane is clean. -/
structure Sound (f : F32Arith) (w : Window κ) : Prop where
  cached : w.multiPane = true → w.CachedFramesCurrent f
  shown : ∀ p pane, w.lastRenderedPane = some p → w.panes.lookup p = some pane → pane.snapshotDirty = false →
    ∀ quad ∈ w.prepared.quads, quad.pane = p ∧ ∃ img ∈ w.pictures f p, img.id = quad.imageId
      ∧ ∀ tex, w.imageTextureCache.texture quad.imageId = some tex → tex.Holds img

/-- What is prepared is drawn with the pixels the images have. -/
theorem drawsOwn_recordImageDraws (h : ∀ quad ∈ w.prepared.quads, ∃ img ∈ w.pictures f quad.pane,
    img.id = quad.imageId ∧ ∀ tex, w.imageTextureCache.texture quad.imageId = some tex → tex.Holds img) :
    w.recordImageDraws.DrawsOwn := by
  intro d hd
  obtain ⟨quad, hquad, hdrawn⟩ := mem_filterMap.mp hd
  obtain ⟨tex, htex, rfl⟩ := map_eq_some_iff.mp hdrawn
  obtain ⟨img, himg, hid, hholds⟩ := h quad hquad
  cases hpane : w.panes.lookup quad.pane with
  | none =>
    unfold pictures at himg
    rw [hpane] at himg
    cases himg
  | some pane =>
    rw [pictures_of_lookup hpane] at himg
    obtain ⟨data, hdata, hpixels, hwidth, hheight, _⟩ := mem_imageData himg
    obtain ⟨hd, hw, hh⟩ := hholds tex htex
    rw [hid] at hdata
    exact ⟨pane, data, hpane, hdata, hd.trans hpixels, hw.trans hwidth, hh.trans hheight⟩

theorem cachedFramesCurrent_of_empty (h : w.paneCache = ∅) : w.CachedFramesCurrent f := by
  intro x cached pane hcached
  rw [h] at hcached
  cases hcached

/-- A single pane is drawn. -/
theorem drawn_single (hsingle : w.multiPane = false) (hlast : w.lastRenderedPane = some id)
    (hquads : ∀ quad ∈ w.prepared.quads, quad.pane = id ∧ ∃ img ∈ w.pictures f id, img.id = quad.imageId
      ∧ ∀ tex, w.imageTextureCache.texture quad.imageId = some tex → tex.Holds img) :
    Sound f w.recordImageDraws ∧ w.recordImageDraws.DrawsOwn := by
  refine ⟨⟨fun hmulti => ?_, fun p pane hp _ _ => ?_⟩, drawsOwn_recordImageDraws (f := f) fun quad hquad => ?_⟩
  · have hm : w.multiPane = true := hmulti
    rw [hsingle] at hm
    cases hm
  · have hp' : w.lastRenderedPane = some p := hp
    rw [hlast] at hp'
    cases hp'
    exact hquads
  · obtain ⟨rfl, himg⟩ := hquads quad hquad
    exact himg

/-- A terminal that is new or changed is dirty. -/
theorem Sound.changed (h : Sound f w) (id : PaneId) (term : Term) :
    Sound f { w with panes := w.panes.insert id { term, snapshotDirty := true } } := by
  have hother : ∀ x, x ≠ id → (w.panes.insert id { term, snapshotDirty := true }).lookup x = w.panes.lookup x :=
    fun x hx => AList.lookup_insert_ne hx
  have hclean : ∀ {x pane}, (w.panes.insert id { term, snapshotDirty := true }).lookup x = some pane →
      pane.snapshotDirty = false → x ≠ id := by
    intro x pane hpane hclean hx
    rw [hx, AList.lookup_insert] at hpane
    cases hpane
    cases hclean
  have hpictures : ∀ x, x ≠ id →
      pictures f { w with panes := w.panes.insert id { term, snapshotDirty := true } } x = w.pictures f x := by
    intro x hx
    unfold pictures
    rw [hother x hx]
  constructor
  · intro hmulti x cached pane hcached hpane hx
    have hne := hclean hpane hx
    rw [hother x hne] at hpane
    rw [hpictures x hne]
    exact h.cached hmulti x cached pane hcached hpane hx
  · intro p pane hlast hpane hp
    have hne := hclean hpane hp
    rw [hother p hne] at hpane
    rw [hpictures p hne]
    exact h.shown p pane hlast hpane hp

theorem Sound.closed (h : Sound f w) (id : PaneId) (visible : List PaneId) (multiPane : Bool) :
    Sound f { w with
      panes := w.panes.erase id, paneCache := w.paneCache.erase id
      visible := visible, multiPane := w.multiPane && multiPane } := by
  have hother : ∀ {x pane}, (w.panes.erase id).lookup x = some pane → x ≠ id ∧ w.panes.lookup x = some pane := by
    intro x pane hpane
    by_cases hx : x = id
    · have hgone : (w.panes.erase id).lookup id = none := AList.lookup_erase ..
      rw [hx, hgone] at hpane
      cases hpane
    · exact ⟨hx, (AList.lookup_erase_ne hx).symm.trans hpane⟩
  have hpictures : ∀ x, x ≠ id → pictures f { w with
      panes := w.panes.erase id, paneCache := w.paneCache.erase id
      visible := visible, multiPane := w.multiPane && multiPane } x = w.pictures f x := by
    intro x hx
    unfold pictures
    rw [show (w.panes.erase id).lookup x = w.panes.lookup x from AList.lookup_erase_ne hx]
  constructor
  · intro hmulti x cached pane hcached hpane hx
    obtain ⟨hne, hpane⟩ := hother hpane
    rw [hpictures x hne]
    exact h.cached (Bool.and_eq_true _ _ ▸ hmulti).1 x cached pane ((AList.lookup_erase_ne hne).symm.trans hcached)
      hpane hx
  · intro p pane hlast hpane hp
    obtain ⟨hne, hpane⟩ := hother hpane
    rw [hpictures p hne]
    exact h.shown p pane hlast hpane hp

/-- **Preparing a single pane** uploads its pictures. -/
theorem prepare_spec (w' : Window κ) (pane : Pane) (hagree : Agree (w.pictures f) [id]) (hpane : w.panes.lookup id = some pane)
    (hcurrent : ∀ img ∈ w.pictures f id, ∀ tex, w'.imageTextureCache.texture img.id = some tex →
      tex.pixelGeneration = img.pixelGeneration → tex.Holds img) :
    ∀ quad ∈ (w'.prepare f id pane).prepared.quads, quad.pane = id
      ∧ ∃ img ∈ (pane.term.renderableContent f).imageData, img.id = quad.imageId
      ∧ ∀ tex, (w'.prepare f id pane).imageTextureCache.texture quad.imageId = some tex → tex.Holds img := by
  have hpictures := pictures_of_lookup (f := f) hpane
  have hmem := mem_singleton_self id
  obtain ⟨_, huploaded⟩ := uploads_spec hagree hmem (pane.term.renderableContent f).imageData
    (fun img himg => hpictures ▸ himg) w'.imageTextureCache.beginFrame fun img himg tex htex hgeneration =>
      wanted_of_holds hagree hmem (hpictures ▸ himg) (hcurrent img (hpictures ▸ himg) tex htex hgeneration)
  intro quad hquad
  obtain ⟨hp, img, himg, hid⟩ := mem_fill hquad
  refine ⟨hp, img, hpictures ▸ himg, hid, fun tex htex => ?_⟩
  obtain ⟨tex₀, frame, htex₀, rfl⟩ := lingers_finishImageFrame _ quad.imageId tex htex
  rw [← hid] at htex₀
  exact huploaded img himg tex₀ htex₀ id hmem img (hpictures ▸ himg) rfl

/-! ## In the middle of a redraw -/

theorem lingers_touchCachedPaneImages (w : Window κ) (cached : PreparedFrame) :
    w.imageTextureCache.Lingers (w.touchCachedPaneImages cached).1.imageTextureCache := by
  have hfold : ∀ (quads : List ImageQuad) (acc : ImageTextureCache × Bool),
      acc.1.Lingers (quads.foldl (fun acc quad =>
        let next := acc.1.touchImage quad.imageId
        (next.1, acc.2 && next.2)) acc).1 := by
    intro quads
    induction quads with
    | nil => exact fun acc => .refl acc.1
    | cons quad quads ih => exact fun acc => (ImageTextureCache.lingers_touchImage acc.1 quad.imageId).trans (ih _)
  exact hfold cached.quads (w.imageTextureCache, true)

variable [DecidableEq κ]

/-- A redraw would serve the pane from its cached frame. -/
def served (keys : PaneId → κ) (w : Window κ) (id : PaneId) : Bool :=
  (w.panes.lookup id).any fun pane => (w.cachedFrame id pane (keys id)).isSome

/-- **The image ids are undisputed.** The panes on the screen agree about what an id stands for; and the texture that is
    there under the id of a picture holds its pixels, if it has the picture's generation or the pane is served from its
    cached frame. -/
def Undisputed (f : F32Arith) (keys : PaneId → κ) (w : Window κ) : Prop :=
  Agree (w.pictures f) w.onScreen
    ∧ ∀ p ∈ w.onScreen, ∀ img ∈ w.pictures f p, ∀ tex ∈ w.imageTextureCache.texture img.id,
        tex.pixelGeneration = img.pixelGeneration ∨ (w.multiPane = true ∧ w.served keys p = true) → tex.Holds img

/-- In the middle of a redraw: the textures that will not be uploaded are wanted, and so are those of the quads so far. -/
structure Drawing (f : F32Arith) (keys : PaneId → κ) (pictures : PaneId → List RenderableImageData)
    (onScreen : List PaneId) (w : Window κ) : Prop where
  shown : ∀ x, w.pictures f x = pictures x
  cached : w.CachedFramesCurrent f
  current : ∀ p ∈ onScreen, ∀ img ∈ pictures p, ∀ tex, w.imageTextureCache.texture img.id = some tex →
    tex.pixelGeneration = img.pixelGeneration ∨ w.served keys p = true → Wanted pictures onScreen img.id tex
  quads : ∀ quad ∈ w.prepared.quads, quad.pane ∈ onScreen ∧ (∃ img ∈ pictures quad.pane, img.id = quad.imageId)
    ∧ ∀ tex, w.imageTextureCache.texture quad.imageId = some tex → Wanted pictures onScreen quad.imageId tex

variable {pictures : PaneId → List RenderableImageData} {onScreen : List PaneId}

theorem mem_quads_extendFrom {frame other : PreparedFrame} {quad : ImageQuad}
    (h : quad ∈ (frame.extendFrom other).quads) : quad ∈ frame.quads ∨ quad ∈ other.quads := by
  unfold PreparedFrame.extendFrom PreparedFrame.quads at *
  simp only [mem_append] at h ⊢
  tauto

/-- Whether a pane is served depends on its own entries only. -/
theorem served_congr (hpanes : w'.panes.lookup id = w.panes.lookup id)
    (hcache : w'.paneCache.lookup id = w.paneCache.lookup id) : w'.served keys id = w.served keys id := by
  unfold served cachedFrame
  rw [hpanes, hcache]

/-- **Preparing a pane.** -/
theorem Drawing.preparePane (hagree : Agree pictures onScreen) (h : Drawing f keys pictures onScreen w)
    (hid : id ∈ onScreen) (hpane : w.panes.lookup id = some pane) :
    Drawing f keys pictures onScreen (w.preparePane f id pane (keys id)) := by
  have hshown : (pane.term.renderableContent f).imageData = pictures id :=
    (pictures_of_lookup hpane).symm.trans (h.shown id)
  obtain ⟨hreplenishes, huploaded⟩ := uploads_spec hagree hid (pane.term.renderableContent f).imageData
    (fun img himg => hshown ▸ himg) w.imageTextureCache
    fun img himg tex htex hgeneration => h.current id hid img (hshown ▸ himg) tex htex (.inl hgeneration)
  have hpictures : ∀ x, (w.preparePane f id pane (keys id)).pictures f x = w.pictures f x :=
    pictures_refreshed hpane rfl
  have hlookup : ∀ x, x ≠ id → (w.preparePane f id pane (keys id)).panes.lookup x = w.panes.lookup x
      ∧ (w.preparePane f id pane (keys id)).paneCache.lookup x = w.paneCache.lookup x :=
    fun x hx => ⟨AList.lookup_insert_ne hx, AList.lookup_insert_ne hx⟩
  refine ⟨fun x => (hpictures x).trans (h.shown x), ?_, ?_, ?_⟩
  · intro x cached pane' hcached hpane' hclean quad hquad
    rw [hpictures]
    by_cases hx : x = id
    · subst hx
      have hentry : (w.preparePane f x pane (keys x)).paneCache.lookup x
          = some { prepared := .fill x (pane.term.renderableContent f), key := keys x } := AList.lookup_insert ..
      rw [hentry] at hcached
      cases hcached
      rw [pictures_of_lookup hpane]
      exact mem_fill hquad
    · rw [(hlookup x hx).2] at hcached
      rw [(hlookup x hx).1] at hpane'
      exact h.cached x cached pane' hcached hpane' hclean quad hquad
  · intro p hp img himg tex htex hneeded
    rcases hreplenishes img.id tex htex with hwanted | ⟨tex₀, frame, htex₀, rfl⟩
    · exact hwanted
    · rcases hneeded with hgeneration | hserved
      · exact (h.current p hp img himg tex₀ htex₀ (.inl hgeneration)).used frame
      · by_cases hx : p = id
        · subst hx
          exact huploaded img (hshown ▸ himg) _ htex
        · rw [served_congr (hlookup p hx).1 (hlookup p hx).2] at hserved
          exact (h.current p hp img himg tex₀ htex₀ (.inr hserved)).used frame
  · intro quad hquad
    rcases mem_quads_extendFrom hquad with hold | hnew
    · obtain ⟨hp, himg, htexture⟩ := h.quads quad hold
      refine ⟨hp, himg, fun tex htex => ?_⟩
      rcases hreplenishes quad.imageId tex htex with hwanted | ⟨tex₀, frame, htex₀, rfl⟩
      · exact hwanted
      · exact (htexture tex₀ htex₀).used frame
    · obtain ⟨rfl, img, himg, himgid⟩ := mem_fill hnew
      refine ⟨hid, ⟨img, hshown ▸ himg, himgid⟩, fun tex htex => ?_⟩
      rw [← himgid] at htex ⊢
      exact huploaded img himg tex htex

/-- Changes of the textures that upload nothing. -/
theorem Drawing.lingers (h : Drawing f keys pictures onScreen w)
    (hlingers : w.imageTextureCache.Lingers w'.imageTextureCache) (hpanes : w'.panes = w.panes)
    (hcache : ∀ x cached, w'.paneCache.lookup x = some cached → w.paneCache.lookup x = some cached)
    (hprepared : w'.prepared = w.prepared) : Drawing f keys pictures onScreen w' := by
  have hpictures : ∀ x, w'.pictures f x = w.pictures f x := fun x => by
    unfold Window.pictures
    rw [hpanes]
  refine ⟨fun x => (hpictures x).trans (h.shown x), ?_, ?_, ?_⟩
  · intro x cached pane hcached hpane
    rw [hpanes] at hpane
    rw [hpictures]
    exact h.cached x cached pane (hcache x cached hcached) hpane
  · intro p hp img himg tex htex hneeded
    obtain ⟨tex₀, frame, htex₀, rfl⟩ := hlingers img.id tex htex
    refine (h.current p hp img himg tex₀ htex₀ (hneeded.imp id fun hserved => ?_)).used frame
    unfold served cachedFrame at hserved ⊢
    rw [hpanes] at hserved
    cases hpane : w.panes.lookup p with
    | none => rw [hpane] at hserved; cases hserved
    | some pane =>
      rw [hpane, any_some] at hserved
      rw [any_some]
      split at hserved
      · cases hserved
      · next hclean =>
        rw [if_neg hclean]
        obtain ⟨cached, hcached⟩ := isSome_iff_exists.mp hserved
        obtain ⟨hentry, hkey⟩ := filter_eq_some_iff.mp hcached
        exact isSome_iff_exists.mpr ⟨cached, filter_eq_some_iff.mpr ⟨hcache p cached hentry, hkey⟩⟩
  · intro quad hquad
    rw [hprepared] at hquad
    obtain ⟨hp, himg, htexture⟩ := h.quads quad hquad
    refine ⟨hp, himg, fun tex htex => ?_⟩
    obtain ⟨tex₀, frame, htex₀, rfl⟩ := hlingers quad.imageId tex htex
    exact (htexture tex₀ htex₀).used frame

/-- **One pane of a redraw**, prepared or served from its cached frame. -/
theorem Drawing.redrawPane (hagree : Agree pictures onScreen) (h : Drawing f keys pictures onScreen w)
    (hid : id ∈ onScreen) : Drawing f keys pictures onScreen (w.redrawPane f keys id) := by
  unfold Window.redrawPane
  cases hpane : w.panes.lookup id with
  | none => exact h
  | some pane =>
    dsimp only
    cases hcached : w.cachedFrame id pane (keys id) with
    | none => exact h.preparePane hagree hid hpane
    | some cached =>
      have hlingers := lingers_touchCachedPaneImages w cached.prepared
      have htouched : Drawing f keys pictures onScreen (w.touchCachedPaneImages cached.prepared).1 :=
        h.lingers hlingers rfl (fun _ _ hx => hx) rfl
      dsimp only
      split
      · have hserved : w.served keys id = true := by
          unfold served
          rw [hpane, any_some, hcached]
          rfl
        have hclean : pane.snapshotDirty = false ∧ w.paneCache.lookup id = some cached := by
          unfold cachedFrame at hcached
          split at hcached
          · cases hcached
          · next hclean =>
            rw [Bool.not_eq_true] at hclean
            exact ⟨hclean, (filter_eq_some_iff.mp hcached).1⟩
        refine ⟨htouched.shown, htouched.cached, htouched.current, fun quad hquad => ?_⟩
        rcases mem_quads_extendFrom hquad with hold | hnew
        · exact htouched.quads quad hold
        · obtain ⟨rfl, img, himg, himgid⟩ := h.cached id cached pane hclean.2 hpane hclean.1 quad hnew
          rw [h.shown] at himg
          refine ⟨hid, ⟨img, himg, himgid⟩, fun tex htex => ?_⟩
          rw [← himgid] at htex ⊢
          exact htouched.current _ hid img himg tex htex (.inr hserved)
      · refine Drawing.preparePane hagree (h.lingers hlingers rfl (fun x cached' hx => ?_) rfl) hid hpane
        by_cases hxid : x = id
        · have hgone : (w.paneCache.erase id).lookup id = none := AList.lookup_erase ..
          rw [hxid] at hx
          exact absurd (hgone.symm.trans hx) (by simp)
        · exact (AList.lookup_erase_ne hxid).symm.trans hx

theorem Drawing.foldl_redrawPane (hagree : Agree pictures onScreen) (ids : List PaneId)
    (hids : ∀ id ∈ ids, id ∈ onScreen) (h : Drawing f keys pictures onScreen w) :
    Drawing f keys pictures onScreen (ids.foldl (Window.redrawPane f keys) w) := by
  induction ids generalizing w with
  | nil => exact h
  | cons id ids ih =>
    exact ih (fun x hx => hids x (mem_cons_of_mem _ hx))
      (h.redrawPane hagree (hids id (mem_cons_self ..)))

/-! ## Whole redraws and runs -/

theorem redrawPane_lastRenderedPane (f : F32Arith) (keys : PaneId → κ) (w : Window κ) (id : PaneId) :
    (w.redrawPane f keys id).lastRenderedPane = w.lastRenderedPane := by
  unfold redrawPane
  split
  · rfl
  · split
    · dsimp only
      split <;> rfl
    · rfl

/-- **A redraw of several panes.** -/
theorem redrawMultiPane_spec (h : Sound f w) (hmulti : w.multiPane = true) (hundisputed : w.Undisputed f keys) :
    Sound f (w.redrawMultiPane f keys) ∧ (w.redrawMultiPane f keys).DrawsOwn := by
  obtain ⟨hagree, hcurrent⟩ := hundisputed
  have hscreen : w.onScreen = w.visible := if_pos hmulti
  rw [hscreen] at hagree hcurrent
  have hstart : Drawing f keys (w.pictures f) w.visible
      { w with lastRenderedPane := none, imageTextureCache := w.imageTextureCache.beginFrame, prepared := {} } :=
    ⟨fun _ => rfl, h.cached hmulti,
      fun p hp img himg tex htex hneeded => wanted_of_holds hagree hp himg
        (hcurrent p hp img himg tex htex (hneeded.imp id fun hserved => ⟨hmulti, hserved⟩)), nofun⟩
  have hdrawn := hstart.foldl_redrawPane hagree w.visible fun _ hid => hid
  have hlast : (w.visible.foldl (redrawPane f keys)
      { w with lastRenderedPane := none, imageTextureCache := w.imageTextureCache.beginFrame, prepared := {} }
      ).lastRenderedPane = none :=
    run_invariant
      (fun v id hv => (redrawPane_lastRenderedPane f keys v id).trans hv) rfl w.visible
  unfold redrawMultiPane
  dsimp only
  generalize w.visible.foldl (redrawPane f keys)
    { w with lastRenderedPane := none, imageTextureCache := w.imageTextureCache.beginFrame, prepared := {} } = v
    at hdrawn hlast
  have hfinished := hdrawn.lingers (lingers_finishImageFrame v) rfl (fun _ _ hx => hx) rfl
  refine ⟨⟨fun _ => hfinished.cached, fun p pane hp => ?_⟩, drawsOwn_recordImageDraws (f := f) fun quad hquad => ?_⟩
  · have hnone : v.lastRenderedPane = some p := hp
    rw [hlast] at hnone
    cases hnone
  · obtain ⟨hp, ⟨img, himg, hid⟩, hwanted⟩ := hfinished.quads quad hquad
    refine ⟨img, ?_, hid, fun tex htex => hwanted tex htex quad.pane hp img himg hid⟩
    rw [hfinished.shown]
    exact himg

/-- **A redraw of a single pane.** -/
theorem redrawSinglePane_spec (h : Sound f w) (hsingle : w.multiPane = false) (hundisputed : w.Undisputed f keys)
    (unchanged : Bool) :
    Sound f (w.redrawSinglePane f unchanged) ∧ (w.redrawSinglePane f unchanged).DrawsOwn := by
  have hmulti : w.multiPane = true → False := fun hm => by rw [hsingle] at hm; cases hm
  unfold redrawSinglePane
  split
  · exact ⟨⟨fun hm => (hmulti hm).elim, h.shown⟩, nofun⟩
  · next id rest hvisible =>
    have hscreen : w.onScreen = [id] := by
      unfold onScreen
      rw [if_neg (fun hm => hmulti hm), hvisible]
      rfl
    obtain ⟨hagree, hcurrent⟩ := hundisputed
    rw [hscreen] at hagree hcurrent
    dsimp only
    split
    · next hnone =>
      refine ⟨⟨fun hm => (hmulti hm).elim, fun p pane hp hpane => ?_⟩, nofun⟩
      cases hp
      exact absurd (hnone.symm.trans hpane) (by simp)
    · next pane hpane =>
      -- The pane's snapshot was taken; what it shows is the same.
      have hrefreshed : ∀ {w' : Window κ}, w'.panes = w.panes.insert id { pane with snapshotDirty := false } →
          w'.pictures f id = (pane.term.renderableContent f).imageData := fun hpanes =>
        (pictures_refreshed hpane hpanes id).trans (pictures_of_lookup hpane)
      split
      · next hreuse =>
        rw [Bool.and_eq_true, Bool.not_eq_true', Bool.or_eq_false_iff, decide_eq_false_iff_not, not_not] at hreuse
        obtain ⟨⟨hclean, hlast⟩, _⟩ := hreuse
        have hshown := h.shown id pane hlast hpane hclean
        rw [pictures_of_lookup hpane] at hshown
        refine drawn_single hsingle rfl ?_
        rw [hrefreshed rfl]
        exact hshown
      · refine drawn_single hsingle rfl ?_
        rw [hrefreshed rfl]
        exact prepare_spec _ pane hagree hpane fun img himg tex htex hgeneration =>
          hcurrent id (mem_singleton_self id) img himg tex htex (.inl hgeneration)

end Window

namespace WindowOp

variable {κ : Type} [DecidableEq κ]

open Gpu.Window

/-- A redraw finds the image ids undisputed. -/
def Undisputed (f : F32Arith) (w : Window κ) : WindowOp κ → Prop
  | redraw keys _ => w.Undisputed f keys
  | _ => True

/-- A redraw draws every quad with its own pixels. -/
def DrawsOwn (f : F32Arith) (width : Char → Option Nat) (w : Window κ) (op : WindowOp κ) : Prop :=
  match op with
  | redraw .. => (op.apply f width w).DrawsOwn
  | _ => True

/-- **One step.** -/
theorem draws_step {f : F32Arith} (width : Char → Option Nat) {w : Window κ} (h : Sound f w) (op : WindowOp κ)
    (hundisputed : op.Undisputed f w) : Sound f (op.apply f width w) ∧ op.DrawsOwn f width w := by
  cases op with
  | openPane id term => exact ⟨h.changed id term, trivial⟩
  | closePane id visible multiPane => exact ⟨h.closed id visible multiPane, trivial⟩
  | arrange visible multiPane => exact ⟨⟨fun _ => cachedFramesCurrent_of_empty rfl, h.shown⟩, trivial⟩
  | termOp id op =>
    refine ⟨?_, trivial⟩
    unfold apply
    dsimp only
    split
    · next pane _ => exact h.changed id (op.apply width pane.term)
    · exact h
  | setImageGpuMemoryLimit limit =>
    refine ⟨⟨h.cached, fun p pane hlast hpane hclean quad hquad => ?_⟩, trivial⟩
    obtain ⟨hp, img, himg, hid, hholds⟩ := h.shown p pane hlast hpane hclean quad hquad
    refine ⟨hp, img, himg, hid, fun tex htex => ?_⟩
    obtain ⟨tex₀, frame, htex₀, rfl⟩ := ImageTextureCache.lingers_setGpuMemoryLimit _ limit quad.imageId tex htex
    exact hholds tex₀ htex₀
  | redraw keys unchanged =>
    unfold DrawsOwn apply
    dsimp only
    by_cases hmulti : w.multiPane = true
    · rw [if_pos hmulti]
      exact redrawMultiPane_spec h hmulti hundisputed
    · rw [if_neg hmulti]
      exact redrawSinglePane_spec h (Bool.not_eq_true _ ▸ hmulti) hundisputed unchanged

/-- **A texture belongs to the pane that draws it.** In every run of a window whose redraws find the image ids
    undisputed, each redraw draws every quad with the pixels of its own pane's image. -/
theorem draws_run (f : F32Arith) (width : Char → Option Nat) (ops : List (WindowOp κ))
    (h : Along (apply f width) (fun w op => op.Undisputed f w) {} ops) :
    Along (apply f width) (fun w op => op.DrawsOwn f width w) {} ops := by
  have hstart : Sound f ({} : Window κ) := ⟨fun _ => cachedFramesCurrent_of_empty rfl, fun p pane hlast => by cases hlast⟩
  exact h.imp_of_step (I := Sound f) (fun w op hw hop => draws_step width hw op hop) hstart

instance (f : F32Arith) (w : Window κ) (op : WindowOp κ) : Decidable (op.Undisputed f w) := by
  unfold Undisputed
  split
  · unfold Window.Undisputed Agree
    infer_instance
  · infer_instance

/-- The single-precision arithmetic of the machine. -/
def hostF32 : F32Arith where
  ofNat n := (Float32.ofNat n).toBits.toBitVec
  ofInt i := (Float32.ofInt i).toBits.toBitVec
  add a b := (Float32.ofBits ⟨a⟩ + Float32.ofBits ⟨b⟩).toBits.toBitVec
  sub a b := (Float32.ofBits ⟨a⟩ - Float32.ofBits ⟨b⟩).toBits.toBitVec
  mul a b := (Float32.ofBits ⟨a⟩ * Float32.ofBits ⟨b⟩).toBits.toBitVec
  div a b := (Float32.ofBits ⟨a⟩ / Float32.ofBits ⟨b⟩).toBits.toBitVec

/-- A terminal program shows a grey image of one pixel at the top left. -/
def showGrey (pane : PaneId) (id : ImageId) (grey : UInt8) : WindowOp Nat :=
  .termOp pane (.imageOps [
    .store { id, width := 1, height := 1, data := [grey, grey, grey, 255], pixelGeneration := 0, format := .rgba
             source := .direct, lastAccessed := 0, imageNumber := none },
    .place { imageId := id, placementId := none, sourceX := 0, sourceY := 0, sourceW := 0, sourceH := 0, cellCol := 0
             cellRow := ⟨0⟩, cols := 1, rows := 1, zIndex := 0, cellXOffset := 0, cellYOffset := 0
             sizing := .cellCount }])

/-- A tab of two panes. -/
def twoPanes : List (WindowOp Nat) :=
  [.openPane 1 (.new 1 1 0 .dark), .openPane 2 (.new 1 1 0 .dark), .arrange [1, 2] true]

/-- The panes use different ids; the second pane is served from its cached frame in the second redraw. -/
theorem draws_run_twoPanes : Along (apply hostF32 fun _ => some 1) (fun w op => op.DrawsOwn hostF32 (fun _ => some 1) w) {}
    (twoPanes ++ [showGrey 1 1 10, showGrey 2 2 20, .redraw (fun _ => 0) false,
      .termOp 1 .linefeed, .redraw (fun _ => 0) false]) :=
  draws_run hostF32 (fun _ => some 1) _ (by decide +kernel)

/-- Both panes show an image of id 1, the second a brighter one. The window uploads the first, finds a texture of the
    same generation under the id of the second, and draws both panes with the first. -/
theorem pane_draws_other_panes_image :
    ((run (apply hostF32 fun _ => some 1) {} (twoPanes ++ [showGrey 1 1 10, showGrey 2 1 20, .redraw (fun _ => 0) false])
        ).drawn.map fun d => (d.1.pane, d.2.data)) = [(1, [10, 10, 10, 255]), (2, [10, 10, 10, 255])]
      ∧ ¬ Along (apply hostF32 fun _ => some 1) (fun w op => op.DrawsOwn hostF32 (fun _ => some 1) w) {}
          (twoPanes ++ [showGrey 1 1 10, showGrey 2 1 20, .redraw (fun _ => 0) false]) := by
  refine ⟨by decide +kernel, fun h => ?_⟩
  have hstep := along_iff_getElem?.mp h 5 (.redraw (fun _ => 0) false) rfl
  have hsecond : ∃ d ∈ (run (apply hostF32 fun _ => some 1) {} (twoPanes
      ++ [showGrey 1 1 10, showGrey 2 1 20, .redraw (fun _ => 0) false])).drawn, d.1 = ⟨1, 2⟩
        ∧ d.2.data = [10, 10, 10, 255] := by decide +kernel
  obtain ⟨d, hd, hquad, hdata⟩ := hsecond
  obtain ⟨pane, img, hpane, himg, hpixels, _⟩ := hstep d hd
  have hown : ((run (apply hostF32 fun _ => some 1) ({} : Window Nat) (twoPanes
      ++ [showGrey 1 1 10, showGrey 2 1 20, .redraw (fun _ => 0) false])).panes.lookup 2).map
        (fun pane => (pane.term.activeCache.images.lookup 1).map (·.data)) = some (some [20, 20, 20, 255]) := by
    decide +kernel
  rw [hquad] at hpane himg
  have hpane' : (run (apply hostF32 fun _ => some 1) ({} : Window Nat) (twoPanes
      ++ [showGrey 1 1 10, showGrey 2 1 20, .redraw (fun _ => 0) false])).panes.lookup 2 = some pane := hpane
  rw [hpane', map_some, himg, map_some, ← hpixels, hdata] at hown
  revert hown
  decide

end WindowOp

end OriTerm.Gpu
