import OriTerm.Lib.Table
import OriTerm.Mux.ImageCacheLru

/-!
# `Mux.PushedSnapshots` — pushed snapshots on their way into the client

The daemon pushes the snapshots of a pane. The reader thread keeps the newest one of each pane, with the image pixels of
those it replaces merged into it; a render takes it out and caches it, the pixels in the image cache and the rest as the
current snapshot of the pane.

The file compares two clients that receive the same pushes: one drains each push as it comes, the other the single
snapshot that is left at the end. `Lossless` says that nothing is lost by that. The merge carries the pixels of every
push but not its `images_dirty` flag, and an image that is drained early may be evicted before it is placed again:
**`lossless_iff`** says exactly when the two clients agree, and `repaint_lost` gives pushes where they do not.
-/

namespace OriTerm

open Lib List

/-! ## Merging -/

/-- Pixel data as the client keeps it. -/
def WireImageData.decoded (wid : WireImageData) : RenderableImageData where
  id := wid.id
  data := wid.data
  width := wid.width
  height := wid.height
  pixelGeneration := wid.pixelGeneration

/-- Appends the pixels of a push that was not drained to those of the push that replaces it; what the new push brings
    itself wins. -/
def mergeImageDataForward (prior new : PaneSnapshot) : PaneSnapshot :=
  if prior.imageData.isEmpty then new
  else
    let newIds := new.imageData.map (·.id)
    { new with imageData := new.imageData ++ prior.imageData.filter fun wid => wid.id ∉ newIds }

/-! ## The client -/

/-- The part of the client that snapshots pass through: the pushes that wait in the transport, the current snapshots
    without their pixels, the panes to draw again, those whose refresh was requested, the pixels, and the
    `MarkAllDirty` requests that were sent. -/
structure MuxClient where
  pushedSnapshots : Table PaneId PaneSnapshot
  paneSnapshots : Table PaneId PaneSnapshot
  dirtyPanes : Finset PaneId
  pendingRefresh : Finset PaneId
  imageCache : ImageCache
  markAllDirtySent : List PaneId

namespace MuxClient

def new : MuxClient := ⟨∅, ∅, ∅, ∅, .new, []⟩

variable (c : MuxClient) (pane : PaneId)

/-- A `NotifyPaneSnapshot` arrives at the reader thread. -/
def notifyPaneSnapshot (snapshot : PaneSnapshot) : MuxClient :=
  let merged :=
    match c.pushedSnapshots.get pane with
    | some prior => mergeImageDataForward prior snapshot
    | none => snapshot
  { c with pushedSnapshots := c.pushedSnapshots.insert pane merged }

/-- Removes a push: a `NotifyPaneOutput`, or a mutation by the client, made it stale. -/
def invalidatePushedSnapshot : MuxClient := { c with pushedSnapshots := c.pushedSnapshots.erase pane }

/-- Takes a push out of the transport. -/
def takePushedSnapshot : Option PaneSnapshot × MuxClient :=
  (c.pushedSnapshots.get pane, { c with pushedSnapshots := c.pushedSnapshots.erase pane })

/-- What may not be evicted while a snapshot of `pane` is cached: its placements and those of the other panes. -/
def reachable (snapshot : PaneSnapshot) (key : ImageKey) : Bool :=
  if key.1 = pane then snapshot.images.any (·.imageId == key.2)
  else
    match c.paneSnapshots.get key.1 with
    | some snap => snap.images.any (·.imageId == key.2)
    | none => false

/-- Caches a snapshot: the pixels go to the image cache, the rest becomes the current snapshot. -/
def cacheSnapshot (snapshot : PaneSnapshot) : MuxClient :=
  if snapshot.imageData.isEmpty then { c with paneSnapshots := c.paneSnapshots.insert pane snapshot }
  else
    let cache := run (fun cache wid => (cache.insert (pane, wid.id) wid.decoded (c.reachable pane snapshot)).1)
      c.imageCache snapshot.imageData
    { c with
      imageCache := cache
      paneSnapshots := c.paneSnapshots.insert pane { snapshot with imageData := [] } }

/-- Drains the push of a pane before it is rendered. Without one, the current snapshot is stale: a new push is
    requested unless one is on its way. -/
def refreshPaneSnapshot : MuxClient :=
  match c.takePushedSnapshot pane with
  | (some snapshot, c) =>
    let c := c.cacheSnapshot pane snapshot
    { c with pendingRefresh := c.pendingRefresh.erase pane }
  | (none, c) =>
    { c with
      markAllDirtySent := if pane ∈ c.pendingRefresh then c.markAllDirtySent else c.markAllDirtySent ++ [pane]
      pendingRefresh := insert pane c.pendingRefresh
      dirtyPanes := insert pane c.dirtyPanes }

/-- The answer to a synchronous request for the snapshot. -/
def syncPaneSnapshot (snapshot : PaneSnapshot) : MuxClient :=
  let c := c.cacheSnapshot pane snapshot
  { c with pendingRefresh := c.pendingRefresh.erase pane }

/-- Looks the pixels of an image up. -/
def paneImageData (imageId : ImageId) : MuxClient × Option RenderableImageData :=
  let (cache, data) := c.imageCache.get (pane, imageId)
  ({ c with imageCache := cache }, data)

/-- The pane was drawn; it stays dirty while a refresh is outstanding. -/
def clearPaneSnapshotDirty : MuxClient :=
  if pane ∈ c.pendingRefresh then c else { c with dirtyPanes := c.dirtyPanes.erase pane }

/-- Drops all that is kept for a pane. -/
def removeSnapshot : MuxClient where
  pushedSnapshots := c.pushedSnapshots.erase pane
  paneSnapshots := c.paneSnapshots.erase pane
  dirtyPanes := c.dirtyPanes.erase pane
  pendingRefresh := c.pendingRefresh.erase pane
  imageCache := c.imageCache.dropPane pane
  markAllDirtySent := c.markAllDirtySent

/-- A new connection: nothing waits in its transport, nothing is requested, and every pane has to be drawn again. -/
def reconnect : MuxClient :=
  { c with
    pushedSnapshots := ∅
    pendingRefresh := ∅
    dirtyPanes := c.dirtyPanes ∪ c.paneSnapshots.keys
    markAllDirtySent := [] }

end MuxClient

/-- What happens to the snapshots of the client; `subscribed` is the answer to a subscription, `markDirty` what a
    notification of output or a mutation does besides. -/
inductive MuxClientOp where
  | notifyPaneSnapshot (pane : PaneId) (snapshot : PaneSnapshot)
  | invalidatePushedSnapshot (pane : PaneId)
  | refreshPaneSnapshot (pane : PaneId)
  | subscribed (pane : PaneId) (snapshot : PaneSnapshot)
  | syncPaneSnapshot (pane : PaneId) (snapshot : PaneSnapshot)
  | paneImageData (pane : PaneId) (imageId : ImageId)
  | markDirty (pane : PaneId)
  | clearPaneSnapshotDirty (pane : PaneId)
  | removeSnapshot (pane : PaneId)
  | reconnect

namespace MuxClient

def step (c : MuxClient) : MuxClientOp → MuxClient
  | .notifyPaneSnapshot pane snapshot => c.notifyPaneSnapshot pane snapshot
  | .invalidatePushedSnapshot pane => c.invalidatePushedSnapshot pane
  | .refreshPaneSnapshot pane => c.refreshPaneSnapshot pane
  | .subscribed pane snapshot => c.cacheSnapshot pane snapshot
  | .syncPaneSnapshot pane snapshot => c.syncPaneSnapshot pane snapshot
  | .paneImageData pane imageId => (c.paneImageData pane imageId).1
  | .markDirty pane => { c with dirtyPanes := insert pane c.dirtyPanes }
  | .clearPaneSnapshotDirty pane => c.clearPaneSnapshotDirty pane
  | .removeSnapshot pane => c.removeSnapshot pane
  | .reconnect => c.reconnect

end MuxClient

/-! ## What a frame shows -/

def WirePlacement.toRenderable (wp : WirePlacement) : RenderablePlacement where
  imageId := wp.imageId
  viewportX := wp.viewportX
  viewportY := wp.viewportY
  displayWidth := wp.displayWidth
  displayHeight := wp.displayHeight
  sourceX := wp.sourceX
  sourceY := wp.sourceY
  sourceW := wp.sourceW
  sourceH := wp.sourceH
  zIndex := wp.zIndex
  opacity := wp.opacity

/-- The loop over the placements: the images met so far, the pixels and the placements of the frame. -/
structure ImageFill where
  met : Finset ImageId
  imageData : List RenderableImageData
  images : List RenderablePlacement

/-- One placement: an image met for the first time is looked up, and without pixels the placement is skipped. -/
def ImageFill.place (imageLookup : ImageId → Option RenderableImageData) (st : ImageFill) (wp : WirePlacement) :
    ImageFill :=
  if wp.imageId ∈ st.met then { st with images := st.images ++ [wp.toRenderable] }
  else
    let st := { st with met := insert wp.imageId st.met }
    match imageLookup wp.imageId with
    | some data => { st with imageData := st.imageData ++ [data], images := st.images ++ [wp.toRenderable] }
    | none => st

/-- Fills the images of a frame from a snapshot, whose own pixels come before those of the lookup. -/
def populateImagesFromWire (snapshot : PaneSnapshot) (content : RenderableContent)
    (imageLookup : ImageId → Option RenderableImageData) : RenderableContent :=
  if snapshot.images.isEmpty then
    { content with images := [], imageData := [], imagesDirty := snapshot.imagesDirty }
  else
    let inline : ImageFill := ⟨(snapshot.imageData.map (·.id)).toFinset, snapshot.imageData.map (·.decoded), []⟩
    let filled := run (ImageFill.place imageLookup) inline snapshot.images
    { content with images := filled.images, imageData := filled.imageData, imagesDirty := snapshot.imagesDirty }

/-- The damage and the images of a frame drawn from a snapshot: a snapshot carries no damage of single lines, so all of
    it is drawn again. -/
def refillFromSnapshot (snapshot : PaneSnapshot) (out : RenderableContent)
    (imageLookup : ImageId → Option RenderableImageData) : RenderableContent :=
  populateImagesFromWire snapshot { out with allDirty := true, damage := [] } imageLookup

section

variable (snapshot : PaneSnapshot) (out : RenderableContent) (imageLookup : ImageId → Option RenderableImageData)

theorem allDirty_refillFromSnapshot : (refillFromSnapshot snapshot out imageLookup).allDirty = true := by
  unfold refillFromSnapshot populateImagesFromWire
  split <;> rfl

theorem imagesDirty_refillFromSnapshot :
    (refillFromSnapshot snapshot out imageLookup).imagesDirty = snapshot.imagesDirty := by
  unfold refillFromSnapshot populateImagesFromWire
  split <;> rfl

end

namespace MuxClient

variable {c' : MuxClient}

/-- Pixels that the client has for an image of a pane. -/
def pixels (c : MuxClient) (pane : PaneId) (imageId : ImageId) : Option RenderableImageData :=
  c.imageCache.images.lookup (pane, imageId)

/-- The damage and the images of a frame of the pane, drawn over an older one. -/
def frame (c : MuxClient) (pane : PaneId) (out : RenderableContent) : Option RenderableContent :=
  (c.paneSnapshots.get pane).map fun snapshot => refillFromSnapshot snapshot out (c.pixels pane)

/-! ## Two ways to drain -/

/-- Every push is drained before the next one comes. -/
def drainInOrder (c : MuxClient) (pane : PaneId) (pushes : List PaneSnapshot) : MuxClient :=
  run (fun c snapshot => (c.notifyPaneSnapshot pane snapshot).refreshPaneSnapshot pane) c pushes

/-- All pushes come before the client drains what is left of them. -/
def drainCoalesced (c : MuxClient) (pane : PaneId) (pushes : List PaneSnapshot) : MuxClient :=
  (run (fun c snapshot => c.notifyPaneSnapshot pane snapshot) c pushes).refreshPaneSnapshot pane

/-- A snapshot but for its `images_dirty` flag. -/
def unflagged (snapshot : PaneSnapshot) : PaneSnapshot := { snapshot with imagesDirty := false }

/-- **Nothing is lost**: the client that drained once is in the state of the one that drained every push. -/
structure Lossless (c : MuxClient) (pane : PaneId) (pushes : List PaneSnapshot) : Prop where
  /-- The current snapshots, `images_dirty` aside. -/
  snapshots : ∀ p, ((c.drainCoalesced pane pushes).paneSnapshots.get p).map unflagged =
    ((c.drainInOrder pane pushes).paneSnapshots.get p).map unflagged
  /-- The pixels of every placement. -/
  pixels : ∀ p snapshot, (c.drainInOrder pane pushes).paneSnapshots.get p = some snapshot → ∀ w ∈ snapshot.images,
    (c.drainCoalesced pane pushes).pixels p w.imageId = (c.drainInOrder pane pushes).pixels p w.imageId
  /-- `images_dirty` of the frame and its damage, if any of the pushes says so. -/
  repainted : (∃ push ∈ pushes, push.imagesDirty = true) → ∀ out, ∃ content,
    (c.drainCoalesced pane pushes).frame pane out = some content ∧ content.imagesDirty = true ∧
      ∀ line col, content.damaged line col = true
  /-- What else the client keeps. -/
  rest : (c.drainCoalesced pane pushes).pushedSnapshots = (c.drainInOrder pane pushes).pushedSnapshots ∧
    (c.drainCoalesced pane pushes).dirtyPanes = (c.drainInOrder pane pushes).dirtyPanes ∧
    (c.drainCoalesced pane pushes).pendingRefresh = (c.drainInOrder pane pushes).pendingRefresh ∧
    (c.drainCoalesced pane pushes).markAllDirtySent = (c.drainInOrder pane pushes).markAllDirtySent

/-! ## Deliveries -/

/-- Pixels on their way into the cache, with what may not be evicted for them. -/
structure Delivery where
  image : WireImageData
  reachable : ImageKey → Bool

variable {pane : PaneId} {cache : ImageCache}

/-- One delivery. -/
def deliver (pane : PaneId) (cache : ImageCache) (d : Delivery) : ImageCache :=
  (cache.insert (pane, d.image.id) d.image.decoded d.reachable).1

/-- The deliveries of a snapshot. -/
def deliveries (c : MuxClient) (pane : PaneId) (snapshot : PaneSnapshot) : List Delivery :=
  snapshot.imageData.map fun wid => ⟨wid, c.reachable pane snapshot⟩

/-- The delivery evicts an image: it goes over the cap, and so it does without the unreachable entries that were used
    before the image. -/
def Evicts (pane : PaneId) (cache : ImageCache) (d : Delivery) (imageId : ImageId) : Prop :=
  (cache.stored (pane, d.image.id) d.image.decoded).Squeezed d.reachable (pane, imageId)

instance (pane : PaneId) (cache : ImageCache) (d : Delivery) (imageId : ImageId) :
    Decidable (Evicts pane cache d imageId) := inferInstanceAs (Decidable (ImageCache.Squeezed ..))

/-- **An image gets lost** on the way: it is evicted and not delivered again. -/
def Lost (pane : PaneId) (imageId : ImageId) : ImageCache → List Delivery → Prop
  | _, [] => False
  | cache, d :: ds =>
    (Evicts pane cache d imageId ∧ ∀ d' ∈ ds, d'.image.id ≠ imageId) ∨ Lost pane imageId (deliver pane cache d) ds

instance decidableLost (pane : PaneId) (imageId : ImageId) :
    ∀ (cache : ImageCache) (ds : List Delivery), Decidable (Lost pane imageId cache ds)
  | _, [] => isFalse id
  | cache, d :: ds => @instDecidableOr _ _ _ (decidableLost pane imageId (deliver pane cache d) ds)

/-- The pixels that come last for an image. -/
def newest (imageId : ImageId) (images : List WireImageData) : Option WireImageData :=
  (images.filter (·.id = imageId)).getLast?

theorem newest_append (imageId : ImageId) (xs ys : List WireImageData) :
    newest imageId (xs ++ ys) = (newest imageId ys).or (newest imageId xs) := by
  unfold newest
  rw [filter_append, getLast?_append]

theorem newest_eq_none {imageId : ImageId} {images : List WireImageData} (h : ∀ wid ∈ images, wid.id ≠ imageId) :
    newest imageId images = none := by
  unfold newest
  rw [filter_eq_nil_iff.mpr fun wid hwid => by simpa using h wid hwid]
  rfl

theorem isSome_newest {imageId : ImageId} {images : List WireImageData} {wid : WireImageData} (hwid : wid ∈ images)
    (hid : wid.id = imageId) : (newest imageId images).isSome := by
  unfold newest
  rw [getLast?_isSome]
  exact ne_nil_of_mem (mem_filter.mpr ⟨hwid, decide_eq_true hid⟩)

/-- **The merge keeps what comes last** for every image. -/
theorem newest_mergeImageDataForward (imageId : ImageId) (prior new : PaneSnapshot) :
    newest imageId (mergeImageDataForward prior new).imageData =
      (newest imageId new.imageData).or (newest imageId prior.imageData) := by
  unfold mergeImageDataForward
  split
  · next hempty =>
    rw [isEmpty_iff.mp hempty]
    exact (Option.or_none).symm
  · rw [newest_append]
    by_cases hnew : ∃ wid ∈ new.imageData, wid.id = imageId
    · -- the new push brings the image: the prior one is filtered out
      obtain ⟨wid, hwid, hid⟩ := hnew
      rw [newest_eq_none]
      · obtain ⟨latest, hlatest⟩ := Option.isSome_iff_exists.mp (isSome_newest hwid hid)
        rw [hlatest]
        rfl
      · intro old hold heq
        have hfresh := (mem_filter.mp hold).2
        rw [decide_eq_true_eq, mem_map, not_exists] at hfresh
        exact hfresh wid ⟨hwid, hid.trans heq.symm⟩
    · have hnone : newest imageId new.imageData = none :=
        newest_eq_none fun wid hwid hid => hnew ⟨wid, hwid, hid⟩
      rw [hnone, Option.or_none]
      unfold newest
      rw [filter_filter]
      congr 1
      refine filter_congr fun wid _ => ?_
      rw [Bool.eq_iff_iff, Bool.and_eq_true, decide_eq_true_eq, decide_eq_true_eq]
      refine ⟨fun hboth => hboth.1, fun hid => ⟨hid, fun hmem => ?_⟩⟩
      obtain ⟨fresh, hfresh, heq⟩ := mem_map.mp hmem
      exact hnew ⟨fresh, hfresh, heq.trans hid⟩

section

variable {uses : List ImageKey} {imageId : ImageId}

variable {ds : List Delivery}

theorem inStep_deliver (h : cache.InStep uses) (d : Delivery) :
    (deliver pane cache d).InStep (uses ++ [(pane, d.image.id)]) := h.insert _ _ _

/-- What one delivery leaves for an image. -/
theorem lookup_deliver (h : cache.InStep uses) (d : Delivery) (imageId : ImageId) :
    (deliver pane cache d).images.lookup (pane, imageId) =
      if Evicts pane cache d imageId then none
      else if imageId = d.image.id then some d.image.decoded else cache.images.lookup (pane, imageId) := by
  unfold deliver Evicts
  rw [ImageCache.lookup_insert]
  have hkey : (pane, imageId) = (pane, d.image.id) ↔ imageId = d.image.id := by
    rw [Prod.mk.injEq, and_iff_right rfl]
  refine if_congr (ImageCache.mem_insert_iff h _ _ _ _) rfl ?_
  exact if_congr hkey rfl rfl

/-- What the cache holds for an image in the end if it is not lost. -/
def expected (pane : PaneId) (imageId : ImageId) (cache : ImageCache) (images : List WireImageData) :
    Option RenderableImageData :=
  ((newest imageId images).map (·.decoded)).or (cache.images.lookup (pane, imageId))

theorem expected_cons (cache : ImageCache) (wid : WireImageData) (images : List WireImageData) :
    expected pane imageId cache (wid :: images) =
      ((newest imageId images).map (·.decoded)).or
        (if imageId = wid.id then some wid.decoded else cache.images.lookup (pane, imageId)) := by
  unfold expected
  rw [show wid :: images = [wid] ++ images from rfl, newest_append]
  cases newest imageId images with
  | some latest => rfl
  | none =>
    by_cases hid : imageId = wid.id
    · have hone : newest imageId [wid] = some wid := by
        unfold newest
        rw [filter_eq_self.mpr fun w hw => decide_eq_true (mem_singleton.mp hw ▸ hid.symm)]
        rfl
      rw [hone, if_pos hid]
      rfl
    · have hone : newest imageId [wid] = none :=
        newest_eq_none fun w hw heq => hid (by rw [← heq, mem_singleton.mp hw])
      rw [hone, if_neg hid]
      rfl

/-- **An image is there in the end unless it was lost.** -/
theorem lookup_run_deliver (h : cache.InStep uses) (ds : List Delivery) :
    (run (deliver pane) cache ds).images.lookup (pane, imageId) =
      if Lost pane imageId cache ds then none else expected pane imageId cache (ds.map (·.image)) := by
  induction ds generalizing cache uses with
  | nil => rfl
  | cons d ds ih =>
    rw [run_cons, ih (inStep_deliver h d), map_cons, expected_cons]
    unfold expected
    rw [lookup_deliver h]
    by_cases hlater : ∃ d' ∈ ds, d'.image.id = imageId
    · -- a later delivery decides
      obtain ⟨d', hd', hid⟩ := hlater
      obtain ⟨latest, hlatest⟩ := Option.isSome_iff_exists.mp (isSome_newest (mem_map_of_mem hd') hid)
      have hlost : Lost pane imageId cache (d :: ds) ↔ Lost pane imageId (deliver pane cache d) ds :=
        or_iff_right fun hgone => hgone.2 d' hd' hid
      simp only [hlatest, hlost]
      rfl
    · have hnone : newest imageId (ds.map (·.image)) = none := by
        refine newest_eq_none fun wid hwid hid => ?_
        obtain ⟨d', hd', rfl⟩ := mem_map.mp hwid
        exact hlater ⟨d', hd', hid⟩
      rw [hnone]
      by_cases hevicts : Evicts pane cache d imageId
      · rw [if_pos (show Lost pane imageId cache (d :: ds) from
          .inl ⟨hevicts, fun d' hd' hid => hlater ⟨d', hd', hid⟩⟩), if_pos hevicts]
        exact ite_self none
      · have hlost : Lost pane imageId cache (d :: ds) ↔ Lost pane imageId (deliver pane cache d) ds :=
          or_iff_right fun hgone => hevicts hgone.1
        simp [hlost, if_neg hevicts]

/-- Only an image that would have been there can be lost. -/
theorem isSome_expected_of_lost (h : cache.InStep uses) (hlost : Lost pane imageId cache ds) :
    (expected pane imageId cache (ds.map (·.image))).isSome := by
  induction ds generalizing cache uses with
  | nil => exact hlost.elim
  | cons d ds ih =>
    rw [map_cons, expected_cons]
    rcases hlost with ⟨hevicts, -⟩ | hlost
    · -- what is evicted was in the cache
      have hheld := ((h.stored (pane, d.image.id) d.image.decoded).mem_lru _).mp hevicts.1
      unfold ImageCache.Holds ImageCache.stored at hheld
      by_cases hid : imageId = d.image.id
      · rw [if_pos hid]
        cases newest imageId (ds.map (·.image)) <;> rfl
      · rw [AList.lookup_insert_ne (by simpa using hid)] at hheld
        rw [if_neg hid, Option.isSome_or, hheld, Bool.or_true]
    · have hrest := ih (inStep_deliver h d) hlost
      unfold expected at hrest
      rw [Option.isSome_or, Bool.or_eq_true] at hrest ⊢
      refine hrest.imp_right fun hheld => ?_
      rw [lookup_deliver h] at hheld
      split at hheld
      · cases hheld
      · exact hheld

/-- An image that every delivery has to spare is not lost. -/
theorem not_lost (hspared : ∀ d ∈ ds, d.reachable (pane, imageId) = true) :
    ¬ Lost pane imageId cache ds := by
  induction ds generalizing cache with
  | nil => exact id
  | cons d ds ih =>
    rintro (⟨hevicts, -⟩ | hlost)
    · have hunreachable := hevicts.2.1
      rw [hspared d (mem_cons_self ..)] at hunreachable
      cases hunreachable
    · exact ih (fun d' hd' => hspared d' (mem_cons_of_mem _ hd')) hlost

/-- The images of another pane stay where every delivery has to spare them. -/
theorem lookup_run_deliver_other {key : ImageKey} (hkey : key.1 ≠ pane) (hspared : ∀ d ∈ ds, d.reachable key = true) :
    (run (deliver pane) cache ds).images.lookup key = cache.images.lookup key := by
  induction ds generalizing cache with
  | nil => rfl
  | cons d ds ih =>
    rw [run_cons, ih fun d' hd' => hspared d' (mem_cons_of_mem _ hd')]
    unfold deliver
    rw [ImageCache.lookup_insert, if_neg, if_neg]
    · rintro rfl
      exact hkey rfl
    · intro hevicted
      have hunreachable := ImageCache.not_reachable_of_mem_insert hevicted
      rw [hspared d (mem_cons_self ..)] at hunreachable
      cases hunreachable

end

/-! ## What the two clients end up with -/

variable {c : MuxClient}

/-- Caching a snapshot, in one piece. -/
theorem cacheSnapshot_eq (c : MuxClient) (pane : PaneId) (snapshot : PaneSnapshot) :
    c.cacheSnapshot pane snapshot =
      { c with
        imageCache := run (deliver pane) c.imageCache (c.deliveries pane snapshot)
        paneSnapshots := c.paneSnapshots.insert pane { snapshot with imageData := [] } } := by
  unfold cacheSnapshot
  split
  · next hempty =>
    have hnil : snapshot.imageData = [] := isEmpty_iff.mp hempty
    have hbare : snapshot = { snapshot with imageData := [] } := by rw [← hnil]
    unfold deliveries
    rw [hnil, ← hbare]
    rfl
  · unfold deliveries run deliver
    rw [foldl_map]

/-- What may not be evicted depends on the other panes only. -/
theorem reachable_congr (h : ∀ p, p ≠ pane → c'.paneSnapshots.get p = c.paneSnapshots.get p)
    (snapshot : PaneSnapshot) : c'.reachable pane snapshot = c.reachable pane snapshot := by
  funext key
  unfold reachable
  by_cases hkey : key.1 = pane
  · rw [if_pos hkey, if_pos hkey]
  · rw [if_neg hkey, if_neg hkey, h key.1 hkey]

/-- A push that is alone in the transport is drained like an answer. -/
theorem refresh_pushed (hdrained : c.pushedSnapshots.get pane = none) {waiting : Table PaneId PaneSnapshot}
    {snapshot : PaneSnapshot} (hpane : waiting.get pane = some snapshot)
    (hothers : ∀ p, p ≠ pane → waiting.get p = c.pushedSnapshots.get p) :
    refreshPaneSnapshot { c with pushedSnapshots := waiting } pane = c.syncPaneSnapshot pane snapshot := by
  have herased : waiting.erase pane = c.pushedSnapshots := by
    refine Table.ext fun p => ?_
    rw [Table.get_erase]
    by_cases hp : p = pane
    · rw [if_pos hp, hp, hdrained]
    · rw [if_neg hp, hothers p hp]
  unfold refreshPaneSnapshot takePushedSnapshot
  rw [hpane, herased]
  rfl

theorem notifyPaneSnapshot_drained (hdrained : c.pushedSnapshots.get pane = none) (snapshot : PaneSnapshot) :
    (c.notifyPaneSnapshot pane snapshot).refreshPaneSnapshot pane = c.syncPaneSnapshot pane snapshot := by
  unfold notifyPaneSnapshot
  rw [hdrained]
  refine refresh_pushed hdrained ?_ fun p hp => ?_
  · rw [Table.get_insert, if_pos rfl]
  · rw [Table.get_insert, if_neg hp]

/-- The state of `c` after draining the deliveries `ds` for `pane`, its current snapshot aside. -/
structure Drained (c c' : MuxClient) (pane : PaneId) (ds : List Delivery) : Prop where
  cache : c'.imageCache = run (deliver pane) c.imageCache ds
  others : ∀ p, p ≠ pane → c'.paneSnapshots.get p = c.paneSnapshots.get p
  pushed : c'.pushedSnapshots = c.pushedSnapshots
  dirty : c'.dirtyPanes = c.dirtyPanes
  pending : c'.pendingRefresh.erase pane = c.pendingRefresh.erase pane
  sent : c'.markAllDirtySent = c.markAllDirtySent

theorem Drained.refl (c : MuxClient) (pane : PaneId) : Drained c c pane [] :=
  ⟨rfl, fun _ _ => rfl, rfl, rfl, rfl, rfl⟩

theorem Drained.sync {ds : List Delivery} (h : Drained c c' pane ds) (snapshot : PaneSnapshot) :
    Drained c (c'.syncPaneSnapshot pane snapshot) pane (ds ++ c.deliveries pane snapshot) := by
  unfold syncPaneSnapshot
  rw [cacheSnapshot_eq]
  refine ⟨?_, fun p hp => ?_, h.pushed, h.dirty, ?_, h.sent⟩
  · unfold deliveries
    rw [h.cache, run_append, reachable_congr h.others]
  · rw [Table.get_insert, if_neg hp]
    exact h.others p hp
  · rw [Finset.erase_idem]
    exact h.pending

section

variable (hdrained : c.pushedSnapshots.get pane = none) (pushes : List PaneSnapshot)
include hdrained

/-- **The client that drains every push.** -/
theorem drained_inOrder : Drained c (c.drainInOrder pane pushes) pane (pushes.flatMap (c.deliveries pane)) := by
  induction pushes using List.reverseRecOn with
  | nil => exact Drained.refl c pane
  | append_singleton pushes last ih =>
    have hstep := notifyPaneSnapshot_drained (ih.pushed ▸ hdrained) last
    unfold drainInOrder at hstep ⊢
    rw [run_append, run_cons, hstep, flatMap_append, flatMap_singleton]
    exact ih.sync last

/-- The last push is drained like an answer. -/
theorem drainInOrder_concat (last : PaneSnapshot) :
    c.drainInOrder pane (pushes ++ [last]) = (c.drainInOrder pane pushes).syncPaneSnapshot pane last := by
  have hstep := notifyPaneSnapshot_drained
    ((drained_inOrder hdrained pushes).pushed ▸ hdrained) last
  unfold drainInOrder at hstep ⊢
  rw [run_append, run_cons, run_nil, hstep]

end

theorem current_syncPaneSnapshot (c : MuxClient) (pane : PaneId) (snapshot : PaneSnapshot) :
    (c.syncPaneSnapshot pane snapshot).paneSnapshots.get pane = some { snapshot with imageData := [] } := by
  unfold syncPaneSnapshot
  rw [cacheSnapshot_eq]
  rw [Table.get_insert, if_pos rfl]

theorem current_drainInOrder (hdrained : c.pushedSnapshots.get pane = none) (pushes : List PaneSnapshot)
    (last : PaneSnapshot) :
    (c.drainInOrder pane (pushes ++ [last])).paneSnapshots.get pane = some { last with imageData := [] } := by
  rw [drainInOrder_concat hdrained]
  exact current_syncPaneSnapshot ..

/-- The pushes that wait for `pane` in the transport, merged into one. -/
structure Waiting (c c' : MuxClient) (pane : PaneId) (pushes : List PaneSnapshot) : Prop where
  same : c' = { c with pushedSnapshots := c'.pushedSnapshots }
  others : ∀ p, p ≠ pane → c'.pushedSnapshots.get p = c.pushedSnapshots.get p
  images : ∀ imageId, ((c'.pushedSnapshots.get pane).bind fun snapshot => newest imageId snapshot.imageData) =
    newest imageId (pushes.flatMap (·.imageData))

/-- **One more push**: its own fields, and for every image the pixels that come last. -/
theorem Waiting.notify {pushes : List PaneSnapshot} (h : Waiting c c' pane pushes) (last : PaneSnapshot) :
    Waiting c (c'.notifyPaneSnapshot pane last) pane (pushes ++ [last]) ∧
      ∃ images, (c'.notifyPaneSnapshot pane last).pushedSnapshots.get pane = some { last with imageData := images } := by
  have hflat : (pushes ++ [last]).flatMap (·.imageData) = pushes.flatMap (·.imageData) ++ last.imageData := by
    rw [flatMap_append, flatMap_singleton]
  unfold notifyPaneSnapshot
  refine ⟨⟨?_, fun p hp => ?_, fun imageId => ?_⟩, ?_⟩
  · rw [h.same]
  · rw [Table.get_insert, if_neg hp]
    exact h.others p hp
  · rw [Table.get_insert, if_pos rfl, hflat, newest_append, ← h.images]
    cases c'.pushedSnapshots.get pane with
    | none => exact (Option.or_none).symm
    | some prior => exact newest_mergeImageDataForward imageId prior last
  · rw [Table.get_insert, if_pos rfl]
    cases c'.pushedSnapshots.get pane with
    | none => exact ⟨last.imageData, rfl⟩
    | some prior =>
      dsimp only
      unfold mergeImageDataForward
      split
      · exact ⟨last.imageData, rfl⟩
      · exact ⟨_, rfl⟩

/-- **The client that drains once** caches the last push, with the pixels of all of them. -/
theorem drainCoalesced_eq (hdrained : c.pushedSnapshots.get pane = none) (pushes : List PaneSnapshot)
    (last : PaneSnapshot) : ∃ images,
    (∀ imageId, newest imageId images = newest imageId ((pushes ++ [last]).flatMap (·.imageData))) ∧
    c.drainCoalesced pane (pushes ++ [last]) = c.syncPaneSnapshot pane { last with imageData := images } := by
  have hwaiting : Waiting c (run (fun c snapshot => c.notifyPaneSnapshot pane snapshot) c pushes) pane pushes := by
    induction pushes using List.reverseRecOn with
    | nil =>
      refine ⟨rfl, fun _ _ => rfl, fun imageId => ?_⟩
      rw [run_nil, hdrained]
      rfl
    | append_singleton pushes push ih =>
      rw [run_append]
      exact (ih.notify push).1
  obtain ⟨hall, images, hpane⟩ := hwaiting.notify last
  refine ⟨images, fun imageId => ?_, ?_⟩
  · rw [← hall.images, hpane]
    rfl
  · unfold drainCoalesced
    rw [run_append, run_cons, hall.same]
    exact refresh_pushed hdrained hpane hall.others

/-- The pushes' own placements are spared by the delivery of the last one. -/
theorem spared_deliveries {last : PaneSnapshot} {w : WirePlacement} (hw : w ∈ last.images) (images : List WireImageData) :
    ∀ d ∈ c.deliveries pane { last with imageData := images }, d.reachable (pane, w.imageId) = true := by
  intro d hd
  obtain ⟨wid, -, rfl⟩ := mem_map.mp hd
  show (if pane = pane then _ else _) = true
  rw [if_pos rfl]
  exact any_eq_true.mpr ⟨w, hw, beq_self_eq_true _⟩

/-- The placements of the other panes are spared by every delivery. -/
theorem spared_others {p : PaneId} (hp : p ≠ pane) {snapshot : PaneSnapshot} (hsnapshot : c.paneSnapshots.get p = some snapshot)
    {w : WirePlacement} (hw : w ∈ snapshot.images) (push : PaneSnapshot) :
    ∀ d ∈ c.deliveries pane push, d.reachable (p, w.imageId) = true := by
  intro d hd
  obtain ⟨wid, -, rfl⟩ := mem_map.mp hd
  show (if p = pane then _ else _) = true
  rw [if_neg hp, hsnapshot]
  exact any_eq_true.mpr ⟨w, hw, beq_self_eq_true _⟩

theorem images_deliveries (c : MuxClient) (pane : PaneId) (snapshot : PaneSnapshot) :
    (c.deliveries pane snapshot).map (·.image) = snapshot.imageData := by
  unfold deliveries
  rw [map_map]
  exact map_id _

theorem images_flatMap_deliveries (c : MuxClient) (pane : PaneId) (pushes : List PaneSnapshot) :
    (pushes.flatMap (c.deliveries pane)).map (·.image) = pushes.flatMap (·.imageData) := by
  rw [map_flatMap]
  exact flatMap_congr fun push _ => images_deliveries c pane push

/-- The image cache of a client keeps its views together, whatever happens to the client. -/
theorem inStep_run_deliver {uses : List ImageKey} (h : c.imageCache.InStep uses) (ds : List Delivery) :
    ∃ uses, (run (deliver pane) c.imageCache ds).InStep uses :=
  run_invariant (I := fun cache : ImageCache => ∃ uses, cache.InStep uses)
    (fun _ d ⟨_, hcache⟩ => ⟨_, inStep_deliver hcache d⟩) ⟨uses, h⟩ ds

theorem inStep_cacheSnapshot {uses : List ImageKey} (h : c.imageCache.InStep uses) (pane : PaneId) (snapshot : PaneSnapshot) :
    ∃ uses, (c.cacheSnapshot pane snapshot).imageCache.InStep uses := by
  rw [cacheSnapshot_eq]
  exact inStep_run_deliver h _

theorem inStep_step (h : ∃ uses, c.imageCache.InStep uses) (op : MuxClientOp) :
    ∃ uses, (c.step op).imageCache.InStep uses := by
  obtain ⟨uses, h⟩ := h
  cases op with
  | notifyPaneSnapshot | invalidatePushedSnapshot | markDirty | reconnect => exact ⟨uses, h⟩
  | refreshPaneSnapshot pane =>
    show ∃ uses, (c.refreshPaneSnapshot pane).imageCache.InStep uses
    unfold refreshPaneSnapshot takePushedSnapshot
    cases c.pushedSnapshots.get pane with
    | some snapshot =>
      exact inStep_cacheSnapshot (c := { c with pushedSnapshots := c.pushedSnapshots.erase pane }) h pane snapshot
    | none => exact ⟨uses, h⟩
  | subscribed pane snapshot | syncPaneSnapshot pane snapshot => exact inStep_cacheSnapshot h pane snapshot
  | paneImageData pane imageId => exact ⟨_, h.get (pane, imageId)⟩
  | clearPaneSnapshotDirty pane =>
    show ∃ uses, (c.clearPaneSnapshotDirty pane).imageCache.InStep uses
    refine ⟨uses, ?_⟩
    unfold clearPaneSnapshotDirty
    split <;> exact h
  | removeSnapshot pane => exact ⟨uses, h.dropPane pane⟩

theorem inStep_run_step (ops : List MuxClientOp) : ∃ uses, (run step new ops).imageCache.InStep uses :=
  run_invariant (I := fun c : MuxClient => ∃ uses, c.imageCache.InStep uses) (fun _ op h => inStep_step h op)
    ⟨[], ImageCache.inStep_withMemoryCap _⟩ ops

/-- **When coalescing loses nothing.** In every client that any run leads to, pushes for a pane may be drained at once
    instead of one by one exactly if the last one has `images_dirty` set where any of them has, and no image that it
    places is evicted after its last delivery while the pushes are drained one by one. -/
theorem lossless_iff (ops : List MuxClientOp) (pane : PaneId) (pushes : List PaneSnapshot) (last : PaneSnapshot)
    (hdrained : (run step new ops).pushedSnapshots.get pane = none) :
    Lossless (run step new ops) pane (pushes ++ [last]) ↔
      ((∃ push ∈ pushes, push.imagesDirty = true) → last.imagesDirty = true) ∧
        ∀ w ∈ last.images, ¬ Lost pane w.imageId (run step new ops).imageCache
          ((pushes ++ [last]).flatMap ((run step new ops).deliveries pane)) := by
  obtain ⟨uses, hcache⟩ := inStep_run_step ops
  generalize run step new ops = c at hdrained hcache ⊢
  obtain ⟨images, hnewest, heq⟩ := drainCoalesced_eq hdrained pushes last
  have hinOrder := drained_inOrder hdrained (pushes ++ [last])
  have hcoalesced : Drained c (c.drainCoalesced pane (pushes ++ [last])) pane
      (c.deliveries pane { last with imageData := images }) := by
    rw [heq]
    exact (Drained.refl c pane).sync _
  have hcurrent : (c.drainCoalesced pane (pushes ++ [last])).paneSnapshots.get pane =
      some { last with imageData := [] } := by
    rw [heq]
    exact current_syncPaneSnapshot ..
  have hcurrent' := current_drainInOrder hdrained pushes last
  -- the pixels of a placement of the last push, in either client
  have hpixels : ∀ w ∈ last.images, (c.drainCoalesced pane (pushes ++ [last])).pixels pane w.imageId =
      expected pane w.imageId c.imageCache ((pushes ++ [last]).flatMap (·.imageData)) := by
    intro w hw
    unfold MuxClient.pixels
    rw [hcoalesced.cache, lookup_run_deliver hcache, if_neg (not_lost (spared_deliveries hw images)), images_deliveries]
    unfold expected
    rw [hnewest]
  have hpixels' : ∀ w : WirePlacement, (c.drainInOrder pane (pushes ++ [last])).pixels pane w.imageId =
      if Lost pane w.imageId c.imageCache ((pushes ++ [last]).flatMap (c.deliveries pane)) then none
      else expected pane w.imageId c.imageCache ((pushes ++ [last]).flatMap (·.imageData)) := by
    intro w
    unfold MuxClient.pixels
    rw [hinOrder.cache, lookup_run_deliver hcache, images_flatMap_deliveries]
  constructor
  · intro h
    refine ⟨?_, fun w hw hlost => ?_⟩
    · rintro ⟨push, hpush, hdirty⟩
      obtain ⟨content, hframe, hflag, -⟩ := h.repainted ⟨push, mem_append_left _ hpush, hdirty⟩ {}
      unfold MuxClient.frame at hframe
      rw [hcurrent, Option.map_some, Option.some.injEq] at hframe
      rw [← hframe, imagesDirty_refillFromSnapshot] at hflag
      exact hflag
    · -- the client that drains once has the pixels, the other one does not
      have hsome := isSome_expected_of_lost hcache hlost
      have hsame := h.pixels pane _ hcurrent' w hw
      rw [hpixels w hw, hpixels' w, if_pos hlost] at hsame
      rw [images_flatMap_deliveries, hsame] at hsome
      cases hsome
  · rintro ⟨hflag, hkept⟩
    refine ⟨fun p => ?_, fun p snapshot hsnapshot w hw => ?_, fun hdirty out => ?_, ?_⟩
    · by_cases hp : p = pane
      · rw [hp, hcurrent, hcurrent']
      · rw [hcoalesced.others p hp, hinOrder.others p hp]
    · by_cases hp : p = pane
      · subst hp
        rw [hcurrent', Option.some.injEq] at hsnapshot
        subst hsnapshot
        rw [hpixels w hw, hpixels' w, if_neg (hkept w hw)]
      · rw [hinOrder.others p hp] at hsnapshot
        unfold MuxClient.pixels
        rw [hcoalesced.cache, hinOrder.cache, lookup_run_deliver_other hp (spared_others hp hsnapshot hw _),
          lookup_run_deliver_other hp]
        intro d hd
        obtain ⟨push, -, hd⟩ := mem_flatMap.mp hd
        exact spared_others hp hsnapshot hw push d hd
    · refine ⟨refillFromSnapshot { last with imageData := [] } out ((c.drainCoalesced pane (pushes ++ [last])).pixels pane),
        ?_, ?_, fun line col => ?_⟩
      · unfold MuxClient.frame
        rw [hcurrent]
        rfl
      · rw [imagesDirty_refillFromSnapshot]
        obtain ⟨push, hpush, hdirty⟩ := hdirty
        rcases mem_append.mp hpush with hearlier | hlast
        · exact hflag ⟨push, hearlier, hdirty⟩
        · rw [← mem_singleton.mp hlast]
          exact hdirty
      · exact RenderableContent.damaged_of_allDirty (allDirty_refillFromSnapshot ..) line col
    · have hpending : ∀ c' : MuxClient, ∀ s, (c'.syncPaneSnapshot pane s).pendingRefresh.erase pane =
          (c'.syncPaneSnapshot pane s).pendingRefresh := fun c' s => Finset.erase_idem
      refine ⟨hcoalesced.pushed.trans hinOrder.pushed.symm, hcoalesced.dirty.trans hinOrder.dirty.symm, ?_,
        hcoalesced.sent.trans hinOrder.sent.symm⟩
      have hone := hcoalesced.pending
      have htwo := hinOrder.pending
      rw [heq, hpending] at hone
      rw [drainInOrder_concat hdrained, hpending] at htwo
      rw [heq, drainInOrder_concat hdrained, hone, htwo]

/-- A placement of image 7 that fills one cell. -/
def samplePlacement : WirePlacement := ⟨7, 0, 0, 0, 0, 0, 0, 0, 0, 0, 0⟩

/-- A push that brings the pixels of image 7 and places it. -/
def uploadPush : PaneSnapshot :=
  { images := [samplePlacement], imageData := [⟨7, [255, 0, 0, 255], 1, 1, 0⟩], imagesDirty := true }

/-- Pixels, then a placement that relies on them: both pushes report changed images. -/
theorem lossless_iff_upload : Lossless (run step new []) 1 ([uploadPush] ++ [{ uploadPush with imageData := [] }]) :=
  (lossless_iff [] 1 [uploadPush] { uploadPush with imageData := [] } rfl).mpr ⟨fun _ => rfl, by
    intro w hw
    obtain rfl := mem_singleton.mp hw
    decide +kernel⟩

/-- **A repaint is lost**: the first push reports changed images, the second one does not. -/
theorem repaint_lost : ¬ ∀ (ops : List MuxClientOp) (pane : PaneId) (pushes : List PaneSnapshot) (last : PaneSnapshot),
    (run step new ops).pushedSnapshots.get pane = none → Lossless (run step new ops) pane (pushes ++ [last]) := by
  intro hall
  have h := hall [] 1 [uploadPush] { uploadPush with imageData := [], imagesDirty := false } rfl
  obtain ⟨content, hframe, hflag, -⟩ := h.repainted ⟨uploadPush, mem_cons_self .., rfl⟩ {}
  have hshown : ((run step new []).drainCoalesced 1 ([uploadPush] ++
      [{ uploadPush with imageData := [], imagesDirty := false }])).frame 1 {} =
      some { images := [samplePlacement.toRenderable], imageData := [⟨7, [255, 0, 0, 255], 1, 1, 0⟩], allDirty := true } := by
    decide +kernel
  rw [hshown, Option.some.injEq] at hframe
  rw [← hframe] at hflag
  cases hflag

end MuxClient

end OriTerm
