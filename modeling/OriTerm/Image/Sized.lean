import OriTerm.Image.Delta
import OriTerm.Lib.Raster

/-!
# `Image.Sized` — every pixel buffer of a cache has the size of its picture

The pixels of an image of `width` by `height` are `width * height * 4` bytes, the canvas of each of its frames too, and
a delta stores that many for its own rectangle, which is no larger than the image: `Cache.Sized`. The cache checks none
of this when an image is stored; it relies on whoever stores it. Given that (`CacheOp.StoresSized`), every operation
keeps it: **`CacheOp.sized`**.

In a sized cache a frame resolves to a canvas of the right size (`length_frameForNumber`), so that a rectangle within
the image is in the buffer: **`Cache.Sized.inRange`** says that no slice that `a=c` takes and no pixel that a
composition reads or writes lies outside.
-/

namespace OriTerm.Image

open Lib Lib.Raster List Option AList

/-- The pixels are those of a picture of the image's dimensions. -/
def Data.Sized (img : Data) : Prop := img.data.length = img.width * img.height * 4

/-- A full canvas of the given dimensions, or the pixels of a rectangle that is no larger. -/
def FrameEntry.Sized (w h : Nat) : FrameEntry → Prop
  | materialized _ data => data.length = w * h * 4
  | delta _ _ subRect payload _ _ _ =>
    payload.length = subRect.width * subRect.height * 4 ∧ subRect.width ≤ w ∧ subRect.height ≤ h

theorem FrameEntry.sized_materialized {w h : Nat} (frameId : Nat) {data : List UInt8} (hdata : data.length = w * h * 4) :
    (materialized frameId data).Sized w h := hdata

namespace Cache

variable {c c' : Cache} {id : ImageId} {w h : Nat}

/-- The buffers stored under an id: frames only beside an image, and all of its size. -/
structure SizedAt (c : Cache) (id : ImageId) : Prop where
  image : ∀ img, c.images.lookup id = some img → img.Sized
  frames : ∀ frames, c.animationFrames.lookup id = some frames →
    ∃ img, c.images.lookup id = some img ∧ ∀ e ∈ frames, e.Sized img.width img.height

/-- **Every buffer has the size of its picture.** -/
def Sized (c : Cache) : Prop := ∀ id, c.SizedAt id

/-- The buffers have their sizes, and an image of the given dimensions is stored. -/
structure SizedWith (c : Cache) (id : ImageId) (w h : Nat) : Prop where
  sized : c.Sized
  image : ∃ img, c.images.lookup id = some img ∧ img.width = w ∧ img.height = h

theorem sized_new : Cache.new.Sized := fun _ => ⟨nofun, nofun⟩

theorem SizedAt.of_lookups (hs : c.SizedAt id) (hi : c'.images.lookup id = c.images.lookup id)
    (hf : c'.animationFrames.lookup id = c.animationFrames.lookup id) : c'.SizedAt id := by
  obtain ⟨himage, hframes⟩ := hs
  exact ⟨by rwa [hi], by rwa [hi, hf]⟩

/-- Bookkeeping that touches neither images nor frames. -/
theorem Sized.of_eq (hs : c.Sized) (hi : c'.images = c.images) (hf : c'.animationFrames = c.animationFrames) :
    c'.Sized := fun x => (hs x).of_lookups (by rw [hi]) (by rw [hf])

/-- One id changes. -/
theorem Sized.change (hs : c.Sized) (id : ImageId) (hothers : ∀ x, x ≠ id → c'.images.lookup x = c.images.lookup x
      ∧ c'.animationFrames.lookup x = c.animationFrames.lookup x) (hid : c'.SizedAt id) : c'.Sized := by
  intro x
  by_cases hx : x = id
  · subst hx
    exact hid
  · exact (hs x).of_lookups (hothers x hx).1 (hothers x hx).2

/-- Images are lost, and those that are not keep their buffers. -/
theorem Sized.survives (hs : c.Sized) (h : ∀ x, Survives c c' x) : c'.Sized := by
  intro x
  rcases h x with hgone | hsame
  · refine ⟨fun img hi => ?_, fun frames hf => ?_⟩
    · rw [hgone.image] at hi
      cases hi
    · rw [hgone.frames] at hf
      cases hf
  · refine ⟨fun img' hi' => ?_, fun frames hf => ?_⟩
    · cases hi : c.images.lookup x with
      | none =>
        rw [hsame.absent hi] at hi'
        cases hi'
      | some img =>
        obtain ⟨img'', hi'', hdata, hw, hh, -⟩ := hsame.image img hi
        cases hi''.symm.trans hi'
        unfold Data.Sized
        rw [hdata, hw, hh]
        exact (hs x).image img hi
    · rw [hsame.frames] at hf
      obtain ⟨img, hi, hall⟩ := (hs x).frames frames hf
      obtain ⟨img', hi', -, hw, hh, -⟩ := hsame.image img hi
      refine ⟨img', hi', ?_⟩
      rw [hw, hh]
      exact hall

section

variable (hs : c.SizedWith id w h)
include hs

theorem SizedWith.of_eq (hi : c'.images = c.images)
    (hf : c'.animationFrames = c.animationFrames) : c'.SizedWith id w h :=
  ⟨hs.sized.of_eq hi hf, by rw [hi]; exact hs.image⟩

/-- The image and its frames are replaced by ones of the same size. -/
theorem SizedWith.replace {img : Data} (hi : c'.images.lookup id = some img)
    (hw : img.width = w) (hh : img.height = h) (hdata : img.data.length = w * h * 4)
    (hframes : ∀ frames, c'.animationFrames.lookup id = some frames → ∀ e ∈ frames, e.Sized w h)
    (hothers : ∀ x, x ≠ id → c'.images.lookup x = c.images.lookup x
      ∧ c'.animationFrames.lookup x = c.animationFrames.lookup x) : c'.SizedWith id w h := by
  refine ⟨hs.sized.change id hothers ⟨fun img' hi' => ?_, fun frames hf => ⟨img, hi, ?_⟩⟩, img, hi, hw, hh⟩
  · cases hi.symm.trans hi'
    unfold Data.Sized
    rw [hw, hh]
    exact hdata
  · rw [hw, hh]
    exact hframes frames hf

/-- The stored frames of an image of the given dimensions. -/
theorem SizedWith.frames : ∀ e ∈ (c.animationFrames.lookup id).getD [], e.Sized w h := by
  intro e he
  cases hf : c.animationFrames.lookup id with
  | none =>
    rw [hf] at he
    cases he
  | some frames =>
    rw [hf] at he
    obtain ⟨img, hi, hall⟩ := (hs.sized id).frames frames hf
    obtain ⟨img', hi', hw, hh⟩ := hs.image
    cases hi.symm.trans hi'
    rw [← hw, ← hh]
    exact hall e he

/-- The displayed pixels of an image of the given dimensions. -/
theorem SizedWith.data {img : Data} (hi : c.images.lookup id = some img) :
    img.width = w ∧ img.height = h ∧ img.data.length = w * h * 4 := by
  obtain ⟨img', hi', hw, hh⟩ := hs.image
  cases hi.symm.trans hi'
  have hdata := (hs.sized id).image img hi
  unfold Data.Sized at hdata
  rw [hw, hh] at hdata
  exact ⟨hw, hh, hdata⟩

end

/-- A frame is stored beside its image. -/
theorem Sized.with_of_frames (hs : c.Sized) {frames : List FrameEntry}
    (hf : c.animationFrames.lookup id = some frames) : ∃ w h, c.SizedWith id w h := by
  obtain ⟨img, hi, -⟩ := (hs id).frames frames hf
  exact ⟨img.width, img.height, hs, img, hi, rfl, rfl⟩

/-! ## Storing and dropping images -/

theorem sized_removeImage (hs : c.Sized) (id : ImageId) : (c.removeImage id).Sized :=
  hs.survives fun x => survives_removeImage c id x

theorem sized_evictLoop (hs : c.Sized) (reachable : ImageId → Bool) (size fuel : Nat) :
    (evictLoop reachable size fuel c).1.Sized := hs.survives fun x => survives_evictLoop reachable size fuel c x

/-- Nothing is left under the id of an image that was removed. -/
theorem Sized.frames_removeImage (hs : c.Sized) (id : ImageId) :
    (c.removeImage id).animationFrames.lookup id = none := by
  cases hf : (c.removeImage id).animationFrames.lookup id with
  | none => rfl
  | some frames =>
    obtain ⟨img, hi, -⟩ := (sized_removeImage hs id id).frames frames hf
    rw [removeImage_lookup] at hi
    cases hi

/-- **Storing** pixels of the image's size, if it succeeds. -/
theorem sized_store (hs : c.Sized) {data : Data} (hdata : ∀ id, (c.store data).2 = .ok id → data.Sized) :
    (c.store data).1.Sized := by
  unfold store at hdata ⊢
  dsimp only at hdata ⊢
  split
  · exact hs
  · next hsize =>
    rw [if_neg hsize] at hdata
    have hevicted := sized_evictLoop hs c.reachable data.data.length (c.images.entries.length + 1)
    generalize evictLoop c.reachable data.data.length (c.images.entries.length + 1) c = r at hevicted hdata
    obtain ⟨e, ok⟩ := r
    cases ok with
    | false => exact hevicted
    | true =>
      have hcounted : Sized { e with accessCounter := e.accessCounter + 1 } := hevicted.of_eq rfl rfl
      refine (sized_removeImage hcounted data.id).change data.id (fun x hx => ⟨lookup_insert_ne hx, rfl⟩) ?_
      refine ⟨fun img hi => ?_, fun frames hf => ?_⟩
      · cases (lookup_insert _).symm.trans hi
        exact hdata _ rfl
      · cases (hcounted.frames_removeImage data.id).symm.trans hf

/-- The frames of an animated store, as entries. -/
theorem sized_mapIdx {frames : List (List UInt8)} (hframes : ∀ f ∈ frames, f.length = w * h * 4) (next : Nat) :
    ∀ e ∈ frames.mapIdx (fun i data => FrameEntry.materialized (next + i) data), e.Sized w h := by
  intro e he
  obtain ⟨i, hlt, rfl⟩ := mem_mapIdx.mp he
  exact hframes _ (getElem_mem hlt)

/-- **Storing an animation** all of whose frames have the image's size. -/
theorem sized_storeAnimated (hs : c.Sized) {data : Data} {frames : List (List UInt8)} (durations : List Nanos)
    (loopCount : Option Nat) (hdata : frames = [] → data.Sized)
    (hframes : ∀ f ∈ frames, f.length = data.width * data.height * 4) :
    (c.storeAnimated data frames durations loopCount).1.Sized := by
  cases frames with
  | nil => exact sized_store hs fun _ _ => hdata rfl
  | cons first rest =>
    have hfirst : Data.Sized { data with data := first } := hframes first (mem_cons_self ..)
    have hstore := sized_store hs fun _ _ => hfirst
    have hout := c.storeAnimated_outcome data first rest durations loopCount
    generalize c.storeAnimated data (first :: rest) durations loopCount = r at hout ⊢
    cases hout with
    | oversized => exact hs
    | failed _ hres =>
      rw [hres] at hstore
      exact hstore
    | @stored c' img _ hres hi hw hh =>
      rw [hres] at hstore
      have hwith : c'.SizedWith data.id data.width data.height := ⟨hstore, img, hi, hw, hh⟩
      refine SizedWith.sized (hwith.replace (lookup_insert _) hw hh (hwith.data hi).2.2 ?_ ?_)
      · intro frames hf
        cases (lookup_insert _).symm.trans hf
        exact sized_mapIdx hframes _
      · exact fun x hx => ⟨lookup_insert_ne hx, lookup_insert_ne hx⟩

/-! ## Display and bookkeeping -/

/-- **Displaying a stored frame.** -/
theorem sized_applyFrame (hs : c.Sized) (id : ImageId) (frameIdx : Nat) : (c.applyFrame id frameIdx).Sized := by
  unfold applyFrame
  split
  · next frames img hf hi =>
    split
    · next frameId data hentry =>
      have hwith : c.SizedWith id img.width img.height := ⟨hs, img, hi, rfl, rfl⟩
      have hframes := hwith.frames
      rw [hf] at hframes
      have hdata : data.length = img.width * img.height * 4 := hframes _ (mem_of_getElem? hentry)
      refine SizedWith.sized (hwith.replace (lookup_insert _) rfl rfl hdata ?_ fun x hx =>
        ⟨lookup_insert_ne hx, rfl⟩)
      intro frames' hf'
      cases hf.symm.trans hf'
      exact hframes
    · exact hs
  · exact hs

/-- Playing an animation only displays stored frames. -/
theorem animationInvariant_sized : AnimationInvariant fun c c' => c.Sized → c'.Sized :=
  ⟨fun _ hs => hs, fun h h' hs => h' (h hs), fun _ _ _ hs => hs.of_eq rfl rfl, fun _ hs => hs.of_eq rfl rfl,
    fun _ _ _ hs => hs.of_eq rfl rfl, fun _ id frameIdx hs => sized_applyFrame hs id frameIdx⟩

/-- A gap is bookkeeping. -/
theorem setFrameGap_eq (c : Cache) (id : ImageId) (frameIdx : Nat) (gap : Nanos) :
    (c.setFrameGap id frameIdx gap).images = c.images
      ∧ (c.setFrameGap id frameIdx gap).animationFrames = c.animationFrames := by
  unfold setFrameGap
  split <;> exact ⟨rfl, rfl⟩

/-! ## Frames on demand -/

variable {canvas : List UInt8}

/-- **A frame resolves to a canvas of its image's size.** The composition onto a base keeps the size of the base. -/
theorem length_composeEntry {frames : List FrameEntry} (hframes : ∀ e ∈ frames, e.Sized w h) (fuel : Nat)
    {entry : FrameEntry} (hentry : entry.Sized w h) (hres : c.composeEntry id frames fuel entry = some canvas) :
    canvas.length = w * h * 4 := by
  induction fuel generalizing entry canvas with
  | zero =>
    cases entry with
    | materialized frameId data =>
      cases hres
      exact hentry
    | delta => cases hres
  | succ fuel ih =>
    cases entry with
    | materialized frameId data =>
      cases hres
      exact hentry
    | delta frameId base subRect payload mode depth area =>
      obtain ⟨baseEntry, hbase, hres⟩ := bind_eq_some_iff.mp hres
      obtain ⟨under, hunder, hres⟩ := bind_eq_some_iff.mp hres
      obtain ⟨img, -, hres⟩ := bind_eq_some_iff.mp hres
      have hlen := ih (hframes _ (mem_of_find?_eq_some hbase)) hunder
      cases hblit : blitSubrectIntoCanvas under payload img.width img.height subRect mode with
      | error e =>
        rw [hblit] at hres
        cases hres
      | ok composed =>
        rw [hblit] at hres
        cases hres
        rw [blitSubrectIntoCanvas_length hblit]
        exact hlen

theorem SizedWith.length_resolveEntry (hs : c.SizedWith id w h) {entry : FrameEntry} (hentry : entry.Sized w h)
    (hres : c.resolveEntry id entry = some canvas) : canvas.length = w * h * 4 :=
  length_composeEntry hs.frames _ hentry hres

/-- **A frame by its number** is a canvas of its image's size. -/
theorem SizedWith.length_frameForNumber (hs : c.SizedWith id w h) {n : Nat}
    (hres : c.frameForNumber id n = some canvas) : canvas.length = w * h * 4 := by
  unfold frameForNumber at hres
  split at hres
  · cases hres
  · split at hres
    · obtain ⟨img, hi, rfl⟩ := map_eq_some_iff.mp hres
      exact (hs.data hi).2.2
    · obtain ⟨frames, hf, hres⟩ := bind_eq_some_iff.mp hres
      obtain ⟨entry, hentry, hres⟩ := bind_eq_some_iff.mp hres
      refine hs.length_resolveEntry (hs.frames entry ?_) hres
      rw [hf]
      exact mem_of_getElem? hentry

/-- A solid canvas. -/
theorem length_solid (n rgba : Nat) : ((List.replicate n (rgbaToBytes rgba)).flatten).length = n * 4 := by
  rw [length_flatten, map_replicate, sum_replicate_nat]
  rfl

theorem SizedWith.length_frameOrError (hs : c.SizedWith id w h) {n : Nat} {e : Error}
    (hn : (match c.frameForNumber id n with | some bytes => Except.ok bytes | none => Except.error e) = Except.ok canvas) :
    canvas.length = w * h * 4 := by
  cases hframe : c.frameForNumber id n with
  | none =>
    rw [hframe] at hn
    cases hn
  | some bytes =>
    rw [hframe] at hn
    cases hn
    exact hs.length_frameForNumber hframe

theorem SizedWith.length_resolveCanvasBytes (hs : c.SizedWith id w h) {req : FrameLoadRequest}
    (hid : req.imageId = id) (hres : c.resolveCanvasBytes req w h = .ok canvas) : canvas.length = w * h * 4 := by
  subst hid
  unfold resolveCanvasBytes at hres
  split at hres
  · cases hres
    exact length_solid ..
  · exact hs.length_frameOrError hres
  · exact hs.length_frameOrError hres
  · cases hres

/-! ## Loading frames -/

section

variable (hs : c.SizedWith id w h)
include hs

theorem SizedWith.promoteRoot {img : Data} (hi : c.images.lookup id = some img) (gap : Nanos) :
    (c.promoteRoot id img gap).SizedWith id w h := by
  obtain ⟨hw, hh, hdata⟩ := hs.data hi
  refine hs.replace (lookup_insert _) hw hh hdata (fun frames hf e he => ?_) fun x hx =>
    ⟨lookup_insert_ne hx, lookup_insert_ne hx⟩
  cases (lookup_insert _).symm.trans hf
  obtain rfl := mem_singleton.mp he
  exact hdata

theorem SizedWith.autoPromoteStaticRoot (hok : c.autoPromoteStaticRoot id = .ok c') : c'.SizedWith id w h := by
  unfold Cache.autoPromoteStaticRoot at hok
  split at hok
  · cases hok
    exact hs
  · split at hok
    · next img hi =>
      cases hok
      exact hs.promoteRoot hi 0
    · cases hok

theorem SizedWith.evictForFrame (size : Nat) : (c.evictForFrame id size).1.SizedWith id w h :=
  ⟨sized_evictLoop hs.sized _ _ _, by rw [(evictForFrame_protected c id size).1]; exact hs.image⟩

/-- The frames of the image are replaced. -/
theorem SizedWith.insertFrames {frames : List FrameEntry} (hframes : ∀ e ∈ frames, e.Sized w h)
    (hi : c'.images = c.images) (hf : c'.animationFrames = c.animationFrames.insert id frames) :
    c'.SizedWith id w h := by
  obtain ⟨img, hlookup, -, -⟩ := hs.image
  obtain ⟨hw, hh, hdata⟩ := hs.data hlookup
  refine hs.replace (by rw [hi]; exact hlookup) hw hh hdata (fun frames' hf' => ?_) fun x hx => ⟨by rw [hi], ?_⟩
  · rw [hf, lookup_insert] at hf'
    cases hf'
    exact hframes
  · rw [hf, lookup_insert_ne hx]

theorem SizedWith.appendEntry {entry : FrameEntry} (hentry : entry.Sized w h) (gap : Nanos) :
    (c.appendEntry id entry gap).1.SizedWith id w h := by
  refine hs.insertFrames (fun e he => ?_) rfl rfl
  rcases mem_append.mp he with he | he
  · exact hs.frames e he
  · obtain rfl := mem_singleton.mp he
    exact hentry

theorem SizedWith.setEntry (idx : Nat) {entry : FrameEntry} (hentry : entry.Sized w h) :
    (c.setEntry id idx entry).SizedWith id w h := by
  refine hs.insertFrames (fun e he => ?_) rfl rfl
  rcases mem_or_eq_of_mem_set he with he | rfl
  · exact hs.frames e he
  · exact hentry

/-- The displayed pixels are replaced. -/
theorem SizedWith.insertImage {img : Data} (hw : img.width = w) (hh : img.height = h)
    (hdata : img.data.length = w * h * 4) (hi : c'.images = c.images.insert id img)
    (hf : c'.animationFrames = c.animationFrames) : c'.SizedWith id w h := by
  have hlookup : c'.images.lookup id = some img := by
    rw [hi]
    exact lookup_insert _
  refine hs.replace hlookup hw hh hdata (fun frames hf' => ?_) fun x hx => ⟨?_, by rw [hf]⟩
  · have hframes := hs.frames
    rw [hf] at hf'
    rw [hf'] at hframes
    exact hframes
  · rw [hi]
    exact lookup_insert_ne hx

theorem SizedWith.showFrame (frameId : Nat) {data : List UInt8} (hdata : data.length = w * h * 4) (bump : Bool) :
    (c.showFrame id frameId data bump).SizedWith id w h := by
  unfold Cache.showFrame
  split
  · next img hi =>
    obtain ⟨hw, hh, -⟩ := hs.data hi
    cases bump with
    | false => exact @insertImage _ _ id w h hs (img.show frameId data) hw hh hdata rfl rfl
    | true => exact @insertImage _ _ id w h hs (img.show frameId data).bump hw hh hdata rfl rfl
  · exact hs

theorem SizedWith.setFrameGap (frameIdx : Nat) (gap : Nanos) : (c.setFrameGap id frameIdx gap).SizedWith id w h :=
  hs.of_eq (setFrameGap_eq c id frameIdx gap).1 (setFrameGap_eq c id frameIdx gap).2

theorem SizedWith.ensureAnimationStateForRootGap (gapUpdate : Option Nanos) :
    (c.ensureAnimationStateForRootGap id gapUpdate).1.SizedWith id w h := by
  unfold Cache.ensureAnimationStateForRootGap
  split
  · exact hs
  · split
    · exact hs
    · next hi _ => exact hs.promoteRoot hi _
    · exact hs.setFrameGap ..

end

/-- Without the image, nothing happens. -/
theorem sized_ensureAnimationStateForRootGap (hs : c.Sized) (id : ImageId) (gapUpdate : Option Nanos) :
    (c.ensureAnimationStateForRootGap id gapUpdate).1.Sized := by
  cases hi : c.images.lookup id with
  | some img =>
    have hwith : c.SizedWith id img.width img.height := ⟨hs, img, hi, rfl, rfl⟩
    exact (hwith.ensureAnimationStateForRootGap gapUpdate).sized
  | none =>
    unfold ensureAnimationStateForRootGap
    rw [hi]
    cases gapUpdate <;> exact hs

/-- The delta fast path appends the pixels of a rectangle. -/
theorem SizedWith.tryPushDeltaAppend {req : FrameLoadRequest} (hs : c.SizedWith req.imageId w h)
    (hdata : req.frameData.length = req.blit.width * req.blit.height * 4) (hw : req.blit.width ≤ w)
    (hh : req.blit.height ≤ h) : (c.tryPushDeltaAppend req w h).1.SizedWith req.imageId w h := by
  unfold Cache.tryPushDeltaAppend
  split
  · dsimp only
    split
    · exact hs
    · next c' hpromoted =>
      have hc' : c'.SizedWith req.imageId w h := by
        split at hpromoted
        · exact hs.autoPromoteStaticRoot hpromoted
        · cases hpromoted
          exact hs
      split
      · exact hc'
      · next base _ =>
        generalize (if base.isDelta = true then base.depth + 1 else 0) = depth
        split
        · have hevicted := hc'.evictForFrame req.frameData.length
          unfold pushDeltaFrame
          dsimp only
          split
          · exact hevicted
          · exact hevicted.appendEntry (show (FrameEntry.delta ..).Sized w h from ⟨hdata, hw, hh⟩) _
        · exact hc'
  · exact hs

theorem SizedWith.pushComposedFrame (hs : c.SizedWith id w h) {composed : List UInt8}
    (hcomposed : composed.length = w * h * 4) (gap : Nanos) :
    (c.pushComposedFrame id composed gap).1.SizedWith id w h := by
  unfold Cache.pushComposedFrame
  split
  · exact hs
  · have hevicted := hs.evictForFrame composed.length
    generalize c.evictForFrame id composed.length = r at hevicted
    dsimp only at hevicted ⊢
    split
    · exact hevicted
    · split
      · exact hevicted.appendEntry (FrameEntry.sized_materialized _ hcomposed) gap
      · exact hevicted
      · next img _ hi =>
        refine (hevicted.promoteRoot hi 0).insertFrames (fun entry he => ?_) rfl rfl
        rcases mem_append.mp he with he | he
        · exact (hevicted.promoteRoot hi 0).frames entry he
        · obtain rfl := mem_singleton.mp he
          exact hcomposed

/-- Writing a canvas of the image's size. -/
theorem SizedWith.writeEntry (hs : c.SizedWith id w h) (idx frameId : Nat) {data : List UInt8}
    (hdata : data.length = w * h * 4) (shown : Option Bool) (gapUpdate : Option Nanos) :
    (c.writeEntry id idx frameId data shown gapUpdate).SizedWith id w h := by
  have hset := hs.setEntry idx (FrameEntry.sized_materialized frameId hdata)
  have hshown : ((c.setEntry id idx (.materialized frameId data)).showIf id frameId data shown).SizedWith id w h := by
    cases shown with
    | none => exact hset
    | some bump => exact hset.showFrame frameId hdata bump
  cases gapUpdate with
  | none => exact hshown.of_eq rfl rfl
  | some gap => exact (hshown.setFrameGap _ _).of_eq rfl rfl

/-- The in-place edit composes onto a stored canvas. -/
theorem SizedWith.tryEditInPlace {req : FrameLoadRequest} (hs : c.SizedWith req.imageId w h) :
    (c.tryEditInPlace req w h).1.SizedWith req.imageId w h := by
  have hout := c.tryEditInPlace_outcome req w h
  generalize c.tryEditInPlace req w h = r at hout ⊢
  cases hout with
  | declined | failed => exact hs
  | @written n _ _ data _ frames _ _ hf hat hblit =>
    have hframes := hs.frames
    rw [hf] at hframes
    have hdata : data.length = w * h * 4 := hframes _ (mem_of_getElem? hat)
    exact hs.writeEntry _ _ ((blitSubrectIntoCanvas_length hblit).trans hdata) _ _

/-- **Replacing a frame's pixels** by a canvas of the image's size. -/
theorem SizedWith.replaceFrameBytes (hs : c.SizedWith id w h) (frameNum : Nat) {composed : List UInt8}
    (hcomposed : composed.length = w * h * 4) (gapUpdate : Option Nanos) :
    (c.replaceFrameBytes id frameNum composed gapUpdate).1.SizedWith id w h := by
  have hredrawn : ∀ {img}, c.images.lookup id = some img →
      SizedWith { c with images := c.images.insert id (img.redraw composed) } id w h := fun {img} hi =>
    @insertImage c _ id w h hs (img.redraw composed) (hs.data hi).1 (hs.data hi).2.1 hcomposed rfl rfl
  have hout := c.replaceFrameBytes_outcome id frameNum composed gapUpdate
  generalize c.replaceFrameBytes id frameNum composed gapUpdate = r at hout ⊢
  cases hout with
  | absent => exact hs
  | marked | refused => exact hs.of_eq rfl rfl
  | redrawn _ hi => exact (hredrawn hi).of_eq rfl rfl
  | @promoted img _ _ _ _ _ hi _ hc₁ hc₂ hc₃ =>
    have hlookup := congrArg (fun x : Cache => x.images.lookup id) hc₁
    have hpromoted := hc₂ ▸ (hc₁ ▸ hredrawn hi).promoteRoot (hlookup.symm.trans (lookup_insert _)) _
    exact (hc₃ ▸ hpromoted.writeEntry 0 _ hcomposed (some false) none).of_eq rfl rfl
  | written =>
    have hnext : SizedWith { c with nextFrameId := c.nextFrameId + 1 } id w h := hs.of_eq rfl rfl
    exact hnext.writeEntry _ _ hcomposed _ _

/-- **Loading a frame.** The request's pixels are checked, the canvas is one of the image, and the composition keeps
    the size of the canvas. -/
theorem sized_putFrame (hs : c.Sized) (req : FrameLoadRequest) : (c.putFrame req).1.Sized := by
  have hwith : ∀ {img}, c.Accepts req img → c.SizedWith req.imageId img.width img.height :=
    fun haccepts => ⟨hs, _, haccepts.image, rfl, rfl⟩
  have hpushed : ∀ {img}, c.Accepts req img →
      (c.tryPushDeltaAppend req img.width img.height).1.SizedWith req.imageId img.width img.height := by
    intro img haccepts
    obtain ⟨-, hfits, hdata, -⟩ := validateFrameRequest_ok haccepts.valid
    rw [not_or, Nat.not_lt, Nat.not_lt] at hfits
    exact (hwith haccepts).tryPushDeltaAppend hdata hfits.1 hfits.2
  have hout := c.putFrame_outcome req
  generalize c.putFrame req = r at hout ⊢
  cases hout with
  | rejected | untargeted => exact hs
  | pushed haccepts _ hc' | unsourced haccepts _ hc' => exact hc' ▸ (hpushed haccepts).sized
  | edited haccepts _ hc' => exact hc' ▸ (hwith haccepts).tryEditInPlace.sized
  | appended haccepts _ hc' _ hcanvas hblit =>
    have hdeclined := hc' ▸ hpushed haccepts
    have hcomposed := (blitSubrectIntoCanvas_length hblit).trans (hdeclined.length_resolveCanvasBytes rfl hcanvas)
    exact (hdeclined.pushComposedFrame hcomposed _).sized
  | replaced haccepts _ hframe _ hblit =>
    have hcomposed := (blitSubrectIntoCanvas_length hblit).trans ((hwith haccepts).length_frameForNumber hframe)
    exact ((hwith haccepts).replaceFrameBytes _ hcomposed _).sized

/-! ## Composing and deleting frames -/

/-- **Composing two frames.** -/
theorem sized_composeFrame (hs : c.Sized) (req : ComposeRequest) : (c.composeFrame req).1.Sized := by
  have hout := c.composeFrame_outcome req
  generalize c.composeFrame req = r at hout ⊢
  cases hout with
  | refused => exact hs
  | @composed img _ _ _ _ hi _ hdst hblit =>
    have hwith : c.SizedWith req.imageId img.width img.height := ⟨hs, img, hi, rfl, rfl⟩
    have hcomposed := (blitSubrectIntoCanvas_length hblit).trans (hwith.length_frameForNumber hdst)
    exact (hwith.replaceFrameBytes req.dstFrame hcomposed none).sized

section

variable (hs : c.SizedWith id w h)
include hs

theorem SizedWith.materializeDependent (idx : Nat) (hcanvas : canvas.length = w * h * 4) :
    (c.materializeDependent id idx canvas).SizedWith id w h := by
  unfold Cache.materializeDependent
  split
  · exact hs
  · next entry _ =>
    have hset := hs.setEntry idx (FrameEntry.sized_materialized entry.id hcanvas)
    split <;> exact hset.of_eq rfl rfl

theorem SizedWith.dropAnimation : (c.dropAnimation id).SizedWith id w h := by
  obtain ⟨img, hi, hw, hh⟩ := hs.image
  refine hs.replace hi hw hh (hs.data hi).2.2 (fun frames hf => ?_) fun x hx => ⟨rfl, lookup_erase_ne hx⟩
  cases (lookup_erase ..).symm.trans hf

theorem SizedWith.materializeDependents {dependents : List (Nat × List UInt8)}
    (hcanvases : ∀ d ∈ dependents, d.2.length = w * h * 4) :
    (dependents.foldl (fun c d => c.materializeDependent id d.1 d.2) c).SizedWith id w h := by
  induction dependents generalizing c with
  | nil => exact hs
  | cons d rest ih =>
    refine ih (hs.materializeDependent d.1 (hcanvases d (mem_cons_self ..))) fun d' hd' => ?_
    exact hcanvases d' (mem_cons_of_mem _ hd')

theorem SizedWith.finishDeletion {left : List FrameEntry} (hleft : ∀ e ∈ left, e.Sized w h) :
    (c.finishDeletion id left).1.SizedWith id w h := by
  obtain ⟨c₁, c₂, hshown, hc₂, heq⟩ := c.finishDeletion_eq id left
  have h₁ : c₁.SizedWith id w h := by
    cases hshown with
    | nothing => exact hs
    | frame hentry => exact hs.showFrame _ (hleft _ (mem_of_getElem? hentry)) true
  have h₂ : c₂.SizedWith id w h := hc₂ ▸ h₁.of_eq rfl rfl
  rw [heq]
  split
  · exact h₂.dropAnimation
  · exact h₂

end

/-- **Deleting a frame.** The deltas based on it become full canvases first. -/
theorem sized_removeAnimationFrame (hs : c.Sized) (id : ImageId) (frameNumber : Nat) :
    (c.removeAnimationFrame id frameNumber).1.Sized := by
  have hout := c.removeAnimationFrame_outcome id frameNumber
  generalize c.removeAnimationFrame id frameNumber = r at hout ⊢
  cases hout with
  | missing => exact hs
  | single hf =>
    obtain ⟨w, h, hwith⟩ := hs.with_of_frames hf
    exact hwith.dropAnimation.sized
  | @removed frames c₁ hf hlong hc₁ =>
    obtain ⟨w, h, hwith⟩ := hs.with_of_frames hf
    have hcanvases : ∀ d ∈ c.rebuiltBy id frames frameNumber, d.2.length = w * h * 4 := by
      intro d hd
      obtain ⟨entry, hentry, -, -, hres⟩ := (mem_deltaDependents ..).mp hd
      refine hwith.length_resolveEntry (hwith.frames entry ?_) hres
      rw [hf]
      exact mem_of_getElem? hentry
    have hrebuilt := hwith.materializeDependents hcanvases
    rw [hc₁] at hrebuilt
    have hleft : ∀ e ∈ ((c₁.animationFrames.lookup id).getD []).eraseIdx (deletedIndex frames frameNumber), e.Sized w h :=
      fun e he => hrebuilt.frames e ((eraseIdx_sublist ..).subset he)
    have hunlinked : (c₁.unlinkEntry id (deletedIndex frames frameNumber)).SizedWith id w h :=
      hrebuilt.insertFrames hleft rfl rfl
    exact (hunlinked.finishDeletion hleft).sized

/-! ## Within the buffers -/

/-- Every row of the rectangle is a slice of the buffer, as `a=c` takes it: `src_bytes[off..off + width * 4]`. -/
def CropInRange (length canvasW x y width height : Nat) : Prop :=
  ∀ row < height, (y + row) * canvasW * 4 + x * 4 + width * 4 ≤ length

/-- Every pixel that a composition copies is in both buffers. -/
def BlitInRange (canvasLength srcLength canvasW canvasH : Nat) (blit : BlitRect) : Prop :=
  ∀ row < min blit.height (canvasH - blit.destY), ∀ col < min blit.width (canvasW - blit.destX),
    ((blit.destY + row) * canvasW + blit.destX) * 4 + col * 4 + 4 ≤ canvasLength
      ∧ row * blit.width * 4 + col * 4 + 4 ≤ srcLength

/-- **What is read and written lies in the buffers**: by `a=c`, for whatever offsets and size it carries; by `a=f`, on
    the canvas of the request; and by the frames that resolve a delta. -/
structure InRange (c : Cache) : Prop where
  compose : ∀ (req : ComposeRequest) (img : Data) (src dst : List UInt8), c.images.lookup req.imageId = some img →
    c.frameForNumber req.imageId req.srcFrame = some src → c.frameForNumber req.imageId req.dstFrame = some dst →
    ∀ width height, width = (if req.width = 0 then img.width else req.width) →
      height = (if req.height = 0 then img.height else req.height) →
      req.dstX + width ≤ img.width ∧ req.dstY + height ≤ img.height →
      req.srcX + width ≤ img.width ∧ req.srcY + height ≤ img.height →
      CropInRange src.length img.width req.srcX req.srcY width height
        ∧ BlitInRange dst.length (extractRect src img.width req.srcX req.srcY width height).length img.width img.height
          { destX := req.dstX, destY := req.dstY, width, height }
  frame : ∀ (req : FrameLoadRequest) (imageW imageH : Nat) (canvas : List UInt8),
    c.validateFrameRequest req = .ok (imageW, imageH) → c.resolveCanvasBytes req imageW imageH = .ok canvas →
    BlitInRange canvas.length req.frameData.length imageW imageH req.blit
  resolve : ∀ (id : ImageId) (img : Data) (frames : List FrameEntry), c.images.lookup id = some img →
    c.animationFrames.lookup id = some frames → ∀ (fuel frameId base : Nat) (subRect : BlitRect) (payload : List UInt8)
      (mode : CompositionMode) (depth area : Nat) (under : FrameEntry) (canvas : List UInt8),
      .delta frameId base subRect payload mode depth area ∈ frames → frames.find? (·.id == base) = some under →
      c.composeEntry id frames fuel under = some canvas →
      BlitInRange canvas.length payload.length img.width img.height subRect

/-- Pixels of the rectangle's size, on a canvas of the image's size. -/
theorem blitInRange (w h : Nat) (blit : BlitRect) :
    BlitInRange (w * h * 4) (blit.width * blit.height * 4) w h blit := by
  intro row hrow col hcol
  rw [Nat.lt_min] at hrow hcol
  have hdst := @pixel_le w 4 h (blit.destX + col) (blit.destY + row) (by omega) (by omega)
  have hsrc := pixel_le (b := 4) hcol.1 hrow.1
  constructor
  · calc ((blit.destY + row) * w + blit.destX) * 4 + col * 4 + 4
        = ((blit.destY + row) * w + (blit.destX + col)) * 4 + 4 := by ring
      _ ≤ w * h * 4 := hdst
  · calc row * blit.width * 4 + col * 4 + 4 = (row * blit.width + col) * 4 + 4 := by ring
      _ ≤ blit.width * blit.height * 4 := hsrc

/-- `extractRect` is the crop of the library. -/
theorem extractRect_eq_crop (canvas : List UInt8) (canvasW x y width height : Nat) :
    extractRect canvas canvasW x y width height = crop canvas canvasW 4 ⟨x, y, width, height⟩ := by
  have hstart : ∀ row, (y + row) * canvasW * 4 + x * 4 = Rect.rowStart ⟨x, y, width, height⟩ canvasW 4 row := by
    intro row
    show _ = ((y + row) * canvasW + x) * 4
    ring
  unfold extractRect crop
  simp [hstart]

/-- **In a sized cache nothing lies outside a buffer.** -/
theorem Sized.inRange (hs : c.Sized) : c.InRange where
  compose := by
    intro req img src dst hi hsrc hdst width height _ _ _ hinside
    have hwith : c.SizedWith req.imageId img.width img.height := ⟨hs, img, hi, rfl, rfl⟩
    have hwithin : Rect.Within ⟨req.srcX, req.srcY, width, height⟩ img.width img.height := hinside
    have hlen := hwith.length_frameForNumber hsrc
    constructor
    · intro row hrow
      have hle := Rect.row_le (b := 4) hwithin hrow
      rw [hlen]
      calc (req.srcY + row) * img.width * 4 + req.srcX * 4 + width * 4
          = ((req.srcY + row) * img.width + req.srcX) * 4 + width * 4 := by ring
        _ ≤ img.width * img.height * 4 := hle
    · rw [hwith.length_frameForNumber hdst, extractRect_eq_crop, length_crop hlen hwithin]
      exact blitInRange _ _ { destX := req.dstX, destY := req.dstY, width, height }
  frame := by
    intro req imageW imageH canvas hok hcanvas
    obtain ⟨⟨img, hi, rfl, rfl⟩, -, hdata, -⟩ := validateFrameRequest_ok hok
    have hwith : c.SizedWith req.imageId img.width img.height := ⟨hs, img, hi, rfl, rfl⟩
    rw [hwith.length_resolveCanvasBytes rfl hcanvas, hdata]
    exact blitInRange _ _ _
  resolve := by
    intro id img frames hi hf fuel frameId base subRect payload mode depth area under canvas hmem hfind hres
    have hwith : c.SizedWith id img.width img.height := ⟨hs, img, hi, rfl, rfl⟩
    have hall := hwith.frames
    rw [hf] at hall
    obtain ⟨hpayload, -, -⟩ := hall _ hmem
    rw [length_composeEntry hall fuel (hall _ (mem_of_find?_eq_some hfind)) hres, hpayload]
    exact blitInRange _ _ _

end Cache

/-! ## Every operation -/

namespace CacheOp

open Cache

/-- The operation brings in pixels of the right size. -/
def StoresSized : CacheOp → Prop
  | store data => data.Sized
  | storeAnimated data frames _ _ =>
    (frames = [] → data.Sized) ∧ ∀ f ∈ frames, f.length = data.width * data.height * 4
  | _ => True

/-- **Every operation keeps the sizes** of the buffers, if it brings in pixels of the right size. -/
theorem sized {c : Cache} (hs : c.Sized) (op : CacheOp) (hop : op.StoresSized) : (op.apply c).Sized := by
  have hplays : op.Plays → (op.apply c).Sized := fun hplays => animationInvariant_sized.apply c op hplays hs
  have hupkeep : op.Upkeep → (op.apply c).Sized := fun hupkeep => hs.survives (upkeepInvariant_survives.apply c op hupkeep)
  cases op with
  | nextImageId => exact hs.of_eq rfl rfl
  | store data => exact sized_store hs fun _ _ => hop
  | storeAnimated data frames durations loopCount => exact sized_storeAnimated hs durations loopCount hop.1 hop.2
  | putFrame req => exact sized_putFrame hs req
  | composeFrame req => exact sized_composeFrame hs req
  | removeAnimationFrame id frameNumber => exact sized_removeAnimationFrame hs id frameNumber
  | ensureAnimationStateForRootGap id gapUpdate => exact sized_ensureAnimationStateForRootGap hs id gapUpdate
  | setAnimationEnabled | setAnimationAction | setAnimationLoops | setFrameGap | setCurrentFrame | advanceAnimations =>
    exact hplays trivial
  | _ => exact hupkeep trivial

end CacheOp

end OriTerm.Image
