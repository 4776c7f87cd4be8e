import OriTerm.Image.Eviction

/-!
# `Image.Atomic` — what a failed operation leaves behind

Storing an image and loading or composing a frame can fail. Every check on the request comes before the cache is
touched, and an edit in place restores what it detached; but an operation that finds no room reports that only after
it evicted what it could, and an append onto a static image only after it promoted the image.

Whether evicting can make room is `Cache.roomFor`, read off the cache before the operation
(**`evictLoop_room`**). **`CacheOp.atomicOnError_iff`** says when a failed operation leaves the cache as it was:
when it fails before it makes room, when room can be made, or when nothing can be evicted.
-/

namespace OriTerm.Image

open Lib List AList

namespace Cache

variable {c c' : Cache} {id : ImageId}

/-! ## Whether room can be made -/

/-- The bytes that evicting can release: those of the images that are not pinned. -/
def freeable (c : Cache) (pinned : ImageId → Bool) : Nat := c.bytesOf (c.images.keys.filter fun x => !pinned x)

/-- **Evicting can make room** for `size` bytes: without the unpinned images they fit, or nothing is pinned. -/
def roomFor (c : Cache) (pinned : ImageId → Bool) (size : Nat) : Bool :=
  !c.images.keys.any pinned || decide (c.memoryUsed - c.freeable pinned + size ≤ c.memoryLimit)

variable {pinned : ImageId → Bool}

/-- There is a victim as long as some image is not pinned. -/
theorem victim_eq_none : c.victim pinned = none ↔ c.images.keys.all pinned = true := by
  unfold victim
  rw [Option.map_eq_none_iff, argmin_eq_none, filter_eq_nil_iff, all_eq_true]
  constructor
  · intro h x hx
    obtain ⟨e, he, rfl⟩ := mem_map.mp hx
    have hpinned := h e he
    rwa [Bool.not_eq_true', Bool.not_eq_false] at hpinned
  · intro h e he
    rw [h e.1 (mem_map_of_mem he)]
    exact Bool.false_ne_true

/-- Two caches with the same images, of the same sizes as far as they are not pinned, have the same room. -/
theorem roomFor_congr (hkeys : c'.images.keys.Perm c.images.keys)
    (hbytes : ∀ x, pinned x = false → c'.imageBytes x = c.imageBytes x) (hused : c'.memoryUsed = c.memoryUsed)
    (hlimit : c'.memoryLimit = c.memoryLimit) (size : Nat) : c'.roomFor pinned size = c.roomFor pinned size := by
  have hany : c'.images.keys.any pinned = c.images.keys.any pinned := by
    rw [Bool.eq_iff_iff, any_eq_true, any_eq_true]
    exact exists_congr fun x => and_congr_left fun _ => hkeys.mem_iff
  have hfree : c'.freeable pinned = c.freeable pinned := by
    have hperm := (hkeys.filter fun x => !pinned x).map c'.imageBytes
    have hsame : ((c.images.keys.filter fun x => !pinned x).map c'.imageBytes)
        = (c.images.keys.filter fun x => !pinned x).map c.imageBytes := by
      refine map_congr_left fun x hx => hbytes x ?_
      have hunpinned := (mem_filter.mp hx).2
      rwa [Bool.not_eq_true'] at hunpinned
    unfold freeable bytesOf
    rw [hperm.sum_eq, hsame]
  unfold roomFor
  rw [hany, hfree, hused, hlimit]

/-- Evicting the victim leaves the room that evicting can make. -/
theorem roomFor_removeImage {v : ImageId} (hv : c.victim pinned = some v) (size : Nat) :
    (c.removeImage v).roomFor pinned size = c.roomFor pinned size := by
  obtain ⟨hheld, hunpinned, _⟩ := victim_spec hv
  have hmem := mem_keys hheld
  have hany : (c.images.keys.erase v).any pinned = c.images.keys.any pinned := by
    have hperm := perm_cons_erase hmem
    rw [Bool.eq_iff_iff, any_eq_true, any_eq_true]
    refine exists_congr fun x => and_congr_left fun hx => ?_
    rw [hperm.mem_iff, mem_cons]
    refine ⟨.inr, fun h => h.resolve_left ?_⟩
    rintro rfl
    rw [hunpinned] at hx
    cases hx
  have hfree : c.freeable pinned = c.imageBytes v + (c.removeImage v).freeable pinned := by
    have hperm := ((perm_cons_erase hmem).filter fun x => !pinned x).map c.imageBytes
    rw [filter_cons_of_pos (by rw [hunpinned]; rfl), map_cons] at hperm
    unfold freeable bytesOf
    rw [hperm.sum_eq, sum_cons, keys_removeImage hheld]
    congr 2
    refine map_congr_left fun x hx => (imageBytes_removeImage_ne ?_).symm
    rintro rfl
    exact (keys_nodup c.images).not_mem_erase (mem_filter.mp hx).1
  have hused := memoryUsed_removeImage c v
  rw [if_pos hheld] at hused
  unfold roomFor
  rw [keys_removeImage hheld, hany, hused, memoryLimit_removeImage, hfree, Nat.sub_sub]

/-- **The loop ends within the limit exactly when evicting can make room.** -/
theorem evictLoop_room (pinned : ImageId → Bool) (size fuel : Nat) (c : Cache) (hfuel : c.images.keys.length < fuel) :
    (evictLoop pinned size fuel c).2 = c.roomFor pinned size := by
  induction fuel generalizing c with
  | zero => cases hfuel
  | succ fuel ih =>
    unfold evictLoop
    split
    · next hover =>
      cases hvictim : c.victim pinned with
      | none =>
        have hall := all_eq_true.mp (victim_eq_none.mp hvictim)
        have hnil : (c.images.keys.filter fun x => !pinned x) = [] := by
          refine filter_eq_nil_iff.mpr fun x hx => ?_
          rw [hall x hx]
          exact Bool.false_ne_true
        have hany : c.images.keys.any pinned = true := by
          cases hentries : c.images.entries with
          | nil =>
            rw [hentries] at hover
            exact absurd hover.2 Bool.false_ne_true
          | cons e entries =>
            have hmem : e.1 ∈ c.images.keys := mem_map_of_mem (by rw [hentries]; exact mem_cons_self ..)
            exact any_eq_true.mpr ⟨e.1, hmem, hall e.1 hmem⟩
        have hnone : c.evictOne pinned = none := by
          unfold evictOne
          rw [hvictim]
          rfl
        rw [hnone]
        unfold roomFor freeable
        rw [hany, hnil, decide_eq_false (by show ¬ c.memoryUsed - 0 + size ≤ c.memoryLimit; omega)]
        rfl
      | some v =>
        have hheld := (victim_spec hvictim).1
        have hpos := length_pos_of_mem (mem_keys hheld)
        have hlen : (c.removeImage v).images.keys.length < fuel := by
          rw [keys_removeImage hheld, length_erase_of_mem (mem_keys hheld)]
          omega
        have hsome : c.evictOne pinned = some (c.removeImage v) := by
          unfold evictOne
          rw [hvictim]
          rfl
        rw [hsome]
        exact (ih _ hlen).trans (roomFor_removeImage hvictim size)
    · next hover =>
      symm
      unfold roomFor
      rw [Bool.or_eq_true, decide_eq_true_eq]
      rw [not_and_or, Nat.not_lt, Bool.not_eq_true, Bool.not_eq_false', List.isEmpty_iff] at hover
      rcases hover with hfits | hempty
      · exact .inr ((Nat.add_le_add_right (Nat.sub_le ..) size).trans hfits)
      · have hnone : c.images = ∅ := AList.ext hempty
        rw [hnone]
        exact .inl rfl

/-- There is fuel for every image. -/
theorem keys_length_lt (c : Cache) : c.images.keys.length < c.images.entries.length + 1 := by
  show (c.images.entries.map Sigma.fst).length < _
  rw [length_map]
  exact Nat.lt_succ_self _

/-! ## What stays as it was -/

/-- The two caches have the same images with their pixels, frames, animations, placements and memory count. -/
structure Intact (c c' : Cache) : Prop where
  images : c'.images = c.images
  frames : c'.animationFrames = c.animationFrames
  animations : c'.animations = c.animations
  placements : c'.placements = c.placements
  used : c'.memoryUsed = c.memoryUsed

theorem Intact.refl (c : Cache) : Intact c c := ⟨rfl, rfl, rfl, rfl, rfl⟩

/-- Handing out a frame id leaves no trace. -/
theorem intact_nextFrameId (c : Cache) (n : Nat) : Intact c { c with nextFrameId := n } := ⟨rfl, rfl, rfl, rfl, rfl⟩

/-- **Atomic.** The result of an operation: when it is an error, the cache is as it was. -/
def Atomic {α : Type} (c : Cache) (r : Cache × Except Error α) : Prop := ∀ e, r.2 = .error e → Intact c r.1

variable {α : Type}

theorem Atomic.error (h : Intact c c') (e : Error) : Atomic c (c', (.error e : Except Error α)) := fun _ _ => h

theorem Atomic.ok (c c' : Cache) (a : α) : Atomic c (c', (.ok a : Except Error α)) := nofun

/-- **A loop that fails** leaves the cache as it was exactly when it found nothing to evict. -/
theorem evictLoop_failed {size fuel : Nat} (hfail : (evictLoop pinned size fuel c).2 = false) :
    Intact c (evictLoop pinned size fuel c).1 ↔ c.images.keys.all pinned = true := by
  cases fuel with
  | zero => cases hfail
  | succ fuel =>
    unfold evictLoop at hfail ⊢
    split
    · next hover =>
      cases hvictim : c.victim pinned with
      | none =>
        have hnone : c.evictOne pinned = none := by
          unfold evictOne
          rw [hvictim]
          rfl
        rw [hnone]
        exact iff_of_true (.refl c) (victim_eq_none.mp hvictim)
      | some v =>
        have hsome : c.evictOne pinned = some (c.removeImage v) := by
          unfold evictOne
          rw [hvictim]
          rfl
        obtain ⟨hheld, hunpinned, _⟩ := victim_spec hvictim
        rw [hsome]
        refine iff_of_false (fun h => ?_) fun hall => ?_
        · -- The first victim does not come back.
          obtain ⟨victims, hvictims⟩ := evictLoop_lru pinned size fuel (c.removeImage v)
          have hgone := hvictims.lookup v
          rw [removeImage_lookup, ite_self, h.images] at hgone
          unfold holds at hheld
          rw [hgone] at hheld
          cases hheld
        · have hpinned := all_eq_true.mp hall v (mem_keys hheld)
          rw [hunpinned] at hpinned
          cases hpinned
    · next hover =>
      rw [if_neg hover] at hfail
      cases hfail

/-- An operation that makes room can fail without a trace: evicting makes the room, or takes nothing. -/
def fitsOrPinned (c : Cache) (pinned : ImageId → Bool) (size : Nat) : Bool :=
  c.roomFor pinned size || c.images.keys.all pinned

/-- **An operation that fails only for want of room.** -/
theorem atomic_evicting_iff {size : Nat} {r : Cache × Except Error α}
    (hfail : (evictLoop pinned size (c.images.entries.length + 1) c).2 = false → ∃ e, r = ((evictLoop pinned size (c.images.entries.length + 1) c).1, .error e))
    (hok : (evictLoop pinned size (c.images.entries.length + 1) c).2 = true → ∃ a, r.2 = .ok a) :
    Atomic c r ↔ c.fitsOrPinned pinned size = true := by
  have hroom := evictLoop_room pinned size _ c c.keys_length_lt
  unfold fitsOrPinned
  rw [← hroom]
  cases h : (evictLoop pinned size (c.images.entries.length + 1) c).2 with
  | false =>
    obtain ⟨e, rfl⟩ := hfail h
    rw [Bool.false_or, ← evictLoop_failed h]
    exact ⟨fun hatomic => hatomic e rfl, fun hintact _ _ => hintact⟩
  | true =>
    obtain ⟨a, ha⟩ := hok h
    refine iff_of_true (fun e he => ?_) rfl
    rw [ha] at he
    cases he

/-! ## Storing an image -/

/-- A store that fails leaves no trace: it is refused for its size, or it can have the room it needs, or there is
    nothing to evict. -/
def storeAtomic (c : Cache) (size : Nat) : Bool :=
  decide (size > c.maxSingleImageBytes) || c.fitsOrPinned c.reachable size

theorem store_atomic_iff (c : Cache) (data : Data) :
    Atomic c (c.store data) ↔ c.storeAtomic data.data.length = true := by
  unfold storeAtomic
  by_cases hsize : data.data.length > c.maxSingleImageBytes
  · have hrefused : c.store data = (c, .error .oversizedImage) := by
      unfold store
      rw [if_pos hsize]
    rw [hrefused, decide_eq_true hsize]
    exact iff_of_true (.error (.refl c) _) rfl
  · rw [decide_eq_false hsize]
    refine atomic_evicting_iff (fun hfail => ?_) fun hok => ?_
    · refine ⟨.memoryLimitExceeded, ?_⟩
      unfold store
      dsimp only
      rw [if_neg hsize, hfail]
      rfl
    · refine ⟨data.id, ?_⟩
      unfold store
      dsimp only
      rw [if_neg hsize, hok]
      rfl

/-- An animated store fails where the store of its first frame does, or for the size of all frames. -/
def storeAnimatedAtomic (c : Cache) (data : Data) : List (List UInt8) → Bool
  | [] => c.storeAtomic data.data.length
  | first :: rest =>
    decide (((first :: rest).map List.length).sum > c.maxSingleImageBytes) || c.storeAtomic first.length

theorem storeAnimated_atomic_iff (c : Cache) (data : Data) (frames : List (List UInt8)) (durations : List Nanos)
    (loopCount : Option Nat) :
    Atomic c (c.storeAnimated data frames durations loopCount) ↔ c.storeAnimatedAtomic data frames = true := by
  cases frames with
  | nil => exact store_atomic_iff c data
  | cons first rest =>
    have hstore := store_atomic_iff c { data with data := first }
    unfold storeAnimatedAtomic
    have hout := c.storeAnimated_outcome data first rest durations loopCount
    generalize c.storeAnimated data (first :: rest) durations loopCount = r at hout ⊢
    dsimp only
    cases hout with
    | oversized hsize =>
      rw [decide_eq_true hsize]
      exact iff_of_true (.error (.refl c) _) rfl
    | failed hsize hfailed =>
      rw [decide_eq_false hsize, Bool.false_or, ← hstore, hfailed]
    | stored hsize hstored =>
      rw [decide_eq_false hsize, Bool.false_or, ← hstore, hstored]
      exact iff_of_true (.ok _ _ _) (.ok _ _ _)

/-! ## Editing and composing frames -/

/-- Replacing a frame's pixels fails before it writes. -/
theorem replaceFrameBytes_atomic (c : Cache) (id : ImageId) (frameNum : Nat) (composed : List UInt8)
    (gapUpdate : Option Nanos) : Atomic c (c.replaceFrameBytes id frameNum composed gapUpdate) := by
  have hout := c.replaceFrameBytes_outcome id frameNum composed gapUpdate
  generalize c.replaceFrameBytes id frameNum composed gapUpdate = r at hout ⊢
  cases hout with
  | absent => exact .error (.refl c) _
  | refused => exact .error (intact_nextFrameId c _) _
  | marked | redrawn | promoted | written => exact .ok _ _ _

theorem composeFrame_atomic (c : Cache) (req : ComposeRequest) : Atomic c (c.composeFrame req) := by
  have hout := c.composeFrame_outcome req
  generalize c.composeFrame req = r at hout ⊢
  cases hout with
  | refused _ e => exact .error (.refl c) e
  | @composed _ _ _ composed =>
    have hreplace := replaceFrameBytes_atomic c req.imageId req.dstFrame composed none
    intro e he
    rcases hr : (c.replaceFrameBytes req.imageId req.dstFrame composed none).2 with e' | n
    · exact hreplace e' hr
    · rw [hr] at he
      cases he

theorem tryEditInPlace_atomic (c : Cache) (req : FrameLoadRequest) (imageW imageH : Nat)
    {result : Except Error Nat} (hresult : (c.tryEditInPlace req imageW imageH).2 = some result) :
    Atomic c ((c.tryEditInPlace req imageW imageH).1, result) := by
  have hout := c.tryEditInPlace_outcome req imageW imageH
  generalize c.tryEditInPlace req imageW imageH = r at hout hresult ⊢
  cases hout with
  | declined => cases hresult
  | failed =>
    cases hresult
    exact .error (.refl c) _
  | written =>
    cases hresult
    exact .ok _ _ _

/-! ## Appending a frame -/

theorem evictForFrame_eq (c : Cache) (id : ImageId) (size : Nat) :
    c.evictForFrame id size = evictLoop (c.pinnedFor id) size (c.images.entries.length + 1) c := rfl

theorem pushDeltaFrame_atomic_iff (c : Cache) (id : ImageId) (base depth area : Nat) (req : FrameLoadRequest)
    (gap : Nanos) :
    Atomic c (c.pushDeltaFrame id base depth area req gap)
      ↔ c.fitsOrPinned (c.pinnedFor id) req.frameData.length = true := by
  refine atomic_evicting_iff (fun hfail => ?_) fun hok => ?_
  · refine ⟨.memoryLimitExceeded, ?_⟩
    unfold pushDeltaFrame
    dsimp only
    rw [evictForFrame_eq, hfail]
    rfl
  · unfold pushDeltaFrame
    dsimp only
    rw [evictForFrame_eq, hok]
    exact ⟨_, rfl⟩

theorem pushComposedFrame_atomic_iff (hid : c.holds id = true) (composed : List UInt8) (gap : Nanos) :
    Atomic c (c.pushComposedFrame id composed gap)
      ↔ (decide (composed.length > c.maxSingleImageBytes) || c.fitsOrPinned (c.pinnedFor id) composed.length) = true := by
  by_cases hsize : composed.length > c.maxSingleImageBytes
  · have hrefused : c.pushComposedFrame id composed gap = (c, .error .oversizedImage) := by
      unfold pushComposedFrame
      rw [if_pos hsize]
    rw [hrefused, decide_eq_true hsize]
    exact iff_of_true (.error (.refl c) _) rfl
  · rw [decide_eq_false hsize]
    refine atomic_evicting_iff (fun hfail => ?_) fun hok => ?_
    · refine ⟨.memoryLimitExceeded, ?_⟩
      unfold pushComposedFrame
      dsimp only
      rw [if_neg hsize, evictForFrame_eq, hfail]
      rfl
    · -- The image is pinned, so it is still there.
      have hheld := (evictForFrame_protected c id composed.length).1
      obtain ⟨img, hi⟩ := holds_eq_true.mp hid
      rw [hi] at hheld
      unfold pushComposedFrame
      dsimp only
      rw [if_neg hsize, hheld, evictForFrame_eq, hok, if_neg (show ¬ (!true) = true from Bool.false_ne_true)]
      split
      · exact ⟨_, rfl⟩
      · next h => cases h
      · exact ⟨_, rfl⟩

/-- The fast path of an append turns a static image into an animation first. -/
def promotes (c : Cache) (req : FrameLoadRequest) : Bool :=
  req.canvas == .frame 1 && (c.animations.lookup req.imageId).isNone

/-- The fast path takes an append onto an earlier frame, as long as the chain is short. -/
def deltaApplies (c : Cache) (req : FrameLoadRequest) (imageW imageH : Nat) : Bool :=
  match req.canvas with
  | .frame n =>
    (if n = 0 then none else ((c.animationFrames.lookup req.imageId).getD [])[n - 1]?).any fun base =>
      decide ((if base.isDelta then base.depth + 1 else 0) ≤ maxDeltaChainDepth
        ∧ base.cumulativeDrawnArea + req.blit.width * req.blit.height ≤ imageW * imageH * maxCumulativeDrawnAreaRatio)
  | _ => false

/-- **When loading a frame leaves no trace of a failure.** An edit always does, and so does an append that is refused
    before it makes room; where the image was promoted, there has to be room. -/
def putFrameAtomic (c : Cache) (req : FrameLoadRequest) : Bool :=
  match req.target, c.validateFrameRequest req with
  | .append _, .ok (imageW, imageH) =>
    if c.promotes req then c.roomFor (c.pinnedFor req.imageId) req.frameData.length
    else if c.deltaApplies req imageW imageH then c.fitsOrPinned (c.pinnedFor req.imageId) req.frameData.length
    else
      match c.resolveCanvasBytes req imageW imageH with
      | .ok canvas =>
        decide (canvas.length > c.maxSingleImageBytes) || c.fitsOrPinned (c.pinnedFor req.imageId) canvas.length
      | .error _ => true
  | _, _ => true

/-- An append onto the root of a static image promotes it, and takes the fast path. -/
theorem tryPushDeltaAppend_promoted {req : FrameLoadRequest} {gap : Nanos} (htarget : req.target = .append gap)
    (hpromotes : c.promotes req = true) {img : Data} (hi : c.images.lookup req.imageId = some img)
    (hfits : ¬ (req.blit.width > img.width ∨ req.blit.height > img.height)) :
    ∃ base depth area, c.tryPushDeltaAppend req img.width img.height =
      (((c.promoteRoot req.imageId img 0).pushDeltaFrame req.imageId base depth area req gap).1,
        some ((c.promoteRoot req.imageId img 0).pushDeltaFrame req.imageId base depth area req gap).2) := by
  unfold promotes at hpromotes
  rw [Bool.and_eq_true, beq_iff_eq] at hpromotes
  obtain ⟨hcanvas, hstatic⟩ := hpromotes
  have hpromoted : c.autoPromoteStaticRoot req.imageId = .ok (c.promoteRoot req.imageId img 0) := by
    unfold autoPromoteStaticRoot
    rw [if_neg (by rw [Option.isSome_iff_ne_none, not_not, ← Option.isNone_iff_eq_none]; exact hstatic), hi]
  have hframes : (c.promoteRoot req.imageId img 0).animationFrames.lookup req.imageId
      = some [.materialized c.nextFrameId img.data] := lookup_insert ..
  have harea : 0 + req.blit.width * req.blit.height ≤ img.width * img.height * maxCumulativeDrawnAreaRatio := by
    rw [not_or, Nat.not_lt, Nat.not_lt] at hfits
    have hmul := Nat.mul_le_mul hfits.1 hfits.2
    unfold maxCumulativeDrawnAreaRatio
    omega
  have hentry : (if 1 = 0 then none
      else (((c.promoteRoot req.imageId img 0).animationFrames.lookup req.imageId).getD [])[1 - 1]?)
        = some (.materialized c.nextFrameId img.data) := by
    rw [hframes]
    rfl
  unfold tryPushDeltaAppend
  rw [htarget, hcanvas]
  dsimp only
  rw [if_pos rfl, hpromoted]
  dsimp only
  rw [hentry]
  exact ⟨_, _, _, if_pos ⟨Nat.zero_le _, harea⟩⟩

/-- Promoting an image changes neither the room nor what is pinned. -/
theorem roomFor_promoteRoot {img : Data} (hi : c.images.lookup id = some img) (size : Nat) :
    (c.promoteRoot id img 0).roomFor ((c.promoteRoot id img 0).pinnedFor id) size
      = c.roomFor (c.pinnedFor id) size := by
  have hused : (c.promoteRoot id img 0).memoryUsed = c.memoryUsed := rfl
  refine roomFor_congr ?_ (fun x hx => ?_) hused rfl size
  · show (c.images.insert id { img with sharedFrame := some c.nextFrameId }).keys.Perm c.images.keys
    rw [keys_insert]
    exact (perm_cons_erase (mem_keys (holds_eq_true.mpr ⟨img, hi⟩))).symm
  · have hne : x ≠ id := by
      rintro rfl
      unfold pinnedFor at hx
      rw [beq_self_eq_true, Bool.or_true] at hx
      cases hx
    unfold imageBytes promoteRoot
    rw [lookup_insert_ne hne, lookup_insert_ne hne]

/-- Where the image was promoted, a failure leaves it so. -/
theorem promoted_atomic_iff {img : Data} (hi : c.images.lookup id = some img)
    (hstatic : c.animations.lookup id = none) (base depth area : Nat) (req : FrameLoadRequest) (gap : Nanos) :
    Atomic c ((c.promoteRoot id img 0).pushDeltaFrame id base depth area req gap)
      ↔ c.roomFor (c.pinnedFor id) req.frameData.length = true := by
  have hroom := evictLoop_room ((c.promoteRoot id img 0).pinnedFor id) req.frameData.length _ _
    (c.promoteRoot id img 0).keys_length_lt
  rw [roomFor_promoteRoot hi, ← evictForFrame_eq] at hroom
  have hkept := (evictForFrame_protected (c.promoteRoot id img 0) id req.frameData.length).2.2
  have hpromoted : (c.promoteRoot id img 0).animations.lookup id = some (.new [0] none) := lookup_insert ..
  rw [← hroom]
  unfold pushDeltaFrame
  dsimp only
  cases h : ((c.promoteRoot id img 0).evictForFrame id req.frameData.length).2 with
  | false =>
    refine iff_of_false (fun hatomic => ?_) Bool.false_ne_true
    have hsame : ((c.promoteRoot id img 0).evictForFrame id req.frameData.length).1.animations = c.animations :=
      (hatomic .memoryLimitExceeded rfl).animations
    rw [hsame, hpromoted, hstatic] at hkept
    cases hkept
  | true => exact iff_of_true (.ok _ _ _) rfl

/-- Elsewhere the fast path leaves the cache alone or appends a delta. -/
theorem tryPushDeltaAppend_eq {req : FrameLoadRequest} {gap : Nanos} (htarget : req.target = .append gap)
    (hpromotes : c.promotes req = false) (imageW imageH : Nat) :
    (c.deltaApplies req imageW imageH = false ∧ c.tryPushDeltaAppend req imageW imageH = (c, none))
      ∨ (c.deltaApplies req imageW imageH = true ∧ ∃ base depth area, c.tryPushDeltaAppend req imageW imageH =
          ((c.pushDeltaFrame req.imageId base depth area req gap).1,
            some (c.pushDeltaFrame req.imageId base depth area req gap).2)) := by
  cases hcanvas : req.canvas with
  | solidColor | editTarget =>
    left
    unfold deltaApplies tryPushDeltaAppend
    rw [htarget, hcanvas]
    exact ⟨rfl, rfl⟩
  | frame n =>
    have hpromoted : (if n = 1 then c.autoPromoteStaticRoot req.imageId else .ok c) = .ok c := by
      split
      · next hn =>
        subst hn
        unfold promotes at hpromotes
        rw [hcanvas, beq_self_eq_true, Bool.true_and] at hpromotes
        unfold autoPromoteStaticRoot
        rw [if_pos (by rw [← Option.not_isNone, hpromotes]; rfl)]
      · rfl
    unfold deltaApplies tryPushDeltaAppend
    rw [htarget, hcanvas]
    dsimp only
    rw [hpromoted]
    dsimp only
    cases (if n = 0 then none else ((c.animationFrames.lookup req.imageId).getD [])[n - 1]?) with
    | none => exact .inl ⟨rfl, rfl⟩
    | some base =>
      dsimp only [Option.any_some]
      generalize (if base.isDelta = true then base.depth + 1 else 0) = depth
      split
      · next hshort => exact .inr ⟨decide_eq_true hshort, _, _, _, rfl⟩
      · next hlong => exact .inl ⟨decide_eq_false hlong, rfl⟩

/-- **Loading a frame.** -/
theorem putFrame_atomic_iff (c : Cache) (req : FrameLoadRequest) :
    Atomic c (c.putFrame req) ↔ c.putFrameAtomic req = true := by
  cases htarget : req.target with
  | edit frameNum gapUpdate =>
    have htrue : c.putFrameAtomic req = true := by
      unfold putFrameAtomic
      rw [htarget]
    refine iff_of_true ?_ htrue
    have hout := c.putFrame_outcome req
    generalize c.putFrame req = r at hout ⊢
    cases hout with
    | rejected | untargeted => exact .error (.refl c) _
    | edited _ _ hc' hedited => exact hc' ▸ tryEditInPlace_atomic _ _ _ _ hedited
    | replaced => exact replaceFrameBytes_atomic _ _ _ _ _
    | pushed _ happend | unsourced _ happend | appended _ happend => cases htarget.symm.trans happend
  | append gap =>
    unfold putFrame putFrameAtomic
    rw [htarget]
    cases hvalid : c.validateFrameRequest req with
    | error e => exact iff_of_true (.error (.refl c) e) rfl
    | ok dims =>
      obtain ⟨imageW, imageH⟩ := dims
      obtain ⟨⟨img, hi, rfl, rfl⟩, hfits, _⟩ := validateFrameRequest_ok hvalid
      have hid : c.holds req.imageId = true := holds_eq_true.mpr ⟨img, hi⟩
      dsimp only
      by_cases hpromotes : c.promotes req = true
      · obtain ⟨base, depth, area, hpush⟩ := tryPushDeltaAppend_promoted htarget hpromotes hi hfits
        have hstatic : c.animations.lookup req.imageId = none := by
          unfold promotes at hpromotes
          rw [Bool.and_eq_true] at hpromotes
          exact Option.isNone_iff_eq_none.mp hpromotes.2
        rw [hpush, if_pos hpromotes]
        exact promoted_atomic_iff hi hstatic base depth area req gap
      · rw [if_neg hpromotes]
        rcases tryPushDeltaAppend_eq htarget (Bool.not_eq_true _ ▸ hpromotes) img.width img.height with
          ⟨hdelta, hpush⟩ | ⟨hdelta, base, depth, area, hpush⟩
        · have hplace : (if req.canvas = .editTarget ∧ (c.animations.lookup req.imageId).isSome = true then
              c.tryEditInPlace req img.width img.height else (c, none)) = (c, none) := by
            split
            · unfold tryEditInPlace
              rw [htarget]
            · rfl
          rw [hpush, if_neg (by rw [hdelta]; exact Bool.false_ne_true)]
          dsimp only
          rw [hplace]
          dsimp only
          cases hcanvas : c.resolveCanvasBytes req img.width img.height with
          | error e => exact iff_of_true (.error (.refl c) e) rfl
          | ok canvas =>
            dsimp only
            obtain ⟨composed, hcomposed⟩ := blitSubrectIntoCanvas_ok hfits canvas req.frameData req.compositionMode
            rw [hcomposed, ← blitSubrectIntoCanvas_length hcomposed]
            exact pushComposedFrame_atomic_iff hid composed gap
        · rw [hpush, if_pos hdelta]
          exact pushDeltaFrame_atomic_iff c req.imageId base depth area req gap

end Cache

/-! ## The operations that can fail -/

open Cache

namespace CacheOp

/-- **Atomic on error.** A store, a frame load or a composition that fails leaves the cache as it was; the other
    operations do not fail. -/
def AtomicOnError (c : Cache) : CacheOp → Prop
  | store data => Atomic c (c.store data)
  | storeAnimated data frames durations loopCount => Atomic c (c.storeAnimated data frames durations loopCount)
  | putFrame req => Atomic c (c.putFrame req)
  | composeFrame req => Atomic c (c.composeFrame req)
  | _ => True

/-- A failure of the operation cannot leave a trace. -/
def leavesNoTrace (c : Cache) : CacheOp → Bool
  | store data => c.storeAtomic data.data.length
  | storeAnimated data frames _ _ => c.storeAnimatedAtomic data frames
  | putFrame req => c.putFrameAtomic req
  | _ => true

/-- **Operations are atomic on error exactly where they cannot run out of room halfway.** -/
theorem atomicOnError_iff (c : Cache) (op : CacheOp) : op.AtomicOnError c ↔ op.leavesNoTrace c = true := by
  cases op with
  | store data => exact store_atomic_iff c data
  | storeAnimated data frames durations loopCount => exact storeAnimated_atomic_iff c data frames durations loopCount
  | putFrame req => exact putFrame_atomic_iff c req
  | composeFrame req => exact iff_of_true (composeFrame_atomic c req) rfl
  | _ => exact iff_of_true trivial rfl

/-- Under a limit of 20 bytes, an image that is placed and one that is not, of 8 bytes each. -/
def placedAndNot : Cache :=
  run CacheOp.apply .new [.setMemoryLimit 20, .store twoPixels, .store { twoPixels with id := 2 },
    .place { imageId := 1, placementId := none, sourceX := 0, sourceY := 0, sourceW := 0, sourceH := 0, cellCol := 0
             cellRow := ⟨0⟩, cols := 1, rows := 1, zIndex := 0, cellXOffset := 0, cellYOffset := 0
             sizing := .cellCount }]

/-- A third image, of 16 bytes, does not fit beside the one that is placed; the other is evicted before the store
    is refused. -/
theorem store_evicts_then_fails :
    (placedAndNot.store { twoPixels with id := 3, data := twoPixels.data ++ twoPixels.data }).2
        = .error .memoryLimitExceeded
      ∧ placedAndNot.holds 2 = true
      ∧ (placedAndNot.store { twoPixels with id := 3, data := twoPixels.data ++ twoPixels.data }).1.holds 2 = false
      ∧ ¬ AtomicOnError placedAndNot (.store { twoPixels with id := 3, data := twoPixels.data ++ twoPixels.data }) := by
  have hheld : placedAndNot.holds 2 = true := by decide +kernel
  have hgone : (placedAndNot.store { twoPixels with id := 3, data := twoPixels.data ++ twoPixels.data }).1.holds 2
      = false := by decide +kernel
  have herror : (placedAndNot.store { twoPixels with id := 3, data := twoPixels.data ++ twoPixels.data }).2
      = .error .memoryLimitExceeded := by decide +kernel
  refine ⟨herror, hheld, hgone, fun h => ?_⟩
  have hsame := (h _ herror).images
  unfold holds at hheld hgone
  rw [hsame, hheld] at hgone
  cases hgone

end CacheOp

end OriTerm.Image
