import OriTerm.Image.CacheOp
import OriTerm.Lib.Lru

/-!
# `Image.Memory` — what the memory counter counts

`memoryUsed` is updated in a dozen places while images come and go and frames change their representation.
`Cache.retained` is what it is meant to be: the bytes of the static images and of every stored frame.

Shape: `Stored` is the structural invariant, one condition for each id, which every operation keeps;
`Accounted` is the counter's exactness. An operation touches one id at a time, so its effect on the sum is
`retained_exchange`, and `Accounted.change` turns it into the effect on `Accounted`. Two operations do not always
settle their account (`CacheOp.Balanced` says when they do), hence the main result is an equivalence:
**`CacheOp.accounted_run_iff`**.
-/

namespace OriTerm.Image

open Lib List AList

namespace Cache

variable {composed : List UInt8}

/-! ## What the cache retains -/

/-- The bytes retained under an id: of its stored frames, or of its pixels when it has none. -/
def imageBytes (c : Cache) (id : ImageId) : Nat :=
  match c.animationFrames.lookup id with
  | some frames => (frames.map FrameEntry.memoryBytes).sum
  | none => ((c.images.lookup id).map fun img => img.data.length).getD 0

/-- The ids under which something is stored. -/
def storedIds (c : Cache) : Finset ImageId := (c.images.keys ++ c.animationFrames.keys).toFinset

/-- The bytes of all static images and of all stored frames. -/
def retained (c : Cache) : Nat := ∑ id ∈ c.storedIds, c.imageBytes id

/-- **The counter is exact.** It is the number of bytes retained, and no subtraction was cut off. -/
structure Accounted (c : Cache) : Prop where
  exact : c.memoryUsed = c.retained
  noUnderflow : c.underflowed = false

variable {c c' c'' : Cache} {id : ImageId}

variable {frames : List FrameEntry}

theorem imageBytes_of_frames (h : c.animationFrames.lookup id = some frames) :
    c.imageBytes id = (frames.map FrameEntry.memoryBytes).sum := by
  unfold imageBytes
  rw [h]

variable {img : Data}

theorem imageBytes_of_static (hf : c.animationFrames.lookup id = none) (hi : c.images.lookup id = some img) :
    c.imageBytes id = img.data.length := by
  unfold imageBytes
  rw [hf, hi]
  rfl

theorem imageBytes_of_absent (hf : c.animationFrames.lookup id = none) (hi : c.images.lookup id = none) :
    c.imageBytes id = 0 := by
  unfold imageBytes
  rw [hf, hi]
  rfl

theorem imageBytes_eq_zero (h : id ∉ c.storedIds) : c.imageBytes id = 0 := by
  unfold storedIds at h
  rw [mem_toFinset, mem_append, not_or] at h
  exact imageBytes_of_absent (lookup_eq_none.mpr h.2) (lookup_eq_none.mpr h.1)

/-- **One id changes the sum by what it retains.** -/
theorem retained_exchange (h : ∀ x, x ≠ id → c'.imageBytes x = c.imageBytes x) :
    c'.retained + c.imageBytes id = c.retained + c'.imageBytes id :=
  sum_exchange (fun _ hx => imageBytes_eq_zero hx) (fun _ hx => imageBytes_eq_zero hx) id h

/-- What is retained under an id is part of the sum. -/
theorem imageBytes_le_retained (c : Cache) (id : ImageId) : c.imageBytes id ≤ c.retained := by
  by_cases h : id ∈ c.storedIds
  · rw [retained, ← Finset.add_sum_erase _ _ h]
    exact Nat.le_add_right ..
  · rw [imageBytes_eq_zero h]
    exact Nat.zero_le _

/-! ## The structure of the store -/

/-- What is stored under one id: nothing, a static image, or an image with an animation. An animation has frames,
    and a single frame is a full canvas of the size on display. -/
inductive StoredAt (c : Cache) (id : ImageId) : Prop
  | absent (himage : c.images.lookup id = none) (hframes : c.animationFrames.lookup id = none)
      (hstate : c.animations.lookup id = none)
  | static (img : Data) (himage : c.images.lookup id = some img) (hframes : c.animationFrames.lookup id = none)
      (hstate : c.animations.lookup id = none)
  | animated (img : Data) (frames : List FrameEntry) (state : AnimationState)
      (himage : c.images.lookup id = some img) (hframes : c.animationFrames.lookup id = some frames)
      (hstate : c.animations.lookup id = some state) (hrooted : frames ≠ [])
      (hsingle : ∀ e, frames = [e] → e.isDelta = false ∧ e.memoryBytes = img.data.length)

/-- **The structural invariant** of the store. -/
def Stored (c : Cache) : Prop := ∀ id, c.StoredAt id

/-- The two caches store the same under an id, as far as sizes go. -/
structure SameAt (c c' : Cache) (id : ImageId) : Prop where
  images : (c'.images.lookup id).map (·.data.length) = (c.images.lookup id).map (·.data.length)
  frames : c'.animationFrames.lookup id = c.animationFrames.lookup id
  states : (c'.animations.lookup id).isSome = (c.animations.lookup id).isSome

theorem SameAt.of_eq (hi : c'.images.lookup id = c.images.lookup id)
    (hf : c'.animationFrames.lookup id = c.animationFrames.lookup id)
    (hs : c'.animations.lookup id = c.animations.lookup id) : SameAt c c' id :=
  ⟨by rw [hi], hf, by rw [hs]⟩

theorem SameAt.imageBytes (h : SameAt c c' id) : c'.imageBytes id = c.imageBytes id := by
  unfold Cache.imageBytes
  rw [h.frames, h.images]

theorem SameAt.storedAt (h : SameAt c c' id) (hs : c.StoredAt id) : c'.StoredAt id := by
  have himages := h.images
  have hstates := h.states
  cases hs with
  | absent hi hf ha =>
    rw [hi] at himages
    rw [ha] at hstates
    exact .absent (Option.map_eq_none_iff.mp himages) (h.frames.trans hf) (Option.isSome_eq_false_iff.mp hstates |>
      Option.isNone_iff_eq_none.mp)
  | static img hi hf ha =>
    rw [hi] at himages
    rw [ha] at hstates
    obtain ⟨img', hi', _⟩ := Option.map_eq_some_iff.mp himages
    exact .static img' hi' (h.frames.trans hf) (Option.isSome_eq_false_iff.mp hstates |>
      Option.isNone_iff_eq_none.mp)
  | animated img frames state hi hf ha hrooted hsingle =>
    rw [hi] at himages
    rw [ha] at hstates
    obtain ⟨img', hi', hlen⟩ := Option.map_eq_some_iff.mp himages
    obtain ⟨state', ha'⟩ := Option.isSome_iff_exists.mp hstates
    refine .animated img' frames state' hi' (h.frames.trans hf) ha' hrooted fun e he => ?_
    obtain ⟨hdelta, hbytes⟩ := hsingle e he
    exact ⟨hdelta, hbytes.trans hlen.symm⟩

/-- The sound caches. -/
structure Sound (c : Cache) : Prop where
  stored : c.Stored
  accounted : c.Accounted

/-- A change under one id keeps the structure. -/
theorem Stored.change (h : c.Stored) (hothers : ∀ x, x ≠ id → SameAt c c' x) (hid : c'.StoredAt id) : c'.Stored := by
  intro x
  by_cases hx : x = id
  · rw [hx]
    exact hid
  · exact (hothers x hx).storedAt (h x)

/-- **A change under one id keeps the account** when the counter moves by what the id gains or loses. -/
theorem Sound.change (h : c.Sound) (id : ImageId) (hothers : ∀ x, x ≠ id → SameAt c c' x) (hid : c'.StoredAt id)
    (hbytes : c'.memoryUsed + c.imageBytes id = c.memoryUsed + c'.imageBytes id)
    (hunder : c'.underflowed = c.underflowed) : c'.Sound := by
  have hexchange := retained_exchange fun x hx => (hothers x hx).imageBytes
  refine ⟨h.stored.change hothers hid, ?_, hunder.trans h.accounted.noUnderflow⟩
  have hexact := h.accounted.exact
  omega

/-- A change of the bookkeeping. -/
theorem Sound.same (h : c.Sound) (hsame : ∀ x, SameAt c c' x) (hused : c'.memoryUsed = c.memoryUsed)
    (hunder : c'.underflowed = c.underflowed) : c'.Sound :=
  h.change 0 (fun x _ => hsame x) ((hsame 0).storedAt (h.stored 0))
    (by rw [(hsame 0).imageBytes, hused]) hunder

/-- **Bytes released under an id** are subtracted without being cut off. -/
theorem Sound.release (h : c.Sound) (id : ImageId) (hothers : ∀ x, x ≠ id → SameAt c c' x) (hid : c'.StoredAt id) {bytes : Nat}
    (hbytes : c'.imageBytes id + bytes = c.imageBytes id) (hused : c'.memoryUsed = (c.debit bytes).memoryUsed)
    (hunder : c'.underflowed = (c.debit bytes).underflowed) : c'.Sound := by
  have hle := imageBytes_le_retained c id
  rw [← h.accounted.exact] at hle
  have hcut : ¬ c.memoryUsed < bytes := by omega
  refine h.change id hothers hid ?_ ?_
  · rw [hused]
    show c.memoryUsed - bytes + c.imageBytes id = _
    omega
  · rw [hunder]
    show (c.underflowed || decide (c.memoryUsed < bytes)) = c.underflowed
    rw [decide_eq_false hcut, Bool.or_false]

/-! ## Images -/

theorem sound_new : Cache.new.Sound :=
  ⟨fun _ => .absent rfl rfl rfl, rfl, rfl⟩

/-- Nothing is stored under an id without an image. -/
theorem Stored.absent_of_image (h : c.Stored) (hi : c.images.lookup id = none) :
    c.animationFrames.lookup id = none ∧ c.animations.lookup id = none := by
  cases h id with
  | absent _ hf ha => exact ⟨hf, ha⟩
  | static img hi' | animated img _ _ hi' => rw [hi] at hi'; cases hi'

theorem sound_removeImage (h : c.Sound) (id : ImageId) : (c.removeImage id).Sound := by
  unfold removeImage
  split
  · exact h
  · next img hi =>
    have hothers : ∀ x, x ≠ id → ∀ {β : Type} (m : AList fun _ : ImageId => β),
        (m.erase id).lookup x = m.lookup x := fun x hx _ m => lookup_erase_ne hx
    refine h.release id (fun x hx => .of_eq (hothers x hx _) (hothers x hx _) (hothers x hx _))
      (.absent (lookup_erase ..) (lookup_erase ..) (lookup_erase ..)) ?_ rfl rfl
    rw [imageBytes_of_absent (lookup_erase ..) (lookup_erase ..), Nat.zero_add]
    cases hf : c.animationFrames.lookup id with
    | none => exact (imageBytes_of_static hf hi).symm
    | some frames => exact (imageBytes_of_frames hf).symm

theorem removeImage_lookup (c : Cache) (id : ImageId) : (c.removeImage id).images.lookup id = none := by
  unfold removeImage
  split
  · next hi => exact hi
  · exact lookup_erase ..

theorem sound_clear (c : Cache) (h : c.underflowed = false) : c.clear.Sound :=
  ⟨fun _ => .absent rfl rfl rfl, rfl, h⟩

theorem sound_evictLoop (reachable : ImageId → Bool) (size fuel : Nat) (h : c.Sound) :
    (evictLoop reachable size fuel c).1.Sound :=
  evictLoop_invariant (P := Sound) (fun _ v _ h => sound_removeImage h v) size fuel h

/-- An image is stored under an id that was free. -/
theorem sound_insertImage (h : c.Sound) (hi : c.images.lookup id = none)
    (himages : c'.images = c.images.insert id img) (hframes : c'.animationFrames = c.animationFrames)
    (hstates : c'.animations = c.animations) (hused : c'.memoryUsed = c.memoryUsed + img.data.length)
    (hunder : c'.underflowed = c.underflowed) : c'.Sound := by
  obtain ⟨hf, ha⟩ := h.stored.absent_of_image hi
  have himage : c'.images.lookup id = some img := by rw [himages]; exact lookup_insert _
  have hf' : c'.animationFrames.lookup id = none := by rw [hframes]; exact hf
  have ha' : c'.animations.lookup id = none := by rw [hstates]; exact ha
  refine h.change id (fun x hx => ?_) (.static img himage hf' ha') ?_ hunder
  · exact .of_eq (by rw [himages]; exact lookup_insert_ne hx) (by rw [hframes]) (by rw [hstates])
  · rw [imageBytes_of_static hf' himage, imageBytes_of_absent hf hi, hused]
    rfl

theorem sound_store (h : c.Sound) (data : Data) : (c.store data).1.Sound := by
  unfold store
  dsimp only
  have hevicted := sound_evictLoop c.reachable data.data.length (c.images.entries.length + 1) h
  split
  · exact h
  · split
    · exact hevicted
    · generalize (evictLoop c.reachable data.data.length (c.images.entries.length + 1) c).1 = e at hevicted ⊢
      have hcounted : ({ e with accessCounter := e.accessCounter + 1 } : Cache).Sound :=
        hevicted.same (fun _ => .of_eq rfl rfl rfl) rfl rfl
      exact sound_insertImage (sound_removeImage hcounted data.id) (removeImage_lookup ..) rfl rfl rfl rfl rfl

/-- A stored image is static. -/
theorem store_ok (h : c.Sound) {data : Data} (hok : c.store data = (c', .ok id)) :
    c'.animationFrames.lookup id = none ∧ c'.animations.lookup id = none := by
  unfold store at hok
  dsimp only at hok
  split at hok
  · cases hok
  · split at hok
    · cases hok
    · have hevicted := sound_evictLoop c.reachable data.data.length (c.images.entries.length + 1) h
      generalize (evictLoop c.reachable data.data.length (c.images.entries.length + 1) c).1 = e at hevicted hok
      have hcounted : ({ e with accessCounter := e.accessCounter + 1 } : Cache).Sound :=
        hevicted.same (fun _ => .of_eq rfl rfl rfl) rfl rfl
      have habsent := (sound_removeImage hcounted data.id).stored.absent_of_image (removeImage_lookup ..)
      cases hok
      exact habsent

variable {state : AnimationState}

/-- A static image gets stored frames, the first of them the pixels on display. -/
theorem sound_animate (h : c.Sound) (img' : Data) {first : FrameEntry} {rest : List FrameEntry}
    (hi : c.images.lookup id = some img) (hf : c.animationFrames.lookup id = none)
    (hfirst : first.isDelta = false ∧ first.memoryBytes = img.data.length)
    (hlen : img'.data.length = img.data.length) (himages : c'.images = c.images.insert id img')
    (hframes : c'.animationFrames = c.animationFrames.insert id (first :: rest))
    (hstates : c'.animations = c.animations.insert id state)
    (hused : c'.memoryUsed = c.memoryUsed + (rest.map FrameEntry.memoryBytes).sum)
    (hunder : c'.underflowed = c.underflowed) : c'.Sound := by
  have himage : c'.images.lookup id = some img' := by rw [himages]; exact lookup_insert _
  have hf' : c'.animationFrames.lookup id = some (first :: rest) := by rw [hframes]; exact lookup_insert _
  have ha' : c'.animations.lookup id = some state := by rw [hstates]; exact lookup_insert _
  refine h.change id (fun x hx => .of_eq ?_ ?_ ?_) ?_ ?_ hunder
  · rw [himages]; exact lookup_insert_ne hx
  · rw [hframes]; exact lookup_insert_ne hx
  · rw [hstates]; exact lookup_insert_ne hx
  · refine .animated img' _ state himage hf' ha' (cons_ne_nil first rest) fun e he => ?_
    cases he
    exact ⟨hfirst.1, hfirst.2.trans hlen.symm⟩
  · rw [imageBytes_of_frames hf', imageBytes_of_static hf hi, map_cons, sum_cons]
    omega

/-- Frames stored as full canvases count their pixels. -/
theorem map_memoryBytes_mapIdx (pixels : List (List UInt8)) (frameId : Nat → Nat) :
    (pixels.mapIdx fun i data => FrameEntry.materialized (frameId i) data).map FrameEntry.memoryBytes
      = pixels.map List.length := by
  induction pixels generalizing frameId with
  | nil => rfl
  | cons data pixels ih =>
    rw [mapIdx_cons, map_cons]
    exact congrArg _ (ih fun i => frameId (i + 1))

theorem sound_storeAnimated (h : c.Sound) (data : Data) (frames : List (List UInt8)) (durations : List Nanos)
    (loopCount : Option Nat) : (c.storeAnimated data frames durations loopCount).1.Sound := by
  cases frames with
  | nil => exact sound_store h data
  | cons first rest =>
    have hstored := sound_store h { data with data := first }
    have hout := c.storeAnimated_outcome data first rest durations loopCount
    generalize c.storeAnimated data (first :: rest) durations loopCount = r at hout ⊢
    cases hout with
    | oversized => exact h
    | failed _ hs =>
      rw [hs] at hstored
      exact hstored
    | @stored c' img _ hs hi _ _ hd =>
      rw [hs] at hstored
      refine sound_animate hstored { img with sharedFrame := some c'.nextFrameId } hi (store_ok h hs).1 ?_ rfl rfl
        (congrArg (c'.animationFrames.insert data.id) mapIdx_cons) rfl ?_ rfl
      · exact ⟨rfl, congrArg List.length hd.symm⟩
      · rw [map_memoryBytes_mapIdx]
        rfl

/-! ## Bookkeeping and display -/

/-- The state of an animation is replaced. -/
theorem isSome_lookup_insert {β : Type} {m : AList fun _ : ImageId => β} {b b' : β} (h : m.lookup id = some b)
    (x : ImageId) : ((m.insert id b').lookup x).isSome = (m.lookup x).isSome := by
  by_cases hx : x = id
  · rw [hx, lookup_insert, h]
    rfl
  · rw [lookup_insert_ne hx]

theorem Sound.restate (h : c.Sound) {state' : AnimationState} (ha : c.animations.lookup id = some state)
    (himages : c'.images = c.images) (hframes : c'.animationFrames = c.animationFrames)
    (hstates : c'.animations = c.animations.insert id state') (hused : c'.memoryUsed = c.memoryUsed)
    (hunder : c'.underflowed = c.underflowed) : c'.Sound := by
  refine h.same (fun x => ⟨by rw [himages], by rw [hframes], ?_⟩) hused hunder
  rw [hstates]
  exact isSome_lookup_insert ha x

/-- The image of an animation shows other pixels; a single frame keeps its size. -/
theorem Sound.display (h : c.Sound) {img' : Data} (hi : c.images.lookup id = some img)
    (hf : c.animationFrames.lookup id = some frames) (hlen : ∀ e, frames = [e] → e.memoryBytes = img'.data.length)
    (himages : c'.images = c.images.insert id img') (hframes : c'.animationFrames = c.animationFrames)
    (hstates : c'.animations = c.animations) (hused : c'.memoryUsed = c.memoryUsed)
    (hunder : c'.underflowed = c.underflowed) : c'.Sound := by
  have himage : c'.images.lookup id = some img' := by rw [himages]; exact lookup_insert _
  have hf' : c'.animationFrames.lookup id = some frames := by rw [hframes]; exact hf
  refine h.change id (fun x hx => .of_eq ?_ (by rw [hframes]) (by rw [hstates])) ?_ ?_ hunder
  · rw [himages]; exact lookup_insert_ne hx
  · cases h.stored id with
    | absent hi' _ _ => rw [hi] at hi'; cases hi'
    | static img _ hf'' _ => rw [hf] at hf''; cases hf''
    | animated img₀ frames₀ state _ hf₀ ha hrooted hsingle =>
      have hsame : frames₀ = frames := Option.some.inj (hf₀.symm.trans hf)
      subst hsame
      exact .animated img' frames₀ state himage hf' (by rw [hstates]; exact ha) hrooted fun e he =>
        ⟨(hsingle e he).1, hlen e he⟩
  · rw [imageBytes_of_frames hf', imageBytes_of_frames hf, hused]

theorem sound_applyFrame (h : c.Sound) (id : ImageId) (frameIdx : Nat) : (c.applyFrame id frameIdx).Sound := by
  unfold applyFrame
  split
  · next frames img hf hi =>
    split
    · next frameId data hentry =>
      refine h.display hi hf (fun e he => ?_) rfl rfl rfl rfl rfl
      -- The only frame is the one that is shown.
      subst he
      rw [length_singleton, Nat.min_eq_right (Nat.zero_le _)] at hentry
      cases hentry
      rfl
    · exact h
  · exact h

/-- Playing is bookkeeping and display. -/
theorem animationInvariant_sound : AnimationInvariant fun c c' => c.Sound → c'.Sound :=
  ⟨fun _ h => h, fun h h' hs => h' (h hs), fun _ _ _ h => h.same (fun _ => .of_eq rfl rfl rfl) rfl rfl,
    fun _ h => h.same (fun _ => .of_eq rfl rfl rfl) rfl rfl, fun _ ha _ h => h.restate ha rfl rfl rfl rfl rfl,
    fun _ id frameIdx h => sound_applyFrame h id frameIdx⟩

/-- Upkeep is bookkeeping, and removes whole images. -/
theorem upkeepInvariant_sound : UpkeepInvariant fun c c' => c.Sound → c'.Sound where
  trans h h' hs := h' (h hs)
  books _ _ _ _ _ _ _ _ h := h.same (fun _ => .of_eq rfl rfl rfl) rfl rfl
  touch {_ id _} _ hi h := by
    refine h.same (fun x => ⟨?_, rfl, rfl⟩) rfl rfl
    by_cases hx : x = id
    · rw [hx, lookup_insert, hi]
      rfl
    · rw [lookup_insert_ne hx]
  remove _ id h := sound_removeImage h id
  clear c h := sound_clear c h.accounted.noUnderflow

/-! ## Frames -/

theorem removeImage_lookup_ne (c : Cache) {x : ImageId} (h : x ≠ id) :
    (c.removeImage id).images.lookup x = c.images.lookup x
      ∧ (c.removeImage id).animationFrames.lookup x = c.animationFrames.lookup x
      ∧ (c.removeImage id).animations.lookup x = c.animations.lookup x := by
  unfold removeImage
  split
  · exact ⟨rfl, rfl, rfl⟩
  · exact ⟨lookup_erase_ne h, lookup_erase_ne h, lookup_erase_ne h⟩

/-- The victim is an image that is not protected. -/
theorem victim_unreachable {reachable : ImageId → Bool} (h : c.victim reachable = some id) : reachable id = false := by
  obtain ⟨e, he, rfl⟩ := Option.map_eq_some_iff.mp h
  have hmem := argmin_mem he
  rw [mem_filter] at hmem
  simpa using hmem.2

/-- Eviction leaves the protected images alone. -/
theorem evictLoop_protected {reachable : ImageId → Bool} (hid : reachable id = true) (size fuel : Nat) (c : Cache) :
    (evictLoop reachable size fuel c).1.images.lookup id = c.images.lookup id
      ∧ (evictLoop reachable size fuel c).1.animationFrames.lookup id = c.animationFrames.lookup id
      ∧ (evictLoop reachable size fuel c).1.animations.lookup id = c.animations.lookup id := by
  refine evictLoop_invariant (P := fun c' => c'.images.lookup id = c.images.lookup id
    ∧ c'.animationFrames.lookup id = c.animationFrames.lookup id ∧ c'.animations.lookup id = c.animations.lookup id)
    (fun c' victim hvictim h => ?_) size fuel ⟨rfl, rfl, rfl⟩
  have hne : id ≠ victim := by
    intro heq
    rw [heq, victim_unreachable hvictim] at hid
    cases hid
  obtain ⟨hi, hf, ha⟩ := removeImage_lookup_ne c' hne
  rwa [hi, hf, ha]

theorem evictForFrame_protected (c : Cache) (id : ImageId) (size : Nat) :
    (c.evictForFrame id size).1.images.lookup id = c.images.lookup id
      ∧ (c.evictForFrame id size).1.animationFrames.lookup id = c.animationFrames.lookup id
      ∧ (c.evictForFrame id size).1.animations.lookup id = c.animations.lookup id :=
  evictLoop_protected (by rw [beq_self_eq_true, Bool.or_true]) ..

theorem sound_evictForFrame (h : c.Sound) (id : ImageId) (size : Nat) : (c.evictForFrame id size).1.Sound :=
  sound_evictLoop _ _ _ h

/-- The frames of an animation, with its image. -/
theorem Stored.of_frames (h : c.Stored) (hf : c.animationFrames.lookup id = some frames) :
    (∃ img, c.images.lookup id = some img ∧
      ∀ e, frames = [e] → e.isDelta = false ∧ e.memoryBytes = img.data.length)
      ∧ (∃ state, c.animations.lookup id = some state) ∧ frames ≠ [] := by
  cases h id with
  | absent _ hf' | static _ _ hf' => rw [hf] at hf'; cases hf'
  | animated img frames' state hi hf' ha hrooted hsingle =>
    cases Option.some.inj (hf.symm.trans hf')
    exact ⟨⟨img, hi, hsingle⟩, ⟨state, ha⟩, hrooted⟩

/-- An image with an animation state has frames. -/
theorem Stored.of_state (h : c.Stored) (ha : c.animations.lookup id = some state) :
    ∃ frames, c.animationFrames.lookup id = some frames := by
  cases h id with
  | absent _ _ ha' | static _ _ _ ha' => rw [ha] at ha'; cases ha'
  | animated _ frames _ _ hf _ _ _ => exact ⟨frames, hf⟩

/-- An image without an animation state has no frames. -/
theorem Stored.static_of_state (h : c.Stored) (ha : c.animations.lookup id = none) :
    c.animationFrames.lookup id = none := by
  cases h id with
  | absent _ hf | static _ _ hf => exact hf
  | animated _ _ _ _ _ ha' _ _ => rw [ha] at ha'; cases ha'

section

variable (h : c.Sound)
include h

theorem sound_promoteRoot (hi : c.images.lookup id = some img) (ha : c.animations.lookup id = none) (gap : Nanos) :
    (c.promoteRoot id img gap).Sound := by
  have hf := h.stored.static_of_state ha
  refine sound_animate h { img with sharedFrame := some c.nextFrameId } hi hf ?_ ?_ rfl rfl rfl ?_ rfl
  · exact ⟨rfl, rfl⟩
  · rfl
  · rfl

theorem sound_ensureAnimationStateForRootGap (id : ImageId) (gapUpdate : Option Nanos) :
    (c.ensureAnimationStateForRootGap id gapUpdate).1.Sound := by
  unfold ensureAnimationStateForRootGap
  split
  · exact h
  · split
    · exact h
    · next img hi ha => exact sound_promoteRoot h hi ha _
    · exact animationInvariant_sound.toSettingInvariant.setFrameGap c id 0 _ h

/-- A frame is added behind the others. -/
theorem sound_append (entry : FrameEntry) (hf : c.animationFrames.lookup id = some frames)
    (himages : c'.images = c.images) (hframes : c'.animationFrames = c.animationFrames.insert id (frames ++ [entry]))
    (hstates : c'.animations = c.animations.insert id state)
    (hused : c'.memoryUsed = c.memoryUsed + entry.memoryBytes) (hunder : c'.underflowed = c.underflowed) :
    c'.Sound := by
  obtain ⟨⟨img, hi, _⟩, _, hrooted⟩ := h.stored.of_frames hf
  have hf' : c'.animationFrames.lookup id = some (frames ++ [entry]) := by rw [hframes]; exact lookup_insert _
  have ha' : c'.animations.lookup id = some state := by rw [hstates]; exact lookup_insert _
  refine h.change id (fun x hx => .of_eq (by rw [himages]) ?_ ?_) ?_ ?_ hunder
  · rw [hframes]; exact lookup_insert_ne hx
  · rw [hstates]; exact lookup_insert_ne hx
  · refine .animated img _ state (by rw [himages]; exact hi) hf' ha' (append_ne_nil_of_right_ne_nil _ nofun) ?_
    intro e he
    have hlen := congrArg List.length he
    rw [length_append, length_singleton] at hlen
    exact absurd (eq_nil_of_length_eq_zero (Nat.succ.inj hlen)) hrooted
  · rw [imageBytes_of_frames hf', imageBytes_of_frames hf, hused, map_append, sum_append]
    show _ + entry.memoryBytes + _ = _ + (_ + (entry.memoryBytes + 0))
    omega

theorem sound_appendEntry (ha : c.animations.lookup id = some state) (entry : FrameEntry) (gap : Nanos) :
    (c.appendEntry id entry gap).1.Sound := by
  obtain ⟨frames, hf⟩ := h.stored.of_state ha
  unfold appendEntry
  rw [hf, ha]
  exact sound_append h entry hf rfl rfl rfl rfl rfl

theorem sound_pushDeltaFrame (ha : c.animations.lookup id = some state) (base depth area : Nat)
    (req : FrameLoadRequest) (gap : Nanos) : (c.pushDeltaFrame id base depth area req gap).1.Sound := by
  have hevicted := sound_evictForFrame h id req.frameData.length
  unfold pushDeltaFrame
  dsimp only
  split
  · exact hevicted
  · have ha' := (evictForFrame_protected c id req.frameData.length).2.2.trans ha
    exact sound_appendEntry hevicted ha' ..

theorem sound_autoPromoteStaticRoot (hok : c.autoPromoteStaticRoot id = .ok c') : c'.Sound := by
  unfold autoPromoteStaticRoot at hok
  split at hok
  · cases hok
    exact h
  · next hstate =>
    split at hok
    · next img hi =>
      cases hok
      exact sound_promoteRoot h hi (by simpa using hstate) 0
    · cases hok

theorem sound_tryPushDeltaAppend (req : FrameLoadRequest) (imageW imageH : Nat) :
    (c.tryPushDeltaAppend req imageW imageH).1.Sound := by
  unfold tryPushDeltaAppend
  split
  · next gap n _ _ =>
    dsimp only
    split
    · exact h
    · next c₁ hpromoted =>
      have h₁ : c₁.Sound := by
        split at hpromoted
        · exact sound_autoPromoteStaticRoot h hpromoted
        · cases hpromoted
          exact h
      split
      · exact h₁
      · next base hbase =>
        generalize (if base.isDelta = true then base.depth + 1 else 0) = depth
        split
        · -- The base is a stored frame, so the image is animated.
          cases hf : c₁.animationFrames.lookup req.imageId with
          | none =>
            rw [hf] at hbase
            split at hbase <;> cases hbase
          | some frames =>
            obtain ⟨_, ⟨state, ha⟩, _⟩ := h₁.stored.of_frames hf
            exact sound_pushDeltaFrame h₁ ha ..
        · exact h₁
  · exact h

theorem sound_pushComposedFrame (id : ImageId) (composed : List UInt8) (gap : Nanos) :
    (c.pushComposedFrame id composed gap).1.Sound := by
  unfold pushComposedFrame
  split
  · exact h
  · have hevicted := sound_evictForFrame h id composed.length
    dsimp only
    split
    · exact hevicted
    · generalize (c.evictForFrame id composed.length).1 = e at hevicted ⊢
      split
      · next state ha => exact sound_appendEntry hevicted ha ..
      · exact hevicted
      · next img ha hi =>
        have hpromoted := sound_promoteRoot hevicted hi ha 0
        have hf : (e.promoteRoot id img 0).animationFrames.lookup id = some [.materialized e.nextFrameId img.data] :=
          lookup_insert _
        refine sound_append hpromoted (.materialized (e.promoteRoot id img 0).nextFrameId composed) hf rfl ?_ rfl rfl rfl
        rw [hf]
        rfl

end

/-! ## Replacing a frame -/

theorem blitPixel_length (mode : CompositionMode) (src : List UInt8) (srcPx dstPx : Nat) (canvas : List UInt8) :
    (blitPixel mode src srcPx dstPx canvas).length = canvas.length := by
  unfold blitPixel
  split
  · rfl
  · next h =>
    rw [not_or, Nat.not_lt, Nat.not_lt] at h
    have hfour : ∀ (l : List UInt8) (i : Nat), i + 4 ≤ l.length → ((l.drop i).take 4).length = 4 := by
      intro l i hl
      rw [length_take, length_drop]
      omega
    have hblend : ∀ dst src : List UInt8, dst.length = 4 → (blendPixelOver dst src).length = 4 := by
      intro dst src hdst
      unfold blendPixelOver
      dsimp only
      split
      · exact hdst
      · split
        · rfl
        · split
          · exact hdst
          · rfl
    have hsplice : ∀ pixel : List UInt8, pixel.length = 4 →
        (canvas.take dstPx ++ pixel ++ canvas.drop (dstPx + 4)).length = canvas.length := by
      intro pixel hpixel
      rw [length_append, length_append, length_take, length_drop]
      omega
    refine hsplice _ ?_
    cases mode with
    | overwrite => exact hfour src srcPx h.2
    | alphaBlend => exact hblend _ _ (hfour canvas dstPx h.1)

variable {canvas : List UInt8}

/-- Composing onto a canvas keeps its size. -/
theorem blitSubrectIntoCanvas_length {src : List UInt8} {canvasW canvasH : Nat} {blit : BlitRect}
    {mode : CompositionMode} (h : blitSubrectIntoCanvas canvas src canvasW canvasH blit mode = .ok composed) :
    composed.length = canvas.length := by
  unfold blitSubrectIntoCanvas at h
  split at h
  · cases h
  · split at h
    · cases h
      rfl
    · cases h
      refine forRange_invariant (P := fun l : List UInt8 => l.length = canvas.length) (fun row l _ _ hl => ?_) rfl
      refine forRange_invariant (P := fun l : List UInt8 => l.length = canvas.length) (fun col l _ _ hl => ?_) hl
      exact (blitPixel_length ..).trans hl

/-- Replacing a list element changes the sum by the difference. -/
theorem sum_memoryBytes_set {idx : Nat} {e : FrameEntry} (h : frames[idx]? = some e) (e' : FrameEntry) :
    ((frames.set idx e').map FrameEntry.memoryBytes).sum + e.memoryBytes
      = (frames.map FrameEntry.memoryBytes).sum + e'.memoryBytes := by
  induction frames generalizing idx with
  | nil => cases h
  | cons x frames ih =>
    cases idx with
    | zero =>
      cases h
      simp only [set_cons_zero, map_cons, sum_cons]
      omega
    | succ idx =>
      have hrest := ih (show frames[idx]? = some e from h)
      simp only [set_cons_succ, map_cons, sum_cons]
      omega

/-- A replaced frame, whatever becomes of the pixels on display and of the animation state. -/
structure Replaces (c c' : Cache) (id : ImageId) (idx : Nat) (entry entry' : FrameEntry) : Prop where
  image : (c'.images.lookup id).isSome = true
  /-- A single frame stays the one on display. -/
  single : ∀ frames img', c.animationFrames.lookup id = some frames → frames.length = 1 →
    c'.images.lookup id = some img' → entry'.isDelta = false ∧ entry'.memoryBytes = img'.data.length
  frames : ∃ frames, c.animationFrames.lookup id = some frames ∧ frames[idx]? = some entry
    ∧ c'.animationFrames.lookup id = some (frames.set idx entry')
  states : (c'.animations.lookup id).isSome = (c.animations.lookup id).isSome
  others : ∀ x, x ≠ id → SameAt c c' x

section

variable {idx : Nat} {entry entry' : FrameEntry} (h : c.Replaces c' id idx entry entry')
include h

/-- A replacement keeps the structure. -/
theorem Replaces.storedAt (hs : c.Stored) : c'.StoredAt id := by
  obtain ⟨img', hi'⟩ := Option.isSome_iff_exists.mp h.image
  obtain ⟨frames, hf, hentry, hf'⟩ := h.frames
  obtain ⟨_, ⟨state, ha⟩, hrooted⟩ := hs.of_frames hf
  have hstates := h.states
  rw [ha] at hstates
  obtain ⟨state', ha'⟩ := Option.isSome_iff_exists.mp hstates
  refine .animated img' _ state' hi' hf' ha' ?_ fun e he => ?_
  · rw [Ne, set_eq_nil_iff]
    exact hrooted
  · have hlen : frames.length = 1 := by
      have := congrArg List.length he
      rwa [length_set] at this
    have hidx : idx = 0 := by
      obtain ⟨hlt, _⟩ := List.getElem?_eq_some_iff.mp hentry
      omega
    have he' : e = entry' := by
      have hget := congrArg (·[idx]?) he
      subst hidx
      rw [getElem?_set_self (by omega)] at hget
      exact (Option.some.inj hget).symm
    rw [he']
    exact h.single frames img' hf hlen hi'

/-- The bytes under the id change by the difference of the entries. -/
theorem Replaces.imageBytes : c'.imageBytes id + entry.memoryBytes = c.imageBytes id + entry'.memoryBytes := by
  obtain ⟨frames, hf, hentry, hf'⟩ := h.frames
  rw [imageBytes_of_frames hf, imageBytes_of_frames hf']
  exact sum_memoryBytes_set hentry entry'

/-- **A replacement without accounting** is exact exactly when the sizes agree. -/
theorem Replaces.accounted_iff (hs : c.Sound) (hused : c'.memoryUsed = c.memoryUsed)
    (hunder : c'.underflowed = c.underflowed) :
    c'.Stored ∧ (c'.Accounted ↔ entry.memoryBytes = entry'.memoryBytes) := by
  have hexchange := retained_exchange fun x hx => (h.others x hx).imageBytes
  have hbytes := h.imageBytes
  have hexact := hs.accounted.exact
  refine ⟨hs.stored.change h.others (h.storedAt hs.stored), ⟨fun ha => ?_, fun hsize => ⟨?_, ?_⟩⟩⟩
  · have hexact' := ha.exact
    omega
  · omega
  · exact hunder.trans hs.accounted.noUnderflow

end

theorem lookup_setEntry (hf : c.animationFrames.lookup id = some frames) (idx : Nat) (entry : FrameEntry) :
    (c.setEntry id idx entry).animationFrames.lookup id = some (frames.set idx entry) := by
  unfold setEntry
  rw [hf]
  exact lookup_insert _

theorem lookup_setEntry_ne {x : ImageId} (hx : x ≠ id) (idx : Nat) (entry : FrameEntry) :
    (c.setEntry id idx entry).animationFrames.lookup x = c.animationFrames.lookup x :=
  lookup_insert_ne hx

/-- Showing a frame changes the pixels of one image. -/
theorem showIf_spec (c : Cache) (hi : c.images.lookup id = some img) (frameId : Nat) (data : List UInt8)
    (shown : Option Bool) :
    (∀ x, x ≠ id → (c.showIf id frameId data shown).images.lookup x = c.images.lookup x)
      ∧ (∃ img', (c.showIf id frameId data shown).images.lookup id = some img'
          ∧ img'.data = if shown.isSome = true then data else img.data)
      ∧ (c.showIf id frameId data shown).animationFrames = c.animationFrames
      ∧ (c.showIf id frameId data shown).animations = c.animations
      ∧ (c.showIf id frameId data shown).memoryUsed = c.memoryUsed
      ∧ (c.showIf id frameId data shown).underflowed = c.underflowed := by
  cases shown with
  | none => exact ⟨fun _ _ => rfl, ⟨img, hi, rfl⟩, rfl, rfl, rfl, rfl⟩
  | some bump =>
    unfold showIf showFrame
    rw [hi]
    refine ⟨fun x hx => lookup_insert_ne hx, ⟨_, lookup_insert _, ?_⟩, rfl, rfl, rfl, rfl⟩
    cases bump <;> rfl

/-- Recording a gap changes animation states only. -/
theorem gapIf_spec (c : Cache) (id : ImageId) (frameIdx : Nat) (gapUpdate : Option Nanos) :
    (c.gapIf id frameIdx gapUpdate).images = c.images
      ∧ (c.gapIf id frameIdx gapUpdate).animationFrames = c.animationFrames
      ∧ (∀ x, ((c.gapIf id frameIdx gapUpdate).animations.lookup x).isSome = (c.animations.lookup x).isSome)
      ∧ (c.gapIf id frameIdx gapUpdate).memoryUsed = c.memoryUsed
      ∧ (c.gapIf id frameIdx gapUpdate).underflowed = c.underflowed := by
  cases gapUpdate with
  | none => exact ⟨rfl, rfl, fun _ => rfl, rfl, rfl⟩
  | some gap =>
    unfold gapIf setFrameGap
    cases ha : c.animations.lookup id with
    | none => exact ⟨rfl, rfl, fun _ => rfl, rfl, rfl⟩
    | some state => exact ⟨rfl, rfl, isSome_lookup_insert ha, rfl, rfl⟩

/-- **Writing a stored frame** replaces its entry; the counter stays. -/
theorem writeEntry_spec (hs : c.Stored) {idx : Nat} {entry : FrameEntry}
    (hf : c.animationFrames.lookup id = some frames) (hentry : frames[idx]? = some entry) (frameId : Nat)
    {data : List UInt8} (hsize : entry.isDelta = false → entry.memoryBytes = data.length) (shown : Option Bool)
    (gapUpdate : Option Nanos) :
    c.Replaces (c.writeEntry id idx frameId data shown gapUpdate) id idx entry (.materialized frameId data)
      ∧ (c.writeEntry id idx frameId data shown gapUpdate).memoryUsed = c.memoryUsed
      ∧ (c.writeEntry id idx frameId data shown gapUpdate).underflowed = c.underflowed := by
  obtain ⟨⟨img, hi, hsingle⟩, _, _⟩ := hs.of_frames hf
  unfold writeEntry
  generalize hc₁ : c.setEntry id idx (.materialized frameId data) = c₁
  have hi₁ : c₁.images.lookup id = some img := by rw [← hc₁]; exact hi
  have hf₁ : c₁.animationFrames.lookup id = some (frames.set idx (.materialized frameId data)) := by
    rw [← hc₁]
    exact lookup_setEntry hf ..
  obtain ⟨hothers₂, ⟨img', hi', hdata⟩, hframes₂, hstates₂, hused₂, hunder₂⟩ := showIf_spec c₁ hi₁ frameId data shown
  obtain ⟨himages₃, hframes₃, hstates₃, hused₃, hunder₃⟩ :=
    gapIf_spec (c₁.showIf id frameId data shown) id idx gapUpdate
  generalize (c₁.showIf id frameId data shown).gapIf id idx gapUpdate = c₃ at himages₃ hframes₃ hstates₃ hused₃ hunder₃
  have himage : c₃.images.lookup id = some img' := by rw [himages₃]; exact hi'
  have hstates : ∀ x, (c₃.animations.lookup x).isSome = (c.animations.lookup x).isSome := by
    intro x
    rw [hstates₃, hstates₂, ← hc₁]
    rfl
  refine ⟨⟨?_, ?_, ⟨frames, hf, hentry, ?_⟩, hstates id, fun x hx => ⟨?_, ?_, hstates x⟩⟩, ?_, ?_⟩
  · rw [himage]
    rfl
  · intro frames' img'' hf' hlen himg
    cases Option.some.inj (hf.symm.trans hf')
    cases Option.some.inj (himage.symm.trans himg)
    refine ⟨rfl, ?_⟩
    obtain ⟨e, rfl⟩ := length_eq_one_iff.mp hlen
    obtain ⟨hdelta, hbytes⟩ := hsingle e rfl
    rw [hdata]
    split
    · rfl
    · -- the entry is the only one, a full canvas of the size on display
      have hidx : idx = 0 := by
        obtain ⟨hlt, _⟩ := List.getElem?_eq_some_iff.mp hentry
        omega
      subst hidx
      cases hentry
      exact (hsize hdelta).symm.trans hbytes
  · rw [hframes₃, hframes₂]
    exact hf₁
  · rw [himages₃, hothers₂ x hx, ← hc₁]
    rfl
  · rw [hframes₃, hframes₂, ← hc₁]
    exact lookup_setEntry_ne hx ..
  · exact (hused₃.trans hused₂).trans (by rw [← hc₁]; rfl)
  · exact (hunder₃.trans hunder₂).trans (by rw [← hc₁]; rfl)

/-- The stored frame takes as many bytes as the pixels it stands for. -/
def sizedAs (c : Cache) (id : ImageId) (frameNum : Nat) : Bool :=
  match (c.animationFrames.lookup id).bind (·[frameNum - 1]?), c.frameForNumber id frameNum with
  | some entry, some canvas => entry.memoryBytes == canvas.length
  | _, _ => true

theorem frameForNumber_pos {n : Nat} (h : c.frameForNumber id n = some canvas) : n ≠ 0 := by
  rintro rfl
  cases h

/-- Without an animation only the root is a frame. -/
theorem frameForNumber_static (ha : c.animations.lookup id = none) (hf : c.animationFrames.lookup id = none)
    {n : Nat} (h : c.frameForNumber id n = some canvas) :
    n = 1 ∧ ∃ img, c.images.lookup id = some img ∧ canvas = img.data := by
  have hpos := frameForNumber_pos h
  unfold frameForNumber at h
  rw [if_neg hpos, ha] at h
  by_cases hn : n = 1
  · rw [if_pos ⟨hn, by decide⟩] at h
    obtain ⟨img, hi, rfl⟩ := Option.map_eq_some_iff.mp h
    exact ⟨hn, img, hi, rfl⟩
  · rw [if_neg fun h => hn h.1, hf] at h
    cases h

/-- A frame of an animation is stored; its entry, when a full canvas, is the frame. -/
theorem frameForNumber_animated (ha : c.animations.lookup id = some state) {n : Nat}
    (h : c.frameForNumber id n = some canvas) :
    ∃ frames entry, c.animationFrames.lookup id = some frames ∧ frames[n - 1]? = some entry
      ∧ (entry.isDelta = false → entry.memoryBytes = canvas.length) := by
  have hpos := frameForNumber_pos h
  unfold frameForNumber at h
  rw [if_neg hpos, ha, if_neg fun h => absurd h.2 (by simp)] at h
  cases hf : c.animationFrames.lookup id with
  | none => rw [hf] at h; cases h
  | some frames =>
    rw [hf] at h
    cases hentry : frames[n - 1]? with
    | none => simp [hentry] at h
    | some entry =>
      refine ⟨frames, entry, rfl, hentry, fun hdelta => ?_⟩
      cases entry with
      | materialized frameId data =>
        simp only [Option.bind_eq_bind, Option.bind_some, hentry, resolveEntry, composeEntry,
          Option.some.injEq] at h
        exact congrArg List.length h
      | delta => cases hdelta

/-- The root of a static image keeps its size, whether or not it is promoted for its gap. -/
theorem sound_replaceRoot (h : c.Sound) (hi : c.images.lookup id = some img) (ha : c.animations.lookup id = none)
    (hlen : composed.length = img.data.length) (gapUpdate : Option Nanos) :
    (c.replaceFrameBytes id 1 composed gapUpdate).1.Sound := by
  have hf := h.stored.static_of_state ha
  have hroot : ({ c with images := c.images.insert id (img.redraw composed) } : Cache).Sound := by
    refine h.change id (fun x hx => .of_eq (lookup_insert_ne hx) rfl rfl)
      (.static (img.redraw composed) (lookup_insert _) hf ha) ?_ rfl
    have hbytes := @imageBytes_of_static { c with images := c.images.insert id (img.redraw composed) } id _ hf
      (lookup_insert _)
    rw [imageBytes_of_static hf hi, hbytes]
    exact congrArg _ hlen.symm
  have hout := c.replaceFrameBytes_outcome id 1 composed gapUpdate
  generalize c.replaceFrameBytes id 1 composed gapUpdate = r at hout ⊢
  cases hout with
  | absent => exact h
  | marked | refused => exact h.same (fun _ => .of_eq rfl rfl rfl) rfl rfl
  | redrawn _ hi' =>
    cases Option.some.inj (hi.symm.trans hi')
    exact hroot.same (fun _ => .of_eq rfl rfl rfl) rfl rfl
  | written ha' => rw [ha] at ha'; cases ha'
  | @promoted _ gap c₁ c₂ c₃ _ hi' _ hc₁ hc₂ hc₃ =>
    cases Option.some.inj (hi.symm.trans hi')
    rw [hc₁] at hroot
    have hi₁ : c₁.images.lookup id = some (img.redraw composed) := by rw [← hc₁]; exact lookup_insert _
    have ha₁ : c₁.animations.lookup id = none := by rw [← hc₁]; exact ha
    have hpromoted := hc₂ ▸ sound_promoteRoot hroot hi₁ ha₁ gap
    have hf₂ : c₂.animationFrames.lookup id = some [.materialized c₁.nextFrameId composed] := by
      rw [← hc₂]
      exact lookup_insert _
    obtain ⟨hreplaces, hused, hunder⟩ := @writeEntry_spec c₂ id _ hpromoted.stored 0 _ hf₂ rfl c₂.nextFrameId composed
      (fun _ => rfl) (some false) none
    obtain ⟨hstored, hiff⟩ := hreplaces.accounted_iff hpromoted hused hunder
    have hwritten : c₃.Sound := hc₃ ▸ ⟨hstored, hiff.mpr rfl⟩
    exact hwritten.same (fun _ => .of_eq rfl rfl rfl) rfl rfl

/-- **Replacing a frame's pixels** by pixels of the same size settles the account exactly when the stored frame
    takes as many bytes. -/
theorem replaceFrameBytes_spec (h : c.Sound) {frameNum : Nat} (hcanvas : c.frameForNumber id frameNum = some canvas) (hlen : composed.length = canvas.length)
    (gapUpdate : Option Nanos) :
    (c.replaceFrameBytes id frameNum composed gapUpdate).1.Stored
      ∧ ((c.replaceFrameBytes id frameNum composed gapUpdate).1.Accounted ↔ c.sizedAs id frameNum = true) := by
  cases ha : c.animations.lookup id with
  | none =>
    have hf := h.stored.static_of_state ha
    obtain ⟨rfl, img, hi, rfl⟩ := frameForNumber_static ha hf hcanvas
    have hsized : c.sizedAs id 1 = true := by
      unfold sizedAs
      rw [hf]
      rfl
    have hroot := sound_replaceRoot h hi ha hlen gapUpdate
    exact ⟨hroot.stored, iff_of_true hroot.accounted hsized⟩
  | some state =>
    obtain ⟨frames, entry, hf, hentry, hsize⟩ := frameForNumber_animated ha hcanvas
    have hlt := (List.getElem?_eq_some_iff.mp hentry).1
    have hbumped : ({ c with nextFrameId := c.nextFrameId + 1 } : Cache).Sound :=
      h.same (fun _ => .of_eq rfl rfl rfl) rfl rfl
    obtain ⟨hreplaces, hused, hunder⟩ := writeEntry_spec hbumped.stored hf hentry c.nextFrameId
      (fun hdelta => (hsize hdelta).trans hlen.symm) (if state.currentFrame = frameNum - 1 then some false else none)
      gapUpdate
    obtain ⟨hstored, hiff⟩ := hreplaces.accounted_iff hbumped hused hunder
    rw [replaceFrameBytes_animated ha (by rw [hf]; exact hlt)]
    refine ⟨hstored, hiff.trans ?_⟩
    unfold sizedAs
    rw [hf, hcanvas, Option.bind_some, hentry]
    rw [beq_iff_eq, ← hlen]
    rfl

/-- The target of an edit in place is a stored canvas. -/
theorem sound_tryEditInPlace (h : c.Sound) (req : FrameLoadRequest) (imageW imageH : Nat) :
    (c.tryEditInPlace req imageW imageH).1.Sound := by
  have hout := c.tryEditInPlace_outcome req imageW imageH
  generalize c.tryEditInPlace req imageW imageH = r at hout ⊢
  cases hout with
  | declined | failed => exact h
  | @written n frameId gapUpdate data canvas frames _ _ hf hat hblit =>
    have hlen := blitSubrectIntoCanvas_length hblit
    obtain ⟨hreplaces, hused, hunder⟩ := writeEntry_spec h.stored hf hat frameId (fun _ => hlen.symm) _ gapUpdate
    obtain ⟨hstored, hiff⟩ := hreplaces.accounted_iff h hused hunder
    exact ⟨hstored, hiff.mpr hlen.symm⟩

end Cache

/-- A stored frame is written in place of a frame of as many bytes, when the command is carried out. -/
def Cache.frameEditBalanced (c : Cache) (req : FrameLoadRequest) : Bool :=
  match req.target, c.validateFrameRequest req with
  | .edit frameNum _, .ok _ => c.sizedAs req.imageId frameNum
  | _, _ => true

namespace Cache

variable {c c' : Cache} {id : ImageId}

variable {img' : Data} {removed left : FrameEntry}

/-- A full canvas takes as many bytes as the frame. -/
theorem sizedAs_of_materialized (hs : c.Stored) {frameNum frameId : Nat} {data : List UInt8}
    (h : c.editEntry id frameNum = some (.materialized frameId data)) : c.sizedAs id frameNum = true := by
  unfold editEntry at h
  split at h
  · cases h
  · next hpos =>
    cases hf : c.animationFrames.lookup id with
    | none => rw [hf] at h; cases h
    | some frames =>
      rw [hf] at h
      have hentry : frames[frameNum - 1]? = some (.materialized frameId data) := h
      obtain ⟨_, ⟨state, ha⟩, _⟩ := hs.of_frames hf
      unfold sizedAs
      cases hcanvas : c.frameForNumber id frameNum with
      | none => split <;> first | rfl | (next heq => cases heq)
      | some canvas =>
        obtain ⟨frames', entry, hf', hentry', hsize⟩ := frameForNumber_animated ha hcanvas
        cases Option.some.inj (hf.symm.trans hf')
        cases Option.some.inj (hentry.symm.trans hentry')
        rw [hf, Option.bind_some, hentry]
        exact beq_iff_eq.mpr (hsize rfl)

/-- **Loading a frame** settles its account exactly when it does not write over a frame of another size. -/
theorem putFrame_spec (h : c.Sound) (req : FrameLoadRequest) :
    (c.putFrame req).1.Stored ∧ ((c.putFrame req).1.Accounted ↔ c.frameEditBalanced req = true) := by
  have hsettled : ∀ {c' : Cache}, c'.Sound → c.frameEditBalanced req = true →
      c'.Stored ∧ (c'.Accounted ↔ c.frameEditBalanced req = true) :=
    fun hc hb => ⟨hc.stored, iff_of_true hc.accounted hb⟩
  have happend : ∀ gap, req.target = .append gap → c.frameEditBalanced req = true := by
    intro gap htarget
    unfold frameEditBalanced
    rw [htarget]
  have hedit : ∀ {img n gapUpdate}, c.Accepts req img → req.target = .edit n gapUpdate →
      c.frameEditBalanced req = c.sizedAs req.imageId n := by
    intro img n gapUpdate haccepts htarget
    unfold frameEditBalanced
    rw [htarget, haccepts.valid]
  have hout := c.putFrame_outcome req
  generalize c.putFrame req = r at hout ⊢
  cases hout with
  | rejected hvalid =>
    refine hsettled h ?_
    unfold frameEditBalanced
    rw [hvalid]
    split
    · next heq => cases heq
    · rfl
  | @pushed _ gap _ _ _ htarget hc' => exact hsettled (hc' ▸ sound_tryPushDeltaAppend h ..) (happend gap htarget)
  | @unsourced _ gap _ _ _ htarget hc' => exact hsettled (hc' ▸ sound_tryPushDeltaAppend h ..) (happend gap htarget)
  | @appended _ gap _ _ _ _ htarget hc' =>
    exact hsettled (sound_pushComposedFrame (hc' ▸ sound_tryPushDeltaAppend h ..) ..) (happend gap htarget)
  | @edited img n _ _ _ haccepts htarget hc' hedited =>
    refine hsettled (hc' ▸ sound_tryEditInPlace h ..) ?_
    rw [hedit haccepts htarget]
    have hplace := c.tryEditInPlace_outcome req img.width img.height
    generalize c.tryEditInPlace req img.width img.height = place at hplace hedited
    cases hplace with
    | declined => cases hedited
    | failed ht hentry | written ht hentry =>
      cases htarget.symm.trans ht
      exact sizedAs_of_materialized h.stored hentry
  | untargeted haccepts htarget hframe =>
    rw [hedit haccepts htarget]
    refine ⟨h.stored, iff_of_true h.accounted ?_⟩
    unfold sizedAs
    rw [hframe]
    split
    · next heq => cases heq
    · rfl
  | @replaced _ _ gapUpdate _ _ haccepts htarget hframe _ hblit =>
    rw [hedit haccepts htarget]
    exact replaceFrameBytes_spec h hframe (blitSubrectIntoCanvas_length hblit) gapUpdate

/-- **Composing a frame** likewise. -/
theorem composeFrame_spec (h : c.Sound) (req : ComposeRequest) :
    (c.composeFrame req).1.Stored
      ∧ ((c.composeFrame req).1.Accounted ↔ (c.composes req = true → c.sizedAs req.imageId req.dstFrame = true)) := by
  have hout := c.composeFrame_outcome req
  generalize c.composeFrame req = r at hout ⊢
  cases hout with
  | refused hno => exact ⟨h.stored, iff_of_true h.accounted fun hyes => by rw [hno] at hyes; cases hyes⟩
  | composed hyes _ _ hdst hblit =>
    obtain ⟨hstored, hiff⟩ := replaceFrameBytes_spec h hdst (blitSubrectIntoCanvas_length hblit) none
    exact ⟨hstored, hiff.trans ⟨fun hs _ => hs, fun hs => hs hyes⟩⟩

/-! ## Deleting a frame -/

/-- `frames'` are `frames` with the entries at `rebuilt` stored as full canvases. -/
structure Rebuilt (frames frames' : List FrameEntry) (rebuilt : List Nat) : Prop where
  length : frames'.length = frames.length
  kept : ∀ j, j ∉ rebuilt → frames'[j]? = frames[j]?
  full : ∀ j ∈ rebuilt, ∀ e, frames'[j]? = some e → e.isDelta = false

variable {frames : List FrameEntry} {idx : Nat}

theorem rebuilt_set (fid : Nat) (canvas : List UInt8) (hidx : idx < frames.length) :
    Rebuilt frames (frames.set idx (.materialized fid canvas)) [idx] := by
  refine ⟨length_set, fun j hj => ?_, fun j hj e he => ?_⟩
  · exact getElem?_set_ne fun heq => hj (mem_singleton.mpr heq.symm)
  · rw [mem_singleton.mp hj, getElem?_set_self hidx] at he
    cases he
    rfl

/-- **Rebuilding a dependent** of a frame about to be deleted accounts for the difference of its sizes. -/
theorem materializeDependent_spec (h : c.Sound) (hf : c.animationFrames.lookup id = some frames)
    (hlen : 2 ≤ frames.length) (idx : Nat) (canvas : List UInt8) :
    (c.materializeDependent id idx canvas).Sound
      ∧ (c.materializeDependent id idx canvas).images = c.images
      ∧ (c.materializeDependent id idx canvas).animations = c.animations
      ∧ ∃ frames', (c.materializeDependent id idx canvas).animationFrames.lookup id = some frames'
          ∧ Rebuilt frames frames' [idx] := by
  unfold materializeDependent
  rw [hf]
  cases hentry : frames[idx]? with
  | none =>
    refine ⟨?_, ?_, ?_, frames, ?_, rfl, fun _ _ => rfl, fun j hj e he => ?_⟩
    · simpa [hentry] using h
    · simp [hentry]
    · simp [hentry]
    · simp [hentry, hf]
    · rw [mem_singleton] at hj
      rw [hj, hentry] at he
      cases he
  | some entry =>
    have hsome : ((some frames).getD [])[idx]? = some entry := hentry
    rw [hsome]
    dsimp only
    generalize hc₁ : c.setEntry id idx (.materialized entry.id canvas) = c₁
    have hf₁ : c₁.animationFrames.lookup id = some (frames.set idx (.materialized entry.id canvas)) := by
      rw [← hc₁]
      exact lookup_setEntry hf ..
    have hreplaces : c.Replaces c₁ id idx entry (.materialized entry.id canvas) := by
      obtain ⟨⟨img, hi, _⟩, _, _⟩ := h.stored.of_frames hf
      rw [← hc₁]
      refine ⟨?_, fun frames' _ hf' hone => ?_, ⟨frames, hf, hentry, lookup_setEntry hf ..⟩, rfl, fun x hx =>
        .of_eq rfl (lookup_setEntry_ne hx ..) rfl⟩
      · show (c.images.lookup id).isSome = true
        rw [hi]
        rfl
      · cases Option.some.inj (hf.symm.trans hf')
        omega
    have hbytes := hreplaces.imageBytes
    have hcanvas : (FrameEntry.materialized entry.id canvas).memoryBytes = canvas.length := rfl
    have hused : c₁.memoryUsed = c.memoryUsed := by rw [← hc₁]; rfl
    have hunder : c₁.underflowed = c.underflowed := by rw [← hc₁]; rfl
    have hrebuilt := rebuilt_set entry.id canvas (List.getElem?_eq_some_iff.mp hentry).1
    split
    · next hgrows =>
      refine ⟨h.change id (fun x hx => ?_) ?_ ?_ hunder, ?_, ?_, _, hf₁, hrebuilt⟩
      · exact ⟨(hreplaces.others x hx).images, (hreplaces.others x hx).frames, (hreplaces.others x hx).states⟩
      · exact SameAt.storedAt (c := c₁) (.of_eq rfl rfl rfl) (hreplaces.storedAt h.stored)
      · show c₁.memoryUsed + (canvas.length - entry.memoryBytes) + _ = _ + c₁.imageBytes id
        omega
      · rw [← hc₁]; rfl
      · rw [← hc₁]; rfl
    · next hgrows =>
      have hdebit : (c₁.debit (entry.memoryBytes - canvas.length)).imageBytes id = c₁.imageBytes id := rfl
      have hless : (c₁.debit (entry.memoryBytes - canvas.length)).imageBytes id + (entry.memoryBytes - canvas.length)
          = c.imageBytes id := by
        omega
      refine ⟨h.release id (fun x hx => ?_) ?_ hless ?_ ?_, ?_, ?_, _, hf₁, hrebuilt⟩
      · exact ⟨(hreplaces.others x hx).images, (hreplaces.others x hx).frames, (hreplaces.others x hx).states⟩
      · exact SameAt.storedAt (c := c₁) (.of_eq rfl rfl rfl) (hreplaces.storedAt h.stored)
      · show c₁.memoryUsed - _ = c.memoryUsed - _
        rw [hused]
      · show (c₁.underflowed || _) = (c.underflowed || _)
        rw [hunder, hused]
      · rw [← hc₁]; rfl
      · rw [← hc₁]; rfl

theorem Rebuilt.trans {frames' frames'' : List FrameEntry} {rebuilt : List Nat} (h : Rebuilt frames frames' [idx])
    (h' : Rebuilt frames' frames'' rebuilt) : Rebuilt frames frames'' (idx :: rebuilt) := by
  refine ⟨h'.length.trans h.length, fun j hj => ?_, fun j hj e he => ?_⟩
  · rw [mem_cons, not_or] at hj
    rw [h'.kept j hj.2, h.kept j (by rw [mem_singleton]; exact hj.1)]
  · by_cases hin : j ∈ rebuilt
    · exact h'.full j hin e he
    · rw [h'.kept j hin] at he
      have hidx : j = idx := (mem_cons.mp hj).resolve_right hin
      exact h.full j (by rw [mem_singleton]; exact hidx) e he

/-- The same for all dependents. -/
theorem materializeDependents_spec (dependents : List (Nat × List UInt8)) (h : c.Sound)
    (hf : c.animationFrames.lookup id = some frames) (hlen : 2 ≤ frames.length) :
    (dependents.foldl (fun c d => c.materializeDependent id d.1 d.2) c).Sound
      ∧ (dependents.foldl (fun c d => c.materializeDependent id d.1 d.2) c).images = c.images
      ∧ (dependents.foldl (fun c d => c.materializeDependent id d.1 d.2) c).animations = c.animations
      ∧ ∃ frames', (dependents.foldl (fun c d => c.materializeDependent id d.1 d.2) c).animationFrames.lookup id
            = some frames' ∧ Rebuilt frames frames' (dependents.map Prod.fst) := by
  induction dependents generalizing c frames with
  | nil => exact ⟨h, rfl, rfl, frames, hf, rfl, fun _ _ => rfl, nofun⟩
  | cons d dependents ih =>
    obtain ⟨hsound, himages, hstates, frames₁, hf₁, hrebuilt⟩ := materializeDependent_spec h hf hlen d.1 d.2
    obtain ⟨hsound', himages', hstates', frames₂, hf₂, hrebuilt'⟩ :=
      ih hsound hf₁ (by rw [hrebuilt.length]; exact hlen)
    exact ⟨hsound', himages'.trans himages, hstates'.trans hstates, frames₂, hf₂, hrebuilt.trans hrebuilt'⟩

/-- A deletion that leaves a single frame leaves one of the size on display: a full canvas, a delta that is
    rebuilt, or a delta whose payload happens to have that size. -/
def deletionBalanced (c : Cache) (id : ImageId) (frameNumber : Nat) : Bool :=
  match c.animationFrames.lookup id, c.images.lookup id with
  | some frames, some img =>
    if frames.length = 2 then
      match frames[1 - deletedIndex frames frameNumber]? with
      | some left => !left.isDelta || decide (1 - deletedIndex frames frameNumber ∈
          (c.rebuiltBy id frames frameNumber).map Prod.fst) || left.memoryBytes == img.data.length
      | none => true
    else true
  | _, _ => true

theorem sum_memoryBytes_eraseIdx {e : FrameEntry} (h : frames[idx]? = some e) :
    ((frames.eraseIdx idx).map FrameEntry.memoryBytes).sum + e.memoryBytes
      = (frames.map FrameEntry.memoryBytes).sum := by
  induction frames generalizing idx with
  | nil => cases h
  | cons x frames ih =>
    cases idx with
    | zero =>
      cases h
      simp only [eraseIdx_cons_zero, map_cons, sum_cons]
      omega
    | succ idx =>
      have hrest := ih (show frames[idx]? = some e from h)
      simp only [eraseIdx_cons_succ, map_cons, sum_cons]
      omega

section

variable (h : c.Sound) (hf : c.animationFrames.lookup id = some frames)
include h hf

/-- The frames after a deletion, whatever is on display then. -/
theorem sound_deleteFrame
    (hremoved : frames[idx]? = some removed) (hlen : 3 ≤ frames.length) (hothers : ∀ x, x ≠ id → SameAt c c' x)
    (hi' : c'.images.lookup id = some img')
    (hf' : c'.animationFrames.lookup id = some (frames.eraseIdx idx)) {state' : AnimationState}
    (ha' : c'.animations.lookup id = some state') (hused : c'.memoryUsed = (c.debit removed.memoryBytes).memoryUsed)
    (hunder : c'.underflowed = (c.debit removed.memoryBytes).underflowed) : c'.Sound := by
  have hlt := (List.getElem?_eq_some_iff.mp hremoved).1
  have hleft : (frames.eraseIdx idx).length = frames.length - 1 := length_eraseIdx_of_lt hlt
  refine h.release id hothers (.animated img' _ state' hi' hf' ha' ?_ fun e he => ?_) ?_ hused hunder
  · intro hnil
    rw [hnil, length_nil] at hleft
    omega
  · rw [he, length_singleton] at hleft
    omega
  · rw [imageBytes_of_frames hf', imageBytes_of_frames hf]
    exact sum_memoryBytes_eraseIdx hremoved

/-- The deletion that leaves a static image. -/
theorem staticLeft_spec {d : Cache} (hremoved : frames[idx]? = some removed)
    (hleft : frames.eraseIdx idx = [left]) (hothers : ∀ x, x ≠ id → SameAt c d x) (hi' : d.images.lookup id = some img') (hf' : d.animationFrames.lookup id = none)
    (ha' : d.animations.lookup id = none) (hused : d.memoryUsed = (c.debit removed.memoryBytes).memoryUsed)
    (hunder : d.underflowed = (c.debit removed.memoryBytes).underflowed) :
    d.Stored ∧ (d.Accounted ↔ left.memoryBytes = img'.data.length) := by
  have hsum := sum_memoryBytes_eraseIdx hremoved
  rw [hleft] at hsum
  have hbytes : c.imageBytes id = left.memoryBytes + removed.memoryBytes := by
    rw [imageBytes_of_frames hf, ← hsum]
    rfl
  have hbytes' := imageBytes_of_static hf' hi'
  have hexchange := retained_exchange fun x hx => (hothers x hx).imageBytes
  have hle := imageBytes_le_retained c id
  have hexact := h.accounted.exact
  have hused' : d.memoryUsed = c.memoryUsed - removed.memoryBytes := hused
  refine ⟨h.stored.change hothers (.static img' hi' hf' ha'), ⟨fun ha => ?_, fun hsize => ⟨?_, ?_⟩⟩⟩
  · have hexact' := ha.exact
    omega
  · omega
  · rw [hunder]
    show (c.underflowed || decide (c.memoryUsed < removed.memoryBytes)) = false
    rw [h.accounted.noUnderflow, decide_eq_false (by omega), Bool.or_false]

/-- Dropping the animation of a single frame leaves the image that shows it. -/
theorem sound_dropAnimation (hlen : frames.length ≤ 1) : (c.dropAnimation id).Sound := by
  obtain ⟨⟨img, hi, hsingle⟩, _, hrooted⟩ := h.stored.of_frames hf
  have hone : frames.length = 1 := by
    have := length_pos_iff.mpr hrooted
    omega
  obtain ⟨e, rfl⟩ := length_eq_one_iff.mp hone
  have hf' : (c.dropAnimation id).animationFrames.lookup id = none := lookup_erase ..
  refine h.change id (fun x hx => .of_eq rfl (lookup_erase_ne hx) (lookup_erase_ne hx))
    (.static img hi hf' (lookup_erase ..)) ?_ rfl
  rw [imageBytes_of_static hf' hi, imageBytes_of_frames hf, ← (hsingle e rfl).2]
  rfl

/-- The end of a deletion: the animation is dropped when a single frame is left. -/
theorem finishDeletion_spec {d : Cache} (hremoved : frames[idx]? = some removed)
    (hlen : 2 ≤ frames.length) (hothers : ∀ x, x ≠ id → SameAt c d x) (hi' : d.images.lookup id = some img') (hf' : d.animationFrames.lookup id = some (frames.eraseIdx idx))
    {state' : AnimationState} (ha' : d.animations.lookup id = some state')
    (hused : d.memoryUsed = (c.debit removed.memoryBytes).memoryUsed)
    (hunder : d.underflowed = (c.debit removed.memoryBytes).underflowed) {balanced : Bool}
    (hlarge : frames.length ≠ 2 → balanced = true)
    (hsmall : ∀ left, frames.eraseIdx idx = [left] → (left.memoryBytes = img'.data.length ↔ balanced = true))
    (b : Cache) (hb : b = if (frames.eraseIdx idx).length ≤ 1 then d.dropAnimation id else d) :
    b.Stored ∧ (b.Accounted ↔ balanced = true) := by
  have hlt := (List.getElem?_eq_some_iff.mp hremoved).1
  have hleft : (frames.eraseIdx idx).length = frames.length - 1 := length_eraseIdx_of_lt hlt
  by_cases htwo : frames.length = 2
  · rw [if_pos (by omega)] at hb
    obtain ⟨left, hone⟩ := length_eq_one_iff.mp (show (frames.eraseIdx idx).length = 1 by omega)
    subst hb
    have hothers' : ∀ x, x ≠ id → SameAt c (d.dropAnimation id) x := by
      intro x hx
      have hsame := hothers x hx
      refine ⟨hsame.images, ?_, ?_⟩
      · exact (lookup_erase_ne hx).trans hsame.frames
      · show ((d.animations.erase id).lookup x).isSome = _
        rw [lookup_erase_ne hx]
        exact hsame.states
    obtain ⟨hstored, hiff⟩ := staticLeft_spec h hf hremoved hone hothers' hi'
      (lookup_erase ..) (lookup_erase ..) hused hunder
    exact ⟨hstored, hiff.trans (hsmall left hone)⟩
  · rw [if_neg (by omega)] at hb
    subst hb
    have hsound := sound_deleteFrame h hf hremoved (by omega) hothers hi' hf' ha' hused hunder
    exact ⟨hsound.stored, iff_of_true hsound.accounted (hlarge htwo)⟩

end

/-- Of two frames, one is left. -/
theorem getElem?_of_eraseIdx_eq (hlt : idx < frames.length) (h : frames.eraseIdx idx = [left]) :
    frames.length = 2 ∧ frames[1 - idx]? = some left := by
  match frames, idx with
  | [_, y], 0 => cases h; exact ⟨rfl, rfl⟩
  | [x, _], 1 => cases h; exact ⟨rfl, rfl⟩
  | [_], 0 => cases h
  | _ :: _ :: _ :: _, 0 => cases h
  | _ :: _ :: _ :: _, 1 => cases h
  | _ :: _ :: _, _ + 2 => cases h
  | [_], _ + 1 => simp at hlt
  | [], _ => simp at hlt

/-- A single frame is the current one. -/
theorem currentFrame_removeFrame_one (state : AnimationState) (idx : Nat) : (state.removeFrame idx 1).currentFrame = 0 := by
  unfold AnimationState.removeFrame
  dsimp only
  generalize (if idx < state.currentFrame then state.currentFrame - 1 else state.currentFrame) = current
  split <;> omega

/-- A single frame that is left has the size on display if it is displayed, or if it was rebuilt, or if the sizes
    happen to agree. -/
theorem Rebuilt.left_iff {frames₁ : List FrameEntry} {rebuilt : List Nat} (h : Rebuilt frames frames₁ rebuilt)
    (hlt : idx < frames.length) (hleft : frames₁.eraseIdx idx = [left]) {img : Data}
    {shown : Bool} (hshown : shown = !left.isDelta) (hdata : shown = true → img'.data.length = left.memoryBytes)
    (himg' : shown = false → img' = img) :
    left.memoryBytes = img'.data.length ↔ (if frames.length = 2 then
      match frames[1 - idx]? with
      | some left => !left.isDelta || decide (1 - idx ∈ rebuilt) || left.memoryBytes == img.data.length
      | none => true
      else true) = true := by
  have hlen := h.length
  obtain ⟨htwo, hat⟩ := getElem?_of_eraseIdx_eq (by omega) hleft
  obtain ⟨e, he⟩ : ∃ e, frames[1 - idx]? = some e := ⟨_, getElem?_eq_getElem (by omega)⟩
  rw [if_pos (by omega), he]
  dsimp only
  by_cases hin : 1 - idx ∈ rebuilt
  · have hfull := h.full _ hin left hat
    have hsize := hdata (by rw [hshown, hfull]; rfl)
    rw [decide_eq_true hin, Bool.or_true]
    exact iff_of_true hsize.symm rfl
  · have hsame := h.kept _ hin
    rw [hat, he] at hsame
    cases hsame
    rw [decide_eq_false hin, Bool.or_false]
    cases hdelta : left.isDelta with
    | false =>
      have hsize := hdata (by rw [hshown, hdelta]; rfl)
      exact iff_of_true hsize.symm rfl
    | true => rw [himg' (by rw [hshown, hdelta]; rfl), Bool.not_true, Bool.false_or, beq_iff_eq]

/-- **Deleting a frame** settles its account exactly when what is left has the size on display. -/
theorem removeAnimationFrame_spec (h : c.Sound) (id : ImageId) (frameNumber : Nat) :
    (c.removeAnimationFrame id frameNumber).1.Stored
      ∧ ((c.removeAnimationFrame id frameNumber).1.Accounted ↔ c.deletionBalanced id frameNumber = true) := by
  have hout := c.removeAnimationFrame_outcome id frameNumber
  unfold deletionBalanced
  generalize c.removeAnimationFrame id frameNumber = r at hout ⊢
  cases hout with
  | missing hf =>
    rw [hf]
    exact ⟨h.stored, iff_of_true h.accounted rfl⟩
  | @single frames hf hshort =>
    obtain ⟨⟨img, hi, _⟩, _, _⟩ := h.stored.of_frames hf
    have hdropped := sound_dropAnimation h hf hshort
    rw [hf, hi]
    dsimp only
    rw [if_neg (by omega)]
    exact ⟨hdropped.stored, iff_of_true hdropped.accounted rfl⟩
  | @removed frames c₁ hf hlong hc₁ =>
    obtain ⟨⟨img, hi, _⟩, ⟨state, ha⟩, _⟩ := h.stored.of_frames hf
    have hrebuild := materializeDependents_spec (c.rebuiltBy id frames frameNumber) h hf (by omega)
    have hlt : deletedIndex frames frameNumber < frames.length := by
      unfold deletedIndex
      omega
    rw [hf, hi]
    dsimp only
    rw [hc₁] at hrebuild
    generalize deletedIndex frames frameNumber = idx at hlt ⊢
    obtain ⟨h₁, himages, hstates, frames₁, hf₁, hrebuilt⟩ := hrebuild
    have hlen₁ := hrebuilt.length
    obtain ⟨removed, hremoved⟩ : ∃ removed, frames₁[idx]? = some removed :=
      ⟨_, getElem?_eq_getElem (by omega)⟩
    have hbytes : c₁.entryBytes id idx = removed.memoryBytes := by
      unfold entryBytes
      rw [hf₁, Option.getD_some, hremoved]
      rfl
    rw [hf₁, Option.getD_some]
    generalize hc₂ : c₁.unlinkEntry id idx = c₂
    unfold unlinkEntry at hc₂
    rw [hbytes, hf₁, hstates, ha, Option.getD_some] at hc₂
    dsimp only at hc₂
    generalize hstate' : state.removeFrame idx (frames₁.eraseIdx idx).length = state' at hc₂
    have hf₂ : c₂.animationFrames.lookup id = some (frames₁.eraseIdx idx) := by
      rw [← hc₂]
      exact lookup_insert _
    have ha₂ : c₂.animations.lookup id = some state' := by rw [← hc₂]; exact lookup_insert _
    have hothers₂ : ∀ x, x ≠ id → SameAt c₁ c₂ x := by
      intro x hx
      rw [← hc₂]
      exact .of_eq rfl (lookup_insert_ne hx) ((lookup_insert_ne hx).trans (by rw [hstates]))
    obtain ⟨c₃, c₄, hshown, hc₄, heq⟩ := c₂.finishDeletion_eq id (frames₁.eraseIdx idx)
    -- A single frame that is left is either on display, or a delta that was not rebuilt.
    obtain ⟨img', shown, hothers₃, hi₃, hframes₃, hstates₃, hused₃, hunder₃, hleft⟩ : ∃ img' shown,
        (∀ x, x ≠ id → c₃.images.lookup x = c₂.images.lookup x) ∧ c₃.images.lookup id = some img'
          ∧ c₃.animationFrames = c₂.animationFrames ∧ c₃.animations = c₂.animations ∧ c₃.memoryUsed = c₂.memoryUsed
          ∧ c₃.underflowed = c₂.underflowed ∧ ∀ left, frames₁.eraseIdx idx = [left] → shown = !left.isDelta
            ∧ (shown = true → img'.data.length = left.memoryBytes) ∧ (shown = false → img' = img) := by
      have hi₂ : c₂.images.lookup id = some img := by
        rw [← hc₂]
        exact (congrArg _ himages).trans hi
      have hcur : ∀ left, frames₁.eraseIdx idx = [left] →
          (frames₁.eraseIdx idx)[((c₂.animations.lookup id).map (·.currentFrame)).getD 0]? = some left := by
        intro left hleft
        rw [ha₂, ← hstate', hleft, length_singleton, Option.map_some, currentFrame_removeFrame_one]
        rfl
      cases hshown with
      | nothing hnone =>
        refine ⟨img, false, fun _ _ => rfl, hi₂, rfl, rfl, rfl, rfl, fun left hleft => ⟨?_, nofun, fun _ => rfl⟩⟩
        cases left with
        | delta => rfl
        | materialized => exact absurd (hcur _ hleft) (hnone _ _)
      | @frame frameId data hcurrent =>
        obtain ⟨hothers, ⟨img', hi', hdata⟩, hframes, hstates, hused, hunder⟩ :=
          showIf_spec c₂ hi₂ frameId data (some true)
        refine ⟨img', true, hothers, hi', hframes, hstates, hused, hunder, fun left hleft => ?_⟩
        cases (hcur left hleft).symm.trans hcurrent
        exact ⟨rfl, fun _ => congrArg List.length hdata, nofun⟩
    rw [heq]
    subst hc₄
    refine finishDeletion_spec (d := { c₃ with frameStarts := c₃.frameStarts.erase id, dirty := true }) h₁ hf₁ hremoved
      (by omega) (fun x hx => ⟨?_, ?_, ?_⟩) hi₃ (hframes₃ ▸ hf₂) (hstates₃ ▸ ha₂) (hused₃.trans (by rw [← hc₂]))
      (hunder₃.trans (by rw [← hc₂])) (fun hne => if_neg (by omega))
      (fun left hone => hrebuilt.left_iff hlt hone (hleft left hone).1 (hleft left hone).2.1 (hleft left hone).2.2) _ rfl
    · rw [hothers₃ x hx]
      exact (hothers₂ x hx).images
    · rw [hframes₃]
      exact (hothers₂ x hx).frames
    · rw [hstates₃]
      exact (hothers₂ x hx).states

end Cache

/-! ## Every operation -/

/-- **The operation settles its account.** An edit or a composition does not write a full canvas over a frame that
    takes fewer or more bytes, and a deletion that leaves a static image leaves one of the size on display. -/
def CacheOp.Balanced (c : Cache) : CacheOp → Bool
  | putFrame req => c.frameEditBalanced req
  | composeFrame req => !c.composes req || c.sizedAs req.imageId req.dstFrame
  | removeAnimationFrame id frameNumber => c.deletionBalanced id frameNumber
  | _ => true

/-- **One operation** keeps the structure of the store, and the counter exact exactly when it is balanced. -/
theorem CacheOp.accounted_iff {c : Cache} (h : c.Sound) (op : CacheOp) :
    (op.apply c).Stored ∧ ((op.apply c).Accounted ↔ op.Balanced c = true) := by
  have hsound : ∀ {c' : Cache}, c'.Sound → c'.Stored ∧ (c'.Accounted ↔ true = true) :=
    fun hc => ⟨hc.stored, iff_of_true hc.accounted rfl⟩
  have hplays : op.Plays → (op.apply c).Sound := fun hop => Cache.animationInvariant_sound.apply c op hop h
  have hupkeep : op.Upkeep → (op.apply c).Sound := fun hop => Cache.upkeepInvariant_sound.apply c op hop h
  open Cache in
  cases op with
  | nextImageId => exact hsound (h.same (fun _ => .of_eq rfl rfl rfl) rfl rfl)
  | store data => exact hsound (sound_store h data)
  | storeAnimated data frames durations loopCount => exact hsound (sound_storeAnimated h data frames durations loopCount)
  | putFrame req => exact putFrame_spec h req
  | composeFrame req =>
    obtain ⟨hstored, hiff⟩ := composeFrame_spec h req
    refine ⟨hstored, hiff.trans ?_⟩
    show _ ↔ (!c.composes req || c.sizedAs req.imageId req.dstFrame) = true
    cases c.composes req with
    | false => exact iff_of_true nofun rfl
    | true => exact ⟨fun hs => hs rfl, fun hs _ => hs⟩
  | removeAnimationFrame id frameNumber => exact removeAnimationFrame_spec h id frameNumber
  | ensureAnimationStateForRootGap id gapUpdate => exact hsound (sound_ensureAnimationStateForRootGap h id gapUpdate)
  | setAnimationEnabled | setAnimationAction | setAnimationLoops | setFrameGap | setCurrentFrame | advanceAnimations =>
    exact hsound (hplays trivial)
  | _ => exact hsound (hupkeep trivial)

/-- **Memory accounting.** Over any sequence of operations on a new cache, the counter is exact in every state
    reached, and no subtraction was ever cut off, exactly when every operation is balanced. -/
theorem CacheOp.accounted_run_iff (ops : List CacheOp) :
    (∀ n, (run CacheOp.apply .new (ops.take n)).Accounted)
      ↔ Along CacheOp.apply (fun c op => op.Balanced c = true) .new ops :=
  along_iff_forall_take (fun _ op hs ha => op.accounted_iff ⟨hs, ha⟩) Cache.sound_new.stored Cache.sound_new.accounted

/-- A blank image of two pixels. -/
def twoPixels : Data :=
  { id := 1, width := 2, height := 1, data := List.replicate 8 0, pixelGeneration := 0, format := .rgba
    source := .direct, lastAccessed := 0, imageNumber := none }

/-- One pixel for the frame `target` of that image. -/
def onePixel (target : FrameTarget) (canvas : CanvasSource) : FrameLoadRequest :=
  { imageId := 1, target, canvas, blit := ⟨0, 0, 1, 1⟩, frameData := [1, 2, 3, 255], compositionMode := .overwrite }

/-- Appending a frame over the root stores 4 bytes; editing that frame stores 8 in their place, and the counter
    stays at 12. Removing the image then subtracts 16 from it. -/
theorem CacheOp.edit_of_delta_drifts :
    (run CacheOp.apply .new [.store twoPixels, .putFrame (onePixel (.append 0) (.frame 1)),
        .putFrame (onePixel (.edit 2 none) .editTarget)]).memoryUsed = 12
      ∧ (run CacheOp.apply .new [.store twoPixels, .putFrame (onePixel (.append 0) (.frame 1)),
        .putFrame (onePixel (.edit 2 none) .editTarget)]).retained = 16
      ∧ (run CacheOp.apply .new [.store twoPixels, .putFrame (onePixel (.append 0) (.frame 1)),
        .putFrame (onePixel (.edit 2 none) .editTarget), .removeImage 1]).underflowed = true := by
  decide +kernel

/-- Editing the root of that animation, a full canvas, is balanced. -/
example : Along CacheOp.apply (fun c op => op.Balanced c = true) .new
    [.store twoPixels, .putFrame (onePixel (.append 0) (.frame 1)), .putFrame (onePixel (.edit 1 none) .editTarget)] := by
  decide +kernel

end OriTerm.Image
