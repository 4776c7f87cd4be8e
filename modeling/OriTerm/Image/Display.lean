import OriTerm.Image.Delta

/-!
# `Image.Display` — the pixels on display are those of the current frame

An image keeps the pixels on display beside its stored frames, and each operation updates the two separately. A frame that
is stored as a delta is never put on display: `applyFrame` and the deletion of a frame show full canvases only, so that an
operation that makes a delta the current frame leaves the old pixels there.

**`OnDisplay`** is the invariant of one image: the current frame is a full canvas, and the image shares its buffer. An edit
of that buffer is then shown, and an edit of another frame does not touch it. `CacheOp.ShowsCanvas` asks of an operation
that the frame it makes current, if it makes one, is stored as a full canvas; every operation keeps the invariant then
(`displays_apply`), and `CacheOp.display_run` follows.
-/

namespace OriTerm.Image

open Lib List Option AList

namespace Cache

variable {c c' : Cache} {id : ImageId} {img : Data} {frames : List FrameEntry} {state : AnimationState} {fid : Nat}

/-! ## The invariant -/

/-- The current frame of an animation is a full canvas, and its buffer is the one on display. -/
structure Showing (c : Cache) (id : ImageId) (img : Data) (frames : List FrameEntry) (state : AnimationState) (fid : Nat) :
    Prop where
  image : c.images.lookup id = some img
  stored : c.animationFrames.lookup id = some frames
  playing : c.animations.lookup id = some state
  distinct : (frames.map FrameEntry.id).Nodup
  below : ∀ e ∈ frames, e.id < c.nextFrameId
  total : state.totalFrames ≤ frames.length
  current : frames[state.currentFrame]? = some (.materialized fid img.data)
  shared : img.sharedFrame = some fid

/-- **An id is on display**: nothing is animated under it, or its current frame is shown. -/
inductive OnDisplay (c : Cache) (id : ImageId) : Prop
  | still (hf : c.animationFrames.lookup id = none) (ha : c.animations.lookup id = none)
  | animated {img : Data} {frames : List FrameEntry} {state : AnimationState} {fid : Nat}
      (h : c.Showing id img frames state fid)

theorem onDisplay_of_showing (img : Data) (frames : List FrameEntry) (state : AnimationState) (fid : Nat)
    (h : c.Showing id img frames state fid) : c.OnDisplay id := .animated h

/-- Every id is. -/
def Displays (c : Cache) : Prop := ∀ id, c.OnDisplay id

section

variable (h : c.OnDisplay id)
include h

theorem OnDisplay.of_state (ha : c.animations.lookup id = some state) :
    ∃ img frames fid, c.Showing id img frames state fid := by
  cases h with
  | still _ hnone => rw [hnone] at ha; cases ha
  | @animated img frames state' fid hshowing =>
    cases some.inj (hshowing.playing.symm.trans ha)
    exact ⟨img, frames, fid, hshowing⟩

theorem OnDisplay.of_frames (hf : c.animationFrames.lookup id = some frames) :
    ∃ img state fid, c.Showing id img frames state fid := by
  cases h with
  | still hnone _ => rw [hnone] at hf; cases hf
  | @animated img frames' state fid hshowing =>
    cases some.inj (hshowing.stored.symm.trans hf)
    exact ⟨img, state, fid, hshowing⟩

theorem OnDisplay.frames_of_still (ha : c.animations.lookup id = none) : c.animationFrames.lookup id = none := by
  cases h with
  | still hf _ => exact hf
  | animated hshowing => rw [hshowing.playing] at ha; cases ha

theorem OnDisplay.clean (hi : c.images.lookup id = none) : c.Gone id := by
  cases h with
  | still hf ha => exact ⟨hi, hf, ha⟩
  | animated hshowing => rw [hshowing.image] at hi; cases hi

theorem OnDisplay.same (hs : SameImage c c' id) : c'.OnDisplay id := by
  cases h with
  | still hf ha => exact .still (hs.frames.trans hf) (hs.states.trans ha)
  | animated h =>
    obtain ⟨img', hi', hdata, _, _, hshared⟩ := hs.image _ h.image
    refine .animated ⟨hi', hs.frames.trans h.stored, hs.states.trans h.playing, h.distinct,
      fun e he => Nat.lt_of_lt_of_le (h.below e he) hs.next, h.total, ?_, hshared.trans h.shared⟩
    rw [hdata]
    exact h.current

theorem OnDisplay.survives (hs : Survives c c' id) : c'.OnDisplay id := by
  rcases hs with hgone | hsame
  · exact .still hgone.frames hgone.states
  · exact h.same hsame

end

theorem Displays.survives (h : c.Displays) (hs : ∀ x, Survives c c' x) : c'.Displays := fun x => (h x).survives (hs x)

/-- Bookkeeping is no part of the invariant. -/
theorem Displays.of_eq (h : c.Displays) (hi : c'.images = c.images) (hf : c'.animationFrames = c.animationFrames)
    (ha : c'.animations = c.animations) (hn : c'.nextFrameId = c.nextFrameId) : c'.Displays :=
  fun x => (h x).same (.of_eq (by rw [hi]) (by rw [hf]) (by rw [ha]) hn.ge)

/-- One image changes; others are lost or stay. -/
theorem Displays.change (h : c.Displays) (id : ImageId) (hs : ∀ x, x ≠ id → Survives c c' x) (hid : c'.OnDisplay id) :
    c'.Displays := by
  intro x
  by_cases hx : x = id
  · rw [hx]
    exact hid
  · exact (h x).survives (hs x hx)

/-! ## Playing an animation -/

/-- The frame at an index is not a delta. -/
def storedWhole (c : Cache) (id : ImageId) (idx : Nat) : Bool :=
  (((c.animationFrames.lookup id).getD [])[idx]?).all fun e => !e.isDelta

/-- Only the state of one animation changes, and not its current frame. -/
theorem Displays.restate (h : c.Displays) {state' : AnimationState} (ha : c.animations.lookup id = some state)
    (hi : c'.images = c.images) (hf : c'.animationFrames = c.animationFrames)
    (ha' : c'.animations = c.animations.insert id state') (hn : c'.nextFrameId = c.nextFrameId)
    (htotal : state'.totalFrames = state.totalFrames) (hcurrent : state'.currentFrame = state.currentFrame) :
    c'.Displays := by
  refine h.change id (fun x hx => .inr (.of_eq (by rw [hi]) (by rw [hf]) (by rw [ha']; exact lookup_insert_ne hx)
    hn.ge)) ?_
  obtain ⟨img, frames, fid, hshowing⟩ := (h id).of_state ha
  refine onDisplay_of_showing img frames state' fid ?_
  refine ⟨by rw [hi]; exact hshowing.image, by rw [hf]; exact hshowing.stored, by rw [ha']; exact lookup_insert _,
    hshowing.distinct, by rw [hn]; exact hshowing.below, by rw [htotal]; exact hshowing.total, ?_, hshowing.shared⟩
  rw [hcurrent]
  exact hshowing.current

/-- **The current frame changes to one stored whole**, which goes on display. -/
theorem Displays.turn (h : c.Displays) (state' : AnimationState) (ha : c.animations.lookup id = some state)
    (htotal : state'.totalFrames = state.totalFrames)
    (hlt : state'.currentFrame < state.totalFrames ∨ state'.currentFrame = 0)
    (hwhole : c.storedWhole id state'.currentFrame = true) :
    (({ c with animations := c.animations.insert id state' } : Cache).applyFrame id state'.currentFrame).Displays := by
  obtain ⟨img, frames, fid, hshowing⟩ := (h id).of_state ha
  have hbound : state'.currentFrame < frames.length := by
    have hpos := (List.getElem?_eq_some_iff.mp hshowing.current).1
    have htotal := hshowing.total
    rcases hlt with hlt | hzero <;> omega
  have hmin : min state'.currentFrame (frames.length - 1) = state'.currentFrame := Nat.min_eq_left (by omega)
  have hentry : ∃ fid' data, frames[state'.currentFrame]? = some (.materialized fid' data) := by
    unfold storedWhole at hwhole
    rw [hshowing.stored, getD_some, getElem?_eq_getElem hbound] at hwhole
    rw [getElem?_eq_getElem hbound]
    generalize frames[state'.currentFrame] = e at hwhole
    cases e with
    | materialized fid' data => exact ⟨fid', data, rfl⟩
    | delta => cases hwhole
  obtain ⟨fid', data, hentry⟩ := hentry
  have happly : ({ c with animations := c.animations.insert id state' } : Cache).applyFrame id state'.currentFrame =
      { c with
        animations := c.animations.insert id state', images := c.images.insert id (img.show fid' data).bump, dirty := true } := by
    unfold applyFrame
    rw [hshowing.stored, hshowing.image]
    dsimp only
    rw [hmin, hentry]
  rw [happly]
  refine h.change id (fun x hx => .inr (.of_eq (lookup_insert_ne hx) rfl (lookup_insert_ne hx)
    (Nat.le_refl _))) ?_
  refine onDisplay_of_showing (img.show fid' data).bump frames state' fid' ?_
  exact ⟨lookup_insert _, hshowing.stored, lookup_insert _, hshowing.distinct, hshowing.below,
    by rw [htotal]; exact hshowing.total, hentry, rfl⟩

section

variable (state : AnimationState)

theorem advance_current (h : state.advance.2 = false) : state.advance.1.currentFrame = state.currentFrame := by
  unfold AnimationState.advance at h ⊢
  grind

theorem advance_lt (h : state.advance.2 = true) : state.advance.1.currentFrame < state.totalFrames := by
  unfold AnimationState.advance at h ⊢
  grind

/-- Advancing either stays on the frame, or goes to one that exists. -/
theorem advanceConsumingGapless_current :
    (state.advanceConsumingGapless.2 = false → state.advanceConsumingGapless.1.currentFrame = state.currentFrame)
      ∧ (state.advanceConsumingGapless.2 = true →
        state.advanceConsumingGapless.1.currentFrame < state.totalFrames) := by
  unfold AnimationState.advanceConsumingGapless
  dsimp only
  split
  · next hadvanced =>
    refine ⟨nofun, fun _ => ?_⟩
    obtain ⟨htotal, hcurrent⟩ := keepsFrames_skipGapless (state.advance.1.totalFrames - 1) state.advance.1
    have hsame := (keepsFrames_advance state).1
    rw [← hsame]
    refine hcurrent ?_
    rw [hsame]
    exact advance_lt state hadvanced
  · next hstayed => exact ⟨fun _ => advance_current state (by simpa using hstayed), nofun⟩

end

/-- If the tick advances the image, it is to a frame that is stored whole. -/
def tickShowsWhole (now : Nanos) (c : Cache) (id : ImageId) : Bool :=
  match c.animations.lookup id with
  | none => true
  | some state =>
    state.paused || state.isFinished || state.totalFrames ≤ 1 || state.frameDurations.all (· == 0)
      || now - (c.frameStarts.lookup id).getD now < state.currentDuration
      || c.storedWhole id state.advanceConsumingGapless.1.currentFrame

theorem displays_advanceImage {acc : Cache × Option Nanos} (h : acc.1.Displays) (now : Nanos) (id : ImageId)
    (hwhole : tickShowsWhole now acc.1 id = true) : (advanceImage now acc id).1.Displays := by
  have hout := advanceImage_outcome now acc id
  generalize (advanceImage now acc id).1 = c' at hout ⊢
  cases hout with
  | idle => exact h
  | started => exact h.of_eq rfl rfl rfl rfl
  | @stayed state _ c₁ hc₁ ha hstayed =>
    have h₁ : c₁.Displays := hc₁ ▸ h.of_eq rfl rfl rfl rfl
    exact h₁.restate ha rfl rfl rfl rfl (keepsFrames_advanceConsumingGapless state).1
      ((advanceConsumingGapless_current state).1 hstayed)
  | @turned state _ c₁ c₂ c₃ hc₁ ha hplaying hgaps hstart hdue hadvanced hc₂ hc₃ =>
    have h₁ : c₁.Displays := hc₁ ▸ h.of_eq rfl rfl rfl rfl
    have hstored : c₁.storedWhole id state.advanceConsumingGapless.1.currentFrame = true := by
      subst hc₁
      unfold tickShowsWhole at hwhole
      have hwhole' : acc.1.storedWhole id state.advanceConsumingGapless.1.currentFrame = true := by grind
      exact hwhole'
    have hturned := h₁.turn _ ha (keepsFrames_advanceConsumingGapless state).1
      (.inl ((advanceConsumingGapless_current state).2 hadvanced)) hstored
    subst hc₂ hc₃
    exact hturned.of_eq rfl rfl rfl rfl

theorem applyFrame_bookkeeping (c : Cache) (id : ImageId) (frameIdx : Nat) :
    (c.applyFrame id frameIdx).frameStarts = c.frameStarts
      ∧ (c.applyFrame id frameIdx).animationFrames = c.animationFrames
      ∧ (c.applyFrame id frameIdx).nextFrameId = c.nextFrameId := by
  unfold applyFrame
  split
  · split <;> exact ⟨rfl, rfl, rfl⟩
  · exact ⟨rfl, rfl, rfl⟩

/-- What a tick reads and writes of an image that it does not advance. -/
structure SameClock (c c' : Cache) (x : ImageId) : Prop where
  image : c'.images.lookup x = c.images.lookup x
  states : c'.animations.lookup x = c.animations.lookup x
  starts : c'.frameStarts.lookup x = c.frameStarts.lookup x
  frames : c'.animationFrames.lookup x = c.animationFrames.lookup x

theorem SameClock.tickShowsWhole {x : ImageId} (h : SameClock c c' x) (now : Nanos) :
    tickShowsWhole now c' x = tickShowsWhole now c x := by
  unfold Cache.tickShowsWhole storedWhole
  rw [h.states, h.starts, h.frames]

theorem applyFrame_image (c : Cache) {x : ImageId} (hx : x ≠ id) (frameIdx : Nat) :
    (c.applyFrame id frameIdx).images.lookup x = c.images.lookup x := by
  unfold applyFrame
  split
  · split
    · exact lookup_insert_ne hx
    · rfl
  · rfl

theorem sameClock_advanceImage (now : Nanos) (acc : Cache × Option Nanos) {x : ImageId} (hx : x ≠ id) :
    SameClock acc.1 (advanceImage now acc id).1 x := by
  have hout := advanceImage_outcome now acc id
  generalize (advanceImage now acc id).1 = c' at hout ⊢
  cases hout with
  | idle => exact ⟨rfl, rfl, rfl, rfl⟩
  | started => exact ⟨rfl, rfl, lookup_insert_ne hx, rfl⟩
  | stayed hc₁ =>
    subst hc₁
    exact ⟨rfl, lookup_insert_ne hx, lookup_insert_ne hx, rfl⟩
  | @turned _ _ c₁ c₂ c₃ hc₁ _ _ _ _ _ _ hc₂ hc₃ =>
    obtain ⟨hstarts, hframes, _⟩ := applyFrame_bookkeeping c₂ id _
    subst hc₁ hc₂ hc₃
    refine ⟨applyFrame_image _ hx _, ?_, ?_, congrArg (AList.lookup x) hframes⟩
    · rw [applyFrame_animations]
      exact lookup_insert_ne hx
    · rw [lookup_insert_ne hx, hstarts]
      exact lookup_insert_ne hx

/-- The images that a tick advances. -/
def visibleAnimations (c : Cache) (top bottom : StableRowIndex) : List ImageId :=
  c.animations.keys.filter fun id => c.placements.any fun p => p.imageId == id && p.intersectsViewport top bottom

theorem displays_advanceImages (now : Nanos) (ids : List ImageId) (hids : ids.Nodup) {acc : Cache × Option Nanos}
    (h : acc.1.Displays) (hwhole : ∀ id ∈ ids, tickShowsWhole now acc.1 id = true) :
    (ids.foldl (advanceImage now) acc).1.Displays := by
  induction ids generalizing acc with
  | nil => exact h
  | cons id ids ih =>
    obtain ⟨hnotin, hids⟩ := nodup_cons.mp hids
    refine ih hids (displays_advanceImage h now id (hwhole id (mem_cons_self ..))) fun x hx => ?_
    have hne : x ≠ id := by
      rintro rfl
      exact hnotin hx
    rw [(sameClock_advanceImage now acc hne).tickShowsWhole]
    exact hwhole x (mem_cons_of_mem _ hx)

theorem displays_advanceAnimations (h : c.Displays) (now : Nanos) (top bottom : StableRowIndex)
    (hwhole : c.animationEnabled = true → ∀ id ∈ c.visibleAnimations top bottom, tickShowsWhole now c id = true) :
    (c.advanceAnimations now top bottom).1.Displays := by
  unfold advanceAnimations
  split
  · exact h
  · next hplaying =>
    rw [Bool.or_eq_true, not_or, Bool.not_eq_true', Bool.not_eq_false] at hplaying
    exact displays_advanceImages now (c.visibleAnimations top bottom) (c.animations.keys_nodup.filter _) h (hwhole hplaying.1)

/-- The settings of an animation leave its current frame on display. -/
theorem settingInvariant_displays : SettingInvariant fun c c' => c.Displays → c'.Displays :=
  ⟨fun _ h => h, fun h h' hs => h' (h hs), fun _ _ _ h => h.of_eq rfl rfl rfl rfl, fun _ h => h.of_eq rfl rfl rfl rfl,
    fun _ ha htotal hcurrent h => h.restate ha rfl rfl rfl rfl htotal hcurrent⟩

theorem displays_setCurrentFrame (h : c.Displays) (now : Nanos) (id : ImageId) (frameIdx : Nat)
    (hwhole : c.storedWhole id frameIdx = true) : (c.setCurrentFrame now id frameIdx).Displays := by
  unfold setCurrentFrame
  split
  · exact h
  · next state ha =>
    split
    · next hframe =>
      have hturned := h.turn { state with currentFrame := frameIdx } ha rfl (.inl hframe.1) hwhole
      exact hturned.of_eq rfl rfl rfl rfl
    · exact h

/-- Animations are rewound to their first frames, as stored. -/
theorem displays_rewind (entries : List (Sigma fun _ : ImageId => AnimationState)) (h : c.Displays)
    (hin : ∀ e ∈ entries, c.animations.lookup e.1 = some e.2) (hnodup : (entries.map Sigma.fst).Nodup)
    (hwhole : ∀ e ∈ entries, c.storedWhole e.1 0 = true) :
    (entries.foldl (fun c e =>
      if e.2.currentFrame ≠ 0 then
        Cache.applyFrame
          { c with animations := c.animations.insert e.1 { e.2 with currentFrame := 0, loopsCompleted := 0 } } e.1 0
      else c) c).Displays := by
  induction entries generalizing c with
  | nil => exact h
  | cons e entries ih =>
    rw [map_cons, nodup_cons] at hnodup
    rw [foldl_cons]
    have ha := hin e (mem_cons_self ..)
    split
    · have hturned := h.turn { e.2 with currentFrame := 0, loopsCompleted := 0 } ha rfl (.inr rfl)
        (hwhole e (mem_cons_self ..))
      refine ih hturned (fun x hx => ?_) hnodup.2 fun x hx => ?_
      · have hne : x.1 ≠ e.1 := by
          intro heq
          exact hnodup.1 (heq ▸ mem_map_of_mem hx)
        rw [applyFrame_animations]
        exact (lookup_insert_ne hne).trans (hin x (mem_cons_of_mem _ hx))
      · unfold storedWhole
        rw [(applyFrame_bookkeeping ..).2.1]
        exact hwhole x (mem_cons_of_mem _ hx)
    · exact ih h (fun x hx => hin x (mem_cons_of_mem _ hx)) hnodup.2 fun x hx => hwhole x (mem_cons_of_mem _ hx)

section

variable (h : c.Displays)
include h

theorem displays_setAnimationEnabled (enabled : Bool)
    (hwhole : c.animationEnabled ≠ enabled → enabled = false → ∀ id ∈ c.animations.keys, c.storedWhole id 0 = true) :
    (c.setAnimationEnabled enabled).Displays := by
  unfold setAnimationEnabled
  split
  · exact h
  · next hne =>
    have henabled : Displays { c with animationEnabled := enabled } := h.of_eq rfl rfl rfl rfl
    split
    · exact henabled
    · next hoff =>
      refine displays_rewind _ henabled (fun e he => mem_lookup_iff.mpr he) c.animations.keys_nodup fun e he => ?_
      exact hwhole hne (by simpa using hoff) e.1 (mem_map_of_mem he)

/-! ## Storing an image -/

/-- A static image becomes an animation of one frame, with the same buffer. -/
theorem displays_promoteRoot (id : ImageId) (img : Data) (gap : Nanos) : (c.promoteRoot id img gap).Displays := by
  refine h.change id (fun x hx => .inr (.of_eq (lookup_insert_ne hx) (lookup_insert_ne hx)
    (lookup_insert_ne hx) (Nat.le_succ _))) ?_
  refine onDisplay_of_showing { img with sharedFrame := some c.nextFrameId } [.materialized c.nextFrameId img.data]
    (.new [gap] none) c.nextFrameId ?_
  refine ⟨lookup_insert _, lookup_insert _, lookup_insert _, nodup_singleton _, fun e he => ?_,
    Nat.le_refl _, rfl, rfl⟩
  rw [mem_singleton.mp he]
  exact Nat.lt_succ_self _

theorem displays_ensureAnimationStateForRootGap (id : ImageId) (gapUpdate : Option Nanos) :
    (c.ensureAnimationStateForRootGap id gapUpdate).1.Displays := by
  unfold ensureAnimationStateForRootGap
  split
  · exact h
  · split
    · exact h
    · exact displays_promoteRoot h id _ _
    · exact settingInvariant_displays.setFrameGap c id 0 _ h

theorem displays_autoPromoteStaticRoot (hok : c.autoPromoteStaticRoot id = .ok c') : c'.Displays := by
  unfold autoPromoteStaticRoot at hok
  split at hok
  · cases hok
    exact h
  · split at hok
    · cases hok
      exact displays_promoteRoot h id _ _
    · cases hok

theorem displays_store (data : Data) : (c.store data).1.Displays := by
  rcases store_cases data (h data.id).clean with ⟨err, _, hsurvives⟩ | ⟨_, hstored⟩
  · exact h.survives hsurvives
  · exact h.change data.id hstored.others (.still hstored.frames hstored.states)

theorem displays_storeAnimated (data : Data) (frames : List (List UInt8)) (durations : List Nanos)
    (loopCount : Option Nat) (hdurations : durations.length ≤ frames.length) :
    (c.storeAnimated data frames durations loopCount).1.Displays := by
  cases frames with
  | nil => exact displays_store h data
  | cons first rest =>
    have hcases := store_cases { data with data := first } (h data.id).clean
    have hout := c.storeAnimated_outcome data first rest durations loopCount
    generalize c.storeAnimated data (first :: rest) durations loopCount = r at hout ⊢
    cases hout with
    | oversized => exact h
    | failed _ hs =>
      rw [hs] at hcases
      rcases hcases with ⟨_, _, hsurvives⟩ | ⟨hok, _⟩
      · exact h.survives hsurvives
      · cases hok
    | @stored c' img _ hs _ _ _ hd =>
      rw [hs] at hcases
      rcases hcases with ⟨_, herror, _⟩ | ⟨_, hstored⟩
      · cases herror
      · refine h.change data.id (fun x hx => (hstored.others x hx).trans (.inr (.of_eq (lookup_insert_ne hx)
          (lookup_insert_ne hx) (lookup_insert_ne hx) (Nat.le_add_right ..)))) ?_
        refine onDisplay_of_showing { img with sharedFrame := some c'.nextFrameId }
          ((first :: rest).mapIdx fun i data => .materialized (c'.nextFrameId + i) data) (.new durations loopCount)
          c'.nextFrameId ?_
        have hok := framesOk_mapIdx img.width img.height (first :: rest) c'.nextFrameId
        refine ⟨lookup_insert _, lookup_insert _, lookup_insert _, hok.chained.distinct,
          fun e he => ?_, ?_, ?_, rfl⟩
        · obtain ⟨i, hlt, rfl⟩ := mem_mapIdx.mp he
          exact Nat.add_lt_add_left hlt _
        · rw [length_mapIdx]
          exact hdurations
        · rw [mapIdx_cons]
          exact congrArg (fun x => some (FrameEntry.materialized c'.nextFrameId x)) hd.symm

end

/-! ## Appending a frame -/

/-- An entry under a fresh id is appended; the current frame stays. -/
theorem Showing.appendEntry (h : c.Showing id img frames state fid) (entry : FrameEntry) (gap : Nanos)
    (hid : entry.id = c.nextFrameId) :
    (c.appendEntry id entry gap).1.Showing id img (frames ++ [entry])
      (state.appendFrame gap (frames ++ [entry]).length) fid := by
  have hstate : (state.appendFrame gap (frames ++ [entry]).length).totalFrames = (frames ++ [entry]).length
      ∧ (state.appendFrame gap (frames ++ [entry]).length).currentFrame = state.currentFrame := by
    unfold AnimationState.appendFrame
    dsimp only
    split <;> exact ⟨rfl, rfl⟩
  have hlt := (List.getElem?_eq_some_iff.mp h.current).1
  unfold Cache.appendEntry
  rw [h.stored, h.playing]
  refine ⟨h.image, lookup_insert _, lookup_insert _, ?_, fun e he => ?_, hstate.1.le, ?_, h.shared⟩
  · rw [map_append, nodup_append]
    refine ⟨h.distinct, nodup_singleton _, fun n hn m hm => ?_⟩
    obtain ⟨e, he, rfl⟩ := mem_map.mp hn
    rw [mem_singleton.mp hm, hid]
    exact Nat.ne_of_lt (h.below e he)
  · rcases mem_append.mp he with he | he
    · exact Nat.lt_succ_of_lt (h.below e he)
    · rw [mem_singleton.mp he, hid]
      exact Nat.lt_succ_self _
  · rw [hstate.2, getElem?_append_left hlt]
    exact h.current

section

variable (h : c.Displays)
variable (req : FrameLoadRequest)

include h

theorem displays_appendEntry (ha : c.animations.lookup id = some state) (entry : FrameEntry) (gap : Nanos)
    (hid : entry.id = c.nextFrameId) : (c.appendEntry id entry gap).1.Displays := by
  obtain ⟨img, frames, fid, hshowing⟩ := (h id).of_state ha
  exact h.change id (fun x hx => .inr (sameImage_appendEntry c entry gap hx)) (.animated (hshowing.appendEntry entry gap hid))

theorem displays_evictForFrame (id : ImageId) (size : Nat) : (c.evictForFrame id size).1.Displays :=
  h.survives fun x => survives_evictLoop _ _ _ _ x

theorem displays_pushDeltaFrame (hf : c.animationFrames.lookup id = some frames) (base depth area : Nat)
    (req : FrameLoadRequest) (gap : Nanos) : (c.pushDeltaFrame id base depth area req gap).1.Displays := by
  obtain ⟨img, state, fid, hshowing⟩ := (h id).of_frames hf
  have hevicted := displays_evictForFrame h id req.frameData.length
  have hsame := (survives_evictForFrame hshowing.image req.frameData.length).2
  unfold pushDeltaFrame
  dsimp only
  split
  · exact hevicted
  · exact displays_appendEntry hevicted (hsame.states.trans hshowing.playing) _ gap rfl

theorem displays_tryPushDeltaAppend (imageW imageH : Nat) : (c.tryPushDeltaAppend req imageW imageH).1.Displays := by
  unfold tryPushDeltaAppend
  split
  · next gap n htarget hsource =>
    dsimp only
    split
    · exact h
    · next c₁ hpromoted =>
      have h₁ : c₁.Displays := by
        split at hpromoted
        · exact displays_autoPromoteStaticRoot h hpromoted
        · cases hpromoted
          exact h
      split
      · exact h₁
      · next base hbase =>
        generalize (if base.isDelta = true then base.depth + 1 else 0) = depth
        split
        · cases hf : c₁.animationFrames.lookup req.imageId with
          | some frames => exact displays_pushDeltaFrame h₁ hf _ _ _ req gap
          | none =>
            rw [hf] at hbase
            split at hbase
            · cases hbase
            · cases hbase
        · exact h₁
  · exact h

theorem displays_pushComposedFrame (id : ImageId) (composed : List UInt8) (gap : Nanos) :
    (c.pushComposedFrame id composed gap).1.Displays := by
  have hevicted := displays_evictForFrame h id composed.length
  unfold pushComposedFrame
  split
  · exact h
  · dsimp only
    split
    · exact hevicted
    · generalize (c.evictForFrame id composed.length).1 = c₁ at hevicted
      split
      · next state ha => exact displays_appendEntry hevicted ha _ gap rfl
      · exact hevicted
      · next img ha hi =>
        have hf : (c₁.promoteRoot id img 0).animationFrames.lookup id = some [.materialized c₁.nextFrameId img.data] :=
          lookup_insert _
        rw [hf]
        refine hevicted.change id (fun x hx => .inr (.of_eq ?_ ?_ ?_ ?_)) ?_
        · exact lookup_insert_ne hx
        · exact (lookup_insert_ne hx).trans (lookup_insert_ne hx)
        · exact (lookup_insert_ne hx).trans (lookup_insert_ne hx)
        · exact (Nat.le_succ _).trans (Nat.le_succ _)
        · refine onDisplay_of_showing { img with sharedFrame := some c₁.nextFrameId }
            ([.materialized c₁.nextFrameId img.data] ++ [.materialized (c₁.nextFrameId + 1) composed]) (.new [0, gap] none)
            c₁.nextFrameId ?_
          refine ⟨lookup_insert _, lookup_insert _, lookup_insert _, ?_, fun e he => ?_, Nat.le_refl _,
            rfl, rfl⟩
          · show [c₁.nextFrameId, c₁.nextFrameId + 1].Nodup
            exact nodup_cons.mpr ⟨fun hmem => by rw [mem_singleton] at hmem; omega, nodup_singleton _⟩
          · rcases mem_append.mp he with he | he
            · rw [mem_singleton.mp he]
              exact Nat.lt_succ_of_lt (Nat.lt_succ_self _)
            · rw [mem_singleton.mp he]
              exact Nat.lt_succ_self _

/-! ## Replacing a frame -/

/-- **A stored frame is written.** It is shown if it is the current one. -/
theorem displays_writeEntry (hshowing : c.Showing id img frames state fid) {idx : Nat} {entry : FrameEntry}
    (he : frames[idx]? = some entry) {fid' : Nat} (hfid : fid' = entry.id ∨ ∀ d ∈ frames, d.id ≠ fid')
    (hlt : fid' < c.nextFrameId) (x : List UInt8) (shown : Option Bool) (gapUpdate : Option Nanos)
    (hshown : state.currentFrame = idx ↔ shown.isSome = true) :
    (c.writeEntry id idx fid' x shown gapUpdate).Displays := by
  obtain ⟨img', state', hi', hf', ha', hn', _, _, ht', hc', hshows, hkeeps, hothers⟩ :=
    writeEntry_at hshowing.image hshowing.stored hshowing.playing idx fid' x shown gapUpdate
  refine h.change id (fun y hy => .inr (hothers y hy)) ?_
  have hdistinct := nodup_ids_set hshowing.distinct he hfid x
  have hbelow : ∀ d ∈ frames.set idx (.materialized fid' x),
      d.id < (c.writeEntry id idx fid' x shown gapUpdate).nextFrameId := by
    intro d hd
    rw [hn']
    rcases mem_or_eq_of_mem_set hd with hd | rfl
    · exact hshowing.below d hd
    · exact hlt
  have htotal : state'.totalFrames ≤ (frames.set idx (.materialized fid' x)).length := by
    rw [ht', length_set]
    exact hshowing.total
  by_cases hcur : state.currentFrame = idx
  · obtain ⟨hdata, hshared⟩ := hshows (hshown.mp hcur)
    refine .animated ⟨hi', hf', ha', hdistinct, hbelow, htotal, ?_, hshared⟩
    rw [hc', hcur, List.getElem?_set_self (List.getElem?_eq_some_iff.mp he).1, hdata]
  · have hnone : shown = none := by
      cases shown with
      | none => rfl
      | some bump => exact absurd (hshown.mpr rfl) hcur
    obtain rfl := hkeeps hnone
    refine .animated ⟨hi', hf', ha', hdistinct, hbelow, htotal, ?_, hshowing.shared⟩
    rw [hc', getElem?_set_ne (Ne.symm hcur)]
    exact hshowing.current

/-- **An edit in place** is shown exactly when the buffer is the one on display. -/
theorem displays_tryEditInPlace (imageW imageH : Nat) : (c.tryEditInPlace req imageW imageH).1.Displays := by
  have hout := c.tryEditInPlace_outcome req imageW imageH
  generalize c.tryEditInPlace req imageW imageH = r at hout ⊢
  cases hout with
  | declined | failed => exact h
  | @written n fid' gapUpdate data canvas frames _ _ hf hat =>
    obtain ⟨img, state, fid, hshowing⟩ := (h req.imageId).of_frames hf
    refine displays_writeEntry h hshowing hat (.inl rfl) (hshowing.below _ (mem_of_getElem? hat)) canvas _ gapUpdate ?_
    rw [isSome_ite, hshowing.image, any_some, hshowing.shared, beq_iff_eq]
    constructor
    · intro hcur
      have hsame := hshowing.current
      rw [hcur, hat] at hsame
      cases hsame
      rfl
    · intro hshared
      cases hshared
      -- The ids are distinct, so the two frames are one.
      have hlt := (List.getElem?_eq_some_iff.mp hshowing.current).1
      have hids : (frames.map FrameEntry.id)[state.currentFrame]? = (frames.map FrameEntry.id)[n - 1]? := by
        rw [getElem?_map, getElem?_map, hshowing.current, hat]
        rfl
      exact (getElem?_inj (by rwa [length_map]) hshowing.distinct).mp hids

/-- A static image with other pixels. -/
theorem displays_redraw (ha : c.animations.lookup id = none) (img : Data) :
    ({ c with images := c.images.insert id img } : Cache).Displays := by
  refine h.change id (fun x hx => .inr (.of_eq (lookup_insert_ne hx) rfl rfl (Nat.le_refl _))) ?_
  exact .still ((h id).frames_of_still ha) ha

/-- The root of an animation of one frame is written under a fresh id, and shown. -/
theorem displays_replaceRoot (ha : c.animations.lookup id = some state) (hcur : state.currentFrame = 0)
    {composed : List UInt8} (hc' : c.writeEntry id 0 c.nextFrameId composed (some false) none = c') :
    ({ c' with nextFrameId := c'.nextFrameId + 1 } : Cache).Displays := by
  obtain ⟨img, frames, fid, hshowing⟩ := (h id).of_state ha
  have hat := hshowing.current
  rw [hcur] at hat
  have hdisplays : Displays { c with nextFrameId := c.nextFrameId + 1 } :=
    fun x => (h x).same (.of_eq rfl rfl rfl (Nat.le_succ _))
  have hshowing' : Showing { c with nextFrameId := c.nextFrameId + 1 } id img frames state fid :=
    ⟨hshowing.image, hshowing.stored, hshowing.playing, hshowing.distinct,
      fun e he => Nat.lt_succ_of_lt (hshowing.below e he), hshowing.total, hshowing.current, hshowing.shared⟩
  have hwritten := displays_writeEntry hdisplays hshowing' hat (.inr fun d hd => Nat.ne_of_lt (hshowing.below d hd))
    (Nat.lt_succ_self _) composed (some false) none (iff_of_true hcur rfl)
  rw [← hc']
  refine hwritten.of_eq ?_ ?_ ?_ ?_
  all_goals
    unfold writeEntry showIf gapIf showFrame setEntry
    rw [hshowing.image]

theorem displays_replaceFrameBytes (id : ImageId) (frameNum : Nat) (composed : List UInt8) (gapUpdate : Option Nanos) :
    (c.replaceFrameBytes id frameNum composed gapUpdate).1.Displays := by
  have hnext : Displays { c with nextFrameId := c.nextFrameId + 1 } :=
    fun x => (h x).same (.of_eq rfl rfl rfl (Nat.le_succ _))
  have hout := c.replaceFrameBytes_outcome id frameNum composed gapUpdate
  generalize c.replaceFrameBytes id frameNum composed gapUpdate = r at hout ⊢
  cases hout with
  | absent => exact h
  | marked => exact h.of_eq rfl rfl rfl rfl
  | refused => exact hnext
  | @redrawn img _ _ ha => exact (displays_redraw h ha (img.redraw composed)).of_eq rfl rfl rfl rfl
  | @promoted img gap c₁ c₂ _ _ _ ha hc₁ hc₂ hc₃ =>
    have h₁ : c₁.Displays := hc₁ ▸ displays_redraw h ha (img.redraw composed)
    have h₂ : c₂.Displays := hc₂ ▸ displays_promoteRoot h₁ id (img.redraw composed) gap
    have ha₂ : c₂.animations.lookup id = some (.new [gap] none) := hc₂ ▸ lookup_insert _
    exact displays_replaceRoot h₂ ha₂ rfl hc₃
  | @written state ha hlt =>
    obtain ⟨img, frames, fid, hshowing⟩ := (h id).of_state ha
    rw [hshowing.stored] at hlt
    have hshowing' : Showing { c with nextFrameId := c.nextFrameId + 1 } id img frames state fid :=
      ⟨hshowing.image, hshowing.stored, hshowing.playing, hshowing.distinct,
        fun e he => Nat.lt_succ_of_lt (hshowing.below e he), hshowing.total, hshowing.current, hshowing.shared⟩
    exact displays_writeEntry hnext hshowing' (getElem?_eq_getElem hlt)
      (.inr fun d hd => Nat.ne_of_lt (hshowing.below d hd)) (Nat.lt_succ_self _) composed _ gapUpdate
      isSome_ite.symm

theorem displays_putFrame : (c.putFrame req).1.Displays := by
  have hout := c.putFrame_outcome req
  generalize c.putFrame req = r at hout ⊢
  cases hout with
  | rejected | untargeted => exact h
  | pushed _ _ hc' | unsourced _ _ hc' => exact hc' ▸ displays_tryPushDeltaAppend h req _ _
  | appended _ _ hc' => exact displays_pushComposedFrame (hc' ▸ displays_tryPushDeltaAppend h req _ _) _ _ _
  | edited _ _ hc' => exact hc' ▸ displays_tryEditInPlace h req _ _
  | replaced => exact displays_replaceFrameBytes h _ _ _ _

theorem displays_composeFrame (req : ComposeRequest) : (c.composeFrame req).1.Displays := by
  have hout := c.composeFrame_outcome req
  generalize c.composeFrame req = r at hout ⊢
  cases hout with
  | refused => exact h
  | composed => exact displays_replaceFrameBytes h _ _ _ _

end

/-! ## Deleting a frame -/

/-- A delta is rebuilt in place; the current frame is none. -/
theorem showing_materializeDependent (h : c.Showing id img frames state fid) {i : Nat} {entry : FrameEntry}
    (he : frames[i]? = some entry) (hdelta : entry.isDelta = true) (x : List UInt8) :
    (c.materializeDependent id i x).Showing id img (frames.set i (.materialized entry.id x)) state fid
      ∧ ∀ y, y ≠ id → SameImage c (c.materializeDependent id i x) y := by
  have hne : i ≠ state.currentFrame := by
    rintro rfl
    rw [h.current] at he
    cases he
    cases hdelta
  have hset : ∀ c' : Cache, c'.images = c.images → c'.animations = c.animations → c'.nextFrameId = c.nextFrameId →
      c'.animationFrames = (c.setEntry id i (.materialized entry.id x)).animationFrames →
      c'.Showing id img (frames.set i (.materialized entry.id x)) state fid ∧ ∀ y, y ≠ id → SameImage c c' y := by
    intro c' hi ha hn hf
    refine ⟨⟨by rw [hi]; exact h.image, by rw [hf]; exact lookup_setEntry h.stored .., by rw [ha]; exact h.playing,
      nodup_ids_set h.distinct he (.inl rfl) x, fun d hd => ?_, ?_, ?_, h.shared⟩, fun y hy => ?_⟩
    · rw [hn]
      rcases mem_or_eq_of_mem_set hd with hd | rfl
      · exact h.below d hd
      · exact h.below entry (mem_of_getElem? he)
    · rw [length_set]
      exact h.total
    · rw [getElem?_set_ne hne]
      exact h.current
    · exact .of_eq (by rw [hi]) (by rw [hf]; exact lookup_setEntry_ne hy ..) (by rw [ha]) hn.ge
  unfold materializeDependent
  rw [h.stored, getD_some, he]
  dsimp only
  split <;> exact hset _ rfl rfl rfl rfl

/-- The same for all dependents, at different places. -/
theorem showing_materializeDependents (rebuilt : List (Nat × List UInt8)) (h : c.Showing id img frames state fid)
    (hnodup : (rebuilt.map Prod.fst).Nodup) (hdelta : ∀ d ∈ rebuilt, ∃ e, frames[d.1]? = some e ∧ e.isDelta = true)
    {c' : Cache} (hc' : rebuilt.foldl (fun c d => c.materializeDependent id d.1 d.2) c = c') :
    ∃ frames', c'.Showing id img frames' state fid ∧ Rebuilt frames frames' (rebuilt.map Prod.fst)
      ∧ ∀ y, y ≠ id → SameImage c c' y := by
  induction rebuilt generalizing c frames with
  | nil =>
    subst hc'
    exact ⟨frames, h, ⟨rfl, fun _ _ => rfl, nofun⟩, fun y _ => .refl c y⟩
  | cons d rebuilt ih =>
    rw [map_cons, nodup_cons] at hnodup
    obtain ⟨entry, he, hentry⟩ := hdelta d (mem_cons_self ..)
    have hlt := (List.getElem?_eq_some_iff.mp he).1
    obtain ⟨hshowing, hothers⟩ := showing_materializeDependent h he hentry d.2
    have hlater : ∀ e ∈ rebuilt, ∃ e', (frames.set d.1 (.materialized entry.id d.2))[e.1]? = some e' ∧ e'.isDelta = true := by
      intro e hmem
      have hne : d.1 ≠ e.1 := by
        intro heq
        rw [heq] at hnodup
        exact hnodup.1 (mem_map_of_mem hmem)
      rw [getElem?_set_ne hne]
      exact hdelta e (mem_cons_of_mem _ hmem)
    obtain ⟨frames', hshowing', hrebuilt', hothers'⟩ := ih hshowing hnodup.2 hlater hc'
    have hfirst := rebuilt_set entry.id d.2 hlt
    exact ⟨frames', hshowing', hfirst.trans hrebuilt', fun y hy => (hothers y hy).trans (hothers' y hy)⟩

/-- The frame that takes the place of the current one when that is deleted: the next one, or the one before the last. -/
def successor (frames : List FrameEntry) (current : Nat) : Nat :=
  if current + 1 < frames.length then current + 1 else current - 1

/-- If a deletion that leaves an animation takes the current frame, its successor is stored whole or rebuilt. -/
def deletionShowsWhole (c : Cache) (id : ImageId) (frameNumber : Nat) : Bool :=
  match c.animationFrames.lookup id, c.animations.lookup id with
  | some frames, some state =>
    frames.length ≤ 2 || deletedIndex frames frameNumber != state.currentFrame
      || c.storedWhole id (successor frames state.currentFrame)
      || decide (successor frames state.currentFrame ∈ (c.rebuiltBy id frames frameNumber).map Prod.fst)
  | _, _ => true

/-- The current frame after a deletion is a full canvas. -/
theorem current_removeFrame {frames' : List FrameEntry} {idx : Nat} {rebuilt : List Nat} {data : List UInt8}
    (hrebuilt : Rebuilt frames frames' rebuilt) (hlt : idx < frames.length) (hlong : 2 < frames.length)
    (hcur : frames'[state.currentFrame]? = some (.materialized fid data))
    (hwhole : idx = state.currentFrame → (∀ e, frames[successor frames state.currentFrame]? = some e → e.isDelta = false)
      ∨ successor frames state.currentFrame ∈ rebuilt) :
    ∃ fid' data', (frames'.eraseIdx idx)[(state.removeFrame idx (frames'.eraseIdx idx).length).currentFrame]?
      = some (.materialized fid' data') := by
  have hlen := hrebuilt.length
  have hleft : (frames'.eraseIdx idx).length = frames.length - 1 := by
    rw [List.length_eraseIdx_of_lt (by omega), hlen]
  have hbound := (List.getElem?_eq_some_iff.mp hcur).1
  rw [hleft, getElem?_eraseIdx]
  rcases Nat.lt_trichotomy idx state.currentFrame with hbefore | hsame | hafter
  · -- The frames after the deleted one move up, the current one among them.
    have hvalue : (state.removeFrame idx (frames.length - 1)).currentFrame = state.currentFrame - 1 := by
      unfold AnimationState.removeFrame
      rw [if_pos hbefore]
      exact if_neg (by omega)
    rw [hvalue, if_neg (by omega), Nat.sub_add_cancel (by omega)]
    exact ⟨fid, data, hcur⟩
  · have hnext : successor frames state.currentFrame < frames'.length := by
      unfold successor
      split <;> omega
    have hfull : (frames'[successor frames state.currentFrame]).isDelta = false := by
      by_cases hin : successor frames state.currentFrame ∈ rebuilt
      · exact hrebuilt.full _ hin _ (getElem?_eq_getElem hnext)
      · refine (hwhole hsame).resolve_right hin _ ?_
        rw [← hrebuilt.kept _ hin]
        exact getElem?_eq_getElem hnext
    have hget : (if (state.removeFrame idx (frames.length - 1)).currentFrame < idx then
          frames'[(state.removeFrame idx (frames.length - 1)).currentFrame]?
        else frames'[(state.removeFrame idx (frames.length - 1)).currentFrame + 1]?)
          = frames'[successor frames state.currentFrame]? := by
      have hvalue : (state.removeFrame idx (frames.length - 1)).currentFrame =
          if state.currentFrame ≥ frames.length - 1 ∧ frames.length - 1 > 0 then frames.length - 1 - 1
          else state.currentFrame := by
        unfold AnimationState.removeFrame
        rw [if_neg (show ¬ idx < state.currentFrame by omega)]
      rw [hvalue]
      unfold successor
      by_cases hlast : state.currentFrame + 1 < frames.length
      · rw [if_neg (show ¬ (state.currentFrame ≥ frames.length - 1 ∧ frames.length - 1 > 0) by omega),
          if_neg (by omega), if_pos hlast]
      · have heq : frames.length - 1 - 1 = state.currentFrame - 1 := by omega
        rw [if_pos (show state.currentFrame ≥ frames.length - 1 ∧ frames.length - 1 > 0 by omega), if_pos (by omega),
          if_neg hlast, heq]
    rw [hget, getElem?_eq_getElem hnext]
    generalize frames'[successor frames state.currentFrame] = e at hfull
    cases e with
    | materialized fid' data' => exact ⟨fid', data', rfl⟩
    | delta => cases hfull
  · have hvalue : (state.removeFrame idx (frames.length - 1)).currentFrame = state.currentFrame := by
      unfold AnimationState.removeFrame
      rw [if_neg (show ¬ idx < state.currentFrame by omega)]
      exact if_neg (by omega)
    rw [hvalue, if_pos hafter]
    exact ⟨fid, data, hcur⟩

/-- **What is left of an animation**: a static image, or one that shows its current frame. -/
theorem onDisplay_finishDeletion {left : List FrameEntry}
    (hi : c.images.lookup id = some img) (hf : c.animationFrames.lookup id = some left)
    (ha : c.animations.lookup id = some state) (hdistinct : (left.map FrameEntry.id).Nodup)
    (hbelow : ∀ e ∈ left, e.id < c.nextFrameId) (htotal : state.totalFrames = left.length)
    (hcurrent : 1 < left.length → ∃ fid' data, left[state.currentFrame]? = some (.materialized fid' data)) :
    (c.finishDeletion id left).1.OnDisplay id := by
  unfold finishDeletion
  rw [ha, map_some, getD_some]
  by_cases hone : left.length ≤ 1
  · rw [if_pos hone]
    exact .still (lookup_erase ..) (lookup_erase ..)
  · rw [if_neg hone]
    obtain ⟨fid', data, hentry⟩ := hcurrent (Nat.lt_of_not_le hone)
    rw [hentry]
    unfold showFrame
    rw [hi]
    refine onDisplay_of_showing (img.show fid' data).bump left state fid' ?_
    exact ⟨lookup_insert _, hf, ha, hdistinct, hbelow, htotal.le, hentry, rfl⟩

/-- **Deleting a frame** shows the one that is current afterwards. -/
theorem displays_removeAnimationFrame (h : c.Displays) (id : ImageId) (frameNumber : Nat)
    (hwhole : c.deletionShowsWhole id frameNumber = true) : (c.removeAnimationFrame id frameNumber).1.Displays := by
  have hout := c.removeAnimationFrame_outcome id frameNumber
  generalize c.removeAnimationFrame id frameNumber = r at hout ⊢
  cases hout with
  | missing => exact h
  | single =>
    exact h.change id (fun x hx => .inr (.of_eq rfl (lookup_erase_ne hx) (lookup_erase_ne hx)
      (Nat.le_refl _))) (.still (lookup_erase ..) (lookup_erase ..))
  | @removed frames c₁ hf hlong hc₁ =>
    obtain ⟨img, state, fid, hshowing⟩ := (h id).of_frames hf
    have hlt : deletedIndex frames frameNumber < frames.length := by
      unfold deletedIndex
      omega
    have hdelta : ∀ d ∈ c.rebuiltBy id frames frameNumber, ∃ e, frames[d.1]? = some e ∧ e.isDelta = true := by
      intro d hd
      obtain ⟨e, he, hbase, _, _⟩ := (mem_deltaDependents ..).mp hd
      refine ⟨e, he, ?_⟩
      rw [← isSome_base, hbase]
      rfl
    obtain ⟨frames₁, hshowing₁, hrebuilt, hothers₁⟩ :=
      showing_materializeDependents _ hshowing (deltaDependents_spec ..).1 hdelta hc₁
    rw [hshowing₁.stored, getD_some]
    have hlen₁ := hrebuilt.length
    have hleft : (frames₁.eraseIdx (deletedIndex frames frameNumber)).length = frames.length - 1 := by
      rw [List.length_eraseIdx_of_lt (by omega), hlen₁]
    have hunlinked : ∀ x, x ≠ id → SameImage c₁ (c₁.unlinkEntry id (deletedIndex frames frameNumber)) x := by
      intro x hx
      unfold unlinkEntry
      rw [hshowing₁.playing]
      exact .of_eq rfl (lookup_insert_ne hx) (lookup_insert_ne hx) (Nat.le_refl _)
    have hstored : (c₁.unlinkEntry id (deletedIndex frames frameNumber)).animationFrames.lookup id
        = some (frames₁.eraseIdx (deletedIndex frames frameNumber)) := by
      unfold unlinkEntry
      rw [hshowing₁.stored]
      exact lookup_insert _
    have hplaying : (c₁.unlinkEntry id (deletedIndex frames frameNumber)).animations.lookup id
        = some (state.removeFrame (deletedIndex frames frameNumber)
          (frames₁.eraseIdx (deletedIndex frames frameNumber)).length) := by
      unfold unlinkEntry
      rw [hshowing₁.stored, hshowing₁.playing]
      exact lookup_insert _
    have hcurrent : 2 < frames.length → ∃ fid' data',
        (frames₁.eraseIdx (deletedIndex frames frameNumber))[(state.removeFrame (deletedIndex frames frameNumber)
          (frames₁.eraseIdx (deletedIndex frames frameNumber)).length).currentFrame]?
          = some (.materialized fid' data') := by
      intro hlong
      refine current_removeFrame hrebuilt hlt hlong hshowing₁.current fun hsame => ?_
      unfold deletionShowsWhole storedWhole at hwhole
      rw [hf, hshowing.playing] at hwhole
      simp only [Bool.or_eq_true, decide_eq_true_eq, bne_iff_ne] at hwhole
      rcases hwhole with ((hfew | hother) | hstored) | hrebuilt
      · omega
      · exact absurd hsame hother
      · refine .inl fun e he => ?_
        rw [getD_some, he] at hstored
        simpa using hstored
      · exact .inr hrebuilt
    have hsublist := eraseIdx_sublist frames₁ (deletedIndex frames frameNumber)
    refine h.change id (fun x hx => .inr (((hothers₁ x hx).trans (hunlinked x hx)).trans
      (sameImage_finishDeletion _ _ hx))) ?_
    exact onDisplay_finishDeletion hshowing₁.image hstored hplaying (hshowing₁.distinct.sublist (hsublist.map _))
      (fun e he => hshowing₁.below e (hsublist.subset he)) rfl fun htwo => hcurrent (by omega)

/-! ## Every operation -/

/-- **The display mirrors the animations**: the current frame of each is stored, and resolves to the pixels on display. -/
def Mirrors (c : Cache) : Prop :=
  ∀ id state, c.animations.lookup id = some state → ∃ img frames entry,
    c.images.lookup id = some img ∧ c.animationFrames.lookup id = some frames
      ∧ frames[state.currentFrame]? = some entry ∧ c.resolveEntry id entry = some img.data

theorem Displays.mirrors (h : c.Displays) : c.Mirrors := by
  intro id state ha
  obtain ⟨img, frames, fid, hshowing⟩ := (h id).of_state ha
  refine ⟨img, frames, _, hshowing.image, hshowing.stored, hshowing.current, ?_⟩
  unfold resolveEntry
  rw [hshowing.stored, getD_some]
  dsimp only
  generalize frames.length = fuel
  cases fuel <;> rfl

end Cache

open Cache

namespace CacheOp

/-- **The frame that the operation makes current is stored as a full canvas**, if it makes one current. An animated image
    is stored with no more durations than frames. -/
def ShowsCanvas (c : Cache) : CacheOp → Bool
  | storeAnimated _ frames durations _ => durations.length ≤ frames.length
  | removeAnimationFrame id frameNumber => c.deletionShowsWhole id frameNumber
  | setAnimationEnabled enabled =>
    c.animationEnabled == enabled || enabled || c.animations.keys.all fun id => c.storedWhole id 0
  | setCurrentFrame _ id frameIdx => c.storedWhole id frameIdx
  | advanceAnimations now top bottom =>
    !c.animationEnabled || (c.visibleAnimations top bottom).all (tickShowsWhole now c)
  | _ => true

/-- **One operation** keeps every image on display. -/
theorem displays_apply {c : Cache} (h : c.Displays) (op : CacheOp) (hshows : op.ShowsCanvas c = true) :
    (op.apply c).Displays := by
  have hupkeep : op.Upkeep → (op.apply c).Displays := fun hop => h.survives (upkeepInvariant_survives.apply c op hop)
  cases op with
  | nextImageId => exact h.of_eq rfl rfl rfl rfl
  | store data => exact displays_store h data
  | storeAnimated data frames durations loopCount =>
    exact displays_storeAnimated h data frames durations loopCount (of_decide_eq_true hshows)
  | putFrame req => exact displays_putFrame h req
  | composeFrame req => exact displays_composeFrame h req
  | removeAnimationFrame id frameNumber => exact displays_removeAnimationFrame h id frameNumber hshows
  | ensureAnimationStateForRootGap id gapUpdate => exact displays_ensureAnimationStateForRootGap h id gapUpdate
  | setAnimationEnabled enabled =>
    refine displays_setAnimationEnabled h enabled fun hne hoff id hid => ?_
    rw [ShowsCanvas, Bool.or_eq_true, Bool.or_eq_true, beq_iff_eq] at hshows
    rcases hshows with (heq | hon) | hall
    · exact absurd heq hne
    · rw [hoff] at hon
      cases hon
    · exact all_eq_true.mp hall id hid
  | setAnimationAction now id action => exact settingInvariant_displays.setAnimationAction c now id action h
  | setAnimationLoops id loops => exact settingInvariant_displays.setAnimationLoops c id loops h
  | setFrameGap id frameIdx gap => exact settingInvariant_displays.setFrameGap c id frameIdx gap h
  | setCurrentFrame now id frameIdx => exact displays_setCurrentFrame h now id frameIdx hshows
  | advanceAnimations now top bottom =>
    refine displays_advanceAnimations h now top bottom fun hplaying id hid => ?_
    rw [ShowsCanvas, hplaying] at hshows
    exact all_eq_true.mp hshows id hid
  | _ => exact hupkeep trivial

/-- **The pixels on display are those of the current frame** after every run of operations each of which makes current, if
    any, a frame that is stored as a full canvas. -/
theorem display_run (ops : List CacheOp) (h : Along apply (fun c op => op.ShowsCanvas c = true) .new ops) :
    (run apply .new ops).Mirrors := by
  refine Displays.mirrors (Along.invariant (I := Displays) (fun c op hc hop => displays_apply hc op hop) ?_ h)
  exact fun _ => .still rfl rfl

/-- A frame over a blank canvas is appended, made current and edited; then the first frame is deleted. -/
theorem display_run_solidFrame :
    (run apply .new [.store twoPixels, .putFrame (onePixel (.append 0) (.solidColor 255)), .setCurrentFrame 0 1 1,
      .putFrame (onePixel (.edit 2 none) .editTarget), .removeAnimationFrame 1 1]).Mirrors :=
  display_run _ (by decide +kernel)

/-- A frame over the first one is stored as a delta. Making it current leaves the first one on display. -/
theorem delta_not_displayed :
    ¬ (run apply .new [.store twoPixels, .putFrame (onePixel (.append 0) (.frame 1)), .setCurrentFrame 0 1 1]).Mirrors := by
  have hstate : (run apply .new [.store twoPixels, .putFrame (onePixel (.append 0) (.frame 1)),
      .setCurrentFrame 0 1 1]).animations.lookup 1 = some { AnimationState.new [0, 0] none with currentFrame := 1 } := by
    decide +kernel
  have hdiffer : ∀ c, run apply .new [.store twoPixels, .putFrame (onePixel (.append 0) (.frame 1)),
      .setCurrentFrame 0 1 1] = c → (c.images.lookup 1).map (·.data)
        ≠ (c.animationFrames.lookup 1).bind fun frames => frames[1]?.bind (c.resolveEntry 1) := by
    rintro c rfl
    decide +kernel
  intro h
  obtain ⟨img, frames, entry, himage, hframes, hentry, hresolve⟩ := h 1 _ hstate
  refine hdiffer _ rfl ?_
  have hat : frames[1]? = some entry := hentry
  rw [himage, hframes, map_some, bind_some, hat, bind_some, hresolve]

end CacheOp

end OriTerm.Image
