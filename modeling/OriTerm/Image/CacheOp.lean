import OriTerm.Image.Outcomes

/-!
# `Image.CacheOp` — the operations of the image cache, and what they report

`CacheOp` lists what a terminal does to an image cache and `CacheOp.apply` performs it.

The picture a cache shows is its placements and, for each image, the pixels with their generation
(`Cache.SamePicture`). **`Marks`** relates a cache to a later one whose change of the picture is reported by the
dirty flag: the flag never falls, and while it is down the picture is the same. It composes, and every operation
satisfies it (`CacheOp.marks`); only `takeDirty` lowers the flag.
-/

namespace OriTerm.Image

open Lib List

/-- The placements a delete command selects. -/
inductive PlacementSelector where
  | intersectingCell (col : Nat) (row : StableRowIndex)
  | atCellWithZ (col : Nat) (row : StableRowIndex) (z : Int)
  | visible (top bottom : StableRowIndex)
  | inIdRange (lo hi : ImageId)
  | atColumn (col : Nat)
  | atRow (row : StableRowIndex)
  | byZIndex (z : Int)
  | byPosition (col : Nat) (row : StableRowIndex)
  | placement (imageId : ImageId) (placementId : Nat)
  | forImage (imageId : ImageId)
  deriving DecidableEq, Repr

/-- The placement covers the cell; a placement without cells covers none. -/
def Placement.intersectsCell (p : Placement) (col : Nat) (row : StableRowIndex) : Bool :=
  if p.cols = 0 ∨ p.rows = 0 then false
  else
    p.cellCol ≤ col && p.cellCol + p.cols - 1 ≥ col && p.cellRow.val ≤ row.val
      && p.cellRow.val + (p.rows - 1) ≥ row.val

/-- The selector matches a placement. -/
def PlacementSelector.matches (p : Placement) : PlacementSelector → Bool
  | intersectingCell col row => p.intersectsCell col row
  | atCellWithZ col row z => p.intersectsCell col row && p.zIndex == z
  | visible top bottom => p.intersectsViewport top bottom
  | inIdRange lo hi => lo ≤ p.imageId && p.imageId ≤ hi
  | atColumn col => p.cellCol ≤ col && p.cellCol + (p.cols - 1) ≥ col
  | atRow row => p.cellRow.val ≤ row.val && p.cellRow.val + (p.rows - 1) ≥ row.val
  | byZIndex z => p.zIndex == z
  | byPosition col row => p.cellCol == col && p.cellRow == row
  | placement imageId placementId => p.imageId == imageId && p.placementId == some placementId
  | forImage imageId => p.imageId == imageId

/-- Operations of an image cache. -/
inductive CacheOp where
  | nextImageId
  | store (data : Data)
  | storeAnimated (data : Data) (frames : List (List UInt8)) (durations : List Nanos) (loopCount : Option Nat)
  | removeImage (id : ImageId)
  | clear
  | place (placement : Placement)
  | removePlacements (selector : PlacementSelector)
  | pruneIfOrphaned (ids : List ImageId)
  | pruneScrollback (evictedBefore : StableRowIndex)
  | removePlacementsInRegion (top bottom : StableRowIndex) (left right : Option Nat)
  | onResize (newCols newRows : Nat)
  | updateCellCoverage (cellW cellH : Nat)
  | remapPlacements (mapping : ReflowMapping)
  | anchorPlaceholderWithGrid (id : ImageId) (grid : Option (Nat × Nat))
  | reconcilePlaceholderAnchors (survivors : Finset ImageId)
  | setMemoryLimit (limit : Nat)
  | setMaxSingleImage (limit : Nat)
  | putFrame (req : FrameLoadRequest)
  | composeFrame (req : ComposeRequest)
  | removeAnimationFrame (id : ImageId) (frameNumber : Nat)
  | ensureAnimationStateForRootGap (id : ImageId) (gapUpdate : Option Nanos)
  | setAnimationEnabled (enabled : Bool)
  | setAnimationAction (now : Nanos) (id : ImageId) (action : Nat)
  | setAnimationLoops (id : ImageId) (loops : Nat)
  | setFrameGap (id : ImageId) (frameIdx : Nat) (gap : Nanos)
  | setCurrentFrame (now : Nanos) (id : ImageId) (frameIdx : Nat)
  | advanceAnimations (now : Nanos) (top bottom : StableRowIndex)

/-- Performs an operation. -/
def CacheOp.apply (c : Cache) : CacheOp → Cache
  | nextImageId => c.nextImageId.1
  | store data => (c.store data).1
  | storeAnimated data frames durations loopCount => (c.storeAnimated data frames durations loopCount).1
  | removeImage id => c.removeImage id
  | clear => c.clear
  | place placement => c.place placement
  | removePlacements selector => (c.removePlacementsWhere fun p => selector.matches p).1
  | pruneIfOrphaned ids => c.pruneIfOrphaned ids
  | pruneScrollback evictedBefore => c.pruneScrollback evictedBefore
  | removePlacementsInRegion top bottom left right => c.removePlacementsInRegion top bottom left right
  | onResize newCols newRows => c.onResize newCols newRows
  | updateCellCoverage cellW cellH => c.updateCellCoverage cellW cellH
  | remapPlacements mapping => c.remapPlacements mapping
  | anchorPlaceholderWithGrid id grid => c.anchorPlaceholderWithGrid id grid
  | reconcilePlaceholderAnchors survivors => c.reconcilePlaceholderAnchors survivors
  | setMemoryLimit limit => c.setMemoryLimit limit
  | setMaxSingleImage limit => c.setMaxSingleImage limit
  | putFrame req => (c.putFrame req).1
  | composeFrame req => (c.composeFrame req).1
  | removeAnimationFrame id frameNumber => (c.removeAnimationFrame id frameNumber).1
  | ensureAnimationStateForRootGap id gapUpdate => (c.ensureAnimationStateForRootGap id gapUpdate).1
  | setAnimationEnabled enabled => c.setAnimationEnabled enabled
  | setAnimationAction now id action => c.setAnimationAction now id action
  | setAnimationLoops id loops => c.setAnimationLoops id loops
  | setFrameGap id frameIdx gap => c.setFrameGap id frameIdx gap
  | setCurrentFrame now id frameIdx => c.setCurrentFrame now id frameIdx
  | advanceAnimations now top bottom => (c.advanceAnimations now top bottom).1

/-- The operation plays an animation. -/
def CacheOp.Plays : CacheOp → Prop
  | setAnimationEnabled _ | setAnimationAction .. | setAnimationLoops .. | setFrameGap .. | setCurrentFrame ..
  | advanceAnimations .. => True
  | _ => False

/-- The operation moves placements, anchors or limits, or removes images. -/
def CacheOp.Upkeep : CacheOp → Prop
  | removeImage _ | clear | place _ | removePlacements _ | pruneIfOrphaned _ | pruneScrollback _
  | removePlacementsInRegion .. | onResize .. | updateCellCoverage .. | remapPlacements _ | anchorPlaceholderWithGrid ..
  | reconcilePlaceholderAnchors _ | setMemoryLimit _ | setMaxSingleImage _ => True
  | _ => False

namespace Cache

/-! ## What playing and upkeep preserve -/

/-- An animation state that keeps its number of frames, and a current frame within it. -/
def KeepsFrames (state state' : AnimationState) : Prop :=
  state'.totalFrames = state.totalFrames ∧ (state.currentFrame < state.totalFrames → state'.currentFrame < state.totalFrames)

theorem KeepsFrames.trans {state'' : AnimationState} (h : KeepsFrames state state') (h' : KeepsFrames state' state'') :
    KeepsFrames state state'' := by
  refine ⟨h'.1.trans h.1, fun hc => ?_⟩
  have hc' := h'.2 (by rw [h.1]; exact h.2 hc)
  rwa [h.1] at hc'

theorem keepsFrames_advance (state : AnimationState) : KeepsFrames state state.advance.1 := by
  unfold AnimationState.advance
  split
  · exact ⟨rfl, id⟩
  · next hplaying =>
    dsimp only
    split
    · split
      · exact ⟨rfl, id⟩
      · split
        · split
          · exact ⟨rfl, id⟩
          · exact ⟨rfl, fun hc => Nat.lt_of_le_of_lt (Nat.zero_le _) hc⟩
        · exact ⟨rfl, fun hc => Nat.lt_of_le_of_lt (Nat.zero_le _) hc⟩
    · next hlt => exact ⟨rfl, fun _ => Nat.lt_of_not_le hlt⟩

theorem keepsFrames_skipGapless (fuel : Nat) (state : AnimationState) : KeepsFrames state (state.skipGapless fuel) := by
  induction fuel generalizing state with
  | zero => exact ⟨rfl, id⟩
  | succ fuel ih =>
    unfold AnimationState.skipGapless
    split
    · dsimp only
      split
      · exact (keepsFrames_advance state).trans (ih _)
      · exact keepsFrames_advance state
    · exact ⟨rfl, id⟩

theorem keepsFrames_advanceConsumingGapless (state : AnimationState) :
    KeepsFrames state state.advanceConsumingGapless.1 := by
  unfold AnimationState.advanceConsumingGapless
  dsimp only
  split
  · exact (keepsFrames_advance state).trans (keepsFrames_skipGapless ..)
  · exact keepsFrames_advance state

/-- **A preorder on caches that the settings of an animation respect**: its current frame and the frames stay. -/
structure SettingInvariant (R : Cache → Cache → Prop) : Prop where
  refl : ∀ c, R c c
  trans : ∀ {a b c}, R a b → R b c → R a c
  books : ∀ (c : Cache) frameStarts animationEnabled, R c { c with frameStarts, animationEnabled }
  marked : ∀ c : Cache, R c { c with dirty := true }
  setting : ∀ {c : Cache} {id : ImageId} {state : AnimationState} (state' : AnimationState),
    c.animations.lookup id = some state → state'.totalFrames = state.totalFrames →
      state'.currentFrame = state.currentFrame → R c { c with animations := c.animations.insert id state' }

/-- **A preorder on caches that playing respects**: the states of the animations, the frames that are put on display,
    and the bookkeeping. -/
structure AnimationInvariant (R : Cache → Cache → Prop) : Prop where
  refl : ∀ c, R c c
  trans : ∀ {a b c}, R a b → R b c → R a c
  books : ∀ (c : Cache) frameStarts animationEnabled, R c { c with frameStarts, animationEnabled }
  marked : ∀ c : Cache, R c { c with dirty := true }
  state : ∀ {c : Cache} {id : ImageId} {state : AnimationState} (state' : AnimationState),
    c.animations.lookup id = some state → KeepsFrames state state' →
      R c { c with animations := c.animations.insert id state' }
  frame : ∀ c id frameIdx, R c (c.applyFrame id frameIdx)

theorem applyFrame_animations (c : Cache) (id : ImageId) (frameIdx : Nat) :
    (c.applyFrame id frameIdx).animations = c.animations := by
  unfold applyFrame
  split
  · split <;> rfl
  · rfl

namespace SettingInvariant

variable {R : Cache → Cache → Prop} (hR : SettingInvariant R) (c : Cache)

include hR

theorem setAnimationAction (now : Nanos) (id : ImageId) (action : Nat) : R c (c.setAnimationAction now id action) := by
  unfold Cache.setAnimationAction
  split
  · exact hR.refl c
  · next state ha =>
    have hstarted : ∀ state' : AnimationState, state'.totalFrames = state.totalFrames →
        state'.currentFrame = state.currentFrame → R c { c with
        animations := c.animations.insert id state', frameStarts := c.frameStarts.insert id now, dirty := true } :=
      fun state' htotal hcurrent => hR.trans (hR.setting state' ha htotal hcurrent)
        (hR.trans (hR.books _ (c.frameStarts.insert id now) c.animationEnabled) (hR.marked _))
    split
    · exact hR.trans (hR.setting { state with paused := true, loopsCompleted := 0 } ha rfl rfl) (hR.marked _)
    · exact hstarted _ rfl rfl
    · exact hstarted _ rfl rfl
    · exact hR.marked c

theorem setAnimationLoops (id : ImageId) (loops : Nat) : R c (c.setAnimationLoops id loops) := by
  unfold Cache.setAnimationLoops
  split
  · exact hR.refl c
  · split
    · exact hR.refl c
    · next ha => exact hR.setting _ ha rfl rfl

theorem setFrameGap (id : ImageId) (frameIdx : Nat) (gap : Nanos) : R c (c.setFrameGap id frameIdx gap) := by
  unfold Cache.setFrameGap
  split
  · exact hR.refl c
  · next ha => exact hR.setting _ ha rfl rfl

end SettingInvariant

namespace AnimationInvariant

variable {R : Cache → Cache → Prop} (hR : AnimationInvariant R) (c : Cache)

include hR

theorem toSettingInvariant : SettingInvariant R :=
  ⟨hR.refl, hR.trans, hR.books, hR.marked, fun state' ha htotal hcurrent =>
    hR.state state' ha ⟨htotal, fun hc => by rwa [hcurrent]⟩⟩

theorem setCurrentFrame (now : Nanos) (id : ImageId) (frameIdx : Nat) : R c (c.setCurrentFrame now id frameIdx) := by
  unfold Cache.setCurrentFrame
  split
  · exact hR.refl c
  · next state ha =>
    split
    · next hframe =>
      have hjumped := hR.state { state with currentFrame := frameIdx } ha ⟨rfl, fun _ => hframe.1⟩
      exact hR.trans (hR.trans hjumped (hR.frame ..)) (hR.books ..)
    · exact hR.refl c

/-- Animations of the given numbers of frames are rewound to their first. -/
theorem rewind (entries : List (Sigma fun _ : ImageId => AnimationState))
    (hin : ∀ e ∈ entries, ∃ state, c.animations.lookup e.1 = some state ∧ state.totalFrames = e.2.totalFrames) :
    R c (entries.foldl (fun c e =>
      if e.2.currentFrame ≠ 0 then
        Cache.applyFrame
          { c with animations := c.animations.insert e.1 { e.2 with currentFrame := 0, loopsCompleted := 0 } } e.1 0
      else c) c) := by
  induction entries generalizing c with
  | nil => exact hR.refl c
  | cons e entries ih =>
    rw [foldl_cons]
    obtain ⟨state, ha, htotal⟩ := hin e (mem_cons_self ..)
    split
    · have hrewound := hR.state { e.2 with currentFrame := 0, loopsCompleted := 0 } ha
        ⟨htotal.symm, fun hc => Nat.lt_of_le_of_lt (Nat.zero_le _) hc⟩
      refine hR.trans (hR.trans hrewound (hR.frame _ e.1 0)) (ih _ fun x hx => ?_)
      rw [applyFrame_animations]
      obtain ⟨state', ha', htotal'⟩ := hin x (mem_cons_of_mem _ hx)
      by_cases hxe : x.1 = e.1
      · refine ⟨_, by rw [hxe]; exact AList.lookup_insert _, ?_⟩
        rw [hxe, ha] at ha'
        cases ha'
        exact htotal.symm.trans htotal'
      · exact ⟨state', (AList.lookup_insert_ne hxe).trans ha', htotal'⟩
    · exact ih c fun x hx => hin x (mem_cons_of_mem _ hx)

theorem setAnimationEnabled (enabled : Bool) : R c (c.setAnimationEnabled enabled) := by
  unfold Cache.setAnimationEnabled
  split
  · exact hR.refl c
  · have henabled : R c { c with animationEnabled := enabled } := hR.books ..
    split
    · exact henabled
    · exact hR.trans henabled (hR.rewind _ _ fun e he => ⟨e.2, AList.mem_lookup_iff.mpr he, rfl⟩)

theorem advanceImage (now : Nanos) (acc : Cache × Option Nanos) (id : ImageId) :
    R acc.1 (Cache.advanceImage now acc id).1 := by
  have h := advanceImage_outcome now acc id
  generalize (Cache.advanceImage now acc id).1 = c' at h ⊢
  cases h with
  | idle => exact hR.refl _
  | started => exact hR.books ..
  | @stayed state _ c₁ hc₁ ha =>
    exact hR.trans (hc₁ ▸ hR.books ..) (hR.state _ ha (keepsFrames_advanceConsumingGapless state))
  | @turned state _ c₁ _ c₃ hc₁ ha _ _ _ _ _ hc₂ hc₃ =>
    have hstepped := hR.trans (hc₁ ▸ hR.books ..) (hc₂ ▸ hR.state _ ha (keepsFrames_advanceConsumingGapless state))
    exact hR.trans (hR.trans hstepped (hc₃ ▸ hR.frame ..)) (hR.books c₃ ..)

theorem advanceAnimations (now : Nanos) (top bottom : StableRowIndex) : R c (c.advanceAnimations now top bottom).1 := by
  unfold Cache.advanceAnimations
  split
  · exact hR.refl c
  · exact @run_invariant _ _ (Cache.advanceImage now) (fun acc => R c acc.1)
      (fun acc id h => hR.trans h (hR.advanceImage now acc id)) _ (hR.refl c) _

/-- **Every operation that plays an animation.** -/
theorem apply (op : CacheOp) (h : op.Plays) : R c (op.apply c) := by
  cases op with
  | setAnimationEnabled enabled => exact hR.setAnimationEnabled c enabled
  | setAnimationAction now id action => exact hR.toSettingInvariant.setAnimationAction c now id action
  | setAnimationLoops id loops => exact hR.toSettingInvariant.setAnimationLoops c id loops
  | setFrameGap id frameIdx gap => exact hR.toSettingInvariant.setFrameGap c id frameIdx gap
  | setCurrentFrame now id frameIdx => exact hR.setCurrentFrame c now id frameIdx
  | advanceAnimations now top bottom => exact hR.advanceAnimations c now top bottom
  | _ => exact h.elim

end AnimationInvariant

theorem FrameInvariant.toAnimationInvariant {R : Cache → Cache → Prop} (hR : FrameInvariant R) : AnimationInvariant R :=
  ⟨hR.refl, hR.trans, fun _ _ _ => hR.books .., fun _ => hR.books .., fun _ _ _ => hR.books .., hR.applyFrame⟩

/-- **A preorder on caches that upkeep respects**: the placements, the anchors and the limits, an image that is used,
    and images that are removed. -/
structure UpkeepInvariant (R : Cache → Cache → Prop) : Prop where
  trans : ∀ {a b c}, R a b → R b c → R a c
  books : ∀ (c : Cache) placements placeholderAnchors placeholderAnchorGrid memoryLimit maxSingleImageBytes
    accessCounter dirty, R c { c with
      placements, placeholderAnchors, placeholderAnchorGrid, memoryLimit, maxSingleImageBytes, accessCounter, dirty }
  touch : ∀ {c : Cache} {id : ImageId} {img : Data} (lastAccessed : Nat), c.images.lookup id = some img →
    R c { c with images := c.images.insert id { img with lastAccessed } }
  remove : ∀ c id, R c (c.removeImage id)
  clear : ∀ c, R c c.clear

namespace UpkeepInvariant

variable {R : Cache → Cache → Prop} (hR : UpkeepInvariant R) (c : Cache)

include hR

theorem refl : R c c := hR.books c ..

theorem evictLoop (pinned : ImageId → Bool) (size fuel : Nat) : R c (Cache.evictLoop pinned size fuel c).1 :=
  evictLoop_invariant (fun c' v _ h => hR.trans h (hR.remove c' v)) size fuel (hR.refl c)

theorem pruneIfOrphaned (ids : List ImageId) : R c (c.pruneIfOrphaned ids) :=
  pruneIfOrphaned_invariant (fun c' id h => hR.trans h (hR.remove c' id)) ids (hR.refl c)

theorem removeAndPrune (predicate : Placement → Bool) : R c (c.removeAndPrune predicate) :=
  hR.trans (hR.books c ..) (hR.pruneIfOrphaned ..)

theorem place (placement : Placement) : R c (c.place placement) := by
  unfold Cache.place
  dsimp only
  split
  · next hi => exact hR.trans (hR.touch _ hi) (hR.books ..)
  · exact hR.books c ..

theorem anchorPlaceholderWithGrid (id : ImageId) (grid : Option (Nat × Nat)) :
    R c (c.anchorPlaceholderWithGrid id grid) := by
  unfold Cache.anchorPlaceholderWithGrid setPlaceholderAnchorGrid
  split
  · split <;> exact hR.books c ..
  · exact hR.books c ..

/-- **Every operation of the upkeep.** -/
theorem apply (op : CacheOp) (h : op.Upkeep) : R c (op.apply c) := by
  cases op with
  | removeImage id => exact hR.remove c id
  | clear => exact hR.clear c
  | place placement => exact hR.place c placement
  | removePlacements | updateCellCoverage | remapPlacements | reconcilePlaceholderAnchors | setMaxSingleImage =>
    exact hR.books c ..
  | pruneIfOrphaned ids => exact hR.pruneIfOrphaned c ids
  | pruneScrollback | removePlacementsInRegion | onResize => exact hR.removeAndPrune c _
  | anchorPlaceholderWithGrid id grid => exact hR.anchorPlaceholderWithGrid c id grid
  | setMemoryLimit limit => exact hR.trans (hR.books c ..) (hR.evictLoop ..)
  | _ => exact h.elim

end UpkeepInvariant

/-! ## The picture -/

/-- The pixels an image id stands for: data, dimensions and generation. -/
def pixels (c : Cache) (id : ImageId) : Option (List UInt8 × Nat × Nat × Nat) :=
  (c.images.lookup id).map fun img => (img.data, img.width, img.height, img.pixelGeneration)

/-- The two caches show the same placements and the same pixels. -/
structure SamePicture (c c' : Cache) : Prop where
  placements : c'.placements = c.placements
  pixels : ∀ id, c'.pixels id = c.pixels id

/-- **Marked.** The dirty flag did not fall, and a change of the picture raised it. -/
structure Marks (c c' : Cache) : Prop where
  stays : c.dirty = true → c'.dirty = true
  picture : c'.dirty = false → SamePicture c c'

variable {c c' c'' : Cache}

@[refl] theorem SamePicture.refl (c : Cache) : SamePicture c c := ⟨rfl, fun _ => rfl⟩

theorem SamePicture.trans (h : SamePicture c c') (h' : SamePicture c' c'') : SamePicture c c'' :=
  ⟨h'.placements.trans h.placements, fun id => (h'.pixels id).trans (h.pixels id)⟩

@[refl] theorem Marks.refl (c : Cache) : Marks c c := ⟨id, fun _ => .refl c⟩

theorem Marks.trans (h : Marks c c') (h' : Marks c' c'') : Marks c c'' := by
  refine ⟨h'.stays ∘ h.stays, fun hd => ?_⟩
  have hd' : c'.dirty = false := by
    by_contra hne
    rw [Bool.not_eq_false] at hne
    rw [h'.stays hne] at hd
    cases hd
  exact (h.picture hd').trans (h'.picture hd)

/-- A raised flag reports everything. -/
theorem Marks.of_dirty (h : c'.dirty = true) : Marks c c' := by
  refine ⟨fun _ => h, fun hd => ?_⟩
  rw [h] at hd
  cases hd

/-- An operation that shows the same picture and does not lower the flag. -/
theorem Marks.of_same (hd : c.dirty = true → c'.dirty = true) (h : SamePicture c c') : Marks c c' :=
  ⟨hd, fun _ => h⟩

/-- An operation on the bookkeeping: the placements and the images are the same. -/
theorem Marks.of_eq (hd : c.dirty = true → c'.dirty = true) (hp : c'.placements = c.placements)
    (hi : c'.images = c.images) : Marks c c' :=
  .of_same hd ⟨hp, fun id => by unfold Cache.pixels; rw [hi]⟩

/-- A fold of marking steps marks. -/
theorem Marks.foldl {β : Type*} {f : Cache → β → Cache} (hf : ∀ c b, Marks c (f c b)) (bs : List β) (c : Cache) :
    Marks c (bs.foldl f c) :=
  @run_invariant _ _ f (fun x => Marks c x) (fun x b h => h.trans (hf x b)) c (.refl c) bs

/-- Rewriting an image without touching its pixels. -/
theorem samePicture_insert {id : ImageId} {img : Data} (img' : Data) (h : c.images.lookup id = some img)
    (hp : (img'.data, img'.width, img'.height, img'.pixelGeneration) =
      (img.data, img.width, img.height, img.pixelGeneration))
    (hi : c'.images = c.images.insert id img') (hpl : c'.placements = c.placements) : SamePicture c c' := by
  refine ⟨hpl, fun id' => ?_⟩
  unfold Cache.pixels
  rw [hi]
  by_cases hid : id' = id
  · subst hid
    rw [AList.lookup_insert, h]
    exact congrArg some hp
  · rw [AList.lookup_insert_ne hid]

/-! ## Images and eviction -/

theorem marks_removeImage (c : Cache) (id : ImageId) : Marks c (c.removeImage id) := by
  unfold removeImage
  split
  · exact .refl c
  · exact .of_dirty rfl

theorem marks_clear (c : Cache) : Marks c c.clear := by
  refine ⟨fun h => by rw [clear, h]; rfl, fun hd => ?_⟩
  have hempty : (c.dirty || !c.images.entries.isEmpty || !c.placements.isEmpty) = false := hd
  simp only [Bool.or_eq_false_iff, Bool.not_eq_false', List.isEmpty_iff] at hempty
  obtain ⟨⟨_, himages⟩, hplacements⟩ := hempty
  have hnone : c.images = ∅ := AList.ext himages
  exact ⟨hplacements.symm, fun id => by unfold Cache.pixels; rw [hnone]; rfl⟩

theorem marks_evictLoop (reachable : ImageId → Bool) (size fuel : Nat) (c : Cache) :
    Marks c (evictLoop reachable size fuel c).1 :=
  evictLoop_invariant (fun c' v _ h => h.trans (marks_removeImage c' v)) size fuel (.refl c)

section

variable (c)

theorem marks_setMemoryLimit (limit : Nat) : Marks c (c.setMemoryLimit limit) := by
  have hlimit : Marks c { c with memoryLimit := limit } := .of_eq id rfl rfl
  exact hlimit.trans (marks_evictLoop ..)

theorem marks_store (data : Data) : Marks c (c.store data).1 := by
  unfold store
  dsimp only
  split
  · exact .refl c
  · split
    · exact marks_evictLoop ..
    · exact .of_dirty rfl

theorem marks_storeAnimated (data : Data) (frames : List (List UInt8)) (durations : List Nanos)
    (loopCount : Option Nat) : Marks c (c.storeAnimated data frames durations loopCount).1 := by
  cases frames with
  | nil => exact marks_store c data
  | cons first rest =>
    have hstore := marks_store c { data with data := first }
    have h := c.storeAnimated_outcome data first rest durations loopCount
    generalize c.storeAnimated data (first :: rest) durations loopCount = r at h ⊢
    cases h with
    | oversized => exact .refl c
    | failed _ hs =>
      rw [hs] at hstore
      exact hstore
    | @stored c' img _ hs hi =>
      rw [hs] at hstore
      -- The first frame is what was stored; it only learns that it is shared.
      exact hstore.trans (.of_same (fun hd => hd)
        (samePicture_insert { img with sharedFrame := some c'.nextFrameId } hi rfl rfl rfl))

/-! ## Placements and anchors -/

theorem marks_place (placement : Placement) : Marks c (c.place placement) := .of_dirty rfl

theorem marks_removePlacementsWhere (predicate : Placement → Bool) : Marks c (c.removePlacementsWhere predicate).1 := by
  refine ⟨fun h => by simp only [removePlacementsWhere, h, Bool.true_or], fun hd => ⟨?_, fun _ => rfl⟩⟩
  have hsame : (c.dirty || (c.placements.filter fun p => !predicate p).length != c.placements.length) = false := hd
  simp only [Bool.or_eq_false_iff, bne_eq_false_iff_eq] at hsame
  exact filter_eq_self.mpr (length_filter_eq_length_iff.mp hsame.2)

theorem marks_pruneIfOrphaned (ids : List ImageId) : Marks c (c.pruneIfOrphaned ids) :=
  pruneIfOrphaned_invariant (fun c' id h => h.trans (marks_removeImage c' id)) ids (.refl c)

theorem marks_removeAndPrune (predicate : Placement → Bool) : Marks c (c.removeAndPrune predicate) :=
  (marks_removePlacementsWhere c predicate).trans (marks_pruneIfOrphaned ..)

theorem marks_mapPlacements (f : Placement → Placement) : Marks c (c.mapPlacements f) := by
  refine ⟨fun h => by simp only [mapPlacements, h, Bool.true_or], fun hd => ⟨?_, fun _ => rfl⟩⟩
  have hsame : (c.dirty || c.placements.any fun p => f p != p) = false := hd
  simp only [Bool.or_eq_false_iff, any_eq_false, bne_iff_ne, not_not] at hsame
  exact (map_congr_left hsame.2).trans (map_id' _)

theorem marks_anchorPlaceholderWithGrid (id : ImageId) (grid : Option (Nat × Nat)) :
    Marks c (c.anchorPlaceholderWithGrid id grid) := by
  have hadd : Marks c (c.addPlaceholderAnchor id) :=
    .of_eq (fun h => by simp only [addPlaceholderAnchor, h, Bool.true_or]) rfl rfl
  cases grid with
  | none => exact hadd
  | some dims =>
    refine hadd.trans ?_
    show Marks _ (setPlaceholderAnchorGrid _ id dims.1 dims.2)
    unfold setPlaceholderAnchorGrid
    split
    · exact .refl _
    · exact .of_eq (fun h => by simp only [h, Bool.true_or]) rfl rfl

theorem marks_reconcilePlaceholderAnchors (survivors : Finset ImageId) :
    Marks c (c.reconcilePlaceholderAnchors survivors) :=
  .of_eq (fun h => by simp only [reconcilePlaceholderAnchors, h, Bool.true_or]) rfl rfl

/-! ## Animation -/

theorem marks_applyFrame (id : ImageId) (frameIdx : Nat) : Marks c (c.applyFrame id frameIdx) := by
  unfold applyFrame
  split
  · split
    · exact .of_dirty rfl
    · exact .refl c
  · exact .refl c

end

/-- Only the display of a frame touches the picture. -/
theorem animationInvariant_marks : AnimationInvariant Marks :=
  ⟨.refl, fun h h' => h.trans h', fun _ _ _ => .of_eq (fun h => h) rfl rfl, fun _ => .of_dirty rfl,
    fun _ _ _ => .of_eq (fun h => h) rfl rfl, marks_applyFrame⟩

theorem marks_setFrameGap (c : Cache) (id : ImageId) (frameIdx : Nat) (gap : Nanos) :
    Marks c (c.setFrameGap id frameIdx gap) :=
  animationInvariant_marks.toSettingInvariant.setFrameGap c id frameIdx gap

/-! ## Frames -/

theorem marks_promoteRoot {id : ImageId} {img : Data} (h : c.images.lookup id = some img) (gap : Nanos) :
    Marks c (c.promoteRoot id img gap) :=
  .of_same (fun hd => hd) (samePicture_insert { img with sharedFrame := some c.nextFrameId } h rfl rfl rfl)

theorem marks_autoPromoteStaticRoot {id : ImageId} (h : c.autoPromoteStaticRoot id = .ok c') : Marks c c' := by
  unfold autoPromoteStaticRoot at h
  split at h
  · cases h
    exact .refl c
  · split at h
    · next img hl =>
      cases h
      exact marks_promoteRoot hl 0
    · cases h

variable (c : Cache)

theorem marks_ensureAnimationStateForRootGap (id : ImageId) (gapUpdate : Option Nanos) :
    Marks c (c.ensureAnimationStateForRootGap id gapUpdate).1 := by
  unfold ensureAnimationStateForRootGap
  split
  · exact .refl c
  · split
    · exact .refl c
    · next img hl _ => exact marks_promoteRoot hl _
    · exact marks_setFrameGap ..

theorem marks_pushDeltaFrame (id : ImageId) (base depth area : Nat) (req : FrameLoadRequest)
    (gap : Nanos) : Marks c (c.pushDeltaFrame id base depth area req gap).1 := by
  unfold pushDeltaFrame
  dsimp only
  split
  · exact marks_evictLoop ..
  · exact .of_dirty rfl

theorem marks_tryPushDeltaAppend (req : FrameLoadRequest) (imageW imageH : Nat) :
    Marks c (c.tryPushDeltaAppend req imageW imageH).1 := by
  unfold tryPushDeltaAppend
  split
  · dsimp only
    split
    · exact .refl c
    · next c' hpromoted =>
      have hc : Marks c c' := by
        split at hpromoted
        · exact marks_autoPromoteStaticRoot hpromoted
        · cases hpromoted
          exact .refl c
      split
      · exact hc
      · next base _ =>
        generalize (if base.isDelta = true then base.depth + 1 else 0) = depth
        split
        · exact hc.trans (marks_pushDeltaFrame ..)
        · exact hc
  · exact .refl c

theorem marks_pushComposedFrame (id : ImageId) (composed : List UInt8) (gap : Nanos) :
    Marks c (c.pushComposedFrame id composed gap).1 := by
  unfold pushComposedFrame
  split
  · exact .refl c
  · have hevict : Marks c (c.evictForFrame id composed.length).1 := marks_evictLoop ..
    dsimp only
    split
    · exact hevict
    · split
      · exact .of_dirty rfl
      · exact hevict
      · exact .of_dirty rfl

theorem marks_tryEditInPlace (req : FrameLoadRequest) (imageW imageH : Nat) :
    Marks c (c.tryEditInPlace req imageW imageH).1 := by
  have h := c.tryEditInPlace_outcome req imageW imageH
  generalize c.tryEditInPlace req imageW imageH = r at h ⊢
  cases h with
  | declined | failed => exact .refl c
  | written => exact .of_dirty rfl

theorem marks_replaceFrameBytes (id : ImageId) (frameNum : Nat) (composed : List UInt8)
    (gapUpdate : Option Nanos) : Marks c (c.replaceFrameBytes id frameNum composed gapUpdate).1 := by
  have h := c.replaceFrameBytes_outcome id frameNum composed gapUpdate
  generalize c.replaceFrameBytes id frameNum composed gapUpdate = r at h ⊢
  cases h with
  | absent => exact .refl c
  | refused => exact .of_eq (fun h => h) rfl rfl
  | promoted _ _ _ _ _ hc₃ =>
    subst hc₃
    exact .of_dirty rfl
  | marked | redrawn | written => exact .of_dirty rfl

theorem marks_putFrame (req : FrameLoadRequest) : Marks c (c.putFrame req).1 := by
  have h := c.putFrame_outcome req
  generalize c.putFrame req = r at h ⊢
  cases h with
  | rejected | untargeted => exact .refl c
  | pushed _ _ hc' | unsourced _ _ hc' => exact hc' ▸ marks_tryPushDeltaAppend c req ..
  | appended _ _ hc' => exact (hc' ▸ marks_tryPushDeltaAppend c req ..).trans (marks_pushComposedFrame ..)
  | edited _ _ hc' => exact hc' ▸ marks_tryEditInPlace c req ..
  | replaced => exact marks_replaceFrameBytes ..

theorem marks_composeFrame (req : ComposeRequest) : Marks c (c.composeFrame req).1 := by
  have h := c.composeFrame_outcome req
  generalize c.composeFrame req = r at h ⊢
  cases h with
  | refused => exact .refl c
  | composed => exact marks_replaceFrameBytes ..

theorem marks_removeAnimationFrame (id : ImageId) (frameNumber : Nat) :
    Marks c (c.removeAnimationFrame id frameNumber).1 := by
  have h := c.removeAnimationFrame_outcome id frameNumber
  generalize c.removeAnimationFrame id frameNumber = r at h ⊢
  cases h with
  | missing => exact .refl c
  | single => exact .of_eq (fun h => h) rfl rfl
  | @removed _ c' =>
    -- Whether or not a single frame is left, the deletion is reported.
    unfold finishDeletion
    split <;> exact .of_dirty rfl

end Cache

/-- **Every operation reports the change it makes.** -/
theorem CacheOp.marks (c : Cache) (op : CacheOp) : Cache.Marks c (op.apply c) := by
  open Cache in
  cases op with
  | nextImageId | setMaxSingleImage => exact .of_eq (fun h => h) rfl rfl
  | store data => exact marks_store c data
  | storeAnimated data frames durations loopCount => exact marks_storeAnimated c data frames durations loopCount
  | removeImage id => exact marks_removeImage c id
  | clear => exact marks_clear c
  | place placement => exact marks_place c placement
  | removePlacements selector => exact marks_removePlacementsWhere ..
  | pruneIfOrphaned ids => exact marks_pruneIfOrphaned c ids
  | pruneScrollback | removePlacementsInRegion | onResize => exact marks_removeAndPrune ..
  | updateCellCoverage | remapPlacements => exact marks_mapPlacements ..
  | anchorPlaceholderWithGrid id grid => exact marks_anchorPlaceholderWithGrid c id grid
  | reconcilePlaceholderAnchors survivors => exact marks_reconcilePlaceholderAnchors c survivors
  | setMemoryLimit limit => exact marks_setMemoryLimit c limit
  | putFrame req => exact marks_putFrame c req
  | composeFrame req => exact marks_composeFrame c req
  | removeAnimationFrame id frameNumber => exact marks_removeAnimationFrame c id frameNumber
  | ensureAnimationStateForRootGap id gapUpdate => exact marks_ensureAnimationStateForRootGap c id gapUpdate
  | setAnimationEnabled | setAnimationAction | setAnimationLoops | setFrameGap | setCurrentFrame | advanceAnimations =>
    exact animationInvariant_marks.apply c _ trivial

end OriTerm.Image
