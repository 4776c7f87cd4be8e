import OriTerm.Image.Frames

/-!
# `Image.Outcomes` — what an operation on frames can do

Each operation of the frame pipeline has many ways out. For each of them there is one inductive type of its
outcomes, with the facts that led there; what an operation preserves is then proved by cases on the outcome.
-/

namespace OriTerm.Image

/-- The pixels of a static image are replaced. -/
def Data.redraw (img : Data) (composed : List UInt8) : Data := { img with data := composed, sharedFrame := none }.bump

namespace Cache

variable {c c' : Cache} {id : ImageId}

/-! ## Removals -/

section Removals

variable {P : Cache → Prop}

/-- **What the removal of a victim keeps**, the eviction loop keeps. -/
theorem evictLoop_invariant {pinned : ImageId → Bool}
    (hremove : ∀ c v, c.victim pinned = some v → P c → P (c.removeImage v)) (size fuel : Nat) (h : P c) :
    P (evictLoop pinned size fuel c).1 := by
  induction fuel generalizing c with
  | zero => exact h
  | succ fuel ih =>
    unfold evictLoop
    split
    · split
      · next c' hevict =>
        obtain ⟨v, hv, rfl⟩ := Option.map_eq_some_iff.mp hevict
        exact ih (hremove c v hv h)
      · exact h
    · exact h

theorem pruneIfOrphaned_invariant (hremove : ∀ c id, P c → P (c.removeImage id)) (ids : List ImageId) (h : P c) :
    P (c.pruneIfOrphaned ids) :=
  Lib.run_invariant (fun c id h => by split; exacts [h, hremove c id h]) h ids

end Removals

/-! ## Ticks -/

/-- **One image of a tick**: nothing, its start is recorded, its state moves on, or another frame is shown. -/
inductive AdvanceOutcome (now : Nanos) (c : Cache) (id : ImageId) : Cache → Prop
  | idle : AdvanceOutcome now c id c
  | started (frameStart : Nanos) : AdvanceOutcome now c id { c with frameStarts := c.frameStarts.insert id frameStart }
  | stayed {state : AnimationState} {frameStart : Nanos} {c₁ : Cache}
      (hc₁ : { c with frameStarts := c.frameStarts.insert id frameStart } = c₁)
      (ha : c₁.animations.lookup id = some state) (hadvanced : state.advanceConsumingGapless.2 = false) :
      AdvanceOutcome now c id { c₁ with animations := c₁.animations.insert id state.advanceConsumingGapless.1 }
  | turned {state : AnimationState} {frameStart : Nanos} {c₁ c₂ c₃ : Cache}
      (hc₁ : { c with frameStarts := c.frameStarts.insert id frameStart } = c₁)
      (ha : c₁.animations.lookup id = some state)
      (hplaying : (state.paused || state.isFinished || state.totalFrames ≤ 1) = false)
      (hgaps : ¬ state.frameDurations.all (· == 0) = true) (hstart : (c.frameStarts.lookup id).getD now = frameStart)
      (hdue : now - frameStart ≥ state.currentDuration) (hadvanced : state.advanceConsumingGapless.2 = true)
      (hc₂ : { c₁ with animations := c₁.animations.insert id state.advanceConsumingGapless.1 } = c₂)
      (hc₃ : c₂.applyFrame id state.advanceConsumingGapless.1.currentFrame = c₃) :
      AdvanceOutcome now c id { c₃ with frameStarts := c₃.frameStarts.insert id now }

theorem advanceImage_outcome (now : Nanos) (acc : Cache × Option Nanos) (id : ImageId) :
    AdvanceOutcome now acc.1 id (advanceImage now acc id).1 := by
  obtain ⟨c, deadline⟩ := acc
  unfold advanceImage
  dsimp only
  split
  · exact .idle
  · next state ha =>
    split
    · exact .idle
    · next hplaying =>
      split
      · exact .idle
      · next hgaps =>
        generalize hstart : (c.frameStarts.lookup id).getD now = frameStart
        -- Whether or not there is a deadline, the cache is the one after the step.
        have hstep : ∀ x : Cache × AnimationState,
            (if x.2.isFinished then (x.1, deadline)
              else (x.1, some (deadline.elim ((x.1.frameStarts.lookup id).getD now + x.2.currentDuration)
                (min · ((x.1.frameStarts.lookup id).getD now + x.2.currentDuration))))).1 = x.1 := by
          intro x
          split <;> rfl
        rw [hstep]
        split
        · next hdue =>
          split
          · next hadvanced =>
            exact .turned rfl ha (Bool.eq_false_iff.mpr hplaying) hgaps hstart hdue hadvanced rfl rfl
          · next hstayed => exact .stayed rfl ha (Bool.eq_false_iff.mpr hstayed)
        · exact .started frameStart

/-! ## Storing -/

/-- The frames of an image that has just been stored are added. -/
def animate (c : Cache) (id : ImageId) (img : Data) (frames : List (List UInt8)) (durations : List Nanos)
    (loopCount : Option Nat) : Cache :=
  { c with
    images := c.images.insert id { img with sharedFrame := some c.nextFrameId }
    memoryUsed := c.memoryUsed + ((frames.drop 1).map List.length).sum
    nextFrameId := c.nextFrameId + frames.length
    animations := c.animations.insert id (.new durations loopCount)
    animationFrames := c.animationFrames.insert id
      (frames.mapIdx fun i data => FrameEntry.materialized (c.nextFrameId + i) data) }

theorem lookup_store (data : Data) (h : c.store data = (c', .ok id)) :
    id = data.id ∧ ∃ img, c'.images.lookup id = some img ∧ img.width = data.width ∧ img.height = data.height
      ∧ img.data = data.data := by
  unfold store at h
  dsimp only at h
  split at h
  · cases h
  · split at h
    · cases h
    · cases h
      exact ⟨rfl, _, AList.lookup_insert _, rfl, rfl, rfl⟩

/-- **Storing frames**: too many bytes, what the store of the first one did, or the others with it. -/
inductive StoreAnimatedOutcome (c : Cache) (data : Data) (first : List UInt8) (rest : List (List UInt8))
    (durations : List Nanos) (loopCount : Option Nat) : Cache × Except Error ImageId → Prop
  | oversized (h : ((first :: rest).map List.length).sum > c.maxSingleImageBytes) :
      StoreAnimatedOutcome c data first rest durations loopCount (c, .error .oversizedImage)
  | failed {c' : Cache} {e : Error} (h : ¬ ((first :: rest).map List.length).sum > c.maxSingleImageBytes)
      (hstore : c.store { data with data := first } = (c', .error e)) :
      StoreAnimatedOutcome c data first rest durations loopCount (c', .error e)
  | stored {c' : Cache} {img : Data} (h : ¬ ((first :: rest).map List.length).sum > c.maxSingleImageBytes)
      (hstore : c.store { data with data := first } = (c', .ok data.id)) (hi : c'.images.lookup data.id = some img)
      (hw : img.width = data.width) (hh : img.height = data.height) (hd : img.data = first) :
      StoreAnimatedOutcome c data first rest durations loopCount
        (c'.animate data.id img (first :: rest) durations loopCount, .ok data.id)

theorem storeAnimated_outcome (c : Cache) (data : Data) (first : List UInt8) (rest : List (List UInt8))
    (durations : List Nanos) (loopCount : Option Nat) :
    StoreAnimatedOutcome c data first rest durations loopCount
      (c.storeAnimated data (first :: rest) durations loopCount) := by
  unfold storeAnimated
  dsimp only
  split
  · next h => exact .oversized h
  · next h =>
    split
    · next hstore => exact .failed h hstore
    · next c' id hstore =>
      obtain ⟨rfl, img, hi, hw, hh, hd⟩ := lookup_store _ hstore
      have hi' : c'.images.lookup data.id = some img := hi
      rw [hi']
      exact .stored h hstore hi hw hh hd

/-! ## Writing a frame -/

/-- Shows a frame that was written, if it is on display; `some bump` raises the generation or not. -/
def showIf (c : Cache) (id : ImageId) (frameId : Nat) (data : List UInt8) : Option Bool → Cache
  | some bump => c.showFrame id frameId data bump
  | none => c

/-- Records a gap, if one is given. -/
def gapIf (c : Cache) (id : ImageId) (frameIdx : Nat) : Option Nanos → Cache
  | some gap => c.setFrameGap id frameIdx gap
  | none => c

/-- The shape the writers of a stored frame share: replace the entry, perhaps show it, perhaps record a gap. -/
def writeEntry (c : Cache) (id : ImageId) (idx frameId : Nat) (data : List UInt8) (shown : Option Bool)
    (gapUpdate : Option Nanos) : Cache :=
  { ((c.setEntry id idx (.materialized frameId data)).showIf id frameId data shown).gapIf id idx gapUpdate with
    dirty := true }

/-- The entry of an edit's target, as the fast path looks it up. -/
def editEntry (c : Cache) (id : ImageId) (frameNum : Nat) : Option FrameEntry :=
  if frameNum = 0 then none else ((c.animationFrames.lookup id).getD [])[frameNum - 1]?

/-- **The in-place edit**: it does not apply, the blit fails, or the stored canvas is written. -/
inductive EditOutcome (c : Cache) (req : FrameLoadRequest) (imageW imageH : Nat) :
    Cache × Option (Except Error Nat) → Prop
  | declined : (∀ n gapUpdate frameId data, req.target = .edit n gapUpdate →
      c.editEntry req.imageId n ≠ some (.materialized frameId data)) → EditOutcome c req imageW imageH (c, none)
  | failed {n frameId : Nat} {gapUpdate : Option Nanos} {data : List UInt8} {e : Error}
      (htarget : req.target = .edit n gapUpdate) (hentry : c.editEntry req.imageId n = some (.materialized frameId data))
      (hblit : blitSubrectIntoCanvas data req.frameData imageW imageH req.blit req.compositionMode = .error e) :
      EditOutcome c req imageW imageH (c, some (.error e))
  | written {n frameId : Nat} {gapUpdate : Option Nanos} {data canvas : List UInt8} {frames : List FrameEntry}
      (htarget : req.target = .edit n gapUpdate) (hentry : c.editEntry req.imageId n = some (.materialized frameId data))
      (hf : c.animationFrames.lookup req.imageId = some frames) (hat : frames[n - 1]? = some (.materialized frameId data))
      (hblit : blitSubrectIntoCanvas data req.frameData imageW imageH req.blit req.compositionMode = .ok canvas) :
      EditOutcome c req imageW imageH (c.writeEntry req.imageId (n - 1) frameId canvas
        (if (c.images.lookup req.imageId).any (·.sharedFrame == some frameId) then some true else none) gapUpdate,
        some (.ok n))

theorem tryEditInPlace_outcome (c : Cache) (req : FrameLoadRequest) (imageW imageH : Nat) :
    EditOutcome c req imageW imageH (c.tryEditInPlace req imageW imageH) := by
  unfold tryEditInPlace
  split
  · next gap htarget =>
    refine .declined fun n gapUpdate _ _ he => ?_
    rw [htarget] at he
    cases he
  · next n gapUpdate htarget =>
    split
    · next frameId data hentry =>
      have hentry : c.editEntry req.imageId n = some (.materialized frameId data) := hentry
      split
      · next hblit => exact .failed htarget hentry hblit
      · next canvas hblit =>
        obtain ⟨frames, hf, hat⟩ : ∃ frames, c.animationFrames.lookup req.imageId = some frames
            ∧ frames[n - 1]? = some (.materialized frameId data) := by
          unfold editEntry at hentry
          split at hentry
          · cases hentry
          · cases hf : c.animationFrames.lookup req.imageId with
            | none => rw [hf] at hentry; cases hentry
            | some frames => rw [hf] at hentry; exact ⟨frames, rfl, hentry⟩
        have hwritten := EditOutcome.written htarget hentry hf hat hblit
        dsimp only
        by_cases hshared : (c.images.lookup req.imageId).any (·.sharedFrame == some frameId) = true
        · rw [if_pos hshared] at hwritten ⊢
          cases gapUpdate <;> exact hwritten
        · rw [if_neg hshared] at hwritten ⊢
          cases gapUpdate <;> exact hwritten
    · next hentry =>
      refine .declined fun n' gapUpdate' frameId data he hat => ?_
      cases htarget.symm.trans he
      exact hentry frameId data hat

/-- **Replacing a frame's pixels**: the image or the frame is missing, the root of a static image is redrawn and
    perhaps promoted, or a stored frame is written. -/
inductive ReplaceOutcome (c : Cache) (id : ImageId) (frameNum : Nat) (composed : List UInt8) (gapUpdate : Option Nanos) :
    Cache × Except Error Nat → Prop
  | absent (hi : c.images.lookup id = none) :
      ReplaceOutcome c id frameNum composed gapUpdate (c, .error (.missingImage id))
  | marked (hi : c.images.lookup id = none) :
      ReplaceOutcome c id frameNum composed gapUpdate ({ c with dirty := true }, .ok 1)
  | refused (e : Error) :
      ReplaceOutcome c id frameNum composed gapUpdate ({ c with nextFrameId := c.nextFrameId + 1 }, .error e)
  | redrawn {img : Data} (hn : frameNum = 1) (hi : c.images.lookup id = some img) (ha : c.animations.lookup id = none) :
      ReplaceOutcome c id frameNum composed gapUpdate ({ c with images := c.images.insert id (img.redraw composed), dirty := true }, .ok 1)
  | promoted {img : Data} {gap : Nanos} {c₁ c₂ c₃ : Cache} (hn : frameNum = 1) (hi : c.images.lookup id = some img)
      (ha : c.animations.lookup id = none) (hc₁ : { c with images := c.images.insert id (img.redraw composed) } = c₁)
      (hc₂ : c₁.promoteRoot id (img.redraw composed) gap = c₂)
      (hc₃ : c₂.writeEntry id 0 c₂.nextFrameId composed (some false) none = c₃) :
      ReplaceOutcome c id frameNum composed gapUpdate ({ c₃ with nextFrameId := c₃.nextFrameId + 1 }, .ok 1)
  | written {state : AnimationState} (ha : c.animations.lookup id = some state)
      (hlt : frameNum - 1 < ((c.animationFrames.lookup id).getD []).length) :
      ReplaceOutcome c id frameNum composed gapUpdate
        ({ c with nextFrameId := c.nextFrameId + 1 }.writeEntry id (frameNum - 1) c.nextFrameId composed
          (if state.currentFrame = frameNum - 1 then some false else none) gapUpdate, .ok frameNum)

/-- A stored frame of an animation is written. -/
theorem replaceFrameBytes_animated {frameNum : Nat} {state : AnimationState} (ha : c.animations.lookup id = some state)
    (hlt : frameNum - 1 < ((c.animationFrames.lookup id).getD []).length) (composed : List UInt8)
    (gapUpdate : Option Nanos) : c.replaceFrameBytes id frameNum composed gapUpdate
      = ({ c with nextFrameId := c.nextFrameId + 1 }.writeEntry id (frameNum - 1) c.nextFrameId composed
        (if state.currentFrame = frameNum - 1 then some false else none) gapUpdate, .ok frameNum) := by
  unfold replaceFrameBytes
  rw [ha]
  dsimp only
  rw [if_neg (Nat.not_le_of_lt hlt)]
  by_cases hcur : state.currentFrame = frameNum - 1
  · rw [if_pos hcur, if_pos hcur]
    cases gapUpdate <;> rfl
  · rw [if_neg hcur, if_neg hcur]
    cases gapUpdate <;> rfl

theorem replaceFrameBytes_outcome (c : Cache) (id : ImageId) (frameNum : Nat) (composed : List UInt8)
    (gapUpdate : Option Nanos) :
    ReplaceOutcome c id frameNum composed gapUpdate (c.replaceFrameBytes id frameNum composed gapUpdate) := by
  cases ha : c.animations.lookup id with
  | some state =>
    by_cases hlt : frameNum - 1 < ((c.animationFrames.lookup id).getD []).length
    · rw [replaceFrameBytes_animated ha hlt]
      exact .written ha hlt
    · unfold replaceFrameBytes
      rw [ha]
      dsimp only
      rw [if_pos (Nat.le_of_not_lt hlt)]
      exact .refused _
  | none =>
    unfold replaceFrameBytes
    rw [ha]
    dsimp only
    split
    · next hn =>
      cases hi : c.images.lookup id with
      | none =>
        cases gapUpdate with
        | none => exact .marked hi
        | some gap =>
          unfold ensureAnimationStateForRootGap
          rw [hi]
          exact .absent hi
      | some img =>
        cases gapUpdate with
        | none => exact .redrawn hn hi ha
        | some gap =>
          dsimp only
          rw [show Data.bump { img with data := composed, sharedFrame := none } = img.redraw composed from rfl]
          generalize hc₁ : ({ c with images := c.images.insert id (img.redraw composed) } : Cache) = c₁
          have hensured : c₁.ensureAnimationStateForRootGap id (some gap)
              = (c₁.promoteRoot id (img.redraw composed) gap, none) := by
            subst hc₁
            unfold ensureAnimationStateForRootGap
            rw [AList.lookup_insert, ha]
          rw [hensured]
          exact .promoted hn hi ha hc₁ rfl rfl
    · exact .refused _

/-! ## Loading a frame -/

/-- A request that passed validation fits the image. -/
theorem validateFrameRequest_ok {req : FrameLoadRequest} {imageW imageH : Nat}
    (h : c.validateFrameRequest req = .ok (imageW, imageH)) :
    (∃ img, c.images.lookup req.imageId = some img ∧ imageW = img.width ∧ imageH = img.height)
      ∧ ¬ (req.blit.width > imageW ∨ req.blit.height > imageH)
      ∧ req.frameData.length = req.blit.width * req.blit.height * 4
      ∧ (∀ n gap, req.target = .edit n gap → req.canvas = .editTarget ∧ 1 ≤ n) := by
  unfold validateFrameRequest at h
  split at h
  · cases h
  · next img hi =>
    split at h
    · cases h
    · next hfits =>
      split at h
      · cases h
      · split at h
        · cases h
        · next hlen =>
          split at h
          · next hcanvas htarget =>
            dsimp only at h
            split at h
            · cases h
            · next hrange =>
              cases h
              refine ⟨⟨img, hi, rfl, rfl⟩, hfits, not_not.mp hlen, fun n gap he => ⟨hcanvas, ?_⟩⟩
              cases htarget.symm.trans he
              omega
          · next htarget =>
            cases h
            exact ⟨⟨img, hi, rfl, rfl⟩, hfits, not_not.mp hlen, fun n gap he => by rw [htarget] at he; cases he⟩
          · next htarget =>
            cases h
            exact ⟨⟨img, hi, rfl, rfl⟩, hfits, not_not.mp hlen, fun n gap he => by rw [htarget] at he; cases he⟩
          · cases h

/-- A blit that fits the canvas goes through. -/
theorem blitSubrectIntoCanvas_ok {canvasW canvasH : Nat} {blit : BlitRect}
    (h : ¬ (blit.width > canvasW ∨ blit.height > canvasH)) (canvas src : List UInt8) (mode : CompositionMode) :
    ∃ composed, blitSubrectIntoCanvas canvas src canvasW canvasH blit mode = .ok composed := by
  unfold blitSubrectIntoCanvas
  rw [if_neg h]
  split <;> exact ⟨_, rfl⟩

/-- The request passed validation for the image. -/
structure Accepts (c : Cache) (req : FrameLoadRequest) (img : Data) : Prop where
  image : c.images.lookup req.imageId = some img
  valid : c.validateFrameRequest req = .ok (img.width, img.height)

/-- **Loading a frame.** An append is pushed as a delta, or composed and appended; an edit is written in place, or
    composed and written back. -/
inductive PutOutcome (c : Cache) (req : FrameLoadRequest) : Cache × Except Error Nat → Prop
  | rejected {e : Error} (hvalid : c.validateFrameRequest req = .error e) : PutOutcome c req (c, .error e)
  | pushed {img : Data} {gap : Nanos} {c' : Cache} {result : Except Error Nat} (h : c.Accepts req img)
      (htarget : req.target = .append gap) (hc' : (c.tryPushDeltaAppend req img.width img.height).1 = c')
      (hpushed : (c.tryPushDeltaAppend req img.width img.height).2 = some result) : PutOutcome c req (c', result)
  | unsourced {img : Data} {gap : Nanos} {c' : Cache} {e : Error} (h : c.Accepts req img)
      (htarget : req.target = .append gap) (hc' : (c.tryPushDeltaAppend req img.width img.height).1 = c')
      (hdeclined : (c.tryPushDeltaAppend req img.width img.height).2 = none)
      (hcanvas : c'.resolveCanvasBytes req img.width img.height = .error e) : PutOutcome c req (c', .error e)
  | appended {img : Data} {gap : Nanos} {c' : Cache} {canvas composed : List UInt8} (h : c.Accepts req img)
      (htarget : req.target = .append gap) (hc' : (c.tryPushDeltaAppend req img.width img.height).1 = c')
      (hdeclined : (c.tryPushDeltaAppend req img.width img.height).2 = none)
      (hcanvas : c'.resolveCanvasBytes req img.width img.height = .ok canvas)
      (hblit : blitSubrectIntoCanvas canvas req.frameData img.width img.height req.blit req.compositionMode = .ok composed) :
      PutOutcome c req (c'.pushComposedFrame req.imageId composed gap)
  | edited {img : Data} {n : Nat} {gapUpdate : Option Nanos} {c' : Cache} {result : Except Error Nat}
      (h : c.Accepts req img) (htarget : req.target = .edit n gapUpdate)
      (hc' : (c.tryEditInPlace req img.width img.height).1 = c')
      (hedited : (c.tryEditInPlace req img.width img.height).2 = some result) : PutOutcome c req (c', result)
  | untargeted {img : Data} {n : Nat} {gapUpdate : Option Nanos} (h : c.Accepts req img)
      (htarget : req.target = .edit n gapUpdate) (hframe : c.frameForNumber req.imageId n = none) (e : Error) :
      PutOutcome c req (c, .error e)
  | replaced {img : Data} {n : Nat} {gapUpdate : Option Nanos} {canvas composed : List UInt8} (h : c.Accepts req img)
      (htarget : req.target = .edit n gapUpdate) (hframe : c.frameForNumber req.imageId n = some canvas)
      (hdeclined : (c.animations.lookup req.imageId).isSome = true →
        c.tryEditInPlace req img.width img.height = (c, none))
      (hblit : blitSubrectIntoCanvas canvas req.frameData img.width img.height req.blit req.compositionMode = .ok composed) :
      PutOutcome c req (c.replaceFrameBytes req.imageId n composed gapUpdate)

theorem putFrame_outcome (c : Cache) (req : FrameLoadRequest) : PutOutcome c req (c.putFrame req) := by
  unfold putFrame
  cases hvalid : c.validateFrameRequest req with
  | error e => exact .rejected hvalid
  | ok dims =>
    obtain ⟨imageW, imageH⟩ := dims
    obtain ⟨⟨img, hi, rfl, rfl⟩, hfits, -, hedit⟩ := validateFrameRequest_ok hvalid
    dsimp only
    cases htarget : req.target with
    | append gap =>
      have hplace : ∀ c' : Cache, (if req.canvas = .editTarget ∧ (c'.animations.lookup req.imageId).isSome = true then
          c'.tryEditInPlace req img.width img.height else (c', none)) = (c', none) := by
        intro c'
        unfold tryEditInPlace
        rw [htarget]
        exact ite_self _
      rcases hpushed : c.tryPushDeltaAppend req img.width img.height with ⟨c', _ | result⟩
      · have hc' := congrArg Prod.fst hpushed
        have hdeclined := congrArg Prod.snd hpushed
        dsimp only
        rw [hplace]
        dsimp only
        split
        · next hcanvas => exact .unsourced ⟨hi, hvalid⟩ htarget hc' hdeclined hcanvas
        · next canvas hcanvas =>
          obtain ⟨composed, hblit⟩ := blitSubrectIntoCanvas_ok hfits canvas req.frameData req.compositionMode
          rw [hblit]
          exact .appended ⟨hi, hvalid⟩ htarget hc' hdeclined hcanvas hblit
      · exact .pushed ⟨hi, hvalid⟩ htarget (congrArg Prod.fst hpushed) (congrArg Prod.snd hpushed)
    | edit n gapUpdate =>
      obtain ⟨hcanvas, -⟩ := hedit n gapUpdate htarget
      have hpush : c.tryPushDeltaAppend req img.width img.height = (c, none) := by
        unfold tryPushDeltaAppend
        rw [htarget]
      have hplace : ∀ r, (if req.canvas = .editTarget ∧ (c.animations.lookup req.imageId).isSome = true then
          c.tryEditInPlace req img.width img.height else (c, none)) = r →
          (c.tryEditInPlace req img.width img.height = r ∧ r.2.isSome = true)
            ∨ (r = (c, none) ∧ ((c.animations.lookup req.imageId).isSome = true →
              c.tryEditInPlace req img.width img.height = (c, none))) := by
        rintro r rfl
        split
        · have hedited := c.tryEditInPlace_outcome req img.width img.height
          generalize c.tryEditInPlace req img.width img.height = r at hedited
          cases hedited with
          | declined => exact .inr ⟨rfl, fun _ => rfl⟩
          | failed | written => exact .inl ⟨rfl, rfl⟩
        · next hstatic => exact .inr ⟨rfl, fun hanimated => absurd ⟨hcanvas, hanimated⟩ hstatic⟩
      rw [hpush]
      dsimp only
      generalize hr : (if req.canvas = .editTarget ∧ (c.animations.lookup req.imageId).isSome = true then
          c.tryEditInPlace req img.width img.height else (c, none)) = r
      rcases hplace r hr with ⟨hedited, hsome⟩ | ⟨rfl, hdeclined⟩
      · obtain ⟨c', _ | result⟩ := r
        · cases hsome
        · exact .edited ⟨hi, hvalid⟩ htarget (congrArg Prod.fst hedited) (congrArg Prod.snd hedited)
      · unfold resolveCanvasBytes
        rw [hcanvas, htarget]
        dsimp only
        cases hframe : c.frameForNumber req.imageId n with
        | none => exact .untargeted ⟨hi, hvalid⟩ htarget hframe _
        | some canvas =>
          obtain ⟨composed, hblit⟩ := blitSubrectIntoCanvas_ok hfits canvas req.frameData req.compositionMode
          dsimp only
          rw [hblit]
          exact .replaced ⟨hi, hvalid⟩ htarget hframe hdeclined hblit

/-! ## Composing and deleting -/

/-- Kitty `a=c` is carried out: both frames resolve, the rectangles lie inside and do not overlap. -/
def composes (c : Cache) (req : ComposeRequest) : Bool :=
  match c.images.lookup req.imageId, c.frameForNumber req.imageId req.srcFrame,
    c.frameForNumber req.imageId req.dstFrame with
  | some img, some _, some _ =>
    let width := if req.width = 0 then img.width else req.width
    let height := if req.height = 0 then img.height else req.height
    let inside := fun x y => x + width ≤ img.width ∧ y + height ≤ img.height
    decide (inside req.dstX req.dstY ∧ inside req.srcX req.srcY)
      && !decide (req.srcFrame = req.dstFrame ∧ max req.srcX req.dstX < min req.srcX req.dstX + width
          ∧ max req.srcY req.dstY < min req.srcY req.dstY + height)
  | _, _, _ => false

/-- **Composing a frame**: it is refused, or the destination is replaced. -/
inductive ComposeOutcome (c : Cache) (req : ComposeRequest) : Cache × Except Error Unit → Prop
  | refused (hno : c.composes req = false) (e : Error) : ComposeOutcome c req (c, .error e)
  | composed {img : Data} {src dst composed : List UInt8} (hyes : c.composes req = true)
      (hi : c.images.lookup req.imageId = some img) (hsrc : c.frameForNumber req.imageId req.srcFrame = some src)
      (hdst : c.frameForNumber req.imageId req.dstFrame = some dst)
      (hblit : blitSubrectIntoCanvas dst (extractRect src img.width req.srcX req.srcY
        (if req.width = 0 then img.width else req.width) (if req.height = 0 then img.height else req.height))
        img.width img.height ⟨req.dstX, req.dstY, if req.width = 0 then img.width else req.width,
          if req.height = 0 then img.height else req.height⟩ req.mode = .ok composed) :
      ComposeOutcome c req ((c.replaceFrameBytes req.imageId req.dstFrame composed none).1,
        (c.replaceFrameBytes req.imageId req.dstFrame composed none).2.map fun _ => ())

theorem composeFrame_outcome (c : Cache) (req : ComposeRequest) : ComposeOutcome c req (c.composeFrame req) := by
  have hrefused : c.composes req = false → ∀ e, ComposeOutcome c req (c, .error e) := .refused
  have hcomposed := @ComposeOutcome.composed c req
  unfold composes at hrefused hcomposed
  unfold composeFrame
  cases hi : c.images.lookup req.imageId with
  | none => exact hrefused (by rw [hi]) _
  | some img =>
    cases hsrc : c.frameForNumber req.imageId req.srcFrame with
    | none => exact hrefused (by rw [hi, hsrc]) _
    | some src =>
      cases hdst : c.frameForNumber req.imageId req.dstFrame with
      | none => exact hrefused (by rw [hi, hsrc, hdst]) _
      | some dst =>
        rw [hi, hsrc, hdst] at hrefused hcomposed
        dsimp only at hrefused hcomposed ⊢
        have hcomposed := fun hyes composed => @hcomposed img src dst composed hyes rfl rfl rfl
        generalize (if req.width = 0 then img.width else req.width) = width at hrefused hcomposed ⊢
        generalize (if req.height = 0 then img.height else req.height) = height at hrefused hcomposed ⊢
        split
        · next hout => exact hrefused (by rw [decide_eq_false hout]; rfl) _
        · next hinside =>
          split
          · next hover => exact hrefused (by rw [decide_eq_true hover, Bool.not_true, Bool.and_false]) _
          · next hapart =>
            rw [not_not] at hinside
            obtain ⟨composed, hblit⟩ := @blitSubrectIntoCanvas_ok img.width img.height
              { destX := req.dstX, destY := req.dstY, width, height } (by dsimp only; omega) dst
              (extractRect src img.width req.srcX req.srcY width height) req.mode
            have houtcome := hcomposed (by rw [decide_eq_true hinside, decide_eq_false hapart]; rfl) composed hblit
            rw [hblit]
            dsimp only
            generalize c.replaceFrameBytes req.imageId req.dstFrame composed none = r at houtcome
            obtain ⟨c', _ | _⟩ := r
            · exact houtcome
            · exact houtcome

/-- Bytes of a stored frame. -/
def entryBytes (c : Cache) (id : ImageId) (idx : Nat) : Nat :=
  ((((c.animationFrames.lookup id).getD [])[idx]?).map FrameEntry.memoryBytes).getD 0

/-- Position of the frame that a deletion takes. -/
def deletedIndex (frames : List FrameEntry) (frameNumber : Nat) : Nat :=
  min (if frameNumber = 0 then 1 else frameNumber) frames.length - 1

/-- The deltas that a deletion rebuilds. -/
def rebuiltBy (c : Cache) (id : ImageId) (frames : List FrameEntry) (frameNumber : Nat) : List (Nat × List UInt8) :=
  c.deltaDependents id frames (deletedIndex frames frameNumber)
    ((frames[deletedIndex frames frameNumber]?.map (·.id)).getD 0)

/-- A deletion takes the frame out. -/
def unlinkEntry (c : Cache) (id : ImageId) (idx : Nat) : Cache :=
  { c.debit (c.entryBytes id idx) with
    animationFrames := c.animationFrames.insert id (((c.animationFrames.lookup id).getD []).eraseIdx idx)
    animations := match c.animations.lookup id with
      | some state =>
        c.animations.insert id (state.removeFrame idx (((c.animationFrames.lookup id).getD []).eraseIdx idx).length)
      | none => c.animations }

/-- Then the frame on display is shown, and the animation of a single frame dropped. -/
def finishDeletion (c : Cache) (id : ImageId) (left : List FrameEntry) : Cache × Bool :=
  let current := ((c.animations.lookup id).map (·.currentFrame)).getD 0
  let c := match left[current]? with
    | some (.materialized frameId data) => c.showFrame id frameId data true
    | _ => c
  let c := { c with frameStarts := c.frameStarts.erase id, dirty := true }
  if left.length ≤ 1 then (c.dropAnimation id, true) else (c, false)

/-- **Deleting a frame**: none is stored, the only one goes with the animation, or the dependents are rebuilt, the
    frame is taken out and what is left is shown. -/
inductive RemoveOutcome (c : Cache) (id : ImageId) (frameNumber : Nat) : Cache × Bool → Prop
  | missing (hf : c.animationFrames.lookup id = none) : RemoveOutcome c id frameNumber (c, true)
  | single {frames : List FrameEntry} (hf : c.animationFrames.lookup id = some frames) (hshort : frames.length ≤ 1) :
      RemoveOutcome c id frameNumber (c.dropAnimation id, true)
  | removed {frames : List FrameEntry} {c' : Cache} (hf : c.animationFrames.lookup id = some frames)
      (hlong : ¬ frames.length ≤ 1)
      (hc' : (c.rebuiltBy id frames frameNumber).foldl (fun c d => c.materializeDependent id d.1 d.2) c = c') :
      RemoveOutcome c id frameNumber ((c'.unlinkEntry id (deletedIndex frames frameNumber)).finishDeletion id
        (((c'.animationFrames.lookup id).getD []).eraseIdx (deletedIndex frames frameNumber)))

theorem removeAnimationFrame_outcome (c : Cache) (id : ImageId) (frameNumber : Nat) :
    RemoveOutcome c id frameNumber (c.removeAnimationFrame id frameNumber) := by
  unfold removeAnimationFrame
  split
  · next hf => exact .missing hf
  · next frames hf =>
    split
    · next hshort => exact .single hf hshort
    · next hlong => exact .removed hf hlong rfl

/-- What a deletion shows: the frame that is current then, if it is stored as a full canvas. -/
inductive ShowsLeft (c : Cache) (id : ImageId) (left : List FrameEntry) : Cache → Prop
  | nothing (h : ∀ frameId data, left[((c.animations.lookup id).map (·.currentFrame)).getD 0]?
      ≠ some (.materialized frameId data)) : ShowsLeft c id left c
  | frame {frameId : Nat} {data : List UInt8} (h : left[((c.animations.lookup id).map (·.currentFrame)).getD 0]?
      = some (.materialized frameId data)) : ShowsLeft c id left (c.showFrame id frameId data true)

/-- **The end of a deletion**: what is left is shown or not, and the animation stays or goes. -/
theorem finishDeletion_eq (c : Cache) (id : ImageId) (left : List FrameEntry) : ∃ c₁ c₂, ShowsLeft c id left c₁
    ∧ { c₁ with frameStarts := c₁.frameStarts.erase id, dirty := true } = c₂
    ∧ (c.finishDeletion id left).1 = if left.length ≤ 1 then c₂.dropAnimation id else c₂ := by
  have hend : ∀ c₁, ShowsLeft c id left c₁ → ∃ c₁' c₂, ShowsLeft c id left c₁'
      ∧ { c₁' with frameStarts := c₁'.frameStarts.erase id, dirty := true } = c₂
      ∧ (if left.length ≤ 1 then (dropAnimation { c₁ with frameStarts := c₁.frameStarts.erase id, dirty := true } id, true)
        else ({ c₁ with frameStarts := c₁.frameStarts.erase id, dirty := true }, false)).1
        = if left.length ≤ 1 then c₂.dropAnimation id else c₂ := by
    intro c₁ h
    refine ⟨c₁, _, h, rfl, ?_⟩
    split <;> rfl
  refine hend _ ?_
  split
  · next h => exact .frame h
  · next h => exact .nothing h

/-! ## What the operations on frames preserve -/

/-- A preorder on caches that the elementary updates respect: the bookkeeping of the frames and the animations, and an
    image that is written over in place. -/
structure FrameInvariant (R : Cache → Cache → Prop) : Prop where
  trans : ∀ {a b c}, R a b → R b c → R a c
  books : ∀ (c : Cache) animationFrames animations frameStarts nextFrameId dirty animationEnabled,
    R c { c with animationFrames, animations, frameStarts, nextFrameId, dirty, animationEnabled }
  image : ∀ {c : Cache} {id : ImageId} {img : Data} (img' : Data), c.images.lookup id = some img →
    img'.lastAccessed = img.lastAccessed → R c { c with images := c.images.insert id img' }

namespace FrameInvariant

variable {R : Cache → Cache → Prop} (hR : FrameInvariant R) (c : Cache) (id : ImageId)

include hR

theorem refl : R c c := hR.books c ..

theorem applyFrame (frameIdx : Nat) : R c (c.applyFrame id frameIdx) := by
  unfold Cache.applyFrame
  split
  · next img _ hi =>
    split
    · next frameId data _ => exact hR.trans (hR.image (img.show frameId data).bump hi rfl) (hR.books ..)
    · exact hR.refl c
  · exact hR.refl c

theorem showFrame (frameId : Nat) (data : List UInt8) (bump : Bool) : R c (c.showFrame id frameId data bump) := by
  unfold Cache.showFrame
  split
  · next img hi => exact hR.image _ hi (by cases bump <;> rfl)
  · exact hR.refl c

theorem setFrameGap (frameIdx : Nat) (gap : Nanos) : R c (c.setFrameGap id frameIdx gap) := by
  unfold Cache.setFrameGap
  split
  · exact hR.refl c
  · exact hR.books ..

variable {c id}

theorem promoteRoot {img : Data} (h : c.images.lookup id = some img) (gap : Nanos) : R c (c.promoteRoot id img gap) :=
  hR.trans (hR.image { img with sharedFrame := some c.nextFrameId } h rfl) (hR.books ..)

theorem autoPromoteStaticRoot (h : c.autoPromoteStaticRoot id = .ok c') : R c c' := by
  unfold Cache.autoPromoteStaticRoot at h
  split at h
  · cases h
    exact hR.refl _
  · split at h
    · next img hi =>
      cases h
      exact hR.promoteRoot hi 0
    · cases h

variable (c id)

theorem ensureAnimationStateForRootGap (gapUpdate : Option Nanos) :
    R c (c.ensureAnimationStateForRootGap id gapUpdate).1 := by
  unfold Cache.ensureAnimationStateForRootGap
  split
  · exact hR.refl c
  · split
    · exact hR.refl c
    · next img hi _ => exact hR.promoteRoot hi _
    · exact hR.setFrameGap ..

theorem writeEntry (idx frameId : Nat) (data : List UInt8) (shown : Option Bool) (gapUpdate : Option Nanos) :
    R c (c.writeEntry id idx frameId data shown gapUpdate) := by
  have hset : R c (c.setEntry id idx (.materialized frameId data)) := hR.books ..
  have hshown : R c ((c.setEntry id idx (.materialized frameId data)).showIf id frameId data shown) := by
    cases shown with
    | none => exact hset
    | some bump => exact hR.trans hset (hR.showFrame ..)
  refine hR.trans ?_ (hR.books ..)
  cases gapUpdate with
  | none => exact hshown
  | some gap => exact hR.trans hshown (hR.setFrameGap ..)

theorem tryEditInPlace (req : FrameLoadRequest) (imageW imageH : Nat) : R c (c.tryEditInPlace req imageW imageH).1 := by
  have h := c.tryEditInPlace_outcome req imageW imageH
  generalize c.tryEditInPlace req imageW imageH = r at h ⊢
  cases h with
  | declined | failed => exact hR.refl c
  | written => exact hR.writeEntry ..

/-- **Replacing a frame's pixels** writes over the image and keeps the books. -/
theorem replaceFrameBytes (frameNum : Nat) (composed : List UInt8) (gapUpdate : Option Nanos) :
    R c (c.replaceFrameBytes id frameNum composed gapUpdate).1 := by
  have h := c.replaceFrameBytes_outcome id frameNum composed gapUpdate
  generalize c.replaceFrameBytes id frameNum composed gapUpdate = r at h ⊢
  cases h with
  | absent => exact hR.refl c
  | marked | refused => exact hR.books ..
  | @redrawn img _ hi => exact hR.trans (hR.image (img.redraw composed) hi rfl) (hR.books ..)
  | @promoted img gap c₁ c₂ c₃ _ hi _ hc₁ hc₂ hc₃ =>
    have hi₁ : c₁.images.lookup id = some (img.redraw composed) := hc₁ ▸ AList.lookup_insert _
    have h₁ : R c c₁ := hc₁ ▸ hR.image (img.redraw composed) hi rfl
    have h₂ : R c₁ c₂ := hc₂ ▸ hR.promoteRoot hi₁ gap
    have h₃ : R c₂ c₃ := hc₃ ▸ hR.writeEntry ..
    exact hR.trans (hR.trans (hR.trans h₁ h₂) h₃) (hR.books ..)
  | written => exact hR.trans (hR.books ..) (hR.writeEntry ..)

theorem composeFrame (req : ComposeRequest) : R c (c.composeFrame req).1 := by
  have h := c.composeFrame_outcome req
  generalize c.composeFrame req = r at h ⊢
  cases h with
  | refused => exact hR.refl c
  | composed => exact hR.replaceFrameBytes ..

theorem finishDeletion (left : List FrameEntry) : R c (c.finishDeletion id left).1 := by
  obtain ⟨c₁, c₂, hshown, hc₂, heq⟩ := c.finishDeletion_eq id left
  have h₁ : R c c₁ := by
    cases hshown with
    | nothing => exact hR.refl c
    | frame => exact hR.showFrame ..
  have h₂ : R c c₂ := hR.trans h₁ (hc₂ ▸ hR.books ..)
  rw [heq]
  split
  · exact hR.trans h₂ (hR.books ..)
  · exact h₂

end FrameInvariant

end Cache

end OriTerm.Image
