import OriTerm.Lib.Versions
import OriTerm.Image.Display

/-!
# `Image.Generation` — the pixel generation as a change detector

The texture cache and the set of sent images compare the id and the pixel generation of an image, not its pixels. That is
sound as long as no generation comes back under an id with other pixels (`Lib.Versions`).

The cache raises the generation whenever it changes the pixels of an image (`Advances`), with two exceptions: a store
begins at the generation its caller gives, which is 0, also under an id that was used before; and `replaceFrameBytes` puts
the new pixels of the current frame on display under the old generation. `CacheOp.KeepsGenerations` rules these out, and
`CacheOp.generation_run` says that the detector is sound in all other runs.
-/

namespace OriTerm.Image

open Lib List AList

/-- What is uploaded: the pixels and the dimensions. -/
abbrev Pixels := List UInt8 × Nat × Nat

/-- The generation of an image, with the pixels it stands for. -/
def Data.version (img : Data) : Nat × Pixels := (img.pixelGeneration, img.data, img.width, img.height)

namespace Cache

variable {c c' c'' : Cache} {id : ImageId} {img : Data}

/-- What a consumer sees under an id. -/
def shows (c : Cache) (id : ImageId) : Option (Nat × Pixels) := (c.images.lookup id).map Data.version

/-- What the later cache shows under an id was there before, or has a higher generation than what was. -/
def AdvancesAt (c c' : Cache) (id : ImageId) : Prop :=
  ∀ o', c'.shows id = some o' → ∃ o, c.shows id = some o ∧ Renews (some o) (some o')

/-- The same for every id. -/
def Advances (c c' : Cache) : Prop := ∀ id, AdvancesAt c c' id

/-! ## What advances -/

theorem AdvancesAt.refl (c : Cache) (id : ImageId) : AdvancesAt c c id := fun o ho => ⟨o, ho, Renews.refl _⟩

theorem Advances.refl (c : Cache) : Advances c c := fun id => .refl c id

theorem AdvancesAt.trans (h : AdvancesAt c c' id) (h' : AdvancesAt c' c'' id) : AdvancesAt c c'' id := by
  intro o'' ho''
  obtain ⟨o', ho', hrenews'⟩ := h' o'' ho''
  obtain ⟨o, ho, hrenews⟩ := h o' ho'
  exact ⟨o, ho, hrenews.trans hrenews'⟩

theorem Advances.trans (h : Advances c c') (h' : Advances c' c'') : Advances c c'' := fun id => (h id).trans (h' id)

theorem AdvancesAt.of_lookup (h : c'.images.lookup id = c.images.lookup id) : AdvancesAt c c' id := by
  intro o ho
  unfold shows at ho
  rw [h] at ho
  exact ⟨o, ho, Renews.refl _⟩

/-- The images are the same. -/
theorem Advances.of_images (h : c'.images = c.images) : Advances c c' := fun _ => .of_lookup (by rw [h])

/-- One image is rewritten, with the same pixels or a higher generation. -/
theorem Advances.of_insert (img' : Data) (h : c.images.lookup id = some img) (hi : c'.images = c.images.insert id img')
    (hversion : Renews (some img.version) (some img'.version)) : Advances c c' := by
  intro x
  by_cases hx : x = id
  · subst hx
    intro o' ho'
    unfold shows at ho'
    rw [hi, lookup_insert] at ho'
    cases ho'
    refine ⟨img.version, ?_, hversion⟩
    unfold shows
    rw [h]
    rfl
  · exact .of_lookup (by rw [hi]; exact lookup_insert_ne hx)

theorem advances_removeImage (c : Cache) (id : ImageId) : Advances c (c.removeImage id) := by
  intro x
  by_cases hx : x = id
  · subst hx
    intro o ho
    unfold shows at ho
    rw [removeImage_lookup] at ho
    cases ho
  · exact .of_lookup (removeImage_lookup_ne c hx).1

theorem advances_evictLoop (pinned : ImageId → Bool) (size fuel : Nat) (c : Cache) :
    Advances c (evictLoop pinned size fuel c).1 :=
  evictLoop_invariant (fun c' v _ h => h.trans (advances_removeImage c' v)) size fuel (.refl c)

/-- Upkeep leaves the pixels and their generations alone, or removes them. -/
theorem upkeepInvariant_advances : UpkeepInvariant Advances where
  trans h h' := h.trans h'
  books _ _ _ _ _ _ _ _ := .of_images rfl
  touch {_ _ img} n hi := .of_insert { img with lastAccessed := n } hi rfl (.inl rfl)
  remove := advances_removeImage
  clear _ _ _ ho := nomatch ho

/-! ## Bumps -/

/-- The generation of the image, if there is one, can be raised without wrapping around. -/
def hasRoom (c : Cache) (id : ImageId) : Bool := (c.images.lookup id).all fun img => img.pixelGeneration + 1 < 2 ^ 64

theorem renews_bump {img' : Data} (hroom : img.pixelGeneration + 1 < 2 ^ 64) (hg : img'.pixelGeneration = img.pixelGeneration) :
    Renews (some img.version) (some img'.bump.version) := by
  refine .inr ?_
  show img.pixelGeneration < (img'.pixelGeneration + 1) % 2 ^ 64
  rw [hg, Nat.mod_eq_of_lt hroom]
  exact Nat.lt_succ_self _

theorem hasRoom_image (h : c.hasRoom id = true) (hi : c.images.lookup id = some img) : img.pixelGeneration + 1 < 2 ^ 64 := by
  unfold hasRoom at h
  rw [hi] at h
  simpa using h

theorem advances_applyFrame (h : c.hasRoom id = true) (frameIdx : Nat) : Advances c (c.applyFrame id frameIdx) := by
  unfold applyFrame
  split
  · next frames img hf hi =>
    split
    · next fid data _ => exact .of_insert (img.show fid data).bump hi rfl (renews_bump (hasRoom_image h hi) rfl)
    · exact .refl c
  · exact .refl c

theorem advances_showFrame (h : c.hasRoom id = true) (frameId : Nat) (data : List UInt8) :
    Advances c (c.showFrame id frameId data true) := by
  unfold showFrame
  split
  · next img hi => exact .of_insert (img.show frameId data).bump hi rfl (renews_bump (hasRoom_image h hi) rfl)
  · exact .refl c

/-- The settings of an animation are no part of the pixels. -/
theorem settingInvariant_advances : SettingInvariant Advances :=
  ⟨.refl, fun h h' => h.trans h', fun _ _ _ => .of_images rfl, fun _ => .of_images rfl, fun _ _ _ _ => .of_images rfl⟩

theorem advances_setCurrentFrame (h : c.hasRoom id = true) (now : Nanos) (frameIdx : Nat) :
    Advances c (c.setCurrentFrame now id frameIdx) := by
  unfold setCurrentFrame
  split
  · exact .refl c
  · next state _ =>
    split
    · have hstate : hasRoom { c with animations := c.animations.insert id { state with currentFrame := frameIdx } } id = true := h
      have happlied := advances_applyFrame hstate frameIdx
      exact ((Advances.of_images rfl).trans happlied).trans (.of_images rfl)
    · exact .refl c

theorem advances_advanceImage {acc : Cache × Option Nanos} (now : Nanos) (h : acc.1.hasRoom id = true) :
    Advances acc.1 (advanceImage now acc id).1 := by
  have hout := advanceImage_outcome now acc id
  generalize (advanceImage now acc id).1 = c' at hout ⊢
  cases hout with
  | idle => exact .refl _
  | started => exact .of_images rfl
  | stayed hc₁ => exact hc₁ ▸ .of_images rfl
  | @turned _ _ c₁ c₂ c₃ hc₁ _ _ _ _ _ _ hc₂ hc₃ =>
    have hroom : c₂.hasRoom id = true := by
      rw [← hc₂, ← hc₁]
      exact h
    have hsame : c₂.images = acc.1.images := by
      rw [← hc₂, ← hc₁]
    have happlied : Advances c₂ c₃ := hc₃ ▸ advances_applyFrame hroom _
    exact ((Advances.of_images hsame).trans happlied).trans (.of_images rfl)

/-- Each image of a tick is advanced once. -/
theorem advances_advanceImages (now : Nanos) (ids : List ImageId) (hids : ids.Nodup) {acc : Cache × Option Nanos}
    (h : ∀ id ∈ ids, acc.1.hasRoom id = true) : Advances acc.1 (ids.foldl (advanceImage now) acc).1 := by
  induction ids generalizing acc with
  | nil => exact .refl _
  | cons id ids ih =>
    obtain ⟨hnotin, hids⟩ := nodup_cons.mp hids
    refine (advances_advanceImage now (h id (mem_cons_self ..))).trans (ih hids fun x hx => ?_)
    have hne : x ≠ id := by
      rintro rfl
      exact hnotin hx
    unfold hasRoom
    rw [(sameClock_advanceImage now acc hne).image]
    exact h x (mem_cons_of_mem _ hx)

theorem advances_advanceAnimations (c : Cache) (now : Nanos) (top bottom : StableRowIndex)
    (h : ∀ id ∈ c.visibleAnimations top bottom, c.hasRoom id = true) : Advances c (c.advanceAnimations now top bottom).1 := by
  unfold advanceAnimations
  split
  · exact .refl c
  · exact advances_advanceImages now (c.visibleAnimations top bottom) (c.animations.keys_nodup.filter _) h

theorem advances_rewind (entries : List (Sigma fun _ : ImageId => AnimationState)) (hnodup : (entries.map Sigma.fst).Nodup)
    (h : ∀ e ∈ entries, c.hasRoom e.1 = true) :
    Advances c (entries.foldl (fun c e =>
      if e.2.currentFrame ≠ 0 then
        Cache.applyFrame
          { c with animations := c.animations.insert e.1 { e.2 with currentFrame := 0, loopsCompleted := 0 } } e.1 0
      else c) c) := by
  induction entries generalizing c with
  | nil => exact .refl c
  | cons e entries ih =>
    rw [map_cons, nodup_cons] at hnodup
    rw [foldl_cons]
    split
    · have hroom := h e (mem_cons_self ..)
      have hstate : hasRoom
          { c with animations := c.animations.insert e.1 { e.2 with currentFrame := 0, loopsCompleted := 0 } } e.1 = true := hroom
      refine ((Advances.of_images rfl).trans (advances_applyFrame hstate 0)).trans (ih hnodup.2 fun x hx => ?_)
      have hne : x.1 ≠ e.1 := by
        intro heq
        exact hnodup.1 (heq ▸ mem_map_of_mem hx)
      unfold hasRoom
      rw [applyFrame_image _ hne]
      exact h x (mem_cons_of_mem _ hx)
    · exact ih hnodup.2 fun x hx => h x (mem_cons_of_mem _ hx)

theorem advances_setAnimationEnabled (c : Cache) (enabled : Bool) (h : ∀ id ∈ c.animations.keys, c.hasRoom id = true) :
    Advances c (c.setAnimationEnabled enabled) := by
  unfold setAnimationEnabled
  split
  · exact .refl c
  · split
    · exact .of_images rfl
    · have hrewound := advances_rewind (c := { c with animationEnabled := enabled }) c.animations.entries c.animations.keys_nodup
        fun e he => h e.1 (mem_map_of_mem he)
      exact (Advances.of_images rfl).trans hrewound

/-! ## Frames -/

theorem advances_promoteRoot (h : c.images.lookup id = some img) (gap : Nanos) : Advances c (c.promoteRoot id img gap) :=
  .of_insert { img with sharedFrame := some c.nextFrameId } h rfl (.inl rfl)

theorem advances_ensureAnimationStateForRootGap (c : Cache) (id : ImageId) (gapUpdate : Option Nanos) :
    Advances c (c.ensureAnimationStateForRootGap id gapUpdate).1 := by
  unfold ensureAnimationStateForRootGap
  split
  · exact .refl c
  · split
    · exact .refl c
    · next img hi ha => exact advances_promoteRoot hi _
    · exact settingInvariant_advances.setFrameGap c id 0 _

theorem advances_autoPromoteStaticRoot (h : c.autoPromoteStaticRoot id = .ok c') : Advances c c' := by
  unfold autoPromoteStaticRoot at h
  split at h
  · cases h
    exact .refl c
  · split at h
    · next img hi =>
      cases h
      exact advances_promoteRoot hi 0
    · cases h

theorem advances_appendEntry (c : Cache) (id : ImageId) (entry : FrameEntry) (gap : Nanos) :
    Advances c (c.appendEntry id entry gap).1 := .of_images rfl

theorem advances_pushDeltaFrame (c : Cache) (id : ImageId) (base depth area : Nat) (req : FrameLoadRequest) (gap : Nanos) :
    Advances c (c.pushDeltaFrame id base depth area req gap).1 := by
  have hevicted : Advances c (c.evictForFrame id req.frameData.length).1 := advances_evictLoop _ _ _ c
  unfold pushDeltaFrame
  dsimp only
  split
  · exact hevicted
  · exact hevicted.trans (advances_appendEntry _ _ _ _)

theorem advances_tryPushDeltaAppend (c : Cache) (req : FrameLoadRequest) (imageW imageH : Nat) :
    Advances c (c.tryPushDeltaAppend req imageW imageH).1 := by
  unfold tryPushDeltaAppend
  split
  · next gap n _ _ =>
    dsimp only
    split
    · exact .refl c
    · next c₁ hpromoted =>
      have h₁ : Advances c c₁ := by
        split at hpromoted
        · exact advances_autoPromoteStaticRoot hpromoted
        · cases hpromoted
          exact .refl c
      split
      · exact h₁
      · next base _ =>
        generalize (if base.isDelta = true then base.depth + 1 else 0) = depth
        split
        · exact h₁.trans (advances_pushDeltaFrame _ _ _ _ _ _ _)
        · exact h₁
  · exact .refl c

theorem advances_pushComposedFrame (c : Cache) (id : ImageId) (composed : List UInt8) (gap : Nanos) :
    Advances c (c.pushComposedFrame id composed gap).1 := by
  have hevicted : Advances c (c.evictForFrame id composed.length).1 := advances_evictLoop _ _ _ c
  unfold pushComposedFrame
  split
  · exact .refl c
  · dsimp only
    split
    · exact hevicted
    · generalize (c.evictForFrame id composed.length).1 = c₁ at hevicted
      split
      · exact hevicted.trans (advances_appendEntry _ _ _ _)
      · exact hevicted
      · next img _ hi => exact hevicted.trans ((advances_promoteRoot hi 0).trans (.of_images rfl))

theorem advances_gapIf (c : Cache) (id : ImageId) (frameIdx : Nat) (gapUpdate : Option Nanos) :
    Advances c (c.gapIf id frameIdx gapUpdate) := by
  cases gapUpdate with
  | none => exact .refl c
  | some gap => exact settingInvariant_advances.setFrameGap c id frameIdx gap

/-- A stored frame is written, and shown under a new generation if at all. -/
theorem advances_writeEntry (h : c.hasRoom id = true) (idx frameId : Nat) (data : List UInt8) {shown : Option Bool}
    (hshown : shown ≠ some false) (gapUpdate : Option Nanos) : Advances c (c.writeEntry id idx frameId data shown gapUpdate) := by
  have hset : hasRoom (c.setEntry id idx (.materialized frameId data)) id = true := h
  have hshow : Advances c ((c.setEntry id idx (.materialized frameId data)).showIf id frameId data shown) := by
    cases shown with
    | none => exact .of_images rfl
    | some bump =>
      cases bump with
      | true => exact (Advances.of_images rfl).trans (advances_showFrame hset frameId data)
      | false => exact absurd rfl hshown
  exact (hshow.trans (advances_gapIf _ _ _ _)).trans (.of_images rfl)

theorem advances_tryEditInPlace (req : FrameLoadRequest) (imageW imageH : Nat) (h : c.hasRoom req.imageId = true) :
    Advances c (c.tryEditInPlace req imageW imageH).1 := by
  have hout := c.tryEditInPlace_outcome req imageW imageH
  generalize c.tryEditInPlace req imageW imageH = r at hout ⊢
  cases hout with
  | declined | failed => exact .refl c
  | written =>
    refine advances_writeEntry h _ _ _ ?_ _
    split <;> decide

/-- The frame of a number is the current one of an animation. -/
def showsFrame (c : Cache) (id : ImageId) (frameNum : Nat) : Bool :=
  (c.animations.lookup id).any fun state => state.currentFrame == frameNum - 1

/-- Replacing a frame other than the current one of an animation. -/
theorem advances_replaceFrameBytes (id : ImageId) (frameNum : Nat) (composed : List UInt8) (gapUpdate : Option Nanos)
    (h : c.hasRoom id = true) (hother : c.showsFrame id frameNum = false) :
    Advances c (c.replaceFrameBytes id frameNum composed gapUpdate).1 := by
  have hredrawn : ∀ {img}, c.images.lookup id = some img →
      Advances c { c with images := c.images.insert id (img.redraw composed) } := fun {img} hi =>
    .of_insert (img.redraw composed) hi rfl (renews_bump (hasRoom_image h hi) rfl)
  have hout := c.replaceFrameBytes_outcome id frameNum composed gapUpdate
  generalize c.replaceFrameBytes id frameNum composed gapUpdate = r at hout ⊢
  cases hout with
  | absent => exact .refl c
  | marked | refused => exact .of_images rfl
  | redrawn _ hi => exact (hredrawn hi).trans (.of_images rfl)
  | @promoted img gap _ c₂ _ _ hi _ hc₁ hc₂ hc₃ =>
    subst hc₁ hc₃
    have hpromoted := hc₂ ▸ (hredrawn hi).trans (advances_promoteRoot (lookup_insert _) gap)
    have hi₂ : c₂.images.lookup id = some { img.redraw composed with sharedFrame := some c.nextFrameId } :=
      hc₂ ▸ lookup_insert _
    -- The root that is written is the one on display.
    refine hpromoted.trans (Advances.of_insert
      (Data.show { img.redraw composed with sharedFrame := some c.nextFrameId } c₂.nextFrameId composed) hi₂ ?_
      (.inl rfl))
    unfold writeEntry showIf showFrame setEntry
    rw [hi₂]
    rfl
  | @written state ha _ =>
    have hcur : ¬ state.currentFrame = frameNum - 1 := by
      unfold showsFrame at hother
      rw [ha] at hother
      simpa using hother
    have hnext : hasRoom { c with nextFrameId := c.nextFrameId + 1 } id = true := h
    have hwritten := advances_writeEntry hnext (frameNum - 1) c.nextFrameId composed
      (show (none : Option Bool) ≠ some false by decide) gapUpdate
    rw [if_neg hcur]
    exact (Advances.of_images rfl).trans hwritten

/-- An edit of a frame that raises the generation if it changes what is on display. A delta that is the current frame is
    replaced under the old generation. -/
def editBumps (c : Cache) (req : FrameLoadRequest) : Bool :=
  match req.target, c.validateFrameRequest req with
  | .edit n _, .ok _ =>
    c.hasRoom req.imageId && !(c.storesDelta req.imageId n && c.showsFrame req.imageId n
      && (c.frameForNumber req.imageId n).isSome)
  | _, _ => true

/-- An edit in place declines what is not stored as a full canvas. -/
theorem editEntry_declined {req : FrameLoadRequest} {n : Nat} {gapUpdate : Option Nanos} {imageW imageH : Nat}
    (hnone : (c.tryEditInPlace req imageW imageH).2 = none) (htarget : req.target = .edit n gapUpdate) (frameId : Nat)
    (data : List UInt8) : c.editEntry req.imageId n ≠ some (.materialized frameId data) := by
  have hout := c.tryEditInPlace_outcome req imageW imageH
  generalize c.tryEditInPlace req imageW imageH = r at hout hnone
  cases hout with
  | declined hno => exact hno _ _ _ _ htarget
  | failed | written => cases hnone

/-- **Loading a frame** raises the generation if it changes what is on display. -/
theorem advances_putFrame (req : FrameLoadRequest) (h : c.editBumps req = true) : Advances c (c.putFrame req).1 := by
  have hedit : ∀ {img n gapUpdate}, c.Accepts req img → req.target = .edit n gapUpdate → c.hasRoom req.imageId = true
      ∧ (c.storesDelta req.imageId n && c.showsFrame req.imageId n && (c.frameForNumber req.imageId n).isSome) = false := by
    intro img n gapUpdate haccepts htarget
    unfold editBumps at h
    rw [htarget, haccepts.valid] at h
    rwa [Bool.and_eq_true, Bool.not_eq_true'] at h
  have hout := c.putFrame_outcome req
  generalize c.putFrame req = r at hout ⊢
  cases hout with
  | rejected | untargeted => exact .refl c
  | pushed _ _ hc' | unsourced _ _ hc' => exact hc' ▸ advances_tryPushDeltaAppend c req _ _
  | appended _ _ hc' => exact (hc' ▸ advances_tryPushDeltaAppend c req _ _).trans (advances_pushComposedFrame _ _ _ _)
  | edited haccepts htarget hc' => exact hc' ▸ advances_tryEditInPlace req _ _ (hedit haccepts htarget).1
  | @replaced _ n _ _ _ haccepts htarget hframe hdeclined =>
    obtain ⟨hroom, hnot⟩ := hedit haccepts htarget
    refine advances_replaceFrameBytes _ _ _ _ hroom ?_
    cases ha : c.animations.lookup req.imageId with
    | none =>
      unfold showsFrame
      rw [ha]
      rfl
    | some state =>
      obtain ⟨frames, entry, hf, hentry, _⟩ := frameForNumber_animated ha hframe
      have hat : c.editEntry req.imageId n = some entry := by
        unfold editEntry
        rw [if_neg (frameForNumber_pos hframe), hf]
        exact hentry
      have hdelta : c.storesDelta req.imageId n = true := by
        unfold storesDelta
        rw [hat]
        cases entry with
        | delta => rfl
        | materialized fid data =>
          have hnone := congrArg Prod.snd (hdeclined (by rw [ha]; rfl))
          exact absurd hat (editEntry_declined hnone htarget fid data)
      rw [hdelta, hframe] at hnot
      simpa using hnot

/-- A composition that raises the generation if it changes what is on display. One onto the current frame of an animation
    keeps the old generation. -/
def composeBumps (c : Cache) (req : ComposeRequest) : Bool :=
  !c.composes req || (c.hasRoom req.imageId && !c.showsFrame req.imageId req.dstFrame)

/-- **Composing a frame** likewise. -/
theorem advances_composeFrame (req : ComposeRequest) (h : c.composeBumps req = true) : Advances c (c.composeFrame req).1 := by
  have hout := c.composeFrame_outcome req
  generalize c.composeFrame req = r at hout ⊢
  cases hout with
  | refused => exact .refl c
  | composed hyes =>
    unfold composeBumps at h
    rw [hyes, Bool.not_true, Bool.false_or, Bool.and_eq_true, Bool.not_eq_true'] at h
    exact advances_replaceFrameBytes _ _ _ _ h.1 h.2

theorem images_materializeDependents (rebuilt : List (Nat × List UInt8)) (c : Cache) (id : ImageId) :
    (rebuilt.foldl (fun c d => c.materializeDependent id d.1 d.2) c).images = c.images := by
  refine @run_invariant _ _ (fun c d => c.materializeDependent id d.1 d.2) (fun c' => c'.images = c.images)
    (fun c' d h => ?_) c rfl rebuilt
  unfold materializeDependent
  split
  · exact h
  · split <;> exact h

/-- **Deleting a frame** raises the generation when it shows another one. -/
theorem advances_removeAnimationFrame (h : c.hasRoom id = true) (frameNumber : Nat) :
    Advances c (c.removeAnimationFrame id frameNumber).1 := by
  have hout := c.removeAnimationFrame_outcome id frameNumber
  generalize c.removeAnimationFrame id frameNumber = r at hout ⊢
  cases hout with
  | missing => exact .refl c
  | single => exact .of_images rfl
  | @removed frames c₁ hf _ hc₁ =>
    have himages : c₁.images = c.images := hc₁ ▸ images_materializeDependents (c.rebuiltBy id frames frameNumber) c id
    obtain ⟨c₂, -, hshows, rfl, heq⟩ := finishDeletion_eq (c₁.unlinkEntry id (deletedIndex frames frameNumber)) id
      (((c₁.animationFrames.lookup id).getD []).eraseIdx (deletedIndex frames frameNumber))
    have hunlinked : Advances c (c₁.unlinkEntry id (deletedIndex frames frameNumber)) := .of_images himages
    have hroom : (c₁.unlinkEntry id (deletedIndex frames frameNumber)).hasRoom id = true := by
      show (c₁.images.lookup id).all _ = true
      rw [himages]
      exact h
    have hshown : Advances c c₂ := by
      cases hshows with
      | nothing => exact hunlinked
      | frame => exact hunlinked.trans (advances_showFrame hroom _ _)
    rw [heq]
    split <;> exact hshown.trans (.of_images rfl)

/-! ## Storing an image -/

/-- The image of a store that is carried out, under its own generation; the others advance. -/
structure StoresVersion (c c' : Cache) (data : Data) : Prop where
  image : c'.shows data.id = some data.version
  others : ∀ x, x ≠ data.id → AdvancesAt c c' x

theorem store_version (c : Cache) (data : Data) :
    ((c.store data).2.isOk = false → Advances c (c.store data).1)
      ∧ ((c.store data).2.isOk = true → (c.store data).2 = .ok data.id ∧ StoresVersion c (c.store data).1 data) := by
  unfold store
  dsimp only
  split
  · exact ⟨fun _ => .refl c, nofun⟩
  · have hevicted := advances_evictLoop c.reachable data.data.length (c.images.entries.length + 1) c
    generalize evictLoop c.reachable data.data.length (c.images.entries.length + 1) c = r at hevicted
    obtain ⟨e, ok⟩ := r
    cases ok with
    | false => exact ⟨fun _ => hevicted, nofun⟩
    | true =>
      refine ⟨nofun, fun _ => ⟨rfl, ?_, fun x hx => ?_⟩⟩
      · show (((removeImage { e with accessCounter := e.accessCounter + 1 } data.id).images.insert data.id
          { data with lastAccessed := e.accessCounter + 1 }).lookup data.id).map Data.version = _
        rw [lookup_insert]
        rfl
      · have hcounted : Advances c { e with accessCounter := e.accessCounter + 1 } := hevicted.trans (.of_images rfl)
        exact ((hcounted.trans (advances_removeImage _ data.id)) x).trans (.of_lookup (lookup_insert_ne hx))

theorem storeAnimated_version (c : Cache) (data : Data) (frames : List (List UInt8)) (durations : List Nanos)
    (loopCount : Option Nat) :
    ((c.storeAnimated data frames durations loopCount).2.isOk = false →
        Advances c (c.storeAnimated data frames durations loopCount).1)
      ∧ ((c.storeAnimated data frames durations loopCount).2.isOk = true →
        StoresVersion c (c.storeAnimated data frames durations loopCount).1
          { data with data := frames.headD data.data }) := by
  cases frames with
  | nil => exact ⟨(store_version c data).1, fun hok => ((store_version c data).2 hok).2⟩
  | cons first rest =>
    obtain ⟨herror, hok⟩ := store_version c { data with data := first }
    have hout := c.storeAnimated_outcome data first rest durations loopCount
    generalize c.storeAnimated data (first :: rest) durations loopCount = r at hout ⊢
    cases hout with
    | oversized => exact ⟨fun _ => .refl c, nofun⟩
    | failed _ hstore =>
      rw [hstore] at herror
      exact ⟨fun _ => herror rfl, nofun⟩
    | @stored c' img _ hstore hi =>
      rw [hstore] at hok
      obtain ⟨-, himage, hothers⟩ := hok rfl
      refine ⟨nofun, fun _ => ⟨?_, fun x hx => (hothers x hx).trans (.of_lookup (lookup_insert_ne hx))⟩⟩
      unfold shows at himage
      rw [hi] at himage
      show ((c'.images.insert data.id { img with sharedFrame := some c'.nextFrameId }).lookup data.id).map Data.version = _
      rw [lookup_insert]
      exact himage

end Cache

/-! ## Every operation -/

open Cache

/-- A cache with what was last shown under each id. -/
abbrev WatchedCache := Watched Cache ImageId Nat Pixels

namespace CacheOp

variable {w : WatchedCache}

/-- **The generation renews**: an image is stored under a generation that its id has not reached, or the one it has last,
    with the same pixels; no frame is written over the current one without raising the generation; none wraps around. -/
def KeepsGenerations (w : WatchedCache) : CacheOp → Prop
  | store data => (w.state.store data).2.isOk = true → Renews (w.last data.id) (some data.version)
  | storeAnimated data frames durations loopCount =>
    (w.state.storeAnimated data frames durations loopCount).2.isOk = true →
      Renews (w.last data.id) (some ({ data with data := frames.headD data.data } : Data).version)
  | putFrame req => w.state.editBumps req = true
  | composeFrame req => w.state.composeBumps req = true
  | removeAnimationFrame id _ => w.state.hasRoom id = true
  | setAnimationEnabled _ => ∀ id ∈ w.state.animations.keys, w.state.hasRoom id = true
  | setCurrentFrame _ id _ => w.state.hasRoom id = true
  | advanceAnimations _ top bottom => ∀ id ∈ w.state.visibleAnimations top bottom, w.state.hasRoom id = true
  | _ => True

instance (w : WatchedCache) (op : CacheOp) : Decidable (op.KeepsGenerations w) := by
  cases op <;> (unfold KeepsGenerations; infer_instance)

/-- Every operation but a store advances. -/
theorem advances_apply (op : CacheOp) (h : op.KeepsGenerations w)
    (hstore : ∀ data, op ≠ .store data) (hanimated : ∀ data frames durations loopCount, op ≠ .storeAnimated data frames durations loopCount) :
    Advances w.state (op.apply w.state) := by
  have hupkeep : op.Upkeep → Advances w.state (op.apply w.state) := upkeepInvariant_advances.apply w.state op
  cases op with
  | nextImageId => exact .of_images rfl
  | store data => exact absurd rfl (hstore data)
  | storeAnimated data frames durations loopCount => exact absurd rfl (hanimated data frames durations loopCount)
  | putFrame req => exact advances_putFrame req h
  | composeFrame req => exact advances_composeFrame req h
  | removeAnimationFrame id frameNumber => exact advances_removeAnimationFrame h frameNumber
  | ensureAnimationStateForRootGap id gapUpdate => exact advances_ensureAnimationStateForRootGap _ id gapUpdate
  | setAnimationEnabled enabled => exact advances_setAnimationEnabled _ enabled h
  | setAnimationAction now id action => exact settingInvariant_advances.setAnimationAction _ now id action
  | setAnimationLoops id loops => exact settingInvariant_advances.setAnimationLoops _ id loops
  | setFrameGap id frameIdx gap => exact settingInvariant_advances.setFrameGap _ id frameIdx gap
  | setCurrentFrame now id frameIdx => exact advances_setCurrentFrame h now frameIdx
  | advanceAnimations now top bottom => exact advances_advanceAnimations _ now top bottom h
  | _ => exact hupkeep trivial

section

variable (hw : Watched.Current shows w)
include hw

theorem renews_of_advances {c' : Cache} {id : ImageId}
    (h : AdvancesAt w.state c' id) : Renews (w.last id) (c'.shows id) := by
  cases hs : c'.shows id with
  | none => exact Renews.none_right _
  | some o' =>
    obtain ⟨o, ho, hrenews⟩ := h o' hs
    rw [hw id o ho]
    exact hrenews

theorem renews_of_storesVersion {c' : Cache} {data : Data}
    (h : StoresVersion w.state c' data) (hdata : Renews (w.last data.id) (some data.version)) (id : ImageId) :
    Renews (w.last id) (c'.shows id) := by
  by_cases hid : id = data.id
  · rw [hid, h.image]
    exact hdata
  · exact renews_of_advances hw (h.others id hid)

/-- **One operation** renews what was last shown. -/
theorem renewing_apply (op : CacheOp) (h : op.KeepsGenerations w) : Watched.Renewing shows apply w op := by
  intro id
  by_cases hstore : ∃ data, op = .store data
  · obtain ⟨data, rfl⟩ := hstore
    obtain ⟨herror, hok⟩ := store_version w.state data
    cases hresult : (w.state.store data).2.isOk with
    | false => exact renews_of_advances hw (herror hresult id)
    | true => exact renews_of_storesVersion hw (hok hresult).2 (h hresult) id
  · by_cases hanimated : ∃ data frames durations loopCount, op = .storeAnimated data frames durations loopCount
    · obtain ⟨data, frames, durations, loopCount, rfl⟩ := hanimated
      obtain ⟨herror, hok⟩ := storeAnimated_version w.state data frames durations loopCount
      cases hresult : (w.state.storeAnimated data frames durations loopCount).2.isOk with
      | false => exact renews_of_advances hw (herror hresult id)
      | true => exact renews_of_storesVersion hw (hok hresult) (h hresult) id
    · refine renews_of_advances hw (advances_apply op h (fun data hop => hstore ⟨data, hop⟩) ?_ id)
      exact fun data frames durations loopCount hop => hanimated ⟨data, frames, durations, loopCount, hop⟩

end

/-- **The pixel generation is a sound change detector**: two images that a run shows under one id with the same generation
    have the same pixels and dimensions, whatever happened to the id in between, if every step renews the generation. -/
theorem generation_run (ops ops' : List CacheOp)
    (h : Along (Watched.next shows apply) (fun w op => op.KeepsGenerations w) (Watched.start shows .new) (ops ++ ops'))
    (id : ImageId) (img img' : Data) (hi : (run apply .new ops).images.lookup id = some img)
    (hi' : (run apply .new (ops ++ ops')).images.lookup id = some img') (hgeneration : img'.pixelGeneration = img.pixelGeneration) :
    img'.data = img.data ∧ img'.width = img.width ∧ img'.height = img.height := by
  have hrenewing := h.imp_of_invariant (fun w op _ => Watched.current_next w op)
    (fun w op hw hop => renewing_apply hw op hop) (Watched.current_start .new)
  have hrenews := Watched.renews_run hrenewing id
  unfold shows at hrenews
  rw [hi, hi'] at hrenews
  have hpixels := hrenews.content_eq hgeneration
  obtain ⟨hdata, hdims⟩ := Prod.mk.inj hpixels
  exact ⟨hdata, Prod.mk.inj hdims⟩

/-- A second frame is appended and drawn over while the first one is on display. -/
theorem generation_run_hiddenEdit :
    ∃ img img', (run apply .new [.store twoPixels]).images.lookup 1 = some img
      ∧ (run apply .new ([.store twoPixels] ++ [.putFrame (onePixel (.append 0) (.solidColor 255)),
          .putFrame (onePixel (.edit 2 none) .editTarget)])).images.lookup 1 = some img'
      ∧ img'.pixelGeneration = img.pixelGeneration
      ∧ img'.data = img.data ∧ img'.width = img.width ∧ img'.height = img.height := by
  have hi : (run apply .new [.store twoPixels]).images.lookup 1 = some { twoPixels with lastAccessed := 1 } := by
    decide +kernel
  have hi' : (run apply .new ([.store twoPixels] ++ [.putFrame (onePixel (.append 0) (.solidColor 255)),
      .putFrame (onePixel (.edit 2 none) .editTarget)])).images.lookup 1
        = some { twoPixels with lastAccessed := 1, sharedFrame := some 1 } := by
    decide +kernel
  exact ⟨_, _, hi, hi', rfl, generation_run [.store twoPixels] [.putFrame (onePixel (.append 0) (.solidColor 255)),
    .putFrame (onePixel (.edit 2 none) .editTarget)] (by decide +kernel) 1 _ _ hi hi' rfl⟩

/-- An image is sent again under its id: the new pixels have the generation of the old ones. -/
theorem generation_of_retransmission :
    ((run apply .new [.store twoPixels]).shows 1).map Prod.fst
        = ((run apply .new [.store twoPixels, .store { twoPixels with data := List.replicate 8 255 }]).shows 1).map Prod.fst
      ∧ (run apply .new [.store twoPixels]).shows 1
        ≠ (run apply .new [.store twoPixels, .store { twoPixels with data := List.replicate 8 255 }]).shows 1 := by
  decide +kernel

end CacheOp

end OriTerm.Image
