import OriTerm.Image.Delta

/-!
# `Image.Ids` — the ids that a cache allocates and the ids that it holds

Ids of their own are allocated from the upper half of the `u32` range: the counter starts there, and past the last
`u32` it starts over (`Cache.AutoRange`). Nothing but an allocation moves it: `CacheOp.nextId_apply`.

The images held come from stores: **`CacheOp.holds_apply`**, an operation holds no image that was not held before,
except the one that it stores.
-/

namespace OriTerm.Image

open Lib Option

namespace Cache

variable {c c' : Cache}

/-! ## The counter -/

/-- An automatic id. -/
def AutoId (id : ImageId) : Prop := autoIdStart ≤ id ∧ id < 2 ^ 32

/-- The next id that is allocated is an automatic one. -/
def AutoRange (c : Cache) : Prop := AutoId c.nextId

theorem autoRange_new : Cache.new.AutoRange := ⟨le_rfl, by decide⟩

/-- **The counter stays in the upper half**, also where it wraps around. -/
theorem AutoRange.nextImageId (h : c.AutoRange) : c.nextImageId.1.AutoRange ∧ AutoId c.nextImageId.2 := by
  refine ⟨?_, h⟩
  unfold AutoRange AutoId Cache.nextImageId
  dsimp only
  split
  · exact ⟨le_rfl, by decide⟩
  · next hge => exact ⟨Nat.le_of_not_lt hge, Nat.mod_lt _ (by decide)⟩

/-- The two caches allocate the same id next. -/
def SameNext (c c' : Cache) : Prop := c'.nextId = c.nextId

theorem SameNext.refl (c : Cache) : SameNext c c := rfl

theorem SameNext.trans {c c' c'' : Cache} (h : SameNext c c') (h' : SameNext c' c'') : SameNext c c'' :=
  Eq.trans h' h

theorem sameNext_removeImage (c : Cache) (id : ImageId) : SameNext c (c.removeImage id) := by
  unfold removeImage
  split <;> rfl

theorem sameNext_evictLoop (pinned : ImageId → Bool) (size fuel : Nat) (c : Cache) :
    SameNext c (evictLoop pinned size fuel c).1 :=
  evictLoop_invariant (fun c' v _ h => h.trans (sameNext_removeImage c' v)) size fuel (.refl c)

theorem sameNext_store (c : Cache) (data : Data) : SameNext c (c.store data).1 := by
  have hevicted := sameNext_evictLoop c.reachable data.data.length (c.images.entries.length + 1) c
  unfold store
  dsimp only
  split
  · rfl
  · split
    · exact hevicted
    · exact hevicted.trans (sameNext_removeImage { (evictLoop _ _ _ c).1 with accessCounter := _ } _)

theorem sameNext_storeAnimated (c : Cache) (data : Data) (frames : List (List UInt8)) (durations : List Nanos)
    (loopCount : Option Nat) : SameNext c (c.storeAnimated data frames durations loopCount).1 := by
  cases frames with
  | nil => exact sameNext_store c data
  | cons first rest =>
    have hstored := sameNext_store c { data with data := first }
    have hout := c.storeAnimated_outcome data first rest durations loopCount
    generalize c.storeAnimated data (first :: rest) durations loopCount = r at hout ⊢
    cases hout with
    | oversized => rfl
    | failed _ hstore => exact hstore ▸ hstored
    | stored _ hstore => exact (hstore ▸ hstored).trans rfl

/-- Upkeep allocates no id. -/
theorem upkeepInvariant_sameNext : UpkeepInvariant SameNext :=
  ⟨.trans, fun _ _ _ _ _ _ _ _ => rfl, fun _ _ => rfl, sameNext_removeImage, fun _ => rfl⟩

/-! ### Frames -/

theorem frameInvariant_sameNext : FrameInvariant SameNext := ⟨.trans, fun _ _ _ _ _ _ _ => rfl, fun _ _ _ => rfl⟩

section

variable (c : Cache)

theorem sameNext_pushDeltaFrame (id : ImageId) (base depth area : Nat) (req : FrameLoadRequest)
    (gap : Nanos) : SameNext c (c.pushDeltaFrame id base depth area req gap).1 := by
  have hevicted : SameNext c (c.evictForFrame id req.frameData.length).1 := sameNext_evictLoop ..
  unfold pushDeltaFrame
  dsimp only
  split <;> exact hevicted

theorem sameNext_tryPushDeltaAppend (req : FrameLoadRequest) (imageW imageH : Nat) :
    SameNext c (c.tryPushDeltaAppend req imageW imageH).1 := by
  unfold tryPushDeltaAppend
  split
  · dsimp only
    split
    · rfl
    · next gap n _ _ c₁ hpromoted =>
      have hsame : SameNext c c₁ := by
        split at hpromoted
        · exact frameInvariant_sameNext.autoPromoteStaticRoot hpromoted
        · cases hpromoted
          rfl
      split
      · exact hsame
      · next base _ =>
        generalize (if base.isDelta then base.depth + 1 else 0) = depth
        split
        · exact hsame.trans (sameNext_pushDeltaFrame ..)
        · exact hsame
  · rfl

theorem sameNext_pushComposedFrame (id : ImageId) (composed : List UInt8) (gap : Nanos) :
    SameNext c (c.pushComposedFrame id composed gap).1 := by
  have hevicted : SameNext c (c.evictForFrame id composed.length).1 := sameNext_evictLoop ..
  unfold pushComposedFrame
  dsimp only
  repeat' split
  all_goals first | rfl | exact hevicted

theorem sameNext_putFrame (req : FrameLoadRequest) : SameNext c (c.putFrame req).1 := by
  have hout := c.putFrame_outcome req
  generalize c.putFrame req = r at hout ⊢
  cases hout with
  | rejected | untargeted => rfl
  | pushed _ _ hc' | unsourced _ _ hc' => exact hc' ▸ sameNext_tryPushDeltaAppend ..
  | appended _ _ hc' => exact (hc' ▸ sameNext_tryPushDeltaAppend ..).trans (sameNext_pushComposedFrame ..)
  | edited _ _ hc' => exact hc' ▸ frameInvariant_sameNext.tryEditInPlace ..
  | replaced => exact frameInvariant_sameNext.replaceFrameBytes ..

theorem sameNext_materializeDependent (id : ImageId) (idx : Nat) (canvas : List UInt8) :
    SameNext c (c.materializeDependent id idx canvas) := by
  unfold materializeDependent
  split
  · rfl
  · split <;> rfl

theorem sameNext_removeAnimationFrame (id : ImageId) (frameNumber : Nat) :
    SameNext c (c.removeAnimationFrame id frameNumber).1 := by
  have hall : ∀ (ds : List (Nat × List UInt8)) (c : Cache),
      SameNext c (ds.foldl (fun c d => c.materializeDependent id d.1 d.2) c) := by
    intro ds
    induction ds with
    | nil => exact .refl
    | cons d ds ih => exact fun c => (sameNext_materializeDependent c id d.1 d.2).trans (ih _)
  have hout := c.removeAnimationFrame_outcome id frameNumber
  generalize c.removeAnimationFrame id frameNumber = r at hout ⊢
  cases hout with
  | missing | single => rfl
  | @removed frames c' hf hlong hc' =>
    have hrebuilt : SameNext c c' := hc' ▸ hall _ c
    have hunlinked : SameNext c (c'.unlinkEntry id (deletedIndex frames frameNumber)) := hrebuilt
    exact hunlinked.trans (frameInvariant_sameNext.finishDeletion ..)

end

/-! ## The images held -/

/-- The second cache holds no image that the first does not hold. -/
def HoldsLess (c c' : Cache) : Prop := ∀ id, c'.holds id = true → c.holds id = true

theorem HoldsLess.of_same (h : SameHeld c c') : HoldsLess c c' := fun id hid => (h id).symm.trans hid

theorem HoldsLess.of_survives (h : ∀ id, Survives c c' id) : HoldsLess c c' := by
  intro id hid
  by_contra hmissing
  have hnone : c.images.lookup id = none := by
    unfold holds at hmissing
    rwa [Bool.not_eq_true, isSome_eq_false_iff, isNone_iff_eq_none] at hmissing
  have hgone : c'.images.lookup id = none := by
    rcases h id with hgone | hsame
    · exact hgone.image
    · exact hsame.absent hnone
  unfold holds at hid
  rw [hgone] at hid
  cases hid

theorem HoldsLess.of_evicts {pinned : ImageId → Bool} {victims : List ImageId} (h : Evicts pinned c c' victims) :
    HoldsLess c c' := by
  intro id hid
  rw [h.left, Bool.and_eq_true] at hid
  exact hid.1

/-- What a store holds. -/
theorem holds_stored {r : Cache × Except Error ImageId} {victims : List ImageId} (h : c.StoresSafely r victims)
    {id : ImageId} (hid : r.1.holds id = true) : c.holds id = true ∨ r.2 = .ok id := by
  rw [h.left, Bool.or_eq_true, Bool.and_eq_true] at hid
  refine hid.imp (fun hboth => hboth.1) fun hnew => ?_
  cases hr : r.2 with
  | error e =>
    rw [hr] at hnew
    cases hnew
  | ok stored =>
    rw [hr] at hnew
    rw [show stored = id from some.inj (eq_of_beq hnew)]

end Cache

namespace CacheOp

open Cache

variable {id : ImageId}

/-- The id that the operation stores an image under. -/
def stored (c : Cache) : CacheOp → Option ImageId
  | store data => (c.store data).2.toOption
  | storeAnimated data frames durations loopCount => (c.storeAnimated data frames durations loopCount).2.toOption
  | _ => none

theorem ok_of_toOption {r : Except Error ImageId} (h : r.toOption = some id) : r = .ok id := by
  cases r with
  | error e => cases h
  | ok stored => rw [show stored = id from some.inj h]

/-- An image is stored under its id. -/
theorem stored_store {c : Cache} {data : Data} (h : (store data).stored c = some id) : id = data.id := by
  obtain ⟨victims, -, hspec⟩ := store_spec c data
  exact (hspec id (ok_of_toOption h)).1

theorem stored_storeAnimated {c : Cache} {data : Data} {frames : List (List UInt8)} {durations : List Nanos}
    {loopCount : Option Nat} (h : (storeAnimated data frames durations loopCount).stored c = some id) :
    id = data.id := by
  have hok := ok_of_toOption h
  cases frames with
  | nil => exact stored_store h
  | cons first rest =>
    obtain ⟨victims, -, hspec⟩ := storeAnimated_spec c data (first :: rest) durations loopCount rfl
    exact (hspec id hok).1

/-- **Only an allocation moves the counter.** -/
theorem nextId_apply (c : Cache) (op : CacheOp) : SameNext c (op.apply c) ∨ op = nextImageId := by
  have hplays : op.Plays → SameNext c (op.apply c) := frameInvariant_sameNext.toAnimationInvariant.apply c op
  have hupkeep : op.Upkeep → SameNext c (op.apply c) := upkeepInvariant_sameNext.apply c op
  cases op with
  | nextImageId => exact .inr rfl
  | store data => exact .inl (sameNext_store c data)
  | storeAnimated data frames durations loopCount => exact .inl (sameNext_storeAnimated c data frames durations loopCount)
  | putFrame req => exact .inl (sameNext_putFrame c req)
  | composeFrame req => exact .inl (frameInvariant_sameNext.composeFrame ..)
  | removeAnimationFrame id frameNumber => exact .inl (sameNext_removeAnimationFrame c id frameNumber)
  | ensureAnimationStateForRootGap id gapUpdate => exact .inl (frameInvariant_sameNext.ensureAnimationStateForRootGap ..)
  | setAnimationEnabled | setAnimationAction | setAnimationLoops | setFrameGap | setCurrentFrame | advanceAnimations =>
    exact .inl (hplays trivial)
  | _ => exact .inl (hupkeep trivial)

theorem autoRange_apply {c : Cache} (h : c.AutoRange) (op : CacheOp) : (op.apply c).AutoRange := by
  rcases nextId_apply c op with hsame | rfl
  · unfold AutoRange
    rw [hsame]
    exact h
  · exact h.nextImageId.1

/-- **Only a store brings in an image.** -/
theorem holds_apply (c : Cache) (op : CacheOp) (hid : (op.apply c).holds id = true) :
    c.holds id = true ∨ op.stored c = some id := by
  have hsafe := op.evictsSafely c
  have hok : ∀ {r : Except Error ImageId}, r = .ok id → r.toOption = some id := by
    rintro _ rfl
    rfl
  have hupkeep : op.Upkeep → ∀ x, Survives c (op.apply c) x := upkeepInvariant_survives.apply c op
  cases op with
  | store | storeAnimated =>
    obtain ⟨victims, hstored⟩ := hsafe
    exact (holds_stored hstored hid).imp_right hok
  | setMemoryLimit | putFrame =>
    obtain ⟨victims, hevicts⟩ := hsafe
    exact .inl (HoldsLess.of_evicts hevicts id hid)
  | removeImage | clear | pruneIfOrphaned | pruneScrollback | removePlacementsInRegion | onResize =>
    exact .inl (HoldsLess.of_survives (hupkeep trivial) id hid)
  | _ => exact .inl (HoldsLess.of_same hsafe id hid)

end CacheOp

end OriTerm.Image
