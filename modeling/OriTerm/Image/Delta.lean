import OriTerm.Lib.DeltaChain
import OriTerm.Image.Eviction

/-!
# `Image.Delta` — stored deltas against frames stored whole

A frame may be stored as a delta over another frame of its image (`Image.Frames`). The reference is a store that
keeps every frame as composed pixels (`EagerStore`), for the images the cache holds and the operations it carries
out. **`Represents`** says that the stored frames of an image stand for those of the reference, with a well-founded
delta chain; every operation keeps it, except that an edit or a composition must not write over a frame that a
stored delta is based on (`CacheOp.KeepsBases`): nothing rebuilds the deltas there.
-/

namespace OriTerm.Image

open Lib List Option AList

variable (s : EagerStore) (id : ImageId)

variable {idx : Nat}

/-! ## Delta chains -/

/-- The frame that a delta is composed onto. -/
def FrameEntry.base : FrameEntry → Option Nat
  | materialized _ _ => none
  | delta _ base _ _ _ _ _ => some base

/-- The stored frames of an image of the given size, as a chain of deltas. -/
def frameChain (width height : Nat) : DeltaChain FrameEntry (List UInt8) where
  id := FrameEntry.id
  base := FrameEntry.base
  full
    | .materialized _ data => some data
    | .delta .. => none
  patch e canvas :=
    match e with
    | .materialized _ data => some data
    | .delta _ _ subRect payload mode _ _ => (blitSubrectIntoCanvas canvas payload width height subRect mode).toOption

/-- **The delta chains of an image are well founded.** Frame ids are distinct; the base of a delta is stored, has a
    smaller id, and if it is a delta itself a smaller depth; no depth exceeds the bound. -/
structure WellChained (frames : List FrameEntry) : Prop where
  distinct : (frames.map FrameEntry.id).Nodup
  base : ∀ e ∈ frames, ∀ b, e.base = some b →
    ∃ d ∈ frames, d.id = b ∧ b < e.id ∧ (d.isDelta = true → d.depth < e.depth)
  depth : ∀ e ∈ frames, e.depth ≤ maxDeltaChainDepth

variable {w h : Nat} {frames : List FrameEntry} {canvases : List (List UInt8)}

theorem isSome_base (e : FrameEntry) : e.base.isSome = e.isDelta := by cases e <;> rfl

theorem WellChained.chained (hw : WellChained frames) (w h : Nat) : (frameChain w h).Chained frames where
  distinct := hw.distinct
  base e he b hb := by
    obtain ⟨d, hd, hid, hlt, _⟩ := hw.base e he b hb
    exact ⟨d, hd, hid, hlt⟩

variable {e : FrameEntry}

/-- The chain of a delta reaches a full canvas in at most four deltas. -/
theorem WellChained.endsWithin (hw : WellChained frames) (w h : Nat) (he : e ∈ frames) :
    (frameChain w h).EndsWithin frames (maxDeltaChainDepth + 1) e := by
  refine DeltaChain.EndsWithin.mono (DeltaChain.endsWithin_of_measure (fun e he b hb => ?_) he)
    (Nat.succ_le_succ (hw.depth e he))
  obtain ⟨d, hd, hid, _, hdepth⟩ := hw.base e he b hb
  refine ⟨d, hd, hid, fun hbase => hdepth ?_⟩
  rw [← isSome_base]
  exact hbase

/-! ## Frames and the pixels they stand for -/

/-- The stored frames stand for the given canvases. -/
structure FramesOk (w h : Nat) (frames : List FrameEntry) (canvases : List (List UInt8)) : Prop where
  chained : WellChained frames
  length : canvases.length = frames.length
  resolves : ∀ (i : Nat) (e : FrameEntry) (x : List UInt8), frames[i]? = some e → canvases[i]? = some x → (frameChain w h).Resolves frames e x

/-- Nothing is based on the entry. -/
def Unreferenced (frames : List FrameEntry) (e : FrameEntry) : Prop := ∀ d ∈ frames, d.base ≠ some e.id

theorem FramesOk.canvas (hok : FramesOk w h frames canvases) {i : Nat} (he : frames[i]? = some e) :
    ∃ x, canvases[i]? = some x ∧ (frameChain w h).Resolves frames e x := by
  have hlt := (List.getElem?_eq_some_iff.mp he).1
  rw [← hok.length] at hlt
  have hx := getElem?_eq_getElem hlt
  exact ⟨_, hx, hok.resolves i e _ he hx⟩

/-- A full canvas stands for its own pixels. -/
theorem resolves_materialized {fid : Nat} {data x : List UInt8}
    (hr : (frameChain w h).Resolves frames (.materialized fid data) x) : x = data := by
  cases hr with
  | full _ hfull => exact (some.inj hfull).symm
  | patch hbase => cases hbase

theorem mem_set_of_ne {d : FrameEntry} (he : frames[idx]? = some e) (hd : d ∈ frames) (hne : d ≠ e)
    (x : FrameEntry) : d ∈ frames.set idx x := by
  obtain ⟨j, hj⟩ := mem_iff_getElem?.mp hd
  refine List.mem_iff_getElem?.mpr ⟨j, ?_⟩
  rw [getElem?_set_ne]
  · exact hj
  · rintro rfl
    exact hne (some.inj (hj.symm.trans he))

/-- **A frame is appended.** -/
theorem FramesOk.append (hok : FramesOk w h frames canvases) {x : List UInt8} (hfresh : ∀ d ∈ frames, d.id < e.id)
    (hdepth : e.depth ≤ maxDeltaChainDepth)
    (hbase : ∀ b, e.base = some b → ∃ d ∈ frames, d.id = b ∧ (d.isDelta = true → d.depth < e.depth))
    (hx : (frameChain w h).Resolves (frames ++ [e]) e x) : FramesOk w h (frames ++ [e]) (canvases ++ [x]) := by
  have hsub : frames ⊆ frames ++ [e] := fun d hd => mem_append_left _ hd
  refine ⟨⟨?_, fun d hd b hb => ?_, fun d hd => ?_⟩, ?_, fun i d y hd hy => ?_⟩
  · rw [map_append]
    refine hok.chained.distinct.append (nodup_singleton _) fun n hn hn' => ?_
    obtain ⟨d, hd, rfl⟩ := List.mem_map.mp hn
    have heq : d.id = e.id := mem_singleton.mp hn'
    exact (Nat.ne_of_lt (hfresh d hd)) heq
  · rcases mem_append.mp hd with hd | hd
    · obtain ⟨d', hd', hrest⟩ := hok.chained.base d hd b hb
      exact ⟨d', hsub hd', hrest⟩
    · rw [mem_singleton] at hd
      subst hd
      obtain ⟨d', hd', rfl, hdepth'⟩ := hbase b hb
      exact ⟨d', hsub hd', rfl, hfresh d' hd', hdepth'⟩
  · rcases mem_append.mp hd with hd | hd
    · exact hok.chained.depth d hd
    · rw [mem_singleton] at hd
      subst hd
      exact hdepth
  · rw [length_append, length_append, hok.length]
    rfl
  · by_cases hi : i < frames.length
    · rw [getElem?_append_left hi] at hd
      rw [getElem?_append_left (by rw [hok.length]; exact hi)] at hy
      exact (hok.resolves i d y hd hy).mono hsub (List.mem_of_getElem? hd)
    · rw [getElem?_append_right (by omega)] at hd
      rw [getElem?_append_right (by rw [hok.length]; omega), hok.length] at hy
      obtain ⟨hlt, rfl⟩ := List.getElem?_eq_some_iff.mp hd
      have hzero : i - frames.length = 0 := by
        rw [length_singleton] at hlt
        omega
      rw [hzero] at hy
      cases hy
      simpa only [hzero, getElem_cons_zero] using hx

/-- The ids stay distinct when an entry is written under its own id or a fresh one. -/
theorem nodup_ids_set (hd : (frames.map FrameEntry.id).Nodup) (he : frames[idx]? = some e) {fid : Nat}
    (hfid : fid = e.id ∨ ∀ d ∈ frames, d.id ≠ fid) (x : List UInt8) :
    ((frames.set idx (.materialized fid x)).map FrameEntry.id).Nodup := by
  rw [map_set]
  rcases hfid with rfl | hfresh
  · have hat : (frames.map FrameEntry.id)[idx]? = some e.id := by rw [getElem?_map, he]; rfl
    show ((frames.map FrameEntry.id).set idx e.id).Nodup
    obtain ⟨_, hat⟩ := List.getElem?_eq_some_iff.mp hat
    rw [← hat, set_getElem_self]
    exact hd
  · refine hd.set fun hmem => ?_
    obtain ⟨d, hd, hid⟩ := List.mem_map.mp hmem
    exact hfresh d hd hid

section

variable (hok : FramesOk w h frames canvases) (he : frames[idx]? = some e)
include hok he

/-- **A frame that nothing is based on is replaced** by a full canvas, under its own id or a fresh one. -/
theorem FramesOk.replace
    (hun : Unreferenced frames e) {fid : Nat} (hfid : fid = e.id ∨ ∀ d ∈ frames, d.id ≠ fid) (x : List UInt8) :
    FramesOk w h (frames.set idx (.materialized fid x)) (canvases.set idx x) := by
  have hkept : ∀ d ∈ frames, (∃ e' ∈ frames, e'.base = some d.id) → d ∈ frames.set idx (.materialized fid x) := by
    rintro d hd ⟨e', he', hbase⟩
    refine mem_set_of_ne he hd ?_ _
    rintro rfl
    exact hun e' he' hbase
  have hlt := (List.getElem?_eq_some_iff.mp he).1
  refine ⟨⟨nodup_ids_set hok.chained.distinct he hfid x, fun d hd b hb => ?_, fun d hd => ?_⟩, ?_, fun i d y hd hy => ?_⟩
  · rcases List.mem_or_eq_of_mem_set hd with hd | rfl
    · obtain ⟨d', hd', rfl, hrest⟩ := hok.chained.base d hd b hb
      exact ⟨d', hkept d' hd' ⟨d, hd, hb⟩, rfl, hrest⟩
    · cases hb
  · rcases List.mem_or_eq_of_mem_set hd with hd | rfl
    · exact hok.chained.depth d hd
    · exact Nat.zero_le _
  · rw [length_set, length_set, hok.length]
  · by_cases hi : i = idx
    · subst hi
      rw [getElem?_set_self hlt] at hd
      rw [getElem?_set_self (by rw [hok.length]; exact hlt)] at hy
      cases hd
      cases hy
      exact .full rfl rfl
    · rw [getElem?_set_ne (Ne.symm hi)] at hd hy
      refine (hok.resolves i d y hd hy).transfer (fun d' hd' href => ?_) (List.mem_of_getElem? hd) (.refl ..)
      exact ⟨d', hkept d' hd' href, .refl ..⟩

/-- **A delta is rebuilt** as a full canvas, under its id. -/
theorem FramesOk.rebuild {x : List UInt8} (hx : canvases[idx]? = some x) :
    FramesOk w h (frames.set idx (.materialized e.id x)) canvases := by
  have hmem := List.mem_of_getElem? he
  have hlt := (List.getElem?_eq_some_iff.mp he).1
  have hnew : FrameEntry.materialized e.id x ∈ frames.set idx (.materialized e.id x) :=
    List.mem_iff_getElem?.mpr ⟨idx, getElem?_set_self hlt⟩
  have hrestates : (frameChain w h).Restates frames e (.materialized e.id x) := by
    refine ⟨rfl, .inr ⟨rfl, fun a ha => ?_⟩⟩
    exact congrArg some ((hok.resolves idx e x he hx).unique (hok.chained.chained w h) ha hmem)
  refine ⟨⟨nodup_ids_set hok.chained.distinct he (.inl rfl) x, fun d hd b hb => ?_, fun d hd => ?_⟩,
    by rw [length_set, hok.length], fun i d y hd hy => ?_⟩
  · rcases List.mem_or_eq_of_mem_set hd with hd | rfl
    · obtain ⟨d', hd', rfl, hlt', hdepth⟩ := hok.chained.base d hd b hb
      by_cases hde : d' = e
      · subst hde
        exact ⟨_, hnew, rfl, hlt', nofun⟩
      · exact ⟨d', mem_set_of_ne he hd' hde _, rfl, hlt', hdepth⟩
    · cases hb
  · rcases List.mem_or_eq_of_mem_set hd with hd | rfl
    · exact hok.chained.depth d hd
    · exact Nat.zero_le _
  · have htransfer : ∀ d' ∈ frames, (frameChain w h).Referenced frames d' →
        ∃ d'' ∈ frames.set idx (.materialized e.id x), (frameChain w h).Restates frames d' d'' := by
      intro d' hd' _
      by_cases hde : d' = e
      · subst hde
        exact ⟨_, hnew, hrestates⟩
      · exact ⟨d', mem_set_of_ne he hd' hde _, .refl ..⟩
    by_cases hi : i = idx
    · subst hi
      rw [getElem?_set_self hlt] at hd
      cases hd
      rw [hx] at hy
      cases hy
      exact .full rfl rfl
    · rw [getElem?_set_ne (Ne.symm hi)] at hd
      exact (hok.resolves i d y hd hy).transfer htransfer (List.mem_of_getElem? hd) (.refl ..)

end

theorem mem_eraseIdx_of_ne {d : FrameEntry} (he : frames[idx]? = some e) (hd : d ∈ frames) (hne : d ≠ e) :
    d ∈ frames.eraseIdx idx := by
  obtain ⟨j, hj⟩ := mem_iff_getElem?.mp hd
  have hji : j ≠ idx := by
    rintro rfl
    exact hne (some.inj (hj.symm.trans he))
  refine List.mem_iff_getElem?.mpr ?_
  by_cases hlt : j < idx
  · exact ⟨j, by rw [List.getElem?_eraseIdx_of_lt hlt]; exact hj⟩
  · obtain ⟨k, rfl⟩ : ∃ k, j = k + 1 := ⟨j - 1, by omega⟩
    exact ⟨k, by rw [List.getElem?_eraseIdx_of_ge (by omega)]; exact hj⟩

/-- **A frame that nothing is based on is deleted.** -/
theorem FramesOk.erase (hok : FramesOk w h frames canvases) (he : frames[idx]? = some e)
    (hun : Unreferenced frames e) : FramesOk w h (frames.eraseIdx idx) (canvases.eraseIdx idx) := by
  have hkept : ∀ d ∈ frames, (∃ e' ∈ frames, e'.base = some d.id) → d ∈ frames.eraseIdx idx := by
    rintro d hd ⟨e', he', hbase⟩
    refine mem_eraseIdx_of_ne he hd ?_
    rintro rfl
    exact hun e' he' hbase
  have hsub : frames.eraseIdx idx ⊆ frames := (List.eraseIdx_sublist frames idx).subset
  have hlt := (List.getElem?_eq_some_iff.mp he).1
  refine ⟨⟨?_, fun d hd b hb => ?_, fun d hd => hok.chained.depth d (hsub hd)⟩, ?_, fun i d y hd hy => ?_⟩
  · exact hok.chained.distinct.sublist ((List.eraseIdx_sublist frames idx).map _)
  · obtain ⟨d', hd', rfl, hrest⟩ := hok.chained.base d (hsub hd) b hb
    exact ⟨d', hkept d' hd' ⟨d, hsub hd, hb⟩, rfl, hrest⟩
  · rw [length_eraseIdx_of_lt hlt, length_eraseIdx_of_lt (by rw [hok.length]; exact hlt), hok.length]
  · have hresolves : (frameChain w h).Resolves frames d y := by
      by_cases hi : i < idx
      · rw [List.getElem?_eraseIdx_of_lt hi] at hd hy
        exact hok.resolves i d y hd hy
      · rw [List.getElem?_eraseIdx_of_ge (by omega)] at hd hy
        exact hok.resolves (i + 1) d y hd hy
    exact hresolves.transfer (fun d' hd' href => ⟨d', hkept d' hd' href, .refl ..⟩) (hsub (List.mem_of_getElem? hd)) (.refl ..)

/-- Frames stored whole. -/
theorem framesOk_mapIdx (w h : Nat) (canvases : List (List UInt8)) (next : Nat) :
    FramesOk w h (canvases.mapIdx fun i data => .materialized (next + i) data) canvases := by
  have hat : ∀ {e : FrameEntry}, e ∈ (canvases.mapIdx fun i data => FrameEntry.materialized (next + i) data) →
      ∃ i data, e = .materialized (next + i) data := by
    intro e he
    obtain ⟨i, hi, rfl⟩ := mem_mapIdx.mp he
    exact ⟨i, _, rfl⟩
  refine ⟨⟨?_, fun d hd b hb => ?_, fun d hd => ?_⟩, by rw [length_mapIdx], fun i d y hd hy => ?_⟩
  · refine pairwise_iff_getElem.mpr fun i j hi hj hij => ?_
    rw [getElem_map, getElem_map, getElem_mapIdx, getElem_mapIdx]
    exact fun heq => absurd (Nat.add_left_cancel (show next + i = next + j from heq)) (Nat.ne_of_lt hij)
  · obtain ⟨i, data, rfl⟩ := hat hd
    cases hb
  · obtain ⟨i, data, rfl⟩ := hat hd
    exact Nat.zero_le _
  · rw [getElem?_mapIdx, hy] at hd
    cases hd
    exact .full rfl rfl

/-! ## The reference -/

/-- An image every frame of which is stored as composed pixels. -/
structure EagerImage where
  width : Nat
  height : Nat
  frames : List (List UInt8)

namespace EagerImage

variable (img : EagerImage)

/-- A frame by its 1-based number. -/
def frame (n : Nat) : Option (List UInt8) := if n = 0 then none else img.frames[n - 1]?

/-- The canvas of a frame request. -/
def canvas (img : EagerImage) (req : FrameLoadRequest) : Option (List UInt8) :=
  match req.canvas, req.target with
  | .solidColor rgba, _ => some (List.replicate (img.width * img.height) (rgbaToBytes rgba)).flatten
  | .frame n, _ => img.frame n
  | .editTarget, .edit n _ => img.frame n
  | .editTarget, .append _ => none

/-- Loads a frame. -/
def putFrame (req : FrameLoadRequest) : Option EagerImage := do
  let canvas ← img.canvas req
  let composed ←
    (blitSubrectIntoCanvas canvas req.frameData img.width img.height req.blit req.compositionMode).toOption
  match req.target with
  | .append _ => some { img with frames := img.frames ++ [composed] }
  | .edit n _ => some { img with frames := img.frames.set (n - 1) composed }

/-- Composes a rectangle of one frame onto another. -/
def composeFrame (req : ComposeRequest) : Option EagerImage := do
  let src ← img.frame req.srcFrame
  let dst ← img.frame req.dstFrame
  let width := if req.width = 0 then img.width else req.width
  let height := if req.height = 0 then img.height else req.height
  let payload := Cache.extractRect src img.width req.srcX req.srcY width height
  let blit := { destX := req.dstX, destY := req.dstY, width, height }
  let composed ← (blitSubrectIntoCanvas dst payload img.width img.height blit req.mode).toOption
  some { img with frames := img.frames.set (req.dstFrame - 1) composed }

/-- Deletes a frame; the last one stays. -/
def removeFrame (frameNumber : Nat) : EagerImage :=
  if img.frames.length ≤ 1 then img
  else
    { img with
      frames := img.frames.eraseIdx (min (if frameNumber = 0 then 1 else frameNumber) img.frames.length - 1) }

end EagerImage

/-- The reference store: the images by id. -/
abbrev EagerStore := ImageId → Option EagerImage

/-- An image is put under an id. -/
def EagerStore.insert (img : EagerImage) : EagerStore :=
  fun x => if x = id then some img else s x

/-- The image of an id is changed. -/
def EagerStore.modify (f : EagerImage → Option EagerImage) : EagerStore :=
  fun x => if x = id then (s x).bind f else s x

/-- The pixels of a frame. -/
def EagerStore.frameForNumber (n : Nat) : Option (List UInt8) :=
  (s id).bind fun img => img.frame n

/-- The cache carries the operation out. -/
def CacheOp.succeeds (c : Cache) : CacheOp → Bool
  | store data => (c.store data).2.isOk
  | storeAnimated data frames durations loopCount => (c.storeAnimated data frames durations loopCount).2.isOk
  | putFrame req => (c.putFrame req).2.isOk
  | composeFrame req => (c.composeFrame req).2.isOk
  | _ => true

/-- What an operation that is carried out does to the reference. -/
def CacheOp.eager : CacheOp → EagerStore
  | store data => s.insert data.id ⟨data.width, data.height, [data.data]⟩
  | storeAnimated data frames _ _ =>
    s.insert data.id ⟨data.width, data.height, if frames = [] then [data.data] else frames⟩
  | putFrame req => s.modify req.imageId (·.putFrame req)
  | composeFrame req => s.modify req.imageId (·.composeFrame req)
  | removeAnimationFrame id frameNumber => s.modify id fun img => some (img.removeFrame frameNumber)
  | _ => s

/-- The images that a cache still holds. -/
def EagerStore.heldBy (c : Cache) : EagerStore := fun x => if c.holds x then s x else none

/-- **The cache and the reference, side by side.** The reference takes part in the operations that the cache carries
    out, and loses the images that the cache evicts or deletes. -/
def CacheOp.applyBoth (p : Cache × EagerStore) (op : CacheOp) : Cache × EagerStore :=
  (op.apply p.1, (if op.succeeds p.1 then op.eager p.2 else p.2).heldBy (op.apply p.1))

/-! ## The relation -/

namespace Cache

variable {n : Nat}

/-- An image with stored frames, which stand for the canvases. A single stored frame is a full canvas on display. -/
structure Animated (c : Cache) (id : ImageId) (img : Data) (frames : List FrameEntry) (state : AnimationState)
    (canvases : List (List UInt8)) : Prop where
  image : c.images.lookup id = some img
  stored : c.animationFrames.lookup id = some frames
  playing : c.animations.lookup id = some state
  ok : FramesOk img.width img.height frames canvases
  below : ∀ e ∈ frames, e.id < c.nextFrameId
  total : state.totalFrames = frames.length
  current : state.currentFrame < frames.length
  single : ∀ e, frames = [e] → e = .materialized e.id img.data ∧ img.sharedFrame = some e.id

/-- **The cache represents an image of the reference** under an id. -/
inductive Represents (c : Cache) (id : ImageId) : Option EagerImage → Prop
  | absent (hi : c.images.lookup id = none) (hf : c.animationFrames.lookup id = none)
      (ha : c.animations.lookup id = none) : Represents c id none
  | static (img : Data) (hi : c.images.lookup id = some img) (hf : c.animationFrames.lookup id = none)
      (ha : c.animations.lookup id = none) : Represents c id (some ⟨img.width, img.height, [img.data]⟩)
  | animated {img : Data} {frames : List FrameEntry} {state : AnimationState} {canvases : List (List UInt8)}
      (h : c.Animated id img frames state canvases) : Represents c id (some ⟨img.width, img.height, canvases⟩)

variable {c c' c'' : Cache} {id : ImageId} {img : Data} {frames : List FrameEntry} {state : AnimationState}
  {canvases : List (List UInt8)} {e : Option EagerImage}

theorem Animated.represents (hanim : c.Animated id img frames state canvases) (hw : img.width = w)
    (hh : img.height = h) : c.Represents id (some ⟨w, h, canvases⟩) := by
  subst hw hh
  exact .animated hanim

/-- Resolving a stored frame is resolving its chain. -/
theorem composeEntry_eq_resolve (hi : c.images.lookup id = some img) (frames : List FrameEntry) (fuel : Nat)
    (entry : FrameEntry) :
    c.composeEntry id frames fuel entry = (frameChain img.width img.height).resolve frames fuel entry := by
  induction fuel generalizing entry with
  | zero => cases entry <;> rfl
  | succ fuel ih =>
    cases entry with
    | materialized fid data => rfl
    | delta fid base subRect payload mode depth area =>
      unfold composeEntry
      rw [hi]
      show (frames.find? (·.id == base)).bind (fun b => (c.composeEntry id frames fuel b).bind fun canvas =>
          (some img).bind fun i => (blitSubrectIntoCanvas canvas payload i.width i.height subRect mode).toOption)
        = ((frames.find? (·.id == base)).bind ((frameChain img.width img.height).resolve frames fuel)).bind
          ((frameChain img.width img.height).patch (.delta fid base subRect payload mode depth area))
      rw [bind_assoc]
      refine congrArg _ (funext fun b => ?_)
      rw [ih]
      rfl

variable {entry : FrameEntry}

theorem Animated.resolveEntry (h : c.Animated id img frames state canvases) {i : Nat} {x : List UInt8}
    (he : frames[i]? = some entry) (hx : canvases[i]? = some x) : c.resolveEntry id entry = some x := by
  unfold Cache.resolveEntry
  rw [h.stored]
  rw [composeEntry_eq_resolve h.image]
  exact (h.ok.chained.chained _ _).resolve_eq (h.ok.resolves i entry x he hx) (List.mem_of_getElem? he)

/-- **Frames resolve to those of the reference.** -/
theorem Represents.frameForNumber (h : c.Represents id e) (n : Nat) :
    c.frameForNumber id n = e.bind fun img => img.frame n := by
  unfold Cache.frameForNumber
  by_cases hn : n = 0
  · rw [if_pos hn]
    cases e with
    | none => rfl
    | some img =>
      show none = img.frame n
      unfold EagerImage.frame
      rw [if_pos hn]
  · rw [if_neg hn]
    cases h with
    | absent hi hf ha =>
      rw [hi, hf]
      split <;> rfl
    | static img hi hf ha =>
      show _ = EagerImage.frame ⟨img.width, img.height, [img.data]⟩ n
      unfold EagerImage.frame
      rw [hi, hf, ha]
      by_cases hone : n = 1
      · subst hone
        rfl
      · obtain ⟨k, rfl⟩ : ∃ k, n = k + 2 := ⟨n - 2, by omega⟩
        rfl
    | @animated img frames state canvases h =>
      show _ = EagerImage.frame ⟨img.width, img.height, canvases⟩ n
      unfold EagerImage.frame
      rw [h.playing, if_neg hn, if_neg fun hh => Bool.false_ne_true hh.2, h.stored]
      show (frames[n - 1]?).bind (fun entry => c.resolveEntry id entry) = canvases[n - 1]?
      cases hentry : frames[n - 1]? with
      | none =>
        refine (getElem?_eq_none ?_).symm
        rw [h.ok.length]
        exact getElem?_eq_none_iff.mp hentry
      | some entry =>
        obtain ⟨x, hx, _⟩ := h.ok.canvas hentry
        rw [hx]
        exact h.resolveEntry hentry hx

/-! ## What leaves an image alone -/

/-- The image of an id is as before: its pixels and dimensions, its stored frames and their states. -/
structure SameImage (c c' : Cache) (id : ImageId) : Prop where
  image : ∀ img, c.images.lookup id = some img → ∃ img', c'.images.lookup id = some img' ∧ img'.data = img.data
    ∧ img'.width = img.width ∧ img'.height = img.height ∧ img'.sharedFrame = img.sharedFrame
  absent : c.images.lookup id = none → c'.images.lookup id = none
  frames : c'.animationFrames.lookup id = c.animationFrames.lookup id
  states : c'.animations.lookup id = c.animations.lookup id
  next : c.nextFrameId ≤ c'.nextFrameId

theorem SameImage.of_eq (hi : c'.images.lookup id = c.images.lookup id)
    (hf : c'.animationFrames.lookup id = c.animationFrames.lookup id)
    (ha : c'.animations.lookup id = c.animations.lookup id) (hn : c.nextFrameId ≤ c'.nextFrameId) : SameImage c c' id :=
  ⟨fun img h => ⟨img, hi.trans h, rfl, rfl, rfl, rfl⟩, fun h => hi.trans h, hf, ha, hn⟩

variable {state' : AnimationState}

/-- The stored frames are the same; the pixels on display are those of before, or of a stored frame. -/
theorem Animated.redisplay (h : c.Animated id img frames state canvases) {img' : Data}
    (hi : c'.images.lookup id = some img') (hf : c'.animationFrames.lookup id = some frames)
    (ha : c'.animations.lookup id = some state') (hn : c.nextFrameId ≤ c'.nextFrameId) (hw : img'.width = img.width)
    (hh : img'.height = img.height) (ht : state'.totalFrames = state.totalFrames)
    (hc : state'.currentFrame < frames.length)
    (hd : (img'.data = img.data ∧ img'.sharedFrame = img.sharedFrame) ∨ ∃ fid, FrameEntry.materialized fid img'.data ∈ frames ∧ img'.sharedFrame = some fid) :
    c'.Animated id img' frames state' canvases := by
  refine ⟨hi, hf, ha, ?_, fun e he => Nat.lt_of_lt_of_le (h.below e he) hn, ht.trans h.total, hc, fun e he => ?_⟩
  · rw [hw, hh]
    exact h.ok
  · rcases hd with ⟨hdata, hshared⟩ | ⟨fid, hmem, hshared⟩
    · rw [hdata, hshared]
      exact h.single e he
    · rw [he, mem_singleton] at hmem
      subst hmem
      exact ⟨rfl, hshared⟩

theorem SameImage.represents (hs : SameImage c c' id) (h : c.Represents id e) : c'.Represents id e := by
  cases h with
  | absent hi hf ha => exact .absent (hs.absent hi) (hs.frames.trans hf) (hs.states.trans ha)
  | static img hi hf ha =>
    obtain ⟨img', hi', hdata, hw, hh, _⟩ := hs.image img hi
    rw [← hdata, ← hw, ← hh]
    exact .static img' hi' (hs.frames.trans hf) (hs.states.trans ha)
  | animated h =>
    obtain ⟨img', hi', hdata, hw, hh, hshared⟩ := hs.image _ h.image
    rw [← hw, ← hh]
    exact .animated (h.redisplay hi' (hs.frames.trans h.stored) (hs.states.trans h.playing) hs.next hw hh rfl h.current
      (.inl ⟨hdata, hshared⟩))

/-- Nothing is left under the id. -/
structure Gone (c : Cache) (id : ImageId) : Prop where
  image : c.images.lookup id = none
  frames : c.animationFrames.lookup id = none
  states : c.animations.lookup id = none

/-- The image of an id was lost, or is as before. -/
def Survives (c c' : Cache) (id : ImageId) : Prop := c'.Gone id ∨ SameImage c c' id

theorem SameImage.refl (c : Cache) (id : ImageId) : SameImage c c id := .of_eq rfl rfl rfl (Nat.le_refl _)

theorem SameImage.trans (h : SameImage c c' id) (h' : SameImage c' c'' id) : SameImage c c'' id := by
  refine ⟨fun img hi => ?_, fun hi => h'.absent (h.absent hi), h'.frames.trans h.frames, h'.states.trans h.states,
    Nat.le_trans h.next h'.next⟩
  obtain ⟨img', hi', hdata, hw, hh, hshared⟩ := h.image img hi
  obtain ⟨img'', hi'', hdata', hw', hh', hshared'⟩ := h'.image img' hi'
  exact ⟨img'', hi'', hdata'.trans hdata, hw'.trans hw, hh'.trans hh, hshared'.trans hshared⟩

theorem SameImage.gone (h : SameImage c c' id) (hg : c.Gone id) : c'.Gone id :=
  ⟨h.absent hg.image, h.frames.trans hg.frames, h.states.trans hg.states⟩

theorem Survives.trans (h : Survives c c' id) (h' : Survives c' c'' id) : Survives c c'' id := by
  rcases h' with hg | hs'
  · exact .inl hg
  · rcases h with hg | hs
    · exact .inl (hs'.gone hg)
    · exact .inr (hs.trans hs')

theorem Represents.survives (h : c.Represents id e) (hs : Survives c c' id) :
    c'.Represents id (if c'.holds id then e else none) := by
  rcases hs with hg | hs
  · unfold holds
    rw [hg.image]
    exact .absent hg.image hg.frames hg.states
  · have h' := hs.represents h
    cases h' with
    | absent hi hf ha => rw [ite_self]; exact .absent hi hf ha
    | static img hi hf ha =>
      rw [if_pos (holds_eq_true.mpr ⟨img, hi⟩)]
      exact .static img hi hf ha
    | animated h' =>
      rw [if_pos (holds_eq_true.mpr ⟨_, h'.image⟩)]
      exact .animated h'

/-- Removing an image loses that one. -/
theorem survives_removeImage (c : Cache) (v x : ImageId) : Survives c (c.removeImage v) x := by
  by_cases hx : x = v
  · subst hx
    unfold removeImage
    split
    · exact .inr (.refl c x)
    · exact .inl ⟨lookup_erase .., lookup_erase .., lookup_erase ..⟩
  · obtain ⟨hi, hf, ha⟩ := removeImage_lookup_ne c hx
    refine .inr (.of_eq hi hf ha ?_)
    unfold removeImage
    split <;> exact Nat.le_refl _

theorem survives_evictLoop (pinned : ImageId → Bool) (size fuel : Nat) (c : Cache) (x : ImageId) :
    Survives c (evictLoop pinned size fuel c).1 x :=
  evictLoop_invariant (P := (Survives c · x)) (fun c' v _ h => h.trans (survives_removeImage c' v x)) size fuel
    (.inr (.refl c x))

/-- Upkeep loses images, or leaves them as they are. -/
theorem upkeepInvariant_survives : UpkeepInvariant fun c c' => ∀ x, Survives c c' x where
  trans h h' x := (h x).trans (h' x)
  books _ _ _ _ _ _ _ _ _ := .inr (.of_eq rfl rfl rfl (Nat.le_refl _))
  touch {c id img} n hi x := by
    by_cases hx : x = id
    · subst hx
      refine .inr ⟨fun img' hi' => ?_, fun hnone => ?_, rfl, rfl, Nat.le_refl _⟩
      · cases hi.symm.trans hi'
        exact ⟨{ img with lastAccessed := n }, lookup_insert _, rfl, rfl, rfl, rfl⟩
      · cases hi.symm.trans hnone
    · exact .inr (.of_eq (lookup_insert_ne hx) rfl rfl (Nat.le_refl _))
  remove c id x := survives_removeImage c id x
  clear _ _ := .inl ⟨rfl, rfl, rfl⟩

/-! ## The relation between the stores -/

/-- The cache represents every image of the reference. -/
def Matches (c : Cache) (s : EagerStore) : Prop := ∀ x, c.Represents x (s x)

variable {s s' : EagerStore}

/-- Images are lost or stay as they are. -/
theorem Matches.survives (h : c.Matches s) (hs : ∀ x, Survives c c' x) : c'.Matches (s.heldBy c') :=
  fun x => (h x).survives (hs x)

theorem Matches.same (h : c.Matches s) (hs : ∀ x, SameImage c c' x) : c'.Matches (s.heldBy c') :=
  h.survives fun x => .inr (hs x)

/-- One image changes; others are lost or stay. -/
theorem Matches.change (h : c.Matches s) (id : ImageId) (hs : ∀ x, x ≠ id → Survives c c' x)
    (hother : ∀ x, x ≠ id → s' x = s x) (hid : c'.Represents id (s' id)) : c'.Matches (s'.heldBy c') := by
  intro x
  by_cases hx : x = id
  · subst hx
    exact hid.survives (.inr (.refl c' x))
  · have hx' := (h x).survives (hs x hx)
    rw [← hother x hx] at hx'
    exact hx'

theorem Matches.held (h : c.Matches s) : c.Matches (s.heldBy c) := h.same fun x => .refl c x

/-! ## Playing an animation -/

/-- Only the state of one animation changes, and keeps its frames. -/
theorem Matches.restate (h : c.Matches s) (ha : c.animations.lookup id = some state) (hi : c'.images = c.images)
    (hf : c'.animationFrames = c.animationFrames) (ha' : c'.animations = c.animations.insert id state')
    (hn : c'.nextFrameId = c.nextFrameId) (hkeeps : KeepsFrames state state') : c'.Matches s := by
  intro x
  by_cases hx : x = id
  · subst hx
    have hrep := h x
    generalize s x = e at hrep
    cases hrep with
    | absent _ _ hnone | static _ _ _ hnone => rw [hnone] at ha; cases ha
    | @animated img frames state₁ canvases hanim =>
      cases some.inj (hanim.playing.symm.trans ha)
      have himage : c'.images.lookup x = some img := by rw [hi]; exact hanim.image
      have hstored : c'.animationFrames.lookup x = some frames := by rw [hf]; exact hanim.stored
      have hplaying : c'.animations.lookup x = some state' := by rw [ha']; exact lookup_insert _
      have hcurrent : state'.currentFrame < frames.length := by
        have hc := hkeeps.2 (by rw [hanim.total]; exact hanim.current)
        rwa [hanim.total] at hc
      exact .animated (hanim.redisplay himage hstored hplaying hn.ge rfl rfl hkeeps.1 hcurrent (.inl ⟨rfl, rfl⟩))
  · exact (SameImage.of_eq (by rw [hi]) (by rw [hf]) (by rw [ha']; exact lookup_insert_ne hx) hn.ge).represents (h x)

/-- The pixels on display become those of a stored full canvas. -/
theorem Matches.display (h : c.Matches s) (img' : Data) {fid : Nat} (hi : c.images.lookup id = some img)
    (hf : c.animationFrames.lookup id = some frames) (hmem : FrameEntry.materialized fid img'.data ∈ frames)
    (hshared : img'.sharedFrame = some fid) (hw : img'.width = img.width) (hh : img'.height = img.height)
    (hi' : c'.images = c.images.insert id img') (hf' : c'.animationFrames = c.animationFrames)
    (ha' : c'.animations = c.animations) (hn : c'.nextFrameId = c.nextFrameId) : c'.Matches s := by
  intro x
  by_cases hx : x = id
  · subst hx
    have hrep := h x
    generalize s x = e at hrep
    cases hrep with
    | absent hnone _ _ => rw [hnone] at hi; cases hi
    | static _ _ hnone _ => rw [hnone] at hf; cases hf
    | @animated img₁ frames₁ state canvases hanim =>
      cases some.inj (hanim.image.symm.trans hi)
      cases some.inj (hanim.stored.symm.trans hf)
      have himage : c'.images.lookup x = some img' := by rw [hi']; exact lookup_insert _
      have hstored : c'.animationFrames.lookup x = some frames := by rw [hf']; exact hf
      have hplaying : c'.animations.lookup x = some state := by rw [ha']; exact hanim.playing
      rw [← hw, ← hh]
      exact .animated (hanim.redisplay himage hstored hplaying hn.ge hw hh rfl hanim.current
        (.inr ⟨fid, hmem, hshared⟩))
  · have hsame : SameImage c c' x :=
      .of_eq (by rw [hi']; exact lookup_insert_ne hx) (by rw [hf']) (by rw [ha']) hn.ge
    exact hsame.represents (h x)

/-- A stored frame goes on display. -/
theorem Matches.applyFrame (h : c.Matches s) (id : ImageId) (frameIdx : Nat) : (c.applyFrame id frameIdx).Matches s := by
  unfold Cache.applyFrame
  split
  · next frames img hf hi =>
    split
    · next fid data hentry => exact h.display (img.show fid data).bump hi hf (List.mem_of_getElem? hentry) rfl rfl rfl rfl rfl rfl rfl
    · exact h
  · exact h

/-- The times at which frames went on display, and the flags, are no part of the relation. -/
theorem Matches.of_eq (h : c.Matches s) (hi : c'.images = c.images) (hf : c'.animationFrames = c.animationFrames)
    (ha : c'.animations = c.animations) (hn : c'.nextFrameId = c.nextFrameId) : c'.Matches s :=
  fun x => (SameImage.of_eq (by rw [hi]) (by rw [hf]) (by rw [ha]) hn.ge).represents (h x)

/-- Playing is no part of the relation, as long as the frames stay. -/
theorem animationInvariant_matches (s : EagerStore) : AnimationInvariant fun c c' => c.Matches s → c'.Matches s :=
  ⟨fun _ h => h, fun h h' hs => h' (h hs), fun _ _ _ h => h.of_eq rfl rfl rfl rfl, fun _ h => h.of_eq rfl rfl rfl rfl,
    fun _ ha hkeeps h => h.restate ha rfl rfl rfl rfl hkeeps, fun _ id frameIdx h => h.applyFrame id frameIdx⟩

/-! ## Promotion -/

/-- A single stored frame with its canvas. -/
theorem framesOk_single (w h fid : Nat) (data : List UInt8) : FramesOk w h [.materialized fid data] [data] := by
  have hmap := framesOk_mapIdx w h [data] fid
  exact hmap

/-- A static image becomes an animation of one frame, with the same pixels. -/
theorem matches_promoteRoot (h : c.Matches s) (hi : c.images.lookup id = some img) (ha : c.animations.lookup id = none)
    (gap : Nanos) : (c.promoteRoot id img gap).Matches s := by
  intro x
  by_cases hx : x = id
  · subst hx
    have hrep := h x
    generalize s x = e at hrep
    cases hrep with
    | absent hnone _ _ => rw [hnone] at hi; cases hi
    | static img₁ hi₁ hf _ =>
      cases some.inj (hi₁.symm.trans hi)
      have hanim : (c.promoteRoot x img gap).Animated x { img with sharedFrame := some c.nextFrameId }
          [.materialized c.nextFrameId img.data] (.new [gap] none) [img.data] := by
        refine ⟨lookup_insert _, lookup_insert _, lookup_insert _, framesOk_single .., fun e he => ?_,
          rfl, Nat.zero_lt_one, fun e he => ?_⟩
        · rw [mem_singleton] at he
          subst he
          exact Nat.lt_succ_self _
        · cases he
          exact ⟨rfl, rfl⟩
      exact hanim.represents rfl rfl
    | animated hanim => rw [hanim.playing] at ha; cases ha
  · have hsame : SameImage c (c.promoteRoot id img gap) x :=
      .of_eq (lookup_insert_ne hx) (lookup_insert_ne hx) (lookup_insert_ne hx) (Nat.le_succ _)
    exact hsame.represents (h x)

theorem matches_ensureAnimationStateForRootGap (h : c.Matches s) (id : ImageId) (gapUpdate : Option Nanos) :
    (c.ensureAnimationStateForRootGap id gapUpdate).1.Matches s := by
  unfold ensureAnimationStateForRootGap
  split
  · exact h
  · split
    · exact h
    · next img hi ha => exact matches_promoteRoot h hi ha _
    · exact (animationInvariant_matches s).toSettingInvariant.setFrameGap c id 0 _ h

theorem matches_autoPromoteStaticRoot (h : c.Matches s) (hok : c.autoPromoteStaticRoot id = .ok c') : c'.Matches s := by
  unfold autoPromoteStaticRoot at hok
  split at hok
  · cases hok
    exact h
  · next hstate =>
    split at hok
    · next img hi =>
      cases hok
      exact matches_promoteRoot h hi (by simpa using hstate) 0
    · cases hok

/-! ## Storing an image -/

/-- Without its image, an id has neither frames nor a state. -/
theorem Represents.clean (h : c.Represents id e) (hi : c.images.lookup id = none) : c.Gone id := by
  cases h with
  | absent hi hf ha => exact ⟨hi, hf, ha⟩
  | static img hi' _ _ => rw [hi'] at hi; cases hi
  | animated hanim => rw [hanim.image] at hi; cases hi

theorem gone_removeImage (hclean : c.images.lookup id = none → c.Gone id) : (c.removeImage id).Gone id := by
  cases hi : c.images.lookup id with
  | none =>
    have hsame : c.removeImage id = c := by
      unfold removeImage
      rw [hi]
    rw [hsame]
    exact hclean hi
  | some img =>
    unfold removeImage
    rw [hi]
    exact ⟨lookup_erase .., lookup_erase .., lookup_erase ..⟩

/-- Cleanliness survives. -/
theorem Survives.clean (hs : Survives c c' id) (hclean : c.images.lookup id = none → c.Gone id)
    (hi : c'.images.lookup id = none) : c'.Gone id := by
  rcases hs with hgone | hsame
  · exact hgone
  · refine hsame.gone (hclean ?_)
    cases himage : c.images.lookup id with
    | none => rfl
    | some img =>
      obtain ⟨img', hi', _⟩ := hsame.image img himage
      rw [hi'] at hi
      cases hi

/-- A static image under its id; the others are lost or stay. -/
structure StoredStatic (c c' : Cache) (data : Data) : Prop where
  others : ∀ x, x ≠ data.id → Survives c c' x
  image : ∃ img, c'.images.lookup data.id = some img ∧ img.width = data.width ∧ img.height = data.height
    ∧ img.data = data.data
  frames : c'.animationFrames.lookup data.id = none
  states : c'.animations.lookup data.id = none

/-- **What a store leaves.** -/
theorem store_cases (data : Data) (hclean : c.images.lookup data.id = none → c.Gone data.id) :
    (∃ err, (c.store data).2 = .error err ∧ ∀ x, Survives c (c.store data).1 x)
      ∨ ((c.store data).2 = .ok data.id ∧ StoredStatic c (c.store data).1 data) := by
  unfold store
  dsimp only
  split
  · exact .inl ⟨_, rfl, fun x => .inr (.refl c x)⟩
  · have hevicted := fun x => survives_evictLoop c.reachable data.data.length (c.images.entries.length + 1) c x
    generalize evictLoop c.reachable data.data.length (c.images.entries.length + 1) c = r at hevicted
    obtain ⟨e, ok⟩ := r
    cases ok with
    | false => exact .inl ⟨_, rfl, hevicted⟩
    | true =>
      refine .inr ⟨rfl, ?_⟩
      have hcounted : ∀ x, Survives c { e with accessCounter := e.accessCounter + 1 } x := fun x =>
        (hevicted x).trans (.inr (.of_eq rfl rfl rfl (Nat.le_refl _)))
      have hgone := gone_removeImage ((hcounted data.id).clean hclean)
      refine ⟨fun x hx => ?_, ⟨_, lookup_insert _, rfl, rfl, rfl⟩, hgone.frames, hgone.states⟩
      exact ((hcounted x).trans (survives_removeImage _ data.id x)).trans
        (.inr (.of_eq (lookup_insert_ne hx) rfl rfl (Nat.le_refl _)))

theorem matches_store (h : c.Matches s) (data : Data) :
    (c.store data).1.Matches ((if (c.store data).2.isOk then s.insert data.id ⟨data.width, data.height, [data.data]⟩
      else s).heldBy (c.store data).1) := by
  rcases store_cases data (h data.id).clean with ⟨err, herror, hsurvives⟩ | ⟨hok, hstored⟩
  · rw [herror]
    exact h.survives hsurvives
  · rw [hok]
    refine h.change data.id hstored.others (fun x hx => if_neg hx) ?_
    obtain ⟨img, hi, hw, hh, hd⟩ := hstored.image
    show Represents _ data.id (if data.id = data.id then _ else _)
    rw [if_pos rfl, ← hw, ← hh, ← hd]
    exact .static img hi hstored.frames hstored.states

/-- The frames of an animated store, each a full canvas under a fresh id, the first of them on display. -/
theorem animated_frames {first : List UInt8} {rest : List (List UInt8)} {next : Nat} (img : Data)
    (state : AnimationState) (hi : c.images.lookup id = some img)
    (hf : c.animationFrames.lookup id = some ((first :: rest).mapIdx fun i data => .materialized (next + i) data))
    (ha : c.animations.lookup id = some state) (hn : c.nextFrameId = next + (first :: rest).length)
    (htotal : state.totalFrames = (first :: rest).length) (hcurrent : state.currentFrame = 0) (hd : img.data = first)
    (hshared : img.sharedFrame = some next) :
    c.Animated id img ((first :: rest).mapIdx fun i data => .materialized (next + i) data) state (first :: rest) := by
  refine ⟨hi, hf, ha, framesOk_mapIdx .., fun e he => ?_, ?_, ?_, fun e he => ?_⟩
  · obtain ⟨i, hlt, rfl⟩ := mem_mapIdx.mp he
    rw [hn]
    exact Nat.add_lt_add_left hlt next
  · rw [htotal, length_mapIdx]
  · rw [hcurrent, length_mapIdx]
    exact Nat.succ_pos _
  · rw [mapIdx_cons] at he
    obtain ⟨rfl, _⟩ := List.cons.inj he
    rw [hd]
    exact ⟨rfl, hshared⟩

theorem matches_storeAnimated (h : c.Matches s) (data : Data) (frames : List (List UInt8)) (durations : List Nanos)
    (loopCount : Option Nat) (hdurations : durations.length = frames.length) :
    (c.storeAnimated data frames durations loopCount).1.Matches
      ((if (c.storeAnimated data frames durations loopCount).2.isOk then
        s.insert data.id ⟨data.width, data.height, if frames = [] then [data.data] else frames⟩
      else s).heldBy (c.storeAnimated data frames durations loopCount).1) := by
  cases frames with
  | nil => exact matches_store h data
  | cons first rest =>
    have hcases := store_cases { data with data := first } (h data.id).clean
    have hout := c.storeAnimated_outcome data first rest durations loopCount
    generalize c.storeAnimated data (first :: rest) durations loopCount = r at hout ⊢
    cases hout with
    | oversized => exact h.held
    | failed _ hs =>
      rw [hs] at hcases
      rcases hcases with ⟨_, _, hsurvives⟩ | ⟨hok, _⟩
      · exact h.survives hsurvives
      · cases hok
    | @stored c' img _ hs hi hw hh hd =>
      rw [hs] at hcases
      rcases hcases with ⟨_, herror, _⟩ | ⟨_, hstored⟩
      · cases herror
      · refine h.change data.id (fun x hx => (hstored.others x hx).trans (.inr (.of_eq (lookup_insert_ne hx)
          (lookup_insert_ne hx) (lookup_insert_ne hx) (Nat.le_add_right ..)))) (fun x hx => if_neg hx) ?_
        show Represents _ data.id (if data.id = data.id then _ else _)
        rw [if_pos rfl]
        exact (animated_frames { img with sharedFrame := some c'.nextFrameId } (.new durations loopCount)
          (lookup_insert _) (lookup_insert _) (lookup_insert _) rfl hdurations rfl hd rfl).represents
          hw hh

/-! ## Appending a frame -/

variable {eager : EagerImage} {req : FrameLoadRequest}

/-- The stored frames of an image of the reference. -/
theorem Represents.of_frames (h : c.Represents id (some eager)) (hf : c.animationFrames.lookup id = some frames) :
    ∃ img state, c.Animated id img frames state eager.frames ∧ img.width = eager.width ∧ img.height = eager.height := by
  cases h with
  | static img hi hnone ha => rw [hnone] at hf; cases hf
  | @animated img frames₁ state canvases hanim =>
    cases some.inj (hanim.stored.symm.trans hf)
    exact ⟨img, state, hanim, rfl, rfl⟩

theorem Represents.of_image (h : c.Represents id e) (hi : c.images.lookup id = some img) :
    ∃ canvases, e = some ⟨img.width, img.height, canvases⟩ := by
  cases h with
  | absent hnone _ _ => rw [hnone] at hi; cases hi
  | static img₁ hi₁ hf ha =>
    cases some.inj (hi₁.symm.trans hi)
    exact ⟨_, rfl⟩
  | animated hanim =>
    cases some.inj (hanim.image.symm.trans hi)
    exact ⟨_, rfl⟩

/-- What an operation on one image leaves: the reference as it was if it failed, and as it becomes otherwise. -/
def Lands (s s' : EagerStore) {α : Type} (r : Cache × Except Error α) : Prop :=
  r.1.Matches ((if r.2.isOk then s' else s).heldBy r.1)

theorem Matches.failed (h : c.Matches s) (hs : ∀ x, Survives c c' x) {α : Type} (err : Error) :
    Lands (α := α) s s' (c', .error err) := h.survives hs

theorem Matches.succeeded (h : c.Matches s) (id : ImageId) (hs : ∀ x, x ≠ id → Survives c c' x)
    (hother : ∀ x, x ≠ id → s' x = s x) (hid : c'.Represents id (s' id)) {α : Type} (a : α) : Lands s s' (c', .ok a) :=
  h.change id hs hother hid

/-- Making room for a frame leaves its image alone. -/
theorem survives_evictForFrame (hi : c.images.lookup id = some img) (size : Nat) :
    (∀ x, Survives c (c.evictForFrame id size).1 x) ∧ SameImage c (c.evictForFrame id size).1 id := by
  have hsurvives := fun x => survives_evictLoop (fun x => c.reachable x || x == id) size (c.images.entries.length + 1) c x
  refine ⟨hsurvives, ?_⟩
  rcases hsurvives id with hgone | hsame
  · have himage := (evictForFrame_protected c id size).1
    have hnone : (c.evictForFrame id size).1.images.lookup id = none := hgone.image
    rw [hnone, hi] at himage
    cases himage
  · exact hsame

/-- An entry under a fresh id is appended. -/
theorem Animated.appendEntry (h : c.Animated id img frames state canvases) (entry : FrameEntry) (gap : Nanos)
    {x : List UInt8} (hid : entry.id = c.nextFrameId) (hdepth : entry.depth ≤ maxDeltaChainDepth)
    (hbase : ∀ b, entry.base = some b → ∃ d ∈ frames, d.id = b ∧ (d.isDelta = true → d.depth < entry.depth))
    (hx : (frameChain img.width img.height).Resolves (frames ++ [entry]) entry x) :
    (c.appendEntry id entry gap).1.Animated id img (frames ++ [entry]) (state.appendFrame gap (frames ++ [entry]).length)
      (canvases ++ [x]) := by
  have hstate : (state.appendFrame gap (frames ++ [entry]).length).totalFrames = (frames ++ [entry]).length
      ∧ (state.appendFrame gap (frames ++ [entry]).length).currentFrame = state.currentFrame := by
    unfold AnimationState.appendFrame
    dsimp only
    split <;> exact ⟨rfl, rfl⟩
  unfold Cache.appendEntry
  rw [h.stored, h.playing]
  refine ⟨h.image, lookup_insert _, lookup_insert _, h.ok.append (fun d hd => ?_) hdepth hbase hx,
    fun d hd => ?_, hstate.1, ?_, fun d hd => ?_⟩
  · rw [hid]
    exact h.below d hd
  · rcases mem_append.mp hd with hd | hd
    · exact Nat.lt_succ_of_lt (h.below d hd)
    · rw [mem_singleton.mp hd, hid]
      exact Nat.lt_succ_self _
  · rw [hstate.2, length_append]
    exact Nat.lt_of_lt_of_le h.current (Nat.le_add_right ..)
  · have hlen := congrArg List.length hd
    have hpos := h.current
    rw [length_append, length_singleton, length_singleton] at hlen
    omega

theorem sameImage_appendEntry (c : Cache) (entry : FrameEntry) (gap : Nanos) {x : ImageId} (hx : x ≠ id) :
    SameImage c (c.appendEntry id entry gap).1 x := by
  unfold Cache.appendEntry
  refine .of_eq rfl (lookup_insert_ne hx) ?_ (Nat.le_succ _)
  split
  · exact lookup_insert_ne hx
  · rfl

variable {composed canvas : List UInt8}

/-- **A delta is appended**: it stands for its payload composed onto its base. -/
theorem lands_pushDeltaFrame (h : c.Matches s) (hanim : c.Animated id img frames state canvases) {base : FrameEntry} (hbase : frames[n]? = some base) (hcanvas : canvases[n]? = some canvas)
    (req : FrameLoadRequest)
    (hblit : blitSubrectIntoCanvas canvas req.frameData img.width img.height req.blit req.compositionMode = .ok composed)
    {depth : Nat} (hdepth : depth = if base.isDelta then base.depth + 1 else 0) (hmax : depth ≤ maxDeltaChainDepth)
    (area : Nat) (gap : Nanos) (hother : ∀ x, x ≠ id → s' x = s x)
    (hs' : s' id = some ⟨img.width, img.height, canvases ++ [composed]⟩) :
    Lands s s' (c.pushDeltaFrame id base.id depth area req gap) := by
  obtain ⟨hsurvives, hsame⟩ := survives_evictForFrame hanim.image req.frameData.length
  unfold pushDeltaFrame
  dsimp only
  split
  · exact h.failed hsurvives _
  · generalize (c.evictForFrame id req.frameData.length).1 = c₁ at hsurvives hsame
    have hmem := List.mem_of_getElem? hbase
    have hrep := hsame.represents (.animated hanim)
    obtain ⟨img₁, state₁, hanim₁, hw, hh⟩ := hrep.of_frames (hsame.frames.trans hanim.stored)
    have hresolves : (frameChain img₁.width img₁.height).Resolves
        (frames ++ [.delta c₁.nextFrameId base.id req.blit req.frameData req.compositionMode depth area])
        (.delta c₁.nextFrameId base.id req.blit req.frameData req.compositionMode depth area) composed := by
      refine .patch rfl (mem_append_left _ hmem) rfl
        ((hanim₁.ok.resolves n base canvas hbase hcanvas).mono (fun d hd => mem_append_left _ hd) hmem) ?_
      show (blitSubrectIntoCanvas canvas req.frameData img₁.width img₁.height req.blit req.compositionMode).toOption = _
      rw [hw, hh, hblit]
      rfl
    have happended := hanim₁.appendEntry
      (.delta c₁.nextFrameId base.id req.blit req.frameData req.compositionMode depth area) gap rfl hmax
      (fun b hb => ⟨base, hmem, some.inj hb, fun hdelta => ?_⟩) hresolves
    · refine h.succeeded id (fun x hx => (hsurvives x).trans (.inr (sameImage_appendEntry c₁ _ gap hx))) hother ?_ _
      rw [hs']
      exact happended.represents hw hh
    · rw [hdepth, if_pos hdelta]
      exact Nat.lt_succ_self _

section

variable (hcanvas : eager.canvas req = some canvas)
  (hblit : blitSubrectIntoCanvas canvas req.frameData eager.width eager.height req.blit req.compositionMode = .ok composed)
include hcanvas hblit

theorem putFrame_append {gap : Nanos} (htarget : req.target = .append gap) :
    eager.putFrame req = some { eager with frames := eager.frames ++ [composed] } := by
  unfold EagerImage.putFrame
  rw [hcanvas, htarget]
  show (blitSubrectIntoCanvas canvas req.frameData eager.width eager.height req.blit req.compositionMode).toOption.bind _ = _
  rw [hblit]
  rfl

theorem putFrame_edit {gapUpdate : Option Nanos} (htarget : req.target = .edit n gapUpdate) :
    eager.putFrame req = some { eager with frames := eager.frames.set (n - 1) composed } := by
  unfold EagerImage.putFrame
  rw [hcanvas, htarget]
  show (blitSubrectIntoCanvas canvas req.frameData eager.width eager.height req.blit req.compositionMode).toOption.bind _ = _
  rw [hblit]
  rfl

end

theorem modify_same (s : EagerStore) (id : ImageId) (f : EagerImage → Option EagerImage) (hs : s id = some eager) :
    s.modify id f id = f eager := by
  unfold EagerStore.modify
  rw [if_pos rfl, hs]
  rfl

theorem modify_other (s : EagerStore) (f : EagerImage → Option EagerImage) {x : ImageId} (hx : x ≠ id) :
    s.modify id f x = s x := if_neg hx

/-- **The delta fast path** appends what the reference appends, or leaves the pixels alone. -/
theorem tryPushDeltaAppend_lands (h : c.Matches s) (hs : s req.imageId = some eager)
    (hfits : ¬ (req.blit.width > eager.width ∨ req.blit.height > eager.height))
    {r : Cache × Option (Except Error Nat)} (hr : c.tryPushDeltaAppend req eager.width eager.height = r) :
    (r.2 = none → r.1.Matches s)
      ∧ ∀ result, r.2 = some result → Lands s (s.modify req.imageId (·.putFrame req)) (r.1, result) := by
  subst hr
  unfold tryPushDeltaAppend
  split
  · next gap n htarget hsource =>
    dsimp only
    split
    · next err _ =>
      refine ⟨nofun, fun result hresult => ?_⟩
      cases hresult
      exact h.failed (fun x => .inr (.refl c x)) err
    · next c₁ hpromoted =>
      have h₁ : c₁.Matches s := by
        split at hpromoted
        · exact matches_autoPromoteStaticRoot h hpromoted
        · cases hpromoted
          exact h
      split
      · exact ⟨fun _ => h₁, nofun⟩
      · next base hbase =>
        generalize hdepth : (if base.isDelta = true then base.depth + 1 else 0) = depth
        split
        · next hbounds =>
          refine ⟨nofun, fun result hresult => ?_⟩
          cases hresult
          have hn : n ≠ 0 := by
            rintro rfl
            cases hbase
          rw [if_neg hn] at hbase
          cases hf : c₁.animationFrames.lookup req.imageId with
          | none => rw [hf] at hbase; cases hbase
          | some frames =>
            rw [hf] at hbase
            have hrep := h₁ req.imageId
            rw [hs] at hrep
            obtain ⟨img, state, hanim, hw, hh⟩ := hrep.of_frames hf
            obtain ⟨canvas, hcanvas, _⟩ := hanim.ok.canvas hbase
            obtain ⟨composed, hblit⟩ := blitSubrectIntoCanvas_ok hfits canvas req.frameData req.compositionMode
            have hsourced : eager.canvas req = some canvas := by
              unfold EagerImage.canvas EagerImage.frame
              rw [hsource]
              dsimp only
              rw [if_neg hn]
              exact hcanvas
            have hput := putFrame_append hsourced hblit htarget
            rw [← hw, ← hh] at hblit
            refine lands_pushDeltaFrame h₁ hanim hbase hcanvas req hblit hdepth.symm hbounds.1 _ gap
              (fun x hx => modify_other s _ hx) ?_
            rw [modify_same s req.imageId _ hs, hput, hw, hh]
        · exact ⟨fun _ => h₁, nofun⟩
  · exact ⟨fun _ => h, nofun⟩

/-- A full canvas is appended; a static image is promoted first. -/
theorem lands_pushComposedFrame (h : c.Matches s) (hs : s id = some eager) (gap : Nanos)
    (hother : ∀ x, x ≠ id → s' x = s x) (hs' : s' id = some { eager with frames := eager.frames ++ [composed] }) :
    Lands s s' (c.pushComposedFrame id composed gap) := by
  have hrep := h id
  rw [hs] at hrep
  unfold pushComposedFrame
  split
  · exact h.failed (fun x => .inr (.refl c x)) _
  · obtain ⟨img, hi⟩ : ∃ img, c.images.lookup id = some img := by
      cases hrep with
      | static img hi _ _ => exact ⟨img, hi⟩
      | animated hanim => exact ⟨_, hanim.image⟩
    obtain ⟨hsurvives, hsame⟩ := survives_evictForFrame hi composed.length
    dsimp only
    split
    · exact h.failed hsurvives _
    · generalize (c.evictForFrame id composed.length).1 = c₁ at hsurvives hsame
      have hrep₁ := hsame.represents hrep
      split
      · next state ha =>
        cases hrep₁ with
        | static img _ _ hnone => rw [hnone] at ha; cases ha
        | @animated img frames state canvases hanim =>
          have happended := hanim.appendEntry (.materialized c₁.nextFrameId composed) gap rfl (Nat.zero_le _) nofun
            (.full rfl rfl)
          refine h.succeeded id (fun x hx => (hsurvives x).trans (.inr (sameImage_appendEntry c₁ _ gap hx))) hother ?_ _
          rw [hs']
          exact .animated happended
      · exact h.failed hsurvives _
      · next img ha hi =>
        cases hrep₁ with
        | animated hanim => rw [hanim.playing] at ha; cases ha
        | static img₁ hi₁ hf _ =>
          cases some.inj (hi₁.symm.trans hi)
          have hf₂ : (c₁.promoteRoot id img 0).animationFrames.lookup id
              = some [.materialized c₁.nextFrameId img.data] := lookup_insert _
          rw [hf₂]
          have hok : FramesOk img.width img.height
              ([.materialized c₁.nextFrameId img.data] ++ [.materialized (c₁.nextFrameId + 1) composed])
              ([img.data] ++ [composed]) := by
            refine (framesOk_single img.width img.height c₁.nextFrameId img.data).append (fun d hd => ?_)
              (Nat.zero_le _) nofun (.full rfl rfl)
            rw [mem_singleton.mp hd]
            exact Nat.lt_succ_self _
          refine h.succeeded id (fun x hx => (hsurvives x).trans (.inr (.of_eq ?_ ?_ ?_ ?_))) hother ?_ _
          · exact lookup_insert_ne hx
          · exact (lookup_insert_ne hx).trans (lookup_insert_ne hx)
          · exact (lookup_insert_ne hx).trans (lookup_insert_ne hx)
          · exact (Nat.le_succ _).trans (Nat.le_succ _)
          · rw [hs']
            refine @Animated.represents _ _ _ _ { img with sharedFrame := some c₁.nextFrameId } _ _ _
              ⟨lookup_insert _, lookup_insert _, lookup_insert _, hok, fun d hd => ?_, rfl,
                Nat.zero_lt_two, fun d hd => ?_⟩ rfl rfl
            · show d.id < c₁.nextFrameId + 1 + 1
              rcases mem_append.mp hd with hd | hd
              · rw [mem_singleton.mp hd]
                exact Nat.lt_succ_of_lt (Nat.lt_succ_self _)
              · rw [mem_singleton.mp hd]
                exact Nat.lt_succ_self _
            · cases hd

/-! ## Replacing a frame -/

/-- Nothing is based on the frame of a number. -/
def basesKept (c : Cache) (id : ImageId) (frameNum : Nat) : Bool :=
  match c.editEntry id frameNum with
  | some entry => ((c.animationFrames.lookup id).getD []).all fun d => d.base != some entry.id
  | none => true

theorem basesKept_unreferenced (hf : c.animationFrames.lookup id = some frames) (hn : n ≠ 0)
    (hentry : frames[n - 1]? = some entry) (h : c.basesKept id n = true) : Unreferenced frames entry := by
  unfold basesKept editEntry at h
  rw [if_neg hn, hf] at h
  dsimp only [getD_some] at h
  rw [hentry] at h
  intro d hd
  exact bne_iff_ne.mp (all_eq_true.mp h d hd)

/-- A stored frame is written, with what is on display. -/
theorem Animated.rewrite (h : c.Animated id img frames state canvases) {idx : Nat} (he : frames[idx]? = some entry)
    (hun : Unreferenced frames entry) {fid : Nat} (hfid : fid = entry.id ∨ ∀ d ∈ frames, d.id ≠ fid) {x : List UInt8}
    {img' : Data} (hi : c'.images.lookup id = some img')
    (hf : c'.animationFrames.lookup id = some (frames.set idx (.materialized fid x)))
    (ha : c'.animations.lookup id = some state') (hn : c.nextFrameId ≤ c'.nextFrameId) (hlt : fid < c'.nextFrameId)
    (hw : img'.width = img.width) (hh : img'.height = img.height) (ht : state'.totalFrames = state.totalFrames)
    (hc : state'.currentFrame = state.currentFrame)
    (hshown : frames.length = 1 → img'.data = x ∧ img'.sharedFrame = some fid) :
    c'.Animated id img' (frames.set idx (.materialized fid x)) state' (canvases.set idx x) := by
  refine ⟨hi, hf, ha, ?_, fun d hd => ?_, ?_, ?_, fun d hd => ?_⟩
  · rw [hw, hh]
    exact h.ok.replace he hun hfid x
  · rcases List.mem_or_eq_of_mem_set hd with hd | rfl
    · exact Nat.lt_of_lt_of_le (h.below d hd) hn
    · exact hlt
  · rw [ht, h.total, length_set]
  · rw [hc, length_set]
    exact h.current
  · have hlen : frames.length = 1 := by
      have hlen := congrArg List.length hd
      rwa [length_set] at hlen
    obtain ⟨hdata, hshared⟩ := hshown hlen
    have hidx : idx = 0 := by
      have hlt := (List.getElem?_eq_some_iff.mp he).1
      omega
    obtain ⟨e, rfl⟩ := length_eq_one_iff.mp hlen
    subst hidx
    cases hd
    rw [hdata]
    exact ⟨rfl, hshared⟩

/-- What `writeEntry` leaves. -/
theorem writeEntry_at (hi : c.images.lookup id = some img) (hf : c.animationFrames.lookup id = some frames)
    (ha : c.animations.lookup id = some state) (idx fid : Nat) (x : List UInt8) (shown : Option Bool)
    (gapUpdate : Option Nanos) :
    ∃ img' state', (c.writeEntry id idx fid x shown gapUpdate).images.lookup id = some img'
      ∧ (c.writeEntry id idx fid x shown gapUpdate).animationFrames.lookup id = some (frames.set idx (.materialized fid x))
      ∧ (c.writeEntry id idx fid x shown gapUpdate).animations.lookup id = some state'
      ∧ (c.writeEntry id idx fid x shown gapUpdate).nextFrameId = c.nextFrameId
      ∧ img'.width = img.width ∧ img'.height = img.height ∧ state'.totalFrames = state.totalFrames
      ∧ state'.currentFrame = state.currentFrame
      ∧ (shown.isSome = true → img'.data = x ∧ img'.sharedFrame = some fid) ∧ (shown = none → img' = img)
      ∧ ∀ y, y ≠ id → SameImage c (c.writeEntry id idx fid x shown gapUpdate) y := by
  have hf' : (c.setEntry id idx (.materialized fid x)).animationFrames.lookup id
      = some (frames.set idx (.materialized fid x)) := lookup_setEntry hf ..
  unfold writeEntry
  cases shown with
  | none =>
    cases gapUpdate with
    | none =>
      exact ⟨img, state, hi, hf', ha, rfl, rfl, rfl, rfl, rfl, nofun, fun _ => rfl, fun y hy =>
        .of_eq rfl (lookup_setEntry_ne hy ..) rfl (Nat.le_refl _)⟩
    | some gap =>
      unfold gapIf setFrameGap showIf
      rw [show (c.setEntry id idx (.materialized fid x)).animations.lookup id = some state from ha]
      exact ⟨img, _, hi, hf', lookup_insert _, rfl, rfl, rfl, rfl, rfl, nofun, fun _ => rfl, fun y hy =>
        .of_eq rfl (lookup_setEntry_ne hy ..) (lookup_insert_ne hy) (Nat.le_refl _)⟩
  | some bump =>
    unfold showIf showFrame
    rw [show (c.setEntry id idx (.materialized fid x)).images.lookup id = some img from hi]
    have hshown : ∀ b : Bool, (if b then (img.show fid x).bump else img.show fid x).data = x
        ∧ (if b then (img.show fid x).bump else img.show fid x).sharedFrame = some fid
        ∧ (if b then (img.show fid x).bump else img.show fid x).width = img.width
        ∧ (if b then (img.show fid x).bump else img.show fid x).height = img.height := by
      intro b
      cases b <;> exact ⟨rfl, rfl, rfl, rfl⟩
    obtain ⟨hdata, hshared, hw, hh⟩ := hshown bump
    cases gapUpdate with
    | none =>
      exact ⟨_, state, lookup_insert _, hf', ha, rfl, hw, hh, rfl, rfl, fun _ => ⟨hdata, hshared⟩, nofun, fun y hy =>
        .of_eq (lookup_insert_ne hy) (lookup_setEntry_ne hy ..) rfl (Nat.le_refl _)⟩
    | some gap =>
      unfold gapIf setFrameGap
      rw [show (c.setEntry id idx (.materialized fid x)).animations.lookup id = some state from ha]
      exact ⟨_, _, lookup_insert _, hf', lookup_insert _, rfl, hw, hh, rfl, rfl, fun _ => ⟨hdata, hshared⟩,
        nofun, fun y hy => .of_eq (lookup_insert_ne hy) (lookup_setEntry_ne hy ..) (lookup_insert_ne hy)
          (Nat.le_refl _)⟩

/-- **A stored frame that nothing is based on is written.** -/
theorem represents_writeEntry (h : c.Represents id (some eager)) (hf : c.animationFrames.lookup id = some frames)
    {idx : Nat} (he : frames[idx]? = some entry) (hun : Unreferenced frames entry) {fid : Nat}
    (hfid : fid = entry.id ∨ ∀ d ∈ frames, d.id ≠ fid) (hlt : fid < c.nextFrameId) (x : List UInt8)
    (shown : Option Bool) (gapUpdate : Option Nanos)
    (hshown : ∀ img state, c.Animated id img frames state eager.frames → frames.length = 1 → shown.isSome = true) :
    (c.writeEntry id idx fid x shown gapUpdate).Represents id (some { eager with frames := eager.frames.set idx x })
      ∧ ∀ y, y ≠ id → SameImage c (c.writeEntry id idx fid x shown gapUpdate) y := by
  obtain ⟨img, state, hanim, hw, hh⟩ := h.of_frames hf
  obtain ⟨img', state', hi', hf', ha', hn', hw', hh', ht', hc', hs', _, hothers⟩ :=
    writeEntry_at hanim.image hf hanim.playing idx fid x shown gapUpdate
  refine ⟨?_, hothers⟩
  exact (hanim.rewrite he hun hfid hi' hf' ha' hn'.ge (by rw [hn']; exact hlt) hw' hh' ht' hc'
    fun hone => hs' (hshown img state hanim hone)).represents (hw'.trans hw) (hh'.trans hh)

/-- A frame of an image of the reference, by the number it is asked for. -/
theorem frame_pos (h : eager.frame n = some canvas) : n ≠ 0 ∧ eager.frames[n - 1]? = some canvas := by
  unfold EagerImage.frame at h
  split at h
  · cases h
  · next hn => exact ⟨hn, h⟩

/-- **An edit in place** changes the one frame, if nothing is based on it. -/
theorem tryEditInPlace_lands (h : c.Matches s) (hs : s req.imageId = some eager) {gapUpdate : Option Nanos}
    (htarget : req.target = .edit n gapUpdate) (hcanvas : req.canvas = .editTarget)
    (hbases : c.basesKept req.imageId n = true) {result : Except Error Nat}
    (hr : (c.tryEditInPlace req eager.width eager.height).2 = some result) :
    Lands s (s.modify req.imageId (·.putFrame req)) ((c.tryEditInPlace req eager.width eager.height).1, result) := by
  have hout := c.tryEditInPlace_outcome req eager.width eager.height
  generalize c.tryEditInPlace req eager.width eager.height = r at hout hr ⊢
  cases hout with
  | declined => cases hr
  | failed =>
    cases hr
    exact h.failed (fun x => .inr (.refl c x)) _
  | @written _ fid _ data composed frames ht hentry hf hat hblit =>
    cases htarget.symm.trans ht
    cases hr
    have hn : n ≠ 0 := by
      rintro rfl
      cases hentry
    have hrep := h req.imageId
    rw [hs] at hrep
    obtain ⟨img, state, hanim, hw, hh⟩ := hrep.of_frames hf
    obtain ⟨canvas, hx, hresolves⟩ := hanim.ok.canvas hat
    obtain rfl := resolves_materialized hresolves
    have hsourced : eager.canvas req = some canvas := by
      unfold EagerImage.canvas EagerImage.frame
      rw [hcanvas, htarget]
      dsimp only
      rw [if_neg hn]
      exact hx
    obtain ⟨hrep', hothers⟩ := represents_writeEntry hrep hf hat (basesKept_unreferenced hf hn hat hbases) (.inl rfl)
      (hanim.below _ (List.mem_of_getElem? hat)) composed
      (if (c.images.lookup req.imageId).any (·.sharedFrame == some fid) then some true else none) gapUpdate
      fun img' state' hanim' hone => by
        -- The single frame of an animation is the one on display.
        obtain ⟨e, rfl⟩ := length_eq_one_iff.mp hone
        have hidx : n - 1 = 0 := by
          have hlt := (List.getElem?_eq_some_iff.mp hat).1
          omega
        rw [hidx] at hat
        cases hat
        have hsingle : img'.sharedFrame = some fid := (hanim'.single _ rfl).2
        rw [hanim'.image, any_some, if_pos (beq_iff_eq.mpr hsingle)]
        rfl
    refine h.succeeded req.imageId (fun x hx => .inr (hothers x hx)) (fun x hx => modify_other s _ hx) ?_ n
    rw [modify_same s req.imageId _ hs, putFrame_edit hsourced hblit htarget]
    exact hrep'

/-- The root of a static image is replaced, and promoted if it gets a gap. -/
theorem lands_replaceRoot (h : c.Matches s) (hi : c.images.lookup id = some img)
    (hf : c.animationFrames.lookup id = none) (ha : c.animations.lookup id = none) (composed : List UInt8)
    (gapUpdate : Option Nanos) (hother : ∀ x, x ≠ id → s' x = s x)
    (hs' : s' id = some ⟨img.width, img.height, [composed]⟩) :
    Lands s s' (c.replaceFrameBytes id 1 composed gapUpdate) := by
  have hout := c.replaceFrameBytes_outcome id 1 composed gapUpdate
  generalize c.replaceFrameBytes id 1 composed gapUpdate = r at hout ⊢
  cases hout with
  | absent hi' | marked hi' => rw [hi] at hi'; cases hi'
  | refused =>
    have hsame : ∀ x, SameImage c { c with nextFrameId := c.nextFrameId + 1 } x :=
      fun x => .of_eq rfl rfl rfl (Nat.le_succ _)
    exact h.failed (fun x => .inr (hsame x)) _
  | written ha' => rw [ha] at ha'; cases ha'
  | redrawn _ hi' =>
    cases some.inj (hi.symm.trans hi')
    have hothers : ∀ x, x ≠ id →
        Survives c { c with images := c.images.insert id (img.redraw composed), dirty := true } x :=
      fun x hx => .inr (.of_eq (lookup_insert_ne hx) rfl rfl (Nat.le_refl _))
    refine h.succeeded id hothers hother ?_ 1
    rw [hs']
    exact .static (img.redraw composed) (lookup_insert _) hf ha
  | @promoted _ gap c₁ c₂ c₄ _ hi' _ hc₁ hc₂ hc₄ =>
    cases some.inj (hi.symm.trans hi')
    have hothers₁ : ∀ x, x ≠ id → SameImage c c₁ x := by
      intro x hx
      rw [← hc₁]
      exact .of_eq (lookup_insert_ne hx) rfl rfl (Nat.le_refl _)
    have hanim : c₂.Animated id { img.redraw composed with sharedFrame := some c₁.nextFrameId }
        [.materialized c₁.nextFrameId composed] (.new [gap] none) [composed] := by
      rw [← hc₂]
      refine ⟨lookup_insert _, lookup_insert _, lookup_insert _, framesOk_single .., fun e he => ?_,
        rfl, Nat.zero_lt_one, fun e he => ?_⟩
      · rw [mem_singleton.mp he]
        exact Nat.lt_succ_self _
      · cases he
        exact ⟨rfl, rfl⟩
    have hothers₂ : ∀ x, x ≠ id → SameImage c₁ c₂ x := by
      intro x hx
      rw [← hc₂]
      exact .of_eq (lookup_insert_ne hx) (lookup_insert_ne hx) (lookup_insert_ne hx) (Nat.le_succ _)
    obtain ⟨img₃, state₃, hi₃, hf₃, ha₃, hn₃, hw₃, hh₃, ht₃, hc₃, hs₃, _, hothers₃⟩ :=
      writeEntry_at hanim.image hanim.stored hanim.playing 0 c₂.nextFrameId composed (some false) none
    rw [hc₄] at hi₃ hf₃ ha₃ hn₃ hothers₃
    have hbumped : ∀ x, SameImage c₄ { c₄ with nextFrameId := c₄.nextFrameId + 1 } x :=
      fun x => .of_eq rfl rfl rfl (Nat.le_succ _)
    refine h.succeeded id (fun x hx => .inr ?_) hother ?_ 1
    · have hsame := ((hothers₁ x hx).trans (hothers₂ x hx)).trans (hothers₃ x hx)
      exact hsame.trans (hbumped x)
    · rw [hs']
      have hun : Unreferenced [.materialized c₁.nextFrameId composed] (.materialized c₁.nextFrameId composed) := by
        intro d hd
        rw [mem_singleton.mp hd]
        exact nofun
      have hat : [FrameEntry.materialized c₁.nextFrameId composed][0]? = some (.materialized c₁.nextFrameId composed) := rfl
      have hrewritten : Animated { c₄ with nextFrameId := c₄.nextFrameId + 1 } id img₃
          [.materialized c₂.nextFrameId composed] state₃ [composed] := by
        refine hanim.rewrite hat hun (.inr fun d hd => Nat.ne_of_lt (hanim.below d hd)) ?_ ?_ ?_ ?_ ?_ hw₃ hh₃ ht₃
          hc₃ fun _ => hs₃ rfl
        · exact hi₃
        · exact hf₃
        · exact ha₃
        · exact Nat.le_succ_of_le hn₃.ge
        · exact Nat.lt_succ_of_le hn₃.ge
      exact hrewritten.represents hw₃ hh₃

/-- **Replacing a frame's pixels** changes the one frame, if nothing is based on it. -/
theorem lands_replaceFrameBytes (h : c.Matches s) (hs : s id = some eager) (hframe : eager.frame n = some canvas) (hbases : c.basesKept id n = true) (composed : List UInt8)
    (gapUpdate : Option Nanos) (hother : ∀ x, x ≠ id → s' x = s x)
    (hs' : s' id = some { eager with frames := eager.frames.set (n - 1) composed }) :
    Lands s s' (c.replaceFrameBytes id n composed gapUpdate) := by
  obtain ⟨hn, hat⟩ := frame_pos hframe
  have hrep := h id
  rw [hs] at hrep
  cases hrep with
  | static img hi hf ha =>
    have hone : n = 1 := by
      have hlt := (List.getElem?_eq_some_iff.mp hat).1
      rw [length_singleton] at hlt
      omega
    subst hone
    exact lands_replaceRoot h hi hf ha composed gapUpdate hother hs'
  | @animated img frames state canvases hanim =>
    have hlt : n - 1 < frames.length := by
      rw [← hanim.ok.length]
      exact (List.getElem?_eq_some_iff.mp hat).1
    obtain ⟨entry, hentry⟩ : ∃ entry, frames[n - 1]? = some entry := ⟨_, getElem?_eq_getElem hlt⟩
    have hun := basesKept_unreferenced hanim.stored hn hentry hbases
    have hsame : ∀ x, SameImage c { c with nextFrameId := c.nextFrameId + 1 } x :=
      fun x => .of_eq rfl rfl rfl (Nat.le_succ _)
    obtain ⟨hrep', hothers⟩ := represents_writeEntry ((hsame id).represents (.animated hanim)) hanim.stored hentry hun
      (.inr fun d hd => Nat.ne_of_lt (hanim.below d hd)) (Nat.lt_succ_self _) composed
      (if state.currentFrame = n - 1 then some false else none) gapUpdate fun _ _ _ hone => by
        have hcurrent := hanim.current
        rw [if_pos (by omega)]
        rfl
    rw [replaceFrameBytes_animated hanim.playing (by rw [hanim.stored]; exact hlt)]
    exact h.succeeded id (fun x hx => .inr ((hsame x).trans (hothers x hx))) hother (by rw [hs']; exact hrep') n

theorem Represents.frame_of_ok (h : c.Represents id (some eager)) {e : Error}
    (hn : (match c.frameForNumber id n with | some bytes => (.ok bytes : Except Error (List UInt8)) | none => .error e) = .ok canvas) :
    eager.frame n = some canvas := by
  have hframe : c.frameForNumber id n = eager.frame n := h.frameForNumber n
  rw [hframe] at hn
  cases hat : eager.frame n with
  | none => rw [hat] at hn; cases hn
  | some bytes => rw [hat] at hn; cases hn; rfl

/-- The canvas of a frame request is that of the reference. -/
theorem resolveCanvasBytes_ok (h : c.Represents req.imageId (some eager))
    (hok : c.resolveCanvasBytes req eager.width eager.height = .ok canvas) : eager.canvas req = some canvas := by
  unfold resolveCanvasBytes at hok
  unfold EagerImage.canvas
  cases hsource : req.canvas with
  | solidColor rgba =>
    rw [hsource] at hok
    cases hok
    rfl
  | frame n =>
    rw [hsource] at hok
    exact h.frame_of_ok hok
  | editTarget =>
    cases htarget : req.target with
    | append gap =>
      rw [hsource, htarget] at hok
      cases hok
    | edit n gapUpdate =>
      rw [hsource, htarget] at hok
      exact h.frame_of_ok hok

/-- A frame that is edited has no deltas based on it, when the request is valid. -/
def editKeepsBases (c : Cache) (req : FrameLoadRequest) : Bool :=
  match req.target, c.validateFrameRequest req with
  | .edit n _, .ok _ => c.basesKept req.imageId n
  | _, _ => true

/-- **Loading a frame** lands, unless it writes over a frame that a delta is based on. -/
theorem lands_putFrame (h : c.Matches s) (req : FrameLoadRequest) (hbases : c.editKeepsBases req = true) :
    Lands s (s.modify req.imageId (·.putFrame req)) (c.putFrame req) := by
  unfold editKeepsBases at hbases
  have hfailed : ∀ err, Lands s (s.modify req.imageId (·.putFrame req)) (c, (.error err : Except Error Nat)) := fun err =>
    h.failed (fun x => .inr (.refl c x)) err
  have hstored : ∀ {img}, c.Accepts req img → ∃ canvases, s req.imageId = some ⟨img.width, img.height, canvases⟩ :=
    fun haccepts => (h req.imageId).of_image haccepts.image
  have hout := c.putFrame_outcome req
  generalize c.putFrame req = r at hout ⊢
  cases hout with
  | rejected | untargeted => exact hfailed _
  | pushed haccepts _ hc' hpushed =>
    obtain ⟨canvases, hs⟩ := hstored haccepts
    exact hc' ▸ (tryPushDeltaAppend_lands h hs (validateFrameRequest_ok haccepts.valid).2.1 rfl).2 _ hpushed
  | @unsourced _ _ c₁ _ haccepts _ hc' hdeclined =>
    obtain ⟨canvases, hs⟩ := hstored haccepts
    have h₁ : c₁.Matches s :=
      hc' ▸ (tryPushDeltaAppend_lands h hs (validateFrameRequest_ok haccepts.valid).2.1 rfl).1 hdeclined
    exact h₁.failed (fun x => .inr (.refl c₁ x)) _
  | @appended img gap c₁ canvas composed haccepts htarget hc' hdeclined hcanvas hblit =>
    obtain ⟨canvases, hs⟩ := hstored haccepts
    have h₁ : c₁.Matches s :=
      hc' ▸ (tryPushDeltaAppend_lands h hs (validateFrameRequest_ok haccepts.valid).2.1 rfl).1 hdeclined
    have hrep := h₁ req.imageId
    rw [hs] at hrep
    refine lands_pushComposedFrame h₁ hs gap (fun x hx => modify_other s _ hx) ?_
    rw [modify_same s req.imageId _ hs]
    exact putFrame_append (resolveCanvasBytes_ok hrep hcanvas) hblit htarget
  | @edited _ n gapUpdate _ _ haccepts htarget hc' hedited =>
    obtain ⟨canvases, hs⟩ := hstored haccepts
    rw [htarget, haccepts.valid] at hbases
    have hsource := ((validateFrameRequest_ok haccepts.valid).2.2.2 n gapUpdate htarget).1
    exact hc' ▸ tryEditInPlace_lands h hs htarget hsource hbases hedited
  | @replaced _ n gapUpdate canvas composed haccepts htarget hframe _ hblit =>
    obtain ⟨canvases, hs⟩ := hstored haccepts
    rw [htarget, haccepts.valid] at hbases
    have hsource := ((validateFrameRequest_ok haccepts.valid).2.2.2 n gapUpdate htarget).1
    have hrep := h req.imageId
    rw [hs] at hrep
    have hframe' := (hrep.frameForNumber n).symm.trans hframe
    refine lands_replaceFrameBytes h hs hframe' hbases composed gapUpdate (fun x hx => modify_other s _ hx) ?_
    rw [modify_same s req.imageId _ hs]
    refine putFrame_edit ?_ hblit htarget
    unfold EagerImage.canvas
    rw [hsource, htarget]
    exact hframe'

/-- A frame that is composed onto has no deltas based on it, when the command is carried out. -/
def composeKeepsBases (c : Cache) (req : ComposeRequest) : Bool :=
  !c.composes req || c.basesKept req.imageId req.dstFrame

/-- **Composing a frame** lands likewise. -/
theorem lands_composeFrame (h : c.Matches s) (req : ComposeRequest) (hbases : c.composeKeepsBases req = true) :
    Lands s (s.modify req.imageId (·.composeFrame req)) (c.composeFrame req) := by
  unfold composeKeepsBases at hbases
  have hout := c.composeFrame_outcome req
  generalize c.composeFrame req = r at hout ⊢
  cases hout with
  | refused => exact h.failed (fun x => .inr (.refl c x)) _
  | @composed img src dst composed hyes hi hsrc hdst hblit =>
    obtain ⟨canvases, hs⟩ := (h req.imageId).of_image hi
    have hrep := h req.imageId
    rw [hs] at hrep
    have hsrc' := (hrep.frameForNumber req.srcFrame).symm.trans hsrc
    have hdst' := (hrep.frameForNumber req.dstFrame).symm.trans hdst
    rw [hyes] at hbases
    have hcompose : EagerImage.composeFrame ⟨img.width, img.height, canvases⟩ req
        = some ⟨img.width, img.height, canvases.set (req.dstFrame - 1) composed⟩ := by
      show (EagerImage.frame ⟨img.width, img.height, canvases⟩ req.srcFrame).bind _ = _
      rw [show EagerImage.frame ⟨img.width, img.height, canvases⟩ req.srcFrame = some src from hsrc']
      rw [show EagerImage.frame ⟨img.width, img.height, canvases⟩ req.dstFrame = some dst from hdst']
      show (Except.toOption (blitSubrectIntoCanvas dst _ img.width img.height _ req.mode)).bind _ = _
      rw [hblit]
      rfl
    have hlands := lands_replaceFrameBytes h hs hdst' hbases composed none (fun x hx => modify_other s _ hx)
      (by rw [modify_same s req.imageId (·.composeFrame req) hs]; exact hcompose)
    generalize c.replaceFrameBytes req.imageId req.dstFrame composed none = r at hlands
    obtain ⟨c', _ | _⟩ := r
    · exact hlands
    · exact hlands

/-! ## Deleting a frame -/

/-- A delta rebuilt in place stands for the same canvas. -/
theorem animated_materializeDependent (h : c.Animated id img frames state canvases) (hlen : 2 ≤ frames.length)
    {i : Nat} (he : frames[i]? = some entry) {x : List UInt8} (hx : canvases[i]? = some x) :
    (c.materializeDependent id i x).Animated id img (frames.set i (.materialized entry.id x)) state canvases
      ∧ ∀ y, y ≠ id → SameImage c (c.materializeDependent id i x) y := by
  have hset : ∀ c' : Cache, c'.images = c.images → c'.animations = c.animations → c'.nextFrameId = c.nextFrameId →
      c'.animationFrames = (c.setEntry id i (.materialized entry.id x)).animationFrames →
      c'.Animated id img (frames.set i (.materialized entry.id x)) state canvases ∧ ∀ y, y ≠ id → SameImage c c' y := by
    intro c' hi ha hn hf
    refine ⟨⟨by rw [hi]; exact h.image, by rw [hf]; exact lookup_setEntry h.stored .., by rw [ha]; exact h.playing,
      h.ok.rebuild he hx, fun d hd => ?_, ?_, ?_, fun d hd => ?_⟩, fun y hy => ?_⟩
    · rw [hn]
      rcases List.mem_or_eq_of_mem_set hd with hd | rfl
      · exact h.below d hd
      · exact h.below entry (List.mem_of_getElem? he)
    · rw [length_set]
      exact h.total
    · rw [length_set]
      exact h.current
    · have hone := congrArg List.length hd
      rw [length_set, length_singleton] at hone
      omega
    · exact .of_eq (by rw [hi]) (by rw [hf]; exact lookup_setEntry_ne hy ..) (by rw [ha]) hn.ge
  unfold materializeDependent
  rw [h.stored, getD_some, he]
  dsimp only
  split <;> exact hset _ rfl rfl rfl rfl

/-- The same for all dependents. -/
theorem animated_materializeDependents (rebuilt : List (Nat × List UInt8))
    (h : c.Animated id img frames state canvases) (hlen : 2 ≤ frames.length)
    (hrebuilt : ∀ d ∈ rebuilt, canvases[d.1]? = some d.2)
    (hc' : rebuilt.foldl (fun c d => c.materializeDependent id d.1 d.2) c = c') :
    ∃ frames', c'.Animated id img frames' state canvases ∧ Rebuilt frames frames' (rebuilt.map Prod.fst)
      ∧ ∀ y, y ≠ id → SameImage c c' y := by
  induction rebuilt generalizing c frames with
  | nil =>
    subst hc'
    exact ⟨frames, h, ⟨rfl, fun _ _ => rfl, nofun⟩, fun y _ => .refl c y⟩
  | cons d rebuilt ih =>
    have hx := hrebuilt d (mem_cons_self ..)
    have hlt : d.1 < frames.length := by
      rw [← h.ok.length]
      exact (List.getElem?_eq_some_iff.mp hx).1
    obtain ⟨entry, he⟩ : ∃ entry, frames[d.1]? = some entry := ⟨_, getElem?_eq_getElem hlt⟩
    obtain ⟨hanim, hothers⟩ := animated_materializeDependent h hlen he hx
    obtain ⟨frames', hanim', hrebuilt', hothers'⟩ := ih hanim (by rw [length_set]; exact hlen)
      (fun e he => hrebuilt e (mem_cons_of_mem _ he)) hc'
    have hfirst := rebuilt_set entry.id d.2 hlt
    exact ⟨frames', hanim', hfirst.trans hrebuilt', fun y hy => (hothers y hy).trans (hothers' y hy)⟩

/-- The deltas based on a frame, with what they stand for. -/
theorem mem_deltaDependents (c : Cache) (id : ImageId) (frames : List FrameEntry) (idx target i : Nat) (x : List UInt8) :
    (i, x) ∈ c.deltaDependents id frames idx target ↔
      ∃ entry, frames[i]? = some entry ∧ entry.base = some target ∧ i ≠ idx ∧ c.resolveEntry id entry = some x := by
  unfold deltaDependents
  rw [mem_filterMap]
  constructor
  · rintro ⟨⟨j, entry⟩, hmem, hsome⟩
    obtain ⟨k, hk, heq⟩ := mem_mapIdx.mp hmem
    have hentry : frames[j]? = some entry := by
      cases heq
      exact getElem?_eq_getElem hk
    cases entry with
    | materialized fid data => cases hsome
    | delta fid base rect payload mode depth area =>
      dsimp only at hsome
      split at hsome
      · next hcond =>
        obtain ⟨canvas, hcanvas, heq⟩ := map_eq_some_iff.mp hsome
        cases heq
        exact ⟨_, hentry, congrArg some hcond.2, hcond.1, hcanvas⟩
      · cases hsome
  · rintro ⟨entry, hentry, hbase, hne, hresolve⟩
    obtain ⟨hlt, rfl⟩ := List.getElem?_eq_some_iff.mp hentry
    refine ⟨(i, frames[i]), mem_mapIdx.mpr ⟨i, hlt, rfl⟩, ?_⟩
    generalize frames[i] = entry at hbase hresolve
    cases entry with
    | materialized fid data => cases hbase
    | delta fid base rect payload mode depth area =>
      cases hbase
      dsimp only
      rw [if_pos ⟨hne, rfl⟩, hresolve]
      rfl

/-- Once the dependents are rebuilt, nothing is based on the frame deleted. -/
theorem unreferenced_of_rebuilt (h : c.Animated id img frames state canvases) {frames' : List FrameEntry} {idx : Nat}
    (he : frames[idx]? = some entry)
    (hr : Rebuilt frames frames' ((c.deltaDependents id frames idx entry.id).map Prod.fst)) :
    Unreferenced frames' entry := by
  intro d hd hbase
  obtain ⟨j, hj⟩ := mem_iff_getElem?.mp hd
  by_cases hin : j ∈ (c.deltaDependents id frames idx entry.id).map Prod.fst
  · have hfull := hr.full j hin d hj
    rw [← isSome_base, hbase] at hfull
    cases hfull
  · rw [hr.kept j hin] at hj
    refine hin ?_
    have hji : j ≠ idx := by
      rintro rfl
      obtain rfl := some.inj (he.symm.trans hj)
      obtain ⟨_, _, _, hlt, _⟩ := h.ok.chained.base entry (List.mem_of_getElem? he) _ hbase
      exact Nat.lt_irrefl _ hlt
    obtain ⟨x, hx, _⟩ := h.ok.canvas hj
    exact mem_map_of_mem ((mem_deltaDependents ..).mpr ⟨d, hj, hbase, hji, h.resolveEntry hj hx⟩)

/-- What `finishDeletion` leaves under other ids. -/
theorem sameImage_finishDeletion (c : Cache) (left : List FrameEntry) {x : ImageId} (hx : x ≠ id) :
    SameImage c (c.finishDeletion id left).1 x := by
  obtain ⟨c₁, c₂, hshown, hc₂, heq⟩ := c.finishDeletion_eq id left
  have h₁ : SameImage c c₁ x := by
    cases hshown with
    | nothing => exact .refl c x
    | frame =>
      unfold showFrame
      split
      · exact .of_eq (lookup_insert_ne hx) rfl rfl (Nat.le_refl _)
      · exact .refl c x
  have h₂ : SameImage c c₂ x := h₁.trans (hc₂ ▸ .of_eq rfl rfl rfl (Nat.le_refl _))
  rw [heq]
  split
  · exact h₂.trans (.of_eq rfl (lookup_erase_ne hx) (lookup_erase_ne hx) (Nat.le_refl _))
  · exact h₂

/-- **What is left of an animation**: a static image showing its last frame, or the other frames. -/
theorem represents_finishDeletion {left : List FrameEntry} (hi : c.images.lookup id = some img)
    (hf : c.animationFrames.lookup id = some left) (ha : c.animations.lookup id = some state)
    (hok : FramesOk img.width img.height left canvases) (hbelow : ∀ d ∈ left, d.id < c.nextFrameId)
    (htotal : state.totalFrames = left.length) (hcurrent : state.currentFrame < left.length) :
    (c.finishDeletion id left).1.Represents id (some ⟨img.width, img.height, canvases⟩) := by
  unfold finishDeletion
  rw [ha]
  dsimp only [map_some]
  by_cases hone : left.length ≤ 1
  · obtain ⟨entry, rfl⟩ := length_eq_one_iff.mp (show left.length = 1 by omega)
    have hzero : state.currentFrame = 0 := by
      omega
    rw [hzero]
    obtain ⟨x, hx, hresolves⟩ := hok.canvas (show [entry][0]? = some entry from rfl)
    have hcanvases : canvases = [x] := by
      have hlen := hok.length
      obtain ⟨y, rfl⟩ := length_eq_one_iff.mp hlen
      cases hx
      rfl
    cases entry with
    | delta fid base rect payload mode depth area =>
      obtain ⟨d, hd, hid, hlt, _⟩ := hok.chained.base _ (mem_singleton_self _) base rfl
      rw [mem_singleton.mp hd] at hid
      rw [← hid] at hlt
      exact absurd hlt (Nat.lt_irrefl _)
    | materialized fid data =>
      obtain rfl := resolves_materialized hresolves
      rw [hcanvases]
      unfold showFrame
      rw [hi]
      exact .static (img.show fid x).bump (lookup_insert _) (lookup_erase ..) (lookup_erase ..)
  · rw [if_neg hone]
    have hanim : c.Animated id img left state canvases :=
      ⟨hi, hf, ha, hok, hbelow, htotal, hcurrent, fun d hd => by
        rw [hd] at hone
        exact absurd (Nat.le_refl 1) hone⟩
    have hsame : ∀ c' : Cache, SameImage c' { c' with frameStarts := c'.frameStarts.erase id, dirty := true } id :=
      fun c' => .of_eq rfl rfl rfl (Nat.le_refl _)
    refine (hsame _).represents ?_
    split
    · next fid data hentry =>
      unfold showFrame
      rw [hi]
      have hshown : Animated { c with images := c.images.insert id (img.show fid data).bump } id (img.show fid data).bump
          left state canvases := by
        refine hanim.redisplay ?_ ?_ ?_ ?_ rfl rfl rfl hcurrent (.inr ⟨fid, List.mem_of_getElem? hentry, rfl⟩)
        · exact lookup_insert _
        · exact hf
        · exact ha
        · exact Nat.le_refl _
      exact hshown.represents rfl rfl
    · exact .animated hanim

/-- A state after a deletion. -/
theorem removeFrame_bounds (state : AnimationState) (idx : Nat) {total : Nat} (hpos : 0 < total) :
    (state.removeFrame idx total).totalFrames = total ∧ (state.removeFrame idx total).currentFrame < total := by
  unfold AnimationState.removeFrame
  dsimp only
  refine ⟨rfl, ?_⟩
  generalize (if idx < state.currentFrame then state.currentFrame - 1 else state.currentFrame) = cur
  split
  · omega
  · next hbound => omega

/-- **An animation of one frame** is left as a static image when its only frame is deleted. -/
theorem Animated.represents_dropAnimation (hanim : c.Animated id img frames state canvases) (hshort : frames.length ≤ 1) :
    (c.dropAnimation id).Represents id (some ⟨img.width, img.height, canvases⟩) := by
  have hpos := hanim.current
  obtain ⟨entry, rfl⟩ := length_eq_one_iff.mp (show frames.length = 1 by omega)
  obtain ⟨x, hx, hresolves⟩ := hanim.ok.canvas (show [entry][0]? = some entry from rfl)
  have hsingle := (hanim.single entry rfl).1
  rw [hsingle] at hresolves
  have hcanvas : canvases = [img.data] := by
    obtain ⟨y, hy⟩ := length_eq_one_iff.mp (hanim.ok.length)
    rw [hy] at hx
    cases hx
    rw [hy, resolves_materialized hresolves]
  rw [hcanvas]
  exact .static img hanim.image (lookup_erase ..) (lookup_erase ..)

/-- **A frame among others** is deleted from the stored frames, with the deltas over it rebuilt first. -/
theorem matches_removeOne (h : c.Matches s) (hs : s id = some eager)
    (hanim : c.Animated id img frames state eager.frames) (hw : img.width = eager.width)
    (hh : img.height = eager.height) (hshort : ¬frames.length ≤ 1) (frameNumber : Nat)
    (hc₁ : (c.rebuiltBy id frames frameNumber).foldl (fun c d => c.materializeDependent id d.1 d.2) c = c₁) {r : Cache × Bool}
    (hr : r = (c₁.unlinkEntry id (deletedIndex frames frameNumber)).finishDeletion id
      (((c₁.animationFrames.lookup id).getD []).eraseIdx (deletedIndex frames frameNumber))) :
    r.1.Matches ((s.modify id fun img => some (img.removeFrame frameNumber)).heldBy r.1) := by
  have hlt : deletedIndex frames frameNumber < frames.length := by
    unfold deletedIndex
    omega
  obtain ⟨entry, hentry⟩ : ∃ entry, frames[deletedIndex frames frameNumber]? = some entry :=
    ⟨_, getElem?_eq_getElem hlt⟩
  have hrebuiltBy : c.rebuiltBy id frames frameNumber
      = c.deltaDependents id frames (deletedIndex frames frameNumber) entry.id := by
    unfold rebuiltBy
    rw [hentry]
    rfl
  have hdependents : ∀ d ∈ c.rebuiltBy id frames frameNumber, eager.frames[d.1]? = some d.2 := by
    intro d hd
    obtain ⟨e, he, _, _, hresolve⟩ := (mem_deltaDependents ..).mp hd
    obtain ⟨x, hx, _⟩ := hanim.ok.canvas he
    rw [hanim.resolveEntry he hx] at hresolve
    rw [hx, hresolve]
  obtain ⟨frames₁, hanim₁, hrebuilt, hothers₁⟩ :=
    animated_materializeDependents _ hanim (by omega) hdependents hc₁
  rw [hr, hanim₁.stored, getD_some]
  have hidx : deletedIndex frames frameNumber
      = min (if frameNumber = 0 then 1 else frameNumber) eager.frames.length - 1 := by
    unfold deletedIndex
    rw [hanim.ok.length]
  have hentry₁ : frames₁[deletedIndex frames frameNumber]? = some entry := by
    rw [hrebuilt.kept _ (deltaDependents_spec ..).2]
    exact hentry
  rw [hrebuiltBy] at hrebuilt
  have hok := hanim₁.ok.erase hentry₁ (unreferenced_of_rebuilt hanim hentry hrebuilt)
  have hlen₁ := hrebuilt.length
  generalize deletedIndex frames frameNumber = idx at hlt hentry₁ hok hidx ⊢
  have hleft : (frames₁.eraseIdx idx).length + 1 = frames₁.length := by
    rw [length_eraseIdx_of_lt (by omega)]
    omega
  obtain ⟨htotal, hcurrent⟩ := removeFrame_bounds state idx (show 0 < (frames₁.eraseIdx idx).length by omega)
  have hunlinked : ∀ x, x ≠ id → SameImage c₁ (c₁.unlinkEntry id idx) x := by
    intro x hx
    unfold unlinkEntry
    rw [hanim₁.playing]
    exact .of_eq rfl (lookup_insert_ne hx) (lookup_insert_ne hx) (Nat.le_refl _)
  have hstored : (c₁.unlinkEntry id idx).animationFrames.lookup id = some (frames₁.eraseIdx idx) := by
    unfold unlinkEntry
    rw [hanim₁.stored]
    exact lookup_insert _
  have hplaying : (c₁.unlinkEntry id idx).animations.lookup id
      = some (state.removeFrame idx (frames₁.eraseIdx idx).length) := by
    unfold unlinkEntry
    rw [hanim₁.stored, hanim₁.playing]
    exact lookup_insert _
  refine h.change id (fun x hx => .inr (((hothers₁ x hx).trans (hunlinked x hx)).trans
    (sameImage_finishDeletion _ _ hx))) (fun x hx => modify_other s _ hx) ?_
  have hremoved : eager.removeFrame frameNumber = ⟨img.width, img.height, eager.frames.eraseIdx idx⟩ := by
    unfold EagerImage.removeFrame
    rw [if_neg (by rw [hanim.ok.length]; exact hshort), ← hidx, hw, hh]
  rw [modify_same s id _ hs, hremoved]
  exact represents_finishDeletion hanim₁.image hstored hplaying hok
    (fun d hd => hanim₁.below d ((List.eraseIdx_sublist ..).subset hd)) htotal hcurrent

/-- **Deleting a frame** deletes that of the reference. -/
theorem matches_removeAnimationFrame (h : c.Matches s) (id : ImageId) (frameNumber : Nat) :
    (c.removeAnimationFrame id frameNumber).1.Matches
      ((s.modify id fun img => some (img.removeFrame frameNumber)).heldBy (c.removeAnimationFrame id frameNumber).1) := by
  have hrep := h id
  have hunchanged : ∀ c' : Cache, (∀ x, x ≠ id → SameImage c c' x) → (∀ eager, s id = some eager → eager.frames.length ≤ 1) →
      c'.Represents id (s id) →
      c'.Matches ((s.modify id fun img => some (img.removeFrame frameNumber)).heldBy c') := by
    intro c' hothers hshort hid
    refine h.change id (fun x hx => .inr (hothers x hx)) (fun x hx => modify_other s _ hx) ?_
    cases hs : s id with
    | none =>
      unfold EagerStore.modify
      rw [if_pos rfl, hs]
      rwa [hs] at hid
    | some eager =>
      rw [modify_same s id _ hs]
      unfold EagerImage.removeFrame
      rw [if_pos (hshort eager hs)]
      rwa [hs] at hid
  have hanimated : ∀ {frames}, c.animationFrames.lookup id = some frames → ∃ eager img state, s id = some eager
      ∧ c.Animated id img frames state eager.frames ∧ img.width = eager.width ∧ img.height = eager.height := by
    intro frames hf
    cases hs : s id with
    | none =>
      rw [hs] at hrep
      cases hrep with
      | absent _ hnone _ => rw [hnone] at hf; cases hf
    | some eager =>
      rw [hs] at hrep
      obtain ⟨img, state, hanim, hw, hh⟩ := hrep.of_frames hf
      exact ⟨eager, img, state, rfl, hanim, hw, hh⟩
  have hout := c.removeAnimationFrame_outcome id frameNumber
  generalize hr : c.removeAnimationFrame id frameNumber = r at hout ⊢
  cases hout with
  | missing hf =>
    refine hunchanged c (fun x _ => .refl c x) (fun eager hs => ?_) hrep
    rw [hs] at hrep
    cases hrep with
    | static img hi _ _ => exact Nat.le_refl 1
    | animated hanim => rw [hanim.stored] at hf; cases hf
  | single hf hshort =>
    obtain ⟨eager, img, state, hs, hanim, hw, hh⟩ := hanimated hf
    refine hunchanged _ (fun x hx => .of_eq rfl (lookup_erase_ne hx) (lookup_erase_ne hx)
      (Nat.le_refl _)) (fun eager' hs' => ?_) ?_
    · cases hs.symm.trans hs'
      rw [hanim.ok.length]
      exact hshort
    · have heager : eager = ⟨img.width, img.height, eager.frames⟩ := by rw [hw, hh]
      rw [hs, heager]
      exact hanim.represents_dropAnimation hshort
  | removed hf hlong hc₁ =>
    obtain ⟨eager, img, state, hs, hanim, hw, hh⟩ := hanimated hf
    exact matches_removeOne h hs hanim hw hh hlong frameNumber hc₁ rfl

end Cache

/-! ## Every operation -/

open Cache

namespace CacheOp

/-- **No delta loses its base**: a frame that is edited or composed onto has no deltas based on it, when the command
    is carried out. An animated image is stored with a duration for each frame. -/
def KeepsBases (c : Cache) : CacheOp → Bool
  | storeAnimated _ frames durations _ => durations.length == frames.length
  | putFrame req => c.editKeepsBases req
  | composeFrame req => c.composeKeepsBases req
  | _ => true

/-- **One operation** keeps the relation between the stores. -/
theorem matches_applyBoth {c : Cache} {s : EagerStore} (h : c.Matches s) (op : CacheOp) (hbases : op.KeepsBases c = true) :
    (op.applyBoth (c, s)).1.Matches (op.applyBoth (c, s)).2 := by
  have hplays : op.Plays → (op.apply c).Matches (s.heldBy (op.apply c)) :=
    fun hop => ((animationInvariant_matches s).apply c op hop h).held
  have hupkeep : op.Upkeep → (op.apply c).Matches (s.heldBy (op.apply c)) :=
    fun hop => h.survives (upkeepInvariant_survives.apply c op hop)
  cases op with
  | nextImageId =>
    have hnext : c.nextImageId.1.Matches s := h.of_eq rfl rfl rfl rfl
    exact hnext.held
  | store data => exact matches_store h data
  | storeAnimated data frames durations loopCount =>
    exact matches_storeAnimated h data frames durations loopCount (beq_iff_eq.mp hbases)
  | putFrame req => exact lands_putFrame h req hbases
  | composeFrame req => exact lands_composeFrame h req hbases
  | removeAnimationFrame id frameNumber => exact matches_removeAnimationFrame h id frameNumber
  | ensureAnimationStateForRootGap id gapUpdate => exact (matches_ensureAnimationStateForRootGap h id gapUpdate).held
  | setAnimationEnabled | setAnimationAction | setAnimationLoops | setFrameGap | setCurrentFrame | advanceAnimations =>
    exact hplays trivial
  | _ => exact hupkeep trivial

/-- The frames resolve to those of the reference, and the delta chains are well founded and short. -/
structure Agrees (p : Cache × EagerStore) : Prop where
  frames : ∀ id n, p.1.frameForNumber id n = p.2.frameForNumber id n
  chained : ∀ id frames, p.1.animationFrames.lookup id = some frames → WellChained frames
  short : ∀ id frames w h, p.1.animationFrames.lookup id = some frames → ∀ e ∈ frames,
    (frameChain w h).EndsWithin frames (maxDeltaChainDepth + 1) e

theorem agrees_of_matches {p : Cache × EagerStore} (h : p.1.Matches p.2) : Agrees p := by
  have hchained : ∀ id frames, p.1.animationFrames.lookup id = some frames → WellChained frames := by
    intro id frames hf
    have hrep := h id
    generalize p.2 id = e at hrep
    cases hrep with
    | absent _ hnone | static _ _ hnone => rw [hnone] at hf; cases hf
    | animated hanim =>
      cases hanim.stored.symm.trans hf
      exact hanim.ok.chained
  exact ⟨fun id n => (h id).frameForNumber n, hchained, fun id frames w h hf e he => (hchained id frames hf).endsWithin w h he⟩

/-- **Delta storage is equivalent to eager storage** over every run of operations none of which writes over a frame
    that a stored delta is based on. -/
theorem eager_run (ops : List CacheOp)
    (h : Along applyBoth (fun p op => op.KeepsBases p.1 = true) (.new, fun _ => none) ops) :
    Agrees (run applyBoth (.new, fun _ => none) ops) := by
  refine agrees_of_matches (Along.invariant
    (fun p op hp hbases => matches_applyBoth hp op hbases) (fun _ => ?_) h)
  exact .absent rfl rfl rfl

/-- An append over the root, an edit of the new frame, its deletion. -/
theorem eager_run_of_append :
    Agrees (run applyBoth (.new, fun _ => none) [.store twoPixels, .putFrame (onePixel (.append 0) (.frame 1)),
      .putFrame (onePixel (.edit 2 none) .editTarget), .removeAnimationFrame 1 1]) :=
  eager_run _ (by decide +kernel)

/-- The second frame is the root with its first pixel drawn over. Editing the second pixel of the root changes that
    of the second frame. -/
theorem edit_of_base_changes_delta :
    ((run applyBoth (.new, fun _ => none) [.store twoPixels, .putFrame (onePixel (.append 0) (.frame 1)),
        .putFrame { onePixel (.edit 1 none) .editTarget with blit := ⟨1, 0, 1, 1⟩ }]).1.frameForNumber 1 2
      = some [1, 2, 3, 255, 1, 2, 3, 255])
      ∧ (run applyBoth (.new, fun _ => none) [.store twoPixels, .putFrame (onePixel (.append 0) (.frame 1)),
        .putFrame { onePixel (.edit 1 none) .editTarget with blit := ⟨1, 0, 1, 1⟩ }]).2.frameForNumber 1 2
      = some [1, 2, 3, 255, 0, 0, 0, 0] := by
  decide +kernel

end CacheOp

end OriTerm.Image
