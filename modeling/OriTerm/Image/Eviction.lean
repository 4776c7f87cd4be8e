import OriTerm.Image.Memory

/-!
# `Image.Eviction` — the memory limit, and which images give way

Storing an image or appending a frame first evicts unpinned images, least recently used first, until the new bytes
fit. **`evictLoop_lru`** says which images go, **`evictLoop_fits`** what the loop achieves. What a whole operation
evicts is `CacheOp.EvictsSafely`, without condition; that the limit holds after an operation that adds pixel data
(`CacheOp.AddsPixels`) needs `CacheOp.Fits`, because an animated store and the rebuilding of deltas make no room.
-/

namespace OriTerm.Image

open Lib List Option AList

namespace Cache

variable {c c' : Cache} {id : ImageId}

/-! ## Which images go -/

/-- When the image was last used. -/
def lastUse (c : Cache) (id : ImageId) : Nat := ((c.images.lookup id).map (·.lastAccessed)).getD 0

/-- **The victims of an eviction**, in the order they go: images that are not pinned, the least recently used
    first, and none of them used after an unpinned image that stays. -/
structure LruVictims (pinned : ImageId → Bool) (c : Cache) (victims : List ImageId) : Prop where
  unpinned : ∀ v ∈ victims, c.holds v = true ∧ pinned v = false
  ordered : victims.Pairwise fun v w => c.lastUse v ≤ c.lastUse w
  least : ∀ v ∈ victims, ∀ w, c.holds w = true → pinned w = false → w ∉ victims → c.lastUse v ≤ c.lastUse w

theorem holds_eq_true : c.holds id = true ↔ ∃ img, c.images.lookup id = some img := isSome_iff_exists

variable {pinned : ImageId → Bool}

/-- The victim is the least recently used unpinned image. -/
theorem victim_spec (h : c.victim pinned = some id) :
    c.holds id = true ∧ pinned id = false
      ∧ ∀ w, c.holds w = true → pinned w = false → c.lastUse id ≤ c.lastUse w := by
  have hpinned := victim_unreachable h
  obtain ⟨e, he, rfl⟩ := map_eq_some_iff.mp h
  have hmem := (mem_filter.mp (argmin_mem he)).1
  have hlookup : ∀ e' ∈ c.images.entries, c.images.lookup e'.1 = some e'.2 :=
    fun e' he' => mem_lookup_iff.mpr he'
  refine ⟨holds_eq_true.mpr ⟨_, hlookup e hmem⟩, hpinned, fun w hw hwp => ?_⟩
  obtain ⟨img, hi⟩ := holds_eq_true.mp hw
  have hin : ⟨w, img⟩ ∈ c.images.entries.filter fun e => !pinned e.1 := by
    rw [mem_filter, hwp]
    exact ⟨mem_lookup_iff.mp hi, rfl⟩
  have hle := le_of_mem_argmin hin he
  unfold lastUse
  rw [hlookup e hmem, hi]
  exact hle

theorem holds_removeImage (c : Cache) (v x : ImageId) : (c.removeImage v).holds x = (c.holds x && decide (x ≠ v)) := by
  unfold holds
  by_cases hx : x = v
  · rw [hx, removeImage_lookup]
    simp
  · rw [(removeImage_lookup_ne c hx).1]
    simp [hx]

theorem lastUse_removeImage {v x : ImageId} (h : x ≠ v) : (c.removeImage v).lastUse x = c.lastUse x := by
  unfold lastUse
  rw [(removeImage_lookup_ne c h).1]

variable {victims : List ImageId}

/-- The first victim in front of the victims of the rest of the loop. -/
theorem LruVictims.cons {v : ImageId} (hv : c.victim pinned = some v)
    (h : (c.removeImage v).LruVictims pinned victims) : c.LruVictims pinned (v :: victims) := by
  obtain ⟨hheld, hunpinned, hleast⟩ := victim_spec hv
  have hkept : ∀ w ∈ victims, w ≠ v ∧ c.holds w = true := by
    intro w hw
    have hholds := (h.unpinned w hw).1
    rw [holds_removeImage, Bool.and_eq_true, decide_eq_true_eq] at hholds
    exact ⟨hholds.2, hholds.1⟩
  refine ⟨fun w hw => ?_, pairwise_cons.mpr ⟨fun w hw => ?_, ?_⟩, fun w hw x hx hxp hxn => ?_⟩
  · rcases mem_cons.mp hw with rfl | hw
    · exact ⟨hheld, hunpinned⟩
    · exact ⟨(hkept w hw).2, (h.unpinned w hw).2⟩
  · exact hleast w (hkept w hw).2 (h.unpinned w hw).2
  · refine h.ordered.imp_of_mem fun hw hx hle => ?_
    rwa [lastUse_removeImage (hkept _ hw).1, lastUse_removeImage (hkept _ hx).1] at hle
  · rw [mem_cons, not_or] at hxn
    rcases mem_cons.mp hw with rfl | hw
    · exact hleast x hx hxp
    · have hheldx : (c.removeImage v).holds x = true := by
        rw [holds_removeImage, hx, decide_eq_true hxn.1]
        rfl
      have hle := h.least w hw x hheldx hxp hxn.2
      rwa [lastUse_removeImage (hkept w hw).1, lastUse_removeImage hxn.1] at hle

/-! ## What an eviction releases -/

/-- The bytes of the images in the cache. -/
def heldBytes (c : Cache) : Nat := (c.images.keys.map c.imageBytes).sum

/-- The bytes of some of them. -/
def bytesOf (c : Cache) (ids : List ImageId) : Nat := (ids.map c.imageBytes).sum

theorem imageBytes_removeImage_ne {v x : ImageId} (h : x ≠ v) : (c.removeImage v).imageBytes x = c.imageBytes x := by
  unfold imageBytes
  rw [(removeImage_lookup_ne c h).1, (removeImage_lookup_ne c h).2.1]

theorem keys_removeImage (h : c.holds id = true) : (c.removeImage id).images.keys = c.images.keys.erase id := by
  obtain ⟨img, hi⟩ := holds_eq_true.mp h
  unfold removeImage
  rw [hi]
  exact keys_erase ..

theorem mem_keys (h : c.holds id = true) : id ∈ c.images.keys :=
  AList.mem_keys.mpr (AList.lookup_isSome.mp h)

theorem memoryUsed_removeImage (c : Cache) (id : ImageId) :
    (c.removeImage id).memoryUsed = c.memoryUsed - if c.holds id then c.imageBytes id else 0 := by
  unfold removeImage holds imageBytes
  cases c.images.lookup id with
  | none => rfl
  | some img => cases c.animationFrames.lookup id <;> rfl

/-- The images that are left take as much less. -/
theorem heldBytes_removeImage (h : c.holds id = true) :
    (c.removeImage id).heldBytes + c.imageBytes id = c.heldBytes := by
  unfold heldBytes
  rw [keys_removeImage h, ← sum_map_erase c.imageBytes (mem_keys h), Nat.add_comm]
  congr 2
  refine map_congr_left fun x hx => imageBytes_removeImage_ne ?_
  rintro rfl
  exact ((keys_nodup c.images).not_mem_erase hx).elim

/-- The images `victims` went, with their bytes, and nothing else. -/
structure Evicted (pinned : ImageId → Bool) (c c' : Cache) (victims : List ImageId) : Prop where
  lru : c.LruVictims pinned victims
  lookup : ∀ x, c'.images.lookup x = if x ∈ victims then none else c.images.lookup x
  bytes : ∀ x ∉ victims, c'.imageBytes x = c.imageBytes x
  used : c'.memoryUsed = c.memoryUsed - c.bytesOf victims

theorem Evicted.nil (pinned : ImageId → Bool) (c : Cache) : Evicted pinned c c [] :=
  ⟨⟨nofun, .nil, nofun⟩, fun x => by rw [if_neg not_mem_nil], fun _ _ => rfl, rfl⟩

theorem Evicted.cons {v : ImageId} (hv : c.victim pinned = some v) (h : Evicted pinned (c.removeImage v) c' victims) :
    Evicted pinned c c' (v :: victims) := by
  refine ⟨h.lru.cons hv, fun x => ?_, fun x hx => ?_, ?_⟩
  · rw [h.lookup]
    by_cases hx : x = v
    · rw [hx, removeImage_lookup, if_pos (mem_cons_self ..), ite_self]
    · rw [(removeImage_lookup_ne c hx).1]
      simp [hx]
  · rw [mem_cons, not_or] at hx
    rw [h.bytes x hx.2, imageBytes_removeImage_ne hx.1]
  · have hrest : (c.removeImage v).bytesOf victims = c.bytesOf victims := by
      refine congrArg List.sum (map_congr_left fun w hw => imageBytes_removeImage_ne ?_)
      rintro rfl
      have hgone := (h.lru.unpinned w hw).1
      rw [holds_removeImage, decide_eq_false (fun hne => hne rfl), Bool.and_false] at hgone
      cases hgone
    rw [h.used, hrest, memoryUsed_removeImage, if_pos (victim_spec hv).1, Nat.sub_sub]
    rfl

/-- **Eviction is least recently used first**, and takes nothing but its victims. -/
theorem evictLoop_lru (pinned : ImageId → Bool) (size fuel : Nat) (c : Cache) :
    ∃ victims, Evicted pinned c (evictLoop pinned size fuel c).1 victims := by
  induction fuel generalizing c with
  | zero => exact ⟨[], .nil pinned c⟩
  | succ fuel ih =>
    unfold evictLoop
    split
    · split
      · next c' hevict =>
        obtain ⟨v, hv, rfl⟩ := map_eq_some_iff.mp hevict
        obtain ⟨victims, hvictims⟩ := ih (c.removeImage v)
        exact ⟨v :: victims, hvictims.cons hv⟩
      · exact ⟨[], .nil pinned c⟩
    · exact ⟨[], .nil pinned c⟩

/-! ## What the loop achieves -/

theorem memoryLimit_removeImage (c : Cache) (v : ImageId) : (c.removeImage v).memoryLimit = c.memoryLimit := by
  unfold removeImage
  split <;> rfl

theorem memoryUsed_removeImage_le (c : Cache) (v : ImageId) : (c.removeImage v).memoryUsed ≤ c.memoryUsed := by
  unfold removeImage
  split
  · exact Nat.le_refl _
  · exact Nat.sub_le ..

section

variable (pinned : ImageId → Bool) (size fuel : Nat) (c : Cache)

/-- What the loop never changes or raises. -/
theorem evictLoop_bounds : (evictLoop pinned size fuel c).1.memoryLimit = c.memoryLimit
      ∧ (evictLoop pinned size fuel c).1.memoryUsed ≤ c.memoryUsed :=
  evictLoop_invariant (P := fun c' => c'.memoryLimit = c.memoryLimit ∧ c'.memoryUsed ≤ c.memoryUsed)
    (fun c' v _ h => ⟨(memoryLimit_removeImage c' v).trans h.1, (memoryUsed_removeImage_le c' v).trans h.2⟩) size fuel
    ⟨rfl, Nat.le_refl _⟩

/-- **A loop that ends well made room**, unless it emptied the cache; a counter that is at most what was held is 0
    then. -/
theorem evictLoop_fits (hfuel : c.images.keys.length < fuel) (hok : (evictLoop pinned size fuel c).2 = true) :
    (evictLoop pinned size fuel c).1.memoryUsed + size ≤ c.memoryLimit
      ∨ ((∀ x, c.holds x = true → pinned x = false) ∧
          (c.memoryUsed ≤ c.heldBytes → (evictLoop pinned size fuel c).1.memoryUsed = 0)) := by
  induction fuel generalizing c with
  | zero => cases hfuel
  | succ fuel ih =>
    unfold evictLoop at hok ⊢
    split
    · next hover =>
      rw [if_pos hover] at hok
      cases hevict : c.evictOne pinned with
      | none => rw [hevict] at hok; cases hok
      | some c' =>
        rw [hevict] at hok
        obtain ⟨v, hv, rfl⟩ := map_eq_some_iff.mp hevict
        obtain ⟨hheld, hunpinned, _⟩ := victim_spec hv
        have hpos := length_pos_of_mem (mem_keys hheld)
        have hlen : (c.removeImage v).images.keys.length < fuel := by
          rw [keys_removeImage hheld, length_erase_of_mem (mem_keys hheld)]
          omega
        have hbytes := heldBytes_removeImage hheld
        have hused := memoryUsed_removeImage c v
        rw [if_pos hheld] at hused
        rcases ih _ hlen hok with hfits | ⟨hall, hzero⟩
        · rw [memoryLimit_removeImage] at hfits
          exact .inl hfits
        · refine .inr ⟨fun x hx => ?_, fun hle => hzero (by omega)⟩
          by_cases hxv : x = v
          · rw [hxv]
            exact hunpinned
          · exact hall x (by rw [holds_removeImage, hx, decide_eq_true hxv]; rfl)
    · next hover =>
      rw [not_and_or, Nat.not_lt, Bool.not_eq_true, Bool.not_eq_false', List.isEmpty_iff] at hover
      rcases hover with hfits | hempty
      · exact .inl hfits
      · have hnone : c.images = ∅ := AList.ext hempty
        refine .inr ⟨fun x hx => ?_, fun hle => ?_⟩
        · unfold holds at hx
          rw [hnone] at hx
          cases hx
        · have hzero : c.heldBytes = 0 := by
            unfold heldBytes
            rw [hnone]
            rfl
          show c.memoryUsed = 0
          omega

end

/-! ## What the frame pipeline leaves alone -/

/-- The two caches hold the same images, last used at the same times and placed alike, under the same limit. -/
structure Unmoved (c c' : Cache) : Prop where
  uses : ∀ x, (c'.images.lookup x).map (·.lastAccessed) = (c.images.lookup x).map (·.lastAccessed)
  placements : c'.placements = c.placements
  anchors : c'.placeholderAnchors = c.placeholderAnchors
  limit : c'.memoryLimit = c.memoryLimit

/-- Nor has the counter moved. -/
structure Still (c c' : Cache) : Prop extends Unmoved c c' where
  used : c'.memoryUsed = c.memoryUsed

variable {c'' : Cache}

theorem Unmoved.refl (c : Cache) : Unmoved c c := ⟨fun _ => rfl, rfl, rfl, rfl⟩

theorem Unmoved.trans (h : Unmoved c c') (h' : Unmoved c' c'') : Unmoved c c'' :=
  ⟨fun x => (h'.uses x).trans (h.uses x), h'.placements.trans h.placements, h'.anchors.trans h.anchors,
    h'.limit.trans h.limit⟩

theorem Still.refl (c : Cache) : Still c c := ⟨.refl c, rfl⟩

theorem Still.trans (h : Still c c') (h' : Still c' c'') : Still c c'' :=
  ⟨h.toUnmoved.trans h'.toUnmoved, h'.used.trans h.used⟩

theorem Unmoved.holds (h : Unmoved c c') (x : ImageId) : c'.holds x = c.holds x := by
  have huses := congrArg Option.isSome (h.uses x)
  rwa [isSome_map, isSome_map] at huses

theorem Unmoved.lastUse (h : Unmoved c c') (x : ImageId) : c'.lastUse x = c.lastUse x := by
  unfold Cache.lastUse
  rw [h.uses]

theorem Unmoved.reachable (h : Unmoved c c') : c'.reachable = c.reachable := by
  funext x
  unfold Cache.reachable
  rw [h.placements, h.anchors]

/-- One image is rewritten, last used when it was. -/
theorem still_insert {img : Data} (img' : Data) (h : c.images.lookup id = some img)
    (huse : img'.lastAccessed = img.lastAccessed) : Still c { c with images := c.images.insert id img' } := by
  refine ⟨⟨fun x => ?_, rfl, rfl, rfl⟩, rfl⟩
  by_cases hx : x = id
  · rw [hx, lookup_insert, h]
    exact congrArg some huse
  · rw [lookup_insert_ne hx]

/-- **Working on stored frames** moves neither an image nor the counter. -/
theorem frameInvariant_still : FrameInvariant Still :=
  ⟨.trans, fun _ _ _ _ _ _ _ => ⟨⟨fun _ => rfl, rfl, rfl, rfl⟩, rfl⟩, still_insert⟩

/-! ## Loading a frame -/

/-- What an append pins: whatever is placed or anchored, and the image itself. -/
def pinnedFor (c : Cache) (id : ImageId) : ImageId → Bool := fun x => c.reachable x || x == id

/-- From the first cache to the second, the images `victims` went. -/
structure Evicts (pinned : ImageId → Bool) (c c' : Cache) (victims : List ImageId) : Prop where
  lru : c.LruVictims pinned victims
  left : ∀ x, c'.holds x = (c.holds x && decide (x ∉ victims))

theorem Evicts.of_held (h : ∀ x, c'.holds x = c.holds x) : Evicts pinned c c' [] :=
  ⟨⟨nofun, .nil, nofun⟩, fun x => by rw [h x, decide_eq_true not_mem_nil, Bool.and_true]⟩

theorem Evicts.trans_held (h : Evicts pinned c c' victims) (h' : ∀ x, c''.holds x = c'.holds x) :
    Evicts pinned c c'' victims := ⟨h.lru, fun x => (h' x).trans (h.left x)⟩

/-- What the loop evicts from a cache prepared for it, whose images and their uses are the same. -/
theorem Evicted.evicts (hheld : ∀ x, c'.holds x = c.holds x) (huse : ∀ x, c'.lastUse x = c.lastUse x)
    (h : Evicted pinned c' c'' victims) : Evicts pinned c c'' victims := by
  refine ⟨⟨fun v hv => ?_, h.lru.ordered.imp fun {v w} hle => ?_, fun v hv w hw hwp hwn => ?_⟩, fun x => ?_⟩
  · obtain ⟨hv', hunpinned⟩ := h.lru.unpinned v hv
    exact ⟨(hheld v).symm.trans hv', hunpinned⟩
  · rwa [huse, huse] at hle
  · have hle := h.lru.least v hv w ((hheld w).trans hw) hwp hwn
    rwa [huse, huse] at hle
  · rw [← hheld]
    unfold holds
    rw [h.lookup]
    by_cases hx : x ∈ victims
    · rw [if_pos hx, decide_eq_false (not_not.mpr hx), Bool.and_false]
      rfl
    · rw [if_neg hx, decide_eq_true hx, Bool.and_true]

/-- An image rewritten in place is held as before. -/
theorem holds_insert {img : Data} (img' : Data) (h : c.images.lookup id = some img)
    (hi : c'.images = c.images.insert id img') (x : ImageId) : c'.holds x = c.holds x := by
  unfold holds
  rw [hi]
  by_cases hx : x = id
  · rw [hx, lookup_insert, h]
    rfl
  · rw [lookup_insert_ne hx]

/-- Appending a frame: which images went, and that the bytes fit if it was stored. -/
structure Appended (c : Cache) (id : ImageId) (r : Cache × Except Error Nat) : Prop where
  evicts : ∃ victims, Evicts (c.pinnedFor id) c r.1 victims
  fits : ∀ n, r.2 = .ok n → r.1.memoryUsed ≤ r.1.memoryLimit

theorem Appended.error (h : Still c c') (id : ImageId) (e : Error) : Appended c id (c', .error e) :=
  ⟨⟨[], .of_held h.holds⟩, nofun⟩

/-- **Making room for a frame** never takes its own image, so the loop ends within the limit or reports that it
    did not. -/
theorem evictForFrame_spec (h : Still c c') (hid : c.holds id = true) (size : Nat) :
    (∃ victims, Evicts (c.pinnedFor id) c (c'.evictForFrame id size).1 victims)
      ∧ ((c'.evictForFrame id size).2 = true →
          (c'.evictForFrame id size).1.memoryUsed + size ≤ (c'.evictForFrame id size).1.memoryLimit) := by
  have hpinned : c'.pinnedFor id = c.pinnedFor id := by
    unfold pinnedFor
    rw [h.reachable]
  obtain ⟨victims, hvictims⟩ := evictLoop_lru (c'.pinnedFor id) size (c'.images.entries.length + 1) c'
  refine ⟨⟨victims, ?_⟩, fun hok => ?_⟩
  · rw [← hpinned]
    exact hvictims.evicts h.holds h.toUnmoved.lastUse
  · have hlen : c'.images.keys.length < c'.images.entries.length + 1 := by
      show (c'.images.entries.map Sigma.fst).length < _
      rw [length_map]
      exact Nat.lt_succ_self _
    have hlimit := (evictLoop_bounds (c'.pinnedFor id) size (c'.images.entries.length + 1) c').1
    unfold evictForFrame at hok ⊢
    rw [show (fun x => c'.reachable x || x == id) = c'.pinnedFor id from rfl] at hok ⊢
    rw [hlimit]
    rcases evictLoop_fits _ _ _ c' hlen hok with hfits | ⟨hall, _⟩
    · exact hfits
    · have hfalse := hall id ((h.holds id).trans hid)
      unfold pinnedFor at hfalse
      rw [beq_self_eq_true, Bool.or_true] at hfalse
      cases hfalse

theorem appended_pushDeltaFrame (h : Still c c') (hid : c.holds id = true) (base depth area : Nat)
    (req : FrameLoadRequest) (gap : Nanos) : Appended c id (c'.pushDeltaFrame id base depth area req gap) := by
  obtain ⟨⟨victims, hvictims⟩, hfits⟩ := evictForFrame_spec h hid req.frameData.length
  unfold pushDeltaFrame
  dsimp only
  split
  · exact ⟨⟨victims, hvictims⟩, nofun⟩
  · next hok =>
    rw [Bool.not_eq_true, Bool.not_eq_false'] at hok
    exact ⟨⟨victims, hvictims.trans_held fun _ => rfl⟩, fun _ _ => hfits hok⟩

theorem tryPushDeltaAppend_spec (c : Cache) (req : FrameLoadRequest) (imageW imageH : Nat)
    (hid : c.holds req.imageId = true) :
    ((c.tryPushDeltaAppend req imageW imageH).2 = none → Still c (c.tryPushDeltaAppend req imageW imageH).1)
      ∧ ∀ result, (c.tryPushDeltaAppend req imageW imageH).2 = some result →
          Appended c req.imageId ((c.tryPushDeltaAppend req imageW imageH).1, result) := by
  unfold tryPushDeltaAppend
  split
  · next gap n _ _ =>
    dsimp only
    split
    · next e _ =>
      refine ⟨nofun, fun result hresult => ?_⟩
      cases hresult
      exact .error (.refl c) _ e
    · next c₁ hpromoted =>
      have hstill : Still c c₁ := by
        split at hpromoted
        · exact frameInvariant_still.autoPromoteStaticRoot hpromoted
        · cases hpromoted
          exact .refl c
      split
      · exact ⟨fun _ => hstill, nofun⟩
      · next base _ =>
        generalize (if base.isDelta = true then base.depth + 1 else 0) = depth
        split
        · refine ⟨nofun, fun result hresult => ?_⟩
          cases hresult
          exact appended_pushDeltaFrame hstill hid ..
        · exact ⟨fun _ => hstill, nofun⟩
  · exact ⟨fun _ => .refl c, nofun⟩

theorem appended_pushComposedFrame (h : Still c c') (hid : c.holds id = true) (composed : List UInt8) (gap : Nanos) :
    Appended c id (c'.pushComposedFrame id composed gap) := by
  obtain ⟨⟨victims, hvictims⟩, hfits⟩ := evictForFrame_spec h hid composed.length
  unfold pushComposedFrame
  split
  · exact .error h id _
  · dsimp only
    split
    · exact ⟨⟨victims, hvictims⟩, nofun⟩
    · next hok =>
      rw [Bool.not_eq_true, Bool.not_eq_false'] at hok
      have hroom := hfits hok
      generalize (c'.evictForFrame id composed.length).1 = e at hvictims hroom
      split
      · exact ⟨⟨victims, hvictims.trans_held fun _ => rfl⟩, fun _ _ => hroom⟩
      · exact ⟨⟨victims, hvictims⟩, nofun⟩
      · next img _ hi =>
        have hheld : ∀ x, (e.promoteRoot id img 0).holds x = e.holds x :=
          holds_insert { img with sharedFrame := some e.nextFrameId } hi rfl
        exact ⟨⟨victims, hvictims.trans_held hheld⟩, fun _ _ => hroom⟩

/-- **Loading a frame.** An append evicts for its bytes and leaves the cache within the limit; an edit moves neither
    an image nor the counter. -/
theorem putFrame_moves (c : Cache) (req : FrameLoadRequest) :
    (∀ gap, req.target = .append gap → Appended c req.imageId (c.putFrame req))
      ∧ ∀ n gapUpdate, req.target = .edit n gapUpdate → Still c (c.putFrame req).1 := by
  have hedited : ∀ {r : Cache × Except Error Nat} {n gapUpdate}, req.target = .edit n gapUpdate → Still c r.1 →
      (∀ gap, req.target = .append gap → Appended c req.imageId r)
        ∧ ∀ n gapUpdate, req.target = .edit n gapUpdate → Still c r.1 := by
    intro r n gapUpdate htarget h
    refine ⟨fun gap ht => ?_, fun _ _ _ => h⟩
    cases htarget.symm.trans ht
  have happended : ∀ {r : Cache × Except Error Nat} {gap}, req.target = .append gap → Appended c req.imageId r →
      (∀ gap, req.target = .append gap → Appended c req.imageId r)
        ∧ ∀ n gapUpdate, req.target = .edit n gapUpdate → Still c r.1 := by
    intro r gap htarget h
    refine ⟨fun _ _ => h, fun n gapUpdate ht => ?_⟩
    cases htarget.symm.trans ht
  have hpush := fun img (h : c.Accepts req img) =>
    tryPushDeltaAppend_spec c req img.width img.height (holds_eq_true.mpr ⟨img, h.image⟩)
  have hout := c.putFrame_outcome req
  generalize c.putFrame req = r at hout ⊢
  cases hout with
  | rejected => exact ⟨fun _ _ => .error (.refl c) _ _, fun _ _ _ => .refl c⟩
  | @pushed img _ _ result h htarget hc' hpushed =>
    exact happended htarget (hc' ▸ (hpush img h).2 result hpushed)
  | @unsourced img _ c' _ h htarget hc' hdeclined =>
    have hstill : Still c c' := hc' ▸ (hpush img h).1 hdeclined
    exact happended htarget (.error hstill _ _)
  | @appended img _ c' _ _ h htarget hc' hdeclined =>
    have hstill : Still c c' := hc' ▸ (hpush img h).1 hdeclined
    exact happended htarget (appended_pushComposedFrame hstill (holds_eq_true.mpr ⟨img, h.image⟩) ..)
  | edited _ htarget hc' => exact hedited htarget (hc' ▸ frameInvariant_still.tryEditInPlace c req ..)
  | untargeted _ htarget => exact hedited htarget (.refl c)
  | replaced _ htarget => exact hedited htarget (frameInvariant_still.replaceFrameBytes ..)

/-! ## Storing an image -/

/-- The bytes that storing an image of the given id releases, after the victims went: those of the victims, and of
    the image it replaces. -/
def releasedBytes (c : Cache) (victims : List ImageId) (id : ImageId) : Nat :=
  c.bytesOf victims + if c.holds id = true ∧ id ∉ victims then c.imageBytes id else 0

/-- An eviction that empties the cache makes room: something is pinned, so that it does not, or the size is within
    the limit and the counter is not above the bytes held. -/
def emptiedFits (c : Cache) (size : Nat) : Bool :=
  c.images.keys.any c.reachable || (decide (size ≤ c.memoryLimit) && decide (c.memoryUsed ≤ c.heldBytes))

/-- The victims of a store, and what it stored. -/
structure StoresSafely (c : Cache) (r : Cache × Except Error ImageId) (victims : List ImageId) : Prop where
  lru : c.LruVictims c.reachable victims
  left : ∀ x, r.1.holds x = ((c.holds x && decide (x ∉ victims)) || r.2.toOption == some x)

/-- A store that went through made room for its bytes, or emptied a cache that nothing was placed from. -/
structure MadeRoom (c : Cache) (size : Nat) (victims : List ImageId) : Prop where
  room : c.memoryUsed - c.bytesOf victims + size ≤ c.memoryLimit
    ∨ (c.images.keys.any c.reachable = false ∧ (c.memoryUsed ≤ c.heldBytes → c.memoryUsed - c.bytesOf victims = 0))

/-- The new image replaces the one of its id. -/
theorem replaced_spec (h : Evicted c.reachable c c' victims) (counter size : Nat) {d : Data}
    (hi : c''.images = (removeImage { c' with accessCounter := counter } id).images.insert id d)
    (hu : c''.memoryUsed = (removeImage { c' with accessCounter := counter } id).memoryUsed + size) :
    (∀ x, c''.holds x = ((c.holds x && decide (x ∉ victims)) || some id == some x))
      ∧ c''.memoryUsed = c.memoryUsed - c.releasedBytes victims id + size := by
  have hleft := (h.evicts (fun _ => rfl) fun _ => rfl).left
  constructor
  · intro x
    unfold holds
    rw [hi]
    by_cases hx : x = id
    · rw [hx, lookup_insert, beq_self_eq_true, Bool.or_true]
      rfl
    · rw [lookup_insert_ne hx, (removeImage_lookup_ne _ hx).1]
      show c'.holds x = (_ || some id == some x)
      have hne : (some id == some x) = false := beq_eq_false_iff_ne.mpr fun he => hx (some.inj he).symm
      rw [hleft, hne, Bool.or_false]
      rfl
  · have hreplaced : (if c'.holds id = true then c'.imageBytes id else 0)
        = if c.holds id = true ∧ id ∉ victims then c.imageBytes id else 0 := by
      rw [hleft]
      by_cases hv : id ∈ victims
      · rw [decide_eq_false (not_not.mpr hv), Bool.and_false, if_neg Bool.false_ne_true, if_neg fun hh => hh.2 hv]
      · rw [decide_eq_true hv, Bool.and_true, h.bytes id hv]
        exact if_congr (and_iff_left hv).symm rfl rfl
    rw [hu, memoryUsed_removeImage]
    show c'.memoryUsed - (if c'.holds id = true then c'.imageBytes id else 0) + size = _
    rw [hreplaced, h.used, Nat.sub_sub]
    rfl

/-- **Storing an image.** -/
theorem store_spec (c : Cache) (data : Data) :
    ∃ victims, c.StoresSafely (c.store data) victims ∧ ∀ id, (c.store data).2 = .ok id →
      id = data.id ∧ (c.store data).1.memoryLimit = c.memoryLimit ∧ c.MadeRoom data.data.length victims
        ∧ (c.store data).1.memoryUsed = c.memoryUsed - c.releasedBytes victims id + data.data.length := by
  have herror : ∀ {c' : Cache} {victims : List ImageId} (e : Error), Evicts c.reachable c c' victims →
      c.StoresSafely (c', .error e) victims := by
    intro c' victims e h
    refine ⟨h.lru, fun x => ?_⟩
    rw [h.left]
    exact (Bool.or_false _).symm
  unfold store
  dsimp only
  split
  · exact ⟨[], herror _ (.of_held fun _ => rfl), nofun⟩
  · obtain ⟨victims, hvictims⟩ := evictLoop_lru c.reachable data.data.length (c.images.entries.length + 1) c
    have hfits := evictLoop_fits c.reachable data.data.length (c.images.entries.length + 1) c
      (by rw [show c.images.keys = c.images.entries.map Sigma.fst from rfl, length_map]; exact Nat.lt_succ_self _)
    have hlimit := (evictLoop_bounds c.reachable data.data.length (c.images.entries.length + 1) c).1
    generalize evictLoop c.reachable data.data.length (c.images.entries.length + 1) c = r at hvictims hfits hlimit
    obtain ⟨e, ok⟩ := r
    cases ok with
    | false => exact ⟨victims, herror _ (hvictims.evicts (fun _ => rfl) fun _ => rfl), nofun⟩
    | true =>
      refine ⟨victims, ⟨hvictims.lru, ?_⟩, fun id hid => ?_⟩
      · exact (replaced_spec hvictims (e.accessCounter + 1) data.data.length rfl rfl).1
      · cases hid
        refine ⟨rfl, (memoryLimit_removeImage ..).trans hlimit, ⟨?_⟩,
          (replaced_spec hvictims (e.accessCounter + 1) data.data.length rfl rfl).2⟩
        have hused := hvictims.used
        rcases hfits rfl with hroom | ⟨hall, hzero⟩
        · refine .inl ?_
          omega
        · refine .inr ⟨any_eq_false.mpr fun x hx => ?_, fun hle => ?_⟩
          · rw [hall x (AList.lookup_isSome.mpr (AList.mem_keys.mp hx))]
            exact Bool.false_ne_true
          · exact hused.symm.trans (hzero hle)

/-- The room that a store made holds the bytes of the image. -/
theorem MadeRoom.fits {size total : Nat} (h : c.MadeRoom size victims) (id : ImageId)
    (hempty : c.emptiedFits total = true)
    (hroom : c.memoryUsed - c.bytesOf victims + size ≤ c.memoryLimit → c.memoryUsed - c.releasedBytes victims id + total ≤ c.memoryLimit) :
    c.memoryUsed - c.releasedBytes victims id + total ≤ c.memoryLimit := by
  rcases h.room with hfits | ⟨hnone, hzero⟩
  · exact hroom hfits
  · unfold emptiedFits at hempty
    rw [hnone, Bool.false_or, Bool.and_eq_true, decide_eq_true_eq, decide_eq_true_eq] at hempty
    unfold releasedBytes
    omega

/-- The bytes of frames beyond the first fit whenever the first does. -/
def RoomForAll (c : Cache) (id : ImageId) (first total : Nat) : Prop :=
  ∀ victims, c.LruVictims c.reachable victims → c.memoryUsed - c.bytesOf victims + first ≤ c.memoryLimit →
    c.memoryUsed - c.releasedBytes victims id + total ≤ c.memoryLimit

/-- **Storing an animated image** evicts for its first frame. -/
theorem storeAnimated_spec (c : Cache) (data : Data) (frames : List (List UInt8)) (durations : List Nanos)
    (loopCount : Option Nat) {first : List UInt8} {rest : List (List UInt8)} (hframes : frames = first :: rest) :
    ∃ victims, c.StoresSafely (c.storeAnimated data frames durations loopCount) victims
      ∧ ∀ id, (c.storeAnimated data frames durations loopCount).2 = .ok id →
        id = data.id ∧ (c.storeAnimated data frames durations loopCount).1.memoryLimit = c.memoryLimit
          ∧ c.MadeRoom first.length victims
          ∧ (c.storeAnimated data frames durations loopCount).1.memoryUsed
            = c.memoryUsed - c.releasedBytes victims id + (frames.map List.length).sum := by
  subst hframes
  obtain ⟨victims, hsafe, hok⟩ := store_spec c { data with data := first }
  have hout := c.storeAnimated_outcome data first rest durations loopCount
  generalize c.storeAnimated data (first :: rest) durations loopCount = r at hout ⊢
  cases hout with
  | oversized =>
    exact ⟨[], ⟨⟨nofun, .nil, nofun⟩, fun x => by
      rw [decide_eq_true not_mem_nil, Bool.and_true]
      exact (Bool.or_false _).symm⟩, nofun⟩
  | failed _ hs =>
    rw [hs] at hsafe
    exact ⟨victims, hsafe, nofun⟩
  | @stored c' img _ hs hi =>
    rw [hs] at hsafe hok
    obtain ⟨-, hlimit, hroom, hused⟩ := hok _ rfl
    refine ⟨victims, ⟨hsafe.lru, fun x => ?_⟩, fun id' hid' => ?_⟩
    · rw [← hsafe.left]
      exact holds_insert { img with sharedFrame := some c'.nextFrameId } hi rfl x
    · cases hid'
      refine ⟨rfl, hlimit, hroom, ?_⟩
      show c'.memoryUsed + (rest.map List.length).sum = _
      rw [hused, map_cons, sum_cons, Nat.add_assoc]

/-! ## Deleting a frame -/

/-- The bytes by which deltas grow when they are rebuilt. -/
def inflation (c : Cache) (id : ImageId) (rebuilt : List (Nat × List UInt8)) : Nat :=
  (rebuilt.map fun d => d.2.length - c.entryBytes id d.1).sum

theorem materializeDependent_moves (c : Cache) (id : ImageId) (idx : Nat) (canvas : List UInt8) :
    Unmoved c (c.materializeDependent id idx canvas)
      ∧ (c.materializeDependent id idx canvas).memoryUsed ≤ c.memoryUsed + (canvas.length - c.entryBytes id idx)
      ∧ ∀ j, j ≠ idx → (c.materializeDependent id idx canvas).entryBytes id j = c.entryBytes id j := by
  unfold materializeDependent
  split
  · exact ⟨.refl c, Nat.le_add_right .., fun _ _ => rfl⟩
  · next entry hentry =>
    have hbytes : c.entryBytes id idx = entry.memoryBytes := by
      unfold entryBytes
      rw [hentry]
      rfl
    have hothers : ∀ {c' : Cache}, c'.animationFrames =
        (c.setEntry id idx (.materialized entry.id canvas)).animationFrames → ∀ j, j ≠ idx →
        c'.entryBytes id j = c.entryBytes id j := by
      intro c' hf j hj
      unfold entryBytes
      rw [hf]
      unfold setEntry
      rw [lookup_insert, getD_some, getElem?_set_ne hj.symm]
    rw [hbytes]
    split
    · exact ⟨⟨fun _ => rfl, rfl, rfl, rfl⟩, Nat.le_refl _, hothers rfl⟩
    · exact ⟨⟨fun _ => rfl, rfl, rfl, rfl⟩, (Nat.sub_le ..).trans (Nat.le_add_right ..), hothers rfl⟩

/-- The same for all dependents, at different places. -/
theorem materializeDependents_moves (rebuilt : List (Nat × List UInt8)) (c : Cache) (id : ImageId)
    (hnodup : (rebuilt.map Prod.fst).Nodup) :
    Unmoved c (rebuilt.foldl (fun c d => c.materializeDependent id d.1 d.2) c)
      ∧ (rebuilt.foldl (fun c d => c.materializeDependent id d.1 d.2) c).memoryUsed
          ≤ c.memoryUsed + c.inflation id rebuilt
      ∧ ∀ j, j ∉ rebuilt.map Prod.fst →
          (rebuilt.foldl (fun c d => c.materializeDependent id d.1 d.2) c).entryBytes id j = c.entryBytes id j := by
  induction rebuilt generalizing c with
  | nil => exact ⟨.refl c, Nat.le_refl _, fun _ _ => rfl⟩
  | cons d rebuilt ih =>
    rw [map_cons, nodup_cons] at hnodup
    obtain ⟨hmoved, hused, hothers⟩ := materializeDependent_moves c id d.1 d.2
    obtain ⟨hmoved', hused', hothers'⟩ := ih (c.materializeDependent id d.1 d.2) hnodup.2
    refine ⟨hmoved.trans hmoved', ?_, fun j hj => ?_⟩
    · have hsame : (c.materializeDependent id d.1 d.2).inflation id rebuilt = c.inflation id rebuilt := by
        refine congrArg List.sum (map_congr_left fun e he => ?_)
        rw [hothers e.1 fun h => hnodup.1 (h ▸ mem_map_of_mem he)]
      have hsplit : c.inflation id (d :: rebuilt) = d.2.length - c.entryBytes id d.1 + c.inflation id rebuilt := rfl
      rw [foldl_cons]
      omega
    · rw [map_cons, mem_cons, not_or] at hj
      exact (hothers' j hj.2).trans (hothers j hj.1)

theorem fst_dependent {idx target : Nat} {x : Nat × FrameEntry} {d : Nat × List UInt8}
    (h : (match x.2 with | .delta _ base .. => if x.1 ≠ idx ∧ base = target then (c.resolveEntry id x.2).map (x.1, ·) else none | .materialized .. => none) = some d) :
    d.1 = x.1 ∧ d.1 ≠ idx := by
  split at h
  · split at h
    · next hx =>
      obtain ⟨canvas, _, rfl⟩ := map_eq_some_iff.mp h
      exact ⟨rfl, hx.1⟩
    · cases h
  · cases h

/-- The frames to be rebuilt are at different places, none of them that of the frame deleted. -/
theorem deltaDependents_spec (c : Cache) (id : ImageId) (frames : List FrameEntry) (idx target : Nat) :
    ((c.deltaDependents id frames idx target).map Prod.fst).Nodup
      ∧ idx ∉ (c.deltaDependents id frames idx target).map Prod.fst := by
  constructor
  · have hpairs : (frames.mapIdx fun i entry => (i, entry)).Pairwise fun x y => x.1 ≠ y.1 := by
      rw [pairwise_iff_getElem]
      intro i j hi hj hij
      rw [getElem_mapIdx, getElem_mapIdx]
      exact Nat.ne_of_lt hij
    refine pairwise_map.mpr (hpairs.filterMap _ fun x y hne d hd e he => ?_)
    rw [(fst_dependent hd).1, (fst_dependent he).1]
    exact hne
  · intro hmem
    obtain ⟨d, hd, hidx⟩ := mem_map.mp hmem
    obtain ⟨x, _, hx⟩ := mem_filterMap.mp hd
    exact (fst_dependent hx).2 hidx

/-- **Deleting a frame** moves no image; the rebuilt deltas grow and the frame's bytes go. -/
theorem removeAnimationFrame_moves (c : Cache) (id : ImageId) (frameNumber : Nat) :
    Unmoved c (c.removeAnimationFrame id frameNumber).1
      ∧ ∀ frames, c.animationFrames.lookup id = some frames → 2 ≤ frames.length →
          (c.removeAnimationFrame id frameNumber).1.memoryUsed
            ≤ c.memoryUsed + c.inflation id (c.rebuiltBy id frames frameNumber)
              - c.entryBytes id (deletedIndex frames frameNumber) := by
  have hout := c.removeAnimationFrame_outcome id frameNumber
  generalize c.removeAnimationFrame id frameNumber = r at hout ⊢
  cases hout with
  | missing hf => exact ⟨.refl c, fun frames hf' => by rw [hf] at hf'; cases hf'⟩
  | single hf hshort =>
    refine ⟨⟨fun _ => rfl, rfl, rfl, rfl⟩, fun frames' hf' hlen => ?_⟩
    cases hf.symm.trans hf'
    omega
  | @removed frames c₁ hf _ hc₁ =>
    obtain ⟨hmoved, hused, hkept⟩ :=
      materializeDependents_moves (c.rebuiltBy id frames frameNumber) c id (deltaDependents_spec ..).1
    have hremoved := hkept (deletedIndex frames frameNumber) (deltaDependents_spec ..).2
    rw [hc₁] at hmoved hused hremoved
    have hfinish := frameInvariant_still.finishDeletion (c₁.unlinkEntry id (deletedIndex frames frameNumber)) id
      (((c₁.animationFrames.lookup id).getD []).eraseIdx (deletedIndex frames frameNumber))
    have hunlinked : Unmoved c₁ (c₁.unlinkEntry id (deletedIndex frames frameNumber)) :=
      ⟨fun _ => rfl, rfl, rfl, rfl⟩
    refine ⟨(hmoved.trans hunlinked).trans hfinish.toUnmoved, fun frames' hf' _ => ?_⟩
    cases hf.symm.trans hf'
    rw [hfinish.used]
    show c₁.memoryUsed - c₁.entryBytes id (deletedIndex frames frameNumber) ≤ _
    rw [hremoved]
    exact Nat.sub_le_sub_right hused _

/-! ## Other operations -/

/-- The two caches hold the same images. -/
def SameHeld (c c' : Cache) : Prop := ∀ x, c'.holds x = c.holds x

theorem SameHeld.trans (h : SameHeld c c') (h' : SameHeld c' c'') : SameHeld c c'' := fun x => (h' x).trans (h x)

theorem sameHeld_place (c : Cache) (placement : Placement) : SameHeld c (c.place placement) := by
  intro x
  cases hi : c.images.lookup placement.imageId with
  | none =>
    unfold place
    dsimp only
    rw [hi]
    rfl
  | some img =>
    refine holds_insert { img with lastAccessed := c.accessCounter + 1 } hi ?_ x
    unfold place
    dsimp only
    rw [hi]

theorem frameInvariant_sameHeld : FrameInvariant SameHeld :=
  ⟨.trans, fun _ _ _ _ _ _ _ _ => rfl, fun img' h _ => holds_insert img' h rfl⟩

theorem sameHeld_anchorPlaceholderWithGrid (c : Cache) (id : ImageId) (grid : Option (Nat × Nat)) :
    SameHeld c (c.anchorPlaceholderWithGrid id grid) := by
  unfold anchorPlaceholderWithGrid
  split
  · next cols rows =>
    unfold setPlaceholderAnchorGrid
    split <;> exact fun _ => rfl
  · exact fun _ => rfl

end Cache

/-! ## Every operation -/

open Cache

/-- **The limit holds**: within it, or every image is placed or anchored. -/
def Cache.Within (c : Cache) : Prop :=
  c.memoryUsed ≤ c.memoryLimit ∨ ∀ x, c.holds x = true → c.reachable x = true

/-- A stored frame is a delta. -/
def Cache.storesDelta (c : Cache) (id : ImageId) (frameNum : Nat) : Bool := (c.editEntry id frameNum).any (·.isDelta)

/-- The deltas that a deletion rebuilds, and the bytes of the frame it takes. -/
def Cache.deletion (c : Cache) (id : ImageId) (frameNumber : Nat) : List (Nat × List UInt8) × Nat :=
  match c.animationFrames.lookup id with
  | some frames =>
    if frames.length ≤ 1 then ([], 0)
    else (c.rebuiltBy id frames frameNumber, c.entryBytes id (deletedIndex frames frameNumber))
  | none => ([], 0)

namespace CacheOp

variable (c : Cache)

/-- The operation adds pixel data, or turns a delta into a full canvas. -/
def AddsPixels : CacheOp → Prop
  | store data => ∃ id, (c.store data).2 = .ok id
  | storeAnimated data frames durations loopCount => ∃ id, (c.storeAnimated data frames durations loopCount).2 = .ok id
  | putFrame req => (∃ n, (c.putFrame req).2 = .ok n) ∧ ∀ n gap, req.target = .edit n gap →
      c.storesDelta req.imageId n = true
  | composeFrame req => (c.composeFrame req).2 = .ok () ∧ c.storesDelta req.imageId req.dstFrame = true
  | removeAnimationFrame id frameNumber => (c.deletion id frameNumber).1 ≠ []
  | _ => False

/-- **There is room** for what the operation adds. A store that has to empty the cache stays within the limit by
    itself; the frames of an animated store beyond the first fit whenever the first does; where a delta is written
    over, the limit held before; the deltas that a deletion rebuilds fit in the place of the frame. -/
def Fits : CacheOp → Prop
  | store data => c.emptiedFits data.data.length = true
  | storeAnimated data frames _ _ =>
    match frames with
    | [] => c.emptiedFits data.data.length = true
    | first :: _ => c.emptiedFits (frames.map List.length).sum = true
        ∧ c.RoomForAll data.id first.length (frames.map List.length).sum
  | putFrame req => ∀ n gap, req.target = .edit n gap → c.storesDelta req.imageId n = true → c.Within
  | composeFrame req => c.storesDelta req.imageId req.dstFrame = true → c.Within
  | removeAnimationFrame id frameNumber => (c.deletion id frameNumber).1 ≠ [] →
      c.memoryUsed + c.inflation id (c.deletion id frameNumber).1 ≤ c.memoryLimit + (c.deletion id frameNumber).2
        ∨ ∀ x, c.holds x = true → c.reachable x = true
  | _ => True

/-- **Eviction is safe**: what an operation evicts is not pinned, the least recently used go first, and what it
    stores is held afterwards. The operations that delete images on command do not evict; no other operation
    removes an image. -/
def EvictsSafely : CacheOp → Prop
  | store data => ∃ victims, c.StoresSafely (c.store data) victims
  | storeAnimated data frames durations loopCount =>
    ∃ victims, c.StoresSafely (c.storeAnimated data frames durations loopCount) victims
  | setMemoryLimit limit => ∃ victims, Evicts c.reachable c (c.setMemoryLimit limit) victims
  | putFrame req => ∃ victims, Evicts (c.pinnedFor req.imageId) c (c.putFrame req).1 victims
  | removeImage _ | clear | pruneIfOrphaned _ | pruneScrollback _ | removePlacementsInRegion .. | onResize .. => True
  | op => SameHeld c (op.apply c)

/-- No operation evicts otherwise. -/
theorem evictsSafely (op : CacheOp) : op.EvictsSafely c := by
  cases op with
  | nextImageId | removePlacements | updateCellCoverage | remapPlacements | reconcilePlaceholderAnchors
  | setMaxSingleImage => exact fun _ => rfl
  | store data =>
    obtain ⟨victims, hsafe, _⟩ := store_spec c data
    exact ⟨victims, hsafe⟩
  | storeAnimated data frames durations loopCount =>
    cases frames with
    | nil =>
      obtain ⟨victims, hsafe, _⟩ := store_spec c data
      exact ⟨victims, hsafe⟩
    | cons first rest =>
      obtain ⟨victims, hsafe, _⟩ := storeAnimated_spec c data (first :: rest) durations loopCount rfl
      exact ⟨victims, hsafe⟩
  | removeImage | clear | pruneIfOrphaned | pruneScrollback | removePlacementsInRegion | onResize => trivial
  | place placement => exact sameHeld_place c placement
  | anchorPlaceholderWithGrid id grid => exact sameHeld_anchorPlaceholderWithGrid c id grid
  | setMemoryLimit limit =>
    obtain ⟨victims, hvictims⟩ := evictLoop_lru c.reachable 0 (c.images.entries.length + 1)
      { c with memoryLimit := limit }
    have hheld : ∀ x, ({ c with memoryLimit := limit } : Cache).holds x = c.holds x := fun _ => rfl
    exact ⟨victims, hvictims.evicts hheld fun _ => rfl⟩
  | putFrame req =>
    obtain ⟨happend, hedit⟩ := putFrame_moves c req
    cases htarget : req.target with
    | append gap => exact (happend gap htarget).evicts
    | edit n gapUpdate => exact ⟨[], .of_held (hedit n gapUpdate htarget).holds⟩
  | composeFrame req => exact frameInvariant_sameHeld.composeFrame c req
  | removeAnimationFrame id frameNumber => exact (removeAnimationFrame_moves c id frameNumber).1.holds
  | ensureAnimationStateForRootGap id gapUpdate => exact frameInvariant_sameHeld.ensureAnimationStateForRootGap c id gapUpdate
  | setAnimationEnabled | setAnimationAction | setAnimationLoops | setFrameGap | setCurrentFrame | advanceAnimations =>
    exact frameInvariant_sameHeld.toAnimationInvariant.apply c _ trivial

/-- The images, what keeps them and the limit are the same, and the counter did not rise. -/
theorem within_of_unmoved {c c' : Cache} (h : Cache.Unmoved c c') (hused : c'.memoryUsed ≤ c.memoryUsed)
    (hw : c.Within) : c'.Within := by
  rcases hw with hle | hall
  · refine .inl ?_
    rw [h.limit]
    exact hused.trans hle
  · refine .inr fun x hx => ?_
    rw [h.reachable]
    exact hall x ((h.holds x).symm.trans hx)

/-- **One operation** that adds pixel data for which there is room leaves the cache within its limit. -/
theorem within_of_fits (op : CacheOp) (h : op.Fits c) (hadds : op.AddsPixels c) : (op.apply c).Within := by
  cases op with
  | store data =>
    obtain ⟨id, hok⟩ := hadds
    obtain ⟨victims, _, hspec⟩ := store_spec c data
    obtain ⟨_, hlimit, hroom, hused⟩ := hspec id hok
    refine .inl ?_
    show (c.store data).1.memoryUsed ≤ (c.store data).1.memoryLimit
    rw [hlimit, hused]
    refine hroom.fits id h fun hfits => ?_
    unfold releasedBytes
    omega
  | storeAnimated data frames durations loopCount =>
    obtain ⟨id, hok⟩ := hadds
    refine .inl ?_
    cases frames with
    | nil =>
      obtain ⟨victims, _, hspec⟩ := store_spec c data
      obtain ⟨_, hlimit, hroom, hused⟩ := hspec id hok
      show (c.store data).1.memoryUsed ≤ (c.store data).1.memoryLimit
      rw [hlimit, hused]
      refine hroom.fits id h fun hfits => ?_
      unfold releasedBytes
      omega
    | cons first rest =>
      obtain ⟨victims, hsafe, hspec⟩ := storeAnimated_spec c data (first :: rest) durations loopCount rfl
      obtain ⟨rfl, hlimit, hroom, hused⟩ := hspec id hok
      show (c.storeAnimated data (first :: rest) durations loopCount).1.memoryUsed
        ≤ (c.storeAnimated data (first :: rest) durations loopCount).1.memoryLimit
      rw [hlimit, hused]
      exact hroom.fits data.id h.1 (h.2 victims hsafe.lru)
  | putFrame req =>
    obtain ⟨⟨n, hok⟩, hdelta⟩ := hadds
    obtain ⟨happend, hedit⟩ := putFrame_moves c req
    cases htarget : req.target with
    | append gap => exact .inl ((happend gap htarget).fits n hok)
    | edit m gapUpdate =>
      have hstill := hedit m gapUpdate htarget
      exact within_of_unmoved hstill.toUnmoved hstill.used.le (h m gapUpdate htarget (hdelta m gapUpdate htarget))
  | composeFrame req =>
    have hstill := frameInvariant_still.composeFrame c req
    exact within_of_unmoved hstill.toUnmoved hstill.used.le (h hadds.2)
  | removeAnimationFrame id frameNumber =>
    obtain ⟨hmoved, hused⟩ := removeAnimationFrame_moves c id frameNumber
    rcases h hadds with hle | hall
    · refine .inl ?_
      show (c.removeAnimationFrame id frameNumber).1.memoryUsed ≤ (c.removeAnimationFrame id frameNumber).1.memoryLimit
      rw [hmoved.limit]
      have hrebuilt : (c.deletion id frameNumber).1 ≠ [] := hadds
      unfold deletion at hrebuilt hle
      cases hf : c.animationFrames.lookup id with
      | none => rw [hf] at hrebuilt; exact absurd rfl hrebuilt
      | some frames =>
        rw [hf] at hrebuilt hle
        dsimp only at hrebuilt hle
        by_cases hshort : frames.length ≤ 1
        · rw [if_pos hshort] at hrebuilt
          exact absurd rfl hrebuilt
        · rw [if_neg hshort] at hle
          have hbound := hused frames hf (by omega)
          dsimp only at hle
          omega
    · refine .inr fun x hx => ?_
      have hreach : (c.removeAnimationFrame id frameNumber).1.reachable x = c.reachable x := by rw [hmoved.reachable]
      exact hreach.trans (hall x ((hmoved.holds x).symm.trans hx))
  | _ => exact hadds.elim

/-- **Memory limit and eviction.** In every run of operations, evictions are safe; and when there is room for what
    its operations add, the cache is within its limit after each that adds pixel data. -/
theorem limit_run (ops : List CacheOp) :
    Along CacheOp.apply (fun c op => op.EvictsSafely c) c ops
      ∧ (Along CacheOp.apply (fun c op => op.Fits c) c ops →
          Along CacheOp.apply (fun c op => op.AddsPixels c → (op.apply c).Within) c ops) :=
  ⟨along_of_forall (fun c op => op.evictsSafely c) c ops, fun h => h.imp fun c op hfits => op.within_of_fits c hfits⟩

/-- A store, an append and an animated store that all fit. -/
def fittingOps : List CacheOp :=
  [.setMemoryLimit 64, .store twoPixels, .putFrame (onePixel (.append 0) (.frame 1)),
    .storeAnimated { twoPixels with id := 2, width := 1 } [[1, 2, 3, 4], [5, 6, 7, 8]] [0, 0] none]

theorem limit_run_fittingOps :
    Along CacheOp.apply (fun c op => op.AddsPixels c → (op.apply c).Within) .new fittingOps := by
  have hfirst : emptiedFits (run CacheOp.apply .new (fittingOps.take 1)) 8 = true := by decide +kernel
  have hanimated : emptiedFits (run CacheOp.apply .new (fittingOps.take 3)) 8 = true := by decide +kernel
  refine (limit_run .new fittingOps).2 ⟨trivial, hfirst, nofun, ⟨hanimated, ?_⟩, trivial⟩
  intro victims _ _
  have hused : (run CacheOp.apply .new (fittingOps.take 3)).memoryUsed = 12 := by decide +kernel
  have hlimit : (run CacheOp.apply .new (fittingOps.take 3)).memoryLimit = 64 := by decide +kernel
  show (run CacheOp.apply .new (fittingOps.take 3)).memoryUsed - _ + 8
    ≤ (run CacheOp.apply .new (fittingOps.take 3)).memoryLimit
  rw [hused, hlimit]
  omega

/-- Under a limit of 12 bytes, an image of 8 bytes is stored; then the frames of an animated image, of 4 bytes each.
    Room is made for the first of them only. -/
theorem animated_frames_exceed_limit :
    (Cache.storeAnimated (run CacheOp.apply .new [.setMemoryLimit 12, .store twoPixels]) { twoPixels with id := 2, width := 1 }
        [[1, 2, 3, 4], [5, 6, 7, 8]] [0, 0] none).2 = .ok 2
      ∧ (run CacheOp.apply .new [.setMemoryLimit 12, .store twoPixels,
          .storeAnimated { twoPixels with id := 2, width := 1 } [[1, 2, 3, 4], [5, 6, 7, 8]] [0, 0] none]).memoryUsed = 16
      ∧ ¬ (run CacheOp.apply .new [.setMemoryLimit 12, .store twoPixels,
          .storeAnimated { twoPixels with id := 2, width := 1 } [[1, 2, 3, 4], [5, 6, 7, 8]] [0, 0] none]).Within := by
  refine ⟨by decide +kernel, by decide +kernel, fun h => ?_⟩
  rcases h with hle | hall
  · revert hle
    decide +kernel
  · have hunplaced := hall 1 (by decide +kernel)
    revert hunplaced
    decide +kernel

end CacheOp

end OriTerm.Image
