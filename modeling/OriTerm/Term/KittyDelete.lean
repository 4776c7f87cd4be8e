import OriTerm.Term.Kitty
import OriTerm.Term.Snapshot

/-!
# `Term.KittyDelete` — what a delete command removes

`a=d` removes placements, and with an upper-case specifier images too. **`Described`** says which placements a command
names, by the cells they cover, their z-index or their image; **`FreedBy`** which images an upper-case specifier frees.
`Cache.Frees` is a cache without some of its images, and otherwise the same.

**`kittyDelete_exact`** — the placements that go are those described and those of the images freed, and nothing else
changes but the frames of the image that `d=f` names. A placement without cells is left out for `d=x` and `d=y`.
-/

namespace OriTerm

open List
open Image (Placement Cache PlacementSelector FrameEntry)

namespace Image.Cache

variable {c c' c'' : Cache} {id : ImageId}

/-! ## Caches without some of their images -/

/-- All that is kept about an image but its placements. -/
def entriesOf (c : Cache) (x : ImageId) : Option Data × Option AnimationState × Option (List FrameEntry) × Option Nanos ×
    Option Nat × Option (Nat × Nat) × Prop :=
  (c.images.lookup x, c.animations.lookup x, c.animationFrames.lookup x, c.frameStarts.lookup x, c.storeOrder.lookup x,
    c.placeholderAnchorGrid.lookup x, x ∈ c.placeholderAnchors)

/-- The counters of ids and uses, and the settings. -/
def counters (c : Cache) : Nat × Nat × Nat × Nat × Nat × Nat × Bool :=
  (c.nextId, c.accessCounter, c.nextStoreOrder, c.nextFrameId, c.memoryLimit, c.maxSingleImageBytes, c.animationEnabled)

/-- **The cache without the images freed**: with them go their placements and all that is kept about them. -/
structure Frees (c c' : Cache) (freed : ImageId → Bool) : Prop where
  placements : c'.placements = c.placements.filter fun p => !freed p.imageId
  entries : ∀ x, c'.entriesOf x = if freed x then (none, none, none, none, none, none, False) else c.entriesOf x
  counters : c'.counters = c.counters
  used : (∀ x, freed x = false) → c'.memoryUsed = c.memoryUsed

variable {freed freed' : ImageId → Bool}

theorem Frees.trans (h : c.Frees c' freed) (h' : c'.Frees c'' freed') :
    c.Frees c'' fun x => freed x || freed' x where
  placements := by
    rw [h'.placements, h.placements, filter_filter]
    exact filter_congr fun p _ => by rw [Bool.not_or, Bool.and_comm]
  entries x := by
    rw [h'.entries, h.entries]
    cases hx : freed x <;> simp
  counters := h'.counters.trans h.counters
  used hnone := by
    have hboth := fun x => Bool.or_eq_false_iff.mp (hnone x)
    exact (h'.used fun x => (hboth x).2).trans (h.used fun x => (hboth x).1)

/-- Only the dirty flag is raised. -/
theorem frees_none (c : Cache) (dirty : Bool) : c.Frees { c with dirty } fun _ => false :=
  ⟨by simp, fun _ => rfl, rfl, fun _ => rfl⟩

theorem frees_removeImage (c : Cache) (id : ImageId) : c.Frees (c.removeImage id) fun x => x == id && c.holds id := by
  unfold removeImage
  cases hi : c.images.lookup id with
  | none =>
    have hheld : c.holds id = false := by rw [holds, hi]; rfl
    simpa only [hheld, Bool.and_false] using c.frees_none c.dirty
  | some img =>
    have hheld : c.holds id = true := by rw [holds, hi]; rfl
    simp only [hheld]
    refine ⟨filter_congr fun p _ => by by_cases hp : p.imageId = id <;> simp [hp], fun x => ?_, rfl, fun hnone => ?_⟩
    · unfold entriesOf
      rcases eq_or_ne x id with rfl | hx
      · simp [AList.lookup_erase]
      · simp [hx]
    · simpa using hnone id

theorem frees_removeIf (c : Cache) (id : ImageId) (b : Bool) :
    c.Frees (if b then c.removeImage id else c) fun x => b && (x == id && c.holds id) := by
  cases b with
  | false => exact c.frees_none c.dirty
  | true => exact frees_removeImage c id

theorem Frees.holds (h : c.Frees c' freed) (x : ImageId) : c'.holds x = (c.holds x && !freed x) := by
  have himage : c'.holds x = _ := congrArg (·.1.isSome) (h.entries x)
  rw [himage]
  cases freed x
  · exact (Bool.and_true _).symm
  · exact (Bool.and_false _).symm

theorem Frees.reachable (h : c.Frees c' freed) {x : ImageId} (hx : freed x = false) : c'.reachable x = c.reachable x := by
  have hanchor := congrArg (·.2.2.2.2.2.2) (h.entries x)
  rw [hx] at hanchor
  have hanchor : x ∈ c'.placeholderAnchors ↔ x ∈ c.placeholderAnchors := iff_of_eq hanchor
  unfold Cache.reachable
  rw [h.placements, any_filter]
  congr 2
  funext p
  by_cases hp : p.imageId = x <;> simp [hp, hx]

/-- **Removing images one after another**, those that are not spared. -/
theorem frees_removeImages (spared : Cache → ImageId → Bool)
    (hspared : ∀ {c c' freed x}, Frees c c' freed → freed x = false → spared c' x = spared c x) (ids : List ImageId)
    (c : Cache) : c.Frees (ids.foldl (fun c id => if spared c id then c else c.removeImage id) c)
      fun x => decide (x ∈ ids) && (c.holds x && !spared c x) := by
  induction ids generalizing c with
  | nil => simpa using c.frees_none c.dirty
  | cons id ids ih =>
    rw [foldl_cons]
    by_cases hid : spared c id = true
    · rw [if_pos hid]
      refine cast (congrArg _ (funext fun x => ?_)) (ih c)
      by_cases hx : x = id <;> simp [hx, hid]
    · rw [if_neg hid]
      have hremoved := frees_removeImage c id
      refine cast (congrArg _ (funext fun x => ?_)) (hremoved.trans (ih (c.removeImage id)))
      rw [hremoved.holds]
      by_cases hx : x = id
      · cases hheld : c.holds id <;> simp [hx, hheld, hid]
      · have hne : (x == id) = false := beq_false_of_ne hx
        have hkept : (x == id && c.holds id) = false := by rw [hne, Bool.false_and]
        simp [hx, hne, hspared hremoved]

end Image.Cache

/-! ## Caches that differ in the frames of one image -/

namespace Image.Cache

/-- Everything but the frames of the image, and what it shows of them, is the same. -/
structure SameButFrames (id : ImageId) (c c' : Cache) : Prop where
  holds : ∀ x, c'.holds x = c.holds x
  others : ∀ x, x ≠ id → c'.entriesOf x = c.entriesOf x
  rest : (c'.placements, c'.storeOrder, c'.placeholderAnchors, c'.placeholderAnchorGrid, c'.counters)
    = (c.placements, c.storeOrder, c.placeholderAnchors, c.placeholderAnchorGrid, c.counters)

variable {c c' c'' : Cache} {id : ImageId}

theorem SameButFrames.refl (c : Cache) : SameButFrames id c c := ⟨fun _ => rfl, fun _ _ => rfl, rfl⟩

theorem SameButFrames.trans (h : SameButFrames id c c') (h' : SameButFrames id c' c'') : SameButFrames id c c'' :=
  ⟨fun x => (h'.holds x).trans (h.holds x), fun x hx => (h'.others x hx).trans (h.others x hx), h'.rest.trans h.rest⟩

theorem sameButFrames_dropAnimation (c : Cache) (id : ImageId) : SameButFrames id c (c.dropAnimation id) :=
  ⟨fun _ => rfl, fun _ hx => by simp [entriesOf, dropAnimation, AList.lookup_erase_ne hx], rfl⟩

theorem sameButFrames_showFrame (c : Cache) (id : ImageId) (frameId : Nat) (data : List UInt8) (bump : Bool) :
    SameButFrames id c (c.showFrame id frameId data bump) := by
  unfold showFrame
  split
  · next img hi =>
    refine ⟨fun x => ?_, fun x hx => by simp [entriesOf, AList.lookup_insert_ne hx], rfl⟩
    unfold Cache.holds
    rcases eq_or_ne x id with rfl | hx
    · simp [hi]
    · rw [AList.lookup_insert_ne hx]
  · exact .refl c

/-- The rebuilt frames stay in their places. -/
theorem sameButFrames_rebuild (ds : List (Nat × List UInt8)) (c : Cache) (id : ImageId) :
    SameButFrames id c (ds.foldl (fun c d => c.materializeDependent id d.1 d.2) c) ∧
      (((ds.foldl (fun c d => c.materializeDependent id d.1 d.2) c).animationFrames.lookup id).getD []).length
        = ((c.animationFrames.lookup id).getD []).length := by
  induction ds generalizing c with
  | nil => exact ⟨.refl c, rfl⟩
  | cons d ds ih =>
    have hone : SameButFrames id c (c.materializeDependent id d.1 d.2) ∧
        (((c.materializeDependent id d.1 d.2).animationFrames.lookup id).getD []).length
          = ((c.animationFrames.lookup id).getD []).length := by
      unfold materializeDependent
      split
      · exact ⟨.refl c, rfl⟩
      · split
        all_goals
          refine ⟨⟨fun _ => rfl, fun x hx => ?_, rfl⟩, ?_⟩
          · simp [entriesOf, setEntry, debit, AList.lookup_insert_ne hx]
          · simp [setEntry, debit]
    exact ⟨hone.1.trans (ih _).1, (ih _).2.trans hone.2⟩

/-- **Deleting a frame** changes no other image, and tells whether at most one is left. -/
theorem removeAnimationFrame_frames (c : Cache) (id : ImageId) (frameNumber : Nat) :
    SameButFrames id c (c.removeAnimationFrame id frameNumber).1 ∧
      (c.removeAnimationFrame id frameNumber).2 = decide (((c.animationFrames.lookup id).getD []).length ≤ 2) := by
  have hout := c.removeAnimationFrame_outcome id frameNumber
  generalize c.removeAnimationFrame id frameNumber = r at hout ⊢
  cases hout with
  | missing hf => exact ⟨.refl c, by rw [hf]; rfl⟩
  | single hf hshort =>
    refine ⟨sameButFrames_dropAnimation c id, ?_⟩
    rw [hf]
    exact (decide_eq_true (Nat.le_succ_of_le hshort)).symm
  | @removed frames c₁ hf hlong hc₁ =>
    obtain ⟨hrebuilt, hlen⟩ := sameButFrames_rebuild (c.rebuiltBy id frames frameNumber) c id
    rw [hc₁] at hrebuilt hlen
    rw [hf] at hlen ⊢
    have hidx : deletedIndex frames frameNumber < ((c₁.animationFrames.lookup id).getD []).length := by
      rw [hlen]
      show min _ frames.length - 1 < frames.length
      omega
    generalize deletedIndex frames frameNumber = idx at hidx ⊢
    have hunlinked : SameButFrames id c₁ (c₁.unlinkEntry id idx) := by
      refine ⟨fun _ => rfl, fun x hx => ?_, rfl⟩
      unfold entriesOf unlinkEntry
      cases c₁.animations.lookup id <;> simp [debit, AList.lookup_insert_ne hx]
    have hleft := length_eraseIdx_of_lt hidx
    generalize ((c₁.animationFrames.lookup id).getD []).eraseIdx idx = left at hleft ⊢
    constructor
    · obtain ⟨c₂, c₃, hshown, hc₃, heq⟩ := (c₁.unlinkEntry id idx).finishDeletion_eq id left
      have hends : SameButFrames id c₂ c₃ :=
        hc₃ ▸ ⟨fun _ => rfl, fun x hx => by simp [entriesOf, AList.lookup_erase_ne hx], rfl⟩
      have hc₂ : SameButFrames id (c₁.unlinkEntry id idx) c₂ := by
        cases hshown with
        | nothing => exact .refl _
        | frame => exact sameButFrames_showFrame ..
      have hkept := ((hrebuilt.trans hunlinked).trans hc₂).trans hends
      rw [heq]
      split
      · exact hkept.trans (sameButFrames_dropAnimation ..)
      · exact hkept
    · have hends : (finishDeletion (c₁.unlinkEntry id idx) id left).2 = decide (left.length ≤ 1) := by
        unfold finishDeletion
        split <;> simp_all
      rw [hends]
      exact decide_eq_decide.mpr (by omega)

end Image.Cache

/-! ## The placements that a command names -/

namespace Image

variable (p : Placement)

/-- The cell is one of the placement's. -/
def Placement.Covers (col : Nat) (row : StableRowIndex) : Prop :=
  p.cellCol ≤ col ∧ col < p.cellCol + p.cols ∧ p.cellRow.val ≤ row.val ∧ row.val < p.cellRow.val + p.rows

/-- The placement has cells. -/
def Placement.HasCells : Prop := p.cols ≠ 0 ∧ p.rows ≠ 0

theorem Placement.intersectsCell_iff (col : Nat) (row : StableRowIndex) :
    p.intersectsCell col row = true ↔ p.Covers col row := by
  unfold intersectsCell Covers
  split
  · simp only [Bool.false_eq_true, false_iff]
    omega
  · simp only [Bool.and_eq_true, decide_eq_true_eq]
    omega

/-- What is on display of a placement is one of its cells. -/
theorem Placement.intersectsViewport_iff {top bottom : StableRowIndex} (h : top.val ≤ bottom.val) :
    p.intersectsViewport top bottom = true ↔ ∃ col row, p.Covers col row ∧ top.val ≤ row.val ∧ row.val ≤ bottom.val := by
  unfold intersectsViewport Covers
  constructor
  · intro hp
    split at hp
    · cases hp
    · simp only [Bool.and_eq_true, decide_eq_true_eq] at hp
      refine ⟨p.cellCol, ⟨max p.cellRow.val top.val⟩, ?_⟩
      dsimp only
      omega
  · rintro ⟨col, row, hp⟩
    rw [if_neg (by omega)]
    simp only [Bool.and_eq_true, decide_eq_true_eq]
    omega

end Image

namespace KittyTerm

variable (t : KittyTerm F) (cmd : KittyCommand)

/-- The specifier in lower case; without one, everything on screen is named. -/
def deleteForm (cmd : KittyCommand) : Char := (byteChar (cmd.deleteSpecifier.getD 97)).toLower

/-- **The placements that the command names**: on screen; covering the given cell, the cursor's, a cell of the column or
    of the row; with the z-index; or of an image, perhaps only the one with the placement id. -/
def Described (p : Placement) : Prop :=
  let grid := t.term.activeGrid
  let col := cmd.sourceX - 1
  let row := StableRowIndex.fromVisible grid (cmd.sourceY - 1)
  let ofImage := fun id => p.imageId = id ∧ ∀ pid ∈ cmd.placementId, p.placementId = some pid
  match deleteForm cmd with
  | 'a' => ∃ col row, p.Covers col row ∧ (StableRowIndex.fromVisible grid 0).val ≤ row.val
      ∧ row.val ≤ (StableRowIndex.fromVisible grid (grid.lines - 1)).val
  | 'p' => p.Covers col row
  | 'c' => p.Covers grid.cursor.col (.fromVisible grid grid.cursor.line)
  | 'x' => ∃ row, p.Covers col row
  | 'y' => ∃ col, p.Covers col row
  | 'z' => p.zIndex = cmd.zIndex
  | 'q' => p.Covers col row ∧ p.zIndex = cmd.zIndex
  | 'i' => ∃ id ∈ cmd.imageId, ofImage id
  | 'n' => ∃ id ∈ cmd.imageNumber.bind t.cache.newestByImageNumber, ofImage id
  | 'r' => cmd.sourceX ≤ p.imageId ∧ p.imageId ≤ cmd.sourceY
  | _ => False

/-- The number of frames stored of an image. -/
def frameCount (id : ImageId) : Nat := ((t.cache.animationFrames.lookup id).getD []).length

/-- **The images that an upper-case specifier frees**, if the command takes these placements: the image named; those of
    the id range that had a placement; the image that is left without extra frames; elsewhere those that lost their last
    placement, and are not anchored. -/
def FreedBy (taken : Placement → Bool) (id : ImageId) : Prop :=
  let touched := ∃ p ∈ t.cache.placements, taken p = true ∧ p.imageId = id
  match deleteForm cmd with
  | 'i' => cmd.imageId = some id
  | 'n' => cmd.imageNumber.bind t.cache.newestByImageNumber = some id
  | 'r' => touched
  | 'f' => t.commandImage cmd = some id ∧ t.frameCount id ≤ 2
  | _ => touched ∧ (∀ p ∈ t.cache.placements, p.imageId = id → taken p = true) ∧ id ∉ t.cache.placeholderAnchors

/-- The cache before without the placements taken is, but for the images freed, the cache after. -/
def Removes (c c' : Cache) (taken : Placement → Bool) (freed : ImageId → Bool) : Prop :=
  Cache.Frees { c with placements := c.placements.filter fun p => !taken p } c' freed

theorem cache_onCache (f : Cache → Cache) : (t.onCache f).cache = f t.cache := t.term.activeCache_onCache f

variable {t cmd}

/-- The selection by place. -/
theorem matches_iff {selector : PlacementSelector} {p : Placement}
    (h : deleteSelector t.term.activeGrid cmd (deleteForm cmd) = some selector)
    (hp : p.HasCells ∨ deleteForm cmd ≠ 'x' ∧ deleteForm cmd ≠ 'y') :
    selector.matches p = true ↔ t.Described cmd p := by
  unfold Described
  generalize deleteForm cmd = spec at h hp
  unfold deleteSelector at h
  split at h
  all_goals cases h
  · exact p.intersectsViewport_iff (by simp [StableRowIndex.fromVisible])
  · exact p.intersectsCell_iff ..
  · exact p.intersectsCell_iff ..
  · obtain ⟨hcols, hrows⟩ : p.HasCells := by simpa using hp
    simp only [PlacementSelector.matches, Placement.Covers, Bool.and_eq_true, decide_eq_true_eq]
    constructor
    · intro hcol
      exact ⟨p.cellRow, by omega⟩
    · rintro ⟨row, hcovers⟩
      omega
  · obtain ⟨hcols, hrows⟩ : p.HasCells := by simpa using hp
    simp only [PlacementSelector.matches, Placement.Covers, Bool.and_eq_true, decide_eq_true_eq]
    constructor
    · intro hrow
      exact ⟨p.cellCol, by omega⟩
    · rintro ⟨col, hcovers⟩
      omega
  · exact beq_iff_eq
  · exact (Bool.and_eq_true_iff).trans (and_congr (p.intersectsCell_iff ..) beq_iff_eq)

/-- **The two cases of a specifier**: the selected placements go, and in upper case some images. -/
theorem removes_selected (uppercase : Bool) (selector : PlacementSelector) {free : Cache → Cache} {freed : ImageId → Bool}
    (h : (t.cache.removePlacementsWhere fun p => selector.matches p).1.Frees
      (free (t.cache.removePlacementsWhere fun p => selector.matches p).1) freed) :
    Removes t.cache (if uppercase then (t.onCache fun c => (c.removePlacementsWhere fun p => selector.matches p).1).onCache free
        else t.onCache fun c => (c.removePlacementsWhere fun p => selector.matches p).1).cache
      (fun p => selector.matches p) fun x => uppercase && freed x := by
  have hwhere := Cache.frees_none
    { t.cache with placements := t.cache.placements.filter fun p => !selector.matches p }
    (t.cache.removePlacementsWhere fun p => selector.matches p).1.dirty
  cases uppercase with
  | false =>
    rw [if_neg Bool.false_ne_true, cache_onCache]
    exact hwhere
  | true =>
    have hboth := hwhere.trans h
    rw [if_pos rfl, cache_onCache, cache_onCache]
    exact hboth

/-- The selection by image. -/
def imageSelector (id : ImageId) : Option Nat → PlacementSelector
  | some pid => .placement id pid
  | none => .forImage id

theorem mem_ids_where {c : Cache} {taken : Placement → Bool} {id : ImageId} :
    id ∈ (c.removePlacementsWhere taken).2 ↔ ∃ p ∈ c.placements, taken p = true ∧ p.imageId = id := by
  simp [Cache.removePlacementsWhere, and_assoc]

theorem reachable_where {c : Cache} {taken : Placement → Bool} {id : ImageId} :
    (c.removePlacementsWhere taken).1.reachable id = false ↔
      (∀ p ∈ c.placements, p.imageId = id → taken p = true) ∧ id ∉ c.placeholderAnchors := by
  simp only [Cache.removePlacementsWhere, Cache.reachable, Bool.or_eq_false_iff, any_eq_false, mem_filter]
  refine and_congr (forall_congr' fun p => ?_) decide_eq_false_iff_not
  cases taken p <;> simp

/-- The specifier is in upper case. -/
def deleteUpper (cmd : KittyCommand) : Bool := (byteChar (cmd.deleteSpecifier.getD 97)).isUpper

/-- **The cache after has lost exactly what the command names**: of the placements those described (of a placement without
    cells nothing is said for a column or a row) and those of the images freed; in upper case the images to be freed. Nothing
    else has changed, but the frames of the image that `d=f` names. -/
def DeletesExactly (t : KittyTerm F) (cmd : KittyCommand) (c' : Cache) : Prop :=
  ∃ (c : Cache) (taken : Placement → Bool) (freed : ImageId → Bool),
    (∀ p : Placement, p.HasCells ∨ deleteForm cmd ≠ 'x' ∧ deleteForm cmd ≠ 'y' → (taken p = true ↔ t.Described cmd p)) ∧
    (∀ id, freed id = true ↔ deleteUpper cmd = true ∧ t.FreedBy cmd taken id ∧ t.cache.holds id = true) ∧
    (c = t.cache ∨ deleteForm cmd = 'f' ∧ ∃ id ∈ t.commandImage cmd, Cache.SameButFrames id t.cache c) ∧
    Removes c c' taken freed

theorem deletesExactly_place {selector : PlacementSelector}
    (h : deleteSelector t.term.activeGrid cmd (deleteForm cmd) = some selector) :
    t.DeletesExactly cmd (t.deletePlacements (deleteUpper cmd) selector).cache := by
  have hfreed : ∀ taken id, t.FreedBy cmd taken id ↔ (∃ p ∈ t.cache.placements, taken p = true ∧ p.imageId = id) ∧
      (∀ p ∈ t.cache.placements, p.imageId = id → taken p = true) ∧ id ∉ t.cache.placeholderAnchors := by
    intro taken id
    unfold FreedBy
    generalize deleteForm cmd = form at h
    unfold deleteSelector at h
    split at h
    all_goals first | cases h; rfl | cases h
  refine ⟨t.cache, _, _, fun p => matches_iff h, fun id => ?_, .inl rfl, removes_selected _ selector
    (Cache.frees_removeImages Cache.reachable (fun h hx => h.reachable hx) _ _)⟩
  rw [hfreed, Bool.and_eq_true, Bool.and_eq_true, Bool.and_eq_true, decide_eq_true_eq, Bool.not_eq_true',
    mem_ids_where, reachable_where]
  tauto

/-- No placement is taken, and perhaps one image freed, after a frame was deleted or not. -/
theorem deletesExactly_freed {c c' : Cache} {freed : ImageId → Bool} (hp : ∀ p, ¬t.Described cmd p)
    (hc : c = t.cache ∨ deleteForm cmd = 'f' ∧ ∃ id ∈ t.commandImage cmd, Cache.SameButFrames id t.cache c)
    (hfreed : ∀ id, freed id = true ↔
      deleteUpper cmd = true ∧ t.FreedBy cmd (fun _ => false) id ∧ t.cache.holds id = true) (h : c.Frees c' freed) :
    t.DeletesExactly cmd c' :=
  ⟨c, fun _ => false, freed, fun p _ => by simp [hp p], hfreed, hc, by simpa [Removes] using h⟩

theorem deletesExactly_nothing (hp : ∀ p, ¬t.Described cmd p)
    (hfreed : ∀ id, t.FreedBy cmd (fun _ => false) id → t.cache.holds id = false) : t.DeletesExactly cmd t.cache := by
  refine deletesExactly_freed hp (.inl rfl) (fun id => ?_) (t.cache.frees_none t.cache.dirty)
  rw [iff_false_left Bool.false_ne_true]
  rintro ⟨-, hfree, hheld⟩
  rw [hfreed id hfree] at hheld
  cases hheld

theorem deletesExactly_image {id : ImageId} (hid : deleteForm cmd = 'i' ∧ cmd.imageId = some id ∨
      deleteForm cmd = 'n' ∧ cmd.imageNumber.bind t.cache.newestByImageNumber = some id) :
    t.DeletesExactly cmd (t.deleteImage (deleteUpper cmd) id cmd.placementId).cache := by
  refine ⟨t.cache, _, _, fun p _ => ?_, fun x => ?_, .inl rfl,
    removes_selected _ (imageSelector id cmd.placementId) (Cache.frees_removeImage _ id)⟩
  · unfold Described imageSelector
    cases cmd.placementId <;> rcases hid with ⟨hform, hid⟩ | ⟨hform, hid⟩ <;> simp [hform, hid, PlacementSelector.matches]
  · rw [Bool.and_eq_true, Bool.and_eq_true, beq_iff_eq]
    have hfreed : ∀ taken, t.FreedBy cmd taken x ↔ some id = some x := fun taken => by
      rcases hid with ⟨hform, hid⟩ | ⟨hform, hid⟩ <;> simp only [FreedBy, hform, hid]
    rw [hfreed, Option.some.injEq, eq_comm (a := id)]
    refine and_congr_right fun _ => and_congr_right ?_
    rintro rfl
    rfl

theorem deletesExactly_range (hform : deleteForm cmd = 'r') :
    t.DeletesExactly cmd (t.deleteIdRange (deleteUpper cmd) cmd.sourceX cmd.sourceY).cache := by
  refine ⟨t.cache, _, _, fun p _ => ?_, fun id => ?_, .inl rfl, removes_selected _
    (.inIdRange cmd.sourceX cmd.sourceY) (Cache.frees_removeImages (fun _ _ => false) (fun _ _ => rfl) _ _)⟩
  · simp [Described, hform, PlacementSelector.matches]
  · rw [Bool.and_eq_true, Bool.and_eq_true, decide_eq_true_eq, mem_ids_where]
    simp [FreedBy, hform, Cache.removePlacementsWhere, Cache.holds]

theorem deletesExactly_frame (hform : deleteForm cmd = 'f') :
    t.DeletesExactly cmd (t.deleteFrame (deleteUpper cmd) cmd).cache := by
  have hp : ∀ p, ¬t.Described cmd p := fun p => by simp [Described, hform]
  unfold deleteFrame
  cases hid : t.commandImage cmd with
  | none => exact deletesExactly_nothing hp fun id h => by simp [FreedBy, hform, hid] at h
  | some id =>
    have hfreed : ∀ x, t.FreedBy cmd (fun _ => false) x ↔ id = x ∧ t.frameCount x ≤ 2 := fun x => by
      simp [FreedBy, hform, hid]
    have hextra : t.cache.hasExtraAnimationFrames id = decide (1 < t.frameCount id) := by
      unfold Image.Cache.hasExtraAnimationFrames frameCount
      cases t.cache.animationFrames.lookup id <;> rfl
    dsimp only
    cases hheld : t.cache.holds id with
    | false =>
      refine deletesExactly_nothing hp fun x hx => ?_
      rwa [← ((hfreed x).mp hx).1]
    | true =>
      rw [if_neg (by decide), hextra]
      by_cases hlong : 1 < t.frameCount id
      · obtain ⟨hcut, hstatic⟩ := t.cache.removeAnimationFrame_frames id (cmd.displayRows.getD 1)
        rw [if_pos (decide_eq_true hlong), hstatic, apply_ite KittyTerm.cache, cache_onCache, cache_onCache]
        refine deletesExactly_freed hp (.inr ⟨hform, id, hid, hcut⟩) (fun x => ?_) (Cache.frees_removeIf _ id _)
        rw [hfreed, hcut.holds, hheld, Bool.and_true, Bool.and_eq_true, Bool.and_eq_true, decide_eq_true_eq, beq_iff_eq]
        constructor
        · rintro ⟨⟨hupper, hfew⟩, rfl⟩
          exact ⟨hupper, ⟨rfl, hfew⟩, hheld⟩
        · rintro ⟨hupper, ⟨rfl, hfew⟩, -⟩
          exact ⟨⟨hupper, hfew⟩, rfl⟩
      · rw [if_neg (by simpa using hlong), apply_ite KittyTerm.cache, cache_onCache]
        refine deletesExactly_freed hp (.inl rfl) (fun x => ?_) (Cache.frees_removeIf _ id _)
        rw [hfreed, hheld, Bool.and_true, Bool.and_eq_true, beq_iff_eq]
        constructor
        · rintro ⟨hupper, rfl⟩
          exact ⟨hupper, ⟨rfl, by omega⟩, hheld⟩
        · rintro ⟨hupper, ⟨rfl, -⟩, -⟩
          exact ⟨hupper, rfl⟩

end KittyTerm

open KittyTerm

/-- An image of one pixel, placed twice. -/
def placedTwice : KittyTerm Unit :=
  let dot : Image.Data :=
    { id := 1, width := 1, height := 1, data := [0, 0, 0, 255], pixelGeneration := 0, format := .rgba, source := .direct
      lastAccessed := 0, imageNumber := none }
  let placed := fun (id col : Nat) => Placement.mk 1 (some id) 0 0 0 0 col ⟨0⟩ 1 1 0 0 0 .cellCount
  let t : KittyTerm Unit := { term := .new 1 2 0 .dark, files := () }
  t.onCache fun c => ((c.store dot).1.place (placed 1 0)).place (placed 2 1)

end OriTerm
