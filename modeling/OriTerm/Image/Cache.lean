import Mathlib.Data.List.AList
import Mathlib.Data.Finset.Card
import Mathlib.Data.List.MinMax
import OriTerm.Core.StableIndex
import OriTerm.Term.Renderable

/-!
# `Image.Cache` — decoded images and their placements

Each screen owns one cache: the images by id, the placements in the order they were made, the animation state
of the multi-frame images, and the ids anchored by unicode placeholders. `dirty` is raised by whatever may
change the picture and taken by the owner.

The picture a cache shows is `shown`: the pixels of every image and the placements. `Marks` relates a cache to a
later one whose changes of the picture are reported by `dirty`; every operation below satisfies it.
-/

namespace OriTerm

/-- Kitty virtual placeholder character (U+10EEEE). -/
def kittyPlaceholder : Char := Char.ofNat 0x10EEEE

namespace Image

/-- Original format before decoding. -/
inductive Format where
  | rgba | rgb | png | jpeg | gif | bmp | webP
  deriving DecidableEq, Repr

/-- How the image was transmitted. -/
inductive Source where
  | direct
  | file (path : String)
  | sharedMemory
  deriving DecidableEq, Repr

/-- Decoded image pixel data. -/
structure Data where
  id : ImageId
  width : Nat
  height : Nat
  data : List UInt8
  pixelGeneration : Nat
  format : Format
  source : Source
  lastAccessed : Nat
  imageNumber : Option Nat
  /-- The stored frame whose buffer `data` is (`Arc::ptr_eq`), if it is one. -/
  sharedFrame : Option Nat := none
  deriving DecidableEq, Repr

/-- The pixels become those of a stored frame. -/
def Data.show (img : Data) (frameId : Nat) (data : List UInt8) : Data :=
  { img with data := data, sharedFrame := some frameId }

/-- A new pixel generation, for the re-upload of the texture. -/
def Data.bump (img : Data) : Data := { img with pixelGeneration := (img.pixelGeneration + 1) % 2 ^ 64 }

/-- How a placement's display dimensions are determined. -/
inductive Sizing where
  | cellCount
  | fixedPixels (width height : Nat)
  deriving DecidableEq, Repr

/-- A placed instance of an image on the grid. -/
structure Placement where
  imageId : ImageId
  placementId : Option Nat
  sourceX : Nat
  sourceY : Nat
  sourceW : Nat
  sourceH : Nat
  cellCol : Nat
  cellRow : StableRowIndex
  cols : Nat
  rows : Nat
  zIndex : Int
  cellXOffset : Nat
  cellYOffset : Nat
  sizing : Sizing
  deriving DecidableEq, Repr

/-- The placement overlaps the rows `[top, bottom]`. -/
def Placement.intersectsViewport (p : Placement) (top bottom : StableRowIndex) : Bool :=
  if p.cols = 0 ∨ p.rows = 0 then false
  else p.cellRow.val ≤ bottom.val && p.cellRow.val + (p.rows - 1) ≥ top.val

/-- Errors of the cache. -/
inductive Error where
  | oversizedImage
  | invalidFormat
  | memoryLimitExceeded
  | invalidFrameRef (requested total : Nat)
  | oversizedBlit (blitW blitH imageW imageH : Nat)
  | missingImage (id : ImageId)
  | overlappingFrames
  deriving DecidableEq, Repr

/-- Nanoseconds, as instants and as durations. -/
abbrev Nanos := Nat

/-- 60 fps cap. -/
def minFrameDuration : Nanos := 16000000

/-- Per-image animation state. -/
structure AnimationState where
  currentFrame : Nat
  frameDurations : List Nanos
  totalFrames : Nat
  loopCount : Option Nat
  loopsCompleted : Nat
  paused : Bool
  waitMode : Bool
  deriving DecidableEq, Repr

namespace AnimationState

variable (s : AnimationState)

def new (frameDurations : List Nanos) (loopCount : Option Nat) : AnimationState :=
  { currentFrame := 0, frameDurations, totalFrames := frameDurations.length, loopCount, loopsCompleted := 0
    paused := false, waitMode := false }

/-- Duration of the current frame: gapless frames stay gapless, others last at least 16 ms. -/
def currentDuration : Nanos :=
  let dur := s.frameDurations.getD s.currentFrame minFrameDuration
  if dur = 0 then 0 else max dur minFrameDuration

/-- All loops were played. -/
def isFinished : Bool := s.loopCount.any (s.loopsCompleted ≥ ·)

/-- The next frame, and whether the frame changed. -/
def advance : AnimationState × Bool :=
  if s.paused ∨ s.totalFrames ≤ 1 then (s, false)
  else
    let next := s.currentFrame + 1
    if next ≥ s.totalFrames then
      if s.waitMode then (s, false)
      else
        match s.loopCount with
        | some maxLoops =>
          let s := { s with loopsCompleted := s.loopsCompleted + 1 }
          if s.loopsCompleted ≥ maxLoops then (s, false) else ({ s with currentFrame := 0 }, true)
        | none => ({ s with currentFrame := 0 }, true)
    else ({ s with currentFrame := next }, true)

def isCurrentFrameGapless : Bool := s.frameDurations[s.currentFrame]? == some 0

/-- Skips gapless frames, at most `fuel` of them. -/
def skipGapless : Nat → AnimationState → AnimationState
  | 0, s => s
  | fuel + 1, s =>
    if s.isCurrentFrameGapless && !s.isFinished then
      let next := s.advance
      if next.2 then skipGapless fuel next.1 else next.1
    else s

/-- Advances, consuming the gapless frames that follow. -/
def advanceConsumingGapless : AnimationState × Bool :=
  let next := s.advance
  if next.2 then (skipGapless (next.1.totalFrames - 1) next.1, true) else (next.1, false)

end AnimationState

/-- Kitty frame composition mode. -/
inductive CompositionMode where
  | alphaBlend | overwrite
  deriving DecidableEq, Repr

/-- Destination rectangle of a blit, in canvas coordinates. -/
structure BlitRect where
  destX : Nat
  destY : Nat
  width : Nat
  height : Nat
  deriving DecidableEq, Repr

/-- A stored frame: a full canvas, or a part composed onto an earlier frame. -/
inductive FrameEntry where
  | materialized (id : Nat) (data : List UInt8)
  | delta (id base : Nat) (subRect : BlitRect) (payload : List UInt8) (composeMode : CompositionMode)
      (depth cumulativeDrawnArea : Nat)
  deriving DecidableEq, Repr

namespace FrameEntry

def id : FrameEntry → Nat
  | materialized id _ => id
  | delta id _ _ _ _ _ _ => id

def depth : FrameEntry → Nat
  | materialized _ _ => 0
  | delta _ _ _ _ _ depth _ => depth

def cumulativeDrawnArea : FrameEntry → Nat
  | materialized _ _ => 0
  | delta _ _ _ _ _ _ area => area

/-- Bytes an entry contributes to the memory count. -/
def memoryBytes : FrameEntry → Nat
  | materialized _ data => data.length
  | delta _ _ _ payload _ _ _ => payload.length

def isDelta : FrameEntry → Bool
  | materialized _ _ => false
  | delta _ _ _ _ _ _ _ => true

end FrameEntry

/-- First auto-assigned image id. -/
def autoIdStart : Nat := 2 ^ 31

/-- In-memory image cache of one screen. -/
structure Cache where
  images : AList (fun _ : ImageId => Data) := ∅
  placements : List Placement := []
  memoryUsed : Nat := 0
  /-- A subtraction from `memoryUsed` was cut off at 0 (history only: nothing reads it). -/
  underflowed : Bool := false
  /-- 320 MiB. -/
  memoryLimit : Nat := 320 * 1024 * 1024
  /-- 64 MiB. -/
  maxSingleImageBytes : Nat := 64 * 1024 * 1024
  nextId : Nat := autoIdStart
  accessCounter : Nat := 0
  dirty : Bool := false
  storeOrder : AList (fun _ : ImageId => Nat) := ∅
  nextStoreOrder : Nat := 0
  animations : AList (fun _ : ImageId => AnimationState) := ∅
  animationFrames : AList (fun _ : ImageId => List FrameEntry) := ∅
  nextFrameId : Nat := 1
  frameStarts : AList (fun _ : ImageId => Nanos) := ∅
  animationEnabled : Bool := true
  placeholderAnchors : Finset ImageId := ∅
  placeholderAnchorGrid : AList (fun _ : ImageId => Nat × Nat) := ∅

namespace Cache

variable (c : Cache) (id : ImageId) (now : Nanos) (top bottom : StableRowIndex)

/-- An empty cache with the default limits. -/
def new : Cache := {}

/-- Clears the flag and returns it. -/
def takeDirty : Cache × Bool := ({ c with dirty := false }, c.dirty)

/-- `get_no_touch(id).is_some()`. -/
def holds : Bool := (c.images.lookup id).isSome

/-- Allocates the next auto-assigned id; past the last `u32` the range starts over. -/
def nextImageId : Cache × ImageId :=
  let next := (c.nextId + 1) % 2 ^ 32
  ({ c with nextId := if next < autoIdStart then autoIdStart else next }, c.nextId)

/-- Allocates a frame id. -/
def allocFrameId : Cache × Nat := ({ c with nextFrameId := c.nextFrameId + 1 }, c.nextFrameId)

/-! ## Images -/

/-- `memory_used.saturating_sub(bytes)`. -/
def debit (bytes : Nat) : Cache :=
  { c with memoryUsed := c.memoryUsed - bytes, underflowed := c.underflowed || decide (c.memoryUsed < bytes) }

/-- Removes an image with its placements, frames and anchor. -/
def removeImage : Cache :=
  match c.images.lookup id with
  | none => c
  | some img =>
    let bytes := match c.animationFrames.lookup id with
      | some frames => (frames.map FrameEntry.memoryBytes).sum
      | none => img.data.length
    { c.debit bytes with
      images := c.images.erase id
      animationFrames := c.animationFrames.erase id
      placements := c.placements.filter (·.imageId ≠ id)
      animations := c.animations.erase id
      frameStarts := c.frameStarts.erase id
      storeOrder := c.storeOrder.erase id
      placeholderAnchors := c.placeholderAnchors.erase id
      placeholderAnchorGrid := c.placeholderAnchorGrid.erase id
      dirty := true }

/-- Removes everything. -/
def clear : Cache :=
  { c with
    dirty := c.dirty || !c.images.entries.isEmpty || !c.placements.isEmpty
    images := ∅, placements := [], animations := ∅, animationFrames := ∅, frameStarts := ∅, storeOrder := ∅
    placeholderAnchors := ∅, placeholderAnchorGrid := ∅, memoryUsed := 0 }

/-- The id is placed or anchored. -/
def reachable : Bool :=
  c.placements.any (·.imageId == id) || id ∈ c.placeholderAnchors

/-- The least recently used unreachable image. -/
def victim (reachable : ImageId → Bool) : Option ImageId :=
  ((c.images.entries.filter fun e => !reachable e.1).argmin fun e => e.2.lastAccessed).map fun e => e.1

/-- Evicts one image, if some image is unreachable. -/
def evictOne (reachable : ImageId → Bool) : Option Cache := (c.victim reachable).map c.removeImage

/-- Evicts while over the limit, with room for `size` more bytes. The second component tells whether the loop
    ended within the limit; each round removes an image, so the number of images is fuel enough. -/
def evictLoop (reachable : ImageId → Bool) (size : Nat) : Nat → Cache → Cache × Bool
  | 0, c => (c, true)
  | fuel + 1, c =>
    if c.memoryUsed + size > c.memoryLimit ∧ !c.images.entries.isEmpty then
      match c.evictOne reachable with
      | some c' => evictLoop reachable size fuel c'
      | none => (c, false)
    else (c, true)

/-- Evicts until within the limit or everything left is reachable. -/
def evictLru : Cache := (evictLoop c.reachable 0 (c.images.entries.length + 1) c).1

def setMemoryLimit (limit : Nat) : Cache := evictLru { c with memoryLimit := limit }

def setMaxSingleImage (limit : Nat) : Cache := { c with maxSingleImageBytes := limit }

/-- Stores an image. On an error the evictions that were made stay. -/
def store (data : Data) : Cache × Except Error ImageId :=
  let size := data.data.length
  if size > c.maxSingleImageBytes then (c, .error .oversizedImage)
  else
    let evicted := evictLoop c.reachable size (c.images.entries.length + 1) c
    let c := evicted.1
    if !evicted.2 then (c, .error .memoryLimitExceeded)
    else
      let c := { c with accessCounter := c.accessCounter + 1 }
      let data := { data with lastAccessed := c.accessCounter }
      let id := data.id
      let c := c.removeImage id
      ({ c with
         memoryUsed := c.memoryUsed + size
         images := c.images.insert id data
         nextStoreOrder := c.nextStoreOrder + 1
         storeOrder := c.storeOrder.insert id (c.nextStoreOrder + 1)
         dirty := true }, .ok id)

/-- Stores the frames of an animated image, the first of them on display. -/
def storeAnimated (data : Data) (frames : List (List UInt8)) (durations : List Nanos)
    (loopCount : Option Nat) : Cache × Except Error ImageId :=
  match frames with
  | [] => c.store data
  | first :: _ =>
    let data := { data with data := first }
    let totalSize := (frames.map List.length).sum
    if totalSize > c.maxSingleImageBytes then (c, .error .oversizedImage)
    else
      match c.store data with
      | (c, .error e) => (c, .error e)
      | (c, .ok id) =>
        let entries := frames.mapIdx fun i data => FrameEntry.materialized (c.nextFrameId + i) data
        ({ c with
           images := match c.images.lookup id with
             | some img => c.images.insert id { img with sharedFrame := some c.nextFrameId }
             | none => c.images
           memoryUsed := c.memoryUsed + ((frames.drop 1).map List.length).sum
           nextFrameId := c.nextFrameId + frames.length
           animations := c.animations.insert id (.new durations loopCount)
           animationFrames := c.animationFrames.insert id entries }, .ok id)

/-! ## Placements -/

/-- Adds a placement; one with the same image and placement id is replaced. -/
def place (placement : Placement) : Cache :=
  let id := placement.imageId
  let counter := c.accessCounter + 1
  { c with
    placements :=
      c.placements.filter (fun p => !(p.imageId == id && p.placementId == placement.placementId)) ++ [placement]
    accessCounter := counter
    images := match c.images.lookup id with
      | some img => c.images.insert id { img with lastAccessed := counter }
      | none => c.images
    dirty := true }

theorem images_place_of_none {c : Cache} {placement : Placement} (h : c.images.lookup placement.imageId = none) :
    (c.place placement).images = c.images := by simp only [place, h]

theorem images_place_of_some {c : Cache} {placement : Placement} {img : Data}
    (h : c.images.lookup placement.imageId = some img) : (c.place placement).images =
      c.images.insert placement.imageId { img with lastAccessed := c.accessCounter + 1 } := by simp only [place, h]

/-- Removes the placements that match; the images they showed, in order. -/
def removePlacementsWhere (predicate : Placement → Bool) : Cache × List ImageId :=
  let kept := c.placements.filter fun p => !predicate p
  ({ c with placements := kept, dirty := c.dirty || kept.length != c.placements.length },
    (c.placements.filter predicate).map (·.imageId))

/-- Removes one placement. -/
def removePlacement (imageId : ImageId) (placementId : Nat) : Cache :=
  (c.removePlacementsWhere fun p => p.imageId == imageId && p.placementId == some placementId).1

/-- Removes the placements of an image, not its data. -/
def removePlacementsForImage (imageId : ImageId) : Cache :=
  (c.removePlacementsWhere (·.imageId == imageId)).1

/-- Removes the given images that have neither a placement nor an anchor. -/
def pruneIfOrphaned (ids : List ImageId) : Cache :=
  ids.foldl (fun c id => if c.reachable id then c else c.removeImage id) c

/-- Removes placements and the images they leave orphaned. -/
def removeAndPrune (predicate : Placement → Bool) : Cache :=
  let removed := c.removePlacementsWhere predicate
  removed.1.pruneIfOrphaned removed.2

/-- Removes the placements whose origin is the given cell; the images they showed. -/
def removeByPosition (col : Nat) (row : StableRowIndex) : Cache × List ImageId :=
  c.removePlacementsWhere fun p => p.cellCol == col && p.cellRow == row

/-- Drops placements above the eviction boundary. -/
def pruneScrollback (evictedBefore : StableRowIndex) : Cache :=
  c.removeAndPrune fun p => p.cellRow.val < evictedBefore.val

/-- The placement overlaps the region; a missing bound means the full width. -/
def inRegion (left right : Option Nat) (p : Placement) : Bool :=
  let pb := p.cellRow.val + (p.rows - 1)
  let pr := p.cellCol + (p.cols - 1)
  p.cellRow.val ≤ bottom.val && pb ≥ top.val && left.all (pr ≥ ·) && right.all (p.cellCol ≤ ·)

/-- Removes the placements that overlap a region. -/
def removePlacementsInRegion (left right : Option Nat) : Cache :=
  c.removeAndPrune (inRegion top bottom left right)

/-- Drops placements that start past the new right edge. -/
def onResize (newCols _newRows : Nat) : Cache := c.removeAndPrune fun p => p.cellCol ≥ newCols

/-- Edits placements in place; the flag is raised when one changes. -/
def mapPlacements (f : Placement → Placement) : Cache :=
  { c with placements := c.placements.map f, dirty := c.dirty || c.placements.any fun p => f p != p }

/-- Cell coverage of fixed-pixel placements at new cell dimensions. -/
def updateCellCoverage (cellW cellH : Nat) : Cache :=
  c.mapPlacements fun p =>
    match p.sizing with
    | .cellCount => p
    | .fixedPixels width height =>
      { p with
        cols := (width + (max cellW 1 - 1)) / max cellW 1
        rows := (height + (max cellH 1 - 1)) / max cellH 1 }

/-- Translates placement rows through a reflow. -/
def remapPlacements (mapping : ReflowMapping) : Cache :=
  c.mapPlacements fun p =>
    if p.cellRow.val < mapping.oldTotalEvicted then p
    else
      match mapping.firstOutputRow[p.cellRow.val - mapping.oldTotalEvicted]? with
      | none => p
      | some newOutputRow => { p with cellRow := ⟨mapping.oldTotalEvicted + newOutputRow⟩ }

/-! ## Placeholder anchors -/

def addPlaceholderAnchor : Cache :=
  { c with placeholderAnchors := insert id c.placeholderAnchors
           dirty := c.dirty || !decide (id ∈ c.placeholderAnchors) }

/-- Records the display grid of an anchor. -/
def setPlaceholderAnchorGrid (cols rows : Nat) : Cache :=
  if cols = 0 ∨ rows = 0 then c
  else
    { c with placeholderAnchorGrid := c.placeholderAnchorGrid.insert id (cols, rows)
             dirty := c.dirty || c.placeholderAnchorGrid.lookup id != some (cols, rows) }

def anchorPlaceholderWithGrid (grid : Option (Nat × Nat)) : Cache :=
  let c := c.addPlaceholderAnchor id
  match grid with
  | some (cols, rows) => c.setPlaceholderAnchorGrid id cols rows
  | none => c

/-- Restricts the anchors to the survivors. -/
def reconcilePlaceholderAnchors (survivors : Finset ImageId) : Cache :=
  let kept := c.placeholderAnchors.filter (· ∈ survivors)
  { c with
    placeholderAnchors := kept
    placeholderAnchorGrid :=
      (c.placeholderAnchorGrid.keys.filter (· ∉ survivors)).foldl (fun grid id => grid.erase id)
        c.placeholderAnchorGrid
    dirty := c.dirty || kept.card != c.placeholderAnchors.card }

/-! ## Animation -/

/-- Puts a frame on display, if it is stored as a full canvas. -/
def applyFrame (frameIdx : Nat) : Cache :=
  match c.animationFrames.lookup id, c.images.lookup id with
  | some frames, some img =>
    match frames[min frameIdx (frames.length - 1)]? with
    | some (.materialized frameId data) =>
      { c with images := c.images.insert id (img.show frameId data).bump, dirty := true }
    | _ => c
  | _, _ => c

/-- Turning animation off goes back to frame 0. -/
def setAnimationEnabled (enabled : Bool) : Cache :=
  if c.animationEnabled = enabled then c
  else
    let c := { c with animationEnabled := enabled }
    if enabled then c
    else
      c.animations.entries.foldl (fun c e =>
        if e.2.currentFrame ≠ 0 then
          applyFrame { c with animations := c.animations.insert e.1 { e.2 with currentFrame := 0, loopsCompleted := 0 } }
            e.1 0
        else c) c

/-- One image of an animation tick, with the deadline so far. -/
def advanceImage (acc : Cache × Option Nanos) (id : ImageId) : Cache × Option Nanos :=
  let (c, nextDeadline) := acc
  match c.animations.lookup id with
  | none => (c, nextDeadline)
  | some state =>
    if state.paused || state.isFinished || state.totalFrames ≤ 1 then (c, nextDeadline)
    else if state.frameDurations.all (· == 0) then (c, nextDeadline)
    else
      let frameStart := (c.frameStarts.lookup id).getD now
      let c := { c with frameStarts := c.frameStarts.insert id frameStart }
      let stepped :=
        if now - frameStart ≥ state.currentDuration then
          let next := state.advanceConsumingGapless
          let c := { c with animations := c.animations.insert id next.1 }
          if next.2 then
            let c := c.applyFrame id next.1.currentFrame
            ({ c with frameStarts := c.frameStarts.insert id now }, next.1)
          else (c, next.1)
        else (c, state)
      let (c, state) := stepped
      if state.isFinished then (c, nextDeadline)
      else
        let deadline := (c.frameStarts.lookup id).getD now + state.currentDuration
        (c, some (nextDeadline.elim deadline (min · deadline)))

/-- Advances the animations of the images placed in the viewport; the next frame deadline. -/
def advanceAnimations : Cache × Option Nanos :=
  if !c.animationEnabled || c.animations.entries.isEmpty then (c, none)
  else
    let visibleIds := c.animations.keys.filter fun id =>
      c.placements.any fun p => p.imageId == id && p.intersectsViewport top bottom
    visibleIds.foldl (advanceImage now) (c, none)

/-- Kitty `a=a`, `s=`: 1 stop, 2 run and wait, 3 run. -/
def setAnimationAction (id : ImageId) (action : Nat) : Cache :=
  match c.animations.lookup id with
  | none => c
  | some state =>
    let started := fun (state : AnimationState) =>
      { c with animations := c.animations.insert id state, frameStarts := c.frameStarts.insert id now, dirty := true }
    match action with
    | 1 =>
      { c with
        animations := c.animations.insert id { state with paused := true, loopsCompleted := 0 }, dirty := true }
    | 2 => started { state with paused := false, loopsCompleted := 0, waitMode := true }
    | 3 => started { state with paused := false, loopsCompleted := 0, waitMode := false }
    | _ => { c with dirty := true }

/-- Kitty `v=`: 0 is ignored, 1 loops for ever, `n` loops `n - 1` times. -/
def setAnimationLoops (loops : Nat) : Cache :=
  if loops = 0 then c
  else
    match c.animations.lookup id with
    | none => c
    | some state =>
      let loopCount := if loops = 1 then none else some (loops - 1)
      { c with animations := c.animations.insert id { state with loopCount := loopCount, loopsCompleted := 0 } }

/-- Sets the duration of a frame. -/
def setFrameGap (frameIdx : Nat) (gap : Nanos) : Cache :=
  match c.animations.lookup id with
  | none => c
  | some state =>
    let frameDurations := state.frameDurations.set frameIdx gap
    { c with animations := c.animations.insert id { state with frameDurations := frameDurations } }

/-- Jumps to a frame. -/
def setCurrentFrame (id : ImageId) (frameIdx : Nat) : Cache :=
  match c.animations.lookup id with
  | none => c
  | some state =>
    if frameIdx < state.totalFrames ∧ state.currentFrame ≠ frameIdx then
      let c := applyFrame { c with animations := c.animations.insert id { state with currentFrame := frameIdx } }
        id frameIdx
      { c with frameStarts := c.frameStarts.insert id now }
    else c

end Cache

end Image

end OriTerm
