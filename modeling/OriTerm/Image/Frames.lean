import OriTerm.Image.Cache

/-!
# `Image.Frames` — the frame pipeline of animated images

`putFrame` (kitty `a=f`) composes a payload onto a canvas and appends or replaces a frame; `composeFrame`
(`a=c`) copies a rectangle between two frames; `removeAnimationFrame` (`a=d,d=f`) deletes one. An append whose
canvas is an earlier frame is stored as a delta while the chain stays short (`tryPushDeltaAppend`), and
`composeEntry` resolves it on demand.
-/

namespace OriTerm.Image

open Lib

/-- Where the canvas of a frame comes from. -/
inductive CanvasSource where
  | solidColor (rgba : Nat)
  | frame (n : Nat)
  | editTarget
  deriving DecidableEq, Repr

/-- Append a frame, or edit an existing one. -/
inductive FrameTarget where
  | append (gap : Nanos)
  | edit (frameNum : Nat) (gapUpdate : Option Nanos)
  deriving DecidableEq, Repr

/-- Request to load a frame. -/
structure FrameLoadRequest where
  imageId : ImageId
  target : FrameTarget
  canvas : CanvasSource
  blit : BlitRect
  frameData : List UInt8
  compositionMode : CompositionMode
  deriving DecidableEq, Repr

/-- Parameters of a compose operation; a dimension of 0 means the full image. -/
structure ComposeRequest where
  imageId : ImageId
  srcFrame : Nat
  dstFrame : Nat
  width : Nat
  height : Nat
  srcX : Nat
  srcY : Nat
  dstX : Nat
  dstY : Nat
  mode : CompositionMode
  deriving DecidableEq, Repr

/-- A frame was appended: one more duration, and a finished run-and-wait animation resumes. -/
def AnimationState.appendFrame (s : AnimationState) (gap : Nanos) (total : Nat) : AnimationState :=
  let s := { s with frameDurations := s.frameDurations ++ [gap], totalFrames := total }
  if s.waitMode && s.isFinished then { s with loopsCompleted := 0 } else s

/-- The frame at `idx` was deleted; `total` frames are left. -/
def AnimationState.removeFrame (s : AnimationState) (idx total : Nat) : AnimationState :=
  let current := if idx < s.currentFrame then s.currentFrame - 1 else s.currentFrame
  { s with
    frameDurations := s.frameDurations.eraseIdx idx
    totalFrames := total
    currentFrame := if current ≥ total ∧ total > 0 then total - 1 else current }

/-! ## Pixels -/

/-- A packed RGBA value as bytes. -/
def rgbaToBytes (rgba : Nat) : List UInt8 :=
  [UInt8.ofNat (rgba / 2 ^ 24), UInt8.ofNat (rgba / 2 ^ 16), UInt8.ofNat (rgba / 2 ^ 8), UInt8.ofNat rgba]

/-- Source-over blend of one RGBA pixel. -/
def blendPixelOver (dst src : List UInt8) : List UInt8 :=
  let at' := fun (l : List UInt8) i => (l.getD i 0).toNat
  let sa := at' src 3
  if sa = 0 then dst
  else if sa = 255 then [src.getD 0 0, src.getD 1 0, src.getD 2 0, 255]
  else
    let da := at' dst 3
    let invSa := 255 - sa
    let oa := sa + da * invSa / 255
    if oa = 0 then dst
    else
      let mix := fun i => UInt8.ofNat ((at' src i * sa + at' dst i * da * invSa / 255) / oa)
      [mix 0, mix 1, mix 2, UInt8.ofNat (min oa 255)]

/-- Writes one pixel of a blit; one that lies outside either buffer is skipped. -/
def blitPixel (mode : CompositionMode) (src : List UInt8) (srcPx dstPx : Nat) (canvas : List UInt8) : List UInt8 :=
  if dstPx + 4 > canvas.length ∨ srcPx + 4 > src.length then canvas
  else
    let pixel := (src.drop srcPx).take 4
    let pixel := match mode with
      | .overwrite => pixel
      | .alphaBlend => blendPixelOver ((canvas.drop dstPx).take 4) pixel
    canvas.take dstPx ++ pixel ++ canvas.drop (dstPx + 4)

/-- Composites a payload into a rectangle of the canvas, clipped to the canvas. -/
def blitSubrectIntoCanvas (canvas src : List UInt8) (canvasW canvasH : Nat) (blit : BlitRect)
    (mode : CompositionMode) : Except Error (List UInt8) :=
  if blit.width > canvasW ∨ blit.height > canvasH then .error (.oversizedBlit blit.width blit.height canvasW canvasH)
  else if blit.destX ≥ canvasW ∨ blit.destY ≥ canvasH then .ok canvas
  else
    let copyW := min blit.width (canvasW - blit.destX)
    let copyH := min blit.height (canvasH - blit.destY)
    .ok (forRange 0 copyH (fun row canvas =>
      forRange 0 copyW (fun col canvas =>
        let dstPx := ((blit.destY + row) * canvasW + blit.destX) * 4 + col * 4
        blitPixel mode src (row * blit.width * 4 + col * 4) dstPx canvas) canvas) canvas)

/-- Maximum depth of a delta chain. -/
def maxDeltaChainDepth : Nat := 3

/-- Maximum ratio of the area drawn along a delta chain to the image area. -/
def maxCumulativeDrawnAreaRatio : Nat := 2

namespace Cache

variable (c : Cache) (id : ImageId) (req : FrameLoadRequest) (imageW imageH : Nat)

/-! ## Resolving frames -/

/-- Total frames stored; the root of a static image counts. -/
def animationTotalFrames : Nat :=
  match c.animationFrames.lookup id with
  | some frames => frames.length
  | none => if c.holds id then 1 else 0

/-- The canvas of an entry. A delta refers to an older entry, so the number of entries is fuel enough. -/
def composeEntry (c : Cache) (id : ImageId) (frames : List FrameEntry) : Nat → FrameEntry → Option (List UInt8)
  | _, .materialized _ data => some data
  | 0, .delta .. => none
  | fuel + 1, .delta _ base subRect payload mode _ _ => do
    let baseEntry ← frames.find? (·.id == base)
    let canvas ← c.composeEntry id frames fuel baseEntry
    let img ← c.images.lookup id
    (blitSubrectIntoCanvas canvas payload img.width img.height subRect mode).toOption

/-- The canvas of an entry of an image. -/
def resolveEntry (entry : FrameEntry) : Option (List UInt8) :=
  let frames := (c.animationFrames.lookup id).getD []
  c.composeEntry id frames frames.length entry

/-- The pixels of a frame by its 1-based number. -/
def frameForNumber (n : Nat) : Option (List UInt8) :=
  if n = 0 then none
  else if n = 1 ∧ !(c.animations.lookup id).isSome then (c.images.lookup id).map (·.data)
  else do
    let frames ← c.animationFrames.lookup id
    let entry ← frames[n - 1]?
    c.resolveEntry id entry

/-- The checks on a frame request; the dimensions of the image. -/
def validateFrameRequest : Except Error (Nat × Nat) :=
  match c.images.lookup req.imageId with
  | none => .error (.missingImage req.imageId)
  | some img =>
    if req.blit.width > img.width ∨ req.blit.height > img.height then
      .error (.oversizedBlit req.blit.width req.blit.height img.width img.height)
    else if req.frameData.length > c.maxSingleImageBytes then .error .oversizedImage
    else if req.frameData.length ≠ req.blit.width * req.blit.height * 4 then .error .invalidFormat
    else
      match req.canvas, req.target with
      | .editTarget, .edit frameNum _ =>
        let total := c.animationTotalFrames req.imageId
        if frameNum < 1 ∨ frameNum > total then .error (.invalidFrameRef frameNum total)
        else .ok (img.width, img.height)
      | .solidColor _, .append _ | .frame _, .append _ => .ok (img.width, img.height)
      | _, _ => .error .invalidFormat

/-- The canvas of a frame request. -/
def resolveCanvasBytes : Except Error (List UInt8) :=
  let byNumber := fun n =>
    match c.frameForNumber req.imageId n with
    | some bytes => .ok bytes
    | none => .error (.invalidFrameRef n (c.animationTotalFrames req.imageId))
  match req.canvas, req.target with
  | .solidColor rgba, _ => .ok (List.replicate (imageW * imageH) (rgbaToBytes rgba)).flatten
  | .frame n, _ => byNumber n
  | .editTarget, .edit frameNum _ => byNumber frameNum
  | .editTarget, .append _ => .error .invalidFormat

/-! ## Promotion -/

/-- A static image becomes an animation of one frame with the given duration; the root shares its pixels. -/
def promoteRoot (img : Data) (gap : Nanos) : Cache :=
  { c with
    nextFrameId := c.nextFrameId + 1
    images := c.images.insert id { img with sharedFrame := some c.nextFrameId }
    animations := c.animations.insert id (.new [gap] none)
    animationFrames := c.animationFrames.insert id [.materialized c.nextFrameId img.data] }

/-- Promotes a static image before its first delta append. -/
def autoPromoteStaticRoot : Except Error Cache :=
  if (c.animations.lookup id).isSome then .ok c
  else
    match c.images.lookup id with
    | some img => .ok (c.promoteRoot id img 0)
    | none => .error (.missingImage id)

/-- Records the root frame's gap, promoting a static image. -/
def ensureAnimationStateForRootGap (gapUpdate : Option Nanos) : Cache × Option Error :=
  match gapUpdate with
  | none => (c, none)
  | some gap =>
    match c.images.lookup id, c.animations.lookup id with
    | none, _ => (c, some (.missingImage id))
    | some img, none => (c.promoteRoot id img gap, none)
    | some _, some _ => (c.setFrameGap id 0 gap, none)

/-! ## Append -/

/-- Makes room for a frame of the given size, without evicting its own image. -/
def evictForFrame (size : Nat) : Cache × Bool :=
  evictLoop (fun x => c.reachable x || x == id) size (c.images.entries.length + 1) c

/-- Appends an entry to a promoted animation. -/
def appendEntry (entry : FrameEntry) (gap : Nanos) : Cache × Nat :=
  let frames := (c.animationFrames.lookup id).getD [] ++ [entry]
  ({ c with
     nextFrameId := c.nextFrameId + 1
     animationFrames := c.animationFrames.insert id frames
     memoryUsed := c.memoryUsed + entry.memoryBytes
     animations := match c.animations.lookup id with
       | some state => c.animations.insert id (state.appendFrame gap frames.length)
       | none => c.animations
     dirty := true }, frames.length)

/-- Appends a delta frame; the new 1-based frame number. -/
def pushDeltaFrame (base depth area : Nat) (req : FrameLoadRequest) (gap : Nanos) : Cache × Except Error Nat :=
  let evicted := c.evictForFrame id req.frameData.length
  if !evicted.2 then (evicted.1, .error .memoryLimitExceeded)
  else
    let c := evicted.1
    let entry := FrameEntry.delta c.nextFrameId base req.blit req.frameData req.compositionMode depth area
    let appended := c.appendEntry id entry gap
    (appended.1, .ok appended.2)

/-- The delta fast path of an append; `none` when it does not apply. -/
def tryPushDeltaAppend : Cache × Option (Except Error Nat) :=
  match req.target, req.canvas with
  | .append gap, .frame n =>
    let promoted := if n = 1 then c.autoPromoteStaticRoot req.imageId else .ok c
    match promoted with
    | .error e => (c, some (.error e))
    | .ok c =>
      match if n = 0 then none else ((c.animationFrames.lookup req.imageId).getD [])[n - 1]? with
      | none => (c, none)
      | some base =>
        let depth := if base.isDelta then base.depth + 1 else 0
        let area := base.cumulativeDrawnArea + req.blit.width * req.blit.height
        if depth ≤ maxDeltaChainDepth ∧ area ≤ imageW * imageH * maxCumulativeDrawnAreaRatio then
          let pushed := c.pushDeltaFrame req.imageId base.id depth (area % 2 ^ 32) req gap
          (pushed.1, some pushed.2)
        else (c, none)
  | _, _ => (c, none)

/-- Appends a composed frame; a static image is promoted. -/
def pushComposedFrame (composed : List UInt8) (gap : Nanos) : Cache × Except Error Nat :=
  if composed.length > c.maxSingleImageBytes then (c, .error .oversizedImage)
  else
    let evicted := c.evictForFrame id composed.length
    if !evicted.2 then (evicted.1, .error .memoryLimitExceeded)
    else
      let c := evicted.1
      match c.animations.lookup id, c.images.lookup id with
      | some _, _ =>
        let appended := c.appendEntry id (.materialized c.nextFrameId composed) gap
        (appended.1, .ok appended.2)
      | none, none => (c, .error (.missingImage id))
      | none, some img =>
        let c := c.promoteRoot id img 0
        ({ c with
           nextFrameId := c.nextFrameId + 1
           memoryUsed := c.memoryUsed + composed.length
           animations := c.animations.insert id (.new [0, gap] none)
           animationFrames := c.animationFrames.insert id
             ((c.animationFrames.lookup id).getD [] ++ [.materialized c.nextFrameId composed])
           dirty := true }, .ok 2)

/-! ## Edit -/

/-- Replaces the stored frame at an index. -/
def setEntry (idx : Nat) (entry : FrameEntry) : Cache :=
  { c with animationFrames := c.animationFrames.insert id (((c.animationFrames.lookup id).getD []).set idx entry) }

/-- The pixels on display become those of a stored frame; `bump` raises the generation. -/
def showFrame (frameId : Nat) (data : List UInt8) (bump : Bool) : Cache :=
  match c.images.lookup id with
  | some img =>
    let shown := img.show frameId data
    { c with images := c.images.insert id (if bump then shown.bump else shown) }
  | none => c

/-- The in-place edit of a materialized frame; `none` when the target is none. -/
def tryEditInPlace : Cache × Option (Except Error Nat) :=
  match req.target with
  | .append _ => (c, none)
  | .edit frameNum gapUpdate =>
    match if frameNum = 0 then none else ((c.animationFrames.lookup req.imageId).getD [])[frameNum - 1]? with
    | some (.materialized frameId data) =>
      match blitSubrectIntoCanvas data req.frameData imageW imageH req.blit req.compositionMode with
      | .error e => (c, some (.error e))
      | .ok canvas =>
        -- The displayed pixels follow the frame exactly when they are its buffer.
        let wasShared := (c.images.lookup req.imageId).any (·.sharedFrame == some frameId)
        let c := c.setEntry req.imageId (frameNum - 1) (.materialized frameId canvas)
        let c := if wasShared then c.showFrame req.imageId frameId canvas true else c
        let c := match gapUpdate with
          | some gap => c.setFrameGap req.imageId (frameNum - 1) gap
          | none => c
        ({ c with dirty := true }, some (.ok frameNum))
    | _ => (c, none)

/-- Replaces a frame's pixels: the root of a static image, or a stored frame that may be on display. -/
def replaceFrameBytes (frameNum : Nat) (composed : List UInt8) (gapUpdate : Option Nanos) : Cache × Except Error Nat :=
  match c.animations.lookup id with
  | none =>
    if frameNum = 1 then
      let c := match c.images.lookup id with
        | some img => { c with images := c.images.insert id { img with data := composed, sharedFrame := none }.bump }
        | none => c
      match gapUpdate with
      | none => ({ c with dirty := true }, .ok 1)
      | some gap =>
        let ensured := c.ensureAnimationStateForRootGap id (some gap)
        match ensured.2 with
        | some e => (ensured.1, .error e)
        | none =>
          let c := ensured.1
          let c := (c.setEntry id 0 (.materialized c.nextFrameId composed)).showFrame id c.nextFrameId composed false
          ({ c with nextFrameId := c.nextFrameId + 1, dirty := true }, .ok 1)
    else
      -- An animation's frames are stored with its state, so there is no frame to replace.
      ({ c with nextFrameId := c.nextFrameId + 1 },
        .error (.invalidFrameRef frameNum ((c.animationFrames.lookup id).getD []).length))
  | some state =>
    let frameId := c.nextFrameId
    let c := { c with nextFrameId := c.nextFrameId + 1 }
    let frames := (c.animationFrames.lookup id).getD []
    if frameNum - 1 ≥ frames.length then (c, .error (.invalidFrameRef frameNum frames.length))
    else
      let c := c.setEntry id (frameNum - 1) (.materialized frameId composed)
      let c := if state.currentFrame = frameNum - 1 then c.showFrame id frameId composed false else c
      let c := match gapUpdate with
        | some gap => c.setFrameGap id (frameNum - 1) gap
        | none => c
      ({ c with dirty := true }, .ok frameNum)

/-- Kitty `a=f`: loads a frame; the 1-based frame number. -/
def putFrame : Cache × Except Error Nat :=
  match c.validateFrameRequest req with
  | .error e => (c, .error e)
  | .ok (imageW, imageH) =>
    match c.tryPushDeltaAppend req imageW imageH with
    | (c, some result) => (c, result)
    | (c, none) =>
      let inPlace :=
        if req.canvas = .editTarget ∧ (c.animations.lookup req.imageId).isSome then
          c.tryEditInPlace req imageW imageH
        else (c, none)
      match inPlace with
      | (c, some result) => (c, result)
      | (c, none) =>
        match c.resolveCanvasBytes req imageW imageH with
        | .error e => (c, .error e)
        | .ok canvas =>
          match blitSubrectIntoCanvas canvas req.frameData imageW imageH req.blit req.compositionMode with
          | .error e => (c, .error e)
          | .ok composed =>
            match req.target with
            | .append gap => c.pushComposedFrame req.imageId composed gap
            | .edit frameNum gapUpdate => c.replaceFrameBytes req.imageId frameNum composed gapUpdate

/-! ## Compose and delete -/

/-- A rectangle of a canvas, tightly packed. -/
def extractRect (canvas : List UInt8) (canvasW x y width height : Nat) : List UInt8 :=
  (List.range height).flatMap fun row => (canvas.drop ((y + row) * canvasW * 4 + x * 4)).take (width * 4)

/-- Kitty `a=c`: composes a rectangle of one frame onto another. -/
def composeFrame (req : ComposeRequest) : Cache × Except Error Unit :=
  match c.images.lookup req.imageId with
  | none => (c, .error (.missingImage req.imageId))
  | some img =>
    let total := c.animationTotalFrames req.imageId
    match c.frameForNumber req.imageId req.srcFrame, c.frameForNumber req.imageId req.dstFrame with
    | none, _ => (c, .error (.invalidFrameRef req.srcFrame total))
    | some _, none => (c, .error (.invalidFrameRef req.dstFrame total))
    | some src, some dst =>
      let width := if req.width = 0 then img.width else req.width
      let height := if req.height = 0 then img.height else req.height
      let inside := fun x y => x + width ≤ img.width ∧ y + height ≤ img.height
      if ¬ (inside req.dstX req.dstY ∧ inside req.srcX req.srcY) then
        (c, .error (.oversizedBlit width height img.width img.height))
      else if req.srcFrame = req.dstFrame ∧ max req.srcX req.dstX < min req.srcX req.dstX + width
          ∧ max req.srcY req.dstY < min req.srcY req.dstY + height then (c, .error .overlappingFrames)
      else
        let payload := extractRect src img.width req.srcX req.srcY width height
        let blit := { destX := req.dstX, destY := req.dstY, width, height }
        match blitSubrectIntoCanvas dst payload img.width img.height blit req.mode with
        | .error e => (c, .error e)
        | .ok composed =>
          match c.replaceFrameBytes req.imageId req.dstFrame composed none with
          | (c, .error e) => (c, .error e)
          | (c, .ok _) => (c, .ok ())

/-- Stores a delta that depends on a frame about to be deleted as a full canvas, under the same frame id. -/
def materializeDependent (idx : Nat) (canvas : List UInt8) : Cache :=
  match ((c.animationFrames.lookup id).getD [])[idx]? with
  | none => c
  | some entry =>
    let c := c.setEntry id idx (.materialized entry.id canvas)
    if canvas.length > entry.memoryBytes then
      { c with memoryUsed := c.memoryUsed + (canvas.length - entry.memoryBytes) }
    else c.debit (entry.memoryBytes - canvas.length)

/-- The deltas based on a frame, with their canvases. -/
def deltaDependents (frames : List FrameEntry) (idx target : Nat) : List (Nat × List UInt8) :=
  (frames.mapIdx fun i entry => (i, entry)).filterMap fun (i, entry) =>
    match entry with
    | .delta _ base .. => if i ≠ idx ∧ base = target then (c.resolveEntry id entry).map (i, ·) else none
    | .materialized .. => none

/-- An animation becomes a static image. -/
def dropAnimation : Cache :=
  { c with
    animations := c.animations.erase id, animationFrames := c.animationFrames.erase id
    frameStarts := c.frameStarts.erase id }

/-- Kitty `a=d,d=f`: deletes a frame. The second component tells whether no extra frames are left. -/
def removeAnimationFrame (frameNumber : Nat) : Cache × Bool :=
  match c.animationFrames.lookup id with
  | none => (c, true)
  | some frames =>
    if frames.length ≤ 1 then (c.dropAnimation id, true)
    else
      let idx := min (if frameNumber = 0 then 1 else frameNumber) frames.length - 1
      let target := (frames[idx]?.map (·.id)).getD 0
      let c := (c.deltaDependents id frames idx target).foldl (fun c d => c.materializeDependent id d.1 d.2) c
      let frames := (c.animationFrames.lookup id).getD []
      let removed := (frames[idx]?.map (·.memoryBytes)).getD 0
      let left := frames.eraseIdx idx
      let c :=
        { c.debit removed with
          animationFrames := c.animationFrames.insert id left
          animations := match c.animations.lookup id with
            | some state => c.animations.insert id (state.removeFrame idx left.length)
            | none => c.animations }
      let current := ((c.animations.lookup id).map (·.currentFrame)).getD 0
      let c := match left[current]? with
        | some (.materialized frameId data) => c.showFrame id frameId data true
        | _ => c
      let c := { c with frameStarts := c.frameStarts.erase id, dirty := true }
      if left.length ≤ 1 then (c.dropAnimation id, true) else (c, false)

end Cache

end OriTerm.Image
