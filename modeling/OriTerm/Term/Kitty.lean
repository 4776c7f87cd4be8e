import OriTerm.Term.Op
import OriTerm.Term.KittyCommand

/-!
# `Term.Kitty` — the handlers of the kitty graphics protocol

`handleKittyGraphics` takes the body of one APC sequence. Beside the terminal it has the upload in progress, which
the first chunk of a chunked transmission opens (`kittyAccumulateChunk`), later chunks append to and the last one
takes (`kittyFinalizePayload`), and the file system, which file-backed transmissions read.

What every handler keeps is proved once, from the terminal operations that it takes: `Term.HandlerSteps`.

`KittyEnv` is what the handlers call outside the terminal: zlib, the image decoders and the file system.
`KittyTerm.stored` is a history variable: the images and frames that transmissions brought into the cache. Nothing
reads it.
-/

namespace OriTerm

/-! ## Texts and lookups of the cache -/

/-- The text of an error of the cache. -/
def Image.Error.text : Image.Error → String
  | oversizedImage => "image exceeds maximum size limit"
  | invalidFormat => "unrecognized image format"
  | memoryLimitExceeded => "image memory limit exceeded"
  | invalidFrameRef requested total =>
    s!"No frame with number: {requested} found (animation has {total} frames)"
  | oversizedBlit blitW blitH imageW imageH =>
    if blitW > imageW then s!"Frame width {blitW} larger than image width: {imageW}"
    else s!"Frame height {blitH} larger than image height: {imageH}"
  | missingImage id => s!"image with id {id} not found"
  | overlappingFrames =>
    "source and destination rectangles overlap and the src and destination frames are the same"

/-- The image stored last among those with the given number. -/
def Image.Cache.newestByImageNumber (c : Image.Cache) (number : Nat) : Option ImageId :=
  let numbered := c.images.entries.filter (·.2.imageNumber == some number)
  let ordered := numbered.filterMap fun e => (c.storeOrder.lookup e.2.id).map fun order => (e.2.id, order)
  (ordered.argmax (·.2)).map (·.1)

/-- The image has frames beyond the root frame. -/
def Image.Cache.hasExtraAnimationFrames (c : Image.Cache) (id : ImageId) : Bool :=
  (c.animationFrames.lookup id).any (·.length > 1)

/-! ## State -/

/-- In-progress chunked image transmission: the first chunk's command, whose payload accumulates. -/
structure LoadingImage where
  imageId : Nat
  startCmd : KittyCommand
  failedUpload : Bool
  deriving DecidableEq, Repr

/-- An opened file: whether it is a regular file, its length, and its first bytes up to a limit. -/
structure OpenedFile where
  metadata : Except String (Bool × Nat)
  read : Nat → Except String (List UInt8)

/-- What the handlers call outside the terminal. -/
structure KittyEnv (F : Type) where
  /-- `ZlibDecoder`, read up to a limit. -/
  inflate : List UInt8 → Nat → Except String (List UInt8)
  /-- The image decoders, within a bound on the decoded size: RGBA pixels, width and height. -/
  decode : List UInt8 → Nat → Except String (List UInt8 × Nat × Nat)
  openFile : F → String → Except String OpenedFile
  removeFile : F → String → F

/-- A terminal with its pending upload. -/
structure KittyTerm (F : Type) where
  term : Term
  loadingImage : Option LoadingImage := none
  files : F
  stored : List ImageId := []

/-- Reply identifiers and echoed metadata; an image id of 0 means absent. -/
structure KittyReplyContext where
  imageId : Nat
  imageNumber : Option Nat
  placementId : Option Nat
  frameNum : Option Nat
  quiet : Nat
  deriving DecidableEq, Repr

namespace KittyReplyContext

variable (ctx : KittyReplyContext)

def fromCmd (cmd : KittyCommand) : KittyReplyContext :=
  { imageId := cmd.imageId.getD 0, imageNumber := cmd.imageNumber, placementId := cmd.placementId, frameNum := none
    quiet := cmd.quiet }

def withImageId (imageId : Nat) : KittyReplyContext := { ctx with imageId := imageId }

def withFrameNum (frameNum : Nat) : KittyReplyContext :=
  { ctx with frameNum := some frameNum }

/-- The framed reply. -/
def response (msg : String) : String :=
  let head := match ctx.imageId, ctx.imageNumber with
    | 0, some n => s!"I={n}"
    | id, some n => s!"i={id},I={n}"
    | id, none => s!"i={id}"
  let placement := match ctx.placementId with
    | some pid => s!",p={pid}"
    | none => ""
  let frame := match ctx.frameNum with
    | some n => s!",r={n}"
    | none => ""
  "\x1b_G" ++ head ++ placement ++ frame ++ ";" ++ msg ++ "\x1b\\"

/-- The reply is suppressed. -/
def silences (msg : String) : Bool := ctx.quiet ≥ 2 || (ctx.quiet ≥ 1 && msg == "OK")

end KittyReplyContext

/-- Parameters for storing an image. -/
structure KittyStoreParams where
  imageId : Nat
  imageNumber : Option Nat
  payload : List UInt8
  format : Nat
  width : Nat
  height : Nat
  transmission : KittyTransmission
  compression : Option UInt8
  deriving DecidableEq, Repr

def KittyStoreParams.fromMerged (imageId : Nat) (cmd : KittyCommand) : KittyStoreParams :=
  { imageId, imageNumber := cmd.imageNumber, payload := cmd.payload, format := cmd.format, width := cmd.sourceWidth
    height := cmd.sourceHeight, transmission := cmd.transmission, compression := cmd.compression }

/-! ## Pixels -/

/-- Decoded size of a raw-pixel format; past the range of `usize` it saturates. -/
def expectedDecodedSizeForFormat (format width height : Nat) : Option Nat :=
  let sized := fun channels =>
    some (if width * height * channels < 2 ^ 64 then width * height * channels else 2 ^ 64 - 1)
  match format with
  | 24 => sized 3
  | 32 => sized 4
  | _ => none

/-- Adds an opaque alpha to RGB data; `none` when the length is no multiple of 3. -/
def rgbToRgba : List UInt8 → Option (List UInt8)
  | [] => some []
  | r :: g :: b :: rest => (rgbToRgba rest).map fun rgba => r :: g :: b :: 255 :: rgba
  | _ => none

/-- Decompresses image bytes, or passes them through. -/
def prepareImageBytes {F : Type} (env : KittyEnv F) (raw : List UInt8) (compression : Option UInt8)
    (expectedDecodedSize : Option Nat) (maxBytes : Nat) : Except String (List UInt8) :=
  match compression with
  | none => .ok raw
  | some code =>
    if byteChar code ≠ 'z' then .error s!"EINVAL: unsupported compression o={byteChar code}"
    else
      let cap := (expectedDecodedSize.map (min · maxBytes)).getD maxBytes
      match env.inflate raw (min (cap + 1) (2 ^ 64 - 1)) with
      | .error e => .error s!"EINVAL: zlib decode failed: {e}"
      | .ok out =>
        if out.length > cap then .error "EBIG: decompressed payload exceeds max image size"
        else
          match expectedDecodedSize with
          | some expected =>
            if out.length ≠ min expected maxBytes then
              .error s!"EINVAL: zlib decode produced {out.length} bytes != expected {expected}"
            else .ok out
          | none => .ok out

/-- Decodes pixel data from a format code to RGBA, with its dimensions. -/
def kittyDecodePixels {F : Type} (env : KittyEnv F) (payload : List UInt8) (format width height maxBytes : Nat) :
    Except String (List UInt8 × Nat × Nat) :=
  match format with
  | 32 =>
    if width = 0 ∨ height = 0 then .error "EINVAL: missing s= or v= for raw RGBA"
    else
      let expected := width * height * 4
      if expected ≥ 2 ^ 64 then .error s!"EINVAL: RGBA dimensions {width}x{height} overflow usize"
      else if payload.length ≠ expected then
        .error s!"EINVAL: RGBA payload size {payload.length} != expected {expected}"
      else .ok (payload, width, height)
  | 24 =>
    if width = 0 ∨ height = 0 then .error "EINVAL: missing s= or v= for raw RGB"
    else if width * height * 3 ≥ 2 ^ 64 then .error s!"EINVAL: RGB dimensions {width}x{height} overflow usize"
    else
      match rgbToRgba payload with
      | some rgba => .ok (rgba, width, height)
      | none => .error "EINVAL: RGB payload length not a multiple of 3"
  | 100 =>
    match env.decode payload maxBytes with
    | .ok decoded => .ok decoded
    | .error e => .error s!"EINVAL: PNG decode failed: image decode failed: {e}"
  | _ => .error s!"EINVAL: unsupported format f={format}"

namespace KittyTerm

variable {F : Type}

variable (t : KittyTerm F) (env : KittyEnv F) (cmd : KittyCommand) (uppercase : Bool) (now : Image.Nanos) (id : ImageId) (imageId : Nat) (files : F) (path : String) (p : KittyStoreParams)

/-- `image_cache()`. -/
def cache : Image.Cache := t.term.activeCache

/-- A mutation of the terminal. -/
def onTerm (f : Term → Term) : KittyTerm F := { t with term := f t.term }

/-- A mutation through `image_cache_mut()`. -/
def onCache (t : KittyTerm F) (f : Image.Cache → Image.Cache) : KittyTerm F := t.onTerm (·.onCache f)

/-- Sends a kitty graphics response. -/
def kittyRespond (ctx : KittyReplyContext) (msg : String) : KittyTerm F :=
  if ctx.silences msg then t
  else t.onTerm (·.emit (.ptyWrite (ctx.response msg).toUTF8.toList .imageProtocolReply))

/-! ## Storing -/

/-- Stores decoded pixels under the image id. -/
def storePixels (source : Image.Source) (rgba : List UInt8) (width height : Nat) : KittyTerm F × Except String Unit :=
  let img : Image.Data :=
    { id := p.imageId, width, height, data := rgba, pixelGeneration := 0, format := .rgba, source, lastAccessed := 0
      imageNumber := p.imageNumber }
  let t' := t.onCache fun c => (c.store img).1
  match (t.cache.store img).2 with
  | .ok id => ({ t' with stored := t'.stored ++ [id] }, .ok ())
  | .error e => (t', .error s!"ENOMEM: {e.text}")

theorem term_storePixels (source : Image.Source) (rgba : List UInt8) (width height : Nat) :
    (t.storePixels p source rgba width height).1.term = t.term.onCache fun c =>
      (c.store
        { id := p.imageId, width, height, data := rgba, pixelGeneration := 0, format := .rgba, source, lastAccessed := 0
          imageNumber := p.imageNumber }).1 := by
  unfold storePixels
  dsimp only
  split <;> rfl

theorem storePixels_ok {t : KittyTerm F} {p : KittyStoreParams} {source : Image.Source} {rgba : List UInt8}
    {width height : Nat} {id : ImageId} (h : (t.cache.store
      { id := p.imageId, width, height, data := rgba, pixelGeneration := 0, format := .rgba, source, lastAccessed := 0
        imageNumber := p.imageNumber }).2 = .ok id) : (t.storePixels p source rgba width height).2 = .ok () := by
  simp [storePixels, h]

/-- Opens a path and checks that it is a regular file; the file and its length. -/
def openRegularFile : Except String (OpenedFile × Nat) :=
  match env.openFile files path with
  | .error e => .error s!"EBADF: failed to open file: {e}"
  | .ok file =>
    match file.metadata with
    | .error e => .error s!"EBADF: failed to stat file: {e}"
    | .ok (isFile, len) => if isFile then .ok (file, len) else .error "EINVAL: path is not a regular file"

/-- Reads a file, at most `maxBytes` of it. -/
def readFile (maxBytes : Nat) : Except String (List UInt8) :=
  match openRegularFile env files path with
  | .error e => .error e
  | .ok (file, len) =>
    if len > maxBytes then .error "EBIG: file exceeds max image size"
    else
      match file.read (min (maxBytes + 1) (2 ^ 64 - 1)) with
      | .error e => .error s!"EIO: failed to read file: {e}"
      | .ok fileData =>
        if fileData.length > maxBytes then .error "EBIG: file exceeds max image size" else .ok fileData

/-- Reads and decodes the file at a path: RGBA pixels, width and height. -/
def decodeFile (maxBytes : Nat) : Except String (List UInt8 × Nat × Nat) :=
  match readFile env files path maxBytes with
  | .error e => .error e
  | .ok fileData =>
    let expectedSize := expectedDecodedSizeForFormat p.format p.width p.height
    match prepareImageBytes env fileData p.compression expectedSize maxBytes with
    | .error e => .error e
    | .ok fileData =>
      if p.format = 24 ∨ p.format = 32 then kittyDecodePixels env fileData p.format p.width p.height maxBytes
      else
        match env.decode fileData maxBytes with
        | .ok decoded => .ok decoded
        | .error e => .error s!"EINVAL: image decode failed: image decode failed: {e}"

/-- Stores an image from a file path. A temporary file is removed on every way out once the path was accepted. -/
def kittyStoreFromFile (t : KittyTerm F) (p : KittyStoreParams) : KittyTerm F × Except String Unit :=
  match String.fromUTF8? ⟨p.payload.toArray⟩ with
  | none => (t, .error "EINVAL: file path is not valid UTF-8")
  | some path =>
    if (p.payload.splitOnP (byteChar · == '/')).any (· == asciiBytes "..") then
      (t, .error "EINVAL: path traversal not allowed")
    else
      let t' := if p.transmission = .tempFile then { t with files := env.removeFile t.files path } else t
      match decodeFile env t.files path p t.cache.maxSingleImageBytes with
      | .error e => (t', .error e)
      | .ok (rgba, width, height) => t'.storePixels p (.file path) rgba width height

/-- Decodes image data and stores it in the cache. -/
def kittyStoreImage (t : KittyTerm F) (p : KittyStoreParams) : KittyTerm F × Except String Unit :=
  match p.transmission with
  | .file | .tempFile => t.kittyStoreFromFile env p
  | .sharedMemory => (t, .error "EINVAL: shared memory transmission not yet supported")
  | .direct =>
    let maxBytes := t.cache.maxSingleImageBytes
    let expectedSize := expectedDecodedSizeForFormat p.format p.width p.height
    match prepareImageBytes env p.payload p.compression expectedSize maxBytes with
    | .error e => (t, .error e)
    | .ok pixelData =>
      match kittyDecodePixels env pixelData p.format p.width p.height maxBytes with
      | .error e => (t, .error e)
      | .ok (rgba, width, height) => t.storePixels p .direct rgba width height

/-! ## Chunks -/

/-- Finalizes a transmission: the resolved image id and the merged command, which is the first chunk's with the
    whole payload when an upload is in progress. -/
def kittyFinalizePayload : KittyTerm F × Nat × KittyCommand :=
  match t.loadingImage with
  | some loading =>
    ({ t with loadingImage := none }, loading.imageId,
      { loading.startCmd with payload := loading.startCmd.payload ++ cmd.payload })
  | none =>
    match cmd.imageId with
    | none =>
      let resolved := t.cache.nextImageId.2
      (t.onCache (·.nextImageId.1), resolved, { cmd with imageId := some resolved })
    | some id => (t, id, cmd)

/-- Accumulates a chunk. The first one opens the upload; a later one adds its payload, and an upload past the size
    limit is discarded. -/
def kittyAccumulateChunk : KittyTerm F :=
  match t.loadingImage with
  | some loading =>
    let payload := loading.startCmd.payload ++ cmd.payload
    if payload.length > t.cache.maxSingleImageBytes then { t with loadingImage := none }
    else { t with loadingImage := some { loading with startCmd := { loading.startCmd with payload := payload } } }
  | none =>
    match cmd.imageId with
    | some id => { t with loadingImage := some { imageId := id, startCmd := cmd, failedUpload := false } }
    | none =>
      let id := t.cache.nextImageId.2
      { t.onCache (·.nextImageId.1) with
        loadingImage := some { imageId := id, startCmd := cmd, failedUpload := false } }

/-- A chunk with malformed base64: one error reply for the upload in progress, which is marked as failed. -/
def handleInvalidBase64Chunk : KittyTerm F :=
  if t.loadingImage.any (·.failedUpload) then
    if !cmd.moreData then { t with loadingImage := none } else t
  else
    let t := t.kittyRespond (.fromCmd cmd) "EINVAL: base64 decode failed"
    match t.loadingImage with
    | some loading => { t with loadingImage := some { loading with failedUpload := true } }
    | none =>
      match cmd.imageId with
      | some id =>
        if cmd.moreData then
          { t with loadingImage := some { imageId := id, startCmd := {}, failedUpload := true } }
        else t
      | none => t

/-! ## Transmit and place -/

/-- The display grid of a unicode placeholder, when both dimensions are given. -/
def placeholderGrid : Option (Nat × Nat) :=
  match cmd.displayCols, cmd.displayRows with
  | some cols, some rows => some (cols, rows)
  | _, _ => none

/-- Creates a placement at the cursor. -/
def kittyCreatePlacement (cmd : KittyCommand) : KittyTerm F :=
  let grid := t.term.activeGrid
  let (imgW, imgH) := match t.cache.images.lookup imageId with
    | some img => (img.width, img.height)
    | none => (0, 0)
  let cellW := max t.term.cellPixelWidth 1
  let cellH := max t.term.cellPixelHeight 1
  let cols := cmd.displayCols.getD (if imgW > 0 then (imgW + cellW - 1) / cellW else 1)
  let rows := cmd.displayRows.getD (if imgH > 0 then (imgH + cellH - 1) / cellH else 1)
  let explicitCells := cmd.displayCols.isSome || cmd.displayRows.isSome
  let placement : Image.Placement :=
    { imageId, placementId := cmd.placementId, sourceX := cmd.sourceX, sourceY := cmd.sourceY
      sourceW := cmd.sourceWidth, sourceH := cmd.sourceHeight, cellCol := grid.cursor.col
      cellRow := .fromVisible grid grid.cursor.line, cols, rows, zIndex := cmd.zIndex
      cellXOffset := cmd.cellXOffset % 2 ^ 16, cellYOffset := cmd.cellYOffset % 2 ^ 16
      sizing := if explicitCells then .cellCount else .fixedPixels (cols * cellW % 2 ^ 32) (rows * cellH % 2 ^ 32) }
  let t := t.onCache (·.place placement)
  if cmd.noCursorMove then t else t.onTerm (·.kittyAdvance cols rows)

/-- Anchors a placeholder image, or places it at the cursor. -/
def anchorOrPlace (cmd : KittyCommand) : KittyTerm F :=
  if cmd.unicodePlaceholder then t.onCache (·.anchorPlaceholderWithGrid imageId (placeholderGrid cmd))
  else t.kittyCreatePlacement imageId cmd

/-- The end of `a=t`: stores the merged payload. -/
def transmitMerged (t : KittyTerm F) (imageId : Nat) (merged : KittyCommand) : KittyTerm F :=
  let ctx := (KittyReplyContext.fromCmd merged).withImageId imageId
  match t.kittyStoreImage env (.fromMerged imageId merged) with
  | (t, .error msg) => t.kittyRespond ctx msg
  | (t, .ok ()) =>
    let t :=
      if merged.unicodePlaceholder then t.onCache (·.anchorPlaceholderWithGrid imageId (placeholderGrid merged)) else t
    t.kittyRespond ctx "OK"

/-- `a=t`. -/
def kittyTransmit (t : KittyTerm F) (cmd : KittyCommand) : KittyTerm F :=
  if cmd.moreData then t.kittyAccumulateChunk cmd
  else
    let (t, imageId, merged) := t.kittyFinalizePayload cmd
    t.transmitMerged env imageId merged

/-- The end of `a=T`: stores the merged payload and places it. -/
def transmitAndPlaceMerged (t : KittyTerm F) (imageId : Nat) (merged : KittyCommand) : KittyTerm F :=
  let ctx := (KittyReplyContext.fromCmd merged).withImageId imageId
  match t.kittyStoreImage env (.fromMerged imageId merged) with
  | (t, .error msg) => t.kittyRespond ctx msg
  | (t, .ok ()) => (t.anchorOrPlace imageId merged).kittyRespond ctx "OK"

/-- `a=T`. -/
def kittyTransmitAndPlace (t : KittyTerm F) (cmd : KittyCommand) : KittyTerm F :=
  if cmd.moreData then t.kittyAccumulateChunk cmd
  else
    let (t, imageId, merged) := t.kittyFinalizePayload cmd
    t.transmitAndPlaceMerged env imageId merged

/-- `a=p`. -/
def kittyPlace : KittyTerm F :=
  let ctx := KittyReplyContext.fromCmd cmd
  match cmd.imageId with
  | none => t.kittyRespond ctx "ENOENT"
  | some imageId =>
    if !t.cache.holds imageId then t.kittyRespond ctx "ENOENT"
    else (t.anchorOrPlace imageId cmd).kittyRespond ctx "OK"

/-- `a=q`. -/
def kittyQuery : KittyTerm F := t.kittyRespond (.fromCmd cmd) "OK"

/-! ## Frames -/

/-- Milliseconds of a `z=` key, a negative one clamped to 0. -/
def gapOfZ (z : Int) : Image.Nanos := z.toNat * 1000000

/-- 40 ms, the gap of a frame without `z=`. -/
def defaultFrameGap : Image.Nanos := 40 * 1000000

/-- The gap that `a=f` and `a=a` set on an existing frame; 0 leaves it alone. -/
def zToGapUpdate (z : Int) : Option Image.Nanos := if z = 0 then none else some (gapOfZ z)

/-- The request of an `a=f` command with its decoded payload. -/
def frameRequest (cmd : KittyCommand) (rgba : List UInt8) (decodedW decodedH totalFrames : Nat) :
    Image.FrameLoadRequest :=
  let canvasFrame := cmd.displayCols.filter (· > 0)
  let targetFrame := (cmd.displayRows.filter (· > 0)).getD 0
  let effectiveTarget := if targetFrame = 0 ∨ targetFrame > totalFrames then totalFrames + 1 else targetFrame
  let isAppend := effectiveTarget = totalFrames + 1
  { imageId
    target :=
      if isAppend then .append (if cmd.zIndex = 0 then defaultFrameGap else gapOfZ cmd.zIndex)
      else .edit effectiveTarget (zToGapUpdate cmd.zIndex)
    canvas :=
      if isAppend then
        match canvasFrame with
        | some c => .frame c
        | none => .solidColor cmd.cellYOffset
      else .editTarget
    blit := { destX := cmd.sourceX, destY := cmd.sourceY, width := decodedW, height := decodedH }
    frameData := rgba
    compositionMode := if cmd.cellXOffset = 1 then .overwrite else .alphaBlend }

/-- The reply to an error of `put_frame`. -/
def frameErrorReply (err : Image.Error) : String :=
  match err with
  | .missingImage _ => "ENOENT"
  | .invalidFrameRef _ _ | .oversizedBlit _ _ _ _ | .invalidFormat => s!"EINVAL: {err.text}"
  | .oversizedImage | .memoryLimitExceeded => s!"ENOMEM: {err.text}"
  -- `unreachable!()`: only composing two frames reports an overlap.
  | .overlappingFrames => s!"EINVAL: {err.text}"

/-- The end of `a=f`: decodes the merged payload and puts the frame. -/
def frameMerged (t : KittyTerm F) (imageId : Nat) (merged : KittyCommand) : KittyTerm F :=
  let ctx := (KittyReplyContext.fromCmd merged).withImageId imageId
  if !t.cache.holds imageId then t.kittyRespond ctx "ENOENT"
  else
    let expectedSize := expectedDecodedSizeForFormat merged.format merged.sourceWidth merged.sourceHeight
    let maxBytes := t.cache.maxSingleImageBytes
    match prepareImageBytes env merged.payload merged.compression expectedSize maxBytes with
    | .error msg => t.kittyRespond ctx msg
    | .ok payload =>
      match kittyDecodePixels env payload merged.format merged.sourceWidth merged.sourceHeight maxBytes with
      | .error msg => t.kittyRespond ctx msg
      | .ok (rgba, decodedW, decodedH) =>
        let request := frameRequest imageId merged rgba decodedW decodedH (t.cache.animationTotalFrames imageId)
        let t' := t.onCache fun c => (c.putFrame request).1
        match (t.cache.putFrame request).2 with
        | .ok frameNum => ({ t' with stored := t'.stored ++ [imageId] }).kittyRespond (ctx.withFrameNum frameNum) "OK"
        | .error e => t'.kittyRespond ctx (frameErrorReply e)

/-- `a=f`. -/
def kittyFrame (t : KittyTerm F) (cmd : KittyCommand) : KittyTerm F :=
  if cmd.moreData then t.kittyAccumulateChunk cmd
  else
    let (t, imageId, merged) := t.kittyFinalizePayload cmd
    t.frameMerged env imageId merged

/-! ## Animation, composition, deletion -/

/-- The image a command names, by id or by number. -/
def commandImage : Option ImageId :=
  cmd.imageId.orElse fun _ => cmd.imageNumber.bind t.cache.newestByImageNumber

/-- `s=` and `v=` of `a=a`: the playback action and the loop count. -/
def setPlayback (cmd : KittyCommand) : KittyTerm F :=
  let t := if cmd.sourceWidth > 0 then t.onCache (·.setAnimationAction now id cmd.sourceWidth) else t
  match cmd.loopCount with
  | some loops => t.onCache (·.setAnimationLoops id loops)
  | none => t

/-- `r=` and `z=` of `a=a`: the gap of a frame. The root frame's gap may promote a static image. -/
def setGap (cmd : KittyCommand) : KittyTerm F × Option Image.Error :=
  let frame := cmd.displayRows.getD 0
  if frame > 0 ∧ cmd.zIndex ≠ 0 then
    if frame = 1 then
      let gapUpdate := zToGapUpdate cmd.zIndex
      (t.onCache fun c => (c.ensureAnimationStateForRootGap id gapUpdate).1,
        (t.cache.ensureAnimationStateForRootGap id gapUpdate).2)
    else (t.onCache (·.setFrameGap id (frame - 1) (gapOfZ cmd.zIndex)), none)
  else (t, none)

/-- `c=` of `a=a`: the current frame. -/
def seek (cmd : KittyCommand) : KittyTerm F :=
  let current := cmd.displayCols.getD 0
  if current > 0 then t.onCache (·.setCurrentFrame now id (current - 1)) else t

/-- `a=a`. -/
def kittyAnimate (cmd : KittyCommand) : KittyTerm F :=
  let ctx := KittyReplyContext.fromCmd cmd
  match t.commandImage cmd with
  | none => t.kittyRespond ctx "ENOENT"
  | some id =>
    match (t.setPlayback now id cmd).setGap id cmd with
    | (t, some (.missingImage _)) => t.kittyRespond ctx "ENOENT"
    | (t, some e) => t.kittyRespond ctx s!"EINVAL: {e.text}"
    | (t, none) =>
      let t := t.seek now id cmd
      let ctx := ctx.withImageId id
      let ctx := match t.cache.animations.lookup id with
        | some state => ctx.withFrameNum (state.currentFrame + 1)
        | none => ctx
      t.kittyRespond ctx "OK"

/-- The reply to an error of `compose_frame`. -/
def composeErrorReply (err : Image.Error) : String :=
  match err with
  | .missingImage _ | .invalidFrameRef _ _ => s!"ENOENT: {err.text}"
  | .overlappingFrames | .oversizedBlit _ _ _ _ | .invalidFormat => s!"EINVAL: {err.text}"
  | .oversizedImage | .memoryLimitExceeded => s!"ENOMEM: {err.text}"

/-- `a=c`. -/
def kittyCompose : KittyTerm F :=
  match t.commandImage cmd with
  | none => t.kittyRespond (.fromCmd cmd) "ENOENT"
  | some imageId =>
    let ctx := (KittyReplyContext.fromCmd cmd).withImageId imageId
    let srcFrame := cmd.displayRows.getD 0
    let dstFrame := cmd.displayCols.getD 0
    if !t.cache.holds imageId then t.kittyRespond ctx "ENOENT"
    else if srcFrame = 0 ∨ dstFrame = 0 then t.kittyRespond ctx "ENOENT"
    else
      let req : Image.ComposeRequest :=
        { imageId, srcFrame, dstFrame, width := cmd.widthPx.getD 0, height := cmd.heightPx.getD 0
          srcX := cmd.cellXOffset, srcY := cmd.cellYOffset, dstX := cmd.sourceX, dstY := cmd.sourceY
          mode := if cmd.noCursorMove then .overwrite else .alphaBlend }
      let t' := t.onCache fun c => (c.composeFrame req).1
      match (t.cache.composeFrame req).2 with
      | .ok () => t'.kittyRespond ctx "OK"
      | .error e => t'.kittyRespond ctx (composeErrorReply e)

/-- Removes the selected placements; an uppercase specifier also prunes the images they leave orphaned. -/
def deletePlacements (selector : Image.PlacementSelector) : KittyTerm F :=
  let ids := (t.cache.removePlacementsWhere fun p => selector.matches p).2
  let t := t.onCache fun c => (c.removePlacementsWhere fun p => selector.matches p).1
  if uppercase then t.onCache (·.pruneIfOrphaned ids) else t

/-- Removes the placements of an image, or one of them; an uppercase specifier also removes the image. -/
def deleteImage (placementId : Option Nat) : KittyTerm F :=
  let selector := match placementId with
    | some pid => Image.PlacementSelector.placement id pid
    | none => .forImage id
  let t := t.onCache fun c => (c.removePlacementsWhere fun p => selector.matches p).1
  if uppercase then t.onCache (·.removeImage id) else t

/-- Removes the placements of an id range; an uppercase specifier also removes the images. -/
def deleteIdRange (lo hi : ImageId) : KittyTerm F :=
  let selector := Image.PlacementSelector.inIdRange lo hi
  let ids := (t.cache.removePlacementsWhere fun p => selector.matches p).2
  let t := t.onCache fun c => (c.removePlacementsWhere fun p => selector.matches p).1
  if uppercase then t.onCache fun c => ids.foldl Image.Cache.removeImage c else t

/-- Removes an animation frame; an uppercase specifier removes an image left without extra frames. -/
def deleteFrame (cmd : KittyCommand) : KittyTerm F :=
  match t.commandImage cmd with
  | none => t
  | some id =>
    if !t.cache.holds id then t
    else if t.cache.hasExtraAnimationFrames id then
      let frameNumber := cmd.displayRows.getD 1
      let nowStatic := (t.cache.removeAnimationFrame id frameNumber).2
      let t := t.onCache fun c => (c.removeAnimationFrame id frameNumber).1
      if uppercase && nowStatic then t.onCache (·.removeImage id) else t
    else if uppercase then t.onCache (·.removeImage id)
    else t

/-- The placements that a specifier selects by their place: `spec` is the letter in lower case. -/
def deleteSelector (grid : Grid) (cmd : KittyCommand) (spec : Char) : Option Image.PlacementSelector :=
  let col := cmd.sourceX - 1
  let row := StableRowIndex.fromVisible grid (cmd.sourceY - 1)
  match spec with
  | 'a' => some (.visible (.fromVisible grid 0) (.fromVisible grid (grid.lines - 1)))
  | 'p' => some (.intersectingCell col row)
  | 'c' => some (.intersectingCell grid.cursor.col (.fromVisible grid grid.cursor.line))
  | 'x' => some (.atColumn col)
  | 'y' => some (.atRow row)
  | 'z' => some (.byZIndex cmd.zIndex)
  | 'q' => some (.atCellWithZ col row cmd.zIndex)
  | _ => none

/-- `a=d`. Aborts the upload in progress. -/
def kittyDelete : KittyTerm F :=
  let t := { t with loadingImage := none }
  let spec := byteChar (cmd.deleteSpecifier.getD 97)
  let uppercase := spec.isUpper
  match deleteSelector t.term.activeGrid cmd spec.toLower with
  | some selector => t.deletePlacements uppercase selector
  | none =>
    match spec.toLower with
    | 'i' =>
      match cmd.imageId with
      | none => t
      | some id => t.deleteImage uppercase id cmd.placementId
    | 'r' => t.deleteIdRange uppercase cmd.sourceX cmd.sourceY
    | 'n' =>
      match cmd.imageNumber.bind t.cache.newestByImageNumber with
      | none => t
      | some id => t.deleteImage uppercase id cmd.placementId
    | 'f' => t.deleteFrame uppercase cmd
    | _ => t

/-! ## Dispatch -/

end KittyTerm

/-- The action brings an image or a frame, perhaps in chunks. -/
def KittyAction.uploads : KittyAction → Bool
  | transmit | transmitAndPlace | frame => true
  | _ => false

/-- The command chooses an id outside the explicit range for a new image. -/
def KittyCommand.rejectedId (cmd : KittyCommand) : Option Nat :=
  if cmd.action = .transmit ∨ cmd.action = .transmitAndPlace then
    cmd.imageId.filter fun id => id == 0 || id ≥ Image.autoIdStart
  else none

/-- The last chunk of an upload inherits the action of the first. -/
def KittyCommand.inherit (cmd : KittyCommand) (loadingImage : Option LoadingImage) : KittyCommand :=
  if cmd.moreData then cmd
  else
    match loadingImage with
    | some loading => { cmd with action := loading.startCmd.action }
    | none => cmd

namespace KittyTerm

variable {F : Type}

variable (env : KittyEnv F) (now : Image.Nanos) (t : KittyTerm F)

/-- Performs a parsed command. -/
def dispatch (cmd : KittyCommand) : KittyTerm F :=
  match cmd.action with
  | .query => t.kittyQuery cmd
  | .transmit => t.kittyTransmit env cmd
  | .transmitAndPlace => t.kittyTransmitAndPlace env cmd
  | .place => t.kittyPlace cmd
  | .delete => t.kittyDelete cmd
  | .frame => t.kittyFrame env cmd
  | .animate => t.kittyAnimate now cmd
  | .compose => t.kittyCompose cmd

/-- Performs a command that parsed. -/
def handleCommand (cmd : KittyCommand) : KittyTerm F :=
  let cmd := cmd.inherit t.loadingImage
  match cmd.rejectedId with
  | some id =>
    t.kittyRespond (.fromCmd cmd) s!"EINVAL: explicit image id {id} outside allowed range [1, 2^31)"
  | none => t.dispatch env now cmd

/-- Parses and executes the body of an APC sequence. -/
def handleKittyGraphics (data : List UInt8) : KittyTerm F :=
  if !t.term.imageProtocolEnabled then t
  else
    match parseKittyCommandInto data with
    | (cmd, some .invalidBase64) => t.handleInvalidBase64Chunk cmd
    | (_, some _) => t
    | (cmd, none) => t.handleCommand env now cmd

/-! ## What the handlers do to the terminal -/

end KittyTerm

/-- The operation stores an image. -/
def Image.CacheOp.Stores : Image.CacheOp → Prop
  | store _ | storeAnimated _ _ _ _ => True
  | _ => False

/-- A relation that allows all that the handlers do to the terminal, storing an image aside: the rules by which it is
    shown that they stay within it. -/
structure Term.HandlerSteps (R : Term → Term → Prop) : Prop where
  refl : ∀ t, R t t
  trans : ∀ {t t' t''}, R t t' → R t' t'' → R t t''
  emit : ∀ t event, R t (t.emit event)
  advance : ∀ t cols rows, R t (t.kittyAdvance cols rows)
  imageOps : ∀ t (ops : List Image.CacheOp), (∀ op ∈ ops, ¬op.Stores) →
    R t (t.onCache fun c => ops.foldl Image.CacheOp.apply c)

theorem Term.HandlerSteps.cacheOp {R : Term → Term → Prop} (hR : Term.HandlerSteps R) (t : Term) (op : Image.CacheOp)
    (hop : ¬op.Stores) : R t (t.onCache (op.apply ·)) :=
  hR.imageOps t [op] fun o ho => by rwa [List.mem_singleton.mp ho]

namespace KittyTerm

variable {F : Type}

section HandlerSteps

variable {R : Term → Term → Prop} (hR : Term.HandlerSteps R) {env : KittyEnv F} {t : KittyTerm F} {cmd : KittyCommand}

variable (imageId : Nat) (uppercase : Bool) (now : Image.Nanos) (id : ImageId)

include hR

theorem steps_kittyRespond (ctx : KittyReplyContext) (msg : String) : R t.term (t.kittyRespond ctx msg).term := by
  unfold kittyRespond
  split
  · exact hR.refl _
  · exact hR.emit ..

/-- A step that is answered. -/
theorem steps_answered {s : KittyTerm F} (h : R t.term s.term) (ctx : KittyReplyContext) (msg : String) :
    R t.term (s.kittyRespond ctx msg).term := hR.trans h (steps_kittyRespond hR ctx msg)

theorem steps_kittyCreatePlacement : R t.term (t.kittyCreatePlacement imageId cmd).term := by
  unfold kittyCreatePlacement
  dsimp only
  split
  · exact hR.cacheOp _ (.place _) not_false
  · exact hR.trans (hR.cacheOp _ (.place _) not_false) (hR.advance ..)

theorem steps_anchor (grid : Option (Nat × Nat)) :
    R t.term (t.onCache (·.anchorPlaceholderWithGrid imageId grid)).term :=
  hR.cacheOp _ (.anchorPlaceholderWithGrid imageId grid) not_false

theorem steps_anchorOrPlace : R t.term (t.anchorOrPlace imageId cmd).term := by
  unfold anchorOrPlace
  split
  · exact steps_anchor hR ..
  · exact steps_kittyCreatePlacement hR imageId

theorem steps_kittyAccumulateChunk : R t.term (t.kittyAccumulateChunk cmd).term := by
  unfold kittyAccumulateChunk
  split
  · dsimp only
    split <;> exact hR.refl _
  · split
    · exact hR.refl _
    · exact hR.cacheOp _ .nextImageId not_false

theorem steps_kittyFinalizePayload : R t.term (t.kittyFinalizePayload cmd).1.term := by
  unfold kittyFinalizePayload
  split
  · exact hR.refl _
  · split
    · exact hR.cacheOp _ .nextImageId not_false
    · exact hR.refl _

theorem steps_handleInvalidBase64Chunk : R t.term (t.handleInvalidBase64Chunk cmd).term := by
  unfold handleInvalidBase64Chunk
  split
  · split <;> exact hR.refl _
  · have hrespond : R t.term (t.kittyRespond (.fromCmd cmd) "EINVAL: base64 decode failed").term :=
      steps_kittyRespond hR ..
    dsimp only
    repeat' split
    all_goals exact hrespond

section

variable (hstore : R t.term (t.kittyStoreImage env (.fromMerged imageId cmd)).1.term)
include hstore

theorem steps_transmitMerged : R t.term (t.transmitMerged env imageId cmd).term := by
  unfold transmitMerged
  split
  · next h =>
    rw [h] at hstore
    exact steps_answered hR hstore ..
  · next h =>
    rw [h] at hstore
    refine steps_answered hR ?_ ..
    split
    · exact hR.trans hstore (steps_anchor hR ..)
    · exact hstore

theorem steps_transmitAndPlaceMerged : R t.term (t.transmitAndPlaceMerged env imageId cmd).term := by
  unfold transmitAndPlaceMerged
  split
  · next h =>
    rw [h] at hstore
    exact steps_answered hR hstore ..
  · next h =>
    rw [h] at hstore
    exact steps_answered hR (hR.trans hstore (steps_anchorOrPlace hR imageId)) ..

end

theorem steps_frameMerged : R t.term (t.frameMerged env imageId cmd).term := by
  have hput : ∀ request, R t.term (t.onCache fun c => (c.putFrame request).1).term := fun request =>
    hR.cacheOp _ (.putFrame request) not_false
  unfold frameMerged
  dsimp only
  split
  · exact steps_kittyRespond hR ..
  · split
    · exact steps_kittyRespond hR ..
    · split
      · exact steps_kittyRespond hR ..
      · split
        · exact steps_answered hR (s := { t.onCache _ with stored := t.stored ++ [imageId] }) (hput _) ..
        · exact steps_answered hR (hput _) ..

theorem steps_kittyPlace : R t.term (t.kittyPlace cmd).term := by
  unfold kittyPlace
  split
  · exact steps_kittyRespond hR ..
  · split
    · exact steps_kittyRespond hR ..
    · exact steps_answered hR (steps_anchorOrPlace hR _) ..

theorem steps_setPlayback : R t.term (t.setPlayback now id cmd).term := by
  have hloops : ∀ s : KittyTerm F, R t.term s.term → R t.term (match cmd.loopCount with
      | some loops => s.onCache (·.setAnimationLoops id loops)
      | none => s).term := by
    intro s hs
    split
    · exact hR.trans hs (hR.cacheOp _ (.setAnimationLoops id _) not_false)
    · exact hs
  refine hloops _ ?_
  split
  · exact hR.cacheOp _ (.setAnimationAction now id _) not_false
  · exact hR.refl _

theorem steps_setGap : R t.term (t.setGap id cmd).1.term := by
  unfold setGap
  dsimp only
  split
  · split
    · exact hR.cacheOp _ (.ensureAnimationStateForRootGap id _) not_false
    · exact hR.cacheOp _ (.setFrameGap id _ _) not_false
  · exact hR.refl _

theorem steps_seek : R t.term (t.seek now id cmd).term := by
  unfold seek
  dsimp only
  split
  · exact hR.cacheOp _ (.setCurrentFrame now id _) not_false
  · exact hR.refl _

theorem steps_kittyAnimate : R t.term (t.kittyAnimate now cmd).term := by
  unfold kittyAnimate
  split
  · exact steps_kittyRespond hR ..
  · next id _ =>
    have hgap : R t.term ((t.setPlayback now id cmd).setGap id cmd).1.term :=
      hR.trans (steps_setPlayback hR now id) (steps_setGap hR id)
    split
    · next h =>
      rw [h] at hgap
      exact steps_answered hR hgap ..
    · next h =>
      rw [h] at hgap
      exact steps_answered hR hgap ..
    · next s h =>
      rw [h] at hgap
      exact steps_answered hR (hR.trans hgap (steps_seek hR now id)) ..

theorem steps_kittyCompose : R t.term (t.kittyCompose cmd).term := by
  unfold kittyCompose
  split
  · exact steps_kittyRespond hR ..
  · dsimp only
    split
    · exact steps_kittyRespond hR ..
    · split
      · exact steps_kittyRespond hR ..
      · split <;> exact steps_answered hR (hR.cacheOp _ (.composeFrame _) not_false) ..

theorem steps_deletePlacements (selector : Image.PlacementSelector) :
    R t.term (t.deletePlacements uppercase selector).term := by
  have hremoved : R t.term (t.onCache fun c => (c.removePlacementsWhere fun p => selector.matches p).1).term :=
    hR.cacheOp _ (.removePlacements selector) not_false
  unfold deletePlacements
  split
  · exact hR.trans hremoved (hR.cacheOp _ (.pruneIfOrphaned _) not_false)
  · exact hremoved

theorem steps_removeImage : R t.term (t.onCache (·.removeImage id)).term :=
  hR.cacheOp _ (.removeImage id) not_false

theorem steps_deleteImage (placementId : Option Nat) : R t.term (t.deleteImage uppercase id placementId).term := by
  have hremoved : ∀ selector : Image.PlacementSelector,
      R t.term (t.onCache fun c => (c.removePlacementsWhere fun p => selector.matches p).1).term := fun selector =>
    hR.cacheOp _ (.removePlacements selector) not_false
  unfold deleteImage
  dsimp only
  split
  · exact hR.trans (hremoved _) (steps_removeImage hR id)
  · exact hremoved _

theorem steps_deleteIdRange (lo hi : ImageId) : R t.term (t.deleteIdRange uppercase lo hi).term := by
  have hremoved : R t.term (t.onCache fun c => (c.removePlacementsWhere fun p =>
      (Image.PlacementSelector.inIdRange lo hi).matches p).1).term :=
    hR.cacheOp _ (.removePlacements (.inIdRange lo hi)) not_false
  have hall : ∀ (ids : List ImageId) (s : Term), R s (s.onCache fun c => ids.foldl Image.Cache.removeImage c) := by
    intro ids s
    have hops := hR.imageOps s (ids.map .removeImage) fun op hop => by
      obtain ⟨id, -, rfl⟩ := List.mem_map.mp hop
      exact not_false
    have hremove : ∀ c : Image.Cache, (ids.map Image.CacheOp.removeImage).foldl Image.CacheOp.apply c
        = ids.foldl Image.Cache.removeImage c := fun c => List.foldl_map ..
    simp only [hremove] at hops
    exact hops
  unfold deleteIdRange
  split
  · exact hR.trans hremoved (hall _ _)
  · exact hremoved

theorem steps_deleteFrame : R t.term (t.deleteFrame uppercase cmd).term := by
  unfold deleteFrame
  split
  · exact hR.refl _
  · next id _ =>
    have hremoved : R t.term (t.onCache fun c => (c.removeAnimationFrame id (cmd.displayRows.getD 1)).1).term :=
      hR.cacheOp _ (.removeAnimationFrame id _) not_false
    split
    · exact hR.refl _
    · split
      · dsimp only
        split
        · exact hR.trans hremoved (steps_removeImage hR id)
        · exact hremoved
      · split
        · exact steps_removeImage hR id
        · exact hR.refl _

theorem steps_kittyDelete : R t.term (t.kittyDelete cmd).term := by
  unfold kittyDelete
  dsimp only
  split
  · exact steps_deletePlacements hR (t := { t with loadingImage := none }) ..
  · split
    · split
      · exact hR.refl _
      · exact steps_deleteImage hR (t := { t with loadingImage := none }) ..
    · exact steps_deleteIdRange hR (t := { t with loadingImage := none }) ..
    · split
      · exact hR.refl _
      · exact steps_deleteImage hR (t := { t with loadingImage := none }) ..
    · exact steps_deleteFrame hR (t := { t with loadingImage := none }) _
    · exact hR.refl _

end HandlerSteps

/-- The store that ends a transmission: the terminal in front of it, and what is to be stored. -/
def pendingStore (t : KittyTerm F) (cmd : KittyCommand) : Option (KittyTerm F × KittyStoreParams) :=
  if (cmd.action = .transmit ∨ cmd.action = .transmitAndPlace) ∧ cmd.moreData = false then
    some ((t.kittyFinalizePayload cmd).1, .fromMerged (t.kittyFinalizePayload cmd).2.1 (t.kittyFinalizePayload cmd).2.2)
  else none

/-- The store that an APC sequence leads to. -/
def receivedStore (t : KittyTerm F) (data : List UInt8) : Option (KittyTerm F × KittyStoreParams) :=
  if !t.term.imageProtocolEnabled then none
  else
    match parseKittyCommandInto data with
    | (_, some _) => none
    | (cmd, none) =>
      let cmd := cmd.inherit t.loadingImage
      match cmd.rejectedId with
      | some _ => none
      | none => t.pendingStore cmd

section HandlerSteps

variable {R : Term → Term → Prop} (hR : Term.HandlerSteps R) {env : KittyEnv F} {t : KittyTerm F} {cmd : KittyCommand}

include hR

/-- A command that may end an upload: its chunk is added, or what ends it happens. -/
theorem steps_last {f : KittyTerm F → Nat → KittyCommand → KittyTerm F}
    (hf : cmd.moreData = false → R (t.kittyFinalizePayload cmd).1.term
      (f (t.kittyFinalizePayload cmd).1 (t.kittyFinalizePayload cmd).2.1 (t.kittyFinalizePayload cmd).2.2).term) :
    R t.term (if cmd.moreData then t.kittyAccumulateChunk cmd
      else f (t.kittyFinalizePayload cmd).1 (t.kittyFinalizePayload cmd).2.1 (t.kittyFinalizePayload cmd).2.2).term := by
  split
  · exact steps_kittyAccumulateChunk hR
  · next h => exact hR.trans (steps_kittyFinalizePayload hR) (hf (Bool.not_eq_true _ ▸ h))

theorem steps_dispatch (now : Image.Nanos)
    (hstore : ∀ s p, t.pendingStore cmd = some (s, p) → R s.term (s.kittyStoreImage env p).1.term) :
    R t.term (t.dispatch env now cmd).term := by
  have hend : cmd.action = .transmit ∨ cmd.action = .transmitAndPlace → cmd.moreData = false →
      R (t.kittyFinalizePayload cmd).1.term ((t.kittyFinalizePayload cmd).1.kittyStoreImage env
        (.fromMerged (t.kittyFinalizePayload cmd).2.1 (t.kittyFinalizePayload cmd).2.2)).1.term := fun haction hmore =>
    hstore _ _ (if_pos ⟨haction, hmore⟩)
  unfold dispatch
  split
  · exact steps_kittyRespond hR ..
  · next h => exact steps_last hR fun hmore => steps_transmitMerged hR _ (hend (.inl h) hmore)
  · next h => exact steps_last hR fun hmore => steps_transmitAndPlaceMerged hR _ (hend (.inr h) hmore)
  · exact steps_kittyPlace hR
  · exact steps_kittyDelete hR
  · exact steps_last hR fun _ => steps_frameMerged hR _
  · exact steps_kittyAnimate hR now
  · exact steps_kittyCompose hR

/-- **What an APC sequence does to the terminal**, if the relation allows the store it leads to. -/
theorem steps_handleKittyGraphics (now : Image.Nanos) (data : List UInt8)
    (hstore : ∀ s p, t.receivedStore data = some (s, p) → R s.term (s.kittyStoreImage env p).1.term) :
    R t.term (t.handleKittyGraphics env now data).term := by
  unfold handleKittyGraphics
  unfold receivedStore at hstore
  split
  · exact hR.refl _
  · next henabled =>
    rw [if_neg henabled] at hstore
    split
    · exact steps_handleInvalidBase64Chunk hR
    · exact hR.refl _
    · next hparse =>
      rw [hparse] at hstore
      unfold handleCommand
      dsimp only at hstore ⊢
      split
      · exact steps_kittyRespond hR ..
      · next hid =>
        rw [hid] at hstore
        exact steps_dispatch hR now hstore

end HandlerSteps

end KittyTerm

end OriTerm
