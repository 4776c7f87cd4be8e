import OriTerm.Image.Cache
import OriTerm.Term.KittyCommand

/-!
# `Image.Iterm2` — iTerm2 image commands, and the frames of a GIF

`parseIterm2File` reads the parameters of an OSC 1337 `File=` sequence: `key=value` pairs, the last of which ends at a
colon with the base64 payload behind it. Unknown keys are skipped, and a size that is no number counts as automatic.

`decodeGifFrames` collects the frames of an animation within a budget of bytes and frames. The decoder itself is a
parameter, `openGif`: what it yields, frame by frame. The decoder composites every frame onto the canvas
(`GifDecoder.Sound`), so all frames of an animation have the size of its canvas (`length_decodeGifFrames`).
-/

namespace OriTerm.Image

open Lib List

/-! ## Commands -/

/-- Display size specification for width or height. -/
inductive SizeSpec where
  | auto
  | cells (n : Nat)
  | pixels (n : Nat)
  | percent (n : Nat)
  deriving DecidableEq, Repr

/-- Parsed iTerm2 image command. -/
structure Iterm2Image where
  width : SizeSpec := .auto
  height : SizeSpec := .auto
  preserveAspectRatio : Bool := true
  isInline : Bool := false
  data : List UInt8 := []
  deriving DecidableEq, Repr

/-- iTerm2 protocol errors. -/
inductive Iterm2Error where
  | missingFilePrefix | missingPayload | invalidBase64
  deriving DecidableEq, Repr

/-- `u8::to_ascii_lowercase`. -/
def asciiLower (b : UInt8) : UInt8 := if 65 ≤ b ∧ b ≤ 90 then b + 32 else b

/-- The text in front of a suffix. -/
def stripSuffix (value suffix : List UInt8) : Option (List UInt8) :=
  if suffix.isSuffixOf value then some (value.take (value.length - suffix.length)) else none

/-- Parses a size: `auto`, `N` cells, `Npx` pixels, `N%` of the terminal. -/
def parseSizeSpec (value : List UInt8) : SizeSpec :=
  match String.fromUTF8? ⟨value.toArray⟩ with
  | none => .auto
  | some _ =>
    if value.map asciiLower = asciiBytes "auto" ∨ value = [] then .auto
    else
      match stripSuffix value (asciiBytes "px") with
      | some px => ((parseU32 px).map SizeSpec.pixels).getD .auto
      | none =>
        match stripSuffix value (asciiBytes "%") with
        | some pct => ((parseU32 pct).map SizeSpec.percent).getD .auto
        | none => ((parseU32 value).map SizeSpec.cells).getD .auto

/-- Parses a single `key=value` pair and applies it; a pair without `=` is skipped. -/
def Iterm2Image.parseKeyValue (image : Iterm2Image) (kv : List UInt8) : Iterm2Image :=
  match kv.dropWhile (byteChar · != '=') with
  | [] => image
  | _ :: value =>
    let key := kv.takeWhile (byteChar · != '=')
    if key = asciiBytes "width" then { image with width := parseSizeSpec value }
    else if key = asciiBytes "height" then { image with height := parseSizeSpec value }
    else if key = asciiBytes "preserveAspectRatio" then { image with preserveAspectRatio := value != asciiBytes "0" }
    else if key = asciiBytes "inline" then { image with isInline := value == asciiBytes "1" }
    else image

/-- Reads parameters up to the colon; the image and the base64 payload. -/
def Iterm2Image.scan : List (List UInt8) → Iterm2Image → Iterm2Image × List UInt8
  | [], image => (image, [])
  | kv :: rest, image =>
    let before := kv.takeWhile (byteChar · != ':')
    let image := if before.isEmpty then image else image.parseKeyValue before
    match kv.dropWhile (byteChar · != ':') with
    | [] => scan rest image
    | _ :: payload => (image, payload)

/-- One symbol of a base64 text: the bits read so far, how many there are, and the bytes. -/
def base64Step (state : Nat × Nat × List UInt8) (byte : UInt8) : Option (Nat × Nat × List UInt8) :=
  if byte = Base64.pad then some state
  else
    (Base64.symbol byte).map fun val =>
      let buf := state.1 * 64 + val
      let bits := state.2.1 + 6
      if bits ≥ 8 then (buf % 2 ^ (bits - 8), bits - 8, state.2.2 ++ [(buf / 2 ^ (bits - 8)).toUInt8])
      else (buf, bits, state.2.2)

/-- Decodes standard base64, with or without padding. -/
def decodeIterm2Base64 (data : List UInt8) : Option (List UInt8) :=
  ((data.filter (!isAsciiWhitespace ·)).foldlM base64Step (0, 0, [])).map (·.2.2)

/-- Parses the parameters of an OSC 1337 sequence, the first of which starts with `File=`. -/
def parseIterm2File : List (List UInt8) → Except Iterm2Error Iterm2Image
  | [] => .error .missingFilePrefix
  | first :: rest =>
    let (image, payload) := Iterm2Image.scan (first.drop 5 :: rest) {}
    if payload.isEmpty then .error .missingPayload
    else
      match decodeIterm2Base64 payload with
      | none => .error .invalidBase64
      | some data => if data.isEmpty then .error .missingPayload else .ok { image with data := data }

/-! ## Formats -/

/-- Detects an image format from the first bytes. -/
def detectFormat (data : List UInt8) : Option Format :=
  let startsWith := fun magic : List UInt8 => data.take magic.length == magic
  if data.length < 4 then none
  else if startsWith [0x89, 0x50, 0x4E, 0x47] then some .png
  else if startsWith [0xFF, 0xD8, 0xFF] then some .jpeg
  else if startsWith (asciiBytes "GIF8") then some .gif
  else if startsWith (asciiBytes "BM") then some .bmp
  else if data.length ≥ 12 ∧ startsWith (asciiBytes "RIFF") ∧ (data.drop 8).take 4 = asciiBytes "WEBP" then some .webP
  else none

/-! ## Animations -/

/-- A frame as the decoder yields it: its RGBA buffer, and its delay as a fraction of milliseconds. -/
structure GifFrame where
  buffer : List UInt8
  width : Nat
  height : Nat
  delayNumer : Nat
  delayDenom : Nat
  deriving DecidableEq, Repr

/-- `GifDecoder`, within a bound on the decoded size: the loop count, and the frames in order, `none` where one fails
    to decode. -/
abbrev GifDecoder := List UInt8 → Nat → Option (Option Nat × List (Option GifFrame))

/-- **The decoder composites every frame onto the canvas**: all its frames are RGBA buffers of one size. -/
def GifDecoder.Sound (openGif : GifDecoder) : Prop :=
  ∀ data max loopCount results, openGif data max = some (loopCount, results) →
    ∃ w h, ∀ frame, some frame ∈ results → frame.width = w ∧ frame.height = h ∧ frame.buffer.length = w * h * 4

/-- Hard ceiling on decoded GIF frame count. -/
def maxGifFrames : Nat := 4096

/-- Decoded GIF animation frames. -/
structure GifFrames where
  width : Nat
  height : Nat
  frames : List (List UInt8)
  durations : List Nanos
  loopCount : Option Nat
  deriving DecidableEq, Repr

/-- Collects frames until one fails, or the budget is exceeded. -/
def collectGifFrames (maxTotalBytes : Nat) : List (Option GifFrame) → List GifFrame → Nat → Option (List GifFrame)
  | [], frames, _ => some frames
  | next :: rest, frames, runningBytes =>
    if frames.length ≥ maxGifFrames then none
    else
      match next with
      | none => none
      | some frame =>
        let runningBytes := min (runningBytes + frame.buffer.length) (2 ^ 64 - 1)
        if runningBytes > maxTotalBytes then none else collectGifFrames maxTotalBytes rest (frames ++ [frame]) runningBytes

/-- The delay of a frame; 100 ms where the fraction has no denominator. -/
def GifFrame.delay (frame : GifFrame) : Nanos :=
  (if frame.delayDenom = 0 then 100 else frame.delayNumer / frame.delayDenom) * 1000000

/-- Decodes a GIF into its frames; `none` when it has a single one. -/
def decodeGifFrames (openGif : GifDecoder) (data : List UInt8) (maxTotalBytes : Nat) : Option GifFrames := do
  let (loopCount, results) ← openGif data maxTotalBytes
  let frames ← collectGifFrames maxTotalBytes results [] 0
  if frames.length ≤ 1 then none
  else
    frames.head?.map fun first =>
      { width := first.width, height := first.height, frames := frames.map (·.buffer), durations := frames.map (·.delay)
        loopCount }

/-- Nothing but decoded frames is collected. -/
theorem mem_collectGifFrames {maxTotalBytes : Nat} {results : List (Option GifFrame)} {frames collected : List GifFrame}
    {runningBytes : Nat} (h : collectGifFrames maxTotalBytes results frames runningBytes = some collected) :
    ∀ frame ∈ collected, frame ∈ frames ∨ some frame ∈ results := by
  induction results generalizing frames runningBytes with
  | nil =>
    cases h
    exact fun _ hf => .inl hf
  | cons next rest ih =>
    unfold collectGifFrames at h
    split at h
    · cases h
    · cases next with
      | none => cases h
      | some frame =>
        dsimp only at h
        split at h
        · cases h
        · intro frame' hf'
          rcases ih h frame' hf' with hmem | hmem
          · rcases mem_append.mp hmem with hold | hnew
            · exact .inl hold
            · rw [mem_singleton.mp hnew]
              exact .inr (mem_cons_self ..)
          · exact .inr (mem_cons_of_mem _ hmem)

/-- **The frames of an animation** have the size of its canvas, and there are several. -/
theorem length_decodeGifFrames {openGif : GifDecoder} (hsound : openGif.Sound) {data : List UInt8} {max : Nat}
    {gif : GifFrames} (h : decodeGifFrames openGif data max = some gif) :
    gif.frames ≠ [] ∧ ∀ f ∈ gif.frames, f.length = gif.width * gif.height * 4 := by
  obtain ⟨⟨loopCount, results⟩, hopen, h⟩ := Option.bind_eq_some_iff.mp h
  obtain ⟨frames, hcollect, h⟩ := Option.bind_eq_some_iff.mp h
  obtain ⟨w, hh, hall⟩ := hsound data max loopCount results hopen
  have hframes : ∀ frame ∈ frames, frame.width = w ∧ frame.height = hh ∧ frame.buffer.length = w * hh * 4 := by
    intro frame hf
    rcases mem_collectGifFrames hcollect frame hf with hmem | hmem
    · cases hmem
    · exact hall frame hmem
  split at h
  · cases h
  · cases frames with
    | nil => cases h
    | cons first rest =>
      cases h
      obtain ⟨hw, hheight, -⟩ := hframes first (mem_cons_self ..)
      refine ⟨nofun, fun f hf => ?_⟩
      obtain ⟨frame, hmem, rfl⟩ := mem_map.mp hf
      show frame.buffer.length = first.width * first.height * 4
      rw [hw, hheight]
      exact (hframes frame hmem).2.2

end OriTerm.Image
