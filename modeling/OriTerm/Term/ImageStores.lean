import OriTerm.Term.Contents
import OriTerm.Term.ImageProtocols
import OriTerm.Term.Snapshot

/-!
# `Term.ImageStores` — what the image protocols do to the caches besides storing

Sixel and iTerm2 images are stored under a new id and placed; a Kitty command stores under the id that it names, or
only edits what is there. Apart from the stores themselves these are cache operations like any other.

A property that a new cache has and that every operation but a store keeps (`Image.Cache.Storeless`) is therefore kept
by all three protocols, as long as the outcome of each store has it.
-/

namespace OriTerm

open Lib Image

/-- A property of caches that every operation keeps, storing an image aside. -/
structure Image.Cache.Storeless (P : Cache → Prop) : Prop where
  new : P .new
  apply : ∀ (c : Cache) (op : CacheOp), ¬op.Stores → P c → P (op.apply c)

theorem Image.CacheOp.Housekeeping.not_stores {op : CacheOp} (h : op.Housekeeping) : ¬op.Stores := by
  intro hstores
  cases op <;> first | exact hstores | exact h

theorem Image.Cache.Storeless.housekept {P : Cache → Prop} (hP : Cache.Storeless P) : Cache.Housekept P :=
  ⟨hP.new, fun c op hop => hP.apply c op hop.not_stores⟩

namespace Term

variable {P : Cache → Prop} {t : Term}

/-- Decoded pixels under the id that is allocated next. -/
def newImage (t : Term) (rgba : List UInt8) (w h : Nat) : Data :=
  { id := t.activeCache.nextImageId.2, width := w, height := h, data := rgba, pixelGeneration := 0, format := .rgba
    source := .direct, lastAccessed := 0, imageNumber := none }

/-- The store that an iTerm2 command leads to. -/
def iterm2Store {F : Type} (env : ImageEnv F) (t : Term) (params : List (List UInt8)) : Option CacheOp :=
  if !t.imageProtocolEnabled then none
  else
    match parseIterm2File params with
    | .error _ => none
    | .ok image =>
      let maxBytes := t.activeCache.maxSingleImageBytes
      if !image.isInline then none
      else if image.data.length > maxBytes then none
      else
        let gif := if detectFormat image.data = some .gif then decodeGifFrames env.openGif image.data maxBytes else none
        match gif with
        | some gif =>
          some (.storeAnimated (t.newImage (gif.frames.headD []) gif.width gif.height) gif.frames gif.durations
            gif.loopCount)
        | none =>
          match env.decode image.data maxBytes with
          | .error _ => none
          | .ok (rgba, w, h) => some (.store (t.newImage rgba w h))

section Storeless

variable (hP : Cache.Storeless P)

include hP

theorem EachCache.cacheOp (h : t.EachCache P) (op : CacheOp) (hop : ¬op.Stores) : (t.onCache (op.apply ·)).EachCache P :=
  h.onCache fun c hc => hP.apply c op hop hc

/-- Whatever stores no image. -/
theorem handlerSteps_eachCache : HandlerSteps fun t t' => t.EachCache P → t'.EachCache P where
  refl _ h := h
  trans h h' hs := h' (h hs)
  emit _ _ hs := ⟨hs.primary, hs.alternate⟩
  advance _ cols rows hs := TermOp.eachCache hP.housekept (fun _ => none) hs (.kittyAdvance cols rows) nofun
  imageOps _ ops hops hs :=
    TermOp.eachCache hP.housekept (fun _ => none) hs (.imageOps ops) fun op hop c hc => hP.apply c op (hops op hop) hc

variable (h : t.EachCache P)
include h

theorem EachCache.sixelCreatePlacement (id : ImageId) (w hgt : Nat) :
    (t.sixelCreatePlacement id w hgt).EachCache P := by
  refine TermOp.eachCache hP.housekept (fun _ => none) ?_ (.sixelAdvance _ _ _) nofun
  refine EachCache.cacheOp hP ?_ (.place _) not_false
  refine EachCache.cacheOp hP ?_ (.pruneIfOrphaned _) not_false
  exact h.cacheOp hP (.removePlacements (.byPosition _ _)) not_false

theorem EachCache.iterm2CreatePlacement (id : ImageId) (imgW imgH : Nat) (image : Iterm2Image) :
    (t.iterm2CreatePlacement id imgW imgH image).EachCache P := by
  exact TermOp.eachCache hP.housekept (fun _ => none) (h.cacheOp hP (.place _) not_false) (.imageAdvance _) nofun

/-- A store under a new id. -/
theorem EachCache.storeNew (op : CacheOp) (hop : P t.activeCache.nextImageId.1 →
    P (op.apply t.activeCache.nextImageId.1)) : ((t.onCache (·.nextImageId.1)).onCache (op.apply ·)).EachCache P := by
  have hcounted : (t.onCache (·.nextImageId.1)).EachCache P := h.cacheOp hP .nextImageId not_false
  have hactive := hcounted.active
  refine hcounted.onActive ?_
  rw [activeCache_onCache] at hactive ⊢
  exact hop hactive

/-- Storing and placing decoded pixels. -/
theorem EachCache.storeAndPlace {rgba : List UInt8} {w hgt : Nat}
    (hop : P t.activeCache.nextImageId.1 →
      P ((CacheOp.store (t.newImage rgba w hgt)).apply t.activeCache.nextImageId.1))
    {createPlacement : Term → ImageId → Term}
    (hcreate : ∀ (t : Term) id, t.EachCache P → (createPlacement t id).EachCache P) :
    (t.storeAndPlace rgba w hgt createPlacement).EachCache P := by
  have hstored := h.storeNew hP (.store (t.newImage rgba w hgt)) hop
  unfold Term.storeAndPlace
  dsimp only
  split
  · exact hcreate _ _ hstored
  · exact hstored

/-- Storing and placing an animation. -/
theorem EachCache.storeAnimation {gif : GifFrames}
    (hop : P t.activeCache.nextImageId.1 → P ((CacheOp.storeAnimated
      (t.newImage (gif.frames.headD []) gif.width gif.height) gif.frames gif.durations gif.loopCount).apply
      t.activeCache.nextImageId.1)) (image : Iterm2Image) : (t.storeAnimation gif image).EachCache P := by
  have hstored := h.storeNew hP _ hop
  unfold Term.storeAnimation
  dsimp only
  split
  · exact hstored.iterm2CreatePlacement hP ..
  · exact hstored

/-- An iTerm2 command. -/
theorem EachCache.handleIterm2File {F : Type} {env : ImageEnv F} {params : List (List UInt8)}
    (hop : ∀ op, t.iterm2Store env params = some op → P t.activeCache.nextImageId.1 →
      P (op.apply t.activeCache.nextImageId.1)) : (t.handleIterm2File env params).EachCache P := by
  unfold Term.iterm2Store at hop
  unfold Term.handleIterm2File
  by_cases hdisabled : (!t.imageProtocolEnabled) = true
  · rw [if_pos hdisabled]
    exact h
  rw [if_neg hdisabled] at hop ⊢
  cases hparse : parseIterm2File params with
  | error e => exact h
  | ok image =>
    rw [hparse] at hop
    dsimp only at hop ⊢
    by_cases hdownload : (!image.isInline) = true
    · rw [if_pos hdownload]
      exact h
    rw [if_neg hdownload] at hop ⊢
    by_cases hover : image.data.length > t.activeCache.maxSingleImageBytes
    · rw [if_pos hover]
      exact h
    rw [if_neg hover] at hop ⊢
    generalize (if detectFormat image.data = some .gif then
      decodeGifFrames env.openGif image.data t.activeCache.maxSingleImageBytes else none) = gif at hop ⊢
    cases gif with
    | some gif => exact h.storeAnimation hP (hop _ rfl) image
    | none =>
      cases hdecode : env.decode image.data t.activeCache.maxSingleImageBytes with
      | error e => exact h
      | ok decoded =>
        rw [hdecode] at hop
        exact h.storeAndPlace hP (hop _ rfl) fun _ _ ht => ht.iterm2CreatePlacement hP ..

end Storeless

end Term

namespace ImageTerm

variable {F : Type} {env : ImageEnv F} {P : Cache → Prop} {t : ImageTerm F}

/-- The store that the end of a sixel sequence leads to. -/
def sixelStore (env : ImageEnv F) (t : ImageTerm F) (aborted : Bool) : Option CacheOp :=
  match t.sixelParser with
  | none => none
  | some parser =>
    if aborted then none
    else
      match parser.finish env.hlsToRgb with
      | .error _ => none
      | .ok (rgba, w, h) => some (.store (t.term.newImage rgba w h))

/-- The end of a sixel sequence. -/
theorem eachCache_handleSixelEnd (hP : Cache.Storeless P) {aborted : Bool} (h : t.term.EachCache P)
    (hop : ∀ op, t.sixelStore env aborted = some op → P t.term.activeCache.nextImageId.1 →
      P (op.apply t.term.activeCache.nextImageId.1)) : (t.handleSixelEnd env aborted).term.EachCache P := by
  unfold sixelStore at hop
  unfold handleSixelEnd
  cases hparser : t.sixelParser with
  | none => exact h
  | some parser =>
    rw [hparser] at hop
    dsimp only at hop ⊢
    by_cases haborted : aborted = true
    · rw [if_pos haborted]
      exact h
    rw [if_neg haborted] at hop ⊢
    cases hfinish : parser.finish env.hlsToRgb with
    | error e => exact h
    | ok picture =>
      rw [hfinish] at hop
      exact h.storeAndPlace hP (hop _ rfl) fun _ _ ht => ht.sixelCreatePlacement hP ..

end ImageTerm

end OriTerm
