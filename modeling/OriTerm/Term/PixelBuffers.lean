import OriTerm.Image.Sized
import OriTerm.Term.ImageStores
import OriTerm.Term.KittyUpload

/-!
# `Term.PixelBuffers` — the pixels that the image protocols store

The decoders return four bytes for each pixel (`ImageEnv.Sound`), a sixel picture is built that way, and raw RGBA is
checked against its declared dimensions. Raw RGB is not: any payload of whole pixels is taken, whatever `s=` and `v=`
say (`KittyStoreParams.ExactRgb`).

**`ImageTerm.sized_run`**: in every run whose RGB transmissions have exactly the declared size, all buffers of both
caches have the size of their pictures, and nothing that composes or crops them goes outside. A transmission that is
stored with another size leaves a buffer of the wrong size, so there is no weaker condition.
-/

namespace OriTerm

open Lib Image

/-- **What the libraries promise**: decoded pixels are RGBA buffers of the dimensions returned with them. -/
structure ImageEnv.Sound {F : Type} (env : ImageEnv F) : Prop where
  decode : ∀ data max rgba w h, env.decode data max = .ok (rgba, w, h) → rgba.length = w * h * 4
  gif : env.openGif.Sound

/-- The terminal's buffers have the size of their pictures. -/
def Term.Sized (t : Term) : Prop := t.EachCache Cache.Sized

/-- Only stores bring in pixels. -/
theorem Image.Cache.storeless_sized : Cache.Storeless Cache.Sized := by
  refine ⟨Cache.sized_new, fun c op hop hc => op.sized hc ?_⟩
  cases op <;> first | exact trivial | exact (hop trivial).elim

/-- An image on the screen in use has a buffer of the wrong size. -/
def Term.Misfit (t : Term) (id : ImageId) : Prop := ∃ img, t.activeCache.images.lookup id = some img ∧ ¬img.Sized

theorem Term.Misfit.not_sized {t : Term} {id : ImageId} (h : t.Misfit id) : ¬t.Sized := by
  obtain ⟨img, hi, hne⟩ := h
  exact fun hs => hne ((hs.active id).image img hi)

/-- The image keeps its buffer where its size and its bytes are kept. -/
theorem Term.Misfit.onCache {t : Term} {id : ImageId} (h : t.Misfit id) {f : Cache → Cache}
    (hf : ∀ c img, c.images.lookup id = some img → ∃ img', (f c).images.lookup id = some img'
      ∧ img'.width = img.width ∧ img'.height = img.height ∧ img'.data = img.data) : (t.onCache f).Misfit id := by
  obtain ⟨img, hi, hne⟩ := h
  obtain ⟨img', hi', hw, hh, hd⟩ := hf _ img hi
  refine ⟨img', ?_, ?_⟩
  · rw [activeCache_onCache]
    exact hi'
  · unfold Data.Sized
    rw [hw, hh, hd]
    exact hne

theorem Term.activeCache_onGrid (t : Term) (f : Grid → Grid) : (t.onGrid f).activeCache = t.activeCache := by
  unfold Term.onGrid
  split <;> rfl

theorem Term.Misfit.kittyAdvance {t : Term} {id : ImageId} (h : t.Misfit id) (cols rows : Nat) :
    (t.kittyAdvance cols rows).Misfit id := by
  have hgrid : ∀ {t : Term} (f : Grid → Grid), t.Misfit id → (t.onGrid f).Misfit id := by
    intro t f ⟨img, hi, hne⟩
    refine ⟨img, ?_, hne⟩
    rw [activeCache_onGrid]
    exact hi
  have hops : ∀ (ops : List GridOp) {t : Term}, t.Misfit id → (t.gridOps ops).Misfit id := by
    intro ops
    induction ops with
    | nil => exact fun h => h
    | cons op ops ih => exact fun h => ih (hgrid _ h)
  exact hgrid _ (hops _ h)

/-! ## Raw pixels -/

/-- Adding the alpha. -/
theorem length_rgbToRgba {raw rgba : List UInt8} (h : rgbToRgba raw = some rgba) : rgba.length * 3 = raw.length * 4 := by
  induction raw using rgbToRgba.induct generalizing rgba with
  | case1 =>
    cases h
    rfl
  | case2 r g b rest ih =>
    obtain ⟨tail, htail, rfl⟩ := Option.map_eq_some_iff.mp h
    have := ih htail
    simp only [List.length_cons]
    omega
  | case3 raw hnil hthree =>
    unfold rgbToRgba at h
    split at h
    · exact absurd rfl hnil
    · exact absurd rfl (hthree _ _ _ _)
    · cases h

namespace KittyStoreParams

variable {F : Type}

/-- The bytes that stand for the pixels of a transmission: its payload or the file it names, decompressed. -/
def rawPixels (env : KittyEnv F) (t : KittyTerm F) (p : KittyStoreParams) : Except String (List UInt8) :=
  let maxBytes := t.cache.maxSingleImageBytes
  let expectedSize := expectedDecodedSizeForFormat p.format p.width p.height
  match p.transmission with
  | .direct => prepareImageBytes env p.payload p.compression expectedSize maxBytes
  | .sharedMemory => .error "EINVAL: shared memory transmission not yet supported"
  | .file | .tempFile =>
    match String.fromUTF8? ⟨p.payload.toArray⟩ with
    | none => .error "EINVAL: file path is not valid UTF-8"
    | some path =>
      match KittyTerm.readFile env t.files path maxBytes with
      | .error e => .error e
      | .ok fileData => prepareImageBytes env fileData p.compression expectedSize maxBytes

/-- **The exact size.** Raw RGB has three bytes for each of the declared pixels. -/
def ExactRgb (env : KittyEnv F) (t : KittyTerm F) (p : KittyStoreParams) : Prop :=
  p.format = 24 → ∀ raw, p.rawPixels env t = .ok raw → raw.length = p.width * p.height * 3

end KittyStoreParams

/-- **Decoded pixels have the size of their picture exactly** unless they were raw RGB of another size. -/
theorem kittyDecodePixels_sized_iff {F : Type} {env : ImageEnv F} (henv : env.Sound) {payload rgba : List UInt8}
    {format width height maxBytes w h : Nat}
    (hok : kittyDecodePixels env.toKittyEnv payload format width height maxBytes = .ok (rgba, w, h)) :
    rgba.length = w * h * 4 ↔ (format = 24 → payload.length = width * height * 3) := by
  unfold kittyDecodePixels at hok
  split at hok
  · -- RGBA: the payload was compared with the declared size.
    split at hok
    · cases hok
    · dsimp only at hok
      split at hok
      · cases hok
      · split at hok
        · cases hok
        · next hlen =>
          cases hok
          exact iff_of_true (not_not.mp hlen) nofun
  · split at hok
    · cases hok
    · split at hok
      · cases hok
      · cases hrgba : rgbToRgba payload with
        | none =>
          rw [hrgba] at hok
          cases hok
        | some converted =>
          rw [hrgba] at hok
          cases hok
          have hlen := length_rgbToRgba hrgba
          constructor
          · intro hsized _
            omega
          · intro hexact
            omega
  · cases hdecode : env.decode payload maxBytes with
    | error e =>
      rw [hdecode] at hok
      cases hok
    | ok decoded =>
      rw [hdecode] at hok
      cases hok
      exact iff_of_true (henv.decode _ _ _ _ _ hdecode) nofun
  · cases hok

namespace KittyTerm

variable {F : Type} {env : ImageEnv F} {t : KittyTerm F} {p : KittyStoreParams}

/-- What is read from a file and decoded. -/
theorem decodeFile_ok {env : KittyEnv F} {files : F} {path : String} {maxBytes : Nat} {decoded : List UInt8 × Nat × Nat}
    (hok : decodeFile env files path p maxBytes = .ok decoded) :
    ∃ fileData raw, readFile env files path maxBytes = .ok fileData
      ∧ prepareImageBytes env fileData p.compression (expectedDecodedSizeForFormat p.format p.width p.height) maxBytes
        = .ok raw
      ∧ (kittyDecodePixels env raw p.format p.width p.height maxBytes = .ok decoded
        ∨ p.format ≠ 24 ∧ env.decode raw maxBytes = .ok decoded) := by
  unfold decodeFile at hok
  split at hok
  · cases hok
  · next fileData hread =>
    dsimp only at hok
    split at hok
    · cases hok
    · next raw hraw =>
      refine ⟨fileData, raw, hread, hraw, ?_⟩
      split at hok
      · exact .inl hok
      · next hformat =>
        split at hok
        · next hdecode =>
          cases hok
          exact .inr ⟨fun h => hformat (.inl h), hdecode⟩
        · cases hok

/-- **What a store brings in**: the pixels decoded from its raw bytes, or nothing. -/
theorem kittyStoreImage_cases (env : KittyEnv F) (t : KittyTerm F) (p : KittyStoreParams) :
    (∃ files e, t.kittyStoreImage env p = ({ t with files := files }, .error e))
      ∨ ∃ raw rgba w h files source, p.rawPixels env t = .ok raw
        ∧ (kittyDecodePixels env raw p.format p.width p.height t.cache.maxSingleImageBytes = .ok (rgba, w, h)
          ∨ p.format ≠ 24 ∧ env.decode raw t.cache.maxSingleImageBytes = .ok (rgba, w, h))
        ∧ t.kittyStoreImage env p = storePixels { t with files := files } p source rgba w h := by
  have hfile : p.transmission = .file ∨ p.transmission = .tempFile →
      (∃ files e, t.kittyStoreFromFile env p = ({ t with files := files }, .error e))
        ∨ ∃ raw rgba w h files source, p.rawPixels env t = .ok raw
          ∧ (kittyDecodePixels env raw p.format p.width p.height t.cache.maxSingleImageBytes = .ok (rgba, w, h)
            ∨ p.format ≠ 24 ∧ env.decode raw t.cache.maxSingleImageBytes = .ok (rgba, w, h))
          ∧ t.kittyStoreFromFile env p = storePixels { t with files := files } p source rgba w h := by
    intro htransmission
    unfold kittyStoreFromFile
    split
    · exact .inl ⟨t.files, _, rfl⟩
    · next path hpath =>
      split
      · exact .inl ⟨t.files, _, rfl⟩
      · have hremoved : ∃ files, (if p.transmission = .tempFile then
            { t with files := env.removeFile t.files path } else t) = { t with files := files } := by
          split
          · exact ⟨_, rfl⟩
          · exact ⟨t.files, rfl⟩
        obtain ⟨files, hfiles⟩ := hremoved
        rw [hfiles]
        split
        · exact .inl ⟨files, _, rfl⟩
        · next rgba w h hdecode =>
          obtain ⟨fileData, raw, hread, hraw, hpixels⟩ := decodeFile_ok hdecode
          refine .inr ⟨raw, rgba, w, h, files, _, ?_, hpixels, rfl⟩
          unfold KittyStoreParams.rawPixels
          rcases htransmission with htransmission | htransmission
          · rw [htransmission]
            rw [hpath]
            dsimp only
            rw [hread]
            exact hraw
          · rw [htransmission]
            rw [hpath]
            dsimp only
            rw [hread]
            exact hraw
  unfold kittyStoreImage
  split
  · next htransmission => exact hfile (.inl htransmission)
  · next htransmission => exact hfile (.inr htransmission)
  · exact .inl ⟨t.files, _, rfl⟩
  · next htransmission =>
    dsimp only
    split
    · exact .inl ⟨t.files, _, rfl⟩
    · next raw hraw =>
      split
      · exact .inl ⟨t.files, _, rfl⟩
      · next rgba w h hdecode =>
        refine .inr ⟨raw, rgba, w, h, t.files, _, ?_, .inl hdecode, rfl⟩
        unfold KittyStoreParams.rawPixels
        rw [htransmission]
        exact hraw

/-- Stored pixels of the right size. -/
theorem sized_storePixels (hs : t.term.Sized) (source : Source) {rgba : List UInt8} {w h : Nat}
    (hrgba : (t.storePixels p source rgba w h).2 = .ok () → rgba.length = w * h * 4) :
    (t.storePixels p source rgba w h).1.term.Sized := by
  rw [term_storePixels]
  refine Term.EachCache.onActive hs (Cache.sized_store hs.active fun id hid => hrgba ?_)
  exact storePixels_ok hid

/-- A stored image is in the cache with the pixels it came with. -/
theorem lookup_storePixels (source : Source) {rgba : List UInt8} {w h : Nat}
    (hok : (t.storePixels p source rgba w h).2 = .ok ()) :
    ∃ img, (t.storePixels p source rgba w h).1.cache.images.lookup p.imageId = some img ∧ img.width = w ∧ img.height = h
      ∧ img.data = rgba := by
  have hcache : ∀ f : Cache → Cache, (t.onCache f).cache = f t.cache := fun f => Term.activeCache_onCache t.term f
  unfold storePixels at hok ⊢
  dsimp only at hok ⊢
  split at hok
  · next id hstore =>
    obtain ⟨rfl, img, hi, hw, hh, hd⟩ := Cache.lookup_store _ (Prod.ext rfl hstore)
    refine ⟨img, ?_, hw, hh, hd⟩
    show ((t.onCache _).cache).images.lookup _ = _
    rw [hcache]
    exact hi
  · cases hok

/-- **A store whose RGB has the exact size**, if it succeeds. -/
theorem sized_kittyStoreImage (henv : env.Sound) (hs : t.term.Sized)
    (hp : (t.kittyStoreImage env.toKittyEnv p).2 = .ok () → p.ExactRgb env.toKittyEnv t) :
    (t.kittyStoreImage env.toKittyEnv p).1.term.Sized := by
  rcases kittyStoreImage_cases env.toKittyEnv t p with ⟨files, e, heq⟩ | ⟨raw, rgba, w, h, files, source, hraw, hpix, heq⟩
  · rw [heq]
    exact hs
  · rw [heq] at hp ⊢
    refine sized_storePixels (t := { t with files := files }) hs source fun hok => ?_
    rcases hpix with hpix | ⟨-, hpix⟩
    · exact (kittyDecodePixels_sized_iff henv hpix).mpr fun hformat => hp hok hformat raw hraw
    · exact henv.decode _ _ _ _ _ hpix

/-- Stored RGB of another size is an image whose buffer has the wrong size. -/
theorem misfit_kittyStoreImage (henv : env.Sound) (hok : (t.kittyStoreImage env.toKittyEnv p).2 = .ok ())
    (hp : ¬p.ExactRgb env.toKittyEnv t) : (t.kittyStoreImage env.toKittyEnv p).1.term.Misfit p.imageId := by
  rcases kittyStoreImage_cases env.toKittyEnv t p with ⟨files, e, heq⟩ | ⟨raw, rgba, w, h, files, source, hraw, hpix, heq⟩
  · rw [heq] at hok
    cases hok
  · rw [heq] at hok ⊢
    obtain ⟨img, hi, rfl, rfl, rfl⟩ := lookup_storePixels source hok
    refine ⟨img, hi, fun hsized => hp fun hformat raw' hraw' => ?_⟩
    cases hraw.symm.trans hraw'
    rcases hpix with hpix | ⟨hne, -⟩
    · exact (kittyDecodePixels_sized_iff henv hpix).mp hsized hformat
    · exact absurd hformat hne

section

variable {id : ImageId} (h : t.term.Misfit id)
include h

theorem misfit_kittyRespond (ctx : KittyReplyContext) (msg : String) : (t.kittyRespond ctx msg).term.Misfit id := by
  unfold kittyRespond
  split <;> exact h

theorem misfit_anchor (imageId : ImageId) (grid : Option (Nat × Nat)) :
    (t.onCache (·.anchorPlaceholderWithGrid imageId grid)).term.Misfit id := by
  refine Term.Misfit.onCache h fun c img hi => ⟨img, ?_, rfl, rfl, rfl⟩
  rw [← hi]
  unfold Cache.anchorPlaceholderWithGrid Cache.setPlaceholderAnchorGrid
  split
  · split <;> rfl
  · rfl

theorem misfit_place (placement : Placement) : (t.onCache (·.place placement)).term.Misfit id := by
  refine Term.Misfit.onCache h fun c img hi => ?_
  cases hplaced : c.images.lookup placement.imageId with
  | none =>
    refine ⟨img, ?_, rfl, rfl, rfl⟩
    rw [Cache.images_place_of_none hplaced]
    exact hi
  | some placed =>
    rw [Cache.images_place_of_some hplaced]
    by_cases hid : id = placement.imageId
    · cases hid
      cases hplaced.symm.trans hi
      exact ⟨_, AList.lookup_insert _, rfl, rfl, rfl⟩
    · exact ⟨img, (AList.lookup_insert_ne hid).trans hi, rfl, rfl, rfl⟩

theorem misfit_anchorOrPlace (imageId : Nat) (cmd : KittyCommand) : (t.anchorOrPlace imageId cmd).term.Misfit id := by
  unfold anchorOrPlace
  split
  · exact misfit_anchor h ..
  · unfold kittyCreatePlacement
    dsimp only
    split
    · exact misfit_place h _
    · exact (misfit_place h _).kittyAdvance ..

end

/-- Nothing that follows the store takes the image away again. -/
theorem misfit_handleKittyGraphics (henv : env.Sound) (now : Nanos) {data : List UInt8} {s : KittyTerm F}
    (hstore : t.receivedStore data = some (s, p)) (hok : (s.kittyStoreImage env.toKittyEnv p).2 = .ok ())
    (hp : ¬p.ExactRgb env.toKittyEnv s) :
    ∃ id, (t.handleKittyGraphics env.toKittyEnv now data).term.Misfit id := by
  have hmisfit := misfit_kittyStoreImage henv hok hp
  unfold receivedStore at hstore
  unfold handleKittyGraphics
  split at hstore
  · cases hstore
  · next henabled =>
    rw [if_neg henabled]
    split at hstore
    · cases hstore
    · next cmd hparse =>
      rw [hparse]
      unfold handleCommand
      dsimp only at hstore ⊢
      split at hstore
      · cases hstore
      · next hid =>
        generalize cmd.inherit t.loadingImage = cmd at hstore
        unfold pendingStore at hstore
        split at hstore
        · next hends =>
          obtain ⟨haction, hmore⟩ := hends
          cases hstore
          refine ⟨(t.kittyFinalizePayload cmd).2.1, ?_⟩
          unfold dispatch
          rcases haction with haction | haction
          · rw [haction]
            unfold kittyTransmit
            rw [hmore]
            dsimp only
            unfold transmitMerged
            generalize kittyStoreImage env.toKittyEnv _ _ = r at hok hmisfit
            obtain ⟨stored, result⟩ := r
            cases hok
            refine misfit_kittyRespond ?_ ..
            split
            · exact misfit_anchor hmisfit ..
            · exact hmisfit
          · rw [haction]
            unfold kittyTransmitAndPlace
            rw [hmore]
            dsimp only
            unfold transmitAndPlaceMerged
            generalize kittyStoreImage env.toKittyEnv _ _ = r at hok hmisfit
            obtain ⟨stored, result⟩ := r
            cases hok
            exact misfit_kittyRespond (misfit_anchorOrPlace hmisfit ..) ..
        · cases hstore

end KittyTerm

/-! ## Every run -/

/-- **Where an event stores raw RGB, it has the exact size**: three bytes for each of the declared pixels. -/
def ImageEvent.ExactRgb {F : Type} (env : KittyEnv F) (t : ImageTerm F) : ImageEvent → Prop
  | apc _ data => ∀ s p, t.toKittyTerm.receivedStore data = some (s, p) → (s.kittyStoreImage env p).2 = .ok () →
    p.ExactRgb env s
  | _ => True

namespace ImageTerm

variable {F : Type} {env : ImageEnv F} {t : ImageTerm F}

/-- What an iTerm2 command stores has the size of its picture. -/
theorem sized_handleIterm2File (henv : env.Sound) {t : Term} (hs : t.Sized) (params : List (List UInt8)) :
    (t.handleIterm2File env params).Sized := by
  refine Term.EachCache.handleIterm2File Cache.storeless_sized hs fun op hstore hc => op.sized hc ?_
  unfold Term.iterm2Store at hstore
  dsimp only at hstore
  repeat' split at hstore
  all_goals cases hstore
  · next gif hgif =>
    split at hgif
    · obtain ⟨hne, hframes⟩ := length_decodeGifFrames henv.gif hgif
      exact ⟨fun h => absurd h hne, hframes⟩
    · cases hgif
  · next rgba w h hdecode => exact henv.decode _ _ _ _ _ hdecode

/-- What a sixel sequence stores has the size of its picture. -/
theorem sized_handleSixelEnd (hs : t.term.Sized) (aborted : Bool) : (t.handleSixelEnd env aborted).term.Sized := by
  refine eachCache_handleSixelEnd Cache.storeless_sized hs fun op hstore hc => op.sized hc ?_
  unfold sixelStore at hstore
  repeat' split at hstore
  all_goals cases hstore
  next rgba w h hfinish => exact SixelParser.length_finish hfinish

/-- **An event keeps the sizes exactly if the raw RGB that it stores has the exact size.** -/
theorem sized_step_iff (henv : env.Sound) (width : Char → Option Nat) (hs : t.term.Sized) (e : ImageEvent) :
    (t.step env width e).term.Sized ↔ e.ExactRgb env.toKittyEnv t := by
  cases e with
  | apc now data =>
    constructor
    · intro hsized s p hstore hok
      by_contra hne
      obtain ⟨id, hmisfit⟩ := KittyTerm.misfit_handleKittyGraphics henv now hstore hok hne
      exact hmisfit.not_sized hsized
    · intro hexact
      refine KittyTerm.steps_handleKittyGraphics (Term.handlerSteps_eachCache Cache.storeless_sized) now data
        (fun s p hstore hsized => ?_) hs
      exact KittyTerm.sized_kittyStoreImage henv hsized (hexact s p hstore)
  | sixelStart params =>
    refine iff_of_true ?_ trivial
    show (t.handleSixelStart params).term.Sized
    unfold handleSixelStart
    split <;> exact hs
  | sixelPut byte => exact iff_of_true hs trivial
  | sixelEnd aborted => exact iff_of_true (sized_handleSixelEnd hs aborted) trivial
  | iterm2File params => exact iff_of_true (sized_handleIterm2File henv hs params) trivial
  | other op hop =>
    refine iff_of_true (TermOp.eachCache Cache.storeless_sized.housekept width hs op ?_) trivial
    rw [TermOp.imageCommands_eq_nil hop]
    exact nofun

/-- All buffers in both caches have the size of their pictures, and what composes, crops or blits them stays in
    range. -/
def BuffersFit (t : ImageTerm F) : Prop := t.term.EachCache fun c => c.Sized ∧ c.InRange

theorem buffersFit_iff : t.BuffersFit ↔ t.term.Sized :=
  ⟨fun h => ⟨h.primary.1, fun c hc => (h.alternate c hc).1⟩,
    fun h => ⟨⟨h.primary, h.primary.inRange⟩, fun c hc => ⟨h.alternate c hc, (h.alternate c hc).inRange⟩⟩⟩

theorem sized_new (lines cols maxScrollback : Nat) (theme : Theme) : (Term.new lines cols maxScrollback theme).Sized :=
  ⟨Cache.sized_new, nofun⟩

/-- **Pixel buffers fit in every state of a run exactly if all raw RGB that the run stores has the exact size.** -/
theorem buffersFit_run_iff (henv : env.Sound) (width : Char → Option Nat) (lines cols maxScrollback : Nat)
    (theme : Theme) (files : F) (es : List ImageEvent) :
    (∀ n, (run (step env width) { term := .new lines cols maxScrollback theme, files } (es.take n)).BuffersFit)
      ↔ Along (step env width) (ImageEvent.ExactRgb env.toKittyEnv)
          { term := .new lines cols maxScrollback theme, files } es := by
  refine along_iff_forall_take (K := fun _ => True) (fun t e _ hfit => ⟨trivial, ?_⟩) trivial
    (buffersFit_iff.mpr (sized_new lines cols maxScrollback theme))
  rw [buffersFit_iff]
  exact sized_step_iff henv width (buffersFit_iff.mp hfit) e

/-- No encoded images. -/
def plainEnv : ImageEnv Unit :=
  { Upload.bareEnv with openGif := fun _ _ => none, hlsToRgb := fun _ _ _ => ⟨0, 0, 0⟩ }

theorem plainEnv_sound : plainEnv.Sound where
  decode _ _ _ _ _ h := by cases h
  gif _ _ _ _ h := by cases h

/-- In every run whose events store no raw RGB of another size. -/
theorem buffersFit_run_iff_plain :
    (∀ n, (run (step plainEnv fun _ => some 1) { term := .new 1 2 0 .dark, files := () }
        ([.apc 0 (asciiBytes "a=t,i=1,f=24,s=1,v=1;AAAA"), .sixelStart []].take n)).BuffersFit)
      ↔ Along (step plainEnv fun _ => some 1) (ImageEvent.ExactRgb plainEnv.toKittyEnv)
          { term := .new 1 2 0 .dark, files := () }
          [.apc 0 (asciiBytes "a=t,i=1,f=24,s=1,v=1;AAAA"), .sixelStart []] :=
  buffersFit_run_iff plainEnv_sound (fun _ => some 1) 1 2 0 .dark () _

/-- **One pixel is taken for four**: the buffer of the image has 4 bytes, where its size asks for 16. -/
theorem rgb_payload_too_short :
    ¬(step plainEnv (fun _ => some 1) { term := .new 1 2 0 .dark, files := () }
        (.apc 0 (asciiBytes "a=t,i=1,f=24,s=2,v=2;AAAA"))).BuffersFit := by
  intro hfit
  have hstored : ((step plainEnv (fun _ => some 1) { term := .new 1 2 0 .dark, files := () }
      (.apc 0 (asciiBytes "a=t,i=1,f=24,s=2,v=2;AAAA"))).term.imageCache.images.lookup 1).map
        (fun img => (img.width, img.height, img.data.length)) = some (2, 2, 4) := by decide +kernel
  generalize step plainEnv (fun _ => some 1) _ _ = t at hfit hstored
  obtain ⟨img, hi, heq⟩ := Option.map_eq_some_iff.mp hstored
  have hsized : img.data.length = img.width * img.height * 4 := (hfit.primary.1 1).image img hi
  simp only [Prod.mk.injEq] at heq
  obtain ⟨hw, hh, hlen⟩ := heq
  rw [hw, hh, hlen] at hsized
  cases hsized

end ImageTerm

end OriTerm
