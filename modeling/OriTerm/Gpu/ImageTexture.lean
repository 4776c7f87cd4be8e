import OriTerm.Term.Renderable
import Mathlib.Data.List.AList
import Mathlib.Data.List.Sort

/-!
# `Gpu.ImageTexture` — the image textures of a window

`ImageTextureCache` keeps one texture for each image id. An image is uploaded when it enters the view and again when
its pixel generation differs from the one last uploaded under its id (`ensureUploaded`); textures go when they were not
used for a while or take too much memory.

The textures are read through `texture`. **`ensureUploaded_texture`** says what an upload leaves under each id, and
`Lingers` that a texture only stays or goes: eviction and touching upload nothing.
-/

namespace OriTerm.Gpu

open AList

/-- An uploaded image texture; `data` stands for the texels. -/
structure GpuImageTexture where
  data : List UInt8
  width : Nat
  height : Nat
  sizeBytes : Nat
  lastFrame : Nat
  pixelGeneration : Nat
  deriving DecidableEq, Repr

/-- Uploads the pixels of an image into a new texture. -/
def createTextureEntry (pixels : RenderableImageData) (frame : Nat) : GpuImageTexture :=
  { data := pixels.data, width := pixels.width, height := pixels.height
    sizeBytes := pixels.width * pixels.height * 4, lastFrame := frame, pixelGeneration := pixels.pixelGeneration }

/-- The image textures of one window. -/
structure ImageTextureCache where
  textures : AList (fun _ : ImageId => GpuImageTexture) := ∅
  gpuMemoryUsed : Nat := 0
  /-- 512 MiB. -/
  gpuMemoryLimit : Nat := 512 * 1024 * 1024
  frameCounter : Nat := 0

namespace ImageTextureCache

variable (c : ImageTextureCache) (id : ImageId)

/-- Advances the frame counter. -/
def beginFrame : ImageTextureCache := { c with frameCounter := c.frameCounter + 1 }

/-- Makes sure the image is uploaded, and marks it used. -/
def ensureUploaded (upload : RenderableImageData) : ImageTextureCache :=
  match c.textures.lookup upload.id with
  | some entry =>
    let entry := { entry with lastFrame := c.frameCounter }
    if entry.pixelGeneration ≠ upload.pixelGeneration then
      if entry.width = upload.width ∧ entry.height = upload.height then
        let entry := { entry with data := upload.data, pixelGeneration := upload.pixelGeneration }
        { c with textures := c.textures.insert upload.id entry }
      else
        let newEntry := createTextureEntry upload c.frameCounter
        { c with
          gpuMemoryUsed := c.gpuMemoryUsed - entry.sizeBytes + newEntry.sizeBytes
          textures := c.textures.insert upload.id newEntry }
    else { c with textures := c.textures.insert upload.id entry }
  | none =>
    let newEntry := createTextureEntry upload c.frameCounter
    { c with
      gpuMemoryUsed := c.gpuMemoryUsed + newEntry.sizeBytes
      textures := c.textures.insert upload.id newEntry }

/-- Marks an uploaded image used; whether it was there. -/
def touchImage : ImageTextureCache × Bool :=
  match c.textures.lookup id with
  | some entry => ({ c with textures := c.textures.insert id { entry with lastFrame := c.frameCounter } }, true)
  | none => (c, false)

/-- Removes one texture. -/
def remove : ImageTextureCache :=
  match c.textures.lookup id with
  | some tex => { c with textures := c.textures.erase id, gpuMemoryUsed := c.gpuMemoryUsed - tex.sizeBytes }
  | none => c

/-- Evicts the textures that were not used in the last `threshold` frames. -/
def evictUnused (threshold : Nat) : ImageTextureCache :=
  let cutoff := c.frameCounter - threshold
  ((c.textures.entries.filter fun e => decide (e.2.lastFrame < cutoff)).map Sigma.fst).foldl remove c

/-- Evicts the oldest textures until the memory is within the limit; textures of one age in the table's order. -/
def evictOverLimit : ImageTextureCache :=
  if c.gpuMemoryUsed ≤ c.gpuMemoryLimit ∨ c.textures.entries.isEmpty then c
  else
    let entries := (c.textures.entries.mergeSort fun a b => decide (a.2.lastFrame ≤ b.2.lastFrame)).map Sigma.fst
    entries.foldl (fun c id => if c.gpuMemoryUsed ≤ c.gpuMemoryLimit then c else c.remove id) c

/-- Changes the memory limit. -/
def setGpuMemoryLimit (limit : Nat) : ImageTextureCache :=
  evictOverLimit { c with gpuMemoryLimit := limit }

/-- The texture found under an id. -/
def texture : Option GpuImageTexture := c.textures.lookup id

end ImageTextureCache

/-! ## What the textures hold -/

/-- The texture holds the pixels of the image. -/
def GpuImageTexture.Holds (tex : GpuImageTexture) (img : RenderableImageData) : Prop :=
  tex.data = img.data ∧ tex.width = img.width ∧ tex.height = img.height

instance (tex : GpuImageTexture) (img : RenderableImageData) : Decidable (tex.Holds img) := by
  unfold GpuImageTexture.Holds
  infer_instance

/-- The texture but for when it was last used. -/
def GpuImageTexture.used (tex : GpuImageTexture) (frame : Nat) : GpuImageTexture := { tex with lastFrame := frame }

/-- The textures of the second cache are textures of the first, possibly used since. -/
def ImageTextureCache.Lingers (c c' : ImageTextureCache) : Prop :=
  ∀ id tex', c'.texture id = some tex' → ∃ tex frame, c.texture id = some tex ∧ tex' = tex.used frame

namespace ImageTextureCache

variable {c c' c'' : ImageTextureCache} {id : ImageId}

theorem Lingers.refl (c : ImageTextureCache) : Lingers c c := fun _ tex h => ⟨tex, tex.lastFrame, h, rfl⟩

theorem Lingers.trans (h : Lingers c c') (h' : Lingers c' c'') : Lingers c c'' := by
  intro id tex'' htex''
  obtain ⟨tex', frame', htex', rfl⟩ := h' id tex'' htex''
  obtain ⟨tex, frame, htex, rfl⟩ := h id tex' htex'
  exact ⟨tex, frame', htex, rfl⟩

theorem Lingers.of_textures (h : c'.textures = c.textures) : Lingers c c' := by
  intro id tex htex
  unfold texture at htex
  rw [h] at htex
  exact ⟨tex, tex.lastFrame, htex, rfl⟩

/-- A fold of steps that upload nothing. -/
theorem Lingers.foldl {β : Type} {f : ImageTextureCache → β → ImageTextureCache} (hf : ∀ c b, Lingers c (f c b))
    (bs : List β) (c : ImageTextureCache) : Lingers c (bs.foldl f c) := by
  induction bs generalizing c with
  | nil => exact .refl c
  | cons b bs ih => exact (hf c b).trans (ih (f c b))

section

variable (c)

theorem lingers_touchImage (id : ImageId) : Lingers c (c.touchImage id).1 := by
  unfold touchImage
  split
  · next entry hentry =>
    intro x tex htex
    unfold texture at htex ⊢
    by_cases hx : x = id
    · rw [hx, lookup_insert] at htex
      cases htex
      rw [hx]
      exact ⟨entry, c.frameCounter, hentry, rfl⟩
    · rw [lookup_insert_ne hx] at htex
      exact ⟨tex, tex.lastFrame, htex, rfl⟩
  · exact .refl c

theorem lingers_remove (id : ImageId) : Lingers c (c.remove id) := by
  unfold remove
  split
  · intro x tex htex
    unfold texture at htex ⊢
    by_cases hx : x = id
    · rw [hx, lookup_erase] at htex
      cases htex
    · rw [lookup_erase_ne hx] at htex
      exact ⟨tex, tex.lastFrame, htex, rfl⟩
  · exact .refl c

theorem lingers_evictUnused (threshold : Nat) : Lingers c (c.evictUnused threshold) :=
  Lingers.foldl lingers_remove _ c

theorem lingers_evictOverLimit : Lingers c c.evictOverLimit := by
  unfold evictOverLimit
  split
  · exact .refl c
  · refine Lingers.foldl (fun c id => ?_) _ c
    split
    · exact .refl c
    · exact lingers_remove c id

theorem lingers_setGpuMemoryLimit (limit : Nat) : Lingers c (c.setGpuMemoryLimit limit) := by
  have hlimit : Lingers c { c with gpuMemoryLimit := limit } := .of_textures rfl
  exact hlimit.trans (lingers_evictOverLimit _)

/-- **An upload.** Under the id of the image is a texture of its generation: the one that was there, or one that holds
    its pixels. The other textures stay. -/
theorem ensureUploaded_texture (upload : RenderableImageData) :
    (∃ tex, (c.ensureUploaded upload).texture upload.id = some tex ∧
      (tex.Holds upload ∨ ∃ tex₀ frame, c.texture upload.id = some tex₀ ∧ tex = tex₀.used frame
        ∧ tex₀.pixelGeneration = upload.pixelGeneration))
      ∧ ∀ x, x ≠ upload.id → (c.ensureUploaded upload).texture x = c.texture x := by
  unfold ensureUploaded texture
  split
  · next entry hentry =>
    dsimp only
    split
    · next hgeneration =>
      split
      · next hdims =>
        exact ⟨⟨_, lookup_insert .., .inl ⟨rfl, hdims⟩⟩, fun x hx => lookup_insert_ne hx⟩
      · exact ⟨⟨_, lookup_insert .., .inl ⟨rfl, rfl, rfl⟩⟩, fun x hx => lookup_insert_ne hx⟩
    · next hgeneration =>
      rw [not_not] at hgeneration
      exact ⟨⟨_, lookup_insert .., .inr ⟨entry, c.frameCounter, hentry, rfl, hgeneration⟩⟩,
        fun x hx => lookup_insert_ne hx⟩
  · exact ⟨⟨_, lookup_insert .., .inl ⟨rfl, rfl, rfl⟩⟩, fun x hx => lookup_insert_ne hx⟩

end

end ImageTextureCache

end OriTerm.Gpu
