import OriTerm.Image.Ids
import OriTerm.Term.KittyFailure
import OriTerm.Term.PixelBuffers

/-!
# `Term.ImageIds` — the ids that clients choose and the ids that the terminal assigns

A client may choose the id of an image that it uploads, in `[1, 2^31)`; images without one, and those of the other two
protocols, get an id from `[2^31, 2^32)`. The range of a chosen id is checked in one place only, on the command that
stores an image, while the id that is stored may come from the first chunk of an upload, or from a malformed chunk that
was not checked at all.

`ImageHistory` is a terminal with the origin of the id of the upload in progress and of every id under which an image
was stored. **`idsApart_run`**: in every run each id is in the range of its origin, so no image ever takes the place of
one from the other range. The malformed chunk does no harm because the upload that it opens has no dimensions and is
never stored (`KittyCommand.Bare`).
-/

namespace OriTerm

open Lib Image List Option

/-! ## Caches that hold named images only -/

variable {named : ImageId → Prop}

/-- The counter is in its range and every image held bears an id of `named`. -/
structure Image.Cache.Named (named : ImageId → Prop) (c : Cache) : Prop where
  counter : c.AutoRange
  held : ∀ id, c.holds id = true → named id

theorem Image.Cache.Named.mono {named' : ImageId → Prop} (hsub : ∀ id, named id → named' id) {c : Cache}
    (h : c.Named named) : c.Named named' := ⟨h.counter, fun id hid => hsub id (h.held id hid)⟩

/-- An operation that stores under a named id, if at all. -/
theorem Image.Cache.Named.apply {c : Cache} (h : c.Named named) (op : CacheOp)
    (hop : ∀ id, op.stored c = some id → named id) : (op.apply c).Named named := by
  refine ⟨CacheOp.autoRange_apply h.counter op, fun id hid => ?_⟩
  rcases CacheOp.holds_apply c op hid with hold | hnew
  · exact h.held id hold
  · exact hop id hnew

theorem Image.CacheOp.stored_eq_none {op : CacheOp} (hop : ¬op.Stores) (c : Cache) : op.stored c = none := by
  cases op with
  | store | storeAnimated => exact absurd trivial hop
  | _ => rfl

theorem Image.Cache.Named.applyOther {c : Cache} (h : c.Named named) {op : CacheOp} (hop : ¬op.Stores) :
    (op.apply c).Named named := by
  refine h.apply op fun id hid => ?_
  rw [CacheOp.stored_eq_none hop] at hid
  cases hid

theorem Image.Cache.storeless_named : Cache.Storeless (Cache.Named named) :=
  ⟨⟨Cache.autoRange_new, nofun⟩, fun _ _ hop hc => hc.applyOther hop⟩

namespace Term

variable {t : Term}

/-- Both caches of the terminal hold named images only. -/
def Named (named : ImageId → Prop) (t : Term) : Prop := t.EachCache (Cache.Named named)

theorem Named.mono {named' : ImageId → Prop} (hsub : ∀ id, named id → named' id) (h : t.Named named) :
    t.Named named' := ⟨h.primary.mono hsub, fun c hc => (h.alternate c hc).mono hsub⟩

/-! ## Sixel and iTerm2 -/

/-- The id that a store under a new id holds an image under, if it succeeds. -/
def storedNew (t : Term) (op : CacheOp) : Option ImageId := op.stored t.activeCache.nextImageId.1

theorem Named.handleIterm2File {F : Type} {env : ImageEnv F} {params : List (List UInt8)} (h : t.Named named)
    (hop : ∀ op id, t.iterm2Store env params = some op → t.storedNew op = some id → named id) :
    (t.handleIterm2File env params).Named named :=
  EachCache.handleIterm2File Cache.storeless_named h fun op hstore hc => hc.apply op fun id => hop op id hstore

/-- **An image under a new id has an automatic id.** -/
theorem autoId_storedNew {t : Term} (h : t.activeCache.AutoRange) {rgba : List UInt8} {w hgt : Nat} {op : CacheOp}
    (hop : op = .store (t.newImage rgba w hgt)
      ∨ ∃ frames durations loopCount, op = .storeAnimated (t.newImage rgba w hgt) frames durations loopCount)
    {id : ImageId} (hid : t.storedNew op = some id) : Cache.AutoId id := by
  have hnew : id = t.activeCache.nextImageId.2 := by
    rcases hop with rfl | ⟨frames, durations, loopCount, rfl⟩
    · exact CacheOp.stored_store hid
    · exact CacheOp.stored_storeAnimated hid
  rw [hnew]
  exact h.nextImageId.2

theorem autoId_iterm2Store {F : Type} {env : ImageEnv F} {params : List (List UInt8)} (h : t.activeCache.AutoRange)
    {op : CacheOp} (hop : t.iterm2Store env params = some op) {id : ImageId} (hid : t.storedNew op = some id) :
    Cache.AutoId id := by
  unfold iterm2Store at hop
  dsimp only at hop
  repeat' split at hop
  all_goals cases hop
  · exact autoId_storedNew h (.inr ⟨_, _, _, rfl⟩) hid
  · exact autoId_storedNew h (.inl rfl) hid

end Term

namespace ImageTerm

variable {F : Type} {env : ImageEnv F} {t : ImageTerm F}

theorem named_handleSixelEnd {aborted : Bool} (h : t.term.Named named)
    (hop : ∀ op id, t.sixelStore env aborted = some op → t.term.storedNew op = some id → named id) :
    (t.handleSixelEnd env aborted).term.Named named :=
  eachCache_handleSixelEnd Cache.storeless_named h fun op hstore hc => hc.apply op fun id => hop op id hstore

theorem autoId_sixelStore {aborted : Bool} (h : t.term.activeCache.AutoRange) {op : CacheOp}
    (hop : t.sixelStore env aborted = some op) {id : ImageId} (hid : t.term.storedNew op = some id) :
    Cache.AutoId id := by
  unfold sixelStore at hop
  repeat' split at hop
  all_goals cases hop
  exact Term.autoId_storedNew h (.inl rfl) hid

end ImageTerm

/-! ## Kitty transmissions -/

namespace KittyTerm

variable {F : Type} {env : KittyEnv F} {t : KittyTerm F} {p : KittyStoreParams}

/-- A store under a named id, if it succeeds. -/
theorem named_kittyStoreImage (h : t.term.Named named) (hp : (t.kittyStoreImage env p).2 = .ok () → named p.imageId) :
    (t.kittyStoreImage env p).1.term.Named named := by
  rcases kittyStoreImage_cases env t p with ⟨files, e, heq⟩ | ⟨raw, rgba, w, hgt, files, source, -, -, heq⟩
  · rw [heq]
    exact h
  · rw [heq] at hp ⊢
    rw [term_storePixels]
    refine Term.EachCache.onActive h (h.active.apply (.store _) fun id hid => ?_)
    rw [CacheOp.stored_store hid]
    exact hp (storePixels_ok (CacheOp.ok_of_toOption hid))

end KittyTerm

/-- A command as a malformed first chunk leaves it: raw pixels without dimensions. -/
structure KittyCommand.Bare (cmd : KittyCommand) : Prop where
  transmission : cmd.transmission = .direct
  compression : cmd.compression = none
  format : cmd.format = 32
  width : cmd.sourceWidth = 0

/-- **A bare command stores nothing.** -/
theorem KittyCommand.Bare.not_stored {F : Type} {env : KittyEnv F} {t : KittyTerm F} {cmd : KittyCommand} (h : cmd.Bare)
    (imageId : Nat) : (t.kittyStoreImage env (.fromMerged imageId cmd)).2 ≠ .ok () := by
  have htransmission : (KittyStoreParams.fromMerged imageId cmd).transmission = .direct := h.transmission
  have hformat : (KittyStoreParams.fromMerged imageId cmd).format = 32 := h.format
  have hwidth : (KittyStoreParams.fromMerged imageId cmd).width = 0 := h.width
  have hcompression : (KittyStoreParams.fromMerged imageId cmd).compression = none := h.compression
  unfold KittyTerm.kittyStoreImage
  rw [htransmission]
  rw [hcompression, hformat, hwidth]
  exact nofun

/-! ## The upload in progress -/

/-- The upload goes on: its payload may grow and it may fail. -/
def LoadingImage.Continues (l l' : LoadingImage) : Prop :=
  l'.imageId = l.imageId ∧ ∃ payload, l'.startCmd = { l.startCmd with payload := payload }

theorem KittyCommand.inherit_none (cmd : KittyCommand) : cmd.inherit none = cmd := by
  unfold inherit
  split <;> rfl

theorem KittyCommand.action_inherit {cmd : KittyCommand} {l : LoadingImage}
    (hmore : (cmd.inherit (some l)).moreData = false) : (cmd.inherit (some l)).action = l.startCmd.action := by
  unfold inherit at hmore ⊢
  split at hmore
  · next htrue =>
    rw [htrue] at hmore
    cases hmore
  · next hfalse => rw [if_neg hfalse]

theorem LoadingImage.Continues.refl (l : LoadingImage) : l.Continues l := ⟨rfl, l.startCmd.payload, rfl⟩

namespace KittyTerm

variable {F : Type} {env : KittyEnv F} {t : KittyTerm F} {cmd : KittyCommand}

variable (now : Nanos) (id : ImageId)

@[simp] theorem loadingImage_kittyPlace : (t.kittyPlace cmd).loadingImage = t.loadingImage := by
  unfold kittyPlace
  repeat' split
  all_goals simp

@[simp] theorem loadingImage_setPlayback : (t.setPlayback now id cmd).loadingImage = t.loadingImage := by
  unfold setPlayback
  repeat' split
  all_goals rfl

@[simp] theorem loadingImage_setGap : (t.setGap id cmd).1.loadingImage = t.loadingImage := by
  unfold setGap
  dsimp only
  repeat' split
  all_goals rfl

@[simp] theorem loadingImage_seek : (t.seek now id cmd).loadingImage = t.loadingImage := by
  unfold seek
  dsimp only
  split <;> rfl

@[simp] theorem loadingImage_kittyAnimate : (t.kittyAnimate now cmd).loadingImage = t.loadingImage := by
  unfold kittyAnimate
  split
  · simp
  · next id _ =>
    have hgap : ((t.setPlayback now id cmd).setGap id cmd).1.loadingImage = t.loadingImage := by simp
    split
    · next h => rw [h] at hgap; simpa using hgap
    · next h => rw [h] at hgap; simpa using hgap
    · next h => rw [h] at hgap; simpa using hgap

@[simp] theorem loadingImage_kittyCompose : (t.kittyCompose cmd).loadingImage = t.loadingImage := by
  unfold kittyCompose
  dsimp only
  repeat' split
  all_goals simp

/-- A deletion aborts the upload. -/
theorem loadingImage_kittyDelete : (t.kittyDelete cmd).loadingImage = none := by
  have hplacements : ∀ (s : KittyTerm F) upper selector,
      (s.deletePlacements upper selector).loadingImage = s.loadingImage := by
    intro s upper selector
    unfold deletePlacements
    split <;> rfl
  have himage : ∀ (s : KittyTerm F) upper id pid, (s.deleteImage upper id pid).loadingImage = s.loadingImage := by
    intro s upper id pid
    unfold deleteImage
    dsimp only
    split <;> rfl
  have hrange : ∀ (s : KittyTerm F) upper lo hi, (s.deleteIdRange upper lo hi).loadingImage = s.loadingImage := by
    intro s upper lo hi
    unfold deleteIdRange
    split <;> rfl
  have hframe : ∀ (s : KittyTerm F) upper, (s.deleteFrame upper cmd).loadingImage = s.loadingImage := by
    intro s upper
    unfold deleteFrame
    dsimp only
    repeat' split
    all_goals rfl
  unfold kittyDelete
  dsimp only
  repeat' split
  all_goals simp only [hplacements, himage, hrange, hframe]

/-- **The upload after a command** goes on, or the command opened it. -/
theorem loadingImage_dispatch (hinherits : ∀ l, t.loadingImage = some l → cmd.moreData = false → cmd.action = l.startCmd.action)
    {l' : LoadingImage} (h : (t.dispatch env now cmd).loadingImage = some l') :
    (∃ l, t.loadingImage = some l ∧ l.Continues l') ∨
      t.loadingImage = none ∧ l'.startCmd = cmd ∧ l'.imageId = (t.resolveId cmd).2 := by
  by_cases hup : cmd.action.uploads = true
  · cases hmore : cmd.moreData with
    | true =>
      rw [dispatch_more hup hmore] at h
      cases hl : t.loadingImage with
      | none =>
        rw [kittyAccumulateChunk_idle hl] at h
        obtain rfl := some.inj h
        exact .inr ⟨rfl, rfl, rfl⟩
      | some l =>
        rw [kittyAccumulateChunk_pending hl] at h
        split at h
        · obtain rfl := some.inj h
          exact .inl ⟨l, rfl, rfl, _, rfl⟩
        · cases h
    | false =>
      -- the upload is taken, and nothing that follows opens another one
      have haction : (t.kittyFinalizePayload cmd).2.2.action = cmd.action := by
        cases hl : t.loadingImage with
        | none => rw [kittyFinalizePayload_idle hl]
        | some l =>
          rw [kittyFinalizePayload_pending hl]
          exact (hinherits l hl hmore).symm
      have htaken : (t.kittyFinalizePayload cmd).1.loadingImage = none := by
        cases hl : t.loadingImage with
        | none => rw [kittyFinalizePayload_idle hl, loadingImage_resolveId, hl]
        | some l => rw [kittyFinalizePayload_pending hl]
      rw [dispatch_last hup hmore haction, loadingImage_finish, htaken] at h
      cases h
  · have hkept : ∀ {o : Option LoadingImage}, o = t.loadingImage → o = some l' →
        (∃ l, t.loadingImage = some l ∧ l.Continues l') ∨
          t.loadingImage = none ∧ l'.startCmd = cmd ∧ l'.imageId = (t.resolveId cmd).2 :=
      fun heq hsome => .inl ⟨l', heq ▸ hsome, .refl l'⟩
    unfold dispatch at h
    cases haction : cmd.action with
    | transmit | transmitAndPlace | frame => exact absurd (by rw [haction]; rfl) hup
    | query =>
      rw [haction] at h
      exact hkept (loadingImage_kittyRespond ..) h
    | place =>
      rw [haction] at h
      exact hkept loadingImage_kittyPlace h
    | animate =>
      rw [haction] at h
      exact hkept (loadingImage_kittyAnimate now) h
    | compose =>
      rw [haction] at h
      exact hkept loadingImage_kittyCompose h
    | delete =>
      rw [haction] at h
      exact absurd (loadingImage_kittyDelete.symm.trans h) nofun

/-- The upload that a sequence opens: with the id of its command, and without any check if it is malformed. -/
structure Opens (t : KittyTerm F) (data : List UInt8) (l : LoadingImage) : Prop where
  idle : t.loadingImage = none
  opened : l.startCmd.Bare ∨ l.startCmd = (parseKittyCommandInto data).1 ∧ l.startCmd.rejectedId = none ∧
    l.imageId = (t.resolveId l.startCmd).2

/-- **The upload after a sequence.** -/
theorem loadingImage_handleKittyGraphics (data : List UInt8) {l' : LoadingImage}
    (h : (t.handleKittyGraphics env now data).loadingImage = some l') :
    (∃ l, t.loadingImage = some l ∧ l.Continues l') ∨ t.Opens data l' := by
  unfold handleKittyGraphics at h
  split at h
  · exact .inl ⟨l', h, .refl l'⟩
  · split at h
    · next cmd hparse =>
      cases hl : t.loadingImage with
      | none =>
        rw [handleInvalidBase64Chunk_idle hl] at h
        split at h
        · obtain ⟨id, -, rfl⟩ := map_eq_some_iff.mp h
          exact .inr ⟨hl, .inl ⟨rfl, rfl, rfl, rfl⟩⟩
        · cases h
      | some l =>
        cases hfailed : l.failedUpload with
        | true =>
          rw [handleInvalidBase64Chunk_latched hl hfailed] at h
          split at h
          · exact .inl ⟨l', hl ▸ h, .refl l'⟩
          · cases h
        | false =>
          rw [handleInvalidBase64Chunk_pending hl hfailed] at h
          obtain rfl := some.inj h
          exact .inl ⟨l, rfl, rfl, l.startCmd.payload, rfl⟩
    · exact .inl ⟨l', h, .refl l'⟩
    · next cmd hparse =>
      cases hrejected : (cmd.inherit t.loadingImage).rejectedId with
      | some id =>
        rw [handleCommand_rejected hrejected, loadingImage_kittyRespond] at h
        exact .inl ⟨l', h, .refl l'⟩
      | none =>
        rw [handleCommand_accepted hrejected] at h
        have hinherits : ∀ l, t.loadingImage = some l → (cmd.inherit t.loadingImage).moreData = false →
            (cmd.inherit t.loadingImage).action = l.startCmd.action := by
          intro l hl hmore
          rw [hl] at hmore ⊢
          exact KittyCommand.action_inherit hmore
        rcases loadingImage_dispatch now hinherits h with hgoes | ⟨hidle, hcmd, hid⟩
        · exact .inl hgoes
        · rw [hidle, KittyCommand.inherit_none] at hcmd hid hrejected
          refine .inr ⟨hidle, .inr ⟨?_, ?_, ?_⟩⟩
          · rw [hcmd, hparse]
          · rw [hcmd]
            exact hrejected
          · rw [hcmd]
            exact hid

end KittyTerm

/-! ## The history of the ids -/

/-- Who chose an id. -/
inductive IdOrigin where
  | client | automatic
  deriving DecidableEq, Repr

/-- The ids that a client may choose, and those that the terminal assigns. -/
def IdOrigin.Range : IdOrigin → ImageId → Prop
  | client, id => 1 ≤ id ∧ id < autoIdStart
  | automatic, id => Cache.AutoId id

theorem IdOrigin.Range.unique {o o' : IdOrigin} {id : ImageId} (h : o.Range id) (h' : o'.Range id) : o = o' := by
  cases o with
  | client =>
    cases o' with
    | client => rfl
    | automatic => exact absurd h'.1 (Nat.not_le_of_lt h.2)
  | automatic =>
    cases o' with
    | client => exact absurd h.1 (Nat.not_le_of_lt h'.2)
    | automatic => rfl

/-- The origin of the id under which a command that opens an upload is stored. -/
def KittyCommand.origin (cmd : KittyCommand) : IdOrigin := if cmd.imageId.isSome then .client else .automatic

/-- A terminal with the history of its ids: who chose the one of the upload in progress, and those under which images
    were stored. -/
structure ImageHistory (F : Type) where
  term : ImageTerm F
  uploadOrigin : IdOrigin := .automatic
  stored : List (IdOrigin × ImageId) := []

namespace ImageHistory

variable {F : Type}

/-- Who chose the id that a sequence stores under: whoever opened the upload, or its own sender. -/
def origin (s : ImageHistory F) (data : List UInt8) : IdOrigin :=
  if s.term.loadingImage.isSome then s.uploadOrigin else (parseKittyCommandInto data).1.origin

/-- The image that a sequence stores. -/
def received (env : ImageEnv F) (s : ImageHistory F) (data : List UInt8) : List (IdOrigin × ImageId) :=
  match s.term.receivedStore data with
  | some (before, p) =>
    match (before.kittyStoreImage env.toKittyEnv p).2 with
    | .ok () => [(s.origin data, p.imageId)]
    | .error _ => []
  | none => []

/-- The image that an event stores; those of the other two protocols get a new id. -/
def storedBy (env : ImageEnv F) (s : ImageHistory F) : ImageEvent → List (IdOrigin × ImageId)
  | .apc _ data => s.received env data
  | .sixelEnd aborted => ((s.term.sixelStore env aborted).bind s.term.term.storedNew).toList.map (.automatic, ·)
  | .iterm2File params => ((s.term.term.iterm2Store env params).bind s.term.term.storedNew).toList.map (.automatic, ·)
  | _ => []

/-- Performs an event. -/
def step (env : ImageEnv F) (width : Char → Option Nat) (s : ImageHistory F) (e : ImageEvent) : ImageHistory F where
  term := s.term.step env width e
  uploadOrigin :=
    match e with
    | .apc _ data => s.origin data
    | _ => s.uploadOrigin
  stored := s.stored ++ s.storedBy env e

/-! ## Every run -/

/-- An image was stored under the id. -/
def Logged (s : ImageHistory F) (id : ImageId) : Prop := ∃ o, (o, id) ∈ s.stored

/-- What the history of a terminal keeps to. -/
structure Kept (s : ImageHistory F) : Prop where
  caches : s.term.term.Named s.Logged
  ranges : ∀ o id, (o, id) ∈ s.stored → o.Range id
  upload : ∀ l, s.term.loadingImage = some l →
    l.startCmd.action = .transmit ∨ l.startCmd.action = .transmitAndPlace → s.uploadOrigin.Range l.imageId ∨ l.startCmd.Bare

variable {env : ImageEnv F} {s : ImageHistory F} {width : Char → Option Nat}

/-- The id of an accepted command is in the range of its origin. -/
theorem range_resolveId {t : KittyTerm F} (h : t.term.activeCache.AutoRange) {cmd : KittyCommand}
    (haction : cmd.action = .transmit ∨ cmd.action = .transmitAndPlace) (haccepted : cmd.rejectedId = none) :
    cmd.origin.Range (t.resolveId cmd).2 := by
  unfold KittyCommand.rejectedId at haccepted
  rw [if_pos haction] at haccepted
  unfold KittyCommand.origin KittyTerm.resolveId
  cases hid : cmd.imageId with
  | none => exact h.nextImageId.2
  | some id =>
    rw [hid, filter_some] at haccepted
    split at haccepted
    · cases haccepted
    · next hrange =>
      simp only [Bool.or_eq_true, beq_iff_eq, decide_eq_true_eq, not_or, Nat.not_le] at hrange
      exact ⟨Nat.one_le_iff_ne_zero.mpr hrange.1, hrange.2⟩

/-- **What a sequence stores is in the range of its origin.** -/
theorem Kept.range_received (h : s.Kept) {data : List UInt8} {before : KittyTerm F} {p : KittyStoreParams}
    (hstore : s.term.receivedStore data = some (before, p))
    (hok : (before.kittyStoreImage env.toKittyEnv p).2 = .ok ()) : (s.origin data).Range p.imageId := by
  unfold KittyTerm.receivedStore at hstore
  unfold origin
  split at hstore
  · cases hstore
  · split at hstore
    · cases hstore
    · next cmd hparse =>
      dsimp only at hstore
      split at hstore
      · cases hstore
      · next haccepted =>
        unfold KittyTerm.pendingStore at hstore
        split at hstore
        · next hlast =>
          obtain ⟨haction, hmore⟩ := hlast
          cases hstore
          cases hl : s.term.loadingImage with
          | none =>
            rw [hl, KittyCommand.inherit_none] at haccepted haction
            rw [KittyCommand.inherit_none, KittyTerm.kittyFinalizePayload_idle hl, hparse]
            exact range_resolveId h.caches.active.counter haction haccepted
          | some l =>
            have hmerged := KittyTerm.kittyFinalizePayload_pending hl (cmd.inherit (some l))
            rw [hl] at hmore
            rw [hl, KittyCommand.action_inherit hmore] at haction
            rw [hl, hmerged] at hok
            rw [hmerged]
            rcases h.upload l hl haction with hrange | hbare
            · exact hrange
            · have happended : (l.append (cmd.inherit (some l)).payload).startCmd.Bare :=
                ⟨hbare.transmission, hbare.compression, hbare.format, hbare.width⟩
              exact absurd hok (happended.not_stored l.imageId)
        · cases hstore

section

variable (h : s.Kept) (e : ImageEvent)
include h e

theorem Kept.range_storedBy {o : IdOrigin} {id : ImageId} (hid : (o, id) ∈ s.storedBy env e) : o.Range id := by
  have hnew : ∀ store : Option CacheOp,
      (∀ op, store = some op → ∀ id, s.term.term.storedNew op = some id → Cache.AutoId id) →
      (o, id) ∈ (store.bind s.term.term.storedNew).toList.map (IdOrigin.automatic, ·) → o.Range id := by
    intro store hstore hmem
    obtain ⟨stored, hstored, heq⟩ := mem_map.mp hmem
    cases heq
    obtain ⟨op, hop, hstored⟩ := bind_eq_some_iff.mp (mem_toList.mp hstored)
    exact hstore op hop id hstored
  cases e with
  | apc now data =>
    replace hid : (o, id) ∈ s.received env data := hid
    unfold received at hid
    split at hid
    · next hstore =>
      split at hid
      · next hok =>
        cases mem_singleton.mp hid
        exact h.range_received hstore hok
      · cases hid
    · cases hid
  | sixelEnd aborted =>
    exact hnew _ (fun op hop id => ImageTerm.autoId_sixelStore h.caches.active.counter hop) hid
  | iterm2File params =>
    exact hnew _ (fun op hop id => Term.autoId_iterm2Store h.caches.active.counter hop) hid
  | _ => cases hid

/-- The caches hold what was stored before and what the event stores. -/
theorem Kept.named_step : (s.step env width e).term.term.Named (s.step env width e).Logged := by
  have hold : s.term.term.Named (s.step env width e).Logged :=
    h.caches.mono fun id ⟨o, ho⟩ => ⟨o, mem_append_left _ ho⟩
  have hlogged : ∀ o id, (o, id) ∈ s.storedBy env e → (s.step env width e).Logged id :=
    fun o id hid => ⟨o, mem_append_right _ hid⟩
  have hnew : ∀ (store : Option CacheOp) op id,
      s.storedBy env e = (store.bind s.term.term.storedNew).toList.map (.automatic, ·) → store = some op →
      s.term.term.storedNew op = some id → (s.step env width e).Logged id := by
    intro store op id heq hop hid
    refine hlogged .automatic id ?_
    rw [heq, hop, bind_some, hid]
    exact mem_singleton.mpr rfl
  generalize (s.step env width e).Logged = logged at hold hlogged hnew ⊢
  cases e with
  | apc now data =>
    refine KittyTerm.steps_handleKittyGraphics (Term.handlerSteps_eachCache Cache.storeless_named) now data
      (fun before p hstore hbefore => ?_) hold
    refine KittyTerm.named_kittyStoreImage hbefore fun hok => hlogged (s.origin data) p.imageId ?_
    show _ ∈ s.received env data
    unfold received
    rw [hstore]
    dsimp only
    rw [hok]
    exact mem_singleton.mpr rfl
  | sixelStart params =>
    show (s.term.handleSixelStart params).term.Named logged
    unfold ImageTerm.handleSixelStart
    split <;> exact hold
  | sixelPut byte => exact hold
  | sixelEnd aborted => exact ImageTerm.named_handleSixelEnd hold fun op id hop hid => hnew _ op id rfl hop hid
  | iterm2File params => exact Term.Named.handleIterm2File hold fun op id hop hid => hnew _ op id rfl hop hid
  | other op hop =>
    refine TermOp.eachCache Cache.storeless_named.housekept width hold op ?_
    rw [TermOp.imageCommands_eq_nil hop]
    exact nofun

/-- The upload goes on or a sequence opened it. -/
theorem Kept.upload_step (l : LoadingImage) (hl : (s.step env width e).term.loadingImage = some l)
    (haction : l.startCmd.action = .transmit ∨ l.startCmd.action = .transmitAndPlace) :
    (s.step env width e).uploadOrigin.Range l.imageId ∨ l.startCmd.Bare := by
  cases e with
  | apc now data =>
    show (s.origin data).Range l.imageId ∨ l.startCmd.Bare
    unfold origin
    rcases KittyTerm.loadingImage_handleKittyGraphics now data hl with ⟨l₀, hl₀, hid, payload, hcmd⟩ | hopens
    · rw [hl₀, hid, hcmd]
      rw [hcmd] at haction
      refine (h.upload l₀ hl₀ haction).imp_right fun hbare => ?_
      exact ⟨hbare.transmission, hbare.compression, hbare.format, hbare.width⟩
    · rcases hopens.opened with hbare | ⟨hcmd, haccepted, hid⟩
      · exact .inr hbare
      · rw [hopens.idle, hid, ← hcmd]
        exact .inl (range_resolveId h.caches.active.counter haction haccepted)
  | sixelStart params =>
    refine h.upload l ?_ haction
    rw [← hl]
    show s.term.loadingImage = (s.term.handleSixelStart params).loadingImage
    unfold ImageTerm.handleSixelStart
    split <;> rfl
  | sixelPut | iterm2File | other => exact h.upload l hl haction
  | sixelEnd aborted =>
    refine h.upload l ?_ haction
    rw [← hl]
    show s.term.loadingImage = (s.term.handleSixelEnd env aborted).loadingImage
    unfold ImageTerm.handleSixelEnd
    repeat' split
    all_goals rfl

/-- **An event keeps the history in order.** -/
theorem Kept.step : (s.step env width e).Kept where
  caches := h.named_step e
  ranges o id hid := (mem_append.mp hid).elim (h.ranges o id) (h.range_storedBy e)
  upload := h.upload_step e

end

theorem kept_new (lines cols maxScrollback : Nat) (theme : Theme) (files : F) :
    ImageHistory.Kept { term := { term := .new lines cols maxScrollback theme, files } } where
  caches := ⟨⟨Cache.autoRange_new, nofun⟩, nofun⟩
  ranges _ _ hid := nomatch hid
  upload _ hl := nomatch hl

/-- **The two ranges of ids stay apart**: an id that a client chose is in `[1, 2^31)` and one that was assigned in
    `[2^31, 2^32)`; both caches hold images under such ids only, and no id has both origins. -/
structure IdsApart (s : ImageHistory F) : Prop where
  client : ∀ id, (IdOrigin.client, id) ∈ s.stored → 1 ≤ id ∧ id < autoIdStart
  automatic : ∀ id, (IdOrigin.automatic, id) ∈ s.stored → autoIdStart ≤ id ∧ id < 2 ^ 32
  held : s.term.term.EachCache fun c => ∀ id, c.holds id = true → s.Logged id
  apart : ∀ o o' id, (o, id) ∈ s.stored → (o', id) ∈ s.stored → o = o'

theorem Kept.idsApart (h : s.Kept) : s.IdsApart where
  client id hid := h.ranges .client id hid
  automatic id hid := h.ranges .automatic id hid
  held := ⟨h.caches.primary.held, fun c hc => (h.caches.alternate c hc).held⟩
  apart o o' id ho ho' := (h.ranges o id ho).unique (h.ranges o' id ho')

/-- **In every run** of APC sequences, sixel and iTerm2 images and other operations, on either screen. -/
theorem idsApart_run (env : ImageEnv F) (width : Char → Option Nat) (lines cols maxScrollback : Nat) (theme : Theme)
    (files : F) (es : List ImageEvent) :
    IdsApart (run (step env width) { term := { term := .new lines cols maxScrollback theme, files } } es) := by
  exact (run_invariant (fun _ e hs => hs.step e) (kept_new lines cols maxScrollback theme files) es).idsApart

end ImageHistory

end OriTerm
