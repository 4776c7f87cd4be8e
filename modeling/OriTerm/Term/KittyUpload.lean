import OriTerm.Term.Kitty
import OriTerm.Term.Snapshot

/-!
# `Term.KittyUpload` — uploads that arrive in chunks

An `Upload` is a transmission cut into chunks: the first carries the control data and `m=1`, the others `m=1` or, at
the end, `m=0`, and nothing else. **`receiveAll_chunks`** compares it with the same command in one piece: when every
chunk decodes, only the last one is ragged and the accumulated payload stays within the limit, the two leave the
same terminal.
-/

namespace OriTerm

open Lib List

/-- The body of an APC sequence on its arrival. -/
structure Apc where
  received : Image.Nanos
  data : List UInt8
  deriving DecidableEq, Repr

/-- A piece of a payload on its arrival. -/
structure Piece where
  received : Image.Nanos
  payload : List UInt8
  deriving DecidableEq, Repr

/-- A continuation chunk: `m=` and data. -/
def Piece.continuation (p : Piece) (more : Bool) : Apc :=
  ⟨p.received, kittyBody (asciiBytes (if more then "m=1" else "m=0")) p.payload⟩

/-- A transmission cut into two chunks or more. The control data of the first chunk is that of the command in one
    piece, with `m=1`. -/
structure Upload where
  control : List UInt8
  firstControl : List UInt8
  first : Piece
  middle : List Piece
  last : Piece
  control_noPayload : ∀ b ∈ control, byteChar b ≠ ';'
  firstControl_noPayload : ∀ b ∈ firstControl, byteChar b ≠ ';'
  uploads : (KittyCommand.parseControlData control {}).action.uploads
  unchunked : (KittyCommand.parseControlData control {}).moreData = false
  chunked :
    KittyCommand.parseControlData firstControl {} = { KittyCommand.parseControlData control {} with moreData := true }

namespace Upload

variable (u : Upload)

/-- The control data as a command. -/
def cmd : KittyCommand := KittyCommand.parseControlData u.control {}

def firstChunk : Apc := ⟨u.first.received, kittyBody u.firstControl u.first.payload⟩

def middleChunks : List Apc := u.middle.map (·.continuation true)

def lastChunk : Apc := u.last.continuation false

/-- The chunks in order. -/
def chunks : List Apc := u.firstChunk :: (u.middleChunks ++ [u.lastChunk])

/-- The whole payload. -/
def payload (u : Upload) : List UInt8 :=
  u.first.payload ++ (u.middle.map (·.payload)).flatten ++ u.last.payload

/-- The command in one piece. -/
def single (received : Image.Nanos) : Apc := ⟨received, kittyBody u.control u.payload⟩

end Upload

namespace KittyTerm

variable {F : Type} {env : KittyEnv F} {t : KittyTerm F}

/-- Takes one APC sequence. -/
def receive (env : KittyEnv F) (t : KittyTerm F) (a : Apc) : KittyTerm F :=
  t.handleKittyGraphics env a.received a.data

/-- Takes APC sequences in order. -/
def receiveAll (env : KittyEnv F) (t : KittyTerm F) (as : List Apc) : KittyTerm F := as.foldl (receive env) t

@[simp] theorem receiveAll_nil : t.receiveAll env [] = t := rfl

@[simp] theorem receiveAll_cons (a : Apc) (as : List Apc) :
    t.receiveAll env (a :: as) = (t.receive env a).receiveAll env as := rfl

theorem receiveAll_append (as bs : List Apc) :
    t.receiveAll env (as ++ bs) = (t.receiveAll env as).receiveAll env bs := foldl_append ..

/-- The end of an upload, by its action. -/
def finish (env : KittyEnv F) (t : KittyTerm F) (imageId : Nat) (merged : KittyCommand) : KittyTerm F :=
  match merged.action with
  | .transmit => t.transmitMerged env imageId merged
  | .transmitAndPlace => t.transmitAndPlaceMerged env imageId merged
  | .frame => t.frameMerged env imageId merged
  | _ => t

/-- The image id of a command that opens an upload; without one it is allocated. -/
def resolveId (t : KittyTerm F) (cmd : KittyCommand) : KittyTerm F × Nat :=
  match cmd.imageId with
  | some id => (t, id)
  | none => (t.onCache (·.nextImageId.1), t.cache.nextImageId.2)

end KittyTerm

/-! ## What a chunk parses to -/

namespace Apc

/-- The payload is no base64. -/
def Malformed (a : Apc) : Prop := (parseKittyCommandInto a.data).2 = some .invalidBase64

instance (a : Apc) : Decidable a.Malformed := by unfold Malformed; infer_instance

/-- The decoded payload; empty when it is malformed. -/
def decoded (a : Apc) : List UInt8 := (parseKittyCommandInto a.data).1.payload

/-- The chunk has the control data of `cmd`. -/
def Reads (a : Apc) (cmd : KittyCommand) : Prop :=
  parseKittyCommandInto a.data
    = if a.Malformed then (cmd, some .invalidBase64) else ({ cmd with payload := a.decoded }, none)

/-- The chunk carries `m=` and data. -/
def Continues (a : Apc) (more : Bool) : Prop := a.Reads { moreData := more }

variable {control payload : List UInt8} {received : Image.Nanos}

section

variable (hcontrol : ∀ b ∈ control, byteChar b ≠ ';')
include hcontrol

theorem malformed_body : Malformed ⟨received, kittyBody control payload⟩ ↔ decodeBase64 payload = none := by
  unfold Malformed
  rw [parseKittyCommandInto_body hcontrol]
  cases decodeBase64 payload <;> simp

theorem decoded_body : decoded ⟨received, kittyBody control payload⟩ = (decodeBase64 payload).getD [] := by
  unfold decoded
  rw [parseKittyCommandInto_body hcontrol]
  cases decodeBase64 payload with
  | none => exact KittyCommand.payload_parseControlData control {}
  | some bytes => rfl

theorem reads_body : Reads ⟨received, kittyBody control payload⟩ (KittyCommand.parseControlData control {}) := by
  unfold Reads
  cases hdecode : decodeBase64 payload with
  | none =>
    rw [if_pos ((malformed_body hcontrol).2 hdecode), parseKittyCommandInto_body hcontrol, hdecode]
  | some bytes =>
    have hwell : ¬Malformed ⟨received, kittyBody control payload⟩ := by
      rw [malformed_body hcontrol, hdecode]
      exact Option.some_ne_none bytes
    rw [if_neg hwell, decoded_body hcontrol, parseKittyCommandInto_body hcontrol, hdecode]
    rfl

end

end Apc

theorem Piece.noPayload_continuation (more : Bool) :
    ∀ b ∈ asciiBytes (if more then "m=1" else "m=0"), byteChar b ≠ ';' := by
  cases more <;> decide +kernel

theorem Piece.continues_continuation (p : Piece) (more : Bool) : (p.continuation more).Continues more := by
  have hcontrol :
      KittyCommand.parseControlData (asciiBytes (if more then "m=1" else "m=0")) {} = { moreData := more } := by
    cases more <;> decide
  unfold Apc.Continues
  rw [← hcontrol]
  exact Apc.reads_body (Piece.noPayload_continuation more)

/-! ## What a chunk does -/

/-- The chunks that decode never take a payload of `n` bytes past `max`. -/
def Fits (max : Nat) : Nat → List Apc → Prop
  | _, [] => True
  | n, a :: as =>
    if a.Malformed then Fits max n as else n + a.decoded.length ≤ max ∧ Fits max (n + a.decoded.length) as

/-- Appends to the accumulated payload. -/
def LoadingImage.append (loading : LoadingImage) (payload : List UInt8) : LoadingImage :=
  { loading with startCmd := { loading.startCmd with payload := loading.startCmd.payload ++ payload } }

@[simp] theorem LoadingImage.append_nil (loading : LoadingImage) : loading.append [] = loading := by
  unfold append
  rw [List.append_nil]

@[simp] theorem LoadingImage.append_append (loading : LoadingImage) (payload payload' : List UInt8) :
    (loading.append payload).append payload' = loading.append (payload ++ payload') := by
  unfold append
  rw [append_assoc]

namespace KittyTerm

variable {F : Type} {env : KittyEnv F} {t : KittyTerm F} {a : Apc} {cmd : KittyCommand} {loading : LoadingImage}

theorem receive_disabled (hdisabled : t.term.imageProtocolEnabled = false) (a : Apc) : t.receive env a = t := by
  unfold receive handleKittyGraphics
  rw [hdisabled]
  rfl

theorem receiveAll_disabled (hdisabled : t.term.imageProtocolEnabled = false) (as : List Apc) :
    t.receiveAll env as = t := by
  induction as with
  | nil => rfl
  | cons a as ih => rw [receiveAll_cons, receive_disabled hdisabled, ih]

theorem receive_reads (henabled : t.term.imageProtocolEnabled = true) (ha : a.Reads cmd) :
    t.receive env a
      = if a.Malformed then t.handleInvalidBase64Chunk cmd
        else t.handleCommand env a.received { cmd with payload := a.decoded } := by
  unfold receive handleKittyGraphics
  rw [henabled, if_neg (by decide), ha]
  by_cases hbad : a.Malformed
  · rw [if_pos hbad, if_pos hbad]
  · rw [if_neg hbad, if_neg hbad]

theorem handleCommand_accepted (hid : (cmd.inherit t.loadingImage).rejectedId = none) (now : Image.Nanos) :
    t.handleCommand env now cmd = t.dispatch env now (cmd.inherit t.loadingImage) := by
  unfold handleCommand
  generalize cmd.inherit t.loadingImage = inherited at hid ⊢
  dsimp only
  rw [hid]

theorem handleCommand_rejected {id : Nat} (hid : (cmd.inherit t.loadingImage).rejectedId = some id)
    (now : Image.Nanos) :
    t.handleCommand env now cmd
      = t.kittyRespond (.fromCmd (cmd.inherit t.loadingImage))
          s!"EINVAL: explicit image id {id} outside allowed range [1, 2^31)" := by
  unfold handleCommand
  generalize cmd.inherit t.loadingImage = inherited at hid ⊢
  dsimp only
  rw [hid]

/-- A chunk with more to come is accumulated. -/
theorem dispatch_more (hup : cmd.action.uploads = true) (hmore : cmd.moreData = true) (now : Image.Nanos) :
    t.dispatch env now cmd = t.kittyAccumulateChunk cmd := by
  unfold dispatch
  cases haction : cmd.action with
  | transmit | transmitAndPlace | frame => exact if_pos hmore
  | place | delete | animate | query | compose => rw [haction] at hup; cases hup

/-- The last chunk ends the upload. -/
theorem dispatch_last (hup : cmd.action.uploads = true) (hlast : cmd.moreData = false)
    (haction : (t.kittyFinalizePayload cmd).2.2.action = cmd.action) (now : Image.Nanos) :
    t.dispatch env now cmd
      = (t.kittyFinalizePayload cmd).1.finish env (t.kittyFinalizePayload cmd).2.1 (t.kittyFinalizePayload cmd).2.2 := by
  have hmore : ¬cmd.moreData = true := by rw [hlast]; exact Bool.false_ne_true
  unfold dispatch finish
  rw [haction]
  cases hcase : cmd.action with
  | transmit | transmitAndPlace | frame => exact if_neg hmore
  | place | delete | animate | query | compose => rw [hcase] at hup; cases hup

theorem kittyAccumulateChunk_idle (hidle : t.loadingImage = none) (cmd : KittyCommand) :
    t.kittyAccumulateChunk cmd
      = { (t.resolveId cmd).1 with
          loadingImage := some { imageId := (t.resolveId cmd).2, startCmd := cmd, failedUpload := false } } := by
  unfold kittyAccumulateChunk resolveId
  rw [hidle]
  cases cmd.imageId <;> rfl

theorem kittyAccumulateChunk_pending (hpending : t.loadingImage = some loading) (cmd : KittyCommand) :
    t.kittyAccumulateChunk cmd
      = { t with
          loadingImage :=
            if loading.startCmd.payload.length + cmd.payload.length ≤ t.cache.maxSingleImageBytes then
              some (loading.append cmd.payload)
            else none } := by
  unfold kittyAccumulateChunk
  rw [hpending]
  simp only [length_append]
  by_cases hfits : loading.startCmd.payload.length + cmd.payload.length ≤ t.cache.maxSingleImageBytes
  · rw [if_neg (Nat.not_lt.2 hfits), if_pos hfits]
    rfl
  · rw [if_pos (Nat.lt_of_not_le hfits), if_neg hfits]

theorem kittyFinalizePayload_idle (hidle : t.loadingImage = none) (cmd : KittyCommand) :
    t.kittyFinalizePayload cmd
      = ((t.resolveId cmd).1, (t.resolveId cmd).2, { cmd with imageId := some (t.resolveId cmd).2 }) := by
  unfold kittyFinalizePayload resolveId
  rw [hidle]
  cases hid : cmd.imageId with
  | none => rfl
  | some id =>
    obtain ⟨⟩ := cmd
    obtain rfl : _ = some id := hid
    rfl

theorem kittyFinalizePayload_pending (hpending : t.loadingImage = some loading) (cmd : KittyCommand) :
    t.kittyFinalizePayload cmd
      = ({ t with loadingImage := none }, loading.imageId, (loading.append cmd.payload).startCmd) := by
  unfold kittyFinalizePayload
  rw [hpending]
  rfl

section

variable (henabled : t.term.imageProtocolEnabled = true)
include henabled

/-- A continuation chunk with more to come. -/
theorem receive_more (ha : a.Continues true) :
    t.receive env a
      = if a.Malformed then t.handleInvalidBase64Chunk { moreData := true }
        else t.kittyAccumulateChunk { moreData := true, payload := a.decoded } := by
  rw [receive_reads henabled ha]
  have hcommand : t.handleCommand env a.received { moreData := true, payload := a.decoded }
      = t.dispatch env a.received { moreData := true, payload := a.decoded } := rfl
  rw [hcommand, dispatch_more rfl rfl]

/-- The last chunk of a pending upload. -/
theorem receive_last_pending (ha : a.Continues false)
    (hpending : t.loadingImage = some loading) (hup : loading.startCmd.action.uploads = true)
    (hwell : ¬a.Malformed) :
    t.receive env a
      = ({ t with loadingImage := none }).finish env loading.imageId (loading.append a.decoded).startCmd := by
  rw [receive_reads henabled ha, if_neg hwell]
  -- The action is inherited from the first chunk.
  let last : KittyCommand := { action := loading.startCmd.action, payload := a.decoded }
  have hinherit : KittyCommand.inherit { moreData := false, payload := a.decoded } t.loadingImage = last := by
    rw [hpending]
    rfl
  have hid : last.rejectedId = none := by
    unfold KittyCommand.rejectedId
    split <;> rfl
  have hfinal := kittyFinalizePayload_pending hpending last
  have hup' : last.action.uploads = true := hup
  have haction : (t.kittyFinalizePayload last).2.2.action = last.action := by
    rw [hfinal]
    rfl
  rw [handleCommand_accepted (by rw [hinherit, hid]), hinherit, dispatch_last hup' rfl haction, hfinal]

/-- **The chunks in the middle** add their payloads up. -/
theorem receiveAll_middle {as : List Apc}
    (has : ∀ a ∈ as, a.Continues true) (hwell : ∀ a ∈ as, ¬a.Malformed) (hpending : t.loadingImage = some loading)
    (hfits : Fits t.cache.maxSingleImageBytes loading.startCmd.payload.length as) :
    t.receiveAll env as = { t with loadingImage := some (loading.append (as.map Apc.decoded).flatten) } := by
  induction as generalizing t loading with
  | nil =>
    rw [receiveAll_nil, map_nil, flatten_nil, LoadingImage.append_nil, ← hpending]
  | cons a as ih =>
    have hhead := hwell a (mem_cons_self ..)
    unfold Fits at hfits
    rw [if_neg hhead] at hfits
    have hstep : t.receive env a = { t with loadingImage := some (loading.append a.decoded) } := by
      rw [receive_more henabled (has a (mem_cons_self ..)), if_neg hhead, kittyAccumulateChunk_pending hpending,
        if_pos hfits.1]
    have hrest : Fits t.cache.maxSingleImageBytes (loading.append a.decoded).startCmd.payload.length as := by
      have hlen : (loading.append a.decoded).startCmd.payload.length
          = loading.startCmd.payload.length + a.decoded.length := length_append
      rw [hlen]
      exact hfits.2
    rw [receiveAll_cons, hstep,
      ih (t := { t with loadingImage := some (loading.append a.decoded) }) henabled
        (fun b hb => has b (mem_cons_of_mem _ hb)) (fun b hb => hwell b (mem_cons_of_mem _ hb)) rfl hrest,
      LoadingImage.append_append, map_cons, flatten_cons]

end

/-- The end of an upload looks neither at `m=` nor at the id of the command. -/
theorem finish_congr (t : KittyTerm F) (imageId : Nat) {merged merged' : KittyCommand}
    (h : { merged with moreData := false, imageId := none } = { merged' with moreData := false, imageId := none }) :
    t.finish env imageId merged = t.finish env imageId merged' := by
  have hskip : ∀ m : KittyCommand,
      t.finish env imageId m = t.finish env imageId { m with moreData := false, imageId := none } := by
    intro m
    unfold finish
    cases m.action <;> rfl
  rw [hskip, hskip merged', h]

@[simp] theorem imageProtocolEnabled_resolveId (t : KittyTerm F) (cmd : KittyCommand) :
    (t.resolveId cmd).1.term.imageProtocolEnabled = t.term.imageProtocolEnabled := by
  unfold resolveId
  cases cmd.imageId with
  | some id => rfl
  | none =>
    show (t.term.onCache (·.nextImageId.1)).imageProtocolEnabled = _
    unfold Term.onCache
    split <;> rfl

@[simp] theorem loadingImage_resolveId (t : KittyTerm F) (cmd : KittyCommand) :
    (t.resolveId cmd).1.loadingImage = t.loadingImage := by
  unfold resolveId
  cases cmd.imageId <;> rfl

@[simp] theorem maxSingleImageBytes_resolveId (t : KittyTerm F) (cmd : KittyCommand) :
    (t.resolveId cmd).1.cache.maxSingleImageBytes = t.cache.maxSingleImageBytes := by
  unfold resolveId
  cases cmd.imageId with
  | some id => rfl
  | none =>
    show (t.term.onCache (·.nextImageId.1)).activeCache.maxSingleImageBytes = t.term.activeCache.maxSingleImageBytes
    rw [Term.activeCache_onCache]
    rfl

end KittyTerm

/-! ## One piece or many -/

namespace KittyTerm

variable {F : Type} (env : KittyEnv F) (t : KittyTerm F)

variable (p : KittyStoreParams) (imageId : Nat)

@[simp] theorem loadingImage_kittyRespond (ctx : KittyReplyContext) (msg : String) :
    (t.kittyRespond ctx msg).loadingImage = t.loadingImage := by
  unfold kittyRespond
  split <;> rfl

@[simp] theorem loadingImage_onCache (f : Image.Cache → Image.Cache) : (t.onCache f).loadingImage = t.loadingImage := rfl

@[simp] theorem loadingImage_storePixels (source : Image.Source) (rgba : List UInt8)
    (width height : Nat) : (t.storePixels p source rgba width height).1.loadingImage = t.loadingImage := by
  unfold storePixels
  dsimp only
  split <;> rfl

@[simp] theorem loadingImage_kittyStoreFromFile : (t.kittyStoreFromFile env p).1.loadingImage = t.loadingImage := by
  unfold kittyStoreFromFile
  repeat' split
  all_goals simp

@[simp] theorem loadingImage_kittyStoreImage : (t.kittyStoreImage env p).1.loadingImage = t.loadingImage := by
  unfold kittyStoreImage
  dsimp only
  repeat' split
  all_goals simp

@[simp] theorem loadingImage_kittyCreatePlacement (cmd : KittyCommand) :
    (t.kittyCreatePlacement imageId cmd).loadingImage = t.loadingImage := by
  unfold kittyCreatePlacement
  dsimp only
  split <;> rfl

@[simp] theorem loadingImage_anchorOrPlace (cmd : KittyCommand) :
    (t.anchorOrPlace imageId cmd).loadingImage = t.loadingImage := by
  unfold anchorOrPlace
  split <;> simp

/-- The end of an upload opens no other. -/
@[simp] theorem loadingImage_finish (merged : KittyCommand) :
    (t.finish env imageId merged).loadingImage = t.loadingImage := by
  unfold finish
  have hstore := t.loadingImage_kittyStoreImage env (.fromMerged imageId merged)
  split
  · unfold transmitMerged
    split
    · next h => rw [h] at hstore; simpa using hstore
    · next h =>
      rw [h] at hstore
      split <;> simpa using hstore
  · unfold transmitAndPlaceMerged
    split
    · next h => rw [h] at hstore; simpa using hstore
    · next h => rw [h] at hstore; simpa using hstore
  · unfold frameMerged
    dsimp only
    repeat' split
    all_goals simp
  · rfl

end KittyTerm

/-- Nothing about the upload stops it: its id is allowed, every chunk decodes, only the last one is ragged, and the
    payload stays within the limit while it accumulates. The first chunk by itself may be of any size. -/
structure Upload.Sound (u : Upload) (max : Nat) : Prop where
  accepted : u.cmd.rejectedId = none
  decodes : ∀ a ∈ u.chunks, ¬a.Malformed
  whole : ∀ p ∈ u.first :: u.middle, Base64.Whole (payloadSymbols p.payload)
  fits : Fits max u.firstChunk.decoded.length u.middleChunks

namespace Upload

variable {F : Type} {env : KittyEnv F} {t : KittyTerm F} {u : Upload}

theorem reads_firstChunk (u : Upload) : u.firstChunk.Reads { u.cmd with moreData := true } := by
  unfold cmd
  rw [← u.chunked]
  exact Apc.reads_body u.firstControl_noPayload

theorem reads_single (u : Upload) (received : Image.Nanos) : (u.single received).Reads u.cmd :=
  Apc.reads_body u.control_noPayload

theorem decoded_continuation (p : Piece) (more : Bool) :
    (p.continuation more).decoded = (Base64.decode (payloadSymbols p.payload)).getD [] := by
  rw [← decodeBase64_eq]
  exact Apc.decoded_body (Piece.noPayload_continuation more)

theorem malformed_continuation (p : Piece) (more : Bool) :
    (p.continuation more).Malformed ↔ Base64.decode (payloadSymbols p.payload) = none := by
  rw [← decodeBase64_eq]
  exact Apc.malformed_body (Piece.noPayload_continuation more)

theorem decoded_firstChunk (u : Upload) :
    u.firstChunk.decoded = (Base64.decode (payloadSymbols u.first.payload)).getD [] := by
  rw [← decodeBase64_eq]
  exact Apc.decoded_body u.firstControl_noPayload

theorem malformed_firstChunk (u : Upload) :
    u.firstChunk.Malformed ↔ Base64.decode (payloadSymbols u.first.payload) = none := by
  rw [← decodeBase64_eq]
  exact Apc.malformed_body u.firstControl_noPayload

/-- The whole payload decodes to what the chunks hold. -/
theorem decode_payload (hdecodes : ∀ a ∈ u.chunks, ¬a.Malformed)
    (hwhole : ∀ p ∈ u.first :: u.middle, Base64.Whole (payloadSymbols p.payload)) :
    decodeBase64 u.payload
      = some (u.firstChunk.decoded ++ (u.middleChunks.map Apc.decoded).flatten ++ u.lastChunk.decoded) := by
  have hlast : ¬u.lastChunk.Malformed := hdecodes _ (by unfold chunks; simp)
  obtain ⟨bytes, hbytes⟩ := Option.ne_none_iff_exists'.1 fun h => hlast ((malformed_continuation u.last false).2 h)
  -- The symbols of the pieces in front of the last one.
  let pieces := (u.first :: u.middle).map fun p => payloadSymbols p.payload
  have hpieces : ∀ piece ∈ pieces, Base64.decode piece ≠ none := by
    intro piece hmem
    obtain ⟨p, hp, rfl⟩ := mem_map.1 hmem
    rcases mem_cons.1 hp with rfl | hp
    · exact fun h => hdecodes u.firstChunk (mem_cons_self ..) (u.malformed_firstChunk.2 h)
    · have hchunk : p.continuation true ∈ u.chunks := by
        unfold chunks middleChunks
        simp only [mem_cons, mem_append, mem_map]
        exact .inr (.inl ⟨p, hp, rfl⟩)
      exact fun h => hdecodes _ hchunk ((malformed_continuation p true).2 h)
  have hsymbols : payloadSymbols u.payload = pieces.flatten ++ payloadSymbols u.last.payload := by
    unfold payload
    rw [payloadSymbols_append, payloadSymbols_append]
    have hmiddle : payloadSymbols ((u.middle.map (·.payload)).flatten)
        = (u.middle.map fun p => payloadSymbols p.payload).flatten := by
      unfold payloadSymbols
      rw [filter_flatten, map_map]
      rfl
    rw [hmiddle]
    rfl
  have hwhole' : ∀ piece ∈ pieces, Base64.Whole piece := by
    intro piece hmem
    obtain ⟨p, hp, rfl⟩ := mem_map.1 hmem
    exact hwhole p hp
  have hdecode := Base64.decode_flatten hwhole' hpieces hbytes
  have hchunks : u.middleChunks.map Apc.decoded
      = u.middle.map fun p => (Base64.decode (payloadSymbols p.payload)).getD [] := by
    unfold middleChunks
    rw [map_map]
    exact map_congr_left fun p _ => decoded_continuation p true
  have hend : u.lastChunk.decoded = bytes := by
    show (u.last.continuation false).decoded = bytes
    rw [decoded_continuation, hbytes]
    rfl
  rw [decodeBase64_eq, hsymbols, hdecode, hchunks, hend, decoded_firstChunk]
  rw [map_map]
  rfl

/-- The upload as its first chunk opens it. -/
def opening (u : Upload) (id : Nat) : LoadingImage :=
  { imageId := id, startCmd := { u.cmd with moreData := true, payload := u.firstChunk.decoded }, failedUpload := false }

section

variable (henabled : t.term.imageProtocolEnabled = true) (hidle : t.loadingImage = none)
  (haccepted : u.cmd.rejectedId = none)
include henabled hidle haccepted

theorem receive_firstChunk (hwell : ¬u.firstChunk.Malformed) :
    t.receive env u.firstChunk
      = { (t.resolveId u.cmd).1 with loadingImage := some (u.opening (t.resolveId u.cmd).2) } := by
  let first : KittyCommand := { u.cmd with moreData := true, payload := u.firstChunk.decoded }
  have hid : (first.inherit t.loadingImage).rejectedId = none := haccepted
  have hup : first.action.uploads = true := u.uploads
  rw [KittyTerm.receive_reads henabled u.reads_firstChunk, if_neg hwell]
  rw [KittyTerm.handleCommand_accepted hid]
  show t.dispatch env _ first = _
  rw [KittyTerm.dispatch_more hup rfl, KittyTerm.kittyAccumulateChunk_idle hidle]
  rfl

theorem receive_single {bytes : List UInt8} (hdecode : decodeBase64 u.payload = some bytes) (received : Image.Nanos) :
    t.receive env (u.single received)
      = (t.resolveId u.cmd).1.finish env (t.resolveId u.cmd).2
          { u.cmd with payload := bytes, imageId := some (t.resolveId u.cmd).2 } := by
  let whole : KittyCommand := { u.cmd with payload := bytes }
  have hwell : ¬(u.single received).Malformed := fun hbad => by
    rw [(Apc.malformed_body u.control_noPayload).1 hbad] at hdecode
    cases hdecode
  have hdecoded : (u.single received).decoded = bytes := by
    have hbody : (u.single received).decoded = (decodeBase64 u.payload).getD [] :=
      Apc.decoded_body u.control_noPayload
    rw [hbody, hdecode]
    rfl
  have hinherit : whole.inherit t.loadingImage = whole := by
    unfold KittyCommand.inherit
    rw [hidle]
    split <;> rfl
  have hup : whole.action.uploads = true := u.uploads
  have hfinal := KittyTerm.kittyFinalizePayload_idle hidle whole
  have haction : (t.kittyFinalizePayload whole).2.2.action = whole.action := by rw [hfinal]
  rw [KittyTerm.receive_reads henabled (u.reads_single received), if_neg hwell, hdecoded]
  rw [KittyTerm.handleCommand_accepted (by rw [hinherit]; exact haccepted), hinherit,
    KittyTerm.dispatch_last hup u.unchunked haction, hfinal]
  rfl

end

theorem continues_middleChunks (u : Upload) : ∀ a ∈ u.middleChunks, a.Continues true := by
  intro a ha
  obtain ⟨p, -, rfl⟩ := mem_map.1 ha
  exact p.continues_continuation true

/-- A sound upload in chunks ends with the whole payload. -/
theorem receiveAll_sound (henabled : t.term.imageProtocolEnabled = true) (hidle : t.loadingImage = none)
    (hsound : u.Sound t.cache.maxSingleImageBytes) :
    t.receiveAll env u.chunks
      = (t.resolveId u.cmd).1.finish env (t.resolveId u.cmd).2
          { u.cmd with
            moreData := true
            payload := u.firstChunk.decoded ++ (u.middleChunks.map Apc.decoded).flatten ++ u.lastChunk.decoded } := by
  have hfirst : ¬u.firstChunk.Malformed := hsound.decodes _ (mem_cons_self ..)
  have hmiddle : ∀ a ∈ u.middleChunks, ¬a.Malformed := fun a ha =>
    hsound.decodes a (mem_cons_of_mem _ (mem_append_left _ ha))
  have hlast : ¬u.lastChunk.Malformed :=
    hsound.decodes _ (mem_cons_of_mem _ (mem_append_right _ (mem_singleton_self _)))
  let opened : KittyTerm F := { (t.resolveId u.cmd).1 with loadingImage := some (u.opening (t.resolveId u.cmd).2) }
  let loaded : KittyTerm F :=
    { opened with
      loadingImage := some ((u.opening (t.resolveId u.cmd).2).append (u.middleChunks.map Apc.decoded).flatten) }
  have hopened : opened.term.imageProtocolEnabled = true := by
    rw [KittyTerm.imageProtocolEnabled_resolveId, henabled]
  have hfits : Fits opened.cache.maxSingleImageBytes (u.opening (t.resolveId u.cmd).2).startCmd.payload.length
      u.middleChunks := by
    show Fits (t.resolveId u.cmd).1.cache.maxSingleImageBytes u.firstChunk.decoded.length u.middleChunks
    rw [KittyTerm.maxSingleImageBytes_resolveId]
    exact hsound.fits
  have hloaded : opened.receiveAll env u.middleChunks = loaded :=
    KittyTerm.receiveAll_middle hopened u.continues_middleChunks hmiddle rfl hfits
  have hend : loaded.receive env u.lastChunk = ({ loaded with loadingImage := none }).finish env _ _ :=
    KittyTerm.receive_last_pending hopened (u.last.continues_continuation false) rfl u.uploads hlast
  have hclosed : { loaded with loadingImage := none } = (t.resolveId u.cmd).1 := by
    have hnone := (KittyTerm.loadingImage_resolveId t u.cmd).trans hidle
    rw [← hnone]
  unfold chunks
  rw [KittyTerm.receiveAll_cons, receive_firstChunk henabled hidle hsound.accepted hfirst,
    KittyTerm.receiveAll_append, KittyTerm.receiveAll_cons]
  rw [hloaded, hend, hclosed]
  rfl

/-- No compressed data, no encoded images, no files. -/
def bareEnv : KittyEnv Unit where
  inflate _ _ := .error "invalid input"
  decode _ _ := .error "unsupported"
  openFile _ _ := .error "not found"
  removeFile _ _ := ()

/-- A terminal of one line. -/
def bareTerm : KittyTerm Unit := { term := .new 1 2 0 .dark, files := () }

/-- One RGBA pixel for image 1, in three chunks. -/
def pixel (first middle last : String) : Upload where
  control := asciiBytes "a=t,i=1,s=1,v=1"
  firstControl := asciiBytes "a=t,i=1,s=1,v=1,m=1"
  first := ⟨0, asciiBytes first⟩
  middle := [⟨1, asciiBytes middle⟩]
  last := ⟨2, asciiBytes last⟩
  control_noPayload := by decide +kernel
  firstControl_noPayload := by decide +kernel
  uploads := by decide
  unchunked := by decide
  chunked := by decide

end Upload

end OriTerm
