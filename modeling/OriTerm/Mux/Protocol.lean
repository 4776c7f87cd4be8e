import OriTerm.Lib.Framing

/-!
# `Mux.Protocol` — the frames of the IPC wire

A frame is a 14-byte header (`FrameHeader`) followed by a payload, the bincode encoding of one `MuxPdu`,
possibly compressed with zstd. Both ends share one encoder (`encodeIntoBuf`) and one decoder
(`tryDecodeFromBuf`); the server feeds the latter from a non-blocking socket (`FrameReader`), the client from
blocking reads (`ProtocolCodec`).

bincode and zstd are third-party crates: `Coders` takes their four functions as parameters, and
`Coders.RoundTrip` is what the wire relies on. A `MuxPdu` is its variant and that variant's fields; only
bincode looks at the fields.

The decoder is prefix-stable, so it is a `Lib.Framing`, and its chunk independence is `Framing.run_flatten`.
-/

namespace OriTerm

open Lib List Option

/-! ## Messages -/

/-- Message type IDs for the wire header. -/
inductive MsgType where
  -- Requests (client to daemon).
  | hello | closePane | input | resize | subscribe | unsubscribe | getPaneSnapshot | ping | shutdown
  | scrollDisplay | scrollToBottom | scrollToPrompt | setTheme | setCursorShape | markAllDirty
  | openSearch | closeSearch | searchSetQuery | searchNextMatch | searchPrevMatch | extractText
  | extractHtml | setCapabilities | spawnPane | listPanes | setImageConfig | setBoldIsBright
  | requestNewTab | setPanePriority | signalChild | setCellDimensions | replyHostRequest
  | isWriteStalled | setAnswerback
  -- Responses (daemon to client).
  | helloAck | paneClosedAck | subscribed | unsubscribed | paneSnapshotResp | pingAck | shutdownAck
  | scrollToPromptAck | extractTextResp | extractHtmlResp | spawnPaneResponse | listPanesResponse
  | newTabAck | writeStalledStatus | error
  -- Push notifications (daemon to client).
  | notifyPaneOutput | notifyPaneExited | notifyPaneMetadataChanged | notifyPaneBell
  | notifyCommandComplete | notifyClipboardStore | notifyClipboardLoad | notifyPaneSnapshot
  | notifyNewTab | notifyPaneUrgencyHint | notifyHostClipboardLoad | notifyHostColorQuery
  | notifyDesktopNotification | notifyClearPendingDesktopNotifications
  deriving DecidableEq, Repr

namespace MsgType

/-- The ID on the wire (`as u16`). -/
def toU16 : MsgType → UInt16
  | .hello => 0x0101
  | .closePane => 0x0105
  | .input => 0x0106
  | .resize => 0x0107
  | .subscribe => 0x0109
  | .unsubscribe => 0x010A
  | .getPaneSnapshot => 0x010D
  | .ping => 0x0113
  | .shutdown => 0x0114
  | .scrollDisplay => 0x0115
  | .scrollToBottom => 0x0116
  | .scrollToPrompt => 0x0117
  | .setTheme => 0x0118
  | .setCursorShape => 0x0119
  | .markAllDirty => 0x011A
  | .openSearch => 0x011B
  | .closeSearch => 0x011C
  | .searchSetQuery => 0x011D
  | .searchNextMatch => 0x011E
  | .searchPrevMatch => 0x011F
  | .extractText => 0x0120
  | .extractHtml => 0x0121
  | .setCapabilities => 0x0122
  | .spawnPane => 0x0124
  | .listPanes => 0x0125
  | .setImageConfig => 0x0126
  | .setBoldIsBright => 0x0127
  | .requestNewTab => 0x0128
  | .setPanePriority => 0x0129
  | .signalChild => 0x012A
  | .setCellDimensions => 0x012B
  | .replyHostRequest => 0x012D
  | .isWriteStalled => 0x012E
  | .setAnswerback => 0x012F
  | .helloAck => 0x0201
  | .paneClosedAck => 0x0205
  | .subscribed => 0x0207
  | .unsubscribed => 0x0208
  | .paneSnapshotResp => 0x020B
  | .pingAck => 0x0210
  | .shutdownAck => 0x0211
  | .scrollToPromptAck => 0x0212
  | .extractTextResp => 0x0213
  | .extractHtmlResp => 0x0214
  | .spawnPaneResponse => 0x0216
  | .listPanesResponse => 0x0217
  | .newTabAck => 0x0218
  | .writeStalledStatus => 0x0219
  | .error => 0x02FF
  | .notifyPaneOutput => 0x0301
  | .notifyPaneExited => 0x0302
  | .notifyPaneMetadataChanged => 0x0303
  | .notifyPaneBell => 0x0304
  | .notifyCommandComplete => 0x0305
  | .notifyClipboardStore => 0x0306
  | .notifyClipboardLoad => 0x0308
  | .notifyPaneSnapshot => 0x0307
  | .notifyNewTab => 0x0309
  | .notifyPaneUrgencyHint => 0x030A
  | .notifyHostClipboardLoad => 0x030B
  | .notifyHostColorQuery => 0x030C
  | .notifyDesktopNotification => 0x030D
  | .notifyClearPendingDesktopNotifications => 0x030E

/-- The message type of an ID, `none` for an unknown one. -/
def fromU16 : UInt16 → Option MsgType
  | 0x0101 => some .hello
  | 0x0105 => some .closePane
  | 0x0106 => some .input
  | 0x0107 => some .resize
  | 0x0109 => some .subscribe
  | 0x010A => some .unsubscribe
  | 0x010D => some .getPaneSnapshot
  | 0x0113 => some .ping
  | 0x0114 => some .shutdown
  | 0x0115 => some .scrollDisplay
  | 0x0116 => some .scrollToBottom
  | 0x0117 => some .scrollToPrompt
  | 0x0118 => some .setTheme
  | 0x0119 => some .setCursorShape
  | 0x011A => some .markAllDirty
  | 0x011B => some .openSearch
  | 0x011C => some .closeSearch
  | 0x011D => some .searchSetQuery
  | 0x011E => some .searchNextMatch
  | 0x011F => some .searchPrevMatch
  | 0x0120 => some .extractText
  | 0x0121 => some .extractHtml
  | 0x0122 => some .setCapabilities
  | 0x0124 => some .spawnPane
  | 0x0125 => some .listPanes
  | 0x0126 => some .setImageConfig
  | 0x0127 => some .setBoldIsBright
  | 0x0128 => some .requestNewTab
  | 0x0129 => some .setPanePriority
  | 0x012A => some .signalChild
  | 0x012B => some .setCellDimensions
  | 0x012D => some .replyHostRequest
  | 0x012E => some .isWriteStalled
  | 0x012F => some .setAnswerback
  | 0x0201 => some .helloAck
  | 0x0205 => some .paneClosedAck
  | 0x0207 => some .subscribed
  | 0x0208 => some .unsubscribed
  | 0x020B => some .paneSnapshotResp
  | 0x0210 => some .pingAck
  | 0x0211 => some .shutdownAck
  | 0x0212 => some .scrollToPromptAck
  | 0x0213 => some .extractTextResp
  | 0x0214 => some .extractHtmlResp
  | 0x0216 => some .spawnPaneResponse
  | 0x0217 => some .listPanesResponse
  | 0x0218 => some .newTabAck
  | 0x0219 => some .writeStalledStatus
  | 0x02FF => some .error
  | 0x0301 => some .notifyPaneOutput
  | 0x0302 => some .notifyPaneExited
  | 0x0303 => some .notifyPaneMetadataChanged
  | 0x0304 => some .notifyPaneBell
  | 0x0305 => some .notifyCommandComplete
  | 0x0306 => some .notifyClipboardStore
  | 0x0308 => some .notifyClipboardLoad
  | 0x0307 => some .notifyPaneSnapshot
  | 0x0309 => some .notifyNewTab
  | 0x030A => some .notifyPaneUrgencyHint
  | 0x030B => some .notifyHostClipboardLoad
  | 0x030C => some .notifyHostColorQuery
  | 0x030D => some .notifyDesktopNotification
  | 0x030E => some .notifyClearPendingDesktopNotifications
  | _ => none

/-- Every type's ID is known. -/
@[simp] theorem fromU16_toU16 (t : MsgType) : fromU16 t.toU16 = some t := by
  cases t <;> rfl

end MsgType

/-- A protocol message: one of the variants with its fields. The variants are named as their message types,
    one for one. -/
structure MuxPdu (Fields : MsgType → Type) where
  /-- Message type ID for the wire header (`msg_type`). -/
  msgType : MsgType
  fields : Fields msgType

/-! ## The header -/

/-- Frame header size in bytes. -/
def HEADER_LEN : Nat := 14

/-- Maximum payload size (80 MiB). -/
def MAX_PAYLOAD : Nat := 80 * 1024 * 1024

/-- Magic bytes identifying a frame ("OT"). -/
def FRAME_MAGIC : UInt16 := 0x4F54

/-- Current protocol version. -/
def PROTOCOL_VERSION : UInt8 := 4

/-- Flag: payload is zstd-compressed. -/
def FLAG_COMPRESSED : UInt8 := 0x01

/-- Frame header on the wire. -/
structure FrameHeader where
  magic : UInt16
  version : UInt8
  flags : UInt8
  /-- Raw, since an unknown ID has to be skipped. -/
  msgType : UInt16
  /-- Request/response correlation; `0` for notifications. -/
  seq : UInt32
  /-- Length of the payload on the wire, in bytes. -/
  payloadLen : UInt32
  deriving DecidableEq, Repr

namespace FrameHeader

/-- Encode the header into its 14 bytes, integers little-endian. -/
def encode (h : FrameHeader) : List UInt8 :=
  toLeBytes 2 h.magic.toNat ++ [h.version, h.flags] ++ toLeBytes 2 h.msgType.toNat ++
    toLeBytes 4 h.seq.toNat ++ toLeBytes 4 h.payloadLen.toNat

/-- Decode a header from 14 bytes. Validates neither magic nor version. -/
def decode (buf : List UInt8) : FrameHeader where
  magic := UInt16.ofNat (fromLeBytes (buf.take 2))
  version := buf.getD 2 0
  flags := buf.getD 3 0
  msgType := UInt16.ofNat (fromLeBytes ((buf.drop 4).take 2))
  seq := UInt32.ofNat (fromLeBytes ((buf.drop 6).take 4))
  payloadLen := UInt32.ofNat (fromLeBytes ((buf.drop 10).take 4))

@[simp] theorem length_encode (h : FrameHeader) : h.encode.length = HEADER_LEN := by
  simp [encode, HEADER_LEN]

/-- **A header reads back as it was written.** -/
@[simp] theorem decode_encode (h : FrameHeader) : decode h.encode = h := by
  obtain ⟨magic, version, flags, msgType, seq, payloadLen⟩ := h
  have hmagic := fromLeBytes_toLeBytes_of_lt (w := 2) magic.toNat_lt
  have htype := fromLeBytes_toLeBytes_of_lt (w := 2) msgType.toNat_lt
  have hseq := fromLeBytes_toLeBytes_of_lt (w := 4) seq.toNat_lt
  have hlen := fromLeBytes_toLeBytes_of_lt (w := 4) payloadLen.toNat_lt
  have hdrop : ∀ w i n, w ≤ i → (toLeBytes w n).drop i = [] := fun w i n hi =>
    drop_eq_nil_of_le (by simpa using hi)
  have htake : ∀ w i n, w ≤ i → (toLeBytes w n).take i = toLeBytes w n := fun w i n hi =>
    take_of_length_le (by simpa using hi)
  simp [decode, encode, drop_append, hdrop, htake, hmagic, htype, hseq, hlen]

end FrameHeader

/-! ## Coders -/

/-- The third-party coders of the payload: `bincode::serialize`/`deserialize` and
    `zstd::encode_all`/`decode_all` (at level 1). Their errors are the texts they display. -/
structure Coders (Fields : MsgType → Type) where
  serialize : MuxPdu Fields → Except String (List UInt8)
  deserialize : List UInt8 → Except String (MuxPdu Fields)
  encodeAll : List UInt8 → Except String (List UInt8)
  decodeAll : List UInt8 → Except String (List UInt8)

/-- The coders round-trip on the values they encode. -/
structure Coders.RoundTrip {Fields : MsgType → Type} (C : Coders Fields) : Prop where
  bincode : ∀ {pdu : MuxPdu Fields} {bytes : List UInt8}, C.serialize pdu = .ok bytes →
    C.deserialize bytes = .ok pdu
  zstd : ∀ {bytes packed : List UInt8}, C.encodeAll bytes = .ok packed → C.decodeAll packed = .ok bytes

variable {Fields : MsgType → Type}

/-- A decoded frame: sequence number and message. -/
structure DecodedFrame (Fields : MsgType → Type) where
  seq : UInt32
  pdu : MuxPdu Fields

/-- The I/O errors a decoder reports. -/
inductive IoError where
  | unexpectedEof
  | wouldBlock
  /-- Any other error of the stream or of zstd, by its text. -/
  | other (text : String)
  deriving DecidableEq, Repr

/-- Errors from frame decoding. -/
inductive DecodeError where
  /-- I/O error reading from the stream, or decompressing. -/
  | io (e : IoError)
  /-- Magic bytes do not match. -/
  | badMagic (magic : UInt16)
  /-- Payload exceeds `MAX_PAYLOAD`. -/
  | payloadTooLarge (len : UInt32)
  /-- Unknown message type ID in the header. -/
  | unknownMsgType (msgType : UInt16)
  /-- Bincode deserialization failed. -/
  | deserialize (text : String)
  deriving DecidableEq, Repr

/-- The text an I/O error displays. -/
def IoError.display : IoError → String
  | .unexpectedEof => "unexpected end of file"
  | .wouldBlock => "operation would block"
  | .other text => text

/-- The last `w` hexadecimal digits of a number, upper case (the 04X format of the errors for `w = 4`). -/
def hexDigits : Nat → Nat → String
  | 0, _ => ""
  | w + 1, n => hexDigits w (n / 16) ++ String.singleton ("0123456789ABCDEF".toList.getD (n % 16) '0')

/-- The text a decoding error displays. -/
def DecodeError.display : DecodeError → String
  | .io e => "IO error: " ++ e.display
  | .badMagic magic => "bad magic bytes: 0x" ++ hexDigits 4 magic.toNat ++ " (expected 0x4F54)"
  | .payloadTooLarge len =>
    "payload too large: " ++ toString len.toNat ++ " bytes (max " ++ toString MAX_PAYLOAD ++ ")"
  | .unknownMsgType t => "unknown message type: 0x" ++ hexDigits 4 t.toNat
  | .deserialize text => "deserialize error: " ++ text

/-! ## Encoding -/

/-- Minimum payload size to attempt compression. -/
def COMPRESSION_THRESHOLD : Nat := 4096

/-- The payload as it goes on the wire, and the header flags that say how. Compression is tried when asked
    for and worth it, and kept only when it helps. -/
def Coders.wirePayload (C : Coders Fields) (payload : List UInt8) (compress : Bool) : List UInt8 × UInt8 :=
  if compress && COMPRESSION_THRESHOLD < payload.length then
    match C.encodeAll payload with
    | .ok compressed => if compressed.length < payload.length then (compressed, FLAG_COMPRESSED) else (payload, 0)
    | .error _ => (payload, 0)
  else (payload, 0)

/-- Encode a message into a frame and append the bytes to `buf`. -/
def encodeIntoBuf (C : Coders Fields) (buf : List UInt8) (seq : UInt32) (pdu : MuxPdu Fields)
    (compress : Bool) : Except String (List UInt8) := do
  let payload ← C.serialize pdu
  if 2 ^ 32 ≤ payload.length then throw "payload exceeds u32 capacity"
  if MAX_PAYLOAD < payload.length then
    throw s!"payload too large: {payload.length} bytes (max {MAX_PAYLOAD})"
  let (wirePayload, flags) := C.wirePayload payload compress
  if 2 ^ 32 ≤ wirePayload.length then throw "compressed payload exceeds u32"
  let header : FrameHeader :=
    { magic := FRAME_MAGIC, version := PROTOCOL_VERSION, flags, msgType := pdu.msgType.toU16, seq,
      payloadLen := UInt32.ofNat wirePayload.length }
  return buf ++ header.encode ++ wirePayload

/-! ## Decoding -/

/-- The message in a complete payload: decompressed when the flag says so, then deserialized. -/
def Coders.decodePayload (C : Coders Fields) (header : FrameHeader) (rawPayload : List UInt8) :
    Except DecodeError (DecodedFrame Fields) :=
  let payloadBytes :=
    if header.flags &&& FLAG_COMPRESSED ≠ 0 then C.decodeAll rawPayload else .ok rawPayload
  match payloadBytes with
  | .error e => .error (.io (.other e))
  | .ok bytes =>
    match C.deserialize bytes with
    | .ok pdu => .ok { seq := header.seq, pdu }
    | .error e => .error (.deserialize e)

/-- Try to decode one complete frame off the buffer: the result and the buffer left, or `none` when more
    bytes are needed. Malformed bytes are consumed with their error. -/
def tryDecodeFromBuf (C : Coders Fields) (buf : List UInt8) :
    Option (Except DecodeError (DecodedFrame Fields) × List UInt8) :=
  if buf.length < HEADER_LEN then none
  else
    let header := FrameHeader.decode (buf.take HEADER_LEN)
    if header.magic ≠ FRAME_MAGIC then some (.error (.badMagic header.magic), buf.drop HEADER_LEN)
    else if MAX_PAYLOAD < header.payloadLen.toNat then
      some (.error (.payloadTooLarge header.payloadLen), buf.drop HEADER_LEN)
    else
      let total := HEADER_LEN + header.payloadLen.toNat
      if (MsgType.fromU16 header.msgType).isNone then
        -- The whole frame is waited for, so that skipping it keeps the stream aligned.
        if buf.length < total then none
        else some (.error (.unknownMsgType header.msgType), buf.drop total)
      else if buf.length < total then none
      else some (C.decodePayload header ((buf.drop HEADER_LEN).take header.payloadLen.toNat), buf.drop total)

/-! ### The decoder is a framing -/

section

variable (C : Coders Fields) {buf rest : List UInt8} {r : Except DecodeError (DecodedFrame Fields)}
  (h : tryDecodeFromBuf C buf = some (r, rest))
include C h

/-- The decoder reads nothing past the frame it decodes. -/
theorem tryDecodeFromBuf_append (more : List UInt8) : tryDecodeFromBuf C (buf ++ more) = some (r, rest ++ more) := by
  unfold tryDecodeFromBuf at h ⊢
  by_cases hshort : buf.length < HEADER_LEN
  · simp [hshort] at h
  rw [if_neg hshort] at h
  have hlen : ¬ (buf ++ more).length < HEADER_LEN := by rw [length_append]; omega
  have hhead : (buf ++ more).take HEADER_LEN = buf.take HEADER_LEN := take_append_of_le_length (by omega)
  rw [if_neg hlen, hhead]
  dsimp only at h ⊢
  generalize FrameHeader.decode (buf.take HEADER_LEN) = header at h ⊢
  have hdropHeader : (buf ++ more).drop HEADER_LEN = buf.drop HEADER_LEN ++ more :=
    drop_append_of_le_length (by omega)
  by_cases hmagic : header.magic ≠ FRAME_MAGIC
  · rw [if_pos hmagic] at h ⊢
    simp only [some.injEq, Prod.mk.injEq] at h
    rw [hdropHeader, ← h.1, ← h.2]
  rw [if_neg hmagic] at h ⊢
  by_cases hlarge : MAX_PAYLOAD < header.payloadLen.toNat
  · rw [if_pos hlarge] at h ⊢
    simp only [some.injEq, Prod.mk.injEq] at h
    rw [hdropHeader, ← h.1, ← h.2]
  rw [if_neg hlarge] at h ⊢
  by_cases htotal : buf.length < HEADER_LEN + header.payloadLen.toNat
  · simp [htotal] at h
  have htotal' : ¬ (buf ++ more).length < HEADER_LEN + header.payloadLen.toNat := by
    rw [length_append]; omega
  have hdrop : (buf ++ more).drop (HEADER_LEN + header.payloadLen.toNat) =
      buf.drop (HEADER_LEN + header.payloadLen.toNat) ++ more := drop_append_of_le_length (by omega)
  have hraw : ((buf ++ more).drop HEADER_LEN).take header.payloadLen.toNat =
      (buf.drop HEADER_LEN).take header.payloadLen.toNat := by
    rw [hdropHeader, take_append_of_le_length (by rw [length_drop]; omega)]
  rw [if_neg htotal] at h
  rw [if_neg htotal', hdrop, hraw]
  by_cases hunknown : (MsgType.fromU16 header.msgType).isNone = true
  · rw [if_pos hunknown] at h ⊢
    simp only [some.injEq, Prod.mk.injEq] at h
    rw [← h.1, ← h.2]
  · rw [if_neg hunknown] at h ⊢
    rw [if_neg htotal] at h
    simp only [some.injEq, Prod.mk.injEq] at h
    rw [if_neg htotal', ← h.1, ← h.2]

/-- What is consumed is a prefix of at least a header. -/
theorem tryDecodeFromBuf_drop : ∃ k, HEADER_LEN ≤ k ∧ k ≤ buf.length ∧ rest = buf.drop k := by
  unfold tryDecodeFromBuf at h
  by_cases hshort : buf.length < HEADER_LEN
  · simp [hshort] at h
  rw [if_neg hshort] at h
  dsimp only at h
  generalize FrameHeader.decode (buf.take HEADER_LEN) = header at h
  split at h
  · simp only [some.injEq, Prod.mk.injEq] at h
    exact ⟨HEADER_LEN, le_refl _, by omega, h.2.symm⟩
  split at h
  · simp only [some.injEq, Prod.mk.injEq] at h
    exact ⟨HEADER_LEN, le_refl _, by omega, h.2.symm⟩
  by_cases htotal : buf.length < HEADER_LEN + header.payloadLen.toNat
  · simp [htotal] at h
  have hrest : rest = buf.drop (HEADER_LEN + header.payloadLen.toNat) := by
    split at h
    · simp only [some.injEq, Prod.mk.injEq] at h
      exact h.2.symm
    · simp only [some.injEq, Prod.mk.injEq] at h
      exact h.2.symm
  exact ⟨HEADER_LEN + header.payloadLen.toNat, by omega, by omega, hrest⟩

theorem tryDecodeFromBuf_lt : rest.length < buf.length := by
  obtain ⟨k, hk, hle, rfl⟩ := tryDecodeFromBuf_drop C h
  rw [length_drop]
  unfold HEADER_LEN at hk
  omega

end

/-- The wire as a framed stream. -/
def Coders.framing (C : Coders Fields) : Framing UInt8 (Except DecodeError (DecodedFrame Fields)) where
  next := tryDecodeFromBuf C
  next_append h more := tryDecodeFromBuf_append C h more
  next_lt h := tryDecodeFromBuf_lt C h

/-- A frame written out is decoded off the front of whatever follows it. -/
theorem tryDecodeFromBuf_frame (C : Coders Fields) {header : FrameHeader} {payload : List UInt8}
    (hmagic : header.magic = FRAME_MAGIC) (hlen : header.payloadLen.toNat = payload.length)
    (hmax : payload.length ≤ MAX_PAYLOAD) (more : List UInt8) :
    tryDecodeFromBuf C (header.encode ++ payload ++ more) =
      some (if (MsgType.fromU16 header.msgType).isNone then .error (.unknownMsgType header.msgType)
        else C.decodePayload header payload, more) := by
  have hhead : (header.encode ++ payload ++ more).take HEADER_LEN = header.encode := by
    rw [append_assoc, take_append_of_le_length (by simp), take_of_length_le (by simp)]
  have hbody : (header.encode ++ payload ++ more).drop HEADER_LEN = payload ++ more := by
    rfl
  have htotal : ¬ (header.encode ++ payload ++ more).length < HEADER_LEN + header.payloadLen.toNat := by
    simp only [length_append, FrameHeader.length_encode]
    omega
  have hshort : ¬ (header.encode ++ payload ++ more).length < HEADER_LEN := by omega
  have hrest : (header.encode ++ payload ++ more).drop (HEADER_LEN + header.payloadLen.toNat) = more := by
    rw [← drop_drop, hbody, hlen, drop_append_of_le_length (le_refl _), drop_length]
    rfl
  unfold tryDecodeFromBuf
  rw [if_neg hshort, hhead, FrameHeader.decode_encode]
  dsimp only
  rw [if_neg (by simpa using hmagic), if_neg (by omega), if_neg htotal, if_neg htotal, hrest, hbody, hlen,
    take_append_of_le_length (le_refl _), take_length]
  split <;> rfl

/-! ## The frames of a stream -/

/-- A well-formed frame of a message type this version does not know. -/
structure UnknownFrame where
  header : FrameHeader
  payload : List UInt8
  magic : header.magic = FRAME_MAGIC
  len : header.payloadLen.toNat = payload.length
  fits : payload.length ≤ MAX_PAYLOAD
  unknown : MsgType.fromU16 header.msgType = none

/-- One frame put on the wire: a message with its compression flag, or a frame of an unknown type. -/
inductive WireItem (Fields : MsgType → Type) where
  | message (seq : UInt32) (pdu : MuxPdu Fields) (compress : Bool)
  | unknown (frame : UnknownFrame)

namespace WireItem

/-- The encoding of the message fits the payload limit. -/
def Fits (C : Coders Fields) : WireItem Fields → Prop
  | .message _ pdu _ => ∃ payload, C.serialize pdu = .ok payload ∧ payload.length ≤ MAX_PAYLOAD
  | .unknown _ => True

/-- Append the item's frame to an outgoing buffer. -/
def writeTo (C : Coders Fields) (buf : List UInt8) : WireItem Fields → Except String (List UInt8)
  | .message seq pdu compress => encodeIntoBuf C buf seq pdu compress
  | .unknown frame => .ok (buf ++ frame.header.encode ++ frame.payload)

/-- What a reader makes of the item. -/
def outcome : WireItem Fields → Except DecodeError (DecodedFrame Fields)
  | .message seq pdu _ => .ok { seq, pdu }
  | .unknown frame => .error (.unknownMsgType frame.header.msgType)

/-- The message the item carries, if this version knows it. -/
def sent : WireItem Fields → Option (DecodedFrame Fields)
  | .message seq pdu _ => some { seq, pdu }
  | .unknown _ => none

end WireItem

/-- Write the items one after the other to an empty buffer. -/
def writeStream (C : Coders Fields) (items : List (WireItem Fields)) : Except String (List UInt8) :=
  items.foldlM (WireItem.writeTo C) []

/-! ### The encoder -/

section

variable {C : Coders Fields} (hC : C.RoundTrip)
include hC

/-- The wire payload decodes to what was serialized, and is not longer. -/
theorem Coders.RoundTrip.wirePayload (payload : List UInt8) (compress : Bool) :
    (C.wirePayload payload compress).1.length ≤ payload.length ∧
      (if (C.wirePayload payload compress).2 &&& FLAG_COMPRESSED ≠ 0
        then C.decodeAll (C.wirePayload payload compress).1
        else .ok (C.wirePayload payload compress).1) = .ok payload := by
  have hplain : (if (0 : UInt8) &&& FLAG_COMPRESSED ≠ 0 then C.decodeAll payload else .ok payload) =
      .ok payload := if_neg (by decide)
  unfold Coders.wirePayload
  split
  · cases hz : C.encodeAll payload with
    | error e => exact ⟨le_refl _, hplain⟩
    | ok compressed =>
      dsimp only
      split
      · rename_i hlt
        have hflag : FLAG_COMPRESSED &&& FLAG_COMPRESSED ≠ 0 := by decide
        exact ⟨Nat.le_of_lt hlt, (if_pos hflag).trans (hC.zstd hz)⟩
      · exact ⟨le_refl _, hplain⟩
  · exact ⟨le_refl _, hplain⟩

/-- **An item that fits is written, and read back off the front of whatever follows.** -/
theorem WireItem.writeTo_decode {item : WireItem Fields} (hfit : item.Fits C) :
    ∃ bytes, (∀ buf, item.writeTo C buf = .ok (buf ++ bytes)) ∧
      ∀ more, tryDecodeFromBuf C (bytes ++ more) = some (item.outcome, more) := by
  cases item with
  | unknown frame =>
    refine ⟨frame.header.encode ++ frame.payload, fun buf => ?_, fun more => ?_⟩
    · simp [WireItem.writeTo]
    · rw [tryDecodeFromBuf_frame C frame.magic frame.len frame.fits, frame.unknown]
      rfl
  | message seq pdu compress =>
    obtain ⟨payload, hser, hmax⟩ := hfit
    obtain ⟨hle, hback⟩ := hC.wirePayload payload compress
    have hmax32 : MAX_PAYLOAD < 2 ^ 32 := by decide
    generalize hw : C.wirePayload payload compress = wire at hle hback
    obtain ⟨wirePayload, flags⟩ := wire
    dsimp only at hle hback
    let header : FrameHeader :=
      { magic := FRAME_MAGIC, version := PROTOCOL_VERSION, flags, msgType := pdu.msgType.toU16, seq,
        payloadLen := UInt32.ofNat wirePayload.length }
    have hlen : header.payloadLen.toNat = wirePayload.length := by
      rw [UInt32.toNat_ofNat_of_lt' (by show _ < 2 ^ 32; omega)]
    refine ⟨header.encode ++ wirePayload, fun buf => ?_, fun more => ?_⟩
    · simp only [WireItem.writeTo, encodeIntoBuf, hser, hw, bind, Except.bind]
      rw [if_neg (by omega), if_neg (by omega), if_neg (by omega), ← append_assoc]
      rfl
    · rw [tryDecodeFromBuf_frame C rfl hlen (by omega)]
      have hknown : (MsgType.fromU16 header.msgType).isNone = false := by
        rw [MsgType.fromU16_toU16]
        rfl
      rw [hknown]
      show some (match (if flags &&& FLAG_COMPRESSED ≠ 0 then C.decodeAll wirePayload else .ok wirePayload) with
        | .error e => _ | .ok bytes => _, more) = _
      rw [hback]
      simp only [hC.bincode hser]
      rfl

/-- **What is written can be read**: items that fit are written, and the stream drains to their outcomes with
    nothing left over. -/
theorem writeStream_drain {items : List (WireItem Fields)} (hfit : ∀ item ∈ items, item.Fits C) :
    ∃ bytes, writeStream C items = .ok bytes ∧
      C.framing.drain bytes = (items.map WireItem.outcome, []) := by
  have hwrite : ∀ items : List (WireItem Fields), (∀ item ∈ items, item.Fits C) → ∀ buf,
      ∃ bytes, items.foldlM (WireItem.writeTo C) buf = .ok (buf ++ bytes) ∧
        C.framing.drain bytes = (items.map WireItem.outcome, []) := by
    intro items
    induction items with
    | nil => exact fun _ buf => ⟨[], by simp; rfl, Framing.drain_nil⟩
    | cons item items ih =>
      intro hfit buf
      obtain ⟨first, hfirst, hdecode⟩ := item.writeTo_decode hC (hfit item mem_cons_self)
      obtain ⟨rest, hrest, hdrain⟩ := ih (fun i hi => hfit i (mem_cons_of_mem _ hi)) (buf ++ first)
      refine ⟨first ++ rest, ?_, ?_⟩
      · rw [foldlM_cons, hfirst, ← append_assoc]
        exact hrest
      · rw [Framing.drain_of_some (hdecode rest), hdrain]
        rfl
  obtain ⟨bytes, hbytes, hdrain⟩ := hwrite items hfit []
  exact ⟨bytes, hbytes, hdrain⟩

end

/-! ## The readers -/

/-- Accumulates bytes from a non-blocking stream and decodes frames. -/
structure FrameReader where
  buf : List UInt8
  deriving DecidableEq

namespace FrameReader

/-- Create a new empty reader. -/
def new : FrameReader := ⟨[]⟩

/-- Append raw bytes to the internal buffer. -/
def extend (r : FrameReader) (data : List UInt8) : FrameReader := ⟨r.buf ++ data⟩

/-- Try to decode one complete frame from the buffer. -/
def tryDecode (C : Coders Fields) (r : FrameReader) : Option (Except DecodeError (DecodedFrame Fields)) × FrameReader :=
  match tryDecodeFromBuf C r.buf with
  | none => (none, r)
  | some (result, rest) => (some result, ⟨rest⟩)

/-- Call `tryDecode` in a loop until it returns `None`, as after each read; every frame takes a byte. -/
def decodeLoop (C : Coders Fields) : Nat → FrameReader → List (Except DecodeError (DecodedFrame Fields)) × FrameReader
  | 0, r => ([], r)
  | n + 1, r =>
    match r.tryDecode C with
    | (none, r) => ([], r)
    | (some result, r) => let (results, r) := decodeLoop C n r; (result :: results, r)

/-- Read the chunks one after the other, decoding all complete frames after each. -/
def readChunks (C : Coders Fields) (r : FrameReader) :
    List (List UInt8) → List (Except DecodeError (DecodedFrame Fields)) × FrameReader
  | [] => ([], r)
  | chunk :: chunks =>
    let r := r.extend chunk
    let (results, r) := r.decodeLoop C r.buf.length
    let (results', r) := readChunks C r chunks
    (results ++ results', r)

theorem decodeLoop_eq (C : Coders Fields) (n : Nat) (buf : List UInt8) :
    decodeLoop C n ⟨buf⟩ = ((C.framing.drainFuel n buf).1, ⟨(C.framing.drainFuel n buf).2⟩) := by
  induction n generalizing buf with
  | zero => rfl
  | succ n ih =>
    have hnext : C.framing.next buf = tryDecodeFromBuf C buf := rfl
    simp only [decodeLoop, tryDecode, Framing.drainFuel, hnext]
    rcases tryDecodeFromBuf C buf with _ | ⟨result, rest⟩
    · rfl
    · simp [ih]

/-- The reader is the wire's framing, run over the chunks. -/
theorem readChunks_eq (C : Coders Fields) (buf : List UInt8) (chunks : List (List UInt8)) :
    readChunks C ⟨buf⟩ chunks = ((C.framing.run buf chunks).1, ⟨(C.framing.run buf chunks).2⟩) := by
  induction chunks generalizing buf with
  | nil => rfl
  | cons chunk chunks ih =>
    simp [readChunks, extend, decodeLoop_eq, ih, Framing.run, Framing.feed, Framing.drain]

end FrameReader

/-- What one blocking `read` returns: bytes (none at the end of the stream), or an error. -/
inductive ReadResult where
  | data (bytes : List UInt8)
  | wouldBlock
  | timedOut
  | failed (text : String)
  deriving DecidableEq, Repr

/-- Codec for decoding framed messages from a blocking stream. -/
structure ProtocolCodec where
  buf : List UInt8
  deriving DecidableEq

namespace ProtocolCodec

/-- Create a new codec with an empty decode buffer. -/
def new : ProtocolCodec := ⟨[]⟩

/-- The read loop of `decodeFrame`: read until a frame is complete. A stream with no more reads is at its
    end. -/
def readLoop (C : Coders Fields) (buf : List UInt8) :
    List ReadResult → Except DecodeError (DecodedFrame Fields) × ProtocolCodec × List ReadResult
  | [] => (.error (.io .unexpectedEof), ⟨buf⟩, [])
  | .data [] :: reads => (.error (.io .unexpectedEof), ⟨buf⟩, reads)
  | .data (b :: bs) :: reads =>
    match tryDecodeFromBuf C (buf ++ b :: bs) with
    | some (result, rest) => (result, ⟨rest⟩, reads)
    | none => readLoop C (buf ++ b :: bs) reads
  | .wouldBlock :: reads => (.error (.io .wouldBlock), ⟨buf⟩, reads)
  | .timedOut :: reads => (.error (.io .wouldBlock), ⟨buf⟩, reads)
  | .failed text :: reads => (.error (.io (.other text)), ⟨buf⟩, reads)

/-- Decode a single framed message: from the buffer if a frame is complete, else from the stream. -/
def decodeFrame (C : Coders Fields) (codec : ProtocolCodec) (reads : List ReadResult) :
    Except DecodeError (DecodedFrame Fields) × ProtocolCodec × List ReadResult :=
  match tryDecodeFromBuf C codec.buf with
  | some (result, rest) => (result, ⟨rest⟩, reads)
  | none => readLoop C codec.buf reads

/-- `n` calls of `decodeFrame`. -/
def decodeFrames (C : Coders Fields) : Nat → ProtocolCodec → List ReadResult →
    List (Except DecodeError (DecodedFrame Fields)) × ProtocolCodec × List ReadResult
  | 0, codec, reads => ([], codec, reads)
  | n + 1, codec, reads =>
    let (result, codec, reads) := codec.decodeFrame C reads
    let (results, codec, reads) := decodeFrames C n codec reads
    (result :: results, codec, reads)

/-- One call returns the first frame of the stream that is still to come, wherever it is cut. -/
theorem decodeFrame_next (C : Coders Fields) {chunks : List (List UInt8)} (hne : ∀ c ∈ chunks, c ≠ [])
    {buf rest : List UInt8} {result : Except DecodeError (DecodedFrame Fields)}
    (h : tryDecodeFromBuf C (buf ++ chunks.flatten) = some (result, rest)) :
    ∃ (buf' : List UInt8) (chunks' : List (List UInt8)), (∀ c ∈ chunks', c ≠ []) ∧
      buf' ++ chunks'.flatten = rest ∧
      decodeFrame C ⟨buf⟩ (chunks.map .data) = (result, ⟨buf'⟩, chunks'.map .data) := by
  rcases hfast : tryDecodeFromBuf C buf with _ | ⟨result', rest'⟩
  · -- the read loop, by induction on the chunks to come
    have hloop : ∃ (buf' : List UInt8) (chunks' : List (List UInt8)), (∀ c ∈ chunks', c ≠ []) ∧
        buf' ++ chunks'.flatten = rest ∧
        readLoop C buf (chunks.map .data) = (result, ⟨buf'⟩, chunks'.map .data) := by
      induction chunks generalizing buf with
      | nil =>
        rw [flatten_nil, append_nil, hfast] at h
        exact absurd h (by simp)
      | cons chunk chunks ih =>
        obtain ⟨b, bs, rfl⟩ := exists_cons_of_ne_nil (hne chunk mem_cons_self)
        have hne' := fun c hc => hne c (mem_cons_of_mem _ hc)
        rw [flatten_cons, ← append_assoc] at h
        simp only [map_cons, readLoop]
        rcases hnext : tryDecodeFromBuf C (buf ++ b :: bs) with _ | ⟨result', rest'⟩
        · exact ih hne' h hnext
        · rw [tryDecodeFromBuf_append C hnext] at h
          simp only [some.injEq, Prod.mk.injEq] at h
          exact ⟨rest', chunks, hne', h.2, by rw [← h.1]⟩
    obtain ⟨buf', chunks', hne', hrest, hrun⟩ := hloop
    exact ⟨buf', chunks', hne', hrest, by simp only [decodeFrame, hfast]; exact hrun⟩
  · rw [tryDecodeFromBuf_append C hfast] at h
    simp only [some.injEq, Prod.mk.injEq] at h
    exact ⟨rest', chunks, hne, h.2, by simp only [decodeFrame, hfast, h.1]⟩

/-- As many calls as the stream has frames return all of them, and leave nothing. -/
theorem decodeFrames_drain (C : Coders Fields) {results : List (Except DecodeError (DecodedFrame Fields))}
    {chunks : List (List UInt8)} (hne : ∀ c ∈ chunks, c ≠ []) {buf : List UInt8}
    (h : C.framing.drain (buf ++ chunks.flatten) = (results, [])) :
    decodeFrames C results.length ⟨buf⟩ (chunks.map .data) = (results, ⟨[]⟩, []) := by
  induction results generalizing buf chunks with
  | nil =>
    rcases hnext : C.framing.next (buf ++ chunks.flatten) with _ | ⟨result, rest⟩
    · rw [Framing.drain_of_none hnext] at h
      simp only [Prod.mk.injEq, append_eq_nil_iff, true_and] at h
      obtain ⟨rfl, hchunks⟩ := h
      cases chunks with
      | nil => rfl
      | cons chunk chunks =>
        simp only [flatten_cons, append_eq_nil_iff] at hchunks
        exact absurd hchunks.1 (hne chunk mem_cons_self)
    · rw [Framing.drain_of_some hnext] at h
      simp at h
  | cons result results ih =>
    rcases hnext : C.framing.next (buf ++ chunks.flatten) with _ | ⟨result', rest⟩
    · rw [Framing.drain_of_none hnext] at h
      simp at h
    · rw [Framing.drain_of_some hnext] at h
      simp only [Prod.mk.injEq, List.cons.injEq] at h
      obtain ⟨⟨rfl, hres⟩, hleft⟩ := h
      obtain ⟨buf', chunks', hne', rfl, hcall⟩ := decodeFrame_next C hne hnext
      have hrest := ih hne' (Prod.ext hres hleft)
      simp [decodeFrames, hcall, hrest]

end ProtocolCodec

/-- **The wire round-trips over streams.** Any messages that fit the payload limit, with any choice of
    compression and with frames of unknown types anywhere among them, are written; and however the bytes are
    cut into reads, both readers return the outcome of each item in order, with no residue. So the messages
    read are the messages sent, whatever unknown frames stand between them. -/
theorem wire_round_trip {C : Coders Fields} (hC : C.RoundTrip) (items : List (WireItem Fields))
    (hfit : ∀ item ∈ items, item.Fits C) :
    ∃ bytes, writeStream C items = .ok bytes ∧ ∀ chunks : List (List UInt8), chunks.flatten = bytes →
      FrameReader.new.readChunks C chunks = (items.map WireItem.outcome, FrameReader.new) ∧
      (FrameReader.new.readChunks C chunks).1.filterMap Except.toOption = items.filterMap WireItem.sent ∧
      ((∀ c ∈ chunks, c ≠ []) →
        ProtocolCodec.new.decodeFrames C items.length (chunks.map .data) =
          (items.map WireItem.outcome, ProtocolCodec.new, [])) := by
  obtain ⟨bytes, hwrite, hdrain⟩ := writeStream_drain hC hfit
  refine ⟨bytes, hwrite, fun chunks hchunks => ?_⟩
  have hread : FrameReader.new.readChunks C chunks = (items.map WireItem.outcome, FrameReader.new) := by
    show FrameReader.readChunks C ⟨[]⟩ chunks = _
    rw [FrameReader.readChunks_eq, Framing.run_flatten Framing.next_nil, nil_append, hchunks, hdrain]
    rfl
  refine ⟨hread, ?_, fun hne => ?_⟩
  · have hsent : ∀ item : WireItem Fields, item.outcome.toOption = item.sent := by
      rintro (_ | _)
      · rfl
      · rfl
    rw [hread, filterMap_map]
    exact filterMap_congr fun item _ => hsent item
  · have hframes := @ProtocolCodec.decodeFrames_drain _ C (items.map WireItem.outcome) _ hne []
      (by rw [nil_append, hchunks, hdrain])
    rw [length_map] at hframes
    exact hframes

/-- The fields of a `Ping`, the only variant the sample coders know. -/
def PingFields : MsgType → Type
  | .ping => Unit
  | _ => Empty

/-- bincode's four-byte variant index of `Ping`, and nothing worth compressing. -/
def pingCoders : Coders PingFields where
  serialize _ := .ok [8, 0, 0, 0]
  deserialize bytes := if bytes = [8, 0, 0, 0] then .ok ⟨.ping, ()⟩ else .error "tag for enum is not valid"
  encodeAll _ := .error "not called"
  decodeAll _ := .error "not called"

theorem pingCoders_roundTrip : pingCoders.RoundTrip where
  bincode := by
    rintro ⟨type, fields⟩ bytes h
    obtain rfl : [8, 0, 0, 0] = bytes := Except.ok.inj h
    cases type <;> first | exact fields.elim | rfl
  zstd h := nomatch h

/-- A frame of type `0x7F00` with one byte of payload. -/
def unknownSample : UnknownFrame where
  header := { magic := FRAME_MAGIC, version := 9, flags := 0, msgType := 0x7F00, seq := 3, payloadLen := 1 }
  payload := [42]
  magic := rfl
  len := rfl
  fits := by decide
  unknown := rfl

theorem wire_round_trip_pings :
    ∃ bytes, writeStream pingCoders
        [.message 1 ⟨.ping, ()⟩ true, .unknown unknownSample, .message 2 ⟨.ping, ()⟩ false] = .ok bytes ∧
      (FrameReader.new.readChunks pingCoders [bytes.take 20, bytes.drop 20]).1.filterMap Except.toOption =
        [⟨1, ⟨.ping, ()⟩⟩, ⟨2, ⟨.ping, ()⟩⟩] := by
  have hfit : ∀ item ∈ ([.message 1 ⟨.ping, ()⟩ true, .unknown unknownSample, .message 2 ⟨.ping, ()⟩ false] :
      List (WireItem PingFields)), item.Fits pingCoders := by
    intro item hitem
    have hping : ∀ seq compress, (WireItem.message seq ⟨.ping, ()⟩ compress).Fits pingCoders :=
      fun _ _ => ⟨[8, 0, 0, 0], rfl, by decide⟩
    simp only [mem_cons, not_mem_nil, or_false] at hitem
    rcases hitem with rfl | rfl | rfl
    · exact hping 1 true
    · trivial
    · exact hping 2 false
  obtain ⟨bytes, hwrite, hread⟩ := wire_round_trip pingCoders_roundTrip _ hfit
  refine ⟨bytes, hwrite, ?_⟩
  exact (hread [bytes.take 20, bytes.drop 20] (by simp)).2.1

end OriTerm
