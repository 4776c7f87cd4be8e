import OriTerm.Mux.Clients

/-!
# `Mux.DecodeSound` — what the frame decoder cross-checks

`FrameHeader.decode` leaves magic and version to its callers, and zstd and bincode look at nothing but the
payload. So a decoded message is only as sound as the checks of `tryDecodeFromBuf`: it compares the magic and
the payload length, and that the message type is known; not the version, not how much the payload
decompresses to, and not that the message is of the type the header names. `Supported` is what a decoded
frame should satisfy, `CrossChecked` is what the input must satisfy on its own for that.

A decode error the server survives should leave the reader at the next frame (`AtNextFrame`). The one that
does not is a wrong magic: only the header is dropped, so the payload announced by it is read as a header.

Both readers answer what `tryDecodeFromBuf` answers, so the results are about the two of them
(`decodersSound_iff`).
-/

namespace OriTerm

open List Option

variable {Fields : MsgType → Type}

variable (C : Coders Fields) (buf : List UInt8)

/-! ## The parts of a frame -/

/-- The header at the front of the buffer. -/
def headerOf : FrameHeader := FrameHeader.decode (buf.take HEADER_LEN)

/-- The payload on the wire behind the header. -/
def rawPayloadOf : List UInt8 :=
  (buf.drop HEADER_LEN).take (headerOf buf).payloadLen.toNat

/-- Where the frame at the front of the buffer ends. -/
def frameEnd : Nat := HEADER_LEN + (headerOf buf).payloadLen.toNat

/-- The payload bincode gets to see: decompressed when the flag says so. -/
def Coders.payloadBytes : Except String (List UInt8) :=
  if (headerOf buf).flags &&& FLAG_COMPRESSED ≠ 0 then C.decodeAll (rawPayloadOf buf)
  else .ok (rawPayloadOf buf)

/-- Whether the stream ended or paused before a frame was complete. -/
def DecodeError.isIncomplete : DecodeError → Bool
  | .io .unexpectedEof => true
  | .io .wouldBlock => true
  | _ => false

/-! ## Soundness -/

/-- A frame decoded off the buffer is one this end supports: every field of the header has been checked, and
    against the message. -/
structure Supported (C : Coders Fields) (buf : List UInt8) (frame : DecodedFrame Fields) : Prop where
  magic : (headerOf buf).magic = FRAME_MAGIC
  version : (headerOf buf).version = PROTOCOL_VERSION
  payload : (headerOf buf).payloadLen.toNat ≤ MAX_PAYLOAD
  decompressed : (headerOf buf).flags &&& FLAG_COMPRESSED ≠ 0 →
    ∀ bytes, C.decodeAll (rawPayloadOf buf) = .ok bytes → bytes.length ≤ MAX_PAYLOAD
  kind : MsgType.fromU16 (headerOf buf).msgType = some frame.pdu.msgType

/-- What is left of the buffer starts where the next frame does. -/
def AtNextFrame (buf left : List UInt8) : Prop := frameEnd buf ≤ buf.length ∧ left = buf.drop (frameEnd buf)

/-- An answer of a decoder, with the bytes it leaves, is sound: a message is supported, and the reader is at
    the next frame after it and after every error of the frame that is not fatal. -/
def SoundAnswer :
    Except DecodeError (DecodedFrame Fields) → List UInt8 → Prop
  | .ok frame, left => Supported C buf frame ∧ AtNextFrame buf left
  | .error e, left => Client.isFatalDecodeError e = false → e.isIncomplete = false → AtNextFrame buf left

/-- The shared decoder is sound on the buffer. No answer yet is always sound. -/
def DecoderSound : Prop :=
  ∀ result left, tryDecodeFromBuf C buf = some (result, left) → SoundAnswer C buf result left

/-- What the decoder takes on trust: that a header without the magic announces no payload, and that a payload
    it can deserialize has this end's version, a decompressed size within the limit, and the message its
    header names. -/
structure CrossChecked (C : Coders Fields) (buf : List UInt8) : Prop where
  noMagic : HEADER_LEN ≤ buf.length → (headerOf buf).magic ≠ FRAME_MAGIC → (headerOf buf).payloadLen = 0
  message : (headerOf buf).magic = FRAME_MAGIC → (headerOf buf).payloadLen.toNat ≤ MAX_PAYLOAD →
    (MsgType.fromU16 (headerOf buf).msgType).isSome → frameEnd buf ≤ buf.length →
    ∀ bytes pdu, C.payloadBytes buf = .ok bytes → C.deserialize bytes = .ok pdu →
      (headerOf buf).version = PROTOCOL_VERSION ∧
      ((headerOf buf).flags &&& FLAG_COMPRESSED ≠ 0 → bytes.length ≤ MAX_PAYLOAD) ∧
      MsgType.fromU16 (headerOf buf).msgType = some pdu.msgType

/-! ## The decoder, case by case -/

theorem decodePayload_eq :
    C.decodePayload (headerOf buf) (rawPayloadOf buf) =
      match C.payloadBytes buf with
      | .error e => .error (.io (.other e))
      | .ok bytes =>
        match C.deserialize bytes with
        | .ok pdu => .ok ⟨(headerOf buf).seq, pdu⟩
        | .error e => .error (.deserialize e) := rfl

/-- The payload is decompressed and deserialized, and either can fail. -/
theorem decodePayload_cases :
    (∃ text, C.decodePayload (headerOf buf) (rawPayloadOf buf) = .error (.io (.other text)) ∧
      C.payloadBytes buf = .error text) ∨
    (∃ bytes text, C.decodePayload (headerOf buf) (rawPayloadOf buf) = .error (.deserialize text) ∧
      C.payloadBytes buf = .ok bytes ∧ C.deserialize bytes = .error text) ∨
    (∃ bytes pdu, C.decodePayload (headerOf buf) (rawPayloadOf buf) = .ok ⟨(headerOf buf).seq, pdu⟩ ∧
      C.payloadBytes buf = .ok bytes ∧ C.deserialize bytes = .ok pdu) := by
  rw [decodePayload_eq]
  cases hbytes : C.payloadBytes buf with
  | error text => exact .inl ⟨text, rfl, rfl⟩
  | ok bytes =>
    cases hpdu : C.deserialize bytes with
    | error text => exact .inr (.inl ⟨bytes, text, by simp only [hpdu], rfl, hpdu⟩)
    | ok pdu => exact .inr (.inr ⟨bytes, pdu, by simp only [hpdu], rfl, hpdu⟩)

/-- The decoder on a buffer that holds a header. -/
theorem tryDecodeFromBuf_header {buf : List UInt8} (hlen : HEADER_LEN ≤ buf.length) :
    tryDecodeFromBuf C buf =
      if (headerOf buf).magic ≠ FRAME_MAGIC then
        some (.error (.badMagic (headerOf buf).magic), buf.drop HEADER_LEN)
      else if MAX_PAYLOAD < (headerOf buf).payloadLen.toNat then
        some (.error (.payloadTooLarge (headerOf buf).payloadLen), buf.drop HEADER_LEN)
      else if buf.length < frameEnd buf then none
      else if (MsgType.fromU16 (headerOf buf).msgType).isNone then
        some (.error (.unknownMsgType (headerOf buf).msgType), buf.drop (frameEnd buf))
      else some (C.decodePayload (headerOf buf) (rawPayloadOf buf), buf.drop (frameEnd buf)) := by
  unfold tryDecodeFromBuf
  rw [if_neg (by omega)]
  show (if (headerOf buf).magic ≠ FRAME_MAGIC then _ else if MAX_PAYLOAD < (headerOf buf).payloadLen.toNat then _
    else if (MsgType.fromU16 (headerOf buf).msgType).isNone then
      (if buf.length < frameEnd buf then none else _)
    else if buf.length < frameEnd buf then none else _) = _
  by_cases hwait : buf.length < frameEnd buf
  · simp only [if_pos hwait, ite_self]
    rfl
  · simp only [if_neg hwait]
    rfl

/-- The answers of the decoder: a header it drops on its own, or a whole frame it consumes. -/
theorem tryDecodeFromBuf_cases {C : Coders Fields} {buf left : List UInt8}
    {result : Except DecodeError (DecodedFrame Fields)} (h : tryDecodeFromBuf C buf = some (result, left)) :
    HEADER_LEN ≤ buf.length ∧
    ((headerOf buf).magic ≠ FRAME_MAGIC ∧ result = .error (.badMagic (headerOf buf).magic) ∧
        left = buf.drop HEADER_LEN ∨
      (∃ len, result = .error (.payloadTooLarge len)) ∨
      AtNextFrame buf left ∧ (∃ msgType, result = .error (.unknownMsgType msgType)) ∨
      (headerOf buf).magic = FRAME_MAGIC ∧ (headerOf buf).payloadLen.toNat ≤ MAX_PAYLOAD ∧
        (MsgType.fromU16 (headerOf buf).msgType).isSome ∧ AtNextFrame buf left ∧
        result = C.decodePayload (headerOf buf) (rawPayloadOf buf)) := by
  by_cases hlen : HEADER_LEN ≤ buf.length
  swap
  · unfold tryDecodeFromBuf at h
    simp [show buf.length < HEADER_LEN by omega] at h
  refine ⟨hlen, ?_⟩
  rw [tryDecodeFromBuf_header C hlen] at h
  split at h
  · rename_i hmagic
    obtain ⟨rfl, rfl⟩ := Prod.mk.inj (some.inj h)
    exact .inl ⟨hmagic, rfl, rfl⟩
  rename_i hmagic
  split at h
  · obtain ⟨rfl, rfl⟩ := Prod.mk.inj (some.inj h)
    exact .inr (.inl ⟨_, rfl⟩)
  rename_i hlarge
  split at h
  · cases h
  rename_i hwhole
  have hend : frameEnd buf ≤ buf.length := by omega
  split at h
  · obtain ⟨rfl, rfl⟩ := Prod.mk.inj (some.inj h)
    exact .inr (.inr (.inl ⟨⟨hend, rfl⟩, _, rfl⟩))
  · rename_i hknown
    obtain ⟨rfl, rfl⟩ := Prod.mk.inj (some.inj h)
    refine .inr (.inr (.inr ⟨by simpa using hmagic, by omega, ?_, ⟨hend, rfl⟩, rfl⟩))
    simpa [isSome_iff_ne_none] using hknown

/-! ## Both readers -/

/-- The bytes of the reads still to come. -/
def bytesOf (reads : List ReadResult) : List UInt8 :=
  reads.flatMap fun | .data bytes => bytes | _ => []

/-- The server's reader is sound on the buffer. -/
def FrameReader.Sound (r : FrameReader) : Prop :=
  ∀ result r', r.tryDecode C = (some result, r') → SoundAnswer C r.buf result r'.buf

/-- A call of the client's codec is sound on a stream: what it leaves is in its buffer and in the stream. -/
def ProtocolCodec.Sound (chunks : List (List UInt8)) : Prop :=
  ∀ result codec reads, ProtocolCodec.new.decodeFrame C (chunks.map .data) = (result, codec, reads) →
    SoundAnswer C chunks.flatten result (codec.buf ++ bytesOf reads)

theorem bytesOf_data (chunks : List (List UInt8)) : bytesOf (chunks.map .data) = chunks.flatten := by
  unfold bytesOf
  induction chunks with
  | nil => rfl
  | cons chunk chunks ih => rw [map_cons, flatMap_cons, ih, flatten_cons]

/-- The server's reader is sound when the shared decoder is. -/
theorem FrameReader.sound_iff (r : FrameReader) : r.Sound C ↔ DecoderSound C r.buf := by
  unfold FrameReader.Sound DecoderSound FrameReader.tryDecode
  constructor
  · intro h result left hnext
    rw [hnext] at h
    exact h result ⟨left⟩ rfl
  · intro h result r' hnext
    cases hbuf : tryDecodeFromBuf C r.buf with
    | none => simp [hbuf] at hnext
    | some answer =>
      obtain ⟨result', left⟩ := answer
      rw [hbuf] at hnext
      obtain ⟨hresult, rfl⟩ := Prod.mk.inj hnext
      obtain rfl := some.inj hresult
      exact h result' left hbuf

/-- A stream that ends before a frame is complete is reported as its end. -/
theorem ProtocolCodec.readLoop_incomplete {chunks : List (List UInt8)} :
    ∀ {buf : List UInt8}, tryDecodeFromBuf C (buf ++ chunks.flatten) = none →
      (ProtocolCodec.readLoop C buf (chunks.map .data)).1 = .error (.io .unexpectedEof) := by
  induction chunks with
  | nil => exact fun _ => rfl
  | cons chunk chunks ih =>
    intro buf h
    cases chunk with
    | nil => rfl
    | cons b bs =>
      rw [flatten_cons, ← append_assoc] at h
      simp only [map_cons, ProtocolCodec.readLoop]
      cases hnext : tryDecodeFromBuf C (buf ++ b :: bs) with
      | none => exact ih h
      | some answer =>
        rw [tryDecodeFromBuf_append C hnext] at h
        cases h

/-- The client's codec is sound when the shared decoder is, wherever the stream is cut. -/
theorem ProtocolCodec.sound_iff {chunks : List (List UInt8)} (hne : ∀ c ∈ chunks, c ≠ []) :
    ProtocolCodec.Sound C chunks ↔ DecoderSound C chunks.flatten := by
  unfold ProtocolCodec.Sound DecoderSound
  cases hstream : tryDecodeFromBuf C chunks.flatten with
  | none =>
    -- no frame is complete, so the codec reports the end of the stream
    have hcall : (ProtocolCodec.new.decodeFrame C (chunks.map .data)).1 = .error (.io .unexpectedEof) := by
      exact ProtocolCodec.readLoop_incomplete C hstream
    constructor
    · intro _ result left hsome
      cases hsome
    · intro _ result codec reads hcalled
      rw [hcalled] at hcall
      obtain rfl : result = _ := hcall
      intro _ hincomplete
      cases hincomplete
  | some answer =>
    obtain ⟨result, left⟩ := answer
    obtain ⟨buf', chunks', -, hleft, hcall⟩ := @ProtocolCodec.decodeFrame_next _ C chunks hne [] left result hstream
    have hbytes : buf' ++ bytesOf (chunks'.map .data) = left := by rw [bytesOf_data, hleft]
    constructor
    · intro h result' left' hsome
      obtain ⟨rfl, rfl⟩ := Prod.mk.inj (some.inj hsome)
      have := h result ⟨buf'⟩ (chunks'.map .data) hcall
      rwa [hbytes] at this
    · intro h result' codec reads hcalled
      rw [show ProtocolCodec.new = ⟨[]⟩ from rfl, hcall] at hcalled
      obtain ⟨rfl, hrest⟩ := Prod.mk.inj hcalled
      obtain ⟨rfl, rfl⟩ := Prod.mk.inj hrest
      rw [hbytes]
      exact h result left rfl

/-! ## When the decoder is sound -/

/-- A frame the decoder accepts is supported when its input is cross-checked, and only then. -/
theorem supported_iff {C : Coders Fields} {buf bytes : List UInt8} {pdu : MuxPdu Fields}
    (hmagic : (headerOf buf).magic = FRAME_MAGIC) (hlen : (headerOf buf).payloadLen.toNat ≤ MAX_PAYLOAD)
    (hbytes : C.payloadBytes buf = .ok bytes) :
    Supported C buf ⟨(headerOf buf).seq, pdu⟩ ↔
      (headerOf buf).version = PROTOCOL_VERSION ∧
      ((headerOf buf).flags &&& FLAG_COMPRESSED ≠ 0 → bytes.length ≤ MAX_PAYLOAD) ∧
      MsgType.fromU16 (headerOf buf).msgType = some pdu.msgType := by
  have hpacked : (headerOf buf).flags &&& FLAG_COMPRESSED ≠ 0 → C.decodeAll (rawPayloadOf buf) = .ok bytes := by
    intro hflag
    rw [Coders.payloadBytes, if_pos hflag] at hbytes
    exact hbytes
  constructor
  · intro h
    exact ⟨h.version, fun hflag => h.decompressed hflag bytes (hpacked hflag), h.kind⟩
  · rintro ⟨hversion, hsize, hkind⟩
    refine ⟨hmagic, hversion, hlen, fun hflag bytes' hbytes' => ?_, hkind⟩
    rw [hpacked hflag] at hbytes'
    obtain rfl := Except.ok.inj hbytes'
    exact hsize hflag

/-- Dropping a header on its own leaves the reader at the next frame when no payload is announced. -/
theorem atNextFrame_header {buf : List UInt8} (hlen : HEADER_LEN ≤ buf.length) :
    AtNextFrame buf (buf.drop HEADER_LEN) ↔ (headerOf buf).payloadLen = 0 := by
  unfold AtNextFrame frameEnd
  constructor
  · rintro ⟨hend, hdrop⟩
    have hlength := congrArg List.length hdrop
    rw [length_drop, length_drop] at hlength
    apply UInt32.toNat_inj.mp
    show _ = 0
    omega
  · intro h
    rw [h]
    exact ⟨hlen, rfl⟩

/-- The shared decoder is sound exactly on cross-checked input. -/
theorem decoderSound_iff : DecoderSound C buf ↔ CrossChecked C buf := by
  constructor
  · intro h
    refine ⟨fun hlen hmagic => ?_, fun hmagic hmax hknown hend bytes pdu hbytes hpdu => ?_⟩
    · have hnext : tryDecodeFromBuf C buf = some (.error (.badMagic (headerOf buf).magic), buf.drop HEADER_LEN) := by
        rw [tryDecodeFromBuf_header C hlen, if_pos hmagic]
      exact (atNextFrame_header hlen).mp (h _ _ hnext rfl rfl)
    · have hlen : HEADER_LEN ≤ buf.length := by unfold frameEnd at hend; omega
      have hpayload : C.decodePayload (headerOf buf) (rawPayloadOf buf) = .ok ⟨(headerOf buf).seq, pdu⟩ := by
        rcases decodePayload_cases C buf with ⟨text, -, hb⟩ | ⟨bytes', text, -, hb, hp⟩ | ⟨bytes', pdu', hd, hb, hp⟩
        · rw [hb] at hbytes
          cases hbytes
        · rw [hb] at hbytes
          obtain rfl := Except.ok.inj hbytes
          rw [hp] at hpdu
          cases hpdu
        · rw [hb] at hbytes
          obtain rfl := Except.ok.inj hbytes
          rw [hp] at hpdu
          obtain rfl := Except.ok.inj hpdu
          exact hd
      have hnext : tryDecodeFromBuf C buf = some (.ok ⟨(headerOf buf).seq, pdu⟩, buf.drop (frameEnd buf)) := by
        rw [tryDecodeFromBuf_header C hlen, if_neg (not_not.mpr hmagic), if_neg (by omega), if_neg (by omega),
          if_neg (by simpa [isSome_iff_ne_none] using hknown), hpayload]
      exact (supported_iff hmagic hmax hbytes).mp (h _ _ hnext).1
  · intro h result left hnext
    obtain ⟨hlen, hcase⟩ := tryDecodeFromBuf_cases hnext
    rcases hcase with ⟨hmagic, rfl, rfl⟩ | ⟨len, rfl⟩ | ⟨hat, msgType, rfl⟩ | ⟨hmagic, hmax, hknown, hat, rfl⟩
    · intro _ _
      exact (atNextFrame_header hlen).mpr (h.noMagic hlen hmagic)
    · intro hfatal
      cases hfatal
    · exact fun _ _ => hat
    · rcases decodePayload_cases C buf with ⟨text, hd, -⟩ | ⟨bytes, text, hd, -⟩ | ⟨bytes, pdu, hd, hb, hp⟩
      · rw [hd]
        exact fun _ _ => hat
      · rw [hd]
        exact fun _ _ => hat
      · rw [hd]
        exact ⟨(supported_iff hmagic hmax hb).mpr (h.message hmagic hmax hknown hat.1 bytes pdu hb hp), hat⟩

/-- **When both decoders are sound.** On every byte string, and for every cut of it into reads: the server's
    reader and the client's codec return only supported messages and stay at the next frame after every error
    that is not fatal, exactly when the bytes are cross-checked by whoever wrote them. -/
theorem decodersSound_iff :
    ((⟨buf⟩ : FrameReader).Sound C ∧
      ∀ chunks : List (List UInt8), (∀ c ∈ chunks, c ≠ []) → chunks.flatten = buf →
        ProtocolCodec.Sound C chunks) ↔ CrossChecked C buf := by
  constructor
  · rintro ⟨hreader, -⟩
    exact (decoderSound_iff C buf).mp ((FrameReader.sound_iff C ⟨buf⟩).mp hreader)
  · intro h
    have hsound : DecoderSound C buf := (decoderSound_iff C buf).mpr h
    refine ⟨(FrameReader.sound_iff C ⟨buf⟩).mpr hsound, ?_⟩
    rintro chunks hne rfl
    exact (ProtocolCodec.sound_iff C hne).mpr hsound

/-- A ping whose header is of protocol version 9 and names another message. -/
def foreignPing : List UInt8 :=
  let header : FrameHeader :=
    { magic := FRAME_MAGIC, version := 9, flags := 0, msgType := MsgType.shutdown.toU16, seq := 1, payloadLen := 4 }
  header.encode ++ [8, 0, 0, 0]

/-- Version and message type are not looked at: the reader returns the ping of a frame of version 9 whose header
    says that it is a shutdown. -/
theorem foreign_ping_accepted :
    FrameReader.tryDecode pingCoders ⟨foreignPing⟩ = (some (.ok ⟨1, ⟨.ping, ()⟩⟩), ⟨[]⟩) ∧
      (headerOf foreignPing).version = 9 ∧ MsgType.fromU16 (headerOf foreignPing).msgType = some .shutdown ∧
      ¬ (⟨foreignPing⟩ : FrameReader).Sound pingCoders := by
  have hanswer : FrameReader.tryDecode pingCoders ⟨foreignPing⟩ = (some (.ok ⟨1, ⟨.ping, ()⟩⟩), ⟨[]⟩) := by rfl
  have hversion : (headerOf foreignPing).version = 9 := by rfl
  refine ⟨hanswer, hversion, by rfl, fun h => ?_⟩
  have hsupported := (h _ _ hanswer).1.version
  rw [show (⟨foreignPing⟩ : FrameReader).buf = foreignPing from rfl, hversion] at hsupported
  exact absurd hsupported (by decide)

end OriTerm
