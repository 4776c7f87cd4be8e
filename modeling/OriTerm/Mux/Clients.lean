import OriTerm.Lib.Run
import OriTerm.Mux.Protocol

/-!
# `Mux.Clients` — the server side of a client connection

The daemon's event loop calls `handleClientEvent` when mio reports a client's socket: it flushes pending
writes, reads the socket into the frame reader, and dispatches the complete frames. Readiness is
edge-triggered: an event is queued when bytes arrive, when the peer closes, and when the source is registered
again while readable (`IpcStream.ready`); what was left unread without one of these stays unread.

One connection is modelled against everything else. The kernel is the script of an event: what arrives before
each read, how many bytes a read returns, what the writes return. `dispatch_request` is a parameter
(`MuxService.dispatch`), since only the reply it may give matters here.

What has to hold when the handler returns is `Settled`: the frames received are the frames dispatched, and a
connection that stays open has an empty socket or an event to come. Two paths break it: an end-of-file, or a
failed read, in the same event as complete frames, and the cap of 256 reads. `Client.settled_run` is the run
theorem under the exact condition on each event (`Delivers`).
-/

namespace OriTerm

open Lib List

variable {Fields : MsgType → Type} {σ : Type*}

/-! ## Outgoing frames -/

/-- What one non-blocking `write` returns. -/
inductive WriteResult where
  | wrote (n : Nat)
  | wouldBlock
  | interrupted
  | failed
  deriving DecidableEq, Repr

/-- Per-connection outgoing frame buffer. -/
structure FrameWriter where
  buf : List UInt8
  deriving DecidableEq

namespace FrameWriter

/-- Create a new empty writer. -/
def new : FrameWriter := ⟨[]⟩

/-- Whether there is unsent data in the buffer. -/
def hasPending (w : FrameWriter) : Bool := !w.buf.isEmpty

/-- Write as much buffered data as possible, given what the coming writes return: whether it succeeded, the
    writer, and the writes left. With no more answers the stream would block. -/
def flushTo : FrameWriter → List WriteResult → Bool × FrameWriter × List WriteResult
  | w, [] => (true, w, [])
  | w, write :: writes =>
    if w.buf.isEmpty then (true, w, write :: writes)
    else
      match write with
      | .wrote 0 => (false, w, writes)
      | .wrote n => flushTo ⟨w.buf.drop n⟩ writes
      | .wouldBlock => (true, w, writes)
      | .interrupted => flushTo w writes
      | .failed => (false, w, writes)

end FrameWriter

/-! ## The socket -/

/-- What the kernel does around one `read`: bytes that arrive just before it, whether the peer closes, how
    many bytes the read returns at most, or the error it fails with. -/
structure ReadStep where
  arrives : List UInt8
  closes : Bool
  len : Nat
  failure : Option String
  deriving DecidableEq

/-- Nothing arrives and the read fills its buffer. -/
def ReadStep.quiet : ReadStep := { arrives := [], closes := false, len := 4096, failure := none }

/-- A client's socket as an edge-triggered event source. -/
structure IpcStream where
  /-- Bytes that have arrived and are not read. -/
  unread : List UInt8
  /-- The peer has closed its end. -/
  eof : Bool
  /-- An event for the source is queued. -/
  ready : Bool
  /-- What the coming writes will return. -/
  writes : List WriteResult
  deriving DecidableEq

namespace IpcStream

variable (s : IpcStream)

/-- A read would block now. -/
def WouldBlock : Prop := s.unread = [] ∧ s.eof = false

instance (s : IpcStream) : Decidable s.WouldBlock := inferInstanceAs (Decidable (_ ∧ _))

/-- Bytes arrive from a peer that has not closed. -/
def arrive (bytes : List UInt8) : IpcStream :=
  if bytes.isEmpty || s.eof then s else { s with unread := s.unread ++ bytes, ready := true }

/-- The peer closes. -/
def close : IpcStream := if s.eof then s else { s with eof := true, ready := true }

/-- An arrival queues an event, if it changes anything. -/
theorem arrive_cases (bytes : List UInt8) : s.arrive bytes = s ∨ (s.arrive bytes).ready = true := by
  unfold arrive
  split
  · exact .inl rfl
  · exact .inr rfl

theorem close_cases : s.close = s ∨ s.close.ready = true := by
  unfold close
  split
  · exact .inl rfl
  · exact .inr rfl

/-- Registering the source again queues an event if it is readable. -/
def reregister : IpcStream := { s with ready := s.ready || !s.unread.isEmpty || s.eof }

/-- One `read` into the 4096-byte buffer. -/
def read (step : ReadStep) : ReadResult × IpcStream :=
  let s := s.arrive step.arrives
  let s := if step.closes then s.close else s
  match step.failure with
  | some text => (.failed text, s)
  | none =>
    if s.unread.isEmpty then (if s.eof then .data [] else .wouldBlock, s)
    else
      let n := max 1 (min step.len 4096)
      (.data (s.unread.take n), { s with unread := s.unread.drop n })

end IpcStream

/-! ## The connection -/

/-- What the connection's handler calls: the coders of the wire, the fields of an error reply, and
    `dispatch_request` with the state it works on and the reply it may give. -/
structure MuxService (Fields : MsgType → Type) (σ : Type*) where
  coders : Coders Fields
  errorFields : String → Fields .error
  dispatch : σ → MuxPdu Fields → σ × Option (MuxPdu Fields)

/-- A client of the server, with the bytes read from it and the frames dispatched so far. -/
structure Client (Fields : MsgType → Type) (σ : Type*) where
  /-- The server still has the connection. -/
  connected : Bool
  stream : IpcStream
  frameReader : FrameReader
  frameWriter : FrameWriter
  /-- The rest of the server. -/
  mux : σ
  received : List UInt8
  dispatched : List (DecodedFrame Fields)

/-- Result of the read loop. -/
inductive ReadStatus where
  | gotData
  | closed
  | wouldBlock
  /-- A read failed with another error. -/
  | failed
  deriving DecidableEq, Repr

namespace Client

/-- A client just accepted. What arrived before is reported when the source is registered, as if it arrived
    then. -/
def accept (mux : σ) : Client Fields σ where
  connected := true
  stream := { unread := [], eof := false, ready := false, writes := [] }
  frameReader := .new
  frameWriter := .new
  mux
  received := []
  dispatched := []

/-- Serialize a frame into the outgoing buffer and attempt to flush. -/
def queueFrame (S : MuxService Fields σ) (c : Client Fields σ) (seq : UInt32) (pdu : MuxPdu Fields) :
    Bool × Client Fields σ :=
  match encodeIntoBuf S.coders c.frameWriter.buf seq pdu false with
  | .error _ => (false, c)
  | .ok buf =>
    let (ok, writer, writes) := FrameWriter.flushTo ⟨buf⟩ c.stream.writes
    (ok, { c with frameWriter := writer, stream := { c.stream with writes } })

/-- Add or remove `WRITABLE` interest, which registers the source again. -/
def updateWriteInterest (c : Client Fields σ) : Client Fields σ := { c with stream := c.stream.reregister }

/-- Remove the connection. -/
def disconnectClient (c : Client Fields σ) : Client Fields σ := { c with connected := false }

/-- Append the bytes of one read to the frame reader. -/
def extend (c : Client Fields σ) (data : List UInt8) : Client Fields σ :=
  { c with frameReader := c.frameReader.extend data, received := c.received ++ data }

/-- The read loop: at most `n` more reads, `last` being the status so far. -/
def readLoop : Nat → ReadStatus → Client Fields σ → List ReadStep → ReadStatus × Client Fields σ
  | 0, last, c, _ => (last, c)
  | n + 1, _, c, steps =>
    match c.stream.read (steps.headD .quiet) with
    | (.data [], s) => (.closed, { c with stream := s })
    | (.data (b :: bs), s) => readLoop n .gotData (extend { c with stream := s } (b :: bs)) steps.tail
    | (.wouldBlock, s) => (.wouldBlock, { c with stream := s })
    | (.timedOut, s) => (.failed, { c with stream := s })
    | (.failed _, s) => (.failed, { c with stream := s })

/-- Handle a single successfully decoded frame. -/
def handleDecodedFrame (S : MuxService Fields σ) (c : Client Fields σ) (decoded : DecodedFrame Fields) :
    Client Fields σ :=
  let (mux, response) := S.dispatch c.mux decoded.pdu
  let c := { c with mux, dispatched := c.dispatched ++ [decoded] }
  match response with
  | none => c
  | some respPdu =>
    let (ok, c) := c.queueFrame S decoded.seq respPdu
    if ok then c.updateWriteInterest else c.disconnectClient

/-- Whether a decode error should cause the client to be disconnected. -/
def isFatalDecodeError : DecodeError → Bool
  | .payloadTooLarge _ => true
  | _ => false

/-- Report a decode error: silently for an unknown message type, else with an error reply (which may be
    lost). -/
def reportDecodeError (S : MuxService Fields σ) (c : Client Fields σ) (e : DecodeError) : Client Fields σ :=
  match e with
  | .unknownMsgType _ => c
  | e =>
    let errPdu : MuxPdu Fields := ⟨.error, S.errorFields ("decode error: " ++ e.display)⟩
    (c.queueFrame S 0 errPdu).2.updateWriteInterest

/-- Decode and dispatch all complete frames of the buffer; each takes a byte off it. -/
def dispatchFrames (S : MuxService Fields σ) : Nat → Client Fields σ → Client Fields σ
  | 0, c => c
  | n + 1, c =>
    if !c.connected then c
    else
      match c.frameReader.tryDecode S.coders with
      | (none, _) => c
      | (some (.ok decoded), reader) =>
        dispatchFrames S n (handleDecodedFrame S { c with frameReader := reader } decoded)
      | (some (.error e), reader) =>
        let c := reportDecodeError S { c with frameReader := reader } e
        if isFatalDecodeError e then c.disconnectClient else dispatchFrames S n c

/-- Flush pending writes, before anything is read. -/
def flushPending (c : Client Fields σ) : Client Fields σ :=
  if c.frameWriter.hasPending then
    let (ok, writer, writes) := c.frameWriter.flushTo c.stream.writes
    let c := { c with frameWriter := writer, stream := { c.stream with writes } }
    if ok then c.updateWriteInterest else c.disconnectClient
  else c

/-- What the kernel does during one event. -/
structure EventScript where
  reads : List ReadStep
  writes : List WriteResult
  deriving DecidableEq

/-- The connection as the read loop finds it: the event is taken off the queue and pending writes flushed. -/
def beforeReads (c : Client Fields σ) (script : EventScript) : Client Fields σ :=
  flushPending { c with stream := { c.stream with ready := false, writes := script.writes } }

/-- Handle a readable/writable event from a connected client. -/
def handleClientEvent (S : MuxService Fields σ) (c : Client Fields σ) (script : EventScript) : Client Fields σ :=
  if !c.connected then c
  else
    let c := c.beforeReads script
    if !c.connected then c
    else
      match c.readLoop 256 .wouldBlock script.reads with
      | (.failed, c) => c.disconnectClient
      | (.closed, c) => c.disconnectClient
      | (_, c) => c.dispatchFrames S c.frameReader.buf.length

/-- Queue a notification for the client from elsewhere in the server; failures are ignored, and the write
    interest of connections with pending data is updated. -/
def notify (S : MuxService Fields σ) (c : Client Fields σ) (pdu : MuxPdu Fields) (writes : List WriteResult) :
    Client Fields σ :=
  let c := (queueFrame S { c with stream := { c.stream with writes } } 0 pdu).2
  if c.frameWriter.hasPending then c.updateWriteInterest else c

/-- A step of the connection: bytes arrive, the peer closes, the server handles an event, another part of the
    server changes its state, or queues a notification. -/
inductive Step (Fields : MsgType → Type) (σ : Type*) where
  | arrive (bytes : List UInt8)
  | close
  | event (script : EventScript)
  | other (mux : σ)
  | notify (pdu : MuxPdu Fields) (writes : List WriteResult)

def step (S : MuxService Fields σ) (c : Client Fields σ) : Step Fields σ → Client Fields σ
  | .arrive bytes => { c with stream := c.stream.arrive bytes }
  | .close => { c with stream := c.stream.close }
  | .event script => c.handleClientEvent S script
  | .other mux => { c with mux }
  | .notify pdu writes => if c.connected then c.notify S pdu writes else c

/-! ## What has been received -/

/-- The requests of a stream's outcomes: its complete frames, up to an error that ends the connection. -/
def requests : List (Except DecodeError (DecodedFrame Fields)) → List (DecodedFrame Fields)
  | [] => []
  | .ok frame :: results => frame :: requests results
  | .error e :: results => if isFatalDecodeError e then [] else requests results

/-- No outcome ends the connection. -/
def NoneFatal (results : List (Except DecodeError (DecodedFrame Fields))) : Prop :=
  ∀ e, .error e ∈ results → isFatalDecodeError e = false

theorem requests_append {results : List (Except DecodeError (DecodedFrame Fields))} (h : NoneFatal results)
    (results' : List (Except DecodeError (DecodedFrame Fields))) :
    requests (results ++ results') = requests results ++ requests results' := by
  induction results with
  | nil => rfl
  | cons result results ih =>
    have hrest := ih fun e he => h e (mem_cons_of_mem _ he)
    cases result with
    | ok frame =>
      rw [cons_append, requests, hrest]
      rfl
    | error e =>
      have he := h e mem_cons_self
      rw [cons_append, requests, requests, if_neg (by simp [he]), if_neg (by simp [he]), hrest]

/-- The complete requests of everything read from the client. -/
def receivedRequests (S : MuxService Fields σ) (c : Client Fields σ) : List (DecodedFrame Fields) :=
  requests (S.coders.framing.drain c.received).1

/-- **What holds when the handler has returned.** Every request received has been dispatched, in order and
    once; and a connection that is still open has nothing left to read, or an event to come. -/
structure Settled (S : MuxService Fields σ) (c : Client Fields σ) : Prop where
  dispatched : c.dispatched = c.receivedRequests S
  awake : c.connected = true → c.stream.WouldBlock ∨ c.stream.ready = true

/-- The frame reader of an open connection holds what is left of the bytes received. -/
structure Reading (S : MuxService Fields σ) (c : Client Fields σ) : Prop where
  left : c.connected = true → c.frameReader.buf = (S.coders.framing.drain c.received).2
  noneFatal : c.connected = true → NoneFatal (S.coders.framing.drain c.received).1

/-! ## One frame -/

/-- Handle one outcome of the decoder. -/
def handleOutcome (S : MuxService Fields σ) (c : Client Fields σ) :
    Except DecodeError (DecodedFrame Fields) → Client Fields σ
  | .ok decoded => handleDecodedFrame S c decoded
  | .error e =>
    if isFatalDecodeError e then (reportDecodeError S c e).disconnectClient else reportDecodeError S c e

/-- Whether handling the outcome queues a reply, and so registers the source again. -/
def answers (S : MuxService Fields σ) (mux : σ) : Except DecodeError (DecodedFrame Fields) → Bool
  | .ok decoded => (S.dispatch mux decoded.pdu).2.isSome
  | .error (.unknownMsgType _) => false
  | .error _ => true

/-- The server after handling the outcome. -/
def muxAfter (S : MuxService Fields σ) (mux : σ) : Except DecodeError (DecodedFrame Fields) → σ
  | .ok decoded => (S.dispatch mux decoded.pdu).1
  | .error _ => mux

/-- Queueing a frame touches the outgoing side only. -/
theorem queueFrame_snd (S : MuxService Fields σ) (c : Client Fields σ) (seq : UInt32) (pdu : MuxPdu Fields) :
    ∃ frameWriter writes, (c.queueFrame S seq pdu).2 =
      { c with frameWriter, stream := { c.stream with writes } } := by
  unfold queueFrame
  split
  · exact ⟨c.frameWriter, c.stream.writes, rfl⟩
  · exact ⟨_, _, rfl⟩

variable {c : Client Fields σ} {S : MuxService Fields σ}

theorem handleDecodedFrame_none {decoded : DecodedFrame Fields} {mux : σ}
    (h : S.dispatch c.mux decoded.pdu = (mux, none)) :
    handleDecodedFrame S c decoded = { c with mux, dispatched := c.dispatched ++ [decoded] } := by
  simp [handleDecodedFrame, h]

theorem handleDecodedFrame_some {decoded : DecodedFrame Fields} {mux : σ} {respPdu : MuxPdu Fields}
    (h : S.dispatch c.mux decoded.pdu = (mux, some respPdu)) :
    ∃ ok frameWriter writes, handleDecodedFrame S c decoded =
      { c with
        connected := ok && c.connected, frameWriter, mux
        stream := { c.stream with ready := if ok then c.stream.reregister.ready else c.stream.ready, writes }
        dispatched := c.dispatched ++ [decoded] } := by
  obtain ⟨frameWriter, writes, hc⟩ := queueFrame_snd S
    { c with mux, dispatched := c.dispatched ++ [decoded] } decoded.seq respPdu
  simp only [handleDecodedFrame, h]
  generalize queueFrame S { c with mux, dispatched := c.dispatched ++ [decoded] } decoded.seq respPdu =
    queued at hc
  obtain ⟨ok, c'⟩ := queued
  subst hc
  cases ok with
  | true => exact ⟨true, frameWriter, writes, rfl⟩
  | false => exact ⟨false, frameWriter, writes, rfl⟩

section

variable (S : MuxService Fields σ) (c : Client Fields σ)

/-- **What handling one outcome does**: a request is dispatched, and nothing on the incoming side changes but
    the registration. -/
theorem handleOutcome_eq (result : Except DecodeError (DecodedFrame Fields)) :
    ∃ connected ready writes frameWriter, handleOutcome S c result =
        { c with
          connected, frameWriter, mux := muxAfter S c.mux result
          stream := { c.stream with ready, writes }
          dispatched := c.dispatched ++ result.toOption.toList } ∧
      (answers S c.mux result = false → connected = c.connected ∧ ready = c.stream.ready) ∧
      (answers S c.mux result = true → connected = true →
        ready = c.stream.reregister.ready) := by
  have hreport : ∀ e, (∀ t, e ≠ .unknownMsgType t) → ∃ frameWriter writes, reportDecodeError S c e =
      { c with frameWriter, stream := { c.stream with ready := c.stream.reregister.ready, writes } } := by
    intro e hknown
    have hreply : ∀ pdu : MuxPdu Fields, ∃ frameWriter writes, (c.queueFrame S 0 pdu).2.updateWriteInterest =
        { c with frameWriter, stream := { c.stream with ready := c.stream.reregister.ready, writes } } := by
      intro pdu
      obtain ⟨frameWriter, writes, hc⟩ := queueFrame_snd S c 0 pdu
      exact ⟨frameWriter, writes, by rw [hc]; rfl⟩
    cases e with
    | unknownMsgType t => exact absurd rfl (hknown t)
    | io | badMagic | payloadTooLarge | deserialize => exact hreply _
  cases result with
  | ok decoded =>
    rcases hd : S.dispatch c.mux decoded.pdu with ⟨mux, _ | respPdu⟩
    · refine ⟨c.connected, c.stream.ready, c.stream.writes, c.frameWriter, ?_, fun _ => ⟨rfl, rfl⟩, ?_⟩
      · simp only [handleOutcome, handleDecodedFrame_none hd, muxAfter, hd]
        rfl
      · simp [answers, hd]
    · obtain ⟨ok, frameWriter, writes, hc⟩ := handleDecodedFrame_some hd
      refine ⟨ok && c.connected, if ok then c.stream.reregister.ready else c.stream.ready, writes, frameWriter,
        ?_, ?_, ?_⟩
      · simp only [handleOutcome, hc, muxAfter, hd]
        rfl
      · simp [answers, hd]
      · intro _ hok
        rw [if_pos (by simp at hok; exact hok.1)]
  | error e =>
    have hkept : ∀ (c' : Client Fields σ), c' = { c' with dispatched := c'.dispatched ++ [] } := by
      intro c'
      rw [append_nil]
    by_cases hunknown : ∃ t, e = .unknownMsgType t
    · obtain ⟨t, rfl⟩ := hunknown
      exact ⟨c.connected, c.stream.ready, c.stream.writes, c.frameWriter, hkept c, fun _ => ⟨rfl, rfl⟩, nofun⟩
    · obtain ⟨frameWriter, writes, hc⟩ := hreport e fun t ht => hunknown ⟨t, ht⟩
      have hans : answers S c.mux (.error e) = true := by
        cases e with
        | unknownMsgType t => exact absurd ⟨t, rfl⟩ hunknown
        | _ => rfl
      rw [hans]
      simp only [handleOutcome, hc]
      split
      · refine ⟨false, c.stream.reregister.ready, writes, frameWriter, ?_, nofun, nofun⟩
        exact hkept _
      · refine ⟨c.connected, c.stream.reregister.ready, writes, frameWriter, ?_, nofun, fun _ _ => rfl⟩
        exact hkept _

theorem queueFrame_frameReader (reader : FrameReader) (seq : UInt32) (pdu : MuxPdu Fields) :
    queueFrame S { c with frameReader := reader } seq pdu =
      ((c.queueFrame S seq pdu).1, { (c.queueFrame S seq pdu).2 with frameReader := reader }) := by
  unfold queueFrame
  dsimp only
  split <;> rfl

/-- Handling an outcome does not look at the frame reader. -/
theorem handleOutcome_frameReader (reader : FrameReader) (result : Except DecodeError (DecodedFrame Fields)) :
    handleOutcome S { c with frameReader := reader } result =
      { handleOutcome S c result with frameReader := reader } := by
  cases result with
  | ok decoded =>
    rcases hd : S.dispatch c.mux decoded.pdu with ⟨mux, _ | respPdu⟩
    · simp only [handleOutcome]
      rw [handleDecodedFrame_none hd, handleDecodedFrame_none (c := { c with frameReader := reader }) hd]
    · simp only [handleOutcome, handleDecodedFrame, hd]
      have hq := queueFrame_frameReader S { c with mux, dispatched := c.dispatched ++ [decoded] } reader
        decoded.seq respPdu
      rw [hq]
      split <;> rfl
  | error e =>
    have hreport : reportDecodeError S { c with frameReader := reader } e =
        { reportDecodeError S c e with frameReader := reader } := by
      unfold reportDecodeError
      split
      · rfl
      · simp only [queueFrame_frameReader]
        rfl
    simp only [handleOutcome, hreport]
    split <;> rfl

end

/-! ## All frames of the buffer -/

/-- The reply to each frame is queued, unless no request is waiting behind the frame. -/
def RepliesQueue (S : MuxService Fields σ) : Client Fields σ → List (Except DecodeError (DecodedFrame Fields)) → Prop
  | _, [] => True
  | c, result :: results =>
    if (handleOutcome S c result).connected then RepliesQueue S (handleOutcome S c result) results
    else requests (result :: results) = result.toOption.toList

/-- Some reply registers the source again. -/
def rearms (S : MuxService Fields σ) : σ → List (Except DecodeError (DecodedFrame Fields)) → Bool
  | _, [] => false
  | mux, result :: results => answers S mux result || rearms S (muxAfter S mux result) results

section

variable (S : MuxService Fields σ)

theorem repliesQueue_frameReader (reader : FrameReader)
    (results : List (Except DecodeError (DecodedFrame Fields))) (c : Client Fields σ) :
    RepliesQueue S { c with frameReader := reader } results ↔ RepliesQueue S c results := by
  induction results generalizing c with
  | nil => exact Iff.rfl
  | cons result results ih =>
    simp only [RepliesQueue, handleOutcome_frameReader]
    rw [ih]

/-- The dispatch loop stops at a closed connection. -/
theorem dispatchFrames_closed (n : Nat) (hc : c.connected = false) : dispatchFrames S n c = c := by
  cases n with
  | zero => rfl
  | succ n => simp [dispatchFrames, hc]

/-- The dispatch loop, one outcome at a time. -/
theorem dispatchFrames_cons (n : Nat) (hc : c.connected = true)
    {result : Except DecodeError (DecodedFrame Fields)} {rest : List UInt8}
    (h : tryDecodeFromBuf S.coders c.frameReader.buf = some (result, rest)) :
    dispatchFrames S (n + 1) c = dispatchFrames S n (handleOutcome S { c with frameReader := ⟨rest⟩ } result) := by
  cases result with
  | ok decoded => simp only [dispatchFrames, hc, FrameReader.tryDecode, h, handleOutcome, Bool.not_true,
      Bool.false_eq_true, if_false]
  | error e =>
    simp only [dispatchFrames, hc, FrameReader.tryDecode, h, handleOutcome, Bool.not_true,
      Bool.false_eq_true, if_false]
    split
    · rw [dispatchFrames_closed S n rfl]
    · rfl

end

/-- What the dispatch loop does to a connection whose buffer decodes to `results` and `left`. -/
structure Dispatched (S : MuxService Fields σ) (c c' : Client Fields σ)
    (results : List (Except DecodeError (DecodedFrame Fields))) (left : List UInt8) : Prop where
  received : c'.received = c.received
  unread : c'.stream.unread = c.stream.unread
  eof : c'.stream.eof = c.stream.eof
  /-- All requests are dispatched exactly if the replies before them can be queued. -/
  complete : c'.dispatched = c.dispatched ++ requests results ↔ RepliesQueue S c results
  left : c'.connected = true → c'.frameReader.buf = left
  noneFatal : c'.connected = true → NoneFatal results
  replied : c'.connected = true → RepliesQueue S c results
  ready : c'.connected = true →
    c'.stream.ready = if rearms S c.mux results then c.stream.reregister.ready else c.stream.ready
  silent : rearms S c.mux results = false → c'.connected = true

theorem dispatched_closed {result : Except DecodeError (DecodedFrame Fields)}
    {results : List (Except DecodeError (DecodedFrame Fields))} {left : List UInt8} {reader : FrameReader}
    (h : (handleOutcome S c result).connected = false) (hc : c.connected = true) :
    Dispatched S c { handleOutcome S c result with frameReader := reader } (result :: results) left := by
  obtain ⟨connected, ready, writes, frameWriter, heq, hquiet, -⟩ := handleOutcome_eq S c result
  rw [heq] at h ⊢
  dsimp only at h
  have hans : answers S c.mux result = true := by
    by_contra hno
    have := (hquiet (by simpa using hno)).1
    rw [h, hc] at this
    exact absurd this (by decide)
  refine ⟨rfl, rfl, rfl, ?_, ?_, ?_, ?_, ?_, ?_⟩
  · rw [RepliesQueue, heq, if_neg (by simp [h])]
    exact ⟨fun h' => (append_cancel_left h').symm, fun h' => by rw [h']⟩
  · exact fun h' => absurd h' (by simp [h])
  · exact fun h' => absurd h' (by simp [h])
  · exact fun h' => absurd h' (by simp [h])
  · exact fun h' => absurd h' (by simp [h])
  · intro h'
    rw [rearms, hans, Bool.true_or] at h'
    exact absurd h' (by decide)

/-- An outcome that ends the connection leaves it closed. -/
theorem handleOutcome_fatal {e : DecodeError} (h : isFatalDecodeError e = true) :
    (handleOutcome S c (.error e)).connected = false := by
  simp only [handleOutcome, h]
  rfl

/-- **The dispatch loop, specified.** -/
theorem dispatchFrames_spec (S : MuxService Fields σ) (buf : List UInt8) :
    ∀ (n : Nat) (c : Client Fields σ), buf.length ≤ n → c.connected = true → c.frameReader = ⟨buf⟩ →
      Dispatched S c (dispatchFrames S n c) (S.coders.framing.drain buf).1 (S.coders.framing.drain buf).2 := by
  induction buf using Framing.drain_induction (F := S.coders.framing) with
  | hnone buf h =>
    intro n c hn hc hbuf
    have hstop : dispatchFrames S n c = c := by
      cases n with
      | zero => rfl
      | succ n =>
        have hnext : tryDecodeFromBuf S.coders buf = none := h
        simp [dispatchFrames, FrameReader.tryDecode, hbuf, hnext]
    rw [Framing.drain_of_none h, hstop]
    refine ⟨rfl, rfl, rfl, ?_, ?_, ?_, ?_, ?_, ?_⟩
    · simp [requests, RepliesQueue]
    · exact fun _ => by rw [hbuf]
    · exact fun _ e he => absurd he (by simp)
    · exact fun _ => trivial
    · exact fun _ => rfl
    · exact fun _ => hc
  | hsome buf result rest h ih =>
    intro n c hn hc hbuf
    have hlt := S.coders.framing.next_lt h
    obtain ⟨n, rfl⟩ : ∃ m, n = m + 1 := ⟨n - 1, by omega⟩
    have hnext : tryDecodeFromBuf S.coders c.frameReader.buf = some (result, rest) := by
      rw [hbuf]
      exact h
    rw [Framing.drain_of_some h, dispatchFrames_cons S n hc hnext, handleOutcome_frameReader]
    by_cases hopen : (handleOutcome S c result).connected = true
    · have hrest := ih n { handleOutcome S c result with frameReader := ⟨rest⟩ } (by omega) hopen rfl
      obtain ⟨connected, ready, writes, frameWriter, heq, hquiet, hreply⟩ := handleOutcome_eq S c result
      have hconn : connected = true := by
        rw [heq] at hopen
        exact hopen
      have hfatal : ∀ e, result = .error e → isFatalDecodeError e = false := by
        rintro e rfl
        by_contra hf
        rw [handleOutcome_fatal (by simpa using hf)] at hopen
        exact absurd hopen (by decide)
      have hreqs : requests (result :: (S.coders.framing.drain rest).1) =
          result.toOption.toList ++ requests (S.coders.framing.drain rest).1 := by
        cases result with
        | ok frame => rfl
        | error e =>
          rw [requests, if_neg (by simp [hfatal])]
          rfl
      have hqueue : RepliesQueue S c (result :: (S.coders.framing.drain rest).1) ↔
          RepliesQueue S (handleOutcome S c result) (S.coders.framing.drain rest).1 := by
        rw [RepliesQueue, if_pos hopen]
      have hready : ready = if answers S c.mux result then c.stream.reregister.ready else c.stream.ready := by
        cases ha : answers S c.mux result with
        | true => exact hreply ha hconn
        | false => exact (hquiet ha).2
      refine ⟨?_, ?_, ?_, ?_, hrest.left, ?_, ?_, ?_, ?_⟩
      · rw [hrest.received, heq]
      · rw [hrest.unread, heq]
      · rw [hrest.eof, heq]
      · rw [hqueue, ← repliesQueue_frameReader, ← hrest.complete, hreqs, heq, append_assoc]
      · intro h' e he
        rcases mem_cons.mp he with he | he
        · exact hfatal e he.symm
        · exact hrest.noneFatal h' e he
      · intro h'
        rw [hqueue, ← repliesQueue_frameReader]
        exact hrest.replied h'
      · intro h'
        rw [hrest.ready h', rearms, heq]
        simp only [IpcStream.reregister, hready]
        cases answers S c.mux result with
        | false => rfl
        | true =>
          split
          · cases c.stream.ready <;> cases c.stream.unread.isEmpty <;> cases c.stream.eof <;> rfl
          · rfl
      · intro h'
        rw [rearms, Bool.or_eq_false_iff] at h'
        apply hrest.silent
        rw [heq]
        exact h'.2
    · have hclosed : (handleOutcome S c result).connected = false := by simpa using hopen
      rw [dispatchFrames_closed S n (c := { handleOutcome S c result with frameReader := ⟨rest⟩ }) hclosed]
      exact dispatched_closed hclosed hc

/-! ## One event -/

@[simp] theorem extend_nil (c : Client Fields σ) : extend c [] = c := by
  simp [extend, FrameReader.extend]

@[simp] theorem extend_extend (c : Client Fields σ) (data data' : List UInt8) :
    extend (extend c data) data' = extend c (data ++ data') := by
  simp [extend, FrameReader.extend]

/-- What the read loop does: some bytes go from the socket to the frame reader, and nothing else but the
    socket changes. -/
theorem readLoop_eq (n : Nat) (last : ReadStatus) (c : Client Fields σ) (steps : List ReadStep) :
    ∃ status stream data, c.readLoop n last steps = (status, extend { c with stream } data) ∧
      (status = .wouldBlock → (n = 0 ∧ last = .wouldBlock) ∨ stream.WouldBlock) := by
  induction n generalizing last c steps with
  | zero => exact ⟨last, c.stream, [], by rw [extend_nil]; rfl, fun h => .inl ⟨rfl, h⟩⟩
  | succ n ih =>
    have hblock : ∀ s, c.stream.read (steps.headD .quiet) = (.wouldBlock, s) → s.WouldBlock := by
      intro s hs
      unfold IpcStream.read at hs
      dsimp only at hs
      generalize (if (steps.headD .quiet).closes = true then _ else _ : IpcStream) = s' at hs
      split at hs
      · simp at hs
      · split at hs
        · rename_i hempty
          split at hs
          · simp at hs
          · rename_i heof
            simp only [Prod.mk.injEq, true_and] at hs
            subst hs
            exact ⟨by simpa using hempty, by simpa using heof⟩
        · simp at hs
    rcases hread : c.stream.read (steps.headD .quiet) with ⟨_ | _ | _ | _, s⟩
    · rename_i bytes
      cases bytes with
      | nil => exact ⟨.closed, s, [], by rw [extend_nil, readLoop, hread], nofun⟩
      | cons b bs =>
        obtain ⟨status, stream, data, heq, hwould⟩ :=
          ih .gotData (extend { c with stream := s } (b :: bs)) steps.tail
        refine ⟨status, stream, b :: bs ++ data, ?_, fun h => ?_⟩
        · rw [readLoop, hread]
          dsimp only
          rw [heq, ← extend_extend]
          rfl
        · rcases hwould h with ⟨-, h'⟩ | h'
          · exact absurd h' (by decide)
          · exact .inr h'
    · exact ⟨.wouldBlock, s, [], by rw [extend_nil, readLoop, hread], fun _ => .inr (hblock s hread)⟩
    · exact ⟨.failed, s, [], by rw [extend_nil, readLoop, hread], nofun⟩
    · exact ⟨.failed, s, [], by rw [extend_nil, readLoop, hread], nofun⟩

/-- **The condition on an event.** The frames waiting in the reader when the read loop ends must be served:
    there are none if it ended with an end-of-file or an error; otherwise the reply to each can be queued as
    long as requests wait behind it; and if the loop was cut off after its 256 reads, the socket is empty, an
    event is queued already, or a reply registers the source again. -/
def Delivers (S : MuxService Fields σ) (c : Client Fields σ) : Step Fields σ → Prop
  | .event script =>
    c.connected = true → (c.beforeReads script).connected = true →
      let (status, c) := (c.beforeReads script).readLoop 256 .wouldBlock script.reads
      let results := (S.coders.framing.drain c.frameReader.buf).1
      match status with
      | .closed => requests results = []
      | .failed => requests results = []
      | .wouldBlock => c.RepliesQueue S results
      | .gotData => c.RepliesQueue S results ∧
        (c.stream.WouldBlock ∨ c.stream.ready = true ∨ rearms S c.mux results = true)
  | _ => True

/-- Before the reads only the outgoing side and the registration change, and the connection may close. -/
theorem beforeReads_eq (c : Client Fields σ) (script : EventScript) :
    ∃ connected ready writes frameWriter, c.beforeReads script =
        { c with connected, frameWriter, stream := { c.stream with ready, writes } } ∧
      (connected = true → c.connected = true) := by
  unfold beforeReads flushPending
  split
  · generalize c.frameWriter.flushTo script.writes = flushed
    obtain ⟨ok, writer, writes⟩ := flushed
    cases ok with
    | true => exact ⟨c.connected, _, writes, writer, rfl, id⟩
    | false => exact ⟨false, false, writes, writer, rfl, nofun⟩
  · exact ⟨c.connected, false, script.writes, c.frameWriter, rfl, id⟩

section

variable {c' : Client Fields σ} {data : List UInt8} (hr : c.Reading S) (hc : c.connected = true)
  (hdata : c'.received = c.received ++ data)
include hr hc hdata

/-- Reading on: the bytes read extend what was left, and bring the requests they complete. -/
theorem receivedRequests_append :
    c'.receivedRequests S = c.receivedRequests S ++
      requests (S.coders.framing.drain (c.frameReader.buf ++ data)).1 := by
  unfold receivedRequests
  rw [hdata, Framing.drain_append, ← hr.left hc, requests_append (hr.noneFatal hc)]

theorem reading_append
    (hleft : c'.connected = true → c'.frameReader.buf = (S.coders.framing.drain (c.frameReader.buf ++ data)).2)
    (hfatal : c'.connected = true → NoneFatal (S.coders.framing.drain (c.frameReader.buf ++ data)).1) :
    c'.Reading S := by
  refine ⟨fun h' => ?_, fun h' e he => ?_⟩
  · rw [hleft h', hdata, Framing.drain_append c.received, ← hr.left hc]
  · rw [hdata, Framing.drain_append, ← hr.left hc] at he
    rcases mem_append.mp he with he | he
    · exact hr.noneFatal hc e he
    · exact hfatal h' e he

end

/-- A registered source that is readable has an event queued. -/
theorem IpcStream.wouldBlock_or_reregister (s : IpcStream) : s.WouldBlock ∨ s.reregister.ready = true := by
  by_cases hw : s.WouldBlock
  · exact .inl hw
  · right
    unfold IpcStream.reregister
    rcases hu : s.unread with _ | ⟨b, bs⟩
    · have heof : s.eof = true := by
        by_contra hne
        exact hw ⟨hu, by simpa using hne⟩
      simp [heof]
    · simp

section AfterReads

variable {S : MuxService Fields σ} {c c₂ : Client Fields σ} {data : List UInt8}

section

variable (h : c.Settled S) (hr : c.Reading S) (hc : c.connected = true) (hreceived : c₂.received = c.received ++ data)
  (hsame : c₂.dispatched = c.dispatched)
include h hr hc hreceived hsame

/-- **A connection that is given up** was settled if no request is left among the bytes. -/
theorem disconnectClient_settled_iff :
    c₂.disconnectClient.Reading S ∧
      (c₂.disconnectClient.Settled S ↔ requests (S.coders.framing.drain (c.frameReader.buf ++ data)).1 = []) := by
  have hreqs : c₂.disconnectClient.receivedRequests S = _ := receivedRequests_append hr hc hreceived
  refine ⟨⟨nofun, nofun⟩, fun hs => ?_, fun hnil => ⟨?_, nofun⟩⟩
  · have hd : c₂.disconnectClient.dispatched = _ := hs.dispatched
    rw [hreqs, ← h.dispatched] at hd
    have hd' : c.dispatched = c.dispatched ++ _ := hsame.symm.trans hd
    exact self_eq_append_right.mp hd'
  · rw [hreqs, hnil, append_nil, ← h.dispatched]
    exact hsame

/-- **A connection whose frames are dispatched** is settled if all replies are queued and it is woken for what it has
    not read. -/
theorem dispatchFrames_settled_iff (hbuf : c₂.frameReader = ⟨c.frameReader.buf ++ data⟩)
    (hopen₂ : c₂.connected = true) :
    (dispatchFrames S c₂.frameReader.buf.length c₂).Reading S ∧
      ((dispatchFrames S c₂.frameReader.buf.length c₂).Settled S ↔
        c₂.RepliesQueue S (S.coders.framing.drain (c.frameReader.buf ++ data)).1 ∧
        (c₂.stream.WouldBlock ∨ c₂.stream.ready = true ∨
          rearms S c₂.mux (S.coders.framing.drain (c.frameReader.buf ++ data)).1 = true)) := by
  have hserve := dispatchFrames_spec S (c.frameReader.buf ++ data) c₂.frameReader.buf.length c₂
    (by rw [hbuf]) hopen₂ hbuf
  generalize dispatchFrames S c₂.frameReader.buf.length c₂ = c₃ at hserve ⊢
  have hreceived₃ : c₃.received = c.received ++ data := hserve.received.trans hreceived
  have hreqs : c₃.receivedRequests S = _ := receivedRequests_append hr hc hreceived₃
  have hblock : c₃.stream.WouldBlock ↔ c₂.stream.WouldBlock := by
    unfold IpcStream.WouldBlock
    rw [hserve.unread, hserve.eof]
  refine ⟨reading_append hr hc hreceived₃ hserve.left hserve.noneFatal, fun hs => ⟨?_, ?_⟩, ?_⟩
  · rw [← hserve.complete, hs.dispatched, hreqs, hsame, h.dispatched]
  · by_cases hre : rearms S c₂.mux (S.coders.framing.drain (c.frameReader.buf ++ data)).1 = true
    · exact .inr (.inr hre)
    · have hopen₃ := hserve.silent (by simpa using hre)
      rcases hs.awake hopen₃ with hw | hready
      · exact .inl (hblock.mp hw)
      · rw [hserve.ready hopen₃, if_neg hre] at hready
        exact .inr (.inl hready)
  · rintro ⟨hq, hawake⟩
    refine ⟨?_, fun hopen₃ => ?_⟩
    · rw [hserve.complete.mpr hq, hreqs, hsame, h.dispatched]
    · rw [hblock, hserve.ready hopen₃]
      rcases hawake with hw | hready | hre
      · exact .inl hw
      · by_cases hre : rearms S c₂.mux (S.coders.framing.drain (c.frameReader.buf ++ data)).1 = true
        · rw [if_pos hre]
          exact IpcStream.wouldBlock_or_reregister _
        · rw [if_neg hre]
          exact .inr hready
      · rw [if_pos hre]
        exact IpcStream.wouldBlock_or_reregister _

end

end AfterReads

/-- **One event, exactly.** From a settled connection the handler ends settled if and only if the event meets
    `Delivers`; the frame reader stays in step with the bytes received in any case. -/
theorem handleClientEvent_settled_iff (h : c.Settled S) (hr : c.Reading S) (script : EventScript) :
    (c.handleClientEvent S script).Reading S ∧
      ((c.handleClientEvent S script).Settled S ↔ c.Delivers S (.event script)) := by
  by_cases hc : c.connected = true
  swap
  · have hsame : c.handleClientEvent S script = c := by simp [handleClientEvent, hc]
    rw [hsame]
    exact ⟨hr, fun _ hc' => absurd hc' hc, fun _ => h⟩
  obtain ⟨connected, ready, writes, frameWriter, hbefore, -⟩ := beforeReads_eq c script
  have hevent : c.handleClientEvent S script =
      if !(c.beforeReads script).connected then c.beforeReads script
      else match (c.beforeReads script).readLoop 256 .wouldBlock script.reads with
        | (.failed, c) => c.disconnectClient
        | (.closed, c) => c.disconnectClient
        | (_, c) => c.dispatchFrames S c.frameReader.buf.length := by
    simp [handleClientEvent, hc]
  by_cases hopen : (c.beforeReads script).connected = true
  swap
  · -- the flush failed: nothing is read
    have hclosed : (c.beforeReads script).connected = false := by simpa using hopen
    rw [hevent, if_pos (by simp [hclosed])]
    refine ⟨⟨fun h' => absurd h' hopen, fun h' => absurd h' hopen⟩, fun _ _ h' => absurd h' hopen, fun _ => ?_⟩
    refine ⟨?_, fun h' => absurd h' hopen⟩
    rw [hbefore]
    exact h.dispatched
  obtain ⟨status, stream, data, hloop, hwould⟩ :=
    readLoop_eq 256 .wouldBlock (c.beforeReads script) script.reads
  rw [hevent, if_neg (by simp [hopen])]
  have hdelivers : c.Delivers S (.event script) ↔
      let (status, c) := (c.beforeReads script).readLoop 256 .wouldBlock script.reads
      let results := (S.coders.framing.drain c.frameReader.buf).1
      match status with
      | .closed => requests results = []
      | .failed => requests results = []
      | .wouldBlock => c.RepliesQueue S results
      | .gotData => c.RepliesQueue S results ∧
        (c.stream.WouldBlock ∨ c.stream.ready = true ∨ rearms S c.mux results = true) :=
    ⟨fun hd => hd hc hopen, fun hd _ _ => hd⟩
  rw [hdelivers, hloop]
  -- the connection after the reads
  generalize hread : extend { c.beforeReads script with stream } data = c₂
  have hreceived : c₂.received = c.received ++ data := by rw [← hread, hbefore]; rfl
  have hbuf : c₂.frameReader = ⟨c.frameReader.buf ++ data⟩ := by rw [← hread, hbefore]; rfl
  have hsame : c₂.dispatched = c.dispatched := by rw [← hread, hbefore]; rfl
  have hopen₂ : c₂.connected = true := by rw [← hread]; exact hopen
  have hstream : c₂.stream = stream := by rw [← hread]; rfl
  have hbuf' : c₂.frameReader.buf = c.frameReader.buf ++ data := by rw [hbuf]
  have hgone := disconnectClient_settled_iff h hr hc hreceived hsame
  have hserved := dispatchFrames_settled_iff h hr hc hreceived hsame hbuf hopen₂
  cases status with
  | closed | failed =>
    dsimp only
    rw [hbuf']
    exact hgone
  | wouldBlock =>
    dsimp only
    rw [hbuf'] at hserved ⊢
    have hw : c₂.stream.WouldBlock := by
      rcases hwould rfl with ⟨h256, -⟩ | hw
      · exact absurd h256 (by decide)
      · rw [hstream]
        exact hw
    exact ⟨hserved.1, hserved.2.trans ⟨fun hq => hq.1, fun hq => ⟨hq, .inl hw⟩⟩⟩
  | gotData =>
    dsimp only
    rw [hbuf'] at hserved ⊢
    exact hserved

/-! ## Runs -/

theorem settled_accept (S : MuxService Fields σ) (mux : σ) : (accept mux : Client Fields σ).Settled S :=
  ⟨by simp [accept, receivedRequests, requests], fun _ => .inl ⟨rfl, rfl⟩⟩

theorem reading_accept (S : MuxService Fields σ) (mux : σ) : (accept mux : Client Fields σ).Reading S := by
  refine ⟨fun _ => ?_, fun _ e he => ?_⟩
  · simp [accept, FrameReader.new]
  · simp [accept] at he

/-- A step that only adds an event, or leaves the socket as it is, keeps a connection settled. -/
theorem Settled.socket {c' : Client Fields σ} (h : c.Settled S) (hconn : c'.connected = c.connected)
    (hreceived : c'.received = c.received) (hdispatched : c'.dispatched = c.dispatched)
    (hstream : c'.stream.ready = true ∨ c'.stream.unread = c.stream.unread ∧ c'.stream.eof = c.stream.eof ∧ c'.stream.ready = c.stream.ready) :
    c'.Settled S := by
  refine ⟨?_, fun hopen => ?_⟩
  · rw [hdispatched, h.dispatched]
    unfold receivedRequests
    rw [hreceived]
  · rcases hstream with hready | ⟨hunread, heof, hready⟩
    · exact .inr hready
    · rw [hconn] at hopen
      unfold IpcStream.WouldBlock
      rw [hunread, heof, hready]
      exact h.awake hopen

theorem Reading.socket {c' : Client Fields σ} (hr : c.Reading S) (hconn : c'.connected = c.connected)
    (hreceived : c'.received = c.received) (hreader : c'.frameReader = c.frameReader) : c'.Reading S := by
  refine ⟨fun hopen => ?_, fun hopen => ?_⟩
  · rw [hreader, hreceived]
    exact hr.left (hconn ▸ hopen)
  · rw [hreceived]
    exact hr.noneFatal (hconn ▸ hopen)

/-- Queueing a notification touches the outgoing side, and may register the source again. -/
theorem notify_eq (S : MuxService Fields σ) (c : Client Fields σ) (pdu : MuxPdu Fields) (writes : List WriteResult) :
    ∃ frameWriter writes', c.notify S pdu writes =
        { c with frameWriter, stream := { c.stream with writes := writes' } } ∨
      c.notify S pdu writes =
        { c with frameWriter, stream := { c.stream.reregister with writes := writes' } } := by
  obtain ⟨frameWriter, writes', hq⟩ := queueFrame_snd S { c with stream := { c.stream with writes } } 0 pdu
  refine ⟨frameWriter, writes', ?_⟩
  unfold notify
  dsimp only
  rw [hq]
  split
  · exact .inr rfl
  · exact .inl rfl

/-- **One step, exactly.** -/
theorem step_settled_iff (c : Client Fields σ) (e : Step Fields σ) (hr : c.Reading S) (h : c.Settled S) :
    (c.step S e).Reading S ∧ ((c.step S e).Settled S ↔ c.Delivers S e) := by
  cases e with
  | arrive bytes =>
    refine ⟨hr.socket rfl rfl rfl, fun _ => trivial, fun _ => h.socket rfl rfl rfl ?_⟩
    rcases c.stream.arrive_cases bytes with heq | hready
    · right
      show (c.stream.arrive bytes).unread = _ ∧ (c.stream.arrive bytes).eof = _ ∧ (c.stream.arrive bytes).ready = _
      rw [heq]
      exact ⟨rfl, rfl, rfl⟩
    · exact .inl hready
  | close =>
    refine ⟨hr.socket rfl rfl rfl, fun _ => trivial, fun _ => h.socket rfl rfl rfl ?_⟩
    rcases c.stream.close_cases with heq | hready
    · right
      show c.stream.close.unread = _ ∧ c.stream.close.eof = _ ∧ c.stream.close.ready = _
      rw [heq]
      exact ⟨rfl, rfl, rfl⟩
    · exact .inl hready
  | event script => exact handleClientEvent_settled_iff h hr script
  | other mux => exact ⟨hr.socket rfl rfl rfl, fun _ => trivial, fun _ => h.socket rfl rfl rfl (.inr ⟨rfl, rfl, rfl⟩)⟩
  | notify pdu writes =>
    simp only [step]
    split
    swap
    · exact ⟨hr, fun _ => trivial, fun _ => h⟩
    obtain ⟨frameWriter, writes', heq | heq⟩ := notify_eq S c pdu writes
    · rw [heq]
      exact ⟨hr.socket rfl rfl rfl, fun _ => trivial, fun _ => h.socket rfl rfl rfl (.inr ⟨rfl, rfl, rfl⟩)⟩
    · rw [heq]
      refine ⟨hr.socket rfl rfl rfl, fun _ => trivial, fun _ => ⟨?_, fun _ => ?_⟩⟩
      · exact h.dispatched
      · exact IpcStream.wouldBlock_or_reregister c.stream

/-- **Exactly when no request is lost.** Along a run of a connection, in any order of arrivals, the peer's
    closing, handled events and work elsewhere in the server, the connection is settled after every step if
    and only if every event meets `Delivers`. -/
theorem settled_run_iff (S : MuxService Fields σ) (mux : σ) (steps : List (Step Fields σ)) :
    (∀ n, (run (step S) (accept mux) (steps.take n)).Settled S) ↔
      Along (step S) (Delivers S) (accept mux) steps :=
  along_iff_forall_take (fun c e hr h => step_settled_iff c e hr h) (reading_accept S mux)
    (settled_accept S mux)

/-! ## Two lost requests -/

/-- The variants of the samples: `Ping`, its answer, and errors. -/
def SampleFields : MsgType → Type
  | .ping => Unit
  | .pingAck => Unit
  | .error => String
  | _ => Empty

/-- A server that answers `Ping`, with bincode's four-byte variant indices for the field-less variants. -/
def sampleService : MuxService SampleFields Unit where
  coders :=
    { serialize := fun pdu =>
        if pdu.msgType = .ping then .ok [8, 0, 0, 0]
        else if pdu.msgType = .pingAck then .ok [36, 0, 0, 0]
        else .error "not called"
      deserialize := fun bytes =>
        if bytes = [8, 0, 0, 0] then .ok ⟨.ping, ()⟩
        else if bytes = [36, 0, 0, 0] then .ok ⟨.pingAck, ()⟩
        else .error "not called"
      encodeAll := fun _ => .error "not called"
      decodeAll := fun _ => .error "not called" }
  errorFields := id
  dispatch := fun mux pdu => (mux, if pdu.msgType = .ping then some ⟨.pingAck, ()⟩ else none)

/-- The header of a `Ping` frame with sequence number 1. -/
def pingHeader (payloadLen : UInt32) : FrameHeader where
  magic := FRAME_MAGIC
  version := PROTOCOL_VERSION
  flags := 0
  msgType := MsgType.ping.toU16
  seq := 1
  payloadLen

/-- The 18 bytes of a `Ping` frame. -/
def pingBytes : List UInt8 := (pingHeader 4).encode ++ [8, 0, 0, 0]

/-- A client sends a request and closes; one event delivers both, and the request is never dispatched. -/
theorem request_before_eof_is_lost :
    ¬ (run (step sampleService) (accept ())
      [.arrive pingBytes, .close, .event ⟨[], []⟩]).Settled sampleService := by
  intro h
  have hlost := congrArg List.length h.dispatched
  exact absurd hlost (by decide)

/-- A burst that takes more than 256 reads: the loop stops, and no event is left to go on. -/
example :
    ¬ (run (step sampleService) (accept ())
      [.arrive ((pingHeader 400).encode ++ List.replicate 243 0),
        .event ⟨List.replicate 256 ⟨[], false, 1, none⟩, []⟩]).Settled sampleService := by
  intro h
  have hstuck := h.awake (by decide +kernel)
  exact absurd hstuck (by decide +kernel)

end Client

end OriTerm
