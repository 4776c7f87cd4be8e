import Mathlib.Data.List.AList
import Mathlib.Data.Nat.ModEq
import OriTerm.Lib.Run
import OriTerm.Mux.Protocol

/-!
# `Mux.Transport` — sequence numbers of the client's RPCs

The client gives every request a sequence number from a 32-bit counter that goes up; the keep-alive pings take theirs
from one that goes down. The writer thread registers the reply channel of an RPC under its number, the reader thread
looks up the number of each response. Nothing compares the two counters, and a number comes back after `2^32 - 1`
allocations.

`ClientTransport` is the client with both directions of the connection. Each frame carries a ghost, its `Origin`: the
how-manieth allocation it goes back to. `seqOf` and `pingSeqOf` are the numbers of an origin in closed form, so two
origins meet exactly on a residue (`seqOf_eq_iff`, `seqOf_eq_pingSeqOf_iff`). `Apart` is the guard that says no
origin in flight is met by a new one; **`correlation_run`** is what follows from it.
-/

namespace OriTerm

open Lib List AList

variable {Fields : MsgType → Type}

/-! ## The client -/

/-- Server-to-client push. -/
def MsgType.isNotification : MsgType → Bool
  | .notifyPaneOutput | .notifyPaneExited | .notifyPaneMetadataChanged | .notifyPaneBell | .notifyPaneUrgencyHint
  | .notifyCommandComplete | .notifyClipboardStore | .notifyClipboardLoad | .notifyPaneSnapshot | .notifyNewTab
  | .notifyHostClipboardLoad | .notifyHostColorQuery | .notifyDesktopNotification
  | .notifyClearPendingDesktopNotifications => true
  | _ => false

/-- Where a frame comes from: the `n`-th request (an RPC or not), the `k`-th ping, or the daemon itself. -/
inductive Origin where
  | request (n : Nat) (rpc : Bool)
  | ping (k : Nat)
  | push
  deriving DecidableEq, Repr

/-- The number of a request. -/
def Origin.number : Origin → Option Nat
  | .request n _ => some n
  | _ => none

/-- The number of a ping. -/
def Origin.pingNumber : Origin → Option Nat
  | .ping k => some k
  | _ => none

/-- A frame on the connection. -/
structure WireFrame (Fields : MsgType → Type) extends DecodedFrame Fields where
  origin : Origin

/-- A request queued for the writer thread. The reply channel, if any, is the one of the RPC `number`. -/
structure SendRequest (Fields : MsgType → Type) where
  seq : UInt32
  pdu : MuxPdu Fields
  replyTx : Bool
  number : Nat

structure ClientTransport (Fields : MsgType → Type) where
  /-- 1 and 2 are used by the handshake. -/
  nextSeq : UInt32 := 3
  sendQueue : List (SendRequest Fields) := []
  /-- Reply channels by sequence number. -/
  pending : AList (fun _ : UInt32 => Nat) := ∅
  alive : Bool := true
  /-- `0`: no ping outstanding. -/
  outstandingPingSeq : UInt32 := 0
  pingSeqCounter : UInt32 := 0xFFFFFFFF
  /-- The RPC that blocks its caller. -/
  waiting : Option Nat := none
  toDaemon : List (WireFrame Fields) := []
  toClient : List (WireFrame Fields) := []
  /-- What was sent into reply channels: the RPC and the frame. -/
  delivered : List (Nat × WireFrame Fields) := []
  /-- Every frame the reader handled. -/
  handled : List (WireFrame Fields) := []
  /-- How many request numbers were allocated. -/
  allocated : Nat := 0
  /-- How many pings were sent. -/
  pings : Nat := 0

namespace ClientTransport

variable (pdu : MuxPdu Fields) (k : Nat)

def new : ClientTransport Fields := {}

/-- Skips 0, which is reserved for notifications. -/
def allocSeq (t : ClientTransport Fields) : UInt32 × ClientTransport Fields :=
  let next := t.nextSeq + 1
  (t.nextSeq, { t with nextSeq := if next = 0 then 1 else next, allocated := t.allocated + 1 })

/-- Skips 0, which is the sentinel for no outstanding ping. -/
def nextPingSeq (current : UInt32) : UInt32 :=
  match current - 1 with
  | 0 => 0xFFFFFFFF
  | n => n

/-- Queues a request; `replyTx` for an RPC. -/
def send (replyTx : Bool) (t : ClientTransport Fields) : ClientTransport Fields :=
  let number := t.allocated
  let (seq, t) := t.allocSeq
  { t with
    sendQueue := t.sendQueue ++ [{ seq, pdu, replyTx, number }]
    waiting := if replyTx then some number else none }

/-- The start of a call; a call on a dead connection fails, and a blocked caller makes none. -/
def call (replyTx : Bool) (t : ClientTransport Fields) : ClientTransport Fields :=
  if !t.alive || t.waiting.isSome then t else t.send pdu replyTx

/-- The writer exits: every reply channel it or the pending map holds is dropped. -/
def drainPending (t : ClientTransport Fields) : ClientTransport Fields :=
  { t with alive := false, pending := ∅, sendQueue := [], waiting := none }

/-- The writer takes a request, registers its reply channel and writes the frame. -/
def writeRequest (t : ClientTransport Fields) : ClientTransport Fields :=
  if !t.alive then t.drainPending
  else match t.sendQueue with
    | [] => t
    | req :: rest =>
      { t with
        sendQueue := rest
        pending := if req.replyTx then t.pending.insert req.seq req.number else t.pending
        toDaemon := t.toDaemon ++ [⟨⟨req.seq, req.pdu⟩, .request req.number req.replyTx⟩] }

/-- The health check; a ping still outstanding means a dead connection. -/
def sendPing (ping : Fields .ping) (t : ClientTransport Fields) : ClientTransport Fields :=
  if !t.alive then t.drainPending
  else if t.outstandingPingSeq ≠ 0 then t.drainPending
  else
    { t with
      outstandingPingSeq := t.pingSeqCounter
      pingSeqCounter := nextPingSeq t.pingSeqCounter
      toDaemon := t.toDaemon ++ [⟨⟨t.pingSeqCounter, ⟨.ping, ping⟩⟩, .ping t.pings⟩]
      pings := t.pings + 1 }

/-- The reader handles one frame. -/
def readFrame (t : ClientTransport Fields) : ClientTransport Fields :=
  match t.toClient with
  | [] => t
  | frame :: rest =>
    let expectedPing := t.outstandingPingSeq
    let t := { t with toClient := rest, handled := t.handled ++ [frame] }
    if expectedPing ≠ 0 && expectedPing == frame.seq && frame.pdu.msgType == .pingAck then
      { t with outstandingPingSeq := 0 }
    else if frame.seq == 0 || frame.pdu.msgType.isNotification then t
    else match t.pending.lookup frame.seq with
      | some number =>
        { t with
          pending := t.pending.erase frame.seq
          delivered := t.delivered ++ [(number, frame)]
          waiting := if t.waiting = some number then none else t.waiting }
      | none => t

/-! ## The daemon -/

/-- What the daemon may answer: a ping with `PingAck` and only that; no notifications. -/
def Answers (request : MuxPdu Fields) : Option (MuxPdu Fields) → Bool
  | some reply => (request.msgType == .ping) == (reply.msgType == .pingAck) && !reply.msgType.isNotification
  | none => request.msgType != .ping

/-- The daemon dispatches the next request; the response carries its sequence number. -/
def dispatch (reply : Option (MuxPdu Fields)) (t : ClientTransport Fields) : ClientTransport Fields :=
  match t.toDaemon with
  | [] => t
  | request :: rest =>
    if Answers request.pdu reply then
      { t with
        toDaemon := rest
        toClient := t.toClient ++ (reply.map fun pdu => ⟨⟨request.seq, pdu⟩, request.origin⟩).toList }
    else t

/-! ## Interleavings -/

inductive Event (Fields : MsgType → Type) where
  | rpc (pdu : MuxPdu Fields)
  | fireAndForget (pdu : MuxPdu Fields)
  /-- `RPC_TIMEOUT`. -/
  | timeout
  | writeRequest
  | sendPing (ping : Fields .ping)
  | readFrame
  /-- The writer fails. -/
  | writeFails
  /-- The reader sees the end of the stream, or a decode error. -/
  | readFails
  /-- The daemon handles a request. -/
  | dispatch (reply : Option (MuxPdu Fields))
  /-- The daemon sends a frame with sequence number 0. -/
  | push (pdu : MuxPdu Fields)

def apply (t : ClientTransport Fields) : Event Fields → ClientTransport Fields
  | .rpc pdu => t.call pdu true
  | .fireAndForget pdu => t.call pdu false
  | .timeout => { t with waiting := none }
  | .writeRequest => t.writeRequest
  | .sendPing ping => t.sendPing ping
  | .readFrame => if t.alive then t.readFrame else t
  | .writeFails => t.drainPending
  | .readFails => { t with alive := false }
  | .dispatch reply => t.dispatch reply
  | .push pdu => { t with toClient := t.toClient ++ [⟨⟨0, pdu⟩, .push⟩] }

/-! ## The numbers in closed form -/

/-- How many sequence numbers there are. -/
def seqPeriod : Nat := 2 ^ 32 - 1

/-- The sequence number of the `n`-th request. -/
def seqOf (n : Nat) : UInt32 := .ofNat ((n + 2) % seqPeriod + 1)

/-- The sequence number of the `k`-th ping. -/
def pingSeqOf : UInt32 := .ofNat (seqPeriod - k % seqPeriod)

theorem toNat_seqOf (n : Nat) : (seqOf n).toNat = (n + 2) % seqPeriod + 1 := by
  have hlt : (n + 2) % seqPeriod < seqPeriod := Nat.mod_lt _ (by decide)
  unfold seqOf
  rw [UInt32.toNat_ofNat']
  unfold seqPeriod at hlt ⊢
  omega

theorem toNat_pingSeqOf : (pingSeqOf k).toNat = seqPeriod - k % seqPeriod := by
  unfold pingSeqOf
  rw [UInt32.toNat_ofNat']
  unfold seqPeriod
  omega

theorem seqOf_ne_zero (n : Nat) : seqOf n ≠ 0 := by
  intro h
  have hnat := toNat_seqOf n
  rw [h] at hnat
  simp at hnat

theorem pingSeqOf_ne_zero : pingSeqOf k ≠ 0 := by
  intro h
  have hnat := toNat_pingSeqOf k
  have hlt : k % seqPeriod < seqPeriod := Nat.mod_lt _ (by decide)
  rw [h, UInt32.toNat_zero] at hnat
  omega

theorem nextSeq_seqOf (n : Nat) : (if seqOf n + 1 = 0 then 1 else seqOf n + 1) = seqOf (n + 1) := by
  have hn := toNat_seqOf n
  have hn' := toNat_seqOf (n + 1)
  have hadd : (seqOf n + 1).toNat = ((seqOf n).toNat + 1) % 2 ^ 32 := UInt32.toNat_add ..
  apply UInt32.toNat_inj.mp
  unfold seqPeriod at hn hn'
  split
  · next h =>
    rw [h, UInt32.toNat_zero] at hadd
    rw [UInt32.toNat_one]
    omega
  · next h =>
    have hne : (seqOf n + 1).toNat ≠ 0 := fun h0 => h (UInt32.toNat_inj.mp h0)
    omega

theorem nextPingSeq_pingSeqOf : nextPingSeq (pingSeqOf k) = pingSeqOf (k + 1) := by
  have hk := toNat_pingSeqOf k
  have hk' := toNat_pingSeqOf (k + 1)
  have hsub : (pingSeqOf k - 1).toNat = (2 ^ 32 - 1 + (pingSeqOf k).toNat) % 2 ^ 32 := UInt32.toNat_sub ..
  apply UInt32.toNat_inj.mp
  unfold seqPeriod at hk hk'
  unfold nextPingSeq
  split
  · next h =>
    rw [h, UInt32.toNat_zero] at hsub
    have hmax : (0xFFFFFFFF : UInt32).toNat = 2 ^ 32 - 1 := by decide
    omega
  · next h =>
    have hne : (pingSeqOf k - 1).toNat ≠ 0 := fun h0 => h (UInt32.toNat_inj.mp h0)
    omega

/-- **Two requests share a number exactly a multiple of the period apart.** -/
theorem seqOf_eq_iff (m n : Nat) : seqOf m = seqOf n ↔ m ≡ n [MOD seqPeriod] := by
  rw [← UInt32.toNat_inj, toNat_seqOf, toNat_seqOf, Nat.add_right_cancel_iff]
  exact Nat.ModEq.add_iff_right rfl

/-- **A request shares the number of a ping exactly when the two counters have met.** -/
theorem seqOf_eq_pingSeqOf_iff (n k : Nat) : seqOf n = pingSeqOf k ↔ seqPeriod ∣ n + k + 3 := by
  rw [← UInt32.toNat_inj, toNat_seqOf, toNat_pingSeqOf]
  unfold seqPeriod
  omega

/-! ## What a step can do -/

/-- The reader takes the frame for the pong of its ping. -/
def IsPong (t : ClientTransport Fields) (frame : WireFrame Fields) : Prop :=
  t.outstandingPingSeq ≠ 0 ∧ t.outstandingPingSeq = frame.seq ∧ frame.pdu.msgType = .pingAck

/-- The steps by their effect. -/
inductive Step (t : ClientTransport Fields) : Event Fields → ClientTransport Fields → Prop where
  | quiet {e} (alive : Bool) (waiting : Option Nat) (h : alive = true → t.alive = true) : Step t e { t with alive, waiting }
  | rpc (pdu : MuxPdu Fields) (h : t.alive = true) : Step t (.rpc pdu) (t.send pdu true)
  | fireAndForget (pdu : MuxPdu Fields) (h : t.alive = true) : Step t (.fireAndForget pdu) (t.send pdu false)
  | drain {e} : Step t e t.drainPending
  | write {e} (req : SendRequest Fields) (rest : List (SendRequest Fields)) (hq : t.sendQueue = req :: rest) :
    Step t e
      { t with
        sendQueue := rest
        pending := if req.replyTx then t.pending.insert req.seq req.number else t.pending
        toDaemon := t.toDaemon ++ [⟨⟨req.seq, req.pdu⟩, .request req.number req.replyTx⟩] }
  | ping (fields : Fields .ping) (h : t.outstandingPingSeq = 0) :
    Step t (.sendPing fields)
      { t with
        outstandingPingSeq := t.pingSeqCounter
        pingSeqCounter := nextPingSeq t.pingSeqCounter
        toDaemon := t.toDaemon ++ [⟨⟨t.pingSeqCounter, ⟨.ping, fields⟩⟩, .ping t.pings⟩]
        pings := t.pings + 1 }
  | drop {e} (request : WireFrame Fields) (rest : List (WireFrame Fields)) (hd : t.toDaemon = request :: rest) :
    Step t e { t with toDaemon := rest }
  | answer {e} (request : WireFrame Fields) (rest : List (WireFrame Fields)) (pdu : MuxPdu Fields)
    (hd : t.toDaemon = request :: rest) (h : Answers request.pdu (some pdu) = true) :
    Step t e { t with toDaemon := rest, toClient := t.toClient ++ [⟨⟨request.seq, pdu⟩, request.origin⟩] }
  | push {e} (pdu : MuxPdu Fields) : Step t e { t with toClient := t.toClient ++ [⟨⟨0, pdu⟩, .push⟩] }
  | pong {e} (frame : WireFrame Fields) (rest : List (WireFrame Fields)) (hc : t.toClient = frame :: rest)
    (ha : t.alive = true) (h : t.IsPong frame) :
    Step t e { t with toClient := rest, handled := t.handled ++ [frame], outstandingPingSeq := 0 }
  | skip {e} (frame : WireFrame Fields) (rest : List (WireFrame Fields)) (hc : t.toClient = frame :: rest)
    (ha : t.alive = true) (hp : ¬ t.IsPong frame)
    (h : frame.seq = 0 ∨ frame.pdu.msgType.isNotification = true ∨ t.pending.lookup frame.seq = none) :
    Step t e { t with toClient := rest, handled := t.handled ++ [frame] }
  | deliver {e} (frame : WireFrame Fields) (rest : List (WireFrame Fields)) (number : Nat) (waiting : Option Nat)
    (hc : t.toClient = frame :: rest) (ha : t.alive = true) (hp : ¬ t.IsPong frame)
    (h : t.pending.lookup frame.seq = some number) :
    Step t e
      { t with
        toClient := rest
        handled := t.handled ++ [frame]
        pending := t.pending.erase frame.seq
        delivered := t.delivered ++ [(number, frame)]
        waiting }

section

variable (t : ClientTransport Fields) (e : Event Fields)
include t e

theorem Step.refl : Step t e t := .quiet t.alive t.waiting id

theorem step_readFrame (ha : t.alive = true) : Step t e t.readFrame := by
  unfold readFrame
  split
  · exact .refl t e
  · next frame rest hc =>
    dsimp only
    split
    · next hpong =>
      refine .pong frame rest hc ha ?_
      simpa [IsPong, and_assoc] using hpong
    · next hpong =>
      have hnot : ¬ t.IsPong frame := fun h => hpong (by simpa [IsPong, and_assoc] using h)
      split
      · next hskip => exact .skip frame rest hc ha hnot (by simpa [← or_assoc] using Or.inl hskip)
      · split
        · next number hl => exact .deliver frame rest number _ hc ha hnot hl
        · next hl => exact .skip frame rest hc ha hnot (.inr (.inr hl))

/-- **Every event is one of the steps.** -/
theorem step_apply : Step t e (t.apply e) := by
  cases e with
  | rpc pdu =>
    unfold apply call
    dsimp only
    split
    · exact .refl t _
    · next h => exact .rpc pdu (by simp_all)
  | fireAndForget pdu =>
    unfold apply call
    dsimp only
    split
    · exact .refl t _
    · next h => exact .fireAndForget pdu (by simp_all)
  | timeout => exact .quiet t.alive none id
  | writeRequest =>
    unfold apply writeRequest
    dsimp only
    split
    · exact .drain
    · split
      · exact .refl t _
      · next req rest hq => exact .write req rest hq
  | sendPing fields =>
    unfold apply sendPing
    dsimp only
    split
    · exact .drain
    · split
      · exact .drain
      · next h => exact .ping fields (not_not.mp h)
  | readFrame =>
    unfold apply
    dsimp only
    split
    · next ha => exact step_readFrame t _ ha
    · exact .refl t _
  | writeFails => exact .drain
  | readFails => exact .quiet false t.waiting nofun
  | dispatch reply =>
    unfold apply dispatch
    dsimp only
    split
    · exact .refl t _
    · next request rest hd =>
      split
      · next h =>
        cases reply with
        | none =>
          rw [Option.map_none, Option.toList_none, append_nil]
          exact .drop request rest hd
        | some pdu => exact .answer request rest pdu hd h
      · exact .refl t _
  | push pdu => exact .push pdu

end

/-! ## What is in flight -/

/-- The sequence number an origin was given. -/
def originSeq : Origin → UInt32
  | .request n _ => seqOf n
  | .ping k => pingSeqOf k
  | .push => 0

/-- Both directions of the connection, what the client will see first in front. -/
def wire (t : ClientTransport Fields) : List (WireFrame Fields) := t.toClient ++ t.toDaemon

/-- The requests written and not yet done with. -/
def wireNumbers (t : ClientTransport Fields) : List Nat := t.wire.filterMap (·.origin.number)

def wirePings (t : ClientTransport Fields) : List Nat := t.wire.filterMap (·.origin.pingNumber)

def queueNumbers (t : ClientTransport Fields) : List Nat := t.sendQueue.map (·.number)

/-- The request is queued, on the connection, or waits for its response. -/
def InFlight (t : ClientTransport Fields) (n : Nat) : Prop :=
  n ∈ t.queueNumbers ∨ n ∈ t.wireNumbers ∨ ∃ seq, t.pending.lookup seq = some n

/-- The request `n`, numbered `seq`, waits to be written or to be answered. -/
def Outstanding (t : ClientTransport Fields) (seq : UInt32) (n : Nat) : Prop :=
  (∃ req ∈ t.sendQueue, req.seq = seq ∧ req.number = n) ∨ t.pending.lookup seq = some n

/-- No number given now is one that is in flight. -/
def Apart (t : ClientTransport Fields) : Event Fields → Prop
  | .rpc _ | .fireAndForget _ =>
    (∀ m, t.InFlight m → ¬ m ≡ t.allocated [MOD seqPeriod])
      ∧ (t.outstandingPingSeq ≠ 0 → ¬ seqPeriod ∣ t.allocated + (t.pings - 1) + 3)
  | .sendPing _ => ∀ m, t.InFlight m → ¬ seqPeriod ∣ m + t.pings + 3
  | _ => True

/-! ## What holds in every run -/

/-- Every number is the one its origin was given. -/
structure Numbered (t : ClientTransport Fields) : Prop where
  nextSeq : t.nextSeq = seqOf t.allocated
  pingSeqCounter : t.pingSeqCounter = pingSeqOf t.pings
  outstandingPing : t.outstandingPingSeq ≠ 0 → t.outstandingPingSeq = pingSeqOf (t.pings - 1)
  fresh : ∀ n, t.InFlight n → n < t.allocated
  queued : ∀ req ∈ t.sendQueue, req.seq = seqOf req.number
  framed : ∀ frame ∈ t.wire, frame.seq = originSeq frame.origin
  registered : ∀ seq n, t.pending.lookup seq = some n → seq = seqOf n

theorem numbered_new : Numbered (new : ClientTransport Fields) where
  nextSeq := (by decide : (3 : UInt32) = seqOf 0)
  pingSeqCounter := (by decide : (0xFFFFFFFF : UInt32) = pingSeqOf 0)
  outstandingPing h := absurd rfl h
  fresh n h := by
    rcases h with h | h | ⟨seq, h⟩
    · cases h
    · cases h
    · cases h
  queued req h := by cases h
  framed frame h := by cases h
  registered seq n h := by cases h

variable {t t' : ClientTransport Fields}

variable {n : Nat}

theorem mem_wireNumbers : n ∈ t.wireNumbers ↔ ∃ frame ∈ t.wire, frame.origin.number = some n :=
  mem_filterMap

/-! ### Where things come from -/

variable {frame : WireFrame Fields} {e : Event Fields}

/-- A frame on the connection was there, or was written by one of the two sides. -/
theorem Step.mem_wire (hs : Step t e t') (hf : frame ∈ t'.wire) :
    (∃ g ∈ t.wire, g.seq = frame.seq ∧ g.origin = frame.origin)
      ∨ (∃ req ∈ t.sendQueue, frame.seq = req.seq ∧ frame.origin = .request req.number req.replyTx)
      ∨ (frame.seq = t.pingSeqCounter ∧ frame.origin = .ping t.pings)
      ∨ (frame.seq = 0 ∧ frame.origin = .push) := by
  have hold : frame ∈ t.toClient ∨ frame ∈ t.toDaemon →
      ∃ g ∈ t.wire, g.seq = frame.seq ∧ g.origin = frame.origin :=
    fun h => ⟨frame, mem_append.mpr h, rfl, rfl⟩
  cases hs with
  | quiet | rpc | fireAndForget | drain => exact .inl (hold (mem_append.mp hf))
  | write req rest hq =>
    simp only [wire, mem_append, mem_singleton] at hf
    rcases hf with hf | hf | rfl
    · exact .inl (hold (.inl hf))
    · exact .inl (hold (.inr hf))
    · exact .inr (.inl ⟨req, hq ▸ mem_cons_self, rfl, rfl⟩)
  | ping fields _ =>
    simp only [wire, mem_append, mem_singleton] at hf
    rcases hf with hf | hf | rfl
    · exact .inl (hold (.inl hf))
    · exact .inl (hold (.inr hf))
    · exact .inr (.inr (.inl ⟨rfl, rfl⟩))
  | drop request rest hd =>
    rcases mem_append.mp hf with hf | hf
    · exact .inl (hold (.inl hf))
    · exact .inl (hold (.inr (hd ▸ mem_cons_of_mem _ hf)))
  | answer request rest pdu hd _ =>
    simp only [wire, mem_append, mem_singleton] at hf
    rcases hf with (hf | rfl) | hf
    · exact .inl (hold (.inl hf))
    · exact .inl ⟨request, mem_append_right _ (hd ▸ mem_cons_self), rfl, rfl⟩
    · exact .inl (hold (.inr (hd ▸ mem_cons_of_mem _ hf)))
  | push pdu =>
    simp only [wire, mem_append, mem_singleton] at hf
    rcases hf with (hf | rfl) | hf
    · exact .inl (hold (.inl hf))
    · exact .inr (.inr (.inr ⟨rfl, rfl⟩))
    · exact .inl (hold (.inr hf))
  | pong taken rest hc | skip taken rest hc | deliver taken rest number waiting hc =>
    exact .inl (hold ((mem_append.mp hf).imp (fun hf => hc ▸ mem_cons_of_mem _ hf) id))

/-- A lookup that survives the removal of another key. -/
theorem lookup_erase_of {seq seq' : UInt32} {pending : AList (fun _ : UInt32 => Nat)}
    (h : (pending.erase seq).lookup seq' = some n) : seq' ≠ seq ∧ pending.lookup seq' = some n := by
  by_cases hseq : seq' = seq
  · rw [hseq, lookup_erase] at h
    cases h
  · rw [lookup_erase_ne hseq] at h
    exact ⟨hseq, h⟩

/-- A reply channel was registered, or belongs to a queued RPC. -/
theorem Step.lookup_pending (hs : Step t e t') {seq : UInt32} (hl : t'.pending.lookup seq = some n) :
    t.pending.lookup seq = some n ∨ ∃ req ∈ t.sendQueue, req.replyTx = true ∧ req.seq = seq ∧ req.number = n := by
  cases hs with
  | drain => cases hl
  | write req rest hq =>
    split at hl
    · next htx =>
      by_cases hseq : seq = req.seq
      · rw [hseq, lookup_insert] at hl
        exact .inr ⟨req, hq ▸ mem_cons_self, htx, hseq.symm, Option.some.inj hl⟩
      · rw [lookup_insert_ne hseq] at hl
        exact .inl hl
    · exact .inl hl
  | deliver taken rest number waiting _ _ _ _ =>
    exact .inl (lookup_erase_of hl).2
  | _ => exact .inl hl

/-- The event sends a request, which takes a number. -/
def Sends (t : ClientTransport Fields) (e : Event Fields) (t' : ClientTransport Fields) : Prop :=
  (∃ pdu, e = .rpc pdu ∨ e = .fireAndForget pdu) ∧ t'.allocated = t.allocated + 1

/-- A queued request was queued, or is the one being sent. -/
theorem Step.mem_sendQueue (hs : Step t e t') {req : SendRequest Fields} (hq : req ∈ t'.sendQueue) :
    req ∈ t.sendQueue ∨ (req.seq = t.nextSeq ∧ req.number = t.allocated ∧ t.Sends e t') := by
  cases hs with
  | rpc pdu _ =>
    rcases mem_append.mp hq with hq | hq
    · exact .inl hq
    · obtain rfl := mem_singleton.mp hq
      exact .inr ⟨rfl, rfl, ⟨pdu, .inl rfl⟩, rfl⟩
  | fireAndForget pdu _ =>
    rcases mem_append.mp hq with hq | hq
    · exact .inl hq
    · obtain rfl := mem_singleton.mp hq
      exact .inr ⟨rfl, rfl, ⟨pdu, .inr rfl⟩, rfl⟩
  | drain => cases hq
  | write first rest hqueue => exact .inl (hqueue ▸ mem_cons_of_mem _ hq)
  | _ => exact .inl hq

/-- What is in flight was, or is the request being sent. -/
theorem Step.inFlight (hs : Step t e t') (hn : t'.InFlight n) : t.InFlight n ∨ (n = t.allocated ∧ t.Sends e t') := by
  rcases hn with hn | hn | ⟨seq, hn⟩
  · obtain ⟨req, hreq, rfl⟩ := mem_map.mp hn
    rcases hs.mem_sendQueue hreq with hreq | ⟨-, hnum, hsends⟩
    · exact .inl (.inl (mem_map_of_mem hreq))
    · exact .inr ⟨hnum, hsends⟩
  · obtain ⟨frame, hf, hnum⟩ := mem_wireNumbers.mp hn
    rcases hs.mem_wire hf with ⟨g, hg, -, horigin⟩ | ⟨req, hreq, -, horigin⟩ | ⟨-, horigin⟩ | ⟨-, horigin⟩
    · exact .inl (.inr (.inl (mem_wireNumbers.mpr ⟨g, hg, horigin ▸ hnum⟩)))
    · rw [horigin] at hnum
      obtain rfl := Option.some.inj hnum
      exact .inl (.inl (mem_map_of_mem hreq))
    · rw [horigin] at hnum
      cases hnum
    · rw [horigin] at hnum
      cases hnum
  · rcases hs.lookup_pending hn with hn | ⟨req, hreq, -, -, rfl⟩
    · exact .inl (.inr (.inr ⟨seq, hn⟩))
    · exact .inl (.inl (mem_map_of_mem hreq))

/-- The counter of the requests. -/
theorem Step.counter (hs : Step t e t') :
    (t'.nextSeq = t.nextSeq ∧ t'.allocated = t.allocated)
      ∨ (t'.nextSeq = (if t.nextSeq + 1 = 0 then 1 else t.nextSeq + 1) ∧ t'.allocated = t.allocated + 1) := by
  cases hs with
  | rpc | fireAndForget => exact .inr ⟨rfl, rfl⟩
  | _ => exact .inl ⟨rfl, rfl⟩

/-- The counter of the pings, and the ping outstanding. -/
theorem Step.pingCounter (hs : Step t e t') :
    (t'.pingSeqCounter = t.pingSeqCounter ∧ t'.pings = t.pings
        ∧ (t'.outstandingPingSeq = t.outstandingPingSeq ∨ t'.outstandingPingSeq = 0))
      ∨ (t'.pingSeqCounter = nextPingSeq t.pingSeqCounter ∧ t'.pings = t.pings + 1
        ∧ t'.outstandingPingSeq = t.pingSeqCounter ∧ ∃ fields, e = .sendPing fields) := by
  cases hs with
  | ping fields _ => exact .inr ⟨rfl, rfl, rfl, fields, rfl⟩
  | pong frame rest hc _ _ => exact .inl ⟨rfl, rfl, .inr rfl⟩
  | _ => exact .inl ⟨rfl, rfl, .inl rfl⟩

/-- **Every step keeps the numbers.** -/
theorem Numbered.step (h : t.Numbered) (hs : Step t e t') : t'.Numbered where
  nextSeq := by
    rcases hs.counter with ⟨hseq, halloc⟩ | ⟨hseq, halloc⟩
    · rw [hseq, halloc]
      exact h.nextSeq
    · rw [hseq, halloc, h.nextSeq]
      exact nextSeq_seqOf t.allocated
  pingSeqCounter := by
    rcases hs.pingCounter with ⟨hseq, hpings, -⟩ | ⟨hseq, hpings, -⟩
    · rw [hseq, hpings]
      exact h.pingSeqCounter
    · rw [hseq, hpings, h.pingSeqCounter]
      exact nextPingSeq_pingSeqOf t.pings
  outstandingPing := by
    intro hne
    rcases hs.pingCounter with ⟨-, hpings, hout | hout⟩ | ⟨-, hpings, hout, -⟩
    · rw [hout, hpings]
      rw [hout] at hne
      exact h.outstandingPing hne
    · exact absurd hout hne
    · rw [hout, hpings]
      exact h.pingSeqCounter
  fresh := by
    intro n hn
    rcases hs.inFlight hn with hn | ⟨rfl, -, halloc⟩
    · have hlt := h.fresh n hn
      rcases hs.counter with ⟨-, halloc⟩ | ⟨-, halloc⟩ <;> omega
    · omega
  queued := by
    intro req hq
    rcases hs.mem_sendQueue hq with hq | ⟨hseq, hnum, -⟩
    · exact h.queued req hq
    · rw [hseq, hnum]
      exact h.nextSeq
  framed := by
    intro frame hf
    rcases hs.mem_wire hf with ⟨g, hg, hseq, horigin⟩ | ⟨req, hreq, hseq, horigin⟩ | ⟨hseq, horigin⟩ | ⟨hseq, horigin⟩
    · rw [← hseq, ← horigin]
      exact h.framed g hg
    · rw [hseq, horigin]
      exact h.queued req hreq
    · rw [hseq, horigin]
      exact h.pingSeqCounter
    · rw [hseq, horigin]
      rfl
  registered := by
    intro seq n hl
    rcases hs.lookup_pending hl with hl | ⟨req, hreq, -, rfl, rfl⟩
    · exact h.registered seq n hl
    · exact h.queued req hreq

theorem numbered_run (es : List (Event Fields)) : (run apply new es).Numbered :=
  run_invariant (fun t e h => h.step (step_apply t e)) numbered_new es

/-! ## What holds while the numbers stay apart -/

/-- Every response finds its request. -/
structure Correlated (t : ClientTransport Fields) : Prop extends Numbered t where
  apart : ∀ m n, t.InFlight m → t.InFlight n → seqOf m = seqOf n → m = n
  apartPing : ∀ n, t.InFlight n → t.outstandingPingSeq ≠ seqOf n
  /-- A request is in one place. -/
  once : (t.wireNumbers ++ t.queueNumbers).Nodup
  onePing : t.wirePings = [] ∨ ∃ k, t.wirePings = [k] ∧ t.outstandingPingSeq = pingSeqOf k
  pinged : ∀ frame ∈ t.toDaemon, ∀ k, frame.origin = .ping k → frame.pdu.msgType = .ping
  ponged : ∀ frame ∈ t.toClient, ∀ k, frame.origin = .ping k → frame.pdu.msgType = .pingAck
  response : ∀ frame ∈ t.toClient, ∀ n rpc, frame.origin = .request n rpc → frame.pdu.msgType.isNotification = false
  /-- The response of an RPC is awaited. -/
  awaited : t.alive = true → ∀ frame ∈ t.wire, ∀ n, frame.origin = .request n true → t.pending.lookup frame.seq = some n
  /-- No other is. -/
  unawaited : ∀ seq n, t.pending.lookup seq = some n →
    (∀ frame ∈ t.wire, frame.origin ≠ .request n false) ∧ n ∉ t.queueNumbers
  delivered : ∀ d ∈ t.delivered, d.2.origin = .request d.1 true
  answered : ∀ frame ∈ t.handled, ∀ n, frame.origin = .request n true → (n, frame) ∈ t.delivered

theorem correlated_new : Correlated (new : ClientTransport Fields) := by
  have hno : ∀ n, ¬ (new : ClientTransport Fields).InFlight n := fun n hn =>
    absurd (numbered_new.fresh n hn) (Nat.not_lt_zero n)
  exact
    { numbered_new with
      apart := fun m _ hm => absurd hm (hno m)
      apartPing := fun n hn => absurd hn (hno n)
      once := nodup_nil
      onePing := .inl rfl
      pinged := nofun
      ponged := nofun
      response := nofun
      awaited := nofun
      unawaited := nofun
      delivered := nofun
      answered := nofun }

/-- A number just given is apart from what is in flight. -/
theorem Correlated.step_apart (h : t.Correlated) (hG : t.Apart e) (hs : Step t e t') {m : Nat} (hm : t'.InFlight m)
    (hn : t'.InFlight n) (hseq : seqOf m = seqOf n) : m = n := by
  have hnew : ∀ m, t.InFlight m → t.Sends e t' → seqOf m ≠ seqOf t.allocated := by
    rintro m hm ⟨⟨pdu, rfl | rfl⟩, -⟩ heq
    · exact hG.1 m hm ((seqOf_eq_iff m _).mp heq)
    · exact hG.1 m hm ((seqOf_eq_iff m _).mp heq)
  rcases hs.inFlight hm with hm | ⟨rfl, hsends⟩
  · rcases hs.inFlight hn with hn | ⟨rfl, hsends⟩
    · exact h.apart m n hm hn hseq
    · exact absurd hseq (hnew m hm hsends)
  · rcases hs.inFlight hn with hn | ⟨rfl, -⟩
    · exact absurd hseq.symm (hnew n hn hsends)
    · rfl

theorem Correlated.step_apartPing (h : t.Correlated) (hG : t.Apart e) (hs : Step t e t') (hn : t'.InFlight n) :
    t'.outstandingPingSeq ≠ seqOf n := by
  intro hseq
  rcases hs.pingCounter with ⟨-, -, hout | hout⟩ | ⟨-, -, hout, fields, rfl⟩
  · rw [hout] at hseq
    rcases hs.inFlight hn with hn | ⟨rfl, ⟨pdu, he⟩, -⟩
    · exact h.apartPing n hn hseq
    · have hne : t.outstandingPingSeq ≠ 0 := fun h0 => seqOf_ne_zero _ (hseq.symm.trans h0)
      have hmeet := (seqOf_eq_pingSeqOf_iff t.allocated (t.pings - 1)).mp (hseq.symm.trans (h.outstandingPing hne))
      rcases he with rfl | rfl <;> exact hG.2 hne hmeet
  · exact seqOf_ne_zero n (hseq.symm.trans hout)
  · rcases hs.inFlight hn with hn | ⟨-, ⟨pdu, he | he⟩, -⟩
    · rw [hout, h.pingSeqCounter] at hseq
      exact hG n hn ((seqOf_eq_pingSeqOf_iff n t.pings).mp hseq.symm)
    · cases he
    · cases he

/-- A frame that the reader takes from the connection. -/
theorem wire_take {rest : List (WireFrame Fields)} (hc : t.toClient = frame :: rest) :
    t.wire = frame :: (rest ++ t.toDaemon) := by
  unfold wire
  rw [hc, cons_append]

/-- **The pong is the frame of a ping.** -/
theorem Correlated.origin_of_isPong (h : t.Correlated) (hf : frame ∈ t.wire) (hp : t.IsPong frame) :
    ∃ k, frame.origin = .ping k := by
  obtain ⟨hne, hseq, -⟩ := hp
  have hframed := h.framed frame hf
  cases horigin : frame.origin with
  | request n rpc =>
    rw [horigin] at hframed
    have hn : t.InFlight n := .inr (.inl (mem_wireNumbers.mpr ⟨frame, hf, by rw [horigin]; rfl⟩))
    exact absurd (hseq.trans hframed) (h.apartPing n hn)
  | ping k => exact ⟨k, rfl⟩
  | push =>
    rw [horigin] at hframed
    exact absurd (hseq.trans hframed) hne

/-- **The reply channel found for a response is the one of its request.** -/
theorem Correlated.origin_of_lookup (h : t.Correlated) {rest : List (WireFrame Fields)}
    (hc : t.toClient = frame :: rest) (ha : t.alive = true) (hp : ¬ t.IsPong frame) {number : Nat}
    (hl : t.pending.lookup frame.seq = some number) : frame.origin = .request number true := by
  have hmem : frame ∈ t.toClient := hc ▸ mem_cons_self
  have hf : frame ∈ t.wire := mem_append_left _ hmem
  have hframed := h.framed frame hf
  cases horigin : frame.origin with
  | request n rpc =>
    cases rpc with
    | true =>
      have hl' := h.awaited ha frame hf n horigin
      rw [hl] at hl'
      rw [Option.some.inj hl']
    | false =>
      have hn : t.InFlight n := .inr (.inl (mem_wireNumbers.mpr ⟨frame, hf, by rw [horigin]; rfl⟩))
      have hnumber : t.InFlight number := .inr (.inr ⟨_, hl⟩)
      have hseq : seqOf n = seqOf number := by
        rw [← h.registered _ _ hl, hframed, horigin]
        rfl
      obtain rfl := h.apart n number hn hnumber hseq
      exact absurd horigin ((h.unawaited _ _ hl).1 frame hf)
  | ping k =>
    rw [horigin] at hframed
    have hk : k ∈ t.wirePings := mem_filterMap.mpr ⟨frame, hf, by rw [horigin]; rfl⟩
    rcases h.onePing with hnone | ⟨k', hone, hout⟩
    · rw [hnone] at hk
      cases hk
    · rw [hone, mem_singleton] at hk
      subst hk
      have hpong : t.IsPong frame :=
        ⟨by rw [hout]; exact pingSeqOf_ne_zero k, hout.trans hframed.symm, h.ponged frame hmem k horigin⟩
      exact absurd hpong hp
  | push =>
    have hzero : frame.seq = 0 := by rw [hframed, horigin]; rfl
    exact absurd ((h.registered _ _ hl).symm.trans hzero) (seqOf_ne_zero number)

theorem sublist_of_eq {l l' : List Nat} (h : l = l') : l.Sublist l' := h ▸ List.Sublist.refl l

/-- The numbers in flight after a step, in place: some of those before it, and the one sent. -/
theorem Step.numbers (hs : Step t e t') :
    (t'.wireNumbers ++ t'.queueNumbers).Sublist (t.wireNumbers ++ t.queueNumbers)
      ∨ t'.wireNumbers ++ t'.queueNumbers = t.wireNumbers ++ t.queueNumbers ++ [t.allocated] := by
  unfold wireNumbers queueNumbers
  cases hs with
  | rpc | fireAndForget =>
    refine .inr ?_
    rw [append_assoc]
    exact congrArg (_ ++ ·) map_append
  | drain => exact .inl ((List.Sublist.refl _).append (nil_sublist _))
  | write req rest hq =>
    refine .inl (sublist_of_eq ?_)
    unfold wire
    simp only [hq, ← append_assoc, filterMap_append, map_cons, filterMap_cons, filterMap_nil,
      Origin.number]
    rw [append_assoc, singleton_append]
  | ping | push =>
    refine .inl (sublist_of_eq ?_)
    unfold wire
    simp [filterMap_nil, Origin.number]
  | drop request rest hd =>
    refine .inl (List.Sublist.append (List.Sublist.filterMap _ ?_) (List.Sublist.refl _))
    unfold wire
    rw [hd]
    exact (List.Sublist.refl _).append (sublist_cons_self _ _)
  | answer request rest pdu hd _ =>
    refine .inl (sublist_of_eq ?_)
    unfold wire
    simp only [hd, filterMap_append, filterMap_cons]
    cases request.origin.number with
    | none | some => simp
  | pong frame rest hc | skip frame rest hc | deliver frame rest number waiting hc =>
    refine .inl (List.Sublist.append (List.Sublist.filterMap _ ?_) (List.Sublist.refl _))
    rw [wire_take hc]
    exact sublist_cons_self _ _
  | quiet alive waiting _ => exact .inl (List.Sublist.refl _)

theorem Correlated.step_once (h : t.Correlated) (hs : Step t e t') : (t'.wireNumbers ++ t'.queueNumbers).Nodup := by
  rcases hs.numbers with hsub | heq
  · exact h.once.sublist hsub
  · rw [heq]
    refine h.once.append (nodup_singleton _) (disjoint_singleton.mpr fun hmem => ?_)
    have hfl : t.InFlight t.allocated := (mem_append.mp hmem).elim (.inr ∘ .inl) .inl
    exact absurd (h.fresh _ hfl) (Nat.lt_irrefl _)

/-- The pings on the connection after a step. -/
theorem Step.pingNumbers (hs : Step t e t') :
    (t'.wirePings.Sublist t.wirePings
        ∧ (t'.outstandingPingSeq = t.outstandingPingSeq ∨ ∃ frame rest, t.toClient = frame :: rest ∧ t.IsPong frame
          ∧ t'.wirePings = (rest ++ t.toDaemon).filterMap (·.origin.pingNumber)))
      ∨ (t'.wirePings = t.wirePings ++ [t.pings] ∧ t.outstandingPingSeq = 0 ∧ t'.outstandingPingSeq = t.pingSeqCounter) := by
  unfold wirePings
  cases hs with
  | write | push =>
    refine .inl ⟨sublist_of_eq ?_, .inl rfl⟩
    unfold wire
    simp only [filterMap_append, filterMap_cons, filterMap_nil, Origin.pingNumber, append_nil]
  | ping fields hout =>
    refine .inr ⟨?_, hout, rfl⟩
    unfold wire
    simp [Origin.pingNumber]
  | drop request rest hd =>
    refine .inl ⟨List.Sublist.filterMap _ ?_, .inl rfl⟩
    unfold wire
    rw [hd]
    exact (List.Sublist.refl _).append (sublist_cons_self _ _)
  | answer request rest pdu hd _ =>
    refine .inl ⟨sublist_of_eq ?_, .inl rfl⟩
    unfold wire
    simp only [hd, filterMap_append, filterMap_cons]
    cases request.origin.pingNumber with
    | none | some => simp
  | pong frame rest hc _ hpong =>
    refine .inl ⟨List.Sublist.filterMap _ ?_, .inr ⟨frame, rest, hc, hpong, rfl⟩⟩
    rw [wire_take hc]
    exact sublist_cons_self _ _
  | skip frame rest hc | deliver frame rest number waiting hc =>
    refine .inl ⟨List.Sublist.filterMap _ ?_, .inl rfl⟩
    rw [wire_take hc]
    exact sublist_cons_self _ _
  | _ => exact .inl ⟨List.Sublist.refl _, .inl rfl⟩

theorem Correlated.step_onePing (h : t.Correlated) (hs : Step t e t') :
    t'.wirePings = [] ∨ ∃ k, t'.wirePings = [k] ∧ t'.outstandingPingSeq = pingSeqOf k := by
  rcases hs.pingNumbers with ⟨hsub, hout | ⟨frame, rest, hc, hpong, heq⟩⟩ | ⟨heq, hzero, hout⟩
  · rcases h.onePing with hnone | ⟨k, hone, hk⟩
    · rw [hnone] at hsub
      exact .inl (sublist_nil.mp hsub)
    · rw [hone] at hsub
      rcases sublist_singleton.mp hsub with hnone | hone'
      · exact .inl hnone
      · exact .inr ⟨k, hone', hout.trans hk⟩
  · refine .inl ?_
    obtain ⟨k, horigin⟩ := h.origin_of_isPong (mem_append_left _ (hc ▸ mem_cons_self)) hpong
    have hall : t.wirePings = k :: t'.wirePings := by
      rw [heq]
      unfold wirePings
      rw [wire_take hc, filterMap_cons, horigin]
      rfl
    rcases h.onePing with hnone | ⟨k', hone, -⟩
    · rw [hnone] at hall
      cases hall
    · rw [hone] at hall
      exact (List.cons.inj hall).2.symm
  · rcases h.onePing with hnone | ⟨k, -, hk⟩
    · exact .inr ⟨t.pings, by rw [heq, hnone, nil_append], hout.trans h.pingSeqCounter⟩
    · exact absurd (hk.symm.trans hzero) (pingSeqOf_ne_zero k)

/-- The daemon's answer to a ping is a pong, and no answer is a notification. -/
theorem Answers.reply {request pdu : MuxPdu Fields} (h : Answers request (some pdu) = true) :
    (request.msgType = .ping → pdu.msgType = .pingAck) ∧ pdu.msgType.isNotification = false := by
  unfold Answers at h
  rw [Bool.and_eq_true, Bool.not_eq_true'] at h
  refine ⟨fun hping => ?_, h.2⟩
  have hack := h.1
  rw [hping] at hack
  simpa using hack

section

variable (h : t.Correlated)
include h

theorem Correlated.step_pinged (hs : Step t e t') (hf : frame ∈ t'.toDaemon) {k : Nat}
    (horigin : frame.origin = .ping k) : frame.pdu.msgType = .ping := by
  cases hs with
  | write req rest hq =>
    rcases mem_append.mp hf with hf | hf
    · exact h.pinged frame hf k horigin
    · obtain rfl := mem_singleton.mp hf
      cases horigin
  | ping fields _ =>
    rcases mem_append.mp hf with hf | hf
    · exact h.pinged frame hf k horigin
    · obtain rfl := mem_singleton.mp hf
      rfl
  | drop request rest hd | answer request rest pdu hd => exact h.pinged frame (hd ▸ mem_cons_of_mem _ hf) k horigin
  | _ => exact h.pinged frame hf k horigin

/-- What the client will read. -/
theorem Correlated.step_toClient (hs : Step t e t') (hf : frame ∈ t'.toClient) :
    (∀ k, frame.origin = .ping k → frame.pdu.msgType = .pingAck)
      ∧ ∀ n rpc, frame.origin = .request n rpc → frame.pdu.msgType.isNotification = false := by
  have hold : frame ∈ t.toClient → (∀ k, frame.origin = .ping k → frame.pdu.msgType = .pingAck)
      ∧ ∀ n rpc, frame.origin = .request n rpc → frame.pdu.msgType.isNotification = false :=
    fun hf => ⟨h.ponged frame hf, h.response frame hf⟩
  cases hs with
  | answer request rest pdu hd hans =>
    rcases mem_append.mp hf with hf | hf
    · exact hold hf
    · obtain rfl := mem_singleton.mp hf
      have hrequest : request ∈ t.toDaemon := hd ▸ mem_cons_self
      exact ⟨fun k horigin => (Answers.reply hans).1 (h.pinged request hrequest k horigin), fun _ _ _ => (Answers.reply hans).2⟩
  | push pdu =>
    rcases mem_append.mp hf with hf | hf
    · exact hold hf
    · obtain rfl := mem_singleton.mp hf
      exact ⟨nofun, nofun⟩
  | pong taken rest hc | skip taken rest hc | deliver taken rest number waiting hc =>
    exact hold (hc ▸ mem_cons_of_mem _ hf)
  | _ => exact hold hf

/-- Two frames on the connection are of different requests. -/
theorem Correlated.number_ne {taken : WireFrame Fields} {rest : List (WireFrame Fields)}
    (hc : t.toClient = taken :: rest) {rpc : Bool} (htaken : taken.origin = .request n rpc)
    (hf : frame ∈ rest ++ t.toDaemon) {m : Nat} {rpc' : Bool} (hframe : frame.origin = .request m rpc') : m ≠ n := by
  rintro rfl
  have hnodup : t.wireNumbers.Nodup := h.once.sublist (sublist_append_left _ _)
  unfold wireNumbers at hnodup
  rw [wire_take hc, filterMap_cons, htaken] at hnodup
  exact (nodup_cons.mp hnodup).1 (mem_filterMap.mpr ⟨frame, hf, by rw [hframe]; rfl⟩)

theorem Correlated.step_awaited (hs : Step t e t') (ha' : t'.alive = true) (hf : frame ∈ t'.wire)
    (horigin : frame.origin = .request n true) : t'.pending.lookup frame.seq = some n := by
  cases hs with
  | quiet alive waiting ha => exact h.awaited (ha ha') frame hf n horigin
  | rpc pdu ha | fireAndForget pdu ha => exact h.awaited ha frame hf n horigin
  | drain => cases ha'
  | write req rest hq =>
    have hreq : req ∈ t.sendQueue := hq ▸ mem_cons_self
    have hreqFlight : t.InFlight req.number := .inl (mem_map_of_mem hreq)
    have hframe : frame ∈ t.wire ∨ frame = ⟨⟨req.seq, req.pdu⟩, .request req.number req.replyTx⟩ := by
      rcases mem_append.mp hf with hf | hf
      · exact .inl (mem_append_left _ hf)
      · exact (mem_append.mp hf).imp (mem_append_right _) mem_singleton.mp
    rcases hframe with hframe | rfl
    · have hold := h.awaited ha' frame hframe n horigin
      split
      · rw [lookup_insert_ne, hold]
        intro hseq
        rw [h.registered _ _ hold, h.queued req hreq] at hseq
        have hmem : n ∈ t.wireNumbers := mem_wireNumbers.mpr ⟨frame, hframe, by rw [horigin]; rfl⟩
        have heq := h.apart n req.number (.inr (.inl hmem)) hreqFlight hseq
        exact disjoint_of_nodup_append h.once hmem (heq ▸ mem_map_of_mem hreq)
      · exact hold
    · obtain ⟨rfl, htx⟩ := Origin.request.inj horigin
      rw [if_pos htx, lookup_insert]
  | ping fields _ =>
    simp only [wire, mem_append, mem_singleton] at hf
    rcases hf with hf | hf | rfl
    · exact h.awaited ha' frame (mem_append_left _ hf) n horigin
    · exact h.awaited ha' frame (mem_append_right _ hf) n horigin
    · cases horigin
  | drop request rest hd =>
    refine h.awaited ha' frame ?_ n horigin
    exact mem_append.mpr ((mem_append.mp hf).imp id fun hf => hd ▸ mem_cons_of_mem _ hf)
  | answer request rest pdu hd _ =>
    simp only [wire, mem_append, mem_singleton] at hf
    rcases hf with (hf | rfl) | hf
    · exact h.awaited ha' frame (mem_append_left _ hf) n horigin
    · exact h.awaited ha' request (mem_append_right _ (hd ▸ mem_cons_self)) n horigin
    · exact h.awaited ha' frame (mem_append_right _ (hd ▸ mem_cons_of_mem _ hf)) n horigin
  | push pdu =>
    simp only [wire, mem_append, mem_singleton] at hf
    rcases hf with (hf | rfl) | hf
    · exact h.awaited ha' frame (mem_append_left _ hf) n horigin
    · cases horigin
    · exact h.awaited ha' frame (mem_append_right _ hf) n horigin
  | pong taken rest hc | skip taken rest hc => exact h.awaited ha' frame (wire_take hc ▸ mem_cons_of_mem _ hf) n horigin
  | deliver taken rest number waiting hc ha hp hl =>
    have hold := h.awaited ha' frame (wire_take hc ▸ mem_cons_of_mem _ hf) n horigin
    rw [lookup_erase_ne, hold]
    intro hseq
    have htaken := h.origin_of_lookup hc ha hp hl
    rw [hseq, hl] at hold
    exact h.number_ne hc htaken hf horigin (Option.some.inj hold).symm

theorem Correlated.step_unawaited (hs : Step t e t') {seq : UInt32} (hl : t'.pending.lookup seq = some n) :
    (∀ frame ∈ t'.wire, frame.origin ≠ .request n false) ∧ n ∉ t'.queueNumbers := by
  have hkept : t.pending.lookup seq = some n →
      (∀ frame ∈ t'.wire, frame.origin ≠ .request n false) ∧ n ∉ t'.queueNumbers := by
    intro hold
    obtain ⟨hframes, hqueue⟩ := h.unawaited seq n hold
    refine ⟨fun frame hf horigin => ?_, fun hq => ?_⟩
    · rcases hs.mem_wire hf with ⟨g, hg, -, hg'⟩ | ⟨r, hr, -, hr'⟩ | ⟨-, hping⟩ | ⟨-, hpush⟩
      · exact hframes g hg (hg'.trans horigin)
      · obtain ⟨rfl, -⟩ := Origin.request.inj (hr'.symm.trans horigin)
        exact hqueue (mem_map_of_mem hr)
      · cases hping.symm.trans horigin
      · cases hpush.symm.trans horigin
    · obtain ⟨r, hr, rfl⟩ := mem_map.mp hq
      rcases hs.mem_sendQueue hr with hr | ⟨-, hnum, -⟩
      · exact hqueue (mem_map_of_mem hr)
      · exact absurd (h.fresh _ (.inr (.inr ⟨seq, hold⟩))) (hnum ▸ Nat.lt_irrefl _)
  cases hs with
  | drain => cases hl
  | write req rest hq =>
    split at hl
    · next htx =>
      by_cases hseq : seq = req.seq
      · rw [hseq, lookup_insert] at hl
        obtain rfl := Option.some.inj hl
        have honce := h.once
        unfold queueNumbers at honce
        rw [hq] at honce
        refine ⟨fun frame hf horigin => ?_, fun hmem => ?_⟩
        · have hwire : req.number ∉ t.wireNumbers := fun hmem =>
            disjoint_of_nodup_append honce hmem mem_cons_self
          have hold : frame ∉ t.wire := fun hmem =>
            hwire (mem_wireNumbers.mpr ⟨frame, hmem, by rw [horigin]; rfl⟩)
          rcases mem_append.mp hf with hf | hf
          · exact hold (mem_append_left _ hf)
          · rcases mem_append.mp hf with hf | hf
            · exact hold (mem_append_right _ hf)
            · obtain rfl := mem_singleton.mp hf
              rw [htx] at horigin
              cases horigin
        · exact (nodup_cons.mp (honce.sublist (sublist_append_right _ _))).1 hmem
      · rw [lookup_insert_ne hseq] at hl
        exact hkept hl
    · exact hkept hl
  | deliver taken rest number waiting _ _ _ _ => exact hkept (lookup_erase_of hl).2
  | _ => exact hkept hl

theorem Correlated.step_delivered (hs : Step t e t') {d : Nat × WireFrame Fields} (hd : d ∈ t'.delivered) :
    d.2.origin = .request d.1 true := by
  cases hs with
  | deliver taken rest number waiting hc ha hp hl =>
    rcases mem_append.mp hd with hd | hd
    · exact h.delivered d hd
    · obtain rfl := mem_singleton.mp hd
      exact h.origin_of_lookup hc ha hp hl
  | _ => exact h.delivered d hd

theorem Correlated.step_answered (hs : Step t e t') (hf : frame ∈ t'.handled)
    (horigin : frame.origin = .request n true) : (n, frame) ∈ t'.delivered := by
  cases hs with
  | pong taken rest hc _ hp =>
    rcases mem_append.mp hf with hf | hf
    · exact h.answered frame hf n horigin
    · obtain rfl := mem_singleton.mp hf
      obtain ⟨k, hping⟩ := h.origin_of_isPong (mem_append_left _ (hc ▸ mem_cons_self)) hp
      cases hping.symm.trans horigin
  | skip taken rest hc ha _ hskip =>
    rcases mem_append.mp hf with hf | hf
    · exact h.answered frame hf n horigin
    · obtain rfl := mem_singleton.mp hf
      have hmem : frame ∈ t.toClient := hc ▸ mem_cons_self
      have hwire : frame ∈ t.wire := mem_append_left _ hmem
      rcases hskip with hzero | hnotif | hnone
      · have hframed := h.framed frame hwire
        rw [horigin] at hframed
        exact absurd (hframed.symm.trans hzero) (seqOf_ne_zero n)
      · rw [h.response frame hmem n true horigin] at hnotif
        cases hnotif
      · rw [h.awaited ha frame hwire n horigin] at hnone
        cases hnone
  | deliver taken rest number waiting hc ha hp hl =>
    rcases mem_append.mp hf with hf | hf
    · exact mem_append_left _ (h.answered frame hf n horigin)
    · obtain rfl := mem_singleton.mp hf
      obtain ⟨rfl, -⟩ := Origin.request.inj ((h.origin_of_lookup hc ha hp hl).symm.trans horigin)
      exact mem_append_right _ (mem_singleton.mpr rfl)
  | _ => exact h.answered frame hf n horigin

/-- **A step that keeps the numbers apart keeps every response with its request.** -/
theorem Correlated.step (hG : t.Apart e) (hs : Step t e t') : t'.Correlated :=
  { h.toNumbered.step hs with
    apart := fun _ _ hm hn hseq => h.step_apart hG hs hm hn hseq
    apartPing := fun _ hn => h.step_apartPing hG hs hn
    once := h.step_once hs
    onePing := h.step_onePing hs
    pinged := fun _ hf _ horigin => h.step_pinged hs hf horigin
    ponged := fun _ hf => (h.step_toClient hs hf).1
    response := fun _ hf => (h.step_toClient hs hf).2
    awaited := fun ha _ hf _ horigin => h.step_awaited hs ha hf horigin
    unawaited := fun _ _ hl => h.step_unawaited hs hl
    delivered := fun _ hd => h.step_delivered hs hd
    answered := fun _ hf _ horigin => h.step_answered hs hf horigin }

end

theorem correlated_run {es : List (Event Fields)} (hG : Along apply Apart new es) : (run apply new es).Correlated :=
  hG.invariant (fun t e h hG => h.step hG (step_apply t e)) correlated_new

/-! ## Correlation -/

theorem Outstanding.seq_eq (h : t.Numbered) {seq : UInt32} (ho : t.Outstanding seq n) : seq = seqOf n := by
  rcases ho with ⟨req, hreq, rfl, rfl⟩ | hl
  · exact h.queued req hreq
  · exact h.registered seq n hl

/-- The fields of every variant, where only the variants matter. -/
abbrev NoFields : MsgType → Type := fun _ => Unit

/-- Requests that no one answers only use up numbers. -/
theorem run_fireAndForget (n : Nat) :
    let t := run apply new (List.replicate n (.fireAndForget pdu))
    t.alive = true ∧ t.waiting = none ∧ t.allocated = n ∧ t.outstandingPingSeq = 0 ∧ t.pings = 0 := by
  induction n with
  | zero => exact ⟨rfl, rfl, rfl, rfl, rfl⟩
  | succ n ih =>
    rw [replicate_succ', run_append, run_cons]
    generalize run apply (new : ClientTransport Fields) (List.replicate n (.fireAndForget pdu)) = t at ih ⊢
    obtain ⟨halive, hwaiting, halloc, hout, hpings⟩ := ih
    have hcall : t.apply (.fireAndForget pdu) = t.send pdu false := by
      show t.call pdu false = t.send pdu false
      unfold call
      rw [halive, hwaiting]
      rfl
    rw [hcall]
    exact ⟨halive, rfl, congrArg (· + 1) halloc, hout, hpings⟩

/-- The `n`-th request is sent while the first ping is outstanding. -/
theorem outstanding_ping_rpc (ping : Fields .ping) (h : t.Numbered) (halive : t.alive = true)
    (hwaiting : t.waiting = none) (halloc : t.allocated = n) (hout : t.outstandingPingSeq = 0) (hpings : t.pings = 0) :
    ((t.apply (.sendPing ping)).apply (.rpc pdu)).Outstanding (seqOf n) n
      ∧ ((t.apply (.sendPing ping)).apply (.rpc pdu)).outstandingPingSeq = pingSeqOf 0 := by
  have hping : t.apply (.sendPing ping) =
      { t with
        outstandingPingSeq := t.pingSeqCounter
        pingSeqCounter := nextPingSeq t.pingSeqCounter
        toDaemon := t.toDaemon ++ [⟨⟨t.pingSeqCounter, ⟨.ping, ping⟩⟩, .ping t.pings⟩]
        pings := t.pings + 1 } := by
    show t.sendPing ping = _
    unfold sendPing
    rw [halive, hout]
    rfl
  have hcall : ∀ t : ClientTransport Fields, t.alive = true → t.waiting = none → t.apply (.rpc pdu) = t.send pdu true := by
    intro t halive hwaiting
    show t.call pdu true = _
    unfold call
    rw [halive, hwaiting]
    rfl
  rw [hcall _ (by rw [hping]; exact halive) (by rw [hping]; exact hwaiting), hping]
  refine ⟨.inl ⟨⟨t.nextSeq, pdu, true, t.allocated⟩, mem_append_right _ (mem_singleton.mpr rfl), ?_, halloc⟩, ?_⟩
  · rw [← halloc]
    exact h.nextSeq
  · show t.pingSeqCounter = pingSeqOf 0
    rw [h.pingSeqCounter, hpings]

end ClientTransport

end OriTerm
