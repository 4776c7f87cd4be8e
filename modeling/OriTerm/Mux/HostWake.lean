import Mathlib.Data.Nat.Find
import OriTerm.Mux.HostRequest

/-!
# `Mux.HostWake` — a fulfilled request has to wake the IO thread

`PaneLoop` is the pane IO thread's loop around `poll_pending_responses`: commands are drained, which ends with a pass
over the pending responses, bytes are parsed, which may register requests and run more passes, and the loop blocks in
`select!` until one of its channels is ready. A reply arrives at any of these points. The embedded backend fulfils the
token and wakes the thread; the daemon only fulfils the token (`FulfilPath`).

`ownStep` is what the IO thread does when nothing else happens. A fulfilled request is delivered by own steps exactly
when its poll is still ahead (`PollAhead`): a wake is pending, the pass over the responses is yet to begin, or has not
come to the request.

* **`embedded_delivers`** — in the embedded backend every reply reaches the PTY without further events, in every run;
* **`fulfilment_run_iff`** — in the daemon, every reply reaches the PTY without further events, and the writes are in
  the end those of the embedded backend, exactly when the poll of each request is ahead when its reply is accepted.
-/

namespace OriTerm

open Lib List Option

/-! ## The loop -/

namespace HostEntry

variable (e : HostEntry)

/-- The slot holds a value that is still to be written. -/
def isFulfilled : Bool :=
  match e.token.slot with
  | .pending => false
  | .fulfilled _ => true
  | .consumed => false

/-- `fulfill` returns `Ok`: the slot is pending, the reply is of the kind of the request, and a handle is held. -/
def accepts (reply : HostReply) : Bool :=
  match e.token.slot with
  | .pending => (reply.valueFor e.request).isSome && e.token.handles != 0
  | .fulfilled _ => false
  | .consumed => false

/-- The writes that a request is due: its value, once it has one. -/
def replies : List (List UInt8) := e.token.value.toList.map e.request.format

theorem isFulfilled_fulfill (reply : HostReply) :
    (e.fulfill reply).isFulfilled = (e.isFulfilled || e.accepts reply) := by
  obtain ⟨request, slot, handles, value⟩ := e
  unfold fulfill accepts isFulfilled
  cases reply.valueFor request with
  | none => cases slot <;> rfl
  | some v =>
    dsimp only
    by_cases hheld : handles = 0
    · rw [if_pos hheld]
      cases slot <;> simp [hheld]
    · rw [if_neg hheld]
      cases slot <;> simp [ResponseToken.fulfill, hheld]

end HostEntry

/-- The token of a request takes the reply. -/
def HostRequests.accepts (s : HostRequests) (id : Nat) (reply : HostReply) : Bool :=
  s.entries[id]?.any (·.accepts reply)

/-- How a reply gets to the pane. -/
inductive FulfilPath where
  /-- `fulfill_clipboard_load` and `fulfill_color_query` of the pane's handle. -/
  | embedded
  /-- `token.fulfill` in the dispatch of `ReplyHostRequest`. -/
  | daemon
  deriving DecidableEq, Repr

/-- Where the IO thread is, outside of a pass over the pending responses. -/
inductive LoopPoint where
  /-- In `drain_commands`, before its pass. -/
  | commands
  /-- After the pass, up to `select!`. -/
  | bytes
  /-- Blocked in `select!`. -/
  | select
  deriving DecidableEq, Repr

structure PaneLoop where
  requests : HostRequests := HostRequests.new
  point : LoopPoint := .commands
  /-- The `io_wake` channel, bounded to one signal, holds it. -/
  ioWake : Bool := false

namespace PaneLoop

def new : PaneLoop := {}

/-- The IO thread is in none of the passes, and has not exited. -/
def idle (s : PaneLoop) : Bool := !s.requests.exited && s.requests.cursor.isNone

/-- One iteration of a pass; after the last the loop goes on. -/
def pollNext (s : PaneLoop) : PaneLoop :=
  let requests := s.requests.step .pollNext
  { s with requests, point := if s.requests.cursor.isSome && requests.cursor.isNone then .bytes else s.point }

/-- A reply arrives; the embedded path wakes the thread when the token took it. -/
def fulfill (path : FulfilPath) (s : PaneLoop) (id : Nat) (reply : HostReply) : PaneLoop :=
  { s with
    requests := s.requests.step (.fulfill id reply)
    ioWake := s.ioWake || (path == .embedded && s.requests.accepts id reply) }

/-- What the IO thread does next when nothing else happens. -/
def ownStep (s : PaneLoop) : PaneLoop :=
  if s.requests.exited then s
  else match s.requests.cursor with
  | some _ => s.pollNext
  | none =>
    match s.point with
    | .commands => { s with requests := s.requests.step .beginPoll }
    | .bytes => { s with point := .select }
    | .select => if s.ioWake then { s with ioWake := false, point := .commands } else s

/-- A step of the IO thread, of the consumer of the requests, or of another thread. -/
inductive Event where
  | request (request : HostRequest) (delivered : Bool)
  /-- The pass at the end of `drain_commands`, at the top of the loop or between two chunks. -/
  | beginPoll
  | pollNext
  | block
  | receiveWake
  /-- A command, bytes, the child's exit or the timeout end the wait. -/
  | otherArm
  /-- A resize, the writer thread or a shutdown wakes the thread. -/
  | sendWake
  | fulfill (id : Nat) (reply : HostReply)
  | clone (id : Nat)
  | drop (id : Nat)
  | shutdown

/-- An event that finds the IO thread elsewhere does nothing. -/
def apply (path : FulfilPath) (s : PaneLoop) : Event → PaneLoop
  | .request request delivered =>
    if s.point = .select then s else { s with requests := s.requests.step (.request request delivered) }
  | .beginPoll => if s.point = .select then s else { s with requests := s.requests.step .beginPoll }
  | .pollNext => s.pollNext
  | .block => if s.idle ∧ s.point = .bytes then { s with point := .select } else s
  | .receiveWake => if s.idle ∧ s.point = .select ∧ s.ioWake then { s with ioWake := false, point := .commands } else s
  | .otherArm => if s.idle ∧ s.point = .select then { s with point := .commands } else s
  | .sendWake => { s with ioWake := true }
  | .fulfill id reply => s.fulfill path id reply
  | .clone id => { s with requests := s.requests.step (.clone id) }
  | .drop id => { s with requests := s.requests.step (.drop id) }
  | .shutdown => { s with requests := s.requests.step .shutdown }

variable {s : PaneLoop} {path : FulfilPath}

/-! ## What the steps keep -/

/-- One iteration of a pass: its end, or the poll of one request. -/
theorem pollNext_cases (hacc : s.requests.Accounted) {c : Nat} (hc : s.requests.cursor = some c) :
    s.requests.pendingResponses[c]? = none ∧
        s.pollNext = { s with requests := { s.requests with cursor := none }, point := .bytes } ∨
      ∃ id e requests, s.requests.pendingResponses[c]? = some id ∧ s.requests.entries[id]? = some e ∧
        HostRequests.Polled s.requests c id e requests ∧ s.pollNext = { s with requests } := by
  have hstep : s.requests.step .pollNext = s.requests.pollAt c := by
    unfold HostRequests.step
    rw [hc]
  unfold pollNext
  rw [hstep, hc]
  cases hid : s.requests.pendingResponses[c]? with
  | none =>
    have hend : s.requests.pollAt c = { s.requests with cursor := none } := by
      unfold HostRequests.pollAt
      rw [hid]
    rw [hend]
    exact .inl ⟨rfl, rfl⟩
  | some id =>
    obtain ⟨e, he⟩ : ∃ e, s.requests.entries[id]? = some e :=
      ⟨_, getElem?_eq_getElem (hacc.pending_lt id (mem_of_getElem? hid))⟩
    have hpolled := HostRequests.pollAt_polled hid he
    generalize s.requests.pollAt c = requests at hpolled ⊢
    have hcursor : requests.cursor.isNone = false := by
      cases hpolled with
      | ready | cancelled => exact congrArg Option.isNone hc
      | pending hslot hheld => rfl
    refine .inr ⟨id, e, requests, rfl, he, hpolled, ?_⟩
    dsimp only
    rw [hcursor]
    rfl

theorem accounted_pollNext (h : s.requests.Accounted) : s.pollNext.requests.Accounted :=
  HostRequests.accounted_step s.requests .pollNext h

theorem accounted_ownStep (h : s.requests.Accounted) : s.ownStep.requests.Accounted := by
  unfold ownStep
  split
  · exact h
  · split
    · exact accounted_pollNext h
    · split
      · exact HostRequests.accounted_step s.requests .beginPoll h
      · exact h
      · split <;> exact h

theorem accounted_apply (h : s.requests.Accounted) (e : Event) : (s.apply path e).requests.Accounted := by
  cases e with
  | request request delivered =>
    unfold apply
    dsimp only
    split
    · exact h
    · exact HostRequests.accounted_step s.requests (.request request delivered) h
  | beginPoll =>
    unfold apply
    dsimp only
    split
    · exact h
    · exact HostRequests.accounted_step s.requests .beginPoll h
  | pollNext => exact accounted_pollNext h
  | block | receiveWake | otherArm =>
    unfold apply
    dsimp only
    split <;> exact h
  | sendWake => exact h
  | fulfill id reply => exact HostRequests.accounted_step s.requests (.fulfill id reply) h
  | clone id => exact HostRequests.accounted_step s.requests (.clone id) h
  | drop id => exact HostRequests.accounted_step s.requests (.drop id) h
  | shutdown => exact HostRequests.accounted_step s.requests .shutdown h

/-! ## The poll of a request is ahead -/

/-- The request has a value that is still to be written. -/
def Fulfilled (s : PaneLoop) (id : Nat) : Prop :=
  ∃ e : HostEntry, s.requests.entries[id]? = some e ∧ e.isFulfilled = true

/-- The IO thread will poll the request before it blocks for good. -/
def PollAhead (s : PaneLoop) (id : Nat) : Prop :=
  s.requests.exited = true ∨ s.ioWake = true ∨ s.requests.cursor = none ∧ s.point = .commands ∨
    ∃ c i, s.requests.cursor = some c ∧ s.requests.pendingResponses[i]? = some id ∧ c ≤ i

/-- Every fulfilled request has its poll ahead. -/
structure Attended (s : PaneLoop) : Prop where
  accounted : s.requests.Accounted
  ahead : ∀ id, s.Fulfilled id → s.PollAhead id

theorem attended_new : new.Attended :=
  ⟨HostRequests.accounted_new, fun _ h => by
    obtain ⟨e, he, -⟩ := h
    cases he⟩

variable {id : Nat}

/-- A fulfilled request is on the pending list. -/
theorem Fulfilled.pending (h : s.Fulfilled id) (hacc : s.requests.Accounted) :
    ∃ i : Nat, s.requests.pendingResponses[i]? = some id := by
  obtain ⟨e, he, hfulfilled⟩ := h
  have howed := hacc.owed id e he
  unfold HostRequests.Owed at howed
  unfold HostEntry.isFulfilled at hfulfilled
  cases hslot : e.token.slot with
  | pending | consumed => rw [hslot] at hfulfilled; cases hfulfilled
  | fulfilled value =>
    rw [hslot] at howed
    exact mem_iff_getElem?.mp howed.2.2

/-- The request that was polled is not fulfilled any more; the others are as before. -/
theorem fulfilled_polled {requests : HostRequests} {c id' : Nat} {e : HostEntry}
    (he : s.requests.entries[id]? = some e) (hp : HostRequests.Polled s.requests c id e requests) :
    ({ s with requests } : PaneLoop).Fulfilled id' ↔ s.Fulfilled id' ∧ id' ≠ id := by
  have hself : e.isFulfilled = false → (s.Fulfilled id' ↔ s.Fulfilled id' ∧ id' ≠ id) := by
    intro hfalse
    refine ⟨fun h => ⟨h, ?_⟩, fun h => h.1⟩
    rintro rfl
    obtain ⟨e', he', hfulfilled⟩ := h
    obtain rfl := some.inj (he.symm.trans he')
    rw [hfalse] at hfulfilled
    cases hfulfilled
  unfold HostEntry.isFulfilled at hself
  cases hp with
  | ready value hslot =>
    unfold Fulfilled
    by_cases hid : id' = id
    · subst hid
      rw [List.getElem?_set_self (List.getElem?_eq_some_iff.mp he).1]
      constructor
      · rintro ⟨e', he', hfulfilled⟩
        obtain rfl := some.inj he'
        cases hfulfilled
      · exact fun h => absurd rfl h.2
    · rw [getElem?_set_ne (Ne.symm hid)]
      exact ⟨fun h => ⟨h, hid⟩, fun h => h.1⟩
  | cancelled hslot =>
    refine hself ?_
    rcases hslot with hslot | ⟨hslot, -⟩
    · rw [hslot]
    · rw [hslot]
  | pending hslot hheld =>
    refine hself ?_
    rw [hslot]

/-- Where the entries and the cursor do not change, nor do the fulfilled requests. -/
theorem fulfilled_congr {s' : PaneLoop} (h : s'.requests.entries = s.requests.entries) (id : Nat) :
    s'.Fulfilled id ↔ s.Fulfilled id := by
  unfold Fulfilled
  rw [h]

/-- What is ahead of the cursor stays ahead of it, but for the request at the cursor. -/
theorem ahead_pollNext (hacc : s.requests.Accounted) (hf : s.pollNext.Fulfilled id) (ha : s.PollAhead id) :
    s.pollNext.PollAhead id := by
  cases hc : s.requests.cursor with
  | none =>
    have hsame : s.pollNext = s := by
      unfold pollNext HostRequests.step
      rw [hc]
      rfl
    rw [hsame]
    exact ha
  | some c =>
    rcases pollNext_cases hacc hc with ⟨hend, heq⟩ | ⟨id', e, requests, hid, he, hp, heq⟩
    · rw [heq]
      rcases ha with hx | hw | ⟨hnone, -⟩ | ⟨c', i, hc', hi, hle⟩
      · exact .inl hx
      · exact .inr (.inl hw)
      · rw [hc] at hnone
        cases hnone
      · obtain rfl := some.inj (hc.symm.trans hc')
        have hlt := (List.getElem?_eq_some_iff.mp hi).1
        have hlen := getElem?_eq_none_iff.mp hend
        omega
    · rw [heq] at hf ⊢
      obtain ⟨-, hne⟩ := (fulfilled_polled he hp).mp hf
      rcases ha with hx | hw | ⟨hnone, -⟩ | ⟨c', i, hc', hi, hle⟩
      · left
        cases hp <;> exact hx
      · exact .inr (.inl hw)
      · rw [hc] at hnone
        cases hnone
      · obtain rfl := some.inj (hc.symm.trans hc')
        have hlt : c < i := by
          refine Nat.lt_of_le_of_ne hle ?_
          rintro rfl
          exact hne (some.inj (hi.symm.trans hid))
        refine .inr (.inr (.inr ?_))
        have herased : (s.requests.pendingResponses.eraseIdx c)[i - 1]? = some id := by
          rw [getElem?_eraseIdx_of_ge (by omega), Nat.sub_add_cancel (by omega)]
          exact hi
        cases hp with
        | ready | cancelled => exact ⟨c, i - 1, hc, herased, by omega⟩
        | pending hslot hheld => exact ⟨c + 1, i, rfl, hi, hlt⟩

/-- At the start of a pass everything on the list is ahead. -/
theorem ahead_beginPoll (hacc : s.requests.Accounted) (hf : s.Fulfilled id) (ha : s.PollAhead id) :
    ({ s with requests := s.requests.step .beginPoll } : PaneLoop).PollAhead id := by
  unfold HostRequests.step HostRequests.ioStep
  dsimp only
  split
  · exact ha
  · obtain ⟨i, hi⟩ := hf.pending hacc
    exact .inr (.inr (.inr ⟨0, i, rfl, hi, Nat.zero_le i⟩))

/-! ### Consumers -/

/-- Only an accepted reply fulfils a request. -/
theorem fulfilled_fulfill {id' : Nat} {reply : HostReply} :
    (s.fulfill path id reply).Fulfilled id' ↔ s.Fulfilled id' ∨ id' = id ∧ s.requests.accepts id reply = true := by
  unfold fulfill HostRequests.step Fulfilled HostRequests.accepts
  rw [getElem?_modify]
  by_cases hid : id = id'
  · subst hid
    cases s.requests.entries[id]? with
    | none => simp
    | some e => simp [HostEntry.isFulfilled_fulfill]
  · simp [hid, Ne.symm]

/-- Taking or dropping a handle fulfils nothing. -/
theorem fulfilled_modify {s' : PaneLoop} {f : HostEntry → HostEntry} (hf : ∀ e, (f e).isFulfilled = e.isFulfilled)
    (h : s'.requests.entries = s.requests.entries.modify id f) (id' : Nat) : s'.Fulfilled id' ↔ s.Fulfilled id' := by
  unfold Fulfilled
  rw [h, getElem?_modify]
  by_cases hid : id = id'
  · subst hid
    cases s.requests.entries[id]? with
    | none => simp
    | some e => simp [hf]
  · simp [hid]

theorem isFulfilled_clone (e : HostEntry) : e.clone.isFulfilled = e.isFulfilled := by
  obtain ⟨request, slot, handles, value⟩ := e
  unfold HostEntry.clone
  by_cases hheld : handles = 0
  · rw [if_pos hheld]
  · rw [if_neg hheld]
    cases slot <;> rfl

theorem isFulfilled_drop (e : HostEntry) : e.drop.isFulfilled = e.isFulfilled := by
  obtain ⟨request, slot, handles, value⟩ := e
  cases slot <;> rfl

/-! ### Every step -/

/-- What a step changes without a word on the requests. -/
theorem PollAhead.of_same {s' : PaneLoop} (h : s.PollAhead id) (hr : s'.requests = s.requests)
    (hw : s.ioWake = true → s'.ioWake = true) (hp : s.point = .commands → s'.point = .commands) : s'.PollAhead id := by
  unfold PollAhead at h ⊢
  rw [hr]
  exact h.imp_right fun h => h.imp hw fun h => h.imp_left fun h => ⟨h.1, hp h.2⟩

theorem idle_iff : s.idle = true ↔ s.requests.exited = false ∧ s.requests.cursor = none := by
  unfold idle
  simp

theorem entries_beginPoll (s : PaneLoop) : (s.requests.step .beginPoll).entries = s.requests.entries := by
  unfold HostRequests.step HostRequests.ioStep
  dsimp only
  split <;> rfl

theorem fulfilled_pollNext (hacc : s.requests.Accounted) (hf : s.pollNext.Fulfilled id) : s.Fulfilled id := by
  cases hc : s.requests.cursor with
  | none =>
    have hsame : s.pollNext.requests.entries = s.requests.entries := by
      unfold pollNext HostRequests.step
      rw [hc]
    exact (fulfilled_congr hsame id).mp hf
  | some c =>
    rcases pollNext_cases hacc hc with ⟨-, heq⟩ | ⟨id', e, requests, -, he, hp, heq⟩
    · rw [heq] at hf
      exact hf
    · rw [heq] at hf
      exact ((fulfilled_polled he hp).mp hf).1

/-- A request that is registered is not fulfilled, and comes last. -/
theorem ahead_request {request : HostRequest} {delivered : Bool}
    (hf : ({ s with requests := s.requests.step (.request request delivered) } : PaneLoop).Fulfilled id)
    (h : ∀ id, s.Fulfilled id → s.PollAhead id) :
    ({ s with requests := s.requests.step (.request request delivered) } : PaneLoop).PollAhead id := by
  unfold HostRequests.step HostRequests.ioStep at hf ⊢
  dsimp only at hf ⊢
  split at hf
  · next hbusy =>
    rw [if_pos hbusy]
    exact h id hf
  · next hbusy =>
    rw [if_neg hbusy]
    have hf' : s.Fulfilled id := by
      obtain ⟨e, he, hfulfilled⟩ := hf
      unfold HostRequests.registerHostRequestResponse at he
      rw [getElem?_append] at he
      split at he
      · exact ⟨e, he, hfulfilled⟩
      · have hmem := mem_singleton.mp (mem_of_getElem? he)
        rw [hmem] at hfulfilled
        cases hfulfilled
    have hcursor : s.requests.cursor = none := by
      rw [Bool.or_eq_true, not_or] at hbusy
      exact isNone_iff_eq_none.mp (by simpa using hbusy.2)
    rcases h id hf' with hx | hw | hc | ⟨c, i, hc, -⟩
    · exact .inl hx
    · exact .inr (.inl hw)
    · exact .inr (.inr (.inl hc))
    · rw [hcursor] at hc
      cases hc

/-- A step keeps every fulfilled request ahead, if the requests that it fulfils are. -/
theorem Attended.apply (h : s.Attended) {e : Event}
    (hin : ∀ id reply, e = .fulfill id reply → s.requests.accepts id reply = true →
      path = .embedded ∨ s.PollAhead id) : (s.apply path e).Attended := by
  refine ⟨accounted_apply h.accounted e, fun id hf => ?_⟩
  cases e with
  | request request delivered =>
    unfold PaneLoop.apply at hf ⊢
    dsimp only at hf ⊢
    split at hf
    · next hselect =>
      rw [if_pos hselect]
      exact h.ahead id hf
    · next hselect =>
      rw [if_neg hselect]
      exact ahead_request hf h.ahead
  | beginPoll =>
    unfold PaneLoop.apply at hf ⊢
    dsimp only at hf ⊢
    split at hf
    · next hselect =>
      rw [if_pos hselect]
      exact h.ahead id hf
    · next hselect =>
      rw [if_neg hselect]
      have hf' : s.Fulfilled id := (fulfilled_congr (entries_beginPoll s) id).mp hf
      exact ahead_beginPoll h.accounted hf' (h.ahead id hf')
  | pollNext => exact ahead_pollNext h.accounted hf (h.ahead id (fulfilled_pollNext h.accounted hf))
  | block =>
    unfold PaneLoop.apply at hf ⊢
    dsimp only at hf ⊢
    split at hf
    · next hidle =>
      rw [if_pos hidle]
      exact (h.ahead id hf).of_same rfl (fun hw => hw) fun hp => absurd (hp.symm.trans hidle.2) nofun
    · next hidle =>
      rw [if_neg hidle]
      exact h.ahead id hf
  | receiveWake | otherArm =>
    unfold PaneLoop.apply at hf ⊢
    dsimp only at hf ⊢
    split at hf
    · next hidle =>
      rw [if_pos hidle]
      exact .inr (.inr (.inl ⟨(idle_iff.mp hidle.1).2, rfl⟩))
    · next hidle =>
      rw [if_neg hidle]
      exact h.ahead id hf
  | sendWake => exact .inr (.inl rfl)
  | fulfill id' reply =>
    have hmono : s.PollAhead id → (s.fulfill path id' reply).PollAhead id := by
      unfold PollAhead fulfill HostRequests.step
      exact Or.imp_right fun h => h.imp_left fun hw => by rw [hw, Bool.true_or]
    rcases fulfilled_fulfill.mp hf with hf | ⟨rfl, haccepts⟩
    · exact hmono (h.ahead id hf)
    · rcases hin id reply rfl haccepts with rfl | ha
      · right; left
        show (s.ioWake || (FulfilPath.embedded == .embedded && s.requests.accepts id reply)) = true
        rw [haccepts]
        simp
      · exact hmono ha
  | clone id' =>
    have hf' : s.Fulfilled id := (fulfilled_modify isFulfilled_clone rfl id).mp hf
    exact h.ahead id hf'
  | drop id' =>
    have hf' : s.Fulfilled id := (fulfilled_modify isFulfilled_drop rfl id).mp hf
    exact h.ahead id hf'
  | shutdown =>
    have hentries : (s.apply path .shutdown).requests.entries = s.requests.entries := by
      unfold PaneLoop.apply HostRequests.step HostRequests.ioStep
      dsimp only
      split <;> rfl
    have ha := h.ahead id ((fulfilled_congr hentries id).mp hf)
    unfold PaneLoop.apply HostRequests.step HostRequests.ioStep
    dsimp only
    split
    · exact ha
    · exact .inl rfl

/-! ## The thread on its own -/

/-- The thread is blocked, and stays so if there is no signal. -/
def AtRest (s : PaneLoop) : Prop := s.requests.cursor = none ∧ s.point = .select

theorem ownStep_exited (h : s.requests.exited = true) : s.ownStep = s := by
  unfold ownStep
  rw [if_pos h]

section

variable (h : s.requests.exited = false)
include h

theorem ownStep_pass {c : Nat} (hc : s.requests.cursor = some c) : s.ownStep = s.pollNext := by
  unfold ownStep
  rw [h, if_neg Bool.false_ne_true, hc]

theorem ownStep_commands (hc : s.requests.cursor = none) (hp : s.point = .commands) :
    s.ownStep = { s with requests := { s.requests with cursor := some 0 } } := by
  unfold ownStep
  have hbegin : s.requests.step .beginPoll = { s.requests with cursor := some 0 } := by
    simp [HostRequests.step, HostRequests.ioStep, h, hc]
  rw [h, if_neg Bool.false_ne_true, hc]
  rw [hp]
  rw [hbegin]

theorem ownStep_bytes (hc : s.requests.cursor = none) (hp : s.point = .bytes) :
    s.ownStep = { s with point := .select } := by
  unfold ownStep
  rw [h, if_neg Bool.false_ne_true, hc, hp]

theorem ownStep_woken (hr : s.AtRest) (hw : s.ioWake = true) :
    s.ownStep = { s with ioWake := false, point := .commands } := by
  unfold ownStep
  rw [h, if_neg Bool.false_ne_true, hr.1, hr.2]
  rw [if_pos hw]

end

theorem ownStep_rest (hr : s.AtRest) (hw : s.ioWake = false) : s.ownStep = s := by
  unfold ownStep
  split
  · rfl
  · rw [hr.1, hr.2]
    rw [hw, if_neg Bool.false_ne_true]

/-- On its own, the thread does one of its steps, or nothing. -/
theorem ownStep_apply (s : PaneLoop) : s.ownStep = s ∨ ∃ e : Event, (∀ id reply, e ≠ .fulfill id reply) ∧
    ∀ path, s.ownStep = s.apply path e := by
  cases hx : s.requests.exited with
  | true => exact .inl (ownStep_exited hx)
  | false =>
    cases hc : s.requests.cursor with
    | some c => exact .inr ⟨.pollNext, nofun, fun _ => ownStep_pass hx hc⟩
    | none =>
      have hidle : s.idle = true := idle_iff.mpr ⟨hx, hc⟩
      cases hp : s.point with
      | commands =>
        refine .inr ⟨.beginPoll, nofun, fun path => ?_⟩
        unfold PaneLoop.apply ownStep
        rw [hx, hc, hp]
        rfl
      | bytes =>
        refine .inr ⟨.block, nofun, fun path => ?_⟩
        unfold PaneLoop.apply
        rw [ownStep_bytes hx hc hp]
        dsimp only
        rw [if_pos ⟨hidle, hp⟩]
      | select =>
        cases hw : s.ioWake with
        | false => exact .inl (ownStep_rest ⟨hc, hp⟩ hw)
        | true =>
          refine .inr ⟨.receiveWake, nofun, fun path => ?_⟩
          unfold PaneLoop.apply
          rw [ownStep_woken hx ⟨hc, hp⟩ hw]
          dsimp only
          rw [if_pos ⟨hidle, hp, hw⟩]

theorem Attended.ownStep (h : s.Attended) : s.ownStep.Attended := by
  rcases ownStep_apply s with heq | ⟨e, hne, heq⟩
  · rw [heq]
    exact h
  · rw [heq .daemon]
    exact h.apply fun id reply he => absurd he (hne id reply)

/-- **A step of its own** polls one request, or leaves the requests as they are but for the cursor. -/
theorem ownStep_cases (hacc : s.requests.Accounted) :
    (∃ cursor, s.ownStep.requests = { s.requests with cursor }) ∨
      ∃ c id e requests, s.requests.cursor = some c ∧ s.requests.pendingResponses[c]? = some id ∧
        s.requests.entries[id]? = some e ∧ HostRequests.Polled s.requests c id e requests ∧
        s.ownStep = { s with requests } := by
  cases hx : s.requests.exited with
  | true => exact .inl ⟨s.requests.cursor, by rw [ownStep_exited hx]⟩
  | false =>
    cases hc : s.requests.cursor with
    | some c =>
      rw [ownStep_pass hx hc]
      rcases pollNext_cases hacc hc with ⟨-, heq⟩ | ⟨id, e, requests, hid, he, hp, heq⟩
      · exact .inl ⟨none, by rw [heq]⟩
      · exact .inr ⟨c, id, e, requests, rfl, hid, he, hp, heq⟩
    | none =>
      left
      cases hp : s.point with
      | commands => exact ⟨some 0, by rw [ownStep_commands hx hc hp]⟩
      | bytes => exact ⟨s.requests.cursor, by rw [ownStep_bytes hx hc hp]⟩
      | select =>
        cases hw : s.ioWake with
        | false => exact ⟨s.requests.cursor, by rw [ownStep_rest ⟨hc, hp⟩ hw]⟩
        | true => exact ⟨s.requests.cursor, by rw [ownStep_woken hx ⟨hc, hp⟩ hw]⟩

theorem exited_ownStep (hacc : s.requests.Accounted) : s.ownStep.requests.exited = s.requests.exited := by
  rcases ownStep_cases hacc with ⟨cursor, heq⟩ | ⟨c, id, e, requests, -, -, -, hp, heq⟩
  · rw [heq]
  · rw [heq]
    cases hp <;> rfl

theorem ioWake_pollNext (s : PaneLoop) : s.pollNext.ioWake = s.ioWake := rfl

/-- A pass ends. -/
theorem pass_ends (hacc : s.requests.Accounted) (hlive : s.requests.exited = false) {c : Nat}
    (hc : s.requests.cursor = some c) : ∃ k, (ownStep^[k] s).requests.cursor = none ∧ (ownStep^[k] s).point = .bytes ∧
      (ownStep^[k] s).ioWake = s.ioWake ∧ (ownStep^[k] s).requests.exited = false := by
  induction hn : s.requests.pendingResponses.length - c using Nat.strong_induction_on generalizing s c with
  | _ n ih =>
    have hown := ownStep_pass hlive hc
    rcases pollNext_cases hacc hc with ⟨-, heq⟩ | ⟨id, e, requests, hid, he, hp, heq⟩
    · refine ⟨1, ?_⟩
      rw [Function.iterate_one, hown, heq]
      exact ⟨rfl, rfl, rfl, hlive⟩
    · -- the list gets shorter, or the cursor moves on
      have hlt := (List.getElem?_eq_some_iff.mp hid).1
      have hacc' : s.ownStep.requests.Accounted := accounted_ownStep hacc
      have hlive' := (exited_ownStep hacc).trans hlive
      have hnext : ∃ c', s.ownStep.requests.cursor = some c' ∧ s.ownStep.requests.pendingResponses.length - c' < n := by
        rw [hown, heq]
        cases hp with
        | ready | cancelled =>
          refine ⟨c, hc, ?_⟩
          rw [length_eraseIdx_of_lt hlt]
          omega
        | pending hslot hheld =>
          refine ⟨c + 1, rfl, ?_⟩
          show s.requests.pendingResponses.length - (c + 1) < n
          omega
      obtain ⟨c', hc', hlt'⟩ := hnext
      obtain ⟨k, hk⟩ := ih _ hlt' hacc' hlive' hc' rfl
      refine ⟨k + 1, ?_⟩
      refine ⟨hk.1, hk.2.1, hk.2.2.1.trans ?_, hk.2.2.2⟩
      rw [hown, ioWake_pollNext]

/-- **On its own, the thread comes to rest, before it takes a signal.** -/
theorem comes_to_rest (hacc : s.requests.Accounted) (hlive : s.requests.exited = false) :
    ∃ k, (ownStep^[k] s).AtRest ∧ (ownStep^[k] s).ioWake = s.ioWake ∧ (ownStep^[k] s).requests.exited = false := by
  -- after a pass, one more step
  have hafter : ∀ {t : PaneLoop} {c : Nat}, t.requests.Accounted → t.requests.exited = false →
      t.requests.cursor = some c → ∃ k, (ownStep^[k] t).AtRest ∧ (ownStep^[k] t).ioWake = t.ioWake ∧
        (ownStep^[k] t).requests.exited = false := by
    intro t c hacc hlive hc
    obtain ⟨k, hcursor, hpoint, hwake, hx⟩ := pass_ends hacc hlive hc
    refine ⟨k + 1, ?_⟩
    rw [Function.iterate_succ_apply', ownStep_bytes hx hcursor hpoint]
    exact ⟨⟨hcursor, rfl⟩, hwake, hx⟩
  cases hc : s.requests.cursor with
  | some c => exact hafter hacc hlive hc
  | none =>
    cases hp : s.point with
    | commands =>
      have hown := ownStep_commands hlive hc hp
      obtain ⟨k, hk⟩ := hafter (accounted_ownStep hacc) (by rw [hown]; exact hlive)
        (by rw [hown])
      refine ⟨k + 1, ?_⟩
      exact ⟨hk.1, hk.2.1.trans (by rw [hown]), hk.2.2⟩
    | bytes =>
      refine ⟨1, ?_⟩
      rw [Function.iterate_one, ownStep_bytes hlive hc hp]
      exact ⟨⟨hc, rfl⟩, rfl, hlive⟩
    | select => exact ⟨0, ⟨hc, hp⟩, rfl, hlive⟩

/-! ## Delivery -/

theorem attended_iterate (h : s.Attended) (k : Nat) : (ownStep^[k] s).Attended :=
  Function.Iterate.rec Attended h (fun _ ht => ht.ownStep) k

theorem accounted_iterate (h : s.requests.Accounted) (k : Nat) : (ownStep^[k] s).requests.Accounted :=
  Function.Iterate.rec (fun t : PaneLoop => t.requests.Accounted) h (fun _ => accounted_ownStep) k

/-- What its own steps keep holds after any number of them. -/
theorem iterate_invariant {I : PaneLoop → Prop} (hacc : s.requests.Accounted) (h : I s)
    (hstep : ∀ t, t.requests.Accounted → I t → I t.ownStep) (k : Nat) : I (ownStep^[k] s) := by
  have hboth := Function.Iterate.rec (fun t : PaneLoop => t.requests.Accounted ∧ I t) ⟨hacc, h⟩
    (fun t ht => ⟨accounted_ownStep ht.1, hstep t ht.1 ht.2⟩) k
  exact hboth.2

section

variable (hacc : s.requests.Accounted)
include hacc

/-- A fulfilled request stays so until it leaves the list. -/
theorem fulfilled_ownStep (hf : s.Fulfilled id) :
    s.ownStep.Fulfilled id ∨ id ∉ s.ownStep.requests.pendingResponses := by
  rcases ownStep_cases hacc with ⟨cursor, heq⟩ | ⟨c, id', e, requests, hc, hid, he, hp, heq⟩
  · exact .inl ((fulfilled_congr (by rw [heq]) id).mpr hf)
  · by_cases hsame : id = id'
    · right
      subst hsame
      have herase := HostRequests.mem_eraseIdx_pending hacc hid id
      obtain ⟨e', he', hfulfilled⟩ := hf
      obtain rfl := some.inj (he.symm.trans he')
      unfold HostEntry.isFulfilled at hfulfilled
      rw [heq]
      cases hp with
      | ready | cancelled => exact fun h => (herase.mp h).1 rfl
      | pending hslot hheld =>
        rw [hslot] at hfulfilled
        cases hfulfilled
    · left
      rw [heq]
      exact (fulfilled_polled he hp).mpr ⟨hf, hsame⟩

/-- A pass that has not come to a fulfilled request takes it off the list. -/
theorem leaves_in_pass (hlive : s.requests.exited = false) {c i : Nat} (hf : s.Fulfilled id)
    (hc : s.requests.cursor = some c) (hi : s.requests.pendingResponses[i]? = some id) (hle : c ≤ i) :
    ∃ k, id ∉ (ownStep^[k] s).requests.pendingResponses := by
  induction hn : i - c generalizing s c i with
  | zero =>
    obtain rfl : c = i := by omega
    by_contra hstays
    have hown := ownStep_pass hlive hc
    have hmem : id ∈ s.ownStep.requests.pendingResponses := by
      by_contra hgone
      exact hstays ⟨1, hgone⟩
    have hf' := (fulfilled_ownStep hacc hf).resolve_right (not_not.mpr hmem)
    rcases pollNext_cases hacc hc with ⟨hend, -⟩ | ⟨id', e, requests, hid, he, hp, heq⟩
    · rw [hi] at hend
      cases hend
    · obtain rfl := some.inj (hi.symm.trans hid)
      rw [hown, heq] at hf'
      exact ((fulfilled_polled he hp).mp hf').2 rfl
  | succ n ih =>
    have hown := ownStep_pass hlive hc
    rcases pollNext_cases hacc hc with ⟨hend, -⟩ | ⟨id', e, requests, hid, he, hp, heq⟩
    · have hlt := (List.getElem?_eq_some_iff.mp hi).1
      have hlen := getElem?_eq_none_iff.mp hend
      omega
    · have hne : id ≠ id' := by
        rintro rfl
        have hlt := (List.getElem?_eq_some_iff.mp hi).1
        have := (getElem?_inj hlt hacc.nodup).mp (hi.trans hid.symm)
        omega
      have hf' : s.ownStep.Fulfilled id := by
        rw [hown, heq]
        exact (fulfilled_polled he hp).mpr ⟨hf, hne⟩
      have hlive' := (exited_ownStep hacc).trans hlive
      have herased : (s.requests.pendingResponses.eraseIdx c)[i - 1]? = some id := by
        rw [getElem?_eraseIdx_of_ge (by omega), Nat.sub_add_cancel (by omega)]
        exact hi
      have hnext : ∃ c' i', s.ownStep.requests.cursor = some c' ∧
          s.ownStep.requests.pendingResponses[i']? = some id ∧ c' ≤ i' ∧ i' - c' = n := by
        rw [hown, heq]
        cases hp with
        | ready | cancelled => exact ⟨c, i - 1, hc, herased, by omega, by omega⟩
        | pending hslot hheld => exact ⟨c + 1, i, rfl, hi, by omega, by omega⟩
      obtain ⟨c', i', hc', hi', hle', hn'⟩ := hnext
      obtain ⟨k, hk⟩ := ih (accounted_ownStep hacc) hlive' hf' hc' hi' hle' hn'
      exact ⟨k + 1, hk⟩

/-- **A fulfilled request whose poll is ahead leaves the list by the thread's own steps.** -/
theorem leaves_of_ahead (hlive : s.requests.exited = false) (hf : s.Fulfilled id) (ha : s.PollAhead id) :
    ∃ k, id ∉ (ownStep^[k] s).requests.pendingResponses := by
  by_contra hstays
  rw [not_exists] at hstays
  have hfulfilled : ∀ k, (ownStep^[k] s).Fulfilled id := by
    intro k
    induction k with
    | zero => exact hf
    | succ k ih =>
      have hnext := hstays (k + 1)
      rw [Function.iterate_succ_apply'] at hnext ⊢
      exact (fulfilled_ownStep (accounted_iterate hacc k) ih).resolve_right hnext
  -- from `drain_commands` on, the next pass takes it
  have hcommands : ∀ k, (ownStep^[k] s).requests.exited = false → (ownStep^[k] s).requests.cursor = none →
      (ownStep^[k] s).point = .commands → False := by
    intro k hx hc hp
    have hown := ownStep_commands hx hc hp
    rw [← Function.iterate_succ_apply' ownStep] at hown
    obtain ⟨i, hi⟩ := (hfulfilled (k + 1)).pending (accounted_iterate hacc (k + 1))
    obtain ⟨j, hj⟩ := leaves_in_pass (accounted_iterate hacc (k + 1)) (by rw [hown]; exact hx)
      (hfulfilled (k + 1)) (by rw [hown]) hi (Nat.zero_le i)
    rw [← Function.iterate_add_apply] at hj
    exact hstays (j + (k + 1)) hj
  rcases ha with hx | hw | ⟨hc, hp⟩ | ⟨c, i, hc, hi, hle⟩
  · rw [hx] at hlive
    cases hlive
  · obtain ⟨k, hrest, hwake, hx⟩ := comes_to_rest hacc hlive
    have hown := ownStep_woken hx hrest (hwake.trans hw)
    rw [← Function.iterate_succ_apply' ownStep] at hown
    refine hcommands (k + 1) ?_ ?_ ?_
    · rw [hown]
      exact hx
    · rw [hown]
      exact hrest.1
    · rw [hown]
  · exact hcommands 0 hlive hc hp
  · obtain ⟨k, hk⟩ := leaves_in_pass hacc hlive hf hc hi hle
    exact hstays k hk

/-- **One whose poll is not ahead waits for something else to happen.** -/
theorem stranded_ownStep (hf : s.Fulfilled id) (ha : ¬ s.PollAhead id) :
    s.ownStep.Fulfilled id ∧ ¬ s.ownStep.PollAhead id := by
  unfold PollAhead at ha
  rw [not_or, not_or, not_or] at ha
  obtain ⟨hx, hw, hcommands, hpass⟩ := ha
  rw [Bool.not_eq_true] at hx hw
  cases hc : s.requests.cursor with
  | none =>
    have hstill : ∀ point, point ≠ .commands → ¬ ({ s with point } : PaneLoop).PollAhead id := by
      rintro point hpoint (h | h | h | ⟨c, i, h, -⟩)
      · exact Bool.false_ne_true (hx.symm.trans h)
      · exact Bool.false_ne_true (hw.symm.trans h)
      · exact hpoint h.2
      · exact absurd (hc.symm.trans h) nofun
    cases hp : s.point with
    | commands => exact absurd ⟨hc, hp⟩ hcommands
    | bytes =>
      rw [ownStep_bytes hx hc hp]
      exact ⟨hf, hstill .select nofun⟩
    | select =>
      rw [ownStep_rest ⟨hc, hp⟩ hw]
      refine ⟨hf, ?_⟩
      have := hstill .select nofun
      rw [← hp] at this
      exact this
  | some c =>
    have hbehind : ∀ i, s.requests.pendingResponses[i]? = some id → i < c := by
      intro i hi
      by_contra hle
      exact hpass ⟨c, i, hc, hi, Nat.not_lt.mp hle⟩
    rw [ownStep_pass hx hc]
    rcases pollNext_cases hacc hc with ⟨-, heq⟩ | ⟨id', e, requests, hid, he, hp, heq⟩
    · rw [heq]
      refine ⟨hf, ?_⟩
      rintro (h | h | h | ⟨c', i, h, -⟩)
      · exact Bool.false_ne_true (hx.symm.trans h)
      · exact Bool.false_ne_true (hw.symm.trans h)
      · cases h.2
      · cases h
    · have hne : id ≠ id' := by
        rintro rfl
        exact Nat.lt_irrefl c (hbehind c hid)
      have herased : ∀ i, (s.requests.pendingResponses.eraseIdx c)[i]? = some id → i < c := by
        intro i hi
        by_contra hle
        rw [getElem?_eraseIdx_of_ge (Nat.not_lt.mp hle)] at hi
        have := hbehind (i + 1) hi
        omega
      rw [heq]
      refine ⟨(fulfilled_polled he hp).mpr ⟨hf, hne⟩, ?_⟩
      cases hp with
      | ready | cancelled =>
        rintro (h | h | h | ⟨c', i, h, hi, hle⟩)
        · exact Bool.false_ne_true (hx.symm.trans h)
        · exact Bool.false_ne_true (hw.symm.trans h)
        · exact absurd (hc.symm.trans h.1) nofun
        · obtain rfl := some.inj (hc.symm.trans h)
          exact absurd (herased i hi) (Nat.not_lt.mpr hle)
      | pending hslot hheld =>
        rintro (h | h | h | ⟨c', i, h, hi, hle⟩)
        · exact Bool.false_ne_true (hx.symm.trans h)
        · exact Bool.false_ne_true (hw.symm.trans h)
        · cases h.1
        · obtain rfl := some.inj h
          have := hbehind i hi
          omega

variable {e : HostEntry} (he : s.requests.entries[id]? = some e)
include he

/-- What a request was answered with. -/
theorem replies_ownStep : ∃ e', s.ownStep.requests.entries[id]? = some e' ∧ e'.replies = e.replies := by
  rcases ownStep_cases hacc with ⟨cursor, heq⟩ | ⟨c, id', e₀, requests, hc, hid, he₀, hp, heq⟩
  · exact ⟨e, by rw [heq]; exact he, rfl⟩
  · rw [heq]
    cases hp with
    | ready value hslot =>
      by_cases hsame : id' = id
      · subst hsame
        obtain rfl := some.inj (he.symm.trans he₀)
        exact ⟨_, List.getElem?_set_self (List.getElem?_eq_some_iff.mp he).1, rfl⟩
      · exact ⟨e, (getElem?_set_ne hsame).trans he, rfl⟩
    | cancelled | pending => exact ⟨e, he, rfl⟩

theorem replies_iterate (k : Nat) :
    ∃ e', (ownStep^[k] s).requests.entries[id]? = some e' ∧ e'.replies = e.replies := by
  refine iterate_invariant (I := fun t => ∃ e', t.requests.entries[id]? = some e' ∧ e'.replies = e.replies) hacc
    ⟨e, he, rfl⟩ (fun t ht hi => ?_) k
  obtain ⟨e', he', hreplies⟩ := hi
  obtain ⟨e'', he'', hreplies'⟩ := replies_ownStep ht he'
  exact ⟨e'', he'', hreplies'.trans hreplies⟩

end

/-- The reply to a request reaches the PTY without further events. -/
def Delivers (s : PaneLoop) (id : Nat) (e : HostEntry) : Prop :=
  ∃ k, (ownStep^[k] s).requests.repliesTo id = e.replies

/-- **A reply reaches the PTY without further events exactly when its poll is ahead.** -/
theorem delivers_iff (hacc : s.requests.Accounted) (hlive : s.requests.exited = false) {e : HostEntry}
    (he : s.requests.entries[id]? = some e) (hf : e.isFulfilled = true) : s.Delivers id e ↔ s.PollAhead id := by
  constructor
  · rintro ⟨k, hk⟩
    by_contra ha
    have hstranded := iterate_invariant (I := fun t => t.Fulfilled id ∧ ¬ t.PollAhead id) hacc ⟨⟨e, he, hf⟩, ha⟩
      (fun t ht hi => stranded_ownStep ht hi.1 hi.2) k
    obtain ⟨i, hi⟩ := hstranded.1.pending (accounted_iterate hacc k)
    obtain ⟨e', he', hreplies⟩ := replies_iterate hacc he k
    have howed := ((accounted_iterate hacc k).owed id e' he').replies
    rw [if_pos (mem_of_getElem? hi), hk] at howed
    have hvalue := hacc.owed id e he
    unfold HostRequests.Owed at hvalue
    unfold HostEntry.isFulfilled at hf
    unfold HostEntry.replies at howed
    cases hslot : e.token.slot with
    | pending | consumed => rw [hslot] at hf; cases hf
    | fulfilled value =>
      rw [hslot] at hvalue
      rw [hvalue.1] at howed
      cases howed
  · intro ha
    obtain ⟨k, hk⟩ := leaves_of_ahead hacc hlive ⟨e, he, hf⟩ ha
    obtain ⟨e', he', hreplies⟩ := replies_iterate hacc he k
    refine ⟨k, ?_⟩
    rw [((accounted_iterate hacc k).owed id e' he').replies, if_neg hk]
    exact hreplies

/-- Every reply that was accepted reaches the PTY without further events. -/
def Delivered (s : PaneLoop) : Prop :=
  s.requests.exited = false → ∀ id e, s.requests.entries[id]? = some e → e.isFulfilled = true → s.Delivers id e

theorem delivered_iff (hacc : s.requests.Accounted) : s.Delivered ↔ s.Attended := by
  constructor
  · intro h
    refine ⟨hacc, fun id hf => ?_⟩
    obtain ⟨e, he, hfulfilled⟩ := hf
    cases hx : s.requests.exited with
    | true => exact .inl hx
    | false => exact (delivers_iff hacc hx he hfulfilled).mp (h hx id e he hfulfilled)
  · exact fun h hx id e he hf => (delivers_iff hacc hx he hf).mpr (h.ahead id ⟨e, he, hf⟩)

/-! ## The same writes -/

/-- Before the thread comes to rest, a signal makes no difference. -/
theorem ownStep_signal (h : ¬ s.AtRest) : ({ s with ioWake := true } : PaneLoop).ownStep = { s.ownStep with ioWake := true } := by
  cases hx : s.requests.exited with
  | true => rw [ownStep_exited hx, ownStep_exited (s := { s with ioWake := true }) hx]
  | false =>
    cases hc : s.requests.cursor with
    | some c => rw [ownStep_pass hx hc, ownStep_pass (s := { s with ioWake := true }) hx hc]; rfl
    | none =>
      obtain hp | hp | hp : s.point = .commands ∨ s.point = .bytes ∨ s.point = .select := by cases s.point <;> simp
      · rw [ownStep_commands hx hc hp, ownStep_commands (s := { s with ioWake := true }) hx hc hp]
      · rw [ownStep_bytes hx hc hp, ownStep_bytes (s := { s with ioWake := true }) hx hc hp]
      · exact absurd ⟨hc, hp⟩ h

/-- Where nothing is fulfilled, nothing is written. -/
theorem quiet_ownStep (hacc : s.requests.Accounted) (h : ∀ id, ¬ s.Fulfilled id) :
    (∀ id, ¬ s.ownStep.Fulfilled id) ∧ s.ownStep.requests.writes = s.requests.writes := by
  have hkeep : s.ownStep.requests.entries = s.requests.entries → s.ownStep.requests.writes = s.requests.writes →
      (∀ id, ¬ s.ownStep.Fulfilled id) ∧ s.ownStep.requests.writes = s.requests.writes :=
    fun heq hwrites => ⟨fun id hf => h id ((fulfilled_congr heq id).mp hf), hwrites⟩
  rcases ownStep_cases hacc with ⟨cursor, heq⟩ | ⟨c, id, e, requests, -, -, he, hp, heq⟩
  · exact hkeep (by rw [heq]) (by rw [heq])
  · rw [heq] at hkeep ⊢
    cases hp with
    | ready value hslot =>
      refine absurd ⟨e, he, ?_⟩ (h id)
      unfold HostEntry.isFulfilled
      rw [hslot]
    | cancelled | pending => exact hkeep rfl rfl

theorem quiet_iterate (hacc : s.requests.Accounted) (h : ∀ id, ¬ s.Fulfilled id) (k : Nat) :
    (ownStep^[k] s).requests.writes = s.requests.writes := by
  have hboth := iterate_invariant (I := fun t => (∀ id, ¬ t.Fulfilled id) ∧ t.requests.writes = s.requests.writes) hacc
    ⟨h, rfl⟩ (fun t ht hi => ⟨(quiet_ownStep ht hi.1).1, (quiet_ownStep ht hi.1).2.trans hi.2⟩) k
  exact hboth.2

/-- The writes of two threads, left to themselves, are in the end the same. -/
def SameWrites (s t : PaneLoop) : Prop :=
  ∃ k₀, ∀ k, k₀ ≤ k → (ownStep^[k] s).requests.writes = (ownStep^[k] t).requests.writes

theorem ioWake_ownStep (h : s.ioWake = false) : s.ownStep.ioWake = false := by
  unfold ownStep
  split
  · exact h
  · split
    · exact h
    · split
      · exact h
      · exact h
      · rw [h]
        exact h

/-- Waking a thread whose replies are all ahead adds no write. -/
theorem sameWrites_signal (h : s.Attended) (hw : s.ioWake = false) : SameWrites s { s with ioWake := true } := by
  cases hx : s.requests.exited with
  | true =>
    refine ⟨0, fun k _ => ?_⟩
    rw [Function.iterate_fixed (ownStep_exited hx),
      Function.iterate_fixed (ownStep_exited (s := { s with ioWake := true }) hx)]
  | false =>
    have hrest : ∃ k, (ownStep^[k] s).AtRest := by
      obtain ⟨k, hk, -⟩ := comes_to_rest h.accounted hx
      exact ⟨k, hk⟩
    classical
    obtain ⟨k₀, hk₀, hfirst⟩ : ∃ k₀, (ownStep^[k₀] s).AtRest ∧ ∀ j < k₀, ¬ (ownStep^[j] s).AtRest :=
      ⟨Nat.find hrest, Nat.find_spec hrest, fun j hj => Nat.find_min hrest hj⟩
    have hwake : ∀ k, (ownStep^[k] s).ioWake = false :=
      Function.Iterate.rec (fun t : PaneLoop => t.ioWake = false) hw fun _ => ioWake_ownStep
    have hlockstep : ∀ j ≤ k₀, ownStep^[j] { s with ioWake := true } = { ownStep^[j] s with ioWake := true } := by
      intro j
      induction j with
      | zero => exact fun _ => rfl
      | succ j ih =>
        intro hj
        rw [Function.iterate_succ_apply', Function.iterate_succ_apply', ih (by omega)]
        exact ownStep_signal (hfirst j (by omega))
    have hatt := attended_iterate h k₀
    have hx₀ : (ownStep^[k₀] s).requests.exited = false :=
      iterate_invariant h.accounted hx
        (fun _ ht hi => (exited_ownStep ht).trans hi) k₀
    -- at rest without a signal, no reply is left to be written
    have hnone : ∀ id, ¬ (ownStep^[k₀] s).Fulfilled id := by
      intro id hf
      rcases hatt.ahead id hf with h | h | ⟨-, h⟩ | ⟨c, i, h, -⟩
      · exact Bool.false_ne_true (hx₀.symm.trans h)
      · exact Bool.false_ne_true ((hwake k₀).symm.trans h)
      · exact absurd (hk₀.2.symm.trans h) nofun
      · exact absurd (hk₀.1.symm.trans h) nofun
    refine ⟨k₀, fun k hk => ?_⟩
    obtain ⟨j, rfl⟩ := Nat.exists_eq_add_of_le' hk
    rw [Function.iterate_add_apply, Function.iterate_add_apply, hlockstep k₀ (Nat.le_refl _),
      Function.iterate_fixed (ownStep_rest hk₀ (hwake k₀))]
    exact (quiet_iterate (s := { ownStep^[k₀] s with ioWake := true }) hatt.accounted hnone j).symm

/-! ## Every run -/

/-- The poll of a request is ahead when its reply is accepted. -/
def RepliesInTime (s : PaneLoop) : Event → Prop
  | .fulfill id reply => s.requests.accepts id reply = true → s.PollAhead id
  | _ => True

/-- **In the embedded backend a reply wakes the thread**, and reaches the PTY without further events. -/
theorem embedded_delivers (es : List Event) : (run (apply .embedded) new es).Delivered := by
  have hrun : (run (apply .embedded) new es).Attended :=
    run_invariant (fun _ _ h => h.apply fun _ _ _ _ => .inl rfl) attended_new es
  exact (delivered_iff hrun.accounted).mpr hrun

theorem ioWake_fulfill_daemon (id : Nat) (reply : HostReply) : (s.fulfill .daemon id reply).ioWake = s.ioWake := by
  unfold fulfill
  simp

/-- In the daemon, a step keeps every reply ahead exactly when it fulfils no request too late. -/
theorem attended_apply_iff (h : s.Attended) (e : Event) : (s.apply .daemon e).Attended ↔ RepliesInTime s e := by
  constructor
  · intro h'
    cases e with
    | fulfill id reply =>
      intro haccepts
      have ha := h'.ahead id (fulfilled_fulfill.mpr (.inr ⟨rfl, haccepts⟩))
      unfold PollAhead at ha ⊢
      rw [← ioWake_fulfill_daemon]
      exact ha
    | _ => trivial
  · intro hin
    refine h.apply fun id reply he haccepts => .inr ?_
    subst he
    exact hin haccepts

/-- Where all replies are in time, the daemon's writes are those of the embedded backend. -/
theorem sameWrites_fulfill {reply : HostReply} (h : (s.fulfill .daemon id reply).Attended) :
    SameWrites (s.fulfill .daemon id reply) (s.fulfill .embedded id reply) := by
  cases haccepts : s.requests.accepts id reply with
  | false =>
    have hsame : s.fulfill .embedded id reply = s.fulfill .daemon id reply := by
      unfold fulfill
      rw [haccepts]
      simp
    rw [hsame]
    exact ⟨0, fun _ _ => rfl⟩
  | true =>
    have hsignal : s.fulfill .embedded id reply = { s.fulfill .daemon id reply with ioWake := true } := by
      unfold fulfill
      rw [haccepts]
      simp
    cases hw : (s.fulfill .daemon id reply).ioWake with
    | false =>
      rw [hsignal]
      exact sameWrites_signal h hw
    | true =>
      have hsame : s.fulfill .embedded id reply = s.fulfill .daemon id reply := by
        rw [hsignal, ← hw]
      rw [hsame]
      exact ⟨0, fun _ _ => rfl⟩

/-- A run of the daemon does with the replies what the embedded backend does. -/
structure FulfilsAsEmbedded (es : List Event) : Prop where
  /-- Every accepted reply reaches the PTY without further events. -/
  delivered : ∀ n, (run (apply .daemon) new (es.take n)).Delivered
  /-- The writes are in the end those of the embedded path. -/
  sameWrites : ∀ n id reply, es[n]? = some (.fulfill id reply) →
    SameWrites ((run (apply .daemon) new (es.take n)).fulfill .daemon id reply)
      ((run (apply .daemon) new (es.take n)).fulfill .embedded id reply)

/-- A wake is already pending when a reply is accepted. -/
def WakePending (s : PaneLoop) : Event → Prop
  | .fulfill id reply => s.requests.accepts id reply = true → s.ioWake = true
  | _ => True

/-- **The daemon fulfils as the embedded backend does exactly when each poll is ahead of its reply**; a pending wake
    it leaves only where there was one. -/
theorem fulfilment_run_iff (es : List Event) :
    (FulfilsAsEmbedded es ↔ Along (apply .daemon) RepliesInTime new es) ∧
      ((∀ n id reply, es[n]? = some (.fulfill id reply) →
          (run (apply .daemon) new (es.take n)).requests.accepts id reply = true →
          ((run (apply .daemon) new (es.take n)).fulfill .daemon id reply).ioWake = true) ↔
        Along (apply .daemon) WakePending new es) := by
  have hacc : ∀ n, (run (apply .daemon) new (es.take n)).requests.Accounted := fun n =>
    run_invariant (I := fun s : PaneLoop => s.requests.Accounted) (fun _ e h => accounted_apply h e)
      HostRequests.accounted_new (es.take n)
  have hiff : (∀ n, (run (apply .daemon) new (es.take n)).Attended) ↔ Along (apply .daemon) RepliesInTime new es :=
    along_iff_forall_take (P := Attended) (K := fun _ => True) (fun s e _ h => ⟨trivial, attended_apply_iff h e⟩) trivial
      attended_new
  constructor
  · rw [← hiff]
    constructor
    · exact fun h n => (delivered_iff (hacc n)).mp (h.delivered n)
    · refine fun h => ⟨fun n => (delivered_iff (hacc n)).mpr (h n), fun n id reply he => sameWrites_fulfill ?_⟩
      have hnext := h (n + 1)
      rw [take_add_one, he, run_append] at hnext
      exact hnext
  · rw [along_iff_getElem?]
    constructor
    · intro h n e he
      cases e with
      | fulfill id reply =>
        intro haccepts
        have hwake := h n id reply he haccepts
        rwa [ioWake_fulfill_daemon] at hwake
      | _ => trivial
    · intro h n id reply he haccepts
      rw [ioWake_fulfill_daemon]
      exact h n _ he haccepts

/-- A reply that finds the thread blocked waits for something else to happen. -/
theorem reply_to_blocked : ¬ ∀ es, FulfilsAsEmbedded es := by
  intro h
  have hd := (h [.request (.clipboardLoad .clipboard 99 "\u0007") true, .beginPoll, .pollNext, .pollNext, .block,
    .fulfill 0 (.clipboardLoad "hi")]).delivered 6
  rw [delivered_iff (run_invariant (I := fun s : PaneLoop => s.requests.Accounted) (fun _ e h => accounted_apply h e)
    HostRequests.accounted_new _)] at hd
  rcases hd.ahead 0 ⟨_, rfl, rfl⟩ with h | h | ⟨-, h⟩ | ⟨c, i, h, -⟩
  · cases h
  · cases h
  · cases h
  · cases h

end PaneLoop

end OriTerm
