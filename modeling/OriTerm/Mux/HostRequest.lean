import OriTerm.Term.State

/-!
# `Mux.HostRequest` — requests answered by the host

A terminal that needs something from its host (the clipboard, a colour) emits a `HostRequest` with a
`ResponseToken`. The IO thread registers the request in `pending_responses` and sends a clone of the token to
the main thread, which fulfils it or drops it at any time. `poll_pending_responses` walks the pending list:
a fulfilled token yields one PTY write and leaves the list, a dropped one leaves it silently.

The token's slot is behind a mutex, so each poll of one token, and each fulfilment, is one step; the
consumer's steps interleave with the steps of the walk (`cursor`). The IO thread's other steps do not.

The accounting invariant is `HostRequests.Accounted`: the slot's state says whether the reply is still to
come, and nothing else decides it.
-/

namespace OriTerm

open Lib List Option

/-! ## Reply formats -/

/-- The alphabet of standard base64. -/
def base64Alphabet : List Char :=
  "ABCDEFGHIJKLMNOPQRSTUVWXYZabcdefghijklmnopqrstuvwxyz0123456789+/".toList

/-- One base64 digit. -/
def base64Digit (n : Nat) : Char := base64Alphabet.getD (n % 64) 'A'

/-- Standard base64 with padding. -/
def base64Encode : List UInt8 → List Char
  | [] => []
  | [a] => [base64Digit (a.toNat / 4), base64Digit (a.toNat * 16), '=', '=']
  | [a, b] =>
    [base64Digit (a.toNat / 4), base64Digit (a.toNat * 16 + b.toNat / 16), base64Digit (b.toNat * 4), '=']
  | a :: b :: c :: rest =>
    base64Digit (a.toNat / 4) :: base64Digit (a.toNat * 16 + b.toNat / 16) ::
      base64Digit (b.toNat * 4 + c.toNat / 64) :: base64Digit c.toNat :: base64Encode rest

/-- A byte as two lower-case hexadecimal digits, written twice (the 02x format applied to a channel and
    repeated). -/
def doubledHex (b : UInt8) : String :=
  let digit (n : Nat) := "0123456789abcdef".toList.getD n '0'
  let hi := digit (b.toNat / 16)
  let lo := digit (b.toNat % 16)
  String.ofList [hi, lo, hi, lo]

/-- Format an OSC 52 clipboard reply as raw PTY bytes. -/
def formatClipboardReply (text : String) (clipboardChar : UInt8) (terminator : String) : List UInt8 :=
  ("\u001b]52;" ++ String.singleton (Char.ofNat clipboardChar.toNat) ++ ";" ++
    String.ofList (base64Encode text.toUTF8.toList) ++ terminator).toUTF8.toList

/-- Format an OSC color query reply as raw PTY bytes. -/
def formatColorReply (color : Rgb) (oscPrefix terminator : String) : List UInt8 :=
  ("\u001b]" ++ oscPrefix ++ ";rgb:" ++ doubledHex color.r ++ "/" ++ doubledHex color.g ++ "/" ++
    doubledHex color.b ++ terminator).toUTF8.toList

/-! ## Tokens -/

/-- The slot behind a token. -/
inductive SlotState (T : Type) where
  /-- No fulfil has been issued yet. -/
  | pending
  /-- Fulfilled with a value, awaiting the terminal side. -/
  | fulfilled (value : T)
  /-- The terminal side has drained the value. -/
  | consumed

/-- Result of polling a token. -/
inductive TokenPoll (T : Type) where
  | ready (value : T)
  | pending
  | cancelled

/-- A response token as both sides see it. -/
structure ResponseToken (T : Type) where
  slot : SlotState T
  /-- Handles on the consumer's side; the IO thread's own comes on top. -/
  handles : Nat
  /-- What the token was fulfilled with, if ever. -/
  value : Option T

namespace ResponseToken

variable {T : Type}

variable (t : ResponseToken T)

/-- Fulfil the request. The first fulfil wins; later ones are rejected. -/
def fulfill (value : T) : ResponseToken T :=
  match t.slot with
  | .pending => { t with slot := .fulfilled value, value := some value }
  | .fulfilled _ => t
  | .consumed => t

/-- Strong count of the slot, as the IO thread sees it while its clone is alive. -/
def consumerStrongCount : Nat := t.handles + 1

/-- Atomically poll the token. -/
def poll : TokenPoll T × ResponseToken T :=
  match t.slot with
  | .fulfilled value => (.ready value, { t with slot := .consumed })
  | .consumed => (.cancelled, t)
  | .pending => (if t.consumerStrongCount ≤ 1 then .cancelled else .pending, t)

/-- Nothing can change the outcome any more: the token is fulfilled, or no consumer is left to do it. -/
def Resolved : Prop := t.value.isSome = true ∨ t.handles = 0

end ResponseToken

/-! ## Requests -/

/-- A host request that requires a response from the consumer. -/
inductive HostRequest where
  /-- OSC 52 clipboard read. -/
  | clipboardLoad (selection : ClipboardSelection) (clipboardChar : UInt8) (terminator : String)
  /-- OSC 4/10/11/12 color query. -/
  | colorQuery (oscPrefix : String) (index : Nat) (terminator : String)
  deriving DecidableEq, Repr

namespace HostRequest

/-- The type of the reply. -/
def Value : HostRequest → Type
  | .clipboardLoad .. => String
  | .colorQuery .. => Rgb

/-- The PTY bytes of the reply. -/
def format : (r : HostRequest) → r.Value → List UInt8
  | .clipboardLoad _ clipboardChar terminator => fun text => formatClipboardReply text clipboardChar terminator
  | .colorQuery oscPrefix _ terminator => fun color => formatColorReply color oscPrefix terminator

end HostRequest

/-- What a consumer answers with. -/
inductive HostReply where
  | clipboardLoad (text : String)
  | colorQuery (color : Rgb)
  deriving DecidableEq, Repr

/-- The value for a request, if the reply is of its kind; a reply of another kind is dropped. -/
def HostReply.valueFor : HostReply → (r : HostRequest) → Option r.Value
  | .clipboardLoad text, .clipboardLoad .. => some text
  | .colorQuery color, .colorQuery .. => some color
  | .clipboardLoad _, .colorQuery .. => none
  | .colorQuery _, .clipboardLoad .. => none

/-- A request with its token. -/
structure HostEntry where
  request : HostRequest
  token : ResponseToken request.Value

namespace HostEntry

/-- The consumer answers; only a consumer that holds a handle can. -/
def fulfill (e : HostEntry) (reply : HostReply) : HostEntry :=
  match reply.valueFor e.request with
  | none => e
  | some value => if e.token.handles = 0 then e else { e with token := e.token.fulfill value }

/-- The consumer clones a handle it holds. -/
def clone (e : HostEntry) : HostEntry :=
  if e.token.handles = 0 then e else { e with token := { e.token with handles := e.token.handles + 1 } }

/-- The consumer drops a handle. -/
def drop (e : HostEntry) : HostEntry :=
  { e with token := { e.token with handles := e.token.handles - 1 } }

/-- The poll closure of a pending response: the reply to write, if any, and whether to keep polling. -/
def poll (e : HostEntry) : Option (List UInt8) × Bool × HostEntry :=
  match e.token.poll with
  | (.ready value, token) => (some (e.request.format value), false, { e with token })
  | (.cancelled, token) => (none, false, { e with token })
  | (.pending, token) => (none, true, { e with token })

end HostEntry

/-! ## The IO thread's side -/

/-- The requests of a pane: all ever issued, the pending list, the walk over it, and the PTY writes the
    replies became, each with the request it answers. -/
structure HostRequests where
  entries : List HostEntry
  pendingResponses : List Nat
  /-- The index of the poll loop, while it runs. -/
  cursor : Option Nat
  writes : List (Nat × List UInt8)
  /-- The IO thread has left its loop. -/
  exited : Bool

namespace HostRequests

variable {s₀ : HostRequests} (e : HostEntry)

/-- A pane that has issued no request. -/
def new : HostRequests :=
  { entries := [], pendingResponses := [], cursor := none, writes := [], exited := false }

/-- A step of the IO thread or of a consumer. -/
inductive Op where
  /-- Register a request and send it to the main thread; an event nobody receives is dropped with its
      handle. -/
  | request (request : HostRequest) (delivered : Bool)
  /-- Start `poll_pending_responses`. -/
  | beginPoll
  /-- One iteration of its loop, or its end. -/
  | pollNext
  /-- The pane's IO thread exits. -/
  | shutdown
  | fulfill (id : Nat) (reply : HostReply)
  | clone (id : Nat)
  | drop (id : Nat)

/-- Register a request's response token for polling, then send the request. -/
def registerHostRequestResponse (s : HostRequests) (request : HostRequest) (delivered : Bool) : HostRequests :=
  { s with
    entries := s.entries ++
      [{ request, token := { slot := .pending, handles := if delivered then 1 else 0, value := none } }]
    pendingResponses := s.pendingResponses ++ [s.entries.length] }

/-- One iteration of the poll loop at index `i`. -/
def pollAt (s : HostRequests) (i : Nat) : HostRequests :=
  match s.pendingResponses[i]? with
  | none => { s with cursor := none }
  | some id =>
    match s.entries[id]? with
    | none => { s with cursor := none }
    | some e =>
      match e.poll with
      | (some bytes, _, e) =>
        { s with
          entries := s.entries.set id e
          writes := s.writes ++ [(id, bytes)]
          pendingResponses := s.pendingResponses.eraseIdx i }
      | (none, false, e) =>
        { s with entries := s.entries.set id e, pendingResponses := s.pendingResponses.eraseIdx i }
      | (none, true, e) => { s with entries := s.entries.set id e, cursor := some (i + 1) }

/-- The IO thread takes a step of its own: not while it polls, and not once it has exited. -/
def ioStep (s : HostRequests) (f : HostRequests → HostRequests) : HostRequests :=
  if s.exited || s.cursor.isSome then s else f s

def step (s : HostRequests) : Op → HostRequests
  | .request request delivered => s.ioStep (·.registerHostRequestResponse request delivered)
  | .beginPoll => s.ioStep fun s => { s with cursor := some 0 }
  | .pollNext =>
    match s.cursor with
    | none => s
    | some i => s.pollAt i
  | .shutdown => s.ioStep fun s => { s with exited := true }
  | .fulfill id reply => { s with entries := s.entries.modify id (·.fulfill reply) }
  | .clone id => { s with entries := s.entries.modify id (·.clone) }
  | .drop id => { s with entries := s.entries.modify id (·.drop) }

/-- The PTY writes that answer request `id`, in order. -/
def repliesTo (s : HostRequests) (id : Nat) : List (List UInt8) :=
  (s.writes.filter (·.1 = id)).map (·.2)

/-! ## Accounting -/

/-- What is owed to a request, by the state of its slot: nothing has been written and it is still polled or
    its consumer is gone; the reply is still to be written; or it has been written, once. -/
def Owed (s : HostRequests) (id : Nat) (e : HostEntry) : Prop :=
  match e.token.slot with
  | .pending => e.token.value = none ∧ s.repliesTo id = [] ∧ (id ∈ s.pendingResponses ∨ e.token.handles = 0)
  | .fulfilled value => e.token.value = some value ∧ s.repliesTo id = [] ∧ id ∈ s.pendingResponses
  | .consumed =>
    ∃ value, e.token.value = some value ∧ s.repliesTo id = [e.request.format value] ∧ id ∉ s.pendingResponses

/-- **The accounting invariant.** -/
structure Accounted (s : HostRequests) : Prop where
  nodup : s.pendingResponses.Nodup
  pending_lt : ∀ id ∈ s.pendingResponses, id < s.entries.length
  writes_lt : ∀ w ∈ s.writes, w.1 < s.entries.length
  owed : ∀ id e, s.entries[id]? = some e → s.Owed id e

variable {s : HostRequests}

/-- The slot decides what was written: nothing while the request is pending, else its one reply. -/
theorem Owed.replies {id : Nat} {e : HostEntry} (h : s.Owed id e) :
    s.repliesTo id = if id ∈ s.pendingResponses then [] else e.token.value.toList.map e.request.format := by
  unfold Owed at h
  split at h
  · obtain ⟨hvalue, hnone, -⟩ := h
    rw [hnone, hvalue]
    split <;> rfl
  · obtain ⟨-, hnone, hpending⟩ := h
    rw [hnone, if_pos hpending]
  · obtain ⟨value, hvalue, hreply, hgone⟩ := h
    rw [hreply, if_neg hgone, hvalue]
    rfl

/-- What is owed to a request depends on the writes that answer it and on whether it is pending. -/
theorem Owed.congr {s' : HostRequests} {id : Nat} {e : HostEntry} (h : s.Owed id e)
    (hreplies : s'.repliesTo id = s.repliesTo id) (hpending : id ∈ s'.pendingResponses ↔ id ∈ s.pendingResponses) :
    s'.Owed id e := by
  unfold Owed at h ⊢
  rw [hreplies, hpending]
  exact h

theorem accounted_new : new.Accounted :=
  ⟨nodup_nil, fun _ h => absurd h not_mem_nil, fun _ h => absurd h not_mem_nil,
    fun _ _ h => absurd h (by simp [new])⟩

/-! ### Consumers -/

/-- A consumer's action on an entry: it fulfils a pending slot, or changes the handles. -/
inductive Consumes : HostEntry → HostEntry → Prop where
  | same (e : HostEntry) : Consumes e e
  | fulfilled {e : HostEntry} (value : e.request.Value) (hslot : e.token.slot = .pending)
      (hheld : e.token.handles ≠ 0) :
      Consumes e { e with token := { e.token with slot := .fulfilled value, value := some value } }
  | handles {e : HostEntry} (n : Nat) (h : e.token.handles = 0 → n = 0) :
      Consumes e { e with token := { e.token with handles := n } }

theorem consumes_fulfill (reply : HostReply) : Consumes e (e.fulfill reply) := by
  unfold HostEntry.fulfill
  cases reply.valueFor e.request with
  | none => exact .same e
  | some value =>
    dsimp only
    split
    · exact .same e
    · rename_i hheld
      unfold ResponseToken.fulfill
      split
      · rename_i hslot
        exact .fulfilled value hslot hheld
      · exact .same e
      · exact .same e

theorem consumes_clone : Consumes e e.clone := by
  unfold HostEntry.clone
  split
  · exact .same e
  · rename_i hheld
    exact .handles _ fun h => absurd h hheld

theorem consumes_drop : Consumes e e.drop :=
  .handles _ fun h => by rw [h]

/-- A consumer's action keeps the account of its request. -/
theorem Consumes.owed {id : Nat} {e e' : HostEntry} (hc : Consumes e e') (h : s.Owed id e) : s.Owed id e' := by
  cases hc with
  | same => exact h
  | fulfilled value hslot hheld =>
    unfold Owed at h
    rw [hslot] at h
    obtain ⟨-, hnone, hpending⟩ := h
    exact ⟨rfl, hnone, hpending.resolve_right hheld⟩
  | handles n hn =>
    unfold Owed at h ⊢
    dsimp only
    split at h
    · exact ⟨h.1, h.2.1, h.2.2.imp_right hn⟩
    · exact h
    · exact h

/-- What is resolved stays resolved. -/
theorem Consumes.resolved {e e' : HostEntry} (hc : Consumes e e') (h : e.token.Resolved) : e'.token.Resolved := by
  cases hc with
  | same => exact h
  | fulfilled value hslot hheld => exact .inl rfl
  | handles n hn => exact h.imp_right hn

theorem accounted_modify (h : s.Accounted) (id : Nat) {f : HostEntry → HostEntry} (hf : ∀ e, Consumes e (f e)) :
    Accounted { s with entries := s.entries.modify id f } := by
  refine ⟨h.nodup, ?_, ?_, ?_⟩
  · simpa using h.pending_lt
  · simpa using h.writes_lt
  · intro id' e' he'
    rw [getElem?_modify] at he'
    obtain ⟨e, he, hee⟩ := map_eq_some_iff.mp he'
    have howed : Owed { s with entries := s.entries.modify id f } id' e := (h.owed id' e he).congr rfl Iff.rfl
    split at hee
    · rw [← hee]
      exact (hf e).owed howed
    · rw [← hee]
      exact howed

/-! ### The IO thread -/

/-- Registering a request puts it on the pending list. -/
theorem accounted_register (h : s.Accounted) (request : HostRequest) (delivered : Bool) :
    (s.registerHostRequestResponse request delivered).Accounted := by
  unfold registerHostRequestResponse
  refine ⟨?_, ?_, ?_, ?_⟩
  · rw [nodup_append]
    refine ⟨h.nodup, by simp, fun id hid new hnew => ?_⟩
    have := h.pending_lt id hid
    rw [mem_singleton.mp hnew]
    omega
  · intro id hid
    rw [length_append, length_singleton]
    rcases mem_append.mp hid with hid | hid
    · have := h.pending_lt id hid
      omega
    · rw [mem_singleton.mp hid]
      omega
  · intro w hw
    have := h.writes_lt w hw
    rw [length_append]
    omega
  · intro id e he
    rcases Nat.lt_trichotomy id s.entries.length with hlt | rfl | hgt
    · rw [getElem?_append_left hlt] at he
      refine (h.owed id e he).congr rfl ?_
      rw [mem_append, mem_singleton]
      exact ⟨fun h' => h'.resolve_right (by omega), .inl⟩
    · simp only [getElem?_concat_length, some.injEq] at he
      subst he
      refine ⟨rfl, ?_, .inl (by simp)⟩
      show (s.writes.filter _).map _ = []
      have hnone : s.writes.filter (fun w => decide (w.1 = s.entries.length)) = [] := by
        rw [filter_eq_nil_iff]
        intro w hw
        have := h.writes_lt w hw
        simp only [decide_eq_true_eq]
        omega
      rw [hnone]
      rfl
    · rw [getElem?_eq_none (by simp; omega)] at he
      exact absurd he (by simp)

/-- Taking the polled entry off the list takes exactly it. -/
theorem mem_eraseIdx_pending (h : s.Accounted) {i id : Nat} (hid : s.pendingResponses[i]? = some id) (id' : Nat) :
    id' ∈ s.pendingResponses.eraseIdx i ↔ id' ≠ id ∧ id' ∈ s.pendingResponses := by
  rw [mem_eraseIdx_iff_getElem?, mem_iff_getElem?]
  constructor
  · rintro ⟨j, hj, hj'⟩
    refine ⟨?_, j, hj'⟩
    rintro rfl
    have hlt : j < s.pendingResponses.length := (List.getElem?_eq_some_iff.mp hj').1
    exact hj ((getElem?_inj hlt h.nodup).mp (hj'.trans hid.symm))
  · rintro ⟨hne, j, hj'⟩
    refine ⟨j, ?_, hj'⟩
    rintro rfl
    rw [hid] at hj'
    exact hne (some.inj hj').symm

/-- **One poll** of an entry on the list: the state after it, and why it is kept or taken off. -/
inductive Polled (s : HostRequests) (i id : Nat) (e : HostEntry) : HostRequests → Prop where
  /-- Fulfilled: the reply is written and the entry leaves the list. -/
  | ready (value : e.request.Value) (hslot : e.token.slot = .fulfilled value) :
      Polled s i id e
        { s with
          entries := s.entries.set id { e with token := { e.token with slot := .consumed } }
          writes := s.writes ++ [(id, e.request.format value)]
          pendingResponses := s.pendingResponses.eraseIdx i }
  /-- Nobody is left to fulfil it: the entry leaves the list. -/
  | cancelled (hslot : e.token.slot = .consumed ∨ e.token.slot = .pending ∧ e.token.handles = 0) :
      Polled s i id e { s with pendingResponses := s.pendingResponses.eraseIdx i }
  /-- Still open: the loop goes on. -/
  | pending (hslot : e.token.slot = .pending) (hheld : e.token.handles ≠ 0) :
      Polled s i id e { s with cursor := some (i + 1) }

theorem pollAt_polled {i id : Nat} {e : HostEntry} (hid : s.pendingResponses[i]? = some id)
    (he : s.entries[id]? = some e) : Polled s i id e (s.pollAt i) := by
  have hset : s.entries.set id e = s.entries := by
    obtain ⟨hlt, rfl⟩ := List.getElem?_eq_some_iff.mp he
    exact set_getElem_self hlt
  unfold pollAt HostEntry.poll ResponseToken.poll
  rw [hid]
  dsimp only
  rw [he]
  dsimp only
  cases hslot : e.token.slot with
  | fulfilled value => exact .ready value hslot
  | consumed =>
    dsimp only
    rw [hset]
    exact .cancelled (.inl hslot)
  | pending =>
    by_cases hcount : e.token.consumerStrongCount ≤ 1
    · rw [if_pos hcount]
      dsimp only
      rw [hset]
      exact .cancelled (.inr ⟨hslot, by unfold ResponseToken.consumerStrongCount at hcount; omega⟩)
    · rw [if_neg hcount]
      dsimp only
      rw [hset]
      exact .pending hslot (by unfold ResponseToken.consumerStrongCount at hcount; omega)

theorem repliesTo_concat (s : HostRequests) (id : Nat) (bytes : List UInt8) (id' : Nat)
    (entries : List HostEntry) (pendingResponses : List Nat) :
    repliesTo { s with entries, pendingResponses, writes := s.writes ++ [(id, bytes)] } id' =
      s.repliesTo id' ++ if id = id' then [bytes] else [] := by
  unfold repliesTo
  by_cases hid : id = id' <;> simp [hid]

theorem accounted_pollAt (h : s.Accounted) (i : Nat) : (s.pollAt i).Accounted := by
  rcases hid : s.pendingResponses[i]? with _ | id
  · have hend : s.pollAt i = { s with cursor := none } := by simp [pollAt, hid]
    rw [hend]
    exact ⟨h.nodup, h.pending_lt, h.writes_lt, fun id e he => (h.owed id e he).congr rfl Iff.rfl⟩
  have hlt := h.pending_lt id (mem_of_getElem? hid)
  obtain ⟨e, he⟩ : ∃ e, s.entries[id]? = some e := ⟨_, getElem?_eq_getElem hlt⟩
  have howed := h.owed id e he
  have herase := mem_eraseIdx_pending h hid
  have hpolled := pollAt_polled hid he
  generalize s.pollAt i = s' at hpolled
  cases hpolled with
  | ready value hslot =>
    refine ⟨h.nodup.eraseIdx i, ?_, ?_, ?_⟩
    · intro id' hid'
      rw [length_set]
      exact h.pending_lt id' (mem_of_mem_eraseIdx hid')
    · intro w hw
      rw [length_set]
      rcases mem_append.mp hw with hw | hw
      · exact h.writes_lt w hw
      · rw [mem_singleton.mp hw]
        exact hlt
    · intro id' e' he'
      by_cases hsame : id = id'
      · subst hsame
        rw [getElem?_set_self hlt, some.injEq] at he'
        subst he'
        unfold Owed at howed
        rw [hslot] at howed
        obtain ⟨hvalue, hnone, -⟩ := howed
        refine ⟨value, hvalue, ?_, fun hmem => ((herase id).mp hmem).1 rfl⟩
        have hconcat := repliesTo_concat s id (e.request.format value) id
          (s.entries.set id { e with token := { e.token with slot := .consumed } })
          (s.pendingResponses.eraseIdx i)
        rw [hnone, if_pos rfl] at hconcat
        exact hconcat
      · rw [getElem?_set_ne hsame] at he'
        refine (h.owed id' e' he').congr ?_ ?_
        · rw [repliesTo_concat, if_neg hsame, append_nil]
        · exact (herase id').trans ⟨fun h' => h'.2, fun h' => ⟨Ne.symm hsame, h'⟩⟩
  | cancelled hslot =>
    refine ⟨h.nodup.eraseIdx i, fun id' hid' => h.pending_lt id' (mem_of_mem_eraseIdx hid'),
      h.writes_lt, ?_⟩
    intro id' e' he'
    by_cases hsame : id = id'
    · subst hsame
      rw [he, some.injEq] at he'
      subst he'
      unfold Owed at howed ⊢
      rcases hslot with hslot | ⟨hslot, hgone⟩
      · rw [hslot] at howed ⊢
        obtain ⟨value, hvalue, hreply, hout⟩ := howed
        exact ⟨value, hvalue, hreply, fun hmem => hout ((herase id).mp hmem).2⟩
      · rw [hslot] at howed ⊢
        exact ⟨howed.1, howed.2.1, .inr hgone⟩
    · exact (h.owed id' e' he').congr rfl ((herase id').trans ⟨fun h' => h'.2, fun h' => ⟨Ne.symm hsame, h'⟩⟩)
  | pending hslot hheld =>
    exact ⟨h.nodup, h.pending_lt, h.writes_lt, fun id e he => (h.owed id e he).congr rfl Iff.rfl⟩

/-- **Every step keeps the account.** -/
theorem accounted_step (s : HostRequests) (op : Op) (h : s.Accounted) : (s.step op).Accounted := by
  have hio : ∀ f : HostRequests → HostRequests, (f s).Accounted → (s.ioStep f).Accounted := by
    intro f hf
    unfold ioStep
    split
    · exact h
    · exact hf
  have hflags : ∀ cursor exited, Accounted { s with cursor, exited } := fun cursor exited =>
    ⟨h.nodup, h.pending_lt, h.writes_lt, fun id e he => (h.owed id e he).congr rfl Iff.rfl⟩
  cases op with
  | request request delivered =>
    exact hio (·.registerHostRequestResponse request delivered) (accounted_register h request delivered)
  | beginPoll => exact hio (fun s => { s with cursor := some 0 }) (hflags (some 0) s.exited)
  | pollNext =>
    simp only [step]
    cases s.cursor with
    | none => exact h
    | some i => exact accounted_pollAt h i
  | shutdown => exact hio (fun s => { s with exited := true }) (hflags s.cursor true)
  | fulfill id reply => exact accounted_modify h id fun e => consumes_fulfill e reply
  | clone id => exact accounted_modify h id consumes_clone
  | drop id => exact accounted_modify h id consumes_drop

/-! ## Passes -/

/-- What a pass over the list has achieved so far, seen from the state `s₀` it started in: what was resolved
    then is still resolved, and the entries the loop has gone past, all of them when it is over, were not. -/
structure Passing (s₀ s : HostRequests) : Prop where
  resolved : ∀ (id : Nat) (e₀ : HostEntry), s₀.entries[id]? = some e₀ → e₀.token.Resolved →
    ∃ e, s.entries[id]? = some e ∧ e.token.Resolved
  swept : ∀ (j id : Nat) (e₀ : HostEntry), (∀ i, s.cursor = some i → j < i) → s.pendingResponses[j]? = some id →
    s₀.entries[id]? = some e₀ → ¬ e₀.token.Resolved

theorem passing_modify (h : Passing s₀ s) (id : Nat) {f : HostEntry → HostEntry}
    (hf : ∀ e, Consumes e (f e)) : Passing s₀ { s with entries := s.entries.modify id f } := by
  refine ⟨fun id' e₀ he₀ hres => ?_, h.swept⟩
  obtain ⟨e, he, hres'⟩ := h.resolved id' e₀ he₀ hres
  by_cases hsame : id = id'
  · exact ⟨f e, by simp [hsame, he], (hf e).resolved hres'⟩
  · exact ⟨e, by simp [hsame, he], hres'⟩

/-- An entry that the loop keeps was not resolved when the pass began. -/
theorem passing_pollAt (hacc : s.Accounted) (h : Passing s₀ s) {i : Nat}
    (hcursor : s.cursor = some i) : Passing s₀ (s.pollAt i) := by
  rcases hid : s.pendingResponses[i]? with _ | id
  · have hend : s.pollAt i = { s with cursor := none } := by simp [pollAt, hid]
    rw [hend]
    refine ⟨h.resolved, fun j id e₀ _ hj he₀ => h.swept j id e₀ (fun i' hi' => ?_) hj he₀⟩
    rw [hcursor, some.injEq] at hi'
    have hlen := getElem?_eq_none_iff.mp hid
    have hlt : j < s.pendingResponses.length := (List.getElem?_eq_some_iff.mp hj).1
    omega
  have hlt := hacc.pending_lt id (mem_of_getElem? hid)
  obtain ⟨e, he⟩ : ∃ e, s.entries[id]? = some e := ⟨_, getElem?_eq_getElem hlt⟩
  have howed := hacc.owed id e he
  have hpolled := pollAt_polled hid he
  -- before index `i`, taking the entry at `i` off the list changes nothing
  have hbefore : ∀ (j id' : Nat) (e₀ : HostEntry), (∀ i', s.cursor = some i' → j < i') →
      (s.pendingResponses.eraseIdx i)[j]? = some id' → s₀.entries[id']? = some e₀ → ¬ e₀.token.Resolved := by
    intro j id' e₀ hj hid' he₀
    have hji := hj i hcursor
    rw [getElem?_eraseIdx_of_lt hji] at hid'
    exact h.swept j id' e₀ hj hid' he₀
  generalize s.pollAt i = s' at hpolled
  cases hpolled with
  | ready value hslot =>
    refine ⟨fun id' e₀ he₀ hres => ?_, hbefore⟩
    obtain ⟨e', he', hres'⟩ := h.resolved id' e₀ he₀ hres
    by_cases hsame : id = id'
    · subst hsame
      rw [he, some.injEq] at he'
      subst he'
      exact ⟨_, getElem?_set_self hlt, hres'⟩
    · exact ⟨e', (getElem?_set_ne hsame).trans he', hres'⟩
  | cancelled hslot => exact ⟨h.resolved, hbefore⟩
  | pending hslot hheld =>
    refine ⟨h.resolved, fun j id' e₀ hj hid' he₀ hres => ?_⟩
    have hle := hj (i + 1) rfl
    by_cases hji : j = i
    · subst hji
      obtain ⟨e', he', hres'⟩ := h.resolved id' e₀ he₀ hres
      have hsame : id' = id := some.inj (hid'.symm.trans hid)
      subst hsame
      rw [he, some.injEq] at he'
      subst he'
      unfold Owed at howed
      rw [hslot] at howed
      rcases hres' with hvalue | hgone
      · rw [howed.1] at hvalue
        simp at hvalue
      · exact hheld hgone
    · exact h.swept j id' e₀ (fun i' hi' => by rw [hcursor, some.injEq] at hi'; omega) hid' he₀ hres

theorem passing_step (op : Op) (hacc : s.Accounted)
    (hgrow : s₀.entries.length ≤ s.entries.length) (h : Passing s₀ s) : Passing s₀ (s.step op) := by
  have hio : ∀ f : HostRequests → HostRequests, (s.cursor = none → Passing s₀ (f s)) → Passing s₀ (s.ioStep f) := by
    intro f hf
    unfold ioStep
    split
    · exact h
    · rename_i hidle
      exact hf (by cases hc : s.cursor <;> simp_all)
  cases op with
  | request request delivered =>
    refine hio (·.registerHostRequestResponse request delivered) fun hcursor => ⟨fun id e₀ he₀ hres => ?_, ?_⟩
    · obtain ⟨e, he, hres'⟩ := h.resolved id e₀ he₀ hres
      have hlt := (List.getElem?_eq_some_iff.mp he).1
      exact ⟨e, (getElem?_append_left hlt).trans he, hres'⟩
    · intro j id e₀ hj hid he₀
      have hlt₀ := (List.getElem?_eq_some_iff.mp he₀).1
      by_cases hjlt : j < s.pendingResponses.length
      · have hid' : s.pendingResponses[j]? = some id := (getElem?_append_left hjlt).symm.trans hid
        exact h.swept j id e₀ (fun i hi => absurd hi (by rw [hcursor]; simp)) hid' he₀
      · have hid' : ([s.entries.length] : List Nat)[j - s.pendingResponses.length]? = some id :=
          (getElem?_append_right (by omega)).symm.trans hid
        have hnew := mem_singleton.mp (mem_of_getElem? hid')
        omega
  | beginPoll =>
    refine hio (fun s => { s with cursor := some 0 }) fun _ => ⟨h.resolved, fun j id e₀ hj => ?_⟩
    exact absurd (hj 0 rfl) (by omega)
  | pollNext =>
    simp only [step]
    cases hcursor : s.cursor with
    | none => exact h
    | some i => exact passing_pollAt hacc h hcursor
  | shutdown => exact hio (fun s => { s with exited := true }) fun _ => ⟨h.resolved, h.swept⟩
  | fulfill id reply => exact passing_modify h id fun e => consumes_fulfill e reply
  | clone id => exact passing_modify h id consumes_clone
  | drop id => exact passing_modify h id consumes_drop

theorem length_entries_step (s : HostRequests) (op : Op) : s.entries.length ≤ (s.step op).entries.length := by
  have hio : ∀ f : HostRequests → HostRequests, s.entries.length ≤ (f s).entries.length →
      s.entries.length ≤ (s.ioStep f).entries.length := by
    intro f hf
    unfold ioStep
    split
    · exact Nat.le_refl _
    · exact hf
  cases op with
  | request request delivered =>
    exact hio (·.registerHostRequestResponse request delivered) (by simp [registerHostRequestResponse])
  | beginPoll => exact hio (fun s => { s with cursor := some 0 }) (Nat.le_refl _)
  | pollNext =>
    simp only [step]
    cases s.cursor with
    | none => exact Nat.le_refl _
    | some i =>
      show _ ≤ (s.pollAt i).entries.length
      unfold pollAt
      split
      · exact Nat.le_refl _
      · split
        · exact Nat.le_refl _
        · split
          · simp
          · simp
          · simp
  | shutdown => exact hio (fun s => { s with exited := true }) (Nat.le_refl _)
  | fulfill | clone | drop => simp [step]

/-- **Host requests are answered at most once, and by the first poll that finds them fulfilled.** After any
    steps of the IO thread and the consumers, from a pane without requests:

    * the writes that answer a request are none while it is on the pending list, and otherwise exactly the
      formatted value it was fulfilled with, or none if it never was;
    * a pass of `poll_pending_responses`, however the consumers' steps interleave with it, takes every request
      off the list that was fulfilled, or had no consumer left, when the pass began. -/
theorem answered_run (ops : List Op) :
    (∀ (id : Nat) (e : HostEntry), (run step new ops).entries[id]? = some e →
      (run step new ops).repliesTo id =
        if id ∈ (run step new ops).pendingResponses then [] else e.token.value.toList.map e.request.format) ∧
    ∀ ops' : List Op, (run step new ops).exited = false → (run step new ops).cursor = none →
      (run step (run step new ops) (.beginPoll :: ops')).cursor = none →
      ∀ (id : Nat) (e : HostEntry), (run step new ops).entries[id]? = some e → e.token.Resolved →
        id ∉ (run step (run step new ops) (.beginPoll :: ops')).pendingResponses := by
  have hacc : (run step new ops).Accounted := run_invariant accounted_step accounted_new ops
  generalize run step new ops = s₀ at hacc
  refine ⟨fun id e he => (hacc.owed id e he).replies, fun ops' hlive hidle hdone id e he hres hmem => ?_⟩
  have hbegin : s₀.step .beginPoll = { s₀ with cursor := some 0 } := by
    simp [step, ioStep, hlive, hidle]
  have hstart : Passing s₀ (s₀.step .beginPoll) := by
    rw [hbegin]
    exact ⟨fun id e₀ he₀ hres => ⟨e₀, he₀, hres⟩, fun j id e₀ hj => absurd (hj 0 rfl) (by omega)⟩
  have hrun : ∀ (ops' : List Op) (s : HostRequests), s.Accounted → s₀.entries.length ≤ s.entries.length →
      Passing s₀ s → Passing s₀ (run step s ops') := by
    intro ops'
    induction ops' with
    | nil => exact fun s _ _ h => h
    | cons op ops' ih =>
      intro s hacc hgrow h
      exact ih _ (accounted_step s op hacc) (Nat.le_trans hgrow (length_entries_step s op))
        (passing_step op hacc hgrow h)
  have hpass := hrun ops' _ (accounted_step s₀ .beginPoll hacc) (length_entries_step s₀ .beginPoll) hstart
  rw [run_cons] at hdone hmem
  obtain ⟨j, hj⟩ := mem_iff_getElem?.mp hmem
  exact hpass.swept j id e (fun i hi => absurd hi (by rw [hdone]; simp)) hj he hres

/-- Once the IO thread has exited, nothing is written any more. -/
theorem repliesTo_exited (h : s.exited = true ∧ s.cursor = none) (ops : List Op) (id : Nat) :
    (run step s ops).repliesTo id = s.repliesTo id := by
  have hstep : ∀ (s' : HostRequests) (op : Op),
      (s'.exited = true ∧ s'.cursor = none) ∧ s'.writes = s.writes →
      ((s'.step op).exited = true ∧ (s'.step op).cursor = none) ∧ (s'.step op).writes = s.writes := by
    rintro s' op ⟨⟨hexited, hcursor⟩, hwrites⟩
    cases op <;> simp [step, ioStep, hexited, hcursor, hwrites]
  have hrun := run_invariant hstep ⟨h, rfl⟩ ops
  unfold repliesTo
  rw [hrun.2]

/-- A fulfilled request that no poll reaches before the pane exits is never answered. -/
theorem fulfilled_before_exit_is_dropped :
    let s := run step new [.request (.clipboardLoad .clipboard 99 "\u0007") true, .fulfill 0 (.clipboardLoad "hi"),
      .shutdown]
    (s.entries.map fun e => e.token.value.isSome) = [true] ∧ ∀ ops, (run step s ops).repliesTo 0 = [] := by
  refine ⟨rfl, fun ops => ?_⟩
  rw [repliesTo_exited ⟨rfl, rfl⟩]
  rfl

end HostRequests

end OriTerm
