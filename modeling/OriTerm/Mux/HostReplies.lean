import OriTerm.Mux.ServerRuns

/-!
# `Mux.HostReplies` — host requests are answered once, by their responder

The server forwards a host request under a fresh id to one subscriber of the pane and keeps an entry until it is
answered or dropped. `Routed` ties the entries to the two histories: an entry was forwarded and is not fulfilled yet,
a fulfilment is of the request with its id, by its responder and of its kind. Only `dispatchHostRequest` adds an entry
and only `replyHostRequest` fulfils one; all other steps can just drop entries (`Fewer`).

* **`hostReplies_run`** — at most one fulfilment for each request, by its responder and of its kind; what each reply
  does, in every reachable state; a disconnect drops exactly the entries of the client.
-/

namespace OriTerm

open Lib List

namespace MuxServer

variable {s s' s'' : MuxServer}

/-! ## Requests and fulfilments -/

/-- The entries and the histories belong together. -/
structure Routed (s : MuxServer) : Prop where
  fresh : ∀ id r, (id, r) ∈ s.forwarded → id < s.requestAlloc
  forwardedOnce : (s.forwarded.map Prod.fst).Nodup
  pending : ∀ id r, s.pendingHostReplies.get id = some r → (id, r) ∈ s.forwarded ∧ ∀ f ∈ s.fulfilled, f.requestId ≠ id
  fulfilledOnce : (s.fulfilled.map Fulfillment.requestId).Nodup
  fulfilled : ∀ f ∈ s.fulfilled, ∃ r, (f.requestId, r) ∈ s.forwarded ∧ r.responder = f.client ∧ r.kind.matches f.payload

theorem routed_new : new.Routed :=
  ⟨fun _ _ h => (nomatch h), nodup_nil, fun _ _ h => (nomatch h), nodup_nil, fun _ h => (nomatch h)⟩

/-- A step that can only drop entries. -/
structure Fewer (s s' : MuxServer) : Prop where
  pending : ∀ id r, s'.pendingHostReplies.get id = some r → s.pendingHostReplies.get id = some r
  forwarded : s'.forwarded = s.forwarded
  fulfilled : s'.fulfilled = s.fulfilled
  requestAlloc : s'.requestAlloc = s.requestAlloc

theorem Fewer.trans (h : s.Fewer s') (h' : s'.Fewer s'') : s.Fewer s'' :=
  ⟨fun id r hr => h.pending id r (h'.pending id r hr), h'.forwarded.trans h.forwarded, h'.fulfilled.trans h.fulfilled,
    h'.requestAlloc.trans h.requestAlloc⟩

/-- A step that leaves the requests alone. -/
theorem Fewer.of_same (hp : s'.pendingHostReplies = s.pendingHostReplies) (hf : s'.forwarded = s.forwarded)
    (hd : s'.fulfilled = s.fulfilled) (ha : s'.requestAlloc = s.requestAlloc) : s.Fewer s' :=
  ⟨fun _ _ hr => hp ▸ hr, hf, hd, ha⟩

theorem Fewer.retain (s : MuxServer) (p : HostRequestId → PendingHostReply → Bool) :
    s.Fewer { s with pendingHostReplies := s.pendingHostReplies.retain p } := by
  refine ⟨fun id r hr => ?_, rfl, rfl, rfl⟩
  rw [Table.get_retain, Option.filter_eq_some_iff] at hr
  exact hr.1

theorem fewer_foldl {ε : Type} {f : MuxServer → ε → MuxServer} (h : ∀ (s : MuxServer) (e : ε), s.Fewer (f s e))
    (s : MuxServer) (es : List ε) : s.Fewer (es.foldl f s) :=
  run_invariant (fun t e ht => ht.trans (h t e)) (Fewer.of_same rfl rfl rfl rfl) es

theorem Routed.fewer (h : s.Routed) (hf : s.Fewer s') : s'.Routed := by
  refine ⟨fun id r hr => ?_, ?_, fun id r hr => ?_, ?_, fun f hmem => ?_⟩
  · rw [hf.requestAlloc]
    exact h.fresh id r (hf.forwarded ▸ hr)
  · rw [hf.forwarded]
    exact h.forwardedOnce
  · rw [hf.forwarded, hf.fulfilled]
    exact h.pending id r (hf.pending id r hr)
  · rw [hf.fulfilled]
    exact h.fulfilledOnce
  · rw [hf.forwarded]
    exact h.fulfilled f (hf.fulfilled ▸ hmem)

/-! ### Forwarding -/

theorem Routed.dispatchHostRequest (h : s.Routed) (queued : ClientId → Bool) (paneId : PaneId)
    (kind : PendingHostReplyKind) : (s.dispatchHostRequest queued paneId kind).Routed := by
  have hunused : ∀ id r, (id, r) ∈ s.forwarded → id ≠ s.requestAlloc :=
    fun id r hr heq => Nat.lt_irrefl _ (heq ▸ h.fresh id r hr)
  unfold MuxServer.dispatchHostRequest
  split
  · exact h
  · next responder _ =>
    dsimp only
    split
    · refine ⟨fun id r hr => ?_, ?_, fun id r hr => ?_, h.fulfilledOnce, fun f hmem => ?_⟩
      · rcases mem_append.mp hr with hr | hr
        · exact Nat.lt_succ_of_lt (h.fresh id r hr)
        · obtain ⟨rfl, rfl⟩ := Prod.mk.inj (mem_singleton.mp hr)
          exact Nat.lt_succ_self _
      · rw [map_append]
        refine nodup_append.mpr ⟨h.forwardedOnce, nodup_singleton _, fun id hid id' hid' => ?_⟩
        obtain ⟨⟨id, r⟩, hr, rfl⟩ := mem_map.mp hid
        rw [mem_singleton.mp hid']
        exact hunused id r hr
      · rw [Table.get_insert] at hr
        split at hr
        · next hid =>
          obtain rfl := Option.some.inj hr
          refine ⟨hid ▸ mem_append_right _ (mem_singleton_self _), fun f hf heq => ?_⟩
          obtain ⟨r, hr, -⟩ := h.fulfilled f hf
          exact hunused _ r hr (heq.trans hid)
        · obtain ⟨hr, hnone⟩ := h.pending id r hr
          exact ⟨mem_append_left _ hr, hnone⟩
      · obtain ⟨r, hr, hmatch⟩ := h.fulfilled f hmem
        exact ⟨r, mem_append_left _ hr, hmatch⟩
    · exact ⟨fun id r hr => Nat.lt_succ_of_lt (h.fresh id r hr), h.forwardedOnce, h.pending, h.fulfilledOnce, h.fulfilled⟩

/-! ### Replying -/

section

variable {clientId : ClientId} {requestId : HostRequestId} {payload : HostReply}

/-- What a reply does, by the entry that it names. -/
theorem replyHostRequest_unknown (h : s.pendingHostReplies.get requestId = none) :
    s.replyHostRequest clientId requestId payload = s := by
  unfold replyHostRequest takeValidatedPendingHostReply
  rw [h]

variable {r : PendingHostReply} (h : s.pendingHostReplies.get requestId = some r)
include h

theorem replyHostRequest_other (hc : r.responder ≠ clientId) : s.replyHostRequest clientId requestId payload = s := by
  unfold replyHostRequest takeValidatedPendingHostReply
  rw [h]
  dsimp only
  rw [if_pos hc]

theorem replyHostRequest_responder (hc : r.responder = clientId) :
    s.replyHostRequest clientId requestId payload =
      { s with
        pendingHostReplies := s.pendingHostReplies.erase requestId
        fulfilled := s.fulfilled ++ if r.kind.matches payload then [⟨requestId, clientId, payload⟩] else [] } := by
  unfold replyHostRequest takeValidatedPendingHostReply
  rw [h]
  dsimp only
  rw [if_neg (not_not.mpr hc)]
  dsimp only
  split
  · rfl
  · rw [append_nil]

end

theorem Routed.replyHostRequest (h : s.Routed) (clientId : ClientId) (requestId : HostRequestId) (payload : HostReply) :
    (s.replyHostRequest clientId requestId payload).Routed := by
  cases hget : s.pendingHostReplies.get requestId with
  | none =>
    rw [replyHostRequest_unknown hget]
    exact h
  | some r =>
    by_cases hc : r.responder = clientId
    · rw [replyHostRequest_responder hget hc]
      obtain ⟨hforwarded, hopen⟩ := h.pending requestId r hget
      refine ⟨h.fresh, h.forwardedOnce, fun id r' hr => ?_, ?_, fun f hf => ?_⟩
      · rw [Table.get_erase] at hr
        split at hr
        · cases hr
        · next hid =>
          obtain ⟨hr, hnone⟩ := h.pending id r' hr
          refine ⟨hr, fun f hf => ?_⟩
          rcases mem_append.mp hf with hf | hf
          · exact hnone f hf
          · split at hf
            · rw [mem_singleton.mp hf]
              exact Ne.symm hid
            · cases hf
      · split
        · rw [map_append]
          refine nodup_append.mpr ⟨h.fulfilledOnce, nodup_singleton _, fun id hid id' hid' => ?_⟩
          obtain ⟨f, hf, rfl⟩ := mem_map.mp hid
          rw [mem_singleton.mp hid']
          exact hopen f hf
        · rw [append_nil]
          exact h.fulfilledOnce
      · rcases mem_append.mp hf with hf | hf
        · exact h.fulfilled f hf
        · split at hf
          · next hmatch =>
            rw [mem_singleton.mp hf]
            exact ⟨r, hforwarded, hc, hmatch⟩
          · cases hf
    · rw [replyHostRequest_other hget hc]
      exact h

/-! ### Dropping -/

theorem fewer_cleanupPaneState (s : MuxServer) (q : PaneId) : s.Fewer (s.cleanupPaneState q) := by
  have hretain := Fewer.retain s fun _ r => r.paneId != q
  exact ⟨hretain.pending, rfl, rfl, rfl⟩

theorem fewer_dropPane (s : MuxServer) (q : PaneId) : s.Fewer (s.dropPane q) := by
  unfold dropPane closePaneMux
  split <;> exact Fewer.of_same rfl rfl rfl rfl

theorem fewer_closeOrphan (clientId : ClientId) (s : MuxServer) (q : PaneId) : s.Fewer (s.closeOrphan clientId q) := by
  unfold closeOrphan
  dsimp only
  split
  · exact Fewer.of_same rfl rfl rfl rfl
  · exact (fewer_dropPane s q).trans (fewer_cleanupPaneState _ q)

theorem fewer_disconnectClient (s : MuxServer) (clientId : ClientId) : s.Fewer (s.disconnectClient clientId) := by
  unfold disconnectClient
  split
  · exact Fewer.of_same rfl rfl rfl rfl
  · next conn _ =>
    have hfold := fewer_foldl (fewer_closeOrphan clientId) { s with connections := s.connections.erase clientId }
      (conn.subscribedPanes.sort (· ≤ ·))
    have hretain := hfold.trans (Fewer.retain _ fun _ r => r.responder != clientId)
    exact ⟨hretain.pending, hretain.forwarded, hretain.fulfilled, hretain.requestAlloc⟩

theorem fewer_syncSubscriptions (s : MuxServer) (clientId : ClientId) : s.Fewer (s.syncSubscriptions clientId) := by
  unfold syncSubscriptions
  split <;> exact Fewer.of_same rfl rfl rfl rfl

theorem fewer_pushOrDeferPane (env : PushEnv) (s : MuxServer) (q : PaneId) : s.Fewer (s.pushOrDeferPane env q) := by
  unfold pushOrDeferPane
  repeat' split
  all_goals exact Fewer.of_same rfl rfl rfl rfl

theorem fewer_trailingFlushPane (env : PushEnv) (s : MuxServer) (q : PaneId) : s.Fewer (s.trailingFlushPane env q) := by
  unfold trailingFlushPane
  dsimp only
  repeat' split
  all_goals exact Fewer.of_same rfl rfl rfl rfl

theorem fewer_pollEvent (s : MuxServer) (event : MuxEvent) : s.Fewer (s.pollEvent event) := by
  cases event with
  | paneOutput | hostRequest => exact Fewer.of_same rfl rfl rfl rfl
  | paneExited paneId =>
    unfold pollEvent closePaneMux
    dsimp only
    split <;> exact Fewer.of_same rfl rfl rfl rfl

/-! ### Every step -/

theorem Routed.handleRequest (h : s.Routed) (clientId : ClientId) (req : ClientRequest) :
    (s.handleRequest clientId req).Routed := by
  cases req with
  | spawnPane spawned =>
    cases spawned with
    | false | true => exact h.fewer (Fewer.of_same rfl rfl rfl rfl)
  | closePane paneId => exact h.fewer ((fewer_dropPane s paneId).trans (fewer_cleanupPaneState _ paneId))
  | subscribe paneId =>
    refine (Routed.fewer ?_ (fewer_syncSubscriptions _ clientId))
    split <;> exact h.fewer (Fewer.of_same rfl rfl rfl rfl)
  | unsubscribe paneId =>
    have hretain := h.fewer (Fewer.retain s fun _ r => !(r.paneId == paneId && r.responder == clientId))
    have hsynced : ∀ t u : MuxServer, t.Routed → u.pendingHostReplies = (t.syncSubscriptions clientId).pendingHostReplies →
        u.forwarded = (t.syncSubscriptions clientId).forwarded → u.fulfilled = (t.syncSubscriptions clientId).fulfilled →
        u.requestAlloc = (t.syncSubscriptions clientId).requestAlloc → u.Routed := fun t u ht hp hf hd ha =>
      ht.fewer ((fewer_syncSubscriptions t clientId).trans (Fewer.of_same hp hf hd ha))
    refine hsynced _ _ ?_ rfl rfl rfl rfl
    exact hretain.fewer (Fewer.of_same rfl rfl rfl rfl)
  | getPaneSnapshot paneId acked =>
    unfold MuxServer.handleRequest
    dsimp only
    split
    · exact h.fewer (Fewer.of_same rfl rfl rfl rfl)
    · exact h
  | setCapabilities | setPanePriority => exact h.fewer (Fewer.of_same rfl rfl rfl rfl)
  | replyHostRequest requestId payload => exact h.replyHostRequest clientId requestId payload
  | other => exact h

section

variable (h : s.Routed) (env : PushEnv) (queued : ClientId → Bool)
include h

theorem Routed.route (n : MuxNotification) : (s.route env queued n).Routed := by
  cases n with
  | paneOutput paneId => exact h.fewer (fewer_pushOrDeferPane env s paneId)
  | hostRequest paneId kind => exact h.dispatchHostRequest queued paneId kind
  | paneClosed paneId => exact h

theorem Routed.drainMuxEvents (events : List MuxEvent) : (s.drainMuxEvents env queued events).Routed :=
  drainMuxEvents_invariant (I := Routed) (fun t event hs => hs.fewer (fewer_pollEvent t event))
    (fun _ hs => hs.fewer (.of_same rfl rfl rfl rfl)) (fun t p hs => hs.fewer (fewer_trailingFlushPane env t p))
    (fun _ n hs => hs.route env queued n) (fun t p hs => hs.fewer (fewer_cleanupPaneState t p)) h events

end

theorem Routed.apply (h : s.Routed) (e : ServerEvent) : (s.apply e).Routed := by
  cases e with
  | connect => exact h.fewer (Fewer.of_same rfl rfl rfl rfl)
  | request clientId req =>
    unfold MuxServer.apply
    dsimp only
    split
    · exact h.handleRequest clientId req
    · exact h
  | disconnect clientId => exact h.fewer (fewer_disconnectClient s clientId)
  | publish paneId =>
    unfold MuxServer.apply
    dsimp only
    split
    · exact h.fewer (Fewer.of_same rfl rfl rfl rfl)
    · exact h
  | drain env queued events => exact h.drainMuxEvents env queued events

theorem routed_run (es : List ServerEvent) : (run MuxServer.apply new es).Routed :=
  run_invariant (fun _ e h => h.apply e) routed_new es

/-! ## Disconnecting -/

/-- An orphan has no entry of another client. -/
theorem pending_closeOrphan {clientId : ClientId} (hm : s.Mirrored (some clientId)) (q : PaneId) (id : HostRequestId) :
    ((s.closeOrphan clientId q).pendingHostReplies.get id).filter (fun r => r.responder != clientId) =
      (s.pendingHostReplies.get id).filter (fun r => r.responder != clientId) := by
  unfold closeOrphan
  dsimp only
  split
  · rfl
  · next hother =>
    have hreplies : ((s.dropPane q).cleanupPaneState q).pendingHostReplies =
        s.pendingHostReplies.retain fun _ r => r.paneId != q := by
      unfold cleanupPaneState dropPane closePaneMux
      split <;> rfl
    rw [hreplies, Table.get_retain]
    cases hget : s.pendingHostReplies.get id with
    | none => rfl
    | some r =>
      by_cases hc : r.responder = clientId
      · by_cases hq : r.paneId = q <;> simp [Option.filter, hc, hq]
      · -- its responder is another subscriber, and the pane is not closed
        have hpane : r.paneId ≠ q := by
          intro hq
          obtain ⟨subs, hsubs, hmem⟩ := hm.reply id r hget fun h => hc (Option.some.inj h)
          refine hother ?_
          rw [← hq, hsubs, Option.any_some, any_eq_true]
          exact ⟨r.responder, hmem, by simpa using hc⟩
        simp [Option.filter, hpane]

/-- **A disconnect drops exactly the entries of the client.** -/
theorem pending_disconnectClient (hm : s.Mirrored none) (clientId : ClientId) (id : HostRequestId) :
    (s.disconnectClient clientId).pendingHostReplies.get id =
      (s.pendingHostReplies.get id).filter (fun r => r.responder != clientId) := by
  unfold disconnectClient
  split
  · next hnone =>
    cases hget : s.pendingHostReplies.get id with
    | none => rfl
    | some r =>
      have hc : r.responder ≠ clientId := by
        intro hc
        obtain ⟨conn, hconn, -⟩ := (hm.mirror _ _ nofun).mp (hm.reply id r hget nofun)
        rw [hc, hnone] at hconn
        cases hconn
      simp [Option.filter, hc]
  · next conn _ =>
    rw [Table.get_retain]
    -- the panes are closed one at a time; what the others answer stays
    have hstep : ∀ (t : MuxServer) (q : PaneId), (t.Mirrored (some clientId) ∧
        (t.pendingHostReplies.get id).filter (fun r => r.responder != clientId) =
          (s.pendingHostReplies.get id).filter (fun r => r.responder != clientId)) →
        (closeOrphan clientId t q).Mirrored (some clientId) ∧
          ((closeOrphan clientId t q).pendingHostReplies.get id).filter (fun r => r.responder != clientId) =
            (s.pendingHostReplies.get id).filter (fun r => r.responder != clientId) :=
      fun t q h => ⟨h.1.closeOrphan clientId q, (pending_closeOrphan h.1 q id).trans h.2⟩
    have hfold := run_invariant hstep ⟨hm.leave clientId, rfl⟩ (conn.subscribedPanes.sort (· ≤ ·))
    exact hfold.2

/-! ## Every run -/

/-- What the tables of the host requests promise in a state. -/
structure RepliesRouted (s : MuxServer) : Prop where
  /-- Every forwarded request has an id of its own. -/
  forwardedOnce : (s.forwarded.map Prod.fst).Nodup
  fulfilledOnce : (s.fulfilled.map Fulfillment.requestId).Nodup
  fulfilled : ∀ f ∈ s.fulfilled, ∃ r, (f.requestId, r) ∈ s.forwarded ∧ r.responder = f.client ∧ r.kind.matches f.payload
  unknown : ∀ c id payload, s.pendingHostReplies.get id = none → s.apply (.request c (.replyHostRequest id payload)) = s
  other : ∀ c id payload r, s.pendingHostReplies.get id = some r → r.responder ≠ c →
    s.apply (.request c (.replyHostRequest id payload)) = s
  /-- A reply of another kind drops the entry, with the token that it holds. -/
  mismatch : ∀ c id payload r, s.pendingHostReplies.get id = some r → r.responder = c → r.kind.matches payload = false →
    s.apply (.request c (.replyHostRequest id payload)) =
      { s with pendingHostReplies := s.pendingHostReplies.erase id }
  answer : ∀ c id payload r, s.pendingHostReplies.get id = some r → r.responder = c → r.kind.matches payload = true →
    s.apply (.request c (.replyHostRequest id payload)) =
      { s with
        pendingHostReplies := s.pendingHostReplies.erase id
        fulfilled := s.fulfilled ++ [⟨id, c, payload⟩] }
  disconnect : ∀ c id, (s.apply (.disconnect c)).pendingHostReplies.get id =
    (s.pendingHostReplies.get id).filter (fun r => r.responder != c)

/-- The responder of an entry is connected. -/
theorem Mirrored.responder_connected (h : s.Mirrored none) {id : HostRequestId} {r : PendingHostReply}
    (hr : s.pendingHostReplies.get id = some r) : (s.connections.get r.responder).isSome :=
  ((h.mirror _ _ nofun).mp (h.reply id r hr nofun)).isSome

/-- A reply of a client that is not connected is not even dispatched. -/
theorem apply_reply (clientId : ClientId) (requestId : HostRequestId) (payload : HostReply) :
    s.apply (.request clientId (.replyHostRequest requestId payload)) =
      if (s.connections.get clientId).isSome then s.replyHostRequest clientId requestId payload else s := rfl

theorem Routed.repliesRouted (h : s.Routed) (hm : s.Mirrored none) : s.RepliesRouted := by
  refine ⟨h.forwardedOnce, h.fulfilledOnce, h.fulfilled, fun c id payload hr => ?_, fun c id payload r hr hc => ?_,
    fun c id payload r hr hc hmatch => ?_, fun c id payload r hr hc hmatch => ?_, pending_disconnectClient hm⟩
  · rw [apply_reply, replyHostRequest_unknown hr, ite_self]
  · rw [apply_reply, replyHostRequest_other hr hc, ite_self]
  · rw [apply_reply, if_pos (hc ▸ hm.responder_connected hr), replyHostRequest_responder hr hc, hmatch]
    rw [if_neg Bool.false_ne_true, append_nil]
  · rw [apply_reply, if_pos (hc ▸ hm.responder_connected hr), replyHostRequest_responder hr hc, hmatch, if_pos rfl]

/-- **Each host request is answered at most once, by its responder and with its kind, in every run.** -/
theorem hostReplies_run (es : List ServerEvent) : (run MuxServer.apply new es).RepliesRouted :=
  (routed_run es).repliesRouted (mirrored_run es)

/-- With nothing deferred and nothing published, a drain routes what the panes report and cleans up. -/
theorem drainMuxEvents_idle {env : PushEnv} {queued : ClientId → Bool} {events : List MuxEvent} {t : MuxServer}
    (hpolled : events.foldl pollEvent s = t) (hpush : t.pendingPush.keys = ∅)
    (hpublished : ((t.notifications.foldl (route env queued) { t with notifications := [] }).panes.filter fun p =>
      (t.notifications.foldl (route env queued) { t with notifications := [] }).hasUnpushed p) = ∅) :
    s.drainMuxEvents env queued events = (t.notifications.filterMap closedPane).foldl cleanupPaneState
      (t.notifications.foldl (route env queued) { t with notifications := [] }) := by
  unfold drainMuxEvents
  rw [hpolled]
  dsimp only
  rw [hpush, Finset.sort_empty, foldl_nil, hpublished, Finset.sort_empty, foldl_nil]

/-- A reply of the wrong kind is not without effect. -/
theorem mismatch_drops : ¬ ∀ es c id payload r, (run MuxServer.apply new es).pendingHostReplies.get id = some r →
    r.kind.matches payload = false →
    (run MuxServer.apply new es).apply (.request c (.replyHostRequest id payload)) = run MuxServer.apply new es := by
  intro h
  let env : PushEnv := ⟨0, fun _ _ => false, fun _ _ => false⟩
  let es : List ServerEvent := [.connect, .request 1 (.spawnPane true), .request 1 (.subscribe 1)]
  have hdrain : (run MuxServer.apply new es).drainMuxEvents env (fun _ => true) [.hostRequest 1 .clipboard] =
      ((run MuxServer.apply new es).dispatchHostRequest (fun _ => true) 1 .clipboard) :=
    drainMuxEvents_idle rfl rfl (by decide)
  have hget : (run MuxServer.apply new (es ++ [.drain env (fun _ => true) [.hostRequest 1 .clipboard]])).pendingHostReplies.get 1 =
      some ⟨1, 1, .clipboard⟩ := by
    rw [run_append]
    show ((run MuxServer.apply new es).drainMuxEvents env (fun _ => true) _).pendingHostReplies.get 1 = _
    rw [hdrain]
    rfl
  have hkept := h _ 1 1 (.colorQuery ⟨0, 0, 0⟩) _ hget rfl
  rw [((routed_run _).repliesRouted (mirrored_run _)).mismatch 1 1 (.colorQuery ⟨0, 0, 0⟩) _ hget rfl rfl] at hkept
  rw [← hkept, Table.get_erase, if_pos rfl] at hget
  cases hget

end MuxServer

end OriTerm
