import OriTerm.Mux.ServerTables

/-!
# `Mux.ServerRuns` — what is left when a pane or a client goes

On top of the relation between the tables, `Live` says that only live panes are mentioned. A subscription to a pane
that does not exist breaks it: the connection is subscribed before the pane is looked up, and the error leaves the
subscription in place (`SubscribesToLive` is the guard). Every other step only narrows what is mentioned.

The server closes the panes that a client leaves without subscribers, so a pane that nobody is subscribed to at the
disconnect of the last client stays, and with it the server (`LeavesNothing` is the guard).

* **`consistent_run_iff`** — the tables are consistent at every point of a run, and nothing refers to what was
  removed, exactly when each subscription of the run is to a live pane;
* **`exits_run_iff`** — the server can exit whenever no client is left exactly when, at each disconnect of a last
  client, every live pane is one that it is subscribed to.
-/

namespace OriTerm

open Lib List

namespace MuxServer

variable {s s' s'' : MuxServer}

variable (env : PushEnv) (queued : ClientId → Bool) (events : List MuxEvent) (es : List ServerEvent) (q : PaneId)

/-! ## Only live panes are mentioned -/

/-- A table refers to the pane. -/
def Mentioned (s : MuxServer) (p : PaneId) : Prop := (s.subscriptions.get p).isSome ∨ (s.pendingPush.get p).isSome

def Live (s : MuxServer) : Prop := ∀ p, s.Mentioned p → p ∈ s.panes

/-- No pane is newly mentioned, and none that is still mentioned is dropped. -/
structure Narrows (s s' : MuxServer) : Prop where
  mentioned : ∀ p, s'.Mentioned p → s.Mentioned p
  kept : ∀ p, s'.Mentioned p → p ∈ s.panes → p ∈ s'.panes

theorem Narrows.refl (s : MuxServer) : s.Narrows s := ⟨fun _ h => h, fun _ _ h => h⟩

theorem Narrows.trans (h : s.Narrows s') (h' : s'.Narrows s'') : s.Narrows s'' :=
  ⟨fun p hp => h.mentioned p (h'.mentioned p hp), fun p hp hl => h'.kept p hp (h.kept p (h'.mentioned p hp) hl)⟩

theorem Live.narrow (h : s.Live) (hn : s.Narrows s') : s'.Live :=
  fun p hp => hn.kept p hp (h p (hn.mentioned p hp))

/-- A loop of narrowing steps. -/
theorem narrows_foldl {ε : Type} {f : MuxServer → ε → MuxServer} (h : ∀ (s : MuxServer) (e : ε), s.Narrows (f s e)) (s : MuxServer)
    (es : List ε) : s.Narrows (es.foldl f s) :=
  run_invariant (fun t e ht => ht.trans (h t e)) (Narrows.refl s) es

theorem Narrows.of_tables (hs : s'.subscriptions = s.subscriptions) (hp : s'.pendingPush = s.pendingPush)
    (hpanes : s.panes ⊆ s'.panes) : s.Narrows s' := by
  have hiff : ∀ p, s'.Mentioned p ↔ s.Mentioned p := by
    intro p
    unfold Mentioned
    rw [hs, hp]
  exact ⟨fun p hm => (hiff p).mp hm, fun p _ hl => hpanes hl⟩

/-- Deferring for a pane that is mentioned already. -/
theorem narrows_deferPush {paneId : PaneId} (h : s.Mentioned paneId) (hs : s'.subscriptions = s.subscriptions)
    (hp : ∀ p, p ≠ paneId → s'.pendingPush.get p = s.pendingPush.get p) (hpanes : s'.panes = s.panes) :
    s.Narrows s' := by
  refine ⟨fun p hm => ?_, fun p _ hl => hpanes ▸ hl⟩
  by_cases hpane : p = paneId
  · exact hpane ▸ h
  · unfold Mentioned at hm ⊢
    rwa [hs, hp p hpane] at hm

theorem narrows_cleanupPaneState (s : MuxServer) (q : PaneId) : s.Narrows (s.cleanupPaneState q) := by
  refine ⟨fun p hm => ?_, fun p _ hl => hl⟩
  unfold Mentioned cleanupPaneState at hm
  rw [Table.get_erase, Table.get_erase] at hm
  split at hm
  · simp at hm
  · exact hm

theorem not_mentioned_cleanupPaneState (s : MuxServer) (q : PaneId) : ¬ (s.cleanupPaneState q).Mentioned q := by
  unfold Mentioned cleanupPaneState
  simp

theorem subscriptions_dropPane : (s.dropPane q).subscriptions = s.subscriptions := by
  unfold dropPane closePaneMux
  split <;> rfl

theorem pendingPush_dropPane : (s.dropPane q).pendingPush = s.pendingPush := by
  unfold dropPane closePaneMux
  split <;> rfl

theorem panes_dropPane : (s.dropPane q).panes = s.panes.erase q := by
  unfold dropPane closePaneMux
  split <;> rfl

theorem paneRegistry_dropPane : (s.dropPane q).paneRegistry = s.paneRegistry.erase q := by
  unfold dropPane closePaneMux
  split
  · rfl
  · next hq => exact (Finset.erase_eq_of_notMem hq).symm

/-- A pane that is closed is no longer mentioned. -/
theorem narrows_removePane (s : MuxServer) (q : PaneId) : s.Narrows ((s.dropPane q).cleanupPaneState q) := by
  have hiff : ∀ p, (s.dropPane q).Mentioned p ↔ s.Mentioned p := by
    intro p
    unfold Mentioned
    rw [subscriptions_dropPane, pendingPush_dropPane]
  have hclean := narrows_cleanupPaneState (s.dropPane q) q
  refine ⟨fun p hm => (hiff p).mp (hclean.mentioned p hm), fun p hm hl => ?_⟩
  have hne : p ≠ q := fun h => not_mentioned_cleanupPaneState _ q (h ▸ hm)
  refine hclean.kept p hm ?_
  rw [panes_dropPane]
  exact Finset.mem_erase.mpr ⟨hne, hl⟩

theorem narrows_closeOrphan (clientId : ClientId) (s : MuxServer) (q : PaneId) :
    s.Narrows (s.closeOrphan clientId q) := by
  unfold closeOrphan
  dsimp only
  split
  · exact Narrows.refl s
  · exact narrows_removePane s q

theorem narrows_disconnectClient (s : MuxServer) (clientId : ClientId) : s.Narrows (s.disconnectClient clientId) := by
  unfold disconnectClient
  split
  · exact Narrows.refl s
  · next conn _ =>
    dsimp only
    have hstart : s.Narrows { s with connections := s.connections.erase clientId } :=
      Narrows.of_tables rfl rfl (Finset.Subset.refl _)
    refine (hstart.trans (narrows_foldl (narrows_closeOrphan clientId) _
      (conn.subscribedPanes.sort (· ≤ ·)))).trans ?_
    generalize (conn.subscribedPanes.sort (· ≤ ·)).foldl (closeOrphan clientId) _ = t
    refine ⟨fun p hm => ?_, fun p _ hl => hl⟩
    unfold Mentioned removeClientSubscriptions at hm
    rcases hm with hm | hm
    · left
      rw [Table.get_alterAll] at hm
      split at hm
      · unfold withoutClient at hm
        cases hsubs : t.subscriptions.get p with
        | none => simp [hsubs] at hm
        | some subs => rfl
      · exact hm
    · right
      cases hd : t.pendingPush.get p with
      | none => simp [hd] at hm
      | some d => rfl

variable {conn : ClientConnection} {clientId : ClientId} {p : PaneId}

/-- After the global map follows a connection, only what the connection is subscribed to is newly mentioned. -/
theorem mentioned_syncSubscriptions (hconn : s.connections.get clientId = some conn)
    (h : (s.syncSubscriptions clientId).Mentioned p) : s.Mentioned p ∨ p ∈ conn.subscribedPanes := by
  by_cases hp : p ∈ conn.subscribedPanes
  · exact .inr hp
  · left
    unfold Mentioned at h ⊢
    rw [pendingPush_syncSubscriptions] at h
    refine h.imp_left fun hsubs => ?_
    unfold syncSubscriptions at hsubs
    rw [hconn] at hsubs
    rw [Table.get_filterMap, Table.get_alterAll, if_neg hp] at hsubs
    cases hget : s.subscriptions.get p with
    | none => simp [hget] at hsubs
    | some subs => rfl

theorem panes_syncSubscriptions (clientId : ClientId) : (s.syncSubscriptions clientId).panes = s.panes := by
  unfold syncSubscriptions
  split <;> rfl

/-- What a client is subscribed to is mentioned. -/
theorem Mirrored.mentioned (h : s.Mirrored none) (hconn : s.connections.get clientId = some conn)
    (hp : p ∈ conn.subscribedPanes) : s.Mentioned p := by
  obtain ⟨subs, hsubs, -⟩ := (h.mirror clientId p nofun).mpr ⟨conn, hconn, hp⟩
  left
  rw [hsubs]
  rfl

section

variable (s : MuxServer)

theorem narrows_pushOrDeferPane (paneId : PaneId) : s.Narrows (s.pushOrDeferPane env paneId) := by
  unfold pushOrDeferPane
  split
  · exact Narrows.refl s
  · next subs hsubs =>
    have hm : s.Mentioned paneId := by
      left
      rw [hsubs]
      rfl
    split
    · split
      · exact narrows_deferPush hm rfl (fun _ hne => if_neg hne) rfl
      · exact Narrows.refl s
    · exact narrows_deferPush hm rfl (fun _ hne => if_neg hne) rfl

theorem narrows_trailingFlushPane (paneId : PaneId) : s.Narrows (s.trailingFlushPane env paneId) := by
  unfold trailingFlushPane
  dsimp only
  split
  · exact Narrows.refl s
  · split
    · exact Narrows.refl s
    · next deferred hdeferred =>
      have hm : s.Mentioned paneId := by
        right
        rw [hdeferred]
        rfl
      split
      · exact narrows_deferPush hm rfl (fun _ hne => if_neg hne) rfl
      · split
        · exact narrows_deferPush hm rfl (fun _ hne => if_neg hne) rfl
        · split
          · exact narrows_deferPush hm rfl (fun _ hne => if_neg hne) rfl
          · split <;> exact narrows_deferPush hm rfl (fun _ hne => if_neg hne) rfl

theorem narrows_dispatchHostRequest (paneId : PaneId)
    (kind : PendingHostReplyKind) : s.Narrows (s.dispatchHostRequest queued paneId kind) := by
  unfold dispatchHostRequest
  split
  · exact Narrows.refl s
  · dsimp only
    split <;> exact Narrows.of_tables rfl rfl (Finset.Subset.refl _)

theorem narrows_route (n : MuxNotification) : s.Narrows (s.route env queued n) := by
  cases n with
  | paneOutput paneId => exact narrows_pushOrDeferPane env s paneId
  | hostRequest paneId kind => exact narrows_dispatchHostRequest queued s paneId kind
  | paneClosed paneId => exact Narrows.refl s

theorem narrows_pollEvent (event : MuxEvent) : s.Narrows (s.pollEvent event) := by
  cases event with
  | paneOutput | hostRequest => exact Narrows.of_tables rfl rfl (Finset.Subset.refl _)
  | paneExited paneId =>
    unfold pollEvent closePaneMux
    dsimp only
    split
    · exact Narrows.of_tables rfl rfl (Finset.Subset.refl _)
    · exact Narrows.refl s

theorem narrows_drainMuxEvents : s.Narrows (s.drainMuxEvents env queued events) :=
  drainMuxEvents_invariant (I := s.Narrows) (fun t event h => h.trans (narrows_pollEvent t event))
    (fun _ h => h.trans (.of_tables rfl rfl (Finset.Subset.refl _)))
    (fun t p h => h.trans (narrows_trailingFlushPane env t p)) (fun t n h => h.trans (narrows_route env queued t n))
    (fun t p h => h.trans (narrows_cleanupPaneState t p)) (.refl s) events

theorem narrows_replyHostRequest (clientId : ClientId) (requestId : HostRequestId) (payload : HostReply) :
    s.Narrows (s.replyHostRequest clientId requestId payload) := by
  obtain ⟨replies, fulfilled, heq, -⟩ := replyHostRequest_eq s clientId requestId payload
  rw [heq]
  exact Narrows.of_tables rfl rfl (Finset.Subset.refl _)

end

section

variable (hm : s.Mirrored none) (hconn : s.connections.get clientId = some conn)
include hm hconn

theorem narrows_unsubscribe (paneId : PaneId) : s.Narrows (s.handleRequest clientId (.unsubscribe paneId)) := by
  unfold handleRequest
  dsimp only
  have hstart : ∃ t, ({ s.onConn clientId (·.unsubscribe paneId) with
      pendingHostReplies := (s.onConn clientId (·.unsubscribe paneId)).pendingHostReplies.retain fun _ r =>
        !(r.paneId == paneId && r.responder == clientId) } : MuxServer) = t ∧ s.Narrows t ∧ t.panes = s.panes ∧
      t.connections.get clientId = some (conn.unsubscribe paneId) := by
    refine ⟨_, rfl, Narrows.of_tables rfl rfl (Finset.Subset.refl _), rfl, ?_⟩
    show (s.connections.modify clientId _).get clientId = _
    rw [Table.get_modify, if_pos rfl, hconn]
    rfl
  obtain ⟨t, heq, hn, hpanes, hconn'⟩ := hstart
  rw [heq]
  have hmentioned : ∀ p, (t.syncSubscriptions clientId).Mentioned p → s.Mentioned p := by
    intro p hp
    rcases mentioned_syncSubscriptions hconn' hp with hp | hp
    · exact hn.mentioned p hp
    · exact hm.mentioned hconn (Finset.mem_of_mem_erase hp)
  refine ⟨fun p hp => hmentioned p ?_, fun p _ hl => ?_⟩
  · refine hp.imp_right fun hp => ?_
    rw [Table.get_alter] at hp
    split at hp
    · next heq =>
      rw [heq]
      cases hd : (t.syncSubscriptions clientId).pendingPush.get paneId with
      | none => simp [hd] at hp
      | some d => rfl
    · exact hp
  · rw [panes_syncSubscriptions, hpanes]
    exact hl

/-- Of the requests, only a subscription mentions another pane. -/
theorem narrows_handleRequest
    (req : ClientRequest) (hreq : ∀ paneId, req ≠ .subscribe paneId) : s.Narrows (s.handleRequest clientId req) := by
  cases req with
  | spawnPane spawned =>
    cases spawned with
    | false => exact Narrows.of_tables rfl rfl (Finset.Subset.refl _)
    | true => exact Narrows.of_tables rfl rfl (Finset.subset_insert _ _)
  | closePane paneId => exact narrows_removePane s paneId
  | subscribe paneId => exact absurd rfl (hreq paneId)
  | unsubscribe paneId => exact narrows_unsubscribe hm hconn paneId
  | getPaneSnapshot paneId acked =>
    unfold handleRequest
    dsimp only
    split
    · exact Narrows.of_tables rfl rfl (Finset.Subset.refl _)
    · exact Narrows.refl s
  | setCapabilities | setPanePriority => exact Narrows.of_tables rfl rfl (Finset.Subset.refl _)
  | replyHostRequest requestId payload => exact narrows_replyHostRequest s clientId requestId payload
  | other => exact Narrows.refl s

end

/-! ## Subscriptions -/

section

variable (hconn : s.connections.get clientId = some conn) (paneId : PaneId)
include hconn

/-- Before the global map follows, the connection has the pane among its own, and no table has changed. -/
theorem subscribe_eq :
    ∃ t : MuxServer, s.handleRequest clientId (.subscribe paneId) = t.syncSubscriptions clientId ∧
      t.connections.get clientId = some (conn.subscribe paneId) ∧ t.subscriptions = s.subscriptions ∧
      t.pendingPush = s.pendingPush ∧ t.panes = s.panes := by
  have hconn' : (s.onConn clientId (·.subscribe paneId)).connections.get clientId = some (conn.subscribe paneId) := by
    unfold MuxServer.onConn
    rw [Table.get_modify, if_pos rfl, hconn]
    rfl
  refine ⟨_, rfl, ?_⟩
  split <;> exact ⟨hconn', rfl, rfl, rfl⟩

/-- A subscription mentions its pane, whether or not it is live. -/
theorem mentioned_subscribe_self : (s.handleRequest clientId (.subscribe paneId)).Mentioned paneId := by
  obtain ⟨t, heq, hconnt, -⟩ := subscribe_eq hconn paneId
  have hlisted : (t.syncSubscriptions clientId).Listed clientId paneId := by
    rw [listed_syncSubscriptions hconnt, if_pos rfl]
    exact Finset.mem_insert_self _ _
  obtain ⟨subs, hsubs, -⟩ := hlisted
  left
  rw [heq, hsubs]
  rfl

end

theorem mentioned_subscribe (hm : s.Mirrored none) (hconn : s.connections.get clientId = some conn) {paneId : PaneId}
    (h : (s.handleRequest clientId (.subscribe paneId)).Mentioned p) : p = paneId ∨ s.Mentioned p := by
  obtain ⟨t, heq, hconnt, hsubs, hpush, -⟩ := subscribe_eq hconn paneId
  rw [heq] at h
  rcases mentioned_syncSubscriptions hconnt h with h | h
  · unfold Mentioned at h ⊢
    rw [hsubs, hpush] at h
    exact .inr h
  · exact (Finset.mem_insert.mp h).imp_right (hm.mentioned hconn)

theorem panes_subscribe (clientId : ClientId) (paneId : PaneId) :
    (s.handleRequest clientId (.subscribe paneId)).panes = s.panes := by
  unfold MuxServer.handleRequest
  rw [panes_syncSubscriptions]
  split <;> rfl

/-- A client subscribes to live panes only. -/
def SubscribesToLive (s : MuxServer) : ServerEvent → Prop
  | .request clientId (.subscribe paneId) => (s.connections.get clientId).isSome → paneId ∈ s.panes
  | _ => True

theorem live_request_iff (hm : s.Mirrored none) (hl : s.Live) (hconn : s.connections.get clientId = some conn)
    (req : ClientRequest) :
    (s.handleRequest clientId req).Live ↔ ∀ paneId, req = .subscribe paneId → paneId ∈ s.panes := by
  by_cases hreq : ∃ paneId, req = .subscribe paneId
  · obtain ⟨paneId, rfl⟩ := hreq
    constructor
    · intro h q hq
      cases hq
      have := h paneId (mentioned_subscribe_self hconn paneId)
      rwa [panes_subscribe] at this
    · intro h p hp
      rw [panes_subscribe]
      rcases mentioned_subscribe hm hconn hp with hp | hp
      · exact hp ▸ h paneId rfl
      · exact hl p hp
  · rw [not_exists] at hreq
    refine iff_of_true (hl.narrow (narrows_handleRequest hm hconn req hreq)) ?_
    exact fun paneId heq => absurd heq (hreq paneId)

theorem live_apply_iff (hm : s.Mirrored none) (hl : s.Live) (e : ServerEvent) :
    (s.apply e).Live ↔ SubscribesToLive s e := by
  cases e with
  | connect => exact iff_of_true (hl.narrow (Narrows.of_tables rfl rfl (Finset.Subset.refl _))) trivial
  | request clientId req =>
    unfold MuxServer.apply
    dsimp only
    cases hconn : s.connections.get clientId with
    | none =>
      refine iff_of_true hl ?_
      unfold SubscribesToLive
      split
      · next heq =>
        cases heq
        intro h
        rw [hconn] at h
        cases h
      · trivial
    | some conn =>
      rw [if_pos Option.isSome_some, live_request_iff hm hl hconn]
      unfold SubscribesToLive
      constructor
      · intro h
        split
        · next heq =>
          cases heq
          exact fun _ => h _ rfl
        · trivial
      · rintro h paneId rfl
        exact h (by rw [hconn]; rfl)
  | disconnect clientId => exact iff_of_true (hl.narrow (narrows_disconnectClient s clientId)) trivial
  | publish paneId =>
    refine iff_of_true (hl.narrow ?_) trivial
    unfold MuxServer.apply
    dsimp only
    split
    · exact Narrows.of_tables rfl rfl (Finset.Subset.refl _)
    · exact Narrows.refl s
  | drain env queued events => exact iff_of_true (hl.narrow (narrows_drainMuxEvents env queued events s)) trivial

/-! ## Nothing refers to what was removed -/

/-- No table refers to the pane. -/
structure Unreferenced (s : MuxServer) (p : PaneId) : Prop where
  subscriptions : s.subscriptions.get p = none
  pendingPush : s.pendingPush.get p = none
  subscribed : ∀ c, ¬ s.Subscribed c p
  reply : ∀ id r, s.pendingHostReplies.get id = some r → r.paneId ≠ p

/-- No table refers to the client. -/
structure Forgotten (s : MuxServer) (c : ClientId) : Prop where
  connection : s.connections.get c = none
  listed : ∀ p, ¬ s.Listed c p
  pendingPush : ∀ p d, s.pendingPush.get p = some d → c ∉ d
  reply : ∀ id r, s.pendingHostReplies.get id = some r → r.responder ≠ c

theorem unreferenced_cleanupPaneState (s : MuxServer) (p : PaneId) : (s.cleanupPaneState p).Unreferenced p := by
  refine ⟨?_, ?_, fun c h => (subscribed_cleanupPaneState.mp h).1 rfl, fun id r hr => ?_⟩
  · unfold cleanupPaneState
    rw [Table.get_erase, if_pos rfl]
  · unfold cleanupPaneState
    rw [Table.get_erase, if_pos rfl]
  · unfold cleanupPaneState at hr
    rw [Table.get_retain, Option.filter_eq_some_iff] at hr
    simpa using hr.2

theorem Unreferenced.cleanupPaneState (h : s.Unreferenced p) (q : PaneId) : (s.cleanupPaneState q).Unreferenced p := by
  refine ⟨?_, ?_, fun c hc => h.subscribed c (subscribed_cleanupPaneState.mp hc).2, fun id r hr => h.reply id r ?_⟩
  · unfold MuxServer.cleanupPaneState
    rw [Table.get_erase, h.subscriptions, ite_self]
  · unfold MuxServer.cleanupPaneState
    rw [Table.get_erase, h.pendingPush, ite_self]
  · unfold MuxServer.cleanupPaneState at hr
    rw [Table.get_retain, Option.filter_eq_some_iff] at hr
    exact hr.1

theorem unreferenced_cleanupPanes (s : MuxServer) {ps : List PaneId} (h : p ∈ ps) :
    (ps.foldl cleanupPaneState s).Unreferenced p := by
  obtain ⟨before, after, rfl⟩ := append_of_mem h
  rw [foldl_append]
  exact run_invariant (I := fun s : MuxServer => s.Unreferenced p) (fun _ q h => h.cleanupPaneState q)
    (unreferenced_cleanupPaneState _ p) after

/-! ### The registry -/

/-- A pane that left the registry is announced, for the loop to clean up. -/
theorem closed_pollEvents (hp : p ∈ s.paneRegistry) (events : List MuxEvent) :
    p ∈ (events.foldl pollEvent s).paneRegistry ∨ .paneClosed p ∈ (events.foldl pollEvent s).notifications := by
  refine run_invariant (I := fun t : MuxServer => p ∈ t.paneRegistry ∨ .paneClosed p ∈ t.notifications)
    (fun t e h => ?_) (.inl hp) events
  cases e with
  | paneOutput | hostRequest => exact h.imp_right (mem_append_left _)
  | paneExited paneId =>
    unfold pollEvent closePaneMux
    dsimp only
    split
    · by_cases hpane : p = paneId
      · exact .inr (mem_append_right _ (by rw [hpane]; exact mem_singleton_self _))
      · exact h.imp (fun h => Finset.mem_erase.mpr ⟨hpane, h⟩) (mem_append_left _)
    · exact h

/-- What the pushes and the routing keep: who is connected, and which panes there are. -/
structure SameTables (s s' : MuxServer) : Prop where
  connections : s'.connections = s.connections
  hadClient : s'.hadClient = s.hadClient
  panes : s'.panes = s.panes
  paneRegistry : s'.paneRegistry = s.paneRegistry

theorem sameTables_trailingFlushPane (s : MuxServer) (q : PaneId) : s.SameTables (s.trailingFlushPane env q) := by
  unfold trailingFlushPane
  dsimp only
  repeat' split
  all_goals exact ⟨rfl, rfl, rfl, rfl⟩

theorem sameTables_pushOrDeferPane (s : MuxServer) (q : PaneId) : s.SameTables (s.pushOrDeferPane env q) := by
  unfold pushOrDeferPane
  repeat' split
  all_goals exact ⟨rfl, rfl, rfl, rfl⟩

theorem sameTables_route (s : MuxServer) (n : MuxNotification) : s.SameTables (s.route env queued n) := by
  cases n with
  | paneOutput paneId => exact sameTables_pushOrDeferPane env s paneId
  | hostRequest paneId kind =>
    unfold route dispatchHostRequest
    dsimp only
    repeat' split
    all_goals exact ⟨rfl, rfl, rfl, rfl⟩
  | paneClosed paneId => exact ⟨rfl, rfl, rfl, rfl⟩

/-- A loop that keeps a field. -/
theorem foldl_keeps {ε β : Type} (field : MuxServer → β) {f : MuxServer → ε → MuxServer}
    (h : ∀ (s : MuxServer) (e : ε), field (f s e) = field s) (s : MuxServer) (es : List ε) :
    field (es.foldl f s) = field s :=
  run_invariant (fun t e ht => (h t e).trans ht) rfl es

/-- **A pane that exits is out of all tables at the end of the drain.** -/
theorem unreferenced_drainMuxEvents {env : PushEnv} {queued : ClientId → Bool} {events : List MuxEvent}
    (hp : p ∈ s.paneRegistry) (hgone : p ∉ (s.drainMuxEvents env queued events).paneRegistry) :
    (s.drainMuxEvents env queued events).Unreferenced p := by
  unfold drainMuxEvents at hgone ⊢
  have hclosed := closed_pollEvents hp events
  generalize events.foldl pollEvent s = t at hclosed hgone ⊢
  rw [foldl_keeps paneRegistry (f := cleanupPaneState) (fun _ _ => rfl), 
    foldl_keeps paneRegistry fun t q => (sameTables_pushOrDeferPane env t q).paneRegistry,
    foldl_keeps paneRegistry fun t n => (sameTables_route env queued t n).paneRegistry,
    foldl_keeps paneRegistry fun t q => (sameTables_trailingFlushPane env t q).paneRegistry] at hgone
  refine unreferenced_cleanupPanes _ (mem_filterMap.mpr ⟨.paneClosed p, ?_, rfl⟩)
  exact hclosed.resolve_left hgone

/-- Closing an orphan takes it from the registry and from the panes. -/
theorem registry_closeOrphan {q : PaneId} (hp : p ∈ s.paneRegistry)
    (hgone : p ∉ (s.closeOrphan clientId q).paneRegistry) : p ∉ (s.closeOrphan clientId q).panes := by
  unfold closeOrphan at hgone ⊢
  dsimp only at hgone ⊢
  split at hgone
  · exact absurd hp hgone
  · next h =>
    rw [if_neg h]
    have hregistry : p ∉ (s.dropPane q).paneRegistry := hgone
    rw [paneRegistry_dropPane] at hregistry
    intro hmem
    exact hregistry (Finset.mem_erase.mpr ⟨(Finset.mem_erase.mp hmem).1, hp⟩)

theorem panes_closeOrphan (clientId : ClientId) (s : MuxServer) (q : PaneId) :
    (s.closeOrphan clientId q).panes ⊆ s.panes := by
  unfold closeOrphan
  dsimp only
  split
  · exact Finset.Subset.refl _
  · have hpanes : ((s.dropPane q).cleanupPaneState q).panes = s.panes.erase q := panes_dropPane q
    rw [hpanes]
    exact Finset.erase_subset _ _

theorem registry_disconnectClient (hp : p ∈ s.paneRegistry) (hgone : p ∉ (s.disconnectClient clientId).paneRegistry) :
    p ∉ (s.disconnectClient clientId).panes := by
  have hfold : ∀ (t : MuxServer) (qs : List PaneId), p ∈ t.paneRegistry →
      p ∈ (qs.foldl (closeOrphan clientId) t).paneRegistry ∨ p ∉ (qs.foldl (closeOrphan clientId) t).panes := by
    intro t qs ht
    refine run_invariant (I := fun t : MuxServer => p ∈ t.paneRegistry ∨ p ∉ t.panes) (fun t q h => ?_) (.inl ht) qs
    rcases h with h | h
    · by_cases hq : p ∈ (t.closeOrphan clientId q).paneRegistry
      · exact .inl hq
      · exact .inr (registry_closeOrphan h hq)
    · exact .inr fun hmem => h (panes_closeOrphan clientId t q hmem)
  unfold disconnectClient at hgone ⊢
  split at hgone
  · exact absurd hp hgone
  · next conn hconn =>
    exact (hfold { s with connections := s.connections.erase clientId } (conn.subscribedPanes.sort (· ≤ ·)) hp).resolve_left
      hgone

theorem paneRegistry_syncSubscriptions (clientId : ClientId) :
    (s.syncSubscriptions clientId).paneRegistry = s.paneRegistry := by
  unfold syncSubscriptions
  split <;> rfl

theorem registry_handleRequest {req : ClientRequest} (hp : p ∈ s.paneRegistry)
    (hgone : p ∉ (s.handleRequest clientId req).paneRegistry) :
    p ∉ (s.handleRequest clientId req).panes ∨ (s.handleRequest clientId req).Unreferenced p := by
  cases req with
  | spawnPane spawned =>
    cases spawned with
    | false => exact absurd hp hgone
    | true => exact absurd (Finset.mem_insert_of_mem hp) hgone
  | closePane paneId =>
    have hregistry : p ∉ (s.dropPane paneId).paneRegistry := hgone
    rw [paneRegistry_dropPane] at hregistry
    refine .inl fun hmem => hregistry (Finset.mem_erase.mpr ⟨?_, hp⟩)
    have hpanes : p ∈ (s.dropPane paneId).panes := hmem
    exact (Finset.mem_erase.mp hpanes).1
  | subscribe paneId =>
    unfold handleRequest at hgone
    rw [paneRegistry_syncSubscriptions] at hgone
    split at hgone
    · exact absurd hp hgone
    · exact absurd hp hgone
  | unsubscribe paneId =>
    unfold handleRequest at hgone
    rw [paneRegistry_syncSubscriptions] at hgone
    exact absurd hp hgone
  | getPaneSnapshot paneId acked =>
    unfold handleRequest at hgone
    dsimp only at hgone
    split at hgone
    · exact absurd hp hgone
    · exact absurd hp hgone
  | setCapabilities | setPanePriority | other => exact absurd hp hgone
  | replyHostRequest requestId payload =>
    obtain ⟨replies, fulfilled, heq, -⟩ := replyHostRequest_eq s clientId requestId payload
    have hregistry : p ∉ (s.replyHostRequest clientId requestId payload).paneRegistry := hgone
    rw [heq] at hregistry
    exact absurd hp hregistry

/-- A pane that leaves the registry is dropped, or cleaned up after at the end of the same drain. -/
theorem registry_apply {e : ServerEvent} (hp : p ∈ s.paneRegistry) (hgone : p ∉ (s.apply e).paneRegistry) :
    p ∉ (s.apply e).panes ∨ (s.apply e).Unreferenced p := by
  cases e with
  | connect => exact absurd hp hgone
  | request clientId req =>
    unfold MuxServer.apply at hgone ⊢
    dsimp only at hgone ⊢
    split at hgone
    · next hconn =>
      rw [if_pos hconn]
      exact registry_handleRequest hp hgone
    · exact absurd hp hgone
  | disconnect clientId => exact .inl (registry_disconnectClient hp hgone)
  | publish paneId =>
    unfold MuxServer.apply at hgone
    dsimp only at hgone
    split at hgone
    · exact absurd hp hgone
    · exact absurd hp hgone
  | drain env queued events => exact .inr (unreferenced_drainMuxEvents hp hgone)

/-! ## Consistency -/

/-- The tables mirror each other and mention live panes and connected subscribers only. -/
structure Consistent (s : MuxServer) : Prop where
  mirror : ∀ c p, s.Listed c p ↔ s.Subscribed c p
  subscriptions : ∀ p subs, s.subscriptions.get p = some subs →
    p ∈ s.panes ∧ ∀ c ∈ subs, (s.connections.get c).isSome
  pendingPush : ∀ p d, s.pendingPush.get p = some d →
    p ∈ s.panes ∧ ∀ c ∈ d, (s.connections.get c).isSome ∧ s.Subscribed c p
  reply : ∀ id r, s.pendingHostReplies.get id = some r →
    r.paneId ∈ s.panes ∧ (s.connections.get r.responder).isSome ∧ s.Subscribed r.responder r.paneId

theorem Subscribed.isSome {c : ClientId} (h : s.Subscribed c p) : (s.connections.get c).isSome := by
  obtain ⟨conn, hconn, -⟩ := h
  rw [hconn]
  rfl

theorem Mirrored.consistent_iff (h : s.Mirrored none) : s.Consistent ↔ s.Live := by
  constructor
  · intro hc p hp
    rcases hp with hp | hp
    · obtain ⟨subs, hsubs⟩ := Option.isSome_iff_exists.mp hp
      exact (hc.subscriptions p subs hsubs).1
    · obtain ⟨d, hd⟩ := Option.isSome_iff_exists.mp hp
      exact (hc.pendingPush p d hd).1
  · intro hl
    have hsubscribed : ∀ c p, s.Listed c p → s.Subscribed c p := fun c p => (h.mirror c p nofun).mp
    refine ⟨fun c p => h.mirror c p nofun, fun p subs hsubs => ⟨?_, fun c hc => ?_⟩,
      fun p d hd => ⟨?_, fun c hc => ?_⟩, fun id r hr => ?_⟩
    · exact hl p (.inl (by rw [hsubs]; rfl))
    · exact (hsubscribed c p ⟨subs, hsubs, hc⟩).isSome
    · exact hl p (.inr (by rw [hd]; rfl))
    · have hs := hsubscribed c p (h.push p d hd c hc nofun)
      exact ⟨hs.isSome, hs⟩
    · have hlisted := h.reply id r hr nofun
      have hs := hsubscribed _ _ hlisted
      obtain ⟨subs, hsubs, -⟩ := hlisted
      exact ⟨hl r.paneId (.inl (by rw [hsubs]; rfl)), hs.isSome, hs⟩

/-- A pane that is not live is not referred to. -/
theorem Consistent.unreferenced (h : s.Consistent) (hp : p ∉ s.panes) : s.Unreferenced p := by
  refine ⟨?_, ?_, fun c hc => ?_, fun id r hr heq => hp (heq ▸ (h.reply id r hr).1)⟩
  · cases hsubs : s.subscriptions.get p with
    | none => rfl
    | some subs => exact absurd (h.subscriptions p subs hsubs).1 hp
  · cases hd : s.pendingPush.get p with
    | none => rfl
    | some d => exact absurd (h.pendingPush p d hd).1 hp
  · obtain ⟨subs, hsubs, -⟩ := (h.mirror c p).mpr hc
    exact hp (h.subscriptions p subs hsubs).1

/-- A client that is not connected is not referred to. -/
theorem Consistent.forgotten (h : s.Consistent) {c : ClientId} (hc : s.connections.get c = none) : s.Forgotten c := by
  have hnone : ¬ (s.connections.get c).isSome := by rw [hc]; exact Bool.false_ne_true
  refine ⟨hc, fun p hp => ?_, fun p d hd hmem => hnone ((h.pendingPush p d hd).2 c hmem).1,
    fun id r hr heq => hnone (heq ▸ (h.reply id r hr).2.1)⟩
  exact hnone ((h.mirror c p).mp hp).isSome

theorem connections_disconnectClient (s : MuxServer) (clientId : ClientId) :
    (s.disconnectClient clientId).connections.get clientId = none := by
  unfold disconnectClient
  split
  · assumption
  · next conn hconn =>
    have hfold : ∀ (t : MuxServer) (qs : List PaneId), (t.connections.get clientId).isSome = false →
        ((qs.foldl (closeOrphan clientId) t).connections.get clientId).isSome = false := by
      intro t qs ht
      exact (foldl_keeps (fun t : MuxServer => (t.connections.get clientId).isSome)
        (fun t q => isSome_connections_closeOrphan clientId q clientId) t qs).trans ht
    refine Option.isNone_iff_eq_none.mp (Option.isSome_eq_false_iff.mp (hfold _ (conn.subscribedPanes.sort (· ≤ ·)) ?_))
    rw [Table.get_erase, if_pos rfl]
    rfl

/-- The tables are consistent at every point of a run, and nothing refers to what was removed. -/
structure ConsistentRun (es : List ServerEvent) : Prop where
  consistent : ∀ n, (run apply new (es.take n)).Consistent
  /-- A pane left the live panes, or the registry. -/
  pane : ∀ n e p, es[n]? = some e →
    (p ∈ (run apply new (es.take n)).panes ∧ p ∉ (run apply new (es.take (n + 1))).panes ∨
      p ∈ (run apply new (es.take n)).paneRegistry ∧ p ∉ (run apply new (es.take (n + 1))).paneRegistry) →
    (run apply new (es.take (n + 1))).Unreferenced p
  /-- A client left. -/
  client : ∀ n c, es[n]? = some (.disconnect c) → (run apply new (es.take (n + 1))).Forgotten c

/-- One more step of a run. -/
theorem run_take_succ {es : List ServerEvent} {n : Nat} {e : ServerEvent} (he : es[n]? = some e) :
    run apply new (es.take (n + 1)) = (run apply new (es.take n)).apply e := by
  rw [take_add_one, he, run_append]
  rfl

/-- **The bookkeeping is consistent exactly as long as clients subscribe to live panes.** -/
theorem consistent_run_iff : ConsistentRun es ↔ Along apply SubscribesToLive new es := by
  have hiff : (∀ n, (run apply new (es.take n)).Live) ↔ Along apply SubscribesToLive new es :=
    along_iff_forall_take (K := fun s : MuxServer => s.Mirrored none)
      (fun s e hm hl => ⟨hm.apply e, live_apply_iff hm hl e⟩) mirrored_new (fun p hp => by simp [Mentioned, new] at hp)
  rw [← hiff]
  constructor
  · exact fun h n => (mirrored_run (es.take n)).consistent_iff.mp (h.consistent n)
  · intro h
    have hconsistent : ∀ n, (run apply new (es.take n)).Consistent :=
      fun n => (mirrored_run (es.take n)).consistent_iff.mpr (h n)
    refine ⟨hconsistent, fun n e p he hp => ?_, fun n c he => ?_⟩
    · rcases hp with ⟨-, hgone⟩ | ⟨hp, hgone⟩
      · exact (hconsistent (n + 1)).unreferenced hgone
      · have hnext := hconsistent (n + 1)
        rw [run_take_succ he] at hgone hnext ⊢
        exact (registry_apply hp hgone).elim hnext.unreferenced id
    · have hnext := hconsistent (n + 1)
      rw [run_take_succ he] at hnext ⊢
      exact hnext.forgotten (connections_disconnectClient _ c)

/-- A client that subscribes to a pane that does not exist stays subscribed to it. -/
theorem subscribe_to_dead : ¬ ∀ es, ConsistentRun es := by
  intro h
  have hc := (h [.connect, .request 1 (.subscribe 7)]).consistent 2
  have hsubs := (hc.subscriptions 7 [1] (by decide)).1
  exact absurd hsubs (by decide)

/-! ## The server exits when it is left -/

/-- There were clients, and none is left. -/
def Abandoned (s : MuxServer) : Prop := s.hadClient = true ∧ s.connections.keys = ∅

/-- Without another client, the server gets to exit. -/
def CanExit (s : MuxServer) : Prop :=
  ∃ es, ServerEvent.connect ∉ es ∧ ∀ elapsed, 5000000000 ≤ elapsed → (run apply s es).shouldExit elapsed = true

/-- The last client is subscribed to every live pane when it leaves. -/
def LeavesNothing (s : MuxServer) : ServerEvent → Prop
  | .disconnect clientId => ∀ conn, s.connections.get clientId = some conn →
      (∀ c, (s.connections.get c).isSome → c = clientId) → s.panes ⊆ conn.subscribedPanes
  | _ => True

/-- What a loop over the connections keeps: who is connected, and whether anyone was. -/
structure SameClients (s s' : MuxServer) : Prop where
  connected : ∀ c, (s'.connections.get c).isSome = (s.connections.get c).isSome
  hadClient : s'.hadClient = s.hadClient

theorem SameClients.trans (h : s.SameClients s') (h' : s'.SameClients s'') : s.SameClients s'' :=
  ⟨fun c => (h'.connected c).trans (h.connected c), h'.hadClient.trans h.hadClient⟩

theorem SameClients.of_connections (hc : s'.connections = s.connections) (hh : s'.hadClient = s.hadClient) :
    s.SameClients s' := ⟨fun c => by rw [hc], hh⟩

theorem sameClients_foldl {ε : Type} {f : MuxServer → ε → MuxServer} (h : ∀ (s : MuxServer) (e : ε), s.SameClients (f s e))
    (s : MuxServer) (es : List ε) : s.SameClients (es.foldl f s) :=
  run_invariant (fun t e ht => ht.trans (h t e))
    (SameClients.of_connections rfl rfl) es

theorem sameClients_cleanupPaneState (s : MuxServer) (q : PaneId) : s.SameClients (s.cleanupPaneState q) := by
  refine ⟨fun c => ?_, rfl⟩
  unfold cleanupPaneState
  rw [Table.get_map, Option.isSome_map]

theorem sameClients_dropPane (s : MuxServer) (q : PaneId) : s.SameClients (s.dropPane q) := by
  refine SameClients.of_connections (connections_dropPane q) ?_
  unfold dropPane closePaneMux
  split <;> rfl

theorem sameClients_closeOrphan (clientId : ClientId) (s : MuxServer) (q : PaneId) :
    s.SameClients (s.closeOrphan clientId q) := by
  unfold closeOrphan
  dsimp only
  split
  · exact SameClients.of_connections rfl rfl
  · exact (sameClients_dropPane s q).trans (sameClients_cleanupPaneState _ q)

section

variable (s : MuxServer) (clientId : ClientId)

theorem sameClients_onConn (f : ClientConnection → ClientConnection) : s.SameClients (s.onConn clientId f) := by
  refine ⟨fun c => ?_, rfl⟩
  unfold MuxServer.onConn
  rw [Table.get_modify]
  split
  · next hc => rw [hc, Option.isSome_map]
  · rfl

theorem sameClients_syncSubscriptions : s.SameClients (s.syncSubscriptions clientId) := by
  refine SameClients.of_connections (connections_syncSubscriptions clientId) ?_
  unfold syncSubscriptions
  split <;> rfl

theorem sameClients_handleRequest (req : ClientRequest) : s.SameClients (s.handleRequest clientId req) := by
  cases req with
  | spawnPane spawned =>
    cases spawned with
    | false | true => exact SameClients.of_connections rfl rfl
  | closePane paneId => exact (sameClients_dropPane s paneId).trans (sameClients_cleanupPaneState _ paneId)
  | subscribe paneId =>
    refine ((sameClients_onConn s clientId (·.subscribe paneId)).trans ?_).trans (sameClients_syncSubscriptions _ clientId)
    split <;> exact SameClients.of_connections rfl rfl
  | unsubscribe paneId =>
    have hsynced : ∀ t u : MuxServer, s.SameClients t → u.connections = (t.syncSubscriptions clientId).connections →
        u.hadClient = (t.syncSubscriptions clientId).hadClient → s.SameClients u := fun t u ht hc hh =>
      (ht.trans (sameClients_syncSubscriptions t clientId)).trans (SameClients.of_connections hc hh)
    refine hsynced _ _ ?_ rfl rfl
    exact (sameClients_onConn s clientId (·.unsubscribe paneId)).trans (SameClients.of_connections rfl rfl)
  | getPaneSnapshot paneId acked =>
    unfold handleRequest
    dsimp only
    split <;> exact SameClients.of_connections rfl rfl
  | setCapabilities | setPanePriority => exact sameClients_onConn s clientId _
  | replyHostRequest requestId payload =>
    obtain ⟨replies, fulfilled, heq, -⟩ := replyHostRequest_eq s clientId requestId payload
    show s.SameClients (s.replyHostRequest clientId requestId payload)
    rw [heq]
    exact SameClients.of_connections rfl rfl
  | other => exact SameClients.of_connections rfl rfl

end

theorem SameTables.sameClients (h : s.SameTables s') : s.SameClients s' := .of_connections h.connections h.hadClient

theorem sameClients_pollEvent (s : MuxServer) (event : MuxEvent) : s.SameClients (s.pollEvent event) := by
  cases event with
  | paneOutput | hostRequest => exact SameClients.of_connections rfl rfl
  | paneExited paneId =>
    unfold pollEvent closePaneMux
    dsimp only
    split <;> exact SameClients.of_connections rfl rfl

theorem sameClients_drainMuxEvents (s : MuxServer) : s.SameClients (s.drainMuxEvents env queued events) :=
  drainMuxEvents_invariant (I := s.SameClients) (fun t event h => h.trans (sameClients_pollEvent t event))
    (fun _ h => h.trans (.of_connections rfl rfl)) (fun t p h => h.trans (sameTables_trailingFlushPane env t p).sameClients)
    (fun t n h => h.trans (sameTables_route env queued t n).sameClients)
    (fun t p h => h.trans (sameClients_cleanupPaneState t p)) (.of_connections rfl rfl) events

/-! ### The live panes -/

theorem panes_drainMuxEvents (s : MuxServer) : (s.drainMuxEvents env queued events).panes = s.panes := by
  refine drainMuxEvents_invariant (I := fun t : MuxServer => t.panes = s.panes) (fun t event h => ?_) (fun _ h => h)
    (fun t p h => (sameTables_trailingFlushPane env t p).panes.trans h)
    (fun t n h => (sameTables_route env queued t n).panes.trans h) (fun _ _ h => h) rfl events
  cases event with
  | paneOutput | hostRequest => exact h
  | paneExited paneId =>
    unfold pollEvent closePaneMux
    dsimp only
    split <;> exact h

theorem panes_closeOrphan_of_last (h : ∀ c p, s.Listed c p → c = clientId) {q : PaneId} :
    (s.closeOrphan clientId q).panes = s.panes.erase q := by
  have hother : ((s.subscriptions.get q).any fun subs => subs.any (· != clientId)) = false := by
    cases hsubs : s.subscriptions.get q with
    | none => rfl
    | some subs =>
      rw [Option.any_some, any_eq_false]
      intro c hc
      simp [h c q ⟨subs, hsubs, hc⟩]
  unfold closeOrphan
  rw [hother]
  exact panes_dropPane q

/-- A pane that the last client is subscribed to is closed with it; the others stay. -/
theorem panes_disconnectClient (hm : s.Mirrored none) (hconn : s.connections.get clientId = some conn)
    (hlast : ∀ c, (s.connections.get c).isSome → c = clientId) :
    (s.disconnectClient clientId).panes = s.panes \ conn.subscribedPanes := by
  have honly : ∀ c p, s.Listed c p → c = clientId := fun c p h => hlast c ((hm.mirror c p nofun).mp h).isSome
  -- no other client is listed, so every pane of the loop is closed
  have hfold : ∀ (qs : List PaneId) (t : MuxServer), (∀ c p, t.Listed c p → c = clientId) →
      (qs.foldl (closeOrphan clientId) t).panes = t.panes \ qs.toFinset := by
    intro qs
    induction qs with
    | nil => simp
    | cons q qs ih =>
      intro t ht
      rw [foldl_cons, ih _ fun c p h => ht c p (listed_closeOrphan h), panes_closeOrphan_of_last ht]
      ext p
      simp only [Finset.mem_sdiff, Finset.mem_erase, mem_toFinset, mem_cons]
      tauto
  unfold disconnectClient
  rw [hconn]
  have := hfold (conn.subscribedPanes.sort (· ≤ ·)) { s with connections := s.connections.erase clientId } honly
  rw [Finset.sort_toFinset] at this
  exact this

/-! ### Abandoned servers -/

theorem clients_disconnectClient (hconn : s.connections.get clientId = some conn) :
    ({ s with connections := s.connections.erase clientId } : MuxServer).SameClients (s.disconnectClient clientId) := by
  unfold disconnectClient
  rw [hconn]
  have hfold := sameClients_foldl (sameClients_closeOrphan clientId) { s with connections := s.connections.erase clientId }
    (conn.subscribedPanes.sort (· ≤ ·))
  exact ⟨hfold.connected, hfold.hadClient⟩

theorem abandoned_iff : s.Abandoned ↔ s.hadClient = true ∧ ∀ c, (s.connections.get c).isSome = false := by
  unfold Abandoned
  rw [Table.keys_eq_empty_iff]
  simp

theorem SameClients.abandoned_iff (h : s.SameClients s') : s'.Abandoned ↔ s.Abandoned := by
  rw [MuxServer.abandoned_iff, MuxServer.abandoned_iff, h.hadClient]
  simp [h.connected]

/-- Once abandoned, the server stays as it is until another client connects. -/
theorem Abandoned.apply (h : s.Abandoned) {e : ServerEvent} (he : e ≠ .connect) :
    (s.apply e).Abandoned ∧ (s.apply e).panes = s.panes := by
  have hnone : ∀ c, s.connections.get c = none := s.connections.keys_eq_empty_iff.mp h.2
  cases e with
  | connect => exact absurd rfl he
  | request clientId req =>
    unfold MuxServer.apply
    dsimp only
    rw [hnone]
    exact ⟨h, rfl⟩
  | disconnect clientId =>
    unfold MuxServer.apply disconnectClient
    dsimp only
    rw [hnone]
    exact ⟨h, rfl⟩
  | publish paneId =>
    unfold MuxServer.apply
    dsimp only
    split <;> exact ⟨h, rfl⟩
  | drain env queued events =>
    exact ⟨(sameClients_drainMuxEvents env queued events s).abandoned_iff.mpr h, panes_drainMuxEvents env queued events s⟩

theorem Abandoned.run (h : s.Abandoned) {es : List ServerEvent} (hes : ServerEvent.connect ∉ es) :
    (run MuxServer.apply s es).panes = s.panes := by
  induction es generalizing s with
  | nil => rfl
  | cons e es ih =>
    obtain ⟨he, hes⟩ := not_or.mp (mt mem_cons.mpr hes)
    obtain ⟨ha, hpanes⟩ := h.apply (Ne.symm he)
    exact (ih ha hes).trans hpanes

/-- **An abandoned server that still has a pane never exits.** -/
theorem Abandoned.canExit_iff (h : s.Abandoned) : s.CanExit ↔ s.panes = ∅ := by
  constructor
  · rintro ⟨es, hes, hexit⟩
    have := hexit 5000000000 (Nat.le_refl _)
    unfold shouldExit at this
    rw [if_neg (Nat.lt_irrefl _)] at this
    split at this
    · cases this
    · rw [Bool.and_eq_true, decide_eq_true_iff, decide_eq_true_iff, h.run hes] at this
      exact this.2
  · intro hpanes
    refine ⟨[], not_mem_nil, fun elapsed helapsed => ?_⟩
    show s.shouldExit elapsed = true
    unfold shouldExit
    rw [if_neg (Nat.not_lt.mpr helapsed), h.1, h.2, hpanes]
    rfl

/-! ### Every run -/

/-- A connection implies that there was a client. -/
structure Accounted (s : MuxServer) : Prop where
  mirrored : s.Mirrored none
  hadClient : ∀ c, (s.connections.get c).isSome → s.hadClient = true

theorem Accounted.of_sameClients (h : s.Accounted) (hm : s'.Mirrored none) (hc : s.SameClients s') : s'.Accounted :=
  ⟨hm, fun c hs => hc.hadClient ▸ h.hadClient c (hc.connected c ▸ hs)⟩

theorem sameClients_publish (s : MuxServer) (paneId : PaneId) : s.SameClients (s.apply (.publish paneId)) := by
  unfold MuxServer.apply
  dsimp only
  split <;> exact SameClients.of_connections rfl rfl

theorem Accounted.apply (h : s.Accounted) (e : ServerEvent) : (s.apply e).Accounted := by
  have hm := h.mirrored.apply e
  cases e with
  | connect => exact ⟨hm, fun _ _ => rfl⟩
  | request clientId req =>
    refine h.of_sameClients hm ?_
    unfold MuxServer.apply
    dsimp only
    split
    · exact sameClients_handleRequest s clientId req
    · exact SameClients.of_connections rfl rfl
  | disconnect clientId =>
    cases hconn : s.connections.get clientId with
    | none =>
      refine h.of_sameClients hm ?_
      unfold MuxServer.apply disconnectClient
      dsimp only
      rw [hconn]
      exact SameClients.of_connections rfl rfl
    | some conn =>
      have hsame := clients_disconnectClient hconn
      refine ⟨hm, fun c hc => hsame.hadClient.trans (h.hadClient clientId (by rw [hconn]; rfl))⟩
  | publish paneId => exact h.of_sameClients hm (sameClients_publish s paneId)
  | drain env queued events => exact h.of_sameClients hm (sameClients_drainMuxEvents env queued events s)

theorem accounted_new : new.Accounted := ⟨mirrored_new, fun c h => by cases h⟩

theorem accounted_run : (run MuxServer.apply new es).Accounted :=
  run_invariant (fun _ e h => h.apply e) accounted_new es

/-- The panes are gone when the clients are. -/
def LeftEmpty (s : MuxServer) : Prop := s.Abandoned → s.panes = ∅

theorem leftEmpty_of_connected {c : ClientId} (h : (s.connections.get c).isSome) : s.LeftEmpty := by
  intro ha
  rw [(abandoned_iff.mp ha).2 c] at h
  cases h

theorem leftEmpty_disconnect_iff (h : s.Accounted) (hconn : s.connections.get clientId = some conn) :
    (s.disconnectClient clientId).LeftEmpty ↔
      ((∀ c, (s.connections.get c).isSome → c = clientId) → s.panes ⊆ conn.subscribedPanes) := by
  have hsame := clients_disconnectClient hconn
  by_cases hlast : ∀ c, (s.connections.get c).isSome → c = clientId
  · have ha : (s.disconnectClient clientId).Abandoned := by
      refine abandoned_iff.mpr ⟨hsame.hadClient.trans (h.hadClient clientId (by rw [hconn]; rfl)), fun c => ?_⟩
      rw [hsame.connected, Table.get_erase]
      split
      · rfl
      · next hc => exact Bool.eq_false_iff.mpr fun hs => hc (hlast c hs)
    unfold LeftEmpty
    rw [panes_disconnectClient h.mirrored hconn hlast, Finset.sdiff_eq_empty_iff_subset]
    exact ⟨fun h _ => h ha, fun h _ => h hlast⟩
  · refine iff_of_true ?_ fun h => absurd h hlast
    obtain ⟨c, hc⟩ := not_forall.mp hlast
    obtain ⟨hc, hne⟩ := Classical.not_imp.mp hc
    refine leftEmpty_of_connected (c := c) ?_
    rw [hsame.connected, Table.get_erase, if_neg hne]
    exact hc

theorem leftEmpty_apply_iff (h : s.Accounted) (hl : s.LeftEmpty) (e : ServerEvent) :
    (s.apply e).LeftEmpty ↔ LeavesNothing s e := by
  cases e with
  | connect =>
    refine iff_of_true (leftEmpty_of_connected (c := s.clientAlloc) ?_) trivial
    show ((s.connections.insert s.clientAlloc {}).get s.clientAlloc).isSome = true
    rw [Table.get_insert, if_pos rfl]
    rfl
  | request clientId req =>
    refine iff_of_true ?_ trivial
    unfold MuxServer.apply
    dsimp only
    split
    · next hconn => exact leftEmpty_of_connected (((sameClients_handleRequest s clientId req).connected clientId).trans hconn)
    · exact hl
  | disconnect clientId =>
    cases hconn : s.connections.get clientId with
    | none =>
      refine iff_of_true ?_ fun conn hconn' => ?_
      · unfold MuxServer.apply disconnectClient
        dsimp only
        rw [hconn]
        exact hl
      · rw [hconn] at hconn'
        cases hconn'
    | some conn =>
      refine (leftEmpty_disconnect_iff h hconn).trans ?_
      exact ⟨fun h conn' heq => Option.some.inj (hconn.symm.trans heq) ▸ h, fun h => h conn hconn⟩
  | publish paneId =>
    refine iff_of_true (fun ha => ?_) trivial
    have ha := (sameClients_publish s paneId).abandoned_iff.mp ha
    rw [(ha.apply (e := .publish paneId) nofun).2]
    exact hl ha
  | drain env queued events =>
    refine iff_of_true (fun ha => ?_) trivial
    have ha := (sameClients_drainMuxEvents env queued events s).abandoned_iff.mp ha
    rw [(ha.apply (e := .drain env queued events) nofun).2]
    exact hl ha

/-- **The server gets to exit whenever it is abandoned, exactly when each last client leaves nothing behind.** -/
theorem exits_run_iff :
    (∀ n, (run apply new (es.take n)).Abandoned → (run apply new (es.take n)).CanExit) ↔
      Along apply LeavesNothing new es := by
  have hiff : (∀ n, (run apply new (es.take n)).LeftEmpty) ↔ Along apply LeavesNothing new es :=
    along_iff_forall_take (K := Accounted) (fun s e h hl => ⟨h.apply e, leftEmpty_apply_iff h hl e⟩)
      accounted_new (fun _ => rfl)
  rw [← hiff]
  exact forall_congr' fun n => ⟨fun h ha => ha.canExit_iff.mp (h ha), fun h ha => ha.canExit_iff.mpr (h ha)⟩

/-- A pane that was spawned and never subscribed to keeps the server running. -/
theorem spawned_pane_stays : ¬ ∀ es, (run apply new es).Abandoned → (run apply new es).CanExit := by
  intro h
  have hspawned := accounted_run [.connect, .request 1 (.spawnPane true)]
  have hconn : (run apply new [.connect, .request 1 (.spawnPane true)]).connections.get 1 = some {} := rfl
  have hleft : (run apply new [.connect, .request 1 (.spawnPane true), .disconnect 1]).LeftEmpty :=
    fun ha => ha.canExit_iff.mp (h _ ha)
  have hsub := (leftEmpty_disconnect_iff hspawned hconn).mp hleft fun c hc => ?_
  · exact absurd hsub (by decide)
  · have hc : (if c = 1 then some {} else none : Option ClientConnection).isSome = true := hc
    split at hc
    · assumption
    · cases hc

end MuxServer

end OriTerm
