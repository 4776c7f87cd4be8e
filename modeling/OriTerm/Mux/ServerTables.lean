import OriTerm.Mux.Server

/-!
# `Mux.ServerTables` — the tables of the server agree

`Mirrored` is what the event loop keeps in any case: the global map of subscriptions and the connections' own sets
are two views of one relation, and what is deferred or awaited belongs to a subscriber. There is a lemma for each
operation on the tables, then one for each request, each push and each event.

A client that leaves is taken out of the connections first and out of the tables last, and a client that changes its
subscriptions is ahead of the global map for a while, so the relation is stated up to a client `leaving`.

* **`mirrored_run`** — the two views agree in every run.
-/

namespace OriTerm

open Lib List Option

namespace MuxServer

variable {s s' : MuxServer} {leaving : Option ClientId}

variable {c : ClientId}

variable {p paneId : PaneId}

/-! ## The relation -/

/-- `subscriptions[paneId]` contains the client. -/
def Listed (s : MuxServer) (clientId : ClientId) (paneId : PaneId) : Prop :=
  ∃ subs, s.subscriptions.get paneId = some subs ∧ clientId ∈ subs

/-- `connections[clientId].subscribed_panes` contains the pane. -/
def Subscribed (s : MuxServer) (clientId : ClientId) (paneId : PaneId) : Prop :=
  ∃ conn, s.connections.get clientId = some conn ∧ paneId ∈ conn.subscribedPanes

/-- The tables agree, but for a client that is leaving. -/
structure Mirrored (s : MuxServer) (leaving : Option ClientId) : Prop where
  mirror : ∀ c p, some c ≠ leaving → (s.Listed c p ↔ s.Subscribed c p)
  fresh : ∀ c, (s.connections.get c).isSome → c < s.clientAlloc
  push : ∀ p d, s.pendingPush.get p = some d → ∀ c ∈ d, some c ≠ leaving → s.Listed c p
  reply : ∀ id r, s.pendingHostReplies.get id = some r → some r.responder ≠ leaving → s.Listed r.responder r.paneId
  /-- A list of subscribers is not empty. -/
  inhabited : ∀ p, s.subscriptions.get p ≠ some []

theorem mirrored_new : new.Mirrored none where
  mirror c p _ := by
    constructor
    · rintro ⟨subs, h, -⟩
      cases h
    · rintro ⟨conn, h, -⟩
      cases h
  fresh c h := by cases h
  push p d h := by cases h
  reply id r h := by cases h
  inhabited p h := by cases h

/-! ### One table changes -/

/-- A step that leaves the tables alone. -/
theorem Mirrored.of_tables (h : s.Mirrored leaving) (hc : s'.connections = s.connections)
    (hs : s'.subscriptions = s.subscriptions) (hp : s'.pendingPush = s.pendingPush)
    (hr : s'.pendingHostReplies = s.pendingHostReplies) (ha : s'.clientAlloc = s.clientAlloc) : s'.Mirrored leaving := by
  obtain ⟨hmirror, hfresh, hpush, hreply, hinhabited⟩ := h
  refine ⟨?_, ?_, ?_, ?_, ?_⟩
  · unfold Listed Subscribed at hmirror ⊢
    rwa [hc, hs]
  · rwa [hc, ha]
  · unfold Listed at hpush ⊢
    rwa [hp, hs]
  · unfold Listed at hreply ⊢
    rwa [hr, hs]
  · rwa [hs]

/-- Deferring subscribers. -/
theorem Mirrored.deferPush (h : s.Mirrored leaving) {f : Option (Finset ClientId) → Option (Finset ClientId)}
    (hf : ∀ d, f (s.pendingPush.get paneId) = some d → ∀ c ∈ d,
      (∃ d', s.pendingPush.get paneId = some d' ∧ c ∈ d') ∨ s.Listed c paneId) :
    { s with pendingPush := s.pendingPush.alter paneId f }.Mirrored leaving := by
  refine ⟨h.mirror, h.fresh, fun p d hd c hc hne => ?_, h.reply, h.inhabited⟩
  rw [Table.get_alter] at hd
  split at hd
  · next hp =>
    subst hp
    rcases hf d hd c hc with ⟨d', hd', hc'⟩ | hlisted
    · exact h.push p d' hd' c hc' hne
    · exact hlisted
  · exact h.push p d hd c hc hne

/-! ### Closing a pane -/

theorem listed_cleanupPaneState {q : PaneId} : (s.cleanupPaneState q).Listed c p ↔ p ≠ q ∧ s.Listed c p := by
  unfold Listed cleanupPaneState
  rw [Table.get_erase]
  split
  · next hp => simp [hp]
  · next hp => simp [hp]

theorem subscribed_cleanupPaneState {q : PaneId} :
    (s.cleanupPaneState q).Subscribed c p ↔ p ≠ q ∧ s.Subscribed c p := by
  unfold Subscribed cleanupPaneState
  rw [Table.get_map]
  cases s.connections.get c with
  | none => simp
  | some conn => simp [ClientConnection.unsubscribe]

section

variable (h : s.Mirrored leaving) (q : PaneId)
include h

theorem Mirrored.cleanupPaneState : (s.cleanupPaneState q).Mirrored leaving := by
  refine ⟨fun c p hne => ?_, fun c hc => h.fresh c ?_, fun p d hd c hc hne => ?_, fun id r hr hne => ?_, fun p hp => ?_⟩
  · rw [listed_cleanupPaneState, subscribed_cleanupPaneState, h.mirror c p hne]
  · unfold MuxServer.cleanupPaneState at hc
    rw [Table.get_map, isSome_map] at hc
    exact hc
  · unfold MuxServer.cleanupPaneState at hd
    rw [Table.get_erase] at hd
    split at hd
    · cases hd
    · next hp => exact listed_cleanupPaneState.mpr ⟨hp, h.push p d hd c hc hne⟩
  · unfold MuxServer.cleanupPaneState at hr
    rw [Table.get_retain, filter_eq_some_iff] at hr
    exact listed_cleanupPaneState.mpr ⟨by simpa using hr.2, h.reply id r hr.1 hne⟩
  · unfold MuxServer.cleanupPaneState at hp
    rw [Table.get_erase] at hp
    split at hp
    · cases hp
    · exact h.inhabited p hp

theorem Mirrored.closePaneMux : (s.closePaneMux q).Mirrored leaving := by
  unfold MuxServer.closePaneMux
  split
  · exact h.of_tables rfl rfl rfl rfl rfl
  · exact h

/-- The pane goes, and everything that refers to it. -/
theorem Mirrored.removePane : ((s.dropPane q).cleanupPaneState q).Mirrored leaving := by
  have hdrop : (s.dropPane q).Mirrored leaving := (h.closePaneMux q).of_tables rfl rfl rfl rfl rfl
  exact hdrop.cleanupPaneState q

end

theorem Mirrored.closeOrphan (h : s.Mirrored leaving) (clientId : ClientId) (q : PaneId) :
    (s.closeOrphan clientId q).Mirrored leaving := by
  unfold MuxServer.closeOrphan
  dsimp only
  split
  · exact h
  · exact h.removePane q

/-! ### Connections -/

theorem Mirrored.connect (h : s.Mirrored none) : s.connect.Mirrored none := by
  have hnone : s.connections.get s.clientAlloc = none := by
    cases hget : s.connections.get s.clientAlloc with
    | none => rfl
    | some conn => exact absurd (h.fresh s.clientAlloc (by rw [hget]; rfl)) (Nat.lt_irrefl _)
  refine ⟨fun c p hne => ?_, fun c hc => ?_, h.push, h.reply, h.inhabited⟩
  · have hlisted : s.connect.Listed c p ↔ s.Listed c p := Iff.rfl
    rw [hlisted, h.mirror c p hne]
    unfold Subscribed MuxServer.connect
    rw [Table.get_insert]
    split
    · next hc =>
      subst hc
      simp [hnone]
    · rfl
  · unfold MuxServer.connect at hc ⊢
    rw [Table.get_insert] at hc
    split at hc
    · next hc' => exact hc' ▸ Nat.lt_succ_self _
    · exact Nat.lt_succ_of_lt (h.fresh c hc)

variable {clientId : ClientId}

/-- Changing the connection without its subscriptions. -/
theorem Mirrored.onConn (h : s.Mirrored leaving) {f : ClientConnection → ClientConnection}
    (hf : ∀ conn, (f conn).subscribedPanes = conn.subscribedPanes) : (s.onConn clientId f).Mirrored leaving := by
  refine ⟨fun c p hne => ?_, fun c hc => h.fresh c ?_, h.push, h.reply, h.inhabited⟩
  · have hlisted : (s.onConn clientId f).Listed c p ↔ s.Listed c p := Iff.rfl
    rw [hlisted, h.mirror c p hne]
    unfold Subscribed MuxServer.onConn
    rw [Table.get_modify]
    split
    · next hc =>
      subst hc
      cases s.connections.get c with
      | none => simp
      | some conn => simp [hf]
    · rfl
  · unfold MuxServer.onConn at hc
    rw [Table.get_modify] at hc
    split at hc
    · next hc' =>
      subst hc'
      rwa [isSome_map] at hc
    · exact hc

variable {conn : ClientConnection}

/-- The global map follows the connection. -/
theorem listed_syncSubscriptions (hconn : s.connections.get clientId = some conn) :
    (s.syncSubscriptions clientId).Listed c p ↔ if c = clientId then p ∈ conn.subscribedPanes else s.Listed c p := by
  unfold Listed syncSubscriptions
  rw [hconn]
  rw [Table.get_filterMap, Table.get_alterAll]
  by_cases hp : p ∈ conn.subscribedPanes
  · rw [if_pos hp, bind_some, if_pos hp]
    by_cases hmem : clientId ∈ (s.subscriptions.get p).getD []
    · rw [if_pos hmem]
      cases hsubs : s.subscriptions.get p with
      | none => simp [hsubs] at hmem
      | some subs =>
        rw [hsubs, getD_some] at hmem
        have hne : subs.isEmpty = false := isEmpty_eq_false_iff.mpr (ne_nil_of_mem hmem)
        by_cases hc : c = clientId
        · simp [hc, hne, hp, hmem]
        · simp [hc, hne]
    · rw [if_neg hmem]
      by_cases hc : c = clientId
      · simp [hc, hp]
      · cases s.subscriptions.get p <;> simp [hc]
  · rw [if_neg hp]
    by_cases hc : c = clientId
    · cases s.subscriptions.get p <;> simp [hc, hp]
    · cases hsubs : s.subscriptions.get p with
      | none => simp [hc]
      | some subs =>
        rw [bind_some, if_neg hp]
        simp only [some.injEq, exists_eq_left']
        split
        · next hempty =>
          rw [List.isEmpty_iff, List.filter_eq_nil_iff] at hempty
          constructor
          · rintro ⟨subs', h, -⟩
            cases h
          · intro hmem
            exact absurd (hempty c hmem) (by simp [hc])
        · simp [hc]

theorem inhabited_syncSubscriptions (clientId : ClientId) (h : ∀ p, s.subscriptions.get p ≠ some []) (p : PaneId) :
    (s.syncSubscriptions clientId).subscriptions.get p ≠ some [] := by
  unfold syncSubscriptions
  cases s.connections.get clientId with
  | none => exact h p
  | some conn =>
    dsimp only
    rw [Table.get_filterMap]
    intro hp
    obtain ⟨subs, -, hsubs⟩ := bind_eq_some_iff.mp hp
    generalize (if p ∈ conn.subscribedPanes then subs else subs.filter (· != clientId)) = subs' at hsubs
    split at hsubs
    · cases hsubs
    · next hne => exact hne (by rw [some.inj hsubs]; rfl)

/-! ### A client changes its subscriptions -/

theorem Mirrored.weaken (h : s.Mirrored none) (leaving : Option ClientId) : s.Mirrored leaving :=
  ⟨fun c p _ => h.mirror c p nofun, h.fresh, fun p d hd c hc _ => h.push p d hd c hc nofun,
    fun id r hr _ => h.reply id r hr nofun, h.inhabited⟩

/-- The client is settled again. -/
theorem Mirrored.settle (h : s.Mirrored (some clientId)) (hmirror : ∀ p, s.Listed clientId p ↔ s.Subscribed clientId p)
    (hpush : ∀ p d, s.pendingPush.get p = some d → clientId ∈ d → s.Listed clientId p)
    (hreply : ∀ id r, s.pendingHostReplies.get id = some r → r.responder = clientId → s.Listed clientId r.paneId) :
    s.Mirrored none := by
  refine ⟨fun c p _ => ?_, h.fresh, fun p d hd c hc _ => ?_, fun id r hr _ => ?_, h.inhabited⟩
  · by_cases hc : c = clientId
    · exact hc ▸ hmirror p
    · exact h.mirror c p fun he => hc (some.inj he)
  · by_cases hcc : c = clientId
    · subst hcc
      exact hpush p d hd hc
    · exact h.push p d hd c hc fun he => hcc (some.inj he)
  · by_cases hc : r.responder = clientId
    · exact hc ▸ hreply id r hr hc
    · exact h.reply id r hr fun he => hc (some.inj he)

/-- Any change of its own connection unsettles only the client. -/
theorem Mirrored.onConn_self (h : s.Mirrored (some clientId)) (f : ClientConnection → ClientConnection) :
    (s.onConn clientId f).Mirrored (some clientId) := by
  refine ⟨fun c p hne => ?_, fun c hc => h.fresh c ?_, h.push, h.reply, h.inhabited⟩
  · have hc : c ≠ clientId := fun hc => hne (congrArg some hc)
    have hlisted : (s.onConn clientId f).Listed c p ↔ s.Listed c p := Iff.rfl
    rw [hlisted, h.mirror c p hne]
    unfold Subscribed MuxServer.onConn
    rw [Table.get_modify, if_neg hc]
  · unfold MuxServer.onConn at hc
    rw [Table.get_modify] at hc
    split at hc
    · next hc' =>
      subst hc'
      rwa [isSome_map] at hc
    · exact hc

/-- Fewer replies are awaited. -/
theorem Mirrored.fewerReplies (h : s.Mirrored leaving) {replies : Table HostRequestId PendingHostReply}
    (hle : ∀ id r, replies.get id = some r → s.pendingHostReplies.get id = some r) :
    { s with pendingHostReplies := replies }.Mirrored leaving :=
  ⟨h.mirror, h.fresh, h.push, fun id r hr hne => h.reply id r (hle id r hr) hne, h.inhabited⟩

theorem connections_syncSubscriptions (clientId : ClientId) : (s.syncSubscriptions clientId).connections = s.connections := by
  unfold syncSubscriptions
  split <;> rfl

theorem pendingPush_syncSubscriptions (clientId : ClientId) : (s.syncSubscriptions clientId).pendingPush = s.pendingPush := by
  unfold syncSubscriptions
  split <;> rfl

theorem pendingHostReplies_syncSubscriptions (clientId : ClientId) :
    (s.syncSubscriptions clientId).pendingHostReplies = s.pendingHostReplies := by
  unfold syncSubscriptions
  split <;> rfl

section

variable (h : s.Mirrored (some clientId)) (hconn : s.connections.get clientId = some conn)
include h hconn

theorem Mirrored.syncSubscriptions : (s.syncSubscriptions clientId).Mirrored (some clientId) := by
  have hother : ∀ c p, some c ≠ some clientId → ((s.syncSubscriptions clientId).Listed c p ↔ s.Listed c p) := by
    intro c p hne
    rw [listed_syncSubscriptions hconn, if_neg fun hc => hne (congrArg some hc)]
  have halloc : (s.syncSubscriptions clientId).clientAlloc = s.clientAlloc := by
    unfold MuxServer.syncSubscriptions
    split <;> rfl
  refine ⟨fun c p hne => ?_, ?_, fun p d hd c hc hne => ?_, fun id r hr hne => ?_,
    inhabited_syncSubscriptions clientId h.inhabited⟩
  · rw [hother c p hne, h.mirror c p hne]
    unfold Subscribed
    rw [connections_syncSubscriptions]
  · rw [connections_syncSubscriptions, halloc]
    exact h.fresh
  · rw [pendingPush_syncSubscriptions] at hd
    exact (hother c p hne).mpr (h.push p d hd c hc hne)
  · rw [pendingHostReplies_syncSubscriptions] at hr
    exact (hother _ _ hne).mpr (h.reply id r hr hne)

/-- The client is settled when its deferred pushes and awaited replies are of panes that it is subscribed to. -/
theorem Mirrored.syncSubscriptions_settle
    (hpush : ∀ p d, s.pendingPush.get p = some d → clientId ∈ d → p ∈ conn.subscribedPanes)
    (hreply : ∀ id r, s.pendingHostReplies.get id = some r → r.responder = clientId → r.paneId ∈ conn.subscribedPanes) :
    (s.syncSubscriptions clientId).Mirrored none := by
  have hlisted : ∀ p, (s.syncSubscriptions clientId).Listed clientId p ↔ p ∈ conn.subscribedPanes := by
    intro p
    rw [listed_syncSubscriptions hconn, if_pos rfl]
  refine (h.syncSubscriptions hconn).settle (fun p => ?_) (fun p d hd hc => ?_) fun id r hr hc => ?_
  · rw [hlisted]
    unfold Subscribed
    rw [connections_syncSubscriptions, hconn]
    simp
  · rw [pendingPush_syncSubscriptions] at hd
    exact (hlisted p).mpr (hpush p d hd hc)
  · rw [pendingHostReplies_syncSubscriptions] at hr
    exact (hlisted r.paneId).mpr (hreply id r hr hc)

end

/-! ### Disconnecting -/

theorem listed_closeOrphan {q : PaneId} (h : (s.closeOrphan clientId q).Listed c p) : s.Listed c p := by
  unfold MuxServer.closeOrphan at h
  dsimp only at h
  split at h
  · exact h
  · have hdrop : (s.dropPane q).Listed c p ↔ s.Listed c p := by
      unfold dropPane closePaneMux Listed
      split <;> rfl
    exact hdrop.mp (listed_cleanupPaneState.mp h).2

theorem connections_dropPane (q : PaneId) : (s.dropPane q).connections = s.connections := by
  unfold dropPane closePaneMux
  split <;> rfl

theorem isSome_connections_closeOrphan (clientId : ClientId) (q : PaneId) (c : ClientId) :
    ((s.closeOrphan clientId q).connections.get c).isSome = (s.connections.get c).isSome := by
  unfold MuxServer.closeOrphan
  dsimp only
  split
  · rfl
  · unfold MuxServer.cleanupPaneState
    rw [Table.get_map, isSome_map, connections_dropPane]

theorem listed_removeClientSubscriptions {ps : Finset PaneId} :
    (s.removeClientSubscriptions clientId ps).Listed c p ↔ s.Listed c p ∧ ¬ (c = clientId ∧ p ∈ ps) := by
  unfold Listed removeClientSubscriptions withoutClient
  rw [Table.get_alterAll]
  split
  · next hp =>
    cases s.subscriptions.get p with
    | none => simp
    | some subs =>
      rw [map_some, filter_some]
      simp only [some.injEq, exists_eq_left', hp, and_true]
      split
      · simp
      · next hempty =>
        rw [Bool.not_eq_true', Bool.not_eq_false, List.isEmpty_iff, List.filter_eq_nil_iff] at hempty
        constructor
        · rintro ⟨subs', h, -⟩
          cases h
        · rintro ⟨hmem, hne⟩
          exact absurd (hempty c hmem) (by simp [hne])
  · next hp => simp [hp]

theorem inhabited_removeClientSubscriptions (clientId : ClientId) (ps : Finset PaneId)
    (h : ∀ p, s.subscriptions.get p ≠ some []) (p : PaneId) :
    (s.removeClientSubscriptions clientId ps).subscriptions.get p ≠ some [] := by
  unfold removeClientSubscriptions withoutClient
  rw [Table.get_alterAll]
  split
  · intro hp
    rw [filter_eq_some_iff] at hp
    exact absurd hp.2 (by simp)
  · exact h p

/-- A client that was taken out of the connections, and was subscribed to the panes `ps`. -/
structure Left (s : MuxServer) (clientId : ClientId) (ps : Finset PaneId) : Prop where
  mirrored : s.Mirrored (some clientId)
  disconnected : (s.connections.get clientId).isSome = false
  listed : ∀ p, s.Listed clientId p → p ∈ ps

theorem left_closeOrphans {ps : Finset PaneId} (h : s.Left clientId ps) (qs : List PaneId) :
    (qs.foldl (MuxServer.closeOrphan clientId) s).Left clientId ps := by
  have hstep : ∀ (s : MuxServer) (q : PaneId), s.Left clientId ps → (s.closeOrphan clientId q).Left clientId ps := by
    intro s q h
    refine ⟨h.mirrored.closeOrphan clientId q, ?_, fun p hp => h.listed p (listed_closeOrphan hp)⟩
    rw [isSome_connections_closeOrphan]
    exact h.disconnected
  exact run_invariant hstep h qs

/-- The connection goes first. -/
theorem Mirrored.leave (h : s.Mirrored none) (clientId : ClientId) :
    ({ s with connections := s.connections.erase clientId } : MuxServer).Mirrored (some clientId) := by
  refine ⟨fun c p hne => ?_, fun c hc => h.fresh c ?_, fun p d hd c hc _ => h.push p d hd c hc nofun,
    fun id r hr _ => h.reply id r hr nofun, h.inhabited⟩
  · have hc : c ≠ clientId := fun hc => hne (congrArg some hc)
    refine (h.mirror c p nofun).trans ?_
    unfold Subscribed
    rw [Table.get_erase, if_neg hc]
  · rw [Table.get_erase] at hc
    split at hc
    · cases hc
    · exact hc

/-- **A disconnect takes the client out of every table.** -/
theorem Mirrored.disconnectClient (h : s.Mirrored none) (clientId : ClientId) : (s.disconnectClient clientId).Mirrored none := by
  unfold MuxServer.disconnectClient
  split
  · exact h
  · next conn hconn =>
    dsimp only
    have hown : ∀ p, s.Listed clientId p → p ∈ conn.subscribedPanes := by
      intro p hp
      obtain ⟨conn', hconn', hp⟩ := (h.mirror clientId p nofun).mp hp
      rw [hconn] at hconn'
      exact some.inj hconn' ▸ hp
    have hfold := left_closeOrphans ⟨h.leave clientId, by rw [Table.get_erase, if_pos rfl]; rfl, hown⟩
      (conn.subscribedPanes.sort (· ≤ ·))
    generalize (conn.subscribedPanes.sort (· ≤ ·)).foldl (MuxServer.closeOrphan clientId)
      { s with connections := s.connections.erase clientId } = t at hfold
    obtain ⟨hm, hnone, hgone⟩ := hfold
    refine ⟨fun c p _ => ?_, hm.fresh, fun p d hd c hc _ => ?_, fun id r hr _ => ?_,
      fun p => inhabited_removeClientSubscriptions clientId _ hm.inhabited p⟩
    · refine listed_removeClientSubscriptions.trans ?_
      show _ ↔ t.Subscribed c p
      by_cases hc : c = clientId
      · subst hc
        constructor
        · rintro ⟨hl, hne⟩
          exact absurd ⟨rfl, hgone p hl⟩ hne
        · rintro ⟨conn', hconn', -⟩
          rw [hconn'] at hnone
          cases hnone
      · rw [hm.mirror c p fun h => hc (some.inj h)]
        simp [hc]
    · rw [Table.get_filterMap] at hd
      obtain ⟨d', hd', hdd⟩ := bind_eq_some_iff.mp hd
      split at hdd
      · cases hdd
      · obtain rfl := some.inj hdd
        obtain ⟨hcc, hmem⟩ := Finset.mem_erase.mp hc
        exact listed_removeClientSubscriptions.mpr
          ⟨hm.push p d' hd' c hmem fun h => hcc (some.inj h), fun h => hcc h.1⟩
    · rw [Table.get_retain, filter_eq_some_iff] at hr
      have hne : r.responder ≠ clientId := by simpa using hr.2
      exact listed_removeClientSubscriptions.mpr
        ⟨hm.reply id r hr.1 fun h => hne (some.inj h), fun h => hne h.1⟩

/-! ### Requests -/

theorem Mirrored.buildAndTake (h : s.Mirrored leaving) (clientId : ClientId) (paneId : PaneId) :
    (s.buildAndTake clientId paneId).Mirrored leaving := h.of_tables rfl rfl rfl rfl rfl

section

variable (h : s.Mirrored none) (hconn : s.connections.get clientId = some conn) (paneId : PaneId)
include h hconn

theorem Mirrored.subscribe : (s.handleRequest clientId (.subscribe paneId)).Mirrored none := by
  unfold handleRequest
  dsimp only
  have hself := (h.weaken (some clientId)).onConn_self (·.subscribe paneId)
  have hconn' : (s.onConn clientId (·.subscribe paneId)).connections.get clientId = some (conn.subscribe paneId) := by
    unfold MuxServer.onConn
    rw [Table.get_modify, if_pos rfl, hconn]
    rfl
  have hpush : ∀ p d, (s.onConn clientId (·.subscribe paneId)).pendingPush.get p = some d → clientId ∈ d →
      p ∈ (conn.subscribe paneId).subscribedPanes := by
    intro p d hd hc
    obtain ⟨conn', hconn', hp⟩ := (h.mirror clientId p nofun).mp (h.push p d hd clientId hc nofun)
    rw [hconn] at hconn'
    exact Finset.mem_insert_of_mem (some.inj hconn' ▸ hp)
  have hreply : ∀ id r, (s.onConn clientId (·.subscribe paneId)).pendingHostReplies.get id = some r →
      r.responder = clientId → r.paneId ∈ (conn.subscribe paneId).subscribedPanes := by
    intro id r hr hc
    obtain ⟨conn', hconn', hp⟩ := (h.mirror r.responder r.paneId nofun).mp (h.reply id r hr nofun)
    rw [hc, hconn] at hconn'
    exact Finset.mem_insert_of_mem (some.inj hconn' ▸ hp)
  generalize s.onConn clientId (·.subscribe paneId) = s₁ at hself hconn' hpush hreply
  -- a snapshot is built only for a live pane, and touches none of the tables
  have htaken : ∃ s₂, (if paneId ∈ s₁.panes then s₁.buildAndTake clientId paneId else s₁) = s₂ ∧
      s₂.Mirrored (some clientId) ∧ s₂.connections = s₁.connections ∧ s₂.pendingPush = s₁.pendingPush ∧
      s₂.pendingHostReplies = s₁.pendingHostReplies := by
    refine ⟨_, rfl, ?_⟩
    split
    · exact ⟨hself.buildAndTake clientId paneId, rfl, rfl, rfl⟩
    · exact ⟨hself, rfl, rfl, rfl⟩
  obtain ⟨s₂, heq, hm, hconns, hpushes, hreplies⟩ := htaken
  rw [heq]
  rw [← hconns] at hconn'
  rw [← hpushes] at hpush
  rw [← hreplies] at hreply
  exact hm.syncSubscriptions_settle hconn' hpush hreply

theorem Mirrored.unsubscribe : (s.handleRequest clientId (.unsubscribe paneId)).Mirrored none := by
  unfold handleRequest
  dsimp only
  -- the map of deferred pushes is pruned last, but nothing before reads it
  have hprune : ∀ (t : MuxServer) (f : Option (Finset ClientId) → Option (Finset ClientId)),
      { t.syncSubscriptions clientId with pendingPush := (t.syncSubscriptions clientId).pendingPush.alter paneId f } =
        { t with pendingPush := t.pendingPush.alter paneId f }.syncSubscriptions clientId := by
    intro t f
    unfold MuxServer.syncSubscriptions
    cases t.connections.get clientId <;> rfl
  rw [hprune]
  have hself := (h.weaken (some clientId)).onConn_self (·.unsubscribe paneId)
  have hsubscribed : ∀ p, s.Listed clientId p → p ∈ conn.subscribedPanes := by
    intro p hp
    obtain ⟨conn', hconn', hp⟩ := (h.mirror clientId p nofun).mp hp
    rw [hconn] at hconn'
    exact some.inj hconn' ▸ hp
  have hle : ∀ id r, (s.pendingHostReplies.retain fun _ r => !(r.paneId == paneId && r.responder == clientId)).get id = some r →
      s.pendingHostReplies.get id = some r ∧ ¬ (r.paneId = paneId ∧ r.responder = clientId) := by
    intro id r hr
    rw [Table.get_retain, filter_eq_some_iff] at hr
    exact ⟨hr.1, not_and_or.mpr (by simpa using hr.2)⟩
  have hlater : ∀ p d, (s.pendingPush.alter paneId fun deferred =>
      (deferred.map (·.erase clientId)).filter fun d => d != ∅).get p = some d → ∃ d', s.pendingPush.get p = some d' ∧
      d ⊆ d' ∧ (clientId ∈ d → p ≠ paneId) := by
    intro p d hd
    rw [Table.get_alter] at hd
    split at hd
    · next hp =>
      subst hp
      rw [filter_eq_some_iff, map_eq_some_iff] at hd
      obtain ⟨⟨d', hd', rfl⟩, -⟩ := hd
      exact ⟨d', hd', Finset.erase_subset _ _, fun hc => absurd hc (Finset.notMem_erase _ _)⟩
    · next hp => exact ⟨d, hd, Finset.Subset.refl d, fun _ => hp⟩
  have hconn' : (s.connections.modify clientId (·.unsubscribe paneId)).get clientId = some (conn.unsubscribe paneId) := by
    rw [Table.get_modify, if_pos rfl, hconn]
    rfl
  refine Mirrored.syncSubscriptions_settle ?_ hconn' ?_ ?_
  · have hreplies := hself.fewerReplies fun id r hr => (hle id r hr).1
    refine ⟨hreplies.mirror, hreplies.fresh, fun p d hd c hc hne => ?_, hreplies.reply, hreplies.inhabited⟩
    obtain ⟨d', hd', hsub, -⟩ := hlater p d hd
    exact hreplies.push p d' hd' c (hsub hc) hne
  · intro p d hd hc
    obtain ⟨d', hd', hsub, hne⟩ := hlater p d hd
    exact Finset.mem_erase.mpr ⟨hne hc, hsubscribed p (h.push p d' hd' clientId (hsub hc) nofun)⟩
  · intro id r hr hc
    obtain ⟨hr, hne⟩ := hle id r hr
    exact Finset.mem_erase.mpr ⟨fun hp => hne ⟨hp, hc⟩, hsubscribed r.paneId (hc ▸ h.reply id r hr nofun)⟩

end

/-- A reply only takes an entry, and may fulfil its token. -/
theorem replyHostRequest_eq (s : MuxServer) (clientId : ClientId) (requestId : HostRequestId) (payload : HostReply) :
    ∃ replies fulfilled, s.replyHostRequest clientId requestId payload =
      { s with pendingHostReplies := replies, fulfilled := fulfilled } ∧
      ∀ id r, replies.get id = some r → s.pendingHostReplies.get id = some r := by
  unfold MuxServer.replyHostRequest takeValidatedPendingHostReply
  cases s.pendingHostReplies.get requestId with
  | none => exact ⟨s.pendingHostReplies, s.fulfilled, rfl, fun _ _ h => h⟩
  | some entry =>
    dsimp only
    by_cases hresponder : entry.responder = clientId
    · have hle : ∀ id r, (s.pendingHostReplies.erase requestId).get id = some r → s.pendingHostReplies.get id = some r := by
        intro id r hr
        rw [Table.get_erase] at hr
        split at hr
        · cases hr
        · exact hr
      rw [if_neg (not_not.mpr hresponder)]
      dsimp only
      split
      · exact ⟨_, _, rfl, hle⟩
      · exact ⟨_, s.fulfilled, rfl, hle⟩
    · rw [if_pos hresponder]
      exact ⟨s.pendingHostReplies, s.fulfilled, rfl, fun _ _ h => h⟩

theorem Mirrored.replyHostRequest (h : s.Mirrored leaving) (clientId : ClientId) (requestId : HostRequestId)
    (payload : HostReply) : (s.replyHostRequest clientId requestId payload).Mirrored leaving := by
  obtain ⟨replies, fulfilled, heq, hle⟩ := replyHostRequest_eq s clientId requestId payload
  rw [heq]
  exact (h.fewerReplies hle).of_tables rfl rfl rfl rfl rfl

theorem Mirrored.handleRequest (h : s.Mirrored none) (hconn : s.connections.get clientId = some conn)
    (req : ClientRequest) : (s.handleRequest clientId req).Mirrored none := by
  cases req with
  | spawnPane spawned =>
    cases spawned with
    | false | true => exact h.of_tables rfl rfl rfl rfl rfl
  | closePane paneId => exact h.removePane paneId
  | subscribe paneId => exact h.subscribe hconn paneId
  | unsubscribe paneId => exact h.unsubscribe hconn paneId
  | getPaneSnapshot paneId acked =>
    unfold MuxServer.handleRequest
    dsimp only
    split
    · exact h.buildAndTake clientId paneId
    · exact h
  | setCapabilities | setPanePriority => exact h.onConn fun _ => rfl
  | replyHostRequest requestId payload => exact h.replyHostRequest clientId requestId payload
  | other => exact h

/-! ### Pushes and host requests -/

/-- A subscriber of a pane is listed. -/
theorem listed_of_mem {subs : List ClientId} (hsubs : s.subscriptions.get paneId = some subs)
    (hc : c ∈ subs) : s.Listed c paneId := ⟨subs, hsubs, hc⟩

theorem Mirrored.pushOrDeferPane (h : s.Mirrored leaving) (env : PushEnv) (paneId : PaneId) :
    (s.pushOrDeferPane env paneId).Mirrored leaving := by
  unfold MuxServer.pushOrDeferPane
  split
  · exact h
  · next subs hsubs =>
    have hdefer : ∀ p : ClientId → Prop, ∀ [DecidablePred p], ∀ d,
        some ((s.pendingPush.get paneId).getD ∅ ∪ subs.toFinset.filter p) = some d → ∀ c ∈ d,
          (∃ d', s.pendingPush.get paneId = some d' ∧ c ∈ d') ∨ s.Listed c paneId := by
      intro p _ d hd c hc
      rw [← some.inj hd] at hc
      rcases Finset.mem_union.mp hc with hc | hc
      · cases hold : s.pendingPush.get paneId with
        | none => simp [hold] at hc
        | some d' => exact .inl ⟨d', rfl, by simpa [hold] using hc⟩
      · exact .inr (listed_of_mem hsubs (mem_toFinset.mp (Finset.mem_filter.mp hc).1))
    split
    · split
      · exact (h.deferPush (hdefer _)).of_tables rfl rfl rfl rfl rfl
      · exact h
    · exact h.deferPush (hdefer _)

theorem Mirrored.trailingFlushPane (h : s.Mirrored leaving) (env : PushEnv) (paneId : PaneId) :
    (s.trailingFlushPane env paneId).Mirrored leaving := by
  unfold MuxServer.trailingFlushPane
  dsimp only
  split
  · exact h
  · split
    · exact h
    · next deferred hdeferred =>
      have herase : { s with pendingPush := s.pendingPush.erase paneId }.Mirrored leaving :=
        h.deferPush fun d hd => nomatch hd
      have hfewer : ∀ d ⊆ deferred, { s with pendingPush := s.pendingPush.insert paneId d }.Mirrored leaving := by
        intro d hsub
        refine h.deferPush fun d' hd' c hc => .inl ⟨deferred, hdeferred, hsub ?_⟩
        rwa [some.inj hd']
      split
      · exact herase
      · split
        · exact hfewer _ (Finset.filter_subset _ _)
        · split
          · exact herase
          · split
            · exact herase.of_tables rfl rfl rfl rfl rfl
            · exact (hfewer _ ((Finset.filter_subset _ _).trans (Finset.filter_subset _ _))).of_tables rfl rfl rfl rfl rfl

/-- The responder is one of the subscribers. -/
theorem listed_selectResponder {responder : ClientId} (h : s.selectResponder paneId = some responder) :
    s.Listed responder paneId := by
  obtain ⟨subs, hsubs, hpick⟩ := bind_eq_some_iff.mp h
  obtain ⟨candidate, hmin, rfl⟩ := map_eq_some_iff.mp hpick
  obtain ⟨c, hc, rfl⟩ := mem_map.mp (argmin_mem hmin)
  exact listed_of_mem hsubs hc

theorem Mirrored.dispatchHostRequest (h : s.Mirrored leaving) (queued : ClientId → Bool) (paneId : PaneId)
    (kind : PendingHostReplyKind) : (s.dispatchHostRequest queued paneId kind).Mirrored leaving := by
  unfold MuxServer.dispatchHostRequest
  split
  · exact h
  · next responder hresponder =>
    dsimp only
    split
    · refine ⟨h.mirror, h.fresh, h.push, fun id r hr hne => ?_, h.inhabited⟩
      rw [Table.get_insert] at hr
      split at hr
      · rw [← some.inj hr]
        exact listed_selectResponder hresponder
      · exact h.reply id r hr hne
    · exact h.of_tables rfl rfl rfl rfl rfl

/-! ### The event loop -/

theorem Mirrored.pollEvent (h : s.Mirrored leaving) (event : MuxEvent) : (s.pollEvent event).Mirrored leaving := by
  cases event with
  | paneOutput | hostRequest => exact h.of_tables rfl rfl rfl rfl rfl
  | paneExited paneId => exact h.closePaneMux paneId

theorem Mirrored.route (h : s.Mirrored leaving) (env : PushEnv) (queued : ClientId → Bool) (n : MuxNotification) :
    (s.route env queued n).Mirrored leaving := by
  cases n with
  | paneOutput paneId => exact h.pushOrDeferPane env paneId
  | hostRequest paneId kind => exact h.dispatchHostRequest queued paneId kind
  | paneClosed paneId => exact h

/-- What every part of the drain keeps, the drain keeps. -/
theorem drainMuxEvents_invariant {I : MuxServer → Prop} {env : PushEnv} {queued : ClientId → Bool}
    (hpoll : ∀ s event, I s → I (s.pollEvent event)) (htaken : ∀ s : MuxServer, I s → I { s with notifications := [] })
    (hflush : ∀ s p, I s → I (s.trailingFlushPane env p)) (hroute : ∀ s n, I s → I (s.route env queued n))
    (hclean : ∀ s p, I s → I (s.cleanupPaneState p)) (h : I s) (events : List MuxEvent) :
    I (s.drainMuxEvents env queued events) := by
  refine run_invariant hclean (run_invariant (fun s p => hroute s (.paneOutput p)) ?_ _) _
  exact run_invariant hroute (run_invariant hflush (htaken _ (run_invariant hpoll h events)) _) _

theorem Mirrored.drainMuxEvents (h : s.Mirrored none) (env : PushEnv) (queued : ClientId → Bool)
    (events : List MuxEvent) : (s.drainMuxEvents env queued events).Mirrored none :=
  drainMuxEvents_invariant (I := fun s : MuxServer => s.Mirrored none) (fun _ event hs => hs.pollEvent event)
    (fun _ hs => hs.of_tables rfl rfl rfl rfl rfl) (fun _ p hs => hs.trailingFlushPane env p)
    (fun _ n hs => hs.route env queued n) (fun _ p hs => hs.cleanupPaneState p) h events

/-- A connection that answers. -/
theorem exists_conn (h : (s.connections.get clientId).isSome) :
    ∃ conn, s.connections.get clientId = some conn := isSome_iff_exists.mp h

theorem Mirrored.apply (h : s.Mirrored none) (e : ServerEvent) : (s.apply e).Mirrored none := by
  cases e with
  | connect => exact h.connect
  | request clientId req =>
    unfold MuxServer.apply
    dsimp only
    split
    · next hconn =>
      obtain ⟨conn, hconn⟩ := exists_conn hconn
      exact h.handleRequest hconn req
    · exact h
  | disconnect clientId => exact h.disconnectClient clientId
  | publish paneId =>
    unfold MuxServer.apply
    dsimp only
    split
    · exact h.of_tables rfl rfl rfl rfl rfl
    · exact h
  | drain env queued events => exact h.drainMuxEvents env queued events

/-- **The two views of the subscriptions agree in every run**, and so does what hangs on them. -/
theorem mirrored_run (es : List ServerEvent) : (run MuxServer.apply new es).Mirrored none :=
  run_invariant (I := fun s : MuxServer => s.Mirrored none) (fun _ e h => h.apply e) mirrored_new es

end MuxServer

end OriTerm
