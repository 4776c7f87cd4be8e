import OriTerm.Mux.Protocol
import OriTerm.Mux.ServerTables

/-!
# `Mux.Rejected` — requests that are answered with an error

`dispatch_request` computes a response and changes the server on the way; the event loop then applies what is left to
do. A `PduRequest` is what a client can send, with what the world outside the server answers meanwhile. `respond` is
the response and `handlePdu` the change, which is `handleRequest` for the requests that touch the bookkeeping.

A request that is answered with an error should change nothing. Only identifiers may be used up: a spawn that fails
has taken its pane's (`Unchanged`). `Subscribe` breaks this: it enters the pane into the connection's set before it
looks for the pane (**`rejected_unchanged_iff`**).

The response is queued; where that fails the client is disconnected, which is an event of its own.
-/

namespace OriTerm

open Lib Option

namespace MuxServer

/-! ## Requests and responses -/

/-- Requests that are passed on to the pane's IO thread, if there is one, and not answered. -/
inductive PaneCommand where
  | input | signalChild | resize | scrollDisplay | scrollToBottom | scrollToPrompt | setTheme | setCursorShape
  | setBoldIsBright | setAnswerback | setCellDimensions | markAllDirty | openSearch | closeSearch | searchSetQuery
  | searchNextMatch | searchPrevMatch | setImageConfig
  deriving DecidableEq, Repr

/-- Requests that are answered without touching the bookkeeping. -/
inductive Query where
  | listPanes | isWriteStalled | extractText | extractHtml | requestNewTab | ping | shutdown
  deriving DecidableEq, Repr

/-- What a client sends. -/
inductive PduRequest where
  | hello (protocolVersion : UInt8)
  /-- The error of the spawn, if it failed. -/
  | spawnPane (failure : Option String)
  | closePane (paneId : PaneId)
  | command (paneId : PaneId) (command : PaneCommand)
  | setCapabilities (flags : UInt32)
  | setPanePriority (paneId : PaneId) (priority : Nat)
  | query (query : Query)
  | subscribe (paneId : PaneId)
  | unsubscribe (paneId : PaneId)
  | replyHostRequest (requestId : HostRequestId) (payload : HostReply)
  /-- Whether the IO thread acknowledged in time. -/
  | getPaneSnapshot (paneId : PaneId) (acked : Bool)
  /-- A response or a notification, which no client should send. -/
  | unexpected (msgType : MsgType)

/-- The PDU a request is answered with: one of its own kind, or an error. -/
inductive Response where
  | pdu (msgType : MsgType)
  | error (message : String)
  deriving DecidableEq

/-- The text a pane identifier displays. -/
def displayPane (paneId : PaneId) : String := "Pane(" ++ toString paneId ++ ")"

/-- The response to a query. -/
def Query.answer : Query → MsgType
  | .listPanes => .listPanesResponse
  | .isWriteStalled => .writeStalledStatus
  | .extractText => .extractTextResp
  | .extractHtml => .extractHtmlResp
  | .requestNewTab => .newTabAck
  | .ping => .pingAck
  | .shutdown => .shutdownAck

/-- The response of `dispatch_request`, if it gives one. -/
def respond (s : MuxServer) : PduRequest → Option Response
  | .hello protocolVersion =>
    if protocolVersion = PROTOCOL_VERSION then some (.pdu .helloAck)
    else some (.error ("version mismatch: server speaks v" ++ toString PROTOCOL_VERSION ++ ", client wants v" ++
      toString protocolVersion))
  | .spawnPane none => some (.pdu .spawnPaneResponse)
  | .spawnPane (some e) => some (.error ("spawn_pane failed: " ++ e))
  | .closePane _ => some (.pdu .paneClosedAck)
  | .command _ _ => none
  | .setCapabilities _ => none
  | .setPanePriority _ _ => none
  | .query query => some (.pdu query.answer)
  | .subscribe paneId =>
    if paneId ∈ s.panes then some (.pdu .subscribed) else some (.error ("pane not found: " ++ displayPane paneId))
  | .unsubscribe _ => some (.pdu .unsubscribed)
  | .replyHostRequest _ _ => none
  | .getPaneSnapshot paneId acked =>
    if paneId ∈ s.panes then
      if acked then some (.pdu .paneSnapshotResp)
      else some (.error ("pane " ++ displayPane paneId ++ " IO thread did not acknowledge SnapshotNow within 500ms"))
    else some (.error ("pane not found: " ++ displayPane paneId))
  | .unexpected _ => some (.error "unexpected PDU type from client")

/-- The bookkeeping of a request. -/
def PduRequest.effect : PduRequest → ClientRequest
  | .hello _ => .other
  | .spawnPane failure => .spawnPane failure.isNone
  | .closePane paneId => .closePane paneId
  | .command _ _ => .other
  | .setCapabilities flags => .setCapabilities flags
  | .setPanePriority paneId priority => .setPanePriority paneId priority
  | .query _ => .other
  | .subscribe paneId => .subscribe paneId
  | .unsubscribe paneId => .unsubscribe paneId
  | .replyHostRequest requestId payload => .replyHostRequest requestId payload
  | .getPaneSnapshot paneId acked => .getPaneSnapshot paneId acked
  | .unexpected _ => .other

/-- A request is dispatched, its side effects are applied and its response is queued. -/
def handlePdu (s : MuxServer) (clientId : ClientId) (pdu : PduRequest) : MuxServer := s.handleRequest clientId pdu.effect

/-- Nothing changed, but for the next pane identifier. -/
def Unchanged (s s' : MuxServer) : Prop := s' = { s with paneAlloc := s'.paneAlloc }

/-! ## Synchronizing what is in step -/

variable {s : MuxServer}

/-- When the tables agree there is nothing to synchronize. -/
theorem syncSubscriptions_of_mirrored (h : s.Mirrored none) (clientId : ClientId) : s.syncSubscriptions clientId = s := by
  unfold syncSubscriptions
  cases hconn : s.connections.get clientId with
  | none => rfl
  | some conn =>
    have hlisted : ∀ p, s.Listed clientId p ↔ p ∈ conn.subscribedPanes := by
      intro p
      rw [h.mirror clientId p nofun]
      constructor
      · rintro ⟨conn', hconn', hp⟩
        rw [hconn] at hconn'
        exact some.inj hconn' ▸ hp
      · exact fun hp => ⟨conn, hconn, hp⟩
    have hsame : ((s.subscriptions.alterAll conn.subscribedPanes fun subs =>
          some (if clientId ∈ subs.getD [] then subs.getD [] else subs.getD [] ++ [clientId])).filterMap
        fun paneId subs =>
          if (if paneId ∈ conn.subscribedPanes then subs else subs.filter (· != clientId)).isEmpty then none
          else some (if paneId ∈ conn.subscribedPanes then subs else subs.filter (· != clientId))) =
        s.subscriptions := by
      refine Table.ext fun p => ?_
      rw [Table.get_filterMap, Table.get_alterAll]
      by_cases hp : p ∈ conn.subscribedPanes
      · obtain ⟨subs, hsubs, hmem⟩ := (hlisted p).mpr hp
        rw [hsubs]
        have hne : ¬ subs.isEmpty = true := by
          cases subs with
          | nil => cases hmem
          | cons _ _ => exact nofun
        simp only [bind_some, getD_some, if_pos hmem, if_pos hp]
        rw [if_neg hne]
      · rw [if_neg hp]
        cases hsubs : s.subscriptions.get p with
        | none => rfl
        | some subs =>
          have hout : clientId ∉ subs := fun hmem => hp ((hlisted p).mp ⟨subs, hsubs, hmem⟩)
          have hfilter : subs.filter (· != clientId) = subs := by
            rw [List.filter_eq_self]
            intro c hc
            simpa using fun heq : c = clientId => hout (heq ▸ hc)
          have hne : ¬ subs.isEmpty = true := by
            cases subs with
            | nil => exact absurd hsubs (h.inhabited p)
            | cons _ _ => exact nofun
          simp only [bind_some, if_neg hp, hfilter]
          rw [if_neg hne]
    show { s with subscriptions := _ } = s
    rw [hsame]

/-- Subscribing to a pane that is not there: only the sets of subscriptions are touched. -/
theorem handlePdu_subscribe_missing {paneId : PaneId} (hmissing : paneId ∉ s.panes) (clientId : ClientId) :
    s.handlePdu clientId (.subscribe paneId) =
      (s.onConn clientId (·.subscribe paneId)).syncSubscriptions clientId := by
  have hmissing' : paneId ∉ (s.onConn clientId (·.subscribe paneId)).panes := hmissing
  show (if paneId ∈ (s.onConn clientId (·.subscribe paneId)).panes then _ else
    s.onConn clientId (·.subscribe paneId)).syncSubscriptions clientId = _
  rw [if_neg hmissing']

/-! ## What a rejected request changes -/

/-- An error to `Subscribe` leaves the client subscribed to the missing pane. -/
theorem subscribe_missing_iff (h : s.Mirrored none) {clientId : ClientId} {conn : ClientConnection}
    (hconn : s.connections.get clientId = some conn) {paneId : PaneId} (hmissing : paneId ∉ s.panes) :
    s.Unchanged (s.handlePdu clientId (.subscribe paneId)) ↔ paneId ∈ conn.subscribedPanes := by
  rw [handlePdu_subscribe_missing hmissing]
  constructor
  · intro hsame
    have hconns := congrArg MuxServer.connections hsame
    rw [connections_syncSubscriptions] at hconns
    have hget : some (conn.subscribe paneId) = some conn := by
      have hlookup := congrArg (fun t : Table ClientId ClientConnection => t.get clientId) hconns
      dsimp only [MuxServer.onConn] at hlookup
      rw [Table.get_modify, if_pos rfl, hconn] at hlookup
      exact hlookup
    have hpanes := congrArg ClientConnection.subscribedPanes (some.inj hget)
    rw [← hpanes]
    exact Finset.mem_insert_self _ _
  · intro hmem
    have hkeeps : s.onConn clientId (·.subscribe paneId) = s := by
      have hconns : s.connections.modify clientId (·.subscribe paneId) = s.connections := by
        refine Table.ext fun c => ?_
        rw [Table.get_modify]
        split
        · next hc =>
          rw [hc, hconn]
          show some { conn with subscribedPanes := insert paneId conn.subscribedPanes } = _
          rw [Finset.insert_eq_of_mem hmem]
        · rfl
      show { s with connections := s.connections.modify clientId (·.subscribe paneId) } = s
      rw [hconns]
    rw [hkeeps, syncSubscriptions_of_mirrored h]
    rfl

/-- **When a rejected request changes nothing.** In every state the server can reach, a request of a connected client
    that is answered with an error leaves everything as it was, except when it is a `Subscribe` to a missing pane that
    the client is not subscribed to yet. -/
theorem rejected_unchanged_iff (events : List ServerEvent) {clientId : ClientId} {conn : ClientConnection}
    {pdu : PduRequest} {message : String}
    (hconn : (run MuxServer.apply .new events).connections.get clientId = some conn)
    (herror : (run MuxServer.apply .new events).respond pdu = some (.error message)) :
    (run MuxServer.apply .new events).Unchanged ((run MuxServer.apply .new events).handlePdu clientId pdu) ↔
      ∀ paneId, pdu = .subscribe paneId → paneId ∈ conn.subscribedPanes := by
  have hmirrored := mirrored_run events
  generalize run MuxServer.apply .new events = s at hconn herror hmirrored ⊢
  cases pdu with
  | hello | unexpected => exact iff_of_true rfl nofun
  | spawnPane failure =>
    cases failure with
    | none => cases herror
    | some e => exact iff_of_true rfl nofun
  | closePane | command | setCapabilities | setPanePriority | query | unsubscribe | replyHostRequest => cases herror
  | subscribe paneId =>
    have hmissing : paneId ∉ s.panes := by
      intro hlive
      simp [respond, hlive] at herror
    rw [subscribe_missing_iff hmirrored hconn hmissing]
    constructor
    · rintro hmem q hq
      injection hq with hq
      exact hq ▸ hmem
    · exact fun h => h paneId rfl
  | getPaneSnapshot paneId acked =>
    refine iff_of_true ?_ nofun
    have hrefused : ¬ (paneId ∈ s.panes ∧ acked = true) := by
      rintro ⟨hlive, hacked⟩
      simp [respond, hlive, hacked] at herror
    show s.Unchanged (if paneId ∈ s.panes ∧ acked = true then s.buildAndTake clientId paneId else s)
    rw [if_neg hrefused]
    rfl

theorem rejected_unchanged_iff_snapshot :
    (run MuxServer.apply .new [.connect]).respond (.getPaneSnapshot 7 true) =
        some (.error "pane not found: Pane(7)") ∧
      ((run MuxServer.apply .new [.connect]).Unchanged
          ((run MuxServer.apply .new [.connect]).handlePdu 1 (.getPaneSnapshot 7 true)) ↔
        ∀ paneId, PduRequest.getPaneSnapshot 7 true = .subscribe paneId →
          paneId ∈ ({} : ClientConnection).subscribedPanes) := by
  have herror : (run MuxServer.apply .new [.connect]).respond (.getPaneSnapshot 7 true) =
      some (.error "pane not found: Pane(7)") := by rfl
  exact ⟨herror, rejected_unchanged_iff [.connect] rfl herror⟩

/-- A first client subscribes to a pane that does not exist: it is told so, and is subscribed. -/
theorem missing_pane_subscribed :
    (run MuxServer.apply .new [.connect]).respond (.subscribe 7) = some (.error "pane not found: Pane(7)") ∧
      ((run MuxServer.apply .new [.connect]).handlePdu 1 (.subscribe 7)).subscriptions.get 7 = some [1] ∧
      ¬ (run MuxServer.apply .new [.connect]).Unchanged
        ((run MuxServer.apply .new [.connect]).handlePdu 1 (.subscribe 7)) := by
  have hsubscribed : ((run MuxServer.apply .new [.connect]).handlePdu 1 (.subscribe 7)).subscriptions.get 7 =
      some [1] := by rfl
  refine ⟨by rfl, hsubscribed, fun h => ?_⟩
  rw [h] at hsubscribed
  cases hsubscribed

end MuxServer

end OriTerm
