import Mathlib.Data.Finset.Sort
import Mathlib.Data.Prod.Lex
import OriTerm.Lib.Table
import OriTerm.Mux.HostRequest
import OriTerm.Mux.PaneSnapshot

/-!
# `Mux.Server` — the daemon's bookkeeping

`MuxServer` is the event loop's state: the live panes, the connections, and the tables that refer to them. Each
`ServerEvent` is one thing the loop does between two waits: a connection is accepted, a decoded request is dispatched
and its side effects are applied, a client is disconnected, the events of the panes are drained and snapshots are
pushed. A response that cannot be queued disconnects the client, which is the request followed by a disconnect.

Of a snapshot only its number is kept: how many the pane's IO thread has published, which one the server has consumed
last, which one it caches, which one each client was queued last. Requests that touch none of this are `other`. The
frames themselves, `mio` interest and the image store are left out. The panes and the clients of a table are
independent in every loop over one, so the sorted order stands for the order of the hash map.
-/

namespace OriTerm

open Lib Lib.Bitflags

/-- Client identifier. -/
abbrev ClientId := Nat

/-- Identifier of a forwarded host request. -/
abbrev HostRequestId := Nat

/-! ## Connections -/

structure ClientConnection where
  subscribedPanes : Finset PaneId := ∅
  panePriorities : Table PaneId Nat := ∅
  capabilities : UInt32 := 0

def CAP_SNAPSHOT_PUSH : UInt32 := 1

namespace ClientConnection

variable (c : ClientConnection) (paneId : PaneId)

def subscribe : ClientConnection :=
  { c with subscribedPanes := insert paneId c.subscribedPanes }

def unsubscribe : ClientConnection :=
  { c with subscribedPanes := c.subscribedPanes.erase paneId, panePriorities := c.panePriorities.erase paneId }

def hasCapability (flag : UInt32) : Bool := c.capabilities &&& flag != 0

/-- Push priority for a pane (0 = focused if unset). -/
def panePriority : Nat := (c.panePriorities.get paneId).getD 0

end ClientConnection

/-! ## Host requests -/

/-- Which value a pending request takes. -/
inductive PendingHostReplyKind where
  | clipboard | color
  deriving DecidableEq, Repr

/-- The reply is of the kind of the request. -/
def PendingHostReplyKind.matches : PendingHostReplyKind → HostReply → Bool
  | .clipboard, .clipboardLoad _ => true
  | .color, .colorQuery _ => true
  | _, _ => false

/-- Bookkeeping for an in-flight host request. -/
structure PendingHostReply where
  paneId : PaneId
  /-- The client picked to answer. -/
  responder : ClientId
  kind : PendingHostReplyKind
  deriving DecidableEq, Repr

/-- A token fulfilled with a client's reply. -/
structure Fulfillment where
  requestId : HostRequestId
  client : ClientId
  payload : HostReply
  deriving DecidableEq, Repr

/-! ## The server -/

/-- What the panes report. -/
inductive MuxEvent where
  | paneOutput (paneId : PaneId)
  | paneExited (paneId : PaneId)
  | hostRequest (paneId : PaneId) (kind : PendingHostReplyKind)
  deriving DecidableEq, Repr

/-- What the mux tells the server. -/
inductive MuxNotification where
  | paneOutput (paneId : PaneId)
  | paneClosed (paneId : PaneId)
  | hostRequest (paneId : PaneId) (kind : PendingHostReplyKind)
  deriving DecidableEq, Repr

/-- The snapshots of a pane, by number. -/
structure SnapshotNumbers where
  /-- How many the IO thread flipped into the double buffer. -/
  published : Nat := 0
  /-- The newest the server took from there. -/
  consumed : Nat := 0
  /-- The one in the snapshot cache; `0` is the default snapshot. -/
  cached : Nat := 0
  deriving DecidableEq, Repr

structure MuxServer where
  /-- Live pane instances. -/
  panes : Finset PaneId := ∅
  /-- The mux's pane registry. -/
  paneRegistry : Finset PaneId := ∅
  paneAlloc : PaneId := 1
  notifications : List MuxNotification := []
  connections : Table ClientId ClientConnection := ∅
  /-- Pane to subscribed clients. -/
  subscriptions : Table PaneId (List ClientId) := ∅
  clientAlloc : ClientId := 1
  /-- Set once at least one client has connected. -/
  hadClient : Bool := false
  lastSnapshotPush : Table PaneId Image.Nanos := ∅
  /-- Panes with deferred pushes, by client. -/
  pendingPush : Table PaneId (Finset ClientId) := ∅
  pendingHostReplies : Table HostRequestId PendingHostReply := ∅
  requestAlloc : HostRequestId := 1
  snapshots : PaneId → SnapshotNumbers := fun _ => {}
  /-- The last snapshot queued to a client. -/
  queued : ClientId → PaneId → Nat := fun _ _ => 0
  /-- Every host request sent to a client. -/
  forwarded : List (HostRequestId × PendingHostReply) := []
  /-- Every fulfilment of a token. -/
  fulfilled : List Fulfillment := []

namespace MuxServer

variable (s : MuxServer) (clientId : ClientId) (paneId : PaneId) (env : PushEnv) (queued : ClientId → Bool)

def new : MuxServer := {}

/-! ### Panes -/

/-- Closes a pane in the registry; one that is not there is not announced. -/
def closePaneMux : MuxServer :=
  if paneId ∈ s.paneRegistry then
    { s with paneRegistry := s.paneRegistry.erase paneId, notifications := s.notifications ++ [.paneClosed paneId] }
  else s

/-- Closes a pane and drops its instance. -/
def dropPane : MuxServer :=
  { s.closePaneMux paneId with panes := (s.closePaneMux paneId).panes.erase paneId }

/-- Removes all tracking state of a closed pane. -/
def cleanupPaneState : MuxServer :=
  { s with
    snapshots := fun p => if p = paneId then { s.snapshots p with cached := 0 } else s.snapshots p
    lastSnapshotPush := s.lastSnapshotPush.erase paneId
    pendingPush := s.pendingPush.erase paneId
    subscriptions := s.subscriptions.erase paneId
    connections := s.connections.map fun _ conn => conn.unsubscribe paneId
    pendingHostReplies := s.pendingHostReplies.retain fun _ r => r.paneId != paneId }

/-! ### Connections -/

def connect : MuxServer :=
  { s with
    connections := s.connections.insert s.clientAlloc {}
    clientAlloc := s.clientAlloc + 1
    hadClient := true }

/-- Closes a pane that `clientId` was the last one to be subscribed to. -/
def closeOrphan (s : MuxServer) (paneId : PaneId) : MuxServer :=
  let otherSubscribers := (s.subscriptions.get paneId).any fun subs => subs.any (· != clientId)
  if otherSubscribers then s else (s.dropPane paneId).cleanupPaneState paneId

/-- Takes a client off a list of subscribers; an empty list goes. -/
def withoutClient (subs : Option (List ClientId)) : Option (List ClientId) :=
  (subs.map fun subs => subs.filter (· != clientId)).filter (!·.isEmpty)

/-- `dispatch::remove_client_subscriptions`. -/
def removeClientSubscriptions (subscribedPanes : Finset PaneId) : MuxServer :=
  { s with subscriptions := s.subscriptions.alterAll subscribedPanes (withoutClient clientId) }

/-- Disconnects a client and closes the panes it leaves without subscribers. -/
def disconnectClient : MuxServer :=
  match s.connections.get clientId with
  | none => s
  | some conn =>
    let s := { s with connections := s.connections.erase clientId }
    let s := (conn.subscribedPanes.sort (· ≤ ·)).foldl (closeOrphan clientId) s
    let s := s.removeClientSubscriptions clientId conn.subscribedPanes
    { s with
      pendingPush := s.pendingPush.filterMap fun _ deferred =>
        if deferred.erase clientId = ∅ then none else some (deferred.erase clientId)
      pendingHostReplies := s.pendingHostReplies.retain fun _ r => r.responder != clientId }

/-- Brings the global map in line with what the connection is subscribed to. -/
def syncSubscriptions : MuxServer :=
  match s.connections.get clientId with
  | none => s
  | some conn =>
    let added := s.subscriptions.alterAll conn.subscribedPanes fun subs =>
      let subs := subs.getD []
      some (if clientId ∈ subs then subs else subs ++ [clientId])
    { s with
      subscriptions := added.filterMap fun paneId subs =>
        let subs := if paneId ∈ conn.subscribedPanes then subs else subs.filter (· != clientId)
        if subs.isEmpty then none else some subs }

/-! ### Snapshots -/

/-- `SnapshotCache::build`: takes the IO thread's snapshot if there is a new one. -/
def build : MuxServer :=
  { s with
    snapshots := fun p =>
      let n := s.snapshots p
      if p = paneId ∧ n.consumed < n.published then { n with consumed := n.published, cached := n.published } else n }

/-- `build_and_take`: the snapshot leaves the cache; it is queued to the client that asked. -/
def buildAndTake : MuxServer :=
  let s := s.build paneId
  { s with
    queued := fun c p => if c = clientId ∧ p = paneId then (s.snapshots paneId).cached else s.queued c p
    snapshots := fun p => if p = paneId then { s.snapshots p with cached := 0 } else s.snapshots p }

/-- Map a priority value to its push interval. -/
def intervalForPriority : Nat → Image.Nanos
  | 0 => 4000000
  | 1 => 16000000
  | _ => 100000000

/-- The interval of the highest priority among the subscribers. -/
def effectivePushInterval (subscribers : List ClientId) : Image.Nanos :=
  let priorities := (subscribers.filterMap s.connections.get).map (·.panePriority paneId)
  intervalForPriority (priorities.min?.getD 0)

/-- Enough time has passed since the last push. -/
def shouldPush (now : Image.Nanos) (lastPush : Option Image.Nanos) (interval : Image.Nanos) : Bool :=
  lastPush.all fun t => interval ≤ now - t

/-- What the sockets do while snapshots are pushed. -/
structure PushEnv where
  now : Image.Nanos
  /-- The write buffer of the client is above the high-water mark. -/
  overHighWater : PaneId → ClientId → Bool
  queueFails : PaneId → ClientId → Bool

/-- The subscriber gets snapshots pushed. -/
def capable : Bool :=
  (s.connections.get clientId).any (·.hasCapability CAP_SNAPSHOT_PUSH)

/-- Pushes the cached snapshot to the clients of a list that can take it now. -/
def pushSnapshot (paneId : PaneId) (clients : ClientId → Bool) (s : MuxServer) : MuxServer :=
  { s with
    queued := fun c p =>
      if p = paneId ∧ clients c ∧ s.capable c ∧ !env.overHighWater paneId c ∧ !env.queueFails paneId c then
        (s.snapshots paneId).cached
      else s.queued c p }

/-- Build and push, or defer. -/
def pushOrDeferPane (s : MuxServer) (paneId : PaneId) : MuxServer :=
  match s.subscriptions.get paneId with
  | none => s
  | some subs =>
    if shouldPush env.now (s.lastSnapshotPush.get paneId) (s.effectivePushInterval paneId subs) then
      if paneId ∈ s.panes then
        let s := (s.build paneId).pushSnapshot env paneId (subs.contains ·)
        let deferred := subs.toFinset.filter fun c => s.capable c ∧ env.overHighWater paneId c
        { s with
          pendingPush := s.pendingPush.alter paneId fun d => some (d.getD ∅ ∪ deferred)
          lastSnapshotPush := s.lastSnapshotPush.insert paneId env.now }
      else s
    else
      { s with
        pendingPush := s.pendingPush.alter paneId fun d => some (d.getD ∅ ∪ subs.toFinset.filter fun c => s.capable c) }

/-- Retries the deferred pushes of a pane. -/
def trailingFlushPane (s : MuxServer) (paneId : PaneId) : MuxServer :=
  let subs := s.subscriptions.get paneId
  let interval := subs.elim (intervalForPriority 0) (s.effectivePushInterval paneId)
  if !shouldPush env.now (s.lastSnapshotPush.get paneId) interval then s
  else match s.pendingPush.get paneId with
    | none => s
    | some deferred =>
      let deferred := deferred.filter fun c => subs.any (·.contains c) ∧ s.capable c
      if deferred = ∅ then { s with pendingPush := s.pendingPush.erase paneId }
      else if ∀ c ∈ deferred, env.overHighWater paneId c then
        { s with pendingPush := s.pendingPush.insert paneId deferred }
      else if paneId ∉ s.panes then { s with pendingPush := s.pendingPush.erase paneId }
      else
        let s := (s.build paneId).pushSnapshot env paneId fun c => c ∈ deferred
        let deferred := deferred.filter fun c => env.overHighWater paneId c ∨ env.queueFails paneId c
        { s with
          pendingPush := if deferred = ∅ then s.pendingPush.erase paneId else s.pendingPush.insert paneId deferred
          lastSnapshotPush := s.lastSnapshotPush.insert paneId env.now }

/-! ### Host requests -/

/-- Lowest priority value wins; ties go to the lower client. -/
def pickLowestPriority (candidates : List (ClientId × Nat)) : Option ClientId :=
  (candidates.argmin fun c : ClientId × Nat => toLex (c.2, c.1)).map Prod.fst

/-- The subscriber to answer a request of a pane. -/
def selectResponder : Option ClientId :=
  (s.subscriptions.get paneId).bind fun subs =>
    pickLowestPriority (subs.map fun c => (c, (s.connections.get c).elim 255 (·.panePriority paneId)))

/-- Routes a host request to a single responder; it is registered only when it was queued. -/
def dispatchHostRequest (s : MuxServer) (paneId : PaneId) (kind : PendingHostReplyKind) : MuxServer :=
  match s.selectResponder paneId with
  | none => s
  | some responder =>
    let requestId := s.requestAlloc
    let s := { s with requestAlloc := s.requestAlloc + 1 }
    if (s.connections.get responder).isSome && queued responder then
      { s with
        pendingHostReplies := s.pendingHostReplies.insert requestId ⟨paneId, responder, kind⟩
        forwarded := s.forwarded ++ [(requestId, ⟨paneId, responder, kind⟩)] }
    else s

/-- Takes the entry of a request if the reply comes from its responder. -/
def takeValidatedPendingHostReply (requestId : HostRequestId) (responder : ClientId) :
    Option PendingHostReply × MuxServer :=
  match s.pendingHostReplies.get requestId with
  | none => (none, s)
  | some entry =>
    if entry.responder ≠ responder then (none, s)
    else (some entry, { s with pendingHostReplies := s.pendingHostReplies.erase requestId })

/-! ### Requests -/

/-- Requests that touch the bookkeeping. -/
inductive ClientRequest where
  /-- `none`: the spawn failed. -/
  | spawnPane (spawned : Bool)
  | closePane (paneId : PaneId)
  | subscribe (paneId : PaneId)
  | unsubscribe (paneId : PaneId)
  /-- Whether the IO thread acknowledged in time. -/
  | getPaneSnapshot (paneId : PaneId) (acked : Bool)
  | setCapabilities (flags : UInt32)
  | setPanePriority (paneId : PaneId) (priority : Nat)
  | replyHostRequest (requestId : HostRequestId) (payload : HostReply)
  | other

/-- Changes a connection. -/
def onConn (f : ClientConnection → ClientConnection) : MuxServer :=
  { s with connections := s.connections.modify clientId f }

/-- Fulfils the token of a request with a reply of its kind; any other reply drops it. -/
def replyHostRequest (requestId : HostRequestId) (payload : HostReply) : MuxServer :=
  match s.takeValidatedPendingHostReply requestId clientId with
  | (none, s) => s
  | (some pending, s) =>
    if pending.kind.matches payload then { s with fulfilled := s.fulfilled ++ [⟨requestId, clientId, payload⟩] } else s

/-- A request is dispatched and its side effects are applied; the response is queued. -/
def handleRequest : ClientRequest → MuxServer
  | .spawnPane spawned =>
    if spawned then
      { s with
        panes := insert s.paneAlloc s.panes
        paneRegistry := insert s.paneAlloc s.paneRegistry
        paneAlloc := s.paneAlloc + 1 }
    else { s with paneAlloc := s.paneAlloc + 1 }
  | .closePane paneId => (s.dropPane paneId).cleanupPaneState paneId
  | .subscribe paneId =>
    let s := s.onConn clientId (·.subscribe paneId)
    let s := if paneId ∈ s.panes then s.buildAndTake clientId paneId else s
    s.syncSubscriptions clientId
  | .unsubscribe paneId =>
    let s := s.onConn clientId (·.unsubscribe paneId)
    let s :=
      { s with
        pendingHostReplies := s.pendingHostReplies.retain fun _ r => !(r.paneId == paneId && r.responder == clientId) }
    let s := s.syncSubscriptions clientId
    { s with
      pendingPush := s.pendingPush.alter paneId fun deferred =>
        (deferred.map (·.erase clientId)).filter fun d => d != ∅ }
  | .getPaneSnapshot paneId acked =>
    if paneId ∈ s.panes ∧ acked = true then s.buildAndTake clientId paneId else s
  | .setCapabilities flags => s.onConn clientId ({ · with capabilities := flags })
  | .setPanePriority paneId priority =>
    s.onConn clientId fun c => { c with panePriorities := c.panePriorities.insert paneId priority }
  | .replyHostRequest requestId payload => s.replyHostRequest clientId requestId payload
  | .other => s

/-! ### The event loop -/

/-- `poll_events`. -/
def pollEvent : MuxEvent → MuxServer
  | .paneOutput paneId => { s with notifications := s.notifications ++ [.paneOutput paneId] }
  | .paneExited paneId => s.closePaneMux paneId
  | .hostRequest paneId kind => { s with notifications := s.notifications ++ [.hostRequest paneId kind] }

/-- Routes a notification; the frames sent for a closed pane are left out. -/
def route (s : MuxServer) : MuxNotification → MuxServer
  | .paneOutput paneId => s.pushOrDeferPane env paneId
  | .hostRequest paneId kind => s.dispatchHostRequest queued paneId kind
  | .paneClosed _ => s

def closedPane : MuxNotification → Option PaneId
  | .paneClosed paneId => some paneId
  | _ => none

/-- A new IO snapshot waits, and someone is subscribed. -/
def hasUnpushed : Bool :=
  (s.snapshots paneId).consumed < (s.snapshots paneId).published && (s.subscriptions.get paneId).isSome

/-- Drains the events of the panes and pushes snapshots. -/
def drainMuxEvents (events : List MuxEvent) (s : MuxServer) : MuxServer :=
  let s := events.foldl pollEvent s
  let notifications := s.notifications
  let s := { s with notifications := [] }
  let s := (s.pendingPush.keys.sort (· ≤ ·)).foldl (trailingFlushPane env) s
  let s := notifications.foldl (route env queued) s
  let s := ((s.panes.filter fun p => s.hasUnpushed p).sort (· ≤ ·)).foldl (pushOrDeferPane env) s
  (notifications.filterMap closedPane).foldl cleanupPaneState s

/-- All panes have exited and no client is connected, after a grace period and not before the first client. -/
def shouldExit (elapsed : Image.Nanos) : Bool :=
  if elapsed < 5000000000 then false
  else if !s.hadClient then false
  else decide (s.connections.keys = ∅) && decide (s.panes = ∅)

end MuxServer

/-- What the event loop may see. -/
inductive ServerEvent where
  | connect
  | request (clientId : ClientId) (req : MuxServer.ClientRequest)
  /-- The end of the stream, or an error of it. -/
  | disconnect (clientId : ClientId)
  /-- The IO thread of a pane flips a snapshot. -/
  | publish (paneId : PaneId)
  | drain (env : MuxServer.PushEnv) (queued : ClientId → Bool) (events : List MuxEvent)

namespace MuxServer

def apply (s : MuxServer) : ServerEvent → MuxServer
  | .connect => s.connect
  | .request clientId req => if (s.connections.get clientId).isSome then s.handleRequest clientId req else s
  | .disconnect clientId => s.disconnectClient clientId
  | .publish paneId =>
    if paneId ∈ s.panes then
      { s with
        snapshots := fun p =>
          if p = paneId then { s.snapshots p with published := (s.snapshots p).published + 1 } else s.snapshots p }
    else s
  | .drain env queued events => s.drainMuxEvents env queued events

end MuxServer

end OriTerm
