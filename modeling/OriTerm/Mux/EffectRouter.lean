import OriTerm.Mux.HostRequest
import OriTerm.Mux.PaneSnapshot

/-!
# `Mux.EffectRouter` — from the terminal's effects to mux events

Parsing queues effects in the terminal's sink. `drain_effects_into_mux_events` takes what is queued, a batch, and
walks it: most effects become one mux event, a host request is registered before its event is sent, a UI hint only
wakes the event loop, and what has no event yet is logged. A desktop notification that comes before a clear of the
same batch is left out; the index of the last clear is found in a first pass.

The actions of the router are kept in order as its `log`; the sent events and the registered requests are read from
it. The receiver of the events is taken to be there: a send to a closed channel has no one to miss it.

* **`routeBatch_eq`** — what a batch does is what its kept effects do, one after the other;
* **`routes_run`** — every effect is routed once, in the batch of the next drain, whatever the order of pushes and
  drains.
-/

namespace OriTerm.EffectRouter

open Lib List

variable (effects : List Effect)

/-! ## Effects -/

inductive AudioKind where
  | tone | stop
  deriving DecidableEq, Repr

structure AudioRequest where
  kind : AudioKind
  volume : UInt8
  durationMs : UInt16
  note : UInt8
  deriving DecidableEq, Repr

inductive PrintKind where
  | screen | line | passthrough
  deriving DecidableEq, Repr

structure PrintRequest where
  kind : PrintKind
  data : List UInt8
  deriving DecidableEq, Repr

/-- Fire-and-forget host effects. -/
inductive HostEffect where
  | bell
  | urgencyHint
  | desktopNotification (source : NotificationSource) (title body : String)
  | titleSet (value : Option String)
  | iconNameSet (value : Option String)
  | cwdSet (cwd : String)
  | audioRequest (request : AudioRequest)
  | printRequest (request : PrintRequest)
  | clipboardStore (selection : ClipboardSelection) (data : String)
  | childExit (code : Int)
  | commandComplete (duration : Nat)
  | clearPendingNotifications
  deriving DecidableEq, Repr

inductive UiEffect where
  | cursorBlinkChanged (enabled : Bool)
  | mouseCursorDirty
  deriving DecidableEq, Repr

inductive SyncAbortReason where
  | timeout
  deriving DecidableEq, Repr

inductive PresentationEffect where
  | abort (reason : SyncAbortReason)
  deriving DecidableEq, Repr

/-- Identity of a response token. -/
abbrev ResponseTokenId := Nat

/-- The effect families. -/
inductive Effect where
  | ptyWrite (bytes : List UInt8) (kind : PtyWriteKind)
  | host (effect : HostEffect)
  | hostRequest (request : HostRequest) (reply : ResponseTokenId)
  | ui (effect : UiEffect)
  | presentation (effect : PresentationEffect)
  deriving DecidableEq, Repr

/-! ## Mux events -/

/-- Platform clipboards. -/
inductive ClipboardType where
  | clipboard | selection
  deriving DecidableEq, Repr

/-- The events the router sends. -/
inductive MuxEvent where
  | ptyWrite (paneId : PaneId) (data : List UInt8)
  | paneBell (paneId : PaneId)
  | paneUrgencyHint (paneId : PaneId)
  | paneTitleChanged (paneId : PaneId) (title : String)
  | paneIconChanged (paneId : PaneId) (iconName : String)
  | paneCwdChanged (paneId : PaneId) (cwd : String)
  | commandComplete (paneId : PaneId) (duration : Nat)
  | paneExited (paneId : PaneId) (exitCode : Int)
  | clipboardStore (paneId : PaneId) (clipboardType : ClipboardType) (text : String)
  | desktopNotification (paneId : PaneId) (source : NotificationSource) (title body : String)
  | clearPendingDesktopNotifications (paneId : PaneId)
  | hostClipboardLoad (paneId : PaneId) (selection : ClipboardSelection) (clipboardChar : UInt8) (terminator : String)
      (reply : ResponseTokenId)
  | hostColorQuery (paneId : PaneId) (oscPrefix : String) (index : Nat) (terminator : String) (reply : ResponseTokenId)
  deriving DecidableEq, Repr

/-- `Primary` and `Select` both collapse to `Selection`. -/
def selectionToClipboardType : ClipboardSelection → ClipboardType
  | .clipboard => .clipboard
  | .primary | .select => .selection

/-! ## The router -/

/-- What the router does, in order. -/
inductive Action where
  /-- `register_host_request_response`. -/
  | register (request : HostRequest) (reply : ResponseTokenId)
  | send (event : MuxEvent)
  | wakeup
  deriving DecidableEq, Repr

/-- The events among the actions. -/
def eventsOf (log : List Action) : List MuxEvent := log.filterMap fun | .send event => some event | _ => none

/-- The registrations among the actions. -/
def registeredOf (log : List Action) : List (HostRequest × ResponseTokenId) :=
  log.filterMap fun | .register request reply => some (request, reply) | _ => none

/-- Every event is followed by a wakeup. -/
def sendMuxEvent (event : MuxEvent) : List Action := [.send event, .wakeup]

def fireWakeupOnly : List Action := [.wakeup]

/-- The event of a host request. -/
def requestEvent (paneId : PaneId) (reply : ResponseTokenId) : HostRequest → MuxEvent
  | .clipboardLoad selection clipboardChar terminator =>
    .hostClipboardLoad paneId selection clipboardChar terminator reply
  | .colorQuery oscPrefix index terminator => .hostColorQuery paneId oscPrefix index terminator reply

/-- The index of the last clear of a batch. -/
def lastClearIndex : Option Nat :=
  effects.zipIdx.foldl (fun last (effect, i) => if effect = .host .clearPendingNotifications then some i else last) none

/-- Routes one effect of a batch. -/
def route (paneId : PaneId) (lastClear : Option Nat) (idx : Nat) : Effect → List Action
  | .ptyWrite bytes _ => sendMuxEvent (.ptyWrite paneId bytes)
  | .host .bell => sendMuxEvent (.paneBell paneId)
  | .host .urgencyHint => sendMuxEvent (.paneUrgencyHint paneId)
  | .host (.titleSet value) => sendMuxEvent (.paneTitleChanged paneId (value.getD ""))
  | .host (.iconNameSet value) => sendMuxEvent (.paneIconChanged paneId (value.getD ""))
  | .host (.cwdSet cwd) => sendMuxEvent (.paneCwdChanged paneId cwd)
  | .host (.commandComplete duration) => sendMuxEvent (.commandComplete paneId duration)
  | .host (.childExit code) => sendMuxEvent (.paneExited paneId code)
  | .host (.clipboardStore selection data) =>
    sendMuxEvent (.clipboardStore paneId (selectionToClipboardType selection) data)
  | .host (.desktopNotification source title body) =>
    let suppressed := lastClear.any (idx < ·)
    if !suppressed then sendMuxEvent (.desktopNotification paneId source title body) else []
  | .host .clearPendingNotifications => sendMuxEvent (.clearPendingDesktopNotifications paneId)
  -- only logged
  | .host (.audioRequest _) | .host (.printRequest _) => []
  | .hostRequest request reply => .register request reply :: sendMuxEvent (requestEvent paneId reply request)
  | .ui _ => fireWakeupOnly
  -- only logged
  | .presentation _ => []

/-- Routes a batch. -/
def routeBatch (paneId : PaneId) (effects : List Effect) : List Action :=
  effects.zipIdx.flatMap fun (effect, idx) => route paneId (lastClearIndex effects) idx effect

/-- The router with the sink it drains. -/
structure Router where
  paneId : PaneId
  /-- The terminal's queue. -/
  sink : List Effect := []
  /-- The scratch buffer. -/
  effectsBuf : List Effect := []
  log : List Action := []
  /-- The batches drained, oldest first. -/
  drained : List (List Effect) := []

namespace Router

variable (r : Router)

def push (effect : Effect) : Router := { r with sink := r.sink ++ [effect] }

/-- `drain_into` appends to the scratch buffer, which is empty again afterwards. -/
def drainEffectsIntoMuxEvents : Router :=
  let effects := r.effectsBuf ++ r.sink
  if effects = [] then { r with sink := [], effectsBuf := effects }
  else
    { r with
      sink := []
      effectsBuf := []
      log := r.log ++ routeBatch r.paneId effects
      drained := r.drained ++ [effects] }

/-- Parsing, polling and the end of the PTY push; the router drains in between. -/
inductive Op where
  | push (effect : Effect)
  | drain

def apply : Op → Router
  | .push effect => r.push effect
  | .drain => r.drainEffectsIntoMuxEvents

/-- The events sent. -/
def events : List MuxEvent := eventsOf r.log

/-- The host requests registered. -/
def registered : List (HostRequest × ResponseTokenId) := registeredOf r.log

end Router

/-! ## What a batch stands for -/

def isNotification : Effect → Bool
  | .host (.desktopNotification ..) => true
  | _ => false

/-- A batch without the notifications that a later clear supersedes. -/
def kept : List Effect → List Effect
  | [] => []
  | effect :: rest =>
    if isNotification effect && rest.contains (.host .clearPendingNotifications) then kept rest
    else effect :: kept rest

/-- The event an effect stands for; UI hints, audio, printing and presentation have none. -/
def image (paneId : PaneId) : Effect → Option MuxEvent
  | .ptyWrite bytes _ => some (.ptyWrite paneId bytes)
  | .host .bell => some (.paneBell paneId)
  | .host .urgencyHint => some (.paneUrgencyHint paneId)
  | .host (.titleSet value) => some (.paneTitleChanged paneId (value.getD ""))
  | .host (.iconNameSet value) => some (.paneIconChanged paneId (value.getD ""))
  | .host (.cwdSet cwd) => some (.paneCwdChanged paneId cwd)
  | .host (.commandComplete duration) => some (.commandComplete paneId duration)
  | .host (.childExit code) => some (.paneExited paneId code)
  | .host (.clipboardStore selection data) =>
    some (.clipboardStore paneId (selectionToClipboardType selection) data)
  | .host (.desktopNotification source title body) => some (.desktopNotification paneId source title body)
  | .host .clearPendingNotifications => some (.clearPendingDesktopNotifications paneId)
  | .hostRequest request reply => some (requestEvent paneId reply request)
  | .host (.audioRequest _) | .host (.printRequest _) | .ui _ | .presentation _ => none

/-- The request an effect makes. -/
def request : Effect → Option (HostRequest × ResponseTokenId)
  | .hostRequest request reply => some (request, reply)
  | _ => none

/-- What the router does for an effect that is not superseded. -/
def actions (paneId : PaneId) (effect : Effect) : List Action := route paneId none 0 effect

/-- The effects pushed by a history. -/
def pushed (ops : List Router.Op) : List Effect := ops.filterMap fun | .push effect => some effect | .drain => none

/-! ## The last clear -/

theorem lastClearIndex_concat (effect : Effect) :
    lastClearIndex (effects ++ [effect]) =
      if effect = .host .clearPendingNotifications then some effects.length else lastClearIndex effects := by
  simp [lastClearIndex, zipIdx_append]

theorem lastClearIndex_lt {effects : List Effect} {i : Nat} (h : lastClearIndex effects = some i) :
    i < effects.length := by
  induction effects using List.reverseRecOn with
  | nil => simp [lastClearIndex] at h
  | append_singleton effects effect ih =>
    rw [lastClearIndex_concat] at h
    rw [length_append, length_singleton]
    by_cases he : effect = .host .clearPendingNotifications
    · rw [if_pos he, Option.some.injEq] at h
      omega
    · rw [if_neg he] at h
      have := ih h
      omega

/-- A position is before the last clear exactly when a clear follows it. -/
theorem before_lastClear {j : Nat} (hj : j < effects.length) :
    (lastClearIndex effects).any (j < ·) = (effects.drop (j + 1)).contains (.host .clearPendingNotifications) := by
  induction effects using List.reverseRecOn with
  | nil => simp at hj
  | append_singleton effects effect ih =>
    rw [length_append] at hj
    rw [lastClearIndex_concat]
    rcases Nat.lt_succ_iff_lt_or_eq.1 hj with hlt | rfl
    · have hdrop : (effects ++ [effect]).drop (j + 1) = effects.drop (j + 1) ++ [effect] :=
        drop_append_of_le_length hlt
      rw [hdrop]
      by_cases he : effect = .host .clearPendingNotifications
      · rw [he]
        simp [hlt]
      · rw [if_neg he, ih hlt]
        simp [Ne.symm he]
    · -- nothing follows the last effect
      have hdrop : (effects ++ [effect]).drop (effects.length + 1) = [] := drop_of_length_le (by simp)
      rw [hdrop]
      by_cases he : effect = .host .clearPendingNotifications
      · rw [if_pos he]
        simp
      · rw [if_neg he]
        cases h : lastClearIndex effects with
        | none => rfl
        | some i =>
          have := lastClearIndex_lt h
          simp
          omega

/-! ## One batch -/

section

variable (paneId : PaneId)
variable (effects : List Effect)

include paneId

theorem route_eq (last : Option Nat) (idx : Nat) (effect : Effect) :
    route paneId last idx effect =
      if isNotification effect && last.any (idx < ·) then [] else actions paneId effect := by
  rcases effect with _ | host | _ | _ | _
  case host =>
    cases host with
    | desktopNotification source title body => cases h : last.any (idx < ·) <;> simp [route, actions, isNotification, h]
    | _ => simp [route, actions, isNotification]
  all_goals simp [route, actions, isNotification]

/-- The walk from an index on, when the last clear is where the rest of the batch says. -/
theorem route_walk (last : Option Nat) (effects : List Effect) (k : Nat)
    (hlast : ∀ j < effects.length, last.any (k + j < ·) = (effects.drop (j + 1)).contains (.host .clearPendingNotifications)) :
    (effects.zipIdx k).flatMap (fun (effect, idx) => route paneId last idx effect) =
      (kept effects).flatMap (actions paneId) := by
  induction effects generalizing k with
  | nil => rfl
  | cons effect rest ih =>
    have hhead := hlast 0 (by simp)
    have htail := ih (k + 1) fun j hj => by
      have := hlast (j + 1) (by simpa using hj)
      rwa [← Nat.add_assoc, Nat.add_right_comm] at this
    rw [Nat.add_zero, drop_succ_cons, drop_zero] at hhead
    rw [zipIdx_cons, flatMap_cons, htail, kept]
    show route paneId last k effect ++ _ = _
    rw [route_eq, hhead]
    by_cases hs : (isNotification effect && rest.contains (.host .clearPendingNotifications)) = true
    · rw [if_pos hs, if_pos hs, nil_append]
    · rw [if_neg hs, if_neg hs, flatMap_cons]

/-- **What a batch does is what its kept effects do, one after the other.** -/
theorem routeBatch_eq : routeBatch paneId effects = (kept effects).flatMap (actions paneId) := by
  refine route_walk paneId _ effects 0 fun j hj => ?_
  rw [Nat.zero_add]
  exact before_lastClear effects hj

theorem eventsOf_actions (effect : Effect) : eventsOf (actions paneId effect) = (image paneId effect).toList := by
  rcases effect with _ | host | _ | _ | _
  case host => cases host <;> simp [eventsOf, actions, route, image, sendMuxEvent]
  all_goals simp [eventsOf, actions, route, image, sendMuxEvent, fireWakeupOnly]

theorem registeredOf_actions (effect : Effect) : registeredOf (actions paneId effect) = (request effect).toList := by
  rcases effect with _ | host | _ | _ | _
  case host => cases host <;> simp [registeredOf, actions, route, request, sendMuxEvent]
  all_goals simp [registeredOf, actions, route, request, sendMuxEvent, fireWakeupOnly]

/-! ## Whole runs -/

/-- The events of a list of effects. -/
theorem eventsOf_flatMap : eventsOf (effects.flatMap (actions paneId)) = effects.filterMap (image paneId) := by
  induction effects with
  | nil => rfl
  | cons effect rest ih =>
    have hcons : eventsOf ((effect :: rest).flatMap (actions paneId)) =
        eventsOf (actions paneId effect) ++ eventsOf (rest.flatMap (actions paneId)) := by
      simp [eventsOf]
    rw [hcons, ih, eventsOf_actions, filterMap_cons]
    cases image paneId effect with
    | none | some => rfl

theorem registeredOf_flatMap : registeredOf (effects.flatMap (actions paneId)) = effects.filterMap request := by
  induction effects with
  | nil => rfl
  | cons effect rest ih =>
    have hcons : registeredOf ((effect :: rest).flatMap (actions paneId)) =
        registeredOf (actions paneId effect) ++ registeredOf (rest.flatMap (actions paneId)) := by
      simp [registeredOf]
    rw [hcons, ih, registeredOf_actions, filterMap_cons]
    cases request effect with
    | none | some => rfl

end

/-- Only notifications are left out of a batch, so no request is. -/
theorem request_kept : (kept effects).filterMap request = effects.filterMap request := by
  induction effects with
  | nil => rfl
  | cons effect rest ih =>
    rw [kept]
    split
    next h =>
      have hnone : request effect = none := by
        cases effect with
        | host => rfl
        | _ => simp [isNotification] at h
      rw [ih, filterMap_cons_none hnone]
    next => rw [filterMap_cons, filterMap_cons, ih]

namespace Router

/-- What has been routed so far, the pushed effects being given. -/
structure Routes (effects : List Effect) (r : Router) : Prop where
  buf : r.effectsBuf = []
  split : r.drained.flatten ++ r.sink = effects
  log : r.log = r.drained.flatMap fun batch => (kept batch).flatMap (actions r.paneId)

variable {effects : List Effect} {r : Router} (h : Routes effects r)
include h

theorem Routes.push (effect : Effect) :
    Routes (effects ++ [effect]) (r.push effect) where
  buf := h.buf
  split := by rw [← h.split, append_assoc]; rfl
  log := h.log

theorem Routes.drain : Routes effects r.drainEffectsIntoMuxEvents := by
  unfold drainEffectsIntoMuxEvents
  rw [h.buf, nil_append]
  by_cases hs : r.sink = []
  · rw [if_pos hs]
    exact { buf := hs, split := by rw [← h.split, hs], log := h.log }
  · rw [if_neg hs]
    refine { buf := rfl, split := ?_, log := ?_ }
    · rw [← h.split]
      simp
    · rw [h.log, routeBatch_eq]
      simp

end Router

@[simp] theorem paneId_apply (r : Router) (op : Router.Op) : (r.apply op).paneId = r.paneId := by
  cases op with
  | push effect => rfl
  | drain =>
    show r.drainEffectsIntoMuxEvents.paneId = r.paneId
    rw [Router.drainEffectsIntoMuxEvents]
    by_cases h : r.effectsBuf ++ r.sink = []
    · simp [h]
    · simp [h]

theorem paneId_run (ops : List Router.Op) (r : Router) : (ops.foldl Router.apply r).paneId = r.paneId := by
  induction ops generalizing r with
  | nil => rfl
  | cons op rest ih => rw [foldl_cons, ih, paneId_apply]

theorem routes (paneId : PaneId) (ops : List Router.Op) :
    Router.Routes (pushed ops) (ops.foldl Router.apply { paneId }) := by
  induction ops using List.reverseRecOn with
  | nil => exact { buf := rfl, split := rfl, log := rfl }
  | append_singleton ops op ih =>
    rw [foldl_append]
    cases op with
    | push effect =>
      have hpushed : pushed (ops ++ [.push effect]) = pushed ops ++ [effect] := by simp [pushed]
      rw [hpushed]
      exact ih.push effect
    | drain =>
      have hpushed : pushed (ops ++ [.drain]) = pushed ops := by simp [pushed]
      rw [hpushed]
      exact ih.drain

/-- The events of a log that is written batch by batch. -/
theorem eventsOf_batches (paneId : PaneId) (batches : List (List Effect)) :
    eventsOf (batches.flatMap fun batch => (kept batch).flatMap (actions paneId)) =
      batches.flatMap fun batch => (kept batch).filterMap (image paneId) := by
  rw [← flatMap_assoc, eventsOf_flatMap, filterMap_flatMap]

/-- Its registrations are all the requests of the batches. -/
theorem registeredOf_batches (paneId : PaneId) (batches : List (List Effect)) :
    registeredOf (batches.flatMap fun batch => (kept batch).flatMap (actions paneId)) =
      batches.flatten.filterMap request := by
  rw [← flatMap_assoc, registeredOf_flatMap, filterMap_flatMap, filterMap_flatten, flatMap_def]
  simp [request_kept]

/-- **Every effect is routed once and in order**: the batches drained and the queue are the effects pushed; the log
is, batch by batch, what the effects not superseded by a clear do; its events are their images; and every request of
a drained batch is registered once, right before its event. -/
theorem routes_run (paneId : PaneId) (ops : List Router.Op) :
    let r := ops.foldl Router.apply { paneId }
    r.drained.flatten ++ r.sink = pushed ops ∧
      r.log = r.drained.flatMap (fun batch => (kept batch).flatMap (actions paneId)) ∧
      r.events = r.drained.flatMap (fun batch => (kept batch).filterMap (image paneId)) ∧
      r.registered = r.drained.flatten.filterMap request ∧
      ∀ request reply, actions paneId (.hostRequest request reply) =
        [.register request reply, .send (requestEvent paneId reply request), .wakeup] := by
  intro r
  have h : r.Routes (pushed ops) := routes paneId ops
  have hlog : r.log = r.drained.flatMap fun batch => (kept batch).flatMap (actions paneId) := by
    rw [h.log, paneId_run ops _]
  refine ⟨h.split, hlog, ?_, ?_, fun _ _ => rfl⟩
  · show eventsOf r.log = _
    rw [hlog, eventsOf_batches]
  · show registeredOf r.log = _
    rw [hlog, registeredOf_batches]

/-- Not every effect that is kept has an event: a request for audio is drained and leaves nothing behind. -/
theorem audio_dropped :
    ¬ ∀ (paneId : PaneId) (ops : List Router.Op),
      let r := ops.foldl Router.apply { paneId }
      r.events.length = (r.drained.flatMap kept).length := by
  intro h
  have := h 1 [.push (.host (.audioRequest { kind := .tone, volume := 7, durationMs := 100, note := 60 })), .drain]
  exact absurd this (by decide)

end OriTerm.EffectRouter
