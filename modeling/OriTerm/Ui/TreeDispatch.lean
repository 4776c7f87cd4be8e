import OriTerm.Ui.Widget

/-!
# `Ui.TreeDispatch` — the propagation plan and the walk that carries it out

`planPropagation` turns a path of the widget tree into a list of deliveries: `Capture` from the root to the target,
`Target`, `Bubble` back to the root. `dispatchToWidgetTree` carries a plan out in one depth-first walk: at each widget it
makes all deliveries of the plan to this widget, then lets the widget transform the collected actions and, when no
controller handled the event, answer the event itself; it descends unless the event is handled by then.

`iteratePlan` is the plan read literally: the deliveries one at a time, in the order of the list, each followed by the
widget's transformation of what its controllers emitted; a widget answers the event itself after its last delivery.
`Ui.PlanOrder` compares the two.
-/

namespace OriTerm

open List

variable {F : Type}

/-! ## The plan -/

/-- A single delivery of the propagation sequence. -/
structure DeliveryAction (F : Type) where
  widgetId : WidgetId
  phase : EventPhase
  bounds : Rect F

/-- An entry of a hit test path, root first. -/
structure HitEntry (F : Type) where
  widgetId : WidgetId
  bounds : Rect F

/-- Two-phase propagation for mouse events through the hit path. -/
def planMousePropagation (path : List (HitEntry F)) : List (DeliveryAction F) :=
  match path.getLast? with
  | none => []
  | some last =>
    path.map (fun entry => ⟨entry.widgetId, .capture, entry.bounds⟩) ++
      ⟨last.widgetId, .target, last.bounds⟩ ::
      path.dropLast.reverse.map (fun entry => ⟨entry.widgetId, .bubble, entry.bounds⟩)

/-- The event bypasses hit testing while a widget has captured the mouse. -/
def InputEvent.bypasses : InputEvent F → Bool
  | .mouseMove .. | .mouseUp .. => true
  | _ => false

section Plans

variable [Zero F]

/-- Routes mouse events during active capture. -/
def planCapturedMouse (event : InputEvent F) (activeId : WidgetId) (path : List (HitEntry F)) :
    List (DeliveryAction F) :=
  match event with
  | .mouseMove .. | .mouseUp .. =>
    let entry := (path.find? (·.widgetId == activeId)).or path.getLast?
    [⟨activeId, .target, entry.elim Rect.default (·.bounds)⟩]
  | .scroll .. | .mouseDown .. => planMousePropagation path
  | .keyDown .. | .keyUp .. => []

/-- Two-phase propagation for keyboard events through the focus path. -/
def planKeyboardPropagation (focusPath : List WidgetId) : List (DeliveryAction F) :=
  match focusPath.getLast? with
  | none => []
  | some last =>
    focusPath.map (fun id => ⟨id, .capture, Rect.default⟩) ++
      ⟨last, .target, Rect.default⟩ ::
      focusPath.dropLast.reverse.map (fun id => ⟨id, .bubble, Rect.default⟩)

/-- Plans the propagation sequence for an input event. -/
def planPropagation (event : InputEvent F) (hitPath : List (HitEntry F)) (activeWidget : Option WidgetId)
    (focusPath : List WidgetId) : List (DeliveryAction F) :=
  if event.isKeyboard then planKeyboardPropagation focusPath
  else match activeWidget with
    | some activeId => planCapturedMouse event activeId hitPath
    | none => planMousePropagation hitPath

end Plans

/-! ## Results -/

/-- One controller invoked: of which widget, in which phase, at which place among its controllers. -/
structure Delivery where
  widgetId : WidgetId
  phase : EventPhase
  index : Nat
  deriving DecidableEq, Repr

namespace Toolkit

variable (T : Toolkit F)

/-- Accumulated result of a dispatch. The code has no `delivered`: it lists the controllers invoked so far, in order. -/
structure TreeDispatchResult where
  handled : Bool := false
  actions : List T.Action := []
  requests : ControllerRequests := .none
  source : Option WidgetId := none
  delivered : List Delivery := []

variable {T}

namespace TreeDispatchResult

variable (result : T.TreeDispatchResult)

/-- Merges the output of one dispatch to a widget's controllers. -/
def merge (output : T.DispatchOutput) (widgetId : WidgetId) : T.TreeDispatchResult :=
  { result with
    actions := result.actions ++ output.actions
    requests := result.requests.union output.requests
    handled := result.handled || output.handled
    source := if output.handled && !result.handled then some widgetId else result.source }

/-- The controllers about to be invoked. -/
def record (widgetId : WidgetId) (phase : EventPhase) (controllers : List T.Controller) : T.TreeDispatchResult :=
  { result with delivered := result.delivered ++ (T.invoked phase controllers).map (⟨widgetId, phase, ·⟩) }

/-- What the widget itself answered to the event. -/
def answered (input : OnInputResult T.Action) (widgetId : WidgetId) : T.TreeDispatchResult :=
  { result with
    handled := result.handled || input.handled
    source := if input.handled then some widgetId else result.source
    actions := result.actions ++ input.action.toList
    requests := result.requests.union input.requests }

end TreeDispatchResult

variable (T)

/-! ## The walk -/

/-- Read-only inputs of one walk. -/
structure DispatchInputs (F : Type) where
  event : InputEvent F
  actions : List (DeliveryAction F)
  now : Nat

/-- `filter_map` with `on_action`, which may change the widget. -/
def transformActions (bounds : Rect F) : T.State → List T.Action → T.State × List T.Action
  | state, [] => (state, [])
  | state, a :: actions =>
    let first := T.onAction state a bounds
    let rest := transformActions bounds first.1 actions
    (rest.1, first.2.toList ++ rest.2)

/-- The loop over the deliveries to one widget, left when the event is handled. -/
def deliverActions (event : InputEvent F) (now : Nat) (id : WidgetId) :
    List (DeliveryAction F) → List T.Controller → T.TreeDispatchResult → List T.Controller × T.TreeDispatchResult
  | [], controllers, result => (controllers, result)
  | action :: rest, controllers, result =>
    let output := T.dispatchToControllers controllers event action.phase
      { widgetId := id, bounds := action.bounds, now := now }
    let result := (result.record id action.phase controllers).merge output.2 id
    if result.handled then (output.1, result) else deliverActions event now id rest output.1 result

/-- What the walk does at a widget that the plan names. -/
def dispatchToNode [Zero F] (inputs : DispatchInputs F) (n : WidgetNode T) (result : T.TreeDispatchResult) :
    WidgetNode T × T.TreeDispatchResult :=
  let mine := inputs.actions.filter (·.widgetId == n.id)
  let bounds := mine.head?.elim Rect.default (·.bounds)
  let heard :=
    if n.controllers.isEmpty then (n.controllers, result)
    else T.deliverActions inputs.event inputs.now n.id mine n.controllers result
  let transformed := T.transformActions bounds n.state heard.2.actions
  let result := { heard.2 with actions := transformed.2 }
  if result.handled then ({ n with controllers := heard.1, state := transformed.1 }, result)
  else
    let input := T.onInput transformed.1 inputs.event bounds
    ({ n with controllers := heard.1, state := input.1 }, result.answered input.2 n.id)

/-- One widget of the walk. -/
def visit [Zero F] (inputs : DispatchInputs F) (n : WidgetNode T) (result : T.TreeDispatchResult) :
    WidgetNode T × T.TreeDispatchResult :=
  if inputs.actions.any (·.widgetId == n.id) then T.dispatchToNode inputs n result else (n, result)

mutual

/-- Walks a widget tree, dispatching the deliveries to the controllers of the widgets they name. -/
def dispatchToWidgetTree [Zero F] (inputs : DispatchInputs F) :
    Widget T → T.TreeDispatchResult → Widget T × T.TreeDispatchResult
  | .node n children, result =>
    if result.handled then (.node n children, result)
    else
      let here := T.visit inputs n result
      if here.2.handled then (.node here.1 children, here.2)
      else
        let below := dispatchToChildren inputs children here.2
        (.node here.1 below.1, below.2)

def dispatchToChildren [Zero F] (inputs : DispatchInputs F) :
    List (Widget T) → T.TreeDispatchResult → List (Widget T) × T.TreeDispatchResult
  | [], result => ([], result)
  | child :: children, result =>
    let first := dispatchToWidgetTree inputs child result
    let rest := dispatchToChildren inputs children first.2
    (first.1 :: rest.1, rest.2)

end

/-! ## The plan, one action at a time -/

/-- The widget of the identifier changed. -/
def updateNode (id : WidgetId) (f : WidgetNode T → WidgetNode T) (nodes : List (WidgetNode T)) : List (WidgetNode T) :=
  nodes.map fun n => if n.id = id then f n else n

/-- One delivery of the plan: to the controllers of the widget, which then transforms what they emitted. -/
def deliverAction (event : InputEvent F) (now : Nat) (action : DeliveryAction F)
    (s : List (WidgetNode T) × T.TreeDispatchResult) : List (WidgetNode T) × T.TreeDispatchResult :=
  match s.1.find? (·.id == action.widgetId) with
  | none => s
  | some n =>
    let output := T.dispatchToControllers n.controllers event action.phase
      { widgetId := n.id, bounds := action.bounds, now := now }
    let transformed := T.transformActions action.bounds n.state output.2.actions
    (T.updateNode n.id (fun m => { m with controllers := output.1, state := transformed.1 }) s.1,
      (s.2.record n.id action.phase n.controllers).merge { output.2 with actions := transformed.2 } n.id)

/-- The widget that the delivery names answers the event itself. -/
def answerItself (event : InputEvent F) (action : DeliveryAction F)
    (s : List (WidgetNode T) × T.TreeDispatchResult) : List (WidgetNode T) × T.TreeDispatchResult :=
  match s.1.find? (·.id == action.widgetId) with
  | none => s
  | some n =>
    let input := T.onInput n.state event action.bounds
    (T.updateNode n.id (fun m => { m with state := input.1 }) s.1, s.2.answered input.2 n.id)

/-- **The plan carried out one action at a time**, up to the first that handles the event. A widget answers the event
    itself after its last delivery, when no controller has handled it. -/
def iteratePlan (event : InputEvent F) (now : Nat) :
    List (DeliveryAction F) → List (WidgetNode T) × T.TreeDispatchResult → List (WidgetNode T) × T.TreeDispatchResult
  | [], s => s
  | action :: rest, s =>
    if s.2.handled then s
    else
      let s := T.deliverAction event now action s
      if s.2.handled || rest.any (·.widgetId == action.widgetId) then iteratePlan event now rest s
      else iteratePlan event now rest (T.answerItself event action s)

end Toolkit

/-! ## The widgets of a tree -/

namespace Widget

variable {T : Toolkit F}

mutual

/-- The widgets of the tree, parents before their children. -/
def nodes : Widget T → List (WidgetNode T)
  | .node n children => n :: nodesAll children

def nodesAll : List (Widget T) → List (WidgetNode T)
  | [] => []
  | child :: children => child.nodes ++ nodesAll children

end

def self : Widget T → WidgetNode T
  | .node n _ => n

def children : Widget T → List (Widget T)
  | .node _ children => children

def ids (w : Widget T) : List WidgetId := w.nodes.map (·.id)

/-- A path of the tree from its root down, by identifiers. -/
inductive IsPath : Widget T → List WidgetId → Prop where
  | root (w : Widget T) : IsPath w [w.self.id]
  | child (w child : Widget T) (path : List WidgetId) : child ∈ w.children → IsPath child path →
      IsPath w (w.self.id :: path)

theorem nodesAll_eq (children : List (Widget T)) : nodesAll children = children.flatMap nodes := by
  induction children with
  | nil => rfl
  | cons child children ih => rw [nodesAll, ih, flatMap_cons]

theorem nodes_eq (w : Widget T) : w.nodes = w.self :: w.children.flatMap nodes := by
  obtain ⟨n, children⟩ := w
  rw [nodes, nodesAll_eq, self, Widget.children]

/-- A path runs through the widgets of the tree in their order. -/
theorem IsPath.sublist {w : Widget T} {path : List WidgetId} (h : w.IsPath path) : path.Sublist w.ids := by
  induction h with
  | root w =>
    rw [ids, nodes_eq]
    exact (nil_sublist _).cons_cons _
  | child w child path hmem _ ih =>
    rw [ids, nodes_eq]
    refine (ih.trans ?_).cons_cons _
    obtain ⟨before, after, hsplit⟩ := append_of_mem hmem
    rw [hsplit, flatMap_append, flatMap_cons, map_append, map_append]
    exact (sublist_append_left _ _).trans (sublist_append_right _ _)

end Widget

/-! ## The walk is a pass over the widgets

Nesting does not matter to the walk: every widget is visited in order until the event is handled, and none after that. -/

namespace Toolkit

variable (T : Toolkit F) [Zero F]

/-- The widgets visited in order until the event is handled. -/
def visitAll (inputs : DispatchInputs F) :
    List (WidgetNode T) → T.TreeDispatchResult → List (WidgetNode T) × T.TreeDispatchResult
  | [], result => ([], result)
  | n :: nodes, result =>
    if result.handled then (n :: nodes, result)
    else
      let here := T.visit inputs n result
      let rest := visitAll inputs nodes here.2
      (here.1 :: rest.1, rest.2)

variable {T}

theorem visitAll_handled (inputs : DispatchInputs F) (nodes : List (WidgetNode T)) (result : T.TreeDispatchResult)
    (h : result.handled = true) : T.visitAll inputs nodes result = (nodes, result) := by
  cases nodes with
  | nil => rfl
  | cons n nodes => rw [visitAll, if_pos h]

theorem visitAll_append (inputs : DispatchInputs F) (front back : List (WidgetNode T)) (result : T.TreeDispatchResult) :
    T.visitAll inputs (front ++ back) result =
      ((T.visitAll inputs front result).1 ++ (T.visitAll inputs back (T.visitAll inputs front result).2).1,
        (T.visitAll inputs back (T.visitAll inputs front result).2).2) := by
  induction front generalizing result with
  | nil => rfl
  | cons n front ih =>
    by_cases h : result.handled = true
    · rw [visitAll_handled inputs _ result h, visitAll_handled inputs _ result h, visitAll_handled inputs _ result h]
    · simp [visitAll, if_neg h, ih]

mutual

/-- **The walk over a tree is the pass over its widgets.** -/
theorem nodes_dispatchToWidgetTree (inputs : DispatchInputs F) (w : Widget T) (result : T.TreeDispatchResult) :
    ((T.dispatchToWidgetTree inputs w result).1.nodes, (T.dispatchToWidgetTree inputs w result).2) =
      T.visitAll inputs w.nodes result := by
  cases w with
  | node n children =>
    by_cases h : result.handled = true
    · rw [dispatchToWidgetTree, if_pos h, visitAll_handled inputs _ result h]
    · have hbelow := nodes_dispatchToChildren inputs children (T.visit inputs n result).2
      by_cases hn : (T.visit inputs n result).2.handled = true
      · simp [dispatchToWidgetTree, if_neg h, if_pos hn, Widget.nodes, visitAll, visitAll_handled inputs _ _ hn]
      · simp [dispatchToWidgetTree, if_neg h, if_neg hn, Widget.nodes, visitAll, ← hbelow]

theorem nodes_dispatchToChildren (inputs : DispatchInputs F) (children : List (Widget T))
    (result : T.TreeDispatchResult) :
    (Widget.nodesAll (T.dispatchToChildren inputs children result).1, (T.dispatchToChildren inputs children result).2) =
      T.visitAll inputs (Widget.nodesAll children) result := by
  cases children with
  | nil => rw [dispatchToChildren, Widget.nodesAll, visitAll]
  | cons child children =>
    have hfirst := nodes_dispatchToWidgetTree inputs child result
    have hrest := nodes_dispatchToChildren inputs children (T.dispatchToWidgetTree inputs child result).2
    rw [dispatchToChildren, Widget.nodesAll, Widget.nodesAll, visitAll_append, ← hfirst, ← hrest]

end

end Toolkit

end OriTerm
