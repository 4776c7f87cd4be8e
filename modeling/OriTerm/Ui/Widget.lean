import Mathlib.Data.BitVec
import Mathlib.Data.List.Flatten
import OriTerm.Ui.Interaction

/-!
# `Ui.Widget` — input events, widgets and their controllers

A widget has an identifier, the controllers attached to it and its children. What a controller does with an event, and
what a widget does with the actions of its controllers and with an event of its own, is the widget's business: it is a
parameter here (`Toolkit`). What the framework does is translated: which controllers of a widget an event reaches in
which phase, and how their answers are collected (`dispatchToControllers`).
-/

namespace OriTerm

/-! ## Geometry and events -/

/-- A point, over the number type of the coordinates. -/
structure Point (F : Type) where
  x : F
  y : F
  deriving DecidableEq, Repr

/-- A rectangle: top-left corner and size. -/
structure Rect (F : Type) where
  x : F
  y : F
  width : F
  height : F
  deriving BEq, Repr

namespace Rect

variable {F : Type}

/-- `Rect::default()`. -/
def default [Zero F] : Rect F := ⟨0, 0, 0, 0⟩

/-- Half-open containment: `[x, x+w) × [y, y+h)`. -/
def contains [Add F] [LT F] [LE F] [DecidableLT F] [DecidableLE F] (r : Rect F) (point : Point F) : Bool :=
  decide (r.x ≤ point.x) && decide (point.x < r.x + r.width) && decide (r.y ≤ point.y) && decide (point.y < r.y + r.height)

end Rect

inductive MouseButton where
  | left
  | right
  | middle
  deriving DecidableEq, Repr

/-- Keyboard modifier flags: shift 1, ctrl 2, alt 4, logo 8. -/
abbrev Modifiers := BitVec 8

inductive ScrollDelta (F : Type) where
  | pixels (x y : F)
  | lines (x y : F)
  deriving DecidableEq, Repr

/-- A key that widgets handle. -/
inductive Key where
  | enter | space | backspace | delete | escape | tab | home | «end»
  | arrowUp | arrowDown | arrowLeft | arrowRight | pageUp | pageDown
  | character (c : Char)
  deriving DecidableEq, Repr

/-- An input event of the propagation pipeline. -/
inductive InputEvent (F : Type) where
  | mouseDown (pos : Point F) (button : MouseButton) (modifiers : Modifiers)
  | mouseUp (pos : Point F) (button : MouseButton) (modifiers : Modifiers)
  | mouseMove (pos : Point F) (modifiers : Modifiers)
  | scroll (pos : Point F) (delta : ScrollDelta F) (modifiers : Modifiers)
  | keyDown (key : Key) (modifiers : Modifiers)
  | keyUp (key : Key) (modifiers : Modifiers)
  deriving DecidableEq, Repr

def InputEvent.isKeyboard {F : Type} : InputEvent F → Bool
  | keyDown .. | keyUp .. => true
  | _ => false

/-- Phase of event propagation: root to target, at the target, target to root. -/
inductive EventPhase where
  | capture
  | target
  | bubble
  deriving DecidableEq, Repr

/-! ## Controllers -/

/-- Side-effect requests of controllers, as a bit mask. -/
abbrev ControllerRequests := BitVec 8

namespace ControllerRequests

def none : ControllerRequests := 0
def paint : ControllerRequests := 0b00000001
def animFrame : ControllerRequests := 0b00000010
def setActive : ControllerRequests := 0b00000100
def clearActive : ControllerRequests := 0b00001000
def requestFocus : ControllerRequests := 0b00010000
def focusNext : ControllerRequests := 0b00100000
def focusPrev : ControllerRequests := 0b01000000

/-- The set contains all bits of `other`. -/
def contains (requests other : ControllerRequests) : Bool := requests &&& other == other

/-- Requests combined: bitwise or. -/
def union (requests other : ControllerRequests) : ControllerRequests := requests ||| other

@[simp] theorem union_none (r : ControllerRequests) : r.union none = r := by simp [union, none]

@[simp] theorem none_union (r : ControllerRequests) : none.union r = r := by simp [union, none]

theorem union_assoc (r s t : ControllerRequests) : (r.union s).union t = r.union (s.union t) := BitVec.or_assoc ..

theorem union_comm (r s : ControllerRequests) : r.union s = s.union r := BitVec.or_comm ..

instance : Std.Associative union := ⟨union_assoc⟩

instance : Std.Commutative union := ⟨union_comm⟩

end ControllerRequests

/-- What a controller is given with an event: its widget, and what the controllers before it have emitted and handled. -/
structure ControllerCtx (F Action : Type) where
  widgetId : WidgetId
  bounds : Rect F
  interaction : InteractionState
  now : Nat
  actions : List Action
  handled : Bool

/-- What a controller leaves: the emitted actions with those before it, its requests, and whether it handled the event. -/
structure ControllerReply (Action : Type) where
  actions : List Action
  requests : ControllerRequests := .none
  handled : Bool := false

/-- What a widget answers to an event that no controller handled. -/
structure OnInputResult (Action : Type) where
  handled : Bool := false
  action : Option Action := none
  requests : ControllerRequests := .none

/-- The behaviours of the widgets and controllers of an application. -/
structure Toolkit (F : Type) where
  Controller : Type
  /-- The state of a widget besides its identifier, its controllers and its children. -/
  State : Type
  Action : Type
  phase : Controller → EventPhase
  handleEvent : Controller → InputEvent F → ControllerCtx F Action → Controller × ControllerReply Action
  /-- Turns an action of a controller into one of the widget, or suppresses it. -/
  onAction : State → Action → Rect F → State × Option Action
  onInput : State → InputEvent F → Rect F → State × OnInputResult Action

/-- A widget without its children. -/
structure WidgetNode {F : Type} (T : Toolkit F) where
  id : WidgetId
  controllers : List T.Controller
  state : T.State

/-- A widget, with the children that `for_each_child_mut` visits. -/
inductive Widget {F : Type} (T : Toolkit F) where
  | node (self : WidgetNode T) (children : List (Widget T))

namespace Toolkit

variable {F : Type} (T : Toolkit F)

/-! ## Dispatch to the controllers of one widget -/

/-- The phase gate: at the target every controller is invoked, elsewhere those of the phase. -/
def admits (phase : EventPhase) (c : T.Controller) : Bool := decide (phase = .target ∨ T.phase c = phase)

/-- Output of `dispatchToControllers`. -/
structure DispatchOutput where
  requests : ControllerRequests := .none
  actions : List T.Action := []
  handled : Bool := false

/-- Everything a controller of a widget is told besides the event. -/
structure ControllerCtxArgs (F : Type) where
  widgetId : WidgetId
  bounds : Rect F
  interaction : InteractionState := {}
  now : Nat

/-- The loop over the controllers, from what the controllers before have put out. -/
def dispatchLoop (event : InputEvent F) (phase : EventPhase) (args : ControllerCtxArgs F) :
    List T.Controller → T.DispatchOutput → List T.Controller × T.DispatchOutput
  | [], out => ([], out)
  | c :: cs, out =>
    if T.admits phase c then
      let reply := T.handleEvent c event
        { widgetId := args.widgetId, bounds := args.bounds, interaction := args.interaction, now := args.now,
          actions := out.actions, handled := out.handled }
      let rest := dispatchLoop event phase args cs
        { requests := out.requests.union reply.2.requests, actions := reply.2.actions,
          handled := out.handled || reply.2.handled }
      (reply.1 :: rest.1, rest.2)
    else
      let rest := dispatchLoop event phase args cs out
      (c :: rest.1, rest.2)

/-- Dispatches an input event to all controllers of a widget, in declaration order. -/
def dispatchToControllers (controllers : List T.Controller) (event : InputEvent F) (phase : EventPhase)
    (args : ControllerCtxArgs F) : List T.Controller × T.DispatchOutput :=
  T.dispatchLoop event phase args controllers {}

/-- The indices of the controllers that a dispatch invokes. -/
def invoked (phase : EventPhase) (controllers : List T.Controller) : List Nat :=
  controllers.findIdxs (T.admits phase)

end Toolkit

end OriTerm
