import OriTerm.Ui.TreeDispatch

/-!
# `Ui.Overlay` — the overlay manager and how it routes events

Popups and modals float above the window in a stack, the last on top. An event goes to the stack before the window:
`processMouseEvent`, `processHoverEvent`, `processKeyEvent` and `processKeyEventWithKeymap` decide which overlay gets it,
whether one is dismissed, and whether the window gets it after all (`PassThrough`).

The widgets of an overlay get their event through `dispatchToWidgetTree`. How a widget tree is laid out and hit-tested is
a parameter (`LayoutEngine`), as is what a widget does with a keymap action (`OverlayKit`); the compositor layers of the
overlays, which no decision reads, are left out.
-/

namespace OriTerm

variable {F : Type}

/-! ## Events and parameters -/

inductive MouseEventKind (F : Type) where
  | down (button : MouseButton)
  | up (button : MouseButton)
  | move
  | scroll (delta : ScrollDelta F)
  deriving DecidableEq, Repr

structure MouseEvent (F : Type) where
  kind : MouseEventKind F
  pos : Point F
  modifiers : Modifiers := 0
  deriving DecidableEq, Repr

namespace MouseEventKind

def isDown : MouseEventKind F → Bool
  | .down _ => true
  | _ => false

def isUp : MouseEventKind F → Bool
  | .up _ => true
  | _ => false

def isScroll : MouseEventKind F → Bool
  | .scroll _ => true
  | _ => false

end MouseEventKind

structure KeyEvent where
  key : Key
  modifiers : Modifiers := 0
  deriving DecidableEq, Repr

namespace InputEvent

def fromMouseEvent (event : MouseEvent F) : InputEvent F :=
  match event.kind with
  | .down button => .mouseDown event.pos button event.modifiers
  | .up button => .mouseUp event.pos button event.modifiers
  | .move => .mouseMove event.pos event.modifiers
  | .scroll delta => .scroll event.pos delta event.modifiers

def fromKeyEvent (event : KeyEvent) : InputEvent F := .keyDown event.key event.modifiers

def pos : InputEvent F → Option (Point F)
  | .mouseDown pos .. | .mouseUp pos .. | .mouseMove pos .. | .scroll pos .. => some pos
  | .keyDown .. | .keyUp .. => none

end InputEvent

/-- A toolkit whose widgets also take keymap actions, named as the keymap names them. -/
structure OverlayKit (F : Type) extends Toolkit F where
  keyContext : State → Option String
  handleKeymapAction : State → String → Rect F → State × Option Action

/-- Layout and hit testing of widget trees. -/
structure LayoutEngine (T : Toolkit F) where
  LayoutNode : Type
  Placement : Type
  /-- `Placement::AtPoint`. -/
  atPoint : Point F → Placement
  /-- The widget laid out in the viewport. -/
  computeLayout : Widget T → Rect F → LayoutNode
  /-- Where the content goes: anchor, laid-out content, viewport, placement. -/
  computeOverlayRect : Rect F → LayoutNode → Rect F → Placement → Rect F
  /-- The path of the deepest hit, in coordinates of the node. -/
  layoutHitTestPath : LayoutNode → Point F → List (HitEntry F)

/-! ## Keymap -/

structure KeyBinding where
  key : Key
  modifiers : Modifiers
  action : String
  context : Option String
  deriving DecidableEq, Repr

/-- The last index of a list whose element satisfies the predicate. -/
def rposition {α : Type} (p : α → Bool) : List α → Option Nat
  | [] => none
  | a :: l =>
    match rposition p l with
    | some i => some (i + 1)
    | none => if p a then some 0 else none

/-- `Keymap::lookup`: a binding of a context wins over a global one, a deeper context over the others. -/
def keymapLookup (bindings : List KeyBinding) (event : KeyEvent) (contextStack : List String) : Option String :=
  let best := bindings.foldl (fun (best : Option (Nat × KeyBinding)) binding =>
    if binding.key = event.key ∧ binding.modifiers = event.modifiers then
      let score := match binding.context with
        | none => some 0
        | some context => (rposition (· == context) contextStack).map (· + 1)
      match score with
      | none => best
      | some score =>
        match best with
        | some (bestScore, _) => if score ≤ bestScore then best else some (score, binding)
        | none => some (score, binding)
    else best) none
  best.map (·.2.action)

/-! ## The manager -/

abbrev OverlayId := Nat

inductive OverlayKind where
  | popup
  | modal
  | flash
  deriving DecidableEq, Repr

variable {K : OverlayKit F} (E : LayoutEngine K.toToolkit)

structure Overlay where
  id : OverlayId
  widget : Widget K.toToolkit
  anchor : Rect F
  placement : E.Placement
  kind : OverlayKind
  computedRect : Rect F
  layoutNode : Option E.LayoutNode := none

/-- What came of an event that an overlay got. -/
structure OverlayResponse (K : OverlayKit F) where
  action : Option K.Action
  handled : Bool

inductive OverlayEventResult (K : OverlayKit F) where
  | delivered (overlayId : OverlayId) (response : OverlayResponse K)
  | dismissed (overlayId : OverlayId)
  | blocked
  | passThrough

/-- The stack of overlays; the last is topmost. -/
structure OverlayManager where
  overlays : List (Overlay E) := []
  /-- Overlays being faded out, which get no events. -/
  dismissing : List (Overlay E) := []
  viewport : Rect F
  hoveredOverlay : Option Nat := none
  /-- Index of the overlay with mouse capture. -/
  capturedOverlay : Option Nat := none
  layoutDirty : Bool := false

namespace OverlayManager

variable {E}

/-! ### Lifecycle -/

section Lifecycle

variable [Zero F]

variable (m : OverlayManager E) (id : OverlayId) (widget : Widget K.toToolkit) (anchor : Rect F) (placement : E.Placement)

/-- A new overlay on top of the stack. -/
def push (kind : OverlayKind) (id : OverlayId) (widget : Widget K.toToolkit) (anchor : Rect F)
    (placement : E.Placement) : OverlayManager E :=
  { m with
    overlays := m.overlays ++
      [{ id := id, widget := widget, anchor := anchor, placement := placement, kind := kind,
         computedRect := Rect.default }]
    layoutDirty := true }

def pushOverlay : OverlayManager E :=
  m.push .popup id widget anchor placement

def pushModal : OverlayManager E :=
  m.push .modal id widget anchor placement

/-- A full-viewport flash, which goes straight to the overlays that fade out; there is at most one. -/
def pushFlash : OverlayManager E :=
  { m with
    dismissing := m.dismissing.filter (·.kind ≠ .flash) ++
      [{ id := id, widget := widget, anchor := m.viewport, placement := E.atPoint ⟨0, 0⟩, kind := .flash,
         computedRect := m.viewport }] }

/-- Dismisses an overlay that is off the stack: a popup goes at once, a modal fades out. -/
def dismissOverlay (overlay : Overlay E) : OverlayManager E :=
  if overlay.kind = .popup then m else { m with dismissing := m.dismissing ++ [overlay] }

/-- What every removal from the stack resets. -/
def afterRemoval : OverlayManager E :=
  { m with hoveredOverlay := none, capturedOverlay := none, layoutDirty := true }

/-- Begins dismissing a specific overlay; whether it was found. -/
def beginDismiss : OverlayManager E × Bool :=
  match m.overlays.findIdx? (·.id == id) with
  | none => (m, false)
  | some idx =>
    match m.overlays[idx]? with
    | none => (m, false)
    | some overlay =>
      (({ m with overlays := m.overlays.eraseIdx idx }.dismissOverlay overlay).afterRemoval, true)

/-- Begins dismissing the topmost overlay. -/
def beginDismissTopmost : OverlayManager E × Option OverlayId :=
  match m.overlays.getLast? with
  | none => (m, none)
  | some overlay =>
    (({ m with overlays := m.overlays.dropLast }.dismissOverlay overlay).afterRemoval, some overlay.id)

def clearAll : OverlayManager E :=
  { m with overlays := [], dismissing := [], hoveredOverlay := none, capturedOverlay := none, layoutDirty := false }

/-- Removes all popups from the stack; how many. -/
def clearPopups : OverlayManager E × Nat :=
  let retained := m.overlays.filter (·.kind ≠ .popup)
  let removed := m.overlays.length - retained.length
  let m := { m with overlays := retained }
  (if 0 < removed then m.afterRemoval else m, removed)

def replacePopup : OverlayManager E :=
  m.clearPopups.1.pushOverlay id widget anchor placement

/-- Removes the overlays that have faded out. -/
def cleanupDismissed (stillFading : OverlayId → Bool) : OverlayManager E :=
  { m with dismissing := m.dismissing.filter (stillFading ·.id) }

def setViewport [BEq F] (m : OverlayManager E) (viewport : Rect F) : OverlayManager E :=
  if m.viewport == viewport then m
  else
    { m with
      viewport := viewport
      layoutDirty := true
      dismissing := m.dismissing.map fun o => if o.kind = .flash then { o with computedRect := viewport } else o }

/-- The widgets of the stack edited. -/
def editWidgets (f : Widget K.toToolkit → Widget K.toToolkit) : OverlayManager E :=
  { m with overlays := m.overlays.map fun o => { o with widget := f o.widget } }

/-- The topmost overlay edited. -/
def editTopmost (f : Overlay E → Overlay E) : OverlayManager E :=
  { m with overlays := m.overlays.modify (m.overlays.length - 1) f }

/-- `f32::clamp`. -/
def clamp [LT F] [DecidableLT F] (x low high : F) : F := if x < low then low else if high < x then high else x

/-- Offsets the topmost overlay, clamped to the viewport. -/
def offsetTopmost [Add F] [Sub F] [LT F] [DecidableLT F] (m : OverlayManager E) (dx dy : F) : OverlayManager E :=
  m.editTopmost fun o =>
    let x := clamp (o.computedRect.x + dx) 0
      (if m.viewport.width - o.computedRect.width < 0 then 0 else m.viewport.width - o.computedRect.width)
    let y := clamp (o.computedRect.y + dy) 0
      (if m.viewport.height - o.computedRect.height < 0 then 0 else m.viewport.height - o.computedRect.height)
    { o with computedRect := { o.computedRect with x := x, y := y }, placement := E.atPoint ⟨x, y⟩ }

end Lifecycle

/-! ### Layout -/

/-- One overlay laid out in the viewport. -/
def layoutOverlay (viewport : Rect F) (o : Overlay E) : Overlay E :=
  let node := E.computeLayout o.widget viewport
  { o with computedRect := E.computeOverlayRect o.anchor node viewport o.placement, layoutNode := some node }

/-- Computes the layout of all overlays, when it is out of date. -/
def layoutOverlays (m : OverlayManager E) : OverlayManager E :=
  if m.layoutDirty then
    { m with
      overlays := m.overlays.map (layoutOverlay m.viewport)
      dismissing := m.dismissing.map (layoutOverlay m.viewport)
      layoutDirty := false }
  else m

/-- The topmost overlay is modal. -/
def hasModal (m : OverlayManager E) : Bool := m.overlays.getLast?.any (·.kind = .modal)

end OverlayManager

/-! ### Routing -/

section Routing

variable [Zero F] [Add F] [Sub F] [LT F] [LE F] [DecidableLT F] [DecidableLE F]

/-- The hit path of an event in an overlay. -/
def overlayHitPath (root : WidgetId) (event : InputEvent F) (overlayRect : Rect F) (layoutNode : Option E.LayoutNode)
    (captured : Bool) : List (HitEntry F) :=
  if event.isKeyboard then []
  else if captured then [⟨root, overlayRect⟩]
  else match layoutNode with
    | some node =>
      match event.pos with
      | some pos =>
        (E.layoutHitTestPath node ⟨pos.x - overlayRect.x, pos.y - overlayRect.y⟩).map fun entry =>
          { entry with
            bounds := ⟨entry.bounds.x + overlayRect.x, entry.bounds.y + overlayRect.y, entry.bounds.width,
              entry.bounds.height⟩ }
      | none => []
    | none => [⟨root, overlayRect⟩]

/-- Runs the propagation pipeline for the widget tree of an overlay: the widget, and the output unless it is empty. -/
def deliverViaPipeline (widget : Widget K.toToolkit) (event : InputEvent F) (overlayRect : Rect F)
    (layoutNode : Option E.LayoutNode) (captured : Bool) (now : Nat) :
    Widget K.toToolkit × Option (K.toToolkit.DispatchOutput × WidgetId) :=
  let root := widget.self.id
  let actions := planPropagation event (overlayHitPath E root event overlayRect layoutNode captured)
    (if captured then some root else none) (if event.isKeyboard then [root] else [])
  if actions.isEmpty then (widget, none)
  else
    let walk := K.toToolkit.dispatchToWidgetTree ⟨event, actions, now⟩ widget {}
    if walk.2.handled || !walk.2.actions.isEmpty then
      (walk.1, some ({ requests := walk.2.requests, actions := walk.2.actions, handled := walk.2.handled },
        walk.2.source.getD root))
    else (walk.1, none)

variable {E}

/-- The pipeline for an overlay. -/
def Overlay.deliver (o : Overlay E) (event : InputEvent F) (captured : Bool) (now : Nat) :
    Overlay E × Option (K.toToolkit.DispatchOutput × WidgetId) :=
  let result := deliverViaPipeline E o.widget event o.computedRect o.layoutNode captured now
  ({ o with widget := result.1 }, result.2)

/-- The response made of the output of a pipeline. -/
def OverlayResponse.ofOutput (output : Option (K.toToolkit.DispatchOutput × WidgetId)) : OverlayResponse K :=
  match output with
  | some (output, _) => ⟨output.actions.head?, output.handled⟩
  | none => ⟨none, false⟩

namespace OverlayManager

variable (m : OverlayManager E)

/-- Delivers a mouse event to the overlay that has captured the mouse. -/
def deliverCaptured (idx : Nat) (overlay : Overlay E) (event : MouseEvent F) (now : Nat) :
    OverlayManager E × OverlayEventResult K :=
  let result := overlay.deliver (.fromMouseEvent event) true now
  let released := match result.2 with
    | some (output, _) => output.requests.contains .clearActive || event.kind.isUp
    | none => event.kind.isUp
  ({ m with
      overlays := m.overlays.set idx result.1
      capturedOverlay := if released then none else m.capturedOverlay },
    .delivered overlay.id (.ofOutput result.2))

/-- Delivers a mouse event to a specific overlay by index. -/
def deliverToOverlay (idx : Nat) (event : MouseEvent F) (now : Nat) : OverlayManager E × OverlayEventResult K :=
  match m.overlays[idx]? with
  | none => (m, .passThrough)
  | some overlay =>
    let result := overlay.deliver (.fromMouseEvent event) false now
    let acquired := result.2.any (·.1.requests.contains .setActive)
    ({ m with
        overlays := m.overlays.set idx result.1
        capturedOverlay := if acquired then some idx else m.capturedOverlay },
      .delivered overlay.id (.ofOutput result.2))

/-- Routes a scroll event to the topmost popup. -/
def routeScrollToPopup (event : MouseEvent F) (now : Nat) : Option (OverlayManager E × OverlayEventResult K) :=
  (rposition (·.kind = .popup) m.overlays).map fun idx => m.deliverToOverlay idx event now

/-- The topmost overlay that contains the point. -/
def overlayAt (point : Point F) : Option Nat :=
  rposition (·.computedRect.contains point) m.overlays

/-- The end of the routing of a mouse event: hit test from topmost to bottom, and what happens outside all overlays. -/
def hitTestMouse (topmost : Overlay E) (event : MouseEvent F) (now : Nat) : OverlayManager E × OverlayEventResult K :=
  match m.overlayAt event.pos with
  | some i => m.deliverToOverlay i event now
  | none =>
    match topmost.kind with
    | .modal => (m, .blocked)
    | .popup =>
      if event.kind.isDown then (m.beginDismissTopmost.1, .dismissed topmost.id) else (m, .passThrough)
    | .flash => (m, .passThrough)

/-- The routing of a mouse event when no overlay has captured the mouse. -/
def routeMouse (topmost : Overlay E) (event : MouseEvent F) (now : Nat) : OverlayManager E × OverlayEventResult K :=
  if event.kind.isDown && decide (topmost.kind = .popup) && !topmost.computedRect.contains event.pos then
    (m.beginDismissTopmost.1, .dismissed topmost.id)
  else if event.kind.isScroll then (m.routeScrollToPopup event now).getD (m.hitTestMouse topmost event now)
  else m.hitTestMouse topmost event now

/-- Routes a mouse event through the overlay stack. -/
def processMouseEvent (event : MouseEvent F) (now : Nat) : OverlayManager E × OverlayEventResult K :=
  match m.layoutOverlays.overlays.getLast? with
  | none => (m, .passThrough)
  | some topmost =>
    let m := m.layoutOverlays
    match m.capturedOverlay.bind fun idx => m.overlays[idx]?.map (idx, ·) with
    | some (idx, overlay) => m.deliverCaptured idx overlay event now
    | none => ({ m with capturedOverlay := none } : OverlayManager E).routeMouse topmost event now

/-- Routes a hover event through the overlay stack. -/
def processHoverEvent (point : Point F) : OverlayManager E × OverlayEventResult K :=
  if m.overlays.isEmpty then ({ m with hoveredOverlay := none }, .passThrough)
  else
    let m := m.layoutOverlays
    let newHover := m.overlayAt point
    let m := { m with hoveredOverlay := newHover }
    match newHover.bind fun idx => m.overlays[idx]? with
    | some overlay => (m, .delivered overlay.id ⟨none, true⟩)
    | none => if m.hasModal then (m, .blocked) else (m, .passThrough)

/-- Routes a key event through the overlay stack: Escape dismisses the topmost overlay, which gets every other key. -/
def processKeyEvent (event : KeyEvent) (now : Nat) : OverlayManager E × OverlayEventResult K :=
  match m.overlays.getLast? with
  | none => (m, .passThrough)
  | some topmost =>
    if event.key = .escape then (m.beginDismissTopmost.1, .dismissed topmost.id)
    else
      let result := topmost.deliver (.fromKeyEvent event) false now
      let handled := result.2.any fun output => output.1.handled || !output.1.actions.isEmpty
      let m := { m with overlays := m.overlays.set (m.overlays.length - 1) result.1 }
      if handled || decide (topmost.kind = .modal) then (m, .delivered topmost.id (.ofOutput result.2))
      else (m, .passThrough)

/-- The root widget takes a keymap action. -/
def dispatchKeymapAction (o : Overlay E) (action : String) : Overlay E × Option K.Action :=
  let result := K.handleKeymapAction o.widget.self.state action o.computedRect
  ({ o with widget := .node { o.widget.self with state := result.1 } o.widget.children }, result.2)

/-- Routes a key event, by the keymap first. -/
def processKeyEventWithKeymap (event : KeyEvent) (keymap : List KeyBinding) (now : Nat) :
    OverlayManager E × OverlayEventResult K :=
  match m.overlays.getLast? with
  | none => (m, .passThrough)
  | some topmost =>
    match keymapLookup keymap event (K.keyContext topmost.widget.self.state).toList with
    | none => m.processKeyEvent event now
    | some action =>
      if action = "widget::FocusNext" ∨ action = "widget::FocusPrev" then m.processKeyEvent event now
      else if action = "widget::Dismiss" then (m.beginDismissTopmost.1, .dismissed topmost.id)
      else
        let result := dispatchKeymapAction topmost action
        ({ m with overlays := m.overlays.set (m.overlays.length - 1) result.1 }, .delivered topmost.id ⟨result.2, true⟩)

end OverlayManager

end Routing

end OriTerm
