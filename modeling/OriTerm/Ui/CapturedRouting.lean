import OriTerm.Ui.HitTest

/-!
# `Ui.CapturedRouting` — the deliveries of a mouse event while a widget is active

`buildDispatchHitPath` gives the active widget an entry of its own when the hit test at the pointer did not reach it, with
the rectangle that `findRect` computes; the planner then decides by the kind of event. The entry is meant for the captured
moves, but is planned as the target of a press or a scroll too.

**`capture_iff`** — when the plan is as documented.
-/

namespace OriTerm

open List

variable {F : Type} [Coordinate F]

variable (widget : WidgetId) (event : InputEvent F) (bounds : Rect F) (layoutNode : Option (LayoutNode F))

mutual

/-- The widget's rectangle, moved by the origin of the content area of every ancestor. -/
def LayoutNode.findRect (target : WidgetId) : LayoutNode F → Option (Rect F)
  | .node n children => if n.widgetId = some target then some n.rect else findRectIn target n.contentRect children

def findRectIn (target : WidgetId) (content : Rect F) : List (LayoutNode F) → Option (Rect F)
  | [] => none
  | c :: cs =>
    match c.findRect target with
    | some r => some (r.offset content.x content.y)
    | none => findRectIn target content cs

end

/-- Hit-tests the layout under `bounds`. -/
def offsetHitPath : List (HitEntry F) :=
  match layoutNode, event.pos with
  | some node, some pos =>
    (node.layoutHitTestPath ⟨pos.x - bounds.x, pos.y - bounds.y⟩).map fun entry =>
      { entry with bounds := entry.bounds.offset bounds.x bounds.y }
  | _, _ => []

/-- The hit path of one event delivery. -/
def buildDispatchHitPath (activeWidget : Option WidgetId) : List (HitEntry F) :=
  if event.isKeyboard then []
  else match activeWidget with
    | some activeId =>
      let path := offsetHitPath event bounds layoutNode
      if path.any (·.widgetId == activeId) then path
      else
        let activeRect := (layoutNode.bind (·.findRect activeId)).map (·.offset bounds.x bounds.y)
        path ++ [⟨activeId, activeRect.getD bounds⟩]
    | none => if layoutNode.isSome then offsetHitPath event bounds layoutNode else [⟨widget, bounds⟩]

/-- The deliveries planned for an event. -/
def deliveries (focusPath : List WidgetId) (activeWidget : Option WidgetId) : List (DeliveryAction F) :=
  planPropagation event (buildDispatchHitPath widget event bounds layoutNode activeWidget) activeWidget focusPath

/-! ## The bounds on screen -/

/-- A node of the widget, and its rectangle moved by the scroll offsets above it. -/
inductive LayoutNode.Shows (id : WidgetId) : LayoutNode F → Rect F → Prop where
  | self (n : LayoutBox F) (children : List (LayoutNode F)) : n.widgetId = some id → Shows id (.node n children) n.rect
  | child (n : LayoutBox F) (children : List (LayoutNode F)) (c : LayoutNode F) (r : Rect F) :
      c ∈ children → Shows id c r → Shows id (.node n children) (n.toViewport r)

namespace LayoutNode

/-- An entry of the path has its widget's bounds. -/
theorem IsBranch.shows {node : LayoutNode F} {branch : List (LayoutBox F)} (h : node.IsBranch branch) :
    ∀ e ∈ branchEntries branch, node.Shows e.widgetId e.bounds := by
  have hentry : ∀ (n : LayoutBox F) children, ∀ e ∈ n.entry.toList,
      (LayoutNode.node n children).Shows e.widgetId e.bounds := by
    intro n children e he
    rw [LayoutBox.entry] at he
    split at he
    · cases he
    · obtain ⟨id, hid, rfl⟩ := Option.map_eq_some_iff.mp (Option.mem_toList.mp he)
      exact .self n children hid
  induction h with
  | root n children => simpa [branchEntries] using hentry n children
  | child n children c branch hc _ ih =>
    intro e he
    rcases mem_append.mp he with he | he
    · exact hentry n children e he
    · obtain ⟨below, hbelow, rfl⟩ := mem_map.mp he
      exact .child n children c below.bounds hc (ih below hbelow)

theorem shows_of_mem {root : LayoutNode F} {point : Point F} {e : HitEntry F} (he : e ∈ root.layoutHitTestPath point) :
    root.Shows e.widgetId e.bounds := by
  unfold layoutHitTestPath at he
  cases hpath : root.hitTestPathNode point none with
  | none => rw [hpath] at he; cases he
  | some path =>
    obtain ⟨-, branch, hbranch, rfl⟩ := (hitTestNode_eq root point none).2 path hpath
    rw [hpath] at he
    exact hbranch.shows e he

theorem Shows.findRect {id : WidgetId} {node : LayoutNode F} {r : Rect F} (h : node.Shows id r) :
    ∃ r, node.findRect id = some r := by
  induction h with
  | self n children hid => exact ⟨n.rect, by rw [LayoutNode.findRect, if_pos hid]⟩
  | child n children c r hc _ ih =>
    rw [LayoutNode.findRect]
    split
    · exact ⟨_, rfl⟩
    · obtain ⟨r, hr⟩ := ih
      induction children with
      | nil => cases hc
      | cons c' cs ihcs =>
        rw [findRectIn]
        cases hc' : c'.findRect id with
        | some r' => exact ⟨_, rfl⟩
        | none =>
          rcases mem_cons.mp hc with rfl | hc
          · rw [hc'] at hr; cases hr
          · exact ihcs hc

end LayoutNode

/-- The widget is on screen with these bounds, under the bounds of the root. -/
def OwnBounds (bounds : Rect F) (id : WidgetId) (r : Rect F) : Prop :=
  ∀ node ∈ layoutNode, (∃ s, node.Shows id s) → ∃ s, node.Shows id s ∧ r = s.offset bounds.x bounds.y

theorem ownBounds_of_mem {event : InputEvent F} {bounds : Rect F} {node : LayoutNode F} {e : HitEntry F}
    (he : e ∈ offsetHitPath event bounds (some node)) : OwnBounds (some node) bounds e.widgetId e.bounds := by
  unfold offsetHitPath at he
  split at he
  · next hnode _ =>
    cases hnode
    obtain ⟨shown, hshown, rfl⟩ := mem_map.mp he
    rintro _ ⟨⟩ -
    exact ⟨shown.bounds, LayoutNode.shows_of_mem hshown, rfl⟩
  · cases he

omit [Coordinate F] in
theorem length_planMousePropagation (path : List (HitEntry F)) :
    (planMousePropagation path).length = 2 * path.length := by
  unfold planMousePropagation
  cases h : path.getLast? with
  | none => rw [getLast?_eq_none_iff.mp h]; rfl
  | some last =>
    have hpos := length_pos_of_mem (mem_of_getLast? h)
    simp only [length_append, length_map, length_cons, length_reverse, length_dropLast]
    omega

section Plans

variable {widget a : WidgetId} {event : InputEvent F} {bounds : Rect F} {layoutNode : Option (LayoutNode F)}
  {focusPath : List WidgetId}

section

variable (hkey : event.isKeyboard = false)
include hkey

/-- The hit path of a mouse event with no active widget. -/
theorem hitPath_free : buildDispatchHitPath widget event bounds layoutNode none =
    if layoutNode.isSome then offsetHitPath event bounds layoutNode else [⟨widget, bounds⟩] := by
  rw [buildDispatchHitPath, hkey]
  rfl

/-- The hit path of a mouse event with an active widget. -/
theorem hitPath_active :
    buildDispatchHitPath widget event bounds layoutNode (some a) =
      if (offsetHitPath event bounds layoutNode).any (·.widgetId == a) then offsetHitPath event bounds layoutNode
      else offsetHitPath event bounds layoutNode ++
        [⟨a, ((layoutNode.bind (·.findRect a)).map (·.offset bounds.x bounds.y)).getD bounds⟩] := by
  rw [buildDispatchHitPath, hkey]
  rfl

/-- **A press or a scroll** is planned as if nothing were active exactly if the active widget is on the path. -/
theorem deliveries_press_iff (hbypass : event.bypasses = false) :
    deliveries widget event bounds layoutNode focusPath (some a) =
        deliveries widget event bounds layoutNode focusPath none ↔
      a ∈ (buildDispatchHitPath widget event bounds layoutNode none).map (·.widgetId) := by
  have hactive : ∀ path : List (HitEntry F), planPropagation event path (some a) focusPath = planMousePropagation path := by
    cases event with
    | mouseMove | mouseUp => cases hbypass
    | keyDown | keyUp => cases hkey
    | mouseDown | scroll => exact fun _ => rfl
  have hfree : ∀ path : List (HitEntry F), planPropagation event path none focusPath = planMousePropagation path :=
    fun _ => by rw [planPropagation, hkey]; rfl
  rw [deliveries, deliveries, hactive, hfree, hitPath_active hkey, hitPath_free hkey]
  cases layoutNode with
  | none =>
    have hnil : offsetHitPath event bounds none = [] := rfl
    simp [hnil, planMousePropagation]
  | some node =>
    by_cases hmem : ∃ e ∈ offsetHitPath event bounds (some node), e.widgetId = a
    · simp [hmem]
    · have hlen : ∀ own path, planMousePropagation (path ++ [(⟨a, own⟩ : HitEntry F)]) ≠ planMousePropagation path :=
        fun own path h => by simpa [length_planMousePropagation] using congrArg length h
      simp [hmem, hlen]

end

/-- **A move or a release** goes to the active widget alone, with its own bounds exactly if it is on the path or
`findRect` gives them. -/
theorem deliveries_captured_iff (hbypass : event.bypasses = true) :
    (∃ r, OwnBounds layoutNode bounds a r ∧
        deliveries widget event bounds layoutNode focusPath (some a) = [⟨a, .target, r⟩]) ↔
      a ∈ (buildDispatchHitPath widget event bounds layoutNode none).map (·.widgetId) ∨
        ∀ node ∈ layoutNode, ∀ r ∈ node.findRect a, OwnBounds layoutNode bounds a (r.offset bounds.x bounds.y) := by
  have hplan : ∀ path : List (HitEntry F), planPropagation event path (some a) focusPath =
      [⟨a, .target, ((path.find? (·.widgetId == a)).or path.getLast?).elim Rect.default (·.bounds)⟩] := by
    cases event with
    | mouseMove | mouseUp => exact fun _ => rfl
    | mouseDown | scroll | keyDown | keyUp => cases hbypass
  have hkey : event.isKeyboard = false := by cases event <;> first | rfl | cases hbypass
  rw [deliveries, hplan, hitPath_active hkey, hitPath_free hkey]
  cases layoutNode with
  | none => simp [OwnBounds]
  | some node =>
    by_cases hmem : ∃ e ∈ offsetHitPath event bounds (some node), e.widgetId = a
    · have hsome : ((offsetHitPath event bounds (some node)).find? (·.widgetId == a)).isSome :=
        find?_isSome.mpr (by simpa using hmem)
      obtain ⟨e, he⟩ := Option.isSome_iff_exists.mp hsome
      have hid : e.widgetId = a := by simpa using find?_some he
      have hown := ownBounds_of_mem (mem_of_find?_eq_some he)
      refine iff_of_true ?_ (.inl (by simpa using hmem))
      simpa [hmem, he] using hid ▸ hown
    · have hfind : (offsetHitPath event bounds (some node)).find? (·.widgetId == a) = none :=
        find?_eq_none.mpr (by simpa using hmem)
      cases hrect : node.findRect a with
      | none =>
        have hhidden : ∀ s, ¬ node.Shows a s := fun s hs => by
          obtain ⟨r, hr⟩ := hs.findRect
          rw [hr] at hrect
          cases hrect
        simp [OwnBounds, hhidden]
      | some r => simp [hmem, hfind, hrect]

end Plans

end OriTerm
