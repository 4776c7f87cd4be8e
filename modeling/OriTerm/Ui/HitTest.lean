import OriTerm.Ui.Overlay

/-!
# `Ui.HitTest` — the widget under a point

The layout tree is searched back to front for the deepest widget under a point, once for the widget alone
(`layoutHitTest`) and once for the path from the root (`layoutHitTestPath`). A node is passed over with all below it when
it takes no pointer events, or the point is outside its hit area or outside the clip. Clips are intersected on the way
down, and with the point moved by the scroll offset of every node passed.

**`hit_tests_agree`** — the widget is the last of the path; the path are the hittable nodes of one branch, with the
bounds they have on screen; and both are what the choice at each level makes of the nodes that are kept
(`LayoutNode.keep`, `KeptNode.choose`).
-/

namespace OriTerm

open List

/-! ## The layout tree -/

inductive HitTestBehavior where
  | deferToChild
  | opaqueToChildren
  | translucent
  deriving DecidableEq, Repr

/-- A layout node without its children. `sense` is the mask of the interactions that the widget declares. -/
structure LayoutBox (F : Type) where
  rect : Rect F
  contentRect : Rect F
  widgetId : Option WidgetId
  sense : BitVec 8
  hitTestBehavior : HitTestBehavior
  clip : Bool
  disabled : Bool
  interactRadius : F
  contentOffset : F × F
  pointerEvents : Bool

inductive LayoutNode (F : Type) where
  | node (self : LayoutBox F) (children : List (LayoutNode F))

variable {F : Type}

def LayoutNode.self : LayoutNode F → LayoutBox F
  | .node n _ => n

namespace LayoutBox

variable (n : LayoutBox F)

def isHittable : Bool := n.widgetId.isSome && n.sense != 0 && !n.disabled

/-- Opaque widgets absorb the event. -/
def absorbs : Bool := n.hitTestBehavior == .opaqueToChildren && n.isHittable

/-- The entry of the node in a path. -/
def entry : Option (HitEntry F) :=
  if n.disabled || n.sense == 0 then none else n.widgetId.map (⟨·, n.rect⟩)

theorem isSome_entry : n.entry.isSome = n.isHittable := by
  unfold entry isHittable
  cases n.widgetId <;> cases n.disabled <;> by_cases h : n.sense = 0#8 <;> simp [h]

/-- The path search asks the same of an opaque widget. -/
theorem entry_absorbs : (n.entry.isSome && n.hitTestBehavior == .opaqueToChildren) = n.absorbs := by
  rw [isSome_entry, absorbs, Bool.and_comm]

theorem entry_of_hittable (h : n.isHittable = true) : ∃ id, n.widgetId = some id ∧ n.entry = some ⟨id, n.rect⟩ := by
  rw [isHittable, Bool.and_eq_true, Bool.and_eq_true] at h
  obtain ⟨id, hid⟩ := Option.isSome_iff_exists.mp h.1.1
  exact ⟨id, hid, by simp_all [entry]⟩

end LayoutBox

/-! ## Geometry -/

/-- The number type of the layout: `f32` in the code, of which no law is used. -/
class Coordinate (F : Type) extends Zero F, Add F, Sub F, Mul F, LT F, LE F, BEq F where
  decLT : DecidableLT F
  decLE : DecidableLE F
  max : F → F → F
  min : F → F → F
  two : F
  half : F
  infinity : F
  /-- A dimension up to this one counts as zero. -/
  trivialSize : F

instance Coordinate.decidableLT [Coordinate F] : DecidableLT F := Coordinate.decLT

instance Coordinate.decidableLE [Coordinate F] : DecidableLE F := Coordinate.decLE

open Coordinate

variable [Coordinate F]

/-- Clamps a dimension value. -/
def clampDimension (v : F) : F := if trivialSize < v then v else 0

namespace Rect

/-- A rectangle from raw coordinates and dimensions. -/
def new (x y width height : F) : Rect F := ⟨x, y, clampDimension width, clampDimension height⟩

def offset (r : Rect F) (dx dy : F) : Rect F := new (r.x + dx) (r.y + dy) r.width r.height

/-- Computes the intersection of two rectangles. -/
def intersectRects (a b : Rect F) : Rect F :=
  let x₁ := max a.x b.x
  let y₁ := max a.y b.y
  let x₂ := min (a.x + a.width) (b.x + b.width)
  let y₂ := min (a.y + a.height) (b.y + b.height)
  new x₁ y₁ (max (x₂ - x₁) 0) (max (y₂ - y₁) 0)

/-- The squared distance from the point to the centre. -/
def centerDistanceSq (r : Rect F) (point : Point F) : F :=
  let dx := point.x - (r.x + r.width * half)
  let dy := point.y - (r.y + r.height * half)
  dx * dx + dy * dy

end Rect

namespace LayoutBox

variable (n : LayoutBox F) (point : Point F) (clip : Option (Rect F))

/-- The point is within the effective hit area. -/
def pointInHitArea : Bool :=
  if n.interactRadius ≤ 0 then n.rect.contains point
  else
    let r := n.interactRadius
    (Rect.new (n.rect.x - r) (n.rect.y - r) (n.rect.width + r * two) (n.rect.height + r * two)).contains point

/-- None of the early outs. -/
def reached : Bool := n.pointerEvents && n.pointInHitArea point && clip.all (·.contains point)

/-- The point and the clip that the children are tested with. -/
def inner : Point F × Option (Rect F) :=
  let clip := if n.clip then some (clip.elim n.rect (·.intersectRects n.rect)) else clip
  if n.contentOffset == (0, 0) then (point, clip)
  else
    (⟨point.x - n.contentOffset.1, point.y - n.contentOffset.2⟩,
      clip.map fun r => .new (r.x - n.contentOffset.1) (r.y - n.contentOffset.2) r.width r.height)

/-- From the content of the node back to the viewport. -/
def toViewport (r : Rect F) : Rect F :=
  if n.contentOffset == (0, 0) then r else r.offset n.contentOffset.1 n.contentOffset.2

end LayoutBox

/-! ## The searches -/

/-- Some sibling has an inflated hit area. -/
def hasRadius (children : List (LayoutNode F)) : Bool := children.any fun c => 0 < c.self.interactRadius

section Pick

variable {α β : Type}

/-- The hit with the nearest centre. -/
def pickNearestCandidate (hits : List (F × Option α)) : Option α :=
  (hits.foldr (fun c best => if c.2.isSome && c.1 < best.1 then c else best) (infinity, none)).2

/-- What the children answer, last child first: the first hit, or with inflated hit areas the nearest. -/
def pickHit (radius : Bool) (hits : List (F × Option α)) : Option α :=
  if radius then pickNearestCandidate hits else hits.reverse.findSome? (·.2)

/-- The choice does not look at what is found. -/
theorem pickHit_map (f : α → β) (radius : Bool) (hits : List (F × Option α)) :
    pickHit radius (hits.map fun c => (c.1, c.2.map f)) = (pickHit radius hits).map f := by
  unfold pickHit
  split
  · have hfold : (hits.map fun c => (c.1, c.2.map f)).foldr
        (fun c best => if c.2.isSome && c.1 < best.1 then c else best) (infinity, none) =
        (fun best : F × Option α => (best.1, best.2.map f)) (hits.foldr
          (fun c best => if c.2.isSome && c.1 < best.1 then c else best) (infinity, none)) := by
      induction hits with
      | nil => rfl
      | cons c hits ih =>
        rw [map_cons, foldr_cons, foldr_cons, ih, Option.isSome_map]
        split <;> rfl
    exact congrArg Prod.snd hfold
  · rw [← map_reverse]
    induction hits.reverse with
    | nil => rfl
    | cons c rest ih => cases h : c.2 <;> simp [h, ih]

/-- What is picked was found. -/
theorem mem_of_pickHit {radius : Bool} {hits : List (F × Option α)} {found : α}
    (h : pickHit radius hits = some found) : ∃ c ∈ hits, c.2 = some found := by
  unfold pickHit at h
  split at h
  · unfold pickNearestCandidate at h
    induction hits with
    | nil => cases h
    | cons c hits ih =>
      rw [foldr_cons] at h
      split at h
      · exact ⟨c, mem_cons_self, h⟩
      · obtain ⟨c', hc', hfound⟩ := ih h
        exact ⟨c', mem_cons_of_mem _ hc', hfound⟩
  · obtain ⟨c, hc, hfound⟩ := exists_of_findSome?_eq_some h
    exact ⟨c, mem_reverse.mp hc, hfound⟩

end Pick

mutual

/-- The deepest hittable widget of the subtree whose hit area contains the point. -/
def LayoutNode.hitTestNode : LayoutNode F → Point F → Option (Rect F) → Option WidgetId
  | .node n children, point, clip =>
    if !n.reached point clip then none
    else if n.absorbs then n.widgetId
    else
      let inner := n.inner point clip
      match pickHit (hasRadius children) (hitTestChildren children inner.1 inner.2) with
      | some id => some id
      | none => if n.isHittable then n.widgetId else none

/-- What every child answers, with the distance of its centre. -/
def hitTestChildren : List (LayoutNode F) → Point F → Option (Rect F) → List (F × Option WidgetId)
  | [], _, _ => []
  | c :: cs, point, clip =>
    (c.self.rect.centerDistanceSq point, c.hitTestNode point clip) :: hitTestChildren cs point clip

end

mutual

/-- The entries that the search pushes on the path, if it finds a hit. -/
def LayoutNode.hitTestPathNode : LayoutNode F → Point F → Option (Rect F) → Option (List (HitEntry F))
  | .node n children, point, clip =>
    if !n.reached point clip then none
    else
      let pushed := n.entry
      if pushed.isSome && n.hitTestBehavior == .opaqueToChildren then some pushed.toList
      else
        let inner := n.inner point clip
        match pickHit (hasRadius children) (hitTestPathChildren children inner.1 inner.2) with
        | some path => some (pushed.toList ++ path.map fun e => { e with bounds := n.toViewport e.bounds })
        | none => pushed.map ([·])

def hitTestPathChildren : List (LayoutNode F) → Point F → Option (Rect F) → List (F × Option (List (HitEntry F)))
  | [], _, _ => []
  | c :: cs, point, clip =>
    (c.self.rect.centerDistanceSq point, c.hitTestPathNode point clip) :: hitTestPathChildren cs point clip

end

namespace LayoutNode

/-- Finds the deepest widget under the point. -/
def layoutHitTest (root : LayoutNode F) (point : Point F) : Option WidgetId := root.hitTestNode point none

/-- Finds the path from the root to the deepest hit widget. -/
def layoutHitTestPath (root : LayoutNode F) (point : Point F) : List (HitEntry F) :=
  (root.hitTestPathNode point none).getD []

/-- Nodes of the tree from its root down, each a child of the one before. -/
inductive IsBranch : LayoutNode F → List (LayoutBox F) → Prop where
  | root (n : LayoutBox F) (children : List (LayoutNode F)) : IsBranch (.node n children) [n]
  | child (n : LayoutBox F) (children : List (LayoutNode F)) (c : LayoutNode F) (branch : List (LayoutBox F)) :
      c ∈ children → IsBranch c branch → IsBranch (.node n children) (n :: branch)

end LayoutNode

/-- The last widget of a path. -/
def deepest (path : List (HitEntry F)) : WidgetId := (path.getLast?.map (·.widgetId)).getD 0

omit [Coordinate F] in
theorem deepest_under (front : List (HitEntry F)) (f : Rect F → Rect F) {path : List (HitEntry F)} (h : path ≠ []) :
    deepest (front ++ path.map fun e => { e with bounds := f e.bounds }) = deepest path := by
  rw [deepest, getLast?_append_of_ne_nil _ (by simpa using h), getLast?_map, Option.map_map]
  rfl

/-- The hittable nodes of a branch, each with its rectangle moved by the scroll offsets above it. -/
def branchEntries : List (LayoutBox F) → List (HitEntry F)
  | [] => []
  | n :: ns => n.entry.toList ++ (branchEntries ns).map fun e => { e with bounds := n.toViewport e.bounds }

mutual

/-- **The two searches find the same widget**, and the path is one branch. -/
theorem hitTestNode_eq (node : LayoutNode F) (point : Point F) (clip : Option (Rect F)) :
    node.hitTestNode point clip = (node.hitTestPathNode point clip).map deepest ∧
      ∀ path ∈ node.hitTestPathNode point clip,
        path ≠ [] ∧ ∃ branch, node.IsBranch branch ∧ path = branchEntries branch := by
  obtain ⟨n, children⟩ := node
  obtain ⟨hchildren, hfound⟩ := hitTestChildren_eq children (n.inner point clip).1 (n.inner point clip).2
  have hself : n.isHittable = true → ∃ id, n.widgetId = some id ∧ n.entry = some ⟨id, n.rect⟩ ∧
      ∃ branch, (LayoutNode.node n children).IsBranch branch ∧ [⟨id, n.rect⟩] = branchEntries branch := fun h =>
    have ⟨id, hid, hentry⟩ := n.entry_of_hittable h
    ⟨id, hid, hentry, [n], .root n children, by simp [branchEntries, hentry]⟩
  by_cases hreached : n.reached point clip = true
  · have hhits := pickHit_map deepest (hasRadius children)
      (hitTestPathChildren children (n.inner point clip).1 (n.inner point clip).2)
    rw [← hchildren] at hhits
    simp only [LayoutNode.hitTestNode, LayoutNode.hitTestPathNode, hreached, n.entry_absorbs, hhits]
    by_cases habsorbs : n.absorbs = true
    · obtain ⟨id, hid, hentry, hbranch⟩ := hself (Bool.and_eq_true_iff.mp habsorbs).2
      simpa [habsorbs, hid, hentry, deepest] using hbranch
    · cases hpick : pickHit (hasRadius children)
          (hitTestPathChildren children (n.inner point clip).1 (n.inner point clip).2) with
      | some path =>
        obtain ⟨c, hc, hpath⟩ := mem_of_pickHit hpick
        obtain ⟨hne, child, hchild, branch, hbranch, rfl⟩ := hfound c hc path hpath
        simp only [habsorbs]
        refine ⟨congrArg some (deepest_under _ _ hne).symm, ?_⟩
        rintro _ ⟨⟩
        exact ⟨by simp [hne], n :: branch, .child n children child branch hchild hbranch, rfl⟩
      | none =>
        by_cases hhit : n.isHittable = true
        · obtain ⟨id, hid, hentry, hbranch⟩ := hself hhit
          simpa [hhit, hid, hentry, deepest] using hbranch
        · have hentry : n.entry = none := Option.not_isSome_iff_eq_none.mp (n.isSome_entry ▸ hhit)
          simp [habsorbs, hhit, hentry]
  · simp [LayoutNode.hitTestNode, LayoutNode.hitTestPathNode, hreached]

theorem hitTestChildren_eq (children : List (LayoutNode F)) (point : Point F) (clip : Option (Rect F)) :
    hitTestChildren children point clip =
        (hitTestPathChildren children point clip).map (fun c => (c.1, c.2.map deepest)) ∧
      ∀ c ∈ hitTestPathChildren children point clip, ∀ path ∈ c.2,
        path ≠ [] ∧ ∃ child ∈ children, ∃ branch, child.IsBranch branch ∧ path = branchEntries branch := by
  cases children with
  | nil => exact ⟨rfl, by simp [hitTestPathChildren]⟩
  | cons c cs =>
    have hc := hitTestNode_eq c point clip
    have hcs := hitTestChildren_eq cs point clip
    rw [hitTestChildren, hc.1, hcs.1]
    refine ⟨rfl, forall_mem_cons.mpr ⟨fun path hpath => ?_, fun hit hhit path hpath => ?_⟩⟩
    · exact ⟨(hc.2 path hpath).1, c, mem_cons_self, (hc.2 path hpath).2⟩
    · obtain ⟨hne, child, hchild, hbranch⟩ := hcs.2 hit hhit path hpath
      exact ⟨hne, child, mem_cons_of_mem _ hchild, hbranch⟩

end

/-! ## Keeping nodes, then choosing -/

/-- A node that is kept, with the point in its coordinates; `radius` tells of all its children, kept or not. -/
inductive KeptNode (F : Type) where
  | node (self : LayoutBox F) (point : Point F) (radius : Bool) (children : List (KeptNode F))

mutual

/-- **The nodes that the point reaches**, each under a node that it reaches. -/
def LayoutNode.keep : LayoutNode F → Point F → Option (Rect F) → Option (KeptNode F)
  | .node n children, point, clip =>
    if n.reached point clip then
      some (.node n point (hasRadius children) (keepAll children (n.inner point clip).1 (n.inner point clip).2))
    else none

def keepAll : List (LayoutNode F) → Point F → Option (Rect F) → List (KeptNode F)
  | [], _, _ => []
  | c :: cs, point, clip => (c.keep point clip).toList ++ keepAll cs point clip

end

def KeptNode.distance : KeptNode F → F
  | .node n point .. => n.rect.centerDistanceSq point

/-- The last of the siblings, or with inflated hit areas the one with the nearest centre. -/
def preferred {α : Type} (radius : Bool) (siblings : List (F × α)) : Option α :=
  if radius then
    (siblings.foldr (fun c best => if c.1 < best.1 then (c.1, some c.2) else best) (infinity, none)).2
  else siblings.getLast?.map (·.2)

mutual

/-- **The choice among the kept nodes**: the path below the preferred sibling that has one, children before their
    parent. -/
def KeptNode.choose : KeptNode F → Option (List (HitEntry F))
  | .node n _ radius children =>
    if n.absorbs then some n.entry.toList
    else match preferred radius (chooseAll children) with
      | some path => some (n.entry.toList ++ path.map fun e => { e with bounds := n.toViewport e.bounds })
      | none => n.entry.map ([·])

def chooseAll : List (KeptNode F) → List (F × List (HitEntry F))
  | [] => []
  | k :: ks => (k.choose.map (k.distance, ·)).toList ++ chooseAll ks

end

/-- To pick a hit is to choose among the siblings that have one. -/
theorem pickHit_eq_preferred {α : Type} (radius : Bool) (hits : List (F × Option α)) :
    pickHit radius hits = preferred radius (hits.filterMap fun c => c.2.map (c.1, ·)) := by
  unfold pickHit preferred
  split
  · refine congrArg Prod.snd ?_
    induction hits with
    | nil => rfl
    | cons c hits ih =>
      obtain ⟨distance, _ | found⟩ := c
      · exact ih
      · simp only [foldr_cons, filterMap_cons, Option.map_some, Option.isSome_some, Bool.true_and, decide_eq_true_eq, ih]
  · induction hits using reverseRecOn with
    | nil => rfl
    | append_singleton hits c ih =>
      obtain ⟨distance, _ | found⟩ := c
      · simpa using ih
      · simp

mutual

theorem hitTestPathNode_eq (node : LayoutNode F) (point : Point F) (clip : Option (Rect F)) :
    node.hitTestPathNode point clip = (node.keep point clip).bind (·.choose) := by
  obtain ⟨n, children⟩ := node
  by_cases hreached : n.reached point clip = true
  · simp [LayoutNode.hitTestPathNode, LayoutNode.keep, KeptNode.choose, hreached, n.entry_absorbs, chooseAll_keepAll,
      ← pickHit_eq_preferred]
  · simp [LayoutNode.hitTestPathNode, LayoutNode.keep, hreached]

theorem chooseAll_keepAll (children : List (LayoutNode F)) (point : Point F) (clip : Option (Rect F)) :
    chooseAll (keepAll children point clip) =
      (hitTestPathChildren children point clip).filterMap fun c => c.2.map (c.1, ·) := by
  cases children with
  | nil => rfl
  | cons c cs =>
    rw [keepAll, hitTestPathChildren, filterMap_cons, hitTestPathNode_eq, ← chooseAll_keepAll]
    cases hkeep : c.keep point clip with
    | none => rfl
    | some k =>
      have hdistance : k.distance = c.self.rect.centerDistanceSq point := by
        obtain ⟨n, children⟩ := c
        rw [LayoutNode.keep] at hkeep
        split at hkeep
        · cases hkeep
          rfl
        · cases hkeep
      rw [Option.toList_some, singleton_append, chooseAll, hdistance, Option.bind_some]
      cases k.choose <;> rfl

end

/-- **The two searches agree.** The widget found is the last of the path; the path are the hittable nodes of one branch of
    the tree, with the bounds they have on screen; and it is chosen among the nodes that are kept. -/
theorem hit_tests_agree (root : LayoutNode F) (point : Point F) :
    root.layoutHitTest point = (root.layoutHitTestPath point).getLast?.map (·.widgetId) ∧
    (root.layoutHitTestPath point ≠ [] →
      ∃ branch, root.IsBranch branch ∧ root.layoutHitTestPath point = branchEntries branch) ∧
    root.layoutHitTestPath point = ((root.keep point none).bind (·.choose)).getD [] := by
  obtain ⟨hsame, hfound⟩ := hitTestNode_eq root point none
  have hchosen := congrArg (·.getD []) (hitTestPathNode_eq root point none)
  rw [LayoutNode.layoutHitTest, hsame]
  unfold LayoutNode.layoutHitTestPath
  cases hpath : root.hitTestPathNode point none with
  | none => exact ⟨rfl, fun h => absurd rfl h, hpath ▸ hchosen⟩
  | some path =>
    obtain ⟨hne, hbranch⟩ := hfound path hpath
    refine ⟨?_, fun _ => hbranch, hpath ▸ hchosen⟩
    simp [deepest, getLast?_eq_some_getLast hne]

/-! ## Clips that overlap by next to nothing -/

instance : Coordinate Float32 where
  zero := 0
  decLT := inferInstance
  decLE := inferInstance
  max x y := if x.isNaN then y else if y.isNaN then x else if x < y then y else x
  min x y := if x.isNaN then y else if y.isNaN then x else if y < x then y else x
  two := 2
  half := 0.5
  infinity := .ofBits 0x7F800000
  trivialSize := .ofBits 0x35800000

/-- The point is in the hit area of every node of the branch, and in each of the clips by itself. -/
def InEveryClip : List (LayoutBox F) → Point F → Bool
  | [], _ => true
  | n :: ns, point =>
    n.pointerEvents && n.pointInHitArea point && (ns.isEmpty || !n.clip || n.rect.contains point) &&
      InEveryClip ns (n.inner point none).1

/-- Two clips that share a strip of a width that counts as zero. -/
theorem shared_strip_lost : ¬ ∀ (root : LayoutNode Float32) (point : Point Float32) (branch : List (LayoutBox Float32)),
    root.IsBranch branch → InEveryClip branch point = true → branch.getLast?.any (·.isHittable) = true →
      root.layoutHitTest point ≠ none := by
  intro h
  let box := fun x id => (⟨⟨x, 0, 1, 1⟩, ⟨x, 0, 1, 1⟩, id, 15, .deferToChild, true, false, 0, (0, 0), true⟩ : LayoutBox Float32)
  let x := Float32.ofBits 0x3F7FFFF8
  have hbranch : (LayoutNode.node (box 0 none) [.node (box x none) [.node (box x (some 1)) []]]).IsBranch
      [box 0 none, box x none, box x (some 1)] :=
    .child _ _ _ _ mem_cons_self (.child _ _ _ _ mem_cons_self (.root _ _))
  exact h _ ⟨x, 0⟩ _ hbranch (by decide +kernel) (by decide +kernel) (by decide +kernel)

end OriTerm
