import OriTerm.Session.Floating
import OriTerm.Session.SplitPath

/-!
# `Session.Layout` — from a split tree to pixel rectangles

`compute_all` walks the split tree with the available rectangle. A leaf becomes a pane layout, snapped to the cell grid;
a split divides its rectangle by its ratio, moves the divider where a side would get less than its minimum, and emits
the divider between the two panes that are next to it. Floating panes are appended.

* **`dividers_of_splits`** — there is one divider for a split, and it reaches that split.
-/

namespace OriTerm.Layout

open Lib SplitTree List

variable {F : Type}

variable (n : Node) (t : SplitTree)

/-! ## Descriptor and output -/

/-- Input parameters for layout computation. -/
structure LayoutDescriptor (F : Type) where
  /-- Total available pixel area. -/
  available : Rect F
  cellWidth : F
  cellHeight : F
  /-- Divider thickness. -/
  dividerPx : F
  /-- Minimum pane size in cells (columns, rows). -/
  minPaneCells : UInt16 × UInt16

/-- Output per pane. -/
structure PaneLayout (F : Type) where
  paneId : PaneId
  pixelRect : Rect F
  cols : UInt16
  rows : UInt16
  isFocused : Bool
  isFloating : Bool
  deriving DecidableEq

/-- Output per divider. -/
structure DividerLayout (F : Type) where
  rect : Rect F
  direction : SplitDirection
  /-- Pane on the first (left or top) side. -/
  paneBefore : PaneId
  /-- Pane on the second (right or bottom) side. -/
  paneAfter : PaneId
  deriving DecidableEq

/-- What the traversal accumulates. -/
structure TreeOutput (F : Type) where
  panes : List (PaneLayout F) := []
  dividers : List (DividerLayout F) := []

/-- The rightmost leaf of a subtree. -/
def rightmostLeaf : SplitTree → PaneId
  | leaf id => id
  | split _ _ _ second => rightmostLeaf second

/-- The leftmost leaf of a subtree. -/
def leftmostLeaf : SplitTree → PaneId
  | leaf id => id
  | split _ _ first _ => leftmostLeaf first

section Compute

variable [Add F] [Sub F] [Mul F] [Div F] [LT F] [LE F] [DecidableLT F] [DecidableLE F] [Pixels F]

variable (desc : LayoutDescriptor F) (available : Rect F) (direction : SplitDirection) (focused : PaneId) (d : SplitDirection) (r : Float32) (first second : SplitTree)

/-- Trims fractional cells. -/
def snapToGrid (rect : Rect F) (cellW cellH : F) : Rect F :=
  let cols := Pixels.floor (rect.width / cellW)
  let rows := Pixels.floor (rect.height / cellH)
  { rect with width := cols * cellW, height := rows * cellH }

/-- Splits a rectangle by a ratio. -/
def splitRect (ratio : Float32) (dividerPx : F) : Rect F × Rect F :=
  match direction with
  | .horizontal =>
    let usable := Pixels.max (available.height - dividerPx) (Pixels.ofU16 0)
    let firstH := Pixels.floor (usable * Pixels.ofRatio ratio)
    let secondH := usable - firstH
    ({ available with height := firstH }, { available with y := available.y + firstH + dividerPx, height := secondH })
  | .vertical =>
    let usable := Pixels.max (available.width - dividerPx) (Pixels.ofU16 0)
    let firstW := Pixels.floor (usable * Pixels.ofRatio ratio)
    let secondW := usable - firstW
    ({ available with width := firstW }, { available with x := available.x + firstW + dividerPx, width := secondW })

/-- Moves a divider where a side has less than its minimum and there is room for both. -/
def clampSplit (first second : Rect F) (desc : LayoutDescriptor F) : Rect F × Rect F :=
  let minW := Pixels.ofU16 desc.minPaneCells.1 * desc.cellWidth
  let minH := Pixels.ofU16 desc.minPaneCells.2 * desc.cellHeight
  match direction with
  | .horizontal =>
    let usable := Pixels.max (available.height - desc.dividerPx) (Pixels.ofU16 0)
    let (fh, sh) :=
      if first.height < minH ∧ Pixels.ofU16 2 * minH ≤ usable then (minH, usable - minH)
      else if second.height < minH ∧ Pixels.ofU16 2 * minH ≤ usable then (usable - minH, minH)
      else (first.height, second.height)
    ({ first with height := fh }, { second with y := available.y + fh + desc.dividerPx, height := sh })
  | .vertical =>
    let usable := Pixels.max (available.width - desc.dividerPx) (Pixels.ofU16 0)
    let (fw, sw) :=
      if first.width < minW ∧ Pixels.ofU16 2 * minW ≤ usable then (minW, usable - minW)
      else if second.width < minW ∧ Pixels.ofU16 2 * minW ≤ usable then (usable - minW, minW)
      else (first.width, second.width)
    ({ first with width := fw }, { second with x := available.x + fw + desc.dividerPx, width := sw })

/-- The rectangles of the two children of a split. -/
def childRects (ratio : Float32) : Rect F × Rect F :=
  let (firstRect, secondRect) := splitRect available direction ratio desc.dividerPx
  clampSplit available direction firstRect secondRect desc

/-- The divider between the two children. -/
def dividerRect (firstRect : Rect F) : Rect F :=
  match direction with
  | .horizontal =>
    { x := available.x, y := firstRect.y + firstRect.height, width := available.width, height := desc.dividerPx }
  | .vertical =>
    { x := firstRect.x + firstRect.width, y := available.y, width := desc.dividerPx, height := available.height }

/-- The layout of a tiled pane. -/
def tiledLayout (focused paneId : PaneId) (available : Rect F) : PaneLayout F where
  paneId
  pixelRect := snapToGrid available desc.cellWidth desc.cellHeight
  cols := max (Pixels.toU16 (Pixels.floor (available.width / desc.cellWidth))) 1
  rows := max (Pixels.toU16 (Pixels.floor (available.height / desc.cellHeight))) 1
  isFocused := paneId == focused
  isFloating := false

/-- Subdivides the available rectangle. -/
def computeTree (desc : LayoutDescriptor F) (focused : PaneId) : SplitTree → Rect F → TreeOutput F → TreeOutput F
  | leaf paneId, available, out => { out with panes := out.panes ++ [tiledLayout desc focused paneId available] }
  | split direction ratio first second, available, out =>
    let (firstRect, secondRect) := childRects desc available direction ratio
    let divider : DividerLayout F :=
      { rect := dividerRect desc available direction firstRect
        direction
        paneBefore := rightmostLeaf first
        paneAfter := leftmostLeaf second }
    let out := { out with dividers := out.dividers ++ [divider] }
    computeTree desc focused second secondRect (computeTree desc focused first firstRect out)

/-- The layout of a floating pane, of the minimum size at least. -/
def floatingLayout (fp : FloatingPane F) : PaneLayout F :=
  let minW := Pixels.ofU16 MIN_FLOATING_PANE_CELLS.1 * desc.cellWidth
  let minH := Pixels.ofU16 MIN_FLOATING_PANE_CELLS.2 * desc.cellHeight
  let clamped := { fp.rect with width := Pixels.max fp.rect.width minW, height := Pixels.max fp.rect.height minH }
  let snapped := snapToGrid clamped desc.cellWidth desc.cellHeight
  { paneId := fp.paneId
    pixelRect := snapped
    cols := max (Pixels.toU16 (Pixels.floor (snapped.width / desc.cellWidth))) 1
    rows := max (Pixels.toU16 (Pixels.floor (snapped.height / desc.cellHeight))) 1
    isFocused := fp.paneId == focused
    isFloating := true }

def appendFloating (floating : FloatingLayer F) (out : List (PaneLayout F)) : List (PaneLayout F) :=
  out ++ floating.panes.map (floatingLayout desc focused)

/-- Pane layouts and divider layouts in a single traversal. -/
def computeAll (tree : SplitTree) (floating : FloatingLayer F) (focused : PaneId) (desc : LayoutDescriptor F) :
    List (PaneLayout F) × List (DividerLayout F) :=
  let out := computeTree desc focused tree desc.available {}
  (appendFloating desc focused floating out.panes, out.dividers)

/-! ## The traversal as lists -/

/-- The rectangles of the panes before they are snapped, in depth-first order. -/
def tiles (desc : LayoutDescriptor F) : SplitTree → Rect F → List (PaneId × Rect F)
  | leaf paneId, available => [(paneId, available)]
  | split direction ratio first second, available =>
    let (firstRect, secondRect) := childRects desc available direction ratio
    tiles desc first firstRect ++ tiles desc second secondRect

/-- The dividers, a split before those within it. -/
def dividers (desc : LayoutDescriptor F) : SplitTree → Rect F → List (DividerLayout F)
  | leaf _, _ => []
  | split direction ratio first second, available =>
    let (firstRect, secondRect) := childRects desc available direction ratio
    { rect := dividerRect desc available direction firstRect
      direction
      paneBefore := rightmostLeaf first
      paneAfter := leftmostLeaf second } :: (dividers desc first firstRect ++ dividers desc second secondRect)

omit [Div F] in
theorem tiles_split (available : Rect F) :
    tiles desc (split d r first second) available =
      tiles desc first (childRects desc available d r).1 ++ tiles desc second (childRects desc available d r).2 := rfl

omit [Div F] in
theorem dividers_split (available : Rect F) :
    dividers desc (split d r first second) available =
      { rect := dividerRect desc available d (childRects desc available d r).1
        direction := d
        paneBefore := rightmostLeaf first
        paneAfter := leftmostLeaf second } ::
      (dividers desc first (childRects desc available d r).1 ++
        dividers desc second (childRects desc available d r).2) := rfl

theorem computeTree_eq (t : SplitTree) (available : Rect F) (out : TreeOutput F) :
    computeTree desc focused t available out =
      { panes := out.panes ++ (tiles desc t available).map fun (paneId, rect) => tiledLayout desc focused paneId rect
        dividers := out.dividers ++ dividers desc t available } := by
  induction t generalizing available out with
  | leaf id => simp [computeTree, tiles, dividers]
  | split d r first second ih₁ ih₂ =>
    show computeTree desc focused second (childRects desc available d r).2
      (computeTree desc focused first (childRects desc available d r).1 _) = _
    rw [ih₁, ih₂, tiles_split, map_append]
    simp only [append_assoc]
    rfl

/-- **The layout is the tiles and the floating panes, and the dividers.** -/
theorem computeAll_eq (t : SplitTree) (floating : FloatingLayer F) (focused : PaneId) (desc : LayoutDescriptor F) :
    computeAll t floating focused desc =
      ((tiles desc t desc.available).map (fun (paneId, rect) => tiledLayout desc focused paneId rect) ++
          floating.panes.map (floatingLayout desc focused),
        dividers desc t desc.available) := by
  unfold computeAll
  rw [computeTree_eq]
  simp [appendFloating]

end Compute

/-! ## Splits and their dividers -/

/-- A split of a tree with the path to it. -/
structure Node where
  path : List Frame
  direction : SplitDirection
  ratio : Float32
  first : SplitTree
  second : SplitTree

/-- The tree of a split with another ratio. -/
def Node.withRatio (ratio : Float32) : SplitTree :=
  plug n.path (split n.direction ratio n.first n.second)

/-- The node below one more split. -/
def Node.under (f : Frame) (n : Node) : Node := { n with path := f :: n.path }

/-- The splits of a tree, each before those within it. -/
def nodes : SplitTree → List Node
  | leaf _ => []
  | split d r first second =>
    ⟨[], d, r, first, second⟩ ::
      ((nodes first).map (Node.under ⟨d, r, true, second⟩) ++ (nodes second).map (Node.under ⟨d, r, false, first⟩))

/-- **The nodes are the splits.** -/
theorem mem_nodes_iff {t : SplitTree} {n : Node} : n ∈ nodes t ↔ n.withRatio n.ratio = t := by
  induction t generalizing n with
  | leaf id =>
    refine iff_of_false not_mem_nil fun h => ?_
    obtain ⟨path, d, r, first, second⟩ := n
    cases path with
    | nil => cases h
    | cons f path =>
      obtain ⟨g, q, inFirst, sibling⟩ := f
      cases inFirst <;> cases h
  | split d r first second ih₁ ih₂ =>
    unfold nodes
    rw [mem_cons, mem_append, mem_map, mem_map]
    constructor
    · rintro (rfl | ⟨m, hm, rfl⟩ | ⟨m, hm, rfl⟩)
      · rfl
      · exact congrArg (split d r · second) (ih₁.mp hm)
      · exact congrArg (split d r first) (ih₂.mp hm)
    · intro h
      obtain ⟨path, e, q, u, v⟩ := n
      cases path with
      | nil =>
        obtain ⟨rfl, rfl, rfl, rfl⟩ := split.inj h
        exact .inl rfl
      | cons f path =>
        obtain ⟨g, p, inFirst, sibling⟩ := f
        cases inFirst with
        | true =>
          obtain ⟨rfl, rfl, hfirst, rfl⟩ := split.inj h
          exact .inr (.inl ⟨⟨path, e, q, u, v⟩, ih₁.mpr hfirst, rfl⟩)
        | false =>
          obtain ⟨rfl, rfl, rfl, hsecond⟩ := split.inj h
          exact .inr (.inr ⟨⟨path, e, q, u, v⟩, ih₂.mpr hsecond, rfl⟩)

/-- Where a node is: the sides taken from the root down. -/
def Node.sides : List Bool := n.path.map (·.inFirst)

/-- No two nodes are at one place. -/
theorem nodup_nodes : ((nodes t).map Node.sides).Nodup := by
  have hunder (f : Frame) (l : List Node) :
      (l.map (Node.under f)).map Node.sides = (l.map Node.sides).map (f.inFirst :: ·) := by
    rw [map_map, map_map]
    rfl
  induction t with
  | leaf id => exact .nil
  | split d r first second ih₁ ih₂ =>
    unfold nodes
    rw [map_cons, map_append, hunder, hunder, nodup_cons, nodup_append']
    refine ⟨?_, ih₁.map (cons_injective), ih₂.map (cons_injective), ?_⟩
    · show [] ∉ _
      simp
    · rintro sides h₁ h₂
      obtain ⟨_, _, rfl⟩ := mem_map.mp h₁
      obtain ⟨_, _, h⟩ := mem_map.mp h₂
      cases h

theorem rightmostLeaf_mem : rightmostLeaf t ∈ t.panes := by
  induction t with
  | leaf id => exact mem_singleton_self id
  | split d r first second _ ih₂ => exact mem_append_right _ ih₂

theorem leftmostLeaf_mem : leftmostLeaf t ∈ t.panes := by
  induction t with
  | leaf id => exact mem_singleton_self id
  | split d r first second ih₁ _ => exact mem_append_left _ ih₁

/-- The panes next to the divider of a split. -/
def Node.before : PaneId := rightmostLeaf n.first

def Node.after : PaneId := leftmostLeaf n.second

/-- What identifies a divider. -/
def DividerLayout.key (d : DividerLayout F) : SplitDirection × PaneId × PaneId := (d.direction, d.paneBefore, d.paneAfter)

def Node.key : SplitDirection × PaneId × PaneId := (n.direction, n.before, n.after)

section Dividers

variable [Add F] [Sub F] [Mul F] [Div F] [LT F] [LE F] [DecidableLT F] [DecidableLE F] [Pixels F]

omit [Div F] in
/-- There is one divider for a split, in the order of the splits. -/
theorem keys_dividers (desc : LayoutDescriptor F) (t : SplitTree) (available : Rect F) :
    (dividers desc t available).map DividerLayout.key = (nodes t).map Node.key := by
  induction t generalizing available with
  | leaf id => rfl
  | split d r first second ih₁ ih₂ =>
    have hunder (f : Frame) (l : List Node) : (l.map (Node.under f)).map Node.key = l.map Node.key := by
      rw [map_map]
      rfl
    rw [dividers_split, nodes, map_cons, map_cons, map_append, map_append, ih₁, ih₂, hunder,
      hunder]
    rfl

theorem rightmostLeaf_eq (t : SplitTree) : t.panes.getLast? = some (rightmostLeaf t) := by
  induction t with
  | leaf id => rfl
  | split d r first second _ ih₂ => rw [panes, getLast?_append, ih₂]; rfl

theorem leftmostLeaf_eq (t : SplitTree) : t.panes.head? = some (leftmostLeaf t) := by
  induction t with
  | leaf id => rfl
  | split d r first second ih₁ _ => rw [panes, head?_append, ih₁]; rfl

/-- A new ratio moves no leaf, so the dividers keep their panes. -/
theorem keys_setDividerRatio (paneBefore paneAfter : PaneId) (newRatio : Float32) (t : SplitTree) :
    (nodes (t.setDividerRatio paneBefore paneAfter newRatio)).map Node.key = (nodes t).map Node.key := by
  have hunder (f : Frame) (l : List Node) : (l.map (Node.under f)).map Node.key = l.map Node.key := by
    rw [map_map]
    rfl
  have hkeys (d : SplitDirection) (r : Float32) (first second : SplitTree) :
      (nodes (split d r first second)).map Node.key =
        (d, rightmostLeaf first, leftmostLeaf second) ::
          ((nodes first).map Node.key ++ (nodes second).map Node.key) := by
    rw [nodes, map_cons, map_append, hunder, hunder]
    rfl
  induction t generalizing newRatio with
  | leaf id => rfl
  | split d r first second ih₁ ih₂ =>
    unfold setDividerRatio
    split
    · rw [hkeys, hkeys]
    · split
      · have hright : rightmostLeaf (first.setDividerRatio paneBefore paneAfter (clampRatio newRatio)) =
            rightmostLeaf first := by
          rw [← Option.some.injEq, ← rightmostLeaf_eq, ← rightmostLeaf_eq, panes_setDividerRatio]
        rw [hkeys, hkeys, ih₁, hright]
      · split
        · have hleft : leftmostLeaf (second.setDividerRatio paneBefore paneAfter (clampRatio newRatio)) =
              leftmostLeaf second := by
            rw [← Option.some.injEq, ← leftmostLeaf_eq, ← leftmostLeaf_eq, panes_setDividerRatio]
          rw [hkeys, hkeys, ih₂, hleft]
        · rfl

/-- A divider reaches its split. -/
theorem setDividerRatio_node {t : SplitTree} (hu : t.panes.Nodup) {n : Node} (h : n.withRatio n.ratio = t)
    (newRatio : Float32) : t.setDividerRatio n.before n.after newRatio = n.withRatio (clampRatio newRatio) := by
  subst h
  exact setDividerRatio_plug n.path (rightmostLeaf_mem n.first) (leftmostLeaf_mem n.second) hu newRatio

/-- **Dividers are splits**: the splits of a tree have one divider each, between the last pane of the first child and
the first pane of the second; and a ratio set through a divider is the ratio of its split, with nothing else changed and
the dividers between the same panes. -/
theorem dividers_of_splits (t : SplitTree) (hu : t.panes.Nodup)
    (floating : FloatingLayer F) (focused : PaneId) (desc : LayoutDescriptor F) :
    (∀ n, n ∈ nodes t ↔ n.withRatio n.ratio = t) ∧ ((nodes t).map Node.sides).Nodup ∧
    (computeAll t floating focused desc).2.map DividerLayout.key = (nodes t).map Node.key ∧
    ∀ n ∈ nodes t, n.before ∈ n.first.panes ∧ n.after ∈ n.second.panes ∧
      ∀ newRatio, t.setDividerRatio n.before n.after newRatio = n.withRatio (clampRatio newRatio) ∧
        (computeAll (t.setDividerRatio n.before n.after newRatio) floating focused desc).2.map DividerLayout.key =
          (nodes t).map Node.key := by
  refine ⟨fun n => mem_nodes_iff, nodup_nodes t, ?_, fun n hn => ⟨rightmostLeaf_mem n.first, leftmostLeaf_mem n.second,
    fun newRatio => ⟨setDividerRatio_node hu (mem_nodes_iff.mp hn) newRatio, ?_⟩⟩⟩
  · rw [computeAll_eq]
    exact keys_dividers desc t desc.available
  · rw [computeAll_eq]
    exact (keys_dividers desc _ desc.available).trans (keys_setDividerRatio n.before n.after newRatio t)

end Dividers

theorem dividers_of_splits_nested :
    let t := split .vertical 0.5 (leaf 1) (split .horizontal 0.5 (leaf 2) (leaf 3))
    let desc : LayoutDescriptor Float32 := ⟨⟨0, 0, 800, 600⟩, 8, 16, 2, (10, 3)⟩
    (computeAll t {} 1 desc).2.map DividerLayout.key = [(.vertical, 1, 2), (.horizontal, 2, 3)] :=
  (dividers_of_splits (split .vertical 0.5 (leaf 1) (split .horizontal 0.5 (leaf 2) (leaf 3))) (by decide) {} 1
    ⟨⟨0, 0, 800, 600⟩, 8, 16, 2, (10, 3)⟩).2.2.1

end OriTerm.Layout
