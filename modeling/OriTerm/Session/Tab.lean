import Mathlib.Data.Finset.Basic
import OriTerm.Session.SplitTree

/-!
# `Session.Tab` — a tab: tree, floating layer, focus, zoom and history

A `Tab` keeps whole past trees for undo and redo. An `OpenTab` is a tab with the panes that run in it: those that were
spawned for it and are not closed. Each `TabOp` is what the application does to a tab on one action; `replaceLayout`
and the tree mutations without a caller are there as the tab offers them. The rectangles of floating panes and the
title are left out, and a pane that cannot be spawned leaves the tab unzoomed and otherwise as it was.

The operations lose panes in four ways: a split of a floating pane puts the new pane nowhere, a pane that is the only
leaf is not taken out of the tree, a closed pane stays zoomed, and undo and redo check that the panes of the old tree
are live, but not that the live panes are in it. `KeepsPanes` is the guard.

* **`keepsPanes_run_iff`** — every live pane is in exactly one place, at every point of a run, exactly when each step
  of the run meets the guard; redo takes back an undo in any case.
-/

namespace OriTerm

open Lib List

/-- Tab identifier. -/
abbrev TabId := Nat

/-! ## The floating layer -/

structure FloatingPane where
  paneId : PaneId
  /-- Stacking order; higher values are closer to the viewer. -/
  zOrder : Nat

/-- Floating panes by ascending z-order. -/
structure FloatingLayer where
  panes : List FloatingPane := []

namespace FloatingLayer

variable (l : FloatingLayer) (paneId : PaneId)

def contains : Bool := l.panes.any (·.paneId == paneId)

/-- Inserts a pane after those that are not in front of it. -/
def add (pane : FloatingPane) : FloatingLayer :=
  { panes := l.panes.takeWhile (·.zOrder ≤ pane.zOrder) ++ pane :: l.panes.dropWhile (·.zOrder ≤ pane.zOrder) }

def remove : FloatingLayer := { panes := l.panes.filter (·.paneId != paneId) }

def maxZ : Nat := (l.panes.map (·.zOrder)).foldl max 0

/-- Brings a pane to the front. -/
def raise : FloatingLayer :=
  let raised := l.panes.map fun p => if p.paneId = paneId then { p with zOrder := l.maxZ + 1 } else p
  { panes := raised.mergeSort fun a b => a.zOrder ≤ b.zOrder }

def paneIds : List PaneId := l.panes.map (·.paneId)

@[simp] theorem contains_iff {l : FloatingLayer} {p : PaneId} : l.contains p = true ↔ p ∈ l.paneIds := by
  unfold contains paneIds
  simp

theorem paneIds_add (pane : FloatingPane) : (l.add pane).paneIds.Perm (pane.paneId :: l.paneIds) := by
  have hmiddle : (l.panes.takeWhile (·.zOrder ≤ pane.zOrder) ++ pane :: l.panes.dropWhile (·.zOrder ≤ pane.zOrder)).Perm
      (pane :: l.panes) := by
    refine perm_middle.trans ?_
    rw [takeWhile_append_dropWhile]
  exact hmiddle.map _

theorem paneIds_remove (p : PaneId) : (l.remove p).paneIds = l.paneIds.filter (· != p) := by
  unfold remove paneIds
  rw [filter_map]
  rfl

theorem paneIds_raise (p : PaneId) : (l.raise p).paneIds.Perm l.paneIds := by
  refine ((mergeSort_perm _ _).map _).trans ?_
  rw [map_map]
  refine Perm.of_eq (map_congr_left fun q _ => ?_)
  show (if q.paneId = p then _ else q : FloatingPane).paneId = q.paneId
  split <;> rfl

end FloatingLayer

/-! ## Tabs -/

/-- Maximum number of undo entries in the split tree history. -/
def MAX_UNDO_ENTRIES : Nat := 32

structure Tab where
  id : TabId
  tree : SplitTree
  floating : FloatingLayer := {}
  activePane : PaneId
  /-- Undo stack, the latest entry first. -/
  undo : List SplitTree := []
  /-- Redo stack, the latest entry first. -/
  redo : List SplitTree := []
  zoomedPane : Option PaneId := none

namespace Tab

variable (t : Tab) (paneId : PaneId) (tree : SplitTree)

def new (id : TabId) (paneId : PaneId) : Tab := { id, tree := .leaf paneId, activePane := paneId }

/-- Pushes a tree; the oldest entry goes when the history is full. -/
def pushTree (history : List SplitTree) : List SplitTree :=
  tree :: if MAX_UNDO_ENTRIES ≤ history.length then history.dropLast else history

/-- Replaces the split tree, pushing the current tree onto the undo stack. -/
def setTree : Tab := { t with undo := pushTree t.tree t.undo, redo := [], tree }

/-- Pops entries up to the first whose panes are all live. -/
def popLive (livePanes : Finset PaneId) : List SplitTree → Option (SplitTree × List SplitTree)
  | [] => none
  | candidate :: rest =>
    if candidate.panes.all (· ∈ livePanes) then some (candidate, rest) else popLive livePanes rest

/-- Undoes the last tree mutation; whether a valid entry was found. -/
def undoTree (livePanes : Finset PaneId) : Bool × Tab :=
  match popLive livePanes t.undo with
  | some (candidate, rest) => (true, { t with undo := rest, redo := pushTree t.tree t.redo, tree := candidate })
  | none => (false, { t with undo := [] })

/-- Redoes a previously undone tree mutation. -/
def redoTree (livePanes : Finset PaneId) : Bool × Tab :=
  match popLive livePanes t.redo with
  | some (candidate, rest) => (true, { t with redo := rest, undo := pushTree t.tree t.undo, tree := candidate })
  | none => (false, { t with redo := [] })

/-- Replaces the split tree without a history entry. -/
def replaceLayout : Tab := { t with tree }

/-- All panes of both the split tree and the floating layer. -/
def allPanes : List PaneId := t.tree.panes ++ t.floating.paneIds

def setFloating (layer : FloatingLayer) : Tab := { t with floating := layer }

def isFloating : Bool := t.floating.contains paneId

def setActivePane : Tab := { t with activePane := paneId }

def setZoomedPane (pane : Option PaneId) : Tab := { t with zoomedPane := pane }

/-! ### What the application does to a tab -/

/-- `unzoom_if_needed`. -/
def unzoom : Tab := t.setZoomedPane none

def toggleZoom : Tab :=
  if t.zoomedPane.isSome then t.setZoomedPane none else t.setZoomedPane (some t.activePane)

/-- Takes a pane out of the floating layer or of the tree; a sole leaf stays. -/
def withoutPane : Tab :=
  if t.isFloating paneId then t.setFloating (t.floating.remove paneId)
  else match t.tree.remove paneId with
    | some newTree => t.replaceLayout newTree
    | none => t

/-- The part of `remove_pane_from_session` that changes the tab. -/
def removePane : Tab :=
  let t := t.withoutPane paneId
  if t.activePane = paneId then t.setActivePane t.tree.firstPane else t

/-- Adds a pane on top of the floating layer and focuses it. -/
def addFloating : Tab :=
  (t.setFloating (t.floating.add ⟨paneId, t.floating.maxZ + 1⟩)).setActivePane paneId

/-- Toggles the focused pane between floating and tiled. -/
def toggleFloatTile : Tab :=
  let t := t.unzoom
  if t.isFloating t.activePane then
    let t' := t.setFloating (t.floating.remove t.activePane)
    (t'.setTree (t'.tree.splitAt t'.tree.firstPane .vertical t.activePane 0.5)).setActivePane t.activePane
  else if t.tree.contains t.activePane then
    match t.tree.remove t.activePane with
    | none => t
    | some newTree => (t.setTree newTree).addFloating t.activePane
  else t

/-- The panes that the layout shows; none when a single pane fills the tab. -/
def layouts : List PaneId :=
  match t.zoomedPane with
  | some zoomed => [zoomed]
  | none => if t.tree.paneCount ≤ 1 ∧ t.floating.panes.isEmpty then [] else t.allPanes

/-- Focuses a pane of the layout. -/
def focus : Tab := if paneId ∈ t.layouts then t.setActivePane paneId else t

def raiseIfFloating : Tab :=
  if t.isFloating paneId then t.setFloating (t.floating.raise paneId) else t

end Tab

/-! ## Open tabs -/

/-- A tab with the panes that run in it. -/
structure OpenTab where
  tab : Tab
  live : Finset PaneId
  /-- The id of the next pane that is spawned. -/
  nextPane : PaneId

/-- An action on a tab. -/
inductive TabOp where
  | split (direction : SplitDirection) (spawned : Bool)
  /-- A pane is closed, or its process ended. -/
  | removePane (paneId : PaneId)
  | replaceLayout (tree : SplitTree)
  | resizeToward (axis : SplitDirection) (paneInFirst : Bool) (delta : Float32)
  | equalize
  | setDividerRatio (paneBefore paneAfter : PaneId) (newRatio : Float32)
  | setRatio (pane : PaneId) (direction : SplitDirection) (newRatio : Float32)
  | swap (a b : PaneId)
  | toggleFloatingPane (spawned : Bool)
  | toggleFloatTile
  | toggleZoom
  /-- Focus by direction or by cycling, which clears the zoom. -/
  | focus (paneId : PaneId)
  /-- Focus by click, which raises a floating pane. -/
  | click (paneId : PaneId)
  | undo
  | redo

namespace OpenTab

/-- A new tab with its first pane. -/
def new (id : TabId) (paneId : PaneId) : OpenTab := ⟨.new id paneId, {paneId}, paneId + 1⟩

/-- Changes the tab only. -/
def onTab (s : OpenTab) (f : Tab → Tab) : OpenTab := { s with tab := f s.tab }

/-- A pane is spawned, and the tab takes it. -/
def spawn (s : OpenTab) (f : PaneId → Tab → Tab) : OpenTab :=
  { tab := f s.nextPane s.tab, live := insert s.nextPane s.live, nextPane := s.nextPane + 1 }

/-- The live set that the application passes to undo and redo. -/
def livePaneIds (s : OpenTab) : Finset PaneId := s.tab.allPanes.toFinset

/-- Sets a new tree unless it is the same. -/
def setIfChanged (t : Tab) (tree : SplitTree) : Tab := if tree != t.tree then t.setTree tree else t

def apply (s : OpenTab) : TabOp → OpenTab
  | .split direction spawned =>
    if spawned then
      s.spawn fun newPane t => t.unzoom.setTree (t.tree.splitAt t.activePane direction newPane 0.5)
    else s.onTab (·.unzoom)
  | .removePane paneId =>
    { s with
      tab := if paneId ∈ s.tab.allPanes then s.tab.removePane paneId else s.tab
      live := s.live.erase paneId }
  | .replaceLayout tree => s.onTab (·.replaceLayout tree)
  | .resizeToward axis paneInFirst delta =>
    s.onTab fun t =>
      match t.unzoom.tree.tryResizeToward t.activePane axis paneInFirst delta with
      | some newTree => t.unzoom.setTree newTree
      | none => t.unzoom
  | .equalize => s.onTab fun t => setIfChanged t.unzoom t.unzoom.tree.equalize
  | .setDividerRatio paneBefore paneAfter newRatio =>
    s.onTab fun t => setIfChanged t (t.tree.setDividerRatio paneBefore paneAfter newRatio)
  | .setRatio pane direction newRatio => s.onTab fun t => t.setTree (t.tree.setRatio pane direction newRatio)
  | .swap a b => s.onTab fun t => t.setTree (t.tree.swap a b)
  | .toggleFloatingPane spawned =>
    match s.tab.floating.panes.getLast? with
    | some top =>
      s.onTab fun t =>
        t.unzoom.setActivePane (if t.isFloating t.activePane then t.tree.firstPane else top.paneId)
    | none => if spawned then s.spawn fun newPane t => t.unzoom.addFloating newPane else s.onTab (·.unzoom)
  | .toggleFloatTile => s.onTab (·.toggleFloatTile)
  | .toggleZoom => s.onTab (·.toggleZoom)
  | .focus paneId => s.onTab fun t => t.unzoom.focus paneId
  | .click paneId =>
    s.onTab fun t =>
      if paneId ∈ t.layouts ∧ paneId ≠ t.activePane then (t.setActivePane paneId).raiseIfFloating paneId else t
  | .undo => s.onTab fun t => (t.undoTree s.livePaneIds).2
  | .redo => s.onTab fun t => (t.redoTree s.livePaneIds).2

variable {s : OpenTab}

/-! ### Consistency -/

/-- Every live pane is in exactly one of the tree and the floating layer, and nothing else is. -/
structure Consistent (s : OpenTab) : Prop where
  placed : ∀ p, p ∈ s.live ↔ p ∈ s.tab.allPanes
  once : s.tab.allPanes.Nodup
  active : s.tab.activePane ∈ s.tab.allPanes
  zoomed : ∀ p, s.tab.zoomedPane = some p → p ∈ s.tab.allPanes

/-- Every id was given out. -/
structure Allocated (s : OpenTab) : Prop where
  live : ∀ p ∈ s.live, p < s.nextPane

/-- The latest tree of the history that has only panes of the tab has the same panes as the tree. -/
def SamePanes (s : OpenTab) (history : List SplitTree) : Prop :=
  ∀ candidate, history.find? (fun tree => tree.panes.all (· ∈ s.livePaneIds)) = some candidate →
    candidate.panes.Perm s.tab.tree.panes

/-- The action loses no pane. -/
def KeepsPanes (s : OpenTab) : TabOp → Prop
  | .split _ spawned => spawned = true → s.tab.activePane ∈ s.tab.tree.panes
  | .removePane paneId => paneId ∈ s.tab.allPanes →
      (s.tab.isFloating paneId = true ∨ s.tab.tree ≠ .leaf paneId) ∧ s.tab.zoomedPane ≠ some paneId
  | .replaceLayout tree => tree.panes.Perm s.tab.tree.panes
  | .undo => s.SamePanes s.tab.undo
  | .redo => s.SamePanes s.tab.redo
  | _ => True

theorem consistent_new (id : TabId) (paneId : PaneId) : (new id paneId).Consistent := by
  have hpanes : (new id paneId).tab.allPanes = [paneId] := rfl
  refine ⟨fun p => ?_, ?_, ?_, nofun⟩
  · rw [hpanes, mem_singleton]
    exact Finset.mem_singleton
  · exact nodup_singleton paneId
  · exact mem_singleton_self paneId

variable {t : Tab}

theorem mem_allPanes {p : PaneId} : p ∈ t.allPanes ↔ p ∈ t.tree.panes ∨ p ∈ t.floating.paneIds :=
  mem_append

/-- The panes change places; focus and zoom stay among them. -/
theorem Consistent.of_perm (h : s.Consistent) (hperm : t.allPanes.Perm s.tab.allPanes)
    (hactive : t.activePane ∈ s.tab.allPanes) (hzoomed : ∀ p, t.zoomedPane = some p → p ∈ s.tab.allPanes) :
    ({ s with tab := t } : OpenTab).Consistent := by
  refine ⟨fun p => ?_, hperm.nodup_iff.mpr h.once, hperm.mem_iff.mpr hactive, fun p hp => hperm.mem_iff.mpr (hzoomed p hp)⟩
  rw [hperm.mem_iff]
  exact h.placed p

section

variable (h : s.Consistent) (ht : t.allPanes = s.tab.allPanes) (hactive : t.activePane ∈ s.tab.allPanes)
  (hzoomed : ∀ p, t.zoomedPane = some p → p ∈ s.tab.allPanes) {tree : SplitTree}
include h ht hactive hzoomed

/-- A new tree with the same leaves. -/
theorem Consistent.setTree (htree : tree.panes.Perm t.tree.panes) :
    ({ s with tab := t.setTree tree } : OpenTab).Consistent := by
  refine h.of_perm ?_ hactive hzoomed
  rw [← ht]
  exact htree.append_right _

theorem Consistent.setIfChanged (htree : tree.panes = t.tree.panes) :
    ({ s with tab := OpenTab.setIfChanged t tree } : OpenTab).Consistent := by
  unfold OpenTab.setIfChanged
  split
  · exact h.setTree ht hactive hzoomed (Perm.of_eq htree)
  · exact h.of_perm (Perm.of_eq ht) hactive hzoomed

end

/-- A spawned pane that the tab takes. -/
theorem Consistent.spawn (h : s.Consistent) (ha : s.Allocated) {f : PaneId → Tab → Tab}
    (hperm : (f s.nextPane s.tab).allPanes.Perm (s.nextPane :: s.tab.allPanes))
    (hactive : (f s.nextPane s.tab).activePane ∈ s.nextPane :: s.tab.allPanes)
    (hzoomed : (f s.nextPane s.tab).zoomedPane = none) : (s.spawn f).Consistent := by
  have hfresh : s.nextPane ∉ s.tab.allPanes :=
    fun hmem => Nat.lt_irrefl _ (ha.live _ ((h.placed _).mpr hmem))
  refine ⟨fun p => ?_, hperm.nodup_iff.mpr (nodup_cons.mpr ⟨hfresh, h.once⟩), hperm.mem_iff.mpr hactive,
    fun p hp => ?_⟩
  · have hlive : p ∈ (s.spawn f).live ↔ p = s.nextPane ∨ p ∈ s.live := Finset.mem_insert
    refine hlive.trans ?_
    show _ ↔ p ∈ (f s.nextPane s.tab).allPanes
    rw [hperm.mem_iff, mem_cons, h.placed]
  · have hzoom : (s.spawn f).tab.zoomedPane = (f s.nextPane s.tab).zoomedPane := rfl
    rw [hzoom, hzoomed] at hp
    cases hp

/-! ### Splitting -/

theorem consistent_split_iff (h : s.Consistent) (ha : s.Allocated) (direction : SplitDirection) :
    (s.apply (.split direction true)).Consistent ↔ s.tab.activePane ∈ s.tab.tree.panes := by
  have happly : s.apply (.split direction true) =
      s.spawn fun newPane t => t.unzoom.setTree (t.tree.splitAt t.activePane direction newPane 0.5) := rfl
  rw [happly]
  constructor
  · intro h'
    by_contra hactive
    -- the tree is as it was, so the new pane is nowhere
    have hmem := (h'.placed s.nextPane).mp (Finset.mem_insert_self _ _)
    have htree : ((s.spawn fun newPane t => t.unzoom.setTree (t.tree.splitAt t.activePane direction newPane 0.5)).tab.tree) =
        s.tab.tree := SplitTree.splitAt_of_not_mem direction s.nextPane 0.5 hactive
    rw [mem_allPanes, htree] at hmem
    exact Nat.lt_irrefl _ (ha.live _ ((h.placed _).mpr (mem_allPanes.mpr hmem)))
  · intro hactive
    refine h.spawn ha ?_ (mem_cons_of_mem _ h.active) rfl
    exact (SplitTree.panes_splitAt direction s.nextPane 0.5 hactive).append_right s.tab.floating.paneIds

/-! ### Removing -/

section

variable (t : Tab) (p : PaneId)

theorem withoutPane_eq :
    t.withoutPane p =
      { t with
        tree := if t.isFloating p then t.tree else (t.tree.remove p).getD t.tree
        floating := if t.isFloating p then t.floating.remove p else t.floating } := by
  unfold Tab.withoutPane
  cases t.isFloating p with
  | true => rfl
  | false => cases t.tree.remove p <;> rfl

/-- The panes of a tab after a removal do not depend on the focus. -/
theorem removePane_panes :
    (t.removePane p).tree = (if t.isFloating p then t.tree else (t.tree.remove p).getD t.tree) ∧
      (t.removePane p).floating = (if t.isFloating p then t.floating.remove p else t.floating) := by
  unfold Tab.removePane
  rw [withoutPane_eq]
  dsimp only
  constructor
  · split <;> rfl
  · split <;> rfl

theorem activePane_removePane :
    (t.removePane p).activePane = if t.activePane = p then (t.removePane p).tree.firstPane else t.activePane := by
  unfold Tab.removePane
  rw [withoutPane_eq]
  dsimp only
  split <;> rfl

theorem zoomedPane_removePane : (t.removePane p).zoomedPane = t.zoomedPane := by
  unfold Tab.removePane
  rw [withoutPane_eq]
  dsimp only
  split <;> rfl

end

/-- A pane of the floating layer, or one that is not the only leaf, goes. -/
theorem allPanes_removePane {p : PaneId} (hfloating : t.isFloating p = true → p ∉ t.tree.panes)
    (honce : t.tree.panes.count p ≤ 1) (h : t.isFloating p = true ∨ t.tree ≠ .leaf p) :
    (t.removePane p).allPanes = t.allPanes.filter (· != p) := by
  obtain ⟨htree, hlayer⟩ := removePane_panes t p
  unfold Tab.allPanes
  rw [htree, hlayer, filter_append]
  cases hf : t.isFloating p with
  | true =>
    have hself : t.tree.panes.filter (· != p) = t.tree.panes := by
      refine filter_eq_self.mpr fun q hq => bne_iff_ne.mpr ?_
      rintro rfl
      exact hfloating hf hq
    rw [if_pos rfl, if_pos rfl, hself, FloatingLayer.paneIds_remove]
  | false =>
    have hself : t.floating.paneIds.filter (· != p) = t.floating.paneIds := by
      refine filter_eq_self.mpr fun q hq => bne_iff_ne.mpr ?_
      rintro rfl
      exact Bool.false_ne_true (hf.symm.trans (FloatingLayer.contains_iff.mpr hq))
    rw [if_neg Bool.false_ne_true, if_neg Bool.false_ne_true, hself]
    cases hr : t.tree.remove p with
    | none =>
      have hleaf := SplitTree.remove_eq_none_iff.mp hr
      rcases h with h | h
      · exact absurd (hf.symm.trans h) Bool.false_ne_true
      · exact absurd hleaf h
    | some tree =>
      rw [Option.getD_some, SplitTree.panes_remove hr honce]

/-- The first leaf is one of the panes. -/
theorem firstPane_mem_allPanes (t : Tab) : t.tree.firstPane ∈ t.allPanes :=
  mem_allPanes.mpr (.inl t.tree.firstPane_mem)

theorem consistent_removePane_iff (h : s.Consistent) {p : PaneId} (hp : p ∈ s.tab.allPanes) :
    ({ s with tab := s.tab.removePane p, live := s.live.erase p } : OpenTab).Consistent ↔
      (s.tab.isFloating p = true ∨ s.tab.tree ≠ .leaf p) ∧ s.tab.zoomedPane ≠ some p := by
  have hnodup := nodup_append.mp h.once
  have hfloating : s.tab.isFloating p = true → p ∉ s.tab.tree.panes :=
    fun hf hmem => hnodup.2.2 p hmem p (FloatingLayer.contains_iff.mp hf) rfl
  have honce : s.tab.tree.panes.count p ≤ 1 := nodup_iff_count_le_one.mp hnodup.1 p
  constructor
  · intro h'
    have hgone : p ∉ (s.tab.removePane p).allPanes :=
      fun hmem => Finset.notMem_erase p s.live ((h'.placed p).mpr hmem)
    constructor
    · -- a sole leaf would still be there
      by_contra hsole
      rw [not_or, not_not, Bool.not_eq_true] at hsole
      refine hgone (mem_allPanes.mpr (.inl ?_))
      rw [(removePane_panes s.tab p).1, hsole.1, SplitTree.remove_eq_none_iff.mpr hsole.2, hsole.2]
      exact mem_singleton_self p
    · intro hz
      exact hgone (h'.zoomed p ((zoomedPane_removePane s.tab p).trans hz))
  · rintro ⟨hplace, hz⟩
    have hpanes := allPanes_removePane hfloating honce hplace
    have hmem : ∀ q, q ∈ (s.tab.removePane p).allPanes ↔ q ∈ s.tab.allPanes ∧ q ≠ p := by
      intro q
      rw [hpanes, mem_filter, bne_iff_ne]
    refine ⟨fun q => ?_, ?_, ?_, fun q hq => ?_⟩
    · rw [hmem, Finset.mem_erase, h.placed, and_comm]
    · rw [hpanes]
      exact h.once.filter _
    · rw [activePane_removePane]
      split
      · exact firstPane_mem_allPanes _
      · next hne => exact (hmem _).mpr ⟨h.active, hne⟩
    · have hzoom : s.tab.zoomedPane = some q := (zoomedPane_removePane s.tab p).symm.trans hq
      refine (hmem q).mpr ⟨h.zoomed q hzoom, ?_⟩
      rintro rfl
      exact hz hzoom

/-! ### Undo and redo -/

/-- A tree in place of another keeps the panes exactly when it has the same. -/
theorem consistent_tree_iff (h : s.Consistent) (hfloating : t.floating = s.tab.floating)
    (hactive : t.activePane = s.tab.activePane) (hzoomed : t.zoomedPane = s.tab.zoomedPane) :
    ({ s with tab := t } : OpenTab).Consistent ↔ t.tree.panes.Perm s.tab.tree.panes := by
  constructor
  · intro h'
    have hnodup := nodup_append.mp h.once
    have hnodup' := nodup_append.mp h'.once
    refine (perm_ext_iff_of_nodup hnodup'.1 hnodup.1).mpr fun p => ?_
    have hplaced : p ∈ s.tab.allPanes ↔ p ∈ t.allPanes := (h.placed p).symm.trans (h'.placed p)
    rw [mem_allPanes, mem_allPanes, hfloating] at hplaced
    constructor
    · intro hp
      refine (hplaced.mpr (.inl hp)).resolve_right fun hf => ?_
      exact hnodup'.2.2 p hp p (hfloating ▸ hf) rfl
    · intro hp
      exact (hplaced.mp (.inl hp)).resolve_right fun hf => hnodup.2.2 p hp p hf rfl
  · intro hperm
    refine h.of_perm ?_ (hactive ▸ h.active) fun p hp => h.zoomed p (hzoomed ▸ hp)
    unfold Tab.allPanes
    rw [hfloating]
    exact hperm.append_right _

theorem map_fst_popLive (live : Finset PaneId) (history : List SplitTree) :
    (Tab.popLive live history).map Prod.fst = history.find? fun tree => tree.panes.all (· ∈ live) := by
  induction history with
  | nil => rfl
  | cons candidate rest ih =>
    unfold Tab.popLive
    rw [find?_cons]
    cases candidate.panes.all (· ∈ live) with
    | true => rfl
    | false => exact ih

theorem samePanes_of_popLive {history : List SplitTree} {popped : SplitTree × List SplitTree}
    (hpop : Tab.popLive s.livePaneIds history = some popped) :
    s.SamePanes history ↔ popped.1.panes.Perm s.tab.tree.panes := by
  unfold SamePanes
  rw [← map_fst_popLive, hpop]
  constructor
  · exact fun hsame => hsame popped.1 rfl
  · intro hperm candidate heq
    rw [← Option.some.inj heq]
    exact hperm

theorem samePanes_of_popLive_none {history : List SplitTree} (hpop : Tab.popLive s.livePaneIds history = none) :
    s.SamePanes history := by
  unfold SamePanes
  rw [← map_fst_popLive, hpop]
  nofun

theorem consistent_undo_iff (h : s.Consistent) : (s.apply .undo).Consistent ↔ s.SamePanes s.tab.undo := by
  have happly : s.apply .undo = { s with tab := (s.tab.undoTree s.livePaneIds).2 } := rfl
  rw [happly]
  unfold Tab.undoTree
  cases hpop : Tab.popLive s.livePaneIds s.tab.undo with
  | none => exact iff_of_true (h.of_perm (List.Perm.refl _) h.active h.zoomed) (samePanes_of_popLive_none hpop)
  | some popped =>
    rw [samePanes_of_popLive hpop]
    exact consistent_tree_iff h
      rfl rfl rfl

theorem consistent_redo_iff (h : s.Consistent) : (s.apply .redo).Consistent ↔ s.SamePanes s.tab.redo := by
  have happly : s.apply .redo = { s with tab := (s.tab.redoTree s.livePaneIds).2 } := rfl
  rw [happly]
  unfold Tab.redoTree
  cases hpop : Tab.popLive s.livePaneIds s.tab.redo with
  | none => exact iff_of_true (h.of_perm (List.Perm.refl _) h.active h.zoomed) (samePanes_of_popLive_none hpop)
  | some popped =>
    rw [samePanes_of_popLive hpop]
    exact consistent_tree_iff h
      rfl rfl rfl

/-- **Redo takes back an undo.** -/
theorem redo_undo {live : Finset PaneId} (hlive : ∀ p ∈ t.tree.panes, p ∈ live)
    (happlied : (t.undoTree live).1 = true) : (((t.undoTree live).2.redoTree live).2).tree = t.tree := by
  unfold Tab.undoTree at happlied ⊢
  cases hpop : Tab.popLive live t.undo with
  | none =>
    rw [hpop] at happlied
    cases happlied
  | some popped =>
    have hall : t.tree.panes.all (· ∈ live) = true := all_eq_true.mpr fun p hp => decide_eq_true (hlive p hp)
    unfold Tab.redoTree Tab.pushTree Tab.popLive
    rw [hall]
    rfl

/-! ### Floating -/

/-- A new tree with other leaves, the floating layer making up for it. -/
theorem allPanes_toggleFloatTile (h : t.allPanes.Nodup) : t.toggleFloatTile.allPanes.Perm t.allPanes := by
  have hnodup := nodup_append.mp h
  unfold Tab.toggleFloatTile
  dsimp only
  split
  · next hfloating =>
    have hmem : t.activePane ∈ t.floating.paneIds := FloatingLayer.contains_iff.mp hfloating
    have htree := SplitTree.panes_splitAt .vertical t.activePane 0.5 t.tree.firstPane_mem
    have hlayer : (t.activePane :: (t.floating.remove t.activePane).paneIds).Perm t.floating.paneIds := by
      rw [FloatingLayer.paneIds_remove, ← hnodup.2.1.erase_eq_filter]
      exact (perm_cons_erase hmem).symm
    refine (htree.append_right _).trans ?_
    exact perm_middle.symm.trans (hlayer.append_left t.tree.panes)
  · split
    · next hcontains =>
      split
      · exact List.Perm.refl _
      · next newTree hremove =>
        have hmem : t.activePane ∈ t.tree.panes := SplitTree.contains_iff.mp hcontains
        have honce := nodup_iff_count_le_one.mp hnodup.1 t.activePane
        have htree : (t.activePane :: newTree.panes).Perm t.tree.panes := by
          have hpanes : newTree.panes = t.tree.panes.filter (· != t.activePane) :=
            SplitTree.panes_remove hremove honce
          rw [hpanes, ← hnodup.1.erase_eq_filter]
          exact (perm_cons_erase hmem).symm
        have hlayer := FloatingLayer.paneIds_add t.floating ⟨t.activePane, t.floating.maxZ + 1⟩
        refine (hlayer.append_left newTree.panes).trans ?_
        exact perm_middle.trans (htree.append_right _)
    · exact List.Perm.refl _

theorem activePane_toggleFloatTile (t : Tab) : t.toggleFloatTile.activePane = t.activePane := by
  unfold Tab.toggleFloatTile
  dsimp only
  split
  · rfl
  · split
    · split <;> rfl
    · rfl

theorem zoomedPane_toggleFloatTile (t : Tab) : t.toggleFloatTile.zoomedPane = none := by
  unfold Tab.toggleFloatTile
  dsimp only
  split
  · rfl
  · split
    · split <;> rfl
    · rfl

/-- The panes that a layout shows are panes of the tab. -/
theorem mem_layouts (hzoomed : ∀ p, t.zoomedPane = some p → p ∈ t.allPanes) {p : PaneId} (h : p ∈ t.layouts) :
    p ∈ t.allPanes := by
  unfold Tab.layouts at h
  split at h
  · next zoomed hz =>
    obtain rfl := mem_singleton.mp h
    exact hzoomed p hz
  · split at h
    · cases h
    · exact h

theorem raiseIfFloating_panes (t : Tab) (p : PaneId) :
    (t.raiseIfFloating p).allPanes.Perm t.allPanes ∧ (t.raiseIfFloating p).activePane = t.activePane ∧
      (t.raiseIfFloating p).zoomedPane = t.zoomedPane := by
  unfold Tab.raiseIfFloating
  split
  · exact ⟨(FloatingLayer.paneIds_raise t.floating p).append_left t.tree.panes, rfl, rfl⟩
  · exact ⟨List.Perm.refl _, rfl, rfl⟩

theorem Consistent.toggleFloatingPane (h : s.Consistent) (ha : s.Allocated) (spawned : Bool) :
    (s.apply (.toggleFloatingPane spawned)).Consistent := by
  unfold apply
  dsimp only
  split
  · next top htop =>
    refine h.of_perm (List.Perm.refl _) ?_ nofun
    show (if s.tab.isFloating s.tab.activePane then s.tab.tree.firstPane else top.paneId) ∈ s.tab.allPanes
    split
    · exact firstPane_mem_allPanes _
    · exact mem_allPanes.mpr (.inr (mem_map_of_mem (mem_of_getLast? htop)))
  · split
    · refine h.spawn ha ?_ (mem_cons_self ..) rfl
      have hlayer := FloatingLayer.paneIds_add s.tab.floating ⟨s.nextPane, s.tab.floating.maxZ + 1⟩
      exact (hlayer.append_left s.tab.tree.panes).trans perm_middle
    · exact h.of_perm (List.Perm.refl _) h.active nofun

/-! ### Runs -/

/-- **One action loses a pane exactly when it misses the guard.** -/
theorem consistent_apply_iff (h : s.Consistent) (ha : s.Allocated) (op : TabOp) :
    (s.apply op).Consistent ↔ s.KeepsPanes op := by
  cases op with
  | split direction spawned =>
    cases spawned with
    | true => exact (consistent_split_iff h ha direction).trans ⟨fun hactive _ => hactive, fun hk => hk rfl⟩
    | false => exact iff_of_true (h.of_perm (List.Perm.refl _) h.active nofun) nofun
  | removePane p =>
    by_cases hp : p ∈ s.tab.allPanes
    · have happly : s.apply (.removePane p) = { s with tab := s.tab.removePane p, live := s.live.erase p } := by
        unfold apply
        dsimp only
        rw [if_pos hp]
      rw [happly]
      exact (consistent_removePane_iff h hp).trans ⟨fun hk _ => hk, fun hk => hk hp⟩
    · have happly : s.apply (.removePane p) = s := by
        unfold apply
        dsimp only
        rw [if_neg hp, Finset.erase_eq_of_notMem (mt (h.placed p).mp hp)]
      rw [happly]
      exact iff_of_true h fun hmem => absurd hmem hp
  | replaceLayout tree => exact consistent_tree_iff h rfl rfl rfl
  | resizeToward axis paneInFirst delta =>
    refine iff_of_true ?_ trivial
    unfold apply onTab
    dsimp only
    split
    · next newTree hresize =>
      exact h.setTree (t := s.tab.unzoom) rfl h.active nofun
        (Perm.of_eq (SplitTree.panes_tryResizeToward hresize))
    · exact h.of_perm (List.Perm.refl _) h.active nofun
  | equalize =>
    refine iff_of_true ?_ trivial
    exact h.setIfChanged (t := s.tab.unzoom) rfl h.active nofun (SplitTree.panes_equalize _)
  | setDividerRatio before after newRatio =>
    exact iff_of_true (h.setIfChanged rfl h.active h.zoomed (SplitTree.panes_setDividerRatio ..)) trivial
  | setRatio pane direction newRatio =>
    refine iff_of_true (h.setTree rfl h.active h.zoomed (Perm.of_eq ?_)) trivial
    exact SplitTree.panes_setRatio pane direction newRatio s.tab.tree
  | swap a b =>
    exact iff_of_true (h.setTree rfl h.active h.zoomed (SplitTree.panes_swap a b (nodup_append.mp h.once).1))
      trivial
  | toggleFloatingPane spawned => exact iff_of_true (h.toggleFloatingPane ha spawned) trivial
  | toggleFloatTile =>
    refine iff_of_true (h.of_perm (allPanes_toggleFloatTile h.once) ?_ fun p hp => ?_) trivial
    · rw [activePane_toggleFloatTile]
      exact h.active
    · rw [zoomedPane_toggleFloatTile] at hp
      cases hp
  | toggleZoom =>
    refine iff_of_true ?_ trivial
    show ({ s with tab := s.tab.toggleZoom } : OpenTab).Consistent
    unfold Tab.toggleZoom
    split
    · exact h.of_perm (List.Perm.refl _) h.active nofun
    · refine h.of_perm (List.Perm.refl _) h.active fun p hp => ?_
      obtain rfl := Option.some.inj hp
      exact h.active
  | focus p =>
    refine iff_of_true ?_ trivial
    show ({ s with tab := s.tab.unzoom.focus p } : OpenTab).Consistent
    unfold Tab.focus
    split
    · next hp => exact h.of_perm (List.Perm.refl _) (mem_layouts (t := s.tab.unzoom) nofun hp) nofun
    · exact h.of_perm (List.Perm.refl _) h.active nofun
  | click p =>
    refine iff_of_true ?_ trivial
    unfold apply onTab
    dsimp only
    split
    · next hp =>
      obtain ⟨hperm, hactive, hzoomed⟩ := raiseIfFloating_panes (s.tab.setActivePane p) p
      refine h.of_perm hperm ?_ fun q hq => h.zoomed q (hzoomed.symm.trans hq)
      rw [hactive]
      exact mem_layouts h.zoomed hp.1
    · exact h
  | undo => exact consistent_undo_iff h
  | redo => exact consistent_redo_iff h

theorem Allocated.spawn (ha : s.Allocated) (f : PaneId → Tab → Tab) : (s.spawn f).Allocated := by
  refine ⟨fun p hp => ?_⟩
  rcases Finset.mem_insert.mp hp with rfl | hlive
  · exact Nat.lt_succ_self _
  · exact Nat.lt_succ_of_lt (ha.live p hlive)

theorem Allocated.apply (ha : s.Allocated) (op : TabOp) : (s.apply op).Allocated := by
  cases op with
  | split direction spawned =>
    unfold OpenTab.apply
    dsimp only
    split
    · exact ha.spawn _
    · exact ⟨ha.live⟩
  | removePane p => exact ⟨fun q hq => ha.live q (Finset.mem_of_mem_erase hq)⟩
  | toggleFloatingPane spawned =>
    unfold OpenTab.apply
    dsimp only
    split
    · exact ⟨ha.live⟩
    · split
      · exact ha.spawn _
      · exact ⟨ha.live⟩
  | _ => exact ⟨ha.live⟩

/-- At every point of the run the tab is consistent, and an undo that found an entry is taken back by a redo with the
    same live panes. -/
structure ConsistentRun (s : OpenTab) (ops : List TabOp) : Prop where
  consistent : ∀ n, (run apply s (ops.take n)).Consistent
  restored : ∀ n live, live = (run apply s (ops.take n)).livePaneIds →
    ((run apply s (ops.take n)).tab.undoTree live).1 = true →
      (((run apply s (ops.take n)).tab.undoTree live).2.redoTree live).2.tree = (run apply s (ops.take n)).tab.tree

/-- **A run from a new tab keeps every live pane in one place exactly when its steps meet the guard.** -/
theorem keepsPanes_run_iff (id : TabId) (paneId : PaneId) (ops : List TabOp) :
    ConsistentRun (new id paneId) ops ↔ Along apply KeepsPanes (new id paneId) ops := by
  have hallocated : (new id paneId).Allocated := by
    refine ⟨fun p hp => ?_⟩
    obtain rfl := Finset.mem_singleton.mp hp
    exact Nat.lt_succ_self p
  have hiff : (∀ n, (run apply (new id paneId) (ops.take n)).Consistent) ↔ Along apply KeepsPanes (new id paneId) ops :=
    along_iff_forall_take (fun s op (ha : Allocated s) (h : s.Consistent) =>
      ⟨ha.apply op, consistent_apply_iff h ha op⟩) hallocated (consistent_new id paneId)
  refine ⟨fun h => hiff.mp h.consistent, fun h => ⟨hiff.mpr h, fun n live hlive happlied => ?_⟩⟩
  refine redo_undo (fun p hp => ?_) happlied
  rw [hlive]
  exact mem_toFinset.mpr (mem_allPanes.mpr (.inl hp))

/-- A split that is undone leaves its pane in no layout. -/
theorem undo_split_drops : ¬ ConsistentRun (new 0 0) [.split .vertical true, .undo] := by
  intro h
  have hlive : 1 ∈ (run apply (new 0 0) [.split .vertical true, .undo]).live := by decide
  have hpanes : (run apply (new 0 0) [.split .vertical true, .undo]).tab.allPanes = [0] := rfl
  have hmem := ((h.consistent 2).placed 1).mp hlive
  have hne : (1 : PaneId) ∉ [0] := by decide
  exact hne (hpanes ▸ hmem)

end OpenTab

end OriTerm
