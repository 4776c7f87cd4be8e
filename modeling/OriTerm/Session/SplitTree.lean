import Mathlib.Data.List.Perm.Basic
import OriTerm.Mux.PaneSnapshot

/-!
# `Session.SplitTree` — the layout of a tab

A binary tree whose leaves are the panes of a tab. Every mutation returns a new tree, so the tab can keep old trees for
undo. What matters to the session is the list of leaves: the ratios change no leaf, a swap exchanges two, a split adds
one and a removal takes one away.

* **`filter_remove`**, **`count_remove`** — a removal takes one leaf, and keeps the order of the others.
-/

namespace OriTerm

open List Option

/-- Direction of a split between two panes. -/
inductive SplitDirection where
  | horizontal
  | vertical
  deriving DecidableEq, Repr

/-- Minimum ratio for any split. -/
def minRatio : Float32 := 0.1

/-- Maximum ratio for any split. -/
def maxRatio : Float32 := 0.9

/-- Clamp a ratio to the valid range. -/
def clampRatio (ratio : Float32) : Float32 :=
  if ratio < minRatio then minRatio else if maxRatio < ratio then maxRatio else ratio

/-- Immutable binary layout tree. -/
inductive SplitTree where
  /-- A single pane occupying the entire area. -/
  | leaf (pane : PaneId)
  | split (direction : SplitDirection) (ratio : Float32) (first second : SplitTree)
  deriving BEq

namespace SplitTree

/-! ## Queries -/

def contains (pane : PaneId) : SplitTree → Bool
  | leaf id => id == pane
  | split _ _ first second => first.contains pane || second.contains pane

def paneCount : SplitTree → Nat
  | leaf _ => 1
  | split _ _ first second => first.paneCount + second.paneCount

/-- The first (leftmost/topmost) pane. -/
def firstPane : SplitTree → PaneId
  | leaf id => id
  | split _ _ first _ => first.firstPane

/-- All panes in depth-first order. -/
def panes : SplitTree → List PaneId
  | leaf id => [id]
  | split _ _ first second => first.panes ++ second.panes

/-- The tree is the leaf of this pane. -/
def isLeaf (pane : PaneId) : SplitTree → Bool
  | leaf id => id == pane
  | split .. => false

/-! ## Mutations -/

/-- Splits the given pane, placing `newPane` as the second child. -/
def splitAt (pane : PaneId) (direction : SplitDirection) (newPane : PaneId) (ratio : Float32) : SplitTree → SplitTree
  | leaf id => if id == pane then split direction (clampRatio ratio) (leaf pane) (leaf newPane) else leaf id
  | split d r first second =>
    if first.contains pane then split d r (first.splitAt pane direction newPane (clampRatio ratio)) second
    else if second.contains pane then split d r first (second.splitAt pane direction newPane (clampRatio ratio))
    else split d r first second

/-- Removes a pane, collapsing the parent split to its sibling; `none` if it was the last. -/
def remove (pane : PaneId) : SplitTree → Option SplitTree
  | leaf id => if id == pane then none else some (leaf id)
  | split d r first second =>
    if first.isLeaf pane then some second
    else if second.isLeaf pane then some first
    else if first.contains pane then (first.remove pane).map fun newFirst => split d r newFirst second
    else if second.contains pane then (second.remove pane).map fun newSecond => split d r first newSecond
    else some (split d r first second)

/-- Updates the ratio of the outermost split of the direction that contains the pane. -/
def setRatio (pane : PaneId) (direction : SplitDirection) (newRatio : Float32) : SplitTree → SplitTree
  | leaf id => leaf id
  | split d ratio first second =>
    if d = direction ∧ (split d ratio first second).contains pane then split d (clampRatio newRatio) first second
    else if first.contains pane then split d ratio (first.setRatio pane direction (clampRatio newRatio)) second
    else if second.contains pane then split d ratio first (second.setRatio pane direction (clampRatio newRatio))
    else split d ratio first second

/-- Sets the ratio of the split between two panes. -/
def setDividerRatio (paneBefore paneAfter : PaneId) (newRatio : Float32) : SplitTree → SplitTree
  | leaf id => leaf id
  | split d ratio first second =>
    if first.contains paneBefore && second.contains paneAfter then split d (clampRatio newRatio) first second
    else if first.contains paneBefore && first.contains paneAfter then
      split d ratio (first.setDividerRatio paneBefore paneAfter (clampRatio newRatio)) second
    else if second.contains paneBefore && second.contains paneAfter then
      split d ratio first (second.setDividerRatio paneBefore paneAfter (clampRatio newRatio))
    else split d ratio first second

/-- Adjusts the deepest split of the axis that has the pane on the given side; whether there is one. -/
def resizeTowardInner (pane : PaneId) (axis : SplitDirection) (paneInFirst : Bool) (delta : Float32) :
    SplitTree → SplitTree × Bool
  | leaf id => (leaf id, false)
  | split d ratio first second =>
    if first.contains pane then
      match first.resizeTowardInner pane axis paneInFirst delta with
      | (newFirst, true) => (split d ratio newFirst second, true)
      | (_, false) =>
        if d = axis ∧ paneInFirst = true then (split d (clampRatio (ratio + delta)) first second, true)
        else (split d ratio first second, false)
    else if second.contains pane then
      match second.resizeTowardInner pane axis paneInFirst delta with
      | (newSecond, true) => (split d ratio first newSecond, true)
      | (_, false) =>
        if d = axis ∧ paneInFirst = false then (split d (clampRatio (ratio + delta)) first second, true)
        else (split d ratio first second, false)
    else (split d ratio first second, false)

/-- Resizes a pane by adjusting the nearest qualifying split border. -/
def resizeToward (pane : PaneId) (axis : SplitDirection) (paneInFirst : Bool) (delta : Float32) (t : SplitTree) :
    SplitTree :=
  (t.resizeTowardInner pane axis paneInFirst delta).1

def tryResizeToward (pane : PaneId) (axis : SplitDirection) (paneInFirst : Bool) (delta : Float32) (t : SplitTree) :
    Option SplitTree :=
  match t.resizeTowardInner pane axis paneInFirst delta with
  | (tree, true) => some tree
  | (_, false) => none

/-- All split ratios become 0.5. -/
def equalize : SplitTree → SplitTree
  | leaf id => leaf id
  | split d _ first second => split d 0.5 first.equalize second.equalize

def swapInner (a b : PaneId) : SplitTree → SplitTree
  | leaf id => if id == a then leaf b else if id == b then leaf a else leaf id
  | split d r first second => split d r (first.swapInner a b) (second.swapInner a b)

/-- Swaps two pane positions. -/
def swap (a b : PaneId) (t : SplitTree) : SplitTree :=
  if !t.contains a || !t.contains b || a == b then t else t.swapInner a b

/-! ## Leaves -/

variable {pane : PaneId} {t : SplitTree}

@[simp] theorem contains_iff : t.contains pane = true ↔ pane ∈ t.panes := by
  induction t with
  | leaf id =>
    unfold contains panes
    rw [beq_iff_eq, mem_singleton]
    exact eq_comm
  | split d r first second ih₁ ih₂ =>
    unfold contains panes
    rw [Bool.or_eq_true, ih₁, ih₂, mem_append]

theorem firstPane_mem (t : SplitTree) : t.firstPane ∈ t.panes := by
  induction t with
  | leaf id => exact mem_singleton_self id
  | split d r first second ih₁ _ => exact mem_append_left _ ih₁

theorem isLeaf_iff : t.isLeaf pane = true ↔ t = leaf pane := by
  cases t with
  | leaf id =>
    unfold isLeaf
    rw [beq_iff_eq]
    exact ⟨fun h => h ▸ rfl, fun h => by cases h; rfl⟩
  | split d r first second => exact ⟨nofun, nofun⟩

section

variable (direction : SplitDirection) (newPane : PaneId) (ratio : Float32)

/-- A split adds the new pane, if the pane is there to be split. -/
theorem panes_splitAt (h : pane ∈ t.panes) :
    (t.splitAt pane direction newPane ratio).panes.Perm (newPane :: t.panes) := by
  induction t generalizing ratio with
  | leaf id =>
    obtain rfl := mem_singleton.mp h
    unfold splitAt
    rw [if_pos (beq_self_eq_true pane)]
    exact List.Perm.swap newPane pane []
  | split d r first second ih₁ ih₂ =>
    unfold splitAt
    by_cases hfirst : pane ∈ first.panes
    · rw [if_pos (contains_iff.mpr hfirst)]
      exact (ih₁ (clampRatio ratio) hfirst).append_right second.panes
    · have hsecond : pane ∈ second.panes := (mem_append.mp h).resolve_left hfirst
      rw [if_neg (mt contains_iff.mp hfirst), if_pos (contains_iff.mpr hsecond)]
      have hperm := (ih₂ (clampRatio ratio) hsecond).append_left first.panes
      exact hperm.trans perm_middle

theorem splitAt_of_not_mem (h : pane ∉ t.panes) : t.splitAt pane direction newPane ratio = t := by
  cases t with
  | leaf id =>
    have hne : ¬ (id == pane) = true := fun heq => h (mem_singleton.mpr (beq_iff_eq.mp heq).symm)
    unfold splitAt
    rw [if_neg hne]
  | split d r first second =>
    obtain ⟨hfirst, hsecond⟩ := not_or.mp (mt mem_append.mpr h)
    unfold splitAt
    rw [if_neg (mt contains_iff.mp hfirst), if_neg (mt contains_iff.mp hsecond)]

end

/-- Only the last pane cannot be removed. -/
theorem remove_eq_none_iff : t.remove pane = none ↔ t = leaf pane := by
  induction t with
  | leaf id =>
    unfold remove
    by_cases hid : id = pane <;> simp [hid]
  | split d r first second ih₁ ih₂ =>
    refine iff_of_false ?_ nofun
    unfold remove
    by_cases h₁ : first.isLeaf pane = true
    · rw [if_pos h₁]
      nofun
    · rw [if_neg h₁]
      split
      · nofun
      · next h₂ =>
        split
        · rw [map_eq_none_iff, ih₁, ← isLeaf_iff]
          exact h₁
        · split
          · rw [map_eq_none_iff, ih₂, ← isLeaf_iff]
            exact h₂
          · nofun

section

variable {t' : SplitTree} (h : t.remove pane = some t')
include h

/-- **A removal keeps the order of the other panes.** -/
theorem filter_remove : t'.panes.filter (· != pane) = t.panes.filter (· != pane) := by
  induction t generalizing t' with
  | leaf id =>
    unfold remove at h
    split at h
    · cases h
    · rw [← some.inj h]
  | split d r first second ih₁ ih₂ =>
    unfold remove at h
    split at h
    · next hleaf =>
      rw [← some.inj h, isLeaf_iff.mp hleaf]
      simp [panes]
    · split at h
      · next hleaf =>
        rw [← some.inj h, isLeaf_iff.mp hleaf]
        simp [panes]
      · split at h
        · obtain ⟨newFirst, hnew, rfl⟩ := map_eq_some_iff.mp h
          unfold panes
          rw [filter_append, filter_append, ih₁ hnew]
        · split at h
          · obtain ⟨newSecond, hnew, rfl⟩ := map_eq_some_iff.mp h
            unfold panes
            rw [filter_append, filter_append, ih₂ hnew]
          · rw [← some.inj h]

/-- **A removal takes one leaf.** -/
theorem count_remove : t'.panes.count pane = t.panes.count pane - 1 := by
  induction t generalizing t' with
  | leaf id =>
    unfold remove at h
    split at h
    · cases h
    · next hne =>
      rw [← some.inj h]
      simp only [panes, count_singleton]
      rw [if_neg hne]
  | split d r first second ih₁ ih₂ =>
    unfold remove at h
    split at h
    · next hleaf =>
      rw [← some.inj h, isLeaf_iff.mp hleaf]
      simp [panes]
    · split at h
      · next hleaf =>
        rw [← some.inj h, isLeaf_iff.mp hleaf]
        simp [panes]
      · split at h
        · next hfirst =>
          obtain ⟨newFirst, hnew, rfl⟩ := map_eq_some_iff.mp h
          have hpos := count_pos_iff.mpr (contains_iff.mp hfirst)
          unfold panes
          rw [count_append, count_append, ih₁ hnew]
          omega
        · next hfirst =>
          have hzero := count_eq_zero.mpr (mt contains_iff.mpr hfirst)
          split at h
          · next hsecond =>
            obtain ⟨newSecond, hnew, rfl⟩ := map_eq_some_iff.mp h
            unfold panes
            rw [count_append, count_append, ih₂ hnew]
            omega
          · next hsecond =>
            have hzero' := count_eq_zero.mpr (mt contains_iff.mpr hsecond)
            rw [← some.inj h]
            unfold panes
            rw [count_append, hzero, hzero']

/-- A pane that is there once is gone afterwards. -/
theorem panes_remove (honce : t.panes.count pane ≤ 1) : t'.panes = t.panes.filter (· != pane) := by
  have hgone : pane ∉ t'.panes := by
    rw [← count_eq_zero, count_remove h]
    omega
  rw [← filter_remove h, filter_eq_self.mpr]
  intro p hp
  rw [bne_iff_ne]
  rintro rfl
  exact hgone hp

end

/-! ### Operations that keep the leaves -/

@[simp] theorem panes_setRatio (pane : PaneId) (direction : SplitDirection) (newRatio : Float32) (t : SplitTree) :
    (t.setRatio pane direction newRatio).panes = t.panes := by
  induction t generalizing newRatio with
  | leaf id => rfl
  | split d r first second ih₁ ih₂ =>
    unfold setRatio
    split
    · rfl
    · split
      · unfold panes
        rw [ih₁]
      · split
        · unfold panes
          rw [ih₂]
        · rfl

@[simp] theorem panes_setDividerRatio (before after : PaneId) (newRatio : Float32) (t : SplitTree) :
    (t.setDividerRatio before after newRatio).panes = t.panes := by
  induction t generalizing newRatio with
  | leaf id => rfl
  | split d r first second ih₁ ih₂ =>
    unfold setDividerRatio
    split
    · rfl
    · split
      · unfold panes
        rw [ih₁]
      · split
        · unfold panes
          rw [ih₂]
        · rfl

theorem panes_resizeTowardInner (pane : PaneId) (axis : SplitDirection) (inFirst : Bool) (delta : Float32) (t : SplitTree) :
    (t.resizeTowardInner pane axis inFirst delta).1.panes = t.panes := by
  induction t with
  | leaf id => rfl
  | split d r first second ih₁ ih₂ =>
    unfold resizeTowardInner
    split
    · split
      · next newFirst heq =>
        rw [heq] at ih₁
        unfold panes
        rw [← ih₁]
      · split <;> rfl
    · split
      · split
        · next newSecond heq =>
          rw [heq] at ih₂
          unfold panes
          rw [← ih₂]
        · split <;> rfl
      · rfl

theorem panes_tryResizeToward {axis : SplitDirection} {inFirst : Bool} {delta : Float32} {t' : SplitTree}
    (h : t.tryResizeToward pane axis inFirst delta = some t') : t'.panes = t.panes := by
  have hpanes := panes_resizeTowardInner pane axis inFirst delta t
  unfold tryResizeToward at h
  split at h
  · next tree heq =>
    rw [heq] at hpanes
    rw [← some.inj h]
    exact hpanes
  · cases h

@[simp] theorem panes_equalize (t : SplitTree) : t.equalize.panes = t.panes := by
  induction t with
  | leaf id => rfl
  | split d r first second ih₁ ih₂ =>
    unfold equalize panes
    rw [ih₁, ih₂]

theorem panes_swapInner (a b : PaneId) (t : SplitTree) :
    (t.swapInner a b).panes = t.panes.map fun p => if p == a then b else if p == b then a else p := by
  induction t with
  | leaf id =>
    unfold swapInner
    simp only [panes, map_singleton]
    split
    · rfl
    · split <;> rfl
  | split d r first second ih₁ ih₂ =>
    unfold swapInner panes
    rw [ih₁, ih₂, map_append]

/-- A swap exchanges two panes that are both there. -/
theorem panes_swap (a b : PaneId) (h : t.panes.Nodup) : (t.swap a b).panes.Perm t.panes := by
  unfold swap
  split
  · exact List.Perm.refl _
  · next hguard =>
    simp only [Bool.or_eq_true, not_or, Bool.not_eq_true', Bool.not_eq_false, contains_iff] at hguard
    obtain ⟨⟨ha, hb⟩, hne⟩ := hguard
    rw [panes_swapInner]
    have hinj : Function.Injective fun p : PaneId => if p == a then b else if p == b then a else p := by
      intro p q hpq
      grind
    refine (perm_ext_iff_of_nodup (h.map hinj) h).mpr fun p => ?_
    rw [List.mem_map]
    constructor
    · rintro ⟨q, hq, rfl⟩
      grind
    · intro hp
      by_cases hpa : p = a
      · exact ⟨b, hb, by grind⟩
      · by_cases hpb : p = b
        · exact ⟨a, ha, by grind⟩
        · exact ⟨p, hp, by grind⟩

end SplitTree

end OriTerm
