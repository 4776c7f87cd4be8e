import OriTerm.Session.SplitPath

/-!
# `Session.SplitLaws` — the laws of the split tree

A mutation of the split tree changes the list of panes as its documentation says, keeps the panes unique, and leaves
every subtree alone that does not hold the pane it is about. The ratios stay in bounds when the number the mutation is
given is one: `f32::clamp` hands not-a-number through.

* **`split_tree_laws`** — the laws, for every tree with unique panes.
-/

namespace OriTerm

open Lib List Option

namespace SplitTree

variable {a b : PaneId} {ratio : Float32} {m : Mutation}

/-! ## Subtrees -/

/-- `s` is a subtree. -/
inductive Within (s : SplitTree) : SplitTree → Prop where
  | here : Within s s
  | first {d r first second} : Within s first → Within s (split d r first second)
  | second {d r first second} : Within s second → Within s (split d r first second)

variable {pane : PaneId} {s : SplitTree}

theorem within_leaf (h : Within s (leaf pane)) : s = leaf pane := by
  cases h
  rfl

/-! ## Bounds -/

def RatioInBounds (ratio : Float32) : Prop := minRatio ≤ ratio ∧ ratio ≤ maxRatio

/-- Every ratio of the tree is in bounds. -/
def InBounds : SplitTree → Prop
  | leaf _ => True
  | split _ ratio first second => RatioInBounds ratio ∧ first.InBounds ∧ second.InBounds

/-- A clamped number is in bounds. -/
theorem ratioInBounds_clampRatio (h : ratio.isNaN = false) : RatioInBounds (clampRatio ratio) :=
  Binary32.clamp_bounds (by decide +kernel) (by decide +kernel) (by decide +kernel) h

/-- A ratio in bounds and a number add up to a number. -/
theorem isNaN_add {delta : Float32} (hratio : RatioInBounds ratio) (hdelta : delta.isNaN = false) :
    (ratio + delta).isNaN = false := by
  refine Binary32.not_isNaN_add ?_ hdelta
  exact Binary32.isFinite_of_between (by decide +kernel) (by decide +kernel) hratio.1 hratio.2

theorem isNaN_clampRatio (h : ratio.isNaN = false) : (clampRatio ratio).isNaN = false :=
  (Binary32.not_isNaN_of_le (ratioInBounds_clampRatio h).1).2

/-! ## Mutations -/

/-- The mutations of a tree. -/
inductive Mutation where
  | splitAt (pane : PaneId) (direction : SplitDirection) (newPane : PaneId) (ratio : Float32)
  | remove (pane : PaneId)
  | swap (a b : PaneId)
  | setRatio (pane : PaneId) (direction : SplitDirection) (newRatio : Float32)
  | setDividerRatio (paneBefore paneAfter : PaneId) (newRatio : Float32)
  | resizeToward (pane : PaneId) (axis : SplitDirection) (paneInFirst : Bool) (delta : Float32)
  | equalize

/-- Puts `newPane` right after `pane`. -/
def insertAfter (pane newPane : PaneId) : List PaneId → List PaneId
  | [] => []
  | p :: rest => if p = pane then p :: newPane :: rest else p :: insertAfter pane newPane rest

namespace Mutation

def apply (t : SplitTree) : Mutation → Option SplitTree
  | .splitAt pane direction newPane ratio => some (t.splitAt pane direction newPane ratio)
  | .remove pane => t.remove pane
  | .swap a b => some (t.swap a b)
  | .setRatio pane direction newRatio => some (t.setRatio pane direction newRatio)
  | .setDividerRatio paneBefore paneAfter newRatio => some (t.setDividerRatio paneBefore paneAfter newRatio)
  | .resizeToward pane axis paneInFirst delta => some (t.resizeToward pane axis paneInFirst delta)
  | .equalize => some t.equalize

/-- A new pane is new. -/
def Fits (t : SplitTree) : Mutation → Prop
  | .splitAt _ _ newPane _ => newPane ∉ t.panes
  | _ => True

/-- The number a mutation is given is one. -/
def Number : Mutation → Prop
  | .splitAt _ _ _ ratio | .setRatio _ _ ratio | .setDividerRatio _ _ ratio | .resizeToward _ _ _ ratio =>
    ratio.isNaN = false
  | .remove _ | .swap _ _ | .equalize => True

/-- What becomes of the list of panes. -/
def panesAfter (panes : List PaneId) : Mutation → List PaneId
  | .splitAt pane _ newPane _ => insertAfter pane newPane panes
  | .remove pane => panes.erase pane
  | .swap a b => if a ∈ panes ∧ b ∈ panes then (panes.set (panes.idxOf a) b).set (panes.idxOf b) a else panes
  | .setRatio .. | .setDividerRatio .. | .resizeToward .. | .equalize => panes

/-- The subtree is off the path to what a mutation is about. -/
def Avoids (s : SplitTree) : Mutation → Prop
  | .splitAt pane .. | .remove pane | .setRatio pane .. | .resizeToward pane .. => pane ∉ s.panes
  | .swap a b => a ∉ s.panes ∧ b ∉ s.panes
  | .setDividerRatio paneBefore paneAfter _ => ¬ (paneBefore ∈ s.panes ∧ paneAfter ∈ s.panes)
  -- every split is affected
  | .equalize => ∃ pane, s = leaf pane

end Mutation

/-! ## The list of panes -/

theorem insertAfter_of_not_mem {newPane : PaneId} {l : List PaneId} (h : pane ∉ l) :
    insertAfter pane newPane l = l := by
  induction l with
  | nil => rfl
  | cons p rest ih =>
    obtain ⟨hne, hrest⟩ := not_or.mp (mt mem_cons.mpr h)
    rw [insertAfter, if_neg (Ne.symm hne), ih hrest]

theorem insertAfter_append {newPane : PaneId} {l₁ : List PaneId} (h : pane ∉ l₁) (l₂ : List PaneId) :
    insertAfter pane newPane (l₁ ++ pane :: l₂) = l₁ ++ pane :: newPane :: l₂ := by
  induction l₁ with
  | nil => exact if_pos rfl
  | cons p rest ih =>
    obtain ⟨hne, hrest⟩ := not_or.mp (mt mem_cons.mpr h)
    rw [cons_append, insertAfter, if_neg (Ne.symm hne), ih hrest]
    rfl

theorem panes_splitAt_insertAfter (pane newPane : PaneId) (direction : SplitDirection) (ratio : Float32) (t : SplitTree) :
    (t.splitAt pane direction newPane ratio).panes = insertAfter pane newPane t.panes := by
  by_cases h : pane ∈ t.panes
  · obtain ⟨l₁, l₂, hl, hnot, hsplit⟩ := panes_splitAt_eq h direction newPane ratio
    rw [hsplit, hl, insertAfter_append hnot]
  · rw [splitAt_of_not_mem direction newPane ratio h, insertAfter_of_not_mem h]

/-- An exchange of two members is an exchange of their positions. -/
theorem map_exchange {l : List PaneId} (hl : l.Nodup) (ha : a ∈ l) (hb : b ∈ l) :
    (l.map fun p => if p == a then b else if p == b then a else p) = (l.set (l.idxOf a) b).set (l.idxOf b) a := by
  refine ext_getElem (by simp) fun i h₁ _ => ?_
  have hi : i < l.length := by simpa using h₁
  have hia : l[i] = a ↔ l.idxOf a = i := by
    constructor
    · rintro rfl
      exact hl.idxOf_getElem i hi
    · rintro rfl
      exact getElem_idxOf hi
  have hib : l[i] = b ↔ l.idxOf b = i := by
    constructor
    · rintro rfl
      exact hl.idxOf_getElem i hi
    · rintro rfl
      exact getElem_idxOf hi
  rw [getElem_map, getElem_set, getElem_set]
  simp only [beq_iff_eq, hia, hib]
  by_cases hba : l.idxOf b = i
  · by_cases haa : l.idxOf a = i
    · have hab : a = b := (hia.mpr haa).symm.trans (hib.mpr hba)
      rw [if_pos haa, if_pos hba, hab]
    · rw [if_neg haa, if_pos hba, if_pos hba]
  · by_cases haa : l.idxOf a = i
    · rw [if_pos haa, if_neg hba, if_pos haa]
    · rw [if_neg hba, if_neg hba, if_neg haa]

variable {t : SplitTree}

theorem panes_swap_eq (a b : PaneId) (hu : t.panes.Nodup) :
    (t.swap a b).panes = Mutation.panesAfter t.panes (.swap a b) := by
  show (if _ then _ else _ : SplitTree).panes =
    if a ∈ t.panes ∧ b ∈ t.panes then (t.panes.set (t.panes.idxOf a) b).set (t.panes.idxOf b) a else t.panes
  by_cases h : a ∈ t.panes ∧ b ∈ t.panes
  · rw [if_pos h]
    obtain ⟨ha, hb⟩ := h
    rw [contains_iff.mpr ha, contains_iff.mpr hb, ← map_exchange hu ha hb]
    by_cases hab : a = b
    · subst hab
      refine Eq.trans ?_ (map_congr_left (f := id) fun p _ => ?_)
      · simp
      · by_cases hp : p = a <;> simp [hp]
    · simp [hab, panes_swapInner]
  · rw [if_neg h]
    have hmissing : (!t.contains a || !t.contains b) = true := by
      rw [Bool.or_eq_true, Bool.not_eq_true', Bool.not_eq_true', Bool.eq_false_iff, Bool.eq_false_iff]
      simp only [ne_eq, contains_iff]
      exact not_and_or.mp h
    rw [hmissing]
    rfl

theorem swapInner_swapInner (h : a ≠ b) (t : SplitTree) : (t.swapInner a b).swapInner a b = t := by
  induction t with
  | leaf id =>
    by_cases ha : id = a
    · subst ha
      simp [swapInner]
    · by_cases hb : id = b
      · subst hb
        simp [swapInner, ha]
      · simp [swapInner, ha, hb]
  | split d r first second ih₁ ih₂ =>
    show split d r _ _ = _
    rw [ih₁, ih₂]

theorem mem_swapInner (ha : a ∈ t.panes) (hb : b ∈ t.panes) :
    a ∈ (t.swapInner a b).panes ∧ b ∈ (t.swapInner a b).panes := by
  rw [panes_swapInner]
  refine ⟨mem_map.mpr ⟨b, hb, ?_⟩, mem_map.mpr ⟨a, ha, if_pos (beq_self_eq_true a)⟩⟩
  by_cases h : b = a <;> simp [h]

/-- A swap either exchanges two panes, or does nothing. -/
theorem swap_cases (a b : PaneId) (t : SplitTree) :
    t.swap a b = t ∨ (a ∈ t.panes ∧ b ∈ t.panes ∧ a ≠ b ∧ t.swap a b = t.swapInner a b) := by
  by_cases h : (!t.contains a || !t.contains b || a == b) = true
  · exact .inl (if_pos h)
  · right
    have hswap : t.swap a b = t.swapInner a b := if_neg h
    simp only [Bool.or_eq_true, not_or, Bool.not_eq_true', Bool.not_eq_false, contains_iff, beq_iff_eq] at h
    exact ⟨h.1.1, h.1.2, h.2, hswap⟩

/-- **A swap takes itself back.** -/
theorem swap_swap (a b : PaneId) (t : SplitTree) : (t.swap a b).swap a b = t := by
  rcases swap_cases a b t with h | ⟨ha, hb, hne, h⟩
  · rw [h, h]
  · obtain ⟨ha', hb'⟩ := mem_swapInner ha hb
    rw [h, swap, contains_iff.mpr ha', contains_iff.mpr hb', beq_false_of_ne hne]
    exact swapInner_swapInner hne t

variable {t' : SplitTree}

theorem panes_remove_erase (hu : t.panes.Nodup) (h : t.remove pane = some t') : t'.panes = t.panes.erase pane := by
  rw [panes_remove h (nodup_iff_count_le_one.mp hu pane), hu.erase_eq_filter]

/-- **The list of panes changes as documented.** -/
theorem panes_apply (hu : t.panes.Nodup) (h : m.apply t = some t') :
    t'.panes = m.panesAfter t.panes := by
  cases m with
  | splitAt pane direction newPane ratio =>
    rw [← some.inj h]
    exact panes_splitAt_insertAfter pane newPane direction ratio t
  | remove pane => exact panes_remove_erase hu h
  | swap a b =>
    rw [← some.inj h]
    exact panes_swap_eq a b hu
  | setRatio pane direction newRatio =>
    rw [← some.inj h]
    exact panes_setRatio pane direction newRatio t
  | setDividerRatio paneBefore paneAfter newRatio =>
    rw [← some.inj h]
    exact panes_setDividerRatio paneBefore paneAfter newRatio t
  | resizeToward pane axis paneInFirst delta =>
    rw [← some.inj h]
    exact panes_resizeTowardInner pane axis paneInFirst delta t
  | equalize =>
    rw [← some.inj h]
    exact panes_equalize t

/-- **The panes stay unique.** -/
theorem nodup_apply (hu : t.panes.Nodup) (hm : m.Fits t) (h : m.apply t = some t') : t'.panes.Nodup := by
  cases m with
  | splitAt pane direction newPane ratio =>
    rw [← some.inj h]
    by_cases hpane : pane ∈ t.panes
    · exact (panes_splitAt direction newPane ratio hpane).nodup_iff.mpr (nodup_cons.mpr ⟨hm, hu⟩)
    · exact (splitAt_of_not_mem direction newPane ratio hpane).symm ▸ hu
  | remove pane =>
    rw [panes_remove_erase hu h]
    exact hu.erase pane
  | swap a b =>
    rw [← some.inj h]
    exact (panes_swap a b hu).nodup_iff.mpr hu
  | setRatio | setDividerRatio | resizeToward | equalize => exact (panes_apply hu h).symm ▸ hu

/-! ## Off the path -/

theorem within_splitAt (h : Within s t) (hpane : pane ∉ s.panes) (direction : SplitDirection) (newPane : PaneId)
    (ratio : Float32) : Within s (t.splitAt pane direction newPane ratio) := by
  induction h generalizing ratio with
  | here =>
    rw [splitAt_of_not_mem direction newPane ratio hpane]
    exact .here
  | first h ih =>
    unfold splitAt
    split
    · exact .first (ih _)
    · split <;> exact .first h
  | second h ih =>
    unfold splitAt
    split
    · exact .second h
    · split
      · exact .second (ih _)
      · exact .second h

theorem within_remove (h : Within s t) (hpane : pane ∉ s.panes) (hremove : t.remove pane = some t') : Within s t' := by
  have hleaf {u : SplitTree} (hu : Within s u) : ¬ u.isLeaf pane = true := fun hl => by
    obtain rfl := isLeaf_iff.mp hl
    rw [within_leaf hu] at hpane
    exact hpane (mem_singleton_self pane)
  induction h generalizing t' with
  | here =>
    rw [remove_of_not_mem hpane] at hremove
    exact some.inj hremove ▸ .here
  | first h ih =>
    rw [remove, if_neg (hleaf h)] at hremove
    split at hremove
    · exact some.inj hremove ▸ h
    · split at hremove
      · obtain ⟨newFirst, hnew, rfl⟩ := map_eq_some_iff.mp hremove
        exact .first (ih hnew)
      · split at hremove
        · obtain ⟨newSecond, hnew, rfl⟩ := map_eq_some_iff.mp hremove
          exact .first h
        · exact some.inj hremove ▸ .first h
  | second h ih =>
    unfold remove at hremove
    split at hremove
    · exact some.inj hremove ▸ h
    · rw [if_neg (hleaf h)] at hremove
      split at hremove
      · obtain ⟨newFirst, hnew, rfl⟩ := map_eq_some_iff.mp hremove
        exact .second h
      · split at hremove
        · obtain ⟨newSecond, hnew, rfl⟩ := map_eq_some_iff.mp hremove
          exact .second (ih hnew)
        · exact some.inj hremove ▸ .second h

theorem swapInner_of_not_mem (ha : a ∉ t.panes) (hb : b ∉ t.panes) : t.swapInner a b = t := by
  induction t with
  | leaf id =>
    have hia : ¬ id = a := fun h => ha (h ▸ mem_singleton_self _)
    have hib : ¬ id = b := fun h => hb (h ▸ mem_singleton_self _)
    simp [swapInner, hia, hib]
  | split d r first second ih₁ ih₂ =>
    obtain ⟨ha₁, ha₂⟩ := not_or.mp (mt mem_append.mpr ha)
    obtain ⟨hb₁, hb₂⟩ := not_or.mp (mt mem_append.mpr hb)
    rw [swapInner, ih₁ ha₁ hb₁, ih₂ ha₂ hb₂]

theorem within_swapInner (h : Within s t) (ha : a ∉ s.panes) (hb : b ∉ s.panes) :
    Within s (t.swapInner a b) := by
  induction h with
  | here =>
    rw [swapInner_of_not_mem ha hb]
    exact .here
  | first _ ih => exact .first ih
  | second _ ih => exact .second ih

theorem within_setRatio (h : Within s t) (hpane : pane ∉ s.panes) (direction : SplitDirection) (newRatio : Float32) :
    Within s (t.setRatio pane direction newRatio) := by
  induction h generalizing newRatio with
  | here =>
    rw [setRatio_of_not_mem hpane]
    exact .here
  | first h ih =>
    unfold setRatio
    split
    · exact .first h
    · split
      · exact .first (ih _)
      · split <;> exact .first h
  | second h ih =>
    unfold setRatio
    split
    · exact .second h
    · split
      · exact .second h
      · split
        · exact .second (ih _)
        · exact .second h

theorem setDividerRatio_of_not_mem {paneBefore paneAfter : PaneId}
    (h : ¬ (paneBefore ∈ t.panes ∧ paneAfter ∈ t.panes)) (newRatio : Float32) :
    t.setDividerRatio paneBefore paneAfter newRatio = t := by
  cases t with
  | leaf id => rfl
  | split d r first second =>
    have hno {u v : SplitTree} (hu : ∀ p ∈ u.panes, p ∈ (split d r first second).panes)
        (hv : ∀ p ∈ v.panes, p ∈ (split d r first second).panes) :
        ¬ (u.contains paneBefore && v.contains paneAfter) = true := by
      rw [Bool.and_eq_true, contains_iff, contains_iff]
      exact fun hpair => h ⟨hu _ hpair.1, hv _ hpair.2⟩
    have hleft : ∀ p ∈ first.panes, p ∈ (split d r first second).panes := fun _ => mem_append_left _
    have hright : ∀ p ∈ second.panes, p ∈ (split d r first second).panes := fun _ => mem_append_right _
    rw [setDividerRatio, if_neg (hno hleft hright), if_neg (hno hleft hleft), if_neg (hno hright hright)]

theorem within_setDividerRatio (h : Within s t) {paneBefore paneAfter : PaneId}
    (hpanes : ¬ (paneBefore ∈ s.panes ∧ paneAfter ∈ s.panes)) (newRatio : Float32) :
    Within s (t.setDividerRatio paneBefore paneAfter newRatio) := by
  induction h generalizing newRatio with
  | here =>
    rw [setDividerRatio_of_not_mem hpanes]
    exact .here
  | first h ih =>
    unfold setDividerRatio
    split
    · exact .first h
    · split
      · exact .first (ih _)
      · split <;> exact .first h
  | second h ih =>
    unfold setDividerRatio
    split
    · exact .second h
    · split
      · exact .second h
      · split
        · exact .second (ih _)
        · exact .second h

theorem within_resizeToward (h : Within s t) (hpane : pane ∉ s.panes) (axis : SplitDirection) (paneInFirst : Bool)
    (delta : Float32) : Within s (t.resizeToward pane axis paneInFirst delta) := by
  unfold resizeToward
  induction h with
  | here =>
    rw [resizeTowardInner_of_not_mem hpane]
    exact .here
  | first h ih =>
    unfold resizeTowardInner
    split
    · split
      · next newFirst heq =>
        rw [heq] at ih
        exact .first ih
      · split <;> exact .first h
    · split
      · split
        · exact .first h
        · split <;> exact .first h
      · exact .first h
  | second h ih =>
    unfold resizeTowardInner
    split
    · split
      · exact .second h
      · split <;> exact .second h
    · split
      · split
        · next newSecond heq =>
          rw [heq] at ih
          exact .second ih
        · split <;> exact .second h
      · exact .second h

/-- **What is off the path stays.** -/
theorem within_apply (hs : Within s t) (hm : m.Avoids s) (h : m.apply t = some t') : Within s t' := by
  cases m with
  | splitAt pane direction newPane ratio => exact some.inj h ▸ within_splitAt hs hm direction newPane ratio
  | remove pane => exact within_remove hs hm h
  | swap a b =>
    rw [← some.inj h]
    rcases swap_cases a b t with heq | ⟨_, _, _, heq⟩
    · rw [heq]
      exact hs
    · rw [heq]
      exact within_swapInner hs hm.1 hm.2
  | setRatio pane direction newRatio => exact some.inj h ▸ within_setRatio hs hm direction newRatio
  | setDividerRatio paneBefore paneAfter newRatio => exact some.inj h ▸ within_setDividerRatio hs hm newRatio
  | resizeToward pane axis paneInFirst delta =>
    exact some.inj h ▸ within_resizeToward hs hm axis paneInFirst delta
  | equalize =>
    obtain ⟨pane, rfl⟩ := hm
    rw [← some.inj h]
    clear h
    induction t with
    | leaf id => exact hs
    | split d r first second ih₁ ih₂ =>
      cases hs with
      | first hs => exact .first (ih₁ hs)
      | second hs => exact .second (ih₂ hs)

/-! ## The ratios -/

section

variable (ht : t.InBounds)
include ht

theorem inBounds_splitAt (pane : PaneId) (direction : SplitDirection) (newPane : PaneId)
    (hratio : ratio.isNaN = false) : (t.splitAt pane direction newPane ratio).InBounds := by
  induction t generalizing ratio with
  | leaf id =>
    unfold splitAt
    split
    · exact ⟨ratioInBounds_clampRatio hratio, trivial, trivial⟩
    · trivial
  | split d r first second ih₁ ih₂ =>
    obtain ⟨hr, h₁, h₂⟩ := ht
    unfold splitAt
    split
    · exact ⟨hr, ih₁ h₁ (isNaN_clampRatio hratio), h₂⟩
    · split
      · exact ⟨hr, h₁, ih₂ h₂ (isNaN_clampRatio hratio)⟩
      · exact ⟨hr, h₁, h₂⟩

theorem inBounds_remove (h : t.remove pane = some t') : t'.InBounds := by
  induction t generalizing t' with
  | leaf id =>
    unfold remove at h
    split at h
    · cases h
    · exact some.inj h ▸ trivial
  | split d r first second ih₁ ih₂ =>
    obtain ⟨hr, h₁, h₂⟩ := ht
    unfold remove at h
    split at h
    · exact some.inj h ▸ h₂
    · split at h
      · exact some.inj h ▸ h₁
      · split at h
        · obtain ⟨newFirst, hnew, rfl⟩ := map_eq_some_iff.mp h
          exact ⟨hr, ih₁ h₁ hnew, h₂⟩
        · split at h
          · obtain ⟨newSecond, hnew, rfl⟩ := map_eq_some_iff.mp h
            exact ⟨hr, h₁, ih₂ h₂ hnew⟩
          · exact some.inj h ▸ ⟨hr, h₁, h₂⟩

theorem inBounds_swapInner (a b : PaneId) : (t.swapInner a b).InBounds := by
  induction t with
  | leaf id =>
    unfold swapInner
    split
    · trivial
    · split <;> trivial
  | split d r first second ih₁ ih₂ => exact ⟨ht.1, ih₁ ht.2.1, ih₂ ht.2.2⟩

theorem inBounds_setRatio (pane : PaneId) (direction : SplitDirection) {newRatio : Float32}
    (hratio : newRatio.isNaN = false) : (t.setRatio pane direction newRatio).InBounds := by
  induction t generalizing newRatio with
  | leaf id => trivial
  | split d r first second ih₁ ih₂ =>
    obtain ⟨hr, h₁, h₂⟩ := ht
    unfold setRatio
    split
    · exact ⟨ratioInBounds_clampRatio hratio, h₁, h₂⟩
    · split
      · exact ⟨hr, ih₁ h₁ (isNaN_clampRatio hratio), h₂⟩
      · split
        · exact ⟨hr, h₁, ih₂ h₂ (isNaN_clampRatio hratio)⟩
        · exact ⟨hr, h₁, h₂⟩

theorem inBounds_setDividerRatio (paneBefore paneAfter : PaneId) {newRatio : Float32}
    (hratio : newRatio.isNaN = false) : (t.setDividerRatio paneBefore paneAfter newRatio).InBounds := by
  induction t generalizing newRatio with
  | leaf id => trivial
  | split d r first second ih₁ ih₂ =>
    obtain ⟨hr, h₁, h₂⟩ := ht
    unfold setDividerRatio
    split
    · exact ⟨ratioInBounds_clampRatio hratio, h₁, h₂⟩
    · split
      · exact ⟨hr, ih₁ h₁ (isNaN_clampRatio hratio), h₂⟩
      · split
        · exact ⟨hr, h₁, ih₂ h₂ (isNaN_clampRatio hratio)⟩
        · exact ⟨hr, h₁, h₂⟩

theorem inBounds_resizeToward (pane : PaneId) (axis : SplitDirection) (paneInFirst : Bool)
    {delta : Float32} (hdelta : delta.isNaN = false) : (t.resizeToward pane axis paneInFirst delta).InBounds := by
  unfold resizeToward
  induction t with
  | leaf id => trivial
  | split d r first second ih₁ ih₂ =>
    obtain ⟨hr, h₁, h₂⟩ := ht
    have hadd : RatioInBounds (clampRatio (r + delta)) := ratioInBounds_clampRatio (isNaN_add hr hdelta)
    unfold resizeTowardInner
    split
    · split
      · next newFirst heq =>
        have hnew := ih₁ h₁
        rw [heq] at hnew
        exact ⟨hr, hnew, h₂⟩
      · split
        · exact ⟨hadd, h₁, h₂⟩
        · exact ⟨hr, h₁, h₂⟩
    · split
      · split
        · next newSecond heq =>
          have hnew := ih₂ h₂
          rw [heq] at hnew
          exact ⟨hr, h₁, hnew⟩
        · split
          · exact ⟨hadd, h₁, h₂⟩
          · exact ⟨hr, h₁, h₂⟩
      · exact ⟨hr, h₁, h₂⟩

end

theorem inBounds_equalize (t : SplitTree) : t.equalize.InBounds := by
  induction t with
  | leaf id => trivial
  | split d r first second ih₁ ih₂ =>
    have hhalf : RatioInBounds 0.5 := ⟨by decide +kernel, by decide +kernel⟩
    exact ⟨hhalf, ih₁, ih₂⟩

/-- **The ratios stay in bounds.** -/
theorem inBounds_apply (ht : t.InBounds) (hm : m.Number) (h : m.apply t = some t') : t'.InBounds := by
  cases m with
  | splitAt pane direction newPane ratio => exact some.inj h ▸ inBounds_splitAt ht pane direction newPane hm
  | remove pane => exact inBounds_remove ht h
  | swap a b =>
    rw [← some.inj h]
    rcases swap_cases a b t with heq | ⟨_, _, _, heq⟩
    · rw [heq]
      exact ht
    · rw [heq]
      exact inBounds_swapInner ht a b
  | setRatio pane direction newRatio => exact some.inj h ▸ inBounds_setRatio ht pane direction hm
  | setDividerRatio paneBefore paneAfter newRatio =>
    exact some.inj h ▸ inBounds_setDividerRatio ht paneBefore paneAfter hm
  | resizeToward pane axis paneInFirst delta => exact some.inj h ▸ inBounds_resizeToward ht pane axis paneInFirst hm
  | equalize => exact some.inj h ▸ inBounds_equalize t

/-! ## The laws -/

/-- **The laws of the split tree**: a removal takes back a split; a swap takes itself back; and a mutation changes the
list of panes as documented, keeps the panes unique, keeps the ratios in bounds when it is given a number, and leaves
the subtrees off its path where they are. -/
theorem split_tree_laws (t : SplitTree) (hu : t.panes.Nodup) :
    (∀ pane ∈ t.panes, ∀ newPane ∉ t.panes, ∀ direction ratio,
      (t.splitAt pane direction newPane ratio).remove newPane = some t) ∧
    (∀ a b, (t.swap a b).swap a b = t) ∧
    ∀ m : Mutation, m.Fits t →
      (m.apply t = none ↔ ∃ pane, m = .remove pane ∧ t = leaf pane) ∧
      ∀ t', m.apply t = some t' →
        t'.panes = m.panesAfter t.panes ∧ t'.panes.Nodup ∧ (m.Number → t.InBounds → t'.InBounds) ∧
        ∀ s, Within s t → m.Avoids s → Within s t' := by
  refine ⟨fun pane hpane newPane hnew direction ratio => remove_splitAt hpane hnew direction ratio,
    fun a b => swap_swap a b t, fun m hm => ⟨?_, fun t' h => ⟨panes_apply hu h, nodup_apply hu hm h,
      fun hnumber ht => inBounds_apply ht hnumber h, fun s hs hs' => within_apply hs hs' h⟩⟩⟩
  cases m with
  | remove pane =>
    refine remove_eq_none_iff.trans ⟨fun h => ⟨pane, rfl, h⟩, ?_⟩
    rintro ⟨pane', hm', h⟩
    cases hm'
    exact h
  | _ => exact ⟨nofun, fun ⟨_, hm', _⟩ => nomatch hm'⟩

theorem split_tree_laws_pair :
    let t := split .vertical 0.5 (leaf 1) (leaf 2)
    (t.splitAt 2 .horizontal 3 0.25).remove 3 = some t ∧ (t.swap 1 2).panes = [2, 1] :=
  have hu : (split .vertical 0.5 (leaf 1) (leaf 2)).panes.Nodup := by decide
  have laws := split_tree_laws (split .vertical 0.5 (leaf 1) (leaf 2)) hu
  ⟨laws.1 2 (by decide) 3 (by decide) .horizontal 0.25, ((laws.2.2 (.swap 1 2) trivial).2 _ rfl).1⟩

/-- A ratio that is not a number is handed through. -/
theorem ratio_not_a_number :
    ¬ ∀ (t : SplitTree) (pane newPane : PaneId) (direction : SplitDirection) (ratio : Float32), t.InBounds →
      pane ∈ t.panes → newPane ∉ t.panes → (t.splitAt pane direction newPane ratio).InBounds := by
  intro h
  have hsplit := h (leaf 1) 1 2 .vertical (0 / 0) trivial (by decide) (by decide)
  have hbounds : RatioInBounds (clampRatio (0 / 0)) := hsplit.1
  exact absurd hbounds.1 (by decide +kernel)

end SplitTree

end OriTerm
