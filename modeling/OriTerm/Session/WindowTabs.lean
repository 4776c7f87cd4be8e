import OriTerm.Session.Registry

/-!
# `Session.WindowTabs` — which tab of a window is active

A window keeps its tabs in an ordered list and the active one as an index into it. Every edit of the list shifts the
index by its own rule, so that it goes on pointing at the same tab; only `add_tab` and `set_active_tab_idx` are meant to
point it at another one.

* **`active_tab_run`** — after any sequence of operations the index is in range, and the next operation tracks the tab.
-/

namespace OriTerm

open List

namespace Window

variable {a : TabId}

/-- ID of the currently active tab, if any. -/
def activeTab (w : Window) : Option TabId := w.tabs[w.activeTabIdx]?

/-- Add a tab at the end and activate it. -/
def addTab (w : Window) (tabId : TabId) : Window :=
  { w with tabs := w.tabs ++ [tabId], activeTabIdx := (w.tabs ++ [tabId]).length - 1 }

/-- Insert a tab at a specific index. Appends past the end. -/
def insertTabAt (w : Window) (index : Nat) (tabId : TabId) : Window :=
  if w.tabs.length ≤ index then { w with tabs := w.tabs ++ [tabId] }
  else
    { w with
      tabs := w.tabs.insertIdx index tabId
      activeTabIdx := if index ≤ w.activeTabIdx then w.activeTabIdx + 1 else w.activeTabIdx }

/-- Set the active tab by index. Clamps to valid range. -/
def setActiveTabIdx (w : Window) (idx : Nat) : Window :=
  if w.tabs.isEmpty then w else { w with activeTabIdx := min idx (w.tabs.length - 1) }

/-- Where the active index goes when the tab at `from` moves to `to`. -/
def reorderedIdx (source target active : Nat) : Nat :=
  if active = source then target
  else if source < active ∧ active ≤ target then active - 1
  else if active < source ∧ target ≤ active then active + 1
  else active

/-- Moves the tab at index `from` to index `to`; `false` if either is out of bounds. -/
def reorderTab (w : Window) (source target : Nat) : Window × Bool :=
  if h : source < w.tabs.length ∧ target < w.tabs.length then
    ({ w with
        tabs := (w.tabs.eraseIdx source).insertIdx target (w.tabs.get ⟨source, h.1⟩)
        activeTabIdx := reorderedIdx source target w.activeTabIdx }, true)
  else (w, false)

/-- Replace the entire tab list; the active tab stays active if it is in the new one. -/
def replaceTabs (w : Window) (tabIds : List TabId) : Window :=
  { w with
    tabs := tabIds
    activeTabIdx := (w.activeTab.bind fun id => tabIds.findIdx? (· == id)).getD 0 }

/-- What can be done to the tabs of a window. -/
inductive Op where
  | addTab (tabId : TabId)
  | insertTabAt (index : Nat) (tabId : TabId)
  | removeTab (tabId : TabId)
  | setActiveTabIdx (idx : Nat)
  | reorderTab (source target : Nat)
  | replaceTabs (tabIds : List TabId)

def apply (w : Window) : Op → Window
  | .addTab tabId => w.addTab tabId
  | .insertTabAt index tabId => w.insertTabAt index tabId
  | .removeTab tabId => w.removeTab tabId
  | .setActiveTabIdx idx => w.setActiveTabIdx idx
  | .reorderTab source target => (w.reorderTab source target).1
  | .replaceTabs tabIds => w.replaceTabs tabIds

def run (w : Window) (ops : List Op) : Window := ops.foldl apply w

/-- The ids that come in are new to the window, and no list names one twice. -/
def Fresh (w : Window) : Op → Prop
  | .addTab tabId => tabId ∉ w.tabs
  | .insertTabAt _ tabId => tabId ∉ w.tabs
  | .replaceTabs tabIds => tabIds.Nodup
  | _ => True

/-- Every operation of the sequence is fresh where it happens. -/
def FreshRun : Window → List Op → Prop
  | _, [] => True
  | w, op :: ops => w.Fresh op ∧ FreshRun (w.apply op) ops

/-! ## The index is in range -/

/-- The index points at a tab; without tabs it is zero. -/
def InRange (w : Window) : Prop := w.activeTabIdx < max 1 w.tabs.length

variable {w : Window}

theorem InRange.addTab (tabId : TabId) : (w.addTab tabId).InRange := by
  simp [InRange, Window.addTab]

theorem InRange.insertTabAt (h : w.InRange) (index : Nat) (tabId : TabId) : (w.insertTabAt index tabId).InRange := by
  unfold InRange Window.insertTabAt at *
  by_cases hend : w.tabs.length ≤ index
  · rw [if_pos hend]
    show w.activeTabIdx < max 1 (w.tabs ++ [tabId]).length
    rw [length_append]
    omega
  · rw [if_neg hend]
    show (if index ≤ w.activeTabIdx then w.activeTabIdx + 1 else w.activeTabIdx) < max 1 (w.tabs.insertIdx _ _).length
    rw [length_insertIdx_of_le_length (by omega)]
    split <;> omega

theorem InRange.removeTab (h : w.InRange) (tabId : TabId) : (w.removeTab tabId).InRange := by
  unfold InRange Window.removeTab at *
  cases hpos : w.tabs.findIdx? (· == tabId) with
  | none => exact h
  | some pos =>
    show (if (w.tabs.eraseIdx pos).isEmpty then 0 else _) < max 1 (w.tabs.eraseIdx pos).length
    by_cases hempty : (w.tabs.eraseIdx pos).isEmpty
    · rw [if_pos hempty]
      omega
    · rw [if_neg hempty]
      split
      · omega
      · split <;> omega

theorem InRange.setActiveTabIdx (h : w.InRange) (idx : Nat) : (w.setActiveTabIdx idx).InRange := by
  unfold InRange Window.setActiveTabIdx at *
  by_cases hempty : w.tabs.isEmpty
  · rw [if_pos hempty]
    exact h
  · rw [if_neg hempty]
    show min idx (w.tabs.length - 1) < max 1 w.tabs.length
    omega

theorem reorderedIdx_lt {source target active n : Nat} (hs : source < n) (ht : target < n) (ha : active < n) :
    reorderedIdx source target active < n := by
  unfold reorderedIdx
  split
  · exact ht
  · split
    · omega
    · split <;> omega

theorem InRange.reorderTab (h : w.InRange) (source target : Nat) : (w.reorderTab source target).1.InRange := by
  unfold InRange Window.reorderTab at *
  by_cases hb : source < w.tabs.length ∧ target < w.tabs.length
  · rw [dif_pos hb]
    show reorderedIdx source target w.activeTabIdx < max 1 ((w.tabs.eraseIdx source).insertIdx target _).length
    rw [length_insertIdx_of_le_length (by rw [length_eraseIdx_of_lt hb.1]; omega),
      length_eraseIdx_of_lt hb.1]
    have hlt := reorderedIdx_lt hb.1 hb.2 (by omega : w.activeTabIdx < w.tabs.length)
    omega
  · rw [dif_neg hb]
    exact h

theorem InRange.replaceTabs (tabIds : List TabId) : (w.replaceTabs tabIds).InRange := by
  show (w.activeTab.bind fun id => tabIds.findIdx? (· == id)).getD 0 < max 1 tabIds.length
  cases hidx : w.activeTab.bind fun id => tabIds.findIdx? (· == id) with
  | none => exact lt_of_lt_of_le Nat.zero_lt_one (le_max_left _ _)
  | some i =>
    obtain ⟨id, -, hfind⟩ := Option.bind_eq_some_iff.mp hidx
    obtain ⟨hlt, -⟩ := findIdx?_eq_some_iff_getElem.mp hfind
    exact lt_of_lt_of_le hlt (le_max_right _ _)

/-- One operation keeps the index in range. -/
theorem InRange.apply (h : w.InRange) (op : Op) : (w.apply op).InRange := by
  cases op with
  | addTab tabId => exact InRange.addTab tabId
  | insertTabAt index tabId => exact h.insertTabAt index tabId
  | removeTab tabId => exact h.removeTab tabId
  | setActiveTabIdx idx => exact h.setActiveTabIdx idx
  | reorderTab source target => exact h.reorderTab source target
  | replaceTabs tabIds => exact InRange.replaceTabs tabIds

theorem InRange.run (h : w.InRange) (ops : List Op) : (w.run ops).InRange := by
  induction ops generalizing w with
  | nil => exact h
  | cons op ops ih => exact ih (h.apply op)

/-! ## A tab moves -/

/-- The tab at an index is found at the reordered index. -/
theorem getElem?_reorderedIdx {tabs : List TabId} {source target i : Nat} (hs : source < tabs.length)
    (ht : target < tabs.length) (hi : i < tabs.length) :
    ((tabs.eraseIdx source).insertIdx target (tabs.get ⟨source, hs⟩))[reorderedIdx source target i]? = tabs[i]? := by
  have hlen := length_eraseIdx_of_lt hs
  unfold reorderedIdx
  rw [getElem?_insertIdx]
  by_cases hmoved : i = source
  · subst hmoved
    rw [if_pos rfl, if_neg (Nat.lt_irrefl target), if_pos rfl, if_pos (by omega)]
    exact (getElem?_eq_getElem hi).symm
  · rw [if_neg hmoved]
    by_cases hback : source < i ∧ i ≤ target
    · rw [if_pos hback, if_pos (by omega), getElem?_eraseIdx_of_ge (by omega), Nat.sub_add_cancel (by omega)]
    · rw [if_neg hback]
      by_cases hforth : i < source ∧ target ≤ i
      · rw [if_pos hforth, if_neg (by omega), if_neg (by omega), Nat.add_sub_cancel,
          getElem?_eraseIdx_of_lt hforth.1]
      · rw [if_neg hforth]
        by_cases hbefore : i < target
        · rw [if_pos hbefore, getElem?_eraseIdx_of_lt (by omega)]
        · rw [if_neg hbefore, if_neg (by omega), getElem?_eraseIdx_of_ge (by omega), Nat.sub_add_cancel (by omega)]

/-- `reorder_tab` takes one tab out and puts it back elsewhere; the others keep their order. -/
theorem reorderTab_moves {source target : Nat} (hs : source < w.tabs.length) (ht : target < w.tabs.length) :
    let tabs := (w.reorderTab source target).1.tabs
    (w.reorderTab source target).2 = true ∧ tabs.Perm w.tabs ∧ tabs[target]? = w.tabs[source]? ∧
      tabs.eraseIdx target = w.tabs.eraseIdx source := by
  unfold reorderTab
  rw [dif_pos ⟨hs, ht⟩]
  have hle : target ≤ (w.tabs.eraseIdx source).length := by rw [length_eraseIdx_of_lt hs]; omega
  refine ⟨rfl, ?_, ?_, eraseIdx_insertIdx_self _⟩
  · exact (perm_insertIdx _ _ hle).trans (getElem_cons_eraseIdx_perm hs)
  · rw [getElem?_insertIdx_self, if_pos hle]
    exact (getElem?_eq_getElem hs).symm

/-! ## The active tab is tracked -/

theorem activeTab_addTab (w : Window) (tabId : TabId) : (w.addTab tabId).activeTab = some tabId := by
  simp [activeTab, addTab]

theorem activeTab_insertTabAt (ha : w.activeTab = some a) (index : Nat) (tabId : TabId) :
    (w.insertTabAt index tabId).activeTab = some a := by
  obtain ⟨hlt, hget⟩ := List.getElem?_eq_some_iff.mp ha
  unfold insertTabAt
  by_cases hend : w.tabs.length ≤ index
  · rw [if_pos hend]
    show (w.tabs ++ [tabId])[w.activeTabIdx]? = some a
    rw [getElem?_append_left hlt]
    exact ha
  · rw [if_neg hend]
    show (w.tabs.insertIdx index tabId)[if _ then _ else _]? = some a
    by_cases hshift : index ≤ w.activeTabIdx
    · rw [if_pos hshift, getElem?_insertIdx_of_gt (by omega)]
      exact ha
    · rw [if_neg hshift, getElem?_insertIdx_of_lt (by omega)]
      exact ha

/-- Removing another tab leaves the active one active. -/
theorem activeTab_removeTab (ha : w.activeTab = some a) {tabId : TabId} (hne : tabId ≠ a) :
    (w.removeTab tabId).activeTab = some a := by
  obtain ⟨hlt, hget⟩ := List.getElem?_eq_some_iff.mp ha
  unfold removeTab
  cases hpos : w.tabs.findIdx? (· == tabId) with
  | none => exact ha
  | some pos =>
    obtain ⟨hposlt, hposid, -⟩ := findIdx?_eq_some_iff_getElem.mp hpos
    -- the ids differ, and so do the positions
    have hother : pos ≠ w.activeTabIdx := by
      rintro rfl
      exact hne (((beq_iff_eq.mp hposid).symm).trans hget)
    have hlen := length_eraseIdx_of_lt hposlt
    show (w.tabs.eraseIdx pos)[if (w.tabs.eraseIdx pos).isEmpty then 0 else _]? = some a
    rw [if_neg (by rw [List.isEmpty_iff, ← List.length_eq_zero_iff]; omega)]
    by_cases hlast : (w.tabs.eraseIdx pos).length ≤ w.activeTabIdx
    · rw [if_pos hlast, getElem?_eraseIdx_of_ge (by omega), ← ha]
      congr 1
      omega
    · rw [if_neg hlast]
      by_cases hbefore : pos < w.activeTabIdx
      · rw [if_pos hbefore, getElem?_eraseIdx_of_ge (by omega), Nat.sub_add_cancel (by omega)]
        exact ha
      · rw [if_neg hbefore, getElem?_eraseIdx_of_lt (by omega)]
        exact ha

theorem activeTab_setActiveTabIdx (hne : w.tabs ≠ []) (idx : Nat) :
    (w.setActiveTabIdx idx).activeTab = w.tabs[min idx (w.tabs.length - 1)]? := by
  rw [setActiveTabIdx, if_neg fun h => hne (isEmpty_iff.mp h)]
  rfl

theorem activeTab_reorderTab (ha : w.activeTab = some a) (source target : Nat) :
    (w.reorderTab source target).1.activeTab = some a := by
  obtain ⟨hlt, -⟩ := List.getElem?_eq_some_iff.mp ha
  unfold reorderTab
  by_cases hb : source < w.tabs.length ∧ target < w.tabs.length
  · rw [dif_pos hb]
    exact (getElem?_reorderedIdx hb.1 hb.2 hlt).trans ha
  · rw [dif_neg hb]
    exact ha

theorem activeTab_replaceTabs (ha : w.activeTab = some a) {tabIds : List TabId} (hmem : a ∈ tabIds) :
    (w.replaceTabs tabIds).activeTab = some a := by
  show tabIds[(w.activeTab.bind fun id => tabIds.findIdx? (· == id)).getD 0]? = some a
  rw [ha, Option.bind_some]
  cases hidx : tabIds.findIdx? (· == a) with
  | none => exact absurd (beq_self_eq_true a) (Bool.eq_false_iff.mp (findIdx?_eq_none_iff.mp hidx a hmem))
  | some i =>
    obtain ⟨hlt, hid, -⟩ := findIdx?_eq_some_iff_getElem.mp hidx
    rw [Option.getD_some, getElem?_eq_getElem hlt, beq_iff_eq.mp hid]

/-! ## Fresh ids -/

theorem nodup_removeTab (h : w.tabs.Nodup) (tabId : TabId) :
    (w.removeTab tabId).tabs.Nodup ∧ tabId ∉ (w.removeTab tabId).tabs := by
  unfold removeTab
  cases hpos : w.tabs.findIdx? (· == tabId) with
  | none => exact ⟨h, fun hmem => by simpa using findIdx?_eq_none_iff.mp hpos tabId hmem⟩
  | some pos =>
    obtain ⟨hlt, hid, -⟩ := findIdx?_eq_some_iff_getElem.mp hpos
    refine ⟨h.eraseIdx pos, fun hmem => ?_⟩
    obtain ⟨i, hne, hget⟩ := mem_eraseIdx_iff_getElem?.mp hmem
    obtain ⟨hilt, hi⟩ := List.getElem?_eq_some_iff.mp hget
    exact hne ((Nodup.getElem_inj_iff h).mp (hi.trans (beq_iff_eq.mp hid).symm))

/-- Fresh ids keep the tabs distinct. -/
theorem nodup_apply (h : w.tabs.Nodup) {op : Op} (hfresh : w.Fresh op) : (w.apply op).tabs.Nodup := by
  cases op with
  | addTab tabId =>
    exact h.append (nodup_singleton _) (disjoint_singleton.mpr hfresh)
  | insertTabAt index tabId =>
    show (w.insertTabAt index tabId).tabs.Nodup
    unfold insertTabAt
    by_cases hend : w.tabs.length ≤ index
    · rw [if_pos hend]
      exact h.append (nodup_singleton _) (disjoint_singleton.mpr hfresh)
    · rw [if_neg hend]
      exact (perm_insertIdx _ _ (by omega)).nodup_iff.mpr (nodup_cons.mpr ⟨hfresh, h⟩)
  | removeTab tabId => exact (nodup_removeTab h tabId).1
  | setActiveTabIdx idx =>
    show (w.setActiveTabIdx idx).tabs.Nodup
    unfold setActiveTabIdx
    split <;> exact h
  | reorderTab source target =>
    show (w.reorderTab source target).1.tabs.Nodup
    by_cases hb : source < w.tabs.length ∧ target < w.tabs.length
    · exact (reorderTab_moves hb.1 hb.2).2.1.nodup_iff.mpr h
    · rw [reorderTab, dif_neg hb]
      exact h
  | replaceTabs tabIds => exact hfresh

theorem nodup_run (h : w.tabs.Nodup) {ops : List Op} (hfresh : FreshRun w ops) : (w.run ops).tabs.Nodup := by
  induction ops generalizing w with
  | nil => exact h
  | cons op ops ih => exact ih (nodup_apply h hfresh.1) hfresh.2

/-! ## Every run -/

/-- The active tab, `a`, stays active, unless it is removed or replaced away, or the operation is to activate a tab. -/
def Tracked (w : Window) (a : TabId) : Op → Prop
  | .addTab tabId => (w.addTab tabId).activeTab = some tabId
  | .insertTabAt index tabId => (w.insertTabAt index tabId).activeTab = some a
  | .removeTab tabId =>
    (tabId ≠ a → (w.removeTab tabId).activeTab = some a) ∧ (w.tabs.Nodup → tabId ∉ (w.removeTab tabId).tabs)
  | .setActiveTabIdx idx => (w.setActiveTabIdx idx).activeTab = w.tabs[min idx (w.tabs.length - 1)]?
  | .reorderTab source target => (w.reorderTab source target).1.activeTab = some a
  | .replaceTabs tabIds => a ∈ tabIds → (w.replaceTabs tabIds).activeTab = some a

theorem tracked (ha : w.activeTab = some a) (op : Op) : Tracked w a op := by
  cases op with
  | addTab tabId => exact activeTab_addTab w tabId
  | insertTabAt index tabId => exact activeTab_insertTabAt ha index tabId
  | removeTab tabId => exact ⟨activeTab_removeTab ha, fun h => (nodup_removeTab h tabId).2⟩
  | setActiveTabIdx idx =>
    refine activeTab_setActiveTabIdx (fun hnil => ?_) idx
    rw [activeTab, hnil] at ha
    exact nomatch ha
  | reorderTab source target => exact activeTab_reorderTab ha source target
  | replaceTabs tabIds => exact activeTab_replaceTabs ha

/-- **The active tab is tracked.** After any sequence of operations on a new window the index is below the number of
tabs whenever there are tabs, and the next operation tracks the active tab; fresh ids keep the tabs distinct, and a
reorder moves exactly one tab. -/
theorem active_tab_run (id : WindowId) (ops : List Op) :
    let w := ({ id } : Window).run ops
    (w.tabs ≠ [] → w.activeTabIdx < w.tabs.length ∧ ∃ a, w.activeTab = some a) ∧
    (∀ a, w.activeTab = some a → ∀ op, Tracked w a op) ∧
    (FreshRun { id } ops → w.tabs.Nodup) ∧
    ∀ source target,
      (source < w.tabs.length → target < w.tabs.length →
        let tabs := (w.reorderTab source target).1.tabs
        (w.reorderTab source target).2 = true ∧ tabs.Perm w.tabs ∧ tabs[target]? = w.tabs[source]? ∧
          tabs.eraseIdx target = w.tabs.eraseIdx source) ∧
      (¬ (source < w.tabs.length ∧ target < w.tabs.length) → w.reorderTab source target = (w, false)) := by
  intro w
  have hrange : w.InRange := InRange.run (by show 0 < max 1 0; omega) ops
  refine ⟨fun hne => ?_, fun a ha op => tracked ha op, nodup_run nodup_nil, fun source target => ?_⟩
  · have hlen := length_pos_iff.mpr hne
    have hlt : w.activeTabIdx < w.tabs.length := by unfold InRange at hrange; omega
    exact ⟨hlt, _, getElem?_eq_getElem hlt⟩
  · exact ⟨reorderTab_moves, fun hb => by rw [reorderTab, dif_neg hb]⟩

/-- Four tabs, the second active; the active one goes to the end and is tracked, and so is it when another is removed. -/
example :
    let w := ({ id := 0 } : Window).run [.addTab 1, .addTab 2, .insertTabAt 0 3, .insertTabAt 9 4]
    w.activeTab = some 2 ∧ (w.run [.reorderTab 2 3, .removeTab 3]).activeTab = some 2 := by
  decide

end Window

end OriTerm
