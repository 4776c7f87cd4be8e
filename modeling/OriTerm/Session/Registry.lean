import OriTerm.Session.Tab

/-!
# `Session.Registry` — tabs and windows, and the removal of a pane

The registry keeps its tabs and windows in hash maps; here each is the list of the values in the order in which the map
hands them out, with distinct ids. The order is any order, so what is proved holds for whichever tab a search over the
map finds first.

`removePaneFromSession` takes a pane out of its tab, and a tab without panes out of its window. A tree always has a
leaf, so no tab is ever without panes: the tab of a pane that is its only one stays, with the pane in its tree.

* **`removesCleanly_iff`** — a removal cleans the model exactly when the pane is in one tab only, is there once, and is
  neither the sole leaf of the tree nor zoomed.
-/

namespace OriTerm

open List

/-- Window identifier. -/
abbrev WindowId := Nat

/-- An ordered collection of tabs. -/
structure Window where
  id : WindowId
  tabs : List TabId := []
  /-- Index of the active tab in `tabs`. -/
  activeTabIdx : Nat := 0

/-- Removes a tab by ID. -/
def Window.removeTab (w : Window) (tabId : TabId) : Window :=
  match w.tabs.findIdx? (· == tabId) with
  | some pos =>
    let tabs := w.tabs.eraseIdx pos
    { w with
      tabs
      activeTabIdx :=
        if tabs.isEmpty then 0
        else if tabs.length ≤ w.activeTabIdx then tabs.length - 1
        else if pos < w.activeTabIdx then w.activeTabIdx - 1
        else w.activeTabIdx }
  | none => w

/-- All tabs and windows, by their ids. -/
structure SessionRegistry where
  tabs : List Tab
  windows : List Window
  tabs_nodup : (tabs.map (·.id)).Nodup
  windows_nodup : (windows.map (·.id)).Nodup

namespace SessionRegistry

variable (s : SessionRegistry) (tabId : TabId)

/-- Find which window contains a given tab. -/
def windowForTab : Option WindowId :=
  (s.windows.find? (·.tabs.contains tabId)).map (·.id)

/-- Find which tab contains a given pane. -/
def tabForPane (paneId : PaneId) : Option TabId :=
  (s.tabs.find? (·.allPanes.contains paneId)).map (·.id)

def getTab : Option Tab := s.tabs.find? (·.id == tabId)

def getWindow (windowId : WindowId) : Option Window := s.windows.find? (·.id == windowId)

/-- `get_tab_mut`: changes a tab, but not its id. -/
def modifyTab (f : Tab → Tab) : SessionRegistry :=
  { s with
    tabs := s.tabs.map fun t => if t.id = tabId then { f t with id := t.id } else t
    tabs_nodup := by
      rw [map_map]
      refine (map_congr_left fun t _ => ?_) ▸ s.tabs_nodup
      show t.id = (if t.id = tabId then { f t with id := t.id } else t : Tab).id
      split <;> rfl }

/-- `get_window_mut`: changes a window, but not its id. -/
def modifyWindow (windowId : WindowId) (f : Window → Window) : SessionRegistry :=
  { s with
    windows := s.windows.map fun w => if w.id = windowId then { f w with id := w.id } else w
    windows_nodup := by
      rw [map_map]
      refine (map_congr_left fun w _ => ?_) ▸ s.windows_nodup
      show w.id = (if w.id = windowId then { f w with id := w.id } else w : Window).id
      split <;> rfl }

def removeTab : SessionRegistry :=
  { s with
    tabs := s.tabs.filter (·.id != tabId)
    tabs_nodup := s.tabs_nodup.sublist (filter_sublist.map _) }

/-- Remove a pane from the session model; the window that is now empty, if any. -/
def removePaneFromSession (paneId : PaneId) : SessionRegistry × Option WindowId :=
  match s.tabForPane paneId with
  | none => (s, none)
  | some tabId =>
    let s := s.modifyTab tabId (·.removePane paneId)
    if (s.getTab tabId).any (·.allPanes.isEmpty) then
      let winId := s.windowForTab tabId
      let s := s.removeTab tabId
      match winId with
      | none => (s, none)
      | some wid =>
        let s := s.modifyWindow wid (·.removeTab tabId)
        (s, if (s.getWindow wid).any (·.tabs.isEmpty) then some wid else none)
    else (s, none)

/-! ## A clean removal -/

end SessionRegistry

/-- The pane is somewhere in the tab. -/
def Tab.Mentions (t : Tab) (p : PaneId) : Prop := p ∈ t.allPanes ∨ t.activePane = p ∨ t.zoomedPane = some p

/-- The pane is the only one of the tab. -/
def Tab.OnlyPane (t : Tab) (p : PaneId) : Prop := p ∈ t.allPanes ∧ ∀ q ∈ t.allPanes, q = p

/-- The pane is there once, the tab can do without it, and it is not zoomed. -/
structure Tab.CanRemove (t : Tab) (p : PaneId) : Prop where
  mem : p ∈ t.allPanes
  floating : t.isFloating p = true → p ∉ t.tree.panes
  once : t.tree.panes.count p ≤ 1
  notSole : t.isFloating p = true ∨ t.tree ≠ .leaf p
  notZoomed : t.zoomedPane ≠ some p
  active : t.activePane ∈ t.allPanes

namespace SessionRegistry

variable {s : SessionRegistry} {p : PaneId}

/-- What a removal should do to the session. -/
structure RemovesCleanly (s : SessionRegistry) (p : PaneId) (r : SessionRegistry × Option WindowId) : Prop where
  gone : ∀ t ∈ r.1.tabs, ¬ t.Mentions p
  /-- A tab of which it is the only pane goes, and a window of which that is the only tab is reported. -/
  lastPane : ∀ t ∈ s.tabs, t.OnlyPane p → t.id ∉ r.1.tabs.map (·.id) ∧
    ∀ w ∈ s.windows, w.tabs = [t.id] → r.2 = some w.id ∨ w.id ∉ r.1.windows.map (·.id)
  /-- A tab with other panes keeps them in their places, and its focus is among them. -/
  remaining : ∀ t ∈ s.tabs, p ∈ t.allPanes → ¬ t.OnlyPane p → ∃ t' ∈ r.1.tabs, t'.id = t.id ∧
    t'.tree.panes = t.tree.panes.filter (· != p) ∧ t'.floating.panes = t.floating.panes.filter (·.paneId != p) ∧
      t'.activePane ∈ t'.allPanes
  otherTabs : ∀ t ∈ s.tabs, p ∉ t.allPanes → t ∈ r.1.tabs
  noNewTabs : ∀ t' ∈ r.1.tabs, ∃ t ∈ s.tabs, t'.id = t.id
  /-- A window loses at most the tab that goes. -/
  windows : ∀ w ∈ s.windows, (∀ t ∈ s.tabs, t.OnlyPane p → t.id ∉ w.tabs) → w ∈ r.1.windows
  shrunk : ∀ w ∈ r.1.windows, ∃ w₀ ∈ s.windows, w.id = w₀.id ∧
    ∀ id ∈ w₀.tabs, id ∈ w.tabs ∨ ∃ t ∈ s.tabs, t.OnlyPane p ∧ t.id = id

/-- The pane is in one tab, which can do without it. -/
def CanRemove (s : SessionRegistry) (p : PaneId) : Prop :=
  ∃ t ∈ s.tabs, t.CanRemove p ∧ ∀ t' ∈ s.tabs, t'.id ≠ t.id → ¬ t'.Mentions p

/-! ## What a removal does -/

/-- A tab is never without panes. -/
theorem allPanes_isEmpty (t : Tab) : t.allPanes.isEmpty = false :=
  isEmpty_eq_false_iff.mpr (ne_nil_of_mem (OpenTab.firstPane_mem_allPanes t))

/-- Some tab with the pane is found. -/
theorem tabForPane_eq_some (h : ∃ t ∈ s.tabs, p ∈ t.allPanes) :
    ∃ t ∈ s.tabs, p ∈ t.allPanes ∧ s.tabForPane p = some t.id := by
  obtain ⟨t₀, ht₀, hp₀⟩ := h
  unfold tabForPane
  cases hfind : s.tabs.find? (·.allPanes.contains p) with
  | none => exact absurd (contains_iff_mem.mpr hp₀) (find?_eq_none.mp hfind t₀ ht₀)
  | some t =>
    have hcontains := find?_some hfind
    exact ⟨t, mem_of_find?_eq_some hfind, contains_iff_mem.mp hcontains, rfl⟩

/-- Tabs are told apart by their ids. -/
theorem eq_of_id_eq {t t' : Tab} (ht : t ∈ s.tabs) (ht' : t' ∈ s.tabs) (hid : t.id = t'.id) : t = t' :=
  inj_on_of_nodup_map s.tabs_nodup ht ht' hid

/-- **A removal changes the tab that is found, and removes nothing from the registry.** -/
theorem removePaneFromSession_eq {tabId : TabId} (h : s.tabForPane p = some tabId) :
    s.removePaneFromSession p = (s.modifyTab tabId (·.removePane p), none) := by
  have hempty : ((s.modifyTab tabId (·.removePane p)).getTab tabId).any (·.allPanes.isEmpty) = false := by
    rw [Option.any_eq_false_iff_get]
    exact fun _ => allPanes_isEmpty _
  unfold removePaneFromSession
  rw [h]
  dsimp only
  rw [hempty, if_neg Bool.false_ne_true]

theorem id_removePane (t : Tab) (p : PaneId) : (t.removePane p).id = t.id := by
  unfold Tab.removePane
  rw [OpenTab.withoutPane_eq]
  dsimp only
  split <;> rfl

/-- The tabs after a removal from the tab `t`. -/
theorem mem_tabs_removePane {t : Tab} (ht : t ∈ s.tabs) {t' : Tab} :
    t' ∈ (s.modifyTab t.id (·.removePane p)).tabs ↔ t' = t.removePane p ∨ t' ∈ s.tabs ∧ t'.id ≠ t.id := by
  have hself : ∀ u ∈ s.tabs, u.id = t.id → ({ u.removePane p with id := u.id } : Tab) = t.removePane p := by
    intro u hu hid
    rw [eq_of_id_eq hu ht hid]
    exact congrArg (fun id => { t.removePane p with id := id }) (id_removePane t p).symm
  unfold modifyTab
  rw [mem_map]
  constructor
  · rintro ⟨u, hu, rfl⟩
    split
    · next hid => exact .inl (hself u hu hid)
    · next hid => exact .inr ⟨hu, hid⟩
  · rintro (rfl | ⟨ht', hid⟩)
    · exact ⟨t, ht, by rw [if_pos rfl, hself t ht rfl]⟩
    · exact ⟨t', ht', if_neg hid⟩

/-- The pane is gone from its tab exactly when the tab can do without it. -/
theorem not_mentions_removePane_iff {t : Tab} (hp : p ∈ t.allPanes) :
    (¬ (t.removePane p).Mentions p ∧ (t.removePane p).activePane ∈ (t.removePane p).allPanes) ↔ t.CanRemove p := by
  obtain ⟨htree, hlayer⟩ := OpenTab.removePane_panes t p
  have hzoom := OpenTab.zoomedPane_removePane t p
  have hactive := OpenTab.activePane_removePane t p
  constructor
  · rintro ⟨hgone, hfocus⟩
    obtain ⟨hpanes, -, hnz⟩ := (not_or.trans (and_congr_right' not_or)).mp hgone
    have htreegone : p ∉ (t.removePane p).tree.panes := fun hmem => hpanes (OpenTab.mem_allPanes.mpr (.inl hmem))
    rw [htree] at htreegone
    rw [hzoom] at hnz
    have hplace : (t.isFloating p = true → p ∉ t.tree.panes) ∧ t.tree.panes.count p ≤ 1 ∧
        (t.isFloating p = true ∨ t.tree ≠ .leaf p) := by
      by_cases hf : t.isFloating p = true
      · rw [if_pos hf] at htreegone
        refine ⟨fun _ => htreegone, ?_, .inl hf⟩
        rw [count_eq_zero.mpr htreegone]
        exact Nat.zero_le 1
      · rw [if_neg hf] at htreegone
        cases hr : t.tree.remove p with
        | none =>
          -- the sole leaf is still in the tree
          rw [hr, SplitTree.remove_eq_none_iff.mp hr] at htreegone
          exact absurd (mem_singleton_self p) htreegone
        | some tree =>
          rw [hr, Option.getD_some] at htreegone
          have hcount := SplitTree.count_remove hr
          rw [count_eq_zero.mpr htreegone] at hcount
          refine ⟨fun h => absurd h hf, by omega, .inr fun hleaf => ?_⟩
          rw [SplitTree.remove_eq_none_iff.mpr hleaf] at hr
          cases hr
    refine ⟨hp, hplace.1, hplace.2.1, hplace.2.2, hnz, ?_⟩
    by_cases ha : t.activePane = p
    · exact ha ▸ hp
    · rw [hactive, if_neg ha, OpenTab.allPanes_removePane hplace.1 hplace.2.1 hplace.2.2] at hfocus
      exact mem_of_mem_filter hfocus
  · intro h
    have hpanes := OpenTab.allPanes_removePane h.floating h.once h.notSole
    have hgone : p ∉ (t.removePane p).allPanes := by
      rw [hpanes, mem_filter]
      exact fun hmem => bne_iff_ne.mp hmem.2 rfl
    have hfocus : (t.removePane p).activePane ∈ (t.removePane p).allPanes := by
      rw [hactive]
      split
      · exact OpenTab.firstPane_mem_allPanes _
      · next hne =>
        rw [hpanes, mem_filter]
        exact ⟨h.active, bne_iff_ne.mpr hne⟩
    refine ⟨?_, hfocus⟩
    rintro (hmem | hmem | hmem)
    · exact hgone hmem
    · rw [hmem] at hfocus
      exact hgone hfocus
    · exact h.notZoomed (hzoom.symm.trans hmem)

/-- A pane that can be removed is not the only one. -/
theorem not_onlyPane {t : Tab} (h : t.CanRemove p) : ¬ t.OnlyPane p := by
  rintro ⟨-, honly⟩
  have hfirst := OpenTab.firstPane_mem_allPanes (t.removePane p)
  rw [OpenTab.allPanes_removePane h.floating h.once h.notSole] at hfirst
  obtain ⟨hmem, hne⟩ := mem_filter.mp hfirst
  exact bne_iff_ne.mp hne (honly _ hmem)

/-- The other panes stay in their places. -/
theorem removePane_keeps {t : Tab} (h : t.CanRemove p) :
    (t.removePane p).tree.panes = t.tree.panes.filter (· != p) ∧
      (t.removePane p).floating.panes = t.floating.panes.filter (·.paneId != p) := by
  obtain ⟨htree, hlayer⟩ := OpenTab.removePane_panes t p
  rw [htree, hlayer]
  by_cases hf : t.isFloating p = true
  · rw [if_pos hf, if_pos hf]
    refine ⟨(filter_eq_self.mpr fun q hq => bne_iff_ne.mpr ?_).symm, rfl⟩
    rintro rfl
    exact h.floating hf hq
  · rw [if_neg hf, if_neg hf]
    constructor
    · cases hr : t.tree.remove p with
      | none => exact absurd (SplitTree.remove_eq_none_iff.mp hr) (h.notSole.resolve_left hf)
      | some tree => exact SplitTree.panes_remove hr h.once
    · refine (filter_eq_self.mpr fun q hq => bne_iff_ne.mpr ?_).symm
      rintro rfl
      exact hf (FloatingLayer.contains_iff.mpr (mem_map_of_mem hq))

/-- **A removal cleans the model exactly when the pane is in one tab, which can do without it.** -/
theorem removesCleanly_iff (s : SessionRegistry) (p : PaneId) (hp : ∃ t ∈ s.tabs, p ∈ t.allPanes) :
    RemovesCleanly s p (s.removePaneFromSession p) ↔ s.CanRemove p := by
  obtain ⟨t, ht, hmem, hfound⟩ := tabForPane_eq_some hp
  rw [removePaneFromSession_eq hfound]
  constructor
  · intro h
    have hself : t.removePane p ∈ (s.modifyTab t.id (·.removePane p)).tabs := (mem_tabs_removePane ht).mpr (.inl rfl)
    have hgone := h.gone _ hself
    have hother : ¬ t.OnlyPane p := by
      intro honly
      refine (h.lastPane t ht honly).1 (mem_map.mpr ⟨_, hself, id_removePane t p⟩)
    obtain ⟨t', ht', hid, -, -, hfocus⟩ := h.remaining t ht hmem hother
    have ht'eq : t' = t.removePane p :=
      ((mem_tabs_removePane ht).mp ht').resolve_right fun hne => hne.2 hid
    rw [ht'eq] at hfocus
    refine ⟨t, ht, (not_mentions_removePane_iff hmem).mp ⟨hgone, hfocus⟩, fun u hu hne => ?_⟩
    exact h.gone u ((mem_tabs_removePane ht).mpr (.inr ⟨hu, hne⟩))
  · rintro ⟨u, hu, hcan, hothers⟩
    -- the tab that is found is the one with the pane
    have huid : t.id = u.id := by
      by_contra hne
      exact hothers t ht hne (.inl hmem)
    obtain rfl := eq_of_id_eq ht hu huid
    obtain ⟨hgone, hfocus⟩ := (not_mentions_removePane_iff hmem).mpr hcan
    have honly : ∀ u ∈ s.tabs, p ∈ u.allPanes → u = t := by
      intro u hu hup
      by_contra hne
      exact hothers u hu (fun hid => hne (eq_of_id_eq hu ht hid)) (.inl hup)
    have hsome : ∀ u ∈ s.tabs, ¬ u.OnlyPane p := by
      intro u hu hu'
      rw [honly u hu hu'.1] at hu'
      exact not_onlyPane hcan hu'
    constructor
    case gone =>
      intro t' ht'
      rcases (mem_tabs_removePane ht).mp ht' with rfl | ⟨hu, hne⟩
      · exact hgone
      · exact hothers t' hu hne
    case lastPane => exact fun u hu hlast => absurd hlast (hsome u hu)
    case remaining =>
      intro u hu hup _
      obtain rfl := honly u hu hup
      obtain ⟨htree, hlayer⟩ := removePane_keeps hcan
      exact ⟨_, (mem_tabs_removePane ht).mpr (.inl rfl), id_removePane u p, htree, hlayer, hfocus⟩
    case otherTabs =>
      intro u hu hup
      refine (mem_tabs_removePane ht).mpr (.inr ⟨hu, fun hid => hup ?_⟩)
      rw [eq_of_id_eq hu ht hid]
      exact hmem
    case noNewTabs =>
      intro t' ht'
      rcases (mem_tabs_removePane ht).mp ht' with rfl | ⟨hu, -⟩
      · exact ⟨t, ht, id_removePane t p⟩
      · exact ⟨t', hu, rfl⟩
    case windows => exact fun w hw _ => hw
    case shrunk => exact fun w hw => ⟨w, hw, rfl, fun id hid => .inl hid⟩

/-- A session of one window with one tab per pane. -/
def ofPanes (panes : List PaneId) (h : panes.Nodup) : SessionRegistry where
  tabs := panes.map fun p => .new p p
  windows := [{ id := 0, tabs := panes }]
  tabs_nodup := by
    rw [map_map]
    exact (map_id panes).symm ▸ h
  windows_nodup := nodup_singleton 0

/-- The pane of a tab that has no other stays. -/
theorem sole_leaf_stays :
    ¬ RemovesCleanly (ofPanes [0, 1] (by decide)) 0 ((ofPanes [0, 1] (by decide)).removePaneFromSession 0) := by
  intro h
  have htab : Tab.new 0 0 ∈ ((ofPanes [0, 1] (by decide)).removePaneFromSession 0).1.tabs := mem_cons_self ..
  exact h.gone _ htab (.inl (mem_cons_self ..))

/-- A removal of one of two panes is clean. -/
theorem removesCleanly_floating :
    let s : SessionRegistry :=
      ⟨[(Tab.new 0 0).addFloating 1, .new 1 2], [{ id := 0, tabs := [0, 1] }], by decide, by decide⟩
    (∃ t ∈ s.tabs, 1 ∈ t.allPanes) ∧ RemovesCleanly s 1 (s.removePaneFromSession 1) := by
  intro s
  have hp : ∃ t ∈ s.tabs, 1 ∈ t.allPanes := ⟨_, mem_cons_self .., by decide⟩
  refine ⟨hp, (removesCleanly_iff s 1 hp).mpr ⟨_, mem_cons_self .., ?_, ?_⟩⟩
  · exact ⟨by decide, by decide, by decide, .inl (by decide), nofun, by decide⟩
  · intro t ht hne
    rcases mem_cons.mp ht with rfl | ht
    · exact absurd rfl hne
    · rw [mem_singleton.mp ht]
      rintro (h | h | h)
      · exact absurd h (by decide)
      · exact absurd h (by decide)
      · exact absurd h nofun

end SessionRegistry

end OriTerm
