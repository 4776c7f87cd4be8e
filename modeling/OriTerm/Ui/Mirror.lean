import OriTerm.Ui.Interaction

/-!
# `Ui.Mirror` — the states of the widgets and the facts they repeat

`Mirrors` says that the interaction manager agrees with itself and with the focus manager: the state of each
registered widget is the one the facts give (`mirror`), only registered widgets hold a role, and both managers know
the same focus.

A call may change the facts behind the states' back: removing the widget that ends the hot path makes another one
its end, a new parent map gives the focused widget other ancestors, and a widget that is registered late starts with
no flag. `InteractionOp.Keeps` says when a call does not, and **`mirrors_apply_iff`** that this is exactly when the
managers still agree after it; `mirrors_run_iff` is the same for every run.
-/

namespace OriTerm

open Lib List

namespace InteractionManager

/-- The ancestors of the focused widget. -/
def above (m : InteractionManager) : List WidgetId := (m.focusedWidget.bind m.ancestors).getD []

/-- The state that the facts give a widget. -/
def mirror (m : InteractionManager) (w : WidgetId) (disabled : Bool) : InteractionState :=
  { hot := decide (w ∈ m.hotPath)
    hotDirect := decide (m.hotPath.getLast? = some w)
    active := decide (m.activeWidget = some w)
    focused := decide (m.focusedWidget = some w)
    focusWithin := decide (w ∈ m.above)
    disabled }

/-- **The managers agree.** -/
structure Mirrors (m : InteractionManager) (fm : FocusManager) : Prop where
  states : ∀ w s, m.states.get w = some s → s = m.mirror w s.disabled
  hotPath : ∀ w ∈ m.hotPath, m.isRegistered w = true
  active : ∀ w, m.activeWidget = some w → m.isRegistered w = true
  focused : ∀ w, m.focusedWidget = some w → m.isRegistered w = true ∧ (m.ancestors w).isSome
  focus : fm.focused = m.focusedWidget

/-- Registrations are gone, and the roles their widgets held. -/
structure Removed (gone : WidgetId → Prop) [DecidablePred gone] (m m' : InteractionManager) : Prop where
  states : ∀ w, m'.states.get w = if gone w then none else m.states.get w
  hotPath : m'.hotPath = m.hotPath.filter (¬ gone ·)
  activeWidget : m'.activeWidget = m.activeWidget.filter (¬ gone ·)
  focusedWidget : m'.focusedWidget = m.focusedWidget
  parentMap : m'.parentMap = m.parentMap

variable {m m' m'' : InteractionManager} {fm fm' : FocusManager} {id : WidgetId}
  {f : WidgetId → InteractionState → InteractionState}

theorem isRegistered_iff : m.isRegistered id = true ↔ ∃ s, m.states.get id = some s := Option.isSome_iff_exists

/-! ## Removals -/

namespace Removed

variable {gone gone' : WidgetId → Prop} [DecidablePred gone] [DecidablePred gone']

theorem refl (m : InteractionManager) (h : ∀ w, ¬ gone w) : Removed gone m m := by
  refine ⟨fun w => by rw [if_neg (h w)], ?_, ?_, rfl, rfl⟩
  · rw [filter_eq_self.mpr fun w _ => by simpa using h w]
  · cases hm : m.activeWidget with
    | none => rfl
    | some w => simp [Option.filter, h]

variable (h : Removed gone m m')
include h

theorem trans (h' : Removed gone' m' m'') : Removed (fun w => gone w ∨ gone' w) m m'' := by
  refine ⟨fun w => ?_, ?_, ?_, h'.focusedWidget.trans h.focusedWidget, h'.parentMap.trans h.parentMap⟩
  · rw [h'.states, h.states]
    by_cases hw : gone w <;> simp [hw]
  · rw [h'.hotPath, h.hotPath, filter_filter]
    refine filter_congr fun w _ => ?_
    by_cases hw : gone w <;> simp [hw]
  · rw [h'.activeWidget, h.activeWidget]
    cases m.activeWidget with
    | none => rfl
    | some w =>
      by_cases hw : gone w <;> simp

theorem congr (hiff : ∀ w, gone w ↔ gone' w) : Removed gone' m m' := by
  refine ⟨fun w => ?_, ?_, ?_, h.focusedWidget, h.parentMap⟩
  · rw [h.states]
    simp [hiff]
  · rw [h.hotPath]
    exact filter_congr fun w _ => by simp [hiff]
  · rw [h.activeWidget]
    cases m.activeWidget with
    | none => rfl
    | some w => simp [Option.filter, hiff]

theorem ancestors (w : WidgetId) : m'.ancestors w = m.ancestors w := by
  unfold InteractionManager.ancestors
  rw [h.parentMap]

end Removed

section

variable (m : InteractionManager)

theorem dropHot_eq (id : WidgetId) :
    ∃ events, m.dropHot id = { m with hotPath := m.hotPath.filter (¬ · = id), pendingEvents := events } := by
  unfold dropHot
  split
  · exact ⟨_, rfl⟩
  · next hnot =>
    refine ⟨m.pendingEvents, ?_⟩
    rw [filter_eq_self.mpr fun w hw => ?_]
    have hne : w ≠ id := fun he => hnot (he ▸ hw)
    simpa using hne

theorem dropActive_eq (id : WidgetId) :
    ∃ events, m.dropActive id = { m with activeWidget := m.activeWidget.filter (¬ · = id), pendingEvents := events } := by
  unfold dropActive
  split
  · next hw =>
    refine ⟨m.pendingEvents ++ [.activeChanged id false], ?_⟩
    rw [hw]
    simp [emit, Option.filter]
  · next hw =>
    refine ⟨m.pendingEvents, ?_⟩
    have hkept : m.activeWidget.filter (¬ · = id) = m.activeWidget := by
      cases hm : m.activeWidget with
      | none => rfl
      | some w =>
        have hne : w ≠ id := fun he => hw (by rw [hm, he])
        simp [hne]
    rw [hkept]

/-- A removal before it comes to the focus. -/
theorem dropRoles_eq (id : WidgetId) :
    ∃ events, ({ m with states := m.states.erase id }.dropHot id).dropActive id
      = { m with states := m.states.erase id, hotPath := m.hotPath.filter (¬ · = id)
                 activeWidget := m.activeWidget.filter (¬ · = id), pendingEvents := events } := by
  obtain ⟨events, hhot⟩ := dropHot_eq { m with states := m.states.erase id } id
  rw [hhot]
  obtain ⟨events', hactive⟩ := dropActive_eq
    { m with states := m.states.erase id, hotPath := m.hotPath.filter (¬ · = id), pendingEvents := events } id
  exact ⟨events', hactive⟩

end

/-- **A widget without the focus is removed** with the roles it held. -/
theorem deregisterWidget_spec (h : m.focusedWidget ≠ some id) :
    ∃ m' changed, m.deregisterWidget id = some (m', changed) ∧ Removed (· = id) m m' := by
  obtain ⟨events, hroles⟩ := m.dropRoles_eq id
  unfold deregisterWidget
  dsimp only
  rw [hroles]
  unfold dropFocus
  rw [if_neg h]
  exact ⟨_, _, rfl, fun w => Table.get_erase .., rfl, rfl, rfl, rfl⟩

/-- The focused widget that is removed takes the focus with it. -/
theorem deregisterWidget_focused (h : m.focusedWidget = some id) {changed : List WidgetId}
    (hm : m.deregisterWidget id = some (m', changed)) : m'.focusedWidget = none := by
  obtain ⟨events, hroles⟩ := m.dropRoles_eq id
  unfold deregisterWidget at hm
  dsimp only at hm
  rw [hroles] at hm
  unfold dropFocus at hm
  rw [if_pos h] at hm
  simp only [Option.map_map, Option.map_eq_some_iff] at hm
  obtain ⟨ids, -, hm⟩ := hm
  obtain ⟨rfl, -⟩ := Prod.mk.inj hm
  exact (edits_markFocusWithin false ids _).focusedWidget

/-- **Widgets without the focus are collected.** -/
theorem gcSteps_spec {ids : List WidgetId} (changed : List WidgetId) (h : ∀ w ∈ ids, m.focusedWidget ≠ some w) :
    ∃ m' changed', ids.foldlM gcStep (m, changed) = some (m', changed') ∧ Removed (· ∈ ids) m m' := by
  induction ids generalizing m changed with
  | nil => exact ⟨m, changed, rfl, .refl m (by simp)⟩
  | cons id ids ih =>
    obtain ⟨m₁, more, hone, hremoved⟩ := deregisterWidget_spec (h id (mem_cons_self ..))
    obtain ⟨m', changed', hrest, hremoved'⟩ := ih (changed ++ more) fun w hw => by
      rw [hremoved.focusedWidget]
      exact h w (mem_cons_of_mem _ hw)
    refine ⟨m', changed', ?_, (hremoved.trans hremoved').congr fun w => by simp⟩
    rw [foldlM_cons]
    unfold gcStep at hrest ⊢
    rw [hone]
    exact hrest

/-- Collecting the focused widget takes the focus with it. -/
theorem gcSteps_focused {ids : List WidgetId} (hnodup : ids.Nodup) {changed changed' : List WidgetId}
    (hid : id ∈ ids) (h : m.focusedWidget = some id) (hm : ids.foldlM gcStep (m, changed) = some (m', changed')) :
    m'.focusedWidget = none := by
  induction ids generalizing m changed with
  | nil => cases hid
  | cons w ids ih =>
    obtain ⟨acc, hacc, hrest⟩ := Option.bind_eq_some_iff.mp hm
    obtain ⟨⟨m₁, more⟩, hone, rfl⟩ := Option.map_eq_some_iff.mp hacc
    by_cases hw : w = id
    · subst hw
      have hnone := deregisterWidget_focused h hone
      obtain ⟨m₂, changed₂, hrest₂, hremoved⟩ := @gcSteps_spec m₁ ids (changed ++ more)
        fun x _ => by rw [hnone]; simp
      rw [hrest] at hrest₂
      obtain ⟨rfl, -⟩ := Prod.mk.inj (Option.some.inj hrest₂)
      rw [hremoved.focusedWidget, hnone]
    · obtain ⟨m₂, changed₂, hone₂, hremoved⟩ := @deregisterWidget_spec m w (by
        rw [h]
        simpa using Ne.symm hw)
      rw [hone] at hone₂
      obtain ⟨rfl, -⟩ := Prod.mk.inj (Option.some.inj hone₂)
      have hid' : id ∈ ids := (mem_cons.mp hid).resolve_left (Ne.symm hw)
      exact ih (nodup_cons.mp hnodup).2 hid' (hremoved.focusedWidget.trans h) hrest

/-- The last entry that is not filtered out, when the last one is not or nothing is left. -/
theorem getLast?_filter_eq {p : WidgetId → Bool} {l : List WidgetId} {w : WidgetId} (hw : p w = true)
    (h : ∀ x, l.getLast? = some x → p x = false → ∀ y ∈ l, p y = false) :
    (l.filter p).getLast? = some w ↔ l.getLast? = some w := by
  induction l using List.reverseRecOn with
  | nil => simp
  | append_singleton l x ih =>
    cases hx : p x with
    | true => simp [hx]
    | false =>
      have hnone : l.filter p = [] := filter_eq_nil_iff.mpr fun y hy => by
        rw [h x getLast?_concat hx y (mem_append_left _ hy)]
        simp
      have hne : x ≠ w := fun he => by rw [he, hw] at hx; cases hx
      simp [hnone, hne]

/-- **Removals and the mirror**: the managers still agree exactly when the widget that ended the hot path was kept,
    or nothing of the path was. -/
theorem mirrors_removed_iff {gone : WidgetId → Prop} [DecidablePred gone] (hm : Mirrors m fm) (hr : Removed gone m m')
    (hfocus : ∀ w, m.focusedWidget = some w → ¬ gone w) :
    Mirrors m' fm ↔ ∀ w, m.hotPath.getLast? = some w → gone w → ∀ x ∈ m.hotPath, gone x := by
  have habove : m'.above = m.above := by
    unfold above
    rw [hr.focusedWidget]
    cases m.focusedWidget with
    | none => rfl
    | some w =>
      rw [Option.bind_some, Option.bind_some, hr.ancestors]
  have hreg : ∀ w, ¬ gone w → m'.isRegistered w = m.isRegistered w := by
    intro w hw
    unfold isRegistered
    rw [hr.states, if_neg hw]
  constructor
  · intro hm' w hlast hgone x hx
    by_contra hkept
    -- the widget that now ends the path was not its end before, and its state still says so
    have hx' : x ∈ m'.hotPath := by
      rw [hr.hotPath]
      exact mem_filter.mpr ⟨hx, by simpa using hkept⟩
    obtain ⟨y, hy⟩ : ∃ y, m'.hotPath.getLast? = some y :=
      ⟨_, getLast?_eq_some_getLast (ne_nil_of_mem hx')⟩
    have hymem : y ∈ m'.hotPath := mem_of_getLast? hy
    have hykept : ¬ gone y := by
      rw [hr.hotPath] at hymem
      simpa using (mem_filter.mp hymem).2
    obtain ⟨s, hs⟩ := isRegistered_iff.mp (hm'.hotPath y hymem)
    have hnew := congrArg InteractionState.hotDirect (hm'.states y s hs)
    rw [hr.states, if_neg hykept] at hs
    have hold := congrArg InteractionState.hotDirect (hm.states y s hs)
    have hne : w ≠ y := fun he => hykept (he ▸ hgone)
    simp [mirror, hlast, hne] at hold
    simp [mirror, hold, hy] at hnew
  · intro hguard
    refine ⟨?_, ?_, ?_, ?_, ?_⟩
    · intro w s hs
      rw [hr.states] at hs
      split at hs
      · cases hs
      · next hkept =>
        have hlast : m'.hotPath.getLast? = some w ↔ m.hotPath.getLast? = some w := by
          rw [hr.hotPath]
          refine getLast?_filter_eq (by simpa using hkept) fun x hx hpx y hy => ?_
          simpa using hguard x hx (by simpa using hpx) y hy
        have hmem : w ∈ m'.hotPath ↔ w ∈ m.hotPath := by
          rw [hr.hotPath]
          simp [hkept]
        have hactive : m'.activeWidget = some w ↔ m.activeWidget = some w := by
          rw [hr.activeWidget]
          simp [hkept]
        rw [hm.states w s hs]
        unfold mirror
        simp [hlast, hmem, hactive, hr.focusedWidget, habove]
    · intro w hw
      rw [hr.hotPath] at hw
      obtain ⟨hw, hkept⟩ := mem_filter.mp hw
      rw [hreg w (by simpa using hkept)]
      exact hm.hotPath w hw
    · intro w hw
      rw [hr.activeWidget] at hw
      obtain ⟨hw, hkept⟩ := Option.filter_eq_some_iff.mp hw
      rw [hreg w (by simpa using hkept)]
      exact hm.active w hw
    · intro w hw
      rw [hr.focusedWidget] at hw
      rw [hreg w (hfocus w hw), hr.ancestors]
      exact hm.focused w hw
    · rw [hr.focusedWidget]
      exact hm.focus

/-! ## Edits of states -/

/-- Edits of the states and a change of the facts: the states mirror the new facts when `f` turns the old mirror
    image into the new one. -/
theorem Mirrors.of_refocuses (hm : Mirrors m fm) (he : Refocuses f m m') (hstates : m''.states = m'.states)
    (hmirror : ∀ w disabled, f w (m.mirror w disabled) = m''.mirror w (f w (m.mirror w disabled)).disabled)
    (hhot : ∀ w ∈ m''.hotPath, m.isRegistered w = true)
    (hactive : ∀ w, m''.activeWidget = some w → m.isRegistered w = true)
    (hfocused : ∀ w, m''.focusedWidget = some w → m.isRegistered w = true ∧ (m''.ancestors w).isSome)
    (hfocus : fm'.focused = m''.focusedWidget) : Mirrors m'' fm' := by
  have hreg : ∀ w, m''.isRegistered w = m.isRegistered w := by
    intro w
    unfold isRegistered
    rw [hstates, he.states, Option.isSome_map]
  refine ⟨?_, fun w hw => (hreg w).trans (hhot w hw), fun w hw => (hreg w).trans (hactive w hw),
    fun w hw => ⟨(hreg w).trans (hfocused w hw).1, (hfocused w hw).2⟩, hfocus⟩
  intro w s hs
  rw [hstates, he.states] at hs
  obtain ⟨s₀, hs₀, rfl⟩ := Option.map_eq_some_iff.mp hs
  have hmirrored := hm.states w s₀ hs₀
  have hstep := hmirror w s₀.disabled
  rw [← hmirrored] at hstep
  exact hstep

section

variable (hfocused : m''.focusedWidget = m.focusedWidget) (hmap : m''.parentMap = m.parentMap)
include hfocused hmap

theorem above_congr : m''.above = m.above := by
  unfold above ancestors
  rw [hfocused, hmap]

/-- The mirror image when the focus is where it was. -/
theorem mirror_of_focus (w : WidgetId) (disabled : Bool) :
    m''.mirror w disabled = { m.mirror w disabled with
      hot := decide (w ∈ m''.hotPath), hotDirect := decide (m''.hotPath.getLast? = some w)
      active := decide (m''.activeWidget = some w) } := by
  unfold mirror
  rw [hfocused, above_congr hfocused hmap]

end

/-- The mirror image when only the focus moved. -/
theorem mirror_of_roles (hhot : m''.hotPath = m.hotPath) (hactive : m''.activeWidget = m.activeWidget) (w : WidgetId)
    (disabled : Bool) :
    m''.mirror w disabled = { m.mirror w disabled with
      focused := decide (m''.focusedWidget = some w), focusWithin := decide (w ∈ m''.above) } := by
  unfold mirror
  rw [hhot, hactive]

section

variable (hm : Mirrors m fm)
include hm

/-- A registration finds no role waiting but that of an ancestor of the focused widget. -/
theorem mirrors_registerWidget_iff (id : WidgetId) :
    Mirrors (m.registerWidget id) fm ↔ m.isRegistered id = true ∨ id ∉ m.above := by
  unfold registerWidget
  by_cases hreg : m.isRegistered id = true
  · rw [if_pos hreg]
    exact ⟨fun _ => .inl hreg, fun _ => hm⟩
  · rw [if_neg hreg]
    have hget : ∀ w, (emit { m with states := m.states.insert id {} } (.widgetAdded id)).states.get w
        = if w = id then some {} else m.states.get w := fun w => Table.get_insert ..
    have hkeeps : ∀ w, m.isRegistered w = true →
        (emit { m with states := m.states.insert id {} } (.widgetAdded id)).isRegistered w = true := by
      intro w hw
      unfold isRegistered at hw ⊢
      rw [hget]
      split
      · rfl
      · exact hw
    constructor
    · intro hm'
      right
      have hnew := congrArg InteractionState.focusWithin (hm'.states id {} (by rw [hget, if_pos rfl]))
      intro habove
      have htrue : (mirror (emit { m with states := m.states.insert id {} } (.widgetAdded id)) id false).focusWithin
          = true := decide_eq_true habove
      rw [htrue] at hnew
      cases hnew
    · intro hguard
      have habove := hguard.resolve_left hreg
      refine ⟨?_, fun w hw => hkeeps w (hm.hotPath w hw), fun w hw => hkeeps w (hm.active w hw),
        fun w hw => ⟨hkeeps w (hm.focused w hw).1, (hm.focused w hw).2⟩, hm.focus⟩
      intro w s hs
      rw [hget] at hs
      split at hs
      · next hid =>
        subst hid
        obtain rfl := Option.some.inj hs
        -- an unregistered widget holds no role
        have hhot : w ∉ m.hotPath := fun hw => hreg (hm.hotPath w hw)
        have hlast : m.hotPath.getLast? ≠ some w := fun hw => hhot (mem_of_getLast? hw)
        have hactive : m.activeWidget ≠ some w := fun hw => hreg (hm.active w hw)
        have hfocused : m.focusedWidget ≠ some w := fun hw => hreg (hm.focused w hw).1
        show ({} : InteractionState) = m.mirror w false
        simp [mirror, hhot, hlast, hactive, hfocused, habove]
      · exact hm.states w s hs

/-- Edits that follow a change of the hot path or the active widget: the focus is where it was. -/
theorem Mirrors.of_edits (he : Edits f m m') (hstates : m''.states = m'.states)
    (hfocused : m''.focusedWidget = m.focusedWidget) (hmap : m''.parentMap = m.parentMap)
    (hmirror : ∀ w disabled, f w (m.mirror w disabled) = { m.mirror w (f w (m.mirror w disabled)).disabled with
      hot := decide (w ∈ m''.hotPath), hotDirect := decide (m''.hotPath.getLast? = some w)
      active := decide (m''.activeWidget = some w) })
    (hhot : ∀ w ∈ m''.hotPath, m.isRegistered w = true)
    (hactive : ∀ w, m''.activeWidget = some w → m.isRegistered w = true) : Mirrors m'' fm := by
  refine hm.of_refocuses he.toRefocuses hstates ?_ hhot hactive ?_ (hm.focus.trans hfocused.symm)
  · intro w disabled
    rw [mirror_of_focus hfocused hmap]
    exact hmirror w disabled
  · intro w hw
    unfold ancestors
    rw [hmap]
    exact hm.focused w (hfocused ▸ hw)

/-- A new hot path may hold registered widgets only. -/
theorem mirrors_updateHotPath_iff (newPath : List WidgetId) :
    Mirrors (m.updateHotPath newPath).1 fm ↔ ∀ w ∈ newPath, m.isRegistered w = true := by
  obtain ⟨m₁, he, heq⟩ := m.updateHotPath_spec newPath
  rw [heq]
  constructor
  · intro hm' w hw
    rw [← he.isRegistered]
    exact hm'.hotPath w hw
  · intro hguard
    refine hm.of_edits he rfl he.focusedWidget he.parentMap ?_ hguard ?_
    · intro w disabled
      have hlast : newPath.getLast? = some w → w ∈ newPath := mem_of_getLast?
      have hlast' : m.hotPath.getLast? = some w → w ∈ m.hotPath := mem_of_getLast?
      by_cases hnew : w ∈ newPath
      · simp [mirror, hnew, he.activeWidget]
      · have hend : newPath.getLast? ≠ some w := fun h => hnew (hlast h)
        by_cases hold : w ∈ m.hotPath
        · simp [mirror, hnew, hold, hend, he.activeWidget]
        · have hend' : m.hotPath.getLast? ≠ some w := fun h => hold (hlast' h)
          simp [mirror, hnew, hold, hend, hend', he.activeWidget]
    · intro w hw
      exact hm.active w (he.activeWidget ▸ hw)

/-- Only a registered widget may be made active. -/
theorem mirrors_setActive_iff (id : WidgetId) : Mirrors (m.setActive id).1 fm ↔ m.isRegistered id = true := by
  rcases m.setActive_spec id with ⟨hactive, heq⟩ | ⟨hother, m₁, he, heq⟩
  · rw [heq]
    exact ⟨fun _ => hm.active id hactive, fun _ => hm⟩
  · rw [heq]
    constructor
    · intro hm'
      rw [← he.isRegistered]
      exact hm'.active id rfl
    · intro hguard
      refine hm.of_edits he rfl he.focusedWidget he.parentMap ?_ ?_ ?_
      · intro w disabled
        by_cases hid : w = id
        · simp [mirror, hid, he.hotPath]
        · by_cases hold : m.activeWidget = some w <;> simp [mirror, hid, hold, Ne.symm, he.hotPath]
      · intro w hw
        exact hm.hotPath w (he.hotPath ▸ hw)
      · intro w hw
        obtain rfl := Option.some.inj hw
        exact hguard

theorem mirrors_clearActive : Mirrors m.clearActive.1 fm := by
  obtain ⟨m₁, he, heq⟩ := m.clearActive_spec
  rw [heq]
  refine hm.of_edits he rfl he.focusedWidget he.parentMap ?_ ?_ fun w hw => by cases hw
  · intro w disabled
    by_cases hold : m.activeWidget = some w <;> simp [mirror, hold, he.hotPath]
  · intro w hw
    exact hm.hotPath w (he.hotPath ▸ hw)

theorem mirrors_setDisabled (id : WidgetId) (disabled : Bool) : Mirrors (m.setDisabled id disabled).1 fm := by
  have he := m.setDisabled_spec id disabled
  refine hm.of_edits he rfl he.focusedWidget he.parentMap ?_ ?_ ?_
  · intro w disabled'
    by_cases hid : w = id <;> simp [mirror, hid, he.hotPath, he.activeWidget]
  · intro w hw
    exact hm.hotPath w (he.hotPath ▸ hw)
  · intro w hw
    exact hm.active w (he.activeWidget ▸ hw)

end

/-! ## The focus -/

variable (hm : Mirrors m fm)
include hm

theorem Mirrors.aboveOf_focused : m.aboveOf m.focusedWidget = some m.above := by
  unfold above
  cases hf : m.focusedWidget with
  | none => rfl
  | some w =>
    obtain ⟨ids, hids⟩ := Option.isSome_iff_exists.mp (hm.focused w hf).2
    show m.ancestors w = some ((m.ancestors w).getD [])
    rw [hids]
    rfl

/-- The focus may go to a registered widget whose chain of ancestors ends. -/
theorem mirrors_requestFocus_iff (id : WidgetId) : (∃ r, m.requestFocus id fm = some r ∧ Mirrors r.1.1 r.1.2)
      ↔ m.isRegistered id = true ∧ (m.ancestors id).isSome := by
  by_cases hsame : m.focusedWidget = some id
  · refine ⟨fun _ => hm.focused id hsame, fun _ => ⟨((m, fm), []), ?_, hm⟩⟩
    unfold requestFocus
    rw [if_pos hsame]
  rcases requestFocus_spec fm hsame hm.aboveOf_focused with
    ⟨hnone, hstuck⟩ | ⟨after, m', changed, hafter, hmoved, hid, he⟩
  · rw [hstuck, hnone]
    simp
  · rw [hmoved, hafter]
    constructor
    · rintro ⟨r, hr, hm'⟩
      obtain rfl := Option.some.inj hr
      refine ⟨?_, rfl⟩
      have hreg := (hm'.focused id hid).1
      unfold isRegistered at hreg ⊢
      rw [he.states, Option.isSome_map] at hreg
      exact hreg
    · rintro ⟨hreg, -⟩
      have habove : m'.above = after := by
        unfold above
        rw [hid, Option.bind_some, he.ancestors, hafter]
        rfl
      refine ⟨_, rfl, hm.of_refocuses he rfl ?_ ?_ ?_ ?_ hid.symm⟩
      · intro w disabled
        rw [mirror_of_roles he.hotPath he.activeWidget, habove, hid]
        by_cases hw : w = id
        · subst hw
          by_cases hnew : w ∈ after
          · simp [mirror]
          · by_cases hold : w ∈ m.above <;> simp [mirror, hnew]
        · by_cases hf : m.focusedWidget = some w
          · by_cases hnew : w ∈ after
            · simp [mirror, hw, Ne.symm]
            · by_cases hold : w ∈ m.above <;> simp [mirror, hw, Ne.symm, hnew]
          · by_cases hnew : w ∈ after
            · simp [mirror, hw, Ne.symm]
            · by_cases hold : w ∈ m.above <;> simp [mirror, hw, Ne.symm, hnew]
      · intro w hw
        exact hm.hotPath w (he.hotPath ▸ hw)
      · intro w hw
        exact hm.active w (he.activeWidget ▸ hw)
      · intro w hw
        rw [hid] at hw
        obtain rfl := Option.some.inj hw
        rw [he.ancestors, hafter]
        exact ⟨hreg, rfl⟩

theorem mirrors_clearFocus : ∃ r, m.clearFocus fm = some r ∧ Mirrors r.1.1 r.1.2 := by
  obtain ⟨m', changed, hcleared, hnone, he⟩ := clearFocus_spec fm hm.aboveOf_focused
  have habove : m'.above = [] := by
    unfold above
    rw [hnone]
    rfl
  refine ⟨_, hcleared, hm.of_refocuses he rfl ?_ ?_ ?_ ?_ hnone.symm⟩
  · intro w disabled
    rw [mirror_of_roles he.hotPath he.activeWidget, habove, hnone]
    by_cases hf : m.focusedWidget = some w
    · by_cases hold : w ∈ m.above <;> simp [mirror]
    · by_cases hold : w ∈ m.above <;> simp [mirror]
  · intro w hw
    exact hm.hotPath w (he.hotPath ▸ hw)
  · intro w hw
    exact hm.active w (he.activeWidget ▸ hw)
  · intro w hw
    rw [hnone] at hw
    cases hw

/-- A new parent map may not change the registered ancestors of the focused widget. -/
theorem mirrors_setParentMap_iff (map : Table WidgetId WidgetId) :
    Mirrors (m.setParentMap map) fm
      ↔ ∀ f, m.focusedWidget = some f → ∃ after, map.climb f = some after
        ∧ ∀ w, m.isRegistered w = true → (w ∈ after ↔ w ∈ m.above) := by
  constructor
  · intro hm' f hf
    obtain ⟨after, hafter⟩ := Option.isSome_iff_exists.mp (hm'.focused f hf).2
    have habove : (m.setParentMap map).above = after := by
      show (m.focusedWidget.bind map.climb).getD [] = _
      rw [hf, Option.bind_some]
      have hafter : map.climb f = some after := hafter
      rw [hafter]
      rfl
    refine ⟨after, hafter, fun w hw => ?_⟩
    obtain ⟨s, hs⟩ := isRegistered_iff.mp hw
    have hold := congrArg InteractionState.focusWithin (hm.states w s hs)
    have hnew := congrArg InteractionState.focusWithin (hm'.states w s hs)
    rw [hold] at hnew
    have hsame : decide (w ∈ m.above) = decide (w ∈ (m.setParentMap map).above) := hnew
    rw [habove] at hsame
    exact (decide_eq_decide.mp hsame).symm
  · intro hguard
    refine ⟨?_, hm.hotPath, hm.active, ?_, hm.focus⟩
    · intro w s hs
      have hreg : m.isRegistered w = true := isRegistered_iff.mpr ⟨s, hs⟩
      have hmirrored := hm.states w s hs
      rw [mirror_of_roles (rfl : (m.setParentMap map).hotPath = m.hotPath) rfl]
      have hsame : w ∈ (m.setParentMap map).above ↔ w ∈ m.above := by
        show w ∈ (m.focusedWidget.bind map.climb).getD [] ↔ _
        cases hf : m.focusedWidget with
        | none =>
          unfold above
          rw [hf]
          exact Iff.rfl
        | some f =>
          obtain ⟨after, hafter, hiff⟩ := hguard f hf
          rw [Option.bind_some, hafter]
          exact hiff w hreg
      rw [decide_eq_decide.mpr hsame]
      exact hmirrored
    · intro f hf
      obtain ⟨after, hafter, -⟩ := hguard f hf
      exact ⟨(hm.focused f hf).1, by show (map.climb f).isSome; rw [hafter]; rfl⟩

end InteractionManager

/-! ## Every call -/

/-- The interaction manager and the focus manager that is passed to its focus calls. -/
structure WidgetRoles where
  interaction : InteractionManager := {}
  focus : FocusManager := {}

/-- The calls. -/
inductive InteractionOp where
  | registerWidget (id : WidgetId)
  | deregisterWidget (id : WidgetId)
  | gcStaleWidgets (validIds : List WidgetId) (order : KeyOrder)
  | updateHotPath (newPath : List WidgetId)
  | setActive (id : WidgetId)
  | clearActive
  | requestFocus (id : WidgetId)
  | clearFocus
  | setParentMap (map : Table WidgetId WidgetId)
  | setDisabled (id : WidgetId) (disabled : Bool)

namespace InteractionOp

/-- Performs a call; `none` when it does not return. -/
def apply (r : WidgetRoles) : InteractionOp → Option WidgetRoles
  | registerWidget id => some { r with interaction := r.interaction.registerWidget id }
  | deregisterWidget id => (r.interaction.deregisterWidget id).map fun res => { r with interaction := res.1 }
  | gcStaleWidgets validIds order =>
    (r.interaction.gcStaleWidgets validIds order).map fun res => { r with interaction := res.1 }
  | updateHotPath newPath => some { r with interaction := (r.interaction.updateHotPath newPath).1 }
  | setActive id => some { r with interaction := (r.interaction.setActive id).1 }
  | clearActive => some { r with interaction := r.interaction.clearActive.1 }
  | requestFocus id => (r.interaction.requestFocus id r.focus).map fun res => ⟨res.1.1, res.1.2⟩
  | clearFocus => (r.interaction.clearFocus r.focus).map fun res => ⟨res.1.1, res.1.2⟩
  | setParentMap map => some { r with interaction := r.interaction.setParentMap map }
  | setDisabled id disabled => some { r with interaction := (r.interaction.setDisabled id disabled).1 }

/-- **When a call leaves the managers in agreement.** Roles go to registered widgets only. A widget that is removed is
    not focused, and when it ends the hot path nothing of the path is left. A widget that is registered, and a new parent
    map, change nothing about who is above the focused widget. -/
def Keeps (r : WidgetRoles) : InteractionOp → Prop
  | registerWidget id => r.interaction.isRegistered id = true ∨ id ∉ r.interaction.above
  | deregisterWidget id =>
    r.interaction.focusedWidget ≠ some id
      ∧ (r.interaction.hotPath.getLast? = some id → ∀ x ∈ r.interaction.hotPath, x = id)
  | gcStaleWidgets validIds _ =>
    (∀ w, r.interaction.focusedWidget = some w → w ∈ validIds)
      ∧ ∀ w, r.interaction.hotPath.getLast? = some w → w ∉ validIds → ∀ x ∈ r.interaction.hotPath, x ∉ validIds
  | updateHotPath newPath => ∀ w ∈ newPath, r.interaction.isRegistered w = true
  | setActive id => r.interaction.isRegistered id = true
  | clearActive => True
  | requestFocus id => r.interaction.isRegistered id = true ∧ (r.interaction.ancestors id).isSome
  | clearFocus => True
  | setParentMap map =>
    ∀ f, r.interaction.focusedWidget = some f → ∃ after, map.climb f = some after
      ∧ ∀ w, r.interaction.isRegistered w = true → (w ∈ after ↔ w ∈ r.interaction.above)
  | setDisabled _ _ => True

end InteractionOp

/-- The managers of a run agree; a call that does not return ends it. -/
def Agrees (s : Option WidgetRoles) : Prop := ∃ r, s = some r ∧ r.interaction.Mirrors r.focus

namespace InteractionOp

open InteractionManager

variable {r : WidgetRoles}

theorem agrees_some : Agrees (some r) ↔ r.interaction.Mirrors r.focus :=
  ⟨fun ⟨_, hr, hm⟩ => Option.some.inj hr ▸ hm, fun hm => ⟨r, rfl, hm⟩⟩

theorem agrees_removed {result : Option (InteractionManager × List WidgetId)} {m' : InteractionManager}
    {changed : List WidgetId} (h : result = some (m', changed)) :
    Agrees (result.map fun res => { r with interaction := res.1 }) ↔ m'.Mirrors r.focus := by
  rw [h]
  exact agrees_some

section

variable (hm : r.interaction.Mirrors r.focus)
include hm

theorem agrees_deregisterWidget_iff (id : WidgetId) :
    Agrees (apply r (.deregisterWidget id)) ↔ Keeps r (.deregisterWidget id) := by
  by_cases hf : r.interaction.focusedWidget = some id
  · constructor
    · rintro ⟨r', hr', hm'⟩
      obtain ⟨⟨m', changed⟩, hone, rfl⟩ := Option.map_eq_some_iff.mp hr'
      have hnone := deregisterWidget_focused hf hone
      have hfocus := hm'.focus
      rw [hm.focus, hf] at hfocus
      exact absurd (hfocus.trans hnone) (by simp)
    · exact fun hkeeps => absurd hf hkeeps.1
  · obtain ⟨m', changed, hone, hremoved⟩ := deregisterWidget_spec hf
    refine (agrees_removed hone).trans ((mirrors_removed_iff hm hremoved fun w hw hid => hf (hid ▸ hw)).trans ?_)
    constructor
    · exact fun h => ⟨hf, fun hlast => h id hlast rfl⟩
    · rintro ⟨-, h⟩ w hlast rfl
      exact h hlast

theorem agrees_gcStaleWidgets_iff (validIds : List WidgetId) (order : KeyOrder) :
    Agrees (apply r (.gcStaleWidgets validIds order)) ↔ Keeps r (.gcStaleWidgets validIds order) := by
  have hstale : ∀ w, w ∈ order.list (r.interaction.states.keys.filter (· ∉ validIds))
      ↔ r.interaction.isRegistered w = true ∧ w ∉ validIds := by
    intro w
    rw [order.mem, Finset.mem_filter, Table.mem_keys]
    rfl
  by_cases hf : ∃ w, r.interaction.focusedWidget = some w ∧ w ∉ validIds
  · obtain ⟨f, hf, hgone⟩ := hf
    constructor
    · rintro ⟨r', hr', hm'⟩
      obtain ⟨⟨m', changed⟩, hall, rfl⟩ := Option.map_eq_some_iff.mp hr'
      have hnone := gcSteps_focused (order.nodup _) ((hstale f).mpr ⟨(hm.focused f hf).1, hgone⟩) hf hall
      have hfocus := hm'.focus
      rw [hm.focus, hf] at hfocus
      exact absurd (hfocus.trans hnone) (by simp)
    · exact fun hkeeps => absurd (hkeeps.1 f hf) hgone
  · have hkept : ∀ w, r.interaction.focusedWidget = some w → w ∈ validIds := fun w hw => by
      by_contra hout
      exact hf ⟨w, hw, hout⟩
    obtain ⟨m', changed, hall, hremoved⟩ := @gcSteps_spec r.interaction
      (order.list (r.interaction.states.keys.filter (· ∉ validIds))) []
      fun w hw hfw => ((hstale w).mp hw).2 (hkept w hfw)
    refine (agrees_removed hall).trans ((mirrors_removed_iff hm hremoved fun w hw hid =>
      ((hstale w).mp hid).2 (hkept w hw)).trans ?_)
    -- all widgets of the hot path are registered: those that go are those that are not valid
    constructor
    · intro h
      refine ⟨hkept, fun w hlast hw x hx => ?_⟩
      exact ((hstale x).mp (h w hlast ((hstale w).mpr ⟨hm.hotPath w (mem_of_getLast? hlast), hw⟩) x hx)).2
    · rintro ⟨-, h⟩ w hlast hw x hx
      exact (hstale x).mpr ⟨hm.hotPath x hx, h w hlast ((hstale w).mp hw).2 x hx⟩

/-- **One call.** Where the managers agree, they agree after it exactly when it meets the condition. -/
theorem agrees_apply_iff (op : InteractionOp) : Agrees (op.apply r) ↔ op.Keeps r := by
  cases op with
  | registerWidget id => exact agrees_some.trans (mirrors_registerWidget_iff hm id)
  | deregisterWidget id => exact agrees_deregisterWidget_iff hm id
  | gcStaleWidgets validIds order => exact agrees_gcStaleWidgets_iff hm validIds order
  | updateHotPath newPath => exact agrees_some.trans (mirrors_updateHotPath_iff hm newPath)
  | setActive id => exact agrees_some.trans (mirrors_setActive_iff hm id)
  | clearActive => exact iff_of_true (agrees_some.mpr (mirrors_clearActive hm)) trivial
  | requestFocus id =>
    refine Iff.trans ?_ (mirrors_requestFocus_iff hm id)
    constructor
    · rintro ⟨r', hr', hm'⟩
      obtain ⟨res, hres, rfl⟩ := Option.map_eq_some_iff.mp hr'
      exact ⟨res, hres, hm'⟩
    · rintro ⟨res, hres, hm'⟩
      exact ⟨_, Option.map_eq_some_iff.mpr ⟨res, hres, rfl⟩, hm'⟩
  | clearFocus =>
    obtain ⟨res, hres, hm'⟩ := mirrors_clearFocus hm
    exact iff_of_true ⟨_, Option.map_eq_some_iff.mpr ⟨res, hres, rfl⟩, hm'⟩ trivial
  | setParentMap map => exact agrees_some.trans (mirrors_setParentMap_iff hm map)
  | setDisabled id disabled => exact iff_of_true (agrees_some.mpr (mirrors_setDisabled hm id disabled)) trivial

end

/-- A call in a run. -/
def step (s : Option WidgetRoles) (op : InteractionOp) : Option WidgetRoles := s.bind fun r => op.apply r

/-- **Every run.** From the empty managers on, the states mirror the facts and both managers know the same focus at
    every point of a run exactly when every call of it meets its condition. -/
theorem agrees_run_iff (ops : List InteractionOp) :
    (∀ n, Agrees (run step (some {}) (ops.take n)))
      ↔ Along step (fun s op => ∀ r, s = some r → op.Keeps r) (some {}) ops := by
  refine along_iff_forall_take (K := fun _ => True) ?_ trivial ?_
  · rintro s op - ⟨r, rfl, hm⟩
    refine ⟨trivial, (agrees_apply_iff hm op).trans ⟨fun h r' hr' => Option.some.inj hr' ▸ h, fun h => h r rfl⟩⟩
  · refine agrees_some.mpr ⟨?_, ?_, ?_, ?_, rfl⟩
    · intro w s hs
      cases hs
    · intro w hw
      cases hw
    · intro w hw
      cases hw
    · intro w hw
      cases hw

/-- The pointer is over a button in a panel and the button is removed: the panel now ends the hot path, and its state
    does not say that it is directly under the pointer. -/
theorem deregister_leaf_disagrees :
    ¬ Agrees (run step (some {}) [.registerWidget 1, .registerWidget 2, .updateHotPath [1, 2], .deregisterWidget 2]) := by
  rintro ⟨r, hr, hm⟩
  have hpath : r.interaction.hotPath = [1] := by
    obtain rfl := Option.some.inj hr
    decide
  have hstate : r.interaction.states.get 1 = some { hot := true } := by
    obtain rfl := Option.some.inj hr
    decide
  have hdirect := congrArg InteractionState.hotDirect (hm.states 1 _ hstate)
  simp [mirror, hpath] at hdirect

end InteractionOp

end OriTerm
