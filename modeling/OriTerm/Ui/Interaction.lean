import OriTerm.Lib.Climb
import OriTerm.Lib.Run

/-!
# `Ui.Interaction` — the interaction manager and what each call does

The framework keeps one `InteractionState` per registered widget, and beside these states the facts they repeat: the
path under the pointer, the widget that captured the mouse, the widget with the keyboard focus. A call changes a fact
and edits the states of the widgets it concerns.

Each call has one lemma here that says what it does to the state of every widget and to the facts
(`updateHotPath_spec`, `requestFocus_spec` and so on); the events and the returned lists of changed widgets are
computed, and used by no proof. The walk up the parent map ends in a map built from a tree of widgets; in a map with
a cycle the loop of the code does not return, and neither does the call (`none`).
-/

namespace OriTerm

open Lib List Option

/-- Unique widget identifier. -/
abbrev WidgetId := Nat

/-- Per-widget interaction state. -/
structure InteractionState where
  hot : Bool := false
  hotDirect : Bool := false
  active : Bool := false
  focused : Bool := false
  focusWithin : Bool := false
  disabled : Bool := false
  deriving DecidableEq, Repr

/-- Events of the interaction state, delivered to the widgets later. -/
inductive LifecycleEvent where
  | hotChanged (widgetId : WidgetId) (isHot : Bool)
  | activeChanged (widgetId : WidgetId) (isActive : Bool)
  | focusChanged (widgetId : WidgetId) (isFocused : Bool)
  | widgetAdded (widgetId : WidgetId)
  | widgetRemoved (widgetId : WidgetId)
  | widgetDisabled (widgetId : WidgetId) (disabled : Bool)
  deriving DecidableEq, Repr

/-- Keyboard focus and the tab order. -/
structure FocusManager where
  focused : Option WidgetId := none
  focusOrder : List WidgetId := []
  deriving DecidableEq, Repr

namespace FocusManager

def setFocus (fm : FocusManager) (id : WidgetId) : FocusManager := { fm with focused := some id }

def clearFocus (fm : FocusManager) : FocusManager := { fm with focused := none }

end FocusManager

/-- The states of all registered widgets and the facts they repeat. -/
structure InteractionManager where
  states : Table WidgetId InteractionState := ∅
  /-- Widgets under the pointer, root first. -/
  hotPath : List WidgetId := []
  activeWidget : Option WidgetId := none
  focusedWidget : Option WidgetId := none
  pendingEvents : List LifecycleEvent := []
  /-- Child to parent, from the last layout. -/
  parentMap : Table WidgetId WidgetId := ∅

/-- The order in which a hash map hands out its keys: any order. -/
structure KeyOrder where
  list : Finset WidgetId → List WidgetId
  mem : ∀ keys w, w ∈ list keys ↔ w ∈ keys
  nodup : ∀ keys, (list keys).Nodup

namespace InteractionManager

variable (acc : InteractionManager × List WidgetId) (value : Bool)

/-! ## The code -/

/-- `if let Some(state) = self.states.get_mut(&id) { … }`. -/
def edit (m : InteractionManager) (id : WidgetId) (f : InteractionState → InteractionState) : InteractionManager :=
  { m with states := m.states.modify id f }

def emit (m : InteractionManager) (e : LifecycleEvent) : InteractionManager :=
  { m with pendingEvents := m.pendingEvents ++ [e] }

def isRegistered (m : InteractionManager) (id : WidgetId) : Bool := (m.states.get id).isSome

/-- Registers a widget; nothing happens the second time. -/
def registerWidget (m : InteractionManager) (id : WidgetId) : InteractionManager :=
  if m.isRegistered id then m else emit { m with states := m.states.insert id {} } (.widgetAdded id)

/-- All ancestors of a widget, the parent first. -/
def ancestors (m : InteractionManager) (id : WidgetId) : Option (List WidgetId) := m.parentMap.climb id

/-- Sets `focus_within` of the widgets to `value`, and collects those that it changes. -/
def markFocusWithin (ids : List WidgetId) (acc : InteractionManager × List WidgetId) :
    InteractionManager × List WidgetId :=
  ids.foldl (fun (m, changed) id =>
    if (m.states.get id).any (·.focusWithin != value) then
      (m.edit id fun s => { s with focusWithin := value }, changed ++ [id])
    else (m, changed)) acc

/-- A removed widget leaves the hot path. -/
def dropHot (m : InteractionManager) (id : WidgetId) : InteractionManager :=
  if id ∈ m.hotPath then emit { m with hotPath := m.hotPath.filter (· ≠ id) } (.hotChanged id false) else m

/-- A removed widget loses the mouse capture. -/
def dropActive (m : InteractionManager) (id : WidgetId) : InteractionManager :=
  if m.activeWidget = some id then emit { m with activeWidget := none } (.activeChanged id false) else m

/-- A removed widget loses the focus, and its ancestors `focus_within`. -/
def dropFocus (m : InteractionManager) (id : WidgetId) : Option (InteractionManager × List WidgetId) :=
  if m.focusedWidget = some id then
    (m.ancestors id).map fun ids =>
      let (m, changed) := markFocusWithin false ids ({ m with focusedWidget := none }, [id])
      (m.emit (.focusChanged id false), changed)
  else some (m, [id])

/-- Removes a widget, and clears the roles it held. -/
def deregisterWidget (m : InteractionManager) (id : WidgetId) : Option (InteractionManager × List WidgetId) :=
  let m := { m with states := m.states.erase id }
  (((m.dropHot id).dropActive id).dropFocus id).map fun (m, changed) => (m.emit (.widgetRemoved id), changed)

/-- The widgets that leave the hot path. -/
def leaveHotPath (newPath : List WidgetId) (acc : InteractionManager × List WidgetId) (id : WidgetId) :
    InteractionManager × List WidgetId :=
  if id ∈ newPath then acc
  else
    ((acc.1.edit id fun s => { s with hot := false, hotDirect := false }).emit (.hotChanged id false), acc.2 ++ [id])

/-- A widget of the new hot path; the last one is directly under the pointer. -/
def enterHotPath (oldPath : List WidgetId) (len : Nat) (acc : InteractionManager × List WidgetId)
    (entry : WidgetId × Nat) : InteractionManager × List WidgetId :=
  let m := acc.1.edit entry.1 fun s => { s with hot := true, hotDirect := entry.2 == len - 1 }
  if entry.1 ∈ oldPath then (m, acc.2) else (m.emit (.hotChanged entry.1 true), acc.2 ++ [entry.1])

/-- The pointer moved: the widgets under it, root first. -/
def updateHotPath (m : InteractionManager) (newPath : List WidgetId) : InteractionManager × List WidgetId :=
  let left := m.hotPath.foldl (leaveHotPath newPath) (m, [])
  let entered := newPath.zipIdx.foldl (enterHotPath m.hotPath newPath.length) left
  ({ entered.1 with hotPath := newPath }, entered.2)

/-- Releases the mouse capture of `prev`. -/
def deactivate (m : InteractionManager) (prev : WidgetId) : InteractionManager :=
  (m.edit prev fun s => { s with active := false }).emit (.activeChanged prev false)

/-- Gives the mouse capture to `id`. -/
def activate (m : InteractionManager) (id : WidgetId) : InteractionManager :=
  (edit { m with activeWidget := some id } id fun s => { s with active := true }).emit (.activeChanged id true)

/-- Sets a widget as active. -/
def setActive (m : InteractionManager) (id : WidgetId) : InteractionManager × List WidgetId :=
  match m.activeWidget with
  | some prev => if prev = id then (m, []) else ((m.deactivate prev).activate id, [prev, id])
  | none => (m.activate id, [id])

/-- Clears the active state. -/
def clearActive (m : InteractionManager) : InteractionManager × Option WidgetId :=
  match m.activeWidget with
  | some prev => (deactivate { m with activeWidget := none } prev, some prev)
  | none => (m, none)

/-- Sets `focus_within` of all ancestors of a widget, if there is one. -/
def markAncestors (widget : Option WidgetId) (acc : InteractionManager × List WidgetId) :
    Option (InteractionManager × List WidgetId) :=
  match widget with
  | some id => (acc.1.ancestors id).map fun ids => markFocusWithin value ids acc
  | none => some acc

/-- Moves `focus_within` from the ancestors of `old` to those of `new`. -/
def collectFocusWithinChanges (old new : Option WidgetId) (acc : InteractionManager × List WidgetId) :
    Option (InteractionManager × List WidgetId) :=
  (markAncestors false old acc).bind (markAncestors true new)

/-- The focused widget loses its flag. -/
def unfocus (old : Option WidgetId) : InteractionManager × List WidgetId :=
  match old with
  | some id =>
    ((acc.1.edit id fun s => { s with focused := false }).emit (.focusChanged id false), acc.2 ++ [id])
  | none => acc

/-- Moves the keyboard focus. -/
def requestFocus (m : InteractionManager) (id : WidgetId) (fm : FocusManager) :
    Option ((InteractionManager × FocusManager) × List WidgetId) :=
  let old := m.focusedWidget
  if old = some id then some ((m, fm), [])
  else
    let (m, changed) := unfocus (m, []) old
    let m := (edit { m with focusedWidget := some id } id fun s => { s with focused := true }).emit (.focusChanged id true)
    (collectFocusWithinChanges old (some id) (m, changed ++ [id])).map fun (m, changed) =>
      ((m, fm.setFocus id), changed)

/-- Removes the keyboard focus. -/
def clearFocus (m : InteractionManager) (fm : FocusManager) :
    Option ((InteractionManager × FocusManager) × List WidgetId) :=
  let old := m.focusedWidget
  (collectFocusWithinChanges old none (unfocus ({ m with focusedWidget := none }, []) old)).map fun (m, changed) =>
    ((m, fm.clearFocus), changed)

/-- Sets the disabled flag; a registered widget that has it already is left alone. -/
def setDisabled (m : InteractionManager) (id : WidgetId) (disabled : Bool) : InteractionManager × Option WidgetId :=
  if (m.states.get id).any (·.disabled == disabled) then (m, none)
  else ((m.edit id fun s => { s with disabled := disabled }).emit (.widgetDisabled id disabled), some id)

/-- One removal of a collection. -/
def gcStep (id : WidgetId) : Option (InteractionManager × List WidgetId) :=
  (acc.1.deregisterWidget id).map fun (m, more) => (m, acc.2 ++ more)

/-- Removes all registrations that are not in `validIds`. -/
def gcStaleWidgets (m : InteractionManager) (validIds : List WidgetId) (order : KeyOrder) :
    Option (InteractionManager × List WidgetId) :=
  (order.list (m.states.keys.filter (· ∉ validIds))).foldlM gcStep (m, [])

def setParentMap (m : InteractionManager) (map : Table WidgetId WidgetId) : InteractionManager :=
  { m with parentMap := map }

/-! ## What a call does to the states -/

/-- The state of every registered widget goes through `f`; the focus may move. -/
structure Refocuses (f : WidgetId → InteractionState → InteractionState) (m m' : InteractionManager) : Prop where
  states : ∀ w, m'.states.get w = (m.states.get w).map (f w)
  hotPath : m'.hotPath = m.hotPath
  activeWidget : m'.activeWidget = m.activeWidget
  parentMap : m'.parentMap = m.parentMap

/-- The state of every registered widget goes through `f`; the facts stay. -/
structure Edits (f : WidgetId → InteractionState → InteractionState) (m m' : InteractionManager) : Prop
    extends Refocuses f m m' where
  focusedWidget : m'.focusedWidget = m.focusedWidget

variable {f g : WidgetId → InteractionState → InteractionState} {m m' m'' : InteractionManager} {id : WidgetId}

theorem Refocuses.trans (h : Refocuses f m m') (h' : Refocuses g m' m'') : Refocuses (fun w s => g w (f w s)) m m'' :=
  { states := fun w => by rw [h'.states, h.states, Option.map_map]; rfl
    hotPath := h'.hotPath.trans h.hotPath
    activeWidget := h'.activeWidget.trans h.activeWidget
    parentMap := h'.parentMap.trans h.parentMap }

theorem Refocuses.congr (h : Refocuses f m m') (hfg : ∀ w s, f w s = g w s) : Refocuses g m m' := by
  obtain rfl : f = g := funext fun w => funext fun s => hfg w s
  exact h

theorem refocuses_set (m : InteractionManager) (focused : Option WidgetId) :
    Refocuses (fun _ s => s) m { m with focusedWidget := focused } :=
  ⟨fun w => by simp, rfl, rfl, rfl⟩

theorem Edits.refl (m : InteractionManager) : Edits (fun _ s => s) m m :=
  ⟨⟨fun w => by simp, rfl, rfl, rfl⟩, rfl⟩

theorem Edits.trans (h : Edits f m m') (h' : Edits g m' m'') : Edits (fun w s => g w (f w s)) m m'' :=
  ⟨h.toRefocuses.trans h'.toRefocuses, h'.focusedWidget.trans h.focusedWidget⟩

theorem Edits.congr (h : Edits f m m') (hfg : ∀ w s, f w s = g w s) : Edits g m m' :=
  ⟨h.toRefocuses.congr hfg, h.focusedWidget⟩

theorem Edits.emit (h : Edits f m m') (e : LifecycleEvent) : Edits f m (m'.emit e) :=
  ⟨⟨h.states, h.hotPath, h.activeWidget, h.parentMap⟩, h.focusedWidget⟩

/-- An edit of one state. -/
theorem edits_edit (m : InteractionManager) (id : WidgetId) (f : InteractionState → InteractionState) :
    Edits (fun w s => if w = id then f s else s) m (m.edit id f) := by
  refine ⟨⟨fun w => ?_, rfl, rfl, rfl⟩, rfl⟩
  show (m.states.modify id f).get w = _
  rw [Table.get_modify]
  by_cases hw : w = id
  · rw [hw]
    simp
  · simp [hw]

/-- `focus_within` becomes `value` for the given widgets, registered ones only. -/
theorem edits_markFocusWithin (ids : List WidgetId) (acc : InteractionManager × List WidgetId) :
    Edits (fun w s => if w ∈ ids then { s with focusWithin := value } else s) acc.1 (markFocusWithin value ids acc).1 := by
  induction ids generalizing acc with
  | nil => exact (Edits.refl acc.1).congr fun w s => by simp
  | cons id ids ih =>
    -- an entry that has the value already is the same with it
    have hone : Edits (fun w s => if w = id then { s with focusWithin := value } else s) acc.1
        (if (acc.1.states.get id).any (·.focusWithin != value) then
          (acc.1.edit id fun s => { s with focusWithin := value }, acc.2 ++ [id])
        else (acc.1, acc.2)).1 := by
      split
      · exact edits_edit ..
      · next hsame =>
        refine ⟨⟨fun w => ?_, rfl, rfl, rfl⟩, rfl⟩
        cases hw : acc.1.states.get w with
        | none => rfl
        | some s =>
          by_cases hid : w = id
          · subst hid
            rw [hw] at hsame
            have hvalue : s.focusWithin = value := by simpa using hsame
            simp [← hvalue]
          · simp [hid]
    refine (hone.trans (ih _)).congr fun w s => ?_
    by_cases hid : w = id <;> simp [hid]

theorem edits_leaveHotPath (newPath oldPath : List WidgetId) (acc : InteractionManager × List WidgetId) :
    Edits (fun w s => if w ∈ oldPath ∧ w ∉ newPath then { s with hot := false, hotDirect := false } else s) acc.1
      (oldPath.foldl (leaveHotPath newPath) acc).1 := by
  induction oldPath generalizing acc with
  | nil => exact (Edits.refl acc.1).congr fun w s => by simp
  | cons id oldPath ih =>
    have hone : Edits (fun w s => if w = id ∧ w ∉ newPath then { s with hot := false, hotDirect := false } else s) acc.1
        (leaveHotPath newPath acc id).1 := by
      unfold leaveHotPath
      split
      · next hstays => exact (Edits.refl acc.1).congr fun w s => by rw [if_neg]; rintro ⟨rfl, hout⟩; exact hout hstays
      · next hout =>
        refine ((edits_edit acc.1 id _).emit _).congr fun w s => ?_
        by_cases hid : w = id
        · subst hid
          simp [hout]
        · simp [hid]
    refine (hone.trans (ih _)).congr fun w s => ?_
    by_cases hid : w = id
    · subst hid
      by_cases hout : w ∈ newPath <;> simp [hout]
    · simp [hid]

/-- The widgets of a path become hot; the one that ends the path is directly so. -/
theorem edits_enterHotPath (oldPath path rest : List WidgetId) (acc : InteractionManager × List WidgetId) :
    Edits (fun w s => if w ∈ path then { s with hot := true, hotDirect := decide (rest = [] ∧ path.getLast? = some w) } else s)
      acc.1 (path.zipIdx.foldl (enterHotPath oldPath (path ++ rest).length) acc).1 := by
  induction path using List.reverseRecOn generalizing rest with
  | nil => exact (Edits.refl acc.1).congr fun w s => by simp
  | append_singleton path id ih =>
    rw [zipIdx_append, foldl_append, append_assoc, singleton_append]
    have hlast : (0 + path.length == (path ++ id :: rest).length - 1) = decide (rest = []) := by
      rw [length_append, length_cons, Bool.eq_iff_iff, beq_iff_eq, decide_eq_true_eq,
        ← length_eq_zero_iff]
      omega
    generalize hacc : path.zipIdx.foldl (enterHotPath oldPath (path ++ id :: rest).length) acc = acc'
    have hbefore := ih (id :: rest)
    rw [hacc] at hbefore
    have hone : Edits (fun w s => if w = id then { s with hot := true, hotDirect := decide (rest = []) } else s) acc'.1
        (enterHotPath oldPath (path ++ id :: rest).length acc' (id, 0 + path.length)).1 := by
      unfold enterHotPath
      rw [hlast]
      split
      · exact edits_edit ..
      · exact (edits_edit ..).emit _
    refine (hbefore.trans hone).congr fun w s => ?_
    by_cases hid : w = id
    · subst hid
      by_cases hpath : w ∈ path <;> simp [hpath]
    · have hne : id ≠ w := Ne.symm hid
      simp [hid, hne]

/-- **The hot path moves**: who is on it is hot, the last one directly, and who left it is neither. -/
theorem updateHotPath_spec (m : InteractionManager) (newPath : List WidgetId) :
    ∃ m₁, Edits (fun w s =>
        if w ∈ newPath then { s with hot := true, hotDirect := decide (newPath.getLast? = some w) }
        else if w ∈ m.hotPath then { s with hot := false, hotDirect := false } else s) m m₁
      ∧ (m.updateHotPath newPath).1 = { m₁ with hotPath := newPath } := by
  have hleft := edits_leaveHotPath newPath m.hotPath (m, [])
  have hentered := edits_enterHotPath m.hotPath newPath [] (m.hotPath.foldl (leaveHotPath newPath) (m, []))
  rw [append_nil] at hentered
  refine ⟨_, (hleft.trans hentered).congr fun w s => ?_, rfl⟩
  by_cases hnew : w ∈ newPath <;> simp [hnew]

/-- **The mouse capture moves** to `id`, and only there. -/
theorem setActive_spec (m : InteractionManager) (id : WidgetId) :
    (m.activeWidget = some id ∧ (m.setActive id).1 = m)
      ∨ m.activeWidget ≠ some id ∧ ∃ m₁, Edits (fun w s =>
          if w = id then { s with active := true }
          else if m.activeWidget = some w then { s with active := false } else s) m m₁
        ∧ (m.setActive id).1 = { m₁ with activeWidget := some id } := by
  unfold setActive
  cases hactive : m.activeWidget with
  | none =>
    right
    refine ⟨by simp, _, ((edits_edit m id _).emit _).congr fun w s => ?_, rfl⟩
    simp
  | some prev =>
    by_cases hsame : prev = id
    · left
      exact ⟨by rw [hsame], by simp [hsame]⟩
    · right
      refine ⟨by simpa using hsame, _, ((((edits_edit m prev fun s => { s with active := false }).emit _).trans
        (edits_edit _ id _)).emit _).congr fun w s => ?_, by simp [hsame]; rfl⟩
      by_cases hid : w = id
      · subst hid
        simp [Ne.symm hsame]
      · simp [hid, eq_comm]

/-- **The mouse capture is released.** -/
theorem clearActive_spec (m : InteractionManager) :
    ∃ m₁, Edits (fun w s => if m.activeWidget = some w then { s with active := false } else s) m m₁
      ∧ m.clearActive.1 = { m₁ with activeWidget := none } := by
  unfold clearActive
  cases hactive : m.activeWidget with
  | none =>
    refine ⟨m, (Edits.refl m).congr fun w s => by simp, ?_⟩
    conv_rhs => rw [← hactive]
  | some prev =>
    refine ⟨_, ((edits_edit m prev fun s => { s with active := false }).emit (.activeChanged prev false)).congr
      fun w s => ?_, rfl⟩
    simp [eq_comm]

theorem setDisabled_spec (m : InteractionManager) (id : WidgetId) (disabled : Bool) :
    Edits (fun w s => if w = id then { s with disabled := disabled } else s) m (m.setDisabled id disabled).1 := by
  unfold setDisabled
  split
  · next hsame =>
    refine ⟨⟨fun w => ?_, rfl, rfl, rfl⟩, rfl⟩
    cases hw : m.states.get w with
    | none => rfl
    | some s =>
      by_cases hid : w = id
      · subst hid
        rw [hw] at hsame
        have hvalue : s.disabled = disabled := by simpa using hsame
        simp [← hvalue]
      · simp [hid]
  · exact (edits_edit ..).emit _

theorem Edits.isRegistered (h : Edits f m m') (w : WidgetId) : m'.isRegistered w = m.isRegistered w := by
  unfold InteractionManager.isRegistered
  rw [h.states, isSome_map]

theorem Refocuses.ancestors (h : Refocuses f m m') (w : WidgetId) : m'.ancestors w = m.ancestors w := by
  unfold InteractionManager.ancestors
  rw [h.parentMap]

/-! ## The focus -/

theorem edits_unfocus (old : Option WidgetId) :
    Edits (fun w s => if old = some w then { s with focused := false } else s) acc.1 (unfocus acc old).1 := by
  cases old with
  | none => exact (Edits.refl acc.1).congr fun w s => by simp
  | some id => exact ((edits_edit acc.1 id _).emit _).congr fun w s => by simp [eq_comm]

/-- The chain above an optional widget; there is none above no widget. -/
def aboveOf (m : InteractionManager) (w : Option WidgetId) : Option (List WidgetId) :=
  match w with
  | some w => m.ancestors w
  | none => some []

theorem markAncestors_spec (widget : Option WidgetId) (acc : InteractionManager × List WidgetId) :
    (acc.1.aboveOf widget = none ∧ markAncestors value widget acc = none)
      ∨ ∃ ids acc', acc.1.aboveOf widget = some ids ∧ markAncestors value widget acc = some acc'
        ∧ Edits (fun w s => if w ∈ ids then { s with focusWithin := value } else s) acc.1 acc'.1 := by
  unfold markAncestors aboveOf
  cases widget with
  | none => exact .inr ⟨[], acc, rfl, rfl, (Edits.refl acc.1).congr fun w s => by simp⟩
  | some id =>
    dsimp only
    cases hids : acc.1.ancestors id with
    | none => exact .inl ⟨rfl, rfl⟩
    | some ids => exact .inr ⟨ids, _, rfl, rfl, edits_markFocusWithin value ids acc⟩

theorem Refocuses.aboveOf (h : Refocuses f m m') (w : Option WidgetId) : m'.aboveOf w = m.aboveOf w := by
  cases w with
  | none => rfl
  | some w => exact h.ancestors w

/-- **`focus_within` moves** from the old ancestors to the new ones; without a last ancestor the call does not return. -/
theorem collectFocusWithinChanges_spec {old new : Option WidgetId} {acc : InteractionManager × List WidgetId}
    {before : List WidgetId} (hold : acc.1.aboveOf old = some before) :
    (acc.1.aboveOf new = none ∧ collectFocusWithinChanges old new acc = none)
      ∨ ∃ after acc', acc.1.aboveOf new = some after ∧ collectFocusWithinChanges old new acc = some acc'
        ∧ Edits (fun w s => if w ∈ after then { s with focusWithin := true }
            else if w ∈ before then { s with focusWithin := false } else s) acc.1 acc'.1 := by
  unfold collectFocusWithinChanges
  rcases markAncestors_spec false old acc with ⟨hnone, _⟩ | ⟨ids, acc₁, hids, hclear, he⟩
  · rw [hold] at hnone
    cases hnone
  rw [hold] at hids
  obtain rfl := some.inj hids
  rw [hclear, ← he.aboveOf]
  rcases markAncestors_spec true new acc₁ with ⟨hnone, hstuck⟩ | ⟨after, acc₂, hafter, hset, he'⟩
  · exact .inl ⟨hnone, hstuck⟩
  · refine .inr ⟨after, acc₂, hafter, hset, (he.trans he').congr fun w s => ?_⟩
    by_cases hnew : w ∈ after
    · by_cases hbefore : w ∈ before <;> simp [hbefore]
    · simp [hnew]

/-- **The focus moves** to another widget, unless the chain above it does not end. -/
theorem requestFocus_spec (fm : FocusManager) {before : List WidgetId} (hother : m.focusedWidget ≠ some id)
    (hbefore : m.aboveOf m.focusedWidget = some before) :
    (m.ancestors id = none ∧ m.requestFocus id fm = none)
      ∨ ∃ after m' changed, m.ancestors id = some after
        ∧ m.requestFocus id fm = some ((m', fm.setFocus id), changed) ∧ m'.focusedWidget = some id
        ∧ Refocuses (fun w s => { s with
            focused := if w = id then true else if m.focusedWidget = some w then false else s.focused
            focusWithin := if w ∈ after then true else if w ∈ before then false else s.focusWithin }) m m' := by
  unfold requestFocus
  dsimp only
  rw [if_neg hother]
  have hunfocus := edits_unfocus (m, []) m.focusedWidget
  generalize unfocus (m, []) m.focusedWidget = acc at hunfocus ⊢
  generalize hm₁ : (edit { acc.1 with focusedWidget := some id } id fun s => { s with focused := true }).emit
    (.focusChanged id true) = m₁
  have hfocused : Refocuses (fun w s => { s with
      focused := if w = id then true else if m.focusedWidget = some w then false else s.focused }) m m₁
      ∧ m₁.focusedWidget = some id := by
    rw [← hm₁]
    refine ⟨((hunfocus.toRefocuses.trans (refocuses_set acc.1 (some id))).trans
      ((edits_edit _ id _).emit _).toRefocuses).congr fun w s => ?_, rfl⟩
    by_cases hid : w = id
    · subst hid
      simp [hother]
    · by_cases hold : m.focusedWidget = some w <;> simp [hid, hold]
  obtain ⟨hfocused, hid⟩ := hfocused
  rcases @collectFocusWithinChanges_spec _ (some id) (m₁, acc.2 ++ [id]) _
    ((hfocused.aboveOf _).trans hbefore) with ⟨hnone, hstuck⟩ | ⟨after, acc₂, hafter, hmoved, he⟩
  · exact .inl ⟨(hfocused.aboveOf (some id)).symm.trans hnone, by rw [hstuck]; rfl⟩
  · refine .inr ⟨after, acc₂.1, acc₂.2, (hfocused.aboveOf (some id)).symm.trans hafter, by rw [hmoved]; rfl,
      he.focusedWidget.trans hid, (hfocused.trans he.toRefocuses).congr fun w s => ?_⟩
    by_cases hnew : w ∈ after
    · simp [hnew]
    · by_cases hold : w ∈ before <;> simp [hnew, hold]

/-- **The focus is dropped.** -/
theorem clearFocus_spec (fm : FocusManager) {before : List WidgetId} (hbefore : m.aboveOf m.focusedWidget = some before) :
    ∃ m' changed, m.clearFocus fm = some ((m', fm.clearFocus), changed) ∧ m'.focusedWidget = none
      ∧ Refocuses (fun w s => { s with
          focused := if m.focusedWidget = some w then false else s.focused
          focusWithin := if w ∈ before then false else s.focusWithin }) m m' := by
  unfold clearFocus
  dsimp only
  have hunfocus := edits_unfocus ({ m with focusedWidget := none }, []) m.focusedWidget
  generalize unfocus ({ m with focusedWidget := none }, []) m.focusedWidget = acc at hunfocus ⊢
  have hfocused := (refocuses_set m none).trans hunfocus.toRefocuses
  rcases @collectFocusWithinChanges_spec _ none acc _ ((hfocused.aboveOf _).trans hbefore) with
    ⟨hnone, _⟩ | ⟨after, acc₂, hafter, hmoved, he⟩
  · cases hnone
  · obtain rfl : [] = after := some.inj hafter
    refine ⟨acc₂.1, acc₂.2, by rw [hmoved]; rfl, he.focusedWidget.trans hunfocus.focusedWidget,
      (hfocused.trans he.toRefocuses).congr fun w s => ?_⟩
    by_cases hold : m.focusedWidget = some w
    · by_cases hbefore' : w ∈ before <;> simp [hold, hbefore']
    · by_cases hbefore' : w ∈ before <;> simp [hold, hbefore']

end InteractionManager

end OriTerm
