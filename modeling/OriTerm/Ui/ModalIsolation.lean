import OriTerm.Ui.Overlay

/-!
# `Ui.ModalIsolation` — when a modal overlay shields what is below it

While a modal is up, an event should end with the modal or with an overlay above it. Each routing path looks for a target
in its own way: a mouse capture names an index, a scroll looks for a popup anywhere in the stack, the hit test for an
overlay under the pointer, and what is done outside all overlays depends on the topmost overlay alone.

`KeepsAbove` puts these conditions side by side, as a condition on the stack before the event, and

* **`isolates_run_iff`** — after any run of the manager an event spares everything below the topmost modal, and the
  window, exactly under that condition.
-/

namespace OriTerm

open Lib List

/-! ## The last index with a property -/

section Rposition

variable {α β : Type} {p : α → Bool} {l : List α} {i : Nat}

theorem rposition_eq_none : rposition p l = none ↔ ∀ a ∈ l, p a = false := by
  induction l with
  | nil => simp [rposition]
  | cons a l ih =>
    rw [rposition]
    cases h : rposition p l with
    | some j =>
      have hmem : ¬∀ a ∈ l, p a = false := fun hall => by
        rw [ih.mpr hall] at h
        cases h
      simp only [mem_cons, forall_eq_or_imp, reduceCtorEq, false_iff, not_and]
      exact fun _ => hmem
    | none =>
      have hall := ih.mp h
      by_cases ha : p a = true
      · simp [ha]
      · simp only [ha, Bool.false_eq_true, if_false, mem_cons, forall_eq_or_imp, true_iff]
        exact ⟨by simp, hall⟩

/-- The last index: the element there has the property, and none after it. -/
theorem rposition_eq_some (h : rposition p l = some i) :
    (∃ a, l[i]? = some a ∧ p a = true) ∧ ∀ j a, i < j → l[j]? = some a → p a = false := by
  induction l generalizing i with
  | nil => cases h
  | cons a l ih =>
    rw [rposition] at h
    cases hrest : rposition p l with
    | some k =>
      rw [hrest] at h
      obtain rfl := Option.some.inj h
      obtain ⟨hat, hafter⟩ := ih hrest
      refine ⟨by simp only [getElem?_cons_succ]; exact hat, fun j b hj hb => ?_⟩
      obtain ⟨j, rfl⟩ : ∃ j', j = j' + 1 := ⟨j - 1, by omega⟩
      exact hafter j b (by omega) (by simpa using hb)
    | none =>
      rw [hrest] at h
      simp only at h
      split at h
      · next ha =>
        obtain rfl := Option.some.inj h
        refine ⟨⟨a, rfl, ha⟩, fun j b hj hb => ?_⟩
        obtain ⟨j, rfl⟩ : ∃ j', j = j' + 1 := ⟨j - 1, by omega⟩
        exact rposition_eq_none.mp hrest b (mem_of_getElem? hb)
      · cases h

theorem rposition_lt (h : rposition p l = some i) : i < l.length := by
  obtain ⟨⟨a, ha, _⟩, _⟩ := rposition_eq_some h
  exact (List.getElem?_eq_some_iff.mp ha).1

theorem rposition_map (f : β → α) (l : List β) : rposition p (l.map f) = rposition (p ∘ f) l := by
  induction l with
  | nil => rfl
  | cons b l ih =>
    rw [map_cons, rposition, ih]
    rfl

end Rposition

variable {F : Type} {K : OverlayKit F} {E : LayoutEngine K.toToolkit}

/-! ## What an event may do -/

/-- What an event could change of an overlay, or name. -/
def Overlay.content (o : Overlay E) : OverlayId × OverlayKind × Widget K.toToolkit := (o.id, o.kind, o.widget)

/-- The overlay that a result names. -/
def OverlayEventResult.names : OverlayEventResult K → Option OverlayId
  | .delivered id _ => some id
  | .dismissed id => some id
  | .blocked | .passThrough => none

/-- An event that the manager routes. -/
inductive UiEvent (F : Type) where
  | mouse (event : MouseEvent F)
  | hover (point : Point F)
  | key (event : KeyEvent)
  | keyWithKeymap (event : KeyEvent) (keymap : List KeyBinding)

/-- The event spares the window and the overlays below an index of the stack: it is not passed through, it names none of
    them, and leaves them as they were. -/
structure Spares (i : Nat) (before after : OverlayManager E) (result : OverlayEventResult K) : Prop where
  stops : result ≠ .passThrough
  names : ∀ o ∈ before.overlays.take i, result.names ≠ some o.id
  lower : (after.overlays.take i).map Overlay.content = (before.overlays.take i).map Overlay.content

namespace OverlayManager

/-- The index of the topmost modal. -/
def modalIndex (m : OverlayManager E) : Option Nat := rposition (·.kind = .modal) m.overlays

/-- The topmost overlay is a popup. -/
def topmostIsPopup (m : OverlayManager E) : Bool := m.overlays.getLast?.any (·.kind = .popup)

section Routing

variable [Zero F] [Add F] [Sub F] [LT F] [LE F] [DecidableLT F] [DecidableLE F]

def route (m : OverlayManager E) (now : Nat) : UiEvent F → OverlayManager E × OverlayEventResult K
  | .mouse event => m.processMouseEvent event now
  | .hover point => m.processHoverEvent point
  | .key event => m.processKeyEvent event now
  | .keyWithKeymap event keymap => m.processKeyEventWithKeymap event keymap now

/-- **Modal isolation**: an event spares the window and everything below the topmost modal. -/
def Isolates (m : OverlayManager E) (now : Nat) (e : UiEvent F) : Prop :=
  ∀ i, m.modalIndex = some i → Spares i m (m.route now e).1 (m.route now e).2

/-! ## The condition -/

/-- The pointer is over the modal or an overlay above it, or outside all overlays while the modal is topmost. -/
def HitsAbove (m : OverlayManager E) (i : Nat) (point : Point F) : Prop :=
  match m.overlayAt point with
  | some j => i ≤ j
  | none => m.hasModal = true

/-- A mouse event, on a stack that is laid out: a capture is held at the modal or above; else a click falls outside a
    topmost popup, a scroll finds a popup on top or no popup at all, and the hit test stays above. -/
def MouseKeepsAbove (m : OverlayManager E) (i : Nat) (event : MouseEvent F) : Prop :=
  match m.capturedOverlay with
  | some c => i ≤ c
  | none =>
    (event.kind.isDown = true ∧ m.overlays.getLast?.any (fun o => o.kind = .popup && !o.computedRect.contains event.pos) =
        true) ∨
      if event.kind.isScroll = true ∧ (rposition (·.kind = .popup) m.overlays).isSome then m.topmostIsPopup = true
      else m.HitsAbove i event.pos

/-- A key: it is Escape, or the topmost overlay is the modal, or a popup that takes the key. -/
def KeyKeepsAbove (m : OverlayManager E) (event : KeyEvent) (now : Nat) : Prop :=
  event.key = .escape ∨ m.hasModal = true ∨
    m.overlays.getLast?.any (fun o =>
      (o.deliver (.fromKeyEvent event) false now).2.any fun output => output.1.handled || !output.1.actions.isEmpty) = true

/-- The keymap binds the key in the context of the topmost overlay, to something else than a focus move. -/
def KeymapTakes (m : OverlayManager E) (event : KeyEvent) (keymap : List KeyBinding) : Prop :=
  m.overlays.getLast?.any (fun o =>
    (keymapLookup keymap event (K.keyContext o.widget.self.state).toList).any fun action =>
      decide (action ≠ "widget::FocusNext" ∧ action ≠ "widget::FocusPrev")) = true

/-- **The condition under which the routing keeps above the topmost modal.** -/
def KeepsAbove (m : OverlayManager E) (now : Nat) (e : UiEvent F) : Prop :=
  ∀ i, m.modalIndex = some i →
    match e with
    | .mouse event => m.layoutOverlays.MouseKeepsAbove i event
    | .hover point => m.layoutOverlays.HitsAbove i point
    | .key event => m.KeyKeepsAbove event now
    | .keyWithKeymap event keymap => m.KeymapTakes event keymap ∨ m.KeyKeepsAbove event now

end Routing

/-! ## What every stack has -/

/-- What tells overlays apart. -/
def badges (m : OverlayManager E) : List (OverlayId × OverlayKind) := m.overlays.map fun o => (o.id, o.kind)

/-- The stack after any run: its identifiers are distinct and were handed out before, no flash is on it, and a capture
    names an overlay of it. -/
structure Settled (m : OverlayManager E) (next : OverlayId) : Prop where
  nodup : (m.badges.map Prod.fst).Nodup
  handedOut : ∀ b ∈ m.badges, b.1 < next
  noFlash : ∀ b ∈ m.badges, b.2 ≠ .flash
  captured : ∀ c, m.capturedOverlay = some c → c < m.badges.length

/-- Some overlays may be gone, and what is inside the others changed; a capture that was held before is held only on the
    same stack. -/
structure Trims (m m' : OverlayManager E) : Prop where
  badges : m'.badges.Sublist m.badges
  captured : ∀ c, m'.capturedOverlay = some c →
    (m'.badges = m.badges ∧ m.capturedOverlay = some c) ∨ c < m'.badges.length

variable {m m' m'' : OverlayManager E} {next : OverlayId}

/-- The stack is the same up to what is inside the overlays. -/
theorem Trims.of_eq (hbadges : m'.badges = m.badges) (hcaptured : m'.capturedOverlay = m.capturedOverlay) :
    Trims m m' :=
  ⟨hbadges ▸ .refl _, fun _ h => .inl ⟨hbadges, hcaptured ▸ h⟩⟩

/-- Overlays are gone, and the capture with them. -/
theorem Trims.of_removed (hbadges : m'.badges.Sublist m.badges) (hcaptured : m'.capturedOverlay = none) : Trims m m' :=
  ⟨hbadges, fun _ h => by rw [hcaptured] at h; cases h⟩

theorem Trims.trans (h : Trims m m') (h' : Trims m' m'') : Trims m m'' := by
  refine ⟨h'.badges.trans h.badges, fun c hc => ?_⟩
  rcases h'.captured c hc with ⟨hbadges', hcaptured'⟩ | hlt
  · rcases h.captured c hcaptured' with ⟨hbadges, hcaptured⟩ | hlt
    · exact .inl ⟨hbadges'.trans hbadges, hcaptured⟩
    · exact .inr (hbadges' ▸ hlt)
  · exact .inr hlt

theorem Settled.of_trims (h : Settled m next) (ht : Trims m m') : Settled m' next := by
  refine ⟨h.nodup.sublist (ht.badges.map _), fun b hb => h.handedOut b (ht.badges.subset hb),
    fun b hb => h.noFlash b (ht.badges.subset hb), fun c hc => ?_⟩
  rcases ht.captured c hc with ⟨hbadges, hcaptured⟩ | hlt
  · rw [hbadges]
    exact h.captured c hcaptured
  · exact hlt

theorem Settled.mono (h : Settled m next) {later : OverlayId} (hle : next ≤ later) : Settled m later :=
  ⟨h.nodup, fun b hb => Nat.lt_of_lt_of_le (h.handedOut b hb) hle, h.noFlash, h.captured⟩

/-- The identifier of an overlay is its own. -/
theorem Settled.id_injOn (h : Settled m next) {i j : Nat} {o o' : Overlay E} (hi : m.overlays[i]? = some o)
    (hj : m.overlays[j]? = some o') (hid : o.id = o'.id) : i = j := by
  have hlt : i < (m.badges.map Prod.fst).length := by
    rw [length_map, OverlayManager.badges, length_map]
    exact (List.getElem?_eq_some_iff.mp hi).1
  refine (getElem?_inj hlt h.nodup).mp ?_
  simp [OverlayManager.badges, hi, hj, hid]

/-! ### Lifecycle -/

theorem trims_afterRemoval (hbadges : m'.badges.Sublist m.badges) : Trims m m'.afterRemoval :=
  .of_removed hbadges rfl

section

variable (m)

theorem badges_dismissOverlay (o : Overlay E) : (m.dismissOverlay o).badges = m.badges := by
  unfold dismissOverlay
  split <;> rfl

theorem trims_beginDismiss (id : OverlayId) : Trims m (m.beginDismiss id).1 := by
  unfold beginDismiss
  split
  · exact .of_eq rfl rfl
  · split
    · exact .of_eq rfl rfl
    · refine trims_afterRemoval ?_
      rw [badges_dismissOverlay]
      exact (eraseIdx_sublist ..).map _

theorem trims_beginDismissTopmost : Trims m m.beginDismissTopmost.1 := by
  unfold beginDismissTopmost
  split
  · exact .of_eq rfl rfl
  · refine trims_afterRemoval ?_
    rw [badges_dismissOverlay]
    exact (dropLast_sublist _).map _

theorem trims_clearPopups : Trims m m.clearPopups.1 := by
  unfold clearPopups
  simp only
  split
  · exact trims_afterRemoval (filter_sublist.map _)
  · next hnone =>
    refine .of_eq ?_ rfl
    have hle := length_filter_le (fun o : Overlay E => decide (o.kind ≠ .popup)) m.overlays
    have hall : m.overlays.filter (fun o => decide (o.kind ≠ .popup)) = m.overlays :=
      filter_sublist.eq_of_length (by omega)
    exact congrArg (List.map _) hall

theorem badges_modify (i : Nat) (f : Overlay E → Overlay E) (hf : ∀ o, (f o).id = o.id ∧ (f o).kind = o.kind) :
    (m.overlays.modify i f).map (fun o => (o.id, o.kind)) = m.badges := by
  refine ext_getElem? fun j => ?_
  simp only [OverlayManager.badges, getElem?_map, getElem?_modify]
  cases m.overlays[j]? with
  | none => simp
  | some o => by_cases hij : i = j <;> simp [hij, hf]

theorem badges_layoutOverlays : m.layoutOverlays.badges = m.badges := by
  unfold layoutOverlays
  split
  · exact map_map ..
  · rfl

theorem trims_layoutOverlays : Trims m m.layoutOverlays := by
  refine .of_eq m.badges_layoutOverlays ?_
  unfold layoutOverlays
  split <;> rfl

end

/-! ### Routing -/

/-- One overlay changed inside. -/
theorem badges_set {c : Nat} {o : Overlay E} (o' : Overlay E) (hc : m.overlays[c]? = some o) (hid : o'.id = o.id)
    (hkind : o'.kind = o.kind) : (m.overlays.set c o').map (fun o => (o.id, o.kind)) = m.badges := by
  refine ext_getElem? fun j => ?_
  simp only [OverlayManager.badges, getElem?_map]
  by_cases hij : c = j
  · subst hij
    obtain ⟨hlt, rfl⟩ := List.getElem?_eq_some_iff.mp hc
    simp [hlt, hid, hkind]
  · simp [hij]

theorem getElem?_of_getLast? {α : Type} {l : List α} {a : α} (h : l.getLast? = some a) : l[l.length - 1]? = some a := by
  rw [← getLast?_eq_getElem?]
  exact h

section Routing

variable [Zero F] [Add F] [Sub F]

theorem trims_deliverCaptured {c : Nat} {o : Overlay E} (hc : m.overlays[c]? = some o) (event : MouseEvent F)
    (now : Nat) : Trims m (m.deliverCaptured c o event now).1 := by
  have hbadges := badges_set (o.deliver (.fromMouseEvent event) true now).1 hc rfl rfl
  refine ⟨hbadges ▸ .refl _, fun b hb => .inl ⟨hbadges, ?_⟩⟩
  unfold deliverCaptured at hb
  simp only at hb
  split at hb <;> split at hb <;> first | exact hb | cases hb

theorem trims_deliverToOverlay (m : OverlayManager E) (c : Nat) (event : MouseEvent F) (now : Nat) :
    Trims m (m.deliverToOverlay c event now).1 := by
  unfold deliverToOverlay
  split
  · exact .of_eq rfl rfl
  · next o hc =>
    have hbadges := badges_set (o.deliver (.fromMouseEvent event) false now).1 hc rfl rfl
    refine ⟨hbadges ▸ .refl _, fun b hb => ?_⟩
    simp only at hb
    split at hb
    · obtain rfl := Option.some.inj hb
      refine .inr ?_
      show c < (List.map _ (m.overlays.set c _)).length
      rw [length_map, length_set]
      exact (List.getElem?_eq_some_iff.mp hc).1
    · exact .inl ⟨hbadges, hb⟩

theorem trims_processKeyEvent (m : OverlayManager E) (event : KeyEvent) (now : Nat) :
    Trims m (m.processKeyEvent event now).1 := by
  unfold processKeyEvent
  split
  · exact .of_eq rfl rfl
  · next topmost htop =>
    split
    · exact trims_beginDismissTopmost m
    · have hbadges := badges_set (topmost.deliver (.fromKeyEvent event) false now).1
        (getElem?_of_getLast? htop) rfl rfl
      simp only
      split <;> exact .of_eq hbadges rfl

theorem trims_processKeyEventWithKeymap (m : OverlayManager E) (event : KeyEvent) (keymap : List KeyBinding) (now : Nat) :
    Trims m (m.processKeyEventWithKeymap event keymap now).1 := by
  unfold processKeyEventWithKeymap
  split
  · exact .of_eq rfl rfl
  · next topmost htop =>
    split
    · exact trims_processKeyEvent ..
    · next action _ =>
      split
      · exact trims_processKeyEvent ..
      · split
        · exact trims_beginDismissTopmost m
        · exact .of_eq (badges_set (dispatchKeymapAction topmost action).1 (getElem?_of_getLast? htop) rfl
            rfl) rfl

variable [LT F] [LE F] [DecidableLT F] [DecidableLE F]

section

variable (m : OverlayManager E) (topmost : Overlay E) (event : MouseEvent F) (now : Nat)

theorem trims_hitTestMouse : Trims m (m.hitTestMouse topmost event now).1 := by
  unfold hitTestMouse
  split
  · exact trims_deliverToOverlay ..
  · split
    · exact .of_eq rfl rfl
    · split
      · exact trims_beginDismissTopmost m
      · exact .of_eq rfl rfl
    · exact .of_eq rfl rfl

theorem trims_routeMouse : Trims m (m.routeMouse topmost event now).1 := by
  unfold routeMouse
  split
  · exact trims_beginDismissTopmost m
  · split
    · unfold routeScrollToPopup
      cases rposition (·.kind = .popup) m.overlays with
      | none => exact trims_hitTestMouse ..
      | some idx => exact trims_deliverToOverlay ..
    · exact trims_hitTestMouse ..

end

theorem trims_processMouseEvent (m : OverlayManager E) (event : MouseEvent F) (now : Nat) :
    Trims m (m.processMouseEvent event now).1 := by
  unfold processMouseEvent
  split
  · exact .of_eq rfl rfl
  · refine (trims_layoutOverlays m).trans ?_
    simp only
    split
    · next idx o hbind =>
      obtain ⟨c, _, hc⟩ := Option.bind_eq_some_iff.mp hbind
      obtain ⟨o', ho', heq⟩ := Option.map_eq_some_iff.mp hc
      obtain ⟨rfl, rfl⟩ := Prod.mk.inj heq
      exact trims_deliverCaptured ho' event now
    · have hreset : Trims m.layoutOverlays { m.layoutOverlays with capturedOverlay := none } :=
        .of_removed (.refl _) rfl
      exact hreset.trans (trims_routeMouse ..)

omit [Zero F] [Sub F] in
theorem trims_processHoverEvent (m : OverlayManager E) (point : Point F) : Trims m (m.processHoverEvent point).1 := by
  unfold processHoverEvent
  split
  · exact .of_eq rfl rfl
  · refine (trims_layoutOverlays m).trans ?_
    simp only
    split
    · exact .of_eq rfl rfl
    · split <;> exact .of_eq rfl rfl

/-- **Routing an event only trims the stack.** -/
theorem trims_route (m : OverlayManager E) (now : Nat) (e : UiEvent F) : Trims m (m.route now e).1 := by
  cases e with
  | mouse event => exact trims_processMouseEvent ..
  | hover point => exact trims_processHoverEvent ..
  | key event => exact trims_processKeyEvent ..
  | keyWithKeymap event keymap => exact trims_processKeyEventWithKeymap ..

/-! ## One event -/

omit [Zero F] [Add F] [Sub F] [LT F] [LE F] [DecidableLT F] [DecidableLE F]

variable {i : Nat}

/-- **An event delivered to one overlay spares what is below an index if the overlay is not below it.** -/
theorem spares_delivered_iff (hs : Settled m next) {c : Nat} {o o' : Overlay E} (hc : m.overlays[c]? = some o)
    (hafter : m'.overlays = m.overlays.set c o') (response : OverlayResponse K) :
    Spares i m m' (.delivered o.id response) ↔ i ≤ c := by
  constructor
  · intro h
    by_contra hci
    refine h.names o (mem_of_getElem? (i := c) ?_) rfl
    rw [getElem?_take, if_pos (by omega), hc]
  · intro hle
    refine ⟨by simp, fun x hx hid => ?_, ?_⟩
    · obtain ⟨j, hj⟩ := getElem?_of_mem hx
      rw [getElem?_take] at hj
      split at hj
      · next hji =>
        have := hs.id_injOn hj hc (Option.some.inj hid).symm
        omega
      · cases hj
    · rw [hafter, take_set_of_le hle]

variable {topmost : Overlay E}

/-- The dismissal of the topmost overlay spares what is below an index of the stack. -/
theorem spares_dismissed (hs : Settled m next) (htop : m.overlays.getLast? = some topmost)
    (hi : i < m.overlays.length) : Spares i m m.beginDismissTopmost.1 (.dismissed topmost.id) := by
  have hafter : m.beginDismissTopmost.1.overlays = m.overlays.dropLast := by
    unfold beginDismissTopmost
    rw [htop]
    simp only [dismissOverlay]
    split <;> rfl
  refine ⟨by simp, fun x hx hid => ?_, ?_⟩
  · obtain ⟨j, hj⟩ := getElem?_of_mem hx
    rw [getElem?_take] at hj
    split at hj
    · next hji =>
      have := hs.id_injOn hj (getElem?_of_getLast? htop) (Option.some.inj hid).symm
      omega
    · cases hj
  · rw [hafter, dropLast_eq_take, take_take, Nat.min_eq_left (by omega)]

/-- Nothing happens to the stack, and the event stops here. -/
theorem spares_blocked (i : Nat) (hafter : m'.overlays = m.overlays) : Spares i m m' .blocked :=
  ⟨by simp, fun _ _ h => (by cases h), by rw [hafter]⟩

theorem not_spares_passThrough (i : Nat) : ¬Spares i m m' .passThrough := fun h => h.stops rfl

theorem map_content_layoutOverlays (m : OverlayManager E) :
    m.layoutOverlays.overlays.map Overlay.content = m.overlays.map Overlay.content := by
  unfold layoutOverlays
  split
  · exact map_map ..
  · rfl

/-- What an event spares does not depend on the layout. -/
theorem spares_layoutOverlays_iff (i : Nat) (result : OverlayEventResult K) :
    Spares i m.layoutOverlays m' result ↔ Spares i m m' result := by
  have hcontent : (m.layoutOverlays.overlays.take i).map Overlay.content = (m.overlays.take i).map Overlay.content := by
    rw [map_take, map_take, map_content_layoutOverlays]
  have hnames : (∀ o ∈ m.layoutOverlays.overlays.take i, result.names ≠ some o.id) ↔
      ∀ o ∈ m.overlays.take i, result.names ≠ some o.id := by
    have hids : (m.layoutOverlays.overlays.take i).map (·.id) = (m.overlays.take i).map (·.id) := by
      have := congrArg (List.map Prod.fst) hcontent
      simpa [Overlay.content, Function.comp_def] using this
    rw [← forall_mem_map (P := fun id => result.names ≠ some id), hids, forall_mem_map]
  exact ⟨fun h => ⟨h.stops, hnames.mp h.names, h.lower.trans hcontent⟩,
    fun h => ⟨h.stops, hnames.mpr h.names, h.lower.trans hcontent.symm⟩⟩

/-- A stack with a modal has a topmost overlay. -/
theorem exists_topmost (hmodal : m.modalIndex = some i) : ∃ topmost, m.overlays.getLast? = some topmost := by
  have hlt := rposition_lt hmodal
  exact ⟨_, getLast?_eq_some_getLast (ne_nil_of_length_pos (by omega))⟩

/-- The topmost overlay is the modal or a popup above it. -/
theorem topmost_cases (hs : Settled m next) (htop : m.overlays.getLast? = some topmost) :
    topmost.kind = .modal ∨ topmost.kind = .popup := by
  have hmem := mem_of_getLast? htop
  have hflash := hs.noFlash (topmost.id, topmost.kind) (mem_map_of_mem hmem)
  cases hkind : topmost.kind with
  | modal => exact .inl rfl
  | popup => exact .inr rfl
  | flash => exact absurd hkind hflash

/-- **The topmost popup is above the topmost modal exactly if it is on top.** -/
theorem modal_le_popup_iff (hs : Settled m next) {p : Nat} (hmodal : m.modalIndex = some i)
    (hpopup : rposition (fun o : Overlay E => decide (o.kind = .popup)) m.overlays = some p) :
    i ≤ p ↔ m.topmostIsPopup = true := by
  obtain ⟨topmost, htop⟩ := exists_topmost hmodal
  obtain ⟨⟨o, ho, hkind⟩, habove⟩ := rposition_eq_some hmodal
  obtain ⟨⟨o', ho', hkind'⟩, habove'⟩ := rposition_eq_some hpopup
  have hlast := getElem?_of_getLast? htop
  have hilt := rposition_lt hmodal
  have hplt := rposition_lt hpopup
  simp only [decide_eq_true_eq] at hkind hkind'
  rw [topmostIsPopup, htop, Option.any_some, decide_eq_true_eq]
  constructor
  · intro hle
    rcases topmost_cases hs htop with htopmost | htopmost
    · -- a modal on top would be the topmost modal, and a popup could not be above it
      have hlastModal : ¬i < m.overlays.length - 1 := fun hlt => by
        have := habove _ _ hlt hlast
        simp [htopmost] at this
      obtain rfl : i = p := by omega
      rw [ho] at ho'
      obtain rfl := Option.some.inj ho'
      rw [hkind] at hkind'
      cases hkind'
    · exact htopmost
  · intro htopmost
    by_contra hlt
    have := habove' _ _ (show p < m.overlays.length - 1 by omega) hlast
    simp [htopmost] at this

variable [Zero F] [Add F] [Sub F]

section

variable (hs : Settled m next) (hmodal : m.modalIndex = some i) (event : KeyEvent)
include hs hmodal

theorem spares_processKeyEvent_iff (now : Nat) :
    Spares i m (m.processKeyEvent event now).1 (m.processKeyEvent event now).2 ↔ m.KeyKeepsAbove event now := by
  obtain ⟨topmost, htop⟩ := exists_topmost hmodal
  have hilt := rposition_lt hmodal
  unfold processKeyEvent KeyKeepsAbove hasModal
  simp only [htop]
  by_cases hescape : event.key = .escape
  · simp only [hescape, true_or, iff_true]
    exact spares_dismissed hs htop hilt
  · simp only [hescape, if_false, false_or]
    split
    · next htakes =>
      rw [Bool.or_eq_true] at htakes
      exact (spares_delivered_iff hs (getElem?_of_getLast? htop) rfl _).trans
        ⟨fun _ => htakes.symm, fun _ => by omega⟩
    · next htakes =>
      rw [Bool.or_eq_true] at htakes
      exact ⟨fun h => absurd h (not_spares_passThrough i), fun h => absurd h.symm htakes⟩

theorem spares_processKeyEventWithKeymap_iff (keymap : List KeyBinding) (now : Nat) :
    Spares i m (m.processKeyEventWithKeymap event keymap now).1 (m.processKeyEventWithKeymap event keymap now).2 ↔
      m.KeymapTakes event keymap ∨ m.KeyKeepsAbove event now := by
  obtain ⟨topmost, htop⟩ := exists_topmost hmodal
  have hilt := rposition_lt hmodal
  have hkey := spares_processKeyEvent_iff hs hmodal event now
  unfold processKeyEventWithKeymap KeymapTakes
  simp only [htop, Option.any_some]
  cases keymapLookup keymap event (K.keyContext topmost.widget.self.state).toList with
  | none => simpa using hkey
  | some action =>
    simp only [Option.any_some]
    by_cases hfocus : action = "widget::FocusNext" ∨ action = "widget::FocusPrev"
    · have hnot : ¬(action ≠ "widget::FocusNext" ∧ action ≠ "widget::FocusPrev") := fun h =>
        hfocus.elim h.1 h.2
      rw [if_pos hfocus, decide_eq_true_eq, or_iff_right hnot]
      exact hkey
    · have htakes : action ≠ "widget::FocusNext" ∧ action ≠ "widget::FocusPrev" := not_or.mp hfocus
      rw [if_neg hfocus, decide_eq_true_eq, iff_true_right (.inl htakes)]
      split
      · exact spares_dismissed hs htop hilt
      · exact (spares_delivered_iff hs (getElem?_of_getLast? htop) rfl _).mpr (by omega)

end

variable [LT F] [LE F] [DecidableLT F] [DecidableLE F]

/-- Outside all overlays the topmost one decides. -/
theorem spares_hitTestMouse_iff (hs : Settled m next) (htop : m.overlays.getLast? = some topmost)
    (event : MouseEvent F) (now : Nat)
    (hinside : event.kind.isDown = true → topmost.kind = .popup → topmost.computedRect.contains event.pos = true) :
    Spares i m (m.hitTestMouse topmost event now).1 (m.hitTestMouse topmost event now).2 ↔ m.HitsAbove i event.pos := by
  unfold hitTestMouse HitsAbove
  cases hat : m.overlayAt event.pos with
  | some j =>
    obtain ⟨⟨o, ho, _⟩, _⟩ := rposition_eq_some hat
    simp only [deliverToOverlay, ho]
    exact spares_delivered_iff hs ho rfl _
  | none =>
    have houtside := rposition_eq_none.mp hat topmost (mem_of_getLast? htop)
    simp only [hasModal, htop, Option.any_some, decide_eq_true_eq]
    rcases topmost_cases hs htop with hkind | hkind
    · simp only [hkind, iff_true]
      exact spares_blocked i rfl
    · have hdown : ¬event.kind.isDown = true := fun h => by
        rw [hinside h hkind] at houtside
        cases houtside
      simp only [hkind, hdown, reduceCtorEq, iff_false]
      exact not_spares_passThrough i

theorem spares_routeMouse_iff (hs : Settled m next) (hmodal : m.modalIndex = some i)
    (htop : m.overlays.getLast? = some topmost) (hfree : m.capturedOverlay = none) (event : MouseEvent F) (now : Nat) :
    Spares i m (m.routeMouse topmost event now).1 (m.routeMouse topmost event now).2 ↔ m.MouseKeepsAbove i event := by
  unfold routeMouse MouseKeepsAbove
  simp only [hfree, htop, Option.any_some]
  by_cases hclick : (event.kind.isDown && decide (topmost.kind = .popup) && !topmost.computedRect.contains event.pos) = true
  · rw [if_pos hclick]
    rw [Bool.and_assoc, Bool.and_eq_true] at hclick
    exact iff_of_true (spares_dismissed hs htop (rposition_lt hmodal)) (.inl hclick)
  · have hinside : event.kind.isDown = true → topmost.kind = .popup →
        topmost.computedRect.contains event.pos = true := fun hdown hpopup => by
      simpa [hdown, hpopup] using hclick
    rw [if_neg hclick]
    rw [Bool.and_assoc, Bool.and_eq_true] at hclick
    rw [or_iff_right hclick]
    have hhit := spares_hitTestMouse_iff hs (i := i) htop event now hinside
    by_cases hscroll : event.kind.isScroll = true
    · unfold routeScrollToPopup
      cases hpopup : rposition (fun o : Overlay E => decide (o.kind = .popup)) m.overlays with
      | none => simpa [hscroll] using hhit
      | some p =>
        obtain ⟨⟨o, ho, _⟩, _⟩ := rposition_eq_some hpopup
        simp only [Option.map_some, hscroll, deliverToOverlay, ho]
        exact (spares_delivered_iff hs ho rfl _).trans (modal_le_popup_iff hs hmodal hpopup)
    · rw [if_neg hscroll, if_neg fun h => hscroll h.1]
      exact hhit

omit [Zero F] [Add F] [Sub F] [LT F] [LE F] [DecidableLT F] [DecidableLE F] in
theorem modalIndex_layoutOverlays (m : OverlayManager E) : m.layoutOverlays.modalIndex = m.modalIndex := by
  have hbadges : ∀ m : OverlayManager E, m.modalIndex = rposition (fun b => decide (b.2 = .modal)) m.badges := fun m => by
    rw [badges, rposition_map]
    rfl
  rw [hbadges, hbadges, badges_layoutOverlays]

theorem spares_processMouseEvent_iff (hs : Settled m next) (hmodal : m.modalIndex = some i) (event : MouseEvent F)
    (now : Nat) :
    Spares i m (m.processMouseEvent event now).1 (m.processMouseEvent event now).2 ↔
      m.layoutOverlays.MouseKeepsAbove i event := by
  have hsL := hs.of_trims (trims_layoutOverlays m)
  have hmodalL : m.layoutOverlays.modalIndex = some i := m.modalIndex_layoutOverlays.trans hmodal
  obtain ⟨topmost, htop⟩ := exists_topmost hmodalL
  unfold processMouseEvent
  simp only [htop]
  rw [← spares_layoutOverlays_iff]
  cases hcaptured : m.layoutOverlays.capturedOverlay with
  | some c =>
    have hlt := hsL.captured c hcaptured
    rw [badges, length_map] at hlt
    have hc : m.layoutOverlays.overlays[c]? = some m.layoutOverlays.overlays[c] := getElem?_eq_getElem hlt
    simp only [Option.bind_some, hc, Option.map_some, MouseKeepsAbove, hcaptured]
    exact spares_delivered_iff hsL hc rfl _
  | none =>
    have hfree : ({ m.layoutOverlays with capturedOverlay := none } : OverlayManager E) = m.layoutOverlays := by
      rw [← hcaptured]
    simp only [hfree]
    exact spares_routeMouse_iff hsL hmodalL htop hcaptured event now

omit [Zero F] [Sub F] in
theorem spares_processHoverEvent_iff (hs : Settled m next) (hmodal : m.modalIndex = some i) (point : Point F) :
    Spares i m (m.processHoverEvent point).1 (m.processHoverEvent point).2 ↔ m.layoutOverlays.HitsAbove i point := by
  have hsL := hs.of_trims (trims_layoutOverlays m)
  have hne : m.overlays.isEmpty = false := by
    have := rposition_lt hmodal
    rw [isEmpty_eq_false_iff]
    exact ne_nil_of_length_pos (by omega)
  unfold processHoverEvent HitsAbove
  simp only [hne]
  rw [← spares_layoutOverlays_iff]
  cases hat : m.layoutOverlays.overlayAt point with
  | some j =>
    obtain ⟨⟨o, ho, _⟩, _⟩ := rposition_eq_some hat
    simp only [Option.bind_some, ho]
    have hsame : m.layoutOverlays.overlays = m.layoutOverlays.overlays.set j o := by
      obtain ⟨hlt, rfl⟩ := List.getElem?_eq_some_iff.mp ho
      exact (set_getElem_self hlt).symm
    exact spares_delivered_iff hsL ho
      (show ({ m.layoutOverlays with hoveredOverlay := some j } : OverlayManager E).overlays = _ from hsame) _
  | none =>
    by_cases hblocks : m.layoutOverlays.hasModal = true
    · have hblocks' : ({ m.layoutOverlays with hoveredOverlay := none } : OverlayManager E).hasModal = true := hblocks
      rw [if_pos hblocks', iff_true_right hblocks]
      exact spares_blocked i rfl
    · have hpasses : ¬({ m.layoutOverlays with hoveredOverlay := none } : OverlayManager E).hasModal = true := hblocks
      rw [if_neg hpasses, iff_false_right hblocks]
      exact not_spares_passThrough i

/-- **One event isolates exactly under the condition.** -/
theorem isolates_iff (hs : Settled m next) (now : Nat) (e : UiEvent F) : m.Isolates now e ↔ m.KeepsAbove now e := by
  refine forall_congr' fun i => forall_congr' fun hmodal => ?_
  cases e with
  | mouse event => exact spares_processMouseEvent_iff hs hmodal event now
  | hover point => exact spares_processHoverEvent_iff hs hmodal point
  | key event => exact spares_processKeyEvent_iff hs hmodal event now
  | keyWithKeymap event keymap => exact spares_processKeyEventWithKeymap_iff hs hmodal event keymap now

end Routing

end OverlayManager

/-! ## Runs -/

/-- What can happen to the overlays of a window. -/
inductive OverlayOp (E : LayoutEngine K.toToolkit) where
  | pushOverlay (widget : Widget K.toToolkit) (anchor : Rect F) (placement : E.Placement)
  | replacePopup (widget : Widget K.toToolkit) (anchor : Rect F) (placement : E.Placement)
  | pushModal (widget : Widget K.toToolkit) (anchor : Rect F) (placement : E.Placement)
  | pushFlash (widget : Widget K.toToolkit)
  | beginDismiss (id : OverlayId)
  | beginDismissTopmost
  | clearAll
  | clearPopups
  | cleanupDismissed (stillFading : OverlayId → Bool)
  | setViewport (viewport : Rect F)
  | offsetTopmost (dx dy : F)
  | layoutOverlays
  /-- The widgets of all overlays change outside of event routing: lifecycle events, animation ticks. -/
  | editWidgets (f : Widget K.toToolkit → Widget K.toToolkit)
  /-- The topmost widget takes an action from outside. -/
  | acceptActionTopmost (f : Widget K.toToolkit → Widget K.toToolkit)
  /-- Identifiers go to overlays of other windows. -/
  | handOut (count : Nat)
  | event (now : Nat) (e : UiEvent F)

/-- The manager of a window, and the next identifier to hand out. -/
structure OverlaySession (E : LayoutEngine K.toToolkit) where
  manager : OverlayManager E
  nextId : OverlayId

namespace OverlaySession

variable [Zero F] [Add F] [Sub F] [LT F] [LE F] [DecidableLT F] [DecidableLE F] [BEq F]

def apply (s : OverlaySession E) : OverlayOp E → OverlaySession E
  | .pushOverlay widget anchor placement => ⟨s.manager.pushOverlay s.nextId widget anchor placement, s.nextId + 1⟩
  | .replacePopup widget anchor placement => ⟨s.manager.replacePopup s.nextId widget anchor placement, s.nextId + 1⟩
  | .pushModal widget anchor placement => ⟨s.manager.pushModal s.nextId widget anchor placement, s.nextId + 1⟩
  | .pushFlash widget => ⟨s.manager.pushFlash s.nextId widget, s.nextId + 1⟩
  | .beginDismiss id => { s with manager := (s.manager.beginDismiss id).1 }
  | .beginDismissTopmost => { s with manager := s.manager.beginDismissTopmost.1 }
  | .clearAll => { s with manager := s.manager.clearAll }
  | .clearPopups => { s with manager := s.manager.clearPopups.1 }
  | .cleanupDismissed stillFading => { s with manager := s.manager.cleanupDismissed stillFading }
  | .setViewport viewport => { s with manager := s.manager.setViewport viewport }
  | .offsetTopmost dx dy => { s with manager := s.manager.offsetTopmost dx dy }
  | .layoutOverlays => { s with manager := s.manager.layoutOverlays }
  | .editWidgets f => { s with manager := s.manager.editWidgets f }
  | .acceptActionTopmost f => { s with manager := s.manager.editTopmost fun o => { o with widget := f o.widget } }
  | .handOut count => { s with nextId := s.nextId + count }
  | .event now e => { s with manager := (s.manager.route now e).1 }

/-- A new manager. -/
def start (E : LayoutEngine K.toToolkit) (viewport : Rect F) (nextId : OverlayId) : OverlaySession E :=
  ⟨{ viewport := viewport }, nextId⟩

omit [Add F] [Sub F] [LT F] [LE F] [DecidableLT F] [DecidableLE F] [BEq F] in
/-- A popup or a modal on top gets an identifier of its own. -/
theorem settled_push {m : OverlayManager E} {next : OverlayId} (hs : m.Settled next) (kind : OverlayKind)
    (hkind : kind ≠ .flash) (widget : Widget K.toToolkit) (anchor : Rect F) (placement : E.Placement) :
    (m.push kind next widget anchor placement).Settled (next + 1) := by
  have hbadges : (m.push kind next widget anchor placement).badges = m.badges ++ [(next, kind)] := map_append
  refine ⟨?_, fun b hb => ?_, fun b hb => ?_, fun c hc => ?_⟩
  · rw [hbadges, map_append, nodup_append]
    refine ⟨hs.nodup, nodup_singleton _, fun id hid id' hid' heq => ?_⟩
    obtain ⟨b, hb, rfl⟩ := mem_map.mp hid
    have hlt := hs.handedOut b hb
    rw [heq, mem_singleton.mp hid'] at hlt
    exact Nat.lt_irrefl _ hlt
  · rw [hbadges] at hb
    rcases mem_append.mp hb with hb | hb
    · exact Nat.lt_succ_of_lt (hs.handedOut b hb)
    · rw [mem_singleton.mp hb]
      exact Nat.lt_succ_self next
  · rw [hbadges] at hb
    rcases mem_append.mp hb with hb | hb
    · exact hs.noFlash b hb
    · rw [mem_singleton.mp hb]
      exact hkind
  · rw [hbadges, length_append]
    exact Nat.lt_add_right _ (hs.captured c hc)

/-- **Every step keeps the stack settled.** -/
theorem settled_apply (s : OverlaySession E) (op : OverlayOp E) (hs : s.manager.Settled s.nextId) :
    (s.apply op).manager.Settled (s.apply op).nextId := by
  cases op with
  | pushOverlay widget anchor placement => exact settled_push hs .popup (by simp) widget anchor placement
  | replacePopup widget anchor placement =>
    exact settled_push (hs.of_trims s.manager.trims_clearPopups) .popup (by simp) widget anchor placement
  | pushModal widget anchor placement => exact settled_push hs .modal (by simp) widget anchor placement
  | pushFlash widget =>
    have hflash : (s.manager.pushFlash s.nextId widget).Settled s.nextId := hs.of_trims (.of_eq rfl rfl)
    exact hflash.mono (Nat.le_succ _)
  | beginDismiss id => exact hs.of_trims (s.manager.trims_beginDismiss id)
  | beginDismissTopmost => exact hs.of_trims s.manager.trims_beginDismissTopmost
  | clearAll => exact hs.of_trims (.of_removed (nil_sublist _) rfl)
  | clearPopups => exact hs.of_trims s.manager.trims_clearPopups
  | cleanupDismissed stillFading => exact hs.of_trims (.of_eq rfl rfl)
  | setViewport viewport =>
    refine hs.of_trims ?_
    show OverlayManager.Trims s.manager (s.manager.setViewport viewport)
    unfold OverlayManager.setViewport
    split <;> exact .of_eq rfl rfl
  | offsetTopmost | acceptActionTopmost =>
    exact hs.of_trims (.of_eq (OverlayManager.badges_modify s.manager _ _ fun _ => ⟨rfl, rfl⟩) rfl)
  | layoutOverlays => exact hs.of_trims s.manager.trims_layoutOverlays
  | editWidgets f => exact hs.of_trims (.of_eq (map_map ..) rfl)
  | handOut count => exact hs.mono (Nat.le_add_right ..)
  | event now e => exact hs.of_trims (s.manager.trims_route now e)

theorem settled_run (viewport : Rect F) (nextId : OverlayId) (ops : List (OverlayOp E)) :
    (run apply (start E viewport nextId) ops).manager.Settled (run apply (start E viewport nextId) ops).nextId := by
  refine run_invariant settled_apply ?_ ops
  exact ⟨nodup_nil, fun b hb => (by cases hb), fun b hb => (by cases hb), fun c hc => (by cases hc)⟩

/-- **Modal isolation over runs**: after any run, an event spares the window and everything below the topmost modal
    exactly if the routing keeps above it. -/
theorem isolates_run_iff (viewport : Rect F) (nextId : OverlayId) (ops : List (OverlayOp E)) (now : Nat) (e : UiEvent F) :
    (run apply (start E viewport nextId) ops).manager.Isolates now e ↔
      (run apply (start E viewport nextId) ops).manager.KeepsAbove now e :=
  OverlayManager.isolates_iff (settled_run viewport nextId ops) now e

/-! ### A popup over a dialog -/

/-- Widgets that leave all events alone. -/
def inertKit : OverlayKit Nat where
  Controller := Unit
  State := Unit
  Action := Unit
  phase _ := .bubble
  handleEvent c _ ctx := (c, { actions := ctx.actions })
  onAction s a _ := (s, some a)
  onInput s _ _ := (s, {})
  keyContext _ := none
  handleKeymapAction s _ _ := (s, none)

/-- Every overlay goes where its anchor is. -/
def anchoredLayout : LayoutEngine inertKit.toToolkit where
  LayoutNode := Unit
  Placement := Unit
  atPoint _ := ()
  computeLayout _ _ := ()
  computeOverlayRect anchor _ _ _ := anchor
  layoutHitTestPath _ _ := []

/-- **The pointer beside a popup over a dialog reaches the window**: the topmost overlay is no modal. -/
theorem popup_over_modal_passes :
    ∃ ops : List (OverlayOp anchoredLayout),
      ¬(run apply (start anchoredLayout ⟨0, 0, 100, 100⟩ 0) ops).manager.Isolates 0
        (.mouse ⟨.move, ⟨90, 90⟩, 0⟩) := by
  refine ⟨[.pushModal (.node ⟨0, [], ()⟩ []) ⟨10, 10, 50, 50⟩ (), .pushOverlay (.node ⟨1, [], ()⟩ []) ⟨20, 20, 10, 10⟩ ()],
    fun h => ?_⟩
  exact (h 0 rfl).stops rfl

end OverlaySession

end OriTerm
