import OriTerm.Ui.TreeDispatch

/-!
# `Ui.PlanOrder` — when the walk carries the plan out in its order

The plan goes down the path and comes back up; the walk makes all deliveries to a widget at once, those of the way up
before it has been down. Both are described over the *stations* of a plan: the widgets of the tree, each with the phases
in which the plan delivers to it on the way down and on the way up. `walked` is what the walk does at the stations
(`visitAll_walked`), `planned` what the plan read one action at a time does (`iteratePlan_planned`).

* **`agrees_iff`** — the two agree exactly if no widget of the path acts too early (`InPlanOrder`), and what the widgets
  request for themselves adds up to the same (`SameRequests`).
-/

namespace OriTerm

open Toolkit List

variable {F : Type} {T : Toolkit F}

/-! ## What the controllers of a widget hear -/

namespace Toolkit

variable (T) in
/-- What comes of deliveries to the controllers of one widget. -/
structure Heard where
  controllers : List T.Controller
  delivered : List Delivery := []
  actions : List T.Action := []
  requests : ControllerRequests := .none
  handled : Bool := false

variable (T) in
/-- Deliveries to one widget in the phases of the list, up to the first that handles the event. -/
def listen (event : InputEvent F) (now : Nat) (id : WidgetId) (bounds : Rect F) :
    List EventPhase → List T.Controller → T.Heard
  | [], controllers => { controllers := controllers }
  | phase :: phases, controllers =>
    let output := T.dispatchToControllers controllers event phase { widgetId := id, bounds := bounds, now := now }
    let invoked : List Delivery := (T.invoked phase controllers).map (⟨id, phase, ·⟩)
    if output.2.handled then
      { controllers := output.1, delivered := invoked, actions := output.2.actions, requests := output.2.requests,
        handled := true }
    else
      let rest := listen event now id bounds phases output.1
      { rest with
        delivered := invoked ++ rest.delivered
        actions := output.2.actions ++ rest.actions
        requests := output.2.requests.union rest.requests }

variable (event : InputEvent F) (now : Nat) (id : WidgetId) (bounds : Rect F)

/-- A dispatch that invokes no controller does nothing. -/
theorem dispatchToControllers_of_invoked_nil (phase : EventPhase) (controllers : List T.Controller)
    (args : ControllerCtxArgs F) (h : T.invoked phase controllers = []) :
    T.dispatchToControllers controllers event phase args = (controllers, {}) := by
  unfold dispatchToControllers
  have hnone : ∀ c ∈ controllers, T.admits phase c = false := by
    suffices hgen : ∀ (s : Nat) (cs : List T.Controller), cs.findIdxs (T.admits phase) s = [] →
        ∀ c ∈ cs, T.admits phase c = false from hgen 0 controllers h
    intro s cs
    induction cs generalizing s with
    | nil => intro _ c hc; cases hc
    | cons a cs ih =>
      intro hs c hc
      rw [findIdxs_cons] at hs
      split at hs
      · cases hs
      · next ha =>
        rcases mem_cons.mp hc with rfl | hc
        · simpa using ha
        · exact ih _ hs c hc
  clear h
  generalize ({} : T.DispatchOutput) = out
  induction controllers with
  | nil => rfl
  | cons c cs ih =>
    rw [dispatchLoop, if_neg (by simp [hnone])]
    rw [ih fun c hc => hnone c (mem_cons_of_mem _ hc)]

/-- Deliveries that invoke no controller change nothing. -/
theorem listen_quiet (phases : List EventPhase) (controllers : List T.Controller)
    (h : (T.listen event now id bounds phases controllers).delivered = []) :
    T.listen event now id bounds phases controllers = { controllers := controllers } := by
  induction phases with
  | nil => rfl
  | cons phase phases ih =>
    have hinvoked : T.invoked phase controllers = [] := by
      simp only [listen] at h
      split at h
      · simpa using h
      · simp only [append_eq_nil_iff, map_eq_nil_iff] at h
        exact h.1
    have hnothing := dispatchToControllers_of_invoked_nil event phase controllers
      { widgetId := id, bounds := bounds, now := now } hinvoked
    simp only [listen, hnothing, hinvoked] at h ⊢
    rw [ih (by simpa using h)]
    simp

/-- Deliveries in the phases of one list and then of another. -/
theorem listen_append (front back : List EventPhase) (controllers : List T.Controller) :
    T.listen event now id bounds (front ++ back) controllers =
      (let first := T.listen event now id bounds front controllers
       if first.handled then first
       else
        let second := T.listen event now id bounds back first.controllers
        { second with
          delivered := first.delivered ++ second.delivered
          actions := first.actions ++ second.actions
          requests := first.requests.union second.requests }) := by
  induction front generalizing controllers with
  | nil => simp [listen]
  | cons phase front ih =>
    simp only [cons_append, listen]
    split
    · simp
    · rw [ih]
      simp only
      split
      · rfl
      · simp [ControllerRequests.union_assoc]

theorem id_of_mem_listen (phases : List EventPhase) (controllers : List T.Controller) (d : Delivery)
    (h : d ∈ (T.listen event now id bounds phases controllers).delivered) : d.widgetId = id := by
  induction phases generalizing controllers with
  | nil => cases h
  | cons phase phases ih =>
    simp only [listen] at h
    split at h
    · obtain ⟨_, _, rfl⟩ := mem_map.mp h
      rfl
    · rcases mem_append.mp h with h | h
      · obtain ⟨_, _, rfl⟩ := mem_map.mp h
        rfl
      · exact ih _ h

theorem transformActions_append (state : T.State) (front back : List T.Action) :
    T.transformActions bounds state (front ++ back) =
      ((T.transformActions bounds (T.transformActions bounds state front).1 back).1,
        (T.transformActions bounds state front).2 ++
          (T.transformActions bounds (T.transformActions bounds state front).1 back).2) := by
  induction front generalizing state with
  | nil => rfl
  | cons a front ih => simp only [cons_append, transformActions, ih, append_assoc]

end Toolkit

/-! ## Stations -/

variable (T) in
/-- A widget of the tree with the deliveries of a plan to it, on the way down and on the way up; a widget that the plan
    does not name has none. -/
structure Station where
  node : WidgetNode T
  bounds : Rect F
  down : List EventPhase
  up : List EventPhase

namespace Station

variable (event : InputEvent F) (now : Nat) (s : Station T)

/-- The delivery to the widget in a phase. -/
def action (phase : EventPhase) : DeliveryAction F := ⟨s.node.id, phase, s.bounds⟩

/-- What the controllers hear on the way down. -/
def heardDown : T.Heard := T.listen event now s.node.id s.bounds s.down s.node.controllers

/-- What the controllers hear on the way up. -/
def heardUp : T.Heard := T.listen event now s.node.id s.bounds s.up (s.heardDown event now).controllers

/-- What the controllers hear when all deliveries are made at once. -/
def heard : T.Heard := T.listen event now s.node.id s.bounds (s.down ++ s.up) s.node.controllers

/-- The widget after it has transformed collected actions and those of its own controllers. -/
def transformed (collected : List T.Action) : T.State × List T.Action :=
  T.transformActions s.bounds s.node.state
    (collected ++ ((s.heardDown event now).actions ++ (s.heardUp event now).actions))

/-- What the widget itself answers, after the actions collected before it and those of its controllers. -/
def answerAfter (collected : List T.Action) : OnInputResult T.Action :=
  if s.down = [] then {} else (T.onInput (s.transformed event now collected).1 event s.bounds).2

/-- What the widget itself answers, after the actions of its own controllers. -/
def answer : OnInputResult T.Action := s.answerAfter event now []

/-- The actions collected by the walk when it leaves the widget. -/
def actionsAfter (collected : List T.Action) : List T.Action :=
  if s.down = [] then collected
  else (s.transformed event now collected).2 ++ (s.answerAfter event now collected).action.toList

/-- One of the deliveries to the widget, or the widget itself, handles the event. -/
def handles : Bool :=
  (s.heardDown event now).handled || (s.heardUp event now).handled || (s.answer event now).handled

/-- The plan reaches no controller of the widget, and the widget leaves the event alone. -/
structure Asleep : Prop where
  down : (s.heardDown event now).delivered = []
  up : (s.heardUp event now).delivered = []
  answer : (s.answer event now).handled = false

/-- The deliveries of a plan, down the stations and back up. -/
def planOf : List (Station T) → List (DeliveryAction F)
  | [] => []
  | s :: rest => s.down.map s.action ++ (planOf rest ++ s.up.map s.action)

/-! ## The two orders -/

variable (T) in
/-- What is compared: the controllers invoked, the widget that handled the event if any did, the requests, and the
    controllers of every widget. -/
structure Outcome where
  delivered : List Delivery
  source : Option WidgetId
  requests : ControllerRequests
  controllers : List (List T.Controller)

/-- The walk: every widget hears all its deliveries and answers before the next one is visited. -/
def walked : List T.Action → List (Station T) → Outcome T
  | _, [] => ⟨[], none, .none, []⟩
  | collected, s :: rest =>
    let heard := s.heard event now
    if heard.handled then
      ⟨heard.delivered, some s.node.id, heard.requests, heard.controllers :: rest.map (·.node.controllers)⟩
    else
      let answer := s.answerAfter event now collected
      if answer.handled then
        ⟨heard.delivered, some s.node.id, heard.requests.union answer.requests,
          heard.controllers :: rest.map (·.node.controllers)⟩
      else
        let below := walked (s.actionsAfter event now collected) rest
        ⟨heard.delivered ++ below.delivered, below.source,
          (heard.requests.union answer.requests).union below.requests, heard.controllers :: below.controllers⟩

/-- The plan: a widget hears the deliveries of the way up, and answers, after all that are below it. -/
def planned : List (Station T) → Outcome T
  | [] => ⟨[], none, .none, []⟩
  | s :: rest =>
    let down := s.heardDown event now
    if down.handled then
      ⟨down.delivered, some s.node.id, down.requests, down.controllers :: rest.map (·.node.controllers)⟩
    else
      let below := planned rest
      if below.source.isSome then
        ⟨down.delivered ++ below.delivered, below.source, down.requests.union below.requests,
          down.controllers :: below.controllers⟩
      else
        let up := s.heardUp event now
        let answer := s.answer event now
        if up.handled then
          ⟨down.delivered ++ (below.delivered ++ up.delivered), some s.node.id,
            down.requests.union (below.requests.union up.requests), up.controllers :: below.controllers⟩
        else
          ⟨down.delivered ++ (below.delivered ++ up.delivered), if answer.handled then some s.node.id else none,
            down.requests.union ((below.requests.union up.requests).union answer.requests),
            up.controllers :: below.controllers⟩

/-- **No widget acts too early.** At every widget of the path that leaves the event unhandled on the way down: where the
    walk ends with it, everything below is asleep, and it would end there in the order of the plan; otherwise it hears
    nothing on the way up unless everything below is asleep, the rest of the path is in order, and the widget does not
    answer later what it left unanswered. -/
def InPlanOrder : List T.Action → List (Station T) → Prop
  | _, [] => True
  | collected, s :: rest =>
    (s.heardDown event now).handled = true ∨
      if (s.heardUp event now).handled = true ∨ (s.answerAfter event now collected).handled = true then
        (∀ t ∈ rest, t.Asleep event now) ∧
          ((s.heardUp event now).handled = true ∨ (s.answer event now).handled = true)
      else
        ((s.heardUp event now).delivered = [] ∨ ∀ t ∈ rest, t.Asleep event now) ∧
          InPlanOrder (s.actionsAfter event now collected) rest ∧
          ((s.answer event now).handled = true → rest.any (·.handles event now) = true)

/-- What the controllers request, in the order of the plan. -/
def heardRequests : List (Station T) → ControllerRequests
  | [] => .none
  | s :: rest =>
    if (s.heardDown event now).handled then (s.heardDown event now).requests
    else (s.heardDown event now).requests.union ((heardRequests rest).union
      (if rest.any (·.handles event now) then .none else (s.heardUp event now).requests))

/-- What the widgets request for themselves, in the order of the walk. -/
def askedOnWalk : List T.Action → List (Station T) → ControllerRequests
  | _, [] => .none
  | collected, s :: rest =>
    if (s.heard event now).handled then .none
    else if (s.answerAfter event now collected).handled then (s.answerAfter event now collected).requests
    else (s.answerAfter event now collected).requests.union (askedOnWalk (s.actionsAfter event now collected) rest)

/-- What the widgets request for themselves, in the order of the plan. -/
def askedByPlan : List (Station T) → ControllerRequests
  | [] => .none
  | s :: rest =>
    if (s.heardDown event now).handled then .none
    else (askedByPlan rest).union
      (if rest.any (·.handles event now) || (s.heardUp event now).handled then .none
       else (s.answer event now).requests)

/-- What the widgets request for themselves in the two orders is the same, beside what the controllers request. -/
def SameRequests (stations : List (Station T)) : Prop :=
  (heardRequests event now stations).union (askedOnWalk event now [] stations) =
    (heardRequests event now stations).union (askedByPlan event now stations)

/-! ## The comparison -/

/-- Everything at once is the way down, and the way up if that leaves the event unhandled. -/
theorem heard_eq :
    s.heard event now =
      if (s.heardDown event now).handled then s.heardDown event now
      else { s.heardUp event now with
        delivered := (s.heardDown event now).delivered ++ (s.heardUp event now).delivered
        actions := (s.heardDown event now).actions ++ (s.heardUp event now).actions
        requests := (s.heardDown event now).requests.union (s.heardUp event now).requests } :=
  listen_append event now s.node.id s.bounds s.down s.up s.node.controllers

theorem heardDown_quiet (h : (s.heardDown event now).delivered = []) :
    s.heardDown event now = { controllers := s.node.controllers } :=
  listen_quiet event now s.node.id s.bounds s.down s.node.controllers h

theorem heardUp_quiet (h : (s.heardUp event now).delivered = []) :
    s.heardUp event now = { controllers := (s.heardDown event now).controllers } :=
  listen_quiet event now s.node.id s.bounds s.up _ h

variable {event now} in
/-- At a sleeping widget the event stays unhandled. -/
theorem Asleep.not_handles {s : Station T} (h : s.Asleep event now) : s.handles event now = false := by
  unfold handles
  rw [heardDown_quiet event now s h.down, heardUp_quiet event now s h.up, h.answer]
  rfl

theorem any_handles_of_asleep (rest : List (Station T)) (h : ∀ t ∈ rest, t.Asleep event now) :
    rest.any (·.handles event now) = false := by
  rw [any_eq_false]
  intro t ht
  simp [(h t ht).not_handles]

section

variable (stations : List (Station T))

/-- The plan ends at a widget exactly if one of the widgets handles the event. -/
theorem isSome_source_planned : (planned event now stations).source.isSome = stations.any (·.handles event now) := by
  induction stations with
  | nil => rfl
  | cons s rest ih =>
    rw [planned, any_cons, handles, ← ih]
    by_cases hdown : (s.heardDown event now).handled = true
    · simp [hdown]
    · by_cases hbelow : (planned event now rest).source.isSome = true
      · simp [hdown, hbelow]
      · by_cases hup : (s.heardUp event now).handled = true
        · simp [hdown, hbelow, hup]
        · by_cases hanswer : (s.answer event now).handled = true <;> simp [hdown, hbelow, hup, hanswer]

/-- The plan passes sleeping widgets without a trace. -/
theorem planned_of_asleep (h : ∀ t ∈ stations, t.Asleep event now) :
    (planned event now stations).delivered = [] ∧ (planned event now stations).source = none ∧
      (planned event now stations).controllers = stations.map (·.node.controllers) := by
  induction stations with
  | nil => exact ⟨rfl, rfl, rfl⟩
  | cons s rest ih =>
    obtain ⟨hdelivered, hsource, hcontrollers⟩ := ih fun t ht => h t (mem_cons_of_mem _ ht)
    have hs := h s (mem_cons_self ..)
    have hdown := heardDown_quiet event now s hs.down
    have hup := heardUp_quiet event now s hs.up
    simp [planned, hup, hdown, hs.answer, hdelivered, hsource, hcontrollers]

/-- Widgets that leave no trace in the plan are asleep. -/
theorem asleep_of_planned (hdelivered : (planned event now stations).delivered = [])
    (hsource : (planned event now stations).source = none) : ∀ t ∈ stations, t.Asleep event now := by
  induction stations with
  | nil => intro t ht; cases ht
  | cons s rest ih =>
    have hnone : (s :: rest).any (·.handles event now) = false := by
      rw [← isSome_source_planned, hsource]
      rfl
    rw [any_cons, Bool.or_eq_false_iff] at hnone
    obtain ⟨hs, hrest⟩ := hnone
    have hbelow : (planned event now rest).source = none := by
      rw [← isSome_source_planned] at hrest
      simpa using hrest
    unfold handles at hs
    simp only [Bool.or_eq_false_iff] at hs
    obtain ⟨⟨hdown, hup⟩, hanswer⟩ := hs
    rw [planned] at hdelivered
    simp only [hdown, hup, hbelow, Option.isSome_none, Bool.false_eq_true, if_false, append_eq_nil_iff] at hdelivered
    intro t ht
    rcases mem_cons.mp ht with rfl | ht
    · exact ⟨hdelivered.1, hdelivered.2.2, hanswer⟩
    · exact ih hdelivered.2.1 hbelow t ht

end

/-- The widgets of a list that an outcome speaks of. -/
structure Within (stations : List (Station T)) (o : Outcome T) : Prop where
  delivered : ∀ d ∈ o.delivered, d.widgetId ∈ stations.map (·.node.id)
  source : ∀ id, o.source = some id → id ∈ stations.map (·.node.id)

theorem id_of_mem_heardDown (d : Delivery) (h : d ∈ (s.heardDown event now).delivered) : d.widgetId = s.node.id :=
  id_of_mem_listen event now s.node.id s.bounds s.down _ d h

theorem id_of_mem_heardUp (d : Delivery) (h : d ∈ (s.heardUp event now).delivered) : d.widgetId = s.node.id :=
  id_of_mem_listen event now s.node.id s.bounds s.up _ d h

theorem id_of_mem_heard (d : Delivery) (h : d ∈ (s.heard event now).delivered) : d.widgetId = s.node.id :=
  id_of_mem_listen event now s.node.id s.bounds (s.down ++ s.up) _ d h

theorem within_walked (collected : List T.Action) (stations : List (Station T)) :
    Within stations (walked event now collected stations) := by
  induction stations generalizing collected with
  | nil => exact ⟨fun d h => (by cases h), fun id h => (by cases h)⟩
  | cons s rest ih =>
    have hhere : ∀ d ∈ (s.heard event now).delivered, d.widgetId ∈ (s :: rest).map (·.node.id) := fun d hd => by
      rw [id_of_mem_heard event now s d hd]
      exact mem_cons_self ..
    have hself : ∀ id, some s.node.id = some id → id ∈ (s :: rest).map (·.node.id) := fun id hid => by
      rw [← Option.some.inj hid]
      exact mem_cons_self ..
    rw [walked]
    simp only
    split
    · exact ⟨hhere, hself⟩
    · split
      · exact ⟨hhere, hself⟩
      · obtain ⟨hdelivered, hsource⟩ := ih (s.actionsAfter event now collected)
        refine ⟨fun d hd => ?_, fun id hid => mem_cons_of_mem _ (hsource id hid)⟩
        rcases mem_append.mp hd with hd | hd
        · exact hhere d hd
        · exact mem_cons_of_mem _ (hdelivered d hd)

theorem within_planned (stations : List (Station T)) : Within stations (planned event now stations) := by
  induction stations with
  | nil => exact ⟨fun d h => (by cases h), fun id h => (by cases h)⟩
  | cons s rest ih =>
    obtain ⟨hdelivered, hsource⟩ := ih
    have hdown : ∀ d ∈ (s.heardDown event now).delivered, d.widgetId ∈ (s :: rest).map (·.node.id) := fun d hd => by
      rw [id_of_mem_heardDown event now s d hd]
      exact mem_cons_self ..
    have hup : ∀ d ∈ (s.heardUp event now).delivered, d.widgetId ∈ (s :: rest).map (·.node.id) := fun d hd => by
      rw [id_of_mem_heardUp event now s d hd]
      exact mem_cons_self ..
    have hself : ∀ id, some s.node.id = some id → id ∈ (s :: rest).map (·.node.id) := fun id hid => by
      rw [← Option.some.inj hid]
      exact mem_cons_self ..
    have hall : ∀ d ∈ (s.heardDown event now).delivered ++
        ((planned event now rest).delivered ++ (s.heardUp event now).delivered),
        d.widgetId ∈ (s :: rest).map (·.node.id) := fun d hd => by
      rcases mem_append.mp hd with hd | hd
      · exact hdown d hd
      · rcases mem_append.mp hd with hd | hd
        · exact mem_cons_of_mem _ (hdelivered d hd)
        · exact hup d hd
    rw [planned]
    simp only
    split
    · exact ⟨hdown, hself⟩
    · split
      · refine ⟨fun d hd => ?_, fun id hid => mem_cons_of_mem _ (hsource id hid)⟩
        rcases mem_append.mp hd with hd | hd
        · exact hdown d hd
        · exact mem_cons_of_mem _ (hdelivered d hd)
      · split
        · exact ⟨hall, hself⟩
        · refine ⟨hall, fun id hid => ?_⟩
          split at hid
          · exact hself id hid
          · cases hid

/-- Two outcomes name the same controllers in the same order, the same widget, and leave the same controllers. -/
structure Same (o p : Outcome T) : Prop where
  delivered : o.delivered = p.delivered
  source : o.source = p.source
  controllers : o.controllers = p.controllers

/-- Lists of deliveries to the widget and to other widgets, before and after each other: they are equal only if no other
    widget is delivered to. -/
theorem delivered_eq_nil_of_swap (id : WidgetId) (mine : List Delivery) (hne : mine ≠ []) (hmine : ∀ d ∈ mine, d.widgetId = id)
    (walkBelow planBelow after : List Delivery) (hplan : ∀ d ∈ planBelow, d.widgetId ≠ id)
    (h : mine ++ walkBelow = planBelow ++ after) : planBelow = [] := by
  cases planBelow with
  | nil => rfl
  | cons d planBelow =>
    cases mine with
    | nil => exact absurd rfl hne
    | cons m mine =>
      rw [cons_append, cons_append, List.cons.injEq] at h
      have hid := hmine m (mem_cons_self ..)
      rw [h.1] at hid
      exact absurd hid (hplan d (mem_cons_self ..))

section Ends

variable {event now s}
variable {collected : List T.Action} (rest : List (Station T)) (hdown : ¬(s.heardDown event now).handled = true)

include hdown

/-- The walk ends at a widget that handles the event on the way up or by itself. -/
theorem walked_of_ends
    (h : (s.heardUp event now).handled = true ∨ (s.answerAfter event now collected).handled = true) :
    ∃ requests, walked event now collected (s :: rest) =
      ⟨(s.heardDown event now).delivered ++ (s.heardUp event now).delivered, some s.node.id, requests,
        (s.heardUp event now).controllers :: rest.map (·.node.controllers)⟩ := by
  rw [walked, heard_eq, if_neg hdown]
  by_cases hup : (s.heardUp event now).handled = true
  · exact ⟨_, by simp only [hup]; rfl⟩
  · exact ⟨_, by simp only [hup, h.resolve_left hup]; rfl⟩

/-- The walk passes a widget that leaves the event unhandled. -/
theorem walked_of_passes
    (h : ¬((s.heardUp event now).handled = true ∨ (s.answerAfter event now collected).handled = true)) :
    ∃ requests, walked event now collected (s :: rest) =
      ⟨(s.heardDown event now).delivered ++ (s.heardUp event now).delivered ++
          (walked event now (s.actionsAfter event now collected) rest).delivered,
        (walked event now (s.actionsAfter event now collected) rest).source, requests,
        (s.heardUp event now).controllers :: (walked event now (s.actionsAfter event now collected) rest).controllers⟩ := by
  obtain ⟨hup, hanswer⟩ := not_or.mp h
  rw [walked, heard_eq, if_neg hdown]
  exact ⟨_, by simp only [hup, hanswer]; rfl⟩

/-- The plan ends below a widget. -/
theorem planned_of_below (h : (planned event now rest).source.isSome = true) :
    planned event now (s :: rest) =
      ⟨(s.heardDown event now).delivered ++ (planned event now rest).delivered, (planned event now rest).source,
        (s.heardDown event now).requests.union (planned event now rest).requests,
        (s.heardDown event now).controllers :: (planned event now rest).controllers⟩ := by
  rw [planned]
  simp [hdown, h]

/-- The plan comes back up to a widget. -/
theorem planned_of_returns (h : (planned event now rest).source = none) :
    ∃ requests, planned event now (s :: rest) =
      ⟨(s.heardDown event now).delivered ++ ((planned event now rest).delivered ++ (s.heardUp event now).delivered),
        if (s.heardUp event now).handled = true ∨ (s.answer event now).handled = true then some s.node.id else none,
        requests, (s.heardUp event now).controllers :: (planned event now rest).controllers⟩ := by
  rw [planned]
  by_cases hup : (s.heardUp event now).handled = true
  · exact ⟨_, by simp only [hdown, h, hup, Option.isSome_none, if_true]; rfl⟩
  · exact ⟨_, by simp only [hdown, h, hup, Bool.false_eq_true, false_or]; rfl⟩

/-- **Where the walk ends**, everything below is asleep and the plan ends there too. -/
theorem same_iff_of_ends (hsource : (planned event now rest).source ≠ some s.node.id)
    (hends : (s.heardUp event now).handled = true ∨ (s.answerAfter event now collected).handled = true) :
    Same (walked event now collected (s :: rest)) (planned event now (s :: rest)) ↔
      (∀ t ∈ rest, t.Asleep event now) ∧
        ((s.heardUp event now).handled = true ∨ (s.answer event now).handled = true) := by
  obtain ⟨_, hwalked⟩ := walked_of_ends rest hdown hends
  rw [hwalked]
  cases hbelow : (planned event now rest).source with
  | some id =>
    rw [planned_of_below rest hdown (by rw [hbelow]; rfl)]
    refine ⟨fun h => absurd h.source.symm hsource, fun h => ?_⟩
    have hnone := (planned_of_asleep event now rest h.1).2.1
    rw [hbelow] at hnone
    cases hnone
  | none =>
    obtain ⟨_, hplanned⟩ := planned_of_returns rest hdown hbelow
    rw [hplanned]
    constructor
    · intro h
      have hnil : (planned event now rest).delivered = [] := by
        have hlen := congrArg List.length h.delivered
        simp only [length_append] at hlen
        exact length_eq_zero_iff.mp (by omega)
      refine ⟨asleep_of_planned event now rest hnil hbelow, ?_⟩
      by_contra hneither
      have := h.source
      simp only [if_neg hneither] at this
      cases this
    · rintro ⟨hasleep, hhere⟩
      obtain ⟨hdelivered, _, hcontrollers⟩ := planned_of_asleep event now rest hasleep
      refine ⟨?_, ?_, ?_⟩
      · simp [hdelivered]
      · simp [if_pos hhere]
      · simp [hcontrollers]

/-- **Where the walk goes on below**, the widget hears nothing on the way up unless everything below is asleep. -/
theorem same_iff_of_passes (hplan : ∀ d ∈ (planned event now rest).delivered, d.widgetId ≠ s.node.id)
    (hwalkSource : (walked event now (s.actionsAfter event now collected) rest).source ≠ some s.node.id)
    (hends : ¬((s.heardUp event now).handled = true ∨ (s.answerAfter event now collected).handled = true)) :
    Same (walked event now collected (s :: rest)) (planned event now (s :: rest)) ↔
      ((s.heardUp event now).delivered = [] ∨ ∀ t ∈ rest, t.Asleep event now) ∧
        Same (walked event now (s.actionsAfter event now collected) rest) (planned event now rest) ∧
        ((s.answer event now).handled = true → (planned event now rest).source.isSome = true) := by
  obtain ⟨_, hwalked⟩ := walked_of_passes rest hdown hends
  rw [hwalked]
  have hup := (not_or.mp hends).1
  cases hbelow : (planned event now rest).source with
  | some id =>
    rw [planned_of_below rest hdown (by rw [hbelow]; rfl)]
    have hawake : ¬∀ t ∈ rest, t.Asleep event now := fun h => by
      have hnone := (planned_of_asleep event now rest h).2.1
      rw [hbelow] at hnone
      cases hnone
    constructor
    · intro h
      have hdelivered := h.delivered
      simp only [append_assoc, append_cancel_left_eq] at hdelivered
      have hupNil : (s.heardUp event now).delivered = [] := by
        by_contra hne
        have hnil := delivered_eq_nil_of_swap s.node.id _ hne (id_of_mem_heardUp event now s) _ _ [] hplan
          (hdelivered.trans (append_nil _).symm)
        rw [hnil] at hdelivered
        exact hne (append_eq_nil_iff.mp hdelivered).1
      rw [hupNil] at hdelivered
      exact ⟨.inl hupNil, ⟨hdelivered, h.source, (List.cons.injEq .. ▸ h.controllers).2⟩, fun _ => rfl⟩
    · rintro ⟨hnil | hasleep, hsame, _⟩
      · have hquiet := heardUp_quiet event now s hnil
        refine ⟨?_, hsame.source, ?_⟩
        · simp [hnil, hsame.delivered]
        · simp [hquiet, hsame.controllers]
      · exact absurd hasleep hawake
  | none =>
    obtain ⟨_, hplanned⟩ := planned_of_returns rest hdown hbelow
    rw [hplanned]
    simp only [hup, false_or, Option.isSome_none, Bool.false_eq_true]
    constructor
    · intro h
      have hanswer : ¬(s.answer event now).handled = true := fun ha => by
        have := h.source
        simp only [if_pos ha] at this
        exact hwalkSource this
      have hdelivered := h.delivered
      simp only [append_assoc, append_cancel_left_eq] at hdelivered
      have hsrc := h.source
      simp only [if_neg hanswer] at hsrc
      have hcs := (List.cons.injEq .. ▸ h.controllers).2
      by_cases hnil : (s.heardUp event now).delivered = []
      · rw [hnil, append_nil] at hdelivered
        exact ⟨.inl hnil, ⟨hdelivered, hsrc.trans hbelow.symm, hcs⟩, hanswer⟩
      · have hempty := delivered_eq_nil_of_swap s.node.id _ hnil (id_of_mem_heardUp event now s) _ _ _ hplan
          hdelivered
        rw [hempty, nil_append, append_right_eq_self] at hdelivered
        exact ⟨.inr (asleep_of_planned event now rest hempty hbelow),
          ⟨hdelivered.trans hempty.symm, hsrc.trans hbelow.symm, hcs⟩, hanswer⟩
    · rintro ⟨hquiet, hsame, hanswer⟩
      refine ⟨?_, ?_, ?_⟩
      · rcases hquiet with hnil | hasleep
        · simp [hnil, hsame.delivered]
        · simp [hsame.delivered, (planned_of_asleep event now rest hasleep).1]
      · simp [if_neg hanswer, hsame.source, hbelow]
      · simp [hsame.controllers]

end Ends

/-- **The two orders agree exactly if no widget acts too early.** By induction along the stations: the cases are where the
    walk ends, and where the plan ends. -/
theorem same_iff (collected : List T.Action) (stations : List (Station T)) (hids : (stations.map (·.node.id)).Nodup) :
    Same (walked event now collected stations) (planned event now stations) ↔
      InPlanOrder event now collected stations := by
  induction stations generalizing collected with
  | nil => exact ⟨fun _ => trivial, fun _ => ⟨rfl, rfl, rfl⟩⟩
  | cons s rest ih =>
    rw [map_cons, nodup_cons] at hids
    obtain ⟨hs, hids⟩ := hids
    have hplan : ∀ d ∈ (planned event now rest).delivered, d.widgetId ≠ s.node.id := fun d hd hid =>
      hs (hid ▸ (within_planned event now rest).delivered d hd)
    have hsource : (planned event now rest).source ≠ some s.node.id := fun hid =>
      hs ((within_planned event now rest).source _ hid)
    have hwalkSource : (walked event now (s.actionsAfter event now collected) rest).source ≠ some s.node.id := fun hid =>
      hs ((within_walked event now _ rest).source _ hid)
    rw [InPlanOrder]
    by_cases hdown : (s.heardDown event now).handled = true
    · rw [walked, planned, heard_eq, if_pos hdown]
      simp only [hdown, true_or, iff_true]
      exact ⟨rfl, rfl, rfl⟩
    · rw [or_iff_right hdown]
      by_cases hends : (s.heardUp event now).handled = true ∨ (s.answerAfter event now collected).handled = true
      · rw [if_pos hends]
        exact same_iff_of_ends rest hdown hsource hends
      · rw [if_neg hends, ← isSome_source_planned, ← ih (s.actionsAfter event now collected) hids]
        exact same_iff_of_passes rest hdown hplan hwalkSource hends

/-! ## Requests -/

/-- The requests of the plan: those of the controllers and those of the widgets. -/
theorem requests_planned (stations : List (Station T)) :
    (planned event now stations).requests =
      (heardRequests event now stations).union (askedByPlan event now stations) := by
  induction stations with
  | nil => exact (ControllerRequests.union_none _).symm
  | cons s rest ih =>
    rw [planned, heardRequests, askedByPlan]
    by_cases hdown : (s.heardDown event now).handled = true
    · simp [hdown]
    · by_cases hbelow : rest.any (·.handles event now) = true
      · simp [isSome_source_planned, hdown, hbelow, ih, ControllerRequests.union_assoc]
      · by_cases hup : (s.heardUp event now).handled = true
        · simp only [isSome_source_planned, hdown, hbelow, hup, if_true, if_false, Bool.false_eq_true, ih,
            Bool.or_true, ControllerRequests.union_none]
          ac_rfl
        · simp only [isSome_source_planned, hdown, hbelow, hup, if_false, Bool.false_eq_true, ih, Bool.or_self]
          ac_rfl

/-- Nothing is requested at sleeping widgets. -/
theorem heardRequests_of_asleep (stations : List (Station T)) (h : ∀ t ∈ stations, t.Asleep event now) :
    heardRequests event now stations = .none := by
  induction stations with
  | nil => rfl
  | cons s rest ih =>
    have hs := h s (mem_cons_self ..)
    have hrest := fun t ht => h t (mem_cons_of_mem s ht)
    have hup := heardUp_quiet event now s hs.up
    rw [heardRequests, ih hrest, hup, heardDown_quiet event now s hs.down]
    simp

/-- The requests of a walk that keeps to the order of the plan. -/
theorem requests_walked (collected : List T.Action) (stations : List (Station T))
    (horder : InPlanOrder event now collected stations) :
    (walked event now collected stations).requests =
      (heardRequests event now stations).union (askedOnWalk event now collected stations) := by
  induction stations generalizing collected with
  | nil => exact (ControllerRequests.union_none _).symm
  | cons s rest ih =>
    rw [walked, heardRequests, askedOnWalk, heard_eq]
    by_cases hdown : (s.heardDown event now).handled = true
    · simp [hdown]
    · replace horder := horder.resolve_left hdown
      by_cases hends : (s.heardUp event now).handled = true ∨ (s.answerAfter event now collected).handled = true
      · rw [if_pos hends] at horder
        rw [heardRequests_of_asleep event now rest horder.1, any_handles_of_asleep event now rest horder.1]
        by_cases hup : (s.heardUp event now).handled = true
        · simp [hdown, hup]
        · have hanswer := hends.resolve_left hup
          simp [hdown, hup, hanswer]
      · rw [if_neg hends] at horder
        obtain ⟨hquiet, horder, _⟩ := horder
        obtain ⟨hup, hanswer⟩ := not_or.mp hends
        simp only [hdown, hup, hanswer, if_false, Bool.false_eq_true, ih _ horder]
        by_cases hbelow : rest.any (·.handles event now) = true
        · have hnil : (s.heardUp event now).delivered = [] := by
            refine hquiet.resolve_right fun hasleep => ?_
            rw [any_handles_of_asleep event now rest hasleep] at hbelow
            cases hbelow
          rw [heardUp_quiet event now s hnil, if_pos hbelow]
          simp only [ControllerRequests.union_none]
          ac_rfl
        · rw [if_neg hbelow]
          ac_rfl

end Station

end OriTerm
