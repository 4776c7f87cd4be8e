import OriTerm.Ui.PlanOrder

/-!
# `Ui.TreePlan` — the walk and the plan over the stations of a tree

The widgets of a tree and the plan for a path of it make a list of stations (`stationsOf`); the plan is the way down them
and back up (`planOf_stationsOf`). The walk over the tree is `walked` over the stations (`visitAll_walked`), and the plan
taken one action at a time is `planned` (`iteratePlan_planned`).

* **`dispatchToWidgetTree_agrees_iff`** — the walk ends as the plan does exactly if no widget acts too early and the
  requests add up to the same.
-/

namespace OriTerm

open Toolkit List

variable {F : Type} {T : Toolkit F}

/-! ## Results that follow an outcome -/

namespace Toolkit.TreeDispatchResult

/-- The result with what the controllers of a widget made of their deliveries. -/
def hear (result : T.TreeDispatchResult) (heard : T.Heard) (id : WidgetId) : T.TreeDispatchResult :=
  { handled := heard.handled
    actions := result.actions ++ heard.actions
    requests := result.requests.union heard.requests
    source := if heard.handled then some id else result.source
    delivered := result.delivered ++ heard.delivered }

/-- A result carried on by an outcome; the actions are left open. -/
structure Follows (result result' : T.TreeDispatchResult) (o : Station.Outcome T) : Prop where
  delivered : result'.delivered = result.delivered ++ o.delivered
  source : result'.source = o.source
  handled : result'.handled = o.source.isSome
  requests : result'.requests = result.requests.union o.requests

/-- No widget has handled the event so far. -/
structure Open (result : T.TreeDispatchResult) : Prop where
  handled : result.handled = false
  source : result.source = none

/-- A result that stays open under an outcome without a source. -/
theorem Follows.isOpen {result result' : T.TreeDispatchResult} {o : Station.Outcome T} (h : result.Follows result' o)
    (hsource : o.source = none) : result'.Open :=
  ⟨by rw [h.handled, hsource]; rfl, h.source.trans hsource⟩

end Toolkit.TreeDispatchResult

namespace Toolkit

variable (event : InputEvent F) (now : Nat) (id : WidgetId) (bounds : Rect F)

/-- Deliveries of the walk to one widget are heard by its controllers. -/
theorem deliverActions_eq (phases : List EventPhase) (controllers : List T.Controller) (result : T.TreeDispatchResult)
    (hopen : result.Open) :
    T.deliverActions event now id (phases.map (⟨id, ·, bounds⟩)) controllers result =
      ((T.listen event now id bounds phases controllers).controllers,
        result.hear (T.listen event now id bounds phases controllers) id) := by
  induction phases generalizing controllers result with
  | nil =>
    obtain ⟨handled, actions, requests, source, delivered⟩ := result
    obtain ⟨hhandled, hsource⟩ := hopen
    subst hhandled hsource
    simp [deliverActions, listen, TreeDispatchResult.hear]
  | cons phase phases ih =>
    obtain ⟨hhandled, hsource⟩ := hopen
    rw [map_cons, deliverActions, listen]
    simp only [TreeDispatchResult.merge, TreeDispatchResult.record, hhandled, hsource]
    by_cases hout : (T.dispatchToControllers controllers event phase
        { widgetId := id, bounds := bounds, now := now }).2.handled = true
    · simp [hout, TreeDispatchResult.hear]
    · simp only [hout]
      rw [ih _ _ ⟨rfl, rfl⟩]
      simp [TreeDispatchResult.hear, ControllerRequests.union_assoc, hsource]

/-- A widget without controllers hears nothing. -/
theorem listen_nil (phases : List EventPhase) : T.listen event now id bounds phases [] = { controllers := [] } := by
  induction phases with
  | nil => rfl
  | cons phase phases ih => simp [listen, dispatchToControllers, dispatchLoop, invoked, ih]

end Toolkit

namespace Station

variable (event : InputEvent F) (now : Nat)

/-! ## The walk -/

/-- The deliveries to the widget of a station. -/
def actions (s : Station T) : List (DeliveryAction F) := (s.down ++ s.up).map s.action

/-- The plan of the inputs delivers to the widget of the station what the station says. -/
structure Serves (inputs : DispatchInputs F) (s : Station T) : Prop where
  actions : inputs.actions.filter (·.widgetId == s.node.id) = s.actions
  up : s.down = [] → s.up = []

variable [Zero F]

/-- What the walk leaves of the widget of a station. -/
structure Visited (s : Station T) (result : T.TreeDispatchResult) (n : WidgetNode T)
    (result' : T.TreeDispatchResult) : Prop where
  controllers : n.controllers = (s.heard event now).controllers
  delivered : result'.delivered = result.delivered ++ (s.heard event now).delivered
  ends : (s.heard event now).handled = true → result'.handled = true ∧ result'.source = some s.node.id ∧
    result'.requests = result.requests.union (s.heard event now).requests
  answers : (s.heard event now).handled = false →
    result'.handled = (s.answerAfter event now result.actions).handled ∧
      result'.source = (if (s.answerAfter event now result.actions).handled then some s.node.id else none) ∧
      result'.requests = (result.requests.union (s.heard event now).requests).union
        (s.answerAfter event now result.actions).requests ∧
      result'.actions = s.actionsAfter event now result.actions

/-- **The walk at one widget.** -/
theorem visited_visit (s : Station T) (inputs : DispatchInputs F) (hserves : s.Serves inputs)
    (result : T.TreeDispatchResult) (hopen : result.Open) :
    s.Visited inputs.event inputs.now result (T.visit inputs s.node result).1 (T.visit inputs s.node result).2 := by
  by_cases hdown : s.down = []
  · -- the plan does not name the widget
    have hnone : inputs.actions.any (·.widgetId == s.node.id) = false := by
      have hfilter := hserves.actions
      rw [actions, hdown, hserves.up hdown, append_nil, map_nil, filter_eq_nil_iff] at hfilter
      rw [any_eq_false]
      exact hfilter
    have hheard : s.heard inputs.event inputs.now = { controllers := s.node.controllers } := by
      rw [heard, hdown, hserves.up hdown]
      rfl
    rw [visit, hnone]
    refine ⟨?_, ?_, ?_, ?_⟩
    · rw [hheard]
      rfl
    · rw [hheard]
      exact (append_nil _).symm
    · intro h
      rw [hheard] at h
      cases h
    · intro _
      simp [answerAfter, actionsAfter, hdown, hheard, hopen.handled, hopen.source]
  · have hne : s.actions ≠ [] := by
      rw [actions]
      simp [hdown]
    have hany : inputs.actions.any (·.widgetId == s.node.id) = true := by
      obtain ⟨a, ha⟩ := exists_mem_of_ne_nil _ (hserves.actions ▸ hne)
      rw [any_eq_true]
      exact ⟨a, (mem_filter.mp ha).1, (mem_filter.mp ha).2⟩
    have hbounds : s.actions.head?.elim Rect.default (·.bounds) = s.bounds := by
      obtain ⟨phase, phases, hsplit⟩ := exists_cons_of_ne_nil hdown
      rw [actions, hsplit]
      rfl
    have hloop : (if s.node.controllers.isEmpty = true then (s.node.controllers, result)
        else T.deliverActions inputs.event inputs.now s.node.id s.actions s.node.controllers result) =
        ((s.heard inputs.event inputs.now).controllers,
          result.hear (s.heard inputs.event inputs.now) s.node.id) := by
      have hall := deliverActions_eq inputs.event inputs.now s.node.id s.bounds (s.down ++ s.up) s.node.controllers
        result hopen
      split
      · next hempty =>
        have hnil := isEmpty_iff.mp hempty
        rw [heard, hnil, listen_nil]
        obtain ⟨handled, acts, requests, source, delivered⟩ := result
        obtain ⟨hhandled, hsource⟩ := hopen
        subst hhandled hsource
        simp [TreeDispatchResult.hear]
      · exact hall
    rw [visit, if_pos hany, dispatchToNode, hserves.actions]
    simp only [hloop, hbounds]
    by_cases hhandled : (s.heard inputs.event inputs.now).handled = true
    · simp only [TreeDispatchResult.hear, hhandled]
      exact ⟨rfl, rfl, fun _ => ⟨rfl, rfl, rfl⟩, fun h => absurd h (by simp [hhandled])⟩
    · have hactions : (s.heard inputs.event inputs.now).actions =
          (s.heardDown inputs.event inputs.now).actions ++ (s.heardUp inputs.event inputs.now).actions := by
        rw [heard_eq] at hhandled ⊢
        split at hhandled
        · next hd => exact absurd hd hhandled
        · next hd => rw [if_neg hd]
      simp only [TreeDispatchResult.hear, hhandled, TreeDispatchResult.answered, hactions]
      refine ⟨rfl, rfl, fun h => absurd h (by simpa using hhandled), fun _ => ?_⟩
      simp [answerAfter, actionsAfter, if_neg hdown, transformed, hopen.source]

/-- **The pass over the widgets is the walk over the stations.** -/
theorem visitAll_walked (inputs : DispatchInputs F) (stations : List (Station T))
    (hserves : ∀ s ∈ stations, s.Serves inputs) (result : T.TreeDispatchResult) (hopen : result.Open) :
    (T.visitAll inputs (stations.map (·.node)) result).1.map (·.controllers) =
        (walked inputs.event inputs.now result.actions stations).controllers ∧
      result.Follows (T.visitAll inputs (stations.map (·.node)) result).2
        (walked inputs.event inputs.now result.actions stations) := by
  induction stations generalizing result with
  | nil =>
    refine ⟨rfl, ?_, hopen.source, hopen.handled, ?_⟩
    · exact (append_nil _).symm
    · exact (ControllerRequests.union_none _).symm
  | cons s rest ih =>
    obtain ⟨hcontrollers, hdelivered, hends, hanswers⟩ :=
      visited_visit s inputs (hserves s (mem_cons_self ..)) result hopen
    have hrest := fun t ht => hserves t (mem_cons_of_mem s ht)
    rw [map_cons, visitAll, if_neg (by simp [hopen.handled]), walked]
    have hstop : ∀ r : T.TreeDispatchResult, r.handled = true →
        (T.visitAll inputs (rest.map (·.node)) r).1.map (·.controllers) = rest.map (·.node.controllers) ∧
          (T.visitAll inputs (rest.map (·.node)) r).2 = r := fun r hr => by
      rw [visitAll_handled inputs _ r hr, map_map]
      exact ⟨rfl, rfl⟩
    by_cases hhandled : (s.heard inputs.event inputs.now).handled = true
    · obtain ⟨hresult, hsource, hrequests⟩ := hends hhandled
      obtain ⟨hcs, hend⟩ := hstop _ hresult
      simp only [hhandled, if_true, map_cons, hcontrollers, hcs, hend]
      exact ⟨trivial, hdelivered, hsource, hresult, hrequests⟩
    · obtain ⟨hresult, hsource, hrequests, hactions⟩ := hanswers (by simpa using hhandled)
      by_cases hanswer : (s.answerAfter inputs.event inputs.now result.actions).handled = true
      · rw [hanswer] at hresult hsource
        obtain ⟨hcs, hend⟩ := hstop _ hresult
        simp only [hhandled, hanswer, if_true, if_false, Bool.false_eq_true, map_cons, hcontrollers, hcs, hend]
        refine ⟨trivial, hdelivered, hsource, hresult, ?_⟩
        rw [hrequests, ControllerRequests.union_assoc]
      · rw [if_neg hanswer] at hsource
        rw [Bool.not_eq_true] at hanswer
        rw [hanswer] at hresult
        obtain ⟨hcs, hfollows⟩ := ih hrest _ ⟨hresult, hsource⟩
        rw [hactions] at hcs hfollows
        simp only [hhandled, hanswer, if_false, Bool.false_eq_true, map_cons, hcontrollers, hcs]
        refine ⟨trivial, ?_, hfollows.source, hfollows.handled, ?_⟩
        · rw [hfollows.delivered, hdelivered, append_assoc]
        · simp [hfollows.requests, hrequests, ControllerRequests.union_assoc]

end Station

/-! ## The plan, one action at a time -/

namespace Toolkit

variable (event : InputEvent F) (now : Nat) (bounds : Rect F)

theorem iteratePlan_handled (plan : List (DeliveryAction F)) (s : List (WidgetNode T) × T.TreeDispatchResult)
    (h : s.2.handled = true) : T.iteratePlan event now plan s = s := by
  cases plan with
  | nil => rfl
  | cons a plan => rw [iteratePlan, if_pos h]

variable (front back : List (WidgetNode T)) (n : WidgetNode T)

/-- The identifier of a widget in a list is its own. -/
structure Placed : Prop where
  front : ∀ m ∈ front, m.id ≠ n.id
  back : ∀ m ∈ back, m.id ≠ n.id

variable {front back n}

theorem Placed.find (h : Placed front back n) : (front ++ n :: back).find? (·.id == n.id) = some n := by
  rw [find?_append, find?_eq_none.mpr fun m hm => by simpa using h.front m hm]
  simp

theorem Placed.update (h : Placed front back n) (f : WidgetNode T → WidgetNode T) :
    T.updateNode n.id f (front ++ n :: back) = front ++ f n :: back := by
  have hsame : ∀ nodes : List (WidgetNode T), (∀ m ∈ nodes, m.id ≠ n.id) →
      nodes.map (fun m => if m.id = n.id then f m else m) = nodes := fun nodes hnodes => by
    rw [map_congr_left fun m hm => if_neg (hnodes m hm), map_id']
  rw [updateNode, map_append, map_cons, if_pos rfl, hsame front h.front, hsame back h.back]

/-- A widget after it has transformed what its controllers made of their deliveries. -/
def heardNode (bounds : Rect F) (n : WidgetNode T) (heard : T.Heard) : WidgetNode T :=
  { n with controllers := heard.controllers, state := (T.transformActions bounds n.state heard.actions).1 }

/-- The result after a widget has transformed what its controllers made of their deliveries. -/
def heardResult (bounds : Rect F) (n : WidgetNode T) (heard : T.Heard) (result : T.TreeDispatchResult) :
    T.TreeDispatchResult :=
  result.hear { heard with actions := (T.transformActions bounds n.state heard.actions).2 } n.id

theorem Placed.heard (h : Placed front back n) (heard : T.Heard) : Placed front back (heardNode bounds n heard) :=
  ⟨h.front, h.back⟩

/-- **One delivery of the plan.** -/
theorem deliverAction_placed (h : Placed front back n) (phase : EventPhase) (result : T.TreeDispatchResult)
    (hopen : result.Open) :
    T.deliverAction event now ⟨n.id, phase, bounds⟩ (front ++ n :: back, result) =
      (front ++ heardNode bounds n (T.listen event now n.id bounds [phase] n.controllers) :: back,
        heardResult bounds n (T.listen event now n.id bounds [phase] n.controllers) result) := by
  rw [deliverAction]
  simp only [h.find, h.update, TreeDispatchResult.merge, TreeDispatchResult.record, hopen.handled, Bool.not_false,
    Bool.and_true, listen, heardNode, heardResult, TreeDispatchResult.hear]
  split
  · next hhandled => simp [hhandled]
  · next hhandled => simp [hhandled]

/-- Deliveries heard one after the other, the first of which leave the event unhandled. -/
theorem heardNode_listen_append (first rest : List EventPhase)
    (h : (T.listen event now n.id bounds first n.controllers).handled = false) :
    heardNode bounds (heardNode bounds n (T.listen event now n.id bounds first n.controllers))
        (T.listen event now n.id bounds rest (T.listen event now n.id bounds first n.controllers).controllers) =
      heardNode bounds n (T.listen event now n.id bounds (first ++ rest) n.controllers) := by
  rw [listen_append]
  simp [h, heardNode, transformActions_append]

theorem heardResult_listen_append (first rest : List EventPhase) (result : T.TreeDispatchResult)
    (h : (T.listen event now n.id bounds first n.controllers).handled = false) :
    heardResult bounds (heardNode bounds n (T.listen event now n.id bounds first n.controllers))
        (T.listen event now n.id bounds rest (T.listen event now n.id bounds first n.controllers).controllers)
        (heardResult bounds n (T.listen event now n.id bounds first n.controllers) result) =
      heardResult bounds n (T.listen event now n.id bounds (first ++ rest) n.controllers) result := by
  rw [listen_append]
  simp [h, heardNode, heardResult, TreeDispatchResult.hear, transformActions_append, ControllerRequests.union_assoc]

/-- The result of deliveries that leave the event unhandled. -/
theorem open_heardResult (heard : T.Heard) (result : T.TreeDispatchResult) (hopen : result.Open)
    (h : heard.handled = false) : (heardResult bounds n heard result).Open := by
  refine ⟨h, ?_⟩
  simp [heardResult, TreeDispatchResult.hear, h, hopen.source]

variable (h : Placed front back n) (phases : List EventPhase)
include h

/-- **Deliveries of the plan to one widget, with more to come.** -/
theorem iteratePlan_deliveries (result : T.TreeDispatchResult)
    (hopen : result.Open) (k : List (DeliveryAction F)) (hk : k.any (·.widgetId == n.id) = true) :
    T.iteratePlan event now (phases.map (⟨n.id, ·, bounds⟩) ++ k) (front ++ n :: back, result) =
      T.iteratePlan event now k
        (front ++ heardNode bounds n (T.listen event now n.id bounds phases n.controllers) :: back,
          heardResult bounds n (T.listen event now n.id bounds phases n.controllers) result) := by
  induction phases generalizing n result with
  | nil =>
    obtain ⟨handled, actions, requests, source, delivered⟩ := result
    obtain ⟨hhandled, hsource⟩ := hopen
    subst hhandled hsource
    simp [listen, heardNode, heardResult, transformActions, TreeDispatchResult.hear]
  | cons phase phases ih =>
    have hmore : ((phases.map (⟨n.id, ·, bounds⟩ : EventPhase → DeliveryAction F)) ++ k).any (·.widgetId == n.id) =
        true := by
      rw [any_append, hk, Bool.or_true]
    rw [map_cons, cons_append, iteratePlan, if_neg (by simp [hopen.handled])]
    simp only [hmore, Bool.or_true, if_true, deliverAction_placed event now bounds h phase result hopen]
    by_cases hfirst : (T.listen event now n.id bounds [phase] n.controllers).handled = true
    · have hall : T.listen event now n.id bounds (phase :: phases) n.controllers =
          T.listen event now n.id bounds [phase] n.controllers := by
        rw [← singleton_append, listen_append]
        simp [hfirst]
      rw [hall, iteratePlan_handled event now _ _ hfirst, iteratePlan_handled event now _ _ hfirst]
    · rw [Bool.not_eq_true] at hfirst
      have hnext := ih (h.heard bounds (T.listen event now n.id bounds [phase] n.controllers)) _
        (open_heardResult bounds (n := n) _ result hopen hfirst) hk
      have hnode := heardNode_listen_append event now bounds [phase] phases hfirst
      have hresult := heardResult_listen_append event now bounds [phase] phases result hfirst
      rw [singleton_append] at hnode hresult
      rw [← hnode, ← hresult]
      exact hnext

/-- **The last deliveries of the plan to one widget**: it answers the event that they leave unhandled. -/
theorem iteratePlan_lastDeliveries (hne : phases ≠ [])
    (result : T.TreeDispatchResult) (hopen : result.Open) (k : List (DeliveryAction F))
    (hk : k.any (·.widgetId == n.id) = false) :
    let heard := T.listen event now n.id bounds phases n.controllers
    let n' := heardNode bounds n heard
    let answer := T.onInput n'.state event bounds
    T.iteratePlan event now (phases.map (⟨n.id, ·, bounds⟩) ++ k) (front ++ n :: back, result) =
      T.iteratePlan event now k
        (if heard.handled then (front ++ n' :: back, heardResult bounds n heard result)
          else (front ++ { n' with state := answer.1 } :: back,
            (heardResult bounds n heard result).answered answer.2 n.id)) := by
  obtain ⟨init, last, rfl⟩ : ∃ init last, phases = init ++ [last] :=
    ⟨phases.dropLast, phases.getLast hne, (dropLast_append_getLast hne).symm⟩
  intro heard n' answer
  rw [map_append, append_assoc, iteratePlan_deliveries event now bounds h init result hopen _ (by simp)]
  by_cases hinit : (T.listen event now n.id bounds init n.controllers).handled = true
  · have hall : heard = T.listen event now n.id bounds init n.controllers := by
      show T.listen event now n.id bounds (init ++ [last]) n.controllers = _
      rw [listen_append]
      simp [hinit]
    rw [hall, if_pos hinit, iteratePlan_handled event now _ _ hinit]
    show _ = T.iteratePlan event now k (front ++ heardNode bounds n heard :: back, _)
    rw [hall, iteratePlan_handled event now _ _ hinit]
  · rw [Bool.not_eq_true] at hinit
    have hopen' := open_heardResult bounds (n := n) _ result hopen hinit
    have hstep : T.deliverAction event now ⟨n.id, last, bounds⟩
        (front ++ heardNode bounds n (T.listen event now n.id bounds init n.controllers) :: back,
          heardResult bounds n (T.listen event now n.id bounds init n.controllers) result) =
        (front ++ n' :: back, heardResult bounds n heard result) := by
      rw [show n' = _ from (heardNode_listen_append event now bounds init [last] hinit).symm,
        show heardResult bounds n heard result = _ from
          (heardResult_listen_append event now bounds init [last] result hinit).symm]
      exact deliverAction_placed event now bounds
        (h.heard bounds (T.listen event now n.id bounds init n.controllers)) last _ hopen'
    have hplaced : Placed front back n' := h.heard bounds heard
    have hanswer : T.answerItself event ⟨n.id, last, bounds⟩ (front ++ n' :: back, heardResult bounds n heard result) =
        (front ++ { n' with state := answer.1 } :: back, (heardResult bounds n heard result).answered answer.2 n.id) := by
      have hfind := hplaced.find
      have hupdate := hplaced.update fun m => { m with state := answer.1 }
      rw [answerItself]
      simp only [show n'.id = n.id from rfl] at hfind hupdate
      simp only [hfind]
      exact congrArg (·, _) hupdate
    have hhandled : (heardResult bounds n heard result).handled = heard.handled := rfl
    rw [map_cons, map_nil, singleton_append, iteratePlan, if_neg (by simp [hopen'.handled])]
    simp only [hstep, hk, Bool.or_false, hhandled, hanswer]
    split <;> rfl

end Toolkit

namespace Station

variable (event : InputEvent F) (now : Nat)

variable (stations : List (Station T))

/-- The stations of a plan: only the last widget it names has no delivery on the way up. -/
def Shaped : List (Station T) → Prop
  | [] => True
  | s :: rest => Shaped rest ∧ (s.down = [] → s.up = []) ∧ (s.down ≠ [] → s.up = [] → planOf rest = [])

theorem phases_of_planOf_nil (h : planOf stations = []) : ∀ s ∈ stations, s.down = [] ∧ s.up = [] := by
  induction stations with
  | nil => intro s hs; cases hs
  | cons s rest ih =>
    rw [planOf, append_eq_nil_iff, append_eq_nil_iff, map_eq_nil_iff, map_eq_nil_iff] at h
    intro t ht
    rcases mem_cons.mp ht with rfl | ht
    · exact ⟨h.1, h.2.2⟩
    · exact ih h.2.1 t ht

/-- A widget that the plan does not name is left as it is. -/
theorem planned_unnamed (s : Station T) (rest : List (Station T)) (hdown : s.down = []) (hup : s.up = []) :
    planned event now (s :: rest) =
      { planned event now rest with controllers := s.node.controllers :: (planned event now rest).controllers } := by
  have hheardDown : s.heardDown event now = { controllers := s.node.controllers } := by
    rw [heardDown, hdown]
    rfl
  have hheardUp : s.heardUp event now = { controllers := s.node.controllers } := by
    rw [heardUp, hup, hheardDown]
    rfl
  have hanswer : (s.answer event now).handled = false ∧ (s.answer event now).requests = .none := by
    simp [answer, answerAfter, hdown]
  rw [planned, hheardUp, hheardDown]
  cases hbelow : (planned event now rest).source with
  | some id => simp [hbelow]
  | none => simp [hbelow, hanswer]

theorem planned_of_unnamed (h : ∀ s ∈ stations, s.down = [] ∧ s.up = []) :
    planned event now stations = ⟨[], none, .none, stations.map (·.node.controllers)⟩ := by
  induction stations with
  | nil => rfl
  | cons s rest ih =>
    obtain ⟨hdown, hup⟩ := h s (mem_cons_self ..)
    rw [planned_unnamed event now s rest hdown hup, ih fun t ht => h t (mem_cons_of_mem _ ht), map_cons]

theorem id_of_mem_planOf (a : DeliveryAction F) (h : a ∈ planOf stations) : a.widgetId ∈ stations.map (·.node.id) := by
  induction stations with
  | nil => cases h
  | cons s rest ih =>
    rw [planOf, mem_append, mem_append, mem_map, mem_map] at h
    rcases h with ⟨_, _, rfl⟩ | h | ⟨_, _, rfl⟩
    · exact mem_cons_self ..
    · exact mem_cons_of_mem _ (ih h)
    · exact mem_cons_self ..

/-- The plan of the stations, read with the widgets `front` above them and the deliveries `k` still to come, does what
    `planned` says. -/
def RunsPlanned (front : List (WidgetNode T)) (k : List (DeliveryAction F)) (result : T.TreeDispatchResult) : Prop :=
  ∃ nodes result', T.iteratePlan event now (planOf stations ++ k) (front ++ stations.map (·.node), result) =
      T.iteratePlan event now k (front ++ nodes, result') ∧
    nodes.map (·.id) = stations.map (·.node.id) ∧
    nodes.map (·.controllers) = (planned event now stations).controllers ∧
    result.Follows result' (planned event now stations)

section Head

variable {event now} {s : Station T} {rest : List (Station T)} {front : List (WidgetNode T)} {k : List (DeliveryAction F)}
  {result : T.TreeDispatchResult}

/-- A widget that the plan does not name. -/
theorem RunsPlanned.unnamed (hdown : s.down = []) (hup : s.up = [])
    (hbelow : RunsPlanned event now rest (front ++ [s.node]) k result) : RunsPlanned event now (s :: rest) front k result := by
  obtain ⟨nodes, result', hrun, hnodes, hcontrollers, hfollows⟩ := hbelow
  unfold RunsPlanned
  rw [planned_unnamed event now s rest hdown hup]
  refine ⟨s.node :: nodes, result', ?_, ?_, ?_, ?_⟩
  · simpa [planOf, hdown, hup] using hrun
  · rw [map_cons, map_cons, hnodes]
  · rw [map_cons, hcontrollers]
  · exact ⟨hfollows.delivered, hfollows.source, hfollows.handled, hfollows.requests⟩

/-- The target: the last deliveries are those of the way down. -/
theorem runsPlanned_target (hplaced : Placed front (rest.map (·.node)) s.node) (hdown : s.down ≠ []) (hup : s.up = [])
    (hnil : planOf rest = []) (hkSelf : k.any (·.widgetId == s.node.id) = false) (hopen : result.Open) :
    RunsPlanned event now (s :: rest) front k result := by
  unfold RunsPlanned
  have hrun := iteratePlan_lastDeliveries event now s.bounds hplaced s.down hdown result hopen k hkSelf
  have hplan : planOf (s :: rest) ++ k = s.down.map s.action ++ k := by
    rw [planOf, hnil, hup, map_nil, append_nil, append_nil]
  have hheardUp : s.heardUp event now = { controllers := (s.heardDown event now).controllers } := by
    rw [heardUp, hup]
    rfl
  have hbelow := planned_of_unnamed event now rest (phases_of_planOf_nil rest hnil)
  have hanswer : s.answer event now =
      (T.onInput (heardNode s.bounds s.node (s.heardDown event now)).state event s.bounds).2 := by
    simp [answer, answerAfter, hdown, transformed, hheardUp, heardNode]
  rw [hplan, planned, hbelow, hheardUp]
  by_cases hhandled : (s.heardDown event now).handled = true
  · refine ⟨heardNode s.bounds s.node (s.heardDown event now) :: rest.map (·.node),
      heardResult s.bounds s.node (s.heardDown event now) result, ?_, ?_, ?_, ?_⟩
    · exact hrun.trans (by rw [show (T.listen event now s.node.id s.bounds s.down s.node.controllers).handled = true
        from hhandled, if_pos rfl]; rfl)
    · rw [map_cons, map_map]
      rfl
    · simp only [hhandled, map_cons, map_map]
      rfl
    · simp only [hhandled]
      exact ⟨rfl, if_pos hhandled, hhandled, rfl⟩
  · refine ⟨{ heardNode s.bounds s.node (s.heardDown event now) with
        state := (T.onInput (heardNode s.bounds s.node (s.heardDown event now)).state event s.bounds).1 } ::
        rest.map (·.node),
      (heardResult s.bounds s.node (s.heardDown event now) result).answered (s.answer event now) s.node.id,
      ?_, ?_, ?_, ?_⟩
    · rw [hanswer]
      exact hrun.trans (by rw [if_neg (show ¬(T.listen event now s.node.id s.bounds s.down
        s.node.controllers).handled = true from hhandled)]; rfl)
    · rw [map_cons, map_map]
      rfl
    · simp only [hhandled, Bool.false_eq_true, map_cons, map_map]
      rfl
    · simp only [hhandled, if_false, Bool.false_eq_true, Option.isSome_none, append_nil,
        ControllerRequests.none_union]
      refine ⟨rfl, ?_, ?_, ?_⟩
      · simp [TreeDispatchResult.answered, heardResult, TreeDispatchResult.hear, hhandled, hopen.source]
      · simp only [TreeDispatchResult.answered, heardResult, hhandled]
        cases (s.answer event now).handled <;> rfl
      · simp [TreeDispatchResult.answered, heardResult, TreeDispatchResult.hear,
          ControllerRequests.union_assoc]

variable (event now) in
/-- A widget with deliveries on the way up has not heard its last one on the way down. -/
theorem iteratePlan_down (hplaced : Placed front (rest.map (·.node)) s.node) (hup : s.up ≠ []) (hopen : result.Open)
    (k : List (DeliveryAction F)) :
    T.iteratePlan event now (planOf (s :: rest) ++ k) (front ++ (s :: rest).map (·.node), result) =
      T.iteratePlan event now (planOf rest ++ (s.up.map s.action ++ k))
        (front ++ heardNode s.bounds s.node (s.heardDown event now) :: rest.map (·.node),
          heardResult s.bounds s.node (s.heardDown event now) result) := by
  have hplan : planOf (s :: rest) ++ k = s.down.map s.action ++ (planOf rest ++ (s.up.map s.action ++ k)) := by
    rw [planOf, append_assoc, append_assoc]
  have hwaits : (planOf rest ++ (s.up.map s.action ++ k)).any (·.widgetId == s.node.id) = true := by
    obtain ⟨phase, phases, hsplit⟩ := exists_cons_of_ne_nil hup
    rw [hsplit]
    simp [action]
  rw [hplan]
  exact iteratePlan_deliveries event now s.bounds hplaced s.down result hopen _ hwaits

/-- A widget that handles the event on the way down. -/
theorem runsPlanned_handled (hplaced : Placed front (rest.map (·.node)) s.node) (hup : s.up ≠ []) (hopen : result.Open)
    (hhandled : (s.heardDown event now).handled = true) : RunsPlanned event now (s :: rest) front k result := by
  unfold RunsPlanned
  rw [planned]
  refine ⟨heardNode s.bounds s.node (s.heardDown event now) :: rest.map (·.node),
    heardResult s.bounds s.node (s.heardDown event now) result, ?_, ?_, ?_, ?_⟩
  · refine (iteratePlan_down event now hplaced hup hopen k).trans ?_
    rw [iteratePlan_handled event now _ _ hhandled]
    exact (iteratePlan_handled event now k _ hhandled).symm
  · rw [map_cons, map_map]
    rfl
  · simp only [hhandled, map_cons, map_map]
    rfl
  · simp only [hhandled]
    exact ⟨rfl, if_pos hhandled, hhandled, rfl⟩

/-- A widget that leaves the event to those below it. -/
theorem RunsPlanned.passed (hplaced : Placed front (rest.map (·.node)) s.node) (hs : s.node.id ∉ rest.map (·.node.id))
    (hdown : s.down ≠ []) (hup : s.up ≠ []) (hkSelf : k.any (·.widgetId == s.node.id) = false) (hopen : result.Open)
    (hhandled : ¬(s.heardDown event now).handled = true)
    (hbelow : RunsPlanned event now rest (front ++ [heardNode s.bounds s.node (s.heardDown event now)])
      (s.up.map s.action ++ k) (heardResult s.bounds s.node (s.heardDown event now) result)) :
    RunsPlanned event now (s :: rest) front k result := by
  have hid : (heardNode s.bounds s.node (s.heardDown event now)).id = s.node.id := rfl
  obtain ⟨nodes, result', hrun, hnodes, hcontrollers, hfollows⟩ := hbelow
  rw [append_assoc, append_assoc] at hrun
  have hboth := (iteratePlan_down event now hplaced hup hopen k).trans hrun
  unfold RunsPlanned
  rw [planned]
  cases hsource : (planned event now rest).source with
  | some id =>
  have hend : result'.handled = true := by
    rw [hfollows.handled, hsource]
    rfl
  refine ⟨heardNode s.bounds s.node (s.heardDown event now) :: nodes, result', ?_, ?_, ?_, ?_⟩
  · refine hboth.trans ?_
    rw [iteratePlan_handled event now _ _ hend]
    exact (iteratePlan_handled event now k _ hend).symm
  · rw [map_cons, map_cons, hnodes, hid]
  · simp [hhandled, hsource, Option.isSome_some, hcontrollers, heardNode]
  · simp only [hhandled, hsource, Option.isSome_some]
    refine ⟨?_, hfollows.source.trans hsource, hend, ?_⟩
    · rw [hfollows.delivered]
      exact append_assoc ..
    · rw [hfollows.requests]
      exact ControllerRequests.union_assoc ..
  | none =>
  have hopenBelow := hfollows.isOpen hsource
  have hplacedUp : Placed front nodes (heardNode s.bounds s.node (s.heardDown event now)) := by
    refine ⟨hplaced.front, fun m hm hmid => hs ?_⟩
    rw [← hnodes, ← show m.id = s.node.id from hmid]
    exact mem_map_of_mem hm
  have hupRun := iteratePlan_lastDeliveries event now s.bounds hplacedUp s.up hup result' hopenBelow k hkSelf
  have hanswer : s.answer event now = (T.onInput (heardNode s.bounds (heardNode s.bounds s.node
      (s.heardDown event now)) (s.heardUp event now)).state event s.bounds).2 := by
    simp [answer, answerAfter, hdown, transformed, transformActions_append, heardNode]
  by_cases hupHandled : (s.heardUp event now).handled = true
  · refine ⟨heardNode s.bounds (heardNode s.bounds s.node (s.heardDown event now)) (s.heardUp event now) :: nodes,
      heardResult s.bounds (heardNode s.bounds s.node (s.heardDown event now)) (s.heardUp event now) result',
      ?_, ?_, ?_, ?_⟩
    · exact (hboth.trans hupRun).trans (congrArg (T.iteratePlan event now k) (if_pos hupHandled))
    · rw [map_cons, hnodes]
      rfl
    · simp [hhandled, hsource, hupHandled, hcontrollers, heardNode]
    · simp only [hhandled, hsource, hupHandled, Option.isSome_none, if_true, if_false, Bool.false_eq_true]
      refine ⟨?_, if_pos hupHandled, hupHandled, ?_⟩
      · simp [heardResult, TreeDispatchResult.hear, hfollows.delivered]
      · simp [heardResult, TreeDispatchResult.hear, hfollows.requests, ControllerRequests.union_assoc]
  · refine ⟨{ heardNode s.bounds (heardNode s.bounds s.node (s.heardDown event now)) (s.heardUp event now) with
        state := (T.onInput (heardNode s.bounds (heardNode s.bounds s.node (s.heardDown event now))
          (s.heardUp event now)).state event s.bounds).1 } :: nodes,
      (heardResult s.bounds (heardNode s.bounds s.node (s.heardDown event now)) (s.heardUp event now)
        result').answered (s.answer event now) s.node.id, ?_, ?_, ?_, ?_⟩
    · rw [hanswer]
      exact (hboth.trans hupRun).trans (congrArg (T.iteratePlan event now k) (if_neg hupHandled))
    · rw [map_cons, hnodes]
      rfl
    · simp [hhandled, hsource, hupHandled, Option.isSome_none, hcontrollers, heardNode]
    · simp only [hhandled, hsource, hupHandled, Option.isSome_none, if_false, Bool.false_eq_true]
      refine ⟨?_, ?_, ?_, ?_⟩
      · simp [TreeDispatchResult.answered, heardResult, TreeDispatchResult.hear, hfollows.delivered]
      · simp [TreeDispatchResult.answered, heardResult, TreeDispatchResult.hear, hupHandled, hopenBelow.source]
      · simp only [TreeDispatchResult.answered, heardResult, hupHandled]
        cases (s.answer event now).handled <;> rfl
      · simp [TreeDispatchResult.answered, heardResult, TreeDispatchResult.hear, hfollows.requests,
          ControllerRequests.union_assoc]

end Head

/-- **The plan taken one action at a time is `planned` over the stations.** By induction along them: `front` are the
    widgets above, which wait for the deliveries `k` of the way up. -/
theorem iteratePlan_planned (hshaped : Shaped stations)
    (hids : (stations.map (·.node.id)).Nodup) (front : List (WidgetNode T))
    (hfront : ∀ m ∈ front, m.id ∉ stations.map (·.node.id)) (k : List (DeliveryAction F))
    (hk : ∀ a ∈ k, a.widgetId ∉ stations.map (·.node.id)) (result : T.TreeDispatchResult) (hopen : result.Open) :
    ∃ nodes result', T.iteratePlan event now (planOf stations ++ k) (front ++ stations.map (·.node), result) =
        T.iteratePlan event now k (front ++ nodes, result') ∧
      nodes.map (·.id) = stations.map (·.node.id) ∧
      nodes.map (·.controllers) = (planned event now stations).controllers ∧
      result.Follows result' (planned event now stations) := by
  show RunsPlanned event now stations front k result
  induction stations generalizing front k result with
  | nil =>
    refine ⟨[], result, rfl, rfl, rfl, ?_, hopen.source, hopen.handled, ?_⟩
    · exact (append_nil _).symm
    · exact (ControllerRequests.union_none _).symm
  | cons s rest ih =>
    obtain ⟨hrest, hunnamed, hlast⟩ := hshaped
    rw [map_cons, nodup_cons] at hids
    obtain ⟨hs, hids⟩ := hids
    have hplaced : Placed front (rest.map (·.node)) s.node := by
      refine ⟨fun m hm hid => hfront m hm ?_, fun m hm hid => hs ?_⟩
      · rw [hid]
        exact mem_cons_self ..
      · obtain ⟨t, ht, rfl⟩ := mem_map.mp hm
        rw [← hid]
        exact mem_map_of_mem ht
    have hkRest : ∀ a ∈ k, a.widgetId ∉ rest.map (·.node.id) := fun a ha hmem => hk a ha (mem_cons_of_mem _ hmem)
    have hkSelf : k.any (·.widgetId == s.node.id) = false := by
      rw [any_eq_false]
      intro a ha heq
      exact hk a ha (by rw [beq_iff_eq.mp heq]; exact mem_cons_self ..)
    have hfrontRest : ∀ n : WidgetNode T, n.id = s.node.id → ∀ m ∈ front ++ [n], m.id ∉ rest.map (·.node.id) := by
      intro n hn m hm
      rcases mem_append.mp hm with hm | hm
      · exact fun hmem => hfront m hm (mem_cons_of_mem _ hmem)
      · rw [mem_singleton.mp hm, hn]
        exact hs
    by_cases hdown : s.down = []
    · have hup := hunnamed hdown
      exact (ih hrest hids _ (hfrontRest s.node rfl) k hkRest result hopen).unnamed hdown hup
    · by_cases hup : s.up = []
      · exact runsPlanned_target hplaced hdown hup (hlast hdown hup) hkSelf hopen
      · by_cases hhandled : (s.heardDown event now).handled = true
        · exact runsPlanned_handled hplaced hup hopen hhandled
        · have hkUp : ∀ a ∈ s.up.map s.action ++ k, a.widgetId ∉ rest.map (·.node.id) := by
            intro a ha
            rcases mem_append.mp ha with ha | ha
            · obtain ⟨_, _, rfl⟩ := mem_map.mp ha
              exact hs
            · exact hkRest a ha
          have hopenDown := open_heardResult s.bounds (n := s.node) (s.heardDown event now) result hopen
            (by simpa using hhandled)
          have hfrontDown := hfrontRest (heardNode s.bounds s.node (s.heardDown event now)) rfl
          exact (ih hrest hids _ hfrontDown _ hkUp _ hopenDown).passed hplaced hs hdown hup hkSelf hopen hhandled

end Station

/-! ## The stations of a tree -/

namespace Station

variable [Zero F]

variable (lead : List EventPhase) (nodes : List (WidgetNode T))

/-- The widgets of a tree with their deliveries on a path: `lead` to the last of the path, `Capture` and `Bubble` to the
    others. -/
def stationsOf (lead : List EventPhase) : List (WidgetNode T) → List (HitEntry F) → List (Station T)
  | [], _ => []
  | n :: nodes, [] => ⟨n, Rect.default, [], []⟩ :: stationsOf lead nodes []
  | n :: nodes, e :: path =>
    if n.id = e.widgetId then
      (if path = [] then ⟨n, e.bounds, lead, []⟩ else ⟨n, e.bounds, [.capture], [.bubble]⟩) :: stationsOf lead nodes path
    else ⟨n, Rect.default, [], []⟩ :: stationsOf lead nodes (e :: path)

theorem nodes_stationsOf (path : List (HitEntry F)) : (stationsOf lead nodes path).map (·.node) = nodes := by
  induction nodes generalizing path with
  | nil => rfl
  | cons n nodes ih =>
    cases path with
    | nil => rw [stationsOf, map_cons, ih]
    | cons e path =>
      rw [stationsOf]
      split
      · rw [map_cons, ih]
        split <;> rfl
      · rw [map_cons, ih]

theorem planOf_stationsOf_nil : planOf (stationsOf lead nodes []) = [] := by
  induction nodes with
  | nil => rfl
  | cons n nodes ih =>
    rw [stationsOf, planOf, ih]
    rfl

theorem shaped_stationsOf (hlead : lead ≠ []) (nodes : List (WidgetNode T))
    (path : List (HitEntry F)) : Shaped (stationsOf lead nodes path) := by
  induction nodes generalizing path with
  | nil => trivial
  | cons n nodes ih =>
    cases path with
    | nil => exact ⟨ih [], fun _ => rfl, fun h => absurd rfl h⟩
    | cons e path =>
      rw [stationsOf]
      by_cases hn : n.id = e.widgetId
      · rw [if_pos hn]
        by_cases hpath : path = []
        · rw [hpath]
          exact ⟨ih [], fun h => absurd h hlead, fun _ _ => planOf_stationsOf_nil lead nodes⟩
        · rw [if_neg hpath]
          exact ⟨ih path, fun h => (by cases h), fun _ h => (by cases h)⟩
      · rw [if_neg hn]
        exact ⟨ih (e :: path), fun _ => rfl, fun h => absurd rfl h⟩

omit [Zero F] in
theorem planMousePropagation_append (init : List (HitEntry F)) (last : HitEntry F) :
    planMousePropagation (init ++ [last]) =
      (init ++ [last]).map (fun entry => ⟨entry.widgetId, .capture, entry.bounds⟩) ++
        ⟨last.widgetId, .target, last.bounds⟩ ::
        init.reverse.map (fun entry => ⟨entry.widgetId, .bubble, entry.bounds⟩) := by
  rw [planMousePropagation, getLast?_concat, dropLast_concat]

omit [Zero F] in
/-- The plan for a longer path goes around the plan for its tail. -/
theorem planMousePropagation_cons (e : HitEntry F) (path : List (HitEntry F)) (h : path ≠ []) :
    planMousePropagation (e :: path) =
      ⟨e.widgetId, .capture, e.bounds⟩ :: (planMousePropagation path ++ [⟨e.widgetId, .bubble, e.bounds⟩]) := by
  obtain ⟨init, last, rfl⟩ : ∃ init last, path = init ++ [last] :=
    ⟨path.dropLast, path.getLast h, (dropLast_append_getLast h).symm⟩
  rw [← cons_append, planMousePropagation_append, planMousePropagation_append]
  simp

/-- **The plan for a path of the tree is the way down its stations and back up.** -/
theorem planOf_stationsOf (path : List (HitEntry F)) (hpath : (path.map (·.widgetId)).Sublist (nodes.map (·.id))) :
    planOf (stationsOf [.capture, .target] nodes path) = planMousePropagation path := by
  induction nodes generalizing path with
  | nil =>
    rw [map_nil, sublist_nil, map_eq_nil_iff] at hpath
    rw [hpath]
    rfl
  | cons n nodes ih =>
    cases path with
    | nil => exact planOf_stationsOf_nil _ _
    | cons e path =>
      rw [map_cons, map_cons] at hpath
      rw [stationsOf]
      by_cases hn : n.id = e.widgetId
      · rw [hn, cons_sublist_cons] at hpath
        rw [if_pos hn]
        by_cases hnil : path = []
        · rw [hnil, planOf, planOf_stationsOf_nil]
          simp [planMousePropagation, action, hn]
        · rw [if_neg hnil, planOf, ih path hpath, planMousePropagation_cons e path hnil]
          simp [action, hn]
      · have hrest : ((e :: path).map (·.widgetId)).Sublist (nodes.map (·.id)) := by
          rcases cons_sublist_cons'.mp hpath with h | h
          · exact h
          · exact absurd h.1.symm hn
        rw [if_neg hn, planOf, ih (e :: path) hrest]
        simp

omit [Zero F] in
/-- The plan delivers to the widget of each station what the station says. -/
theorem filter_planOf (stations : List (Station T)) (hids : (stations.map (·.node.id)).Nodup) (s : Station T)
    (hs : s ∈ stations) : (planOf stations).filter (·.widgetId == s.node.id) = s.actions := by
  induction stations with
  | nil => cases hs
  | cons t rest ih =>
    rw [map_cons, nodup_cons] at hids
    obtain ⟨ht, hids⟩ := hids
    rw [planOf, filter_append, filter_append]
    rcases mem_cons.mp hs with rfl | hs
    · have hrest : (planOf rest).filter (·.widgetId == s.node.id) = [] := by
        rw [filter_eq_nil_iff]
        intro a ha heq
        exact ht (beq_iff_eq.mp heq ▸ id_of_mem_planOf rest a ha)
      have hall : ∀ phases : List EventPhase,
          (phases.map s.action).filter (·.widgetId == s.node.id) = phases.map s.action := fun phases => by
        rw [filter_eq_self]
        intro a ha
        obtain ⟨_, _, rfl⟩ := mem_map.mp ha
        simp [action]
      rw [hrest, hall, hall, nil_append, actions, map_append]
    · have hother : t.node.id ≠ s.node.id := fun heq => ht (heq ▸ mem_map_of_mem hs)
      have hnone : ∀ phases : List EventPhase,
          (phases.map t.action).filter (·.widgetId == s.node.id) = [] := fun phases => by
        rw [filter_eq_nil_iff]
        intro a ha heq
        obtain ⟨_, _, rfl⟩ := mem_map.mp ha
        exact hother (beq_iff_eq.mp heq)
      rw [hnone, hnone, ih hids hs, nil_append, append_nil]

end Station

/-! ## The comparison -/

/-- The walk and the plan end alike: the same controllers were invoked in the same order, the same widget handled the
    event if any did, with the same requests, and the controllers of every widget are the same. -/
structure WalkAgrees (walk : Widget T × T.TreeDispatchResult) (plan : List (WidgetNode T) × T.TreeDispatchResult) : Prop where
  delivered : walk.2.delivered = plan.2.delivered
  handled : walk.2.handled = plan.2.handled
  source : walk.2.source = plan.2.source
  requests : walk.2.requests = plan.2.requests
  controllers : walk.1.nodes.map (fun n => (n.id, n.controllers)) = plan.1.map (fun n => (n.id, n.controllers))

namespace Widget

/-- The path that the plan for an event follows. -/
def routedPath (event : InputEvent F) (hitPath : List (HitEntry F)) (focusPath : List WidgetId) : List WidgetId :=
  if event.isKeyboard then focusPath else hitPath.map (·.widgetId)

/-- The event goes to the widget that captured the mouse, or along a path of the tree. -/
def Routed (w : Widget T) (event : InputEvent F) (hitPath : List (HitEntry F)) (activeWidget : Option WidgetId)
    (focusPath : List WidgetId) : Prop :=
  (event.bypasses = true ∧ activeWidget.isSome = true) ∨ routedPath event hitPath focusPath = [] ∨
    w.IsPath (routedPath event hitPath focusPath)

variable [Zero F] (w : Widget T) (event : InputEvent F) (hitPath : List (HitEntry F)) (activeWidget : Option WidgetId)
  (focusPath : List WidgetId)

/-- The widgets of the tree with the deliveries of the plan for an event. -/
def stations : List (Station T) :=
  if event.isKeyboard then
    Station.stationsOf [.capture, .target] w.nodes (focusPath.map (⟨·, Rect.default⟩))
  else if event.bypasses && activeWidget.isSome then
    Station.stationsOf [.target] w.nodes ((planPropagation event hitPath activeWidget focusPath).map
      fun action => ⟨action.widgetId, action.bounds⟩)
  else Station.stationsOf [.capture, .target] w.nodes hitPath

theorem nodes_stations : (w.stations event hitPath activeWidget focusPath).map (·.node) = w.nodes := by
  unfold stations
  split
  · exact Station.nodes_stationsOf ..
  · split <;> exact Station.nodes_stationsOf ..

theorem shaped_stations : Station.Shaped (w.stations event hitPath activeWidget focusPath) := by
  unfold stations
  split
  · exact Station.shaped_stationsOf _ (by simp) ..
  · split <;> exact Station.shaped_stationsOf _ (by simp) ..

/-- A delivery to the widget that captured the mouse is the plan for its station, if the tree has the widget. -/
theorem planOf_captured (nodes : List (WidgetNode T)) (e : HitEntry F) :
    Station.planOf (Station.stationsOf [.target] nodes [e]) = [⟨e.widgetId, .target, e.bounds⟩] ∨
      (Station.planOf (Station.stationsOf [.target] nodes [e]) = [] ∧ e.widgetId ∉ nodes.map (·.id)) := by
  induction nodes with
  | nil => exact .inr ⟨rfl, not_mem_nil⟩
  | cons n nodes ih =>
    rw [Station.stationsOf]
    by_cases hn : n.id = e.widgetId
    · left
      rw [if_pos hn, Station.planOf, Station.planOf_stationsOf_nil]
      simp [Station.action, hn]
    · rw [if_neg hn, Station.planOf]
      rcases ih with ih | ⟨ih, hmem⟩
      · left
        rw [ih]
        rfl
      · right
        rw [ih, map_cons, mem_cons, not_or]
        exact ⟨rfl, fun h => hn h.symm, hmem⟩

/-- **The plan for an event is the way down the stations and back up**, or delivers to no widget of the tree. -/
theorem plan_stations
    (hrouted : w.Routed event hitPath activeWidget focusPath) :
    Station.planOf (w.stations event hitPath activeWidget focusPath) =
        planPropagation event hitPath activeWidget focusPath ∨
      (Station.planOf (w.stations event hitPath activeWidget focusPath) = [] ∧
        ∀ a ∈ planPropagation event hitPath activeWidget focusPath, a.widgetId ∉ w.ids) := by
  have hsublist : ∀ path : List WidgetId, path = [] ∨ w.IsPath path → path.Sublist w.ids := by
    rintro path (rfl | h)
    · exact nil_sublist _
    · exact h.sublist
  unfold stations
  by_cases hkey : event.isKeyboard = true
  · left
    have hbypass : event.bypasses = false := by cases event <;> simp_all [InputEvent.isKeyboard, InputEvent.bypasses]
    rcases hrouted with ⟨h, _⟩ | hpath
    · rw [hbypass] at h
      cases h
    · have hpath := hsublist _ hpath
      rw [routedPath, if_pos hkey] at hpath
      rw [if_pos hkey, planPropagation.eq_def, if_pos hkey, Station.planOf_stationsOf _ _ (by
        simpa [Function.comp_def, ids] using hpath)]
      rw [planKeyboardPropagation, planMousePropagation, getLast?_map]
      cases focusPath.getLast? <;> simp [Function.comp_def]
  · by_cases hcaptured : (event.bypasses && activeWidget.isSome) = true
    · obtain ⟨hbypass, hactive⟩ := Bool.and_eq_true_iff.mp hcaptured
      obtain ⟨activeId, hid⟩ := Option.isSome_iff_exists.mp hactive
      obtain ⟨bounds, hplan⟩ : ∃ bounds, planPropagation event hitPath activeWidget focusPath =
          [⟨activeId, .target, bounds⟩] := by
        rw [hid]
        cases event <;> first | exact ⟨_, rfl⟩ | simp [InputEvent.bypasses] at hbypass
      rw [if_neg hkey, if_pos hcaptured, hplan]
      rcases planOf_captured w.nodes ⟨activeId, bounds⟩ with h | ⟨h, hmem⟩
      · exact .inl h
      · refine .inr ⟨h, fun a ha => ?_⟩
        rw [mem_singleton.mp ha]
        exact hmem
    · left
      have hplan : planPropagation event hitPath activeWidget focusPath = planMousePropagation hitPath := by
        rw [planPropagation.eq_def, if_neg hkey]
        cases activeWidget with
        | none => rfl
        | some activeId => cases event <;> simp_all [InputEvent.bypasses, InputEvent.isKeyboard, planCapturedMouse]
      have hpath : routedPath event hitPath focusPath = hitPath.map (·.widgetId) := by rw [routedPath, if_neg hkey]
      rcases hrouted with ⟨hbypass, hactive⟩ | hrouted
      · rw [hbypass, hactive] at hcaptured
        exact absurd rfl hcaptured
      · rw [if_neg hkey, if_neg hcaptured, hplan]
        exact Station.planOf_stationsOf _ _ (hpath ▸ hsublist _ hrouted)

theorem ids_visitAll (inputs : DispatchInputs F) (nodes : List (WidgetNode T)) (result : T.TreeDispatchResult) :
    (T.visitAll inputs nodes result).1.map (·.id) = nodes.map (·.id) := by
  have hvisit : ∀ (n : WidgetNode T) (r : T.TreeDispatchResult), (T.visit inputs n r).1.id = n.id := by
    intro n r
    unfold visit
    split
    · unfold dispatchToNode
      simp only
      split <;> split <;> rfl
    · rfl
  induction nodes generalizing result with
  | nil => rfl
  | cons n nodes ih =>
    rw [visitAll]
    split
    · rfl
    · rw [map_cons, map_cons, ih, hvisit]

/-- Every plan is served at the stations of the tree. -/
theorem serves_stations (now : Nat) (hids : w.ids.Nodup) (hrouted : w.Routed event hitPath activeWidget focusPath) :
    ∀ s ∈ w.stations event hitPath activeWidget focusPath,
      s.Serves ⟨event, planPropagation event hitPath activeWidget focusPath, now⟩ := by
  intro s hs
  have hnodes := w.nodes_stations event hitPath activeWidget focusPath
  have hstationIds : (w.stations event hitPath activeWidget focusPath).map (·.node.id) = w.ids := by
    rw [ids, ← hnodes, map_map]
    rfl
  have hfilter := Station.filter_planOf _ (hstationIds ▸ hids) s hs
  have hup : ∀ stations : List (Station T), Station.Shaped stations → s ∈ stations → s.down = [] → s.up = [] := by
    intro stations
    induction stations with
    | nil => intro _ h; cases h
    | cons t rest ih =>
      rintro ⟨hrest, hunnamed, _⟩ h
      rcases mem_cons.mp h with rfl | h
      · exact hunnamed
      · exact ih hrest h
  refine ⟨?_, hup _ (w.shaped_stations event hitPath activeWidget focusPath) hs⟩
  rcases w.plan_stations event hitPath activeWidget focusPath hrouted with hplan | ⟨hplan, hnone⟩
  · rw [hplan] at hfilter
    exact hfilter
  · rw [hplan] at hfilter
    rw [← hfilter, filter_nil, filter_eq_nil_iff]
    intro a ha heq
    refine hnone a ha ?_
    rw [beq_iff_eq.mp heq, ← hstationIds]
    exact mem_map_of_mem hs

omit [Zero F] in
/-- Deliveries to widgets that the tree does not have do nothing. -/
theorem iteratePlan_unknown (now : Nat) (nodes : List (WidgetNode T))
    (result : T.TreeDispatchResult) (plan : List (DeliveryAction F)) (h : ∀ a ∈ plan, a.widgetId ∉ nodes.map (·.id)) :
    T.iteratePlan event now plan (nodes, result) = (nodes, result) := by
  induction plan with
  | nil => rfl
  | cons a plan ih =>
    have hfind : nodes.find? (·.id == a.widgetId) = none := by
      rw [find?_eq_none]
      intro n hn heq
      exact h a (mem_cons_self ..) (beq_iff_eq.mp heq ▸ mem_map_of_mem hn)
    rw [iteratePlan]
    simp only [deliverAction, answerItself, hfind, ih fun b hb => h b (mem_cons_of_mem _ hb)]
    split
    · rfl
    · split <;> rfl

/-- The walk over the tree ends as `walked` over its stations. -/
theorem follows_dispatchToWidgetTree (now : Nat) (hids : w.ids.Nodup)
    (hrouted : w.Routed event hitPath activeWidget focusPath) :
    let walk := T.dispatchToWidgetTree ⟨event, planPropagation event hitPath activeWidget focusPath, now⟩ w {}
    let o := Station.walked event now [] (w.stations event hitPath activeWidget focusPath)
    walk.1.nodes.map (·.id) = w.ids ∧ walk.1.nodes.map (·.controllers) = o.controllers ∧
      ({} : T.TreeDispatchResult).Follows walk.2 o := by
  intro walk o
  have hvisit := Station.visitAll_walked ⟨event, planPropagation event hitPath activeWidget focusPath, now⟩ _
    (w.serves_stations event hitPath activeWidget focusPath now hids hrouted) {} ⟨rfl, rfl⟩
  have hids' := ids_visitAll ⟨event, planPropagation event hitPath activeWidget focusPath, now⟩ w.nodes
    ({} : T.TreeDispatchResult)
  rw [nodes_stations, ← nodes_dispatchToWidgetTree] at hvisit
  rw [← nodes_dispatchToWidgetTree] at hids'
  exact ⟨hids', hvisit.1, hvisit.2⟩

/-- The plan taken one action at a time ends as `planned` over the stations of the tree. -/
theorem follows_iteratePlan (now : Nat) (hids : w.ids.Nodup) (hrouted : w.Routed event hitPath activeWidget focusPath) :
    let plan := T.iteratePlan event now (planPropagation event hitPath activeWidget focusPath) (w.nodes, {})
    let o := Station.planned event now (w.stations event hitPath activeWidget focusPath)
    plan.1.map (·.id) = w.ids ∧ plan.1.map (·.controllers) = o.controllers ∧
      ({} : T.TreeDispatchResult).Follows plan.2 o := by
  have hnodes := w.nodes_stations event hitPath activeWidget focusPath
  have hstationIds : (w.stations event hitPath activeWidget focusPath).map (·.node.id) = w.ids := by
    rw [ids, ← hnodes, map_map]
    rfl
  obtain ⟨nodes, result, hrun, hnodeIds, hcontrollers, hfollows⟩ := Station.iteratePlan_planned event now
    (w.stations event hitPath activeWidget focusPath) (w.shaped_stations event hitPath activeWidget focusPath)
    (hstationIds ▸ hids) [] (fun m hm => by cases hm) [] (fun a ha => by cases ha) {} ⟨rfl, rfl⟩
  rw [append_nil, hnodes] at hrun
  have hplan : T.iteratePlan event now (planPropagation event hitPath activeWidget focusPath) (w.nodes, {}) =
      (nodes, result) := by
    rcases w.plan_stations event hitPath activeWidget focusPath hrouted with hplan | ⟨hplan, hnone⟩
    · rw [← hplan]
      exact hrun
    · rw [hplan] at hrun
      rw [iteratePlan_unknown event now w.nodes {} _ hnone]
      exact hrun
  rw [hplan]
  exact ⟨hnodeIds.trans hstationIds, hcontrollers, hfollows⟩

omit [Zero F] in
/-- Two lists of pairs with equal first components. -/
theorem map_pair_eq_iff (l m : List (WidgetNode T)) (h : l.map (·.id) = m.map (·.id)) :
    l.map (fun n => (n.id, n.controllers)) = m.map (fun n => (n.id, n.controllers)) ↔
      l.map (·.controllers) = m.map (·.controllers) := by
  constructor
  · intro heq
    have := congrArg (List.map Prod.snd) heq
    simpa [Function.comp_def] using this
  · intro heq
    rw [← zip_map', ← zip_map', h, heq]

/-- Controllers that handle every event, or none. -/
def latches : Toolkit Nat where
  Controller := EventPhase × Bool
  State := Unit
  Action := Unit
  phase := Prod.fst
  handleEvent c _ ctx := (c, { actions := ctx.actions, handled := c.2 })
  onAction s a _ := (s, some a)
  onInput s _ _ := (s, {})

/-- A panel with a controller, over a button whose controller handles every event. -/
def panel (controller : EventPhase × Bool) : Widget latches :=
  .node ⟨1, [controller], ()⟩ [.node ⟨2, [(.bubble, true)], ()⟩ []]

end Widget

end OriTerm
