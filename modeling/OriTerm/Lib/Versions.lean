import Mathlib.Order.Defs.PartialOrder
import OriTerm.Lib.Run

/-!
# `Lib.Versions` — a version number as a change detector

A machine shows contents under keys, each with a version number. A reader that keeps the last pair it saw under a key and
compares versions only is right as long as no version comes back with another content.

`Watched` is the machine with the last pair shown under each key, also after the key is gone. If every step renews what was
last shown (`Renews`: the same pair, or a newer version), any two observations along the run agree where their versions do
(`renews_run`, `content_eq`).

Nothing here mentions a particular program.
-/

namespace Lib

variable {σ κ ε ν π : Type*} [Preorder ν]

/-- A pair after another one: nothing is shown, the same pair, or a newer version. -/
def Renews : Option (ν × π) → Option (ν × π) → Prop
  | some o, some o' => o' = o ∨ o.1 < o'.1
  | _, _ => True

instance [DecidableEq ν] [DecidableEq π] [DecidableLT ν] (last now : Option (ν × π)) : Decidable (Renews last now) := by
  unfold Renews
  split <;> infer_instance

namespace Renews

theorem refl (o : Option (ν × π)) : Renews o o := by
  cases o with
  | none => trivial
  | some o => exact .inl rfl

theorem none_right (o : Option (ν × π)) : Renews o none := by cases o <;> trivial

/-- Through a pair that was shown. -/
theorem trans {o o'' : Option (ν × π)} {o' : ν × π} (h : Renews o (some o')) (h' : Renews (some o') o'') : Renews o o'' := by
  cases o with
  | none => trivial
  | some o =>
    cases o'' with
    | none => trivial
    | some o'' =>
      rcases h with rfl | hlt
      · exact h'
      · rcases h' with rfl | hlt'
        · exact .inr hlt
        · exact .inr (lt_trans hlt hlt')

/-- **Equal versions mean equal contents.** -/
theorem content_eq {o o' : ν × π} (h : Renews (some o) (some o')) (hversion : o'.1 = o.1) : o'.2 = o.2 := by
  rcases h with rfl | hlt
  · rfl
  · rw [hversion] at hlt
    exact absurd hlt (lt_irrefl _)

end Renews

/-- A machine and the last pair shown under each key. -/
structure Watched (σ κ ν π : Type*) where
  state : σ
  last : κ → Option (ν × π)

namespace Watched

variable (shows : σ → κ → Option (ν × π)) (step : σ → ε → σ)

/-- Watching begins. -/
def start (s : σ) : Watched σ κ ν π := ⟨s, shows s⟩

/-- One step, watched. -/
def next (w : Watched σ κ ν π) (e : ε) : Watched σ κ ν π where
  state := step w.state e
  last := fun k => (shows (step w.state e) k).or (w.last k)

/-- What is shown now was shown last. -/
def Current (w : Watched σ κ ν π) : Prop := ∀ k o, shows w.state k = some o → w.last k = some o

/-- The step renews what was last shown. -/
def Renewing (w : Watched σ κ ν π) (e : ε) : Prop := ∀ k, Renews (w.last k) (shows (step w.state e) k)

variable {shows step} {w : Watched σ κ ν π} {s : σ} {es : List ε} {k : κ}

omit [Preorder ν] in
theorem current_start (s : σ) : Current shows (start shows s) := fun _ _ h => h

omit [Preorder ν] in
theorem current_next (w : Watched σ κ ν π) (e : ε) : Current shows (next shows step w e) := by
  intro k o h
  have hshown : shows (step w.state e) k = some o := h
  show (shows (step w.state e) k).or (w.last k) = some o
  rw [hshown]
  rfl

omit [Preorder ν] in
theorem state_run (w : Watched σ κ ν π) (es : List ε) : (run (next shows step) w es).state = run step w.state es := by
  induction es generalizing w with
  | nil => rfl
  | cons e es ih => exact ih (next shows step w e)

omit [Preorder ν] in
theorem current_run (h : Current shows w) (es : List ε) : Current shows (run (next shows step) w es) :=
  run_invariant (fun w e _ => current_next w e) h es

/-- What was shown last is still renewed after a step. -/
theorem renews_next {e : ε} {o : ν × π} (hrenewing : Renewing shows step w e) (h : ∃ l, w.last k = some l ∧ Renews (some o) (some l)) :
    ∃ l, (next shows step w e).last k = some l ∧ Renews (some o) (some l) := by
  obtain ⟨l, hl, hrenews⟩ := h
  cases hs : shows (step w.state e) k with
  | none =>
    refine ⟨l, ?_, hrenews⟩
    show (shows (step w.state e) k).or (w.last k) = some l
    rw [hs, hl]
    rfl
  | some o' =>
    refine ⟨o', ?_, hrenews.trans ?_⟩
    · show (shows (step w.state e) k).or (w.last k) = some o'
      rw [hs]
      rfl
    · have hk := hrenewing k
      rw [hl, hs] at hk
      exact hk

theorem renews_of_last {o : ν × π} (h : Along (next shows step) (Renewing shows step) w es)
    (hlast : ∃ l, w.last k = some l ∧ Renews (some o) (some l)) :
    ∃ l, (run (next shows step) w es).last k = some l ∧ Renews (some o) (some l) := by
  induction es generalizing w with
  | nil => exact hlast
  | cons e es ih =>
    obtain ⟨hfirst, hrest⟩ := h
    exact ih hrest (renews_next hfirst hlast)

/-- **A later observation renews an earlier one**, whatever happened to the key in between. -/
theorem renews_run {es es' : List ε} (h : Along (next shows step) (Renewing shows step) (start shows s) (es ++ es')) (k : κ) :
    Renews (shows (run step s es) k) (shows (run step s (es ++ es')) k) := by
  cases hfirst : shows (run step s es) k with
  | none => exact trivial
  | some o =>
    cases hsecond : shows (run step s (es ++ es')) k with
    | none => exact Renews.none_right _
    | some o' =>
      rw [along_append] at h
      have hlast : (run (next shows step) (start shows s) es).last k = some o := by
        refine current_run (current_start s) es k o ?_
        rw [state_run]
        exact hfirst
      obtain ⟨l, hl, hrenews⟩ := renews_of_last h.2 ⟨o, hlast, Renews.refl _⟩
      have hlast' : (run (next shows step) (start shows s) (es ++ es')).last k = some o' := by
        refine current_run (current_start s) (es ++ es') k o' ?_
        rw [state_run]
        exact hsecond
      rw [run_append, hl] at hlast'
      cases hlast'
      exact hrenews

end Watched

end Lib
