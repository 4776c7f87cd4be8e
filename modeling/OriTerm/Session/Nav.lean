import OriTerm.Lib.FirstBest
import OriTerm.Session.Layout

/-!
# `Session.Nav` — spatial navigation between panes

`navigate` looks at the panes whose centre is strictly on one side of the focused pane and takes the first with the
least score: the distance along the axis plus half the distance across. `navigate_wrap` takes, when that side is empty,
the first pane on the opposite side with the greatest score. A distance across counts against a pane in the one search
and for it in the other.

The scores have to be numbers: `IsNumber` is every rational, and every `Float32` that is not not-a-number.

* **`navigation`** — both searches find the best score, exactly when there is a pane to find.
-/

namespace OriTerm.Layout

open Lib Option

/-- Direction for spatial navigation. -/
inductive Direction where
  | up | down | left | right
  deriving DecidableEq, Repr

/-- The opposite direction. -/
def Direction.opposite : Direction → Direction
  | .up => .down
  | .down => .up
  | .left => .right
  | .right => .left

section Search

variable {F : Type} [Add F] [Sub F] [Mul F] [Div F] [LT F] [LE F] [DecidableLT F] [DecidableLE F] [Pixels F]

variable (direction : Direction) (fromCenter candidate : F × F)

/-- The candidate is not ahead: it is passed over. -/
def notAhead : Bool :=
  match direction with
  | .up => fromCenter.2 ≤ candidate.2
  | .down => candidate.2 ≤ fromCenter.2
  | .left => fromCenter.1 ≤ candidate.1
  | .right => candidate.1 ≤ fromCenter.1

/-- The distance along the axis and the distance across. -/
def distances : F × F :=
  match direction with
  | .up => (fromCenter.2 - candidate.2, Pixels.abs (fromCenter.1 - candidate.1))
  | .down => (candidate.2 - fromCenter.2, Pixels.abs (fromCenter.1 - candidate.1))
  | .left => (fromCenter.1 - candidate.1, Pixels.abs (fromCenter.2 - candidate.2))
  | .right => (candidate.1 - fromCenter.1, Pixels.abs (fromCenter.2 - candidate.2))

/-- Primary distance plus weighted perpendicular distance. -/
def score : F :=
  let (primaryDist, perpDist) := distances direction fromCenter candidate
  primaryDist + perpDist * Pixels.half

/-- What the loop makes of a layout: the focused pane and those not ahead are passed over. -/
def candidateScore (origin : PaneId) (direction : Direction) (fromCenter : F × F) (layout : PaneLayout F) : Option F :=
  if layout.paneId = origin then none
  else if notAhead direction fromCenter layout.pixelRect.center then none
  else some (score direction fromCenter layout.pixelRect.center)

/-- The nearest pane ahead. -/
def navigate (layouts : List (PaneLayout F)) (origin : PaneId) (direction : Direction) : Option PaneId :=
  match layouts.find? (·.paneId == origin) with
  | none => none
  | some fromLayout =>
    let fromCenter := fromLayout.pixelRect.center
    let best := firstBest (fun score bestScore => score < bestScore) (candidateScore origin direction fromCenter) layouts
    best.map (·.1.paneId)

/-- The nearest pane ahead, or the farthest on the opposite side. -/
def navigateWrap (layouts : List (PaneLayout F)) (origin : PaneId) (direction : Direction) : Option PaneId :=
  match navigate layouts origin direction with
  | some id => some id
  | none =>
    match layouts.find? (·.paneId == origin) with
    | none => none
    | some fromLayout =>
      let fromCenter := fromLayout.pixelRect.center
      let opposite := direction.opposite
      let best :=
        firstBest (fun score bestScore => bestScore < score) (candidateScore origin opposite fromCenter) layouts
      best.map (·.1.paneId)

end Search

/-! ## Numbers -/

/-- Pixels whose numbers are ordered by a key. -/
class OrderedPixels (F : Type) (K : outParam Type) [LT F] [LE F] [LinearOrder K] where
  IsNumber : F → Prop
  key : F → K
  lt_iff : ∀ {a b}, IsNumber a → IsNumber b → (a < b ↔ key a < key b)
  le_iff : ∀ {a b}, IsNumber a → IsNumber b → (a ≤ b ↔ key a ≤ key b)

instance : OrderedPixels ℚ ℚ where
  IsNumber _ := True
  key := id
  lt_iff _ _ := Iff.rfl
  le_iff _ _ := Iff.rfl

instance : OrderedPixels Float32 (ℤ ×ₗ ℤ ×ₗ ℤ) where
  IsNumber x := x.isNaN = false
  key x := Binary32.key (Binary32.unpacked x)
  lt_iff ha hb := Binary32.lt_iff_key ha hb
  le_iff ha hb := Binary32.le_iff_key ha hb

section Numbers

variable {F K : Type} [LT F] [LE F] [LinearOrder K] [OrderedPixels F K]

open OrderedPixels

theorem lt_iff_not_le {a b : F} (ha : IsNumber a) (hb : IsNumber b) : a < b ↔ ¬ b ≤ a := by
  rw [lt_iff ha hb, le_iff hb ha, not_le]

end Numbers

/-! ## What is searched -/

section Spec

variable {F : Type} [Add F] [Sub F] [Mul F] [Div F] [LT F] [LE F] [DecidableLT F] [DecidableLE F] [Pixels F]

/-- The candidate lies strictly on the side. -/
def Ahead (direction : Direction) (fromCenter candidate : F × F) : Prop :=
  match direction with
  | .up => candidate.2 < fromCenter.2
  | .down => fromCenter.2 < candidate.2
  | .left => candidate.1 < fromCenter.1
  | .right => fromCenter.1 < candidate.1

variable {K : Type} [LinearOrder K] [OrderedPixels F K]

open OrderedPixels

/-- Centres are numbers, and so are the scores of the panes ahead. -/
def Measured (layouts : List (PaneLayout F)) : Prop :=
  ∀ f ∈ layouts, ∀ l ∈ layouts, IsNumber l.pixelRect.center.1 ∧ IsNumber l.pixelRect.center.2 ∧
    ∀ direction, Ahead direction f.pixelRect.center l.pixelRect.center →
      IsNumber (score direction f.pixelRect.center l.pixelRect.center)

/-- A pane other than the focused one, strictly on the side. -/
def OnSide (origin : PaneId) (direction : Direction) (f l : PaneLayout F) : Prop :=
  l.paneId ≠ origin ∧ Ahead direction f.pixelRect.center l.pixelRect.center

omit [Add F] [Sub F] [Mul F] [Div F] [DecidableLT F] [Pixels F] in
theorem notAhead_iff (direction : Direction) {c p : F × F} (hc : IsNumber c.1 ∧ IsNumber c.2)
    (hp : IsNumber p.1 ∧ IsNumber p.2) : notAhead direction c p = true ↔ ¬ Ahead direction c p := by
  cases direction with
  | up => exact decide_eq_true_iff.trans (not_iff_comm.mp (lt_iff_not_le hp.2 hc.2).symm).symm
  | down => exact decide_eq_true_iff.trans (not_iff_comm.mp (lt_iff_not_le hc.2 hp.2).symm).symm
  | left => exact decide_eq_true_iff.trans (not_iff_comm.mp (lt_iff_not_le hp.1 hc.1).symm).symm
  | right => exact decide_eq_true_iff.trans (not_iff_comm.mp (lt_iff_not_le hc.1 hp.1).symm).symm

omit [DecidableLT F] in
/-- The loop scores the panes on the side. -/
theorem candidateScore_eq_some {layouts : List (PaneLayout F)} (hm : Measured layouts) {origin : PaneId}
    {direction : Direction} {f l : PaneLayout F} (hf : f ∈ layouts) (hl : l ∈ layouts) {s : F} :
    candidateScore origin direction f.pixelRect.center l = some s ↔
      OnSide origin direction f l ∧ score direction f.pixelRect.center l.pixelRect.center = s := by
  have hahead := notAhead_iff direction
    ⟨(hm f hf f hf).1, (hm f hf f hf).2.1⟩ ⟨(hm f hf l hl).1, (hm f hf l hl).2.1⟩
  unfold candidateScore OnSide
  by_cases hid : l.paneId = origin
  · rw [if_pos hid]
    exact iff_of_false nofun fun h => h.1.1 hid
  · rw [if_neg hid]
    by_cases hside : Ahead direction f.pixelRect.center l.pixelRect.center
    · rw [if_neg fun h => hahead.mp h hside, some.injEq]
      exact ⟨fun h => ⟨⟨hid, hside⟩, h⟩, fun h => h.2⟩
    · rw [if_pos (hahead.mpr hside)]
      exact iff_of_false nofun fun h => hside h.1.2

omit [DecidableLT F] in
/-- The search of one side: what is found has the lowest rank. -/
theorem search_spec {R : Type} [LinearOrder R] (better : F → F → Bool) (rank : F → R)
    (hbetter : ∀ s t : F, IsNumber s → IsNumber t → (better s t = true ↔ rank s < rank t))
    {layouts : List (PaneLayout F)} (hm : Measured layouts) (origin : PaneId) (direction : Direction)
    {f : PaneLayout F} (hf : f ∈ layouts) :
    let best := firstBest better (candidateScore origin direction f.pixelRect.center) layouts
    (best = none ↔ ∀ l ∈ layouts, ¬ OnSide origin direction f l) ∧
      ∀ id, best.map (·.1.paneId) = some id → ∃ l ∈ layouts, l.paneId = id ∧ OnSide origin direction f l ∧
        ∀ m ∈ layouts, OnSide origin direction f m →
          rank (score direction f.pixelRect.center l.pixelRect.center) ≤
            rank (score direction f.pixelRect.center m.pixelRect.center) := by
  intro best
  have hgood : ∀ l ∈ layouts, ∀ s, candidateScore origin direction f.pixelRect.center l = some s → IsNumber s := by
    intro l hl s hs
    rw [candidateScore_eq_some hm hf hl] at hs
    exact hs.2 ▸ (hm f hf l hl).2.2 direction hs.1.2
  obtain ⟨hnone, hsome⟩ := firstBest_spec IsNumber rank hbetter hgood
  refine ⟨hnone.trans (forall₂_congr fun l hl => ?_), fun id hid => ?_⟩
  · rw [eq_none_iff_forall_ne_some]
    constructor
    · exact fun h hside => h _ ((candidateScore_eq_some hm hf hl).mpr ⟨hside, rfl⟩)
    · exact fun h s hs => h ((candidateScore_eq_some hm hf hl).mp hs).1
  · obtain ⟨⟨l, s⟩, hbest, rfl⟩ := map_eq_some_iff.mp hid
    obtain ⟨hl, hs, hleast⟩ := hsome l s hbest
    obtain ⟨hside, rfl⟩ := (candidateScore_eq_some hm hf hl).mp hs
    exact ⟨l, hl, rfl, hside, fun m hmem hmside =>
      hleast m hmem _ ((candidateScore_eq_some hm hf hmem).mpr ⟨hmside, rfl⟩)⟩

/-- **Navigation finds the best score.** With the focused pane in the list, `navigate` finds a pane exactly when one
lies strictly ahead, and then one with the least score; `navigate_wrap` agrees with it there, and otherwise finds a pane
exactly when one lies strictly on the opposite side, and then one with the greatest score. -/
theorem navigation {layouts : List (PaneLayout F)} (hm : Measured layouts) (origin : PaneId) (direction : Direction) :
    (layouts.find? (·.paneId == origin) = none →
      navigate layouts origin direction = none ∧ navigateWrap layouts origin direction = none) ∧
    ∀ f, layouts.find? (·.paneId == origin) = some f →
      (navigate layouts origin direction = none ↔ ∀ l ∈ layouts, ¬ OnSide origin direction f l) ∧
      (∀ id, navigate layouts origin direction = some id →
        navigateWrap layouts origin direction = some id ∧
        ∃ l ∈ layouts, l.paneId = id ∧ OnSide origin direction f l ∧
          ∀ m ∈ layouts, OnSide origin direction f m →
            ¬ score direction f.pixelRect.center m.pixelRect.center <
              score direction f.pixelRect.center l.pixelRect.center) ∧
      (navigate layouts origin direction = none →
        (navigateWrap layouts origin direction = none ↔ ∀ l ∈ layouts, ¬ OnSide origin direction.opposite f l) ∧
        ∀ id, navigateWrap layouts origin direction = some id →
          ∃ l ∈ layouts, l.paneId = id ∧ OnSide origin direction.opposite f l ∧
            ∀ m ∈ layouts, OnSide origin direction.opposite f m →
              ¬ score direction.opposite f.pixelRect.center l.pixelRect.center <
                score direction.opposite f.pixelRect.center m.pixelRect.center) := by
  refine ⟨fun hnone => ?_, fun f hfind => ?_⟩
  · have hnav : navigate layouts origin direction = none := by rw [navigate, hnone]
    exact ⟨hnav, by rw [navigateWrap, hnav, hnone]⟩
  · have hf : f ∈ layouts := List.mem_of_find?_eq_some hfind
    have hnav : navigate layouts origin direction =
        (firstBest (fun s b => decide (s < b)) (candidateScore origin direction f.pixelRect.center) layouts).map
          (·.1.paneId) := by
      rw [navigate, hfind]
    have hnumber {l : PaneLayout F} (hl : l ∈ layouts) {d : Direction} (hside : OnSide origin d f l) :
        IsNumber (score d f.pixelRect.center l.pixelRect.center) := (hm f hf l hl).2.2 d hside.2
    obtain ⟨hnone, hsome⟩ := search_spec (fun s b => decide (s < b)) key
      (fun s t hs ht => decide_eq_true_iff.trans (lt_iff hs ht)) hm origin direction hf
    refine ⟨?_, fun id hid => ⟨by rw [navigateWrap, hid], ?_⟩, fun hempty => ?_⟩
    · rw [hnav, map_eq_none_iff]
      exact hnone
    · obtain ⟨l, hl, hlid, hside, hleast⟩ := hsome id (hnav ▸ hid)
      refine ⟨l, hl, hlid, hside, fun m hmem hmside => ?_⟩
      rw [lt_iff (hnumber hmem hmside) (hnumber hl hside), not_lt]
      exact hleast m hmem hmside
    · have hwrap : navigateWrap layouts origin direction =
          (firstBest (fun s b => decide (b < s)) (candidateScore origin direction.opposite f.pixelRect.center)
            layouts).map (·.1.paneId) := by
        rw [navigateWrap, hempty, hfind]
      -- greater is better: the order of the keys is turned around
      obtain ⟨hnone, hsome⟩ := search_spec (fun s b => decide (b < s)) (fun s => OrderDual.toDual (key s))
        (fun s t hs ht => decide_eq_true_iff.trans (lt_iff ht hs)) hm origin direction.opposite hf
      refine ⟨?_, fun id hid => ?_⟩
      · rw [hwrap, map_eq_none_iff]
        exact hnone
      · obtain ⟨l, hl, hlid, hside, hgreatest⟩ := hsome id (hwrap ▸ hid)
        refine ⟨l, hl, hlid, hside, fun m hmem hmside => ?_⟩
        rw [lt_iff (hnumber hl hside) (hnumber hmem hmside), not_lt]
        exact hgreatest m hmem hmside

end Spec

/-- A grid of two by two panes. -/
def grid2x2 : List (PaneLayout Float32) :=
  [⟨1, ⟨0, 0, 500, 400⟩, 50, 20, true, false⟩, ⟨2, ⟨500, 0, 500, 400⟩, 50, 20, false, false⟩,
    ⟨3, ⟨0, 400, 500, 400⟩, 50, 20, false, false⟩, ⟨4, ⟨500, 400, 500, 400⟩, 50, 20, false, false⟩]

theorem measured_grid : Measured grid2x2 := by
  have h : ∀ f ∈ grid2x2, ∀ l ∈ grid2x2, l.pixelRect.center.1.isNaN = false ∧ l.pixelRect.center.2.isNaN = false ∧
      ∀ d ∈ [Direction.up, .down, .left, .right], (score d f.pixelRect.center l.pixelRect.center).isNaN = false := by
    decide +kernel
  exact fun f hf l hl => ⟨(h f hf l hl).1, (h f hf l hl).2.1, fun d _ => (h f hf l hl).2.2 d (by cases d <;> decide)⟩

theorem navigation_grid : navigate grid2x2 1 .right = some 2 ∧ navigateWrap grid2x2 1 .right = some 2 := by
  have hright : navigate grid2x2 1 .right = some 2 := by decide +kernel
  have hspec := (navigation measured_grid 1 .right).2 ⟨1, ⟨0, 0, 500, 400⟩, 50, 20, true, false⟩ (by decide +kernel)
  exact ⟨hright, (hspec.2.1 2 hright).1⟩

/-- A pane whose position is not a number is found, although its centre is on no side. -/
example :
    let unmeasured : PaneLayout Float32 := ⟨2, ⟨0 / 0, 0, 500, 400⟩, 50, 20, false, false⟩
    let focused : PaneLayout Float32 := ⟨1, ⟨0, 0, 500, 400⟩, 50, 20, true, false⟩
    navigate [focused, unmeasured] 1 .right = some 2 ∧
      ¬ focused.pixelRect.center.1 < unmeasured.pixelRect.center.1 := by
  decide +kernel

/-- Wrapping from the top right goes to the bottom left, although the top left is as far and in the same row. -/
theorem wrap_leaves_row :
    ¬ ∀ (layouts : List (PaneLayout Float32)) (origin : PaneId) (direction : Direction) (f : PaneLayout Float32)
        (id : PaneId), Measured layouts → layouts.find? (·.paneId == origin) = some f →
      navigate layouts origin direction = none → navigateWrap layouts origin direction = some id →
      ∃ l ∈ layouts, l.paneId = id ∧ ∀ m ∈ layouts, OnSide origin direction.opposite f m →
        let ofL := distances direction.opposite f.pixelRect.center l.pixelRect.center
        let ofM := distances direction.opposite f.pixelRect.center m.pixelRect.center
        ¬ ofL.1 < ofM.1 ∧ (¬ ofM.1 < ofL.1 → ¬ ofM.2 < ofL.2) := by
  intro h
  let origin : PaneLayout Float32 := ⟨2, ⟨500, 0, 500, 400⟩, 50, 20, false, false⟩
  let sameRow : PaneLayout Float32 := ⟨1, ⟨0, 0, 500, 400⟩, 50, 20, true, false⟩
  obtain ⟨l, hl, hid, hbest⟩ := h grid2x2 2 .right origin 3 measured_grid (by decide +kernel) (by decide +kernel)
    (by decide +kernel)
  have hside : OnSide 2 .left origin sameRow := by
    refine ⟨by decide, ?_⟩
    show sameRow.pixelRect.center.1 < origin.pixelRect.center.1
    decide +kernel
  have hthree : ∀ l ∈ grid2x2, l.paneId = 3 →
      (distances .left origin.pixelRect.center sameRow.pixelRect.center).2 <
        (distances .left origin.pixelRect.center l.pixelRect.center).2 ∧
      ¬ (distances .left origin.pixelRect.center sameRow.pixelRect.center).1 <
        (distances .left origin.pixelRect.center l.pixelRect.center).1 := by decide +kernel
  exact (hbest sameRow List.mem_cons_self hside).2 (hthree l hl hid).2 (hthree l hl hid).1

end OriTerm.Layout
