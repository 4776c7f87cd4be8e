import OriTerm.Session.SplitPath

/-!
# `Session.RatioUpdates` — which split a ratio update reaches

`set_ratio` is documented to update the nearest ancestor of a direction, and `resize_toward` to adjust the deepest
border of a pane on one side. The first walks down from the root and stops at the first split of the direction, which
is the outermost one; the second decides on the way back up.

* **`ratio_updates_iff`** — both reach the nearest ancestor exactly when the pane has at most one ancestor of the
  direction, or the outermost and the nearest have the new ratio already.
-/

namespace OriTerm

open List

namespace SplitTree

variable (pane : PaneId)

variable {path : List Frame}

/-! ## What is documented -/

/-- The nearest ancestor split of the direction gets the ratio. -/
def setNearest (direction : SplitDirection) (ratio : Float32) (t : SplitTree) : SplitTree :=
  if pane ∈ t.panes then plug (adjustDeepest (·.runs direction) (fun _ => ratio) (t.pathTo pane)) (leaf pane) else t

/-- The nearest split of the axis that has the pane on the side is moved by `delta`. -/
def moveNearest (axis : SplitDirection) (paneInFirst : Bool) (delta : Float32) (t : SplitTree) : SplitTree :=
  if pane ∈ t.panes then
    plug (adjustDeepest (·.borders axis paneInFirst) (fun ratio => clampRatio (ratio + delta)) (t.pathTo pane))
      (leaf pane)
  else t

/-- The ratios of the splits of the direction above a pane, from the root down. -/
def ratiosAbove (direction : SplitDirection) (t : SplitTree) : List Float32 :=
  ((t.pathTo pane).filter (·.runs direction)).map (·.ratio)

/-! ## Paths and trees -/

/-- Paths that turn the same way at every split are told apart by their trees. -/
theorem plug_injective {path' : List Frame} {t : SplitTree}
    (hsides : path.map (·.inFirst) = path'.map (·.inFirst)) (h : plug path t = plug path' t) : path = path' := by
  induction path generalizing path' with
  | nil => exact (map_eq_nil_iff.mp hsides.symm).symm
  | cons f path ih =>
    cases path' with
    | nil => cases hsides
    | cons g path' =>
      obtain ⟨d, r, inFirst, sibling⟩ := f
      obtain ⟨d', r', inFirst', sibling'⟩ := g
      rw [map_cons, map_cons, List.cons.injEq] at hsides
      obtain ⟨hside, hsides⟩ := hsides
      cases hside
      cases inFirst with
      | true =>
        obtain ⟨rfl, rfl, hpath, rfl⟩ := split.inj h
        rw [ih hsides hpath]
      | false =>
        obtain ⟨rfl, rfl, rfl, hpath⟩ := split.inj h
        rw [ih hsides hpath]

section Sides

variable (qualifies : Frame → Bool) (change : Float32 → Float32)

theorem sides_adjustOutermost (path : List Frame) :
    (adjustOutermost qualifies change path).map (·.inFirst) = path.map (·.inFirst) := by
  induction path with
  | nil => rfl
  | cons f path ih =>
    unfold adjustOutermost
    split
    · rfl
    · exact congrArg (f.inFirst :: ·) ih

theorem sides_adjustDeepest (path : List Frame) :
    (adjustDeepest qualifies change path).map (·.inFirst) = path.map (·.inFirst) := by
  induction path with
  | nil => rfl
  | cons f path ih =>
    unfold adjustDeepest
    split
    · exact congrArg (f.inFirst :: ·) ih
    · split <;> rfl

end Sides

theorem pathTo_of_not_mem {pane : PaneId} {t : SplitTree} (h : pane ∉ t.panes) : t.pathTo pane = [] := by
  cases t with
  | leaf id => rfl
  | split d r first second =>
    obtain ⟨h₁, h₂⟩ := not_or.mp (mt mem_append.mpr h)
    rw [pathTo, if_neg (mt contains_iff.mp h₁), if_neg (mt contains_iff.mp h₂)]

/-! ## Outermost against nearest -/

/-- When no split below qualifies, there is nothing to change. -/
theorem any_eq_false_iff {qualifies : Frame → Bool} :
    path.any qualifies = false ↔ path.filter qualifies = [] := by
  simp [filter_eq_nil_iff]

/-- A deepest change that leaves the path as it is: the deepest ratio is the new one already. -/
theorem adjustDeepest_eq_self_iff (qualifies : Frame → Bool) (ratio : Float32) (h : path.any qualifies = true) :
    adjustDeepest qualifies (fun _ => ratio) path = path ↔
      ((path.filter qualifies).map (·.ratio)).getLast? = some ratio := by
  induction path with
  | nil => cases h
  | cons f path ih =>
    cases hany : path.any qualifies with
    | true =>
      obtain ⟨g, hg, hq⟩ := any_eq_true.mp hany
      have hne : path.filter qualifies ≠ [] := ne_nil_of_mem (mem_filter.mpr ⟨hg, hq⟩)
      rw [adjustDeepest_below hany, List.cons.injEq, eq_self_iff_true, true_and, ih hany, filter_cons]
      split
      · rw [map_cons, getLast?_cons_of_ne_nil (map_eq_nil_iff.not.mpr hne)]
      · rfl
    | false =>
      have hf : qualifies f = true := by simpa [hany] using h
      rw [adjustDeepest_here hany hf, filter_cons, if_pos hf, any_eq_false_iff.mp hany]
      obtain ⟨d, r, inFirst, sibling⟩ := f
      simp [eq_comm]

theorem adjustOutermost_of_none {qualifies : Frame → Bool} {change : Float32 → Float32} (h : path.any qualifies = false) : adjustOutermost qualifies change path = path := by
  induction path with
  | nil => rfl
  | cons f path ih =>
    rw [any_cons, Bool.or_eq_false_iff] at h
    rw [adjustOutermost_below (by rw [h.1]; exact Bool.false_ne_true), ih h.2]

/-- The outermost and the deepest change agree on one split at most, or where both ratios are the new one. -/
theorem adjust_agree_iff (qualifies : Frame → Bool) (ratio : Float32) (path : List Frame) :
    adjustOutermost qualifies (fun _ => ratio) path = adjustDeepest qualifies (fun _ => ratio) path ↔
      let ratios := (path.filter qualifies).map (·.ratio)
      ratios.length ≤ 1 ∨ (ratios.head? = some ratio ∧ ratios.getLast? = some ratio) := by
  induction path with
  | nil => simp [adjustOutermost, adjustDeepest]
  | cons f path ih =>
    cases hany : path.any qualifies with
    | false =>
      have hnone := any_eq_false_iff.mp hany
      cases hf : qualifies f with
      | false => simp [adjustOutermost, adjustDeepest, hf, hany, hnone, adjustOutermost_of_none]
      | true => simp [adjustOutermost, adjustDeepest, hf, hany, hnone]
    | true =>
      cases hf : qualifies f with
      | false =>
        have hne : ¬ qualifies f = true := by rw [hf]; exact Bool.false_ne_true
        rw [adjustOutermost_below hne, adjustDeepest_below hany, List.cons.injEq, eq_self_iff_true, true_and, ih,
          filter_cons, if_neg hne]
      | true =>
        -- at least two splits qualify: the outermost must have the ratio, and the deepest too
        have hdeepest := adjustDeepest_eq_self_iff qualifies ratio hany
        obtain ⟨g, hg, hq⟩ := any_eq_true.mp hany
        have hne : (path.filter qualifies).map (·.ratio) ≠ [] :=
          map_eq_nil_iff.not.mpr (ne_nil_of_mem (mem_filter.mpr ⟨hg, hq⟩))
        have hlen : ¬ ((path.filter qualifies).map (·.ratio)).length + 1 ≤ 1 := by
          have := length_pos_iff.mpr hne
          omega
        have hhead : ({ f with ratio } : Frame) = f ↔ f.ratio = ratio := by
          obtain ⟨d, r, inFirst, sibling⟩ := f
          simp [eq_comm]
        rw [adjustOutermost_here hf, adjustDeepest_below hany, List.cons.injEq, eq_comm (a := path), hdeepest, hhead,
          filter_cons, if_pos hf]
        dsimp only
        rw [map_cons, length_cons, or_iff_right hlen, head?_cons, Option.some.injEq,
          getLast?_cons_of_ne_nil hne]

/-! ## Ratio updates -/

/-- `resize_toward` reaches the nearest border. -/
theorem resizeToward_eq (axis : SplitDirection) (paneInFirst : Bool) (delta : Float32) (t : SplitTree) :
    t.resizeToward pane axis paneInFirst delta = t.moveNearest pane axis paneInFirst delta := by
  unfold resizeToward moveNearest
  by_cases h : pane ∈ t.panes
  · rw [resizeTowardInner_eq h, if_pos h]
  · rw [resizeTowardInner_of_not_mem h, if_neg h]

/-- **Both updates reach the nearest ancestor exactly when `set_ratio` has no choice**: the pane has at most one
ancestor of the direction, or the outermost and the nearest of them have the new ratio already. -/
theorem ratio_updates_iff (t : SplitTree) (pane : PaneId) (direction : SplitDirection) (newRatio : Float32) :
    (t.setRatio pane direction newRatio = t.setNearest pane direction (clampRatio newRatio) ∧
      ∀ axis paneInFirst delta,
        t.resizeToward pane axis paneInFirst delta = t.moveNearest pane axis paneInFirst delta) ↔
    let ratios := t.ratiosAbove pane direction
    ratios.length ≤ 1 ∨
      (ratios.head? = some (clampRatio newRatio) ∧ ratios.getLast? = some (clampRatio newRatio)) := by
  rw [and_iff_left fun axis paneInFirst delta => resizeToward_eq pane axis paneInFirst delta t]
  refine Iff.trans ?_ (adjust_agree_iff (·.runs direction) (clampRatio newRatio) (t.pathTo pane))
  unfold setNearest
  by_cases h : pane ∈ t.panes
  · rw [if_pos h, setRatio_eq h]
    refine ⟨fun heq => plug_injective ?_ heq, fun heq => by rw [heq]⟩
    rw [sides_adjustOutermost, sides_adjustDeepest]
  · have hnil : t.pathTo pane = [] := pathTo_of_not_mem h
    rw [if_neg h, setRatio_of_not_mem h, hnil]
    exact iff_of_true rfl rfl

/-- With two nested splits of a direction the outer one moves. -/
theorem set_ratio_moves_outer :
    ¬ ∀ (t : SplitTree) (pane : PaneId) (direction : SplitDirection) (newRatio : Float32),
      t.setRatio pane direction newRatio = t.setNearest pane direction (clampRatio newRatio) := by
  intro h
  have houter := h (split .vertical 0.5 (split .vertical 0.5 (leaf 1) (leaf 2)) (leaf 3)) 1 .vertical 0.75
  have hratio : clampRatio 0.75 = 0.5 := (split.inj houter).2.1
  exact absurd hratio (by decide +kernel)

end SplitTree

end OriTerm
