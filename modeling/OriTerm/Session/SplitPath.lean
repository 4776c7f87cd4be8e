import OriTerm.Lib.Binary32
import OriTerm.Session.SplitTree

/-!
# `Session.SplitPath` — what a mutation does along the path to a pane

The path to a pane is the list of the splits above it, from the root down, each with the side the pane is on and the
subtree on the other side. `plug` puts a tree at the end of a path. A mutation of the split tree is what it does to the
path and to the leaf at its end: the siblings along the path are the same before and after.

* **`splitAt_eq`**, **`remove_plug`**, **`setRatio_eq`**, **`resizeTowardInner_eq`**, **`setDividerRatio_plug`** — the
  mutations in terms of paths;
* **`remove_splitAt`** — a removal takes back a split.
-/

namespace OriTerm

open Lib List

namespace SplitTree

/-! ## Paths -/

/-- One split of a path. -/
structure Frame where
  direction : SplitDirection
  ratio : Float32
  /-- The path goes on in the first child. -/
  inFirst : Bool
  /-- The other child. -/
  sibling : SplitTree

/-- The split of a frame, with a tree in the place where the path goes on. -/
def Frame.fill (f : Frame) (t : SplitTree) : SplitTree :=
  match f.inFirst with
  | true => split f.direction f.ratio t f.sibling
  | false => split f.direction f.ratio f.sibling t

/-- Puts a tree at the end of a path. -/
def plug : List Frame → SplitTree → SplitTree
  | [], t => t
  | f :: path, t => f.fill (plug path t)

/-- The path to the first leaf of a pane. -/
def pathTo (pane : PaneId) : SplitTree → List Frame
  | leaf _ => []
  | split d r first second =>
    if first.contains pane then ⟨d, r, true, second⟩ :: first.pathTo pane
    else if second.contains pane then ⟨d, r, false, first⟩ :: second.pathTo pane
    else []

theorem plug_append (outer inner : List Frame) (t : SplitTree) : plug (outer ++ inner) t = plug outer (plug inner t) := by
  induction outer with
  | nil => rfl
  | cons f outer ih => exact congrArg f.fill ih

variable {pane : PaneId}

theorem pathTo_first {first : SplitTree} (h : pane ∈ first.panes) (d : SplitDirection) (r : Float32)
    (second : SplitTree) : (split d r first second).pathTo pane = ⟨d, r, true, second⟩ :: first.pathTo pane := by
  rw [pathTo, if_pos (contains_iff.mpr h)]

theorem pathTo_second {first second : SplitTree} (h₁ : pane ∉ first.panes) (h₂ : pane ∈ second.panes)
    (d : SplitDirection) (r : Float32) :
    (split d r first second).pathTo pane = ⟨d, r, false, first⟩ :: second.pathTo pane := by
  rw [pathTo, if_neg (mt contains_iff.mp h₁), if_pos (contains_iff.mpr h₂)]

/-- Walks down to a pane: at its leaf, in the first child, in the second only. -/
theorem descent {motive : (t : SplitTree) → pane ∈ t.panes → Prop} (here : motive (leaf pane) (mem_singleton_self pane))
    (first : ∀ d r first second (h : pane ∈ first.panes), motive first h → motive (split d r first second) (mem_append_left _ h))
    (second : ∀ d r first second (_ : pane ∉ first.panes) (h : pane ∈ second.panes), motive second h → motive (split d r first second) (mem_append_right _ h))
    (t : SplitTree) (h : pane ∈ t.panes) : motive t h := by
  induction t with
  | leaf id =>
    obtain rfl := mem_singleton.mp h
    exact here
  | split d r fst snd ih₁ ih₂ =>
    by_cases h₁ : pane ∈ fst.panes
    · exact first d r fst snd h₁ (ih₁ h₁)
    · have h₂ : pane ∈ snd.panes := (mem_append.mp h).resolve_left h₁
      exact second d r fst snd h₁ h₂ (ih₂ h₂)

variable {t : SplitTree}

/-- **The path leads to the pane.** -/
theorem plug_pathTo (h : pane ∈ t.panes) : plug (t.pathTo pane) (leaf pane) = t := by
  induction t, h using descent with
  | here => rfl
  | first d r first second h₁ ih =>
    rw [pathTo_first h₁]
    exact congrArg (split d r · second) ih
  | second d r first second h₁ h₂ ih =>
    rw [pathTo_second h₁ h₂]
    exact congrArg (split d r first) ih

/-! ## Ratios -/

@[simp] theorem clampRatio_clampRatio (ratio : Float32) : clampRatio (clampRatio ratio) = clampRatio ratio :=
  Binary32.clamp_clamp (by decide +kernel) (by decide +kernel) (by decide +kernel) ratio

/-! ## The mutations along a path -/

/-- A split replaces the leaf. -/
theorem splitAt_eq (h : pane ∈ t.panes) (direction : SplitDirection) (newPane : PaneId) (ratio : Float32) :
    t.splitAt pane direction newPane ratio =
      plug (t.pathTo pane) (split direction (clampRatio ratio) (leaf pane) (leaf newPane)) := by
  induction t, h using descent generalizing ratio with
  | here =>
    rw [splitAt, if_pos (beq_self_eq_true pane)]
    rfl
  | first d r first second h₁ ih =>
    rw [splitAt, if_pos (contains_iff.mpr h₁), ih, clampRatio_clampRatio, pathTo_first h₁]
    rfl
  | second d r first second h₁ h₂ ih =>
    rw [splitAt, if_neg (mt contains_iff.mp h₁), if_pos (contains_iff.mpr h₂), ih, clampRatio_clampRatio,
      pathTo_second h₁ h₂]
    rfl

/-- Changes the ratio of the outermost split that qualifies. -/
def adjustOutermost (qualifies : Frame → Bool) (change : Float32 → Float32) : List Frame → List Frame
  | [] => []
  | f :: path =>
    if qualifies f then { f with ratio := change f.ratio } :: path else f :: adjustOutermost qualifies change path

/-- Changes the ratio of the deepest split that qualifies. -/
def adjustDeepest (qualifies : Frame → Bool) (change : Float32 → Float32) : List Frame → List Frame
  | [] => []
  | f :: path =>
    if path.any qualifies then f :: adjustDeepest qualifies change path
    else if qualifies f then { f with ratio := change f.ratio } :: path
    else f :: path

section Adjust

variable {qualifies : Frame → Bool} {change : Float32 → Float32} {f : Frame} {path : List Frame}

theorem adjustOutermost_here (h : qualifies f = true) :
    adjustOutermost qualifies change (f :: path) = { f with ratio := change f.ratio } :: path := if_pos h

theorem adjustOutermost_below (h : ¬ qualifies f = true) :
    adjustOutermost qualifies change (f :: path) = f :: adjustOutermost qualifies change path := if_neg h

theorem adjustDeepest_below (h : path.any qualifies = true) :
    adjustDeepest qualifies change (f :: path) = f :: adjustDeepest qualifies change path := if_pos h

theorem adjustDeepest_here (h : path.any qualifies = false) (hf : qualifies f = true) :
    adjustDeepest qualifies change (f :: path) = { f with ratio := change f.ratio } :: path := by
  rw [adjustDeepest, h, hf]
  rfl

theorem adjustDeepest_absent (h : path.any qualifies = false) (hf : qualifies f = false) :
    adjustDeepest qualifies change (f :: path) = f :: path := by
  rw [adjustDeepest, h, hf]
  rfl

end Adjust

/-- A split of the direction. -/
def Frame.runs (direction : SplitDirection) (f : Frame) : Bool := f.direction = direction

/-- A split of the axis with the pane on the side. -/
def Frame.borders (axis : SplitDirection) (paneInFirst : Bool) (f : Frame) : Bool :=
  f.direction = axis ∧ f.inFirst = paneInFirst

@[simp] theorem Frame.runs_iff {direction : SplitDirection} {f : Frame} :
    f.runs direction = true ↔ f.direction = direction := decide_eq_true_iff

@[simp] theorem Frame.borders_iff {axis : SplitDirection} {paneInFirst : Bool} {f : Frame} :
    f.borders axis paneInFirst = true ↔ f.direction = axis ∧ f.inFirst = paneInFirst := decide_eq_true_iff

/-- `set_ratio` changes the outermost split of the direction. -/
theorem setRatio_eq (h : pane ∈ t.panes) (direction : SplitDirection) (newRatio : Float32) :
    t.setRatio pane direction newRatio =
      plug (adjustOutermost (·.runs direction) (fun _ => clampRatio newRatio) (t.pathTo pane)) (leaf pane) := by
  induction t, h using descent generalizing newRatio with
  | here => rfl
  | first d r first second h₁ ih =>
    have hpane : (split d r first second).contains pane = true := contains_iff.mpr (mem_append_left _ h₁)
    rw [setRatio, pathTo_first h₁]
    by_cases hd : d = direction
    · rw [if_pos ⟨hd, hpane⟩, adjustOutermost_here (Frame.runs_iff.mpr hd)]
      exact congrArg (split d (clampRatio newRatio) · second) (plug_pathTo h₁).symm
    · rw [if_neg fun h => hd h.1, adjustOutermost_below (mt Frame.runs_iff.mp hd), if_pos (contains_iff.mpr h₁), ih,
        clampRatio_clampRatio]
      rfl
  | second d r first second h₁ h₂ ih =>
    have hpane : (split d r first second).contains pane = true := contains_iff.mpr (mem_append_right _ h₂)
    rw [setRatio, pathTo_second h₁ h₂]
    by_cases hd : d = direction
    · rw [if_pos ⟨hd, hpane⟩, adjustOutermost_here (Frame.runs_iff.mpr hd)]
      exact congrArg (split d (clampRatio newRatio) first) (plug_pathTo h₂).symm
    · rw [if_neg fun h => hd h.1, adjustOutermost_below (mt Frame.runs_iff.mp hd), if_neg (mt contains_iff.mp h₁),
        if_pos (contains_iff.mpr h₂), ih, clampRatio_clampRatio]
      rfl

/-- `resize_toward` changes the deepest split of the axis that has the pane on the side. -/
theorem resizeTowardInner_eq (h : pane ∈ t.panes) (axis : SplitDirection) (paneInFirst : Bool) (delta : Float32) :
    t.resizeTowardInner pane axis paneInFirst delta =
      (plug (adjustDeepest (·.borders axis paneInFirst) (fun ratio => clampRatio (ratio + delta)) (t.pathTo pane))
        (leaf pane), (t.pathTo pane).any (·.borders axis paneInFirst)) := by
  induction t, h using descent with
  | here => rfl
  | first d r first second h₁ ih =>
    rw [resizeTowardInner, if_pos (contains_iff.mpr h₁), ih, pathTo_first h₁, any_cons]
    cases hany : (first.pathTo pane).any (·.borders axis paneInFirst) with
    | true =>
      rw [adjustDeepest_below hany, Bool.or_true]
      rfl
    | false =>
      by_cases hq : d = axis ∧ paneInFirst = true
      · have hf : Frame.borders axis paneInFirst ⟨d, r, true, second⟩ = true :=
          Frame.borders_iff.mpr ⟨hq.1, hq.2.symm⟩
        rw [adjustDeepest_here hany hf, hf]
        refine (if_pos hq).trans ?_
        exact congrArg (fun t => (split d (clampRatio (r + delta)) t second, true)) (plug_pathTo h₁).symm
      · have hf : Frame.borders axis paneInFirst ⟨d, r, true, second⟩ = false :=
          Bool.eq_false_iff.mpr fun h => hq ⟨(Frame.borders_iff.mp h).1, (Frame.borders_iff.mp h).2.symm⟩
        rw [adjustDeepest_absent hany hf, hf]
        refine (if_neg hq).trans ?_
        exact congrArg (fun t => (split d r t second, false)) (plug_pathTo h₁).symm
  | second d r first second h₁ h₂ ih =>
    rw [resizeTowardInner, if_neg (mt contains_iff.mp h₁), if_pos (contains_iff.mpr h₂), ih, pathTo_second h₁ h₂,
      any_cons]
    cases hany : (second.pathTo pane).any (·.borders axis paneInFirst) with
    | true =>
      rw [adjustDeepest_below hany, Bool.or_true]
      rfl
    | false =>
      by_cases hq : d = axis ∧ paneInFirst = false
      · have hf : Frame.borders axis paneInFirst ⟨d, r, false, first⟩ = true :=
          Frame.borders_iff.mpr ⟨hq.1, hq.2.symm⟩
        rw [adjustDeepest_here hany hf, hf]
        refine (if_pos hq).trans ?_
        exact congrArg (fun t => (split d (clampRatio (r + delta)) first t, true)) (plug_pathTo h₂).symm
      · have hf : Frame.borders axis paneInFirst ⟨d, r, false, first⟩ = false :=
          Bool.eq_false_iff.mpr fun h => hq ⟨(Frame.borders_iff.mp h).1, (Frame.borders_iff.mp h).2.symm⟩
        rw [adjustDeepest_absent hany hf, hf]
        refine (if_neg hq).trans ?_
        exact congrArg (fun t => (split d r first t, false)) (plug_pathTo h₂).symm

/-! ### A pane that is not there -/

theorem setRatio_of_not_mem (h : pane ∉ t.panes) (direction : SplitDirection) (newRatio : Float32) :
    t.setRatio pane direction newRatio = t := by
  cases t with
  | leaf id => rfl
  | split d r first second =>
    obtain ⟨h₁, h₂⟩ := not_or.mp (mt mem_append.mpr h)
    rw [setRatio, if_neg fun hd => h (contains_iff.mp hd.2), if_neg (mt contains_iff.mp h₁),
      if_neg (mt contains_iff.mp h₂)]

theorem resizeTowardInner_of_not_mem (h : pane ∉ t.panes) (axis : SplitDirection) (paneInFirst : Bool)
    (delta : Float32) : t.resizeTowardInner pane axis paneInFirst delta = (t, false) := by
  cases t with
  | leaf id => rfl
  | split d r first second =>
    obtain ⟨h₁, h₂⟩ := not_or.mp (mt mem_append.mpr h)
    rw [resizeTowardInner, if_neg (mt contains_iff.mp h₁), if_neg (mt contains_iff.mp h₂)]

theorem remove_of_not_mem (h : pane ∉ t.panes) : t.remove pane = some t := by
  cases t with
  | leaf id =>
    rw [remove, if_neg fun heq => h (mem_singleton.mpr (beq_iff_eq.mp heq).symm)]
  | split d r first second =>
    obtain ⟨h₁, h₂⟩ := not_or.mp (mt mem_append.mpr h)
    have hleaf {u : SplitTree} (hu : pane ∉ u.panes) : ¬ u.isLeaf pane = true := fun heq =>
      hu (isLeaf_iff.mp heq ▸ mem_singleton_self pane)
    rw [remove, if_neg (hleaf h₁), if_neg (hleaf h₂), if_neg (mt contains_iff.mp h₁), if_neg (mt contains_iff.mp h₂)]

/-! ## Panes along a path -/

/-- The panes before the end of a path. -/
def before : List Frame → List PaneId
  | [] => []
  | f :: path => (if f.inFirst then [] else f.sibling.panes) ++ before path

/-- The panes after the end of a path. -/
def after : List Frame → List PaneId
  | [] => []
  | f :: path => after path ++ if f.inFirst then f.sibling.panes else []

theorem panes_plug (path : List Frame) (t : SplitTree) : (plug path t).panes = before path ++ t.panes ++ after path := by
  induction path with
  | nil => simp [plug, before, after]
  | cons f path ih =>
    obtain ⟨d, r, inFirst, sibling⟩ := f
    cases inFirst with
    | true =>
      show (plug path t).panes ++ sibling.panes = _
      rw [ih]
      simp [before, after]
    | false =>
      show sibling.panes ++ (plug path t).panes = _
      rw [ih]
      simp [before, after]

/-- The path leads to the first leaf of the pane. -/
theorem not_mem_before (h : pane ∈ t.panes) : pane ∉ before (t.pathTo pane) := by
  induction t, h using descent with
  | here => exact not_mem_nil
  | first d r first second h₁ ih =>
    rw [pathTo_first h₁]
    exact ih
  | second d r first second h₁ h₂ ih =>
    rw [pathTo_second h₁ h₂]
    exact fun h => (mem_append.mp h).elim h₁ ih

/-- A split puts the new pane right after the old one. -/
theorem panes_splitAt_eq (h : pane ∈ t.panes) (direction : SplitDirection) (newPane : PaneId) (ratio : Float32) :
    ∃ l₁ l₂, t.panes = l₁ ++ pane :: l₂ ∧ pane ∉ l₁ ∧
      (t.splitAt pane direction newPane ratio).panes = l₁ ++ pane :: newPane :: l₂ := by
  refine ⟨before (t.pathTo pane), after (t.pathTo pane), ?_, not_mem_before h, ?_⟩
  · have hpanes := panes_plug (t.pathTo pane) (leaf pane)
    rw [plug_pathTo h] at hpanes
    rw [hpanes]
    simp [panes]
  · rw [splitAt_eq h, panes_plug]
    simp [panes]

/-! ## Removal -/

/-- A removal puts the sibling in the place of the innermost split. -/
theorem remove_plug (path : List Frame) (f : Frame) (h : (plug (path ++ [f]) (leaf pane)).panes.count pane ≤ 1) :
    (plug (path ++ [f]) (leaf pane)).remove pane = some (plug path f.sibling) := by
  induction path with
  | nil =>
    obtain ⟨d, r, inFirst, sibling⟩ := f
    have hleaf : (leaf pane).isLeaf pane = true := beq_self_eq_true pane
    cases inFirst with
    | true =>
      show (split d r (leaf pane) sibling).remove pane = _
      rw [remove, if_pos hleaf]
      rfl
    | false =>
      have hsibling : ¬ sibling.isLeaf pane = true := fun heq => by
        rw [isLeaf_iff.mp heq] at h
        simp [plug, Frame.fill, panes] at h
      show (split d r sibling (leaf pane)).remove pane = _
      rw [remove, if_neg hsibling, if_pos hleaf]
      rfl
  | cons g path ih =>
    have hmem : pane ∈ (plug (path ++ [f]) (leaf pane)).panes := by
      rw [panes_plug]
      simp [panes]
    have hsplit : ¬ (plug (path ++ [f]) (leaf pane)).isLeaf pane = true := by
      have hend : plug (path ++ [f]) (leaf pane) = plug path (f.fill (leaf pane)) := plug_append path [f] _
      rw [hend]
      intro heq
      cases path <;> (unfold plug Frame.fill at heq; split at heq <;> cases heq)
    have hpos := count_pos_iff.mpr hmem
    obtain ⟨d, r, inFirst, sibling⟩ := g
    have hcount : (plug (path ++ [f]) (leaf pane)).panes.count pane + sibling.panes.count pane ≤ 1 := by
      cases inFirst with
      | true => simpa [plug, Frame.fill, panes] using h
      | false => simpa [plug, Frame.fill, panes, Nat.add_comm] using h
    have hsibling : pane ∉ sibling.panes := fun hin => by
      have := count_pos_iff.mpr hin
      omega
    have hsiblingLeaf : ¬ sibling.isLeaf pane = true := fun heq =>
      hsibling (isLeaf_iff.mp heq ▸ mem_singleton_self pane)
    have hih := ih (by omega)
    cases inFirst with
    | true =>
      show (split d r (plug (path ++ [f]) (leaf pane)) sibling).remove pane = _
      rw [remove, if_neg hsplit, if_neg hsiblingLeaf, if_pos (contains_iff.mpr hmem), hih]
      rfl
    | false =>
      show (split d r sibling (plug (path ++ [f]) (leaf pane))).remove pane = _
      rw [remove, if_neg hsiblingLeaf, if_neg hsplit, if_neg (mt contains_iff.mp hsibling),
        if_pos (contains_iff.mpr hmem), hih]
      rfl

/-- **A removal takes back a split.** -/
theorem remove_splitAt {newPane : PaneId} (h : pane ∈ t.panes) (hnew : newPane ∉ t.panes)
    (direction : SplitDirection) (ratio : Float32) :
    (t.splitAt pane direction newPane ratio).remove newPane = some t := by
  have hsplit : t.splitAt pane direction newPane ratio =
      plug (t.pathTo pane ++ [⟨direction, clampRatio ratio, false, leaf pane⟩]) (leaf newPane) := by
    rw [splitAt_eq h, plug_append]
    rfl
  have hcount : (t.splitAt pane direction newPane ratio).panes.count newPane ≤ 1 := by
    rw [(panes_splitAt direction newPane ratio h).count_eq, count_cons_self, count_eq_zero.mpr hnew]
  rw [hsplit] at hcount ⊢
  rw [remove_plug _ _ hcount]
  exact congrArg some (plug_pathTo h)

/-! ## Dividers -/

/-- A divider is between the two children of one split; only that split changes. -/
theorem setDividerRatio_plug {paneBefore paneAfter : PaneId} (path : List Frame) {d : SplitDirection} {r : Float32}
    {first second : SplitTree} (hbefore : paneBefore ∈ first.panes) (hafter : paneAfter ∈ second.panes)
    (hunique : (plug path (split d r first second)).panes.Nodup) (newRatio : Float32) :
    (plug path (split d r first second)).setDividerRatio paneBefore paneAfter newRatio =
      plug path (split d (clampRatio newRatio) first second) := by
  induction path generalizing newRatio with
  | nil =>
    show (split d r first second).setDividerRatio paneBefore paneAfter newRatio = _
    rw [setDividerRatio, contains_iff.mpr hbefore, contains_iff.mpr hafter]
    rfl
  | cons f path ih =>
    have hinBefore : paneBefore ∈ (plug path (split d r first second)).panes := by
      rw [panes_plug]
      simp [panes, hbefore]
    have hinAfter : paneAfter ∈ (plug path (split d r first second)).panes := by
      rw [panes_plug]
      simp [panes, hafter]
    obtain ⟨g, q, inFirst, sibling⟩ := f
    cases inFirst with
    | true =>
      have hnodup : ((plug path (split d r first second)).panes ++ sibling.panes).Nodup := hunique
      rw [nodup_append'] at hnodup
      have hnot : paneAfter ∉ sibling.panes := fun h => hnodup.2.2 hinAfter h
      show (split g q (plug path (split d r first second)) sibling).setDividerRatio paneBefore paneAfter newRatio = _
      rw [setDividerRatio, contains_iff.mpr hinBefore, contains_iff.mpr hinAfter,
        Bool.eq_false_iff.mpr (mt contains_iff.mp hnot), ih hnodup.1, clampRatio_clampRatio]
      rfl
    | false =>
      have hnodup : (sibling.panes ++ (plug path (split d r first second)).panes).Nodup := hunique
      rw [nodup_append'] at hnodup
      have hnot : paneBefore ∉ sibling.panes := fun h => hnodup.2.2 h hinBefore
      show (split g q sibling (plug path (split d r first second))).setDividerRatio paneBefore paneAfter newRatio = _
      rw [setDividerRatio, contains_iff.mpr hinBefore, contains_iff.mpr hinAfter,
        Bool.eq_false_iff.mpr (mt contains_iff.mp hnot), ih hnodup.2.1, clampRatio_clampRatio]
      rfl

end SplitTree

end OriTerm
