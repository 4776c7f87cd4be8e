import Mathlib.Order.CompletePartialOrder
import OriTerm.Session.Layout
import OriTerm.Session.SplitLaws

/-!
# `Session.Partition` — the layout divides the available rectangle

Over exact rationals. A split cuts its rectangle along one axis into the first child, the divider and the second child
(`Cut`). What holds of a cut holds of the layout by induction: the tiles are disjoint, they and the dividers cover the
available rectangle, and no tile has a point outside it. A divider that is thicker than the rectangle it cuts leaves no
room on either side: the second child is empty there, and lies beyond the edge.

* **`layout_partition`** — the layout is a partition, for every tree and every available rectangle.
-/

namespace OriTerm.Layout

open Lib SplitTree

variable (desc : LayoutDescriptor ℚ)

/-! ## Exact pixels -/

@[simp] theorem max_exact (x y : ℚ) : Pixels.max x y = max x y := rfl

@[simp] theorem floor_exact (x : ℚ) : Pixels.floor x = (⌊x⌋ : ℚ) := rfl

@[simp] theorem ofU16_exact (n : UInt16) : (Pixels.ofU16 n : ℚ) = n.toNat := rfl

/-- A ratio in bounds is a part of the whole. -/
theorem ofRatio_exact {ratio : Float32} (h : RatioInBounds ratio) :
    0 ≤ (Pixels.ofRatio ratio : ℚ) ∧ (Pixels.ofRatio ratio : ℚ) ≤ 1 := by
  have hzero : (0 : Float32) ≤ minRatio := by decide +kernel
  have hone : maxRatio ≤ 1 := by decide +kernel
  exact ⟨Binary32.value_nonneg (Binary32.le_trans hzero h.1), Binary32.value_le_one (Binary32.le_trans h.2 hone)⟩

/-! ## Rectangles -/

namespace Rect

/-- The points of a rectangle. -/
def region (r : Rect ℚ) : Set (ℚ × ℚ) := { p | r.containsPoint p.1 p.2 = true }

/-- The rectangle lies within another, edges included. -/
def Inside (r available : Rect ℚ) : Prop :=
  available.x ≤ r.x ∧ r.x + r.width ≤ available.x + available.width ∧
    available.y ≤ r.y ∧ r.y + r.height ≤ available.y + available.height

/-- Where a rectangle starts on the axis that a split divides. -/
def start (r : Rect ℚ) : SplitDirection → ℚ
  | .horizontal => r.y
  | .vertical => r.x

/-- How long it is on that axis. -/
def extent (r : Rect ℚ) : SplitDirection → ℚ
  | .horizontal => r.height
  | .vertical => r.width

/-- The coordinate of a point on that axis. -/
def coord (p : ℚ × ℚ) : SplitDirection → ℚ
  | .horizontal => p.2
  | .vertical => p.1

/-- The part of a rectangle from an offset on, on one axis. -/
def cut (r : Rect ℚ) (offset length : ℚ) : SplitDirection → Rect ℚ
  | .horizontal => { r with y := r.y + offset, height := length }
  | .vertical => { r with x := r.x + offset, width := length }

/-- The other axis. -/
def across : SplitDirection → SplitDirection
  | .horizontal => .vertical
  | .vertical => .horizontal

/-- No side is negative. -/
def Sized (r : Rect ℚ) : Prop := ∀ d, 0 ≤ r.extent d

section

variable (r : Rect ℚ) (offset length : ℚ) (d : SplitDirection)
include r offset length d

@[simp] theorem start_cut : (r.cut offset length d).start d = r.start d + offset := by
  cases d <;> rfl

@[simp] theorem extent_cut : (r.cut offset length d).extent d = length := by
  cases d <;> rfl

@[simp] theorem start_cut_across : (r.cut offset length d).start (across d) = r.start (across d) := by
  cases d <;> rfl

@[simp] theorem extent_cut_across : (r.cut offset length d).extent (across d) = r.extent (across d) := by
  cases d <;> rfl

end

theorem Sized.cut {r : Rect ℚ} (h : r.Sized) (offset : ℚ) {length : ℚ} (hlength : 0 ≤ length) (d : SplitDirection) :
    (r.cut offset length d).Sized := by
  intro e
  cases d with
  | horizontal =>
    cases e with
    | horizontal => exact hlength
    | vertical => exact h .vertical
  | vertical =>
    cases e with
    | horizontal => exact h .horizontal
    | vertical => exact hlength

theorem mem_region_iff {r : Rect ℚ} {p : ℚ × ℚ} (d : SplitDirection) :
    p ∈ r.region ↔ (r.start d ≤ coord p d ∧ coord p d < r.start d + r.extent d) ∧
      r.start (across d) ≤ coord p (across d) ∧ coord p (across d) < r.start (across d) + r.extent (across d) := by
  show decide _ = true ↔ _
  rw [decide_eq_true_eq]
  cases d with
  | horizontal => exact ⟨fun ⟨h₁, h₂, h₃, h₄⟩ => ⟨⟨h₃, h₄⟩, h₁, h₂⟩, fun ⟨⟨h₁, h₂⟩, h₃, h₄⟩ => ⟨h₃, h₄, h₁, h₂⟩⟩
  | vertical => exact ⟨fun ⟨h₁, h₂, h₃, h₄⟩ => ⟨⟨h₁, h₂⟩, h₃, h₄⟩, fun ⟨⟨h₁, h₂⟩, h₃, h₄⟩ => ⟨h₁, h₂, h₃, h₄⟩⟩

/-- A point of a cut. -/
theorem mem_region_cut {r : Rect ℚ} {p : ℚ × ℚ} {d : SplitDirection} {offset length : ℚ} :
    p ∈ (r.cut offset length d).region ↔
      (r.start d + offset ≤ coord p d ∧ coord p d < r.start d + offset + length) ∧
        r.start (across d) ≤ coord p (across d) ∧ coord p (across d) < r.start (across d) + r.extent (across d) := by
  rw [mem_region_iff d]
  simp

theorem inside_iff {r available : Rect ℚ} (d : SplitDirection) :
    r.Inside available ↔
      (available.start d ≤ r.start d ∧ r.start d + r.extent d ≤ available.start d + available.extent d) ∧
        available.start (across d) ≤ r.start (across d) ∧
          r.start (across d) + r.extent (across d) ≤ available.start (across d) + available.extent (across d) := by
  cases d with
  | horizontal => exact ⟨fun ⟨h₁, h₂, h₃, h₄⟩ => ⟨⟨h₃, h₄⟩, h₁, h₂⟩, fun ⟨⟨h₁, h₂⟩, h₃, h₄⟩ => ⟨h₃, h₄, h₁, h₂⟩⟩
  | vertical => exact ⟨fun ⟨h₁, h₂, h₃, h₄⟩ => ⟨⟨h₁, h₂⟩, h₃, h₄⟩, fun ⟨⟨h₁, h₂⟩, h₃, h₄⟩ => ⟨h₁, h₂, h₃, h₄⟩⟩

theorem Inside.trans {r s t : Rect ℚ} (h₁ : r.Inside s) (h₂ : s.Inside t) : r.Inside t :=
  ⟨h₂.1.trans h₁.1, h₁.2.1.trans h₂.2.1, h₂.2.2.1.trans h₁.2.2.1, h₁.2.2.2.trans h₂.2.2.2⟩

theorem Inside.refl (r : Rect ℚ) : r.Inside r := ⟨le_rfl, le_rfl, le_rfl, le_rfl⟩

theorem region_subset {r available : Rect ℚ} (h : r.Inside available) : r.region ⊆ available.region := by
  intro p hp
  rw [mem_region_iff .vertical] at hp ⊢
  obtain ⟨⟨h₁, h₂⟩, h₃, h₄⟩ := hp
  exact ⟨⟨h.1.trans h₁, h₂.trans_le h.2.1⟩, h.2.2.1.trans h₃, h₄.trans_le h.2.2.2⟩

/-- A rectangle with points, all within another, lies within it. -/
theorem inside_of_region_subset {r available : Rect ℚ} (hwidth : 0 < r.width) (hheight : 0 < r.height)
    (h : r.region ⊆ available.region) : r.Inside available := by
  have hmem {x y : ℚ} (hx : r.x ≤ x ∧ x < r.x + r.width) (hy : r.y ≤ y ∧ y < r.y + r.height) :
      (x, y) ∈ available.region := h ((mem_region_iff .vertical).mpr ⟨hx, hy⟩)
  have hcorner := (mem_region_iff .vertical).mp (hmem ⟨le_rfl, by linarith⟩ ⟨le_rfl, by linarith⟩)
  refine ⟨hcorner.1.1, ?_, hcorner.2.1, ?_⟩
  · -- every point before the far edge is within the available width
    refine le_of_forall_lt fun x hx => ?_
    have hmax : r.x ≤ max x r.x ∧ max x r.x < r.x + r.width := ⟨le_max_right _ _, max_lt hx (by linarith)⟩
    have := (mem_region_iff .vertical).mp (hmem hmax ⟨le_rfl, by linarith⟩)
    exact (le_max_left x r.x).trans_lt this.1.2
  · refine le_of_forall_lt fun y hy => ?_
    have hmax : r.y ≤ max y r.y ∧ max y r.y < r.y + r.height := ⟨le_max_right _ _, max_lt hy (by linarith)⟩
    have := (mem_region_iff .vertical).mp (hmem ⟨le_rfl, by linarith⟩ hmax)
    exact (le_max_left y r.y).trans_lt this.2.2

end Rect

/-! ## One split -/

namespace LayoutDescriptor

/-- Cells have a size and a divider has no negative thickness. -/
structure WellFormed (desc : LayoutDescriptor ℚ) : Prop where
  cellWidth : 0 < desc.cellWidth
  cellHeight : 0 < desc.cellHeight
  dividerPx : 0 ≤ desc.dividerPx

/-- The minimum length of a pane on an axis. -/
def minExtent (desc : LayoutDescriptor ℚ) : SplitDirection → ℚ
  | .horizontal => desc.minPaneCells.2.toNat * desc.cellHeight
  | .vertical => desc.minPaneCells.1.toNat * desc.cellWidth

/-- What a split of a rectangle has to give to its two sides. -/
def usable (desc : LayoutDescriptor ℚ) (r : Rect ℚ) (d : SplitDirection) : ℚ := max (r.extent d - desc.dividerPx) 0

theorem WellFormed.minExtent_nonneg {desc : LayoutDescriptor ℚ} (h : desc.WellFormed) (d : SplitDirection) :
    0 ≤ desc.minExtent d := by
  cases d with
  | horizontal => exact mul_nonneg (Nat.cast_nonneg _) h.cellHeight.le
  | vertical => exact mul_nonneg (Nat.cast_nonneg _) h.cellWidth.le

end LayoutDescriptor

section Lengths

variable {F : Type} [Add F] [Sub F] [Mul F] [LT F] [LE F] [DecidableLT F] [DecidableLE F] [Pixels F]

/-- The lengths of the two sides: by ratio, or the minimum where a side would get less and there is room. -/
def lengths (usable ratio minimum : F) : F × F :=
  let first := Pixels.floor (usable * ratio)
  if first < minimum ∧ Pixels.ofU16 2 * minimum ≤ usable then (minimum, usable - minimum)
  else if usable - first < minimum ∧ Pixels.ofU16 2 * minimum ≤ usable then (usable - minimum, minimum)
  else (first, usable - first)

end Lengths

/-- The lengths fill what is usable, and are the minimum at least if both can be. -/
structure Fills (usable minimum : ℚ) (l : ℚ × ℚ) : Prop where
  first : 0 ≤ l.1
  second : 0 ≤ l.2
  sum : l.1 + l.2 = usable
  room : 2 * minimum ≤ usable → minimum ≤ l.1 ∧ minimum ≤ l.2

theorem fills_lengths {usable ratio minimum : ℚ} (husable : 0 ≤ usable) (hratio : 0 ≤ ratio ∧ ratio ≤ 1)
    (hminimum : 0 ≤ minimum) : Fills usable minimum (lengths usable ratio minimum) := by
  have htwo : (Pixels.ofU16 2 : ℚ) = 2 := rfl
  have hfloor : (0 : ℚ) ≤ ⌊usable * ratio⌋ := by
    exact_mod_cast Int.floor_nonneg.mpr (mul_nonneg husable hratio.1)
  have hle : (⌊usable * ratio⌋ : ℚ) ≤ usable :=
    (Int.floor_le _).trans (mul_le_of_le_one_right husable hratio.2)
  unfold lengths
  simp only [htwo, floor_exact]
  split
  · next h => exact ⟨hminimum, by linarith, by linarith, fun hroom => ⟨le_rfl, by linarith⟩⟩
  · next h₁ =>
    split
    · next h => exact ⟨by linarith, hminimum, by linarith, fun hroom => ⟨by linarith, le_rfl⟩⟩
    · next h₂ =>
      refine ⟨hfloor, by linarith, by linarith, fun hroom => ⟨?_, ?_⟩⟩
      · exact not_lt.mp fun h => h₁ ⟨h, hroom⟩
      · exact not_lt.mp fun h => h₂ ⟨h, hroom⟩

section Split

variable {desc : LayoutDescriptor ℚ} {r : Rect ℚ} {d : SplitDirection} {ratio : Float32}

/-- **A split cuts its rectangle into the first child, the divider and the second child.** -/
theorem childRects_eq (desc : LayoutDescriptor ℚ) (r : Rect ℚ) (d : SplitDirection) (ratio : Float32) :
    let l := lengths (desc.usable r d) (Pixels.ofRatio ratio) (desc.minExtent d)
    childRects desc r d ratio = (r.cut 0 l.1 d, r.cut (l.1 + desc.dividerPx) l.2 d) := by
  have hfirst (a : ℚ) : a + 0 = a := add_zero a
  cases d with
  | horizontal | vertical =>
    simp only [Rect.cut, hfirst, ← add_assoc]
    rfl

theorem dividerRect_cut (desc : LayoutDescriptor ℚ) (r : Rect ℚ) (d : SplitDirection) (length : ℚ) :
    dividerRect desc r d (r.cut 0 length d) = r.cut length desc.dividerPx d := by
  cases d with
  | horizontal | vertical => simp [dividerRect, Rect.cut]

/-- What a split does to its rectangle. -/
structure Cuts (desc : LayoutDescriptor ℚ) (r : Rect ℚ) (d : SplitDirection) (first second : Rect ℚ) : Prop where
  sized : first.Sized ∧ second.Sized
  within : first.region ⊆ r.region ∧ second.region ⊆ r.region
  disjoint : Disjoint first.region second.region
  covers : r.region ⊆ first.region ∪ (dividerRect desc r d first).region ∪ second.region
  inside : first.Inside r ∧ (desc.dividerPx ≤ r.extent d → second.Inside r)
  room : 2 * desc.minExtent d ≤ desc.usable r d → desc.minExtent d ≤ first.extent d ∧ desc.minExtent d ≤ second.extent d
  across : first.extent (Rect.across d) = r.extent (Rect.across d) ∧
    second.extent (Rect.across d) = r.extent (Rect.across d)

theorem cuts_childRects (hdesc : desc.WellFormed) (hr : r.Sized) (hratio : RatioInBounds ratio) :
    Cuts desc r d (childRects desc r d ratio).1 (childRects desc r d ratio).2 := by
  have hfills : Fills (desc.usable r d) (desc.minExtent d)
      (lengths (desc.usable r d) (Pixels.ofRatio ratio) (desc.minExtent d)) :=
    fills_lengths (le_max_right _ _) (ofRatio_exact hratio) (hdesc.minExtent_nonneg d)
  rw [childRects_eq]
  generalize lengths (desc.usable r d) (Pixels.ofRatio ratio : ℚ) (desc.minExtent d) = l at hfills
  obtain ⟨hfirst, hsecond, hsum, hroom⟩ := hfills
  have hdivider := hdesc.dividerPx
  have hextent := hr d
  -- either the divider fits, or nothing is left beside it
  have hends : l.1 + desc.dividerPx + l.2 = r.extent d ∨ (r.extent d ≤ desc.dividerPx ∧ l.1 = 0 ∧ l.2 = 0) := by
    unfold LayoutDescriptor.usable at hsum
    rcases le_total (r.extent d - desc.dividerPx) 0 with h | h
    · rw [max_eq_right h] at hsum
      exact .inr ⟨by linarith, by linarith, by linarith⟩
    · rw [max_eq_left h] at hsum
      exact .inl (by linarith)
  refine ⟨⟨hr.cut _ hfirst d, hr.cut _ hsecond d⟩, ⟨fun p hp => ?_, fun p hp => ?_⟩, ?_, fun p hp => ?_, ⟨?_, fun h => ?_⟩,
    fun h => ?_, ?_⟩
  · rw [Rect.mem_region_cut] at hp
    obtain ⟨⟨h₁, h₂⟩, hacross⟩ := hp
    exact (Rect.mem_region_iff d).mpr ⟨⟨by linarith, by rcases hends with h | h <;> linarith⟩, hacross⟩
  · rw [Rect.mem_region_cut] at hp
    obtain ⟨⟨h₁, h₂⟩, hacross⟩ := hp
    refine (Rect.mem_region_iff d).mpr ⟨⟨by linarith, ?_⟩, hacross⟩
    rcases hends with h | ⟨_, _, hzero⟩
    · linarith
    · exact absurd h₁ (by linarith)
  · refine Set.disjoint_left.mpr fun p hp hq => ?_
    rw [Rect.mem_region_cut] at hp hq
    linarith [hp.1.2, hq.1.1]
  · rw [Rect.mem_region_iff] at hp
    obtain ⟨⟨h₁, h₂⟩, hacross⟩ := hp
    rw [dividerRect_cut]
    by_cases hone : Rect.coord p d < r.start d + l.1
    · exact .inl (.inl (Rect.mem_region_cut.mpr ⟨⟨by linarith, by linarith⟩, hacross⟩))
    · by_cases htwo : Rect.coord p d < r.start d + l.1 + desc.dividerPx
      · exact .inl (.inr (Rect.mem_region_cut.mpr ⟨⟨not_lt.mp hone, htwo⟩, hacross⟩))
      · refine .inr (Rect.mem_region_cut.mpr ⟨⟨by linarith, ?_⟩, hacross⟩)
        rcases hends with h | ⟨h, hzero, _⟩
        · linarith
        · exact absurd htwo (by linarith)
  · rw [Rect.inside_iff d]
    simp only [Rect.start_cut, Rect.extent_cut, Rect.start_cut_across, Rect.extent_cut_across]
    exact ⟨⟨by linarith, by rcases hends with h | h <;> linarith⟩, le_rfl, le_rfl⟩
  · rw [Rect.inside_iff d]
    simp only [Rect.start_cut, Rect.extent_cut, Rect.start_cut_across, Rect.extent_cut_across]
    exact ⟨⟨by linarith, by rcases hends with h | h <;> linarith⟩, le_rfl, le_rfl⟩
  · rw [Rect.extent_cut, Rect.extent_cut]
    exact hroom h
  · exact ⟨Rect.extent_cut_across _ _ _ _, Rect.extent_cut_across _ _ _ _⟩

end Split

/-! ## The whole tree -/

/-- No divider of the tree is thicker than the rectangle it cuts. -/
def Fits (desc : LayoutDescriptor ℚ) : SplitTree → Rect ℚ → Prop
  | leaf _, _ => True
  | split d ratio first second, r =>
    desc.dividerPx ≤ r.extent d ∧ Fits desc first (childRects desc r d ratio).1 ∧
      Fits desc second (childRects desc r d ratio).2

section Tree

variable {desc : LayoutDescriptor ℚ} (hdesc : desc.WellFormed) {t : SplitTree} (ht : t.InBounds) {r : Rect ℚ}
  (hr : r.Sized)

include hdesc ht hr

/-- No tile has a point outside. -/
theorem region_tiles : ∀ tile ∈ tiles desc t r, tile.2.region ⊆ r.region := by
  induction t generalizing r with
  | leaf id => exact List.forall_mem_singleton.mpr subset_rfl
  | split d ratio first second ih₁ ih₂ =>
    have hcuts : Cuts desc r d _ _ := cuts_childRects hdesc hr ht.1
    exact List.forall_mem_append.mpr
      ⟨fun tile h => (ih₁ ht.2.1 hcuts.sized.1 tile h).trans hcuts.within.1,
        fun tile h => (ih₂ ht.2.2 hcuts.sized.2 tile h).trans hcuts.within.2⟩

/-- Tiles share no point. -/
theorem disjoint_tiles : (tiles desc t r).Pairwise fun a b => Disjoint a.2.region b.2.region := by
  induction t generalizing r with
  | leaf id => exact List.pairwise_singleton _ _
  | split d ratio first second ih₁ ih₂ =>
    have hcuts : Cuts desc r d _ _ := cuts_childRects hdesc hr ht.1
    rw [tiles_split, List.pairwise_append]
    refine ⟨ih₁ ht.2.1 hcuts.sized.1, ih₂ ht.2.2 hcuts.sized.2, fun a ha b hb => ?_⟩
    exact hcuts.disjoint.mono (region_tiles hdesc ht.2.1 hcuts.sized.1 a ha)
      (region_tiles hdesc ht.2.2 hcuts.sized.2 b hb)

/-- Tiles and dividers leave no point out. -/
theorem covers_tiles {p : ℚ × ℚ} (hp : p ∈ r.region) :
    (∃ tile ∈ tiles desc t r, p ∈ tile.2.region) ∨ ∃ divider ∈ dividers desc t r, p ∈ divider.rect.region := by
  induction t generalizing r with
  | leaf id => exact .inl ⟨(id, r), List.mem_singleton_self _, hp⟩
  | split d ratio first second ih₁ ih₂ =>
    have hcuts : Cuts desc r d _ _ := cuts_childRects hdesc hr ht.1
    rcases hcuts.covers hp with (hfirst | hdivider) | hsecond
    · rcases ih₁ ht.2.1 hcuts.sized.1 hfirst with ⟨tile, hmem, h⟩ | ⟨divider, hmem, h⟩
      · exact .inl ⟨tile, List.mem_append_left _ hmem, h⟩
      · exact .inr ⟨divider, List.mem_cons_of_mem _ (List.mem_append_left _ hmem), h⟩
    · exact .inr ⟨_, List.mem_cons_self, hdivider⟩
    · rcases ih₂ ht.2.2 hcuts.sized.2 hsecond with ⟨tile, hmem, h⟩ | ⟨divider, hmem, h⟩
      · exact .inl ⟨tile, List.mem_append_right _ hmem, h⟩
      · exact .inr ⟨divider, List.mem_cons_of_mem _ (List.mem_append_right _ hmem), h⟩

/-- Where the dividers fit, every tile lies within. -/
theorem inside_tiles (hfits : Fits desc t r) : ∀ tile ∈ tiles desc t r, tile.2.Inside r := by
  induction t generalizing r with
  | leaf id => exact List.forall_mem_singleton.mpr (Rect.Inside.refl r)
  | split d ratio first second ih₁ ih₂ =>
    have hcuts : Cuts desc r d _ _ := cuts_childRects hdesc hr ht.1
    exact List.forall_mem_append.mpr
      ⟨fun tile h => (ih₁ ht.2.1 hcuts.sized.1 hfits.2.1 tile h).trans hcuts.inside.1,
        fun tile h => (ih₂ ht.2.2 hcuts.sized.2 hfits.2.2 tile h).trans (hcuts.inside.2 hfits.1)⟩

end Tree

/-! ### The tile of a pane -/

/-- The rectangle at the end of a path. -/
def descend (desc : LayoutDescriptor ℚ) : List Frame → Rect ℚ → Rect ℚ
  | [], r => r
  | f :: path, r =>
    descend desc path
      (if f.inFirst then (childRects desc r f.direction f.ratio).1 else (childRects desc r f.direction f.ratio).2)

theorem descend_append (outer inner : List Frame) (r : Rect ℚ) :
    descend desc (outer ++ inner) r = descend desc inner (descend desc outer r) := by
  induction outer generalizing r with
  | nil => rfl
  | cons f outer ih => exact ih _

/-- The tile of a pane is at the end of its path. -/
theorem tiles_eq {t : SplitTree} (hu : t.panes.Nodup) (r : Rect ℚ) :
    tiles desc t r = t.panes.map fun pane => (pane, descend desc (t.pathTo pane) r) := by
  induction t generalizing r with
  | leaf id => rfl
  | split d ratio first second ih₁ ih₂ =>
    have hnodup : (first.panes ++ second.panes).Nodup := hu
    rw [List.nodup_append'] at hnodup
    rw [tiles_split, ih₁ hnodup.1, ih₂ hnodup.2.1, panes, List.map_append]
    congr 1
    · refine List.map_congr_left fun pane h => ?_
      rw [pathTo_first h]
      rfl
    · refine List.map_congr_left fun pane h => ?_
      rw [pathTo_second (fun h' => hnodup.2.2 h' h) h]
      rfl

theorem inBounds_pathTo {t : SplitTree} (ht : t.InBounds) (pane : PaneId) :
    ∀ f ∈ t.pathTo pane, RatioInBounds f.ratio := by
  induction t with
  | leaf id => exact List.forall_mem_nil _
  | split d ratio first second ih₁ ih₂ =>
    unfold pathTo
    split
    · exact List.forall_mem_cons.mpr ⟨ht.1, ih₁ ht.2.1⟩
    · split
      · exact List.forall_mem_cons.mpr ⟨ht.1, ih₂ ht.2.2⟩
      · exact List.forall_mem_nil _

section Descend

variable {desc : LayoutDescriptor ℚ} (hdesc : desc.WellFormed)

include hdesc

section

variable {path : List Frame} (hpath : ∀ f ∈ path, RatioInBounds f.ratio) {r : Rect ℚ} (hr : r.Sized)
include hpath hr

theorem sized_descend : (descend desc path r).Sized := by
  induction path generalizing r with
  | nil => exact hr
  | cons f path ih =>
    have hcuts : Cuts desc r f.direction _ _ := cuts_childRects hdesc hr (hpath f List.mem_cons_self)
    refine ih (fun g hg => hpath g (List.mem_cons_of_mem f hg)) ?_
    split
    · exact hcuts.sized.1
    · exact hcuts.sized.2

/-- Splits of the other axis leave the extent as it is. -/
theorem extent_descend {d : SplitDirection} (hd : ∀ f ∈ path, f.direction ≠ d) :
    (descend desc path r).extent d = r.extent d := by
  induction path generalizing r with
  | nil => rfl
  | cons f path ih =>
    have hcuts : Cuts desc r f.direction _ _ := cuts_childRects hdesc hr (hpath f List.mem_cons_self)
    have hacross : Rect.across f.direction = d := by
      have hne := hd f List.mem_cons_self
      generalize f.direction = e at hne
      cases e <;> cases d <;> first | rfl | exact absurd rfl hne
    have hrest (g : Frame) (hg : g ∈ path) := hpath g (List.mem_cons_of_mem f hg)
    have hdrest (g : Frame) (hg : g ∈ path) := hd g (List.mem_cons_of_mem f hg)
    have hextents := hcuts.across
    rw [hacross] at hextents
    unfold descend
    split
    · rw [ih hrest hcuts.sized.1 hdrest, hextents.1]
    · rw [ih hrest hcuts.sized.2 hdrest, hextents.2]

end

/-- The nearest split of an axis gives a pane its minimum if both sides can have it. -/
theorem minExtent_le_descend {outer inner : List Frame} {f : Frame}
    (hpath : ∀ g ∈ outer ++ f :: inner, RatioInBounds g.ratio) {r : Rect ℚ} (hr : r.Sized)
    (hinner : ∀ g ∈ inner, g.direction ≠ f.direction)
    (hroom : 2 * desc.minExtent f.direction ≤ desc.usable (descend desc outer r) f.direction) :
    desc.minExtent f.direction ≤ (descend desc (outer ++ f :: inner) r).extent f.direction := by
  obtain ⟨houter, hrest⟩ := List.forall_mem_append.mp hpath
  obtain ⟨hf, hinnerBounds⟩ := List.forall_mem_cons.mp hrest
  have hcuts : Cuts desc (descend desc outer r) f.direction _ _ :=
    cuts_childRects hdesc (sized_descend hdesc houter hr) hf
  have hmin := hcuts.room hroom
  rw [descend_append]
  unfold descend
  split
  · rw [extent_descend hdesc hinnerBounds hcuts.sized.1 hinner]
    exact hmin.1
  · rw [extent_descend hdesc hinnerBounds hcuts.sized.2 hinner]
    exact hmin.2

end Descend

/-! ### Snapping -/

/-- The rectangle of a pane in whole cells. -/
def snapped (r : Rect ℚ) : Rect ℚ := snapToGrid r desc.cellWidth desc.cellHeight

/-- Whole cells are no longer than what they are cut from. -/
theorem cells_le {cell : ℚ} (hcell : 0 < cell) (length : ℚ) : (⌊length / cell⌋ : ℚ) * cell ≤ length := by
  rw [← le_div_iff₀ hcell]
  exact Int.floor_le _

/-- A length with room for some cells has them. -/
theorem le_cells {cell length : ℚ} (hcell : 0 < cell) {n : Nat} (h : n * cell ≤ length) :
    n * cell ≤ (⌊length / cell⌋ : ℚ) * cell := by
  rw [← le_div_iff₀ hcell] at h
  have hfloor : (n : ℤ) ≤ ⌊length / cell⌋ := Int.le_floor.mpr (by exact_mod_cast h)
  exact mul_le_mul_of_nonneg_right (by exact_mod_cast hfloor) hcell.le

section Snap

variable {desc : LayoutDescriptor ℚ} (hdesc : desc.WellFormed) {r : Rect ℚ}

include hdesc

theorem snapped_inside : (snapped desc r).Inside r :=
  ⟨le_rfl, add_le_add_right (cells_le hdesc.cellWidth r.width) r.x, le_rfl,
    add_le_add_right (cells_le hdesc.cellHeight r.height) r.y⟩

theorem minExtent_le_snapped {d : SplitDirection} (h : desc.minExtent d ≤ r.extent d) :
    desc.minExtent d ≤ (snapped desc r).extent d := by
  cases d with
  | horizontal => exact le_cells hdesc.cellHeight h
  | vertical => exact le_cells hdesc.cellWidth h

end Snap

/-! ## The layout -/

theorem panes_tiles {desc : LayoutDescriptor ℚ} (t : SplitTree) (r : Rect ℚ) :
    (tiles desc t r).map (·.1) = t.panes := by
  induction t generalizing r with
  | leaf id => rfl
  | split d ratio first second ih₁ ih₂ => rw [tiles_split, List.map_append, ih₁, ih₂]; rfl

/-- **The layout is a partition.** There is one layout for a pane, in depth-first order, then the floating panes. The
tiles, of which the pixel rectangles are the whole cells, share no point, have none outside the available rectangle, and
cover it together with the dividers. A pane with points lies within the available rectangle, and every pane does where
no divider is thicker than the rectangle it cuts. A pane has the minimum length on an axis if its nearest split of that
axis has room for two. -/
theorem layout_partition {desc : LayoutDescriptor ℚ} (hdesc : desc.WellFormed) (hsized : desc.available.Sized)
    {t : SplitTree} (ht : t.InBounds) (hu : t.panes.Nodup) (floating : FloatingLayer ℚ) (focused : PaneId) :
    let layouts := (computeAll t floating focused desc).1
    let tiled := layouts.take t.panes.length
    let tileRects := tiles desc t desc.available
    layouts.map (·.paneId) = t.panes ++ floating.paneIds ∧
    tiled.map (fun l => (l.paneId, l.pixelRect)) = tileRects.map (fun tile => (tile.1, snapped desc tile.2)) ∧
    tileRects.Pairwise (fun a b => Disjoint a.2.region b.2.region) ∧
    tiled.Pairwise (fun a b => Disjoint a.pixelRect.region b.pixelRect.region) ∧
    (∀ p ∈ desc.available.region, (∃ tile ∈ tileRects, p ∈ tile.2.region) ∨
      ∃ divider ∈ (computeAll t floating focused desc).2, p ∈ divider.rect.region) ∧
    (∀ l ∈ tiled, l.pixelRect.region ⊆ desc.available.region ∧
      (0 < l.pixelRect.width → 0 < l.pixelRect.height → l.pixelRect.Inside desc.available)) ∧
    (Fits desc t desc.available → ∀ l ∈ tiled, l.pixelRect.Inside desc.available) ∧
    ∀ l ∈ tiled, ∀ outer f inner, t.pathTo l.paneId = outer ++ f :: inner →
      (∀ g ∈ inner, g.direction ≠ f.direction) →
      2 * desc.minExtent f.direction ≤ desc.usable (descend desc outer desc.available) f.direction →
      desc.minExtent f.direction ≤ l.pixelRect.extent f.direction := by
  intro layouts tiled tileRects
  have hlayouts : layouts =
      tileRects.map (fun (paneId, rect) => tiledLayout desc focused paneId rect) ++
        floating.panes.map (floatingLayout desc focused) := by
    show (computeAll t floating focused desc).1 = _
    rw [computeAll_eq]
  have hpanes : tileRects.map (·.1) = t.panes := panes_tiles t desc.available
  have htiled : tiled = tileRects.map (fun (paneId, rect) => tiledLayout desc focused paneId rect) := by
    show layouts.take t.panes.length = _
    rw [hlayouts, List.take_left' (by rw [List.length_map, ← hpanes, List.length_map])]
  have hmem : ∀ l ∈ tiled, ∃ tile ∈ tileRects, l.paneId = tile.1 ∧ l.pixelRect = snapped desc tile.2 := by
    rw [htiled]
    intro l hl
    obtain ⟨tile, htile, rfl⟩ := List.mem_map.mp hl
    exact ⟨tile, htile, rfl, rfl⟩
  have hregion : ∀ l ∈ tiled, l.pixelRect.region ⊆ desc.available.region := by
    intro l hl
    obtain ⟨tile, htile, _, hrect⟩ := hmem l hl
    rw [hrect]
    exact (Rect.region_subset (snapped_inside hdesc)).trans (region_tiles hdesc ht hsized tile htile)
  refine ⟨?_, ?_, disjoint_tiles hdesc ht hsized, ?_, fun p hp => ?_, fun l hl => ⟨hregion l hl, fun hw hh => ?_⟩,
    fun hfits l hl => ?_, fun l hl outer f inner hpath hinner hroom => ?_⟩
  · rw [hlayouts, List.map_append, List.map_map, List.map_map, ← hpanes]
    rfl
  · rw [htiled, List.map_map]
    rfl
  · rw [htiled, List.pairwise_map]
    exact (disjoint_tiles hdesc ht hsized).imp fun {a b} h =>
      h.mono (Rect.region_subset (snapped_inside hdesc)) (Rect.region_subset (snapped_inside hdesc))
  · rw [computeAll_eq]
    exact covers_tiles hdesc ht hsized hp
  · exact Rect.inside_of_region_subset hw hh (hregion l hl)
  · obtain ⟨tile, htile, _, hrect⟩ := hmem l hl
    rw [hrect]
    exact (snapped_inside hdesc).trans (inside_tiles hdesc ht hsized hfits tile htile)
  · obtain ⟨tile, htile, hid, hrect⟩ := hmem l hl
    rw [hrect]
    refine minExtent_le_snapped hdesc ?_
    have htile' : tile ∈ t.panes.map fun pane => (pane, descend desc (t.pathTo pane) desc.available) := by
      rw [← tiles_eq desc hu]
      exact htile
    obtain ⟨pane, _, rfl⟩ := List.mem_map.mp htile'
    have hpane : l.paneId = pane := hid
    have hpath' : t.pathTo pane = outer ++ f :: inner := hpane ▸ hpath
    have hbounds := inBounds_pathTo ht pane
    rw [hpath'] at hbounds
    rw [hpath']
    exact minExtent_le_descend hdesc hbounds hsized hinner hroom

theorem layout_partition_pair :
    let desc : LayoutDescriptor ℚ := ⟨⟨0, 0, 1000, 800⟩, 10, 20, 2, (4, 2)⟩
    (computeAll (split .vertical 0.5 (leaf 1) (leaf 2)) {} 1 desc).1.map (·.paneId) = [1, 2] := by
  have hdesc : (⟨⟨0, 0, 1000, 800⟩, 10, 20, 2, (4, 2)⟩ : LayoutDescriptor ℚ).WellFormed :=
    ⟨by norm_num, by norm_num, by norm_num⟩
  have hsized : (⟨0, 0, 1000, 800⟩ : Rect ℚ).Sized := fun d => by cases d <;> norm_num [Rect.extent]
  have ht : (split .vertical 0.5 (leaf 1) (leaf 2)).InBounds := ⟨⟨by decide +kernel, by decide +kernel⟩, trivial, trivial⟩
  exact (layout_partition hdesc hsized ht (by decide) {} 1).1

/-- In a rectangle without room for the divider the second pane lies beyond the edge. -/
theorem pane_beyond_edge :
    ¬ ∀ (desc : LayoutDescriptor ℚ) (t : SplitTree), desc.WellFormed → desc.available.Sized → t.InBounds →
      t.panes.Nodup → ∀ l ∈ (computeAll t {} 1 desc).1, l.pixelRect.Inside desc.available := by
  intro h
  let desc : LayoutDescriptor ℚ := ⟨⟨0, 0, 0, 0⟩, 10, 20, 2, (4, 2)⟩
  have hsized : desc.available.Sized := fun d => by cases d <;> exact le_rfl
  have ht : (split .vertical 0.5 (leaf 1) (leaf 2)).InBounds := ⟨⟨by decide +kernel, by decide +kernel⟩, trivial, trivial⟩
  have hinside := h desc _ ⟨by norm_num [desc], by norm_num [desc], by norm_num [desc]⟩ hsized ht (by decide)
  have hbeyond : (computeAll (split .vertical 0.5 (leaf 1) (leaf 2)) {} 1 desc).1.any
      (fun l => decide (0 < l.pixelRect.x + l.pixelRect.width)) = true := by decide +kernel
  obtain ⟨l, hl, hpos⟩ := List.any_eq_true.mp hbeyond
  have hedge : l.pixelRect.x + l.pixelRect.width ≤ 0 + 0 := (hinside l hl).2.1
  exact absurd (of_decide_eq_true hpos) (by linarith)

end OriTerm.Layout
