import Mathlib.Algebra.BigOperators.Group.List.Basic
import Mathlib.Tactic.Ring
import OriTerm.Lib.Run

/-!
# `Gpu.RectPacker` — the guillotine packer of an atlas page

`RectPacker.pack` takes the free rectangle with the shortest leftover side, hands out its top-left corner, and puts
what is left of it back as at most two strips.

`Tiling w h rects` says that the rectangles are apart, lie in the page and add up to its area. Cutting one of them
into pieces keeps it (`Tiling.cut`), so **`tiling_run`** holds of every run: what is free and what was handed out since
the last reset tile the page.
-/

namespace OriTerm.Gpu

open Lib List

/-- `Rect`: a rectangle of texels. -/
structure Rect where
  x : Nat
  y : Nat
  w : Nat
  h : Nat
deriving DecidableEq, Repr

namespace Rect

/-- The rectangle covers the pixel. -/
def Covers (r : Rect) (px py : Nat) : Prop := (r.x ≤ px ∧ px < r.x + r.w) ∧ r.y ≤ py ∧ py < r.y + r.h

/-- No pixel is covered by both. -/
def Apart (r s : Rect) : Prop := ∀ px py, r.Covers px py → ¬ s.Covers px py

/-- The rectangle lies in a page of the given size. -/
def InPage (width height : Nat) (r : Rect) : Prop := r.x + r.w ≤ width ∧ r.y + r.h ≤ height

/-- The number of pixels. -/
def area (r : Rect) : Nat := r.w * r.h

/-- Every pixel of the first is one of the second, which bounds it. -/
def Within (r s : Rect) : Prop := (s.x ≤ r.x ∧ r.x + r.w ≤ s.x + s.w) ∧ s.y ≤ r.y ∧ r.y + r.h ≤ s.y + s.h

theorem Apart.symm {r s : Rect} (h : r.Apart s) : s.Apart r := fun px py hs hr => h px py hr hs

theorem Within.covers {r s : Rect} (h : r.Within s) {px py : Nat} (hr : r.Covers px py) : s.Covers px py := by
  obtain ⟨⟨hx, hx'⟩, hy, hy'⟩ := h
  obtain ⟨⟨hpx, hpx'⟩, hpy, hpy'⟩ := hr
  exact ⟨⟨by omega, by omega⟩, by omega, by omega⟩

theorem Within.inPage {r s : Rect} (h : r.Within s) {width height : Nat} (hs : s.InPage width height) :
    r.InPage width height :=
  ⟨h.1.2.trans hs.1, h.2.2.trans hs.2⟩

end Rect

/-- `RectPacker`. -/
structure RectPacker where
  width : Nat
  height : Nat
  freeRects : List Rect
deriving DecidableEq, Repr

namespace RectPacker

/-- `u32::MAX`. -/
def u32Max : Nat := 2 ^ 32 - 1

/-- `RectPacker::new`. -/
def new (width height : Nat) : RectPacker := ⟨width, height, [⟨0, 0, width, height⟩]⟩

/-- One turn of the loop of `pack`: the best index so far, its short and its long leftover side. -/
def better (glyphW glyphH : Nat) (best : Option Nat × Nat × Nat) (r : Rect × Nat) : Option Nat × Nat × Nat :=
  if r.1.w ≥ glyphW ∧ r.1.h ≥ glyphH then
    let leftoverW := r.1.w - glyphW
    let leftoverH := r.1.h - glyphH
    let short := min leftoverW leftoverH
    let long := max leftoverW leftoverH
    if short < best.2.1 ∨ (short = best.2.1 ∧ long < best.2.2) then (some r.2, short, long) else best
  else best

/-- The index that `pack` settles on. -/
def bestIdx (glyphW glyphH : Nat) (freeRects : List Rect) : Option Nat :=
  (freeRects.zipIdx.foldl (better glyphW glyphH) (none, u32Max, u32Max)).1

/-- `Vec::swap_remove`. -/
def swapRemove (rects : List Rect) (idx : Nat) : List Rect :=
  match rects.getLast? with
  | some last => (rects.set idx last).dropLast
  | none => []

/-- The strips that the guillotine split leaves of `r`, in the order in which they are pushed. -/
def leftovers (r : Rect) (glyphW glyphH : Nat) : List Rect :=
  let leftoverW := r.w - glyphW
  let leftoverH := r.h - glyphH
  if leftoverW < leftoverH then
    (if leftoverW > 0 then [⟨r.x + glyphW, r.y, leftoverW, glyphH⟩] else []) ++
      if leftoverH > 0 then [⟨r.x, r.y + glyphH, r.w, leftoverH⟩] else []
  else
    (if leftoverH > 0 then [⟨r.x, r.y + glyphH, glyphW, leftoverH⟩] else []) ++
      if leftoverW > 0 then [⟨r.x + glyphW, r.y, leftoverW, r.h⟩] else []

/-- `RectPacker::pack`. -/
def pack (p : RectPacker) (glyphW glyphH : Nat) : Option (Nat × Nat) × RectPacker :=
  match bestIdx glyphW glyphH p.freeRects with
  | none => (none, p)
  | some idx =>
    match p.freeRects[idx]? with
    | none => (none, p)
    | some r =>
      (some (r.x, r.y), { p with freeRects := swapRemove p.freeRects idx ++ leftovers r glyphW glyphH })

/-- `RectPacker::free_area`. -/
def freeArea (p : RectPacker) : Nat := (p.freeRects.map Rect.area).sum

/-- `RectPacker::reset`. -/
def reset (p : RectPacker) : RectPacker := { p with freeRects := [⟨0, 0, p.width, p.height⟩] }

end RectPacker

/-! ## Tilings -/

/-- **The rectangles tile the page**: they are apart, lie in it, and add up to its area. -/
structure Tiling (width height : Nat) (rects : List Rect) : Prop where
  apart : rects.Pairwise Rect.Apart
  inPage : ∀ r ∈ rects, r.InPage width height
  area : (rects.map Rect.area).sum = width * height

namespace Tiling

variable {width height : Nat} {rects rects' : List Rect}

theorem page (width height : Nat) : Tiling width height [⟨0, 0, width, height⟩] := by
  refine ⟨pairwise_singleton _ _, ?_, by simp [Rect.area]⟩
  simp [Rect.InPage]

theorem perm (h : Tiling width height rects) (hperm : rects.Perm rects') : Tiling width height rects' :=
  ⟨(hperm.pairwise_iff fun h => h.symm).mp h.apart, fun r hr => h.inPage r (hperm.mem_iff.mpr hr),
    (hperm.map _).sum_eq.symm.trans h.area⟩

/-- **Cutting a rectangle in two** keeps the tiling. -/
theorem cut {r s t : Rect} (h : Tiling width height (r :: rects)) (hs : s.Within r) (ht : t.Within r) (hst : s.Apart t)
    (harea : s.area + t.area = r.area) : Tiling width height (s :: t :: rects) := by
  obtain ⟨hfrom, hrest⟩ := pairwise_cons.mp h.apart
  have hr := h.inPage r mem_cons_self
  refine ⟨?_, ?_, ?_⟩
  · refine pairwise_cons.mpr ⟨?_, pairwise_cons.mpr ⟨?_, hrest⟩⟩
    · intro u hu
      rcases mem_cons.mp hu with rfl | hu
      · exact hst
      · exact fun px py hpx => hfrom u hu px py (hs.covers hpx)
    · exact fun u hu px py hpx => hfrom u hu px py (ht.covers hpx)
  · intro u hu
    rcases mem_cons.mp hu with rfl | hu
    · exact hs.inPage hr
    · rcases mem_cons.mp hu with rfl | hu
      · exact ht.inPage hr
      · exact h.inPage u (mem_cons_of_mem _ hu)
  · have hsum := h.area
    simp only [map_cons, sum_cons] at hsum ⊢
    omega

section

variable {x y w h a : Nat} (ht : Tiling width height (⟨x, y, w, h⟩ :: rects))
include ht

/-- A cut from top to bottom. -/
theorem cutX (ha : a ≤ w) : Tiling width height (⟨x, y, a, h⟩ :: ⟨x + a, y, w - a, h⟩ :: rects) := by
  refine ht.cut ⟨⟨le_rfl, ?_⟩, le_rfl, le_rfl⟩ ⟨⟨?_, ?_⟩, le_rfl, le_rfl⟩ ?_ ?_
  · exact Nat.add_le_add_left ha x
  · exact Nat.le_add_right x a
  · show x + a + (w - a) ≤ x + w
    omega
  · intro px py hs ht
    exact absurd (hs.1.2.trans_le ht.1.1) (lt_irrefl px)
  · show a * h + (w - a) * h = w * h
    rw [← Nat.add_mul, Nat.add_sub_cancel' ha]

/-- A cut from left to right. -/
theorem cutY (ha : a ≤ h) : Tiling width height (⟨x, y, w, a⟩ :: ⟨x, y + a, w, h - a⟩ :: rects) := by
  refine ht.cut ⟨⟨le_rfl, le_rfl⟩, le_rfl, ?_⟩ ⟨⟨le_rfl, le_rfl⟩, ?_, ?_⟩ ?_ ?_
  · exact Nat.add_le_add_left ha y
  · exact Nat.le_add_right y a
  · show y + a + (h - a) ≤ y + h
    omega
  · intro px py hs ht
    exact absurd (hs.2.2.trans_le ht.2.1) (lt_irrefl py)
  · show w * a + w * (h - a) = w * h
    rw [← Nat.mul_add, Nat.add_sub_cancel' ha]

end

/-- An empty rectangle need not be kept. -/
theorem keep {r : Rect} (h : Tiling width height (r :: rects)) {p : Prop} [Decidable p] (hp : ¬ p → r.area = 0) :
    Tiling width height ((if p then [r] else []) ++ rects) := by
  by_cases hkeep : p
  · rw [if_pos hkeep]
    exact h
  · rw [if_neg hkeep]
    refine ⟨(pairwise_cons.mp h.apart).2, fun s hs => h.inPage s (mem_cons_of_mem _ hs), ?_⟩
    have hsum := h.area
    rw [map_cons, sum_cons, hp hkeep, Nat.zero_add] at hsum
    exact hsum

/-- Two strips, each kept unless it is empty. -/
theorem strips {r s t : Rect} (h : Tiling width height (r :: s :: t :: rects)) {p q : Prop} [Decidable p] [Decidable q]
    (hs : ¬ p → s.area = 0) (ht : ¬ q → t.area = 0) :
    Tiling width height (((if p then [s] else []) ++ if q then [t] else []) ++ r :: rects) := by
  have hkeep : Tiling width height ((if p then [s] else []) ++ t :: r :: rects) :=
    (h.perm ((List.Perm.swap ..).trans ((List.Perm.swap ..).cons s))).keep hs
  rw [append_assoc]
  have hboth := (hkeep.perm perm_middle).keep ht
  refine hboth.perm ?_
  rw [← append_assoc, ← append_assoc]
  exact perm_append_comm.append_right _

/-- The glyph and the strips that are left of its rectangle. -/
theorem split {r : Rect} {glyphW glyphH : Nat} (h : Tiling width height (r :: rects)) (hw : glyphW ≤ r.w)
    (hh : glyphH ≤ r.h) :
    Tiling width height (RectPacker.leftovers r glyphW glyphH ++ ⟨r.x, r.y, glyphW, glyphH⟩ :: rects) := by
  have hemptyW : ∀ x y h, ¬ r.w - glyphW > 0 → Rect.area ⟨x, y, r.w - glyphW, h⟩ = 0 := fun x y h hw => by
    rw [Rect.area, Nat.eq_zero_of_not_pos hw, Nat.zero_mul]
  have hemptyH : ∀ x y w, ¬ r.h - glyphH > 0 → Rect.area ⟨x, y, w, r.h - glyphH⟩ = 0 := fun x y w hh => by
    rw [Rect.area, Nat.eq_zero_of_not_pos hh, Nat.mul_zero]
  unfold RectPacker.leftovers
  dsimp only
  split
  · exact ((h.cutY hh).cutX hw).strips (hemptyW _ _ _) (hemptyH _ _ _)
  · exact ((h.cutX hw).cutY hh).strips (hemptyH _ _ _) (hemptyW _ _ _)

end Tiling

/-! ## Packing -/

namespace RectPacker

/-- The best index so far is that of a rectangle that holds the glyph. -/
theorem bestIdx_fits {glyphW glyphH idx : Nat} {freeRects : List Rect} (h : bestIdx glyphW glyphH freeRects = some idx) :
    ∃ r, freeRects[idx]? = some r ∧ glyphW ≤ r.w ∧ glyphH ≤ r.h := by
  let Fits (best : Option Nat × Nat × Nat) : Prop :=
    ∀ i, best.1 = some i → ∃ r, freeRects[i]? = some r ∧ glyphW ≤ r.w ∧ glyphH ≤ r.h
  have hstep : ∀ rs : List (Rect × Nat), (∀ ri ∈ rs, freeRects[ri.2]? = some ri.1) → ∀ best, Fits best →
      Fits (rs.foldl (better glyphW glyphH) best) := by
    intro rs
    induction rs with
    | nil => exact fun _ best hbest => hbest
    | cons ri rs ih =>
      intro hmem best hbest
      refine ih (fun ri' h' => hmem ri' (mem_cons_of_mem _ h')) _ ?_
      unfold better
      dsimp only
      split
      · next hfits =>
        split
        · intro i hi
          cases hi
          exact ⟨ri.1, hmem ri mem_cons_self, hfits.1, hfits.2⟩
        · exact hbest
      · exact hbest
  refine hstep freeRects.zipIdx (fun ri hri => ?_) (none, u32Max, u32Max) (fun i hi => by cases hi) idx h
  exact mem_zipIdx_iff_getElem?.mp hri

/-- Taking one out and filling its place with the last keeps the others. -/
theorem swapRemove_perm {rects : List Rect} {idx : Nat} {r : Rect} (h : rects[idx]? = some r) :
    rects.Perm (r :: swapRemove rects idx) := by
  rcases eq_nil_or_concat' rects with rfl | ⟨init, last, rfl⟩
  · exact absurd h (by simp)
  · have hswap : swapRemove (init ++ [last]) idx = ((init ++ [last]).set idx last).dropLast := by
      unfold swapRemove
      rw [getLast?_concat]
    obtain ⟨hlt, hget⟩ := List.getElem?_eq_some_iff.mp h
    rw [length_append] at hlt
    rcases Nat.lt_succ_iff_lt_or_eq.mp hlt with hinit | rfl
    · rw [getElem_append_left hinit] at hget
      rw [hswap, set_append_left _ _ hinit, dropLast_concat, ← hget]
      calc (init ++ [last]).Perm (last :: init) := perm_append_singleton last init
        _ |>.Perm (last :: init[idx] :: init.eraseIdx idx) := (getElem_cons_eraseIdx_perm hinit).symm.cons last
        _ |>.Perm (init[idx] :: last :: init.eraseIdx idx) := List.Perm.swap ..
        _ |>.Perm (init[idx] :: init.set idx last) := (set_perm_cons_eraseIdx hinit last).symm.cons _
    · rw [hswap, ← hget]
      simp

/-- **What `pack` does**: nothing, or it replaces a rectangle that holds the glyph by its strips. -/
theorem pack_cases (p : RectPacker) (glyphW glyphH : Nat) :
    p.pack glyphW glyphH = (none, p) ∨
      ∃ idx r, p.freeRects[idx]? = some r ∧ (glyphW ≤ r.w ∧ glyphH ≤ r.h) ∧ p.pack glyphW glyphH =
        (some (r.x, r.y), { p with freeRects := swapRemove p.freeRects idx ++ leftovers r glyphW glyphH }) := by
  unfold pack
  cases hbest : bestIdx glyphW glyphH p.freeRects with
  | none => exact .inl rfl
  | some idx =>
    obtain ⟨r, hr, hfits⟩ := bestIdx_fits hbest
    refine .inr ⟨idx, r, hr, hfits, ?_⟩
    dsimp only
    rw [hr]

end RectPacker

/-! ## Runs -/

/-- A request, or a reset of the page. -/
inductive PackerOp where
  | pack (glyphW glyphH : Nat)
  | reset
deriving DecidableEq, Repr

/-- `AtlasPage`: the packer, and the rectangles handed out since the last reset, the latest first. -/
structure AtlasPage where
  packer : RectPacker
  handedOut : List Rect
deriving DecidableEq, Repr

namespace AtlasPage

/-- A new page. -/
def new (width height : Nat) : AtlasPage := ⟨RectPacker.new width height, []⟩

/-- One operation. A request that is granted hands out a rectangle of the size asked for. -/
def step (page : AtlasPage) : PackerOp → AtlasPage
  | .pack glyphW glyphH =>
    match page.packer.pack glyphW glyphH with
    | (some (x, y), packer) => ⟨packer, ⟨x, y, glyphW, glyphH⟩ :: page.handedOut⟩
    | (none, packer) => ⟨packer, page.handedOut⟩
  | .reset => ⟨page.packer.reset, []⟩

/-- What is free and what was handed out tile the page. -/
def Tiled (width height : Nat) (page : AtlasPage) : Prop :=
  (page.packer.width = width ∧ page.packer.height = height) ∧
    Tiling width height (page.packer.freeRects ++ page.handedOut)

theorem Tiled.step {width height : Nat} {page : AtlasPage} (h : page.Tiled width height) (op : PackerOp) :
    (page.step op).Tiled width height := by
  obtain ⟨hsize, htiling⟩ := h
  cases op with
  | reset =>
    obtain ⟨rfl, rfl⟩ := hsize
    exact ⟨⟨rfl, rfl⟩, Tiling.page _ _⟩
  | pack glyphW glyphH =>
    unfold AtlasPage.step
    dsimp only
    rcases page.packer.pack_cases glyphW glyphH with hnone | ⟨idx, r, hr, hfits, hpack⟩
    · rw [hnone]
      exact ⟨hsize, htiling⟩
    · rw [hpack]
      refine ⟨hsize, ?_⟩
      have hchosen := htiling.perm ((RectPacker.swapRemove_perm hr).append_right page.handedOut)
      refine (hchosen.split hfits.1 hfits.2).perm ?_
      refine perm_iff_count.mpr fun t => ?_
      show List.count t (_ ++ _ :: (_ ++ _)) = List.count t ((_ ++ _) ++ _ :: _)
      simp only [count_append, count_cons]
      omega

/-- A request that is granted hands out a rectangle of the size asked for. -/
theorem handedOut_step {page : AtlasPage} {glyphW glyphH x y : Nat}
    (h : (page.packer.pack glyphW glyphH).1 = some (x, y)) :
    (page.step (.pack glyphW glyphH)).handedOut = ⟨x, y, glyphW, glyphH⟩ :: page.handedOut := by
  unfold AtlasPage.step
  dsimp only
  cases hpack : page.packer.pack glyphW glyphH with
  | mk pos packer =>
    rw [hpack] at h
    cases h
    rfl

/-- A rectangle of the size asked for lies in one that was free. -/
theorem within_of_pack {p : RectPacker} {glyphW glyphH x y : Nat} (h : (p.pack glyphW glyphH).1 = some (x, y)) :
    ∃ r ∈ p.freeRects, Rect.Within ⟨x, y, glyphW, glyphH⟩ r := by
  rcases p.pack_cases glyphW glyphH with hnone | ⟨idx, r, hr, ⟨hw, hh⟩, hpack⟩
  · rw [hnone] at h
    cases h
  · rw [hpack] at h
    cases h
    refine ⟨r, mem_of_getElem? hr, ⟨le_rfl, ?_⟩, le_rfl, ?_⟩
    · exact Nat.add_le_add_left hw r.x
    · exact Nat.add_le_add_left hh r.y

/-- **Every run of the packer keeps the page tiled**: what is free and what was handed out since the last reset are
apart, lie in the page, and add up to its area; and the next rectangle has the size asked for and lies in a free one. -/
theorem tiling_run (width height : Nat) (ops : List PackerOp) :
    let page := run step (new width height) ops
    (page.packer.freeRects ++ page.handedOut).Pairwise Rect.Apart ∧
      (∀ r ∈ page.packer.freeRects ++ page.handedOut, r.InPage width height) ∧
      page.packer.freeArea + (page.handedOut.map Rect.area).sum = width * height ∧
      ∀ glyphW glyphH x y, (page.packer.pack glyphW glyphH).1 = some (x, y) →
        (page.step (.pack glyphW glyphH)).handedOut = ⟨x, y, glyphW, glyphH⟩ :: page.handedOut ∧
        ∃ r ∈ page.packer.freeRects, Rect.Within ⟨x, y, glyphW, glyphH⟩ r := by
  have hnew : (new width height).Tiled width height := ⟨⟨rfl, rfl⟩, Tiling.page width height⟩
  obtain ⟨-, htiling⟩ := run_invariant (fun _ op h => h.step op) hnew ops
  refine ⟨htiling.apart, htiling.inPage, ?_, fun glyphW glyphH x y hsome => ⟨?_, within_of_pack hsome⟩⟩
  · have harea := htiling.area
    rw [map_append, sum_append] at harea
    exact harea
  · exact handedOut_step hsome

end AtlasPage

end OriTerm.Gpu
