import OriTerm.Term.Op
import OriTerm.Term.Snapshot

/-!
# `Term.Damage` — a snapshot reports what changed

A renderer keeps the cells of the last frame and repaints what the damage of the next snapshot names. This is enough
along every run whose operations report what they change on a live screen and leave a scrolled-back view alone
(**`refreshes_run`**).
-/

namespace OriTerm

open Lib List

/-- The damage of a snapshot names the cell. -/
def RenderableContent.Reports (c : RenderableContent) (line col : Nat) : Prop :=
  c.allDirty = true ∨ ∃ d ∈ c.damage, d.line = line ∧ d.left ≤ col ∧ col ≤ d.right

/-- Covered cells are among the damage that is collected. -/
theorem collectDamage_covers {g : Grid} {lines line col : Nat} (hline : line < lines)
    (h : g.dirty.Covers line col) :
    (collectDamage g lines).1 = true ∨ ∃ d ∈ (collectDamage g lines).2, d.line = line ∧ d.left ≤ col ∧ col ≤ d.right := by
  unfold collectDamage
  rcases h with hall | ⟨b, hb, hdirty, hleft, hright⟩
  · rw [if_pos hall]
    exact .inl rfl
  · split
    · exact .inl rfl
    · next hall =>
      have hany : g.dirty.isAnyDirty = true := by
        unfold DirtyTracker.isAnyDirty
        rw [any_eq_true.mpr ⟨b, mem_of_getElem? hb, hdirty⟩, Bool.or_true]
      have hbounds : g.dirty.colBounds line = some (b.left, b.right) := by
        unfold DirtyTracker.colBounds
        rw [if_neg hall, hb]
        simp [hdirty]
      rw [if_neg (by simp [hany])]
      dsimp only
      split
      · exact .inl rfl
      · refine .inr ⟨⟨line, b.left, b.right⟩, mem_filterMap.mpr ⟨line, mem_range.mpr hline, ?_⟩, rfl, hleft, hright⟩
        rw [hbounds]
        rfl

namespace Term

/-- The cell that the view shows at a position. -/
def viewCell (t : Term) (line col : Nat) : Option Cell :=
  (viewRow t.activeGrid (viewOffset t.activeGrid) line).map (·.get col)

/-- The view is live, before and after, or it did not move. -/
def ViewKept (g g' : Grid) : Prop := (g.displayOffset = 0 ∧ g'.displayOffset = 0) ∨ Grid.Still g g'

theorem ViewKept.trans (a b c : Grid) (h : ViewKept a b) (h' : ViewKept b c) : ViewKept a c := by
  rcases h with ⟨ha, hb⟩ | h
  · rcases h' with ⟨-, hc⟩ | h'
    · exact .inl ⟨ha, hc⟩
    · exact .inl ⟨ha, h'.displayOffset.trans hb⟩
  · rcases h' with ⟨hb, hc⟩ | h'
    · exact .inl ⟨h.displayOffset.symm.trans hb, hc⟩
    · exact .inr (h.trans h')

/-- **Repainting what the next snapshot reports is enough**: everything is reported, or the screen and its images are the
    same and the cells of the view that differ are reported. -/
def Refreshes (t t' : Term) : Prop :=
  ∀ f : F32Arith, (t'.renderableContent f).allDirty = true ∨
    SameScreen t t' ∧ Image.Cache.SamePicture t.activeCache t'.activeCache ∧
      t'.activeGrid.lines = t.activeGrid.lines ∧ t'.activeGrid.cols = t.activeGrid.cols ∧
      ∀ line col, line < t.activeGrid.lines → col < t.activeGrid.cols → t'.viewCell line col ≠ t.viewCell line col →
        (t'.renderableContent f).Reports line col

/-- The operation reports what it changes: it marks on a live screen, and it leaves a scrolled-back view alone. -/
def Marked (width : Char → Option Nat) (t : Term) (op : TermOp) : Prop :=
  op.KeepsScreen t ∧ (op.Marks width t ∧ t.activeGrid.displayOffset = 0 ∨ op.Silent t)

/-- What holds between the terminal of the last snapshot and the terminals of a run. -/
structure Tracked (t t' : Term) : Prop where
  wf : t'.Wf
  shown : Shown ViewKept t t'
  images : Image.Cache.Marks t.imageCache t'.imageCache
  altImages : Image.Cache.Marks t.altCache t'.altCache

variable {t t' : Term}

/-- One step: what it shows is reported, and it takes back no total damage. -/
theorem Tracked.step (width : Char → Option Nat) (h : Tracked t t') (op : TermOp) (hop : Marked width t' op) :
    Tracked t (op.apply width t') := by
  have hkeeps := op.keeps width h.wf
  refine ⟨hkeeps.wf, h.shown.trans ViewKept.trans ?_ (hkeeps.total hop.1), h.images.trans hkeeps.images,
    h.altImages.trans hkeeps.altImages⟩
  rcases hop.2 with ⟨hmarks, hlive⟩ | hsilent
  · exact (hkeeps.shown hmarks).imp id fun hs => ⟨hs.1, hs.2.1, .inl ⟨hlive, hs.2.2 hlive⟩⟩
  · exact (hkeeps.still hsilent).imp id fun hs => ⟨hs.1, hs.2.1, .inr hs.2.2⟩

/-- A cell of a kept view that differs is a cell of the screen that differs. -/
theorem viewCell_of_kept (hview : ViewKept t.activeGrid t'.activeGrid) {line col : Nat}
    (h : t'.viewCell line col ≠ t.viewCell line col) :
    t'.activeGrid.cellAt? line col ≠ t.activeGrid.cellAt? line col := by
  intro hsame
  apply h
  have hget : ∀ g : Grid, g.displayOffset = 0 →
      (viewRow g (viewOffset g) line).map (·.get col) = some ((g.cellAt? line col).getD .blank) := by
    intro g hg
    have hoffset : viewOffset g = 0 := by
      unfold viewOffset
      rw [hg, Nat.zero_min]
    unfold viewRow Grid.cellAt? Grid.row Row.get
    rw [hoffset, if_neg (Nat.not_lt_zero line), Option.map_some]
    congr 1
    rw [getD_eq_getElem?_getD, getD_eq_getElem?_getD]
    cases g.rows[line]? with
    | none => simp [Row.new]
    | some r => rfl
  unfold viewCell
  rcases hview with ⟨hlive, hlive'⟩ | hstill
  · rw [hget _ hlive, hget _ hlive', hsame]
  · have hoffset : viewOffset t'.activeGrid = viewOffset t.activeGrid := by
      unfold viewOffset
      rw [hstill.displayOffset, hstill.scrollback]
    have hrow : viewRow t'.activeGrid = viewRow t.activeGrid := by
      funext offset line
      unfold viewRow Grid.row
      rw [hstill.scrollback, hstill.rows]
    rw [hoffset, hrow]

theorem Tracked.refreshes (ht : t.Wf) (h : Tracked t t') : Refreshes t t' := by
  intro f
  by_cases htotal : t'.damageTotal = true
  · refine .inl ?_
    unfold damageTotal at htotal
    show ((collectDamage t'.activeGrid t'.activeGrid.lines).1 || t'.activeCache.dirty) = true
    rw [Bool.or_eq_true] at htotal ⊢
    refine htotal.imp (fun hall => ?_) id
    unfold collectDamage
    rw [if_pos hall]
  · obtain ⟨hscreen, hrepaints, hview⟩ := h.shown.resolve_left htotal
    have hcache : Image.Cache.Marks t.activeCache t'.activeCache := by
      rw [ht.activeCache_eq, h.wf.activeCache_eq, hscreen.altActive]
      split
      · exact h.altImages
      · exact h.images
    have hclean : t'.activeCache.dirty = false := by
      unfold damageTotal at htotal
      rw [Bool.or_eq_true, not_or, Bool.not_eq_true, Bool.not_eq_true] at htotal
      exact htotal.2
    refine .inr ⟨hscreen, hcache.picture hclean, hrepaints.lines, hrepaints.cols, fun line col hl hc hne => ?_⟩
    have hframed := ht.activeGrid.toFramed
    have hcovers := (hrepaints.cells line col (hframed.dirtyLines.symm ▸ hl) (hframed.dirtyCols.symm ▸ hc)
      (viewCell_of_kept hview hne)).resolve_left id
    refine (collectDamage_covers (hrepaints.lines.symm ▸ hl) hcovers).imp (fun hall => ?_) id
    show ((collectDamage t'.activeGrid t'.activeGrid.lines).1 || t'.activeCache.dirty) = true
    rw [hall, Bool.true_or]

/-- **Repainting what is reported is enough along every run** that starts after a snapshot and whose operations report
    what they change. -/
theorem refreshes_run (width : Char → Option Nat) (ht : t.Wf) {ops : List TermOp}
    (hops : Along (TermOp.apply width) (Marked width) t ops) : Refreshes t (run (TermOp.apply width) t ops) := by
  have hstart : Tracked t t := ⟨ht, .refl (fun g => .inr (.refl g)) t, .refl _, .refl _⟩
  exact (Along.invariant (fun s op hs hop => hs.step width op hop) hstart hops).refreshes ht

instance (width : Char → Option Nat) (t : Term) (op : TermOp) : Decidable (Marked width t op) := by
  unfold Marked
  infer_instance

/-- Printing, a line feed and an erase on a screen of two lines. -/
theorem refreshes_run_print :
    Refreshes (Term.new 2 3 0 .dark) (run (TermOp.apply fun _ => some 1) (Term.new 2 3 0 .dark)
      [.input 'a', .linefeed, .input 'b', .clearLine .right]) :=
  refreshes_run _ (wf_new 0 .dark (by decide)) (by decide +kernel)

end Term

end OriTerm
