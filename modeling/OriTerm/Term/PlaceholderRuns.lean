import OriTerm.Term.Snapshot

/-!
# `Term.PlaceholderRuns` — what a run of placeholder cells stands for

The documented rules say what a placeholder cell takes over from the one to its left, which depends on the diacritics
it has (`IncompletePlacement.ruled`). `resolveWithContinuation` takes over every field that is missing once the colours
match.

**`placeholders_iff`**: the two agree on a row exactly where no cell takes over what the rules withhold; and the ids
collected from a grid are those that the renderer resolves.
-/

namespace OriTerm

open Lib List

/-- A resolved cell as the rules see it: its colours, image row and column, and high id byte. -/
structure RuledPlaceholder where
  imageIdLow : Nat
  placementId : Nat
  imageRow : Nat
  imageCol : Nat
  high : Nat
  deriving DecidableEq, Repr

/-- What the rules speak of. -/
def ResolvedPlaceholder.ruled (r : ResolvedPlaceholder) : RuledPlaceholder :=
  ⟨r.imageIdLow, r.placementId, r.imageRow, r.imageCol, r.imageIdHigh.getD 0⟩

namespace IncompletePlacement

variable (p : IncompletePlacement)

/-- **The continuation rules**, as they are documented. -/
def ruled (prev : Option RuledPlaceholder) : RuledPlaceholder :=
  let filled := fun row col high =>
    (⟨p.imageIdLow, p.placementId.getD 0, row, col, p.imageIdHigh.getD high⟩ : RuledPlaceholder)
  match p.row, p.col, prev.filter fun r => r.imageIdLow == p.imageIdLow && r.placementId == p.placementId.getD 0 with
  | none, none, some r => if p.imageIdHigh = none then filled r.imageRow (r.imageCol + 1) r.high else filled 0 0 0
  | some row, none, some r => if row = r.imageRow then filled row (r.imageCol + 1) r.high else filled row 0 0
  | some row, some col, some r => filled row col (if col = r.imageCol + 1 then r.high else 0)
  | row, col, _ => filled (row.getD 0) (col.getD 0) 0

/-- Nothing that the rules withhold is there to be taken over. -/
def Obeys (prev : Option RuledPlaceholder) : Prop :=
  ∀ r ∈ prev, r.imageIdLow = p.imageIdLow → r.placementId = p.placementId.getD 0 →
    match p.row, p.col with
    | none, none => p.imageIdHigh = none
    | some row, none => row = r.imageRow
    | some _, some col => p.imageIdHigh = none → col ≠ r.imageCol + 1 → r.high = 0
    | none, some _ => r.imageRow = 0 ∧ (p.imageIdHigh = none → r.high = 0)

/-- **One cell** is resolved by the rules exactly if it obeys them. -/
theorem ruled_iff (prev : Option ResolvedPlaceholder) :
    (p.resolveWithContinuation prev).ruled = p.ruled (prev.map (·.ruled)) ↔ p.Obeys (prev.map (·.ruled)) := by
  obtain ⟨low, high, placement, row, col⟩ := p
  cases prev with
  | none =>
    refine iff_of_true ?_ (by simp [Obeys])
    cases row <;> cases col <;> cases high <;> rfl
  | some r =>
    by_cases hsame : r.imageIdLow = low ∧ r.placementId = placement.getD 0
    · obtain ⟨hlow, hplacement⟩ := hsame
      cases row <;> cases col <;> cases high <;>
        simp [resolveWithContinuation, ResolvedPlaceholder.ruled, ruled, Obeys, hlow, hplacement, Option.filter]
    · have hobeys : Obeys ⟨low, high, placement, row, col⟩ ((some r).map (·.ruled)) := by
        rintro _ ⟨⟩ hlow hplacement
        exact absurd ⟨hlow, hplacement⟩ hsame
      refine iff_of_true ?_ hobeys
      cases row <;> cases col <;> cases high <;>
        simp [resolveWithContinuation, ResolvedPlaceholder.ruled, ruled, Option.filter, hsame]

end IncompletePlacement

/-! ## Rows -/

/-- What a placeholder cell says itself. -/
def Cell.incomplete (c : Cell) : Option IncompletePlacement :=
  if c.ch = kittyPlaceholder then
    some (.decode (c.extra.elim [] (·.zerowidth)) c.fg (c.extra.bind (·.underlineColor)))
  else none

theorem Cell.placeholder_eq (c : Cell) (prev : Option ResolvedPlaceholder) :
    c.placeholder prev = c.incomplete.map (·.resolveWithContinuation prev) := by
  unfold Cell.placeholder Cell.incomplete
  split <;> rfl

/-- The cells of a row, each resolved after the one to its left. -/
def resolvedFrom : Option ResolvedPlaceholder → List Cell → List (Option ResolvedPlaceholder)
  | _, [] => []
  | prev, c :: cells => c.placeholder prev :: resolvedFrom (c.placeholder prev) cells

theorem resolveRow_eq (cells : List Cell) : resolveRow cells = resolvedFrom none cells := by
  have hloop : ∀ (cells : List Cell) acc prev,
      (cells.foldl (fun acc c => (c.placeholder acc.2 :: acc.1, c.placeholder acc.2)) (acc, prev)).1.reverse
        = acc.reverse ++ resolvedFrom prev cells := by
    intro cells
    induction cells with
    | nil => simp [resolvedFrom]
    | cons c cells ih =>
      intro acc prev
      rw [foldl_cons, ih, resolvedFrom, reverse_cons, append_assoc, singleton_append]
  exact hloop cells [] none

theorem length_resolveRow (cells : List Cell) : (resolveRow cells).length = cells.length := by
  have hfrom : ∀ prev, (resolvedFrom prev cells).length = cells.length := by
    induction cells with
    | nil => exact fun _ => rfl
    | cons c cells ih => exact fun prev => congrArg (· + 1) (ih _)
  rw [resolveRow_eq]
  exact hfrom none

/-- A cell under the rules. -/
def ruledStep (prev : Option RuledPlaceholder) (c : Cell) : Option RuledPlaceholder := c.incomplete.map (·.ruled prev)

/-- **The row under the rules.** -/
def ruledRow : Option RuledPlaceholder → List Cell → List (Option RuledPlaceholder)
  | _, [] => []
  | prev, c :: cells => ruledStep prev c :: ruledRow (ruledStep prev c) cells

theorem resolvedFrom_ruled_iff (prev : Option ResolvedPlaceholder) (cells : List Cell) :
    (resolvedFrom prev cells).map (·.map (·.ruled)) = ruledRow (prev.map (·.ruled)) cells ↔
      Along ruledStep (fun prev c => ∀ p ∈ c.incomplete, p.Obeys prev) (prev.map (·.ruled)) cells := by
  induction cells generalizing prev with
  | nil => exact iff_of_true rfl trivial
  | cons c cells ih =>
    have hcell : (c.placeholder prev).map (·.ruled) = ruledStep (prev.map (·.ruled)) c ↔
        ∀ p ∈ c.incomplete, p.Obeys (prev.map (·.ruled)) := by
      rw [Cell.placeholder_eq, ruledStep]
      cases c.incomplete with
      | none => simp
      | some p => simpa using p.ruled_iff prev
    rw [resolvedFrom, ruledRow, map_cons, cons.injEq, along_cons, ← hcell]
    refine and_congr_right fun heq => ?_
    rw [← heq]
    exact ih _

/-! ## The ids -/

theorem mem_rowImageIds {cols : Nat} {row : Row} {id : ImageId} :
    id ∈ rowImageIds cols row ↔ id ≠ 0 ∧ ∃ r, some r ∈ resolveRow ((range cols).map row.get) ∧ r.imageId = id := by
  unfold rowImageIds
  rw [mem_filterMap]
  constructor
  · rintro ⟨_ | r, hr, hid⟩
    · cases hid
    · obtain ⟨hid, hne⟩ := Option.filter_eq_some_iff.mp hid
      cases hid
      exact ⟨by simpa using hne, r, hr, rfl⟩
  · rintro ⟨hne, r, hr, rfl⟩
    exact ⟨some r, hr, by simp [hne]⟩

/-- The quads of a row are those of its resolved cells. -/
theorem mem_fillRowCells {t : Term} {palette : Palette} {cols line : Nat} {row : Row} {id : ImageId} :
    (∃ e ∈ t.fillRowCells palette cols line row, e.2.map (·.imageId) = some id) ↔
      t.activeCache.holds id = true ∧ id ∈ rowImageIds cols row := by
  have hquad : ∀ column resolved, (t.resolvePlaceholderCell line column resolved).map (·.imageId) = some id ↔
      t.activeCache.holds id = true ∧ id ≠ 0 ∧ ∃ r, resolved = some r ∧ r.imageId = id := by
    intro column resolved
    unfold Term.resolvePlaceholderCell
    cases resolved with
    | none => simp
    | some r => simp [Option.filter_some]; grind
  rw [mem_rowImageIds]
  constructor
  · rintro ⟨e, he, hid⟩
    obtain ⟨⟨x, column⟩, hx, rfl⟩ := mem_map.mp he
    obtain ⟨hheld, hne, r, hr, hid⟩ := (hquad column x.2).mp hid
    exact ⟨hheld, hne, r, hr ▸ (of_mem_zip (fst_mem_of_mem_zipIdx hx)).2, hid⟩
  · rintro ⟨hheld, hne, r, hr, hid⟩
    obtain ⟨i, hi, hri⟩ := getElem_of_mem hr
    have hcell : i < ((range cols).map row.get).length := by rwa [← length_resolveRow]
    have hzip : (((range cols).map row.get).zip (resolveRow ((range cols).map row.get)))[i]?
        = some (((range cols).map row.get)[i], some r) := by
      rw [getElem?_zip_eq_some]
      exact ⟨getElem?_eq_getElem hcell, hri ▸ getElem?_eq_getElem hi⟩
    exact ⟨_, mem_map_of_mem (mk_mem_zipIdx_iff_getElem?.mpr hzip), (hquad i (some r)).mpr ⟨hheld, hne, r, rfl, hid⟩⟩

/-- **A row of placeholders is resolved by the rules exactly where every cell obeys them**; and the ids that are
collected from a grid are those of its resolved cells, of which the renderer draws the ones that are held. -/
theorem placeholders_iff (t : Term) (palette : Palette) (line : Nat) (g : Grid) (cells : List Cell) :
    ((resolveRow cells).map (·.map (·.ruled)) = ruledRow none cells ↔
      Along ruledStep (fun prev c => ∀ p ∈ c.incomplete, p.Obeys prev) none cells) ∧
    ∀ id,
      (id ∈ collectPlaceholderImageIdsInGrid g ↔
        id ≠ 0 ∧ ∃ row ∈ g.rows ++ g.scrollback.rows,
          ∃ r, some r ∈ resolveRow ((range g.cols).map row.get) ∧ r.imageId = id) ∧
      (t.activeCache.holds id = true → (id ∈ collectPlaceholderImageIdsInGrid g ↔
        ∃ row ∈ g.rows ++ g.scrollback.rows,
          ∃ e ∈ t.fillRowCells palette g.cols line row, e.2.map (·.imageId) = some id)) := by
  have hmem : ∀ id, id ∈ collectPlaceholderImageIdsInGrid g ↔
      ∃ row ∈ g.rows ++ g.scrollback.rows, id ∈ rowImageIds g.cols row := fun id => by
    rw [collectPlaceholderImageIdsInGrid, mem_toFinset, mem_flatMap]
  refine ⟨?_, fun id => ⟨?_, fun hheld => ?_⟩⟩
  · rw [resolveRow_eq]
    exact resolvedFrom_ruled_iff none cells
  · simp only [hmem, mem_rowImageIds]
    grind
  · simp only [hmem, mem_fillRowCells, hheld, true_and]

/-- A placeholder of the first row of its image, and one of the second row with no column. -/
theorem other_row_takes_column : ¬ ∀ cells, (resolveRow cells).map (·.map (·.ruled)) = ruledRow none cells := by
  intro h
  have hcells := h [{ ch := kittyPlaceholder, extra := some { zerowidth := [Char.ofNat 0x305, Char.ofNat 0x305] } },
    { ch := kittyPlaceholder, extra := some { zerowidth := [Char.ofNat 0x30D] } }]
  exact absurd hcells (by decide +kernel)

end OriTerm
