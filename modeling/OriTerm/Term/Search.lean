import OriTerm.Core.Grid
import OriTerm.Term.Renderable

/-!
# `Term.Search` — the search session of a pane

The query, its matches and the focused one. Case sensitivity and regular expressions are off in every session the IO
thread opens and no command turns them on, so both are left out; which spans of a grid match a query is the
parameter `findMatches`.
-/

namespace OriTerm

/-- A search session. -/
structure SearchState where
  query : String := ""
  matchList : List SearchMatch := []
  focused : Nat := 0
  deriving DecidableEq, Repr

namespace SearchState

variable (findMatches : Grid → String → List SearchMatch)

variable (s : SearchState)

/-- Re-runs the search; the focus is clamped to the matches. -/
def updateQuery (g : Grid) : SearchState :=
  if s.query = "" then { s with matchList := [], focused := 0 }
  else
    let found := findMatches g s.query
    { s with matchList := found, focused := min s.focused (found.length - 1) }

def setQuery (query : String) (g : Grid) : SearchState :=
  updateQuery findMatches { s with query } g

/-- The next match, from the last to the first. -/
def nextMatch : SearchState :=
  if s.matchList = [] then s else { s with focused := (s.focused + 1) % s.matchList.length }

/-- The previous match, from the first to the last. -/
def prevMatch : SearchState :=
  if s.matchList = [] then s
  else { s with focused := if s.focused = 0 then s.matchList.length - 1 else s.focused - 1 }

end SearchState

/-- Writes the search session into a snapshot. -/
def fillSearchSnapshot (search : Option SearchState) (c : RenderableContent) : RenderableContent :=
  match search with
  | some s =>
    { c with
      searchActive := true, searchQuery := s.query, searchMatches := s.matchList
      searchTotalMatches := s.matchList.length % 2 ^ 32
      searchFocused := if s.matchList = [] then none else some (s.focused % 2 ^ 32) }
  | none =>
    { c with
      searchActive := false, searchQuery := "", searchMatches := [], searchFocused := none, searchTotalMatches := 0 }

/-- The session is all the search fields depend on. -/
theorem RenderableContent.SameContent.fillSearch {a b : RenderableContent} (h : SameContent a b)
    (search : Option SearchState) : SameContent (fillSearchSnapshot search a) (fillSearchSnapshot search b) := by
  rw [← h]
  cases search <;> rfl

end OriTerm
