import OriTerm.Mux.ImageCache

/-!
# `Mux.SnapshotCache` — the server's cached snapshots

`build` swaps the newest IO snapshot of a pane in and refills the pane's cache entry from it; with nothing
new it returns the entry as it is. `buildAndTake` moves the entry out and leaves an empty one, `remove`
deletes it.

The runs of this file interleave those calls, in any order and for any panes, with IO threads publishing
snapshots. What a call **should** return is the newest published content; what it **does** return is that
content exactly when something new is waiting or the entry still holds it (`read_shows_latest_iff`).
-/

namespace OriTerm

open Lib AList

/-- Per-pane cached snapshots, the shared swap buffer and the pixel store. -/
structure SnapshotCache where
  cache : AList (fun _ : PaneId => PaneSnapshot)
  renderBuf : RenderableContent
  imageDataStore : ImageCache

/-- What a call of the cache leaves and returns; `pane` is the pane after its mailbox was read. -/
structure BuildResult where
  cache : SnapshotCache
  pane : Pane
  snapshot : PaneSnapshot
  evicted : List ImageKey

namespace SnapshotCache

variable (c : SnapshotCache) (paneId : PaneId) (r : Reader) (p : PaneId) (pane : Pane) (es : List Call)

def new : SnapshotCache := ⟨∅, {}, ImageCache.new⟩

/-- The oracle of the fold: placed in some cached snapshot, or about to be inserted for this pane. -/
def reachable (cache : AList (fun _ : PaneId => PaneSnapshot)) (paneId : PaneId)
    (imageData : List RenderableImageData) (key : ImageKey) : Bool :=
  (cache.lookup key.1).any (fun snap => snap.images.any (·.imageId == key.2))
    || (key.1 == paneId && imageData.any (·.id == key.2))

/-- Folds fresh pixel data into the store; returns what was evicted on the way. -/
def foldImageDataStore (cache : AList (fun _ : PaneId => PaneSnapshot))
    (imageData : List RenderableImageData) (store : ImageCache) : ImageCache × List ImageKey :=
  imageData.foldl
    (fun acc img =>
      let r := acc.1.insert (paneId, img.id) img (reachable cache paneId imageData)
      (r.1, acc.2 ++ r.2))
    (store, [])

/-- `entry(pane_id).or_default()`, read. -/
def entryOrDefault : PaneSnapshot :=
  (c.cache.lookup paneId).getD {}

/-- Builds a snapshot from the newest IO snapshot, or returns the cached one when there is none. -/
def build : BuildResult :=
  match pane.doubleBuffer.swapFront c.renderBuf with
  | (true, slot, renderBuf) =>
    let folded := foldImageDataStore paneId c.cache renderBuf.imageData c.imageDataStore
    let cached := fillSnapshotFromRenderable pane renderBuf (c.entryOrDefault paneId)
    { cache := ⟨c.cache.insert paneId cached, renderBuf, folded.1⟩
      pane := { pane with doubleBuffer := slot }
      snapshot := cached
      evicted := folded.2 }
  | (false, slot, renderBuf) =>
    let cached := c.entryOrDefault paneId
    { cache := ⟨c.cache.insert paneId cached, renderBuf, c.imageDataStore⟩
      pane := { pane with doubleBuffer := slot }
      snapshot := cached
      evicted := [] }

/-- The pixels of an image, a hit becoming the most recent. -/
def imageData (key : ImageKey) : SnapshotCache × Option RenderableImageData :=
  let r := c.imageDataStore.get key
  ({ c with imageDataStore := r.1 }, r.2)

/-- `build`, the snapshot cloned. -/
def buildClone : BuildResult := c.build paneId pane

/-- `build`, the snapshot moved out: the entry is left empty. -/
def buildAndTake : BuildResult :=
  let r := c.build paneId pane
  { r with cache := { r.cache with cache := r.cache.cache.insert paneId {} } }

/-- Removes the snapshot and the pixels of a pane. -/
def remove : SnapshotCache :=
  { c with cache := c.cache.erase paneId, imageDataStore := c.imageDataStore.dropPane paneId }

/-! ## What `build` does, by whether something new is waiting -/

section Build

variable {c : SnapshotCache} {paneId : PaneId} {pane : Pane}

/-- The mailbox after a build: emptied if something was waiting. -/
theorem build_doubleBuffer : (c.build paneId pane).pane.doubleBuffer =
    (pane.doubleBuffer.swapFront c.renderBuf).2.1 := by
  unfold build
  split <;> simp_all

theorem build_entry : (c.build paneId pane).cache.cache =
    c.cache.insert paneId (c.build paneId pane).snapshot := by
  unfold build
  split <;> rfl

/-- With something new the snapshot shows it. -/
theorem build_shows_front
    (h : pane.doubleBuffer.seqno ≠ pane.doubleBuffer.consumedSeqno) :
    (c.build paneId pane).snapshot.Shows pane.doubleBuffer.front := by
  simp only [build, DoubleBufferSlot.swapFront, h]
  exact fillSnapshotFromRenderable_shows _ _ _

/-- With nothing new the snapshot is the cached entry. -/
theorem build_snapshot_of_consumed
    (h : pane.doubleBuffer.seqno = pane.doubleBuffer.consumedSeqno) :
    (c.build paneId pane).snapshot = c.entryOrDefault paneId := by
  simp [build, DoubleBufferSlot.swapFront, h]

end Build

/-! ## Runs -/

/-- The three reading calls. -/
inductive Reader where
  | build | buildClone | buildAndTake
  deriving DecidableEq, Repr

/-- The call a reader stands for. -/
def read : Reader → PaneId → Pane → BuildResult
  | .build => c.build
  | .buildClone => c.buildClone
  | .buildAndTake => c.buildAndTake

/-- The three calls return the same snapshot and read the mailbox alike. -/
theorem read_snapshot (paneId : PaneId) (pane : Pane) :
    (c.read r paneId pane).snapshot = (c.build paneId pane).snapshot := by
  cases r <;> rfl

theorem read_pane (paneId : PaneId) (pane : Pane) : (c.read r paneId pane).pane = (c.build paneId pane).pane := by
  cases r <;> rfl

/-- The cache and the panes it is asked about. -/
structure World where
  snapshots : SnapshotCache
  panes : PaneId → Pane

/-- An IO thread publishing, pane metadata changing, or a call of the cache. -/
inductive Call where
  | publish (paneId : PaneId) (buf : RenderableContent)
  | setMetadata (paneId : PaneId) (title : String) (iconName cwd : Option String)
      (hasExplicitTitle hasUnseenOutput : Bool)
  | read (reader : Reader) (paneId : PaneId)
  | remove (paneId : PaneId)

/-- No snapshot published, nothing cached. -/
def World.init : World := ⟨new, fun _ => {}⟩

/-- One call. -/
def World.step (w : World) : Call → World
  | .publish p buf =>
    let pane := w.panes p
    { w with
      panes := Function.update w.panes p
        { pane with doubleBuffer := (pane.doubleBuffer.flipSwap buf).1 } }
  | .setMetadata p title iconName cwd hasExplicitTitle hasUnseenOutput =>
    { w with
      panes := Function.update w.panes p
        { doubleBuffer := (w.panes p).doubleBuffer, title := title, iconName := iconName, cwd := cwd
          hasExplicitTitle := hasExplicitTitle, hasUnseenOutput := hasUnseenOutput } }
  | .read reader p =>
    let r := w.snapshots.read reader p (w.panes p)
    { snapshots := r.cache, panes := Function.update w.panes p r.pane }
  | .remove p => { w with snapshots := w.snapshots.remove p }

/-! ## What the calls should see -/

/-- One pane's history: the newest published content, whether it is still unread, and whether the cache
    entry holds it. -/
structure History where
  latest : Option RenderableContent := none
  waiting : Bool := false
  held : Bool := false

/-- How one call changes the history of pane `p`. -/
def History.step (h : History) : Call → History
  | .publish q buf => if q = p then { h with latest := some buf, waiting := true } else h
  | .setMetadata .. => h
  | .read reader q =>
    if q = p then
      { h with waiting := false, held := reader ≠ .buildAndTake && (h.waiting || h.held) }
    else h
  | .remove q => if q = p then { h with held := false } else h

/-- The history of pane `p` after the calls `es`. -/
def history : History := run (History.step p) {} es

/-- A snapshot with nothing in it: no rows, the default cursor, no columns, no modes. -/
def IsBare (snap : PaneSnapshot) : Prop :=
  snap.cells = [] ∧ snap.cursor = {} ∧ snap.cols = 0 ∧ snap.modes = 0

/-- Bare snapshots show the same content. -/
theorem shows_iff_of_isBare {snap : PaneSnapshot} (h : IsBare snap) (rc : RenderableContent) :
    snap.Shows rc ↔ PaneSnapshot.Shows {} rc := by
  obtain ⟨hcells, hcursor, hcols, hmodes⟩ := h
  constructor
  · intro hs
    exact ⟨hcells ▸ hs.cells, hcursor ▸ hs.cursor, hcols ▸ hs.cols, hmodes ▸ hs.modes⟩
  · intro hs
    exact ⟨hcells ▸ hs.cells, hcursor ▸ hs.cursor, hcols ▸ hs.cols, hmodes ▸ hs.modes⟩

/-- The state of pane `p` agrees with its history: the mailbox front shows the newest content while it is
    waiting, the entry shows it while it is held and is bare otherwise. -/
structure Agrees (p : PaneId) (w : World) (h : History) : Prop where
  waiting_iff :
    ((w.panes p).doubleBuffer.seqno ≠ (w.panes p).doubleBuffer.consumedSeqno) ↔ h.waiting = true
  consumed_le : (w.panes p).doubleBuffer.consumedSeqno ≤ (w.panes p).doubleBuffer.seqno
  front_latest : h.waiting = true →
    ∃ last, h.latest = some last ∧ (w.panes p).doubleBuffer.front.SameContent last
  held_shows : h.held = true → h.waiting = false →
    ∃ last, h.latest = some last ∧ (w.snapshots.entryOrDefault p).Shows last
  bare : h.held = false → IsBare (w.snapshots.entryOrDefault p)

/-- `Shows` ignores the damage fields. -/
theorem shows_congr {snap : PaneSnapshot} {a b : RenderableContent} (h : a.SameContent b) :
    snap.Shows a ↔ snap.Shows b := by
  have hb : b = { a with allDirty := b.allDirty, damage := b.damage, imagesDirty := b.imagesDirty } :=
    h.symm
  rw [hb]
  exact ⟨fun hs => ⟨hs.cells, hs.cursor, hs.cols, hs.modes⟩,
    fun hs => ⟨hs.cells, hs.cursor, hs.cols, hs.modes⟩⟩

theorem isBare_default : IsBare {} := ⟨rfl, rfl, rfl, rfl⟩

theorem entryOrDefault_remove_self : (c.remove p).entryOrDefault p = {} := by
  simp [remove, entryOrDefault]

theorem entryOrDefault_remove_ne {p q : PaneId} (h : p ≠ q) : (c.remove q).entryOrDefault p = c.entryOrDefault p := by
  simp [remove, entryOrDefault, lookup_erase_ne h]

/-- A read leaves the entries of other panes alone. -/
theorem entryOrDefault_read_ne {p q : PaneId} (pane : Pane)
    (h : p ≠ q) : (c.read r q pane).cache.entryOrDefault p = c.entryOrDefault p := by
  have hb : (c.build q pane).cache.entryOrDefault p = c.entryOrDefault p := by
    unfold entryOrDefault
    rw [build_entry, lookup_insert_ne h]
  cases r with
  | build | buildClone => exact hb
  | buildAndTake =>
    unfold entryOrDefault at hb ⊢
    simpa [read, buildAndTake, lookup_insert_ne h] using hb

/-- The entry of the pane that was read: the snapshot, or nothing when it was taken. -/
theorem entryOrDefault_read_self :
    (c.read r p pane).cache.entryOrDefault p =
      if r = .buildAndTake then {} else (c.build p pane).snapshot := by
  have hb : (c.build p pane).cache.entryOrDefault p = (c.build p pane).snapshot := by
    unfold entryOrDefault
    rw [build_entry, lookup_insert]
    rfl
  cases r with
  | build | buildClone => exact hb
  | buildAndTake => simp [read, buildAndTake, entryOrDefault]

/-- A read empties the mailbox of its pane. -/
theorem read_consumes :
    (c.read r p pane).pane.doubleBuffer.seqno = (c.read r p pane).pane.doubleBuffer.consumedSeqno := by
  rw [read_pane, build_doubleBuffer]
  unfold DoubleBufferSlot.swapFront
  split <;> simp_all

theorem agrees_init : Agrees p World.init {} :=
  ⟨by simp [World.init, DoubleBufferSlot.new], Nat.le_refl _, by simp, by simp,
    fun _ => isBare_default⟩

/-- What a read returns, in a state that agrees with its history. -/
theorem Agrees.read_shows_iff {p : PaneId} {w : World} {h : History} (hag : Agrees p w h)
    {last : RenderableContent} (hlast : h.latest = some last) :
    (w.snapshots.build p (w.panes p)).snapshot.Shows last ↔
      h.waiting = true ∨ h.held = true ∨ PaneSnapshot.Shows {} last := by
  by_cases hw : h.waiting = true
  · obtain ⟨l, hl, hsame⟩ := hag.front_latest hw
    rw [hlast] at hl
    cases hl
    have hs : (w.snapshots.build p (w.panes p)).snapshot.Shows _ := build_shows_front (hag.waiting_iff.mpr hw)
    exact iff_of_true ((shows_congr hsame).mp hs) (.inl hw)
  · have hnew : (w.panes p).doubleBuffer.seqno = (w.panes p).doubleBuffer.consumedSeqno :=
      not_not.mp fun hne => hw (hag.waiting_iff.mp hne)
    rw [build_snapshot_of_consumed hnew]
    by_cases hh : h.held = true
    · obtain ⟨l, hl, hs⟩ := hag.held_shows hh (by simpa using hw)
      rw [hlast] at hl
      cases hl
      exact iff_of_true hs (.inr (.inl hh))
    · rw [shows_iff_of_isBare (hag.bare (by simpa using hh))]
      simp [hw, hh]

/-- Each call keeps the pane in agreement with its history. -/
theorem agrees_step {p : PaneId} {w : World} {h : History} (e : Call) (hag : Agrees p w h) :
    Agrees p (w.step e) (h.step p e) := by
  cases e with
  | publish q buf =>
    by_cases hq : q = p
    · subst hq
      have hle := hag.consumed_le
      refine ⟨?_, ?_, ?_, ?_, ?_⟩
      · simp [World.step, History.step, DoubleBufferSlot.flipSwap]
        omega
      · simp [World.step, DoubleBufferSlot.flipSwap]
        omega
      · intro _
        refine ⟨buf, by simp [History.step], ?_⟩
        by_cases hsk : (w.panes q).doubleBuffer.seqno > (w.panes q).doubleBuffer.consumedSeqno <;>
          simp [World.step, DoubleBufferSlot.flipSwap, hsk, RenderableContent.SameContent]
      · simp [History.step]
      · intro hh
        exact hag.bare (by simpa [History.step] using hh)
    · have hp : (w.step (.publish q buf)).panes p = w.panes p := by
        simp [World.step, Function.update_of_ne (Ne.symm hq)]
      have hh : h.step p (.publish q buf) = h := by simp [History.step, hq]
      rw [hh]
      exact ⟨hp ▸ hag.waiting_iff, hp ▸ hag.consumed_le, hp ▸ hag.front_latest,
        hag.held_shows, hag.bare⟩
  | setMetadata q title iconName cwd hasExplicitTitle hasUnseenOutput =>
    have hp : ((w.step (.setMetadata q title iconName cwd hasExplicitTitle hasUnseenOutput)).panes
        p).doubleBuffer = (w.panes p).doubleBuffer := by
      by_cases hq : p = q
      · subst hq
        simp [World.step]
      · simp [World.step, Function.update_of_ne hq]
    exact ⟨hp ▸ hag.waiting_iff, hp ▸ hag.consumed_le, hp ▸ hag.front_latest,
      hag.held_shows, hag.bare⟩
  | read r q =>
    by_cases hq : q = p
    · subst hq
      have hcons := read_consumes w.snapshots r q (w.panes q)
      have hself := entryOrDefault_read_self w.snapshots r q (w.panes q)
      refine ⟨?_, ?_, ?_, ?_, ?_⟩
      · simp [World.step, History.step, hcons]
      · simp [World.step, hcons]
      · simp [History.step]
      · intro hh _
        simp only [History.step, if_true, Bool.and_eq_true, decide_eq_true_eq, Bool.or_eq_true]
          at hh
        obtain ⟨hr, hor⟩ := hh
        have hlat : ∃ last, h.latest = some last := by
          rcases hor with hw | hheld
          · exact (hag.front_latest hw).imp fun _ hl => hl.1
          · by_cases hw : h.waiting = true
            · exact (hag.front_latest hw).imp fun _ hl => hl.1
            · exact (hag.held_shows hheld (by simpa using hw)).imp fun _ hl => hl.1
        obtain ⟨last, hlast⟩ := hlat
        refine ⟨last, by simpa [History.step] using hlast, ?_⟩
        simp only [World.step, hself, if_neg hr]
        exact (hag.read_shows_iff hlast).mpr (by tauto)
      · intro hh
        simp only [World.step, hself]
        by_cases hr : r = .buildAndTake
        · rw [if_pos hr]
          exact isBare_default
        · rw [if_neg hr]
          have hnone : h.waiting = false ∧ h.held = false := by
            simpa [History.step, hr] using hh
          have hnew : (w.panes q).doubleBuffer.seqno = (w.panes q).doubleBuffer.consumedSeqno :=
            not_not.mp fun hne => by simpa [hnone.1] using hag.waiting_iff.mp hne
          rw [build_snapshot_of_consumed hnew]
          exact hag.bare hnone.2
    · have hp : (w.step (.read r q)).panes p = w.panes p := by
        simp [World.step, Function.update_of_ne (Ne.symm hq)]
      have he : (w.step (.read r q)).snapshots.entryOrDefault p = w.snapshots.entryOrDefault p :=
        entryOrDefault_read_ne _ r _ (Ne.symm hq)
      have hh : h.step p (.read r q) = h := by simp [History.step, hq]
      rw [hh]
      exact ⟨hp ▸ hag.waiting_iff, hp ▸ hag.consumed_le, hp ▸ hag.front_latest,
        he ▸ hag.held_shows, he ▸ hag.bare⟩
  | remove q =>
    by_cases hq : q = p
    · subst hq
      have hbare : IsBare ((w.snapshots.remove q).entryOrDefault q) :=
        (entryOrDefault_remove_self w.snapshots q).symm ▸ isBare_default
      refine ⟨?_, hag.consumed_le, ?_, by simp [History.step], fun _ => hbare⟩
      · simpa [History.step, World.step] using hag.waiting_iff
      · simpa [History.step, World.step] using hag.front_latest
    · have he := entryOrDefault_remove_ne w.snapshots (Ne.symm hq)
      have hh : h.step p (.remove q) = h := by simp [History.step, hq]
      rw [hh]
      exact ⟨hag.waiting_iff, hag.consumed_le, hag.front_latest,
        fun a b => (hag.held_shows a b).imp fun l hl => ⟨hl.1, he.symm ▸ hl.2⟩,
        fun a => he.symm ▸ hag.bare a⟩

theorem agrees_run : Agrees p (run World.step World.init es) (history p es) :=
  run_simulation (fun _ _ e h => agrees_step e h) (agrees_init p) es

/-- **When a read is fresh.** After any interleaving of calls and publications, a reading call for a pane
    that has published returns the newest content exactly when a snapshot is waiting, or the entry was
    filled and neither moved out nor removed since, or the newest content is itself the bare one. -/
theorem read_shows_latest_iff (r : Reader) (p : PaneId) (last : RenderableContent)
    (hlast : (history p es).latest = some last) :
    ((run World.step World.init es).snapshots.read r p
        ((run World.step World.init es).panes p)).snapshot.Shows last ↔
      (history p es).waiting = true ∨ (history p es).held = true ∨ PaneSnapshot.Shows {} last := by
  rw [read_snapshot]
  exact (agrees_run p es).read_shows_iff hlast

/-- A build, then a clone with nothing new: the entry still holds the content. -/
theorem read_shows_latest_cached :
    ((run World.step World.init [.publish 0 { mode := TermMode.showCursor }, .read .build 0]).snapshots.read
        .buildClone 0 ((run World.step World.init
          [.publish 0 { mode := TermMode.showCursor }, .read .build 0]).panes 0)).snapshot.Shows
      { mode := TermMode.showCursor } :=
  (read_shows_latest_iff [.publish 0 { mode := TermMode.showCursor }, .read .build 0] .buildClone 0
    { mode := TermMode.showCursor } rfl).mpr (.inr (.inl rfl))

/-- Taking the snapshot and reading again with nothing new returns an empty one. -/
theorem read_after_take_is_empty :
    ¬ ∀ (es : List Call) (r : Reader) (p : PaneId) (last : RenderableContent),
      (history p es).latest = some last →
        ((run World.step World.init es).snapshots.read r p
          ((run World.step World.init es).panes p)).snapshot.Shows last := by
  intro hall
  have hs := hall [.publish 0 { mode := TermMode.showCursor }, .read .buildAndTake 0] .build 0
    { mode := TermMode.showCursor } rfl
  exact absurd hs.modes (by decide)

end SnapshotCache

end OriTerm
