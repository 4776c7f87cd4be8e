import OriTerm.Mux.IoThread

/-!
# `Mux.IoPublish` — what is published is current

A snapshot is *fresh* when it shows what the terminal shows now. The loop does not keep the last snapshot fresh; it
keeps track of when it is not: `Flagged` says that a synchronized update is open, or the grid is dirty, or the active
image cache is, or the last snapshot is fresh. Every step keeps this, and on the way from the animation tick to
`select!` the disjuncts are used up one by one (`Current`): the tick turns a dirty cache into a dirty grid, the
publication a dirty grid into a fresh snapshot. What remains while the loop waits is the open synchronized update.

**`current_run`** is that invariant over every interleaving. A synchronized update defers publication everywhere,
also for `SnapshotNow` and at the end of the PTY's output.
-/

namespace OriTerm

open Lib Lib.Bitflags

theorem RenderableContent.SameContent.trans {a b c : RenderableContent} (h : SameContent a b) (h' : SameContent b c) :
    SameContent a c := by
  unfold SameContent at h h' ⊢
  rw [← h', ← h]

/-! ## Caches -/

namespace Image.Cache

/-- The operation reports what it changes of the view, the anchors' display grids included. -/
structure Reports (c c' : Cache) : Prop extends Marks c c' where
  anchors : c'.dirty = false → c'.placeholderAnchorGrid = c.placeholderAnchorGrid

variable {c c' c'' : Cache}

theorem Reports.trans (h : Reports c c') (h' : Reports c' c'') : Reports c c'' := by
  refine ⟨h.toMarks.trans h'.toMarks, fun hd => ?_⟩
  have hd' : c'.dirty = false := by
    cases hdirty : c'.dirty with
    | false => rfl
    | true =>
      rw [h'.stays hdirty] at hd
      cases hd
  exact (h'.anchors hd).trans (h.anchors hd')

theorem Reports.of_dirty (h : c'.dirty = true) : Reports c c' := by
  refine ⟨.of_dirty h, fun hd => ?_⟩
  rw [h] at hd
  cases hd

/-- An operation that marks, and never touches the anchors. -/
theorem Marks.reports (h : Marks c c') (ha : c'.placeholderAnchorGrid = c.placeholderAnchorGrid) : Reports c c' :=
  ⟨h, fun _ => ha⟩

theorem frameInvariant_anchors : FrameInvariant fun c c' => c'.placeholderAnchorGrid = c.placeholderAnchorGrid :=
  ⟨fun h h' => h'.trans h, fun _ _ _ _ _ _ _ => rfl, fun _ _ _ => rfl⟩

theorem reports_setAnimationEnabled (c : Cache) (enabled : Bool) : Reports c (c.setAnimationEnabled enabled) :=
  (animationInvariant_marks.setAnimationEnabled c enabled).reports
    (frameInvariant_anchors.toAnimationInvariant.setAnimationEnabled c enabled)

theorem reports_advanceAnimations (c : Cache) (now : Nanos) (top bottom : StableRowIndex) :
    Reports c (c.advanceAnimations now top bottom).1 :=
  (animationInvariant_marks.advanceAnimations c now top bottom).reports
    (frameInvariant_anchors.toAnimationInvariant.advanceAnimations c now top bottom)

/-- An eviction removes images, which is reported. -/
theorem reports_setMemoryLimit (c : Cache) (limit : Nat) : Reports c (c.setMemoryLimit limit) := by
  have hlimit : Marks c { c with memoryLimit := limit } := .of_eq (fun h => h) rfl rfl
  refine evictLoop_invariant (fun c' v _ h => h.trans ?_) _ _ (hlimit.reports rfl)
  unfold removeImage
  split
  · exact (Marks.refl c').reports rfl
  · exact .of_dirty rfl

end Image.Cache

/-! ## What leaves the view alone -/

namespace Term

variable {t t' t'' : Term}

/-- Nothing a snapshot reads changed, or the active cache says so. -/
structure Untouched (t t' : Term) : Prop where
  mode : t'.mode = t.mode
  stays : t.activeCache.dirty = true → t'.activeCache.dirty = true
  view : t'.activeCache.dirty = true ∨ SameView t t'

theorem Untouched.of_sameView (h : SameView t t') (hd : t'.activeCache.dirty = t.activeCache.dirty) : Untouched t t' :=
  ⟨h.mode, fun hdirty => hd.trans hdirty, .inr h⟩

@[refl] theorem Untouched.refl (t : Term) : Untouched t t := .of_sameView (.refl t) rfl

theorem Untouched.trans (h : Untouched t t') (h' : Untouched t' t'') : Untouched t t'' := by
  refine ⟨h'.mode.trans h.mode, h'.stays ∘ h.stays, ?_⟩
  rcases h'.view with hd | hview'
  · exact .inl hd
  · exact h.view.imp h'.stays fun hview => hview.trans hview'

section

variable {f : Image.Cache → Image.Cache} (t : Term) (hf : ∀ c, Image.Cache.Reports c (f c))
include hf

/-- An operation on the active cache that reports. -/
theorem untouched_onCache : Untouched t (t.onCache f) := by
  have hcache := activeCache_onCache t f
  have hmode : (t.onCache f).mode = t.mode := by
    unfold onCache
    split <;> rfl
  refine ⟨hmode, fun hd => ?_, ?_⟩
  · rw [hcache]
    exact (hf _).stays hd
  · rw [hcache]
    cases hd : (f t.activeCache).dirty with
    | true => exact .inl rfl
    | false => exact .inr (sameView_onCache t ((hf _).picture hd) ((hf _).anchors hd))

/-- An operation on both caches that reports. -/
theorem untouched_onCaches : Untouched t (t.onCaches f) := by
  have hcache : (t.onCaches f).activeCache = f t.activeCache := by
    unfold Term.activeCache onCaches altActive
    cases contains t.mode TermMode.altScreen with
    | false => rfl
    | true =>
      cases t.altImageCache with
      | none | some => rfl
  refine ⟨rfl, fun hd => ?_, ?_⟩
  · rw [hcache]
    exact (hf _).stays hd
  · rw [hcache]
    cases hd : (f t.activeCache).dirty with
    | true => exact .inl rfl
    | false =>
      refine .inr ⟨rfl, rfl, rfl, rfl, rfl, rfl, ⟨rfl, rfl⟩, ?_, ?_⟩
      · rw [hcache]
        exact (hf _).picture hd
      · rw [hcache]
        exact (hf _).anchors hd

end

theorem untouched_advanceAnimations (t : Term) (now : Image.Nanos) : Untouched t (t.advanceAnimations now).1 :=
  untouched_onCache t fun c => Image.Cache.reports_advanceAnimations c now _ _

/-- Marks, markers and what else is not shown. -/
theorem untouched_hidden (hg : t'.grid = t.grid) (ha : t'.altGrid = t.altGrid) (hi : t'.imageCache = t.imageCache)
    (hai : t'.altImageCache = t.altImageCache) (hm : t'.mode = t.mode) (hp : t'.palette = t.palette)
    (hb : t'.boldIsBright = t.boldIsBright) (hs : t'.cursorShape = t.cursorShape)
    (hc : t'.mouseCursorIcon = t.mouseCursorIcon)
    (hpx : t'.cellPixelWidth = t.cellPixelWidth ∧ t'.cellPixelHeight = t.cellPixelHeight) : Untouched t t' := by
  refine .of_sameView (.of_eq hg ha hi hai hm hp hb hs hc hpx) ?_
  unfold Term.activeCache altActive
  rw [hm, hai, hi]

theorem untouched_markRows (t : Term) : Untouched t t.markPromptRow.markCommandStartRow.markOutputStartRow := by
  have hprompt : Untouched t t.markPromptRow := by
    unfold markPromptRow
    split
    · dsimp only
      split <;> exact untouched_hidden rfl rfl rfl rfl rfl rfl rfl rfl rfl ⟨rfl, rfl⟩
    · rfl
  have hcommand : ∀ t : Term, Untouched t t.markCommandStartRow := by
    intro t
    unfold markCommandStartRow
    split
    · exact untouched_hidden rfl rfl rfl rfl rfl rfl rfl rfl rfl ⟨rfl, rfl⟩
    · rfl
  have houtput : ∀ t : Term, Untouched t t.markOutputStartRow := by
    intro t
    unfold markOutputStartRow
    split
    · exact untouched_hidden rfl rfl rfl rfl rfl rfl rfl rfl rfl ⟨rfl, rfl⟩
    · rfl
  exact (hprompt.trans (hcommand _)).trans (houtput _)

theorem untouched_prunePromptMarkers (t : Term) (evicted : Nat) : Untouched t (t.prunePromptMarkers evicted) := by
  unfold prunePromptMarkers
  split
  · rfl
  · exact untouched_hidden rfl rfl rfl rfl rfl rfl rfl rfl rfl ⟨rfl, rfl⟩

theorem untouched_setImageConfig (t : Term) (config : ImageConfig) :
    Untouched t (((t.setImageProtocolEnabled config.enabled).setImageLimits config.memoryLimit config.maxSingle)
      |>.setImageAnimationEnabled config.animationEnabled) := by
  have henabled : Untouched t (t.setImageProtocolEnabled config.enabled) :=
    untouched_hidden rfl rfl rfl rfl rfl rfl rfl rfl rfl ⟨rfl, rfl⟩
  refine (henabled.trans (untouched_onCaches _ fun c => ?_)).trans (untouched_onCaches _ fun c => ?_)
  · refine (Image.Cache.reports_setMemoryLimit c config.memoryLimit).trans ?_
    have hmax : ∀ c : Image.Cache, Image.Cache.Marks c (c.setMaxSingleImage config.maxSingle) :=
      fun c => .of_eq (fun h => h) rfl rfl
    exact (hmax _).reports rfl
  · exact Image.Cache.reports_setAnimationEnabled c _

end Term

namespace PaneIo

variable {env : IoEnv} {io io' : PaneIo}

/-! ## Fresh and flagged -/

/-- The last published snapshot shows what the terminal shows. -/
def Fresh (env : IoEnv) (io : PaneIo) : Prop :=
  ∃ last, io.published.getLast? = some last ∧ RenderableContent.SameContent last (io.content env)

/-- The grid is dirty, or the last snapshot is fresh. -/
def Settled (env : IoEnv) (io : PaneIo) : Prop := io.syncOpen = true ∨ io.gridDirty = true ∨ io.Fresh env

/-- Whatever the last snapshot misses is flagged. -/
def Flagged (env : IoEnv) (io : PaneIo) : Prop :=
  io.syncOpen = true ∨ io.gridDirty = true ∨ io.terminal.activeCache.dirty = true ∨ io.Fresh env

theorem Settled.flagged (h : io.Settled env) : io.Flagged env := h.imp id (Or.imp id .inr)

theorem flagged_dirtyGrid (io : PaneIo) : io.dirtyGrid.Flagged env := .inr (.inl rfl)

/-- The last snapshot stays fresh while nothing it shows changes. -/
theorem Fresh.of_sameView (h : io.Fresh env) (hp : io'.published = io.published) (hs : io'.search = io.search)
    (hview : Term.SameView io.terminal io'.terminal) : io'.Fresh env := by
  obtain ⟨last, hlast, hsame⟩ := h
  refine ⟨last, hp ▸ hlast, hsame.trans ?_⟩
  unfold content
  rw [hs]
  exact (hview.sameContent env.f32).fillSearch io.search

/-- A step that forgets no flag and changes nothing shown, unless the active cache reports it. -/
theorem Flagged.of_untouched (h : io.Flagged env) (hp : io'.published = io.published) (hs : io'.search = io.search)
    (hd : io'.gridDirty = io.gridDirty) (hu : Term.Untouched io.terminal io'.terminal) : io'.Flagged env := by
  rcases h with hsync | hdirty | hcache | hfresh
  · refine .inl ?_
    unfold syncOpen Term.has at hsync ⊢
    rw [hu.mode]
    exact hsync
  · exact .inr (.inl (hd.trans hdirty))
  · exact .inr (.inr (.inl (hu.stays hcache)))
  · rcases hu.view with hcache | hview
    · exact .inr (.inr (.inl hcache))
    · exact .inr (.inr (.inr (hfresh.of_sameView hp hs hview)))

/-! ## Publication -/

/-- **A snapshot just produced is fresh.** -/
theorem fresh_produceSnapshot (env : IoEnv) (now : Image.Nanos) (io : PaneIo) :
    (io.produceSnapshot env now).Fresh env := by
  refine ⟨io.content env, List.getLast?_concat .., ?_⟩
  exact ((Term.sameView_resetDamage io.terminal).sameContent env.f32).fillSearch io.search

/-- Publication leaves the synchronized update as it was. -/
theorem syncOpen_publishPendingSnapshot (env : IoEnv) (now : Image.Nanos) (io : PaneIo) :
    (io.publishPendingSnapshot env now).syncOpen = io.syncOpen := by
  unfold publishPendingSnapshot
  split
  · rfl
  · split
    · rfl
    · unfold syncOpen Term.has
      show contains io.terminal.resetDamage.mode _ = _
      rw [(Term.sameView_resetDamage io.terminal).mode]

/-- **After a publication nothing is missing but what a synchronized update holds back.** -/
theorem Settled.publish (h : io.Settled env) (now : Image.Nanos) :
    (io.publishPendingSnapshot env now).syncOpen = true ∨ (io.publishPendingSnapshot env now).Fresh env := by
  unfold publishPendingSnapshot
  split
  · next hsync => exact .inl hsync
  · next hsync =>
    split
    · next hclean =>
      rcases h with hopen | hdirty | hfresh
      · exact absurd hopen hsync
      · rw [hdirty] at hclean
        cases hclean
      · exact .inr hfresh
    · exact .inr (fresh_produceSnapshot env now io)

theorem Flagged.maybeProduce (h : io.Flagged env) (now : Image.Nanos) :
    (io.maybeProduceSnapshot env now).Flagged env := by
  unfold maybeProduceSnapshot
  split
  · exact h
  · split
    · exact h
    · split
      · exact h
      · exact .inr (.inr (.inr (fresh_produceSnapshot env now io)))

theorem settled_dirtyGrid (io : PaneIo) : io.dirtyGrid.Settled env := .inr (.inl rfl)

/-- A forced publication. -/
theorem publish_dirtyGrid (env : IoEnv) (now : Image.Nanos) (io : PaneIo) :
    (io.dirtyGrid.publishPendingSnapshot env now).syncOpen = true
      ∨ (io.dirtyGrid.publishPendingSnapshot env now).Fresh env :=
  (settled_dirtyGrid io).publish now

/-! ## One step -/

theorem Flagged.drainEffects (h : io.Flagged env) : io.drainEffects.Flagged env :=
  h.of_untouched rfl rfl rfl (Term.untouched_hidden rfl rfl rfl rfl rfl rfl rfl rfl rfl ⟨rfl, rfl⟩)

theorem Flagged.postParseHousekeeping (h : io.Flagged env) (evictedBefore : Nat) :
    (io.postParseHousekeeping evictedBefore).Flagged env := by
  obtain ⟨evicted, modeCache, selectionDirty, heq⟩ := postParseHousekeeping_eq io evictedBefore
  rw [heq]
  refine h.of_untouched rfl rfl rfl ?_
  refine ((Term.untouched_markRows io.terminal).trans (Term.untouched_prunePromptMarkers _ evicted)).trans ?_
  exact Term.untouched_hidden rfl rfl rfl rfl rfl rfl rfl rfl rfl ⟨rfl, rfl⟩

/-- Parsed bytes dirty the grid, but inside a synchronized update. -/
theorem flagged_handleBytes (env : IoEnv) (io : PaneIo) (chunk : Chunk) : (io.handleBytes env chunk).Flagged env := by
  refine Flagged.drainEffects (Flagged.postParseHousekeeping ?_ _)
  split
  · next hsync => exact .inl hsync
  · exact flagged_dirtyGrid _

theorem Flagged.applyPendingResize (h : io.Flagged env) : io.applyPendingResize.Flagged env := by
  unfold PaneIo.applyPendingResize
  split
  · exact .inr (.inl rfl)
  · exact h.of_untouched rfl rfl rfl (.refl _)

theorem Flagged.onSearch (h : io.Flagged env) (f : SearchState → SearchState) : (io.onSearch f).Flagged env := by
  unfold PaneIo.onSearch
  split
  · exact flagged_dirtyGrid _
  · exact h

/-- **A command dirties the grid, or changes nothing shown that the image cache does not report.** -/
theorem Flagged.handleCommand (h : io.Flagged env) (now : Image.Nanos) (cmd : PaneIoCommand) :
    (io.handleCommand env now cmd).Flagged env := by
  cases cmd with
  | setImageConfig config => exact h.of_untouched rfl rfl rfl (Term.untouched_setImageConfig _ config)
  | searchSetQuery | searchNextMatch | searchPrevMatch => exact h.onSearch _
  | setAnswerback bytes =>
    exact h.of_untouched rfl rfl rfl (Term.untouched_hidden rfl rfl rfl rfl rfl rfl rfl rfl rfl ⟨rfl, rfl⟩)
  | snapshotNow reply =>
    rcases publish_dirtyGrid env now io with hsync | hfresh
    · exact .inl hsync
    · exact .inr (.inr (.inr (hfresh.of_sameView rfl rfl (.refl _))))
  | reset | extractText | extractHtml | selectCommandOutput | selectCommandInput | shutdown => exact h
  | _ => exact flagged_dirtyGrid _

theorem flagged_handleSyncTimeout (env : IoEnv) (now : Image.Nanos) (io : PaneIo) :
    (io.handleSyncTimeout env now).Flagged env := by
  exact (publish_dirtyGrid env now _).imp id fun hfresh => .inr (.inr hfresh)

/-- **The tick turns a dirty cache into a dirty grid.** -/
theorem Flagged.tick (h : io.Flagged env) (now : Image.Nanos) : (io.tickAnimations now).Settled env := by
  have hu := Term.untouched_advanceAnimations io.terminal now
  have htake : Term.SameView (io.terminal.advanceAnimations now).1 (io.tickAnimations now).terminal :=
    Term.sameView_onCache _ ⟨rfl, fun _ => rfl⟩ rfl
  have hdirty : (io.tickAnimations now).gridDirty
      = (io.gridDirty || (io.terminal.advanceAnimations now).1.activeCache.dirty) := rfl
  unfold Settled
  rw [hdirty, Bool.or_eq_true]
  rcases h with hsync | hgrid | hcache | hfresh
  · refine .inl ?_
    unfold syncOpen Term.has at hsync ⊢
    rw [htake.mode, hu.mode]
    exact hsync
  · exact .inr (.inl (.inl hgrid))
  · exact .inr (.inl (.inr (hu.stays hcache)))
  · rcases hu.view with hcache | hview
    · exact .inr (.inl (.inr hcache))
    · exact .inr (.inr (hfresh.of_sameView rfl rfl (hview.trans htake)))

/-! ## The invariant -/

/-- What is known at each point of the loop. -/
def Current (env : IoEnv) (io : PaneIo) : Prop :=
  match io.pc with
  | .start | .exited => True
  | .publish => io.Settled env
  | .finalCheck | .blocked | .awaitExit => io.syncOpen = true ∨ io.Fresh env
  | _ => io.Flagged env

/-- Published, or deferred by a synchronized update. -/
def UpToDate (env : IoEnv) (io : PaneIo) : Prop := io.syncOpen = true ∨ io.Fresh env

theorem UpToDate.settled (h : io.UpToDate env) : io.Settled env := h.imp id .inr

theorem UpToDate.flagged (h : io.UpToDate env) : io.Flagged env := h.settled.flagged

/-! ### Moving on -/

theorem Flagged.goto (h : io.Flagged env) (pc : Pc) : (io.goto pc).Flagged env := h

theorem Settled.goto (h : io.Settled env) (pc : Pc) : (io.goto pc).Settled env := h

theorem UpToDate.goto (h : io.UpToDate env) (pc : Pc) : (io.goto pc).UpToDate env := h

section

variable (h : io.Current env)
include h

/-- The invariant only reads what the IO thread owns. -/
theorem Current.of_owned (hpc : io'.pc = io.pc) (ht : io'.terminal = io.terminal)
    (hs : io'.search = io.search) (hp : io'.published = io.published) (hd : io'.gridDirty = io.gridDirty) :
    io'.Current env := by
  unfold Current Settled Flagged Fresh content syncOpen at h ⊢
  rw [hpc, ht, hs, hp, hd]
  exact h

/-- What the arms of the `select!` leave. -/
theorem Current.select (hpc : io.pc = .blocked) (now : Image.Nanos) (arm : Arm) :
    (io.select env now arm).Current env := by
  have hcurrent : io.UpToDate env := by
    unfold Current at h
    rw [hpc] at h
    exact h
  have hflagged : io.Flagged env := hcurrent.flagged
  cases arm with
  | command =>
    unfold PaneIo.select
    cases io.cmdQueue with
    | nil => exact h
    | cons cmd rest => exact hflagged
  | bytes =>
    unfold PaneIo.select
    cases io.byteQueue with
    | cons message rest => exact hflagged
    | nil =>
      dsimp only
      split
      · exact UpToDate.goto (publish_dirtyGrid env now io.drainEffects) _
      · exact h
  | childExit =>
    unfold PaneIo.select
    cases io.childExit with
    | none => exact h
    | some code => exact hflagged
  | wake => exact hflagged
  | timeout =>
    unfold PaneIo.select
    dsimp only
    split
    · exact (flagged_handleSyncTimeout env now io).goto _
    · exact hflagged

/-- **Every step of the loop keeps the invariant.** -/
theorem Current.advance (now : Image.Nanos) (arm : Arm) : (io.advance env now arm).Current env := by
  unfold PaneIo.advance
  cases hpc : io.pc with
  | start => exact Flagged.goto (.inr (.inr (.inr (fresh_produceSnapshot env now io.dirtyGrid)))) _
  | drain | gotCommand | armCommand =>
    have hflagged : io.Flagged env := by rwa [Current, hpc] at h
    exact hflagged.applyPendingResize.goto _
  | recvCommand caller =>
    have hflagged : io.Flagged env := by rwa [Current, hpc] at h
    dsimp only
    split
    · exact hflagged
    · exact hflagged.drainEffects.goto _
  | doCommand caller cmd =>
    have hflagged : io.Flagged env := by rwa [Current, hpc] at h
    cases cmd with
    | shutdown => exact hflagged
    | _ => exact (hflagged.handleCommand now _).goto _
  | drained caller =>
    have hflagged : io.Flagged env := by rwa [Current, hpc] at h
    rcases caller with _ | ⟨_ | _, rest⟩
    · dsimp only
      split
      · trivial
      · exact hflagged
    · dsimp only
      split
      · trivial
      · exact (hflagged.maybeProduce now).goto _
    · dsimp only
      split
      · exact hflagged
      · exact (hflagged.maybeProduce now).goto _
  | recvBytes =>
    have hflagged : io.Flagged env := by rwa [Current, hpc] at h
    dsimp only
    split
    · exact hflagged
    · split
      · trivial
      · exact hflagged
  | chunks caller rest =>
    have hflagged : io.Flagged env := by rwa [Current, hpc] at h
    cases rest with
    | cons chunk rest => cases caller <;> exact (flagged_handleBytes env io chunk).goto _
    | nil =>
      cases caller with
      | pending =>
        dsimp only
        split
        · trivial
        · exact (hflagged.maybeProduce now).goto _
      | arm => exact hflagged
  | tick =>
    have hflagged : io.Flagged env := by rwa [Current, hpc] at h
    exact (hflagged.tick now).goto _
  | publish =>
    have hsettled : io.Settled env := by rwa [Current, hpc] at h
    exact UpToDate.goto (hsettled.publish now) _
  | finalCheck =>
    have hcurrent : io.UpToDate env := by rwa [Current, hpc] at h
    dsimp only
    split
    · trivial
    · exact hcurrent
  | blocked => exact h.select hpc now arm
  | armDo cmd =>
    have hflagged : io.Flagged env := by rwa [Current, hpc] at h
    cases cmd with
    | shutdown => trivial
    | _ => exact (hflagged.handleCommand now _).goto _
  | awaitExit => trivial
  | exited =>
    trivial

theorem Current.apply (e : IoEvent) : (io.apply env e).Current env := by
  have hsend : ∀ (io : PaneIo) (cmd : PaneIoCommand), io.Current env → (io.trySend cmd).Current env := by
    intro io cmd h
    unfold trySend
    split
    · exact h.of_owned rfl rfl rfl rfl rfl
    · exact h
  cases e with
  | sendCommand cmd =>
    unfold PaneIo.apply sendCommand
    dsimp only
    split
    · exact hsend _ cmd (h.of_owned rfl rfl rfl rfl rfl)
    · exact hsend io cmd h
  | sendResize | setShutdown | closeBytes | childExits => exact h.of_owned rfl rfl rfl rfl rfl
  | sendBytes message =>
    unfold PaneIo.apply
    dsimp only
    split
    · exact h
    · exact h.of_owned rfl rfl rfl rfl rfl
  | step now arm => exact h.advance now arm

end

/-- **Any interleaving keeps the invariant.** -/
theorem current_run (env : IoEnv) (t : Term) (es : List IoEvent) : (run (apply env) (new t) es).Current env :=
  run_invariant (fun _ e h => h.apply e) trivial es

/-- A `SnapshotNow` is answered after a publication, or a synchronized update holds it back. -/
theorem snapshotNow_answers (env : IoEnv) (now : Image.Nanos) (io : PaneIo) (reply : Nat) :
    (io.handleCommand env now (.snapshotNow reply)).replies = io.replies ++ [reply]
      ∧ (io.syncOpen = false → (io.handleCommand env now (.snapshotNow reply)).Fresh env) := by
  refine ⟨?_, fun hclosed => ?_⟩
  · show (io.dirtyGrid.publishPendingSnapshot env now).replies ++ [reply] = io.replies ++ [reply]
    have hreplies : (io.dirtyGrid.publishPendingSnapshot env now).replies = io.replies := by
      unfold publishPendingSnapshot
      split
      · rfl
      · split <;> rfl
    rw [hreplies]
  · rcases publish_dirtyGrid env now io with hopen | hfresh
    · rw [syncOpen_publishPendingSnapshot] at hopen
      exact absurd (hclosed.symm.trans hopen) (by decide)
    · exact hfresh.of_sameView rfl rfl (.refl _)

/-! ## At rest -/

/-- Waiting for input, or for the exit status after the end of the PTY's output. -/
def AtRest (io : PaneIo) : Prop := io.pc = .blocked ∨ io.pc = .awaitExit

/-- About to perform this command. -/
def Doing (io : PaneIo) (cmd : PaneIoCommand) : Prop := (∃ caller, io.pc = .doCommand caller cmd) ∨ io.pc = .armDo cmd

/-- **In every run, unless a synchronized update is open, the last published snapshot is the current one whenever
    the loop waits and after the end of the PTY's output, and a `SnapshotNow` is answered with the current one
    published.** -/
theorem published_run (env : IoEnv) (t : Term) (es : List IoEvent) :
    let io := run (apply env) (new t) es
    io.syncOpen = false →
      (io.AtRest → io.Fresh env)
        ∧ ∀ reply now arm, io.Doing (.snapshotNow reply) →
          (io.advance env now arm).replies = io.replies ++ [reply] ∧ (io.advance env now arm).Fresh env := by
  intro io hclosed
  have hcurrent : io.Current env := current_run env t es
  refine ⟨fun hrest => ?_, fun reply now arm hdoing => ?_⟩
  · have hup : io.UpToDate env := by
      rcases hrest with hpc | hpc
      · rwa [Current, hpc] at hcurrent
      · rwa [Current, hpc] at hcurrent
    rcases hup with hopen | hfresh
    · exact absurd (hclosed.symm.trans hopen) (by decide)
    · exact hfresh
  · obtain ⟨hreplies, hfresh⟩ := snapshotNow_answers env now io reply
    rcases hdoing with ⟨caller, hpc⟩ | hpc
    · have hadvance : io.advance env now arm
          = (io.handleCommand env now (.snapshotNow reply)).goto (.recvCommand caller) := by
        unfold PaneIo.advance
        rw [hpc]
      rw [hadvance]
      exact ⟨hreplies, (hfresh hclosed).of_sameView rfl rfl (.refl _)⟩
    · have hadvance : io.advance env now arm
          = (io.handleCommand env now (.snapshotNow reply)).goto (.drain .top) := by
        unfold PaneIo.advance
        rw [hpc]
      rw [hadvance]
      exact ⟨hreplies, (hfresh hclosed).of_sameView rfl rfl (.refl _)⟩

/-- Every character is one column wide, and there is nothing to search or decode. -/
def narrowEnv : IoEnv where
  width := fun _ => some 1
  f32 := ⟨BitVec.ofNat 32, BitVec.ofInt 32, (· + ·), (· - ·), (· * ·), (· / ·)⟩
  findMatches := fun _ _ => []
  text := ⟨fun _ => none, fun _ => ""⟩

/-- A program prints and exits; the loop handles that up to the wait for the exit status. -/
def printAndExit (ops : List TermOp) : PaneIo :=
  run (apply narrowEnv) (new (.new 1 2 0 .dark))
    (.sendBytes [{ ops }] :: .closeBytes :: List.replicate 15 (.step 0 .bytes))

/-- The loop waits for the exit status. -/
def awaitsExit (io : PaneIo) : Bool :=
  match io.pc with
  | .awaitExit => true
  | _ => false

theorem pc_of_awaitsExit (h : io.awaitsExit = true) : io.pc = .awaitExit := by
  unfold awaitsExit at h
  split at h
  · assumption
  · cases h

theorem published_run_at_exit : (printAndExit [.input 'x']).Fresh narrowEnv :=
  (published_run narrowEnv _ _ (by decide +kernel)).1 (.inr (pc_of_awaitsExit (by decide +kernel)))

/-- A program begins a synchronized update, prints and exits: its output is never published. -/
theorem unpublished_at_exit : ¬ ∀ (env : IoEnv) (t : Term) (es : List IoEvent),
    let io := run (apply env) (new t) es
    io.AtRest → (io.pc = .blocked → io.syncOpen = false) → io.Fresh env := by
  intro h
  let io := printAndExit [.setPrivateMode .syncUpdate true, .input 'x']
  have hpc : io.pc = .awaitExit := pc_of_awaitsExit (by decide +kernel)
  have hstale : io.published.getLast?.map (·.cells) ≠ some (io.content narrowEnv).cells := by decide +kernel
  obtain ⟨last, hlast, hsame⟩ : io.Fresh narrowEnv :=
    h narrowEnv _ _ (.inr hpc) fun hblocked => by cases hpc.symm.trans hblocked
  have hcells : last.cells = (io.content narrowEnv).cells := by
    rw [← hsame]
  refine hstale ?_
  rw [hlast, Option.map_some, hcells]

end PaneIo

end OriTerm
