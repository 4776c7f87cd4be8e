import OriTerm.Term.KittyUpload

/-!
# `Term.KittyFailure` — uploads that fail

A chunk of an upload may fail: its payload is malformed, its image id is refused, or the payload outgrows the limit.
**`Upload.rejected_iff`** tells exactly when such an upload is rejected as a whole, that is, with one error reply at
the failing chunk and without any effect of the chunks after it. The failure latch of the pending upload silences
malformed chunks only, so the last chunk has to be malformed, too.

`outputs` counts the replies and the stored images, and is what tells states apart here: it never falls, and it rises
whenever an upload comes to its end (`outputs_finish`). Continuation chunks without a pending upload are taken for an
upload of their own, so they end with an output (`outputs_lt_receiveAll_idle`).
-/

namespace OriTerm

open List Option

/-! ## Error texts -/

/-- The texts of errors start with an `E`. -/
def IsErrorText (msg : String) : Prop := msg.toList.head? = some 'E'

instance (msg : String) : Decidable (IsErrorText msg) := by unfold IsErrorText; infer_instance

theorem IsErrorText.append {msg : String} (h : IsErrorText msg) (more : String) : IsErrorText (msg ++ more) := by
  unfold IsErrorText at *
  rw [String.toList_append, head?_append, h]
  rfl

theorem IsErrorText.ne_ok {msg : String} (h : IsErrorText msg) : msg ≠ "OK" := by
  rintro rfl
  exact absurd h (by decide)

section ErrorTexts

variable {F : Type} {env : KittyEnv F} {e : String}

variable {max : Nat} {path : String}

theorem isErrorText_prepareImageBytes {raw : List UInt8} {compression : Option UInt8} {expected : Option Nat}
    (h : prepareImageBytes env raw compression expected max = .error e) : IsErrorText e := by
  unfold prepareImageBytes at h
  dsimp only at h
  repeat' split at h
  all_goals cases h
  all_goals repeat first | rfl | apply IsErrorText.append

theorem isErrorText_kittyDecodePixels {payload : List UInt8} {format width height : Nat}
    (h : kittyDecodePixels env payload format width height max = .error e) : IsErrorText e := by
  unfold kittyDecodePixels at h
  dsimp only at h
  repeat' split at h
  all_goals cases h
  all_goals repeat first | rfl | apply IsErrorText.append

theorem isErrorText_openRegularFile {files : F} (h : KittyTerm.openRegularFile env files path = .error e) : IsErrorText e := by
  unfold KittyTerm.openRegularFile at h
  repeat' split at h
  all_goals cases h
  all_goals repeat first | rfl | apply IsErrorText.append

theorem isErrorText_readFile {files : F} (h : KittyTerm.readFile env files path max = .error e) : IsErrorText e := by
  unfold KittyTerm.readFile at h
  repeat' split at h
  all_goals cases h
  · next hopen => exact isErrorText_openRegularFile hopen
  all_goals repeat first | rfl | apply IsErrorText.append

theorem isErrorText_decodeFile {files : F} {p : KittyStoreParams} (h : KittyTerm.decodeFile env files path p max = .error e) : IsErrorText e := by
  unfold KittyTerm.decodeFile at h
  dsimp only at h
  split at h
  · next hread =>
    cases h
    exact isErrorText_readFile hread
  · split at h
    · next hprepare =>
      cases h
      exact isErrorText_prepareImageBytes hprepare
    · split at h
      · exact isErrorText_kittyDecodePixels h
      · split at h
        all_goals cases h
        exact .append (by rfl) _

theorem isErrorText_frameErrorReply (err : Image.Error) : IsErrorText (KittyTerm.frameErrorReply err) := by
  cases err with
  | missingImage id => exact (by rfl : IsErrorText "ENOENT")
  | _ => exact .append (by rfl) _

end ErrorTexts

/-! ## Replies and stored images -/

namespace Term

@[simp] theorem effects_onCache (t : Term) (f : Image.Cache → Image.Cache) : (t.onCache f).effects = t.effects := by
  unfold onCache
  split <;> rfl

@[simp] theorem effects_gridOp (t : Term) (op : GridOp) : (t.gridOp op).effects = t.effects := by
  unfold gridOp onGrid
  split <;> rfl

@[simp] theorem effects_gridOps (t : Term) (ops : List GridOp) : (t.gridOps ops).effects = t.effects := by
  unfold gridOps
  induction ops generalizing t with
  | nil => rfl
  | cons op ops ih => rw [foldl_cons, ih, effects_gridOp]

@[simp] theorem effects_kittyAdvance (t : Term) (cols rows : Nat) : (t.kittyAdvance cols rows).effects = t.effects := by
  unfold kittyAdvance gridEdit
  rw [effects_gridOp, effects_gridOps]

end Term

namespace KittyTerm

variable {F : Type} (env : KittyEnv F) (t : KittyTerm F)

variable (cmd : KittyCommand) (p : KittyStoreParams) (imageId : Nat)

/-- The replies and the stored images so far, counted. -/
def outputs (t : KittyTerm F) : Nat := t.term.effects.length + t.stored.length

@[simp] theorem outputs_onCache (f : Image.Cache → Image.Cache) : (t.onCache f).outputs = t.outputs := by
  show (t.term.onCache f).effects.length + t.stored.length = t.outputs
  rw [Term.effects_onCache]
  rfl

/-- A reply counts, unless it is suppressed. -/
theorem outputs_kittyRespond (ctx : KittyReplyContext) (msg : String) :
    (t.kittyRespond ctx msg).outputs = t.outputs + if ctx.silences msg then 0 else 1 := by
  unfold kittyRespond
  split
  · rfl
  · show (t.term.effects ++ [_]).length + t.stored.length = t.outputs + 1
    rw [length_append]
    unfold outputs
    simp only [length_singleton]
    omega

theorem outputs_le_kittyRespond (ctx : KittyReplyContext) (msg : String) :
    t.outputs ≤ (t.kittyRespond ctx msg).outputs := by
  rw [outputs_kittyRespond]
  exact Nat.le_add_right _ _

/-- An error is told unless `q=2` asks for silence. -/
theorem outputs_lt_kittyRespond {ctx : KittyReplyContext} {msg : String} (hquiet : ctx.quiet < 2)
    (hmsg : IsErrorText msg) : t.outputs < (t.kittyRespond ctx msg).outputs := by
  have hloud : ctx.silences msg = false := by
    unfold KittyReplyContext.silences
    have hne : (msg == "OK") = false := beq_eq_false_iff_ne.2 hmsg.ne_ok
    rw [hne, Bool.and_false, Bool.or_false]
    exact decide_eq_false (by omega)
  rw [outputs_kittyRespond, hloud]
  exact Nat.lt_succ_self _

/-- What storing did: the error is a text to reply with, a success is one more stored image. -/
def Outcome (t : KittyTerm F) (r : KittyTerm F × Except String Unit) : Prop :=
  match r.2 with
  | .ok () => r.1.outputs = t.outputs + 1
  | .error e => IsErrorText e ∧ r.1.outputs = t.outputs

theorem outcome_storePixels (source : Image.Source) (rgba : List UInt8) (width height : Nat) :
    t.Outcome (t.storePixels p source rgba width height) := by
  unfold storePixels
  dsimp only
  split
  · next id hstore =>
    show (t.term.onCache _).effects.length + (t.stored ++ [id]).length = t.outputs + 1
    rw [Term.effects_onCache, length_append]
    rfl
  · next e hstore => exact ⟨.append (by rfl) _, t.outputs_onCache _⟩

theorem outcome_kittyStoreFromFile : t.Outcome (t.kittyStoreFromFile env p) := by
  unfold kittyStoreFromFile
  split
  · exact ⟨by rfl, rfl⟩
  · next path hpath =>
    split
    · exact ⟨by rfl, rfl⟩
    · dsimp only
      split
      · next e hdecode =>
        refine ⟨isErrorText_decodeFile hdecode, ?_⟩
        split <;> rfl
      · next rgba width height hdecode =>
        split
        · exact outcome_storePixels { t with files := env.removeFile t.files path } p _ rgba width height
        · exact t.outcome_storePixels p _ rgba width height

theorem outcome_kittyStoreImage : t.Outcome (t.kittyStoreImage env p) := by
  unfold kittyStoreImage
  split
  · exact t.outcome_kittyStoreFromFile env p
  · exact t.outcome_kittyStoreFromFile env p
  · exact ⟨by rfl, rfl⟩
  · dsimp only
    split
    · next e hprepare => exact ⟨isErrorText_prepareImageBytes hprepare, rfl⟩
    · split
      · next e hdecode => exact ⟨isErrorText_kittyDecodePixels hdecode, rfl⟩
      · exact t.outcome_storePixels p _ _ _ _

@[simp] theorem outputs_kittyCreatePlacement (cmd : KittyCommand) :
    (t.kittyCreatePlacement imageId cmd).outputs = t.outputs := by
  unfold kittyCreatePlacement
  dsimp only
  split
  · exact t.outputs_onCache _
  · show ((t.term.onCache _).kittyAdvance _ _).effects.length + t.stored.length = t.outputs
    rw [Term.effects_kittyAdvance, Term.effects_onCache]
    rfl

@[simp] theorem outputs_anchorOrPlace (cmd : KittyCommand) : (t.anchorOrPlace imageId cmd).outputs = t.outputs := by
  unfold anchorOrPlace
  split <;> simp

/-- **The end of an upload shows.** It never takes an output back, and unless `q=2` asks for silence it replies or
    stores. -/
theorem outputs_finish {merged : KittyCommand} (hup : merged.action.uploads = true) :
    t.outputs ≤ (t.finish env imageId merged).outputs
      ∧ (merged.quiet < 2 → t.outputs < (t.finish env imageId merged).outputs) := by
  have hstore := t.outcome_kittyStoreImage env (.fromMerged imageId merged)
  let ctx := (KittyReplyContext.fromCmd merged).withImageId imageId
  -- The handlers either reply with an error or go on after one more stored image.
  have herror : ∀ (s : KittyTerm F) (msg : String), IsErrorText msg → s.outputs = t.outputs →
      t.outputs ≤ (s.kittyRespond ctx msg).outputs
        ∧ (merged.quiet < 2 → t.outputs < (s.kittyRespond ctx msg).outputs) := by
    intro s msg hmsg hs
    exact ⟨hs ▸ s.outputs_le_kittyRespond ctx msg, fun hquiet => hs ▸ s.outputs_lt_kittyRespond hquiet hmsg⟩
  have hsuccess : ∀ (s : KittyTerm F) (ctx : KittyReplyContext) (msg : String), s.outputs = t.outputs + 1 →
      t.outputs ≤ (s.kittyRespond ctx msg).outputs
        ∧ (merged.quiet < 2 → t.outputs < (s.kittyRespond ctx msg).outputs) := by
    intro s ctx msg hs
    have hle := s.outputs_le_kittyRespond ctx msg
    exact ⟨by omega, fun _ => by omega⟩
  unfold finish
  split
  · unfold transmitMerged
    split
    · next h => rw [h] at hstore; exact herror _ _ hstore.1 hstore.2
    · next h =>
      rw [h] at hstore
      refine hsuccess _ _ _ ?_
      split
      · rw [outputs_onCache]; exact hstore
      · exact hstore
  · unfold transmitAndPlaceMerged
    split
    · next h => rw [h] at hstore; exact herror _ _ hstore.1 hstore.2
    · next h =>
      rw [h] at hstore
      exact hsuccess _ _ _ ((outputs_anchorOrPlace _ _ _).trans hstore)
  · unfold frameMerged
    dsimp only
    split
    · exact herror t _ (by rfl) rfl
    · split
      · next e hprepare => exact herror t _ (isErrorText_prepareImageBytes hprepare) rfl
      · split
        · next e hdecode => exact herror t _ (isErrorText_kittyDecodePixels hdecode) rfl
        · split
          · refine hsuccess _ _ _ ?_
            show (t.term.onCache _).effects.length + (t.stored ++ [imageId]).length = t.outputs + 1
            rw [Term.effects_onCache, length_append]
            rfl
          · exact herror _ _ (isErrorText_frameErrorReply _) (t.outputs_onCache _)
  · next hother _ _ =>
    cases haction : merged.action <;> simp_all [KittyAction.uploads]

@[simp] theorem stored_resolveId : (t.resolveId cmd).1.stored = t.stored := by
  unfold resolveId
  cases cmd.imageId <;> rfl

/-- Allocating an id touches neither images nor placements. -/
theorem cache_resolveId : (t.resolveId cmd).1.cache = t.cache ∨ (t.resolveId cmd).1.cache = t.cache.nextImageId.1 := by
  unfold resolveId
  cases cmd.imageId with
  | some id => exact .inl rfl
  | none => exact .inr (t.term.activeCache_onCache _)

theorem images_resolveId : (t.resolveId cmd).1.cache.images = t.cache.images := by
  rcases t.cache_resolveId cmd with h | h
  · rw [h]
  · rw [h]
    rfl

theorem placements_resolveId : (t.resolveId cmd).1.cache.placements = t.cache.placements := by
  rcases t.cache_resolveId cmd with h | h
  · rw [h]
  · rw [h]
    rfl

@[simp] theorem outputs_resolveId : (t.resolveId cmd).1.outputs = t.outputs := by
  unfold resolveId
  cases cmd.imageId with
  | some id => rfl
  | none => exact t.outputs_onCache _

end KittyTerm

/-! ## A chunk that fails -/

namespace KittyTerm

variable {F : Type} {env : KittyEnv F} {t : KittyTerm F} {a : Apc} {cmd : KittyCommand} {loading : LoadingImage}

theorem handleInvalidBase64Chunk_latched (hpending : t.loadingImage = some loading)
    (hfailed : loading.failedUpload = true) :
    t.handleInvalidBase64Chunk cmd = if cmd.moreData then t else { t with loadingImage := none } := by
  unfold handleInvalidBase64Chunk
  rw [hpending]
  show (if loading.failedUpload = true then _ else _) = _
  rw [if_pos hfailed]
  cases cmd.moreData <;> rfl

theorem handleInvalidBase64Chunk_pending (hpending : t.loadingImage = some loading)
    (hhealthy : loading.failedUpload = false) :
    t.handleInvalidBase64Chunk cmd
      = { t.kittyRespond (.fromCmd cmd) "EINVAL: base64 decode failed" with
          loadingImage := some { loading with failedUpload := true } } := by
  unfold handleInvalidBase64Chunk
  rw [hpending]
  show (if loading.failedUpload = true then _ else _) = _
  rw [if_neg (by rw [hhealthy]; exact Bool.false_ne_true)]
  dsimp only
  rw [loadingImage_kittyRespond, hpending]

theorem handleInvalidBase64Chunk_idle (hidle : t.loadingImage = none) :
    t.handleInvalidBase64Chunk cmd
      = { t.kittyRespond (.fromCmd cmd) "EINVAL: base64 decode failed" with
          loadingImage :=
            if cmd.moreData then
              cmd.imageId.map fun id => { imageId := id, startCmd := {}, failedUpload := true }
            else none } := by
  have hnone := (t.loadingImage_kittyRespond (.fromCmd cmd) "EINVAL: base64 decode failed").trans hidle
  unfold handleInvalidBase64Chunk
  rw [hidle]
  dsimp only
  rw [hnone]
  have hself : t.kittyRespond (.fromCmd cmd) "EINVAL: base64 decode failed"
      = { t.kittyRespond (.fromCmd cmd) "EINVAL: base64 decode failed" with loadingImage := none } := by
    rw [← hnone]
  cases cmd.imageId with
  | none =>
    cases cmd.moreData <;> exact hself
  | some id =>
    cases cmd.moreData with
    | true => rfl
    | false => exact hself

@[simp] theorem cache_kittyRespond (t : KittyTerm F) (ctx : KittyReplyContext) (msg : String) :
    (t.kittyRespond ctx msg).cache = t.cache := by
  unfold kittyRespond
  split <;> rfl

@[simp] theorem stored_kittyRespond (t : KittyTerm F) (ctx : KittyReplyContext) (msg : String) :
    (t.kittyRespond ctx msg).stored = t.stored := by
  unfold kittyRespond
  split <;> rfl

/-- The pending upload, if there is one, brings an image or a frame. -/
def Uploading (t : KittyTerm F) : Prop := ∀ loading ∈ t.loadingImage, loading.startCmd.action.uploads = true

/-- The pending upload, if there is one, has not failed and replies to errors. -/
def Loud (t : KittyTerm F) : Prop :=
  ∀ loading ∈ t.loadingImage, loading.failedUpload = false ∧ loading.startCmd.quiet < 2

@[simp] theorem imageProtocolEnabled_kittyRespond (ctx : KittyReplyContext) (msg : String) :
    (t.kittyRespond ctx msg).term.imageProtocolEnabled = t.term.imageProtocolEnabled := by
  unfold kittyRespond
  split <;> rfl

/-- The reply to a malformed continuation chunk is never suppressed. -/
theorem outputs_respond_continuation (t : KittyTerm F) (more : Bool) :
    t.outputs
      < (t.kittyRespond (.fromCmd { moreData := more }) "EINVAL: base64 decode failed").outputs :=
  t.outputs_lt_kittyRespond (Nat.zero_lt_two) (by rfl)

section

variable (henabled : t.term.imageProtocolEnabled = true)
include henabled

/-- **A continuation chunk with more to come** takes no output back; and a loud upload stays loud or the failure is
    told. -/
theorem receive_more_spec (ha : a.Continues true) (hup : t.Uploading) :
    (t.receive env a).term.imageProtocolEnabled = true ∧ (t.receive env a).Uploading
      ∧ t.outputs ≤ (t.receive env a).outputs
      ∧ (t.Loud → (t.receive env a).Loud ∨ t.outputs < (t.receive env a).outputs) := by
  rw [receive_more henabled ha]
  by_cases hbad : a.Malformed
  · rw [if_pos hbad]
    have htold := t.outputs_respond_continuation true
    cases hpending : t.loadingImage with
    | none =>
      rw [handleInvalidBase64Chunk_idle hpending]
      refine ⟨by simpa using henabled, ?_, htold.le, fun _ => .inr htold⟩
      intro loading hloading
      cases hloading
    | some loading =>
      cases hfailed : loading.failedUpload with
      | true =>
        rw [handleInvalidBase64Chunk_latched hpending hfailed]
        exact ⟨henabled, hup, le_refl _, .inl⟩
      | false =>
        rw [handleInvalidBase64Chunk_pending hpending hfailed]
        refine ⟨by simpa using henabled, ?_, htold.le, fun _ => .inr htold⟩
        intro loading' hloading'
        obtain rfl := some.inj hloading'
        exact hup loading hpending
  · rw [if_neg hbad]
    cases hpending : t.loadingImage with
    | none =>
      rw [kittyAccumulateChunk_idle hpending]
      refine ⟨by simpa using henabled, ?_, ?_, fun _ => .inl ?_⟩
      · intro loading hloading
        obtain rfl := some.inj hloading
        rfl
      · exact (t.outputs_resolveId _).ge
      · intro loading hloading
        obtain rfl := some.inj hloading
        exact ⟨rfl, Nat.zero_lt_two⟩
    | some loading =>
      rw [kittyAccumulateChunk_pending hpending]
      refine ⟨henabled, ?_, le_refl _, fun hloud => .inl ?_⟩
      · intro loading' hloading'
        split at hloading'
        · obtain rfl := some.inj hloading'
          exact hup loading hpending
        · cases hloading'
      · intro loading' hloading'
        split at hloading'
        · obtain rfl := some.inj hloading'
          exact hloud loading hpending
        · cases hloading'

/-- The last chunk where no upload is pending is a transmission of its own. -/
theorem receive_last_idle (ha : a.Continues false) (hidle : t.loadingImage = none) (hwell : ¬a.Malformed) :
    t.receive env a
      = (t.resolveId {}).1.finish env (t.resolveId {}).2
          { payload := a.decoded, imageId := some (t.resolveId {}).2 } := by
  let whole : KittyCommand := { payload := a.decoded }
  have hinherit : whole.inherit t.loadingImage = whole := by
    rw [hidle]
    rfl
  have hfinal := kittyFinalizePayload_idle hidle whole
  have haction : (t.kittyFinalizePayload whole).2.2.action = whole.action := by rw [hfinal]
  rw [receive_reads henabled ha, if_neg hwell]
  rw [handleCommand_accepted (by rw [hinherit]; rfl), hinherit, dispatch_last rfl rfl haction, hfinal]
  rfl

/-- **The last chunk** takes no output back, and a loud upload does not end without one. -/
theorem receive_last_spec (ha : a.Continues false) (hup : t.Uploading) :
    t.outputs ≤ (t.receive env a).outputs ∧ (t.Loud → t.outputs < (t.receive env a).outputs) := by
  by_cases hbad : a.Malformed
  · have htold := t.outputs_respond_continuation false
    rw [receive_reads henabled ha, if_pos hbad]
    cases hpending : t.loadingImage with
    | none =>
      rw [handleInvalidBase64Chunk_idle hpending]
      exact ⟨htold.le, fun _ => htold⟩
    | some loading =>
      cases hfailed : loading.failedUpload with
      | true =>
        rw [handleInvalidBase64Chunk_latched hpending hfailed]
        refine ⟨le_refl _, fun hloud => ?_⟩
        rw [(hloud loading hpending).1] at hfailed
        cases hfailed
      | false =>
        rw [handleInvalidBase64Chunk_pending hpending hfailed]
        exact ⟨htold.le, fun _ => htold⟩
  · cases hpending : t.loadingImage with
    | none =>
      let merged : KittyCommand := { payload := a.decoded, imageId := some (t.resolveId {}).2 }
      have hup' : merged.action.uploads = true := rfl
      have hfinish := (t.resolveId {}).1.outputs_finish env (t.resolveId {}).2 hup'
      rw [receive_last_idle henabled ha hpending hbad]
      rw [outputs_resolveId] at hfinish
      exact ⟨hfinish.1, fun _ => hfinish.2 Nat.zero_lt_two⟩
    | some loading =>
      have hup' : (loading.append a.decoded).startCmd.action.uploads = true := hup loading hpending
      have hfinish := ({ t with loadingImage := none } : KittyTerm F).outputs_finish env loading.imageId hup'
      rw [receive_last_pending henabled ha hpending (hup loading hpending) hbad]
      exact ⟨hfinish.1, fun hloud => hfinish.2 (hloud loading hpending).2⟩

end

section

variable {middle : List Apc} {last : Apc} (henabled : t.term.imageProtocolEnabled = true)
include henabled

/-- **A loud upload does not end without an output**, whatever the rest of its chunks is. -/
theorem outputs_lt_receiveAll (hup : t.Uploading) (hmiddle : ∀ a ∈ middle, a.Continues true)
    (hlast : last.Continues false) :
    t.outputs ≤ (t.receiveAll env (middle ++ [last])).outputs
      ∧ (t.Loud → t.outputs < (t.receiveAll env (middle ++ [last])).outputs) := by
  induction middle generalizing t with
  | nil => exact receive_last_spec henabled hlast hup
  | cons a middle ih =>
    obtain ⟨henabled', hup', hle, hloud⟩ :=
      @receive_more_spec _ env _ _ henabled (hmiddle a (mem_cons_self ..)) hup
    have hrest := ih henabled' hup' fun b hb => hmiddle b (mem_cons_of_mem _ hb)
    refine ⟨hle.trans hrest.1, fun h => ?_⟩
    rcases hloud h with h' | htold
    · exact lt_of_le_of_lt hle (hrest.2 h')
    · exact lt_of_lt_of_le htold hrest.1

/-- Continuation chunks where no upload is pending are taken for one, and it ends with an output. -/
theorem outputs_lt_receiveAll_idle (hidle : t.loadingImage = none) (hmiddle : ∀ a ∈ middle, a.Continues true)
    (hlast : last.Continues false) : t.outputs < (t.receiveAll env (middle ++ [last])).outputs := by
  have hnothing : ∀ loading ∈ t.loadingImage, False := fun loading h => by
    rw [hidle] at h
    cases h
  exact (outputs_lt_receiveAll henabled (fun l h => (hnothing l h).elim) hmiddle hlast).2 fun l h => (hnothing l h).elim

/-- **After the failure.** The rest of a failed upload has no effect and closes it exactly when the last chunk is
    malformed, too, and no chunk in between takes the payload past the limit. -/
theorem receiveAll_latched (hmiddle : ∀ a ∈ middle, a.Continues true) (hlast : last.Continues false)
    (hpending : t.loadingImage = some loading) (hup : loading.startCmd.action.uploads = true)
    (hfailed : loading.failedUpload = true) (hquiet : loading.startCmd.quiet < 2) :
    t.receiveAll env (middle ++ [last]) = { t with loadingImage := none }
      ↔ last.Malformed ∧ Fits t.cache.maxSingleImageBytes loading.startCmd.payload.length middle := by
  induction middle generalizing t loading with
  | nil =>
    show t.receive env last = _ ↔ _
    by_cases hbad : last.Malformed
    · rw [receive_reads henabled hlast, if_pos hbad, handleInvalidBase64Chunk_latched hpending hfailed]
      exact ⟨fun _ => ⟨hbad, trivial⟩, fun _ => rfl⟩
    · have hup' : (loading.append last.decoded).startCmd.action.uploads = true := hup
      have hfinish := (({ t with loadingImage := none } : KittyTerm F).outputs_finish env loading.imageId hup').2 hquiet
      rw [receive_last_pending henabled hlast hpending hup hbad]
      refine ⟨fun heq => ?_, fun h => absurd h.1 hbad⟩
      rw [heq] at hfinish
      exact absurd hfinish (lt_irrefl _)
  | cons a middle ih =>
    have ha := hmiddle a (mem_cons_self ..)
    have hmiddle' : ∀ b ∈ middle, b.Continues true := fun b hb => hmiddle b (mem_cons_of_mem _ hb)
    rw [cons_append, receiveAll_cons, receive_more henabled ha]
    unfold Fits
    by_cases hbad : a.Malformed
    · rw [if_pos hbad, if_pos hbad, handleInvalidBase64Chunk_latched hpending hfailed]
      exact ih henabled hmiddle' hpending hup hfailed hquiet
    · rw [if_neg hbad, if_neg hbad, kittyAccumulateChunk_pending hpending]
      by_cases hfits : loading.startCmd.payload.length + a.decoded.length ≤ t.cache.maxSingleImageBytes
      · have hlen : (loading.append a.decoded).startCmd.payload.length
            = loading.startCmd.payload.length + a.decoded.length := length_append
        have hrest : KittyTerm.receiveAll env { t with loadingImage := some (loading.append a.decoded) }
            (middle ++ [last]) = _ ↔ _ := ih henabled hmiddle' rfl hup hfailed hquiet
        rw [hlen] at hrest
        rw [if_pos hfits, hrest]
        exact and_congr_right fun _ => ⟨fun h => ⟨hfits, h⟩, And.right⟩
      · -- The payload is discarded, and what is left is taken for another upload.
        rw [if_neg hfits]
        have hlt : KittyTerm.outputs { t with loadingImage := none }
            < (KittyTerm.receiveAll env { t with loadingImage := none } (middle ++ [last])).outputs :=
          outputs_lt_receiveAll_idle henabled rfl hmiddle' hlast
        refine ⟨fun heq => ?_, fun h => absurd h.2.1 hfits⟩
        rw [heq] at hlt
        exact absurd hlt (lt_irrefl _)

end

/-- The chunk is invalid: malformed, with an image id that is refused, or too much for the pending upload. -/
def Fails (t : KittyTerm F) (a : Apc) : Prop :=
  a.Malformed ∨ ((parseKittyCommandInto a.data).1.inherit t.loadingImage).rejectedId ≠ none
    ∨ (parseKittyCommandInto a.data).1.moreData = true
      ∧ ∃ loading ∈ t.loadingImage, t.cache.maxSingleImageBytes < loading.startCmd.payload.length + a.decoded.length

/-- No chunk fails. -/
def Healthy (env : KittyEnv F) : KittyTerm F → List Apc → Prop
  | _, [] => True
  | t, a :: as => ¬t.Fails a ∧ Healthy env (t.receive env a) as

/-- The chunks of a pending upload that do not fail decode and fit. -/
theorem fits_of_healthy {as : List Apc} (henabled : t.term.imageProtocolEnabled = true)
    (has : ∀ a ∈ as, a.Continues true) (hpending : t.loadingImage = some loading) (hhealthy : t.Healthy env as) :
    (∀ a ∈ as, ¬a.Malformed) ∧ Fits t.cache.maxSingleImageBytes loading.startCmd.payload.length as := by
  induction as generalizing t loading with
  | nil => exact ⟨fun a ha => absurd ha not_mem_nil, trivial⟩
  | cons a as ih =>
    obtain ⟨hok, hrest⟩ := hhealthy
    have ha := has a (mem_cons_self ..)
    have hwell : ¬a.Malformed := fun h => hok (.inl h)
    have hmore : (parseKittyCommandInto a.data).1.moreData = true := by
      rw [ha, if_neg hwell]
    have hfits : loading.startCmd.payload.length + a.decoded.length ≤ t.cache.maxSingleImageBytes := by
      by_contra hover
      exact hok (.inr (.inr ⟨hmore, loading, hpending, Nat.lt_of_not_le hover⟩))
    rw [receive_more henabled ha, if_neg hwell, kittyAccumulateChunk_pending hpending, if_pos hfits] at hrest
    have hlen : (loading.append a.decoded).startCmd.payload.length
        = loading.startCmd.payload.length + a.decoded.length := length_append
    obtain ⟨hwells, hfitss⟩ := ih (t := { t with loadingImage := some (loading.append a.decoded) }) henabled
      (fun b hb => has b (mem_cons_of_mem _ hb)) rfl hrest
    refine ⟨?_, ?_⟩
    · intro b hb
      rcases mem_cons.1 hb with rfl | hb
      · exact hwell
      · exact hwells b hb
    · unfold Fits
      rw [if_neg hwell, ← hlen]
      exact ⟨hlen ▸ hfits, hfitss⟩

end KittyTerm

namespace Upload

variable {F : Type} {env : KittyEnv F} {t : KittyTerm F} {u : Upload} {before after : List Apc} {bad : Apc}

/-- **Rejected as a whole.** The failing chunk is answered with one error reply, unless the upload asks for silence;
    the chunks after it have no effect and close the upload; and no image or placement came of it. -/
structure Rejected (env : KittyEnv F) (t : KittyTerm F) (u : Upload) (before : List Apc) (bad : Apc) : Prop where
  told : ∃ (ctx : KittyReplyContext) (msg : String), IsErrorText msg
    ∧ ((t.receiveAll env before).receive env bad).term
      = if u.cmd.quiet < 2 then
          (t.receiveAll env before).term.emit (.ptyWrite (ctx.response msg).toUTF8.toList .imageProtocolReply)
        else (t.receiveAll env before).term
  closed : t.receiveAll env u.chunks = { (t.receiveAll env before).receive env bad with loadingImage := none }
  nothing : (t.receiveAll env u.chunks).stored = t.stored
    ∧ (t.receiveAll env u.chunks).cache.images = t.cache.images
    ∧ (t.receiveAll env u.chunks).cache.placements = t.cache.placements

/-- **The failure is contained.** The failing chunk is malformed and more chunks follow it; the last one is malformed,
    too, and those in between never take the payload past the limit; an upload that fails at its first chunk names
    its image, one that fails later does not ask for silence. -/
structure Contained (max : Nat) (u : Upload) (before : List Apc) (bad : Apc) (after : List Apc) : Prop where
  malformed : bad.Malformed
  ended : ∃ last ∈ after.getLast?, last.Malformed
  fits : Fits max (before.map Apc.decoded).flatten.length after.dropLast
  named : before = [] → u.cmd.imageId ≠ none
  loud : before ≠ [] → u.cmd.quiet < 2

/-- A reply that is suppressed by `q=2` only. -/
theorem term_kittyRespond (t : KittyTerm F) (ctx : KittyReplyContext) {msg : String} (hmsg : IsErrorText msg) :
    (t.kittyRespond ctx msg).term
      = if ctx.quiet < 2 then t.term.emit (.ptyWrite (ctx.response msg).toUTF8.toList .imageProtocolReply)
        else t.term := by
  have hne : (msg == "OK") = false := beq_eq_false_iff_ne.2 hmsg.ne_ok
  unfold KittyTerm.kittyRespond KittyReplyContext.silences
  rw [hne, Bool.and_false, Bool.or_false]
  by_cases hquiet : ctx.quiet < 2
  · have hsilent : ¬ decide (ctx.quiet ≥ 2) = true := by
      rw [decide_eq_true_eq]
      omega
    rw [if_pos hquiet, if_neg hsilent]
    rfl
  · have hsilent : decide (ctx.quiet ≥ 2) = true := decide_eq_true (by omega)
    rw [if_neg hquiet, if_pos hsilent]

/-- What a rejection comes to where the failing chunk leads to the state `s`. -/
theorem rejected_iff_of_told {s : KittyTerm F} (hs : (t.receiveAll env before).receive env bad = s)
    (hrun : t.receiveAll env u.chunks = s.receiveAll env after)
    (htold : ∃ (ctx : KittyReplyContext) (msg : String), IsErrorText msg
      ∧ s.term
        = if u.cmd.quiet < 2 then
            (t.receiveAll env before).term.emit (.ptyWrite (ctx.response msg).toUTF8.toList .imageProtocolReply)
          else (t.receiveAll env before).term)
    (hnothing : s.stored = t.stored ∧ s.cache.images = t.cache.images ∧ s.cache.placements = t.cache.placements) :
    u.Rejected env t before bad ↔ s.receiveAll env after = { s with loadingImage := none } := by
  subst hs
  constructor
  · intro h
    rw [← hrun, h.closed]
  · intro hclosed
    refine ⟨htold, hrun.trans hclosed, ?_⟩
    rw [hrun, hclosed]
    exact hnothing

/-- Where no upload is pending after the failure, what is left is taken for another upload. -/
theorem not_rejected_of_idle {middle : List Apc}
    (henabled : ((t.receiveAll env before).receive env bad).term.imageProtocolEnabled = true)
    (hidle : ((t.receiveAll env before).receive env bad).loadingImage = none)
    (hmiddle : ∀ a ∈ middle, a.Continues true) (hchunks : u.chunks = before ++ bad :: (middle ++ [u.lastChunk])) :
    ¬u.Rejected env t before bad := by
  intro h
  have hlt : ((t.receiveAll env before).receive env bad).outputs
      < (((t.receiveAll env before).receive env bad).receiveAll env (middle ++ [u.lastChunk])).outputs :=
    KittyTerm.outputs_lt_receiveAll_idle henabled hidle hmiddle (u.last.continues_continuation false)
  have hclosed := h.closed
  rw [hchunks, KittyTerm.receiveAll_append, KittyTerm.receiveAll_cons] at hclosed
  rw [hclosed] at hlt
  exact absurd hlt (lt_irrefl _)

section

variable (henabled : t.term.imageProtocolEnabled = true) (hidle : t.loadingImage = none)
include henabled hidle

/-- The upload fails at its first chunk. -/
theorem rejected_firstChunk (hbad : t.Fails u.firstChunk) :
    u.Rejected env t [] u.firstChunk
      ↔ u.Contained t.cache.maxSingleImageBytes [] u.firstChunk (u.middleChunks ++ [u.lastChunk]) := by
  have hafter : (u.middleChunks ++ [u.lastChunk]).getLast? = some u.lastChunk := getLast?_concat
  have hrest : (u.middleChunks ++ [u.lastChunk]).dropLast = u.middleChunks := dropLast_concat
  by_cases hmalformed : u.firstChunk.Malformed
  · have hstep : t.receive env u.firstChunk = _ := KittyTerm.receive_reads henabled u.reads_firstChunk
    rw [if_pos hmalformed, KittyTerm.handleInvalidBase64Chunk_idle hidle] at hstep
    let ctx := KittyReplyContext.fromCmd { u.cmd with moreData := true }
    cases hid : u.cmd.imageId with
    | none =>
      -- Without an id there is no upload to mark as failed.
      refine iff_of_false (not_rejected_of_idle ?_ ?_ u.continues_middleChunks rfl) fun h => h.named rfl hid
      · show (t.receive env u.firstChunk).term.imageProtocolEnabled = true
        rw [hstep]
        simpa using henabled
      · show (t.receive env u.firstChunk).loadingImage = none
        rw [hstep]
        rw [hid]
        rfl
    | some id =>
      let failed : KittyTerm F := { t.kittyRespond ctx "EINVAL: base64 decode failed" with
        loadingImage := some { imageId := id, startCmd := {}, failedUpload := true } }
      have hfailed : t.receive env u.firstChunk = failed := by
        rw [hstep]
        rw [hid]
        rfl
      have henabled' : failed.term.imageProtocolEnabled = true := by
        rw [KittyTerm.imageProtocolEnabled_kittyRespond, henabled]
      have hcache : failed.cache = t.cache := t.cache_kittyRespond ctx _
      have hlatched : failed.receiveAll env (u.middleChunks ++ [u.lastChunk]) = { failed with loadingImage := none }
          ↔ u.lastChunk.Malformed ∧ Fits failed.cache.maxSingleImageBytes 0 u.middleChunks :=
        KittyTerm.receiveAll_latched henabled' u.continues_middleChunks (u.last.continues_continuation false) rfl rfl
          rfl Nat.zero_lt_two
      have hrun : t.receiveAll env u.chunks = failed.receiveAll env (u.middleChunks ++ [u.lastChunk]) := by
        rw [← hfailed]
        rfl
      have hnothing : failed.stored = t.stored ∧ failed.cache.images = t.cache.images
          ∧ failed.cache.placements = t.cache.placements := by
        rw [hcache]
        exact ⟨t.stored_kittyRespond ctx _, rfl, rfl⟩
      rw [rejected_iff_of_told hfailed hrun ⟨ctx, _, by rfl, term_kittyRespond t ctx (by rfl)⟩ hnothing, hlatched,
        hcache]
      refine ⟨fun h => ?_, fun h => ?_⟩
      · exact ⟨hmalformed, ⟨_, hafter, h.1⟩, by rw [hrest]; exact h.2, fun _ hno => (by rw [hid] at hno; cases hno),
          fun hne => absurd rfl hne⟩
      · obtain ⟨last, hmem, hlast⟩ := h.ended
        obtain rfl := some.inj (hafter.symm.trans hmem)
        have hfits := h.fits
        rw [hrest] at hfits
        exact ⟨hlast, hfits⟩
  · -- The id is refused, and no upload is opened.
    have hparse : (parseKittyCommandInto u.firstChunk.data).1
        = { u.cmd with moreData := true, payload := u.firstChunk.decoded } := by
      rw [u.reads_firstChunk, if_neg hmalformed]
    let first : KittyCommand := { u.cmd with moreData := true, payload := u.firstChunk.decoded }
    obtain ⟨id, hid⟩ : ∃ id, (first.inherit t.loadingImage).rejectedId = some id := by
      rcases hbad with h | h | ⟨-, loading, hpending, -⟩
      · exact absurd h hmalformed
      · rw [hparse] at h
        exact ne_none_iff_exists'.1 h
      · rw [hidle] at hpending
        cases hpending
    obtain ⟨ctx, msg, hstep⟩ : ∃ ctx msg, t.receive env u.firstChunk = t.kittyRespond ctx msg := by
      rw [KittyTerm.receive_reads henabled u.reads_firstChunk, if_neg hmalformed]
      exact ⟨_, _, KittyTerm.handleCommand_rejected hid u.first.received⟩
    refine iff_of_false (not_rejected_of_idle ?_ ?_ u.continues_middleChunks rfl) fun h => hmalformed h.malformed
    · show (t.receive env u.firstChunk).term.imageProtocolEnabled = true
      rw [hstep, KittyTerm.imageProtocolEnabled_kittyRespond, henabled]
    · show (t.receive env u.firstChunk).loadingImage = none
      rw [hstep, KittyTerm.loadingImage_kittyRespond, hidle]

/-- The upload after chunks that did not fail. -/
theorem receiveAll_healthy {middle : List Apc} (hmiddle : ∀ a ∈ middle, a.Continues true)
    (hhealthy : t.Healthy env (u.firstChunk :: middle)) :
    t.receiveAll env (u.firstChunk :: middle)
      = { (t.resolveId u.cmd).1 with
          loadingImage := some ((u.opening (t.resolveId u.cmd).2).append (middle.map Apc.decoded).flatten) } := by
  obtain ⟨hok, hrest⟩ := hhealthy
  have hwell : ¬u.firstChunk.Malformed := fun h => hok (.inl h)
  have haccepted : u.cmd.rejectedId = none := by
    by_contra hid
    refine hok (.inr (.inl ?_))
    rw [u.reads_firstChunk, if_neg hwell]
    exact hid
  have hfirst : t.receive env u.firstChunk = _ := receive_firstChunk henabled hidle haccepted hwell
  have henabled' : (t.receive env u.firstChunk).term.imageProtocolEnabled = true := by
    rw [hfirst]
    rw [KittyTerm.imageProtocolEnabled_resolveId, henabled]
  have hpending : (t.receive env u.firstChunk).loadingImage = some (u.opening (t.resolveId u.cmd).2) := by rw [hfirst]
  obtain ⟨hwells, hfits⟩ := KittyTerm.fits_of_healthy henabled' hmiddle hpending hrest
  rw [KittyTerm.receiveAll_cons, KittyTerm.receiveAll_middle henabled' hmiddle hwells hpending hfits, hfirst]

/-- The upload fails between its first and its last chunk. -/
theorem rejected_middleChunk {front back : List Apc} (hmiddle : u.middleChunks = front ++ bad :: back)
    (hhealthy : t.Healthy env (u.firstChunk :: front)) (hbad : (t.receiveAll env (u.firstChunk :: front)).Fails bad) :
    u.Rejected env t (u.firstChunk :: front) bad
      ↔ u.Contained t.cache.maxSingleImageBytes (u.firstChunk :: front) bad (back ++ [u.lastChunk]) := by
  have hafter : (back ++ [u.lastChunk]).getLast? = some u.lastChunk := getLast?_concat
  have hrest : (back ++ [u.lastChunk]).dropLast = back := dropLast_concat
  have hcontinues := u.continues_middleChunks
  rw [hmiddle] at hcontinues
  have hfront : ∀ a ∈ front, a.Continues true := fun a ha => hcontinues a (mem_append_left _ ha)
  have hback : ∀ a ∈ back, a.Continues true := fun a ha =>
    hcontinues a (mem_append_right _ (mem_cons_of_mem _ ha))
  have hbadMore : bad.Continues true := hcontinues bad (mem_append_right _ (mem_cons_self ..))
  have hchunks : u.chunks = (u.firstChunk :: front) ++ bad :: (back ++ [u.lastChunk]) := by
    unfold chunks
    rw [hmiddle, append_assoc]
    rfl
  -- The state before the failing chunk.
  let loading := (u.opening (t.resolveId u.cmd).2).append (front.map Apc.decoded).flatten
  let s : KittyTerm F := { (t.resolveId u.cmd).1 with loadingImage := some loading }
  have hs : t.receiveAll env (u.firstChunk :: front) = s := receiveAll_healthy henabled hidle hfront hhealthy
  have hsenabled : s.term.imageProtocolEnabled = true := by
    rw [KittyTerm.imageProtocolEnabled_resolveId, henabled]
  have hsize : s.cache.maxSingleImageBytes = t.cache.maxSingleImageBytes := t.maxSingleImageBytes_resolveId u.cmd
  by_cases hmalformed : bad.Malformed
  · let ctx := KittyReplyContext.fromCmd { moreData := true }
    let latched : LoadingImage := { loading with failedUpload := true }
    let failed : KittyTerm F := { s.kittyRespond ctx "EINVAL: base64 decode failed" with loadingImage := some latched }
    have hfailed : (t.receiveAll env (u.firstChunk :: front)).receive env bad = failed := by
      rw [hs, KittyTerm.receive_reads hsenabled hbadMore, if_pos hmalformed]
      exact KittyTerm.handleInvalidBase64Chunk_pending rfl rfl
    have htold : failed.term
        = s.term.emit (.ptyWrite (ctx.response "EINVAL: base64 decode failed").toUTF8.toList .imageProtocolReply) :=
      term_kittyRespond s ctx (by rfl)
    by_cases hquiet : u.cmd.quiet < 2
    · have henabled' : failed.term.imageProtocolEnabled = true := by
        rw [KittyTerm.imageProtocolEnabled_kittyRespond, hsenabled]
      have hcache : failed.cache = s.cache := s.cache_kittyRespond ctx _
      have hpending : failed.loadingImage = some latched := rfl
      have hlatched : failed.receiveAll env (back ++ [u.lastChunk]) = { failed with loadingImage := none }
          ↔ u.lastChunk.Malformed ∧ Fits failed.cache.maxSingleImageBytes latched.startCmd.payload.length back :=
        KittyTerm.receiveAll_latched henabled' hback (u.last.continues_continuation false) hpending u.uploads rfl hquiet
      have hlength : latched.startCmd.payload.length = ((u.firstChunk :: front).map Apc.decoded).flatten.length := rfl
      have hrun : t.receiveAll env u.chunks = failed.receiveAll env (back ++ [u.lastChunk]) := by
        rw [hchunks, KittyTerm.receiveAll_append, KittyTerm.receiveAll_cons, hfailed]
      have hnothing : failed.stored = t.stored ∧ failed.cache.images = t.cache.images
          ∧ failed.cache.placements = t.cache.placements := by
        exact ⟨t.stored_resolveId u.cmd, t.images_resolveId u.cmd, t.placements_resolveId u.cmd⟩
      have htold' : failed.term
          = if u.cmd.quiet < 2 then
              (t.receiveAll env (u.firstChunk :: front)).term.emit
                (.ptyWrite (ctx.response "EINVAL: base64 decode failed").toUTF8.toList .imageProtocolReply)
            else (t.receiveAll env (u.firstChunk :: front)).term := by
        rw [if_pos hquiet, hs, htold]
      rw [rejected_iff_of_told hfailed hrun ⟨ctx, _, by rfl, htold'⟩ hnothing, hlatched, hcache, hsize]
      refine ⟨fun h => ?_, fun h => ?_⟩
      · exact ⟨hmalformed, ⟨_, hafter, h.1⟩, by rw [hrest]; exact h.2, (nomatch ·), fun _ => hquiet⟩
      · obtain ⟨last, hmem, hlast⟩ := h.ended
        obtain rfl := some.inj (hafter.symm.trans hmem)
        have hfits := h.fits
        rw [hrest] at hfits
        exact ⟨hlast, hfits⟩
    · -- The chunk does not know that the upload asks for silence.
      refine iff_of_false (fun h => ?_) fun h => hquiet (h.loud (cons_ne_nil _ _))
      obtain ⟨ctx', msg, -, hterm⟩ := h.told
      rw [if_neg hquiet, hfailed, htold, hs] at hterm
      have hlen := congrArg (fun t : Term => t.effects.length) hterm
      exact absurd hlen (by simp [Term.emit])
  · -- Too much for the pending upload: it is discarded without a word.
    have hoverflow : ¬loading.startCmd.payload.length + bad.decoded.length ≤ s.cache.maxSingleImageBytes := by
      rw [hs] at hbad
      rcases hbad with h | h | ⟨-, loading', hpending, hlt⟩
      · exact absurd h hmalformed
      · rw [hbadMore, if_neg hmalformed] at h
        exact absurd rfl h
      · obtain rfl := some.inj hpending
        exact Nat.not_le.2 hlt
    have hstep : (t.receiveAll env (u.firstChunk :: front)).receive env bad = { s with loadingImage := none } := by
      rw [hs, KittyTerm.receive_more hsenabled hbadMore, if_neg hmalformed]
      refine (KittyTerm.kittyAccumulateChunk_pending rfl _).trans ?_
      rw [if_neg hoverflow]
    refine iff_of_false (not_rejected_of_idle ?_ ?_ hback hchunks) fun h => hmalformed h.malformed
    · rw [hstep]
      exact hsenabled
    · rw [hstep]

/-- The upload fails at its last chunk, and stays pending. -/
theorem rejected_lastChunk (hhealthy : t.Healthy env (u.firstChunk :: u.middleChunks))
    (hbad : (t.receiveAll env (u.firstChunk :: u.middleChunks)).Fails u.lastChunk) :
    ¬u.Rejected env t (u.firstChunk :: u.middleChunks) u.lastChunk := by
  intro h
  let loading := (u.opening (t.resolveId u.cmd).2).append (u.middleChunks.map Apc.decoded).flatten
  let s : KittyTerm F := { (t.resolveId u.cmd).1 with loadingImage := some loading }
  have hs : t.receiveAll env (u.firstChunk :: u.middleChunks) = s :=
    receiveAll_healthy henabled hidle u.continues_middleChunks hhealthy
  have hsenabled : s.term.imageProtocolEnabled = true := by
    rw [KittyTerm.imageProtocolEnabled_resolveId, henabled]
  have hlast : u.lastChunk.Continues false := u.last.continues_continuation false
  have hmalformed : u.lastChunk.Malformed := by
    by_contra hwell
    rw [hs] at hbad
    rcases hbad with hbad | hbad | ⟨hmore, -⟩
    · exact hwell hbad
    · rw [hlast, if_neg hwell] at hbad
      refine hbad ?_
      unfold KittyCommand.rejectedId
      split <;> rfl
    · rw [hlast, if_neg hwell] at hmore
      cases hmore
  have hclosed := h.closed
  have hchunks : u.chunks = (u.firstChunk :: u.middleChunks) ++ [u.lastChunk] := rfl
  rw [hchunks, KittyTerm.receiveAll_append, KittyTerm.receiveAll_cons, hs, KittyTerm.receive_reads hsenabled hlast,
    if_pos hmalformed] at hclosed
  have hpending := congrArg KittyTerm.loadingImage hclosed
  cases hpending

end

/-- **Rejected exactly when contained.** -/
theorem rejected_iff (henabled : t.term.imageProtocolEnabled = true) (hidle : t.loadingImage = none)
    (hchunks : u.chunks = before ++ bad :: after) (hhealthy : t.Healthy env before)
    (hbad : (t.receiveAll env before).Fails bad) :
    u.Rejected env t before bad ↔ u.Contained t.cache.maxSingleImageBytes before bad after := by
  cases before with
  | nil =>
    obtain ⟨rfl, rfl⟩ := List.cons.inj hchunks
    exact rejected_firstChunk henabled hidle hbad
  | cons first front =>
    obtain ⟨rfl, htail⟩ := List.cons.inj hchunks
    rcases eq_nil_or_concat after with rfl | ⟨back, last, rfl⟩
    · obtain ⟨rfl, hlast⟩ := append_inj' htail rfl
      obtain rfl : u.lastChunk = bad := (List.cons.inj hlast).1
      refine iff_of_false (rejected_lastChunk henabled hidle hhealthy hbad) fun h => ?_
      obtain ⟨last, hmem, -⟩ := h.ended
      cases hmem
    · have hsplit : u.middleChunks ++ [u.lastChunk] = (front ++ bad :: back) ++ [last] := by
        rw [htail]
        simp
      obtain ⟨hmiddle, hlast⟩ := append_inj' hsplit rfl
      obtain rfl : u.lastChunk = last := (List.cons.inj hlast).1
      rw [concat_eq_append]
      exact rejected_middleChunk henabled hidle hmiddle hhealthy hbad

/-- The second chunk fails, and the last one is malformed, too. -/
theorem rejected_iff_pixel :
    (pixel "AAAA" "!!!!" "!!!!").Rejected bareEnv bareTerm [(pixel "AAAA" "!!!!" "!!!!").firstChunk]
      ((⟨1, asciiBytes "!!!!"⟩ : Piece).continuation true) := by
  have hhealthy : ¬bareTerm.Fails (pixel "AAAA" "!!!!" "!!!!").firstChunk := by
    rintro (h | h | ⟨-, loading, hpending, -⟩)
    · exact absurd h (by decide +kernel)
    · exact h (by decide +kernel)
    · cases hpending
  have hiff : (pixel "AAAA" "!!!!" "!!!!").Rejected bareEnv bareTerm [(pixel "AAAA" "!!!!" "!!!!").firstChunk]
      ((⟨1, asciiBytes "!!!!"⟩ : Piece).continuation true) ↔ _ :=
    rejected_iff rfl rfl rfl ⟨hhealthy, trivial⟩ (.inl (by decide +kernel))
  exact hiff.2 ⟨by decide +kernel, ⟨_, rfl, by decide +kernel⟩, trivial, (nomatch ·), fun _ => by decide +kernel⟩

/-- **The rest of a failed upload is stored.** Its second chunk is malformed; the first and the last one make up the
    pixel. -/
theorem stored_after_failure :
    ((⟨1, asciiBytes "!!!!"⟩ : Piece).continuation true).Malformed
      ∧ ¬(pixel "AAAA" "!!!!" "AA==").Rejected bareEnv bareTerm [(pixel "AAAA" "!!!!" "AA==").firstChunk]
          ((⟨1, asciiBytes "!!!!"⟩ : Piece).continuation true) := by
  refine ⟨by decide +kernel, fun h => ?_⟩
  have hstored : (bareTerm.receiveAll bareEnv (pixel "AAAA" "!!!!" "AA==").chunks).stored = [1] := by decide +kernel
  have hnothing := h.nothing.1
  rw [hstored] at hnothing
  cases hnothing

end Upload

end OriTerm
