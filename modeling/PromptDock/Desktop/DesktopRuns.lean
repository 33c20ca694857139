import PromptDock.LabelledRun
import PromptDock.Desktop.RunEvents

/-!
# Interleavings on the desktop

Ingestion, the finalizer, the policy projection, control notices and the
delivery worker act on one database in any order, each operation under an engine
of its own that may refuse statements.  The world keeps, beside the store, the
delivery attempts under way: the rows as their claims returned them.  An attempt
ends with its completion, or when the process stops.

`step_moves` says what each operation may do to a notice.  In particular a
notice that has ended is never touched again (`ended_stays`).
-/

namespace PromptDock.Desktop

open RowTable TableStatement LabelledRun OutboxRepository StoreAction.Action Bool

/-! ## Moves of the delivery worker -/

/-- What expiry and the end of a blockage do to a notice. -/
def IdleMove (r r' : OutboxRow) : Prop :=
  r' = r ∨ (SameNotice r r' ∧ r.status.claimable = true ∧ r'.status ≠ .sending)

/-- What a claim does to a notice. -/
def ClaimMove (now : Timestamp) (r r' : OutboxRow) : Prop :=
  r' = r ∨ (ready now r = true ∧ r' = claimedAtNow now r)

/-- What the end of an attempt does to a notice. -/
def FinishMove (id : Text) (r r' : OutboxRow) : Prop :=
  r' = r ∨ (SameNotice r r' ∧ r.id = id ∧ r.status = .sending ∧ r'.status ≠ .sending)

/-- What the recovery of stale claims does to a notice. -/
def RecoverMove (now : Timestamp) (r r' : OutboxRow) : Prop :=
  r' = r ∨ (SameNotice r r' ∧ staleClaim now r = true ∧ r'.status ≠ .sending)

/-- What every operation does to a notice: it keeps its identity, and once it has
ended it does not change. -/
def LifeMove (r r' : OutboxRow) : Prop :=
  SameNotice r r' ∧ (r.status.live = false → r' = r)

variable {r r' : OutboxRow}

/-- A notice moves while it is live. -/
theorem LifeMove.of_live (h : r' = r ∨ (SameNotice r r' ∧ r.status.live = true)) :
    LifeMove r r' := by
  rcases h with rfl | ⟨hsame, hlive⟩
  · exact ⟨.refl _, fun _ => rfl⟩
  refine ⟨hsame, fun hdead => ?_⟩
  rw [hlive] at hdead
  cases hdead

theorem QuietMove.life (h : QuietMove r r') : LifeMove r r' :=
  .of_live (h.imp_right fun ⟨hsame, hlive, _⟩ => ⟨hsame, hlive⟩)

/-- Idle moves compose. -/
theorem IdleMove.trans (a b c : OutboxRow) (h : IdleMove a b) (h' : IdleMove b c) :
    IdleMove a c := by
  rcases h with rfl | ⟨hsame, hclaim, hsend⟩
  · exact h'
  rcases h' with rfl | ⟨hsame', _, hsend'⟩
  · exact .inr ⟨hsame, hclaim, hsend⟩
  · exact .inr ⟨hsame.trans hsame', hclaim, hsend'⟩

theorem IdleMove.life (h : IdleMove r r') : LifeMove r r' :=
  .of_live (h.imp_right fun ⟨hsame, hclaim, _⟩ =>
    ⟨hsame, OutboxRowStatus.live_of_claimable hclaim⟩)

variable {now : Timestamp}

/-- What a claim may take is claimable. -/
theorem claimable_of_ready (h : ready now r = true) : r.status.claimable = true := by
  simp only [ready, and_eq_true, or_eq_true, beq_iff_eq] at h
  rcases h.1.1.1 with hstat | hstat
  · rw [hstat]
    rfl
  · rw [hstat]
    rfl

theorem ClaimMove.life (h : ClaimMove now r r') : LifeMove r r' := by
  refine .of_live (h.imp_right fun ⟨hready, hclaim⟩ => ⟨?_, ?_⟩)
  · rw [hclaim]
    exact ⟨rfl, rfl, rfl⟩
  · exact OutboxRowStatus.live_of_claimable (claimable_of_ready hready)

theorem FinishMove.life {id : Text} (h : FinishMove id r r') : LifeMove r r' := by
  refine .of_live (h.imp_right fun ⟨hsame, _, hsend, _⟩ => ⟨hsame, ?_⟩)
  rw [hsend]
  rfl

theorem RecoverMove.life (h : RecoverMove now r r') : LifeMove r r' := by
  refine .of_live (h.imp_right fun ⟨hsame, hstale, _⟩ => ⟨hsame, ?_⟩)
  simp only [staleClaim, and_eq_true, beq_iff_eq] at hstale
  rw [hstale.1]
  rfl

/-- Only the outbox changed, each notice by a move. -/
structure OutboxOnly (move : OutboxRow → OutboxRow → Prop) (s s' : DesktopStore) : Prop where
  check : s.check = true → s'.check = true
  notices : RowGrowth OutboxRow.id move (fun _ => False) s.notificationOutbox s'.notificationOutbox
  rest : s' = { s with notificationOutbox := s'.notificationOutbox }

variable {change : OutboxRow → OutboxRow} {guard : OutboxRow → Bool} {engine : DesktopEngine}

namespace OutboxOnly

variable {move : OutboxRow → OutboxRow → Prop}

theorem refl (hrefl : ∀ r, move r r) (s : DesktopStore) : OutboxOnly move s s where
  check := id
  notices := .refl hrefl _
  rest := rfl

/-- Changes of the outbox alone compose. -/
theorem trans (htrans : ∀ a b c, move a b → move b c → move a c) (a b c : DesktopStore)
    (h : OutboxOnly move a b) (h' : OutboxOnly move b c) : OutboxOnly move a c where
  check hcheck := h'.check (h.check hcheck)
  notices := .trans htrans (fun _ _ hfalse _ => hfalse.elim) h.notices h'.notices
  rest := by
    rw [h'.rest, h.rest]

/-- One update of the outbox. -/
theorem update_keeps (hrefl : ∀ r, move r r) (hid : ∀ r, (change r).id = r.id)
    (hmove : ∀ r, guard r = true → move r (change r)) : Keeps (OutboxOnly move)
      (update engine DesktopStore.outboxTable (fun _ => guard) change : Desk Nat) := by
  intro s
  rcases hrun : update engine DesktopStore.outboxTable (fun _ => guard) change s with
    ⟨error | n, s'⟩
  · rw [(update_eq_error.mp hrun).2.2]
    exact refl hrefl s
  obtain ⟨hacc, _, rfl⟩ := update_eq_ok.mp hrun
  exact
    { check := fun _ => engine.sound _ hacc
      notices := .update hrefl fun r _ hg => ⟨(hid r).symm, hmove r hg⟩
      rest := rfl }

end OutboxOnly

variable {s' : DesktopStore}

namespace OutboxRepository

variable (engine : DesktopEngine) (now : Timestamp)

/-- Only claimable notices expire. -/
theorem expireDue_moves : Keeps (OutboxOnly IdleMove) (expireDue engine now) := by
  refine OutboxOnly.update_keeps (fun _ => .inl rfl) (fun _ => rfl) fun r hg => ?_
  simp only [and_eq_true] at hg
  exact .inr ⟨⟨rfl, rfl, rfl⟩, hg.2, nofun⟩

/-- A claim takes a notice that is ready. -/
theorem claimTx_moves (permitted : Bool) :
    Keeps (OutboxOnly (ClaimMove now)) (claimTx engine (pure permitted) now) := by
  have hrefl : ∀ s, OutboxOnly (ClaimMove now) s s := OutboxOnly.refl fun _ => .inl rfl
  have : Std.Refl (OutboxOnly (ClaimMove now)) := ⟨hrefl⟩
  refine .allOrNothing fun s => ?_
  simp only [pure_bind_run]
  split
  · exact hrefl s
  simp only [read_bind_run]
  cases firstBy claimsBefore (ready now) s.notificationOutbox with
  | none => exact hrefl s
  | some chosen =>
    have hupd : Keeps (OutboxOnly (ClaimMove now)) (update engine DesktopStore.outboxTable
          (fun _ r => r.id == chosen.id && ready now r) (claimedAtNow now) : Desk Nat) := by
      refine OutboxOnly.update_keeps (fun _ => .inl rfl) (fun _ => rfl) fun r hg => ?_
      simp only [and_eq_true] at hg
      exact .inr ⟨hg.2, rfl⟩
    exact hupd.bind_still (fun _ _ => rfl) s

/-- What a claim took: a ready notice, now held under the claim. -/
theorem claimTx_eq_some {permitted : Bool} {s : DesktopStore} {raw : OutboxRow}
    (h : claimTx engine (pure permitted) now s = (.ok (some raw), s')) :
    ∃ chosen ∈ s.notificationOutbox, ready now chosen = true ∧ raw = claimedAtNow now chosen ∧
      raw ∈ s'.notificationOutbox := by
  unfold claimTx at h
  rcases hbody : (_ : Desk (Option OutboxRow)) s with ⟨error | found, s1⟩
  · rw [allOrNothing_of_error hbody] at h
    cases h
  rw [allOrNothing_of_ok hbody] at h
  cases h
  simp only [pure_bind_run] at hbody
  split at hbody
  · cases hbody
  simp only [read_bind_run] at hbody
  cases hfst : firstBy claimsBefore (ready now) s.notificationOutbox with
  | none =>
    rw [hfst] at hbody
    cases hbody
  | some chosen =>
    rw [hfst] at hbody
    obtain ⟨hmem, hready⟩ := firstBy_some hfst
    obtain ⟨n, s2, hupd, hend⟩ := bind_eq_ok.mp hbody
    cases hend
    obtain ⟨_, _, rfl⟩ := update_eq_ok.mp hupd
    refine ⟨chosen, hmem, hready, rfl, mem_updateWhere.mpr ⟨chosen, hmem, .inl ⟨?_, rfl⟩⟩⟩
    simp [hready]

section

variable (claim : OutboxClaim)

/-- An attempt ends on the notice that was being sent. -/
theorem finishWhere_moves {id : Text} (hg : ∀ r, guard r = true → r.id = id ∧ r.status = .sending)
    (hchg : ∀ r, SameNotice r (change r) ∧ (change r).status ≠ .sending) :
    Keeps (OutboxOnly (FinishMove id)) (finishWhere engine guard change) := by
  refine .bind_still (OutboxOnly.update_keeps (fun _ => .inl rfl) (fun r => (hchg r).1.id)
    fun r hr => ?_) fun changed s => ?_
  · exact .inr ⟨(hchg r).1, (hg r hr).1, (hg r hr).2, (hchg r).2⟩
  · split <;> rfl

/-- Ending an attempt leaves its notice in another status. -/
theorem finishSending_moves (id : Text) {status : OutboxRowStatus} (hstat : status ≠ .sending)
    (nextAttemptAt : Option Timestamp) (code message : String) : Keeps (OutboxOnly (FinishMove id))
      (finishSending engine id status now nextAttemptAt code message) := by
  refine finishWhere_moves engine (fun r hr => ?_) fun r => ⟨⟨rfl, rfl, rfl⟩, hstat⟩
  simpa [sendingRow] using hr

/-- The guard of a held release names the row and asks that it is being sent. -/
theorem sending_of_heldUnder (h : heldUnder claim r = true) :
    r.id = claim.id ∧ r.status = .sending := by
  simp only [heldUnder, and_eq_true, beq_iff_eq] at h
  exact h.1.1.1

theorem releaseHeldClaim_moves :
    Keeps (OutboxOnly (FinishMove claim.id)) (releaseHeldClaim engine claim now) := by
  refine finishWhere_moves engine (fun r => sending_of_heldUnder claim) fun r =>
    ⟨⟨rfl, rfl, rfl⟩, ?_⟩
  simp only [releasedRow]
  split <;> exact nofun

/-- The notice waits for its next attempt, or is a dead letter. -/
theorem retryWithSchedule_moves (schedule : List Int) (code message : String) :
    Keeps (OutboxOnly (FinishMove claim.id))
      (retryWithSchedule engine claim now schedule code message) := by
  unfold retryWithSchedule
  split <;> exact finishSending_moves engine now _ (by decide) _ _ _

theorem retryWithLimit_moves (limit delay : Int) (code message : String) :
    Keeps (OutboxOnly (FinishMove claim.id))
      (retryWithLimit engine claim now limit delay code message) := by
  unfold retryWithLimit
  split <;> exact finishSending_moves engine now _ (by decide) _ _ _

theorem completeDelivery_moves (res : DeliveryResult) :
    Keeps (OutboxOnly (FinishMove claim.id)) (completeDelivery engine claim res now) := by
  have hfin : ∀ {status : OutboxRowStatus}, status ≠ .sending → ∀ nextAttemptAt code message,
      Keeps (OutboxOnly (FinishMove claim.id))
        (finishSending engine claim.id status now nextAttemptAt code message) :=
    fun hstat _ _ _ => finishSending_moves engine now _ hstat _ _ _
  unfold completeDelivery
  cases res with
  | accepted =>
    refine finishWhere_moves engine (fun r hr => ?_) fun r => ⟨⟨rfl, rfl, rfl⟩, nofun⟩
    simpa [sendingRow] using hr
  | held => exact releaseHeldClaim_moves engine now claim
  | retryable retry =>
    dsimp only
    split
    · exact hfin (by decide) _ _ _
    cases retry.policy with
    | networkBackoff | rateLimitBackoff => exact retryWithSchedule_moves engine now claim _ _ _
    | limited => exact retryWithLimit_moves engine now claim _ _ _ _
  | blocked | permanentFailure | cancelled | policyRevoked =>
    dsimp only
    split <;> exact hfin (by decide) _ _ _

theorem refuseClaim_moves (id : Text) (error : AppError) :
    Keeps (OutboxOnly (FinishMove id)) (refuseClaim engine id error now) := by
  unfold refuseClaim
  split <;> exact finishSending_moves engine now _ (by decide) _ _ _

end

/-- Only stale claims are taken back. -/
theorem recoverStaleClaims_moves :
    Keeps (OutboxOnly (RecoverMove now)) (recoverStaleClaims engine now) := by
  refine OutboxOnly.update_keeps (fun _ => .inl rfl) (fun _ => rfl) fun r hg => ?_
  refine .inr ⟨⟨rfl, rfl, rfl⟩, hg, ?_⟩
  simp only [recoveredRow]
  split <;> exact nofun

instance : Std.Refl (OutboxOnly IdleMove) := ⟨.refl fun _ => .inl rfl⟩

instance : IsTrans DesktopStore (OutboxOnly IdleMove) := ⟨.trans IdleMove.trans⟩

/-- A blocked notice expires, or is tried again. -/
theorem retryBlockedIf_moves (enabled : Bool) (code : String) :
    Keeps (OutboxOnly IdleMove) (retryBlockedIf engine now enabled code) := by
  have hclaim : ∀ r, blockedBy code r = true → r.status.claimable = true := by
    intro r hr
    simp only [blockedBy, and_eq_true, beq_iff_eq] at hr
    rw [hr.1]
    rfl
  unfold retryBlockedIf
  split
  · refine .bind ?_ fun _ => ?_
    all_goals
      refine OutboxOnly.update_keeps (fun _ => .inl rfl) (fun _ => rfl) fun r hg => ?_
      simp only [and_eq_true] at hg
      exact .inr ⟨⟨rfl, rfl, rfl⟩, hclaim r hg.2, nofun⟩
  · exact .pure _

theorem retryBlockedForRelay_moves (credentials pages target : Bool) : Keeps (OutboxOnly IdleMove)
      (retryBlockedForRelay engine now credentials pages target) := by
  refine .allOrNothing (.bind (retryBlockedIf_moves engine now _ _) fun _ => ?_)
  refine .bind (retryBlockedIf_moves engine now _ _) fun _ => ?_
  exact .bind (retryBlockedIf_moves engine now _ _) fun _ => .pure _

end OutboxRepository

/-! ## The widest quiet scope -/

/-- Every table may change, and any notice may enter that waits to be sent. -/
def Scope.quiet : Scope := ⟨true, true, true, fun r => r.status = .pending⟩

variable {scope : Scope}

/-- Notices that enter pending are within the quiet scope. -/
theorem Scope.le_quiet (h : ∀ r, scope.enters r → r.status = .pending) : scope.Le Scope.quiet :=
  ⟨nofun, nofun, nofun, h⟩

section

variable {engine : DesktopEngine} {tools : Tools} {s : DesktopStore}

/-- An ingestion adds pending notices and ends live ones. -/
theorem IngestEffect.quiet {e : AgentEventEnvelopeV2} {quiet : Int}
    (h : IngestEffect e quiet s s') : Within Scope.quiet s s' := by
  cases h with
  | attends h =>
    refine h.mono (Scope.le_quiet ?_)
    exact fun r hr => hr.2
  | reduces runKey merged t _ _ _ effect =>
    refine effect.within.mono (Scope.le_quiet ?_)
    exact fun r hr => hr.status

/-- Processing an envelope is quiet. -/
theorem process_quiet (policy : Except AppError AgentNotificationPolicy)
    (e : AgentEventEnvelopeV2) (checkpoint : SourceCheckpointUpdate) (hs : s.check = true) :
    Within Scope.quiet s (AgentEventIngestor.process engine tools policy e checkpoint s).2 := by
  rcases process_cases engine tools policy e checkpoint s with hsame | ⟨cfg, outcome, _, hing⟩
  · rw [hsame]
    exact Within.refl _ _
  · exact (ingest_effect hs hing).quiet

/-- So is the finalizer. -/
theorem finalizeBatch_quiet (policy : AgentNotificationPolicy)
    (quota : Option CodexUsageSnapshot) (now : Timestamp) (hs : s.check = true) :
    Within Scope.quiet s (RunFinalizer.finalizeBatch engine tools policy quota now s).2 := by
  refine finalizeBatch_relates (Within.refl _) (Within.trans _) (fun run s s' _ _ h => ?_) hs
  refine h.within.mono (Scope.le_quiet ?_)
  exact fun r hr => hr.2.2

/-- The policy projection ends notices, forgets outputs and writes the privacy
row. -/
def projecting : Scope := ⟨false, true, true, fun _ => False⟩

/-- A cancelled notice was live. -/
theorem cancelLive_acts (kinds : NotificationEventKind → Bool) (now : Timestamp)
    (message : String) : Acts scope (DesktopPolicy.cancelLive engine kinds now message) := by
  refine .bind (.ending (fun r hg => ?_) fun r => ⟨⟨rfl, rfl, rfl⟩, rfl⟩) fun _ => .pure _
  simp only [and_eq_true] at hg
  exact hg.1

/-- Forgetting outputs is part of applying a policy. -/
theorem forgetOutputs_acts : Acts projecting (DesktopStore.forgetOutputs engine) :=
  .execute fun _ hchk => .of_eq hchk rfl rfl (fun _ => rfl) nofun nofun

theorem applyPrivacy_acts (state : CapturePolicyState) :
    Acts projecting (execute engine (DesktopPolicy.applyPrivacy state)) :=
  .execute fun _ hchk => .of_eq hchk rfl rfl (fun _ => rfl) (fun _ => rfl) nofun

theorem project_acts (state : CapturePolicyState) (now later : Timestamp) :
    Acts projecting (DesktopPolicy.project engine state now later) := by
  refine .allOrNothing (.bind .read fun s => .ite (.fail _ _) ?_)
  refine .bind (cancelLive_acts _ _ _) fun _ => ?_
  refine .bind (.onlyIf (.bind forgetOutputs_acts fun _ => cancelLive_acts _ _ _)) fun _ => ?_
  refine .bind (.onlyIf (cancelLive_acts _ _ _)) fun _ => ?_
  exact .onlyIf (applyPrivacy_acts state)

theorem enqueueControl_quiet (kind : NotificationEventKind) (dkey : Text)
    (payload : NotificationPayloadV2) (now : Timestamp) :
    Acts Scope.quiet (OutboxRepository.enqueueControl engine tools kind dkey payload now) :=
  enqueueControl_acts engine tools _ _ _ _ fun _ hr => hr.2.2

end

/-! ## The system -/

structure DesktopWorld where
  store : DesktopStore
  /-- The notices under claim, as their claims returned them. -/
  attempts : List OutboxRow

/-- An operation on the desktop.  A claim is three steps, between which others
may come: `expireDue`, `claim`, and the reading of the content that begins
`finish`. -/
inductive DesktopOp where
  | process (policy : Except AppError AgentNotificationPolicy) (e : AgentEventEnvelopeV2)
      (checkpoint : SourceCheckpointUpdate)
  | passOver (checkpoint : SourceCheckpointUpdate)
  | finalize (policy : AgentNotificationPolicy) (quota : Option CodexUsageSnapshot)
      (now : Timestamp)
  | project (state : CapturePolicyState) (now later : Timestamp)
  | enqueueControl (kind : NotificationEventKind) (dedupeKey : Text)
      (payload : NotificationPayloadV2) (now : Timestamp)
  | expireDue (now : Timestamp)
  | claim (permitted : Bool) (now : Timestamp)
  | finish (raw : OutboxRow) (content : Except AppError NotificationPayloadV2)
      (claimedNow : Timestamp) (result : DeliveryResult) (now : Timestamp)
  | recoverStale (now : Timestamp)
  | retryBlocked (now : Timestamp) (credentialsReady resultPagesReady targetReady : Bool)
  | stop

/-- How an attempt ends: with its delivery, or refused where its content cannot
be read. -/
def endAttempt (engine : DesktopEngine) (tools : Tools) (raw : OutboxRow)
    (content : Except AppError NotificationPayloadV2) (claimedNow : Timestamp)
    (result : DeliveryResult) (now : Timestamp) : Desk Unit :=
  match intoClaim tools.hashes (fun _ => content) claimedNow raw with
  | .ok claim => completeDelivery engine claim result now
  | .error error => refuseClaim engine raw.id error claimedNow

/-- Carry out an operation; an attempt can only be finished while it is under
way. -/
def DesktopOp.next (engine : DesktopEngine) (tools : Tools) (w : DesktopWorld) :
    DesktopOp → Option DesktopWorld
  | .process policy e checkpoint =>
    some { w with
      store := (AgentEventIngestor.process engine tools policy e checkpoint w.store).2 }
  | .passOver checkpoint =>
    some { w with
      store := (AgentEventIngestor.checkpointPolicySkip engine tools checkpoint w.store).2 }
  | .finalize policy quota now =>
    some { w with store := (RunFinalizer.finalizeBatch engine tools policy quota now w.store).2 }
  | .project state now later =>
    some { w with store := (DesktopPolicy.project engine state now later w.store).2 }
  | .enqueueControl kind dedupeKey payload now =>
    some { w with
      store :=
        (OutboxRepository.enqueueControl engine tools kind dedupeKey payload now w.store).2 }
  | .expireDue now => some { w with store := (OutboxRepository.expireDue engine now w.store).2 }
  | .claim permitted now =>
    match OutboxRepository.claimTx engine (pure permitted) now w.store with
    | (.ok (some raw), store) => some ⟨store, w.attempts ++ [raw]⟩
    | (_, store) => some { w with store := store }
  | .finish raw content claimedNow result now =>
    if raw ∈ w.attempts then
      some ⟨(endAttempt engine tools raw content claimedNow result now w.store).2,
        w.attempts.erase raw⟩
    else none
  | .recoverStale now =>
    some { w with store := (recoverStaleClaims engine now w.store).2 }
  | .retryBlocked now credentialsReady resultPagesReady targetReady =>
    some { w with
      store := (retryBlockedForRelay engine now credentialsReady
        resultPagesReady targetReady w.store).2 }
  | .stop => some { w with attempts := [] }

/-- One step, under some engine. -/
def DesktopStep (tools : Tools) (w : DesktopWorld) (op : DesktopOp) (w' : DesktopWorld) : Prop :=
  ∃ engine, op.next engine tools w = some w'

/-- What the operation may do to a notice. -/
def DesktopOp.move : DesktopOp → OutboxRow → OutboxRow → Prop
  | .process .. | .passOver .. | .finalize .. | .project .. | .enqueueControl .. | .stop =>
    QuietMove
  | .expireDue _ | .retryBlocked .. => IdleMove
  | .claim _ now => ClaimMove now
  | .finish raw .. => FinishMove raw.id
  | .recoverStale now => RecoverMove now

/-- The operations of the delivery worker, which change the outbox only. -/
def DesktopOp.delivers : DesktopOp → Bool
  | .expireDue _ | .retryBlocked .. | .claim .. | .finish .. | .recoverStale _ => true
  | .process .. | .passOver .. | .finalize .. | .project .. | .enqueueControl .. | .stop => false

/-- What a step does to the outbox. -/
structure StepMoves (op : DesktopOp) (s s' : DesktopStore) : Prop where
  check : s'.check = true
  notices : RowGrowth OutboxRow.id op.move (Entered fun r => r.status = .pending)
    s.notificationOutbox s'.notificationOutbox

section

variable {tools : Tools} {w w' : DesktopWorld} {op : DesktopOp} {now : Timestamp}
  {raw r : OutboxRow}

/-- What a claim says of its row. -/
theorem intoClaim_eq_ok {hashes : Hashes} {decode : Text → Except AppError NotificationPayloadV2}
    {claim : OutboxClaim} (h : intoClaim hashes decode now raw = .ok claim) :
    claim.id = raw.id ∧ claim.attemptCount = raw.attemptCount ∧
      claim.claimedAt = raw.claimedAt.getD now ∧ claim.expiresAt = raw.expiresAt := by
  unfold intoClaim at h
  split at h
  · cases h
  split at h
  · cases h
  obtain ⟨payload, _, hrest⟩ := except_bind_eq_ok.mp h
  obtain ⟨_, _, hclaim⟩ := except_bind_eq_ok.mp hrest
  cases hclaim
  exact ⟨rfl, rfl, rfl, rfl⟩

/-- However an attempt ends, it moves its own notice. -/
theorem endAttempt_moves {content : Except AppError NotificationPayloadV2} {claimedNow : Timestamp}
    {res : DeliveryResult} : Keeps (OutboxOnly (FinishMove raw.id))
      (endAttempt engine tools raw content claimedNow res now) := by
  unfold endAttempt
  cases hclaim : intoClaim tools.hashes (fun _ => content) claimedNow raw with
  | ok claim =>
    rw [← (intoClaim_eq_ok hclaim).1]
    exact completeDelivery_moves engine now claim res
  | error error => exact refuseClaim_moves engine claimedNow raw.id error

section

variable (h : DesktopStep tools w op w')

include h

/-- What a step of the delivery worker does. -/
theorem delivery_moves (hop : op.delivers = true) : OutboxOnly op.move w.store w'.store := by
  obtain ⟨engine, hnext⟩ := h
  cases op with
  | expireDue now =>
    cases hnext
    exact expireDue_moves engine now w.store
  | claim permitted now =>
    have hclaim := claimTx_moves engine now permitted w.store
    simp only [DesktopOp.next] at hnext
    split at hnext
    · rename_i raw store hrun
      cases hnext
      rw [hrun] at hclaim
      exact hclaim
    · rename_i answer store _ hrun
      cases hnext
      rw [hrun] at hclaim
      exact hclaim
  | finish =>
    obtain ⟨_, rfl⟩ := of_guard hnext
    exact endAttempt_moves w.store
  | recoverStale now =>
    cases hnext
    exact recoverStaleClaims_moves engine now w.store
  | retryBlocked now =>
    cases hnext
    exact retryBlockedForRelay_moves engine now _ _ _ w.store
  | process | passOver | finalize | project | enqueueControl | stop => cases hop

/-- What a step of the others does. -/
theorem quiet_moves (hop : op.delivers = false)
    (hs : w.store.check = true) : Within Scope.quiet w.store w'.store := by
  obtain ⟨engine, hnext⟩ := h
  cases op with
  | process =>
    cases hnext
    exact process_quiet _ _ _ hs
  | passOver =>
    cases hnext
    refine Acts.allOrNothing (.bind ?_ fun _ => .pure _) w.store
    exact SourceRepository.checkpoint_acts engine tools _ _
  | finalize =>
    cases hnext
    exact finalizeBatch_quiet _ _ _ hs
  | project state now later =>
    cases hnext
    refine (project_acts state now later w.store).mono ?_
    exact Scope.le_quiet fun _ hfalse => hfalse.elim
  | enqueueControl =>
    cases hnext
    exact enqueueControl_quiet _ _ _ _ w.store
  | stop =>
    cases hnext
    exact Within.refl _ _
  | expireDue | claim | finish | recoverStale | retryBlocked => cases hop

/-- What every step does to the outbox. -/
theorem step_moves (hs : w.store.check = true) : StepMoves op w.store w'.store := by
  cases hop : op.delivers with
  | true =>
    have hdelivery := delivery_moves h hop
    exact
      { check := hdelivery.check hs
        notices := hdelivery.notices.mono (fun _ _ hmove => hmove) fun _ hfalse => hfalse.elim }
  | false =>
    have hquiet := quiet_moves h hop hs
    have hmove : op.move = QuietMove := by cases op <;> first | rfl | cases hop
    exact
      { check := hquiet.check hs
        notices := by
          rw [hmove]
          exact hquiet.notices }

end

/-- No operation moves a notice that has ended. -/
theorem DesktopOp.move_life (h : op.move r r') : LifeMove r r' := by
  cases op with
  | process | passOver | finalize | project | enqueueControl | stop => exact QuietMove.life h
  | expireDue | retryBlocked => exact IdleMove.life h
  | claim => exact ClaimMove.life h
  | finish => exact FinishMove.life h
  | recoverStale => exact RecoverMove.life h

/-- A notice that has ended stays as it is. -/
theorem ended_stays (h : DesktopStep tools w op w') (hs : w.store.check = true)
    (hr : r ∈ w.store.notificationOutbox) (hended : r.status.live = false) :
    r ∈ w'.store.notificationOutbox := by
  obtain ⟨r', hr', _, hmove⟩ := (step_moves h hs).notices.kept r hr
  rw [← (DesktopOp.move_life hmove).2 hended]
  exact hr'

variable {labels : List DesktopOp} {permitted : Bool}

/-- It stays so for ever. -/
theorem ended_stays_run (h : Run (DesktopStep tools) w labels w') (hs : w.store.check = true)
    (hr : r ∈ w.store.notificationOutbox) (hended : r.status.live = false) :
    r ∈ w'.store.notificationOutbox := by
  have hkept := Run.invariant (I := fun w => w.store.check = true ∧ r ∈ w.store.notificationOutbox)
    (fun w op w' hstep hw => ⟨(step_moves hstep hw.1).check, ended_stays hstep hw.1 hw.2 hended⟩)
    h ⟨hs, hr⟩
  exact hkept.2

/-- The notice that a claim takes, as it was before. -/
theorem claim_takes (h : DesktopStep tools w (.claim permitted now) w')
    (hraw : w'.attempts = w.attempts ++ [raw]) :
    ∃ chosen ∈ w.store.notificationOutbox, ready now chosen = true ∧
      raw = claimedAtNow now chosen ∧ raw ∈ w'.store.notificationOutbox := by
  obtain ⟨engine, hnext⟩ := h
  simp only [DesktopOp.next] at hnext
  split at hnext
  · rename_i taken store hrun
    cases hnext
    obtain rfl : taken = raw := by simpa using hraw
    exact claimTx_eq_some engine now hrun
  · cases hnext
    simp at hraw

/-- A notice that has ended is never claimed. -/
theorem ended_not_claimed {w1 : DesktopWorld} (h : Run (DesktopStep tools) w labels w1)
    (hs : w.store.check = true) (hr : r ∈ w.store.notificationOutbox)
    (hended : r.status.live = false) (hclaim : DesktopStep tools w1 (.claim permitted now) w')
    (hraw : w'.attempts = w1.attempts ++ [raw]) : raw.id ≠ r.id := by
  intro hid
  have hstays := ended_stays_run h hs hr hended
  have hs1 : w1.store.check = true :=
    Run.invariant (I := fun w => w.store.check = true)
      (fun _ _ _ hstep hw => (step_moves hstep hw).check) h hs
  obtain ⟨chosen, hchosen, hready, rfl, _⟩ := claim_takes hclaim hraw
  have hsame : chosen = r :=
    (DesktopStore.valid_of_check hs1).noticeIds.eq_of_key hchosen hstays hid
  rw [hsame] at hready
  rw [OutboxRowStatus.live_of_claimable (claimable_of_ready hready)] at hended
  cases hended

end

/-! ## A desktop to run -/

/-- A digest of a number, for concrete runs. -/
def numberDigest (n : Nat) : Text :=
  HexText.hexDigits 64 n

/-- The sample digests have the right form. -/
theorem isDigest_numberDigest (n : Nat) : isDigest (numberDigest n) = true := by
  rw [isDigest, numberDigest, HexText.hexDigits_length, List.all_eq_true.mpr]
  · rfl
  · exact HexText.forall_mem_hexDigits (by decide) 64 n

/-- The bytes as one number. -/
def bytesNumber (bytes : List UInt8) : Nat :=
  bytes.foldl (fun n b => 257 * n + b.toNat) 0

/-- Libraries simple enough to compute with. -/
def sampleTools : Tools where
  hashes :=
    { blake3 := fun bytes => numberDigest (bytesNumber bytes)
      sha256 := fun bytes => numberDigest (bytesNumber bytes)
      blake3_digest := fun _ => isDigest_numberDigest _
      sha256_digest := fun _ => isDigest_numberDigest _ }
  platform :=
    { redactSecrets := id
      localTime := fun _ => none
      localReset := fun _ => none
      fileName := some
      upperCase := fun c => [c] }
  crypto :=
    { protectMetadata := fun _ => .ok []
      unprotectMetadata := fun _ => .ok ⟨.none, none⟩
      protectPayload := fun _ => .ok []
      unprotectPayload := fun _ => .error ⟨"PROTECTED_CONTENT_UNAVAILABLE", ""⟩
      protectOutput := .ok
      unprotectOutput := fun t => .ok (some t) }
  encodeMeaning := fun _ => []

/-- A desktop with nothing stored and nothing under way. -/
def DesktopWorld.initial : DesktopWorld := ⟨DesktopStore.initial, []⟩

/-- Carry out operations in order, under an engine without faults. -/
def sampleRun (w : DesktopWorld) (ops : List DesktopOp) : Option DesktopWorld :=
  replay (fun w op => op.next desktopSqlite sampleTools w) w ops

variable {w w' : DesktopWorld}

/-- A replayed sample is a run. -/
theorem run_of_sampleRun {ops : List DesktopOp} (h : sampleRun w ops = some w') :
    Run (DesktopStep sampleTools) w ops w' :=
  (run_of_replay h).mono fun _ _ _ hnext => ⟨desktopSqlite, hnext⟩

theorem step_of_sampleRun {op : DesktopOp} (h : sampleRun w [op] = some w') :
    DesktopStep sampleTools w op w' := by
  obtain ⟨_, hnext, hend⟩ := Option.bind_eq_some_iff.mp h
  cases hend
  exact ⟨desktopSqlite, hnext⟩

def sampleSource : SourceDescriptor := ⟨text "codex", text "hooks", text "inbox", text "main"⟩

/-- An event about the run `r`. -/
def sampleEvent (eventId : String) (occurredAt : Timestamp) (payload : AgentEventPayloadV2) :
    AgentEventEnvelopeV2 where
  schemaVersion := agentEventSchemaVersion
  source := sampleSource
  eventId := text eventId
  occurredAt := occurredAt
  observedAt := occurredAt
  correlation := ⟨none, some (text "r"), none, none, none⟩
  payload := payload
  metadata := none

/-- Every notice is wanted. -/
def samplePolicy : AgentNotificationPolicy :=
  ⟨{ NotificationSettings.standard with enabled := true, attentionEnabled := true }, .statusOnly⟩

def sampleCheckpoint (updatedAt : Timestamp) : SourceCheckpointUpdate where
  source := sampleSource
  cursorJson := []
  sourceRevision := none
  status := .active
  lastErrorCode := none
  updatedAt := updatedAt

/-- Ingest an event about the run `r`. -/
def ingestAt (eventId : String) (now : Timestamp) (payload : AgentEventPayloadV2) : DesktopOp :=
  .process (.ok samplePolicy) (sampleEvent eventId now payload) (sampleCheckpoint now)

/-- The agent starts the run `r`. -/
def sampleStart : DesktopOp :=
  ingestAt "a" 0 (.runStarted ⟨text "c", none, none, none, none⟩)

/-- The agent stops, for now. -/
def sampleSettling (eventId : String) (now : Timestamp) : DesktopOp :=
  ingestAt eventId now (.runSettling ⟨.agentStopHook, none⟩)

/-- What an attempt sends. -/
def samplePayload : NotificationPayloadV2 :=
  { NotificationPayloadV2.forRun [] none none none none none with
    title := text "t", body := text "b" }

end PromptDock.Desktop
