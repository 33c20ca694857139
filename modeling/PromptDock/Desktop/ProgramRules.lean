import Mathlib.Logic.Relation
import PromptDock.Desktop.DesktopRelay

/-!
# Relations that the desktop's programs keep

The programs of the desktop are put together from a few statements: rows put into
the tables beside the outbox, live notices moved along, one event, output or
notice added, the outputs forgotten and the privacy row written.  `DeskRules` asks
of a relation on stores that each of these respects it; every program then does,
whatever the relation.  Only the acceptance of a notice by a transport writes more
(`finishAccepted`), and is left to the caller.  `RetentionRules` does the same for
the two passes of retention, `ConnectionRules` for the probes and reconfigurations
of the relay runtime.

`relayStep_database` says once what any operation at the relay does to the
database, as a sequence of such programs (`DatabaseStep`).
-/

namespace PromptDock.Desktop

open StoreAction TableStatement OutboxRepository DesktopStore AgentEventIngestor RelayWorld
  StoreAction.Action LabelledRun Option

/-- Every statement of the desktop's programs respects the relation.  Rows that
the capacity bounds are added where it admits them; a notice may also be passed
over because its key is taken. -/
structure DeskRules (engine : DesktopEngine) (tools : Tools)
    (R : DesktopStore → DesktopStore → Prop) : Prop extends SourceRules engine R where
  runs : ∀ s rows, (runTable.put s rows).check = true →
    R s (runTable.put s rows)
  attention : ∀ s rows, (attentionTable.put s rows).check = true →
    R s (attentionTable.put s rows)
  presentation : ∀ s rows, (presentationTable.put s rows).check = true →
    R s (presentationTable.put s rows)
  moving : ∀ {guard : OutboxRow → Bool} {change : OutboxRow → OutboxRow},
    (∀ r, guard r = true → r.status.live = true) → (∀ r, MovedAs r (change r)) →
    Keeps R (update engine outboxTable (fun _ => guard) change : Desk Nat)
  output : ∀ row s, Admits s row.contentBytes → R s (recordOutput engine row s).2
  notice : ∀ (input : NotificationInsert) json s,
    (Admits s input.payload.contentBytes ∨
      s.notificationOutbox.any (fun r => r.dedupeKey == input.dedupeKey) = true) →
    R s (recordNotice engine (input.row tools.hashes json) s).2
  forget : Keeps R (forgetOutputs engine)
  privacy : ∀ state,
    Keeps R (execute engine (DesktopPolicy.applyPrivacy state) : Desk Unit)

variable {engine : DesktopEngine} {tools : Tools}

namespace DeskRules

variable {R : DesktopStore → DesktopStore → Prop} [Std.Refl R] [IsTrans DesktopStore R]
  (rules : DeskRules engine tools R)

include rules

/-! ## The repositories -/

/-- Where the two stores are one, the rules are those of an ingestion. -/
theorem ingestion (s0 : DesktopStore) : IngestRules engine tools (Reached R s0) where
  same _ _ := reached_same
  usage runKey := ((latestCodexUsage_reads tools runKey).keeps rules.refl).paired rules.trans
    Eq.refl
  append e := (rules.appendEvent tools e).paired rules.trans SameAppend.refl
  checkpoint source change := (rules.checkpoint tools source change).paired rules.trans Eq.refl
  updateRun _ _ := Keeps.paired rules.trans Eq.refl (update_keeps_put rules.runs _ _)
  insertRun _ := Keeps.paired rules.trans Eq.refl (insert_keeps_put rules.runs _)
  attention _ := Keeps.paired rules.trans Eq.refl (insert_keeps_put rules.attention _)
  present _ _ := Keeps.paired rules.trans Eq.refl (update_keeps_put rules.presentation _ _)
  presentNew _ _ := Keeps.paired rules.trans Eq.refl
    (insertUnless_keeps fun s _ hchk => rules.presentation s _ hchk)
  ending hlive hends := (rules.moving hlive fun r => (hends r).1).paired rules.trans Eq.refl
  notice input json s t h hadmits := by
    obtain ⟨rfl, hs⟩ := h
    exact Reached.after rules.trans Eq.refl hs (rules.notice input json s hadmits)

omit [Std.Refl R] [IsTrans DesktopStore R] in
/-- Outputs are stored where the capacity admits them. -/
theorem storing (s0 : DesktopStore) : IngestRules.Stores engine (Reached R s0) := by
  rintro row s _ ⟨rfl, hs⟩ hadm
  exact Reached.after rules.trans Eq.refl hs (rules.output row s hadm)

/-- A test notice is one more notice. -/
theorem enqueueControl (kind : NotificationEventKind) (dkey : Text)
    (payload : NotificationPayloadV2) (now : Timestamp) :
    Keeps R (OutboxRepository.enqueueControl engine tools kind dkey payload now) :=
  Paired.keeps rules.refl fun s0 => (rules.ingestion s0).enqueueControl _ _ _ _

/-- Processing an envelope is made of the statements above. -/
theorem process (e : AgentEventEnvelopeV2) (saved : Except AppError AgentNotificationPolicy)
    (checkpoint : SourceCheckpointUpdate) :
    Keeps R (AgentEventIngestor.process engine tools saved e checkpoint) :=
  Paired.keeps rules.refl fun s0 => (rules.ingestion s0).process _ (rules.storing s0) _ _

/-- A skipped envelope moves its checkpoint alone. -/
theorem checkpointPolicySkip (checkpoint : SourceCheckpointUpdate) :
    Keeps R (checkpointPolicySkip engine tools checkpoint) :=
  .allOrNothing (.bind (rules.checkpoint tools _ _) fun _ => .pure _)

/-! ## The finalizer and the policy -/

section

variable (policy : AgentNotificationPolicy) (quota : Option CodexUsageSnapshot) (now : Timestamp)

/-- A finalized run is stored, its unsent notices end, and its end is announced. -/
theorem finalizeRun (run : AgentRunRecord) :
    Keeps R (RunFinalizer.finalizeRun engine tools policy quota run now) :=
  Paired.keeps rules.refl fun s0 => (rules.ingestion s0).finalizeRun _ _ _ _

/-- Runs that are not due are passed over. -/
theorem finalizeAll (runs : List AgentRunRecord) :
    Keeps R (RunFinalizer.finalizeAll engine tools policy quota now runs) := by
  induction runs with
  | nil => exact .pure _
  | cons current rest ih =>
    unfold RunFinalizer.finalizeAll
    cases finalizeDueRun current now with
    | none => exact ih
    | some =>
      refine .bind (rules.finalizeRun _ _ _ _) fun changed => ?_
      exact .bind ih fun _ => .pure _

theorem finalizeBatch : Keeps R (RunFinalizer.finalizeBatch engine tools policy quota now) := by
  refine .allOrNothing (.bind .read fun s => ?_)
  refine .bind ((requireApplied_reads _).keeps rules.refl) fun _ => ?_
  refine .bind (rules.finalizeAll _ _ _ _) fun _ => ?_
  exact .bind .read fun _ => .pure _

end

/-- Live notices of some kinds are cancelled. -/
theorem cancelLive (kinds : NotificationEventKind → Bool) (now : Timestamp) (message : String) :
    Keeps R (DesktopPolicy.cancelLive engine kinds now message) := by
  refine .bind (rules.moving (fun r hg => ?_) fun r => rfl) fun _ => .pure _
  simp only [Bool.and_eq_true] at hg
  exact hg.1

/-- Applying a policy cancels, forgets and stores the policy. -/
theorem project (state : CapturePolicyState) (now later : Timestamp) :
    Keeps R (DesktopPolicy.project engine state now later) := by
  refine .allOrNothing (.bind .read fun s => .ite (.reject _) ?_)
  refine .bind (rules.cancelLive _ _ _) fun _ => ?_
  refine .bind (.onlyIf fun _ => .bind rules.forget fun _ => rules.cancelLive _ _ _) fun _ => ?_
  refine .bind (.onlyIf fun _ => rules.cancelLive _ _ _) fun _ => ?_
  exact .onlyIf fun _ => rules.privacy state

/-! ## Delivering -/

section

variable (now : Timestamp)

omit [Std.Refl R] [IsTrans DesktopStore R] in
/-- Expired notices move along. -/
theorem expireDue : Keeps R (expireDue engine now) := by
  refine rules.moving (fun r hg => ?_) fun r => rfl
  simp only [Bool.and_eq_true] at hg
  exact OutboxRowStatus.live_of_claimable hg.2

/-- A claim is one move of one notice. -/
theorem claimTx (permitted : Bool) : Keeps R (claimTx engine (Pure.pure permitted) now) := by
  refine .allOrNothing (.bind (.pure _) fun _ => .ite (.pure _) ?_)
  refine .bind .read fun s => ?_
  split
  · exact .pure _
  refine .bind (rules.moving (fun r hg => ?_) fun r => rfl) fun _ => .pure _
  simp only [Bool.and_eq_true] at hg
  exact OutboxRowStatus.live_of_claimable (claimable_of_ready hg.2)

/-- A notice that is being sent moves along. -/
theorem finishWhere {id : Text} {guard : OutboxRow → Bool} {change : OutboxRow → OutboxRow}
    (hg : ∀ r, guard r = true → r.id = id ∧ r.status = .sending)
    (hchg : ∀ r, MovedAs r (change r)) : Keeps R (finishWhere engine guard change) := by
  refine .bind (rules.moving (fun r hr => ?_) hchg) fun _ => .ite (.reject _) (.pure _)
  rw [(hg r hr).2]
  rfl

theorem finishSending (id : Text) (status : OutboxRowStatus) (nextAttemptAt : Option Timestamp)
    (code message : String) : Keeps R
      (finishSending engine id status now nextAttemptAt code message) := by
  have hg : ∀ r, sendingRow id r = true → r.id = id ∧ r.status = .sending := by
    simp [sendingRow]
  exact rules.finishWhere hg fun r => rfl

variable (claim : OutboxClaim)

/-- A retry puts the notice off, or gives it up. -/
theorem retryWithSchedule (schedule : List Int) (code message : String) : Keeps R
      (OutboxRepository.retryWithSchedule engine claim now schedule code message) := by
  unfold OutboxRepository.retryWithSchedule
  split
  · exact rules.finishSending now _ _ _ _ _
  · exact rules.finishSending now _ _ _ _ _

/-- Every result but an acceptance moves the notice along. -/
theorem completeDelivery (res : DeliveryResult) (hacc : ∀ acceptance, res = .accepted acceptance →
      Keeps R (finishAccepted engine claim.id acceptance now)) :
    Keeps R (OutboxRepository.completeDelivery engine claim res now) := by
  unfold OutboxRepository.completeDelivery
  cases res with
  | accepted acceptance => exact hacc acceptance rfl
  | held => exact rules.finishWhere (fun r => sending_of_heldUnder claim) fun r => rfl
  | retryable retry =>
    refine .ite (rules.finishSending now _ _ _ _ _) ?_
    dsimp only
    cases retry.policy with
    | networkBackoff | rateLimitBackoff => exact rules.retryWithSchedule now claim _ _ _
    | limited => exact .ite (rules.finishSending now _ _ _ _ _) (rules.finishSending now _ _ _ _ _)
  | blocked | permanentFailure | cancelled | policyRevoked =>
    exact .ite (rules.finishSending now _ _ _ _ _) (rules.finishSending now _ _ _ _ _)

/-- A claim that is refused moves the notice along. -/
theorem refuseClaim (id : Text) (error : AppError) : Keeps R (refuseClaim engine id error now) :=
  .ite (rules.finishSending now _ _ _ _ _) (rules.finishSending now _ _ _ _ _)

/-- An attempt ends as its result says; acceptance is left to the caller. -/
theorem endAttempt (raw : OutboxRow) (content : Except AppError NotificationPayloadV2)
    (claimedNow : Timestamp) (res : DeliveryResult)
    (hacc : ∀ acceptance, res = .accepted acceptance →
      Keeps R (finishAccepted engine raw.id acceptance now)) :
    Keeps R (Desktop.endAttempt engine tools raw content claimedNow res now) := by
  unfold Desktop.endAttempt
  cases hclaim : intoClaim tools.hashes (fun _ => content) claimedNow raw with
  | ok claim =>
    rw [← (intoClaim_eq_ok hclaim).1] at hacc
    exact rules.completeDelivery now claim res hacc
  | error error => exact rules.refuseClaim claimedNow raw.id error

omit [Std.Refl R] [IsTrans DesktopStore R] in
/-- Stale claims move along. -/
theorem recoverStaleClaims : Keeps R (recoverStaleClaims engine now) := by
  refine rules.moving (fun r hg => ?_) fun r => rfl
  simp only [staleClaim, Bool.and_eq_true, beq_iff_eq] at hg
  rw [hg.1]
  rfl

/-- Blocked notices expire, or are tried again. -/
theorem retryBlockedIf (enabled : Bool) (code : String) :
    Keeps R (retryBlockedIf engine now enabled code) := by
  have hlive : ∀ r, blockedBy code r = true → r.status.live = true := by
    intro r hr
    simp only [blockedBy, Bool.and_eq_true, beq_iff_eq] at hr
    rw [hr.1]
    rfl
  refine .ite (.bind (rules.moving (fun r hg => ?_) fun r => rfl)
    fun _ => rules.moving (fun r hg => ?_) fun r => rfl) (.pure _)
  all_goals
    simp only [Bool.and_eq_true] at hg
    exact hlive r hg.2

theorem retryBlockedForRelay (credentials pages target : Bool) : Keeps R
      (retryBlockedForRelay engine now credentials pages target) := by
  refine .allOrNothing (.bind (rules.retryBlockedIf _ _ _) fun _ => ?_)
  refine .bind (rules.retryBlockedIf _ _ _) fun _ => ?_
  exact .bind (rules.retryBlockedIf _ _ _) fun _ => .pure _

end

/-! ## The operations beside the relay runtime -/

/-- **Every operation keeps the relation**, given that acceptance does. -/
theorem next {w w' : DesktopWorld} {op : DesktopOp} (hnext : op.next engine tools w = some w')
    (hacc : ∀ raw content claimedNow acceptance now,
      op = .finish raw content claimedNow (.accepted acceptance) now →
      Keeps R (finishAccepted engine raw.id acceptance now)) : R w.store w'.store := by
  cases op with
  | process policy e checkpoint =>
    cases hnext
    exact rules.process e policy checkpoint w.store
  | passOver checkpoint =>
    cases hnext
    exact rules.checkpointPolicySkip checkpoint w.store
  | finalize policy quota now =>
    cases hnext
    exact rules.finalizeBatch policy quota now w.store
  | project state now later =>
    cases hnext
    exact rules.project state now later w.store
  | enqueueControl kind dkey payload now =>
    cases hnext
    exact rules.enqueueControl kind dkey payload now w.store
  | expireDue now =>
    cases hnext
    exact rules.expireDue now w.store
  | claim permitted now =>
    have hclaim := rules.claimTx now permitted w.store
    simp only [DesktopOp.next] at hnext
    split at hnext
    · rename_i raw store hrun
      cases hnext
      rw [hrun] at hclaim
      exact hclaim
    · rename_i answer store _ hrun
      cases hnext
      rw [hrun] at hclaim
      exact hclaim
  | finish raw content claimedNow res now =>
    obtain ⟨_, rfl⟩ := of_guard hnext
    refine rules.endAttempt now raw content claimedNow res (fun acceptance hres => ?_) _
    exact hacc raw content claimedNow acceptance now (by rw [hres])
  | recoverStale now =>
    cases hnext
    exact rules.recoverStaleClaims now w.store
  | retryBlocked now =>
    cases hnext
    exact rules.retryBlockedForRelay now _ _ _ w.store
  | stop =>
    cases hnext
    exact rules.refl _

end DeskRules

/-! ## Retention -/

/-- What retention does to content, outputs and events respects the relation. -/
structure ScrubRules (R : DesktopDatabase → DesktopDatabase → Prop) : Prop
    extends Along R where
  scrubOutputs : ∀ p d, R d (d.scrubOutputs p)
  scrubNotices : ∀ p json now d, R d (d.scrubNotices p json now)
  scrubEvent : ∀ id json now d, R d (d.scrubEvent id json now)
  dropOutputs : ∀ p d, R d (d.dropOutputs p)
  dropEvents : ∀ p d, R d (d.dropEvents p)

/-- And so does what it does to notices and runs. -/
structure RetentionRules (R : DesktopDatabase → DesktopDatabase → Prop) : Prop
    extends ScrubRules R where
  dropNotices : ∀ p d, R d (d.dropNotices p)
  dropRuns : ∀ p d, R d (d.dropRuns p)

section

variable {R : DesktopDatabase → DesktopDatabase → Prop} (engine : DatabaseEngine) (tools : Tools)

namespace ScrubRules

variable [Std.Refl R] [IsTrans DesktopDatabase R]

/-- A batch is read, then one statement runs on it. -/
theorem onBatch {ρ κ : Type} [BEq κ] {rows : DesktopDatabase → List ρ} {key : ρ → κ}
    {before : ρ → ρ → Bool} {due : DesktopDatabase → ρ → Bool}
    {stmt : (ρ → Bool) → DesktopDatabase → DesktopDatabase} (h : ∀ p d, R d (stmt p d)) :
    Keeps R (Retention.onBatch engine rows key before due stmt) :=
  .bind .read fun _ => .bind (.execute fun d _ => h _ d) fun _ => .pure _

variable (rules : ScrubRules R)

include rules

/-- Each payload is replaced by a cleared one. -/
theorem scrubPayloadsOf (now : Timestamp) (ids : List Text) :
    Keeps R (Retention.scrubPayloadsOf engine tools now ids) := by
  induction ids with
  | nil => exact .pure _
  | cons id rest ih =>
    unfold Retention.scrubPayloadsOf
    cases tools.crypto.protectPayload Retention.clearedPayload with
    | error => exact .reject _
    | ok json =>
      refine .bind .read fun d => .bind ?_ fun _ => ?_
      · exact .execute fun d' _ => rules.scrubNotices _ json now d'
      · exact .bind ih fun _ => .pure _

theorem scrubOutboxPayloads (bodyCutoff now : Timestamp) :
    Keeps R (Retention.scrubOutboxPayloads engine tools bodyCutoff now) :=
  .bind .read fun _ => rules.scrubPayloadsOf engine tools now _

/-- Events whose metadata cannot be read are passed over. -/
theorem scrubMetadataOf (now : Timestamp) (rows : List AgentEventRow) :
    Keeps R (Retention.scrubMetadataOf engine tools now rows) := by
  induction rows with
  | nil => exact .pure _
  | cons row rest ih =>
    unfold Retention.scrubMetadataOf
    cases tools.crypto.unprotectMetadata row.metadataJson with
    | error => exact ih
    | ok metadata =>
      cases hmetadata : tools.crypto.protectMetadata (Retention.retainedMetadata metadata) with
      | error =>
        simp only [hmetadata]
        exact .reject _
      | ok json =>
        simp only [hmetadata]
        refine .bind .read fun d => .bind ?_ fun _ => ?_
        · exact .execute fun d' _ => rules.scrubEvent _ json now d'
        · exact .bind ih fun _ => .pure _

theorem scrubEventMetadata (bodyCutoff now : Timestamp) :
    Keeps R (Retention.scrubEventMetadata engine tools bodyCutoff now) :=
  .bind .read fun _ => rules.scrubMetadataOf engine tools now _

end ScrubRules

namespace RetentionRules

variable [Std.Refl R] [IsTrans DesktopDatabase R] (rules : RetentionRules R)

include rules

/-- Notices past their term are dropped by one statement. -/
theorem pruneRetained (now : Timestamp) : Keeps R (pruneRetained engine now) := by
  refine .allOrNothing (.bind .read fun d => .bind ?_ fun _ => .pure _)
  exact .execute fun d' _ => rules.dropNotices _ d'

/-- One batch of a retention pass. -/
theorem pruneBatch (now : Timestamp) : Keeps R (Retention.pruneBatch engine tools now) := by
  refine .allOrNothing (.bind (ScrubRules.onBatch engine rules.scrubOutputs) fun _ => ?_)
  refine .bind (rules.scrubOutboxPayloads engine tools _ now) fun _ => ?_
  refine .bind (rules.scrubEventMetadata engine tools _ now) fun _ => ?_
  refine .bind (ScrubRules.onBatch engine rules.dropOutputs) fun _ => ?_
  refine .bind (ScrubRules.onBatch engine rules.dropEvents) fun _ => ?_
  exact .bind (ScrubRules.onBatch engine rules.dropRuns) fun _ => .pure _

end RetentionRules

end

/-! ## The connection to the relay -/

/-- Probes and reconfigurations respect the relation: they change what is known of
the relay, and lift blocks. -/
structure ConnectionRules (engine : DesktopEngine) (R : RelayWorld → RelayWorld → Prop) : Prop
    extends Along R where
  facts : ∀ w status profile revision,
    R w { w with status := status, profile := profile, credentialRevision := revision }
  resume : ∀ previous current replaced now,
    Keeps R (onStore (resumeBlockedDelivery engine previous current replaced now))

namespace ConnectionRules

variable {R : RelayWorld → RelayWorld → Prop} [Std.Refl R] [IsTrans RelayWorld R]
  (rules : ConnectionRules engine R)

include rules

omit [Std.Refl R] [IsTrans RelayWorld R] in
/-- Facts about the relay may change. -/
theorem amendStatus (change : RelayStatus → RelayStatus) : Keeps R (Desktop.amendStatus change) :=
  fun w => rules.facts w _ w.profile w.credentialRevision

theorem recordLocalFailure (code : String) : Keeps R (RelayRuntime.recordLocalFailure code) :=
  .bind .read fun _ => rules.amendStatus _

/-- A probe is noted and may resume deliveries. -/
theorem commitProbe (resumeDelivery : Bool) (probe : RelayProbeResult) (checkedAt now : Timestamp) :
    Keeps R (RelayRuntime.commitProbe engine resumeDelivery probe checkedAt now) := by
  refine .bind .read fun w => .ite ?_ ?_
  · exact .bind (rules.amendStatus _) fun _ => .reject _
  refine .bind (rules.amendStatus _) fun _ => ?_
  refine .bind (.onlyIf fun _ => ?_) fun _ => .pure _
  exact .bind (rules.resume _ _ _ _) fun _ => .pure _

/-- A probe is given up, noted as failed, or committed. -/
theorem probeConnection (resumeDelivery : Bool) (run : ProbeRun) :
    Keeps R (RelayRuntime.probeConnection engine resumeDelivery run) := by
  refine .bind .read fun w => .ite (.pure _) (.ite ?_ (.ite (.pure _) ?_))
  · exact .bind (rules.recordLocalFailure _) fun _ => .reject _
  split
  · exact .bind (rules.recordLocalFailure _) fun _ => .reject _
  · exact .bind (rules.amendStatus _) fun _ => .reject _
  · exact .bind (rules.amendStatus _) fun _ => .reject _
  split
  · exact rules.commitProbe _ _ _ _
  · exact .bind (rules.amendStatus _) fun _ => .reject _

/-- A new connection changes facts and may resume deliveries. -/
theorem configure (run : ConfigureRun) : Keeps R (RelayRuntime.configure engine run) := by
  refine .bind .read fun w => .ite (.reject _) ?_
  split
  · exact .reject _
  · exact .reject _
  refine .ite (.reject _) (.ite (.reject _) (.bind ?_ fun _ => ?_))
  · refine .bind .read fun w => .ite (.reject _) (.ite (.reject _) ?_)
    exact fun w => rules.facts w w.status _ _
  · refine .bind (rules.amendStatus _) fun _ => ?_
    exact .bind (rules.resume _ _ _ _) fun _ => .pure _

end ConnectionRules

/-! ## What an operation does to the database -/

/-- One program on the database.  Deliveries end with acceptances that `accepts`
admits. -/
inductive DatabaseStep (tools : Tools) (accepts : TransportAcceptance → Prop)
    (d : DesktopDatabase) : DesktopDatabase → Prop where
  | desktop (engine : DesktopEngine) (op : DesktopOp) (desk desk' : DesktopWorld)
      (hstore : desk.store = d.store) (hnext : op.next engine tools desk = some desk')
      (haccepts : ∀ raw content claimedNow acceptance now,
        op = .finish raw content claimedNow (.accepted acceptance) now → accepts acceptance) :
      DatabaseStep tools accepts d ⟨desk'.store, d.publications⟩
  | resume (engine : DesktopEngine) (previous current : RelayStatus) (replaced : Bool)
      (now : Timestamp) :
      DatabaseStep tools accepts d
        ⟨(resumeBlockedDelivery engine previous current replaced now d.store).2, d.publications⟩
  | register (engine : DatabaseEngine) (submission : Submission) :
      DatabaseStep tools accepts d (ResultStore.register engine submission d).2
  | receipt (engine : DatabaseEngine) (outboxId : Text) (receipt : RelayResultReceipt)
      (allowed : Bool) (completion : Option (ResultAction × Text)) :
      DatabaseStep tools accepts d
        (ResultStore.applyInner engine outboxId receipt allowed completion d).2
  | action (engine : DatabaseEngine) (outboxId : Text) (action : ResultAction) (requestId : Text) :
      DatabaseStep tools accepts d
        (ResultStore.registerAction engine outboxId action requestId d).2
  | remoteStatus (engine : DatabaseEngine) (u : RelayRemoteStatusUpdate) :
      DatabaseStep tools accepts d (applyRelayRemoteStatus engine u d).2
  | pruneRetained (engine : DatabaseEngine) (now : Timestamp) :
      DatabaseStep tools accepts d (pruneRetained engine now d).2
  | pruneBatch (engine : DatabaseEngine) (now : Timestamp) :
      DatabaseStep tools accepts d (Retention.pruneBatch engine tools now d).2

/-- The result of an attempt that waits to be recorded. -/
def RelayWorld.mayAccept (w : RelayWorld) (acceptance : TransportAcceptance) : Prop :=
  ∃ a ∈ w.answered, a.result = .accepted acceptance

/-- Programs on the database, one after another. -/
abbrev DatabaseRun (tools : Tools) (w : RelayWorld) : DesktopDatabase → DesktopDatabase → Prop :=
  Relation.ReflTransGen (DatabaseStep tools w.mayAccept)

section

variable {codec : RelayCodec} {w w' : RelayWorld} {op : RelayOp}

/-- A finished attempt that was accepted waited to be recorded. -/
theorem database_of_desktop {op : DesktopOp} {desk : DesktopWorld}
    (hnext : op.next engine tools w.desk = some desk)
    (hacc : ∀ raw content claimedNow acceptance now,
      op = .finish raw content claimedNow (.accepted acceptance) now → w.mayAccept acceptance) :
    DatabaseRun tools w w.database ⟨desk.store, w.publications⟩ :=
  .single (.desktop engine op w.desk desk rfl hnext hacc)

/-- Connections reach the database only by resuming deliveries. -/
theorem connection_database (w0 : RelayWorld) (engine : DesktopEngine) :
    ConnectionRules engine fun w w' => DatabaseRun tools w0 w.database w'.database where
  refl _ := .refl
  trans _ _ _ := .trans
  facts _ _ _ _ := .refl
  resume previous current replaced now _ :=
    .single (.resume engine previous current replaced now)

variable {engine : DatabaseEngine} {now : Timestamp}

/-- Sending a notice is a run of the database. -/
theorem send_database {deskEngine : DesktopEngine} {raw : OutboxRow} {readable : Bool}
    {claimedNow : Timestamp} {fault : Option RelayCredentialError}
    (h : w.send deskEngine engine tools codec raw readable claimedNow fault = some w') :
    DatabaseRun tools w w.database w'.database := by
  unfold send at h
  split at h
  · split at h
    · obtain ⟨desk, hnext, rfl⟩ := map_eq_some_iff.mp h
      exact database_of_desktop hnext fun _ _ _ _ _ hop =>
        absurd (DesktopOp.finish.inj hop).2.2.2.1 nofun
    split at h
    · obtain ⟨desk, hnext, rfl⟩ := map_eq_some_iff.mp h
      exact database_of_desktop hnext fun _ _ _ _ _ hop =>
        absurd (DesktopOp.finish.inj hop).2.2.2.1 nofun
    split at h
    · cases h
      exact .refl
    · cases h
      exact .refl
    rename_i submission _
    have hreg : DatabaseRun tools w w.database _ := .single (.register engine submission)
    split at h
    all_goals
      rename_i hrun
      rw [hrun] at hreg
      cases h
      exact hreg
  · cases h

/-- So is taking the answer of the relay. -/
theorem answer_database {s : Sending} {reply : RelayAnswer} {observed : Bool}
    (h : w.answer engine s reply observed now = some w') :
    DatabaseRun tools w w.database w'.database := by
  unfold answer at h
  split at h
  · cases reply with
    | held | cancelled | failed | accepted =>
      cases h
      exact .refl
    | published receipt =>
      cases h
      exact .single (.receipt engine s.raw.id receipt false none)
  · cases h

/-- What follows and returns nothing does not matter. -/
theorem storeReceipt_state (engine : DatabaseEngine) (candidate : RelayReconciliationCandidate)
    (receipt : RemoteReceipt) (d : DesktopDatabase) : (storeReceipt engine candidate receipt d).2 =
      match receipt with
      | .result receipt => (ResultStore.apply engine candidate.outboxId receipt false d).2
      | .short status updatedAt providerMessageId =>
        (applyRelayRemoteStatus engine
          ⟨candidate.outboxId, candidate.notificationId, status.asStr, updatedAt,
            providerMessageId⟩ d).2 := by
  cases receipt with
  | result | short =>
    simp only [storeReceipt, bind_run]
    split <;> simp_all

/-- And storing a receipt. -/
theorem receive_database {reply : Except RelayHttpError RemoteReceipt}
    (h : w.receive engine reply now = some w') : DatabaseRun tools w w.database w'.database := by
  unfold receive at h
  split at h
  · split at h
    · cases h
      exact .refl
    cases reply with
    | error =>
      cases h
      exact .refl
    | ok receipt =>
      simp only at h
      split at h
      · rename_i rev destination waiting asked _ _ _
        cases h
        have hst := storeReceipt_state engine asked.1 receipt w.database
        rw [hst]
        cases receipt with
        | result receipt => exact .single (.receipt engine _ receipt false none)
        | short => exact .single (.remoteStatus engine _)
      · cases h
  · cases h

/-- **What any operation at the relay does to the database.** -/
theorem relayStep_database (h : RelayStep tools codec w op w') :
    DatabaseRun tools w w.database w'.database := by
  obtain ⟨deskEngine, engine, hnext⟩ := h
  cases op with
  | desk op =>
    simp only [RelayOp.next] at hnext
    split at hnext
    · rename_i hbeside
      obtain ⟨desk, hdesk, rfl⟩ := map_eq_some_iff.mp hnext
      refine database_of_desktop hdesk ?_
      rintro raw content claimedNow acceptance now rfl
      cases hbeside
    · cases hnext
  | send => exact send_database hnext
  | decline =>
    simp only [RelayOp.next] at hnext
    split at hnext
    · obtain ⟨_, rfl⟩ := of_guard hnext
      exact .refl
    · cases hnext
  | answer => exact answer_database hnext
  | complete a now =>
    simp only [RelayOp.next, complete] at hnext
    split at hnext
    · rename_i ha
      obtain ⟨desk, hdesk, rfl⟩ := map_eq_some_iff.mp hnext
      refine database_of_desktop hdesk ?_
      intro raw content claimedNow acceptance later hop
      exact ⟨a, ha, (DesktopOp.finish.inj hop).2.2.2.1⟩
    · cases hnext
  | probe resumeDelivery run =>
    cases hnext
    exact (connection_database w deskEngine).probeConnection resumeDelivery run w
  | configure run =>
    cases hnext
    exact (connection_database w deskEngine).configure run w
  | startRefresh | fetchNext =>
    simp only [RelayOp.next, startRefresh, fetchNext] at hnext
    split at hnext
    · cases hnext
      exact .refl
    · cases hnext
  | receive => exact receive_database hnext
  | endRefresh | restart =>
    cases hnext
    exact .refl
  | registerAction oid action req =>
    cases hnext
    exact .single (.action engine oid action req)
  | applyAction oid receipt =>
    cases hnext
    exact .single (.receipt engine oid receipt _ _)
  | pruneRetained now =>
    cases hnext
    exact .single (.pruneRetained engine now)
  | pruneBatch now =>
    cases hnext
    exact .single (.pruneBatch engine now)

/-- What every program on the database keeps, every operation keeps. -/
theorem relayStep_invariant {I : DesktopDatabase → Prop}
    (hstep : ∀ d d', DatabaseStep tools w.mayAccept d d' → I d → I d')
    (h : RelayStep tools codec w op w') (hw : I w.database) : I w'.database := by
  have hrun := relayStep_database h
  generalize w'.database = d' at hrun ⊢
  induction hrun with
  | refl => exact hw
  | tail _ hlast ih => exact hstep _ _ hlast ih

end

end PromptDock.Desktop
