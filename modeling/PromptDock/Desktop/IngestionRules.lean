import PromptDock.PairedActions
import PromptDock.Desktop.NoticeMoves

/-!
# Relations that an ingestion respects

`Fits P m` compares two runs of one program: from stores related by `P` they
return the same and leave related stores.  `IngestRules` asks this of the
statements that an ingestion and the finalizer are put together from; the rules
below follow the programs down to these statements.  Where the two stores are one
and the same, `Fits` says what a program does to it (`Reached`); where they differ
in some columns, it says that the program does not depend on them.
-/

namespace PromptDock.Desktop

open StoreAction TableStatement OutboxRepository DesktopStore AgentEventIngestor Action

/-- The notice moves along; of its columns only those that tell how far it is
change. -/
def MovedAs (r r' : OutboxRow) : Prop :=
  r' =
    { r with
      status := r'.status, attemptCount := r'.attemptCount, claimedAt := r'.claimedAt,
      nextAttemptAt := r'.nextAttemptAt, lastErrorCode := r'.lastErrorCode,
      lastErrorMessage := r'.lastErrorMessage, updatedAt := r'.updatedAt,
      deliveredAt := r'.deliveredAt }

/-- Both were stored, or both were there. -/
inductive SameAppend : EventAppendResult → EventAppendResult → Prop where
  | inserted (eventRowId sourceKey : Text) :
      SameAppend (.inserted eventRowId sourceKey) (.inserted eventRowId sourceKey)
  | replay {id id' key key' : Text} {advanced advanced' : Bool} :
      SameAppend (.replay id key advanced) (.replay id' key' advanced')

/-- An append agrees with itself. -/
theorem SameAppend.refl (result : EventAppendResult) : SameAppend result result := by
  cases result with
  | inserted => exact .inserted _ _
  | replay => exact .replay

/-- The tables that an ingestion reads are the same. -/
structure SameReads (s t : DesktopStore) : Prop where
  runs : s.agentRuns = t.agentRuns
  outputs : s.agentOutputs = t.agentOutputs
  privacy : s.desktopPrivacy = t.desktopPrivacy
  counters : s.retentionCounters = t.retentionCounters
  outbox : s.notificationOutbox = t.notificationOutbox
  presentation : s.runPresentation = t.runPresentation

variable {P : DesktopStore → DesktopStore → Prop}

section

variable {α : Type}

/-- The program does the same on related stores, and keeps them related. -/
abbrev Fits (P : DesktopStore → DesktopStore → Prop) (m : Desk α) : Prop :=
  Paired P Eq m m

/-- The program does so on stores of which the first satisfies `A`. -/
def FitsWhere (A : DesktopStore → Prop) (P : DesktopStore → DesktopStore → Prop) (m : Desk α) :
    Prop :=
  ∀ s t, P s t → A s → Matched Eq (m s).1 (m t).1 ∧ P (m s).2 (m t).2

theorem Fits.lift (res : Except AppError α) : Fits P (Desktop.lift res) := by
  cases res with
  | error e => exact .reject e
  | ok => exact .pure rfl

/-- A refusal is the same on both sides. -/
theorem FitsWhere.lift {A : DesktopStore → Prop} {β : Type} {x : Except AppError α}
    {f : α → Desk β} (h : ∀ a, FitsWhere A P (f a)) :
    FitsWhere A P (do let a ← Desktop.lift x; f a) := by
  cases x with
  | error => exact fun s t hst _ => ⟨.error _, hst⟩
  | ok a => exact h a

end

/-- The statements on presentations, and those that end notices, respect the
relation. -/
structure PresentRules (engine : DesktopEngine) (P : DesktopStore → DesktopStore → Prop) :
    Prop where
  same : ∀ s t, P s t → SameReads s t
  present : ∀ guard change,
    Fits P (update engine presentationTable (fun _ => guard) change : Desk Nat)
  presentNew : ∀ conflict row,
    Fits P (insertUnless engine presentationTable conflict row : Desk Nat)
  ending : ∀ {guard : OutboxRow → Bool} {change : OutboxRow → OutboxRow},
    (∀ r, guard r = true → r.status.live = true) →
    (∀ r, MovedAs r (change r) ∧ (change r).status.live = false) →
    Fits P (update engine outboxTable (fun _ => guard) change : Desk Nat)

/-- And so do the other statements of an ingestion and of the finalizer.  Outputs
are left to the caller; a notice is added where the capacity admits it, or passed
over because its key is taken. -/
structure IngestRules (engine : DesktopEngine) (tools : Tools)
    (P : DesktopStore → DesktopStore → Prop) : Prop extends PresentRules engine P where
  usage : ∀ runKey, Fits P (EventStore.latestCodexUsage tools runKey)
  append : ∀ e, Paired P SameAppend (EventStore.append engine tools e)
    (EventStore.append engine tools e)
  checkpoint : ∀ source change, Fits P (SourceRepository.checkpoint engine tools source change)
  updateRun : ∀ guard change, Fits P (update engine runTable (fun _ => guard) change : Desk Nat)
  insertRun : ∀ row, Fits P (insert engine runTable row : Desk Unit)
  attention : ∀ row, Fits P (insert engine attentionTable row : Desk Unit)
  notice : ∀ (input : NotificationInsert) json, FitsWhere
    (fun s => Admits s input.payload.contentBytes ∨
      s.notificationOutbox.any (fun r => r.dedupeKey == input.dedupeKey) = true)
    P (recordNotice engine (input.row tools.hashes json))

/-! ## The activity projection -/

variable {engine : DesktopEngine}

namespace PresentRules

variable (rules : PresentRules engine P)

include rules

/-- Related stores find the same run. -/
theorem find {s t : DesktopStore} (h : P s t) (runKey : Text) :
    RunRepository.find runKey s = RunRepository.find runKey t := by
  unfold RunRepository.find
  rw [(rules.same s t h).runs]

/-- Only notices still to be sent are cancelled. -/
theorem cancelPendingTx (kind : NotificationEventKind) (runKey : Text) (now : Timestamp)
    (code message : String) : Fits P (cancelPendingTx engine kind runKey now code message) :=
  rules.ending (fun _ => live_of_unsentOf) fun _ => ⟨rfl, rfl⟩

/-- The presentation moves on, or the program fails on both sides. -/
theorem advanceWhere (guard : PresentationRow → Bool)
    (change : PresentationRow → PresentationRow) (code message : String) :
    Fits P (ActivityProjection.advanceWhere engine guard change code message) :=
  ((rules.present _ _).bind_eq fun _ => .pure rfl).bind_eq fun _ => .ite (.reject _) (.pure rfl)

theorem advance (runKey : Text) (now : Timestamp) :
    Fits P (ActivityProjection.advance engine runKey now) :=
  ((rules.presentNew _ _).bind_eq fun _ => .pure rfl).bind_eq fun _ => rules.advanceWhere _ _ _ _

/-- A run is presented the same way on both sides. -/
theorem recordRun (tools : Tools) (e : AgentEventEnvelopeV2) :
    Fits P (ActivityProjection.recordRun engine tools e) := by
  unfold ActivityProjection.recordRun
  cases e.correlation.runKey with
  | none => exact .pure rfl
  | some =>
    refine (rules.advance _ _).bind_eq fun _ => ?_
    cases e.payload with
    | runStarted => exact .ite (.pure rfl) ((rules.present _ _).bind_eq fun _ => .pure rfl)
    | _ => exact .pure rfl

/-- Attention raises the revisions of the presentation. -/
theorem recordAttention (e : AgentEventEnvelopeV2) (eventRowId : Text) (now : Timestamp) :
    Fits P (ActivityProjection.recordAttention engine e eventRowId now) := by
  unfold ActivityProjection.recordAttention
  cases e.correlation.runKey with
  | none => exact .pure rfl
  | some key =>
    refine Paired.read.bind fun a b hab => ?_
    rw [rules.find hab]
    cases RunRepository.find key b with
    | none => exact .pure rfl
    | some =>
      refine (rules.advance _ _).bind_eq fun _ => (rules.advanceWhere _ _ _ _).bind_eq fun _ => ?_
      refine Paired.read.bind fun c d hcd => ?_
      rw [(rules.same c d hcd).presentation]
      exact .pure rfl

/-- A presentation notes its notice. -/
theorem noticeCreated (key : Option Text) (now : Timestamp) :
    Fits P (ActivityProjection.noticeCreated engine key now) := by
  cases key with
  | none => exact .pure rfl
  | some => exact (rules.present _ _).bind_eq fun _ => .pure rfl

/-- Attention that was not sent ends. -/
theorem cancelUnsentAttention (runKey : Text) (now : Timestamp) :
    Fits P (ActivityProjection.cancelUnsentAttention engine runKey now) := by
  refine Paired.bind_eq (rules.ending (fun r hg => ?_) fun r => ⟨rfl, rfl⟩) fun _ => .pure rfl
  simp only [ActivityProjection.unsentAttention, Bool.and_eq_true] at hg
  exact OutboxRowStatus.live_of_claimable hg.1.1.1.2

/-- A start that was not sent ends. -/
theorem cancelStart (runKey : Text) (now : Timestamp) (reason : String) :
    Fits P (cancelStart engine runKey now reason) :=
  (rules.cancelPendingTx _ _ _ _ _).bind_eq fun _ => .pure rfl

/-- The completion notice of a reopened run is cancelled. -/
theorem applyReopenSideEffects (e : AgentEventEnvelopeV2) (t : RunTransition) :
    Fits P (applyReopenSideEffects engine e t) :=
  .onlyIf ((rules.cancelPendingTx _ _ _ _ _).bind_eq fun _ => .pure rfl)

/-- So is that of a completion that was only inferred. -/
theorem cancelReplacedInferredCompletion (e : AgentEventEnvelopeV2) (t : RunTransition) :
    Fits P (cancelReplacedInferredCompletion engine e t) :=
  .onlyIf ((rules.cancelPendingTx _ _ _ _ _).bind_eq fun _ => .pure rfl)

end PresentRules

namespace IngestRules

variable {tools : Tools} (rules : IngestRules engine tools P)

include rules

/-! ## Reading -/

/-- The capacity depends on the counters. -/
theorem checkCapacity (bytes : Nat) : Fits P (checkCapacity bytes) := by
  refine Paired.read.bind fun a b hab => ?_
  rw [(rules.same a b hab).counters]
  exact .ite (.reject _) (.ite (.reject _) (.pure rfl))

/-- What follows a check of the capacity runs where the capacity admits it. -/
theorem admitted {α : Type} {bytes : Nat} {m : Desk α} (h : FitsWhere (Admits · bytes) P m) :
    Fits P (do DesktopStore.checkCapacity bytes; m) := by
  intro s t hst
  obtain ⟨hmatched, -⟩ := rules.checkCapacity bytes s t hst
  have hs := checkCapacity_reads bytes s
  have ht := checkCapacity_reads bytes t
  rw [bind_run, bind_run]
  rcases hchk : DesktopStore.checkCapacity bytes s with ⟨r, s1⟩
  rcases hchk' : DesktopStore.checkCapacity bytes t with ⟨r', t1⟩
  rw [hchk, hchk'] at hmatched
  rw [hchk] at hs
  rw [hchk'] at ht
  obtain rfl : s1 = s := hs
  obtain rfl : t1 = t := ht
  cases hmatched with
  | error e => exact ⟨.error e, hst⟩
  | ok => exact h s1 t1 hst (checkCapacity_eq_ok hchk).1

/-- The revision that was applied is the same. -/
theorem requireApplied (rev : Int) : Fits P (requireApplied rev) := by
  refine Paired.read.bind fun a b hab => ?_
  rw [(rules.same a b hab).privacy]
  exact .ite (.reject _) (.pure rfl)

/-- The result is looked up in the outputs. -/
theorem latestResultForRun (runKey : Text) (observedAfter : Timestamp) :
    Fits P (OutputRepository.latestResultForRun tools runKey observedAfter) := by
  refine Paired.read.bind fun a b hab => ?_
  have hlatest : OutputRepository.latestOutput runKey observedAfter a =
      OutputRepository.latestOutput runKey observedAfter b := by
    simp [OutputRepository.latestOutput, (rules.same a b hab).outputs]
  rw [hlatest]
  cases OutputRepository.latestOutput runKey observedAfter b with
  | none => exact .pure rfl
  | some => exact (Fits.lift _).bind_eq fun _ => .pure rfl

/-! ## Runs, outputs and notices -/

/-- A run is written by its key. -/
theorem upsertRun (run : AgentRunRecord) : Fits P (RunRepository.upsert engine run) := by
  refine Paired.read.bind fun a b hab => ?_
  rw [(rules.same a b hab).runs]
  refine .ite ?_ (rules.insertRun run)
  exact (rules.updateRun _ _).bind_eq fun _ => .ite (.reject _) (.pure rfl)

/-- Outputs are stored where the capacity admits them. -/
abbrev Stores (engine : DesktopEngine) (P : DesktopStore → DesktopStore → Prop) : Prop :=
  ∀ row : AgentOutputRow, FitsWhere (fun s => Admits s row.contentBytes) P (recordOutput engine row)

/-- Outputs are stored as the caller's rules say. -/
theorem appendOutput (houtput : Stores engine P) (sourceKey : Text) (e : AgentEventEnvelopeV2)
    (output : OutputProducedV2) :
    Fits P (OutputRepository.append engine tools sourceKey e output) := by
  unfold OutputRepository.append
  cases e.correlation.runKey with
  | none => exact .reject _
  | some runKey =>
    refine Paired.read.bind fun a b hab => ?_
    have hrev : OutputRepository.nextRevision runKey a =
        OutputRepository.nextRevision runKey b := by
      simp [OutputRepository.nextRevision, (rules.same a b hab).outputs]
    rw [(rules.same a b hab).outputs, hrev]
    cases b.agentOutputs.find? fun r => r.sourceKey == sourceKey && r.eventId == e.eventId with
    | some => exact .ite (.reject _) (.pure rfl)
    | none =>
      refine rules.admitted (.lift fun _ => ?_)
      exact fun s t hst hadm => houtput _ s t hst hadm

/-- A notice is added where capacity admits it, or its key is taken. -/
theorem insertOutbox (input : NotificationInsert) : Fits P (insertOutbox engine tools input) := by
  refine (Fits.lift _).bind_eq fun _ s t hst => ?_
  have hrec : FitsWhere (fun s => Admits s input.payload.contentBytes ∨
      s.notificationOutbox.any (fun r => r.dedupeKey == input.dedupeKey) = true) P
      (if input.kind.policyProtected != input.contentPolicyHash.any isPolicyHash then
          fail "INVALID_NOTIFICATION_POLICY" "通知隐私策略标识无效"
        else do
          let json ← lift (tools.crypto.protectPayload input.payload)
          recordNotice engine (input.row tools.hashes json)) := by
    split
    · exact fun s t hst _ => ⟨.error _, hst⟩
    · exact .lift fun json => rules.notice input json
  rw [read_bind_run, read_bind_run, (rules.same s t hst).outbox]
  cases htaken : t.notificationOutbox.any fun r => r.dedupeKey == input.dedupeKey with
  | true =>
    rw [← (rules.same s t hst).outbox] at htaken
    exact hrec s t hst (.inr htaken)
  | false => exact rules.admitted (fun s t hst hadm => hrec s t hst (.inl hadm)) s t hst

/-- A notice for attention is added as any other. -/
theorem insertAttentionTx (input : AttentionNotificationInsert) :
    Fits P (insertAttentionTx engine tools input) := by
  refine .ite (.reject _) ((rules.insertOutbox _).bind_eq fun inserted => .ite ?_ (.pure rfl))
  refine Paired.bind_eq (rules.ending (fun r hg => ?_) fun r => ⟨rfl, rfl⟩) fun _ => .pure rfl
  simp only [Bool.and_eq_true, beq_iff_eq] at hg
  rw [hg.2]
  rfl

/-- A test notice is added as any other. -/
theorem enqueueControl (kind : NotificationEventKind) (dkey : Text)
    (payload : NotificationPayloadV2) (now : Timestamp) :
    Fits P (OutboxRepository.enqueueControl engine tools kind dkey payload now) :=
  .ite (.reject _) ((Fits.lift _).bind_eq fun _ => (rules.insertOutbox _).allOrNothing)

/-! ## The ingestion -/

section

variable (e : AgentEventEnvelopeV2) (policy : AgentNotificationPolicy) (t : RunTransition)

/-- The reducer sees the same run on both sides. -/
theorem reduceAndStore (quiet : Int) : Fits P (reduceAndStore engine tools e quiet) := by
  unfold AgentEventIngestor.reduceAndStore
  cases e.correlation.runKey with
  | none => exact .reject _
  | some =>
    refine Paired.read.bind fun a b hab => ?_
    rw [rules.find hab]
    refine (Fits.lift _).bind_eq fun transition => (rules.upsertRun _).bind_eq fun _ => ?_
    refine (rules.recordRun tools _).bind_eq fun _ => ?_
    exact (Paired.onlyIf (rules.cancelUnsentAttention _ _)).bind_eq fun _ => .pure rfl

/-- The payload is made from what is only read. -/
theorem buildNotificationPayload (cfg : NotificationSettings) (run : AgentRunRecord)
    (kind : NotificationEventKind) (startContext : Option RunStartedV2) :
    Fits P (buildNotificationPayload tools cfg run kind startContext) := by
  have houtput : Fits P (noticeOutput tools run kind) := by
    refine .ite (.pure rfl) (Paired.read.bind fun a b hab => ?_)
    rw [(rules.same a b hab).privacy]
    exact rules.latestResultForRun _ _
  exact houtput.bind_eq fun _ => (rules.usage _).bind_eq fun _ => Fits.lift _

/-- A start is announced on both sides or on neither. -/
theorem projectStart (run : AgentRunRecord) (started : RunStartedV2) :
    Fits P (projectStart engine tools e policy run started) :=
  (rules.buildNotificationPayload _ _ _ _).bind_eq fun _ => rules.insertOutbox _

/-- So is an end. -/
theorem projectTerminalNotification (kind : NotificationEventKind) :
    Fits P (projectTerminalNotification engine tools e policy t kind) := by
  refine .ite (.pure rfl) ((rules.cancelStart _ _ _).bind_eq fun _ => .ite (.pure rfl) ?_)
  exact (rules.buildNotificationPayload _ _ _ _).bind_eq fun _ => rules.insertOutbox _

/-- So is what asks for attention. -/
theorem projectAttention (sourceKey : Text) (cfg : NotificationSettings)
    (attention : AttentionRequiredV2) (ingestedAt : Timestamp) :
    Fits P (projectAttention engine tools e sourceKey cfg attention ingestedAt) := by
  refine Paired.read.bind fun a b hab => ?_
  have hfind : (fun key => RunRepository.find key a) = fun key => RunRepository.find key b :=
    funext fun key => rules.find hab key
  rw [hfind]
  refine (Fits.lift _).bind_eq fun _ => (rules.insertAttentionTx _).bind_eq fun _ => ?_
  exact .ite ((rules.noticeCreated _ _).bind_eq fun _ => .pure rfl) (.pure rfl)

/-- Only an event with an output stores one. -/
theorem projectPayload (houtput : e.payload.kind = .outputProduced → Stores engine P)
    (eventRowId sourceKey : Text) (ingestedAt : Timestamp) :
    Fits P (projectPayload engine tools eventRowId sourceKey e policy ingestedAt) := by
  have hterm (transition : RunTransition) (kind : NotificationEventKind) :
      Fits P (AgentEventIngestor.projectTerminalNotification engine tools e policy
          transition kind >>=
        fun changed => pure (⟨changed, true⟩ : CommittedOutcome)) :=
    (rules.projectTerminalNotification e policy transition kind).bind_eq fun _ => .pure rfl
  unfold AgentEventIngestor.projectPayload
  cases hload : e.payload with
  | promptSubmitted => exact .pure rfl
  | runStarted =>
    refine (rules.reduceAndStore _ _).bind_eq fun transition => ?_
    refine (rules.applyReopenSideEffects _ _).bind_eq fun _ => .ite ?_ (.pure rfl)
    exact (rules.projectStart _ _ _ _).bind_eq fun _ => .pure rfl
  | runSettling =>
    refine (rules.reduceAndStore _ _).bind_eq fun transition => ?_
    exact (rules.cancelStart _ _ _).bind_eq fun _ => .pure rfl
  | runCompleted =>
    exact (rules.reduceAndStore _ _).bind_eq fun transition => .ite (.pure rfl) (hterm _ _)
  | runFailed | runInterrupted =>
    refine (rules.reduceAndStore _ _).bind_eq fun transition => ?_
    exact (rules.cancelReplacedInferredCompletion _ _).bind_eq fun _ => hterm _ _
  | runCancelled =>
    refine (rules.reduceAndStore _ _).bind_eq fun transition => ?_
    refine (rules.cancelReplacedInferredCompletion _ _).bind_eq fun _ => .ite ?_ (.pure rfl)
    exact (rules.cancelStart _ _ _).bind_eq fun _ => .pure rfl
  | outputProduced output =>
    refine (rules.reduceAndStore _ _).bind_eq fun transition => ?_
    refine (rules.applyReopenSideEffects _ _).bind_eq fun _ => Paired.read.bind fun a b hab => ?_
    have hallow : outputCaptureAllowed a output.captureGeneration output.contentMode =
        outputCaptureAllowed b output.captureGeneration output.contentMode := by
      simp [outputCaptureAllowed, (rules.same a b hab).privacy]
    rw [hallow]
    refine .ite ?_ (.pure rfl)
    have hstores := houtput (by rw [hload]; rfl)
    exact (rules.appendOutput hstores _ _ _).bind_eq fun _ => .pure rfl
  | attentionRequired attention =>
    refine (rules.attention _).bind_eq fun _ => ?_
    refine (rules.recordAttention _ _ _).bind_eq fun _ => .ite ?_ (.pure rfl)
    exact (rules.projectAttention _ _ _ _ _).bind_eq fun _ => .pure rfl

variable (houtput : Stores engine P)

include houtput

/-- What follows an append does not tell two replays apart. -/
theorem projectAppended (ingestedAt : Timestamp) {res res' : EventAppendResult}
    (h : SameAppend res res') : Paired P Eq (projectAppended engine tools e policy ingestedAt res)
      (AgentEventIngestor.projectAppended engine tools e policy ingestedAt res') := by
  cases h with
  | replay => exact .pure rfl
  | inserted =>
    refine Paired.read.bind fun a b hab => ?_
    have hsuppressed : suppressed a e = suppressed b e := by simp [suppressed, rules.find hab]
    rw [hsuppressed]
    exact .ite (.pure rfl) (rules.projectPayload _ _ (fun _ => houtput) _ _ _)

/-- **Ingestion fits**: it appends, projects and moves the checkpoint. -/
theorem ingest (checkpoint : SourceCheckpointUpdate) :
    Fits P (ingest engine tools e policy checkpoint) := by
  refine (rules.requireApplied _).bind_eq fun _ => ?_
  refine (rules.append e).bind fun res result' hsame => ?_
  refine (rules.projectAppended e policy houtput _ hsame).bind_eq fun _ => ?_
  exact (rules.checkpoint _ _).bind_eq fun _ => .pure rfl

/-- Processing an envelope fits, whatever policy was saved. -/
theorem process (saved : Except AppError AgentNotificationPolicy)
    (checkpoint : SourceCheckpointUpdate) : Fits P (process engine tools saved e checkpoint) := by
  unfold AgentEventIngestor.process
  cases e.validate tools.hashes with
  | error => exact .reject _
  | ok =>
    refine .ite (.reject _) ((Fits.lift _).bind_eq fun policy => .ite (.reject _) ?_)
    exact (rules.ingest e policy houtput checkpoint).allOrNothing

end

/-! ## The finalizer -/

/-- Finalizing a run fits. -/
theorem finalizeRun (policy : AgentNotificationPolicy) (quota : Option CodexUsageSnapshot)
    (now : Timestamp) (run : AgentRunRecord) :
    Fits P (RunFinalizer.finalizeRun engine tools policy quota run now) := by
  refine (rules.upsertRun _).bind_eq fun _ => (rules.advance _ _).bind_eq fun _ => ?_
  refine (rules.cancelUnsentAttention _ _).bind_eq fun _ => ?_
  refine (rules.cancelPendingTx _ _ _ _ _).bind_eq fun _ => .ite ?_ (.pure rfl)
  refine Paired.bind_eq (Paired.read.bind fun a b hab => ?_) fun _ => rules.insertOutbox _
  rw [(rules.same a b hab).privacy]
  exact (rules.latestResultForRun _ _).bind_eq fun _ => Fits.lift _

end IngestRules

/-! ## Programs within a scope -/

/-- One store reads the same as itself. -/
theorem reached_same {R : DesktopStore → DesktopStore → Prop} {s0 s t : DesktopStore}
    (h : Reached R s0 s t) : SameReads s t := by
  obtain ⟨rfl, -⟩ := h
  exact ⟨rfl, rfl, rfl, rfl, rfl, rfl⟩

variable {scope : Scope} (engine : DesktopEngine)

/-- Programs that present stay within every scope. -/
theorem presenting (s0 : DesktopStore) : PresentRules engine (Reached (Within scope) s0) where
  same _ _ := reached_same
  present _ _ := Keeps.paired (Within.trans scope) Eq.refl (aside_presentation.update _ _)
  presentNew _ _ := Keeps.paired (Within.trans scope) Eq.refl (aside_presentation.insertUnless _ _)
  ending {_ change} hlive hends := Keeps.paired (Within.trans scope) Eq.refl <|
    Acts.ending hlive fun r => by
      have hmoved : MovedAs r (change r) := (hends r).1
      refine ⟨?_, (hends r).2⟩
      rw [hmoved]
      exact ⟨rfl, rfl, rfl⟩

/-- Whatever follows the rules of presentations stays within every scope. -/
theorem Acts.of_fits {α : Type} {m : Desk α}
    (h : ∀ s0, PresentRules engine (Reached (Within scope) s0) →
      Fits (Reached (Within scope) s0) m) :
    Acts scope m :=
  Paired.keeps (Within.refl scope) fun s0 => h s0 (presenting engine s0)

end PromptDock.Desktop
