import PromptDock.Desktop.RunFinalizer

/-!
# The capture policy

A saved policy is a file; the database and the settings in memory are
projections of it (`desktop_policy.rs`, `capture_policy.rs`, `settings.rs`).
Saving a policy that captures less raises the capture generation.  Projecting a
raised generation deletes the stored outputs and cancels the notices of ended
runs.  Between saving and projecting, events wait (`PolicyProcessor`).
-/

namespace PromptDock.Desktop

open StoreAction.Action TableStatement

structure CapturePolicy where
  (observeTurns notifyStarted notifyEnded : Bool)
  completionQuietMs : Int
  resultContentMode : ResultContentMode
  (notifyAttention includeTaskInput : Bool)
deriving DecidableEq

def CapturePolicy.validate (policy : CapturePolicy) : Bool :=
  completionQuietMsMin ≤ policy.completionQuietMs && policy.completionQuietMs ≤ completionQuietMsMax

/-- `CapturePolicy::default`. -/
def CapturePolicy.standard : CapturePolicy where
  observeTurns := true
  notifyStarted := true
  notifyEnded := true
  completionQuietMs := 2000
  resultContentMode := .statusOnly
  notifyAttention := false
  includeTaskInput := false

/-- `CapturePolicyState`.  The schema version is always one. -/
structure CapturePolicyState where
  policy : CapturePolicy
  (revision captureGeneration : Int)
deriving DecidableEq

/-- `CapturePolicyState::default`. -/
def CapturePolicyState.standard : CapturePolicyState := ⟨CapturePolicy.standard, 0, 0⟩

/-- What a read of the policy file accepts. -/
def CapturePolicyState.acceptable (state : CapturePolicyState) : Bool :=
  0 ≤ state.revision && 0 ≤ state.captureGeneration && state.policy.validate

/-- The policy file. -/
inductive PolicyFile where
  | absent
  | corrupt
  | saved (state : CapturePolicyState)

/-- `read_authority`. -/
def PolicyFile.readAuthority : PolicyFile → Except AppError CapturePolicyState
  | .saved state =>
    if state.acceptable then .ok state
    else .error ⟨"CAPTURE_POLICY_UNAVAILABLE",
      "采集策略缺失、损坏或版本不兼容，请检查 capture-policy.json；未恢复默认权限"⟩
  | .absent | .corrupt =>
    .error ⟨"CAPTURE_POLICY_UNAVAILABLE",
      "采集策略缺失、损坏或版本不兼容，请检查 capture-policy.json；未恢复默认权限"⟩

/-! ## Settings -/

structure SettingsSnapshot where
  captureMode : ResultContentMode
  notifications : NotificationSettings

/-- The settings in memory. -/
structure Projection where
  snapshot : SettingsSnapshot
  pending : Bool

namespace Projection

/-- The settings a process starts with. -/
def standard : Projection := ⟨⟨.statusOnly, NotificationSettings.standard⟩, false⟩

/-- `SettingsStore::get`. -/
def get (p : Projection) : Except AppError SettingsSnapshot :=
  if p.pending then
    .error ⟨"POLICY_PENDING_APPLY", "内容策略已保存，正在应用；相关投递已暂停"⟩
  else .ok p.snapshot

/-- `SettingsStore::begin_apply`. -/
def beginApply (p : Projection) : Projection :=
  { p with pending := true }

/-- `SettingsStore::replace`. -/
def replace (p : Projection) (snapshot : SettingsSnapshot) : Except AppError Unit × Projection :=
  if !snapshot.notifications.validate then
    (.error ⟨"INVALID_NOTIFICATION_SETTINGS", "通知策略无效"⟩, p)
  else (.ok (), ⟨snapshot, false⟩)

/-- The policy that the ingestor and the finalizer read. -/
def policy (p : Projection) : Except AppError AgentNotificationPolicy := do
  let snapshot ← p.get
  pure ⟨snapshot.notifications, snapshot.captureMode⟩

end Projection

/-- `snapshot` of `desktop_policy.rs`. -/
def policySnapshot (state : CapturePolicyState) : SettingsSnapshot where
  captureMode := state.policy.resultContentMode
  notifications :=
    { NotificationSettings.standard with
      enabled := state.policy.observeTurns &&
        (state.policy.notifyStarted || state.policy.notifyEnded || state.policy.notifyAttention)
      mode := if state.policy.notifyStarted then .startAndCompletion else .completionOnly
      notifyEnded := state.policy.notifyEnded
      contentEpoch := state.captureGeneration
      policyRevision := state.revision
      includeTaskInput := state.policy.includeTaskInput
      completionQuietMs := state.policy.completionQuietMs
      attentionEnabled := state.policy.notifyAttention
      resultContentMode := state.policy.resultContentMode }

/-! ## Saving -/

inductive PolicySaveStatus where
  | saved | unchanged | conflict

/-- The policy that a save writes, one revision on. -/
def nextPolicyState (previous : CapturePolicyState) (policy : CapturePolicy) :
    Except AppError CapturePolicyState :=
  if maxRevision < previous.revision + 1 then
    .error ⟨"POLICY_REVISION_EXHAUSTED", "策略修订号已耗尽"⟩
  else
    let narrowed := policy.resultContentMode.rank < previous.policy.resultContentMode.rank
    match if narrowed then checkedAdd previous.captureGeneration 1
        else some previous.captureGeneration with
    | none => .error ⟨"CAPTURE_GENERATION_EXHAUSTED", "采集内容代次已耗尽"⟩
    | some generation => .ok ⟨policy, previous.revision + 1, generation⟩

/-- `commit`, once it holds the lock.  `published` is whether the atomic replace
of the file succeeded. -/
def commitPolicy (file : PolicyFile) (policy : CapturePolicy) (expectedRevision : Int)
    (published : Bool) : Except AppError (PolicySaveStatus × PolicyFile) :=
  if !policy.validate then
    .error ⟨"INVALID_CAPTURE_POLICY", "结束观察窗口必须在 500–20000 毫秒之间"⟩
  else do
    let previous ← file.readAuthority
    if previous.revision ≠ expectedRevision then .ok (.conflict, file)
    else if previous.policy = policy then .ok (.unchanged, file)
    else do
      let state ← nextPolicyState previous policy
      if !published then .error ⟨"CAPTURE_POLICY_WRITE", "无法保存采集策略"⟩
      else .ok (.saved, .saved state)

/-! ## Projecting -/

namespace DesktopPolicy

variable (engine : DesktopEngine)

/-- The notices that a policy has deselected. -/
def deselected (policy : CapturePolicy) (kind : NotificationEventKind) : Bool :=
  kind.policyProtected &&
    (!policy.observeTurns || (!policy.notifyStarted && kind == .runStarted) ||
      (!policy.notifyEnded && kind.terminal) ||
      (!policy.notifyAttention && kind == .attentionRequired))

/-- Cancel the live notices of the kinds that `kinds` names. -/
def cancelLive (kinds : NotificationEventKind → Bool) (now : Timestamp) (message : String) :
    Desk Unit := do
  let _ ← update engine DesktopStore.outboxTable (fun _ r => r.status.live && kinds r.eventKind)
    (OutboxRepository.cancelledFor now "NOTIFICATION_POLICY_CHANGED" message)
  pure ()

/-- `UPDATE desktop_privacy`. -/
def applyPrivacy (state : CapturePolicyState) (s : DesktopStore) : DesktopStore :=
  { s with
    desktopPrivacy :=
      { s.desktopPrivacy with
        policyRevision := state.revision, contentEpoch := state.captureGeneration,
        captureMode := state.policy.resultContentMode,
        taskInputEnabled := state.policy.includeTaskInput } }

/-- The transaction of `apply_projection`. -/
def project (state : CapturePolicyState) (now later : Timestamp) : Desk Unit :=
  allOrNothing do
    let s ← read
    let applied := s.desktopPrivacy
    if state.revision < applied.policyRevision ∨
        state.captureGeneration < applied.contentEpoch then
      fail "POLICY_REVISION_ROLLBACK" "策略文件比已应用记录旧；已暂停发送，请检查策略文件"
    else do
      cancelLive engine (deselected state.policy) now "Notification disabled"
      onlyIf (applied.contentEpoch < state.captureGeneration) do
        DesktopStore.forgetOutputs engine
        cancelLive engine NotificationEventKind.terminal later "Result content permission narrowed"
      onlyIf (applied.taskInputEnabled && !state.policy.includeTaskInput)
        (cancelLive engine (· == .runStarted) later "Task input permission narrowed")
      onlyIf
        (applied.policyRevision != state.revision ||
          applied.contentEpoch != state.captureGeneration ||
          applied.captureMode != state.policy.resultContentMode ||
          applied.taskInputEnabled != state.policy.includeTaskInput)
        (execute engine (applyPrivacy state))

end DesktopPolicy

/-! ## The policy processor -/

/-- What the policy file and the settings allow an event: to wait, to be passed
over, or to be ingested. -/
inductive PolicyAdmission where
  | wait (error : AppError) (beginApply : Bool)
  | skip | ingest

/-- The checks of `PolicyProcessor::process` before the ingestor runs. -/
def policyAdmission (file : PolicyFile) (settings : Projection) (e : AgentEventEnvelopeV2) :
    PolicyAdmission :=
  match file.readAuthority with
  | .error error => .wait error true
  | .ok policy =>
    match settings.get with
    | .error error => .wait error false
    | .ok projected =>
      if projected.notifications.policyRevision ≠ policy.revision then
        .wait ⟨"POLICY_PENDING_APPLY", "新策略尚未应用，事件保留等待重试"⟩ true
      else
        match e.metadata with
        | none => .wait ⟨"INVALID_AGENT_EVENT", "受管事件缺少接管元数据"⟩ false
        | some metadata =>
          if policy.revision < metadata.policyRevision then
            .wait ⟨"POLICY_PENDING_APPLY", "事件策略尚未就绪，保留等待重试"⟩ false
          else
            match e.payload with
            | .outputProduced output =>
              if output.captureGeneration ≠ some policy.captureGeneration ∨
                  policy.policy.resultContentMode.rank < output.contentMode.rank then
                .skip
              else .ingest
            | _ => .ingest

namespace PolicyProcessor

variable (engine : DesktopEngine) (tools : Tools)

/-- `PolicyProcessor::process`, on the policy file and the settings it reads.
The settings are returned as `begin_apply` leaves them. -/
def process (file : PolicyFile) (settings : Projection) (e : AgentEventEnvelopeV2)
    (checkpoint : SourceCheckpointUpdate) : Desk CommittedOutcome :=
  match policyAdmission file settings e with
  | .wait error _ => reject error
  | .skip => do
    AgentEventIngestor.checkpointPolicySkip engine tools checkpoint
    pure ⟨false, false⟩
  | .ingest => AgentEventIngestor.process engine tools settings.policy e checkpoint

/-- The settings after an event was looked at. -/
def settingsAfter (file : PolicyFile) (settings : Projection) (e : AgentEventEnvelopeV2) :
    Projection :=
  match policyAdmission file settings e with
  | .wait _ true => settings.beginApply
  | _ => settings

end PolicyProcessor

end PromptDock.Desktop
