import PromptDock.Desktop.DesktopRetention
import PromptDock.Desktop.DesktopRuns

/-!
# The desktop at its relay

The relay runtime around the desktop's store: probes and reconfigurations of the
connection (`relay/state.rs`), deliveries (`relay/sender.rs`), the refresh of
receipts, actions on published results, and retention, interleaved with
everything that `DesktopOp` does.

A delivery is three steps, between which others may come: `send` registers a
submission and starts the request, `answer` is what the relay replies, and
`complete` records the result.  A refresh takes a page of candidates and handles
them one at a time, `fetchNext` and `receive`.  A probe writes at one point only,
where it holds the lock of the connection; what it read before stands in its
inputs.
-/

namespace PromptDock.Desktop

open StoreAction LabelledRun Action RelayStatus

/-! ## The state of the relay runtime -/

/-- The wire form of a submission, as far as its digest. -/
structure RelayResultPublication where
  (resultId dedupeKey correlationKey resultRevision title body sourceHash : Text)
  (createdAt notificationExpiresAt : Timestamp)
  (startedAt completedAt : Option Timestamp)
  durationMs : Option Int

/-- `serde_json::to_string` of what the sender and the runtime digest. -/
structure RelayCodec where
  encodePublication : RelayResultPublication → Text
  encodeDestination : Text × Text → Text

/-- `destination_identity`. -/
def destinationIdentity (codec : RelayCodec) (hashes : Hashes)
    (profile : RelayConnectionProfile) : Text :=
  sourceHashSha256 hashes (codec.encodeDestination (profile.baseUrl, profile.deviceId))

/-- An attempt whose request is under way. -/
structure Sending where
  raw : OutboxRow
  payload : NotificationPayloadV2
  claimedNow : Timestamp
  profile : RelayConnectionProfile
  publishes : Bool
deriving DecidableEq

/-- An attempt whose result is known and not yet recorded. -/
structure Answered where
  raw : OutboxRow
  payload : NotificationPayloadV2
  claimedNow : Timestamp
  result : DeliveryResult
deriving DecidableEq

/-- A refresh of receipts under way.  The candidate that is being fetched carries
the source hash of its publication, if it has one. -/
structure Refresh where
  revision : Nat
  destination : Text
  waiting : List RelayReconciliationCandidate
  fetching : Option (RelayReconciliationCandidate × Option Text)

structure RelayWorld where
  desk : DesktopWorld
  publications : List PublicationRow
  sending : List Sending
  answered : List Answered
  refresh : Option Refresh
  receiptCursor : Option Text
  status : RelayStatus
  profile : Option RelayConnectionProfile
  credentialRevision : Nat

/-- A program of the relay runtime. -/
abbrev RelayTask (α : Type) := Action RelayWorld AppError α

namespace RelayWorld

def store (w : RelayWorld) : DesktopStore := w.desk.store

def database (w : RelayWorld) : DesktopDatabase := ⟨w.desk.store, w.publications⟩

def withStore (w : RelayWorld) (s : DesktopStore) : RelayWorld :=
  { w with desk := { w.desk with store := s } }

def withDatabase (w : RelayWorld) (d : DesktopDatabase) : RelayWorld :=
  { w with desk := { w.desk with store := d.store }, publications := d.publications }

end RelayWorld

/-- Run a program on the store. -/
def onStore {α : Type} (m : Desk α) : RelayTask α :=
  fun w => ((m w.store).1, w.withStore (m w.store).2)

/-- Amend the facts. -/
def amendStatus (change : RelayStatus → RelayStatus) : RelayTask Unit :=
  fun w => (.ok (), { w with status := change w.status })

/-! ## Probing and configuring -/

/-- How the reading of the profile may fail: the task that reads it, or the
store. -/
inductive ProfileFault where
  | task
  | store (error : RelayCredentialError)

/-- What a probe meets. -/
structure ProbeRun where
  /-- Another probe is under way. -/
  busy : Bool
  /-- The HTTP client was built. -/
  client : Bool
  /-- The revision of the credentials when the probe began. -/
  revision : Nat
  fault : Option ProfileFault
  result : Except RelayHttpError RelayProbeResult
  (checkedAt now : Timestamp)

/-- What the reconfiguration of the connection meets. -/
structure ConfigureRun where
  client : Bool
  /-- The profile from the address and token given, if they are valid. -/
  candidate : Except AppError RelayConnectionProfile
  revision : Nat
  result : Except RelayHttpError RelayProbeResult
  /-- The saved profile can be read. -/
  readable : Bool
  /-- The new profile can be written. -/
  writable : Bool
  (checkedAt now : Timestamp)

namespace RelayRuntime

/-- `relay_credential_app_error`. -/
def relayCredentialAppError (code : String) : AppError :=
  ⟨code,
    if code = "RELAY_PROFILE_INVALID" then "Relay 配置格式无效"
    else if code = "RELAY_PROFILE_WRITE_FAILED" then "Relay 配置无法安全保存，请稍后重试"
    else if code = "RELAY_PROFILE_CLEAR_FAILED" then "Relay 配置暂时无法清除"
    else "Relay 配置暂时无法读取"⟩

/-- The status after a failure on this side. -/
def localFailure (configured : Bool) (code : String) (current : RelayStatus) : RelayStatus :=
  replace
    { default with
      configured := configured, lastCheckedAt := current.lastCheckedAt,
      lastErrorCode := some code }
    current

/-- `record_local_failure`. -/
def recordLocalFailure (code : String) : RelayTask Unit := do
  let w ← read
  amendStatus (localFailure w.profile.isSome code)

/-- The status that a probe reports, with what it leaves open taken from
before. -/
def probedStatus (probe : RelayProbeResult) (checkedAt : Timestamp) (previous : RelayStatus) :
    RelayStatus :=
  let status := fromProbe probe checkedAt
  { status with
    canSubmit := status.canSubmit.or previous.canSubmit
    canReadOwn := status.canReadOwn.or previous.canReadOwn }

/-- The part of `probe_connection` after a successful answer. -/
def commitProbe (engine : DesktopEngine) (resumeDelivery : Bool) (probe : RelayProbeResult)
    (checkedAt now : Timestamp) : RelayTask RelayStatus := do
  let w ← read
  let status := probedStatus probe checkedAt w.status
  if !status.scopedAuthCapable then do
    amendStatus
      (replace { status with lastErrorCode := some "RELAY_SCOPED_AUTH_REQUIRED" })
    reject ⟨"RELAY_SCOPED_AUTH_REQUIRED",
      "Relay 服务器未声明 device_scopes_v1，不能继续使用"⟩
  else do
    amendStatus (replace status)
    onlyIf resumeDelivery do
      let _ ← onStore (resumeBlockedDelivery engine w.status status false now)
      pure ()
    pure status

/-- `probe_connection`. -/
def probeConnection (engine : DesktopEngine) (resumeDelivery : Bool) (run : ProbeRun) :
    RelayTask RelayStatus := do
  let w ← read
  if run.busy then pure w.status
  else if !run.client then do
    recordLocalFailure "RELAY_CLIENT_UNAVAILABLE"
    reject ⟨"RELAY_CLIENT_UNAVAILABLE", "Relay 网络客户端暂时不可用"⟩
  else if w.credentialRevision ≠ run.revision then pure w.status
  else
    match run.fault, w.profile with
    | some .task, _ => do
      recordLocalFailure "RELAY_PROFILE_UNREADABLE"
      reject ⟨"RELAY_PROFILE_UNREADABLE", "Relay 配置暂时无法读取"⟩
    | some (.store error), _ => do
      amendStatus (localFailure (!error.requiresReconfiguration) "RELAY_PROFILE_UNREADABLE")
      reject (relayCredentialAppError "RELAY_PROFILE_UNREADABLE")
    | none, none => do
      amendStatus (replace default)
      reject ⟨"RELAY_NOT_CONFIGURED", "尚未配置 Relay 服务器"⟩
    | none, some _ =>
      match run.result with
      | .ok probe => commitProbe engine resumeDelivery probe run.checkedAt run.now
      | .error error => do
        amendStatus (replace (fromProbeError error run.checkedAt))
        reject (relayHttpAppError error)

/-- The profile goes to the same device at the same address. -/
def sameDestination (old new : RelayConnectionProfile) : Bool :=
  old.baseUrl == new.baseUrl && old.deviceId == new.deviceId

/-- The saving of a profile in `configure`. -/
def saveProfile (run : ConfigureRun) (profile : RelayConnectionProfile) : RelayTask Unit := do
  let w ← read
  let same := run.readable && w.profile.any fun old => sameDestination old profile
  if !same && w.database.blocksDestinationChange then
    reject ⟨"RELAY_DESTINATION_HAS_PENDING",
      "旧目的地仍有未完成投递，请保留配置直到投递结束或明确取消旧队列"⟩
  else if !run.writable then reject (relayCredentialAppError "RELAY_PROFILE_WRITE_FAILED")
  else fun w =>
    (.ok (), { w with profile := some profile, credentialRevision := w.credentialRevision + 1 })

/-- `configure`. -/
def configure (engine : DesktopEngine) (run : ConfigureRun) : RelayTask RelayStatus := do
  let w ← read
  if !run.client then
    reject ⟨"RELAY_CLIENT_UNAVAILABLE", "Relay 网络客户端暂时不可用"⟩
  else
    match run.candidate, run.result with
    | .error error, _ => reject error
    | .ok _, .error error => reject (relayHttpAppError error)
    | .ok profile, .ok probe =>
      let status := fromProbe probe run.checkedAt
      if !status.scopedAuthCapable then
        reject ⟨"RELAY_SCOPED_AUTH_REQUIRED",
          "Relay 服务器必须声明 device_scopes_v1，配置才可保存"⟩
      else if w.credentialRevision ≠ run.revision then
        reject ⟨"RELAY_CONFIGURATION_CHANGED", "Relay 配置已改变，请重试"⟩
      else do
        saveProfile run profile
        amendStatus (replace status)
        let _ ← onStore (resumeBlockedDelivery engine w.status status true run.now)
        pure status

end RelayRuntime

/-! ## Delivering -/

/-- What `deliver_async` does before a request. -/
inductive Prepared where
  | stopped (result : DeliveryResult)
  | notify (profile : RelayConnectionProfile)
  | publish (profile : RelayConnectionProfile) (submission : Submission)

namespace RelaySender

/-- The payload is a result that is published in full. -/
def publishesResult (payload : NotificationPayloadV2) : Bool :=
  payload.contentMode == .fullFinal && payload.sourceHash.isSome

/-- The submission of a claim. -/
def submissionOf (codec : RelayCodec) (hashes : Hashes) (profile : RelayConnectionProfile)
    (claim : OutboxClaim) (runKey : Text) (revision : Int) (sourceHash : Text) : Submission where
  outboxId := claim.id
  sourceHash := sourceHash
  resultRevision := revision
  destinationIdentity := destinationIdentity codec hashes profile
  requestDigest := sourceHashSha256 hashes (codec.encodePublication
    { resultId := claim.id
      dedupeKey := claim.dedupeKey
      correlationKey := runKey
      resultRevision := decimal revision
      title := claim.payload.title
      body := claim.payload.body
      sourceHash
      createdAt := max claim.createdAt 0
      notificationExpiresAt := claim.expiresAt
      startedAt := claim.payload.startedAt
      completedAt := claim.payload.completedAt
      durationMs := claim.payload.durationMs })

/-- `deliver_async`, up to the registration of a submission. -/
def prepare (codec : RelayCodec) (hashes : Hashes) (resultPagesCapable : Bool)
    (loaded : LoadedProfile) (claim : OutboxClaim) : Prepared :=
  match loaded with
  | .ok none | .error _ => .stopped relayCredentialsBlock
  | .ok (some profile) =>
    if publishesResult claim.payload then
      if !resultPagesCapable then
        .stopped (.blocked
          ⟨"RELAY_RESULT_PAGES_UNAVAILABLE", "Relay has not enabled result pages"⟩)
      else
        match claim.agentRunKey, claim.payload.resultRevision, claim.payload.sourceHash with
        | some runKey, some revision, some sourceHash =>
          if revision < 0 then
            .stopped (permanentFailure "RESULT_METADATA_INVALID"
              "Full-final revision is invalid")
          else
            .publish profile
              (submissionOf codec hashes profile claim runKey revision sourceHash)
        | _, _, _ =>
          .stopped (permanentFailure "RESULT_METADATA_INVALID"
            "Full-final metadata is unavailable")
    else .notify profile

/-- The retry after a fault of the database. -/
def retryLater (errorCode errorMessage : String) : DeliveryResult :=
  .retryable ⟨.limited 8 5000, errorCode, errorMessage⟩

/-- The result when a submission could not be registered. -/
def unregistered : Failure AppError → DeliveryResult
  | .rejected error =>
    if error.code = "RESULT_IDEMPOTENCY_CONFLICT" then
      permanentFailure "RESULT_IDEMPOTENCY_CONFLICT"
        "Full-final identity conflicts with a previous submission"
    else
      retryLater "RESULT_METADATA_UNAVAILABLE" "Cannot persist full-final submission identity"
  | .statement =>
    retryLater "RESULT_METADATA_UNAVAILABLE" "Cannot persist full-final submission identity"

/-- The acceptance of a notice by the relay. -/
def acceptance (notificationId : Text) (acceptedAt : Timestamp) : DeliveryResult :=
  .accepted ⟨.relay, some notificationId, none, some acceptedAt⟩

/-- The result of a publication whose receipt was applied. -/
def published (receipt : RelayResultReceipt) :
    Except (Failure AppError) ResultReceiptApply → DeliveryResult
  | .ok .applied | .ok .alreadyApplied => acceptance receipt.notificationId receipt.acceptedAt
  | .ok .stale => retryLater "RESULT_RECEIPT_STALE" "Relay returned an older result receipt"
  | .error _ => retryLater "RESULT_RECEIPT_UNSAVED" "Cannot persist result publication receipt"

end RelaySender

/-- What comes of a request. -/
inductive RelayAnswer where
  /-- The hold is active, and no request was made. -/
  | held
  /-- The worker stops. -/
  | cancelled
  | failed (error : RelayHttpError)
  /-- `RelayAcceptedNotification`. -/
  | accepted (notificationId : Text) (acceptedAt : Timestamp)
  | published (receipt : RelayResultReceipt)

/-- The error that the observer of requests is told, if there was a request. -/
def RelayAnswer.observation : RelayAnswer → Option (Option RelayHttpError)
  | .held | .cancelled => none
  | .failed error => some (some error)
  | .accepted .. | .published _ => some none

/-- The HTTP client accepts only answers to the request that was made. -/
def RelayAnswer.fits (s : Sending) : RelayAnswer → Bool
  | .held | .cancelled | .failed _ => true
  | .accepted notificationId acceptedAt =>
    !s.publishes && validBoundedIdentifier notificationId 128 && notificationId == s.raw.id &&
      0 ≤ acceptedAt
  | .published receipt =>
    s.publishes && s.payload.sourceHash.any fun hash => receipt.isValidFor s.raw.id hash

/-! ## Receipts -/

/-- What a refresh reads about a candidate. -/
inductive RemoteReceipt where
  | result (receipt : RelayResultReceipt)
  | short (status : RelayRemoteNotificationState) (updatedAt : Timestamp)
      (providerMessageId : Option Text)

/-- A receipt answers what was asked: the status of a publication, or that of a
notification. -/
def RemoteReceipt.fits (asked : RelayReconciliationCandidate × Option Text) :
    RemoteReceipt → Bool
  | .result receipt => asked.2.any fun hash => receipt.isValidFor asked.1.outboxId hash
  | .short .. => asked.2.isNone

/-! ## The system -/

/-- An operation around the relay. -/
inductive RelayOp where
  | desk (op : DesktopOp)
  | send (raw : OutboxRow) (readable : Bool) (claimedNow : Timestamp)
      (fault : Option RelayCredentialError)
  /-- The attempt ends without a request: the worker stops, the user holds
  notices back, or the policy has changed. -/
  | decline (raw : OutboxRow) (claimedNow : Timestamp) (result : DeliveryResult)
  | answer (s : Sending) (reply : RelayAnswer) (observed : Bool) (now : Timestamp)
  | complete (a : Answered) (now : Timestamp)
  | probe (resumeDelivery : Bool) (run : ProbeRun)
  | configure (run : ConfigureRun)
  | startRefresh
  | fetchNext
  | receive (reply : Except RelayHttpError RemoteReceipt) (now : Timestamp)
  | endRefresh
  | registerAction (outboxId : Text) (action : ResultAction) (requestId : Text)
  | applyAction (outboxId : Text) (receipt : RelayResultReceipt) (action : ResultAction)
      (requestId : Text)
  | pruneRetained (now : Timestamp)
  | pruneBatch (now : Timestamp)
  | restart (fault : Option RelayCredentialError)

/-- The operations of the desktop that the relay runtime does not carry out
itself. -/
def DesktopOp.besideRelay : DesktopOp → Bool
  | .finish .. | .retryBlocked .. | .stop => false
  | .process .. | .passOver .. | .finalize .. | .project .. | .enqueueControl .. | .expireDue _
  | .claim .. | .recoverStale _ => true

/-- The results of an attempt for which no request is made. -/
def DeliveryResult.withoutRequest : DeliveryResult → Bool
  | .cancelled | .policyRevoked | .held => true
  | .accepted _ | .retryable _ | .blocked _ | .permanentFailure _ => false

/-- `REMOTE_RECONCILIATION_LIMIT`. -/
def remoteReconciliationLimit : Nat := 25

/-- The content of a claimed notice, where the protection lets it be read. -/
def contentOf (tools : Tools) (readable : Bool) (raw : OutboxRow) :
    Except AppError NotificationPayloadV2 :=
  if readable then tools.crypto.unprotectPayload raw.payloadJson
  else .error ⟨"PROTECTED_CONTENT_UNAVAILABLE", ""⟩

namespace RelayWorld

/-- `load_profile`. -/
def loadProfile (w : RelayWorld) (fault : Option RelayCredentialError) : LoadedProfile :=
  fault.elim (.ok w.profile) .error

/-- The observer compares the profile of the request with the saved one. -/
def observes (w : RelayWorld) (s : Sending) : Bool :=
  w.profile.any fun current =>
    current.baseUrl == s.profile.baseUrl && current.deviceToken == s.profile.deviceToken

/-- The page that a refresh begins with. -/
def firstPage (w : RelayWorld) : List OutboxRow :=
  let page := OutboxRepository.reconciliationPage w.database remoteReconciliationLimit
    w.receiptCursor
  if page.isEmpty && w.receiptCursor.isSome then
    OutboxRepository.reconciliationPage w.database remoteReconciliationLimit none
  else page

def candidateOf (r : OutboxRow) : Option RelayReconciliationCandidate :=
  r.relayNotificationId.map (⟨r.id, ·⟩)

/-- Start sending a claimed notice. -/
def send (deskEngine : DesktopEngine) (engine : DatabaseEngine) (tools : Tools)
    (codec : RelayCodec) (w : RelayWorld) (raw : OutboxRow) (readable : Bool)
    (claimedNow : Timestamp) (fault : Option RelayCredentialError) : Option RelayWorld :=
  if raw ∈ w.desk.attempts then
    match contentOf tools readable raw with
    | .error error =>
      ((DesktopOp.finish raw (.error error) claimedNow .cancelled claimedNow).next deskEngine tools
        w.desk).map fun desk => { w with desk := desk }
    | .ok payload =>
      match OutboxRepository.intoClaim tools.hashes (fun _ => .ok payload) claimedNow raw with
      | .error _ =>
        ((DesktopOp.finish raw (.ok payload) claimedNow .cancelled claimedNow).next deskEngine
          tools w.desk).map fun desk => { w with desk := desk }
      | .ok claim =>
        match RelaySender.prepare codec tools.hashes w.status.resultPagesCapable
            (w.loadProfile fault) claim with
        | .stopped result =>
          some { w with answered := w.answered ++ [⟨raw, payload, claimedNow, result⟩] }
        | .notify profile =>
          some { w with sending := w.sending ++ [⟨raw, payload, claimedNow, profile, false⟩] }
        | .publish profile submission =>
          match ResultStore.register engine submission w.database with
          | (.ok (), d) =>
            some { w.withDatabase d with
              sending := w.sending ++ [⟨raw, payload, claimedNow, profile, true⟩] }
          | (.error failure, d) =>
            some { w.withDatabase d with
              answered := w.answered ++
                [⟨raw, payload, claimedNow, RelaySender.unregistered failure⟩] }
  else none

/-- The status after the observer was told of an answer, if it was. -/
def observedStatus (w : RelayWorld) (reply : RelayAnswer) (observed : Bool) (now : Timestamp) :
    RelayStatus :=
  match reply.observation with
  | none => w.status
  | some error => w.status.onHttpResult observed error now

/-- Take the answer to a request. -/
def answer (engine : DatabaseEngine) (w : RelayWorld) (s : Sending) (reply : RelayAnswer)
    (observed : Bool) (now : Timestamp) : Option RelayWorld :=
  if s ∈ w.sending && reply.fits s && (!observed || w.observes s) then
    let status := w.observedStatus reply observed now
    let ended (result : DeliveryResult) (w : RelayWorld) : RelayWorld :=
      { w with
        status := status, sending := w.sending.erase s,
        answered := w.answered ++ [⟨s.raw, s.payload, s.claimedNow, result⟩] }
    match reply with
    | .held => some (ended .held w)
    | .cancelled => some (ended .cancelled w)
    | .failed error => some (ended (RelaySender.mapError error) w)
    | .accepted notificationId acceptedAt =>
      some (ended (RelaySender.acceptance notificationId acceptedAt) w)
    | .published receipt =>
      let run := ResultStore.apply engine s.raw.id receipt false w.database
      some (ended (RelaySender.published receipt run.1) (w.withDatabase run.2))
  else none

/-- Record the result of an attempt. -/
def complete (deskEngine : DesktopEngine) (tools : Tools) (w : RelayWorld) (a : Answered)
    (now : Timestamp) : Option RelayWorld :=
  if a ∈ w.answered then
    ((DesktopOp.finish a.raw (.ok a.payload) a.claimedNow a.result now).next deskEngine tools
      w.desk).map fun desk => { w with desk := desk, answered := w.answered.erase a }
  else none

/-- Begin a refresh, where none is under way and the profile can be read. -/
def startRefresh (tools : Tools) (codec : RelayCodec) (w : RelayWorld) : Option RelayWorld :=
  match w.refresh, w.profile with
  | none, some profile =>
    some { w with
      refresh := some
        { revision := w.credentialRevision,
          destination := destinationIdentity codec tools.hashes profile,
          waiting := w.firstPage.filterMap candidateOf, fetching := none } }
  | _, _ => none

/-- Go on to the next candidate.  One that was published to another destination
is passed over. -/
def fetchNext (w : RelayWorld) : Option RelayWorld :=
  match w.refresh with
  | some ⟨revision, destination, candidate :: waiting, none⟩ =>
    let asked := (w.database.publication candidate.outboxId).map (·.sourceHash)
    let elsewhere := (w.database.publication candidate.outboxId).any fun p =>
      p.destinationIdentity != destination
    some { w with
      receiptCursor := some candidate.outboxId
      refresh := some
        ⟨revision, destination, waiting, if elsewhere then none else some (candidate, asked)⟩ }
  | _ => none

/-- Store what was read about a candidate. -/
def storeReceipt (engine : DatabaseEngine) (candidate : RelayReconciliationCandidate) :
    RemoteReceipt → Base Unit
  | .result receipt => do
    let _ ← ResultStore.apply engine candidate.outboxId receipt false
    pure ()
  | .short status updatedAt providerMessageId => do
    let _ ← OutboxRepository.applyRelayRemoteStatus engine
      ⟨candidate.outboxId, candidate.notificationId, status.asStr, updatedAt, providerMessageId⟩
    pure ()

/-- Take the answer about the candidate that is being fetched.  After a
reconfiguration the refresh ends instead. -/
def receive (engine : DatabaseEngine) (w : RelayWorld)
    (reply : Except RelayHttpError RemoteReceipt) (now : Timestamp) : Option RelayWorld :=
  match w.refresh with
  | some ⟨revision, destination, waiting, some asked⟩ =>
    if w.credentialRevision ≠ revision then some { w with refresh := none }
    else
      let refresh := some ⟨revision, destination, waiting, none⟩
      match reply with
      | .error error =>
        some { w with
          status := w.status.recordOperationalHttpFailure error true now, refresh := refresh }
      | .ok receipt =>
        if receipt.fits asked then
          let run := storeReceipt engine asked.1 receipt w.database
          some { w.withDatabase run.2 with
            status := w.status.afterReceipt now, refresh := refresh }
        else none
  | _ => none

end RelayWorld

/-- Carry out an operation. -/
def RelayOp.next (deskEngine : DesktopEngine) (engine : DatabaseEngine) (tools : Tools)
    (codec : RelayCodec) (w : RelayWorld) : RelayOp → Option RelayWorld
  | .desk op =>
    if op.besideRelay then
      (op.next deskEngine tools w.desk).map fun desk => { w with desk := desk }
    else none
  | .send raw readable claimedNow fault =>
    w.send deskEngine engine tools codec raw readable claimedNow fault
  | .decline raw claimedNow result =>
    match tools.crypto.unprotectPayload raw.payloadJson with
    | .ok payload =>
      if raw ∈ w.desk.attempts && result.withoutRequest then
        some { w with answered := w.answered ++ [⟨raw, payload, claimedNow, result⟩] }
      else none
    | .error _ => none
  | .answer s reply observed now => w.answer engine s reply observed now
  | .complete a now => w.complete deskEngine tools a now
  | .probe resumeDelivery run =>
    some (RelayRuntime.probeConnection deskEngine resumeDelivery run w).2
  | .configure run => some (RelayRuntime.configure deskEngine run w).2
  | .startRefresh => w.startRefresh tools codec
  | .fetchNext => w.fetchNext
  | .receive reply now => w.receive engine reply now
  | .endRefresh => some { w with refresh := none }
  | .registerAction outboxId action requestId =>
    some (w.withDatabase
      (ResultStore.registerAction engine outboxId action requestId w.database).2)
  | .applyAction outboxId receipt action requestId =>
    some (w.withDatabase
      (ResultStore.applyAction engine outboxId receipt action requestId w.database).2)
  | .pruneRetained now =>
    some (w.withDatabase (OutboxRepository.pruneRetained engine now w.database).2)
  | .pruneBatch now =>
    some (w.withDatabase (Retention.pruneBatch engine tools now w.database).2)
  | .restart fault =>
    some { w with
      desk := { w.desk with attempts := [] }, sending := [], answered := [], refresh := none,
      receiptCursor := none, status := atStart w.profile.isSome (w.loadProfile fault),
      credentialRevision := 0 }

/-- One step, under some engines. -/
def RelayStep (tools : Tools) (codec : RelayCodec) (w : RelayWorld) (op : RelayOp)
    (w' : RelayWorld) : Prop :=
  ∃ deskEngine engine, op.next deskEngine engine tools codec w = some w'

/-- A new desktop, not yet connected. -/
def RelayWorld.initial : RelayWorld where
  desk := DesktopWorld.initial
  publications := []
  sending := []
  answered := []
  refresh := none
  receiptCursor := none
  status := atStart false (.ok none)
  profile := none
  credentialRevision := 0

/-! ## A relay to run -/

/-- Libraries with which every payload reads as the same text. -/
def relayTools : Tools :=
  { sampleTools with
    crypto := { sampleTools.crypto with unprotectPayload := fun _ => .ok samplePayload } }

def sampleCodec : RelayCodec where
  encodePublication p := p.resultId
  encodeDestination d := d.1 ++ d.2

def sampleProfile : RelayConnectionProfile := ⟨text "https://relay", text "token", text "device"⟩

/-- A relay with everything that deliveries need. -/
def sampleProbe : RelayProbeResult where
  deviceStatus := some ⟨text "device", true, true, .ready⟩
  serverInfo := ⟨1, text "1", [text "notifications", text "device_scopes_v1",
    text "result_pages_v1"]⟩
  supportsNotifications := true
  supportsDeviceScopes := true

/-- The desktop is connected to the sample relay. -/
def sampleConfigure : RelayOp :=
  .configure
    { client := true, candidate := .ok sampleProfile, revision := 0, result := .ok sampleProbe,
      readable := true, writable := true, checkedAt := 0, now := 0 }

/-- Carry out operations in order, under engines without faults. -/
def relayRun (w : RelayWorld) (ops : List RelayOp) : Option RelayWorld :=
  replay (fun w op => op.next desktopSqlite databaseSqlite relayTools sampleCodec w) w ops

theorem run_of_relayRun {w w' : RelayWorld} {ops : List RelayOp} (h : relayRun w ops = some w') :
    Run (RelayStep relayTools sampleCodec) w ops w' :=
  (run_of_replay h).mono fun _ _ _ hnext => ⟨desktopSqlite, databaseSqlite, hnext⟩

/-- The row of a test notice with the key `k`, queued at time zero. -/
def queuedTest : OutboxRow :=
  NotificationInsert.row relayTools.hashes
    { agentRunKey := none, kind := .test, dedupeKey := text "k", payload := samplePayload,
      contentPolicyHash := none, createdAt := 0, notBefore := 0, expiresAt := none } []

/-- That row as its first claim returned it. -/
def claimedTest (now : Timestamp) : OutboxRow :=
  OutboxRepository.claimedAtNow now queuedTest

end PromptDock.Desktop
