import PromptDock.OutboxRuns
import PromptDock.Wechat.WechatMonitor

/-!
# The WeChat channel of the outbox

The outbox worker claims a notification and sends it over the connection that the
monitor keeps (`wechat/channel/mod.rs`, `outbox/worker.rs`); when the monitor
activates the channel, a hook puts the notifications back that wait for it
(`server.rs`).  Worker, monitor, hook and the operations on the connection
(`monitor/runtime.rs`) interleave: each operation of `ChannelOp` is one critical
section of the shared state, one statement on the store, or one answer from
outside.
-/

namespace PromptDock.Wechat

/-! ## Sending -/

structure ConnectionSnapshot where
  bundle : ConnectionBundle
  revision : Nat
deriving DecidableEq

/-- `WechatMonitorHandle::connection_snapshot`. -/
def SharedState.connectionSnapshot (s : SharedState) : Option ConnectionSnapshot :=
  s.bundle.map (⟨·, s.revision⟩)

/-- What keeps a message from being requested at all. -/
def refuseMessage (tools : WechatTools) (target : Option String) (bundle : ConnectionBundle) :
    Option ChannelFailure :=
  if target.any (· != accountFingerprint tools.blake3 bundle.credentials.userId) then
    some .blockedTargetChanged
  else if bundle.session.contextToken.isNone then some .blockedActivation
  else if bundle.session.contextTokenUserId ≠ some bundle.credentials.userId then
    some .blockedActivation
  else if !tools.parsesUrl bundle.credentials.baseUrl then some .blockedReconnect
  else none

/-- `map_send_error`. -/
def mapSendError (error : WechatHttpError) (contextChanged : Bool) : ChannelFailure :=
  match error with
  | .cancelled => .cancelled
  | .timeout | .transport | .responseTooLarge | .invalidJson | .invalidResponse =>
    .retryable .network
  | .httpStatus status =>
    if status = 429 then .retryable .rateLimited
    else if status = 401 || status = 403 then .blockedReconnect
    else if 500 ≤ status then .retryable .network
    else .permanentFailure
  | .apiRejected category =>
    match category with
    | .authenticationExpired => .blockedReconnect
    | .contextRejected =>
      if contextChanged then .retryable .contextChanged else .retryable .contextRejected
    | .rateLimited => .retryable .rateLimited
    | .ambiguousMinusTwo => .retryable .ambiguousMinusTwo
    | .policyRejected | .invalidRequest | .unknown => .permanentFailure
  | .invalidEndpoint | .invalidHeader | .clientConfiguration => .permanentFailure

/-- `message_id` of a response: a text, a number with its text, or something
else. -/
inductive MessageIdValue where
  | string (value : String)
  | number (value : String)
  | other

/-- `provider_message_id`. -/
def providerMessageId (value : Option MessageIdValue) : Option String :=
  let text := value.bind fun value =>
    match value with
    | .string text | .number text => some text
    | .other => none
  text.filter fun text => !text.isEmpty && text.utf8ByteSize ≤ 512

/-- The marks that a failed request makes in the shared state, and the failure
that is left.  Where the connection has changed meanwhile, the failure says
nothing about it. -/
def markFailure (snapshot : ConnectionSnapshot) (failure : ChannelFailure) (s : SharedState) :
    ChannelFailure × SharedState :=
  match failure with
  | .blockedReconnect =>
    let (marked, s') :=
      s.markReconnectRequiredIfRevision snapshot.revision "WECHAT_SEND_RECONNECT_REQUIRED"
    (if marked then failure else .retryable .contextChanged, s')
  | .retryable .contextRejected | .retryable .ambiguousMinusTwo =>
    let (marked, s') :=
      s.markActivationRequiredIfRevision snapshot.revision "WECHAT_SEND_ACTIVATION_REQUIRED"
    (if marked then failure else .retryable .contextChanged, s')
  | _ => (failure, s)

/-- How far the sending of a claimed notification is. -/
inductive DeliveryPhase where
  /-- The status of the channel is to be read. -/
  | asked
  /-- The channel was activated; its bundle is to be read. -/
  | admitted
  /-- The channel was not ready; whether there is a connection is to be read. -/
  | unready
  | requesting (snapshot : ConnectionSnapshot)
  /-- The request failed; what that says of the connection is to be marked. -/
  | refused (snapshot : ConnectionSnapshot) (failure : ChannelFailure)
  /-- The outcome is to be recorded. -/
  | answered (outcome : ChannelOutcome)
deriving DecidableEq

structure Delivery where
  claim : ClaimedNotification
  phase : DeliveryPhase
deriving DecidableEq

/-! ## The worker of the monitor -/

/-- The statement of a hook that comes next. -/
inductive HookStage where
  | activation | reconnect
deriving DecidableEq

/-- Where `run_monitor` is. -/
inductive MonitorPhase where
  /-- The address is to be parsed. -/
  | starting
  /-- `notify_start` is under way. -/
  | connecting
  /-- `hook.activated()` after `set_active`. -/
  | announcing (stage : HookStage) (recovered : Bool)
  /-- The monitor is to be checked to be active still. -/
  | checking (recovered : Bool)
  /-- `hook.reconnected()`. -/
  | recovering
  /-- `get_updates` is under way. -/
  | polling
  /-- `apply_response` takes in a response. -/
  | collecting (response : GetUpdatesResponse)
  /-- The next bundle is being saved. -/
  | saving (next : ConnectionBundle) (inbound : Bool) (now : Timestamp)
  /-- The next bundle was saved and is to be published. -/
  | committing (next : ConnectionBundle) (inbound : Bool) (now : Timestamp)
  /-- `hook.activated()` after an update. -/
  | releasing (stage : HookStage)
  /-- The wait before the next attempt to connect. -/
  | waiting
  /-- `finish_monitor` is to come. -/
  | finishing
  /-- The task has ended, and its observer is to say so. -/
  | ended
deriving DecidableEq

structure MonitorWorker where
  bundle : ConnectionBundle
  failures : Nat
  (reconnecting cancelled : Bool)
  phase : MonitorPhase

/-- The worker that `replace_bundle` spawns. -/
def MonitorWorker.new (bundle : ConnectionBundle) : MonitorWorker :=
  ⟨bundle, 0, false, false, .starting⟩

/-- The activation has happened, and its sweep is still to come. -/
def MonitorPhase.sweepDue : MonitorPhase → Bool
  | .announcing .activation _ | .releasing .activation => true
  | _ => false

/-- A hook is being called. -/
def MonitorPhase.inHook : MonitorPhase → Bool
  | .announcing .. | .recovering | .releasing _ => true
  | _ => false

/-- An operation on the lifecycle of the monitor.  Each first stops the worker
and joins it. -/
inductive LifecycleOp where
  | replaceBundle (bundle : ConnectionBundle)
  | stop | stopAndClear
deriving DecidableEq

/-! ## The system -/

structure ChannelWorld where
  store : RelayStore
  clock : Timestamp
  shared : SharedState
  worker : Option MonitorWorker
  /-- The operation that holds the lifecycle lock. -/
  lifecycle : Option LifecycleOp
  deliveries : List Delivery

namespace ChannelWorld

/-- The channel is activated. -/
def activated (w : ChannelWorld) : Bool := w.shared.status.activated

def sweepDue (w : ChannelWorld) : Bool := w.worker.any (·.phase.sweepDue)

/-- A hook is being called. -/
def inHook (w : ChannelWorld) : Bool := w.worker.any (·.phase.inHook)

/-- The server starts, with the connection that it found. -/
def started (store : RelayStore) (clock : Timestamp) (bundle : Option ConnectionBundle) :
    ChannelWorld :=
  ⟨store, clock, .initial bundle, none, none, []⟩

end ChannelWorld

/-- What the worker of the monitor does next, with what it is answered. -/
inductive MonitorOp where
  | parse
  | notifyStart (result : Except WechatHttpError Unit)
  | sweep (now : Timestamp)
  | check
  | getUpdates (result : Except WechatHttpError GetUpdatesResponse) (now : Timestamp)
  | collect (accepts : EphemeralInboundText → Bool) (now : Timestamp)
  | save (saved : Bool)
  | commit | retry | finish | observe

/-- What the worker of the outbox does next with a notification that it
claimed. -/
inductive DeliveryOp where
  | look
  | read
  | hasConnection
  | reply (result : Except WechatHttpError (Option MessageIdValue))
  | mark
  | record (now : Timestamp)
  /-- The link of a result is gone: nothing is sent. -/
  | withhold (now : Timestamp)
  /-- The worker is stopped. -/
  | interrupt (now : Timestamp)

inductive ChannelOp where
  /-- Time passes. -/
  | tick (time : Timestamp)
  /-- An operation of the outbox that neither settles a delivery nor unblocks. -/
  | outbox (op : OutboxOp)
  /-- The claiming statement of a worker's pass. -/
  | claim (token : Uuid) (now : Timestamp)
  | delivery (d : Delivery) (op : DeliveryOp)
  | monitor (op : MonitorOp)
  | beginLifecycle (op : LifecycleOp)
  | endLifecycle
  /-- `mark_reconnect_required`, outside of a delivery. -/
  | markReconnect (errorCode : String)
  /-- The process ends and starts again. -/
  | restart (bundle : Option ConnectionBundle)

/-- The operations of the outbox that the worker and the hooks carry out
themselves. -/
def ofChannel : OutboxOp → Bool
  | .claimReady .. | .claimNext .. | .finish .. | .release .. | .unblock .. => true
  | .enqueueDevice .. | .enqueueSystemReply .. | .enqueueAdminTest .. | .publishNotice ..
  | .resendNotice .. | .expireDue _ | .expireClaimed _ | .requeueStale _ | .recoverStale _
  | .revokeResult .. => false

/-- `failures.saturating_add(1)`, on 32 bits. -/
def nextFailures (failures : Nat) : Nat :=
  min (failures + 1) 4294967295

namespace ChannelWorld

variable (w : ChannelWorld)

/-- The delivery goes on to another phase. -/
def withPhase (d : Delivery) (phase : DeliveryPhase) : ChannelWorld :=
  { w with deliveries := w.deliveries.erase d ++ [{ d with phase := phase }] }

/-- The claim is settled, and the delivery over. -/
def settle (d : Delivery) (m : Relay OutboxError Bool) : ChannelWorld :=
  { w with store := (m w.store).2, deliveries := w.deliveries.erase d }

/-- The worker goes on to another phase. -/
def withWorker (worker : MonitorWorker) (phase : MonitorPhase) : ChannelWorld :=
  { w with worker := some { worker with phase := phase } }

/-- The worker failed and will try again. -/
def failing (worker : MonitorWorker) (errorCode : String) : ChannelWorld :=
  let failures := nextFailures worker.failures
  { w with
    shared := w.shared.setRetryFailure failures errorCode
    worker := some { worker with failures := failures, reconnecting := true, phase := .waiting } }

/-- The end of an attempt by an error of the transport. -/
def afterError (worker : MonitorWorker) (error : WechatHttpError) : ChannelWorld :=
  if error = .cancelled && worker.cancelled then w.withWorker worker .finishing
  else if error.isTerminalError then
    { w with
      shared := w.shared.setTerminalFailure error.errorCode
      worker := some { worker with phase := .finishing } }
  else w.failing worker error.errorCode

/-- The statement of a hook. -/
def sweep (engine : RelayEngine) (block : ChannelBlock) (now : Timestamp) : RelayStore :=
  (OutboxService.unblockAt engine block now w.store).2

/-- One step of the monitor's worker. -/
def monitorNext (engine : RelayEngine) (tools : WechatTools) (worker : MonitorWorker) :
    MonitorOp → Option ChannelWorld
  | .parse =>
    if worker.phase = .starting then
      if tools.parsesUrl worker.bundle.credentials.baseUrl then
        some (w.withWorker worker .connecting)
      else
        some { w with
          shared := w.shared.setTerminalFailure "WECHAT_INVALID_ENDPOINT"
          worker := some { worker with phase := .ended } }
    else none
  | .notifyStart result =>
    if worker.phase = .connecting then
      match result with
      | .error error => some (w.afterError worker error)
      | .ok () =>
        match w.shared.setActive worker.bundle with
        | (none, shared) =>
          some { w with shared := shared, worker := some { worker with phase := .finishing } }
        | (some announce, shared) =>
          let phase :=
            if announce then .announcing .activation worker.reconnecting
            else .checking worker.reconnecting
          some { w with
            shared := shared
            worker := some { worker with reconnecting := false, phase := phase } }
    else none
  | .sweep now =>
    match worker.phase with
    | .announcing .activation recovered =>
      some { w.withWorker worker (.announcing .reconnect recovered) with
        store := w.sweep engine .activation now }
    | .announcing .reconnect recovered =>
      some { w.withWorker worker (.checking recovered) with
        store := w.sweep engine .reconnect now }
    | .recovering =>
      some { w.withWorker worker (.checking false) with
        store := w.sweep engine .reconnect now }
    | .releasing .activation =>
      some { w.withWorker worker (.releasing .reconnect) with
        store := w.sweep engine .activation now }
    | .releasing .reconnect =>
      some { w.withWorker worker .polling with store := w.sweep engine .reconnect now }
    | _ => none
  | .check =>
    match worker.phase with
    | .checking recovered =>
      if !w.shared.isMonitorActive then some (w.withWorker worker .finishing)
      else some (w.withWorker worker (if recovered then .recovering else .polling))
    | _ => none
  | .getUpdates result now =>
    if worker.phase = .polling then
      match result with
      | .error error => some (w.afterError worker error)
      | .ok response =>
        some { w with
          shared := w.shared.setLastPoll now
          worker := some { worker with phase := .collecting response } }
    else none
  | .collect accepts now =>
    match worker.phase with
    | .collecting response =>
      match collectUpdate tools.blake3 now accepts worker.bundle response with
      | none => some (w.failing worker "WECHAT_MONITOR_CAPTURE_FAILED")
      | some update =>
        if !update.changed then
          some { w with
            shared := if update.inbound then w.shared.setLastInbound now else w.shared
            worker := some { worker with failures := 0, phase := .polling } }
        else
          match update.next.validate with
          | .error _ => some (w.failing worker "WECHAT_MONITOR_PERSIST_FAILED")
          | .ok () => some (w.withWorker worker (.saving update.next update.inbound now))
    | _ => none
  | .save saved =>
    match worker.phase with
    | .saving next inbound now =>
      if saved then some (w.withWorker worker (.committing next inbound now))
      else some (w.failing worker "WECHAT_MONITOR_PERSIST_FAILED")
    | _ => none
  | .commit =>
    match worker.phase with
    | .committing next inbound now =>
      let (became, shared) := w.shared.commitUpdate worker.bundle next inbound now
      some { w with
        shared := shared
        worker := some
          { worker with
            bundle := next, failures := 0,
            phase := if became then .releasing .activation else .polling } }
    | _ => none
  | .retry =>
    if worker.phase = .waiting then
      some (w.withWorker worker (if worker.cancelled then .finishing else .connecting))
    else none
  | .finish =>
    if worker.phase = .finishing then
      some { w with
        shared := w.shared.finishMonitor, worker := some { worker with phase := .ended } }
    else none
  | .observe =>
    if worker.phase = .ended then
      some { w with
        shared :=
          if worker.cancelled then w.shared
          else w.shared.setWorkerFailure "WECHAT_MONITOR_WORKER_EXITED"
        worker := none }
    else none

/-- One step of the sending of a notification. -/
def deliveryNext (engine : RelayEngine) (tools : WechatTools) (d : Delivery) :
    DeliveryOp → Option ChannelWorld
  | .look =>
    if d.phase = .asked then
      some (w.withPhase d (if w.activated then .admitted else .unready))
    else none
  | .read =>
    if d.phase = .admitted then
      match w.shared.connectionSnapshot with
      | none => some (w.withPhase d .unready)
      | some snapshot =>
        match refuseMessage tools d.claim.targetAccountFingerprint snapshot.bundle with
        | some failure => some (w.withPhase d (.answered (.failure failure)))
        | none => some (w.withPhase d (.requesting snapshot))
    else none
  | .hasConnection =>
    if d.phase = .unready then
      let failure :=
        if w.shared.bundle.isSome then ChannelFailure.blockedActivation else .blockedReconnect
      some (w.withPhase d (.answered (.failure failure)))
    else none
  | .reply result =>
    match d.phase with
    | .requesting snapshot =>
      match result with
      | .ok messageId => some (w.withPhase d (.answered (.accepted (providerMessageId messageId))))
      | .error error =>
        let failure := mapSendError error (snapshot.revision ≠ w.shared.revision)
        some (w.withPhase d (.refused snapshot failure))
    | _ => none
  | .mark =>
    match d.phase with
    | .refused snapshot failure =>
      let (failure, shared) := markFailure snapshot failure w.shared
      some { w.withPhase d (.answered (.failure failure)) with shared := shared }
    | _ => none
  | .record now =>
    match d.phase with
    | .answered (.failure .cancelled) =>
      some (w.settle d (OutboxService.releaseClaimAt engine d.claim now))
    | .answered outcome =>
      some (w.settle d (OutboxService.finishClaimAt engine d.claim outcome now))
    | _ => none
  | .withhold now =>
    if d.phase = .asked && d.claim.kind == "result_link" then
      some (w.settle d
        (OutboxService.finishClaimAt engine d.claim (.failure .permanentFailure) now))
    else none
  | .interrupt now => some (w.settle d (OutboxService.releaseClaimAt engine d.claim now))

/-- The end of an operation on the lifecycle, once the worker is gone. -/
def endLifecycle : Option ChannelWorld :=
  match w.worker, w.lifecycle with
  | none, some (.replaceBundle bundle) =>
    some { w with
      shared := w.shared.installed bundle, worker := some (.new bundle), lifecycle := none }
  | none, some .stop => some { w with shared := w.shared.stopped, lifecycle := none }
  | none, some .stopAndClear => some { w with shared := w.shared.cleared, lifecycle := none }
  | _, _ => none

end ChannelWorld

/-- A bundle is validated before it is installed. -/
def LifecycleOp.admissible : LifecycleOp → Bool
  | .replaceBundle bundle => bundle.validate.isOk
  | .stop | .stopAndClear => true

/-- Carry out an operation. -/
def ChannelOp.next (engine : RelayEngine) (tools : WechatTools) (w : ChannelWorld) :
    ChannelOp → Option ChannelWorld
  | .tick time => some { w with clock := time }
  | .outbox op =>
    if ofChannel op then none
    else some { w with store := (op.apply engine tools.blake3 w.store).2 }
  | .claim token now =>
    let (result, store) := OutboxService.claimReadyAt engine token now w.store
    some { w with
      store := store
      deliveries :=
        match result with
        | .ok (some claimed) => w.deliveries ++ [⟨claimed, .asked⟩]
        | _ => w.deliveries }
  | .monitor op => w.worker.bind fun worker => w.monitorNext engine tools worker op
  | .beginLifecycle op =>
    if w.lifecycle.isNone && op.admissible then
      some { w with
        lifecycle := some op
        worker := w.worker.map fun worker => { worker with cancelled := true } }
    else none
  | .endLifecycle => w.endLifecycle
  | .markReconnect errorCode => some { w with shared := w.shared.setTerminalFailure errorCode }
  | .restart bundle => some (.started w.store w.clock bundle)
  | .delivery d op => if d ∈ w.deliveries then w.deliveryNext engine tools d op else none

/-- One step, under some engine. -/
def ChannelStep (tools : WechatTools) (w : ChannelWorld) (op : RelayEngine × ChannelOp)
    (w' : ChannelWorld) : Prop :=
  op.2.next op.1 tools w = some w'

end PromptDock.Wechat
