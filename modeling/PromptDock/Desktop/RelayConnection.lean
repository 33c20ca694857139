import PromptDock.Desktop.OutboxRepository

/-!
# The connection to the relay

What the desktop knows of its relay is a record of facts in memory
(`relay/state.rs`).  Probes replace it, answers to deliveries and to status
requests amend it.  A notice that the relay cannot take for want of credentials,
of result pages or of a target is blocked in the outbox (`relay/sender.rs`);
`resumeBlockedDelivery` lifts those blocks whose prerequisite a change of the
facts shows to be met.

The HTTP client stands outside: its answers are inputs.
-/

namespace PromptDock.Desktop

/-! ## Failures of requests -/

inductive RelayEndpoint where
  | live | ready | serverInfo | notifications | results | deviceStatus
deriving DecidableEq

inductive RelayTransportErrorKind where
  | connect | request
deriving DecidableEq

inductive RelayHttpError where
  | invalidEndpoint
  | invalidDeviceToken
  | clientConfiguration
  | cancelled
  | timeout
  | transport (kind : RelayTransportErrorKind)
  | authenticationRejected (status : Nat)
  | insufficientScope
  | targetUnavailable
  | retryAfter (delayMs : Int)
  | notReady (status : Nat)
  | httpStatus (endpoint : RelayEndpoint) (status : Nat)
  | responseTooLarge
  | invalidJson (endpoint : RelayEndpoint)
  | invalidResponse (endpoint : RelayEndpoint)
  | unsupportedApiVersion (version : Nat)
deriving DecidableEq

def RelayHttpError.code : RelayHttpError → String
  | .invalidEndpoint => "RELAY_ENDPOINT_INVALID"
  | .invalidDeviceToken => "RELAY_TOKEN_INVALID"
  | .clientConfiguration => "RELAY_CLIENT_UNAVAILABLE"
  | .cancelled => "RELAY_CANCELLED"
  | .timeout => "RELAY_TIMEOUT"
  | .transport _ => "RELAY_UNREACHABLE"
  | .authenticationRejected _ => "RELAY_AUTH_FAILED"
  | .insufficientScope => "RELAY_INSUFFICIENT_SCOPE"
  | .targetUnavailable => "RELAY_TARGET_UNAVAILABLE"
  | .retryAfter _ => "RELAY_RETRY_AFTER"
  | .notReady _ => "RELAY_NOT_READY"
  | .httpStatus .results 404 => "RELAY_RESULT_NOT_FOUND"
  | .httpStatus _ _ => "RELAY_HTTP_STATUS"
  | .responseTooLarge => "RELAY_RESPONSE_TOO_LARGE"
  | .invalidJson _ | .invalidResponse _ => "RELAY_RESPONSE_INVALID"
  | .unsupportedApiVersion _ => "RELAY_API_UNSUPPORTED"

/-- The message of `relay_http_app_error`. -/
def RelayHttpError.message : RelayHttpError → String
  | .invalidEndpoint => "Relay 地址无效或不符合安全要求"
  | .invalidDeviceToken => "Relay Device Token 格式无效"
  | .authenticationRejected _ => "Relay Device Token 未通过认证"
  | .insufficientScope => "Relay 连接有效，但 Device Token 权限不足"
  | .targetUnavailable => "请在 Relay 管理端连接微信账号，全文通知将等待重试"
  | .notReady _ => "Relay 服务器尚未就绪"
  | .retryAfter _ => "Relay 暂时限流，正在等待重试"
  | .timeout => "连接 Relay 服务器超时"
  | .cancelled => "Relay 连接检测已取消"
  | .unsupportedApiVersion _ => "Relay API 版本不受支持"
  | .responseTooLarge | .invalidJson _ | .invalidResponse _ => "Relay 返回了无效响应"
  | .clientConfiguration => "Relay 网络客户端暂时不可用"
  | .transport _ | .httpStatus _ _ => "无法连接 Relay 服务器"

/-- `relay_http_app_error`. -/
def relayHttpAppError (error : RelayHttpError) : AppError :=
  ⟨error.code, error.message⟩

/-! ## Credentials -/

structure RelayConnectionProfile where
  (baseUrl deviceToken deviceId : Text)
deriving DecidableEq

/-- `RelayCredentialError`. -/
inductive RelayCredentialError where
  | unavailable | invalidData | serialization | io | dataProtection | unsupportedPlatform

/-- `profile_error_requires_reconfiguration`. -/
def RelayCredentialError.requiresReconfiguration : RelayCredentialError → Bool
  | .invalidData => true
  | .unavailable | .serialization | .io | .dataProtection | .unsupportedPlatform => false

/-- What `load_profile` returns: the saved profile if there is one, or an
error. -/
abbrev LoadedProfile := Except RelayCredentialError (Option RelayConnectionProfile)

/-! ## What a probe reports -/

structure RelayServerInfo where
  apiVersion : Nat
  serverVersion : Text
  features : List Text

inductive RelayChannelState where
  | unknown | ready | activationRequired | reconnectRequired

structure RelayDeviceStatus where
  deviceId : Text
  (canSubmit canReadOwn : Bool)
  channelState : RelayChannelState

structure RelayProbeResult where
  deviceStatus : Option RelayDeviceStatus
  serverInfo : RelayServerInfo
  (supportsNotifications supportsDeviceScopes : Bool)

/-- `from_server_info`. -/
def RelayProbeResult.fromServerInfo (serverInfo : RelayServerInfo) : RelayProbeResult where
  deviceStatus := none
  serverInfo := serverInfo
  supportsNotifications := serverInfo.features.contains (text "notifications")
  supportsDeviceScopes := serverInfo.features.contains (text "device_scopes_v1")

/-! ## The facts -/

/-- `RelayStatus`.  The epoch of the process and the hint at the endpoint, which
are only shown, are left out. -/
structure RelayStatus where
  revision : Nat
  state : String
  (canSubmit canReadOwn : Option Bool)
  (configured reachable authenticated : Bool)
  apiVersion : Option Nat
  serverVersion : Option Text
  features : List Text
  (notificationCapable scopedAuthCapable : Bool)
  (lastCheckedAt lastSuccessAt : Option Timestamp)
  lastErrorCode : Option String

namespace RelayStatus

/-- `RelayStatus::default()`. -/
def default : RelayStatus where
  revision := 0
  state := ""
  canSubmit := none
  canReadOwn := none
  configured := false
  reachable := false
  authenticated := false
  apiVersion := none
  serverVersion := none
  features := []
  notificationCapable := false
  scopedAuthCapable := false
  lastCheckedAt := none
  lastSuccessAt := none
  lastErrorCode := none

/-- `availability`. -/
def availability (status : RelayStatus) : String :=
  if !status.configured then "not_configured"
  else
    match status.lastErrorCode with
    | some code =>
      if code = "RELAY_AUTH_FAILED" || code = "RELAY_TOKEN_INVALID" then "auth_failed"
      else if code = "RELAY_INSUFFICIENT_SCOPE" then "permission_denied"
      else if code = "RELAY_SCOPED_AUTH_REQUIRED" || code = "RELAY_API_UNSUPPORTED" then
        "capability_missing"
      else if !status.reachable then "unreachable"
      else "stale"
    | none =>
      if status.lastCheckedAt.isNone then "checking"
      else if status.canSubmit = some false || status.canReadOwn = some false then
        "permission_denied"
      else if !status.notificationCapable || !status.scopedAuthCapable then
        "capability_missing"
      else if status.reachable && status.authenticated then "ready"
      else "unreachable"

/-- `u64::MAX`. -/
def maxStatusRevision : Nat := 18446744073709551615

/-- `update_status`. -/
def update (change : RelayStatus → RelayStatus) (current : RelayStatus) : RelayStatus :=
  let changed := change current
  let counted := { changed with revision := min (changed.revision + 1) maxStatusRevision }
  { counted with state := counted.availability }

/-- `replace_status`. -/
def replace (status current : RelayStatus) : RelayStatus :=
  update (fun current => { status with revision := current.revision }) current

/-- `status_from_probe`. -/
def fromProbe (probe : RelayProbeResult) (checkedAt : Timestamp) : RelayStatus :=
  { default with
    configured := true, reachable := true, authenticated := true,
    apiVersion := some probe.serverInfo.apiVersion,
    serverVersion := some probe.serverInfo.serverVersion,
    notificationCapable := probe.supportsNotifications,
    canSubmit := probe.deviceStatus.map (·.canSubmit),
    canReadOwn := probe.deviceStatus.map (·.canReadOwn),
    scopedAuthCapable := probe.supportsDeviceScopes, features := probe.serverInfo.features,
    lastCheckedAt := some checkedAt, lastSuccessAt := some checkedAt }

/-- The errors that show the relay to be reachable. -/
def reachableDespite : RelayHttpError → Bool
  | .authenticationRejected _ | .insufficientScope | .notReady _ | .httpStatus _ _
  | .invalidJson _ | .invalidResponse _ | .unsupportedApiVersion _ | .responseTooLarge => true
  | .invalidEndpoint | .invalidDeviceToken | .clientConfiguration | .cancelled | .timeout
  | .transport _ | .targetUnavailable | .retryAfter _ => false

/-- `status_from_probe_error`. -/
def fromProbeError (error : RelayHttpError) (checkedAt : Timestamp) : RelayStatus :=
  { default with
    configured := true, reachable := reachableDespite error,
    authenticated := error = .insufficientScope, lastCheckedAt := some checkedAt,
    lastErrorCode := some error.code }

/-- The amendment of `record_operational_http_failure`. -/
def afterFailure (error : RelayHttpError) (receipt : Bool) (now : Timestamp)
    (status : RelayStatus) : RelayStatus :=
  let noted := { status with lastCheckedAt := some now, lastErrorCode := some error.code }
  match error with
  | .authenticationRejected _ | .invalidDeviceToken =>
    { noted with reachable := true, authenticated := false, canSubmit := none, canReadOwn := none }
  | .insufficientScope =>
    if receipt then
      { noted with reachable := true, authenticated := true, canReadOwn := some false }
    else { noted with reachable := true, authenticated := true, canSubmit := some false }
  | .transport _ | .timeout => if receipt then noted else { noted with reachable := false }
  -- a missing target, among others, leaves what was known of the device
  | _ => noted

/-- `record_operational_http_failure`. -/
def recordOperationalHttpFailure (error : RelayHttpError) (receipt : Bool) (now : Timestamp)
    (status : RelayStatus) : RelayStatus :=
  if error = .cancelled then status else update (afterFailure error receipt now) status

/-- The observer that `start_with_delivery` gives the sender.  It passes over
answers that come while the connection is being reconfigured, or for a profile
that is no longer the saved one. -/
def onHttpResult (observed : Bool) (error : Option RelayHttpError) (now : Timestamp)
    (status : RelayStatus) : RelayStatus :=
  if observed then
    match error with
    | some error => recordOperationalHttpFailure error false now status
    | none =>
      update
        (fun status =>
          { status with
            reachable := true, authenticated := true, canSubmit := some true,
            lastCheckedAt := some now, lastSuccessAt := some now, lastErrorCode := none })
        status
  else status

/-- The amendment after a receipt was read. -/
def afterReceipt (now : Timestamp) (status : RelayStatus) : RelayStatus :=
  update
    (fun status =>
      { status with
        canReadOwn := some true, reachable := true, authenticated := true,
        lastSuccessAt := some now, lastCheckedAt := some now, lastErrorCode := none })
    status

/-- The status that `start_inner` begins with. -/
def atStart (isConfigured : Bool) (loaded : LoadedProfile) : RelayStatus :=
  let status :=
    { default with
      configured := isConfigured, state := if isConfigured then "checking" else "not_configured" }
  if isConfigured then
    match loaded with
    | .ok (some _) => status
    | .ok none => { status with configured := false }
    | .error error =>
      { status with
        configured := !error.requiresReconfiguration
        lastErrorCode := some "RELAY_PROFILE_UNREADABLE" }
  else status

/-- The capability that the sender asks for before it publishes a result. -/
def resultPagesCapable (status : RelayStatus) : Bool :=
  status.features.contains (text "result_pages_v1")

end RelayStatus

/-! ## Lifting blocks -/

/-- `credentials_ready` of `resume_blocked_delivery`. -/
def credentialsReady (previous current : RelayStatus) (credentialsReplaced : Bool) : Bool :=
  credentialsReplaced ||
    (!previous.authenticated && current.authenticated && current.scopedAuthCapable)

/-- `result_pages_ready` of `resume_blocked_delivery`. -/
def resultPagesReady (current : RelayStatus) : Bool :=
  current.notificationCapable && current.authenticated && current.scopedAuthCapable &&
    current.canSubmit != some false && current.features.contains (text "result_pages_v1")

/-- `target_ready` of `resume_blocked_delivery`. -/
def targetReady (previous current : RelayStatus) : Bool :=
  previous.canSubmit != some true && current.canSubmit == some true

/-- `resume_blocked_delivery`. -/
def resumeBlockedDelivery (engine : DesktopEngine) (previous current : RelayStatus)
    (credentialsReplaced : Bool) (now : Timestamp) : Desk Nat :=
  let credentials := credentialsReady previous current credentialsReplaced
  let pages := resultPagesReady current
  let target := targetReady previous current
  if !(credentials || pages || target) then pure 0
  else OutboxRepository.retryBlockedForRelay engine now credentials pages target

/-! ## Delivering -/

namespace RelaySender

/-- `relay_credentials_block`. -/
def relayCredentialsBlock : DeliveryResult :=
  .blocked ⟨"RELAY_CREDENTIALS_REQUIRED", "Relay credentials must be refreshed before retry"⟩

/-- `relay_network_retry`. -/
def relayNetworkRetry : DeliveryResult :=
  .retryable
    ⟨.networkBackoff, "RELAY_TRANSPORT_RETRY", "Relay transport is temporarily unavailable"⟩

/-- `permanent_failure`. -/
def permanentFailure (errorCode errorMessage : String) : DeliveryResult :=
  .permanentFailure ⟨errorCode, errorMessage⟩

/-- The endpoints to which notices are delivered. -/
def deliversTo : RelayEndpoint → Bool
  | .notifications | .results => true
  | .live | .ready | .serverInfo | .deviceStatus => false

/-- `map_error`. -/
def mapError : RelayHttpError → DeliveryResult
  | .targetUnavailable =>
    .blocked
      ⟨"RELAY_TARGET_UNAVAILABLE", "Connect the notification target on Relay before retry"⟩
  | .cancelled => .cancelled
  | .retryAfter delayMs =>
    .retryable ⟨.limited 8 delayMs, "RELAY_RETRY_AFTER", "Relay requested a retry delay"⟩
  | .timeout | .transport _ => relayNetworkRetry
  | .authenticationRejected status =>
    if status = 401 || status = 403 then relayCredentialsBlock
    else
      permanentFailure "RELAY_AUTH_REJECTED" "Relay rejected the client authentication request"
  | .invalidDeviceToken => relayCredentialsBlock
  | .insufficientScope =>
    permanentFailure "RELAY_INSUFFICIENT_SCOPE"
      "Relay device token lacks notification permission"
  | .httpStatus endpoint status =>
    if deliversTo endpoint && status = 409 then
      permanentFailure "IDEMPOTENCY_CONFLICT" "Relay rejected the notification idempotency key"
    else if deliversTo endpoint && status = 429 then
      .retryable ⟨.rateLimitBackoff, "RELAY_RATE_LIMITED", "Relay rate limited the notification"⟩
    else if status = 408 || (500 ≤ status && status ≤ 599) then relayNetworkRetry
    else
      permanentFailure "RELAY_DELIVERY_REJECTED" "Relay permanently rejected the notification"
  | .notReady _ | .clientConfiguration => relayNetworkRetry
  | .invalidEndpoint => relayCredentialsBlock
  | .responseTooLarge | .invalidJson _ | .invalidResponse _ | .unsupportedApiVersion _ =>
    permanentFailure "RELAY_DELIVERY_REJECTED" "Relay permanently rejected the notification"

end RelaySender

end PromptDock.Desktop
