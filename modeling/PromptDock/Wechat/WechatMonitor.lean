import PromptDock.InboundSink

/-!
# The WeChat monitor

The connection to WeChat is one document, the credentials and the mutable session
(`credentials.rs`).  One worker at a time polls for updates with it
(`monitor/poll.rs`); what it and the senders share is behind a lock
(`monitor/state.rs`), and each definition below that takes a `SharedState` is one
critical section.

The channel is activated while the monitor is active, the session holds a context
token of the connected account, and no sender has reported that token rejected.
-/

namespace PromptDock.Wechat

/-! ## The connection -/

/-- `WECHAT_SECRET_SCHEMA_VERSION`. -/
def secretSchemaVersion : Nat := 1

def maxRecentMessageKeys : Nat := 256
def maxRecentMessageKeyBytes : Nat := 256
def maxTokenBytes : Nat := 256 * 1024
def maxCursorBytes : Nat := 1024 * 1024
def maxIdBytes : Nat := 4 * 1024
def maxBaseUrlBytes : Nat := 2 * 1024

/-- `CredentialValidationError::InvalidData`, with its text. -/
abbrev Validated := Except String Unit

def validateSchema (schemaVersion : Nat) : Validated :=
  if schemaVersion = secretSchemaVersion then .ok ()
  else .error "unsupported secret schema version"

def validateRequired (name value : String) : Validated :=
  if (UnicodeText.trim value.toList).isEmpty then .error name else .ok ()

def validateMaxBytes (name value : String) (maximum : Nat) : Validated :=
  if value.utf8ByteSize ≤ maximum then .ok () else .error name

structure WechatCredentials where
  schemaVersion : Nat
  (botToken accountId userId baseUrl : String)
  savedAt : Timestamp
deriving DecidableEq

def WechatCredentials.validate (c : WechatCredentials) : Validated := do
  validateSchema c.schemaVersion
  validateRequired "bot_token" c.botToken
  validateRequired "account_id" c.accountId
  validateRequired "user_id" c.userId
  validateRequired "base_url" c.baseUrl
  validateMaxBytes "bot_token" c.botToken maxTokenBytes
  validateMaxBytes "account_id" c.accountId maxIdBytes
  validateMaxBytes "user_id" c.userId maxIdBytes
  validateMaxBytes "base_url" c.baseUrl maxBaseUrlBytes

structure WechatSessionSecrets where
  schemaVersion : Nat
  getUpdatesBuf : String
  (contextToken contextTokenUserId : Option String)
  contextTokenUpdatedAt : Option Timestamp
  recentMessageKeys : List String
deriving DecidableEq

/-- The session of a new connection. -/
def WechatSessionSecrets.default : WechatSessionSecrets :=
  ⟨secretSchemaVersion, "", none, none, none, []⟩

/-- `remember_message_key`: the session afterwards, and whether it changed.  The
newest key is last. -/
def WechatSessionSecrets.rememberMessageKey (s : WechatSessionSecrets) (key : String) :
    WechatSessionSecrets × Bool :=
  if key.isEmpty || maxRecentMessageKeyBytes < key.utf8ByteSize then (s, false)
  else
    let keys := s.recentMessageKeys.erase key ++ [key]
    ({ s with recentMessageKeys := keys.drop (keys.length - maxRecentMessageKeys) }, true)

def WechatSessionSecrets.validate (s : WechatSessionSecrets) : Validated := do
  validateSchema s.schemaVersion
  if maxRecentMessageKeys < s.recentMessageKeys.length then
    throw "recent message key list exceeds its limit"
  if s.recentMessageKeys.any fun key =>
      key.isEmpty || maxRecentMessageKeyBytes < key.utf8ByteSize then
    throw "recent message key is invalid"
  if s.contextToken.any String.isEmpty || s.contextTokenUserId.any String.isEmpty then
    throw "context token metadata is invalid"
  validateMaxBytes "get_updates_buf" s.getUpdatesBuf maxCursorBytes
  if let some token := s.contextToken then validateMaxBytes "context_token" token maxTokenBytes
  if let some userId := s.contextTokenUserId then
    validateMaxBytes "context_token_user_id" userId maxIdBytes
  if s.contextTokenUserId.isSome != s.contextToken.isSome ||
      s.contextTokenUpdatedAt.isSome != s.contextToken.isSome then
    throw "context token metadata is incomplete"

structure ConnectionBundle where
  schemaVersion : Nat
  credentials : WechatCredentials
  session : WechatSessionSecrets
deriving DecidableEq

def ConnectionBundle.validate (b : ConnectionBundle) : Validated := do
  validateSchema b.schemaVersion
  b.credentials.validate
  b.session.validate
  if b.session.contextTokenUserId.any (· != b.credentials.userId) then
    throw "session context belongs to a different connection"

/-- `has_owned_context`. -/
def ConnectionBundle.hasOwnedContext (b : ConnectionBundle) : Bool :=
  b.session.contextToken.isSome && b.session.contextTokenUserId == some b.credentials.userId

/-- The libraries that the channel calls. -/
structure WechatTools where
  blake3 : Blake3
  /-- `Url::parse` accepts the text. -/
  parsesUrl : String → Bool

/-- `account_fingerprint`. -/
def accountFingerprint (blake3 : Blake3) (accountId : String) : String :=
  "wx:" ++ blake3.deriveKey "promptdock-relay/wechat-sender/v1" (utf8 accountId)

/-! ## Errors of requests -/

inductive WechatBusinessErrorCategory where
  | authenticationExpired | contextRejected | rateLimited | policyRejected | ambiguousMinusTwo
  | invalidRequest | unknown
deriving DecidableEq

/-- `WechatHttpError`, as far as anything depends on it. -/
inductive WechatHttpError where
  | invalidEndpoint
  | invalidHeader
  | clientConfiguration
  | cancelled
  | timeout
  | transport
  | httpStatus (status : Nat)
  | responseTooLarge
  | invalidJson
  | invalidResponse
  | apiRejected (category : WechatBusinessErrorCategory)
deriving DecidableEq

/-- `is_stale_token`. -/
def WechatHttpError.isStaleToken : WechatHttpError → Bool
  | .apiRejected .authenticationExpired => true
  | _ => false

/-- `is_terminal_error`. -/
def WechatHttpError.isTerminalError (error : WechatHttpError) : Bool :=
  error.isStaleToken || error == .invalidEndpoint || error == .httpStatus 401 ||
    error == .httpStatus 403

/-- `error_code`. -/
def WechatHttpError.errorCode : WechatHttpError → String
  | .invalidEndpoint => "WECHAT_INVALID_ENDPOINT"
  | .apiRejected .authenticationExpired | .httpStatus 401 | .httpStatus 403 =>
    "WECHAT_AUTHENTICATION_EXPIRED"
  | .transport | .timeout => "WECHAT_MONITOR_NETWORK"
  | .apiRejected _ | .httpStatus _ => "WECHAT_MONITOR_REJECTED"
  | .invalidHeader | .clientConfiguration | .responseTooLarge | .invalidJson | .invalidResponse
  | .cancelled => "WECHAT_MONITOR_PROTOCOL"

/-! ## What the monitor and the senders share -/

inductive MonitorState where
  | stopped | starting | active | reconnecting | degraded | reconnectRequired
deriving DecidableEq

structure MonitorStatus where
  activated : Bool
  monitor : MonitorState
  (lastInboundAt lastPollAt : Option Timestamp)
  errorCode : Option String

def MonitorStatus.default : MonitorStatus := ⟨false, .stopped, none, none, none⟩

structure SharedState where
  bundle : Option ConnectionBundle
  revision : Nat
  status : MonitorStatus
  activationRequired : Bool

/-- `u64::saturating_add(1)`. -/
def nextRevision (revision : Nat) : Nat :=
  min (revision + 1) 18446744073709551615

/-- `DEGRADED_AFTER_FAILURES`. -/
def degradedAfterFailures : Nat := 3

namespace SharedState

/-- The state that `new_with_bundle` builds. -/
def initial : Option ConnectionBundle → SharedState
  | some bundle => ⟨some bundle, 1, .default, false⟩
  | none => ⟨none, 0, .default, false⟩

/-- `set_active`: whether the activation is to be announced, or `none` where a
sender has found the connection unusable. -/
def setActive (bundle : ConnectionBundle) (s : SharedState) : Option Bool × SharedState :=
  if s.status.monitor = .reconnectRequired then
    (none, { s with status := { s.status with activated := false } })
  else
    let activated := bundle.hasOwnedContext && !s.activationRequired
    (some (!s.status.activated && activated),
      { s with
        status := { s.status with monitor := .active, errorCode := none, activated := activated } })

/-- `is_monitor_active`. -/
def isMonitorActive (s : SharedState) : Bool :=
  s.status.monitor == .active

/-- `set_last_poll`. -/
def setLastPoll (now : Timestamp) (s : SharedState) : SharedState :=
  if s.status.monitor = .reconnectRequired then
    { s with status := { s.status with lastPollAt := some now } }
  else
    { s with
      status := { s.status with lastPollAt := some now, monitor := .active, errorCode := none } }

/-- `set_last_inbound`. -/
def setLastInbound (now : Timestamp) (s : SharedState) : SharedState :=
  { s with status := { s.status with lastInboundAt := some now } }

/-- The status after a failure that leaves the monitor in `monitor`. -/
def failed (monitor : MonitorState) (errorCode : String) (s : SharedState) : SharedState :=
  { s with
    status :=
      { s.status with activated := false, monitor := monitor, errorCode := some errorCode } }

/-- `set_retry_failure`. -/
def setRetryFailure (failures : Nat) (errorCode : String) (s : SharedState) : SharedState :=
  if s.status.monitor = .reconnectRequired then s
  else s.failed (if degradedAfterFailures ≤ failures then .degraded else .reconnecting) errorCode

/-- `set_terminal_failure`, and so `mark_reconnect_required`. -/
def setTerminalFailure (errorCode : String) (s : SharedState) : SharedState :=
  s.failed .reconnectRequired errorCode

/-- `set_worker_failure`. -/
def setWorkerFailure (errorCode : String) (s : SharedState) : SharedState :=
  if s.status.monitor = .reconnectRequired then s else s.failed .degraded errorCode

/-- `finish_monitor`. -/
def finishMonitor (s : SharedState) : SharedState :=
  if s.status.monitor = .degraded || s.status.monitor = .reconnectRequired then
    { s with status := { s.status with activated := false } }
  else
    { s with status :=
        { s.status with monitor := .stopped, errorCode := none, activated := false } }

/-- `mark_reconnect_required_if_revision`. -/
def markReconnectRequiredIfRevision (expected : Nat) (errorCode : String) (s : SharedState) :
    Bool × SharedState :=
  if s.revision ≠ expected then (false, s) else (true, s.failed .reconnectRequired errorCode)

/-- `mark_activation_required_if_revision`. -/
def markActivationRequiredIfRevision (expected : Nat) (errorCode : String) (s : SharedState) :
    Bool × SharedState :=
  if s.revision ≠ expected then (false, s)
  else if s.status.monitor = .reconnectRequired then (false, s)
  else
    (true,
      { s with
        activationRequired := true
        status := { s.status with activated := false, errorCode := some errorCode } })

/-- What `replace_bundle` installs. -/
def installed (bundle : ConnectionBundle) (s : SharedState) : SharedState where
  bundle := some bundle
  revision := nextRevision s.revision
  status := { MonitorStatus.default with monitor := .starting }
  activationRequired := false

/-- What `stop` leaves. -/
def stopped (s : SharedState) : SharedState :=
  { s with status := { s.status with activated := false, monitor := .stopped, errorCode := none } }

/-- What `stop_and_clear` leaves. -/
def cleared (s : SharedState) : SharedState where
  bundle := none
  revision := nextRevision s.revision
  status := .default
  activationRequired := false

end SharedState

/-! ## Taking in an update -/

/-- `MessageItem`, as far as the monitor reads it. -/
structure MessageItem where
  itemType : Option Int
  isCompleted : Option Bool
  /-- The text of the text item, if there is one. -/
  textItem : Option (Option String)
deriving DecidableEq

/-- `WeixinMessage`, as far as the monitor reads it. -/
structure WeixinMessage where
  (seq messageId : Option Nat)
  (fromUserId clientId : Option String)
  (messageType messageState : Option Int)
  itemList : Option (List MessageItem)
  contextToken : Option String
deriving DecidableEq

/-- `GetUpdatesResponse`, as far as the monitor reads it. -/
structure GetUpdatesResponse where
  msgs : Option (List WeixinMessage)
  (syncBuf getUpdatesBuf : Option String)
deriving DecidableEq

def messageTypeUser : Int := 1
def messageStateFinish : Int := 2
def messageItemTypeText : Int := 1
def maxTextItems : Nat := 4
def maxTextChars : Nat := 4096

/-- `message_key`. -/
def messageKey (m : WeixinMessage) : Option String :=
  match m.messageId with
  | some messageId => some ("mid:" ++ toString messageId)
  | none =>
    let fromClient := (m.clientId.filter (!·.isEmpty)).map ("cid:" ++ ·)
    match fromClient.filter (·.utf8ByteSize ≤ 256) with
    | some key => some key
    | none => m.seq.map fun seq => "seq:" ++ toString seq

/-- The texts of a message that count. -/
def messageTexts (m : WeixinMessage) : List String :=
  (m.itemList.getD []).filterMap fun item =>
    if item.itemType ≠ some messageItemTypeText || item.isCompleted = some false then none
    else item.textItem.join.filter (!·.isEmpty)

/-- The texts exceed what is taken in. -/
def oversizedText (texts : List String) : Bool :=
  maxTextItems < texts.length ||
    maxTextChars < (texts.map String.length).sum + (texts.length - 1)

/-- `extract_text`.  In place of texts that are too long stands one that is too
long as well, with their digest. -/
def extractText (blake3 : Blake3) (m : WeixinMessage) : Option String :=
  let texts := messageTexts m
  if oversizedText texts then
    some (String.ofList (List.replicate (maxTextChars + 1) (Char.ofNat 0xFFFD)) ++ ":" ++
      blake3.deriveKey "promptdock-relay/wechat-oversized-text/v1"
        (texts.flatMap fun text => frame (utf8 text)))
  else if texts.isEmpty then none
  else some ("\n".intercalate texts)

/-- The next bundle while `apply_response` builds it. -/
structure PendingUpdate where
  next : ConnectionBundle
  (changed inbound : Bool)

/-- What a finished message of the user hands to the sink. -/
def inboundText (blake3 : Blake3) (now : Timestamp) (bundle : ConnectionBundle)
    (m : WeixinMessage) : Option EphemeralInboundText :=
  if m.messageType = some messageTypeUser && m.messageState = some messageStateFinish then
    match messageKey m, extractText blake3 m with
    | some key, some text =>
      some ⟨key, accountFingerprint blake3 bundle.credentials.userId, text, now⟩
    | _, _ => none
  else none

/-- The update after the sink has taken a message. -/
def PendingUpdate.remember (key : String) (u : PendingUpdate) : PendingUpdate :=
  if u.next.session.recentMessageKeys.contains key then { u with inbound := true }
  else
    let (session, remembered) := u.next.session.rememberMessageKey key
    { next := { u.next with session := session }
      changed := u.changed || remembered
      inbound := true }

/-- The update after the context token of a message. -/
def PendingUpdate.takeContext (now : Timestamp) (m : WeixinMessage) (u : PendingUpdate) :
    PendingUpdate :=
  match m.contextToken.filter (!·.isEmpty) with
  | none => u
  | some token =>
    { u with
      next :=
        { u.next with
          session :=
            { u.next.session with
              contextToken := some token, contextTokenUserId := some u.next.credentials.userId,
              contextTokenUpdatedAt := some now } }
      changed := true }

/-- One message of `apply_response`; `none` where the sink, which accepts the
messages that `accepts` admits, refuses it. -/
def PendingUpdate.takeMessage (blake3 : Blake3) (now : Timestamp)
    (accepts : EphemeralInboundText → Bool) (u : PendingUpdate) (m : WeixinMessage) :
    Option PendingUpdate :=
  if m.fromUserId ≠ some u.next.credentials.userId then some u
  else
    match inboundText blake3 now u.next m with
    | none => some (u.takeContext now m)
    | some event =>
      if accepts event then some ((u.remember event.messageKey).takeContext now m) else none

/-- The cursor, which is applied only after every message. -/
def PendingUpdate.takeCursor (response : GetUpdatesResponse) (u : PendingUpdate) : PendingUpdate :=
  match response.getUpdatesBuf.or response.syncBuf with
  | none => u
  | some cursor =>
    if u.next.session.getUpdatesBuf = cursor then u
    else
      { u with
        next := { u.next with session := { u.next.session with getUpdatesBuf := cursor } }
        changed := true }

/-- `apply_response`, up to the saving of the next bundle. -/
def collectUpdate (blake3 : Blake3) (now : Timestamp) (accepts : EphemeralInboundText → Bool)
    (current : ConnectionBundle) (response : GetUpdatesResponse) : Option PendingUpdate := do
  let collected ← (response.msgs.getD []).foldlM
    (fun u m => PendingUpdate.takeMessage blake3 now accepts u m) ⟨current, false, false⟩
  some (collected.takeCursor response)

/-- The two bundles differ in their context. -/
def contextChanged (current next : ConnectionBundle) : Bool :=
  next.session.contextToken != current.session.contextToken ||
    next.session.contextTokenUserId != current.session.contextTokenUserId

/-- `apply_response`, after the next bundle was saved: whether the channel became
activated. -/
def SharedState.commitUpdate (current next : ConnectionBundle) (inbound : Bool) (now : Timestamp)
    (s : SharedState) : Bool × SharedState :=
  let changed := contextChanged current next
  let activationRequired := if changed then false else s.activationRequired
  let activated :=
    s.status.monitor == .active && next.hasOwnedContext && !activationRequired
  (!s.status.activated && activated,
    { bundle := some next
      revision := if changed then nextRevision s.revision else s.revision
      activationRequired := activationRequired
      status :=
        { s.status with
          lastInboundAt := if inbound then some now else s.status.lastInboundAt
          activated := activated
          errorCode := if activated then none else s.status.errorCode } })

end PromptDock.Wechat
