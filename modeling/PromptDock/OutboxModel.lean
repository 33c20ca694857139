import PromptDock.RelayValues

/-!
# The notification outbox: rows and messages

One row of `notification_outbox` holds a notification from the moment it is
accepted until retention drops it.  The types below follow `outbox/model.rs`
and the table of `001_init.sql`; `OutboxRow.check` is the conjunction of the
table's row checks.
-/

namespace PromptDock

/-- `notification_outbox.status`. -/
inductive OutboxStatus where
  | pendingChannel | sendingChannel | retryWait | blockedActivation | blockedReconnect
  | providerAccepted | expired | cancelled | deadLetter
deriving DecidableEq

/-- The statuses that end a delivery. -/
def OutboxStatus.terminal : OutboxStatus → Bool
  | .providerAccepted | .expired | .cancelled | .deadLetter => true
  | .pendingChannel | .sendingChannel | .retryWait | .blockedActivation
  | .blockedReconnect => false

/-- `notification_outbox.origin_kind`. -/
inductive OriginKind where
  | device | system | admin
deriving DecidableEq

/-- `notification_outbox.body_kind`. -/
inductive BodyKind where
  | plain | protectedResultLink
deriving DecidableEq

/-- One row of `notification_outbox`. -/
structure OutboxRow where
  id : Uuid
  originKind : OriginKind
  originKey : String
  originDeviceId : Option Uuid
  (notificationId dedupeKey payloadHash kind : String)
  targetAccountFingerprint : Option String
  (title body : String)
  bodyKind : BodyKind
  (protectedBodyCiphertext protectedBodyNonce : Option (List UInt8))
  resultRowId : Option Uuid
  correlationKey : Option String
  priority : Int
  status : OutboxStatus
  (notBefore expiresAt : Timestamp)
  attemptCount : Int
  claimToken : Option Uuid
  (claimedAt nextAttemptAt : Option Timestamp)
  (lastErrorCode lastErrorMessage providerMessageId : Option String)
  providerAcceptedAt : Option Timestamp
  (createdAt updatedAt : Timestamp)
  sensitiveBody : Bool
deriving DecidableEq

/-- What a redacted body reads. -/
def redactedBody : String := "[REDACTED]"

/-- What the body of a result notice reads; the link itself is encrypted. -/
def protectedResultLinkBody : String := "[PROTECTED_RESULT_LINK]"

/-- `LIKE 'system:%'`, which ignores the case of ASCII letters. -/
def likeSystem (key : String) : Bool :=
  (key.toList.map Char.toLower).take 7 == "system:".toList

/-- The row checks of `notification_outbox`. -/
def OutboxRow.check (r : OutboxRow) : Bool :=
  r.title.length ≤ 128 && r.body.length ≤ 6000 &&
  0 ≤ r.priority && r.priority ≤ 255 && 0 ≤ r.attemptCount &&
  r.createdAt < r.expiresAt && r.createdAt ≤ r.updatedAt &&
  r.targetAccountFingerprint.all isAccountFingerprint &&
  (match r.bodyKind with
    | .plain =>
      r.protectedBodyCiphertext.isNone && r.protectedBodyNonce.isNone && r.resultRowId.isNone
    | .protectedResultLink =>
      r.body == protectedResultLinkBody && r.protectedBodyCiphertext.isSome &&
        -- the length of a missing nonce is NULL, which a check lets pass
        r.protectedBodyNonce.all (fun nonce => nonce.length == 24) && r.resultRowId.isSome) &&
  (match r.originKind with
    | .device => r.originDeviceId.any fun id => r.originKey == "device:" ++ id.hyphenated
    | .system => r.originDeviceId.isNone && likeSystem r.originKey
    | .admin => r.originDeviceId.isNone && r.originKey == "admin:singleton") &&
  (match r.originKind with
    | .system => r.kind == "interactive_reply" && r.targetAccountFingerprint.isSome
    | .device =>
      (r.kind == "result_link" && r.targetAccountFingerprint.isSome) ||
        (r.kind != "interactive_reply" && r.kind != "result_link" &&
          r.targetAccountFingerprint.isNone)
    | .admin => r.kind == "test" && r.targetAccountFingerprint.isNone) &&
  (if r.status = .sendingChannel then r.claimToken.isSome && r.claimedAt.isSome
    else r.claimToken.isNone && r.claimedAt.isNone)

/-! ## Messages -/

/-- `RelayNotificationV1`. -/
structure RelayNotificationV1 where
  schemaVersion : Int
  (notificationId dedupeKey kind : String)
  priority : Int
  (title body : String)
  correlationKey : Option String
  (createdAt expiresAt : Timestamp)
deriving DecidableEq

/-- `InteractiveReplyV1`. -/
structure InteractiveReplyV1 where
  schemaVersion : Int
  (notificationId dedupeKey : String)
  priority : Int
  (targetAccountFingerprint title body : String)
  sensitiveBody : Bool
  correlationKey : Option String
  (createdAt expiresAt : Timestamp)

/-- `InteractiveReplyV1::into_parts`: the notification of a reply. -/
def InteractiveReplyV1.notification (reply : InteractiveReplyV1) : RelayNotificationV1 where
  schemaVersion := reply.schemaVersion
  notificationId := reply.notificationId
  dedupeKey := reply.dedupeKey
  kind := "interactive_reply"
  priority := reply.priority
  title := reply.title
  body := reply.body
  correlationKey := reply.correlationKey
  createdAt := reply.createdAt
  expiresAt := reply.expiresAt

/-- `AcceptedNotification`. -/
structure AcceptedNotification where
  (notificationId relayStatus : String)
  existing : Bool
  acceptedAt : Timestamp
deriving DecidableEq

/-- `ClaimedNotification`: what a worker holds while it delivers a row. -/
structure ClaimedNotification where
  (rowId claimToken : Uuid)
  originKey : String
  targetAccountFingerprint : Option String
  (notificationId dedupeKey kind title body : String)
  correlationKey : Option String
  priority : Int
  expiresAt : Timestamp
  attemptCount : Int
deriving DecidableEq

/-- `RetryClass`. -/
inductive RetryClass where
  | network | rateLimited | contextChanged | contextRejected | ambiguousMinusTwo
deriving DecidableEq

/-- `RetryClass::error_code`. -/
def RetryClass.errorCode : RetryClass → String
  | .network => "NETWORK"
  | .rateLimited => "RATE_LIMITED"
  | .contextChanged => "CONTEXT_CHANGED"
  | .contextRejected => "CONTEXT_REJECTED"
  | .ambiguousMinusTwo => "AMBIGUOUS_MINUS_TWO"

/-- The outcomes of a delivery attempt that the provider did not accept. -/
inductive ChannelFailure where
  | cancelled
  | retryable (retryClass : RetryClass)
  | blockedActivation | blockedReconnect | blockedTargetChanged | permanentFailure
deriving DecidableEq

/-- `ChannelOutcome`: how one delivery attempt ended. -/
inductive ChannelOutcome where
  | accepted (providerMessageId : Option String)
  | failure (reason : ChannelFailure)
deriving DecidableEq

/-- `OutboxError`, without the variants of the retired bundle queue. -/
inductive OutboxError where
  | validation | idempotencyConflict | database
deriving DecidableEq

end PromptDock
