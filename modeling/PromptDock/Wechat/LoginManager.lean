import Mathlib.Logic.Function.Basic
import PromptDock.LabelledRun
import PromptDock.Wechat.WechatMonitor

/-!
# Logins by QR code

The login manager of `login/qr.rs`.  One table holds the login sessions of the
process; at most one of them is the candidate that is still under way.  A worker
drives a session: it installs a QR code, polls the provider, and hands a confirmed
login over to the cutover.  Owners look at their sessions, submit verify codes and
cancel.

Every method holds the manager's lock from beginning to end, so it is a function of
the table, the instant at which it is called and its arguments.  Instants are
readings of the monotonic clock, in nanoseconds like spans of time.  A session's
cancellation token is shared with its worker; the table keeps the tokens under the
login ids, because a token outlives its session.
-/

namespace PromptDock.Wechat

open Function (update update_self update_of_ne)

/-! ## Authorizations of an administrator's login -/

/-- What the registry of `wechat_admin_login.rs` reads an authorization against. -/
structure AuthorizationCore where
  generations : Uuid → BitVec 64
  processEpoch : BitVec 64
  closed : Bool

structure AdminLoginAuthorization where
  ownerDeviceId : Uuid
  authorizationRevision : String
  (generation processEpoch : BitVec 64)
deriving DecidableEq

/-- `authorization_matches`, read at one moment. -/
def AuthorizationCore.authorizationMatches (core : AuthorizationCore)
    (a : AdminLoginAuthorization) : Bool :=
  !core.closed && core.generations a.ownerDeviceId == a.generation &&
    core.processEpoch == a.processEpoch

/-- What `invalidate_device` does to the generation of the device. -/
def AuthorizationCore.bumpGeneration (device : Uuid) (core : AuthorizationCore) :
    AuthorizationCore :=
  { core with generations := update core.generations device (core.generations device + 1) }

/-- Where an entry of a map comes from after one key was written. -/
theorem update_eq_some {α β : Type} [DecidableEq α] {f : α → Option β} {a b : α} {v : Option β}
    {x : β} (h : update f a v b = some x) : (b = a ∧ v = some x) ∨ (b ≠ a ∧ f b = some x) := by
  by_cases hb : b = a
  · subst hb
    rw [update_self] at h
    exact .inl ⟨rfl, h⟩
  · rw [update_of_ne hb] at h
    exact .inr ⟨hb, h⟩

/-! ## Addresses -/

/-- A parsed address, by what its accessors return. -/
structure Url where
  scheme : String
  host : Option String
  username : String
  password : Option String
  port : Option Nat
  path : String
  (query fragment : Option String)
  text : String
deriving DecidableEq

/-- The libraries that the manager calls. -/
structure LoginTools where
  /-- `Url::parse`. -/
  parse : String → Option Url

/-- The labels before `.weixin.qq.com`, when the host ends in it. -/
def weixinLabels (host : String) : Option (List Char) :=
  let lower := host.toList.map Char.toLower
  let parent := ".weixin.qq.com".toList
  if parent.isSuffixOf lower then some (lower.take (lower.length - parent.length)) else none

/-- `validate_production_endpoint`. -/
def validateProductionEndpoint (url : Url) : Bool :=
  (url.host.any fun host =>
      host.toList.map Char.toLower == "ilinkai.weixin.qq.com".toList ||
        (weixinLabels host).any fun labels => !labels.isEmpty && labels.getLast? != some '.') &&
    url.scheme == "https" && url.username.isEmpty && url.password.isNone &&
    (url.port.isNone || url.port == some 443) && (url.path == "" || url.path == "/") &&
    url.query.isNone && url.fragment.isNone

/-- `ILINK_DEFAULT_BASE_URL`. -/
def ilinkDefaultBaseUrl : String := "https://ilinkai.weixin.qq.com"

def LoginTools.parseProduction (tools : LoginTools) (text : String) : Option Url :=
  (tools.parse text).filter validateProductionEndpoint

/-- `production_base_url`. -/
def LoginTools.productionBaseUrl (tools : LoginTools) : Option Url :=
  tools.parseProduction ilinkDefaultBaseUrl

/-- `redirect_base_url`. -/
def LoginTools.redirectBaseUrl (tools : LoginTools) (redirectHost : String) : Option Url :=
  if redirectHost.isEmpty || UnicodeText.trim redirectHost.toList != redirectHost.toList ||
      redirectHost.toList.any ['/', '\\', '@', ':', '?', '#'].contains then
    none
  else tools.parseProduction ("https://" ++ redirectHost ++ "/")

/-! ## Sessions -/

/-- The last instant that the clock can name. -/
def instantMax : Nat := 2 ^ 63 * 1000000000 - 1

def maxQrRefreshes : Nat := 3
def maxVerifyAttempts : Nat := 10
def maxQrStartsPerDevice : Nat := 5

/-- `QR_START_RATE_WINDOW`, 600 seconds. -/
def qrStartRateWindow : Nat := 600000000000

def errorBoundWithoutCredentials : String := "WECHAT_BOUND_WITHOUT_LOCAL_CREDENTIALS"
def errorInvalidProviderResponse : String := "WECHAT_INVALID_LOGIN_RESPONSE"
def errorVerifyBlocked : String := "WECHAT_VERIFY_CODE_BLOCKED"
def errorUnknownQrStatus : String := "WECHAT_UNKNOWN_QR_STATUS"
def errorCutoverFailed : String := "WECHAT_CUTOVER_FAILED"
def errorCutoverDegraded : String := "WECHAT_CUTOVER_ACTIVATED_DEGRADED"
def errorProviderUnavailable : String := "WECHAT_LOGIN_PROVIDER_UNAVAILABLE"

/-- The limits of `with_limits`, which asserts that the time to live is not zero. -/
structure LoginLimits where
  (ttl finishedRetention : Nat)
  ttl_pos : 0 < ttl

/-- `DEFAULT_LOGIN_TTL` and `DEFAULT_FINISHED_RETENTION`, 5 minutes each. -/
def LoginLimits.default : LoginLimits := ⟨300000000000, 300000000000, by decide⟩

inductive LoginState where
  | fetchingQr | waitingScan | scanned | verifyCodeRequired | refreshingQr | confirmed
  | alreadyConnected | expired | cancelled | failed
deriving DecidableEq

/-- `is_terminal`. -/
def LoginState.isTerminal : LoginState → Bool
  | .confirmed | .alreadyConnected | .expired | .cancelled | .failed => true
  | .fetchingQr | .waitingScan | .scanned | .verifyCodeRequired | .refreshingQr => false

inductive LoginError where
  | notFound | candidateInProgress | terminal | verifyNotAllowed | verifyLimitReached
  | invalidVerifyCode | rateLimited | clock

structure LoginSession where
  (loginId ownerDeviceId : Uuid)
  (createdAt expiresAt : Nat)
  expiresAtWallMs : Timestamp
  finishedAt : Option Nat
  state : LoginState
  errorCode : Option String
  (qrGeneration refreshCount verifyAttempts verifyRevision : Nat)
  (awaitingCutover cutoverCommitting : Bool)
  baseUrl : Url
  (qrToken qrContent pendingVerifyCode : Option String)
  adminAuthorization : Option AdminLoginAuthorization
  operatorAuthorized : Bool

structure LoginSnapshot where
  loginId : Uuid
  state : LoginState
  qrContent : Option String
  expiresAt : Timestamp
  canSubmitVerifyCode : Bool
  errorCode : Option String

structure StartOutcome where
  snapshot : LoginSnapshot
  created : Bool

/-- What a poll sends; its cancellation token is the one of the login. -/
structure PollInput where
  (generation verifyRevision : Nat)
  baseUrl : Url
  qrToken : String
  verifyCode : Option String
deriving DecidableEq

/-- A confirmed login on its way to the cutover; its cancellation token is the one
of the login. -/
structure PreparedCandidate where
  (loginId ownerDeviceId : Uuid)
  bundle : ConnectionBundle
  adminAuthorization : Option AdminLoginAuthorization
  operatorAuthorized : Bool
deriving DecidableEq

inductive LoginDirective where
  | continuePolling
  | ignoreStale
  | refreshQr (generation : Nat)
  | terminal (state : LoginState)
  | cutover (candidate : PreparedCandidate)

inductive CutoverStep where
  | stage | validateCurrent | stopActive | promote
deriving DecidableEq

inductive CutoverOutcome where
  | activated
  | activatedDegraded
  | rejected (step : CutoverStep)
  | cancelled
deriving DecidableEq

structure LoginAuthority where
  adminAuthorization : Option AdminLoginAuthorization
  operatorAuthorized : Bool

inductive QrCodeStatus where
  | wait
  | scaned
  | confirmed
  | expired
  | scanedButRedirect
  | needVerifyCode
  | verifyCodeBlocked
  | bindedRedirect
  | unknown (value : String)
deriving DecidableEq

structure GetBotQrCodeResponse where
  (qrcode qrcodeImgContent : String)
deriving DecidableEq

structure GetQrCodeStatusResponse where
  status : QrCodeStatus
  (botToken ilinkBotId baseurl ilinkUserId redirectHost : Option String)
deriving DecidableEq

/-- `ConnectionBundle::new`. -/
def ConnectionBundle.new (credentials : WechatCredentials) (session : WechatSessionSecrets) :
    Except String ConnectionBundle := do
  let bundle : ConnectionBundle := ⟨secretSchemaVersion, credentials, session⟩
  bundle.validate
  pure bundle

/-- `confirmed_bundle`. -/
def confirmedBundle (tools : LoginTools) (response : GetQrCodeStatusResponse)
    (currentBaseUrl : Url) (savedAt : Timestamp) : Option ConnectionBundle := do
  let botToken ← response.botToken.filter (!·.isEmpty)
  let accountId ← response.ilinkBotId.filter (!·.isEmpty)
  let userId ← response.ilinkUserId.filter (!·.isEmpty)
  let baseUrl ←
    match response.baseurl.filter (!·.isEmpty) with
    | some value => tools.parseProduction value
    | none => some currentBaseUrl
  (ConnectionBundle.new
    ⟨secretSchemaVersion, botToken, accountId, userId, baseUrl.text, savedAt⟩
    .default).toOption

namespace LoginSession

def snapshot (session : LoginSession) : LoginSnapshot where
  loginId := session.loginId
  state := session.state
  qrContent := session.qrContent
  expiresAt := session.expiresAtWallMs
  canSubmitVerifyCode :=
    session.state == .verifyCodeRequired && decide (session.verifyAttempts < maxVerifyAttempts)
  errorCode := session.errorCode

/-- `clear_qr_secrets`. -/
def clearQrSecrets (session : LoginSession) : LoginSession :=
  { session with qrToken := none, qrContent := none, pendingVerifyCode := none }

/-- `finish`, as far as the session itself is concerned. -/
def finish (session : LoginSession) (state : LoginState) (errorCode : Option String)
    (now : Nat) : LoginSession :=
  { session with
    state := state, errorCode := errorCode, finishedAt := some now, awaitingCutover := false,
    cutoverCommitting := false }.clearQrSecrets

/-- A start by the owner of a session that is under way. -/
def rebind (session : LoginSession) (authority : LoginAuthority) : LoginSession :=
  { session with
    adminAuthorization := authority.adminAuthorization.or session.adminAuthorization
    operatorAuthorized := session.operatorAuthorized || authority.operatorAuthorized }

/-- The session with a verify code; the counters are bytes. -/
def takeCode (session : LoginSession) (code : String) : LoginSession :=
  { session with
    verifyAttempts := (session.verifyAttempts + 1) % 2 ^ 8,
    verifyRevision := (session.verifyRevision + 1) % 2 ^ 8, pendingVerifyCode := some code }

/-- The session with a new QR code; its generation saturates. -/
def showQr (session : LoginSession) (response : GetBotQrCodeResponse) : LoginSession :=
  { session with
    qrGeneration := min (session.qrGeneration + 1) (2 ^ 32 - 1), qrToken := some response.qrcode,
    qrContent := some response.qrcodeImgContent, pendingVerifyCode := none, state := .waitingScan }

/-- The QR code has expired, and another one is to be fetched. -/
def refreshQr (session : LoginSession) : LoginSession :=
  { session with refreshCount := session.refreshCount + 1, state := .refreshingQr }.clearQrSecrets

/-- The login is confirmed, and its cutover may begin. -/
def awaitCutover (session : LoginSession) : LoginSession :=
  { session with awaitingCutover := true }.clearQrSecrets

/-- A verify code stays until an answer to a poll that carried it, the last one of
this revision. -/
def dropCarried (session : LoginSession) (verifyRevision : Nat) : LoginSession :=
  if session.verifyRevision = verifyRevision then { session with pendingVerifyCode := none }
  else session

/-- The session's time is up: `expire_and_purge` finishes it. -/
def expires (session : LoginSession) (now : Nat) : Bool :=
  !session.state.isTerminal && !session.cutoverCommitting && decide (session.expiresAt ≤ now)

def expire (session : LoginSession) (now : Nat) : LoginSession :=
  if session.expires now then session.finish .expired none now else session

/-- The session was finished long ago: `expire_and_purge` drops it.  An age is
known only for an instant that is not later than `now`. -/
def purged (session : LoginSession) (limits : LoginLimits) (now : Nat) : Bool :=
  session.finishedAt.any fun finishedAt =>
    decide (finishedAt ≤ now ∧ limits.finishedRetention ≤ now - finishedAt)

/-- The session is at the point where the cutover may begin. -/
def awaits (session : LoginSession) (ownerDeviceId : Uuid) : Bool :=
  session.ownerDeviceId == ownerDeviceId && session.awaitingCutover &&
    !session.cutoverCommitting && !session.state.isTerminal

/-- The cutover of the session has begun. -/
def commits (session : LoginSession) (ownerDeviceId : Uuid) : Bool :=
  session.ownerDeviceId == ownerDeviceId && session.awaitingCutover &&
    session.cutoverCommitting && !session.state.isTerminal

end LoginSession

/-- What the manager's lock protects, and the cancelled tokens. -/
structure LoginSessions where
  sessions : Uuid → Option LoginSession
  candidateId : Option Uuid
  qrStartAttempts : Uuid → List Nat
  cancelled : Uuid → Bool

namespace LoginSessions

def new : LoginSessions := ⟨fun _ => none, none, fun _ => [], fun _ => false⟩

/-- The attempt no longer counts. -/
def attemptOld (now attempt : Nat) : Bool :=
  decide (attempt ≤ now ∧ qrStartRateWindow ≤ now - attempt)

/-- `expire_and_purge`. -/
def expireAndPurge (limits : LoginLimits) (now : Nat) (s : LoginSessions) : LoginSessions where
  sessions id := ((s.sessions id).map (·.expire now)).filter (!·.purged limits now)
  candidateId := s.candidateId.filter fun id => !(s.sessions id).any (·.expires now)
  qrStartAttempts device := (s.qrStartAttempts device).filter (!attemptOld now ·)
  cancelled id := s.cancelled id || (s.sessions id).any (·.expires now)

/-- `release_candidate`. -/
def releaseCandidate (id : Uuid) (s : LoginSessions) : LoginSessions :=
  { s with candidateId := if s.candidateId = some id then none else s.candidateId }

def put (id : Uuid) (session : LoginSession) (s : LoginSessions) : LoginSessions :=
  { s with sessions := Function.update s.sessions id (some session) }

/-- `finish` of a session, and the release of its place as the candidate. -/
def finish (id : Uuid) (session : LoginSession) (state : LoginState) (errorCode : Option String)
    (now : Nat) (s : LoginSessions) : LoginSessions :=
  { s.put id (session.finish state errorCode now) with
    cancelled := Function.update s.cancelled id true }.releaseCandidate id

/-- `record_qr_start`: whether the start is within the rate. -/
def recordQrStart (ownerDeviceId : Uuid) (now : Nat) (s : LoginSessions) : Bool × LoginSessions :=
  let attempts := (s.qrStartAttempts ownerDeviceId).dropWhile (attemptOld now)
  if maxQrStartsPerDevice ≤ attempts.length then
    (false, { s with qrStartAttempts := Function.update s.qrStartAttempts ownerDeviceId attempts })
  else
    (true,
      { s with
        qrStartAttempts := Function.update s.qrStartAttempts ownerDeviceId (attempts ++ [now]) })

/-- `owner_session`. -/
def ownerSession (s : LoginSessions) (ownerDeviceId id : Uuid) : Option LoginSession :=
  (s.sessions id).filter (·.ownerDeviceId == ownerDeviceId)

/-! ### Methods

A method returns its result and the table it leaves.  The only methods that can
panic are the two that look up the candidate; they return nothing then. -/

section

variable (tools : LoginTools) (limits : LoginLimits)

/-- The end of `start_at`: the new session, at most the candidate. -/
def create (owner : Uuid) (state : LoginState) (authority : LoginAuthority) (id : Uuid)
    (now : Nat) (expiresAtWallMs : Timestamp) (baseUrl : Url) (s : LoginSessions) :
    StartOutcome × LoginSessions :=
  let session : LoginSession :=
    { loginId := id
      ownerDeviceId := owner
      createdAt := now
      expiresAt := now + limits.ttl
      expiresAtWallMs := expiresAtWallMs
      finishedAt := if state.isTerminal then some now else none
      state := state
      errorCode := none
      qrGeneration := 0
      refreshCount := 0
      verifyAttempts := 0
      verifyRevision := 0
      awaitingCutover := false
      cutoverCommitting := false
      baseUrl := baseUrl
      qrToken := none
      qrContent := none
      pendingVerifyCode := none
      adminAuthorization := authority.adminAuthorization
      operatorAuthorized := authority.operatorAuthorized }
  (⟨session.snapshot, true⟩,
    { s.put id session with
      candidateId := if state.isTerminal then s.candidateId else some id
      cancelled := Function.update s.cancelled id false })

/-- `start_at` without a candidate under way. -/
def startNew (owner : Uuid) (forceFresh hasActiveConnection : Bool) (authority : LoginAuthority)
    (id : Uuid) (now : Nat) (wallNowMs : Timestamp) (s : LoginSessions) :
    Except LoginError StartOutcome × LoginSessions :=
  let ttlMs : Timestamp := (limits.ttl / 1000000 : Nat)
  if instantMax < now + limits.ttl then (.error .clock, s)
  else if 2 ^ 63 ≤ ttlMs ∨ 2 ^ 63 ≤ wallNowMs + ttlMs then (.error .clock, s)
  else
    let state := if hasActiveConnection && !forceFresh then .alreadyConnected else .fetchingQr
    let recorded := if state = .fetchingQr then s.recordQrStart owner now else (true, s)
    if recorded.1 then
      match tools.productionBaseUrl with
      | none => (.error .clock, recorded.2)
      | some baseUrl =>
        let created := create limits owner state authority id now (wallNowMs + ttlMs) baseUrl
          recorded.2
        (.ok created.1, created.2)
    else (.error .rateLimited, recorded.2)

/-- `start_at`. -/
def startAt (owner : Uuid) (forceFresh hasActiveConnection : Bool) (authority : LoginAuthority)
    (id : Uuid) (now : Nat) (wallNowMs : Timestamp) (s : LoginSessions) :
    Option (Except LoginError StartOutcome × LoginSessions) :=
  let s := s.expireAndPurge limits now
  match s.candidateId with
  | none =>
    some (startNew tools limits owner forceFresh hasActiveConnection authority id now wallNowMs s)
  | some candidateId =>
    (s.sessions candidateId).map fun existing =>
      if existing.ownerDeviceId = owner then
        if existing.awaitingCutover && authority.adminAuthorization.isSome then
          (.error .terminal, s)
        else
          (.ok ⟨(existing.rebind authority).snapshot, false⟩,
            s.put candidateId (existing.rebind authority))
      else (.error .candidateInProgress, s)

/-- `snapshot_at`. -/
def snapshotAt (owner id : Uuid) (now : Nat) (s : LoginSessions) :
    Except LoginError LoginSnapshot × LoginSessions :=
  let s := s.expireAndPurge limits now
  match s.ownerSession owner id with
  | none => (.error .notFound, s)
  | some session => (.ok session.snapshot, s)

/-- The shape of a verify code. -/
def verifyCodeValid (code : String) : Bool :=
  !code.isEmpty && decide (code.utf8ByteSize ≤ 16) && code.toList.all Char.isDigit

/-- `submit_verify_code`. -/
def submitVerifyCode (owner id : Uuid) (code : String) (now : Nat) (s : LoginSessions) :
    Except LoginError LoginSnapshot × LoginSessions :=
  if !verifyCodeValid code then (.error .invalidVerifyCode, s)
  else
    let s := s.expireAndPurge limits now
    match s.ownerSession owner id with
    | none => (.error .notFound, s)
    | some session =>
      if session.state.isTerminal || session.awaitingCutover then (.error .terminal, s)
      else if session.state ≠ .verifyCodeRequired then (.error .verifyNotAllowed, s)
      else if maxVerifyAttempts ≤ session.verifyAttempts then (.error .verifyLimitReached, s)
      else (.ok (session.takeCode code).snapshot, s.put id (session.takeCode code))

/-- `cancel`. -/
def cancel (owner id : Uuid) (now : Nat) (s : LoginSessions) :
    Except LoginError LoginSnapshot × LoginSessions :=
  let s := s.expireAndPurge limits now
  match s.ownerSession owner id with
  | none => (.error .notFound, s)
  | some session =>
    if session.cutoverCommitting then (.error .terminal, s)
    else if session.state.isTerminal then (.ok session.snapshot, s.releaseCandidate id)
    else
      (.ok (session.finish .cancelled none now).snapshot, s.finish id session .cancelled none now)

/-- `cancel_candidate_for_disconnect`.  That the candidate is not committing is
asserted in debug builds only. -/
def cancelCandidateForDisconnect (now : Nat) (s : LoginSessions) :
    Option (Option Uuid × LoginSessions) :=
  let s := s.expireAndPurge limits now
  match s.candidateId with
  | none => some (none, s)
  | some id =>
    (s.sessions id).map fun session =>
      if session.state.isTerminal then (some id, s.releaseCandidate id)
      else (some id, s.finish id session .cancelled none now)

/-- `install_qr`. -/
def installQr (id : Uuid) (response : GetBotQrCodeResponse) (now : Nat) (s : LoginSessions) :
    Except LoginError Nat × LoginSessions :=
  let s := s.expireAndPurge limits now
  match s.sessions id with
  | none => (.error .notFound, s)
  | some session =>
    if session.state.isTerminal || session.awaitingCutover then (.error .terminal, s)
    else if response.qrcode.isEmpty || response.qrcodeImgContent.isEmpty then
      (.error .terminal, s.finish id session .failed (some errorInvalidProviderResponse) now)
    else (.ok (session.showQr response).qrGeneration, s.put id (session.showQr response))

/-- `poll_input`. -/
def pollInput (id : Uuid) (now : Nat) (s : LoginSessions) :
    Except LoginError PollInput × LoginSessions :=
  let s := s.expireAndPurge limits now
  match s.sessions id with
  | none => (.error .notFound, s)
  | some session =>
    if session.state.isTerminal || session.awaitingCutover then (.error .terminal, s)
    else
      match session.qrToken with
      | none => (.error .terminal, s)
      | some qrToken =>
        (.ok ⟨session.qrGeneration, session.verifyRevision, session.baseUrl, qrToken,
          session.pendingVerifyCode⟩, s)

/-- `worker_cancellation`: whether there is a token to run under. -/
def workerCancellation (id : Uuid) (now : Nat) (s : LoginSessions) :
    Except LoginError Unit × LoginSessions :=
  let s := s.expireAndPurge limits now
  match s.sessions id with
  | none => (.error .notFound, s)
  | some session => (if session.state.isTerminal then .error .terminal else .ok (), s)

/-- The answer of the provider, on the session it is for. -/
def applyStatus (id : Uuid) (session : LoginSession) (response : GetQrCodeStatusResponse)
    (hasActiveCredentials : Bool) (now : Nat) (wallNowMs : Timestamp) (s : LoginSessions) :
    LoginDirective × LoginSessions :=
  let finished (state : LoginState) (errorCode : Option String) :=
    (LoginDirective.terminal state, s.finish id session state errorCode now)
  match response.status with
  | .wait => (.continuePolling, s.put id { session with state := .waitingScan })
  | .unknown _ => finished .failed (some errorUnknownQrStatus)
  | .scaned => (.continuePolling, s.put id { session with state := .scanned })
  | .needVerifyCode => (.continuePolling, s.put id { session with state := .verifyCodeRequired })
  | .verifyCodeBlocked => finished .failed (some errorVerifyBlocked)
  | .expired =>
    if session.refreshCount < maxQrRefreshes then
      (.refreshQr session.qrGeneration, s.put id session.refreshQr)
    else finished .expired none
  | .scanedButRedirect =>
    match response.redirectHost.bind tools.redirectBaseUrl with
    | none => finished .failed (some errorInvalidProviderResponse)
    | some baseUrl =>
      (.continuePolling, s.put id { session with baseUrl := baseUrl, state := .scanned })
  | .bindedRedirect =>
    if hasActiveCredentials then finished .alreadyConnected none
    else finished .failed (some errorBoundWithoutCredentials)
  | .confirmed =>
    match confirmedBundle tools response session.baseUrl wallNowMs with
    | none => finished .failed (some errorInvalidProviderResponse)
    | some bundle =>
      (.cutover ⟨id, session.ownerDeviceId, bundle, session.adminAuthorization,
          session.operatorAuthorized⟩,
        s.put id session.awaitCutover)

/-- `apply_provider_status_at`. -/
def applyProviderStatusAt (id : Uuid) (generation verifyRevision : Nat)
    (response : GetQrCodeStatusResponse) (hasActiveCredentials : Bool) (now : Nat)
    (wallNowMs : Timestamp) (s : LoginSessions) :
    Except LoginError LoginDirective × LoginSessions :=
  let s := s.expireAndPurge limits now
  match s.sessions id with
  | none => (.error .notFound, s)
  | some session =>
    if session.state.isTerminal || session.awaitingCutover then (.error .terminal, s)
    else if session.qrGeneration ≠ generation then (.ok .ignoreStale, s)
    else
      let applied := applyStatus tools id (session.dropCarried verifyRevision) response
        hasActiveCredentials now wallNowMs s
      (.ok applied.1, applied.2)

/-- The state in which a cutover leaves its session. -/
def cutoverEnd : CutoverOutcome → LoginState × Option String
  | .activated => (.confirmed, none)
  | .activatedDegraded => (.confirmed, some errorCutoverDegraded)
  | .rejected _ | .cancelled => (.failed, some errorCutoverFailed)

/-- `finish_cutover`. -/
def finishCutover (id : Uuid) (outcome : CutoverOutcome) (now : Nat) (s : LoginSessions) :
    Except LoginError LoginSnapshot × LoginSessions :=
  match s.sessions id with
  | none => (.error .notFound, s)
  | some session =>
    if session.awaitingCutover then
      let ended := cutoverEnd outcome
      (.ok (session.finish ended.1 ended.2 now).snapshot, s.finish id session ended.1 ended.2 now)
    else if session.state.isTerminal && outcome == .cancelled then (.ok session.snapshot, s)
    else (.error .terminal, s)

/-- `fail_provider_inner`: the snapshot, and whether the session was under way. -/
def failProvider (id : Uuid) (now : Nat) (s : LoginSessions) :
    Except LoginError (LoginSnapshot × Bool) × LoginSessions :=
  let s := s.expireAndPurge limits now
  match s.sessions id with
  | none => (.error .notFound, s)
  | some session =>
    if session.state.isTerminal then (.ok (session.snapshot, false), s.releaseCandidate id)
    else
      (.ok ((session.finish .failed (some errorProviderUnavailable) now).snapshot, true),
        s.finish id session .failed (some errorProviderUnavailable) now)

/-- `candidate_is_current`. -/
def candidateIsCurrent (id owner : Uuid) (now : Nat) (s : LoginSessions) : Bool × LoginSessions :=
  let s := s.expireAndPurge limits now
  (s.candidateId == some id && (s.sessions id).any (·.awaits owner), s)

/-- `begin_cutover`. -/
def beginCutover (id owner : Uuid) (now : Nat) (s : LoginSessions) : Bool × LoginSessions :=
  let s := s.expireAndPurge limits now
  if s.candidateId = some id then
    match s.sessions id with
    | none => (false, s)
    | some session =>
      if session.awaits owner then (true, s.put id { session with cutoverCommitting := true })
      else (false, s)
  else (false, s)

/-- `cutover_is_committing`. -/
def cutoverIsCommitting (id owner : Uuid) (s : LoginSessions) : Bool :=
  s.candidateId == some id && (s.sessions id).any (·.commits owner)

end

end LoginSessions

/-! ## Sequences of calls -/

/-- Who starts a login. -/
inductive LoginStarter where
  /-- `start`, by an authenticated device. -/
  | device (owner : Uuid)
  /-- `start_admin`, with the authorization of a grant. -/
  | admin (owner : Uuid) (authorization : AdminLoginAuthorization)
  /-- `start_operator`. -/
  | operator (owner : Uuid)

def LoginStarter.owner : LoginStarter → Uuid
  | .device owner | .admin owner _ | .operator owner => owner

def LoginStarter.authority : LoginStarter → LoginAuthority
  | .device _ => ⟨none, false⟩
  | .admin _ authorization => ⟨some authorization, false⟩
  | .operator _ => ⟨none, true⟩

/-- `start_admin` refuses an authorization of another device. -/
def LoginStarter.consistent : LoginStarter → Bool
  | .admin owner authorization => authorization.ownerDeviceId == owner
  | .device _ | .operator _ => true

/-- A call on the manager.  A start draws an identifier; where a method reads the
wall clock, the reading may fail. -/
inductive LoginOp where
  | start (starter : LoginStarter) (forceFresh hasActiveConnection : Bool) (id : Uuid)
      (wallNowMs : Option Timestamp)
  | snapshot (owner id : Uuid)
  | submitVerifyCode (owner id : Uuid) (code : String)
  | cancel (owner id : Uuid)
  | cancelCandidateForDisconnect
  | installQr (id : Uuid) (response : GetBotQrCodeResponse)
  | pollInput (id : Uuid)
  | workerCancellation (id : Uuid)
  | applyProviderStatus (id : Uuid) (generation verifyRevision : Nat)
      (response : GetQrCodeStatusResponse) (hasActiveCredentials : Bool)
      (wallNowMs : Option Timestamp)
  | finishCutover (id : Uuid) (outcome : CutoverOutcome)
  | failProvider (id : Uuid)
  | candidateIsCurrent (id owner : Uuid)
  | beginCutover (id owner : Uuid)
  | cutoverIsCommitting (id owner : Uuid)

inductive LoginAnswer where
  | started (result : Except LoginError StartOutcome)
  | snapshot (result : Except LoginError LoginSnapshot)
  | cancelledCandidate (id : Option Uuid)
  | installed (result : Except LoginError Nat)
  | polls (result : Except LoginError PollInput)
  | worker (result : Except LoginError Unit)
  | directed (result : Except LoginError LoginDirective)
  | failed (result : Except LoginError (LoginSnapshot × Bool))
  | flag (value : Bool)

/-- The answer of a method that returns `result`. -/
def answering {α : Type} (answer : α → LoginAnswer) (result : α × LoginSessions) :
    LoginAnswer × LoginSessions :=
  (answer result.1, result.2)

/-- The call on the table: its answer and the table it leaves; nothing, if the
`expect` that a candidate has its session fails. -/
def LoginOp.call (tools : LoginTools) (limits : LoginLimits) (now : Nat) (s : LoginSessions) :
    LoginOp → Option (LoginAnswer × LoginSessions)
  | .start starter forceFresh hasActive id wallNowMs =>
    if starter.consistent then
      match wallNowMs with
      | none => some (.started (.error .clock), s)
      | some wallNowMs =>
        (s.startAt tools limits starter.owner forceFresh hasActive starter.authority id now
          wallNowMs).map (answering .started)
    else some (.started (.error .notFound), s)
  | .snapshot owner id => some (answering .snapshot (s.snapshotAt limits owner id now))
  | .submitVerifyCode owner id code =>
    some (answering .snapshot (s.submitVerifyCode limits owner id code now))
  | .cancel owner id => some (answering .snapshot (s.cancel limits owner id now))
  | .cancelCandidateForDisconnect =>
    (s.cancelCandidateForDisconnect limits now).map (answering .cancelledCandidate)
  | .installQr id response => some (answering .installed (s.installQr limits id response now))
  | .pollInput id => some (answering .polls (s.pollInput limits id now))
  | .workerCancellation id => some (answering .worker (s.workerCancellation limits id now))
  | .applyProviderStatus id generation verifyRevision response hasActive wallNowMs =>
    match wallNowMs with
    | none => some (.directed (.error .clock), s)
    | some wallNowMs =>
      some (answering .directed (s.applyProviderStatusAt tools limits id generation
        verifyRevision response hasActive now wallNowMs))
  | .finishCutover id outcome => some (answering .snapshot (s.finishCutover id outcome now))
  | .failProvider id => some (answering .failed (s.failProvider limits id now))
  | .candidateIsCurrent id owner =>
    some (answering .flag (s.candidateIsCurrent limits id owner now))
  | .beginCutover id owner => some (answering .flag (s.beginCutover limits id owner now))
  | .cutoverIsCommitting id owner => some (.flag (s.cutoverIsCommitting id owner), s)

end PromptDock.Wechat
