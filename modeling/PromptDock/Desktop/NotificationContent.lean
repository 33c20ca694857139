import PromptDock.Desktop.RunReducer

/-!
# Notification content

What a notification says, from a run or an attention request to the frozen
payload (`notification/content_builder.rs`, `renderer.rs`, `safe_content.rs` and
the payload of `outbox.rs`).  A payload is built once, checked, and stored; its
check is the one a sender makes again.

`Platform` stands for what the program takes from elsewhere: the local time of
the operating system, the last component of a path, the upper case of a
character, and the redaction of secrets, which is a filter of its own.
-/

namespace PromptDock.Desktop

open UnicodeText

/-- An error of the desktop application: its code and its text. -/
structure AppError where
  (code message : String)
deriving DecidableEq

/-- What rendering takes from the platform. -/
structure Platform where
  redactSecrets : Text → Text
  /-- A point in time as `%Y-%m-%d %H:%M:%S` in the local time zone. -/
  localTime : Timestamp → Option Text
  /-- A point in time, in seconds, as `%m-%d %H:%M` in the local time zone. -/
  localReset : Timestamp → Option Text
  /-- `Path::file_name`, where it is text. -/
  fileName : Text → Option Text
  /-- `char::to_uppercase`. -/
  upperCase : Char → Text

/-! ## Settings -/

inductive NotificationMode where
  | completionOnly | startAndCompletion
deriving DecidableEq

structure NotificationSettings where
  policyRevision : Int
  (includeTaskInput enabled : Bool)
  mode : NotificationMode
  notifyEnded : Bool
  (completionQuietMs contentEpoch : Int)
  resultContentMode : ResultContentMode
  maxResultChars : Nat
  (redactSecrets attentionEnabled : Bool)

def completionQuietMsMin : Int := 500
def completionQuietMsMax : Int := 20000

def NotificationSettings.validate (s : NotificationSettings) : Bool :=
  200 ≤ s.maxResultChars && s.maxResultChars ≤ 5000 &&
    completionQuietMsMin ≤ s.completionQuietMs && s.completionQuietMs ≤ completionQuietMsMax

/-- `NotificationSettings::default`. -/
def NotificationSettings.standard : NotificationSettings where
  policyRevision := 0
  includeTaskInput := false
  enabled := false
  mode := .startAndCompletion
  notifyEnded := true
  completionQuietMs := 2000
  contentEpoch := 0
  resultContentMode := .statusOnly
  maxResultChars := 1200
  redactSecrets := true
  attentionEnabled := false

example : NotificationSettings.standard.validate = true := by decide

/-! ## Texts -/

def maxNotificationChars : Nat := 6000

def contentTruncationNotice : Text := text "（内容过长，已截断，请回到 PromptDock 查看完整内容）"

/-- `str::trim_end`. -/
def trimEnd (t : Text) : Text :=
  (t.reverse.dropWhile isWhitespace).reverse

def truncateCharsWithNotice (t : Text) (maxChars : Nat) : Text :=
  let separator := text "\n\n"
  let suffixChars := separator.length + contentTruncationNotice.length
  if t.length ≤ maxChars then t
  else if maxChars ≤ suffixChars then contentTruncationNotice.take maxChars
  else trimEnd (t.take (maxChars - suffixChars)) ++ separator ++ contentTruncationNotice

/-- The first pass of `normalize_whitespace`: line ends become line feeds, tabs
four spaces, and other control characters spaces. -/
def normalizeScalars : Text → Text
  | [] => []
  | '\r' :: '\n' :: rest => '\n' :: normalizeScalars rest
  | c :: rest =>
    (if c == '\r' || c == '\n' then ['\n']
      else if c == '\t' then [' ', ' ', ' ', ' ']
      else if isControl c then [' ']
      else [c]) ++ normalizeScalars rest

/-- The second pass: lines without trailing white space, and at most three empty
lines in a row. -/
def collapseLines : Nat → List Text → List Text
  | _, [] => []
  | consecutiveEmpty, line :: rest =>
    if blank line then
      if consecutiveEmpty + 1 ≤ 3 then [] :: collapseLines (consecutiveEmpty + 1) rest
      else collapseLines (consecutiveEmpty + 1) rest
    else trimEnd line :: collapseLines 0 rest

/-- No empty lines at either end. -/
def trimLines (lines : List Text) : List Text :=
  ((lines.dropWhile List.isEmpty).reverse.dropWhile List.isEmpty).reverse

def normalizeWhitespace (t : Text) : Text :=
  List.intercalate ['\n'] (trimLines (collapseLines 0 ((normalizeScalars t).splitOn '\n')))

def prepareContent (platform : Platform) (t : Text) (maxChars : Nat) (shouldRedact : Bool) :
    Option Text :=
  let redacted := if shouldRedact then platform.redactSecrets t else t
  let normalized := normalizeWhitespace redacted
  if normalized.isEmpty then none else some (truncateCharsWithNotice normalized maxChars)

/-- `sanitize` of `outbox.rs`. -/
def sanitize (value : Text) : Text :=
  trim ((value.filter fun c => !isControl c).take 80)

def sanitizeOptional (value : Text) : Option Text :=
  if (sanitize value).isEmpty then none else some (sanitize value)

/-- `sanitize_label` of `renderer.rs`. -/
def sanitizeLabel (value : Text) : Text :=
  (trim (value.filter fun c => !isControl c)).take 80

/-- Decimal digits of a number. -/
def decimal (n : Int) : Text :=
  if n < 0 then '-' :: Nat.toDigits 10 n.natAbs else Nat.toDigits 10 n.natAbs

/-! ## Payloads -/

/-- `NotificationEventKind`.  The table also names `activation`, which nothing
inserts. -/
inductive NotificationEventKind where
  | test | runStarted | runCompleted | runFailed | runInterrupted | attentionRequired
deriving DecidableEq

namespace NotificationEventKind

def asStr : NotificationEventKind → Text
  | .test => text "test"
  | .runStarted => text "run_started"
  | .runCompleted => text "run_completed"
  | .runFailed => text "run_failed"
  | .runInterrupted => text "run_interrupted"
  | .attentionRequired => text "attention_required"

def priority : NotificationEventKind → Int
  | .attentionRequired => 120
  | .test => 90
  | .runCompleted | .runFailed | .runInterrupted => 80
  | .runStarted => 50

def ttlMs : NotificationEventKind → Int
  | .test => 300000
  | .runStarted => 600000
  | .runCompleted | .runFailed | .runInterrupted => 86400000
  | .attentionRequired => 1800000

/-- The notices of the end of a run. -/
def terminal : NotificationEventKind → Bool
  | .runCompleted | .runFailed | .runInterrupted => true
  | .test | .runStarted | .attentionRequired => false

/-- Every kind but the test carries the policy it was made under. -/
def policyProtected : NotificationEventKind → Bool
  | .test => false
  | _ => true

end NotificationEventKind

/-- `NOTIFICATION_PAYLOAD_SCHEMA_VERSION`. -/
def notificationPayloadSchemaVersion : Nat := 2

structure NotificationPayloadV2 where
  schemaVersion : Nat
  (agentLabel workspaceLabel : Text)
  modelName : Option Text
  (title body : Text)
  contentMode : ResultContentMode
  resultRevision : Option Int
  sourceHash : Option Text
  contentBytes : Nat
  (startedAt completedAt : Option Timestamp)
  durationMs : Option Int
  delayedDelivery : Bool
deriving DecidableEq

namespace NotificationPayloadV2

def forRun (agentLabel : Text) (workspaceLabel modelName : Option Text)
    (startedAt completedAt : Option Timestamp) (durationMs : Option Int) :
    NotificationPayloadV2 where
  schemaVersion := notificationPayloadSchemaVersion
  agentLabel := sanitize agentLabel
  workspaceLabel := (workspaceLabel.map sanitize).getD []
  modelName := modelName.bind sanitizeOptional
  title := []
  body := []
  contentMode := .statusOnly
  resultRevision := none
  sourceHash := none
  contentBytes := 0
  startedAt := startedAt
  completedAt := completedAt
  durationMs := durationMs
  delayedDelivery := false

/-- `valid_notification_text`. -/
def validNotificationText (t : Text) (maxChars : Nat) : Bool :=
  t.length ≤ maxChars && t.all fun c => !isControl c || c == '\n'

def validContentContract (hashes : Hashes) (p : NotificationPayloadV2) : Bool :=
  match p.contentMode with
  | .fullFinal =>
    if p.sourceHash.isSome then
      p.resultRevision.any (0 < ·) && p.contentBytes == byteLength p.body &&
        byteLength p.body ≤ maxResultContentBytes &&
        p.sourceHash == some (sourceHashSha256 hashes p.body)
    else
      p.resultRevision.any (0 < ·) && p.contentBytes == 0 &&
        validNotificationText p.body maxNotificationChars
  | .redactedExcerpt =>
    p.resultRevision.any (0 < ·) && p.contentBytes ≤ maxResultContentBytes &&
      validNotificationText p.body maxNotificationChars
  | .statusOnly =>
    p.resultRevision.all (0 < ·) && p.sourceHash.isNone && p.contentBytes == 0 &&
      validNotificationText p.body maxNotificationChars

/-- At most 80 characters and no control character. -/
def validPayloadLabel (t : Text) : Bool :=
  t.length ≤ 80 && plain t

def validate (hashes : Hashes) (p : NotificationPayloadV2) : Except AppError Unit :=
  if p.schemaVersion == notificationPayloadSchemaVersion && validPayloadLabel p.agentLabel &&
      validPayloadLabel p.workspaceLabel && p.modelName.all validPayloadLabel &&
      (p.title.length ≤ 160 && plain p.title) && p.validContentContract hashes then
    .ok ()
  else .error ⟨"INVALID_NOTIFICATION_PAYLOAD", "通知元数据无效"⟩

/-- A body that stands for a whole result may be empty. -/
def fullResult (p : NotificationPayloadV2) : Bool :=
  p.contentMode == .fullFinal && p.sourceHash.isSome

def validateForKind (hashes : Hashes) (p : NotificationPayloadV2) (kind : NotificationEventKind) :
    Except AppError Unit := do
  p.validate hashes
  if kind.policyProtected && (blank p.title || (blank p.body && !p.fullResult)) then
    .error ⟨"INVALID_NOTIFICATION_PAYLOAD", "任务通知缺少冻结正文"⟩
  else .ok ()

end NotificationPayloadV2

/-! ## Rendering -/

def formatDuration (durationMs : Int) : Text :=
  let totalSeconds := max durationMs 0 / 1000
  if totalSeconds < 60 then decimal totalSeconds ++ text " 秒"
  else if totalSeconds < 3600 then
    decimal (totalSeconds / 60) ++ text " 分 " ++ decimal (totalSeconds % 60) ++ text " 秒"
  else
    decimal (totalSeconds / 3600) ++ text " 小时 " ++ decimal (totalSeconds % 3600 / 60) ++
      text " 分"

def formatLocalTime (platform : Platform) (timestampMs : Option Timestamp) : Text :=
  (timestampMs.bind platform.localTime).getD (text "未知时间")

def formatUsage (platform : Platform) (usage : Option CodexUsageSnapshot) : Text :=
  match usage.bind fun snapshot => snapshot.usedPercent.map fun used => (snapshot, used) with
  | none => []
  | some (snapshot, used) =>
    let window :=
      match snapshot.windowDurationMins with
      | some minutes =>
        if minutes % 1440 = 0 then decimal (minutes / 1440) ++ text " 天窗口"
        else decimal minutes ++ text " 分钟窗口"
      | none => text "当前窗口"
    let reset :=
      match snapshot.resetsAt.bind platform.localReset with
      | some time => text "，" ++ time ++ text " 重置"
      | none => []
    text "账户额度：" ++ window ++ text "已用 " ++ decimal used ++ text "%" ++ reset

def terminalResultTitle (agentLabel : Text) (usage : Option CodexUsageSnapshot) : Text :=
  let suffix :=
    match usage.bind (·.usedPercent) with
    | some used => text "｜账户额度：已用" ++ decimal used ++ text "%"
    | none => []
  sanitizeLabel agentLabel ++ text " 本轮输出" ++ suffix

/-- `blocks.join("\n\n")`. -/
def joinBlocks (blocks : List Text) : Text :=
  List.intercalate (text "\n\n") blocks

/-- The title of a notice about a run.  Attention requests have one of their own. -/
def noticeTitle (kind : NotificationEventKind) (agent : Text) : Text :=
  match kind with
  | .test => text "PromptDock 测试通知"
  | .runStarted => agent ++ text " 本轮开始"
  | .runCompleted => agent ++ text " 本轮已结束"
  | .runFailed => agent ++ text " 任务失败"
  | .runInterrupted => agent ++ text " 任务已中断"
  | .attentionRequired => agent

def noticeIcon : NotificationEventKind → Text
  | .test => text "✅"
  | .runStarted => text "🚀"
  | .runCompleted => text "⏹"
  | .runFailed => text "❌"
  | .runInterrupted => text "⏹"
  | .attentionRequired => []

/-- A line `label value`, where there is a value. -/
def labelled (label value : Text) : List Text :=
  if value.isEmpty then [] else [label ++ value]

/-- The lines on workspace, model, reasoning and duration. -/
def noticeMetadata (kind : NotificationEventKind) (payload : NotificationPayloadV2)
    (reasoningEffort : Option Text) : List Text :=
  labelled (text "项目：") (sanitizeLabel payload.workspaceLabel) ++
    (if kind = .runStarted then
      labelled (text "模型：") (sanitizeLabel (payload.modelName.getD [])) ++
        labelled (text "推理：") (sanitizeLabel (reasoningEffort.getD []))
    else
      [text "耗时：" ++
        (match payload.durationMs with
        | some duration => formatDuration duration
        | none => text "未知")])

def renderContent (platform : Platform) (kind : NotificationEventKind)
    (payload : NotificationPayloadV2) (task reasoningEffort : Option Text)
    (usage : Option CodexUsageSnapshot) (result : Option Text) (resultRequested : Bool) :
    Text × Text :=
  let title := noticeTitle kind (sanitizeLabel payload.agentLabel)
  if kind = .test then (title, text "✅ PromptDock 测试通知\n\n微信 ClawBot 通道可用。")
  else
    let usageText := if kind = .runStarted then [] else formatUsage platform usage
    let metadata := noticeMetadata kind payload reasoningEffort
    let excerpt :=
      match result.filter fun t => !t.isEmpty with
      | some result => text "结果摘录：\n" ++ result
      | none => text "结果摘录：\n未取得结果摘录"
    let timestamp := if kind = .runStarted then payload.startedAt else payload.completedAt
    (title,
      joinBlocks
        ([noticeIcon kind ++ text " " ++ title] ++
          labelled [] usageText ++
          (if metadata.isEmpty then [] else [List.intercalate ['\n'] metadata]) ++
          labelled (text "任务：\n") (task.getD []) ++
          (if resultRequested then [excerpt] else []) ++
          (if kind = .runFailed then [text "请返回 PromptDock/Codex 查看详情。"] else []) ++
          [text "时间：" ++ formatLocalTime platform timestamp]))

def attentionPrompt : AttentionKind → Text
  | .permission => text "需要授权"
  | .userInput => text "需要输入"
  | .confirmation => text "需要确认"

def renderAttentionContent (platform : Platform) (payload : NotificationPayloadV2)
    (attentionKind : AttentionKind) (safeSummary : Text) (occurredAt : Timestamp) : Text × Text :=
  let title := sanitizeLabel payload.agentLabel ++ text " 正在等待你的操作"
  (title,
    joinBlocks
      ([text "⚠️ " ++ title] ++
        labelled (text "项目：") (sanitizeLabel payload.workspaceLabel) ++
        [attentionPrompt attentionKind ++ text "：\n" ++ safeSummary,
          text "请返回电脑处理。微信仅发送提醒，不能远程批准，也不能绕过 Agent 权限系统。",
          text "时间：" ++ formatLocalTime platform (some occurredAt)]))

/-! ## Building a payload -/

/-- A result as it is read back from the store. -/
structure StoredResultContent where
  text : Text
  contentMode : ResultContentMode
  contentAvailable : Bool
  contentBytes : Nat
  resultRevision : Int
  sourceHash : Option Text

structure BuildNotificationInput where
  eventKind : NotificationEventKind
  run : AgentRunRecord
  output : Option StoredResultContent
  startContext : Option RunStartedV2
  usage : Option CodexUsageSnapshot
  settings : NotificationSettings

structure BuildAttentionNotificationInput where
  attentionKind : AttentionKind
  (agentLabel safeSummary : Text)
  occurredAt : Timestamp
  settings : NotificationSettings

def terminalTimestamp (kind : NotificationEventKind) (run : AgentRunRecord) : Option Timestamp :=
  match kind with
  | .runCompleted => run.completedAt.or (some run.lastEventAt)
  | .runFailed => run.failedAt.or (some run.lastEventAt)
  | .runInterrupted => run.interruptedAt.or (some run.lastEventAt)
  | .runStarted | .test | .attentionRequired => none

namespace NotificationContentBuilder

/-- The payload of a run before its text is rendered. -/
def framePayload (platform : Platform) (input : BuildNotificationInput) : NotificationPayloadV2 :=
  let terminalAt := terminalTimestamp input.eventKind input.run
  let durationMs :=
    input.run.startedAt.bind fun started =>
      terminalAt.map fun terminal => max (saturatingSub terminal started) 0
  let payload := NotificationPayloadV2.forRun input.run.agentLabel
    ((input.startContext.bind (·.workspacePath)).bind platform.fileName)
    (input.startContext.bind (·.modelName)) input.run.startedAt terminalAt durationMs
  if input.eventKind = .runStarted then payload
  else
    match input.output with
    | none => payload
    | some output =>
      { payload with
        contentMode := output.contentMode, resultRevision := some output.resultRevision,
        sourceHash := output.sourceHash, contentBytes := output.contentBytes }

/-- The task text, where a start notice may show it. -/
def taskText (platform : Platform) (input : BuildNotificationInput) : Option Text :=
  if input.eventKind = .runStarted ∧ input.settings.includeTaskInput then
    (input.startContext.bind (·.task)).bind fun task =>
      prepareContent platform task 4000 input.settings.redactSecrets
  else none

/-- Title and body of a notice about a run. -/
def renderRun (platform : Platform) (input : BuildNotificationInput) : Text × Text :=
  let payload := framePayload platform input
  let rendered (result : Option Text) (requested : Bool) : Text × Text :=
    let (title, body) := renderContent platform input.eventKind payload
      (taskText platform input) (input.startContext.bind (·.reasoningEffort)) input.usage result
      requested
    (title, truncateCharsWithNotice body maxNotificationChars)
  match if input.eventKind = .runStarted then none else input.output with
  | none => rendered none false
  | some output =>
    match output.contentMode with
    | .fullFinal =>
      if output.contentAvailable then
        (terminalResultTitle payload.agentLabel input.usage, output.text)
      else rendered none false
    | .redactedExcerpt =>
      rendered (if output.contentAvailable then some output.text else none) true
    | .statusOnly => rendered none false

def build (hashes : Hashes) (platform : Platform) (input : BuildNotificationInput) :
    Except AppError NotificationPayloadV2 := do
  let (title, body) := renderRun platform input
  let payload := { framePayload platform input with title, body }
  payload.validate hashes
  pure payload

def buildAttention (hashes : Hashes) (platform : Platform)
    (input : BuildAttentionNotificationInput) : Except AppError NotificationPayloadV2 := do
  let summary :=
    (prepareContent platform input.safeSummary 600 input.settings.redactSecrets).getD
      (text "Codex 请求需要你在电脑上处理的操作")
  let frame := NotificationPayloadV2.forRun input.agentLabel none none none
    (some input.occurredAt) none
  let (title, body) :=
    renderAttentionContent platform frame input.attentionKind summary input.occurredAt
  let payload := { frame with title, body := truncateCharsWithNotice body maxNotificationChars }
  payload.validate hashes
  pure payload

end NotificationContentBuilder

/-! ## Policy fingerprints -/

/-- `started_notification_policy_fingerprint`. -/
def startedNotificationPolicyFingerprint (hashes : Hashes) : Text :=
  hashes.blake3 (textBytes (text "promptdock-start-task-model-reasoning-redacted-v2"))

/-- `run_notification_policy_fingerprint`: a digest of the content epoch. -/
def runNotificationPolicyFingerprint (hashes : Hashes) (settings : NotificationSettings) : Text :=
  hashes.blake3 (textBytes (text "promptdock-run-notification-policy-v2\x00") ++
    textBytes (decimal settings.contentEpoch))

/-- A truth value in JSON. -/
def jsonBool (b : Bool) : Text :=
  if b then text "true" else text "false"

/-- `attention_notification_policy_fingerprint`. -/
def attentionNotificationPolicyFingerprint (hashes : Hashes) (settings : NotificationSettings) :
    Text :=
  hashes.blake3 (textBytes (text "promptdock-attention-notification-policy-v2\x00") ++
    textBytes (text "[" ++ jsonBool settings.enabled ++ text "," ++
      jsonBool settings.attentionEnabled ++ text "," ++ jsonBool settings.redactSecrets ++
      text "]"))

end PromptDock.Desktop
