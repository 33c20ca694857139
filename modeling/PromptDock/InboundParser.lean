import PromptDock.InboundModel
import PromptDock.UnicodeText

/-!
# Reading a command

`inbound/parser.rs`: the closed set of commands, in Chinese and English, and
the confirmation code, which the sink takes out before a command is parsed.
-/

namespace PromptDock

open UnicodeText

/-- `MAX_INBOUND_TEXT_CHARS`. -/
def maxInboundTextChars : Nat := 4096

/-- `MAX_JOB_SLOT`. -/
def maxJobSlot : Nat := 999

/-- `ParsedInboundCommand`. -/
structure ParsedInboundCommand where
  command : InboundCommandV5
  errorCode : Option String
deriving DecidableEq

/-- `matches_any_normalized`: an ideographic space counts as a space. -/
def matchesAnyNormalized (text : String) (aliases : List String) : Bool :=
  let normalized := (trim text.toList).map fun c => if c.toNat == 0x3000 then ' ' else c
  aliases.any fun name => normalized == name.toList

/-- The commands that name a slot. -/
def slotCommand (action : String) (slot : Nat) : Option InboundCommandV5 :=
  if ["选择设备", "select_device"].contains action then some (.selectDevice slot)
  else if ["选择运行时", "select_runtime"].contains action then some (.selectRuntime slot)
  else if ["选择工作区", "select_workspace"].contains action then some (.selectWorkspace slot)
  else if ["选择配置", "select_profile"].contains action then some (.selectHarnessProfile slot)
  else if ["启动", "start"].contains action then some (.startRun slot)
  else if ["状态", "status"].contains action then some (.getRunStatus slot)
  else if ["详情", "detail"].contains action then some (.getRunDetail slot)
  else if ["子运行", "tree"].contains action then some (.getRunTree slot)
  else if ["停止", "stop"].contains action then some (.cancelRun slot)
  else none

/-- `parse_closed_command`. -/
def parseClosedCommand (value : List Char) : Option InboundCommandV5 :=
  match splitWhitespace value with
  | [first] =>
    if ["取消", "cancel", "/cancel"].contains (String.ofList first) then some .cancelConfirmation
    else none
  | [first, second] =>
    if ["确认", "confirm"].contains (String.ofList first) then none
    else
      -- the slot may stand on either side of the action
      let parsed :=
        match parseU16 first with
        | some slot => some (second, slot)
        | none => (parseU16 second).map fun slot => (first, slot)
      match parsed with
      | some (action, slot) =>
        if slot == 0 || maxJobSlot < slot then none else slotCommand (String.ofList action) slot
      | none => none
  | _ => none

/-- `parse_inbound_command`. -/
def parseInboundCommand (text : String) : ParsedInboundCommand :=
  if maxInboundTextChars < text.length then ⟨.unknown, some "INPUT_TOO_LARGE"⟩
  else
    let command :=
      if matchesAnyNormalized text ["帮助", "help", "Help", "HELP", "/help"] then .help
      else if matchesAnyNormalized text
        ["设备", "device", "devices", "list_devices", "/devices"] then .listDevices
      else if matchesAnyNormalized text ["运行时", "runtimes", "runtime", "/runtimes"] then
        .listRuntimes
      else if matchesAnyNormalized text ["工作区", "workspaces", "workspace", "/workspaces"] then
        .listWorkspaces
      else if matchesAnyNormalized text ["配置", "profiles", "profile", "/profiles"] then
        .listHarnessProfiles
      else if matchesAnyNormalized text ["预设", "presets", "preset", "/presets"] then
        .listTaskPresets
      else if matchesAnyNormalized text ["任务", "jobs", "/jobs"] then .listRuns .all
      else if matchesAnyNormalized text ["最近", "recent", "/recent"] then .listRuns .recent
      else if matchesAnyNormalized text ["失败", "failed", "/failed"] then .listRuns .failed
      else if matchesAnyNormalized text ["下一页", "next", "next_page", "/next"] then .nextPage
      else (parseClosedCommand (trim text.toList)).getD .unknown
    ⟨command, none⟩

/-- `parse_confirmation_code`: the word for confirm and six ASCII digits. -/
def parseConfirmationCode (text : String) : Option String :=
  match splitWhitespace (trim text.toList) with
  | [command, code] =>
    if ["确认", "confirm"].contains (String.ofList command) &&
        code.length == 6 && code.all isAsciiDigit then
      some (String.ofList code)
    else none
  | _ => none

example : parseConfirmationCode "  确认　123456 " = some "123456" := by decide

example : (parseInboundCommand "+3 start").command = .startRun 3 := by decide

end PromptDock
