import PromptDock.Tombstones
import PromptDock.StatusReport
import PromptDock.Desktop.RunNotices
import PromptDock.Desktop.FinalizerBatches
import PromptDock.Desktop.PolicyRuns
import PromptDock.Desktop.RunHistories
import PromptDock.Desktop.RepeatedEvents
import PromptDock.Desktop.ResumedDelivery
import PromptDock.Desktop.RetainedTotals
import PromptDock.Desktop.RetentionCascade
import PromptDock.Desktop.ReceiptCandidates
import PromptDock.Wechat.ActivationSweeps
import PromptDock.Wechat.CutoverAuthority
import PromptDock.Wechat.UpdateCursor
import PromptDock.Desktop.ReceiptHistory
import PromptDock.Desktop.SecretRedaction
import PromptDock.Desktop.ResultExcerpt
import PromptDock.ResultNotices
import PromptDock.Desktop.QuotaRuntime
import PromptDock.Wechat.MessageText
import PromptDock.Desktop.HookScript
import PromptDock.Desktop.PreparedContent
import PromptDock.ResultsViewer
