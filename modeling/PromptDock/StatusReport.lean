import PromptDock.RetentionRuns

/-!
# The backlog in the status report

`status` in `operations.rs` counts what waits for retention, in queries of its
own.  Commands and selections it counts as a pass of `retention.rs` deletes
them.  Its query on the outbox does not ask, as the pass does, whether the page
of a result is still open, so it counts notices that the pass keeps.  The pass
may also end early, with notices left over.
-/

namespace PromptDock.RelayDatabase

open RowTable RetentionService List StoreAction

/-- `RetentionBacklog`. -/
structure RetentionBacklog where
  (outbox inbound selections : Int)

section

variable (config : RetentionConfig) (now : Timestamp)

/-- `accepted_before` and the other bounds of `status`. -/
def daysBefore (days : Nat) : Int :=
  now - days * 86400000

def outboxCounted (r : OutboxRow) : Bool :=
  ((r.status = .providerAccepted || r.status = .cancelled || r.status = .expired) &&
      r.updatedAt < daysBefore now config.acceptedDays) ||
    (r.status = .deadLetter && r.updatedAt < daysBefore now config.deadLetterDays)

def inboundCounted (r : InboundRow) : Bool :=
  ((r.status = .replyQueued || r.status = .deadLetter) &&
      r.updatedAt < daysBefore now config.inboundTerminalDays) ||
    (r.status = .expired && r.updatedAt < daysBefore now config.inboundExpiredDays)

/-- The retention backlog that `status` reports. -/
def retentionBacklog (s : RelayDatabase) : RetentionBacklog where
  outbox := s.relay.notificationOutbox.countP (outboxCounted config now)
  inbound := s.relay.inboundCommands.countP (inboundCounted config now)
  selections := s.relay.selectionContexts.countP fun c => c.expiresAt ≤ now

end

/-- How many rows fewer `s'` has. -/
def deletedRows (s s' : RelayDatabase) : RetentionBacklog where
  outbox := s.relay.notificationOutbox.length - s'.relay.notificationOutbox.length
  inbound := s.relay.inboundCommands.length - s'.relay.inboundCommands.length
  selections := s.relay.selectionContexts.length - s'.relay.selectionContexts.length

variable {engine : DatabaseEngine} {config : RetentionConfig} {now : Timestamp}
  {s s' : RelayDatabase}

/-- Both cutoffs are the same time. -/
theorem daysBefore_eq (days : Nat) : daysBefore now days = now - daysToMilliseconds days := by
  unfold daysBefore daysToMilliseconds
  omega

/-- What is counted is what is deleted. -/
theorem inboundCounted_eq : inboundCounted config now = inboundDue config now := by
  funext r
  simp only [inboundCounted, inboundDue, daysBefore_eq]

/-- A notification is due if it is counted and no open page holds it back. -/
theorem outboxDue_eq (pageOpen : Uuid → Bool) (r : OutboxRow) : outboxDue config pageOpen now r =
      (r.resultRowId.all (fun id => !pageOpen id) && outboxCounted config now r) := by
  simp only [outboxCounted, outboxDue, daysBefore_eq]

/-- The notifications that `status` counts are those due and those held back. -/
theorem countP_outboxCounted (config : RetentionConfig) (now : Timestamp) (pageOpen : Uuid → Bool)
    (rows : List OutboxRow) :
    rows.countP (outboxCounted config now) = rows.countP (outboxDue config pageOpen now) +
      (rows.filter (!outboxDue config pageOpen now ·)).countP (outboxCounted config now) := by
  have hdue : ∀ r, (outboxCounted config now r && outboxDue config pageOpen now r) =
      outboxDue config pageOpen now r := by
    intro r
    rw [outboxDue_eq, Bool.and_left_comm, Bool.and_self]
  rw [countP_eq_countP_filter_add rows _ (outboxDue config pageOpen now), countP_filter]
  simp only [hdue]

/-- **The backlog and the pass.**  The status report counts what a completed pass
at the same clock reading deletes, and nothing afterwards, exactly if no counted
notification is held back by an open page and the notifications that are due fit
into as many batches as the pass has rounds. -/
theorem backlog_is_deleted_iff (engine : DatabaseEngine) (config : RetentionConfig)
    (now : Timestamp) (started ended : Option Timestamp) (views : List RoundView)
    (s s' : RelayDatabase) (report : RetentionRunReport) (hs : s.check = true)
    (hviews : ∀ view ∈ views, view.uncancelled = true ∧ view.now = some now)
    (h : runOnce engine config started false views ended s = (.ok (some report), s')) :
    (retentionBacklog config now s = deletedRows s s' ∧
        retentionBacklog config now s' = ⟨0, 0, 0⟩) ↔
      (∀ o ∈ s.relay.notificationOutbox, outboxCounted config now o = true →
        o.resultRowId.all (fun id => !s.pageOpen now id) = true) ∧
      ∃ rounds, (workload config now s).FullRounds rounds ∧
        (workload config now s).notifications ≤ retentionBatch * (rounds + 1) := by
  obtain ⟨_, rounds, hserved⟩ := runOnce_served hs hviews h
  have hrounds : (∃ rounds, (workload config now s).FullRounds rounds ∧
      (workload config now s).notifications ≤ retentionBatch * (rounds + 1)) ↔
      (workload config now s).notifications ≤ retentionBatch * (rounds + 1) := by
    constructor
    · rintro ⟨rounds', hfull, hfits⟩
      rwa [hserved.full.unique hfull]
    · intro hfits
      exact ⟨rounds, hserved.full, hfits⟩
  obtain ⟨hpages, hboxes, hcommands, hselections⟩ := hserved.rest
  obtain ⟨hcmdNone, hselZero, _⟩ := hserved.reported
  have hleft := hserved.notifications
  simp only [workload, hpages] at hleft hselZero hcmdNone hrounds ⊢
  have hbefore := countP_outboxCounted config now (s.pageOpen now) s.relay.notificationOutbox
  have hafter := countP_outboxCounted config now (s.pageOpen now) s'.relay.notificationOutbox
  rw [hboxes] at hafter
  have hbox := SameBut.length_sub hboxes
  have hcmd := SameBut.length_sub hcommands
  have hsel := SameBut.length_sub hselections
  have hcmdZero : s'.relay.inboundCommands.countP (inboundDue config now) = 0 := by
    rw [← length_dueQueue, hcmdNone, length_nil]
  have hopen : (∀ o ∈ s.relay.notificationOutbox, outboxCounted config now o = true →
          o.resultRowId.all (fun id => !s.pageOpen now id) = true) ↔
      (s.relay.notificationOutbox.filter (!outboxDue config (s.pageOpen now) now ·)).countP
        (outboxCounted config now) = 0 := by
    simp only [countP_eq_zero, mem_filter, outboxDue_eq]
    refine forall_congr' fun o => ?_
    cases outboxCounted config now o <;> simp
  rw [hopen, hrounds]
  simp only [retentionBacklog, deletedRows, RetentionBacklog.mk.injEq, inboundCounted_eq]
  omega

/-- A notice that was accepted on the first day, for a result whose page is open
for a week. -/
def heldBack : RelayDatabase where
  relay :=
    { RelayStore.empty with
      devices := [⟨1, "desk", true, 0, none, []⟩]
      notificationOutbox :=
        [{ ResultNotice.row ⟨1, 2, 3, "", "", "wx:" ++ "".pushn '0' 64, "", [],
              List.replicate 24 0, 604800000⟩ 4 0 with status := .providerAccepted }] }
  results :=
    [⟨2, 1, "device:" ++ Uuid.hyphenated 1, "result", "key", List.replicate 32 0, "key", "1",
      "title", some [], some (List.replicate 24 0), 0, "".pushn '0' 64, none, none, none, 0, 0,
      604800000, 604800000, none, none, "", "", some .providerAccepted, 0⟩]
  notificationBundles := []

theorem heldBack_check : heldBack.check = true := by decide +kernel

/-- The third day. -/
def thirdDay : Timestamp := 259200000

/-- The same with a command and a selection that have expired. -/
def grownOld : RelayDatabase :=
  { heldBack with
    relay :=
      { heldBack.relay with
        inboundCommands := [DurableInboundCommand.row ⟨"key", "wx:" ++ "".pushn '0' 64, .help,
          "".pushn '0' 64, 0, none⟩ .expired]
        selectionContexts :=
          [⟨"wx:" ++ "".pushn '0' 64, none, none, none, none, none, none, 0⟩] } }

/-- On the tenth day the page is closed, and the pass deletes what is counted. -/
theorem backlog_is_deleted_iff_sample : grownOld.check = true ∧
    ∃ s', runOnce (Engine.faultless check) ⟨1, 1, 1, 1⟩ (some 864000000) false
        [calmView 864000000] (some 864000000) grownOld =
          (.ok (some ⟨1, 1, 1, 864000000, 864000000, true⟩), s') ∧
      retentionBacklog ⟨1, 1, 1, 1⟩ 864000000 grownOld = ⟨1, 1, 1⟩ ∧
      deletedRows grownOld s' = ⟨1, 1, 1⟩ ∧
      retentionBacklog ⟨1, 1, 1, 1⟩ 864000000 s' = ⟨0, 0, 0⟩ := by
  have hcheck : grownOld.check = true := by decide +kernel
  refine ⟨hcheck, _, rfl, rfl, ?_⟩
  have hiff := backlog_is_deleted_iff (Engine.faultless check) ⟨1, 1, 1, 1⟩ 864000000
    (some 864000000) (some 864000000) [calmView 864000000] grownOld _ _ hcheck (by decide) rfl
  obtain ⟨hdeleted, hzero⟩ := hiff.mpr ⟨by decide +kernel, 0, rfl, by decide +kernel⟩
  exact ⟨hdeleted.symm, hzero⟩

/-- Notices are kept for one day.  On the third day the notice is counted; the
pass deletes nothing, and afterwards the notice is counted as before. -/
theorem open_page_is_counted : heldBack.check = true ∧
    runOnce (Engine.faultless check) ⟨1, 1, 1, 1⟩ (some thirdDay) false [calmView thirdDay]
      (some thirdDay) heldBack = (.ok (some ⟨0, 0, 0, thirdDay, thirdDay, true⟩), heldBack) ∧
    retentionBacklog ⟨1, 1, 1, 1⟩ thirdDay heldBack = ⟨1, 0, 0⟩ :=
  ⟨heldBack_check, rfl, rfl⟩

end PromptDock.RelayDatabase
