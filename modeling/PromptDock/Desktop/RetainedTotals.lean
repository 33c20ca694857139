import PromptDock.RowTally
import PromptDock.Desktop.ProgramRules

/-!
# The retention counters

`retention_counters` is kept by triggers: each row that enters, leaves or is
cleared amends it, also where the schema deletes rows along with a run.  The
counters are exact in every state the desktop reaches, and since everything that
is added was admitted by `check_capacity`, so are the limits kept.
-/

namespace PromptDock.Desktop

open RowTable TableStatement LabelledRun StoreAction.Action RetentionCounters

/-! ## Totals -/

/-- The bytes of content that a notice still holds. -/
def OutboxRow.heldBytes (r : OutboxRow) : Int :=
  if r.contentScrubbedAt.isNone then r.listContentBytes else 0

/-- The bytes of content that an output still holds. -/
def AgentOutputRow.heldBytes (r : AgentOutputRow) : Int :=
  r.contentBytes

namespace DesktopStore

variable (s : DesktopStore)

/-- The records that the capacity bounds. -/
def retainedRecords : Int :=
  s.agentEvents.length + s.agentOutputs.length + s.notificationOutbox.length

/-- The bytes of content that the capacity bounds. -/
def retainedBytes : Int :=
  tally AgentOutputRow.heldBytes s.agentOutputs + tally OutboxRow.heldBytes s.notificationOutbox

/-- The counters tell what the tables hold. -/
structure Counted : Prop where
  events : s.retentionCounters.eventCount = s.agentEvents.length
  outputs : s.retentionCounters.outputCount = s.agentOutputs.length
  notices : s.retentionCounters.outboxCount = s.notificationOutbox.length
  bytes : s.retentionCounters.contentBytes = s.retainedBytes

/-- The limits of `check_capacity`. -/
structure WithinCapacity : Prop where
  records : s.retainedRecords ≤ maxRetainedRecords
  bytes : s.retainedBytes ≤ maxRetainedContentBytes

/-- The counters are exact and the limits are kept. -/
structure Balanced : Prop where
  counted : s.Counted
  within : s.WithinCapacity

end DesktopStore

open DesktopStore

variable {s s' : DesktopStore}

/-- A notice holds no negative number of bytes. -/
theorem OutboxRow.heldBytes_nonneg (r : OutboxRow) : 0 ≤ r.heldBytes := by
  unfold OutboxRow.heldBytes
  split <;> omega

theorem AgentOutputRow.heldBytes_nonneg (r : AgentOutputRow) : 0 ≤ r.heldBytes := by
  unfold AgentOutputRow.heldBytes
  omega

namespace DesktopStore.Balanced

/-- A change of the other tables. -/
theorem congr (h : s.Balanced) (hevs : s'.agentEvents = s.agentEvents)
    (houts : s'.agentOutputs = s.agentOutputs)
    (hnots : s'.notificationOutbox = s.notificationOutbox)
    (hcnt : s'.retentionCounters = s.retentionCounters) : s'.Balanced := by
  obtain ⟨⟨he, ho, hn, hb⟩, ⟨hr, hl⟩⟩ := h
  unfold retainedBytes at hb hl
  unfold retainedRecords at hr
  rw [← hevs, ← houts, ← hnots] at hr
  rw [← houts, ← hnots] at hb hl
  rw [← hcnt] at he ho hn hb
  rw [← hevs] at he
  rw [← houts] at ho
  rw [← hnots] at hn
  exact ⟨⟨he, ho, hn, hb⟩, ⟨hr, hl⟩⟩

/-- Tables and counters change by the same amounts, within the limits. -/
theorem amend (h : s.Balanced) {e o n b : Int}
    (hevs : (s'.agentEvents.length : Int) = s.agentEvents.length + e)
    (houts : (s'.agentOutputs.length : Int) = s.agentOutputs.length + o)
    (hnots : (s'.notificationOutbox.length : Int) = s.notificationOutbox.length + n)
    (hbytes : s'.retainedBytes = s.retainedBytes + b) (hcnt : s'.retentionCounters =
      ⟨s.retentionCounters.eventCount + e, s.retentionCounters.outputCount + o,
        s.retentionCounters.outboxCount + n, s.retentionCounters.contentBytes + b⟩)
    (hrec : s.retainedRecords + (e + o + n) ≤ maxRetainedRecords)
    (hlimit : s.retainedBytes + b ≤ maxRetainedContentBytes) : s'.Balanced := by
  have hcounted := h.counted
  refine ⟨⟨?_, ?_, ?_, ?_⟩, ?_, ?_⟩
  · rw [hcnt, hevs, hcounted.events]
  · rw [hcnt, houts, hcounted.outputs]
  · rw [hcnt, hnots, hcounted.notices]
  · rw [hcnt, hbytes, hcounted.bytes]
  · unfold retainedRecords at hrec ⊢
    omega
  · omega

end DesktopStore.Balanced

/-! ## What the capacity admits -/

/-- Numbers whose saturated sum stays under a bound below the largest number. -/
theorem add_le_of_saturatingAdd_le {a b bound : Int} (hbound : bound < i64Max)
    (h : saturatingAdd a b ≤ bound) : a + b ≤ bound := by
  unfold saturatingAdd at h
  omega

/-- One more record with so many bytes keeps the limits. -/
theorem Admits.room {bytes : Nat} (h : Admits s bytes) (hs : s.Balanced) :
    s.retainedRecords + 1 ≤ maxRetainedRecords ∧
      s.retainedBytes + bytes ≤ maxRetainedContentBytes := by
  simp only [Admits, hasCapacity, Bool.and_eq_true, decide_eq_true_eq] at h
  obtain ⟨hrec, hbytes⟩ := h
  rw [hs.counted.events, hs.counted.outputs, hs.counted.notices] at hrec
  rw [hs.counted.bytes] at hbytes
  constructor
  · unfold retainedRecords
    unfold saturatingAdd i64Min i64Max maxRetainedRecords at hrec
    unfold maxRetainedRecords
    omega
  · exact add_le_of_saturatingAdd_le (by decide) hbytes

/-! ## What takes away -/

/-- A trigger that fires for each of the rows: what it takes from the counters. -/
theorem foldl_fire {ρ : Type} {fire : RetentionCounters → ρ → RetentionCounters}
    {e o n b : ρ → Int} (h : ∀ c r, fire c r =
      ⟨c.eventCount - e r, c.outputCount - o r, c.outboxCount - n r, c.contentBytes - b r⟩)
    (rows : List ρ) (c : RetentionCounters) : rows.foldl fire c =
      ⟨c.eventCount - tally e rows, c.outputCount - tally o rows, c.outboxCount - tally n rows,
        c.contentBytes - tally b rows⟩ := by
  induction rows generalizing c with
  | nil => simp
  | cons r rows ih =>
    rw [List.foldl_cons, ih, h]
    simp only [tally_cons, RetentionCounters.mk.injEq]
    omega

/-- Rows leave or are cleared, and the trigger fires for each of them. -/
theorem DesktopStore.Balanced.fired (h : s.Balanced) {ρ : Type} {rows : List ρ}
    {fire : RetentionCounters → ρ → RetentionCounters} {e o n b : ρ → Int}
    (hcnt : s'.retentionCounters = rows.foldl fire s.retentionCounters) (hfire : ∀ c r, fire c r =
      ⟨c.eventCount - e r, c.outputCount - o r, c.outboxCount - n r, c.contentBytes - b r⟩)
    (hnonneg : ∀ r, 0 ≤ e r ∧ 0 ≤ o r ∧ 0 ≤ n r ∧ 0 ≤ b r)
    (hevs : (s'.agentEvents.length : Int) = s.agentEvents.length - tally e rows)
    (houts : (s'.agentOutputs.length : Int) = s.agentOutputs.length - tally o rows)
    (hnots : (s'.notificationOutbox.length : Int) = s.notificationOutbox.length - tally n rows)
    (hbytes : s'.retainedBytes = s.retainedBytes - tally b rows) : s'.Balanced := by
  have hrec := h.within.records
  have hlimit := h.within.bytes
  have he := tally_nonneg (fun r => (hnonneg r).1) rows
  have ho := tally_nonneg (fun r => (hnonneg r).2.1) rows
  have hn := tally_nonneg (fun r => (hnonneg r).2.2.1) rows
  have hb := tally_nonneg (fun r => (hnonneg r).2.2.2) rows
  rw [foldl_fire hfire] at hcnt
  refine h.amend (e := -tally e rows) (o := -tally o rows) (n := -tally n rows)
    (b := -tally b rows) hevs houts hnots hbytes hcnt ?_ ?_
  · omega
  · omega

section

variable {d : DesktopDatabase}

/-- Dropped outputs leave the counters. -/
theorem dropOutputs_balanced (p : AgentOutputRow → Bool) (hs : d.store.Balanced) :
    (d.dropOutputs p).store.Balanced := by
  refine hs.fired (e := fun _ => 0) (o := fun _ => 1) (n := fun _ => 0)
    (b := AgentOutputRow.heldBytes) rfl (fun _ _ => by simp [dropOutput, AgentOutputRow.heldBytes])
    (fun r => by simp [r.heldBytes_nonneg]) ?_ ?_ ?_ ?_
  · simp [DesktopDatabase.dropOutputs]
  · exact length_deleteWhere_tally p _
  · simp [DesktopDatabase.dropOutputs]
  · simp only [retainedBytes, DesktopDatabase.dropOutputs, tally_deleteWhere]
    omega

/-- Scrubbed outputs leave their bytes. -/
theorem scrubOutputs_balanced (p : AgentOutputRow → Bool) (hs : d.store.Balanced) :
    (d.scrubOutputs p).store.Balanced := by
  refine hs.fired (e := fun _ => 0) (o := fun _ => 0) (n := fun _ => 0)
    (b := AgentOutputRow.heldBytes) rfl (fun _ _ => by simp [scrubOutput, AgentOutputRow.heldBytes])
    (fun r => by simp [r.heldBytes_nonneg]) ?_ ?_ ?_ ?_
  · simp [DesktopDatabase.scrubOutputs]
  · simp [DesktopDatabase.scrubOutputs, updateWhere]
  · simp [DesktopDatabase.scrubOutputs]
  have hzero : ∀ r, (DesktopDatabase.clearedOutput r).heldBytes = 0 := fun _ => rfl
  simp only [retainedBytes, DesktopDatabase.scrubOutputs, tally_updateWhere_zero hzero]
  omega

/-- Dropped events leave the counters. -/
theorem dropEvents_balanced (p : AgentEventRow → Bool) (hs : d.store.Balanced) :
    (d.dropEvents p).store.Balanced := by
  refine hs.fired (e := fun _ => 1) (o := fun _ => 0) (n := fun _ => 0) (b := fun _ => 0) rfl
    (fun _ _ => by simp [dropEvent]) (fun _ => by simp) ?_ ?_ ?_ ?_
  · exact length_deleteWhere_tally p _
  · simp [DesktopDatabase.dropEvents]
  · simp [DesktopDatabase.dropEvents]
  · simp [retainedBytes, DesktopDatabase.dropEvents]

/-- Dropped notices leave the counters. -/
theorem dropNotices_balanced (p : OutboxRow → Bool) (hs : d.store.Balanced) :
    (d.dropNotices p).store.Balanced := by
  refine hs.fired (e := fun _ => 0) (o := fun _ => 0) (n := fun _ => 1)
    (b := OutboxRow.heldBytes) rfl (fun _ _ => by simp [dropNotice, OutboxRow.heldBytes])
    (fun r => by simp [r.heldBytes_nonneg]) ?_ ?_ ?_ ?_
  · simp [DesktopDatabase.dropNotices]
  · simp [DesktopDatabase.dropNotices]
  · exact length_deleteWhere_tally p _
  · simp only [retainedBytes, DesktopDatabase.dropNotices, tally_deleteWhere]
    omega

/-- The notices of a deleted run leave with it. -/
theorem dropRuns_balanced (p : AgentRunRecord → Bool) (hs : d.store.Balanced) :
    (d.dropRuns p).store.Balanced :=
  (dropNotices_balanced (DesktopDatabase.namesRunIn p d.store.agentRuns) hs).congr rfl rfl rfl rfl

/-- Scrubbed notices leave their bytes. -/
theorem scrubNotices_balanced (p : OutboxRow → Bool) (json : Text) (now : Timestamp)
    (hs : d.store.Balanced) : (d.scrubNotices p json now).store.Balanced := by
  have hfire : ∀ c (r : OutboxRow), scrubNotice c r =
      ⟨c.eventCount - 0, c.outputCount - 0, c.outboxCount - 0, c.contentBytes - r.heldBytes⟩ := by
    intro c r
    unfold scrubNotice OutboxRow.heldBytes
    split <;> simp
  refine hs.fired (e := fun _ => 0) (o := fun _ => 0) (n := fun _ => 0)
    (b := OutboxRow.heldBytes) rfl hfire (fun r => by simp [r.heldBytes_nonneg]) ?_ ?_ ?_ ?_
  · simp [DesktopDatabase.scrubNotices]
  · simp [DesktopDatabase.scrubNotices]
  · simp [DesktopDatabase.scrubNotices, updateWhere]
  have hzero : ∀ r, (DesktopDatabase.clearedNotice json now r).heldBytes = 0 := fun _ => rfl
  simp only [retainedBytes, DesktopDatabase.scrubNotices, tally_updateWhere_zero hzero]
  omega

/-- Events that keep their number. -/
theorem update_events_balanced {guard : AgentEventRow → Bool}
    {change : AgentEventRow → AgentEventRow}
    (hs : s.Balanced) :
    { s with agentEvents := updateWhere guard change s.agentEvents }.Balanced := by
  refine hs.amend (e := 0) (o := 0) (n := 0) (b := 0) ?_ ?_ ?_ ?_ ?_ ?_ ?_
  · simp [updateWhere]
  · simp
  · simp
  · simp [retainedBytes]
  · simp
  · simpa using hs.within.records
  · simpa using hs.within.bytes

end

/-! ## The statements of the desktop's programs -/

section

variable {engine : DesktopEngine} {tools : Tools}

/-- A recorded event is counted. -/
theorem recordEvent_balanced (row : AgentEventRow) (hadm : Admits s 0) (hs : s.Balanced) :
    (recordEvent engine row s).2.Balanced := by
  rcases hrun : recordEvent engine row s with ⟨error | _, s1⟩
  · rw [(execute_eq_error.mp hrun).2.2]
    exact hs
  obtain ⟨_, rfl⟩ := execute_eq_ok.mp hrun
  obtain ⟨hrec, hbytes⟩ := hadm.room hs
  refine hs.amend (e := 1) (o := 0) (n := 0) (b := 0) ?_ ?_ ?_ ?_ ?_ hrec hbytes
  · simp
  · simp
  · simp
  · simp [retainedBytes]
  · simp

/-- A recorded output is counted with its bytes. -/
theorem recordOutput_balanced (row : AgentOutputRow) (hadm : Admits s row.contentBytes)
    (hs : s.Balanced) : (recordOutput engine row s).2.Balanced := by
  rcases hrun : recordOutput engine row s with ⟨error | _, s1⟩
  · rw [(execute_eq_error.mp hrun).2.2]
    exact hs
  obtain ⟨_, rfl⟩ := execute_eq_ok.mp hrun
  obtain ⟨hrec, hbytes⟩ := hadm.room hs
  refine hs.amend (e := 0) (o := 1) (n := 0) (b := row.contentBytes) ?_ ?_ ?_ ?_ ?_ hrec hbytes
  · simp
  · simp
  · simp
  · simp only [retainedBytes, tally_append_one, AgentOutputRow.heldBytes]
    omega
  · simp

/-- A notice enters with all its content. -/
theorem withNotice_balanced {row : OutboxRow} (hrow : row.contentScrubbedAt = none)
    (hadm : Admits s row.listContentBytes) (hs : s.Balanced) : (s.withNotice row).Balanced := by
  have hheld : row.heldBytes = row.listContentBytes := by simp [OutboxRow.heldBytes, hrow]
  obtain ⟨hrec, hbytes⟩ := hadm.room hs
  refine hs.amend (e := 0) (o := 0) (n := 1) (b := row.listContentBytes) ?_ ?_ ?_ ?_ ?_ hrec hbytes
  · simp [withNotice]
  · simp [withNotice]
  · simp [withNotice]
  · simp only [retainedBytes, withNotice, tally_append_one]
    omega
  · simp [withNotice]

/-- A notice is counted, unless its key is taken. -/
theorem recordNotice_balanced (input : NotificationInsert) (json : Text)
    (hadm : Admits s input.payload.contentBytes ∨
      s.notificationOutbox.any (fun r => r.dedupeKey == input.dedupeKey) = true)
    (hs : s.Balanced) : (recordNotice engine (input.row tools.hashes json) s).2.Balanced := by
  simp only [recordNotice, read_bind_run]
  split
  · exact hs
  rename_i hignores
  -- a key that is taken is passed over, so the capacity was looked at
  have hroom : Admits s input.payload.contentBytes := by
    rcases hadm with hadm | htaken
    · exact hadm
    refine absurd ?_ hignores
    obtain ⟨r, hr, hkey⟩ := List.any_eq_true.mp htaken
    simp only [ignoresNotice, Bool.or_eq_true, List.any_eq_true]
    exact .inr ⟨r, hr, .inl (.inr hkey)⟩
  by_cases hacc : engine.accepts (s.withNotice (input.row tools.hashes json)) = true
  · rw [bind_run_of_ok (execute_run_of_accepts hacc)]
    exact withNotice_balanced rfl hroom hs
  · rw [bind_run, execute_eq_error.mpr ⟨by simpa using hacc, rfl, rfl⟩]
    exact hs

variable {guard : OutboxRow → Bool} {change : OutboxRow → OutboxRow}

/-- Notices that keep the columns the totals read. -/
theorem update_notices_balanced (hheld : ∀ r, guard r = true → (change r).heldBytes = r.heldBytes)
    (hs : s.Balanced) :
    (outboxTable.put s (updateWhere guard change s.notificationOutbox)).Balanced := by
  refine hs.amend (e := 0) (o := 0) (n := 0) (b := 0) ?_ ?_ ?_ ?_ ?_ ?_ ?_
  · simp [outboxTable]
  · simp [outboxTable]
  · simp [outboxTable, updateWhere]
  · simp only [retainedBytes, outboxTable, tally_updateWhere_of hheld]
    omega
  · simp [outboxTable]
  · simpa using hs.within.records
  · simpa using hs.within.bytes

/-- A notice that keeps its bytes keeps the balance. -/
theorem update_outbox_balanced (hheld : ∀ r, (change r).heldBytes = r.heldBytes) :
    Keeps (fun a b => a.Balanced → b.Balanced)
      (update engine outboxTable (fun _ => guard) change : Desk Nat) :=
  update_keeps fun _ _ hs =>
    update_notices_balanced (fun r _ => hheld r) hs

/-- A notice that moves along keeps its bytes. -/
theorem MovedAs.heldBytes {r r' : OutboxRow} (h : MovedAs r r') : r'.heldBytes = r.heldBytes := by
  rw [h]
  rfl

theorem forgetOutputs_balanced :
    Keeps (fun a b => a.Balanced → b.Balanced) (forgetOutputs engine) := by
  refine .execute fun s _ hs => ?_
  refine hs.fired (e := fun _ => 0) (o := fun _ => 1) (n := fun _ => 0)
    (b := AgentOutputRow.heldBytes) rfl (fun _ _ => by simp [AgentOutputRow.heldBytes])
    (fun r => by simp [r.heldBytes_nonneg]) ?_ ?_ ?_ ?_
  · simp
  · simp [tally_one]
  · simp
  · simp only [retainedBytes, tally_nil]
    omega

/-- Every statement of the desktop keeps the balance. -/
theorem balanced_rules : DeskRules engine tools (fun a b => a.Balanced → b.Balanced) where
  toAlong := .invariant _
  streams _ _ _ h := h.congr rfl rfl rfl rfl
  checkpoints _ _ _ h := h.congr rfl rfl rfl rfl
  runs _ _ _ h := h.congr rfl rfl rfl rfl
  attention _ _ _ h := h.congr rfl rfl rfl rfl
  presentation _ _ _ h := h.congr rfl rfl rfl rfl
  moving _ hmoved := update_outbox_balanced fun r => (hmoved r).heldBytes
  observed _ _ :=
    update_keeps fun _ _ => update_events_balanced
  event row _ hadm hs := recordEvent_balanced row hadm hs
  output row _ hadm hs := recordOutput_balanced row hadm hs
  notice input json _ hadm hs := recordNotice_balanced input json hadm hs
  forget := forgetOutputs_balanced
  privacy _ := .execute fun _ _ h => h.congr rfl rfl rfl rfl

end

/-! ## The statements on the whole database -/

/-- The totals of the store are in balance if they were before. -/
def KeepsBalance (d d' : DesktopDatabase) : Prop :=
  d.store.Balanced → d'.store.Balanced

instance : Std.Refl KeepsBalance := ⟨fun _ hd => hd⟩

instance : IsTrans DesktopDatabase KeepsBalance := ⟨fun _ _ _ h h' hd => h' (h hd)⟩

section

variable (engine : DatabaseEngine)

/-- Publications are not counted. -/
theorem publications_balance (guard : DesktopDatabase → PublicationRow → Bool)
    (change : PublicationRow → PublicationRow) : Keeps KeepsBalance
      (update engine DesktopDatabase.publicationTable guard change : Base Nat) :=
  update_keeps_put (fun _ _ _ hs => hs) guard change

/-- Nor are the columns of the remote receipt. -/
theorem remote_balance {guard : OutboxRow → Bool} {change : OutboxRow → OutboxRow}
    (hheld : ∀ r, (change r).heldBytes = r.heldBytes) : Keeps KeepsBalance
      (update engine DesktopDatabase.outboxTable (fun _ => guard) change : Base Nat) :=
  update_keeps fun _ _ hs =>
    update_notices_balanced (fun r _ => hheld r) hs

theorem register_balance (submission : Submission) :
    Keeps KeepsBalance (ResultStore.register engine submission) := by
  refine .allOrNothing (.bind ?_ fun _ => ?_)
  · exact insertUnless_keeps fun _ _ _ hs => hs
  refine .bind .read fun d => ?_
  split
  · exact .reject _
  · exact .ite (.reject _) (.pure _)

theorem completeIfAny_balance (oid : Text) (completion : Option (ResultAction × Text)) :
    Keeps KeepsBalance (ResultStore.completeIfAny engine oid completion) := by
  cases completion with
  | none => exact .pure _
  | some completion =>
    obtain ⟨action, req⟩ := completion
    cases action with
    | resend | revoke => exact .bind (publications_balance engine _ _) fun _ => .pure _

theorem applyInner_balance (oid : Text) (receipt : RelayResultReceipt) (allowed : Bool)
    (completion : Option (ResultAction × Text)) : Keeps KeepsBalance
      (ResultStore.applyInner engine oid receipt allowed completion) := by
  refine .allOrNothing (.bind .read fun d => ?_)
  split
  · exact .reject _
  split
  · exact .reject _
  · exact .pure _
  · exact .bind (completeIfAny_balance engine _ _) fun _ => .pure _
  refine .bind ?_ fun _ => .pure _
  refine .bind (publications_balance engine _ _) fun _ => ?_
  refine .bind (.onlyIf fun _ => ?_) fun _ => ?_
  · exact .bind (publications_balance engine _ _) fun _ => .pure _
  refine .bind (remote_balance engine fun _ => rfl) fun _ => ?_
  refine .bind (.onlyIf fun _ => ?_) fun _ => ?_
  · exact .bind (publications_balance engine _ _) fun _ => .pure _
  exact completeIfAny_balance engine _ _

theorem registerAction_balance (oid : Text) (action : ResultAction) (req : Text) :
    Keeps KeepsBalance (ResultStore.registerAction engine oid action req) := by
  refine .allOrNothing (.bind (publications_balance engine _ _) fun _ => ?_)
  refine .ite (.reject _) ?_
  exact .bind .read fun _ => .pure _

theorem applyRelayRemoteStatus_balance (u : RelayRemoteStatusUpdate) :
    Keeps KeepsBalance (OutboxRepository.applyRelayRemoteStatus engine u) :=
  .ite (.reject _) (.bind (remote_balance engine fun _ => rfl) fun _ => .pure _)

/-- Every statement of a retention pass keeps it. -/
theorem retention_balance : RetentionRules KeepsBalance where
  toAlong := .invariant _
  scrubOutputs p _ := scrubOutputs_balanced p
  scrubNotices p json now _ := scrubNotices_balanced p json now
  scrubEvent _ _ _ _ := update_events_balanced
  dropOutputs p _ := dropOutputs_balanced p
  dropEvents p _ := dropEvents_balanced p
  dropNotices p _ := dropNotices_balanced p
  dropRuns p _ := dropRuns_balanced p

end

/-! ## The desktop at its relay -/

/-- The acceptance of a notice leaves its content. -/
theorem finishAccepted_balanced (engine : DesktopEngine) (id : Text)
    (acceptance : TransportAcceptance) (now : Timestamp) :
    Keeps (fun a b => a.Balanced → b.Balanced)
      (OutboxRepository.finishAccepted engine id acceptance now) := by
  refine .bind (update_outbox_balanced fun r => rfl) fun _ => ?_
  exact .ite (.reject _) (.pure _)

/-- Every program on the database keeps the balance. -/
theorem databaseStep_balanced {tools : Tools} {accepts : TransportAcceptance → Prop}
    {d d' : DesktopDatabase} (h : DatabaseStep tools accepts d d') : KeepsBalance d d' := by
  intro hs
  cases h with
  | desktop engine op desk desk' hstore hnext =>
    rw [← hstore] at hs
    exact balanced_rules.next hnext (fun _ _ _ _ _ _ => finishAccepted_balanced engine _ _ _) hs
  | resume engine prev current replaced now =>
    have hrules : DeskRules engine tools _ := balanced_rules
    exact Keeps.ite (.pure _) (hrules.retryBlockedForRelay now _ _ _) d.store hs
  | register engine submission => exact register_balance engine submission d hs
  | receipt engine oid receipt allowed completion =>
    exact applyInner_balance engine oid receipt allowed completion d hs
  | action engine oid action req => exact registerAction_balance engine oid action req d hs
  | remoteStatus engine u => exact applyRelayRemoteStatus_balance engine u d hs
  | pruneRetained engine now => exact retention_balance.pruneRetained engine now d hs
  | pruneBatch engine now => exact retention_balance.pruneBatch engine tools now d hs

/-- In every state the desktop reaches, each retention counter is the count or
the sum over the rows it stands for, and the limits of `check_capacity` are
kept. -/
theorem retention_counters_exact {tools : Tools} {codec : RelayCodec} {ops : List RelayOp}
    {w : RelayWorld} (h : Run (RelayStep tools codec) RelayWorld.initial ops w) :
    w.store.Counted ∧ w.store.WithinCapacity := by
  have hinitial : RelayWorld.initial.store.Balanced := by
    refine ⟨⟨rfl, rfl, rfl, rfl⟩, ?_, ?_⟩
    · decide
    · decide
  have hbalanced : w.store.Balanced := by
    refine h.invariant (I := fun w => w.store.Balanced) (fun w op w' hstep hs => ?_) hinitial
    exact relayStep_invariant (I := fun d => d.store.Balanced)
      (fun _ _ => databaseStep_balanced) hstep hs
  exact ⟨hbalanced.counted, hbalanced.within⟩

/-- An excerpt of one byte. -/
def excerptPayload : NotificationPayloadV2 :=
  { samplePayload with
    contentMode := .redactedExcerpt, resultRevision := some 1, contentBytes := 1 }

def queueExcerpt (key : String) (now : Timestamp) : RelayOp :=
  .desk (.enqueueControl .test (text key) excerptPayload now)

/-- A run fails and an excerpt is queued.  Then the notices expire, and ten days
later their content is cleared. -/
def retentionCycle : List RelayOp :=
  [.desk sampleStart, .desk (ingestAt "b" 10 (.runFailed .authoritative)), queueExcerpt "k" 20,
    .desk (.expireDue 172800000), .pruneBatch 864000000]

/-- Another excerpt is queued.  After a month the run is deleted and its two
notices with it, and then the expired excerpt. -/
def nextCycle : List RelayOp :=
  [queueExcerpt "l" 864000000, .pruneBatch 2851200000, .pruneRetained 2851200000]

/-- Two passes: a scrub, then a cascade and a deletion. -/
theorem queued_notice_counted :
    ∃ w w', relayRun RelayWorld.initial retentionCycle = some w ∧
      w.store.retentionCounters = ⟨2, 0, 3, 0⟩ ∧ w.store.Counted ∧ w.store.WithinCapacity ∧
      relayRun w nextCycle = some w' ∧ w'.store.retentionCounters = ⟨0, 0, 1, 1⟩ ∧
      w'.store.Counted ∧ w'.store.WithinCapacity := by
  have hruns : (relayRun RelayWorld.initial retentionCycle).any (fun w =>
      w.store.retentionCounters == ⟨2, 0, 3, 0⟩ && (relayRun w nextCycle).any fun w' =>
        w'.store.retentionCounters == ⟨0, 0, 1, 1⟩) = true := by
    decide +kernel
  obtain ⟨w, hw, h⟩ := (Option.any_eq_true ..).mp hruns
  rw [Bool.and_eq_true, beq_iff_eq] at h
  obtain ⟨w', hw', h'⟩ := (Option.any_eq_true ..).mp h.2
  have hcounted := retention_counters_exact (run_of_relayRun hw)
  have hcounted' := retention_counters_exact ((run_of_relayRun hw).append (run_of_relayRun hw'))
  exact ⟨w, w', hw, h.1, hcounted.1, hcounted.2, hw', beq_iff_eq.mp h', hcounted'⟩

end PromptDock.Desktop
