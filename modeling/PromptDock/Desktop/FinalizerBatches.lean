import PromptDock.BatchQueues
import PromptDock.Desktop.DesktopRuns
import PromptDock.Desktop.SchemaKept

/-!
# Batches of the finalizer

`finalize_batch` completes the first hundred due runs in one transaction.  A run
whose completion cannot be built or stored fails the transaction, and the next
batch begins with the same runs.

`completable` says of a store which completions can be made, and `verdicts` asks
this of each due run in its turn, with the runs before it completed where they
can be.  A run gets its completion exactly if its batch of a hundred and those
before it hold no run that cannot.
-/

namespace PromptDock.Desktop

open RowTable RunFinalizer StoreAction.Action DesktopStore List Bool Function

section

variable (tools : Tools) (policy : AgentNotificationPolicy) (quota : Option CodexUsageSnapshot)
  (now : Timestamp)

/-! ## One completion -/

/-- The payload of the notice of a completion. -/
def completionPayload (run : AgentRunRecord) (s : DesktopStore) :
    Except AppError NotificationPayloadV2 := do
  let output ← OutputRepository.storedResult tools run.runKey s.desktopPrivacy.excerptFloor s
  NotificationContentBuilder.build tools.hashes tools.platform
    { eventKind := .runCompleted
      run
      output
      startContext := none
      usage := quota
      settings := policy.notifications }

/-- The notice of a completion. -/
def completionNotice (run : AgentRunRecord) (payload : NotificationPayloadV2) :
    NotificationInsert where
  agentRunKey := some run.runKey
  kind := .runCompleted
  dedupeKey := text "run_completed:" ++ run.runKey ++ text ":settle:" ++
    decimal run.settleGeneration
  payload := payload
  contentPolicyHash := some (runNotificationPolicyFingerprint tools.hashes policy.notifications)
  createdAt := now
  notBefore := now
  expiresAt := none

/-- The notice of a completion can be built and stored, where one is wanted. -/
def announceable (run : AgentRunRecord) (s : DesktopStore) : Bool :=
  !(policy.notifications.enabled && policy.notifications.notifyEnded) ||
    match completionPayload tools policy quota run s with
    | .ok payload => (completionNotice tools policy now run payload).admitted tools s
    | .error _ => false

/-- The completion of a run can be made: its record passes the check of the
table, its activity can still be counted, and its notice can be stored. -/
def completable (run : AgentRunRecord) (s : DesktopStore) : Bool :=
  run.check &&
    (s.runPresentation.all fun r => r.runKey != run.runKey || r.activityRevision < maxRevision) &&
    announceable tools policy quota now run s

variable {tools policy quota now} {s : DesktopStore}

/-- The payload as a function of the store. -/
theorem buildNotificationPayload_run (run : AgentRunRecord) :
    buildNotificationPayload tools policy quota run s =
      lift (completionPayload tools policy quota run s) s := by
  exact lift_bind_run (latestResultForRun_run tools _ _)

variable {run current : AgentRunRecord} {rest : List AgentRunRecord}

/-- A completion is announced exactly where it can be. -/
theorem announceCompletion_succeeds (hs : s.check = true)
    (hrun : ∃ r ∈ s.agentRuns, r.runKey = run.runKey) :
    Succeeds (announceCompletion desktopSqlite tools policy quota run now) s ↔
      announceable tools policy quota now run s = true := by
  unfold announceCompletion announceable
  by_cases hwanted : (policy.notifications.enabled && policy.notifications.notifyEnded) = true
  · rw [if_pos hwanted, hwanted, Bool.not_true, Bool.false_or]
    rw [succeeds_lift_of (buildNotificationPayload_run run)]
    have hnot : ∀ payload, Succeeds (OutboxRepository.insertOutbox desktopSqlite tools
          (completionNotice tools policy now run payload)) s ↔
        (completionNotice tools policy now run payload).admitted tools s = true := by
      intro payload
      refine ⟨admitted_of_insertOutbox, fun hadm => ?_⟩
      have hnames : ∀ key, some run.runKey = some key → ∃ r ∈ s.agentRuns, r.runKey = key := by
        rintro key ⟨⟩
        exact hrun
      obtain ⟨b, s', hins, _⟩ := insertOutbox_run hs hnames hadm
      exact ⟨b, s', hins⟩
    cases completionPayload tools policy quota run s with
    | error => simp
    | ok payload =>
      constructor
      · rintro ⟨_, hload, h⟩
        cases hload
        exact (hnot payload).mp h
      · intro h
        exact ⟨payload, rfl, (hnot payload).mpr h⟩
  · rw [if_neg hwanted]
    simp only [not_eq_true] at hwanted
    rw [hwanted]
    exact ⟨fun _ => rfl, fun _ => succeeds_pure _ _⟩

variable {s' : DesktopStore} {due : List AgentRunRecord}

/-- Statements on the notices and on the tables beside them leave it open
whether a completion can be announced. -/
theorem announceable_congr (run : AgentRunRecord) (houts : s'.agentOutputs = s.agentOutputs)
    (hpriv : s'.desktopPrivacy = s.desktopPrivacy)
    (hcnt : s'.retentionCounters = s.retentionCounters)
    (hkeys : ∀ key, (s'.notificationOutbox.any fun r => r.dedupeKey == key) =
      s.notificationOutbox.any fun r => r.dedupeKey == key) :
    announceable tools policy quota now run s' = announceable tools policy quota now run s := by
  have hload : completionPayload tools policy quota run s' =
      completionPayload tools policy quota run s := by
    unfold completionPayload OutputRepository.storedResult OutputRepository.latestOutput
    rw [houts, hpriv]
  have hadm : ∀ payload, (completionNotice tools policy now run payload).admitted tools s' =
      (completionNotice tools policy now run payload).admitted tools s := by
    intro payload
    unfold NotificationInsert.admitted roomFor
    rw [hkeys, hcnt]
  unfold announceable
  rw [hload]
  cases completionPayload tools policy quota run s with
  | error => rfl
  | ok => simp [hadm]

/-- The record of an inferred completion. -/
theorem finalizeDueRun_eq_some (h : finalizeDueRun current now = some run) :
    dueSettling now current = true ∧ run.runKey = current.runKey ∧
      run.agentKind = current.agentKind ∧ run.instanceId = current.instanceId ∧
      run.status = .completed := by
  unfold finalizeDueRun at h
  split at h
  · cases h
  rename_i hdue
  cases h
  exact ⟨by simpa using hdue, rfl, rfl, rfl, rfl⟩

/-- The steps of a completion before its notice. -/
theorem quiet_steps_run (tools : Tools) (policy : AgentNotificationPolicy)
    (quota : Option CodexUsageSnapshot) (hs : s.check = true) {runKey : Text} :
    ∃ s1 n s2, ActivityProjection.cancelUnsentAttention desktopSqlite runKey now s = (.ok (), s1) ∧
      OutboxRepository.cancelPendingRunStartedTx desktopSqlite runKey now "RUN_FINALIZED"
        "Run completed before start notification delivery" s1 = (.ok n, s2) ∧
      s2.check = true ∧ s2.agentRuns = s.agentRuns ∧
      ∀ run, announceable tools policy quota now run s2 =
        announceable tools policy quota now run s := by
  obtain ⟨s1, hatt, hs1, hkept1⟩ := ActivityProjection.cancelUnsentAttention_run hs runKey now
  obtain ⟨n, s2, hstart, hs2, hkept2⟩ := OutboxRepository.cancelPendingTx_run hs1 .runStarted
    runKey now "RUN_FINALIZED" "Run completed before start notification delivery"
  have hkeys : ∀ key, (s2.notificationOutbox.any fun r => r.dedupeKey == key) =
      s.notificationOutbox.any fun r => r.dedupeKey == key :=
    fun key => (hkept2.any_dedupeKey key).trans (hkept1.any_dedupeKey key)
  obtain ⟨_, _, _, rfl⟩ := hkept1
  obtain ⟨_, _, _, rfl⟩ := hkept2
  exact ⟨_, n, _, hatt, hstart, hs2, rfl, fun run => announceable_congr run rfl rfl rfl hkeys⟩

/-- The loop completes a due run exactly if its completion can be made. -/
theorem finalizeRun_succeeds (tools : Tools) (policy : AgentNotificationPolicy)
    (quota : Option CodexUsageSnapshot) (hs : s.check = true) (hsto : current ∈ s.agentRuns)
    (hrun : finalizeDueRun current now = some run) :
    Succeeds (finalizeRun desktopSqlite tools policy quota run now) s ↔
      completable tools policy quota now run s = true := by
  obtain ⟨_, hkey, hkind, hinst, _⟩ := finalizeDueRun_eq_some hrun
  have hupserts := RunRepository.upsert_run hs hsto hkey hkind hinst
  unfold finalizeRun completable
  simp only [and_eq_true, all_eq_true, or_eq_true, bne_iff_ne, decide_eq_true_eq]
  -- the record is stored first, and what follows reads the run under its key
  have haft : run.check = true → ∃ s1,
      RunRepository.upsert desktopSqlite run s = (.ok (), s1) ∧ s1.check = true ∧
      (∃ r ∈ s1.agentRuns, r.runKey = run.runKey) ∧ s1.runPresentation = s.runPresentation ∧
      ∀ rows, announceable tools policy quota now run
        (presentationTable.put s1 rows) = announceable tools policy quota now run s := by
    intro hchk
    obtain ⟨s1, hups, hs1, honly⟩ := hupserts.1 hchk
    have hmem : run ∈ s1.agentRuns := (upsert_stores hs hups run).mpr (.inl rfl)
    obtain ⟨rows, rfl⟩ := honly
    exact ⟨_, hups, hs1, ⟨run, hmem, rfl⟩, rfl,
      fun _ => announceable_congr run rfl rfl rfl fun _ => rfl⟩
  constructor
  · intro h
    obtain ⟨_, s1', hups', _⟩ := succeeds_bind.mp h
    have hchk := hupserts.2 ⟨_, s1', hups'⟩
    obtain ⟨s1, hups, hs1, hsto1, hrows, hannounce⟩ := haft hchk
    rw [succeeds_bind_of_ok hups] at h
    obtain ⟨_, s2', hadv', _⟩ := succeeds_bind.mp h
    have hbound := ActivityProjection.bound_of_advance hs1 hsto1 ⟨_, s2', hadv'⟩
    obtain ⟨s2, hadv, hs2, rows, rfl⟩ := ActivityProjection.advance_run hs1 now hsto1 hbound
    rw [succeeds_bind_of_ok hadv] at h
    obtain ⟨s3, n, s4, hatt, hstart, hs4, hruns4, hsame⟩ := quiet_steps_run tools policy quota hs2
    rw [succeeds_bind_of_ok hatt, succeeds_bind_of_ok hstart,
      announceCompletion_succeeds hs4 (by rw [hruns4]; exact hsto1), hsame, hannounce] at h
    refine ⟨⟨hchk, fun r hr => ?_⟩, h⟩
    rw [← hrows] at hr
    by_cases hrunKey : r.runKey = run.runKey
    · exact .inr (hbound r hr hrunKey)
    · exact .inl hrunKey
  · rintro ⟨⟨hchk, hbound⟩, h⟩
    obtain ⟨s1, hups, hs1, hsto1, hrows, hannounce⟩ := haft hchk
    have hbound1 : ∀ r ∈ s1.runPresentation, r.runKey = run.runKey →
        r.activityRevision < maxRevision := by
      intro r hr hrunKey
      rw [hrows] at hr
      exact (hbound r hr).resolve_left fun hne => hne hrunKey
    obtain ⟨s2, hadv, hs2, rows, rfl⟩ := ActivityProjection.advance_run hs1 now hsto1 hbound1
    obtain ⟨s3, n, s4, hatt, hstart, hs4, hruns4, hsame⟩ := quiet_steps_run tools policy quota hs2
    rw [succeeds_bind_of_ok hups, succeeds_bind_of_ok hadv,
      succeeds_bind_of_ok hatt, succeeds_bind_of_ok hstart,
      announceCompletion_succeeds hs4 (by rw [hruns4]; exact hsto1), hsame, hannounce]
    exact h

/-! ## The runs in their turn -/

variable (tools policy quota now)

/-- The due runs in the order in which batches take them. -/
def dueRuns (s : DesktopStore) : List AgentRunRecord :=
  orderBy
    (fun a b =>
      let deadline (r : AgentRunRecord) := r.settleNotBefore.getD 0
      deadline a < deadline b || (deadline a == deadline b && a.runKey ≤ b.runKey))
    (s.agentRuns.filter (dueSettling now))

/-- The completion of a due run can be made. -/
def canComplete (current : AgentRunRecord) (s : DesktopStore) : Bool :=
  (finalizeDueRun current now).any fun run => completable tools policy quota now run s

/-- A due run is completed in a transaction of its own, or passed over. -/
def completedAlone (s : DesktopStore) (current : AgentRunRecord) : DesktopStore :=
  match finalizeDueRun current now with
  | none => s
  | some run =>
    (allOrNothing
      (finalizeRun desktopSqlite tools policy quota run now) s).2

/-- Which runs can be completed in their turn. -/
def verdicts : List AgentRunRecord → DesktopStore → List Bool
  | [], _ => []
  | current :: rest, s =>
    canComplete tools policy quota now current s ::
      verdicts rest (completedAlone tools policy quota now s current)

/-- So many calls of `finalize_batch`, one after the other. -/
def finalizeCalls (n : Nat) (s : DesktopStore) : DesktopStore :=
  (fun s => (finalizeBatch desktopSqlite tools policy quota now s).2)^[n] s

/-- The run is stored as completed. -/
def Finalized (run : AgentRunRecord) (s : DesktopStore) : Prop :=
  ∃ r ∈ s.agentRuns, r.runKey = run.runKey ∧ r.status = .completed

/-- Calls of `finalize_batch` complete every due run that can be completed in its
turn. -/
def Isolates (s : DesktopStore) : Prop :=
  ∃ n, ∀ run,
    (run, true) ∈ (dueRuns now s).zip (verdicts tools policy quota now (dueRuns now s) s) →
      Finalized run (finalizeCalls tools policy quota now n s)

variable {tools policy quota now}

theorem findDueSettling_eq (limit : Nat) :
    RunRepository.findDueSettling now limit s = (dueRuns now s).take limit := rfl

/-- The runs that are due. -/
theorem mem_dueRuns : run ∈ dueRuns now s ↔ run ∈ s.agentRuns ∧ dueSettling now run = true := by
  rw [dueRuns, mem_orderBy, mem_filter]

/-- One verdict for each run. -/
theorem length_verdicts (due : List AgentRunRecord) (s : DesktopStore) :
    (verdicts tools policy quota now due s).length = due.length := by
  induction due generalizing s with
  | nil => rfl
  | cons current rest ih => simp [verdicts, ih]

/-- The rest is judged where the first runs leave the store. -/
theorem verdicts_append (first rest : List AgentRunRecord) (s : DesktopStore) :
    verdicts tools policy quota now (first ++ rest) s = verdicts tools policy quota now first s ++
        verdicts tools policy quota now rest
          (first.foldl (completedAlone tools policy quota now) s) := by
  induction first generalizing s with
  | nil => rfl
  | cons current first ih => simp [verdicts, ih]

/-- A list of due runs that the store holds. -/
structure Queued (due : List AgentRunRecord) (now : Timestamp) (s : DesktopStore) : Prop where
  check : s.check = true
  stored : ∀ current ∈ due, current ∈ s.agentRuns
  isDue : ∀ current ∈ due, dueSettling now current = true
  keys : KeysUnique AgentRunRecord.runKey due

/-- What the completion of all runs of a list leaves. -/
structure Completed (due : List AgentRunRecord) (now : Timestamp) (s s' : DesktopStore) :
    Prop where
  check : s'.check = true
  privacy : s'.desktopPrivacy = s.desktopPrivacy
  runs : ∀ r, r ∈ s'.agentRuns ↔ (∃ current ∈ due, finalizeDueRun current now = some r) ∨
    (r ∈ s.agentRuns ∧ ∀ current ∈ due, r.runKey ≠ current.runKey)

/-- The rest of a batch is still due. -/
theorem Queued.tail (h : Queued (current :: rest) now s)
    (hrun : finalizeDueRun current now = some run) (heff : FinalizeEffect run s s') :
    Queued rest now s' where
  check := heff.within.check h.check
  stored next hnext := by
    refine (heff.stored next).mpr (.inr ⟨h.stored next (mem_cons_of_mem _ hnext), ?_⟩)
    intro hkey
    have hcur := (finalizeDueRun_eq_some hrun).2.1
    exact (nodup_cons.mp h.keys).1 (mem_map.mpr ⟨next, hnext, hkey.trans hcur⟩)
  isDue next hnext := h.isDue next (mem_cons_of_mem _ hnext)
  keys := (nodup_cons.mp h.keys).2

/-- The turn of one run: it is completed, or nothing happens. -/
theorem turn_cases (tools : Tools) (policy : AgentNotificationPolicy)
    (quota : Option CodexUsageSnapshot) (h : Queued (current :: rest) now s) :
    ∃ run, finalizeDueRun current now = some run ∧
      ((canComplete tools policy quota now current s = true ∧
          ∃ changed s', finalizeRun desktopSqlite tools policy quota run now s = (.ok changed, s') ∧
            completedAlone tools policy quota now s current = s' ∧ FinalizeEffect run s s') ∨
        (canComplete tools policy quota now current s = false ∧
          ¬ Succeeds (finalizeRun desktopSqlite tools policy quota run now) s)) := by
  have hdue := h.isDue current mem_cons_self
  have hsto := h.stored current mem_cons_self
  obtain ⟨run, hrun⟩ : ∃ run, finalizeDueRun current now = some run := by
    simp [finalizeDueRun, hdue]
  have hsucceeds := finalizeRun_succeeds tools policy quota h.check hsto hrun
  refine ⟨run, hrun, ?_⟩
  unfold canComplete completedAlone
  rw [hrun]
  cases hcan : completable tools policy quota now run s with
  | true =>
    obtain ⟨changed, s', hfin⟩ := hsucceeds.mpr hcan
    refine .inl ⟨hcan, changed, s', hfin, ?_, finalizeRun_effect h.check hfin⟩
    exact allOrNothing_state_of_ok hfin
  | false =>
    refine .inr ⟨hcan, fun hok => ?_⟩
    rw [hsucceeds.mp hok] at hcan
    cases hcan

/-- A run that is due is finalized, then the rest. -/
theorem finalizeAll_cons (hrun : finalizeDueRun current now = some run) :
    finalizeAll desktopSqlite tools policy quota now (current :: rest) = (do
      let changed ← finalizeRun desktopSqlite tools policy quota run now
      let (finalized, restChanged) ← finalizeAll desktopSqlite tools policy quota now rest
      pure (finalized + 1, changed || restChanged)) := by
  rw [finalizeAll, hrun]

/-- Where every run can be completed in its turn, the loop completes them all. -/
theorem finalizeAll_run (h : Queued due now s)
    (hall : ∀ v ∈ verdicts tools policy quota now due s, v = true) :
    ∃ counts, finalizeAll desktopSqlite tools policy quota now due s =
        (.ok counts, due.foldl (completedAlone tools policy quota now) s) ∧
      Completed due now s (due.foldl (completedAlone tools policy quota now) s) := by
  induction due generalizing s with
  | nil => exact ⟨(0, false), rfl, h.check, rfl, by simp⟩
  | cons current rest ih =>
    obtain ⟨run, hrun, ⟨_, changed, s1, hfin, halone, heff⟩ | ⟨hcannot, _⟩⟩ :=
      turn_cases tools policy quota h
    · rw [verdicts, halone] at hall
      obtain ⟨counts, hrest, hdone⟩ :=
        ih (h.tail hrun heff) fun v hv => hall v (mem_cons_of_mem _ hv)
      rw [foldl_cons, halone]
      refine ⟨(counts.1 + 1, changed || counts.2), ?_, hdone.check,
        hdone.privacy.trans (heff.within.privacy rfl), fun r => ?_⟩
      · rw [finalizeAll_cons hrun, bind_run_of_ok hfin, bind_run_of_ok hrest]
        rfl
      obtain ⟨hdue, hkey, _, _, hstat⟩ := finalizeDueRun_eq_some hrun
      have hsto := heff.stored r
      rw [hdone.runs r, hsto]
      constructor
      · rintro (⟨next, hnext, hr⟩ | ⟨rfl | ⟨hold, hne⟩, hoths⟩)
        · exact .inl ⟨next, mem_cons_of_mem _ hnext, hr⟩
        · exact .inl ⟨current, mem_cons_self, hrun⟩
        refine .inr ⟨hold, fun next hnext => ?_⟩
        rcases mem_cons.mp hnext with rfl | hnext
        · rw [← hkey]
          exact hne
        · exact hoths next hnext
      · rintro (⟨next, hnext, hr⟩ | ⟨hold, hoths⟩)
        · rcases mem_cons.mp hnext with rfl | hnext
          · rw [hrun] at hr
            cases hr
            refine .inr ⟨.inl rfl, fun other hoth hsame => ?_⟩
            exact (nodup_cons.mp h.keys).1 (mem_map.mpr ⟨other, hoth, hsame.symm.trans hkey⟩)
          · exact .inl ⟨next, hnext, hr⟩
        · refine .inr ⟨.inr ⟨hold, ?_⟩, fun next hnext => ?_⟩
          · rw [hkey]
            exact hoths current mem_cons_self
          · exact hoths next (mem_cons_of_mem _ hnext)
    · exact absurd (hall _ mem_cons_self) (by rw [hcannot]; decide)

/-- One run that cannot be completed in its turn fails the loop. -/
theorem finalizeAll_fails (h : Queued due now s)
    (hfalse : false ∈ verdicts tools policy quota now due s) :
    ¬ Succeeds (finalizeAll desktopSqlite tools policy quota now due) s := by
  induction due generalizing s with
  | nil => cases hfalse
  | cons current rest ih =>
    obtain ⟨run, hrun, hturn⟩ := turn_cases tools policy quota h
    rw [finalizeAll_cons hrun]
    rcases hturn with ⟨hcan, changed, s1, hfin, halone, heff⟩ | ⟨_, hfails⟩
    · rw [succeeds_bind_of_ok hfin]
      intro hrest
      obtain ⟨counts, s2, hloop, _⟩ := succeeds_bind.mp hrest
      rw [verdicts, halone, hcan] at hfalse
      refine ih (h.tail hrun heff) ?_ ⟨counts, s2, hloop⟩
      simpa using hfalse
    · intro hok
      obtain ⟨changed, s1, hfin, _⟩ := succeeds_bind.mp hok
      exact hfails ⟨changed, s1, hfin⟩

/-! ## Batches -/

/-- No run is due twice. -/
theorem dueRuns_nodup (now : Timestamp) (hs : s.check = true) : (dueRuns now s).Nodup := by
  have hrows : s.agentRuns.Nodup := List.Nodup.of_map _ (valid_of_check hs).runKeys
  exact (perm_insertionSort _ _).nodup_iff.mpr (hrows.filter _)

/-- A batch is queued as it is read. -/
theorem queued_batch (hs : s.check = true) (limit : Nat) :
    Queued ((dueRuns now s).take limit) now s where
  check := hs
  stored current hcurrent := (mem_dueRuns.mp (mem_of_mem_take hcurrent)).1
  isDue current hcurrent := (mem_dueRuns.mp (mem_of_mem_take hcurrent)).2
  keys := by
    have hnodup := (dueRuns_nodup now hs).sublist (take_sublist limit _)
    refine List.Nodup.map_on (fun a ha b hb hkey => ?_) hnodup
    exact (valid_of_check hs).runKeys.eq_of_key
      (mem_dueRuns.mp (mem_of_mem_take ha)).1 (mem_dueRuns.mp (mem_of_mem_take hb)).1 hkey

/-- The policy that the finalizer works under is the applied one. -/
def policyApplied (policy : AgentNotificationPolicy) (s : DesktopStore) : Prop :=
  s.desktopPrivacy.policyRevision = policy.notifications.policyRevision

section

variable (hs : s.check = true)

include hs

/-- A batch whose runs all pass completes them. -/
theorem finalizeBatch_run (happ : policyApplied policy s)
    (hall : ∀ v ∈ verdicts tools policy quota now
      ((dueRuns now s).take finalizerBatchSize) s, v = true) :
    ∃ s', (finalizeBatch desktopSqlite tools policy quota now s).2 = s' ∧
      s' = ((dueRuns now s).take finalizerBatchSize).foldl
        (completedAlone tools policy quota now) s ∧
      Completed ((dueRuns now s).take finalizerBatchSize) now s s' := by
  obtain ⟨counts, hloop, hdone⟩ := finalizeAll_run (queued_batch hs finalizerBatchSize) hall
  refine ⟨_, ?_, rfl, hdone⟩
  have hrequire : requireApplied policy.notifications.policyRevision s = (.ok (), s) := by
    rw [requireApplied, read_bind_run, if_neg (fun hne => hne happ)]
    rfl
  refine allOrNothing_state_of_ok (a := ⟨counts.1, RunRepository.nextSettleDeadline
    (((dueRuns now s).take finalizerBatchSize).foldl
      (completedAlone tools policy quota now) s), counts.2⟩) ?_
  rw [read_bind_run, findDueSettling_eq, bind_run_of_ok hrequire, bind_run_of_ok hloop]
  rfl

/-- A batch with one run that fails changes nothing. -/
theorem finalizeBatch_fails (hfails : ¬ policyApplied policy s ∨
      false ∈ verdicts tools policy quota now ((dueRuns now s).take finalizerBatchSize) s) :
    (finalizeBatch desktopSqlite tools policy quota now s).2 = s := by
  refine allOrNothing_of_not_succeeds fun hok => ?_
  rw [succeeds_read_bind, findDueSettling_eq] at hok
  obtain ⟨_, s1, hrequire, hrest⟩ := succeeds_bind.mp hok
  rw [(requireApplied_reads _).eq_of_ok hrequire] at hrest
  rcases hfails with hpend | hfalse
  · have hreject : ¬ Succeeds (requireApplied policy.notifications.policyRevision) s := by
      have hne : s.desktopPrivacy.policyRevision ≠ policy.notifications.policyRevision := hpend
      rw [requireApplied, succeeds_read_bind, if_pos hne]
      exact not_succeeds_reject _ _
    exact hreject ⟨_, s1, hrequire⟩
  · obtain ⟨counts, s2, hloop, _⟩ := succeeds_bind.mp hrest
    exact finalizeAll_fails (queued_batch hs finalizerBatchSize) hfalse ⟨counts, s2, hloop⟩

omit hs in
/-- The finalizer takes the runs in the order of their deadlines, then of their
keys. -/
theorem rowOrder_deadline : RowOrder AgentRunRecord.runKey fun a b =>
    a.settleNotBefore.getD 0 < b.settleNotBefore.getD 0 ||
      (a.settleNotBefore.getD 0 == b.settleNotBefore.getD 0 && a.runKey ≤ b.runKey) := by
  refine RowOrder.of_rank (fun r => toLex (r.settleNotBefore.getD 0, r.runKey)) ?_ ?_
  · intro a b
    simp [Prod.Lex.toLex_le_toLex]
  · intro a b hrank
    exact (Prod.mk.inj hrank).2

/-- A batch that succeeds leaves the due runs behind it. -/
theorem dueRuns_after {limit : Nat} (h : Completed ((dueRuns now s).take limit) now s s') :
    dueRuns now s' = (dueRuns now s).drop limit := by
  have huniq := (valid_of_check hs).runKeys
  have hrows' : s'.agentRuns.Nodup := List.Nodup.of_map _ (valid_of_check h.check).runKeys
  refine dueQueue_eq_drop rowOrder_deadline huniq hrows' fun r => ?_
  -- the runs that are due afterwards are those that the batch did not take
  have hnodup := dueRuns_nodup now hs
  have hsplit : r ∈ dueRuns now s ↔
      r ∈ (dueRuns now s).take limit ∨ r ∈ (dueRuns now s).drop limit := by
    rw [← mem_append, take_append_drop]
  have hapart : r ∈ (dueRuns now s).take limit → r ∉ (dueRuns now s).drop limit := by
    intro htake hdrop
    rw [← take_append_drop limit (dueRuns now s)] at hnodup
    exact (nodup_append.mp hnodup).2.2 r htake r hdrop rfl
  rw [h.runs r]
  constructor
  · rintro ⟨⟨current, _, hrun⟩ | ⟨hold, hoths⟩, hdue⟩
    · have hstat := (finalizeDueRun_eq_some hrun).2.2.2.2
      simp [dueSettling, hstat] at hdue
    rcases hsplit.mp (mem_dueRuns.mpr ⟨hold, hdue⟩) with htake | hdrop
    · exact absurd rfl (hoths r htake)
    · exact hdrop
  · intro hdrop
    obtain ⟨hold, hdue⟩ := mem_dueRuns.mp (hsplit.mpr (.inr hdrop))
    refine ⟨.inr ⟨hold, fun current hcur hkey => ?_⟩, hdue⟩
    have hsame : r = current :=
      huniq.eq_of_key hold (mem_dueRuns.mp (mem_of_mem_take hcur)).1 hkey
    rw [← hsame] at hcur
    exact hapart hcur hdrop

/-! ## Sequences of batches -/

/-- Either way the store passes the schema. -/
theorem finalizeBatch_check :
    (finalizeBatch desktopSqlite tools policy quota now s).2.check = true :=
  finalizeBatch_relates (R := fun s s' => s.check = true → s'.check = true) (fun _ => id)
    (fun _ _ _ h h' hs => h' (h hs)) (fun _ _ _ _ _ heff => heff.within.check) hs hs

/-- A completed run stays completed. -/
theorem Finalized.kept (h : Finalized run s) :
    Finalized run (finalizeBatch desktopSqlite tools policy quota now s).2 := by
  refine finalizeBatch_relates (R := fun s s' => Finalized run s → Finalized run s') (fun _ => id)
    (fun _ _ _ h h' hs => h' (h hs)) ?_ hs h
  rintro done s s' hstat _ heff ⟨r, hr, hkey, hdone⟩
  by_cases hsame : r.runKey = done.runKey
  · exact ⟨done, (heff.stored done).mpr (.inl rfl), hsame.symm.trans hkey, hstat⟩
  · exact ⟨r, (heff.stored r).mpr (.inr ⟨hr, hsame⟩), hkey, hdone⟩

theorem finalizeCalls_check (n : Nat) :
    (finalizeCalls tools policy quota now n s).check = true := by
  induction n with
  | zero => exact hs
  | succ n ih =>
    rw [finalizeCalls, iterate_succ_apply']
    exact finalizeBatch_check ih

/-- A finalized run stays so over further calls. -/
theorem Finalized.calls (h : Finalized run s) (n : Nat) :
    Finalized run (finalizeCalls tools policy quota now n s) := by
  induction n with
  | zero => exact h
  | succ n ih =>
    rw [finalizeCalls, iterate_succ_apply']
    exact ih.kept (finalizeCalls_check hs n)

/-- A due run is not completed yet. -/
theorem not_finalized_of_due (hrun : run ∈ dueRuns now s) : ¬ Finalized run s := by
  rintro ⟨r, hr, hkey, hdone⟩
  obtain ⟨hsto, hdue⟩ := mem_dueRuns.mp hrun
  rw [(valid_of_check hs).runKeys.eq_of_key hr hsto hkey] at hdone
  simp [dueSettling, hdone] at hdue

end

/-- The condition on a list of verdicts: a run that can be completed comes in an
earlier batch than every run that cannot. -/
def Unblocked (applied : Prop) (vs : List Bool) : Prop :=
  ∀ j : Nat, vs[j]? = some true → applied ∧
    ∀ i : Nat, vs[i]? = some false → j / finalizerBatchSize < i / finalizerBatchSize

/-- A first batch without failures does not matter. -/
theorem unblocked_append {applied : Prop} {first rest : List Bool} (happ : applied)
    (hall : ∀ v ∈ first, v = true) (hlen : rest ≠ [] → first.length = finalizerBatchSize) :
    Unblocked applied (first ++ rest) ↔ Unblocked applied rest := by
  have hshift : ∀ k : Nat, rest[k]? = (first ++ rest)[first.length + k]? := by
    intro k
    rw [List.getElem?_append_right (Nat.le_add_right _ _), Nat.add_sub_cancel_left]
  have hnonempty : ∀ (k : Nat) (v : Bool), rest[k]? = some v → first.length = 100 := by
    intro k v hk
    apply hlen
    rintro rfl
    simp at hk
  have hlater : ∀ (i : Nat), (first ++ rest)[i]? = some false →
      ∃ k, i = first.length + k ∧ rest[k]? = some false := by
    intro i hi
    by_cases hlt : i < first.length
    · rw [List.getElem?_append_left hlt] at hi
      cases hall false (mem_of_getElem? hi)
    refine ⟨i - first.length, by omega, ?_⟩
    rw [hshift, Nat.add_sub_cancel' (Nat.le_of_not_lt hlt)]
    exact hi
  constructor
  · intro h j hj
    have hfst := hnonempty j true hj
    refine ⟨happ, fun i hi => ?_⟩
    rw [hshift] at hj hi
    have hlt := (h _ hj).2 _ hi
    simp only [finalizerBatchSize] at hlt ⊢
    omega
  · intro h j hj
    refine ⟨happ, fun i hi => ?_⟩
    obtain ⟨k, rfl, hk⟩ := hlater i hi
    have hfst := hnonempty k false hk
    simp only [finalizerBatchSize]
    by_cases hlt : j < first.length
    · omega
    have hj' : rest[j - first.length]? = some true := by
      rw [hshift, Nat.add_sub_cancel' (Nat.le_of_not_lt hlt)]
      exact hj
    have hrest := (h _ hj').2 k hk
    simp only [finalizerBatchSize] at hrest
    omega

/-- After a batch that succeeds, the calls have the rest of the due runs before
them. -/
theorem isolates_after {s₁ : DesktopStore} (hs : s.check = true)
    (hcall : (finalizeBatch desktopSqlite tools policy quota now s).2 = s₁)
    (hfold : s₁ = ((dueRuns now s).take finalizerBatchSize).foldl
      (completedAlone tools policy quota now) s)
    (hdone : Completed ((dueRuns now s).take finalizerBatchSize) now s s₁) :
    Isolates tools policy quota now s ↔ Isolates tools policy quota now s₁ := by
  have hcalls : ∀ n, finalizeCalls tools policy quota now n s₁ =
      finalizeCalls tools policy quota now (n + 1) s := by
    intro n
    rw [← hcall]
    rfl
  have hzip : (dueRuns now s).zip (verdicts tools policy quota now (dueRuns now s) s) =
      ((dueRuns now s).take finalizerBatchSize).zip
          (verdicts tools policy quota now ((dueRuns now s).take finalizerBatchSize) s) ++
        (dueRuns now s₁).zip (verdicts tools policy quota now (dueRuns now s₁) s₁) := by
    rw [dueRuns_after hs hdone, hfold, ← zip_append (length_verdicts _ _).symm,
      ← verdicts_append, take_append_drop]
  constructor
  · rintro ⟨n, hn⟩
    refine ⟨n, fun run hrun => ?_⟩
    have hfinalized := hn run (hzip ▸ mem_append_right _ hrun)
    rw [hcalls, finalizeCalls, iterate_succ_apply']
    exact hfinalized.kept (finalizeCalls_check hs n)
  rintro ⟨n, hn⟩
  refine ⟨n + 1, fun run hrun => ?_⟩
  rw [← hcalls]
  rw [hzip] at hrun
  rcases mem_append.mp hrun with hfst | hlater
  · -- the batch itself completed the run
    have hmem := (of_mem_zip hfst).1
    have hdue := (mem_dueRuns.mp (mem_of_mem_take hmem)).2
    obtain ⟨record, hrec⟩ : ∃ record, finalizeDueRun run now = some record := by
      simp [finalizeDueRun, hdue]
    obtain ⟨_, hkey, _, _, hstat⟩ := finalizeDueRun_eq_some hrec
    have hfinalized : Finalized run s₁ :=
      ⟨record, (hdone.runs record).mpr (.inl ⟨run, hmem, hrec⟩), hkey, hstat⟩
    exact hfinalized.calls hdone.check n
  · exact hn run hlater

/-- **Which runs the finalizer completes.**  Calls of `finalize_batch` complete
every due run that can be completed in its turn, exactly if the policy is the
applied one and each such run comes in an earlier batch of a hundred than every
due run that cannot be completed. -/
theorem batches_isolate_iff (tools : Tools) (policy : AgentNotificationPolicy)
    (quota : Option CodexUsageSnapshot) (now : Timestamp) {s : DesktopStore} (hs : s.check = true) :
    Isolates tools policy quota now s ↔
      Unblocked (policyApplied policy s) (verdicts tools policy quota now (dueRuns now s) s) := by
  induction hcount : (dueRuns now s).length using Nat.strong_induction_on generalizing s with
  | _ count ih =>
  let batch := (dueRuns now s).take finalizerBatchSize
  have hsplit : verdicts tools policy quota now (dueRuns now s) s =
      verdicts tools policy quota now batch s ++
        verdicts tools policy quota now ((dueRuns now s).drop finalizerBatchSize)
          (batch.foldl (completedAlone tools policy quota now) s) := by
    rw [← verdicts_append, take_append_drop]
  have hbatch : (verdicts tools policy quota now batch s).length ≤ finalizerBatchSize := by
    rw [length_verdicts]
    exact length_take_le _ _
  by_cases hblocked : ¬ policyApplied policy s ∨ false ∈ verdicts tools policy quota now batch s
  · -- nothing is ever completed
    have hfixed : ∀ n, finalizeCalls tools policy quota now n s = s :=
      fun n => iterate_fixed (finalizeBatch_fails hs hblocked) n
    constructor
    · rintro ⟨n, hn⟩ j hj
      have hlt : j < (dueRuns now s).length := by
        rw [← length_verdicts (dueRuns now s) s]
        exact (List.getElem?_eq_some_iff.mp hj).1
      have hzip : ((dueRuns now s)[j], true) ∈
          (dueRuns now s).zip (verdicts tools policy quota now (dueRuns now s) s) :=
        mem_of_getElem? (List.getElem?_zip_eq_some.mpr ⟨List.getElem?_eq_getElem hlt, hj⟩)
      have hfinalized := hn _ hzip
      rw [hfixed] at hfinalized
      exact absurd hfinalized (not_finalized_of_due hs (getElem_mem hlt))
    · intro h
      refine ⟨0, fun run hrun => ?_⟩
      obtain ⟨j, hj⟩ := mem_iff_getElem?.mp hrun
      obtain ⟨happlied, hfalse⟩ := h j (List.getElem?_zip_eq_some.mp hj).2
      rcases hblocked with hpending | hmem
      · exact absurd happlied hpending
      obtain ⟨i, hi, hvalue⟩ := mem_iff_getElem.mp hmem
      have hget : (verdicts tools policy quota now (dueRuns now s) s)[i]? = some false := by
        rw [hsplit, List.getElem?_append_left hi, List.getElem?_eq_getElem hi, hvalue]
      have hlt := hfalse i hget
      simp only [finalizerBatchSize] at hlt hbatch
      omega
  · obtain ⟨happlied, hnone⟩ := not_or.mp hblocked
    have happlied := not_not.mp happlied
    have hall : ∀ v ∈ verdicts tools policy quota now batch s, v = true := by
      intro v hv
      cases v with
      | true => rfl
      | false => exact absurd hv hnone
    obtain ⟨s₁, hcall, hfold, hcompleted⟩ := finalizeBatch_run hs happlied hall
    have hrest := dueRuns_after hs hcompleted
    have happlied1 : policyApplied policy s₁ := by
      rw [policyApplied, hcompleted.privacy]
      exact happlied
    rw [isolates_after hs hcall hfold hcompleted, hsplit]
    rw [unblocked_append happlied hall, ← hrest, ← hfold]
    · by_cases hempty : dueRuns now s = []
      · -- no run is due, before or after
        rw [hempty] at hrest
        rw [hrest]
        exact ⟨fun _ j hj => by simp [verdicts] at hj, fun _ => ⟨0, by simp [hrest]⟩⟩
      have hless : (dueRuns now s₁).length < count := by
        rw [hrest, length_drop, ← hcount]
        have := length_pos_of_ne_nil hempty
        simp only [finalizerBatchSize]
        omega
      rw [ih _ hless hcompleted.check rfl]
      simp [happlied, happlied1]
    · intro hne
      rw [length_verdicts, length_take]
      apply Nat.min_eq_left
      by_contra hshort
      apply hne
      rw [drop_eq_nil_of_le (Nat.le_of_not_le hshort)]
      rfl

end

/-! ## A run that cannot be completed -/

/-- A run that settled and is due at so many milliseconds. -/
def sampleDue (runKey : String) (deadline : Timestamp) : AgentRunRecord where
  runKey := text runKey
  agentKind := text "codex"
  instanceId := text "main"
  conversationKey := none
  parentRunKey := none
  agentId := none
  agentRole := none
  agentLabel := text "c"
  status := .settling
  outcome := .unknown
  completionConfidence := .provisional
  startedAt := some 0
  settlingAt := some 1000
  settleNotBefore := some deadline
  settleGeneration := 1
  completedAt := none
  failedAt := none
  interruptedAt := none
  cancelledAt := none
  lastEventAt := 1000

/-- A result whose text is not the one that was stored. -/
def sampleCorrupt (runKey : String) : AgentOutputRow where
  id := text "o"
  runKey := text runKey
  sourceKey := text "k"
  eventId := text "e"
  outputKind := .assistantFinal
  rawText := text "x"
  contentHash := text "h"
  contentMode := .redactedExcerpt
  contentAvailable := true
  contentBytes := 1
  resultRevision := 1
  isFinal := true
  occurredAt := 500
  observedAt := 500

/-- Two runs are due; the result of the first is corrupt. -/
def sampleBatch : DesktopStore :=
  { initial with
    sourceStreams := [⟨text "k", sampleSource, 0, none⟩],
    agentRuns := [sampleDue "p" 2000, sampleDue "r" 3000], agentOutputs := [sampleCorrupt "p"] }

/-- The first run of the sample fails, and with it the batch. -/
theorem sampleBatch_blocked : (sampleBatch.check &&
      dueRuns 4000 sampleBatch == [sampleDue "p" 2000, sampleDue "r" 3000] &&
      verdicts sampleTools samplePolicy none 4000 (dueRuns 4000 sampleBatch) sampleBatch ==
        [false, true] && (finalizeBatch desktopSqlite sampleTools samplePolicy none 4000
        sampleBatch).2 == sampleBatch) = true := by
  decide +kernel

/-- **A run that cannot be completed keeps the run after it from being completed,
however often the finalizer is called.** -/
theorem corrupt_result_blocks_next_run :
    sampleBatch.check = true ∧ policyApplied samplePolicy sampleBatch ∧
      dueRuns 4000 sampleBatch = [sampleDue "p" 2000, sampleDue "r" 3000] ∧
      verdicts sampleTools samplePolicy none 4000 (dueRuns 4000 sampleBatch) sampleBatch =
        [false, true] ∧
      ∀ n, ¬ Finalized (sampleDue "r" 3000)
        (finalizeCalls sampleTools samplePolicy none 4000 n sampleBatch) := by
  have h := sampleBatch_blocked
  simp only [and_eq_true, beq_iff_eq] at h
  obtain ⟨⟨⟨hs, hdue⟩, hverdicts⟩, hfixed⟩ := h
  refine ⟨hs, rfl, hdue, hverdicts, fun n => ?_⟩
  have hmem : sampleDue "r" 3000 ∈ dueRuns 4000 sampleBatch := by
    exact mem_cons_of_mem _ (mem_singleton_self _)
  rw [finalizeCalls, iterate_fixed hfixed]
  exact not_finalized_of_due hs hmem

/-- Without the corrupt result both runs can be completed. -/
theorem sampleBatch_open : (check { sampleBatch with agentOutputs := [] } &&
      verdicts sampleTools samplePolicy none 4000
        (dueRuns 4000 { sampleBatch with agentOutputs := [] })
        { sampleBatch with agentOutputs := [] } == [true, true]) = true := by
  decide +kernel

/-- Two runs that both pass. -/
theorem batches_isolate_iff_sample :
    ∃ s : DesktopStore, verdicts sampleTools samplePolicy none 4000 (dueRuns 4000 s) s =
      [true, true] ∧ Isolates sampleTools samplePolicy none 4000 s := by
  have h := sampleBatch_open
  simp only [and_eq_true, beq_iff_eq] at h
  obtain ⟨hs, hverdicts⟩ := h
  refine ⟨_, hverdicts, (batches_isolate_iff sampleTools samplePolicy none 4000 hs).mpr ?_⟩
  rw [hverdicts]
  intro j _
  refine ⟨rfl, fun i hi => ?_⟩
  have hmem := mem_of_getElem? hi
  simp at hmem

end PromptDock.Desktop
