import PromptDock.Desktop.ProgramRules

/-!
# Notices that leave with their run

A notice has a retention period of its own, which depends on its status and is
longest for a dead letter (`OutboxRow.retainedLongEnough`).  `pruneBatch` deletes
runs by the age of the run, and the schema deletes the notices of a deleted run
whatever their age.  A batch therefore removes notices before their time, unless
every notice of a run that is old enough to go has served its own period
(`NoticesServed`).
-/

namespace PromptDock.Desktop

open RowTable StoreAction.Action LabelledRun DesktopDatabase Retention List

/-! ## What a batch leaves of a notice -/

/-- A notice without the columns that a scrub writes. -/
def OutboxRow.withoutContent (r : OutboxRow) : OutboxRow :=
  { r with payloadJson := [], listBodyAvailable := false, contentScrubbedAt := none }

variable {r r' : OutboxRow}

/-- What reads none of those columns takes a scrubbed notice for the same. -/
theorem eq_of_withoutContent {α : Type} {f : OutboxRow → α} (hf : ∀ r, f r.withoutContent = f r)
    (h : r'.withoutContent = r.withoutContent) : f r' = f r := by
  rw [← hf r', h, hf]

/-- Content is cleared and outputs and events leave; runs and publications
stay. -/
structure Faded (d d' : DesktopDatabase) : Prop where
  notices : d'.store.notificationOutbox.map OutboxRow.withoutContent =
    d.store.notificationOutbox.map OutboxRow.withoutContent
  runs : d'.store.agentRuns = d.store.agentRuns
  publications : d'.publications = d.publications

instance : Std.Refl Faded := ⟨fun _ => ⟨rfl, rfl, rfl⟩⟩

instance : IsTrans DesktopDatabase Faded := ⟨fun _ _ _ h h' =>
  ⟨h'.notices.trans h.notices, h'.runs.trans h.runs, h'.publications.trans h.publications⟩⟩

/-- What is cleared or dropped here leaves runs and publications. -/
theorem faded : ScrubRules Faded where
  refl := Std.Refl.refl
  trans := IsTrans.trans
  scrubOutputs _ _ := ⟨rfl, rfl, rfl⟩
  scrubNotices _ json now d :=
    ⟨map_updateWhere (f := clearedNotice json now) (fun _ => rfl)
      d.store.notificationOutbox, rfl, rfl⟩
  scrubEvent _ _ _ _ := ⟨rfl, rfl, rfl⟩
  dropOutputs _ _ := ⟨rfl, rfl, rfl⟩
  dropEvents _ _ := ⟨rfl, rfl, rfl⟩

variable {d d' : DesktopDatabase}

namespace Faded

/-- A notice that is there after was there before. -/
theorem of_mem (h : Faded d d') (hr : r' ∈ d'.store.notificationOutbox) :
    ∃ r ∈ d.store.notificationOutbox, r'.withoutContent = r.withoutContent := by
  have hmem : r'.withoutContent ∈ d'.store.notificationOutbox.map OutboxRow.withoutContent :=
    mem_map_of_mem hr
  rw [h.notices] at hmem
  obtain ⟨r, hr, heq⟩ := mem_map.mp hmem
  exact ⟨r, hr, heq.symm⟩

/-- A notice that was there before is there after. -/
theorem mem_of (h : Faded d d') (hr : r ∈ d.store.notificationOutbox) :
    ∃ r' ∈ d'.store.notificationOutbox, r'.withoutContent = r.withoutContent := by
  have hmem : r.withoutContent ∈ d.store.notificationOutbox.map OutboxRow.withoutContent :=
    mem_map_of_mem hr
  rw [← h.notices] at hmem
  exact mem_map.mp hmem

/-- Whether a run is held is the same after it. -/
theorem runHeld_eq (h : Faded d d') (runKey : Text) : d'.runHeld runKey = d.runHeld runKey := by
  have hunfinished : ∀ r, d'.unfinished r = d.unfinished r := by
    simp [unfinished, actionPending, publication, h.publications]
  have hany := congrArg
    (List.any · fun r => r.agentRunKey == some runKey && d.unfinished r) h.notices
  simp only [any_map] at hany
  simp only [runHeld, hunfinished]
  exact hany

end Faded

/-! ## One batch -/

/-- Every notice of a run that is old enough to be deleted, and is not kept by an
unfinished notice, has served its own retention period. -/
def NoticesServed (d : DesktopDatabase) (now : Timestamp) : Prop :=
  ∀ run ∈ d.store.agentRuns, isTerminal run.status = true →
    run.endedAt ≤ saturatingSub now historyRetentionMs → d.runHeld run.runKey = false →
    ∀ r ∈ d.store.notificationOutbox, r.agentRunKey = some run.runKey →
      r.retainedLongEnough now = true

instance (d : DesktopDatabase) (now : Timestamp) : Decidable (NoticesServed d now) := by
  unfold NoticesServed
  infer_instance

variable {tools : Tools} {now : Timestamp}

section

variable {engine : DatabaseEngine}

/-- What a committed batch does: content fades, and then runs leave, with their
notices. -/
structure BatchEffect (now : Timestamp) (d d' : DesktopDatabase) : Prop where
  check : d'.check = true
  leaves : ∃ d1, Faded d d1 ∧ d' = d1.dropRuns (inBatch AgentRunRecord.runKey runBefore
    (runDue d1 (saturatingSub now historyRetentionMs)) retentionBatchSize
    d1.store.agentRuns)

/-- What one batch does to notices and runs. -/
theorem pruneBatch_effect {res : RetentionPruneResult}
    (h : pruneBatch engine tools now d = (.ok res, d')) : BatchEffect now d d' := by
  have hbody := allOrNothing_eq_ok.mp h
  obtain ⟨_, d1, hscrubOutputs, hbody⟩ := bind_eq_ok.mp hbody
  obtain ⟨_, d2, hscrubPayloads, hbody⟩ := bind_eq_ok.mp hbody
  obtain ⟨_, d3, hscrubMetadata, hbody⟩ := bind_eq_ok.mp hbody
  obtain ⟨_, d4, hdropOutputs, hbody⟩ := bind_eq_ok.mp hbody
  obtain ⟨_, d5, hdropEvents, hbody⟩ := bind_eq_ok.mp hbody
  obtain ⟨_, d6, hdropRuns, hend⟩ := bind_eq_ok.mp hbody
  obtain rfl : d6 = d' := (Prod.mk.inj hend).2
  have h1 : Faded d d1 := (ScrubRules.onBatch engine faded.scrubOutputs).of_run hscrubOutputs
  have h2 : Faded d1 d2 := (faded.scrubOutboxPayloads engine tools _ _).of_run hscrubPayloads
  have h3 : Faded d2 d3 := (faded.scrubEventMetadata engine tools _ _).of_run hscrubMetadata
  have h4 : Faded d3 d4 := (ScrubRules.onBatch engine faded.dropOutputs).of_run hdropOutputs
  have h5 : Faded d4 d5 := (ScrubRules.onBatch engine faded.dropEvents).of_run hdropEvents
  have hfaded : Faded d d5 :=
    faded.trans _ _ _ h1 (faded.trans _ _ _ h2 (faded.trans _ _ _ h3 (faded.trans _ _ _ h4 h5)))
  simp only [onBatch, read_bind_run] at hdropRuns
  obtain ⟨_, d7, hexecute, hcount⟩ := bind_eq_ok.mp hdropRuns
  obtain rfl : d7 = d6 := (Prod.mk.inj hcount).2
  obtain ⟨hacc, hdrop⟩ := execute_eq_ok.mp hexecute
  rw [hdrop]
  exact ⟨engine.sound _ hacc, d5, hfaded, rfl⟩

/-- A notice that a batch removes had served its period, where every notice of a
run due for deletion has. -/
theorem BatchEffect.removed_served (h : BatchEffect now d d') (hd : d.check = true)
    (hserved : NoticesServed d now) (hr : r ∈ d.store.notificationOutbox)
    (hremoved : ∀ r' ∈ d'.store.notificationOutbox, r'.id ≠ r.id) :
    r.retainedLongEnough now = true := by
  obtain ⟨d1, hfaded, rfl⟩ := h.leaves
  obtain ⟨r1, hr1, hsame⟩ := hfaded.mem_of hr
  have hid : r1.id = r.id := eq_of_withoutContent (f := OutboxRow.id) (fun _ => rfl) hsame
  have hkey : r1.agentRunKey = r.agentRunKey :=
    eq_of_withoutContent (f := OutboxRow.agentRunKey) (fun _ => rfl) hsame
  have hnames : namesRunIn (inBatch AgentRunRecord.runKey runBefore
      (runDue d1 (saturatingSub now historyRetentionMs)) retentionBatchSize
      d1.store.agentRuns) d1.store.agentRuns r1 = true := by
    by_contra hkept
    refine hremoved r1 (mem_deleteWhere.mpr ⟨hr1, ?_⟩) hid
    simpa using hkept
  simp only [namesRunIn, Option.any_eq_true, any_eq_true, Bool.and_eq_true, beq_iff_eq] at hnames
  obtain ⟨runKey, hrunKey, run, hrun, hbatch, rfl⟩ := hnames
  have hruns : KeysUnique AgentRunRecord.runKey d1.store.agentRuns := by
    have hstore : d.store.check = true := (Bool.and_eq_true_iff.mp hd).1
    rw [hfaded.runs]
    exact (DesktopStore.valid_of_check hstore).runKeys
  have hdue := due_of_inBatch hruns hrun hbatch
  simp only [runDue, Bool.and_eq_true, decide_eq_true_eq, Bool.not_eq_true'] at hdue
  obtain ⟨⟨⟨hterm, hended⟩, _⟩, hheld⟩ := hdue
  rw [hfaded.runHeld_eq] at hheld
  rw [hfaded.runs] at hrun
  exact hserved run hrun hterm hended hheld r hr (by rw [← hkey, hrunKey])

/-- A notice that a batch leaves is the one it was, up to its content. -/
theorem BatchEffect.kept_same (h : BatchEffect now d d') (hd : d.check = true)
    (hr : r ∈ d.store.notificationOutbox) (hr' : r' ∈ d'.store.notificationOutbox)
    (hid : r'.id = r.id) : r'.withoutContent = r.withoutContent := by
  obtain ⟨d1, hfaded, rfl⟩ := h.leaves
  have hmem : r' ∈ d1.store.notificationOutbox := (mem_deleteWhere.mp hr').1
  obtain ⟨r0, hr0, hsame⟩ := hfaded.of_mem hmem
  have hids : KeysUnique OutboxRow.id d.store.notificationOutbox :=
    (DesktopStore.valid_of_check (Bool.and_eq_true_iff.mp hd).1).noticeIds
  have hid0 : r0.id = r'.id := (eq_of_withoutContent (f := OutboxRow.id) (fun _ => rfl) hsame).symm
  rw [hsame, hids.eq_of_key hr0 hr (hid0.trans hid)]

/-- A batch that fails changes nothing. -/
theorem pruneBatch_cases (engine : DatabaseEngine) (tools : Tools) (now : Timestamp)
    (d : DesktopDatabase) : (pruneBatch engine tools now d).2 = d ∨
      BatchEffect now d (pruneBatch engine tools now d).2 := by
  refine (allOrNothing_cases _ d).imp_right ?_
  rintro ⟨res, hrun⟩
  exact pruneBatch_effect hrun

end

/-! ## Sequences of batches -/

/-- One `prune_batch` at a time, under some engine. -/
def BatchStep (tools : Tools) (d : DesktopDatabase) (now : Timestamp) (d' : DesktopDatabase) :
    Prop :=
  ∃ engine, (pruneBatch engine tools now d).2 = d'

/-- A batch at whose start every notice of a run due for deletion has served its
own retention period. -/
def ServedBatch (tools : Tools) (d : DesktopDatabase) (now : Timestamp) (d' : DesktopDatabase) :
    Prop :=
  BatchStep tools d now d' ∧ NoticesServed d now

/-- A batch that fails changes nothing. -/
theorem BatchStep.cases (h : BatchStep tools d now d') : d' = d ∨ BatchEffect now d d' := by
  obtain ⟨engine, rfl⟩ := h
  exact pruneBatch_cases engine tools now d

theorem BatchStep.check (h : BatchStep tools d now d') (hd : d.check = true) : d'.check = true := by
  rcases h.cases with rfl | heff
  · exact hd
  · exact heff.check

/-- The rule reads none of the columns that a scrub writes. -/
theorem retainedLongEnough_of_same (h : r'.withoutContent = r.withoutContent) :
    r'.retainedLongEnough now = r.retainedLongEnough now :=
  eq_of_withoutContent (f := OutboxRow.retainedLongEnough now) (fun _ => rfl) h

/-- **In every sequence of batches at whose starts the notices of the runs due
for deletion have served their own retention periods, a notice is removed only
when it has served its own.** -/
theorem notice_removed_only_when_served {times : List Timestamp} (hd : d.check = true)
    (hrun : Run (ServedBatch tools) d times d') {r : OutboxRow}
    (hr : r ∈ d.store.notificationOutbox)
    (hremoved : ∀ r' ∈ d'.store.notificationOutbox, r'.id ≠ r.id) :
    ∃ now ∈ times, r.retainedLongEnough now = true := by
  induction hrun generalizing r with
  | nil => exact absurd rfl (hremoved r hr)
  | @cons d d1 d' now times hstep hrest ih =>
    obtain ⟨hbatch, hserved⟩ := hstep
    by_cases hkept : ∃ r₁ ∈ d1.store.notificationOutbox, r₁.id = r.id
    · obtain ⟨r₁, hr₁, hid⟩ := hkept
      have hremoved1 : ∀ r' ∈ d'.store.notificationOutbox, r'.id ≠ r₁.id := by
        intro r' hr'
        rw [hid]
        exact hremoved r' hr'
      obtain ⟨later, hlater, hlong⟩ := ih (hbatch.check hd) hr₁ hremoved1
      have hsame : r₁.withoutContent = r.withoutContent := by
        rcases hbatch.cases with rfl | heffect
        · have hids := (DesktopStore.valid_of_check (Bool.and_eq_true_iff.mp hd).1).noticeIds
          rw [hids.eq_of_key hr₁ hr hid]
        · exact heffect.kept_same hd hr hr₁ hid
      rw [retainedLongEnough_of_same hsame] at hlong
      exact ⟨later, mem_cons_of_mem now hlater, hlong⟩
    · have hgone : ∀ r₁ ∈ d1.store.notificationOutbox, r₁.id ≠ r.id :=
        fun r₁ hr₁ hid => hkept ⟨r₁, hr₁, hid⟩
      rcases hbatch.cases with rfl | heffect
      · exact absurd rfl (hgone r hr)
      · exact ⟨now, mem_cons_self, heffect.removed_served hd hserved hr hgone⟩

/-! ## A dead letter of an old run -/

def dayMs : Int := 24 * 60 * 60 * 1000

/-- A run that completed at time zero. -/
def completedRun : AgentRunRecord where
  runKey := text "r"
  agentKind := text "codex"
  instanceId := text "main"
  conversationKey := none
  parentRunKey := none
  agentId := none
  agentRole := none
  agentLabel := text "Codex"
  status := .completed
  outcome := .success
  completionConfidence := .authoritative
  startedAt := some 0
  settlingAt := none
  settleNotBefore := none
  settleGeneration := 0
  completedAt := some 0
  failedAt := none
  interruptedAt := none
  cancelledAt := none
  lastEventAt := 0

/-- Its notice, which could not be delivered. -/
def deadLetter : OutboxRow :=
  { NotificationInsert.row relayTools.hashes
      { agentRunKey := some (text "r"), kind := .runCompleted, dedupeKey := text "run_completed:r",
        payload := samplePayload, contentPolicyHash := none, createdAt := 0, notBefore := 0,
        expiresAt := none } [] with
    status := .deadLetter
    attemptCount := 1 }

def deadLetterDatabase : DesktopDatabase where
  store :=
    { DesktopStore.initial with
      agentRuns := [completedRun], notificationOutbox := [deadLetter],
      retentionCounters := ⟨0, 0, 1, deadLetter.listContentBytes⟩ }
  publications := []

/-- What a batch on that database leaves. -/
def deadLetterAfter (now : Timestamp) : DesktopDatabase :=
  (pruneBatch databaseSqlite relayTools now deadLetterDatabase).2

theorem deadLetter_step (now : Timestamp) :
    BatchStep relayTools deadLetterDatabase now (deadLetterAfter now) := by
  exact ⟨databaseSqlite, rfl⟩

/-- The dead letter goes with its run after 31 days already. -/
theorem deadLetter_batches : deadLetterDatabase.check = true ∧
      (deadLetterAfter (31 * dayMs)).store.notificationOutbox = [] ∧
      (deadLetterAfter (91 * dayMs)).store.notificationOutbox = [] ∧
      deadLetter.retainedLongEnough (31 * dayMs) = false ∧
      NoticesServed deadLetterDatabase (91 * dayMs) := by
  decide +kernel

/-- **A dead letter is kept for ninety days, and leaves after thirty-one with its
run.** -/
theorem dead_letter_removed_early :
    ∃ d d' r, d.check = true ∧ Run (BatchStep relayTools) d [31 * dayMs] d' ∧
      r ∈ d.store.notificationOutbox ∧ r.status = .deadLetter ∧
      (∀ r' ∈ d'.store.notificationOutbox, r'.id ≠ r.id) ∧
      r.retainedLongEnough (31 * dayMs) = false := by
  obtain ⟨hcheck, hempty, _, hearly, _⟩ := deadLetter_batches
  refine ⟨deadLetterDatabase, deadLetterAfter (31 * dayMs), deadLetter, hcheck,
    .cons (deadLetter_step _) (.nil _), mem_singleton_self _, rfl, ?_, hearly⟩
  intro r' hr'
  exact absurd hr' not_mem_nil

/-- After ninety-one days it has served its period. -/
theorem dead_letter_removed_when_served :
    Run (ServedBatch relayTools) deadLetterDatabase [91 * dayMs] (deadLetterAfter (91 * dayMs)) ∧
      (deadLetterAfter (91 * dayMs)).store.notificationOutbox = [] ∧
      ∃ now ∈ [91 * dayMs], deadLetter.retainedLongEnough now = true := by
  obtain ⟨hcheck, _, hempty, _, hserved⟩ := deadLetter_batches
  have hrun : Run (ServedBatch relayTools) deadLetterDatabase [91 * dayMs]
      (deadLetterAfter (91 * dayMs)) :=
    .cons ⟨deadLetter_step _, hserved⟩ (.nil _)
  refine ⟨hrun, hempty, notice_removed_only_when_served hcheck hrun (mem_singleton_self _) ?_⟩
  intro r' hr'
  exact absurd hr' not_mem_nil

end PromptDock.Desktop
