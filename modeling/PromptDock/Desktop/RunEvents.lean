import PromptDock.Desktop.IngestionRules

/-!
# What an ingested event does to runs and notices

An ingestion either leaves the runs alone, or it stores one reduced run and
keeps the notices of that run in step.  `RunEventEffect` says what the second
kind does: which notices it adds, when the start notices of the run are all
cancelled, and when its completion notices are.  `finalizeBatch` is a row of
such effects, one for each run that is due.
-/

namespace PromptDock.Desktop

open RowTable TableStatement AgentEventIngestor StoreAction.Action RunRepository OutboxRepository
  AgentEventPayloadV2 Bool

variable {engine : DesktopEngine} {tools : Tools} {s s' : DesktopStore} {α : Type}

theorem lift_eq_ok {res : Except AppError α} {a : α} :
    lift res s = (.ok a, s') ↔ res = .ok a ∧ s' = s := by
  cases res with
  | error => simp [lift]
  | ok => simp [lift, eq_comm]

/-! ## The reducer -/

/-- A completed run is completed by inference or with authority. -/
def SettledConfidence (run : AgentRunRecord) : Prop :=
  run.status = .completed →
    run.completionConfidence = .inferred ∨ run.completionConfidence = .authoritative

/-- Whether an event takes back the inferred completion of a run. -/
def withdraws (run : AgentRunRecord) (payload : AgentEventPayloadV2) : Bool :=
  canReopenInferred run &&
    match payload with
    | .runStarted _ | .runSettling _ | .outputProduced _ => true
    | .runFailed confidence | .runInterrupted confidence | .runCancelled confidence =>
      confidenceRank run.completionConfidence < confidenceRank confidence
    | .runCompleted _ | .promptSubmitted _ | .attentionRequired _ => false

/-- What the reduction of an event says about the notices of its run. -/
structure ReductionFacts (merged : AgentRunRecord) (payload : AgentEventPayloadV2)
    (t : RunTransition) : Prop where
  runKey : t.run.runKey = merged.runKey
  /-- A run leaves `running` by settling or by an end that applies. -/
  left : merged.status = .running → t.run.status ≠ .running →
    payload.kind = .runSettling ∨ (t.terminalApplied = true ∧ t.replacedInferredCompletion = false)
  /-- A run leaves `completed` by settling, by being reopened, or by another end. -/
  withdrawn : SettledConfidence merged → merged.status = .completed → t.run.status ≠ .completed →
    withdraws merged payload = true ∧
      (payload.kind = .runSettling ∨ t.reopenedInferredCompletion = true ∨
        (t.replacedInferredCompletion = true ∧ payload.kind ≠ .runCompleted))
  confidence : SettledConfidence merged → SettledConfidence t.run
  /-- An announced completion is a completion. -/
  announced : payload.kind = .runCompleted → t.terminalApplied = true → t.run.status = .completed

variable {e : AgentEventEnvelopeV2} {t : RunTransition} {runKey : Text} {quiet : Int}

section

variable {run : AgentRunRecord} {payload : AgentEventPayloadV2} {status : RunStatus}
  {confidence : CompletionConfidence}

/-- An end that applies is on the record. -/
theorem applyTerminal_of_applies (e : AgentEventEnvelopeV2) (outcome : AgentOutcome)
    (h : terminalApplies run status confidence = true) :
    (applyTerminal run e status outcome confidence).runKey = run.runKey ∧
      (applyTerminal run e status outcome confidence).status = status ∧
      (applyTerminal run e status outcome confidence).completionConfidence = confidence := by
  simp [applyTerminal, h]

variable {outcome : AgentOutcome}

/-- An end that does not apply changes nothing. -/
theorem applyTerminal_of_not (h : terminalApplies run status confidence = false) :
    applyTerminal run e status outcome confidence = run := by
  simp [applyTerminal, h]

/-- A completion is never replaced by an end of lower or equal confidence. -/
theorem canReopenInferred_of_applies (hrun : SettledConfidence run)
    (hdone : run.status = .completed) (h : terminalApplies run status confidence = true) :
    canReopenInferred run = true := by
  rcases hrun hdone with hinferred | hauthoritative
  · simp [canReopenInferred, hdone, hinferred]
  simp only [terminalApplies, hdone, hauthoritative, isTerminal, confidenceRank] at h
  cases confidence <;> simp at h

/-- What an end says about the notices of its run. -/
theorem terminalTransition_facts (hkind : payload.kind = .runCompleted ↔ status = .completed)
    (hwithdraws : status ≠ .completed → withdraws run payload = (canReopenInferred run &&
        decide (confidenceRank run.completionConfidence < confidenceRank confidence))) :
    ReductionFacts run payload (terminalTransition run e status outcome confidence) := by
  cases happlies : terminalApplies run status confidence with
  | false =>
    have hsame : (terminalTransition run e status outcome confidence).run = run :=
      applyTerminal_of_not happlies
    have hstatus := congrArg AgentRunRecord.status hsame
    have hflag : (terminalTransition run e status outcome confidence).terminalApplied = false :=
      happlies
    exact
      { runKey := by rw [hsame]
        left := fun hrun hleft => absurd (hstatus.trans hrun) hleft
        withdrawn := fun _ hdone hleft => absurd (hstatus.trans hdone) hleft
        confidence := fun h => hsame.symm ▸ h
        announced := fun _ happ => by rw [hflag] at happ; cases happ }
  | true =>
    obtain ⟨hkey, hnew, hconf⟩ := applyTerminal_of_applies e outcome happlies
    have hrepl : (terminalTransition run e status outcome confidence).replacedInferredCompletion =
          canReopenInferred run := by
      simp [terminalTransition, happlies]
    refine
      { runKey := hkey
        left := fun hrun _ => .inr ⟨happlies, ?_⟩
        withdrawn := fun hset hdone hleft => ?_
        confidence := fun _ hdone => ?_
        announced := fun hcompl _ => hnew.trans (hkind.mp hcompl) }
    · rw [hrepl]
      simp [canReopenInferred, hrun]
    · have hreop := canReopenInferred_of_applies hset hdone happlies
      have hoth : status ≠ .completed := fun hsame => hleft (hnew.trans hsame)
      refine ⟨?_, .inr (.inr ⟨hrepl.trans hreop, fun hcompl => ?_⟩)⟩
      · rw [hwithdraws hoth, hreop]
        simp only [terminalApplies, hdone, isTerminal, and_eq_true] at happlies
        simpa using happlies.2
      · exact hoth (hkind.mp hcompl)
    · -- only an authoritative completion applies
      have hstat : status = .completed := hnew.symm.trans hdone
      refine .inr (hconf.trans ?_)
      simp only [terminalApplies, hstat, and_eq_true] at happlies
      simpa using happlies.1

/-- A reopened run is running again. -/
theorem reopened_facts (hkey : t.run.runKey = run.runKey)
    (habsorbed : isAbsorbingTerminal run = true → t.run.status = run.status ∧
      t.run.completionConfidence = run.completionConfidence)
    (hopen : isAbsorbingTerminal run = false → t.run.status = .running)
    (hreopened : t.reopenedInferredCompletion = canReopenInferred run)
    (happ : t.terminalApplied = false)
    (hwithdraws : withdraws run payload = canReopenInferred run) :
    ReductionFacts run payload t := by
  cases habs : isAbsorbingTerminal run with
  | true =>
    obtain ⟨hstat, hconf⟩ := habsorbed habs
    refine
      { runKey := hkey
        left := fun hrun hleft => absurd (hstat.trans hrun) hleft
        withdrawn := fun _ hdone hleft => absurd (hstat.trans hdone) hleft
        confidence := fun hset hdone => ?_
        announced := fun _ h => by rw [happ] at h; cases h }
    rw [hconf]
    exact hset (hstat.symm.trans hdone)
  | false =>
    have hrun := hopen habs
    refine
      { runKey := hkey
        left := fun _ => absurd hrun
        withdrawn := fun _ hdone _ => ?_
        confidence := fun _ hdone => by rw [hrun] at hdone; cases hdone
        announced := fun _ h => by rw [happ] at h; cases h }
    have hreop : canReopenInferred run = true := by
      simpa [isAbsorbingTerminal, isTerminal, hdone] using habs
    exact ⟨hwithdraws.trans hreop, .inr (.inl (hreopened.trans hreop))⟩

/-- And what any event does. -/
theorem reduceMerged_facts (h : reduceMerged run e quiet = .ok t) :
    ReductionFacts run e.payload t := by
  unfold reduceMerged at h
  cases hload : e.payload with
  | promptSubmitted | attentionRequired => simp [hload] at h
  | runStarted | outputProduced =>
    simp only [hload, Except.ok.injEq] at h
    subst h
    apply reopened_facts
    · cases habs : isAbsorbingTerminal run <;>
        simp [applyRunStarted, applyActivity, habs, reopenRunning]
    · intro habs
      simp [applyRunStarted, applyActivity, habs]
    · intro habs
      simp [applyRunStarted, applyActivity, habs, reopenRunning]
    · rfl
    · rfl
    · simp [withdraws]
  | runSettling =>
    simp only [hload, Except.ok.injEq] at h
    subst h
    refine
      { runKey := ?_
        left := fun _ _ => .inl rfl
        withdrawn := fun _ hdone hleft => ⟨?_, .inl rfl⟩
        confidence := fun hset hdone => ?_
        announced := fun hkind _ => by cases hkind }
    · cases habs : isAbsorbingTerminal run <;> simp [applyRunSettling, habs]
    · cases hreop : canReopenInferred run with
      | true => simp [withdraws, hreop]
      | false =>
        have habs : isAbsorbingTerminal run = true := by
          simp [isAbsorbingTerminal, isTerminal, hdone, hreop]
        exact absurd (by simp [applyRunSettling, habs, hdone]) hleft
    · cases habs : isAbsorbingTerminal run with
      | true =>
        simp only [applyRunSettling, habs] at hdone ⊢
        exact hset hdone
      | false => simp [applyRunSettling, habs] at hdone
  | runCompleted | runFailed | runInterrupted | runCancelled =>
    simp only [hload, Except.ok.injEq] at h
    subst h
    exact terminalTransition_facts (by simp [kind]) (by simp [withdraws])

/-- The run that an event finds, as its reduction starts from it. -/
theorem merged_of_find {merged : AgentRunRecord} (hkey : e.correlation.runKey = some runKey)
    (h : mergeRunIdentity (find runKey s) e = .ok merged) : merged.runKey = runKey ∧
      ((find runKey s = none ∧ merged.status = .running) ∨
        ∃ run, find runKey s = some run ∧ merged.status = run.status ∧
          merged.completionConfidence = run.completionConfidence) := by
  obtain ⟨key, hkey', hcases⟩ := mergeRunIdentity_eq_ok.mp h
  obtain rfl : runKey = key := Option.some.inj (hkey.symm.trans hkey')
  rcases hcases with ⟨hnone, rfl⟩ | ⟨run, hfind, _, rfl⟩
  · exact ⟨rfl, .inl ⟨hnone, rfl⟩⟩
  · have hrun : run.runKey = runKey := by simpa using List.find?_some hfind
    exact ⟨hrun, .inr ⟨run, hfind, rfl, rfl⟩⟩

end

/-! ## Storing a run -/

/-- The run is stored in place of the one with its key, and no other changed. -/
def StoresRun (run : AgentRunRecord) (s s' : DesktopStore) : Prop :=
  ∀ r, r ∈ s'.agentRuns ↔ r = run ∨ (r ∈ s.agentRuns ∧ r.runKey ≠ run.runKey)

variable {run : AgentRunRecord} {s1 : DesktopStore}

/-- Later changes that leave the runs alone. -/
theorem StoresRun.congr (h : StoresRun run s s1)
    (hruns : s'.agentRuns = s1.agentRuns) : StoresRun run s s' := by
  intro r
  rw [hruns]
  exact h r

/-- A run is stored under its key. -/
theorem upsert_stores {u : Unit} (hs : s.check = true)
    (h : RunRepository.upsert engine run s = (.ok u, s')) : StoresRun run s s' := by
  simp only [RunRepository.upsert, read_bind_run] at h
  split at h
  · obtain ⟨n, s1, hupd, hone⟩ := bind_eq_ok.mp h
    obtain ⟨_, rfl, rfl⟩ := update_eq_ok.mp hupd
    split at hone
    · cases hone
    rename_i hcount
    obtain rfl : _ = s' := (Prod.mk.inj hone).2
    -- the one row that was touched is the row with the key
    have htouched := (not_not.mp hcount).symm
    obtain ⟨old, hold, hg⟩ := affected_pos.mp (Nat.lt_of_lt_of_eq Nat.one_pos htouched)
    have hkeys := (DesktopStore.valid_of_check hs).runKeys
    have hsame : ∀ r ∈ s.agentRuns, r.runKey = run.runKey → r = old := by
      intro r hr hkey
      refine hkeys.eq_of_key hr hold (hkey.trans ?_)
      simp only [and_eq_true, beq_iff_eq] at hg
      exact hg.1.1.symm
    intro r
    refine mem_updateWhere.trans ⟨?_, ?_⟩
    · rintro ⟨r0, hr0, ⟨_, rfl⟩ | ⟨hno, rfl⟩⟩
      · exact .inl rfl
      refine .inr ⟨hr0, fun hkey => ?_⟩
      rw [hsame _ hr0 hkey, hg] at hno
      cases hno
    · rintro (rfl | ⟨hr, hkey⟩)
      · exact ⟨old, hold, .inl ⟨hg, rfl⟩⟩
      · exact ⟨r, hr, .inr ⟨by simp [hkey], rfl⟩⟩
  · rename_i hnone
    obtain ⟨_, rfl⟩ := insert_eq_ok.mp h
    have hnew : ∀ r ∈ s.agentRuns, r.runKey ≠ run.runKey := by
      intro r hr heq
      exact hnone (List.any_eq_true.mpr ⟨r, hr, by simpa using heq⟩)
    intro r
    refine List.mem_append.trans ⟨?_, ?_⟩
    · rintro (hr | hr)
      · exact .inr ⟨hr, hnew r hr⟩
      · exact .inl (List.mem_singleton.mp hr)
    · rintro (rfl | ⟨hr, _⟩)
      · exact .inr (List.mem_singleton_self _)
      · exact .inl hr

/-- The scope of the reduction of a run. -/
def reducing : Scope := ⟨true, false, false, fun _ => False⟩

/-- What `reduce_and_store` leaves. -/
theorem reduceAndStore_effect
    (hs : s.check = true) (h : reduceAndStore engine tools e quiet s = (.ok t, s')) :
    ∃ runKey merged, e.correlation.runKey = some runKey ∧
      mergeRunIdentity (find runKey s) e = .ok merged ∧
      reduceMerged merged e quiet = .ok t ∧ StoresRun t.run s s' ∧ Within reducing s s' := by
  unfold reduceAndStore at h
  cases hkey : e.correlation.runKey with
  | none =>
    rw [hkey] at h
    cases h
  | some runKey =>
    rw [hkey] at h
    simp only [read_bind_run] at h
    obtain ⟨_, s0, hlift, hstore⟩ := bind_eq_ok.mp h
    obtain ⟨hmapped, hs0⟩ := lift_eq_ok.mp hlift
    rw [hs0] at hstore
    obtain ⟨_, s1, hups, hproj⟩ := bind_eq_ok.mp hstore
    obtain ⟨_, s2, hrec, htail⟩ := bind_eq_ok.mp hproj
    obtain ⟨_, hcanc, rfl⟩ := bind_pure_eq_ok.mp htail
    have hred : reduceRunWithQuiet (find runKey s) e quiet = .ok t := by
      revert hmapped
      cases reduceRunWithQuiet (find runKey s) e quiet with
      | error => intro hmapped; cases hmapped
      | ok => intro hmapped; cases hmapped; rfl
    obtain ⟨merged, hmerge, hmove⟩ := reduceRunWithQuiet_eq_ok.mp hred
    have hrest : Within Scope.aside s1 s' := by
      refine Within.trans _ s1 s2 s' (Acts.within ?_ hrec) (Acts.within ?_ hcanc)
      · exact .of_fits engine fun _ rules => rules.recordRun tools e
      · exact .of_fits engine fun _ rules => .onlyIf (rules.cancelUnsentAttention _ _)
    exact ⟨runKey, merged, rfl, hmerge, hmove, (upsert_stores hs hups).congr (hrest.runs rfl),
      (Acts.within (upsert_acts engine rfl _) hups).trans _ _ _ _ (hrest.mono (Scope.aside_le _))⟩

/-! ## Keeping the notices in step -/

/-- Once no notice of a kind is unsent, none is until one of that kind enters. -/
theorem unsent_none_of_within (scope : Scope) {kind : NotificationEventKind}
    (hnone : ∀ r ∈ s.notificationOutbox, unsentOf kind runKey r = false)
    (h : Within scope s s') (henter : ∀ r, scope.enters r → r.eventKind ≠ kind) :
    ∀ r ∈ s'.notificationOutbox, unsentOf kind runKey r = false := by
  intro r' hr'
  cases hunsent : unsentOf kind runKey r' with
  | false => rfl
  | true =>
    have hlive := live_of_unsentOf hunsent
    rcases h.notices.rows r' hr' with ⟨r, hr, _, hmove⟩ | ⟨_, r0, hr0, hmove⟩
    · rw [hmove.eq_of_live hlive, hnone r hr] at hunsent
      exact hunsent.symm
    have hkind : r'.eventKind = kind := by
      simp only [unsentOf, and_eq_true, beq_iff_eq] at hunsent
      exact hunsent.1.2
    exact absurd (hmove.same.eventKind.symm.trans hkind) (henter r0 hr0)

/-- The notices that an event about a run may add. -/
structure Announces (runKey : Text) (payload : AgentEventPayloadV2) (t : RunTransition)
    (r : OutboxRow) : Prop where
  run : r.agentRunKey = some runKey
  status : r.status = .pending
  started : r.eventKind = .runStarted → t.run.status = .running
  completed : r.eventKind = .runCompleted →
    payload.kind = .runCompleted ∧ t.terminalApplied = true

/-- What an event about a run does once the run is stored. -/
def announcing (runKey : Text) (payload : AgentEventPayloadV2) (t : RunTransition) : Scope :=
  ⟨false, true, false, Announces runKey payload t⟩

/-- The notices that an event about a run withdraws. -/
structure Withdraws (runKey : Text) (payload : AgentEventPayloadV2) (t : RunTransition)
    (s' : DesktopStore) : Prop where
  starts : payload.kind = .runSettling ∨
      (t.terminalApplied = true ∧ t.replacedInferredCompletion = false) →
    ∀ r ∈ s'.notificationOutbox, unsentOf .runStarted runKey r = false
  completions : t.reopenedInferredCompletion = true ∨
      (t.replacedInferredCompletion = true ∧ payload.kind ≠ .runCompleted) →
    ∀ r ∈ s'.notificationOutbox, unsentOf .runCompleted runKey r = false

/-- What the ingestion of an event about a run does. -/
structure RunEventEffect (runKey : Text) (payload : AgentEventPayloadV2) (t : RunTransition)
    (s s' : DesktopStore) : Prop extends Withdraws runKey payload t s' where
  stored : StoresRun t.run s s'
  within : Within { announcing runKey payload t with runs := true } s s'

variable {payload : AgentEventPayloadV2} {policy : AgentNotificationPolicy} {changed : Bool}

section

variable {runKey : Text} {scope : Scope} {kind : NotificationEventKind} {now : Timestamp} {u : Unit}

/-- The three cancellations of an event are one statement each. -/
theorem cancelling_none {code message : String} (h : (do
      let _ ← cancelPendingTx engine kind runKey now code message
      pure () : Desk Unit) s = (.ok u, s')) :
    ∀ r ∈ s'.notificationOutbox, unsentOf kind runKey r = false := by
  obtain ⟨_, hcanc, _⟩ := bind_pure_eq_ok.mp h
  exact cancelPendingTx_none engine hcanc

theorem cancelStart_acts (now : Timestamp) (reason : String) :
    Acts scope (cancelStart engine runKey now reason) :=
  .of_fits engine fun _ rules => rules.cancelStart _ _ _

/-- No unsent start is left. -/
theorem cancelStart_none {reason : String}
    (h : cancelStart engine runKey now reason s = (.ok u, s')) :
    ∀ r ∈ s'.notificationOutbox, unsentOf .runStarted runKey r = false :=
  cancelling_none h

theorem applyReopenSideEffects_acts : Acts scope (applyReopenSideEffects engine e t) :=
  .of_fits engine fun _ rules => rules.applyReopenSideEffects e t

/-- A reopened run has no unsent completion. -/
theorem applyReopenSideEffects_none (hreop : t.reopenedInferredCompletion = true)
    (h : applyReopenSideEffects engine e t s = (.ok u, s')) :
    ∀ r ∈ s'.notificationOutbox, unsentOf .runCompleted t.run.runKey r = false := by
  rw [applyReopenSideEffects, hreop] at h
  exact cancelling_none h

theorem cancelReplacedInferredCompletion_acts :
    Acts scope (cancelReplacedInferredCompletion engine e t) :=
  .of_fits engine fun _ rules => rules.cancelReplacedInferredCompletion e t

/-- Nor has a run with another end. -/
theorem cancelReplacedInferredCompletion_none (hrepl : t.replacedInferredCompletion = true)
    (h : cancelReplacedInferredCompletion engine e t s = (.ok u, s')) :
    ∀ r ∈ s'.notificationOutbox, unsentOf .runCompleted t.run.runKey r = false := by
  rw [cancelReplacedInferredCompletion, hrepl] at h
  exact cancelling_none h

theorem buildNotificationPayload_reads (cfg : NotificationSettings) (run : AgentRunRecord)
    (kind : NotificationEventKind) (startContext : Option RunStartedV2) :
    Reads (buildNotificationPayload tools cfg run kind startContext) := by
  refine .bind ?_ fun _ => .bind (latestCodexUsage_reads tools _) fun _ => .lift _
  unfold noticeOutput
  split
  · exact .pure _
  · exact .bind .read fun _ => latestResultForRun_reads tools _ _

/-- A start notice may enter. -/
theorem projectStart_acts (policy : AgentNotificationPolicy) (run : AgentRunRecord)
    (started : RunStartedV2)
    (henter : ∀ r, entering .runStarted (some run.runKey) r → scope.enters r) :
    Acts scope (projectStart engine tools e policy run started) :=
  .bind (.of_reads (buildNotificationPayload_reads _ _ _ _)) fun _ =>
    insertTx_acts engine tools _ henter

/-- A notice of an end may enter, if the end applied. -/
theorem projectTerminalNotification_acts (policy : AgentNotificationPolicy)
    (kind : NotificationEventKind) (henter : t.terminalApplied = true →
      ∀ r, entering kind (some t.run.runKey) r → scope.enters r) :
    Acts scope (projectTerminalNotification engine tools e policy t kind) := by
  unfold projectTerminalNotification
  cases happ : t.terminalApplied with
  | false => exact .pure _
  | true =>
    refine .bind (cancelStart_acts _ _) fun _ => .ite (.pure _) ?_
    exact .bind (.of_reads (buildNotificationPayload_reads _ _ _ _)) fun _ =>
      insertTx_acts engine tools _ (henter happ)

/-- An end that applied leaves no unsent start. -/
theorem projectTerminalNotification_none
    (hkind : kind ≠ .runStarted) (happ : t.terminalApplied = true)
    (h : projectTerminalNotification engine tools e policy t kind s = (.ok changed, s')) :
    ∀ r ∈ s'.notificationOutbox, unsentOf .runStarted t.run.runKey r = false := by
  rw [projectTerminalNotification, happ] at h
  obtain ⟨_, s1, hcanc, hrest⟩ := bind_eq_ok.mp h
  let ended : Scope := ⟨false, false, false, entering kind (some t.run.runKey)⟩
  refine unsent_none_of_within ended (cancelStart_none hcanc) (Acts.within ?_ hrest) ?_
  · refine .ite (.pure _) (.bind (.of_reads (buildNotificationPayload_reads _ _ _ _)) fun _ => ?_)
    exact insertTx_acts engine tools _ fun _ h => h
  intro r hr
  rw [hr.1]
  exact hkind

/-- The part of an effect that follows the reduction. -/
structure TailEffect (runKey : Text) (payload : AgentEventPayloadV2) (t : RunTransition)
    (s s' : DesktopStore) : Prop extends Withdraws runKey payload t s' where
  within : Within (announcing runKey payload t) s s'

/-- The reduction and what follows it. -/
theorem TailEffect.effect (h : TailEffect runKey payload t s1 s') (hsto : StoresRun t.run s s1)
    (hred : Within reducing s s1) : RunEventEffect runKey payload t s s' where
  stored := hsto.congr (h.within.runs rfl)
  within := by
    refine Within.trans _ s s1 s' (hred.mono ?_) (h.within.mono ?_)
    · exact ⟨nofun, nofun, fun _ => rfl, fun _ h => h.elim⟩
    · exact ⟨fun _ => rfl, nofun, fun _ => rfl, fun _ h => h⟩
  toWithdraws := h.toWithdraws

/-- A sign of life: the completion is withdrawn before anything is announced. -/
theorem reopening_tail {rest : Desk α} {a : α}
    (happ : t.terminalApplied = false) (hrepl : t.replacedInferredCompletion = false)
    (hkind : e.payload.kind ≠ .runSettling) (hdone : e.payload.kind ≠ .runCompleted)
    (hrest : Acts (announcing t.run.runKey e.payload t) rest)
    (h : (do applyReopenSideEffects engine e t; rest) s = (.ok a, s')) :
    TailEffect t.run.runKey e.payload t s s' := by
  obtain ⟨_, s1, hcanc, hend⟩ := bind_eq_ok.mp h
  refine
    { within := (Acts.within applyReopenSideEffects_acts hcanc).trans _ _ _ _ (hrest.within hend),
      starts := ?_, completions := ?_ }
  · rintro (hset | ⟨happly, _⟩)
    · exact absurd hset hkind
    · rw [happ] at happly
      cases happly
  rintro (hreop | ⟨hreplace, _⟩)
  · refine unsent_none_of_within _ (applyReopenSideEffects_none hreop hcanc)
      (hrest.within hend) fun r hr hnot => ?_
    exact hdone (hr.completed hnot).1
  · rw [hrepl] at hreplace
    cases hreplace

/-- Another end: an inferred completion is withdrawn, then the start notices are
cancelled, then the end is announced. -/
theorem ending_tail {rest : Desk α} {a : α} (hreopened : t.reopenedInferredCompletion = false)
    (hkind : e.payload.kind ≠ .runSettling) (hdone : e.payload.kind ≠ .runCompleted)
    (hrest : Acts (announcing t.run.runKey e.payload t) rest)
    (hstart : ∀ s1, t.terminalApplied = true → rest s1 = (.ok a, s') →
      ∀ r ∈ s'.notificationOutbox, unsentOf .runStarted t.run.runKey r = false)
    (h : (do cancelReplacedInferredCompletion engine e t; rest) s = (.ok a, s')) :
    TailEffect t.run.runKey e.payload t s s' := by
  obtain ⟨_, s1, hcanc, hend⟩ := bind_eq_ok.mp h
  refine
    { within := (Acts.within cancelReplacedInferredCompletion_acts hcanc).trans _ _ _ _
        (hrest.within hend)
      starts := ?_
      completions := ?_ }
  · rintro (hset | ⟨happ, _⟩)
    · exact absurd hset hkind
    · exact hstart s1 happ hend
  rintro (hreop | ⟨hrepl, _⟩)
  · rw [hreopened] at hreop
    cases hreop
  refine unsent_none_of_within _ (cancelReplacedInferredCompletion_none hrepl hcanc)
    (hrest.within hend) fun r hr hnot => ?_
  exact hdone (hr.completed hnot).1

end

variable {t : RunTransition} {kind : NotificationEventKind}

/-- The end of a run as a kind of notice. -/
theorem terminal_announces (hstart : kind ≠ .runStarted)
    (hdone : kind = .runCompleted → payload.kind = .runCompleted)
    (happ : t.terminalApplied = true) :
    ∀ r, entering kind (some runKey) r → Announces runKey payload t r := by
  rintro r ⟨hkind, hrun, hstat⟩
  exact
    { run := hrun
      status := hstat
      started := fun h => absurd (hkind.symm.trans h) hstart
      completed := fun h => ⟨hdone (hkind.symm.trans h), happ⟩ }

/-- An end that is announced under its own kind. -/
theorem announced_ending_tail
    {outcome : CommittedOutcome} (hstart : kind ≠ .runStarted) (hoth : kind ≠ .runCompleted)
    (hreop : t.reopenedInferredCompletion = false) (hkind : e.payload.kind ≠ .runSettling)
    (hdone : e.payload.kind ≠ .runCompleted) (h : (do
      cancelReplacedInferredCompletion engine e t
      let changed ← projectTerminalNotification engine tools e policy t kind
      pure (⟨changed, true⟩ : CommittedOutcome)) s = (.ok outcome, s')) :
    TailEffect t.run.runKey e.payload t s s' := by
  refine ending_tail hreop hkind hdone ?_ (fun s1 happ hend => ?_) h
  · refine .bind (projectTerminalNotification_acts _ _ fun happ => ?_) fun _ => .pure _
    exact terminal_announces hstart (fun h => absurd h hoth) happ
  · obtain ⟨_, hproj, _⟩ := bind_pure_eq_ok.mp hend
    exact projectTerminalNotification_none hstart happ hproj

section

variable {eventRowId sourceKey : Text} {policy : AgentNotificationPolicy} {ingestedAt : Timestamp}
  {outcome : CommittedOutcome}

/-- What follows the reduction of an event about a run. -/
theorem projectPayload_effect (hs : s.check = true) (hrun : requiresRunKey e.payload.kind = true)
    (h : projectPayload engine tools eventRowId sourceKey e policy ingestedAt s =
      (.ok outcome, s')) : ∃ runKey merged t, e.correlation.runKey = some runKey ∧
      mergeRunIdentity (find runKey s) e = .ok merged ∧
      reduceMerged merged e policy.notifications.completionQuietMs = .ok t ∧
      RunEventEffect runKey e.payload t s s' := by
  -- every branch reduces the run first
  suffices htail : ∃ t s1, reduceAndStore engine tools e policy.notifications.completionQuietMs s =
        (.ok t, s1) ∧
      (∀ merged, reduceMerged merged e policy.notifications.completionQuietMs = .ok t →
        TailEffect t.run.runKey e.payload t s1 s') by
    obtain ⟨t, s1, hreduce, htail⟩ := htail
    obtain ⟨runKey, merged, hkey, hmerge, hmove, hsto, hin⟩ := reduceAndStore_effect hs hreduce
    have hrunKey : t.run.runKey = runKey :=
      (reduceMerged_facts hmove).runKey.trans (merged_of_find hkey hmerge).1
    have heff := (htail merged hmove).effect hsto hin
    rw [hrunKey] at heff
    exact ⟨runKey, merged, t, hkey, hmerge, hmove, heff⟩
  unfold projectPayload at h
  cases hload : e.payload
  case promptSubmitted | attentionRequired =>
    rw [hload] at hrun
    cases hrun
  all_goals
    simp only [hload] at h
    obtain ⟨t, s1, hreduce, htail⟩ := bind_eq_ok.mp h
    refine ⟨t, s1, hreduce, fun merged hmove => ?_⟩
    simp [reduceMerged, hload] at hmove
  case runStarted =>
    rw [← hload]
    refine reopening_tail (by rw [← hmove]) (by rw [← hmove]) ?_ ?_ ?_ htail
    · simp [hload, kind]
    · simp [hload, kind]
    split
    · rename_i hnotify
      simp only [and_eq_true, beq_iff_eq] at hnotify
      refine .bind (projectStart_acts _ _ _ ?_) fun _ => .pure _
      rintro r ⟨hkind, hrunKey, hstat⟩
      refine ⟨hrunKey, hstat, fun _ => hnotify.2, fun hno => ?_⟩
      rw [hkind] at hno
      cases hno
    · exact .pure _
  case outputProduced =>
    rw [← hload]
    refine reopening_tail (by rw [← hmove]) (by rw [← hmove]) ?_ ?_ ?_ htail
    · simp [hload, kind]
    · simp [hload, kind]
    · refine .bind .read fun s2 => .ite (.bind ?_ fun _ => .pure _) (.pure _)
      exact OutputRepository.append_acts engine tools rfl _ _ _
  case runSettling =>
    obtain ⟨_, hcanc, _⟩ := bind_pure_eq_ok.mp htail
    refine ⟨⟨fun _ => cancelStart_none hcanc, ?_⟩, Acts.within (cancelStart_acts _ _) hcanc⟩
    rw [← hmove]
    rintro (hreop | ⟨hrepl, _⟩)
    · cases hreop
    · cases hrepl
  case runCompleted confidence =>
    have hreop : t.reopenedInferredCompletion = false := by rw [← hmove]; rfl
    have hcompletions : ¬ (t.reopenedInferredCompletion = true ∨
        (t.replacedInferredCompletion = true ∧
          (runCompleted confidence).kind ≠ .runCompleted)) := by
      simp [hreop, kind]
    split at htail
    · rename_i hconf
      obtain rfl : s1 = s' := (Prod.mk.inj htail).2
      refine ⟨⟨?_, fun h => absurd h hcompletions⟩, Within.refl _ _⟩
      simp only [and_eq_true] at hconf
      simp [hconf.1, kind]
    · obtain ⟨_, hproj, _⟩ := bind_pure_eq_ok.mp htail
      refine ⟨⟨?_, fun h => absurd h hcompletions⟩,
        Acts.within (projectTerminalNotification_acts _ _ ?_) hproj⟩
      · rintro (hkind | ⟨happ, _⟩)
        · cases hkind
        · exact projectTerminalNotification_none (by decide) happ hproj
      exact fun happ => terminal_announces (by decide) (fun _ => rfl) happ
  case runFailed | runInterrupted =>
    rw [← hload]
    exact announced_ending_tail (by decide) (by decide) (by rw [← hmove]; rfl)
      (by simp [hload, kind]) (by simp [hload, kind]) htail
  case runCancelled =>
    rw [← hload]
    refine ending_tail (by rw [← hmove]; rfl) ?_ ?_ ?_ (fun s2 happ hend => ?_) htail
    · simp [hload, kind]
    · simp [hload, kind]
    · exact .ite (.bind (cancelStart_acts _ _) fun _ => .pure _) (.pure _)
    rw [if_pos happ] at hend
    obtain ⟨_, hcanc, _⟩ := bind_pure_eq_ok.mp hend
    exact cancelStart_none hcanc

/-- Ingestion that leaves the runs alone adds attention notices at most. -/
def attending : Scope :=
  ⟨false, false, false, fun r => r.eventKind = .attentionRequired ∧ r.status = .pending⟩

/-- Only an attention notice enters. -/
theorem projectAttention_acts (cfg : NotificationSettings) (attention : AttentionRequiredV2) :
    Acts attending (projectAttention engine tools e sourceKey cfg attention ingestedAt) := by
  refine .bind .read fun s0 => .bind (.lift _) fun payload => .bind ?_ fun created => ?_
  · exact insertAttentionTx_acts engine tools _ fun r hr => ⟨hr.1, hr.2.2⟩
  · refine .ite (.bind (.of_fits engine fun _ rules => ?_) fun _ => .pure _) (.pure _)
    exact rules.noticeCreated _ _

/-- Events without a run add attention notices at most. -/
theorem projectPayload_attending (hrun : requiresRunKey e.payload.kind = false) :
    Acts attending (projectPayload engine tools eventRowId sourceKey e policy ingestedAt) := by
  unfold projectPayload
  cases hload : e.payload with
  | promptSubmitted => exact .pure _
  | attentionRequired =>
    refine .bind (aside_attention.insert _) fun _ => ?_
    refine .bind (.of_fits engine fun _ rules => rules.recordAttention _ _ _) fun mayNotify => ?_
    exact .ite (.bind (projectAttention_acts _ _) fun _ => .pure _) (.pure _)
  | runStarted | runSettling | runCompleted | runFailed | runInterrupted | runCancelled
  | outputProduced =>
    rw [hload] at hrun
    cases hrun

end

/-! ## Ingestion -/

/-- A run event between two changes that touch neither runs nor notices. -/
theorem RunEventEffect.around {s2 : DesktopStore} (hpre : Within Scope.aside s s1)
    (h : RunEventEffect runKey payload t s1 s2) (haft : Within Scope.aside s2 s') :
    RunEventEffect runKey payload t s s' where
  stored := by
    have hsto := h.stored.congr (haft.runs rfl)
    unfold StoresRun at hsto ⊢
    rw [hpre.runs rfl] at hsto
    exact hsto
  within := by
    refine Within.trans _ s s2 s' (Within.trans _ s s1 s2 ?_ h.within) ?_
    · exact hpre.mono (Scope.aside_le _)
    · exact haft.mono (Scope.aside_le _)
  starts hstarts := unsent_none_of_within _ (h.starts hstarts) haft fun _ h => h.elim
  completions hcompletions :=
    unsent_none_of_within _ (h.completions hcompletions) haft fun _ h => h.elim

/-- The two kinds of ingestion. -/
inductive IngestEffect (e : AgentEventEnvelopeV2) (quiet : Int) (s s' : DesktopStore) : Prop where
  | attends (h : Within attending s s')
  | reduces (runKey : Text) (merged : AgentRunRecord) (t : RunTransition)
      (key : e.correlation.runKey = some runKey)
      (found : mergeRunIdentity (find runKey s) e = .ok merged)
      (reduced : reduceMerged merged e quiet = .ok t)
      (effect : RunEventEffect runKey e.payload t s s')

theorem find_congr (hruns : s'.agentRuns = s.agentRuns) (runKey : Text) :
    find runKey s' = find runKey s := by
  simp [find, hruns]

variable {policy : AgentNotificationPolicy} {quota : Option CodexUsageSnapshot}
  {e : AgentEventEnvelopeV2} {checkpoint : SourceCheckpointUpdate} {outcome : CommittedOutcome}
  {run : AgentRunRecord} {now : Timestamp}

/-- An ingestion that commits appends the event, projects it unless it was there or
is suppressed, and moves the checkpoint. -/
theorem ingest_parts (h : ingest engine tools e policy checkpoint s = (.ok outcome, s')) :
    ∃ s1 s2, Within Scope.aside s s1 ∧ Within Scope.aside s2 s' ∧
      (s2 = s1 ∨ ∃ eventRowId sourceKey projected,
        projectPayload engine tools eventRowId sourceKey e policy checkpoint.updatedAt s1 =
          (.ok projected, s2)) := by
  obtain ⟨_, s0, hrequire, happendRest⟩ := bind_eq_ok.mp h
  rw [(requireApplied_reads _).eq_of_ok hrequire] at happendRest
  obtain ⟨appended, s1, happ, hprojectRest⟩ := bind_eq_ok.mp happendRest
  obtain ⟨res, s2, hproj, hcheckpointRest⟩ := bind_eq_ok.mp hprojectRest
  obtain ⟨_, hcheckpoint, _⟩ := bind_pure_eq_ok.mp hcheckpointRest
  refine ⟨s1, s2, Acts.within (EventStore.append_acts engine tools e) happ,
    Acts.within (SourceRepository.checkpoint_acts engine tools _ _) hcheckpoint, ?_⟩
  unfold projectAppended at hproj
  cases appended with
  | replay => exact .inl (Prod.mk.inj hproj).2.symm
  | inserted rowId sourceKey =>
    simp only [projectEvent, read_bind_run] at hproj
    split at hproj
    · exact .inl (Prod.mk.inj hproj).2.symm
    · exact .inr ⟨rowId, sourceKey, res, hproj⟩

/-- **What an ingestion does**: it attends, or it reduces one run. -/
theorem ingest_effect (hs : s.check = true)
    (h : ingest engine tools e policy checkpoint s = (.ok outcome, s')) :
    IngestEffect e policy.notifications.completionQuietMs s s' := by
  obtain ⟨s1, s2, hpre, haft, hproj⟩ := ingest_parts h
  have attends (hattends : Within attending s1 s2) :
      IngestEffect e policy.notifications.completionQuietMs s s' := by
    refine .attends (Within.trans _ s s2 s' (Within.trans _ s s1 s2 ?_ hattends) ?_)
    · exact hpre.mono (Scope.aside_le _)
    · exact haft.mono (Scope.aside_le _)
  rcases hproj with rfl | ⟨rowId, sourceKey, projected, hload⟩
  · exact attends (Within.refl _ _)
  cases hrun : requiresRunKey e.payload.kind with
  | false => exact attends (Acts.within (projectPayload_attending hrun) hload)
  | true =>
    obtain ⟨runKey, merged, t, hkey, hmerge, hmove, heff⟩ :=
      projectPayload_effect (hpre.check hs) hrun hload
    rw [find_congr (hpre.runs rfl)] at hmerge
    exact .reduces runKey merged t hkey hmerge hmove (heff.around hpre haft)

/-- A rejected envelope changes nothing; one that is not rejected was valid, and
its ingestion committed. -/
theorem process_outcome (engine : DesktopEngine) (tools : Tools)
    (policy : Except AppError AgentNotificationPolicy) (e : AgentEventEnvelopeV2)
    (checkpoint : SourceCheckpointUpdate) (s : DesktopStore) :
    (∃ error, process engine tools policy e checkpoint s = (.error error, s)) ∨
      ∃ cfg outcome s', e.validate tools.hashes = .ok () ∧ policy = .ok cfg ∧
        ingest engine tools e cfg checkpoint s = (.ok outcome, s') ∧
        process engine tools policy e checkpoint s = (.ok outcome, s') := by
  unfold process
  cases hvalid : e.validate tools.hashes with
  | error => exact .inl ⟨_, rfl⟩
  | ok =>
    split
    · exact .inl ⟨_, rfl⟩
    cases policy with
    | error => exact .inl ⟨_, rfl⟩
    | ok cfg =>
      simp only [lift, pure_bind_run]
      split
      · exact .inl ⟨_, rfl⟩
      rcases hrun : ingest engine tools e cfg checkpoint s with
        ⟨error | outcome, s'⟩
      · exact .inl ⟨error, allOrNothing_of_error hrun⟩
      · exact .inr ⟨cfg, outcome, s', trivial, rfl, hrun, allOrNothing_of_ok hrun⟩

/-- `process` changes something only by an ingestion that commits. -/
theorem process_cases (engine : DesktopEngine) (tools : Tools)
    (policy : Except AppError AgentNotificationPolicy) (e : AgentEventEnvelopeV2)
    (checkpoint : SourceCheckpointUpdate) (s : DesktopStore) :
    (process engine tools policy e checkpoint s).2 = s ∨
      ∃ cfg outcome, policy = .ok cfg ∧
        ingest engine tools e cfg checkpoint s =
          (.ok outcome, (process engine tools policy e checkpoint s).2) := by
  rcases process_outcome engine tools policy e checkpoint s with
    ⟨error, hrejected⟩ | ⟨cfg, outcome, s', _, hpol, hing, hproc⟩
  · exact .inl (congrArg Prod.snd hrejected)
  · rw [hproc]
    exact .inr ⟨cfg, outcome, hpol, hing⟩

/-! ## Finalization -/

/-- The finalizer announces completions. -/
def finalizing (runKey : Text) : Scope :=
  ⟨true, false, false, fun r =>
    r.eventKind = .runCompleted ∧ r.agentRunKey = some runKey ∧ r.status = .pending⟩

/-- What the finalization of one run does. -/
structure FinalizeEffect (run : AgentRunRecord) (s s' : DesktopStore) : Prop where
  stored : StoresRun run s s'
  within : Within (finalizing run.runKey) s s'

/-- A completion notice of the run may enter. -/
theorem announceCompletion_acts {scope : Scope}
    (henter : ∀ r, entering .runCompleted (some run.runKey) r → scope.enters r) :
    Acts scope (RunFinalizer.announceCompletion engine tools policy quota run now) := by
  refine .ite (.bind (.of_reads ?_) fun _ => ?_) (.pure _)
  · exact .bind .read fun _ => .bind (latestResultForRun_reads tools _ _) fun _ => .lift _
  · exact insertTx_acts engine tools _ henter

/-- What the finalization of one run leaves. -/
theorem finalizeRun_effect (hs : s.check = true)
    (h : RunFinalizer.finalizeRun engine tools policy quota run now s = (.ok changed, s')) :
    FinalizeEffect run s s' := by
  obtain ⟨_, s1, hups, hrest⟩ := bind_eq_ok.mp h
  have hacts : ∀ scope : Scope, (∀ r, entering .runCompleted (some run.runKey) r → scope.enters r) →
      Within scope s1 s' := by
    intro scope henter
    refine Acts.within ?_ hrest
    refine .bind (.of_fits engine fun _ rules => rules.advance _ _) fun _ => ?_
    refine .bind (.of_fits engine fun _ rules => rules.cancelUnsentAttention _ _) fun _ => ?_
    refine .bind (.of_fits engine fun _ rules => rules.cancelPendingTx _ _ _ _ _) fun _ => ?_
    exact announceCompletion_acts henter
  refine ⟨(upsert_stores hs hups).congr ?_, ?_⟩
  · exact (hacts ⟨false, false, false, entering .runCompleted (some run.runKey)⟩
      fun _ h => h).runs rfl
  · refine Within.trans _ s s1 s' (Acts.within (upsert_acts engine rfl _) hups) ?_
    exact hacts _ fun r hr => hr

/-- A relation that every finalization of one run respects holds of a batch. -/
theorem finalizeBatch_relates {R : DesktopStore → DesktopStore → Prop} (hrefl : ∀ s, R s s)
    (htrans : ∀ a b c, R a b → R b c → R a c)
    (hrun : ∀ run s s', run.status = .completed → run.completionConfidence = .inferred →
      FinalizeEffect run s s' → R s s') (hs : s.check = true) :
    R s (RunFinalizer.finalizeBatch engine tools policy quota now s).2 := by
  have hall : ∀ (due : List AgentRunRecord) (s s' : DesktopStore) (counts : Nat × Bool),
      s.check = true →
      RunFinalizer.finalizeAll engine tools policy quota now due s = (.ok counts, s') →
      R s s' := by
    intro due
    induction due with
    | nil =>
      intro s s' counts _ h
      obtain rfl : s = s' := (Prod.mk.inj h).2
      exact hrefl s
    | cons current rest ih =>
      intro s s' counts hs h
      rw [RunFinalizer.finalizeAll] at h
      cases hdue : finalizeDueRun current now with
      | none =>
        rw [hdue] at h
        exact ih s s' counts hs h
      | some run =>
        rw [hdue] at h
        obtain ⟨changed, s1, hfst, hrest⟩ := bind_eq_ok.mp h
        obtain ⟨more, hmore, _⟩ := bind_pure_eq_ok.mp hrest
        have heff := finalizeRun_effect hs hfst
        have hstat : run.status = .completed ∧ run.completionConfidence = .inferred := by
          unfold finalizeDueRun at hdue
          split at hdue
          · cases hdue
          · cases hdue
            exact ⟨rfl, rfl⟩
        exact htrans _ _ _ (hrun run s s1 hstat.1 hstat.2 heff)
          (ih s1 s' more (heff.within.check hs) hmore)
  unfold RunFinalizer.finalizeBatch
  rcases hbody : (_ : Desk FinalizeBatchOutcome) s with ⟨error | outcome, s'⟩
  · rw [allOrNothing_of_error hbody]
    exact hrefl s
  rw [allOrNothing_of_ok hbody]
  simp only [read_bind_run] at hbody
  obtain ⟨_, s1, hrequire, hrest⟩ := bind_eq_ok.mp hbody
  rw [(requireApplied_reads _).eq_of_ok hrequire] at hrest
  obtain ⟨counts, s2, hfin, hend⟩ := bind_eq_ok.mp hrest
  obtain rfl : s2 = s' := (Prod.mk.inj hend).2
  exact hall _ s s2 counts hs hfin

end PromptDock.Desktop
