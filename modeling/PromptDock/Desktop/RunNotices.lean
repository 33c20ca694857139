import PromptDock.Desktop.DesktopRuns

/-!
# Notices of runs that moved on

When a run leaves `running`, its start notice is out of date; when an inferred
completion is withdrawn, so is the notice that announced it.  Ingestion cancels
such notices, but only those that may still be claimed: one that is being sent
comes back with a retry or a recovery.  And a run that settles again after an
inferred completion keeps its notice.

`Cancellable` asks for neither.  Under it the notices have all ended once the
event is ingested (`notices_ended`), and what has ended is never claimed.  A
completion notice that may be claimed then belongs to a completed run
(`Announced`).
-/

namespace PromptDock.Desktop

open LabelledRun RunRepository Option
open OutboxRepository (unsentOf)

/-! ## Events that make a notice out of date -/

/-- The run moved on, so that a notice of this kind about it is out of date. -/
def MovedOn (kind : NotificationEventKind) (old new : AgentRunRecord) : Prop :=
  (kind = .runStarted ∧ old.status = .running ∧ new.status ≠ .running) ∨
    (kind = .runCompleted ∧ canReopenInferred old = true ∧ new.status ≠ .completed)

/-- No notice of this kind about the run is being sent, and where the run settles
again, none that announced its completion may still be claimed. -/
def Cancellable (kind : NotificationEventKind) (runKey : Text) (payload : AgentEventPayloadV2)
    (s : DesktopStore) : Prop :=
  ∀ r ∈ s.notificationOutbox, r.agentRunKey = some runKey → r.eventKind = kind →
    r.status ≠ .sending ∧
      (kind = .runCompleted → payload.kind = .runSettling → r.status.claimable = false)

/-- What is live and not being sent can be claimed. -/
theorem OutboxRowStatus.claimable_of_live {status : OutboxRowStatus} (hlive : status.live = true)
    (hsend : status ≠ .sending) : status.claimable = true := by
  cases status <;> first | rfl | exact absurd rfl hsend | cases hlive

variable {s s' : DesktopStore} {runKey : Text} {kind : NotificationEventKind} {r : OutboxRow}

section

variable {payload : AgentEventPayloadV2} {merged : AgentRunRecord} {t : RunTransition}

/-- A notice that is live after the event was live before it, as it is. -/
theorem RunEventEffect.live_before (h : RunEventEffect runKey payload t s s')
    (hr : r ∈ s'.notificationOutbox) (hlive : r.status.live = true) :
    r ∈ s.notificationOutbox ∨ Announces runKey payload t r := by
  rcases h.within.notices.rows r hr with ⟨r0, hr0, _, hmove⟩ | ⟨_, r0, hr0, hmove⟩
  · rw [hmove.eq_of_live hlive]
    exact .inl hr0
  · rw [hmove.eq_of_live hlive]
    exact .inr hr0

/-- An event that makes a notice out of date ends it, where it can be cancelled. -/
theorem RunEventEffect.ends (h : RunEventEffect runKey payload t s s')
    (hfacts : ReductionFacts merged payload t) (hmoved : MovedOn kind merged t.run)
    (hcancellable : Cancellable kind runKey payload s)
    (hr : r ∈ s'.notificationOutbox) (hrun : r.agentRunKey = some runKey)
    (hkind : r.eventKind = kind) : r.status.live = false := by
  cases hlive : r.status.live with
  | false => rfl
  | true =>
    exfalso
    have hunsent : r.status.claimable = true → unsentOf kind runKey r = true := by
      intro hclaim
      simp [unsentOf, hrun, hkind, hclaim]
    rcases h.live_before hr hlive with hpre | hnew
    · obtain ⟨hsend, hsettles⟩ := hcancellable r hpre hrun hkind
      have hclaim := OutboxRowStatus.claimable_of_live hlive hsend
      rcases hmoved with ⟨rfl, hold, hleft⟩ | ⟨rfl, hold, hleft⟩
      · have hnone := h.starts (hfacts.left hold hleft) r hr
        rw [hunsent hclaim] at hnone
        cases hnone
      simp only [canReopenInferred, Bool.and_eq_true, beq_iff_eq] at hold
      obtain ⟨_, hset | hwithdrawn⟩ := hfacts.withdrawn (fun _ => .inl hold.2) hold.1 hleft
      · rw [hsettles rfl hset] at hclaim
        cases hclaim
      have hnone := h.completions hwithdrawn r hr
      rw [hunsent hclaim] at hnone
      cases hnone
    · -- a notice that the event itself adds is not out of date
      rcases hmoved with ⟨rfl, _, hleft⟩ | ⟨rfl, _, hleft⟩
      · exact hleft (hnew.started hkind)
      · obtain ⟨hcompletes, happ⟩ := hnew.completed hkind
        exact hleft (hfacts.announced hcompletes happ)

end

section

variable {tools : Tools} {w w' : DesktopWorld} {policy : Except AppError AgentNotificationPolicy}
  {e : AgentEventEnvelopeV2} {checkpoint : SourceCheckpointUpdate} {old new : AgentRunRecord}

/-- After an ingestion that moved a run on, the notices it made out of date have
ended. -/
theorem notices_ended (hs : w.store.check = true)
    (hstep : DesktopStep tools w (.process policy e checkpoint) w')
    (hold : find runKey w.store = some old)
    (hnew : find runKey w'.store = some new) (hmoved : MovedOn kind old new)
    (hcancellable : Cancellable kind runKey e.payload w.store) :
    ∀ r ∈ w'.store.notificationOutbox, r.agentRunKey = some runKey → r.eventKind = kind →
      r.status.live = false := by
  -- a run that is as it was did not move on
  have hunmoved : ¬ MovedOn kind old old := by
    rintro (⟨_, hrunning, hleft⟩ | ⟨_, hreop, hleft⟩)
    · exact hleft hrunning
    · simp only [canReopenInferred, Bool.and_eq_true, beq_iff_eq] at hreop
      exact hleft hreop.1
  have hsame : w'.store.agentRuns = w.store.agentRuns → False := by
    intro hruns
    rw [find_congr hruns, hold] at hnew
    cases hnew
    exact hunmoved hmoved
  obtain ⟨eng, hnext⟩ := hstep
  cases hnext
  rcases process_cases eng tools policy e checkpoint w.store with
    hnone | ⟨settings, outcome, _, hing⟩
  · exact (hsame (congrArg DesktopStore.agentRuns hnone)).elim
  cases ingest_effect hs hing with
  | attends h => exact (hsame (h.runs rfl)).elim
  | reduces key merged t hkey hfound hred heff =>
    have hfacts := reduceMerged_facts hred
    obtain ⟨hmergedKey, hmergedCases⟩ := merged_of_find hkey hfound
    have htKey : t.run.runKey = key := hfacts.runKey.trans hmergedKey
    have hchk' := heff.within.check hs
    obtain ⟨hnewMem, hnewKey⟩ := (find_eq_some hchk').mp hnew
    obtain ⟨holdMem, holdKey⟩ := (find_eq_some hs).mp hold
    rcases (heff.stored new).mp hnewMem with rfl | ⟨hkept, _⟩
    · obtain rfl : key = runKey := htKey.symm.trans hnewKey
      rcases hmergedCases with ⟨hnone, _⟩ | ⟨found, hfind, hstat, hconf⟩
      · rw [hold] at hnone
        cases hnone
      obtain rfl : old = found := some.inj (hold.symm.trans hfind)
      have hmovedMerged : MovedOn kind merged t.run := by
        simpa only [MovedOn, canReopenInferred, hstat, hconf] using hmoved
      intro r hr hrun hkind
      exact heff.ends hfacts hmovedMerged hcancellable hr hrun hkind
    · -- the event was about another run
      have hsameRun : new = old :=
        (DesktopStore.valid_of_check hs).runKeys.eq_of_key hkept holdMem
          (hnewKey.trans holdKey.symm)
      rw [hsameRun] at hmoved
      exact (hunmoved hmoved).elim

end

/-- **A notice of a run that moved on is never claimed again**, where none of them
was being sent at the moment of the event, and the run did not settle again with
its completion still unsent.  `w₁` is the desktop just after the event; every
later claim takes another row. -/
theorem outdated_notices_are_never_claimed (tools : Tools) {w w₁ w₂ w₃ : DesktopWorld}
    (hs : w.store.check = true) {policy : Except AppError AgentNotificationPolicy}
    {e : AgentEventEnvelopeV2} {checkpoint : SourceCheckpointUpdate}
    (hingest : DesktopStep tools w (.process policy e checkpoint) w₁) {runKey : Text}
    {old new : AgentRunRecord} (hold : find runKey w.store = some old)
    (hnew : find runKey w₁.store = some new) {kind : NotificationEventKind}
    (hmoved : MovedOn kind old new) (hcancellable : Cancellable kind runKey e.payload w.store)
    {labels : List DesktopOp} (hrun : Run (DesktopStep tools) w₁ labels w₂) {permitted : Bool}
    {now : Timestamp} (hclaim : DesktopStep tools w₂ (.claim permitted now) w₃) {raw : OutboxRow}
    (hraw : w₃.attempts = w₂.attempts ++ [raw]) :
    ∀ r ∈ w₁.store.notificationOutbox, r.agentRunKey = some runKey → r.eventKind = kind →
      raw.id ≠ r.id := by
  intro r hr hrunKey hkind
  have hended := notices_ended hs hingest hold hnew hmoved hcancellable r hr hrunKey hkind
  exact ended_not_claimed hrun (step_moves hingest hs).check hr hended hclaim hraw

/-- A run that settles has moved on from its start. -/
theorem movedOn_of_settling {old new : AgentRunRecord} (hold : old.status = .running)
    (hnew : new.status = .settling) : MovedOn .runStarted old new := by
  refine .inl ⟨rfl, hold, ?_⟩
  rw [hnew]
  decide

/-- The run `r` starts, and its notice is sent while it settles.  The attempt is
told to retry. -/
theorem sampleStartNotice_retried :
    ((sampleRun .initial [sampleStart, .claim true 1000]).any fun w =>
      w.attempts.head?.any fun first =>
        (find (text "r") w.store).any (·.status == .running) &&
        (sampleRun w [sampleSettling "b" 2000]).any fun w1 =>
          (find (text "r") w1.store).any (·.status == .settling) &&
          (sampleRun w1 [.finish first (.ok samplePayload) 1000
              (.retryable ⟨.networkBackoff, "E", "e"⟩) 3000]).any fun w2 =>
            (sampleRun w2 [.claim true 60000]).any fun w3 =>
              w3.attempts.getLast?.any fun raw =>
                w3.attempts == w2.attempts ++ [raw] && w1.store.notificationOutbox.any fun r =>
                  r.agentRunKey == some (text "r") && r.eventKind == .runStarted &&
                    r.id == raw.id) = true := by
  decide +kernel

/-- **A start notice in flight is sent again after its run has settled.** -/
theorem start_notice_in_flight_is_claimed_again :
    ∃ (w w₁ w₂ w₃ : DesktopWorld) (first raw r : OutboxRow) (old new : AgentRunRecord),
      Run (DesktopStep sampleTools) .initial [sampleStart, .claim true 1000] w ∧
      DesktopStep sampleTools w (sampleSettling "b" 2000) w₁ ∧
      find (text "r") w.store = some old ∧
      find (text "r") w₁.store = some new ∧ MovedOn .runStarted old new ∧
      Run (DesktopStep sampleTools) w₁ [.finish first (.ok samplePayload) 1000
        (.retryable ⟨.networkBackoff, "E", "e"⟩) 3000] w₂ ∧
      DesktopStep sampleTools w₂ (.claim true 60000) w₃ ∧ w₃.attempts = w₂.attempts ++ [raw] ∧
      r ∈ w₁.store.notificationOutbox ∧ r.agentRunKey = some (text "r") ∧
      r.eventKind = .runStarted ∧ raw.id = r.id := by
  have h := sampleStartNotice_retried
  simp only [any_eq_true, List.any_eq_true, Bool.and_eq_true, beq_iff_eq] at h
  obtain ⟨w, hrun, first, _, ⟨old, hfindOld, hold⟩, w₁, hsettle, ⟨new, hfindNew, hnew⟩, w₂, hretry,
    w₃, hclaim, raw, _, hraw, r, hr, h⟩ := h
  have hmoved := movedOn_of_settling hold hnew
  exact ⟨w, w₁, w₂, w₃, first, raw, r, old, new, run_of_sampleRun hrun,
    step_of_sampleRun hsettle, hfindOld, hfindNew, hmoved, run_of_sampleRun hretry,
    step_of_sampleRun hclaim, hraw, hr, h.1.1, h.1.2, h.2.symm⟩

/-- The run `r` settles before its notice is sent, and the next claim takes a
test notice. -/
theorem sampleStartNotice_cancelled : ((sampleRun .initial
        [sampleStart, .enqueueControl .test (text "k") samplePayload 0]).any fun w =>
      w.store.check && (w.store.notificationOutbox.all fun r => r.status != .sending) &&
        (find (text "r") w.store).any (·.status == .running) &&
        (sampleRun w [sampleSettling "b" 2000]).any fun w1 =>
          (find (text "r") w1.store).any (·.status == .settling) &&
            (sampleRun w1 [.claim true 3000]).any fun w2 =>
              w2.attempts.getLast?.any fun raw =>
                w2.attempts == w1.attempts ++ [raw]) = true := by
  decide +kernel

/-- A run settles, and its start is not claimed. -/
theorem outdated_notices_are_never_claimed_sample : ∃ (w w₁ w₂ : DesktopWorld) (raw : OutboxRow),
      DesktopStep sampleTools w (sampleSettling "b" 2000) w₁ ∧
      DesktopStep sampleTools w₁ (.claim true 3000) w₂ ∧ w₂.attempts = w₁.attempts ++ [raw] ∧
      ∀ r ∈ w₁.store.notificationOutbox, r.agentRunKey = some (text "r") →
        r.eventKind = .runStarted → raw.id ≠ r.id := by
  have h := sampleStartNotice_cancelled
  simp only [any_eq_true, Bool.and_eq_true, beq_iff_eq] at h
  obtain ⟨w, hrun, ⟨⟨hs, hsending⟩, old, hfindOld, hold⟩, w₁, hsettle, ⟨new, hfindNew, hnew⟩, w₂,
    hclaim, raw, _, hraw⟩ := h
  refine ⟨w, w₁, w₂, raw, step_of_sampleRun hsettle, step_of_sampleRun hclaim, hraw,
    outdated_notices_are_never_claimed sampleTools hs (step_of_sampleRun hsettle) hfindOld hfindNew
      (movedOn_of_settling hold hnew) ?_ (.nil w₁) (step_of_sampleRun hclaim) hraw⟩
  intro r hr _ _
  exact ⟨by simpa using List.all_eq_true.mp hsending r hr, nofun⟩

/-! ## Completion notices and completed runs -/

/-- A live completion notice is about a completed run. -/
structure Announced (s : DesktopStore) : Prop where
  check : s.check = true
  confidence : ∀ run ∈ s.agentRuns, SettledConfidence run
  completed : ∀ r ∈ s.notificationOutbox, r.eventKind = .runCompleted → r.status.live = true →
    ∀ run ∈ s.agentRuns, r.agentRunKey = some run.runKey → run.status = .completed

/-- The events that withdraw an inferred completion come when its notice can be
cancelled. -/
def WithdrawalsCancel (w : DesktopWorld) : DesktopOp → Prop
  | .process _ e _ => ∀ runKey old, e.correlation.runKey = some runKey →
      find runKey w.store = some old → withdraws old e.payload = true →
      Cancellable .runCompleted runKey e.payload w.store
  | _ => True

def CancellingStep (tools : Tools) (w : DesktopWorld) (op : DesktopOp) (w' : DesktopWorld) : Prop :=
  DesktopStep tools w op w' ∧ WithdrawalsCancel w op

/-- A change that leaves the runs alone and adds no completion notice. -/
theorem Announced.of_within {scope : Scope} (h : Announced s) (hin : Within scope s s')
    (hruns : s'.agentRuns = s.agentRuns)
    (henter : ∀ r, scope.enters r → r.eventKind ≠ .runCompleted) : Announced s' where
  check := hin.check h.check
  confidence := by
    rw [hruns]
    exact h.confidence
  completed r hr hkind hlive := by
    rw [hruns]
    rcases hin.notices.rows r hr with ⟨r0, hr0, _, hmove⟩ | ⟨_, r0, hr0, hmove⟩
    · obtain rfl := hmove.eq_of_live hlive
      exact h.completed _ hr0 hkind hlive
    · exact absurd (hmove.same.eventKind.symm.trans hkind) (henter r0 hr0)

/-- The delivery worker ends notices and brings none back. -/
theorem Announced.of_outbox {move : OutboxRow → OutboxRow → Prop} (h : Announced s)
    (hmoves : OutboxOnly move s s') (hlife : ∀ r r', move r r' → LifeMove r r') : Announced s' where
  check := hmoves.check h.check
  confidence := by
    rw [hmoves.rest]
    exact h.confidence
  completed r hr hkind hlive := by
    rcases hmoves.notices.rows r hr with ⟨r0, hr0, _, hmove⟩ | ⟨_, hfalse⟩
    · obtain ⟨hsame, hended⟩ := hlife r0 r hmove
      have hlive0 : r0.status.live = true := by
        cases hlive0 : r0.status.live with
        | true => rfl
        | false =>
          rw [hended hlive0, hlive0] at hlive
          cases hlive
      have hruns : s'.agentRuns = s.agentRuns := by rw [hmoves.rest]
      rw [hruns, hsame.agentRunKey]
      exact h.completed r0 hr0 (hsame.eventKind.symm.trans hkind) hlive0
    · exact hfalse.elim

/-- The finalizer announces what it completes. -/
theorem Announced.of_finalized {run : AgentRunRecord} (h : Announced s)
    (heff : FinalizeEffect run s s') (hstat : run.status = .completed)
    (hconf : run.completionConfidence = .inferred) : Announced s' where
  check := heff.within.check h.check
  confidence other hother := by
    rcases (heff.stored other).mp hother with rfl | ⟨hkept, _⟩
    · exact fun _ => .inl hconf
    · exact h.confidence other hkept
  completed r hr hkind hlive other hother hkey := by
    rcases (heff.stored other).mp hother with rfl | ⟨hkept, hne⟩
    · exact hstat
    rcases heff.within.notices.rows r hr with ⟨r0, hr0, _, hmove⟩ | ⟨_, r0, hr0, hmove⟩
    · obtain rfl := hmove.eq_of_live hlive
      exact h.completed _ hr0 hkind hlive other hkept hkey
    -- the notices that enter are about the finalized run
    have hrunKey : r.agentRunKey = some run.runKey := hmove.same.agentRunKey.trans hr0.2.1
    exact absurd (some.inj (hkey.symm.trans hrunKey)) hne

/-- An event keeps the notices of its run in step. -/
theorem Announced.of_reduced {e : AgentEventEnvelopeV2} {quiet : Int}
    {merged : AgentRunRecord} {t : RunTransition} (h : Announced s)
    (hkey : e.correlation.runKey = some runKey)
    (hfound : mergeRunIdentity (find runKey s) e = .ok merged)
    (hred : reduceMerged merged e quiet = .ok t) (heff : RunEventEffect runKey e.payload t s s')
    (hcanc : ∀ old, find runKey s = some old → withdraws old e.payload = true →
      Cancellable .runCompleted runKey e.payload s) : Announced s' := by
  have hfacts := reduceMerged_facts hred
  obtain ⟨hmergedKey, hmergedCases⟩ := merged_of_find hkey hfound
  have htKey : t.run.runKey = runKey := hfacts.runKey.trans hmergedKey
  have hset : SettledConfidence merged := by
    intro hdone
    rcases hmergedCases with ⟨_, hrun⟩ | ⟨old, hfind, hstat, hconf⟩
    · rw [hrun] at hdone
      cases hdone
    · rw [hconf]
      exact h.confidence old ((find_eq_some h.check).mp hfind).1 (hstat.symm.trans hdone)
  refine ⟨heff.within.check h.check, fun other hoth => ?_, ?_⟩
  · rcases (heff.stored other).mp hoth with rfl | ⟨hkept, _⟩
    · exact hfacts.confidence hset
    · exact h.confidence other hkept
  intro r hr hkind hlive other hoth hrunKey
  rcases (heff.stored other).mp hoth with rfl | ⟨hkept, hne⟩
  · rw [htKey] at hrunKey
    by_contra hleft
    rcases heff.live_before hr hlive with hpre | hnew
    · -- the run was completed, so the event withdrew its completion
      obtain ⟨old, hold, holdKey⟩ :=
        (DesktopStore.valid_of_check h.check).noticeRun r hpre runKey hrunKey
      have hdone := h.completed r hpre hkind hlive old hold
        (hrunKey.trans (congrArg some holdKey.symm))
      have hfind := (find_eq_some h.check).mpr ⟨hold, holdKey⟩
      rcases hmergedCases with ⟨hnone, _⟩ | ⟨found, hfound', hstat, hconf⟩
      · rw [hfind] at hnone
        cases hnone
      obtain rfl : old = found := some.inj (hfind.symm.trans hfound')
      have hmergedCompleted : merged.status = .completed := hstat.trans hdone
      obtain ⟨hwithdraws, _⟩ := hfacts.withdrawn hset hmergedCompleted hleft
      have hwithdrawsOld : withdraws old e.payload = true := by
        simpa only [withdraws, canReopenInferred, hstat, hconf] using hwithdraws
      have hreop : canReopenInferred merged = true := by
        simp only [withdraws, Bool.and_eq_true] at hwithdraws
        exact hwithdraws.1
      have hended := heff.ends hfacts (.inr ⟨rfl, hreop, hleft⟩)
        (hcanc old hfind hwithdrawsOld) hr hrunKey hkind
      rw [hended] at hlive
      cases hlive
    · obtain ⟨hcompletes, happ⟩ := hnew.completed hkind
      exact hleft (hfacts.announced hcompletes happ)
  · rcases heff.live_before hr hlive with hpre | hnew
    · exact h.completed r hpre hkind hlive other hkept hrunKey
    · have hsame := some.inj (hrunKey.symm.trans hnew.run)
      exact absurd (hsame.trans htKey.symm) hne

/-- A cancelling step keeps announced completions true. -/
theorem announced_step {tools : Tools} {w w' : DesktopWorld} {op : DesktopOp}
    (hstep : CancellingStep tools w op w') (h : Announced w.store) : Announced w'.store := by
  obtain ⟨hstep, hcanc⟩ := hstep
  cases op with
  | process policy e checkpoint =>
    obtain ⟨eng, hnext⟩ := hstep
    cases hnext
    rcases process_cases eng tools policy e checkpoint w.store with
      hnone | ⟨settings, outcome, _, hing⟩
    · show Announced (AgentEventIngestor.process eng tools policy e checkpoint w.store).2
      rw [hnone]
      exact h
    cases ingest_effect h.check hing with
    | attends hin =>
      refine h.of_within hin (hin.runs rfl) fun r hr hkind => ?_
      rw [hr.1] at hkind
      cases hkind
    | reduces runKey merged t hkey hfound hred heff =>
      exact h.of_reduced hkey hfound hred heff fun old => hcanc runKey old hkey
  | finalize =>
    obtain ⟨eng, hnext⟩ := hstep
    cases hnext
    exact finalizeBatch_relates (R := fun s s' => Announced s → Announced s') (fun _ => id)
      (fun _ _ _ hfst hsnd hs => hsnd (hfst hs)) (fun run s s' hstat hconf heff hs =>
        hs.of_finalized heff hstat hconf) h.check h
  | passOver checkpoint =>
    obtain ⟨eng, hnext⟩ := hstep
    cases hnext
    have hin : Within Scope.aside w.store
        (AgentEventIngestor.checkpointPolicySkip eng tools checkpoint w.store).2 :=
      Acts.allOrNothing (.bind (SourceRepository.checkpoint_acts eng tools _ _)
        fun _ => .pure _) w.store
    exact h.of_within hin (hin.runs rfl) fun _ hfalse => hfalse.elim
  | project state now later =>
    obtain ⟨eng, hnext⟩ := hstep
    cases hnext
    have hin : Within projecting w.store (DesktopPolicy.project eng state now later w.store).2 :=
      project_acts state now later w.store
    exact h.of_within hin (hin.runs rfl) fun _ hfalse => hfalse.elim
  | enqueueControl kind dkey payload now =>
    obtain ⟨eng, hnext⟩ := hstep
    cases hnext
    let testing : Scope := ⟨false, false, false, entering .test none⟩
    have hin : Within testing w.store
        (OutboxRepository.enqueueControl eng tools kind dkey payload now w.store).2 :=
      OutboxRepository.enqueueControl_acts eng tools kind dkey payload now (fun _ hr => hr) w.store
    refine h.of_within hin (hin.runs rfl) fun r hr hkind => ?_
    rw [hr.1] at hkind
    cases hkind
  | stop =>
    obtain ⟨eng, hnext⟩ := hstep
    cases hnext
    exact h
  | expireDue | claim | finish | recoverStale | retryBlocked =>
    exact h.of_outbox (delivery_moves hstep rfl) fun _ _ => DesktopOp.move_life

/-- **A completion notice that may be claimed is about a completed run.**  This
holds in every desktop reached from the first start, if every event that
withdraws an inferred completion comes when none of its notices is being sent,
and none is unsent where the run only settles again. -/
theorem claimable_completions_are_completed (tools : Tools) {labels : List DesktopOp}
    {w : DesktopWorld} (hrun : Run (CancellingStep tools) .initial labels w) :
    ∀ r ∈ w.store.notificationOutbox, r.eventKind = .runCompleted → r.status.claimable = true →
      ∃ run ∈ w.store.agentRuns, r.agentRunKey = some run.runKey ∧ run.status = .completed := by
  have hinitial : Announced DesktopWorld.initial.store :=
    ⟨by decide, by simp [DesktopWorld.initial, DesktopStore.initial],
      by simp [DesktopWorld.initial, DesktopStore.initial]⟩
  have h : Announced w.store :=
    Run.invariant (I := fun w => Announced w.store) (fun _ _ _ => announced_step) hrun hinitial
  have hvalid := DesktopStore.valid_of_check h.check
  intro r hr hkind hclaimable
  have hnames := hvalid.noticeNamesRun r hr
  simp only [OutboxRow.namesRun, hkind] at hnames
  obtain ⟨runKey, hrunKey⟩ := isSome_iff_exists.mp hnames
  obtain ⟨run, hmem, rfl⟩ := hvalid.noticeRun r hr runKey hrunKey
  exact ⟨run, hmem, hrunKey, h.completed r hr hkind
    (OutboxRowStatus.live_of_claimable hclaimable) run hmem hrunKey⟩

/-- The run `r` settles, is completed by inference, and settles again. -/
theorem sampleCompletion_withdrawn : ((sampleRun .initial [sampleStart, sampleSettling "b" 1000,
        .finalize samplePolicy none 4000, sampleSettling "d" 5000]).any fun w =>
      w.store.notificationOutbox.any fun r =>
        r.eventKind == .runCompleted && r.status.claimable && w.store.agentRuns.any fun run =>
            r.agentRunKey == some run.runKey && run.status == .settling) = true := by
  decide +kernel

/-- **A run that settles again leaves the notice of its completion to be sent.** -/
theorem settling_run_keeps_completion_notice :
    ∃ (w : DesktopWorld) (r : OutboxRow) (run : AgentRunRecord),
      Run (DesktopStep sampleTools) .initial [sampleStart, sampleSettling "b" 1000,
        .finalize samplePolicy none 4000, sampleSettling "d" 5000] w ∧
      r ∈ w.store.notificationOutbox ∧ r.eventKind = .runCompleted ∧
      r.status.claimable = true ∧ run ∈ w.store.agentRuns ∧
      r.agentRunKey = some run.runKey ∧ run.status = .settling := by
  have h := sampleCompletion_withdrawn
  simp only [any_eq_true, List.any_eq_true, Bool.and_eq_true, beq_iff_eq] at h
  obtain ⟨w, hrun, r, hr, ⟨hkind, hclaimable⟩, run, hmem, h⟩ := h
  exact ⟨w, r, run, run_of_sampleRun hrun, hr, hkind, hclaimable, hmem, h.1, h.2⟩

/-- The run `r` settles and is completed by inference. -/
theorem sampleCompletion_announced : ((sampleRun .initial [sampleStart]).any fun w =>
      w.store.notificationOutbox.all (fun r => r.eventKind != .runCompleted) &&
        (sampleRun w [sampleSettling "b" 1000]).any fun w1 =>
          (sampleRun w1 [.finalize samplePolicy none 4000]).any fun w2 =>
            w2.store.notificationOutbox.any fun r =>
              r.eventKind == .runCompleted && r.status.claimable) = true := by
  decide +kernel

/-- A completion that can be claimed. -/
theorem claimable_completions_are_completed_sample :
    ∃ (w : DesktopWorld) (r : OutboxRow), r ∈ w.store.notificationOutbox ∧
      r.eventKind = .runCompleted ∧ r.status.claimable = true ∧
      ∃ run ∈ w.store.agentRuns, r.agentRunKey = some run.runKey ∧ run.status = .completed := by
  have h := sampleCompletion_announced
  simp only [any_eq_true, List.any_eq_true, Bool.and_eq_true, beq_iff_eq] at h
  obtain ⟨w, hstart, hnone, w₁, hsettle, w₂, hfinalize, r, hr, h⟩ := h
  have hfirst : WithdrawalsCancel .initial sampleStart := fun _ _ _ hfind => nomatch hfind
  have hsecond : WithdrawalsCancel w (sampleSettling "b" 1000) := by
    intro runKey old _ _ _ r hr _ hkind
    have hother := List.all_eq_true.mp hnone r hr
    rw [hkind] at hother
    cases hother
  have hrun : Run (CancellingStep sampleTools) .initial
      [sampleStart, sampleSettling "b" 1000, .finalize samplePolicy none 4000] w₂ :=
    .cons ⟨step_of_sampleRun hstart, hfirst⟩ (.cons ⟨step_of_sampleRun hsettle, hsecond⟩
      (.cons ⟨step_of_sampleRun hfinalize, trivial⟩ (.nil _)))
  exact ⟨w₂, r, hr, h.1, h.2, claimable_completions_are_completed sampleTools hrun r hr h.1 h.2⟩

end PromptDock.Desktop
