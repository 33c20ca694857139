import PromptDock.ConfirmationRuns

/-!
# Stored outcomes over whole runs

When the answer to a control request is stored on its confirmation, the command
may still be waiting for its reply; a restart hands it to the worker again,
which then asks for the stored answer.  The clean-ups drop a confirmation once
it expired, also while its command waits, and the answer is lost with it
(`stored_outcome_is_lost`).  Without such a clean-up the answer is returned
whatever else happens (`stored_outcomes_are_returned`).
-/

namespace PromptDock

open RowTable StoreAction.Action TableStatement LabelledRun InboundCommandService

/-- What is stored on a confirmation: the answer to its control request, or an
error. -/
abbrev DispatchResult := Except String ControlDispatchOutcome

/-- The change that stores a result. -/
def ConfirmationRow.store : DispatchResult → ConfirmationRow → ConfirmationRow
  | .ok outcome => ConfirmationRow.storeOutcome outcome
  | .error errorCode => ConfirmationRow.storeFailure errorCode

/-- The record that hands a stored result out. -/
def DispatchResult.record (confirmation : ConfirmationRecord) :
    DispatchResult → ControlDispatchRecord
  | .ok outcome => ⟨confirmation, some outcome, none⟩
  | .error errorCode => ⟨confirmation, none, some errorCode⟩

/-- The operation stores a result: under which claim, on which confirmation. -/
def RelayOp.stores : RelayOp → Option (ClaimedInboundCommand × String × DispatchResult)
  | .persistOutcome claim confirmationId outcome _ => some (claim, confirmationId, .ok outcome)
  | .failDispatch claim confirmationId errorCode _ => some (claim, confirmationId, .error errorCode)
  | _ => none

/-- A command is there and has not ended. -/
def RelayStore.liveCommand (s : RelayStore) (messageKey : String) : Bool :=
  s.inboundCommands.any fun c => c.messageKey == messageKey && !c.status.terminal

/-- A result is stored on the confirmation, for the command. -/
structure RelayStore.Stored (messageKey : String) (r : ConfirmationRow) (s : RelayStore) :
    Prop where
  valid : s.Valid
  mem : r ∈ s.controlConfirmations
  bound : r.dispatchMessageKey = some messageKey
  consumed : r.consumedAt ≠ none
  settled : r.dispatchState.settled = true

variable {r : ConfirmationRow}

/-- A confirmation under way was consumed. -/
theorem ConfirmationRow.consumed_of_pending (hchk : r.check = true)
    (hpend : r.dispatchState = .pending) : r.consumedAt ≠ none := by
  simp only [ConfirmationRow.check, Bool.and_eq_true] at hchk
  have hst := hchk.2
  simp only [ConfirmationRow.checkState, hpend] at hst
  intro hnone
  simp [hnone] at hst

namespace InboundCommandService

variable {engine : RelayEngine} {claim : ClaimedInboundCommand} {confirmationId : String}
  {result : DispatchResult} {now : Timestamp} {s s' : RelayStore}

/-- A settled dispatch is stored. -/
theorem settleDispatch_eq_true
    (h : settleDispatch engine claim confirmationId (ConfirmationRow.store result) now s =
      (.ok true, s')) (hs : s.Valid) :
    ∃ r : ConfirmationRow, r.isFor claim.senderFingerprint confirmationId = true ∧
      r.dispatchRecord = some (result.record r.record) ∧ s'.Stored claim.messageKey r := by
  rcases transaction_eq_ok.mp h with hcom | ⟨_, s1, hrollback⟩
  · obtain ⟨changed, s1, hupd, hend⟩ := bind_eq_ok.mp hcom
    obtain ⟨hfin, rfl⟩ := commitIf_eq_ok.mp hend
    have hchg : changed = true := by
      cases changed with
      | false => cases hfin
      | true => rfl
    subst hchg
    obtain ⟨hacc, hone, rfl⟩ := updateOne_eq_true.mp hupd
    obtain ⟨r0, hr0, hheld⟩ := affected_pos.mp (hone ▸ Nat.one_pos)
    have hg := hheld
    simp only [dispatchHeld, Bool.and_eq_true, beq_iff_eq, decide_eq_true_eq] at hg
    obtain ⟨⟨⟨hfor, hbound⟩, hpend⟩, _⟩ := hg
    have hcons := ConfirmationRow.consumed_of_pending (hs.confirmationRows r0 hr0) hpend
    have hmem : ConfirmationRow.store result r0 ∈
        updateWhere (dispatchHeld claim confirmationId now s) (ConfirmationRow.store result)
          s.controlConfirmations :=
      mem_updateWhere.mpr ⟨r0, hr0, .inl ⟨hheld, rfl⟩⟩
    have hvalid := RelayStore.valid_of_check (engine.sound _ hacc)
    cases result with
    | ok outcome => exact ⟨r0.storeOutcome outcome, hfor, rfl, hvalid, hmem, hbound, hcons, rfl⟩
    | error errorCode =>
      exact ⟨r0.storeFailure errorCode, hfor, rfl, hvalid, hmem, hbound, hcons, rfl⟩
  · obtain ⟨changed, s2, _, hend⟩ := bind_eq_ok.mp hrollback
    obtain ⟨hfin, _⟩ := commitIf_eq_ok.mp hend
    cases changed <;> cases hfin

/-- A stored result is handed out, whatever the engine, and nothing changes. -/
theorem prepareControlDispatchAt_of_stored (hsto : s.Stored claim.messageKey r)
    (hfor : r.isFor claim.senderFingerprint confirmationId = true)
    (hrec : r.dispatchRecord = some (result.record r.record)) :
    prepareControlDispatchAt engine claim confirmationId now s =
      (.ok (result.record r.record), s) := by
  have hfind : s.controlConfirmations.find?
      (ConfirmationRow.isFor claim.senderFingerprint confirmationId) = some r := by
    cases hfound : s.controlConfirmations.find?
        (ConfirmationRow.isFor claim.senderFingerprint confirmationId) with
    | none => exact absurd hfor (by simpa using List.find?_eq_none.mp hfound r hsto.mem)
    | some r' =>
      have hr' := List.mem_of_find?_eq_some hfound
      have hid := (ConfirmationRow.isFor_iff.mp (List.find?_some hfound)).2
      rw [hsto.valid.confirmationIds.eq_of_key hr' hsto.mem
        (hid.trans (ConfirmationRow.isFor_iff.mp hfor).2.symm)]
  have hpend : r.dispatchState ≠ .pending := by
    intro hpend
    have hset := hsto.settled
    rw [hpend] at hset
    cases hset
  simp [prepareControlDispatchAt, transaction, hfind, hsto.bound, hpend, hrec]

end InboundCommandService

section

variable {verifier : ConfirmationVerifier} {w w' : RelayWorld} {e : RelayEvent}

/-- A stored outcome stays while its command is live. -/
theorem relayStep_stored (h : RelayStep verifier w e w') {messageKey : String}
    (hw : w.store.Stored messageKey r) (hsweep : e.op.sweeps r = false)
    (hlive : w'.store.liveCommand messageKey = true) : w'.store.Stored messageKey r := by
  have hmem : r ∈ w'.store.controlConfirmations := by
    by_cases hforgets : e.op.forgets = true
    · obtain ⟨engine, op, result⟩ := e
      cases op with
      | retainInbound config now =>
        have hstore : (RetentionService.deleteInboundAt engine config now w.store).2 =
            w'.store := by
          have hrun := congrArg Prod.snd (relayStep_spec h).run
          rwa [RelayOp.run, report_store] at hrun
        have hcmd : w'.store.hasInbound messageKey = true := by
          simp only [RelayStore.liveCommand, List.any_eq_true, Bool.and_eq_true] at hlive
          obtain ⟨c, hc, hkey, _⟩ := hlive
          exact List.any_eq_true.mpr ⟨c, hc, hkey⟩
        rw [← hstore] at hcmd ⊢
        exact RetentionService.deleteInboundAt_bound hw.mem hw.bound hcmd
      | _ => cases hforgets
    · refine (relayStep_steps h).settled_kept hw.valid hw.mem ?_ hw.consumed hw.settled ?_ hforgets
      · rw [hw.bound]
        rfl
      show ¬ e.op.sweeps r = true
      rw [hsweep]
      simp
  exact { hw with valid := relayStep_valid h hw.valid, mem := hmem }

end

/-- A step after which the command has not ended, and that cleans no confirmation
with this id up. -/
abbrev KeepingStep (verifier : ConfirmationVerifier) (messageKey confirmationId : String)
    (w : RelayWorld) (e : RelayEvent) (w' : RelayWorld) : Prop :=
  RelayStep verifier w e w' ∧ w'.store.liveCommand messageKey = true ∧
    ∀ r ∈ w.store.controlConfirmations, r.confirmationId = confirmationId → e.op.sweeps r = false

/-- **Stored outcomes are returned.**  Once the outcome or the failure of a
control request was stored for a command, every later preparation of its
dispatch returns exactly that, as long as the command has not ended and no
clean-up meets the confirmation expired. -/
theorem stored_outcomes_are_returned (verifier : ConfirmationVerifier)
    {w₀ w₁ w₂ : RelayWorld} {events later : List RelayEvent} {e : RelayEvent}
    {claim claim' : ClaimedInboundCommand} {confirmationId : String} {result : DispatchResult}
    (hrun : Run (RelayStep verifier) .start events w₀) (hstore : RelayStep verifier w₀ e w₁)
    (hop : e.op.stores = some (claim, confirmationId, result)) (htrue : e.result = .applied true)
    (hlater : Run (KeepingStep verifier claim.messageKey confirmationId) w₁ later w₂)
    (hkey : claim'.messageKey = claim.messageKey)
    (hsender : claim'.senderFingerprint = claim.senderFingerprint)
    (engine : RelayEngine) (now : Timestamp) : ∃ confirmation : ConfirmationRecord,
      prepareControlDispatchAt engine claim' confirmationId now w₂.store =
        (.ok (result.record confirmation), w₂.store) := by
  have hvalid : w₀.store.Valid :=
    hrun.invariant (I := fun w => w.store.Valid) (fun _ _ _ => relayStep_valid)
      RelayStore.empty_valid
  obtain ⟨r, hfor, hrecord, hstored⟩ :
      ∃ r : ConfirmationRow, r.isFor claim.senderFingerprint confirmationId = true ∧
        r.dispatchRecord = some (result.record r.record) ∧
        w₁.store.Stored claim.messageKey r := by
    have hspec := (relayStep_spec hstore).run
    rw [htrue] at hspec
    obtain ⟨engine0, op, _⟩ := e
    cases op with
    | persistOutcome | failDispatch =>
      cases hop
      have hsettle := report_eq (fun _ => RelayResult.applied.inj) (by simp) hspec
      exact settleDispatch_eq_true hsettle hvalid
    | _ => cases hop
  have hkept : w₂.store.Stored claim.messageKey r := by
    refine hlater.invariant (I := fun w => w.store.Stored claim.messageKey r) ?_ hstored
    intro u e u' hstep hu
    have hid := (ConfirmationRow.isFor_iff.mp hfor).2
    exact relayStep_stored hstep.1 hu (hstep.2.2 r hu.mem hid) hstep.2.1
  rw [← hkey] at hkept
  rw [← hsender] at hfor
  exact ⟨r.record, prepareControlDispatchAt_of_stored hkept hfor hrecord⟩

/-! A run is confirmed and started, and its outcome is stored; then the process
stops.  Restarted two minutes later, it recovers the command, and retention
drops the confirmation before the command is taken up again. -/

/-- The claim of the command that confirms. -/
def sampleConfirming : ClaimedInboundCommand := sampleClaimOf "m2" 3 (.confirm "a") 4000

/-- Up to the control request. -/
def sampleDispatch : List RelayEvent :=
  let first := sampleClaimOf "m1" 1 (.startRun 1) 1000
  [⟨sqlite, .changeDevices [sampleDevice], .done⟩,
    ⟨sqlite, .receive ⟨"m1", sampleSender, "start 1", 1000⟩ .never, .done⟩,
    ⟨sqlite, .claimNext 1 2000 false, .claimed (some first)⟩,
    ⟨sqlite, .queueConfirmation 2 first (samplePrompt "111111" 3000)
      (samplePending "a" "111111" 3000) 3000, .applied true⟩,
    ⟨sqlite, .receive ⟨"m2", sampleSender, "confirm 111111", 4000⟩ .never, .done⟩,
    ⟨sqlite, .claimNext 3 5000 false, .claimed (some sampleConfirming)⟩,
    ⟨sqlite, .prepare sampleConfirming "a" 6000,
      .prepared ⟨⟨"a", (samplePending "a" "111111" 3000).scope⟩, none, none⟩⟩]

/-- The run was queued. -/
def sampleOutcome : ControlDispatchOutcome := ⟨true, sampleHandle, "queued"⟩

def sampleStored : RelayEvent :=
  ⟨sqlite, .persistOutcome sampleConfirming "a" sampleOutcome 7000, .applied true⟩

def sampleRecovery : RelayEvent := ⟨sqlite, .recover 200000, .done⟩

def sampleCleanup : RelayEvent := ⟨sqlite, .retainConfirmations 200000, .done⟩

/-- The second claim of the command. -/
def sampleReclaimed : ClaimedInboundCommand := sampleClaimOf "m2" 4 (.confirm "a") 4000

def sampleReclaim : RelayEvent :=
  ⟨sqlite, .claimNext 4 201000 false, .claimed (some sampleReclaimed)⟩

/-- The sample is a run that loses an outcome. -/
theorem sampleLoss_replays :
    ((replay (RelayWorld.next digitVerifier) .start sampleDispatch).any fun w0 =>
      (replay (RelayWorld.next digitVerifier) w0 [sampleStored]).any fun w1 =>
      (replay (RelayWorld.next digitVerifier) w1 [sampleRecovery]).any fun w2 =>
        w2.store.liveCommand "m2" &&
        (replay (RelayWorld.next digitVerifier) w2 [sampleCleanup, sampleReclaim]).any fun w3 =>
          w3.store.liveCommand "m2" &&
          ((RelayOp.prepare sampleReclaimed "a" 202000).run sqlite digitVerifier w3.store).1 ==
            .failed) = true := by
  decide +kernel

/-- **A stored outcome is lost.**  The command is still to be answered, and
preparing its dispatch fails. -/
theorem stored_outcome_is_lost : ∃ w₀ w₁ w₂ : RelayWorld,
      Run (RelayStep digitVerifier) .start sampleDispatch w₀ ∧
      RelayStep digitVerifier w₀ sampleStored w₁ ∧
      sampleStored.op.stores = some (sampleConfirming, "a", .ok sampleOutcome) ∧
      sampleStored.result = .applied true ∧
      Run (RelayStep digitVerifier) w₁ [sampleRecovery, sampleCleanup, sampleReclaim] w₂ ∧
      w₂.store.liveCommand "m2" = true ∧
      ((RelayOp.prepare sampleReclaimed "a" 202000).run sqlite digitVerifier w₂.store).1 =
        .failed := by
  obtain ⟨w₀, hrun0, h0⟩ := exists_run_of_any sampleLoss_replays
  obtain ⟨w₁, hrun1, h1⟩ := exists_run_of_any h0
  obtain ⟨w₂, hrun2, h2⟩ := exists_run_of_any h1
  rw [Bool.and_eq_true] at h2
  obtain ⟨w₃, hrun3, h3⟩ := exists_run_of_any h2.2
  rw [Bool.and_eq_true, beq_iff_eq] at h3
  obtain _ | ⟨hstep, _ | _⟩ := hrun1
  exact ⟨w₀, w₁, w₃, hrun0, hstep, rfl, rfl, hrun2.append hrun3, h3⟩

/-- After the restart alone, the outcome is returned. -/
theorem stored_outcomes_are_returned_sample : ∃ w : RelayWorld, ∃ confirmation : ConfirmationRecord,
      prepareControlDispatchAt sqlite sampleReclaimed "a" 202000 w.store =
        (.ok (DispatchResult.record confirmation (.ok sampleOutcome)), w.store) := by
  obtain ⟨w₀, hrun0, h0⟩ := exists_run_of_any sampleLoss_replays
  obtain ⟨w₁, hrun1, h1⟩ := exists_run_of_any h0
  obtain ⟨w₂, hrun2, h2⟩ := exists_run_of_any h1
  rw [Bool.and_eq_true] at h2
  obtain _ | ⟨hstore, _ | _⟩ := hrun1
  obtain _ | ⟨hrecover, _ | _⟩ := hrun2
  have hkeeps : Run (KeepingStep digitVerifier "m2" "a") w₁ [sampleRecovery] w₂ :=
    .cons ⟨hrecover, h2.1, fun _ _ _ => rfl⟩ (.nil w₂)
  have hkey : sampleReclaimed.messageKey = sampleConfirming.messageKey := rfl
  exact ⟨w₂, stored_outcomes_are_returned digitVerifier hrun0 hstore rfl rfl hkeeps
    hkey rfl sqlite 202000⟩

end PromptDock
