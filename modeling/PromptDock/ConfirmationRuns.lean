import PromptDock.ReplyRuns

/-!
# Confirmations over whole runs

A confirmation is withdrawn when a newer one of its sender replaces it, or when
its code comes too late.  The statement that consumes a confirmation does not
ask for its state, so a withdrawn confirmation whose code was checked before
the withdrawal is still dispatched
(`withdrawn_confirmation_is_dispatched`).  That is the only way:
`withdrawn_confirmations_stay_withdrawn` covers every run without such a step.
-/

namespace PromptDock

open TableStatement LabelledRun List

/-- The operation prepares the dispatch of a confirmation that is cancelled but
not expired, under a claim that holds its command. -/
def RelayOp.revives (s : RelayStore) : RelayOp → Bool
  | .prepare claim confirmationId now =>
    (s.controlConfirmations.any fun r =>
      r.isFor claim.senderFingerprint confirmationId && r.dispatchState = .cancelled &&
        now < r.scope.expiresAt) &&
    s.inboundCommands.any
      (InboundRow.heldLive claim.messageKey claim.claimToken .dispatching now)
  | _ => false

/-- No confirmation is cancelled and consumed by an operation that revives
none. -/
theorem RelayOp.not_consumes_of_not_revives {s : RelayStore} {op : RelayOp}
    (h : op.revives s = false) {r : ConfirmationRow} (hr : r ∈ s.controlConfirmations)
    (hcanc : r.dispatchState = .cancelled) : ¬ op.consumes s r := by
  cases op with
  | prepare claim confirmationId now =>
    rintro ⟨hfor, hlive, c, hc, hheld⟩
    have hrevives : RelayOp.revives s (.prepare claim confirmationId now) = true := by
      simp only [RelayOp.revives, Bool.and_eq_true, any_eq_true, decide_eq_true_eq]
      exact ⟨⟨r, hr, ⟨hfor, hcanc⟩, hlive⟩, c, hc, hheld⟩
    rw [h] at hrevives
    cases hrevives
  | _ => exact id

/-- The confirmations of the store were issued. -/
structure RelayWorld.Issued (w : RelayWorld) : Prop where
  valid : w.store.Valid
  issued : ∀ r ∈ w.store.controlConfirmations, r.confirmationId ∈ w.issued

/-- The confirmation with this id was withdrawn: it is cancelled, if it is still
there. -/
structure RelayWorld.Withdrawn (confirmationId : String) (w : RelayWorld) : Prop where
  valid : w.store.Valid
  issued : confirmationId ∈ w.issued
  cancelled : ∀ r ∈ w.store.controlConfirmations, r.confirmationId = confirmationId →
    r.dispatchState = .cancelled

section

variable {verifier : ConfirmationVerifier} {w w' : RelayWorld} {e : RelayEvent}
  {confirmationId : String}

/-- What was issued stays issued. -/
theorem relayStep_issued_mono (h : RelayStep verifier w e w') (hid : confirmationId ∈ w.issued) :
    confirmationId ∈ w'.issued := by
  rw [(relayStep_spec h).issued]
  exact mem_append_right _ hid

/-- A step stores only what was issued. -/
theorem relayStep_issued (h : RelayStep verifier w e w') (hw : w.Issued) : w'.Issued := by
  refine ⟨relayStep_valid h hw.valid, fun r hr => ?_⟩
  rcases (relayStep_steps h).confirmation_versions hw.valid r hr with
    ⟨r0, hr0, hid, _⟩ | ⟨pending, hiss, hid, _⟩
  · rw [← hid]
    exact relayStep_issued_mono h (hw.issued r0 hr0)
  have hop : e.op.issued = some pending := hiss
  rw [(relayStep_spec h).issued, ← hid, hop]
  exact mem_append_left _ (mem_singleton_self _)

section

variable (h : RelayStep verifier w e w') (hsafe : e.op.revives w.store = false)
  (hw : w.Withdrawn confirmationId)

include h hsafe hw

/-- A step that revives nothing leaves withdrawn confirmations withdrawn. -/
theorem relayStep_withdrawn : w'.Withdrawn confirmationId := by
  have hsame : ∀ r ∈ w'.store.controlConfirmations, r.confirmationId = confirmationId →
      r ∈ w.store.controlConfirmations := by
    refine (relayStep_steps h).cancelled_of_id hw.valid (fun r hr hid => ?_) fun pend hop => ?_
    · have hst := hw.cancelled r hr hid
      exact ⟨hst, RelayOp.not_consumes_of_not_revives hsafe hr hst⟩
    · intro hid
      exact (relayStep_spec h).newId pend hop (hid ▸ hw.issued)
  exact
    { valid := relayStep_valid h hw.valid, issued := relayStep_issued_mono h hw.issued,
      cancelled := fun r hr hid => hw.cancelled r (hsame r hr hid) hid }

/-- A withdrawn confirmation is not dispatched by a step that revives nothing. -/
theorem relayStep_not_dispatched {claim : ClaimedInboundCommand} {now : Timestamp}
    (hop : e.op = .prepare claim confirmationId now) (record : ControlDispatchRecord) :
    e.result ≠ .prepared record := by
  intro hres
  have hrun := (relayStep_spec h).run
  rw [hop] at hrun hsafe
  rw [hres] at hrun
  have hprepare := report_eq (fun _ => RelayResult.prepared.inj) (by simp) hrun
  generalize w'.store = s' at hprepare
  have hst : ∀ row ∈ w.store.controlConfirmations,
      row.isFor claim.senderFingerprint confirmationId = true → row.dispatchState = .cancelled :=
    fun row hrow hfor => hw.cancelled row hrow (ConfirmationRow.isFor_iff.mp hfor).2
  cases InboundCommandService.prepareControlDispatchAt_eq_ok hprepare with
  | stored hrow hfor hbound hset hrec =>
    simp [ConfirmationRow.dispatchRecord, hst _ hrow hfor] at hrec
  | resumed hrow hfor hbound hpend =>
    rw [hst _ hrow hfor] at hpend
    cases hpend
  | consumed hrow hfor hunbound hlive hunconsumed hconsume hwait =>
    obtain ⟨_, _, rfl⟩ := updateOne_eq_true.mp hconsume
    have hclaim := InboundCommandService.waitGateway_eq_true hwait
    exact RelayOp.not_consumes_of_not_revives hsafe hrow (hst _ hrow hfor) ⟨hfor, hlive, hclaim⟩

end

end

/-- Where every run starts: nothing stored, drawn or issued. -/
def RelayWorld.start : RelayWorld := ⟨.empty, [], []⟩

theorem RelayWorld.start_issued : RelayWorld.start.Issued :=
  ⟨RelayStore.empty_valid, by simp [RelayWorld.start, RelayStore.empty]⟩

/-- A step that revives no cancelled confirmation. -/
abbrev SafeStep (verifier : ConfirmationVerifier) (w : RelayWorld) (e : RelayEvent)
    (w' : RelayWorld) : Prop :=
  RelayStep verifier w e w' ∧ e.op.revives w.store = false

/-- **Withdrawn confirmations stay withdrawn** in every run without a step that
prepares the dispatch of a cancelled, unexpired confirmation under a live
claim: they never become pending again, and no dispatch is prepared for them. -/
theorem withdrawn_confirmations_stay_withdrawn (verifier : ConfirmationVerifier)
    {w₁ w₂ : RelayWorld} {events later : List RelayEvent}
    (hrun : Run (RelayStep verifier) .start events w₁)
    (hlater : Run (SafeStep verifier) w₁ later w₂)
    {r : ConfirmationRow} (hr : r ∈ w₁.store.controlConfirmations)
    (hcancelled : r.dispatchState = .cancelled) :
    (∀ r' ∈ w₂.store.controlConfirmations, r'.confirmationId = r.confirmationId →
      r'.dispatchState ≠ .pending) ∧
    ∀ e ∈ later, ∀ claim now confirmation, e.op = .prepare claim r.confirmationId now →
        e.result ≠ .prepared ⟨confirmation, none, none⟩ := by
  have hissued : w₁.Issued := hrun.invariant (fun _ _ _ => relayStep_issued) RelayWorld.start_issued
  have hwithdrawn : w₁.Withdrawn r.confirmationId := by
    refine ⟨hissued.valid, hissued.issued r hr, fun r' hr' hid => ?_⟩
    rw [hissued.valid.confirmationIds.eq_of_key hr' hr hid]
    exact hcancelled
  have hkept : ∀ u e u', SafeStep verifier u e u' → u.Withdrawn r.confirmationId →
      u'.Withdrawn r.confirmationId :=
    fun _ _ _ hstep => relayStep_withdrawn hstep.1 hstep.2
  constructor
  · intro r' hr' hid hpending
    rw [(hlater.invariant hkept hwithdrawn).cancelled r' hr' hid] at hpending
    cases hpending
  · refine hlater.forall_mem hkept (fun u e u' hstep hu => ?_) hwithdrawn
    exact fun claim now confirmation hop => relayStep_not_dispatched hstep.1 hstep.2 hu hop _

/-! The sender asks for a run and is asked to confirm it (`a`); asks again and
sends the code of `a` before the second request is executed.  The second
request replaces `a` by `b`.  Then the code, which was checked on arrival, is
executed: `a` is dispatched. -/

/-- A device that may run tasks. -/
def sampleDevice : DeviceRow where
  id := 100
  name := "desktop"
  enabled := true
  createdAt := 0
  revokedAt := none
  scopes := [.gatewayConnect, .runQuery, .runControl]

def sampleHandle : String := "handle_handle_handle_handle_handle"

/-- The verifier of the examples. -/
def digitVerifier : ConfirmationVerifier := ⟨.lastDigit, []⟩

/-- A confirmation of a run on the device. -/
def samplePending (confirmationId code : String) (createdAt : Timestamp) : PendingConfirmation :=
  let scope : ConfirmationScope :=
    { senderFingerprint := sampleSender, deviceId := 100, actionKind := .startRun
      runtimeHandle := some sampleHandle, workspaceHandle := some sampleHandle
      harnessProfileHandle := some sampleHandle, taskPresetHandle := some sampleHandle
      runHandle := none, intentId := "intent-" ++ confirmationId
      expiresAt := createdAt + controlConfirmationTtlMs }
  let nonce := "0123456789abcdef0123456789abcdef"
  ⟨confirmationId, scope, digitVerifier.digestParts confirmationId nonce scope code, nonce⟩

/-- The prompt that carries a code. -/
def samplePrompt (code : String) (queuedAt : Timestamp) : RenderedReply :=
  ⟨"确认", "确认 " ++ code, true, queuedAt, queuedAt + controlConfirmationTtlMs⟩

/-- The claim of a sample command. -/
def sampleClaimOf (messageKey : String) (token : Uuid) (command : InboundCommandV5)
    (receivedAt : Timestamp) : ClaimedInboundCommand where
  messageKey
  claimToken := token
  senderFingerprint := sampleSender
  commandKind := command.kind
  commandJson := .closed command
  lastErrorCode := none
  expiresAt := receivedAt + inboundCommandTtlMs

/-- Up to the withdrawal of `a`. -/
def sampleWithdrawal : List RelayEvent :=
  let first := sampleClaimOf "m1" 1 (.startRun 1) 1000
  let second := sampleClaimOf "m2" 3 (.startRun 1) 4000
  [⟨sqlite, .changeDevices [sampleDevice], .done⟩,
    ⟨sqlite, .receive ⟨"m1", sampleSender, "start 1", 1000⟩ .never, .done⟩,
    ⟨sqlite, .claimNext 1 2000 false, .claimed (some first)⟩,
    ⟨sqlite, .queueConfirmation 2 first (samplePrompt "111111" 3000)
      (samplePending "a" "111111" 3000) 3000, .applied true⟩,
    ⟨sqlite, .receive ⟨"m2", sampleSender, "start 1", 4000⟩ .never, .done⟩,
    ⟨sqlite, .receive ⟨"m3", sampleSender, "confirm 111111", 5000⟩ .never, .done⟩,
    ⟨sqlite, .claimNext 3 6000 false, .claimed (some second)⟩,
    ⟨sqlite, .queueConfirmation 4 second (samplePrompt "222222" 7000)
      (samplePending "b" "222222" 7000) 7000, .applied true⟩]

/-- The claim of the command that the code of `a` became. -/
def sampleLateClaim : ClaimedInboundCommand := sampleClaimOf "m3" 5 (.confirm "a") 5000

/-- The worker takes the command up. -/
def sampleLateClaimed : RelayEvent :=
  ⟨sqlite, .claimNext 5 8000 false, .claimed (some sampleLateClaim)⟩

/-- The worker prepares the dispatch and is handed `a`. -/
def sampleRevival : RelayEvent :=
  ⟨sqlite, .prepare sampleLateClaim "a" 9000,
    .prepared ⟨⟨"a", (samplePending "a" "111111" 3000).scope⟩, none, none⟩⟩

/-- The row of `a` once it is withdrawn. -/
def sampleWithdrawnRow : ConfirmationRow := (samplePending "a" "111111" 3000).row.cancel

/-- The sample is a run that revives a confirmation. -/
theorem sampleWithdrawal_replays :
    ((replay (RelayWorld.next digitVerifier) .start sampleWithdrawal).any fun w1 =>
      w1.store.controlConfirmations.contains sampleWithdrawnRow &&
      (replay (RelayWorld.next digitVerifier) w1 [sampleLateClaimed, sampleRevival]).any fun w2 =>
          w2.store.controlConfirmations.contains (sampleWithdrawnRow.consume "m3" 9000)) =
      true := by
  decide +kernel

/-- **A withdrawn confirmation is dispatched.** -/
theorem withdrawn_confirmation_is_dispatched :
    ∃ (w₁ w₂ : RelayWorld) (r r' : ConfirmationRow) (e : RelayEvent)
      (claim : ClaimedInboundCommand) (now : Timestamp) (confirmation : ConfirmationRecord),
      Run (RelayStep digitVerifier) .start sampleWithdrawal w₁ ∧
      r ∈ w₁.store.controlConfirmations ∧ r.dispatchState = .cancelled ∧
      Run (RelayStep digitVerifier) w₁ [sampleLateClaimed, sampleRevival] w₂ ∧
      r' ∈ w₂.store.controlConfirmations ∧ r'.confirmationId = r.confirmationId ∧
      r'.dispatchState = .pending ∧
      e ∈ [sampleLateClaimed, sampleRevival] ∧ e.op = .prepare claim r.confirmationId now ∧
      e.result = .prepared ⟨confirmation, none, none⟩ := by
  obtain ⟨w₁, hrun1, h1⟩ := exists_run_of_any sampleWithdrawal_replays
  rw [Bool.and_eq_true, contains_iff_mem] at h1
  obtain ⟨w₂, hrun2, h2⟩ := exists_run_of_any h1.2
  rw [contains_iff_mem] at h2
  exact ⟨w₁, w₂, sampleWithdrawnRow, _, sampleRevival, sampleLateClaim, 9000, _, hrun1, h1.1,
    rfl, hrun2, h2, rfl, rfl, mem_cons_of_mem _ (mem_singleton_self _), rfl, rfl⟩

/-- Taking the late command up is safe; preparing its dispatch is not. -/
theorem withdrawn_confirmations_stay_withdrawn_sample :
    ∃ w₁ w₂ : RelayWorld, Run (RelayStep digitVerifier) .start sampleWithdrawal w₁ ∧
      RelayStep digitVerifier w₁ sampleLateClaimed w₂ ∧
      ∀ r' ∈ w₂.store.controlConfirmations, r'.confirmationId = "a" →
        r'.dispatchState ≠ .pending := by
  obtain ⟨w₁, hrun1, h1⟩ := exists_run_of_any sampleWithdrawal_replays
  rw [Bool.and_eq_true, contains_iff_mem] at h1
  obtain ⟨_, hrun2, _⟩ := exists_run_of_any h1.2
  cases hrun2 with
  | @cons _ w₂ _ _ _ hstep =>
    have hsafe : Run (SafeStep digitVerifier) w₁ [sampleLateClaimed] w₂ :=
      .cons ⟨hstep, rfl⟩ (.nil w₂)
    exact ⟨w₁, w₂, hrun1, hstep,
      (withdrawn_confirmations_stay_withdrawn digitVerifier hrun1 hsafe h1.1 rfl).1⟩

end PromptDock
