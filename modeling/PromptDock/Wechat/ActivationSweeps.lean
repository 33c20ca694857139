import PromptDock.Wechat.WechatChannel

/-!
# Notifications that wait for an activation

A notification waits in `blocked_activation` for the channel to be activated, and
the hook that is called on an activation puts every such notification back.  The
hook sweeps once.  A notification that is parked after the sweep, with the channel
already activated, is not put back by it.

Two ways lead there.  The sender may have seen the channel before the activation
and record its outcome after the sweep (`late_record_parks`); and a second attempt
whose context was replaced meanwhile is parked although the channel is activated
all along (`finishTransition_parks_iff`).

`Timely` says when a step does neither, and `parked_only_when_deactivated` that a
run of such steps never leaves a notification behind.
-/

namespace PromptDock.Wechat

open RowTable TableStatement LabelledRun ChannelWorld OutboxService StoreAction.Action

/-! ## Parked rows -/

/-- Every row that waits for an activation has expired. -/
def Parkless (clock : Timestamp) (s : RelayStore) : Prop :=
  ∀ r ∈ s.notificationOutbox, r.status = .blockedActivation → r.expiresAt ≤ clock

instance (clock : Timestamp) (s : RelayStore) : Decidable (Parkless clock s) :=
  inferInstanceAs (Decidable (∀ r ∈ s.notificationOutbox, _))

/-- Rows stay expired. -/
theorem Parkless.mono {clock later : Timestamp} {s : RelayStore} (h : Parkless clock s)
    (hle : clock ≤ later) : Parkless later s := by
  intro r hr hpark
  exact Int.le_trans (h r hr hpark) hle

/-- No row is parked that was not before. -/
abbrev KeepsParkless (clock : Timestamp) (s s' : RelayStore) : Prop :=
  Parkless clock s → Parkless clock s'

variable {engine : RelayEngine} {now : Timestamp}

section

variable {ε : Type} {clock : Timestamp}

instance : Std.Refl (KeepsParkless clock) := ⟨fun _ hs => hs⟩

instance : IsTrans RelayStore (KeepsParkless clock) := ⟨fun _ _ _ h h' hs => h' (h hs)⟩

/-- A change to another status parks nothing. -/
theorem update_parkless {guard : RelayStore → OutboxRow → Bool} {change : OutboxRow → OutboxRow}
    (h : ∀ r, (change r).status ≠ .blockedActivation) : Keeps (KeepsParkless clock)
      (update engine RelayStore.outboxTable guard change : Relay ε Nat) := by
  refine update_keeps ?_
  exact fun s _ hs => forall_mem_updateWhere (fun r _ _ hpark => absurd hpark (h r)) hs

variable {s : RelayStore}

/-- A row enters the outbox pending. -/
theorem append_parkless {row : OutboxRow} (hrow : row.Entered) : KeepsParkless clock s
      (RelayStore.outboxTable.put s (RelayStore.outboxTable.rows s ++ [row])) := by
  refine fun hs => forall_mem_snoc hs fun hpark => ?_
  rw [hrow.pending] at hpark
  cases hpark

/-- A new row is not parked. -/
theorem stageOriginIn_parkless (blake3 : Blake3) (rowId : Uuid) (origin : OutboxOrigin)
    (n : RelayNotificationV1) (target : Option String) (sensitiveBody : Bool)
    (acceptedAt : Timestamp) : Keeps (KeepsParkless clock)
      (stageOriginIn engine blake3 rowId origin n target sensitiveBody acceptedAt) := by
  unfold stageOriginIn
  split
  · exact .reject _
  refine .bind ?_ fun inserted => ?_
  · exact insertUnless_keeps fun s _ _ => append_parkless stagedRow_entered
  refine .ite (.pure _) (.bind .read fun s => ?_)
  split
  · exact .ite (.pure _) (.reject _)
  · exact .reject _

/-- What an enqueueing transaction commits. -/
theorem commit_parkless {α : Type} {m : Relay ε α} (h : Keeps (KeepsParkless clock) m) :
    Keeps (KeepsParkless clock) (transaction do
        let a ← m
        pure (.commit a)) := by
  rw [transaction_commit]
  exact .allOrNothing h

theorem map_parkless {α β : Type} {m : Relay ε α} (h : Keeps (KeepsParkless clock) m) (f : α → β) :
    Keeps (KeepsParkless clock) (do
        let a ← m
        pure (f a)) :=
  .bind h fun a => .pure (f a)

theorem expire_parkless (guard : RelayStore → OutboxRow → Bool) : Keeps (KeepsParkless clock)
      (update engine RelayStore.outboxTable guard (OutboxRow.expire now) : Relay ε Nat) :=
  update_parkless fun _ => nofun

theorem requeueStaleAt_parkless : Keeps (KeepsParkless clock) (requeueStaleAt engine now) :=
  update_parkless fun _ => nofun

theorem insertResendNotice_parkless (rowId : Uuid) (notice : ResultNotice) :
    Keeps (KeepsParkless clock) (ResultService.insertResendNotice engine rowId notice now) := by
  refine .ite ?_ (.pure _)
  exact insertUnless_keeps fun s _ _ => append_parkless resultNotice_entered

/-- What the rest of the server does to the outbox parks nothing. -/
theorem outboxOp_parkless (blake3 : Blake3) {op : OutboxOp} (h : ofChannel op = false) :
    Keeps (KeepsParkless clock) (op.action engine blake3) := by
  cases op with
  | enqueueDevice =>
    refine map_parkless (.ite (.reject _) ?_) _
    exact commit_parkless (stageOriginIn_parkless _ _ _ _ _ _ _)
  | enqueueSystemReply =>
    refine map_parkless (commit_parkless (.ite (.reject _) ?_)) _
    exact stageOriginIn_parkless _ _ _ _ _ _ _
  | enqueueAdminTest =>
    exact map_parkless (commit_parkless (stageOriginIn_parkless _ _ _ _ _ _ _)) _
  | publishNotice =>
    refine map_parkless ?_ _
    exact .execute fun s _ => append_parkless resultNotice_entered
  | resendNotice rowId notice => exact map_parkless (insertResendNotice_parkless rowId notice) _
  | expireDue | expireClaimed => exact map_parkless (expire_parkless _) _
  | requeueStale => exact map_parkless (requeueStaleAt_parkless) _
  | recoverStale =>
    refine map_parkless (.bind (expire_parkless _) fun _ => ?_) _
    exact map_parkless (requeueStaleAt_parkless) _
  | revokeResult =>
    refine map_parkless (update_parkless ?_) _
    exact fun _ => nofun
  | claimReady | claimNext | finish | release | unblock => cases h

theorem claimReadyAt_parkless (token : Uuid) :
    Keeps (KeepsParkless clock) (claimReadyAt engine token now) := by
  refine .bind .read fun _ => map_parkless (update_parkless ?_) _
  exact fun _ => nofun

theorem releaseClaimAt_parkless (claim : ClaimedNotification) :
    Keeps (KeepsParkless clock) (releaseClaimAt engine claim now) := by
  have hrow : ∀ r : OutboxRow, (r.release now).status ≠ .blockedActivation := by
    intro r
    simp only [OutboxRow.release]
    split <;> simp
  exact map_parkless (update_parkless hrow) (· == 1)

/-- A claim that is finished otherwise than with `blocked_activation`. -/
theorem finishClaimAt_parkless {claim : ClaimedNotification} {outcome : ChannelOutcome}
    (h : ∀ reason, outcome = .failure reason →
      (finishTransition claim reason now).1 ≠ .blockedActivation) : Keeps (KeepsParkless clock)
      (finishClaimAt engine claim outcome now) := by
  have hrow : ∀ r, (finishChange claim outcome now r).status ≠ .blockedActivation := by
    intro r
    cases outcome with
    | accepted => exact nofun
    | failure reason => exact h reason rfl
  exact map_parkless (update_parkless hrow) (· == 1)

theorem unblockAt_parkless (block : ChannelBlock) :
    Keeps (KeepsParkless clock) (unblockAt engine block now) :=
  update_parkless fun _ => nofun

/-- A sweep that is carried out leaves no row parked that had not expired. -/
theorem unblockAt_sweeps (hruns : Succeeds (unblockAt engine .activation now) s)
    (hnow : now ≤ clock) : Parkless clock (unblockAt engine .activation now s).2 := by
  obtain ⟨n, s', hrun⟩ := hruns
  rw [hrun]
  obtain ⟨_, _, rfl⟩ := update_eq_ok.mp hrun
  intro r' hr' hpark
  obtain ⟨r, hr, ⟨_, rfl⟩ | ⟨hg, rfl⟩⟩ := mem_updateWhere.mp hr'
  · cases hpark
  have hstat : r'.status = ChannelBlock.activation.status := hpark
  rw [hstat] at hg
  simp only [decide_true, Bool.true_and, decide_eq_false_iff_not, Int.not_lt] at hg
  exact Int.le_trans hg hnow

end

/-! ## When a step leaves nothing behind -/

/-- The outcome of the delivery, if recorded now, parks its row. -/
def Delivery.parks (d : Delivery) (now : Timestamp) : Bool :=
  match d.phase with
  | .answered (.failure reason) =>
    reason != .cancelled && (finishTransition d.claim reason now).1 == .blockedActivation
  | _ => false

/-- Time goes forward; the sweep of an activation is carried out, at a time that
was read before; and a row is parked only while the channel is not activated, or
before the sweep of its activation. -/
def Timely (w : ChannelWorld) : RelayEngine × ChannelOp → Prop
  | (_, .tick time) => w.clock ≤ time
  | (engine, .monitor (.sweep now)) =>
    w.sweepDue = true →
      now ≤ w.clock ∧ Succeeds (unblockAt engine .activation now) w.store
  | (_, .delivery d (.record now)) =>
    d.parks now = true → w.activated = false ∨ w.sweepDue = true
  | _ => True

/-- Once the sweep of an activation is over, no row waits for it. -/
def Released (w : ChannelWorld) : Prop :=
  w.activated = true → w.sweepDue = false → Parkless w.clock w.store

section

variable {tools : WechatTools} {w w' : ChannelWorld}

/-- A step that parks nothing, and does not activate the channel without a
sweep to come. -/
theorem Released.of_keeps (hw : Released w) (hclock : w.clock ≤ w'.clock)
    (hstore : KeepsParkless w.clock w.store w'.store)
    (hactivated : w'.activated = true → w'.sweepDue = false →
      w.activated = true ∧ w.sweepDue = false) : Released w' := by
  intro hon hover
  obtain ⟨hon0, hover0⟩ := hactivated hon hover
  exact (hstore (hw hon0 hover0)).mono hclock

/-- A step that leaves store and clock alone. -/
theorem Released.of_same (hw : Released w) (hclock : w'.clock = w.clock)
    (hstore : w'.store = w.store) (hactivated : w'.activated = true → w'.sweepDue = false →
      w.activated = true ∧ w.sweepDue = false) : Released w' := by
  refine hw.of_keeps (Int.le_of_eq hclock.symm) ?_ hactivated
  rw [hstore]
  exact id

/-- A step after which the channel is not activated. -/
theorem released_of_deactivated (h : w'.activated = false) : Released w' := by
  intro hon
  rw [h] at hon
  cases hon

/-- A step of deliveries only. -/
theorem Released.withPhase (hw : Released w) (d : Delivery) (phase : DeliveryPhase) :
    Released (w.withPhase d phase) :=
  hw

/-- The settling of a delivery. -/
theorem Released.settle (hw : Released w) {d : Delivery} {m : Relay OutboxError Bool}
    (hm : Keeps (KeepsParkless w.clock) m) : Released (w.settle d m) :=
  hw.of_keeps (Int.le_refl _) (hm w.store) fun hon hover => ⟨hon, hover⟩

/-! ### The monitor -/

section

variable {worker : MonitorWorker} {s : SharedState} {errorCode : String} {bundle : ConnectionBundle}
  {s' shared : SharedState} {announce : Bool}

/-- A failure does not activate the channel. -/
theorem activated_of_setRetryFailure {failures : Nat}
    (h : (s.setRetryFailure failures errorCode).status.activated = true) :
    s.status.activated = true := by
  unfold SharedState.setRetryFailure at h
  split at h
  · exact h
  · cases h

theorem activated_of_setWorkerFailure (h : (s.setWorkerFailure errorCode).status.activated = true) :
    s.status.activated = true := by
  unfold SharedState.setWorkerFailure at h
  split at h
  · exact h
  · cases h

theorem setLastPoll_activated (now : Timestamp) :
    (s.setLastPoll now).status.activated = s.status.activated := by
  unfold SharedState.setLastPoll
  split <;> rfl

/-- A monitor that ends leaves the channel inactive. -/
theorem finishMonitor_activated : s.finishMonitor.status.activated = false := by
  unfold SharedState.finishMonitor
  split <;> rfl

/-- `set_active` that gives up leaves the channel deactivated. -/
theorem activated_of_setActive_none (h : s.setActive bundle = (none, s')) :
    s'.status.activated = false := by
  unfold SharedState.setActive at h
  split at h
  · cases h
    rfl
  · cases h

/-- The channel is activated by `set_active` only if that is announced. -/
theorem announce_of_setActive (h : s.setActive bundle = (some announce, s')) :
    announce = (!s.status.activated && s'.status.activated) := by
  unfold SharedState.setActive at h
  split at h
  · cases h
  · cases h
    rfl

/-- And by an update only if that tells so. -/
theorem commitUpdate_fst (current next : ConnectionBundle) (inbound : Bool) (now : Timestamp)
    (s : SharedState) : (s.commitUpdate current next inbound now).1 = (!s.status.activated &&
        (s.commitUpdate current next inbound now).2.status.activated) :=
  rfl

theorem sweepDue_of_worker (h : w.worker = some worker) : w.sweepDue = worker.phase.sweepDue := by
  rw [sweepDue, h]
  rfl

/-- The first statement of `activated`. -/
theorem released_of_sweep (hnow : now ≤ w.clock)
    (hruns : Succeeds (unblockAt engine .activation now) w.store)
    (hstore : w'.store = w.sweep engine .activation now) (hclock : w'.clock = w.clock) :
    Released w' := by
  intro _ _
  rw [hstore, hclock]
  exact unblockAt_sweeps hruns hnow

section

variable (hw : Released w) (hworker : w.worker = some worker)
  (hidle : worker.phase.sweepDue = false)

include hw hworker hidle

/-- A step of the worker that is not a sweep. -/
theorem Released.of_idle (hclock : w'.clock = w.clock) (hstore : w'.store = w.store)
    (hactivated : w'.activated = true → w'.sweepDue = false → w.activated = true) :
    Released w' := by
  refine hw.of_same hclock hstore fun hon hover => ⟨hactivated hon hover, ?_⟩
  rw [sweepDue_of_worker hworker]
  exact hidle

/-- An attempt that fails leaves rows released. -/
theorem Released.failing (errorCode : String) : Released (w.failing worker errorCode) :=
  hw.of_idle hworker hidle rfl rfl fun hon _ => activated_of_setRetryFailure hon

theorem Released.withWorker (phase : MonitorPhase) : Released (w.withWorker worker phase) :=
  hw.of_idle hworker hidle rfl rfl fun hon _ => hon

theorem Released.afterError (error : WechatHttpError) : Released (w.afterError worker error) := by
  unfold ChannelWorld.afterError
  split
  · exact hw.withWorker hworker hidle _
  split
  · exact released_of_deactivated rfl
  · exact hw.failing hworker hidle _

/-- The other statements of the hooks. -/
theorem Released.of_reconnect (phase : MonitorPhase) (now : Timestamp) :
    Released { w.withWorker worker phase with store := w.sweep engine .reconnect now } := by
  refine hw.of_keeps (Int.le_refl _) (unblockAt_parkless .reconnect w.store) ?_
  intro hon _
  refine ⟨hon, ?_⟩
  rw [sweepDue_of_worker hworker]
  exact hidle

end

/-- Only a sweep runs while one is due. -/
theorem monitorNext_idle {op : MonitorOp} (h : w.monitorNext engine tools worker op = some w') :
    (∃ now, op = .sweep now) ∨ worker.phase.sweepDue = false := by
  cases op <;> cases hph : worker.phase <;> simp_all [monitorNext, MonitorPhase.sweepDue]

section

variable (hworker : w.worker = some worker)

include hworker

/-- A timely sweep puts parked rows back. -/
theorem monitorNext_sweep_released (h : w.monitorNext engine tools worker (.sweep now) = some w')
    (htimely : Timely w (engine, .monitor (.sweep now))) (hw : Released w) : Released w' := by
  have hdue : worker.phase.sweepDue = true → now ≤ w.clock ∧
      Succeeds (unblockAt engine .activation now) w.store := by
    intro hdue
    apply htimely
    rw [sweepDue_of_worker hworker]
    exact hdue
  simp only [monitorNext] at h
  split at h
  · rename_i recovered hph
    obtain ⟨hnow, hruns⟩ := hdue (by rw [hph]; rfl)
    cases h
    exact released_of_sweep hnow hruns rfl rfl
  · rename_i recovered hph
    cases h
    exact hw.of_reconnect hworker (by rw [hph]; rfl) _ now
  · rename_i hph
    cases h
    exact hw.of_reconnect hworker (by rw [hph]; rfl) _ now
  · rename_i hph
    obtain ⟨hnow, hruns⟩ := hdue (by rw [hph]; rfl)
    cases h
    exact released_of_sweep hnow hruns rfl rfl
  · rename_i hph
    cases h
    exact hw.of_reconnect hworker (by rw [hph]; rfl) _ now
  · cases h

/-- The worker has connected.  If the channel became activated, the sweep is to
come; if it did not, it was activated before. -/
theorem notifyStart_released (hidle : worker.phase.sweepDue = false)
    (hact : w.shared.setActive worker.bundle = (some announce, shared)) (hw : Released w) : Released
      { w with
        shared := shared
        worker := some
          { worker with
            reconnecting := false
            phase :=
              if announce then .announcing .activation worker.reconnecting
              else .checking worker.reconnecting } } := by
  refine hw.of_idle hworker hidle rfl rfl fun hon hover => ?_
  have hannounce := announce_of_setActive hact
  cases announce with
  | true => cases hover
  | false =>
    have hshared : shared.status.activated = true := hon
    rw [hshared, Bool.and_true] at hannounce
    simpa [activated] using hannounce

/-- The same of an update. -/
theorem commit_released {next : ConnectionBundle} {inbound became : Bool}
    (hidle : worker.phase.sweepDue = false)
    (hcom : w.shared.commitUpdate worker.bundle next inbound now = (became, shared))
    (hw : Released w) : Released
      { w with
        shared := shared
        worker := some
          { worker with
            bundle := next, failures := 0,
            phase := if became then .releasing .activation else .polling } } := by
  refine hw.of_idle hworker hidle rfl rfl fun hon hover => ?_
  have hbecame := commitUpdate_fst worker.bundle next inbound now w.shared
  rw [hcom] at hbecame
  cases became with
  | true => cases hover
  | false =>
    have hshared : shared.status.activated = true := hon
    simp only [hshared] at hbecame
    simpa [activated] using hbecame

/-- Every step of the monitor keeps rows released. -/
theorem monitorNext_released {op : MonitorOp} (h : w.monitorNext engine tools worker op = some w')
    (htimely : Timely w (engine, .monitor op)) (hw : Released w) : Released w' := by
  obtain ⟨now, rfl⟩ | hidle := monitorNext_idle h
  · exact monitorNext_sweep_released hworker h htimely hw
  cases op with
  | sweep => exact monitorNext_sweep_released hworker h htimely hw
  | parse =>
    simp only [monitorNext] at h
    split at h
    · split at h
      · cases h
        exact hw.withWorker hworker hidle _
      · cases h
        exact released_of_deactivated rfl
    · cases h
  | notifyStart res =>
    simp only [monitorNext] at h
    split at h
    · cases res with
      | error error =>
        cases h
        exact hw.afterError hworker hidle error
      | ok _ =>
        simp only at h
        split at h
        · rename_i shared hact
          cases h
          exact released_of_deactivated (activated_of_setActive_none hact)
        · rename_i announce shared hact
          cases h
          exact notifyStart_released hworker hidle hact hw
    · cases h
  | check =>
    simp only [monitorNext] at h
    split at h
    · split at h <;> cases h <;> exact hw.withWorker hworker hidle _
    · cases h
  | getUpdates res now =>
    simp only [monitorNext] at h
    split at h
    · cases res with
      | error error =>
        cases h
        exact hw.afterError hworker hidle error
      | ok =>
        cases h
        refine hw.of_idle hworker hidle rfl rfl fun hon _ => ?_
        exact (setLastPoll_activated now).symm.trans hon
    · cases h
  | collect accepts now =>
    simp only [monitorNext] at h
    split at h
    · split at h
      · cases h
        exact hw.failing hworker hidle _
      rename_i update _
      split at h
      · cases h
        refine hw.of_idle hworker hidle rfl rfl fun hon _ => ?_
        have hshared : (if update.inbound then w.shared.setLastInbound now
            else w.shared).status.activated = true := hon
        split at hshared
        · exact hshared
        · exact hshared
      · split at h
        · cases h
          exact hw.failing hworker hidle _
        · cases h
          exact hw.withWorker hworker hidle _
    · cases h
  | save saved =>
    simp only [monitorNext] at h
    split at h
    · split at h
      · cases h
        exact hw.withWorker hworker hidle _
      · cases h
        exact hw.failing hworker hidle _
    · cases h
  | commit =>
    simp only [monitorNext] at h
    split at h
    · cases h
      exact commit_released hworker hidle rfl hw
    · cases h
  | retry =>
    obtain ⟨_, rfl⟩ := of_guard h
    exact hw.withWorker hworker hidle _
  | finish =>
    obtain ⟨_, rfl⟩ := of_guard h
    exact released_of_deactivated finishMonitor_activated
  | observe =>
    obtain ⟨_, rfl⟩ := of_guard h
    refine hw.of_idle hworker hidle rfl rfl fun hon _ => ?_
    have hshared : (if worker.cancelled then w.shared
        else w.shared.setWorkerFailure "WECHAT_MONITOR_WORKER_EXITED").status.activated =
          true := hon
    split at hshared
    · exact hshared
    · exact activated_of_setWorkerFailure hshared

end

end

/-! ### Deliveries -/

/-- The marks of a failed request only deactivate. -/
theorem activated_of_markFailure {snapshot : ConnectionSnapshot} {failure : ChannelFailure}
    {s : SharedState} (h : (markFailure snapshot failure s).2.status.activated = true) :
    s.status.activated = true := by
  have hreconnect : ∀ code, (s.markReconnectRequiredIfRevision snapshot.revision
      code).2.status.activated = true → s.status.activated = true := by
    intro code hmark
    unfold SharedState.markReconnectRequiredIfRevision at hmark
    split at hmark
    · exact hmark
    · cases hmark
  have hactivation : ∀ code, (s.markActivationRequiredIfRevision snapshot.revision
      code).2.status.activated = true → s.status.activated = true := by
    intro code hmark
    unfold SharedState.markActivationRequiredIfRevision at hmark
    split at hmark
    · exact hmark
    split at hmark
    · exact hmark
    · cases hmark
  unfold markFailure at h
  split at h
  · exact hreconnect _ h
  · exact hactivation _ h
  · exact hactivation _ h
  · exact h

variable {d : Delivery} {outcome : ChannelOutcome}

section

variable (hph : d.phase = .answered outcome) (hcanc : outcome ≠ .failure .cancelled)

include hph hcanc

/-- A recorded outcome that does not park its row. -/
theorem record_parkless {clock : Timestamp} (hparks : d.parks now = false) :
    Keeps (KeepsParkless clock) (finishClaimAt engine d.claim outcome now) := by
  refine finishClaimAt_parkless ?_
  rintro reason rfl hblock
  have hreason : (reason != .cancelled) = true := by
    simp only [bne_iff_ne]
    intro heq
    exact hcanc (by rw [heq])
  simp [Delivery.parks, hph, hreason, hblock] at hparks

/-- A row is parked only while the channel is not activated, or before its
sweep. -/
theorem record_released (htimely : Timely w (engine, .delivery d (.record now))) (hw : Released w) :
    Released (w.settle d (finishClaimAt engine d.claim outcome now)) := by
  cases hparks : d.parks now with
  | false => exact hw.settle (record_parkless hph hcanc hparks)
  | true =>
    intro hon hover
    rcases htimely hparks with hoff | hdue
    · exact absurd (hon.symm.trans hoff) nofun
    · exact absurd (hover.symm.trans hdue) nofun

end

/-- So does every step of a delivery. -/
theorem deliveryNext_released {op : DeliveryOp} (h : w.deliveryNext engine tools d op = some w')
    (htimely : Timely w (engine, .delivery d op)) (hw : Released w) : Released w' := by
  cases op with
  | look | hasConnection =>
    obtain ⟨_, rfl⟩ := of_guard h
    exact hw.withPhase d _
  | read =>
    simp only [deliveryNext] at h
    split at h
    · split at h
      · cases h
        exact hw.withPhase d _
      split at h
      · cases h
        exact hw.withPhase d _
      · cases h
        exact hw.withPhase d _
    · cases h
  | reply res =>
    simp only [deliveryNext] at h
    split at h
    · cases res with
      | ok | error =>
        cases h
        exact hw.withPhase d _
    · cases h
  | mark =>
    simp only [deliveryNext] at h
    split at h
    · cases h
      exact hw.of_same rfl rfl fun hon hover => ⟨activated_of_markFailure hon, hover⟩
    · cases h
  | record now =>
    simp only [deliveryNext] at h
    split at h
    · cases h
      exact hw.settle (releaseClaimAt_parkless d.claim)
    · rename_i outcome hcanc hph
      cases h
      exact record_released hph hcanc htimely hw
    · cases h
  | withhold =>
    obtain ⟨_, rfl⟩ := of_guard h
    refine hw.settle (finishClaimAt_parkless ?_)
    unfold finishTransition
    split
    · exact nofun
    · exact nofun
  | interrupt =>
    cases h
    exact hw.settle (releaseClaimAt_parkless d.claim)

/-! ### Any step -/

/-- So does every step of the channel. -/
theorem channelStep_released {op : RelayEngine × ChannelOp} (h : ChannelStep tools w op w')
    (htimely : Timely w op) (hw : Released w) : Released w' := by
  obtain ⟨engine, op⟩ := op
  unfold ChannelStep at h
  cases op with
  | tick =>
    cases h
    exact hw.of_keeps htimely id fun hon hover => ⟨hon, hover⟩
  | outbox op =>
    simp only [ChannelOp.next] at h
    split at h
    · cases h
    rename_i hop
    cases h
    refine hw.of_keeps (Int.le_refl _) ?_ fun hon hover => ⟨hon, hover⟩
    exact outboxOp_parkless tools.blake3 (by simpa using hop) w.store
  | claim token =>
    cases h
    exact hw.of_keeps (Int.le_refl _) (claimReadyAt_parkless token w.store)
      fun hon hover => ⟨hon, hover⟩
  | delivery =>
    simp only [ChannelOp.next] at h
    split at h
    · exact deliveryNext_released h htimely hw
    · cases h
  | monitor =>
    obtain ⟨worker, hworker, hnext⟩ := Option.bind_eq_some_iff.mp h
    exact monitorNext_released hworker hnext htimely hw
  | beginLifecycle =>
    obtain ⟨_, rfl⟩ := of_guard h
    refine hw.of_same rfl rfl fun hon hover => ⟨hon, ?_⟩
    simpa [sweepDue, Option.any_map] using hover
  | endLifecycle =>
    simp only [ChannelOp.next, endLifecycle] at h
    split at h
    all_goals cases h
    all_goals exact released_of_deactivated rfl
  | markReconnect =>
    cases h
    exact released_of_deactivated rfl
  | restart bundle =>
    cases h
    cases bundle <;> exact released_of_deactivated rfl

end

/-- A step that meets the condition. -/
def TimelyStep (tools : WechatTools) (w : ChannelWorld) (op : RelayEngine × ChannelOp)
    (w' : ChannelWorld) : Prop :=
  ChannelStep tools w op w' ∧ Timely w op

/-- **No notification is left waiting for an activation that has happened.**  In
every run of timely steps, from a start of the server on any store, whenever no
hook is under way and the channel is activated, every row in `blocked_activation`
has expired, whether deliveries are under way or not. -/
theorem parked_only_when_deactivated {tools : WechatTools} {store : RelayStore}
    {clock : Timestamp} {bundle : Option ConnectionBundle}
    {ops : List (RelayEngine × ChannelOp)} {w : ChannelWorld}
    (h : Run (TimelyStep tools) (.started store clock bundle) ops w)
    (hhook : w.inHook = false) (hon : w.activated = true) : Parkless w.clock w.store := by
  have hreleased : Released w := by
    refine h.invariant (I := Released) (fun _ _ _ hstep => ?_) ?_
    · exact channelStep_released hstep.1 hstep.2
    · cases bundle <;> exact released_of_deactivated rfl
  refine hreleased hon ?_
  cases hworker : w.worker with
  | none =>
    rw [sweepDue, hworker]
    rfl
  | some worker =>
    rw [inHook, hworker] at hhook
    rw [sweepDue_of_worker hworker]
    have hphase : worker.phase.inHook = false := hhook
    cases hdue : worker.phase.sweepDue with
    | false => rfl
    | true =>
      rw [MonitorPhase.sweepDue.eq_def] at hdue
      rw [MonitorPhase.inHook.eq_def] at hphase
      split at hdue <;> simp_all

/-! ## Runs to look at -/

instance (w : ChannelWorld) (op : RelayEngine × ChannelOp) : Decidable (Timely w op) := by
  unfold Timely
  split <;> infer_instance

/-- A connection that was activated before. -/
def sampleBundle : ConnectionBundle where
  schemaVersion := 1
  credentials := ⟨1, "token", "account", "user", "https://weixin", 0⟩
  session := ⟨1, "", some "context", some "user", some 0, []⟩

def sampleWechat : WechatTools := ⟨Blake3.zero, fun _ => true⟩

/-- A test notification as a worker claims it, at its first attempt. -/
def sampleClaim : ClaimedNotification :=
  let row := stagedRow .zero 1 .admin (adminTestNotification 2 0) none false 0
  claimedFromRow 3 { row with attemptCount := 1 }

/-- The notification is queued and claimed while the monitor starts, and the
sender finds the channel not activated. -/
def claimedWhileStarting : List ChannelOp :=
  [.outbox (.enqueueAdminTest 1 2 0), .beginLifecycle (.replaceBundle sampleBundle), .endLifecycle,
    .claim 3 0, .delivery ⟨sampleClaim, .asked⟩ .look,
    .delivery ⟨sampleClaim, .unready⟩ .hasConnection]

/-- The monitor connects, and calls the hook. -/
def activatedBySweep : List ChannelOp :=
  [.monitor .parse, .monitor (.notifyStart (.ok ())), .monitor (.sweep 0), .monitor (.sweep 0)]

/-- The worker records what the sender found. -/
def recordedUnready : ChannelOp :=
  .delivery ⟨sampleClaim, .answered (.failure .blockedActivation)⟩ (.record 0)

/-- On a database without faults. -/
def faultless (ops : List ChannelOp) : List (RelayEngine × ChannelOp) :=
  ops.map (sqlite, ·)

/-- The outcome is recorded after the sweep. -/
theorem late_record_parks : ∃ (ops : List (RelayEngine × ChannelOp)) (w : ChannelWorld),
      Run (ChannelStep sampleWechat) (.started .empty 0 none) ops w ∧
        w.deliveries = [] ∧ w.inHook = false ∧ w.activated = true ∧
          ¬ Parkless w.clock w.store :=
  ⟨faultless (claimedWhileStarting ++ activatedBySweep ++ [recordedUnready]),
    exists_run (by decide +kernel)⟩

/-- The outcome is recorded before the sweep, which puts the row back. -/
theorem parked_row_put_back : ∃ w : ChannelWorld,
      Run (TimelyStep sampleWechat) (.started .empty 0 none)
        (faultless (claimedWhileStarting ++ [recordedUnready] ++ activatedBySweep)) w ∧
      w.inHook = false ∧ w.activated = true ∧ Parkless w.clock w.store := by
  have hreplay : (replay (fun w op => if Timely w op then op.2.next op.1 sampleWechat w else none)
      (.started .empty 0 none)
      (faultless (claimedWhileStarting ++ [recordedUnready] ++ activatedBySweep))).any
      (fun w => decide (w.inHook = false ∧ w.activated = true)) = true := by
    decide +kernel
  obtain ⟨w, hrun, hend⟩ := exists_run_of_any hreplay
  obtain ⟨hhook, hon⟩ := of_decide_eq_true hend
  have htimely : Run (TimelyStep sampleWechat) (.started .empty 0 none)
      (faultless (claimedWhileStarting ++ [recordedUnready] ++ activatedBySweep)) w := by
    refine hrun.mono fun _ op _ hstep => ?_
    obtain ⟨hmeets, hnext⟩ := Option.ite_none_right_eq_some.mp hstep
    exact ⟨hnext, hmeets⟩
  exact ⟨w, htimely, hhook, hon, parked_only_when_deactivated htimely hhook hon⟩

end PromptDock.Wechat
