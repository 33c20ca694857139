import PromptDock.OutboxDelivery

/-!
# The life of one outbox row

`OutboxMove` lists everything that a statement may do to a row, with the guard
under which it does it.  Three facts are read off the moves and nothing else:

* `OutboxMove.sound` — a row carries a claim token exactly while it is being
  sent, and a sensitive row that reached its end is redacted;
* `OutboxMove.eq_of_terminal` — no move changes a row that reached its end;
* `OutboxMove.claimToken_cases` — a token is kept, cleared, or fresh.

Each operation of the outbox is then shown to be a sequence of such statements
(`OutboxSteps`), which touch no other table.
-/

namespace PromptDock

open RowTable TableStatement StoreAction.Action

/-- Everything that may happen to a row.  `fresh` are the tokens a claim may
use. -/
inductive OutboxMove (fresh : Uuid → Prop) : OutboxRow → OutboxRow → Prop where
  | stay (r : OutboxRow) : OutboxMove fresh r r
  | claim {r : OutboxRow} {token : Uuid} (now : Timestamp)
      (hclaimable : r.claimable = true) (hfresh : fresh token) :
      OutboxMove fresh r (r.claim token now)
  | expire {r : OutboxRow} (now : Timestamp) (hlive : r.status.terminal = false) :
      OutboxMove fresh r (r.expire now)
  | recover {r : OutboxRow} (now : Timestamp) (hsending : r.status = .sendingChannel) :
      OutboxMove fresh r (r.recover now)
  | release {r : OutboxRow} (now : Timestamp) (hsending : r.status = .sendingChannel) :
      OutboxMove fresh r (r.release now)
  | accept {r : OutboxRow} (providerMessageId : Option String) (now : Timestamp)
      (hsending : r.status = .sendingChannel) :
      OutboxMove fresh r (r.accept providerMessageId now)
  | fail {r : OutboxRow} {status : OutboxStatus} (nextAttemptAt : Option Timestamp)
      (errorCode : Option String) (now : Timestamp)
      (hsending : r.status = .sendingChannel)
      (hstatus : status ≠ .sendingChannel ∧ status ≠ .providerAccepted) :
      OutboxMove fresh r (r.fail status nextAttemptAt errorCode now)
  | unblock {r : OutboxRow} (now : Timestamp)
      (hblocked : r.status = .blockedActivation ∨ r.status = .blockedReconnect) :
      OutboxMove fresh r (r.unblock now)
  | revoke {r : OutboxRow} (now : Timestamp)
      (hwaiting : r.waiting = true) (hnotice : r.resultRowId.isSome = true) :
      OutboxMove fresh r (r.revoke now)

variable {r : OutboxRow}

namespace OutboxRow

/-- What every row satisfies. -/
structure Sound (r : OutboxRow) : Prop where
  claimed_iff : r.claimToken.isSome = true ↔ r.status = .sendingChannel
  notice_not_sensitive : r.resultRowId.isSome = true → r.sensitiveBody = false
  redacted : r.sensitiveBody = true → r.status.terminal = true → r.body = redactedBody

/-- What a row satisfies when it enters the outbox. -/
structure Entered (r : OutboxRow) : Prop where
  pending : r.status = .pendingChannel
  unclaimed : r.claimToken = none
  notice_not_sensitive : r.resultRowId.isSome = true → r.sensitiveBody = false

/-- A row is sound when it enters. -/
theorem Entered.sound (h : r.Entered) : r.Sound where
  claimed_iff := by simp [h.pending, h.unclaimed]
  notice_not_sensitive := h.notice_not_sensitive
  redacted := by simp [h.pending, OutboxStatus.terminal]

/-- Two statuses can be claimed. -/
theorem claimable_iff :
    r.claimable = true ↔ r.status = .pendingChannel ∨ r.status = .retryWait := by
  simp [claimable]

/-- Four statuses wait. -/
theorem waiting_iff : r.waiting = true ↔
      r.status = .pendingChannel ∨ r.status = .retryWait ∨ r.status = .blockedActivation ∨
        r.status = .blockedReconnect := by
  simp [waiting, claimable, or_assoc]

theorem not_terminal_of_waiting (h : r.waiting = true) : r.status.terminal = false := by
  rcases waiting_iff.mp h with h | h | h | h <;> simp [h, OutboxStatus.terminal]

theorem not_sending_of_waiting (h : r.waiting = true) : r.status ≠ .sendingChannel := by
  rcases waiting_iff.mp h with h | h | h | h <;> simp [h]

end OutboxRow

variable {fresh : Uuid → Prop}

namespace OutboxMove

variable {r' : OutboxRow}

section

variable (h : OutboxMove fresh r r')

include h

/-- A move keeps the row's id. -/
theorem id_eq : r'.id = r.id := by
  cases h <;> rfl

/-- No move changes a row that reached its end. -/
theorem eq_of_terminal (hend : r.status.terminal = true) : r' = r := by
  cases h with
  | stay => rfl
  | claim now hclaim =>
    rcases OutboxRow.claimable_iff.mp hclaim with h | h <;> simp [h, OutboxStatus.terminal] at hend
  | expire now hlive => simp [hlive] at hend
  | recover now hsend | release now hsend | accept pid now hsend
  | fail next code now hsend => simp [hsend, OutboxStatus.terminal] at hend
  | unblock now hblock => rcases hblock with h | h <;> simp [h, OutboxStatus.terminal] at hend
  | revoke now hwait =>
    rw [OutboxRow.not_terminal_of_waiting hwait] at hend
    cases hend

/-- A token is kept, cleared, or fresh. -/
theorem claimToken_cases : r'.claimToken = r.claimToken ∨ r'.claimToken = none ∨
      ∃ token, r'.claimToken = some token ∧ fresh token := by
  cases h with
  | stay | unblock | revoke => exact .inl rfl
  | claim now hclaim hfresh => exact .inr (.inr ⟨_, rfl, hfresh⟩)
  | expire | recover | release | accept | fail => exact .inr (.inl rfl)

/-- The flag and the result of a row are fixed. -/
theorem fixed_columns : r'.sensitiveBody = r.sensitiveBody ∧ r'.resultRowId = r.resultRowId := by
  cases h <;> exact ⟨rfl, rfl⟩

/-- So is the name under which it was entered. -/
theorem name_eq : r'.originKey = r.originKey ∧ r'.notificationId = r.notificationId := by
  cases h <;> exact ⟨rfl, rfl⟩

end

/-- A row without a token is not being sent. -/
private theorem claimed_iff_of_cleared (htok : r.claimToken = none)
    (hstat : r.status ≠ .sendingChannel) :
    r.claimToken.isSome = true ↔ r.status = .sendingChannel := by
  simp [htok, hstat]

/-- A row carries a token exactly while it is being sent. -/
theorem claimed_iff (h : OutboxMove fresh r r')
    (hr : r.claimToken.isSome = true ↔ r.status = .sendingChannel) :
    r'.claimToken.isSome = true ↔ r'.status = .sendingChannel := by
  cases h with
  | stay => exact hr
  | claim => simp [OutboxRow.claim]
  | expire => exact claimed_iff_of_cleared rfl (by simp [OutboxRow.expire])
  | recover => exact claimed_iff_of_cleared rfl (by simp [OutboxRow.recover])
  | release now => by_cases hexp : r.expiresAt ≤ now <;> simp [OutboxRow.release, hexp]
  | accept => exact claimed_iff_of_cleared rfl (by simp [OutboxRow.accept])
  | fail next code now hsend hstat => exact claimed_iff_of_cleared rfl hstat.1
  | unblock now hblock =>
    -- the token is not touched; a blocked row has none
    have hnone : ¬ r.claimToken.isSome = true := by
      rw [hr]
      rcases hblock with h | h <;> simp [h]
    simpa [OutboxRow.unblock] using hnone
  | revoke now hwait =>
    have hnone : ¬ r.claimToken.isSome = true := by
      rw [hr]
      exact OutboxRow.not_sending_of_waiting hwait
    simpa [OutboxRow.revoke] using hnone

/-- A sensitive row that reached its end is redacted.  Every move to an end
redacts, except a revocation, which only meets rows of results. -/
theorem redacted (h : OutboxMove fresh r r') (hr : r.Sound)
    (hsensitive : r'.sensitiveBody = true) (hend : r'.status.terminal = true) :
    r'.body = redactedBody := by
  have hflag : r.sensitiveBody = true := h.fixed_columns.1 ▸ hsensitive
  cases h with
  | stay => exact hr.redacted hsensitive hend
  | claim => simp [OutboxRow.claim, OutboxStatus.terminal] at hend
  | expire => simp [OutboxRow.expire, OutboxRow.terminalBody, hflag]
  | recover => simp [OutboxRow.recover, OutboxStatus.terminal] at hend
  | release now =>
    by_cases hexp : r.expiresAt ≤ now
    · simp [OutboxRow.release, hflag, hexp]
    · simp [OutboxRow.release, hexp, OutboxStatus.terminal] at hend
  | accept => simp [OutboxRow.accept, OutboxRow.terminalBody, hflag]
  | @fail status =>
    have hredacts : status = .expired ∨ status = .deadLetter ∨ status = .cancelled := by
      cases status <;> simp_all [OutboxRow.fail, OutboxStatus.terminal]
    rcases hredacts with h | h | h <;> simp [OutboxRow.fail, hflag, h]
  | unblock => simp [OutboxRow.unblock, OutboxStatus.terminal] at hend
  | revoke now hwait hnot =>
    rw [hr.notice_not_sensitive hnot] at hflag
    cases hflag

/-- A move keeps a row sound. -/
theorem sound (h : OutboxMove fresh r r') (hr : r.Sound) : r'.Sound where
  claimed_iff := h.claimed_iff hr.claimed_iff
  notice_not_sensitive := by
    rw [h.fixed_columns.1, h.fixed_columns.2]
    exact hr.notice_not_sensitive
  redacted := h.redacted hr

end OutboxMove

/-! ## Statements on the table -/

/-- One statement of the outbox: each row moves or is new, each row is still
there, and no other table is touched.  `enters` are the rows that may be new. -/
structure OutboxStatement (fresh : Uuid → Prop) (enters : OutboxRow → Prop)
    (s s' : RelayStore) : Prop where
  check : s'.check = true
  rows : RowStep OutboxRow.id (OutboxMove fresh) (fun r => r.Entered ∧ enters r)
    s.notificationOutbox s'.notificationOutbox
  fate : RowFate OutboxRow.id (OutboxMove fresh) (fun _ => False)
    s.notificationOutbox s'.notificationOutbox
  frame : s' = { s with notificationOutbox := s'.notificationOutbox }

variable {s : RelayStore}

/-- The check gives the row invariants back. -/
theorem OutboxStatement.valid {enters : OutboxRow → Prop}
    {s' : RelayStore} (h : OutboxStatement fresh enters s s') : s'.Valid :=
  RelayStore.valid_of_check h.check

/-- Any number of statements. -/
abbrev OutboxSteps (fresh : Uuid → Prop) (enters : OutboxRow → Prop) :
    RelayStore → RelayStore → Prop :=
  Relation.ReflTransGen (OutboxStatement fresh enters)

variable {enters : OutboxRow → Prop}

namespace OutboxSteps

variable {s s' : RelayStore}

section

variable (h : OutboxSteps fresh enters s s')

include h

/-- Statements keep the row invariants. -/
theorem valid (hs : s.Valid) : s'.Valid := by
  induction h with
  | refl => exact hs
  | tail _ hlast => exact hlast.valid

/-- An invariant of rows that the moves keep is kept by any statements. -/
theorem forall_mem {I : OutboxRow → Prop}
    (hrows : ∀ r ∈ s.notificationOutbox, I r) (hmove : ∀ r r', I r → OutboxMove fresh r r' → I r')
    (hentered : ∀ r : OutboxRow, r.Entered → I r) : ∀ r ∈ s'.notificationOutbox, I r := by
  induction h with
  | refl => exact hrows
  | tail _ hlast ih => exact hlast.rows.forall_mem ih hmove fun r hr => hentered r hr.1

/-- A row that reached its end stays as it is. -/
theorem mem_of_terminal (hr : r ∈ s.notificationOutbox) (hend : r.status.terminal = true) :
    r ∈ s'.notificationOutbox := by
  induction h with
  | refl => exact hr
  | tail _ hlast ih => exact hlast.fate.mem_of_fixed ih (fun r' hm => hm.eq_of_terminal hend) id

/-- Statements keep the check of the schema. -/
theorem check (hs : s.check = true) : s'.check = true := by
  rcases h.cases_tail with rfl | ⟨_, _, hlast⟩
  · exact hs
  · exact hlast.check

/-- Every row was there under its id, or entered. -/
theorem row_ids : ∀ r ∈ s'.notificationOutbox, (∃ r0 ∈ s.notificationOutbox, r0.id = r.id) ∨
      ∃ r0, enters r0 ∧ r0.id = r.id := by
  induction h with
  | refl => exact fun r hr => .inl ⟨r, hr, rfl⟩
  | tail _ hlast ih =>
    intro r hr
    rcases hlast.rows r hr with ⟨r1, hr1, hid, _⟩ | ⟨_, _, hnew⟩
    · rw [← hid]
      exact ih r1 hr1
    · exact .inr ⟨r, hnew, rfl⟩

end

end OutboxSteps

section

variable {ε : Type} {engine : RelayEngine}

instance : Std.Refl (OutboxSteps fresh enters) := ⟨fun _ => .refl⟩

instance : IsTrans RelayStore (OutboxSteps fresh enters) := ⟨fun _ _ _ h h' => h.trans h'⟩

variable {change : OutboxRow → OutboxRow} {blake3 : Blake3} {rowId deviceId testId token : Uuid}
  {origin : OutboxOrigin} {n : RelayNotificationV1} {target : Option String} {sensitiveBody : Bool}
  {reply : InteractiveReplyV1} {notice : ResultNotice} {claim : ClaimedNotification}
  {acceptedAt now : Timestamp}

/-- An update whose change is a move, wherever its guard holds. -/
theorem update_outboxSteps {guard : RelayStore → OutboxRow → Bool}
    (hmove : ∀ s r, guard s r = true → OutboxMove fresh r (change r)) :
    Keeps (OutboxSteps fresh enters)
      (update engine RelayStore.outboxTable guard change : Relay ε Nat) := by
  refine update_keeps fun s hchk => .single ?_
  have hrow : ∀ r ∈ s.notificationOutbox, guard s r = true →
      r.id = (change r).id ∧ OutboxMove fresh r (change r) :=
    fun r _ hg => ⟨(hmove s r hg).id_eq.symm, hmove s r hg⟩
  exact
    { check := hchk, rows := .update .stay hrow, fate := .update .stay hrow, frame := rfl }

/-- An insert of a row that enters the outbox.  Its id is new, since the schema
accepted it. -/
theorem outboxStatement_insert {row : OutboxRow} (hentered : row.Entered)
    (henter : enters row) (hchk : RelayStore.check
      (RelayStore.outboxTable.put s (RelayStore.outboxTable.rows s ++ [row])) = true) :
    OutboxStatement fresh enters s
      (RelayStore.outboxTable.put s (RelayStore.outboxTable.rows s ++ [row])) := by
  have hvalid := RelayStore.valid_of_check hchk
  exact
    { check := hchk, rows := .insert .stay hvalid.outboxIds.key_new ⟨hentered, henter⟩,
      fate := .insert .stay _ _, frame := rfl }

/-- A staged row enters unclaimed. -/
theorem stagedRow_entered :
    (stagedRow blake3 rowId origin n target sensitiveBody acceptedAt).Entered where
  pending := rfl
  unclaimed := rfl
  notice_not_sensitive := by simp [stagedRow]

/-- A result notice enters unclaimed. -/
theorem resultNotice_entered : (notice.row rowId now).Entered where
  pending := rfl
  unclaimed := rfl
  notice_not_sensitive := fun _ => rfl

/-! ## Operations -/

/-- The row of an interactive reply. -/
abbrev replyRow (blake3 : Blake3) (rowId : Uuid) (reply : InteractiveReplyV1)
    (acceptedAt : Timestamp) : OutboxRow :=
  stagedRow blake3 rowId .systemInteractive reply.notification
    (some reply.targetAccountFingerprint) reply.sensitiveBody acceptedAt

/-- The row of a test notification. -/
abbrev adminTestRow (blake3 : Blake3) (rowId testId : Uuid) (acceptedAt : Timestamp) : OutboxRow :=
  stagedRow blake3 rowId .admin (adminTestNotification testId acceptedAt) none false acceptedAt

/-- Staging inserts one row, or none if the key is known. -/
theorem stageOriginIn_steps
    (henter : enters (stagedRow blake3 rowId origin n target sensitiveBody acceptedAt)) :
    Keeps (OutboxSteps fresh enters)
      (stageOriginIn engine blake3 rowId origin n target sensitiveBody acceptedAt) := by
  unfold stageOriginIn
  split
  · exact .reject _
  refine .bind ?_ fun inserted => ?_
  · exact insertUnless_keeps fun s _ hchk =>
      .single (outboxStatement_insert stagedRow_entered henter hchk)
  split
  · exact .pure _
  refine .bind .read fun s => ?_
  split
  · split
    · exact .pure _
    · exact .reject _
  · exact .reject _

theorem OutboxService.stageSystemReplyIn_steps
    (henter : enters (replyRow blake3 rowId reply acceptedAt)) : Keeps (OutboxSteps fresh enters)
      (stageSystemReplyIn engine blake3 rowId reply acceptedAt) := by
  unfold stageSystemReplyIn
  split
  · exact .reject _
  · exact stageOriginIn_steps henter

/-- Committing adds no move. -/
private theorem transaction_commit_steps {α : Type} {m : Relay ε α}
    (h : Keeps (OutboxSteps fresh enters) m) : Keeps (OutboxSteps fresh enters) (transaction do
        let a ← m
        pure (.commit a)) :=
  .transaction (.bind h fun _ => .pure _)

theorem OutboxService.enqueueDeviceAt_steps
    (henter : enters (stagedRow blake3 rowId (.device deviceId) n none false acceptedAt)) :
    Keeps (OutboxSteps fresh enters)
      (enqueueDeviceAt engine blake3 rowId deviceId n acceptedAt) := by
  unfold enqueueDeviceAt
  split
  · exact .reject _
  · exact transaction_commit_steps (stageOriginIn_steps henter)

theorem OutboxService.enqueueSystemReplyAt_steps
    (henter : enters (replyRow blake3 rowId reply acceptedAt)) : Keeps (OutboxSteps fresh enters)
      (enqueueSystemReplyAt engine blake3 rowId reply acceptedAt) :=
  transaction_commit_steps (stageSystemReplyIn_steps henter)

theorem OutboxService.enqueueAdminTestAt_steps
    (henter : enters (adminTestRow blake3 rowId testId acceptedAt)) :
    Keeps (OutboxSteps fresh enters) (enqueueAdminTestAt engine blake3 rowId testId acceptedAt) :=
  transaction_commit_steps (stageOriginIn_steps henter)

theorem ResultService.insertPublishedNotice_steps (henter : enters (notice.row rowId now)) :
    Keeps (OutboxSteps fresh enters)
      (ResultService.insertPublishedNotice engine rowId notice now) :=
  .execute fun _ hchk =>
    .single (outboxStatement_insert resultNotice_entered henter hchk)

theorem ResultService.insertResendNotice_steps (henter : enters (notice.row rowId now)) :
    Keeps (OutboxSteps fresh enters)
      (ResultService.insertResendNotice engine rowId notice now) := by
  unfold ResultService.insertResendNotice
  simp only
  split
  · exact insertUnless_keeps fun s _ hchk =>
      .single (outboxStatement_insert resultNotice_entered henter hchk)
  · exact .pure _

/-- Expired rows lose their bodies. -/
theorem OutboxService.expireDueAt_steps :
    Keeps (OutboxSteps fresh enters) (expireDueAt engine now) := by
  refine update_outboxSteps fun s r hg => .expire now ?_
  simp only [Bool.and_eq_true] at hg
  exact OutboxRow.not_terminal_of_waiting hg.2

/-- A waiting row is claimed under a fresh token. -/
theorem OutboxService.claimReadyAt_steps (hfresh : fresh token) :
    Keeps (OutboxSteps fresh enters) (claimReadyAt engine token now) := by
  refine .bind .read fun _ => ?_
  refine .bind ?_ fun _ => .pure _
  refine update_outboxSteps fun s r hg => .claim now ?_ hfresh
  simp only [nextReady, Bool.and_eq_true] at hg
  exact hg.2

theorem OutboxService.claimNextAt_steps (hfresh : fresh token) :
    Keeps (OutboxSteps fresh enters) (claimNextAt engine token now) :=
  .bind expireDueAt_steps fun _ =>
    claimReadyAt_steps hfresh

theorem OutboxService.expireClaimedAt_steps :
    Keeps (OutboxSteps fresh enters) (expireClaimedAt engine now) := by
  refine update_outboxSteps fun s r hg => .expire now ?_
  simp only [Bool.and_eq_true, decide_eq_true_eq] at hg
  rw [hg.1]
  rfl

/-- Stale claims go back to the queue. -/
theorem OutboxService.requeueStaleAt_steps :
    Keeps (OutboxSteps fresh enters) (requeueStaleAt engine now) := by
  refine update_outboxSteps fun s r hg => .recover now ?_
  simp only [Bool.and_eq_true, decide_eq_true_eq] at hg
  exact hg.1.1

theorem OutboxService.recoverStaleClaimsAt_steps :
    Keeps (OutboxSteps fresh enters) (recoverStaleClaimsAt engine now) :=
  .bind expireClaimedAt_steps fun _ =>
    .bind requeueStaleAt_steps fun _ =>
      .pure _

/-- The guard on a claimed row. -/
theorem OutboxRow.heldBy_iff : r.heldBy rowId token = true ↔
      r.id = rowId ∧ r.status = .sendingChannel ∧ r.claimToken = some token := by
  simp [OutboxRow.heldBy, and_assoc]

/-- Settling a claim is one move of the row it holds. -/
theorem OutboxService.settleClaim_steps
    (hmove : ∀ r, r.status = .sendingChannel → OutboxMove fresh r (change r)) :
    Keeps (OutboxSteps fresh enters) (settleClaim engine claim change) :=
  .bind (update_outboxSteps fun _ r hg => hmove r (OutboxRow.heldBy_iff.mp hg).2.1) fun _ => .pure _

/-- A released row waits again. -/
theorem OutboxService.releaseClaimAt_steps :
    Keeps (OutboxSteps fresh enters) (releaseClaimAt engine claim now) :=
  settleClaim_steps fun _ => .release now

/-- A failed attempt leaves the row waiting, or ends it unaccepted. -/
theorem failureTransition_status (reason : ChannelFailure) (attemptCount : Int) :
    (failureTransition reason attemptCount now).1 ≠ .sendingChannel ∧
      (failureTransition reason attemptCount now).1 ≠ .providerAccepted := by
  cases reason with
  | retryable retryClass => cases retryClass <;> simp only [failureTransition] <;> split <;> simp
  | _ => simp [failureTransition]

/-- A failure neither keeps the claim nor delivers. -/
theorem finishTransition_status (reason : ChannelFailure) :
    (finishTransition claim reason now).1 ≠ .sendingChannel ∧
      (finishTransition claim reason now).1 ≠ .providerAccepted := by
  unfold finishTransition
  split
  · simp
  simp only
  split
  · simp
  · exact failureTransition_status ..

/-- Only the holder's row is finished. -/
theorem OutboxService.finishClaimAt_steps (outcome : ChannelOutcome) :
    Keeps (OutboxSteps fresh enters) (finishClaimAt engine claim outcome now) := by
  refine settleClaim_steps fun r hsend => ?_
  cases outcome with
  | accepted providerMessageId => exact .accept providerMessageId now hsend
  | failure reason => exact .fail _ _ now hsend (finishTransition_status reason)

/-- Unblocked rows wait for the channel. -/
theorem OutboxService.unblockAt_steps (block : ChannelBlock) :
    Keeps (OutboxSteps fresh enters) (unblockAt engine block now) := by
  refine update_outboxSteps fun s r hg => .unblock now ?_
  simp only [Bool.and_eq_true, decide_eq_true_eq] at hg
  cases block with
  | activation => exact .inl hg.1
  | reconnect => exact .inr hg.1

/-- The waiting notices of a revoked result end. -/
theorem ResultService.cancelResultNotices_steps (resultRowId : Uuid) :
    Keeps (OutboxSteps fresh enters)
      (ResultService.cancelResultNotices engine resultRowId now) := by
  refine update_outboxSteps fun s r hg => ?_
  simp only [Bool.and_eq_true, beq_iff_eq] at hg
  exact .revoke now hg.2 (by simp [hg.1.1.1])

end

end PromptDock
