import PromptDock.RelayRuns

/-!
# One reply to each message

Queueing the reply of a command is one transaction: the notification enters the
outbox and the command ends, or neither happens.  `Replied` says what such a
transaction did; every other outcome of the three queueing operations leaves
the store as it was.

`each_message_is_answered_once` — over any interleaving, a message is answered
at most once, its reply enters the outbox in the step that ends the command, a
stale claim changes nothing, and a command that ended stays as it is.
-/

namespace PromptDock

open RowTable StoreAction TableStatement LabelledRun Action RelayOp List

/-! ## Staging a reply -/

variable {engine : RelayEngine} {blake3 : Blake3} {rowId : Uuid} {s s' : RelayStore}

section

variable {acceptedAt : Timestamp} {accepted : AcceptedNotification}

/-- A notification enters the outbox, or one with its id is there already. -/
theorem stageOriginIn_eq_ok {origin : OutboxOrigin} {n : RelayNotificationV1}
    {target : Option String} {sensitiveBody : Bool}
    (h : stageOriginIn engine blake3 rowId origin n target sensitiveBody acceptedAt s =
      (.ok accepted, s')) : accepted.notificationId = n.notificationId ∧
      (s' = { s with notificationOutbox := s.notificationOutbox ++
          [stagedRow blake3 rowId origin n target sensitiveBody acceptedAt] } ∨
        s' = s ∧ ∃ o ∈ s.notificationOutbox,
          o.originKey = origin.key ∧ o.notificationId = n.notificationId) := by
  unfold stageOriginIn at h
  split at h
  · cases h
  obtain ⟨inserted, s1, hins, hrest⟩ := bind_eq_ok.mp h
  rcases insertUnless_eq_ok.mp hins with ⟨_, rfl, rfl⟩ | ⟨_, rfl, _, rfl⟩
  · simp only [Nat.reduceBEq, Bool.false_eq_true, if_false, read_bind_run] at hrest
    rcases hfilter : s1.notificationOutbox.filter (collides origin n) with
      _ | ⟨existing, _ | ⟨other, rest⟩⟩
    · simp [hfilter] at hrest
    · have hmem : existing ∈ s1.notificationOutbox.filter (collides origin n) := by
        rw [hfilter]
        exact mem_singleton_self existing
      obtain ⟨hrow, hcoll⟩ := mem_filter.mp hmem
      simp only [collides, Bool.and_eq_true, beq_iff_eq] at hcoll
      simp only [hfilter] at hrest
      split at hrest
      · rename_i hsame
        simp only [Bool.and_eq_true, beq_iff_eq] at hsame
        cases hrest
        exact ⟨rfl, .inr ⟨rfl, existing, hrow, hcoll.1, hsame.1.1⟩⟩
      · cases hrest
    · simp [hfilter] at hrest
  · cases hrest
    exact ⟨rfl, .inl rfl⟩

/-- A staged reply is added, or was there. -/
theorem stageSystemReplyIn_eq_ok {reply : InteractiveReplyV1}
    (h : OutboxService.stageSystemReplyIn engine blake3 rowId reply acceptedAt s =
      (.ok accepted, s')) : accepted.notificationId = reply.notificationId ∧
      (s' = { s with notificationOutbox := s.notificationOutbox ++
          [replyRow blake3 rowId reply acceptedAt] } ∨
        s' = s ∧ ∃ o ∈ s.notificationOutbox, o.originKey = systemInteractiveOriginKey ∧
            o.notificationId = reply.notificationId) := by
  unfold OutboxService.stageSystemReplyIn at h
  split at h
  · cases h
  · exact stageOriginIn_eq_ok h

end

/-! ## Queueing a reply -/

/-- The claim holds its command, unexpired. -/
def repliesUnder (claim : ClaimedInboundCommand) (now : Timestamp) (r : InboundRow) : Bool :=
  r.heldBy claim.messageKey claim.claimToken && now < r.expiresAt

/-- The command of the claim was ended with its reply. -/
structure Replied (blake3 : Blake3) (rowId : Uuid) (claim : ClaimedInboundCommand)
    (reply : InteractiveReplyV1) (now : Timestamp) (s s' : RelayStore) : Prop where
  held : ∃ c ∈ s.inboundCommands, repliesUnder claim now c = true
  inbound : s'.inboundCommands =
    updateWhere (repliesUnder claim now) (InboundRow.queueReply reply.notificationId now)
      s.inboundCommands
  outbox : s'.notificationOutbox =
      s.notificationOutbox ++ [replyRow blake3 rowId reply now] ∨
    s'.notificationOutbox = s.notificationOutbox ∧ ∃ o ∈ s.notificationOutbox,
      o.originKey = systemInteractiveOriginKey ∧ o.notificationId = reply.notificationId

/-- The outbox and the commands are the same. -/
def RelayStore.SameQueues (s s' : RelayStore) : Prop :=
  s'.notificationOutbox = s.notificationOutbox ∧ s'.inboundCommands = s.inboundCommands

instance : Std.Refl RelayStore.SameQueues := ⟨fun _ => ⟨rfl, rfl⟩⟩

instance : IsTrans RelayStore RelayStore.SameQueues :=
  ⟨fun _ _ _ h h' => ⟨h'.1.trans h.1, h'.2.trans h.2⟩⟩

variable {claim : ClaimedInboundCommand} {reply : InteractiveReplyV1} {now : Timestamp}

namespace InboundCommandService

variable {s1 s3 : RelayStore}

/-- A queueing operation changes nothing, or it ended the command with its
reply and says so. -/
def RepliesOrNothing (blake3 : Blake3) (rowId : Uuid) (claim : ClaimedInboundCommand)
    (reply : InteractiveReplyV1) (now : Timestamp) (s : RelayStore)
    (outcome : Except (Failure InboundWorkerError) Bool × RelayStore) : Prop :=
  outcome.1 ≠ .ok true ∧ outcome.2 = s ∨
    outcome.1 = .ok true ∧ Replied blake3 rowId claim reply now s outcome.2

/-- The end of a queueing transaction: staging, then anything that leaves both queues
alone, then ending the command. -/
theorem repliesOrNothing_of_parts {accepted : AcceptedNotification} {s0 s2 : RelayStore}
    {updated : Bool} {finish : Finish Bool} (hpre : s.SameQueues s0)
    (hstage : orReject InboundWorkerError.outbox
      (OutboxService.stageSystemReplyIn engine blake3 rowId reply now) s0 = (.ok accepted, s1))
    (hbetween : s1.SameQueues s2)
    (hend : endWithReply engine claim accepted.notificationId now s2 = (.ok updated, s3))
    (hcom : ((if updated then pure (.commit true) else pure (.rollback false)) :
      Relay InboundWorkerError (Finish Bool)) s3 = (.ok finish, s')) :
    RepliesOrNothing blake3 rowId claim reply now s (finishOutcome s s' finish) := by
  obtain ⟨rfl, rfl⟩ := commitIf_eq_ok.mp hcom
  cases updated with
  | false => exact .inl ⟨by simp [finishOutcome], rfl⟩
  | true =>
    refine .inr ⟨rfl, ?_⟩
    obtain ⟨hid, hstg⟩ := stageSystemReplyIn_eq_ok (orReject_eq_ok.mp hstage)
    obtain ⟨_, hone, rfl⟩ := updateOne_eq_true.mp hend
    rw [hid]
    have hcommands : s2.inboundCommands = s.inboundCommands := by
      rcases hstg with rfl | ⟨rfl, _⟩
      · exact hbetween.2.trans hpre.2
      · exact hbetween.2.trans hpre.2
    obtain ⟨c, hc, hheld⟩ := affected_pos.mp (hone ▸ Nat.one_pos)
    refine ⟨⟨c, hcommands ▸ hc, hheld⟩, ?_, ?_⟩
    · show updateWhere _ _ s2.inboundCommands = _
      rw [hcommands]
      rfl
    show s2.notificationOutbox = _ ∨ s2.notificationOutbox = _ ∧ _
    rw [hbetween.1, ← hpre.1]
    rcases hstg with rfl | ⟨rfl, hold⟩
    · exact .inl rfl
    · exact .inr ⟨rfl, hold⟩

/-- A transaction replies or leaves the store as it was. -/
theorem repliesOrNothing_of_transaction {body : Relay InboundWorkerError (Finish Bool)}
    (hbody : ∀ finish s', body s = (.ok finish, s') →
      RepliesOrNothing blake3 rowId claim reply now s (finishOutcome s s' finish)) :
    RepliesOrNothing blake3 rowId claim reply now s (transaction body s) :=
  transaction_rule (P := RepliesOrNothing blake3 rowId claim reply now s)
    (fun _ => .inl ⟨by simp, rfl⟩) hbody

/-- A reply is queued whole or not at all. -/
theorem queueReplyAt_cases : RepliesOrNothing blake3 rowId claim reply now s
      (queueReplyAt engine blake3 rowId claim reply now s) := by
  unfold queueReplyAt
  split
  · exact .inl ⟨by simp, rfl⟩
  refine repliesOrNothing_of_transaction fun finish s' hbody => ?_
  obtain ⟨accepted, s1, hstage, hbody⟩ := bind_eq_ok.mp hbody
  obtain ⟨updated, s2, hend, hcom⟩ := bind_eq_ok.mp hbody
  exact repliesOrNothing_of_parts ⟨rfl, rfl⟩ hstage ⟨rfl, rfl⟩ hend hcom

theorem confirmationTable_put_sameQueues (s : RelayStore) (rows : List ConfirmationRow)
    (_ : (RelayStore.confirmationTable.put s rows).check = true) :
    s.SameQueues (RelayStore.confirmationTable.put s rows) :=
  ⟨rfl, rfl⟩

/-- So is one with a confirmation. -/
theorem queueReplyWithConfirmationAt_cases {conf : PendingConfirmation} :
    RepliesOrNothing blake3 rowId claim reply now s
      (queueReplyWithConfirmationAt engine blake3 rowId claim reply conf now s) := by
  unfold queueReplyWithConfirmationAt
  split
  · exact .inl ⟨by simp, rfl⟩
  refine repliesOrNothing_of_transaction fun finish s' hbody => ?_
  obtain ⟨_, s1, hdel, hbody⟩ := bind_eq_ok.mp hbody
  obtain ⟨_, s2, hcanc, hbody⟩ := bind_eq_ok.mp hbody
  obtain ⟨_, s3, hins, hbody⟩ := bind_eq_ok.mp hbody
  obtain ⟨accepted, s4, hstage, hbody⟩ := bind_eq_ok.mp hbody
  obtain ⟨updated, s5, hend, hcom⟩ := bind_eq_ok.mp hbody
  have hdeleted := (delete_keeps_put confirmationTable_put_sameQueues _).of_run hdel
  have hcancelled := (update_keeps_put confirmationTable_put_sameQueues _ _).of_run hcanc
  have hinserted := (insert_keeps_put confirmationTable_put_sameQueues _).of_run hins
  have hpre : s.SameQueues s3 :=
    IsTrans.trans _ _ _ (IsTrans.trans _ _ _ hdeleted hcancelled) hinserted
  exact repliesOrNothing_of_parts hpre hstage ⟨rfl, rfl⟩ hend hcom

/-- So is one with a page. -/
theorem queueReplyWithJobPageAt_cases {selection : PendingJobPageSelection} :
    RepliesOrNothing blake3 rowId claim reply now s
      (queueReplyWithJobPageAt engine blake3 rowId claim reply selection now s) := by
  unfold queueReplyWithJobPageAt
  split
  · exact .inl ⟨by simp, rfl⟩
  refine repliesOrNothing_of_transaction fun finish s' hbody => ?_
  obtain ⟨accepted, s1, hstage, hbody⟩ := bind_eq_ok.mp hbody
  obtain ⟨_, s₂, hups, hbody⟩ := bind_eq_ok.mp hbody
  obtain ⟨_, s3, hentries, hbody⟩ := bind_eq_ok.mp hbody
  obtain ⟨updated, s4, hend, hcom⟩ := bind_eq_ok.mp hbody
  have hctx : s1.SameQueues s₂ := (upsert_keeps_put (fun _ _ _ => ⟨rfl, rfl⟩) _ _ _).of_run hups
  have hpage : ∀ sender entries,
      Keeps RelayStore.SameQueues (replaceEntries engine sender entries) :=
    fun _ _ => .bind (delete_keeps_put (fun _ _ _ => ⟨rfl, rfl⟩) _)
      fun _ => insertAll_keeps_put (fun _ _ _ => ⟨rfl, rfl⟩) _
  exact repliesOrNothing_of_parts ⟨rfl, rfl⟩ hstage
    (IsTrans.trans _ _ _ hctx ((hpage _ _).of_run hentries)) hend hcom

end InboundCommandService

/-! ## Stale claims -/

/-- The claim under which an operation acts. -/
def RelayOp.claim? : RelayOp → Option ClaimedInboundCommand
  | .release claim _ | .deadLetter claim _ _ | .markWaiting claim _ | .interrupt claim _
  | .retry claim _ | .queueReply _ claim _ _ | .queueConfirmation _ claim _ _ _
  | .queueJobPage _ claim _ _ _ | .prepare claim _ _ | .persistOutcome claim _ _ _
  | .failDispatch claim _ _ _ => some claim
  | _ => none

/-- The command's current token, if it has one, is not the claim's. -/
def ClaimedInboundCommand.Stale (claim : ClaimedInboundCommand) (s : RelayStore) : Prop :=
  ∀ c ∈ s.inboundCommands, c.messageKey = claim.messageKey → c.claimToken ≠ some claim.claimToken

variable {c : InboundRow} {op : RelayOp}

/-- A stale claim holds no command. -/
theorem ClaimedInboundCommand.Stale.not_heldBy (h : claim.Stale s) (hc : c ∈ s.inboundCommands) :
    c.heldBy claim.messageKey claim.claimToken = false := by
  cases hheld : c.heldBy claim.messageKey claim.claimToken with
  | false => rfl
  | true =>
    obtain ⟨hkey, _, htok⟩ := InboundRow.heldBy_iff.mp hheld
    exact absurd htok (h c hc hkey)

theorem ClaimedInboundCommand.Stale.not_heldLive (h : claim.Stale s) {status : InboundStatus}
    (hc : c ∈ s.inboundCommands) :
    c.heldLive claim.messageKey claim.claimToken status now = false := by
  cases hheld : c.heldLive claim.messageKey claim.claimToken status now with
  | false => rfl
  | true =>
    obtain ⟨hkey, _, htok, _⟩ := InboundRow.heldLive_iff.mp hheld
    exact absurd htok (h c hc hkey)

namespace InboundCommandService

/-- A stale claim replies nothing. -/
theorem not_replied_of_stale (h : claim.Stale s)
    {outcome : Except (Failure InboundWorkerError) Bool × RelayStore}
    (hcases : RepliesOrNothing blake3 rowId claim reply now s outcome) : outcome.2 = s := by
  rcases hcases with ⟨_, hsame⟩ | ⟨_, hrep⟩
  · exact hsame
  · obtain ⟨c, hc, hheld⟩ := hrep.held
    simp [repliesUnder, h.not_heldBy hc] at hheld

/-- Nor does it prepare a dispatch. -/
theorem prepareControlDispatchAt_of_stale (h : claim.Stale s) (cid : String)
    (now : Timestamp) : (prepareControlDispatchAt engine claim cid now s).2 = s := by
  have hnot : ∀ t : RelayStore, t.inboundCommands = s.inboundCommands →
      ¬ claimDispatching claim now t := by
    rintro t hsame ⟨c, hc, hheld⟩
    rw [h.not_heldLive (hsame ▸ hc)] at hheld
    cases hheld
  rcases hrun : prepareControlDispatchAt engine claim cid now s with ⟨e | record, s'⟩
  · exact prepareControlDispatchAt_eq_error hrun
  cases prepareControlDispatchAt_eq_ok hrun with
  | stored => rfl
  | resumed hrow hfor hbound hpend hwait => exact absurd (waitGateway_eq_true hwait) (hnot s rfl)
  | consumed hrow hfor hunbound hlive hunconsumed hconsume hwait =>
    obtain ⟨_, _, rfl⟩ := updateOne_eq_true.mp hconsume
    exact absurd (waitGateway_eq_true hwait) (hnot _ rfl)

/-- Nor settle one. -/
theorem settleDispatch_of_stale (h : claim.Stale s) (cid : String)
    (change : ConfirmationRow → ConfirmationRow) (now : Timestamp) :
    (settleDispatch engine claim cid change now s).2 = s := by
  have hnone : ∀ r ∈ s.controlConfirmations, dispatchHeld claim cid now s r = false := by
    have hany : s.inboundCommands.any
        (InboundRow.heldLive claim.messageKey claim.claimToken .waitingGateway now) = false := by
      rw [any_eq_false]
      intro c hc
      simp [h.not_heldLive hc]
    simp [dispatchHeld, hany]
  refine transaction_rule (P := fun outcome => outcome.2 = s) (fun _ => rfl) ?_
  intro finish s' hbody
  obtain ⟨changed, s1, hupd, hcom⟩ := bind_eq_ok.mp hbody
  obtain ⟨_, hchg, _⟩ := updateOne_eq_ok.mp hupd
  have hzero : affected (dispatchHeld claim cid now s) s.controlConfirmations = 0 :=
    affected_eq_zero.mpr hnone
  have hfalse : changed = false := by
    rw [hchg]
    exact congrArg (· == 1) hzero
  subst hfalse
  cases hcom
  rfl

end InboundCommandService

open InboundCommandService in
/-- **A stale claim changes nothing.** -/
theorem RelayOp.run_of_stale (h : claim.Stale s) (verifier : ConfirmationVerifier)
    (hclaim : op.claim? = some claim) : (op.run engine verifier s).2 = s := by
  have hheld : ∀ c ∈ RelayStore.inboundTable.rows s,
      c.heldBy claim.messageKey claim.claimToken = false := fun c => h.not_heldBy
  have hlive : ∀ (status : InboundStatus) (now : Timestamp), ∀ c ∈ RelayStore.inboundTable.rows s,
        c.heldLive claim.messageKey claim.claimToken status now = false :=
    fun status now c => h.not_heldLive
  cases op <;> cases hclaim <;> rw [run, report_store]
  case release | deadLetter | interrupt => exact (updateOne_of_forall_not hheld).1
  case markWaiting | retry => exact (updateOne_of_forall_not (hlive _ _)).1
  case queueReply => exact not_replied_of_stale h queueReplyAt_cases
  case queueConfirmation => exact not_replied_of_stale h queueReplyWithConfirmationAt_cases
  case queueJobPage => exact not_replied_of_stale h queueReplyWithJobPageAt_cases
  case prepare => exact prepareControlDispatchAt_of_stale h _ _
  case persistOutcome | failDispatch => exact settleDispatch_of_stale h ..

/-! ## Events -/

/-- The notification answers the message with this key. -/
def OutboxRow.answers (blake3 : Blake3) (messageKey : String) (o : OutboxRow) : Bool :=
  o.originKey == systemInteractiveOriginKey &&
    o.notificationId == replyNotificationId blake3 messageKey

/-- The event staged the reply to the message with this key. -/
def RelayEvent.answers (blake3 : Blake3) (messageKey : String) (e : RelayEvent) : Bool :=
  (e.op.reply? blake3).any (fun reply => reply.1 == messageKey) && e.result == .applied true

/-- Neither is a command forgotten nor a reply entered past the queue, as
`enqueue_system_reply`, which only tests call, would. -/
def RelayOp.ordinary : RelayOp → Bool
  | .retainInbound _ _ | .outbox (.enqueueSystemReply _ _ _) => false
  | _ => true

/-- No two commands of the store have the same reply identity. -/
def RelayStore.DistinctReplies (blake3 : Blake3) (s : RelayStore) : Prop :=
  ∀ c ∈ s.inboundCommands, ∀ c' ∈ s.inboundCommands,
    replyIdentity blake3 c.messageKey = replyIdentity blake3 c'.messageKey →
      c.messageKey = c'.messageKey

/-- Every interactive notification is the reply of a command that ended with
it. -/
structure RelayWorld.Answered (blake3 : Blake3) (w : RelayWorld) : Prop where
  valid : w.store.Valid
  answered : ∀ o ∈ w.store.notificationOutbox, o.originKey = systemInteractiveOriginKey →
    ∃ c ∈ w.store.inboundCommands, c.status = .replyQueued ∧
      o.notificationId = replyNotificationId blake3 c.messageKey

theorem RelayOp.ordinary_not_forgets (h : op.ordinary = true) : ¬ op.forgets = true := by
  cases op <;> simp_all [ordinary, forgets]

/-- A device's notification is no reply. -/
theorem device_origin_ne (deviceId : Uuid) :
    "device:" ++ deviceId.hyphenated ≠ systemInteractiveOriginKey := by
  intro h
  have hfst := congrArg (fun text : String => text.toList.head?) h
  simp [systemInteractiveOriginKey] at hfst

/-- Nothing but a reply enters the outbox under the interactive origin. -/
theorem RelayOp.origin_of_enters (hord : op.ordinary = true) (hreply : op.reply? blake3 = none) :
    ∀ r, (op.policy blake3 s).enters r → r.originKey ≠ systemInteractiveOriginKey := by
  rintro r (⟨key, hkey⟩ | ⟨outboxOp, rfl, hent⟩)
  · rw [hreply] at hkey
    cases hkey
  cases outboxOp with
  | enqueueDevice rowId deviceId =>
    cases hent
    exact device_origin_ne deviceId
  | enqueueSystemReply => cases hord
  | enqueueAdminTest =>
    cases hent
    simp [stagedRow, OutboxOrigin.key, systemInteractiveOriginKey]
  | publishNotice rowId notice | resendNotice rowId notice =>
    cases hent
    exact device_origin_ne notice.deviceId
  | _ => cases hent

/-- A command that arrives has no reply. -/
theorem arrival_not_replyQueued {message : EphemeralInboundText} {r : InboundRow}
    (h : Arrival message r) : r.status ≠ .replyQueued := by
  obtain ⟨durable, status, rfl, _, rfl | rfl⟩ := h <;> simp [DurableInboundCommand.row]

variable {key : String}

section

variable {verifier : ConfirmationVerifier} {w w' : RelayWorld} {e : RelayEvent}

/-- What is reported as applied was replied. -/
theorem report_applied {m : Relay InboundWorkerError Bool} {res : RelayResult}
    {P : Prop}
    (hcases : InboundCommandService.RepliesOrNothing blake3 rowId claim reply now s (m s))
    (hrun : report m .applied s = (res, s')) (hP : Replied blake3 rowId claim reply now s s' → P) :
    res ≠ .applied true ∧ s' = s ∨ res = .applied true ∧ P := by
  unfold report at hrun
  rcases hm : m s with ⟨e | changed, s1⟩ <;> rw [hm] at hrun hcases <;> cases hrun
  · rcases hcases with ⟨_, hsame⟩ | ⟨htrue, _⟩
    · exact .inl ⟨by simp, hsame⟩
    · cases htrue
  rcases hcases with ⟨hnot, hsame⟩ | ⟨htrue, hrep⟩
  · refine .inl ⟨?_, hsame⟩
    cases changed with
    | false => simp
    | true => exact absurd rfl hnot
  · cases htrue
    exact .inr ⟨rfl, hP hrep⟩

open InboundCommandService in
/-- A queueing event changes nothing, or it ended the command with its reply. -/
theorem relayStep_reply (h : RelayStep verifier w e w') {row : OutboxRow}
    (hreply : e.op.reply? verifier.blake3 = some (key, row)) :
    e.result ≠ .applied true ∧ w'.store = w.store ∨
      e.result = .applied true ∧
        ∃ (rowId : Uuid) (claim : ClaimedInboundCommand) (reply : InteractiveReplyV1)
          (now : Timestamp), claim.messageKey = key ∧
          reply.notificationId = replyNotificationId verifier.blake3 key ∧
          Replied verifier.blake3 rowId claim reply now w.store w'.store := by
  have hrun := (relayStep_spec h).run
  obtain ⟨engine, op, result⟩ := e
  cases op with
  | queueReply rowId claim rendered now =>
    cases hreply
    exact report_applied queueReplyAt_cases hrun fun h => ⟨rowId, claim, _, now, rfl, rfl, h⟩
  | queueConfirmation rowId claim rendered conf now =>
    cases hreply
    exact report_applied queueReplyWithConfirmationAt_cases hrun fun h =>
      ⟨rowId, claim, _, now, rfl, rfl, h⟩
  | queueJobPage rowId claim rendered selection now =>
    cases hreply
    exact report_applied queueReplyWithJobPageAt_cases hrun fun h =>
      ⟨rowId, claim, _, now, rfl, rfl, h⟩
  | _ => cases hreply

/-- The command that was ended, before and after. -/
theorem Replied.command (h : Replied blake3 rowId claim reply now s s') :
    ∃ c ∈ s.inboundCommands, c.messageKey = claim.messageKey ∧ c.status ≠ .replyQueued ∧
      c.queueReply reply.notificationId now ∈ s'.inboundCommands := by
  obtain ⟨c, hc, hunder⟩ := h.held
  have hheld : c.heldBy claim.messageKey claim.claimToken = true := by
    simp only [repliesUnder, Bool.and_eq_true] at hunder
    exact hunder.1
  obtain ⟨hkey, hclaim, _⟩ := InboundRow.heldBy_iff.mp hheld
  refine ⟨c, hc, hkey, ?_, ?_⟩
  · intro hq
    rw [hq] at hclaim
    cases hclaim
  · rw [h.inbound]
    exact mem_updateWhere.mpr ⟨c, hc, .inl ⟨hunder, rfl⟩⟩

section

variable (h : RelayStep verifier w e w') (hw : w.store.Valid) (hord : e.op.ordinary = true)

include h hw hord

/-- A command that ended stays as it is. -/
theorem relayStep_terminal (hc : c ∈ w.store.inboundCommands)
    (hend : c.status.terminal = true) : c ∈ w'.store.inboundCommands :=
  (relayStep_steps h).inbound_of_terminal hw (ordinary_not_forgets hord) hc hend

/-- A command with a reply stays. -/
theorem relayStep_replyQueued_kept (hc : c ∈ w.store.inboundCommands)
    (hq : c.status = .replyQueued) : c ∈ w'.store.inboundCommands := by
  refine relayStep_terminal h hw hord hc ?_
  rw [hq]
  rfl

/-- Without a queueing operation, what is answered was answered before. -/
theorem relayStep_quiet (hreply : e.op.reply? verifier.blake3 = none) :
    (∀ o ∈ w'.store.notificationOutbox, o.originKey = systemInteractiveOriginKey →
      ∃ o0 ∈ w.store.notificationOutbox, o0.id = o.id ∧ o0.originKey = o.originKey ∧
        o0.notificationId = o.notificationId) ∧
    ∀ c ∈ w'.store.inboundCommands, c.status = .replyQueued → c ∈ w.store.inboundCommands := by
  have hsteps := relayStep_steps h
  refine ⟨hsteps.outbox_of_origin hw (origin_of_enters hord hreply), ?_⟩
  refine hsteps.replyQueued_of_mem hw ?_ ?_
  · rintro key ⟨row, hrow⟩
    rw [hreply] at hrow
    cases hrow
  · rintro r ⟨message, _, harrival⟩
    exact arrival_not_replyQueued harrival

end

/-- A step keeps replies and commands in agreement. -/
theorem relayStep_answered (h : RelayStep verifier w e w')
    (hord : e.op.ordinary = true) (hw : w.Answered verifier.blake3) :
    w'.Answered verifier.blake3 := by
  refine ⟨relayStep_valid h hw.valid, ?_⟩
  -- an answer that was there before keeps its command
  have hold : ∀ o ∈ w.store.notificationOutbox, o.originKey = systemInteractiveOriginKey →
      ∃ c ∈ w'.store.inboundCommands, c.status = .replyQueued ∧
        o.notificationId = replyNotificationId verifier.blake3 c.messageKey := by
    intro o ho horig
    obtain ⟨c, hc, hq, hname⟩ := hw.answered o ho horig
    exact ⟨c, relayStep_replyQueued_kept h hw.valid hord hc hq, hq, hname⟩
  cases hreply : e.op.reply? verifier.blake3 with
  | none =>
    intro o ho horig
    obtain ⟨o0, ho0, _, hkey, hname⟩ := (relayStep_quiet h hw.valid hord hreply).1 o ho horig
    rw [← hname]
    exact hold o0 ho0 (hkey.trans horig)
  | some reply =>
    rcases relayStep_reply h hreply with
      ⟨_, hsame⟩ | ⟨_, rowId, claim, reply, now, hkey, hname, hrep⟩
    · rw [hsame] at hold ⊢
      exact hold
    obtain ⟨c, _, hckey, _, hended⟩ := hrep.command
    intro o ho horig
    rcases hrep.outbox with hnew | ⟨hsame, _⟩
    · rw [hnew] at ho
      rcases mem_append.mp ho with ho | ho
      · exact hold o ho horig
      have heq : o = replyRow verifier.blake3 rowId reply now := by simpa using ho
      refine ⟨_, hended, rfl, ?_⟩
      rw [heq]
      show reply.notificationId = replyNotificationId verifier.blake3 c.messageKey
      rw [hname, hckey, hkey]
    · exact hold o (hsame ▸ ho) horig

/-- A reply's identifier determines its identity. -/
theorem replyIdentity_of_notificationId {key' : String}
    (h : replyNotificationId blake3 key = replyNotificationId blake3 key') :
    replyIdentity blake3 key = replyIdentity blake3 key' := by
  have hlist := congrArg String.toList h
  simp only [replyNotificationId, String.toList_append] at hlist
  exact String.toList_injective (append_cancel_left hlist)

/-- The message was not answered before the step and is afterwards. -/
def BecomesAnswered (c' : InboundRow) (s : RelayStore) : Prop :=
  c'.status = .replyQueued ∧
    ∀ c ∈ s.inboundCommands, c.messageKey = c'.messageKey → c.status ≠ .replyQueued

/-- A reply to the message enters the outbox in the step. -/
def ReplyEnters (blake3 : Blake3) (messageKey : String) (s s' : RelayStore) : Prop :=
  ∃ o ∈ s'.notificationOutbox, o.answers blake3 messageKey = true ∧
    ∀ o₀ ∈ s.notificationOutbox, o₀.id ≠ o.id

/-- When a row is the reply to a message. -/
theorem OutboxRow.answers_iff {messageKey : String} {o : OutboxRow} :
    o.answers blake3 messageKey = true ↔
      o.originKey = systemInteractiveOriginKey ∧
        o.notificationId = replyNotificationId blake3 messageKey := by
  simp [OutboxRow.answers]

/-- A command becomes answered exactly in the step in which its reply enters. -/
theorem relayStep_answer_iff (h : RelayStep verifier w e w')
    (hord : e.op.ordinary = true) (hw : w.Answered verifier.blake3)
    (hdistinct : w'.store.DistinctReplies verifier.blake3) {c' : InboundRow}
    (hc' : c' ∈ w'.store.inboundCommands) : BecomesAnswered c' w.store ↔
      ReplyEnters verifier.blake3 c'.messageKey w.store w'.store := by
  have hvalid' := relayStep_valid h hw.valid
  cases hreply : e.op.reply? verifier.blake3 with
  | none =>
    obtain ⟨hbox, hinb⟩ := relayStep_quiet h hw.valid hord hreply
    constructor
    · rintro ⟨hq, hnone⟩
      exact absurd hq (hnone c' (hinb c' hc' hq) rfl)
    rintro ⟨o, ho, hans, hnew⟩
    obtain ⟨o0, ho0, hid, _⟩ := hbox o ho (OutboxRow.answers_iff.mp hans).1
    exact absurd hid (hnew o0 ho0)
  | some reply =>
    obtain ⟨key, row⟩ := reply
    rcases relayStep_reply h hreply with
      ⟨_, hsame⟩ | ⟨_, rowId, claim, reply, now, hkey, hname, hrep⟩
    · rw [hsame] at hc' ⊢
      constructor
      · rintro ⟨hq, hnone⟩
        exact absurd hq (hnone c' hc' rfl)
      · rintro ⟨o, ho, _, hnew⟩
        exact absurd rfl (hnew o ho)
    obtain ⟨c, hc, hckey, hopen, hended⟩ := hrep.command
    have hlast : (c.queueReply reply.notificationId now).messageKey = key := hckey.trans hkey
    constructor
    · rintro ⟨hq, hnone⟩
      have hcmd : c'.messageKey = key := by
        rw [hrep.inbound] at hc'
        obtain ⟨b, hb, ⟨hunder, rfl⟩ | ⟨_, rfl⟩⟩ := mem_updateWhere.mp hc'
        · simp only [repliesUnder, Bool.and_eq_true] at hunder
          exact (InboundRow.heldBy_iff.mp hunder.1).1.trans hkey
        · exact absurd hq (hnone c' hb rfl)
      rcases hrep.outbox with hnew | ⟨_, o, ho, horig, hold⟩
      · refine ⟨replyRow verifier.blake3 rowId reply now, ?_, ?_, ?_⟩
        · rw [hnew]
          exact mem_append_right _ (mem_singleton_self _)
        · rw [hcmd]
          exact OutboxRow.answers_iff.mpr ⟨rfl, hname⟩
        have hids := hvalid'.outboxIds
        rw [hnew] at hids
        exact hids.key_new
      · -- the reply was there: it answers another command with the same identity
        obtain ⟨c0, hc0, hq0, hname0⟩ := hw.answered o ho horig
        have hkept := relayStep_replyQueued_kept h hw.valid hord hc0 hq0
        have hidentity := replyIdentity_of_notificationId (hname0.symm.trans (hold.trans hname))
        have hsamekey := hdistinct c0 hkept c' hc' (by rw [hidentity, hcmd])
        exact absurd hq0 (hnone c0 hc0 hsamekey)
    · rintro ⟨o, ho, hans, hnew⟩
      obtain ⟨_, hname'⟩ := OutboxRow.answers_iff.mp hans
      have hrow : o = replyRow verifier.blake3 rowId reply now := by
        rcases hrep.outbox with happ | ⟨hsame, _⟩
        · rw [happ] at ho
          rcases mem_append.mp ho with ho | ho
          · exact absurd rfl (hnew o ho)
          · simpa using ho
        · exact absurd rfl (hnew o (hsame ▸ ho))
      have hidentity : replyIdentity verifier.blake3 key =
          replyIdentity verifier.blake3 c'.messageKey := by
        apply replyIdentity_of_notificationId
        rw [← hname', hrow, ← hname]
        rfl
      have hsamekey := hdistinct _ hended c' hc' (by rw [hlast, hidentity])
      have hcmd : c' = c.queueReply reply.notificationId now :=
        hvalid'.messageKeys.eq_of_key hc' hended hsamekey.symm
      refine ⟨by rw [hcmd]; rfl, fun c1 hc1 hkey1 => ?_⟩
      have hckey' : c'.messageKey = c.messageKey := by rw [hcmd]; rfl
      rw [hw.valid.messageKeys.eq_of_key hc1 hc (hkey1.trans hckey')]
      exact hopen

end

/-! ## Whole runs -/

/-- No message came in yet, and nothing was answered. -/
structure RelayWorld.Unasked (w : RelayWorld) : Prop where
  check : w.store.check = true
  commands : w.store.inboundCommands = []
  replies : ∀ o ∈ w.store.notificationOutbox, o.originKey ≠ systemInteractiveOriginKey

variable {w : RelayWorld}

/-- Without replies there is nothing to agree on. -/
theorem RelayWorld.Unasked.answered (h : w.Unasked) (blake3 : Blake3) : w.Answered blake3 where
  valid := RelayStore.valid_of_check h.check
  answered := fun o ho horig => absurd horig (h.replies o ho)

/-- An event of an operation that forgets nothing. -/
abbrev OrdinaryStep (verifier : ConfirmationVerifier) (w : RelayWorld) (e : RelayEvent)
    (w' : RelayWorld) : Prop :=
  RelayStep verifier w e w' ∧ e.op.ordinary = true

/-- Staging the reply of a message takes it from unanswered to answered. -/
theorem ordinaryStep_answers {verifier : ConfirmationVerifier} {w' : RelayWorld} {e : RelayEvent}
    (h : OrdinaryStep verifier w e w') (hw : w.Answered verifier.blake3)
    (hans : e.answers verifier.blake3 key = true) :
    (¬ ∃ c ∈ w.store.inboundCommands, c.messageKey = key ∧ c.status = .replyQueued) ∧
      ∃ c ∈ w'.store.inboundCommands, c.messageKey = key ∧ c.status = .replyQueued := by
  simp only [RelayEvent.answers, Bool.and_eq_true, beq_iff_eq, Option.any_eq_true] at hans
  obtain ⟨⟨⟨_, row⟩, hreply, rfl⟩, hres⟩ := hans
  rcases relayStep_reply h.1 hreply with
    ⟨hnot, _⟩ | ⟨_, rowId, claim, reply, now, hkey, _, hrep⟩
  · exact absurd hres hnot
  obtain ⟨c, hc, hckey, hopen, hended⟩ := hrep.command
  refine ⟨?_, _, hended, hckey.trans hkey, rfl⟩
  rintro ⟨c0, hc0, hkey0, hq⟩
  have hsame : c0 = c := hw.valid.messageKeys.eq_of_key hc0 hc (hkey0.trans (hckey.trans hkey).symm)
  exact hopen (hsame ▸ hq)

/-- **Each message is answered once.**  However the operations of sinks, claim
holders, recoveries and the outbox interleave: a message has its reply staged
at most once, and the outbox holds at most one reply to it; unless reply
identities collide, a command becomes `reply_queued` exactly in the step in
which its reply enters the outbox; an operation under a stale claim changes
nothing; and a command that ended stays as it is. -/
theorem each_message_is_answered_once (verifier : ConfirmationVerifier) {w₀ w : RelayWorld}
    {events : List RelayEvent} (hinit : w₀.Unasked) (hordinary : ∀ e ∈ events, e.op.ordinary = true)
    (hrun : Run (RelayStep verifier) w₀ events w) :
    (∀ key, events.countP (RelayEvent.answers verifier.blake3 key) ≤ 1) ∧
    (∀ key, w.store.notificationOutbox.countP (OutboxRow.answers verifier.blake3 key) ≤ 1) ∧
    (∀ (e : RelayEvent) (w' : RelayWorld), RelayStep verifier w e w' → e.op.ordinary = true →
      w'.store.DistinctReplies verifier.blake3 → ∀ c' ∈ w'.store.inboundCommands,
        (BecomesAnswered c' w.store ↔
          ReplyEnters verifier.blake3 c'.messageKey w.store w'.store)) ∧
    (∀ (engine : RelayEngine) (op : RelayOp) (claim : ClaimedInboundCommand),
      op.claim? = some claim → claim.Stale w.store →
        (op.run engine verifier w.store).2 = w.store) ∧
    (∀ (later : List RelayEvent) (w' : RelayWorld), (∀ e ∈ later, e.op.ordinary = true) →
      Run (RelayStep verifier) w later w' →
      ∀ c ∈ w.store.inboundCommands, c.status.terminal = true →
        c ∈ w'.store.inboundCommands ∧
        ∀ c' ∈ w'.store.inboundCommands, c'.messageKey = c.messageKey →
          c'.status = c.status) := by
  have hkept : ∀ u e u', OrdinaryStep verifier u e u' → u.Answered verifier.blake3 →
      u'.Answered verifier.blake3 := fun u e u' hstep => relayStep_answered hstep.1 hstep.2
  have hsteps := hrun.restrict hordinary
  have hw : w.Answered verifier.blake3 := hsteps.invariant hkept (hinit.answered _)
  refine ⟨fun key => ?_, fun key => ?_, ?_, ?_, ?_⟩
  · refine hsteps.countP_le_one (I := RelayWorld.Answered verifier.blake3)
      (D := fun u => ∃ c ∈ u.store.inboundCommands, c.messageKey = key ∧ c.status = .replyQueued)
      hkept ?_ ?_ (hinit.answered _)
    · rintro u e u' hstep hu ⟨c, hc, hkey, hqueued⟩
      have hstays := relayStep_replyQueued_kept hstep.1 hu.valid hstep.2 hc hqueued
      exact ⟨c, hstays, hkey, hqueued⟩
    · exact fun u e u' => ordinaryStep_answers
  · refine hw.valid.outboxNotifications.affected_le_one
      (k := (systemInteractiveOriginKey, replyNotificationId verifier.blake3 key)) ?_
    intro o hanswers
    obtain ⟨horigin, hname⟩ := OutboxRow.answers_iff.mp hanswers
    exact Prod.ext horigin hname
  · exact fun e w' hstep hord hdistinct c' hc' => relayStep_answer_iff hstep hord hw hdistinct hc'
  · exact fun engine op claim hclaim hstale => run_of_stale hstale verifier hclaim
  · intro later w' hord hlater c hc hend
    have hinv : w'.store.Valid ∧ c ∈ w'.store.inboundCommands := by
      refine (hlater.restrict hord).invariant
        (I := fun u => u.store.Valid ∧ c ∈ u.store.inboundCommands) ?_ ⟨hw.valid, hc⟩
      intro u e u' hstep hu
      exact ⟨relayStep_valid hstep.1 hu.1, relayStep_terminal hstep.1 hu.1 hstep.2 hu.2 hend⟩
    refine ⟨hinv.2, fun c' hc' hkey => ?_⟩
    rw [hinv.1.messageKeys.eq_of_key hc' hinv.2 hkey]

/-! A message is answered; then its claim holder queues the same reply again. -/

/-- A sender. -/
def sampleSender : String :=
  "wx:0000000000000000000000000000000000000000000000000000000000000000"

/-- A verifier. -/
def sampleVerifier : ConfirmationVerifier := ⟨.zero, []⟩

/-- A request for help. -/
def sampleMessage : EphemeralInboundText := ⟨"m1", sampleSender, "help", 1000⟩

/-- The claim of its command. -/
def sampleClaim : ClaimedInboundCommand where
  messageKey := "m1"
  claimToken := 1
  senderFingerprint := sampleSender
  commandKind := "help"
  commandJson := .closed .help
  lastErrorCode := none
  expiresAt := 86401000

/-- The rendered reply. -/
def sampleRendered : RenderedReply := ⟨"PromptDock", "help", false, 3000, 86401000⟩

def sampleAnswer : List RelayEvent :=
  [⟨sqlite, .receive sampleMessage .never, .done⟩,
    ⟨sqlite, .claimNext 1 2000 false, .claimed (some sampleClaim)⟩,
    ⟨sqlite, .queueReply 2 sampleClaim sampleRendered 3000, .applied true⟩,
    ⟨sqlite, .queueReply 3 sampleClaim sampleRendered 4000, .applied false⟩]

/-- The sample is a run. -/
theorem sampleAnswer_replays :
    (replay (RelayWorld.next sampleVerifier) ⟨.empty, [], []⟩ sampleAnswer).isSome = true := by
  decide

/-- A message that is answered. -/
theorem each_message_is_answered_once_sample :
    sampleAnswer.countP (RelayEvent.answers .zero "m1") = 1 ∧
      sampleAnswer.countP (RelayEvent.answers .zero "m1") ≤ 1 :=
  ⟨by decide, (each_message_is_answered_once sampleVerifier ⟨by decide, rfl, by decide⟩ (by decide)
      (run_of_isSome sampleAnswer_replays)).1 "m1"⟩

end PromptDock
