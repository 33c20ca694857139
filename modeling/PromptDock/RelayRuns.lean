import PromptDock.InboundSink
import PromptDock.OutboxRuns
import PromptDock.RelaySteps

/-!
# Interleavings of relay operations

The sink, any number of claim holders, recoveries, retention, the outbox and
the device directory act on the relay store in any order, each operation under
an engine of its own that may refuse statements.  The world keeps, beside the
store, every UUID drawn and every confirmation issued so far; both are new when
they appear.  `RelayOp.run_steps` places each operation within its policy, and
`relayStep_steps` carries this over to events.
-/

namespace PromptDock

open StoreAction

/-- What the worker renders as the answer to a command, with the times its
reply is made for. -/
structure RenderedReply where
  (title body : String)
  sensitiveBody : Bool
  (queuedAt expiresAt : Timestamp)

/-- The reply of a claim. -/
def RenderedReply.reply (rendered : RenderedReply) (blake3 : Blake3)
    (claim : ClaimedInboundCommand) : InteractiveReplyV1 :=
  interactiveReply blake3 claim rendered.title rendered.body rendered.sensitiveBody
    rendered.queuedAt rendered.expiresAt

/-- An operation on the relay store, with the UUIDs it draws.  Operations of
several transactions stand here whole and part by part, since others may come
in between. -/
inductive RelayOp where
  | receive (message : EphemeralInboundText) (cancellation : CancelPoint)
  | resolve (message : EphemeralInboundText)
  | accept (message : EphemeralInboundText) (parsed : ParsedInboundCommand)
      (cancellation : CancelPoint)
  | discard (message : EphemeralInboundText) (cancellation : CancelPoint)
  | recover (now : Timestamp)
  | claimNext (token : Uuid) (now : Timestamp) (cancelled : Bool)
  | release (claim : ClaimedInboundCommand) (now : Timestamp)
  | deadLetter (claim : ClaimedInboundCommand) (errorCode : String) (now : Timestamp)
  | markWaiting (claim : ClaimedInboundCommand) (now : Timestamp)
  | interrupt (claim : ClaimedInboundCommand) (now : Timestamp)
  | retry (claim : ClaimedInboundCommand) (now : Timestamp)
  | queueReply (rowId : Uuid) (claim : ClaimedInboundCommand) (rendered : RenderedReply)
      (now : Timestamp)
  | queueConfirmation (rowId : Uuid) (claim : ClaimedInboundCommand) (rendered : RenderedReply)
      (confirmation : PendingConfirmation) (now : Timestamp)
  | queueJobPage (rowId : Uuid) (claim : ClaimedInboundCommand) (rendered : RenderedReply)
      (selection : PendingJobPageSelection) (now : Timestamp)
  | deleteExpired (sender : String) (now : Timestamp)
  | deleteUnconsumed (sender : String)
  | cancelConfirmations (sender : String) (now : Timestamp)
  | prepare (claim : ClaimedInboundCommand) (confirmationId : String) (now : Timestamp)
  | persistOutcome (claim : ClaimedInboundCommand) (confirmationId : String)
      (outcome : ControlDispatchOutcome) (now : Timestamp)
  | failDispatch (claim : ClaimedInboundCommand) (confirmationId errorCode : String)
      (now : Timestamp)
  | replaceSelection (sender : String) (selectedDevice : Option Uuid)
      (entries : List SelectionEntry) (now : Timestamp)
  | replaceCatalog (sender : String) (selectedDevice : Uuid) (kind : CatalogKind)
      (entries : List SelectionEntry) (now : Timestamp)
  | deleteSelection (sender : String)
  | selectItem (sender : String) (entry : SelectionEntry) (kind : SelectionItemKind)
      (handle : String) (now : Timestamp)
  | selectDevice (sender : String) (deviceId : Uuid) (now : Timestamp)
  | retainOutbox (config : RetentionConfig) (pageOpen : Uuid → Bool) (now : Timestamp)
  | retainInbound (config : RetentionConfig) (now : Timestamp)
  | retainContexts (now : Timestamp)
  | retainConfirmations (now : Timestamp)
  | outbox (op : OutboxOp)
  | changeDevices (devices : List DeviceRow)

/-- What an operation reports. -/
inductive RelayResult where
  | failed
  | done
  | applied (changed : Bool)
  | parsed (command : ParsedInboundCommand)
  | claimed (claim : Option ClaimedInboundCommand)
  | prepared (record : ControlDispatchRecord)
deriving DecidableEq

/-- Run a program and report its result. -/
def report {ε α : Type} (m : Relay ε α) (result : α → RelayResult) (s : RelayStore) :
    RelayResult × RelayStore :=
  match m s with
  | (.ok a, s') => (result a, s')
  | (.error _, s') => (.failed, s')

/-- The UUIDs that the operation draws. -/
def RelayOp.draws : RelayOp → List Uuid
  | .claimNext token _ _ => [token]
  | .queueReply rowId _ _ _ => [rowId]
  | .queueConfirmation rowId _ _ _ _ => [rowId]
  | .queueJobPage rowId _ _ _ _ => [rowId]
  | .outbox op => op.draws
  | _ => []

/-- The confirmation that the operation issues. -/
def RelayOp.issued : RelayOp → Option PendingConfirmation
  | .queueConfirmation _ _ _ confirmation _ => some confirmation
  | _ => none

open InboundCommandService RetentionService in
/-- Carry out an operation. -/
def RelayOp.run (engine : RelayEngine) (verifier : ConfirmationVerifier) :
    RelayOp → RelayStore → RelayResult × RelayStore
  | .receive message cancellation =>
    report (DurableInboundMessageSink.accept id engine verifier message cancellation)
      fun _ => .done
  | .resolve message => report (resolveMessage engine verifier message) .parsed
  | .accept message parsed cancellation =>
    report (InboundCommandService.accept engine
      (durableCommand verifier.blake3 message parsed) cancellation) fun _ => .done
  | .discard message cancellation =>
    report (DiscardingInboundMessageSink.accept engine verifier.blake3 message cancellation)
      fun _ => .done
  | .recover now => report (recoverStaleClaimsAt engine now) fun _ => .done
  | .claimNext token now cancelled => report (claimNextAt engine token now cancelled) .claimed
  | .release claim now => report (releaseClaimAt engine claim now) .applied
  | .deadLetter claim errorCode now => report (deadLetterAt engine claim errorCode now) .applied
  | .markWaiting claim now => report (markWaitingGatewayAt engine claim now) .applied
  | .interrupt claim now => report (interruptClaimAt engine claim now) .applied
  | .retry claim now => report (retryControlDispatchAt engine claim now) .applied
  | .queueReply rowId claim rendered now =>
    report (queueReplyAt engine verifier.blake3 rowId claim
      (rendered.reply verifier.blake3 claim) now) .applied
  | .queueConfirmation rowId claim rendered confirmation now =>
    report (queueReplyWithConfirmationAt engine verifier.blake3 rowId claim
      (rendered.reply verifier.blake3 claim) confirmation now) .applied
  | .queueJobPage rowId claim rendered selection now =>
    report (queueReplyWithJobPageAt engine verifier.blake3 rowId claim
      (rendered.reply verifier.blake3 claim) selection now) .applied
  | .deleteExpired sender now =>
    report (deleteExpiredConfirmations engine sender now) fun _ => .done
  | .deleteUnconsumed sender => report (deleteUnconsumedConfirmations engine sender) fun _ => .done
  | .cancelConfirmations sender now =>
    report (cancelConfirmationsAt (fun statement => statement engine) sender now) fun _ => .done
  | .prepare claim confirmationId now =>
    report (prepareControlDispatchAt engine claim confirmationId now) .prepared
  | .persistOutcome claim confirmationId outcome now =>
    report (persistControlOutcomeAt engine claim confirmationId outcome now) .applied
  | .failDispatch claim confirmationId errorCode now =>
    report (failControlDispatchAt engine claim confirmationId errorCode now) .applied
  | .replaceSelection sender selectedDevice entries now =>
    report (replaceSelectionAt engine sender selectedDevice entries now) fun _ => .done
  | .replaceCatalog sender selectedDevice kind entries now =>
    report (replaceCatalogSelectionAt engine sender selectedDevice kind entries now)
      fun _ => .done
  | .deleteSelection sender =>
    report (InboundCommandService.deleteSelection engine sender) fun _ => .done
  | .selectItem sender entry kind handle now =>
    report (selectItemStatement engine sender entry kind handle now) .applied
  | .selectDevice sender deviceId now =>
    report (selectDeviceStatement engine sender deviceId now) .applied
  | .retainOutbox config pageOpen now =>
    report (deleteOutboxAt engine config pageOpen now) fun _ => .done
  | .retainInbound config now => report (deleteInboundAt engine config now) fun _ => .done
  | .retainContexts now => report (deleteExpiredContextsAt engine now) fun _ => .done
  | .retainConfirmations now => report (deleteExpiredConfirmationsAt engine now) fun _ => .done
  | .outbox op => report (op.action engine verifier.blake3) .applied
  | .changeDevices devices =>
    report (Action.execute engine fun s => { s with devices := devices } : Relay Empty Unit)
      fun _ => .done

/-! ## What an operation may do -/

/-- The message that the operation may accept. -/
def RelayOp.message? : RelayOp → Option EphemeralInboundText
  | .receive message _ | .accept message _ _ | .discard message _ => some message
  | _ => none

/-- The command that the operation may end with its reply, and the row of the
reply. -/
def RelayOp.reply? (blake3 : Blake3) : RelayOp → Option (String × OutboxRow)
  | .queueReply rowId claim rendered now | .queueConfirmation rowId claim rendered _ now
  | .queueJobPage rowId claim rendered _ now =>
    some (claim.messageKey, replyRow blake3 rowId (rendered.reply blake3 claim) now)
  | _ => none

/-- The operation drops commands that ended. -/
def RelayOp.forgets : RelayOp → Bool
  | .retainInbound _ _ => true
  | _ => false

/-- The operation cleans this confirmation up, should it meet it. -/
def RelayOp.sweeps (r : ConfirmationRow) : RelayOp → Bool
  | .queueConfirmation _ _ _ _ now | .retainConfirmations now => r.expiredAt now
  | .deleteExpired sender now | .cancelConfirmations sender now =>
    r.scope.senderFingerprint == sender && r.expiredAt now
  | _ => false

/-- The operation stores the outcome or the failure of a control request. -/
def RelayOp.settles : RelayOp → Bool
  | .persistOutcome _ _ _ _ | .failDispatch _ _ _ _ => true
  | _ => false

/-- The operation changes what is selected or listed. -/
def RelayOp.selects : RelayOp → Bool
  | .queueJobPage _ _ _ _ _ | .replaceSelection _ _ _ _ | .replaceCatalog _ _ _ _ _
  | .selectItem _ _ _ _ _ | .selectDevice _ _ _ => true
  | _ => false

/-- The operation consumes this confirmation, should it meet it unconsumed. -/
def RelayOp.consumes (s : RelayStore) (r : ConfirmationRow) : RelayOp → Prop
  | .prepare claim confirmationId now =>
    r.isFor claim.senderFingerprint confirmationId = true ∧ now < r.scope.expiresAt ∧
      InboundCommandService.claimDispatching claim now s
  | _ => False

/-- A command as it arrives under a message. -/
def Arrival (message : EphemeralInboundText) (r : InboundRow) : Prop :=
  ∃ (durable : DurableInboundCommand) (status : InboundStatus),
    r = durable.row status ∧ durable.messageKey = message.messageKey ∧
      (status = .received ∨ status = .expired)

/-- How much the operation may do. -/
def RelayOp.policy (blake3 : Blake3) (s : RelayStore) (op : RelayOp) : StepPolicy where
  fresh u := u ∈ op.draws
  enters r := (∃ key, op.reply? blake3 = some (key, r)) ∨
    ∃ outboxOp, op = .outbox outboxOp ∧ outboxOp.entry blake3 = some r
  arrives r := ∃ message, op.message? = some message ∧ Arrival message r
  replies key := ∃ row, op.reply? blake3 = some (key, row)
  forgets := op.forgets = true
  issues pending := op.issued = some pending
  consumes r := op.consumes s r
  sweeps r := op.sweeps r = true
  settles := op.settles = true
  selects := op.selects = true

variable {ε α : Type} {m : Relay ε α}

theorem report_store (m : Relay ε α) (res : α → RelayResult) (s : RelayStore) :
    (report m res s).2 = (m s).2 := by
  unfold report
  rcases m s with ⟨_ | _, _⟩ <;> rfl

/-- What was reported by a constructor of results was returned. -/
theorem report_eq {res : α → RelayResult} {s s' : RelayStore} {a : α}
    (hinj : ∀ b, res b = res a → b = a) (hok : res a ≠ .failed)
    (h : report m res s = (res a, s')) : m s = (.ok a, s') := by
  unfold report at h
  rcases hm : m s with ⟨e | b, s1⟩ <;> rw [hm] at h
  · exact absurd (congrArg Prod.fst h).symm hok
  · obtain ⟨hres, rfl⟩ := Prod.mk.inj h
    rw [hinj b hres]

/-- Reporting changes nothing. -/
theorem report_keeps {R : RelayStore → RelayStore → Prop} (h : Action.Keeps R m)
    (res : α → RelayResult) (s : RelayStore) : R s (report m res s).2 := by
  rw [report_store]
  exact h s

variable {verifier : ConfirmationVerifier}

section

variable {policy : StepPolicy} {engine : RelayEngine} {message : EphemeralInboundText}

/-- Only a confirmation code is resolved in the store. -/
theorem resolveMessage_steps :
    Action.Keeps (RelaySteps policy) (resolveMessage engine verifier message) := by
  unfold resolveMessage
  split
  · exact .bind (.attempt (InboundCommandService.resolveConfirmationCode_steps verifier _))
      fun _ => .pure _
  · exact .pure _

/-- What is accepted arrives. -/
theorem DurableInboundMessageSink.accept_steps (message : EphemeralInboundText)
    (canc : CancelPoint) (harrives : ∀ r, Arrival message r → policy.arrives r) :
    Action.Keeps (RelaySteps policy)
      (DurableInboundMessageSink.accept id engine verifier message canc) := by
  unfold DurableInboundMessageSink.accept
  split
  · exact .reject _
  refine .bind (resolveMessage_steps) fun parsed => ?_
  exact InboundCommandService.acceptWithStatus_steps _ _ _ (harrives _ ⟨_, _, rfl, rfl, .inl rfl⟩)

/-- So does what is discarded. -/
theorem DiscardingInboundMessageSink.accept_steps (blake3 : Blake3)
    (message : EphemeralInboundText) (canc : CancelPoint)
    (harrives : ∀ r, Arrival message r → policy.arrives r) : Action.Keeps (RelaySteps policy)
      (DiscardingInboundMessageSink.accept engine blake3 message canc) :=
  .bind (InboundCommandService.acceptWithStatus_steps _ _ _
      (harrives _ ⟨_, _, rfl, rfl, .inr rfl⟩)) fun _ => .pure _

theorem InboundCommandService.cancelConfirmationsAt_steps (sender : String) (now : Timestamp)
    (hsweep : ∀ r : ConfirmationRow, r.scope.senderFingerprint = sender →
      r.expiredAt now = true → policy.sweeps r) : Action.Keeps (RelaySteps policy)
      (InboundCommandService.cancelConfirmationsAt (fun stmt => stmt engine) sender now) :=
  .bind (deleteExpiredConfirmations_steps hsweep) fun _ =>
    deleteUnconsumedConfirmations_steps

end

open InboundCommandService RetentionService in
/-- Every operation keeps to its policy. -/
theorem RelayOp.run_steps (engine : RelayEngine) (verifier : ConfirmationVerifier) (op : RelayOp)
    (s : RelayStore) : RelaySteps (op.policy verifier.blake3 s) s (op.run engine verifier s).2 := by
  cases op with
  | receive message canc =>
    refine report_keeps (DurableInboundMessageSink.accept_steps message canc ?_) _ s
    exact fun r hr => ⟨message, rfl, hr⟩
  | resolve => exact report_keeps (resolveMessage_steps) _ s
  | accept message parsed canc =>
    refine report_keeps (acceptWithStatus_steps _ _ canc ?_) _ s
    exact ⟨message, rfl, _, _, rfl, rfl, .inl rfl⟩
  | discard message canc =>
    refine report_keeps (DiscardingInboundMessageSink.accept_steps _ message canc ?_) _ s
    exact fun r hr => ⟨message, rfl, hr⟩
  | recover => exact report_keeps recoverStaleClaimsAt_steps _ s
  | claimNext token now cancelled =>
    exact report_keeps (claimNextAt_steps (List.mem_singleton_self token) cancelled) _ s
  | release => exact report_keeps releaseClaimAt_steps _ s
  | deadLetter claim errorCode =>
    exact report_keeps (deadLetterAt_steps errorCode) _ s
  | markWaiting => exact report_keeps waitGateway_steps _ s
  | interrupt => exact report_keeps interruptClaimAt_steps _ s
  | retry => exact report_keeps retryControlDispatchAt_steps _ s
  | queueReply =>
    refine report_keeps (queueReplyAt_steps ?_ ?_) _ s
    · exact .inl ⟨_, rfl⟩
    · exact ⟨_, rfl⟩
  | queueConfirmation rowId claim rendered conf =>
    refine report_keeps (queueReplyWithConfirmationAt_steps conf ?_ ?_ ?_ ?_) _ s
    · exact .inl ⟨_, rfl⟩
    · exact ⟨_, rfl⟩
    · exact rfl
    · exact fun _ h => h
  | queueJobPage rowId claim rendered selection =>
    refine report_keeps (queueReplyWithJobPageAt_steps selection ?_ ?_ ?_) _ s
    · exact .inl ⟨_, rfl⟩
    · exact ⟨_, rfl⟩
    · exact rfl
  | deleteExpired =>
    refine report_keeps (deleteExpiredConfirmations_steps fun r hsender hr => ?_) _ s
    simp [RelayOp.policy, RelayOp.sweeps, hsender, hr]
  | deleteUnconsumed =>
    exact report_keeps deleteUnconsumedConfirmations_steps _ s
  | cancelConfirmations sender now =>
    refine report_keeps (cancelConfirmationsAt_steps sender now fun r hsender hr => ?_) _ s
    simp [RelayOp.policy, RelayOp.sweeps, hsender, hr]
  | prepare =>
    rw [RelayOp.run, report_store]
    exact prepareControlDispatchAt_steps s fun row _ hfor hlive hclaim => ⟨hfor, hlive, hclaim⟩
  | persistOutcome claim cid outcome =>
    exact report_keeps (persistControlOutcomeAt_steps outcome rfl) _ s
  | failDispatch claim cid errorCode =>
    exact report_keeps (failControlDispatchAt_steps errorCode rfl) _ s
  | replaceSelection sender selectedDevice =>
    exact report_keeps (replaceSelectionAt_steps selectedDevice rfl) _ s
  | replaceCatalog sender selectedDevice kind =>
    exact report_keeps (replaceCatalogSelectionAt_steps selectedDevice kind rfl) _ s
  | deleteSelection => exact report_keeps deleteSelection_steps _ s
  | selectItem sender entry kind handle =>
    exact report_keeps (selectItemStatement_steps entry kind handle rfl) _ s
  | selectDevice sender deviceId =>
    exact report_keeps (selectDeviceStatement_steps deviceId rfl) _ s
  | retainOutbox config pageOpen =>
    exact report_keeps (deleteOutboxAt_steps config pageOpen) _ s
  | retainInbound config now => exact report_keeps (deleteInboundAt_steps config now rfl) _ s
  | retainContexts now => exact report_keeps (deleteExpiredContextsAt_steps now) _ s
  | retainConfirmations now =>
    exact report_keeps (deleteExpiredConfirmationsAt_steps now fun _ h => h) _ s
  | outbox op =>
    exact report_keeps (outboxKeeps_relaySteps (op.action_steps engine verifier.blake3
      (fun _ hu => hu) fun r hr => Or.inr ⟨op, rfl, hr⟩)) _ s
  | changeDevices =>
    refine report_keeps (execute_otherSteps ?_ ?_) _ s
    · exact fun _ => ⟨rfl, rfl, rfl⟩
    · exact fun _ => .of_eq rfl rfl

/-! ## Runs -/

/-- The store, every UUID drawn and every confirmation issued so far. -/
structure RelayWorld where
  store : RelayStore
  drawn : List Uuid
  issued : List String

/-- An operation that was carried out, the engine that carried it out, and what
it reported. -/
structure RelayEvent where
  engine : RelayEngine
  op : RelayOp
  result : RelayResult

/-- The world after an event, provided what it draws and issues is new. -/
def RelayWorld.next (verifier : ConfirmationVerifier) (w : RelayWorld) (e : RelayEvent) :
    Option RelayWorld :=
  if (e.op.draws.all fun u => !w.drawn.contains u) &&
      (e.op.issued.all fun pending => !w.issued.contains pending.confirmationId) &&
      (e.op.run e.engine verifier w.store).1 == e.result then
    some ⟨(e.op.run e.engine verifier w.store).2, e.op.draws ++ w.drawn,
      (e.op.issued.map PendingConfirmation.confirmationId).toList ++ w.issued⟩
  else
    none

/-- One event of the relay. -/
def RelayStep (verifier : ConfirmationVerifier) (w : RelayWorld) (e : RelayEvent)
    (w' : RelayWorld) : Prop :=
  w.next verifier e = some w'

/-- What a step of the relay is. -/
structure RelayStepSpec (verifier : ConfirmationVerifier) (w : RelayWorld) (e : RelayEvent)
    (w' : RelayWorld) : Prop where
  fresh : ∀ u ∈ e.op.draws, u ∉ w.drawn
  newId : ∀ pending, e.op.issued = some pending → pending.confirmationId ∉ w.issued
  run : e.op.run e.engine verifier w.store = (e.result, w'.store)
  drawn : w'.drawn = e.op.draws ++ w.drawn
  issued : w'.issued = (e.op.issued.map PendingConfirmation.confirmationId).toList ++ w.issued

section

variable {w w' : RelayWorld} {e : RelayEvent}

section

variable (h : RelayStep verifier w e w')

include h

/-- **What one step of the relay does**. -/
theorem relayStep_spec : RelayStepSpec verifier w e w' := by
  unfold RelayStep RelayWorld.next at h
  split at h
  · rename_i hcond
    simp only [Bool.and_eq_true, List.all_eq_true, Option.all_eq_true, beq_iff_eq,
      Bool.not_eq_true', List.contains_eq_mem, decide_eq_false_iff_not] at hcond
    obtain ⟨⟨hfresh, hnew⟩, hres⟩ := hcond
    cases h
    exact ⟨hfresh, hnew, Prod.ext hres rfl, rfl, rfl⟩
  · cases h

/-- Every event keeps to the policy of its operation. -/
theorem relayStep_steps : RelaySteps (e.op.policy verifier.blake3 w.store) w.store w'.store := by
  have hrun := (relayStep_spec h).run
  have hsteps := e.op.run_steps e.engine verifier w.store
  rwa [hrun] at hsteps

/-- A step keeps the row invariants. -/
theorem relayStep_valid (hw : w.store.Valid) : w'.store.Valid :=
  (relayStep_steps h).valid hw

/-- A step keeps the check of the schema. -/
theorem relayStep_check (hw : w.store.check = true) : w'.store.check = true :=
  (relayStep_steps h).check hw

end

end

end PromptDock
