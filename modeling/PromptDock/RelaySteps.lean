import PromptDock.InboundLife
import PromptDock.OutboxLife
import PromptDock.RetentionRounds

/-!
# What the relay's statements do

A statement of the relay moves commands and confirmations along their lives,
brings new rows in, and drops some.  A `StepPolicy` says how much of this an
operation may do; `RelayStatement` is one statement within a policy, and
`RelaySteps` any number of them.  Each operation of the inbound queue, of the
confirmations, of the selections and of retention is shown here, once, to keep
to a policy.  Arguments about runs use these facts and not the programs.
-/

namespace PromptDock

open RowTable StoreAction TableStatement Action RelayStore

/-- How much an operation may do. -/
structure StepPolicy where
  /-- Tokens that a claim may take. -/
  fresh : Uuid → Prop
  /-- Notifications that may enter the outbox. -/
  enters : OutboxRow → Prop
  /-- Commands that may arrive. -/
  arrives : InboundRow → Prop
  /-- Commands, by their key, that may be ended with their reply. -/
  replies : String → Prop
  /-- Ended commands may be dropped, with the confirmations bound to them. -/
  forgets : Prop
  /-- Confirmations that may be issued. -/
  issues : PendingConfirmation → Prop
  /-- Confirmations that may be consumed. -/
  consumes : ConfirmationRow → Prop
  /-- Confirmations that may be dropped although they were consumed. -/
  sweeps : ConfirmationRow → Prop
  /-- Outcomes and failures of control requests may be stored. -/
  settles : Prop
  /-- Selections may change. -/
  selects : Prop

/-- Nothing was selected: contexts and entries were dropped at most. -/
structure RelayStore.SelectionShrinks (s s' : RelayStore) : Prop where
  contexts : s'.selectionContexts ⊆ s.selectionContexts
  entries : s'.selectionEntries ⊆ s.selectionEntries

variable {s s' : RelayStore}

/-- Untouched selections have not grown. -/
theorem RelayStore.SelectionShrinks.of_eq (hctxs : s'.selectionContexts = s.selectionContexts)
    (hentries : s'.selectionEntries = s.selectionEntries) : s.SelectionShrinks s' :=
  ⟨hctxs ▸ List.Subset.refl _, hentries ▸ List.Subset.refl _⟩

/-- One statement within a policy. -/
structure RelayStatement (policy : StepPolicy) (s s' : RelayStore) : Prop where
  check : s'.check = true
  outbox : RowStep OutboxRow.id (OutboxMove policy.fresh) (fun r => r.Entered ∧ policy.enters r)
    s.notificationOutbox s'.notificationOutbox
  inbound : RowStep InboundRow.messageKey (InboundMove policy.fresh policy.replies) policy.arrives
    s.inboundCommands s'.inboundCommands
  inboundFate : RowFate InboundRow.messageKey (InboundMove policy.fresh policy.replies)
    (fun r => policy.forgets ∧ r.status.terminal = true) s.inboundCommands s'.inboundCommands
  confirmations : RowStep ConfirmationRow.confirmationId
    (ConfirmationMove policy.consumes policy.settles)
    (fun r => ∃ pending : PendingConfirmation, policy.issues pending ∧ r = pending.row)
    s.controlConfirmations s'.controlConfirmations
  confirmationFate : RowFate ConfirmationRow.confirmationId
    (ConfirmationMove policy.consumes policy.settles)
    (fun r => r.consumedAt = none ∨ policy.sweeps r ∨ policy.forgets)
    s.controlConfirmations s'.controlConfirmations
  selection : ¬ policy.selects → s.SelectionShrinks s'

/-- The check gives the row invariants back. -/
theorem RelayStatement.valid {policy : StepPolicy} (h : RelayStatement policy s s') : s'.Valid :=
  valid_of_check h.check

/-- Any number of statements, from a store that the schema accepts. -/
def RelaySteps (policy : StepPolicy) (s s' : RelayStore) : Prop :=
  s.Valid → Relation.ReflTransGen (RelayStatement policy) s s'

variable {engine : RelayEngine} {policy : StepPolicy} {s s' : RelayStore}

section

variable {ε : Type} {guard : RelayStore → ConfirmationRow → Bool}
  {change : ConfirmationRow → ConfirmationRow}

theorem RelayStatement.steps (h : RelayStatement policy s s') : RelaySteps policy s s' :=
  fun _ => .single h

/-- Statements keep the row invariants. -/
theorem RelaySteps.valid (h : RelaySteps policy s s') (hs : s.Valid) : s'.Valid := by
  rcases (h hs).cases_tail with rfl | ⟨_, _, hlast⟩
  · exact hs
  · exact hlast.valid

/-- Statements keep the check of the schema. -/
theorem RelaySteps.check (h : RelaySteps policy s s') (hs : s.check = true) : s'.check = true := by
  rcases (h (valid_of_check hs)).cases_tail with rfl | ⟨_, _, hlast⟩
  · exact hs
  · exact hlast.check

instance : Std.Refl (RelaySteps policy) := ⟨fun _ _ => .refl⟩

instance : IsTrans RelayStore (RelaySteps policy) :=
  ⟨fun _ _ _ h h' ha => (h ha).trans (h' (h.valid ha))⟩

/-! ## Statements on one table -/

/-- A statement on the outbox alone. -/
theorem relayStatement_outbox {rows : List OutboxRow}
    (hchk : ({ s with notificationOutbox := rows } : RelayStore).check = true)
    (hrows : RowStep OutboxRow.id (OutboxMove policy.fresh)
      (fun r => r.Entered ∧ policy.enters r) s.notificationOutbox rows) :
    RelayStatement policy s { s with notificationOutbox := rows } where
  check := hchk
  outbox := hrows
  inbound := .refl .stay _
  inboundFate := .refl .stay _
  confirmations := .refl .stay _
  confirmationFate := .refl .stay _
  selection _ := .of_eq rfl rfl

/-- A statement on the inbound commands alone. -/
theorem relayStatement_inbound {rows : List InboundRow}
    (hchk : ({ s with inboundCommands := rows } : RelayStore).check = true)
    (hrows : RowStep InboundRow.messageKey (InboundMove policy.fresh policy.replies)
      policy.arrives s.inboundCommands rows)
    (hfate : RowFate InboundRow.messageKey (InboundMove policy.fresh policy.replies)
      (fun r => policy.forgets ∧ r.status.terminal = true) s.inboundCommands rows) :
    RelayStatement policy s { s with inboundCommands := rows } where
  check := hchk
  outbox := .refl .stay _
  inbound := hrows
  inboundFate := hfate
  confirmations := .refl .stay _
  confirmationFate := .refl .stay _
  selection _ := .of_eq rfl rfl

/-- A statement on the confirmations alone. -/
theorem relayStatement_confirmations {rows : List ConfirmationRow}
    (hchk : ({ s with controlConfirmations := rows } : RelayStore).check = true)
    (hrows : RowStep ConfirmationRow.confirmationId
      (ConfirmationMove policy.consumes policy.settles)
      (fun r => ∃ pend : PendingConfirmation, policy.issues pend ∧ r = pend.row)
      s.controlConfirmations rows)
    (hfate : RowFate ConfirmationRow.confirmationId
      (ConfirmationMove policy.consumes policy.settles)
      (fun r => r.consumedAt = none ∨ policy.sweeps r ∨ policy.forgets)
      s.controlConfirmations rows) :
    RelayStatement policy s { s with controlConfirmations := rows } where
  check := hchk
  outbox := .refl .stay _
  inbound := .refl .stay _
  inboundFate := .refl .stay _
  confirmations := hrows
  confirmationFate := hfate
  selection _ := .of_eq rfl rfl

/-- The tables that policies speak of are the same. -/
structure RelayStore.SameCore (s s' : RelayStore) : Prop where
  outbox : s'.notificationOutbox = s.notificationOutbox
  inbound : s'.inboundCommands = s.inboundCommands
  confirmations : s'.controlConfirmations = s.controlConfirmations

/-- A statement on the tables that policies say nothing about. -/
theorem RelayStore.SameCore.relayStatement (h : s.SameCore s') (hchk : s'.check = true)
    (hselection : ¬ policy.selects → s.SelectionShrinks s') : RelayStatement policy s s' where
  check := hchk
  outbox := h.outbox ▸ .refl .stay _
  inbound := h.inbound ▸ .refl .stay _
  inboundFate := h.inbound ▸ .refl .stay _
  confirmations := h.confirmations ▸ .refl .stay _
  confirmationFate := h.confirmations ▸ .refl .stay _
  selection := hselection

/-- Statements on the outbox alone. -/
theorem OutboxSteps.relaySteps (h : OutboxSteps policy.fresh policy.enters s s') :
    RelaySteps policy s s' := by
  induction h with
  | refl => exact Std.Refl.refl _
  | tail _ hlast ih =>
    refine IsTrans.trans _ _ _ ih (RelayStatement.steps ?_)
    have hchk := hlast.check
    rw [hlast.frame] at hchk ⊢
    exact relayStatement_outbox hchk hlast.rows

/-- What is known of the outbox carries over. -/
theorem outboxKeeps_relaySteps {α : Type} {m : Relay ε α}
    (h : Keeps (OutboxSteps policy.fresh policy.enters) m) : Keeps (RelaySteps policy) m :=
  fun s => (h s).relaySteps

/-- An update of commands is judged row by row. -/
theorem update_inboundSteps {guard : RelayStore → InboundRow → Bool}
    {change : InboundRow → InboundRow}
    (hmove : ∀ s r, guard s r = true → InboundMove policy.fresh policy.replies r (change r)) :
    Keeps (RelaySteps policy) (update engine inboundTable guard change : Relay ε Nat) := by
  refine update_keeps fun s hchk => RelayStatement.steps ?_
  have hrow : ∀ r ∈ s.inboundCommands, guard s r = true → r.messageKey = (change r).messageKey ∧
        InboundMove policy.fresh policy.replies r (change r) :=
    fun r _ hg => ⟨(hmove s r hg).fixed_columns.1.symm, hmove s r hg⟩
  exact relayStatement_inbound hchk (.update .stay hrow) (.update .stay hrow)

theorem updateOne_inboundSteps {guard : RelayStore → InboundRow → Bool}
    {change : InboundRow → InboundRow}
    (hmove : ∀ s r, guard s r = true → InboundMove policy.fresh policy.replies r (change r)) :
    Keeps (RelaySteps policy) (updateOne engine inboundTable guard change : Relay ε Bool) :=
  .bind (update_inboundSteps hmove) fun _ => .pure _

/-- An update of confirmations is judged row by row. -/
theorem relayStatement_updateConfirmations {guard : ConfirmationRow → Bool} (hchk : ({ s with
      controlConfirmations := updateWhere guard change s.controlConfirmations } :
        RelayStore).check = true) (hmove : ∀ r ∈ s.controlConfirmations, guard r = true →
      ConfirmationMove policy.consumes policy.settles r (change r)) :
    RelayStatement policy s
      { s with controlConfirmations := updateWhere guard change s.controlConfirmations } := by
  have hrow : ∀ r ∈ s.controlConfirmations, guard r = true →
      r.confirmationId = (change r).confirmationId ∧
        ConfirmationMove policy.consumes policy.settles r (change r) :=
    fun r hr hg => ⟨(hmove r hr hg).id_eq.symm, hmove r hr hg⟩
  exact relayStatement_confirmations hchk (.update .stay hrow) (.update .stay hrow)

section

variable
  (hmove : ∀ s r, guard s r = true → ConfirmationMove policy.consumes policy.settles r (change r))

include hmove

theorem update_confirmationSteps
    : Keeps (RelaySteps policy) (update engine confirmationTable guard change : Relay ε Nat) := by
  refine update_keeps fun s hchk => RelayStatement.steps ?_
  exact relayStatement_updateConfirmations hchk fun r _ => hmove s r

theorem updateOne_confirmationSteps
    : Keeps (RelaySteps policy) (updateOne engine confirmationTable guard change : Relay ε Bool) :=
  .bind (update_confirmationSteps hmove) fun _ => .pure _

end

/-- Consumed confirmations go only where they may be swept. -/
theorem delete_confirmationSteps
    (hdrop : ∀ s : RelayStore, s.Valid → ∀ r ∈ s.controlConfirmations, guard s r = true →
      r.consumedAt = none ∨ policy.sweeps r) : Keeps (RelaySteps policy)
      (delete engine confirmationTable guard id : Relay ε Nat) := by
  refine delete_keeps fun s hchk hs => .single ?_
  refine relayStatement_confirmations hchk (.delete .stay _ _) ?_
  refine .delete .stay fun r hr hg => ?_
  rcases hdrop s hs r hr hg with h | h
  · exact .inl h
  · exact .inr (.inl h)

/-- What is inserted was issued. -/
theorem insert_confirmationSteps {pend : PendingConfirmation} (hissues : policy.issues pend) :
    Keeps (RelaySteps policy) (insert engine confirmationTable pend.row : Relay ε Unit) := by
  refine .execute fun s hchk => RelayStatement.steps ?_
  have hvalid := valid_of_check hchk
  exact relayStatement_confirmations hchk
    (.insert .stay hvalid.confirmationIds.key_new ⟨pend, hissues, rfl⟩) (.insert .stay _ _)

/-! ## Statements on the other tables -/

/-- A statement on other tables moves no row of these. -/
theorem execute_otherSteps {stmt : RelayStore → RelayStore}
    (hcore : ∀ s : RelayStore, s.SameCore (stmt s))
    (hselection : ∀ s : RelayStore, s.SelectionShrinks (stmt s)) :
    Keeps (RelaySteps policy) (execute engine stmt : Relay ε Unit) :=
  .execute fun s hchk =>
    ((hcore s).relayStatement hchk fun _ => hselection s).steps

/-- With a context go its entries. -/
theorem delete_contextSteps (guard : RelayStore → SelectionContextRow → Bool) :
    Keeps (RelaySteps policy)
      (delete engine contextTable guard dropOrphanEntries : Relay ε Nat) := by
  refine delete_keeps fun s hchk => RelayStatement.steps ?_
  refine SameCore.relayStatement ⟨rfl, rfl, rfl⟩ hchk fun _ => ⟨?_, ?_⟩
  · exact fun c hc => (mem_deleteWhere.mp hc).1
  · exact fun e he => (List.mem_filter.mp he).1

variable (hselects : policy.selects)

include hselects

/-- Contexts may be written at any time. -/
theorem contextTable_put_steps (s : RelayStore) (rows : List SelectionContextRow)
    (hchk : (contextTable.put s rows).check = true) :
    RelaySteps policy s (contextTable.put s rows) :=
  RelayStatement.steps (SameCore.relayStatement ⟨rfl, rfl, rfl⟩ hchk (absurd hselects))

/-- Entries may be written where selections may. -/
theorem entryTable_put_steps (s : RelayStore) (rows : List SelectionEntryRow)
    (hchk : (entryTable.put s rows).check = true) : RelaySteps policy s (entryTable.put s rows) :=
  RelayStatement.steps (SameCore.relayStatement ⟨rfl, rfl, rfl⟩ hchk (absurd hselects))

theorem upsert_contextSteps (conflict : SelectionContextRow → Bool) (row : SelectionContextRow)
    (change : SelectionContextRow → SelectionContextRow) : Keeps (RelaySteps policy)
      (upsert engine contextTable conflict row change : Relay ε Unit) :=
  upsert_keeps_put (contextTable_put_steps hselects) conflict row change

theorem updateOne_contextSteps (guard : RelayStore → SelectionContextRow → Bool)
    (change : SelectionContextRow → SelectionContextRow) : Keeps (RelaySteps policy)
      (updateOne engine contextTable guard change : Relay ε Bool) :=
  updateOne_keeps_put (contextTable_put_steps hselects) guard
    change

end

/-! ## What several statements keep -/

variable {r : ConfirmationRow} {confirmationId : String}

namespace RelaySteps

section

variable (h : RelaySteps policy s s')

include h

/-- What holds at first and after each change from a valid store holds at the end. -/
@[elab_as_elim]
theorem induct (hs : s.Valid) {P : RelayStore → Prop} (first : P s)
    (step : ∀ {s₁ s₂}, s₁.Valid → RelayStatement policy s₁ s₂ → P s₁ → P s₂) : P s' := by
  have hsteps := h hs
  clear h
  induction hsteps with
  | refl => exact first
  | tail hfst hlast ih => exact step (RelaySteps.valid (fun _ => hfst) hs) hlast ih

section

variable (hs : s.Valid)

include hs

/-- No notification of an origin appears if none of that origin may enter. -/
theorem outbox_of_origin {origin : String} (henter : ∀ r, policy.enters r → r.originKey ≠ origin) :
    ∀ o ∈ s'.notificationOutbox, o.originKey = origin →
      ∃ o0 ∈ s.notificationOutbox, o0.id = o.id ∧ o0.originKey = o.originKey ∧
        o0.notificationId = o.notificationId := by
  refine h.induct hs (fun o ho _ => ⟨o, ho, rfl, rfl, rfl⟩) fun _ hlast ih => ?_
  intro o ho horig
  rcases hlast.outbox o ho with ⟨o1, ho1, hid, hmove⟩ | ⟨_, _, hnew⟩
  · obtain ⟨hkey, hname⟩ := hmove.name_eq
    obtain ⟨o0, ho0, hid0, hkey0, hname0⟩ := ih o1 ho1 (hkey ▸ horig)
    exact ⟨o0, ho0, hid0.trans hid, hkey0.trans hkey.symm, hname0.trans hname.symm⟩
  · exact absurd horig (henter o hnew)

/-- A command that ended stays as it is while nothing may be forgotten. -/
theorem inbound_of_terminal
    (hkeeps : ¬ policy.forgets) {c : InboundRow} (hc : c ∈ s.inboundCommands)
    (hend : c.status.terminal = true) : c ∈ s'.inboundCommands := by
  refine h.induct hs hc fun _ hlast ih => ?_
  exact hlast.inboundFate.mem_of_fixed ih (fun _ hmove => hmove.eq_of_terminal hend)
    fun hdrop => hkeeps hdrop.1

/-- No command is answered if none may be. -/
theorem replyQueued_of_mem (hrep : ∀ key, ¬ policy.replies key)
    (harrives : ∀ r, policy.arrives r → r.status ≠ .replyQueued) :
    ∀ c ∈ s'.inboundCommands, c.status = .replyQueued → c ∈ s.inboundCommands := by
  refine h.induct hs (fun _ hc _ => hc) fun _ hlast ih => ?_
  intro c hc hq
  rcases hlast.inbound c hc with ⟨c1, hc1, _, hmove⟩ | ⟨_, hnew⟩
  · rcases hmove.replyQueued_cases hq with heq | hreply
    · subst heq
      exact ih c hc1 hq
    · exact absurd hreply (hrep _)
  · exact absurd hq (harrives c hnew)

/-- A cancelled confirmation stays as it is, unless it may be consumed, and its
id names no other confirmation, unless it may be issued again. -/
theorem cancelled_of_id (hcanc : ∀ r ∈ s.controlConfirmations, r.confirmationId = confirmationId →
      r.dispatchState = .cancelled ∧ ¬ policy.consumes r)
    (hissues : ∀ pend, policy.issues pend → pend.confirmationId ≠ confirmationId) :
    ∀ r ∈ s'.controlConfirmations, r.confirmationId = confirmationId →
      r ∈ s.controlConfirmations := by
  refine h.induct hs (fun r hr _ => hr) fun _ hlast ih => ?_
  intro r hr hid
  rcases hlast.confirmations r hr with ⟨r1, hr1, hid1, hmove⟩ | ⟨_, pend, hnew, rfl⟩
  · have hold := ih r1 hr1 (hid1.trans hid)
    obtain ⟨hst, hfree⟩ := hcanc r1 hold (hid1.trans hid)
    rcases hmove.eq_of_cancelled hst with rfl | hcons
    · exact hold
    · exact absurd hcons hfree
  · exact absurd hid (hissues pend hnew)

/-- A confirmation with a stored outcome or failure stays as it is, unless it
may be swept or forgotten. -/
theorem settled_kept (hr : r ∈ s.controlConfirmations) (hbound : r.dispatchMessageKey.isSome = true)
    (hcons : r.consumedAt ≠ none) (hset : r.dispatchState.settled = true)
    (hsweep : ¬ policy.sweeps r) (hforgets : ¬ policy.forgets) : r ∈ s'.controlConfirmations := by
  refine h.induct hs hr fun _ hlast ih => ?_
  refine hlast.confirmationFate.mem_of_fixed ih ?_ ?_
  · exact fun _ hmove => hmove.eq_of_settled hbound hset
  rintro (h | h | h)
  · exact hcons h
  · exact hsweep h
  · exact hforgets h

/-- Every confirmation is a version of one that was there, or was issued. -/
theorem confirmation_versions : ∀ r ∈ s'.controlConfirmations,
      (∃ r0 ∈ s.controlConfirmations, r0.confirmationId = r.confirmationId ∧ r0.Precedes r ∧
        (r.dispatchState.settled = true → r = r0 ∨ policy.settles)) ∨
      ∃ pend, policy.issues pend ∧ pend.confirmationId = r.confirmationId ∧
        pend.scope = r.scope ∧ (r.dispatchState.settled = true → policy.settles) := by
  refine h.induct hs (fun r hr => .inl ⟨r, hr, rfl, .refl r, fun _ => .inl rfl⟩)
    fun hvalid hlast ih => ?_
  intro r hr
  rcases hlast.confirmations r hr with ⟨r1, hr1, hid1, hmove⟩ | ⟨_, pend, hnew, rfl⟩
  · have hver := hmove.precedes (hvalid.confirmationRows r1 hr1)
    rcases ih r1 hr1 with ⟨r0, hr0, hid0, hprec, hold⟩ | ⟨pend, hnew, hid0, hscope0, hold⟩
    · refine .inl ⟨r0, hr0, hid0.trans hid1, hprec.trans hver, fun hset => ?_⟩
      rcases hmove.settled_cases hset with rfl | hsettles
      · exact hold hset
      · exact .inr hsettles
    · refine .inr ⟨pend, hnew, hid0.trans hid1, hscope0.trans hver.scope.symm, fun hset => ?_⟩
      rcases hmove.settled_cases hset with rfl | hsettles
      · exact hold hset
      · exact hsettles
  · exact .inr ⟨pend, hnew, rfl, rfl, fun hset => nomatch hset⟩

end

end

end RelaySteps

/-! ## Guards -/

variable {messageKey : String} {token : Uuid}

/-- The guard on a claimed command. -/
theorem InboundRow.heldBy_iff {r : InboundRow} : r.heldBy messageKey token = true ↔
      r.messageKey = messageKey ∧ r.status.claimed = true ∧ r.claimToken = some token := by
  simp [InboundRow.heldBy, and_assoc]

variable {now : Timestamp}

/-- The guard on a command that has not expired. -/
theorem InboundRow.heldLive_iff {status : InboundStatus} {r : InboundRow} :
    r.heldLive messageKey token status now = true ↔
      r.messageKey = messageKey ∧ r.status = status ∧ r.claimToken = some token ∧
        now < r.expiresAt := by
  simp [InboundRow.heldLive, and_assoc]

/-- The guard on a sender's confirmation. -/
theorem ConfirmationRow.isFor_iff {sender : String} : r.isFor sender confirmationId = true ↔
      r.scope.senderFingerprint = sender ∧ r.confirmationId = confirmationId := by
  simp [ConfirmationRow.isFor]

variable {ε : Type}

namespace InboundCommandService

variable {blake3 : Blake3} {rowId : Uuid} {claim : ClaimedInboundCommand}
  {reply : InteractiveReplyV1} {now : Timestamp} {sender confirmationId : String}
  {entries : List SelectionEntry}

/-! ## The queue -/

/-- A replay is only read. -/
theorem recogniseReplay_steps (durable : DurableInboundCommand) :
    Keeps (RelaySteps policy) (recogniseReplay durable) := by
  refine .bind .read fun s => ?_
  split
  · exact .reject _
  split
  · exact .pure _
  · exact .reject _

/-- The accepted command arrives. -/
theorem acceptWithStatus_steps (durable : DurableInboundCommand) (initialStatus : InboundStatus)
    (canc : CancelPoint) (harrives : policy.arrives (durable.row initialStatus)) :
    Keeps (RelaySteps policy) (acceptWithStatus engine durable initialStatus canc) := by
  unfold acceptWithStatus
  split
  · exact .reject _
  refine .transaction (.bind ?_ fun inserted => ?_)
  · refine insertUnless_keeps fun s _ hchk => RelayStatement.steps ?_
    have hvalid := valid_of_check hchk
    exact relayStatement_inbound hchk
      (.insert .stay hvalid.messageKeys.key_new harrives) (.insert .stay _ _)
  refine .bind ?_ fun outcome => ?_
  · split
    · exact .pure _
    · exact recogniseReplay_steps durable
  · split
    · exact .reject _
    · exact .pure _

/-- Expired commands end, and stale ones are ready again. -/
theorem recoverStaleClaimsAt_steps :
    Keeps (RelaySteps policy) (recoverStaleClaimsAt engine now) := by
  have hwait : ∀ r : InboundRow, r.status = .waitingGateway → r.status.claimed = true := by
    intro r h
    rw [h]
    rfl
  refine .transaction ?_
  refine .bind (update_inboundSteps fun s r hg => .expire now ?_) fun _ => ?_
  · simp only [Bool.and_eq_true, Bool.not_eq_true'] at hg
    exact hg.1
  refine .bind (update_inboundSteps fun s r hg => ?_) fun _ => ?_
  · simp only [Bool.and_eq_true, decide_eq_true_eq] at hg
    exact .requeue _ _ now (hwait r hg.1.1)
  refine .bind (update_inboundSteps fun s r hg => ?_) fun _ => ?_
  · simp only [Bool.and_eq_true, decide_eq_true_eq] at hg
    exact .requeue _ _ now (hwait r hg.1.1)
  refine .bind .read fun _ => ?_
  refine .bind (update_inboundSteps fun s r hg => ?_) fun _ => .pure _
  simp only [Bool.and_eq_true, decide_eq_true_eq] at hg
  refine .requeue _ _ now ?_
  rw [hg.1.1]
  rfl

/-- A command is claimed under a fresh token. -/
theorem claimNextAt_steps (hfresh : policy.fresh token) (cancelled : Bool) :
    Keeps (RelaySteps policy) (claimNextAt engine token now cancelled) := by
  unfold claimNextAt
  split
  · exact .pure _
  refine .bind .read fun _ => ?_
  refine .bind ?_ fun _ => .pure _
  refine update_inboundSteps fun s r hg => .claim now ?_ hfresh
  simp only [nextReady, Bool.and_eq_true, decide_eq_true_eq] at hg
  exact hg.2

/-- A released command is ready again. -/
theorem releaseClaimAt_steps : Keeps (RelaySteps policy) (releaseClaimAt engine claim now) :=
  updateOne_inboundSteps fun _ _ hg => .release now (InboundRow.heldBy_iff.mp hg).2.1

/-- A dead letter was claimed. -/
theorem deadLetterAt_steps (errorCode : String) :
    Keeps (RelaySteps policy) (deadLetterAt engine claim errorCode now) :=
  updateOne_inboundSteps fun _ _ hg =>
    .deadLetter errorCode now (InboundRow.heldBy_iff.mp hg).2.1

theorem waitGateway_steps :
    Keeps (RelaySteps policy) (waitGateway engine claim now : Relay ε Bool) :=
  updateOne_inboundSteps fun _ _ hg =>
    .waitGateway now (InboundRow.heldLive_iff.mp hg).2.1

/-- An interrupted command is ready again. -/
theorem interruptClaimAt_steps : Keeps (RelaySteps policy) (interruptClaimAt engine claim now) :=
  .bind .read fun _ =>
    updateOne_inboundSteps fun _ _ hg =>
      .requeue _ _ now (InboundRow.heldBy_iff.mp hg).2.1

/-- A dispatch that is tried again gives its claim up. -/
theorem retryControlDispatchAt_steps :
    Keeps (RelaySteps policy) (retryControlDispatchAt engine claim now) := by
  refine updateOne_inboundSteps fun _ r hg => .requeue _ _ now ?_
  rw [(InboundRow.heldLive_iff.mp hg).2.1]
  rfl

/-! ## Replies -/

/-- A command ends with the reply it may have. -/
theorem endWithReply_steps (nid : String) (hrep : policy.replies claim.messageKey) :
    Keeps (RelaySteps policy) (endWithReply engine claim nid now) := by
  refine updateOne_inboundSteps fun _ r hg => ?_
  simp only [Bool.and_eq_true] at hg
  obtain ⟨hkey, hclaim, _⟩ := InboundRow.heldBy_iff.mp hg.1
  exact .queueReply nid now hclaim (hkey ▸ hrep)

/-- The staged reply enters the outbox. -/
theorem stageReply_steps (henter : policy.enters (replyRow blake3 rowId reply now)) :
    Keeps (RelaySteps policy) (orReject InboundWorkerError.outbox
      (OutboxService.stageSystemReplyIn engine blake3 rowId reply now)) :=
  .orReject (outboxKeeps_relaySteps (OutboxService.stageSystemReplyIn_steps henter)) _

private theorem commitIf_steps (updated : Bool) : Keeps (RelaySteps policy)
      ((if updated then pure (.commit true) else pure (.rollback false)) :
        Relay InboundWorkerError (Finish Bool)) := by
  split <;> exact .pure _

/-- The reply enters and its command ends. -/
theorem queueReplyAt_steps (henter : policy.enters (replyRow blake3 rowId reply now))
    (hrep : policy.replies claim.messageKey) :
    Keeps (RelaySteps policy) (queueReplyAt engine blake3 rowId claim reply now) := by
  unfold queueReplyAt
  split
  · exact .reject _
  refine .transaction ?_
  refine .bind (stageReply_steps henter) fun _ => ?_
  exact .bind (endWithReply_steps _ hrep) commitIf_steps

/-! ## Confirmations -/

/-- A wrong code is counted, and an expired confirmation cancelled. -/
theorem resolveConfirmationCode_steps (ver : ConfirmationVerifier) (code : String) :
    Keeps (RelaySteps policy) (resolveConfirmationCode engine ver sender code now) := by
  refine .transaction (.bind .read fun s => ?_)
  split
  · exact .pure _
  split
  · refine .bind (update_confirmationSteps fun _ r hg => .cancel ?_) fun _ => .pure _
    simp only [Bool.and_eq_true, decide_eq_true_eq] at hg
    exact hg.2
  split
  · exact .pure _
  split
  · exact .pure _
  refine .bind (updateOne_confirmationSteps fun _ r hg => .failAttempt now ?_) fun _ => ?_
  · simp only [Bool.and_eq_true, decide_eq_true_eq] at hg
    exact hg.1.1.2
  · split <;> exact .pure _

/-- Expired confirmations may be swept. -/
theorem deleteExpiredConfirmationsIn_steps
    (hsweep : ∀ r : ConfirmationRow, r.expiredAt now = true → policy.sweeps r) :
    Keeps (RelaySteps policy) (deleteExpiredConfirmationsIn engine now) :=
  delete_confirmationSteps fun _ _ r _ hg => .inr (hsweep r hg)

theorem deleteExpiredConfirmations_steps
    (hsweep : ∀ r : ConfirmationRow, r.scope.senderFingerprint = sender →
      r.expiredAt now = true → policy.sweeps r) :
    Keeps (RelaySteps policy) (deleteExpiredConfirmations engine sender now) := by
  refine delete_confirmationSteps fun _ _ r _ hg => .inr ?_
  simp only [Bool.and_eq_true, beq_iff_eq] at hg
  exact hsweep r hg.1 hg.2

/-- Only unconsumed confirmations are withdrawn. -/
theorem deleteUnconsumedConfirmations_steps :
    Keeps (RelaySteps policy) (deleteUnconsumedConfirmations engine sender) := by
  refine delete_confirmationSteps fun _ _ r _ hg => .inl ?_
  simp only [Bool.and_eq_true, Option.isNone_iff_eq_none] at hg
  exact hg.2

/-- The reply enters, and its confirmation is issued. -/
theorem queueReplyWithConfirmationAt_steps (conf : PendingConfirmation)
    (henter : policy.enters (replyRow blake3 rowId reply now))
    (hrep : policy.replies claim.messageKey) (hissues : policy.issues conf)
    (hsweep : ∀ r : ConfirmationRow, r.expiredAt now = true → policy.sweeps r) :
    Keeps (RelaySteps policy)
      (queueReplyWithConfirmationAt engine blake3 rowId claim reply conf now) := by
  unfold queueReplyWithConfirmationAt
  split
  · exact .reject _
  refine .transaction ?_
  refine .bind (deleteExpiredConfirmationsIn_steps hsweep) fun _ => ?_
  refine .bind (update_confirmationSteps fun _ r hg => .cancel ?_) fun _ => ?_
  · simp only [ConfirmationRow.awaits, Bool.and_eq_true, decide_eq_true_eq] at hg
    exact hg.2
  refine .bind (insert_confirmationSteps hissues) fun _ => ?_
  refine .bind (stageReply_steps henter) fun _ => ?_
  exact .bind (endWithReply_steps _ hrep) commitIf_steps

/-- Only a pending dispatch is settled. -/
theorem settleDispatch_steps (change : ConfirmationRow → ConfirmationRow)
    (hmove : ∀ r : ConfirmationRow, r.dispatchState = .pending →
      ConfirmationMove policy.consumes policy.settles r (change r)) :
    Keeps (RelaySteps policy) (settleDispatch engine claim confirmationId change now) := by
  refine .transaction ?_
  refine .bind (updateOne_confirmationSteps fun _ r hg => hmove r ?_) commitIf_steps
  simp only [dispatchHeld, Bool.and_eq_true, decide_eq_true_eq] at hg
  exact hg.1.2

/-- The outcome of a dispatch is stored once. -/
theorem persistControlOutcomeAt_steps (outcome : ControlDispatchOutcome)
    (hset : policy.settles) : Keeps (RelaySteps policy)
      (persistControlOutcomeAt engine claim confirmationId outcome now) :=
  settleDispatch_steps _ fun _ hpend => .storeOutcome outcome hpend hset

/-- A failed dispatch is settled once. -/
theorem failControlDispatchAt_steps (errorCode : String) (hset : policy.settles) :
    Keeps (RelaySteps policy) (failControlDispatchAt engine claim confirmationId errorCode now) :=
  settleDispatch_steps _ fun _ hpend => .storeFailure errorCode hpend hset

/-! ## The control dispatch -/

/-- The statement that consumes a confirmation. -/
abbrev consumeStatement (engine : RelayEngine) (claim : ClaimedInboundCommand)
    (confirmationId : String) (now : Timestamp) : Relay ConfirmationConsumeError Bool :=
  updateOne engine confirmationTable
    (fun _ r => r.isFor claim.senderFingerprint confirmationId &&
      r.consumedAt.isNone && r.dispatchMessageKey.isNone && now < r.scope.expiresAt)
    (ConfirmationRow.consume claim.messageKey now)

/-- The three ways to prepare a control dispatch: its result is stored already,
it is taken up again, or its confirmation is consumed now. -/
inductive Prepared (engine : RelayEngine) (claim : ClaimedInboundCommand)
    (confirmationId : String) (now : Timestamp) (s : RelayStore) :
    ControlDispatchRecord → RelayStore → Prop where
  | stored {row : ConfirmationRow} {record : ControlDispatchRecord}
      (hrow : row ∈ s.controlConfirmations)
      (hfor : row.isFor claim.senderFingerprint confirmationId = true)
      (hbound : row.dispatchMessageKey = some claim.messageKey)
      (hsettled : row.dispatchState ≠ .pending) (hrecord : row.dispatchRecord = some record) :
      Prepared engine claim confirmationId now s record s
  | resumed {row : ConfirmationRow} {s' : RelayStore} (hrow : row ∈ s.controlConfirmations)
      (hfor : row.isFor claim.senderFingerprint confirmationId = true)
      (hbound : row.dispatchMessageKey = some claim.messageKey)
      (hpending : row.dispatchState = .pending)
      (hwait : (waitGateway engine claim now : Relay ConfirmationConsumeError Bool) s =
        (.ok true, s')) :
      Prepared engine claim confirmationId now s ⟨row.record, none, none⟩ s'
  | consumed {row : ConfirmationRow} {s₁ s' : RelayStore} (hrow : row ∈ s.controlConfirmations)
      (hfor : row.isFor claim.senderFingerprint confirmationId = true)
      (hunbound : row.dispatchMessageKey = none) (hlive : now < row.scope.expiresAt)
      (hunconsumed : row.consumedAt = none)
      (hconsume : consumeStatement engine claim confirmationId now s = (.ok true, s₁))
      (hwait : (waitGateway engine claim now : Relay ConfirmationConsumeError Bool) s₁ =
        (.ok true, s')) :
      Prepared engine claim confirmationId now s ⟨row.record, none, none⟩ s'

/-- What a prepared dispatch says of the store. -/
theorem prepareControlDispatchAt_eq_ok {record : ControlDispatchRecord}
    (h : prepareControlDispatchAt engine claim confirmationId now s = (.ok record, s')) :
    Prepared engine claim confirmationId now s record s' := by
  simp only [prepareControlDispatchAt, transaction_eq_ok, read_bind_run] at h
  cases hfind : s.controlConfirmations.find?
      (ConfirmationRow.isFor claim.senderFingerprint confirmationId) with
  | none => simp [hfind] at h
  | some row =>
    have hrow := List.mem_of_find?_eq_some hfind
    have hfor := List.find?_some hfind
    cases hkey : row.dispatchMessageKey with
    | some messageKey =>
      by_cases hsame : messageKey = claim.messageKey
      · subst hsame
        by_cases hpend : row.dispatchState = .pending
        · have hrec : row.dispatchRecord = some ⟨row.record, none, none⟩ := by
            simp [ConfirmationRow.dispatchRecord, hpend]
          simp only [hfind, hkey, hpend, hrec, bne_self_eq_false, Bool.false_eq_true, if_false,
            bind_unless_eq_ok] at h
          rcases h with ⟨s1, hwait, hcom⟩ | ⟨_, _, s1, _, hcom⟩
          · simp at hcom
            obtain ⟨rfl, rfl⟩ := hcom
            exact .resumed hrow hfor hkey hpend hwait
          · simp at hcom
        · cases hrec : row.dispatchRecord with
          | none => simp [hfind, hkey, hpend, hrec] at h
          | some stored =>
            simp [hfind, hkey, hpend, hrec] at h
            obtain ⟨rfl, rfl⟩ := h
            exact .stored hrow hfor hkey hpend hrec
      · simp [hfind, hkey, hsame] at h
    | none =>
      by_cases hexp : row.scope.expiresAt ≤ now
      · simp [hfind, hkey, hexp] at h
      cases hcons : row.consumedAt with
      | some => simp [hfind, hkey, hexp, hcons] at h
      | none =>
        simp only [hfind, hkey, hexp, hcons, if_false, Option.isSome_none,
          Bool.false_eq_true, bind_unless_eq_ok] at h
        rcases h with ⟨s1, hconsume, s2, hwait, hcom⟩ | ⟨_, _, s1, _, s2, _, hcom⟩
        · simp at hcom
          obtain ⟨rfl, rfl⟩ := hcom
          exact .consumed hrow hfor hkey (Int.not_le.mp hexp) hcons hconsume hwait
        · simp at hcom

/-- A dispatch that cannot be prepared changes nothing. -/
theorem prepareControlDispatchAt_eq_error {e : Failure ConfirmationConsumeError}
    (h : prepareControlDispatchAt engine claim confirmationId now s = (.error e, s')) : s' = s :=
  (transaction_eq_error.mp h).1

/-- The claim holds its command, unexpired and not yet sent to the gateway. -/
def claimDispatching (claim : ClaimedInboundCommand) (now : Timestamp) (s : RelayStore) : Prop :=
  ∃ c ∈ s.inboundCommands,
    c.heldLive claim.messageKey claim.claimToken .dispatching now = true

/-- A command is set aside only while it is dispatching. -/
theorem waitGateway_eq_true (h : (waitGateway engine claim now : Relay ε Bool) s = (.ok true, s')) :
    claimDispatching claim now s := by
  obtain ⟨_, hone, _⟩ := updateOne_eq_true.mp h
  obtain ⟨c, hc, hheld⟩ := affected_pos.mp (hone ▸ Nat.one_pos)
  exact ⟨c, hc, hheld⟩

/-- A confirmation is consumed only while its command is dispatching. -/
theorem prepareControlDispatchAt_steps (s : RelayStore) (hcons : ∀ row ∈ s.controlConfirmations,
      row.isFor claim.senderFingerprint confirmationId = true → now < row.scope.expiresAt →
      claimDispatching claim now s → policy.consumes row) :
    RelaySteps policy s (prepareControlDispatchAt engine claim confirmationId now s).2 := by
  rcases hrun : prepareControlDispatchAt engine claim confirmationId now s with ⟨e | record, s'⟩
  · rw [prepareControlDispatchAt_eq_error hrun]
    exact Std.Refl.refl s
  have hwaits : ∀ {a b : RelayStore},
      (waitGateway engine claim now : Relay ConfirmationConsumeError Bool) a = (.ok true, b) →
      RelaySteps policy a b := by
    intro a b hwait
    have hsteps : RelaySteps policy a
        (waitGateway (ε := ConfirmationConsumeError) engine claim now a).2 :=
      waitGateway_steps a
    rwa [hwait] at hsteps
  cases prepareControlDispatchAt_eq_ok hrun with
  | stored => exact Std.Refl.refl s
  | resumed hrow hfor hbound hpend hwait => exact hwaits hwait
  | consumed hrow hfor hunbound hlive hunconsumed hconsume hwait =>
    obtain ⟨hacc, _, rfl⟩ := updateOne_eq_true.mp hconsume
    -- the claim is looked up after the confirmation changed, in the same commands
    have hclaim := waitGateway_eq_true hwait
    refine IsTrans.trans _ _ _ (RelayStatement.steps ?_) (hwaits hwait)
    refine relayStatement_updateConfirmations (engine.sound _ hacc) fun r hr hg => ?_
    simp only [Bool.and_eq_true, Option.isNone_iff_eq_none, decide_eq_true_eq] at hg
    obtain ⟨⟨⟨hfor, hfree⟩, hloose⟩, hunexpired⟩ := hg
    exact .consume claim.messageKey now hfree hloose (hcons r hr hfor hunexpired hclaim)

/-! ## Selections -/

/-- Entries are replaced where selections may be written. -/
theorem replaceEntries_steps (hselects : policy.selects) :
    Keeps (RelaySteps policy) (replaceEntries engine sender entries) :=
  .bind (delete_keeps_put (entryTable_put_steps hselects) _)
    fun _ => insertAll_keeps_put (entryTable_put_steps hselects) _

/-- Making room for a context drops another with its entries. -/
theorem evictContext_steps : Keeps (RelaySteps policy) (evictContext engine sender) := by
  refine .bind .read fun s => ?_
  split
  · split
    · exact .pure _
    · exact .bind (delete_contextSteps _) fun _ => .pure _
  · exact .pure _

theorem replaceSelectionAt_steps (selectedDevice : Option Uuid) (hselects : policy.selects) :
    Keeps (RelaySteps policy) (replaceSelectionAt engine sender selectedDevice entries now) := by
  unfold replaceSelectionAt
  split
  · exact .reject _
  refine .transaction (.bind (delete_contextSteps _) fun _ => ?_)
  refine .bind evictContext_steps fun _ => ?_
  refine .bind (upsert_contextSteps hselects _ _ _) fun _ => ?_
  exact .bind (replaceEntries_steps hselects) fun _ => .pure _

theorem replaceCatalogSelectionAt_steps (selectedDevice : Uuid) (kind : CatalogKind)
    (hselects : policy.selects) : Keeps (RelaySteps policy)
      (replaceCatalogSelectionAt engine sender selectedDevice kind entries now) := by
  unfold replaceCatalogSelectionAt
  split
  · exact .reject _
  refine .transaction ?_
  refine .bind (upsert_contextSteps hselects _ _ _) fun _ => ?_
  exact .bind (replaceEntries_steps hselects) fun _ => .pure _

/-- The reply enters with the page it lists. -/
theorem queueReplyWithJobPageAt_steps (selection : PendingJobPageSelection)
    (henter : policy.enters (replyRow blake3 rowId reply now))
    (hrep : policy.replies claim.messageKey) (hselects : policy.selects) : Keeps (RelaySteps policy)
      (queueReplyWithJobPageAt engine blake3 rowId claim reply selection now) := by
  unfold queueReplyWithJobPageAt
  split
  · exact .reject _
  refine .transaction ?_
  refine .bind (stageReply_steps henter) fun _ => ?_
  refine .bind (upsert_contextSteps hselects _ _ _) fun _ => ?_
  refine .bind (replaceEntries_steps hselects) fun _ => ?_
  exact .bind (endWithReply_steps _ hrep) commitIf_steps

theorem deleteSelection_steps : Keeps (RelaySteps policy) (deleteSelection engine sender) :=
  .bind (delete_contextSteps _) fun _ => .pure _

theorem selectItemStatement_steps (entry : SelectionEntry) (kind : SelectionItemKind)
    (handle : String) (hselects : policy.selects) : Keeps (RelaySteps policy)
      (selectItemStatement engine sender entry kind handle now) :=
  updateOne_contextSteps hselects _ _

theorem selectDeviceStatement_steps (deviceId : Uuid) (hselects : policy.selects) :
    Keeps (RelaySteps policy) (selectDeviceStatement engine sender deviceId now) :=
  updateOne_contextSteps hselects _ _

end InboundCommandService

/-! ## Retention -/

variable {config : RetentionConfig}

namespace RetentionService

/-- Any notification may be deleted. -/
theorem deleteOutboxAt_steps (config : RetentionConfig) (pageOpen : Uuid → Bool) :
    Keeps (RelaySteps policy) (deleteOutboxAt engine config pageOpen now) :=
  delete_keeps fun _ hchk =>
    (relayStatement_outbox hchk (.delete .stay _ _)).steps

/-- Only ended commands become due. -/
theorem terminal_of_inboundDue {r : InboundRow}
    (h : inboundDue config now r = true) : r.status.terminal = true := by
  simp only [inboundDue, Bool.or_eq_true, Bool.and_eq_true, decide_eq_true_eq] at h
  rcases h with ⟨h | h, _⟩ | ⟨h, _⟩ <;> rw [h] <;> rfl

/-- Commands are dropped only after they ended. -/
theorem deleteInboundAt_steps (config : RetentionConfig) (now : Timestamp)
    (hforgets : policy.forgets) :
    Keeps (RelaySteps policy) (deleteInboundAt engine config now) := by
  refine delete_keeps fun s hchk hs => .single ?_
  exact
    { check := hchk
      outbox := .refl .stay _
      inbound := .delete .stay _ _
      inboundFate := by
        refine .delete .stay fun r hr hg => ⟨hforgets, ?_⟩
        exact terminal_of_inboundDue (due_of_inBatch hs.messageKeys hr hg)
      confirmations := by
        intro r hr
        exact .inl ⟨r, (List.mem_filter.mp hr).1, rfl, .stay r⟩
      confirmationFate := fun _ _ => .inr (.inr (.inr hforgets))
      selection := fun _ => .of_eq rfl rfl }

/-- A confirmation whose command is still there is still there. -/
theorem deleteInboundAt_bound (hr : r ∈ s.controlConfirmations)
    (hbound : r.dispatchMessageKey = some messageKey)
    (hkept : (deleteInboundAt engine config now s).2.hasInbound messageKey = true) :
    r ∈ (deleteInboundAt engine config now s).2.controlConfirmations := by
  rcases hrun : deleteInboundAt engine config now s with ⟨e | n, s'⟩
  · rw [(delete_eq_error.mp hrun).2.2]
    exact hr
  rw [hrun] at hkept
  obtain ⟨_, _, rfl⟩ := delete_eq_ok.mp hrun
  refine List.mem_filter.mpr ⟨hr, ?_⟩
  rw [hbound]
  exact hkept

theorem deleteExpiredContextsAt_steps (now : Timestamp) :
    Keeps (RelaySteps policy) (deleteExpiredContextsAt engine now) :=
  delete_contextSteps _

theorem deleteExpiredConfirmationsAt_steps (now : Timestamp)
    (hsweep : ∀ r : ConfirmationRow, r.expiredAt now = true → policy.sweeps r) :
    Keeps (RelaySteps policy) (deleteExpiredConfirmationsAt engine now) := by
  refine delete_confirmationSteps fun s hs r hr hg => .inr (hsweep r ?_)
  exact due_of_inBatch hs.confirmationIds hr hg

end RetentionService

end PromptDock
