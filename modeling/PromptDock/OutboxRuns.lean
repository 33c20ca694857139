import PromptDock.ClaimFence
import PromptDock.OutboxLife

/-!
# Interleavings of outbox operations

Any number of producers, delivery workers, recoveries and revocations act on
the outbox in any order, each operation under an engine of its own that may
refuse statements.  The world keeps, beside the store, every UUID drawn so far;
a draw is new (`OutboxWorld.next`).

* `outbox_claims_are_fenced` — tokens mark exactly the rows being sent, a stale
  claim settles nothing, each claim is finished at most once, and a row that
  reached its end stays as it is.
* `sensitive_bodies_are_redacted` — no sensitive body outlives its delivery.
-/

namespace PromptDock

open RowTable StoreAction TableStatement LabelledRun ClaimFence OutboxService

/-- An operation of the outbox, with the UUIDs it draws.  The operations that
run several statements stand here whole and statement by statement, since
others may come in between. -/
inductive OutboxOp where
  | enqueueDevice (rowId deviceId : Uuid) (notification : RelayNotificationV1)
      (acceptedAt : Timestamp)
  | enqueueSystemReply (rowId : Uuid) (reply : InteractiveReplyV1) (acceptedAt : Timestamp)
  | enqueueAdminTest (rowId testId : Uuid) (acceptedAt : Timestamp)
  | publishNotice (rowId : Uuid) (notice : ResultNotice) (now : Timestamp)
  | resendNotice (rowId : Uuid) (notice : ResultNotice) (now : Timestamp)
  | expireDue (now : Timestamp)
  | claimReady (token : Uuid) (now : Timestamp)
  | claimNext (token : Uuid) (now : Timestamp)
  | expireClaimed (now : Timestamp)
  | requeueStale (now : Timestamp)
  | recoverStale (now : Timestamp)
  | finish (claim : ClaimedNotification) (outcome : ChannelOutcome) (now : Timestamp)
  | release (claim : ClaimedNotification) (now : Timestamp)
  | unblock (block : ChannelBlock) (now : Timestamp)
  | revokeResult (resultRowId : Uuid) (now : Timestamp)

/-- The UUIDs that the operation draws. -/
def OutboxOp.draws : OutboxOp → List Uuid
  | .enqueueDevice rowId _ _ _ => [rowId]
  | .enqueueSystemReply rowId _ _ => [rowId]
  | .enqueueAdminTest rowId testId _ => [rowId, testId]
  | .publishNotice rowId _ _ => [rowId]
  | .resendNotice rowId _ _ => [rowId]
  | .claimReady token _ => [token]
  | .claimNext token _ => [token]
  | .expireDue _ | .expireClaimed _ | .requeueStale _ | .recoverStale _ | .finish _ _ _
  | .release _ _ | .unblock _ _ | .revokeResult _ _ => []

/-- The row that the operation may enter. -/
def OutboxOp.entry (blake3 : Blake3) : OutboxOp → Option OutboxRow
  | .enqueueDevice rowId deviceId n acceptedAt =>
    some (stagedRow blake3 rowId (.device deviceId) n none false acceptedAt)
  | .enqueueSystemReply rowId reply acceptedAt => some (replyRow blake3 rowId reply acceptedAt)
  | .enqueueAdminTest rowId testId acceptedAt =>
    some (adminTestRow blake3 rowId testId acceptedAt)
  | .publishNotice rowId notice now => some (notice.row rowId now)
  | .resendNotice rowId notice now => some (notice.row rowId now)
  | .expireDue _ | .claimReady _ _ | .claimNext _ _ | .expireClaimed _ | .requeueStale _
  | .recoverStale _ | .finish _ _ _ | .release _ _ | .unblock _ _ | .revokeResult _ _ => none

/-- The operation returned `Ok(true)`. -/
def returnedTrue {ε : Type} : Except (Failure ε) Bool → Bool
  | .ok applied => applied
  | .error _ => false

/-- The operation as a program; it returns `true` when it settled a claim. -/
def OutboxOp.action (engine : RelayEngine) (blake3 : Blake3) : OutboxOp → Relay OutboxError Bool
  | .enqueueDevice rowId deviceId n acceptedAt => do
    let _ ← enqueueDeviceAt engine blake3 rowId deviceId n acceptedAt
    pure false
  | .enqueueSystemReply rowId reply acceptedAt => do
    let _ ← enqueueSystemReplyAt engine blake3 rowId reply acceptedAt
    pure false
  | .enqueueAdminTest rowId testId acceptedAt => do
    let _ ← enqueueAdminTestAt engine blake3 rowId testId acceptedAt
    pure false
  | .publishNotice rowId notice now => do
    ResultService.insertPublishedNotice engine rowId notice now
    pure false
  | .resendNotice rowId notice now => do
    let _ ← ResultService.insertResendNotice engine rowId notice now
    pure false
  | .expireDue now => do
    let _ ← expireDueAt engine now
    pure false
  | .claimReady token now => do
    let _ ← claimReadyAt engine token now
    pure false
  | .claimNext token now => do
    let _ ← claimNextAt engine token now
    pure false
  | .expireClaimed now => do
    let _ ← expireClaimedAt engine now
    pure false
  | .requeueStale now => do
    let _ ← requeueStaleAt engine now
    pure false
  | .recoverStale now => do
    let _ ← recoverStaleClaimsAt engine now
    pure false
  | .finish claim outcome now => finishClaimAt engine claim outcome now
  | .release claim now => releaseClaimAt engine claim now
  | .unblock block now => do
    let _ ← unblockAt engine block now
    pure false
  | .revokeResult resultRowId now => do
    let _ ← ResultService.cancelResultNotices engine resultRowId now
    pure false

/-- Carry out an operation: whether it settled a claim, and the store
afterwards. -/
def OutboxOp.apply (engine : RelayEngine) (blake3 : Blake3) (op : OutboxOp) (s : RelayStore) :
    Bool × RelayStore :=
  let (result, s') := op.action engine blake3 s
  (returnedTrue result, s')

/-- The store, and every UUID drawn so far. -/
structure OutboxWorld where
  store : RelayStore
  drawn : List Uuid

/-- The rows of the outbox. -/
abbrev OutboxWorld.rows (w : OutboxWorld) : List OutboxRow := w.store.notificationOutbox

/-- An operation that was carried out, the engine that carried it out, and
whether it settled a claim. -/
structure OutboxEvent where
  engine : RelayEngine
  op : OutboxOp
  settled : Bool

/-- The world after an event, provided the UUIDs it draws are new. -/
def OutboxWorld.next (blake3 : Blake3) (w : OutboxWorld) (e : OutboxEvent) : Option OutboxWorld :=
  if (e.op.draws.all fun u => !w.drawn.contains u) &&
      (e.op.apply e.engine blake3 w.store).1 == e.settled then
    some ⟨(e.op.apply e.engine blake3 w.store).2, e.op.draws ++ w.drawn⟩
  else
    none

/-- One event of the outbox. -/
def OutboxStep (blake3 : Blake3) (w : OutboxWorld) (e : OutboxEvent) (w' : OutboxWorld) : Prop :=
  w.next blake3 e = some w'

/-- The schema holds, and the tokens in use were drawn. -/
structure OutboxWorld.Initial (w : OutboxWorld) : Prop where
  check : w.store.check = true
  tokens : ∀ r ∈ w.rows, ∀ token, r.claimToken = some token → token ∈ w.drawn

/-- An event that finished the claim of a row. -/
def OutboxEvent.finishes (rowId token : Uuid) (e : OutboxEvent) : Bool :=
  match e.op with
  | .finish claim _ _ => e.settled && claim.rowId == rowId && claim.claimToken == token
  | _ => false

/-! ## One event -/

variable {blake3 : Blake3} {w w' : OutboxWorld} {e : OutboxEvent}

section

/-- A step read as a call with fresh draws. -/
theorem outboxStep_iff : OutboxStep blake3 w e w' ↔
      (∀ u ∈ e.op.draws, u ∉ w.drawn) ∧
        e.op.apply e.engine blake3 w.store = (e.settled, w'.store) ∧
        w'.drawn = e.op.draws ++ w.drawn := by
  have hdraw : (e.op.draws.all fun u => !w.drawn.contains u) = true ↔
      ∀ u ∈ e.op.draws, u ∉ w.drawn := by
    simp
  unfold OutboxStep OutboxWorld.next
  by_cases hcond : (e.op.draws.all fun u => !w.drawn.contains u) &&
      (e.op.apply e.engine blake3 w.store).1 == e.settled
  · rw [if_pos hcond]
    rw [Bool.and_eq_true, beq_iff_eq, hdraw] at hcond
    constructor
    · intro h
      cases h
      exact ⟨hcond.1, Prod.ext hcond.2 rfl, rfl⟩
    · rintro ⟨_, happly, hdrawn⟩
      rw [happly, ← hdrawn]
  · rw [if_neg hcond]
    rw [Bool.and_eq_true, beq_iff_eq, hdraw] at hcond
    constructor
    · intro h
      cases h
    · rintro ⟨hfresh, happly, _⟩
      exact absurd ⟨hfresh, congrArg Prod.fst happly⟩ hcond

variable {fresh : Uuid → Prop} {enters : OutboxRow → Prop}

private theorem discard_steps {α : Type} {m : Relay OutboxError α}
    (h : Action.Keeps (OutboxSteps fresh enters) m) : Action.Keeps (OutboxSteps fresh enters) (do
        let _ ← m
        pure false) :=
  .bind h fun _ => .pure _

/-- Every operation is a sequence of statements on the outbox. -/
theorem OutboxOp.action_steps (eng : RelayEngine) (blake3 : Blake3) (op : OutboxOp)
    (hfresh : ∀ u ∈ op.draws, fresh u) (henter : ∀ r, op.entry blake3 = some r → enters r) :
    Action.Keeps (OutboxSteps fresh enters) (op.action eng blake3) := by
  cases op with
  | enqueueDevice =>
    have hrow := henter _ rfl
    exact discard_steps (enqueueDeviceAt_steps hrow)
  | enqueueSystemReply =>
    have hrow := henter _ rfl
    exact discard_steps (enqueueSystemReplyAt_steps hrow)
  | enqueueAdminTest =>
    have hrow := henter _ rfl
    exact discard_steps (enqueueAdminTestAt_steps hrow)
  | publishNotice => exact discard_steps (ResultService.insertPublishedNotice_steps (henter _ rfl))
  | resendNotice => exact discard_steps (ResultService.insertResendNotice_steps (henter _ rfl))
  | expireDue => exact discard_steps expireDueAt_steps
  | claimReady token =>
    have htok := hfresh token (List.mem_singleton_self token)
    exact discard_steps (claimReadyAt_steps htok)
  | claimNext token =>
    have htok := hfresh token (List.mem_singleton_self token)
    exact discard_steps (claimNextAt_steps htok)
  | expireClaimed => exact discard_steps expireClaimedAt_steps
  | requeueStale => exact discard_steps requeueStaleAt_steps
  | recoverStale => exact discard_steps recoverStaleClaimsAt_steps
  | finish claim outcome => exact finishClaimAt_steps outcome
  | release => exact releaseClaimAt_steps
  | unblock block => exact discard_steps (unblockAt_steps block)
  | revokeResult resultRowId =>
    exact discard_steps (ResultService.cancelResultNotices_steps resultRowId)

/-- The tokens an event may use are those it draws. -/
theorem outboxStep_steps (h : OutboxStep blake3 w e w') :
    OutboxSteps (fun u => u ∉ w.drawn ∧ u ∈ w'.drawn) (fun _ => True) w.store w'.store := by
  obtain ⟨hfresh, happly, hdrawn⟩ := outboxStep_iff.mp h
  have hdraw : ∀ u ∈ e.op.draws, u ∉ w.drawn ∧ u ∈ w'.drawn :=
    fun u hu => ⟨hfresh u hu, hdrawn ▸ List.mem_append_left _ hu⟩
  have hsteps := e.op.action_steps e.engine blake3 hdraw (fun _ _ => trivial) w.store
  have hstore : (e.op.action e.engine blake3 w.store).2 = w'.store := congrArg Prod.snd happly
  rwa [hstore] at hsteps

end

/-! ## The fence of the outbox -/

/-- The token a row carries. -/
def tokenOf (s : RelayStore) (rowId : Uuid) : Option Uuid :=
  (s.notificationOutbox.find? fun r => decide (r.id = rowId)).bind OutboxRow.claimToken

variable {s s' : RelayStore} {fresh : Uuid → Prop} {enters : OutboxRow → Prop}

/-- The token of a stored row. -/
theorem tokenOf_of_mem (hs : s.Valid) {r : OutboxRow} (hr : r ∈ s.notificationOutbox) :
    tokenOf s r.id = r.claimToken := by
  rw [tokenOf, hs.outboxIds.find?_eq hr]
  rfl

variable {rowId token : Uuid}

/-- A carried token is the token of a row. -/
theorem exists_of_tokenOf (h : tokenOf s rowId = some token) :
    ∃ r ∈ s.notificationOutbox, r.id = rowId ∧ r.claimToken = some token := by
  obtain ⟨r, hfind, htok⟩ := Option.bind_eq_some_iff.mp h
  exact ⟨r, List.mem_of_find?_eq_some hfind, by simpa using List.find?_some hfind, htok⟩

/-- A token is kept, cleared or fresh. -/
theorem OutboxStatement.tokenOf_cases (h : OutboxStatement fresh enters s s') (hs : s.Valid)
    (rowId : Uuid) : tokenOf s' rowId = tokenOf s rowId ∨ tokenOf s' rowId = none ∨
      ∃ token, tokenOf s' rowId = some token ∧ fresh token := by
  cases haft : tokenOf s' rowId with
  | none => exact .inr (.inl rfl)
  | some token =>
    obtain ⟨r', hr', rfl, htok⟩ := exists_of_tokenOf haft
    rcases h.rows r' hr' with ⟨r, hr, hid, hmove⟩ | ⟨_, hentered, _⟩
    · rw [← hid, tokenOf_of_mem hs hr]
      rcases hmove.claimToken_cases with hkeep | hclear | ⟨t, hset, hfresh⟩
      · exact .inl (by rw [← hkeep, htok])
      · rw [htok] at hclear
        cases hclear
      rw [htok] at hset
      cases hset
      exact .inr (.inr ⟨token, rfl, hfresh⟩)
    · rw [hentered.unclaimed] at htok
      cases htok

/-- So it is over several statements. -/
theorem OutboxSteps.tokenOf_cases (h : OutboxSteps fresh enters s s') (hs : s.Valid)
    (rowId : Uuid) : tokenOf s' rowId = tokenOf s rowId ∨ tokenOf s' rowId = none ∨
      ∃ token, tokenOf s' rowId = some token ∧ fresh token := by
  induction h with
  | refl => exact .inl rfl
  | tail hfst hlast ih =>
    have hmid := OutboxSteps.valid hfst hs
    rcases hlast.tokenOf_cases hmid rowId with hkeep | hlater
    · rw [hkeep]
      exact ih
    · exact .inr hlater

/-- The outbox as a fence: which row carries which token. -/
def OutboxWorld.fence (w : OutboxWorld) : Fence Uuid Uuid where
  holder rowId := tokenOf w.store rowId
  drawn token := token ∈ w.drawn

/-- What the runs of the outbox keep. -/
structure OutboxWorld.Good (w : OutboxWorld) : Prop where
  valid : w.store.Valid
  claimed_iff : ∀ r ∈ w.rows, r.claimToken.isSome = true ↔ r.status = .sendingChannel
  sound : w.fence.Sound

/-- A run starts well. -/
theorem OutboxWorld.Initial.good (h : w.Initial) : w.Good where
  valid := RelayStore.valid_of_check h.check
  claimed_iff := by
    intro r hr
    have hrow := (RelayStore.valid_of_check h.check).outboxRows r hr
    simp only [OutboxRow.check] at hrow
    by_cases hsend : r.status = .sendingChannel
    · simp_all
    · simp_all
  sound := by
    intro rowId token hheld
    obtain ⟨r, hr, _, htok⟩ := exists_of_tokenOf hheld
    exact h.tokens r hr token htok

section

/-- A step moves the claims as a fence allows. -/
theorem outboxStep_moves (h : OutboxStep blake3 w e w') (hw : w.Good) : w.fence.Moves w'.fence where
  drawn_mono token htoken := by
    have hdraw := (outboxStep_iff.mp h).2.2
    show token ∈ w'.drawn
    rw [hdraw]
    exact List.mem_append_right _ htoken
  holder_cases rowId := by
    rcases (outboxStep_steps h).tokenOf_cases hw.valid rowId with hkeep | hclear | hset
    · exact .inl hkeep
    · exact .inr (.inl hclear)
    · obtain ⟨token, hset, hfresh, hdraw⟩ := hset
      exact .inr (.inr ⟨token, hset, hfresh, hdraw⟩)

/-- A step keeps the world good. -/
theorem outboxStep_good (h : OutboxStep blake3 w e w') (hw : w.Good) : w'.Good where
  valid := (outboxStep_steps h).valid hw.valid
  claimed_iff :=
    (outboxStep_steps h).forall_mem hw.claimed_iff
      (fun _ _ hr hmove => hmove.claimed_iff hr) fun _ hentered => hentered.sound.claimed_iff
  sound := (outboxStep_moves h hw).sound hw.sound

variable {claim : ClaimedNotification} {s : RelayStore}

/-- Settling a claim needs the row's current token and clears it. -/
theorem OutboxService.settleClaim_eq_true {eng : RelayEngine} {change : OutboxRow → OutboxRow}
    (hs : s.Valid)
    (hchg : ∀ r, (change r).id = r.id ∧ (change r).claimToken = none)
    (h : settleClaim eng claim change s = (.ok true, s')) :
    tokenOf s claim.rowId = some claim.claimToken ∧
      tokenOf s' claim.rowId ≠ some claim.claimToken := by
  obtain ⟨_, hone, rfl⟩ := updateOne_eq_true.mp h
  have hpos : 0 < affected (fun r : OutboxRow => r.heldBy claim.rowId claim.claimToken)
      s.notificationOutbox := hone ▸ Nat.one_pos
  obtain ⟨r, hr, hheld⟩ := affected_pos.mp hpos
  obtain ⟨hid, _, htok⟩ := OutboxRow.heldBy_iff.mp hheld
  refine ⟨by rw [← hid, tokenOf_of_mem hs hr, htok], ?_⟩
  intro haft
  obtain ⟨r', hr', hid', htok'⟩ := exists_of_tokenOf haft
  obtain ⟨a, ha, ⟨_, rfl⟩ | ⟨hnot, rfl⟩⟩ := mem_updateWhere.mp hr'
  · rw [(hchg a).2] at htok'
    cases htok'
  -- a row that kept the token was not touched, so it is not the held row
  have hsame : r' = r := hs.outboxIds.eq_of_key ha hr (hid'.trans hid.symm)
  rw [hsame, hheld] at hnot
  cases hnot

/-- Finishing gives the token up. -/
theorem finishChange_cleared (claim : ClaimedNotification) (outcome : ChannelOutcome)
    (now : Timestamp) (r : OutboxRow) : (finishChange claim outcome now r).id = r.id ∧
      (finishChange claim outcome now r).claimToken = none := by
  cases outcome <;> exact ⟨rfl, rfl⟩

/-- A finishing step takes the claim away from its holder. -/
theorem outboxStep_finishes (h : OutboxStep blake3 w e w') (hw : w.Good)
    (hfin : e.finishes rowId token = true) :
    w.fence.holder rowId = some token ∧ w'.fence.holder rowId ≠ some token := by
  obtain ⟨_, happly, _⟩ := outboxStep_iff.mp h
  obtain ⟨eng, op, settled⟩ := e
  cases op with
  | finish claim outcome now =>
    simp only [OutboxEvent.finishes, Bool.and_eq_true, beq_iff_eq] at hfin
    obtain ⟨⟨rfl, rfl⟩, rfl⟩ := hfin
    have hrun : settleClaim eng claim (finishChange claim outcome now) w.store =
        (.ok true, w'.store) := by
      have hstore := congrArg Prod.snd happly
      have htrue := congrArg Prod.fst happly
      rcases hres : settleClaim eng claim (finishChange claim outcome now) w.store with
        ⟨e | b, s1⟩
      · simp [OutboxOp.apply, OutboxOp.action, finishClaimAt, hres, returnedTrue] at htrue
      simp only [OutboxOp.apply, OutboxOp.action, finishClaimAt, hres, returnedTrue] at htrue hstore
      rw [htrue, hstore]
    exact settleClaim_eq_true hw.valid (finishChange_cleared claim outcome now) hrun
  | _ => simp [OutboxEvent.finishes] at hfin

/-- A claim whose token the row no longer carries settles nothing. -/
theorem OutboxService.settleClaim_stale (eng : RelayEngine) (change : OutboxRow → OutboxRow)
    (hstale : ∀ r ∈ s.notificationOutbox, r.id = claim.rowId → r.claimToken ≠ some claim.claimToken)
    : (settleClaim eng claim change s).2 = s ∧
      (settleClaim eng claim change s).1 ≠ .ok true := by
  have hnone : ∀ r ∈ RelayStore.outboxTable.rows s,
      r.heldBy claim.rowId claim.claimToken = false := by
    intro r hr
    cases hheld : r.heldBy claim.rowId claim.claimToken with
    | false => rfl
    | true =>
      obtain ⟨hid, _, htok⟩ := OutboxRow.heldBy_iff.mp hheld
      exact absurd htok (hstale r hr hid)
  exact updateOne_of_forall_not hnone

end

/-! ## Whole runs -/

/-- **Claims are fenced.**  Whatever happens in the outbox, in any order: a row
carries a token exactly while it is being sent; a finish or a release under
another token than the row's changes nothing and reports so; each claim is
finished at most once; and a row that reached its end stays as it is. -/
theorem outbox_claims_are_fenced (blake3 : Blake3) {w₀ w : OutboxWorld}
    {events : List OutboxEvent} (hinit : w₀.Initial) (hrun : Run (OutboxStep blake3) w₀ events w) :
    (∀ r ∈ w.rows, r.claimToken.isSome = true ↔ r.status = .sendingChannel) ∧
    (∀ (engine : RelayEngine) (claim : ClaimedNotification) (outcome : ChannelOutcome)
        (now : Timestamp),
      (∀ r ∈ w.rows, r.id = claim.rowId → r.claimToken ≠ some claim.claimToken) →
        (finishClaimAt engine claim outcome now w.store).2 = w.store ∧
        (finishClaimAt engine claim outcome now w.store).1 ≠ .ok true ∧
        (releaseClaimAt engine claim now w.store).2 = w.store ∧
        (releaseClaimAt engine claim now w.store).1 ≠ .ok true) ∧
    (∀ rowId token, events.countP (OutboxEvent.finishes rowId token) ≤ 1) ∧
    (∀ (later : List OutboxEvent) (w' : OutboxWorld), Run (OutboxStep blake3) w later w' →
      ∀ r ∈ w.rows, r.status.terminal = true →
        r ∈ w'.rows ∧ ∀ r' ∈ w'.rows, r'.id = r.id → r'.status = r.status) := by
  have hgood : w.Good := hrun.invariant (fun _ _ _ => outboxStep_good) hinit.good
  refine ⟨hgood.claimed_iff, ?_, ?_, ?_⟩
  · intro engine claim outcome now hstale
    obtain ⟨hfinish, hfinish'⟩ := settleClaim_stale engine (finishChange claim outcome now) hstale
    obtain ⟨hrelease, hrelease'⟩ := settleClaim_stale engine (OutboxRow.release now) hstale
    exact ⟨hfinish, hfinish', hrelease, hrelease'⟩
  · refine wins_at_most_once (I := OutboxWorld.Good) OutboxWorld.fence ?_ ?_ ?_ ?_ hrun hinit.good
    · exact fun _ _ _ => outboxStep_good
    · exact fun _ hw => hw.sound
    · exact fun _ _ _ => outboxStep_moves
    · exact fun _ _ _ _ _ => outboxStep_finishes
  · intro later w' hlater r hr hend
    have hkept : r ∈ w'.rows :=
      (hlater.invariant (I := fun w => w.Good ∧ r ∈ w.rows) (fun _ _ _ hstep hw =>
          ⟨outboxStep_good hstep hw.1, (outboxStep_steps hstep).mem_of_terminal hw.2 hend⟩)
        ⟨hgood, hr⟩).2
    have hgood' : w'.Good := hlater.invariant (fun _ _ _ => outboxStep_good) hgood
    refine ⟨hkept, fun r' hr' hid => ?_⟩
    rw [hgood'.valid.outboxIds.eq_of_key hr' hkept hid]

/-- A test notification is entered, claimed and delivered; then the worker
reports the same delivery again. -/
def sampleDelivery : List OutboxEvent :=
  let claim := claimedFromRow 3
    (stagedRow .zero 1 .admin (adminTestNotification 2 1000) none false 1000)
  [⟨sqlite, .enqueueAdminTest 1 2 1000, false⟩, ⟨sqlite, .claimNext 3 2000, false⟩,
    ⟨sqlite, .finish claim (.accepted none) 3000, true⟩,
    ⟨sqlite, .finish claim (.accepted none) 4000, false⟩]

/-- The sample delivery is a run. -/
theorem sampleDelivery_replays :
    (replay (OutboxWorld.next .zero) ⟨.empty, []⟩ sampleDelivery).isSome = true := by
  decide

/-- A claim that is finished twice counts once. -/
theorem outbox_claims_are_fenced_sample : sampleDelivery.countP (OutboxEvent.finishes 1 3) ≤ 1 :=
  (outbox_claims_are_fenced .zero ⟨by decide, by decide⟩
    (run_of_isSome sampleDelivery_replays)).2.2.1 1 3

/-- **No sensitive body outlives its delivery.**  Starting from an empty outbox,
every sensitive row that reached its end is redacted, and no operation writes
another body to it. -/
theorem sensitive_bodies_are_redacted (blake3 : Blake3) {w₀ w : OutboxWorld}
    {events : List OutboxEvent} (hcheck : w₀.store.check = true) (hempty : w₀.rows = [])
    (hrun : Run (OutboxStep blake3) w₀ events w) :
    (∀ r ∈ w.rows, r.sensitiveBody = true → r.status.terminal = true → r.body = redactedBody) ∧
    (∀ (e : OutboxEvent) (w' : OutboxWorld), OutboxStep blake3 w e w' →
      ∀ r ∈ w.rows, r.sensitiveBody = true → r.status.terminal = true →
        ∀ r' ∈ w'.rows, r'.id = r.id → r'.body = redactedBody) := by
  have hinv : w.store.Valid ∧ ∀ r ∈ w.rows, r.Sound := by
    refine hrun.invariant (I := fun w => w.store.Valid ∧ ∀ r ∈ w.rows, r.Sound) ?_ ?_
    · intro u _ u' hstep hu
      have hsteps := outboxStep_steps hstep
      exact ⟨hsteps.valid hu.1, hsteps.forall_mem hu.2 (fun _ _ hr hmove => hmove.sound hr)
        fun _ hentered => hentered.sound⟩
    · refine ⟨RelayStore.valid_of_check hcheck, ?_⟩
      simp [hempty]
  obtain ⟨hvalid, hsound⟩ := hinv
  refine ⟨fun r hr => (hsound r hr).redacted, ?_⟩
  intro e w' hstep r hr hsensitive hend r' hr' hid
  have hsteps := outboxStep_steps hstep
  have hkept := hsteps.mem_of_terminal hr hend
  rw [(hsteps.valid hvalid).outboxIds.eq_of_key hr' hkept hid]
  exact (hsound r hr).redacted hsensitive hend

/-- A confirmation prompt that carries its code in the body. -/
def sampleReply : InteractiveReplyV1 where
  schemaVersion := 1
  notificationId := "interactive:1"
  dedupeKey := "inbound:1"
  priority := 200
  targetAccountFingerprint :=
    "wx:0000000000000000000000000000000000000000000000000000000000000000"
  title := "确认"
  body := "123456"
  sensitiveBody := true
  correlationKey := none
  createdAt := 1000
  expiresAt := 121000

/-- The prompt is entered and nobody delivers it in time. -/
def sampleExpiry : List OutboxEvent :=
  [⟨sqlite, .enqueueSystemReply 1 sampleReply 1000, false⟩, ⟨sqlite, .expireDue 121000, false⟩]

/-- The sample expiry is a run. -/
theorem sampleExpiry_replays :
    (replay (OutboxWorld.next .zero) ⟨.empty, []⟩ sampleExpiry).isSome = true := by
  decide

/-- The prompt's row afterwards. -/
def sampleExpired : OutboxRow :=
  (stagedRow .zero 1 .systemInteractive sampleReply.notification
    (some sampleReply.targetAccountFingerprint) true 1000).expire 121000

/-- The expired row is still there. -/
theorem sampleExpired_mem :
    sampleExpired ∈ ((replay (OutboxWorld.next .zero) ⟨.empty, []⟩ sampleExpiry).get
      sampleExpiry_replays).rows := by
  decide

/-- The expired code is gone. -/
theorem sensitive_bodies_are_redacted_sample : sampleExpired.body = redactedBody :=
  (sensitive_bodies_are_redacted .zero (by decide) rfl (run_of_isSome sampleExpiry_replays)).1
    sampleExpired sampleExpired_mem rfl rfl

end PromptDock
