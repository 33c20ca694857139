import Mathlib.Data.String.Basic
import PromptDock.BatchQueues
import PromptDock.RelayDatabase
import PromptDock.RetentionRounds

/-!
# Retention passes

A pass of `retention.rs` repeats rounds until one of them reports that no
table filled a batch.  A round purges one batch of result bodies and of bundle
bodies, and deletes one batch of notifications, bundles, commands, selections
and confirmations.

What is due at one clock reading stands in queues (`Workload`), and a round takes
one batch from each of them (`runRoundAt_serves`).  What it reports is less than
what it did: the two purges are not counted, and notifications and bundles are
counted together, so that a full batch of the one hides behind any row of the
other.  So the number of rounds follows from the queues of the database the pass
starts from, and with it whether the pass leaves anything due.
-/

namespace PromptDock

open RowTable StoreAction TableStatement Action RetentionService List Bool

/-- `RetentionError`.  A refused statement is reported as `database`. -/
inductive RetentionError where
  | database | clock

/-- `RoundResult`. -/
structure RoundResult where
  (outbox inbound selections confirmations : Nat)

/-- `RoundResult::default`. -/
def RoundResult.zero : RoundResult := ⟨0, 0, 0, 0⟩

/-- `RoundResult::may_have_more`. -/
def RoundResult.mayHaveMore (r : RoundResult) : Bool :=
  [r.outbox, r.inbound, r.selections, r.confirmations].any fun deleted =>
    deleted == retentionBatch

/-- `RetentionRunReport`. -/
structure RetentionRunReport where
  (outboxDeleted inboundDeleted selectionDeleted : Nat)
  (startedAt completedAt : Timestamp)
  completed : Bool

/-- `u64::saturating_add`. -/
def saturatingAddU64 (a b : Nat) : Nat :=
  min 18446744073709551615 (a + b)

/-- What one turn of the loop of `run_once` observes: the cancellation token
before the round and before each of its three parts, and the clock. -/
structure RoundView where
  cancelled : Bool
  now : Option Timestamp
  (cancelledBeforeOutbox cancelledBeforeInbound cancelledBeforeSelections : Bool)

/-- No check of the turn sees a cancellation. -/
def RoundView.uncancelled (v : RoundView) : Bool :=
  !v.cancelled && !v.cancelledBeforeOutbox && !v.cancelledBeforeInbound &&
    !v.cancelledBeforeSelections

namespace RelayDatabase

/-! ## What is due -/

/-- The page of a result is still open. -/
def pageOpen (s : RelayDatabase) (now : Timestamp) (id : Uuid) : Bool :=
  s.results.any fun r => r.id == id && decide (now < r.pageExpiresAt)

/-- A result whose body `delete_outbox_at` may purge. -/
def resultBodyDue (now : Timestamp) (r : ResultRow) : Bool :=
  r.bodyPurgedAt.isNone && decide (r.bodyRetainUntil ≤ now)

/-- A bundle whose body `purge_bundle_content_at` may purge. -/
def bundleBodyDue (now : Timestamp) (b : BundleRow) : Bool :=
  b.bodyPurgedAt.isNone && decide (b.bodyRetainUntil ≤ now) &&
    (b.status = .providerAccepted || b.status = .partialFailed || b.status = .expired ||
      b.status = .blockedTargetChanged || b.status = .deliveryUnknown)

/-- A bundle that `delete_outbox_at` may drop. -/
def bundleDue (config : RetentionConfig) (now : Timestamp) (b : BundleRow) : Bool :=
  ((b.status = .providerAccepted || b.status = .expired) &&
      decide (b.updatedAt < now - daysToMilliseconds config.acceptedDays)) ||
    ((b.status = .partialFailed || b.status = .blockedTargetChanged ||
        b.status = .deliveryUnknown) &&
      decide (b.updatedAt < now - daysToMilliseconds config.deadLetterDays))

/-- Rows in the order of a timestamp, then of their ids. -/
def byTimeThenId {ρ : Type} (time : ρ → Timestamp) (id : ρ → Uuid) (a b : ρ) : Bool :=
  decide (time a < time b) || (time a == time b && decide ((id a).toNat ≤ (id b).toNat))

/-! ## The statements -/

section

variable (engine : DatabaseEngine) (config : RetentionConfig) (now : Timestamp)

/-- The first statement of `delete_outbox_at`. -/
def purgeResultBodiesAt : RelayDb RetentionError Nat :=
  update engine resultTable
    (fun s => inBatch ResultRow.id (byTimeThenId ResultRow.bodyRetainUntil ResultRow.id)
      (resultBodyDue now) retentionBatch s.results)
    fun r =>
      { r with
        bodyCiphertext := none, bodyNonce := none, bodyPurgedAt := some now,
        updatedAt := max r.updatedAt now }

/-- The bundles whose bodies one call of `purge_bundle_content_at` purges. -/
def inBundlePurge (s : RelayDatabase) (b : BundleRow) : Bool :=
  inBatch BundleRow.id (byTimeThenId BundleRow.bodyRetainUntil BundleRow.id) (bundleBodyDue now)
    retentionBatch s.notificationBundles b

/-- `purge_bundle_content_at`. -/
def purgeBundleContentAt : RelayDb RetentionError Nat :=
  update engine bundleTable (inBundlePurge now) fun b =>
    { b with
      bodyCiphertext := none, bodyNonce := none, bodyPurgedAt := some now,
      updatedAt := max b.updatedAt now }

/-- The results whose current notice is among the first due ones. -/
def lastObserved (s : RelayDatabase) : List Uuid :=
  (batchBy (byTimeThenId OutboxRow.updatedAt OutboxRow.id)
    (fun o => o.resultRowId.isSome &&
      (s.results.any fun r => r.currentNotificationId == o.notificationId) &&
      outboxDue config (s.pageOpen now) now o)
    retentionBatch s.relay.notificationOutbox).filterMap OutboxRow.resultRowId

/-- The first statement of the transaction of `delete_outbox_at`: results keep
the last state of the notice that is about to go. -/
def keepObservedStatusAt : RelayDb RetentionError Nat := do
  let s ← read
  update engine resultTable (fun s r => (lastObserved config now s).contains r.id) fun r =>
    { r with
      notificationStatus :=
        (s.relay.notificationOutbox.find? fun o =>
          o.notificationId == r.currentNotificationId && o.resultRowId == some r.id).map
            OutboxRow.status
      updatedAt := max r.updatedAt now }

/-- The second statement of the transaction of `delete_outbox_at`. -/
def deleteNotificationsAt : RelayDb RetentionError Nat := do
  let s ← read
  onRelay engine fun relay =>
    orReject .database
      (deleteOutboxAt relay config (s.pageOpen now) now)

/-- The last statement of `delete_outbox_at`. -/
def deleteBundlesAt : RelayDb RetentionError Nat :=
  delete engine bundleTable
    (fun s => inBatch BundleRow.id (byTimeThenId BundleRow.updatedAt BundleRow.id)
      (bundleDue config now) retentionBatch s.notificationBundles)
    id

/-- `delete_outbox_at`. -/
def deleteOutboxAt : RelayDb RetentionError Nat := do
  let _ ← purgeResultBodiesAt engine now
  let _ ← purgeBundleContentAt engine now
  let outboxDeleted ← transaction do
    let _ ← keepObservedStatusAt engine config now
    let deleted ← deleteNotificationsAt engine config now
    pure (.commit deleted)
  let bundlesDeleted ← deleteBundlesAt engine config now
  pure (outboxDeleted + bundlesDeleted)

/-- `delete_inbound_at`. -/
def deleteInboundAt : RelayDb RetentionError Nat :=
  onRelay engine fun relay =>
    orReject .database (RetentionService.deleteInboundAt relay config now)

/-- `delete_selections_at`. -/
def deleteSelectionsAt : RelayDb RetentionError (Nat × Nat) := do
  let selections ← onRelay engine fun relay =>
    orReject .database (deleteExpiredContextsAt relay now)
  let confirmations ← onRelay engine fun relay =>
    orReject .database (deleteExpiredConfirmationsAt relay now)
  pure (selections, confirmations)

/-- `run_round_at`.  A cancelled round reports what it has done so far. -/
def runRoundAt (view : RoundView) : RelayDb RetentionError RoundResult :=
  if view.cancelledBeforeOutbox then pure .zero
  else do
    let outbox ← deleteOutboxAt engine config now
    if view.cancelledBeforeInbound then pure { RoundResult.zero with outbox := outbox }
    else do
      let inbound ← deleteInboundAt engine config now
      if view.cancelledBeforeSelections then
        pure { RoundResult.zero with outbox := outbox, inbound := inbound }
      else do
        let deleted ← deleteSelectionsAt engine now
        pure
          { outbox := outbox, inbound := inbound, selections := deleted.1,
            confirmations := deleted.2 }

end

section

variable (engine : DatabaseEngine) (config : RetentionConfig)

/-- A report with the counts of one more round. -/
def addRound (report : RetentionRunReport) (result : RoundResult) : RetentionRunReport :=
  { report with
    outboxDeleted := saturatingAddU64 report.outboxDeleted result.outbox
    inboundDeleted := saturatingAddU64 report.inboundDeleted result.inbound
    selectionDeleted := saturatingAddU64 report.selectionDeleted result.selections }

/-- The loop of `run_once`, over what its turns observe; `none` while it is
still going when the observations end. -/
def runRounds : List RoundView → RetentionRunReport →
    RelayDb RetentionError (Option RetentionRunReport)
  | [], _ => pure none
  | view :: views, report =>
    if view.cancelled then pure (some report)
    else
      match view.now with
      | none => reject .clock
      | some now => do
        let result ← runRoundAt engine config now view
        if result.mayHaveMore then runRounds views (addRound report result)
        else pure (some { addRound report result with completed := true })

/-- `run_once`.  `started` and `ended` are the readings of the clock at its two
ends, and `cancelledWaiting` says that it was cancelled while another run held
the lock. -/
def runOnce (started : Option Timestamp) (cancelledWaiting : Bool) (views : List RoundView)
    (ended : Option Timestamp) : RelayDb RetentionError (Option RetentionRunReport) :=
  match started with
  | none => reject .clock
  | some startedAt =>
    let report : RetentionRunReport := ⟨0, 0, 0, startedAt, startedAt, false⟩
    if cancelledWaiting then pure (some report)
    else do
      match ← runRounds engine config views report with
      | none => pure none
      | some report =>
        match ended with
        | none => reject .clock
        | some now => pure (some { report with completedAt := max now report.startedAt })

end

/-! ## Nothing due -/

/-- No row is left that a round at `now` would purge or delete. -/
structure NothingDue (config : RetentionConfig) (now : Timestamp) (s : RelayDatabase) : Prop where
  resultBodies : ∀ r ∈ s.results, resultBodyDue now r = false
  bundleBodies : ∀ b ∈ s.notificationBundles, bundleBodyDue now b = false
  bundles : ∀ b ∈ s.notificationBundles, bundleDue config now b = false
  notifications : ∀ o ∈ s.relay.notificationOutbox,
    outboxDue config (s.pageOpen now) now o = false
  commands : ∀ r ∈ s.relay.inboundCommands, inboundDue config now r = false
  selections : ∀ c ∈ s.relay.selectionContexts, decide (c.expiresAt ≤ now) = false
  confirmations : ∀ r ∈ s.relay.controlConfirmations, r.expiredAt now = false

/-! ## The queues -/

/-- What is due at one clock reading: the queue, where a batch of it decides what
another queue loses, and elsewhere the number of rows. -/
structure Workload where
  (resultBodies notifications selections : Nat)
  (purges deletions : List BundleRow)
  commands : List InboundRow
  confirmations : List ConfirmationRow

/-- What is due in a database. -/
def workload (config : RetentionConfig) (now : Timestamp) (s : RelayDatabase) : Workload where
  resultBodies := s.results.countP (resultBodyDue now)
  notifications := s.relay.notificationOutbox.countP (outboxDue config (s.pageOpen now) now)
  selections := s.relay.selectionContexts.countP fun c => c.expiresAt ≤ now
  purges := dueQueue (byTimeThenId BundleRow.bodyRetainUntil BundleRow.id) (bundleBodyDue now)
    s.notificationBundles
  deletions := dueQueue (byTimeThenId BundleRow.updatedAt BundleRow.id) (bundleDue config now)
    s.notificationBundles
  commands := dueQueue inboundBefore (inboundDue config now) s.relay.inboundCommands
  confirmations := dueQueue confirmationBefore (ConfirmationRow.expiredAt now)
    s.relay.controlConfirmations

namespace Workload

/-- The bundles to delete once a batch of bodies is purged: a bundle that was
just purged is kept as one that was just changed. -/
def unpurged (w : Workload) : List BundleRow :=
  w.deletions.filter fun b => !(w.purges.take retentionBatch).any fun due => b.id == due.id

/-- The confirmations to delete once a batch of commands is gone, and with each
command the confirmation bound to it. -/
def unbound (w : Workload) : List ConfirmationRow :=
  w.confirmations.filter fun c => c.dispatchMessageKey.all fun key =>
    !(w.commands.take retentionBatch).any fun due => key == due.messageKey

/-- A batch is taken from every queue. -/
def serve (w : Workload) : Workload where
  resultBodies := w.resultBodies - retentionBatch
  notifications := w.notifications - retentionBatch
  selections := w.selections - retentionBatch
  purges := (w.purges.drop retentionBatch).filter fun b =>
    !(w.unpurged.take retentionBatch).any fun due => b.id == due.id
  deletions := w.unpurged.drop retentionBatch
  commands := w.commands.drop retentionBatch
  confirmations := w.unbound.drop retentionBatch

/-- What a round reports of it. -/
def reported (w : Workload) : RoundResult where
  outbox := min retentionBatch w.notifications + min retentionBatch w.unpurged.length
  inbound := min retentionBatch w.commands.length
  selections := min retentionBatch w.selections
  confirmations := min retentionBatch w.unbound.length

/-- The next `rounds` rounds report more to do, and the one after them does not. -/
def FullRounds (w : Workload) : Nat → Prop
  | 0 => w.reported.mayHaveMore = false
  | rounds + 1 => w.reported.mayHaveMore = true ∧ w.serve.FullRounds rounds

/-- So many rounds are enough for what no count reports. -/
structure FitsIn (w : Workload) (rounds : Nat) : Prop where
  resultBodies : w.resultBodies ≤ retentionBatch * rounds
  notifications : w.notifications ≤ retentionBatch * rounds
  purges : (serve^[rounds] w).purges = []
  deletions : (serve^[rounds] w).deletions = []

variable {w : Workload} {n m : Nat}

/-- A pass has one number of full rounds. -/
theorem FullRounds.unique (hn : w.FullRounds n) (hm : w.FullRounds m) : n = m := by
  have hdiffer : ∀ {w : Workload} {k : Nat}, w.FullRounds 0 → ¬ w.FullRounds (k + 1) := by
    intro w k hlast hmore
    have hfalse : w.reported.mayHaveMore = false := hlast
    rw [hmore.1] at hfalse
    cases hfalse
  induction n generalizing w m with
  | zero =>
    cases m with
    | zero => rfl
    | succ => exact absurd hm (hdiffer hn)
  | succ n ih =>
    cases m with
    | zero => exact absurd hn (hdiffer hm)
    | succ => rw [ih hn.2 hm.2]

/-- The last round is the first that reports no full batch. -/
theorem FullRounds.last (h : w.FullRounds n) : (serve^[n] w).reported.mayHaveMore = false := by
  induction n generalizing w with
  | zero => exact h
  | succ n ih => exact ih h.2

/-- A number that loses a batch in every round. -/
theorem iterate_count (count : Workload → Nat)
    (hserve : ∀ w, count (serve w) = count w - retentionBatch) (w : Workload) (n : Nat) :
    count (serve^[n] w) = count w - retentionBatch * n := by
  induction n with
  | zero => rfl
  | succ n ih =>
    rw [Function.iterate_succ_apply', hserve, ih, Nat.mul_succ]
    omega

end Workload

/-- A round is the last if no batch was full. -/
theorem mayHaveMore_eq_false {result : RoundResult} : result.mayHaveMore = false ↔
      result.outbox ≠ retentionBatch ∧ result.inbound ≠ retentionBatch ∧
        result.selections ≠ retentionBatch ∧ result.confirmations ≠ retentionBatch := by
  simp [RoundResult.mayHaveMore]

/-- A round that reports no full batch leaves no command, selection or
confirmation. -/
theorem Workload.serve_of_last {w : Workload} (h : w.reported.mayHaveMore = false) :
    w.serve.commands = [] ∧ w.serve.selections = 0 ∧ w.serve.confirmations = [] := by
  obtain ⟨_, hinb, hsels, hconf⟩ := mayHaveMore_eq_false.mp h
  simp only [reported] at hinb hsels hconf
  simp only [serve, drop_eq_nil_iff]
  omega

/-- Nothing is due exactly if the queues are empty. -/
theorem nothingDue_iff_workload {config : RetentionConfig} {now : Timestamp} {s : RelayDatabase} :
    NothingDue config now s ↔ workload config now s = ⟨0, 0, 0, [], [], [], []⟩ := by
  simp only [workload, Workload.mk.injEq, dueQueue_eq_nil, countP_eq_zero, not_eq_true]
  constructor
  · intro h
    exact ⟨h.resultBodies, h.notifications, h.selections, h.bundleBodies, h.bundles, h.commands,
      h.confirmations⟩
  · rintro ⟨hbodies, hboxes, hsels, hpurges, hbuns, hcommands, hconf⟩
    exact ⟨hbodies, hpurges, hbuns, hboxes, hcommands, hsels, hconf⟩

/-! ## The orders -/

/-- Time and then id order the rows. -/
theorem rowOrder_byTimeThenId {ρ : Type} (time : ρ → Timestamp) (id : ρ → Uuid) :
    RowOrder id (byTimeThenId time id) := by
  refine RowOrder.of_rank (fun r => toLex (time r, (id r).toNat)) ?_ ?_
  · intro a b
    simp [byTimeThenId, Prod.Lex.toLex_le_toLex]
  · intro a b hrank
    exact BitVec.eq_of_toNat_eq (Prod.mk.inj hrank).2

theorem rowOrder_inboundBefore : RowOrder InboundRow.messageKey inboundBefore := by
  refine RowOrder.of_rank (fun r => toLex (r.updatedAt, r.messageKey)) ?_ ?_
  · intro a b
    simp [inboundBefore, Prod.Lex.toLex_le_toLex]
  · intro a b hrank
    exact (Prod.mk.inj hrank).2

theorem rowOrder_confirmationBefore :
    RowOrder ConfirmationRow.confirmationId confirmationBefore := by
  refine RowOrder.of_rank (fun r =>
    toLex (r.scope.expiresAt, toLex (r.scope.senderFingerprint, r.confirmationId))) ?_ ?_
  · intro a b
    simp [confirmationBefore, Prod.Lex.toLex_le_toLex]
  · intro a b hrank
    exact (Prod.mk.inj (Prod.mk.inj hrank).2).2

/-! ## What the statements do -/

section

variable {engine : DatabaseEngine} {config : RetentionConfig} {now : Timestamp}
  {s s' : RelayDatabase} {n : Nat}

/-- The columns of a result that decide whether its page is open. -/
def pageColumns (s : RelayDatabase) : List (Uuid × Timestamp) :=
  s.results.map fun r => (r.id, r.pageExpiresAt)

/-- The same results have the same pages. -/
theorem pageColumns_congr (h : s'.results = s.results) : s'.pageColumns = s.pageColumns := by
  rw [pageColumns, pageColumns, h]

/-- Whether pages are open depends on their ids and when they expire. -/
theorem pageOpen_congr (h : s'.pageColumns = s.pageColumns) : s'.pageOpen now = s.pageOpen now := by
  have hcols : ∀ db : RelayDatabase, db.pageOpen now =
      fun id => db.pageColumns.any fun c => c.1 == id && decide (now < c.2) := by
    intro db
    funext id
    simp [pageOpen, pageColumns, Function.comp_def]
  rw [hcols, hcols, h]

/-- The first statement purges a batch of bodies and nothing else. -/
theorem purgeResultBodiesAt_part (hs : s.Valid)
    (h : purgeResultBodiesAt engine now s = (.ok n, s')) :
    s'.relay = s.relay ∧ s'.notificationBundles = s.notificationBundles ∧
      s'.pageColumns = s.pageColumns ∧
      s'.results.countP (resultBodyDue now) =
        s.results.countP (resultBodyDue now) - retentionBatch := by
  obtain ⟨_, _, rfl⟩ := update_eq_ok.mp h
  refine ⟨rfl, rfl, ?_, countP_updateWhere_inBatch hs.resultIds fun _ => rfl⟩
  apply map_updateWhere
  intro r
  rfl

/-- A bundle with its body purged at `now`. -/
def purgedBundle (now : Timestamp) (b : BundleRow) : BundleRow :=
  { b with
    bodyCiphertext := none, bodyNonce := none, bodyPurgedAt := some now,
    updatedAt := max b.updatedAt now }

/-- Purging contents touches bundles alone. -/
theorem purgeBundleContentAt_frame (h : purgeBundleContentAt engine now s = (.ok n, s')) :
    s'.relay = s.relay ∧ s'.results = s.results ∧
      s'.notificationBundles =
        updateWhere (inBundlePurge now s) (purgedBundle now) s.notificationBundles := by
  obtain ⟨_, _, rfl⟩ := update_eq_ok.mp h
  exact ⟨rfl, rfl, rfl⟩

/-- Keeping the last status of a notice touches no body and no page. -/
theorem keepObservedStatusAt_frame (h : keepObservedStatusAt engine config now s = (.ok n, s')) :
    s'.relay = s.relay ∧ s'.notificationBundles = s.notificationBundles ∧
      s'.pageColumns = s.pageColumns ∧
      s'.results.map (resultBodyDue now) = s.results.map (resultBodyDue now) := by
  obtain ⟨_, _, rfl⟩ := update_eq_ok.mp h
  refine ⟨rfl, rfl, ?_, ?_⟩ <;>
  · apply map_updateWhere
    intro r
    rfl

/-- One batch of notifications goes. -/
theorem deleteNotificationsAt_part (hu : KeysUnique OutboxRow.id s.relay.notificationOutbox)
    (h : deleteNotificationsAt engine config now s = (.ok n, s')) :
    s'.results = s.results ∧ s'.notificationBundles = s.notificationBundles ∧
      s'.relay = { s.relay with notificationOutbox := s'.relay.notificationOutbox } ∧
      SameBut (outboxDue config (s.pageOpen now) now) s.relay.notificationOutbox
        s'.relay.notificationOutbox ∧
      s'.relay.notificationOutbox.countP (outboxDue config (s.pageOpen now) now) =
        s.relay.notificationOutbox.countP (outboxDue config (s.pageOpen now) now) -
          retentionBatch ∧
      n = min retentionBatch
        (s.relay.notificationOutbox.countP (outboxDue config (s.pageOpen now) now)) := by
  rw [deleteNotificationsAt, read_bind_run] at h
  obtain ⟨relay, hrun, rfl⟩ := onRelay_eq_ok.mp h
  obtain ⟨_, rfl, rfl⟩ := delete_eq_ok.mp (orReject_eq_ok.mp hrun)
  exact ⟨rfl, rfl, rfl, sameBut_deleteWhere_inBatch hu, countP_deleteWhere_inBatch hu,
    affected_inBatch hu⟩

/-- One batch of bundles goes. -/
theorem deleteBundlesAt_frame (h : deleteBundlesAt engine config now s = (.ok n, s')) :
    s'.check = true ∧ s'.relay = s.relay ∧ s'.results = s.results ∧
      n = affected (inBatch BundleRow.id (byTimeThenId BundleRow.updatedAt BundleRow.id)
          (bundleDue config now) retentionBatch s.notificationBundles) s.notificationBundles ∧
      s'.notificationBundles = deleteWhere
          (inBatch BundleRow.id (byTimeThenId BundleRow.updatedAt BundleRow.id)
            (bundleDue config now) retentionBatch s.notificationBundles) s.notificationBundles := by
  obtain ⟨hacc, rfl, rfl⟩ := delete_eq_ok.mp h
  exact ⟨engine.sound _ hacc, rfl, rfl, rfl, rfl⟩

/-- Where no bundle is due, the deletion leaves the store as it is. -/
theorem deleteBundlesAt_of_none_due (hs : s.check = true)
    (hdue : ∀ b ∈ s.notificationBundles, bundleDue config now b = false) :
    deleteBundlesAt (Engine.faultless check) config now s = (.ok 0, s) := by
  have hnone : ∀ b ∈ s.notificationBundles,
      inBatch BundleRow.id (byTimeThenId BundleRow.updatedAt BundleRow.id)
        (bundleDue config now) retentionBatch s.notificationBundles b = false := by
    intro b hb
    refine eq_false_iff.mpr fun hin => ?_
    cases (hdue b hb).symm.trans (due_of_inBatch (valid_of_check hs).bundleIds hb hin)
  have hsame := deleteWhere_of_forall_not hnone
  refine delete_eq_ok.mpr ⟨?_, ?_, ?_⟩
  · exact (congrArg (fun rows => check (bundleTable.put s rows)) hsame).trans hs
  · exact (affected_eq_zero.mpr hnone).symm
  · exact (congrArg (bundleTable.put s) hsame).symm

/-- `delete_outbox_at` succeeds only if each of its statements does. -/
theorem deleteOutboxAt_cases (h : deleteOutboxAt engine config now s = (.ok n, s')) :
    ∃ (n1 n2 n3 n4 n5 : Nat) (s1 s2 s3 s4 : RelayDatabase),
      purgeResultBodiesAt engine now s = (.ok n1, s1) ∧
      purgeBundleContentAt engine now s1 = (.ok n2, s2) ∧
      keepObservedStatusAt engine config now s2 = (.ok n3, s3) ∧
      deleteNotificationsAt engine config now s3 = (.ok n4, s4) ∧
      deleteBundlesAt engine config now s4 = (.ok n5, s') ∧ n = n4 + n5 := by
  obtain ⟨n1, s1, hbodies, h⟩ := bind_eq_ok.mp h
  obtain ⟨n2, s2, hbuns, h⟩ := bind_eq_ok.mp h
  obtain ⟨n4, s4, htransaction, h⟩ := bind_eq_ok.mp h
  obtain ⟨n5, hdel, hn⟩ := bind_pure_eq_ok.mp h
  obtain ⟨finish, s3', hbody, hfin⟩ := transaction_ends htransaction
  obtain ⟨n3, s3, hkeep, hbody⟩ := bind_eq_ok.mp hbody
  obtain ⟨n4', hnotifications, rfl⟩ := bind_pure_eq_ok.mp hbody
  obtain ⟨hn4, rfl⟩ := Prod.mk.inj hfin
  rw [Except.ok.inj hn4] at hnotifications
  exact ⟨n1, n2, n3, n4, n5, s1, s2, s3, s3', hbodies, hbuns, hkeep, hnotifications, hdel, hn⟩

/-- A bundle just purged is not due. -/
theorem bundleDue_purgedBundle (b : BundleRow) :
    bundleDue config now (purgedBundle now b) = false := by
  have hdays : ∀ (days : Nat) (a t : Int), ¬ max a t < t - daysToMilliseconds days := by
    unfold daysToMilliseconds
    omega
  simp [bundleDue, purgedBundle, hdays]

/-- What a purge and then a deletion leave of the two queues of bundles.  A bundle
that was just purged is neither to be purged nor to be deleted. -/
theorem bundles_served (config : RetentionConfig) (now : Timestamp) (hs : s.Valid) :
    let purged := updateWhere (inBundlePurge now s) (purgedBundle now) s.notificationBundles
    let inDeletion := inBatch BundleRow.id (byTimeThenId BundleRow.updatedAt BundleRow.id)
      (bundleDue config now) retentionBatch purged
    let w := workload config now s
    dueQueue (byTimeThenId BundleRow.bodyRetainUntil BundleRow.id) (bundleBodyDue now)
        (deleteWhere inDeletion purged) = w.serve.purges ∧
      dueQueue (byTimeThenId BundleRow.updatedAt BundleRow.id) (bundleDue config now)
        (deleteWhere inDeletion purged) = w.serve.deletions ∧
      affected inDeletion purged = min retentionBatch w.unpurged.length := by
  intro purged inDeletion w
  have huniq : KeysUnique BundleRow.id purged := hs.bundleIds.updateWhere fun _ => rfl
  have hpurges : dueQueue (byTimeThenId BundleRow.bodyRetainUntil BundleRow.id)
      (bundleBodyDue now) purged = w.purges.drop retentionBatch := by
    rw [dueQueue_updateWhere (rowOrder_byTimeThenId _ _) hs.bundleIds fun _ => rfl]
    exact dueQueue_inBatch hs.bundleIds
  have hdeletions : dueQueue (byTimeThenId BundleRow.updatedAt BundleRow.id)
      (bundleDue config now) purged = w.unpurged :=
    dueQueue_updateWhere (rowOrder_byTimeThenId _ _) hs.bundleIds bundleDue_purgedBundle
  refine ⟨?_, ?_, ?_⟩
  · rw [dueQueue_deleteWhere (rowOrder_byTimeThenId _ _) huniq, hpurges]
    simp only [inDeletion, inBatch, batchBy, Workload.serve, ← hdeletions, dueQueue]
  · rw [dueQueue_deleteWhere (rowOrder_byTimeThenId _ _) huniq, dueQueue_inBatch huniq, hdeletions]
    rfl
  · rw [affected_inBatch huniq, ← hdeletions, length_dueQueue]

/-- What `delete_outbox_at` does to the queues, and what it leaves alone. -/
structure OutboxServed (config : RetentionConfig) (now : Timestamp) (s s' : RelayDatabase)
    (n : Nat) : Prop where
  check : s'.check = true
  relay : s'.relay = { s.relay with notificationOutbox := s'.relay.notificationOutbox }
  pages : s'.pageOpen now = s.pageOpen now
  notifications : SameBut (outboxDue config (s.pageOpen now) now) s.relay.notificationOutbox
    s'.relay.notificationOutbox
  queues : workload config now s' =
    { (workload config now s).serve with
      selections := (workload config now s).selections
      commands := (workload config now s).commands
      confirmations := (workload config now s).confirmations }
  count : n = (workload config now s).reported.outbox

/-- The first part of a round serves the outbox. -/
theorem deleteOutboxAt_serves (hs : s.Valid)
    (h : deleteOutboxAt engine config now s = (.ok n, s')) : OutboxServed config now s s' n := by
  obtain ⟨_, _, _, n4, n5, s1, s2, s3, s4, hpurge, hcontent, hkeep, hdel, hbuns, rfl⟩ :=
    deleteOutboxAt_cases h
  obtain ⟨hrelay1, hbuns1, hpages1, hbodies1⟩ := purgeResultBodiesAt_part hs hpurge
  obtain ⟨hrelay2, hresults2, hbuns2⟩ := purgeBundleContentAt_frame hcontent
  obtain ⟨hrelay3, hbuns3, hpages3, hbodies3⟩ := keepObservedStatusAt_frame hkeep
  have hrelay : s3.relay = s.relay := hrelay3.trans (hrelay2.trans hrelay1)
  have hpages : s3.pageOpen now = s.pageOpen now := by
    exact pageOpen_congr (hpages3.trans ((pageColumns_congr hresults2).trans hpages1))
  have hids : KeysUnique OutboxRow.id s3.relay.notificationOutbox := by
    rw [hrelay]
    exact hs.relay.outboxIds
  obtain ⟨hresults4, hbuns4, hrelay4, hbox4, hcount4, hn4⟩ := deleteNotificationsAt_part hids hdel
  obtain ⟨hcheck, hrelay5, hresults5, hn5, hbuns5⟩ := deleteBundlesAt_frame hbuns
  rw [hpages, hrelay] at hbox4 hcount4 hn4
  have hpurged : inBundlePurge now s1 = inBundlePurge now s := by
    funext b
    rw [inBundlePurge, inBundlePurge, hbuns1]
  rw [hbuns4, hbuns3, hbuns2, hbuns1, hpurged] at hbuns5 hn5
  obtain ⟨hpurges, hdeletions, hdeleted⟩ := bundles_served config now hs
  have hpages5 : s'.pageOpen now = s.pageOpen now := by
    rw [pageOpen_congr (pageColumns_congr (hresults5.trans hresults4)), hpages]
  have hbodies : s'.results.countP (resultBodyDue now) =
      s.results.countP (resultBodyDue now) - retentionBatch := by
    have hcol : ∀ rows : List ResultRow, rows.countP (resultBodyDue now) =
        (rows.map (resultBodyDue now)).countP id := by
      simp [countP_map]
    rw [hresults5, hresults4, hcol, hbodies3, ← hcol, hresults2, hbodies1]
  have hrelay5' : s'.relay =
      { s.relay with notificationOutbox := s4.relay.notificationOutbox } := by
    rw [hrelay5, hrelay4, hrelay]
  exact
    { check := hcheck
      relay := by rw [hrelay5']
      pages := hpages5
      notifications := by rwa [hrelay5]
      queues := by
        simp only [workload, hpages5, hbodies, hrelay5', hcount4, hbuns5, hpurges, hdeletions]
        rfl
      count := by
        rw [hn4, hn5, hdeleted]
        rfl }

/-- A command that is left under a key: there was one, and the batch did not take
it. -/
theorem any_deleteWhere_messageKey {rows batch : List InboundRow} (key : String) :
    (deleteWhere (fun r => batch.any fun due => r.messageKey == due.messageKey) rows).any
        (fun c => c.messageKey == key) =
      (rows.any (fun c => c.messageKey == key) && !batch.any fun due => key == due.messageKey) := by
  rw [Bool.eq_iff_iff, and_eq_true]
  simp only [any_eq_true (l := rows), any_eq_true (l := deleteWhere _ _), mem_deleteWhere,
    beq_iff_eq]
  constructor
  · rintro ⟨c, ⟨hc, hout⟩, rfl⟩
    exact ⟨⟨c, hc, rfl⟩, by rw [hout]; rfl⟩
  · rintro ⟨⟨c, hc, rfl⟩, hout⟩
    exact ⟨c, ⟨hc, by simpa using hout⟩, rfl⟩

/-- A dispatch belongs to a stored command. -/
theorem bound_of_check (hs : s.check = true) :
    ∀ c ∈ s.relay.controlConfirmations, c.dispatchMessageKey.all s.relay.hasInbound = true := by
  simp only [check, RelayStore.check, RelayStore.checkConfirmations, and_eq_true, all_eq_true] at hs
  exact fun c hc => (hs.1.1.1.2.2 c hc).2

/-- The confirmations that a deletion of commands leaves by its cascade. -/
theorem cascade_unbound (config : RetentionConfig) (now : Timestamp) (hs : s.check = true) :
    let left := deleteWhere (inBatch InboundRow.messageKey inboundBefore (inboundDue config now)
      retentionBatch s.relay.inboundCommands) s.relay.inboundCommands
    dueQueue confirmationBefore (ConfirmationRow.expiredAt now)
        (s.relay.controlConfirmations.filter fun c =>
          c.dispatchMessageKey.all ({ s.relay with inboundCommands := left } :
            RelayStore).hasInbound) =
      (workload config now s).unbound := by
  intro left
  have hkept : ∀ c ∈ s.relay.controlConfirmations,
      c.dispatchMessageKey.all ({ s.relay with inboundCommands := left } : RelayStore).hasInbound =
        !!(c.dispatchMessageKey.all fun key =>
          !((workload config now s).commands.take retentionBatch).any fun due =>
            key == due.messageKey) := by
    intro c hc
    rw [Bool.not_not]
    have hall := bound_of_check hs c hc
    cases hkey : c.dispatchMessageKey with
    | none => rfl
    | some key =>
      rw [hkey] at hall
      have hbound : s.relay.inboundCommands.any (fun c => c.messageKey == key) = true := hall
      refine (any_deleteWhere_messageKey key).trans ?_
      rw [hbound, Bool.true_and]
      rfl
  rw [filter_congr hkept]
  refine (dueQueue_deleteWhere rowOrder_confirmationBefore
    (valid_of_check hs).relay.confirmationIds).trans ?_
  simp only [Bool.not_not]
  rfl

/-- The commands lose a batch, and the confirmations those bound to it. -/
theorem deleteInboundAt_serves (hs : s.check = true)
    (h : deleteInboundAt engine config now s = (.ok n, s')) :
    s'.pageOpen now = s.pageOpen now ∧
      s'.relay.notificationOutbox = s.relay.notificationOutbox ∧
      s'.relay.selectionContexts = s.relay.selectionContexts ∧
      SameBut (inboundDue config now) s.relay.inboundCommands s'.relay.inboundCommands ∧
      s'.check = true ∧
      workload config now s' =
        { workload config now s with
          commands := (workload config now s).serve.commands
          confirmations := (workload config now s).unbound } ∧
      n = (workload config now s).reported.inbound := by
  have hv := (valid_of_check hs).relay
  obtain ⟨relay, hrun, rfl⟩ := onRelay_eq_ok.mp h
  obtain ⟨hacc, hn, rfl⟩ := delete_eq_ok.mp (orReject_eq_ok.mp hrun)
  refine ⟨rfl, rfl, rfl, sameBut_deleteWhere_inBatch hv.messageKeys, engine.sound _ hacc, ?_, ?_⟩
  · have hcommands : dueQueue inboundBefore (inboundDue config now)
        (deleteWhere (inBatch InboundRow.messageKey inboundBefore (inboundDue config now)
          retentionBatch s.relay.inboundCommands) s.relay.inboundCommands) =
        (workload config now s).serve.commands := by
      rw [dueQueue_deleteWhere rowOrder_inboundBefore hv.messageKeys,
        dueQueue_inBatch hv.messageKeys]
      rfl
    have hconf := cascade_unbound config now hs
    exact congrArg₂ (fun commands confirmations =>
      ({ workload config now s with
          commands := commands, confirmations := confirmations } : Workload)) hcommands hconf
  · rw [hn]
    refine (affected_inBatch hv.messageKeys).trans ?_
    rw [Workload.reported, workload, length_dueQueue]

/-- The selections and the confirmations lose a batch each. -/
theorem deleteSelectionsAt_serves (config : RetentionConfig) {counts : Nat × Nat} (hs : s.Valid)
    (h : deleteSelectionsAt engine now s = (.ok counts, s')) :
    s'.pageOpen now = s.pageOpen now ∧
      s'.relay.notificationOutbox = s.relay.notificationOutbox ∧
      s'.relay.inboundCommands = s.relay.inboundCommands ∧
      SameBut (fun c => c.expiresAt ≤ now) s.relay.selectionContexts s'.relay.selectionContexts ∧
      s'.check = true ∧
      workload config now s' =
        { workload config now s with
          selections := (workload config now s).serve.selections
          confirmations := (workload config now s).confirmations.drop retentionBatch } ∧
      counts = ((workload config now s).reported.selections,
        min retentionBatch (workload config now s).confirmations.length) := by
  obtain ⟨n1, s1, hsels, h⟩ := bind_eq_ok.mp h
  obtain ⟨n2, hdel, rfl⟩ := bind_pure_eq_ok.mp h
  obtain ⟨relay1, hrun1, rfl⟩ := onRelay_eq_ok.mp hsels
  obtain ⟨_, hn1, rfl⟩ := delete_eq_ok.mp (orReject_eq_ok.mp hrun1)
  obtain ⟨relay2, hrun2, rfl⟩ := onRelay_eq_ok.mp hdel
  obtain ⟨hacc, hn2, rfl⟩ := delete_eq_ok.mp (orReject_eq_ok.mp hrun2)
  have hsenders := hs.relay.contextSenders
  have hids := hs.relay.confirmationIds
  refine ⟨rfl, rfl, rfl, sameBut_deleteWhere_inBatch hsenders, engine.sound _ hacc, ?_, ?_⟩
  · have hconf := (dueQueue_deleteWhere rowOrder_confirmationBefore hids).trans
      (@dueQueue_inBatch _ _ _ confirmationBefore (ConfirmationRow.expiredAt now)
        retentionBatch _ _ _ hids)
    exact congrArg₂ (fun selections confirmations =>
      ({ workload config now s with
          selections := selections, confirmations := confirmations } : Workload))
      (countP_deleteWhere_inBatch hsenders) hconf
  · rw [hn1, hn2]
    refine congrArg₂ Prod.mk (affected_inBatch hsenders) ((affected_inBatch hids).trans ?_)
    rw [workload, length_dueQueue]

variable {result : RoundResult} {view : RoundView}

/-- A round that is not cancelled runs its three parts. -/
theorem runRoundAt_cases (hview : view.uncancelled = true)
    (h : runRoundAt engine config now view s = (.ok result, s')) :
    ∃ s1 s2, deleteOutboxAt engine config now s = (.ok result.outbox, s1) ∧
      deleteInboundAt engine config now s1 = (.ok result.inbound, s2) ∧
      deleteSelectionsAt engine now s2 = (.ok (result.selections, result.confirmations), s') := by
  simp only [RoundView.uncancelled, and_eq_true, not_eq_true'] at hview
  obtain ⟨⟨⟨_, hbox⟩, hinb⟩, hsels⟩ := hview
  simp only [runRoundAt, hbox, hinb, hsels] at h
  obtain ⟨outbox, s1, hfst, h⟩ := bind_eq_ok.mp h
  obtain ⟨inbound, s2, hsnd, h⟩ := bind_eq_ok.mp h
  obtain ⟨deleted, hthird, rfl⟩ := bind_pure_eq_ok.mp h
  exact ⟨s1, s2, hfst, hsnd, hthird⟩

/-- The pages that are open at `now`, and the rows that are not due, are the same
in `s` and `s'`. -/
structure RestKept (config : RetentionConfig) (now : Timestamp) (s s' : RelayDatabase) : Prop where
  pages : s'.pageOpen now = s.pageOpen now
  notifications : SameBut (outboxDue config (s.pageOpen now) now) s.relay.notificationOutbox
    s'.relay.notificationOutbox
  commands : SameBut (inboundDue config now) s.relay.inboundCommands s'.relay.inboundCommands
  selections : SameBut (fun c => c.expiresAt ≤ now) s.relay.selectionContexts
    s'.relay.selectionContexts

/-- What two parts leave alone. -/
theorem RestKept.trans {s'' : RelayDatabase} (h : RestKept config now s s')
    (h' : RestKept config now s' s'') : RestKept config now s s'' where
  pages := h'.pages.trans h.pages
  notifications := (h.pages ▸ h'.notifications).trans h.notifications
  commands := h'.commands.trans h.commands
  selections := h'.selections.trans h.selections

/-- **A round.**  It takes a batch from every queue, reports of it what
`Workload.reported` says, and leaves the rest alone. -/
theorem runRoundAt_serves (hs : s.check = true) (hview : view.uncancelled = true)
    (h : runRoundAt engine config now view s = (.ok result, s')) :
    workload config now s' = (workload config now s).serve ∧
      result = (workload config now s).reported ∧ s'.check = true ∧ RestKept config now s s' := by
  obtain ⟨s1, s2, hfst, hsnd, hthird⟩ := runRoundAt_cases hview h
  have hbox := deleteOutboxAt_serves (valid_of_check hs) hfst
  obtain ⟨hpages2, hbox2, hctxs2, hcommands2, hcheck2, hqueues2, hn2⟩ :=
    deleteInboundAt_serves hbox.check hsnd
  obtain ⟨hpages3, hbox3, hcommands3, hctxs3, hcheck3, hqueues3, hn3⟩ :=
    deleteSelectionsAt_serves config (valid_of_check hcheck2) hthird
  rw [hqueues2, hbox.queues] at hqueues3 hn3
  rw [hbox.queues] at hn2
  have hcount := hbox.count
  refine ⟨hqueues3, ?_, hcheck3, ?_⟩
  · obtain ⟨hsels, hconf⟩ := Prod.mk.inj hn3
    cases result
    rw [Workload.reported, RoundResult.mk.injEq]
    exact ⟨hcount, hn2, hsels, hconf⟩
  · exact
      { pages := hpages3.trans (hpages2.trans hbox.pages)
        notifications := by
          rw [hbox3, hbox2]
          exact hbox.notifications
        commands := by
          rw [hcommands3, ← congrArg RelayStore.inboundCommands hbox.relay]
          exact hcommands2
        selections := by
          rw [← congrArg RelayStore.selectionContexts hbox.relay, ← hctxs2]
          exact hctxs3 }

end

/-! ## Whole runs -/

section

variable {engine : DatabaseEngine} {config : RetentionConfig} {now : Timestamp}
  {s s' : RelayDatabase} {views : List RoundView} {report : RetentionRunReport} {count : Nat}

/-- One turn of the loop that sees no cancellation. -/
theorem runRounds_cons {view : RoundView} {outcome : Option RetentionRunReport}
    (hview : view.uncancelled = true) (hnow : view.now = some now)
    (h : runRounds engine config (view :: views) report s = (.ok outcome, s')) :
    ∃ result s1, runRoundAt engine config now view s = (.ok result, s1) ∧
      (if result.mayHaveMore then
          runRounds engine config views (addRound report result) s1 = (.ok outcome, s')
        else outcome = some { addRound report result with completed := true } ∧ s' = s1) := by
  have hnotCancelled : view.cancelled = false := by
    simp only [RoundView.uncancelled, and_eq_true, not_eq_true'] at hview
    exact hview.1.1.1
  simp only [runRounds, hnotCancelled, hnow] at h
  obtain ⟨result, s1, hround, h⟩ := bind_eq_ok.mp h
  refine ⟨result, s1, hround, ?_⟩
  cases hmore : result.mayHaveMore with
  | true => simpa [hmore] using h
  | false =>
    rw [hmore] at h
    obtain ⟨houtcome, hs⟩ := Prod.mk.inj h
    simpa using ⟨(Except.ok.inj houtcome).symm, hs.symm⟩

/-- What a pass at one clock reading did: full rounds, and one that reports nothing
more to do. -/
structure Served (config : RetentionConfig) (now : Timestamp) (s s' : RelayDatabase)
    (rounds : Nat) : Prop where
  full : (workload config now s).FullRounds rounds
  queues : workload config now s' = Workload.serve^[rounds + 1] (workload config now s)
  rest : RestKept config now s s'

/-- The loop that is not cancelled ends with a round that reports nothing more to
do, and then reports completion. -/
theorem runRounds_served {report' : RetentionRunReport} (hs : s.check = true)
    (hviews : ∀ view ∈ views, view.uncancelled = true ∧ view.now = some now)
    (h : runRounds engine config views report s = (.ok (some report'), s')) :
    report'.completed = true ∧ ∃ rounds, Served config now s s' rounds := by
  -- each turn is one round; the queues lose a batch from one to the next
  induction views generalizing s report with
  | nil => cases h
  | cons view views ih =>
    obtain ⟨hview, hnow⟩ := hviews view mem_cons_self
    obtain ⟨result, s1, hround, hrest⟩ := runRounds_cons hview hnow h
    obtain ⟨hqueues, rfl, hcheck, hkept⟩ := runRoundAt_serves hs hview hround
    cases hmore : (workload config now s).reported.mayHaveMore with
    | false =>
      rw [hmore] at hrest
      obtain ⟨hreport, rfl⟩ := hrest
      have hdone : report'.completed = true := by rw [Option.some.inj hreport]
      exact ⟨hdone, 0, hmore, hqueues, hkept⟩
    | true =>
      rw [hmore] at hrest
      obtain ⟨hdone, rounds, hlater⟩ := ih hcheck
        (fun v hv => hviews v (mem_cons_of_mem _ hv)) hrest
      refine ⟨hdone, rounds + 1, ⟨hmore, hqueues ▸ hlater.full⟩, ?_, hkept.trans hlater.rest⟩
      rw [hlater.queues, hqueues, Function.iterate_succ_apply _ (rounds + 1)]

/-- A pass that is not cancelled is such a loop. -/
theorem runOnce_served {started ended : Option Timestamp} (hs : s.check = true)
    (hviews : ∀ view ∈ views, view.uncancelled = true ∧ view.now = some now)
    (h : runOnce engine config started false views ended s = (.ok (some report), s')) :
    report.completed = true ∧ ∃ rounds, Served config now s s' rounds := by
  cases started with
  | none => cases h
  | some =>
    obtain ⟨outcome, s₁, hrounds, h⟩ := bind_eq_ok.mp h
    cases outcome with
    | none => cases h
    | some =>
      cases ended with
      | none => cases h
      | some =>
        obtain ⟨hreport, rfl⟩ := Prod.mk.inj h
        have hserved := runRounds_served hs hviews hrounds
        rw [← Option.some.inj (Except.ok.inj hreport)]
        exact hserved

section

variable {rounds : Nat} (h : Served config now s s' rounds)

include h

/-- How many notifications are left after the rounds. -/
theorem Served.notifications : (workload config now s').notifications =
    (workload config now s).notifications - retentionBatch * (rounds + 1) := by
  rw [h.queues]
  exact Workload.iterate_count Workload.notifications (fun _ => rfl) _ _

/-- The tables that are reported alone are done. -/
theorem Served.reported : (workload config now s').commands = [] ∧
    (workload config now s').selections = 0 ∧ (workload config now s').confirmations = [] := by
  rw [h.queues, Function.iterate_succ_apply']
  exact Workload.serve_of_last h.full.last

/-- Nothing is due after the pass exactly if what no count reports fitted into its
rounds. -/
theorem Served.nothingDue_iff :
    NothingDue config now s' ↔ (workload config now s).FitsIn (rounds + 1) := by
  have hbodies : (workload config now s').resultBodies = _ := h.queues ▸
    Workload.iterate_count Workload.resultBodies (fun _ => rfl) _ (rounds + 1)
  have hboxes := h.notifications
  obtain ⟨hcommands, hsels, hconf⟩ := h.reported
  rw [nothingDue_iff_workload]
  constructor
  · intro hempty
    rw [hempty] at hbodies hboxes
    exact
      { resultBodies := Nat.sub_eq_zero_iff_le.mp hbodies.symm
        notifications := Nat.sub_eq_zero_iff_le.mp hboxes.symm
        purges := by rw [← h.queues, hempty]
        deletions := by rw [← h.queues, hempty] }
  · intro hfits
    have hpurges := hfits.purges
    have hdels := hfits.deletions
    rw [← h.queues] at hpurges hdels
    have hzero := hbodies.trans (Nat.sub_eq_zero_of_le hfits.resultBodies)
    have hzero' := hboxes.trans (Nat.sub_eq_zero_of_le hfits.notifications)
    cases hw : workload config now s'
    rw [hw] at hzero hzero' hsels hpurges hdels hcommands hconf
    rw [Workload.mk.injEq]
    exact ⟨hzero, hzero', hsels, hpurges, hdels, hcommands, hconf⟩

end

/-- **What a completed pass leaves.**  A pass at one clock reading that is not
cancelled reports completion.  Nothing is due after it exactly if the result
bodies, the notifications and the bundles that were due in the database it started
from fit into as many batches as there are rounds, where the rounds go on while a
reported count of the queues is one batch. -/
theorem run_once_leaves_nothing_due_iff (engine : DatabaseEngine) (config : RetentionConfig)
    (now : Timestamp) (started ended : Option Timestamp) (views : List RoundView)
    (s s' : RelayDatabase) (report : RetentionRunReport) (hs : s.check = true)
    (hviews : ∀ view ∈ views, view.uncancelled = true ∧ view.now = some now)
    (h : runOnce engine config started false views ended s = (.ok (some report), s')) :
    report.completed = true ∧
      (NothingDue config now s' ↔
        ∃ rounds, (workload config now s).FullRounds rounds ∧
          (workload config now s).FitsIn (rounds + 1)) := by
  obtain ⟨hcompleted, rounds, hserved⟩ := runOnce_served hs hviews h
  refine ⟨hcompleted, hserved.nothingDue_iff.trans ⟨fun hfits => ⟨rounds, hserved.full, hfits⟩, ?_⟩⟩
  rintro ⟨rounds', hfull, hfits⟩
  rwa [hserved.full.unique hfull]

/-! A pass over more bundle bodies than one batch holds. -/

/-- A bundle that expired and whose body may be purged from the tenth
millisecond on. -/
def staleBundle (index : Nat) : BundleRow where
  id := BitVec.ofNat 128 index
  originDeviceId := 1
  bodyCiphertext := some []
  bodyNonce := some (List.replicate 24 0)
  status := .expired
  acceptedAt := 0
  createdAt := 0
  expiresAt := 1
  updatedAt := 10
  bodyRetainUntil := 10
  bodyPurgedAt := none

/-- A database with such bundles only. -/
def staleBundles (count : Nat) : RelayDatabase where
  relay := { RelayStore.empty with devices := [⟨1, "desk", true, 0, none, []⟩] }
  results := []
  notificationBundles := (List.range count).map staleBundle

/-- `RetentionConfig::default`. -/
def defaultConfig : RetentionConfig := ⟨30, 90, 7, 2⟩

/-- Observations without a cancellation. -/
def calmView (now : Timestamp) : RoundView := ⟨false, some now, false, false, false⟩

theorem bundleDue_staleBundles {b : BundleRow} (hb : b ∈ (staleBundles count).notificationBundles) :
    bundleDue defaultConfig 20 b = false := by
  obtain ⟨index, _, rfl⟩ := mem_map.mp hb
  rfl

/-- All bundles of the sample are due. -/
theorem staleBundles_due (count : Nat) :
    (staleBundles count).notificationBundles.countP (bundleBodyDue 20) = count := by
  rw [countP_eq_length.mpr]
  · rw [staleBundles, length_map, length_range]
  intro b hb
  obtain ⟨index, _, rfl⟩ := mem_map.mp hb
  rfl

section

variable (hcount : count < 1000)

include hcount

theorem purgedBundles_check (purged : BundleRow → Bool) : ({ staleBundles count with
        notificationBundles := updateWhere purged (purgedBundle 20)
          (staleBundles count).notificationBundles } : RelayDatabase).check = true := by
  have hrows : ∀ b ∈ updateWhere purged (purgedBundle 20) ((List.range count).map staleBundle),
      b.check = true ∧ b.originDeviceId = 1 := by
    intro b hb
    obtain ⟨b0, hb0, hcases⟩ := mem_updateWhere.mp hb
    obtain ⟨index, _, rfl⟩ := mem_map.mp hb0
    rcases hcases with ⟨_, rfl⟩ | ⟨_, rfl⟩ <;> exact ⟨rfl, rfl⟩
  have hids : ((updateWhere purged (purgedBundle 20) ((List.range count).map staleBundle)).map
      BundleRow.id).Nodup := by
    have hcol : ∀ b : BundleRow, (purgedBundle 20 b).id = b.id := fun _ => rfl
    rw [map_updateWhere hcol, map_map]
    refine List.Nodup.map_on ?_ nodup_range
    intro a ha b hb heq
    have hnat := congrArg BitVec.toNat heq
    simp only [Function.comp_apply, staleBundle, BitVec.toNat_ofNat] at hnat
    rw [mem_range] at ha hb
    omega
  simp only [check, checkBundles, and_eq_true, all_eq_true, distinct_iff_nodup]
  refine ⟨⟨rfl, rfl⟩, ⟨fun b hb => (hrows b hb).1, hids⟩, fun b hb => ?_⟩
  rw [(hrows b hb).2]
  rfl

/-- The sample passes the schema. -/
theorem staleBundles_check : (staleBundles count).check = true := by
  have hnone := purgedBundles_check hcount fun _ => false
  rwa [updateWhere_of_forall_not (fun _ _ => rfl)] at hnone

/-- The round purges one batch of bodies and counts none of them. -/
theorem staleBundles_round :
    ∃ s', runRoundAt (Engine.faultless check) defaultConfig 20 (calmView 20) (staleBundles count) =
      (.ok .zero, s') := by
  let engine : DatabaseEngine := Engine.faultless check
  let s := staleBundles count
  let s' : RelayDatabase :=
    { s with
      notificationBundles :=
        updateWhere (inBundlePurge 20 s) (purgedBundle 20) s.notificationBundles }
  have hs : s.check = true := staleBundles_check hcount
  have hs' : s'.check = true := purgedBundles_check hcount _
  have hpurge : purgeResultBodiesAt engine 20 s = (.ok 0, s) := update_eq_ok.mpr ⟨hs, rfl, rfl⟩
  have hcontent : ∃ n, purgeBundleContentAt engine 20 s = (.ok n, s') :=
    ⟨_, update_eq_ok.mpr ⟨hs', rfl, rfl⟩⟩
  have hkeep : keepObservedStatusAt engine defaultConfig 20 s' = (.ok 0, s') :=
    update_eq_ok.mpr ⟨hs', rfl, rfl⟩
  -- the other tables are empty, and no bundle is old enough to be deleted
  have hdel : deleteNotificationsAt engine defaultConfig 20 s' = (.ok 0, s') := by
    rw [deleteNotificationsAt, read_bind_run, onRelay_eq_ok]
    exact ⟨s'.relay, orReject_eq_ok.mpr (delete_eq_ok.mpr ⟨hs', rfl, rfl⟩), rfl⟩
  have hbuns : deleteBundlesAt engine defaultConfig 20 s' = (.ok 0, s') :=
    deleteBundlesAt_of_none_due hs' (forall_mem_updateWhere
      (fun b _ _ => bundleDue_purgedBundle b) fun b => bundleDue_staleBundles)
  have hinb : deleteInboundAt engine defaultConfig 20 s' = (.ok 0, s') :=
    onRelay_eq_ok.mpr ⟨s'.relay, orReject_eq_ok.mpr (delete_eq_ok.mpr ⟨hs', rfl, rfl⟩), rfl⟩
  have hsels : deleteSelectionsAt engine 20 s' = (.ok (0, 0), s') := by
    refine bind_eq_ok.mpr ⟨0, s', onRelay_eq_ok.mpr ⟨s'.relay, ?_, rfl⟩, ?_⟩
    · exact orReject_eq_ok.mpr (delete_eq_ok.mpr ⟨hs', rfl, rfl⟩)
    · refine bind_eq_ok.mpr ⟨0, s', onRelay_eq_ok.mpr ⟨s'.relay, ?_, rfl⟩, rfl⟩
      exact orReject_eq_ok.mpr (delete_eq_ok.mpr ⟨hs', rfl, rfl⟩)
  obtain ⟨n, hcontent⟩ := hcontent
  have hbox : deleteOutboxAt engine defaultConfig 20 s = (.ok 0, s') := by
    rw [deleteOutboxAt, bind_run_of_ok hpurge, bind_run_of_ok hcontent]
    refine bind_eq_ok.mpr ⟨0, s', transaction_eq_ok.mpr (.inl ?_), ?_⟩
    · exact bind_eq_ok.mpr ⟨0, s', hkeep, bind_eq_ok.mpr ⟨0, s', hdel, rfl⟩⟩
    · exact bind_eq_ok.mpr ⟨0, s', hbuns, rfl⟩
  exact ⟨s', bind_eq_ok.mpr ⟨0, s', hbox, bind_eq_ok.mpr
    ⟨0, s', hinb, bind_eq_ok.mpr ⟨(0, 0), s', hsels, rfl⟩⟩⟩⟩

/-- So the pass ends with this round and reports completion. -/
theorem staleBundles_runOnce :
    ∃ s', runOnce (Engine.faultless check) defaultConfig (some 20) false [calmView 20] (some 20)
        (staleBundles count) = (.ok (some ⟨0, 0, 0, 20, 20, true⟩), s') := by
  obtain ⟨s', hround⟩ := staleBundles_round hcount
  refine ⟨s', bind_eq_ok.mpr ⟨some ⟨0, 0, 0, 20, 20, true⟩, s', ?_, rfl⟩⟩
  exact bind_eq_ok.mpr ⟨.zero, s', hround, rfl⟩

end

/-- The queue of purges of these bundles, and that the other queues are empty. -/
theorem staleBundles_workload (count : Nat) : ∃ purges : List BundleRow, purges.length = count ∧
    workload defaultConfig 20 (staleBundles count) = ⟨0, 0, 0, purges, [], [], []⟩ := by
  refine ⟨dueQueue (byTimeThenId BundleRow.bodyRetainUntil BundleRow.id) (bundleBodyDue 20)
    (staleBundles count).notificationBundles, ?_, ?_⟩
  · rw [length_dueQueue, staleBundles_due]
  have hdels : dueQueue (byTimeThenId BundleRow.updatedAt BundleRow.id)
      (bundleDue defaultConfig 20) (staleBundles count).notificationBundles = [] :=
    dueQueue_eq_nil.mpr fun b hb => bundleDue_staleBundles hb
  rw [workload, hdels]
  rfl

/-- Five hundred bodies are due, and the pass purges them. -/
theorem run_once_leaves_nothing_due_iff_sample : ∃ s',
      runOnce (Engine.faultless check) defaultConfig (some 20) false [calmView 20] (some 20)
        (staleBundles 500) = (.ok (some ⟨0, 0, 0, 20, 20, true⟩), s') ∧
      (workload defaultConfig 20 (staleBundles 500)).purges.length = 500 ∧
      NothingDue defaultConfig 20 s' := by
  obtain ⟨s', hrun⟩ := @staleBundles_runOnce 500 (by decide)
  obtain ⟨purges, hlength, hqueues⟩ := staleBundles_workload 500
  have hiff := (run_once_leaves_nothing_due_iff _ _ 20 _ _ _ _ _ _
    (staleBundles_check (by decide)) (by decide) hrun).2
  rw [hqueues] at hiff ⊢
  refine ⟨s', hrun, hlength, hiff.mpr ⟨0, rfl, Nat.zero_le _, Nat.zero_le _, ?_, rfl⟩⟩
  have hrest : purges.drop retentionBatch = [] := drop_eq_nil_iff.mpr hlength.le
  simp [Workload.serve, hrest]

/-- Five hundred and one bodies are due; the pass purges five hundred of them
and reports completion. -/
theorem completed_pass_leaves_body_due : ∃ s', (staleBundles 501).check = true ∧
      runOnce (Engine.faultless check) defaultConfig (some 20) false [calmView 20] (some 20)
        (staleBundles 501) = (.ok (some ⟨0, 0, 0, 20, 20, true⟩), s') ∧
      ¬ NothingDue defaultConfig 20 s' := by
  have hcheck : (staleBundles 501).check = true := staleBundles_check (by decide)
  obtain ⟨s', hrun⟩ := @staleBundles_runOnce 501 (by decide)
  refine ⟨s', hcheck, hrun, fun hnothing => ?_⟩
  have hviews : ∀ view ∈ [calmView 20], view.uncancelled = true ∧ view.now = some 20 := by decide
  obtain ⟨_, rounds, hserved⟩ := runOnce_served hcheck hviews hrun
  have hfits := hserved.nothingDue_iff.mp hnothing
  have hfull := hserved.full
  obtain ⟨purges, hlength, hqueues⟩ := staleBundles_workload 501
  rw [hqueues] at hfits hfull
  -- the first round is the last, as it reports nothing
  have hone : rounds = 0 := hfull.unique rfl
  have hrest := congrArg List.length (hone ▸ hfits.purges)
  simp [Workload.serve, Workload.unpurged, retentionBatch, hlength] at hrest

end

end RelayDatabase

end PromptDock
