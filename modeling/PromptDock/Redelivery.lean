import PromptDock.OutcomeRuns

/-!
# Messages that are delivered twice

The durable sink recognises a message by its key, but only after it checked the
code that the message may carry.  A second delivery is therefore without effect
exactly when the check of its code is: the check cancels a confirmation that
expired meanwhile, and counts a code that does not match
(`redelivery_is_idempotent_iff`).
-/

namespace PromptDock

open RowTable StoreAction TableStatement LabelledRun RelayStore InboundCommandService Action List

/-! ## Updates of confirmations that the schema accepts -/

variable {change : ConfirmationRow → ConfirmationRow} {guard : ConfirmationRow → Bool}
  {s : RelayStore}

/-- An update of confirmations that keeps their names and references, and makes
no confirmation await its code, is accepted if each new row is. -/
theorem RelayStore.check_updateConfirmations (hs : s.check = true)
    (hrows : ∀ r ∈ s.controlConfirmations, guard r = true → (change r).check = true)
    (hnames : ∀ r, (change r).confirmationId = r.confirmationId ∧
      (change r).dispatchMessageKey = r.dispatchMessageKey ∧ (change r).scope = r.scope)
    (haw : ∀ r, guard r = true → (change r).dispatchState = .awaitingConfirmation →
      r.dispatchState = .awaitingConfirmation) : (confirmationTable.put s
      (updateWhere guard change s.controlConfirmations)).check = true := by
  simp only [check, Bool.and_eq_true] at hs ⊢
  obtain ⟨⟨⟨⟨hdevs, hbox⟩, hinb⟩, hconf⟩, hsel⟩ := hs
  refine ⟨⟨⟨⟨hdevs, hbox⟩, hinb⟩, ?_⟩, hsel⟩
  simp only [checkConfirmations, Bool.and_eq_true, all_eq_true, distinct_iff_nodup] at hconf ⊢
  obtain ⟨⟨⟨⟨hchecks, hids⟩, hkeys⟩, hsenders⟩, hrefs⟩ := hconf
  have hcol : ∀ rows : List ConfirmationRow, rows.filterMap ConfirmationRow.dispatchMessageKey =
      (rows.map ConfirmationRow.dispatchMessageKey).filterMap id := by
    intro rows
    rw [filterMap_map]
    rfl
  refine ⟨⟨⟨⟨?_, ?_⟩, ?_⟩, ?_⟩, ?_⟩
  · exact forall_mem_updateWhere hrows hchecks
  · exact KeysUnique.updateWhere hids fun r => (hnames r).1
  · rw [hcol] at hkeys ⊢
    show (((updateWhere guard change s.controlConfirmations).map _).filterMap id).Nodup
    rwa [map_updateWhere fun r => (hnames r).2.1]
  · refine hsenders.sublist (filter_updateWhere_sublist (fun r => ?_) (fun r hg h => ?_) _)
    · rw [(hnames r).2.2]
    · simpa using haw r hg (by simpa using h)
  · refine forall_mem_updateWhere (fun r hr _ => ?_) hrefs
    rw [(hnames r).2.1, (hnames r).2.2]
    exact hrefs r hr

variable {r : ConfirmationRow}

namespace ConfirmationRow

section

variable (hchk : r.check = true)

include hchk

/-- What the schema says about a confirmation that awaits its code. -/
theorem awaiting_columns (hawait : r.dispatchState = .awaitingConfirmation) :
    r.attemptCount < r.maxAttempts ∧ r.lockedAt = none := by
  simp only [check, Bool.and_eq_true] at hchk
  have hst := hchk.2
  simp only [checkState, hawait, Bool.and_eq_true, decide_eq_true_eq,
    Option.isNone_iff_eq_none] at hst
  exact ⟨hst.1.1.1.1, hst.1.1.1.2⟩

theorem lockedAt_nonneg {t : Timestamp} (hlock : r.lockedAt = some t) : 0 ≤ t := by
  simp only [check, hlock, Option.all_some, Bool.and_eq_true, decide_eq_true_eq] at hchk
  exact hchk.1.1.1.1.1.1.2

/-- A cancelled confirmation passes its check. -/
theorem cancel_check
    (hawait : r.dispatchState = .awaitingConfirmation) : r.cancel.check = true := by
  simp only [check, checkState, hawait] at hchk ⊢
  exact hchk

/-- A wrong code is counted; only the time at which it locks the confirmation
may break the schema. -/
theorem failAttempt_check {now : Timestamp} (hawait : r.dispatchState = .awaitingConfirmation)
    (hnow : r.maxAttempts ≤ r.attemptCount + 1 → 0 ≤ now) : (r.failAttempt now).check = true := by
  by_cases hlast : r.maxAttempts ≤ r.attemptCount + 1
  · have hnow := hnow hlast
    simp only [check, checkState, failAttempt, hlast] at hchk ⊢
    simp_all
    omega
  · simp only [check, checkState, failAttempt, hlast] at hchk ⊢
    simp_all
    omega

end

end ConfirmationRow

/-! ## The check of a code -/

/-- Checking `code` at `now` leaves the confirmation as it is: it has not
expired and the code is the right one.  A wrong code that would lock it at a
time before 1970 is not counted either, since the schema refuses that time. -/
def ConfirmationVerifier.Spares (verifier : ConfirmationVerifier) (code : String)
    (now : Timestamp) (r : ConfirmationRow) : Prop :=
  now < r.scope.expiresAt ∧
    (verifier.accepts r code = true ∨ now < 0 ∧ r.maxAttempts ≤ r.attemptCount + 1)

namespace InboundCommandService

variable {verifier : ConfirmationVerifier} {sender code : String} {now : Timestamp} {s : RelayStore}

theorem awaits_iff : r.awaits sender = true ↔
      r.scope.senderFingerprint = sender ∧ r.dispatchState = .awaitingConfirmation := by
  simp [ConfirmationRow.awaits]

/-- The confirmation whose code is checked is the only one of its sender that
awaits its code. -/
theorem find_awaiting (hs : s.check = true) (hr : r ∈ s.controlConfirmations)
    (haw : r.awaits sender = true) :
    s.controlConfirmations.find? (ConfirmationRow.awaits sender) = some r := by
  cases hfound : s.controlConfirmations.find? (ConfirmationRow.awaits sender) with
  | none => exact absurd haw (by simpa using List.find?_eq_none.mp hfound r hr)
  | some =>
    have hr' := List.mem_of_find?_eq_some hfound
    have haw' := awaits_iff.mp (List.find?_some hfound)
    have hawait := awaits_iff.mp haw
    simp only [check, checkConfirmations, Bool.and_eq_true, distinct_iff_nodup] at hs
    have hsenders := hs.1.2.1.2
    have hsame := inj_on_of_nodup_map hsenders (mem_filter.mpr ⟨hr', by simpa using haw'.2⟩)
      (mem_filter.mpr ⟨hr, by simpa using hawait.2⟩) (haw'.1.trans hawait.1.symm)
    rw [hsame]

/-- The table of confirmations after an update that changes one of them differs
from the table before. -/
theorem updateWhere_ne_of_changed {rows : List ConfirmationRow}
    (hids : KeysUnique ConfirmationRow.confirmationId rows) (hr : r ∈ rows) (hg : guard r = true)
    (hid : (change r).confirmationId = r.confirmationId) (hne : change r ≠ r) :
    updateWhere guard change rows ≠ rows := by
  intro heq
  have hmem : change r ∈ updateWhere guard change rows :=
    mem_updateWhere.mpr ⟨r, hr, .inl ⟨hg, rfl⟩⟩
  rw [heq] at hmem
  exact hne (hids.eq_of_key hmem hr hid)

variable {row : ConfirmationRow}

section

variable (hs : s.check = true) (hrow : row ∈ s.controlConfirmations)
  (haw : row.awaits sender = true)

include hs hrow haw

/-- The check of a code that comes too late changes the confirmation. -/
theorem resolveConfirmationCode_of_expired (hexp : row.scope.expiresAt ≤ now) :
    ((resolveConfirmationCode sqlite verifier sender code now s).2).controlConfirmations ≠
      s.controlConfirmations := by
  have hvalid := valid_of_check hs
  have hawait := (awaits_iff.mp haw).2
  let guard : ConfirmationRow → Bool := fun r =>
    r.confirmationId == row.confirmationId && r.dispatchState = .awaitingConfirmation
  have hguard : guard row = true := by simp [guard, hawait]
  have hacc : sqlite.accepts (confirmationTable.put s
      (updateWhere guard ConfirmationRow.cancel s.controlConfirmations)) = true := by
    refine check_updateConfirmations hs (fun r hr hg => ?_) (fun r => ⟨rfl, rfl, rfl⟩)
      (fun r _ h => nomatch h)
    have hst : r.dispatchState = .awaitingConfirmation := by
      simpa using (Bool.and_eq_true_iff.mp hg).2
    exact ConfirmationRow.cancel_check (hvalid.confirmationRows r hr) hst
  have hrun : resolveConfirmationCode sqlite verifier sender code now s =
      (.ok (.error "CONFIRMATION_EXPIRED"), confirmationTable.put s
        (updateWhere guard ConfirmationRow.cancel s.controlConfirmations)) := by
    refine transaction_eq_ok.mpr (.inl ?_)
    simp only [read_bind_run, find_awaiting hs hrow haw, hexp]
    exact bind_eq_ok.mpr ⟨_, _, update_eq_ok.mpr ⟨hacc, rfl, rfl⟩, rfl⟩
  rw [hrun]
  refine updateWhere_ne_of_changed hvalid.confirmationIds hrow hguard rfl fun heq => ?_
  have hst := congrArg ConfirmationRow.dispatchState heq
  rw [hawait] at hst
  cases hst

/-- The check of the right code changes nothing. -/
theorem resolveConfirmationCode_of_right
    (hlive : now < row.scope.expiresAt) (hright : verifier.accepts row code = true) :
    (resolveConfirmationCode sqlite verifier sender code now s).2 = s := by
  have hchk := (valid_of_check hs).confirmationRows row hrow
  have hlock := (ConfirmationRow.awaiting_columns hchk (awaits_iff.mp haw).2).2
  simp [resolveConfirmationCode, transaction, find_awaiting hs hrow haw,
    Int.not_le.mpr hlive, hlock, hright]

/-- The check of a wrong code changes the confirmation, unless the schema
refuses the time at which it would be locked. -/
theorem resolveConfirmationCode_of_wrong
    (hlive : now < row.scope.expiresAt) (hwrong : verifier.accepts row code = false) :
    let s' := (resolveConfirmationCode sqlite verifier sender code now s).2
    if now < 0 ∧ row.maxAttempts ≤ row.attemptCount + 1 then s' = s
    else s'.controlConfirmations ≠ s.controlConfirmations := by
  have hvalid := valid_of_check hs
  have hchk := hvalid.confirmationRows row hrow
  have hawait := (awaits_iff.mp haw).2
  obtain ⟨hatt, hlock⟩ := ConfirmationRow.awaiting_columns hchk hawait
  let guard : RelayStore → ConfirmationRow → Bool := fun _ r =>
    r.confirmationId == row.confirmationId && r.dispatchState = .awaitingConfirmation &&
      r.lockedAt.isNone && r.attemptCount < r.maxAttempts
  have hguard : guard s row = true := by simp [guard, hawait, hlock, hatt]
  have hpins : ∀ r, guard s r = true → r.confirmationId = row.confirmationId := by
    intro r hr
    simp only [guard, Bool.and_eq_true, beq_iff_eq] at hr
    exact hr.1.1.1
  have honly : ∀ r ∈ s.controlConfirmations, guard s r = true → r = row := by
    intro r hr hg
    exact hvalid.confirmationIds.eq_of_key hr hrow (hpins r hg)
  have hone : affected (guard s) s.controlConfirmations = 1 := by
    have hle := hvalid.confirmationIds.affected_le_one hpins
    have hpos := affected_pos.mpr ⟨row, hrow, hguard⟩
    omega
  let body : Relay Empty (Finish (Except String String)) := do
    let changed ← updateOne sqlite confirmationTable guard (ConfirmationRow.failAttempt now)
    if changed then pure (.commit (.error "CONFIRMATION_REJECTED"))
    else pure (.rollback (.error "CONFIRMATION_LOCKED"))
  have hrun : resolveConfirmationCode sqlite verifier sender code now s = transaction body s := by
    simp only [resolveConfirmationCode, transaction, read_bind_run, find_awaiting hs hrow haw,
      Int.not_le.mpr hlive, hlock, hwrong]
    rfl
  simp only [hrun]
  split
  · rename_i href
    have hrefuse : sqlite.accepts (confirmationTable.put s
        (updateWhere (guard s) (ConfirmationRow.failAttempt now) s.controlConfirmations)) =
          false := by
      rw [← Bool.not_eq_true]
      intro hacc
      have hrows := (valid_of_check hacc).confirmationRows (row.failAttempt now)
        (mem_updateWhere.mpr ⟨row, hrow, .inl ⟨hguard, rfl⟩⟩)
      have hnow := ConfirmationRow.lockedAt_nonneg hrows (if_pos href.2)
      exact absurd hnow (Int.not_le.mpr href.1)
    have hbody : body s = (.error .statement, s) :=
      bind_eq_error.mpr (.inl (updateOne_eq_error.mpr ⟨hrefuse, rfl, rfl⟩))
    rw [transaction_eq_error.mpr ⟨rfl, s, hbody⟩]
  · rename_i hcnt
    have hacc : sqlite.accepts (confirmationTable.put s
        (updateWhere (guard s) (ConfirmationRow.failAttempt now) s.controlConfirmations)) =
          true := by
      refine check_updateConfirmations hs (fun r hr hg => ?_)
        (fun r => ⟨rfl, rfl, rfl⟩) (fun r hg _ => ?_)
      · rw [honly r hr hg]
        refine ConfirmationRow.failAttempt_check hchk hawait fun hlast => ?_
        by_contra hneg
        exact hcnt ⟨Int.not_le.mp hneg, hlast⟩
      · simp only [guard, Bool.and_eq_true, decide_eq_true_eq] at hg
        exact hg.1.1.2
    have hbody : body s = (.ok (.commit (.error "CONFIRMATION_REJECTED")), confirmationTable.put s
          (updateWhere (guard s) (ConfirmationRow.failAttempt now) s.controlConfirmations)) :=
      bind_eq_ok.mpr ⟨true, _, updateOne_eq_true.mpr ⟨hacc, hone, rfl⟩, rfl⟩
    rw [transaction_eq_ok.mpr (.inl hbody)]
    refine updateWhere_ne_of_changed hvalid.confirmationIds hrow hguard rfl fun heq => ?_
    have hcount := congrArg ConfirmationRow.attemptCount heq
    simp only [ConfirmationRow.failAttempt] at hcount
    omega

end

/-- Checking a code changes no confirmation exactly when it spares the one that
awaits its code. -/
theorem resolveConfirmationCode_idle_iff (hs : s.check = true) :
    (resolveConfirmationCode sqlite verifier sender code now s).2.controlConfirmations =
        s.controlConfirmations ↔
      ∀ r ∈ s.controlConfirmations, r.awaits sender = true → verifier.Spares code now r := by
  cases hfound : s.controlConfirmations.find? (ConfirmationRow.awaits sender) with
  | none =>
    have hnone := List.find?_eq_none.mp hfound
    have hidle : (resolveConfirmationCode sqlite verifier sender code now s).2 = s := by
      simp [resolveConfirmationCode, transaction, hfound]
    rw [hidle]
    exact ⟨fun _ r hr haw => absurd haw (hnone r hr), fun _ => rfl⟩
  | some row =>
    have hrow := List.mem_of_find?_eq_some hfound
    have haw := List.find?_some hfound
    have honly : ∀ r ∈ s.controlConfirmations, r.awaits sender = true → r = row := by
      intro r hr h
      have hsame := find_awaiting hs hr h
      rw [hfound] at hsame
      exact (Option.some.inj hsame).symm
    have hspares : (∀ r ∈ s.controlConfirmations, r.awaits sender = true →
        verifier.Spares code now r) ↔ verifier.Spares code now row := by
      constructor
      · intro h
        exact h row hrow haw
      intro h r hr hr'
      rw [honly r hr hr']
      exact h
    rw [hspares]
    by_cases hlive : now < row.scope.expiresAt
    · cases hright : verifier.accepts row code with
      | true =>
        rw [resolveConfirmationCode_of_right hs hrow haw hlive hright]
        exact ⟨fun _ => ⟨hlive, .inl hright⟩, fun _ => rfl⟩
      | false =>
        have hwrong := resolveConfirmationCode_of_wrong hs hrow haw hlive hright
        split at hwrong
        · rename_i href
          rw [hwrong]
          exact ⟨fun _ => ⟨hlive, .inr href⟩, fun _ => rfl⟩
        rename_i hcnt
        refine ⟨fun h => absurd h hwrong, ?_⟩
        rintro ⟨_, hacc | href⟩
        · rw [hright] at hacc
          cases hacc
        · exact absurd href hcnt
    · refine ⟨fun h => absurd h ?_, fun h => absurd h.1 hlive⟩
      exact resolveConfirmationCode_of_expired hs hrow haw (Int.not_lt.mp hlive)

/-- A recognised replay changes nothing. -/
theorem recogniseReplay_eq_ok {durable : DurableInboundCommand} {outcome : InboundAcceptOutcome}
    (h : recogniseReplay durable s = (.ok outcome, s')) : outcome = .exactReplay ∧ s' = s := by
  simp only [recogniseReplay, read_bind_run] at h
  generalize s.inboundCommands.find? _ = found at h
  cases found with
  | none => cases h
  | some existing =>
    dsimp only at h
    split at h <;> cases h
    exact ⟨rfl, rfl⟩

/-- A message changes nothing, and is a replay if it is accepted at all; or its
key is new and it is stored. -/
theorem acceptWithStatus_cases {eng : RelayEngine} {durable : DurableInboundCommand}
    {status : InboundStatus} {canc : CancelPoint} {res : Except _ InboundAcceptOutcome}
    (h : acceptWithStatus eng durable status canc s = (res, s')) :
    s' = s ∧ (∀ outcome, res = .ok outcome → outcome = .exactReplay) ∨
      s.hasInbound durable.messageKey = false ∧ durable.row status ∈ s'.inboundCommands ∧
        s'.Valid := by
  unfold acceptWithStatus at h
  split at h
  · cases h
    exact .inl ⟨rfl, nofun⟩
  cases res with
  | error => exact .inl ⟨(transaction_eq_error.mp h).1, nofun⟩
  | ok =>
    obtain ⟨finish, s1, hbody, hends⟩ := transaction_ends h
    obtain ⟨inserted, s2, hins, hrest⟩ := bind_eq_ok.mp hbody
    obtain ⟨outcome, s3, hout, hcommit⟩ := bind_eq_ok.mp hrest
    split at hcommit <;> cases hcommit
    cases hends
    rcases insertUnless_eq_ok.mp hins with ⟨_, rfl, rfl⟩ | ⟨hfree, rfl, hacc, rfl⟩
    · obtain ⟨rfl, rfl⟩ := recogniseReplay_eq_ok hout
      exact .inl ⟨rfl, fun _ h => (Except.ok.inj h).symm⟩
    · cases hout
      exact .inr ⟨hfree, mem_append_right _ (mem_singleton_self _),
        valid_of_check (eng.sound _ hacc)⟩

/-- A message whose key is taken changes nothing. -/
theorem accept_of_hasInbound {eng : RelayEngine} {durable : DurableInboundCommand}
    (htaken : s.hasInbound durable.messageKey = true) (canc : CancelPoint) :
    (accept eng durable canc s).2 = s := by
  rcases hrun : accept eng durable canc s with ⟨res, s'⟩
  rcases acceptWithStatus_cases hrun with h | ⟨hfree, _⟩
  · exact h.1
  · rw [htaken] at hfree
    cases hfree

/-- Checking a code leaves the queues alone. -/
theorem resolveConfirmationCode_sameQueues (eng : RelayEngine)
    (verifier : ConfirmationVerifier) (sender code : String) (now : Timestamp) : Keeps SameQueues
      (resolveConfirmationCode eng verifier sender code now) := by
  refine .transaction (.bind .read fun s => ?_)
  split
  · exact .pure _
  split
  · refine .bind ?_ fun _ => .pure _
    exact update_keeps_put confirmationTable_put_sameQueues _ _
  split
  · exact .pure _
  split
  · exact .pure _
  refine .bind ?_ fun _ => ?_
  · exact updateOne_keeps_put confirmationTable_put_sameQueues _ _
  · split <;> exact .pure _

end InboundCommandService

/-! ## The second delivery -/

/-- What a delivery that nobody interferes with leaves behind. -/
def RelayStore.received (s : RelayStore) (verifier : ConfirmationVerifier)
    (message : EphemeralInboundText) (cancellation : CancelPoint) : RelayStore :=
  (DurableInboundMessageSink.accept (m := Relay InboundMessageError) id sqlite verifier message
    cancellation s).2

/-- The delivery of a message whose key is taken does no more than check its
code. -/
theorem RelayStore.received_of_hasInbound {verifier : ConfirmationVerifier}
    {message : EphemeralInboundText} {canc : CancelPoint}
    (hretained : s.hasInbound message.messageKey = true) (hent : canc ≠ .entry) :
    s.received verifier message canc = (resolveMessage sqlite verifier message s).2 := by
  have hqueues : Keeps SameQueues (resolveMessage sqlite verifier message) := by
    unfold resolveMessage
    split
    · exact .bind (.attempt (resolveConfirmationCode_sameQueues _ _ _ _ _)) fun _ => .pure _
    · exact .pure _
  have hrun : s.received verifier message canc =
      ((resolveMessage sqlite verifier message >>= fun parsed =>
        accept sqlite (durableCommand verifier.blake3 message parsed) canc) s).2 := by
    simp only [received, DurableInboundMessageSink.accept, hent]
    rfl
  rw [hrun, bind_run]
  rcases hresolved : resolveMessage sqlite verifier message s with ⟨e | parsed, s1⟩
  · rfl
  · have htaken : s1.hasInbound message.messageKey = true := by
      rw [hasInbound, (hqueues.of_run hresolved).2]
      exact hretained
    exact accept_of_hasInbound htaken canc

/-- **A second delivery is idempotent exactly when its code is spared.**  In
every reachable store in which the message's command is retained, delivering
the message again leaves the commands and the confirmations as they are if and
only if it is cancelled on entry, or carries no code, or the sender's
confirmation is unexpired and matches the code. -/
theorem redelivery_is_idempotent_iff (verifier : ConfirmationVerifier) {events : List RelayEvent}
    {w : RelayWorld} (hrun : Run (RelayStep verifier) .start events w)
    (message : EphemeralInboundText) (cancellation : CancelPoint)
    (hretained : w.store.hasInbound message.messageKey = true) :
    ((w.store.received verifier message cancellation).inboundCommands = w.store.inboundCommands ∧
      (w.store.received verifier message cancellation).controlConfirmations =
        w.store.controlConfirmations) ↔
      cancellation = .entry ∨
        ∀ code, parseConfirmationCode message.text = some code →
          ∀ r ∈ w.store.controlConfirmations, r.awaits message.senderFingerprint = true →
            verifier.Spares code message.receivedAt r := by
  have hcheck : w.store.check = true :=
    hrun.invariant (I := fun w => w.store.check = true)
      (fun _ _ _ => relayStep_check) (by decide : empty.check = true)
  by_cases hentry : cancellation = .entry
  · subst hentry
    exact ⟨fun _ => .inl rfl, fun _ => ⟨rfl, rfl⟩⟩
  rw [received_of_hasInbound hretained hentry]
  cases hcode : parseConfirmationCode message.text with
  | none => simp [resolveMessage, hcode]
  | some code =>
    have hqueues := resolveConfirmationCode_sameQueues sqlite verifier
      message.senderFingerprint code message.receivedAt w.store
    have hresolved : (resolveMessage sqlite verifier message w.store).2 =
        (resolveConfirmationCode sqlite verifier message.senderFingerprint code
          message.receivedAt w.store).2 := by
      simp only [resolveMessage, hcode]
      rfl
    simp only [hresolved, hqueues.2, true_and, hentry, false_or, Option.some.injEq]
    rw [resolveConfirmationCode_idle_iff hcheck]
    exact ⟨fun h _ heq => heq ▸ h, fun h => h code rfl⟩

/-! The sender is asked to confirm a run and answers with a wrong code.  The
message is delivered once more and the wrong code is counted again.  The right
code may be delivered any number of times. -/

/-- Up to the prompt. -/
def samplePrompted : List RelayEvent :=
  let first := sampleClaimOf "m1" 1 (.startRun 1) 1000
  [⟨sqlite, .changeDevices [sampleDevice], .done⟩,
    ⟨sqlite, .receive ⟨"m1", sampleSender, "start 1", 1000⟩ .never, .done⟩,
    ⟨sqlite, .claimNext 1 2000 false, .claimed (some first)⟩,
    ⟨sqlite, .queueConfirmation 2 first (samplePrompt "111111" 3000)
      (samplePending "a" "111111" 3000) 3000, .applied true⟩]

/-- A message with a code. -/
def sampleCode (code : String) (receivedAt : Timestamp) : EphemeralInboundText :=
  ⟨"m2", sampleSender, "confirm " ++ code, receivedAt⟩

/-- **A wrong code is counted twice.** -/
theorem wrong_code_is_counted_again : ∃ w : RelayWorld, Run (RelayStep digitVerifier) .start
        (samplePrompted ++ [⟨sqlite, .receive (sampleCode "222222" 4000) .never, .done⟩]) w ∧
      w.store.hasInbound (sampleCode "222222" 5000).messageKey = true ∧
      (w.store.received digitVerifier (sampleCode "222222" 5000) .never).controlConfirmations ≠
        w.store.controlConfirmations :=
  exists_run (by decide +kernel)

/-- The right code, delivered again, changes nothing. -/
theorem redelivery_is_idempotent_sample : ∃ w : RelayWorld, Run (RelayStep digitVerifier) .start
        (samplePrompted ++ [⟨sqlite, .receive (sampleCode "111111" 4000) .never, .done⟩]) w ∧
      (w.store.received digitVerifier (sampleCode "111111" 5000) .never).controlConfirmations =
        w.store.controlConfirmations := by
  obtain ⟨w, hrun, h⟩ : ∃ w : RelayWorld, Run (RelayStep digitVerifier) .start
      (samplePrompted ++ [⟨sqlite, .receive (sampleCode "111111" 4000) .never, .done⟩]) w ∧
      w.store.hasInbound "m2" = true ∧
        w.store.controlConfirmations = [(samplePending "a" "111111" 3000).row] :=
    exists_run (by decide +kernel)
  refine ⟨w, hrun, ((redelivery_is_idempotent_iff digitVerifier hrun (sampleCode "111111" 5000)
    .never h.1).mpr (.inr ?_)).2⟩
  intro code hcode r hr _
  rw [h.2, mem_singleton] at hr
  subst hr
  have heq : code = "111111" := by exact (Option.some.inj hcode).symm
  subst heq
  exact ⟨by decide, .inl (beq_self_eq_true _)⟩

end PromptDock
