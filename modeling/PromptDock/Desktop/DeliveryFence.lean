import PromptDock.Desktop.DesktopRuns

/-!
# Completions and the claims they were made under

A claim is known by its row, its time and its attempt number.  `finish_sending`
and `finish_accepted` ask only that the row is being sent, so a completion
belongs to its claim only as long as nobody else can have claimed the row in the
meantime.  That is so while the recovery of stale claims leaves alone the rows
whose attempts are still under way (`spares`): the row of an attempt under way
is then held under the attempt's own claim, or it has ended
(`AttemptsHold`).
-/

namespace PromptDock.Desktop

open RowTable LabelledRun List

/-- The row is being sent under exactly the claim that returned `raw`. -/
def HeldUnder (raw r : OutboxRow) : Prop :=
  r.status = .sending ∧ r.claimedAt = raw.claimedAt ∧ r.attemptCount = raw.attemptCount

/-- Every attempt under way still has its row, under its own claim or ended, and
no two attempts have the same row. -/
structure AttemptsHold (w : DesktopWorld) : Prop where
  check : w.store.check = true
  distinct : (w.attempts.map OutboxRow.id).Nodup
  claimed : ∀ raw ∈ w.attempts, raw.claimedAt.isSome = true
  held : ∀ raw ∈ w.attempts, ∃ r ∈ w.store.notificationOutbox,
    r.id = raw.id ∧ (HeldUnder raw r ∨ r.status.live = false)

/-- A recovery that takes back no row whose attempt is still under way. -/
def spares (w : DesktopWorld) : DesktopOp → Bool
  | .recoverStale now =>
    w.attempts.all fun raw =>
      w.store.notificationOutbox.all fun r => r.id != raw.id || !OutboxRepository.staleClaim now r
  | _ => true

/-- A step that is no such recovery. -/
def SparingStep (tools : Tools) (w : DesktopWorld) (op : DesktopOp) (w' : DesktopWorld) : Prop :=
  DesktopStep tools w op w' ∧ spares w op = true

section

variable {tools : Tools} {w w' : DesktopWorld} {op : DesktopOp} {raw r r' : OutboxRow}
  {now : Timestamp}

/-- An operation that touches no row of an attempt, or ends it, keeps the
attempts that stay under way. -/
theorem held_of_moves (h : AttemptsHold w) (hmoves : StepMoves op w.store w'.store)
    (hraw : raw ∈ w.attempts) (hmove : ∀ r ∈ w.store.notificationOutbox, r.id = raw.id →
      (HeldUnder raw r ∨ r.status.live = false) → ∀ r', op.move r r' →
      HeldUnder raw r' ∨ r'.status.live = false) : ∃ r ∈ w'.store.notificationOutbox,
      r.id = raw.id ∧ (HeldUnder raw r ∨ r.status.live = false) := by
  obtain ⟨r, hr, hid, hheld⟩ := h.held raw hraw
  obtain ⟨r', hr', hid', hm⟩ := hmoves.notices.kept r hr
  exact ⟨r', hr', hid'.trans hid, hmove r hr hid hheld r' hm⟩

section

variable (hheld : HeldUnder raw r ∨ r.status.live = false)

include hheld

/-- A quiet move leaves the claim, or ends the notice. -/
theorem quiet_keeps (h : QuietMove r r') : HeldUnder raw r' ∨ r'.status.live = false := by
  rcases h with rfl | ⟨_, _, hended⟩
  · exact hheld
  · exact .inr hended

/-- A row that is held or has ended may not be claimed. -/
theorem not_claimable_of_held : r.status.claimable = false := by
  rcases hheld with ⟨hsend, _⟩ | hended
  · rw [hsend]
    rfl
  cases hclaim : r.status.claimable with
  | false => rfl
  | true =>
    rw [OutboxRowStatus.live_of_claimable hclaim] at hended
    cases hended

/-- So does an idle move. -/
theorem idle_keeps (h : IdleMove r r') : HeldUnder raw r' ∨ r'.status.live = false := by
  rcases h with rfl | ⟨_, hclaim, _⟩
  · exact hheld
  · rw [not_claimable_of_held hheld] at hclaim
    cases hclaim

/-- So does a claim. -/
theorem claim_keeps (h : ClaimMove now r r') : HeldUnder raw r' ∨ r'.status.live = false := by
  rcases h with rfl | ⟨hready, _⟩
  · exact hheld
  have hclaim := claimable_of_ready hready
  rw [not_claimable_of_held hheld] at hclaim
  cases hclaim

end

/-- The attempts that the operation does not change. -/
theorem AttemptsHold.of_kept (h : AttemptsHold w) (hmoves : StepMoves op w.store w'.store)
    (hatt : w'.attempts = w.attempts)
    (hmove : ∀ raw ∈ w.attempts, ∀ r ∈ w.store.notificationOutbox, r.id = raw.id →
      (HeldUnder raw r ∨ r.status.live = false) → ∀ r', op.move r r' →
      HeldUnder raw r' ∨ r'.status.live = false) : AttemptsHold w' where
  check := hmoves.check
  distinct := by
    rw [hatt]
    exact h.distinct
  claimed := by
    rw [hatt]
    exact h.claimed
  held raw hraw := by
    rw [hatt] at hraw
    exact held_of_moves h hmoves hraw (hmove raw hraw)

/-- A claim takes a row that no attempt has. -/
theorem claim_attemptsHold {permitted : Bool} (h : AttemptsHold w)
    (hstep : DesktopStep tools w (.claim permitted now) w') : AttemptsHold w' := by
  have hmoves := step_moves hstep h.check
  have hkept : ∀ raw ∈ w.attempts, ∃ r ∈ w'.store.notificationOutbox,
      r.id = raw.id ∧ (HeldUnder raw r ∨ r.status.live = false) :=
    fun raw hraw => held_of_moves h hmoves hraw fun r _ _ hheld r' => claim_keeps hheld
  have hcases : w'.attempts = w.attempts ∨ ∃ raw, w'.attempts = w.attempts ++ [raw] := by
    obtain ⟨eng, hnext⟩ := hstep
    simp only [DesktopOp.next] at hnext
    split at hnext
    · cases hnext
      exact .inr ⟨_, rfl⟩
    · cases hnext
      exact .inl rfl
  rcases hcases with hsame | ⟨raw, hadded⟩
  · exact h.of_kept hmoves hsame fun raw _ r _ _ hheld r' => claim_keeps hheld
  obtain ⟨chosen, hchosen, hready, hraw, hmem⟩ := claim_takes hstep hadded
  have hid : raw.id = chosen.id := by rw [hraw]; rfl
  -- the row of an attempt is not ready, so the chosen row is no attempt's
  have hnew : raw.id ∉ w.attempts.map OutboxRow.id := by
    intro hin
    obtain ⟨other, hoth, hsame⟩ := mem_map.mp hin
    obtain ⟨r, hr, hrid, hheld⟩ := h.held other hoth
    have hrow : r = chosen :=
      (DesktopStore.valid_of_check h.check).noticeIds.eq_of_key hr hchosen
        (hrid.trans (hsame.trans hid))
    have hclaim := claimable_of_ready hready
    rw [← hrow, not_claimable_of_held hheld] at hclaim
    cases hclaim
  refine ⟨hmoves.check, ?_, ?_, ?_⟩
  · rw [hadded, map_append, map_singleton]
    exact List.Nodup.append h.distinct (nodup_singleton _) (disjoint_singleton.mpr hnew)
  · rw [hadded]
    exact forall_mem_snoc h.claimed (by rw [hraw]; rfl)
  · rw [hadded]
    refine forall_mem_snoc hkept ⟨raw, hmem, rfl, .inl ⟨?_, rfl, rfl⟩⟩
    rw [hraw]
    rfl

/-- The end of one attempt leaves the rows of the others. -/
theorem finish_attemptsHold {content : Except AppError NotificationPayloadV2}
    {claimedNow : Timestamp} {res : DeliveryResult} (h : AttemptsHold w)
    (hstep : DesktopStep tools w (.finish raw content claimedNow res now) w') :
    AttemptsHold w' := by
  have hmoves := step_moves hstep h.check
  obtain ⟨hraw, hatt⟩ : raw ∈ w.attempts ∧ w'.attempts = w.attempts.erase raw := by
    obtain ⟨eng, hnext⟩ := hstep
    obtain ⟨hmem, rfl⟩ := of_guard hnext
    exact ⟨hmem, rfl⟩
  refine ⟨hmoves.check, ?_, fun other hoth => ?_, fun other hoth => ?_⟩
  · rw [hatt]
    exact h.distinct.sublist ((erase_sublist).map _)
  · rw [hatt] at hoth
    exact h.claimed other (mem_of_mem_erase hoth)
  rw [hatt] at hoth
  have hmem : other ∈ w.attempts := mem_of_mem_erase hoth
  have hnodup : w.attempts.Nodup := List.Nodup.of_map _ h.distinct
  have hne : other ≠ raw := fun heq => by
    rw [heq] at hoth
    exact hnodup.not_mem_erase hoth
  have hid : other.id ≠ raw.id := fun heq => hne (inj_on_of_nodup_map h.distinct hmem hraw heq)
  refine held_of_moves h hmoves hmem fun r _ hrid hheld r' hmove => ?_
  rcases hmove with rfl | ⟨_, hrow, _⟩
  · exact hheld
  · exact absurd (hrid.symm.trans hrow) hid

/-- A sparing step keeps every attempt its claim. -/
theorem attemptsHold_step (hstep : SparingStep tools w op w') (h : AttemptsHold w) :
    AttemptsHold w' := by
  obtain ⟨hstep, hspares⟩ := hstep
  have hmoves := step_moves hstep h.check
  cases op with
  | claim => exact claim_attemptsHold h hstep
  | finish => exact finish_attemptsHold h hstep
  | stop =>
    obtain ⟨eng, hnext⟩ := hstep
    cases hnext
    exact ⟨h.check, nodup_nil, by simp, by simp⟩
  | recoverStale =>
    obtain ⟨eng, hnext⟩ := hstep
    cases hnext
    refine h.of_kept hmoves rfl fun raw hraw r hr hid hheld r' hmove => ?_
    rcases hmove with rfl | ⟨_, hstale, _⟩
    · exact hheld
    simp only [spares, all_eq_true, Bool.or_eq_true, bne_iff_ne, Bool.not_eq_true'] at hspares
    rcases hspares raw hraw r hr with hoth | hfresh
    · exact absurd hid hoth
    · rw [hfresh] at hstale
      cases hstale
  | expireDue | retryBlocked =>
    obtain ⟨eng, hnext⟩ := hstep
    cases hnext
    exact h.of_kept hmoves rfl fun raw _ r _ _ hheld r' => idle_keeps hheld
  | process | passOver | finalize | project | enqueueControl =>
    obtain ⟨eng, hnext⟩ := hstep
    cases hnext
    exact h.of_kept hmoves rfl fun raw _ r _ _ hheld r' => quiet_keeps hheld

end

/-- The row is held under a claim: this row, this time, this attempt. -/
def HeldByClaim (claim : OutboxClaim) (r : OutboxRow) : Prop :=
  r.id = claim.id ∧ r.status = .sending ∧ r.claimedAt = some claim.claimedAt ∧
    r.attemptCount = claim.attemptCount

/-- **A completion changes only the row of its claim.**  In every run in which no
recovery takes back a row whose attempt is still under way, the completion of an
attempt leaves every row as it is, except the one that is still held under
exactly the attempt's claim. -/
theorem completion_touches_only_its_claim (tools : Tools) {s : DesktopStore}
    (hs : s.check = true) {labels : List DesktopOp} {w w' : DesktopWorld}
    (hrun : Run (SparingStep tools) ⟨s, []⟩ labels w) {raw : OutboxRow}
    {content : Except AppError NotificationPayloadV2} {claimedNow now : Timestamp}
    {result : DeliveryResult} {claim : OutboxClaim}
    (hclaim : OutboxRepository.intoClaim tools.hashes (fun _ => content) claimedNow raw = .ok claim)
    (hfinish : DesktopStep tools w (.finish raw content claimedNow result now) w') :
    ∀ r ∈ w.store.notificationOutbox, r ∉ w'.store.notificationOutbox → HeldByClaim claim r := by
  have hattempts : AttemptsHold w :=
    Run.invariant (I := AttemptsHold) (fun _ _ _ => attemptsHold_step) hrun
      ⟨hs, nodup_nil, by simp, by simp⟩
  have hraw : raw ∈ w.attempts := by
    obtain ⟨engine, hnext⟩ := hfinish
    by_contra hno
    simp [DesktopOp.next, hno] at hnext
  intro r hr hchanged
  obtain ⟨r', hr', _, hmove⟩ := (step_moves hfinish hattempts.check).notices.kept r hr
  rcases hmove with rfl | ⟨_, hid, hsending, _⟩
  · exact absurd hr' hchanged
  -- the row is being sent, so it is held, and by this attempt
  obtain ⟨held, hheld, hheldId, hholds⟩ := hattempts.held raw hraw
  have hsame : held = r :=
    (DesktopStore.valid_of_check hattempts.check).noticeIds.eq_of_key hheld hr
      (hheldId.trans hid.symm)
  rw [hsame] at hholds
  rcases hholds with ⟨_, hclaimedAt, hattempt⟩ | hended
  · obtain ⟨hclaimId, hclaimAttempt, hclaimTime, _⟩ := intoClaim_eq_ok hclaim
    refine ⟨hid.trans hclaimId.symm, hsending, ?_, hattempt.trans hclaimAttempt.symm⟩
    obtain ⟨time, htime⟩ := Option.isSome_iff_exists.mp (hattempts.claimed raw hraw)
    rw [hclaimedAt, hclaimTime, htime]
    rfl
  · rw [hsending] at hended
    cases hended

/-! ## A claim that is overtaken -/

/-- The agent asks for something at zero. -/
def sampleRequest : DesktopOp :=
  ingestAt "e" 0 (.attentionRequired ⟨.permission, text "s", none⟩)

/-- The notice of the request. -/
def sampleNotice : OutboxRow :=
  NotificationInsert.row sampleTools.hashes
    { agentRunKey := none
      kind := .attentionRequired
      dedupeKey :=
        text "attention_required:" ++ sampleSource.sourceKey sampleTools.hashes ++ text ":e"
      payload :=
        { NotificationPayloadV2.forRun (text "codex") none none none (some 0) none with
          title := text "codex 正在等待你的操作" }
      contentPolicyHash :=
        some (attentionNotificationPolicyFingerprint sampleTools.hashes samplePolicy.notifications)
      createdAt := 0
      notBefore := 0
      expiresAt := some 1800000 }
    []

/-- The notice under its first claim, and under the claim that followed the
recovery of the first. -/
def sampleFirst : OutboxRow := OutboxRepository.claimedAtNow 1000 sampleNotice

def sampleSecond : OutboxRow :=
  OutboxRepository.claimedAtNow 302000 (OutboxRepository.recoveredRow 301000 sampleFirst)

def sampleOvertaking : List DesktopOp :=
  [sampleRequest, .claim true 1000, .recoverStale 301000, .claim true 302000]

/-- The first attempt fails for good. -/
def sampleFailure : DesktopOp :=
  .finish sampleFirst (.ok samplePayload) 1000 (.permanentFailure ⟨"E", "e"⟩) 303000

/-- The claim of the first attempt. -/
def sampleFirstClaim : OutboxClaim where
  id := sampleNotice.id
  agentRunKey := none
  eventKind := .attentionRequired
  dedupeKey := sampleNotice.dedupeKey
  priority := 120
  createdAt := 0
  clientId := sampleNotice.clientId
  payload := samplePayload
  contentPolicyHash := sampleNotice.contentPolicyHash
  attemptCount := 1
  claimedAt := 1000
  expiresAt := 1800000
  lastErrorCode := none

theorem sampleFirstClaim_eq :
    OutboxRepository.intoClaim sampleTools.hashes (fun _ => .ok samplePayload) 1000 sampleFirst =
      .ok sampleFirstClaim := by
  decide +kernel

/-- Both attempts are under way, and the end of the first takes the row from the
second. -/
theorem sampleOvertaking_ends : ((sampleRun .initial sampleOvertaking).any fun w =>
      w.store.notificationOutbox.contains sampleSecond &&
        (sampleFailure.next desktopSqlite sampleTools w).any fun w' =>
          !w'.store.notificationOutbox.contains sampleSecond) = true := by
  decide +kernel

/-- **The first attempt's failure ends the second attempt's row.** -/
theorem overtaken_completion_ends_newer_claim :
    ∃ w w', Run (DesktopStep sampleTools) .initial sampleOvertaking w ∧
      DesktopStep sampleTools w sampleFailure w' ∧
      sampleSecond ∈ w.store.notificationOutbox ∧ sampleSecond ∉ w'.store.notificationOutbox ∧
      ¬ HeldByClaim sampleFirstClaim sampleSecond := by
  obtain ⟨w, hrun, hends⟩ := (Option.any_eq_true ..).mp sampleOvertaking_ends
  obtain ⟨hmem, hfinish⟩ := Bool.and_eq_true_iff.mp hends
  obtain ⟨w', hnext, hgone⟩ := (Option.any_eq_true ..).mp hfinish
  refine ⟨w, w', run_of_sampleRun hrun, ⟨desktopSqlite, hnext⟩, ?_, ?_, fun hheld => ?_⟩
  · exact contains_iff_mem.mp hmem
  · simpa using hgone
  · exact absurd hheld.2.2.2 (by decide)

/-- Without the recovery the same completion finds its own claim. -/
theorem sampleClaiming_ends : ((sampleRun .initial (sampleOvertaking.take 2)).any fun w =>
      (sampleFailure.next desktopSqlite sampleTools w).isSome) = true := by
  decide +kernel

/-- A failed attempt, and the row it held. -/
theorem completion_touches_only_its_claim_sample :
    ∃ w w', DesktopStep sampleTools w sampleFailure w' ∧
      ∀ r ∈ w.store.notificationOutbox,
        r ∉ w'.store.notificationOutbox → HeldByClaim sampleFirstClaim r := by
  obtain ⟨w, hsample, hfinish⟩ := (Option.any_eq_true ..).mp sampleClaiming_ends
  obtain ⟨w', hnext⟩ := Option.isSome_iff_exists.mp hfinish
  have hspares : ∀ op ∈ sampleOvertaking.take 2, ∀ w, spares w op = true := by
    intro op hop w
    simp only [sampleOvertaking, List.take, mem_cons, not_mem_nil, or_false] at hop
    rcases hop with rfl | rfl <;> rfl
  have hrun : Run (SparingStep sampleTools) ⟨DesktopStore.initial, []⟩
    (sampleOvertaking.take 2) w :=
    ((run_of_sampleRun hsample).restrict hspares).mono fun w _ _ hstep => ⟨hstep.1, hstep.2 w⟩
  exact ⟨w, w', ⟨desktopSqlite, hnext⟩, completion_touches_only_its_claim sampleTools (by decide)
    hrun sampleFirstClaim_eq ⟨desktopSqlite, hnext⟩⟩

end PromptDock.Desktop
