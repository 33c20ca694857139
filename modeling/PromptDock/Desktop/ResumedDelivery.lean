import PromptDock.Desktop.DesktopRelay

/-!
# Which blocks a probe lifts

A delivery blocks its notice in the database; what the desktop knows of the relay
is in memory.  A probe lifts the blocks of missing credentials and of a missing
target only when it sees the fact change, from refused to granted
(`credentialsReady`, `targetReady`).  A block that was recorded while the facts
said that all was well is therefore never lifted by a probe: not when the profile
could not be read for a moment, nor when the relay had no target for one result.

`resuming_probe_frees_iff` says exactly when a probe that reports a relay in order
frees every notice that waits for it.
-/

namespace PromptDock.Desktop

open RowTable StoreAction.Action TableStatement LabelledRun OutboxRepository RelayRuntime List

/-! ## Lifting one reason -/

/-- What lifting a block does to a notice. -/
def lifted (now : Timestamp) (code : String) (r : OutboxRow) : OutboxRow :=
  if blockedBy code r then
    if r.expiresAt ≤ now then
      { r with
        status := .expired, nextAttemptAt := none, lastErrorCode := some "NOTIFICATION_EXPIRED",
        lastErrorMessage := some "Notification delivery window expired", updatedAt := now }
    else
      { r with
        status := .retryWait, claimedAt := none, nextAttemptAt := some now, lastErrorCode := none,
        lastErrorMessage := none, updatedAt := now }
  else r

/-- A block that is lifted only under a condition. -/
def liftedIf (now : Timestamp) (enabled : Bool) (code : String) (r : OutboxRow) : OutboxRow :=
  if enabled then lifted now code r else r

variable {code : String} {r : OutboxRow}

/-- Which rows a prerequisite blocks. -/
theorem blockedBy_iff :
    blockedBy code r = true ↔ r.status = .blockedReconnect ∧ r.lastErrorCode = some code := by
  simp [blockedBy]

/-- A notice that is blocked for one reason is not blocked for another. -/
theorem not_blockedBy_of_ne {other : String} (h : blockedBy code r = true) (hne : code ≠ other) :
    blockedBy other r = false := by
  have hcode := (blockedBy_iff.mp h).2
  rw [blockedBy, hcode]
  simp [hne]

variable {now : Timestamp} {code : String} {r : OutboxRow}

section

variable {enabled : Bool}

/-- Other rows stay as they are. -/
theorem liftedIf_of_not_blockedBy (h : blockedBy code r = false) :
    liftedIf now enabled code r = r := by
  simp [liftedIf, lifted, h]

/-- A notice that is still blocked afterwards was not touched. -/
theorem eq_of_liftedIf_blocked (h : (liftedIf now enabled code r).status = .blockedReconnect) :
    liftedIf now enabled code r = r := by
  unfold liftedIf at h ⊢
  split
  · rename_i hen
    rw [if_pos hen] at h
    unfold lifted at h ⊢
    split
    · rename_i hblock
      rw [if_pos hblock] at h
      split at h <;> cases h
    · rfl
  · rfl

theorem liftedIf_id : (liftedIf now enabled code r).id = r.id := by
  unfold liftedIf lifted
  split
  · split
    · split <;> rfl
    · rfl
  · rfl

end

/-! ## Lifting in the database -/

variable {credentials target : Bool}

section

variable {engine : DesktopEngine} {s s' : DesktopStore} {n : Nat}

/-- The two statements for one reason, as one change of each notice. -/
theorem retryBlockedBy_rows (h : retryBlockedBy engine now code s = (.ok n, s')) :
    s'.notificationOutbox = s.notificationOutbox.map (lifted now code) := by
  obtain ⟨m, s1, hexp, hretry⟩ := bind_eq_ok.mp h
  obtain ⟨_, _, rfl⟩ := update_eq_ok.mp hexp
  obtain ⟨_, _, rfl⟩ := update_eq_ok.mp hretry
  simp only [DesktopStore.outboxTable, updateWhere, map_map]
  refine map_congr_left fun r _ => ?_
  by_cases hblock : blockedBy code r = true
  · by_cases hexpired : r.expiresAt ≤ now
    · have hlate : ¬ now < r.expiresAt := Int.not_lt.mpr hexpired
      simp [lifted, hblock, hexpired]
    · have hlive : now < r.expiresAt := Int.not_le.mp hexpired
      simp [lifted, hexpired, hlive]
  · simp [lifted, hblock]

/-- The two statements as one map over the rows. -/
theorem retryBlockedIf_rows {enabled : Bool}
    (h : retryBlockedIf engine now enabled code s = (.ok n, s')) :
    s'.notificationOutbox = s.notificationOutbox.map (liftedIf now enabled code) := by
  cases enabled with
  | true => exact retryBlockedBy_rows h
  | false =>
    cases h
    exact (map_id' s.notificationOutbox).symm

/-- What `retry_blocked_for_relay` does to one notice. -/
def freed (now : Timestamp) (credentials pages target : Bool) (r : OutboxRow) : OutboxRow :=
  liftedIf now target "RELAY_TARGET_UNAVAILABLE"
    (liftedIf now pages "RELAY_RESULT_PAGES_UNAVAILABLE"
      (liftedIf now credentials "RELAY_CREDENTIALS_REQUIRED" r))

/-- And the three prerequisites together. -/
theorem retryBlockedForRelay_rows {pages : Bool}
    (h : retryBlockedForRelay engine now credentials pages target s = (.ok n, s')) :
    s'.notificationOutbox = s.notificationOutbox.map (freed now credentials pages target) := by
  unfold retryBlockedForRelay at h
  rcases hbody : (_ : Desk Nat) s with ⟨error | m, s1⟩
  · rw [allOrNothing_of_error hbody] at h
    cases h
  rw [allOrNothing_of_ok hbody] at h
  cases h
  obtain ⟨a, s2, hcred, h⟩ := bind_eq_ok.mp hbody
  obtain ⟨b, s3, hpages, h⟩ := bind_eq_ok.mp h
  obtain ⟨c, s4, htarget, h⟩ := bind_eq_ok.mp h
  cases h
  rw [retryBlockedIf_rows htarget, retryBlockedIf_rows hpages, retryBlockedIf_rows hcred,
    map_map, map_map]
  rfl

end

/-! ## Notices that wait for the relay -/

/-- The reasons of a block that the relay, or a change of it, can remove. -/
def recoverableReasons : List String :=
  ["RELAY_CREDENTIALS_REQUIRED", "RELAY_RESULT_PAGES_UNAVAILABLE", "RELAY_TARGET_UNAVAILABLE"]

/-- An unexpired notice that is blocked for such a reason. -/
def waitsForRelay (now : Timestamp) (r : OutboxRow) : Bool :=
  now < r.expiresAt && recoverableReasons.any fun code => blockedBy code r

/-- What waits is blocked by one of three, and not expired. -/
theorem waitsForRelay_iff : waitsForRelay now r = true ↔ now < r.expiresAt ∧
      (blockedBy "RELAY_CREDENTIALS_REQUIRED" r = true ∨
        blockedBy "RELAY_RESULT_PAGES_UNAVAILABLE" r = true ∨
        blockedBy "RELAY_TARGET_UNAVAILABLE" r = true) := by
  simp [waitsForRelay, recoverableReasons]

/-- Every notice that waited can be claimed again, and none waits. -/
structure FreesWaiting (now : Timestamp) (s s' : DesktopStore) : Prop where
  none_waits : ∀ r ∈ s'.notificationOutbox, waitsForRelay now r = false
  claimable : ∀ r ∈ s.notificationOutbox, waitsForRelay now r = true →
    ∃ r' ∈ s'.notificationOutbox, r'.id = r.id ∧ r'.status = .retryWait ∧
      (r.notBefore ≤ now → ready now r' = true)

/-- The facts in memory account for the blocks in the database: where a notice is
blocked for its credentials they say that the device is not authenticated, and
where one is blocked for its target they do not say that it may submit. -/
@[mk_iff]
structure BlocksKnown (now : Timestamp) (status : RelayStatus) (s : DesktopStore) : Prop where
  credentials : ∀ r ∈ s.notificationOutbox, now < r.expiresAt →
    blockedBy "RELAY_CREDENTIALS_REQUIRED" r = true → status.authenticated = false
  target : ∀ r ∈ s.notificationOutbox, now < r.expiresAt →
    blockedBy "RELAY_TARGET_UNAVAILABLE" r = true → status.canSubmit ≠ some true

instance (now : Timestamp) (status : RelayStatus) (s : DesktopStore) :
    Decidable (BlocksKnown now status s) :=
  decidable_of_iff' _ (blocksKnown_iff now status s)

section

variable {credentials pages target : Bool}

/-- A notice that is still blocked was not touched at all. -/
theorem eq_of_freed_blocked
    (h : (freed now credentials pages target r).status = .blockedReconnect) :
    freed now credentials pages target r = r := by
  unfold freed at h ⊢
  have hthird := eq_of_liftedIf_blocked h
  rw [hthird] at h ⊢
  have hsnd := eq_of_liftedIf_blocked h
  rw [hsnd] at h ⊢
  exact eq_of_liftedIf_blocked h

/-- A notice that waits for a reason which is lifted can be claimed again. -/
theorem freed_claimable (hwait : waitsForRelay now r = true)
    (hcred : blockedBy "RELAY_CREDENTIALS_REQUIRED" r = true → credentials = true)
    (hpages : blockedBy "RELAY_RESULT_PAGES_UNAVAILABLE" r = true → pages = true)
    (htarget : blockedBy "RELAY_TARGET_UNAVAILABLE" r = true → target = true) :
    (freed now credentials pages target r).status = .retryWait ∧
      (r.notBefore ≤ now → ready now (freed now credentials pages target r) = true) := by
  obtain ⟨hlive, hreason⟩ := waitsForRelay_iff.mp hwait
  -- the row that one reason resumes is blocked for no other
  have hresumed : ∀ code, blockedBy code r = true → (liftedIf now true code r).status = .retryWait ∧
        (r.notBefore ≤ now → ready now (liftedIf now true code r) = true) := by
    intro code hcode
    have hnot : ¬ r.expiresAt ≤ now := Int.not_le.mpr hlive
    simp only [liftedIf, lifted, hcode, hnot, if_true, if_false, true_and]
    intro hpre
    simp [ready, hpre, hlive]
  have hfree : ∀ code other, blockedBy code r = true → ∀ enabled,
      liftedIf now enabled other (liftedIf now true code r) = liftedIf now true code r := by
    intro code other hcode enabled
    apply liftedIf_of_not_blockedBy
    rw [blockedBy, (hresumed code hcode).1]
    rfl
  unfold freed
  rcases hreason with h | h | h
  · rw [hcred h, hfree _ _ h, hfree _ _ h]
    exact hresumed _ h
  · rw [hpages h, liftedIf_of_not_blockedBy (not_blockedBy_of_ne h (by decide)), hfree _ _ h]
    exact hresumed _ h
  have hfst : liftedIf now credentials "RELAY_CREDENTIALS_REQUIRED" r = r :=
    liftedIf_of_not_blockedBy (not_blockedBy_of_ne h (by decide))
  have hsnd : liftedIf now pages "RELAY_RESULT_PAGES_UNAVAILABLE" r = r :=
    liftedIf_of_not_blockedBy (not_blockedBy_of_ne h (by decide))
  rw [htarget h, hfst, hsnd]
  exact hresumed _ h

theorem freed_id : (freed now credentials pages target r).id = r.id := by
  rw [freed, liftedIf_id, liftedIf_id, liftedIf_id]

/-- A notice that waits for a reason which is not lifted stays as it is. -/
theorem freed_eq_self (hblock : blockedBy code r = true)
    (hcred : "RELAY_CREDENTIALS_REQUIRED" = code → credentials = false)
    (hpages : "RELAY_RESULT_PAGES_UNAVAILABLE" = code → pages = false)
    (htarget : "RELAY_TARGET_UNAVAILABLE" = code → target = false) :
    freed now credentials pages target r = r := by
  have hkept : ∀ enabled other, (other = code → enabled = false) →
      liftedIf now enabled other r = r := by
    intro enabled other hen
    by_cases hoth : other = code
    · rw [hen hoth]
      rfl
    · exact liftedIf_of_not_blockedBy (not_blockedBy_of_ne hblock fun h => hoth h.symm)
  rw [freed, hkept credentials _ hcred, hkept pages _ hpages, hkept target _ htarget]

end

/-- Lifting the reasons that apply frees every notice exactly if each reason for
which one waits is among them. -/
theorem freesWaiting_iff {s s' : DesktopStore}
    (h : s'.notificationOutbox = s.notificationOutbox.map (freed now credentials true target)) :
    FreesWaiting now s s' ↔
      (∀ r ∈ s.notificationOutbox, now < r.expiresAt →
        blockedBy "RELAY_CREDENTIALS_REQUIRED" r = true → credentials = true) ∧
      ∀ r ∈ s.notificationOutbox, now < r.expiresAt →
        blockedBy "RELAY_TARGET_UNAVAILABLE" r = true → target = true := by
  constructor
  · intro hfrees
    have hstays : ∀ r ∈ s.notificationOutbox, waitsForRelay now r = true →
        freed now credentials true target r ≠ r := by
      intro r hr hwait hsame
      have hmem : r ∈ s'.notificationOutbox := by
        rw [h]
        exact mem_map.mpr ⟨r, hr, hsame⟩
      rw [hfrees.none_waits r hmem] at hwait
      cases hwait
    constructor
    · intro r hr hlive hblock
      cases hready : credentials with
      | true => rfl
      | false =>
        refine absurd ?_ (hstays r hr (waitsForRelay_iff.mpr ⟨hlive, .inl hblock⟩))
        exact freed_eq_self hblock (fun _ => hready) (fun hcode => absurd hcode (by decide))
          fun hcode => absurd hcode (by decide)
    · intro r hr hlive hblock
      cases hready : target with
      | true => rfl
      | false =>
        refine absurd ?_ (hstays r hr (waitsForRelay_iff.mpr ⟨hlive, .inr (.inr hblock)⟩))
        exact freed_eq_self hblock (fun hcode => absurd hcode (by decide))
          (fun hcode => absurd hcode (by decide)) fun _ => hready
  · rintro ⟨hcred, htarget⟩
    have hclaim : ∀ r ∈ s.notificationOutbox, waitsForRelay now r = true →
        (freed now credentials true target r).status = .retryWait ∧
          (r.notBefore ≤ now → ready now (freed now credentials true target r) = true) := by
      intro r hr hwait
      have hlive := (waitsForRelay_iff.mp hwait).1
      exact freed_claimable hwait (hcred r hr hlive) (fun _ => rfl) (htarget r hr hlive)
    refine ⟨fun r' hr' => ?_, fun r hr hwait => ?_⟩
    · rw [h] at hr'
      obtain ⟨r, hr, rfl⟩ := mem_map.mp hr'
      cases hwait : waitsForRelay now (freed now credentials true target r) with
      | false => rfl
      | true =>
        have hblock : (freed now credentials true target r).status = .blockedReconnect := by
          rcases (waitsForRelay_iff.mp hwait).2 with hcode | hcode | hcode
          all_goals exact (blockedBy_iff.mp hcode).1
        have hsame := eq_of_freed_blocked hblock
        rw [hsame] at hwait
        rw [(hclaim r hr hwait).1] at hblock
        cases hblock
    · refine ⟨freed now credentials true target r, ?_, freed_id, hclaim r hr hwait⟩
      rw [h]
      exact mem_map_of_mem hr

/-! ## The probe -/

/-- The probe ran to its end and reports a relay with everything that deliveries
need: the device is authenticated with scopes, may submit, and results may be
published. -/
structure ReportsReady (w : RelayWorld) (run : ProbeRun) (probe : RelayProbeResult) : Prop where
  alone : run.busy = false
  client : run.client = true
  current : w.credentialRevision = run.revision
  readable : run.fault = none
  configured : w.profile.isSome = true
  answer : run.result = .ok probe
  notifications : probe.supportsNotifications = true
  scopes : probe.supportsDeviceScopes = true
  submits : probe.deviceStatus.map (·.canSubmit) = some true
  pages : probe.serverInfo.features.contains (text "result_pages_v1") = true

variable {w : RelayWorld} {run : ProbeRun} {probe : RelayProbeResult}

/-- What a probe that reports a relay in order does to the store. -/
theorem probeConnection_resumes {engine : DesktopEngine} {w' : RelayWorld} {status : RelayStatus}
    (hready : ReportsReady w run probe) (h : probeConnection engine true run w = (.ok status, w')) :
    ∃ n, resumeBlockedDelivery engine w.status
      (probedStatus probe run.checkedAt w.status) false run.now w.store = (.ok n, w'.store) := by
  obtain ⟨profile, hprofile⟩ := Option.isSome_iff_exists.mp hready.configured
  have hscoped : (probedStatus probe run.checkedAt w.status).scopedAuthCapable
      = true := hready.scopes
  simp only [probeConnection, read_bind_run, hready.alone, hready.client,
    hready.current, hready.readable, hprofile, hready.answer, commitProbe, hscoped,
    Bool.false_eq_true, if_false, Bool.not_true, ne_eq, not_true_eq_false] at h
  obtain ⟨_, w1, hamend, h⟩ := bind_eq_ok.mp h
  cases hamend
  obtain ⟨_, w2, hresume, h⟩ := bind_eq_ok.mp h
  cases h
  obtain ⟨n, w3, hstore, hend⟩ := bind_eq_ok.mp hresume
  cases hend
  refine ⟨n, ?_⟩
  have hans := congrArg Prod.fst hstore
  have hworld := congrArg Prod.snd hstore
  simp only [onStore] at hans hworld
  rw [← hworld]
  exact Prod.ext hans rfl

/-- A probe that reports pages finds them ready. -/
theorem resultPagesReady_probed (hready : ReportsReady w run probe) :
    resultPagesReady (probedStatus probe run.checkedAt w.status) = true := by
  have hsubmits := hready.submits
  simp only [resultPagesReady, probedStatus, RelayStatus.fromProbe,
    hready.notifications, hready.scopes, hready.pages, hsubmits]
  rfl

/-- **A resuming probe that finds the relay in order frees every notice that
waits for it exactly if the facts in memory accounted for the blocks.** -/
theorem resuming_probe_frees_iff {engine : DesktopEngine} {w w' : RelayWorld} {run : ProbeRun}
    {probe : RelayProbeResult} {status : RelayStatus} (hready : ReportsReady w run probe)
    (h : probeConnection engine true run w = (.ok status, w')) :
    FreesWaiting run.now w.store w'.store ↔ BlocksKnown run.now w.status w.store := by
  obtain ⟨n, hresume⟩ := probeConnection_resumes hready h
  have hpages := resultPagesReady_probed hready
  have hcredentials : credentialsReady w.status
      (probedStatus probe run.checkedAt w.status) false = !w.status.authenticated := by
    simp [credentialsReady, probedStatus, RelayStatus.fromProbe, hready.scopes]
  have htarget : targetReady w.status
      (probedStatus probe run.checkedAt w.status) = (w.status.canSubmit != some true) := by
    have hsubmits := hready.submits
    simp [targetReady, probedStatus, RelayStatus.fromProbe, hsubmits]
  simp only [resumeBlockedDelivery, hpages, hcredentials, htarget, Bool.or_true] at hresume
  rw [freesWaiting_iff (retryBlockedForRelay_rows hresume)]
  constructor
  · rintro ⟨hfirst, hsecond⟩
    refine ⟨fun r hr hlive hblocked => ?_, fun r hr hlive hblocked => ?_⟩
    · simpa using hfirst r hr hlive hblocked
    · simpa using hsecond r hr hlive hblocked
  · intro hknown
    refine ⟨fun r hr hlive hblocked => ?_, fun r hr hlive hblocked => ?_⟩
    · simpa using hknown.credentials r hr hlive hblocked
    · simpa using hknown.target r hr hlive hblocked

/-- A probe that finds the sample relay in order. -/
def sampleProbeRun (revision : Nat) (now : Timestamp) : ProbeRun where
  busy := false
  client := true
  revision := revision
  fault := none
  result := .ok sampleProbe
  checkedAt := now
  now := now

/-- A test notice is sent, up to the end of its first attempt. -/
def sampleAttempt (outcome : List RelayOp) (result : DeliveryResult) : List RelayOp :=
  [sampleConfigure, .desk (.enqueueControl .test (text "k") samplePayload 0),
    .desk (.claim true 1)] ++ outcome ++
    [.complete ⟨claimedTest 1, samplePayload, 1, result⟩ 2]

/-- The profile cannot be read for a moment. -/
def blockedUnseen : List RelayOp :=
  sampleAttempt [.send (claimedTest 1) true 1 (some .io)] RelaySender.relayCredentialsBlock

/-- The relay rejects the device. -/
def blockedSeen : List RelayOp :=
  sampleAttempt
    [.send (claimedTest 1) true 1 none,
      .answer ⟨claimedTest 1, samplePayload, 1, sampleProfile, false⟩
        (.failed (.authenticationRejected 401)) true 2]
    RelaySender.relayCredentialsBlock

/-- A notice waits in a world where the sample probe runs; the probe leaves it
waiting if the facts in memory do not account for its block. -/
def probeLeavesWaiting (leaves : Bool) (w : RelayWorld) : Bool :=
  w.credentialRevision == 1 && w.profile.isSome &&
    w.store.notificationOutbox.any (waitsForRelay 3) &&
    decide (BlocksKnown 3 w.status w.store) == !leaves &&
    match probeConnection desktopSqlite true (sampleProbeRun 1 3) w with
    | (.ok _, w') => w'.store.notificationOutbox.any (waitsForRelay 3) == leaves
    | (.error _, _) => false

/-- One probe leaves the row waiting, the other does not. -/
theorem sampleProbe_runs : ((relayRun .initial blockedUnseen).any (probeLeavesWaiting true) &&
      (relayRun .initial blockedSeen).any (probeLeavesWaiting false)) = true := by
  decide +kernel

/-- A world in which the sample probe runs. -/
theorem exists_of_probeLeavesWaiting {leaves : Bool} {ops : List RelayOp}
    (h : (relayRun .initial ops).any (probeLeavesWaiting leaves) = true) :
    ∃ w w' status, Run (RelayStep relayTools sampleCodec) .initial ops w ∧
      ReportsReady w (sampleProbeRun 1 3) sampleProbe ∧
      probeConnection desktopSqlite true (sampleProbeRun 1 3) w = (.ok status, w') ∧
      (∃ r ∈ w.store.notificationOutbox, waitsForRelay 3 r = true) ∧
      decide (BlocksKnown 3 w.status w.store) = !leaves ∧
      w'.store.notificationOutbox.any (waitsForRelay 3) = leaves := by
  obtain ⟨w, hrun, h⟩ := (Option.any_eq_true ..).mp h
  simp only [probeLeavesWaiting, Bool.and_eq_true, beq_iff_eq] at h
  obtain ⟨⟨⟨⟨hrev, hprofile⟩, hwaits⟩, hknown⟩, h⟩ := h
  have hready : ReportsReady w (sampleProbeRun 1 3) sampleProbe :=
    { alone := rfl, client := rfl, current := hrev, readable := rfl, configured := hprofile,
      answer := rfl, notifications := rfl, scopes := rfl, submits := rfl, pages := by decide }
  rcases hprobe : probeConnection desktopSqlite true (sampleProbeRun 1 3) w with
    ⟨error | status, w'⟩
  · rw [hprobe] at h
    cases h
  · rw [hprobe] at h
    exact ⟨w, w', status, run_of_relayRun hrun, hready, hprobe, any_eq_true.mp hwaits, hknown,
      by simpa using h⟩

/-- **A notice that was blocked because the profile could not be read for a moment
stays blocked when a probe finds the relay in order.** -/
theorem probe_leaves_unseen_block :
    ∃ w w' status, Run (RelayStep relayTools sampleCodec) .initial blockedUnseen w ∧
      ReportsReady w (sampleProbeRun 1 3) sampleProbe ∧
      probeConnection desktopSqlite true (sampleProbeRun 1 3) w = (.ok status, w') ∧
      ∃ r ∈ w'.store.notificationOutbox, waitsForRelay (sampleProbeRun 1 3).now r = true := by
  have hleaves := (Bool.and_eq_true_iff.mp sampleProbe_runs).1
  obtain ⟨w, w', status, hrun, hready, hprobe, _, _, hwaits⟩ :=
    exists_of_probeLeavesWaiting hleaves
  exact ⟨w, w', status, hrun, hready, hprobe, any_eq_true.mp hwaits⟩

/-- A notice that was blocked because the relay rejected the device is freed. -/
theorem resuming_probe_frees_rejected_device :
    ∃ w w' status, ReportsReady w (sampleProbeRun 1 3) sampleProbe ∧
      probeConnection desktopSqlite true (sampleProbeRun 1 3) w = (.ok status, w') ∧
      (∃ r ∈ w.store.notificationOutbox, waitsForRelay 3 r = true) ∧
      BlocksKnown 3 w.status w.store ∧ FreesWaiting 3 w.store w'.store := by
  have hleaves := (Bool.and_eq_true_iff.mp sampleProbe_runs).2
  obtain ⟨w, w', status, _, hready, hprobe, hwaits, hknown, _⟩ :=
    exists_of_probeLeavesWaiting hleaves
  have hknown := of_decide_eq_true hknown
  exact ⟨w, w', status, hready, hprobe, hwaits, hknown,
    (resuming_probe_frees_iff hready hprobe).mpr hknown⟩

end PromptDock.Desktop
