import PromptDock.KeysetPages
import PromptDock.Desktop.ProgramRules
import PromptDock.Desktop.SchemaKept

/-!
# Which notices the refresh asks about

A delivered notice whose remote status is not final keeps the destination and its
run (`holdsDestination`, `unfinished`), and the refresh of receipts asks for its
status again (`reconcilable`).  The two sides do not agree on what is final: the
refresh gives up on a notice of which the relay does not know whether it was
delivered, and the guard and the retention wait for it for ever.

What else would tear the two apart does not happen: a notice accepted by the relay
has an identifier there, and the final status of a publication is that of its
notice (`ReceiptsAgree`).
-/

namespace PromptDock.Desktop

open RowTable StoreAction TableStatement LabelledRun Action OutboxRepository
  DesktopDatabase ResultStore List

/-! ## Following the pages -/

variable {r : OutboxRow}

namespace OutboxRepository

/-- So many pages of candidates, each after the last candidate of the one
before. -/
def candidatePages (d : DesktopDatabase) (limit : Nat) :
    Nat → Option Text → List RelayReconciliationCandidate
  | 0, _ => []
  | rounds + 1, after =>
    match (relayReconciliationCandidatesAfter limit after d).1 with
    | .error _ => []
    | .ok page =>
      match page.getLast? with
      | none => []
      | some last => page ++ candidatePages d limit rounds (some last.outboxId)

/-- All candidates, from the first page to the last. -/
def reconciliationCandidates (d : DesktopDatabase) (limit : Nat) :
    List RelayReconciliationCandidate :=
  candidatePages d limit (d.store.notificationOutbox.length + 1) none

variable {d : DesktopDatabase} {limit : Nat}

/-- The candidate of a notice that has an identifier at the relay. -/
def candidateFor (r : OutboxRow) : RelayReconciliationCandidate :=
  ⟨r.id, r.relayNotificationId.getD []⟩

/-- What can be reconciled is known to the relay. -/
theorem relayNotificationId_of_reconcilable (h : d.reconcilable r = true) :
    r.relayNotificationId.isSome = true := by
  simp only [reconcilable, Bool.and_eq_true] at h
  exact h.1.2

/-- A page of candidates is a page of notices. -/
theorem candidatesAfter_eq (hlimit : 1 ≤ limit ∧ limit ≤ 50) (after : Option Text) :
    (relayReconciliationCandidatesAfter limit after d).1 =
      .ok ((pageAfter OutboxRow.id d.reconcilable limit d.store.notificationOutbox after).map
        candidateFor) := by
  have hbounds : (limit < 1 || 50 < limit) = false := by
    simp only [Bool.or_eq_false_iff, decide_eq_false_iff_not]
    omega
  have hmap : (reconciliationPage d limit after).filterMap
      (fun r => r.relayNotificationId.map (⟨r.id, ·⟩)) =
      (pageAfter OutboxRow.id d.reconcilable limit d.store.notificationOutbox after).map
        candidateFor := by
    refine filterMap_eq_map_iff_forall_eq_some.mpr fun r hr => ?_
    have hid := relayNotificationId_of_reconcilable (mem_pageAfter hr).2.1
    obtain ⟨id, hid⟩ := Option.isSome_iff_exists.mp hid
    rw [candidateFor, hid]
    rfl
  unfold relayReconciliationCandidatesAfter
  rw [hbounds]
  show Except.ok _ = Except.ok _
  rw [hmap]

/-- The pages of the refresh are a sweep over the notices. -/
theorem candidatePages_eq (hlimit : 1 ≤ limit ∧ limit ≤ 50) (rounds : Nat) (after : Option Text) :
    candidatePages d limit rounds after =
      (sweep OutboxRow.id d.reconcilable limit d.store.notificationOutbox rounds after).map
        candidateFor := by
  induction rounds generalizing after with
  | zero => rfl
  | succ rounds ih =>
    unfold candidatePages sweep
    rw [candidatesAfter_eq hlimit]
    simp only [List.getLast?_map]
    cases (pageAfter OutboxRow.id d.reconcilable limit d.store.notificationOutbox
        after).getLast? with
    | none => rfl
    | some last =>
      simp only [Option.map_some, map_append]
      rw [ih]
      rfl

/-- The pages return the notices that may be reconciled, and no others. -/
theorem mem_reconciliationCandidates (hids : KeysUnique OutboxRow.id d.store.notificationOutbox)
    (hlimit : 1 ≤ limit ∧ limit ≤ 50) (hr : r ∈ d.store.notificationOutbox) :
    (∃ id, ⟨r.id, id⟩ ∈ reconciliationCandidates d limit) ↔ d.reconcilable r = true := by
  have hrounds : d.store.notificationOutbox.countP
      (fun r => d.reconcilable r && (none : Option Text).all (· < r.id)) <
      d.store.notificationOutbox.length + 1 := by
    have hle := countP_le_length
      (p := fun r => d.reconcilable r && (none : Option Text).all (· < r.id))
      (l := d.store.notificationOutbox)
    omega
  have hmem : ∀ a, a ∈ sweep OutboxRow.id d.reconcilable limit d.store.notificationOutbox
      (d.store.notificationOutbox.length + 1) none ↔
      a ∈ d.store.notificationOutbox ∧ d.reconcilable a = true := by
    intro a
    rw [mem_sweep hids (by omega) hrounds]
    simp
  rw [reconciliationCandidates, candidatePages_eq hlimit]
  constructor
  · rintro ⟨id, hcand⟩
    obtain ⟨a, ha, heq⟩ := mem_map.mp hcand
    obtain ⟨haRow, haDue⟩ := (hmem a).mp ha
    have hid : a.id = r.id := congrArg RelayReconciliationCandidate.outboxId heq
    rw [← hids.eq_of_key haRow hr hid]
    exact haDue
  · intro hdue
    exact ⟨_, mem_map.mpr ⟨r, (hmem r).mpr ⟨hr, hdue⟩, rfl⟩⟩

end OutboxRepository

/-! ## What receipts and notices agree on -/

/-- A notice that the relay accepted has an identifier there. -/
def OutboxRow.Identified (r : OutboxRow) : Prop :=
  r.acceptedByRelay = true → r.relayNotificationId.isSome = true

structure ReceiptsAgree (notices : List OutboxRow) (publications : List PublicationRow) : Prop where
  ids : KeysUnique OutboxRow.id notices
  identified : ∀ r ∈ notices, r.Identified
  refers : ∀ p ∈ publications, ∃ r ∈ notices, r.id = p.outboxId
  whole : ∀ p ∈ publications, p.notificationStatus.isSome = true → p.acceptedAt.isSome = true
  agrees : ∀ p ∈ publications, ∀ r ∈ notices, r.id = p.outboxId →
    p.notificationStatus.any isTerminalNotification = true → r.remoteStatus = p.notificationStatus

variable {publications : List PublicationRow}

namespace ReceiptsAgree

variable {notices : List OutboxRow} {guard : OutboxRow → Bool} {change : OutboxRow → OutboxRow}

section

variable (h : ReceiptsAgree notices publications)

include h

section

variable (hid : ∀ r, (change r).id = r.id) (hidentified : ∀ r, r.Identified → (change r).Identified)

include hid hidentified

/-- Notices that keep their remote status where their publication is final. -/
theorem update_notices
    (hstat : ∀ r ∈ notices, guard r = true → ∀ p ∈ publications, r.id = p.outboxId →
      p.notificationStatus.any isTerminalNotification = true →
      (change r).remoteStatus = p.notificationStatus ∨ (change r).remoteStatus = r.remoteStatus) :
    ReceiptsAgree (updateWhere guard change notices) publications where
  ids := h.ids.updateWhere hid
  identified :=
    forall_mem_updateWhere (fun r hr _ => hidentified r (h.identified r hr)) h.identified
  refers p hp := by
    rw [← mem_map, map_updateWhere hid, mem_map]
    exact h.refers p hp
  whole := h.whole
  agrees := by
    intro p hp r' hr' hkey hterm
    obtain ⟨r, hr, ⟨hg, rfl⟩ | ⟨_, rfl⟩⟩ := mem_updateWhere.mp hr'
    · rw [hid] at hkey
      rcases hstat r hr hg p hp hkey hterm with hnew | hsame
      · exact hnew
      · rw [hsame]
        exact h.agrees p hp r hr hkey hterm
    · exact h.agrees p hp _ hr hkey hterm

/-- Notices that keep their remote status. -/
theorem update_local (hstat : ∀ r, (change r).remoteStatus = r.remoteStatus) :
    ReceiptsAgree (updateWhere guard change notices) publications :=
  h.update_notices hid hidentified fun r _ _ _ _ _ _ => .inr (hstat r)

end

/-- A new notice has no publication yet. -/
theorem insert_notice {row : OutboxRow}
    (hnew : ∀ r ∈ notices, r.id ≠ row.id) (hrow : row.Identified) :
    ReceiptsAgree (notices ++ [row]) publications where
  ids := h.ids.append hnew
  identified := forall_mem_snoc h.identified hrow
  refers := by
    intro p hp
    obtain ⟨r, hr, hkey⟩ := h.refers p hp
    exact ⟨r, mem_append_left _ hr, hkey⟩
  whole := h.whole
  agrees := by
    intro p hp
    refine forall_mem_snoc (h.agrees p hp) fun hkey _ => ?_
    obtain ⟨r0, hr0, hkey0⟩ := h.refers p hp
    exact absurd (hkey0.trans hkey.symm) (hnew r0 hr0)

/-- Publications that keep their status. -/
theorem update_publications
    {guard : PublicationRow → Bool} {change : PublicationRow → PublicationRow}
    (hid : ∀ p, (change p).outboxId = p.outboxId)
    (hstat : ∀ p, (change p).notificationStatus = p.notificationStatus)
    (hacc : ∀ p, (change p).acceptedAt = p.acceptedAt) :
    ReceiptsAgree notices (updateWhere guard change publications) where
  ids := h.ids
  identified := h.identified
  refers := by
    refine forall_mem_updateWhere (fun p hp _ => ?_) h.refers
    rw [hid]
    exact h.refers p hp
  whole := by
    refine forall_mem_updateWhere (fun p hp _ => ?_) h.whole
    rw [hstat, hacc]
    exact h.whole p hp
  agrees := by
    refine forall_mem_updateWhere (fun p hp _ r hr => ?_) h.agrees
    rw [hid, hstat]
    exact h.agrees p hp r hr

/-- The publications of the notices that leave go with them. -/
theorem drop_notices (p : OutboxRow → Bool) :
    ReceiptsAgree (deleteWhere p notices) (publications.filter fun row =>
        ((deleteWhere p notices).map OutboxRow.id).contains row.outboxId) where
  ids := h.ids.deleteWhere p
  identified r hr := h.identified r (mem_deleteWhere.mp hr).1
  refers row hrow := by
    have hkept := (mem_filter.mp hrow).2
    rw [contains_eq_mem, decide_eq_true_eq, mem_map] at hkept
    exact hkept
  whole row hrow := h.whole row (mem_filter.mp hrow).1
  agrees row hrow r hr := h.agrees row (mem_filter.mp hrow).1 r (mem_deleteWhere.mp hr).1

/-- A submission is registered for a notice that is there. -/
theorem insert_publication {row : PublicationRow}
    (hrefers : ∃ r ∈ notices, r.id = row.outboxId) (hnone : row.notificationStatus = none) :
    ReceiptsAgree notices (publications ++ [row]) where
  ids := h.ids
  identified := h.identified
  refers := forall_mem_snoc h.refers hrefers
  whole := by
    refine forall_mem_snoc h.whole fun hsome => ?_
    rw [hnone] at hsome
    cases hsome
  agrees := by
    refine forall_mem_snoc h.agrees fun r _ _ hterm => ?_
    rw [hnone] at hterm
    cases hterm

/-- A receipt is stored with its publication and with its notice. -/
theorem store_receipt (outboxId : Text) (receipt : RelayResultReceipt) : ReceiptsAgree
      (updateWhere (fun r => r.id == outboxId) (remoteFrom receipt) notices)
      (updateWhere (fun p => p.outboxId == outboxId) (withReceipt receipt) publications) where
  ids := h.ids.updateWhere fun _ => rfl
  identified := forall_mem_updateWhere (fun r hr _ => h.identified r hr) h.identified
  refers p hp := by
    have hrefers := forall_mem_updateWhere (f := withReceipt receipt)
      (p := fun p => p.outboxId == outboxId) (fun p hp _ => h.refers p hp) h.refers p hp
    have hids : ∀ r, (remoteFrom receipt r).id = r.id := fun _ => rfl
    rw [← mem_map, map_updateWhere hids, mem_map]
    exact hrefers
  whole := forall_mem_updateWhere (fun _ _ _ _ => rfl) h.whole
  agrees := by
    intro p' hp' r' hr' hkey hterm
    obtain ⟨p, hp, ⟨hp1, rfl⟩ | ⟨hp1, rfl⟩⟩ := mem_updateWhere.mp hp'
    · obtain ⟨r, hr, ⟨_, rfl⟩ | ⟨hr1, rfl⟩⟩ := mem_updateWhere.mp hr'
      · rfl
      -- the notice of the publication is the one the receipt is for
      have hsame : (r'.id == outboxId) = true := by
        rw [hkey]
        exact hp1
      rw [hsame] at hr1
      cases hr1
    · obtain ⟨r, hr, ⟨hr1, rfl⟩ | ⟨_, rfl⟩⟩ := mem_updateWhere.mp hr'
      · have hsame : (p'.outboxId == outboxId) = true := by
          rw [← hkey]
          exact hr1
        rw [hsame] at hp1
        cases hp1
      · exact h.agrees _ hp _ hr hkey hterm

end

end ReceiptsAgree

/-! ## The programs keep the agreement -/

section

/-- An acceptance by the relay names the notice there. -/
def TransportAcceptance.Identified (acceptance : TransportAcceptance) : Prop :=
  acceptance.stage = .relay → acceptance.transportMessageId.isSome = true

variable {r' : OutboxRow} {acceptance : TransportAcceptance}

/-- A notice that moves along stays identified. -/
theorem MovedAs.identified (h : MovedAs r r') (hr : r.Identified) : r'.Identified := by
  rw [h]
  exact hr

/-- An accepted notice is identified if its acceptance is. -/
theorem acceptedAs_identified (h : acceptance.Identified) (now : Timestamp) (r : OutboxRow) :
    (acceptedAs acceptance now r).Identified := by
  intro hacc
  have hstage : acceptance.stage = .relay := by
    simpa [OutboxRow.acceptedByRelay, acceptedAs] using hacc
  have hid := h hstage
  simp only [acceptedAs, hstage]
  exact hid

/-- The relation of two stores beside the same publications. -/
def KeepsAgreement (publications : List PublicationRow) (s s' : DesktopStore) : Prop :=
  ReceiptsAgree s.notificationOutbox publications →
    ReceiptsAgree s'.notificationOutbox publications

instance : Std.Refl (KeepsAgreement publications) := ⟨fun _ hs => hs⟩

instance : IsTrans DesktopStore (KeepsAgreement publications) :=
  ⟨fun _ _ _ h h' hs => h' (h hs)⟩

/-- A new notice has no publication yet. -/
theorem recordNotice_agreement (engine : DesktopEngine) (row : OutboxRow) (hrow : row.Identified) :
    Keeps (KeepsAgreement publications) (DesktopStore.recordNotice engine row) := by
  intro s hs
  simp only [DesktopStore.recordNotice, read_bind_run]
  split
  · exact hs
  rename_i hignores
  have hnew : ∀ r ∈ s.notificationOutbox, r.id ≠ row.id := by
    intro r hr heq
    apply hignores
    simp only [DesktopStore.ignoresNotice, Bool.or_eq_true, any_eq_true, beq_iff_eq]
    exact .inr ⟨r, hr, .inl (.inl heq)⟩
  by_cases hacc : engine.accepts (s.withNotice row) = true
  · rw [bind_run_of_ok (execute_run_of_accepts hacc)]
    exact hs.insert_notice hnew hrow
  · rw [bind_run, execute_eq_error.mpr ⟨by simpa using hacc, rfl, rfl⟩]
    exact hs

/-- A change that keeps id and remote status keeps the agreement. -/
theorem update_agreement {engine : DesktopEngine} {guard : OutboxRow → Bool}
    {change : OutboxRow → OutboxRow} (hid : ∀ r, (change r).id = r.id)
    (hidentified : ∀ r, r.Identified → (change r).Identified)
    (hstat : ∀ r, (change r).remoteStatus = r.remoteStatus) : Keeps (KeepsAgreement publications)
      (update engine DesktopStore.outboxTable (fun _ => guard) change : Desk Nat) :=
  update_keeps fun _ _ hs => hs.update_local hid hidentified hstat

theorem MovedAs.id_eq (h : MovedAs r r') : r'.id = r.id := by
  rw [h]

theorem MovedAs.remoteStatus_eq (h : MovedAs r r') : r'.remoteStatus = r.remoteStatus := by
  rw [h]

/-- Every statement of the desktop keeps the agreement. -/
theorem agreement_rules (engine : DesktopEngine) (tools : Tools) :
    DeskRules engine tools (KeepsAgreement publications) where
  toAlong := .invariant _
  streams _ _ _ h := h
  checkpoints _ _ _ h := h
  runs _ _ _ h := h
  attention _ _ _ h := h
  presentation _ _ _ h := h
  moving _ hmoved :=
    update_agreement (fun r => (hmoved r).id_eq) (fun r => (hmoved r).identified)
      fun r => (hmoved r).remoteStatus_eq
  observed _ _ :=
    update_keeps_put (fun _ _ _ h => h) _ _
  event _ := fun s _ => Keeps.execute (fun _ _ h => h) s
  output _ := fun s _ => Keeps.execute (fun _ _ h => h) s
  notice input json := fun s _ =>
    recordNotice_agreement engine (input.row tools.hashes json) nofun s
  forget := .execute fun _ _ h => h
  privacy _ := .execute fun _ _ h => h

/-- So does an acceptance that is identified. -/
theorem finishAccepted_agreement (engine : DesktopEngine) (id : Text) (h : acceptance.Identified)
    (now : Timestamp) : Keeps (KeepsAgreement publications)
      (finishAccepted engine id acceptance now) := by
  refine .bind (update_agreement (fun _ => rfl) ?_ fun _ => rfl) fun _ => ?_
  · exact fun r _ => acceptedAs_identified h now r
  · exact .ite (.reject _) (.pure _)

end

/-! ## The programs on the whole database -/

/-- Receipts and notices of a database agree. -/
def DesktopDatabase.Agrees (d : DesktopDatabase) : Prop :=
  ReceiptsAgree d.store.notificationOutbox d.publications

/-- They agree if they did before. -/
def KeepsReceipts (d d' : DesktopDatabase) : Prop :=
  d.Agrees → d'.Agrees

instance : Std.Refl KeepsReceipts := ⟨fun _ hd => hd⟩

instance : IsTrans DesktopDatabase KeepsReceipts := ⟨fun _ _ _ h h' hd => h' (h hd)⟩

variable {d d' : DesktopDatabase}

section

variable (engine : DatabaseEngine)

/-- A change of publications that keeps what receipts say. -/
theorem publications_receipts {guard : PublicationRow → Bool}
    {change : PublicationRow → PublicationRow} (hid : ∀ p, (change p).outboxId = p.outboxId)
    (hstat : ∀ p, (change p).notificationStatus = p.notificationStatus)
    (hacc : ∀ p, (change p).acceptedAt = p.acceptedAt) : Keeps KeepsReceipts
      (update engine publicationTable (fun _ => guard) change : Base Nat) :=
  update_keeps fun _ _ hs =>
    hs.update_publications hid hstat hacc

/-- The schema holds a submission to a notice that is there. -/
theorem register_receipts (submission : Submission) :
    Keeps KeepsReceipts (register engine submission) := by
  refine .allOrNothing (.bind (insertUnless_keeps ?_) fun _ => ?_)
  · intro d _ hchk hd
    refine hd.insert_publication ?_ rfl
    simp only [check, checkPublications, Bool.and_eq_true, DesktopStore.tableCheck_iff] at hchk
    have hrow := hchk.2.1 submission.row (mem_append_right _ (mem_singleton.mpr rfl))
    have hcontains := hrow.2
    rw [contains_eq_mem, decide_eq_true_eq, mem_map] at hcontains
    exact hcontains
  · refine .bind .read fun d => ?_
    split
    · exact .reject _
    · exact .ite (.reject _) (.pure _)

/-- Ending an action keeps the agreement. -/
theorem completeIfAny_receipts (oid : Text) (completion : Option (ResultAction × Text)) :
    Keeps KeepsReceipts (completeIfAny engine oid completion) := by
  cases completion with
  | none => exact .pure _
  | some completion =>
    obtain ⟨action, req⟩ := completion
    cases action with
    | resend | revoke =>
      refine .bind (publications_receipts engine ?_ ?_ ?_) fun _ => .pure _
      all_goals exact fun _ => rfl

/-- The publication has a receipt that its notice has yet to take over. -/
def Ahead (outboxId : Text) (receipt : RelayResultReceipt) (d : DesktopDatabase) : Prop :=
  ReceiptsAgree
    (updateWhere (fun r => r.id == outboxId) (remoteFrom receipt)
      d.store.notificationOutbox) d.publications

/-- The statements that store a receipt, when none of them fails.  Between the
first and that on the outbox the publication is ahead of its notice. -/
theorem storeReceipt_receipts {current : PublicationRow} {outboxId : Text}
    {receipt : RelayResultReceipt} {completion : Option (ResultAction × Text)} {u : Unit}
    (h : storeReceipt engine current outboxId receipt completion d = (.ok u, d'))
    (hd : d.Agrees) : d'.Agrees := by
  have hconf : Keeps (fun d d' => Ahead outboxId receipt d → Ahead outboxId receipt d')
      (update engine publicationTable (fun _ => resendOf current outboxId receipt) withoutResend :
          Base Nat) :=
    update_keeps fun _ _ hs => hs.update_publications (fun _ => rfl) (fun _ => rfl) fun _ => rfl
  have hrest : Keeps KeepsReceipts (onlyIf (receipt.pageState == .revoked) (do
        let _ ← update engine publicationTable (fun _ p => p.outboxId == outboxId) withoutRevoke
        pure ()) >>= fun _ => completeIfAny engine outboxId completion : Base Unit) := by
    refine .bind (.onlyIf fun _ => .bind ?_ fun _ => .pure _) fun _ => ?_
    · exact publications_receipts engine (fun _ => rfl) (fun _ => rfl) fun _ => rfl
    · exact completeIfAny_receipts engine outboxId completion
  obtain ⟨_, d1, hpub, h⟩ := bind_eq_ok.mp h
  obtain ⟨_, _, rfl⟩ := update_eq_ok.mp hpub
  obtain ⟨_, d2, hresend, h⟩ := bind_eq_ok.mp h
  have hd2 := (Keeps.onlyIf fun _ => .bind hconf fun _ => .pure _).of_run hresend
    (hd.store_receipt outboxId receipt)
  obtain ⟨_, d3, hnot, h⟩ := bind_eq_ok.mp h
  obtain ⟨_, _, rfl⟩ := update_eq_ok.mp hnot
  exact hrest.of_run h hd2

theorem applyInner_receipts (oid : Text) (receipt : RelayResultReceipt) (allowed : Bool)
    (completion : Option (ResultAction × Text)) : Keeps KeepsReceipts
      (applyInner engine oid receipt allowed completion) := by
  refine .allOrNothing_of_ok fun d result d' hok hd => ?_
  rw [read_bind_run] at hok
  cases hpub : d.publication oid with
  | none =>
    rw [hpub] at hok
    cases hok
  | some current =>
    simp only [hpub] at hok
    cases hjudge : judgeReceipt current oid receipt allowed completion with
    | error =>
      simp only [hjudge] at hok
      cases hok
    | ok verdict =>
      simp only [hjudge] at hok
      cases verdict with
      | stale => exact (Keeps.pure (R := KeepsReceipts) _).of_run hok hd
      | alreadyApplied =>
        obtain ⟨_, d1, hcomplete, hpure⟩ := bind_eq_ok.mp hok
        exact (Keeps.pure (R := KeepsReceipts) _).of_run hpure
          ((completeIfAny_receipts engine _ _).of_run hcomplete hd)
      | applied =>
        obtain ⟨_, d1, hstore, hpure⟩ := bind_eq_ok.mp hok
        exact (Keeps.pure (R := KeepsReceipts) _).of_run hpure
          (storeReceipt_receipts engine hstore hd)

theorem registerAction_receipts (oid : Text) (action : ResultAction) (req : Text) :
    Keeps KeepsReceipts (registerAction engine oid action req) := by
  refine .allOrNothing (.bind ?_ fun _ => ?_)
  · cases action with
    | resend | revoke =>
      exact publications_receipts engine (fun _ => rfl) (fun _ => rfl) fun _ => rfl
  · refine .ite (.reject _) ?_
    exact .bind .read fun _ => .pure _

/-- A remote status is not written over a final one. -/
theorem applyRelayRemoteStatus_receipts (u : RelayRemoteStatusUpdate) :
    Keeps KeepsReceipts (applyRelayRemoteStatus engine u) := by
  refine .ite (.reject _) (updateOne_keeps ?_)
  intro d _ hd
  refine hd.update_notices (fun _ => rfl) (fun _ h => h) ?_
  intro r hr hg p hp hkey hterm
  have hopen : r.remoteStatus.any isTerminalNotification = false := by
    simp only [takesRemoteStatus, Bool.and_eq_true, Bool.not_eq_true'] at hg
    exact hg.1.2
  rw [hd.agrees p hp r hr hkey hterm, hterm] at hopen
  cases hopen

/-- Every statement of a retention pass keeps it. -/
theorem retention_receipts : RetentionRules KeepsReceipts where
  toAlong := .invariant _
  scrubOutputs _ _ h := h
  scrubNotices _ _ _ _ h := h.update_local (fun _ => rfl) (fun _ h => h) fun _ => rfl
  scrubEvent _ _ _ _ h := h
  dropOutputs _ _ h := h
  dropEvents _ _ h := h
  dropNotices p _ h := h.drop_notices p
  dropRuns p d h := h.drop_notices (namesRunIn p d.store.agentRuns)

end

/-! ## The desktop at its relay -/

/-- Every program on the database keeps the agreement, where deliveries end with
acceptances that are identified. -/
theorem databaseStep_receipts {tools : Tools} {accepts : TransportAcceptance → Prop}
    (hacc : ∀ acceptance, accepts acceptance → acceptance.Identified)
    (h : DatabaseStep tools accepts d d') : KeepsReceipts d d' := by
  intro hd
  cases h with
  | desktop engine op desk desk' hstore hnext hfin =>
    have hrules : DeskRules engine tools (KeepsAgreement d.publications) :=
      agreement_rules engine tools
    refine hrules.next hnext ?_ (by rw [hstore]; exact hd)
    intro raw content claimedNow acceptance now hop
    exact finishAccepted_agreement engine _ (hacc _ (hfin _ _ _ _ _ hop)) now
  | resume engine prev current replaced now =>
    have hrules : DeskRules engine tools (KeepsAgreement d.publications) :=
      agreement_rules engine tools
    exact Keeps.ite (.pure _) (hrules.retryBlockedForRelay now _ _ _) d.store hd
  | register engine submission => exact register_receipts engine submission d hd
  | receipt engine oid receipt allowed completion =>
    exact applyInner_receipts engine oid receipt allowed completion d hd
  | action engine oid action req => exact registerAction_receipts engine oid action req d hd
  | remoteStatus engine u => exact applyRelayRemoteStatus_receipts engine u d hd
  | pruneRetained engine now => exact retention_receipts.pruneRetained engine now d hd
  | pruneBatch engine now => exact retention_receipts.pruneBatch engine tools now d hd

/-- If the result is an acceptance by the relay, it names the notice there. -/
def DeliveryResult.Identified (result : DeliveryResult) : Prop :=
  ∀ acceptance, result = .accepted acceptance → acceptance.Identified

section

variable {tools : Tools} {codec : RelayCodec} {w w' : RelayWorld} {op : RelayOp}

/-- The relay's acceptance names the notice. -/
theorem acceptance_identified (nid : Text) (acceptedAt : Timestamp) :
    (RelaySender.acceptance nid acceptedAt).Identified := by
  intro acceptance h
  cases h
  exact fun _ => rfl

/-- An error is no acceptance. -/
theorem mapError_identified (error : RelayHttpError) : (RelaySender.mapError error).Identified := by
  intro acceptance h
  unfold RelaySender.mapError at h
  split at h
  all_goals first
    | cases h
    | (split at h <;> cases h)
    | (split at h
       · cases h
       · split at h
         · cases h
         · split at h <;> cases h)

variable {result : DeliveryResult} {raw : OutboxRow} {claimedNow now : Timestamp}
  {engine : DatabaseEngine}

/-- What stops an attempt before its request is not an acceptance. -/
theorem prepare_stopped_identified {pages : Bool} {loaded : LoadedProfile} {claim : OutboxClaim}
    (h : RelaySender.prepare codec tools.hashes pages loaded claim = .stopped result) :
    result.Identified := by
  intro acceptance hres
  rw [hres] at h
  unfold RelaySender.prepare at h
  split at h
  · cases h
  · cases h
  split at h
  · split at h
    · cases h
    split at h
    · split at h <;> cases h
    · cases h
  · cases h

theorem unregistered_identified (failure : Failure AppError) :
    (RelaySender.unregistered failure).Identified := by
  intro acceptance h
  cases failure with
  | statement => cases h
  | rejected =>
    simp only [RelaySender.unregistered] at h
    split at h <;> cases h

/-- A published result is identified by its receipt. -/
theorem published_identified (receipt : RelayResultReceipt)
    (applied : Except (Failure AppError) ResultReceiptApply) :
    (RelaySender.published receipt applied).Identified := by
  match applied with
  | .ok .applied | .ok .alreadyApplied => exact acceptance_identified _ _
  | .ok .stale | .error _ => exact fun _ h => nomatch h

/-- A result that waits to be recorded waited already, or is identified. -/
def AnswersIdentified (w w' : RelayWorld) : Prop :=
  ∀ a ∈ w'.answered, a ∈ w.answered ∨ a.result.Identified

theorem answersIdentified_of_eq (h : w'.answered = w.answered) : AnswersIdentified w w' := by
  intro a ha
  rw [h] at ha
  exact .inl ha

/-- One more answer, and it is identified. -/
theorem answersIdentified_append {payload : NotificationPayloadV2}
    (h : w'.answered = w.answered ++ [⟨raw, payload, claimedNow, result⟩])
    (hres : result.Identified) : AnswersIdentified w w' := by
  rw [AnswersIdentified, h]
  exact forall_mem_snoc (fun _ => .inl) (.inr hres)

/-- Connections answer nothing. -/
theorem connection_answers (engine : DesktopEngine) :
    ConnectionRules engine fun w w' => w'.answered = w.answered where
  refl _ := rfl
  trans _ _ _ h h' := h'.trans h
  facts _ _ _ _ := rfl
  resume _ _ _ _ _ := rfl

/-- What sending answers at once is identified. -/
theorem send_answers {deskEngine : DesktopEngine} {readable : Bool}
    {fault : Option RelayCredentialError}
    (h : w.send deskEngine engine tools codec raw readable claimedNow fault = some w') :
    AnswersIdentified w w' := by
  unfold RelayWorld.send at h
  split at h
  · split at h
    · obtain ⟨desk, _, rfl⟩ := Option.map_eq_some_iff.mp h
      exact answersIdentified_of_eq rfl
    split at h
    · obtain ⟨desk, _, rfl⟩ := Option.map_eq_some_iff.mp h
      exact answersIdentified_of_eq rfl
    split at h
    · rename_i hprepared
      cases h
      exact answersIdentified_append rfl (prepare_stopped_identified hprepared)
    · cases h
      exact answersIdentified_of_eq rfl
    split at h
    · cases h
      exact answersIdentified_of_eq rfl
    · cases h
      exact answersIdentified_append rfl (unregistered_identified _)
  · cases h

/-- So is the answer of the relay. -/
theorem answer_answers {s : Sending} {reply : RelayAnswer} {observed : Bool}
    (h : w.answer engine s reply observed now = some w') : AnswersIdentified w w' := by
  unfold RelayWorld.answer at h
  split at h
  · cases reply with
    | held | cancelled =>
      cases h
      exact answersIdentified_append rfl fun _ h => nomatch h
    | failed error =>
      cases h
      exact answersIdentified_append rfl (mapError_identified error)
    | accepted =>
      cases h
      exact answersIdentified_append rfl (acceptance_identified _ _)
    | published receipt =>
      cases h
      exact answersIdentified_append rfl (published_identified receipt _)
  · cases h

theorem receive_answers {reply : Except RelayHttpError RemoteReceipt}
    (h : w.receive engine reply now = some w') : w'.answered = w.answered := by
  unfold RelayWorld.receive at h
  split at h
  · split at h
    · cases h
      rfl
    cases reply with
    | error =>
      cases h
      rfl
    | ok =>
      obtain ⟨_, rfl⟩ := of_guard h
      rfl
  · cases h

/-- So is every answer. -/
theorem relayStep_answers (h : RelayStep tools codec w op w') : AnswersIdentified w w' := by
  obtain ⟨deskEngine, engine, hnext⟩ := h
  cases op with
  | desk =>
    simp only [RelayOp.next] at hnext
    split at hnext
    · obtain ⟨desk, _, rfl⟩ := Option.map_eq_some_iff.mp hnext
      exact answersIdentified_of_eq rfl
    · cases hnext
  | send => exact send_answers hnext
  | decline =>
    simp only [RelayOp.next] at hnext
    split at hnext
    · obtain ⟨hwithout, rfl⟩ := of_guard hnext
      refine answersIdentified_append rfl ?_
      rintro acceptance rfl
      simp [DeliveryResult.withoutRequest] at hwithout
    · cases hnext
  | answer => exact answer_answers hnext
  | complete =>
    simp only [RelayOp.next, RelayWorld.complete] at hnext
    split at hnext
    · obtain ⟨desk, _, rfl⟩ := Option.map_eq_some_iff.mp hnext
      exact fun b hb => .inl (mem_of_mem_erase hb)
    · cases hnext
  | probe resumeDelivery run =>
    cases hnext
    exact answersIdentified_of_eq
      ((connection_answers deskEngine).probeConnection resumeDelivery run w)
  | configure run =>
    cases hnext
    exact answersIdentified_of_eq ((connection_answers deskEngine).configure run w)
  | startRefresh | fetchNext =>
    simp only [RelayOp.next, RelayWorld.startRefresh, RelayWorld.fetchNext] at hnext
    split at hnext
    · cases hnext
      exact answersIdentified_of_eq rfl
    · cases hnext
  | receive => exact answersIdentified_of_eq (receive_answers hnext)
  | endRefresh | registerAction | applyAction | pruneRetained | pruneBatch =>
    cases hnext
    exact answersIdentified_of_eq rfl
  | restart =>
    cases hnext
    exact fun a ha => absurd ha not_mem_nil

end

/-- In every state that the desktop reaches, receipts and notices agree, and the
acceptances that wait to be recorded are identified. -/
structure RelayWorld.Sound (w : RelayWorld) : Prop where
  agrees : w.database.Agrees
  identified : ∀ a ∈ w.answered, a.result.Identified

variable {tools : Tools} {codec : RelayCodec} {w : RelayWorld} {ops : List RelayOp}

/-- A step keeps receipts and notices in agreement. -/
theorem relayStep_sound {w' : RelayWorld} {op : RelayOp} (h : RelayStep tools codec w op w')
    (hw : w.Sound) : w'.Sound where
  agrees := by
    refine relayStep_invariant (fun _ _ => databaseStep_receipts ?_) h hw.agrees
    rintro acceptance ⟨a, ha, hres⟩
    exact hw.identified a ha acceptance hres
  identified a ha := (relayStep_answers h a ha).elim (hw.identified a) id

/-- They agree in every state that is reached. -/
theorem sound_of_run (h : Run (RelayStep tools codec) RelayWorld.initial ops w) : w.Sound := by
  refine h.invariant (I := RelayWorld.Sound) (fun _ _ _ => relayStep_sound) ?_
  refine ⟨⟨nodup_nil, ?_, ?_, ?_, ?_⟩, ?_⟩
  all_goals exact fun _ hmem => absurd hmem not_mem_nil

/-! ## What the refresh leaves out -/

/-- The remote status by which the refresh judges a notice: that of its
publication, or where there is none its own. -/
def DesktopDatabase.knownStatus (d : DesktopDatabase) (r : OutboxRow) : Option String :=
  match d.publication r.id with
  | some p => p.notificationStatus
  | none => r.remoteStatus

/-- The refresh takes for final what the others do, and one status more. -/
theorem isTerminalNotification_iff {status : String} : isTerminalNotification status = true ↔
      settledRemotely status = true ∨ status = "delivery_unknown" := by
  simp [isTerminalNotification, settledRemotely]
  tauto

/-- Only `delivery_unknown` is terminal and not settled. -/
theorem terminal_iff_of_unsettled {status : Option String}
    (h : status.any settledRemotely = false) :
    status.any isTerminalNotification = true ↔ status = some "delivery_unknown" := by
  cases status with
  | none => simp
  | some status =>
    have hopen : settledRemotely status = false := h
    simp only [Option.any_some, isTerminalNotification_iff, hopen]
    simp

/-- A notice that keeps the destination or its run is a candidate unless its
status is the one on which the two sides differ. -/
theorem reconcilable_iff (hd : d.Agrees)
    (hr : r ∈ d.store.notificationOutbox) (hacc : r.acceptedByRelay = true)
    (hkept : d.actionPending r = true ∨ r.remotelyUnsettled = true) : d.reconcilable r = true ↔
      ¬ (d.knownStatus r = some "delivery_unknown" ∧ d.actionPending r = false) := by
  have hid := hd.identified r hr hacc
  unfold reconcilable knownStatus
  rw [hacc, hid]
  cases hpub : d.publication r.id with
  | none =>
    have hpend : d.actionPending r = false := by
      rw [actionPending, hpub]
      rfl
    have hunset : r.remoteStatus.any settledRemotely = false := by
      rw [hpend] at hkept
      simpa [OutboxRow.remotelyUnsettled] using hkept
    simp only [hpend, Bool.true_and, Bool.not_eq_true', and_true]
    rw [← terminal_iff_of_unsettled hunset, Bool.not_eq_true]
  | some p =>
    have hp := List.mem_of_find?_eq_some hpub
    have hkey : r.id = p.outboxId := by
      have hfound := List.find?_some hpub
      exact (beq_iff_eq.mp hfound).symm
    have hpend : d.actionPending r = p.pendingAction := by
      rw [actionPending, hpub]
      rfl
    rw [hpend] at hkept ⊢
    cases hterm : p.notificationStatus.any isTerminalNotification with
    | false =>
      -- not final for the refresh, so not unknown either
      have hoth : p.notificationStatus ≠ some "delivery_unknown" := by
        intro hunknown
        rw [hunknown] at hterm
        exact absurd hterm (by decide)
      simp [hoth, hterm]
    | true =>
      have hacc : p.acceptedAt.isSome = true := by
        refine hd.whole p hp ?_
        obtain ⟨status, hstat, _⟩ := (Option.any_eq_true ..).mp hterm
        rw [hstat]
        rfl
      obtain ⟨acceptedAt, hacc⟩ := Option.isSome_iff_exists.mp hacc
      have hagrees := hd.agrees p hp r hr hkey hterm
      cases hwait : p.pendingAction with
      | true => simp [hwait]
      | false =>
        rw [hwait] at hkept
        have hunset : p.notificationStatus.any settledRemotely = false := by
          rw [← hagrees]
          simpa [OutboxRow.remotelyUnsettled] using hkept
        have hunknown := (terminal_iff_of_unsettled hunset).mp hterm
        simp [hacc, hunknown, hwait, isTerminalNotification]

/-- **Which unfinished notices are refreshed.**  In every state that the desktop
reaches, a delivered notice of the relay that keeps the destination, or that is
not pruned because its remote status is not final, is among the candidates of the
refresh, unless the relay reported that it does not know whether the notice was
delivered and no action on the notice waits. -/
theorem unfinished_notice_refreshed_iff {tools : Tools} {codec : RelayCodec} {ops : List RelayOp}
    {w : RelayWorld} (h : Run (RelayStep tools codec) RelayWorld.initial ops w) {r : OutboxRow}
    (hr : r ∈ w.store.notificationOutbox) (hdelivered : r.status = .delivered)
    (haccepted : r.acceptedByRelay = true)
    (hkept : w.database.holdsDestination r = true ∨ r.remotelyUnsettled = true) {limit : Nat}
    (hlimit : 1 ≤ limit ∧ limit ≤ 50) :
    (∃ id, ⟨r.id, id⟩ ∈ reconciliationCandidates w.database limit) ↔
      ¬ (w.database.knownStatus r = some "delivery_unknown" ∧
        w.database.actionPending r = false) := by
  have hagrees := (sound_of_run h).agrees
  rw [mem_reconciliationCandidates hagrees.ids hlimit hr]
  refine reconcilable_iff hagrees hr haccepted ?_
  rcases hkept with hholds | hunsettled
  · simp only [holdsDestination, hdelivered, haccepted] at hholds
    simpa [OutboxRowStatus.closed, or_comm] using hholds
  · exact .inr hunsettled

/-! ## A notice of which nothing more is heard -/

/-- The relay accepts the sample notice. -/
def acceptedNotice : List RelayOp :=
  [sampleConfigure, .desk (.enqueueControl .test (text "k") samplePayload 0),
    .desk (.claim true 1), .send (claimedTest 1) true 1 none,
    .answer ⟨claimedTest 1, samplePayload, 1, sampleProfile, false⟩
      (.accepted queuedTest.id 1) true 2,
    .complete ⟨claimedTest 1, samplePayload, 1, RelaySender.acceptance queuedTest.id 1⟩ 2]

/-- The refresh then reads that the relay does not know whether it was
delivered. -/
def unknownNotice : List RelayOp :=
  acceptedNotice ++ [.startRefresh, .fetchNext, .receive (.ok (.short .deliveryUnknown 3 none)) 3]

/-- The one notice is delivered by the relay, is not pruned and keeps the
destination; whether the refresh returns it is the argument. -/
def leavesUnfinished (refreshed : Bool) (w : RelayWorld) : Bool :=
  match w.store.notificationOutbox with
  | [r] =>
    r.status == .delivered && r.acceptedByRelay && w.database.holdsDestination r &&
      r.remotelyUnsettled &&
      (reconciliationCandidates w.database 25).any
        (fun candidate => candidate.outboxId == r.id) == refreshed
  | _ => false

/-- Both samples leave a notice that is not settled. -/
theorem unfinishedNotice_runs : ((relayRun .initial acceptedNotice).any (leavesUnfinished true) &&
      (relayRun .initial unknownNotice).any (leavesUnfinished false)) = true := by
  decide +kernel

/-- What the sample check says of the state. -/
theorem exists_of_leavesUnfinished {refreshed : Bool}
    (h : (relayRun .initial ops).any (leavesUnfinished refreshed) = true) :
    ∃ w r, Run (RelayStep relayTools sampleCodec) .initial ops w ∧
      r ∈ w.store.notificationOutbox ∧ r.status = .delivered ∧ r.acceptedByRelay = true ∧
      w.database.holdsDestination r = true ∧ r.remotelyUnsettled = true ∧
      (reconciliationCandidates w.database 25).any
        (fun candidate => candidate.outboxId == r.id) = refreshed := by
  obtain ⟨w, hrun, h⟩ := (Option.any_eq_true ..).mp h
  unfold leavesUnfinished at h
  split at h
  · rename_i r hnots
    simp only [Bool.and_eq_true, beq_iff_eq] at h
    obtain ⟨⟨⟨⟨hdeliv, hacc⟩, hholds⟩, hunset⟩, hrefreshed⟩ := h
    refine ⟨w, r, run_of_relayRun hrun, ?_, hdeliv, hacc, hholds, hunset, hrefreshed⟩
    rw [hnots]
    exact mem_singleton_self r
  · cases h

/-- **A notice of which the relay reports that its delivery is unknown keeps the
destination and is not pruned, and the refresh never asks about it again.** -/
theorem unknown_notice_never_refreshed :
    ∃ w r, Run (RelayStep relayTools sampleCodec) .initial unknownNotice w ∧
      r ∈ w.store.notificationOutbox ∧ r.status = .delivered ∧ r.acceptedByRelay = true ∧
      w.database.holdsDestination r = true ∧ r.remotelyUnsettled = true ∧
      ∀ id, ⟨r.id, id⟩ ∉ reconciliationCandidates w.database 25 := by
  obtain ⟨w, r, hrun, hr, hdelivered, haccepted, hholds, hunsettled, hnone⟩ :=
    exists_of_leavesUnfinished (Bool.and_eq_true_iff.mp unfinishedNotice_runs).2
  refine ⟨w, r, hrun, hr, hdelivered, haccepted, hholds, hunsettled, fun id hid => ?_⟩
  exact absurd (any_eq_false.mp hnone _ hid) (by simp)

/-- An accepted notice is refreshed. -/
theorem accepted_notice_refreshed :
    ∃ w r, Run (RelayStep relayTools sampleCodec) .initial acceptedNotice w ∧
      r ∈ w.store.notificationOutbox ∧ r.status = .delivered ∧ r.acceptedByRelay = true ∧
      w.database.holdsDestination r = true ∧
      (∃ id, ⟨r.id, id⟩ ∈ reconciliationCandidates w.database 25) ∧
      ¬ (w.database.knownStatus r = some "delivery_unknown" ∧
        w.database.actionPending r = false) := by
  obtain ⟨w, r, hrun, hr, hdelivered, haccepted, hholds, _, hsome⟩ :=
    exists_of_leavesUnfinished (Bool.and_eq_true_iff.mp unfinishedNotice_runs).1
  obtain ⟨⟨outboxId, id⟩, hid, hkey⟩ := any_eq_true.mp hsome
  have hlisted : ∃ id, ⟨r.id, id⟩ ∈ reconciliationCandidates w.database 25 := by
    rw [← beq_iff_eq.mp hkey]
    exact ⟨id, hid⟩
  exact ⟨w, r, hrun, hr, hdelivered, haccepted, hholds, hlisted,
    (unfinished_notice_refreshed_iff hrun hr hdelivered haccepted (.inl hholds)
      (by decide)).mp hlisted⟩

end PromptDock.Desktop
