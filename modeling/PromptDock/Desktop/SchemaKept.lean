import PromptDock.Desktop.NoticeMoves

/-!
# Statements that the schema lets through

An engine without faults refuses a statement only where its result breaks the
schema.  For each kind of statement of ingestion and the finalizer this module
says when its result keeps the schema.  What a table refers to in another table
is a column of keys, so a statement that keeps those columns only has to keep
the checks of its own rows.
-/

namespace PromptDock.Desktop

open RowTable TableStatement DesktopStore StoreAction.Action OutputRepository List

variable {s : DesktopStore} {row : PresentationRow}

namespace DesktopStore

/-- Every row passes and keys are unique. -/
theorem tableCheck_iff {ρ κ : Type} [DecidableEq κ] {key : ρ → κ} {check : ρ → Bool}
    {rows : List ρ} :
    tableCheck key check rows = true ↔ (∀ r ∈ rows, check r = true) ∧ KeysUnique key rows := by
  simp [tableCheck, distinct_iff_nodup, KeysUnique]

/-- The schema, table by table. -/
theorem check_iff : s.check = true ↔
    s.checkSources = true ∧ s.checkEvents = true ∧ s.checkRuns = true ∧ s.checkOutputs = true ∧
      s.checkOutbox = true ∧ s.desktopPrivacy.check = true ∧ s.retentionCounters.check = true := by
  simp [check, and_assoc]

/-! ## Sources -/

/-! ## Events -/

/-! ## Outputs -/

/-! ## Runs -/

/-- Runs under the same keys keep the schema exactly if each of them passes its
check. -/
theorem check_put_runs (hs : s.check = true) {rows : List AgentRunRecord}
    (hkeys : rows.map AgentRunRecord.runKey = s.agentRuns.map AgentRunRecord.runKey) :
    (runTable.put s rows).check = true ↔ ∀ r ∈ rows, r.check = true := by
  obtain ⟨hsrcs, hevs, hruns, houts, hbox, hpriv, hcnt⟩ := check_iff.mp hs
  simp only [checkRuns, Bool.and_eq_true, tableCheck_iff] at hruns
  have hbox' : (runTable.put s rows).checkOutbox = true := by
    simp only [checkOutbox, runTable, hkeys]
    exact hbox
  have huniq : KeysUnique AgentRunRecord.runKey rows := by
    rw [KeysUnique, hkeys]
    exact hruns.1.2
  constructor
  · intro h
    have hruns' := (check_iff.mp h).2.2.1
    simp only [checkRuns, Bool.and_eq_true, tableCheck_iff] at hruns'
    exact hruns'.1.1
  · intro hchecks
    refine check_iff.mpr ⟨hsrcs, hevs, ?_, houts, hbox', hpriv, hcnt⟩
    simp only [checkRuns, Bool.and_eq_true, tableCheck_iff, runTable, hkeys]
    exact ⟨⟨hchecks, huniq⟩, hruns.2⟩

/-! ## Presentation -/

/-- Presentations with the same keys pass row by row. -/
theorem check_put_presentation (hs : s.check = true) {rows : List PresentationRow}
    (hkeys : rows.map PresentationRow.runKey = s.runPresentation.map PresentationRow.runKey) :
    (presentationTable.put s rows).check = true ↔ ∀ r ∈ rows, r.check = true := by
  obtain ⟨hsrcs, hevs, hruns, houts, hbox, hpriv, hcnt⟩ := check_iff.mp hs
  simp only [checkRuns, Bool.and_eq_true, tableCheck_iff] at hruns
  have huniq : KeysUnique PresentationRow.runKey rows := by
    rw [KeysUnique, hkeys]
    exact hruns.2.2
  constructor
  · intro h
    have hruns' := (check_iff.mp h).2.2.1
    simp only [checkRuns, Bool.and_eq_true, tableCheck_iff] at hruns'
    exact fun r hr => (hruns'.2.1 r hr).1
  intro hchecks
  refine check_iff.mpr ⟨hsrcs, hevs, ?_, houts, hbox, hpriv, hcnt⟩
  simp only [checkRuns, Bool.and_eq_true, tableCheck_iff]
  refine ⟨hruns.1, fun r hr => ⟨hchecks r hr, ?_⟩, huniq⟩
  -- a row under the same key refers to the same run
  have hmem : r.runKey ∈ s.runPresentation.map PresentationRow.runKey := by
    rw [← hkeys]
    exact mem_map_of_mem hr
  obtain ⟨r0, hr0, hkey⟩ := mem_map.mp hmem
  rw [← hkey]
  exact (hruns.2.1 r0 hr0).2

/-- A new presentation of a known run passes. -/
theorem check_insert_presentation (hs : s.check = true)
    (hchk : row.check = true) (hrun : ∃ run ∈ s.agentRuns, run.runKey = row.runKey)
    (hnew : ∀ r ∈ s.runPresentation, r.runKey ≠ row.runKey) :
    (presentationTable.put s (s.runPresentation ++ [row])).check = true := by
  obtain ⟨hsrcs, hevs, hruns, houts, hbox, hpriv, hcnt⟩ := check_iff.mp hs
  simp only [checkRuns, Bool.and_eq_true, tableCheck_iff] at hruns
  refine check_iff.mpr ⟨hsrcs, hevs, ?_, houts, hbox, hpriv, hcnt⟩
  simp only [checkRuns, Bool.and_eq_true, tableCheck_iff]
  refine ⟨hruns.1, forall_mem_snoc hruns.2.1 ?_, hruns.2.2.append hnew⟩
  obtain ⟨run, hmem, hkey⟩ := hrun
  simp only [contains_eq_mem, mem_map, decide_eq_true_eq]
  exact ⟨hchk, run, hmem, hkey⟩

/-! ## Notices -/

/-- What an update of a notice leaves, so that the schema cannot break. -/
structure NoticeKept (r r' : OutboxRow) : Prop where
  id : r'.id = r.id
  dedupeKey : r'.dedupeKey = r.dedupeKey
  clientId : r'.clientId = r.clientId
  agentRunKey : r'.agentRunKey = r.agentRunKey
  check : r'.check = r.check

/-- Moved notices pass. -/
theorem check_update_outbox (hs : s.check = true) {guard : OutboxRow → Bool}
    {change : OutboxRow → OutboxRow} (hchg : ∀ r, NoticeKept r (change r)) :
    (outboxTable.put s (updateWhere guard change s.notificationOutbox)).check = true := by
  obtain ⟨hsrcs, hevs, hruns, houts, hbox, hpriv, hcnt⟩ := check_iff.mp hs
  simp only [checkOutbox, Bool.and_eq_true, tableCheck_iff, distinct_iff_nodup] at hbox
  refine check_iff.mpr ⟨hsrcs, hevs, hruns, houts, ?_, hpriv, hcnt⟩
  simp only [checkOutbox, Bool.and_eq_true, tableCheck_iff, distinct_iff_nodup, outboxTable,
    map_updateWhere fun r => (hchg r).dedupeKey, map_updateWhere fun r => (hchg r).clientId]
  refine ⟨⟨⟨forall_mem_updateWhere (fun r hr _ => ?_) hbox.1.1.1,
    hbox.1.1.2.updateWhere fun r => (hchg r).id⟩, hbox.1.2⟩, hbox.2⟩
  rw [(hchg r).check, (hchg r).agentRunKey]
  exact hbox.1.1.1 r hr

/-- A notice that the outbox does not pass over may be stored. -/
theorem check_withNotice (hs : s.check = true) {row : OutboxRow}
    (hrun : ∀ key, row.agentRunKey = some key → ∃ run ∈ s.agentRuns, run.runKey = key)
    (hkept : s.ignoresNotice row = false) : (withNotice row s).check = true := by
  obtain ⟨hsrcs, hevs, hruns, houts, hbox, hpriv, hcnt⟩ := check_iff.mp hs
  simp only [checkOutbox, Bool.and_eq_true, tableCheck_iff, distinct_iff_nodup] at hbox
  simp only [ignoresNotice, Bool.or_eq_false_iff, Bool.not_eq_false', any_eq_false,
    Bool.not_eq_true, beq_eq_false_iff_ne] at hkept
  obtain ⟨hchk, hnew⟩ := hkept
  refine check_iff.mpr ⟨hsrcs, hevs, hruns, houts, ?_, hpriv, ?_⟩
  · simp only [checkOutbox, Bool.and_eq_true, tableCheck_iff, distinct_iff_nodup]
    refine ⟨⟨⟨forall_mem_snoc hbox.1.1.1 ⟨hchk, ?_⟩, ?_⟩, ?_⟩, ?_⟩
    · cases hkey : row.agentRunKey with
      | none => rfl
      | some key =>
        obtain ⟨run, hmem, hrunKey⟩ := hrun key hkey
        simp only [Option.all_some, contains_eq_mem, mem_map, decide_eq_true_eq]
        exact ⟨run, hmem, hrunKey⟩
    · exact hbox.1.1.2.append fun r hr => (hnew r hr).1.1
    · exact KeysUnique.append hbox.1.2 fun r hr => (hnew r hr).1.2
    · exact KeysUnique.append hbox.2 fun r hr => (hnew r hr).2
  · simp only [RetentionCounters.check, Bool.and_eq_true, decide_eq_true_eq] at hcnt ⊢
    simp only [withNotice]
    omega

end DesktopStore

/-! ## Actions that succeed -/

section

variable {α β : Type} {result : Except AppError α} {f : α → Desk β}

/-- A part that comes down to a computation succeeds with it. -/
theorem succeeds_lift_of {m : Desk α} (hm : m s = lift result s) :
    Succeeds (m >>= f) s ↔ ∃ a, result = .ok a ∧ Succeeds (f a) s := by
  cases result with
  | error e =>
    have hfails : m s = (.error (.rejected e), s) := hm
    constructor
    · rintro ⟨b, s', h⟩
      rw [bind_run, hfails] at h
      cases h
    · rintro ⟨a, h, _⟩
      cases h
  | ok a =>
    have hruns : m s = (.ok a, s) := hm
    rw [succeeds_bind_of_ok hruns]
    constructor
    · intro h
      exact ⟨a, rfl, h⟩
    rintro ⟨_, hres, h⟩
    cases hres
    exact h

/-- Two computations in a row come down to one. -/
theorem lift_bind_run {m : Desk α} {x : Except AppError α} {f : α → Except AppError β}
    (hm : m s = lift x s) : (m >>= fun a => lift (f a)) s = lift (x >>= f) s := by
  rw [bind_run, hm]
  cases x <;> rfl

/-- A check succeeds, then the rest does. -/
theorem succeeds_lift : Succeeds (lift result >>= f) s ↔ ∃ a, result = .ok a ∧ Succeeds (f a) s :=
  succeeds_lift_of rfl

/-- The store in which some notices were changed and nothing else. -/
def NoticesKept (s s' : DesktopStore) : Prop :=
  ∃ guard change, (∀ r, NoticeKept r (change r)) ∧
    s' = outboxTable.put s (updateWhere guard change s.notificationOutbox)

/-- The keys of the notices are still taken. -/
theorem NoticesKept.any_dedupeKey {s' : DesktopStore} (h : NoticesKept s s') (key : Text) :
    (s'.notificationOutbox.any fun r => r.dedupeKey == key) =
      s.notificationOutbox.any fun r => r.dedupeKey == key := by
  obtain ⟨guard, change, hkept, rfl⟩ := h
  have hkeys : (updateWhere guard change s.notificationOutbox).map OutboxRow.dedupeKey =
      s.notificationOutbox.map OutboxRow.dedupeKey :=
    map_updateWhere (fun r => (hkept r).dedupeKey) _
  have hany := congrArg (List.any · (· == key)) hkeys
  simp only [any_map] at hany
  exact hany

/-- An update that keeps what the schema reads of a notice succeeds. -/
theorem update_outbox_run (hs : s.check = true) (guard : OutboxRow → Bool)
    (change : OutboxRow → OutboxRow) (hchg : ∀ r, NoticeKept r (change r)) :
    ∃ n s', (update desktopSqlite outboxTable (fun _ => guard) change : Desk Nat) s =
      (.ok n, s') ∧ s'.check = true ∧ NoticesKept s s' :=
  have hput := check_update_outbox hs hchg
  ⟨_, _, update_eq_ok.mpr ⟨hput, rfl, rfl⟩, hput, guard, change, hchg, rfl⟩

/-- Cancelling never fails. -/
theorem OutboxRepository.cancelPendingTx_run (hs : s.check = true) (kind : NotificationEventKind)
    (runKey : Text) (now : Timestamp) (code message : String) :
    ∃ n s', OutboxRepository.cancelPendingTx desktopSqlite kind runKey now code message s =
      (.ok n, s') ∧ s'.check = true ∧ NoticesKept s s' :=
  update_outbox_run hs _ _ fun _ => ⟨rfl, rfl, rfl, rfl, rfl⟩

/-- Nor does cancelling attention. -/
theorem ActivityProjection.cancelUnsentAttention_run (hs : s.check = true) (runKey : Text)
    (now : Timestamp) :
    ∃ s', ActivityProjection.cancelUnsentAttention desktopSqlite runKey now s = (.ok (), s') ∧
      s'.check = true ∧ NoticesKept s s' := by
  obtain ⟨n, s', hrun, hkept⟩ := update_outbox_run hs (ActivityProjection.unsentAttention runKey)
    (fun r =>
      { r with
        status := .cancelled, updatedAt := now, lastErrorCode := some "ATTENTION_HISTORICAL",
        lastErrorMessage := some "该轮已结束或正在确认结束；旧权限观察仅保留历史" })
    fun _ => ⟨rfl, rfl, rfl, rfl, rfl⟩
  exact ⟨s', bind_run_of_ok hrun, hkept⟩

/-! ### Runs and their presentation -/

/-- A stored run takes a new record exactly if the record passes its check. -/
theorem RunRepository.upsert_run (hs : s.check = true) {current run : AgentRunRecord}
    (hsto : current ∈ s.agentRuns) (hkey : run.runKey = current.runKey)
    (hkind : run.agentKind = current.agentKind) (hinst : run.instanceId = current.instanceId) :
    (run.check = true → ∃ s', RunRepository.upsert desktopSqlite run s = (.ok (), s') ∧
      s'.check = true ∧ Only runTable s s') ∧
      (Succeeds (RunRepository.upsert desktopSqlite run) s → run.check = true) := by
  have huniq := (valid_of_check hs).runKeys
  let guard : AgentRunRecord → Bool := fun r =>
    r.runKey == run.runKey && r.agentKind == run.agentKind && r.instanceId == run.instanceId
  have hg : guard current = true := by simp [guard, hkey, hkind, hinst]
  have hpin : ∀ r, guard r = true → r.runKey = run.runKey := by
    intro r hr
    simp only [guard, Bool.and_eq_true, beq_iff_eq] at hr
    exact hr.1.1
  have hone : affected guard s.agentRuns = 1 := by
    have hle := huniq.affected_le_one hpin
    have hpos := affected_pos.mpr ⟨current, hsto, hg⟩
    omega
  have hkeys : (updateWhere guard (fun _ => run) s.agentRuns).map AgentRunRecord.runKey =
      s.agentRuns.map AgentRunRecord.runKey :=
    map_updateWhere_of fun r _ hr => (hpin r hr).symm
  have hany : (s.agentRuns.any fun r => r.runKey == run.runKey) = true :=
    any_eq_true.mpr ⟨current, hsto, by simp [hkey]⟩
  have hrun : RunRepository.upsert desktopSqlite run s =
      (update desktopSqlite runTable (fun _ => guard) (fun _ => run) >>= fun changed =>
        if changed ≠ 1 then
          fail "AGENT_RUN_IDENTITY_CONFLICT" "Run 标识已属于另一个 Agent 实例"
        else pure ()) s := by
    rw [RunRepository.upsert, read_bind_run, if_pos hany]
  have hchecks := check_put_runs hs hkeys
  constructor
  · intro hchk
    have hput : (runTable.put s (updateWhere guard (fun _ => run) s.agentRuns)).check = true := by
      exact hchecks.mpr (forall_mem_updateWhere (fun _ _ _ => hchk) ((check_put_runs hs rfl).mp hs))
    refine ⟨_, ?_, hput, .put ..⟩
    rw [hrun, bind_run_of_ok (update_eq_ok.mpr ⟨hput, hone.symm, rfl⟩)]
    rfl
  · rintro ⟨_, _, h⟩
    rw [hrun] at h
    obtain ⟨_, s1, hupd, _⟩ := bind_eq_ok.mp h
    obtain ⟨hacc, _, _⟩ := update_eq_ok.mp hupd
    exact hchecks.mp hacc run (mem_updateWhere.mpr ⟨current, hsto, .inl ⟨hg, rfl⟩⟩)

namespace ActivityProjection

/-- An update of one presentation row succeeds if the row is there. -/
theorem advanceWhere_run (hs : s.check = true) (guard : PresentationRow → Bool)
    (change : PresentationRow → PresentationRow) {key : Text} {code message : String}
    (hpin : ∀ r, guard r = true → r.runKey = key) (hkeep : ∀ r, (change r).runKey = r.runKey)
    (hchk : ∀ r, guard r = true → r.check = true → (change r).check = true)
    (hrow : row ∈ s.runPresentation) (hg : guard row = true) :
    ∃ s', advanceWhere desktopSqlite guard change code message s = (.ok (), s') ∧
      s'.check = true ∧
      s' = presentationTable.put s (updateWhere guard change s.runPresentation) := by
  obtain ⟨_, _, hruns, _⟩ := check_iff.mp hs
  simp only [checkRuns, Bool.and_eq_true, tableCheck_iff] at hruns
  have hone : affected guard s.runPresentation = 1 := by
    have hle := hruns.2.2.affected_le_one hpin
    have hpos := affected_pos.mpr ⟨row, hrow, hg⟩
    omega
  have hput : (presentationTable.put s
      (updateWhere guard change s.runPresentation)).check = true := by
    refine (check_put_presentation hs (map_updateWhere hkeep _)).mpr fun r hr => ?_
    obtain ⟨r0, hr0, ⟨hyes, rfl⟩ | ⟨_, rfl⟩⟩ := mem_updateWhere.mp hr
    · exact hchk r0 hyes (hruns.2.1 r0 hr0).1
    · exact (hruns.2.1 r hr0).1
  refine ⟨_, ?_, hput, rfl⟩
  have hupd : updateOne desktopSqlite presentationTable (fun _ => guard) change s =
      (.ok true, presentationTable.put s (updateWhere guard change s.runPresentation)) :=
    (updateOne_eq_true (ε := AppError)).mpr ⟨hput, hone, rfl⟩
  exact bind_run_of_ok hupd

/-- One more revision of activity. -/
theorem advanced_check (runKey : Text) (now : Timestamp) (r : PresentationRow)
    (hg : (r.runKey == runKey && decide (r.activityRevision < maxRevision)) = true)
    (hchk : r.check = true) : PresentationRow.check
      { r with
        activityRevision := r.activityRevision + 1, updatedAt := max r.updatedAt now } = true := by
  simp only [PresentationRow.check, Bool.and_eq_true, decide_eq_true_eq] at hg hchk ⊢
  omega

variable {runKey : Text}

section

variable (hs : s.check = true) (now : Timestamp) (hrun : ∃ run ∈ s.agentRuns, run.runKey = runKey)

include hs now hrun

/-- A run without a row gets one with nothing seen yet. -/
theorem ensure_run : ∃ s', ensure desktopSqlite runKey now s = (.ok (), s') ∧ s'.check = true ∧
      Only presentationTable s s' ∧
      (∃ r ∈ s'.runPresentation, r.runKey = runKey) ∧
      (∀ r ∈ s.runPresentation, r ∈ s'.runPresentation) ∧
      ∀ r ∈ s'.runPresentation, r ∈ s.runPresentation ∨
        (r.activityRevision = 0 ∧ r.attentionRevision = 0) := by
  let fresh : PresentationRow := ⟨runKey, [], 0, 0, 0, none, none, none, 0, now⟩
  by_cases hany : (s.runPresentation.any fun r => r.runKey == runKey) = true
  · have hins : (insertUnless desktopSqlite presentationTable
        (fun r => r.runKey == runKey) fresh : Desk Nat) s = (.ok 0, s) :=
      insertUnless_eq_ok.mpr (.inl ⟨hany, rfl, rfl⟩)
    refine ⟨s, bind_run_of_ok hins, hs, .refl _ _, ?_, fun _ hr => hr, fun r => .inl⟩
    obtain ⟨r, hr, hkey⟩ := any_eq_true.mp hany
    exact ⟨r, hr, beq_iff_eq.mp hkey⟩
  have hnew : ∀ r ∈ s.runPresentation, r.runKey ≠ fresh.runKey := by
    intro r hr hkey
    exact hany (any_eq_true.mpr ⟨r, hr, beq_iff_eq.mpr hkey⟩)
  have hput : (presentationTable.put s (s.runPresentation ++ [fresh])).check = true :=
    check_insert_presentation hs rfl hrun hnew
  have hins : (insertUnless desktopSqlite presentationTable
      (fun r => r.runKey == runKey) fresh : Desk Nat) s =
      (.ok 1, presentationTable.put s (s.runPresentation ++ [fresh])) :=
    insertUnless_eq_ok.mpr (.inr ⟨Bool.eq_false_of_not_eq_true hany, rfl, hput, rfl⟩)
  refine ⟨_, bind_run_of_ok hins, hput, .put .., ⟨fresh, ?_, rfl⟩, ?_, ?_⟩
  · exact mem_append_right _ (mem_singleton_self _)
  · exact fun r => mem_append_left _
  · exact forall_mem_snoc (fun _ => .inl) (.inr ⟨rfl, rfl⟩)

/-- The activity of a run can be counted up to the last revision. -/
theorem advance_run
    (hbound : ∀ r ∈ s.runPresentation, r.runKey = runKey → r.activityRevision < maxRevision) :
    ∃ s', advance desktopSqlite runKey now s = (.ok (), s') ∧ s'.check = true ∧
      Only presentationTable s s' := by
  obtain ⟨s1, hensure, hs1, honly, ⟨row, hrow, hkey⟩, _, hrows⟩ := ensure_run hs now hrun
  have hrev : row.activityRevision < maxRevision := by
    rcases hrows row hrow with hold | ⟨hzero, _⟩
    · exact hbound row hold hkey
    · rw [hzero]
      decide
  have hg : (row.runKey == runKey && decide (row.activityRevision < maxRevision)) = true := by
    simp [hkey, hrev]
  obtain ⟨s2, hadv, hs2, hput⟩ := advanceWhere_run hs1
    (fun r => r.runKey == runKey && r.activityRevision < maxRevision) (fun r =>
      { r with activityRevision := r.activityRevision + 1, updatedAt := max r.updatedAt now })
    (fun r hr => beq_iff_eq.mp (Bool.and_eq_true_iff.mp hr).1) (fun _ => rfl)
    (advanced_check runKey now) hrow hg
  refine ⟨s2, ?_, hs2, Only.trans _ s s1 s2 honly ⟨_, hput⟩⟩
  unfold advance
  rw [bind_run_of_ok hensure]
  exact hadv

end

/-- A presentation moves on only below the bound. -/
theorem bound_of_advance (hs : s.check = true) {now : Timestamp}
    (hrun : ∃ run ∈ s.agentRuns, run.runKey = runKey)
    (h : Succeeds (advance desktopSqlite runKey now) s) :
    ∀ r ∈ s.runPresentation, r.runKey = runKey → r.activityRevision < maxRevision := by
  obtain ⟨s1, hensure, hs1, _, _, hkept, _⟩ := ensure_run hs now hrun
  obtain ⟨_, s2, h⟩ := (succeeds_bind_of_ok hensure).mp h
  obtain ⟨s3, hupd, _⟩ := bind_unless_eq_ok.mp h
  obtain ⟨_, hone, _⟩ := updateOne_eq_true.mp hupd
  obtain ⟨row, hrow, hg⟩ := affected_pos.mp (Nat.lt_of_lt_of_eq Nat.zero_lt_one hone.symm)
  obtain ⟨hkey, hrev⟩ := Bool.and_eq_true_iff.mp hg
  intro r hr hrunKey
  obtain ⟨_, _, hruns, _⟩ := check_iff.mp hs1
  simp only [checkRuns, Bool.and_eq_true, tableCheck_iff] at hruns
  have hsame : r = row :=
    hruns.2.2.eq_of_key (hkept r hr) hrow (hrunKey.trans (beq_iff_eq.mp hkey).symm)
  rw [hsame]
  exact of_decide_eq_true hrev

end ActivityProjection

/-! ### Results -/

/-- The result of a run that a notice shows. -/
def OutputRepository.storedResult (tools : Tools) (runKey : Text) (observedAfter : Timestamp)
    (s : DesktopStore) : Except AppError (Option StoredResultContent) :=
  match latestOutput runKey observedAfter s with
  | none => .ok none
  | some row => (readOutput tools row).map some

/-- The lookup as a function of the store. -/
theorem latestResultForRun_run (tools : Tools) (runKey : Text) (observedAfter : Timestamp) :
    latestResultForRun tools runKey observedAfter s =
      lift (storedResult tools runKey observedAfter s) s := by
  unfold latestResultForRun storedResult
  rw [read_bind_run]
  cases latestOutput runKey observedAfter s with
  | none => rfl
  | some row =>
    dsimp only
    cases readOutput tools row <;> rfl

/-! ### Notices -/

/-- There is room for one more record with so many bytes of content. -/
def DesktopStore.roomFor (s : DesktopStore) (contentBytes : Nat) : Bool :=
  contentBytes ≤ i64Max && hasCapacity s.retentionCounters contentBytes

/-- The check succeeds exactly where there is room. -/
theorem checkCapacity_run {contentBytes : Nat} :
    (s.roomFor contentBytes = true → checkCapacity contentBytes s = (.ok (), s)) ∧
      (Succeeds (checkCapacity contentBytes) s →
        s.roomFor contentBytes = true) := by
  rw [roomFor, Bool.and_eq_true, decide_eq_true_eq]
  unfold checkCapacity
  constructor
  · rintro ⟨hbytes, hcap⟩
    rw [read_bind_run, if_neg (by omega), if_neg (by simp [hcap])]
    rfl
  intro h
  rw [succeeds_read_bind] at h
  split at h
  · exact absurd h (not_succeeds_reject _ _)
  split at h
  · exact absurd h (not_succeeds_reject _ _)
  · rename_i hcap
    exact ⟨by omega, by simpa using hcap⟩

/-- What `insert_outbox` asks of a notice before it writes. -/
def NotificationInsert.admitted (tools : Tools) (input : NotificationInsert)
    (s : DesktopStore) : Bool :=
  (input.payload.validateForKind tools.hashes input.kind).isOk &&
    ((s.notificationOutbox.any fun r => r.dedupeKey == input.dedupeKey) ||
      s.roomFor input.payload.contentBytes) &&
    (input.kind.policyProtected == input.contentPolicyHash.any isPolicyHash) &&
    (tools.crypto.protectPayload input.payload).isOk

/-- The store is as it was, or has one more notice. -/
def NoticeAdded (s s' : DesktopStore) : Prop :=
  s' = s ∨ ∃ row, s' = withNotice row s

/-- Recording a notice about a known run never fails. -/
theorem recordNotice_run (hs : s.check = true) (row : OutboxRow)
    (hrun : ∀ key, row.agentRunKey = some key → ∃ run ∈ s.agentRuns, run.runKey = key) :
    ∃ b s', recordNotice desktopSqlite row s = (.ok b, s') ∧ s'.check = true ∧
      NoticeAdded s s' := by
  unfold recordNotice
  rw [read_bind_run]
  cases hignored : s.ignoresNotice row with
  | true => exact ⟨false, s, rfl, hs, .inl rfl⟩
  | false =>
    have hput := check_withNotice hs hrun hignored
    exact ⟨true, _, bind_run_of_ok (execute_run_of_accepts hput), hput, .inr ⟨row, rfl⟩⟩

theorem isOk_iff {ε : Type} {x : Except ε α} : x.isOk = true ↔ ∃ a, x = .ok a := by
  cases x <;> simp [Except.toBool]

variable {tools : Tools} {input : NotificationInsert}

/-- Nor does inserting an admitted notice. -/
theorem insertOutbox_run (hs : s.check = true)
    (hrun : ∀ key, input.agentRunKey = some key → ∃ run ∈ s.agentRuns, run.runKey = key)
    (hadm : input.admitted tools s = true) :
    ∃ b s', OutboxRepository.insertOutbox desktopSqlite tools input s = (.ok b, s') ∧
      s'.check = true ∧ NoticeAdded s s' := by
  simp only [NotificationInsert.admitted, Bool.and_eq_true, isOk_iff, beq_iff_eq] at hadm
  obtain ⟨⟨⟨⟨_, hvalid⟩, hroom⟩, hpol⟩, json, hprotect⟩ := hadm
  have hcap : onlyIf (!s.notificationOutbox.any fun r => r.dedupeKey == input.dedupeKey)
      (checkCapacity input.payload.contentBytes) s = (.ok (), s) := by
    cases hany : s.notificationOutbox.any fun r => r.dedupeKey == input.dedupeKey with
    | true => rfl
    | false =>
      rw [hany, Bool.false_or] at hroom
      exact checkCapacity_run.1 hroom
  obtain ⟨b, s', hrec, hkept⟩ := recordNotice_run hs (input.row tools.hashes json) hrun
  refine ⟨b, s', ?_, hkept⟩
  unfold OutboxRepository.insertOutbox
  rw [hvalid, bind_run_of_ok (show lift (.ok _) s = (.ok _, s) from rfl),
    read_bind_run, bind_run_of_ok hcap, if_neg (by simp [hpol]), hprotect]
  exact hrec

/-- Where the insertion succeeds, the notice was admitted. -/
theorem admitted_of_insertOutbox
    (h : Succeeds (OutboxRepository.insertOutbox desktopSqlite tools input) s) :
    input.admitted tools s = true := by
  obtain ⟨u, hvalid, h⟩ := succeeds_lift.mp h
  rw [succeeds_read_bind] at h
  obtain ⟨v, s1, hcap, h⟩ := succeeds_bind.mp h
  have hroom : ((s.notificationOutbox.any fun r => r.dedupeKey == input.dedupeKey) ||
      s.roomFor input.payload.contentBytes) = true := by
    cases hany : s.notificationOutbox.any fun r => r.dedupeKey == input.dedupeKey with
    | true => rfl
    | false =>
      rw [hany] at hcap
      exact checkCapacity_run.2 ⟨v, s1, hcap⟩
  split at h
  · exact absurd h (not_succeeds_reject _ _)
  rename_i hpol
  obtain ⟨json, hprotect, _⟩ := succeeds_lift.mp h
  simp only [NotificationInsert.admitted, Bool.and_eq_true, isOk_iff]
  exact ⟨⟨⟨⟨u, hvalid⟩, hroom⟩, by simpa using hpol⟩, json, hprotect⟩

end

end PromptDock.Desktop
