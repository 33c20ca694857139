import PromptDock.OutboxRuns

/-!
# Enqueue requests over whole runs

A device, the inbound worker and the admin console ask the outbox to take a
notification.  Each request names its notification twice, by a notification id
and by a dedupe key, and both are unique among the rows of its origin.  A valid
request meets one of three situations, and `enqueue_requests_are_idempotent`
says how it is answered in each: it was accepted before, it collides with
something else, or it is new.

A request is checked before anything is looked up, and the check compares its
expiry with the clock.  A request that was accepted and is sent again after its
expiry is therefore refused and not recognised
(`late_request_is_not_recognised`).
-/

namespace PromptDock

open RowTable TableStatement LabelledRun StoreAction.Action List

/-- A row that joins the outbox needs an id and, within its origin, names of its
own. -/
theorem RelayStore.check_append_iff {s : RelayStore} (hchk : s.check = true) {row : OutboxRow} :
    ({ s with notificationOutbox := s.notificationOutbox ++ [row] } : RelayStore).check = true ↔
      row.check = true ∧ row.originDeviceId.all s.hasDevice = true ∧
        ∀ r ∈ s.notificationOutbox, r.id ≠ row.id ∧
          (r.originKey = row.originKey →
            r.notificationId ≠ row.notificationId ∧ r.dedupeKey ≠ row.dedupeKey) := by
  have huniq : ∀ {κ : Type} {key : OutboxRow → κ}, KeysUnique key s.notificationOutbox →
      (((s.notificationOutbox ++ [row]).map key).Nodup ↔
        ∀ r ∈ s.notificationOutbox, key r ≠ key row) :=
    fun hu => ⟨KeysUnique.key_new, KeysUnique.append hu⟩
  have hs := RelayStore.valid_of_check hchk
  simp only [RelayStore.check, RelayStore.checkOutbox, Bool.and_eq_true, distinct_iff_nodup]
    at hchk ⊢
  obtain ⟨⟨⟨⟨hdevs, ⟨⟨⟨hrows, _⟩, _⟩, _⟩, hrefs⟩, hinb⟩, hconf⟩, hsel⟩ := hchk
  rw [huniq hs.outboxIds, huniq hs.outboxNotifications, huniq hs.outboxDedupeKeys,
    all_append, all_append]
  constructor
  · rintro ⟨⟨⟨⟨_, ⟨⟨⟨hrow, hids⟩, hnames⟩, hdedupes⟩, hdev⟩, _⟩, _⟩, _⟩
    simp only [Bool.and_eq_true, all_cons, all_nil, Bool.and_true] at hrow hdev
    exact ⟨hrow.2, hdev.2, fun r hr => ⟨hids r hr, fun horig =>
      ⟨fun h => hnames r hr (by rw [horig, h]), fun h => hdedupes r hr (by rw [horig, h])⟩⟩⟩
  rintro ⟨hrow, hdev, hfree⟩
  refine ⟨⟨⟨⟨hdevs, ⟨⟨⟨?_, fun r hr => (hfree r hr).1⟩, fun r hr h => ?_⟩, fun r hr h => ?_⟩, ?_⟩,
    hinb⟩, hconf⟩, hsel⟩
  · simp [hrow, hrows]
  · exact ((hfree r hr).2 (Prod.mk.inj h).1).1 (Prod.mk.inj h).2
  · exact ((hfree r hr).2 (Prod.mk.inj h).1).2 (Prod.mk.inj h).2
  · rw [Bool.and_eq_true, all_cons, all_nil, Bool.and_true]
    exact ⟨hrefs, hdev⟩

/-- A request to take a notification. -/
inductive EnqueueRequest where
  | device (deviceId : Uuid) (notification : RelayNotificationV1)
  | systemReply (reply : InteractiveReplyV1)
  | adminTest (testId : Uuid)

namespace EnqueueRequest

/-- Who asks. -/
def origin : EnqueueRequest → OutboxOrigin
  | .device deviceId _ => .device deviceId
  | .systemReply _ => .systemInteractive
  | .adminTest _ => .admin

/-- What is asked for. -/
def notification (acceptedAt : Timestamp) : EnqueueRequest → RelayNotificationV1
  | .device _ notification => notification
  | .systemReply reply => reply.notification
  | .adminTest testId => adminTestNotification testId acceptedAt

/-- The account that the notification is for, if one is named. -/
def target : EnqueueRequest → Option String
  | .systemReply reply => some reply.targetAccountFingerprint
  | .device _ _ | .adminTest _ => none

def sensitiveBody : EnqueueRequest → Bool
  | .systemReply reply => reply.sensitiveBody
  | .device _ _ | .adminTest _ => false

/-- The checks made before `stage_origin_in`. -/
def admissible : EnqueueRequest → Bool
  | .device _ notification => notification.kind != "interactive_reply"
  | .systemReply reply => isAccountFingerprint reply.targetAccountFingerprint
  | .adminTest _ => true

/-- The request passes all checks. -/
def valid (request : EnqueueRequest) (acceptedAt : Timestamp) : Bool :=
  request.admissible && validateNotification (request.notification acceptedAt) acceptedAt

/-- The hash of what is asked for. -/
def payloadHash (blake3 : Blake3) (request : EnqueueRequest) (acceptedAt : Timestamp) : String :=
  payloadHashWithTarget blake3 (request.notification acceptedAt) request.target

/-- The row that the request enters. -/
def row (blake3 : Blake3) (request : EnqueueRequest) (rowId : Uuid) (acceptedAt : Timestamp) :
    OutboxRow :=
  stagedRow blake3 rowId request.origin (request.notification acceptedAt) request.target
    request.sensitiveBody acceptedAt

/-- The row is of the request's origin and has one of its two names. -/
def collidesWith (request : EnqueueRequest) (acceptedAt : Timestamp) (r : OutboxRow) : Bool :=
  collides request.origin (request.notification acceptedAt) r

/-- The row is of the request's origin and has its two names and its payload. -/
def repeats (blake3 : Blake3) (request : EnqueueRequest) (acceptedAt : Timestamp)
    (r : OutboxRow) : Bool :=
  r.originKey == request.origin.key &&
    r.notificationId == (request.notification acceptedAt).notificationId &&
    r.dedupeKey == (request.notification acceptedAt).dedupeKey &&
    r.payloadHash == request.payloadHash blake3 acceptedAt

/-- Carry the request out. -/
def run (engine : RelayEngine) (blake3 : Blake3) (request : EnqueueRequest) (rowId : Uuid)
    (acceptedAt : Timestamp) : Relay OutboxError AcceptedNotification :=
  match request with
  | .device deviceId notification =>
    OutboxService.enqueueDeviceAt engine blake3 rowId deviceId notification acceptedAt
  | .systemReply reply => OutboxService.enqueueSystemReplyAt engine blake3 rowId reply acceptedAt
  | .adminTest testId => OutboxService.enqueueAdminTestAt engine blake3 rowId testId acceptedAt

section

variable {engine : RelayEngine} {blake3 : Blake3} {request : EnqueueRequest} {rowId : Uuid}
  {acceptedAt : Timestamp} {s : RelayStore}

/-- What an admissible request does. -/
def stage (engine : RelayEngine) (blake3 : Blake3) (request : EnqueueRequest) (rowId : Uuid)
    (acceptedAt : Timestamp) : Relay OutboxError AcceptedNotification :=
  stageOriginIn engine blake3 rowId request.origin (request.notification acceptedAt)
    request.target request.sensitiveBody acceptedAt

/-- An admissible request is staged in one transaction. -/
theorem run_eq (h : request.admissible = true) : request.run engine blake3 rowId acceptedAt =
      allOrNothing (request.stage engine blake3 rowId acceptedAt) := by
  rw [← transaction_commit]
  cases request with
  | device deviceId notification =>
    have hkind : ¬ (notification.kind == "interactive_reply") = true := by
      simpa [admissible] using h
    simp only [run, OutboxService.enqueueDeviceAt, if_neg hkind]
    rfl
  | systemReply reply =>
    have htarget : isAccountFingerprint reply.targetAccountFingerprint = true := h
    have hstage : OutboxService.stageSystemReplyIn engine blake3 rowId reply acceptedAt =
        (EnqueueRequest.systemReply reply).stage engine blake3 rowId acceptedAt := by
      simp only [OutboxService.stageSystemReplyIn, htarget]
      rfl
    simp [run, OutboxService.enqueueSystemReplyAt, hstage]
  | adminTest => rfl

/-- The answer to a request that collides with what is stored. -/
def onCollision (request : EnqueueRequest) (blake3 : Blake3) (acceptedAt : Timestamp)
    (rows : List OutboxRow) : Relay OutboxError AcceptedNotification :=
  match rows.filter (request.collidesWith acceptedAt) with
  | [existing] =>
    if existing.notificationId == (request.notification acceptedAt).notificationId &&
        existing.dedupeKey == (request.notification acceptedAt).dedupeKey &&
        existing.payloadHash == request.payloadHash blake3 acceptedAt then
      pure ⟨(request.notification acceptedAt).notificationId, "accepted", true, existing.createdAt⟩
    else
      reject .idempotencyConflict
  | _ => reject .idempotencyConflict

/-- What an admissible request that passes the check does. -/
theorem stage_eq (hvalid : request.valid acceptedAt = true) :
    request.stage engine blake3 rowId acceptedAt = (do
      let inserted ← insertUnless engine RelayStore.outboxTable (request.collidesWith acceptedAt)
        (request.row blake3 rowId acceptedAt)
      if inserted == 1 then
        pure ⟨(request.notification acceptedAt).notificationId, "accepted", false, acceptedAt⟩
      else
        let s ← read
        request.onCollision blake3 acceptedAt s.notificationOutbox) := by
  simp only [valid, Bool.and_eq_true] at hvalid
  simp only [stage, stageOriginIn, hvalid.2]
  rfl

/-- A repeat is a collision with the same contents. -/
theorem repeats_iff {r : OutboxRow} : request.repeats blake3 acceptedAt r = true ↔
      request.collidesWith acceptedAt r = true ∧
        (r.notificationId == (request.notification acceptedAt).notificationId &&
          r.dedupeKey == (request.notification acceptedAt).dedupeKey &&
          r.payloadHash == request.payloadHash blake3 acceptedAt) = true := by
  simp only [repeats, collidesWith, collides, Bool.and_eq_true, Bool.or_eq_true]
  constructor
  · intro h
    exact ⟨⟨h.1.1.1, .inl h.1.1.2⟩, ⟨h.1.1.2, h.1.2⟩, h.2⟩
  · intro h
    exact ⟨⟨⟨h.1.1, h.2.1.1⟩, h.2.1.2⟩, h.2.2⟩

section

variable (hvalid : request.valid acceptedAt = true) {r : OutboxRow}
  (hr : r ∈ s.notificationOutbox)

include hvalid hr

/-- Nothing is inserted beside a row that collides. -/
theorem stage_of_collides (hcoll : request.collidesWith acceptedAt r = true) :
    request.stage engine blake3 rowId acceptedAt s =
      request.onCollision blake3 acceptedAt s.notificationOutbox s := by
  have hins : (insertUnless engine RelayStore.outboxTable (request.collidesWith acceptedAt)
      (request.row blake3 rowId acceptedAt) : Relay OutboxError Nat) s = (.ok 0, s) := by
    refine insertUnless_eq_ok.mpr (.inl ⟨?_, rfl, rfl⟩)
    exact any_eq_true.mpr ⟨r, hr, hcoll⟩
  rw [stage_eq hvalid, bind_run_of_ok hins]
  rfl

/-- A request that was accepted before is recognised. -/
theorem stage_of_repeats (hs : s.Valid) (hrepeats : request.repeats blake3 acceptedAt r = true) :
    request.stage engine blake3 rowId acceptedAt s =
      (.ok ⟨(request.notification acceptedAt).notificationId, "accepted", true, r.createdAt⟩,
        s) := by
  obtain ⟨hcoll, hsame⟩ := repeats_iff.mp hrepeats
  have honly : s.notificationOutbox.filter (request.collidesWith acceptedAt) = [r] := by
    refine hs.outboxIds.filter_eq_singleton hr hcoll fun r' hr' hcoll' => ?_
    -- the row shares one of its two names with `r`, and each of them is unique
    simp only [Bool.and_eq_true, beq_iff_eq] at hsame
    simp only [collidesWith, collides, Bool.and_eq_true, Bool.or_eq_true, beq_iff_eq]
      at hcoll hcoll'
    have horig : r'.originKey = r.originKey := hcoll'.1.trans hcoll.1.symm
    rcases hcoll'.2 with hname | hname
    · have hkey : (r'.originKey, r'.notificationId) = (r.originKey, r.notificationId) := by
        rw [horig, hname, hsame.1.1]
      rw [hs.outboxNotifications.eq_of_key hr' hr hkey]
    · have hkey : (r'.originKey, r'.dedupeKey) = (r.originKey, r.dedupeKey) := by
        rw [horig, hname, hsame.1.2]
      rw [hs.outboxDedupeKeys.eq_of_key hr' hr hkey]
  rw [stage_of_collides hvalid hr hcoll, onCollision, honly]
  simp only [hsame]
  rfl

/-- A request that collides with something else is refused. -/
theorem stage_of_conflict (hcoll : request.collidesWith acceptedAt r = true)
    (hoth : request.repeats blake3 acceptedAt r = false) :
    request.stage engine blake3 rowId acceptedAt s =
      (.error (.rejected .idempotencyConflict), s) := by
  rw [stage_of_collides hvalid hr hcoll, onCollision]
  have hmem : r ∈ s.notificationOutbox.filter (request.collidesWith acceptedAt) :=
    mem_filter.mpr ⟨hr, hcoll⟩
  rcases hfilter : s.notificationOutbox.filter (request.collidesWith acceptedAt) with
    _ | ⟨existing, _ | ⟨_, _⟩⟩
  · rfl
  · rw [hfilter, mem_singleton] at hmem
    subst hmem
    have hdiffers : ¬ (r.notificationId == (request.notification acceptedAt).notificationId &&
        r.dedupeKey == (request.notification acceptedAt).dedupeKey &&
        r.payloadHash == request.payloadHash blake3 acceptedAt) = true := by
      intro hsame
      rw [repeats_iff.mpr ⟨hcoll, hsame⟩] at hoth
      cases hoth
    simp only [if_neg hdiffers]
    rfl
  · rfl

end

/-- A new request enters one row, unless the statement is refused. -/
theorem stage_of_new (hvalid : request.valid acceptedAt = true)
    (hnew : ∀ r ∈ s.notificationOutbox, request.collidesWith acceptedAt r = false) :
    request.stage engine blake3 rowId acceptedAt s =
      if engine.accepts { s with
          notificationOutbox := s.notificationOutbox ++ [request.row blake3 rowId acceptedAt] } then
        (.ok ⟨(request.notification acceptedAt).notificationId, "accepted", false, acceptedAt⟩,
          { s with
            notificationOutbox := s.notificationOutbox ++ [request.row blake3 rowId acceptedAt] })
      else (.error .statement, s) := by
  have hnone : s.notificationOutbox.any (request.collidesWith acceptedAt) = false := by
    rw [any_eq_false]
    exact fun r hr => by simp [hnew r hr]
  rw [stage_eq hvalid]
  by_cases hacc : engine.accepts { s with
      notificationOutbox := s.notificationOutbox ++ [request.row blake3 rowId acceptedAt] } = true
  · have hins : (insertUnless engine RelayStore.outboxTable (request.collidesWith acceptedAt)
        (request.row blake3 rowId acceptedAt) : Relay OutboxError Nat) s = (.ok 1, { s with
          notificationOutbox := s.notificationOutbox ++ [request.row blake3 rowId acceptedAt] }) :=
      insertUnless_eq_ok.mpr (.inr ⟨hnone, rfl, hacc, rfl⟩)
    rw [bind_run_of_ok hins, if_pos hacc]
    rfl
  · have href : (insertUnless engine RelayStore.outboxTable (request.collidesWith acceptedAt)
        (request.row blake3 rowId acceptedAt) : Relay OutboxError Nat) s =
        (.error .statement, s) := by
      simp only [insertUnless, read_bind_run]
      rw [show (RelayStore.outboxTable.rows s).any (request.collidesWith acceptedAt) = false from
        hnone]
      exact bind_eq_error.mpr (.inl (execute_eq_error.mpr ⟨Bool.not_eq_true _ ▸ hacc, rfl, rfl⟩))
    rw [bind_run, href, if_neg hacc]

/-! ## A new row and the schema -/

/-- The row of a valid request passes the row checks. -/
theorem row_check (blake3 : Blake3) (rowId : Uuid) (hvalid : request.valid acceptedAt = true) :
    (request.row blake3 rowId acceptedAt).check = true := by
  simp only [valid, validateNotification, charLengthBetween, Bool.and_eq_true,
    decide_eq_true_eq] at hvalid
  obtain ⟨hadm, hn⟩ := hvalid
  obtain ⟨⟨⟨⟨⟨⟨⟨⟨⟨⟨⟨⟨_, _⟩, _⟩, hkind⟩, hlow⟩, hhigh⟩, htitle⟩, hbody⟩,
    _⟩, _⟩, _⟩, hlater⟩, _⟩ := hn
  cases request with
  | device deviceId notification =>
    have hreply : notification.kind ≠ "interactive_reply" := by simpa [admissible] using hadm
    have hlink : notification.kind ≠ "result_link" := by
      intro heq
      simp only [EnqueueRequest.notification, heq] at hkind
      exact absurd hkind (by decide)
    simp_all [OutboxRow.check, row, stagedRow, origin, target, EnqueueRequest.notification,
      OutboxOrigin.kind, OutboxOrigin.key, OutboxOrigin.deviceId]
  | systemReply reply =>
    have htarget : isAccountFingerprint reply.targetAccountFingerprint = true := hadm
    have hsystem : likeSystem systemInteractiveOriginKey = true := by decide
    simp_all [OutboxRow.check, row, stagedRow, origin, target, EnqueueRequest.notification,
      OutboxOrigin.kind, OutboxOrigin.key, OutboxOrigin.deviceId, InteractiveReplyV1.notification]
  | adminTest =>
    simp_all [OutboxRow.check, row, stagedRow, origin, target, EnqueueRequest.notification,
      OutboxOrigin.kind, OutboxOrigin.key, OutboxOrigin.deviceId, adminTestNotification]

/-- The schema has room for a new request of a known device. -/
theorem check_append (hchk : s.check = true) (hvalid : request.valid acceptedAt = true)
    (hid : ∀ r ∈ s.notificationOutbox, r.id ≠ rowId)
    (hdev : request.origin.deviceId.all s.hasDevice = true)
    (hnew : ∀ r ∈ s.notificationOutbox, request.collidesWith acceptedAt r = false) :
    ({ s with notificationOutbox :=
        s.notificationOutbox ++ [request.row blake3 rowId acceptedAt] } : RelayStore).check =
      true := by
  refine (RelayStore.check_append_iff hchk).mpr
    ⟨row_check blake3 rowId hvalid, hdev, fun r hr => ⟨hid r hr, fun horig => ?_⟩⟩
  have hfree := hnew r hr
  simpa [collidesWith, collides, horig, row, stagedRow] using hfree

end

end EnqueueRequest

/-! ## Whole runs -/

/-- The schema holds, and the ids of the rows were drawn. -/
structure OutboxWorld.Numbered (w : OutboxWorld) : Prop where
  check : w.store.check = true
  ids : ∀ r ∈ w.rows, r.id ∈ w.drawn

/-- A new row has an id that was drawn. -/
theorem OutboxOp.entry_drawn {blake3 : Blake3} {op : OutboxOp} {r : OutboxRow}
    (h : op.entry blake3 = some r) : r.id ∈ op.draws := by
  cases op <;> cases h <;> exact mem_cons_self

/-- A step keeps the ids among those drawn. -/
theorem outboxStep_numbered {blake3 : Blake3} {w w' : OutboxWorld} {e : OutboxEvent}
    (h : OutboxStep blake3 w e w') (hw : w.Numbered) : w'.Numbered := by
  obtain ⟨_, happly, hdraw⟩ := outboxStep_iff.mp h
  have hstore : (e.op.action e.engine blake3 w.store).2 = w'.store := congrArg Prod.snd happly
  have hsteps : OutboxSteps (fun _ => True) (fun r => e.op.entry blake3 = some r) w.store
      w'.store := by
    rw [← hstore]
    exact e.op.action_steps e.engine blake3 (fun _ _ => trivial) (fun _ hr => hr) w.store
  refine ⟨hsteps.check hw.check, fun r hr => ?_⟩
  rw [hdraw, mem_append]
  rcases hsteps.row_ids r hr with ⟨r0, hr0, hid⟩ | ⟨r0, hent, hid⟩
  · exact .inr (hid ▸ hw.ids r0 hr0)
  · exact .inl (hid ▸ OutboxOp.entry_drawn hent)

/-- **Enqueue requests are idempotent.**  Whatever happened in the outbox, no
two rows of an origin share a notification id or a dedupe key.  A valid request
is answered `existing` exactly if a row of its origin has its two names and its
payload; the answer gives the time of that row and changes nothing.  If a row
of its origin has one of its names, but is no repetition, the request is
refused as a conflict and changes nothing.  Any other valid request of a known
device enters exactly one row. -/
theorem enqueue_requests_are_idempotent (blake3 : Blake3) {w₀ w : OutboxWorld}
    {events : List OutboxEvent} (hinit : w₀.Numbered) (hrun : Run (OutboxStep blake3) w₀ events w)
    (request : EnqueueRequest) (acceptedAt : Timestamp) (hvalid : request.valid acceptedAt = true)
    (rowId : Uuid) (hfresh : rowId ∉ w.drawn) :
    KeysUnique (fun r : OutboxRow => (r.originKey, r.notificationId)) w.rows ∧
    KeysUnique (fun r : OutboxRow => (r.originKey, r.dedupeKey)) w.rows ∧
    (∀ engine, (∃ accepted s', request.run engine blake3 rowId acceptedAt w.store =
        (.ok accepted, s') ∧ accepted.existing = true) ↔
      ∃ r ∈ w.rows, request.repeats blake3 acceptedAt r = true) ∧
    (∀ engine, ∀ r ∈ w.rows, request.repeats blake3 acceptedAt r = true →
      request.run engine blake3 rowId acceptedAt w.store =
        (.ok ⟨(request.notification acceptedAt).notificationId, "accepted", true, r.createdAt⟩,
          w.store)) ∧
    (∀ engine, ∀ r ∈ w.rows, request.collidesWith acceptedAt r = true →
      request.repeats blake3 acceptedAt r = false →
      request.run engine blake3 rowId acceptedAt w.store =
        (.error (.rejected .idempotencyConflict), w.store)) ∧
    ((∀ r ∈ w.rows, request.collidesWith acceptedAt r = false) →
      request.origin.deviceId.all w.store.hasDevice = true →
      request.run sqlite blake3 rowId acceptedAt w.store =
        (.ok ⟨(request.notification acceptedAt).notificationId, "accepted", false, acceptedAt⟩,
          { w.store with
            notificationOutbox := w.rows ++ [request.row blake3 rowId acceptedAt] })) := by
  have hw : w.Numbered := hrun.invariant (fun _ _ _ => outboxStep_numbered) hinit
  have hs : w.store.Valid := RelayStore.valid_of_check hw.check
  have hadmissible : request.admissible = true := by
    simp only [EnqueueRequest.valid, Bool.and_eq_true] at hvalid
    exact hvalid.1
  have hrepeated : ∀ engine, ∀ r ∈ w.rows, request.repeats blake3 acceptedAt r = true →
      request.run engine blake3 rowId acceptedAt w.store =
        (.ok ⟨(request.notification acceptedAt).notificationId, "accepted", true, r.createdAt⟩,
          w.store) := by
    intro engine r hr hrepeats
    rw [EnqueueRequest.run_eq hadmissible]
    exact allOrNothing_of_ok (EnqueueRequest.stage_of_repeats hvalid hr hs hrepeats)
  have hrefused : ∀ engine, ∀ r ∈ w.rows, request.collidesWith acceptedAt r = true →
      request.repeats blake3 acceptedAt r = false →
      request.run engine blake3 rowId acceptedAt w.store =
        (.error (.rejected .idempotencyConflict), w.store) := by
    intro engine r hr hcollides hother
    rw [EnqueueRequest.run_eq hadmissible]
    exact allOrNothing_of_error (EnqueueRequest.stage_of_conflict hvalid hr hcollides hother)
  refine ⟨hs.outboxNotifications, hs.outboxDedupeKeys, fun engine => ⟨?_, ?_⟩, hrepeated, hrefused,
    ?_⟩
  · rintro ⟨accepted, s', hanswer, hexisting⟩
    by_contra hnone
    by_cases hcollides : ∃ r ∈ w.rows, request.collidesWith acceptedAt r = true
    · obtain ⟨r, hr, hcollides⟩ := hcollides
      have hother : request.repeats blake3 acceptedAt r = false := by
        rw [← Bool.not_eq_true]
        exact fun hrepeats => hnone ⟨r, hr, hrepeats⟩
      rw [hrefused engine r hr hcollides hother] at hanswer
      cases hanswer
    have hnew : ∀ r ∈ w.rows, request.collidesWith acceptedAt r = false := by
      intro r hr
      rw [← Bool.not_eq_true]
      exact fun hyes => hcollides ⟨r, hr, hyes⟩
    have hstage := @EnqueueRequest.stage_of_new engine blake3 request rowId acceptedAt w.store
      hvalid hnew
    rw [EnqueueRequest.run_eq hadmissible] at hanswer
    split at hstage
    · rw [allOrNothing_of_ok hstage] at hanswer
      cases hanswer
      cases hexisting
    · rw [allOrNothing_of_error hstage] at hanswer
      cases hanswer
  · rintro ⟨r, hr, hrepeats⟩
    exact ⟨_, _, hrepeated engine r hr hrepeats, rfl⟩
  · intro hnew hdevice
    have hid : ∀ r ∈ w.rows, r.id ≠ rowId := by
      intro r hr hsame
      exact hfresh (hsame ▸ hw.ids r hr)
    have haccepts : sqlite.accepts { w.store with
        notificationOutbox := w.rows ++ [request.row blake3 rowId acceptedAt] } = true :=
      EnqueueRequest.check_append hw.check hvalid hid hdevice hnew
    have hstage := @EnqueueRequest.stage_of_new sqlite blake3 request rowId acceptedAt w.store
      hvalid hnew
    rw [if_pos haccepts] at hstage
    rw [EnqueueRequest.run_eq hadmissible]
    exact allOrNothing_of_ok hstage

/-- A notification that its sender stops waiting for after a second. -/
def sampleNotice : RelayNotificationV1 where
  schemaVersion := 1
  notificationId := "n1"
  dedupeKey := "d1"
  kind := "run_started"
  priority := 100
  title := "run"
  body := "started"
  correlationKey := none
  createdAt := 1000
  expiresAt := 2000

/-- A store with one device. -/
def sampleDeviceStore : RelayStore :=
  { RelayStore.empty with
    devices := [⟨100, "desktop", true, 0, none, [.notifyWrite]⟩] }

/-- The device enqueues the notification. -/
def sampleEnqueue : List OutboxEvent :=
  [⟨sqlite, .enqueueDevice 1 100 sampleNotice 1000, false⟩]

/-- The sample is a run. -/
theorem sampleEnqueue_replays :
    (replay (OutboxWorld.next .zero) ⟨sampleDeviceStore, []⟩ sampleEnqueue).isSome = true := by
  decide

/-- The outbox afterwards. -/
def sampleEnqueued : OutboxWorld :=
  (replay (OutboxWorld.next .zero) ⟨sampleDeviceStore, []⟩ sampleEnqueue).get sampleEnqueue_replays

/-- **A request that comes back after its expiry is not recognised**, although
its row is there, with its names and its payload. -/
theorem late_request_is_not_recognised :
    ∃ w : OutboxWorld, Run (OutboxStep .zero) ⟨sampleDeviceStore, []⟩ sampleEnqueue w ∧
      (∃ r ∈ w.rows, (EnqueueRequest.device 100 sampleNotice).repeats .zero 3000 r = true) ∧
      (EnqueueRequest.device 100 sampleNotice).run sqlite .zero 2 3000 w.store =
        (.error (.rejected .validation), w.store) :=
  ⟨sampleEnqueued, run_of_isSome sampleEnqueue_replays, by decide, by decide⟩

/-- The request comes back in time and is recognised. -/
theorem enqueue_requests_are_idempotent_sample :
    (EnqueueRequest.device 100 sampleNotice).run sqlite .zero 2 1500 sampleEnqueued.store =
      (.ok ⟨"n1", "accepted", true, 1000⟩, sampleEnqueued.store) :=
  (enqueue_requests_are_idempotent .zero ⟨by decide, by decide⟩
    (run_of_isSome sampleEnqueue_replays) (.device 100 sampleNotice) 1500 (by decide)
    2 (by decide)).2.2.2.1 sqlite
    (stagedRow .zero 1 (.device 100) sampleNotice none false 1000) (by decide) (by decide)

end PromptDock
