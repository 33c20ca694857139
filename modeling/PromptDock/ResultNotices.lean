import PromptDock.EnqueueRuns

/-!
# Notices of published results

`publish_once` (`results.rs`) enters a notice for each result.  Its row belongs to
the publishing device and has the dedupe key `result:<result id>`.  The
notifications that the device itself enqueues are rows of the same origin, and
they may have any dedupe key, so that one of them can take the key of a result
that is still to come.
-/

namespace PromptDock

open RowTable StoreAction TableStatement Action

/-- The notice of a result, with the dedupe key that `publish_once` gives it. -/
def ResultNotice.published (notice : ResultNotice) (resultId : String) : ResultNotice :=
  { notice with dedupeKey := "result:" ++ resultId }

/-- The store without the notifications that were enqueued as such. -/
def RelayStore.withoutOrdinary (s : RelayStore) : RelayStore :=
  { s with notificationOutbox := deleteWhere (fun r => r.bodyKind == .plain) s.notificationOutbox }

/-- The notice of the result enters the outbox. -/
def Publishes (rowId : Uuid) (notice : ResultNotice) (resultId : String) (now : Timestamp)
    (s : RelayStore) : Prop :=
  Succeeds (ResultService.insertPublishedNotice sqlite rowId (notice.published resultId) now) s

section

variable {s : RelayStore} {rowId : Uuid} {notice : ResultNotice} {resultId : String}
  {now : Timestamp}

/-- A notice is published exactly where its row passes the schema. -/
theorem publishes_iff : Publishes rowId notice resultId now s ↔
      ({ s with notificationOutbox := s.notificationOutbox ++
        [(notice.published resultId).row rowId now] } : RelayStore).check = true := by
  unfold Publishes Succeeds ResultService.insertPublishedNotice
  simp [insert_eq_ok, sqlite, Engine.faultless, RelayStore.outboxTable]

/-- Without ordinary notifications the schema still holds. -/
theorem withoutOrdinary_check (hchk : s.check = true) : s.withoutOrdinary.check = true := by
  have hkept : ∀ {p : OutboxRow → Bool}, s.notificationOutbox.all p = true →
      s.withoutOrdinary.notificationOutbox.all p = true := by
    simp only [List.all_eq_true]
    exact fun h r hr => h r (List.mem_of_mem_filter hr)
  simp only [RelayStore.check, RelayStore.checkOutbox, Bool.and_eq_true, distinct_iff_nodup]
    at hchk ⊢
  obtain ⟨⟨⟨⟨hdevs, ⟨⟨⟨hrows, hids⟩, hnames⟩, hdedupes⟩, hrefs⟩, hinb⟩, hconf⟩, hsel⟩ := hchk
  exact ⟨⟨⟨⟨hdevs, ⟨⟨⟨hkept hrows, KeysUnique.deleteWhere hids _⟩, KeysUnique.deleteWhere hnames _⟩,
    KeysUnique.deleteWhere hdedupes _⟩, hkept hrefs⟩, hinb⟩, hconf⟩, hsel⟩

/-- **A result is published unless a notification has its key.**  A publication
that succeeds when no ordinary notifications are stored, with ids that no row
has, succeeds exactly if no ordinary notification of its device has the dedupe
key of its notice. -/
theorem published_despite_notifications_iff (hcheck : s.check = true)
    (hfresh : ∀ r ∈ s.notificationOutbox,
      r.id ≠ rowId ∧ r.notificationId ≠ notice.notificationId.hyphenated)
    (halone : Publishes rowId notice resultId now s.withoutOrdinary) :
    Publishes rowId notice resultId now s ↔
      ∀ r ∈ s.notificationOutbox, r.bodyKind = .plain →
        r.originKey = "device:" ++ notice.deviceId.hyphenated →
          r.dedupeKey ≠ "result:" ++ resultId := by
  obtain ⟨hrow, hdevice, hothers⟩ :=
    (RelayStore.check_append_iff (withoutOrdinary_check hcheck)).mp (publishes_iff.mp halone)
  rw [publishes_iff, RelayStore.check_append_iff hcheck]
  constructor
  · rintro ⟨_, _, hfree⟩ r hr _ horigin
    exact ((hfree r hr).2 horigin).2
  intro hfree
  refine ⟨hrow, hdevice, fun r hr => ⟨(hfresh r hr).1, fun horigin => ⟨(hfresh r hr).2, ?_⟩⟩⟩
  cases hkind : r.bodyKind with
  | plain => exact hfree r hr hkind horigin
  | protectedResultLink =>
    have hr' : r ∈ s.withoutOrdinary.notificationOutbox := List.mem_filter.mpr ⟨hr, by simp [hkind]⟩
    exact ((hothers r hr').2 horigin).2

end

/-- The notice of a result of device 100. -/
def sampleResultNotice : ResultNotice where
  deviceId := 100
  resultRowId := 5
  notificationId := 6
  dedupeKey := ""
  payloadHash := ""
  target := "wx:0000000000000000000000000000000000000000000000000000000000000000"
  title := "run"
  ciphertext := []
  nonce := List.replicate 24 0
  expiresAt := 5000

/-- A notification with another key does not stand in the way. -/
theorem published_despite_notifications_sample :
    Publishes 7 sampleResultNotice "r1" 2000 sampleEnqueued.store :=
  (published_despite_notifications_iff (by decide) (by decide)
    (publishes_iff.mpr (by decide +kernel))).mpr (by decide)

/-- **A device can take the key of a result before it is published.**  The
notification is accepted, and the notice of the result breaks a unique key. -/
theorem notification_blocks_result : ∃ accepted s, OutboxService.enqueueDeviceAt sqlite .zero 1 100
        { sampleNotice with dedupeKey := "result:r1" } 1000 sampleDeviceStore = (.ok accepted, s) ∧
      Publishes 7 sampleResultNotice "r1" 2000 s.withoutOrdinary ∧
      ¬ Publishes 7 sampleResultNotice "r1" 2000 s :=
  ⟨_, _, rfl, publishes_iff.mpr (by decide +kernel),
    fun h => absurd (publishes_iff.mp h) (by decide +kernel)⟩

end PromptDock
