import PromptDock.RelayStore

/-!
# The relay's database

The relay store together with the two tables that only the result pages and
retention use: `results`, and `notification_bundles`, the queue that result
pages replaced.  The schema of the whole database holds the schema of the
store, so an engine for the database is an engine for its store.
-/

namespace PromptDock

open RowTable StoreAction TableStatement

/-- One row of `results`.  Kind, content mode and source are fixed by the
table's checks. -/
structure ResultRow where
  (id originDeviceId : Uuid)
  (originKey resultId dedupeKey : String)
  requestDigest : List UInt8
  (correlationKey resultRevision safeTitle : String)
  (bodyCiphertext bodyNonce : Option (List UInt8))
  bodyBytes : Int
  sourceHash : String
  (startedAt completedAt : Option Timestamp)
  durationMs : Option Int
  (acceptedAt createdAt pageExpiresAt bodyRetainUntil : Timestamp)
  (bodyPurgedAt revokedAt : Option Timestamp)
  (initialNotificationId currentNotificationId : String)
  notificationStatus : Option OutboxStatus
  updatedAt : Timestamp

/-- A body is stored encrypted with its nonce until it is purged. -/
def bodyStored (purgedAt : Option Timestamp) (ciphertext nonce : Option (List UInt8)) : Bool :=
  if purgedAt.isNone then
    -- the length of a missing nonce is NULL, which a check lets pass
    ciphertext.isSome && nonce.all fun bytes => bytes.length == 24
  else ciphertext.isNone && nonce.isNone

/-- `length(value) BETWEEN low AND high`. -/
def lengthBetween (low high : Nat) (value : String) : Bool :=
  low ≤ value.length && value.length ≤ high

/-- The row checks of `results`. -/
def ResultRow.check (r : ResultRow) : Bool :=
  lengthBetween 1 128 r.resultId && lengthBetween 1 256 r.dedupeKey &&
  r.requestDigest.length == 32 && lengthBetween 1 128 r.correlationKey &&
  lengthBetween 1 20 r.resultRevision && r.resultRevision.toList.all Char.isDigit &&
  lengthBetween 1 128 r.safeTitle && 0 ≤ r.bodyBytes && r.bodyBytes ≤ 262144 &&
  isHexDigest r.sourceHash && r.notificationStatus.isSome &&
  r.originKey == "device:" ++ r.originDeviceId.hyphenated &&
  r.acceptedAt < r.pageExpiresAt && r.pageExpiresAt ≤ r.bodyRetainUntil &&
  bodyStored r.bodyPurgedAt r.bodyCiphertext r.bodyNonce

/-- `notification_bundles.status`. -/
inductive BundleStatus where
  | queued | delivering | partialFailed | providerAccepted | expired | blockedTargetChanged
  | deliveryUnknown
deriving DecidableEq

/-- One row of `notification_bundles`, as far as retention reads it. -/
structure BundleRow where
  (id originDeviceId : Uuid)
  (bodyCiphertext bodyNonce : Option (List UInt8))
  status : BundleStatus
  (acceptedAt createdAt expiresAt updatedAt bodyRetainUntil : Timestamp)
  bodyPurgedAt : Option Timestamp

/-- The row checks of `notification_bundles` on these columns. -/
def BundleRow.check (r : BundleRow) : Bool :=
  r.createdAt < r.expiresAt && r.acceptedAt ≤ r.updatedAt && r.acceptedAt ≤ r.bodyRetainUntil &&
  bodyStored r.bodyPurgedAt r.bodyCiphertext r.bodyNonce

/-- The tables of the database. -/
structure RelayDatabase where
  relay : RelayStore
  results : List ResultRow
  notificationBundles : List BundleRow

namespace RelayDatabase

def resultTable : Table RelayDatabase ResultRow where
  rows s := s.results
  put s rows := { s with results := rows }

def bundleTable : Table RelayDatabase BundleRow where
  rows s := s.notificationBundles
  put s rows := { s with notificationBundles := rows }

/-- Primary key, unique indexes and references of `results`. -/
def checkResults (s : RelayDatabase) : Bool :=
  s.results.all ResultRow.check &&
  distinct (s.results.map ResultRow.id) &&
  distinct (s.results.map fun r => (r.originKey, r.resultId)) &&
  distinct (s.results.map fun r => (r.originKey, r.dedupeKey)) &&
  s.results.all fun r => s.relay.hasDevice r.originDeviceId

/-- Primary key and references of `notification_bundles`. -/
def checkBundles (s : RelayDatabase) : Bool :=
  s.notificationBundles.all BundleRow.check &&
  distinct (s.notificationBundles.map BundleRow.id) &&
  s.notificationBundles.all fun r => s.relay.hasDevice r.originDeviceId

/-- The schema of the database. -/
def check (s : RelayDatabase) : Bool :=
  s.relay.check && s.checkResults && s.checkBundles

/-- What the schema says about keys, as propositions. -/
structure Valid (s : RelayDatabase) : Prop where
  relay : s.relay.Valid
  resultIds : KeysUnique ResultRow.id s.results
  bundleIds : KeysUnique BundleRow.id s.notificationBundles

theorem valid_of_check {s : RelayDatabase} (h : s.check = true) : s.Valid := by
  simp only [check, checkResults, checkBundles, Bool.and_eq_true, distinct_iff_nodup] at h
  exact
    { relay := RelayStore.valid_of_check h.1.1, resultIds := h.1.2.1.1.1.2, bundleIds := h.2.1.2 }

end RelayDatabase

/-- What carries out statements on the whole database. -/
abbrev DatabaseEngine := Engine RelayDatabase.check

/-- The engine as the statements on the relay store meet it, while the other
tables are those of `s`. -/
def DatabaseEngine.relayAt (engine : DatabaseEngine) (s : RelayDatabase) : RelayEngine where
  accepts relay := engine.accepts { s with relay := relay }
  sound relay h := by
    have hcheck := engine.sound _ h
    simp only [RelayDatabase.check, Bool.and_eq_true] at hcheck
    exact hcheck.1.1

/-- A program on the database. -/
abbrev RelayDb (ε α : Type) := Action RelayDatabase ε α

/-- Run a program of the relay store on the database. -/
def onRelay {ε α : Type} (engine : DatabaseEngine) (m : RelayEngine → Relay ε α) : RelayDb ε α :=
  fun s =>
    match m (engine.relayAt s) s.relay with
    | (answer, relay) => (answer, { s with relay := relay })

theorem onRelay_eq_ok {ε α : Type} {eng : DatabaseEngine} {m : RelayEngine → Relay ε α}
    {s s' : RelayDatabase} {a : α} : onRelay eng m s = (.ok a, s') ↔
      ∃ relay, m (eng.relayAt s) s.relay = (.ok a, relay) ∧
        s' = { s with relay := relay } := by
  unfold onRelay
  rcases m (eng.relayAt s) s.relay with ⟨answer, relay⟩
  constructor
  · intro h
    obtain ⟨hans, hs⟩ := Prod.mk.inj h
    exact ⟨relay, by rw [hans], hs.symm⟩
  · rintro ⟨relay', hrun, rfl⟩
    obtain ⟨rfl, rfl⟩ := Prod.mk.inj hrun
    rfl

end PromptDock
