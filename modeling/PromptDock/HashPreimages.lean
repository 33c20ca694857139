import PromptDock.ConfirmationRepository
import PromptDock.Desktop.DesktopText

/-!
# What the hashes and ciphers are fed with

The payload hash of a notification, the digest of a confirmation and the stable
key of the desktop are fed with framed fields; the associated data of a sealed
result (`results.rs`) is a concatenation whose last parts have a fixed length.
Either way the fields can be read back from the bytes.
-/

namespace PromptDock

open HexText List Set

/-! ## Codes that end by themselves -/

section

variable {α β : Type} {P : α → Prop} {encode : α → List β} {as bs : List α} {xs ys : List β}

/-- A value can be read off the front of what follows it. -/
structure SelfDelimiting (P : α → Prop) (encode : α → List β) : Prop where
  ne_nil : ∀ a, encode a ≠ []
  split : ∀ {a b xs ys}, P a → P b → encode a ++ xs = encode b ++ ys → a = b ∧ xs = ys

section

variable (h : SelfDelimiting P encode) (ha : ∀ a ∈ as, P a) (hb : ∀ b ∈ bs, P b)

include h ha hb

/-- Sequences of one length, or with nothing behind them. -/
theorem SelfDelimiting.sequence (hend : as.length = bs.length ∨ xs = [] ∧ ys = [])
    (heq : as.flatMap encode ++ xs = bs.flatMap encode ++ ys) : as = bs ∧ xs = ys := by
  induction as generalizing bs with
  | nil =>
    cases bs with
    | nil => exact ⟨rfl, heq⟩
    | cons =>
      rcases hend with hlen | ⟨rfl, rfl⟩
      · cases hlen
      · simp [h.ne_nil] at heq
  | cons a as ih =>
    cases bs with
    | nil =>
      rcases hend with hlen | ⟨rfl, rfl⟩
      · cases hlen
      · simp [h.ne_nil] at heq
    | cons =>
      simp only [flatMap_cons, append_assoc, forall_mem_cons] at heq ha hb
      obtain ⟨rfl, hrest⟩ := h.split ha.1 hb.1 heq
      obtain ⟨rfl, hxs⟩ := ih ha.2 hb.2 (hend.imp_left Nat.succ.inj) hrest
      exact ⟨rfl, hxs⟩

/-- Whole sequences of parts can be read back. -/
theorem SelfDelimiting.whole (heq : as.flatMap encode = bs.flatMap encode) : as = bs :=
  (h.sequence ha hb (.inr ⟨rfl, rfl⟩) (congrArg (· ++ []) heq)).1

end

end

/-! ## Texts and numbers -/

theorem utf8_inj {s t : String} : utf8 s = utf8 t ↔ s = t := by
  refine ⟨fun h => ?_, congrArg utf8⟩
  exact String.toByteArray_inj.mp (ByteArray.ext (Array.toList_inj.mp h))

theorem hexDigit_inj : ∀ m < 16, ∀ n < 16, hexDigit m = hexDigit n → m = n := by
  decide

/-- Numbers of a width are read back from their digits. -/
theorem hexDigits_inj {width m n : Nat} (hm : m < 16 ^ width) (hn : n < 16 ^ width)
    (h : hexDigits width m = hexDigits width n) : m = n := by
  induction width generalizing m n with
  | zero => omega
  | succ width ih =>
    obtain ⟨hhigh, hlow⟩ := append_inj' h rfl
    have hlast := hexDigit_inj _ (Nat.mod_lt m (by decide)) _ (Nat.mod_lt n (by decide))
      (singleton_inj.mp hlow)
    have hrest := ih (by omega) (by omega) hhigh
    omega

/-- An identifier is read back from its text. -/
theorem Uuid.hyphenated_inj {id id' : Uuid} (h : id.hyphenated = id'.hyphenated) : id = id' := by
  have hdigits : hexDigits 32 id.toNat = hexDigits 32 id'.toNat := by
    simpa [hexDigits] using String.ofList_inj.mp h
  exact BitVec.eq_of_toNat_eq (hexDigits_inj id.isLt id'.isLt hdigits)

theorem length_beBytes (n : Int) : (beBytes n).length = 8 := by
  simp [beBytes]

/-- Eight bytes determine the word. -/
theorem beBytes_word {m n : Int} (h : beBytes m = beBytes n) :
    (BitVec.ofInt 64 m).toNat = (BitVec.ofInt 64 n).toNat := by
  simp only [beBytes, List.range, range.loop, map, cons.injEq, ← UInt8.toNat_inj,
    UInt8.toNat_ofNat', BitVec.toNat_ushiftRight] at h
  omega

/-- A value of the type `i64`. -/
def IsI64 (n : Int) : Prop := i64Min ≤ n ∧ n ≤ i64Max

instance (n : Int) : Decidable (IsI64 n) := inferInstanceAs (Decidable (_ ∧ _))

/-- An `i64` is read back from its bytes. -/
theorem beBytes_inj {m n : Int} (hm : IsI64 m) (hn : IsI64 n) : beBytes m = beBytes n ↔ m = n := by
  refine ⟨fun h => ?_, congrArg beBytes⟩
  have hword := beBytes_word h
  simp only [BitVec.toNat_ofInt, IsI64, i64Min, i64Max] at hword hm hn
  omega

/-! ## Frames -/

/-- No value of the program has more than `isize::MAX` bytes. -/
def Held (bytes : List UInt8) : Prop := IsI64 bytes.length

instance (bytes : List UInt8) : Decidable (Held bytes) := inferInstanceAs (Decidable (IsI64 _))

/-- A length before the bytes delimits them. -/
theorem frame_selfDelimiting : SelfDelimiting Held frame where
  ne_nil bytes h := by
    have hlen := congrArg length h
    simp [frame, beBytes] at hlen
  split ha hb h := by
    simp only [frame, append_assoc] at h
    obtain ⟨hlen, hrest⟩ := append_inj h (by rw [length_beBytes, length_beBytes])
    exact append_inj hrest (Int.ofNat.inj ((beBytes_inj ha hb).mp hlen))

/-- A part is delimited, present or absent. -/
theorem digestPart_selfDelimiting :
    SelfDelimiting (fun part => ∀ t ∈ part, Held (utf8 t)) digestPart where
  ne_nil part := by
    cases part <;> simp [digestPart]
  split {a b _ _} ha hb h := by
    cases a <;> cases b
    · exact ⟨rfl, (cons.inj h).2⟩
    · cases h
    · cases h
    · obtain ⟨hbytes, hrest⟩ := frame_selfDelimiting.split (ha _ rfl) (hb _ rfl) (cons.inj h).2
      exact ⟨congrArg some (utf8_inj.mp hbytes), hrest⟩

/-! ## Notifications -/

/-- The fields that the payload hash frames, in order. -/
def payloadParts (n : RelayNotificationV1) (target : Option String) : List (List UInt8) :=
  [beBytes n.schemaVersion, utf8 n.kind, utf8 n.title, utf8 n.body, beBytes n.priority] ++
    n.correlationKey.elim [[0]] (fun value => [[1], utf8 value]) ++
    [beBytes n.createdAt, beBytes n.expiresAt] ++
    target.elim [] fun value => [utf8 "target_account_fingerprint", utf8 value]

def payloadPreimage (n : RelayNotificationV1) (target : Option String) : List UInt8 :=
  (payloadParts n target).flatMap frame

/-- The hash is that of the preimage. -/
theorem payloadHashWithTarget_eq (blake3 : Blake3) (n : RelayNotificationV1)
    (target : Option String) : payloadHashWithTarget blake3 n target =
      blake3.deriveKey "promptdock-relay/notification-payload/v1" (payloadPreimage n target) := by
  cases hkey : n.correlationKey <;> cases target <;>
    simp [payloadHashWithTarget, payloadPreimage, payloadParts, hkey]

/-- The numbers and texts of a notification are values of their types. -/
def RelayNotificationV1.Typed (n : RelayNotificationV1) (target : Option String) : Prop :=
  (∀ v ∈ [n.schemaVersion, n.priority, n.createdAt, n.expiresAt], IsI64 v) ∧
    ∀ part ∈ payloadParts n target, Held part

/-- The notification without what its payload hash leaves out. -/
def RelayNotificationV1.payload (n : RelayNotificationV1) : RelayNotificationV1 :=
  { n with notificationId := "", dedupeKey := "" }

/-- The preimage determines payload and target. -/
theorem payloadPreimage_inj {n n' : RelayNotificationV1} {target target' : Option String}
    (hn : n.Typed target) (hn' : n'.Typed target')
    (h : payloadPreimage n target = payloadPreimage n' target') :
    n.payload = n'.payload ∧ target = target' := by
  replace h := frame_selfDelimiting.whole hn.2 hn'.2 h
  obtain ⟨hi, -⟩ := hn
  obtain ⟨hi', -⟩ := hn'
  obtain ⟨_, _, _, _, _, _, _, key, _, _⟩ := n
  obtain ⟨_, _, _, _, _, _, _, key', _, _⟩ := n'
  cases key <;> cases key' <;> cases target <;> cases target' <;>
    simp_all [payloadParts, RelayNotificationV1.payload, utf8_inj, beBytes_inj]

/-! ## Confirmations -/

/-- What the digest of a confirmation binds. -/
structure ConfirmationTuple where
  (confirmationId nonce : String)
  scope : ConfirmationScope
  code : String

namespace ConfirmationTuple

/-- The marked texts, in order. -/
def parts (x : ConfirmationTuple) : List (Option String) :=
  [some x.scope.senderFingerprint, some x.confirmationId, some x.nonce,
    some x.scope.deviceId.hyphenated, some x.scope.actionKind.asStr, x.scope.runtimeHandle,
    x.scope.workspaceHandle, x.scope.harnessProfileHandle, x.scope.taskPresetHandle,
    x.scope.runHandle, some x.scope.intentId]

def preimage (x : ConfirmationTuple) : List UInt8 :=
  utf8 "promptdock-relay/control-confirmation/v2" ++ x.parts.flatMap digestPart ++
    beBytes x.scope.expiresAt ++ frame (utf8 x.code)

def Typed (x : ConfirmationTuple) : Prop :=
  IsI64 x.scope.expiresAt ∧ ∀ part ∈ some x.code :: x.parts, ∀ t ∈ part, Held (utf8 t)

theorem asStr_inj : ∀ {a b : ConfirmationActionKind}, a.asStr = b.asStr → a = b := by
  rintro (_ | _) (_ | _) h
  all_goals first | rfl | exact absurd h (by decide)

/-- The preimage determines the confirmation. -/
theorem preimage_injOn : InjOn preimage {x | x.Typed} := by
  rintro x ⟨hx, htexts⟩ y ⟨hy, htexts'⟩ h
  rw [forall_mem_cons] at htexts htexts'
  simp only [preimage, append_assoc] at h
  obtain ⟨hparts, hrest⟩ := digestPart_selfDelimiting.sequence htexts.2 htexts'.2
    (.inl (by simp [parts])) (append_cancel_left h)
  obtain ⟨htime, hcode⟩ := append_inj hrest (by rw [length_beBytes, length_beBytes])
  obtain ⟨hcode, -⟩ := frame_selfDelimiting.split (htexts.1 _ rfl) (htexts'.1 _ rfl)
    (congrArg (· ++ []) hcode)
  rw [beBytes_inj hx hy] at htime
  obtain ⟨_, _, ⟨_, _, _, _, _, _, _, _, _, _⟩, _⟩ := y
  simp only [parts, cons.injEq, Option.some.injEq] at hparts
  obtain ⟨rfl, rfl, rfl, hdev, hkind, rfl, rfl, rfl, rfl, rfl, rfl, -⟩ := hparts
  obtain rfl := Uuid.hyphenated_inj hdev
  obtain rfl := asStr_inj hkind
  obtain rfl := utf8_inj.mp hcode
  cases htime
  rfl

end ConfirmationTuple

/-! ## Stable keys -/

namespace Desktop

/-- What `derive_stable_key` hashes for a namespace and its components. -/
def stableKeyPreimage (x : Text × List Text) : List UInt8 :=
  (x.1 :: x.2).flatMap fun t => frame (textBytes t)

theorem textBytes_inj {a b : Text} (h : textBytes a = textBytes b) : a = b := by
  rw [← String.ofList_inj, ← String.toByteArray_inj, String.toByteArray_ofList,
    String.toByteArray_ofList]
  exact congrArg toByteArray h

/-- The preimage determines domain and fields. -/
theorem stableKeyPreimage_injOn :
    InjOn stableKeyPreimage {x | ∀ t ∈ x.1 :: x.2, Held (textBytes t)} := by
  have hcode : SelfDelimiting (fun t => Held (textBytes t)) fun t => frame (textBytes t) := by
    refine ⟨fun _ => frame_selfDelimiting.ne_nil _, fun ha hb heq => ?_⟩
    obtain ⟨hbytes, hrest⟩ := frame_selfDelimiting.split ha hb heq
    exact ⟨textBytes_inj hbytes, hrest⟩
  intro x hx y hy h
  obtain ⟨hdomain, hcomponents⟩ := cons.inj (hcode.whole hx hy h)
  exact Prod.ext hdomain hcomponents

end Desktop

/-! ## Sealed results -/

/-- `Uuid::as_bytes`. -/
def Uuid.asBytes (id : Uuid) : List UInt8 :=
  beBytes (id.toNat / 2 ^ 64 : Nat) ++ beBytes (id.toNat % 2 ^ 64 : Nat)

/-- `aad`. -/
def aad (device : Uuid) (id hash purpose : String) : List UInt8 :=
  utf8 purpose ++ device.asBytes ++ utf8 id ++ utf8 hash

/-- `notice_aad`. -/
def noticeAad (device : Uuid) (id hash notificationId : String) : List UInt8 :=
  utf8 "ResultLinkNotice" ++ device.asBytes ++ utf8 id ++ utf8 hash ++ utf8 notificationId

/-- What is sealed for a result. -/
inductive SealedPart where
  | body
  | shareToken
  | linkNotice (notificationId : String)

structure SealedResult where
  part : SealedPart
  device : Uuid
  (id hash : String)

namespace SealedResult

/-- The associated data under which the part is sealed. -/
def associatedData (x : SealedResult) : List UInt8 :=
  match x.part with
  | .body => aad x.device x.id x.hash "ResultBody"
  | .shareToken => aad x.device x.id x.hash "ResultShareToken"
  | .linkNotice notificationId => noticeAad x.device x.id x.hash notificationId

/-- The hash has 64 characters, and a notification id 36. -/
def Sized (x : SealedResult) : Prop :=
  x.hash.length = 64 ∧ ∀ n, x.part = .linkNotice n → n.length = 36

end SealedResult

theorem Uuid.asBytes_inj {id id' : Uuid} (h : id.asBytes = id'.asBytes) : id = id' := by
  obtain ⟨hhigh, hlow⟩ := append_inj h (by rw [length_beBytes, length_beBytes])
  have hhigh := beBytes_word hhigh
  have hlow := beBytes_word hlow
  simp only [BitVec.toNat_ofInt] at hhigh hlow
  apply BitVec.eq_of_toNat_eq
  omega

theorem utf8_append (s t : String) : utf8 (s ++ t) = utf8 s ++ utf8 t := by
  simp [utf8]

/-- A text whose length is known can be split off the end. -/
theorem split_end {a b c d : String} (hlen : b.length = d.length) (h : a ++ b = c ++ d) :
    a = c ∧ b = d := by
  rw [← String.toList_inj, String.toList_append, String.toList_append] at h
  obtain ⟨hfront, hend⟩ := append_inj' h hlen
  exact ⟨String.toList_inj.mp hfront, String.toList_inj.mp hend⟩

/-- With hashes of one length the parts can be told apart. -/
theorem aad_inj {dev dev' : Uuid} {id id' hash hash' purpose : String}
    (hlen : hash.length = hash'.length) (h : aad dev id hash purpose = aad dev' id' hash' purpose) :
    dev = dev' ∧ id = id' ∧ hash = hash' := by
  simp only [aad, append_assoc, append_cancel_left_eq] at h
  obtain ⟨hdev, htext⟩ := append_inj h (by simp [Uuid.asBytes, length_beBytes])
  exact ⟨Uuid.asBytes_inj hdev, split_end hlen (utf8_inj.mp htext)⟩

/-- Associated data determines what it is for. -/
theorem SealedResult.associatedData_injOn : InjOn associatedData {x | x.Sized} := by
  rintro ⟨part, dev, id, hash⟩ ⟨hhash, hid⟩ ⟨part', device', id', hash'⟩ ⟨hhash', hid'⟩ h
  have hlen : hash.length = hash'.length := hhash.trans hhash'.symm
  -- the purposes differ in their seventh letter
  have hletter := congrArg (·[6]?) h
  cases part <;> cases part' <;>
    try exact absurd (Option.some.inj hletter : (_ : UInt8) = _) (by decide)
  iterate 2
    · obtain ⟨rfl, rfl, rfl⟩ := aad_inj hlen h
      rfl
  rename_i n n'
  have hnot : ∀ d i h n, noticeAad d i h n = aad d i (h ++ n) "ResultLinkNotice" := by
    simp [noticeAad, aad, utf8_append]
  have hids : n.length = n'.length := (hid n rfl).trans (hid' n' rfl).symm
  simp only [associatedData, hnot] at h
  obtain ⟨rfl, rfl, htail⟩ := aad_inj (by simp [hlen, hids]) h
  obtain ⟨rfl, rfl⟩ := split_end hids htail
  rfl

/-- **The hashes and ciphers are fed with all their fields.**  What is hashed for a
notification and its target determines both but for the notification id and the
dedupe key, which are left out.  What is hashed for a confirmation or a stable key,
and the associated data of a sealed part, determines all of it. -/
theorem preimages_determine_fields : ((∀ blake3 n target, payloadHashWithTarget blake3 n target =
        blake3.deriveKey "promptdock-relay/notification-payload/v1" (payloadPreimage n target)) ∧
      ∀ n n' target target', n.Typed target → n'.Typed target' →
        payloadPreimage n target = payloadPreimage n' target' →
        n.payload = n'.payload ∧ target = target') ∧
    ((∀ (verifier : ConfirmationVerifier) (x : ConfirmationTuple),
        verifier.digestParts x.confirmationId x.nonce x.scope x.code =
          verifier.blake3.keyed verifier.key x.preimage) ∧
      InjOn ConfirmationTuple.preimage {x | x.Typed}) ∧
    ((∀ hashes domain components, Desktop.deriveStableKey hashes domain components =
        hashes.blake3 (Desktop.stableKeyPreimage (domain, components))) ∧
      InjOn Desktop.stableKeyPreimage {x | ∀ t ∈ x.1 :: x.2, Held (Desktop.textBytes t)}) ∧
    InjOn SealedResult.associatedData {x | x.Sized} := by
  refine ⟨⟨payloadHashWithTarget_eq, ?_⟩, ⟨fun _ _ => rfl, ConfirmationTuple.preimage_injOn⟩,
    ⟨fun _ _ _ => rfl, Desktop.stableKeyPreimage_injOn⟩, SealedResult.associatedData_injOn⟩
  intro n n' target target' hn hn' h
  exact payloadPreimage_inj hn hn' h

def sampleNotification (id : String) : RelayNotificationV1 :=
  ⟨1, id, "key", "test", 0, "title", "body", none, 0, 1⟩

/-- Notifications with different ids, hashed alike. -/
theorem payloadPreimage_without_id :
    ∃ n n' : RelayNotificationV1, n ≠ n' ∧ n.Typed none ∧ n'.Typed none ∧
      payloadPreimage n none = payloadPreimage n' none :=
  ⟨sampleNotification "a", sampleNotification "b", by decide, ⟨by decide, by decide⟩,
    ⟨by decide, by decide⟩, rfl⟩

end PromptDock
