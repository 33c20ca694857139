import PromptDock.Desktop.DesktopRetention
import PromptDock.Desktop.DeliveryFence

/-!
# The receipts of a publication over time

Receipts reach a publication from the poll (`apply`) and as the answers to actions
of the user (`apply_action`), in any order and more than once.  `ReceiptMove` says
what one of them, or a new action, does to the row; everything below is read off
it.

A receipt that is kept never takes back what an earlier one said
(`receipts_only_move_forward`).  The intents of the user fare worse.  The answer to
a revocation ends the intent whatever page it reports, and an intent to resend
ends only with a new notification, which the relay does not make for a page that
is closed.
-/

namespace PromptDock.Desktop

open RowTable StoreAction.Action TableStatement LabelledRun ResultStore RelayResultPageState
open PublicationRow Option

/-! ## Steps -/

/-- What is done to a publication that was registered. -/
inductive ReceiptOp where
  | apply (outboxId : Text) (receipt : RelayResultReceipt) (allowNotificationChange : Bool)
  | applyAction (outboxId : Text) (receipt : RelayResultReceipt) (action : ResultAction)
      (requestId : Text)
  | registerAction (outboxId : Text) (action : ResultAction) (requestId : Text)

namespace ReceiptOp

/-- The database afterwards. -/
def run (engine : DatabaseEngine) (d : DesktopDatabase) : ReceiptOp → DesktopDatabase
  | .apply outboxId receipt allowed => (ResultStore.apply engine outboxId receipt allowed d).2
  | .applyAction outboxId receipt action requestId =>
    (ResultStore.applyAction engine outboxId receipt action requestId d).2
  | .registerAction outboxId action requestId =>
    (ResultStore.registerAction engine outboxId action requestId d).2

def outboxId : ReceiptOp → Text
  | .apply outboxId .. | .applyAction outboxId .. | .registerAction outboxId .. => outboxId

def receipt : ReceiptOp → Option RelayResultReceipt
  | .apply _ receipt _ | .applyAction _ receipt _ _ => some receipt
  | .registerAction .. => none

/-- The caller allows that the receipt names another notification. -/
def allowed : ReceiptOp → Bool
  | .apply _ _ allowed => allowed
  | .applyAction _ _ action _ => action == .resend
  | .registerAction .. => false

/-- The action that the receipt answers. -/
def completion : ReceiptOp → Option (ResultAction × Text)
  | .applyAction _ _ action requestId => some (action, requestId)
  | .apply .. | .registerAction .. => none

end ReceiptOp

def ReceiptStep (engine : DatabaseEngine) (d : DesktopDatabase) (op : ReceiptOp)
    (d' : DesktopDatabase) : Prop :=
  d' = op.run engine d

/-! ## The row of a publication -/

/-- The row after the action that a receipt answers. -/
def completedBy (completion : Option (ResultAction × Text)) (p : PublicationRow) : PublicationRow :=
  match completion with
  | none => p
  | some (.resend, requestId) =>
    if p.pendingResendRequestId == some requestId then withoutResend p else p
  | some (.revoke, requestId) =>
    if p.pendingRevokeRequestId == some requestId then withoutRevoke p else p

/-- The row with a newer receipt, before the action it answers is completed. -/
def receivedRow (receipt : RelayResultReceipt) (completion : Option (ResultAction × Text))
    (p : PublicationRow) : PublicationRow :=
  let stored := withReceipt receipt p
  let confirmed :=
    if confirmsResend p receipt completion && p.pendingResendNotificationId.isSome then
      withoutResend stored
    else stored
  if receipt.pageState == .revoked then withoutRevoke confirmed else confirmed

/-- What an operation does to the row of its publication. -/
inductive ReceiptMove (id : Text) (op : ReceiptOp) (p : PublicationRow) :
    PublicationRow → Prop where
  | same : ReceiptMove id op p p
  | again {receipt : RelayResultReceipt} (hreceipt : op.receipt = some receipt)
      (hjudged : judgeReceipt p id receipt op.allowed op.completion = .ok .alreadyApplied)
      (hid : op.outboxId = id) :
      ReceiptMove id op p (completedBy op.completion p)
  | stored {receipt : RelayResultReceipt} (hreceipt : op.receipt = some receipt)
      (hjudged : judgeReceipt p id receipt op.allowed op.completion = .ok .applied)
      (hid : op.outboxId = id) :
      ReceiptMove id op p (completedBy op.completion (receivedRow receipt op.completion p))
  | registered {action : ResultAction} {requestId : Text}
      (hop : op = .registerAction id action requestId) (haccepted : p.acceptedAt.isSome = true) :
      ReceiptMove id op p (withAction action requestId p)

variable {engine : DatabaseEngine} {d d' : DesktopDatabase} {id : Text} {p : PublicationRow}
  {op : ReceiptOp}

section

variable {outboxId : Text} {guard : DesktopDatabase → PublicationRow → Bool}
  {change : PublicationRow → PublicationRow} {u : Unit} {completion : Option (ResultAction × Text)}
  {receipt : RelayResultReceipt}

/-- A publication is found under its id. -/
theorem publication_id (h : d.publication id = some p) : p.outboxId = id := by
  simpa using List.find?_some h

/-- A statement on publications, as one of them meets it. -/
theorem update_publication {n : Nat}
    (h : (update engine DesktopDatabase.publicationTable guard change : Base Nat) d = (.ok n, d'))
    (hid : ∀ p, (change p).outboxId = p.outboxId) :
    d'.publication id = (d.publication id).map fun p => if guard d p then change p else p := by
  obtain ⟨_, _, rfl⟩ := update_eq_ok.mp h
  have hsame : ∀ p, (if guard d p then change p else p).outboxId = p.outboxId := by
    intro p
    split
    · exact hid p
    · rfl
  have hguard : ((fun p : PublicationRow => p.outboxId == id) ∘
      fun p => if guard d p then change p else p) = fun p => p.outboxId == id := by
    funext p
    exact congrArg (· == id) (hsame p)
  refine List.find?_map.trans ?_
  rw [hguard]
  rfl

/-- The same statement, made under a condition. -/
theorem onlyIf_publication {cond : Bool} (h : (onlyIf cond (do
      let _ ← update engine DesktopDatabase.publicationTable guard change
      pure ()) : Base Unit) d = (.ok u, d')) (hid : ∀ p, (change p).outboxId = p.outboxId) :
    d'.publication id =
      (d.publication id).map fun p => if cond && guard d p then change p else p := by
  cases cond with
  | false =>
    cases h
    simp
  | true =>
    obtain ⟨_, d₁, hupd, hpure⟩ := bind_eq_ok.mp h
    cases hpure
    simpa using update_publication hupd hid

/-- Only the row of the action changes. -/
theorem completeIfAny_publication (h : completeIfAny engine outboxId completion d = (.ok u, d')) :
    d'.publication id = (d.publication id).map fun p =>
      if p.outboxId == outboxId then completedBy completion p else p := by
  match completion, h with
  | none, h =>
    cases h
    simp [completedBy]
  | some (.resend, requestId), h | some (.revoke, requestId), h =>
    obtain ⟨_, d₁, hupd, hpure⟩ := bind_eq_ok.mp h
    cases hpure
    rw [update_publication hupd fun _ => rfl]
    congr 1
    funext p
    simp only [completedBy]
    split <;> split <;> simp_all

/-- Only the row of the receipt changes. -/
theorem storeReceipt_publication {current : PublicationRow}
    (hcur : d.publication outboxId = some current)
    (h : storeReceipt engine current outboxId receipt completion d = (.ok u, d')) :
    d'.publication id = (d.publication id).map fun p =>
      if p.outboxId == outboxId then completedBy completion (receivedRow receipt completion p)
      else p := by
  obtain ⟨_, d₁, hstore, h⟩ := bind_eq_ok.mp h
  obtain ⟨_, d2, hconf, h⟩ := bind_eq_ok.mp h
  obtain ⟨_, d3, hnot, h⟩ := bind_eq_ok.mp h
  obtain ⟨_, d4, hrevoke, h⟩ := bind_eq_ok.mp h
  have hbox : d3.publication id = d2.publication id := by
    obtain ⟨_, _, rfl⟩ := update_eq_ok.mp hnot
    rfl
  rw [completeIfAny_publication h, onlyIf_publication hrevoke fun _ => rfl, hbox,
    onlyIf_publication hconf fun _ => rfl, update_publication hstore fun _ => rfl]
  cases hp : d.publication id with
  | none => rfl
  | some =>
    have hid := publication_id hp
    by_cases hsame : id = outboxId
    · subst hsame
      rw [hcur] at hp
      cases hp
      simp only [map_some, hid, receivedRow, resendOf, withReceipt, withoutResend,
        withoutRevoke, beq_self_eq_true, Bool.true_and, Bool.and_true, if_true]
      split <;> split <;> simp_all
    · simp [hid, hsame, resendOf]

/-- A transaction that rewrites the row of one publication moves every row. -/
theorem move_of_rewrite (outboxId : Text) (change : PublicationRow → PublicationRow)
    (hrows : d'.publication id = (d.publication id).map fun q =>
      if q.outboxId == outboxId then change q else q)
    (hmove : ∀ q, d.publication outboxId = some q → ReceiptMove outboxId op q (change q))
    (hp : d.publication id = some p) :
    ∃ p', d'.publication id = some p' ∧ ReceiptMove id op p p' := by
  rw [hrows, hp, map_some, publication_id hp]
  by_cases hsame : id = outboxId
  · subst hsame
    exact ⟨change p, by simp, hmove p hp⟩
  · exact ⟨p, by simp [hsame], .same⟩

/-- A receipt that is refused changes nothing; one that is taken moves the row of
its publication. -/
theorem applyInner_move (op : ReceiptOp) (hrcpt : op.receipt = some receipt)
    (hp : d.publication id = some p) :
    ∃ p', ((applyInner engine op.outboxId receipt op.allowed op.completion d).2).publication id =
      some p' ∧ ReceiptMove id op p p' := by
  rcases hrun : applyInner engine op.outboxId receipt op.allowed op.completion d with
    ⟨e | verdict, d'⟩
  · have hsame : d' = d := by
      unfold applyInner allOrNothing at hrun
      split at hrun <;> cases hrun
      rfl
    exact ⟨p, hsame ▸ hp, .same⟩
  have hok := allOrNothing_eq_ok.mp hrun
  rw [read_bind_run] at hok
  cases hcur : d.publication op.outboxId with
  | none =>
    rw [hcur] at hok
    cases hok
  | some current =>
    simp only [hcur] at hok
    cases hjudge : judgeReceipt current op.outboxId receipt op.allowed op.completion with
    | error =>
      simp only [hjudge] at hok
      cases hok
    | ok judged =>
      simp only [hjudge] at hok
      cases judged with
      | stale =>
        cases hok
        exact ⟨p, hp, .same⟩
      | alreadyApplied =>
        obtain ⟨_, d₁, hcomplete, hpure⟩ := bind_eq_ok.mp hok
        cases hpure
        refine move_of_rewrite _ _ (completeIfAny_publication hcomplete) ?_ hp
        intro q hq
        rw [hcur] at hq
        cases hq
        exact .again hrcpt hjudge rfl
      | applied =>
        obtain ⟨_, d₁, hstore, hpure⟩ := bind_eq_ok.mp hok
        cases hpure
        refine move_of_rewrite _ _ (storeReceipt_publication hcur hstore) ?_ hp
        intro q hq
        rw [hcur] at hq
        cases hq
        exact .stored hrcpt hjudge rfl

/-- Asking for an action is a move of its row. -/
theorem registerAction_move {action : ResultAction} {req : Text} (hp : d.publication id = some p) :
    ∃ p', ((registerAction engine outboxId action req d).2).publication id = some p' ∧
      ReceiptMove id (.registerAction outboxId action req) p p' := by
  rcases hrun : registerAction engine outboxId action req d with ⟨e | request, d'⟩
  · have hsame : d' = d := by
      unfold registerAction allOrNothing at hrun
      split at hrun <;> cases hrun
      rfl
    exact ⟨p, hsame ▸ hp, .same⟩
  obtain ⟨changed, d₁, hupd, h⟩ := bind_eq_ok.mp (allOrNothing_eq_ok.mp hrun)
  have hrow : d₁ = d' := by
    split at h
    · cases h
    · cases h
      rfl
  subst hrow
  have hkeeps : ∀ q, (withAction action req q).outboxId = q.outboxId := by
    cases action <;> exact fun _ => rfl
  refine move_of_rewrite outboxId
    (fun q => if q.acceptedAt.isSome then withAction action req q else q) ?_ ?_ hp
  · rw [update_publication hupd hkeeps]
    congr 1
    funext q
    split <;> split <;> simp_all
  · intro q _
    split
    next hacc => exact .registered rfl hacc
    next => exact .same

/-- Every step moves every publication. -/
theorem receiptStep_move (h : ReceiptStep engine d op d') (hp : d.publication id = some p) :
    ∃ p', d'.publication id = some p' ∧ ReceiptMove id op p p' := by
  subst h
  cases op with
  | apply outboxId receipt allowed => exact applyInner_move (.apply outboxId receipt allowed) rfl hp
  | applyAction outboxId receipt action req =>
    exact applyInner_move (.applyAction outboxId receipt action req) rfl hp
  | registerAction => exact registerAction_move hp

end

/-! ## What a receipt that is taken has passed -/

/-- The checks that a receipt has passed when it is not refused and not stale. -/
structure Judged (p : PublicationRow) (receipt : RelayResultReceipt) (allowed : Bool)
    (completion : Option (ResultAction × Text)) : Prop where
  version : ∀ t, p.updatedAt = some t → t ≤ receipt.updatedAt
  resend : ∀ requestId, completion = some (.resend, requestId) →
    p.pendingResendRequestId.isSome = true →
      p.pendingResendNotificationId ≠ some receipt.notificationId
  notification : ∀ id, p.notificationId = some id → id ≠ receipt.notificationId →
    allowed = true ∨ p.pendingResendRequestId.isSome = true
  accepted : ∀ t, p.acceptedAt = some t → t = receipt.acceptedAt
  expiry : ∀ t, p.pageExpiresAt = some t → t = receipt.pageExpiresAt
  page : p.pageState.any terminal = true → receipt.pageState.terminal = true
  status : p.notificationStatus.any isTerminalNotification = true →
    isTerminalNotification receipt.notificationStatus = false →
      p.notificationId ≠ some receipt.notificationId

variable {p : PublicationRow} {completion : Option (ResultAction × Text)}

/-- A receipt that is taken has passed the checks. -/
theorem judged_of_ok {receipt : RelayResultReceipt} {allowed : Bool} {verdict : ResultReceiptApply}
    (h : judgeReceipt p id receipt allowed completion = .ok verdict) (hstale : verdict ≠ .stale) :
    Judged p receipt allowed completion ∧
      (verdict = .alreadyApplied → p.pageState = some receipt.pageState) := by
  unfold judgeReceipt at h
  split at h
  · cases h
  split at h
  · cases h
    exact absurd rfl hstale
  next hver =>
  split at h
  · cases h
  next hresend =>
  split at h
  · cases h
  next hnotification =>
  split at h
  · cases h
  next htimes =>
  split at h
  · cases h
  next hpage =>
  split at h
  · cases h
  next hstat =>
  refine ⟨⟨?_, ?_, ?_, ?_, ?_, ?_, ?_⟩, ?_⟩
  · intro t ht
    simpa [ht] using hver
  · intro req hcompl hpend hsame
    simp [hcompl, hpend, hsame] at hresend
  · intro old hold hne
    have hmay : mayChangeNotification p allowed = true := by simpa [hold, hne] using hnotification
    rcases Bool.or_eq_true_iff.mp hmay with hallow | hpend
    · exact .inl hallow
    · exact .inr (Bool.and_eq_true_iff.mp hpend).1
  · intro t ht
    simp [ht] at htimes
    exact htimes.1
  · intro t ht
    simp [ht] at htimes
    exact htimes.2
  · intro hterm
    cases hst : receipt.pageState with
    | available => simp [hterm, hst] at hpage
    | revoked | expired | contentUnavailable => rfl
  · intro hterm hopen hsame
    simp [hterm, hopen, hsame] at hstat
  · rintro rfl
    split at h
    · split at h
      next hsame =>
        simp only [Bool.and_eq_true, beq_iff_eq] at hsame
        exact hsame.1.1.1
      next => cases h
    · cases h

/-- The columns that receipts fill. -/
def PublicationRow.receiptColumns (p : PublicationRow) :
    Option Timestamp × Option Timestamp × Option RelayResultPageState × Option Timestamp ×
      Option Text × Option String :=
  (p.updatedAt, p.acceptedAt, p.pageState, p.pageExpiresAt, p.notificationId,
    p.notificationStatus)

/-- The end of an action changes no column that receipts fill. -/
theorem completedBy_columns (completion : Option (ResultAction × Text)) (p : PublicationRow) :
    (completedBy completion p).receiptColumns = p.receiptColumns := by
  unfold completedBy
  split
  · rfl
  · split <;> rfl
  · split <;> rfl

/-- Those columns are the receipt's. -/
theorem receivedRow_columns (receipt : RelayResultReceipt)
    (completion : Option (ResultAction × Text)) (p : PublicationRow) :
    (receivedRow receipt completion p).receiptColumns = (withReceipt receipt p).receiptColumns := by
  simp only [receivedRow]
  split <;> split <;> rfl

/-- Only a receipt that is stored fills columns, and it has passed the checks. -/
theorem ReceiptMove.columns {p' : PublicationRow}
    (h : ReceiptMove id op p p') : p'.receiptColumns = p.receiptColumns ∨
      ∃ receipt, op.receipt = some receipt ∧ Judged p receipt op.allowed op.completion ∧
        p'.receiptColumns = (withReceipt receipt p).receiptColumns := by
  cases h with
  | same => exact .inl rfl
  | again => exact .inl (completedBy_columns _ _)
  | stored hrcpt hjudge =>
    refine .inr ⟨_, hrcpt, (judged_of_ok hjudge (by decide)).1, ?_⟩
    rw [completedBy_columns, receivedRow_columns]
  | @registered action => cases action <;> exact .inl rfl

/-! ## Receipts only move forward -/

/-- How the row of a publication stands to the same row later. -/
structure PublicationRow.Precedes (p p' : PublicationRow) : Prop where
  version : ∀ t, p.updatedAt = some t → ∃ t', p'.updatedAt = some t' ∧ t ≤ t'
  accepted : ∀ t, p.acceptedAt = some t → p'.acceptedAt = some t
  expiry : ∀ t, p.pageExpiresAt = some t → p'.pageExpiresAt = some t
  page : p.pageState.any terminal = true →
    p'.pageState.any terminal = true

/-- What an operation must bring to change the notification of a publication, or
to end an intent to resend. -/
structure ReceiptOp.Warrants (op : ReceiptOp) (p p' : PublicationRow) : Prop where
  status : p.notificationStatus.any isTerminalNotification = true →
    p'.notificationStatus.any isTerminalNotification = false → p'.notificationId ≠ p.notificationId
  notification : p.notificationId.isSome = true → p'.notificationId ≠ p.notificationId →
    p.pendingResendRequestId.isSome = true ∨ op.allowed = true
  resend : p.pendingResendRequestId.isSome = true →
    p'.pendingResendRequestId ≠ p.pendingResendRequestId →
      ∃ receipt recorded, op.receipt = some receipt ∧
        p.pendingResendNotificationId = some recorded ∧ receipt.notificationId ≠ recorded

/-- An accepted publication has a notification, and an intent to resend has the
notification it was made for. -/
structure PublicationRow.Recorded (p : PublicationRow) : Prop where
  notification : p.acceptedAt.isSome = true → p.notificationId.isSome = true
  resend : p.pendingResendRequestId.isSome = true → p.pendingResendNotificationId.isSome = true

variable {p' q : PublicationRow} {request : Text}

/-- A move takes nothing back. -/
theorem ReceiptMove.precedes (h : ReceiptMove id op p p') : p.Precedes p' := by
  rcases h.columns with hsame | ⟨receipt, _, hjudge, hcols⟩
  · simp only [receiptColumns, Prod.mk.injEq] at hsame
    obtain ⟨hver, hacc, hpage, hexpiry, _, _⟩ := hsame
    refine ⟨fun t ht => ⟨t, hver.trans ht, Int.le_refl t⟩, fun t => hacc.trans,
      fun t => hexpiry.trans, fun hterm => hpage ▸ hterm⟩
  simp only [receiptColumns, withReceipt, Prod.mk.injEq] at hcols
  obtain ⟨hver, hacc, hpage, hexpiry, _, _⟩ := hcols
  constructor
  · exact fun t ht => ⟨_, hver, hjudge.version t ht⟩
  · exact fun t ht => by rw [hacc, hjudge.accepted t ht]
  · exact fun t ht => by rw [hexpiry, hjudge.expiry t ht]
  intro hterm
  rw [hpage]
  exact hjudge.page hterm

theorem PublicationRow.Precedes.refl (p : PublicationRow) : p.Precedes p :=
  ⟨fun t ht => ⟨t, ht, Int.le_refl t⟩, fun _ h => h, fun _ h => h, id⟩

theorem PublicationRow.Precedes.trans {r : PublicationRow} (h : p.Precedes q)
    (h' : q.Precedes r) : p.Precedes r := by
  refine ⟨?_, fun t ht => h'.accepted t (h.accepted t ht), fun t ht => h'.expiry t (h.expiry t ht),
    fun hterm => h'.page (h.page hterm)⟩
  intro t ht
  obtain ⟨u, hu, htu⟩ := h.version t ht
  obtain ⟨v, hv, huv⟩ := h'.version u hu
  exact ⟨v, hv, Int.le_trans htu huv⟩

/-- The intent to resend, with the notification it was made for. -/
def PublicationRow.resendIntent (p : PublicationRow) : Option Text × Option Text :=
  (p.pendingResendRequestId, p.pendingResendNotificationId)

/-- An answer to something else leaves the resend waiting. -/
theorem completedBy_keeps_resend
    (h : ∀ req, completion ≠ some (.resend, req)) (p : PublicationRow) :
    (completedBy completion p).resendIntent = p.resendIntent := by
  unfold completedBy
  split
  · rfl
  next req => exact absurd rfl (h req)
  · split <;> rfl

/-- A receipt that names the notification of the intent to resend leaves the
intent. -/
theorem ReceiptMove.keeps_resend (h : ReceiptMove id op p p') {recorded : Text}
    (hintent : p.resendIntent = (some request, some recorded))
    (hsame : ∀ receipt, op.receipt = some receipt → receipt.notificationId = recorded) :
    p'.resendIntent = p.resendIntent := by
  obtain ⟨hreq, hrec⟩ := Prod.mk.inj hintent
  have hans : ∀ receipt, op.receipt = some receipt → Judged p receipt op.allowed op.completion →
      ∀ req, op.completion ≠ some (.resend, req) := by
    intro receipt hrcpt hjudge req hcompl
    refine hjudge.resend req hcompl (by rw [hreq]; rfl) ?_
    rw [hrec, hsame receipt hrcpt]
  cases h with
  | same => rfl
  | again hrcpt hjudge =>
    exact completedBy_keeps_resend (hans _ hrcpt (judged_of_ok hjudge (by decide)).1) p
  | @stored receipt hrcpt hjudge =>
    have hunconfirmed : confirmsResend p receipt op.completion = false := by
      simp [confirmsResend, hrec, hsame receipt hrcpt]
    rw [completedBy_keeps_resend (hans _ hrcpt (judged_of_ok hjudge (by decide)).1)]
    simp only [receivedRow, hunconfirmed]
    split <;> rfl
  | @registered action =>
    cases action with
    | resend => simp [withAction, resendIntent, hreq, hrec]
    | revoke => rfl

/-- Both columns of an intent to resend are cleared together. -/
theorem completedBy_resend (completion : Option (ResultAction × Text))
    (h : p.pendingResendRequestId.isSome = true → p.pendingResendNotificationId.isSome = true) :
    (completedBy completion p).pendingResendRequestId.isSome = true →
      (completedBy completion p).pendingResendNotificationId.isSome = true := by
  unfold completedBy
  split
  · exact h
  · split
    · exact fun hsome => hsome
    · exact h
  · split <;> exact h

/-- A move keeps the books in order. -/
theorem ReceiptMove.recorded (h : ReceiptMove id op p p') (hp : p.Recorded) : p'.Recorded := by
  constructor
  · intro hacc
    rcases h.columns with hsame | ⟨receipt, _, _, hcols⟩
    · simp only [receiptColumns, Prod.mk.injEq] at hsame
      rw [hsame.2.2.2.2.1]
      rw [hsame.2.1] at hacc
      exact hp.notification hacc
    · simp only [receiptColumns, Prod.mk.injEq] at hcols
      rw [hcols.2.2.2.2.1]
      rfl
  · cases h with
    | same => exact hp.resend
    | again => exact completedBy_resend _ hp.resend
    | stored =>
      apply completedBy_resend
      simp only [receivedRow]
      split <;> split
      · exact fun hsome => hsome
      · exact hp.resend
      · exact fun hsome => hsome
      · exact hp.resend
    | @registered action req _ hacc =>
      cases action with
      | resend => simp [withAction, hp.notification hacc]
      | revoke => exact hp.resend

/-- A move that changes the notification is warranted. -/
theorem ReceiptMove.warrants (h : ReceiptMove id op p p') (hp : p.Recorded) : op.Warrants p p' := by
  constructor
  · intro hterm hopen
    rcases h.columns with hsame | ⟨receipt, _, hjudge, hcols⟩
    · simp only [receiptColumns, Prod.mk.injEq] at hsame
      rw [hsame.2.2.2.2.2, hterm] at hopen
      cases hopen
    simp only [receiptColumns, Prod.mk.injEq] at hcols
    rw [hcols.2.2.2.2.2] at hopen
    rw [hcols.2.2.2.2.1]
    exact (hjudge.status hterm hopen).symm
  · intro hsome hchg
    rcases h.columns with hsame | ⟨receipt, _, hjudge, hcols⟩
    · simp only [receiptColumns, Prod.mk.injEq] at hsame
      exact absurd hsame.2.2.2.2.1 hchg
    simp only [receiptColumns, withReceipt, Prod.mk.injEq] at hcols
    obtain ⟨old, hold⟩ := isSome_iff_exists.mp hsome
    rw [hcols.2.2.2.2.1, hold] at hchg
    have hne : old ≠ receipt.notificationId := fun heq => hchg (by rw [heq])
    exact (hjudge.notification old hold hne).symm
  · intro hpend hchg
    obtain ⟨request, hreq⟩ := isSome_iff_exists.mp hpend
    obtain ⟨recorded, hrec⟩ := isSome_iff_exists.mp (hp.resend hpend)
    by_contra hnone
    have hintent := h.keeps_resend (Prod.ext hreq hrec) fun receipt hrcpt => by
      by_contra hoth
      exact hnone ⟨receipt, recorded, hrcpt, hrec, hoth⟩
    exact hchg (Prod.mk.inj hintent).1

/-- The publication is there, with its books in order. -/
def Published (id : Text) (p : PublicationRow) (d : DesktopDatabase) : Prop :=
  ∃ p', d.publication id = some p' ∧ p'.Recorded ∧ p.Precedes p'

/-- A publication stays, with its books in order. -/
theorem published_of_run {ops : List ReceiptOp}
    (h : Run (ReceiptStep engine) d ops d') (hp : d.publication id = some p)
    (hrec : p.Recorded) : Published id p d' := by
  refine h.invariant (I := Published id p) ?_ ⟨p, hp, hrec, .refl p⟩
  intro a op b hstep ⟨q, hq, hqRecorded, hprec⟩
  obtain ⟨q', hq', hmove⟩ := receiptStep_move hstep hq
  exact ⟨q', hq', hmove.recorded hqRecorded, hprec.trans hmove.precedes⟩

/-- A new publication has its books in order. -/
theorem submission_recorded (s : Submission) : s.row.Recorded :=
  ⟨fun h => (by cases h), fun h => (by cases h)⟩

/-- **Receipts only move forward.**  From the registration of a publication on, the
operations may come in any order: the version never falls, the times of the first
receipt stay, a page that is closed stays closed, and a step that changes the
notification or ends an intent to resend brings what it must. -/
theorem receipts_only_move_forward {start d₁ : DesktopDatabase} {s : Submission}
    {before after : List ReceiptOp} {op : ReceiptOp}
    (hstart : start.publication id = some s.row) (hbefore : Run (ReceiptStep engine) start before d)
    (hstep : ReceiptStep engine d op d₁) (hafter : Run (ReceiptStep engine) d₁ after d') :
    ∃ p p₁ p', d.publication id = some p ∧ d₁.publication id = some p₁ ∧
      d'.publication id = some p' ∧ p.Precedes p' ∧ op.Warrants p p₁ := by
  obtain ⟨p, hp, hrecorded, _⟩ := published_of_run hbefore hstart (submission_recorded s)
  obtain ⟨p₁, hp1, hmove⟩ := receiptStep_move hstep hp
  obtain ⟨p', hp', _, hprecedes⟩ := published_of_run hafter hp1 (hmove.recorded hrecorded)
  exact ⟨p, p₁, p', hp, hp1, hp', hmove.precedes.trans hprecedes, hmove.warrants hrecorded⟩

/-! ## The intents of the user -/

section

variable {start : DesktopDatabase} {s : Submission} {ops : List ReceiptOp}

/-- The answer to a revocation that waits reports a page that is revoked. -/
def ReceiptOp.ConfirmsRevoke (op : ReceiptOp) (p : PublicationRow) : Prop :=
  ∀ requestId receipt, op.completion = some (.revoke, requestId) →
    p.pendingRevokeRequestId = some requestId → op.receipt = some receipt →
      receipt.pageState = .revoked

/-- An answer to something else leaves the revocation waiting. -/
theorem completedBy_keeps_revoke (h : ∀ req, completion = some (.revoke, req) →
      q.pendingRevokeRequestId ≠ some req) :
    (completedBy completion q).pendingRevokeRequestId = q.pendingRevokeRequestId := by
  unfold completedBy
  split
  · rfl
  · split <;> rfl
  next req =>
    split
    next hpend => exact absurd (eq_of_beq hpend) (h req rfl)
    next => rfl

/-- A revocation whose answer confirms it ends on a revoked page. -/
theorem ReceiptMove.revoke (h : ReceiptMove id op p p') (hconfirms : op.ConfirmsRevoke p)
    (hpend : p.pendingRevokeRequestId.isSome = true)
    (hdrop : p'.pendingRevokeRequestId ≠ p.pendingRevokeRequestId) :
    p'.pageState = some .revoked := by
  by_contra hopen
  have hoth : ∀ receipt, op.receipt = some receipt → receipt.pageState ≠ .revoked →
      ∀ requestId, op.completion = some (.revoke, requestId) →
        p.pendingRevokeRequestId ≠ some requestId :=
    fun receipt hrcpt hpage requestId hcompl hreq =>
      hpage (hconfirms requestId receipt hcompl hreq hrcpt)
  cases h with
  | same => exact hdrop rfl
  | @again receipt hrcpt hjudge =>
    have hpage := (judged_of_ok hjudge (by decide)).2 rfl
    have hsto : (completedBy op.completion p).pageState = p.pageState :=
      congrArg (·.2.2.1) (completedBy_columns op.completion p)
    rw [hsto, hpage] at hopen
    exact hdrop (completedBy_keeps_revoke (hoth receipt hrcpt fun heq => hopen (congrArg some heq)))
  | @stored receipt hrcpt =>
    have hsto : (completedBy op.completion (receivedRow receipt op.completion p)).pageState =
        some receipt.pageState :=
      congrArg (·.2.2.1) ((completedBy_columns _ _).trans (receivedRow_columns _ _ p))
    rw [hsto] at hopen
    have hpage : receipt.pageState ≠ .revoked := fun heq => hopen (congrArg some heq)
    have hkept : (receivedRow receipt op.completion p).pendingRevokeRequestId =
        p.pendingRevokeRequestId := by
      simp only [receivedRow, beq_eq_false_iff_ne.mpr hpage, Bool.false_eq_true, if_false]
      split <;> rfl
    refine hdrop ((completedBy_keeps_revoke ?_).trans hkept)
    rw [hkept]
    exact hoth receipt hrcpt hpage
  | @registered action =>
    cases action with
    | resend => exact hdrop rfl
    | revoke =>
      obtain ⟨request, hreq⟩ := isSome_iff_exists.mp hpend
      exact hdrop (by simp [withAction, hreq])

/-- **A revocation ends with a revoked page, if its answer says so.** -/
theorem revoke_ends_on_revoked_page {d₁ : DesktopDatabase}
    (hstart : start.publication id = some s.row) (hrun : Run (ReceiptStep engine) start ops d)
    (hstep : ReceiptStep engine d op d₁)
    (hconfirms : ∀ p, d.publication id = some p → op.ConfirmsRevoke p) :
    ∃ p p', d.publication id = some p ∧ d₁.publication id = some p' ∧
      (p.pendingRevokeRequestId.isSome = true →
        p'.pendingRevokeRequestId ≠ p.pendingRevokeRequestId → p'.pageState = some .revoked) := by
  obtain ⟨p, hp, _⟩ := published_of_run hrun hstart (submission_recorded s)
  obtain ⟨p', hp', hmove⟩ := receiptStep_move hstep hp
  exact ⟨p, p', hp, hp', hmove.revoke (hconfirms p hp)⟩

/-- The receipt answers or confirms every action that waits. -/
def ReceiptOp.endsActions (op : ReceiptOp) (receipt : RelayResultReceipt) (p : PublicationRow) :
    Bool :=
  (p.pendingResendRequestId.all fun request =>
    (confirmsResend p receipt op.completion && p.pendingResendNotificationId.isSome) ||
      op.completion == some (.resend, request)) &&
  p.pendingRevokeRequestId.all fun request =>
    receipt.pageState == .revoked || op.completion == some (.revoke, request)

/-- No action is asked for on a closed page, and a receipt that closes the page
leaves no action waiting. -/
def ReceiptOp.timely (id : Text) (op : ReceiptOp) (p : PublicationRow) : Bool :=
  op.outboxId != id ||
    match op.receipt with
    | none => !p.pageState.any terminal
    | some receipt => !receipt.pageState.terminal || op.endsActions receipt p

/-- No action waits on a closed page. -/
def PublicationRow.Settled (p : PublicationRow) : Prop :=
  p.pageState.any terminal = true → p.pendingAction = false

/-- The answer to a resend ends the intent that it answers. -/
theorem completedBy_resendRequest (completion : Option (ResultAction × Text)) (q : PublicationRow) :
    (completedBy completion q).pendingResendRequestId =
      q.pendingResendRequestId.filter fun request => completion != some (.resend, request) := by
  rcases completion with _ | ⟨_ | _, request⟩ <;> simp only [completedBy]
  · cases q.pendingResendRequestId <;> rfl
  · split
    next hsame => simp [withoutResend, eq_of_beq hsame, filter_some]
    next hne =>
      cases hq : q.pendingResendRequestId with
      | none => rfl
      | some waiting =>
        have hother : request ≠ waiting := by
          rintro rfl
          exact hne (by simp [hq])
        simp [filter_some, hother]
  · split <;> cases hq : q.pendingResendRequestId <;> simp [withoutRevoke, hq, filter_some]

/-- The answer to a revocation ends the intent that it answers. -/
theorem completedBy_revokeRequest (completion : Option (ResultAction × Text)) (q : PublicationRow) :
    (completedBy completion q).pendingRevokeRequestId =
      q.pendingRevokeRequestId.filter fun request => completion != some (.revoke, request) := by
  rcases completion with _ | ⟨_ | _, request⟩ <;> simp only [completedBy]
  · cases q.pendingRevokeRequestId <;> rfl
  · split <;> cases hq : q.pendingRevokeRequestId <;> simp [withoutResend, hq, filter_some]
  · split
    next hsame => simp [withoutRevoke, eq_of_beq hsame, filter_some]
    next hne =>
      cases hq : q.pendingRevokeRequestId with
      | none => rfl
      | some waiting =>
        have hother : request ≠ waiting := by
          rintro rfl
          exact hne (by simp [hq])
        simp [filter_some, hother]

/-- The answer to an action makes none. -/
theorem completedBy_no_action (hq : q.pendingAction = false) :
    (completedBy completion q).pendingAction = false := by
  obtain ⟨hresend, hrevoke⟩ := Bool.or_eq_false_iff.mp hq
  rw [isSome_eq_false_iff, isNone_iff_eq_none] at hresend hrevoke
  simp [pendingAction, completedBy_resendRequest, completedBy_revokeRequest, hresend, hrevoke]

/-- A receipt that answers or confirms what waits leaves nothing waiting. -/
theorem completedBy_receivedRow_no_action {receipt : RelayResultReceipt}
    (h : op.endsActions receipt p = true) :
    (completedBy op.completion (receivedRow receipt op.completion p)).pendingAction = false := by
  have hresend : (receivedRow receipt op.completion p).pendingResendRequestId =
      if confirmsResend p receipt op.completion && p.pendingResendNotificationId.isSome then none
      else p.pendingResendRequestId := by
    simp only [receivedRow]
    split <;> split <;> rfl
  have hrevoke : (receivedRow receipt op.completion p).pendingRevokeRequestId =
      if receipt.pageState == .revoked then none else p.pendingRevokeRequestId := by
    simp only [receivedRow]
    split <;> split <;> rfl
  obtain ⟨hends, hends'⟩ := Bool.and_eq_true_iff.mp h
  refine Bool.or_eq_false_iff.mpr ⟨?_, ?_⟩
  · rw [completedBy_resendRequest, hresend]
    split
    · rfl
    · cases hreq : p.pendingResendRequestId with
      | none => rfl
      | some => simp_all
  · rw [completedBy_revokeRequest, hrevoke]
    split
    · rfl
    · cases hreq : p.pendingRevokeRequestId with
      | none => rfl
      | some => simp_all

/-- A timely move leaves no action on a closed page. -/
theorem ReceiptMove.settled (h : ReceiptMove id op p p') (htimely : op.timely id p = true)
    (hp : p.Settled) : p'.Settled := by
  intro hclose
  cases h with
  | same => exact hp hclose
  | again =>
    have hpage : (completedBy op.completion p).pageState = p.pageState :=
      congrArg (·.2.2.1) (completedBy_columns op.completion p)
    exact completedBy_no_action (hp (hpage ▸ hclose))
  | @stored receipt hrcpt _ hid =>
    have hpage : (completedBy op.completion (receivedRow receipt op.completion p)).pageState =
        some receipt.pageState :=
      congrArg (·.2.2.1) ((completedBy_columns _ _).trans (receivedRow_columns _ _ p))
    have hterm : receipt.pageState.terminal = true := by simpa [hpage] using hclose
    refine completedBy_receivedRow_no_action ?_
    simpa [ReceiptOp.timely, hid, hrcpt, hterm] using htimely
  | @registered action request hop =>
    have hpage : (withAction action request p).pageState = p.pageState := by
      cases action <;> rfl
    subst hop
    rw [hpage] at hclose
    simp [ReceiptOp.timely, ReceiptOp.outboxId, ReceiptOp.receipt, hclose] at htimely

/-- The delivery of the notice itself is not over, as the destination guard has
it. -/
def OutboxRow.deliveryOpen (r : OutboxRow) : Bool :=
  !r.status.closed || (r.status == .delivered && r.acceptedByRelay && r.remotelyUnsettled)

/-- A row without a waiting action holds the destination for its delivery only. -/
theorem holdsDestination_of_settled {r : OutboxRow} (h : d.actionPending r = false) :
    d.holdsDestination r = r.deliveryOpen := by
  simp [DesktopDatabase.holdsDestination, OutboxRow.deliveryOpen, h]

/-- **A closed page lets go, if every action ends with it.**  Once the page of the
publication is closed no action waits on it.  `prune_retained` deletes its notice
as soon as it is old enough, and the destination can be changed when no other
notice holds it and the delivery of this one is over. -/
theorem closed_page_lets_go (hstart : start.publication id = some s.row)
    (hrun : Run (fun d op d' => ReceiptStep engine d op d' ∧
      ∀ p, d.publication id = some p → op.timely id p = true) start ops d) :
    ∃ p, d.publication id = some p ∧ (p.pageState.any terminal = true →
      p.pendingResendRequestId = none ∧
      (∀ now n d', KeysUnique OutboxRow.id d.store.notificationOutbox →
        OutboxRepository.pruneRetained engine now d = (.ok n, d') → n ≠ outboxRetentionBatchSize →
        ∀ r ∈ d'.store.notificationOutbox, r.id = id → r.retainedLongEnough now = false) ∧
      ∀ {α : Type} (save : Base α), (∀ r ∈ d.store.notificationOutbox,
          (if r.id = id then r.deliveryOpen else d.holdsDestination r) = false) →
        OutboxRepository.guardDestinationChange save d = save d) := by
  have hinvariant : ∃ p, d.publication id = some p ∧ p.Settled := by
    refine hrun.invariant (I := fun d => ∃ p, d.publication id = some p ∧ p.Settled) ?_
      ⟨s.row, hstart, fun h => (by cases h)⟩
    intro a op b ⟨hstep, htimely⟩ ⟨p, hp, hsettled⟩
    obtain ⟨p', hp', hmove⟩ := receiptStep_move hstep hp
    exact ⟨p', hp', hmove.settled (htimely p hp) hsettled⟩
  obtain ⟨p, hp, hsettled⟩ := hinvariant
  refine ⟨p, hp, fun hclosed => ?_⟩
  have hnone := hsettled hclosed
  have hquiet : ∀ r : OutboxRow, r.id = id → d.actionPending r = false := by
    intro r hr
    simp [DesktopDatabase.actionPending, hr, hp, hnone]
  refine ⟨?_, ?_, ?_⟩
  · obtain ⟨hresend, _⟩ := Bool.or_eq_false_iff.mp hnone
    simpa using hresend
  · intro now n d' hunique hprune hpartial r hr hid
    have hrun := allOrNothing_eq_ok.mp hprune
    rw [read_bind_run] at hrun
    obtain ⟨_, rfl, rfl⟩ := execute_pure_eq_ok.mp hrun
    have hdue := forall_not_due_of_partial hunique hpartial r hr
    simpa [DesktopDatabase.noticeDue, hquiet r hid] using hdue
  · intro α save hfree
    have hopen : d.blocksDestinationChange = false := by
      refine List.any_eq_false.mpr fun r hr => ?_
      have hrow := hfree r hr
      split at hrow
      next hid => rw [holdsDestination_of_settled (hquiet r hid), hrow]; decide
      next => rw [hrow]; decide
    simp [OutboxRepository.guardDestinationChange, read_bind_run, hopen]

/-- An intent to resend outlives every receipt that names its notification. -/
theorem resend_waits {more : List ReceiptOp} {recorded : Text}
    (hrun : Run (ReceiptStep engine) d more d')
    (hsame : ∀ op ∈ more, ∀ receipt, op.receipt = some receipt → receipt.notificationId = recorded)
    (hp : d.publication id = some p) (hintent : p.resendIntent = (some request, some recorded)) :
    ∃ p', d'.publication id = some p' ∧ p'.resendIntent = (some request, some recorded) := by
  refine (hrun.restrict hsame).invariant (I := fun d => ∃ p, d.publication id = some p ∧
      p.resendIntent = (some request, some recorded)) ?_ ⟨p, hp, hintent⟩
  intro a op b ⟨hstep, hnames⟩ ⟨q, hq, hwait⟩
  obtain ⟨q', hq', hmove⟩ := receiptStep_move hstep hq
  exact ⟨q', hq', (hmove.keeps_resend hwait hnames).trans hwait⟩

end

/-! ## Intents that go wrong -/

/-- A receipt of the sample's notice. -/
def sampleReceipt (updatedAt : Timestamp) (pageState : RelayResultPageState) :
    RelayResultReceipt where
  schemaVersion := 1
  resultId := text "r"
  sourceHash := List.replicate 64 'a'
  acceptedAt := 0
  updatedAt := updatedAt
  pageState := pageState
  pageExpiresAt := 9
  notificationId := text "n"
  notificationStatus := "provider_accepted"

/-- A receipt of the notification that a resend of the sample made. -/
def sampleResent (updatedAt : Timestamp) (pageState : RelayResultPageState) (status : String) :
    RelayResultReceipt :=
  { sampleReceipt updatedAt pageState with
    notificationId := text "m", notificationStatus := status }

def sampleSubmission : Submission :=
  ⟨text "r", List.replicate 64 'a', 1, text "d", List.replicate 64 'a'⟩

/-- The notice is delivered, and its result is registered for publication. -/
def sampleRegistered : DesktopDatabase where
  store :=
    { DesktopStore.initial with
      retentionCounters := ⟨0, 0, 1, sampleNotice.listContentBytes⟩
      notificationOutbox := [{ sampleNotice with
        id := text "r", status := .delivered, deliveredAt := some 0,
        acceptanceStage := some .relay }] }
  publications := [sampleSubmission.row]

/-- The operations, one after another. -/
def sampleReceipts (ops : List ReceiptOp) : DesktopDatabase :=
  ops.foldl (ReceiptOp.run databaseSqlite) sampleRegistered

theorem run_foldl (d : DesktopDatabase) (ops : List ReceiptOp) :
    Run (ReceiptStep engine) d ops (ops.foldl (ReceiptOp.run engine) d) := by
  induction ops generalizing d with
  | nil => exact .nil d
  | cons op ops ih => exact .cons rfl (ih _)

/-- The sample is registered. -/
theorem sampleRegistered_publication :
    sampleRegistered.publication (text "r") = some sampleSubmission.row := by
  rfl

/-- A resend waits when the page is revoked. -/
def sampleWaiting : List ReceiptOp :=
  [.apply (text "r") (sampleReceipt 1 .available) false,
    .registerAction (text "r") .resend (text "q"),
    .apply (text "r") (sampleReceipt 2 .revoked) false]

/-- A receipt names the notification that the resend made, which is queued. -/
def sampleResentQueued : ReceiptOp := .apply (text "r") (sampleResent 3 .revoked "retry_wait") false

/-- On a revoked page a resend waits, and its notification has ended.  A receipt
names another notification, and an old receipt comes again. -/
theorem receipts_only_move_forward_sample : ∃ p p₁ p',
    (sampleReceipts sampleWaiting).publication (text "r") = some p ∧
    (sampleReceipts (sampleWaiting ++ [sampleResentQueued])).publication (text "r") = some p₁ ∧
    p.Precedes p' ∧ sampleResentQueued.Warrants p p₁ ∧
    p.pageState = some .revoked ∧ p.notificationStatus = some "provider_accepted" ∧
    p.resendIntent = (some (text "q"), some (text "n")) ∧ p₁.notificationId = some (text "m") ∧
    p₁.notificationStatus = some "retry_wait" ∧ p₁.resendIntent = (none, none) := by
  have hcomputed :
      ((sampleReceipts sampleWaiting).publication (text "r")).any (fun p =>
        p.pageState == some .revoked && p.notificationStatus == some "provider_accepted" &&
          p.resendIntent == (some (text "q"), some (text "n"))) = true ∧
      ((sampleReceipts (sampleWaiting ++ [sampleResentQueued])).publication (text "r")).any
        (fun p =>
        p.notificationId == some (text "m") && p.notificationStatus == some "retry_wait" &&
          p.resendIntent == (none, none)) = true := by
    decide +kernel
  obtain ⟨p, p₁, p', hp, hp1, _, hprecedes, hwarrants⟩ :=
    receipts_only_move_forward sampleRegistered_publication
      (run_foldl sampleRegistered sampleWaiting)
      (show ReceiptStep databaseSqlite _ sampleResentQueued _ from rfl)
      (run_foldl _ [.apply (text "r") (sampleReceipt 1 .available) false])
  change (sampleReceipts sampleWaiting).publication (text "r") = _ at hp
  change (sampleReceipts (sampleWaiting ++ [sampleResentQueued])).publication (text "r") = _ at hp1
  simp only [hp, hp1, any_some, Bool.and_eq_true, beq_iff_eq, and_assoc] at hcomputed
  exact ⟨p, p₁, p', hp, hp1, hprecedes, hwarrants, hcomputed⟩

/-- A revocation waits for its answer. -/
def sampleRevoking : List ReceiptOp :=
  [.apply (text "r") (sampleReceipt 1 .available) false,
    .registerAction (text "r") .revoke (text "q")]

/-- The answer, with the page as it is then. -/
def revokeAnswer (pageState : RelayResultPageState) : ReceiptOp :=
  .applyAction (text "r") (sampleReceipt 2 pageState) .revoke (text "q")

/-- The answer to a revocation reports a page that is open, and the intent is gone. -/
theorem revoke_ends_on_open_page :
    ((sampleReceipts sampleRevoking).publication (text "r")).any
      (fun p => p.pendingRevokeRequestId == some (text "q")) = true ∧
    ((sampleReceipts (sampleRevoking ++ [revokeAnswer .available])).publication (text "r")).any
      (fun p => p.pendingRevokeRequestId.isNone && p.pageState == some .available) = true := by
  decide +kernel

/-- A revocation that is confirmed. -/
theorem revoke_ends_on_revoked_page_sample : ∃ p p',
    (sampleReceipts sampleRevoking).publication (text "r") = some p ∧
    (sampleReceipts (sampleRevoking ++ [revokeAnswer .revoked])).publication (text "r") = some p' ∧
    p.pendingRevokeRequestId = some (text "q") ∧ p'.pendingRevokeRequestId = none ∧
    p'.pageState = some .revoked := by
  have hcomputed :
      ((sampleReceipts sampleRevoking).publication (text "r")).any
        (fun p => p.pendingRevokeRequestId == some (text "q")) = true ∧
      ((sampleReceipts (sampleRevoking ++ [revokeAnswer .revoked])).publication (text "r")).any
        (fun p => p.pendingRevokeRequestId == none) = true := by
    decide +kernel
  have hconfirms : ∀ p, (revokeAnswer .revoked).ConfirmsRevoke p := by
    intro p request receipt _ _ hreceipt
    cases hreceipt
    rfl
  obtain ⟨p, p', hp, hp', hends⟩ := revoke_ends_on_revoked_page sampleRegistered_publication
    (run_foldl sampleRegistered sampleRevoking)
    (show ReceiptStep databaseSqlite _ (revokeAnswer .revoked) _ from rfl) fun p _ => hconfirms p
  change (sampleReceipts sampleRevoking).publication (text "r") = _ at hp
  change (sampleReceipts (sampleRevoking ++ [revokeAnswer .revoked])).publication
    (text "r") = _ at hp'
  simp only [hp, hp', any_some, beq_iff_eq] at hcomputed
  obtain ⟨hwaits, hended⟩ := hcomputed
  refine ⟨p, p', hp, hp', hwaits, hended, hends ?_ ?_⟩
  · rw [hwaits]
    rfl
  · rw [hwaits, hended]
    nofun

/-- The page is revoked, and the resend that waited holds the destination whatever
receipts of its notification follow. -/
theorem resend_waits_on_closed_page :
    (sampleReceipts sampleWaiting).blocksDestinationChange = true ∧
    ((sampleReceipts sampleWaiting).publication (text "r")).any
      (fun p => p.pageState == some .revoked) = true ∧
    ∀ more d', Run (ReceiptStep databaseSqlite) (sampleReceipts sampleWaiting) more d' →
      (∀ op ∈ more, ∀ receipt, op.receipt = some receipt → receipt.notificationId = text "n") →
      ∃ p', d'.publication (text "r") = some p' ∧ p'.pendingResendRequestId = some (text "q") := by
  have hcomputed : (sampleReceipts sampleWaiting).blocksDestinationChange = true ∧
      ((sampleReceipts sampleWaiting).publication (text "r")).any
        (fun p => p.pageState == some .revoked) = true ∧
      ((sampleReceipts sampleWaiting).publication (text "r")).map resendIntent =
        some (some (text "q"), some (text "n")) := by
    decide +kernel
  obtain ⟨hblocks, hclosed, hwaits⟩ := hcomputed
  refine ⟨hblocks, hclosed, ?_⟩
  intro more d' hrun hsame
  obtain ⟨p, hp, hintent⟩ := map_eq_some_iff.mp hwaits
  obtain ⟨p', hp', hkept⟩ := resend_waits hrun hsame hp hintent
  exact ⟨p', hp', (Prod.mk.inj hkept).1⟩

/-- A resend makes its notification, and then the page is revoked. -/
def sampleClosing : List ReceiptOp :=
  [.apply (text "r") (sampleReceipt 1 .available) false,
    .registerAction (text "r") .resend (text "q"),
    .apply (text "r") (sampleResent 2 .available "provider_accepted") false,
    .registerAction (text "r") .revoke (text "w"),
    .applyAction (text "r") (sampleResent 3 .revoked "provider_accepted") .revoke (text "w")]

/-- The step, if it is timely for the sample's publication. -/
def timelyNext (d : DesktopDatabase) (op : ReceiptOp) : Option DesktopDatabase :=
  if (d.publication (text "r")).all (op.timely (text "r")) then some (op.run databaseSqlite d)
  else none

/-- A closed page without actions is pruned. -/
theorem closed_page_lets_go_sample : ∃ d d' p, d.publication (text "r") = some p ∧
    p.pageState = some .revoked ∧ p.pendingResendRequestId = none ∧
    OutboxRepository.pruneRetained databaseSqlite 100000000000 d = (.ok 1, d') ∧
    (∀ r ∈ d'.store.notificationOutbox, r.id = text "r" →
      r.retainedLongEnough 100000000000 = false) ∧
    ∀ save : Base Unit, OutboxRepository.guardDestinationChange save d = save d := by
  have hreplay : (replay timelyNext sampleRegistered sampleClosing).any (fun d =>
      (d.publication (text "r")).any (·.pageState == some .revoked) &&
        decide ((d.store.notificationOutbox.map OutboxRow.id).Nodup) &&
        (OutboxRepository.pruneRetained databaseSqlite 100000000000 d).1.toOption == some 1 &&
        d.store.notificationOutbox.all (fun r => r.id == text "r" && !r.deliveryOpen)) = true := by
    decide +kernel
  obtain ⟨d, hrun, hend⟩ := exists_run_of_any hreplay
  simp only [Bool.and_eq_true, decide_eq_true_eq, beq_iff_eq, List.all_eq_true,
    Bool.not_eq_true'] at hend
  obtain ⟨⟨⟨hpage, hunique⟩, hpruned⟩, hfree⟩ := hend
  have htimely : Run (fun d op d' => ReceiptStep databaseSqlite d op d' ∧
      ∀ p, d.publication (text "r") = some p → op.timely (text "r") p = true)
      sampleRegistered sampleClosing d := by
    refine hrun.mono fun a op b hstep => ?_
    obtain ⟨hguard, rfl⟩ := of_guard hstep
    exact ⟨rfl, fun p hp => by simpa [hp] using hguard⟩
  obtain ⟨p, hp, hlets⟩ := closed_page_lets_go sampleRegistered_publication htimely
  have hrevoked : p.pageState = some .revoked := by simpa [hp] using hpage
  obtain ⟨hnone, hprune, hguard⟩ := hlets (by rw [hrevoked]; rfl)
  rcases hpass : OutboxRepository.pruneRetained databaseSqlite 100000000000 d with ⟨_ | n, d'⟩
  · simp [hpass, Except.toOption] at hpruned
  simp only [hpass, Except.toOption, some_inj] at hpruned
  subst hpruned
  refine ⟨d, d', p, hp, hrevoked, hnone, hpass, hprune _ _ _ hunique hpass (by decide), ?_⟩
  intro save
  refine hguard save fun r hr => ?_
  obtain ⟨hid, hover⟩ := hfree r hr
  rw [if_pos hid, hover]

end PromptDock.Desktop
