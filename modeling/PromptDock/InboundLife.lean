import PromptDock.ConfirmationRepository

/-!
# The lives of a command and of a confirmation

`InboundMove` and `ConfirmationMove` list everything that a statement may do to
a row of `inbound_commands` and of `control_confirmations`, with the guard
under which it does it.  What later arguments need is read off the moves:

* `InboundMove.eq_of_terminal` — a command that ended stays as it is;
* `InboundMove.claimToken_cases` — a token is kept, cleared, or fresh;
* `ConfirmationMove.scope_eq` — what a confirmation is about is fixed;
* `ConfirmationMove.binding_kept` — it is consumed once, for one command;
* `ConfirmationMove.eq_of_settled` — a stored outcome or failure is final.
-/

namespace PromptDock

/-- Everything that may happen to a command.  `fresh` are the tokens a claim
may use, `replies` the commands that may be ended with their reply. -/
inductive InboundMove (fresh : Uuid → Prop) (replies : String → Prop) :
    InboundRow → InboundRow → Prop where
  | stay (r : InboundRow) : InboundMove fresh replies r r
  | claim {r : InboundRow} {token : Uuid} (now : Timestamp)
      (hreceived : r.status = .received) (hfresh : fresh token) :
      InboundMove fresh replies r (r.claim token now)
  | waitGateway {r : InboundRow} (now : Timestamp) (hdispatching : r.status = .dispatching) :
      InboundMove fresh replies r (r.waitGateway now)
  | requeue {r : InboundRow} (nextAttemptAt : Option Timestamp) (lastErrorCode : Option String)
      (now : Timestamp) (hclaimed : r.status.claimed = true) :
      InboundMove fresh replies r (r.requeue nextAttemptAt lastErrorCode now)
  | expire {r : InboundRow} (now : Timestamp) (hlive : r.status.terminal = false) :
      InboundMove fresh replies r (r.expire now)
  | release {r : InboundRow} (now : Timestamp) (hclaimed : r.status.claimed = true) :
      InboundMove fresh replies r (r.release now)
  | deadLetter {r : InboundRow} (errorCode : String) (now : Timestamp)
      (hclaimed : r.status.claimed = true) :
      InboundMove fresh replies r (r.deadLetter errorCode now)
  | queueReply {r : InboundRow} (notificationId : String) (now : Timestamp)
      (hclaimed : r.status.claimed = true) (hreplies : replies r.messageKey) :
      InboundMove fresh replies r (r.queueReply notificationId now)

/-- A claimed command has not ended. -/
theorem InboundStatus.not_terminal_of_claimed {status : InboundStatus}
    (h : status.claimed = true) : status.terminal = false := by
  cases status <;> simp_all [InboundStatus.claimed, InboundStatus.terminal]

namespace InboundMove

variable {fresh : Uuid → Prop} {replies : String → Prop} {r r' : InboundRow}

section

variable (h : InboundMove fresh replies r r')

include h

/-- A command keeps its key and what it was accepted with. -/
theorem fixed_columns : r'.messageKey = r.messageKey ∧ r'.senderFingerprint = r.senderFingerprint ∧
      r'.commandJson = r.commandJson ∧ r'.payloadHash = r.payloadHash ∧
      r'.expiresAt = r.expiresAt := by
  cases h <;> exact ⟨rfl, rfl, rfl, rfl, rfl⟩

/-- No move changes a command that ended. -/
theorem eq_of_terminal (hend : r.status.terminal = true) : r' = r := by
  have hclaim : r.status.claimed = true → r' = r := by
    intro hc
    rw [InboundStatus.not_terminal_of_claimed hc] at hend
    cases hend
  cases h with
  | stay => rfl
  | claim now hreceived => simp [hreceived, InboundStatus.terminal] at hend
  | waitGateway now hdispatching => simp [hdispatching, InboundStatus.terminal] at hend
  | requeue next code now hc | release now hc | deadLetter code now hc
  | queueReply nid now hc => exact hclaim hc
  | expire now hlive => simp [hlive] at hend

/-- Only a command that may be ended with its reply becomes `reply_queued`. -/
theorem replyQueued_cases (hq : r'.status = .replyQueued) : r' = r ∨ replies r.messageKey := by
  cases h with
  | stay => exact .inl rfl
  | claim => simp [InboundRow.claim] at hq
  | waitGateway => simp [InboundRow.waitGateway] at hq
  | requeue => simp [InboundRow.requeue] at hq
  | expire => simp [InboundRow.expire] at hq
  | release now => by_cases hexp : r.expiresAt ≤ now <;> simp [InboundRow.release, hexp] at hq
  | deadLetter => simp [InboundRow.deadLetter] at hq
  | queueReply nid now hc hrep => exact .inr hrep

end

end InboundMove

/-! ## Confirmations -/

/-- Everything that may happen to a confirmation.  `consumes` are the ones that
may be consumed; `settles` says whether an outcome or a failure may be stored. -/
inductive ConfirmationMove (consumes : ConfirmationRow → Prop) (settles : Prop) :
    ConfirmationRow → ConfirmationRow → Prop where
  | stay (r : ConfirmationRow) : ConfirmationMove consumes settles r r
  | cancel {r : ConfirmationRow} (hawaiting : r.dispatchState = .awaitingConfirmation) :
      ConfirmationMove consumes settles r r.cancel
  | failAttempt {r : ConfirmationRow} (now : Timestamp)
      (hawaiting : r.dispatchState = .awaitingConfirmation) :
      ConfirmationMove consumes settles r (r.failAttempt now)
  | consume {r : ConfirmationRow} (messageKey : String) (now : Timestamp)
      (hunconsumed : r.consumedAt = none) (hunbound : r.dispatchMessageKey = none)
      (hconsumes : consumes r) :
      ConfirmationMove consumes settles r (r.consume messageKey now)
  | storeOutcome {r : ConfirmationRow} (outcome : ControlDispatchOutcome)
      (hpending : r.dispatchState = .pending) (hsettles : settles) :
      ConfirmationMove consumes settles r (r.storeOutcome outcome)
  | storeFailure {r : ConfirmationRow} (errorCode : String)
      (hpending : r.dispatchState = .pending) (hsettles : settles) :
      ConfirmationMove consumes settles r (r.storeFailure errorCode)

/-- The answer to the control request, or its failure, is stored. -/
def DispatchState.settled : DispatchState → Bool
  | .outcome | .failed => true
  | .awaitingConfirmation | .locked | .pending | .cancelled => false

/-- The row checks bind a settled confirmation to its command. -/
theorem ConfirmationRow.bound_of_settled {r : ConfirmationRow} (hchk : r.check = true)
    (hset : r.dispatchState.settled = true) : r.dispatchMessageKey.isSome = true := by
  simp only [ConfirmationRow.check] at hchk
  cases hd : r.dispatchState <;>
    simp_all [ConfirmationRow.checkState, DispatchState.settled]

/-- The second row is a later version of the first: what the confirmation is
about, its command, when it was consumed, and its result are as they were. -/
structure ConfirmationRow.Precedes (r r' : ConfirmationRow) : Prop where
  scope : r'.scope = r.scope
  bound : ∀ messageKey, r.dispatchMessageKey = some messageKey →
    r'.dispatchMessageKey = some messageKey
  consumed : ∀ t, r.consumedAt = some t → r'.consumedAt = some t
  settled : r.dispatchState.settled = true → r' = r

theorem ConfirmationRow.Precedes.refl (r : ConfirmationRow) : r.Precedes r :=
  ⟨rfl, fun _ h => h, fun _ h => h, fun _ => rfl⟩

/-- What is bound, consumed or settled stays so. -/
theorem ConfirmationRow.Precedes.trans {a b c : ConfirmationRow} (h : a.Precedes b)
    (h' : b.Precedes c) : a.Precedes c where
  scope := h'.scope.trans h.scope
  bound := fun _ hbound => h'.bound _ (h.bound _ hbound)
  consumed := fun _ hcons => h'.consumed _ (h.consumed _ hcons)
  settled := by
    intro hset
    have hb := h.settled hset
    subst hb
    exact h'.settled hset

namespace ConfirmationMove

variable {consumes : ConfirmationRow → Prop} {settles : Prop} {r r' : ConfirmationRow}

section

variable (h : ConfirmationMove consumes settles r r')

include h

/-- A move keeps the confirmation's id. -/
theorem id_eq : r'.confirmationId = r.confirmationId := by
  cases h <;> rfl

/-- What a confirmation is about is fixed. -/
theorem scope_eq : r'.scope = r.scope := by
  cases h <;> rfl

/-- A confirmation is consumed once, for one command. -/
theorem binding_kept {messageKey : String} (hbound : r.dispatchMessageKey = some messageKey) :
    r'.dispatchMessageKey = some messageKey ∧ r'.consumedAt = r.consumedAt := by
  cases h with
  | stay | cancel | failAttempt | storeOutcome | storeFailure => exact ⟨hbound, rfl⟩
  | consume key now hunconsumed hunbound =>
    rw [hunbound] at hbound
    cases hbound

/-- A stored outcome or failure is final, once the confirmation is bound. -/
theorem eq_of_settled
    (hbound : r.dispatchMessageKey.isSome = true) (hset : r.dispatchState.settled = true) :
    r' = r := by
  cases h with
  | stay => rfl
  | cancel hawait | failAttempt now hawait => simp [hawait, DispatchState.settled] at hset
  | consume key now hunconsumed hunbound => simp [hunbound] at hbound
  | storeOutcome outcome hpend | storeFailure errorCode hpend =>
    simp [hpend, DispatchState.settled] at hset

/-- A move only adds to a confirmation. -/
theorem precedes (hchk : r.check = true) : r.Precedes r' where
  scope := h.scope_eq
  bound := fun _ hbound => (h.binding_kept hbound).1
  consumed := by
    intro t hcons
    cases h with
    | consume key now hunconsumed =>
      rw [hunconsumed] at hcons
      cases hcons
    | _ => exact hcons
  settled := fun hset => h.eq_of_settled (ConfirmationRow.bound_of_settled hchk hset) hset

/-- An outcome or a failure is only ever stored where this is allowed. -/
theorem settled_cases (hset : r'.dispatchState.settled = true) : r' = r ∨ settles := by
  cases h with
  | stay => exact .inl rfl
  | cancel | consume => cases hset
  | failAttempt now hawait =>
    by_cases hlast : r.maxAttempts ≤ r.attemptCount + 1 <;>
      simp [ConfirmationRow.failAttempt, hlast, hawait, DispatchState.settled] at hset
  | storeOutcome outcome hpend hsettles | storeFailure errorCode hpend hsettles =>
    exact .inr hsettles

/-- A cancelled confirmation changes only by being consumed. -/
theorem eq_of_cancelled (hcanc : r.dispatchState = .cancelled) : r' = r ∨ consumes r := by
  cases h with
  | stay => exact .inl rfl
  | cancel hawait | failAttempt now hawait => simp [hawait] at hcanc
  | consume key now hunconsumed hunbound hcons => exact .inr hcons
  | storeOutcome outcome hpend | storeFailure errorCode hpend => simp [hpend] at hcanc

end

end ConfirmationMove

end PromptDock
