import PromptDock.Wechat.LoginManager

/-!
# What a call does to the table of logins

Almost every method of the login manager first finishes the sessions whose time is
up and drops the ones that ended long ago.  What it does after that is one of a few
moves (`LoginMove`): it leaves the table alone, changes a session that stays under
way, ends one, or adds one.  `call_move` reads this off the methods; the facts about
sequences of calls only look at the moves.
-/

namespace PromptDock.Wechat

open LoginSessions LoginSession Option Bool

/-- What a call does to a session that stays under way. -/
inductive SessionChange (tools : LoginTools) :
    LoginOp → Uuid → LoginSession → LoginSession → Prop where
  | rebind {starter : LoginStarter} {forceFresh active : Bool} {drawn id : Uuid}
      {wall : Option Timestamp} {session : LoginSession}
      (hawaiting : session.awaitingCutover = true → starter.authority.adminAuthorization = none) :
      SessionChange tools (.start starter forceFresh active drawn wall) id session
        (session.rebind starter.authority)
  | verify {owner id : Uuid} {code : String} {session : LoginSession}
      (hawaiting : session.awaitingCutover = false)
      (hattempts : session.verifyAttempts < maxVerifyAttempts) :
      SessionChange tools (.submitVerifyCode owner id code) id session (session.takeCode code)
  | qr {id : Uuid} {response : GetBotQrCodeResponse} {session : LoginSession}
      (hawaiting : session.awaitingCutover = false) :
      SessionChange tools (.installQr id response) id session (session.showQr response)
  | status {id : Uuid} {generation revision : Nat} {response : GetQrCodeStatusResponse}
      {active : Bool} {wall : Option Timestamp} {session : LoginSession} {state : LoginState}
      {baseUrl : Url} (hawaiting : session.awaitingCutover = false)
      (hgeneration : session.qrGeneration = generation) (hstate : state.isTerminal = false) :
      SessionChange tools (.applyProviderStatus id generation revision response active wall) id
        session { session.dropCarried revision with state := state, baseUrl := baseUrl }
  | refresh {id : Uuid} {generation revision : Nat} {response : GetQrCodeStatusResponse}
      {active : Bool} {wall : Option Timestamp} {session : LoginSession}
      (hawaiting : session.awaitingCutover = false)
      (hgeneration : session.qrGeneration = generation) (hstatus : response.status = .expired) :
      SessionChange tools (.applyProviderStatus id generation revision response active wall) id
        session (session.dropCarried revision).refreshQr
  | confirm {id : Uuid} {generation revision : Nat} {response : GetQrCodeStatusResponse}
      {active : Bool} {wall : Timestamp} {session : LoginSession} {bundle : ConnectionBundle}
      (hawaiting : session.awaitingCutover = false)
      (hgeneration : session.qrGeneration = generation) (hstatus : response.status = .confirmed)
      (hbundle : confirmedBundle tools response session.baseUrl wall = some bundle) :
      SessionChange tools (.applyProviderStatus id generation revision response active (some wall))
        id session (session.dropCarried revision).awaitCutover
  | commit {id owner : Uuid} {session : LoginSession} (hawaits : session.awaits owner = true) :
      SessionChange tools (.beginCutover id owner) id session
        { session with cutoverCommitting := true }

/-- How a call ends a session that was under way. -/
inductive SessionEnd :
    LoginOp → Uuid → LoginSession → LoginState → Option String → Prop where
  | cancel {owner id : Uuid} {session : LoginSession}
      (hcommitting : session.cutoverCommitting = false) :
      SessionEnd (.cancel owner id) id session .cancelled none
  | disconnect {id : Uuid} {session : LoginSession} :
      SessionEnd .cancelCandidateForDisconnect id session .cancelled none
  | badQr {id : Uuid} {response : GetBotQrCodeResponse} {session : LoginSession}
      (hawaiting : session.awaitingCutover = false) :
      SessionEnd (.installQr id response) id session .failed (some errorInvalidProviderResponse)
  | status {id : Uuid} {generation revision : Nat} {response : GetQrCodeStatusResponse}
      {active : Bool} {wall : Option Timestamp} {session : LoginSession} {state : LoginState}
      {errorCode : Option String} (hawaiting : session.awaitingCutover = false)
      (hstate : state.isTerminal = true) :
      SessionEnd (.applyProviderStatus id generation revision response active wall) id session state
        errorCode
  | cutover {id : Uuid} {outcome : CutoverOutcome} {session : LoginSession}
      (hawaiting : session.awaitingCutover = true) :
      SessionEnd (.finishCutover id outcome) id session (cutoverEnd outcome).1
        (cutoverEnd outcome).2
  | fail {id : Uuid} {session : LoginSession} :
      SessionEnd (.failProvider id) id session .failed (some errorProviderUnavailable)

/-- A session ends in a terminal state. -/
theorem SessionEnd.terminal {op : LoginOp} {id : Uuid} {session : LoginSession}
    {state : LoginState} {errorCode : Option String}
    (h : SessionEnd op id session state errorCode) :
    state.isTerminal = true := by
  cases h with
  | status _ hst => exact hst
  | @cutover _ outcome => cases outcome <;> rfl
  | _ => rfl

/-- The state of the session that an answer says was created. -/
def LoginAnswer.created : LoginAnswer → Option LoginState
  | .started (.ok outcome) => if outcome.created then some outcome.snapshot.state else none
  | _ => none

/-- The methods take a session for one under way if its state says so, if it is the
candidate, or if it awaits its cutover. -/
def LoginSessions.Occupies (t : LoginSessions) (id : Uuid) (session : LoginSession) : Prop :=
  session.state.isTerminal = false ∨ t.candidateId = some id ∨ session.awaitingCutover = true

/-- What a call does to the table. -/
inductive LoginMove (tools : LoginTools) (limits : LoginLimits) (now : Nat) :
    LoginOp → LoginAnswer → LoginSessions → LoginSessions → Prop where
  | keep {op : LoginOp} {answer : LoginAnswer} {t : LoginSessions}
      (hquiet : answer.created = none) :
      LoginMove tools limits now op answer t t
  | release {op : LoginOp} {answer : LoginAnswer} {t : LoginSessions} {id : Uuid}
      {session : LoginSession} (hquiet : answer.created = none)
      (hsession : t.sessions id = some session) (hterminal : session.state.isTerminal = true) :
      LoginMove tools limits now op answer t (t.releaseCandidate id)
  | refuse {op : LoginOp} {answer : LoginAnswer} {t : LoginSessions} (owner : Uuid)
      (hquiet : answer.created = none) :
      LoginMove tools limits now op answer t (t.recordQrStart owner now).2
  | change {op : LoginOp} {answer : LoginAnswer} {t : LoginSessions} {id : Uuid}
      {session session' : LoginSession} (hquiet : answer.created = none)
      (hsession : t.sessions id = some session)
      (hlive : t.Occupies id session)
      (hchange : SessionChange tools op id session session') :
      LoginMove tools limits now op answer t (t.put id session')
  | finish {op : LoginOp} {answer : LoginAnswer} {t : LoginSessions} {id : Uuid}
      {session : LoginSession} {state : LoginState} {errorCode : Option String}
      (hquiet : answer.created = none) (hsession : t.sessions id = some session)
      (hlive : t.Occupies id session)
      (hend : SessionEnd op id session state errorCode) :
      LoginMove tools limits now op answer t (t.finish id session state errorCode now)
  | startQr {t : LoginSessions} {starter : LoginStarter} {forceFresh active : Bool} {id : Uuid}
      {wallNow : Option Timestamp} {wall : Timestamp} {baseUrl : Url} {outcome : StartOutcome}
      (hcandidate : t.candidateId = none) (hrecord : (t.recordQrStart starter.owner now).1 = true) :
      LoginMove tools limits now (.start starter forceFresh active id wallNow)
        (.started (.ok outcome)) t
        ((t.recordQrStart starter.owner now).2.create limits starter.owner .fetchingQr
          starter.authority id now wall baseUrl).2
  | startConnected {t : LoginSessions} {starter : LoginStarter} {forceFresh active : Bool}
      {id : Uuid} {wallNow : Option Timestamp} {wall : Timestamp} {baseUrl : Url}
      {outcome : StartOutcome}
      (houtcome : outcome.snapshot.state = .alreadyConnected) (hcandidate : t.candidateId = none) :
      LoginMove tools limits now (.start starter forceFresh active id wallNow)
        (.started (.ok outcome)) t
        (t.create limits starter.owner .alreadyConnected starter.authority id now wall baseUrl).2

/-! ## The moves of the methods -/

namespace LoginSessions

variable {tools : LoginTools} {limits : LoginLimits} {now : Nat} {s : LoginSessions}
  {session : LoginSession} {id : Uuid} {starter : LoginStarter} {forceFresh active : Bool}
  {wallNow : Option Timestamp} {wall : Timestamp}

/-- A session is found for its owner only. -/
theorem ownerSession_some {owner : Uuid} (h : s.ownerSession owner id = some session) :
    s.sessions id = some session ∧ session.ownerDeviceId = owner := by
  obtain ⟨hsess, hown⟩ := filter_eq_some_iff.mp h
  exact ⟨hsess, by simpa using hown⟩

theorem live_of_not (h : ¬ (session.state.isTerminal || session.awaitingCutover) = true) :
    session.state.isTerminal = false ∧ session.awaitingCutover = false := by
  simpa using h

@[simp] theorem dropCarried_finish (session : LoginSession) (rev : Nat) (state : LoginState)
    (errorCode : Option String) : (session.dropCarried rev).finish state errorCode now =
      session.finish state errorCode now := by
  unfold dropCarried
  split <;> rfl

/-- A session that ends has no code to drop. -/
theorem finish_dropCarried (id : Uuid) (session : LoginSession) (rev : Nat)
    (state : LoginState) (errorCode : Option String) :
    s.finish id (session.dropCarried rev) state errorCode now =
      s.finish id session state errorCode now := by
  simp [finish]

/-- A login starts where there is no candidate. -/
theorem startNew_move (hcand : s.candidateId = none) :
    LoginMove tools limits now (.start starter forceFresh active id wallNow)
      (.started (s.startNew tools limits starter.owner forceFresh active starter.authority id now
        wall).1)
      s (s.startNew tools limits starter.owner forceFresh active starter.authority
        id now wall).2 := by
  simp only [startNew]
  split
  · exact .keep rfl
  split
  · exact .keep rfl
  by_cases hact : (active && !forceFresh) = true
  · simp only [if_pos hact]
    cases tools.productionBaseUrl with
    | none => exact .keep rfl
    | some => exact .startConnected rfl hcand
  simp only [if_neg hact, if_true]
  by_cases hrec : (s.recordQrStart starter.owner now).1 = true
  · simp only [if_pos hrec]
    cases tools.productionBaseUrl with
    | none => exact .refuse _ rfl
    | some => exact .startQr hcand hrec
  · simp only [if_neg hrec]
    exact .refuse _ rfl

/-- A start makes a login, finds the owner's candidate, or is refused. -/
theorem startAt_move {res : Except LoginError StartOutcome × LoginSessions}
    (h : s.startAt tools limits starter.owner forceFresh active starter.authority id now wall =
      some res) :
    LoginMove tools limits now (.start starter forceFresh active id wallNow) (.started res.1)
      (s.expireAndPurge limits now) res.2 := by
  simp only [startAt] at h
  generalize s.expireAndPurge limits now = t at h ⊢
  cases hcand : t.candidateId with
  | none =>
    simp only [hcand, some.injEq] at h
    subst h
    exact startNew_move hcand
  | some =>
    simp only [hcand, map_eq_some_iff] at h
    obtain ⟨existing, hexisting, rfl⟩ := h
    by_cases hown : existing.ownerDeviceId = starter.owner
    · by_cases href : (existing.awaitingCutover &&
          starter.authority.adminAuthorization.isSome) = true
      · simp only [if_pos hown, if_pos href]
        exact .keep rfl
      simp only [if_pos hown, if_neg href]
      refine .change rfl hexisting (.inr (.inl hcand)) (.rebind ?_)
      intro hawait
      simpa [hawait] using href
    · simp only [if_neg hown]
      exact .keep rfl

theorem snapshotAt_move (owner id : Uuid) :
    LoginMove tools limits now (.snapshot owner id) (.snapshot (s.snapshotAt limits owner id now).1)
      (s.expireAndPurge limits now) (s.snapshotAt limits owner id now).2 := by
  simp only [snapshotAt]
  split <;> exact .keep rfl

/-- A code is taken where one is required, and else refused. -/
theorem submitVerifyCode_move (owner id : Uuid) (code : String) :
    ∃ t, (t = s ∨ t = s.expireAndPurge limits now) ∧
      LoginMove tools limits now (.submitVerifyCode owner id code)
        (.snapshot (s.submitVerifyCode limits owner id code now).1) t
        (s.submitVerifyCode limits owner id code now).2 := by
  simp only [submitVerifyCode]
  split
  · exact ⟨s, .inl rfl, .keep rfl⟩
  refine ⟨_, .inr rfl, ?_⟩
  generalize s.expireAndPurge limits now = t
  split
  · exact .keep rfl
  rename_i session hsess
  split
  · exact .keep rfl
  rename_i hlive
  obtain ⟨hlive, hawait⟩ := live_of_not hlive
  split
  · exact .keep rfl
  split
  · exact .keep rfl
  rename_i hatt
  exact .change rfl (ownerSession_some hsess).1 (.inl hlive)
    (.verify hawait (Nat.lt_of_not_le hatt))

/-- A cancellation ends the session, unless its cutover commits. -/
theorem cancel_move (owner id : Uuid) :
    LoginMove tools limits now (.cancel owner id) (.snapshot (s.cancel limits owner id now).1)
      (s.expireAndPurge limits now) (s.cancel limits owner id now).2 := by
  simp only [cancel]
  generalize s.expireAndPurge limits now = t
  split
  · exact .keep rfl
  rename_i session hsess
  split
  · exact .keep rfl
  rename_i hcom
  split
  · rename_i hterm
    exact .release rfl (ownerSession_some hsess).1 hterm
  rename_i hlive
  exact .finish rfl (ownerSession_some hsess).1 (.inl (eq_false_iff.mpr hlive))
    (.cancel (eq_false_iff.mpr hcom))

/-- A disconnect ends the candidate at most. -/
theorem cancelCandidateForDisconnect_move {res : Option Uuid × LoginSessions}
    (h : s.cancelCandidateForDisconnect limits now = some res) :
    LoginMove tools limits now .cancelCandidateForDisconnect (.cancelledCandidate res.1)
      (s.expireAndPurge limits now) res.2 := by
  simp only [cancelCandidateForDisconnect] at h
  generalize s.expireAndPurge limits now = t at h ⊢
  cases hcand : t.candidateId with
  | none =>
    simp only [hcand, some.injEq] at h
    subst h
    exact .keep rfl
  | some id =>
    simp only [hcand, map_eq_some_iff] at h
    obtain ⟨session, hsess, rfl⟩ := h
    split
    · rename_i hterm
      exact .release rfl hsess hterm
    · rename_i hlive
      exact .finish rfl hsess (.inl (eq_false_iff.mpr hlive)) .disconnect

theorem installQr_move (id : Uuid) (resp : GetBotQrCodeResponse) :
    LoginMove tools limits now (.installQr id resp)
      (.installed (s.installQr limits id resp now).1) (s.expireAndPurge limits now)
      (s.installQr limits id resp now).2 := by
  simp only [installQr]
  generalize s.expireAndPurge limits now = t
  split
  · exact .keep rfl
  rename_i session hsess
  split
  · exact .keep rfl
  rename_i hlive
  obtain ⟨hlive, hawait⟩ := live_of_not hlive
  split
  · exact .finish rfl hsess (.inl hlive) (.badQr hawait)
  · exact .change rfl hsess (.inl hlive) (.qr hawait)

/-- A poll only reads its session. -/
theorem pollInput_move (id : Uuid) :
    LoginMove tools limits now (.pollInput id) (.polls (s.pollInput limits id now).1)
      (s.expireAndPurge limits now) (s.pollInput limits id now).2 := by
  simp only [pollInput]
  split
  · exact .keep rfl
  split
  · exact .keep rfl
  · split <;> exact .keep rfl

theorem workerCancellation_move (id : Uuid) : LoginMove tools limits now (.workerCancellation id)
      (.worker (s.workerCancellation limits id now).1) (s.expireAndPurge limits now)
      (s.workerCancellation limits id now).2 := by
  simp only [workerCancellation]
  split <;> exact .keep rfl

/-- What the answer of the provider does to a session that is neither over nor
confirmed. -/
theorem applyStatus_move {gen rev : Nat} {resp : GetQrCodeStatusResponse}
    {answer : LoginAnswer} (hquiet : answer.created = none)
    (hsess : s.sessions id = some session) (hlive : session.state.isTerminal = false)
    (hawait : session.awaitingCutover = false)
    (hgen : session.qrGeneration = gen) : LoginMove tools limits now
      (.applyProviderStatus id gen rev resp active (some wall)) answer s
      (s.applyStatus tools id (session.dropCarried rev) resp active now wall).2 := by
  have hbase : (session.dropCarried rev).baseUrl = session.baseUrl := by
    unfold dropCarried
    split <;> rfl
  have hstat : ∀ (state : LoginState) (baseUrl : Url), state.isTerminal = false →
      LoginMove tools limits now (.applyProviderStatus id gen rev resp active (some wall)) answer s
        (s.put id { session.dropCarried rev with state := state, baseUrl := baseUrl }) :=
    fun _ _ hst => .change hquiet hsess (.inl hlive) (.status hawait hgen hst)
  have hfin : ∀ (state : LoginState) (errorCode : Option String), state.isTerminal = true →
      LoginMove tools limits now (.applyProviderStatus id gen rev resp active (some wall)) answer s
        (s.finish id (session.dropCarried rev) state errorCode now) := by
    intro state errorCode hst
    rw [finish_dropCarried]
    exact .finish hquiet hsess (.inl hlive) (.status hawait hst)
  unfold applyStatus
  cases hcode : resp.status with
  | wait => exact hstat .waitingScan _ rfl
  | scaned => exact hstat .scanned _ rfl
  | needVerifyCode => exact hstat .verifyCodeRequired _ rfl
  | unknown | verifyCodeBlocked => exact hfin _ _ rfl
  | expired =>
    dsimp only
    split
    · exact .change hquiet hsess (.inl hlive) (.refresh hawait hgen hcode)
    · exact hfin _ _ rfl
  | scanedButRedirect =>
    dsimp only
    split
    · exact hfin _ _ rfl
    · exact hstat .scanned _ rfl
  | bindedRedirect =>
    dsimp only
    split <;> exact hfin _ _ rfl
  | confirmed =>
    dsimp only
    split
    · exact hfin _ _ rfl
    rename_i hbun
    rw [hbase] at hbun
    exact .change hquiet hsess (.inl hlive) (.confirm hawait hgen hcode hbun)

/-- An answer of the provider changes its session or ends it. -/
theorem applyProviderStatusAt_move (id : Uuid) (gen rev : Nat)
    (resp : GetQrCodeStatusResponse) (active : Bool) (wall : Timestamp) : LoginMove tools limits now
      (.applyProviderStatus id gen rev resp active (some wall)) (.directed
        (s.applyProviderStatusAt tools limits id gen rev resp active now wall).1)
      (s.expireAndPurge limits now)
      (s.applyProviderStatusAt tools limits id gen rev resp active now wall).2 := by
  simp only [applyProviderStatusAt]
  generalize s.expireAndPurge limits now = t
  split
  · exact .keep rfl
  rename_i session hsess
  split
  · exact .keep rfl
  rename_i hlive
  obtain ⟨hlive, hawait⟩ := live_of_not hlive
  split
  · exact .keep rfl
  · rename_i hgen
    exact applyStatus_move rfl hsess hlive hawait (not_not.mp hgen)

/-- A cutover ends its session as it came out. -/
theorem finishCutover_move (id : Uuid) (outcome : CutoverOutcome) :
    LoginMove tools limits now (.finishCutover id outcome)
      (.snapshot (s.finishCutover id outcome now).1) s (s.finishCutover id outcome now).2 := by
  simp only [finishCutover]
  split
  · exact .keep rfl
  rename_i session hsess
  split
  · rename_i hawait
    exact .finish rfl hsess (.inr (.inr hawait)) (.cutover hawait)
  · split <;> exact .keep rfl

/-- A provider that fails ends a live session. -/
theorem failProvider_move (id : Uuid) :
    LoginMove tools limits now (.failProvider id) (.failed (s.failProvider limits id now).1)
      (s.expireAndPurge limits now) (s.failProvider limits id now).2 := by
  simp only [failProvider]
  generalize s.expireAndPurge limits now = t
  split
  · exact .keep rfl
  rename_i session hsess
  split
  · rename_i hterm
    exact .release rfl hsess hterm
  · rename_i hlive
    exact .finish rfl hsess (.inl (eq_false_iff.mpr hlive)) .fail

/-- A cutover begins only for the candidate. -/
theorem beginCutover_move (id owner : Uuid) :
    LoginMove tools limits now (.beginCutover id owner)
      (.flag (s.beginCutover limits id owner now).1)
      (s.expireAndPurge limits now) (s.beginCutover limits id owner now).2 := by
  simp only [beginCutover]
  generalize s.expireAndPurge limits now = t
  split
  · rename_i hcand
    split
    · exact .keep rfl
    rename_i session hsess
    split
    · rename_i haw
      exact .change rfl hsess (.inr (.inl hcand)) (.commit haw)
    · exact .keep rfl
  · exact .keep rfl

end LoginSessions

variable {tools : LoginTools} {limits : LoginLimits} {now : Nat} {op : LoginOp}
  {answer : LoginAnswer} {s s' t t' : LoginSessions}

/-- Every call is a move, on the table or on the table without what has expired. -/
theorem call_move (h : op.call tools limits now s = some (answer, s')) :
    ∃ t, (t = s ∨ t = s.expireAndPurge limits now) ∧
      LoginMove tools limits now op answer t s' := by
  cases op with
  | start starter forceFresh active id wallNowMs =>
    simp only [LoginOp.call] at h
    split at h
    · cases wallNowMs with
      | none =>
        cases h
        exact ⟨_, .inl rfl, .keep rfl⟩
      | some =>
        simp only [map_eq_some_iff] at h
        obtain ⟨res, hres, heq⟩ := h
        cases heq
        exact ⟨_, .inr rfl, startAt_move hres⟩
    · cases h
      exact ⟨_, .inl rfl, .keep rfl⟩
  | snapshot owner id =>
    cases h
    exact ⟨_, .inr rfl, snapshotAt_move owner id⟩
  | submitVerifyCode owner id code =>
    cases h
    exact submitVerifyCode_move owner id code
  | cancel owner id =>
    cases h
    exact ⟨_, .inr rfl, cancel_move owner id⟩
  | cancelCandidateForDisconnect =>
    simp only [LoginOp.call, map_eq_some_iff] at h
    obtain ⟨res, hres, heq⟩ := h
    cases heq
    exact ⟨_, .inr rfl, cancelCandidateForDisconnect_move hres⟩
  | installQr id resp =>
    cases h
    exact ⟨_, .inr rfl, installQr_move id resp⟩
  | pollInput id =>
    cases h
    exact ⟨_, .inr rfl, pollInput_move id⟩
  | workerCancellation id =>
    cases h
    exact ⟨_, .inr rfl, workerCancellation_move id⟩
  | applyProviderStatus id gen rev resp active wallNowMs =>
    cases wallNowMs with
    | none =>
      cases h
      exact ⟨_, .inl rfl, .keep rfl⟩
    | some wall =>
      cases h
      exact ⟨_, .inr rfl, applyProviderStatusAt_move id gen rev resp active wall⟩
  | finishCutover id outcome =>
    cases h
    exact ⟨_, .inl rfl, finishCutover_move id outcome⟩
  | failProvider id =>
    cases h
    exact ⟨_, .inr rfl, failProvider_move id⟩
  | candidateIsCurrent =>
    cases h
    exact ⟨_, .inr rfl, .keep rfl⟩
  | beginCutover id owner =>
    cases h
    exact ⟨_, .inr rfl, beginCutover_move id owner⟩
  | cutoverIsCommitting =>
    cases h
    exact ⟨_, .inl rfl, .keep rfl⟩

/-! ## Well-formed tables -/

/-- The session holds no QR token, no QR content and no verify code. -/
def LoginSession.NoSecrets (session : LoginSession) : Prop :=
  session.qrToken = none ∧ session.qrContent = none ∧ session.pendingVerifyCode = none

/-- What holds of every session of the table. -/
structure LoginSession.WellFormed (session : LoginSession) : Prop where
  live : session.state.isTerminal = false → session.finishedAt = none
  ended : session.state.isTerminal = true →
    session.awaitingCutover = false ∧ session.cutoverCommitting = false ∧ session.NoSecrets
  committing : session.cutoverCommitting = true → session.awaitingCutover = true
  awaiting : session.awaitingCutover = true → session.NoSecrets
  revision : session.verifyRevision = session.verifyAttempts
  attempts : session.verifyAttempts ≤ maxVerifyAttempts

/-- The candidate is the one session that is under way. -/
structure LoginSessions.WellFormed (s : LoginSessions) : Prop where
  session : ∀ id session, s.sessions id = some session → session.WellFormed
  candidate : ∀ id session, s.sessions id = some session →
    (session.state.isTerminal = false ↔ s.candidateId = some id)
  listed : ∀ id, s.candidateId = some id → ∃ session, s.sessions id = some session

variable {session session' : LoginSession} {id : Uuid} {state : LoginState}

/-- A session that ends is well formed. -/
theorem LoginSession.finish_wellFormed (h : session.WellFormed) (hst : state.isTerminal = true)
    (errorCode : Option String) : (session.finish state errorCode now).WellFormed where
  live hlive := by
    have hend : (session.finish state errorCode now).state = state := rfl
    rw [hend, hst] at hlive
    cases hlive
  ended _ := ⟨rfl, rfl, rfl, rfl, rfl⟩
  committing hcommitting := by cases hcommitting
  awaiting hawaiting := by cases hawaiting
  revision := h.revision
  attempts := h.attempts

/-- A session that awaits its cutover is live. -/
theorem LoginSession.WellFormed.live_of_awaiting (h : session.WellFormed)
    (hawait : session.awaitingCutover = true) : session.state.isTerminal = false := by
  by_contra hterm
  have hnot := (h.ended (by simpa using hterm)).1
  rw [hawait] at hnot
  cases hnot

theorem LoginSession.dropCarried_cases (session : LoginSession) (rev : Nat) :
    session.dropCarried rev = { session with pendingVerifyCode := none } ∨
      session.dropCarried rev = session := by
  unfold dropCarried
  split
  · exact .inl rfl
  · exact .inr rfl

/-- A session that a call changes stays under way and well-formed. -/
theorem SessionChange.wellFormed (h : SessionChange tools op id session session')
    (hw : session.WellFormed) (hlive : session.state.isTerminal = false) :
    session'.WellFormed ∧ session'.state.isTerminal = false := by
  -- a live session is well-formed if its other clauses hold
  have hmake : ∀ x : LoginSession, x.state.isTerminal = false → x.finishedAt = none →
      (x.cutoverCommitting = true → x.awaitingCutover = true) →
      (x.awaitingCutover = true → x.NoSecrets) → x.verifyRevision = x.verifyAttempts →
      x.verifyAttempts ≤ maxVerifyAttempts → x.WellFormed ∧ x.state.isTerminal = false := by
    intro x hx hfinished hcom hawait hrev hatt
    exact ⟨⟨fun _ => hfinished, fun hterm => absurd hterm (by simp [hx]), hcom,
      hawait, hrev, hatt⟩, hx⟩
  cases h with
  | rebind => exact hmake _ hlive (hw.live hlive) hw.committing hw.awaiting hw.revision hw.attempts
  | verify hawait hatt =>
    have hlt : session.verifyAttempts + 1 ≤ maxVerifyAttempts := hatt
    have hbyte : (session.verifyAttempts + 1) % 2 ^ 8 = session.verifyAttempts + 1 := by
      have hmax : maxVerifyAttempts = 10 := rfl
      omega
    refine hmake _ hlive (hw.live hlive) hw.committing ?_ ?_ ?_
    · intro hnow
      rw [show (session.takeCode _).awaitingCutover = session.awaitingCutover from rfl,
        hawait] at hnow
      cases hnow
    · simp [takeCode, hw.revision]
    · simp only [takeCode, hbyte]
      exact hlt
  | qr hawait =>
    refine hmake _ rfl (hw.live hlive) hw.committing ?_ hw.revision hw.attempts
    intro hnow
    rw [show (session.showQr _).awaitingCutover = session.awaitingCutover from rfl, hawait] at hnow
    cases hnow
  | @status _ _ revision _ _ _ _ _ _ hawait _ hst =>
    rcases session.dropCarried_cases revision with heq | heq
    all_goals
      rw [heq]
      refine hmake _ hst (hw.live hlive) hw.committing ?_ hw.revision hw.attempts
      intro hnow
      exact absurd (hawait.symm.trans hnow) (by decide)
  | @refresh _ _ revision =>
    rcases session.dropCarried_cases revision with heq | heq
    all_goals
      rw [heq]
      exact hmake _ rfl (hw.live hlive) hw.committing (fun _ => ⟨rfl, rfl, rfl⟩) hw.revision
        hw.attempts
  | @confirm _ _ revision =>
    rcases session.dropCarried_cases revision with heq | heq
    all_goals
      rw [heq]
      exact hmake _ hlive (hw.live hlive) (fun _ => rfl) (fun _ => ⟨rfl, rfl, rfl⟩) hw.revision
        hw.attempts
  | commit haw =>
    have hawait : session.awaitingCutover = true := by
      simp only [awaits, and_eq_true] at haw
      exact haw.1.1.2
    exact hmake _ hlive (hw.live hlive) (fun _ => hawait) hw.awaiting hw.revision hw.attempts

/-- A session after `expire_and_purge`. -/
theorem expireAndPurge_session : (s.expireAndPurge limits now).sessions id = some session' ↔
      ∃ session, s.sessions id = some session ∧ session.expire now = session' ∧
        session'.purged limits now = false := by
  simp only [LoginSessions.expireAndPurge, filter_eq_some_iff, map_eq_some_iff, not_eq_true']
  constructor
  · rintro ⟨⟨session, hsess, hexp⟩, hpurge⟩
    exact ⟨session, hsess, hexp, hpurge⟩
  · rintro ⟨session, hsess, hexp, hpurge⟩
    exact ⟨⟨session, hsess, hexp⟩, hpurge⟩

/-- A session expires, or stays as it was. -/
theorem LoginSession.expire_cases (session : LoginSession) (now : Nat) :
    (session.expires now = true ∧ session.expire now = session.finish .expired none now) ∨
      (session.expires now = false ∧ session.expire now = session) := by
  unfold expire
  cases hexp : session.expires now
  · exact .inr ⟨rfl, rfl⟩
  · exact .inl ⟨rfl, rfl⟩

/-- Expiry keeps the table well formed. -/
theorem LoginSessions.WellFormed.expireAndPurge (h : s.WellFormed) :
    (s.expireAndPurge limits now).WellFormed where
  session id session' hsession' := by
    obtain ⟨session, hsess, rfl, _⟩ := expireAndPurge_session.mp hsession'
    rcases session.expire_cases now with ⟨_, heq⟩ | ⟨_, heq⟩
    · rw [heq]
      exact finish_wellFormed (h.session id session hsess) rfl none
    · rw [heq]
      exact h.session id session hsess
  candidate id session' hsession' := by
    obtain ⟨session, hsess, rfl, _⟩ := expireAndPurge_session.mp hsession'
    have hcandidate : (s.expireAndPurge limits now).candidateId = some id ↔
        s.candidateId = some id ∧ session.expires now = false := by
      simp [LoginSessions.expireAndPurge, hsess]
    rw [hcandidate, ← h.candidate id session hsess]
    rcases session.expire_cases now with ⟨hexp, heq⟩ | ⟨hexp, heq⟩
    · rw [heq, hexp]
      simp [LoginSession.finish, LoginSession.clearQrSecrets, LoginState.isTerminal]
    · rw [heq, hexp]
      simp
  listed id hcandidate := by
    simp only [LoginSessions.expireAndPurge, filter_eq_some_iff, not_eq_true'] at hcandidate
    obtain ⟨hcandidate, hexp⟩ := hcandidate
    obtain ⟨session, hsess⟩ := h.listed id hcandidate
    rw [hsess, any_some] at hexp
    refine ⟨session, expireAndPurge_session.mpr ⟨session, hsess, ?_, ?_⟩⟩
    · simp [expire, hexp]
    · have hlive := (h.candidate id session hsess).mpr hcandidate
      simp [purged, (h.session id session hsess).live hlive]

/-- A session that ended is no candidate. -/
theorem LoginSessions.WellFormed.releaseCandidate (h : s.WellFormed)
    (hsess : s.sessions id = some session) (hterm : session.state.isTerminal = true) :
    s.releaseCandidate id = s := by
  have hnot : s.candidateId ≠ some id := by
    intro hcand
    rw [(h.candidate id session hsess).mpr hcand] at hterm
    cases hterm
  simp [LoginSessions.releaseCandidate, hnot]

/-- `record_qr_start` only touches the attempts. -/
theorem LoginSessions.recordQrStart_frame (s : LoginSessions) (owner : Uuid) (now : Nat) :
    (s.recordQrStart owner now).2 =
      { s with qrStartAttempts := (s.recordQrStart owner now).2.qrStartAttempts } := by
  unfold recordQrStart
  dsimp only
  split <;> rfl

theorem LoginSessions.WellFormed.recordQrStart (h : s.WellFormed) (owner : Uuid) :
    (s.recordQrStart owner now).2.WellFormed := by
  rw [s.recordQrStart_frame]
  exact { h with }

/-- A session after one was written. -/
theorem LoginSessions.put_sessions {other : Uuid} {x : LoginSession}
    (h : (s.put id session).sessions other = some x) :
    (other = id ∧ x = session) ∨ (other ≠ id ∧ s.sessions other = some x) := by
  obtain ⟨hid, ⟨⟩⟩ | hoth := update_eq_some h
  · exact .inl ⟨hid, rfl⟩
  · exact .inr hoth

section

variable (h : s.WellFormed) (hsess : s.sessions id = some session)
  (hlive : session.state.isTerminal = false)

include h hsess hlive

/-- A change of a session under way. -/
theorem LoginSessions.WellFormed.put (hw : session'.WellFormed)
    (hlive' : session'.state.isTerminal = false) : (s.put id session').WellFormed where
  session other x hx := by
    rcases put_sessions hx with ⟨_, rfl⟩ | ⟨_, hx⟩
    · exact hw
    · exact h.session other x hx
  candidate other x hx := by
    rcases put_sessions hx with ⟨rfl, rfl⟩ | ⟨_, hx⟩
    · have hcand := (h.candidate other session hsess).mp hlive
      simp [LoginSessions.put, hlive', hcand]
    · exact h.candidate other x hx
  listed other hcand := by
    by_cases hoth : other = id
    · exact ⟨session', by simp [LoginSessions.put, hoth]⟩
    · obtain ⟨x, hx⟩ := h.listed other hcand
      exact ⟨x, by simp [LoginSessions.put, Function.update_of_ne hoth, hx]⟩

/-- The end of the session under way. -/
theorem LoginSessions.WellFormed.finish
    (hst : state.isTerminal = true) (errorCode : Option String) :
    (s.finish id session state errorCode now).WellFormed := by
  have hcand := (h.candidate id session hsess).mp hlive
  have hnone : (s.finish id session state errorCode now).candidateId = none := by
    simp [LoginSessions.finish, LoginSessions.releaseCandidate, LoginSessions.put, hcand]
  constructor
  · intro other x hx
    rcases put_sessions hx with ⟨_, rfl⟩ | ⟨_, hx⟩
    · exact finish_wellFormed (h.session id session hsess) hst errorCode
    · exact h.session other x hx
  · intro other x hx
    rw [hnone]
    rcases put_sessions hx with ⟨_, rfl⟩ | ⟨hoth, hx⟩
    · have hend : (session.finish state errorCode now).state = state := rfl
      simp [hend, hst]
    · rw [h.candidate other x hx, hcand]
      simp [Ne.symm hoth]
  · intro other hoth
    rw [hnone] at hoth
    cases hoth

end

/-- While no session is under way, all are over. -/
theorem LoginSessions.WellFormed.terminal (h : s.WellFormed) (hcand : s.candidateId = none)
    (hsess : s.sessions id = some session) : session.state.isTerminal = true := by
  by_contra hlive
  have hid := (h.candidate id session hsess).mp (by simpa using hlive)
  rw [hcand] at hid
  cases hid

/-- A new session, while none is under way. -/
theorem LoginSessions.WellFormed.create (h : s.WellFormed) (hcand : s.candidateId = none)
    (owner : Uuid) (state : LoginState) (authority : LoginAuthority) (id : Uuid)
    (wall : Timestamp) (baseUrl : Url) :
    (s.create limits owner state authority id now wall baseUrl).2.WellFormed := by
  have hnow : (s.create limits owner state authority id now wall baseUrl).2.candidateId =
      if state.isTerminal then none else some id := by
    rw [← hcand]
    rfl
  constructor
  · intro other x hx
    rcases put_sessions hx with ⟨_, rfl⟩ | ⟨_, hx⟩
    · exact
        { live := fun hlive => if_neg (by simpa using hlive)
          ended := fun _ => ⟨rfl, rfl, rfl, rfl, rfl⟩
          committing := fun hcom => by cases hcom
          awaiting := fun hawait => by cases hawait
          revision := rfl
          attempts := Nat.zero_le _ }
    · exact h.session other x hx
  · intro other x hx
    rw [hnow]
    rcases put_sessions hx with ⟨rfl, rfl⟩ | ⟨hoth, hx⟩
    · cases state.isTerminal <;> simp
    · rw [h.terminal hcand hx]
      cases state.isTerminal <;> simp [Ne.symm hoth]
  · intro other hoth
    rw [hnow] at hoth
    have hid : other = id := by
      split at hoth
      · cases hoth
      · exact (some.inj hoth).symm
    subst hid
    exact ⟨_, Function.update_self ..⟩

theorem LoginSessions.WellFormed.underWay (h : s.WellFormed)
    (hsess : s.sessions id = some session) (hlive : s.Occupies id session) :
    session.state.isTerminal = false := by
  rcases hlive with hlive | hcand | hawait
  · exact hlive
  · exact (h.candidate id session hsess).mpr hcand
  · exact (h.session id session hsess).live_of_awaiting hawait

/-- Every move keeps the table well formed. -/
theorem LoginMove.wellFormed (h : LoginMove tools limits now op answer t t') (ht : t.WellFormed) :
    t'.WellFormed := by
  cases h with
  | keep => exact ht
  | release _ hsess hterm =>
    rw [ht.releaseCandidate hsess hterm]
    exact ht
  | refuse owner => exact ht.recordQrStart owner
  | @change _ _ _ id session _ _ hsess hlive hchg =>
    have hunder := ht.underWay hsess hlive
    obtain ⟨hw, hlive'⟩ := hchg.wellFormed (ht.session id session hsess) hunder
    exact ht.put hsess hunder hw hlive'
  | @finish _ _ _ id session _ _ _ hsess hlive hend =>
    exact ht.finish hsess (ht.underWay hsess hlive) hend.terminal _
  | startQr hcand =>
    refine (ht.recordQrStart _).create ?_ ..
    rw [t.recordQrStart_frame]
    exact hcand
  | startConnected _ hcand => exact ht.create hcand ..

/-- So does every call. -/
theorem call_wellFormed (h : op.call tools limits now s = some (answer, s')) (hs : s.WellFormed) :
    s'.WellFormed := by
  obtain ⟨t, ht, hmove⟩ := call_move h
  apply hmove.wellFormed
  rcases ht with rfl | rfl
  · exact hs
  · exact hs.expireAndPurge

/-- No call on a well-formed table panics. -/
theorem call_isSome (op : LoginOp) (hs : s.WellFormed) :
    (op.call tools limits now s).isSome = true := by
  have ht : (s.expireAndPurge limits now).WellFormed := hs.expireAndPurge
  cases op with
  | start starter forceFresh active id wallNowMs =>
    simp only [LoginOp.call]
    split
    · cases wallNowMs with
      | none => rfl
      | some =>
        simp only [startAt]
        cases hcand : (s.expireAndPurge limits now).candidateId with
        | none => rfl
        | some candidateId =>
          obtain ⟨session, hsess⟩ := ht.listed candidateId hcand
          simp [hsess]
    · rfl
  | cancelCandidateForDisconnect =>
    simp only [LoginOp.call, cancelCandidateForDisconnect]
    cases hcand : (s.expireAndPurge limits now).candidateId with
    | none => rfl
    | some candidateId =>
      obtain ⟨session, hsess⟩ := ht.listed candidateId hcand
      simp [hsess]
  | applyProviderStatus id gen rev resp active wallNowMs => cases wallNowMs <;> rfl
  | _ => rfl

end PromptDock.Wechat
