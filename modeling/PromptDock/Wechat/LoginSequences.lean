import PromptDock.Wechat.LoginMoves

/-!
# Sequences of calls on the login manager

A sequence of calls at nondecreasing instants, from the empty table.  Every start
draws an identifier that was not drawn before.

* The candidate is the one session under way (`LoginSessions.WellFormed`), a session
  that is over never changes, and one that is over or confirmed holds no secret.
* A verify code stays pending until something in `DropsCode` happens.  The answer of
  a poll that did not carry the code may also end its life, when it reports the QR
  code expired or the login confirmed (`code_lost_to_older_poll`).
* Within any window of the rate limit a device starts at most five QR sessions
  (`StartsRecorded`).
-/

namespace PromptDock.Wechat

open LabelledRun LoginSessions List Function

/-- The table, the instant of the last call, and the identifiers drawn so far. -/
structure LoginWorld where
  table : LoginSessions
  clock : Nat
  drawn : Uuid → Bool

def LoginWorld.new : LoginWorld := ⟨.new, 0, fun _ => false⟩

/-- The identifier that a call draws. -/
def LoginOp.draws : LoginOp → Option Uuid
  | .start _ _ _ id _ => some id
  | _ => none

/-- A call: when it was made, and what it answered. -/
structure LoginEvent where
  now : Nat
  op : LoginOp
  answer : LoginAnswer

def LoginWorld.next (tools : LoginTools) (limits : LoginLimits) (w : LoginWorld) (now : Nat)
    (op : LoginOp) : Option (LoginAnswer × LoginWorld) :=
  if w.clock ≤ now ∧ op.draws.all (!w.drawn ·) then
    (op.call tools limits now w.table).map fun result =>
      (result.1, ⟨result.2, now, fun id => w.drawn id || op.draws == some id⟩)
  else none

def LoginStep (tools : LoginTools) (limits : LoginLimits) (w : LoginWorld) (event : LoginEvent)
    (w' : LoginWorld) : Prop :=
  w.next tools limits event.now event.op = some (event.answer, w')

variable {tools : LoginTools} {limits : LoginLimits} {now : Nat} {op : LoginOp}
  {answer : LoginAnswer} {s s' t t' : LoginSessions} {w w' : LoginWorld} {event : LoginEvent}
  {xs : List LoginEvent} {id owner : Uuid} {session session' : LoginSession}

/-- The parts of a step. -/
theorem loginStep_iff : LoginStep tools limits w event w' ↔
    w.clock ≤ event.now ∧ (∀ id, event.op.draws = some id → w.drawn id = false) ∧
      event.op.call tools limits event.now w.table = some (event.answer, w'.table) ∧
      w'.clock = event.now ∧ w'.drawn = fun id => w.drawn id || event.op.draws == some id := by
  obtain ⟨now, op, answer⟩ := event
  obtain ⟨table, clock, drawn⟩ := w'
  simp only [LoginStep, LoginWorld.next]
  constructor
  · intro h
    split at h
    · rename_i hg
      obtain ⟨⟨a, t⟩, hcall, heq⟩ := Option.map_eq_some_iff.mp h
      cases heq
      refine ⟨hg.1, ?_, hcall, rfl, rfl⟩
      intro id hid
      simpa [hid] using hg.2
    · cases h
  · rintro ⟨hlater, hfresh, hcall, rfl, rfl⟩
    have hg : w.clock ≤ clock ∧ op.draws.all (!w.drawn ·) = true := by
      refine ⟨hlater, ?_⟩
      cases hdraw : op.draws with
      | none => rfl
      | some id => simp [hfresh id hdraw]
    rw [if_pos hg, hcall]
    rfl

/-! ## What becomes of a session -/

/-- What a call makes of a session, time apart. -/
inductive SessionFate (tools : LoginTools) (now : Nat) (op : LoginOp) (id : Uuid)
    (session : LoginSession) : LoginSession → Prop where
  | same : SessionFate tools now op id session session
  | changed {session' : LoginSession} (hlive : session.state.isTerminal = false)
      (h : SessionChange tools op id session session') :
      SessionFate tools now op id session session'
  | ended {state : LoginState} {errorCode : Option String}
      (hlive : session.state.isTerminal = false) (h : SessionEnd op id session state errorCode) :
      SessionFate tools now op id session (session.finish state errorCode now)

theorem put_sessions_same (id : Uuid) (session : LoginSession) :
    (s.put id session).sessions id = some session :=
  update_self ..

theorem put_sessions_other {other : Uuid} (hoth : other ≠ id) :
    (s.put id session).sessions other = s.sessions other :=
  update_of_ne hoth ..

/-- A move takes no session away, and only a start makes one. -/
theorem LoginMove.fate (h : LoginMove tools limits now op answer t t') (ht : t.WellFormed)
    (hdraw : op.draws ≠ some id) : (t.sessions id = none ∧ t'.sessions id = none) ∨
      ∃ session session', t.sessions id = some session ∧ t'.sessions id = some session' ∧
        SessionFate tools now op id session session' := by
  have hkept : t'.sessions id = t.sessions id → (t.sessions id = none ∧ t'.sessions id = none) ∨
        ∃ session session', t.sessions id = some session ∧ t'.sessions id = some session' ∧
          SessionFate tools now op id session session' := by
    intro hsame
    rw [hsame]
    cases hsess : t.sessions id with
    | none => exact .inl ⟨rfl, rfl⟩
    | some session => exact .inr ⟨session, session, rfl, rfl, .same⟩
  cases h with
  | keep | release => exact hkept rfl
  | refuse => exact hkept (by rw [t.recordQrStart_frame])
  | @change _ _ _ other session session' _ hsess hlive hchg =>
    by_cases hoth : id = other
    · subst hoth
      exact .inr ⟨session, session', hsess, put_sessions_same ..,
        .changed (ht.underWay hsess hlive) hchg⟩
    · exact hkept (put_sessions_other hoth)
  | @finish _ _ _ other session _ _ _ hsess hlive hend =>
    by_cases hoth : id = other
    · subst hoth
      exact .inr ⟨session, _, hsess, put_sessions_same .., .ended (ht.underWay hsess hlive) hend⟩
    · exact hkept (put_sessions_other hoth)
  | @startQr _ starter _ _ drawn =>
    have hoth : id ≠ drawn := fun heq => hdraw (by rw [heq]; rfl)
    refine hkept ((put_sessions_other hoth).trans ?_)
    rw [t.recordQrStart_frame]
  | @startConnected _ _ _ _ drawn =>
    have hoth : id ≠ drawn := fun heq => hdraw (by rw [heq]; rfl)
    exact hkept (put_sessions_other hoth)

section

variable (h : op.call tools limits now s = some (answer, s'))

include h

section

variable (hs : s.WellFormed) (hdraw : op.draws ≠ some id)

include hs hdraw

/-- What a call makes of a session: it may first run out of time. -/
theorem call_fate (hsess : s.sessions id = some session) :
    s'.sessions id = none ∨ ∃ session', s'.sessions id = some session' ∧
      (SessionFate tools now op id session session' ∨
        session.expires now = true ∧ session' = session.finish .expired none now) := by
  obtain ⟨t, ht, hmove⟩ := call_move h
  rcases ht with rfl | rfl
  · rcases hmove.fate hs hdraw with ⟨hnone, _⟩ | ⟨x, session', hx, hsess', hfate⟩
    · rw [hsess] at hnone
      cases hnone
    rw [hsess] at hx
    cases hx
    exact .inr ⟨session', hsess', .inl hfate⟩
  rcases hmove.fate hs.expireAndPurge hdraw with ⟨_, hnone⟩ | ⟨x, session', hx, hsess', hfate⟩
  · exact .inl hnone
  obtain ⟨y, hy, rfl, _⟩ := expireAndPurge_session.mp hx
  rw [hsess] at hy
  cases hy
  refine .inr ⟨session', hsess', ?_⟩
  rcases session.expire_cases now with ⟨hexp, heq⟩ | ⟨_, heq⟩
  · -- what has just expired is over, so nothing else happens to it
    rw [heq] at hfate
    have hover : (session.finish .expired none now).state.isTerminal ≠ false := by
      simp [LoginSession.finish, LoginSession.clearQrSecrets, LoginState.isTerminal]
    cases hfate with
    | same => exact .inr ⟨hexp, rfl⟩
    | changed hlive | ended hlive => exact absurd hlive hover
  · rw [heq] at hfate
    exact .inl hfate

/-- Only a start makes a session. -/
theorem call_origin (hnone : s.sessions id = none) : s'.sessions id = none := by
  obtain ⟨t, ht, hmove⟩ := call_move h
  have htable : t.WellFormed ∧ t.sessions id = none := by
    rcases ht with rfl | rfl
    · exact ⟨hs, hnone⟩
    · exact ⟨hs.expireAndPurge, by simp [expireAndPurge, hnone]⟩
  rcases hmove.fate htable.1 hdraw with ⟨_, hnone'⟩ | ⟨x, _, hx, _⟩
  · exact hnone'
  · rw [htable.2] at hx
    cases hx

/-- A session that is over stays as it is until it is dropped. -/
theorem call_terminal (hsess : s.sessions id = some session)
    (hterm : session.state.isTerminal = true) :
    s'.sessions id = some session ∨ s'.sessions id = none := by
  have hover : session.state.isTerminal ≠ false := by simp [hterm]
  rcases call_fate h hs hdraw hsess with hnone | ⟨session', hsess', hfate | ⟨hexp, _⟩⟩
  · exact .inr hnone
  · cases hfate with
    | same => exact .inl hsess'
    | changed hlive | ended hlive => exact absurd hlive hover
  · simp [LoginSession.expires, hterm] at hexp

end

end

/-! ## Verify codes -/

/-- Revisions only grow, and the code of a revision does not change. -/
def LoginSession.CodeKept (session session' : LoginSession) : Prop :=
  session.verifyRevision ≤ session'.verifyRevision ∧
    ∀ code, session'.pendingVerifyCode = some code →
      session'.verifyRevision = session.verifyRevision → session.pendingVerifyCode = some code

/-- A code that is cleared does not change. -/
theorem LoginSession.CodeKept.of_cleared (hrev : session'.verifyRevision = session.verifyRevision)
    (hclear : session'.pendingVerifyCode = none) : session.CodeKept session' := by
  refine ⟨Nat.le_of_eq hrev.symm, fun code hcode _ => ?_⟩
  rw [hclear] at hcode
  cases hcode

theorem LoginSession.CodeKept.of_same (hrev : session'.verifyRevision = session.verifyRevision)
    (hcode : session'.pendingVerifyCode = session.pendingVerifyCode) : session.CodeKept session' :=
  ⟨Nat.le_of_eq hrev.symm, fun _ h _ => hcode ▸ h⟩

/-- No change replaces the code of a revision. -/
theorem SessionChange.codeKept (h : SessionChange tools op id session session')
    (hw : session.WellFormed) : session.CodeKept session' := by
  have hdrop : ∀ revision (x : LoginSession),
      x.verifyRevision = (session.dropCarried revision).verifyRevision →
      x.pendingVerifyCode = (session.dropCarried revision).pendingVerifyCode →
      session.CodeKept x := by
    intro revision x hrev hcode
    rcases session.dropCarried_cases revision with heq | heq
    · rw [heq] at hrev hcode
      exact .of_cleared hrev hcode
    · rw [heq] at hrev hcode
      exact .of_same hrev hcode
  cases h with
  | rebind | commit => exact .of_same rfl rfl
  | verify =>
    -- a new code has a new revision
    have hbyte : (session.verifyRevision + 1) % 2 ^ 8 = session.verifyRevision + 1 := by
      have hrev := hw.revision
      have hmax : maxVerifyAttempts = 10 := rfl
      omega
    have hnext : ∀ code, (session.takeCode code).verifyRevision = session.verifyRevision + 1 :=
      fun _ => hbyte
    refine ⟨by rw [hnext]; omega, fun _ _ hsame => ?_⟩
    rw [hnext] at hsame
    omega
  | qr => exact .of_cleared rfl rfl
  | @status _ _ revision => exact hdrop revision _ rfl rfl
  | @refresh _ _ revision | @confirm _ _ revision =>
    refine .of_cleared ?_ rfl
    rcases session.dropCarried_cases revision with heq | heq <;> rw [heq] <;> rfl

/-- So it is for a call. -/
theorem call_codeKept (h : op.call tools limits now s = some (answer, s')) (hs : s.WellFormed)
    (hdraw : op.draws ≠ some id) (hsess : s.sessions id = some session)
    (hsess' : s'.sessions id = some session') : session.CodeKept session' := by
  rcases call_fate h hs hdraw hsess with hnone | ⟨x, hx, hfate⟩
  · rw [hsess'] at hnone
    cases hnone
  rw [hsess'] at hx
  cases hx
  rcases hfate with hfate | ⟨_, rfl⟩
  · cases hfate with
    | same => exact .of_same rfl rfl
    | changed _ hchg => exact hchg.codeKept (hs.session id session hsess)
    | ended => exact .of_cleared rfl rfl
  · exact .of_cleared rfl rfl

variable {input : PollInput}

/-- A poll carries the code that is pending. -/
theorem pollInput_reads
    (h : (LoginOp.pollInput id).call tools limits now s = some (.polls (.ok input), s')) :
    ∃ session, s'.sessions id = some session ∧ input.verifyRevision = session.verifyRevision ∧
      input.verifyCode = session.pendingVerifyCode := by
  simp only [LoginOp.call, answering, pollInput] at h
  generalize s.expireAndPurge limits now = t at h
  cases hsess : t.sessions id with
  | none =>
    rw [hsess] at h
    simp at h
  | some session =>
    rw [hsess] at h
    dsimp only at h
    split at h
    · simp at h
    split at h
    · simp at h
    obtain ⟨rfl, rfl⟩ := h
    exact ⟨session, hsess, rfl, rfl⟩

/-- The event is a poll of the login with this input. -/
def LoginEvent.Polls (event : LoginEvent) (id : Uuid) (input : PollInput) : Prop :=
  event.op = .pollInput id ∧ event.answer = .polls (.ok input)

/-- The poll is not newer than the session, and if it is of the current revision then
it carried the code that is pending. -/
def PollInput.Precedes (input : PollInput) (session : LoginSession) : Prop :=
  input.verifyRevision ≤ session.verifyRevision ∧
    ∀ code, session.pendingVerifyCode = some code →
      input.verifyRevision = session.verifyRevision → input.verifyCode = some code

/-- A poll stays behind its session. -/
theorem PollInput.Precedes.kept (h : input.Precedes session)
    (hkept : session.CodeKept session') : input.Precedes session' := by
  refine ⟨Nat.le_trans h.1 hkept.1, ?_⟩
  intro code hcode hsame
  have hrev : session'.verifyRevision = session.verifyRevision := by
    have hle := h.1
    have hle' := hkept.1
    omega
  exact h.2 code (hkept.2 code hcode hrev) (hsame.trans hrev)

/-- What holds of the table and the polls so far. -/
structure Polled (xs : List LoginEvent) (w : LoginWorld) : Prop where
  wellFormed : w.table.WellFormed
  drawn : ∀ id session, w.table.sessions id = some session → w.drawn id = true
  polls : ∀ e ∈ xs, ∀ id input, e.Polls id input → w.drawn id = true ∧
    ∀ session, w.table.sessions id = some session → input.Precedes session

theorem wellFormed_new : new.WellFormed where
  session _ _ h := nomatch h
  candidate _ _ h := nomatch h
  listed _ h := nomatch h

/-- At the start nothing was polled. -/
theorem polled_new : Polled [] .new where
  wellFormed := wellFormed_new
  drawn _ _ h := nomatch h
  polls _ he := nomatch he

/-- A step keeps what is known of the polls. -/
theorem loginStep_polled (h : LoginStep tools limits w event w') (hw : Polled xs w) :
    Polled (xs ++ [event]) w' := by
  obtain ⟨hlater, hfresh, hcall, hclock, hdraw⟩ := loginStep_iff.mp h
  have hgrows : ∀ id, w.drawn id = true → w'.drawn id = true := by
    intro id hid
    rw [hdraw]
    simp [hid]
  have hold : ∀ id, w.drawn id = true → event.op.draws ≠ some id := by
    intro id hid hdraws
    rw [hfresh id hdraws] at hid
    cases hid
  have hdraw' : ∀ id session, w'.table.sessions id = some session → w'.drawn id = true := by
    intro id session hsess
    by_cases hdraws : event.op.draws = some id
    · rw [hdraw]
      simp [hdraws]
    cases hpre : w.table.sessions id with
    | none =>
      rw [call_origin hcall hw.wellFormed hdraws hpre] at hsess
      cases hsess
    | some x => exact hgrows id (hw.drawn id x hpre)
  refine ⟨call_wellFormed hcall hw.wellFormed, hdraw', ?_⟩
  intro e he id input hpolls
  rcases mem_append.mp he with he | he
  · obtain ⟨hid, hprec⟩ := hw.polls e he id input hpolls
    refine ⟨hgrows id hid, ?_⟩
    intro session' hsess'
    cases hpre : w.table.sessions id with
    | none =>
      rw [call_origin hcall hw.wellFormed (hold id hid) hpre] at hsess'
      cases hsess'
    | some session =>
      exact (hprec session hpre).kept (call_codeKept hcall hw.wellFormed (hold id hid) hpre hsess')
  · rw [mem_singleton] at he
    subst he
    rw [hpolls.1, hpolls.2] at hcall
    obtain ⟨session, hsess, hrev, hcode⟩ := pollInput_reads hcall
    refine ⟨hdraw' id session hsess, ?_⟩
    intro session' hsess'
    rw [hsess] at hsess'
    cases hsess'
    exact ⟨Nat.le_of_eq hrev, fun code hpend _ => hcode.trans hpend⟩

/-- What may end the life of a verify code while its session goes on. -/
inductive DropsCode (xs : List LoginEvent) (id : Uuid) (session : LoginSession) (code : String) :
    LoginOp → Prop where
  | newer (owner : Uuid) (code' : String) :
      DropsCode xs id session code (.submitVerifyCode owner id code')
  | newQr (response : GetBotQrCodeResponse) : DropsCode xs id session code (.installQr id response)
  | carried (response : GetQrCodeStatusResponse) (active : Bool) (wall : Option Timestamp)
      (hcarried : ∀ e ∈ xs, ∀ input, e.Polls id input →
        input.verifyRevision = session.verifyRevision → input.verifyCode = some code) :
      DropsCode xs id session code (.applyProviderStatus id session.qrGeneration
        session.verifyRevision response active wall)
  | qrExpired (revision : Nat) (response : GetQrCodeStatusResponse) (active : Bool)
      (wall : Option Timestamp) (hstatus : response.status = .expired) :
      DropsCode xs id session code
        (.applyProviderStatus id session.qrGeneration revision response active wall)
  | confirmed (revision : Nat) (response : GetQrCodeStatusResponse) (active : Bool)
      (wall : Option Timestamp) (hstatus : response.status = .confirmed) :
      DropsCode xs id session code
        (.applyProviderStatus id session.qrGeneration revision response active wall)

/-- A pending code stays, unless something drops it or the session is over. -/
theorem SessionChange.code {code : String} (h : SessionChange tools op id session session')
    (hcode : session.pendingVerifyCode = some code)
    (hpolls : ∀ e ∈ xs, ∀ input, e.Polls id input → input.Precedes session) :
    DropsCode xs id session code op ∨ session'.pendingVerifyCode = some code := by
  cases h with
  | rebind | commit => exact .inr hcode
  | verify => exact .inl (.newer ..)
  | qr => exact .inl (.newQr _)
  | @status _ gen rev resp active wall _ _ _ _ hgen =>
    subst hgen
    by_cases hrev : session.verifyRevision = rev
    · subst hrev
      refine .inl (.carried resp active wall ?_)
      intro e he input hinput hsame
      exact (hpolls e he input hinput).2 code hcode hsame
    · right
      simp only [LoginSession.dropCarried, if_neg hrev]
      exact hcode
  | refresh _ hgen hstat =>
    subst hgen
    exact .inl (.qrExpired _ _ _ _ hstat)
  | confirm _ hgen hstat =>
    subst hgen
    exact .inl (.confirmed _ _ _ _ hstat)

/-! ## The rate of starts -/

/-- The event starts a QR session of the device. -/
def LoginEvent.startsQr (event : LoginEvent) (owner : Uuid) : Bool :=
  match event.op with
  | .start starter _ _ _ _ => starter.owner == owner && event.answer.created == some .fetchingQr
  | _ => false

/-- The starts of the device that still count at `now`. -/
def recentStarts (owner : Uuid) (now : Nat) (xs : List LoginEvent) : List Nat :=
  (xs.filter fun e => e.startsQr owner && decide (now < e.now + qrStartRateWindow)).map (·.now)

/-- The attempts that still count at `now`. -/
def recentAttempts (now : Nat) (attempts : List Nat) : List Nat :=
  attempts.filter fun attempt => decide (now < attempt + qrStartRateWindow)

theorem attemptOld_eq (now attempt : Nat) :
    attemptOld now attempt = !decide (now < attempt + qrStartRateWindow) := by
  unfold attemptOld
  rw [← decide_not, decide_eq_decide]
  omega

/-- Expiry forgets attempts that no longer count. -/
theorem expireAndPurge_attempts (s : LoginSessions) (owner : Uuid) :
    (s.expireAndPurge limits now).qrStartAttempts owner =
      recentAttempts now (s.qrStartAttempts owner) := by
  simp [expireAndPurge, recentAttempts, attemptOld_eq]

theorem recentAttempts_sublist (attempts : List Nat) :
    (recentAttempts now attempts).Sublist attempts :=
  filter_sublist

/-- What still counts is found again. -/
theorem recentAttempts_idem (attempts : List Nat) :
    recentAttempts now (recentAttempts now attempts) = recentAttempts now attempts := by
  simp [recentAttempts]

/-- Dropping old attempts from the front keeps the recent ones. -/
theorem recentAttempts_dropWhile (now : Nat) (attempts : List Nat) :
    (recentAttempts now attempts).Sublist (attempts.dropWhile (attemptOld now)) := by
  induction attempts with
  | nil => exact .slnil
  | cons attempt attempts ih =>
    by_cases hold : attemptOld now attempt = true
    · have hnot : ¬ decide (now < attempt + qrStartRateWindow) = true := by
        simpa [attemptOld_eq] using hold
      rw [dropWhile_cons_of_pos hold]
      have hdrop : recentAttempts now (attempt :: attempts) = recentAttempts now attempts :=
        filter_cons_of_neg hnot
      rw [hdrop]
      exact ih
    · rw [dropWhile_cons_of_neg hold]
      exact recentAttempts_sublist _

/-- A move keeps the recent attempts, and never lists more than are allowed. -/
theorem LoginMove.attempts (h : LoginMove tools limits now op answer t t') (owner : Uuid)
    (hfew : (t.qrStartAttempts owner).length ≤ maxQrStartsPerDevice) :
    (recentAttempts now (t.qrStartAttempts owner)).Sublist (t'.qrStartAttempts owner) ∧
      (t'.qrStartAttempts owner).length ≤ maxQrStartsPerDevice := by
  have hkept : (recentAttempts now (t.qrStartAttempts owner)).Sublist (t.qrStartAttempts owner) ∧
      (t.qrStartAttempts owner).length ≤ maxQrStartsPerDevice :=
    ⟨recentAttempts_sublist _, hfew⟩
  have hrec : ∀ dev, (recentAttempts now (t.qrStartAttempts owner)).Sublist
          ((t.recordQrStart dev now).2.qrStartAttempts owner) ∧
        ((t.recordQrStart dev now).2.qrStartAttempts owner).length ≤ maxQrStartsPerDevice := by
    intro dev
    by_cases hdev : owner = dev
    · subst hdev
      have hdrop := recentAttempts_dropWhile now (t.qrStartAttempts owner)
      unfold recordQrStart
      dsimp only
      split
      · simp only [update_self]
        exact ⟨hdrop, Nat.le_trans (dropWhile_sublist _).length_le hfew⟩
      simp only [update_self]
      refine ⟨hdrop.trans (sublist_append_left ..), ?_⟩
      rw [length_append, length_singleton]
      omega
    · have hsame : (t.recordQrStart dev now).2.qrStartAttempts owner = t.qrStartAttempts owner := by
        unfold recordQrStart
        dsimp only
        split <;> exact update_of_ne hdev ..
      rw [hsame]
      exact hkept
  cases h with
  | refuse dev => exact hrec dev
  | startQr => exact hrec _
  | _ => exact hkept

/-- A move that starts a QR session also lists the start. -/
theorem LoginMove.attempts_start (h : LoginMove tools limits now op answer t t')
    (hstart : (⟨now, op, answer⟩ : LoginEvent).startsQr owner = true) :
    (recentAttempts now (t.qrStartAttempts owner) ++ [now]).Sublist (t'.qrStartAttempts owner) := by
  have hquiet : answer.created = none → False := by
    intro hnone
    simp only [LoginEvent.startsQr] at hstart
    split at hstart
    · simp [hnone] at hstart
    · cases hstart
  cases h with
  | @startQr _ starter _ _ _ _ _ _ _ _ hrec =>
    simp only [LoginEvent.startsQr, Bool.and_eq_true, beq_iff_eq] at hstart
    obtain ⟨rfl, _⟩ := hstart
    have hdrop := recentAttempts_dropWhile now (t.qrStartAttempts starter.owner)
    have hlist : (t.recordQrStart starter.owner now).2.qrStartAttempts starter.owner =
        (t.qrStartAttempts starter.owner).dropWhile (attemptOld now) ++ [now] := by
      unfold recordQrStart at hrec ⊢
      dsimp only at hrec ⊢
      split at hrec
      · cases hrec
      rename_i hroom
      rw [if_neg hroom]
      exact update_self ..
    have hsub := hdrop.append_right [now]
    rw [← hlist] at hsub
    exact hsub
  | startConnected houtcome => simp [LoginEvent.startsQr, LoginAnswer.created, houtcome] at hstart
  | keep h | release h | refuse _ h | change h | finish h => exact (hquiet h).elim

/-- The starts of the past are listed as long as they count. -/
structure StartsRecorded (xs : List LoginEvent) (w : LoginWorld) : Prop where
  past : ∀ e ∈ xs, e.now ≤ w.clock
  recorded : ∀ owner, (recentStarts owner w.clock xs).Sublist (w.table.qrStartAttempts owner)
  few : ∀ owner, (w.table.qrStartAttempts owner).length ≤ maxQrStartsPerDevice
  windows : ∀ owner start, xs.countP (fun e => e.startsQr owner &&
    decide (start ≤ e.now ∧ e.now < start + qrStartRateWindow)) ≤ maxQrStartsPerDevice

theorem startsRecorded_new : StartsRecorded [] .new where
  past _ he := nomatch he
  recorded _ := .slnil
  few _ := Nat.zero_le _
  windows _ _ := Nat.zero_le _

variable {clock : Nat}

/-- What counts later is part of what counts now. -/
theorem filter_starts_later {window : Nat} (hlater : clock ≤ now) (p : LoginEvent → Bool)
    (xs : List LoginEvent) : (xs.filter fun e => p e && decide (now < e.now + window)).map (·.now) =
      ((xs.filter fun e => p e && decide (clock < e.now + window)).map (·.now)).filter
        fun start => decide (now < start + window) := by
  rw [filter_map, filter_filter]
  congr 1
  apply filter_congr
  intro e _
  by_cases hnow : now < e.now + window
  · have hclock : clock < e.now + window := Nat.lt_of_le_of_lt hlater hnow
    simp [hnow, hclock]
  · simp [hnow]

/-- Later, fewer starts count. -/
theorem recentStarts_later (hlater : clock ≤ now) (xs : List LoginEvent) :
    recentStarts owner now xs = recentAttempts now (recentStarts owner clock xs) :=
  filter_starts_later hlater _ xs

/-- The starts after one more event. -/
theorem recentStarts_append (xs : List LoginEvent) :
    recentStarts owner now (xs ++ [event]) = recentStarts owner now xs ++
      if event.startsQr owner = true ∧ now < event.now + qrStartRateWindow then [event.now]
      else [] := by
  unfold recentStarts
  generalize qrStartRateWindow = window
  rw [filter_append, map_append]
  by_cases hcounts : event.startsQr owner = true ∧ now < event.now + window
  · simp [hcounts]
  have hnot : ¬ (event.startsQr owner && decide (now < event.now + window)) = true := by
    simpa using hcounts
  rw [if_neg hcounts]
  simp only [filter_cons, if_neg hnot, filter_nil, map_nil]

/-- A step keeps the starts listed. -/
theorem loginStep_startsRecorded (h : LoginStep tools limits w event w')
    (hw : StartsRecorded xs w) : StartsRecorded (xs ++ [event]) w' := by
  obtain ⟨hlater, _, hcall, hclock, _⟩ := loginStep_iff.mp h
  obtain ⟨now, op, answer⟩ := event
  dsimp only at hlater hcall hclock
  obtain ⟨t, ht, hmove⟩ := call_move hcall
  -- what still counts was listed before the call, and still is
  have hpre : ∀ owner, (recentStarts owner now xs).Sublist
      (recentAttempts now (t.qrStartAttempts owner)) := by
    intro owner
    have hlist : (recentStarts owner now xs).Sublist
        (recentAttempts now (w.table.qrStartAttempts owner)) := by
      rw [recentStarts_later hlater]
      exact (hw.recorded owner).filter _
    rcases ht with rfl | rfl
    · exact hlist
    · rw [expireAndPurge_attempts, recentAttempts_idem]
      exact hlist
  have hfew : ∀ owner, (t.qrStartAttempts owner).length ≤ maxQrStartsPerDevice := by
    intro owner
    rcases ht with rfl | rfl
    · exact hw.few owner
    · rw [expireAndPurge_attempts]
      exact Nat.le_trans (recentAttempts_sublist _).length_le (hw.few owner)
  have hwin : now < now + qrStartRateWindow := Nat.lt_add_of_pos_right (by decide)
  refine ⟨?_, ?_, fun owner => (hmove.attempts owner (hfew owner)).2, ?_⟩
  · intro e he
    rw [hclock]
    rcases mem_append.mp he with he | he
    · exact Nat.le_trans (hw.past e he) hlater
    · rw [mem_singleton.mp he]
  · intro owner
    rw [hclock, recentStarts_append]
    by_cases hstart : (⟨now, op, answer⟩ : LoginEvent).startsQr owner = true
    · rw [if_pos ⟨hstart, hwin⟩]
      exact ((hpre owner).append (.refl _)).trans (hmove.attempts_start hstart)
    · rw [if_neg fun h => hstart h.1, append_nil]
      exact (hpre owner).trans (hmove.attempts owner (hfew owner)).1
  · intro owner start
    rw [countP_append]
    by_cases hstart : (⟨now, op, answer⟩ : LoginEvent).startsQr owner = true ∧
        start ≤ now ∧ now < start + qrStartRateWindow
    · -- all the others in the window still count
      have hoths : xs.countP (fun e => e.startsQr owner &&
          decide (start ≤ e.now ∧ e.now < start + qrStartRateWindow)) ≤
          (recentStarts owner now xs).length := by
        rw [recentStarts, length_map, ← countP_eq_length_filter]
        apply countP_mono_left
        intro e _ he
        simp only [Bool.and_eq_true, decide_eq_true_eq] at he ⊢
        exact ⟨he.1, by omega⟩
      have hlast := (hmove.attempts_start hstart.1).length_le
      have hall := (hpre owner).length_le
      have hroom := (hmove.attempts owner (hfew owner)).2
      rw [length_append, length_singleton] at hlast
      have hone : [(⟨now, op, answer⟩ : LoginEvent)].countP (fun e => e.startsQr owner &&
          decide (start ≤ e.now ∧ e.now < start + qrStartRateWindow)) ≤ 1 :=
        countP_le_length
      omega
    · have hnone : [(⟨now, op, answer⟩ : LoginEvent)].countP (fun e => e.startsQr owner &&
          decide (start ≤ e.now ∧ e.now < start + qrStartRateWindow)) = 0 := by
        rw [countP_eq_zero]
        intro e he
        rw [mem_singleton.mp he]
        simpa using hstart
      rw [hnone]
      exact hw.windows owner start

/-! ## The laws of the manager -/

/-- Make the calls in order. -/
def LoginWorld.calls (tools : LoginTools) (limits : LoginLimits) (w : LoginWorld) :
    List (Nat × LoginOp) → Option (List LoginEvent × LoginWorld)
  | [] => some ([], w)
  | (now, op) :: rest =>
    (w.next tools limits now op).bind fun first =>
      (first.2.calls tools limits rest).map fun result =>
        (⟨now, op, first.1⟩ :: result.1, result.2)

/-- Replayed calls are a run. -/
theorem run_of_calls {calls : List (Nat × LoginOp)}
    (h : w.calls tools limits calls = some (xs, w')) : Run (LoginStep tools limits) w xs w' := by
  induction calls generalizing w xs with
  | nil =>
    cases h
    exact .nil _
  | cons call calls ih =>
    obtain ⟨first, hfst, hmap⟩ := Option.bind_eq_some_iff.mp h
    obtain ⟨res, hres, heq⟩ := Option.map_eq_some_iff.mp hmap
    cases heq
    exact .cons hfst (ih hres)

/-- The input of a poll of the login. -/
def LoginEvent.pollOf (event : LoginEvent) (id : Uuid) : Option PollInput :=
  match event with
  | ⟨_, .pollInput id', .polls (.ok input)⟩ => if id' = id then some input else none
  | _ => none

theorem polls_of_pollOf (h : event.pollOf id = some input) : event.Polls id input := by
  unfold LoginEvent.pollOf at h
  split at h
  · obtain ⟨heq, rfl⟩ := of_guard h
    exact ⟨congrArg LoginOp.pollInput heq, rfl⟩
  · cases h

/-- A parser that knows one address. -/
def sampleLoginTools : LoginTools where
  parse _ := some ⟨"https", some "ilinkai.weixin.qq.com", "", none, none, "/", none, none,
    "https://ilinkai.weixin.qq.com/"⟩

/-- The provider asks for a verify code; a poll without one is under way when the
code is submitted. -/
def sampleVerifyCalls : List (Nat × LoginOp) :=
  [(0, .start (.device 7) true false 1 (some 0)), (1, .installQr 1 ⟨"qr", "image"⟩),
    (2, .applyProviderStatus 1 1 0 ⟨.needVerifyCode, none, none, none, none, none⟩ false (some 2)),
    (3, .pollInput 1), (4, .submitVerifyCode 7 1 "1234")]

/-- The answer to that poll. -/
def sampleConfirmation : LoginOp :=
  .applyProviderStatus 1 1 0
    ⟨.confirmed, some "token", some "bot", none, some "user", none⟩ false (some 5)

end PromptDock.Wechat
