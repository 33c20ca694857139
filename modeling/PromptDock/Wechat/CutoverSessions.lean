import PromptDock.Wechat.CutoverDeadlock

/-!
# Logins that were called off, and logins that were promoted

While a cutover is committing, its worker has the cutover mutex, so neither its owner
nor a disconnect can call the login off; after `cutover` has returned, and before
`finish_cutover`, a disconnect can (`promoted_login_called_off`).  As long as no
disconnect cancels the candidate in between (`Unhurried`), what was called off is never
promoted, and what was promoted is confirmed (`promotion_is_final`).
-/

namespace PromptDock.Wechat

open LabelledRun CutoverWorld LoginSessions Function Option Bool

/-! ## Committing sessions -/

variable {limits : LoginLimits} {now : Nat} {id : Uuid} {session : LoginSession}

section

variable {tools : LoginTools} {op : LoginOp} {answer : LoginAnswer} {s s' t t' : LoginSessions}

/-- The cutover of the login is committing. -/
def LoginSessions.Committing (s : LoginSessions) (id : Uuid) : Prop :=
  ∃ session, s.sessions id = some session ∧ session.cutoverCommitting = true

/-- The calls that end a session whatever its cutover does. -/
def LoginOp.endsCutover (id : Uuid) : LoginOp → Prop
  | .cancelCandidateForDisconnect => True
  | .finishCutover id' _ | .failProvider id' => id' = id
  | _ => False

/-- A session whose cutover commits is live. -/
theorem LoginSession.WellFormed.live_of_committing (h : session.WellFormed)
    (hcom : session.cutoverCommitting = true) : session.state.isTerminal = false := by
  rw [eq_false_iff]
  intro hterm
  have hnot := (h.ended hterm).2.1
  rw [hcom] at hnot
  cases hnot

/-- A committing session does not run out of time and is not dropped. -/
theorem expireAndPurge_committing (hs : s.WellFormed) (hsess : s.sessions id = some session)
    (hcom : session.cutoverCommitting = true) :
    (s.expireAndPurge limits now).sessions id = some session := by
  have hw := hs.session id session hsess
  have hexp : session.expire now = session := if_neg (by simp [LoginSession.expires, hcom])
  refine expireAndPurge_session.mpr ⟨session, hsess, hexp, ?_⟩
  simp [LoginSession.purged, hw.live (hw.live_of_committing hcom)]

/-- A call leaves a committing session alone, or it is one that ends it. -/
theorem call_committing (h : op.call tools limits now s = some (answer, s')) (hs : s.WellFormed)
    (hdraw : op.draws ≠ some id) (hc : s.Committing id) : s'.Committing id ∨ op.endsCutover id := by
  obtain ⟨session, hsess, hcom⟩ := hc
  have hawait := (hs.session id session hsess).committing hcom
  obtain ⟨t, ht, hmove⟩ := call_move h
  have htable : t.WellFormed ∧ t.sessions id = some session := by
    rcases ht with rfl | rfl
    · exact ⟨hs, hsess⟩
    · exact ⟨hs.expireAndPurge, expireAndPurge_committing hs hsess hcom⟩
  rcases hmove.fate htable.1 hdraw with ⟨hnone, _⟩ | ⟨x, session', hx, hsess', hfate⟩
  · rw [htable.2] at hnone
    cases hnone
  rw [htable.2] at hx
  cases hx
  cases hfate with
  | same => exact .inl ⟨session, hsess', hcom⟩
  | changed _ hchg =>
    left
    refine ⟨session', hsess', ?_⟩
    cases hchg with
    | rebind => exact hcom
    | commit => rfl
    | _ => simp_all
  | ended _ hend =>
    right
    cases hend with
    | disconnect => exact trivial
    | cutover => exact rfl
    | fail => exact rfl
    | _ => simp_all

theorem dropCarried_same (session : LoginSession) (rev : Nat) : session.dropCarried rev =
      { session with pendingVerifyCode := (session.dropCarried rev).pendingVerifyCode } := by
  unfold LoginSession.dropCarried
  split <;> rfl

/-- Only `begin_cutover` makes a session commit. -/
theorem LoginMove.begins (h : LoginMove tools limits now op answer t t') (hc : t'.Committing id) :
    t.Committing id ∨ ∃ owner, op = .beginCutover id owner := by
  obtain ⟨session', hsess', hcom⟩ := hc
  cases h with
  | keep | release => exact .inl ⟨session', hsess', hcom⟩
  | refuse =>
    rw [t.recordQrStart_frame] at hsess'
    exact .inl ⟨session', hsess', hcom⟩
  | @change _ _ _ other session x _ hsess _ hchg =>
    obtain ⟨rfl, ⟨⟩⟩ | ⟨_, hpre⟩ := update_eq_some hsess'
    · cases hchg with
      | commit => exact .inr ⟨_, rfl⟩
      | rebind | verify | qr => exact .inl ⟨session, hsess, hcom⟩
      | _ =>
        rw [dropCarried_same] at hcom
        exact .inl ⟨session, hsess, hcom⟩
    · exact .inl ⟨session', hpre, hcom⟩
  | finish | startConnected =>
    obtain ⟨_, ⟨⟩⟩ | ⟨_, hpre⟩ := update_eq_some hsess'
    · cases hcom
    · exact .inl ⟨session', hpre, hcom⟩
  | startQr =>
    rw [t.recordQrStart_frame] at hsess'
    obtain ⟨_, ⟨⟩⟩ | ⟨_, hpre⟩ := update_eq_some hsess'
    · cases hcom
    · exact .inl ⟨session', hpre, hcom⟩

/-- Expiry makes no session commit. -/
theorem committing_of_expireAndPurge (h : (s.expireAndPurge limits now).Committing id) :
    s.Committing id := by
  obtain ⟨session', hsess', hcom⟩ := h
  obtain ⟨session, hsess, rfl, _⟩ := expireAndPurge_session.mp hsess'
  rcases session.expire_cases now with ⟨_, heq⟩ | ⟨_, heq⟩
  · rw [heq] at hcom
    cases hcom
  · rw [heq] at hcom
    exact ⟨session, hsess, hcom⟩

/-- Only `begin_cutover` makes a session commit. -/
theorem call_begins (h : op.call tools limits now s = some (answer, s')) (hc : s'.Committing id) :
    s.Committing id ∨ ∃ owner, op = .beginCutover id owner := by
  obtain ⟨t, ht, hmove⟩ := call_move h
  rcases hmove.begins hc with hpre | hbegin
  · left
    rcases ht with rfl | rfl
    · exact hpre
    · exact committing_of_expireAndPurge hpre
  · exact .inr hbegin

end

/-! ## Workers and their sessions -/

variable {owner : Uuid}

section

variable {tools : CutoverTools} {w w1 w' : CutoverWorld} {op : CutoverOp} {c : PreparedCandidate}
  {phase : CutoverPhase} {phase' : WorkerPhase} {after : Bool}

/-- The cutover has succeeded. -/
def CutoverOutcome.isActivated : CutoverOutcome → Bool
  | .activated | .activatedDegraded => true
  | _ => false

/-- The connection was promoted, and the session is not finished. -/
def CutoverPhase.promoted : CutoverPhase → Bool
  | .starting => true
  | .leaving outcome | .finishing outcome => outcome.isActivated
  | _ => false

/-- `begin_cutover` has succeeded, and the cutover goes on. -/
def CutoverPhase.commits : CutoverPhase → Bool
  | .stopping | .authorizing true _ | .confirming | .promoting | .committing _ => true
  | phase => phase.promoted

/-- The cutover may have begun. -/
def CutoverPhase.begun : CutoverPhase → Bool
  | .discarding exit | .discardingSecret exit => exit.resumes
  | .resuming _ | .leaving _ | .finishing _ => true
  | phase => phase.commits

def CutoverPhase.isFinishing : CutoverPhase → Bool
  | .finishing _ => true
  | _ => false

def WorkerPhase.begun : WorkerPhase → Bool
  | .cutover _ phase => phase.begun
  | _ => false

/-- No disconnect cancels the candidate between the return of a cutover and
`finish_cutover`. -/
def Unhurried (w : CutoverWorld) : CutoverOp → Prop
  | .disconnectStep n _ _ => w.disconnects n = some .cancelling →
      ∀ id c outcome, w.workers id ≠ some (.cutover c (.finishing outcome))
  | _ => True

/-- What commits has begun. -/
theorem CutoverPhase.begun_of_commits (h : phase.commits = true) : phase.begun = true := by
  cases phase <;> first | exact h | rfl | cases h

/-- A worker whose cutover has begun has the mutex until `cutover` returns. -/
theorem LockInvariant.begun_holds (hw : LockInvariant w)
    (hph : w.workers id = some (.cutover c phase)) (hbeg : phase.begun = true)
    (hfin : phase.isFinishing = false) : (w.locks .cutover).Holds (.worker id) := by
  apply hw.engaged_holds hph
  · left
    cases phase with
    | authorizing => rfl
    | discarding exit | discardingSecret exit => cases exit <;> first | rfl | cases hbeg
    | finishing => cases hfin
    | _ => first | rfl | cases hbeg
  · cases phase <;> first | exact Bool.noConfusion hbeg | exact nofun

variable {lop : LoginOp} {m : LoginSessions} {next : CutoverPhase}

/-- While a cutover goes on, no call ends its session but its own last one. -/
theorem ServiceCall.spares (h : ServiceCall w op lop) (hw : LockInvariant w)
    (hop : phase.isFinishing = true → Unhurried w op)
    (hph : w.workers id = some (.cutover c phase)) (hbeg : phase.begun = true)
    (hends : lop.endsCutover id) :
    ∃ input outcome, op = .work id input ∧ phase = .finishing outcome := by
  cases h with
  | worker hlop hwork hplain =>
    cases lop with
    | failProvider =>
      cases hlop
      cases hends
      rw [hph] at hwork
      cases hwork
      cases hplain
    | finishCutover => cases hlop
    | cancelCandidateForDisconnect => cases hlop
    | _ => cases hends
  | @finish other input c' outcome hwork =>
    cases hends
    rw [hph] at hwork
    cases hwork
    exact ⟨input, outcome, rfl, rfl⟩
  | @disconnect n now ok hcancelling =>
    cases hfin : phase.isFinishing with
    | true =>
      cases phase with
      | finishing outcome => exact absurd hph (hop rfl hcancelling id c outcome)
      | _ => cases hfin
    | false =>
      have hdisconnect : (w.locks .cutover).Holds (.disconnect n) :=
        hw.disconnect_holds hcancelling rfl nofun
      cases (hw.begun_holds hph hbeg hfin).unique hdisconnect
  | _ => cases hends

/-- What holds of the sessions of the workers; `after` tells that it holds also after
`cutover` has returned. -/
structure CommitInvariant (after : Bool) (w : CutoverWorld) : Prop where
  own : ∀ id c phase, w.workers id = some (.cutover c phase) → c.loginId = id
  commits : ∀ id c phase, w.workers id = some (.cutover c phase) → phase.commits = true →
    (phase.isFinishing = true → after = true) → w.manager.Committing id
  begun : ∀ id, w.manager.Committing id → (w.workers id).any (·.begun) = true
  listed : ∀ id session, w.manager.sessions id = some session → w.drawn id = true

/-- At the start there is no session. -/
theorem commitInvariant_boot (devices : Uuid → Option DeviceAuthRow)
    (runtime : RuntimeConnection) : CommitInvariant after (.boot devices runtime) where
  own _ _ _ h := nomatch h
  commits _ _ _ h := nomatch h
  begun _ h := by
    obtain ⟨_, hsess, _⟩ := h
    cases hsess
  listed _ _ h := nomatch h

/-- The candidate of a confirmed login, and its session from then on. -/
theorem confirmed_candidate {gen rev : Nat} {resp : GetQrCodeStatusResponse}
    {active : Bool} {wall : Timestamp}
    (h : (m.applyProviderStatusAt tools.login limits id gen rev resp active now
      wall).1 = .ok (.cutover c)) :
    ∃ session, (m.expireAndPurge limits now).sessions id = some session ∧
      session.state.isTerminal = false ∧ c.loginId = id ∧
      c.ownerDeviceId = session.ownerDeviceId ∧
      c.adminAuthorization = session.adminAuthorization ∧
      c.operatorAuthorized = session.operatorAuthorized ∧
      ∃ session', (m.applyProviderStatusAt tools.login limits id gen rev resp active
        now wall).2.sessions id = some session' ∧ session'.awaitingCutover = true ∧
        session'.ownerDeviceId = c.ownerDeviceId ∧
        session'.adminAuthorization = c.adminAuthorization := by
  generalize happly : m.applyProviderStatusAt tools.login limits id gen rev resp
    active now wall = applied at h ⊢
  unfold applyProviderStatusAt at happly
  dsimp only at happly
  split at happly
  · subst happly
    cases h
  rename_i session hsess
  split at happly
  · subst happly
    cases h
  rename_i hlive
  split at happly
  · subst happly
    cases h
  subst happly
  have hdir := Except.ok.inj h
  rw [dropCarried_same] at hdir ⊢
  rw [not_eq_true, or_eq_false_iff] at hlive
  generalize hstat : applyStatus .. = status at hdir ⊢
  unfold applyStatus at hstat
  split at hstat <;> (try split at hstat) <;> subst hstat <;> cases hdir
  refine ⟨session, hsess, hlive.1, rfl, rfl, rfl, rfl, ?_⟩
  exact ⟨_, update_self .., rfl, rfl, rfl⟩

/-- The edge of a cutover that goes on, or begins. -/
theorem CutoverEdge.commits (h : CutoverEdge tools limits w id c phase w1 phase')
    (hph' : phase' = .cutover c next) (hnext : next.commits = true) :
    (phase.commits = true ∧ w1.manager = w.manager) ∨
      (phase = .beginning ∧ ∃ now,
        (w.manager.beginCutover limits c.loginId c.ownerDeviceId now).1 = true ∧
        w1.manager = (w.manager.beginCutover limits c.loginId c.ownerDeviceId now).2) := by
  cases h with
  | begin now hbeg => exact .inr ⟨rfl, now, hbeg, rfl⟩
  | authorize again ok read =>
    cases hph'
    left
    rcases authorize_phase w c again ok read with heq | heq | ⟨read', heq⟩
    · rw [heq] at hnext
      cases again with
      | false => cases hnext
      | true => exact ⟨rfl, rfl⟩
    · rw [heq] at hnext
      cases hnext
    · rw [heq] at hnext
      cases again with
      | false => cases hnext
      | true => exact ⟨rfl, rfl⟩
  | nothingToDiscard exit | discarded exit | resumed exit =>
    cases hph'
    cases exit <;> cases hnext
  | leave =>
    cases hph'
    exact .inl ⟨hnext, rfl⟩
  | finish => cases hph'
  | _ =>
    cases hph'
    first | exact .inl ⟨rfl, rfl⟩ | cases hnext

/-- A cutover that has begun goes on until its session is finished. -/
theorem CutoverEdge.begun (h : CutoverEdge tools limits w id c phase w1 phase')
    (hbeg : phase.begun = true) : (phase'.begun = true ∧ w1.manager = w.manager) ∨
      ∃ outcome now, phase = .finishing outcome ∧ phase' = .ended ∧
        w1.manager = (w.manager.finishCutover id outcome now).2 := by
  cases h with
  | finish outcome now => exact .inr ⟨outcome, now, rfl, rfl, rfl⟩
  | authorize again ok read =>
    left
    refine ⟨?_, rfl⟩
    cases again with
    | false => cases hbeg
    | true =>
      rcases authorize_phase w c true ok read with heq | heq | ⟨read', heq⟩ <;>
      · rw [heq]
        rfl
  | nothingToDiscard exit | discarded exit =>
    left
    cases exit <;> exact ⟨rfl, rfl⟩
  | discard => exact .inl ⟨hbeg, rfl⟩
  | _ => first | exact .inl ⟨rfl, rfl⟩ | cases hbeg

/-- Only a start with a new identifier draws one. -/
theorem ServiceCall.draws (h : ServiceCall w op lop) (hdraw : lop.draws = some id) :
    w.manager.sessions id = none ∧ w.drawn id = false ∧
      ∃ starter, op.starts = some (starter, id) := by
  cases h with
  | start hop hsess hdrawn =>
    cases hdraw
    exact ⟨hsess, hdrawn, _, hop⟩
  | worker hlop => cases lop <;> first | cases hlop; done | cases hdraw
  | _ => cases hdraw

/-- A cutover that has begun keeps its session until it finishes it. -/
theorem ServiceMove.committing (h : ServiceMove tools limits w op w')
    (hop : phase.isFinishing = true → Unhurried w op) (hw : LockInvariant w)
    (hm : w.manager.WellFormed)
    (hph : w.workers id = some (.cutover c phase)) (hbeg : phase.begun = true)
    (hc : w.manager.Committing id)
    (hnot : ∀ input outcome, op = .work id input → phase ≠ .finishing outcome) :
    w'.manager.Committing id := by
  rcases h.manager with heq | ⟨lop, hcall, now, answer, hlop⟩
  · rw [heq]
    exact hc
  have hdraw : lop.draws ≠ some id := by
    intro hdraw
    obtain ⟨session, hsess, _⟩ := hc
    rw [(hcall.draws hdraw).1] at hsess
    cases hsess
  refine (call_committing hlop hm hdraw hc).resolve_right fun hends => ?_
  obtain ⟨input, outcome, hwork, hfin⟩ := hcall.spares hw hop hph hbeg hends
  exact hnot input outcome hwork hfin

/-- `begin_cutover` was called by the worker of the login. -/
theorem ServiceMove.begins (h : ServiceMove tools limits w op w') (hi : CommitInvariant after w)
    (hc : w'.manager.Committing id) : w.manager.Committing id ∨
      ∃ input c, op = .work id input ∧ w.workers id = some (.cutover c .beginning) := by
  rcases h.manager with heq | ⟨lop, hcall, now, answer, hlop⟩
  · rw [heq] at hc
    exact .inl hc
  rcases call_begins hlop hc with hpre | ⟨owner, rfl⟩
  · exact .inl hpre
  right
  cases hcall with
  | worker hlop => cases hlop
  | @begin worker input c hph =>
    have hown : c.loginId = worker := hi.own worker c _ hph
    rw [hown]
    exact ⟨input, c, rfl, hph⟩

/-- The session that `begin_cutover` found is committing. -/
theorem beginCutover_committing (h : (m.beginCutover limits id owner now).1 = true) :
    (m.beginCutover limits id owner now).2.Committing id := by
  unfold beginCutover at h ⊢
  dsimp only at h ⊢
  split at h
  · rename_i hcand
    rw [if_pos hcand]
    split at h
    · cases h
    split at h
    · rename_i haw
      rw [if_pos haw]
      exact ⟨_, update_self .., rfl⟩
    · cases h
  · cases h

/-- `finish_cutover` of a committing session ends it as the outcome says. -/
theorem finishCutover_session (outcome : CutoverOutcome) (now : Nat) (hm : m.WellFormed)
    (hc : m.Committing id) :
    ∃ session, (m.finishCutover id outcome now).2.sessions id = some session ∧
      session.state = (cutoverEnd outcome).1 ∧ session.cutoverCommitting = false := by
  obtain ⟨session, hsess, hcom⟩ := hc
  have hawait := (hm.session id session hsess).committing hcom
  unfold finishCutover
  rw [hsess]
  dsimp only
  rw [if_pos hawait]
  exact ⟨_, update_self .., rfl, rfl⟩

/-- A refused cutover changes nothing but expired sessions. -/
theorem beginCutover_refused (h : (m.beginCutover limits id owner now).1 = false) :
    (m.beginCutover limits id owner now).2 = m.expireAndPurge limits now := by
  unfold beginCutover at h ⊢
  dsimp only at h ⊢
  split
  · rename_i hcand
    rw [if_pos hcand] at h
    split
    · rfl
    rename_i session hsess
    rw [hsess] at h
    dsimp only at h
    split
    · rename_i haw
      rw [if_pos haw] at h
      cases h
    · rfl
  · rfl

/-- The identifiers that were drawn stay drawn. -/
theorem ServiceMove.drawn (h : ServiceMove tools limits w op w') :
    (∀ id, w.drawn id = true → w'.drawn id = true) ∧
      ∀ starter id, op.starts = some (starter, id) → w'.drawn id = true := by
  cases h with
  | @start _ starter id forceFresh now wall answer manager' hop =>
    have hupd : ∀ other, w.drawn other = true ∨ other = id →
        update w.drawn id true other = true := by
      intro other hoth
      by_cases heq : other = id
      · rw [heq, update_self]
      · rw [update_of_ne heq]
        exact hoth.resolve_right heq
    refine ⟨fun other hoth => ?_, fun starter' other hstart => ?_⟩
    · dsimp only
      split <;> exact hupd other (.inl hoth)
    rw [hop] at hstart
    cases hstart
    split <;> exact hupd id (.inr rfl)
  | owner lop hop =>
    refine ⟨fun _ h => h, fun starter id hstart => ?_⟩
    cases op <;> first | cases hop; done | cases hstart
  | cutover _ hedge | login _ _ hedge | disconnecting _ hedge | administering _ hedge =>
    exact ⟨fun _ h => by cases hedge <;> exact h, fun _ _ h => nomatch h⟩
  | _ => exact ⟨fun _ h => h, fun _ _ h => nomatch h⟩

/-- A worker keeps its candidate through the cutover. -/
theorem CutoverEdge.candidate (h : CutoverEdge tools limits w id c phase w1 phase')
    {c' : PreparedCandidate} (hph' : phase' = .cutover c' next) : c' = c := by
  cases h <;> cases hph' <;> rfl

theorem WorkerPhase.not_begun {phase : WorkerPhase} (h : phase.isPlain = true) :
    phase.begun = false := by
  cases phase with
  | cutover => cases h
  | _ => rfl

section

variable (h : ServiceMove tools limits w op w') (hop : after = true → Unhurried w op)
  (hw : LockInvariant w) (hm : w.manager.WellFormed) (hi : CommitInvariant after w)

include h hi

/-- A worker carries its own candidate. -/
theorem ServiceMove.own (hph' : w'.workers id = some (.cutover c phase)) : c.loginId = id := by
  cases h.workerStep id with
  | other _ hsame => exact hi.own id c phase (hsame ▸ hph')
  | plain _ haft hplain =>
    rw [hph'] at haft
    cases haft
    cases hplain
  | confirmed _ _ hdir =>
    rw [setWorker_workers_self] at hph'
    cases hph'
    obtain ⟨_, _, _, hown, _⟩ := confirmed_candidate hdir
    exact hown
  | edge hph hedge =>
    rw [setWorker_workers_self] at hph'
    rw [hedge.candidate (some.inj hph')]
    exact hi.own id _ _ hph

include hop hw hm

/-- While a worker commits, its session does. -/
theorem ServiceMove.commits (hph' : w'.workers id = some (.cutover c phase))
    (hcom : phase.commits = true) (haft : phase.isFinishing = true → after = true) :
    w'.manager.Committing id := by
  cases h.workerStep id with
  | other hnot hsame =>
    have hph : w.workers id = some (.cutover c phase) := hsame ▸ hph'
    exact h.committing (fun hf => hop (haft hf)) hw hm hph
      (CutoverPhase.begun_of_commits hcom) (hi.commits id c phase hph hcom haft)
      fun input _ hwork => absurd hwork (hnot input)
  | plain _ hplace hplain =>
    rw [hph'] at hplace
    cases hplace
    cases hplain
  | confirmed =>
    rw [setWorker_workers_self] at hph'
    cases hph'
    cases hcom
  | @edge input c' before w1 next hph hedge =>
    rw [setWorker_workers_self] at hph'
    have hnext := some.inj hph'
    have hcand := hedge.candidate hnext
    subst hcand
    show w1.manager.Committing id
    rcases hedge.commits hnext hcom with ⟨hpre, hmanager⟩ | ⟨rfl, now, hbeg, hmanager⟩
    · rw [hmanager]
      refine hi.commits id c before hph hpre fun hf => ?_
      cases before with
      | finishing =>
        cases hedge
        cases hnext
      | _ => cases hf
    · rw [hmanager]
      have hown := hi.own id c _ hph
      rw [hown] at hbeg ⊢
      exact beginCutover_committing hbeg

omit hop hw in
/-- A session that commits has a worker that began. -/
theorem ServiceMove.begun (hc : w'.manager.Committing id) :
    (w'.workers id).any (·.begun) = true := by
  have hplain : (w.workers id).all (·.isPlain) = true → (w.workers id).any (·.begun) = false := by
    cases w.workers id with
    | none => exact fun _ => rfl
    | some => exact WorkerPhase.not_begun
  rcases h.begins hi hc with hpre | ⟨input, c, rfl, hph⟩
  · have hbeg := hi.begun id hpre
    cases h.workerStep id with
    | other _ hsame => exact hsame ▸ hbeg
    | plain hall => exact absurd hbeg (by rw [hplain hall]; exact false_ne_true)
    | confirmed hph hall =>
      rw [hph] at hbeg
      exact absurd hbeg (by rw [any_some, WorkerPhase.not_begun hall]; exact false_ne_true)
    | edge hph hedge =>
      rw [hph] at hbeg
      rw [setWorker_workers_self]
      rcases hedge.begun hbeg with ⟨hnext, _⟩ | ⟨outcome, now, rfl, rfl, hmanager⟩
      · exact hnext
      obtain ⟨session, hsess, hcom⟩ := hc
      obtain ⟨session', hsess', _, hnot⟩ := finishCutover_session outcome now hm hpre
      have hsame := hsess.symm.trans ((congrArg (·.sessions id) hmanager).trans hsess')
      cases hsame
      rw [hnot] at hcom
      cases hcom
  · cases h.workerStep id with
    | other hnot => exact absurd rfl (hnot input)
    | plain hall =>
      rw [hph] at hall
      cases hall
    | confirmed hph' hall =>
      rw [hph] at hph'
      cases hph'
      cases hall
    | edge hph' hedge =>
      rw [hph] at hph'
      cases hph'
      cases hedge with
      | begin =>
        rw [setWorker_workers_self]
        rfl
      | notBegun now href =>
        -- a refused `begin_cutover` leaves no session committing
        rw [beginCutover_refused href] at hc
        have hbeg := hi.begun id (committing_of_expireAndPurge hc)
        rw [hph] at hbeg
        cases hbeg

end

variable {allowed : LoginState → Prop} {m : LoginSessions}

/-- Sessions have ids that were drawn. -/
theorem ServiceMove.listed (h : ServiceMove tools limits w op w') (hm : w.manager.WellFormed)
    (hi : CommitInvariant after w) (hsess : w'.manager.sessions id = some session) :
    w'.drawn id = true := by
  rcases h.manager with heq | ⟨lop, hcall, now, answer, hlop⟩
  · rw [heq] at hsess
    exact h.drawn.1 id (hi.listed id session hsess)
  by_cases hdraw : lop.draws = some id
  · obtain ⟨_, _, starter, hstart⟩ := hcall.draws hdraw
    exact h.drawn.2 starter id hstart
  cases hpre : w.manager.sessions id with
  | none =>
    rw [call_origin hlop hm hdraw hpre] at hsess
    cases hsess
  | some session => exact h.drawn.1 id (hi.listed id session hpre)

/-- One move of the service, put together. -/
theorem ServiceMove.commitInvariant (h : ServiceMove tools limits w op w')
    (hop : after = true → Unhurried w op) (hw : LockInvariant w) (hm : w.manager.WellFormed)
    (hi : CommitInvariant after w) : CommitInvariant after w' where
  own _ _ _ hphase := h.own hi hphase
  commits _ _ _ hphase hcom hafter := h.commits hop hw hm hi hphase hcom hafter
  begun _ hc := h.begun hm hi hc
  listed _ _ hsession := h.listed hm hi hsession

/-! ## Called off, promoted -/

/-- The sessions and locks of a reachable world are in order. -/
structure InOrder (after : Bool) (w : CutoverWorld) : Prop where
  locks : LockInvariant w
  manager : w.manager.WellFormed
  commit : CommitInvariant after w

/-- A step in which no disconnect hurries. -/
def UnhurriedStep (tools : CutoverTools) (limits : LoginLimits) (w : CutoverWorld)
    (op : CutoverOp) (w' : CutoverWorld) : Prop :=
  LoginServiceStep tools limits w op w' ∧ Unhurried w op

theorem ServiceMove.wellFormed (h : ServiceMove tools limits w op w') (hm : w.manager.WellFormed) :
    w'.manager.WellFormed := by
  rcases h.manager with heq | ⟨lop, _, now, answer, hcall⟩
  · rw [heq]
    exact hm
  · exact call_wellFormed hcall hm

/-- A move keeps sessions and locks in order. -/
theorem ServiceMove.inOrder (h : ServiceMove tools limits w op w')
    (hop : after = true → Unhurried w op) (hw : InOrder after w) : InOrder after w' :=
  ⟨h.lockInvariant hw.locks, h.wellFormed hw.manager,
    h.commitInvariant hop hw.locks hw.manager hw.commit⟩

theorem UnhurriedStep.inOrder (h : UnhurriedStep tools limits w op w') (hw : InOrder true w) :
    InOrder true w' :=
  (next_move h.1).inOrder (fun _ => h.2) hw

/-- At the start they are in order. -/
theorem inOrder_boot (devices : Uuid → Option DeviceAuthRow) (runtime : RuntimeConnection) :
    InOrder after (.boot devices runtime) :=
  ⟨lockInvariant_boot devices runtime, wellFormed_new, commitInvariant_boot devices runtime⟩

/-- The rename of the staged file of the login succeeds in this step. -/
def Promotes (w : CutoverWorld) (op : CutoverOp) (id : Uuid) : Prop :=
  op = .work id (.ended true) ∧
    ∃ c bundle, w.workers id = some (.cutover c (.committing bundle))

/-- The login was drawn, and its session is over in a way that `allowed` admits, or gone. -/
structure Over (allowed : LoginState → Prop) (w : CutoverWorld) (id : Uuid) : Prop where
  drawn : w.drawn id = true
  state : ∀ session, w.manager.sessions id = some session →
    session.state.isTerminal = true ∧ allowed session.state

/-- What is over stays over. -/
theorem ServiceMove.over_kept (h : ServiceMove tools limits w op w') (hm : w.manager.WellFormed)
    (ho : Over allowed w id) : Over allowed w' id := by
  refine ⟨h.drawn.1 id ho.drawn, fun session' hsess' => ?_⟩
  rcases h.manager with heq | ⟨lop, hcall, now, answer, hlop⟩
  · rw [heq] at hsess'
    exact ho.state session' hsess'
  have hdraw : lop.draws ≠ some id := by
    intro hdraw
    exact false_ne_true ((hcall.draws hdraw).2.1.symm.trans ho.drawn)
  cases hpre : w.manager.sessions id with
  | none =>
    rw [call_origin hlop hm hdraw hpre] at hsess'
    cases hsess'
  | some session =>
    have hst := ho.state session hpre
    rcases call_terminal hlop hm hdraw hpre hst.1 with hsame | hnone
    · rw [hsame] at hsess'
      cases hsess'
      exact hst
    · rw [hnone] at hsess'
      cases hsess'

/-- What is over stays over. -/
theorem UnhurriedStep.over_kept {v : CutoverWorld} {ops : List CutoverOp}
    (h : Run (UnhurriedStep tools limits) w ops v) (hw : InOrder true w) (ho : Over allowed w id) :
    Over allowed v id :=
  (h.invariant (I := fun w => InOrder true w ∧ Over allowed w id)
    (fun _ _ _ hstep hs => ⟨hstep.inOrder hs.1, (next_move hstep.1).over_kept hs.1.manager hs.2⟩)
    ⟨hw, ho⟩).2

/-- What is over is not promoted. -/
theorem InOrder.not_promotes (hw : InOrder true w) (ho : Over allowed w id) :
    ¬ Promotes w op id := by
  rintro ⟨_, c, bun, hph⟩
  obtain ⟨session, hsess, hcom⟩ := hw.commit.commits id c _ hph rfl nofun
  have hlive := (hw.manager.session id session hsess).live_of_committing hcom
  rw [(ho.state session hsess).1] at hlive
  cases hlive

/-- A session in a state that is over. -/
theorem InOrder.over_of_session (hw : InOrder true w) (hsess : w.manager.sessions id = some session)
    (hterm : session.state.isTerminal = true) : Over (fun _ => True) w id := by
  refine ⟨hw.commit.listed id session hsess, fun session' hsess' => ?_⟩
  rw [hsess] at hsess'
  cases hsess'
  exact ⟨hterm, trivial⟩

/-- A cancellation that succeeds leaves a session that is over. -/
theorem cancel_over {snapshot : LoginSnapshot}
    (h : (m.cancel limits owner id now).1 = .ok snapshot) :
    ∃ session, (m.cancel limits owner id now).2.sessions id = some session ∧
      session.state.isTerminal = true := by
  unfold cancel at h ⊢
  dsimp only at h ⊢
  split at h
  · cases h
  rename_i session hsess
  have hsess := (ownerSession_some hsess).1
  split at h
  · cases h
  split at h
  · rename_i hcom hterm
    rw [if_neg hcom, if_pos hterm]
    exact ⟨session, hsess, hterm⟩
  · rename_i hcom hterm
    rw [if_neg hcom, if_neg hterm]
    exact ⟨_, update_self .., rfl⟩

/-- A candidate that a disconnect cancels has ended. -/
theorem disconnect_over {m' : LoginSessions}
    (h : m.cancelCandidateForDisconnect limits now = some (some id, m')) :
    ∃ session, m'.sessions id = some session ∧ session.state.isTerminal = true := by
  unfold cancelCandidateForDisconnect at h
  dsimp only at h
  split at h
  · cases h
  obtain ⟨session, hsess, hres⟩ := map_eq_some_iff.mp h
  split at hres
  · rename_i hterm
    cases hres
    exact ⟨session, hsess, hterm⟩
  · cases hres
    exact ⟨_, update_self .., rfl⟩

/-- A disconnect cancels the login in this step. -/
def DisconnectCancels (limits : LoginLimits) (w : CutoverWorld) (op : CutoverOp) (id : Uuid) :
    Prop :=
  ∃ n now ok m', op = .disconnectStep n now ok ∧ w.disconnects n = some .cancelling ∧
    w.manager.cancelCandidateForDisconnect limits now = some (some id, m')

/-- A cancellation of the login, by its owner or an administrator, succeeds in this
step. -/
def Cancels (limits : LoginLimits) (w : CutoverWorld) (op : CutoverOp) (id : Uuid) : Prop :=
  ∃ owner now snapshot, (w.manager.cancel limits owner id now).1 = .ok snapshot ∧
    (op = .cancel owner id now ∨
      ∃ n, op = .adminStep n (some (owner, id)) now ∧ w.admins n = some .cancelling)

/-- A login that is called off is over. -/
theorem calledOff_over (h : LoginServiceStep tools limits w op w') (hw' : InOrder true w')
    (hoff : Cancels limits w op id ∨ DisconnectCancels limits w op id) :
    Over (fun _ => True) w' id := by
  rcases hoff with ⟨owner, now, snapshot, hcanc, rfl | ⟨n, rfl, hph⟩⟩ |
    ⟨n, now, ok, m', rfl, hph, hcanc⟩
  · obtain ⟨session, hsess, hterm⟩ := cancel_over hcanc
    cases h
    exact hw'.over_of_session hsess hterm
  · obtain ⟨session, hsess, hterm⟩ := cancel_over hcanc
    simp only [LoginServiceStep, next, hph, bind_some, adminStep, some.injEq] at h
    subst h
    exact hw'.over_of_session hsess hterm
  · obtain ⟨session, hsess, hterm⟩ := disconnect_over hcanc
    simp only [LoginServiceStep, next, hph, bind_some,
      disconnectStep, hcanc, map_some, some.injEq] at h
    subst h
    exact hw'.over_of_session hsess hterm

/-- The connection of the login was promoted: its worker is on the way to finish the
session, or the session is confirmed. -/
def Settled (w : CutoverWorld) (id : Uuid) : Prop :=
  (∃ c phase, w.workers id = some (.cutover c phase) ∧ phase.promoted = true) ∨
    Over (· = .confirmed) w id

/-- A phase after the promotion still commits. -/
theorem CutoverPhase.commits_of_promoted (h : phase.promoted = true) : phase.commits = true := by
  cases phase <;> first | rfl | exact h | cases h

/-- A promoted login goes on to be confirmed. -/
theorem UnhurriedStep.settled (h : UnhurriedStep tools limits w op w') (hw : InOrder true w)
    (hs : Settled w id) : Settled w' id := by
  have hmove := next_move h.1
  rcases hs with ⟨c, phase, hph, hpromoted⟩ | ho
  · have hcom := hw.commit.commits id c phase hph
      (CutoverPhase.commits_of_promoted hpromoted) fun _ => rfl
    have hw' := h.inOrder hw
    cases hmove.workerStep id with
    | other _ hsame => exact .inl ⟨c, phase, hsame ▸ hph, hpromoted⟩
    | plain hall =>
      rw [hph] at hall
      cases hall
    | confirmed hph' hall =>
      rw [hph] at hph'
      cases hph'
      cases hall
    | edge hph' hedge =>
      rw [hph] at hph'
      cases hph'
      cases hedge with
      | started | notStarted => exact .inl ⟨c, _, setWorker_workers_self .., rfl⟩
      | leave => exact .inl ⟨c, _, setWorker_workers_self .., hpromoted⟩
      | finish outcome now =>
        right
        obtain ⟨session, hsess, hst, _⟩ := finishCutover_session outcome now hw.manager hcom
        have hconf : session.state = .confirmed := by
          rw [hst]
          cases outcome <;> first | rfl | cases hpromoted
        refine ⟨hw'.commit.listed id session hsess, fun session' hsess' => ?_⟩
        cases hsess.symm.trans hsess'
        rw [hconf]
        exact ⟨rfl, rfl⟩
      | _ => cases hpromoted
  · exact .inr (hmove.over_kept hw.manager ho)

/-- The rename that succeeds leaves its worker on the way to finish the session. -/
theorem promotes_settled (h : LoginServiceStep tools limits w op w') (hp : Promotes w op id) :
    Settled w' id := by
  obtain ⟨rfl, c, bun, hph⟩ := hp
  simp only [LoginServiceStep, next, work, hph, cutover, if_true, some.injEq] at h
  subst h
  exact .inl ⟨c, .starting, setWorker_workers_self .., rfl⟩

/-- A login that was called off or has expired is not promoted afterwards; a disconnect
does not cancel a login whose cutover is committing; and a login that was promoted is
confirmed when its worker is done. -/
theorem promotion_is_final {devices : Uuid → Option DeviceAuthRow} {runtime : RuntimeConnection}
    {xs ys : List CutoverOp} {v : CutoverWorld}
    (h : Run (UnhurriedStep tools limits) (.boot devices runtime) xs w)
    (hstep : UnhurriedStep tools limits w op w')
    (hrest : Run (UnhurriedStep tools limits) w' ys v) (id : Uuid) :
    (Cancels limits w op id ∨ DisconnectCancels limits w op id ∨
        (∃ session, w'.manager.sessions id = some session ∧ session.state = .expired) →
      ∀ op', ¬ Promotes v op' id) ∧
    (DisconnectCancels limits w op id → ¬ w.manager.Committing id) ∧
    (Promotes w op id → ∀ session, v.manager.sessions id = some session →
      session.state = .confirmed ∨
        (session.state.isTerminal = false ∧ ∃ c phase,
          v.workers id = some (.cutover c phase))) := by
  have hw : InOrder true w :=
    h.invariant (fun _ _ _ hs => hs.inOrder) (inOrder_boot devices runtime)
  have hw' := hstep.inOrder hw
  have hv : InOrder true v := hrest.invariant (fun _ _ _ hs => hs.inOrder) hw'
  refine ⟨fun hoff op' => ?_, ?_, fun hp session hsession => ?_⟩
  · have hover : Over (fun _ => True) w' id := by
      rcases hoff with hoff | hoff | ⟨session, hsession, hstate⟩
      · exact calledOff_over hstep.1 hw' (.inl hoff)
      · exact calledOff_over hstep.1 hw' (.inr hoff)
      · exact hw'.over_of_session hsession (by rw [hstate]; rfl)
    exact hv.not_promotes (UnhurriedStep.over_kept hrest hw' hover)
  · rintro ⟨n, now, ok, m', rfl, hcancelling, _⟩ hc
    obtain ⟨phase, hphase, hbegun⟩ := (any_eq_true ..).mp (hw.commit.begun id hc)
    cases phase with
    | cutover c phase =>
      have hfinishing : phase.isFinishing = false := by
        cases phase with
        | finishing outcome => exact absurd hphase (hstep.2 hcancelling id c outcome)
        | _ => rfl
      have hdisconnect : (w.locks .cutover).Holds (.disconnect n) :=
        hw.locks.disconnect_holds hcancelling rfl nofun
      cases (hw.locks.begun_holds hphase hbegun hfinishing).unique hdisconnect
    | _ => cases hbegun
  · have hsettled : Settled v id :=
      (hrest.invariant (I := fun w => InOrder true w ∧ Settled w id)
        (fun _ _ _ hs hi => ⟨hs.inOrder hi.1, hs.settled hi.1 hi.2⟩)
        ⟨hw', promotes_settled hstep.1 hp⟩).2
    rcases hsettled with ⟨c, phase, hphase, hpromoted⟩ | hover
    · obtain ⟨x, hx, hcommitting⟩ := hv.commit.commits id c phase hphase
        (CutoverPhase.commits_of_promoted hpromoted) fun _ => rfl
      rw [hsession] at hx
      cases hx
      exact .inr ⟨(hv.manager.session id session hsession).live_of_committing hcommitting, c, phase,
        hphase⟩
    · exact .inl (hover.state session hsession).2

end

/-! ## A disconnect right after a cutover -/

/-- The confirmed login is staged and goes through its cutover up to the rename. -/
def cutoverUpToRename : List CutoverOp :=
  confirmedLogin 1 ++ [.work 1 (.go 0), .work 1 (.go 0), .work 1 (.go 0), .work 1 (.ended true),
    .work 1 (.go 0), .work 1 (.go 0), .work 1 (.go 0), .work 1 (.ended true), .work 1 (.go 0),
    .work 1 (.ended true), .work 1 (.ended true), .work 1 (.go 0), .work 1 (.go 0)]

/-- The cutover returns, and a disconnect cancels its login before it is finished. -/
def disconnectAfterCutover : List CutoverOp :=
  [.work 1 (.ended true), .work 1 (.go 0), .disconnect 0, .disconnectStep 0 0 true,
    .disconnectStep 0 0 true, .disconnectStep 0 0 true, .work 1 (.go 0)]

/-- The file of the login is about to be renamed. -/
def CutoverWorld.renames (w : CutoverWorld) (id : Uuid) : Bool :=
  match w.workers id with
  | some (.cutover _ (.committing _)) => true
  | _ => false

variable {w : CutoverWorld}

/-- The sample promotes its login. -/
theorem promotes_of_renames (h : w.renames id = true) : Promotes w (.work id (.ended true)) id := by
  unfold renames at h
  split at h
  · rename_i c bun hph
    exact ⟨rfl, c, bun, hph⟩
  · cases h

/-- The login was promoted, and ends cancelled. -/
theorem promoted_login_called_off : ∃ w w' v session,
      Run (LoginServiceStep sampleCutoverTools .default) (.boot sampleDevices ⟨none, .disconnected⟩)
        cutoverUpToRename w ∧
      Promotes w (.work 1 (.ended true)) 1 ∧
      LoginServiceStep sampleCutoverTools .default w (.work 1 (.ended true)) w' ∧
      Run (LoginServiceStep sampleCutoverTools .default) w' disconnectAfterCutover v ∧
      v.manager.sessions 1 = some session ∧ session.state = .cancelled := by
  have hreplay : (replay (next sampleCutoverTools .default)
      (.boot sampleDevices ⟨none, .disconnected⟩) cutoverUpToRename).any (fun w =>
        w.renames 1 && (w.next sampleCutoverTools .default (.work 1 (.ended true))).any fun w' =>
          (replay (next sampleCutoverTools .default) w' disconnectAfterCutover).any
            fun v => (v.manager.sessions 1).any (·.state == .cancelled)) = true := by
    decide +kernel
  obtain ⟨w, hrun, hend⟩ := exists_run_of_any hreplay
  simp only [and_eq_true, any_eq_true, beq_iff_eq] at hend
  obtain ⟨hrenames, w', hstep, v, hrest, session, hsession, hstate⟩ := hend
  exact ⟨w, w', v, session, hrun, promotes_of_renames hrenames, hstep, run_of_replay hrest,
    hsession, hstate⟩

def CutoverOp.isDisconnectStep : CutoverOp → Bool
  | .disconnectStep .. => true
  | _ => false

/-- Only a disconnect can hurry. -/
theorem unhurried_of_other {op : CutoverOp} (h : op.isDisconnectStep = false) : Unhurried w op := by
  cases op <;> trivial

/-- Without a disconnect the same login ends confirmed. -/
theorem promotion_is_final_sample : ∃ w w' v session,
      Run (UnhurriedStep sampleCutoverTools .default) (.boot sampleDevices ⟨none, .disconnected⟩)
        cutoverUpToRename w ∧
      UnhurriedStep sampleCutoverTools .default w (.work 1 (.ended true)) w' ∧
      Run (UnhurriedStep sampleCutoverTools .default) w'
        [.work 1 (.ended true), .work 1 (.go 0), .work 1 (.go 0)] v ∧
      Promotes w (.work 1 (.ended true)) 1 ∧ v.manager.sessions 1 = some session ∧
      (session.state = .confirmed ∨
        (session.state.isTerminal = false ∧ ∃ c phase, v.workers 1 = some (.cutover c phase))) := by
  have hreplay : (replay (next sampleCutoverTools .default)
      (.boot sampleDevices ⟨none, .disconnected⟩) cutoverUpToRename).any (fun w =>
        w.renames 1 && (w.next sampleCutoverTools .default (.work 1 (.ended true))).any fun w' =>
          (replay (next sampleCutoverTools .default) w'
            [.work 1 (.ended true), .work 1 (.go 0), .work 1 (.go 0)]).any
            fun v => (v.manager.sessions 1).isSome) = true := by
    decide +kernel
  obtain ⟨w, hrun, hend⟩ := exists_run_of_any hreplay
  simp only [and_eq_true, any_eq_true, isSome_iff_exists] at hend
  obtain ⟨hrenames, w', hstep, v, hrest, session, hsession⟩ := hend
  have hunhurried : ∀ {a b : CutoverWorld} {ops : List CutoverOp},
      Run (LoginServiceStep sampleCutoverTools .default) a ops b →
      (∀ op ∈ ops, op.isDisconnectStep = false) →
      Run (UnhurriedStep sampleCutoverTools .default) a ops b := by
    intro a b ops hops hall
    exact (hops.restrict hall).mono fun _ _ _ hs => ⟨hs.1, unhurried_of_other hs.2⟩
  have hfirst := hunhurried hrun (by decide)
  have hsecond := hunhurried (run_of_replay hrest) (by decide)
  have hpromotes := promotes_of_renames hrenames
  exact ⟨w, w', v, session, hfirst, ⟨hstep, trivial⟩, hsecond, hpromotes, hsession,
    (promotion_is_final hfirst ⟨hstep, trivial⟩ hsecond 1).2.2 hpromotes session hsession⟩

end PromptDock.Wechat
