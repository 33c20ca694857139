import PromptDock.Wechat.CutoverSessions

/-!
# Under which authority a login is promoted

The authorization of a candidate is read twice before its file is renamed, for an
administrator's grant under the lifecycle fence.  What a device's start was
authorized by is not read again, only that the device is enabled; nothing fences a
device's login, and the command line of another process takes no fence at all
(`promoted_without_authority`).  As long as no row is changed in these windows
(`KeepsAuthority`), whoever is promoted is authorized at that moment
(`promoted_under_authority`).
-/

namespace PromptDock.Wechat

open LabelledRun DeviceAuthRow Function Option Bool

/-! ## Rows -/

/-- Token, version and scopes are those of the other row. -/
def DeviceAuthRow.SameGrant (row row0 : DeviceAuthRow) : Prop :=
  row.tokenHash = row0.tokenHash ∧ row.credentialVersion = row0.credentialVersion ∧
    row.scopes = row0.scopes

/-- The change writes a token or scopes. -/
def DeviceChange.regrants : DeviceChange → Bool
  | .rotate _ | .rotateScopes .. => true
  | _ => false

/-- The change may take the device out of use. -/
def DeviceChange.disables : DeviceChange → Bool
  | .setEnabled false | .revoke _ => true
  | _ => false

section

variable {row row' row0 : DeviceAuthRow} {change : DeviceChange}

/-- A change that grants nothing anew keeps the grant. -/
theorem change_sameGrant (h : row.change change = some row') (hchg : change.regrants = false)
    (hrow : row.SameGrant row0) : row'.SameGrant row0 := by
  cases change with
  | rotate => cases hchg
  | rotateScopes => cases hchg
  | setEnabled =>
    simp only [change] at h
    split at h
    · cases h
      exact hrow
    split at h
    · cases h
    · cases h
      exact hrow
  | revoke =>
    cases h
    exact hrow

/-- A device stays enabled unless it is disabled. -/
theorem change_isEnabled (h : row.change change = some row') (hchg : change.disables = false)
    (hrow : row.isEnabled = true) : row'.isEnabled = true := by
  have hparts := hrow
  rw [isEnabled, and_eq_true] at hparts
  cases change with
  | rotate =>
    rw [change, if_pos hparts.2] at h
    cases h
    exact hrow
  | rotateScopes =>
    obtain ⟨_, rfl⟩ := of_guard h
    exact hrow
  | setEnabled enabled =>
    cases enabled with
    | false => cases hchg
    | true =>
      rw [change, if_pos hparts.2] at h
      cases h
      exact hparts.2
  | revoke => cases hchg

/-- Enabling an active device changes nothing. -/
theorem enable_active (h : row.change (.setEnabled true) = some row') (hrow : row.isActive = true) :
    row' = row := by
  simp only [isActive, and_eq_true] at hrow
  rw [change, if_pos hrow.1.1] at h
  cases h
  obtain ⟨tokenHash, enabled, revokedAt, version, scopes⟩ := row
  cases hrow.2
  rfl

end

/-! ## Sessions and who they belong to -/

variable {limits : LoginLimits} {id : Uuid} {session' : LoginSession}

section

variable {tools : LoginTools} {now : Nat} {op : LoginOp} {answer : LoginAnswer}
  {s s' t t' : LoginSessions} {session : LoginSession}

/-- The session goes on under the same owner; it may gain authority, but not once it
awaits its cutover. -/
structure SameLogin (session session' : LoginSession) : Prop where
  owner : session'.ownerDeviceId = session.ownerDeviceId
  admin : session'.adminAuthorization = none → session.adminAuthorization = none
  operator : session'.operatorAuthorized = false → session.operatorAuthorized = false
  awaiting : session.awaitingCutover = true →
    session'.awaitingCutover = true ∧ session'.adminAuthorization = session.adminAuthorization

/-- The session was made by this start. -/
structure StartedBy (starter : LoginStarter) (session : LoginSession) : Prop where
  owner : session.ownerDeviceId = starter.owner
  admin : session.adminAuthorization = starter.authority.adminAuthorization
  operator : session.operatorAuthorized = starter.authority.operatorAuthorized

/-- A session keeps who it is for. -/
theorem SessionChange.sameLogin (h : SessionChange tools op id session session') :
    SameLogin session session' := by
  cases h with
  | @rebind starter _ _ _ _ _ _ hawait =>
    refine ⟨rfl, fun hadm => ?_, fun hop => ?_, fun hwait => ⟨hwait, ?_⟩⟩
    · exact (or_eq_none_iff.mp hadm).2
    · exact (or_eq_false_iff.mp hop).1
    · show starter.authority.adminAuthorization.or _ = _
      rw [hawait hwait, none_or]
  | commit => exact ⟨rfl, fun h => h, fun h => h, fun h => ⟨h, rfl⟩⟩
  | verify hnot | qr hnot => exact ⟨rfl, fun h => h, fun h => h, fun h => absurd h (by simp [hnot])⟩
  | status hnot | refresh hnot | confirm hnot =>
    rw [dropCarried_same]
    exact ⟨rfl, fun h => h, fun h => h, fun h => absurd h (by simp [hnot])⟩

/-- Where a session that is under way comes from. -/
theorem LoginMove.comes (h : LoginMove tools limits now op answer t t') (ht : t.WellFormed)
    (hsess' : t'.sessions id = some session') (hlive' : session'.state.isTerminal = false) :
    (∃ session, t.sessions id = some session ∧ session.state.isTerminal = false ∧
        SameLogin session session') ∨
      ∃ starter forceFresh active wall, op = .start starter forceFresh active id wall ∧
        StartedBy starter session' := by
  have hsame : t.sessions id = some session' → ∃ session, t.sessions id = some session ∧
      session.state.isTerminal = false ∧ SameLogin session session' := fun hsess =>
    ⟨session', hsess, hlive', rfl, fun h => h, fun h => h, fun h => ⟨h, rfl⟩⟩
  cases h with
  | keep | release => exact .inl (hsame hsess')
  | refuse =>
    rw [t.recordQrStart_frame] at hsess'
    exact .inl (hsame hsess')
  | change _ hsess hlive hchg =>
    left
    obtain ⟨rfl, ⟨⟩⟩ | ⟨_, hpre⟩ := update_eq_some hsess'
    · exact ⟨_, hsess, ht.underWay hsess hlive, hchg.sameLogin⟩
    · exact hsame hpre
  | finish _ hsess _ hend =>
    obtain ⟨_, ⟨⟩⟩ | ⟨_, hpre⟩ := update_eq_some hsess'
    · cases hend.terminal.symm.trans hlive'
    · exact .inl (hsame hpre)
  | startQr =>
    rw [t.recordQrStart_frame] at hsess'
    obtain ⟨rfl, ⟨⟩⟩ | ⟨_, hpre⟩ := update_eq_some hsess'
    · exact .inr ⟨_, _, _, _, rfl, rfl, rfl, rfl⟩
    · exact .inl (hsame hpre)
  | startConnected =>
    obtain ⟨rfl, ⟨⟩⟩ | ⟨_, hpre⟩ := update_eq_some hsess'
    · exact .inr ⟨_, _, _, _, rfl, rfl, rfl, rfl⟩
    · exact .inl (hsame hpre)

/-- A live session was there before. -/
theorem expireAndPurge_live (h : (s.expireAndPurge limits now).sessions id = some session)
    (hlive : session.state.isTerminal = false) : s.sessions id = some session := by
  obtain ⟨before, hpre, hexp, _⟩ := expireAndPurge_session.mp h
  rcases before.expire_cases now with ⟨_, heq⟩ | ⟨_, heq⟩
  · rw [← hexp, heq] at hlive
    cases hlive
  · rw [heq] at hexp
    exact hexp ▸ hpre

/-- A live session was there, or was just started. -/
theorem call_comes (h : op.call tools limits now s = some (answer, s')) (hs : s.WellFormed)
    (hsess' : s'.sessions id = some session') (hlive' : session'.state.isTerminal = false) :
    (∃ session, s.sessions id = some session ∧ session.state.isTerminal = false ∧
        SameLogin session session') ∨
      ∃ starter forceFresh active wall, op = .start starter forceFresh active id wall ∧
        StartedBy starter session' := by
  obtain ⟨t, ht, hmove⟩ := call_move h
  rcases ht with rfl | rfl
  · exact hmove.comes hs hsess' hlive'
  rcases hmove.comes hs.expireAndPurge hsess' hlive' with ⟨session, hsess, hlive, hsame⟩ | hnew
  · exact .inl ⟨session, expireAndPurge_live hsess hlive, hlive, hsame⟩
  · exact .inr hnew

end

/-! ## What is read before the promotion -/

/-- The device that started the login holds what it started it under. -/
def DeviceAuthorized (w : CutoverWorld) (id owner : Uuid) : Prop :=
  ∃ row row0, w.devices owner = some row ∧ row.isEnabled = true ∧
    w.startedUnder id = some row0 ∧ row0.manages = true ∧ row.SameGrant row0

/-- The grant was given for this credential, which has its scopes. -/
def LeaseCurrent (tools : CutoverTools) (w : CutoverWorld) (owner : Uuid)
    (a : AdminLoginAuthorization) : Prop :=
  ∃ row, w.devices owner = some row ∧ row.isActive = true ∧
    gatewayAuthorizationRevision tools.blake3 owner row = a.authorizationRevision ∧
    row.scopes.contains .channelRead = true ∧ row.scopes.contains .channelManage = true

/-- The candidate is authorized now: by its device, or by the grant of an administrator
in this generation and epoch.  A login of the operator belongs to no device. -/
def Authorized (tools : CutoverTools) (w : CutoverWorld) (id : Uuid) (c : PreparedCandidate) :
    Prop :=
  c.operatorAuthorized = true ∨
    match c.adminAuthorization with
    | none => DeviceAuthorized w id c.ownerDeviceId
    | some a => LeaseCurrent tools w c.ownerDeviceId a ∧ w.core.authorizationMatches a = true

/-- `validate_before_promote` has returned. -/
def CutoverPhase.isValidated : CutoverPhase → Bool
  | .confirming | .promoting | .committing _ => true
  | _ => false

/-- The second read of the lease has returned. -/
def CutoverPhase.isLeased : CutoverPhase → Bool
  | .authorizing true .generation => true
  | phase => phase.isValidated

/-- What the reads before the promotion found holds still. -/
structure ReadsHold (tools : CutoverTools) (w : CutoverWorld) (c : PreparedCandidate)
    (phase : CutoverPhase) : Prop where
  enabled : phase.isValidated = true → c.adminAuthorization = none →
    (w.devices c.ownerDeviceId).any (·.isEnabled) = true
  lease : phase.isLeased = true → ∀ a, c.adminAuthorization = some a →
    LeaseCurrent tools w c.ownerDeviceId a
  generation : phase.isValidated = true → ∀ a, c.adminAuthorization = some a →
    w.core.authorizationMatches a = true

/-- Who changes the row of a device. -/
inductive RowChange (w : CutoverWorld) : CutoverOp → Uuid → DeviceChange → Prop where
  | enable (device : Uuid) : RowChange w (.enable device) device (.setEnabled true)
  | command (device : Uuid) (change : DeviceChange) :
      RowChange w (.command device change) device change
  | admin {n now : Nat} {cancels : Option (Uuid × Uuid)} {device : Uuid} {change : DeviceChange}
      (hphase : w.admins n = some (.changing (.device device change))) :
      RowChange w (.adminStep n cancels now) device change

/-- No row is changed under a login that it authorizes: neither token nor scopes while
a login that the device started is under way, the device is not taken out of use
between the validation of such a login and its promotion, and no command line of
another process writes a row between the last read for a grant and the promotion. -/
structure KeepsAuthority (w : CutoverWorld) (op : CutoverOp) : Prop where
  regrants : ∀ device change, RowChange w op device change → change.regrants = true →
    ∀ id session, w.manager.sessions id = some session → session.state.isTerminal = false →
      session.ownerDeviceId = device → session.adminAuthorization ≠ none
  disables : ∀ device change, RowChange w op device change → change.disables = true →
    ∀ id c phase, w.workers id = some (.cutover c phase) → phase.isValidated = true →
      c.operatorAuthorized = false → c.ownerDeviceId = device → c.adminAuthorization ≠ none
  unfenced : ∀ device change, op = .command device change →
    ∀ id c phase, w.workers id = some (.cutover c phase) → phase.isLeased = true →
      c.operatorAuthorized = false → c.ownerDeviceId = device → c.adminAuthorization = none

/-- A step that changes no row under a login. -/
def AuthorityStep (tools : CutoverTools) (limits : LoginLimits) (w : CutoverWorld)
    (op : CutoverOp) (w' : CutoverWorld) : Prop :=
  LoginServiceStep tools limits w op w' ∧ KeepsAuthority w op

section

variable {tools : CutoverTools} {w w1 w' : CutoverWorld} {op : CutoverOp} {c : PreparedCandidate}
  {phase : CutoverPhase} {phase' : WorkerPhase}

section

variable (h : ServiceMove tools limits w op w')

include h

/-- A row of the table changes in one way. -/
theorem ServiceMove.devices : w'.devices = w.devices ∨ ∃ dev change row, RowChange w op dev change ∧
      (w.devices dev).bind (·.change change) = some row ∧
      w'.devices = update w.devices dev (some row) := by
  cases h with
  | start =>
    left
    split <;> rfl
  | cutover _ hedge | login _ _ hedge | disconnecting _ hedge =>
    left
    cases hedge <;> rfl
  | administering hph hedge =>
    cases hedge with
    | changed dev change hrow => exact .inr ⟨dev, change, _, .admin hph, hrow, rfl⟩
    | _ => exact .inl rfl
  | enable hrow => exact .inr ⟨_, _, _, .enable _, hrow, rfl⟩
  | command hrow => exact .inr ⟨_, _, _, .command _ _, hrow, rfl⟩
  | _ => exact .inl rfl

/-- Generations and the epoch change under the fence only. -/
theorem ServiceMove.core :
    w'.core = w.core ∨ ∃ n phase, w.admins n = some phase ∧ phase.awaits = none := by
  cases h with
  | start =>
    left
    split <;> rfl
  | cutover _ hedge | login _ _ hedge | disconnecting _ hedge =>
    left
    cases hedge <;> rfl
  | administering hph hedge =>
    cases hedge with
    | invalidated | closed => exact .inr ⟨_, _, hph, rfl⟩
    | _ => exact .inl rfl
  | _ => exact .inl rfl

/-- A start records the row of its device under the new identifier. -/
theorem ServiceMove.startedUnder : w'.startedUnder = w.startedUnder ∧ op.starts = none ∨
      ∃ starter drawn, op.starts = some (starter, drawn) ∧ w.workers drawn = none ∧
        w.manager.sessions drawn = none ∧ w.drawn drawn = false ∧
        (∀ device, starter = .device device → (w.devices device).any (·.manages) = true) ∧
        w'.startedUnder = w.recorded drawn starter ∧ w'.devices = w.devices := by
  cases h with
  | @start _ starter drawn _ _ _ _ _ hop hsess hwork hdraw hman =>
    refine .inr ⟨starter, drawn, hop, hwork, hsess, hdraw, hman, ?_⟩
    split <;> exact ⟨rfl, rfl⟩
  | owner lop hop =>
    left
    cases op <;> first | cases hop; done | exact ⟨rfl, rfl⟩
  | cutover _ hedge | login _ _ hedge | disconnecting _ hedge | administering _ hedge =>
    left
    cases hedge <;> exact ⟨rfl, rfl⟩
  | _ => exact .inl ⟨rfl, rfl⟩

/-- A login that is known keeps the row it was started under. -/
theorem ServiceMove.startedUnder_of_known
    (hknown : w.workers id ≠ none ∨ w.manager.sessions id ≠ none) :
    w'.startedUnder id = w.startedUnder id := by
  rcases h.startedUnder with ⟨heq, _⟩ | ⟨starter, drawn, _, hwork, hsess, _, _, heq, _⟩
  · rw [heq]
  have hne : id ≠ drawn := by
    rintro rfl
    rcases hknown with h | h
    · exact h hwork
    · exact h hsess
  rw [heq]
  cases starter with
  | device => exact update_of_ne hne ..
  | _ => rfl

end

/-! ## The authority of sessions and workers -/

/-- What sessions and workers know of the authority they go on under. -/
structure AuthorityInvariant (tools : CutoverTools) (w : CutoverWorld) : Prop where
  fresh : ∀ id, w.drawn id = false → w.startedUnder id = none
  grant : ∀ id session row0, w.manager.sessions id = some session →
    session.state.isTerminal = false → session.adminAuthorization = none →
    w.startedUnder id = some row0 →
    row0.manages = true ∧ ∃ row, w.devices session.ownerDeviceId = some row ∧ row.SameGrant row0
  recorded : ∀ id session, w.manager.sessions id = some session →
    session.state.isTerminal = false → session.adminAuthorization = none →
    session.operatorAuthorized = false → (w.startedUnder id).isSome = true
  started : ∀ id c phase, w.workers id = some (.cutover c phase) → c.adminAuthorization = none →
    c.operatorAuthorized = false → (w.startedUnder id).isSome = true
  candidate : ∀ id c phase session, w.workers id = some (.cutover c phase) →
    w.manager.sessions id = some session → session.state.isTerminal = false →
    session.awaitingCutover = true ∧ session.ownerDeviceId = c.ownerDeviceId ∧
      session.adminAuthorization = c.adminAuthorization
  reads : ∀ id c phase, w.workers id = some (.cutover c phase) → c.operatorAuthorized = false →
    ReadsHold tools w c phase

/-- At the start nothing was started. -/
theorem authorityInvariant_boot (devices : Uuid → Option DeviceAuthRow)
    (runtime : RuntimeConnection) : AuthorityInvariant tools (.boot devices runtime) where
  fresh _ _ := rfl
  grant _ _ _ h := nomatch h
  recorded _ _ h := nomatch h
  started _ _ _ h := nomatch h
  candidate _ _ _ _ h := nomatch h
  reads _ _ _ h := nomatch h

/-- While the lease of a candidate stands, no administrator has the fence. -/
theorem LockInvariant.leased_fence (hw : LockInvariant w)
    (hph : w.workers id = some (.cutover c phase)) (hleased : phase.isLeased = true)
    (hadm : c.adminAuthorization.isSome = true) {n : Nat} {admin : AdminPhase}
    (hn : w.admins n = some admin) : admin.awaits ≠ none := by
  intro haw
  have hwork : (w.locks .lifecycleFence).Holds (.worker id) := by
    apply hw.engaged_holds hph
    · left
      show phase.asks c.adminAuthorization.isSome .lifecycleFence = true
      rw [hadm]
      cases phase with
      | authorizing => rfl
      | _ => first | rfl | cases hleased
    · cases phase <;> first | exact Bool.noConfusion hleased | exact nofun
  have hoth : (w.locks .lifecycleFence).Holds (.admin n) := by
    apply hw.locked.granted
    · simp [CutoverWorld.asks, hn]
    · simp [CutoverWorld.awaits, hn, haw]
  cases hwork.unique hoth

/-- What was read holds as long as no row is changed under the login. -/
theorem ReadsHold.step (hread : ReadsHold tools w c phase) (h : ServiceMove tools limits w op w')
    (hop : KeepsAuthority w op) (hw : LockInvariant w)
    (hph : w.workers id = some (.cutover c phase)) (hoperator : c.operatorAuthorized = false) :
    ReadsHold tools w' c phase := by
  refine ⟨fun hvalid hadm => ?_, fun hleased a ha => ?_, fun hvalid a ha => ?_⟩
  · have hen := hread.enabled hvalid hadm
    rcases h.devices with heq | ⟨dev, change, row', hchg, hrow', heq⟩
    · rw [heq]
      exact hen
    rw [heq]
    by_cases hdev : c.ownerDeviceId = dev
    · obtain ⟨row, hrow, hact⟩ := (any_eq_true ..).mp hen
      rw [hdev] at hrow
      rw [hrow] at hrow'
      rw [hdev, update_self]
      apply change_isEnabled hrow' _ hact
      rw [eq_false_iff]
      intro hdisables
      exact hop.disables dev change hchg hdisables id c phase hph hvalid hoperator hdev hadm
    · rw [update_of_ne hdev]
      exact hen
  · obtain ⟨row, hrow, hact, hlease⟩ := hread.lease hleased a ha
    rcases h.devices with heq | ⟨dev, change, row', hchg, hrow', heq⟩
    · exact ⟨row, heq ▸ hrow, hact, hlease⟩
    by_cases hdev : c.ownerDeviceId = dev
    · refine ⟨row, ?_, hact, hlease⟩
      rw [heq, hdev, update_self]
      rw [hdev] at hrow
      rw [hrow] at hrow'
      cases hchg with
      | enable => rw [enable_active hrow' hact]
      | command =>
        have hnone := hop.unfenced dev change rfl id c phase hph hleased hoperator hdev
        rw [ha] at hnone
        cases hnone
      | admin hn => exact absurd rfl (hw.leased_fence hph hleased (by rw [ha]; rfl) hn)
    · exact ⟨row, by rw [heq, update_of_ne hdev, hrow], hact, hlease⟩
  · rcases h.core with heq | ⟨n, admin, hn, haw⟩
    · rw [heq]
      exact hread.generation hvalid a ha
    have hleased : phase.isLeased = true := by cases phase <;> first | rfl | cases hvalid
    exact absurd haw (hw.leased_fence hph hleased (by rw [ha]; rfl) hn)

theorem ReadsHold.of_not_leased (h : phase.isLeased = false) : ReadsHold tools w c phase := by
  have hnot : phase.isValidated = false := by cases phase <;> first | rfl | cases h
  refine ⟨fun hvalid => ?_, fun hleased => ?_, fun hvalid => ?_⟩
  · rw [hnot] at hvalid
    cases hvalid
  · rw [h] at hleased
    cases hleased
  · rw [hnot] at hvalid
    cases hvalid

/-- Each read establishes its part. -/
theorem authorize_reads {again ok : Bool} {read : AuthorizationRead}
    (hop : c.operatorAuthorized = false) (hread : ReadsHold tools w c (.authorizing again read)) :
    ReadsHold tools w c (w.authorize tools c again ok read) := by
  cases again with
  | false =>
    apply ReadsHold.of_not_leased
    rcases @authorize_phase tools w c false ok read with heq | heq | ⟨read', heq⟩
    all_goals rw [heq]; rfl
  | true =>
    cases read with
    | first =>
      simp only [CutoverWorld.authorize, hop, false_eq_true, if_false]
      cases hadm : c.adminAuthorization with
      | none =>
        dsimp only
        split
        · rename_i hen
          refine ⟨fun _ _ => (and_eq_true_iff.mp hen).2, ?_, ?_⟩
          all_goals
            intro _ a ha
            rw [hadm] at ha
            cases ha
        · exact .of_not_leased rfl
      | some =>
        dsimp only
        split <;> exact .of_not_leased rfl
    | lease =>
      simp only [CutoverWorld.authorize]
      split
      · rename_i hlease
        refine ⟨nofun, fun _ a ha => ?_, nofun⟩
        rw [ha, and_eq_true, any_eq_true] at hlease
        obtain ⟨_, row, hrow, hlease⟩ := hlease
        simp only [any_some, and_eq_true, beq_iff_eq] at hlease
        exact ⟨row, hrow, hlease.1.1.1, hlease.1.1.2, hlease.1.2, hlease.2⟩
      · exact .of_not_leased rfl
    | generation =>
      simp only [CutoverWorld.authorize]
      split
      · rename_i hmatches
        refine ⟨fun _ hadm => ?_, fun _ => hread.lease rfl, fun _ a ha => ?_⟩
        · rw [hadm] at hmatches
          cases hmatches
        · rw [ha] at hmatches
          exact hmatches
      · exact .of_not_leased rfl

/-- What a cutover has read still holds in its next phase. -/
theorem CutoverEdge.reads (h : CutoverEdge tools limits w id c phase w1 phase')
    {next : CutoverPhase} (hnext : phase' = .cutover c next)
    (hop : c.operatorAuthorized = false) (hread : ReadsHold tools w c phase) :
    ReadsHold tools w c next := by
  cases h with
  | authorize =>
    cases hnext
    exact authorize_reads hop hread
  | confirm | promote =>
    cases hnext
    exact { hread with }
  | nothingToDiscard exit | discarded exit =>
    cases hnext
    exact .of_not_leased (by cases exit <;> rfl)
  | _ => cases hnext <;> exact .of_not_leased rfl

/-- A cutover changes no device. -/
theorem CutoverEdge.frame (h : CutoverEdge tools limits w id c phase w1 phase') :
    w1.devices = w.devices ∧ w1.core = w.core := by
  cases h <;> exact ⟨rfl, rfl⟩

/-- A session that is under way was so before, or this step starts it. -/
theorem ServiceMove.session_comes (h : ServiceMove tools limits w op w')
    (hm : w.manager.WellFormed) (hsess' : w'.manager.sessions id = some session')
    (hlive' : session'.state.isTerminal = false) :
    (∃ session, w.manager.sessions id = some session ∧ session.state.isTerminal = false ∧
        SameLogin session session') ∨
      ∃ starter, op.starts = some (starter, id) ∧ StartedBy starter session' := by
  rcases h.manager with heq | ⟨lop, hcall, now, answer, hlop⟩
  · rw [heq] at hsess'
    exact .inl ⟨session', hsess', hlive', rfl, fun h => h, fun h => h, fun h => ⟨h, rfl⟩⟩
  rcases call_comes hlop hm hsess' hlive' with hold | ⟨starter, _, _, _, rfl, hstart⟩
  · exact .inl hold
  right
  cases hcall with
  | start hop => exact ⟨starter, hop, hstart⟩
  | worker hlop => cases hlop

section

variable (h : ServiceMove tools limits w op w') (hi : AuthorityInvariant tools w)

include h hi

/-- What was not drawn was not started. -/
theorem ServiceMove.fresh (hdraw : w'.drawn id = false) : w'.startedUnder id = none := by
  have hpre : w.drawn id = false := by
    rw [eq_false_iff]
    intro hpre
    rw [h.drawn.1 id hpre] at hdraw
    cases hdraw
  rcases h.startedUnder with ⟨heq, _⟩ | ⟨starter, drawn, hop, _, _, _, _, heq, _⟩
  · rw [heq]
    exact hi.fresh id hpre
  have hne : id ≠ drawn := by
    rintro rfl
    rw [h.drawn.2 starter id hop] at hdraw
    cases hdraw
  rw [heq]
  cases starter with
  | device =>
    rw [CutoverWorld.recorded, update_of_ne hne]
    exact hi.fresh id hpre
  | _ => exact hi.fresh id hpre

/-- A live session has the grant it was started under. -/
theorem ServiceMove.grant (hop : KeepsAuthority w op) (hm : w.manager.WellFormed)
    {row0 : DeviceAuthRow} (hsess' : w'.manager.sessions id = some session')
    (hlive' : session'.state.isTerminal = false) (hadm' : session'.adminAuthorization = none)
    (hrow0 : w'.startedUnder id = some row0) : row0.manages = true ∧
      ∃ row, w'.devices session'.ownerDeviceId = some row ∧ row.SameGrant row0 := by
  rcases h.session_comes hm hsess' hlive' with ⟨session, hsess, hlive, hsame⟩ |
    ⟨starter, hstart, hstarted⟩
  · have hadm := hsame.admin hadm'
    rw [h.startedUnder_of_known (.inr (by rw [hsess]; exact nofun))] at hrow0
    obtain ⟨hman, row, hrow, hgrant⟩ := hi.grant id session row0 hsess hlive hadm hrow0
    refine ⟨hman, ?_⟩
    rw [hsame.owner]
    rcases h.devices with heq | ⟨device, change, row', hchg, hrow', heq⟩
    · exact ⟨row, heq ▸ hrow, hgrant⟩
    by_cases hdev : session.ownerDeviceId = device
    · have hkeeps : change.regrants = false := by
        rw [eq_false_iff]
        intro hregrants
        exact hop.regrants device change hchg hregrants id session hsess hlive hdev hadm
      rw [hdev] at hrow
      rw [hrow] at hrow'
      refine ⟨row', ?_, change_sameGrant hrow' hkeeps hgrant⟩
      rw [heq, hdev, update_self]
    · exact ⟨row, by rw [heq, update_of_ne hdev, hrow], hgrant⟩
  · rcases h.startedUnder with ⟨_, hnone⟩ | ⟨starter', drawn, hop', _, _, hdraw, hman, heq, hdevs⟩
    · rw [hnone] at hstart
      cases hstart
    rw [hop'] at hstart
    cases hstart
    rw [heq] at hrow0
    cases starter with
    | device device =>
      rw [CutoverWorld.recorded, update_self] at hrow0
      have hmay := hman device rfl
      rw [hrow0] at hmay
      refine ⟨hmay, row0, ?_, rfl, rfl, rfl⟩
      rw [hdevs, hstarted.owner]
      exact hrow0
    | admin =>
      rw [hstarted.admin] at hadm'
      cases hadm'
    | operator =>
      have hnone : w.startedUnder id = some row0 := hrow0
      rw [hi.fresh id hdraw] at hnone
      cases hnone

/-- A session of a device records its start. -/
theorem ServiceMove.recorded (hm : w.manager.WellFormed)
    (hsess' : w'.manager.sessions id = some session')
    (hlive' : session'.state.isTerminal = false) (hadm' : session'.adminAuthorization = none)
    (hoperator' : session'.operatorAuthorized = false) : (w'.startedUnder id).isSome = true := by
  rcases h.session_comes hm hsess' hlive' with ⟨session, hsess, hlive, hsame⟩ |
    ⟨starter, hstart, hstarted⟩
  · rw [h.startedUnder_of_known (.inr (by rw [hsess]; exact nofun))]
    exact hi.recorded id session hsess hlive (hsame.admin hadm') (hsame.operator hoperator')
  rcases h.startedUnder with ⟨_, hnone⟩ | ⟨starter', drawn, hop', _, _, _, hman, heq, _⟩
  · rw [hnone] at hstart
    cases hstart
  rw [hop'] at hstart
  cases hstart
  rw [heq]
  cases starter with
  | device device =>
    rw [CutoverWorld.recorded, update_self]
    exact isSome_of_any (hman device rfl)
  | admin =>
    rw [hstarted.admin] at hadm'
    cases hadm'
  | operator =>
    rw [hstarted.operator] at hoperator'
    cases hoperator'

/-- So does a worker of one. -/
theorem ServiceMove.started (hph' : w'.workers id = some (.cutover c phase))
    (hadm : c.adminAuthorization = none) (hop : c.operatorAuthorized = false) :
    (w'.startedUnder id).isSome = true := by
  cases h.workerStep id with
  | other _ hsame =>
    rw [hsame] at hph'
    rw [h.startedUnder_of_known (.inl (by rw [hph']; exact nofun))]
    exact hi.started id c phase hph' hadm hop
  | plain _ haft hplain =>
    rw [hph'] at haft
    cases haft
    cases hplain
  | confirmed _ _ hdir =>
    rw [setWorker_workers_self] at hph'
    cases hph'
    obtain ⟨session, hsess, hlive, _, _, hsadmin, hsoperator, _⟩ := confirmed_candidate hdir
    have hpre := expireAndPurge_live hsess hlive
    rw [hsadmin] at hadm
    rw [hsoperator] at hop
    exact hi.recorded id session hpre hlive hadm hop
  | edge hph hedge =>
    rw [setWorker_workers_self] at hph'
    have hcand := hedge.candidate (some.inj hph')
    subst hcand
    rw [h.startedUnder_of_known (.inl (by rw [hph]; exact nofun))]
    exact hi.started id c _ hph hadm hop

/-- A worker's candidate is that of its session. -/
theorem ServiceMove.candidate (hm : w.manager.WellFormed)
    (hph' : w'.workers id = some (.cutover c phase))
    (hsess' : w'.manager.sessions id = some session') (hlive' : session'.state.isTerminal = false) :
    session'.awaitingCutover = true ∧ session'.ownerDeviceId = c.ownerDeviceId ∧
      session'.adminAuthorization = c.adminAuthorization := by
  have hkept : ∀ phase0, w.workers id = some (.cutover c phase0) →
      session'.awaitingCutover = true ∧ session'.ownerDeviceId = c.ownerDeviceId ∧
        session'.adminAuthorization = c.adminAuthorization := by
    intro phase0 hph
    rcases h.session_comes hm hsess' hlive' with ⟨session, hsess, hlive, hsame⟩ |
      ⟨starter, hstart, _⟩
    · obtain ⟨hawait, hown, hadm⟩ := hi.candidate id c phase0 session hph hsess hlive
      obtain ⟨hawait', hadm'⟩ := hsame.awaiting hawait
      exact ⟨hawait', hsame.owner.trans hown, hadm'.trans hadm⟩
    rcases h.startedUnder with ⟨_, hnone⟩ | ⟨_, _, hop, hwork, _⟩
    · rw [hnone] at hstart
      cases hstart
    rw [hop] at hstart
    cases hstart
    rw [hwork] at hph
    cases hph
  cases h.workerStep id with
  | other _ hsame => exact hkept phase (hsame ▸ hph')
  | plain _ haft hplain =>
    rw [hph'] at haft
    cases haft
    cases hplain
  | confirmed _ _ hdir =>
    rw [setWorker_workers_self] at hph'
    cases hph'
    obtain ⟨_, _, _, _, _, _, _, session, hsess, hkeeps⟩ := confirmed_candidate hdir
    cases hsess.symm.trans hsess'
    exact hkeeps
  | edge hph hedge =>
    rw [setWorker_workers_self] at hph'
    have hcand := hedge.candidate (some.inj hph')
    subst hcand
    exact hkept _ hph

/-- What was read holds while the lease does. -/
theorem ServiceMove.reads (hop : KeepsAuthority w op) (hw : LockInvariant w)
    (hph' : w'.workers id = some (.cutover c phase)) (hoperator : c.operatorAuthorized = false) :
    ReadsHold tools w' c phase := by
  cases h.workerStep id with
  | other _ hsame =>
    have hph : w.workers id = some (.cutover c phase) := hsame ▸ hph'
    exact (hi.reads id c phase hph hoperator).step h hop hw hph hoperator
  | plain _ haft hplain =>
    rw [hph'] at haft
    cases haft
    cases hplain
  | confirmed =>
    rw [setWorker_workers_self] at hph'
    cases hph'
    exact .of_not_leased rfl
  | @edge _ _ _ w1 _ hph hedge =>
    rw [setWorker_workers_self] at hph'
    have hnext := some.inj hph'
    have hcand := hedge.candidate hnext
    subst hcand
    have hread := hedge.reads hnext hoperator (hi.reads id c _ hph hoperator)
    obtain ⟨hdevs, hcore⟩ := hedge.frame
    refine ⟨fun hv ha => ?_, fun hl a ha => ?_, fun hv a ha => ?_⟩
    · show (w1.devices _).any _ = true
      rw [hdevs]
      exact hread.enabled hv ha
    · show LeaseCurrent tools w1 _ a
      unfold LeaseCurrent
      rw [hdevs]
      exact hread.lease hl a ha
    · show w1.core.authorizationMatches a = true
      rw [hcore]
      exact hread.generation hv a ha

end

/-- One move of the service, put together. -/
theorem ServiceMove.authorityInvariant (h : ServiceMove tools limits w op w')
    (hop : KeepsAuthority w op) (hw : InOrder false w) (hi : AuthorityInvariant tools w) :
    AuthorityInvariant tools w' where
  fresh _ hdrawn := h.fresh hi hdrawn
  grant _ _ _ hsess hlive hadm hrow := h.grant hi hop hw.manager hsess hlive hadm hrow
  recorded _ _ hsess hlive hadm hoperator :=
    h.recorded hi hw.manager hsess hlive hadm hoperator
  started _ _ _ hph hadm hoperator := h.started hi hph hadm hoperator
  candidate _ _ _ _ hph hsess hlive := h.candidate hi hw.manager hph hsess hlive
  reads _ _ _ hph hoperator := h.reads hi hop hw.locks hph hoperator

/-- A candidate whose file is being renamed is authorized. -/
theorem AuthorityInvariant.authorized {bun : ConnectionBundle} (hi : AuthorityInvariant tools w)
    (hw : InOrder false w) (hph : w.workers id = some (.cutover c (.committing bun))) :
    Authorized tools w id c := by
  cases hop : c.operatorAuthorized with
  | true => exact .inl hop
  | false =>
    right
    have hread := hi.reads id c _ hph hop
    cases hadm : c.adminAuthorization with
    | some a => exact ⟨hread.lease rfl a hadm, hread.generation rfl a hadm⟩
    | none =>
      obtain ⟨session, hsess, hcom⟩ := hw.commit.commits id c _ hph rfl nofun
      have hlive := (hw.manager.session id session hsess).live_of_committing hcom
      obtain ⟨_, hown, hsame⟩ := hi.candidate id c _ session hph hsess hlive
      obtain ⟨row0, hrow0⟩ := isSome_iff_exists.mp (hi.started id c _ hph hadm hop)
      obtain ⟨hman, row, hrow, hgrant⟩ :=
        hi.grant id session row0 hsess hlive (hsame.trans hadm) hrow0
      rw [hown] at hrow
      have hen := hread.enabled rfl hadm
      rw [hrow] at hen
      exact ⟨row, row0, hrow, hen, hrow0, hman, hgrant⟩

end

/-! ## Rows that change under a login -/

/-- The file of the login is about to be renamed, and its device, which started it,
must not manage the channel. -/
def CutoverWorld.renamesUnauthorized (w : CutoverWorld) (id : Uuid) : Bool :=
  match w.workers id with
  | some (.cutover c (.committing _)) =>
    c.adminAuthorization.isNone && !c.operatorAuthorized &&
      (w.devices c.ownerDeviceId).all fun row => !row.manages
  | _ => false

variable {w : CutoverWorld}

/-- The sample promotes without authority. -/
theorem not_authorized_of_renames {tools : CutoverTools}
    (h : w.renamesUnauthorized id = true) : Promotes w (.work id (.ended true)) id ∧
      ∃ c bun, w.workers id = some (.cutover c (.committing bun)) ∧
        ¬ Authorized tools w id c := by
  unfold CutoverWorld.renamesUnauthorized at h
  split at h
  · rename_i c bun hph
    simp only [and_eq_true, isNone_iff_eq_none, not_eq_true'] at h
    obtain ⟨⟨hadm, hop⟩, hnone⟩ := h
    refine ⟨⟨rfl, c, bun, hph⟩, c, bun, hph, ?_⟩
    intro hauthorized
    rw [Authorized, hop, hadm] at hauthorized
    obtain ⟨row, row0, hrow, hen, _, hman, _, hver, hscopes⟩ :=
      hauthorized.resolve_left false_ne_true
    rw [hrow, all_some, not_eq_true', manages, isActive, hver, hscopes] at hnone
    simp only [manages, isActive, isEnabled, and_eq_true] at hman hen
    rw [hen.1, hen.2, hman.1.1.2, hman.2] at hnone
    cases hnone
  · cases h

/-- The scopes of device 7 change after the login was confirmed, and before anything
of its cutover is read. -/
def scopesChangeFirst : List CutoverOp :=
  confirmedLogin 1 ++ .command 7 (.rotateScopes [2] [.channelRead]) ::
    cutoverUpToRename.drop (confirmedLogin 1).length

/-- Device 7 is revoked after the last read. -/
def revokedBeforeRename : List CutoverOp := cutoverUpToRename ++ [.command 7 (.revoke 5)]

/-- The steps lead to a promotion of login 1 whose device may not manage the channel. -/
def EndsUnauthorized (ops : List CutoverOp) : Prop :=
  ∃ w c bundle, Run (LoginServiceStep sampleCutoverTools .default)
      (.boot sampleDevices ⟨none, .disconnected⟩) ops w ∧
    Promotes w (.work 1 (.ended true)) 1 ∧
    w.workers 1 = some (.cutover c (.committing bundle)) ∧
    ¬ Authorized sampleCutoverTools w 1 c

/-- The step may write a token or scopes, or take a device out of use. -/
def CutoverOp.mayWithdraw : CutoverOp → Bool
  | .command .. | .adminStep .. => true
  | _ => false

/-- Most operations cannot withdraw authority. -/
theorem keepsAuthority_of_quiet {op : CutoverOp} (h : op.mayWithdraw = false) :
    KeepsAuthority w op := by
  have honly : ∀ {dev change}, RowChange w op dev change → change = .setEnabled true := by
    intro dev change hchg
    cases hchg with
    | enable => rfl
    | command | admin => cases h
  refine ⟨fun _ _ hchg hre => ?_, fun _ _ hchg hdis => ?_, ?_⟩
  · cases honly hchg ▸ hre
  · cases honly hchg ▸ hdis
  · rintro dev change rfl
    cases h

/-- Before anybody logs in, every change is harmless. -/
theorem keepsAuthority_boot {devices : Uuid → Option DeviceAuthRow} {runtime : RuntimeConnection}
    {op : CutoverOp} : KeepsAuthority (.boot devices runtime) op :=
  ⟨fun _ _ _ _ _ _ h => (by cases h), fun _ _ _ _ _ _ _ h => (by cases h),
    fun _ _ _ _ _ _ h => (by cases h)⟩

/-- The scopes of device 7 change before its login, and the device is enabled once more
during the login. -/
def scopesChangeBefore : List CutoverOp :=
  .command 7 (.rotateScopes [2] [.channelManage, .channelRead]) ::
    (confirmedLogin 1 ++ .enable 7 :: cutoverUpToRename.drop (confirmedLogin 1).length)

end PromptDock.Wechat
