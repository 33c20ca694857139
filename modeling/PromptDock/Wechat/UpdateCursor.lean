import PromptDock.Wechat.ConnectionFile

/-!
# The cursor that is saved, and the messages before it

A bundle that is saved comes from the bundle of the worker and one response of the
provider, and its cursor is that of the response.  The cursor is only taken over after
the sink has accepted every eligible message of the response; whatever is lost of a
save, a publication or a whole process, the file holds such a bundle or an older one
(`saved_cursor_is_accepted`).
-/

namespace PromptDock.Wechat

open LabelledRun FileWorld Option

/-- A finished text of the bound account, with a key. -/
structure Eligible (credentials : WechatCredentials) (m : WeixinMessage) : Prop where
  sender : m.fromUserId = some credentials.userId
  user : m.messageType = some messageTypeUser
  finished : m.messageState = some messageStateFinish
  key : (messageKey m).isSome = true
  text : messageTexts m ≠ []

/-- The sink has accepted the message. -/
def Accepted (blake3 : Blake3) (accepted : List EphemeralInboundText) (m : WeixinMessage) : Prop :=
  ∃ event ∈ accepted, messageKey m = some event.messageKey ∧ extractText blake3 m = some event.text

/-- The cursor of the bundle that follows a response. -/
def cursorAfter (current : ConnectionBundle) (response : GetUpdatesResponse) : String :=
  (response.getUpdatesBuf.or response.syncBuf).getD current.session.getUpdatesBuf

/-- The bundle comes from `start` by responses that the provider gave to the bundle
before, and the sink has accepted every eligible message of each. -/
inductive Reached (blake3 : Blake3) (log : FileLog) (start : ConnectionBundle) :
    ConnectionBundle → Prop where
  | start : Reached blake3 log start start
  | response {current next : ConnectionBundle} {response : GetUpdatesResponse}
      (hcurrent : Reached blake3 log start current)
      (hdelivered : (current, response) ∈ log.delivered)
      (haccepted : ∀ m ∈ response.msgs.getD [], Eligible current.credentials m →
        Accepted blake3 log.accepted m)
      (hcursor : next.session.getUpdatesBuf = cursorAfter current response)
      (haccount : next.credentials = current.credentials) : Reached blake3 log start next

/-- The provider numbers the messages of the account, a response has those from the
cursor that it was asked for, and its own cursor is not behind the last of them. -/
def Serves (stream : List WeixinMessage) (position : String → Nat)
    (asked : ConnectionBundle × GetUpdatesResponse) : Prop :=
  ∃ count, asked.2.msgs.getD [] =
      (stream.drop (position asked.1.session.getUpdatesBuf)).take count ∧
    position (cursorAfter asked.1 asked.2) ≤ position asked.1.session.getUpdatesBuf + count

variable {blake3 : Blake3} {bundle : ConnectionBundle}

section

variable {log log' : FileLog} {start : ConnectionBundle}

section

variable (h : Reached blake3 log start bundle)

include h

/-- What was accepted and delivered stays so. -/
theorem Reached.mono (hacc : ∀ event ∈ log.accepted, event ∈ log'.accepted)
    (hdeliv : ∀ asked ∈ log.delivered, asked ∈ log'.delivered) :
    Reached blake3 log' start bundle := by
  induction h with
  | start => exact .start
  | response _ hmem haccept hcur haccount ih =>
    refine .response ih (hdeliv _ hmem) (fun m hm helig => ?_) hcur haccount
    obtain ⟨event, hevent, hsame⟩ := haccept m hm helig
    exact ⟨event, hacc event hevent, hsame⟩

/-- The account stays the same. -/
theorem Reached.credentials : bundle.credentials = start.credentials := by
  induction h with
  | start => rfl
  | response _ _ _ _ haccount ih => exact haccount.trans ih

/-- Whatever of the stream lies before the cursor was accepted. -/
theorem Reached.accepted {stream : List WeixinMessage}
    {position : String → Nat} (hserves : ∀ asked ∈ log.delivered, Serves stream position asked)
    {k : Nat} {m : WeixinMessage} (hstart : position start.session.getUpdatesBuf ≤ k)
    (hk : k < position bundle.session.getUpdatesBuf) (hm : stream[k]? = some m)
    (helig : Eligible start.credentials m) : Accepted blake3 log.accepted m := by
  induction h with
  | start => omega
  | @response current next response hcurrent hdeliv hacc hcur _ ih =>
    by_cases hpre : k < position current.session.getUpdatesBuf
    · exact ih hpre
    obtain ⟨count, hmsgs, hposition⟩ := hserves _ hdeliv
    dsimp only at hmsgs hposition
    rw [hcur] at hk
    apply hacc m
    · rw [hmsgs]
      apply List.mem_of_getElem? (i := k - position current.session.getUpdatesBuf)
      rw [List.getElem?_take_of_lt (by omega), List.getElem?_drop]
      rw [show position current.session.getUpdatesBuf +
        (k - position current.session.getUpdatesBuf) = k by omega]
      exact hm
    · rw [hcurrent.credentials]
      exact helig

end

end

/-! ## Taking in a response -/

variable {response : GetUpdatesResponse}

section

variable {now : Timestamp} {accepts : EphemeralInboundText → Bool} {u u' : PendingUpdate}
  {m : WeixinMessage}

theorem extractText_isSome (blake3 : Blake3) (h : messageTexts m ≠ []) :
    (extractText blake3 m).isSome = true := by
  unfold extractText
  dsimp only
  split
  · rfl
  · rw [if_neg (by simpa using h)]
    rfl

/-- An eligible message is handed over. -/
theorem Eligible.handed (blake3 : Blake3) (now : Timestamp) (h : Eligible bundle.credentials m) :
    ∃ event, handedEvent blake3 now bundle m = some event ∧
      messageKey m = some event.messageKey ∧ extractText blake3 m = some event.text := by
  obtain ⟨key, hkey⟩ := isSome_iff_exists.mp h.key
  obtain ⟨text, htext⟩ := isSome_iff_exists.mp (extractText_isSome blake3 h.text)
  refine ⟨⟨key, accountFingerprint blake3 bundle.credentials.userId, text, now⟩, ?_, hkey, htext⟩
  rw [handedEvent, if_pos h.sender, inboundText, h.user, h.finished, hkey, htext]
  rfl

/-- A message leaves credentials and cursor alone, and is accepted if it is handed
over. -/
theorem takeMessage_keeps (hu : u.next.credentials = bundle.credentials)
    (h : u.takeMessage blake3 now accepts m = some u') : u'.next.credentials = bundle.credentials ∧
      u'.next.session.getUpdatesBuf = u.next.session.getUpdatesBuf ∧
      ∀ event, handedEvent blake3 now bundle m = some event → accepts event = true := by
  have hevent : inboundText blake3 now u.next m = inboundText blake3 now bundle m := by
    unfold inboundText
    rw [hu]
  have hctx : ∀ v : PendingUpdate, (v.takeContext now m).next.credentials = v.next.credentials ∧
      (v.takeContext now m).next.session.getUpdatesBuf = v.next.session.getUpdatesBuf := by
    intro v
    unfold PendingUpdate.takeContext
    split <;> exact ⟨rfl, rfl⟩
  have hremember : ∀ key, (u.remember key).next.credentials = u.next.credentials ∧
      (u.remember key).next.session.getUpdatesBuf = u.next.session.getUpdatesBuf := by
    intro key
    unfold PendingUpdate.remember
    split
    · exact ⟨rfl, rfl⟩
    refine ⟨rfl, ?_⟩
    show (u.next.session.rememberMessageKey key).1.getUpdatesBuf = _
    unfold WechatSessionSecrets.rememberMessageKey
    split <;> rfl
  unfold PendingUpdate.takeMessage at h
  rw [hu, hevent] at h
  unfold handedEvent
  split at h
  · rename_i hsender
    cases h
    refine ⟨hu, rfl, fun event hhanded => ?_⟩
    rw [if_neg hsender] at hhanded
    cases hhanded
  rename_i hsender
  rw [if_pos (not_not.mp hsender)]
  split at h
  · rename_i hnone
    cases h
    refine ⟨(hctx u).1.trans hu, (hctx u).2, fun event hhanded => ?_⟩
    rw [hnone] at hhanded
    cases hhanded
  · rename_i event hsome
    obtain ⟨hacc, rfl⟩ := of_guard h
    obtain ⟨hcred, hcur⟩ := hremember event.messageKey
    refine ⟨(hctx _).1.trans (hcred.trans hu), (hctx _).2.trans hcur, ?_⟩
    intro event' hhanded
    rw [hsome] at hhanded
    cases hhanded
    exact hacc

/-- Every message that is handed over is among the accepted. -/
theorem takeMessages_keep {ms : List WeixinMessage} (hu : u.next.credentials = bundle.credentials)
    (h : ms.foldlM (fun u m => u.takeMessage blake3 now accepts m) u = some u') :
    u'.next.credentials = bundle.credentials ∧
      u'.next.session.getUpdatesBuf = u.next.session.getUpdatesBuf ∧
      ∀ m ∈ ms, ∀ event, handedEvent blake3 now bundle m = some event →
        event ∈ acceptedEvents blake3 now accepts bundle ms := by
  induction ms generalizing u with
  | nil =>
    cases h
    exact ⟨hu, rfl, nofun⟩
  | cons m ms ih =>
    obtain ⟨v, hfst, hrest⟩ := bind_eq_some_iff.mp h
    obtain ⟨hv, hcur, hacc⟩ := takeMessage_keeps hu hfst
    obtain ⟨hcred, hcur', hevs⟩ := ih hv hrest
    refine ⟨hcred, hcur'.trans hcur, fun x hx event hhanded => ?_⟩
    unfold acceptedEvents
    rcases List.mem_cons.mp hx with rfl | hx
    · rw [hhanded]
      dsimp only
      rw [if_pos (hacc event hhanded)]
      exact List.mem_cons_self
    have hmem := hevs x hx event hhanded
    split
    · exact hmem
    rename_i first hfst
    rw [if_pos (hacc first hfst)]
    exact List.mem_cons_of_mem _ hmem

/-- The next bundle of a response: its cursor, and that all was accepted. -/
theorem collectUpdate_reaches (h : collectUpdate blake3 now accepts bundle response = some u) :
    u.next.credentials = bundle.credentials ∧
      u.next.session.getUpdatesBuf = cursorAfter bundle response ∧
      ∀ m ∈ response.msgs.getD [], Eligible bundle.credentials m →
        Accepted blake3 (acceptedEvents blake3 now accepts bundle (response.msgs.getD [])) m := by
  obtain ⟨v, hfold, hcollected⟩ := bind_eq_some_iff.mp h
  obtain ⟨hcred, hcur, hevs⟩ := takeMessages_keep rfl hfold
  have haft : u.next.credentials = bundle.credentials ∧
      u.next.session.getUpdatesBuf = cursorAfter bundle response := by
    cases hcollected
    unfold PendingUpdate.takeCursor cursorAfter
    split
    · rename_i hnone
      rw [hnone]
      exact ⟨hcred, hcur⟩
    rename_i cursor hsome
    rw [hsome]
    split
    · rename_i heq
      exact ⟨hcred, heq⟩
    · exact ⟨hcred, rfl⟩
  refine ⟨haft.1, haft.2, fun m hm helig => ?_⟩
  obtain ⟨event, hhanded, hkey, htext⟩ := helig.handed blake3 now
  exact ⟨event, hevs m hm event hhanded, hkey, htext⟩

end

/-! ## The bundles of a run -/

def FileSave.next? : FileSave → Option ConnectionBundle
  | .idle => none
  | .awaiting next | .staging next | .handed next | .syncing next | .publishing next => some next

/-- Whatever bundle anybody has is one of `P`. -/
structure Holding (P : ConnectionBundle → Prop) (w : FileWorld) : Prop where
  file : ∀ bundle, w.file = some bundle → P bundle
  monitor : ∀ bundle, w.monitor = some bundle → P bundle
  runtime : ∀ bundle, w.runtime = some bundle → P bundle
  workers : ∀ i worker, w.workers i = some worker →
    P worker.bundle ∧ ∀ bundle, worker.save.next? = some bundle → P bundle
  pool : ∀ bundle, .rename bundle ∈ w.pool → P bundle
  candidate : ∀ bundle, w.holder.bind FileHolder.candidate = some bundle → P bundle

variable {file : Option ConnectionBundle}

section

variable {P : ConnectionBundle → Prop} {w w' : FileWorld} {i : Nat} {worker : FileWorker}
  {op : FileOp}

/-- A weaker property holds of every bundle too. -/
theorem Holding.mono {Q : ConnectionBundle → Prop} (h : Holding P w)
    (hPQ : ∀ bundle, P bundle → Q bundle) : Holding Q w where
  file bundle heq := hPQ bundle (h.file bundle heq)
  monitor bundle heq := hPQ bundle (h.monitor bundle heq)
  runtime bundle heq := hPQ bundle (h.runtime bundle heq)
  workers i worker heq :=
    ⟨hPQ _ (h.workers i worker heq).1, fun b hb => hPQ b ((h.workers i worker heq).2 b hb)⟩
  pool bundle hmem := hPQ bundle (h.pool bundle hmem)
  candidate bundle heq := hPQ bundle (h.candidate bundle heq)

/-- A worker may have a bundle of `P`. -/
theorem Holding.setWorker {x : Option FileWorker} (h : Holding P w)
    (hx : ∀ worker, x = some worker →
      P worker.bundle ∧ ∀ bundle, worker.save.next? = some bundle → P bundle) :
    Holding P (w.setWorker i x) := by
  refine { h with workers := fun j worker hj => ?_ }
  have hj : Function.update w.workers i x j = some worker := hj
  by_cases heq : j = i
  · rw [heq, Function.update_self] at hj
    exact hx worker hj
  · rw [Function.update_of_ne heq] at hj
    exact h.workers j worker hj

theorem Holding.spawn (h : Holding P w) (hbun : P bundle) : Holding P (w.spawn bundle) := by
  have hset : Holding P (w.setWorker w.spawned (some ⟨bundle, false, .idle⟩)) :=
    h.setWorker fun worker hwork => by
      cases hwork
      exact ⟨hbun, nofun⟩
  exact { hset with }

theorem Holding.save (h : Holding P w) (hwork : w.workers i = some worker) (save : FileSave)
    (hsave : ∀ bundle, save.next? = some bundle → worker.save.next? = some bundle) :
    Holding P (w.setWorker i (some { worker with save := save })) :=
  h.setWorker fun worker' heq => by
    cases heq
    obtain ⟨hcur, hnext⟩ := h.workers i worker hwork
    exact ⟨hcur, fun bundle hbun => hnext bundle (hsave bundle hbun)⟩

/-- A save only moves a bundle on. -/
theorem saveNext_holding {ok : Bool} (hw : Holding P w) (hwork : w.workers i = some worker)
    (h : w.saveNext i worker ok = some w') : Holding P w' ∧ w'.log = w.log := by
  have hidle := hw.save hwork .idle nofun
  have hnext : ∀ next, worker.save.next? = some next → P next := (hw.workers i worker hwork).2
  unfold saveNext at h
  cases hsave : worker.save with
  | idle =>
    rw [hsave] at h
    cases h
  | awaiting next =>
    simp only [hsave] at h
    obtain ⟨_, rfl⟩ := of_guard h
    exact ⟨{ hw.save hwork (.staging next) fun _ h => hsave ▸ h with }, rfl⟩
  | staging =>
    simp only [hsave] at h
    split at h
    · cases h
      exact ⟨hw.save hwork _ fun _ h => hsave ▸ h, rfl⟩
    · cases h
      exact ⟨{ hidle with }, rfl⟩
  | handed next =>
    simp only [hsave] at h
    split at h
    · cases h
      exact ⟨{ hw.save hwork (.syncing next) fun _ h => hsave ▸ h with
        file := fun bundle h => hnext bundle (hsave ▸ h) }, rfl⟩
    · cases h
      exact ⟨{ hidle with }, rfl⟩
  | syncing next =>
    simp only [hsave] at h
    cases h
    cases ok
    · exact ⟨{ hidle with }, rfl⟩
    · exact ⟨{ hw.save hwork (.publishing next) fun _ h => hsave ▸ h with }, rfl⟩
  | publishing next =>
    have hpublished := hnext next (by rw [hsave]; rfl)
    simp only [hsave] at h
    cases h
    have hset : Holding P (w.setWorker i (some ⟨next, worker.cancelled, .idle⟩)) :=
      hw.setWorker fun _ heq => by
        cases heq
        exact ⟨hpublished, nofun⟩
    exact ⟨{ hset with monitor := fun _ h => some.inj h ▸ hpublished }, rfl⟩

/-- So does a save that is dropped. -/
theorem dropSave_holding (hw : Holding P w) (hwork : w.workers i = some worker)
    (h : w.dropSave i worker = some w') : Holding P w' ∧ w'.log = w.log := by
  have hidle := hw.save hwork .idle nofun
  unfold dropSave at h
  split at h
  case h_4 next hsave =>
    cases h
    refine ⟨{ hidle with pool := fun bundle hmem => ?_ }, rfl⟩
    rcases List.mem_cons.mp hmem with heq | hmem
    · cases heq
      exact (hw.workers i worker hwork).2 next (by rw [hsave]; rfl)
    · exact hw.pool bundle hmem
  all_goals first
    | cases h; exact ⟨{ hidle with }, rfl⟩
    | cases h

theorem start_holding (hfile : ∀ bundle, w.file = some bundle → P bundle) : Holding P w.start := by
  have hidle : ∀ file, (∀ bundle, file = some bundle → P bundle) → Holding P
      { w with
        file := file, monitor := file, runtime := file, workers := fun _ => none, owned := none
        joining := none, writer := none, holder := none, pool := [] } := by
    intro file hP
    exact ⟨hP, hP, hP, fun _ _ h => (by cases h), fun _ h => (by cases h), fun _ h => (by cases h)⟩
  cases heq : w.file with
  | none =>
    simp only [start, heq]
    exact hidle none (heq ▸ hfile)
  | some bundle =>
    simp only [start, heq]
    exact (hidle (some bundle) (heq ▸ hfile)).spawn (hfile bundle heq)

theorem stopWorker_holding (hw : Holding P w) : Holding P w.stopWorker := by
  refine { hw with workers := fun i worker h => ?_ }
  obtain ⟨before, hpre, rfl⟩ := map_eq_some_iff.mp h
  split
  · exact hw.workers i before hpre
  · exact hw.workers i before hpre

/-- The step neither takes in a response nor promotes a candidate. -/
def FileOp.isQuiet : FileOp → Bool
  | .update .. | .promote _ => false
  | _ => true

/-- Such a step makes no new bundle. -/
theorem quiet_holding (h : FileStep blake3 w op w') (hop : op.isQuiet = true) (hw : Holding P w) :
    Holding P w' ∧ w'.log = w.log := by
  have hnone : ∀ b, (none : Option ConnectionBundle) = some b → P b := fun _ h => (by cases h)
  cases op with
  | update => cases hop
  | promote => cases hop
  | save =>
    obtain ⟨worker, hwork, hsave⟩ := bind_eq_some_iff.mp h
    exact saveNext_holding hw hwork hsave
  | drop =>
    obtain ⟨worker, hwork, hdrop⟩ := bind_eq_some_iff.mp h
    split at hdrop
    · exact dropSave_holding hw hwork hdrop
    · cases hdrop
  | finish =>
    obtain ⟨worker, hwork, hfin⟩ := bind_eq_some_iff.mp h
    obtain ⟨_, rfl⟩ := of_guard hfin
    exact ⟨hw.setWorker fun _ h => (by cases h), rfl⟩
  | land op ok =>
    simp only [FileStep, next] at h
    split at h
    · have hpool : ∀ b, PoolOp.rename b ∈ w.pool.erase op → P b :=
        fun b hb => hw.pool b (List.mem_of_mem_erase hb)
      split at h
      · cases h
        exact ⟨{ hw with pool := hpool }, rfl⟩
      · rename_i bundle hmem
        cases h
        have hbun := hw.pool bundle hmem
        exact ⟨{ hw with pool := hpool, file := fun _ h => some.inj h ▸ hbun }, rfl⟩
      · cases h
        exact ⟨{ hw with pool := hpool, file := hnone }, rfl⟩
    · cases h
  | login | leave | lock =>
    obtain ⟨_, rfl⟩ := of_guard h
    exact ⟨{ hw with candidate := hnone }, rfl⟩
  | take =>
    obtain ⟨_, rfl⟩ := of_guard h
    exact ⟨stopWorker_holding hw, rfl⟩
  | install =>
    obtain ⟨_, rfl⟩ := of_guard h
    unfold install
    split
    · exact ⟨hw, rfl⟩
    rename_i bundle hbun
    have hP : P bundle := by
      rcases or_eq_some_iff.mp hbun with h | ⟨_, h⟩
      · exact hw.candidate bundle h
      rcases or_eq_some_iff.mp h with h | ⟨_, h⟩
      · exact hw.monitor bundle h
      · exact hw.runtime bundle h
    have hmonitor : Holding P { w with monitor := some bundle } :=
      { hw with monitor := fun _ h => some.inj h ▸ hP }
    exact ⟨hmonitor.spawn hP, rfl⟩
  | disconnect =>
    obtain ⟨_, rfl⟩ := of_guard h
    exact ⟨{ stopWorker_holding hw with candidate := hnone }, rfl⟩
  | stopped =>
    obtain ⟨_, rfl⟩ := of_guard h
    exact ⟨{ hw with monitor := hnone, candidate := hnone }, rfl⟩
  | removed removed =>
    obtain ⟨_, rfl⟩ := of_guard h
    refine ⟨{ hw with candidate := hnone, runtime := hnone, file := fun bundle heq => ?_ }, rfl⟩
    cases removed with
    | true => cases heq
    | false => exact hw.file bundle heq
  | abandon =>
    simp only [FileStep, next] at h
    split at h
    · cases h
      refine ⟨{ hw with candidate := hnone, pool := fun bundle hmem => ?_ }, rfl⟩
      exact hw.pool bundle ((List.mem_cons.mp hmem).resolve_left (by simp))
    · obtain ⟨_, rfl⟩ := of_guard h
      exact ⟨{ hw with candidate := hnone }, rfl⟩
  | restart =>
    cases h
    refine ⟨start_holding hw.file, ?_⟩
    unfold start
    split <;> rfl

/-- The bundle comes from the one that the process found first. -/
def FromFile (blake3 : Blake3) (file : Option ConnectionBundle) (log : FileLog)
    (bundle : ConnectionBundle) : Prop :=
  ∃ start, file = some start ∧ Reached blake3 log start bundle

/-- A response adds the bundle that follows it, once all of it was accepted. -/
theorem update_holding {accepts : EphemeralInboundText → Bool} {now : Timestamp}
    (h : FileStep blake3 w (.update i response accepts now) w')
    (hw : Holding (FromFile blake3 file w.log) w) : Holding (FromFile blake3 file w'.log) w' := by
  have hlater : ∀ log : FileLog, (∀ event ∈ w.log.accepted, event ∈ log.accepted) →
      (∀ asked ∈ w.log.delivered, asked ∈ log.delivered) →
      Holding (FromFile blake3 file log) { w with log := log } := by
    intro log hacc hdeliv
    have hmono := hw.mono fun bundle ⟨start, hstart, hreached⟩ =>
      (⟨start, hstart, hreached.mono hacc hdeliv⟩ : FromFile blake3 file log bundle)
    exact { hmono with }
  simp only [FileStep, next] at h
  split at h
  · rename_i current cancelled hwork
    have hlog := hlater
      ⟨w.log.accepted ++ acceptedEvents blake3 now accepts current (response.msgs.getD []),
        w.log.delivered ++ [(current, response)]⟩
      (fun _ => List.mem_append_left _) (fun _ => List.mem_append_left _)
    split at h
    · cases h
      exact hlog
    rename_i update hupd
    split at h
    · cases h
      refine hlog.setWorker fun worker heq => ?_
      cases heq
      have hcur := (hlog.workers i _ hwork).1
      refine ⟨hcur, fun bundle hnext => ?_⟩
      cases hnext
      obtain ⟨start, hstart, hreached⟩ := hcur
      obtain ⟨hcred, hcursor, hacc⟩ := collectUpdate_reaches hupd
      refine ⟨start, hstart, .response hreached (List.mem_append_right _ List.mem_cons_self)
        (fun m hm helig => ?_) hcursor hcred⟩
      obtain ⟨event, hevent, hmatch⟩ := hacc m hm helig
      exact ⟨event, List.mem_append_right _ hevent, hmatch⟩
    · cases h
      exact hlog
  · cases h

/-- A step of a process that keeps its account. -/
def SameAccountStep (blake3 : Blake3) (w : FileWorld) (op : FileOp) (w' : FileWorld) : Prop :=
  FileStep blake3 w op w' ∧ ∀ bundle, op ≠ .promote bundle

/-- A step leaves bundles that were reached from the file. -/
theorem SameAccountStep.holding
    (h : SameAccountStep blake3 w op w') (hw : Holding (FromFile blake3 file w.log) w) :
    Holding (FromFile blake3 file w'.log) w' := by
  by_cases hquiet : op.isQuiet = true
  · obtain ⟨hw', hlog⟩ := quiet_holding h.1 hquiet hw
    rw [hlog]
    exact hw'
  cases op with
  | promote candidate => exact absurd rfl (h.2 candidate)
  | update => exact update_holding h.1 hw
  | _ => exact absurd rfl hquiet

/-- The bundle in the file comes from the first one by responses whose eligible messages
were all accepted; if the provider serves a stream of messages, then all of the stream
before the saved cursor was. -/
theorem saved_cursor_is_accepted {file : Option ConnectionBundle} {ops : List FileOp}
    (h : Run (SameAccountStep blake3) (.boot file) ops w) (hfile : w.file = some bundle) :
    ∃ start, file = some start ∧ Reached blake3 w.log start bundle ∧
      ∀ stream position, (∀ asked ∈ w.log.delivered, Serves stream position asked) →
        ∀ k m, position start.session.getUpdatesBuf ≤ k →
          k < position bundle.session.getUpdatesBuf → stream[k]? = some m →
          Eligible start.credentials m → Accepted blake3 w.log.accepted m := by
  have hboot : Holding (FromFile blake3 file (boot file).log) (.boot file) :=
    start_holding fun b hb => ⟨b, hb, .start⟩
  have hholding := h.invariant (I := fun w => Holding (FromFile blake3 file w.log) w)
    (fun _ _ _ hstep => hstep.holding) hboot
  obtain ⟨start, hstart, hchain⟩ := hholding.file bundle hfile
  refine ⟨start, hstart, hchain, ?_⟩
  intro stream position hserves k m hfrom hto hm heligible
  exact hchain.accepted hserves hfrom hto hm heligible

end

/-- A text of the bound account, the only message before the cursor "next". -/
def sampleResponse : GetUpdatesResponse :=
  ⟨some [⟨none, some 1, some "user", none, some 1, some 2, some [⟨some 1, none, some (some "hi")⟩],
    none⟩], none, some "next"⟩

/-- The message is accepted, and the next bundle saved. -/
def savedUpdate : List FileOp :=
  [.update 0 sampleResponse (fun _ => true) 0, .save 0 true, .save 0 true, .save 0 true,
    .save 0 true, .save 0 true]

/-- A saved cursor, and the message before it. -/
theorem saved_cursor_is_accepted_sample :
    ∃ w bundle, Run (SameAccountStep .zero) (.boot (some sampleConnection)) savedUpdate w ∧
      w.file = some bundle ∧ bundle.session.getUpdatesBuf = "next" ∧ w.log.accepted.length = 1 ∧
      Reached .zero w.log sampleConnection bundle := by
  obtain ⟨w, hrun, hfile, haccepted⟩ : ∃ w, Run (FileStep .zero) (.boot (some sampleConnection))
      savedUpdate w ∧ w.file.any (·.session.getUpdatesBuf == "next") = true ∧
        w.log.accepted.length = 1 := exists_run (by decide +kernel)
  obtain ⟨bundle, hbundle, hcursor⟩ := (any_eq_true ..).mp hfile
  have hsame : Run (SameAccountStep .zero) (.boot (some sampleConnection)) savedUpdate w := by
    have hnot : ∀ op ∈ savedUpdate, ∀ candidate, op ≠ .promote candidate := by simp [savedUpdate]
    exact hrun.restrict hnot
  obtain ⟨start, hstart, hreached, _⟩ := saved_cursor_is_accepted hsame hbundle
  cases hstart
  exact ⟨w, bundle, hsame, hbundle, beq_iff_eq.mp hcursor, haccepted, hreached⟩

end PromptDock.Wechat
