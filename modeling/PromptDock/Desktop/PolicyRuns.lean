import PromptDock.Desktop.CapturedContent

/-!
# Policies over time

The policy file, the captures made under it and the database interleave freely:
a policy is saved, events are captured under the file as it is, and later some
policy that was saved is projected into the database and the events ingested.

The policies ever saved form a history in which each one `Follows` those before
it: a policy that allows less than an earlier one has a later generation.  The
database always holds a policy of the history (`PolicyWorld.Sound`).  So a
projection that narrows what may be stored raises the generation
(`raised_of_narrowed`), and what it then does is `Projected.forgets`.
-/

namespace PromptDock.Desktop

open StoreAction LabelledRun List

/-! ## The history of the policy file -/

/-- The order of saved policies. -/
structure Follows (newer older : CapturePolicyState) : Prop where
  revision : older.revision < newer.revision
  generation : older.captureGeneration ≤ newer.captureGeneration
  narrowed : newer.policy.resultContentMode.rank < older.policy.resultContentMode.rank →
    older.captureGeneration < newer.captureGeneration

variable {a b previous state : CapturePolicyState} {policy : CapturePolicy}

/-- Saved policies follow one another. -/
theorem Follows.trans {c : CapturePolicyState} (h : Follows a b) (h' : Follows b c) :
    Follows a c where
  revision := h'.revision.trans h.revision
  generation := h'.generation.trans h.generation
  narrowed := by
    intro hrank
    by_cases hlower : a.policy.resultContentMode.rank < b.policy.resultContentMode.rank
    · exact lt_of_le_of_lt h'.generation (h.narrowed hlower)
    · exact lt_of_lt_of_le (h'.narrowed (by omega)) h.generation

/-- A save follows what it replaces. -/
theorem follows_of_nextPolicyState (h : nextPolicyState previous policy = .ok state) :
    Follows state previous := by
  unfold nextPolicyState at h
  split at h
  · cases h
  dsimp only at h
  split at h
  · cases h
  rename_i gen hgen
  cases h
  split at hgen
  · simp only [checkedAdd] at hgen
    obtain ⟨_, rfl⟩ := of_guard hgen
    exact ⟨Int.lt_succ _, Int.le_add_one le_rfl, fun _ => Int.lt_succ _⟩
  · rename_i hwide
    cases hgen
    exact ⟨Int.lt_succ _, le_rfl, fun hlower => absurd hlower hwide⟩

/-- A save that is published was made from the file's own policy. -/
theorem commitPolicy_saved {file : PolicyFile} {expectedRevision : Int} {published : Bool}
    (h : commitPolicy file policy expectedRevision published = .ok (.saved, .saved state)) :
    ∃ previous, file.readAuthority = .ok previous ∧
      nextPolicyState previous policy = .ok state := by
  unfold commitPolicy at h
  split at h
  · cases h
  obtain ⟨previous, hread, hcom⟩ := except_bind_eq_ok.mp h
  split at hcom
  · cases hcom
  split at hcom
  · cases hcom
  obtain ⟨next, hnext, hpublish⟩ := except_bind_eq_ok.mp hcom
  split at hpublish
  · cases hpublish
  · cases hpublish
    exact ⟨previous, hread, hnext⟩

/-- What is read is what was saved. -/
theorem eq_of_readAuthority (h : (PolicyFile.saved state).readAuthority = .ok previous) :
    previous = state := by
  simp only [PolicyFile.readAuthority] at h
  split at h
  · cases h
    rfl
  · cases h

/-- Of two policies of a history, one follows the other. -/
theorem follows_or_eq {history : List CapturePolicyState} (h : history.Pairwise Follows)
    (ha : a ∈ history) (hb : b ∈ history) : a = b ∨ Follows a b ∨ Follows b a := by
  let Comparable : CapturePolicyState → CapturePolicyState → Prop :=
    fun a b => a = b ∨ Follows a b ∨ Follows b a
  have hforward : history.Pairwise Comparable := h.imp fun hab => .inr (.inl hab)
  have hbackward : history.Pairwise (flip Comparable) := h.imp fun hab => .inr (.inr hab)
  have hself : ∀ x ∈ history, Comparable x x := fun _ _ => .inl rfl
  exact List.Pairwise.forall_of_forall_of_flip hself hforward hbackward ha hb

/-! ## The system -/

structure PolicyWorld where
  file : PolicyFile
  /-- The policies that the file has held, the newest first. -/
  history : List CapturePolicyState
  desktop : DesktopWorld

/-- The helper stamps an output with the policy it reads (`capture_inner`). -/
def stampedUnder (state : CapturePolicyState) (e : AgentEventEnvelopeV2) : Bool :=
  e.metadata.any (·.policyRevision == state.revision) &&
    match e.payload with
    | .outputProduced output =>
      output.captureGeneration == some state.captureGeneration &&
        output.contentMode == state.policy.resultContentMode
    | _ => true

/-- The operations that read no policy. -/
def DesktopOp.unpoliced : DesktopOp → Bool
  | .process .. | .passOver .. | .project .. => false
  | .finalize .. | .enqueueControl .. | .expireDue _ | .claim .. | .finish .. | .recoverStale _
  | .retryBlocked .. | .stop => true

inductive PolicyOp where
  | save (policy : CapturePolicy) (expectedRevision : Int) (published : Bool)
  | capture (e : AgentEventEnvelopeV2)
  /-- The policy processor, on a file and settings it read at any time before. -/
  | ingest (file : PolicyFile) (settings : Projection) (e : AgentEventEnvelopeV2)
      (checkpoint : SourceCheckpointUpdate)
  /-- The projection of a policy that was read at any time before. -/
  | apply (state : CapturePolicyState) (now later : Timestamp)
  | other (op : DesktopOp)

/-- The file and its history after a save. -/
def PolicyWorld.save (w : PolicyWorld) (policy : CapturePolicy) (expectedRevision : Int)
    (published : Bool) : PolicyWorld :=
  match commitPolicy w.file policy expectedRevision published with
  | .ok (.saved, .saved state) =>
    { w with file := .saved state, history := state :: w.history }
  | _ => w

def PolicyOp.next (engine : DesktopEngine) (tools : Tools) (w : PolicyWorld) :
    PolicyOp → Option PolicyWorld
  | .save policy expectedRevision published => some (w.save policy expectedRevision published)
  | .capture e =>
    match w.file.readAuthority with
    | .ok state => if stampedUnder state e then some w else none
    | .error _ => none
  | .ingest file settings e checkpoint =>
    some { w with
      desktop := { w.desktop with
        store := (PolicyProcessor.process engine tools file settings e checkpoint
          w.desktop.store).2 } }
  | .apply state now later =>
    if state ∈ w.history then
      some { w with
        desktop := { w.desktop with
          store := (DesktopPolicy.project engine state now later w.desktop.store).2 } }
    else none
  | .other op =>
    if op.unpoliced then
      (op.next engine tools w.desktop).map fun desktop => { w with desktop := desktop }
    else none

/-- One step, under some engine. -/
def PolicyStep (tools : Tools) (w : PolicyWorld) (op : PolicyOp) (w' : PolicyWorld) : Prop :=
  ∃ engine, op.next engine tools w = some w'

/-- The first policy is saved, and the database is new. -/
def PolicyWorld.initial : PolicyWorld where
  file := .saved CapturePolicyState.standard
  history := [CapturePolicyState.standard]
  desktop := DesktopWorld.initial

/-! ## Steps of the database -/

/-- The operation on the database that a step is. -/
def PolicyOp.performs : PolicyOp → DesktopOp → Prop
  | .save .., _ | .capture _, _ => False
  | .ingest _ settings e checkpoint, op =>
    op = .passOver checkpoint ∨ op = .process settings.policy e checkpoint
  | .apply state now later, op => op = .project state now later
  | .other op', op => op = op'

section

variable {tools : Tools} {w w' : PolicyWorld} {op : PolicyOp}

/-- The policy processor waits, passes the event over, or ingests it. -/
theorem policyProcessor_cases (eng : DesktopEngine) (tools : Tools) (file : PolicyFile)
    (cfg : Projection) (e : AgentEventEnvelopeV2) (checkpoint : SourceCheckpointUpdate)
    (s : DesktopStore) : (PolicyProcessor.process eng tools file cfg e checkpoint s).2 = s ∨
      (PolicyProcessor.process eng tools file cfg e checkpoint s).2 =
        (AgentEventIngestor.checkpointPolicySkip eng tools checkpoint s).2 ∨
      (PolicyProcessor.process eng tools file cfg e checkpoint s).2 =
        (AgentEventIngestor.process eng tools cfg.policy e checkpoint s).2 := by
  unfold PolicyProcessor.process
  cases policyAdmission file cfg e with
  | wait => exact .inl rfl
  | skip =>
    refine .inr (.inl ?_)
    dsimp only
    rw [Action.bind_run]
    rcases AgentEventIngestor.checkpointPolicySkip eng tools checkpoint s with
      ⟨error | u, s'⟩ <;> rfl
  | ingest => exact .inr (.inr rfl)

/-- A step moves the desktop by one operation at most. -/
theorem desktop_step (h : PolicyStep tools w op w') : w'.desktop = w.desktop ∨
      ∃ action, op.performs action ∧ DesktopStep tools w.desktop action w'.desktop := by
  obtain ⟨eng, hnext⟩ := h
  cases op with
  | save =>
    cases hnext
    left
    unfold PolicyWorld.save
    split <;> rfl
  | capture =>
    left
    simp only [PolicyOp.next] at hnext
    split at hnext
    · split at hnext <;> cases hnext
      rfl
    · cases hnext
  | ingest file cfg e checkpoint =>
    cases hnext
    rcases policyProcessor_cases eng tools file cfg e checkpoint w.desktop.store with
      hsame | hskip | hproc
    · left
      rw [hsame]
    · right
      refine ⟨.passOver checkpoint, .inl rfl, eng, ?_⟩
      rw [hskip]
      rfl
    · right
      refine ⟨.process cfg.policy e checkpoint, .inr rfl, eng, ?_⟩
      rw [hproc]
      rfl
  | apply =>
    obtain ⟨_, rfl⟩ := of_guard hnext
    exact .inr ⟨_, rfl, eng, rfl⟩
  | other op =>
    simp only [PolicyOp.next] at hnext
    split at hnext
    · obtain ⟨desktop, hdesktop, rfl⟩ := Option.map_eq_some_iff.mp hnext
      exact .inr ⟨op, rfl, eng, hdesktop⟩
    · cases hnext

variable {labels : List PolicyOp} {state : CapturePolicyState} {now later : Timestamp}

/-- A run of the whole system is a run of the database. -/
theorem desktop_run (h : Run (PolicyStep tools) w labels w') :
    ∃ actions, Run (DesktopStep tools) w.desktop actions w'.desktop := by
  induction h with
  | nil => exact ⟨[], .nil _⟩
  | cons hstep _ ih =>
    obtain ⟨actions, hactions⟩ := ih
    rcases desktop_step hstep with hsame | ⟨action, _, hact⟩
    · rw [hsame] at hactions
      exact ⟨actions, hactions⟩
    · exact ⟨action :: actions, .cons hact hactions⟩

/-- Only a save changes the file and its history. -/
theorem history_step (h : PolicyStep tools w op w') : (w'.file = w.file ∧ w'.history = w.history) ∨
      ∃ previous state policy, w.file.readAuthority = .ok previous ∧
        nextPolicyState previous policy = .ok state ∧ w'.file = .saved state ∧
        w'.history = state :: w.history := by
  obtain ⟨eng, hnext⟩ := h
  cases op with
  | save policy expectedRevision published =>
    cases hnext
    unfold PolicyWorld.save
    split
    · rename_i state hcom
      obtain ⟨previous, hread, hst⟩ := commitPolicy_saved hcom
      exact .inr ⟨previous, state, policy, hread, hst, rfl, rfl⟩
    · exact .inl ⟨rfl, rfl⟩
  | capture =>
    simp only [PolicyOp.next] at hnext
    split at hnext
    · split at hnext <;> cases hnext
      exact .inl ⟨rfl, rfl⟩
    · cases hnext
  | ingest =>
    cases hnext
    exact .inl ⟨rfl, rfl⟩
  | apply =>
    simp only [PolicyOp.next] at hnext
    split at hnext <;> cases hnext
    exact .inl ⟨rfl, rfl⟩
  | other =>
    simp only [PolicyOp.next] at hnext
    split at hnext
    · obtain ⟨desktop, _, rfl⟩ := Option.map_eq_some_iff.mp hnext
      exact .inl ⟨rfl, rfl⟩
    · cases hnext

/-- Only policies of the history are projected. -/
theorem mem_history_of_apply (h : PolicyStep tools w (.apply state now later) w') :
    state ∈ w.history := by
  obtain ⟨eng, hnext⟩ := h
  simp only [PolicyOp.next] at hnext
  split at hnext
  · assumption
  · cases hnext

/-- A projection that commits comes from `apply`. -/
theorem apply_of_performs_project (hop : op.performs (.project state now later))
    (h : PolicyStep tools w op w') : op = .apply state now later := by
  cases op with
  | save | capture => exact hop.elim
  | ingest => rcases hop with h | h <;> cases h
  | apply => cases hop; rfl
  | other =>
    cases hop
    obtain ⟨eng, hnext⟩ := h
    cases hnext

/-! ## The invariant -/

structure PolicyWorld.Sound (w : PolicyWorld) : Prop where
  check : w.desktop.store.check = true
  file : ∃ state older, w.history = state :: older ∧ w.file = .saved state
  history : w.history.Pairwise Follows
  applied : ∃ state ∈ w.history, AppliedFrom state w.desktop.store.desktopPrivacy

/-- The program starts sound. -/
theorem sound_initial : PolicyWorld.initial.Sound where
  check := by decide
  file := ⟨_, [], rfl, rfl⟩
  history := pairwise_singleton _ _
  applied := ⟨_, mem_singleton_self _, rfl, rfl, rfl⟩

/-- Saved policies stay in the history. -/
theorem history_grows (h : PolicyStep tools w op w') : w.history ⊆ w'.history := by
  rcases history_step h with ⟨_, hhist⟩ | ⟨_, state, _, _, _, _, hhist⟩
  · rw [hhist]
    exact List.Subset.refl _
  · rw [hhist]
    exact subset_cons_self _ _

/-- A step keeps the world sound. -/
theorem PolicyWorld.Sound.step (hw : w.Sound) (h : PolicyStep tools w op w') : w'.Sound := by
  obtain ⟨head, older, hhead, hfile⟩ := hw.file
  obtain ⟨applied, hmem, happ⟩ := hw.applied
  have hstore : w'.desktop.store.check = true ∧
      ∃ state ∈ w'.history, AppliedFrom state w'.desktop.store.desktopPrivacy := by
    rcases desktop_step h with hsame | ⟨action, hperf, hact⟩
    · rw [hsame]
      exact ⟨hw.check, applied, history_grows h hmem, happ⟩
    refine ⟨(step_moves hact hw.check).check, ?_⟩
    cases step_contents hact hw.check with
    | keeps _ hpriv | stores _ hpriv =>
      rw [hpriv]
      exact ⟨applied, history_grows h hmem, happ⟩
    | projects hproj =>
      obtain rfl := apply_of_performs_project hperf h
      exact ⟨_, history_grows h (mem_history_of_apply h), hproj.applied⟩
  refine ⟨hstore.1, ?_, ?_, hstore.2⟩
  · rcases history_step h with ⟨hfile', hhist⟩ | ⟨_, state, _, _, _, hfile', hhist⟩
    · exact ⟨head, older, hhist.trans hhead, hfile'.trans hfile⟩
    · exact ⟨state, w.history, hhist, hfile'⟩
  rcases history_step h with ⟨_, hhist⟩ | ⟨previous, state, policy, hread, hnext, _, hhist⟩
  · rw [hhist]
    exact hw.history
  rw [hfile] at hread
  obtain rfl := eq_of_readAuthority hread
  rw [hhist]
  refine pairwise_cons.mpr ⟨fun old hold => ?_, hw.history⟩
  have hfollows := follows_of_nextPolicyState hnext
  have hsorted := hw.history
  rw [hhead] at hold hsorted
  rcases mem_cons.mp hold with rfl | hold
  · exact hfollows
  · exact hfollows.trans ((pairwise_cons.mp hsorted).1 old hold)

theorem PolicyWorld.Sound.run (hw : w.Sound) (h : Run (PolicyStep tools) w labels w') : w'.Sound :=
  Run.invariant (I := PolicyWorld.Sound) (fun _ _ _ hstep hw => hw.step hstep) h hw

/-! ## What narrowing does -/

/-- The applied policy now allows less, or its generation is a later one. -/
def Narrows (s s' : DesktopStore) : Prop :=
  s.desktopPrivacy.contentEpoch < s'.desktopPrivacy.contentEpoch ∨
    s'.desktopPrivacy.captureMode.rank < s.desktopPrivacy.captureMode.rank

/-- A step that narrows is a projection, and it raises the generation. -/
theorem raised_of_narrowed (hw : w.Sound) (h : PolicyStep tools w op w')
    (hnarrows : Narrows w.desktop.store w'.desktop.store) :
    ∃ state, Projected state w.desktop.store w'.desktop.store ∧
      w.desktop.store.desktopPrivacy.contentEpoch < state.captureGeneration := by
  have hchg : w'.desktop.store.desktopPrivacy ≠ w.desktop.store.desktopPrivacy := by
    intro hsame
    unfold Narrows at hnarrows
    rw [hsame] at hnarrows
    rcases hnarrows with hlt | hlt
    · exact lt_irrefl _ hlt
    · exact lt_irrefl _ hlt
  rcases desktop_step h with hsame | ⟨action, hperf, hact⟩
  · rw [hsame] at hchg
    exact absurd rfl hchg
  cases step_contents hact hw.check with
  | keeps _ hpriv | stores _ hpriv => exact absurd hpriv hchg
  | @projects state _ _ _ _ hproj =>
    refine ⟨state, hproj, ?_⟩
    rcases hnarrows with hraised | hlower
    · rw [← hproj.applied.generation]
      exact hraised
    -- the policies before and after are of one history
    obtain rfl := apply_of_performs_project hperf h
    obtain ⟨old, hold, happ⟩ := hw.applied
    rw [hproj.applied.mode, happ.mode] at hlower
    rcases follows_or_eq hw.history (mem_history_of_apply h) hold with rfl | hnew | hbehind
    · exact absurd hlower (lt_irrefl _)
    · rw [happ.generation]
      exact hnew.narrowed hlower
    have hnotBehind := hproj.notBehind.1
    rw [happ.revision] at hnotBehind
    exact absurd hbehind.revision (not_lt.mpr hnotBehind)

/-- The applied generation never goes back. -/
theorem epoch_step (hw : w.Sound) (h : PolicyStep tools w op w') :
    w.desktop.store.desktopPrivacy.contentEpoch ≤ w'.desktop.store.desktopPrivacy.contentEpoch := by
  rcases desktop_step h with hsame | ⟨action, _, hact⟩
  · rw [hsame]
  cases step_contents hact hw.check with
  | keeps _ hpriv | stores _ hpriv => rw [hpriv]
  | projects hproj =>
    rw [hproj.applied.generation]
    exact hproj.notBehind.2

/-- The epoch of the content never falls. -/
theorem epoch_run (hw : w.Sound) (h : Run (PolicyStep tools) w labels w') :
    w.desktop.store.desktopPrivacy.contentEpoch ≤ w'.desktop.store.desktopPrivacy.contentEpoch :=
  Run.relates (I := PolicyWorld.Sound)
    (R := fun w w' => w.desktop.store.desktopPrivacy.contentEpoch ≤
      w'.desktop.store.desktopPrivacy.contentEpoch)
    (fun _ _ _ hstep hw => hw.step hstep) (fun _ => le_rfl) (fun _ _ _ h => h.trans)
    (fun _ _ _ hstep hw => epoch_step hw hstep) h hw

/-- A step stores an output only by ingesting it, under the applied generation
and up to the applied mode. -/
def StoresAllowed (op : PolicyOp) (w w' : PolicyWorld) : Prop :=
  ∀ row ∈ w'.desktop.store.agentOutputs, row ∉ w.desktop.store.agentOutputs →
    ∃ file settings e checkpoint output, op = .ingest file settings e checkpoint ∧
      e.payload = .outputProduced output ∧ row.eventId = e.eventId ∧
      output.captureGeneration = some w.desktop.store.desktopPrivacy.contentEpoch ∧
      output.contentMode.rank ≤ w.desktop.store.desktopPrivacy.captureMode.rank

/-- A step stores outputs only as the policy allows. -/
theorem storesAllowed_step (hw : w.Sound) (h : PolicyStep tools w op w') :
    StoresAllowed op w w' := by
  intro row hrow hnew
  rcases desktop_step h with hsame | ⟨action, hperf, hact⟩
  · rw [hsame] at hrow
    exact absurd hrow hnew
  cases step_contents hact hw.check with
  | keeps houts =>
    rw [houts] at hrow
    exact absurd hrow hnew
  | projects hproj =>
    rcases hproj.notBehind.2.lt_or_eq with hraised | hequal
    · rw [(hproj.forgets hraised).1] at hrow
      cases hrow
    · rw [hproj.keeps hequal] at hrow
      exact absurd hrow hnew
  | stores houts =>
    rcases houts row hrow with hold | ⟨output, hload, hid, hallow⟩
    · exact absurd hold hnew
    simp only [AgentEventIngestor.outputCaptureAllowed, Bool.and_eq_true, beq_iff_eq,
      decide_eq_true_eq] at hallow
    cases op with
    | save | capture => exact hperf.elim
    | apply => cases hperf
    | ingest =>
      rcases hperf with heq | heq
      · cases heq
      · cases heq
        exact ⟨_, _, _, _, output, rfl, hload, hid, hallow⟩
    | other =>
      cases hperf
      obtain ⟨eng, hnext⟩ := h
      cases hnext

/-- A captured output carries the generation of the file. -/
theorem generation_of_capture {e : AgentEventEnvelopeV2} {captured : CapturePolicyState}
    {output : OutputProducedV2} (hread : w.file.readAuthority = .ok captured)
    (h : PolicyStep tools w (.capture e) w') (hload : e.payload = .outputProduced output) :
    output.captureGeneration = some captured.captureGeneration := by
  obtain ⟨eng, hnext⟩ := h
  simp only [PolicyOp.next, hread] at hnext
  split at hnext
  · rename_i hstamped
    simp only [stampedUnder, hload, Bool.and_eq_true, beq_iff_eq] at hstamped
    exact hstamped.2.1
  · cases hnext

/-- No claim takes the notice any more. -/
def NeverClaimed (tools : Tools) (id : Text) (w : PolicyWorld) : Prop :=
  ∀ (labels : List PolicyOp) (w₁ w₂ : PolicyWorld) (permitted : Bool) (now : Timestamp)
    (raw : OutboxRow), Run (PolicyStep tools) w labels w₁ →
    PolicyStep tools w₁ (.other (.claim permitted now)) w₂ →
    w₂.desktop.attempts = w₁.desktop.attempts ++ [raw] → raw.id ≠ id

/-- A notice that has ended is never claimed. -/
theorem neverClaimed_of_ended (hw : w.Sound) {r : OutboxRow}
    (hr : r ∈ w.desktop.store.notificationOutbox) (hended : r.status.live = false) :
    NeverClaimed tools r.id w := by
  intro labels w1 w2 permitted now raw hrun hclaim hraw
  obtain ⟨actions, hactions⟩ := desktop_run hrun
  rcases desktop_step hclaim with hsame | ⟨action, hperf, hact⟩
  · rw [hsame] at hraw
    simp at hraw
  · cases hperf
    exact ended_not_claimed hactions hw.check hr hended hact hraw

/-- What a step that narrows leaves. -/
theorem narrowing_step (hw : w.Sound) (h : PolicyStep tools w op w')
    (hnarrows : Narrows w.desktop.store w'.desktop.store) : w'.desktop.store.agentOutputs = [] ∧
      ∀ r ∈ w.desktop.store.notificationOutbox, r.eventKind.terminal = true →
        NeverClaimed tools r.id w' := by
  obtain ⟨state, hproj, hraised⟩ := raised_of_narrowed hw h hnarrows
  obtain ⟨hnone, hended⟩ := hproj.forgets hraised
  refine ⟨hnone, fun r hr hterm => ?_⟩
  rcases desktop_step h with hsame | ⟨action, _, hact⟩
  · rw [Narrows, hsame] at hnarrows
    rcases hnarrows with hlt | hlt
    · exact absurd hlt (lt_irrefl _)
    · exact absurd hlt (lt_irrefl _)
  obtain ⟨r', hr', hid, hmove⟩ := (step_moves hact hw.check).notices.kept r hr
  have hkind := (DesktopOp.move_life hmove).1.eventKind
  rw [← hid]
  refine neverClaimed_of_ended (hw.step h) hr' (hended r' hr' ?_)
  rw [hkind]
  exact hterm

end

/-- **Stored outputs obey the applied policy.**  In every run, an output is stored
only under the applied generation and mode; an output is not stored once a later
generation than the one it was captured under has been projected; and a
projection that narrows forgets all outputs and leaves no earlier notice of the
end of a run to be claimed. -/
theorem stored_outputs_obey_policy (tools : Tools) {w : PolicyWorld} {labels : List PolicyOp}
    (h : Run (PolicyStep tools) PolicyWorld.initial labels w) :
    (∀ op w', PolicyStep tools w op w' → StoresAllowed op w w') ∧
    (∀ (e : AgentEventEnvelopeV2) (captured state : CapturePolicyState) (now later : Timestamp)
      (w₁ w₂ w₃ w₄ w₅ : PolicyWorld) (between after : List PolicyOp) (file : PolicyFile)
      (settings : Projection) (checkpoint : SourceCheckpointUpdate),
      w.file.readAuthority = .ok captured → PolicyStep tools w (.capture e) w₁ →
      Run (PolicyStep tools) w₁ between w₂ → PolicyStep tools w₂ (.apply state now later) w₃ →
      AppliedFrom state w₃.desktop.store.desktopPrivacy →
      captured.captureGeneration < state.captureGeneration →
      Run (PolicyStep tools) w₃ after w₄ →
      PolicyStep tools w₄ (.ingest file settings e checkpoint) w₅ →
      w₅.desktop.store.agentOutputs ⊆ w₄.desktop.store.agentOutputs) ∧
    (∀ op w', PolicyStep tools w op w' → Narrows w.desktop.store w'.desktop.store →
      w'.desktop.store.agentOutputs = [] ∧
        ∀ r ∈ w.desktop.store.notificationOutbox, r.eventKind.terminal = true →
          NeverClaimed tools r.id w') := by
  have hw : w.Sound := sound_initial.run h
  refine ⟨fun op w' => storesAllowed_step hw, ?_, fun op w' => narrowing_step hw⟩
  intro e captured state now later w₁ w₂ w₃ w₄ w₅ between after file settings checkpoint hread
    hcapture hbetween happly happlied hlater hafter hingest row hrow
  have hw3 : w₃.Sound := ((hw.step hcapture).run hbetween).step happly
  by_contra hnew
  obtain ⟨_, _, _, _, output, hop, hpayload, _, hgeneration, _⟩ :=
    storesAllowed_step (hw3.run hafter) hingest row hrow hnew
  cases hop
  -- the output carries the generation of its capture, which is behind by now
  have hstamped : output.captureGeneration = some captured.captureGeneration :=
    generation_of_capture hread hcapture hpayload
  have hepoch := epoch_run hw3 hafter
  rw [happlied.generation] at hepoch
  rw [hstamped] at hgeneration
  rw [Option.some.inj hgeneration] at hlater
  exact absurd hlater (not_lt.mpr hepoch)

/-! ## A text captured between a save and its projection -/

/-- A policy that captures results in the given mode. -/
def sampleCapture (mode : ResultContentMode) : CapturePolicy :=
  { CapturePolicy.standard with resultContentMode := mode }

def sampleFull : CapturePolicyState := ⟨sampleCapture .fullFinal, 1, 0⟩

def sampleExcerpt : CapturePolicyState := ⟨sampleCapture .redactedExcerpt, 2, 1⟩

/-- The result of the run `r`, captured under a policy. -/
def sampleResult (eventId : String) (now : Timestamp) (state : CapturePolicyState) :
    AgentEventEnvelopeV2 :=
  { sampleEvent eventId now (.outputProduced
      { outputKind := .assistantFinal, text := text "x",
        contentMode := state.policy.resultContentMode, contentAvailable := true,
        sourceHash := some (sourceHashSha256 sampleTools.hashes (text "x")),
        captureGeneration := some state.captureGeneration }) with
    metadata := some ⟨text "b", state.revision, .userTurn, text "u"⟩ }

/-- Ingest a captured result once its policy is applied. -/
def sampleIngest (state : CapturePolicyState) (e : AgentEventEnvelopeV2) : PolicyOp :=
  .ingest (.saved state) ⟨policySnapshot state, false⟩ e (sampleCheckpoint e.observedAt)

def samplePolicyRun (w : PolicyWorld) (ops : List PolicyOp) : Option PolicyWorld :=
  replay (fun w op => op.next desktopSqlite sampleTools w) w ops

variable {w w' : PolicyWorld}

/-- A replayed sample is a run. -/
theorem run_of_samplePolicyRun {ops : List PolicyOp} (h : samplePolicyRun w ops = some w') :
    Run (PolicyStep sampleTools) w ops w' :=
  (run_of_replay h).mono fun _ _ _ hnext => ⟨desktopSqlite, hnext⟩

theorem step_of_samplePolicyRun {op : PolicyOp} (h : samplePolicyRun w [op] = some w') :
    PolicyStep sampleTools w op w' := by
  obtain ⟨_, hnext, hend⟩ := Option.bind_eq_some_iff.mp h
  cases hend
  exact ⟨desktopSqlite, hnext⟩

/-- Full results are captured and applied; a result is ingested, and excerpts are
saved but not applied. -/
def sampleSaves : List PolicyOp :=
  [.save (sampleCapture .fullFinal) 0 true, .apply sampleFull 0 0,
    sampleIngest sampleFull (sampleResult "a" 1 sampleFull),
    .save (sampleCapture .redactedExcerpt) 1 true]

/-- The applied policy narrows, decided. -/
def narrowsCheck (s s' : DesktopStore) : Bool :=
  s.desktopPrivacy.contentEpoch < s'.desktopPrivacy.contentEpoch ||
    s'.desktopPrivacy.captureMode.rank < s.desktopPrivacy.captureMode.rank

theorem narrows_of_check {s s' : DesktopStore} (h : narrowsCheck s s' = true) : Narrows s s' := by
  simpa [narrowsCheck, Narrows] using h

/-- A result captured before the policy narrowed is stored after it. -/
theorem sampleSaves_stored : ((samplePolicyRun .initial sampleSaves).any fun w =>
      !w.desktop.store.agentOutputs.isEmpty &&
      (samplePolicyRun w [.capture (sampleResult "b" 2 sampleExcerpt)]).any fun w1 =>
        (samplePolicyRun w1 [.apply sampleExcerpt 3 3]).any fun w2 =>
          narrowsCheck w1.desktop.store w2.desktop.store &&
          w2.desktop.store.agentOutputs.isEmpty &&
          (samplePolicyRun w2 [sampleIngest sampleExcerpt (sampleResult "b" 2 sampleExcerpt)]).any
            fun w3 => !w3.desktop.store.agentOutputs.isEmpty) = true := by
  decide +kernel

/-- **A text captured before a narrowing projection is stored after it.**  It was
captured when the narrower policy was saved and not yet projected. -/
theorem text_captured_before_narrowing_is_stored :
    ∃ (w w₁ w₂ w₃ : PolicyWorld) (row : AgentOutputRow),
      Run (PolicyStep sampleTools) .initial sampleSaves w ∧
      PolicyStep sampleTools w (.capture (sampleResult "b" 2 sampleExcerpt)) w₁ ∧
      PolicyStep sampleTools w₁ (.apply sampleExcerpt 3 3) w₂ ∧
      Narrows w₁.desktop.store w₂.desktop.store ∧
      PolicyStep sampleTools w₂ (sampleIngest sampleExcerpt (sampleResult "b" 2 sampleExcerpt)) w₃ ∧
      row ∈ w₃.desktop.store.agentOutputs ∧ row ∉ w₂.desktop.store.agentOutputs := by
  have h := sampleSaves_stored
  simp only [Option.any_eq_true, Bool.and_eq_true] at h
  obtain ⟨w, hrun, _, w₁, hcapture, w₂, happly, ⟨hnarrows, hempty⟩, w₃, hingest, hstored⟩ := h
  obtain ⟨row, hrow⟩ : ∃ row, row ∈ w₃.desktop.store.agentOutputs := by
    refine exists_mem_of_ne_nil _ fun hnil => ?_
    rw [hnil] at hstored
    cases hstored
  refine ⟨w, w₁, w₂, w₃, row, run_of_samplePolicyRun hrun, step_of_samplePolicyRun hcapture,
    step_of_samplePolicyRun happly, narrows_of_check hnarrows, step_of_samplePolicyRun hingest,
    hrow, ?_⟩
  rw [isEmpty_iff.mp hempty]
  exact not_mem_nil

/-- Narrowing the policy forgets what was stored. -/
theorem stored_outputs_obey_policy_sample : ∃ (w w₁ w₂ : PolicyWorld),
      Run (PolicyStep sampleTools) .initial sampleSaves w ∧ w.desktop.store.agentOutputs ≠ [] ∧
      PolicyStep sampleTools w (.capture (sampleResult "b" 2 sampleExcerpt)) w₁ ∧
      PolicyStep sampleTools w₁ (.apply sampleExcerpt 3 3) w₂ ∧
      w₂.desktop.store.agentOutputs = [] := by
  have h := sampleSaves_stored
  simp only [Option.any_eq_true, Bool.and_eq_true] at h
  obtain ⟨w, hrun, hfirst, w₁, hcapture, w₂, happly, ⟨hnarrows, _⟩, _⟩ := h
  have hstart : Run (PolicyStep sampleTools) .initial
      (sampleSaves ++ [.capture (sampleResult "b" 2 sampleExcerpt)]) w₁ :=
    (run_of_samplePolicyRun hrun).append (run_of_samplePolicyRun hcapture)
  refine ⟨w, w₁, w₂, run_of_samplePolicyRun hrun, fun hnil => ?_,
    step_of_samplePolicyRun hcapture, step_of_samplePolicyRun happly, ?_⟩
  · rw [hnil] at hfirst
    cases hfirst
  · exact ((stored_outputs_obey_policy sampleTools hstart).2.2 _ w₂
      (step_of_samplePolicyRun happly) (narrows_of_check hnarrows)).1

end PromptDock.Desktop
