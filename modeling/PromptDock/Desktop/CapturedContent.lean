import PromptDock.Desktop.DesktopRuns

/-!
# Captured content and the policy

A captured text carries the generation of the policy file at its capture.  The
ingestor stores it only under the generation that the database has applied, and
only up to the applied mode (`ingest_outputs`).  Projecting a raised generation
forgets every stored output and ends every notice of the end of a run
(`project_cases`).  `ContentStep` says what any step of the desktop may do to the
stored outputs and to the applied policy.
-/

namespace PromptDock.Desktop

open RowTable StoreAction TableStatement DesktopStore AgentEventIngestor StoreAction.Action

/-! ## What ingestion stores -/

/-- The scope of everything but outputs and privacy. -/
def keepingContent : Scope := ⟨true, false, false, fun _ => True⟩

variable {engine : DesktopEngine} {tools : Tools} {s s' : DesktopStore}

section

variable {e : AgentEventEnvelopeV2} {policy : AgentNotificationPolicy}

/-- All of an ingestion but its outputs keeps the content. -/
theorem keepingContent_rules (s0 : DesktopStore) :
    IngestRules engine tools (Reached (Within keepingContent) s0) := by
  have fits {α : Type} {m : Desk α} (h : Acts keepingContent m) :
      Fits (Reached (Within keepingContent) s0) m :=
    Keeps.paired (Within.trans _) Eq.refl h
  have hruns : ∀ s rows, (runTable.put s rows).check = true →
      Within keepingContent s (runTable.put s rows) :=
    fun s rows hchk => .of_eq hchk rfl rfl nofun (fun _ => rfl) fun _ => rfl
  exact
    { presenting engine s0 with
      usage := fun _ => fits (.of_reads (latestCodexUsage_reads tools _))
      append := fun e => Keeps.paired (Within.trans _) SameAppend.refl
        (EventStore.append_acts engine tools e)
      checkpoint := fun _ _ => fits (SourceRepository.checkpoint_acts engine tools _ _)
      updateRun := fun _ _ => fits (update_keeps_put hruns _ _)
      insertRun := fun _ => fits (insert_keeps_put hruns _)
      attention := fun _ => fits (aside_attention.insert _)
      notice := fun _ _ s t h _ =>
        fits (OutboxRepository.recordNotice_acts engine _ trivial) s t h }

/-- Reducing a run stores no output. -/
theorem reduceAndStore_acts (quiet : Int) :
    Acts keepingContent (reduceAndStore engine tools e quiet) :=
  Paired.keeps (Within.refl _) fun s0 => (keepingContent_rules s0).reduceAndStore e quiet

variable {eventRowId sourceKey : Text} {ingestedAt : Timestamp} {outcome : CommittedOutcome}

/-- Events other than outputs leave the stored outputs alone. -/
theorem projectPayload_acts (hkind : e.payload.kind ≠ .outputProduced) :
    Acts keepingContent (projectPayload engine tools eventRowId sourceKey e policy ingestedAt) :=
  Paired.keeps (Within.refl _) fun s0 =>
    (keepingContent_rules s0).projectPayload e policy (fun h => absurd h hkind) _ _ _

/-- Every output in `s'` was there in `s`, or it is the output of the event and the
privacy row of `s` allows it. -/
def OutputsAllowed (e : AgentEventEnvelopeV2) (s s' : DesktopStore) : Prop :=
  ∀ row ∈ s'.agentOutputs, row ∈ s.agentOutputs ∨
    ∃ output, e.payload = .outputProduced output ∧ row.eventId = e.eventId ∧
      outputCaptureAllowed s output.captureGeneration output.contentMode = true

theorem OutputsAllowed.of_eq (h : s'.agentOutputs = s.agentOutputs) : OutputsAllowed e s s' := by
  intro row hrow
  rw [h] at hrow
  exact .inl hrow

/-- Only the middle part stores outputs. -/
theorem OutputsAllowed.around {s1 s2 : DesktopStore} (hpre : Within keepingContent s s1)
    (h : OutputsAllowed e s1 s2) (haft : Within keepingContent s2 s') : OutputsAllowed e s s' := by
  intro row hrow
  rw [haft.outputs rfl] at hrow
  rcases h row hrow with hold | ⟨output, hload, hid, hallow⟩
  · rw [hpre.outputs rfl] at hold
    exact .inl hold
  refine .inr ⟨output, hload, hid, ?_⟩
  rw [outputCaptureAllowed, ← hpre.privacy rfl]
  exact hallow

/-- An appended output belongs to the envelope's event. -/
theorem append_outputs {output : OutputProducedV2} {u : Unit}
    (h : OutputRepository.append engine tools sourceKey e output s = (.ok u, s')) :
    ∀ row ∈ s'.agentOutputs, row ∈ s.agentOutputs ∨ row.eventId = e.eventId := by
  unfold OutputRepository.append at h
  cases hkey : e.correlation.runKey with
  | none =>
    rw [hkey] at h
    cases h
  | some =>
    rw [hkey] at h
    simp only [read_bind_run] at h
    cases hfind : s.agentOutputs.find? fun r =>
        r.sourceKey == sourceKey && r.eventId == e.eventId with
    | some stored =>
      rw [hfind] at h
      simp only at h
      split at h
      · cases h
      · obtain rfl : s = s' := (Prod.mk.inj h).2
        exact fun row => .inl
    | none =>
      rw [hfind] at h
      obtain ⟨_, s1, hcap, hrest⟩ := bind_eq_ok.mp h
      rw [(checkCapacity_reads _).eq_of_ok hcap] at hrest
      obtain ⟨_, s2, hprotect, hrec⟩ := bind_eq_ok.mp hrest
      rw [(Reads.lift _).eq_of_ok hprotect] at hrec
      obtain ⟨_, rfl⟩ := execute_eq_ok.mp hrec
      exact forall_mem_snoc (fun _ => .inl) (.inr rfl)

/-- Outputs are stored only as the policy allows. -/
theorem projectPayload_outputs
    (h : projectPayload engine tools eventRowId sourceKey e policy ingestedAt s =
      (.ok outcome, s')) : OutputsAllowed e s s' := by
  by_cases hkind : e.payload.kind = .outputProduced
  · cases hload : e.payload with
    | outputProduced output =>
      unfold projectPayload at h
      simp only [hload] at h
      obtain ⟨t, s1, hreduce, hreop⟩ := bind_eq_ok.mp h
      obtain ⟨_, s₂, hcanc, hstore⟩ := bind_eq_ok.mp hreop
      have hpre : Within keepingContent s s₂ :=
        ((reduceAndStore_acts _).within hreduce).trans _ _ _ _
          (applyReopenSideEffects_acts.within hcanc)
      refine OutputsAllowed.around hpre ?_ (Within.refl _ s')
      simp only [read_bind_run] at hstore
      split at hstore
      · rename_i hallow
        obtain ⟨_, happ, _⟩ := bind_pure_eq_ok.mp hstore
        intro row hrow
        rcases append_outputs happ row hrow with hold | hid
        · exact .inl hold
        · exact .inr ⟨output, hload, hid, hallow⟩
      · obtain rfl : s₂ = s' := (Prod.mk.inj hstore).2
        exact .of_eq rfl
    | promptSubmitted | runStarted | runSettling | runCompleted | runFailed | runInterrupted
    | runCancelled | attentionRequired =>
      rw [hload] at hkind
      cases hkind
  · exact .of_eq (((projectPayload_acts hkind).within h).outputs rfl)

/-- So it is for a whole ingestion. -/
theorem ingest_outputs {checkpoint : SourceCheckpointUpdate}
    (h : ingest engine tools e policy checkpoint s = (.ok outcome, s')) :
    OutputsAllowed e s s' := by
  obtain ⟨s1, s2, hpre, haft, hproj⟩ := ingest_parts h
  refine OutputsAllowed.around (hpre.mono (Scope.aside_le _)) ?_ (haft.mono (Scope.aside_le _))
  rcases hproj with rfl | ⟨_, _, _, hload⟩
  · exact .of_eq rfl
  · exact projectPayload_outputs hload

end

/-! ## What a projection does -/

/-- The privacy row holds what a policy says about content. -/
structure AppliedFrom (state : CapturePolicyState) (privacy : PrivacyRow) : Prop where
  revision : privacy.policyRevision = state.revision
  generation : privacy.contentEpoch = state.captureGeneration
  mode : privacy.captureMode = state.policy.resultContentMode

/-- No notice of a kind in `kinds` is live. -/
def AllEnded (kinds : NotificationEventKind → Bool) (s : DesktopStore) : Prop :=
  ∀ r ∈ s.notificationOutbox, kinds r.eventKind = true → r.status.live = false

/-- A projection that committed. -/
structure Projected (state : CapturePolicyState) (s s' : DesktopStore) : Prop where
  notBehind : s.desktopPrivacy.policyRevision ≤ state.revision ∧
    s.desktopPrivacy.contentEpoch ≤ state.captureGeneration
  applied : AppliedFrom state s'.desktopPrivacy
  keeps : s.desktopPrivacy.contentEpoch = state.captureGeneration →
    s'.agentOutputs = s.agentOutputs
  forgets : s.desktopPrivacy.contentEpoch < state.captureGeneration →
    s'.agentOutputs = [] ∧ AllEnded NotificationEventKind.terminal s'

section

variable {kinds : NotificationEventKind → Bool}

/-- Ended notices stay ended while a policy is applied. -/
theorem AllEnded.within (hended : AllEnded kinds s) (h : Within projecting s s') :
    AllEnded kinds s' := by
  intro r' hr' hkind
  cases hlive : r'.status.live with
  | false => rfl
  | true =>
    rcases h.notices.rows r' hr' with ⟨r, hr, _, hmove⟩ | ⟨_, _, hfalse, _⟩
    · obtain rfl := hmove.eq_of_live hlive
      rw [hended _ hr hkind] at hlive
      exact hlive.symm
    · exact hfalse.elim

variable {now : Timestamp} {message : String} {u : Unit}

/-- Cancelling ends all notices of these kinds. -/
theorem cancelLive_ends (h : DesktopPolicy.cancelLive engine kinds now message s = (.ok u, s')) :
    AllEnded kinds s' := by
  obtain ⟨_, hupd, _⟩ := bind_pure_eq_ok.mp h
  obtain ⟨_, _, rfl⟩ := update_eq_ok.mp hupd
  intro r' hr' hkind
  rcases mem_updateWhere.mp hr' with ⟨r, _, ⟨_, rfl⟩ | ⟨hg, rfl⟩⟩
  · rfl
  cases hlive : r'.status.live with
  | false => rfl
  | true => simp [hlive, hkind] at hg

/-- A conditional step, by cases. -/
theorem onlyIf_eq_ok {cond : Bool} {m : Desk Unit} : onlyIf cond m s = (.ok u, s') ↔
      if cond then m s = (.ok u, s') else s' = s := by
  cases cond <;> simp [onlyIf, eq_comm]

/-- Ending notices leaves outputs and privacy alone. -/
theorem cancelLive_content (h : DesktopPolicy.cancelLive engine kinds now message s = (.ok u, s')) :
    s'.agentOutputs = s.agentOutputs ∧ s'.desktopPrivacy = s.desktopPrivacy := by
  have hin : Within Scope.aside s s' := Acts.within (cancelLive_acts _ _ _) h
  exact ⟨hin.outputs rfl, hin.privacy rfl⟩

/-- The part of a projection that a raised generation adds. -/
theorem narrowing_effect {raised : Bool} (h : onlyIf raised (do
      DesktopStore.forgetOutputs engine
      DesktopPolicy.cancelLive engine kinds now message) s = (.ok u, s')) :
    s'.desktopPrivacy = s.desktopPrivacy ∧
      (raised = false → s'.agentOutputs = s.agentOutputs) ∧
      (raised = true → s'.agentOutputs = [] ∧ AllEnded kinds s') := by
  rw [onlyIf_eq_ok] at h
  cases raised with
  | false =>
    obtain rfl := h
    exact ⟨rfl, fun _ => rfl, nofun⟩
  | true =>
    obtain ⟨_, s1, hforget, hcanc⟩ := bind_eq_ok.mp h
    obtain ⟨_, rfl⟩ := execute_eq_ok.mp hforget
    obtain ⟨houts, hpriv⟩ := cancelLive_content hcanc
    exact ⟨hpriv, nofun, fun _ => ⟨houts, cancelLive_ends hcanc⟩⟩

/-- The last part: the privacy row is the policy's, written or as it was. -/
theorem applyPrivacy_effect {state : CapturePolicyState} {privacy : PrivacyRow}
    (hpriv : s.desktopPrivacy = privacy) (h : onlyIf (privacy.policyRevision != state.revision ||
          privacy.contentEpoch != state.captureGeneration ||
          privacy.captureMode != state.policy.resultContentMode ||
          privacy.taskInputEnabled != state.policy.includeTaskInput)
        (execute engine (DesktopPolicy.applyPrivacy state) : Desk Unit) s = (.ok u, s')) :
    AppliedFrom state s'.desktopPrivacy ∧ s'.agentOutputs = s.agentOutputs := by
  rw [onlyIf_eq_ok] at h
  split at h
  · obtain ⟨_, rfl⟩ := execute_eq_ok.mp h
    exact ⟨⟨rfl, rfl, rfl⟩, rfl⟩
  rename_i hsame
  obtain rfl := h
  rw [← hpriv] at hsame
  simp only [Bool.or_eq_true, bne_iff_ne, not_or, not_not] at hsame
  exact ⟨⟨hsame.1.1.1, hsame.1.1.2, hsame.1.2⟩, rfl⟩

/-- A projection changes nothing, or it commits. -/
theorem project_cases (engine : DesktopEngine) (state : CapturePolicyState)
    (now later : Timestamp) (s : DesktopStore) :
    (DesktopPolicy.project engine state now later s).2 = s ∨
      Projected state s (DesktopPolicy.project engine state now later s).2 := by
  unfold DesktopPolicy.project
  rcases hbody : (_ : Desk Unit) s with ⟨error | u, s'⟩
  · rw [allOrNothing_of_error hbody]
    exact .inl rfl
  rw [allOrNothing_of_ok hbody]
  simp only [read_bind_run] at hbody
  split at hbody
  · cases hbody
  rename_i hbehind
  obtain ⟨_, s1, hdeselect, hrest1⟩ := bind_eq_ok.mp hbody
  obtain ⟨_, s2, hnarrow, hrest2⟩ := bind_eq_ok.mp hrest1
  obtain ⟨_, s3, htask, happly⟩ := bind_eq_ok.mp hrest2
  obtain ⟨houts1, hpriv1⟩ := cancelLive_content hdeselect
  obtain ⟨hpriv2, hkept, hforgotten⟩ := narrowing_effect hnarrow
  have hin3 : Within projecting s2 s3 := Acts.within (.onlyIf (cancelLive_acts _ _ _)) htask
  have haside3 : Within Scope.aside s2 s3 := Acts.within (.onlyIf (cancelLive_acts _ _ _)) htask
  have hpriv3 : s3.desktopPrivacy = s.desktopPrivacy :=
    (haside3.privacy rfl).trans (hpriv2.trans hpriv1)
  obtain ⟨happ, houts4⟩ := applyPrivacy_effect hpriv3 happly
  have hin4 : Within projecting s3 s' := Acts.within (.onlyIf (applyPrivacy_acts state)) happly
  have houts : s'.agentOutputs = s2.agentOutputs := houts4.trans (haside3.outputs rfl)
  refine .inr ⟨⟨?_, ?_⟩, happ, fun heq => ?_, fun hlt => ?_⟩
  · exact not_lt.mp fun hlt => hbehind (.inl hlt)
  · exact not_lt.mp fun hlt => hbehind (.inr hlt)
  · rw [houts, hkept (decide_eq_false (not_lt.mpr heq.ge)), houts1]
  · obtain ⟨hnone, hended⟩ := hforgotten (decide_eq_true hlt)
    exact ⟨houts.trans hnone, (hended.within hin3).within hin4⟩

end

/-! ## What a step does to content -/

/-- What an operation does to the stored outputs and to the privacy row. -/
inductive ContentStep : DesktopOp → DesktopStore → DesktopStore → Prop where
  | keeps {op : DesktopOp} {s s' : DesktopStore} (outputs : s'.agentOutputs = s.agentOutputs)
      (privacy : s'.desktopPrivacy = s.desktopPrivacy) : ContentStep op s s'
  | stores {policy : Except AppError AgentNotificationPolicy} {e : AgentEventEnvelopeV2}
      {checkpoint : SourceCheckpointUpdate} {s s' : DesktopStore}
      (outputs : OutputsAllowed e s s') (privacy : s'.desktopPrivacy = s.desktopPrivacy) :
      ContentStep (.process policy e checkpoint) s s'
  | projects {state : CapturePolicyState} {now later : Timestamp} {s s' : DesktopStore}
      (projected : Projected state s s') : ContentStep (.project state now later) s s'

section

variable {w w' : DesktopWorld} {op : DesktopOp}

/-- A change that leaves outputs and policy alone. -/
theorem ContentStep.of_within (scope : Scope) (houts : scope.outputs = false)
    (hpriv : scope.privacy = false) (h : Within scope s s') : ContentStep op s s' :=
  .keeps (h.outputs houts) (h.privacy hpriv)

/-- An ingestion does not change the applied policy. -/
theorem IngestEffect.privacy {e : AgentEventEnvelopeV2} {quiet : Int}
    (h : IngestEffect e quiet s s') : s'.desktopPrivacy = s.desktopPrivacy := by
  cases h with
  | attends h => exact h.privacy rfl
  | reduces runKey merged t _ _ _ effect => exact effect.within.privacy rfl

/-- **What one operation does to stored content**. -/
theorem step_contents (h : DesktopStep tools w op w') (hs : w.store.check = true) :
    ContentStep op w.store w'.store := by
  cases hop : op.delivers with
  | true =>
    rw [(delivery_moves h hop).rest]
    exact .keeps rfl rfl
  | false =>
    obtain ⟨engine, hnext⟩ := h
    cases op with
    | process policy e checkpoint =>
      cases hnext
      rcases process_cases engine tools policy e checkpoint w.store with
        hsame | ⟨settings, outcome, _, hing⟩
      · exact .keeps (congrArg DesktopStore.agentOutputs hsame)
          (congrArg DesktopStore.desktopPrivacy hsame)
      · exact .stores (ingest_outputs hing) (ingest_effect hs hing).privacy
    | passOver =>
      cases hnext
      refine .of_within Scope.aside rfl rfl ?_
      refine Acts.allOrNothing (.bind ?_ fun _ => .pure _) w.store
      exact SourceRepository.checkpoint_acts engine tools _ _
    | finalize =>
      cases hnext
      refine .of_within keepingContent rfl rfl ?_
      refine finalizeBatch_relates (R := Within keepingContent) (Within.refl _)
        (Within.trans _) (fun run s s' _ _ h => ?_) hs
      refine h.within.mono ?_
      exact ⟨nofun, fun _ => rfl, fun _ => rfl, fun _ _ => trivial⟩
    | project state now later =>
      cases hnext
      rcases project_cases engine state now later w.store with hsame | hproj
      · exact .keeps (congrArg DesktopStore.agentOutputs hsame)
          (congrArg DesktopStore.desktopPrivacy hsame)
      · exact .projects hproj
    | enqueueControl =>
      cases hnext
      refine .of_within keepingContent rfl rfl ?_
      exact OutboxRepository.enqueueControl_acts engine tools _ _ _ _ (fun _ _ => trivial) w.store
    | stop =>
      cases hnext
      exact .keeps rfl rfl
    | expireDue | claim | finish | recoverStale | retryBlocked => cases hop

end

end PromptDock.Desktop
