import PromptDock.Desktop.DesktopRuns

/-!
# Histories of one run

The record of a run is moved by the events that are reduced into it and by the
finalizer, in any order and at any times.  `recordAfter` is the record after
such a history, starting from no stored run.

`Reduces` says once what a reduced event can do.  From it follow the shape of
every record (`WellFormed`), which end of a run wins (`FirstHighest`), and when
a record passes the checks of its table.
-/

namespace PromptDock.Desktop

open List Option

/-! ## Records along a history -/

/-- What may happen to the record of a run. -/
inductive RunInput where
  | event (e : AgentEventEnvelopeV2) (completionQuietMs : Int)
  | finalize (now : Timestamp)

/-- The record after one input.  An event that is refused and a finalization
that is not due leave it. -/
def nextRecord (current : Option AgentRunRecord) : RunInput → Option AgentRunRecord
  | .event e quiet =>
    match reduceRunWithQuiet current e quiet with
    | .ok t => some t.run
    | .error _ => current
  | .finalize now => current.map fun run => (finalizeDueRun run now).getD run

def recordAfter (inputs : List RunInput) : Option AgentRunRecord :=
  inputs.foldl nextRecord none

/-- How a run ended: with which outcome, how surely, and when. -/
structure RunEnd where
  status : RunStatus
  outcome : AgentOutcome
  confidence : CompletionConfidence
  endedAt : Option Timestamp
deriving DecidableEq

def RunEnd.rank (d : RunEnd) : Nat := confidenceRank d.confidence

/-- The end that a record shows. -/
def endOf (run : AgentRunRecord) : RunEnd :=
  ⟨run.status, run.outcome, run.completionConfidence, terminalAt run⟩

/-- The end that an event declares.  A completion counts only with authority. -/
def declaredEnd (e : AgentEventEnvelopeV2) : Option RunEnd :=
  match e.payload with
  | .runCompleted confidence =>
    if confidence = .authoritative then
      some ⟨.completed, .success, confidence, some e.occurredAt⟩
    else none
  | .runFailed confidence => some ⟨.failed, .failure, confidence, some e.occurredAt⟩
  | .runInterrupted confidence =>
    some ⟨.interrupted, .interrupted, confidence, some e.occurredAt⟩
  | .runCancelled confidence => some ⟨.cancelled, .cancelled, confidence, some e.occurredAt⟩
  | _ => none

/-- The event names a run, and nothing about it contradicts the run on record. -/
def Applicable (current : Option AgentRunRecord) (e : AgentEventEnvelopeV2) : Prop :=
  e.correlation.runKey.isSome = true ∧ ∀ run ∈ current, Matches run e

instance (current : Option AgentRunRecord) (e : AgentEventEnvelopeV2) :
    Decidable (Applicable current e) :=
  inferInstanceAs (Decidable (_ ∧ _))

/-- The end that an input declares, if it is an applicable event. -/
def applicableEnd (current : Option AgentRunRecord) : RunInput → Option RunEnd
  | .event e _ => if Applicable current e then declaredEnd e else none
  | .finalize _ => none

/-- The ends that a history declares, in the order in which they arrive. -/
def applicableEnds (current : Option AgentRunRecord) : List RunInput → List RunEnd
  | [] => []
  | input :: inputs =>
    (applicableEnd current input).toList ++ applicableEnds (nextRecord current input) inputs

/-- An event about the run `r`, one that nobody waits for. -/
def sampleInput (occurredAt : Timestamp) (payload : AgentEventPayloadV2) : RunInput :=
  .event (sampleEvent "a" occurredAt payload) 0

/-- A run that fails for sure, between two reports that do not count. -/
def failedHistory : List RunInput :=
  [sampleInput 0 (.runStarted ⟨text "c", none, none, none, none⟩),
    sampleInput 1 (.runSettling ⟨.agentStopHook, none⟩),
    .finalize 1,
    sampleInput 2 (.runInterrupted .inferred),
    sampleInput 4 (.runFailed .definitiveAdapter),
    sampleInput 3 (.runCancelled .definitiveAdapter)]

/-! ## What one input does -/

/-- The completion that is inferred when a run stayed quiet. -/
def inferredCompletion (run : AgentRunRecord) : AgentRunRecord :=
  { run with
    status := .completed, outcome := .unknown, completionConfidence := .inferred,
    completedAt := some (max (run.settlingAt.getD run.lastEventAt) run.lastEventAt),
    failedAt := none, interruptedAt := none, cancelledAt := none, settleNotBefore := none }

/-- What a reduced event can do to the run it belongs to. -/
inductive Reduces (run : AgentRunRecord) (e : AgentEventEnvelopeV2) (quiet : Int) :
    AgentRunRecord → Prop where
  | started {started : RunStartedV2} (hpayload : e.payload = .runStarted started) :
      Reduces run e quiet (applyRunStarted run e started)
  | settled {settling : RunSettlingV2} (hpayload : e.payload = .runSettling settling) :
      Reduces run e quiet (applyRunSettling run e quiet)
  | active {output : OutputProducedV2} (hpayload : e.payload = .outputProduced output) :
      Reduces run e quiet (applyActivity run e)
  | ended {d : RunEnd} (hdeclared : declaredEnd e = some d) :
      Reduces run e quiet (applyTerminal run e d.status d.outcome d.confidence)
  | unsure {confidence : CompletionConfidence} (hpayload : e.payload = .runCompleted confidence)
      (hunsure : confidence ≠ .authoritative) : Reduces run e quiet run

variable {run run' merged : AgentRunRecord} {e : AgentEventEnvelopeV2} {quiet : Int}

/-- The reducer takes one of the steps. -/
theorem reduceMerged_reduces {t : RunTransition} (h : reduceMerged run e quiet = .ok t) :
    Reduces run e quiet t.run := by
  unfold reduceMerged at h
  cases hload : e.payload <;> simp [hload] at h
  case runStarted => exact h ▸ .started hload
  case runSettling => exact h ▸ .settled hload
  case outputProduced => exact h ▸ .active hload
  case runCompleted confidence =>
    by_cases hsure : confidence = .authoritative
    · subst h hsure
      exact .ended (d := ⟨.completed, .success, .authoritative, some e.occurredAt⟩)
        (by simp [declaredEnd, hload])
    have hrun : applyTerminal run e .completed .success confidence = run :=
      applyTerminal_of_not (by simp [terminalApplies, hsure])
    have ht : t.run = run := h ▸ hrun
    exact ht ▸ .unsure hload hsure
  case runFailed confidence =>
    exact h ▸ .ended (d := ⟨.failed, .failure, confidence, some e.occurredAt⟩)
      (by simp [declaredEnd, hload])
  case runInterrupted confidence =>
    exact h ▸ .ended (d := ⟨.interrupted, .interrupted, confidence, some e.occurredAt⟩)
      (by simp [declaredEnd, hload])
  case runCancelled confidence =>
    exact h ▸ .ended (d := ⟨.cancelled, .cancelled, confidence, some e.occurredAt⟩)
      (by simp [declaredEnd, hload])

/-- An event is applicable exactly if it has a run to be reduced into. -/
theorem applicable_iff {current : Option AgentRunRecord} :
    Applicable current e ↔ ∃ merged, mergeRunIdentity current e = .ok merged := by
  simp only [Applicable, isSome_iff_exists, mergeRunIdentity_eq_ok]
  constructor
  · rintro ⟨⟨key, hkey⟩, hmatch⟩
    cases current with
    | none => exact ⟨_, key, hkey, .inl ⟨rfl, rfl⟩⟩
    | some run => exact ⟨_, key, hkey, .inr ⟨run, rfl, hmatch run rfl, rfl⟩⟩
  · rintro ⟨merged, key, hkey, ⟨rfl, _⟩ | ⟨run, rfl, hmatch, _⟩⟩
    · exact ⟨⟨key, hkey⟩, fun _ h => nomatch h⟩
    · refine ⟨⟨key, hkey⟩, fun run' h => ?_⟩
      cases h
      exact hmatch

/-- Whatever declares an end and is applicable is reduced. -/
theorem applicableEnd_of_merged {current : Option AgentRunRecord}
    (h : mergeRunIdentity current e = .ok run) :
    applicableEnd current (.event e quiet) = declaredEnd e :=
  if_pos (applicable_iff.mpr ⟨run, h⟩)

/-- A refused event declares no end. -/
theorem applicableEnd_of_refused {current : Option AgentRunRecord} {error : RunStateError}
    (h : reduceRunWithQuiet current e quiet = .error error) :
    applicableEnd current (.event e quiet) = none := by
  simp only [applicableEnd]
  split
  next happ =>
    obtain ⟨merged, hmerge⟩ := applicable_iff.mp happ
    simp only [reduceRunWithQuiet, hmerge, bind, Except.bind, reduceMerged] at h
    unfold declaredEnd
    cases hload : e.payload <;> simp_all
  next => rfl

/-- What one input can do to the record. -/
inductive RecordStep (current : Option AgentRunRecord) : RunInput → Option AgentRunRecord → Prop
    where
  | kept {input : RunInput} (hend : applicableEnd current input = none) :
      RecordStep current input current
  | reduced {e : AgentEventEnvelopeV2} {quiet : Int} {merged run' : AgentRunRecord}
      (hmerged : mergeRunIdentity current e = .ok merged)
      (hreduces : Reduces merged e quiet run')
      (hend : applicableEnd current (.event e quiet) = declaredEnd e) :
      RecordStep current (.event e quiet) (some run')
  | finalized {run : AgentRunRecord} {now : Timestamp} (hcurrent : current = some run)
      (hdue : dueSettling now run = true) :
      RecordStep current (.finalize now) (some (inferredCompletion run))

/-- Every input is one step of the record. -/
theorem nextRecord_step (current : Option AgentRunRecord) (input : RunInput) :
    RecordStep current input (nextRecord current input) := by
  cases input with
  | event e quiet =>
    cases hreduce : reduceRunWithQuiet current e quiet with
    | error =>
      have hnext : nextRecord current (.event e quiet) = current := by simp [nextRecord, hreduce]
      rw [hnext]
      exact .kept (applicableEnd_of_refused hreduce)
    | ok t =>
      obtain ⟨merged, hmerge, ht⟩ := reduceRunWithQuiet_eq_ok.mp hreduce
      have hnext : nextRecord current (.event e quiet) = some t.run := by simp [nextRecord, hreduce]
      rw [hnext]
      exact .reduced hmerge (reduceMerged_reduces ht) (applicableEnd_of_merged hmerge)
  | finalize now =>
    cases current with
    | none => exact .kept rfl
    | some run =>
      cases hdue : dueSettling now run with
      | false =>
        have hnext : nextRecord (some run) (.finalize now) = some run := by
          simp [nextRecord, finalizeDueRun, hdue]
        rw [hnext]
        exact .kept rfl
      | true =>
        have hnext : nextRecord (some run) (.finalize now) = some (inferredCompletion run) := by
          simp [nextRecord, finalizeDueRun, hdue, inferredCompletion]
        rw [hnext]
        exact .finalized rfl hdue

variable {inputs : List RunInput} {current : Option AgentRunRecord} {d : RunEnd}

/-- What every input keeps, a history keeps. -/
theorem recordFrom_invariant {I : Option AgentRunRecord → Prop}
    (hstep : ∀ current, ∀ input ∈ inputs, I current → I (nextRecord current input))
    (h : I current) : I (inputs.foldl nextRecord current) := by
  induction inputs generalizing current with
  | nil => exact h
  | cons input inputs ih =>
    have hnext := hstep current input mem_cons_self h
    exact ih (fun current input hinput => hstep current input (mem_cons_of_mem _ hinput)) hnext

/-- A history goes on from the record so far. -/
theorem recordAfter_append (before after : List RunInput) :
    recordAfter (before ++ after) = after.foldl nextRecord (recordAfter before) := by
  simp [recordAfter]

/-! ## The end of a run -/

/-- A declared end is at the time of its event, and a completion is certain. -/
structure DeclaredShape (e : AgentEventEnvelopeV2) (d : RunEnd) : Prop where
  endedAt : d.endedAt = some e.occurredAt
  status : d.status = .completed ∨ d.status = .failed ∨ d.status = .interrupted ∨
    d.status = .cancelled
  completed : d.status = .completed → d.confidence = .authoritative ∧ d.outcome = .success
  payload : d.status = .completed ↔ e.payload = .runCompleted .authoritative

theorem declaredEnd_shape (h : declaredEnd e = some d) : DeclaredShape e d := by
  unfold declaredEnd at h
  split at h
  · rename_i confidence hload
    split at h
    · rename_i hsure
      cases h
      exact ⟨rfl, .inl rfl, fun _ => ⟨hsure, rfl⟩, by simp [hload, hsure]⟩
    · cases h
  iterate 3
    rename_i confidence hload
    cases h
    exact ⟨rfl, by simp, nofun, by simp [hload]⟩
  · cases h

/-- An end that takes effect is the end that the record then shows. -/
theorem endOf_applyTerminal (h : declaredEnd e = some d)
    (happ : terminalApplies run d.status d.confidence = true) :
    endOf (applyTerminal run e d.status d.outcome d.confidence) = d := by
  obtain ⟨htime, hstat, _, _⟩ := declaredEnd_shape h
  obtain ⟨status, outcome, confidence, endedAt⟩ := d
  obtain rfl : endedAt = some e.occurredAt := htime
  rcases hstat with rfl | rfl | rfl | rfl <;> simp [applyTerminal, happ, endOf, terminalAt]

/-- Whether an end absorbs can be seen from the end. -/
theorem isAbsorbingTerminal_congr (h : endOf run' = endOf run) :
    isAbsorbingTerminal run' = isAbsorbingTerminal run := by
  have hstat : run'.status = run.status := congrArg RunEnd.status h
  have hconf : run'.completionConfidence = run.completionConfidence := congrArg RunEnd.confidence h
  simp [isAbsorbingTerminal, canReopenInferred, hstat, hconf]

/-- A declared end absorbs. -/
theorem isAbsorbingTerminal_of_declared (h : declaredEnd e = some d) (hend : endOf run = d) :
    isAbsorbingTerminal run = true := by
  obtain ⟨_, hstat, hdone, _⟩ := declaredEnd_shape h
  have hrun : run.status = d.status := congrArg RunEnd.status hend
  have hconf : run.completionConfidence = d.confidence := congrArg RunEnd.confidence hend
  rcases hstat with hs | hs | hs | hs
  · simp [isAbsorbingTerminal, canReopenInferred, isTerminal, hrun, hs, hconf, (hdone hs).1]
  all_goals simp [isAbsorbingTerminal, canReopenInferred, isTerminal, hrun, hs]

/-- A declared end takes effect or changes nothing. -/
theorem Reduces.end_of_declared (h : Reduces run e quiet run') (hdecl : declaredEnd e = some d) :
    endOf run' = if terminalApplies run d.status d.confidence then d else endOf run := by
  cases h with
  | started hload | settled hload | active hload => simp [declaredEnd, hload] at hdecl
  | unsure hload hunsure => simp [declaredEnd, hload, hunsure] at hdecl
  | @ended d' hd' =>
    obtain rfl : d' = d := some.inj (hd'.symm.trans hdecl)
    cases happ : terminalApplies run d'.status d'.confidence with
    | true => exact endOf_applyTerminal hdecl happ
    | false => simp [applyTerminal_of_not happ]

/-- Every other event reopens the run, unless its end is final. -/
theorem Reduces.end_of_none (h : Reduces run e quiet run') (hdecl : declaredEnd e = none) :
    endOf run' = endOf run ∨
      (isAbsorbingTerminal run = false ∧ isTerminal run'.status = false) := by
  cases habs : isAbsorbingTerminal run with
  | true =>
    cases h with
    | started => exact .inl (by simp [applyRunStarted, habs, endOf, terminalAt])
    | settled | active => exact .inl (by simp [applyRunSettling, applyActivity, habs])
    | ended hd => rw [hd] at hdecl; cases hdecl
    | unsure => exact .inl rfl
  | false =>
    cases h with
    | started | settled | active =>
      simp [applyRunStarted, applyRunSettling, applyActivity, habs, reopenRunning, isTerminal]
    | ended hd => rw [hd] at hdecl; cases hdecl
    | unsure => exact .inl rfl

/-- An event finds the run as it is stored, or a run that has only begun. -/
theorem endOf_merged (h : mergeRunIdentity current e = .ok merged) :
    (current = none ∧ isTerminal merged.status = false) ∨
      ∃ run, current = some run ∧ endOf merged = endOf run := by
  obtain ⟨key, _, ⟨hnone, rfl⟩ | ⟨run, hrun, _, rfl⟩⟩ := mergeRunIdentity_eq_ok.mp h
  · exact .inl ⟨hnone, rfl⟩
  · exact .inr ⟨run, hrun, rfl⟩

/-- The record shows no end of rank `r` or higher. -/
def EndsBelow (r : Nat) (current : Option AgentRunRecord) : Prop :=
  ∀ run, current = some run → isTerminal run.status = true →
    confidenceRank run.completionConfidence < r

variable {r : Nat} {stored : Option Timestamp} {input : RunInput} {moved : Option AgentRunRecord}

theorem EndsBelow.congr (h : EndsBelow r (some run)) (hend : endOf run' = endOf run) :
    EndsBelow r (some run') := by
  rintro _ ⟨⟩ hterm
  have hstat : run'.status = run.status := congrArg RunEnd.status hend
  have hconf : run'.completionConfidence = run.completionConfidence :=
    congrArg RunEnd.confidence hend
  rw [hconf]
  exact h run rfl (hstat ▸ hterm)

/-- An open run shows no end. -/
theorem endsBelow_open (hopen : isTerminal run.status = false) : EndsBelow r (some run) := by
  rintro _ ⟨⟩ hterm
  rw [hopen] at hterm
  cases hterm

/-- Merging the identity shows no other end. -/
theorem endsBelow_merged (h : EndsBelow r current)
    (hmerge : mergeRunIdentity current e = .ok merged) : EndsBelow r (some merged) := by
  rcases endOf_merged hmerge with ⟨_, hopen⟩ | ⟨run, rfl, hend⟩
  · exact endsBelow_open hopen
  · exact h.congr hend

/-- An end of a higher rank than the record shows takes effect. -/
theorem EndsBelow.applies (h : EndsBelow d.rank (some run)) (hdecl : declaredEnd e = some d) :
    terminalApplies run d.status d.confidence = true := by
  have hcertain := (declaredEnd_shape hdecl).completed
  have hg : (d.status == .completed && d.confidence != .authoritative) = false := by
    by_cases hs : d.status = .completed
    · simp [(hcertain hs).1]
    · simp [hs]
  cases hterm : isTerminal run.status with
  | false => simp [terminalApplies, hg, hterm]
  | true =>
    have hrank : confidenceRank run.completionConfidence < confidenceRank d.confidence :=
      h run rfl hterm
    simp [terminalApplies, hg, hrank]

/-- Without an end of rank `r` the record stays below that rank: what the
finalizer infers has rank two. -/
theorem EndsBelow.next (hr : 3 ≤ r) (h : EndsBelow r current)
    (hlower : ∀ d ∈ applicableEnd current input, d.rank < r)
    (hstep : RecordStep current input moved) : EndsBelow r moved := by
  cases hstep with
  | kept => exact h
  | @reduced e quiet merged run' hmerge hred hend =>
    have hbelow := endsBelow_merged h hmerge
    rw [hend] at hlower
    cases hdecl : declaredEnd e with
    | none =>
      rcases hred.end_of_none hdecl with heq | ⟨_, hopen⟩
      · exact hbelow.congr heq
      · exact endsBelow_open hopen
    | some d =>
      have heq := hred.end_of_declared hdecl
      split at heq
      · rintro _ ⟨⟩ _
        have hconf : run'.completionConfidence = d.confidence := congrArg RunEnd.confidence heq
        rw [hconf]
        exact hlower d hdecl
      · exact hbelow.congr heq
  | finalized =>
    intro run hrun _
    cases hrun
    change confidenceRank .inferred < r
    exact Nat.lt_of_lt_of_le (by decide) hr

/-- A final end is only replaced by an end of a higher rank. -/
theorem absorbing_next (h : isAbsorbingTerminal run = true)
    (hstep : RecordStep (some run) input moved) :
    ∃ run', moved = some run' ∧ isAbsorbingTerminal run' = true ∧
      (endOf run' = endOf run ∨
        ∃ d, applicableEnd (some run) input = some d ∧ (endOf run).rank < d.rank ∧
          endOf run' = d) := by
  cases hstep with
  | kept => exact ⟨run, rfl, h, .inl rfl⟩
  | @reduced e quiet merged run' hmerge hred hend =>
    refine ⟨run', rfl, ?_⟩
    obtain ⟨hnone, _⟩ | ⟨stored, hsto, hmergedEnd⟩ := endOf_merged hmerge
    · cases hnone
    cases hsto
    have habs : isAbsorbingTerminal merged = true := (isAbsorbingTerminal_congr hmergedEnd).trans h
    cases hdecl : declaredEnd e with
    | none =>
      rcases hred.end_of_none hdecl with heq | ⟨hopen, _⟩
      · exact ⟨(isAbsorbingTerminal_congr heq).trans habs, .inl (heq.trans hmergedEnd)⟩
      · rw [habs] at hopen
        cases hopen
    | some d =>
      have heq := hred.end_of_declared hdecl
      split at heq
      · rename_i happ
        refine ⟨isAbsorbingTerminal_of_declared hdecl heq, .inr ⟨d, hend.trans hdecl, ?_, heq⟩⟩
        have hterm : isTerminal merged.status = true := by
          simp only [isAbsorbingTerminal, Bool.and_eq_true] at habs
          exact habs.1
        simp only [terminalApplies, hterm, Bool.not_true, Bool.false_or,
          Bool.and_eq_true, decide_eq_true_eq] at happ
        rw [← hmergedEnd]
        exact happ.2
      · exact ⟨(isAbsorbingTerminal_congr heq).trans habs, .inl (heq.trans hmergedEnd)⟩
  | finalized hcur hdue =>
    -- a run that ended is not settling
    cases hcur
    simp only [dueSettling, Bool.and_eq_true, beq_iff_eq] at hdue
    simp [isAbsorbingTerminal, isTerminal, hdue.1] at h

/-- An end above the record's own becomes the end of the run. -/
theorem EndsBelow.decides (h : EndsBelow d.rank current)
    (hacc : applicableEnd current input = some d) (hstep : RecordStep current input moved) :
    ∃ run', moved = some run' ∧ isAbsorbingTerminal run' = true ∧ endOf run' = d := by
  cases hstep with
  | kept hend =>
    rw [hend] at hacc
    cases hacc
  | @reduced e quiet merged run' hmerge hred hend =>
    have hdecl : declaredEnd e = some d := hend.symm.trans hacc
    have happ := (endsBelow_merged h hmerge).applies hdecl
    have heq := hred.end_of_declared hdecl
    rw [if_pos happ] at heq
    exact ⟨run', rfl, isAbsorbingTerminal_of_declared hdecl heq, heq⟩
  | finalized => cases hacc

/-- A final end stays while no end of a higher rank arrives. -/
theorem endOf_kept (h : isAbsorbingTerminal run = true)
    (hlower : ∀ x ∈ applicableEnds (some run) inputs, x.rank ≤ (endOf run).rank) :
    (inputs.foldl nextRecord (some run)).map endOf = some (endOf run) := by
  induction inputs generalizing run with
  | nil => rfl
  | cons input inputs ih =>
    obtain ⟨run', hnext, habs, hend⟩ := absorbing_next h (nextRecord_step _ input)
    have hsame : endOf run' = endOf run := by
      rcases hend with hsame | ⟨d, hacc, hhigher, _⟩
      · exact hsame
      have hd : d ∈ applicableEnds (some run) (input :: inputs) := by simp [applicableEnds, hacc]
      have := hlower d hd
      omega
    rw [foldl_cons, hnext, ← hsame]
    refine ih habs fun x hx => ?_
    rw [hsame]
    refine hlower x (mem_append_right _ ?_)
    rw [hnext]
    exact hx

/-- `d` is the first of the ends of the highest rank. -/
def FirstHighest (ends : List RunEnd) (d : RunEnd) : Prop :=
  ∃ earlier later, ends = earlier ++ d :: later ∧ (∀ x ∈ earlier, x.rank < d.rank) ∧
    ∀ x ∈ later, x.rank ≤ d.rank

/-- From a record below the rank of the first highest end, a history leads to
that end. -/
theorem endOf_decided (hd : 3 ≤ d.rank) {earlier later : List RunEnd}
    (hbelow : EndsBelow d.rank current)
    (hends : applicableEnds current inputs = earlier ++ d :: later)
    (hearlier : ∀ x ∈ earlier, x.rank < d.rank) (hlater : ∀ x ∈ later, x.rank ≤ d.rank) :
    (inputs.foldl nextRecord current).map endOf = some d := by
  induction inputs generalizing current earlier with
  | nil => simp [applicableEnds] at hends
  | cons input inputs ih =>
    rw [foldl_cons]
    rw [applicableEnds] at hends
    cases hacc : applicableEnd current input with
    | none =>
      simp only [hacc] at hends
      have hnext := hbelow.next hd (by simp [hacc]) (nextRecord_step _ input)
      exact ih hnext hends hearlier
    | some x =>
      simp only [hacc, toList_some, singleton_append] at hends
      cases earlier with
      | nil =>
        obtain ⟨rfl, hrest⟩ := List.cons.inj hends
        obtain ⟨run', hnext, habs, hend⟩ := hbelow.decides hacc (nextRecord_step ..)
        rw [hnext] at hrest ⊢
        rw [endOf_kept habs, hend]
        intro y hy
        rw [hrest] at hy
        rw [hend]
        exact hlater y hy
      | cons =>
        obtain ⟨rfl, hrest⟩ := List.cons.inj hends
        have hlower : x.rank < d.rank := hearlier x mem_cons_self
        have hnext := hbelow.next hd (by simpa [hacc] using hlower) (nextRecord_step _ input)
        exact ih hnext hrest fun z hz => hearlier z (mem_cons_of_mem _ hz)

/-- A final end stays final, and its rank never falls. -/
theorem absorbing_history (h : isAbsorbingTerminal run = true) :
    ∃ run', inputs.foldl nextRecord (some run) = some run' ∧ isAbsorbingTerminal run' = true ∧
      (endOf run).rank ≤ (endOf run').rank := by
  induction inputs generalizing run with
  | nil => exact ⟨run, rfl, h, Nat.le_refl _⟩
  | cons input inputs ih =>
    obtain ⟨run1, hnext, habs, hend⟩ := absorbing_next h (nextRecord_step _ input)
    obtain ⟨run2, hrest, hfinal, hrank⟩ := ih habs
    have hstep : (endOf run).rank ≤ (endOf run1).rank := by
      rcases hend with hsame | ⟨d, _, hhigher, hd⟩
      · rw [hsame]
      · rw [hd]
        exact Nat.le_of_lt hhigher
    rw [foldl_cons, hnext]
    exact ⟨run2, hrest, hfinal, Nat.le_trans hstep hrank⟩

/-- **The first end of the highest rank decides**, if an adapter is sure of it;
and a final end is only replaced by an end of a strictly higher rank. -/
theorem first_highest_end_decides (inputs : List RunInput) :
    (∀ d, FirstHighest (applicableEnds none inputs) d →
      (d.confidence = .definitiveAdapter ∨ d.confidence = .authoritative) →
      (recordAfter inputs).map endOf = some d) ∧
    (∀ run, recordAfter inputs = some run → isAbsorbingTerminal run = true →
      (∀ input, ∃ run', recordAfter (inputs ++ [input]) = some run' ∧
        (endOf run' = endOf run ∨
          ∃ d, applicableEnd (some run) input = some d ∧ (endOf run).rank < d.rank ∧
            endOf run' = d)) ∧
      ∀ later, ∃ run', recordAfter (inputs ++ later) = some run' ∧
        isAbsorbingTerminal run' = true ∧ (endOf run).rank ≤ (endOf run').rank) := by
  constructor
  · intro d hfirst hsure
    obtain ⟨earlier, later, hends, hearlier, hlater⟩ := hfirst
    have hd : 3 ≤ d.rank := by
      rcases hsure with h | h
      · simp [RunEnd.rank, h, confidenceRank]
      · simp [RunEnd.rank, h, confidenceRank]
    exact endOf_decided hd (fun _ h => by cases h) hends hearlier hlater
  · intro run hrun habsorbing
    constructor
    · intro input
      obtain ⟨run', hnext, _, hend⟩ := absorbing_next habsorbing (nextRecord_step _ input)
      refine ⟨run', ?_, hend⟩
      rw [recordAfter_append, hrun]
      exact hnext
    · intro later
      rw [recordAfter_append, hrun]
      exact absorbing_history habsorbing

/-- The failure is the first end of the highest rank. -/
theorem first_highest_end_decides_failed : FirstHighest (applicableEnds none failedHistory)
        ⟨.failed, .failure, .definitiveAdapter, some 4⟩ ∧
      (recordAfter failedHistory).map endOf = some ⟨.failed, .failure, .definitiveAdapter, some 4⟩ ∧
      (recordAfter failedHistory).any isAbsorbingTerminal = true ∧
      ∃ run', recordAfter (failedHistory ++ [sampleInput 9 (.runCompleted .authoritative)]) =
        some run' ∧ isAbsorbingTerminal run' = true := by
  have hfirst : FirstHighest (applicableEnds none failedHistory)
      ⟨.failed, .failure, .definitiveAdapter, some 4⟩ :=
    ⟨[⟨.interrupted, .interrupted, .inferred, some 2⟩],
      [⟨.cancelled, .cancelled, .definitiveAdapter, some 3⟩],
      by decide +kernel, by decide, by decide⟩
  have hfinal : (recordAfter failedHistory).any isAbsorbingTerminal = true := by decide +kernel
  obtain ⟨hdecides, hkept⟩ := first_highest_end_decides failedHistory
  refine ⟨hfirst, hdecides _ hfirst (.inl rfl), hfinal, ?_⟩
  obtain ⟨run, hrun, habsorbing⟩ := (Option.any_eq_true ..).mp hfinal
  obtain ⟨run', hafter, hstill, _⟩ := (hkept run hrun habsorbing).2 [_]
  exact ⟨run', hafter, hstill⟩

/-! ## The shape of a record -/

/-- The columns of a record that depend on its status fit to it. -/
structure WellFormed (run : AgentRunRecord) : Prop where
  settle : run.settleNotBefore.isSome = true ↔ run.status = .settling
  completedAt : run.completedAt.isSome = true ↔ run.status = .completed
  failedAt : run.failedAt.isSome = true ↔ run.status = .failed
  interruptedAt : run.interruptedAt.isSome = true ↔ run.status = .interrupted
  cancelledAt : run.cancelledAt.isSome = true ↔ run.status = .cancelled
  /-- Every other status of a terminal run would have no time of its own. -/
  reported : run.status ≠ .abandoned ∧ run.status ≠ .unknown
  completed : run.status = .completed →
    (run.completionConfidence = .inferred ∧ run.outcome = .unknown) ∨
      (run.completionConfidence = .authoritative ∧ run.outcome = .success)
  ongoing : run.status = .running ∨ run.status = .settling →
    run.completionConfidence = .provisional ∧ run.outcome = .unknown

/-- A new record is well formed. -/
theorem wellFormed_fresh (runKey : Text) (e : AgentEventEnvelopeV2) :
    WellFormed (freshRun runKey e) := by
  constructor <;> simp [freshRun]

theorem WellFormed.correlated (h : WellFormed run) (e : AgentEventEnvelopeV2) :
    WellFormed (correlated run e) :=
  { h with }

/-- A reduced event keeps a record well formed. -/
theorem WellFormed.reduces (h : WellFormed run) (hred : Reduces run e quiet run') :
    WellFormed run' := by
  cases hred with
  | @started =>
    cases habs : isAbsorbingTerminal run with
    | false => constructor <;> simp [applyRunStarted, habs, reopenRunning]
    | true =>
      simp only [applyRunStarted, habs]
      exact { h with }
  | settled | active =>
    cases habs : isAbsorbingTerminal run with
    | false =>
      constructor <;> simp [applyRunSettling, applyActivity, habs, mergeTime, reopenRunning]
    | true => simpa [applyRunSettling, applyActivity, habs] using h
  | @ended d hdecl =>
    cases happ : terminalApplies run d.status d.confidence with
    | false => simpa [applyTerminal, happ] using h
    | true =>
      obtain ⟨_, hstat, hdone, _⟩ := declaredEnd_shape hdecl
      obtain ⟨status, outcome, confidence, endedAt⟩ := d
      rcases hstat with rfl | rfl | rfl | rfl
      · obtain ⟨rfl, rfl⟩ := hdone rfl
        constructor <;> simp [applyTerminal, happ]
      all_goals constructor <;> simp [applyTerminal, happ]
  | unsure => exact h

/-- An inferred completion is well formed. -/
theorem wellFormed_inferred (run : AgentRunRecord) : WellFormed (inferredCompletion run) := by
  constructor <;> simp [inferredCompletion]

/-- The record is not behind the times it shows. -/
structure InTime (run : AgentRunRecord) : Prop where
  started : ∀ t ∈ run.startedAt, t ≤ run.lastEventAt
  settling : ∀ t ∈ run.settlingAt, t ≤ run.lastEventAt
  ended : ∀ t ∈ terminalAt run, t ≤ run.lastEventAt
  generation : 0 ≤ run.settleGeneration ∧ run.settleGeneration ≤ i64Max

theorem mergeTime_min_le {value bound : Timestamp} (hsto : ∀ t ∈ stored, t ≤ bound)
    (hvalue : value ≤ bound) : ∀ t ∈ mergeTime min stored value, t ≤ bound := by
  intro t ht
  cases stored with
  | none =>
    cases ht
    exact hvalue
  | some old =>
    cases ht
    exact Int.le_trans (Int.min_le_right _ _) hvalue

theorem forall_mem_none {P : Timestamp → Prop} : ∀ t ∈ (none : Option Timestamp), P t :=
  fun _ ht => absurd ht (not_mem_none _)

theorem le_of_mem_max {last now : Timestamp} (h : ∀ t ∈ stored, t ≤ last) :
    ∀ t ∈ stored, t ≤ max last now :=
  fun t ht => Int.le_trans (h t ht) (Int.le_max_left _ _)

/-- One more generation, as far as the counter goes. -/
theorem saturatingAdd_one {n : Int} (h : 0 ≤ n ∧ n ≤ i64Max) :
    n ≤ saturatingAdd n 1 ∧ saturatingAdd n 1 ≤ i64Max := by
  unfold saturatingAdd i64Min i64Max at *
  omega

/-- A new record is in time. -/
theorem inTime_fresh (runKey : Text) (e : AgentEventEnvelopeV2) : InTime (freshRun runKey e) := by
  constructor <;> simp [freshRun, terminalAt, i64Max]

theorem InTime.correlated (h : InTime run) (e : AgentEventEnvelopeV2) : InTime (correlated run e) :=
  { h with }

/-- What moves forward along a history. -/
structure Advances (run run' : AgentRunRecord) : Prop where
  lastEventAt : run.lastEventAt ≤ run'.lastEventAt
  generation : run.settleGeneration ≤ run'.settleGeneration

theorem Advances.refl (run : AgentRunRecord) : Advances run run :=
  ⟨Int.le_refl _, Int.le_refl _⟩

theorem Advances.trans {a b c : AgentRunRecord} (h : Advances a b) (h' : Advances b c) :
    Advances a c :=
  ⟨Int.le_trans h.lastEventAt h'.lastEventAt, Int.le_trans h.generation h'.generation⟩

section

variable (h : InTime run)

include h

/-- A start keeps the record in time. -/
theorem InTime.started_next (started : RunStartedV2) :
    InTime (applyRunStarted run e started) ∧ Advances run (applyRunStarted run e started) := by
  cases habs : isAbsorbingTerminal run with
  | false =>
    simp only [applyRunStarted, habs]
    have hstart := mergeTime_min_le (le_of_mem_max h.started)
      (Int.le_max_right run.lastEventAt e.occurredAt)
    exact ⟨⟨hstart, forall_mem_none, forall_mem_none, h.generation⟩,
      Int.le_max_left _ _, Int.le_refl _⟩
  | true =>
    simp only [applyRunStarted, habs]
    refine ⟨{ h with started := ?_ }, Int.le_refl _, Int.le_refl _⟩
    change ∀ t ∈ (if (terminalAt run).any (e.occurredAt ≤ ·) = true then
      mergeTime min run.startedAt e.occurredAt else run.startedAt), t ≤ run.lastEventAt
    split
    · -- a late start is not later than the end, and the end was an event
      rename_i hlate
      obtain ⟨t, ht, hle⟩ := (Option.any_eq_true ..).mp hlate
      exact mergeTime_min_le h.started (Int.le_trans (of_decide_eq_true hle) (h.ended t ht))
    · exact h.started

/-- So does settling. -/
theorem InTime.settled_next :
    InTime (applyRunSettling run e quiet) ∧ Advances run (applyRunSettling run e quiet) := by
  cases habs : isAbsorbingTerminal run with
  | true =>
    have hsame : applyRunSettling run e quiet = run := by simp [applyRunSettling, habs]
    rw [hsame]
    exact ⟨h, .refl run⟩
  | false =>
    have hnow : e.occurredAt ≤ max run.lastEventAt e.occurredAt := Int.le_max_right _ _
    have hset : ∀ t ∈ (if run.status ≠ .settling then some e.occurredAt
        else mergeTime min run.settlingAt e.occurredAt), t ≤ max run.lastEventAt e.occurredAt := by
      split
      · intro t ht
        cases ht
        exact hnow
      · exact mergeTime_min_le (le_of_mem_max h.settling) hnow
    have hgen : run.settleGeneration ≤ (if run.status ≠ .settling then
          saturatingAdd run.settleGeneration 1 else run.settleGeneration) ∧
        (if run.status ≠ .settling then saturatingAdd run.settleGeneration 1
          else run.settleGeneration) ≤ i64Max := by
      split
      · exact saturatingAdd_one h.generation
      · exact ⟨Int.le_refl _, h.generation.2⟩
    simp only [applyRunSettling, habs]
    exact ⟨⟨le_of_mem_max h.started, hset, forall_mem_none,
        Int.le_trans h.generation.1 hgen.1, hgen.2⟩, Int.le_max_left _ _, hgen.1⟩

/-- So does activity. -/
theorem InTime.active_next : InTime (applyActivity run e) ∧ Advances run (applyActivity run e) := by
  cases habs : isAbsorbingTerminal run with
  | true =>
    have hsame : applyActivity run e = run := by simp [applyActivity, habs]
    rw [hsame]
    exact ⟨h, .refl run⟩
  | false =>
    simp only [applyActivity, habs]
    exact ⟨⟨le_of_mem_max h.started, forall_mem_none, forall_mem_none,
      h.generation⟩, Int.le_max_left _ _, Int.le_refl _⟩

/-- So does an end. -/
theorem InTime.ended_next (hdecl : declaredEnd e = some d) :
    InTime (applyTerminal run e d.status d.outcome d.confidence) ∧
      Advances run (applyTerminal run e d.status d.outcome d.confidence) := by
  cases happ : terminalApplies run d.status d.confidence with
  | false =>
    rw [applyTerminal_of_not happ]
    exact ⟨h, .refl run⟩
  | true =>
    have hend := endOf_applyTerminal hdecl happ
    have htime : ∀ t ∈ terminalAt (applyTerminal run e d.status d.outcome d.confidence),
        t ≤ max run.lastEventAt e.occurredAt := by
      intro t ht
      have hat := (congrArg RunEnd.endedAt hend).trans (declaredEnd_shape hdecl).endedAt
      obtain rfl : e.occurredAt = t := some.inj (hat.symm.trans ht)
      exact Int.le_max_right _ _
    revert htime
    simp only [applyTerminal, happ]
    intro htime
    exact ⟨⟨le_of_mem_max h.started, forall_mem_none, htime, h.generation⟩,
      Int.le_max_left _ _, Int.le_refl _⟩

/-- Whatever the event, the record advances in time. -/
theorem InTime.reduces (hred : Reduces run e quiet run') : InTime run' ∧ Advances run run' := by
  cases hred with
  | started => exact h.started_next _
  | settled => exact h.settled_next
  | active => exact h.active_next
  | ended hdecl => exact h.ended_next hdecl
  | unsure => exact ⟨h, .refl run⟩

/-- A completion that is inferred is at the time of the last event. -/
theorem inferredCompletion_completedAt :
    (inferredCompletion run).completedAt = some run.lastEventAt := by
  have hle : run.settlingAt.getD run.lastEventAt ≤ run.lastEventAt := by
    cases hset : run.settlingAt with
    | none => exact Int.le_refl _
    | some t => exact h.settling t hset
  change some (max _ _) = _
  rw [Int.max_eq_right hle]

theorem InTime.inferred : InTime (inferredCompletion run) := by
  refine { h with ended := fun t ht => ?_ }
  have hdone : terminalAt (inferredCompletion run) = some run.lastEventAt :=
    inferredCompletion_completedAt h
  rw [hdone] at ht
  cases ht
  exact Int.le_refl _

end

/-- What holds of the record along every history. -/
def Sound (current : Option AgentRunRecord) : Prop :=
  ∀ run ∈ current, WellFormed run ∧ InTime run

/-- The merged record is well formed and in time. -/
theorem sound_merged (h : Sound current) (hmerge : mergeRunIdentity current e = .ok merged) :
    WellFormed merged ∧ InTime merged := by
  obtain ⟨key, _, ⟨_, rfl⟩ | ⟨run, hrun, _, rfl⟩⟩ := mergeRunIdentity_eq_ok.mp hmerge
  · exact ⟨wellFormed_fresh key e, inTime_fresh key e⟩
  · exact ⟨(h run hrun).1.correlated e, (h run hrun).2.correlated e⟩

/-- One step keeps the record sound. -/
theorem Sound.step (h : Sound current) (hstep : RecordStep current input moved) : Sound moved := by
  cases hstep with
  | kept => exact h
  | reduced hmerge hred =>
    obtain ⟨hshape, htime⟩ := sound_merged h hmerge
    intro run hrun
    cases hrun
    exact ⟨hshape.reduces hred, (htime.reduces hred).1⟩
  | @finalized run0 _ hcur =>
    intro run hrun
    cases hrun
    exact ⟨wellFormed_inferred run0, (h run0 hcur).2.inferred⟩

theorem Sound.next (h : Sound current) (input : RunInput) : Sound (nextRecord current input) :=
  h.step (nextRecord_step current input)

/-- **The record is sound along every history**. -/
theorem sound_recordAfter (inputs : List RunInput) : Sound (recordAfter inputs) :=
  recordFrom_invariant (fun _ input _ h => h.next input) fun _ hrun => nomatch hrun

/-- A stored run is moved forward. -/
theorem advances_next (h : Sound (some run)) (hstep : RecordStep (some run) input moved) :
    ∃ run', moved = some run' ∧ Advances run run' := by
  cases hstep with
  | kept => exact ⟨run, rfl, .refl run⟩
  | @reduced e quiet merged run' hmerge hred =>
    refine ⟨run', rfl, ?_⟩
    have hadvances := ((sound_merged h hmerge).2.reduces hred).2
    obtain ⟨_, _, ⟨hnone, _⟩ | ⟨stored, hsto, _, rfl⟩⟩ := mergeRunIdentity_eq_ok.mp hmerge
    · cases hnone
    · cases hsto
      exact ⟨hadvances.lastEventAt, hadvances.generation⟩
  | finalized hcur =>
    cases hcur
    exact ⟨_, rfl, Int.le_refl _, Int.le_refl _⟩

/-- A record that is there stays and advances. -/
theorem advances_history (inputs : List RunInput) (h : Sound (some run)) :
    ∃ run', inputs.foldl nextRecord (some run) = some run' ∧ Advances run run' := by
  induction inputs generalizing run with
  | nil => exact ⟨run, rfl, .refl run⟩
  | cons input inputs ih =>
    obtain ⟨run1, hnext, hfst⟩ := advances_next h (nextRecord_step _ input)
    obtain ⟨run2, hrest, hlast⟩ := ih (hnext ▸ h.next input)
    rw [foldl_cons, hnext]
    exact ⟨run2, hrest, hfst.trans hlast⟩

/-- The part of a record that the events of a run move: all of it but the label
and the correlation. -/
def lifecycle (run : AgentRunRecord) : AgentRunRecord :=
  { run with
    conversationKey := none, parentRunKey := none, agentId := none, agentRole := none,
    agentLabel := [] }

/-- The input changed the life of the run. -/
def MovesLife (current : Option AgentRunRecord) (input : RunInput) : Prop :=
  (nextRecord current input).map lifecycle ≠ current.map lifecycle

/-- A reduced event is on the record, or it left the life of the run alone. -/
theorem Reduces.on_record (h : InTime run) (hred : Reduces run e quiet run') :
    e.occurredAt ≤ run'.lastEventAt ∨ lifecycle run' = lifecycle run := by
  cases hred with
  | started =>
    cases habs : isAbsorbingTerminal run with
    | false => exact .inl (by simp [applyRunStarted, habs])
    | true =>
      by_cases hlate : (terminalAt run).any (e.occurredAt ≤ ·) = true
      · obtain ⟨t, ht, hle⟩ := (Option.any_eq_true ..).mp hlate
        have hlast := Int.le_trans (of_decide_eq_true hle) (h.ended t ht)
        exact .inl (by simpa [applyRunStarted, habs] using hlast)
      · exact .inr (by simp [applyRunStarted, habs, hlate, lifecycle])
  | settled | active =>
    cases habs : isAbsorbingTerminal run with
    | false => exact .inl (by simp [applyRunSettling, applyActivity, habs])
    | true => exact .inr (by simp [applyRunSettling, applyActivity, habs])
  | @ended d =>
    cases happ : terminalApplies run d.status d.confidence with
    | false => exact .inr (by rw [applyTerminal_of_not happ])
    | true => exact .inl (by simp [applyTerminal, happ])
  | unsure => exact .inr rfl

/-- An event that changed the life of the run is on its record. -/
theorem occurredAt_le (h : Sound current) (hmoves : MovesLife current (.event e quiet)) :
    ∃ run', nextRecord current (.event e quiet) = some run' ∧ e.occurredAt ≤ run'.lastEventAt := by
  unfold MovesLife at hmoves
  have hstep := nextRecord_step current (.event e quiet)
  generalize nextRecord current (.event e quiet) = next at hstep hmoves ⊢
  cases hstep with
  | kept => exact absurd rfl hmoves
  | @reduced _ _ merged run' hmerge hred =>
    refine ⟨run', rfl, ?_⟩
    have htime := (sound_merged h hmerge).2
    obtain ⟨_, _, ⟨_, rfl⟩ | ⟨stored, rfl, _, rfl⟩⟩ := mergeRunIdentity_eq_ok.mp hmerge
    · exact (htime.reduces hred).2.lastEventAt
    rcases hred.on_record htime with hle | hsame
    · exact hle
    · exact absurd (congrArg some hsame) hmoves

/-- **Every record is well formed**, its last event is not before any event that
changed its life, and its generation never falls. -/
theorem records_well_formed (inputs : List RunInput) {run : AgentRunRecord}
    (h : recordAfter inputs = some run) : WellFormed run ∧
      (∀ before e quiet after, inputs = before ++ .event e quiet :: after →
        MovesLife (recordAfter before) (.event e quiet) → e.occurredAt ≤ run.lastEventAt) ∧
      ∀ before after earlier, inputs = before ++ after → recordAfter before = some earlier →
        earlier.settleGeneration ≤ run.settleGeneration := by
  refine ⟨(sound_recordAfter inputs run h).1, ?_, ?_⟩
  · rintro before e quiet after rfl hmoves
    have hsound := sound_recordAfter before
    obtain ⟨run₁, hnext, hle⟩ := occurredAt_le hsound hmoves
    obtain ⟨run₂, hrest, hadvances⟩ := advances_history after (hnext ▸ hsound.next (.event e quiet))
    rw [recordAfter_append, foldl_cons, hnext, hrest] at h
    cases h
    exact Int.le_trans hle hadvances.lastEventAt
  · rintro before after earlier rfl hearlier
    obtain ⟨run₂, hrest, hadvances⟩ := advances_history after (hearlier ▸ sound_recordAfter before)
    rw [recordAfter_append, hearlier, hrest] at h
    cases h
    exact hadvances.generation

/-- A run that settled and then failed. -/
theorem records_well_formed_failed :
    ∃ run, recordAfter failedHistory = some run ∧ WellFormed run ∧ 4 ≤ run.lastEventAt ∧
      (recordAfter (failedHistory.take 2)).any (0 < ·.settleGeneration) = true ∧
      0 < run.settleGeneration := by
  have hsome : (recordAfter failedHistory).isSome = true := by decide +kernel
  obtain ⟨run, hrun⟩ := isSome_iff_exists.mp hsome
  have hsettled : (recordAfter (failedHistory.take 2)).any (0 < ·.settleGeneration) = true := by
    decide +kernel
  obtain ⟨earlier, hearlier, hgeneration⟩ := (Option.any_eq_true ..).mp hsettled
  obtain ⟨hshape, hlast, hnever⟩ := records_well_formed failedHistory hrun
  have hmoves : MovesLife (recordAfter (failedHistory.take 4))
      (sampleInput 4 (.runFailed .definitiveAdapter)) := by
    unfold MovesLife
    decide +kernel
  exact ⟨run, hrun, hshape, hlast (failedHistory.take 4) _ _ (failedHistory.drop 5) rfl hmoves,
    hsettled, Int.lt_of_lt_of_le (of_decide_eq_true hgeneration)
      (hnever (failedHistory.take 2) (failedHistory.drop 2) earlier rfl hearlier)⟩

/-- A start that arrives after the end of its run, and is later than it. -/
def lateStart : AgentEventEnvelopeV2 :=
  sampleEvent "b" 20 (.runStarted ⟨text "c", none, none, none, none⟩)

/-- A start after the end names the run, but its time is not put on record. -/
theorem late_start_is_not_on_record :
    (sampleEvent "a" 10 (.runFailed .authoritative)).validate sampleTools.hashes = .ok () ∧
      lateStart.validate sampleTools.hashes = .ok () ∧
      ∃ before after, recordAfter [sampleInput 10 (.runFailed .authoritative)] = some before ∧
        (reduceRunWithQuiet (some before) lateStart 0).map RunTransition.run = .ok after ∧
        after ≠ before ∧ after.agentLabel = text "c" ∧
        after.lastEventAt < lateStart.occurredAt := by
  refine ⟨by decide +kernel, by decide +kernel, ?_⟩
  refine ⟨_, _, rfl, rfl, ?_, rfl, ?_⟩
  · decide +kernel
  · decide +kernel

/-! ## The checks of the table -/

/-- Every step of a history satisfies `P`. -/
def Along (P : Option AgentRunRecord → RunInput → Prop) :
    Option AgentRunRecord → List RunInput → Prop
  | _, [] => True
  | current, input :: inputs => P current input ∧ Along P (nextRecord current input) inputs

instance decidableAlong (P : Option AgentRunRecord → RunInput → Prop)
    [∀ current input, Decidable (P current input)] :
    ∀ current inputs, Decidable (Along P current inputs)
  | _, [] => .isTrue trivial
  | current, input :: inputs =>
    have := decidableAlong P (nextRecord current input) inputs
    inferInstanceAs (Decidable (_ ∧ _))

/-- A completion that applies is not before the start of its run. -/
def completesAfterStart (current : Option AgentRunRecord) : RunInput → Bool
  | .event e _ =>
    match mergeRunIdentity current e with
    | .ok run =>
      !(e.payload == .runCompleted .authoritative &&
          terminalApplies run .completed .authoritative) ||
        run.startedAt.all (· ≤ e.occurredAt)
    | .error _ => true
  | .finalize _ => true

/-- The texts that the table of runs requires. -/
structure Named (run : AgentRunRecord) : Prop where
  runKey : sqlPresent run.runKey = true
  agentKind : sqlPresent run.agentKind = true
  instanceId : sqlPresent run.instanceId = true
  agentLabel : sqlPresent run.agentLabel = true

/-- A run is completed at its start or later. -/
def Ordered (run : AgentRunRecord) : Prop :=
  ∀ completed ∈ run.completedAt, ∀ started ∈ run.startedAt, started ≤ completed

/-- What the table of runs checks. -/
theorem AgentRunRecord.check_iff :
    run.check = true ↔ Named run ∧ 0 ≤ run.settleGeneration ∧ Ordered run := by
  have horder : (run.completedAt.all fun done => run.startedAt.all (· ≤ done)) = true ↔
      Ordered run := by
    unfold Ordered
    cases run.completedAt <;> cases run.startedAt <;> simp
  simp only [AgentRunRecord.check, Bool.and_eq_true, horder, decide_eq_true_eq]
  constructor
  · rintro ⟨⟨⟨⟨⟨hkey, hkind⟩, hinst⟩, hlabel⟩, hgen⟩, hord⟩
    exact ⟨⟨hkey, hkind, hinst, hlabel⟩, hgen, hord⟩
  rintro ⟨hnamed, hgen, hord⟩
  exact ⟨⟨⟨⟨⟨hnamed.runKey, hnamed.agentKind⟩, hnamed.instanceId⟩, hnamed.agentLabel⟩, hgen⟩, hord⟩

section

variable {hashes : Hashes} {current : Option AgentRunRecord}

/-- An accepted envelope names its run. -/
theorem named_merged (hvalid : e.validate hashes = .ok ()) (h : ∀ run ∈ current, Named run)
    (hmerge : mergeRunIdentity current e = .ok merged) : Named merged := by
  have hacc := AgentEventEnvelopeV2.validate_eq_ok hvalid
  obtain ⟨key, hkey, ⟨_, rfl⟩ | ⟨run, hrun, _, rfl⟩⟩ := mergeRunIdentity_eq_ok.mp hmerge
  · obtain ⟨hkind, _, _, hinst⟩ := SourceDescriptor.validate_eq_ok.mp hacc.source
    exact ⟨sqlPresent_of_bounded (hacc.runKey key hkey), sqlPresent_of_bounded hkind,
      sqlPresent_of_bounded hinst, sqlPresent_of_bounded hkind⟩
  · exact { h run hrun with }

/-- The names stay. -/
theorem Named.reduces (hvalid : e.validate hashes = .ok ()) (h : Named run)
    (hred : Reduces run e quiet run') : Named run' := by
  have hpayloadValid := (AgentEventEnvelopeV2.validate_eq_ok hvalid).payload
  cases hred with
  | @started started hload =>
    have hlabel : sqlPresent started.agentLabel = true := by
      rw [hload] at hpayloadValid
      obtain ⟨_, hchk, _⟩ := except_bind_eq_ok.mp hpayloadValid
      exact sqlPresent_of_bounded (validateBoundedText_eq_ok.mp hchk)
    cases habs : isAbsorbingTerminal run with
    | false =>
      simp only [applyRunStarted, habs]
      exact { h with agentLabel := hlabel }
    | true =>
      simp only [applyRunStarted, habs, Bool.not_true, Bool.false_eq_true, if_false]
      refine { h with agentLabel := ?_ }
      split
      · exact hlabel
      · exact h.agentLabel
  | settled | active | ended =>
    simp only [applyRunSettling, applyActivity, applyTerminal]
    split
    · exact h
    · exact { h with }
  | unsure => exact h

/-- Only a completion that comes before the start breaks the order. -/
theorem ordered_reduces (hshape : WellFormed run) (hord : Ordered run)
    (hred : Reduces run e quiet run') : Ordered run' ↔
      (e.payload = .runCompleted .authoritative →
        terminalApplies run .completed .authoritative = true →
        ∀ started ∈ run.startedAt, started ≤ e.occurredAt) := by
  have hopen {r : AgentRunRecord} (hnone : r.completedAt = none) : Ordered r := by
    intro completed hdone
    rw [hnone] at hdone
    cases hdone
  cases hred with
  | @started started hload =>
    refine ⟨fun _ h => absurd h (by simp [hload]), fun _ => ?_⟩
    cases habs : isAbsorbingTerminal run with
    | false => exact hopen (by simp [applyRunStarted, habs, reopenRunning])
    | true =>
      simp only [applyRunStarted, habs]
      intro completed hdone
      change ∀ t ∈ (if (terminalAt run).any (e.occurredAt ≤ ·) = true then
        mergeTime min run.startedAt e.occurredAt else run.startedAt), t ≤ completed
      replace hdone : run.completedAt = some completed := hdone
      split
      · -- the late start is not later than the completion
        rename_i hlate
        have hstat := hshape.completedAt.mp (by rw [hdone]; rfl)
        have hend : terminalAt run = some completed := by simp [terminalAt, hstat, hdone]
        rw [hend] at hlate
        exact mergeTime_min_le (hord completed hdone) (of_decide_eq_true hlate)
      · exact hord completed hdone
  | settled hload | active hload =>
    refine ⟨fun _ h => absurd h (by simp [hload]), fun _ => ?_⟩
    simp only [applyRunSettling, applyActivity]
    split
    · exact hord
    · exact hopen rfl
  | @ended d hdecl =>
    obtain ⟨_, _, hcertain, hload⟩ := declaredEnd_shape hdecl
    by_cases hdone : d.status = .completed
    · rw [hdone, (hcertain hdone).1]
      cases happ : terminalApplies run .completed .authoritative with
      | false =>
        rw [applyTerminal_of_not happ]
        exact ⟨fun _ _ h => absurd h Bool.false_ne_true, fun _ => hord⟩
      | true =>
        have hcompletedAt : (applyTerminal run e .completed d.outcome
            .authoritative).completedAt = some e.occurredAt := by
          simp [applyTerminal, happ]
        have hstartedAt : (applyTerminal run e .completed d.outcome
            .authoritative).startedAt = run.startedAt := by
          simp [applyTerminal, happ]
        unfold Ordered
        rw [hcompletedAt, hstartedAt]
        constructor
        · exact fun h _ _ => h e.occurredAt rfl
        intro h completed hmem
        cases hmem
        exact h (hload.mp hdone) rfl
    · refine ⟨fun _ h => absurd (hload.mpr h) hdone, fun _ => ?_⟩
      cases happ : terminalApplies run d.status d.confidence with
      | false =>
        rw [applyTerminal_of_not happ]
        exact hord
      | true => exact hopen (by simp [applyTerminal, happ, hdone])
  | unsure hload hunsure =>
    refine ⟨fun _ h => ?_, fun _ => hord⟩
    rw [hload] at h
    exact absurd (AgentEventPayloadV2.runCompleted.inj h) hunsure

/-- The record passes the checks of its table, and has the shape of a record. -/
def Storable (current : Option AgentRunRecord) : Prop :=
  ∀ run ∈ current, WellFormed run ∧ InTime run ∧ run.check = true

/-- The condition on one event, read off the merged record. -/
theorem completesAfterStart_iff (hmerge : mergeRunIdentity current e = .ok merged) :
    completesAfterStart current (.event e quiet) = true ↔
      (e.payload = .runCompleted .authoritative →
        terminalApplies merged .completed .authoritative = true →
        ∀ started ∈ merged.startedAt, started ≤ e.occurredAt) := by
  have hall : merged.startedAt.all (· ≤ e.occurredAt) = true ↔
      ∀ started ∈ merged.startedAt, started ≤ e.occurredAt := by
    cases merged.startedAt <;> simp
  simp only [completesAfterStart, hmerge, Bool.or_eq_true, hall]
  by_cases hload : e.payload = .runCompleted .authoritative
  · cases terminalApplies merged .completed .authoritative <;> simp [hload]
  · simp [hload]

/-- The next record passes its checks unless a completion comes before the
start of its run. -/
theorem check_next_iff (input : RunInput)
    (hvalid : ∀ e quiet, input = .event e quiet → e.validate hashes = .ok ())
    (h : Storable current) : (nextRecord current input).all AgentRunRecord.check = true ↔
      completesAfterStart current input = true := by
  have hsound : Sound current := fun run hrun => ⟨(h run hrun).1, (h run hrun).2.1⟩
  have hstep := nextRecord_step current input
  generalize nextRecord current input = next at hstep ⊢
  cases hstep with
  | kept hend =>
    have hkept : current.all AgentRunRecord.check = true := by
      cases current with
      | none => rfl
      | some run => exact (h run rfl).2.2
    refine ⟨fun _ => ?_, fun _ => hkept⟩
    cases input with
    | finalize => rfl
    | event e =>
      cases hmerge : mergeRunIdentity current e with
      | error => simp [completesAfterStart, hmerge]
      | ok =>
        rw [completesAfterStart_iff hmerge]
        intro hload
        -- the reducer accepts a completion that matches the run
        rw [applicableEnd_of_merged hmerge] at hend
        simp [hload, declaredEnd] at hend
  | @reduced e quiet merged run' hmerge hred =>
    obtain ⟨hshape, htime⟩ := sound_merged hsound hmerge
    have hnames : ∀ run ∈ current, Named run := fun run hrun =>
      (AgentRunRecord.check_iff.mp (h run hrun).2.2).1
    have hordered : Ordered merged := by
      obtain ⟨_, _, ⟨_, rfl⟩ | ⟨run, hrun, _, rfl⟩⟩ := mergeRunIdentity_eq_ok.mp hmerge
      · exact fun _ hdone => absurd hdone (not_mem_none _)
      · exact (AgentRunRecord.check_iff.mp (h run hrun).2.2).2.2
    have hnamed := (named_merged (hvalid e quiet rfl) hnames hmerge).reduces
      (hvalid e quiet rfl) hred
    have hgen := (htime.reduces hred).1.generation.1
    rw [completesAfterStart_iff hmerge, ← ordered_reduces hshape hordered hred]
    change run'.check = true ↔ _
    rw [AgentRunRecord.check_iff]
    exact ⟨fun hchk => hchk.2.2, fun hord => ⟨hnamed, hgen, hord⟩⟩
  | @finalized run now hcur =>
    refine ⟨fun _ => rfl, fun _ => ?_⟩
    obtain ⟨_, htime, hchk⟩ := h run hcur
    obtain ⟨hnamed, hgen, _⟩ := AgentRunRecord.check_iff.mp hchk
    refine AgentRunRecord.check_iff.mpr ⟨{ hnamed with }, hgen, fun completed hdone => ?_⟩
    rw [inferredCompletion_completedAt htime] at hdone
    cases hdone
    exact htime.started

/-- A record that passes the checks stays storable. -/
theorem Storable.next (h : Storable current)
    (hchk : (nextRecord current input).all AgentRunRecord.check = true) :
    Storable (nextRecord current input) := by
  have hsound : Sound current := fun run hrun => ⟨(h run hrun).1, (h run hrun).2.1⟩
  intro run hrun
  obtain ⟨hshape, htime⟩ := hsound.next input run hrun
  rw [mem_def.mp hrun] at hchk
  exact ⟨hshape, htime, hchk⟩

/-- The checks along a history, by induction over it. -/
theorem checks_along_iff
    (hvalid : ∀ e quiet, RunInput.event e quiet ∈ inputs → e.validate hashes = .ok ())
    (h : Storable current) :
    Along (fun current input => (nextRecord current input).all AgentRunRecord.check = true)
        current inputs ↔
      Along (fun current input => completesAfterStart current input = true) current inputs := by
  induction inputs generalizing current with
  | nil => exact Iff.rfl
  | cons input inputs ih =>
    have hfst := check_next_iff input (fun e quiet heq => hvalid e quiet (heq ▸ mem_cons_self)) h
    have hrest : ∀ e quiet, RunInput.event e quiet ∈ inputs → e.validate hashes = .ok () :=
      fun e quiet hmem => hvalid e quiet (mem_cons_of_mem _ hmem)
    constructor
    · rintro ⟨hchk, hchecks⟩
      exact ⟨hfst.mp hchk, (ih hrest (h.next hchk)).mp hchecks⟩
    rintro ⟨horder, horders⟩
    have hchk := hfst.mpr horder
    exact ⟨hchk, (ih hrest (h.next hchk)).mpr horders⟩

/-- **Every record of a history passes the checks of its table** if and only if
no completion that applies is before the start of its run. -/
theorem records_pass_checks_iff (inputs : List RunInput)
    (hvalid : ∀ e quiet, RunInput.event e quiet ∈ inputs → e.validate hashes = .ok ()) :
    Along (fun current input => (nextRecord current input).all AgentRunRecord.check = true)
        none inputs ↔
      Along (fun current input => completesAfterStart current input = true) none inputs :=
  checks_along_iff hvalid fun _ hrun => nomatch hrun

/-- Every record of the failed run passes: its start comes before its end. -/
theorem records_pass_checks_failed : (∀ e quiet, RunInput.event e quiet ∈ failedHistory →
        e.validate sampleTools.hashes = .ok ()) ∧
      Along (fun current input => completesAfterStart current input = true) none failedHistory ∧
      Along (fun current input => (nextRecord current input).all AgentRunRecord.check = true)
        none failedHistory := by
  have hvalid : ∀ e quiet, RunInput.event e quiet ∈ failedHistory →
      e.validate sampleTools.hashes = .ok () := by
    have hall : (failedHistory.all fun
        | .event e _ => e.validate sampleTools.hashes == .ok ()
        | .finalize _ => true) = true := by
      decide +kernel
    intro e quiet hmem
    exact beq_iff_eq.mp (all_eq_true.mp hall _ hmem)
  have hordered : Along (fun current input => completesAfterStart current input = true) none
      failedHistory := by
    decide +kernel
  exact ⟨hvalid, hordered, (records_pass_checks_iff failedHistory hvalid).mpr hordered⟩

/-- A completion that an adapter dates before the start is put on record as it
is, and the table refuses the record. -/
theorem completion_before_start_fails_check : ∃ started completed : AgentEventEnvelopeV2,
      started.validate sampleTools.hashes = .ok () ∧
      completed.validate sampleTools.hashes = .ok () ∧
      ∃ run, recordAfter [.event started 0, .event completed 0] = some run ∧
        run.startedAt = some 10 ∧ run.completedAt = some 5 ∧ run.check = false := by
  refine ⟨sampleEvent "a" 10 (.runStarted ⟨text "c", none, none, none, none⟩),
    sampleEvent "b" 5 (.runCompleted .authoritative), by decide +kernel, by decide +kernel, ?_⟩
  exact ⟨_, rfl, rfl, rfl, by decide +kernel⟩

end

end PromptDock.Desktop
