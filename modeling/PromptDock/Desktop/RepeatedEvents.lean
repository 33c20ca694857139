import PromptDock.Desktop.DesktopRuns
import PromptDock.Desktop.SchemaKept

/-!
# Repeated deliveries

A source may deliver an envelope again.  The store then notes when the event was
last observed and the source last seen, and moves the checkpoint; nothing that
an ingestion projects depends on these columns.

`Alike` relates stores that differ only there.  The program of an ingestion
returns the same on such stores and keeps them alike, function by function
(`…_paired`), so a sequence of deliveries with repeats leaves the projections
that the sequence without them leaves.
-/

namespace PromptDock.Desktop

open RowTable StoreAction TableStatement DesktopStore AgentEventIngestor SourceRepository
  Action EventStore List

/-! ## What a repeated delivery may move -/

/-- A stream without the time at which it was last seen. -/
def SourceStreamRow.unseen (r : SourceStreamRow) : SourceStreamRow :=
  { r with lastSeenAt := none }

/-- An event without the time at which it was last observed. -/
def AgentEventRow.unobserved (r : AgentEventRow) : AgentEventRow :=
  { r with lastObservedAt := 0 }

/-- Which event a row stores: its source, its identifier and what it means. -/
def AgentEventRow.identity (r : AgentEventRow) : Text × Text × Text :=
  (r.sourceKey, r.eventId, r.payloadHash)

namespace DesktopStore

/-- The store without the columns that a repeated delivery may move. -/
def settledPart (s : DesktopStore) : DesktopStore :=
  { s with
    sourceStreams := s.sourceStreams.map SourceStreamRow.unseen,
    agentEvents := s.agentEvents.map AgentEventRow.unobserved, sourceCheckpoints := [] }

/-- The schema of the checkpoints. -/
def checkCheckpoints (s : DesktopStore) : Bool :=
  tableCheck CheckpointRow.sourceKey
    (fun r => (s.sourceStreams.map SourceStreamRow.sourceKey).contains r.sourceKey)
    s.sourceCheckpoints

section

variable (s : DesktopStore)

include s

/-- The keys of the streams are settled. -/
theorem settledPart_sourceKeys : s.settledPart.sourceStreams.map SourceStreamRow.sourceKey =
      s.sourceStreams.map SourceStreamRow.sourceKey := by
  simp only [settledPart, map_map]
  rfl

/-- Of the sources only the checkpoints move. -/
theorem checkSources_eq : s.checkSources = (s.checkCheckpoints && s.settledPart.checkSources) := by
  have hstreams : tableCheck SourceStreamRow.sourceKey SourceStreamRow.check
      s.settledPart.sourceStreams =
        tableCheck SourceStreamRow.sourceKey SourceStreamRow.check s.sourceStreams := by
    rw [tableCheck, settledPart_sourceKeys]
    simp only [settledPart, all_map]
    rfl
  have hsrcs : s.settledPart.sourceStreams.map SourceStreamRow.source =
      s.sourceStreams.map SourceStreamRow.source := by
    simp only [settledPart, map_map]
    rfl
  have hempty : tableCheck CheckpointRow.sourceKey
      (fun r => (s.settledPart.sourceStreams.map SourceStreamRow.sourceKey).contains r.sourceKey)
      s.settledPart.sourceCheckpoints = true := rfl
  unfold checkSources
  rw [hempty, Bool.and_true, hsrcs, hstreams, Bool.and_comm]
  rfl

theorem checkEvents_eq : s.settledPart.checkEvents = s.checkEvents := by
  unfold checkEvents
  simp only [settledPart, tableCheck, all_map, map_map]
  rfl

theorem checkOutputs_eq : s.settledPart.checkOutputs = s.checkOutputs := by
  unfold checkOutputs
  rw [settledPart_sourceKeys]
  rfl

/-- Of the moving columns the schema reads only the keys of the checkpoints. -/
theorem check_eq : s.check = (s.checkCheckpoints && s.settledPart.check) := by
  unfold check
  rw [checkSources_eq, checkEvents_eq, checkOutputs_eq]
  simp only [Bool.and_assoc]
  rfl

end

end DesktopStore

/-- The stores differ only in what a repeated delivery may move; the first holds
the events of the list. -/
structure Alike (held : List (Text × Text × Text)) (s t : DesktopStore) : Prop where
  same : s.settledPart = t.settledPart
  checkpoints : s.checkCheckpoints = true ∧ t.checkCheckpoints = true
  held : ∀ identity ∈ held, identity ∈ s.agentEvents.map AgentEventRow.identity

variable {held : List (Text × Text × Text)} {s t : DesktopStore}

namespace Alike

/-- A store is alike itself. -/
theorem refl (hs : s.check = true)
    (hheld : ∀ identity ∈ held, identity ∈ s.agentEvents.map AgentEventRow.identity) :
    Alike held s s := by
  rw [check_eq, Bool.and_eq_true] at hs
  exact ⟨rfl, ⟨hs.1, hs.1⟩, hheld⟩

section

variable (h : Alike held s t)

include h

/-- Being alike is transitive. -/
theorem trans {u : DesktopStore} (h' : Alike held t u) : Alike held s u :=
  ⟨h.same.trans h'.same, ⟨h.checkpoints.1, h'.checkpoints.2⟩, h.held⟩

/-- The schema does not tell them apart. -/
theorem check_eq : s.check = t.check := by
  rw [s.check_eq, t.check_eq, h.same, h.checkpoints.1, h.checkpoints.2]

/-- The streams differ in when they were seen. -/
theorem streams :
    s.sourceStreams.map SourceStreamRow.unseen = t.sourceStreams.map SourceStreamRow.unseen :=
  (congrArg sourceStreams h.same :)

/-- The events differ in when they were observed. -/
theorem events :
    s.agentEvents.map AgentEventRow.unobserved = t.agentEvents.map AgentEventRow.unobserved :=
  (congrArg agentEvents h.same :)

theorem runs : s.agentRuns = t.agentRuns :=
  (congrArg agentRuns h.same :)

theorem outputs : s.agentOutputs = t.agentOutputs :=
  (congrArg agentOutputs h.same :)

theorem privacy : s.desktopPrivacy = t.desktopPrivacy :=
  (congrArg desktopPrivacy h.same :)

theorem counters : s.retentionCounters = t.retentionCounters :=
  (congrArg retentionCounters h.same :)

theorem outbox : s.notificationOutbox = t.notificationOutbox :=
  (congrArg notificationOutbox h.same :)

theorem presentation : s.runPresentation = t.runPresentation :=
  (congrArg runPresentation h.same :)

theorem attention : s.attentionEvents = t.attentionEvents :=
  (congrArg attentionEvents h.same :)

end

end Alike

variable {rows : List SourceStreamRow}

/-- The keys of the streams cover those of the checkpoints, also when there are
more of them. -/
theorem checkCheckpoints_put_streams (h : s.checkCheckpoints = true)
    (hkeys : ∀ r ∈ s.sourceStreams, r.sourceKey ∈ rows.map SourceStreamRow.sourceKey) :
    (streamTable.put s rows).checkCheckpoints = true := by
  simp only [checkCheckpoints, tableCheck_iff, contains_eq_mem, decide_eq_true_eq] at h ⊢
  refine ⟨fun r hr => ?_, h.2⟩
  obtain ⟨stream, hstr, hkey⟩ := mem_map.mp (h.1 r hr)
  exact hkey ▸ hkeys stream hstr

theorem seenAlike : SeenAlike check (Alike held) := fun _ _ h => h.check_eq

theorem shared_runs : Shared (Alike held) runTable :=
  ⟨fun _ _ h => h.runs, fun _ _ rows h =>
    ⟨congrArg (fun s => { s with agentRuns := rows }) h.same, h.checkpoints, h.held⟩⟩

theorem shared_attention : Shared (Alike held) attentionTable :=
  ⟨fun _ _ h => h.attention, fun _ _ rows h =>
    ⟨congrArg (fun s => { s with attentionEvents := rows }) h.same, h.checkpoints, h.held⟩⟩

theorem shared_outbox : Shared (Alike held) outboxTable :=
  ⟨fun _ _ h => h.outbox, fun _ _ rows h =>
    ⟨congrArg (fun s => { s with notificationOutbox := rows }) h.same, h.checkpoints, h.held⟩⟩

theorem shared_presentation : Shared (Alike held) presentationTable :=
  ⟨fun _ _ h => h.presentation, fun _ _ rows h =>
    ⟨congrArg (fun s => { s with runPresentation := rows }) h.same, h.checkpoints, h.held⟩⟩

/-- Streams may be written that differ in when they were seen. -/
theorem Alike.put_streams {rows' : List SourceStreamRow} (h : Alike held s t)
    (hrows : rows.map SourceStreamRow.unseen = rows'.map SourceStreamRow.unseen)
    (hkeys : ∀ r ∈ s.sourceStreams, r.sourceKey ∈ rows.map SourceStreamRow.sourceKey)
    (hkeys' : ∀ r ∈ t.sourceStreams, r.sourceKey ∈ rows'.map SourceStreamRow.sourceKey) :
    Alike held (streamTable.put s rows) (streamTable.put t rows') where
  same := by
    have hrest := congrArg
      (fun u : DesktopStore => { u with sourceStreams := rows.map SourceStreamRow.unseen }) h.same
    refine hrest.trans ?_
    rw [hrows]
    rfl
  checkpoints := ⟨checkCheckpoints_put_streams h.checkpoints.1 hkeys,
    checkCheckpoints_put_streams h.checkpoints.2 hkeys'⟩
  held := h.held

/-- Events may be written that differ in when they were observed. -/
theorem Alike.put_events {rows rows' : List AgentEventRow} (h : Alike held s t)
    (hrows : rows.map AgentEventRow.unobserved = rows'.map AgentEventRow.unobserved)
    (hheld : ∀ identity ∈ s.agentEvents.map AgentEventRow.identity,
      identity ∈ rows.map AgentEventRow.identity) :
    Alike held (eventTable.put s rows) (eventTable.put t rows') where
  same := by
    have hrest := congrArg
      (fun u : DesktopStore => { u with agentEvents := rows.map AgentEventRow.unobserved }) h.same
    refine hrest.trans ?_
    rw [hrows]
    rfl
  checkpoints := h.checkpoints
  held identity hidentity := hheld identity (h.held identity hidentity)

/-! ## Programs that do not see the moving columns -/

/-- The program does the same on stores that are alike. -/
abbrev Steady {α : Type} (held : List (Text × Text × Text)) (m : Desk α) : Prop :=
  Paired (BothValid check (Alike held)) Eq m m

variable {source : SourceDescriptor} {sourceKey : Text}

section

variable (tools : Tools)

/-- The capacity reads the counters, which are settled. -/
theorem checkCapacity_steady (bytes : Nat) : Steady held (checkCapacity bytes) := by
  refine Paired.read.bind fun a b hab => ?_
  rw [hab.1.counters]
  exact .ite (.reject _) (.ite (.reject _) (.pure rfl))

/-- Runs are found alike. -/
theorem find_alike {a b : DesktopStore} (h : Alike held a b) (runKey : Text) :
    RunRepository.find runKey a = RunRepository.find runKey b := by
  unfold RunRepository.find
  rw [h.runs]

/-! ### Sources -/

/-- What a search finds in rows that differ only in a column it does not read. -/
theorem find_cases {ρ : Type} {f : ρ → ρ} {p : ρ → Bool} (hp : ∀ r, p (f r) = p r)
    {rows rows' : List ρ} (h : rows.map f = rows'.map f) :
    (rows.find? p = none ∧ rows'.find? p = none) ∨
      ∃ r r', rows.find? p = some r ∧ rows'.find? p = some r' ∧ f r = f r' := by
  have hcomp : p ∘ f = p := funext hp
  have hfind := congrArg (List.find? p) h
  rw [List.find?_map, List.find?_map, hcomp] at hfind
  cases ha : rows.find? p with
  | none =>
    rw [ha] at hfind
    exact .inl ⟨rfl, Option.map_eq_none_iff.mp hfind.symm⟩
  | some r =>
    rw [ha] at hfind
    obtain ⟨r', hb, hrow⟩ := Option.map_eq_some_iff.mp hfind.symm
    exact .inr ⟨r, r', rfl, hb, hrow.symm⟩

/-- The statement by which a source is seen again. -/
def seeStream (sourceKey : Text) (observedAt : Timestamp) (s : DesktopStore) : DesktopStore :=
  streamTable.put s
    (updateWhere (fun r => r.sourceKey == sourceKey)
      (fun r => { r with lastSeenAt := mergeTime max r.lastSeenAt observedAt }) s.sourceStreams)

/-- Seeing a source again keeps the keys. -/
theorem seeStream_sourceKeys (sourceKey : Text) (obs : Timestamp) (s : DesktopStore) :
    (seeStream sourceKey obs s).sourceStreams.map SourceStreamRow.sourceKey =
      s.sourceStreams.map SourceStreamRow.sourceKey :=
  map_updateWhere_of fun _ _ _ => rfl

/-- It changes only when the source was seen. -/
theorem seeStream_unseen (sourceKey : Text) (obs : Timestamp) (s : DesktopStore) :
    (seeStream sourceKey obs s).sourceStreams.map SourceStreamRow.unseen =
      s.sourceStreams.map SourceStreamRow.unseen :=
  map_updateWhere_of fun _ _ _ => rfl

/-- A source may be seen on one side only. -/
theorem seeStream_alike (h : Alike held s t) (sourceKey : Text) (obs : Timestamp) :
    Alike held (seeStream sourceKey obs s) t := by
  have hkeys := seeStream_sourceKeys sourceKey obs s
  have hrows := (seeStream_unseen sourceKey obs s).trans h.streams
  exact h.put_streams hrows (fun r hr => hkeys ▸ mem_map_of_mem hr) fun r => mem_map_of_mem

theorem alike_seeStream (h : Alike held s t) (sourceKey : Text) (obs : Timestamp) :
    Alike held s (seeStream sourceKey obs t) := by
  have hkeys := seeStream_sourceKeys sourceKey obs t
  have hrows := h.streams.trans (seeStream_unseen sourceKey obs t).symm
  exact h.put_streams hrows (fun r => mem_map_of_mem) fun r hr => hkeys ▸ mem_map_of_mem hr

/-- A source is added on both sides, or seen on each. -/
theorem SourceRepository.ensure_steady (source : SourceDescriptor) (obs : Timestamp) :
    Steady held (ensure desktopSqlite tools source obs) := by
  unfold ensure
  cases source.validate with
  | error => exact .reject _
  | ok =>
    refine Paired.read.bind fun a b hab => ?_
    rcases find_cases (f := SourceStreamRow.unseen)
        (p := fun r => r.sourceKey == source.sourceKey tools.hashes) (fun _ => rfl)
        hab.1.streams with ⟨ha, hb⟩ | ⟨stored, stored', ha, hb, hrow⟩
    · simp only [ha, hb]
      refine Paired.bind_eq (.execute seenAlike fun s t h => ?_) fun _ => .pure rfl
      refine h.put_streams ?_ (fun r hr => ?_) (fun r hr => ?_)
      · rw [map_append, map_append]
        exact congrArg (· ++ _) h.streams
      · exact mem_map_of_mem (mem_append_left _ hr)
      · exact mem_map_of_mem (mem_append_left _ hr)
    · have hsrc : stored.source = stored'.source := (congrArg SourceStreamRow.source hrow :)
      simp only [ha, hb, hsrc]
      refine .ite (.reject _) (Paired.bind (Q := fun _ _ => True) ?_ fun _ _ _ => .pure rfl)
      refine Paired.read.bind fun _ _ _ => ?_
      exact Paired.bind_eq (.execute seenAlike fun s t h =>
        alike_seeStream (seeStream_alike h _ _) _ _) fun _ => .pure trivial

/-- What it means that a source was ensured. -/
structure Ensured (source : SourceDescriptor) (observedAt : Timestamp) (s s' : DesktopStore)
    (sourceKey : Text) : Prop where
  key : sourceKey = source.sourceKey tools.hashes
  stored : sourceKey ∈ s'.sourceStreams.map SourceStreamRow.sourceKey
  events : s'.agentEvents = s.agentEvents
  /-- A stream that was there is only seen again. -/
  seen : sourceKey ∈ s.sourceStreams.map SourceStreamRow.sourceKey →
    s' = seeStream sourceKey observedAt s

/-- What a source's entry leaves in the store. -/
theorem SourceRepository.ensure_ensured {obs : Timestamp}
    {s' : DesktopStore} (h : ensure desktopSqlite tools source obs s = (.ok sourceKey, s')) :
    Ensured tools source obs s s' sourceKey := by
  unfold ensure at h
  cases hvalid : source.validate with
  | error =>
    rw [hvalid] at h
    cases h
  | ok =>
    rw [hvalid] at h
    simp only [read_bind_run] at h
    cases hfind : s.sourceStreams.find? fun r => r.sourceKey == source.sourceKey tools.hashes with
    | none =>
      rw [hfind] at h
      obtain ⟨_, hins, rfl⟩ := bind_pure_eq_ok.mp h
      obtain ⟨_, rfl⟩ := insert_eq_ok.mp hins
      refine ⟨rfl, ?_, rfl, fun hsto => ?_⟩
      · exact mem_map.mpr ⟨_, mem_append_right _ (mem_singleton_self _), rfl⟩
      · obtain ⟨r, hr, hrkey⟩ := mem_map.mp hsto
        exact absurd (beq_iff_eq.mpr hrkey) (List.find?_eq_none.mp hfind r hr)
    | some stored =>
      rw [hfind] at h
      have hsto : stored.sourceKey = source.sourceKey tools.hashes := by
        simpa using List.find?_some hfind
      dsimp only at h
      split at h
      · cases h
      obtain ⟨_, hupd, rfl⟩ := bind_pure_eq_ok.mp h
      obtain ⟨_, _, rfl⟩ := update_eq_ok.mp hupd
      refine ⟨rfl, ?_, rfl, fun _ => rfl⟩
      have hkeys := seeStream_sourceKeys (source.sourceKey tools.hashes) obs s
      have hmem := mem_map_of_mem (f := SourceStreamRow.sourceKey) (List.mem_of_find?_eq_some hfind)
      rw [hsto, ← hkeys] at hmem
      exact hmem

/-- The checkpoints with one of them moved. -/
def movedCheckpoints (row : CheckpointRow) (rows : List CheckpointRow) : List CheckpointRow :=
  if rows.any (fun r => r.sourceKey == row.sourceKey) then
    updateWhere (fun r => r.sourceKey == row.sourceKey) (fun _ => row) rows
  else rows ++ [row]

/-- A checkpoint of a known source passes the schema. -/
theorem checkCheckpoints_moved {row : CheckpointRow} (h : s.checkCheckpoints = true)
    (hkey : row.sourceKey ∈ s.sourceStreams.map SourceStreamRow.sourceKey) : (checkpointTable.put s
      (movedCheckpoints row s.sourceCheckpoints)).checkCheckpoints = true := by
  simp only [checkCheckpoints, tableCheck_iff, contains_eq_mem, decide_eq_true_eq] at h ⊢
  change (∀ r ∈ movedCheckpoints row s.sourceCheckpoints, _ ∈ _) ∧
    KeysUnique CheckpointRow.sourceKey (movedCheckpoints row s.sourceCheckpoints)
  unfold movedCheckpoints
  split
  · refine ⟨forall_mem_updateWhere (fun _ _ _ => hkey) h.1, ?_⟩
    have hkeys : (updateWhere (fun r : CheckpointRow => r.sourceKey == row.sourceKey)
        (fun _ => row) s.sourceCheckpoints).map CheckpointRow.sourceKey =
          s.sourceCheckpoints.map CheckpointRow.sourceKey :=
      map_updateWhere_of fun r _ hr => (beq_iff_eq.mp hr).symm
    rw [KeysUnique, hkeys]
    exact h.2
  · rename_i hnew
    refine ⟨forall_mem_snoc h.1 hkey, h.2.append fun r hr heq => hnew ?_⟩
    exact any_eq_true.mpr ⟨r, hr, beq_iff_eq.mpr heq⟩

/-- A checkpoint may be moved in two ways at once. -/
theorem Alike.put_checkpoints (h : Alike held s t) {rows rows' : List CheckpointRow}
    (hrows : (checkpointTable.put s rows).checkCheckpoints = true)
    (hrows' : (checkpointTable.put t rows').checkCheckpoints = true) :
    Alike held (checkpointTable.put s rows) (checkpointTable.put t rows') :=
  ⟨h.same, ⟨hrows, hrows'⟩, h.held⟩

/-- Moving a checkpoint is one statement. -/
theorem upsert_checkpoint (row : CheckpointRow) :
    (upsert desktopSqlite checkpointTable (fun r => r.sourceKey == row.sourceKey) row
        (fun _ => row) : Desk Unit) = execute desktopSqlite fun s =>
        checkpointTable.put s (movedCheckpoints row s.sourceCheckpoints) := by
  unfold upsert
  congr 1
  funext s
  unfold movedCheckpoints
  by_cases hany : s.sourceCheckpoints.any (fun r => r.sourceKey == row.sourceKey) = true
  · rw [if_pos hany]
    exact if_pos hany
  · rw [if_neg hany]
    exact if_neg hany

/-- A checkpoint is written on both sides, or refused on both. -/
theorem SourceRepository.checkpoint_steady (expectedSource : SourceDescriptor)
    (change : SourceCheckpointUpdate) :
    Steady held (SourceRepository.checkpoint desktopSqlite tools expectedSource change) := by
  refine .ite (.reject _) fun s t h => ?_
  obtain ⟨hmatched, haft⟩ := ensure_steady tools change.source change.updatedAt s t h
  rw [bind_run, bind_run]
  rcases hs : ensure desktopSqlite tools change.source change.updatedAt s with
    ⟨r, s1⟩
  rcases ht : ensure desktopSqlite tools change.source change.updatedAt t with
    ⟨r', t1⟩
  rw [hs, ht] at hmatched haft
  cases hmatched with
  | error e => exact ⟨.error e, haft⟩
  | @ok sourceKey _ heq =>
    subst heq
    -- the stream is there in both stores, and the statement leaves it there
    have hstr := (ensure_ensured tools hs).stored
    have hstr' := (ensure_ensured tools ht).stored
    let row : CheckpointRow :=
      { sourceKey
        cursorJson := change.cursorJson
        sourceRevision := change.sourceRevision
        status := change.status
        lastErrorCode := change.lastErrorCode
        updatedAt := change.updatedAt }
    let Streamed (s t : DesktopStore) : Prop := Alike held s t ∧
      sourceKey ∈ s.sourceStreams.map SourceStreamRow.sourceKey ∧
      sourceKey ∈ t.sourceStreams.map SourceStreamRow.sourceKey
    have hrest : Paired (BothValid check Streamed) Eq (upsert desktopSqlite checkpointTable
          (fun r => r.sourceKey == row.sourceKey) row (fun _ => row) >>= fun _ =>
            (pure sourceKey : Desk Text))
        (upsert desktopSqlite checkpointTable
          (fun r => r.sourceKey == row.sourceKey) row (fun _ => row) >>= fun _ =>
            pure sourceKey) := by
      rw [upsert_checkpoint]
      refine .bind_eq (.execute (fun s t h => seenAlike s t h.1) fun s t h => ?_) fun _ => .pure rfl
      refine ⟨h.1.put_checkpoints ?_ ?_, h.2⟩
      · exact checkCheckpoints_moved h.1.checkpoints.1 h.2.1
      · exact checkCheckpoints_moved h.1.checkpoints.2 h.2.2
    obtain ⟨hres, hend⟩ := hrest s1 t1 ⟨⟨haft.1, hstr, hstr'⟩, haft.2⟩
    exact ⟨hres, hend.1.1, hend.2⟩

/-! ### Events -/

/-- An event is recorded on both sides. -/
theorem recordEvent_steady (row : AgentEventRow) : Steady held (recordEvent desktopSqlite row) := by
  refine .execute seenAlike fun s t h => ?_
  have hevs : (s.agentEvents ++ [row]).map AgentEventRow.unobserved =
      (t.agentEvents ++ [row]).map AgentEventRow.unobserved := by
    rw [map_append, map_append, h.events]
  have hput := h.put_events hevs fun identity hid => by
    rw [map_append]
    exact mem_append_left _ hid
  rw [h.counters]
  exact ⟨congrArg (fun u : DesktopStore => { u with
    retentionCounters := { t.retentionCounters with
      eventCount := t.retentionCounters.eventCount + 1 } }) hput.same, hput.checkpoints, hput.held⟩

/-- The statement by which a replay notes when its event was observed. -/
def observe (id : Text) (observedAt : Timestamp) (s : DesktopStore) : DesktopStore :=
  eventTable.put s
    (updateWhere (fun r => r.id == id) (fun r => { r with lastObservedAt := observedAt })
      s.agentEvents)

/-- Observing an event changes only when it was. -/
theorem observe_unobserved (id : Text) (obs : Timestamp) (s : DesktopStore) :
    (observe id obs s).agentEvents.map AgentEventRow.unobserved =
      s.agentEvents.map AgentEventRow.unobserved :=
  map_updateWhere_of fun _ _ _ => rfl

/-- It is still the same event. -/
theorem observe_identities (id : Text) (obs : Timestamp) (s : DesktopStore) :
    (observe id obs s).agentEvents.map AgentEventRow.identity =
      s.agentEvents.map AgentEventRow.identity :=
  map_updateWhere_of fun _ _ _ => rfl

/-- An event may be observed on one side only. -/
theorem observe_alike (h : Alike held s t) (id : Text) (obs : Timestamp) :
    Alike held (observe id obs s) t :=
  h.put_events ((observe_unobserved id obs s).trans h.events) fun _ hid =>
    (observe_identities id obs s).symm ▸ hid

theorem alike_observe (h : Alike held s t) (id : Text) (obs : Timestamp) :
    Alike held s (observe id obs t) :=
  h.put_events (h.events.trans (observe_unobserved id obs t).symm) fun _ hid =>
    hid

/-- The note may be taken on one side only. -/
theorem observe_paired (news news' : Bool) (id id' : Text) (obs : Timestamp) :
    Paired (BothValid check (Alike held)) Eq
      (onlyIf news (execute desktopSqlite (observe id obs)) : Desk Unit)
      (onlyIf news' (execute desktopSqlite (observe id' obs))) := by
  cases news with
  | true =>
    cases news' with
    | true => exact .execute seenAlike fun s t h => alike_observe (observe_alike h _ _) _ _
    | false => exact .execute_left seenAlike fun s t h => observe_alike h _ _
  | false =>
    cases news' with
    | true => exact .execute_right seenAlike fun s t h => alike_observe h _ _
    | false => exact .pure rfl

/-- A replay, with its note as one statement. -/
theorem replay_eq (stored : AgentEventRow) (sourceKey : Text) (e : AgentEventEnvelopeV2) :
    replay desktopSqlite tools stored sourceKey e =
      if stored.payloadHash ≠ payloadHash tools e then
        fail "AGENT_EVENT_ID_CONFLICT" "同一来源中的 Agent 事件 ID 对应了不同内容"
      else
        onlyIf (stored.lastObservedAt < e.observedAt)
          (execute desktopSqlite (observe stored.id e.observedAt)) >>= fun _ =>
            pure (.replay stored.id sourceKey (stored.lastObservedAt < e.observedAt)) := by
  unfold replay
  by_cases hnews : stored.lastObservedAt < e.observedAt
  · rw [if_pos hnews]
    congr 1
    funext s
    simp only [hnews, decide_true, onlyIf, if_true]
    by_cases hacc : desktopSqlite.accepts (observe stored.id e.observedAt s) = true
    · rw [bind_run_of_ok (update_eq_ok.mpr ⟨hacc, rfl, rfl⟩),
        bind_run_of_ok (execute_run_of_accepts hacc)]
      rfl
    · rw [Bool.not_eq_true] at hacc
      rw [bind_run, update_eq_error.mpr ⟨hacc, rfl, rfl⟩, bind_run,
        execute_eq_error.mpr ⟨hacc, rfl, rfl⟩]
  · rw [if_neg hnews]
    simp only [hnews]
    rfl

/-- A replay is recognised on both sides. -/
theorem replay_paired {stored stored' : AgentEventRow}
    (hsto : stored.unobserved = stored'.unobserved) (sourceKey : Text)
    (e : AgentEventEnvelopeV2) : Paired (BothValid check (Alike held)) SameAppend
      (replay desktopSqlite tools stored sourceKey e)
      (replay desktopSqlite tools stored' sourceKey e) := by
  have hhash : stored.payloadHash = stored'.payloadHash :=
    (congrArg AgentEventRow.payloadHash hsto :)
  rw [replay_eq, replay_eq, hhash]
  -- whether the observation is news depends on a moving column
  exact .ite (.reject _) ((observe_paired _ _ _ _ _).bind_eq fun _ => .pure .replay)

/-- **Appends agree**: stored on both sides, or there on both. -/
theorem EventStore.append_paired (e : AgentEventEnvelopeV2) :
    Paired (BothValid check (Alike held)) SameAppend
      (append desktopSqlite tools e) (append desktopSqlite tools e) := by
  unfold append
  cases e.validate tools.hashes with
  | error => exact .reject _
  | ok =>
    refine (ensure_steady tools _ _).bind_eq fun sourceKey => ?_
    refine Paired.read.bind fun a b hab => ?_
    have hrow : ∀ json, eventRow tools a sourceKey json e = eventRow tools b sourceKey json e := by
      simp [eventRow, retentionClass, find_alike hab.1]
    rcases find_cases (f := AgentEventRow.unobserved)
        (p := fun r => r.sourceKey == sourceKey && r.eventId == e.eventId) (fun _ => rfl)
        hab.1.events with ⟨ha, hb⟩ | ⟨stored, stored', ha, hb, hsto⟩
    · simp only [ha, hb, hrow]
      refine (checkCapacity_steady _).bind_eq fun _ => ?_
      refine (Fits.lift _).bind_eq fun json => ?_
      exact (recordEvent_steady _).bind_eq fun _ => .pure (.inserted _ _)
    · simp only [ha, hb]
      exact replay_paired tools hsto sourceKey e

/-- Usage is read from what is settled. -/
theorem latestCodexUsage_steady (runKey : Text) : Steady held (latestCodexUsage tools runKey) := by
  refine Paired.read.bind fun a b hab => ?_
  have hfst := congrArg (firstBy (fun a b : AgentEventRow =>
      b.occurredAt < a.occurredAt || (a.occurredAt == b.occurredAt && b.id < a.id))
    (fun r => r.correlation.runKey == some runKey && r.eventKind == .runSettling)) hab.1.events
  rw [firstBy_map (f := AgentEventRow.unobserved) (fun _ _ => rfl) (fun _ => rfl),
    firstBy_map (f := AgentEventRow.unobserved) (fun _ _ => rfl) (fun _ => rfl)] at hfst
  cases ha : firstBy (fun a b : AgentEventRow =>
        b.occurredAt < a.occurredAt || (a.occurredAt == b.occurredAt && b.id < a.id))
      (fun r => r.correlation.runKey == some runKey && r.eventKind == .runSettling)
      a.agentEvents with
  | none =>
    rw [ha] at hfst
    rw [Option.map_eq_none_iff.mp hfst.symm]
    exact .pure rfl
  | some row =>
    rw [ha] at hfst
    obtain ⟨row', hb, hrow⟩ := Option.map_eq_some_iff.mp hfst.symm
    rw [hb]
    have hmetadata : row'.metadataJson = row.metadataJson :=
      (congrArg AgentEventRow.metadataJson hrow :)
    dsimp only
    rw [hmetadata]
    exact (Fits.lift _).bind_eq fun _ => .pure rfl

/-! ### The ingestion -/

/-- An output is recorded on both sides. -/
theorem recordOutput_steady (row : AgentOutputRow) :
    Steady held (recordOutput desktopSqlite row) := by
  refine .execute seenAlike fun s t h => ?_
  rw [h.outputs, h.counters]
  exact ⟨congrArg (fun u : DesktopStore => { u with
    agentOutputs := t.agentOutputs ++ [row]
    retentionCounters := { t.retentionCounters with
      outputCount := t.retentionCounters.outputCount + 1
      contentBytes := t.retentionCounters.contentBytes + row.contentBytes } }) h.same,
    h.checkpoints, h.held⟩

/-- A notice is recorded on both sides. -/
theorem recordNotice_steady (row : OutboxRow) : Steady held (recordNotice desktopSqlite row) := by
  refine Paired.read.bind fun a b hab => ?_
  have hignores : a.ignoresNotice row = b.ignoresNotice row := by simp [ignoresNotice, hab.1.outbox]
  rw [hignores]
  refine .ite (.pure rfl) (Paired.bind_eq (.execute seenAlike fun s t h => ?_) fun _ => .pure rfl)
  unfold withNotice
  rw [h.outbox, h.counters]
  exact ⟨congrArg (fun u : DesktopStore => { u with
    notificationOutbox := t.notificationOutbox ++ [row]
    retentionCounters := { t.retentionCounters with
      outboxCount := t.retentionCounters.outboxCount + 1
      contentBytes := t.retentionCounters.contentBytes + row.listContentBytes } }) h.same,
    h.checkpoints, h.held⟩

/-- Ingestion respects stores that are alike. -/
theorem steady_rules : IngestRules desktopSqlite tools (BothValid check (Alike held)) where
  same _ _ h := ⟨h.1.runs, h.1.outputs, h.1.privacy, h.1.counters, h.1.outbox, h.1.presentation⟩
  usage := latestCodexUsage_steady tools
  append := append_paired tools
  checkpoint := checkpoint_steady tools
  updateRun := shared_runs.update seenAlike
  insertRun := shared_runs.insert seenAlike
  attention := shared_attention.insert seenAlike
  present := shared_presentation.update seenAlike
  presentNew := shared_presentation.insertUnless seenAlike
  ending _ _ := shared_outbox.update seenAlike _ _
  notice _ _ s t h _ := recordNotice_steady _ s t h

theorem steady_stores : IngestRules.Stores desktopSqlite (BothValid check (Alike held)) :=
  fun row s t h _ => recordOutput_steady row s t h

end

/-! ## Sequences with repeats -/

section

variable (tools : Tools)

/-- One delivery of an envelope: the policy that is read for it, and where its
source stands afterwards. -/
structure Delivery where
  policy : Except AppError AgentNotificationPolicy
  envelope : AgentEventEnvelopeV2
  checkpoint : SourceCheckpointUpdate

/-- What `process` leaves of a store. -/
def deliver (s : DesktopStore) (d : Delivery) : DesktopStore :=
  (process desktopSqlite tools d.policy d.envelope d.checkpoint s).2

/-- The delivery was ingested. -/
def ingested (s : DesktopStore) (d : Delivery) : Bool :=
  (process desktopSqlite tools d.policy d.envelope d.checkpoint s).1.isOk

/-- The envelopes say the same; their times and their copies of the policy may
differ. -/
structure SameMeaning (e e' : AgentEventEnvelopeV2) : Prop where
  source : e'.source = e.source
  eventId : e'.eventId = e.eventId
  correlation : e'.correlation = e.correlation
  payload : e'.payload = e.payload
  metadata : e'.metadata = e.metadata

/-- `WithRepeats s seen plain padded`: from the store `s`, where the envelopes
`seen` were ingested, `padded` is `plain` with further deliveries of envelopes
that were ingested before. -/
inductive WithRepeats : DesktopStore → List AgentEventEnvelopeV2 → List Delivery →
    List Delivery → Prop where
  | done (s : DesktopStore) (seen : List AgentEventEnvelopeV2) : WithRepeats s seen [] []
  | next {s : DesktopStore} {seen : List AgentEventEnvelopeV2} {d : Delivery}
      {plain padded : List Delivery}
      (hrest : WithRepeats (deliver tools s d)
        (if ingested tools s d then d.envelope :: seen else seen) plain padded) :
      WithRepeats s seen (d :: plain) (d :: padded)
  | again {s : DesktopStore} {seen : List AgentEventEnvelopeV2} {d : Delivery}
      {e : AgentEventEnvelopeV2} {plain padded : List Delivery} (hseen : e ∈ seen)
      (hsame : SameMeaning e d.envelope)
      (hrest : WithRepeats (deliver tools s d) seen plain padded) :
      WithRepeats s seen plain (d :: padded)

/-- What an ingestion projects. -/
def projections (s : DesktopStore) :
    List AgentRunRecord × List AgentOutputRow × List AttentionRow × List PresentationRow ×
      List OutboxRow :=
  (s.agentRuns, s.agentOutputs, s.attentionEvents, s.runPresentation, s.notificationOutbox)

/-- Under which identity an envelope is stored. -/
def identityOf (e : AgentEventEnvelopeV2) : Text × Text × Text :=
  (e.sourceKey tools.hashes, e.eventId, payloadHash tools e)

variable {tools} {e : AgentEventEnvelopeV2} {s' : DesktopStore} {result : EventAppendResult}
  {seen : List AgentEventEnvelopeV2}

theorem schemaVersion_of_valid (h : e.validate tools.hashes = .ok ()) :
    e.schemaVersion = agentEventSchemaVersion := by
  unfold AgentEventEnvelopeV2.validate at h
  split at h
  · cases h
  · rename_i hver
    exact not_not.mp hver

/-- Envelopes that mean the same are one event. -/
theorem SameMeaning.identityOf_eq {e' : AgentEventEnvelopeV2} (h : SameMeaning e e')
    (hvalid : e.validate tools.hashes = .ok ()) (hvalid' : e'.validate tools.hashes = .ok ()) :
    identityOf tools e' = identityOf tools e := by
  have hver : e'.schemaVersion = e.schemaVersion :=
    (schemaVersion_of_valid hvalid').trans (schemaVersion_of_valid hvalid).symm
  simp [identityOf, AgentEventEnvelopeV2.sourceKey, payloadHash, h.source,
    h.eventId, h.correlation, h.payload, h.metadata, hver]

/-- A delivery is ingested, or leaves the store as it was. -/
theorem deliver_cases (tools : Tools) (s : DesktopStore) (d : Delivery) :
    (ingested tools s d = false ∧ deliver tools s d = s) ∨
      ∃ policy outcome, d.envelope.validate tools.hashes = .ok () ∧
        ingest desktopSqlite tools d.envelope policy d.checkpoint s =
          (.ok outcome, deliver tools s d) := by
  unfold ingested deliver
  rcases process_outcome desktopSqlite tools d.policy d.envelope d.checkpoint s with
    ⟨error, hrejected⟩ | ⟨settings, outcome, s', hvalid, _, hing, hproc⟩
  · rw [hrejected]
    exact .inl ⟨rfl, rfl⟩
  · rw [hproc]
    exact .inr ⟨settings, outcome, hvalid, hing⟩

/-- What an append found and did, after its source was ensured. -/
inductive Appended (tools : Tools) (e : AgentEventEnvelopeV2) (s s' : DesktopStore) :
    EventAppendResult → Prop where
  | replay {stored : AgentEventRow} {sourceKey : Text} {advanced : Bool}
      (hmem : stored ∈ s.agentEvents) (hidentity : stored.identity = identityOf tools e)
      (hnote : s' = s ∨ s' = observe stored.id e.observedAt s) :
      Appended tools e s s' (.replay stored.id sourceKey advanced)
  | inserted {row : AgentEventRow} {eventRowId sourceKey : Text}
      (hnew : ∀ r ∈ s.agentEvents, r.sourceKey = e.sourceKey tools.hashes → r.eventId ≠ e.eventId)
      (hidentity : row.identity = identityOf tools e)
      (hevents : s'.agentEvents = s.agentEvents ++ [row]) :
      Appended tools e s s' (.inserted eventRowId sourceKey)

/-- An append enters the source, then the event. -/
theorem append_appended (h : append desktopSqlite tools e s = (.ok result, s')) :
    ∃ s1, Ensured tools e.source e.observedAt s s1 (e.sourceKey tools.hashes) ∧
      Appended tools e s1 s' result := by
  unfold append at h
  cases hvalid : e.validate tools.hashes with
  | error =>
    rw [hvalid] at h
    cases h
  | ok _ =>
    rw [hvalid] at h
    obtain ⟨sourceKey, s1, hensure, hrest⟩ := bind_eq_ok.mp h
    have hensured := ensure_ensured tools hensure
    obtain rfl := hensured.key
    refine ⟨s1, hensured, ?_⟩
    simp only [read_bind_run] at hrest
    cases hfind : s1.agentEvents.find? fun r =>
        r.sourceKey == e.source.sourceKey tools.hashes && r.eventId == e.eventId with
    | none =>
      rw [hfind] at hrest
      obtain ⟨_, s2, hcap, hrest⟩ := bind_eq_ok.mp hrest
      obtain rfl := (checkCapacity_reads _).eq_of_ok hcap
      obtain ⟨json, s3, hprotect, hrest⟩ := bind_eq_ok.mp hrest
      obtain ⟨_, rfl⟩ := lift_eq_ok.mp hprotect
      obtain ⟨_, hrec, rfl⟩ := bind_pure_eq_ok.mp hrest
      obtain ⟨_, rfl⟩ := execute_eq_ok.mp hrec
      refine .inserted (fun r hr hkey hid => ?_) rfl rfl
      have hmiss := List.find?_eq_none.mp hfind r hr
      simp only [Bool.and_eq_true, beq_iff_eq] at hmiss
      exact hmiss ⟨hkey, hid⟩
    | some stored =>
      rw [hfind] at hrest
      dsimp only at hrest
      rw [replay_eq] at hrest
      split at hrest
      · cases hrest
      rename_i hhash
      obtain ⟨_, hobserve, rfl⟩ := bind_pure_eq_ok.mp hrest
      have hkey := List.find?_some hfind
      simp only [Bool.and_eq_true, beq_iff_eq] at hkey
      refine .replay (List.mem_of_find?_eq_some hfind) ?_ ?_
      · simp [AgentEventRow.identity, identityOf, hkey, not_not.mp hhash,
          AgentEventEnvelopeV2.sourceKey]
      unfold onlyIf at hobserve
      split at hobserve
      · exact .inr (execute_eq_ok.mp hobserve).2
      · exact .inl (Prod.mk.inj hobserve).2.symm

/-- An appended event is in the store. -/
theorem Appended.stored (h : Appended tools e s s' result) :
    identityOf tools e ∈ s'.agentEvents.map AgentEventRow.identity := by
  cases h with
  | replay hmem hid hnote =>
    have hin := mem_map_of_mem (f := AgentEventRow.identity) hmem
    rw [hid] at hin
    rcases hnote with rfl | rfl
    · exact hin
    · rw [observe_identities]
      exact hin
  | inserted _ hid hevs =>
    rw [hevs, ← hid]
    exact mem_map_of_mem (mem_append_right _ (mem_singleton_self _))

/-- An event that is there is not inserted again. -/
theorem Appended.replayed (h : Appended tools e s s' result)
    (hin : identityOf tools e ∈ s.agentEvents.map AgentEventRow.identity)
    (halike : Alike held s t) :
    Alike held s' t ∧ ∃ id key advanced, result = .replay id key advanced := by
  cases h with
  | replay _ _ hnote =>
    refine ⟨?_, _, _, _, rfl⟩
    rcases hnote with rfl | rfl
    · exact halike
    · exact observe_alike halike _ _
  | inserted hnew =>
    obtain ⟨r, hr, hid⟩ := mem_map.mp hin
    obtain ⟨hkey, hrest⟩ := Prod.mk.inj hid
    exact absurd (Prod.mk.inj hrest).1 (hnew r hr hkey)

variable {policy : AgentNotificationPolicy} {checkpoint : SourceCheckpointUpdate}
  {outcome : CommittedOutcome}

/-- The event of an ingestion is stored when it commits. -/
theorem ingest_stored (hs : s.check = true)
    (h : ingest desktopSqlite tools e policy checkpoint s = (.ok outcome, s')) :
    identityOf tools e ∈ s'.agentEvents.map AgentEventRow.identity := by
  obtain ⟨_, s0, happlied, haft⟩ := bind_eq_ok.mp h
  rw [(requireApplied_reads _).eq_of_ok happlied] at haft
  obtain ⟨result, s₁, happ, hrest⟩ := bind_eq_ok.mp haft
  have hacts : Acts Scope.aside (append desktopSqlite tools e) := append_acts desktopSqlite tools e
  have hchk : s₁.check = true := (hacts.within happ).check hs
  obtain ⟨s2, _, happended⟩ := append_appended happ
  -- what follows keeps every event that is stored
  have hheld : Alike [identityOf tools e] s₁ s₁ := by
    refine .refl hchk fun identity hid => ?_
    rw [mem_singleton.mp hid]
    exact happended.stored
  have hsteady : Steady [identityOf tools e]
      (projectAppended desktopSqlite tools e policy checkpoint.updatedAt result >>=
        fun projected => SourceRepository.checkpoint desktopSqlite tools e.source checkpoint >>=
          fun _ => pure projected) := by
    refine Paired.bind_eq ?_ fun _ => ?_
    · cases result with
      | replay => exact .pure rfl
      | inserted =>
        exact (steady_rules tools).projectAppended e policy steady_stores _ (.inserted _ _)
    · exact (checkpoint_steady tools _ _).bind_eq fun _ => .pure rfl
  have hend := (hsteady s₁ s₁ ⟨hheld, hchk, hchk⟩).2.1.held
  rw [hrest] at hend
  exact hend _ mem_cons_self

/-- The checkpoint of a source that has its stream, moved on one side. -/
theorem checkpoint_alike {change : SourceCheckpointUpdate}
    (hstr : source.sourceKey tools.hashes ∈ s.sourceStreams.map SourceStreamRow.sourceKey)
    (h : SourceRepository.checkpoint desktopSqlite tools source change s = (.ok sourceKey, s'))
    (halike : Alike held s t) : Alike held s' t := by
  unfold SourceRepository.checkpoint at h
  split at h
  · cases h
  rename_i hsrc
  obtain rfl := not_not.mp hsrc
  obtain ⟨key, s1, hensure, hrest⟩ := bind_eq_ok.mp h
  obtain ⟨_, hups, _⟩ := bind_pure_eq_ok.mp hrest
  have hensured := ensure_ensured tools hensure
  obtain rfl := hensured.key
  obtain rfl := hensured.seen hstr
  have hseen := seeStream_alike halike (change.source.sourceKey tools.hashes) change.updatedAt
  let row : CheckpointRow :=
    { sourceKey := change.source.sourceKey tools.hashes, cursorJson := change.cursorJson,
      sourceRevision := change.sourceRevision, status := change.status,
      lastErrorCode := change.lastErrorCode, updatedAt := change.updatedAt }
  have hmoved := (congrFun (upsert_checkpoint row) _).symm.trans hups
  obtain ⟨_, rfl⟩ := execute_eq_ok.mp hmoved
  exact hseen.put_checkpoints (checkCheckpoints_moved hseen.checkpoints.1 hensured.stored)
    halike.checkpoints.2

/-- An ingestion of an event that is there moves nothing but the columns for it. -/
theorem ingest_again (hs : s.check = true)
    (hheld : ∀ identity ∈ held, identity ∈ s.agentEvents.map AgentEventRow.identity)
    (hin : identityOf tools e ∈ s.agentEvents.map AgentEventRow.identity)
    (h : ingest desktopSqlite tools e policy checkpoint s = (.ok outcome, s')) :
    Alike held s' s := by
  obtain ⟨_, s0, happlied, haft⟩ := bind_eq_ok.mp h
  rw [(requireApplied_reads _).eq_of_ok happlied] at haft
  obtain ⟨result, s1, happ, hrest⟩ := bind_eq_ok.mp haft
  obtain ⟨projected, s2, hproj, hmoved⟩ := bind_eq_ok.mp hrest
  obtain ⟨_, hcheckpoint, _⟩ := bind_pure_eq_ok.mp hmoved
  obtain ⟨s4, hensured, happended⟩ := append_appended happ
  -- an event refers to the stream of its source
  have hstr : e.sourceKey tools.hashes ∈ s.sourceStreams.map SourceStreamRow.sourceKey := by
    obtain ⟨r, hr, hid⟩ := mem_map.mp hin
    obtain ⟨hkey, _⟩ := Prod.mk.inj hid
    obtain ⟨_, hevs, _⟩ := check_iff.mp hs
    simp only [checkEvents, Bool.and_eq_true, tableCheck_iff,
      contains_eq_mem, decide_eq_true_eq] at hevs
    exact hkey ▸ (hevs.1.1.1 r hr).2
  obtain rfl := hensured.seen hstr
  have halike : Alike held (seeStream (e.sourceKey tools.hashes) e.observedAt s) s :=
    seeStream_alike (.refl hs hheld) _ _
  obtain ⟨hafterAppend, id, key, advanced, rfl⟩ := happended.replayed hin halike
  obtain ⟨_, rfl⟩ := Prod.mk.inj hproj
  refine checkpoint_alike ?_ hcheckpoint hafterAppend
  have hkeys := congrArg (List.map SourceStreamRow.sourceKey) hafterAppend.streams
  rw [map_map, map_map] at hkeys
  exact (hkeys ▸ hstr :)

/-- What holds between the store of the padded sequence and that of the plain
one. -/
structure Following (tools : Tools) (seen : List AgentEventEnvelopeV2) (s t : DesktopStore) :
    Prop where
  alike : Alike (seen.map (identityOf tools)) s t
  valid : s.check = true ∧ t.check = true
  seen : ∀ e ∈ seen, e.validate tools.hashes = .ok ()

/-- A new delivery on both sides. -/
theorem Following.next (h : Following tools seen s t) (d : Delivery) :
    Following tools (if ingested tools s d then d.envelope :: seen else seen)
      (deliver tools s d) (deliver tools t d) := by
  obtain ⟨_, halike, hvalid⟩ := (steady_rules tools).process d.envelope steady_stores d.policy
    d.checkpoint s t ⟨h.alike, h.valid⟩
  rcases deliver_cases tools s d with ⟨hno, _⟩ | ⟨policy, outcome, hvalidEvent, hing⟩
  · rw [hno]
    exact ⟨halike, hvalid, h.seen⟩
  split
  · refine ⟨⟨halike.same, halike.checkpoints, ?_⟩, hvalid, ?_⟩
    · intro identity hid
      rcases mem_cons.mp hid with rfl | hold
      · exact ingest_stored h.valid.1 hing
      · exact halike.held identity hold
    · intro e he
      rcases mem_cons.mp he with rfl | hold
      · exact hvalidEvent
      · exact h.seen e hold
  · exact ⟨halike, hvalid, h.seen⟩

/-- A repeat on one side. -/
theorem Following.again (h : Following tools seen s t) {d : Delivery} (he : e ∈ seen)
    (hsame : SameMeaning e d.envelope) : Following tools seen (deliver tools s d) t := by
  rcases deliver_cases tools s d with ⟨_, hkept⟩ | ⟨policy, outcome, hvalid, hing⟩
  · rw [hkept]
    exact h
  have hid := hsame.identityOf_eq (h.seen e he) hvalid
  have hin : identityOf tools d.envelope ∈ s.agentEvents.map AgentEventRow.identity := by
    rw [hid]
    exact h.alike.held _ (mem_map_of_mem he)
  have hagain := (ingest_again h.valid.1 h.alike.held hin hing).trans h.alike
  exact ⟨hagain, ⟨hagain.check_eq.trans h.valid.2, h.valid.2⟩, h.seen⟩

/-- Sequences with and without repeats, step by step. -/
theorem following_run {plain padded : List Delivery}
    (hrepeats : WithRepeats tools s seen plain padded) (h : Following tools seen s t) :
    projections (padded.foldl (deliver tools) s) = projections (plain.foldl (deliver tools) t) := by
  induction hrepeats generalizing t with
  | done =>
    simp [projections, h.alike.runs, h.alike.outputs, h.alike.attention, h.alike.presentation,
      h.alike.outbox]
  | next _ ih => exact ih (h.next _)
  | again he hsame _ ih => exact ih (h.again he hsame)

/-- **Repeated deliveries change nothing that is projected**, and an envelope
that is rejected leaves the store as it was. -/
theorem repeated_deliveries_change_nothing (tools : Tools) {s : DesktopStore}
    (hs : s.check = true) : (∀ plain padded, WithRepeats tools s [] plain padded →
      projections (padded.foldl (deliver tools) s) = projections (plain.foldl (deliver tools) s)) ∧
    ∀ engine policy e checkpoint error s',
      process engine tools policy e checkpoint s = (.error error, s') →
        s' = s := by
  refine ⟨fun plain padded hrepeats => ?_, fun engine policy e checkpoint error s' hrejected => ?_⟩
  · have hnone : ∀ e ∈ ([] : List AgentEventEnvelopeV2), e.validate tools.hashes = .ok () :=
      fun _ he => absurd he not_mem_nil
    exact following_run hrepeats
      ⟨.refl hs fun _ hidentity => absurd hidentity not_mem_nil, ⟨hs, hs⟩, hnone⟩
  rcases process_outcome engine tools policy e checkpoint s with
    ⟨_, hkept⟩ | ⟨_, _, _, _, _, _, hingested⟩
  · rw [hkept] at hrejected
    exact (Prod.mk.inj hrejected).2.symm
  · rw [hingested] at hrejected
    cases (Prod.mk.inj hrejected).1

/-- A delivery of the start of the run `r`. -/
def sampleDelivery (now : Timestamp) : Delivery :=
  ⟨.ok samplePolicy, sampleEvent "a" now (.runStarted ⟨text "c", none, none, none, none⟩),
    sampleCheckpoint now⟩

/-- An envelope delivered again, and one under a policy that was not applied. -/
theorem repeated_deliveries_change_nothing_sample :
    ingested sampleTools initial (sampleDelivery 0) = true ∧
      projections ([sampleDelivery 0, sampleDelivery 7].foldl (deliver sampleTools) initial) =
        projections ([sampleDelivery 0].foldl (deliver sampleTools) initial) ∧
      ∃ error, process desktopSqlite sampleTools
        (.ok ⟨{ samplePolicy.notifications with policyRevision := 3 }, .statusOnly⟩)
        (sampleDelivery 0).envelope (sampleDelivery 0).checkpoint initial =
          (.error error, initial) := by
  have hingested : ingested sampleTools initial (sampleDelivery 0) = true := by decide +kernel
  have hcheck : initial.check = true := by decide
  have htheorem := repeated_deliveries_change_nothing sampleTools hcheck
  refine ⟨hingested, htheorem.1 _ _ (.next ?_), ?_⟩
  · rw [hingested]
    exact .again List.mem_cons_self ⟨rfl, rfl, rfl, rfl, rfl⟩ (.done _ _)
  have hrejected : (process desktopSqlite sampleTools
      (.ok ⟨{ samplePolicy.notifications with policyRevision := 3 }, .statusOnly⟩)
      (sampleDelivery 0).envelope (sampleDelivery 0).checkpoint initial).1.isOk = false := by
    decide +kernel
  rcases hrun : process desktopSqlite sampleTools
      (.ok ⟨{ samplePolicy.notifications with policyRevision := 3 }, .statusOnly⟩)
      (sampleDelivery 0).envelope (sampleDelivery 0).checkpoint initial with
    ⟨error | outcome, s'⟩
  · exact ⟨error, by rw [htheorem.2 _ _ _ _ _ _ hrun]⟩
  · rw [hrun] at hrejected
    cases hrejected

end

end PromptDock.Desktop
