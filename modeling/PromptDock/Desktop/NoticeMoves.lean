import PromptDock.Desktop.DesktopPolicy

/-!
# What the desktop's programs do to notices

Ingestion, the finalizer and the policy projection do two things to the outbox:
they add notices, and they end notices that are still live (`QuietMove`).  Only
the delivery worker moves a notice otherwise.  `Acts scope` says this of a
program, together with which of the other tables it may change and which notices
it may add; it is closed under sequencing, so each repository action is placed
in a scope once.
-/

namespace PromptDock.Desktop

open RowTable TableStatement DesktopStore StoreAction.Action

/-! ## The schema as propositions -/

variable {s : DesktopStore}

namespace DesktopStore

structure Valid (s : DesktopStore) : Prop where
  noticeIds : KeysUnique OutboxRow.id s.notificationOutbox
  runKeys : KeysUnique AgentRunRecord.runKey s.agentRuns
  noticeNamesRun : ∀ r ∈ s.notificationOutbox, r.namesRun = true
  noticeRun : ∀ r ∈ s.notificationOutbox, ∀ key, r.agentRunKey = some key →
    ∃ run ∈ s.agentRuns, run.runKey = key

/-- The check of the schema gives the invariants. -/
theorem valid_of_check (h : s.check = true) : s.Valid := by
  simp only [check, checkRuns, checkOutbox, tableCheck, Bool.and_eq_true, distinct_iff_nodup,
    List.all_eq_true] at h
  obtain ⟨⟨⟨⟨_, hruns⟩, _⟩, hbox⟩, _⟩ := h.1
  refine
    { noticeIds := hbox.1.1.2, runKeys := hruns.1.2, noticeNamesRun := ?_, noticeRun := ?_ }
  · intro r hr
    have hchk := (hbox.1.1.1 r hr).1
    simp only [OutboxRow.check, Bool.and_eq_true] at hchk
    exact hchk.2
  · intro r hr key hkey
    have hcontains := (hbox.1.1.1 r hr).2
    rw [hkey] at hcontains
    simpa using hcontains

end DesktopStore

/-- A run is found by its key. -/
theorem find_eq_some (hs : s.check = true) {runKey : Text} {run : AgentRunRecord} :
    RunRepository.find runKey s = some run ↔ run ∈ s.agentRuns ∧ run.runKey = runKey := by
  constructor
  · intro h
    exact ⟨List.mem_of_find?_eq_some h, by simpa using List.find?_some h⟩
  rintro ⟨hmem, rfl⟩
  cases hfind : RunRepository.find run.runKey s with
  | none =>
    have hno := List.find?_eq_none.mp hfind run hmem
    simp at hno
  | some other =>
    have hoth : other.runKey = run.runKey := by simpa using List.find?_some hfind
    rw [(valid_of_check hs).runKeys.eq_of_key (List.mem_of_find?_eq_some hfind) hmem hoth]

/-! ## Moves of one notice -/

/-- The columns by which a notice is known. -/
structure SameNotice (r r' : OutboxRow) : Prop where
  id : r'.id = r.id
  agentRunKey : r'.agentRunKey = r.agentRunKey
  eventKind : r'.eventKind = r.eventKind

theorem SameNotice.refl (r : OutboxRow) : SameNotice r r := ⟨rfl, rfl, rfl⟩

/-- Still the same notice after two moves. -/
theorem SameNotice.trans {a b c : OutboxRow} (h : SameNotice a b) (h' : SameNotice b c) :
    SameNotice a c where
  id := h'.id.trans h.id
  agentRunKey := h'.agentRunKey.trans h.agentRunKey
  eventKind := h'.eventKind.trans h.eventKind

/-- A notice stays as it is, or it ends. -/
def QuietMove (r r' : OutboxRow) : Prop :=
  r' = r ∨ (SameNotice r r' ∧ r.status.live = true ∧ r'.status.live = false)

namespace QuietMove

theorem refl (r : OutboxRow) : QuietMove r r := .inl rfl

/-- Quiet moves compose. -/
theorem trans (a b c : OutboxRow) (h : QuietMove a b) (h' : QuietMove b c) : QuietMove a c := by
  rcases h with rfl | ⟨hsame, hlive, hdead⟩
  · exact h'
  rcases h' with rfl | ⟨_, hlive', _⟩
  · exact .inr ⟨hsame, hlive, hdead⟩
  · rw [hdead] at hlive'
    cases hlive'

variable {r r' : OutboxRow}

/-- A quiet move keeps what the notice is about. -/
theorem same (h : QuietMove r r') : SameNotice r r' := by
  rcases h with rfl | ⟨hsame, _⟩
  · exact .refl _
  · exact hsame

/-- A notice that is live afterwards did not move. -/
theorem eq_of_live (h : QuietMove r r') (hlive : r'.status.live = true) : r' = r := by
  rcases h with rfl | ⟨_, _, hdead⟩
  · rfl
  · rw [hdead] at hlive
    cases hlive

end QuietMove

/-- What can be claimed is live. -/
theorem OutboxRowStatus.live_of_claimable {status : OutboxRowStatus}
    (h : status.claimable = true) : status.live = true := by
  rw [OutboxRowStatus.live, h]
  rfl

/-- A notice that `enters` admits, as it was added or ended since. -/
def Entered (enters : OutboxRow → Prop) (r : OutboxRow) : Prop :=
  ∃ r₀, enters r₀ ∧ QuietMove r₀ r

/-- What quiet programs do to the outbox. -/
abbrev NoticeGrowth (enters : OutboxRow → Prop) (before after : List OutboxRow) : Prop :=
  RowGrowth OutboxRow.id QuietMove (Entered enters) before after

/-! ## Scopes -/

/-- What a program may do besides: the tables it may change, and the notices it
may add. -/
structure Scope where
  (runs outputs privacy : Bool)
  enters : OutboxRow → Prop

/-- The scope of a program that adds no notice and touches only sources, events,
attention and presentation. -/
def Scope.aside : Scope := ⟨false, false, false, fun _ => False⟩

/-- One scope allows what another does. -/
structure Scope.Le (small large : Scope) : Prop where
  runs : large.runs = false → small.runs = false
  outputs : large.outputs = false → small.outputs = false
  privacy : large.privacy = false → small.privacy = false
  enters : ∀ r, small.enters r → large.enters r

/-- Every scope allows what goes on aside. -/
theorem Scope.aside_le (scope : Scope) : Scope.aside.Le scope :=
  ⟨fun _ => rfl, fun _ => rfl, fun _ => rfl, fun _ h => h.elim⟩

/-- The store changed within a scope. -/
structure Within (scope : Scope) (s s' : DesktopStore) : Prop where
  check : s.check = true → s'.check = true
  notices : NoticeGrowth scope.enters s.notificationOutbox s'.notificationOutbox
  hold : s'.hold = s.hold
  runs : scope.runs = false → s'.agentRuns = s.agentRuns
  outputs : scope.outputs = false → s'.agentOutputs = s.agentOutputs
  privacy : scope.privacy = false → s'.desktopPrivacy = s.desktopPrivacy

variable {scope : Scope} {change : OutboxRow → OutboxRow} {guard : OutboxRow → Bool}

namespace Within

theorem refl (scope : Scope) (s : DesktopStore) : Within scope s s where
  check := id
  notices := .refl QuietMove.refl _
  hold := rfl
  runs _ := rfl
  outputs _ := rfl
  privacy _ := rfl

/-- Changes within a scope compose. -/
theorem trans (scope : Scope) (a b c : DesktopStore) (h : Within scope a b)
    (h' : Within scope b c) : Within scope a c where
  check hcheck := h'.check (h.check hcheck)
  notices := by
    refine RowGrowth.trans QuietMove.trans ?_ h.notices h'.notices
    rintro r r' ⟨r0, henter, hmove⟩ hmove'
    exact ⟨r0, henter, hmove.trans _ _ _ hmove'⟩
  hold := h'.hold.trans h.hold
  runs hno := (h'.runs hno).trans (h.runs hno)
  outputs hno := (h'.outputs hno).trans (h.outputs hno)
  privacy hno := (h'.privacy hno).trans (h.privacy hno)

variable {s s' : DesktopStore}

/-- A change is within every larger scope. -/
theorem mono {small large : Scope} (hle : small.Le large) (h : Within small s s') :
    Within large s s' where
  check := h.check
  notices := h.notices.mono (fun _ _ hmove => hmove) fun _ ⟨r0, henter, hmove⟩ =>
    ⟨r0, hle.enters r0 henter, hmove⟩
  hold := h.hold
  runs hno := h.runs (hle.runs hno)
  outputs hno := h.outputs (hle.outputs hno)
  privacy hno := h.privacy (hle.privacy hno)

/-- A change of tables that a scope does not speak of. -/
theorem of_eq (hchk : s'.check = true) (hnots : s'.notificationOutbox = s.notificationOutbox)
    (hhold : s'.hold = s.hold) (hruns : scope.runs = false → s'.agentRuns = s.agentRuns)
    (houts : scope.outputs = false → s'.agentOutputs = s.agentOutputs)
    (hpriv : scope.privacy = false → s'.desktopPrivacy = s.desktopPrivacy) : Within scope s s' where
  check _ := hchk
  notices := by
    rw [hnots]
    exact .refl QuietMove.refl _
  hold := hhold
  runs := hruns
  outputs := houts
  privacy := hpriv

/-- An update of the outbox that ends the notices it touches. -/
theorem of_ending
    (hchk : (outboxTable.put s (updateWhere guard change s.notificationOutbox)).check = true)
    (hlive : ∀ r, guard r = true → r.status.live = true)
    (hends : ∀ r, SameNotice r (change r) ∧ (change r).status.live = false) :
    Within scope s (outboxTable.put s (updateWhere guard change s.notificationOutbox)) where
  check _ := hchk
  notices := by
    refine RowGrowth.update QuietMove.refl fun r _ hg => ?_
    exact ⟨(hends r).1.id.symm, .inr ⟨(hends r).1, hlive r hg, (hends r).2⟩⟩
  hold := rfl
  runs _ := rfl
  outputs _ := rfl
  privacy _ := rfl

end Within

instance (scope : Scope) : Std.Refl (Within scope) := ⟨Within.refl scope⟩

instance (scope : Scope) : IsTrans DesktopStore (Within scope) := ⟨Within.trans scope⟩

/-- A program stays within a scope. -/
def Acts {α : Type} (scope : Scope) (m : Desk α) : Prop :=
  Keeps (Within scope) m

/-- A program changes nothing. -/
def Reads {α : Type} (m : Desk α) : Prop :=
  Keeps (fun s s' => s' = s) m

variable {α β : Type} {R : DesktopStore → DesktopStore → Prop} {s' : DesktopStore}
  {condition : Bool}

namespace Reads

theorem pure (a : α) : Reads (Pure.pure a : Desk α) := fun _ => rfl

theorem read : Reads (read : Desk DesktopStore) := fun _ => rfl

theorem reject (e : AppError) : Reads (reject e : Desk α) := fun _ => rfl

variable {m : Desk α}

/-- Two programs that only read. -/
theorem bind {f : α → Desk β} (hm : Reads m) (hf : ∀ a, Reads (f a)) : Reads (m >>= f) :=
  Keeps.bind hm hf

theorem lift (res : Except AppError α) : Reads (lift res) := by
  cases res with
  | error e => exact .reject e
  | ok a => exact .pure a

/-- A program that only reads keeps what is reflexive. -/
theorem keeps (hrefl : ∀ s, R s s) (h : Reads m) : Keeps R m := by
  intro s
  rw [h s]
  exact hrefl s

/-- What a program that changes nothing leaves. -/
theorem eq_of_ok (h : Reads m) {a : α} (hrun : m s = (.ok a, s')) : s' = s := by
  have hs := h s
  rw [hrun] at hs
  exact hs

end Reads

variable {engine : DesktopEngine}

namespace Acts

variable {m : Desk α}

/-- A program that only reads is within every scope. -/
theorem of_reads (h : Reads m) : Acts scope m :=
  h.keeps (Within.refl scope)

theorem pure (a : α) : Acts scope (Pure.pure a : Desk α) := of_reads (.pure a)

theorem read : Acts scope (read : Desk DesktopStore) := of_reads .read

theorem fail (code message : String) : Acts scope (fail code message : Desk α) :=
  of_reads (.reject _)

theorem lift (res : Except AppError α) : Acts scope (lift res) := of_reads (.lift res)

/-- A sequence stays within the scope of its parts. -/
theorem bind {f : α → Desk β} (hm : Acts scope m) (hf : ∀ a, Acts scope (f a)) :
    Acts scope (m >>= f) :=
  Keeps.bind hm hf

theorem onlyIf {m : Desk Unit} (h : Acts scope m) : Acts scope (onlyIf condition m) :=
  Keeps.onlyIf fun _ => h

/-- A failed transaction leaves the store as it was. -/
theorem allOrNothing (h : Acts scope m) : Acts scope (allOrNothing m) :=
  Keeps.allOrNothing h

theorem ite {condition : Prop} [Decidable condition] {m' : Desk α} (h : Acts scope m)
    (h' : Acts scope m') : Acts scope (if condition then m else m') :=
  Keeps.ite h h'

/-- A statement within the scope that the schema admits. -/
theorem execute {stmt : DesktopStore → DesktopStore}
    (h : ∀ s, (stmt s).check = true → Within scope s (stmt s)) :
    Acts scope (execute engine stmt : Desk Unit) :=
  Keeps.execute h

/-- A program that ran within a scope. -/
theorem within (h : Acts scope m) {a : α} (hrun : m s = (.ok a, s')) : Within scope s s' := by
  have hs := h s
  rw [hrun] at hs
  exact hs

/-- Statements that end live notices stay within every scope. -/
theorem ending (hlive : ∀ r, guard r = true → r.status.live = true)
    (hends : ∀ r, SameNotice r (change r) ∧ (change r).status.live = false) :
    Acts scope (update engine outboxTable (fun _ => guard) change) :=
  update_keeps fun _ hchk =>
    .of_ending hchk hlive hends

end Acts

/-! ## Tables that a scope does not speak of -/

/-- Rows of a table that a scope does not speak of may be put in any way. -/
structure Aside {ρ : Type} (t : Table DesktopStore ρ) : Prop where
  notices : ∀ s rows, (t.put s rows).notificationOutbox = s.notificationOutbox
  hold : ∀ s rows, (t.put s rows).hold = s.hold
  runs : ∀ s rows, (t.put s rows).agentRuns = s.agentRuns
  outputs : ∀ s rows, (t.put s rows).agentOutputs = s.agentOutputs
  privacy : ∀ s rows, (t.put s rows).desktopPrivacy = s.desktopPrivacy

theorem aside_streams : Aside streamTable := by
  constructor <;> exact fun _ _ => rfl

theorem aside_checkpoints : Aside checkpointTable := by
  constructor <;> exact fun _ _ => rfl

theorem aside_events : Aside eventTable := by
  constructor <;> exact fun _ _ => rfl

theorem aside_attention : Aside attentionTable := by
  constructor <;> exact fun _ _ => rfl

theorem aside_presentation : Aside presentationTable := by
  constructor <;> exact fun _ _ => rfl

namespace Aside

variable {ρ : Type} {t : Table DesktopStore ρ} (h : Aside t)

include h

/-- A table aside can be written in every scope. -/
theorem within (s : DesktopStore) (rows : List ρ) (hchk : (t.put s rows).check = true) :
    Within scope s (t.put s rows) :=
  .of_eq hchk (h.notices s rows) (h.hold s rows) (fun _ => h.runs s rows)
    (fun _ => h.outputs s rows) fun _ => h.privacy s rows

theorem insert (row : ρ) : Acts scope (insert engine t row) :=
  insert_keeps_put h.within row

theorem insertUnless (conflict : ρ → Bool) (row : ρ) :
    Acts scope (insertUnless engine t conflict row) :=
  insertUnless_keeps fun s _ => h.within s _

theorem update (guard : DesktopStore → ρ → Bool) (change : ρ → ρ) :
    Acts scope (update engine t guard change) :=
  update_keeps_put h.within guard change

end Aside

/-! ## The repositories -/

variable {bytes : Nat}

section

variable (engine : DesktopEngine) (tools : Tools)

theorem checkCapacity_reads (bytes : Nat) : Reads (checkCapacity bytes) := by
  refine .bind .read fun s => ?_
  split
  · exact .reject _
  split
  · exact .reject _
  · exact .pure _

theorem requireApplied_reads (rev : Int) : Reads (requireApplied rev) := by
  refine .bind .read fun s => ?_
  split
  · exact .reject _
  · exact .pure _

/-- The capacity of the store admits one more record with so many bytes. -/
def Admits (s : DesktopStore) (bytes : Nat) : Prop :=
  hasCapacity s.retentionCounters bytes = true

/-- A check of the capacity that was passed, and left everything as it was. -/
theorem checkCapacity_eq_ok {u : Unit}
    (h : checkCapacity bytes s = (.ok u, s')) : Admits s bytes ∧ s' = s := by
  have hs := (checkCapacity_reads bytes).eq_of_ok h
  refine ⟨?_, hs⟩
  simp only [checkCapacity, read_bind_run] at h
  split at h
  · cases h
  split at h
  · cases h
  · rename_i hcap
    simpa [Admits] using hcap

/-- What follows a check of the capacity runs where the capacity admits it. -/
theorem admitted_keeps (hrefl : ∀ s, R s s) {m : Desk α} (h : ∀ s, Admits s bytes → R s (m s).2) :
    Keeps R (do checkCapacity bytes; m) := by
  intro s
  rw [bind_run]
  rcases hchk : checkCapacity bytes s with ⟨error | _, s1⟩
  · have hs := checkCapacity_reads bytes s
    rw [hchk] at hs
    obtain rfl : s1 = s := hs
    exact hrefl s1
  · obtain ⟨hadm, rfl⟩ := checkCapacity_eq_ok hchk
    exact h s1 hadm

/-- The statements on sources and events respect the relation; an event is added
where the capacity admits it. -/
structure SourceRules (R : DesktopStore → DesktopStore → Prop) : Prop extends Along R where
  streams : ∀ s rows, (streamTable.put s rows).check = true →
    R s (streamTable.put s rows)
  checkpoints : ∀ s rows, (checkpointTable.put s rows).check = true →
    R s (checkpointTable.put s rows)
  observed : ∀ id observedAt, Keeps R (update engine eventTable
    (fun _ r => r.id == id) (fun r => { r with lastObservedAt := observedAt }) : Desk Nat)
  event : ∀ row s, Admits s 0 → R s (recordEvent engine row s).2

namespace SourceRules

variable {engine} {R : DesktopStore → DesktopStore → Prop} [Std.Refl R] [IsTrans DesktopStore R]
  (rules : SourceRules engine R)

include rules

/-- A source is added or seen again. -/
theorem ensure (tools : Tools) (source : SourceDescriptor) (obs : Timestamp) :
    Keeps R (SourceRepository.ensure engine tools source obs) := by
  unfold SourceRepository.ensure
  cases source.validate with
  | error => exact .reject _
  | ok =>
    refine .bind .read fun s => ?_
    cases s.sourceStreams.find? fun r => r.sourceKey == source.sourceKey tools.hashes with
    | none => exact .bind (insert_keeps_put rules.streams _) fun _ => .pure _
    | some =>
      refine .ite (.reject _) (.bind ?_ fun _ => .pure _)
      exact update_keeps_put rules.streams _ _

/-- A checkpoint moves only for the expected source. -/
theorem checkpoint (tools : Tools) (expectedSource : SourceDescriptor)
    (change : SourceCheckpointUpdate) :
    Keeps R (SourceRepository.checkpoint engine tools expectedSource change) := by
  refine .ite (.reject _) (.bind (rules.ensure tools _ _) fun sourceKey => ?_)
  exact .bind (upsert_keeps_put rules.checkpoints _ _ _) fun _ => .pure _

/-- An event is added, or observed again. -/
theorem appendEvent (tools : Tools) (e : AgentEventEnvelopeV2) :
    Keeps R (EventStore.append engine tools e) := by
  unfold EventStore.append
  cases e.validate tools.hashes with
  | error => exact .reject _
  | ok =>
    refine .bind (rules.ensure tools _ _) fun sourceKey => .bind .read fun s => ?_
    cases s.agentEvents.find? fun r => r.sourceKey == sourceKey && r.eventId == e.eventId with
    | some =>
      refine .ite (.reject _) (.ite ?_ (.pure _))
      exact .bind (rules.observed _ _) fun _ => .pure _
    | none =>
      refine admitted_keeps rules.refl fun s1 hadm => ?_
      cases tools.crypto.protectMetadata (EventStore.eventMetadata tools e) with
      | error => exact rules.refl s1
      | ok json =>
        have hrec : Keeps (fun a b => Admits a 0 → R a b)
            (recordEvent engine (EventStore.eventRow tools s sourceKey json e)) :=
          rules.event _
        exact hrec.bind_still (fun _ _ => rfl) s1 hadm

end SourceRules

/-- Sources and events are aside. -/
theorem sourcing : SourceRules engine (Within scope) where
  refl := Within.refl scope
  trans := Within.trans scope
  streams := aside_streams.within
  checkpoints := aside_checkpoints.within
  observed _ _ := aside_events.update _ _
  event row := by
    have hacts : Acts scope (recordEvent engine row) := .execute fun _ hchk =>
      .of_eq hchk rfl rfl (fun _ => rfl) (fun _ => rfl) fun _ => rfl
    exact fun s _ => hacts s

theorem SourceRepository.checkpoint_acts (expectedSource : SourceDescriptor)
    (change : SourceCheckpointUpdate) :
    Acts scope (SourceRepository.checkpoint engine tools expectedSource change) :=
  (sourcing engine).checkpoint tools _ _

theorem EventStore.append_acts (e : AgentEventEnvelopeV2) :
    Acts scope (EventStore.append engine tools e) :=
  (sourcing engine).appendEvent tools e

namespace OutboxRepository

variable {kind : NotificationEventKind} {runKey : Text}

/-- A notice that was not sent is live. -/
theorem live_of_unsentOf {r : OutboxRow} (h : unsentOf kind runKey r = true) :
    r.status.live = true := by
  simp only [unsentOf, Bool.and_eq_true] at h
  exact OutboxRowStatus.live_of_claimable h.2

/-- No unsent notice of the kind is left. -/
theorem cancelPendingTx_none {now : Timestamp} {code message : String}
    {n : Nat} (h : cancelPendingTx engine kind runKey now code message s = (.ok n, s')) :
    ∀ r ∈ s'.notificationOutbox, unsentOf kind runKey r = false := by
  obtain ⟨_, _, rfl⟩ := update_eq_ok.mp h
  intro r hr
  obtain ⟨r0, _, ⟨_, rfl⟩ | ⟨hno, rfl⟩⟩ := mem_updateWhere.mp hr
  · simp [unsentOf, cancelledFor, OutboxRowStatus.claimable]
  · exact hno

/-- One notice is added, and it may enter. -/
theorem recordNotice_acts (row : OutboxRow) (henter : scope.enters row) :
    Acts scope (recordNotice engine row) := by
  intro s
  simp only [recordNotice, read_bind_run]
  split
  · exact Within.refl scope s
  rename_i hignores
  by_cases hacc : engine.accepts (s.withNotice row) = true
  · rw [bind_run_of_ok (execute_run_of_accepts hacc)]
    have hids : ∀ r ∈ s.notificationOutbox, r.id ≠ row.id := by
      intro r hr heq
      apply hignores
      simp only [ignoresNotice, Bool.or_eq_true, List.any_eq_true, beq_iff_eq]
      exact .inr ⟨r, hr, .inl (.inl heq)⟩
    exact
      { check := fun _ => engine.sound _ hacc
        notices := .insert QuietMove.refl hids ⟨row, henter, .refl row⟩
        hold := rfl
        runs := fun _ => rfl
        outputs := fun _ => rfl
        privacy := fun _ => rfl }
  · rw [bind_run, execute_eq_error.mpr ⟨by simpa using hacc, rfl, rfl⟩]
    exact Within.refl scope s

variable (input : NotificationInsert)

/-- The row of the notice may enter. -/
theorem insertOutbox_acts (henter : ∀ json, scope.enters (input.row tools.hashes json)) :
    Acts scope (insertOutbox engine tools input) := by
  refine .bind (.lift _) fun _ => ?_
  refine .bind .read fun s => ?_
  refine .bind (.onlyIf (.of_reads (checkCapacity_reads _))) fun _ => ?_
  refine .ite (.fail _ _) (.bind (.lift _) fun json => ?_)
  exact recordNotice_acts engine _ (henter json)

end OutboxRepository

/-- The notices of one kind about one run, or about none, as they are added. -/
def entering (kind : NotificationEventKind) (runKey : Option Text) (r : OutboxRow) : Prop :=
  r.eventKind = kind ∧ r.agentRunKey = runKey ∧ r.status = .pending

namespace OutboxRepository

/-- A notice about a run enters pending. -/
theorem insertTx_acts (input : RunNotificationInsert)
    (henter : ∀ r, entering input.kind (some input.agentRunKey) r → scope.enters r) :
    Acts scope (insertTx engine tools input) :=
  insertOutbox_acts engine tools _ fun _ => henter _ ⟨rfl, rfl, rfl⟩

theorem insertAttentionTx_acts (input : AttentionNotificationInsert)
    (henter : ∀ r, entering .attentionRequired input.agentRunKey r → scope.enters r) :
    Acts scope (insertAttentionTx engine tools input) := by
  refine .ite (.fail _ _) (.bind (insertOutbox_acts engine tools _
    fun _ => henter _ ⟨rfl, rfl, rfl⟩)
    fun inserted => .ite (.bind (.ending (fun r hg => ?_) fun r => ⟨⟨rfl, rfl, rfl⟩, rfl⟩)
      fun _ => .pure _) (.pure _))
  simp only [Bool.and_eq_true, beq_iff_eq] at hg
  rw [hg.2]
  rfl

/-- A test notice enters pending, without a run. -/
theorem enqueueControl_acts (kind : NotificationEventKind) (dkey : Text)
    (payload : NotificationPayloadV2) (now : Timestamp)
    (henter : ∀ r, entering .test none r → scope.enters r) :
    Acts scope (enqueueControl engine tools kind dkey payload now) := by
  unfold enqueueControl
  split
  · exact .fail _ _
  rename_i hkind
  refine .bind (.lift _) fun _ => .allOrNothing (insertOutbox_acts engine tools _ fun _ => ?_)
  exact henter _ ⟨not_not.mp hkind, rfl, rfl⟩

end OutboxRepository

theorem RunRepository.upsert_acts (hruns : scope.runs = true) (run : AgentRunRecord) :
    Acts scope (RunRepository.upsert engine run) := by
  have hput : ∀ s rows, (runTable.put s rows).check = true →
      Within scope s (runTable.put s rows) := by
    intro s rows hchk
    refine .of_eq hchk rfl rfl (fun hno => ?_) (fun _ => rfl) fun _ => rfl
    rw [hruns] at hno
    cases hno
  refine .bind .read fun s => .ite (.bind ?_ fun _ => .ite (.fail _ _) (.pure _)) ?_
  · exact update_keeps_put hput _ _
  · exact insert_keeps_put hput _

theorem OutputRepository.append_acts (houts : scope.outputs = true) (sourceKey : Text)
    (e : AgentEventEnvelopeV2) (output : OutputProducedV2) :
    Acts scope (OutputRepository.append engine tools sourceKey e output) := by
  unfold OutputRepository.append
  cases e.correlation.runKey with
  | none => exact .fail _ _
  | some =>
    refine .bind .read fun s => ?_
    cases s.agentOutputs.find? fun r => r.sourceKey == sourceKey && r.eventId == e.eventId with
    | some => exact .ite (.fail _ _) (.pure _)
    | none =>
      refine .bind (.of_reads (checkCapacity_reads _)) fun _ => .bind (.lift _) fun _ => ?_
      refine .execute fun s hchk => .of_eq hchk rfl rfl (fun _ => rfl) (fun hno => ?_) fun _ => rfl
      rw [houts] at hno
      cases hno

theorem latestResultForRun_reads (runKey : Text) (observedAfter : Timestamp) :
    Reads (OutputRepository.latestResultForRun tools runKey observedAfter) := by
  refine .bind .read fun s => ?_
  cases OutputRepository.latestOutput runKey observedAfter s with
  | none => exact .pure _
  | some => exact .bind (.lift _) fun _ => .pure _

theorem latestCodexUsage_reads (runKey : Text) :
    Reads (EventStore.latestCodexUsage tools runKey) := by
  refine .bind .read fun s => ?_
  dsimp only
  split
  · exact .pure _
  · exact .bind (.lift _) fun _ => .pure _

end

end PromptDock.Desktop
