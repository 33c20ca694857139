import PromptDock.Redelivery

/-!
# Messages discarded in notification-only mode

The discarding sink leaves a row that has ended.  However the mode is switched
afterwards, and whatever else happens in the relay, the row stays as it is until
retention drops it; until then both sinks recognise the message by it.
-/

namespace PromptDock

open TableStatement LabelledRun RelayStore InboundCommandService
open StoreAction.Action

variable {s s' : RelayStore} {r : InboundRow} {engine : RelayEngine}
  {durable : DurableInboundCommand}

/-- A command that ended is the only one under its key, if whatever drops
commands accepts none. -/
theorem RelaySteps.eq_of_ended {policy : StepPolicy} (h : RelaySteps policy s s') (hs : s.Valid)
    (hdrop : policy.forgets → ∀ c, ¬ policy.arrives c) (hr : r ∈ s.inboundCommands)
    (hend : r.status.terminal = true) :
    ∀ c ∈ s'.inboundCommands, c.messageKey = r.messageKey → c = r := by
  suffices hboth : (policy.forgets ∨ r ∈ s'.inboundCommands) ∧
      ∀ c ∈ s'.inboundCommands, c.messageKey = r.messageKey → c = r from hboth.2
  refine h.induct hs ⟨.inr hr, fun c hc => hs.messageKeys.eq_of_key hc hr⟩ fun _ hlast ih => ?_
  obtain ⟨hthere, hsole⟩ := ih
  refine ⟨or_iff_not_imp_left.mpr fun hkeeps => ?_, fun c hc hkey => ?_⟩
  · exact hlast.inboundFate.mem_of_fixed (hthere.resolve_left hkeeps)
      (fun _ hmove => hmove.eq_of_terminal hend) fun hd => hkeeps hd.1
  rcases hlast.inbound c hc with ⟨c1, hc1, hsame, hmove⟩ | ⟨hnew, harrives⟩
  · obtain rfl := hsole c1 hc1 (hsame.trans hkey)
    exact hmove.eq_of_terminal hend
  · rcases hthere with hforgets | hthere
    · exact absurd harrives (hdrop hforgets c)
    · exact absurd hkey.symm (hnew r hthere)

theorem RelayOp.message?_of_forgets {op : RelayOp} (h : op.forgets = true) :
    op.message? = none := by
  cases op <;> first | rfl | cases h

/-- A message under the key of a command, of the same sender and hash, is a replay. -/
theorem acceptWithStatus_of_mem (hs : s.Valid) (hr : r ∈ s.inboundCommands)
    (hkey : r.messageKey = durable.messageKey)
    (hsender : r.senderFingerprint = durable.senderFingerprint)
    (hhash : r.payloadHash = durable.payloadHash) (status : InboundStatus) :
    acceptWithStatus engine durable status .never s = (.ok .exactReplay, s) := by
  have hfind : s.inboundCommands.find? (fun c => c.messageKey == durable.messageKey) = some r :=
    hkey ▸ hs.messageKeys.find?_eq hr
  have hinsert : (insertUnless engine inboundTable (fun c => c.messageKey == durable.messageKey)
      (durable.row status) : Relay InboundMessageError Nat) s = (.ok 0, s) :=
    insertUnless_eq_ok.mpr (.inl ⟨List.any_eq_true.mpr ⟨r, hr, by simp [hkey]⟩, rfl, rfl⟩)
  simp [acceptWithStatus, transaction, bind_run_of_ok hinsert, recogniseReplay, hfind, bind_run,
    hsender, hhash]

/-- A step that leaves a command under the key. -/
def RetainingStep (verifier : ConfirmationVerifier) (messageKey : String) (w : RelayWorld)
    (e : RelayEvent) (w' : RelayWorld) : Prop :=
  RelayStep verifier w e w' ∧ w'.store.hasInbound messageKey = true

/-- An ended command stays while it is retained. -/
theorem RetainingStep.ended {verifier : ConfirmationVerifier} {w w' : RelayWorld} {e : RelayEvent}
    (h : RetainingStep verifier r.messageKey w e w') (hend : r.status.terminal = true)
    (hw : w.store.Valid ∧ r ∈ w.store.inboundCommands) :
    w'.store.Valid ∧ r ∈ w'.store.inboundCommands := by
  have hsteps := relayStep_steps h.1
  refine ⟨hsteps.valid hw.1, ?_⟩
  obtain ⟨c, hc, hkey⟩ := List.any_eq_true.mp h.2
  rwa [← hsteps.eq_of_ended hw.1 ?_ hw.2 hend c hc (beq_iff_eq.mp hkey)]
  rintro hforgets c ⟨message, hmessage, _⟩
  cases hmessage.symm.trans (RelayOp.message?_of_forgets hforgets)

/-- **A discarded message stays discarded**, as long as its row is retained:
delivered again, it is a replay for the discarding sink, and for the durable
sink whatever its code resolved to; and nobody can claim it. -/
theorem discarded_messages_stay_discarded (verifier : ConfirmationVerifier)
    (message : EphemeralInboundText) {w₀ w₁ w : RelayWorld} {engine : RelayEngine}
    {cancellation : CancelPoint} {events : List RelayEvent}
    (hfirst : DiscardingInboundMessageSink.accept engine verifier.blake3 message cancellation
      w₀.store = (.ok .discarded, w₁.store))
    (hrun : Run (RetainingStep verifier message.messageKey) w₁ events w) :
    (∀ (engine : RelayEngine) (receivedAt : Timestamp), (∀ parsed, (accept engine
        (durableCommand verifier.blake3 { message with receivedAt } parsed) .never w.store).1 =
          .ok .exactReplay) ∧
      (DiscardingInboundMessageSink.accept engine verifier.blake3 { message with receivedAt } .never
        w.store).1 = .ok .exactReplay) ∧
    (∃ r ∈ w.store.inboundCommands, r.messageKey = message.messageKey) ∧
    ∀ r ∈ w.store.inboundCommands, r.messageKey = message.messageKey →
      r.status = .expired ∧ ∀ now, r.ready now = false := by
  obtain ⟨outcome, hdiscard, hout⟩ := bind_pure_eq_ok.mp hfirst
  obtain ⟨_, hreplay⟩ | ⟨_, hstored, hvalid⟩ := acceptWithStatus_cases hdiscard
  · cases hreplay outcome rfl
    cases hout
  obtain ⟨hvalid, hmem⟩ := hrun.invariant
    (I := fun w => w.store.Valid ∧ _ ∈ w.store.inboundCommands)
    (fun _ _ _ hstep => hstep.ended rfl) ⟨hvalid, hstored⟩
  refine ⟨fun engine receivedAt => ⟨fun parsed => ?_, ?_⟩, ⟨_, hmem, rfl⟩, fun r hr hkey => ?_⟩
  · exact congrArg Prod.fst (acceptWithStatus_of_mem hvalid hmem rfl rfl rfl _)
  · exact congrArg Prod.fst (bind_run_of_ok (acceptWithStatus_of_mem hvalid hmem rfl rfl rfl _))
  · rw [hvalid.messageKeys.eq_of_key hr hmem hkey]
    exact ⟨rfl, fun now => rfl⟩

/-- A request for help was discarded. -/
def sampleDiscarded : RelayWorld :=
  ⟨(DiscardingInboundMessageSink.accept sqlite .zero sampleMessage .never .empty).2, [], []⟩

/-- Then it is delivered in the durable mode. -/
def sampleRedelivered : RelayEvent := ⟨sqlite, .receive sampleMessage .never, .done⟩

/-- A discarded message that is delivered again. -/
theorem discarded_messages_stay_discarded_sample : ∃ w : RelayWorld,
    RelayStep sampleVerifier sampleDiscarded sampleRedelivered w ∧
      ∀ r ∈ w.store.inboundCommands, r.messageKey = "m1" → r.status = .expired := by
  have hfirst : DiscardingInboundMessageSink.accept sqlite sampleVerifier.blake3 sampleMessage
      .never RelayWorld.start.store = (.ok .discarded, sampleDiscarded.store) := rfl
  obtain ⟨w, hrun, hkept⟩ : ∃ w, Run (RelayStep sampleVerifier) sampleDiscarded
      [sampleRedelivered] w ∧ w.store.hasInbound "m1" = true :=
    exists_run (by decide +kernel)
  obtain _ | ⟨hstep, _ | _⟩ := hrun
  refine ⟨w, hstep, fun r hr hkey => ?_⟩
  have hkept : Run (RetainingStep sampleVerifier "m1") sampleDiscarded [sampleRedelivered] w :=
    .cons ⟨hstep, hkept⟩ (.nil w)
  obtain ⟨_, _, hrows⟩ := discarded_messages_stay_discarded sampleVerifier sampleMessage
    hfirst hkept
  exact (hrows r hr hkey).1

end PromptDock
