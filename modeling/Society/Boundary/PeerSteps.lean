import Society.Boundary.Peer

namespace Society.Boundary
open Society.Coding Society.Stateful Society.Stateful.Handler

/-! All that one call can do to a peer: the accepted calls case by case, and the refusals. -/

variable {hash : Bytes → Blake3Digest} {s t : BoundaryPeer}

/-- The peer after a refusal: closed, with nothing under way and no receipt more. -/
structure Fenced (s t : BoundaryPeer) : Prop where
  phase : t.phase=.fatal
  pendingPrompt : t.pendingPrompt=none
  pendingDispose : t.pendingDispose=none
  activeDispose : t.activeDispose=none
  activeTurn : t.activeTurn=none
  settledTurns : t.settledTurns=s.settledTurns
  create : t.create=s.create

section Inbound

/-- What every admitted frame meets. -/
structure Admissible (s : BoundaryPeer) (f : InboundFrame) : Prop where
  phase : s.phase≠.fatal
  unused : s.pendingCommands f.correlationIdentity=none
  pendingDispose : s.pendingDispose=none

/-- The peer with the entry of an admitted command. -/
def registered (f : InboundFrame) (s : BoundaryPeer) : BoundaryPeer :=
  { s with
    expectedInboundSequence := s.expectedInboundSequence+1
    pendingCommands :=
      insert s.pendingCommands f.correlationIdentity (some ⟨f.command.name,false,false⟩) }

/-- The admission of a command of each kind. -/
inductive Admits (hash : Bytes → Blake3Digest) (s : BoundaryPeer) (f : InboundFrame) :
    BoundaryPeer → Prop
  | createSession (payload : CreateSessionPayload) : f.command=.createSession payload →
      s.phase=.inert → s.create=none → s.createCandidate=none →
      Admits hash s f { registered f s with
        createCandidate := some (f.correlationIdentity,payload) }
  | prompt (purpose : PromptPurpose) (text : String) (create : CreateSessionPayload) :
      f.command=.prompt purpose text → s.create=some create → s.phase=.ready →
      s.activeTurn=none → s.pendingPrompt=none →
      ¬(create.sessionKind=.taskAttempt ∧ s.taskAttemptPromptAdmitted=true) →
      Admits hash s f { registered f s with
        taskAttemptPromptAdmitted :=
          s.taskAttemptPromptAdmitted || decide (create.sessionKind=.taskAttempt)
        promptCandidates :=
          insert s.promptCandidates f.correlationIdentity (some (hash (utf8 text)))
        pendingPrompt := some ⟨f.correlationIdentity,false⟩ }
  | steering : f.command.name=.followUp ∨ f.command.name=.steer → s.phase=.ready →
      Admits hash s f (registered f s)
  | forumToolResult (call : ToolCallIdentity) (result : Json) (isError : Bool) :
      f.command=.forumToolResult call result isError → s.phase=.ready → s.activeTurn≠none →
      s.pendingForumToolCalls call=true →
      Admits hash s f { registered f s with
        pendingForumToolCalls := insert s.pendingForumToolCalls call false }
  | abort : f.command.name=.abort → s.phase=.ready → Admits hash s f (registered f (noteAbort s))
  | getState : f.command.name=.getState → s.phase=.ready → Admits hash s f (registered f s)
  | dispose : f.command.name=.dispose → s.phase=.ready → s.pendingPrompt=none →
      s.activeTurn=none →
      Admits hash s f { registered f s with pendingDispose := some f.correlationIdentity }

theorem fence_fenced (hc : t.create=s.create) (hs : t.settledTurns=s.settledTurns) :
    Fenced s t.fence := ⟨rfl,rfl,rfl,rfl,rfl,hs,hc⟩

theorem admitInbound_wp (f : InboundFrame) :
    wp (admitInbound hash f) (fun _ t => Admissible s f ∧ Admits hash s f t)
      (fun _ t => Fenced s t ∧ t.usage=s.usage) s := by
  simp only [admitInbound,wp_onError,admitInboundInner,wp_bind,wp_get,wp_ensure,wp_require,
    wp_modify]
  refine ⟨fun hphase => ⟨fun _ => ⟨fun _ => ⟨fun hunused => ?_,?_⟩,?_⟩,?_⟩,?_⟩
  all_goals try exact fun _ => ⟨fence_fenced rfl rfl,rfl⟩
  simp only [validateCommandAdmission,wp_bind,wp_get,wp_ensure]
  refine ⟨fun hd => ?_,fun _ => ⟨fence_fenced rfl rfl,rfl⟩⟩
  have hadm : Admissible s f := ⟨hphase,hunused.1,hd⟩
  have hfail {u : BoundaryPeer} (hc : u.create=s.create) (ht : u.settledTurns=s.settledTurns)
      (hu : u.usage=s.usage) : Fenced s u.fence ∧ u.fence.usage=s.usage := ⟨fence_fenced hc ht,hu⟩
  cases hf : f.command with
  | createSession payload =>
    simp only [validateCreateSession,wp_bind,wp_get,wp_require,wp_protocol,recordCommand,hf]
    refine ⟨fun h => ⟨fun _ => ⟨fun _ _ => ⟨fun _ _ => ⟨fun _ _ => ⟨hadm,?_⟩,?_⟩,?_⟩,?_⟩,?_⟩,?_⟩
    case refine_1 =>
      have hstep : Admits hash s f _ := .createSession payload hf h.2.1 h.2.2.1 h.2.2.2
      simpa [registered,hf] using hstep
    all_goals intros; exact hfail rfl rfl rfl
  | prompt purpose text =>
    simp only [validatePrompt,wp_bind,wp_get,wp_expect,wp_require,recordCommand,hf]
    refine ⟨fun create hcreate => ⟨fun h => ?_,?_⟩,?_⟩
    case refine_1 =>
      have hstep : Admits hash s f _ :=
        .prompt purpose text create hf hcreate h.1 h.2.1 h.2.2.1 h.2.2.2.2
      split
      · next hk =>
        refine ⟨hadm,?_⟩
        simpa [registered,hf,hk] using hstep
      · next hk =>
        refine ⟨hadm,?_⟩
        simpa [registered,hf,hk] using hstep
    all_goals intros; exact hfail rfl rfl rfl
  | followUp notice frontier text =>
    simp only [wp_require,recordCommand,hf]
    refine ⟨fun h => ⟨hadm,?_⟩,fun _ => hfail rfl rfl rfl⟩
    have hstep : Admits hash s f _ := .steering (.inl (by rw [hf]; rfl)) h.1
    simpa [registered,hf] using hstep
  | steer reason text =>
    simp only [wp_require,recordCommand,hf]
    refine ⟨fun h => ⟨hadm,?_⟩,fun _ => hfail rfl rfl rfl⟩
    have hstep : Admits hash s f _ := .steering (.inr (by rw [hf]; rfl)) h.1
    simpa [registered,hf] using hstep
  | abort reason =>
    simp only [wp_require,recordCommand,hf]
    refine ⟨fun h => ⟨hadm,?_⟩,fun _ => hfail rfl rfl rfl⟩
    have hstep : Admits hash s f _ := .abort (by rw [hf]; rfl) h
    simpa [registered,noteAbort,hf] using hstep
  | getState =>
    simp only [wp_require,recordCommand,hf]
    refine ⟨fun h => ⟨hadm,?_⟩,fun _ => hfail rfl rfl rfl⟩
    have hstep : Admits hash s f _ := .getState (by rw [hf]; rfl) h
    simpa [registered,hf] using hstep
  | dispose reason =>
    simp only [wp_require,recordCommand,hf]
    refine ⟨fun h => ⟨hadm,?_⟩,fun _ => hfail rfl rfl rfl⟩
    have hstep : Admits hash s f _ := .dispose (by rw [hf]; rfl) h.1 h.2.1 h.2.2
    simpa [registered,hf] using hstep
  | forumToolResult call result isError =>
    simp only [wp_bind,wp_require,wp_modify,recordCommand,hf]
    refine ⟨fun h => ⟨hadm,?_⟩,fun _ => hfail rfl rfl rfl⟩
    have hstep : Admits hash s f _ := .forumToolResult call result isError hf h.1 h.2.1 h.2.2
    simpa [registered,hf] using hstep

end Inbound
section Outbound

/-- What every accepted frame meets. -/
structure Fitting (s : BoundaryPeer) (f : OutboundFrame) : Prop where
  phase : s.phase≠.fatal ∨ f.event.isFatal=true
  session : f.sessionIdentity=s.sessionIdentity
  sequence : f.sequence.val=s.expectedOutboundSequence

def advanced (s : BoundaryPeer) : BoundaryPeer :=
  { s with expectedOutboundSequence := s.expectedOutboundSequence+1 }

/-- The peer with the result of a command noted. -/
def answered (c : CorrelationIdentity) (pending : PendingCommand) (accepted : Bool)
    (s : BoundaryPeer) : BoundaryPeer :=
  { advanced s with
    pendingCommands := insert s.pendingCommands c (some ⟨pending.name,true,accepted⟩)
    completedCorrelations := insert s.completedCorrelations c true }

/-- What an accepted result does besides being noted. -/
inductive Answers (s : BoundaryPeer) (sequence : Nat) (c : CorrelationIdentity)
    (pending : PendingCommand) (accepted : Bool) : BoundaryPeer → Prop
  | created (payload : CreateSessionPayload) : accepted=true → pending.name=.createSession →
      s.createCandidate=some (c,payload) →
      Answers s sequence c pending accepted { answered c pending accepted s with
        createCandidate := none, create := some payload, phase := .creating }
  | prompted (prompt : PendingPrompt) : accepted=true → pending.name=.prompt →
      s.pendingPrompt=some prompt → prompt.correlation=c →
      Answers s sequence c pending accepted { answered c pending accepted s with
        pendingPrompt := none
        firstPromptDigest := if s.firstPromptDigest=none then s.promptCandidates c
          else s.firstPromptDigest
        activeTurn := some ⟨c,.awaitingAgentStart,none,prompt.abortIntentAdmitted⟩ }
  | disposing : accepted=true → pending.name=.dispose → s.pendingDispose=some c →
      Answers s sequence c pending accepted { answered c pending accepted s with
        phase := .closing
        activeDispose := some ⟨c,sequence,none⟩
        pendingDispose := none }
  | promptRefused (prompt : PendingPrompt) : accepted=false → pending.name=.prompt →
      s.pendingPrompt=some prompt → prompt.correlation=c →
      Answers s sequence c pending accepted { answered c pending accepted s with
        pendingPrompt := none }
  | plain : pending.name≠.prompt → pending.name≠.dispose →
      (accepted=true → pending.name≠.createSession) →
      Answers s sequence c pending accepted (answered c pending accepted s)

/-- The turn after a snapshot of its own prompt. -/
def ActiveTurn.noteUsage (sequence : Nat) (c : CorrelationIdentity) (turn : ActiveTurn) :
    ActiveTurn :=
  if c=turn.correlation then
    { turn with
      evidencePhase := match turn.evidencePhase with
        | .awaitingFinalPromptUsage reason settled => .awaitingSettledFrame reason settled sequence
        | phase => phase
      latestPromptUsageSequence := some sequence }
  else turn

/-- The turn has all its evidence; only its settlement may follow. -/
def TurnEvidencePhase.closed : TurnEvidencePhase → Bool
  | awaitingSettledFrame .. => true
  | _ => false

/-- A snapshot of the running prompt that comes after the one its turn settles on, in sequence,
and that moves the tracker. -/
def lateSnapshot (s : BoundaryPeer) (f : OutboundFrame) : Bool :=
  match f.event,s.activeTurn with
  | .usageSnapshot usage,some turn =>
    f.sessionIdentity=s.sessionIdentity && f.sequence.val=s.expectedOutboundSequence &&
      f.correlationIdentity=some turn.correlation && turn.evidencePhase.closed &&
      (UsageTracker.observe usage s.usage).2≠s.usage
  | _,_ => false

/-- The peer with one more settled turn. -/
def settledPeer (s : BoundaryPeer) (r : TurnReceipt) : BoundaryPeer :=
  { advanced s with settledTurns := s.settledTurns++[r], activeTurn := none }

/-- The acceptance of a frame of each kind. -/
inductive Observes (s : BoundaryPeer) (f : OutboundFrame) :
    Option PeerObservation → BoundaryPeer → Prop
  | adapterReady (pid : HostProcessId) (nonce : SpawnNonce) (runtime : RuntimeIdentity) :
      f.event=.adapterReady pid nonce runtime → s.phase=.awaitingAdapterReady →
      Observes s f none { advanced s with adapterReadySeen := true, phase := .inert }
  | sessionReady (c : EffectiveSessionConfiguration) (create : CreateSessionPayload) :
      f.event=.sessionReady c → s.phase=.creating → s.create=some create →
      Observes s f none { advanced s with configuration := some c, phase := .ready }
  | commandResult (result : CommandResult) (c : CorrelationIdentity) (pending : PendingCommand)
      (t : BoundaryPeer) : f.event=.commandResult result → f.correlationIdentity=some c →
      s.pendingCommands c=some pending → pending.resultSeen=false → pending.name=result.command →
      Answers s f.sequence.val c pending result.isAccepted t → Observes s f none t
  | agentOutside (event : ProjectedAgentEvent) : f.event=.agentEvent event → s.activeTurn=none →
      f.correlationIdentity=none → Observes s f none (advanced s)
  | agentInside (event : ProjectedAgentEvent) (turn : ActiveTurn) (phase : TurnEvidencePhase) :
      f.event=.agentEvent event → s.activeTurn=some turn →
      f.correlationIdentity=some turn.correlation →
      observeTurnEvidence turn.evidencePhase event f.sequence.val=.ok phase →
      Observes s f none { advanced s with activeTurn := some { turn with evidencePhase := phase } }
  | forumToolCall (call : ToolCallIdentity) (tool : ForumToolName) (args : Json)
      (turn : ActiveTurn) : f.event=.forumToolCall call tool args → s.activeTurn=some turn →
      f.correlationIdentity=some turn.correlation → s.configuration.any forumProfile=true →
      s.pendingForumToolCalls call=false →
      Observes s f (some (.forumToolCall turn.correlation call tool args)) { advanced s with
        pendingForumToolCalls := insert s.pendingForumToolCalls call true }
  | usageUnavailable (reason : UsageUnavailableReason) :
      f.event=.usageSnapshot (.unavailable reason) → s.phase≠.fatal →
      Observes s f (some (.usageUnavailable reason)) (advanced s).fence
  | usage (totals : UsageTotals) (c : CorrelationIdentity) (pending : PendingCommand)
      (delta : UsageDelta) (tracker : UsageTracker) : f.event=.usageSnapshot (.known totals) →
      f.correlationIdentity=some c → s.pendingCommands c=some pending → pending.accepted=true →
      usageCommand s.activeTurn.isSome pending.name=true →
      (∀ d,s.activeDispose=some d → c=d.correlation ∧ d.finalUsageSequence=none) →
      UsageTracker.observe (.known totals) s.usage=(.ok delta,tracker) →
      (∀ turn,s.activeTurn=some turn → c=turn.correlation → turn.evidencePhase.closed=false) →
      Observes s f (some (.usage delta)) { advanced s with
        usage := tracker
        activeDispose :=
          s.activeDispose.map (fun d => { d with finalUsageSequence := some f.sequence.val })
        activeTurn := s.activeTurn.map (ActiveTurn.noteUsage f.sequence.val c) }
  | settled (classification : SettledClassification) (outcome : FinalAssistantOutcome)
      (turn : ActiveTurn) (disposition : TurnDisposition) :
      f.event=.settled classification outcome → s.activeTurn=some turn →
      f.correlationIdentity=some turn.correlation →
      settledDisposition turn.abortIntentAdmitted classification outcome=some disposition →
      observedEvidenceIsClosed f.sequence.val outcome turn.evidencePhase=true →
      turn.latestPromptUsageSequence.any (fun usage => usage+1=f.sequence.val)=true →
      Observes s f (some (.turnSettled ⟨turn.correlation,disposition,outcome⟩))
        (if disposition=.protocolFailed then
            (settledPeer s ⟨turn.correlation,disposition,outcome⟩).fence
          else settledPeer s ⟨turn.correlation,disposition,outcome⟩)
  | disposed (receipt : TranscriptFlushReceiptV1) (dispose : ActiveDispose) :
      f.event=.disposed receipt → s.phase=.closing → s.activeTurn=none →
      s.activeDispose=some dispose →
      dispose.finalUsageSequence.any (fun usage => usage+1=f.sequence.val)=true →
      Observes s f (some .disposed) { advanced s with activeDispose := none, phase := .disposed }
  | fatal (code : AdapterFailureCode) : f.event=.fatal code →
      Observes s f (some (.fatal code))
        { advanced s with fatalFrameSeen := true }.fence

/-- A refused frame leaves the tracker alone, unless it is a late snapshot. -/
def Refused (s : BoundaryPeer) (f : OutboundFrame) (t : BoundaryPeer) : Prop :=
  Fenced s t ∧ (lateSnapshot s f=false → t.usage=s.usage)

theorem Refused.fence {f : OutboundFrame} (hc : t.create=s.create)
    (ht : t.settledTurns=s.settledTurns) (hu : t.usage=s.usage) : Refused s f t.fence :=
  ⟨fence_fenced hc ht,fun _ => hu⟩

@[simp] theorem fence_fence (p : BoundaryPeer) : p.fence.fence=p.fence := rfl

section Handlers

variable {f : OutboundFrame}

theorem observeAdapterReady_wp {pid : HostProcessId} {nonce : SpawnNonce}
    {runtime : RuntimeIdentity} (hf : f.event=.adapterReady pid nonce runtime) :
    wp (observeAdapterReady pid nonce runtime) (fun _ t => Observes s f none t)
      (fun _ t => Refused s f t.fence) (advanced s) := by
  simp only [observeAdapterReady,wp_bind,wp_get,wp_require,wp_protocol,wp_modify,fence_fence]
  refine ⟨fun h => ⟨fun _ _ => ?_,fun _ _ => .fence rfl rfl rfl⟩,fun _ => .fence rfl rfl rfl⟩
  exact .adapterReady pid nonce runtime hf h.2.1

theorem observeSessionReady_wp {c : EffectiveSessionConfiguration}
    (hf : f.event=.sessionReady c) :
    wp (observeSessionReady f.correlationIdentity c) (fun _ t => Observes s f none t)
      (fun _ t => Refused s f t.fence) (advanced s) := by
  simp only [observeSessionReady,wp_bind,wp_get,wp_expect,fence_fence]
  refine ⟨fun correlation _ => ?_,fun _ => .fence rfl rfl rfl⟩
  split
  · exact .fence rfl rfl rfl
  · simp only [wp_bind,wp_require,wp_expect,wp_protocol,wp_modify,fence_fence]
    refine ⟨fun h => ⟨fun create hcreate => ⟨fun _ _ => ⟨fun _ => ?_,?_⟩,?_⟩,?_⟩,?_⟩
    case refine_1 => exact .sessionReady c create hf h.2.2 hcreate
    all_goals intros; exact .fence rfl rfl rfl

theorem acceptCommand_wp {c : CorrelationIdentity} {pending : PendingCommand} :
    wp (acceptCommand f.sequence.val c pending.name)
      (fun _ t => Answers s f.sequence.val c pending true t)
      (fun _ t => Refused s f t.fence) (answered c pending true s) := by
  cases hn : pending.name with
  | createSession =>
    simp only [acceptCommand,wp_bind,wp_get,wp_modify,wp_expect,wp_require,fence_fence]
    refine ⟨fun candidate hc => ⟨fun heq => ?_,fun _ => .fence rfl rfl rfl⟩,
      fun _ => .fence rfl rfl rfl⟩
    exact .created candidate.2 rfl hn (by rw [← heq]; exact hc)
  | prompt =>
    simp only [acceptCommand,wp_bind,wp_get,wp_modify]
    split
    · exact .fence rfl rfl rfl
    · next prompt hp =>
      simp only [wp_bind,wp_ensure,wp_modify]
      exact ⟨fun heq => .prompted prompt rfl hn hp heq,fun _ => .fence rfl rfl rfl⟩
  | dispose =>
    simp only [acceptCommand,wp_bind,wp_get,wp_modify]
    split
    · exact .fence rfl rfl rfl
    · next dispose hp =>
      simp only [wp_ensure]
      exact ⟨fun heq => .disposing rfl hn (by rw [← heq]; exact hp),fun _ => .fence rfl rfl rfl⟩
  | followUp | steer | abort | getState | forumToolResult =>
    exact .plain (by rw [hn]; decide) (by rw [hn]; decide) (fun _ => by rw [hn]; decide)

theorem rejectCommand_wp {c : CorrelationIdentity} {pending : PendingCommand} :
    wp (rejectCommand c pending.name) (fun _ t => Answers s f.sequence.val c pending false t)
      (fun _ t => Refused s f t.fence) (answered c pending false s) := by
  cases hn : pending.name with
  | prompt =>
    simp only [rejectCommand,wp_bind,wp_get,wp_modify]
    split
    · exact .fence rfl rfl rfl
    · next prompt hp =>
      simp only [wp_ensure]
      exact ⟨fun heq => .promptRefused prompt rfl hn hp heq,fun _ => .fence rfl rfl rfl⟩
  | dispose => exact Refused.fence rfl rfl rfl
  | createSession | followUp | steer | abort | getState | forumToolResult =>
    exact .plain (by rw [hn]; decide) (by rw [hn]; decide) (fun h => by cases h)

theorem observeCommandResult_wp {result : CommandResult} (hf : f.event=.commandResult result) :
    wp (observeCommandResult f.sequence.val f.correlationIdentity result)
      (fun _ t => Observes s f none t) (fun _ t => Refused s f t.fence) (advanced s) := by
  simp only [observeCommandResult,wp_bind,wp_get,wp_expect,wp_require,wp_modify,fence_fence]
  refine ⟨fun c hc => ⟨fun pending hp => ⟨fun hseen => ⟨fun hname => ?_,?_⟩,?_⟩,?_⟩,?_⟩
  case refine_1 =>
    have hobs {t : BoundaryPeer} (ha : Answers s f.sequence.val c pending result.isAccepted t) :
        Observes s f none t := .commandResult result c pending t hf hc hp hseen hname ha
    split
    · next h =>
      rw [h] at hobs ⊢
      exact wp_mono (fun _ _ => hobs) (fun _ _ => id) acceptCommand_wp
    · next h =>
      have h : result.isAccepted=false := by simpa using h
      rw [h] at hobs ⊢
      exact wp_mono (fun _ _ => hobs) (fun _ _ => id) rejectCommand_wp
  all_goals intros; exact .fence rfl rfl rfl

theorem observeAgentEvent_wp {event : ProjectedAgentEvent} (hf : f.event=.agentEvent event) :
    wp (observeAgentEvent f.sequence.val f.correlationIdentity event)
      (fun _ t => Observes s f none t) (fun _ t => Refused s f t.fence) (advanced s) := by
  simp only [observeAgentEvent,wp_bind,wp_get,wp_require,fence_fence]
  refine ⟨fun _ => ?_,fun _ => .fence rfl rfl rfl⟩
  split
  · next turn ht =>
    simp only [wp_bind,wp_require,wp_lift,wp_modify,fence_fence]
    refine ⟨fun hc => ⟨fun phase hp => ?_,fun _ _ => .fence rfl rfl rfl⟩,
      fun _ => .fence rfl rfl rfl⟩
    exact .agentInside event turn phase hf ht hc hp
  · next ht =>
    simp only [wp_require,fence_fence]
    exact ⟨fun hc => .agentOutside event hf ht hc,fun _ => .fence rfl rfl rfl⟩

theorem trackUsage_wp {usage : UsageObservation} {p : BoundaryPeer} {R : UsageDelta → BoundaryPeer → Prop}
    {E : PeerError → BoundaryPeer → Prop}
    (hok : ∀ delta tracker,UsageTracker.observe usage p.usage=(.ok delta,tracker) →
      R delta { p with usage := tracker })
    (herr : ∀ e,E e p.fence) : wp (trackUsage usage) R E p := by
  have hw := UsageTracker.observe_wp usage p.usage
  unfold wp trackUsage
  unfold wp at hw
  rcases h : UsageTracker.observe usage p.usage with ⟨r,tracker⟩
  rw [h] at hw
  cases r with
  | ok delta => exact hok delta tracker h
  | error e =>
    change tracker=p.usage at hw
    subst hw
    exact herr _

theorem activeTurn_same {p : BoundaryPeer} {turn : Option ActiveTurn} (h : p.activeTurn=turn) :
    { p with activeTurn := turn }=p := by
  subst h
  rfl

/-- The note of a prompt's snapshot, on a peer whose tracker has taken it. -/
theorem notePromptUsage_wp {c : CorrelationIdentity} {p : BoundaryPeer}
    {R : Unit → BoundaryPeer → Prop} {E : PeerError → BoundaryPeer → Prop} (sequence : Nat)
    (hok : (∀ turn,p.activeTurn=some turn → c=turn.correlation →
        turn.evidencePhase.closed=false) →
      R () { p with activeTurn := p.activeTurn.map (ActiveTurn.noteUsage sequence c) })
    (herr : ∀ e turn,p.activeTurn=some turn → c=turn.correlation →
      turn.evidencePhase.closed=true → E e p) :
    wp (notePromptUsage sequence c) R E p := by
  simp only [notePromptUsage,wp_bind,wp_get]
  cases ht : p.activeTurn with
  | none =>
    have hnone := hok (by simp [ht])
    rw [ht,Option.map_none,activeTurn_same ht] at hnone
    exact hnone
  | some turn =>
    simp only
    rw [ht,Option.map_some] at hok
    split
    · next hc =>
      rw [ActiveTurn.noteUsage,if_pos hc] at hok
      have hopen (hclosed : turn.evidencePhase.closed=false) := hok (fun turn' h _ => by
        cases h
        exact hclosed)
      cases hp : turn.evidencePhase with
      | awaitingSettledFrame => exact herr _ turn ht hc (by rw [hp]; rfl)
      | awaitingAgentStart | activeAttempt | retryLifecycle | awaitingAgentSettled
      | awaitingFinalPromptUsage =>
        rw [hp] at hopen
        exact hopen rfl
    · next hc =>
      rw [ActiveTurn.noteUsage,if_neg hc,activeTurn_same ht] at hok
      exact hok (fun turn' h he => by
        cases h
        exact absurd he hc)

theorem checkFinalUsage_wp {sequence : Nat} {c : CorrelationIdentity} {name : CommandName}
    {p : BoundaryPeer} {R : Unit → BoundaryPeer → Prop} {E : PeerError → BoundaryPeer → Prop}
    (hok : (∀ d,p.activeDispose=some d → c=d.correlation ∧ d.finalUsageSequence=none) → R () p)
    (herr : ∀ e,E e p.fence) : wp (checkFinalUsage sequence c name) R E p := by
  simp only [checkFinalUsage,wp_bind,wp_get]
  cases hd : p.activeDispose with
  | none => exact hok (by simp [hd])
  | some d =>
    simp only [wp_require]
    refine ⟨fun h => hok (fun d' hd' => ?_),fun _ => herr _⟩
    rw [hd] at hd'
    cases hd'
    exact ⟨h.2.1,h.2.2.2.1⟩

theorem observeUsage_wp {usage : UsageObservation} (hf : f.event=.usageSnapshot usage)
    (hphase : s.phase≠.fatal) (hsession : f.sessionIdentity=s.sessionIdentity)
    (hseq : f.sequence.val=s.expectedOutboundSequence) :
    wp (observeUsage f.sequence.val f.correlationIdentity usage)
      (fun o t => Observes s f o t) (fun _ t => Refused s f t.fence) (advanced s) := by
  simp only [observeUsage,wp_bind,wp_get,wp_expect,wp_require,fence_fence]
  refine ⟨fun c hc => ⟨fun pending hp => ⟨fun hacc => ?_,?_⟩,?_⟩,?_⟩
  case refine_1 =>
    refine checkFinalUsage_wp (fun hfinal => ⟨fun hname => ?_,fun _ => .fence rfl rfl rfl⟩)
      (fun _ => .fence rfl rfl rfl)
    cases usage with
    | unavailable reason => exact .usageUnavailable reason hf hphase
    | known totals =>
      simp only [wp_bind,wp_modify,wp_pure]
      refine trackUsage_wp (fun delta tracker htrack => ?_) (fun _ => .fence rfl rfl rfl)
      refine notePromptUsage_wp _ (fun hopen => ?_) (fun _ turn ht hcorr hclosed => ?_)
      · exact .usage totals c pending delta tracker hf hc hp hacc.2 hname hfinal htrack hopen
      · refine ⟨fence_fenced rfl rfl,fun hlate => ?_⟩
        have ht' : s.activeTurn=some turn := ht
        have htrack' : UsageTracker.observe (.known totals) s.usage=(.ok delta,tracker) := htrack
        have hcorr' : f.correlationIdentity=some turn.correlation := by rw [hc,hcorr]
        simp only [lateSnapshot,hf,ht',hsession,hseq,hcorr',hclosed,htrack',decide_true,
          Bool.true_and,decide_eq_false_iff_not,ne_eq,not_not] at hlate
        exact hlate
  all_goals intros; exact .fence rfl rfl rfl

theorem observeForumToolCall_wp {call : ToolCallIdentity} {tool : ForumToolName} {args : Json}
    {c : CorrelationIdentity} (hf : f.event=.forumToolCall call tool args)
    (hc : f.correlationIdentity=some c) :
    wp (observeForumToolCall c call)
      (fun _ t => Observes s f (some (.forumToolCall c call tool args)) t)
      (fun _ t => Refused s f t.fence) (advanced s) := by
  simp only [observeForumToolCall,wp_bind,wp_get,wp_expect,wp_require,wp_modify,fence_fence]
  refine ⟨fun turn ht => ⟨fun h => ?_,fun _ => .fence rfl rfl rfl⟩,fun _ => .fence rfl rfl rfl⟩
  obtain ⟨rfl,hprofile,hcall⟩ := h
  exact .forumToolCall call tool args turn hf ht hc hprofile hcall

theorem observeSettled_wp {classification : SettledClassification}
    {outcome : FinalAssistantOutcome} (hf : f.event=.settled classification outcome) :
    wp (observeSettled f.sequence.val f.correlationIdentity classification outcome)
      (fun r t => Observes s f (some (.turnSettled r)) t)
      (fun _ t => Refused s f t.fence) (advanced s) := by
  simp only [observeSettled,wp_bind,wp_get,wp_expect,wp_require,wp_ensure,wp_modify,fence_fence]
  refine ⟨fun c hc => ⟨fun turn ht => ⟨fun heq => ⟨fun disposition hd =>
    ⟨fun h => ?_,?_⟩,?_⟩,?_⟩,?_⟩,?_⟩
  case refine_1 =>
    subst heq
    have hobs : Observes s f _ _ :=
      .settled classification outcome turn disposition hf ht hc hd h.1 h.2
    split
    · next hfailed =>
      rw [if_pos hfailed] at hobs
      exact hobs
    · next hfailed =>
      rw [if_neg hfailed] at hobs
      exact hobs
  all_goals intros; exact .fence rfl rfl rfl

theorem observeDisposed_wp {receipt : TranscriptFlushReceiptV1} (hf : f.event=.disposed receipt) :
    wp (observeDisposed f.sequence.val f.correlationIdentity receipt)
      (fun _ t => Observes s f (some .disposed) t) (fun _ t => Refused s f t.fence)
      (advanced s) := by
  simp only [observeDisposed,wp_bind,wp_get,wp_expect,fence_fence]
  refine ⟨fun c hc => ?_,fun _ => .fence rfl rfl rfl⟩
  split
  · exact .fence rfl rfl rfl
  · simp only [wp_bind,wp_require,wp_expect,wp_modify,fence_fence]
    refine ⟨fun h => ⟨fun dispose hd => ⟨fun hu => ⟨fun create _ => ⟨fun configuration _ =>
      ⟨fun _ => ?_,?_⟩,?_⟩,?_⟩,?_⟩,?_⟩,?_⟩
    case refine_1 => exact .disposed receipt dispose hf h.2.2.2.1 h.2.2.2.2 hd hu.2
    all_goals intros; exact .fence rfl rfl rfl

end Handlers

/-- A frame is accepted as one of the cases above, or refused. -/
theorem observeOutbound_wp (f : OutboundFrame) :
    wp (observeOutbound f) (fun o t => Fitting s f ∧ Observes s f o t)
      (fun _ t => Refused s f t) s := by
  simp only [observeOutbound,wp_onError,observeOutboundInner,wp_bind,wp_get,wp_ensure,wp_require,
    wp_modify,fence_fence]
  refine ⟨fun hphase => ⟨fun hsession => ⟨fun hseq => ?_,?_⟩,?_⟩,?_⟩
  case refine_1 =>
    have hfit : Fitting s f := ⟨hphase,hsession,hseq⟩
    change wp (observeEvent _ _ _) _ _ (advanced s)
    cases hf : f.event with
    | adapterReady pid nonce runtime =>
      exact (wp_bind ..).mpr (wp_mono (fun _ _ h => ⟨hfit,h⟩) (fun _ _ => id)
        (observeAdapterReady_wp hf))
    | sessionReady c =>
      exact (wp_bind ..).mpr (wp_mono (fun _ _ h => ⟨hfit,h⟩) (fun _ _ => id)
        (observeSessionReady_wp hf))
    | commandResult result =>
      exact (wp_bind ..).mpr (wp_mono (fun _ _ h => ⟨hfit,h⟩) (fun _ _ => id)
        (observeCommandResult_wp hf))
    | agentEvent event =>
      exact (wp_bind ..).mpr (wp_mono (fun _ _ h => ⟨hfit,h⟩) (fun _ _ => id)
        (observeAgentEvent_wp hf))
    | forumToolCall call tool args =>
      simp only [observeEvent,wp_bind,wp_expect,wp_pure,fence_fence]
      refine ⟨fun c hc => ?_,fun _ => .fence rfl rfl rfl⟩
      exact wp_mono (fun _ _ h => ⟨hfit,h⟩) (fun _ _ => id) (observeForumToolCall_wp hf hc)
    | usageSnapshot usage =>
      have hlive : s.phase≠.fatal := by simpa [hf,OutboundEvent.isFatal] using hphase
      exact wp_mono (fun _ _ h => ⟨hfit,h⟩) (fun _ _ => id)
        (observeUsage_wp hf hlive hsession hseq)
    | settled classification outcome =>
      exact (wp_bind ..).mpr (wp_mono (fun _ _ h => ⟨hfit,h⟩) (fun _ _ => id)
        (observeSettled_wp hf))
    | disposed receipt =>
      exact (wp_bind ..).mpr (wp_mono (fun _ _ h => ⟨hfit,h⟩) (fun _ _ => id)
        (observeDisposed_wp hf))
    | fatal code =>
      simp only [observeEvent,observeFatal,wp_bind,wp_get,wp_ensure,wp_modify,wp_pure]
      exact ⟨fun _ => ⟨hfit,.fatal code hf⟩,fun _ => .fence rfl rfl rfl⟩
  all_goals intros; exact .fence rfl rfl rfl

end Outbound
section Calls

/-- One call: an admission, an acceptance, an end of the stream, or a refusal. -/
inductive PeerStep (hash : Bytes → Blake3Digest) (s : BoundaryPeer) :
    PeerCall → Except PeerError (Option PeerObservation) → BoundaryPeer → Prop
  | admitted {f : InboundFrame} {t : BoundaryPeer} : Admissible s f → Admits hash s f t →
      PeerStep hash s (.admitFrame f) (.ok none) t
  | observed {f : OutboundFrame} {o : Option PeerObservation} {t : BoundaryPeer} : Fitting s f →
      Observes s f o t → PeerStep hash s (.observe f) (.ok o) t
  | stdoutEof : s.phase=.disposed ∨ s.phase=.fatal → PeerStep hash s .stdoutEof (.ok none) s
  | refused {c : PeerCall} {e : PeerError} {t : BoundaryPeer} : Fenced s t →
      ((∀ f,c=.observe f → lateSnapshot s f=false) → t.usage=s.usage) →
      PeerStep hash s c (.error e) t

theorem run_wp (c : PeerCall) :
    wp (c.run hash) (fun o t => PeerStep hash s c (.ok o) t)
      (fun e t => PeerStep hash s c (.error e) t) s := by
  cases c with
  | admitFrame f =>
    refine (wp_bind ..).mpr (wp_mono (fun _ t h => ?_) (fun _ t h => ?_) (admitInbound_wp f))
    · exact .admitted h.1 h.2
    · exact .refused h.1 (fun _ => h.2)
  | observe f =>
    refine wp_mono (fun _ t h => ?_) (fun _ t h => ?_) (observeOutbound_wp f)
    · exact .observed h.1 h.2
    · exact .refused h.1 (fun hlate => h.2 (hlate f rfl))
  | undecodable e =>
    simp only [PeerCall.run,wp_refuse]
    exact .refused (fence_fenced rfl rfl) (fun _ => rfl)
  | stdoutEof =>
    simp only [PeerCall.run,observeStdoutEof,wp_bind,wp_get,wp_require,wp_pure]
    exact ⟨fun h => .stdoutEof h,fun _ => .refused (fence_fenced rfl rfl) (fun _ => rfl)⟩

theorem run_step (c : PeerCall) (s : BoundaryPeer) :
    PeerStep hash s c (c.run hash s).1 (c.run hash s).2 := by
  obtain ⟨hok,herr⟩ := (wp_iff ..).mp (@run_wp hash s c)
  cases hr : (c.run hash s).1 with
  | ok o => exact hok o hr
  | error e => exact herr e hr

variable {allowed : List PeerEntry → BoundaryPeer → PeerCall → Prop} {h : List PeerEntry}

/-- The induction over the calls of a peer. -/
theorem PeerRunWith.invariant (I : List PeerEntry → BoundaryPeer → Prop)
    (h0 : ∀ s,Fresh s → I [] s)
    (hstep : ∀ h s c r t,allowed h s c → I h s → PeerStep hash s c r t → I (h++[(c,r)]) t)
    (hr : PeerRunWith hash allowed h s) : I h s :=
  Reached.invariant I h0
    (fun h s c _ ha hi => wp_mono (fun _ _ hs => hstep h s c _ _ ha hi hs)
      (fun _ _ hs => hstep h s c _ _ ha hi hs) (run_wp c)) hr

theorem PeerRunWith.run (hr : PeerRunWith hash allowed h s) : PeerRun hash h s :=
  Reached.mono (fun _ _ _ _ => trivial) hr

end Calls
end Society.Boundary
