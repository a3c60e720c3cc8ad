import Society.Blake3
import Society.Boundary.Cost

namespace Society.Boundary
open Society.Coding Society.Stateful

/-! The peer of one host process: it admits commands, checks each frame against what it
admitted, and closes for good at the first frame that does not fit. -/

section Digests

def hexChar (n : Nat) : Char := if n<10 then Char.ofNat (48+n) else Char.ofNat (87+n)

def hexText (b : Bytes) : List Char :=
  b.flatMap (fun c => [hexChar (c.toNat/16),hexChar (c.toNat%16)])

theorem length_hexText (b : Bytes) : (hexText b).length=2*b.length := by
  induction b with
  | nil => rfl
  | cons c b ih =>
    have hcons : hexText (c::b)=hexChar (c.toNat/16)::hexChar (c.toNat%16)::hexText b := rfl
    rw [hcons,List.length_cons,List.length_cons,ih,List.length_cons]
    omega

theorem lowerHexDigit_hexChar (n : Fin 16) : lowerHexDigit (hexChar n.val)=true := by
  revert n
  decide

theorem lowerHex_hexText (b : Bytes) : (hexText b).all lowerHexDigit=true := by
  rw [hexText,List.all_flatMap]
  refine List.all_eq_true.mpr (fun c _ => ?_)
  have hlt := c.toNat_lt
  have h1 := lowerHexDigit_hexChar ⟨c.toNat/16,by omega⟩
  have h2 := lowerHexDigit_hexChar ⟨c.toNat%16,by omega⟩
  simp only at h1 h2
  simp [h1,h2]

/-- The lowercase spelling of a BLAKE3 hash. -/
def digest (bytes : Bytes) : Blake3Digest where
  text := String.ofList (hexText (Blake3.digest bytes))
  valid := by simp [isLowerHex,length_hexText,Blake3.length_digest,lowerHex_hexText]

end Digests
section State

inductive PeerPhase
  | awaitingAdapterReady | inert | creating | ready | closing | disposed | fatal
  deriving DecidableEq

inductive TurnDisposition
  | completed | length | error | aborted | failed | protocolFailed
  deriving DecidableEq

@[ext] structure TurnReceipt where
  correlationIdentity : CorrelationIdentity
  disposition : TurnDisposition
  finalAssistantOutcome : FinalAssistantOutcome
  deriving DecidableEq

inductive PeerObservation
  | usage (delta : UsageDelta)
  | usageUnavailable (reason : UsageUnavailableReason)
  | turnSettled (receipt : TurnReceipt)
  | forumToolCall (correlationIdentity : CorrelationIdentity) (toolCallIdentity : ToolCallIdentity)
      (toolName : ForumToolName) (args : Json)
  | disposed
  | fatal (failureCode : AdapterFailureCode)

inductive PeerError
  | protocol (e : ProtocolError) | cost (e : CostDecodeError)
  | inboundSequence | outboundSequence | sessionIdentity | runtimeIdentity | unknownCorrelation
  | duplicateCommandResult | resultCommandMismatch | invalidTransition | executionProfileDrift
  | transcriptReceipt | missingTerminalEvidence | fatal
  deriving DecidableEq

structure PendingCommand where
  name : CommandName
  resultSeen : Bool
  accepted : Bool
  deriving DecidableEq

/-- A prompt that the host has not acknowledged yet. -/
structure PendingPrompt where
  correlation : CorrelationIdentity
  abortIntentAdmitted : Bool
  deriving DecidableEq

/-- An accepted disposal: one forced snapshot, then the transcript receipt. -/
structure ActiveDispose where
  correlation : CorrelationIdentity
  acceptedSequence : Nat
  finalUsageSequence : Option Nat
  deriving DecidableEq

/-- How far the evidence of a turn has come. -/
inductive TurnEvidencePhase
  | awaitingAgentStart
  | activeAttempt
  | retryLifecycle
  | awaitingAgentSettled (finalStopReason : AssistantStopReason)
  | awaitingFinalPromptUsage (finalStopReason : AssistantStopReason) (agentSettledSequence : Nat)
  | awaitingSettledFrame (finalStopReason : AssistantStopReason) (agentSettledSequence : Nat)
      (finalUsageSequence : Nat)
  deriving DecidableEq

structure ActiveTurn where
  correlation : CorrelationIdentity
  evidencePhase : TurnEvidencePhase
  latestPromptUsageSequence : Option Nat
  abortIntentAdmitted : Bool
  deriving DecidableEq

/-- The peer, less the digests of the raw lines, which nothing reads back. -/
@[ext] structure BoundaryPeer where
  sessionIdentity : SessionIdentity
  expectedProcessId : HostProcessId
  expectedSpawnNonce : SpawnNonce
  expectedRuntime : RuntimeIdentity
  phase : PeerPhase
  expectedInboundSequence : Nat
  expectedOutboundSequence : Nat
  adapterReadySeen : Bool
  fatalFrameSeen : Bool
  pendingCommands : CorrelationIdentity → Option PendingCommand
  completedCorrelations : CorrelationIdentity → Bool
  create : Option CreateSessionPayload
  createCandidate : Option (CorrelationIdentity × CreateSessionPayload)
  configuration : Option EffectiveSessionConfiguration
  pendingPrompt : Option PendingPrompt
  pendingForumToolCalls : ToolCallIdentity → Bool
  pendingDispose : Option CorrelationIdentity
  activeDispose : Option ActiveDispose
  activeTurn : Option ActiveTurn
  taskAttemptPromptAdmitted : Bool
  promptCandidates : CorrelationIdentity → Option Blake3Digest
  firstPromptDigest : Option Blake3Digest
  settledTurns : List TurnReceipt
  usage : UsageTracker

/-- A map or a set with one more entry. -/
def insert {α β : Type} [DecidableEq α] (m : α → β) (a : α) (b : β) : α → β :=
  fun x => if x=a then b else m x

@[simp] theorem insert_same {α β : Type} [DecidableEq α] (m : α → β) (a : α) (b : β) :
    insert m a b a=b := if_pos rfl

theorem insert_ne {α β : Type} [DecidableEq α] (m : α → β) {a x : α} (b : β) (hx : x≠a) :
    insert m a b x=m x := if_neg hx

namespace BoundaryPeer

/-- The peer before its first frame. -/
def initial (sessionIdentity : SessionIdentity) (processId : HostProcessId)
    (spawnNonce : SpawnNonce) (runtime : RuntimeIdentity) : BoundaryPeer where
  sessionIdentity
  expectedProcessId := processId
  expectedSpawnNonce := spawnNonce
  expectedRuntime := runtime
  phase := .awaitingAdapterReady
  expectedInboundSequence := 1
  expectedOutboundSequence := 1
  adapterReadySeen := false
  fatalFrameSeen := false
  pendingCommands := fun _ => none
  completedCorrelations := fun _ => false
  create := none
  createCandidate := none
  configuration := none
  pendingPrompt := none
  pendingForumToolCalls := fun _ => false
  pendingDispose := none
  activeDispose := none
  activeTurn := none
  taskAttemptPromptAdmitted := false
  promptCandidates := fun _ => none
  firstPromptDigest := none
  settledTurns := []
  usage := ⟨none⟩

def new (sessionIdentity : SessionIdentity) (processId : HostProcessId) (spawnNonce : SpawnNonce)
    (runtime : RuntimeIdentity) : Except PeerError BoundaryPeer :=
  match runtime.assertV1 with
  | .error e => .error (.protocol e)
  | .ok _ => .ok (initial sessionIdentity processId spawnNonce runtime)

def fence (p : BoundaryPeer) : BoundaryPeer :=
  { p with phase := .fatal, pendingPrompt := none, pendingDispose := none, activeDispose := none,
           activeTurn := none }

end BoundaryPeer
end State

abbrev Action := Handler BoundaryPeer PeerError

section Actions
open Handler

/-- Fence the peer and return the error. -/
def refuse {α : Type} (e : PeerError) : Action α := do
  modify BoundaryPeer.fence
  fail e

/-- The check that fences the peer before it returns its error. -/
def require (c : Prop) [Decidable c] (e : PeerError) : Action Unit :=
  if c then pure () else refuse e

/-- The `let Some(..) = .. else` that fences the peer. -/
def expect {α : Type} (o : Option α) (e : PeerError) : Action α :=
  match o with
  | some a => pure a
  | none => refuse e

def protocol {α : Type} : Except ProtocolError α → Action α
  | .ok a => pure a
  | .error e => fail (.protocol e)

variable {Q : Unit → BoundaryPeer → Prop} {E : PeerError → BoundaryPeer → Prop} {s : BoundaryPeer}

@[simp] theorem wp_refuse {α : Type} {R : α → BoundaryPeer → Prop} (e : PeerError) :
    wp (refuse e : Action α) R E s ↔ E e s.fence := by
  simp [refuse]

@[simp] theorem wp_require (c : Prop) [Decidable c] (e : PeerError) :
    wp (require c e) Q E s ↔ (c → Q () s) ∧ (¬c → E e s.fence) := by
  unfold require
  split <;> simp_all

@[simp] theorem wp_expect {α : Type} {R : α → BoundaryPeer → Prop} (o : Option α) (e : PeerError) :
    wp (expect o e) R E s ↔ (∀ a,o=some a → R a s) ∧ (o=none → E e s.fence) := by
  cases o <;> simp [expect]

@[simp] theorem wp_protocol {α : Type} {R : α → BoundaryPeer → Prop} (r : Except ProtocolError α) :
    wp (protocol r) R E s ↔
      (∀ a,r=.ok a → R a s) ∧ (∀ e,r=.error e → E (.protocol e) s) := by
  cases r <;> simp [protocol]

end Actions
section Inbound
open Handler

/-- A turn that is still in its attempts. -/
def TurnEvidencePhase.attempting : TurnEvidencePhase → Bool
  | awaitingAgentStart | activeAttempt | retryLifecycle => true
  | _ => false

/-- A turn that can still be steered. -/
def TurnEvidencePhase.running : TurnEvidencePhase → Bool
  | activeAttempt | retryLifecycle => true
  | _ => false

/-- The purpose of a prompt that the kind of session admits. -/
def purposeFits : SessionKind → PromptPurpose → Bool
  | .taskAttempt,.taskAssignment => true
  | .rootAuthorityOffice,.officeTurn => true
  | _,_ => false

variable (hash : Bytes → Blake3Digest)

def validateCreateSession (payload : CreateSessionPayload) : Action Unit := do
  let p ← get
  require (p.adapterReadySeen=true ∧ p.phase=.inert ∧ p.create=none ∧ p.createCandidate=none)
    .invalidTransition
  require (payload.authPath.isStrictDescendantOf payload.agentDirectory=true ∧
      payload.modelsPath.isStrictDescendantOf payload.agentDirectory=true ∧
      hash (utf8 payload.systemPrompt)=payload.systemPromptDigest ∧
      payload.model.provider=.openRouter ∧
      payload.model.modelId=payload.modelCatalog.effectiveModel.modelId ∧
      modelThinkingLevelIsAdmitted payload.model.modelId payload.model.thinkingLevel=true)
    .executionProfileDrift
  protocol payload.modelCatalog.assertPinned
  protocol payload.settings.assertPinned
  protocol payload.forumContract.assertPinned

def validatePrompt (purpose : PromptPurpose) : Action Unit := do
  let p ← get
  let create ← expect p.create .invalidTransition
  require (p.phase=.ready ∧ p.activeTurn=none ∧ p.pendingPrompt=none ∧
      purposeFits create.sessionKind purpose=true ∧
      ¬(create.sessionKind=.taskAttempt ∧ p.taskAttemptPromptAdmitted=true)) .invalidTransition
  if create.sessionKind=.taskAttempt then
    modify (fun p => { p with taskAttemptPromptAdmitted := true })
  else pure ()

def validateCommandAdmission (frame : InboundFrame) : Action Unit := do
  let p ← get
  ensure (p.pendingDispose=none) .invalidTransition
  match frame.command with
  | .createSession payload => validateCreateSession hash payload
  | .prompt purpose _ => validatePrompt purpose
  | .followUp .. | .steer .. =>
    require (p.phase=.ready ∧ p.activeTurn.any (·.evidencePhase.running)=true ∧
      p.create.map (·.sessionKind)=some .rootAuthorityOffice) .invalidTransition
  | .forumToolResult call _ _ => do
    require (p.phase=.ready ∧ p.activeTurn≠none ∧ p.pendingForumToolCalls call=true)
      .invalidTransition
    modify (fun p => { p with pendingForumToolCalls := insert p.pendingForumToolCalls call false })
  | .abort _ | .getState => require (p.phase=.ready) .invalidTransition
  | .dispose _ =>
    require (p.phase=.ready ∧ p.pendingPrompt=none ∧ p.activeTurn=none) .invalidTransition

/-- The peer with an abort noted on the turn, or else on the prompt, that it falls on. -/
def noteAbort (p : BoundaryPeer) : BoundaryPeer :=
  { p with
    activeTurn := p.activeTurn.map (fun t => { t with
      abortIntentAdmitted := t.abortIntentAdmitted || t.evidencePhase.attempting })
    pendingPrompt := if p.activeTurn.isSome then p.pendingPrompt
      else p.pendingPrompt.map (fun q => { q with abortIntentAdmitted := true }) }

/-- What the peer keeps of a command it lets through, apart from the entry of its result. -/
def recordCommand (frame : InboundFrame) (p : BoundaryPeer) : BoundaryPeer :=
  match frame.command with
  | .createSession payload => { p with createCandidate := some (frame.correlationIdentity,payload) }
  | .prompt _ text => { p with
      promptCandidates :=
        insert p.promptCandidates frame.correlationIdentity (some (hash (utf8 text)))
      pendingPrompt := some ⟨frame.correlationIdentity,false⟩ }
  | .abort _ => noteAbort p
  | .dispose _ => { p with pendingDispose := some frame.correlationIdentity }
  | _ => p

def admitInboundInner (frame : InboundFrame) : Action Unit := do
  let p ← get
  ensure (p.phase≠.fatal) .fatal
  require (frame.sessionIdentity=p.sessionIdentity) .sessionIdentity
  require (frame.sequence.val=p.expectedInboundSequence) .inboundSequence
  modify (fun p => { p with expectedInboundSequence := p.expectedInboundSequence+1 })
  require (p.pendingCommands frame.correlationIdentity=none ∧
    p.completedCorrelations frame.correlationIdentity=false) .duplicateCommandResult
  validateCommandAdmission hash frame
  modify (recordCommand hash frame)
  modify (fun p => { p with
    pendingCommands :=
      insert p.pendingCommands frame.correlationIdentity (some ⟨frame.command.name,false,false⟩) })

def admitInbound (frame : InboundFrame) : Action Unit :=
  onError BoundaryPeer.fence (admitInboundInner hash frame)

end Inbound
section Evidence
open Handler

def stopReasonOf : String → Option AssistantStopReason
  | "stop" => some .stop
  | "length" => some .length
  | "error" => some .error
  | "aborted" => some .aborted
  | _ => none

/-- The fields of a message that an assistant wrote. -/
def assistantFields : Json → Option (List (String × Json))
  | .object fields =>
    match getField fields "role" with
    | some (.string "assistant") => some fields
    | _ => none
  | _ => none

def stopReasonField (fields : List (String × Json)) : Option AssistantStopReason :=
  match getField fields "stopReason" with
  | some (.string reason) => stopReasonOf reason
  | _ => none

/-- The stop reason of the last message an assistant wrote. -/
def finalAssistantStopReason (messages : List Json) : Option AssistantStopReason :=
  (messages.reverse.findSome? assistantFields).bind stopReasonField

def observeTurnEvidence (state : TurnEvidencePhase) (event : ProjectedAgentEvent)
    (sequence : Nat) : Except PeerError TurnEvidencePhase :=
  match event with
  | .agentStart =>
    match state with
    | .awaitingAgentStart | .retryLifecycle => .ok .activeAttempt
    | _ => .error .missingTerminalEvidence
  | .agentEnd messages willRetry =>
    if state.running=false then .error .missingTerminalEvidence
    else if willRetry then .ok .retryLifecycle
    else match finalAssistantStopReason messages with
      | some reason => .ok (.awaitingAgentSettled reason)
      | none => .error .missingTerminalEvidence
  | .agentSettled =>
    match state with
    | .awaitingAgentSettled reason => .ok (.awaitingFinalPromptUsage reason sequence)
    | _ => .error .missingTerminalEvidence
  | _ =>
    match state with
    | .awaitingFinalPromptUsage .. | .awaitingSettledFrame .. => .error .missingTerminalEvidence
    | _ => .ok state

end Evidence
section Outbound
open Handler

def CommandResult.command : CommandResult → CommandName
  | accepted c => c
  | rejected c _ => c

def CommandResult.isAccepted : CommandResult → Bool
  | accepted _ => true
  | rejected .. => false

/-- What the acceptance of a command changes. -/
def acceptCommand (sequence : Nat) (correlation : CorrelationIdentity) :
    CommandName → Action Unit
  | .createSession => do
    let p ← get
    modify (fun p => { p with createCandidate := none })
    let (candidate,payload) ← expect p.createCandidate .invalidTransition
    require (candidate=correlation) .invalidTransition
    modify (fun p => { p with create := some payload, phase := .creating })
  | .prompt => do
    let p ← get
    modify (fun p => { p with pendingPrompt := none })
    match p.pendingPrompt with
    | none => fail .invalidTransition
    | some prompt =>
      ensure (prompt.correlation=correlation) .invalidTransition
      modify (fun p => { p with
        firstPromptDigest := if p.firstPromptDigest=none then p.promptCandidates correlation
          else p.firstPromptDigest
        activeTurn := some ⟨correlation,.awaitingAgentStart,none,prompt.abortIntentAdmitted⟩ })
  | .dispose => do
    modify (fun p => { p with
      phase := .closing, activeDispose := some ⟨correlation,sequence,none⟩ })
    let p ← get
    modify (fun p => { p with pendingDispose := none })
    match p.pendingDispose with
    | none => fail .invalidTransition
    | some dispose => ensure (dispose=correlation) .invalidTransition
  | _ => pure ()

/-- What the refusal of a command changes. A refused disposal is an error of the session. -/
def rejectCommand (correlation : CorrelationIdentity) : CommandName → Action Unit
  | .prompt => do
    let p ← get
    modify (fun p => { p with pendingPrompt := none })
    match p.pendingPrompt with
    | none => fail .invalidTransition
    | some prompt => ensure (prompt.correlation=correlation) .invalidTransition
  | .dispose => fail .invalidTransition
  | _ => pure ()

def observeCommandResult (sequence : Nat) (correlation : Option CorrelationIdentity)
    (result : CommandResult) : Action Unit := do
  let correlation ← expect correlation .unknownCorrelation
  let p ← get
  let pending ← expect (p.pendingCommands correlation) .unknownCorrelation
  require (pending.resultSeen=false) .duplicateCommandResult
  require (pending.name=result.command) .resultCommandMismatch
  modify (fun p => { p with
    pendingCommands :=
      insert p.pendingCommands correlation (some ⟨pending.name,true,result.isAccepted⟩)
    completedCorrelations := insert p.completedCorrelations correlation true })
  if result.isAccepted=true then acceptCommand sequence correlation pending.name
  else rejectCommand correlation pending.name

def observeSessionReady (correlation : Option CorrelationIdentity)
    (c : EffectiveSessionConfiguration) : Action Unit := do
  let correlation ← expect correlation .unknownCorrelation
  let p ← get
  match p.pendingCommands correlation with
  | none => fail .unknownCorrelation
  | some pending =>
    require (pending.name=.createSession ∧ pending.resultSeen=true ∧ p.phase=.creating)
      .invalidTransition
    let create ← expect p.create .executionProfileDrift
    protocol c.assertPinned
    require (c.sessionKind=create.sessionKind ∧ c.cwd=create.cwd ∧
        c.sessionDirectory=create.sessionDirectory ∧ c.model=create.model ∧
        c.modelCatalog=create.modelCatalog ∧ c.toolProfile=create.toolProfile ∧
        c.settings=create.settings ∧ c.forumContract=create.forumContract ∧
        c.sessionFile.isStrictDescendantOf create.sessionDirectory=true) .executionProfileDrift
    modify (fun p => { p with configuration := some c, phase := .ready })

def observeAgentEvent (sequence : Nat) (correlation : Option CorrelationIdentity)
    (event : ProjectedAgentEvent) : Action Unit := do
  let p ← get
  require (p.phase=.ready ∨ p.phase=.closing) .invalidTransition
  match p.activeTurn with
  | some turn => do
    require (correlation=some turn.correlation) .unknownCorrelation
    let phase ← lift (observeTurnEvidence turn.evidencePhase event sequence)
    modify (fun p => { p with activeTurn := some { turn with evidencePhase := phase } })
  | none => require (correlation=none) .unknownCorrelation

/-- The session offers the two Forum tools and nothing else. -/
def forumProfile (c : EffectiveSessionConfiguration) : Bool :=
  c.toolProfile=.forumIsolatedV1 && c.tools=[.societyForumRead,.societyForumPost]

def observeForumToolCall (correlation : CorrelationIdentity) (call : ToolCallIdentity) :
    Action Unit := do
  let p ← get
  let turn ← expect p.activeTurn .invalidTransition
  require (correlation=turn.correlation ∧ p.configuration.any forumProfile=true ∧
    p.pendingForumToolCalls call=false) .invalidTransition
  modify (fun p => { p with pendingForumToolCalls := insert p.pendingForumToolCalls call true })

/-- The commands whose accepted result lets a snapshot through, with and without a turn. -/
def usageCommand (turnActive : Bool) (name : CommandName) : Bool :=
  if turnActive then name∈[.prompt,.followUp,.steer,.abort,.getState]
  else name∈[.abort,.getState,.dispose]

/-- The tracker takes the snapshot; a refusal fences the peer. -/
def trackUsage (usage : UsageObservation) : Action UsageDelta := fun p =>
  match UsageTracker.observe usage p.usage with
  | (.ok delta,tracker) => (.ok delta,{ p with usage := tracker })
  | (.error e,tracker) => (.error (.cost e),{ p with usage := tracker }.fence)

/-- A snapshot of the running prompt moves its evidence on. After the final one no other may
follow: the tracker has taken that snapshot before the check. -/
def notePromptUsage (sequence : Nat) (correlation : CorrelationIdentity) : Action Unit := do
  let p ← get
  match p.activeTurn with
  | none => pure ()
  | some turn =>
    if correlation=turn.correlation then
      match turn.evidencePhase with
      | .awaitingFinalPromptUsage reason settled => modify (fun p => { p with
          activeTurn := some { turn with
            evidencePhase := .awaitingSettledFrame reason settled sequence
            latestPromptUsageSequence := some sequence } })
      | .awaitingSettledFrame .. => fail .missingTerminalEvidence
      | _ => modify (fun p => { p with
          activeTurn := some { turn with latestPromptUsageSequence := some sequence } })
    else pure ()

/-- While a disposal is under way, the one snapshot it takes follows its acceptance directly. -/
def checkFinalUsage (sequence : Nat) (correlation : CorrelationIdentity) (name : CommandName) :
    Action Unit := do
  let p ← get
  match p.activeDispose with
  | some dispose => require (p.phase=.closing ∧ correlation=dispose.correlation ∧
      name=.dispose ∧ dispose.finalUsageSequence=none ∧
      dispose.acceptedSequence+1=sequence) .missingTerminalEvidence
  | none => pure ()

def observeUsage (sequence : Nat) (correlation : Option CorrelationIdentity)
    (usage : UsageObservation) : Action (Option PeerObservation) := do
  let correlation ← expect correlation .unknownCorrelation
  let p ← get
  let command ← expect (p.pendingCommands correlation) .unknownCorrelation
  require (command.resultSeen=true ∧ command.accepted=true) .invalidTransition
  checkFinalUsage sequence correlation command.name
  require (usageCommand p.activeTurn.isSome command.name=true) .invalidTransition
  match usage with
  | .unavailable reason => do
    modify BoundaryPeer.fence
    pure (some (.usageUnavailable reason))
  | .known _ => do
    let delta ← trackUsage usage
    modify (fun p => { p with
      activeDispose := p.activeDispose.map (fun d => { d with finalUsageSequence := some sequence }) })
    notePromptUsage sequence correlation
    pure (some (.usage delta))

def settledDisposition (abortIntent : Bool) :
    SettledClassification → FinalAssistantOutcome → Option TurnDisposition
  | .completed,.observed .stop => some .completed
  | .length,.observed .length => some .length
  | .error,.observed .error => some .error
  | .aborted,.observed .aborted => some .aborted
  | .aborted,.observed .stop => if abortIntent then some .aborted else none
  | .failed,.unavailable .sdkPromiseRejected => some .failed
  | .protocolFailed,.unavailable .missingFinalAssistantOutcome => some .protocolFailed
  | _,_ => none

/-- The evidence that an observed outcome needs. -/
def observedEvidenceIsClosed (sequence : Nat) : FinalAssistantOutcome → TurnEvidencePhase → Bool
  | .observed reason,.awaitingSettledFrame final settled usage =>
    final=reason && settled<usage && usage+1=sequence
  | .observed _,_ => false
  | .unavailable _,_ => true

def observeSettled (sequence : Nat) (correlation : Option CorrelationIdentity)
    (classification : SettledClassification) (outcome : FinalAssistantOutcome) :
    Action TurnReceipt := do
  let correlation ← expect correlation .unknownCorrelation
  let p ← get
  let turn ← expect p.activeTurn .invalidTransition
  require (correlation=turn.correlation) .unknownCorrelation
  let disposition ← expect (settledDisposition turn.abortIntentAdmitted classification outcome)
    .missingTerminalEvidence
  ensure (observedEvidenceIsClosed sequence outcome turn.evidencePhase=true ∧
    turn.latestPromptUsageSequence.any (fun usage => usage+1=sequence)=true)
    .missingTerminalEvidence
  let receipt : TurnReceipt := ⟨correlation,disposition,outcome⟩
  modify (fun p => { p with settledTurns := p.settledTurns++[receipt], activeTurn := none })
  if disposition=.protocolFailed then modify BoundaryPeer.fence else pure ()
  pure receipt

/-- The transcript receipt is that of the session and of its first prompt. -/
def transcriptFits (p : BoundaryPeer) (create : CreateSessionPayload)
    (configuration : EffectiveSessionConfiguration) : TranscriptFlushReceiptV1 → Bool
  | .materialized session file _ cwd prompt =>
    session=p.sessionIdentity && file=configuration.sessionFile &&
      file.isStrictDescendantOf create.sessionDirectory && cwd=create.cwd &&
      prompt=(p.firstPromptDigest.map FirstUserPromptReceipt.verified).getD .absent
  | .unmaterializedNoPrompt session file =>
    p.firstPromptDigest=none && session=p.sessionIdentity && file=configuration.sessionFile &&
      file.isStrictDescendantOf create.sessionDirectory

def observeDisposed (sequence : Nat) (correlation : Option CorrelationIdentity)
    (receipt : TranscriptFlushReceiptV1) : Action Unit := do
  let correlation ← expect correlation .unknownCorrelation
  let p ← get
  match p.pendingCommands correlation with
  | none => fail .unknownCorrelation
  | some pending =>
    require (pending.name=.dispose ∧ pending.resultSeen=true ∧ pending.accepted=true ∧
      p.phase=.closing ∧ p.activeTurn=none) .invalidTransition
    let dispose ← expect p.activeDispose .missingTerminalEvidence
    require (dispose.correlation=correlation ∧
      dispose.finalUsageSequence.any (fun usage => usage+1=sequence)=true)
      .missingTerminalEvidence
    let create ← expect p.create .transcriptReceipt
    let configuration ← expect p.configuration .transcriptReceipt
    require (transcriptFits p create configuration receipt=true) .transcriptReceipt
    modify (fun p => { p with activeDispose := none, phase := .disposed })

def observeAdapterReady (pid : HostProcessId) (nonce : SpawnNonce) (runtime : RuntimeIdentity) :
    Action Unit := do
  let p ← get
  require (p.adapterReadySeen=false ∧ p.phase=.awaitingAdapterReady ∧ pid=p.expectedProcessId ∧
    nonce=p.expectedSpawnNonce ∧ runtime=p.expectedRuntime) .runtimeIdentity
  protocol runtime.assertV1
  modify (fun p => { p with adapterReadySeen := true, phase := .inert })

def observeFatal (failureCode : AdapterFailureCode) : Action (Option PeerObservation) := do
  let p ← get
  ensure (p.fatalFrameSeen=false) .fatal
  modify (fun p => { p with fatalFrameSeen := true })
  modify BoundaryPeer.fence
  pure (some (.fatal failureCode))

def OutboundEvent.isFatal : OutboundEvent → Bool
  | fatal _ => true
  | _ => false

def observeEvent (sequence : Nat) (correlation : Option CorrelationIdentity) :
    OutboundEvent → Action (Option PeerObservation)
  | .adapterReady pid nonce runtime => do
    observeAdapterReady pid nonce runtime
    pure none
  | .sessionReady configuration => do
    observeSessionReady correlation configuration
    pure none
  | .commandResult result => do
    observeCommandResult sequence correlation result
    pure none
  | .agentEvent event => do
    observeAgentEvent sequence correlation event
    pure none
  | .forumToolCall call tool args => do
    let correlation ← expect correlation .unknownCorrelation
    observeForumToolCall correlation call
    pure (some (.forumToolCall correlation call tool args))
  | .usageSnapshot usage => observeUsage sequence correlation usage
  | .settled classification outcome => do
    let receipt ← observeSettled sequence correlation classification outcome
    pure (some (.turnSettled receipt))
  | .disposed receipt => do
    observeDisposed sequence correlation receipt
    pure (some .disposed)
  | .fatal failureCode => observeFatal failureCode

def observeOutboundInner (frame : OutboundFrame) : Action (Option PeerObservation) := do
  let p ← get
  ensure (p.phase≠.fatal ∨ frame.event.isFatal=true) .fatal
  require (frame.sessionIdentity=p.sessionIdentity) .sessionIdentity
  require (frame.sequence.val=p.expectedOutboundSequence) .outboundSequence
  modify (fun p => { p with expectedOutboundSequence := p.expectedOutboundSequence+1 })
  observeEvent frame.sequence.val frame.correlationIdentity frame.event

def observeOutbound (frame : OutboundFrame) : Action (Option PeerObservation) :=
  onError BoundaryPeer.fence (observeOutboundInner frame)

def observeStdoutEof : Action Unit := do
  let p ← get
  require (p.phase=.disposed ∨ p.phase=.fatal) .missingTerminalEvidence

end Outbound
section Calls
open Handler

/-- The calls of the peer's owner. A line that does not decode fences it like a bad frame. -/
inductive PeerCall
  | admitFrame (frame : InboundFrame)
  | observe (frame : OutboundFrame)
  | undecodable (e : ProtocolError)
  | stdoutEof

def PeerCall.run (hash : Bytes → Blake3Digest) : PeerCall → Action (Option PeerObservation)
  | admitFrame frame => do
    admitInbound hash frame
    pure none
  | observe frame => observeOutbound frame
  | undecodable e => refuse (.protocol e)
  | stdoutEof => do
    observeStdoutEof
    pure none

/-- A peer as it is made. -/
def Fresh (p : BoundaryPeer) : Prop :=
  ∃ session process nonce runtime,BoundaryPeer.new session process nonce runtime=.ok p

theorem Fresh.eq_initial {p : BoundaryPeer} (hp : Fresh p) :
    ∃ session process nonce runtime,p=.initial session process nonce runtime := by
  obtain ⟨session,process,nonce,runtime,hnew⟩ := hp
  refine ⟨session,process,nonce,runtime,?_⟩
  unfold BoundaryPeer.new at hnew
  split at hnew
  · cases hnew
  · exact (Except.ok.inj hnew).symm

abbrev PeerEntry := Entry PeerCall PeerError (Option PeerObservation)

/-- The record of an admitted command. -/
abbrev admittedEntry (f : InboundFrame) : PeerEntry := (.admitFrame f,.ok none)

/-- The record of an accepted frame. -/
abbrev observedEntry (f : OutboundFrame) (o : Option PeerObservation) : PeerEntry :=
  (.observe f,.ok o)

/-- The records and states of the runs of a peer whose calls all meet a condition. -/
abbrev PeerRunWith (hash : Bytes → Blake3Digest)
    (allowed : List PeerEntry → BoundaryPeer → PeerCall → Prop) :
    List PeerEntry → BoundaryPeer → Prop :=
  Reached (PeerCall.run hash) Fresh allowed

/-- The records and states of all runs of a peer. -/
abbrev PeerRun (hash : Bytes → Blake3Digest) : List PeerEntry → BoundaryPeer → Prop :=
  PeerRunWith hash (fun _ _ _ => True)

end Calls
end Society.Boundary
