import Society.Custody.PiChild

namespace Society.Custody
open Society.Boundary Society.Stateful Society.Coding

/-! The operations of the Pi supervisor on a child: frames, cancellation and containment. -/

namespace ManagedPiChild
open Handler

section Processes

def onProcess {α : Type} (m : OwnedNativeChildProcess.Action α) : Action α :=
  within (fun c => c.nativeChild) (fun c p => {c with nativeChild := p}) m

def groupLiveness (probe : KillAnswer) : Action ProcessGroupLiveness :=
  lift (OwnedNativeChildProcess.liveness probe)

def deliver (r : SignalReceipt) (c : ManagedPiChild) : ManagedPiChild :=
  {c with deliveries := c.deliveries++[r]}

/-- A signal attempt with its receipt. -/
def signalGroup (action : SignalAction) (sent : SignalDelivery) (now : MonotonicTick)
    (os : SignalAnswers) : Action NativeSignalGroupOutcome := do
  let outcome ← onProcess (OwnedNativeChildProcess.signal action os)
  modify (deliver (signalReceipt outcome action sent now))
  pure outcome

/-- A call on the peer, with its outcome as an answer. -/
def onPeer {α : Type} (m : LinePeer.Action α) : Action (Except PeerError α) := fun c =>
  match c.peer with
  | none => (.error .invalidLifecycle,c)
  | some p => (.ok (m p).1,{c with peer := some (m p).2})

def peerPhase : Action PeerPhase := do
  let c ← get
  match c.peer with
  | none => fail .invalidLifecycle
  | some p => pure p.peer.phase

end Processes
section Containment

def isAutomatic (c : ManagedPiChild) : Bool :=
  c.cancellation.any (fun p => p.origin==.automaticBoundaryContainment)

/-- The writer closed and what it had not taken dropped. -/
def shut (c : ManagedPiChild) : ManagedPiChild := {c with stdin := false,pendingControl := none}

/-- The mode that the containment takes over from is kept as a revision. -/
def containing (now : MonotonicTick) (automatic : CancellationProgress) (c : ManagedPiChild) :
    ManagedPiChild :=
  let revisions := match c.cancellation with
    | some prior => if prior.mode≠automatic.mode then [⟨prior.mode,automatic.mode,now⟩] else []
    | none => []
  {c with cancellation := some {automatic with modeRevisions := automatic.modeRevisions++revisions},
          lifecycle := .awaitingCooperativeAbort}

def startAutomaticBoundaryContainment (now : MonotonicTick) : Action Unit := do
  let c ← get
  if c.completedReceipt.isSome || c.lifecycle==.reaped then pure ()
  else do
    modify shut
    if c.isAutomatic then modify (fun c => {c with lifecycle := .awaitingCooperativeAbort})
    else do
      let automatic ← lift (CancellationProgress.automaticBoundaryContainment now)
      modify (containing now automatic)

/-- The containment that an error of the call starts, before the error goes on. -/
def orContain {α : Type} (now : MonotonicTick) (m : Action α) : Action α := do
  let r ← attempt m
  match r with
  | .ok a => pure a
  | .error e => do
    startAutomaticBoundaryContainment now
    fail e

/-- A refusal that starts containment. -/
def contain {α : Type} (now : MonotonicTick) (e : SupervisionError) : Action α := do
  startAutomaticBoundaryContainment now
  fail e

end Containment
section Frames
variable (wire : Wire)

def nextFrame (correlationIdentity : CorrelationIdentity) (command : InboundCommand) :
    Action InboundFrame := do
  let c ← get
  ensure (c.pendingControl.isNone=true) .invalidLifecycle
  match parseRanged 1 maxSafeInteger "boundary sequence" c.nextInboundSequence with
  | .error e => fail (.protocol e)
  | .ok sequence => do
    modify (fun c => {c with nextInboundSequence := c.nextInboundSequence+1})
    pure ⟨sequence,c.request.sessionIdentity,correlationIdentity,command⟩

end Frames

end ManagedPiChild

/-- What `write(2)` answers, and how many bytes it took. -/
inductive WriteAnswer
  | wrote (n : Nat) | wouldBlock | failed

/-- The answers that the writes of a call get, and the probe after a delivered Abort. -/
structure WriteAnswers where
  writes : List WriteAnswer
  probe : KillAnswer

namespace ManagedPiChild
open Handler

section Writes

def recordControlDelivery (command : PendingControlCommand) (now : MonotonicTick)
    (probe : KillAnswer) : Action Unit := do
  if command≠.abort then pure ()
  else do
    let l ← groupLiveness probe
    let c ← get
    match c.cancellation with
    | none => fail .invalidLifecycle
    | some p => do
      modify (fun c => {c with cancellation := some {p with abortControlWritten := true}})
      modify (deliver ⟨.abortControl,.abortControlWritten,now,l⟩)

/-- The child after the pipe took these bytes. -/
def wrote (bytes : Bytes) (pending : PendingControlWrite) (c : ManagedPiChild) : ManagedPiChild :=
  {c with nativeChild := {c.nativeChild with
            record := {c.nativeChild.record with stdin := c.nativeChild.record.stdin++bytes}},
          stdinCapture := c.stdinCapture.observe maxTransientStreamBytes bytes,
          pendingControl := some {pending with nextByteOffset := pending.nextByteOffset+bytes.length}}

/-- The child once the pipe has taken the whole frame. -/
def delivered (c : ManagedPiChild) : ManagedPiChild :=
  {c with pendingControl := none,
          physicallyDeliveredInboundFrameCount := c.physicallyDeliveredInboundFrameCount+1}

/-- The head of the loop in `flush_pending_control`: what is left to write, if anything is. -/
def flushHead (now : MonotonicTick) (probe : KillAnswer) : Action (Option PendingControlWrite) := do
  let c ← get
  match c.pendingControl with
  | none => fail .invalidLifecycle
  | some pending =>
    if pending.nextByteOffset=pending.bytes.length then do
      modify delivered
      recordControlDelivery pending.command now probe
      pure none
    else do
      ensure (c.stdin=true) .invalidLifecycle
      pure (some pending)

def flushWrites (now : MonotonicTick) (probe : KillAnswer) :
    List WriteAnswer → Action ControlWriteProgress
  | [] | .wouldBlock::_ => do
    let left ← flushHead now probe
    pure (if left.isNone then .delivered else .pending)
  | .failed::_ => do
    let left ← flushHead now probe
    match left with
    | none => pure .delivered
    | some _ => do
      modify (fun c => {c with stdin := false})
      fail .io
  | .wrote n::writes => do
    let left ← flushHead now probe
    match left with
    | none => pure .delivered
    | some pending => do
      let bytes := (pending.bytes.drop pending.nextByteOffset).take n
      ensure (bytes≠[]) .controlWriteZero
      modify (wrote bytes pending)
      flushWrites now probe writes

def flushPendingControl (now : MonotonicTick) (os : WriteAnswers) : Action ControlWriteProgress := do
  let c ← get
  match c.pendingControl with
  | none => fail .invalidLifecycle
  | some pending => do
    ensure (now.val<pending.deadline.val) .controlWriteDeadlineExpired
    flushWrites now os.probe os.writes

variable (wire : Wire)

/-- The child once its peer has admitted the line. -/
def stage (line : Bytes) (command : PendingControlCommand) (deadline : MonotonicTick)
    (c : ManagedPiChild) : ManagedPiChild :=
  {c with
    admittedControlCapture := (c.admittedControlCapture.observe maxTransientStreamBytes line).observe
      maxTransientStreamBytes [10],
    admitted := c.admitted++[(command,line++[10])],
    pendingControl := some ⟨line++[10],0,deadline,command⟩}

def stageInbound (frame : InboundFrame) (command : PendingControlCommand) (now deadline : MonotonicTick)
    (os : WriteAnswers) : Action ControlWriteProgress := do
  match wire.encodeInbound frame with
  | .error e => fail (.protocol e)
  | .ok line => do
    let r ← onPeer (LinePeer.admitInboundJsonlBytes wire line)
    match r with
    | .error e => fail (.peer e)
    | .ok _ => do
      modify (stage line command deadline)
      flushPendingControl now os

/-- The frame staged, or the child contained. -/
def send (correlationIdentity : CorrelationIdentity) (command : InboundCommand)
    (label : PendingControlCommand) (now deadline : MonotonicTick) (os : WriteAnswers) :
    Action ControlWriteProgress := do
  let frame ← nextFrame correlationIdentity command
  orContain now (stageInbound wire frame label now deadline os)

def inertFacts (c : ManagedPiChild) : InertChildFacts :=
  ⟨c.request.childProcessId,c.request.sessionIdentity,c.nativeChild.hostProcessId,
    c.nativeChild.processGroupId,c.request.workspaceIdentity,c.request.workspaceDirectory,
    c.request.runtime⟩

/-- `gate` is what the last recheck of the admission answers. -/
def sendCreateSession (gate : InertChildFacts → Option AdmissionDenied) (now deadline : MonotonicTick)
    (os : WriteAnswers) : Action ControlWriteProgress := do
  let c ← get
  ensure (c.lifecycle=.inertVerified) .invalidLifecycle
  match gate c.inertFacts with
  | some denial => do
    modify (fun c => {c with stdin := false,lifecycle := .quiescing})
    fail (.admissionDenied denial)
  | none => do
    let progress ← send wire c.request.createCorrelationIdentity (.createSession c.request.createSession)
      .createSession now deadline os
    modify (fun c => {c with lifecycle := .createSent})
    pure progress

def sendPrompt (correlationIdentity : CorrelationIdentity) (purpose : PromptPurpose) (text : String)
    (now deadline : MonotonicTick) (os : WriteAnswers) : Action ControlWriteProgress := do
  let c ← get
  ensure (c.lifecycle=.sessionReady) .invalidLifecycle
  send wire correlationIdentity (.prompt purpose text) .prompt now deadline os

def sendForumToolResult (correlationIdentity : CorrelationIdentity)
    (toolCallIdentity : ToolCallIdentity) (result : Json) (isError : Bool)
    (now deadline : MonotonicTick) (os : WriteAnswers) : Action ControlWriteProgress := do
  let c ← get
  ensure (c.lifecycle=.sessionReady) .invalidLifecycle
  send wire correlationIdentity (.forumToolResult toolCallIdentity result isError) .forumToolResult
    now deadline os

def sendDispose (correlationIdentity : CorrelationIdentity) (reason : DisposeReason)
    (now deadline : MonotonicTick) (os : WriteAnswers) : Action ControlWriteProgress := do
  let c ← get
  ensure (c.lifecycle=.sessionReady) .invalidLifecycle
  let progress ← send wire correlationIdentity (.dispose reason) .dispose now deadline os
  modify (fun c => {c with lifecycle := .quiescing})
  pure progress

def driveControlWrite (now : MonotonicTick) (os : WriteAnswers) : Action ControlWriteProgress := do
  let c ← get
  ensure (c.pendingControl.isSome=true) .invalidLifecycle
  orContain now (flushPendingControl now os)

end Writes
section Cancelling
variable (wire : Wire)

def discardPendingControlBeforeCancellation (c : ManagedPiChild) : ManagedPiChild :=
  if c.pendingControl.isSome then c.shut else c

def requestCancellation (request : CancellationRequest) (now : MonotonicTick) (os : WriteAnswers) :
    Action ControlWriteProgress := do
  modify discardPendingControlBeforeCancellation
  let c ← get
  match c.cancellation with
  | some existing => do
    let progress ← lift (upgradeOrReplayCancellation existing request now)
    modify (fun c => {c with cancellation := some progress})
    pure .delivered
  | none => do
    ensure (c.lifecycle≠.reaped ∧ c.lifecycle≠.contained) .invalidLifecycle
    match CancellationDeadlines.forMode request.mode with
    | none => do
      modify (fun c => {c with cancellation := some (.quiesce request)})
      pure .delivered
    | some d => do
      let deadlines ← lift (d.at now)
      modify (fun c => {c with lifecycle := .awaitingCooperativeAbort,
                               cancellation := some (.explicit request deadlines)})
      if c.lifecycle=.sessionReady then
        send wire request.abortCorrelationIdentity (.abort (abortReasonFor request.reason)) .abort
          now deadlines.1 os
      else pure .delivered

/-- The part of `advance_cancellation_without_reap` that sends a signal and notes it. -/
def escalate (action : SignalAction) (sent : SignalDelivery) (lifecycle : ChildLifecycle)
    (note : Bool → CancellationProgress → CancellationProgress) (now : MonotonicTick)
    (os : SignalAnswers) : Action Unit := do
  let outcome ← signalGroup action sent now os
  let c ← get
  match c.cancellation with
  | none => fail .invalidLifecycle
  | some p => modify (fun c => {c with cancellation := some (note outcome.wasDelivered p),
                                       lifecycle := lifecycle})

def killDue (now : MonotonicTick) (c : ManagedPiChild) : Bool :=
  c.cancellation.any (fun p => p.termSent && !p.killSent && p.killDeadline.val≤now.val)

def advanceCancellationWithoutReap (now : MonotonicTick) (term kill : SignalAnswers) :
    Action Unit := do
  let c ← get
  match c.cancellation with
  | none => fail .invalidLifecycle
  | some p =>
    if p.mode=.quiesce then pure ()
    else do
      when (p.termSent=false ∧ p.abortDeadline.val≤now.val)
        (escalate .terminate .termSent .awaitingTermination CancellationProgress.termed now term)
      let c ← get
      when (c.killDue now=true)
        (escalate .kill .killSent .awaitingKill CancellationProgress.killed now kill)

end Cancelling
end ManagedPiChild
end Society.Custody
