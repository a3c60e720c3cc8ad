import Society.Custody.PiControl

namespace Society.Custody
open Society.Boundary Society.Stateful Society.Coding

/-! The operations of the Pi supervisor on a child: its output, its reaping, and all calls. -/

def ReadAnswer.size : ReadAnswer → Nat
  | .chunk bytes => bytes.length
  | _ => 0

inductive StreamRead
  | frame (record : Bytes) | notReady | eof

inductive PeerFrameValidation
  | accepted | rejected (e : PeerError)

structure SealedDecodedPeerFrame where
  frame : OutboundFrame
  observation : Option PeerObservation
  validation : PeerFrameValidation
  peerBecameFatal : Bool

inductive OutboundRead
  | notReady
  | observation (o : SealedDecodedPeerFrame)

namespace ManagedPiChild
open Handler

section Reading

/-- What the reader takes of its buffer: up to the first newline, with it. -/
def firstLine (available : Bytes) : Bytes := available.take (available.idxOf 10+1)

def consume (bytes rest : Bytes) (c : ManagedPiChild) : ManagedPiChild :=
  {c with stdout := some rest,
          stdoutCapture := c.stdoutCapture.observe maxTransientStreamBytes bytes}

/-- The part of `read_bounded_record` that looks at the reader's buffer; the record, if the
buffer ends it. -/
def takeRecord (available : Bytes) : Action (Option Bytes) := do
  let bytes := firstLine available
  modify (consume bytes (available.drop bytes.length))
  let c ← get
  if maxJsonlFrameBytes+1 < c.stdoutPartialRecord.length+bytes.length then do
    modify (fun c => {c with stdoutPartialRecord := []})
    fail .outboundFrameTooLarge
  else if bytes.getLast?=some 10 then do
    modify (fun c => {c with stdoutPartialRecord := []})
    pure (some (c.stdoutPartialRecord++bytes).dropLast)
  else do
    modify (fun c => {c with stdoutPartialRecord := c.stdoutPartialRecord++bytes})
    pure none

def pipeRead (bytes : Bytes) (c : ManagedPiChild) : ManagedPiChild :=
  {c with nativeChild := c.nativeChild.readStdout bytes}

/-- The reads of `read_bounded_record`, with the answers that they leave. -/
def fillRecord : List ReadAnswer → Action (StreamRead × List ReadAnswer)
  | [] => pure (.notReady,[])
  | .wouldBlock::reads => pure (.notReady,reads)
  | .failed::_ => fail .io
  | .chunk bytes::reads => do
    modify (pipeRead bytes)
    if bytes=[] then do
      let c ← get
      ensure (c.stdoutPartialRecord=[]) .unterminatedOutboundRecord
      pure (.eof,reads)
    else do
      let record ← takeRecord bytes
      match record with
      | some record => pure (.frame record,reads)
      | none => fillRecord reads

def readBoundedRecord (reads : List ReadAnswer) : Action (StreamRead × List ReadAnswer) := do
  let c ← get
  match c.stdout with
  | none => fail .invalidLifecycle
  | some [] => fillRecord reads
  | some available => do
    let record ← takeRecord available
    match record with
    | some record => pure (.frame record,reads)
    | none => fillRecord reads

variable (wire : Wire)

/-- The frame of a record that the peer has sealed, decoded once more. -/
def decodeSealed (record : Bytes) : Except SupervisionError OutboundFrame :=
  match String.fromUTF8? ⟨record.toArray⟩ with
  | none => .error (.peer (.protocol .invalidUtf8))
  | some text =>
    match wire.decodeOutbound text with
    | .error e => .error (.protocol e)
    | .ok frame => .ok frame

def readOneOutbound (reads : List ReadAnswer) : Action (OutboundRead × List ReadAnswer) := do
  let (record,reads) ← readBoundedRecord reads
  match record with
  | .notReady => pure (.notReady,reads)
  | .eof => do
    let _ ← onPeer (LinePeer.onPeer observeStdoutEof)
    fail .outputLost
  | .frame record => do
    let observation ← onPeer (LinePeer.observeOutboundJsonlBytes wire record)
    let frame ← lift (decodeSealed wire record)
    let phase ← peerPhase
    match observation with
    | .ok o => pure (.observation ⟨frame,o,.accepted,phase==.fatal⟩,reads)
    | .error e => pure (.observation ⟨frame,none,.rejected e,phase==.fatal⟩,reads)

/-- A read whose error, or whose fatal frame, starts containment. -/
def readOrContain (now : MonotonicTick) (reads : List ReadAnswer) :
    Action (OutboundRead × List ReadAnswer) := do
  let (outbound,reads) ← orContain now (readOneOutbound wire reads)
  match outbound with
  | .notReady => pure (.notReady,reads)
  | .observation o => do
    when (o.peerBecameFatal=true) (startAutomaticBoundaryContainment now)
    pure (.observation o,reads)

def observeLiveOutput (now : MonotonicTick) (reads : List ReadAnswer) :
    Action (Option SealedDecodedPeerFrame) := do
  let (outbound,_) ← readOrContain wire now reads
  match outbound with
  | .notReady => pure none
  | .observation o => pure (some o)

def observeDisposalOutput (now deadline : MonotonicTick) (reads : List ReadAnswer) :
    Action (Option SealedDecodedPeerFrame) := do
  let c ← get
  ensure (c.lifecycle=.quiescing) .invalidLifecycle
  if c.pendingControl.isSome then pure none
  else do
    let (outbound,_) ← readOrContain wire now reads
    match outbound with
    | .notReady =>
      if deadline.val≤now.val then contain now .handshakeDeadlineExpired else pure none
    | .observation o => do
      let phase ← peerPhase
      when (phase=.disposed) (modify (fun c => {c with stdin := false}))
      pure (some o)

end Reading
section Handshake
variable (wire : Wire)

/-- `ownsGroup` is what `getpgid` answers, or `none` for its failure. -/
def observeAdapterReady (now deadline : MonotonicTick) (reads : List ReadAnswer)
    (ownsGroup : Option Bool) : Action (Option InertChildFacts) := do
  let c ← get
  ensure (c.lifecycle=.awaitingAdapterReady) .invalidLifecycle
  let (outbound,_) ← orContain now (readOneOutbound wire reads)
  match outbound with
  | .notReady =>
    if deadline.val≤now.val then contain now .handshakeDeadlineExpired else pure none
  | .observation _ => do
    let phase ← peerPhase
    if phase=.fatal then contain now (.peer .fatal)
    else match ownsGroup with
      | none => contain now .processGroup
      | some owns =>
        if phase≠.inert ∨ owns=false then contain now .invalidLifecycle
        else do
          modify (fun c => {c with lifecycle := .inertVerified})
          let c ← get
          pure (some c.inertFacts)

def maxHandshakeFrames : Nat := 8

def sessionReadyLoop (now deadline : MonotonicTick) : Nat → List ReadAnswer → Action Bool
  | 0,_ => contain now .invalidLifecycle
  | n+1,reads => do
    let (outbound,reads) ← orContain now (readOneOutbound wire reads)
    match outbound with
    | .notReady =>
      if deadline.val≤now.val then contain now .handshakeDeadlineExpired else pure false
    | .observation _ => do
      let phase ← peerPhase
      if phase=.fatal then contain now (.peer .fatal)
      else if phase=.ready then do
        modify (fun c => {c with lifecycle := .sessionReady})
        pure true
      else sessionReadyLoop now deadline n reads

def observeSessionReady (now deadline : MonotonicTick) (reads : List ReadAnswer) : Action Bool := do
  let c ← get
  ensure (c.lifecycle=.createSent) .invalidLifecycle
  if c.pendingControl.isSome then pure false
  else sessionReadyLoop wire now deadline maxHandshakeFrames reads

/-- `stdin` and `stdout` are whether the pipes take the nonblocking flag. -/
def preparePipes (stdin stdout : Bool) (c : ManagedPiChild) :
    Except PostSpawnSetupFailure BoundaryPeer :=
  match BoundaryPeer.new c.request.sessionIdentity c.nativeChild.hostProcessId c.request.spawnNonce
    c.request.runtime with
  | .error _ => .error .boundaryPeer
  | .ok peer =>
    if !c.stdin then .error .missingStdinPipe
    else if !stdin then .error .stdinNonblocking
    else if c.stdout.isNone then .error .missingStdoutPipe
    else if !stdout then .error .stdoutNonblocking
    else .ok peer

def finishInertSetup (now : MonotonicTick) (stdin stdout : Bool) : Action Unit := do
  let c ← get
  ensure (c.lifecycle=.nativeSpawnRegistered) .invalidLifecycle
  match c.preparePipes stdin stdout with
  | .error failure => contain now (.postSpawnSetup failure)
  | .ok peer => modify (fun c => {c with peer := some ⟨peer,[],[]⟩,lifecycle := .awaitingAdapterReady})

end Handshake
end ManagedPiChild

/-- The answers that the completion of a reap gets: to the flag of the standard output of a child
without a peer, to the reads after the exit, and from the reader thread. -/
structure FinalAnswers where
  nonblocking : Bool
  reads : List ReadAnswer
  joined : Bool
  lock : Bool

/-- The answers that an immediate reap gets after the wait. -/
structure ReapAnswers where
  before : KillAnswer
  kill : SignalAnswers
  after : KillAnswer
  final : FinalAnswers

namespace ManagedPiChild
open Handler

section Reaping

/-- More turns than the drain can take, as each but the last takes a newline. -/
def drainTurns (reads : List ReadAnswer) (c : ManagedPiChild) : Nat :=
  1+(c.stdout.getD []).length+(reads.map ReadAnswer.size).sum

variable (wire : Wire)

/-- The loop of `drain_stdout_after_exit`; its answer is whether the stream was contained. -/
def drainLoop : Nat → List ReadAnswer → Bool → Action Bool
  | 0,_,contained => pure contained
  | n+1,reads,contained => do
    let r ← attempt (readBoundedRecord reads)
    match r with
    | .ok (.frame record,reads) => do
      let c ← get
      match c.peer with
      | none => drainLoop n reads true
      | some _ => do
        let o ← onPeer (LinePeer.observeOutboundJsonlBytes wire record)
        match o with
        | .ok _ => drainLoop n reads contained
        | .error _ => drainLoop n reads true
    | .ok (.eof,_) => pure contained
    | .ok (.notReady,_) => do
      modify (fun c => {c with stdoutCapture := {c.stdoutCapture with retention := .prefixBounded}})
      pure true
    | .error .outboundFrameTooLarge | .error .unterminatedOutboundRecord => do
      modify (fun c => {c with lifecycle := .contained})
      pure true
    | .error e => fail e

def drainStdoutAfterExit (os : FinalAnswers) : Action Bool := do
  let c ← get
  ensure (c.stdout.isSome=true) .invalidLifecycle
  ensure (c.peer.isSome=true ∨ os.nonblocking=true) .io
  drainLoop wire (c.drainTurns os.reads) os.reads false

def takeStderrSnapshotAfterReap (os : FinalAnswers) : Action StreamCapture := do
  let c ← get
  match c.stderrCapture with
  | none => fail .stderrCaptureFailed
  | some task => do
    modify (fun c => {c with stderrCapture := none})
    match task.result with
    | some well => do
      ensure (os.joined=true) .stderrCaptureFailed
      ensure (well=true) .io
      ensure (os.lock=true) .stderrCaptureFailed
      pure task.snapshot
    | none => do
      ensure (os.lock=true) .stderrCaptureFailed
      pure task.snapshot.withPrefixBounded

def terminalDisposition (cancellation : Option CancellationProgress) (status : ExitStatus)
    (l : ProcessGroupLiveness) : ChildTerminalDisposition :=
  if l≠.absent then .containmentFailed
  else match cancellation with
    | none => .notRunning
    | some p =>
      if p.killDelivered then .killed
      else if p.termDelivered then .terminated
      else if p.abortControlWritten && status.success then .cooperativelyAborted
      else .completedBeforeDelivery

/-- The peer's view of the end of the output: whether it was contained there. -/
def observeFinalEof : Action Bool := do
  let c ← get
  match c.peer with
  | none => pure false
  | some p =>
    if p.peer.phase=.inert ∧ c.lifecycle=.quiescing ∧ c.cancellation.isNone=true then pure false
    else do
      let r ← onPeer (LinePeer.onPeer observeStdoutEof)
      match r with
      | .ok _ => pure false
      | .error _ => pure true

/-- What the parts of the completion found: the drained output, its end and the reader thread. -/
structure Completion where
  stdoutContained : Bool
  eofContained : Bool
  stderr : StreamCapture

def containmentFailed (k : Completion) (after : ProcessGroupLiveness) (c : ManagedPiChild) : Bool :=
  let forced := c.cancellation.any (fun p => p.termDelivered || p.killDelivered)
  let fatal := c.peer.any (fun p => p.peer.phase==.fatal)
  k.stdoutContained || c.isAutomatic || c.stdinCapture.countOverflowed ||
    c.stdoutCapture.countOverflowed || k.stderr.countOverflowed || after≠.absent ||
    (k.eofContained && !forced) || (fatal && !forced)

def dispositionOf (k : Completion) (status : ExitStatus) (after : ProcessGroupLiveness)
    (c : ManagedPiChild) : ChildTerminalDisposition :=
  if c.containmentFailed k after then .containmentFailed
  else terminalDisposition c.cancellation status after

def evidence (k : Completion) (c : ManagedPiChild) : TransientExecutionEvidence where
  admittedControl := c.admittedControlCapture.transientCapture wire.hash
  stdin := c.stdinCapture.transientCapture wire.hash
  stdout := c.stdoutCapture.transientCapture wire.hash
  stderr := k.stderr.transientCapture wire.hash
  logicallyAdmittedInboundFrameCount := (c.peer.map (fun p => p.inboundSeals.length)).getD 0
  physicallyDeliveredInboundFrameCount := c.physicallyDeliveredInboundFrameCount
  outboundFrameCount := (c.peer.map (fun p => p.outboundSeals.length)).getD 0

def supervisionReceipt (k : Completion) (status : ExitStatus) (before after : ProcessGroupLiveness)
    (c : ManagedPiChild) : SupervisionReceipt where
  childProcessId := c.request.childProcessId
  sessionIdentity := c.request.sessionIdentity
  workspaceIdentity := c.request.workspaceIdentity
  workspaceDirectory := c.request.workspaceDirectory
  terminalDisposition := c.dispositionOf k status after
  reap := some ⟨c.request.childProcessId,c.nativeChild.hostProcessId,c.nativeChild.processGroupId,
    reapStatus status,before,after⟩
  cancellationDeliveries := c.deliveries
  cancellationOrigin := c.cancellation.map (fun p => p.origin)
  cancellationModeRevisions := (c.cancellation.map (fun p => p.modeRevisions)).getD []
  canonicalSessionFile := c.peer.bind (fun p => p.peer.configuration.map (fun f => f.sessionFile))
  transientEvidence := c.evidence wire k
  peerState := match c.peer with
    | none => .notInitialized
    | some p => .observed p.peer.phase

def complete (r : SupervisionReceipt) (c : ManagedPiChild) : ManagedPiChild :=
  {c with completedReceipt := some r,
          lifecycle := if r.terminalDisposition=.containmentFailed then .contained else .reaped}

def completeReapAfterGroupAbsent (status : ExitStatus) (before after : ProcessGroupLiveness)
    (os : FinalAnswers) : Action SupervisionReceipt := do
  let stdoutContained ← drainStdoutAfterExit wire os
  let eofContained ← observeFinalEof
  let stderr ← takeStderrSnapshotAfterReap os
  let c ← get
  let receipt := c.supervisionReceipt wire ⟨stdoutContained,eofContained,stderr⟩ status before after
  modify (complete receipt)
  pure receipt

def completeReap (status : ExitStatus) (now : MonotonicTick) (os : ReapAnswers) :
    Action SupervisionReceipt := do
  modify (fun c => {c with stdin := false})
  let before ← groupLiveness os.before
  when (before≠.absent) (do
    let _ ← signalGroup .lingeringGroupKill .lingeringGroupKillSent now os.kill
    pure ())
  let after ← groupLiveness os.after
  completeReapAfterGroupAbsent wire status before after os.final

/-- `wait` is what `try_wait` answers, or `none` for its failure. -/
def tryReap (now : MonotonicTick) (wait : Option (Option ExitStatus)) (os : ReapAnswers) :
    Action (Option SupervisionReceipt) := do
  let c ← get
  match c.completedReceipt with
  | some r => pure (some r)
  | none => do
    let status ← onProcess (OwnedNativeChildProcess.pollDirectWait wait)
    match status with
    | none => pure none
    | some status => do
      let r ← completeReap wire status now os
      pure (some r)

def waitAndReap (now : MonotonicTick) (wait : Option (Option ExitStatus)) (os : ReapAnswers) :
    Action SupervisionReceipt := do
  let c ← get
  match c.completedReceipt with
  | some r => pure r
  | none =>
    if c.isAutomatic then do
      let r ← tryReap wire now wait os
      match r with
      | some r => pure r
      | none => fail .containmentAwaitingDrive
    else do
      let status ← onProcess (OwnedNativeChildProcess.waitDirect wait.join)
      completeReap wire status now os

def driveCancellation (now : MonotonicTick) (wait : Option (Option ExitStatus)) (os : ReapAnswers)
    (term kill : SignalAnswers) : Action (Option SupervisionReceipt) := do
  let r ← tryReap wire now wait os
  match r with
  | some r => pure (some r)
  | none => do
    advanceCancellationWithoutReap now term kill
    pure none

def directReapFacts (pending : PendingDirectChildReap) (c : ManagedPiChild) : DirectChildReapFacts :=
  ⟨c.request.childProcessId,c.nativeChild.hostProcessId,c.nativeChild.processGroupId,
    reapStatus pending.status,pending.groupLivenessAfterDirectChildReap,pending.priorSignalReceipts⟩

def pollDirectChildReap (wait : Option (Option ExitStatus)) (probe : KillAnswer) :
    Action (Option DirectChildReapFacts) := do
  let c ← get
  match c.pendingDirectReap with
  | some pending => pure (some (c.directReapFacts pending))
  | none => do
    ensure (c.completedReceipt.isNone=true) .invalidLifecycle
    let status ← onProcess (OwnedNativeChildProcess.pollDirectWait wait)
    match status with
    | none => pure none
    | some status => do
      let l ← groupLiveness probe
      let c ← get
      modify (fun c => {c with pendingDirectReap := some ⟨status,l,c.deliveries⟩})
      pure (some (c.directReapFacts ⟨status,l,c.deliveries⟩))

def issueLingeringGroupCleanup (now : MonotonicTick) (os : SignalAnswers) :
    Action (Option SignalReceipt) := do
  let c ← get
  match c.pendingDirectReap with
  | none => fail .invalidLifecycle
  | some pending =>
    if pending.groupLivenessAfterDirectChildReap=.absent then pure none
    else do
      ensure (c.deliveries.all (fun r => r.action≠.lingeringGroupKill)=true) .invalidLifecycle
      let outcome ← signalGroup .lingeringGroupKill .lingeringGroupKillSent now os
      pure (some (signalReceipt outcome .lingeringGroupKill .lingeringGroupKillSent now))

def completeDeferredReap (probe : KillAnswer) (os : FinalAnswers) : Action SupervisionReceipt := do
  let c ← get
  match c.completedReceipt,c.pendingDirectReap with
  | some r,_ => pure r
  | none,none => fail .invalidLifecycle
  | none,some pending => do
    modify (fun c => {c with pendingDirectReap := none})
    let after ← groupLiveness probe
    if after≠.absent then do
      modify (fun c => {c with pendingDirectReap := some pending})
      fail .containmentAwaitingDrive
    else (completeReapAfterGroupAbsent wire pending.status
      pending.groupLivenessAfterDirectChildReap after os)

/-- The child after a turn of its reader thread, unless the thread has ended. -/
def readStderr (answer : ReadAnswer) (c : ManagedPiChild) : ManagedPiChild :=
  match c.stderrCapture with
  | none => c
  | some task =>
    if task.result.isSome then c
    else match answer with
      | .chunk [] => {c with stderrCapture := some {task with result := some true},
                             nativeChild := c.nativeChild.readStderr []}
      | .chunk bytes =>
        {c with stderrCapture := some {task with
                  snapshot := task.snapshot.observe maxTransientStreamBytes bytes},
                nativeChild := c.nativeChild.readStderr bytes}
      | .wouldBlock => c
      | .failed => {c with stderrCapture := some {task with result := some false}}

end Reaping
end ManagedPiChild

inductive PiAnswer
  | done
  | control (progress : ControlWriteProgress)
  | inert (facts : Option InertChildFacts)
  | ready (b : Bool)
  | frame (o : Option SealedDecodedPeerFrame)
  | reaped (facts : Option DirectChildReapFacts)
  | signaled (receipt : Option SignalReceipt)
  | polled (receipt : Option SupervisionReceipt)
  | completed (receipt : SupervisionReceipt)

/-- The operations of the supervisor on a child, each with what the operating system answers to
it, and the turns of the child's reader thread. -/
inductive PiCall
  | finishInertSetup (now : MonotonicTick) (stdin stdout : Bool)
  | containBoundaryFailure (now : MonotonicTick)
  | observeAdapterReady (now deadline : MonotonicTick) (reads : List ReadAnswer)
      (ownsGroup : Option Bool)
  | sendCreateSession (gate : InertChildFacts → Option AdmissionDenied) (now deadline : MonotonicTick)
      (os : WriteAnswers)
  | observeSessionReady (now deadline : MonotonicTick) (reads : List ReadAnswer)
  | sendPrompt (correlationIdentity : CorrelationIdentity) (purpose : PromptPurpose) (text : String)
      (now deadline : MonotonicTick) (os : WriteAnswers)
  | sendForumToolResult (correlationIdentity : CorrelationIdentity)
      (toolCallIdentity : ToolCallIdentity) (result : Json) (isError : Bool)
      (now deadline : MonotonicTick) (os : WriteAnswers)
  | sendDispose (correlationIdentity : CorrelationIdentity) (reason : DisposeReason)
      (now deadline : MonotonicTick) (os : WriteAnswers)
  | observeDisposalOutput (now deadline : MonotonicTick) (reads : List ReadAnswer)
  | observeLiveOutput (now : MonotonicTick) (reads : List ReadAnswer)
  | driveControlWrite (now : MonotonicTick) (os : WriteAnswers)
  | requestCancellation (request : CancellationRequest) (now : MonotonicTick) (os : WriteAnswers)
  | driveCancellation (now : MonotonicTick) (wait : Option (Option ExitStatus)) (os : ReapAnswers)
      (term kill : SignalAnswers)
  | driveCancellationWithoutReap (now : MonotonicTick) (term kill : SignalAnswers)
  | pollDirectChildReap (wait : Option (Option ExitStatus)) (probe : KillAnswer)
  | issueLingeringGroupCleanup (now : MonotonicTick) (os : SignalAnswers)
  | completeDeferredReap (probe : KillAnswer) (os : FinalAnswers)
  | pollReap (now : MonotonicTick) (wait : Option (Option ExitStatus)) (os : ReapAnswers)
  | waitAndReap (now : MonotonicTick) (wait : Option (Option ExitStatus)) (os : ReapAnswers)
  | readStderr (answer : ReadAnswer)

/-- A call on the child with its answer wrapped. -/
def ManagedPiChild.answering {α : Type} (f : α → PiAnswer) (m : ManagedPiChild.Action α) :
    ManagedPiChild.Action PiAnswer := do
  let a ← m
  pure (f a)

open ManagedPiChild in
def PiCall.run (wire : Wire) : PiCall → ManagedPiChild.Action PiAnswer
  | finishInertSetup now stdin stdout =>
    answering (fun _ => .done) (ManagedPiChild.finishInertSetup now stdin stdout)
  | containBoundaryFailure now => answering (fun _ => .done) (startAutomaticBoundaryContainment now)
  | observeAdapterReady now deadline reads ownsGroup =>
    answering .inert (ManagedPiChild.observeAdapterReady wire now deadline reads ownsGroup)
  | sendCreateSession gate now deadline os =>
    answering .control (ManagedPiChild.sendCreateSession wire gate now deadline os)
  | observeSessionReady now deadline reads =>
    answering .ready (ManagedPiChild.observeSessionReady wire now deadline reads)
  | sendPrompt correlation purpose text now deadline os =>
    answering .control (ManagedPiChild.sendPrompt wire correlation purpose text now deadline os)
  | sendForumToolResult correlation call result isError now deadline os =>
    answering .control
      (ManagedPiChild.sendForumToolResult wire correlation call result isError now deadline os)
  | sendDispose correlation reason now deadline os =>
    answering .control (ManagedPiChild.sendDispose wire correlation reason now deadline os)
  | observeDisposalOutput now deadline reads =>
    answering .frame (ManagedPiChild.observeDisposalOutput wire now deadline reads)
  | observeLiveOutput now reads => answering .frame (ManagedPiChild.observeLiveOutput wire now reads)
  | driveControlWrite now os => answering .control (ManagedPiChild.driveControlWrite now os)
  | requestCancellation request now os =>
    answering .control (ManagedPiChild.requestCancellation wire request now os)
  | driveCancellation now wait os term kill =>
    answering .polled (ManagedPiChild.driveCancellation wire now wait os term kill)
  | driveCancellationWithoutReap now term kill =>
    answering (fun _ => .done) (advanceCancellationWithoutReap now term kill)
  | pollDirectChildReap wait probe => answering .reaped (ManagedPiChild.pollDirectChildReap wait probe)
  | issueLingeringGroupCleanup now os =>
    answering .signaled (ManagedPiChild.issueLingeringGroupCleanup now os)
  | completeDeferredReap probe os =>
    answering .completed (ManagedPiChild.completeDeferredReap wire probe os)
  | pollReap now wait os => answering .polled (tryReap wire now wait os)
  | waitAndReap now wait os => answering .completed (ManagedPiChild.waitAndReap wire now wait os)
  | readStderr answer => answering (fun _ => .done) (Handler.modify (ManagedPiChild.readStderr answer))

/-- A child as `spawn_native` makes it. -/
def Registered (c : ManagedPiChild) : Prop :=
  ∃ request nativeChild stdin stdout stderr,
    c=.registered request nativeChild stdin stdout stderr ∧ nativeChild.directWait=none ∧
      nativeChild.record=.fresh

/-- The records and states of the runs of a child whose calls all meet a condition. -/
abbrev PiRunWith (wire : Wire)
    (allowed : List (Entry PiCall SupervisionError PiAnswer) → ManagedPiChild → PiCall → Prop) :
    List (Entry PiCall SupervisionError PiAnswer) → ManagedPiChild → Prop :=
  Reached (PiCall.run wire) Registered allowed

end Society.Custody
