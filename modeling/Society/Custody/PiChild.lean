import Society.Custody.Captures

namespace Society.Custody
open Society.Kernel (Ranged OwnedProcessGroupId)
open Society.Boundary Society.Stateful Society.Coding

/-! A supervised Pi child: its pipes, its peer and the record of its cancellation. -/

section Cancellation

def MonotonicTick.checkedAdd (t : MonotonicTick) (milliseconds : Nat) :
    Except SupervisionError MonotonicTick :=
  if h : t.val+milliseconds≤u64Max then .ok ⟨t.val+milliseconds,Nat.zero_le _,h⟩
  else .error .deadlineOverflow

inductive CancellationMode
  | quiesce | gracefulCancel | emergencyStop
  deriving DecidableEq

inductive CancellationReason
  | operatorStop | wallBudgetExpired | budgetGuardrail | protocolContainment | daemonRecovery
  deriving DecidableEq

@[ext] structure CancellationRequestId where
  val : String
  valid : isDomainIdentifier val=true

instance : DecidableEq CancellationRequestId := fun a b =>
  decidable_of_iff (a.val=b.val) ⟨CancellationRequestId.ext,congrArg CancellationRequestId.val⟩

structure CancellationRequest where
  cancellationRequestId : CancellationRequestId
  mode : CancellationMode
  reason : CancellationReason
  observedAdmissionGeneration : Nat
  abortCorrelationIdentity : CorrelationIdentity
  deriving DecidableEq

inductive CancellationOrigin
  | explicitRequest | automaticBoundaryContainment
  deriving DecidableEq

structure CancellationModeRevision where
  fromMode : CancellationMode
  toMode : CancellationMode
  observedAt : MonotonicTick
  deriving DecidableEq

structure CancellationDeadlines where
  cooperativeAbortWait : Nat
  terminateWait : Nat

def CancellationDeadlines.forMode : CancellationMode → Option CancellationDeadlines
  | .quiesce => none
  | .gracefulCancel => some ⟨5000,5000⟩
  | .emergencyStop => some ⟨1000,2000⟩

structure CancellationProgress where
  explicitRequest : Option CancellationRequest
  origin : CancellationOrigin
  mode : CancellationMode
  modeRevisions : List CancellationModeRevision
  abortDeadline : MonotonicTick
  killDeadline : MonotonicTick
  abortControlWritten : Bool
  termSent : Bool
  termDelivered : Bool
  killSent : Bool
  killDelivered : Bool

/-- The TERM and KILL deadlines of a cancellation that begins at `now`. -/
def CancellationDeadlines.at (d : CancellationDeadlines) (now : MonotonicTick) :
    Except SupervisionError (MonotonicTick × MonotonicTick) := do
  let abort ← now.checkedAdd d.cooperativeAbortWait
  let kill ← abort.checkedAdd d.terminateWait
  pure (abort,kill)

namespace CancellationProgress

def quiesce (request : CancellationRequest) : CancellationProgress :=
  ⟨some request,.explicitRequest,.quiesce,[],.zero,.zero,false,false,false,false,false⟩

def explicit (request : CancellationRequest) (deadlines : MonotonicTick × MonotonicTick) :
    CancellationProgress :=
  ⟨some request,.explicitRequest,request.mode,[],deadlines.1,deadlines.2,false,false,false,false,false⟩

def automaticBoundaryContainment (now : MonotonicTick) :
    Except SupervisionError CancellationProgress :=
  match CancellationDeadlines.forMode .emergencyStop with
  | none => .error .invalidLifecycle
  | some d => do
    let deadlines ← d.at now
    pure ⟨none,.automaticBoundaryContainment,.emergencyStop,[],deadlines.1,deadlines.2,
      false,false,false,false,false⟩

def termed (delivered : Bool) (p : CancellationProgress) : CancellationProgress :=
  {p with termSent := true,termDelivered := delivered}

def killed (delivered : Bool) (p : CancellationProgress) : CancellationProgress :=
  {p with killSent := true,killDelivered := delivered}

end CancellationProgress

def abortReasonFor : CancellationReason → AbortReason
  | .operatorStop | .wallBudgetExpired => .gracefulCancellation
  | .budgetGuardrail => .budgetGuardrail
  | .protocolContainment => .emergencyStop
  | .daemonRecovery => .daemonRecovery

def earlier (a b : MonotonicTick) : MonotonicTick := if a.val≤b.val then a else b

def upgradeOrReplayCancellation (existing : CancellationProgress) (incoming : CancellationRequest)
    (now : MonotonicTick) : Except SupervisionError CancellationProgress :=
  match existing.explicitRequest with
  | none => .error .invalidLifecycle
  | some previous =>
    if previous=incoming then .ok existing
    else if previous.cancellationRequestId≠incoming.cancellationRequestId ∨
        existing.mode≠.gracefulCancel ∨ incoming.mode≠.emergencyStop then .error .invalidLifecycle
    else match CancellationDeadlines.forMode .emergencyStop with
      | none => .error .invalidLifecycle
      | some d => do
        let deadlines ← d.at now
        pure {existing with
          modeRevisions := existing.modeRevisions++[⟨existing.mode,.emergencyStop,now⟩],
          mode := .emergencyStop,
          explicitRequest := some incoming,
          abortDeadline := if existing.termSent then existing.abortDeadline
            else earlier existing.abortDeadline deadlines.1,
          killDeadline := if existing.killSent then existing.killDeadline
            else earlier existing.killDeadline deadlines.2}

end Cancellation
section Lines

/-- The codec of the boundary: how frames are written and read as lines. -/
structure Wire where
  encodeInbound : InboundFrame → Except ProtocolError Bytes
  decodeInbound : String → Except ProtocolError InboundFrame
  decodeOutbound : String → Except ProtocolError OutboundFrame
  hash : Bytes → Blake3Digest

def rawJsonlUtf8 (line : Bytes) : Except ProtocolError String :=
  if maxJsonlFrameBytes<line.length then .error .frameTooLarge
  else if line.contains 10 || line.contains 13 then .error .invalidJsonlLine
  else match String.fromUTF8? ⟨line.toArray⟩ with
    | none => .error .invalidUtf8
    | some text => .ok text

/-- The peer with its seals over the raw lines of both directions. -/
structure LinePeer where
  peer : BoundaryPeer
  inboundSeals : List Blake3Digest
  outboundSeals : List Blake3Digest

namespace LinePeer
open Handler

abbrev Action := Handler LinePeer PeerError

def onPeer {α : Type} (m : Boundary.Action α) : Action α :=
  within (fun p => p.peer) (fun p peer => {p with peer := peer}) m

variable (wire : Wire)

def admitInboundJsonlBytes (line : Bytes) : Action Unit := do
  modify (fun p => {p with inboundSeals := p.inboundSeals++[wire.hash line]})
  match rawJsonlUtf8 line with
  | .error e => onPeer (refuse (.protocol e))
  | .ok text =>
    match wire.decodeInbound text with
    | .error e => onPeer (refuse (.protocol e))
    | .ok frame => onPeer (admitInbound wire.hash frame)

def observeOutboundJsonlBytes (line : Bytes) : Action (Option PeerObservation) := do
  modify (fun p => {p with outboundSeals := p.outboundSeals++[wire.hash line]})
  match rawJsonlUtf8 line with
  | .error e => onPeer (refuse (.protocol e))
  | .ok text =>
    match wire.decodeOutbound text with
    | .error e => onPeer (refuse (.protocol e))
    | .ok frame => onPeer (observeOutbound frame)

end LinePeer
end Lines
section Child

inductive ChildLifecycle
  | nativeSpawnRegistered | awaitingAdapterReady | inertVerified | createSent | sessionReady
  | quiescing | awaitingCooperativeAbort | awaitingTermination | awaitingKill | reaped | contained
  deriving DecidableEq

inductive ChildTerminalDisposition
  | notRunning | completedBeforeDelivery | cooperativelyAborted | terminated | killed
  | containmentFailed
  deriving DecidableEq

inductive ControlWriteProgress
  | delivered | pending
  deriving DecidableEq

inductive PendingControlCommand
  | createSession | prompt | forumToolResult | abort | dispose
  deriving DecidableEq

/-- The frame that the peer has admitted and the pipe has not taken yet. -/
structure PendingControlWrite where
  bytes : Bytes
  nextByteOffset : Nat
  deadline : MonotonicTick
  command : PendingControlCommand

structure PendingDirectChildReap where
  status : ExitStatus
  groupLivenessAfterDirectChildReap : ProcessGroupLiveness
  priorSignalReceipts : List SignalReceipt

structure NativeWorkspaceId where
  val : String
  valid : isDomainIdentifier val=true

structure PiSpawnRequest where
  childProcessId : SupervisedChildId
  workspaceIdentity : NativeWorkspaceId
  workspaceDirectory : AbsolutePath
  sessionIdentity : SessionIdentity
  spawnNonce : SpawnNonce
  runtime : RuntimeIdentity
  createCorrelationIdentity : CorrelationIdentity
  createSession : CreateSessionPayload

structure InertChildFacts where
  childProcessId : SupervisedChildId
  sessionIdentity : SessionIdentity
  hostProcessId : HostProcessId
  processGroupId : OwnedProcessGroupId
  workspaceIdentity : NativeWorkspaceId
  workspaceDirectory : AbsolutePath
  runtime : RuntimeIdentity

structure DirectChildReapFacts where
  childProcessId : SupervisedChildId
  hostProcessId : HostProcessId
  processGroupId : OwnedProcessGroupId
  status : ReapStatus
  groupLivenessAfterDirectChildReap : ProcessGroupLiveness
  priorSignalReceipts : List SignalReceipt

structure ReapReceipt where
  childProcessId : SupervisedChildId
  hostProcessId : HostProcessId
  processGroupId : OwnedProcessGroupId
  status : ReapStatus
  groupLivenessBeforeCleanup : ProcessGroupLiveness
  groupLivenessAfterReap : ProcessGroupLiveness

inductive PiPeerReceiptState
  | notInitialized | observed (phase : PeerPhase)

structure TransientExecutionEvidence where
  admittedControl : TransientStreamCapture
  stdin : TransientStreamCapture
  stdout : TransientStreamCapture
  stderr : TransientStreamCapture
  logicallyAdmittedInboundFrameCount : Nat
  physicallyDeliveredInboundFrameCount : Nat
  outboundFrameCount : Nat

structure SupervisionReceipt where
  childProcessId : SupervisedChildId
  sessionIdentity : SessionIdentity
  workspaceIdentity : NativeWorkspaceId
  workspaceDirectory : AbsolutePath
  terminalDisposition : ChildTerminalDisposition
  reap : Option ReapReceipt
  cancellationDeliveries : List SignalReceipt
  cancellationOrigin : Option CancellationOrigin
  cancellationModeRevisions : List CancellationModeRevision
  canonicalSessionFile : Option AbsolutePath
  transientEvidence : TransientExecutionEvidence
  peerState : PiPeerReceiptState

/-- The reader thread of standard error; `result` is whether it ended well, once it ended. -/
structure PiStderrCaptureTask where
  snapshot : StreamCapture
  result : Option Bool

/-- `stdin` is whether the writer is open and `stdout` what the reader holds in its buffer.
`admitted` is the model's own list of the frames that the peer admitted, with their bytes. -/
structure ManagedPiChild where
  request : PiSpawnRequest
  nativeChild : OwnedNativeChildProcess
  stdin : Bool
  stdout : Option Bytes
  stderrCapture : Option PiStderrCaptureTask
  peer : Option LinePeer
  lifecycle : ChildLifecycle
  nextInboundSequence : Nat
  stdinCapture : StreamCapture
  admittedControlCapture : StreamCapture
  stdoutCapture : StreamCapture
  stdoutPartialRecord : Bytes
  pendingControl : Option PendingControlWrite
  pendingDirectReap : Option PendingDirectChildReap
  physicallyDeliveredInboundFrameCount : Nat
  cancellation : Option CancellationProgress
  deliveries : List SignalReceipt
  completedReceipt : Option SupervisionReceipt
  admitted : List (PendingControlCommand × Bytes)

namespace ManagedPiChild

/-- The child as `spawn_native` registers it. -/
def registered (request : PiSpawnRequest) (nativeChild : OwnedNativeChildProcess)
    (stdin stdout stderr : Bool) : ManagedPiChild where
  request := request
  nativeChild := nativeChild
  stdin := stdin
  stdout := if stdout then some [] else none
  stderrCapture := if stderr then some ⟨.initial,none⟩ else none
  peer := none
  lifecycle := .nativeSpawnRegistered
  nextInboundSequence := 1
  stdinCapture := .initial
  admittedControlCapture := .initial
  stdoutCapture := .initial
  stdoutPartialRecord := []
  pendingControl := none
  pendingDirectReap := none
  physicallyDeliveredInboundFrameCount := 0
  cancellation := none
  deliveries := []
  completedReceipt := none
  admitted := []

abbrev Action := Handler ManagedPiChild SupervisionError

end ManagedPiChild
end Child
end Society.Custody
