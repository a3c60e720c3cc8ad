import Society.Boundary.Peer

namespace Society.Custody
open Society.Kernel (Ranged OwnedProcessGroupId)
open Society.Boundary Society.Stateful Society.Coding

/-! What the supervisors of native children share: the process group, signals and streams. -/

section Time

def u64Max : Nat := 2^64-1

/-- A tick of the daemon's control loop, in milliseconds. -/
abbrev MonotonicTick := Ranged 0 u64Max

def MonotonicTick.zero : MonotonicTick := ⟨0,Nat.le_refl 0,Nat.zero_le _⟩

end Time
section Errors

inductive AdmissionDenied
  | staleGeneration | cancellationObserved | capabilityAbsent | reservationAbsent
  deriving DecidableEq

inductive PostSpawnSetupFailure
  | boundaryPeer | missingStdinPipe | stdinNonblocking | missingStdoutPipe | stdoutNonblocking
  deriving DecidableEq

inductive SupervisionError
  | io | nativeSpawn | peer (e : PeerError) | protocol (e : ProtocolError)
  | invalidProcessIdentity | artifactDigestDrift | invalidSpawnRequest
  | invalidNativeChildRequest | missingNativeChildStdout | missingNativeChildStderr
  | nativeChildOutputLimitExceeded | nativeChildOutputCaptureFailed | duplicateChildIdentity
  | invalidLifecycle | postSpawnSetup (f : PostSpawnSetupFailure) | admissionDenied (d : AdmissionDenied)
  | outboundFrameTooLarge | unterminatedOutboundRecord | outputLost | processGroup
  | deadlineOverflow | stderrCaptureFailed | containmentAwaitingDrive | handshakeDeadlineExpired
  | controlWriteDeadlineExpired | controlWriteZero

end Errors
section Processes

def isDomainIdentifier (value : String) : Bool :=
  value.toList.all (fun c => identifierEdge c || c== '.' || c== '_' || c== '-') &&
    value.toList.head?.any identifierEdge && value.toList.getLast?.any identifierEdge

/-- The resident's identity for a child, before the kernel assigns one. -/
structure SupervisedChildId where
  val : String
  valid : isDomainIdentifier val=true
  deriving DecidableEq

inductive ProcessGroupLiveness
  | absent | present | inaccessible
  deriving DecidableEq

inductive SignalDelivery
  | abortControlWritten | termSent | killSent | lingeringGroupKillSent | groupInaccessible
  | absentBeforeSignal | absentDuringSignal
  deriving DecidableEq

inductive SignalAction
  | abortControl | terminate | kill | lingeringGroupKill
  deriving DecidableEq

structure SignalReceipt where
  action : SignalAction
  delivery : SignalDelivery
  observedAt : MonotonicTick
  groupLivenessAfterAttempt : ProcessGroupLiveness
  deriving DecidableEq

inductive NativeSignalGroupOutcome
  | absentBeforeSignal | inaccessibleBeforeSignal | absentDuringSignal | inaccessibleDuringSignal
  | delivered (groupLivenessAfterDelivery : ProcessGroupLiveness)
  deriving DecidableEq

def NativeSignalGroupOutcome.wasDelivered : NativeSignalGroupOutcome → Bool
  | .delivered _ => true
  | _ => false

/-- The delivery and the liveness that a receipt of the outcome names. -/
def NativeSignalGroupOutcome.observed (sent : SignalDelivery) :
    NativeSignalGroupOutcome → SignalDelivery × ProcessGroupLiveness
  | .absentBeforeSignal => (.absentBeforeSignal,.absent)
  | .inaccessibleBeforeSignal | .inaccessibleDuringSignal => (.groupInaccessible,.inaccessible)
  | .absentDuringSignal => (.absentDuringSignal,.absent)
  | .delivered l => (sent,l)

def signalReceipt (outcome : NativeSignalGroupOutcome) (action : SignalAction)
    (sent : SignalDelivery) (now : MonotonicTick) : SignalReceipt :=
  ⟨action,(outcome.observed sent).1,now,(outcome.observed sent).2⟩

inductive ReapStatus
  | exited (code : Int) | signaled (signal : Int) | unknown
  deriving DecidableEq

/-- What `wait(2)` reports. -/
structure ExitStatus where
  code : Option Int
  signal : Option Int
  deriving DecidableEq

def ExitStatus.success (s : ExitStatus) : Bool := s.code==some 0

def reapStatus (s : ExitStatus) : ReapStatus :=
  match s.code,s.signal with
  | some c,_ => .exited c
  | none,some g => .signaled g
  | none,none => .unknown

/-! Answers of the operating system. -/

/-- What `kill(2)` answers: success, `ESRCH`, `EPERM` or another error. -/
inductive KillAnswer
  | done | esrch | eperm | failed
  deriving DecidableEq

/-- The answers that one use of `NativeProcessGroup::signal` gets: to its first probe, to the
signal, and to the probe after a delivery. -/
structure SignalAnswers where
  before : KillAnswer
  sent : KillAnswer
  after : KillAnswer
  deriving DecidableEq

/-- A pipe from the child: the bytes that were read from it, and whether its end was. -/
structure Pipe where
  carried : Bytes
  ended : Bool

def Pipe.fresh : Pipe := ⟨[],false⟩

/-- The operating system's own memory of a child: the signals that its group was sent or found
unable to take, and what went through its pipes. -/
structure ProcessRecord where
  attempts : List SignalAction
  stdin : Bytes
  stdout : Pipe
  stderr : Pipe

def ProcessRecord.fresh : ProcessRecord := ⟨[],[],.fresh,.fresh⟩

/-- The direct child and its group. -/
structure OwnedNativeChildProcess where
  hostProcessId : HostProcessId
  processGroupId : OwnedProcessGroupId
  directWait : Option ExitStatus
  record : ProcessRecord

namespace OwnedNativeChildProcess

abbrev Action := Handler OwnedNativeChildProcess SupervisionError

def liveness : KillAnswer → Except SupervisionError ProcessGroupLiveness
  | .done => .ok .present
  | .esrch => .ok .absent
  | .eperm => .ok .inaccessible
  | .failed => .error .processGroup

def attempted (a : SignalAction) (p : OwnedNativeChildProcess) : OwnedNativeChildProcess :=
  {p with record := {p.record with attempts := p.record.attempts++[a]}}

/-- The signal that serves the purpose `a`. -/
def signal (a : SignalAction) (os : SignalAnswers) : Action NativeSignalGroupOutcome := do
  let l ← Handler.lift (liveness os.before)
  Handler.modify (attempted a)
  match l,os.sent with
  | .absent,_ => pure .absentBeforeSignal
  | .inaccessible,_ => pure .inaccessibleBeforeSignal
  | .present,.done => do
    let after ← Handler.lift (liveness os.after)
    pure (.delivered after)
  | .present,.esrch => pure .absentDuringSignal
  | .present,.eperm => pure .inaccessibleDuringSignal
  | .present,.failed => Handler.fail .processGroup

/-- `try_wait`, whose answer `none` is an I/O error. -/
def pollDirectWait (os : Option (Option ExitStatus)) : Action (Option ExitStatus) := do
  let p ← Handler.get
  match p.directWait,os with
  | some s,_ => pure (some s)
  | none,none => Handler.fail .io
  | none,some s => do
    Handler.modify (fun p => {p with directWait := s})
    pure s

/-- `wait`, likewise. -/
def waitDirect (os : Option ExitStatus) : Action ExitStatus := do
  let p ← Handler.get
  match p.directWait,os with
  | some s,_ => pure s
  | none,none => Handler.fail .io
  | none,some s => do
    Handler.modify (fun p => {p with directWait := some s})
    pure s

end OwnedNativeChildProcess

/-- No signal is sent of which the caller learns nothing. -/
def SignalAnswers.accounted (os : SignalAnswers) : Bool :=
  os.before≠.done || (os.sent≠.failed && (os.sent≠.done || os.after≠.failed))

/-- The signal attempt comes to an outcome. -/
def SignalAnswers.decided (os : SignalAnswers) : Bool := os.before≠.failed && os.accounted

variable {Q : NativeSignalGroupOutcome → OwnedNativeChildProcess → Prop}
  {E : SupervisionError → OwnedNativeChildProcess → Prop} {p : OwnedNativeChildProcess}

theorem wp_signal {a : SignalAction} {os : SignalAnswers}
    (hQ : os.decided=true → ∀ o,Q o (p.attempted a))
    (hE : os.accounted=true → os.before=.failed → ∀ e,E e p)
    (hL : os.accounted=false → ∀ e,E e (p.attempted a)) :
    Handler.wp (OwnedNativeChildProcess.signal a os) Q E p := by
  rcases os with ⟨before,sent,after⟩
  cases before <;> cases sent <;> cases after <;>
    first | exact hQ rfl _ | exact hE rfl rfl _ | exact hL rfl _

end Processes
section Streams

inductive TransientRetention
  | complete | prefixBounded | countOverflow
  deriving DecidableEq

inductive TransientByteCount
  | exact (n : Nat) | overflowed
  deriving DecidableEq

/-- What `read(2)` answers. An empty chunk is the end of the stream. -/
inductive ReadAnswer
  | chunk (bytes : Bytes) | wouldBlock | failed

def Pipe.read (p : Pipe) (bytes : Bytes) : Pipe := ⟨p.carried++bytes,p.ended || bytes.isEmpty⟩

def OwnedNativeChildProcess.readStdout (bytes : Bytes) (p : OwnedNativeChildProcess) :
    OwnedNativeChildProcess := {p with record := {p.record with stdout := p.record.stdout.read bytes}}

def OwnedNativeChildProcess.readStderr (bytes : Bytes) (p : OwnedNativeChildProcess) :
    OwnedNativeChildProcess := {p with record := {p.record with stderr := p.record.stderr.read bytes}}

/-- The transient capture of a stream. `hashed` is what its hasher was fed. -/
structure StreamCapture where
  observedByteCount : Nat
  countOverflowed : Bool
  hashed : Bytes
  retainedBytes : Bytes
  retention : TransientRetention

namespace StreamCapture

def initial : StreamCapture := ⟨0,false,[],[],.complete⟩

/-- The count and the retention after `n` more bytes, before the bytes are retained. -/
def counted (c : StreamCapture) (n : Nat) : Nat × Bool × TransientRetention :=
  if c.observedByteCount+n≤u64Max ∧ c.countOverflowed=false then
    (c.observedByteCount+n,false,c.retention)
  else (c.observedByteCount,true,.countOverflow)

/-- `observe` under the bound `cap` on what is retained. -/
def observe (cap : Nat) (bytes : Bytes) (c : StreamCapture) : StreamCapture :=
  let (count,overflowed,retention) := c.counted bytes.length
  let retained := Nat.min bytes.length (cap-c.retainedBytes.length)
  ⟨count,overflowed,c.hashed++bytes,c.retainedBytes++bytes.take retained,
    if retained=bytes.length then retention else .prefixBounded⟩

def byteCount (c : StreamCapture) : TransientByteCount :=
  if c.countOverflowed then .overflowed else .exact c.observedByteCount

end StreamCapture

/-- The bytes, digest and claims that a receipt takes from a capture. -/
structure TransientStreamCapture where
  observedByteCount : TransientByteCount
  blake3 : Blake3Digest
  retention : TransientRetention
  retainedBytes : Bytes
  deriving DecidableEq

end Streams
end Society.Custody
