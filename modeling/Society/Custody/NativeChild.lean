import Society.Custody.Process

namespace Society.Custody
open Society.Kernel (Ranged OwnedProcessGroupId)
open Society.Boundary Society.Stateful Society.Coding

/-! Custody of native children that speak no protocol: the registry of the evaluators. -/

section Data

def maxNativeChildStreamBytes : Nat := 64*1024

inductive NativeChildProfile
  | deterministicEvaluatorDirectExecutableV1
  deriving DecidableEq

structure NativeChildSpawnRequest where
  childProcessId : SupervisedChildId
  workspaceDirectory : AbsolutePath
  argv : List String
  profile : NativeChildProfile

structure NativeChildSpawnFacts where
  childProcessId : SupervisedChildId
  hostProcessId : HostProcessId
  processGroupId : OwnedProcessGroupId
  workspaceDirectory : AbsolutePath
  profile : NativeChildProfile

inductive NativeChildPostSpawnSetupFailure
  | missingStdout | stdoutNonblocking | missingStderr

inductive NativeChildSpawnOutcome
  | ready (facts : NativeChildSpawnFacts)
  | registeredSetupFailure (facts : NativeChildSpawnFacts)
      (failure : NativeChildPostSpawnSetupFailure)

structure NativeChildDeadline where
  terminateAt : MonotonicTick
  killAt : MonotonicTick

structure NativeChildDirectReapFacts where
  childProcessId : SupervisedChildId
  hostProcessId : HostProcessId
  processGroupId : OwnedProcessGroupId
  status : ReapStatus
  groupLivenessAfterDirectChildReap : ProcessGroupLiveness
  priorSignalReceipts : List SignalReceipt

structure NativeChildReceipt where
  childProcessId : SupervisedChildId
  hostProcessId : HostProcessId
  processGroupId : OwnedProcessGroupId
  profile : NativeChildProfile
  workspaceDirectory : AbsolutePath
  status : ReapStatus
  groupLivenessBeforeCleanup : ProcessGroupLiveness
  groupLivenessAfterCleanup : ProcessGroupLiveness
  signalReceipts : List SignalReceipt
  stdout : TransientStreamCapture
  stderr : TransientStreamCapture

/-- A capture that remembers whether its bound was passed. -/
structure NativeStreamCapture extends StreamCapture where
  exceeded : Bool

namespace NativeStreamCapture

def initial : NativeStreamCapture := ⟨.initial,false⟩

def observe (bytes : Bytes) (c : NativeStreamCapture) : NativeStreamCapture :=
  let retained := Nat.min bytes.length (maxNativeChildStreamBytes-c.retainedBytes.length)
  ⟨c.toStreamCapture.observe maxNativeChildStreamBytes bytes,c.exceeded || retained≠bytes.length⟩

def capture (hash : Bytes → Blake3Digest) (retention : TransientRetention)
    (c : NativeStreamCapture) : TransientStreamCapture :=
  ⟨c.byteCount,hash c.hashed,retention,c.retainedBytes⟩

end NativeStreamCapture

/-- The reader thread of standard error; `result` is whether it ended well, once it ended. -/
structure StderrCaptureTask where
  snapshot : NativeStreamCapture
  result : Option Bool

structure PendingReap where
  status : ExitStatus
  groupLiveness : ProcessGroupLiveness

structure ManagedNativeChild where
  request : NativeChildSpawnRequest
  nativeChild : OwnedNativeChildProcess
  stdout : Bool
  stderr : Option StderrCaptureTask
  stdoutCapture : NativeStreamCapture
  signals : List SignalReceipt
  termSent : Bool
  killSent : Bool
  pendingReap : Option PendingReap
  completed : Option NativeChildReceipt

end Data
section Child
open Handler

namespace ManagedNativeChild

abbrev Action := Handler ManagedNativeChild SupervisionError

/-- A call on the process of the child. -/
def onProcess {α : Type} (m : OwnedNativeChildProcess.Action α) : Action α :=
  within (fun c => c.nativeChild) (fun c p => {c with nativeChild := p}) m

def takeStdout (bytes : Bytes) (c : ManagedNativeChild) : ManagedNativeChild :=
  {c with nativeChild := c.nativeChild.readStdout bytes,
          stdoutCapture := if bytes=[] then c.stdoutCapture else c.stdoutCapture.observe bytes}

/-- The reads that the call makes, in order; after them the pipe has nothing more for now. -/
def drainStdoutNonblocking : List ReadAnswer → Action Bool
  | [] => do
    let c ← get
    ensure (c.stdout=true) .missingNativeChildStdout
    pure c.stdoutCapture.exceeded
  | .wouldBlock::_ => do
    let c ← get
    ensure (c.stdout=true) .missingNativeChildStdout
    pure c.stdoutCapture.exceeded
  | .failed::_ => do
    let c ← get
    ensure (c.stdout=true) .missingNativeChildStdout
    fail .io
  | .chunk bytes::reads => do
    let c ← get
    ensure (c.stdout=true) .missingNativeChildStdout
    modify (takeStdout bytes)
    let c ← get
    if bytes=[] then pure c.stdoutCapture.exceeded
    else if c.stdoutCapture.exceeded then pure true
    else drainStdoutNonblocking reads

/-- `lock` is false when the mutex is poisoned. -/
def stderrExceeded (lock : Bool) : Action Bool := do
  let c ← get
  match c.stderr with
  | none => fail .missingNativeChildStderr
  | some task =>
    if lock then pure task.snapshot.exceeded else fail .nativeChildOutputCaptureFailed

def groupLiveness (probe : KillAnswer) : Action ProcessGroupLiveness :=
  lift (OwnedNativeChildProcess.liveness probe)

def recordSignal (r : SignalReceipt) (c : ManagedNativeChild) : ManagedNativeChild :=
  {c with signals := c.signals++[r]}

def sendTerm (now : MonotonicTick) (os : SignalAnswers) : Action Unit := do
  let c ← get
  if c.termSent then pure ()
  else do
    let outcome ← onProcess (OwnedNativeChildProcess.signal .terminate os)
    modify (recordSignal (signalReceipt outcome .terminate .termSent now))
    modify (fun c => {c with termSent := true})

def sendKill (now : MonotonicTick) (os : SignalAnswers) : Action Unit := do
  let c ← get
  if c.killSent then pure ()
  else do
    let outcome ← onProcess (OwnedNativeChildProcess.signal .kill os)
    modify (recordSignal (signalReceipt outcome .kill .killSent now))
    modify (fun c => {c with killSent := true})

def reapFacts (pending : PendingReap) (c : ManagedNativeChild) : NativeChildDirectReapFacts where
  childProcessId := c.request.childProcessId
  hostProcessId := c.nativeChild.hostProcessId
  processGroupId := c.nativeChild.processGroupId
  status := reapStatus pending.status
  groupLivenessAfterDirectChildReap := pending.groupLiveness
  priorSignalReceipts := c.signals

def pollDirectReap (wait : Option (Option ExitStatus)) (probe : KillAnswer) :
    Action (Option NativeChildDirectReapFacts) := do
  let c ← get
  match c.pendingReap with
  | some pending => pure (some (c.reapFacts pending))
  | none => do
    ensure (c.completed.isNone=true) .invalidLifecycle
    let status ← onProcess (OwnedNativeChildProcess.pollDirectWait wait)
    match status with
    | none => pure none
    | some status => do
      let l ← groupLiveness probe
      modify (fun c => {c with pendingReap := some ⟨status,l⟩})
      let c ← get
      pure (some (c.reapFacts ⟨status,l⟩))

def issueLingeringCleanup (now : MonotonicTick) (os : SignalAnswers) :
    Action (Option SignalReceipt) := do
  let c ← get
  match c.pendingReap with
  | none => fail .invalidLifecycle
  | some pending =>
    if pending.groupLiveness=.absent then pure none
    else do
      ensure (c.signals.all (fun r => r.action≠.lingeringGroupKill)=true) .invalidLifecycle
      let outcome ← onProcess (OwnedNativeChildProcess.signal .lingeringGroupKill os)
      let receipt := signalReceipt outcome .lingeringGroupKill .lingeringGroupKillSent now
      modify (recordSignal receipt)
      pure (some receipt)

end ManagedNativeChild

/-- One turn of the reader thread. -/
def StderrCaptureTask.turn (t : StderrCaptureTask) : ReadAnswer → StderrCaptureTask
  | .chunk bytes => if bytes=[] then {t with result := some true}
      else {t with snapshot := t.snapshot.observe bytes}
  | .wouldBlock => t
  | .failed => {t with result := some false}

namespace ManagedNativeChild

/-- The child after a turn of its reader thread, unless the thread has ended. -/
def readStderr (answer : ReadAnswer) (c : ManagedNativeChild) : ManagedNativeChild :=
  match c.stderr with
  | none => c
  | some task =>
    if task.result.isSome then c
    else match answer with
      | .chunk bytes => {c with stderr := some (task.turn answer),
                                nativeChild := c.nativeChild.readStderr bytes}
      | _ => {c with stderr := some (task.turn answer)}

/-- The thread reads on until its stream ends. -/
def finishStderr (reads : List ReadAnswer) (c : ManagedNativeChild) : ManagedNativeChild :=
  (reads.foldl (fun c a => c.readStderr a) c).readStderr (.chunk [])

end ManagedNativeChild

/-- The answers that `complete_deferred_reap` gets. -/
structure CompletionAnswers where
  probe : KillAnswer
  stdoutReads : List ReadAnswer
  stderrReads : List ReadAnswer
  joined : Bool
  lock : Bool

namespace ManagedNativeChild
variable (hash : Bytes → Blake3Digest)

/-- The snapshot of the thread, which is joined. -/
def takeStderr (os : CompletionAnswers) : Action NativeStreamCapture := do
  modify (finishStderr os.stderrReads)
  let c ← get
  match c.stderr with
  | none => fail .nativeChildOutputCaptureFailed
  | some task => do
    modify (fun c => {c with stderr := none})
    ensure (os.joined=true) .nativeChildOutputCaptureFailed
    ensure (task.result=some true) .io
    ensure (os.lock=true) .nativeChildOutputCaptureFailed
    pure task.snapshot

def completeDeferredReap (os : CompletionAnswers) : Action NativeChildReceipt := do
  let c ← get
  match c.completed,c.pendingReap with
  | some receipt,_ => pure receipt
  | none,none => fail .invalidLifecycle
  | none,some pending => do
    modify (fun c => {c with pendingReap := none})
    let after ← groupLiveness os.probe
    if after≠.absent then do
      modify (fun c => {c with pendingReap := some pending})
      fail .containmentAwaitingDrive
    else do
      let exceeded ← drainStdoutNonblocking os.stdoutReads
      let c ← get
      let stdout := c.stdoutCapture.capture hash
        (if exceeded then .prefixBounded else c.stdoutCapture.retention)
      let stderr ← takeStderr os
      let c ← get
      let receipt : NativeChildReceipt :=
        ⟨c.request.childProcessId,c.nativeChild.hostProcessId,c.nativeChild.processGroupId,
          c.request.profile,c.request.workspaceDirectory,reapStatus pending.status,
          pending.groupLiveness,after,c.signals,stdout,stderr.capture hash stderr.retention⟩
      modify (fun c => {c with completed := some receipt})
      pure receipt

/-- The answers that `drive_at` gets. -/
structure DriveAnswers where
  stdoutReads : List ReadAnswer
  lock : Bool
  term : SignalAnswers
  kill : SignalAnswers

def driveAt (now : MonotonicTick) (deadline : NativeChildDeadline) (os : DriveAnswers) :
    Action Unit := do
  let c ← get
  if c.pendingReap.isSome || c.completed.isSome then pure ()
  else do
    let stdout ← drainStdoutNonblocking os.stdoutReads
    let exceeded ← if stdout then pure true else stderrExceeded os.lock
    if exceeded then do
      sendTerm now os.term
      fail .nativeChildOutputLimitExceeded
    else do
      when (deadline.terminateAt.val≤now.val) (sendTerm now os.term)
      when (deadline.killAt.val≤now.val) (sendKill now os.kill)

end ManagedNativeChild
end Child
section Registry
open Handler

/-- The answers that `spawn` gets. `none` is an I/O error or a failed `exec`. -/
structure SpawnAnswers where
  canonical : Option AbsolutePath
  directory : Option Bool
  verified : Except SupervisionError Unit
  reverified : Except SupervisionError Unit
  pid : Option Nat
  stdout : Bool
  nonblocking : Bool
  stderr : Bool
  kill : SignalAnswers

structure NativeChildSupervisor where
  children : SupervisedChildId → Option ManagedNativeChild
  historicalChildIds : SupervisedChildId → Bool

namespace NativeChildSupervisor

abbrev Action := Handler NativeChildSupervisor SupervisionError

def new : NativeChildSupervisor := ⟨fun _ => none,fun _ => false⟩

def childMut {α : Type} (i : SupervisedChildId) (m : ManagedNativeChild.Action α) : Action α :=
  fun s => match s.children i with
    | none => (.error .invalidLifecycle,s)
    | some c =>
      let (r,c') := m c
      (r,{s with children := insert s.children i (some c')})

def preflightSpawn (request : NativeChildSpawnRequest) (os : SpawnAnswers) : Action Unit := do
  let s ← get
  ensure (s.historicalChildIds request.childProcessId=false) .duplicateChildIdentity
  ensure (request.argv≠[]) .invalidNativeChildRequest
  match os.canonical,os.directory with
  | some canonical,some directory => do
    ensure (canonical=request.workspaceDirectory ∧ directory=true) .invalidNativeChildRequest
    lift os.verified
  | some canonical,none => do
    ensure (canonical=request.workspaceDirectory) .invalidNativeChildRequest
    fail .io
  | none,_ => fail .io

/-- The process that `exec` made, under its own group. -/
def ownProcess (os : SpawnAnswers) : Except SupervisionError OwnedNativeChildProcess :=
  match os.pid with
  | none => .error .nativeSpawn
  | some pid =>
    match parseRanged 1 maxSafeInteger "host process id" pid with
    | .error e => .error (.protocol e)
    | .ok host =>
      match Ranged.new 1 (2^31-1) pid with
      | none => .error .invalidProcessIdentity
      | some group => .ok ⟨host,group,none,.fresh⟩

def register (request : NativeChildSpawnRequest) (p : OwnedNativeChildProcess) (os : SpawnAnswers)
    (s : NativeChildSupervisor) : NativeChildSupervisor where
  children := insert s.children request.childProcessId (some
    {request := request,nativeChild := p,stdout := os.stdout,
     stderr := if os.stderr then some ⟨.initial,none⟩ else none,
     stdoutCapture := .initial,signals := [],termSent := false,killSent := false,
     pendingReap := none,completed := none})
  historicalChildIds := insert s.historicalChildIds request.childProcessId true

def setupFailure (os : SpawnAnswers) : Option NativeChildPostSpawnSetupFailure :=
  if !os.stdout then some .missingStdout
  else if !os.nonblocking then some .stdoutNonblocking
  else if !os.stderr then some .missingStderr
  else none

def spawn (request : NativeChildSpawnRequest) (os : SpawnAnswers) :
    Action NativeChildSpawnOutcome := do
  preflightSpawn request os
  lift os.reverified
  let p ← lift (ownProcess os)
  modify (register request p os)
  let facts : NativeChildSpawnFacts :=
    ⟨request.childProcessId,p.hostProcessId,p.processGroupId,request.workspaceDirectory,
      request.profile⟩
  match setupFailure os with
  | none => pure (.ready facts)
  | some failure => do
    ignore (childMut request.childProcessId (ManagedNativeChild.sendKill .zero os.kill))
    pure (.registeredSetupFailure facts failure)

end NativeChildSupervisor

inductive NativeChildAnswer
  | spawned (outcome : NativeChildSpawnOutcome)
  | done
  | reaped (facts : Option NativeChildDirectReapFacts)
  | signaled (receipt : Option SignalReceipt)
  | completed (receipt : NativeChildReceipt)

/-- The operations of the registry, each with what the operating system answers to it, and
the turns of the reader threads. -/
inductive NativeChildCall
  | spawn (request : NativeChildSpawnRequest) (os : SpawnAnswers)
  | driveAt (i : SupervisedChildId) (now : MonotonicTick) (deadline : NativeChildDeadline)
      (os : ManagedNativeChild.DriveAnswers)
  | requestCancellationAt (i : SupervisedChildId) (now : MonotonicTick) (os : SignalAnswers)
  | pollDirectChildReap (i : SupervisedChildId) (wait : Option (Option ExitStatus))
      (probe : KillAnswer)
  | issueLingeringGroupCleanup (i : SupervisedChildId) (now : MonotonicTick) (os : SignalAnswers)
  | completeDeferredReap (i : SupervisedChildId) (os : CompletionAnswers)
  | readStderr (i : SupervisedChildId) (answer : ReadAnswer)

open NativeChildSupervisor ManagedNativeChild in
def NativeChildCall.run (hash : Bytes → Blake3Digest) : NativeChildCall →
    NativeChildSupervisor.Action NativeChildAnswer
  | spawn request os => do
    let o ← NativeChildSupervisor.spawn request os
    pure (.spawned o)
  | driveAt i now deadline os => do
    childMut i (ManagedNativeChild.driveAt now deadline os)
    pure .done
  | requestCancellationAt i now os => do
    childMut i (sendTerm now os)
    pure .done
  | pollDirectChildReap i wait probe => do
    let f ← childMut i (pollDirectReap wait probe)
    pure (.reaped f)
  | issueLingeringGroupCleanup i now os => do
    let r ← childMut i (issueLingeringCleanup now os)
    pure (.signaled r)
  | completeDeferredReap i os => do
    let r ← childMut i (ManagedNativeChild.completeDeferredReap hash os)
    pure (.completed r)
  | readStderr i answer => do
    childMut i (modify (ManagedNativeChild.readStderr answer))
    pure .done

end Registry
end Society.Custody
