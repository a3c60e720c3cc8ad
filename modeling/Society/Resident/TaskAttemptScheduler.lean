import Society.Custody.Process
import Society.Handler
import Society.Kernel.Commands

namespace Society.Resident
open Society.Kernel Society.Stateful
open Society.Custody (MonotonicTick)

/-! The coordinator that joins each study obligation to the one child of its actor attempt. -/

section Types

structure TaskAttemptScheduleKey where
  obligationId : StudyActorObligationId
  actorAttemptId : ActorAttemptId
  deriving DecidableEq

structure TaskAttemptSpawnRequest where
  key : TaskAttemptScheduleKey
  deriving DecidableEq

/-- The custody identities of the child that a driver spawned. -/
structure TaskAttemptSpawnReceipt where
  actorAttemptId : ActorAttemptId
  nativeChildId : NativeChildId
  nativeChildSpawnAdmissionId : NativeChildSpawnAdmissionId
  deriving DecidableEq

inductive TaskAttemptPiProgress where
  | waiting | ready | disposed | containmentRequired | reconciled
  deriving DecidableEq

inductive TaskAttemptDriverFailure where
  | preflightRejected | nativeSpawnFailed | boundaryContainmentRequired | protocolFailed
  | physicalReconciliationFailed
  deriving DecidableEq

/-- What the driver answers to the next request. -/
structure TaskAttemptPiDriver where
  spawnTaskAttempt : TaskAttemptSpawnRequest →
    Except TaskAttemptDriverFailure TaskAttemptSpawnReceipt
  driveTaskAttempt : TaskAttemptSpawnReceipt → MonotonicTick →
    Except TaskAttemptDriverFailure TaskAttemptPiProgress

inductive TaskAttemptScheduleState where
  | spawnPending | spawned | runtimeBound | ready | disposed | containmentRequired
  | physicalReconciled | reconciled
  deriving DecidableEq

structure TaskAttemptScheduleEntry where
  child : Option TaskAttemptSpawnReceipt
  state : TaskAttemptScheduleState
  deriving DecidableEq

inductive TaskAttemptSchedulerError where
  | duplicateSchedule | unknownSchedule | invalidLifecycle | driverIdentityMismatch
  | unexpectedDriverProgress
  | driver (failure : TaskAttemptDriverFailure)
  deriving DecidableEq

/-- The entry of each scheduled key. -/
structure TaskAttemptScheduler where
  schedules : TaskAttemptScheduleKey → Option TaskAttemptScheduleEntry

end Types

namespace TaskAttemptScheduler

/-- A method of the scheduler. -/
abbrev Call (α : Type) := Handler TaskAttemptScheduler TaskAttemptSchedulerError α

def empty : TaskAttemptScheduler := ⟨fun _ => none⟩

def set (key : TaskAttemptScheduleKey) (entry : Option TaskAttemptScheduleEntry)
    (s : TaskAttemptScheduler) : TaskAttemptScheduler :=
  ⟨fun other => if other=key then entry else s.schedules other⟩

def entry (key : TaskAttemptScheduleKey) : Call TaskAttemptScheduleEntry := do
  let s ← Handler.get
  match s.schedules key with
  | some entry => pure entry
  | none => Handler.fail .unknownSchedule

def insert (key : TaskAttemptScheduleKey) (entry : TaskAttemptScheduleEntry) : Call Unit :=
  Handler.modify (set key (some entry))

def requireChild (entry : TaskAttemptScheduleEntry) : Call TaskAttemptSpawnReceipt :=
  match entry.child with
  | some child => pure child
  | none => Handler.fail .invalidLifecycle

def requireUnscheduled (key : TaskAttemptScheduleKey) : Call Unit := do
  let s ← Handler.get
  Handler.ensure (s.schedules key=none) .duplicateSchedule

def spawn (driver : TaskAttemptPiDriver) (key : TaskAttemptScheduleKey) :
    Call TaskAttemptSpawnReceipt := do
  requireUnscheduled key
  insert key ⟨none,.spawnPending⟩
  match driver.spawnTaskAttempt ⟨key⟩ with
  | .error failure => do
    Handler.modify (set key none)
    Handler.fail (.driver failure)
  | .ok receipt => do
    let entry ← entry key
    -- A child of another attempt stays with the entry for its containment.
    if receipt.actorAttemptId≠key.actorAttemptId then do
      insert key { entry with child := some receipt,state := .containmentRequired }
      Handler.fail .driverIdentityMismatch
    else do
      insert key { entry with child := some receipt,state := .spawned }
      pure receipt

def recordSpawned (key : TaskAttemptScheduleKey) (receipt : TaskAttemptSpawnReceipt) :
    Call Unit := do
  requireUnscheduled key
  Handler.ensure (receipt.actorAttemptId=key.actorAttemptId) .driverIdentityMismatch
  insert key ⟨some receipt,.spawned⟩

/-- The transition of a scheduled key out of one of the states given. -/
def advance (sources : List TaskAttemptScheduleState) (target : TaskAttemptScheduleState)
    (key : TaskAttemptScheduleKey) : Call Unit := do
  let entry ← entry key
  Handler.ensure (entry.state∈sources) .invalidLifecycle
  insert key { entry with state := target }

def recordContainmentRequired : TaskAttemptScheduleKey → Call Unit :=
  advance [.spawned,.runtimeBound,.ready,.disposed] .containmentRequired

def recordRuntimeBound : TaskAttemptScheduleKey → Call Unit := advance [.spawned] .runtimeBound

def recordReady : TaskAttemptScheduleKey → Call Unit := advance [.runtimeBound] .ready

def recordDisposed : TaskAttemptScheduleKey → Call Unit := advance [.ready] .disposed

def recordPhysicalReconciled : TaskAttemptScheduleKey → Call Unit :=
  advance [.disposed,.containmentRequired] .physicalReconciled

def recordRuntimeReconciled : TaskAttemptScheduleKey → Call Unit :=
  advance [.physicalReconciled] .reconciled

/-- The command that the key's child and state allow. -/
def command (source : TaskAttemptScheduleState) (key : TaskAttemptScheduleKey)
    (body : TaskAttemptSpawnReceipt → StudyCommand) : Call StudyCommand := do
  let entry ← entry key
  Handler.ensure (entry.state=source) .invalidLifecycle
  let child ← requireChild entry
  pure (body child)

def runtimeBindingCommand (key : TaskAttemptScheduleKey) : Call StudyCommand :=
  command .spawned key (fun child => .bindActorTaskAttemptRuntime key.obligationId
    key.actorAttemptId child.nativeChildId child.nativeChildSpawnAdmissionId)

def runtimeReconciliationCommand (key : TaskAttemptScheduleKey) : Call StudyCommand :=
  command .physicalReconciled key (fun child =>
    .reconcileActorRuntime key.obligationId child.nativeChildId)

/-- Where the driver's progress leads a key that is being driven. -/
def progressed : TaskAttemptScheduleState → TaskAttemptPiProgress →
    Option TaskAttemptScheduleState
  | .runtimeBound,.waiting => some .runtimeBound
  | .runtimeBound,.ready => some .ready
  | .ready,.waiting => some .ready
  | .ready,.ready => some .ready
  | .ready,.disposed => some .disposed
  | .disposed,.waiting => some .disposed
  | .disposed,.disposed => some .disposed
  | .disposed,.reconciled => some .physicalReconciled
  | .runtimeBound,.containmentRequired => some .containmentRequired
  | .ready,.containmentRequired => some .containmentRequired
  | .disposed,.containmentRequired => some .containmentRequired
  | .containmentRequired,.waiting => some .containmentRequired
  | .containmentRequired,.containmentRequired => some .containmentRequired
  | .containmentRequired,.reconciled => some .physicalReconciled
  | _,_ => none

def drive (driver : TaskAttemptPiDriver) (key : TaskAttemptScheduleKey) (now : MonotonicTick) :
    Call TaskAttemptScheduleState := do
  let entry ← entry key
  let child ← requireChild entry
  Handler.ensure (entry.state∈[TaskAttemptScheduleState.runtimeBound,.ready,.disposed,
    .containmentRequired]) .invalidLifecycle
  match driver.driveTaskAttempt child now with
  | .error failure => Handler.fail (.driver failure)
  | .ok progress => match progressed entry.state progress with
    | none => Handler.fail .unexpectedDriverProgress
    | some state => do
      insert key { entry with state }
      pure state

def state (key : TaskAttemptScheduleKey) : Call TaskAttemptScheduleState := do
  pure (← entry key).state

def child (key : TaskAttemptScheduleKey) : Call TaskAttemptSpawnReceipt := do
  requireChild (← entry key)

end TaskAttemptScheduler

section Runs

inductive SchedulerCall where
  | spawn (driver : TaskAttemptPiDriver) (key : TaskAttemptScheduleKey)
  | recordSpawned (key : TaskAttemptScheduleKey) (receipt : TaskAttemptSpawnReceipt)
  | recordContainmentRequired (key : TaskAttemptScheduleKey)
  | runtimeBindingCommand (key : TaskAttemptScheduleKey)
  | recordRuntimeBound (key : TaskAttemptScheduleKey)
  | recordReady (key : TaskAttemptScheduleKey)
  | recordDisposed (key : TaskAttemptScheduleKey)
  | recordPhysicalReconciled (key : TaskAttemptScheduleKey)
  | drive (driver : TaskAttemptPiDriver) (key : TaskAttemptScheduleKey) (now : MonotonicTick)
  | runtimeReconciliationCommand (key : TaskAttemptScheduleKey)
  | recordRuntimeReconciled (key : TaskAttemptScheduleKey)
  | state (key : TaskAttemptScheduleKey)
  | child (key : TaskAttemptScheduleKey)

inductive SchedulerAnswer where
  | child (receipt : TaskAttemptSpawnReceipt)
  | state (state : TaskAttemptScheduleState)
  | issued (command : StudyCommand)
  | recorded

def SchedulerCall.step : SchedulerCall → TaskAttemptScheduler.Call SchedulerAnswer
  | .spawn driver key => do pure (.child (← TaskAttemptScheduler.spawn driver key))
  | .recordSpawned key receipt => do
    TaskAttemptScheduler.recordSpawned key receipt
    pure .recorded
  | .recordContainmentRequired key => do
    TaskAttemptScheduler.recordContainmentRequired key
    pure .recorded
  | .runtimeBindingCommand key => do
    pure (.issued (← TaskAttemptScheduler.runtimeBindingCommand key))
  | .recordRuntimeBound key => do
    TaskAttemptScheduler.recordRuntimeBound key
    pure .recorded
  | .recordReady key => do
    TaskAttemptScheduler.recordReady key
    pure .recorded
  | .recordDisposed key => do
    TaskAttemptScheduler.recordDisposed key
    pure .recorded
  | .recordPhysicalReconciled key => do
    TaskAttemptScheduler.recordPhysicalReconciled key
    pure .recorded
  | .drive driver key now => do pure (.state (← TaskAttemptScheduler.drive driver key now))
  | .runtimeReconciliationCommand key => do
    pure (.issued (← TaskAttemptScheduler.runtimeReconciliationCommand key))
  | .recordRuntimeReconciled key => do
    TaskAttemptScheduler.recordRuntimeReconciled key
    pure .recorded
  | .state key => do pure (.state (← TaskAttemptScheduler.state key))
  | .child key => do pure (.child (← TaskAttemptScheduler.child key))

abbrev SchedulerEntry := Entry SchedulerCall TaskAttemptSchedulerError SchedulerAnswer

/-- The scheduler after calls one after the other, the oldest first. -/
abbrev SchedulerRun : List SchedulerEntry → TaskAttemptScheduler → Prop :=
  Reached SchedulerCall.step (fun s => s=TaskAttemptScheduler.empty) (fun _ _ _ => True)

end Runs
end Society.Resident
