import Society.Kernel.Queries

namespace Society.Kernel
open Society.Relational

/-! The lifecycle of an operating cycle after its admission. -/

def quiesceCycle (cmd : CommandRowId) (g : ExpectedGeneration) (c : OperatingCycleId) :
    Transition [.operatingCycles] EventBody := do
  let cycle ← cycleForGeneration c g
  Tx.require (cycle.lifecycleState==.admitted || cycle.lifecycleState==.running)
    .invalidLifecycleTransition
  let generation ← Tx.the cycle.admissionGeneration.increment .invalidLifecycleTransition
  transitionCycle cmd c .quiescing generation
  pure (.operatingCycleStateChanged c .quiescing generation)

def recordCycleDrained (cmd : CommandRowId) (c : OperatingCycleId) :
    Transition [.operatingCycles] EventBody := do
  let cycle ← cycleRow c
  let idle ← Tx.read (fun s => activeOfficeTurnCount s c==0 && liveActorAttemptCount s c==0 &&
    activeWorkLeaseCount s c==0 && liveNativeChildCount s c==0)
  Tx.require (cycle.lifecycleState==.quiescing && idle) .invalidLifecycleTransition
  let cancelling ← Tx.read (fun s => activeCancellationCount s c)
  let next := if cancelling≠0 then OperatingCycleState.cancelling else .drained
  transitionCycle cmd c next cycle.admissionGeneration
  pure (.operatingCycleStateChanged c next cycle.admissionGeneration)

def resumeCycle (cmd : CommandRowId) (g : ExpectedGeneration) (c : OperatingCycleId) :
    Transition [.operatingCycles] EventBody := do
  let cycle ← cycleForGeneration c g
  Tx.require (cycle.lifecycleState==.drained) .invalidLifecycleTransition
  let settled ← Tx.read (fun s => unreconciledReservationCount s c==0 &&
    activeCancellationCount s c==0 && liveActorAttemptCount s c==0 &&
    activeWorkLeaseCount s c==0 && liveNativeChildCount s c==0 &&
    undisposedPiWorkspaceCount s c==0)
  Tx.require settled .incompleteCycleReconciliation
  transitionCycle cmd c .running cycle.admissionGeneration
  pure (.operatingCycleStateChanged c .running cycle.admissionGeneration)

def beginReconciliation (cmd : CommandRowId) (g : ExpectedGeneration) (c : OperatingCycleId) :
    Transition [.operatingCycles,.operatingCycleReconciliations] EventBody := do
  let cycle ← cycleForGeneration c g
  Tx.require (cycle.lifecycleState==.drained) .invalidLifecycleTransition
  transitionCycle cmd c .reconciling cycle.admissionGeneration
  -- the primary key is the cycle alone
  Tx.store Tbl.operatingCycleReconciliations
    {operatingCycleId := c,reconciliationStartedByCommandId := cmd,closedByCommandId := none}
    .invalidLifecycleTransition
  pure (.operatingCycleStateChanged c .reconciling cycle.admissionGeneration)

def closeCycle (cmd : CommandRowId) (g : ExpectedGeneration) (c : OperatingCycleId) :
    Transition [.operatingCycles,.operatingCycleReconciliations] EventBody := do
  let cycle ← cycleForGeneration c g
  let settled ← Tx.read (fun s => activeOfficeTurnCount s c==0 && liveOfficeSessionCount s c==0 &&
    unreconciledReservationCount s c==0 && activeCancellationCount s c==0 &&
    liveActorAttemptCount s c==0 && activeWorkLeaseCount s c==0 && liveNativeChildCount s c==0)
  Tx.require (cycle.lifecycleState==.reconciling && settled) .incompleteCycleReconciliation
  transitionCycle cmd c .closed cycle.admissionGeneration
  let _ ← Tx.update Tbl.operatingCycleReconciliations (fun r => r.operatingCycleId==c)
    (fun r => {r with closedByCommandId := some cmd}) .incompleteCycleReconciliation
  pure (.operatingCycleStateChanged c .closed cycle.admissionGeneration)

def requestCancellation (cmd : CommandRowId) (g : ExpectedGeneration) (c : OperatingCycleId)
    (mode : CancellationMode) :
    Transition [.operatingCycles,.cancellationRequests] EventBody := do
  let cycle ← cycleForGeneration c g
  Tx.require (cycle.lifecycleState.isNonterminal && cycle.lifecycleState≠.reconciling &&
    cycle.lifecycleState≠.cancelling && cycle.lifecycleState≠.reaping)
    .invalidLifecycleTransition
  let generation ← Tx.the cycle.admissionGeneration.increment .invalidLifecycleTransition
  let state := match mode with
    | .quiesce => OperatingCycleState.quiescing
    | _ => .cancelling
  transitionCycle cmd c state generation
  let i ← Tx.insert Tbl.cancellationRequests (fun i =>
    {cancellationRequestId := i,operatingCycleId := c,cancellationMode := mode,
     lifecycleState := .accepted,observedAdmissionGeneration := cycle.admissionGeneration,
     requestedByCommandId := cmd,reconciledByCommandId := none}) .invalidLifecycleTransition
  pure (.cancellationRequested i c mode generation)

def cycleHasNativeChild (s : Store) (c : OperatingCycleId) : Bool :=
  (s.rows .nativeChildren).any (fun p =>
    cycleOfAdmission s p.nativeChildSpawnAdmissionId==some c)

/-- Unlike `recordCycleDrained` this looks at no attempt and no lease. -/
def reconcileCancellation (cmd : CommandRowId) (i : CancellationRequestId) :
    Transition [.cancellationRequests,.operatingCycles] EventBody := do
  let r ← Tx.get Tbl.cancellationRequests i Rejection.subjectNotFound
  Tx.require r.lifecycleState.isNonterminal .cancellationAlreadyTerminal
  let c := r.operatingCycleId
  let cycle ← cycleRow c
  Tx.require (cycle.lifecycleState==.cancelling) .invalidLifecycleTransition
  let idle ← Tx.read (fun s => activeOfficeTurnCount s c==0 && liveOfficeSessionCount s c==0)
  Tx.require idle .incompleteCycleReconciliation
  let propagated ← Tx.read (fun s => !cycleHasNativeChild s c ||
    (s.rows .cancellationPropagations).any (fun p =>
      p.cancellationRequestId==i && p.lifecycleState==.reconciled))
  Tx.require propagated .cancellationPropagationIncomplete
  let _ ← Tx.update Tbl.cancellationRequests (fun q => q.cancellationRequestId==i)
    (fun q => {q with lifecycleState := .completed,reconciledByCommandId := some cmd})
    .subjectNotFound
  transitionCycle cmd c .drained cycle.admissionGeneration
  pure (.cancellationReconciled i c)

end Society.Kernel
