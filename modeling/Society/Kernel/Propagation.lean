import Society.Kernel.Child

namespace Society.Kernel
open Society.Relational

/-! Cancellation propagation: the frozen targets of a cancellation and their settlement. -/

/-- The disposition of a target whose child is past supervision. -/
def NativeChildRow.settledDisposition (p : NativeChildRow) :
    Option CancellationPropagationTargetDisposition :=
  match p.lifecycleState,p.terminalDisposition with
  | .finalized,some .exited => some .exited
  | .finalized,some .terminated => some .terminated
  | .finalized,some .killed => some .killed
  | .containmentFailed,_ => some .containmentFailed
  | .lostParentage,some .supervisionLost => some .supervisionLost
  | _,_ => none

def admissionOfTarget (s : Store) (o : CancellationTargetOwner) :
    Option NativeChildSpawnAdmissionRow :=
  (s.rows .nativeChildSpawnAdmissions).find? (fun a => a.owner.target==some o)

/-- The child of a target owner and the disposition it is frozen with. -/
def frozenTarget (s : Store) (o : CancellationTargetOwner) :
    Option NativeChildId × CancellationPropagationTargetDisposition :=
  match admissionOfTarget s o with
  | none => (none,.notRunning)
  | some a => match childOfAdmission s a.nativeChildSpawnAdmissionId with
    | none =>
      (none,if a.lifecycleState==.admitted then .awaitingChildReceipt else .notRunning)
    | some p => (some p.nativeChildId,p.settledDisposition.getD .awaitingChildReceipt)

/-- The owners of the cycle that are live when propagation begins: attempts, experiments,
sessions. A profile qualification is not among them. -/
def liveOwners (s : Store) (c : OperatingCycleId) : List CancellationTargetOwner :=
  ((s.rows .attempts).filter (fun r => r.operatingCycleId==c && r.lifecycleState.isLive)).map
    (fun r => .actorAttempt r.actorAttemptId) ++
  ((s.rows .deterministicExperiments).filter (fun r =>
    r.operatingCycleId==c && r.lifecycleState==.registered)).map
    (fun r => .deterministicExperiment r.deterministicExperimentId) ++
  ((s.rows .rootAuthorityOfficeSessions).filter (fun r =>
    r.operatingCycleId==c && r.lifecycleState.isLive)).map
    (fun r => .rootAuthorityOfficeSession r.rootAuthorityOfficeSessionId)

def beginCancellationPropagation (cmd : CommandRowId) (g : ExpectedGeneration)
    (i : CancellationRequestId) :
    Transition [.cancellationPropagations,.cancellationPropagationTargets,
      .cancellationPropagationChildren,.cancellationRequests] EventBody := do
  let request ← Tx.get Tbl.cancellationRequests i Rejection.subjectNotFound
  let c := request.operatingCycleId
  let cycle ← cycleForGeneration c g
  Tx.require (cycle.lifecycleState==.cancelling && request.lifecycleState≠.completed)
    .invalidLifecycleTransition
  let p ← Tx.insert Tbl.cancellationPropagations (fun j =>
    {cancellationPropagationId := j,cancellationRequestId := i,operatingCycleId := c,
     observedGeneration := cycle.admissionGeneration,lifecycleState := .propagating,
     begunByCommandId := cmd,reconciledByCommandId := none}) .invalidLifecycleTransition
  let owners ← Tx.read (fun s => (liveOwners s c).map (fun o => (o,frozenTarget s o)))
  Tx.each (fun t => do
    let _ ← Tx.insert Tbl.cancellationPropagationTargets (fun j =>
      {cancellationPropagationTargetId := j,cancellationPropagationId := p,owner := t.1,
       nativeChildId := t.2.1,targetDisposition := t.2.2}) .childLifecycleReceiptMissing)
    owners
  let awaited ← Tx.read (fun s => (s.rows .cancellationPropagationTargets).filterMap (fun t =>
    if t.cancellationPropagationId==p && t.targetDisposition==.awaitingChildReceipt
    then t.nativeChildId else none))
  Tx.each (fun child => Tx.store Tbl.cancellationPropagationChildren
    {cancellationPropagationId := p,nativeChildId := child}
    Rejection.childLifecycleReceiptMissing (by decide)
    cancellationPropagationChildren_keyed) awaited
  let _ ← Tx.update Tbl.cancellationRequests (fun r => r.cancellationRequestId==i)
    (fun r => {r with lifecycleState := .propagating}) .subjectNotFound
  pure (.cancellationPropagationBegun p i)

/-- The settled disposition of the target's child, or the one it has. -/
def CancellationPropagationTargetRow.refreshed (children : List NativeChildRow)
    (t : CancellationPropagationTargetRow) : CancellationPropagationTargetRow :=
  {t with targetDisposition :=
    ((children.find? (fun p => some p.nativeChildId==t.nativeChildId)).bind
      NativeChildRow.settledDisposition).getD t.targetDisposition}

/-- Looks at the targets only: owners that were not live, and profile qualifications, have
none. -/
def reconcileCancellationPropagation (cmd : CommandRowId) (g : ExpectedGeneration)
    (i : CancellationPropagationId) :
    Transition [.cancellationPropagationTargets,.cancellationPropagations] EventBody := do
  let p ← Tx.get Tbl.cancellationPropagations i Rejection.subjectNotFound
  let _ ← cycleForGeneration p.operatingCycleId g
  Tx.require (p.lifecycleState==.propagating) .invalidLifecycleTransition
  let children ← Tx.read (fun s => s.rows .nativeChildren)
  let _ ← Tx.update Tbl.cancellationPropagationTargets
    (fun t => t.cancellationPropagationId==i) (fun t => t.refreshed children)
    .childLifecycleReceiptMissing
  let failed ← Tx.read (fun s => (s.rows .cancellationPropagationTargets).any (fun t =>
    t.cancellationPropagationId==i && t.targetDisposition==.containmentFailed))
  if failed then do
    let _ ← Tx.update Tbl.cancellationPropagations (fun r => r.cancellationPropagationId==i)
      (fun r => {r with lifecycleState := .containmentFailed}) .processContainmentFailed
    pure (.cancellationPropagationContainmentFailed i)
  else do
    let unfinished ← Tx.read (fun s => (s.rows .cancellationPropagationTargets).any (fun t =>
      t.cancellationPropagationId==i && t.targetDisposition==.awaitingChildReceipt))
    Tx.require (!unfinished) .cancellationPropagationIncomplete
    let _ ← Tx.update Tbl.cancellationPropagations (fun r => r.cancellationPropagationId==i)
      (fun r => {r with lifecycleState := .reconciled,reconciledByCommandId := some cmd})
      .childLifecycleReceiptMissing
    pure (.cancellationPropagationReconciled i)

end Society.Kernel
