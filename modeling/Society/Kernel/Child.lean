import Society.Kernel.Content
import Society.Kernel.Work

namespace Society.Kernel
open Society.Relational

/-! Native children: admission, spawn, the Pi session protocol, signals, reaping and
finalization. -/

section Shared
variable {W : List Tbl}

/-- Which owner column of a cancellation target the admission's owner fills, if any. -/
def NativeChildOwner.target : NativeChildOwner → Option CancellationTargetOwner
  | .pi (.actorAttempt i) => some (.actorAttempt i)
  | .pi (.rootAuthorityOfficeSession i) => some (.rootAuthorityOfficeSession i)
  | .pi (.nativeExecutionProfileQualification _) => none
  | .deterministicEvaluator i _ _ => some (.deterministicExperiment i)

def trackChild (p : CancellationPropagationId) (child : NativeChildId)
    (hw : .cancellationPropagationChildren ∈ W := by decide) : Transition W Unit := do
  let tracked ← Tx.read (fun s => (s.rows .cancellationPropagationChildren).any (fun r =>
    r.cancellationPropagationId==p && r.nativeChildId==child))
  if tracked then pure ()
  else
    Tx.store Tbl.cancellationPropagationChildren
      {cancellationPropagationId := p,nativeChildId := child}
      Rejection.childLifecycleReceiptMissing hw cancellationPropagationChildren_keyed

def openPropagations (s : Store) (scope : CancellationPropagationRow → Bool) :
    List CancellationPropagationId :=
  ((s.rows .cancellationPropagations).filter (fun p =>
    p.lifecycleState==.propagating && scope p)).map (·.cancellationPropagationId)

/-- A child that appears while its owner is a target becomes the target's child. -/
def attachChild (a : NativeChildSpawnAdmissionRow) (child : NativeChildId)
    (scope : CancellationPropagationRow → Bool)
    (ht : .cancellationPropagationTargets ∈ W := by decide)
    (hc : .cancellationPropagationChildren ∈ W := by decide) : Transition W Unit := do
  let propagations ← Tx.read (fun s => openPropagations s scope)
  let _ ← Tx.update Tbl.cancellationPropagationTargets (fun t => t.nativeChildId.isNone &&
      a.owner.target==some t.owner && propagations.contains t.cancellationPropagationId)
    (fun t => {t with nativeChildId := some child,targetDisposition := .awaitingChildReceipt})
    .childLifecycleReceiptMissing ht
  let targets ← Tx.read (fun s => (s.rows .cancellationPropagationTargets).filter (fun t =>
    t.nativeChildId==some child && t.targetDisposition==.awaitingChildReceipt))
  Tx.each (fun t => trackChild t.cancellationPropagationId child hc) targets

def admissionRow (i : NativeChildSpawnAdmissionId) (e : Rejection) :
    Transition W NativeChildSpawnAdmissionRow := do
  let a ← Tx.get Tbl.nativeChildSpawnAdmissions i e
  let _ ← cycleRow a.operatingCycleId
  pure a

/-- `native_child_cycle_for_generation`; the generation argument is not read. -/
def childRow (i : NativeChildId) : Transition W (NativeChildRow × NativeChildSpawnAdmissionRow) := do
  let child ← Tx.get Tbl.nativeChildren i Rejection.subjectNotFound
  let a ← admissionRow child.nativeChildSpawnAdmissionId .subjectNotFound
  pure (child,a)

/-- `child_cycle_for_generation`: also joins the Pi session. -/
def piChildRow (i : NativeChildId) :
    Transition W (NativeChildRow × NativeChildSpawnAdmissionRow × PiSessionId) := do
  let child ← Tx.get Tbl.nativeChildren i Rejection.subjectNotFound
  let a ← Tx.get Tbl.nativeChildSpawnAdmissions child.nativeChildSpawnAdmissionId
    Rejection.subjectNotFound
  let o ← Tx.read (fun s => sidecarOf s child.nativeChildSpawnAdmissionId)
  let sidecar ← Tx.the o .subjectNotFound
  let _ ← cycleRow a.operatingCycleId
  pure (child,a,sidecar.piSessionId)

def piProtocolState (i : NativeChildId) : Transition W PiChildSessionState := do
  let o ← Tx.read (fun s => protocolOf s i)
  let p ← Tx.the o .childLifecycleReceiptMissing
  pure p.lifecycleState

def setPiProtocolState (i : NativeChildId) (state : PiChildSessionState)
    (hw : .piChildSessionProtocols ∈ W := by decide) : Transition W Unit := do
  let _ ← Tx.update Tbl.piChildSessionProtocols (fun r => r.nativeChildId==i)
    (fun r => {r with lifecycleState := state}) .childLifecycleReceiptMissing hw

def setChildState (cmd : CommandRowId) (i : NativeChildId) (state : ChildProcessState)
    (hw : .nativeChildren ∈ W := by decide) : Transition W Unit := do
  let _ ← Tx.update Tbl.nativeChildren (fun r => r.nativeChildId==i)
    (fun r => {r with lifecycleState := state,lastTransitionCommandId := cmd})
    .childLifecycleReceiptMissing hw

/-- Sets the state together with the terminal disposition. -/
def endChild (cmd : CommandRowId) (i : NativeChildId) (state : ChildProcessState)
    (disposition : Option ChildTerminalDisposition) (hw : .nativeChildren ∈ W := by decide) :
    Transition W Unit := do
  let _ ← Tx.update Tbl.nativeChildren (fun r => r.nativeChildId==i)
    (fun r => {r with lifecycleState := state,terminalDisposition := disposition,
                      lastTransitionCommandId := cmd}) .childLifecycleReceiptMissing hw

def markChildContainmentFailed (cmd : CommandRowId) (i : NativeChildId)
    (hw : .nativeChildren ∈ W := by decide) : Transition W Unit :=
  endChild cmd i .containmentFailed (some .containmentFailed) hw

def insertChild (cmd : CommandRowId) (a : NativeChildSpawnAdmissionId)
    (identity : SupervisedChildIdentity) (pid : NativeChildPid) (group : OwnedProcessGroupId)
    (hw : .nativeChildren ∈ W := by decide) : Transition W NativeChildId :=
  Tx.insert Tbl.nativeChildren (fun i =>
    {nativeChildId := i,nativeChildSpawnAdmissionId := a,childIdentity := identity.stored,
     directChildPid := pid,processGroupId := group,lifecycleState := .spawned,
     terminalDisposition := none,spawnedByCommandId := cmd,lastTransitionCommandId := cmd})
    Rejection.childSpawnAdmissionInvalid hw

def markSpawned (cmd : CommandRowId) (i : NativeChildSpawnAdmissionId)
    (hw : .nativeChildSpawnAdmissions ∈ W := by decide) : Transition W Unit := do
  let _ ← Tx.update Tbl.nativeChildSpawnAdmissions
    (fun r => r.nativeChildSpawnAdmissionId==i)
    (fun r => {r with lifecycleState := .spawned,spawnedByCommandId := some cmd})
    .childSpawnAdmissionInvalid hw

end Shared

def openSupervisorEpoch (cmd : CommandRowId) (i : SupervisorEpochId)
    (identity : SupervisorEpochIdentity) : Transition [.supervisorEpochs] EventBody := do
  let isOpen ← Tx.read (fun s => !(s.rows .supervisorEpochs).isEmpty)
  Tx.require (!isOpen) .childSpawnAdmissionInvalid
  Tx.store Tbl.supervisorEpochs
    {supervisorEpochId := i,supervisorEpochIdentity := identity.stored,openedByCommandId := cmd}
    .childSpawnAdmissionInvalid
  pure (.supervisorEpochOpened i)

def deterministicEvaluatorProfileAllowed : OperatingCycleTreatment → ExecutionProfileRow → Bool
  | .piSdkQualificationV1,_ => false
  | _,p => p.profileKind==.deterministicEvaluatorProcessFixtureV1 &&
    p.readiness==.deterministicFixtureOnly

def piChildProfileAllowed : OperatingCycleTreatment → ExecutionProfileRow → Bool
  | .deterministicPiHostFixtureV1,p =>
    p.profileKind==.deterministicPiHostProcessDoubleV1 && p.readiness==.deterministicFixtureOnly
  | .piSdkQualificationV1,p => p.profileKind==.nativePinnedPiSdkV1 &&
    (p.readiness==.unqualified || p.readiness==.qualifiedForLiveUse)
  | .pinnedPiSdkLiveV1,p =>
    p.profileKind==.nativePinnedPiSdkV1 && p.readiness==.qualifiedForLiveUse
  | .deterministicEvaluatorFixtureV1,_ => false

def admitDeterministicEvaluatorNativeChild (cmd : CommandRowId) (g : ExpectedGeneration)
    (c : OperatingCycleId) (e : DeterministicExperimentId) (v : EvaluatorRevisionId)
    (m : InputManifestId) (profile : ExecutionProfileId) (workspace : NativeWorkspaceId)
    (path : CanonicalWorkspacePath) (epoch : SupervisorEpochId)
    (epochIdentity : SupervisorEpochIdentity) :
    Transition [.workspaces,.nativeChildSpawnAdmissions] EventBody := do
  let cycle ← cycleForGeneration c g
  Tx.require (cycle.treatment≠.piSdkQualificationV1) .qualificationTreatmentRestricted
  Tx.require (cycle.lifecycleState==.running) .executionProfileIneligible
  let bound ← Tx.read (fun s => (s.find .deterministicExperiments e).any (fun r =>
    r.operatingCycleId==c && r.evaluatorRevisionId==v && r.inputManifestId==m &&
      r.lifecycleState==.registered))
  Tx.require bound .deterministicExperimentBindingMismatch
  let allowed ← Tx.read (fun s => (s.find .executionProfiles profile).any
    (deterministicEvaluatorProfileAllowed cycle.treatment))
  Tx.require allowed .executionProfileIneligible
  requireSupervisorEpoch epoch epochIdentity
  let w ← registerWorkspace cmd workspace path (conflict Tbl.workspaces)
  let i ← Tx.insert Tbl.nativeChildSpawnAdmissions (fun i =>
    {nativeChildSpawnAdmissionId := i,operatingCycleId := c,
     owner := .deterministicEvaluator e v m,budgetReservationId := none,
     executionProfileId := profile,workspaceId := w,supervisorEpochId := epoch,
     admissionGeneration := cycle.admissionGeneration,lifecycleState := .admitted,
     admittedByCommandId := cmd,spawnedByCommandId := none}) .childSpawnAdmissionInvalid
  pure (.deterministicEvaluatorNativeChildAdmitted i (.deterministicEvaluator e v m))

def recordDeterministicEvaluatorNativeChildSpawn (cmd : CommandRowId)
    (i : NativeChildSpawnAdmissionId) (identity : SupervisedChildIdentity)
    (pid : NativeChildPid) (group : OwnedProcessGroupId) :
    Transition [.nativeChildren,.nativeChildSpawnAdmissions,.cancellationPropagationTargets,
      .cancellationPropagationChildren] EventBody := do
  Tx.require (pid==group) .childSpawnAdmissionInvalid
  let a ← Tx.get Tbl.nativeChildSpawnAdmissions i Rejection.childSpawnAdmissionInvalid
  let e ← Tx.the a.owner.experiment .childSpawnAdmissionInvalid
  let sidecar ← Tx.read (fun s => sidecarOf s i)
  Tx.require (a.budgetReservationId.isNone && sidecar.isNone) .childSpawnAdmissionInvalid
  let _ ← cycleRow a.operatingCycleId
  Tx.require (a.lifecycleState==.admitted) .invalidLifecycleTransition
  let bound ← Tx.read (fun s => (s.find .deterministicExperiments e).any (fun r =>
    r.operatingCycleId==a.operatingCycleId && r.lifecycleState==.registered &&
      a.owner==.deterministicEvaluator e r.evaluatorRevisionId r.inputManifestId))
  Tx.require bound .childSpawnAdmissionInvalid
  let child ← insertChild cmd i identity pid group
  markSpawned cmd i
  attachChild a child (fun _ => true)
  pure (.deterministicEvaluatorNativeChildSpawnRecorded child i)

/-- The owner must be running in the cycle and own the reservation. -/
def requirePiOwner {W : List Tbl} (cmd : CommandRowId) (cycle : OperatingCycleRow)
    (c : OperatingCycleId) (profile : ExecutionProfileId) (reservation : BudgetReservationId)
    (hw : .officeSessionBudgetReservations ∈ W := by decide) :
    PiChildOwner → Transition W Unit
  | .actorAttempt i => do
    let attempt ← Tx.get Tbl.attempts i Rejection.childSpawnAdmissionInvalid
    let o ← Tx.read (fun s =>
      (s.rows .attemptBudgetReservations).find? (fun r => r.actorAttemptId==i))
    let reserved ← Tx.the o .childSpawnAdmissionInvalid
    Tx.require (attempt.lifecycleState==.running && attempt.operatingCycleId==c &&
      attempt.executionProfileId==profile && reserved.budgetReservationId==reservation)
      .childSpawnAdmissionInvalid
  | .rootAuthorityOfficeSession i => do
    let session ← Tx.get Tbl.rootAuthorityOfficeSessions i Rejection.childSpawnAdmissionInvalid
    Tx.require (session.operatingCycleId==c && (session.lifecycleState==.reserved ||
      session.lifecycleState==.starting || session.lifecycleState==.ready ||
      session.lifecycleState==.turnActive)) .childSpawnAdmissionInvalid
    let existing ← Tx.read (fun s => (s.rows .officeSessionBudgetReservations).find?
      (fun r => r.rootAuthorityOfficeSessionId==i))
    match existing with
    | some bound =>
      Tx.require (bound.budgetReservationId==reservation) Rejection.childSpawnAdmissionInvalid
    | none =>
      Tx.store Tbl.officeSessionBudgetReservations
        {rootAuthorityOfficeSessionId := i,budgetReservationId := reservation,
         boundByCommandId := cmd} Rejection.childSpawnAdmissionInvalid hw
  | .nativeExecutionProfileQualification q =>
    Tx.require (q==c && cycle.treatment==.piSdkQualificationV1)
      .childSpawnAdmissionInvalid

def admitPiChildSpawn (cmd : CommandRowId) (g : ExpectedGeneration) (c : OperatingCycleId)
    (owner : PiChildOwner) (reservationId : BudgetReservationId) (profile : ExecutionProfileId)
    (workspace : NativeWorkspaceId) (path : CanonicalWorkspacePath) (epoch : SupervisorEpochId)
    (epochIdentity : SupervisorEpochIdentity) (identity : PiBoundarySessionIdentity)
    (nonce : SpawnNonce) :
    Transition [.officeSessionBudgetReservations,.workspaces,.piChildSessions,
      .nativeChildSpawnAdmissions,.piChildSpawnSidecars] EventBody := do
  let cycle ← cycleForGeneration c g
  Tx.require (cycle.lifecycleState==.running) .invalidLifecycleTransition
  let reservation ← Tx.get Tbl.budgetReservations reservationId Rejection.reservationNotActive
  Tx.require (reservation.operatingCycleId==c && reservation.reservationState==.reserved)
    .reservationNotActive
  requirePiOwner cmd cycle c profile reservationId (by decide) owner
  let allowed ← Tx.read (fun s => (s.find .executionProfiles profile).any
    (piChildProfileAllowed cycle.treatment))
  Tx.require allowed .executionProfileIneligible
  requireSupervisorEpoch epoch epochIdentity
  let w ← registerWorkspace cmd workspace path (conflict Tbl.workspaces)
  let session ← Tx.insert Tbl.piChildSessions (fun i =>
    {piSessionId := i,piSessionIdentity := identity.stored,spawnNonce := nonce.stored,
     createdByCommandId := cmd,readyByCommandId := none}) .childSpawnAdmissionInvalid
  let i ← Tx.insert Tbl.nativeChildSpawnAdmissions (fun i =>
    {nativeChildSpawnAdmissionId := i,operatingCycleId := c,owner := .pi owner,
     budgetReservationId := some reservationId,executionProfileId := profile,workspaceId := w,
     supervisorEpochId := epoch,admissionGeneration := cycle.admissionGeneration,
     lifecycleState := .admitted,admittedByCommandId := cmd,spawnedByCommandId := none})
    .childSpawnAdmissionInvalid
  Tx.store Tbl.piChildSpawnSidecars
    {nativeChildSpawnAdmissionId := i,piSessionId := session} .childSpawnAdmissionInvalid
  pure (.piChildSpawnAdmitted i owner reservationId)

/-- Spawning needs neither a running cycle nor a current generation. -/
def recordInertChildSpawn (cmd : CommandRowId) (i : NativeChildSpawnAdmissionId)
    (identity : SupervisedChildIdentity) (pid : NativeChildPid) (group : OwnedProcessGroupId) :
    Transition [.nativeChildren,.piChildSessionProtocols,.nativeChildSpawnAdmissions,
      .cancellationPropagationTargets,.cancellationPropagationChildren] EventBody := do
  let a ← admissionRow i .subjectNotFound
  Tx.require (a.lifecycleState==.admitted) .invalidLifecycleTransition
  let sidecar ← Tx.read (fun s => sidecarOf s i)
  Tx.require (a.owner.experiment.isNone && a.budgetReservationId.isSome && sidecar.isSome)
    .childSpawnAdmissionInvalid
  Tx.require (pid==group) .childSpawnAdmissionInvalid
  let inUse ← Tx.read (fun s => (s.rows .nativeChildren).any (fun r =>
    r.lifecycleState≠.finalized && (r.directChildPid==pid || r.processGroupId==group)))
  Tx.require (!inUse) .childSpawnAdmissionInvalid
  let child ← insertChild cmd i identity pid group
  Tx.store Tbl.piChildSessionProtocols
    {nativeChildId := child,lifecycleState := .inertSpawned,createCorrelationIdentity := none,
     createRequestDigest := none} .childSpawnAdmissionInvalid
  markSpawned cmd i
  attachChild a child (fun p => p.operatingCycleId==a.operatingCycleId)
  pure (.inertPiChildSpawnRecorded child i)

def recordNativeChildNotSpawned (cmd : CommandRowId) (g : ExpectedGeneration)
    (i : NativeChildSpawnAdmissionId) (reason : NativeChildNotSpawnedReason) :
    Transition [.cancellationPropagationTargets,.nativeChildSpawnAdmissions,
      .nativeChildSpawnInvalidations] EventBody := do
  let a ← Tx.get Tbl.nativeChildSpawnAdmissions i Rejection.childSpawnAdmissionInvalid
  let sidecar ← Tx.read (fun s => sidecarOf s i)
  Tx.require (if a.owner.experiment.isNone then a.budgetReservationId.isSome && sidecar.isSome
    else a.budgetReservationId.isNone && sidecar.isNone) .childSpawnAdmissionInvalid
  let _ ← cycleRow a.operatingCycleId
  let _ ← cycleForGeneration a.operatingCycleId g
  Tx.require (a.lifecycleState==.admitted) .invalidLifecycleTransition
  let propagations ← Tx.read (fun s =>
    openPropagations s (fun p => p.operatingCycleId==a.operatingCycleId))
  let targets ← Tx.update Tbl.cancellationPropagationTargets (fun t =>
      propagations.contains t.cancellationPropagationId && t.nativeChildId.isNone &&
      t.targetDisposition==.awaitingChildReceipt && a.owner.target==some t.owner)
    (fun t => {t with targetDisposition := .notRunning}) .cancellationPropagationIncomplete
  Tx.require (targets≤1) .cancellationPropagationIncomplete
  Tx.require (!(reason==.cancelledBeforeSpawn && targets≠1)) .invalidLifecycleTransition
  let _ ← Tx.update Tbl.nativeChildSpawnAdmissions
    (fun r => r.nativeChildSpawnAdmissionId==i)
    (fun r => {r with lifecycleState := .invalidated}) .childSpawnAdmissionInvalid
  Tx.store Tbl.nativeChildSpawnInvalidations
    {nativeChildSpawnAdmissionId := i,reason := reason,invalidatedByCommandId := cmd}
    .childSpawnAdmissionInvalid
  pure (.nativeChildSpawnInvalidated i reason)

/-! The Pi session protocol of a spawned child. -/

def recordPiAdapterReady (i : NativeChildId) (identity : PiBoundarySessionIdentity)
    (nonce : SpawnNonce) : Transition [.piChildSessionProtocols] EventBody := do
  let (child,_,session) ← piChildRow i
  Tx.require (child.lifecycleState==.spawned || child.lifecycleState==.cancellationRequested)
    .invalidLifecycleTransition
  let state ← piProtocolState i
  Tx.require (state==.inertSpawned) .invalidLifecycleTransition
  let matching ← Tx.read (fun s => (s.find .piChildSessions session).any (fun r =>
    r.piSessionIdentity==identity.stored && r.spawnNonce==nonce.stored))
  Tx.require matching .childSpawnAdmissionInvalid
  setPiProtocolState i .adapterReady
  pure (.piAdapterReadyRecorded i session)

/-- Whether the owner of a Pi child is still entitled to a session. -/
def piOwnerActive (s : Store) (reservation : Option BudgetReservationId) :
    NativeChildOwner → Bool
  | .pi (.actorAttempt i) => (s.find .attempts i).any (·.lifecycleState==.running)
  | .pi (.rootAuthorityOfficeSession i) =>
    (s.find .rootAuthorityOfficeSessions i).any (fun r => r.lifecycleState==.reserved ||
      r.lifecycleState==.starting || r.lifecycleState==.ready ||
      r.lifecycleState==.turnActive) &&
    (s.rows .officeSessionBudgetReservations).any (fun r =>
      r.rootAuthorityOfficeSessionId==i && some r.budgetReservationId==reservation)
  | .pi (.nativeExecutionProfileQualification c) => (s.find .operatingCycles c).any (fun r =>
      r.treatment==.piSdkQualificationV1 && r.lifecycleState==.running)
  | .deterministicEvaluator _ _ _ => false

def authorizePiCreateSession (g : ExpectedGeneration) (i : NativeChildId)
    (correlation : PiCorrelationIdentity) (request : Blake3Digest) :
    Transition [.piChildSessionProtocols] EventBody := do
  let (child,a,_) ← piChildRow i
  let cycle ← cycleForGeneration a.operatingCycleId g
  let profile ← Tx.get Tbl.executionProfiles a.executionProfileId
    Rejection.childSpawnAdmissionInvalid
  Tx.require (child.lifecycleState==.spawned) .staleAdmissionGeneration
  let state ← piProtocolState i
  Tx.require (state==.adapterReady && cycle.lifecycleState==.running &&
    a.admissionGeneration==cycle.admissionGeneration) .staleAdmissionGeneration
  let reserved ← Tx.read (fun s => (s.rows .budgetReservations).any (fun r =>
    some r.budgetReservationId==a.budgetReservationId &&
      r.operatingCycleId==a.operatingCycleId && r.reservationState==.reserved))
  let cancelling ← Tx.read (fun s => activeCancellationCount s a.operatingCycleId)
  Tx.require (reserved && cancelling==0) .reservationNotActive
  let active ← Tx.read (fun s => piOwnerActive s a.budgetReservationId a.owner)
  Tx.require active .childSpawnAdmissionInvalid
  Tx.require (piChildProfileAllowed cycle.treatment profile) .executionProfileIneligible
  let _ ← Tx.update Tbl.piChildSessionProtocols (fun r => r.nativeChildId==i)
    (fun r => {r with lifecycleState := .createAuthorized,
                      createCorrelationIdentity := some correlation.stored,
                      createRequestDigest := some request}) .childLifecycleReceiptMissing
  pure (.piCreateSessionAuthorized i)

def recordPiCreateSessionDelivery (i : NativeChildId) (correlation : PiCorrelationIdentity)
    (request : Blake3Digest) : Transition [.piChildSessionProtocols] EventBody := do
  let (child,_,_) ← piChildRow i
  let matching ← Tx.read (fun s => (protocolOf s i).any (fun p =>
    p.lifecycleState==.createAuthorized &&
      p.createCorrelationIdentity==some correlation.stored &&
      p.createRequestDigest==some request))
  Tx.require ((child.lifecycleState==.spawned ||
    child.lifecycleState==.cancellationRequested) && matching) .invalidLifecycleTransition
  setPiProtocolState i .createDelivered
  pure (.piCreateSessionDeliveryRecorded i)

def recordPiSessionReady (cmd : CommandRowId) (i : NativeChildId)
    (identity : PiBoundarySessionIdentity) :
    Transition [.piChildSessions,.piChildSessionProtocols,.nativeChildren] EventBody := do
  let (child,_,session) ← piChildRow i
  Tx.require (child.lifecycleState==.spawned || child.lifecycleState==.cancellationRequested)
    .invalidLifecycleTransition
  let state ← piProtocolState i
  Tx.require (state==.createDelivered) .invalidLifecycleTransition
  let matching ← Tx.read (fun s => (s.find .piChildSessions session).any (fun r =>
    r.piSessionIdentity==identity.stored && r.readyByCommandId.isNone))
  Tx.require matching .childSpawnAdmissionInvalid
  let _ ← Tx.update Tbl.piChildSessions (fun r => r.piSessionId==session)
    (fun r => {r with readyByCommandId := some cmd}) .childLifecycleReceiptMissing
  setPiProtocolState i .sessionReady
  if child.lifecycleState==.spawned then setChildState cmd i .running
  pure (.piSessionReadyRecorded i session)

/-- An open propagation still waits for the child. -/
def targetAwaits (s : Store) (p : CancellationPropagationId) (i : NativeChildId) : Bool :=
  (s.rows .cancellationPropagationTargets).any (fun t => t.cancellationPropagationId==p &&
    t.nativeChildId==some i && t.targetDisposition==.awaitingChildReceipt) &&
  (s.find .cancellationPropagations p).any (·.lifecycleState==.propagating)

def recordPiAbortControlDelivery (cmd : CommandRowId) (g : ExpectedGeneration)
    (i : NativeChildId) (p : CancellationPropagationId) (correlation : PiCorrelationIdentity)
    (abort : Blake3Digest) (outcome : PiAbortControlWriteOutcome) :
    Transition [.piAbortControlReceipts] EventBody := do
  let (child,a,_) ← piChildRow i
  let _ ← cycleForGeneration a.operatingCycleId g
  Tx.require (child.lifecycleState==.running || child.lifecycleState==.cancellationRequested)
    .invalidLifecycleTransition
  let state ← piProtocolState i
  Tx.require (state==.sessionReady) .invalidLifecycleTransition
  let awaited ← Tx.read (fun s => targetAwaits s p i)
  Tx.require awaited .cancellationPropagationIncomplete
  let receipt ← Tx.insert Tbl.piAbortControlReceipts (fun j =>
    {piAbortControlReceiptId := j,nativeChildId := i,cancellationPropagationId := p,
     correlationIdentity := correlation.stored,abortCommandDigest := abort,
     physicalWriteOutcome := outcome,recordedByCommandId := cmd})
    .childLifecycleReceiptMissing
  pure (.piAbortControlDeliveryRecorded receipt i p correlation abort outcome)

/-! Streams, liveness, signals, reaping and finalization. -/

def recordChildStreamSeal (cmd : CommandRowId) (i : NativeChildId) (kind : ChildStreamKind)
    (full : Blake3Digest) (retained : ContentObjectId)
    (completeness : ChildStreamSealCompleteness) :
    Transition [.nativeChildStreamSeals,.nativeChildren] EventBody := do
  let (child,a) ← childRow i
  Tx.require (!(child.lifecycleState==.finalized ||
    child.lifecycleState==.recoveryContainmentRequired ||
    child.lifecycleState==.lostParentage)) .invalidLifecycleTransition
  let sidecar ← Tx.read (fun s => sidecarOf s a.nativeChildSpawnAdmissionId)
  let evaluatorOwned :=
    a.owner.experiment.isSome && a.budgetReservationId.isNone && sidecar.isNone
  Tx.require (!(evaluatorOwned && (child.lifecycleState≠.directChildReaped ||
    !(kind==.stdout || kind==.stderr)))) .invalidLifecycleTransition
  let o ← Tx.read (fun s => contentDigest s retained)
  let digest ← Tx.the o .contentObjectNotSealed
  Tx.require (!(completeness==.complete && digest≠full)) .childStreamSealBindingMismatch
  let streamSeal ← Tx.insert Tbl.nativeChildStreamSeals (fun j =>
    {nativeChildStreamSealId := j,nativeChildId := i,streamKind := kind,
     fullObservedDigest := full,retainedContentObjectId := retained,
     completeness := completeness,sealedByCommandId := cmd}) .childStreamSealBindingMismatch
  if completeness==.countOverflow then markChildContainmentFailed cmd i
  pure (.childStreamSealed streamSeal i kind completeness)

/-- A group once seen absent that is seen again: its identity has been reused. -/
def livenessIsReuseConflict (s : Store) (i : NativeChildId) (liveness : ProcessGroupLiveness) :
    Bool :=
  liveness≠.absent &&
    ((s.rows .nativeChildLivenessObservations).any (fun r =>
        r.nativeChildId==i && r.liveness==.absent) ||
      (s.rows .processSignalReceipts).any (fun r =>
        r.nativeChildId==i && r.observedLiveness==.absent) ||
      (s.rows .nativeChildReapReceipts).any (fun r => r.nativeChildId==i &&
        (r.groupLivenessBeforeCleanup==.absent || r.groupLivenessAfterCleanup==.absent)))

/-- What an observation does to the child: inaccessible or reused groups fail containment,
and the absence of a recovered group is lost parentage. -/
def observeLiveness {W : List Tbl} (cmd : CommandRowId) (i : NativeChildId)
    (state : ChildProcessState) (failed : Bool) (liveness : ProcessGroupLiveness)
    (hw : .nativeChildren ∈ W := by decide) : Transition W Unit :=
  if failed then markChildContainmentFailed cmd i hw
  else if state==.recoveryContainmentRequired && liveness==.absent then
    endChild cmd i .lostParentage (some .supervisionLost) hw
  else pure ()

def recordChildProcessLiveness (cmd : CommandRowId) (i : NativeChildId)
    (liveness : ProcessGroupLiveness) :
    Transition [.nativeChildLivenessObservations,.nativeChildren] EventBody := do
  let (child,_) ← childRow i
  Tx.require (!child.lifecycleState.isTerminal) .invalidLifecycleTransition
  Tx.require (!(child.lifecycleState==.recoveryContainmentRequired && liveness==.present))
    .invalidLifecycleTransition
  let regressed ← Tx.read (fun s => livenessIsReuseConflict s i liveness)
  let observation ← Tx.insert Tbl.nativeChildLivenessObservations (fun j =>
    {nativeChildLivenessObservationId := j,nativeChildId := i,liveness := liveness,
     observedByCommandId := cmd}) .childLifecycleReceiptMissing
  observeLiveness cmd i child.lifecycleState (liveness==.inaccessible || regressed) liveness
  pure (.childProcessLivenessObserved observation i liveness)

def priorSignalAttempt (s : Store) (i : NativeChildId) (action : ProcessSignalAction)
    (cause : ProcessSignalCause) : Bool :=
  (s.rows .processSignalReceipts).any (fun r =>
    r.nativeChildId==i && r.signalAction==action && r.cause==cause)

def priorPiAbortControlAttempt (s : Store) (i : NativeChildId)
    (p : CancellationPropagationId) : Bool :=
  (s.rows .piAbortControlReceipts).any (fun r =>
    r.nativeChildId==i && r.cancellationPropagationId==p)

def lingeringGroupCleanupIsDue (s : Store) (i : NativeChildId) : Bool :=
  (s.find .nativeChildren i).any (·.lifecycleState==.directChildReaped) &&
  (s.rows .nativeChildReapReceipts).any (fun r =>
    r.nativeChildId==i && r.groupLivenessAfterCleanup==.present)

/-- The escalation order: abort, terminate, kill, then the lingering group. -/
def signalDue (s : Store) (i : NativeChildId) (cause : ProcessSignalCause) :
    ProcessSignalAction → Bool
  | .terminate => match cause with
    | .cancellationPropagation p => targetAwaits s p i &&
      (!(protocolOf s i).any (·.lifecycleState==.sessionReady) ||
        priorPiAbortControlAttempt s i p)
    | .automaticBoundaryContainment => true
  | .kill => match cause with
    | .cancellationPropagation p => targetAwaits s p i && priorSignalAttempt s i .terminate cause
    | .automaticBoundaryContainment => priorSignalAttempt s i .terminate cause
  | .lingeringGroupKill => match cause with
    | .cancellationPropagation p => targetAwaits s p i && lingeringGroupCleanupIsDue s i
    | .automaticBoundaryContainment => lingeringGroupCleanupIsDue s i

def signalDeliveryConsistent : ProcessSignalDelivery → ProcessGroupLiveness → Bool
  | .delivered,_ => true
  | .absentBeforeSignal,.absent | .absentDuringSignal,.absent => true
  | .inaccessible,.inaccessible => true
  | _,_ => false

def recordProcessSignalReceipt (cmd : CommandRowId) (i : NativeChildId)
    (action : ProcessSignalAction) (delivery : ProcessSignalDelivery)
    (liveness : ProcessGroupLiveness) (cause : ProcessSignalCause) :
    Transition [.processSignalReceipts,.nativeChildren] EventBody := do
  Tx.require (signalDeliveryConsistent delivery liveness) .childLifecycleReceiptMissing
  let (child,_) ← childRow i
  let state := child.lifecycleState
  Tx.require (!state.isTerminal) .invalidLifecycleTransition
  let due ← Tx.read (fun s => signalDue s i cause action)
  Tx.require due .cancellationPropagationIncomplete
  let regressed ← Tx.read (fun s => livenessIsReuseConflict s i liveness)
  let receipt ← Tx.insert Tbl.processSignalReceipts (fun j =>
    {processSignalReceiptId := j,nativeChildId := i,signalAction := action,
     delivery := delivery,observedLiveness := liveness,cause := cause,
     recordedByCommandId := cmd}) .childLifecycleReceiptMissing
  if delivery==.delivered && (state==.spawned || state==.running) then
    setChildState cmd i .cancellationRequested
  observeLiveness cmd i state
    (delivery==.inaccessible || liveness==.inaccessible || regressed) liveness
  pure (.processSignalReceiptRecorded receipt i action delivery liveness cause)

def recordDirectChildReap (cmd : CommandRowId) (i : NativeChildId)
    (status : DirectChildWaitStatus) (before after : ProcessGroupLiveness) :
    Transition [.nativeChildReapReceipts,.nativeChildren] EventBody := do
  let (child,_) ← childRow i
  let state := child.lifecycleState
  Tx.require (!(state==.finalized || state==.recoveryContainmentRequired ||
    state==.lostParentage || state==.directChildReaped)) .invalidLifecycleTransition
  let regressed ← Tx.read (fun s =>
    livenessIsReuseConflict s i before || livenessIsReuseConflict s i after)
  let receipt ← Tx.insert Tbl.nativeChildReapReceipts (fun j =>
    {nativeChildReapReceiptId := j,nativeChildId := i,waitStatus := status,
     groupLivenessBeforeCleanup := before,groupLivenessAfterCleanup := after,
     reapedByCommandId := cmd}) .childLifecycleReceiptMissing
  if after==.inaccessible || regressed then markChildContainmentFailed cmd i
  else if state≠.containmentFailed then setChildState cmd i .directChildReaped
  pure (.directChildReaped receipt i status before after)

def recordChildRecovery (cmd : CommandRowId) (i : NativeChildId)
    (observation : ChildRecoveryObservation) (after : ProcessGroupLiveness) :
    Transition [.nativeChildRecoveryReceipts,.nativeChildren] EventBody := do
  let (child,_) ← childRow i
  let state := child.lifecycleState
  Tx.require (!(state==.finalized || state==.directChildReaped ||
    state==.recoveryContainmentRequired || state==.lostParentage ||
    state==.containmentFailed)) .invalidLifecycleTransition
  let regressed ← Tx.read (fun s => livenessIsReuseConflict s i after)
  let receipt ← Tx.insert Tbl.nativeChildRecoveryReceipts (fun j =>
    {nativeChildRecoveryReceiptId := j,nativeChildId := i,observation := observation,
     groupLivenessAfterRestart := after,recordedByCommandId := cmd})
    .childLifecycleReceiptMissing
  match after with
  | .absent => endChild cmd i .lostParentage (some .supervisionLost)
  | .inaccessible => markChildContainmentFailed cmd i
  | .present =>
    if regressed then markChildContainmentFailed cmd i
    else endChild cmd i .recoveryContainmentRequired none
  pure (.childRecoveryObserved receipt i observation after)

/-- The disposition of a child that died from a signal somebody delivered. -/
def signalTerminalDisposition (s : Store) (i : NativeChildId) (signal : ProcessSignalNumber) :
    Option ChildTerminalDisposition :=
  let delivered (p : ProcessSignalAction → Bool) : Bool :=
    (s.rows .processSignalReceipts).any (fun r =>
      r.nativeChildId==i && p r.signalAction && r.delivery==.delivered)
  if signal.val==15 then
    if delivered (·==.terminate) then some .terminated else none
  else if signal.val==9 then
    if delivered (fun a => a==.kill || a==.lingeringGroupKill) then some .killed else none
  else none

def retainedSeals (s : Store) (i : NativeChildId) (p : ChildStreamKind → Bool) : Nat :=
  (s.rows .nativeChildStreamSeals).countP (fun r => r.nativeChildId==i && p r.streamKind &&
    (r.completeness==.complete || r.completeness==.prefixBounded))

/-- The group was gone after cleanup, or was seen gone by a later command. -/
def groupAbsentAfterReap (s : Store) (i : NativeChildId) (r : NativeChildReapReceiptRow) :
    Bool :=
  r.groupLivenessAfterCleanup==.absent ||
  (s.rows .nativeChildLivenessObservations).any (fun o => o.nativeChildId==i &&
    o.liveness==.absent && r.reapedByCommandId.val<o.observedByCommandId.val) ||
  (s.rows .processSignalReceipts).any (fun o => o.nativeChildId==i &&
    o.observedLiveness==.absent && r.reapedByCommandId.val<o.recordedByCommandId.val)

def finalizeChildProcess (cmd : CommandRowId) (i : NativeChildId) :
    Transition [.nativeChildren] EventBody := do
  let (child,a) ← childRow i
  Tx.require (child.lifecycleState≠.containmentFailed) .processContainmentFailed
  Tx.require (child.lifecycleState==.directChildReaped) .childLifecycleReceiptMissing
  let o ← Tx.read (fun s =>
    (s.rows .nativeChildReapReceipts).find? (fun r => r.nativeChildId==i))
  let reap ← Tx.the o .childLifecycleReceiptMissing
  let absent ← Tx.read (fun s => groupAbsentAfterReap s i reap)
  Tx.require absent .processContainmentFailed
  -- a Pi child seals four streams, an evaluator its two outputs
  let isSealed ← Tx.read (fun s =>
    if (sidecarOf s a.nativeChildSpawnAdmissionId).isSome
    then retainedSeals s i (fun _ => true)==4
    else retainedSeals s i (fun _ => true)==2 &&
      retainedSeals s i (fun k => k==.stdout || k==.stderr)==2)
  Tx.require isSealed .childLifecycleReceiptMissing
  let o ← Tx.read (fun s => match reap.waitStatus with
    | .exited _ => some ChildTerminalDisposition.exited
    | .signaled n => signalTerminalDisposition s i n
    | .unknown => none)
  let disposition ← Tx.the o .childLifecycleReceiptMissing
  endChild cmd i .finalized (some disposition)
  pure (.childProcessFinalized i disposition)

def streamBound (s : Store) (i : NativeChildId) (kind : ChildStreamKind) (digest : Blake3Digest)
    (content : ContentObjectId) : Bool :=
  (s.rows .nativeChildStreamSeals).any (fun r => r.nativeChildId==i && r.streamKind==kind &&
    r.fullObservedDigest==digest && r.retainedContentObjectId==content &&
    (r.completeness==.complete || r.completeness==.prefixBounded))

def qualifyNativeExecutionProfile (cmd : CommandRowId) (g : ExpectedGeneration)
    (c : OperatingCycleId) (profileId : ExecutionProfileId) (i : NativeChildSpawnAdmissionId)
    (childId : NativeChildId) (runtimeDigest : Blake3Digest) (runtimeContent : ContentObjectId)
    (adapterDigest : Blake3Digest) (adapterContent : ContentObjectId)
    (probeRequest : Blake3Digest) (probeResponse : Blake3Digest)
    (probeContent : ContentObjectId) :
    Transition [.executionProfileQualifications,.executionProfiles] EventBody := do
  let cycle ← cycleForGeneration c g
  Tx.require (cycle.lifecycleState==.running && cycle.treatment==.piSdkQualificationV1)
    .qualificationTreatmentRestricted
  let eligible ← Tx.read (fun s => (s.find .executionProfiles profileId).any (fun r =>
    r.profileKind==.nativePinnedPiSdkV1 && r.readiness==.unqualified))
  Tx.require eligible .executionProfileIneligible
  let a ← Tx.get Tbl.nativeChildSpawnAdmissions i Rejection.childSpawnAdmissionInvalid
  let child ← Tx.get Tbl.nativeChildren childId Rejection.childSpawnAdmissionInvalid
  Tx.require (child.nativeChildSpawnAdmissionId==i) .childSpawnAdmissionInvalid
  -- a row whose nullable columns are read as integers fails the same way as no row
  let (q,disposition) ← (match a.owner,child.terminalDisposition with
    | .pi (.nativeExecutionProfileQualification q),some d => pure (q,d)
    | _,_ => Tx.raise .childSpawnAdmissionInvalid)
  Tx.require (a.operatingCycleId==c && a.executionProfileId==profileId && q==c &&
    child.lifecycleState==.finalized && disposition==.exited) .childLifecycleReceiptMissing
  let state ← piProtocolState childId
  Tx.require (state==.sessionReady) .childLifecycleReceiptMissing
  let retained ← Tx.read (fun s => retainedSeals s childId (fun _ => true))
  Tx.require (retained==4) .childLifecycleReceiptMissing
  let bound ← Tx.read (fun s =>
    streamBound s childId .admittedControl runtimeDigest runtimeContent &&
    streamBound s childId .physicalStdin adapterDigest adapterContent &&
    streamBound s childId .stdout probeResponse probeContent)
  Tx.require bound .childStreamSealBindingMismatch
  let created ← Tx.read (fun s =>
    (protocolOf s childId).any (fun p => p.createRequestDigest==some probeRequest))
  Tx.require created .piOfficeTurnPromptBindingMismatch
  let qualification ← Tx.insert Tbl.executionProfileQualifications (fun j =>
    {executionProfileQualificationId := j,operatingCycleId := c,executionProfileId := profileId,
     nativeChildSpawnAdmissionId := i,nativeChildId := childId,
     runtimeIdentityDigest := runtimeDigest,runtimeIdentityContentObjectId := runtimeContent,
     adapterReportDigest := adapterDigest,adapterReportContentObjectId := adapterContent,
     probeRequestDigest := probeRequest,probeResponseDigest := probeResponse,
     probeResponseContentObjectId := probeContent,qualifiedByCommandId := cmd})
    .invalidLifecycleTransition
  let _ ← Tx.update Tbl.executionProfiles (fun r => r.executionProfileId==profileId)
    (fun r => {r with readiness := .qualifiedForLiveUse}) .invalidLifecycleTransition
  pure (.nativeExecutionProfileQualified qualification c profileId i childId)

end Society.Kernel
