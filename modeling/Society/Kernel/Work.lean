import Society.Kernel.Budget
import Society.Kernel.Graph

namespace Society.Kernel
open Society.Relational

/-! Actors, work items, leases, attempts and the claims that launch them. -/

section Shared
variable {W : List Tbl}

def moveTicket (cmd : CommandRowId) (i : TicketId) (state : TicketState)
    (hw : .tickets ∈ W := by decide) : Transition W Unit := do
  let _ ← Tx.update Tbl.tickets (fun r => r.ticketId==i)
    (fun r => {r with lifecycleState := state,lastTransitionCommandId := cmd})
    .subjectNotFound hw

def moveWorkItem (cmd : CommandRowId) (i : WorkItemId) (state : WorkItemState)
    (hw : .workItems ∈ W := by decide) : Transition W Unit := do
  let _ ← Tx.update Tbl.workItems (fun r => r.workItemId==i)
    (fun r => {r with lifecycleState := state,lastTransitionCommandId := cmd})
    .subjectNotFound hw

def requireSupervisorEpoch (i : SupervisorEpochId) (identity : SupervisorEpochIdentity) :
    Transition W Unit := do
  let matching ← Tx.read (fun s => (s.rows .supervisorEpochs).any (fun r =>
    r.supervisorEpochId==i && r.supervisorEpochIdentity==identity.stored))
  Tx.require matching .childSpawnAdmissionInvalid

/-- Registers the workspace unless a row that `same` matches is there; afterwards the name
must stand for the path. -/
def registerWorkspace (cmd : CommandRowId) (name : NativeWorkspaceId)
    (path : CanonicalWorkspacePath) (same : WorkspaceRow → WorkspaceRow → Bool) (hw : .workspaces ∈ W := by decide) :
    Transition W WorkspaceId := do
  Tx.insertUnless Tbl.workspaces (fun i =>
    {workspaceId := i,nativeWorkspaceId := name.stored,canonicalWorkspacePath := path.stored,
     registeredByCommandId := cmd}) same .childSpawnAdmissionInvalid hw
  let o ← Tx.read (fun s => (s.rows .workspaces).find? (fun r =>
    r.nativeWorkspaceId==name.stored && r.canonicalWorkspacePath==path.stored))
  let workspace ← Tx.the o .childSpawnAdmissionInvalid
  pure workspace.workspaceId

/-- The conflict target of a launch claim's workspace. -/
def sameWorkspaceName (a b : WorkspaceRow) : Bool := a.nativeWorkspaceId==b.nativeWorkspaceId

/-- A native Pi profile that has passed qualification. -/
def requireQualifiedProfile (i : ExecutionProfileId) : Transition W Unit := do
  let qualified ← Tx.read (fun s => (s.rows .executionProfiles).any (fun r =>
    r.executionProfileId==i && r.profileKind==.nativePinnedPiSdkV1 &&
      r.readiness==.qualifiedForLiveUse))
  Tx.require qualified .executionProfileIneligible

end Shared

def registerActorConfiguration (cmd : CommandRowId) (name : ActorConfigurationName)
    (policy : ActorModelPolicy) (attractor : DevelopmentalAttractor) :
    Transition [.actorConfigurations,.actorConfigurationRevisions] EventBody := do
  let i ← Tx.insert Tbl.actorConfigurations (fun i =>
    {actorConfigurationId := i,configurationName := name.stored,lifecycleState := .active,
     createdByCommandId := cmd}) .invalidLifecycleTransition
  let j ← Tx.insert Tbl.actorConfigurationRevisions (fun j =>
    {actorConfigurationRevisionId := j,actorConfigurationId := i,
     revisionOrdinal := ⟨1,Ranged.one_valid⟩,modelPolicy := policy,primaryAttractor := attractor,
     createdByCommandId := cmd}) .invalidLifecycleTransition
  pure (.actorConfigurationRegistered i j)

def registerContextPack (cmd : CommandRowId) (g : ExpectedGeneration) (c : OperatingCycleId)
    (purpose : ContextPackPurpose) (rendering : Blake3Digest) :
    Transition [.contextPacks,.coordinationCommandProvenance] EventBody := do
  let cycle ← coordinationCycle g c
  let i ← Tx.insert Tbl.contextPacks (fun i =>
    {contextPackId := i,foundingMissionId := cycle.foundingMissionId,purpose := purpose,
     renderingDigest := rendering,createdByCommandId := cmd}) .invalidLifecycleTransition
  recordCoordinationProvenance cmd cycle c none
  pure (.contextPackRegistered i)

/-- Which profile an ordinary actor of the treatment may run on. -/
def actorProfileAdmissible : OperatingCycleTreatment → ExecutionProfileRow → Bool
  | .deterministicPiHostFixtureV1,p =>
    p.profileKind==.deterministicPiHostProcessDoubleV1 && p.readiness==.deterministicFixtureOnly
  | .pinnedPiSdkLiveV1,p =>
    p.profileKind==.nativePinnedPiSdkV1 && p.readiness==.qualifiedForLiveUse
  | _,_ => false

def admitActorInstance (cmd : CommandRowId) (g : ExpectedGeneration) (c : OperatingCycleId)
    (revision : ActorConfigurationRevisionId) (profile : ExecutionProfileId)
    (name : PrincipalDisplayName) :
    Transition [.principals,.actorInstances,.capabilityGrants,.coordinationCommandProvenance]
      EventBody := do
  let cycle ← coordinationCycle g c
  let active ← Tx.read (fun s => (s.find .actorConfigurationRevisions revision).any (fun r =>
    (s.find .actorConfigurations r.actorConfigurationId).any (·.lifecycleState==.active)))
  let admissible ← Tx.read (fun s => (s.find .executionProfiles profile).any
    (actorProfileAdmissible cycle.treatment))
  Tx.require active .subjectNotFound
  Tx.require admissible .executionProfileIneligible
  let principal ← Tx.insert Tbl.principals (fun i =>
    {principalId := i,principalKind := .actor,displayName := name.stored,active := true})
    .invalidLifecycleTransition (by decide) (PrincipalRow.actor_key name)
  let i ← Tx.insert Tbl.actorInstances (fun i =>
    {actorInstanceId := i,principalId := principal,actorConfigurationRevisionId := revision,
     executionProfileId := profile,operatingCycleId := c,lifecycleState := .active,
     admittedByCommandId := cmd}) .invalidLifecycleTransition
  let _ ← Tx.insert Tbl.capabilityGrants (fun j =>
    {capabilityGrantId := j,principalId := principal,capabilityKind := .claimWorkItem,
     officeOccupancyId := none,actorInstanceId := some i,grantState := .active,
     grantOrigin := .ledgerCommand,grantedByCommandId := some cmd,
     consumedByCommandId := none}) .actorJurisdictionDenied
  recordCoordinationProvenance cmd cycle c none
  pure (.actorInstanceAdmitted i principal)

def admitTicket (cmd : CommandRowId) (g : ExpectedGeneration) (c : OperatingCycleId)
    (i : TicketId) : Transition [.tickets,.coordinationCommandProvenance] EventBody := do
  let cycle ← coordinationCycle g c
  let ticket ← ticketRow i
  projectIsActive ticket.projectId
  Tx.require (ticket.lifecycleState==.draft) .invalidLifecycleTransition
  moveTicket cmd i .admitted
  recordCoordinationProvenance cmd cycle c (some ticket.projectId)
  pure (.ticketAdmitted i)

/-- A review work item is bound to a requested review of its own project. -/
def requireReviewBinding {W : List Tbl} (project : ProjectId) :
    WorkItemKind → Option AdversarialReviewId → Transition W Unit
  | .ticketExecution,none => pure ()
  | .independentReview,some i => do
    let review ← reviewRow i
    let revision ← graphRevisionRow review.targetGraphRevisionId
    Tx.require (review.projectId==project && review.lifecycleState==.requested &&
      revision.projectId==project && revision.lifecycleState==.committed)
      .reviewAssignmentEvidenceMissing
  | _,_ => Tx.raise .reviewAssignmentEvidenceMissing

def registerWorkItem (cmd : CommandRowId) (g : ExpectedGeneration) (c : OperatingCycleId)
    (ticketId : TicketId) (instanceId : ActorInstanceId) (contextId : ContextPackId)
    (kind : WorkItemKind) (review : Option AdversarialReviewId)
    (assignment : WorkAssignmentText) :
    Transition [.workItems,.tickets,.coordinationCommandProvenance] EventBody := do
  let cycle ← coordinationCycle g c
  let ticket ← ticketRow ticketId
  projectIsActive ticket.projectId
  let complete ← Tx.read (fun s => ticketPrerequisitesComplete s ticketId)
  Tx.require (ticket.lifecycleState==.admitted && complete) .ticketPrerequisiteIncomplete
  let actor ← actorInstanceRow instanceId
  Tx.require (actor.operatingCycleId==c && actor.lifecycleState==.active)
    .actorJurisdictionDenied
  let context ← Tx.get Tbl.contextPacks contextId Rejection.subjectNotFound
  Tx.require (context.foundingMissionId==cycle.foundingMissionId &&
    context.purpose==kind.requiredContextPurpose) .actorJurisdictionDenied
  requireReviewBinding ticket.projectId kind review
  let i ← Tx.insert Tbl.workItems (fun i =>
    {workItemId := i,ticketId := ticketId,actorInstanceId := instanceId,
     contextPackId := contextId,workKind := kind,adversarialReviewId := review,
     assignmentText := assignment.stored,lifecycleState := .ready,
     retryOfActorAttemptId := none,createdByCommandId := cmd,lastTransitionCommandId := cmd})
    .invalidLifecycleTransition
  moveTicket cmd ticketId .ready
  recordCoordinationProvenance cmd cycle c (some ticket.projectId)
  pure (.workItemRegistered i ticketId review)

/-- Takes the lease of a ready work item for its actor. -/
def claimWork (cmd : CommandRowId) (principal : PrincipalId) (g : ExpectedGeneration)
    (c : OperatingCycleId) (i : WorkItemId) :
    Transition [.leases,.workItems,.tickets,.coordinationCommandProvenance]
      (WorkLeaseId × ActorInstanceId) := do
  let cycle ← coordinationCycle g c
  let work ← workItemRow i
  let actor ← actorInstanceRow work.actorInstanceId
  let ticket ← ticketRow work.ticketId
  projectIsActive ticket.projectId
  Tx.require (principal==actor.principalId && actor.operatingCycleId==c &&
    actor.lifecycleState==.active) .actorJurisdictionDenied
  Tx.require (work.lifecycleState==.ready && ticket.lifecycleState==.ready)
    .workLeaseUnavailable
  let lease ← Tx.insert Tbl.leases (fun j =>
    {workLeaseId := j,workItemId := i,actorInstanceId := work.actorInstanceId,
     lifecycleState := .active,claimedByCommandId := cmd,terminalByCommandId := none})
    .workLeaseUnavailable
  moveWorkItem cmd i .claimed
  moveTicket cmd work.ticketId .claimed
  recordCoordinationProvenance cmd cycle c (some ticket.projectId)
  pure (lease,work.actorInstanceId)

def claimWorkItem (cmd : CommandRowId) (principal : PrincipalId) (g : ExpectedGeneration)
    (c : OperatingCycleId) (i : WorkItemId) :
    Transition [.leases,.workItems,.tickets,.coordinationCommandProvenance] EventBody := do
  let (lease,actor) ← claimWork cmd principal g c i
  pure (.workItemClaimed i lease actor)

def reserveAttemptBudget (cmd : CommandRowId) (cycle : OperatingCycleRow)
    (c : OperatingCycleId) (amount : UsdMicros) :
    Transition [.budgetReservations,.budgetEnvelopes,.budgetReservationCharges]
      BudgetReservationId := do
  Tx.require (amount≠.zero) .budgetCeilingExceeded
  reserveOnEnvelopes cmd cycle c amount

/-- What starting an attempt writes. -/
abbrev attemptTables : List Tbl :=
  [.budgetReservations,.budgetEnvelopes,.budgetReservationCharges,.attempts,
   .attemptBudgetReservations,.workItems,.coordinationCommandProvenance]

def startAttempt (cmd : CommandRowId) (g : ExpectedGeneration) (c : OperatingCycleId)
    (i : WorkItemId) (amount : UsdMicros) :
    Transition attemptTables (ActorAttemptId × BudgetReservationId) := do
  let cycle ← coordinationCycle g c
  let work ← workItemRow i
  let actor ← actorInstanceRow work.actorInstanceId
  let ticket ← ticketRow work.ticketId
  projectIsActive ticket.projectId
  Tx.require (work.lifecycleState==.claimed && ticket.lifecycleState==.claimed &&
    actor.operatingCycleId==c && actor.lifecycleState==.active) .workLeaseUnavailable
  let o ← Tx.read (fun s => (s.rows .leases).find? (fun l => l.workItemId==i &&
    l.actorInstanceId==work.actorInstanceId && l.lifecycleState==.active))
  let lease ← Tx.the o .workLeaseUnavailable
  let reservation ← (reserveAttemptBudget cmd cycle c amount).widen (by decide)
  let attempt ← Tx.insert Tbl.attempts (fun j =>
    {actorAttemptId := j,operatingCycleId := c,ticketId := work.ticketId,workItemId := i,
     workLeaseId := lease.workLeaseId,actorInstanceId := work.actorInstanceId,
     actorConfigurationRevisionId := actor.actorConfigurationRevisionId,
     executionProfileId := actor.executionProfileId,contextPackId := work.contextPackId,
     retryOfActorAttemptId := work.retryOfActorAttemptId,lifecycleState := .running,
     startedByCommandId := cmd,terminalByCommandId := none,validatedByCommandId := none})
    .invalidLifecycleTransition
  Tx.store Tbl.attemptBudgetReservations
    {actorAttemptId := attempt,budgetReservationId := reservation,
     projectId := ticket.projectId,ticketId := work.ticketId} .invalidLifecycleTransition
  moveWorkItem cmd i .running
  recordCoordinationProvenance cmd cycle c (some ticket.projectId)
  pure (attempt,reservation)

def startActorAttempt (cmd : CommandRowId) (g : ExpectedGeneration) (c : OperatingCycleId)
    (i : WorkItemId) (amount : UsdMicros) : Transition attemptTables EventBody := do
  let (attempt,reservation) ← startAttempt cmd g c i amount
  pure (.actorAttemptStarted attempt i reservation)

/-- Starts the attempt of one study obligation and records the claim in one step. -/
def claimStudyActorTaskAttemptLaunch (cmd : CommandRowId) (g : ExpectedGeneration)
    (obligation : StudyActorObligationId) (c : OperatingCycleId) (i : WorkItemId)
    (amount : UsdMicros) (epoch : SupervisorEpochId) (epochIdentity : SupervisorEpochIdentity)
    (workspace : NativeWorkspaceId) (path : CanonicalWorkspacePath) :
    Transition (.workspaces::.studyActorTaskAttemptLaunchClaims::attemptTables)
      EventBody := do
  let cycle ← coordinationCycle g c
  Tx.require (cycle.treatment==.pinnedPiSdkLiveV1) .executionProfileIneligible
  let active ← Tx.read (fun s =>
    (s.find .studyActorObligations obligation).any (·.lifecycleState==.active))
  Tx.require active .invalidLifecycleTransition
  let bound ← Tx.read (fun s =>
    (s.rows .studyActorRuntimeBindings).any (fun r => r.studyActorObligationId==obligation) ||
    (s.rows .studyActorTaskAttemptLaunchClaims).any (fun r =>
      r.studyActorObligationId==obligation))
  Tx.require (!bound) .invalidLifecycleTransition
  requireSupervisorEpoch epoch epochIdentity
  let _ ← registerWorkspace cmd workspace path sameWorkspaceName
  let work ← workItemRow i
  let actor ← actorInstanceRow work.actorInstanceId
  Tx.require (actor.operatingCycleId==c && actor.lifecycleState==.active &&
    work.lifecycleState==.claimed) .workLeaseUnavailable
  requireQualifiedProfile actor.executionProfileId
  let (attempt,reservation) ← (startAttempt cmd g c i amount).widen (by decide)
  let claim ← Tx.insert Tbl.studyActorTaskAttemptLaunchClaims (fun j =>
    {studyActorTaskAttemptLaunchId := j,studyActorObligationId := obligation,
     operatingCycleId := c,workItemId := i,actorAttemptId := attempt,
     budgetReservationId := reservation,executionProfileId := actor.executionProfileId,
     supervisorEpochId := epoch,supervisorEpochIdentity := epochIdentity.stored,
     nativeWorkspaceId := workspace.stored,canonicalWorkspacePath := path.stored,
     admissionGeneration := cycle.admissionGeneration,claimedByCommandId := cmd})
    .invalidLifecycleTransition
  pure (.studyActorTaskAttemptLaunchClaimed claim obligation c i attempt reservation
    actor.executionProfileId epoch cycle.admissionGeneration)

def allocateStudyActorWork (cmd : CommandRowId) (g : ExpectedGeneration) (run : StudyRunId)
    (pair : StudyRunPairOrdinal) (treatment : StudyTreatment) (phase : StudyPopulationPhase)
    (role : StudyRoleOrdinal) (c : OperatingCycleId) (i : WorkItemId) (amount : UsdMicros)
    (epoch : SupervisorEpochId) (epochIdentity : SupervisorEpochIdentity) :
    Transition [.leases,.workItems,.tickets,.coordinationCommandProvenance,
      .studyActorWorkAllocations] EventBody := do
  let cycle ← coordinationCycle g c
  Tx.require (cycle.treatment==.pinnedPiSdkLiveV1) .executionProfileIneligible
  Tx.require (amount≠.zero) .budgetCeilingExceeded
  let present ← Tx.read (fun s => (s.find .studyRuns run).any (fun r =>
    (r.lifecycleState==.ready || r.lifecycleState==.running) &&
    (s.rows .studyRunPairs).any (fun p => p.studyRunId==run && p.pairOrdinal==pair)))
  Tx.require present .invalidLifecycleTransition
  requireSupervisorEpoch epoch epochIdentity
  let work ← workItemRow i
  let actor ← actorInstanceRow work.actorInstanceId
  Tx.require (actor.operatingCycleId==c && actor.lifecycleState==.active &&
    work.lifecycleState==.ready) .workLeaseUnavailable
  requireQualifiedProfile actor.executionProfileId
  let duplicate ← Tx.read (fun s => (s.rows .studyActorWorkAllocations).any (fun r =>
    r.studyRunId==run && r.pairOrdinal==pair && r.treatment==treatment &&
      r.populationPhase==phase && r.roleOrdinal==role))
  Tx.require (!duplicate) .invalidLifecycleTransition
  let _ ← (claimWork cmd actor.principalId g c i).widen (by decide)
  let _ ← Tx.insert Tbl.studyActorWorkAllocations (fun j =>
    {studyActorWorkAllocationId := j,studyRunId := run,pairOrdinal := pair,
     treatment := treatment,populationPhase := phase,roleOrdinal := role,
     operatingCycleId := c,workItemId := i,reservationAmountMicros := amount,
     supervisorEpochId := epoch,supervisorEpochIdentity := epochIdentity.stored,
     admissionGeneration := cycle.admissionGeneration,allocatedByCommandId := cmd})
    .invalidLifecycleTransition
  pure (.studyActorWorkAllocated run pair treatment phase role c i amount epoch
    cycle.admissionGeneration)

def nativePinnedPiSdkV1 : ExecutionProfileId := ⟨2,Id.two_valid⟩

/-- Starts an admitted qualification cycle, reserves its budget and records the claim. -/
def claimNativeExecutionProfileQualificationLaunch (cmd : CommandRowId)
    (g : ExpectedGeneration) (c : OperatingCycleId) (amount : UsdMicros)
    (epoch : SupervisorEpochId) (epochIdentity : SupervisorEpochIdentity)
    (workspace : NativeWorkspaceId) (path : CanonicalWorkspacePath) :
    Transition [.workspaces,.operatingCycles,.operatingCycleAdmissions,.budgetReservations,
      .budgetEnvelopes,.budgetReservationCharges,
      .nativeExecutionProfileQualificationLaunchClaims] EventBody := do
  let cycle ← cycleForGeneration c g
  Tx.require (cycle.lifecycleState==.admitted && cycle.treatment==.piSdkQualificationV1)
    .qualificationTreatmentRestricted
  let claimed ← Tx.read (fun s => (s.rows .nativeExecutionProfileQualificationLaunchClaims).any
    (fun r => r.operatingCycleId==c))
  Tx.require (!claimed) .invalidLifecycleTransition
  let eligible ← Tx.read (fun s => (s.rows .executionProfiles).any (fun r =>
    r.executionProfileId==nativePinnedPiSdkV1 && r.profileKind==.nativePinnedPiSdkV1 &&
      r.readiness==.unqualified))
  Tx.require eligible .executionProfileIneligible
  Tx.require (amount≠.zero) .budgetCeilingExceeded
  requireSupervisorEpoch epoch epochIdentity
  let _ ← registerWorkspace cmd workspace path sameWorkspaceName
  transitionCycle cmd c .running cycle.admissionGeneration
  let _ ← Tx.update Tbl.operatingCycleAdmissions (fun r => r.operatingCycleId==c)
    (fun r => {r with startedByCommandId := some cmd}) .invalidLifecycleTransition (by decide)
    (OperatingCycleAdmissionRow.started_key cmd)
  let running ← cycleForGeneration c g
  Tx.require running.lifecycleState.admitsTaskWork .invalidLifecycleTransition
  let reservation ← (reserveOnEnvelopes cmd running c amount).widen (by decide)
  let claim ← Tx.insert Tbl.nativeExecutionProfileQualificationLaunchClaims (fun j =>
    {nativeExecutionProfileQualificationLaunchId := j,operatingCycleId := c,
     budgetReservationId := reservation,executionProfileId := nativePinnedPiSdkV1,
     supervisorEpochId := epoch,supervisorEpochIdentity := epochIdentity.stored,
     nativeWorkspaceId := workspace.stored,canonicalWorkspacePath := path.stored,
     admissionGeneration := cycle.admissionGeneration,claimedByCommandId := cmd})
    .invalidLifecycleTransition
  pure (.nativeExecutionProfileQualificationLaunchClaimed claim c reservation
    nativePinnedPiSdkV1 epoch cycle.admissionGeneration)

def ActorAttemptTerminalKind.leaseState : ActorAttemptTerminalKind → WorkLeaseState
  | .cancelled => .cancelled
  | _ => .released

def ActorAttemptTerminalKind.ticketState : ActorAttemptTerminalKind → TicketState
  | .succeeded => .submitted
  | .cancelled => .cancelled
  | .expired => .ready
  | .failed | .protocolFailed | .supervisorFailed => .failed

def attestActorAttemptTerminal (cmd : CommandRowId) (i : ActorAttemptId)
    (kind : ActorAttemptTerminalKind) :
    Transition [.actorAttemptTerminalFacts,.attempts,.leases,.workItems,.tickets,
      .coordinationCommandProvenance] EventBody := do
  let supervised ← Tx.read (fun s => (s.rows .nativeChildSpawnAdmissions).any (fun r =>
    r.owner==.pi (.actorAttempt i)))
  Tx.require (!supervised) .supervisedTerminalReceiptRequired
  let attempt ← actorAttemptRow i
  Tx.require (kind.allowedFrom attempt.lifecycleState) .actorAttemptNotTerminal
  Tx.store Tbl.actorAttemptTerminalFacts
    {actorAttemptId := i,terminalKind := kind,attestedByCommandId := cmd}
    .actorAttemptNotTerminal (by decide) actorAttemptTerminalFacts_keyed
  let _ ← Tx.update Tbl.attempts (fun r => r.actorAttemptId==i)
    (fun r => {r with lifecycleState := kind.state,terminalByCommandId := some cmd})
    .subjectNotFound
  let _ ← Tx.update Tbl.leases
    (fun r => r.workLeaseId==attempt.workLeaseId && r.lifecycleState==.active)
    (fun r => {r with lifecycleState := kind.leaseState,terminalByCommandId := some cmd})
    .subjectNotFound
  moveWorkItem cmd attempt.workItemId .settled
  moveTicket cmd attempt.ticketId kind.ticketState
  let ticket ← ticketRow attempt.ticketId
  let cycle ← cycleRow attempt.operatingCycleId
  recordCoordinationProvenance cmd cycle attempt.operatingCycleId (some ticket.projectId)
  pure (.actorAttemptTerminalAttested i kind)

def validateTicketAttempt (cmd : CommandRowId) (g : ExpectedGeneration) (c : OperatingCycleId)
    (i : ActorAttemptId) :
    Transition [.attempts,.ticketAcceptanceConditions,.tickets,.coordinationCommandProvenance]
      EventBody := do
  let cycle ← coordinationCycle g c
  let attempt ← actorAttemptRow i
  let ticket ← ticketRow attempt.ticketId
  Tx.require (attempt.operatingCycleId==c && attempt.lifecycleState==.succeeded &&
    ticket.lifecycleState==.submitted) .actorAttemptNotValidatable
  let pending ← Tx.read (fun s => (s.rows .deterministicExperiments).any (fun r =>
    r.ticketId==attempt.ticketId && r.lifecycleState==.registered))
  Tx.require (!pending) .evidenceAdmissionRequired
  let _ ← Tx.update Tbl.attempts (fun r => r.actorAttemptId==i)
    (fun r => {r with lifecycleState := .validated,validatedByCommandId := some cmd})
    .subjectNotFound
  let _ ← Tx.update Tbl.ticketAcceptanceConditions
    (fun r => r.ticketId==attempt.ticketId && r.lifecycleState==.pending)
    (fun r => {r with lifecycleState := .satisfied,satisfiedByCommandId := some cmd})
    .subjectNotFound
  moveTicket cmd attempt.ticketId .verified
  recordCoordinationProvenance cmd cycle c (some ticket.projectId)
  pure (.ticketAttemptValidated i attempt.ticketId)

def ActorAttemptState.isRetryable : ActorAttemptState → Bool
  | .failed | .cancelled | .expired | .protocolFailed | .supervisorFailed => true
  | _ => false

/-- Any failed attempt of a settled work item may be named, not only its last one. -/
def retryActorAttempt (cmd : CommandRowId) (g : ExpectedGeneration) (c : OperatingCycleId)
    (i : ActorAttemptId) :
    Transition [.workItems,.tickets,.coordinationCommandProvenance] EventBody := do
  let cycle ← coordinationCycle g c
  let attempt ← actorAttemptRow i
  let ticket ← ticketRow attempt.ticketId
  projectIsActive ticket.projectId
  Tx.require (attempt.operatingCycleId==c && attempt.lifecycleState.isRetryable)
    .invalidLifecycleTransition
  let work ← workItemRow attempt.workItemId
  Tx.require (work.lifecycleState==.settled) .workLeaseUnavailable
  let _ ← Tx.update Tbl.workItems (fun r => r.workItemId==attempt.workItemId)
    (fun r => {r with lifecycleState := .ready,retryOfActorAttemptId := some i,
                      lastTransitionCommandId := cmd}) .subjectNotFound
  moveTicket cmd attempt.ticketId .ready
  recordCoordinationProvenance cmd cycle c (some ticket.projectId)
  pure (.actorAttemptRetryPrepared i attempt.workItemId attempt.ticketId)

def completeTicket (cmd : CommandRowId) (g : ExpectedGeneration) (c : OperatingCycleId)
    (i : ActorAttemptId) :
    Transition [.tickets,.coordinationCommandProvenance] EventBody := do
  let cycle ← coordinationCycle g c
  let attempt ← actorAttemptRow i
  let ticket ← ticketRow attempt.ticketId
  Tx.require (attempt.operatingCycleId==c && attempt.lifecycleState==.validated &&
    ticket.lifecycleState==.verified) .actorAttemptNotValidatable
  let unsatisfied ← Tx.read (fun s => (s.rows .ticketAcceptanceConditions).any (fun r =>
    r.ticketId==attempt.ticketId && r.lifecycleState==.pending))
  Tx.require (!unsatisfied) .ticketAcceptanceConditionUnsatisfied
  moveTicket cmd attempt.ticketId .completed
  recordCoordinationProvenance cmd cycle c (some ticket.projectId)
  pure (.ticketCompleted attempt.ticketId i)

/-- Only a lease that no attempt has used can expire. -/
def expireWorkLease (cmd : CommandRowId) (i : WorkLeaseId) :
    Transition [.leases,.workItems,.tickets,.coordinationCommandProvenance] EventBody := do
  let lease ← Tx.get Tbl.leases i Rejection.subjectNotFound
  let work ← workItemRow lease.workItemId
  let actor ← actorInstanceRow lease.actorInstanceId
  Tx.require (lease.lifecycleState==.active) .workLeaseUnavailable
  let used ← Tx.read (fun s => (s.rows .attempts).any (fun r => r.workLeaseId==i))
  Tx.require (!used) .workLeaseUnavailable
  let _ ← Tx.update Tbl.leases (fun r => r.workLeaseId==i)
    (fun r => {r with lifecycleState := .expired,terminalByCommandId := some cmd})
    .subjectNotFound
  moveWorkItem cmd lease.workItemId .ready
  moveTicket cmd work.ticketId .ready
  let ticket ← ticketRow work.ticketId
  let cycle ← cycleRow actor.operatingCycleId
  recordCoordinationProvenance cmd cycle actor.operatingCycleId (some ticket.projectId)
  pure (.workLeaseExpired i lease.workItemId)

def cancelActorAttempt (cmd : CommandRowId) (i : ActorAttemptId)
    (reason : ActorAttemptCancellationReason) :
    Transition [.attempts,.coordinationCommandProvenance] EventBody := do
  let attempt ← actorAttemptRow i
  Tx.require (attempt.lifecycleState==.running) .invalidLifecycleTransition
  let _ ← Tx.update Tbl.attempts (fun r => r.actorAttemptId==i)
    (fun r => {r with lifecycleState := .cancellationRequested}) .subjectNotFound
  let ticket ← ticketRow attempt.ticketId
  let cycle ← cycleRow attempt.operatingCycleId
  recordCoordinationProvenance cmd cycle attempt.operatingCycleId (some ticket.projectId)
  pure (.actorAttemptCancellationRequested i reason)

def registerOutcomeObligation (cmd : CommandRowId) (g : ExpectedGeneration)
    (c : OperatingCycleId) (project : ProjectId) (obligation : OutcomeObligationText) :
    Transition [.outcomeObligations,.coordinationCommandProvenance] EventBody := do
  let cycle ← coordinationCycle g c
  projectIsActive project
  let i ← Tx.insert Tbl.outcomeObligations (fun i =>
    {outcomeObligationId := i,projectId := project,obligationText := obligation.stored,
     lifecycleState := .scheduled,scheduledByCommandId := cmd,resolvedByCommandId := none})
    .invalidLifecycleTransition
  recordCoordinationProvenance cmd cycle c (some project)
  pure (.outcomeObligationRegistered i project)

def resolveOutcomeObligation (cmd : CommandRowId) (g : ExpectedGeneration)
    (c : OperatingCycleId) (i : OutcomeObligationId)
    (disposition : OutcomeObligationDisposition) :
    Transition [.outcomeObligations,.coordinationCommandProvenance] EventBody := do
  let cycle ← coordinationCycle g c
  let obligation ← Tx.get Tbl.outcomeObligations i Rejection.subjectNotFound
  Tx.require (obligation.lifecycleState==.scheduled) .outcomeObligationOpen
  let _ ← Tx.update Tbl.outcomeObligations (fun r => r.outcomeObligationId==i)
    (fun r => {r with lifecycleState := disposition.state,resolvedByCommandId := some cmd})
    .subjectNotFound
  recordCoordinationProvenance cmd cycle c (some obligation.projectId)
  pure (.outcomeObligationResolved i disposition.state)

end Society.Kernel
