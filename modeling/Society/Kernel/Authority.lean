import Society.Kernel.Queries

namespace Society.Kernel
open Society.Relational

/-! Who may issue a command: the checks before a transition runs. -/

def CommandBody.requiredCapability : CommandBody → Capability
  | .createSocietyIdentity .. => .createSocietyIdentity
  | .installRootAuthorityOffice => .installRootAuthorityOffice
  | .installFoundingMission .. => .installFoundingMission
  | .appointInitialRootAuthority .. => .appointInitialRootAuthority
  | .setR0HardCeiling .. => .setR0HardCeiling
  | .bootstrapSociety => .bootstrapSociety
  | .proposeOperatingCycle .. => .proposeOperatingCycle
  | .admitOperatingCycle .. => .admitOperatingCycle
  | .startRootAuthorityOfficeSession .. => .startRootAuthorityOfficeSession
  | .recordOfficeSessionReady .. => .recordOfficeSessionReady
  | .recordOfficeSessionTerminal .. => .recordOfficeSessionTerminal
  | .openOfficeTurn .. => .openOfficeTurn
  | .settleOfficeTurn .. => .settleOfficeTurn
  | .quiesceOperatingCycle .. => .quiesceOperatingCycle
  | .recordCycleDrained .. => .recordCycleDrained
  | .resumeOperatingCycle .. => .resumeOperatingCycle
  | .reconcileOperatingCycle .. => .reconcileOperatingCycle
  | .closeOperatingCycle .. => .closeOperatingCycle
  | .reserveBudget .. => .reserveBudget
  | .reconcileBudget .. => .reconcileBudget
  | .requestCancellation .. => .requestCancellation
  | .reconcileCancellation .. => .reconcileCancellation
  | .closeCostPostmortem .. => .closeCostPostmortem
  | .createProject .. => .createProject
  | .charterProject .. => .charterProject
  | .transitionProject .. => .transitionProject
  | .completeProjectMilestone .. => .completeProjectMilestone
  | .reopenProject .. => .reopenProject
  | .createTicket .. => .createTicket
  | .transitionTicket .. => .transitionTicket
  | .addGraphObjectRevision .. => .addGraphObjectRevision
  | .commitGraphRevision .. => .commitGraphRevision
  | .addGraphEdge .. => .addGraphEdge
  | .createEpisode .. => .createEpisode
  | .transitionEpisode .. => .transitionEpisode
  | .reopenEpisode .. => .reopenEpisode
  | .requestAdversarialReview .. => .requestAdversarialReview
  | .assignAdversarialReviewer .. => .assignAdversarialReviewer
  | .submitReviewChallenge .. => .submitReviewChallenge
  | .respondToReviewChallenge .. => .respondToReviewChallenge
  | .dispositionReviewChallenge .. => .dispositionReviewChallenge
  | .resolveAdversarialReview .. => .resolveAdversarialReview
  | .triggerPostmortem .. => .triggerPostmortem
  | .recordPostmortemCausalClaim .. => .recordPostmortemCausalClaim
  | .proposePostmortemAction .. => .proposePostmortemAction
  | .closePostmortem .. => .closePostmortem
  | .registerActorConfiguration .. => .registerActorConfiguration
  | .registerContextPack .. => .registerContextPack
  | .admitActorInstance .. => .admitActorInstance
  | .admitTicket .. => .admitTicket
  | .registerWorkItem .. => .registerWorkItem
  | .claimWorkItem .. => .claimWorkItem
  | .startActorAttempt .. => .startActorAttempt
  | .attestActorAttemptTerminal .. => .attestActorAttemptTerminal
  | .validateTicketAttempt .. => .validateTicketAttempt
  | .retryActorAttempt .. => .retryActorAttempt
  | .completeTicket .. => .completeTicket
  | .expireWorkLease .. => .expireWorkLease
  | .cancelActorAttempt .. => .cancelActorAttempt
  | .registerOutcomeObligation .. => .registerOutcomeObligation
  | .resolveOutcomeObligation .. => .resolveOutcomeObligation
  | .recordContentSealReceipt .. => .recordContentSealReceipt
  | .registerContentObject .. => .registerContentObject
  | .registerForensicManifest .. => .registerForensicManifest
  | .registerDeterministicEvaluatorForensicManifest .. => .registerDeterministicEvaluatorForensicManifest
  | .registerDeterministicExperiment .. => .registerDeterministicExperiment
  | .recordDeterministicEvaluationReceipt .. => .recordDeterministicEvaluationReceipt
  | .admitDeterministicEvidence .. => .admitDeterministicEvidence
  | .finalizeDeterministicExperiment .. => .finalizeDeterministicExperiment
  | .admitDeterministicEvaluatorNativeChild .. => .admitDeterministicEvaluatorNativeChild
  | .recordDeterministicEvaluatorNativeChildSpawn .. => .recordDeterministicEvaluatorNativeChildSpawn
  | .openSupervisorEpoch .. => .openSupervisorEpoch
  | .admitPiChildSpawn .. => .admitPiChildSpawn
  | .recordInertChildSpawn .. => .recordInertChildSpawn
  | .recordPiAdapterReady .. => .recordPiAdapterReady
  | .authorizePiCreateSession .. => .authorizePiCreateSession
  | .recordPiCreateSessionDelivery .. => .recordPiCreateSessionDelivery
  | .recordPiSessionReady .. => .recordPiSessionReady
  | .recordPiAbortControlDelivery .. => .recordPiAbortControlDelivery
  | .recordChildStreamSeal .. => .recordChildStreamSeal
  | .recordChildProcessLiveness .. => .recordChildProcessLiveness
  | .recordProcessSignalReceipt .. => .recordProcessSignalReceipt
  | .recordDirectChildReap .. => .recordDirectChildReap
  | .recordChildRecovery .. => .recordChildRecovery
  | .finalizeChildProcess .. => .finalizeChildProcess
  | .beginCancellationPropagation .. => .beginCancellationPropagation
  | .reconcileCancellationPropagation .. => .reconcileCancellationPropagation
  | .recordNativeChildNotSpawned .. => .recordNativeChildNotSpawned
  | .authorizePiOfficeTurnPrompt .. => .authorizePiOfficeTurnPrompt
  | .recordPiOfficeTurnPromptDelivery .. => .recordPiOfficeTurnPromptDelivery
  | .recordPiOfficeTurnPromptAccepted .. => .recordPiOfficeTurnPromptAccepted
  | .recordPiOfficeTurnUsage .. => .recordPiOfficeTurnUsage
  | .recordPiOfficeTurnUsageFailure .. => .recordPiOfficeTurnUsageFailure
  | .recordPiOfficeTurnTerminal .. => .recordPiOfficeTurnTerminal
  | .authorizePiOfficeSessionDispose .. => .authorizePiOfficeSessionDispose
  | .recordPiOfficeSessionDisposeDelivery .. => .recordPiOfficeSessionDisposeDelivery
  | .recordPiOfficeSessionDisposeAccepted .. => .recordPiOfficeSessionDisposeAccepted
  | .recordPiOfficeSessionDisposeUsage .. => .recordPiOfficeSessionDisposeUsage
  | .recordPiOfficeSessionDisposeUsageFailure .. => .recordPiOfficeSessionDisposeUsageFailure
  | .recordPiOfficeSessionDisposed .. => .recordPiOfficeSessionDisposed
  | .authorizePiTaskAttemptPrompt .. => .authorizePiTaskAttemptPrompt
  | .recordPiTaskAttemptPromptDelivery .. => .recordPiTaskAttemptPromptDelivery
  | .recordPiTaskAttemptPromptAccepted .. => .recordPiTaskAttemptPromptAccepted
  | .recordPiTaskAttemptUsage .. => .recordPiTaskAttemptUsage
  | .recordPiTaskAttemptUsageFailure .. => .recordPiTaskAttemptUsageFailure
  | .recordPiTaskAttemptTerminal .. => .recordPiTaskAttemptTerminal
  | .authorizePiTaskAttemptSessionDispose .. => .authorizePiTaskAttemptSessionDispose
  | .recordPiTaskAttemptSessionDisposeDelivery .. => .recordPiTaskAttemptSessionDisposeDelivery
  | .recordPiTaskAttemptSessionDisposeAccepted .. => .recordPiTaskAttemptSessionDisposeAccepted
  | .recordPiTaskAttemptSessionDisposeUsage .. => .recordPiTaskAttemptSessionDisposeUsage
  | .recordPiTaskAttemptSessionDisposeUsageFailure .. => .recordPiTaskAttemptSessionDisposeUsageFailure
  | .recordPiTaskAttemptSessionDisposed .. => .recordPiTaskAttemptSessionDisposed
  | .qualifyNativeExecutionProfile .. => .qualifyNativeExecutionProfile
  | .startNativeExecutionProfileQualification .. => .startNativeExecutionProfileQualification
  | .claimStudyActorTaskAttemptLaunch .. => .claimStudyActorTaskAttemptLaunch
  | .claimNativeExecutionProfileQualificationLaunch .. => .claimNativeExecutionProfileQualificationLaunch
  | .allocateStudyActorWork .. => .allocateStudyActorWork
  | .studyTransition .. => .runStudyTransition

/-- Commands that carry no admission generation; every other one has to name it. -/
def CommandBody.requiresGeneration : CommandBody → Bool
  | .createSocietyIdentity .. | .installRootAuthorityOffice | .installFoundingMission ..
  | .appointInitialRootAuthority .. | .setR0HardCeiling .. | .bootstrapSociety
  | .proposeOperatingCycle .. | .settleOfficeTurn .. | .recordCycleDrained ..
  | .reconcileBudget .. | .reconcileCancellation .. | .registerActorConfiguration ..
  | .attestActorAttemptTerminal .. | .expireWorkLease .. | .cancelActorAttempt ..
  | .recordContentSealReceipt .. | .registerContentObject .. | .openSupervisorEpoch ..
  | .studyTransition .. => false
  | _ => true

section Fence

/-- The cycle that the request names itself. -/
def CommandBody.directCycle : CommandBody → Option OperatingCycleId
  | .admitOperatingCycle c | .startRootAuthorityOfficeSession c | .quiesceOperatingCycle c
  | .recordCycleDrained c | .resumeOperatingCycle c | .reconcileOperatingCycle c
  | .closeOperatingCycle c | .reserveBudget c .. | .requestCancellation c ..
  | .createProject c .. | .charterProject c .. | .transitionProject c ..
  | .completeProjectMilestone c .. | .reopenProject c .. | .createTicket c ..
  | .transitionTicket c .. | .addGraphObjectRevision c .. | .commitGraphRevision c ..
  | .addGraphEdge c .. | .createEpisode c .. | .transitionEpisode c .. | .reopenEpisode c ..
  | .requestAdversarialReview c .. | .assignAdversarialReviewer c ..
  | .submitReviewChallenge c .. | .respondToReviewChallenge c ..
  | .dispositionReviewChallenge c .. | .resolveAdversarialReview c .. | .triggerPostmortem c ..
  | .recordPostmortemCausalClaim c .. | .proposePostmortemAction c .. | .closePostmortem c ..
  | .registerContextPack c .. | .admitActorInstance c .. | .admitTicket c ..
  | .registerWorkItem c .. | .claimWorkItem c .. | .startActorAttempt c ..
  | .validateTicketAttempt c .. | .retryActorAttempt c .. | .completeTicket c ..
  | .registerOutcomeObligation c .. | .resolveOutcomeObligation c ..
  | .registerForensicManifest c .. | .registerDeterministicEvaluatorForensicManifest c ..
  | .registerDeterministicExperiment c .. | .recordDeterministicEvaluationReceipt c ..
  | .admitDeterministicEvidence c .. | .finalizeDeterministicExperiment c ..
  | .admitDeterministicEvaluatorNativeChild c .. | .qualifyNativeExecutionProfile c ..
  | .startNativeExecutionProfileQualification c | .claimStudyActorTaskAttemptLaunch _ c ..
  | .claimNativeExecutionProfileQualificationLaunch c .. | .allocateStudyActorWork _ _ _ _ _ c .. => some c
  | _ => none

def cycleOfAttempt (s : Store) (i : ActorAttemptId) : Option OperatingCycleId :=
  (s.find .attempts i).map (·.operatingCycleId)

/-- The cycle that the subject of the request belongs to. -/
def CommandBody.subjectCycle (s : Store) : CommandBody → Option OperatingCycleId
  | .recordOfficeSessionReady i | .recordOfficeSessionTerminal i _ | .openOfficeTurn i _ =>
    cycleOfSession s i
  | .settleOfficeTurn i _ =>
    (s.find .officeTurns i).bind (fun t => cycleOfSession s t.rootAuthorityOfficeSessionId)
  | .reconcileBudget i _ => (s.find .budgetReservations i).map (·.operatingCycleId)
  | .reconcileCancellation i => (s.find .cancellationRequests i).map (·.operatingCycleId)
  | .closeCostPostmortem i _ => (s.find .costPostmortems i).map (·.operatingCycleId)
  | .attestActorAttemptTerminal i _ | .cancelActorAttempt i _
  | .authorizePiTaskAttemptPrompt i .. | .recordPiTaskAttemptPromptDelivery i ..
  | .recordPiTaskAttemptPromptAccepted i .. | .recordPiTaskAttemptUsage i ..
  | .recordPiTaskAttemptUsageFailure i .. | .recordPiTaskAttemptTerminal i ..
  | .authorizePiTaskAttemptSessionDispose i _ | .recordPiTaskAttemptSessionDisposeDelivery i _
  | .recordPiTaskAttemptSessionDisposeAccepted i ..
  | .recordPiTaskAttemptSessionDisposeUsage i ..
  | .recordPiTaskAttemptSessionDisposeUsageFailure i ..
  | .recordPiTaskAttemptSessionDisposed i .. => cycleOfAttempt s i
  | .expireWorkLease i => (s.find .leases i).bind (fun l => cycleOfActor s l.actorInstanceId)
  | _ => none

def bootstrapPrincipal : PrincipalId := ⟨1,Id.one_valid⟩

def kernelPrincipal : PrincipalId := ⟨2,Id.two_valid⟩

/-- What the kernel service may do in a qualification cycle. -/
def CommandBody.servesQualification : CommandBody → Bool
  | .recordCycleDrained .. | .quiesceOperatingCycle .. | .reconcileOperatingCycle ..
  | .closeOperatingCycle .. | .recordOfficeSessionReady .. | .recordOfficeSessionTerminal ..
  | .settleOfficeTurn .. | .reconcileBudget .. | .reconcileCancellation ..
  | .attestActorAttemptTerminal .. | .expireWorkLease .. | .cancelActorAttempt ..
  | .reserveBudget .. | .admitPiChildSpawn .. | .recordInertChildSpawn ..
  | .recordPiAdapterReady .. | .authorizePiCreateSession .. | .recordPiCreateSessionDelivery ..
  | .recordPiSessionReady .. | .recordChildStreamSeal .. | .recordChildProcessLiveness ..
  | .recordProcessSignalReceipt .. | .recordDirectChildReap .. | .finalizeChildProcess ..
  | .startNativeExecutionProfileQualification .. | .qualifyNativeExecutionProfile ..
  | .claimNativeExecutionProfileQualificationLaunch .. => true
  | _ => false

def CommandBody.admitsCycle : CommandBody → Bool
  | .admitOperatingCycle _ => true
  | _ => false

def fencedInCycle (s : Store) (p : PrincipalId) (body : CommandBody) : Bool :=
  ((body.directCycle.or (body.subjectCycle s)).bind (s.find .operatingCycles)).any (fun c =>
    c.treatment==.piSdkQualificationV1 &&
    !(if p=bootstrapPrincipal then body.admitsCycle
      else p==kernelPrincipal && body.servesQualification))

/-- The restrictions of the qualification treatment. -/
def qualificationTreatmentFencesRequest (s : Store) (p : PrincipalId) : CommandBody → Bool
  | .proposeOperatingCycle .piSdkQualificationV1 _ => p≠bootstrapPrincipal
  | .registerActorConfiguration .. =>
    (s.rows .operatingCycles).any (fun c =>
      c.treatment==.piSdkQualificationV1 && c.lifecycleState.isNonterminal) &&
    p≠bootstrapPrincipal && p≠kernelPrincipal
  | body => fencedInCycle s p body

end Fence

section Grants

def grantIsLive (s : Store) (g : CapabilityGrantRow) : Bool :=
  match g.officeOccupancyId,g.actorInstanceId with
  | some i,none => (s.find .officeOccupancies i).any (fun o =>
      o.active && o.principalId==g.principalId)
  | none,some i => (s.find .actorInstances i).any (fun a => a.lifecycleState==.active &&
      a.principalId==g.principalId && (s.find .principals a.principalId).any (·.active))
  | _,_ => false

def occupancyOfCycle (s : Store) (c : OperatingCycleId) : Except Rejection OfficeOccupancyId :=
  match s.find .operatingCycles c with
  | some r => .ok r.officeOccupancyId
  | none => .error .subjectNotFound

def occupancyOfSession (s : Store) (i : RootAuthorityOfficeSessionId) :
    Except Rejection OfficeOccupancyId :=
  match s.find .rootAuthorityOfficeSessions i with
  | some r => .ok r.officeOccupancyId
  | none => .error .subjectNotFound

/-- The occupancy whose holder alone may issue the command. -/
def commandTargetOccupancy (s : Store) : CommandBody → Except Rejection (Option OfficeOccupancyId)
  | .proposeOperatingCycle .. =>
    match (s.rows .societyBootstraps).head? with
    | some r => .ok (some r.officeOccupancyId)
    | none => .error .foundingInvariant
  | .admitOperatingCycle c | .startRootAuthorityOfficeSession c | .quiesceOperatingCycle c
  | .resumeOperatingCycle c | .reconcileOperatingCycle c | .closeOperatingCycle c
  | .reserveBudget c .. | .requestCancellation c .. | .createProject c .. | .charterProject c ..
  | .transitionProject c .. | .completeProjectMilestone c .. | .reopenProject c ..
  | .createTicket c .. | .transitionTicket c .. | .addGraphObjectRevision c ..
  | .commitGraphRevision c .. | .addGraphEdge c .. | .createEpisode c ..
  | .transitionEpisode c .. | .reopenEpisode c .. | .requestAdversarialReview c ..
  | .assignAdversarialReviewer c .. | .submitReviewChallenge c ..
  | .respondToReviewChallenge c .. | .dispositionReviewChallenge c ..
  | .resolveAdversarialReview c .. | .triggerPostmortem c .. | .recordPostmortemCausalClaim c ..
  | .proposePostmortemAction c .. | .closePostmortem c .. | .registerContextPack c ..
  | .admitActorInstance c .. | .admitTicket c .. | .registerWorkItem c ..
  | .startActorAttempt c .. | .validateTicketAttempt c .. | .retryActorAttempt c ..
  | .completeTicket c .. | .registerOutcomeObligation c .. | .resolveOutcomeObligation c ..
  | .registerDeterministicExperiment c .. | .finalizeDeterministicExperiment c .. =>
    (occupancyOfCycle s c).map some
  | .openOfficeTurn i _ => (occupancyOfSession s i).map some
  | .closeCostPostmortem i _ =>
    match s.find .costPostmortems i with
    | some r => (occupancyOfCycle s r.operatingCycleId).map some
    | none => .error .subjectNotFound
  | _ => .ok none

def capabilityGrant (s : Store) (r : CommandRequest) : Option CapabilityGrantRow :=
  (s.find .capabilityGrants r.capabilityGrantId).filter (fun g =>
    g.principalId==r.principalId && g.capabilityKind==r.capability)

/-- An office holder or an actor acts through a live grant, and an office holder only on
the cycles of its own occupancy. -/
def officeAuthority (s : Store) (r : CommandRequest) (g : CapabilityGrantRow) :
    Except Rejection Unit :=
  if r.principalId=bootstrapPrincipal ∨ r.principalId=kernelPrincipal then .ok ()
  else if grantIsLive s g then
    match commandTargetOccupancy s r.body with
    | .error e => .error e
    | .ok none => .ok ()
    | .ok (some o) =>
      if g.officeOccupancyId=some o then .ok () else .error .capabilityNoLongerActive
  else .error .capabilityNoLongerActive

def ExpectedGeneration.isExact : ExpectedGeneration → Bool
  | .exact _ => true
  | .notApplicable => false

/-- The grant a request acts on, or why it may not. -/
def authorize (s : Store) (r : CommandRequest) : Except Rejection CapabilityGrantRow :=
  if r.capability≠r.body.requiredCapability then .error .capabilityMismatch
  else if r.body.requiresGeneration≠r.expectedGeneration.isExact then
    .error .invalidExpectedGeneration
  else match capabilityGrant s r with
    | none => .error .capabilityNotGranted
    | some g =>
      if g.grantState≠.active then .error .capabilityNoLongerActive
      else match officeAuthority s r g with
        | .error e => .error e
        | .ok () =>
          if qualificationTreatmentFencesRequest s r.principalId r.body then
            .error .qualificationTreatmentRestricted
          else .ok g

end Grants
end Society.Kernel
