import Society.Kernel.Values

namespace Society.Kernel

/-- One capability for each command; the grant names it. -/
inductive Capability
  | createSocietyIdentity | installRootAuthorityOffice | installFoundingMission
  | appointInitialRootAuthority | setR0HardCeiling | bootstrapSociety | proposeOperatingCycle
  | admitOperatingCycle | quiesceOperatingCycle | resumeOperatingCycle | reconcileOperatingCycle
  | closeOperatingCycle | startRootAuthorityOfficeSession | openOfficeTurn | requestCancellation
  | reserveBudget | reconcileBudget | recordCycleDrained | recordOfficeSessionReady
  | settleOfficeTurn | reconcileCancellation | recordOfficeSessionTerminal | closeCostPostmortem
  | createProject | charterProject | transitionProject | completeProjectMilestone | reopenProject
  | createTicket | transitionTicket | addGraphObjectRevision | commitGraphRevision | addGraphEdge
  | createEpisode | transitionEpisode | reopenEpisode | requestAdversarialReview
  | submitReviewChallenge | respondToReviewChallenge | dispositionReviewChallenge
  | resolveAdversarialReview | triggerPostmortem | recordPostmortemCausalClaim
  | proposePostmortemAction | closePostmortem | assignAdversarialReviewer
  | registerActorConfiguration | registerContextPack | admitActorInstance | admitTicket
  | registerWorkItem | claimWorkItem | startActorAttempt | attestActorAttemptTerminal
  | validateTicketAttempt | retryActorAttempt | completeTicket | expireWorkLease
  | cancelActorAttempt | registerOutcomeObligation | resolveOutcomeObligation
  | recordContentSealReceipt | registerContentObject | registerForensicManifest
  | registerDeterministicExperiment | recordDeterministicEvaluationReceipt
  | admitDeterministicEvidence | finalizeDeterministicExperiment | admitPiChildSpawn
  | recordInertChildSpawn | recordPiAdapterReady | authorizePiCreateSession
  | recordPiCreateSessionDelivery | recordPiSessionReady | recordChildStreamSeal
  | recordChildProcessLiveness | recordProcessSignalReceipt | recordDirectChildReap
  | recordChildRecovery | finalizeChildProcess | beginCancellationPropagation
  | reconcileCancellationPropagation | openSupervisorEpoch | recordPiAbortControlDelivery
  | recordNativeChildNotSpawned | authorizePiOfficeTurnPrompt | recordPiOfficeTurnPromptDelivery
  | recordPiOfficeTurnPromptAccepted | recordPiOfficeTurnUsage | recordPiOfficeTurnUsageFailure
  | recordPiOfficeTurnTerminal | authorizePiOfficeSessionDispose
  | recordPiOfficeSessionDisposeDelivery | recordPiOfficeSessionDisposeAccepted
  | recordPiOfficeSessionDisposeUsage | recordPiOfficeSessionDisposeUsageFailure
  | recordPiOfficeSessionDisposed | admitDeterministicEvaluatorNativeChild
  | recordDeterministicEvaluatorNativeChildSpawn | registerDeterministicEvaluatorForensicManifest
  | runStudyTransition | authorizePiTaskAttemptPrompt | recordPiTaskAttemptPromptDelivery
  | recordPiTaskAttemptPromptAccepted | recordPiTaskAttemptUsage
  | recordPiTaskAttemptUsageFailure | recordPiTaskAttemptTerminal
  | authorizePiTaskAttemptSessionDispose | recordPiTaskAttemptSessionDisposeDelivery
  | recordPiTaskAttemptSessionDisposeAccepted | recordPiTaskAttemptSessionDisposeUsage
  | recordPiTaskAttemptSessionDisposeUsageFailure | recordPiTaskAttemptSessionDisposed
  | qualifyNativeExecutionProfile | startNativeExecutionProfileQualification
  | claimStudyActorTaskAttemptLaunch | claimNativeExecutionProfileQualificationLaunch
  | allocateStudyActorWork
  deriving DecidableEq

inductive MissionPrincipleKind
  | purpose | evidence | boundary | revision
  deriving DecidableEq

inductive PrincipalKind
  | bootstrap | kernelService | actor | user
  deriving DecidableEq

inductive OfficeKind
  | rootAuthorityOffice
  deriving DecidableEq

inductive OperatingCycleState
  | proposed | admitted | running | quiescing | drained | reconciling | closed | cancelling
  | reaping | cancelled | failed
  deriving DecidableEq

inductive OperatingCycleTreatment
  | piSdkQualificationV1 | pinnedPiSdkLiveV1 | deterministicPiHostFixtureV1
  | deterministicEvaluatorFixtureV1
  deriving DecidableEq

inductive ProjectState
  | proposed | challenged | chartered | active | paused | observing | closed | terminated
  | reopened
  deriving DecidableEq

inductive ProjectMilestoneState
  | pending | completed
  deriving DecidableEq

inductive TicketState
  | draft | admitted | ready | claimed | submitted | verified | completed | changesRequested
  | expired | cancelled | failed
  deriving DecidableEq

inductive GraphObjectKind
  | observation | hypothesis
  deriving DecidableEq

inductive GraphRevisionBody
  | observation (observation : ObservationRevisionText)
  | hypothesis (hypothesis : HypothesisRevisionText)
  deriving DecidableEq

inductive GraphRevisionState
  | draft | committed
  deriving DecidableEq

inductive GraphEdgeKind
  | supports | challenges
  deriving DecidableEq

inductive EpisodeState
  | framed | admitted | investigating | prototypeDeliberating | prototyping | candidateValidating
  | deliveryDeliberating | deliveryAuthorized | materializing | observing | learning | closed
  | closedNoAction | closedNoDelivery | abandoned | reverted | reopened
  deriving DecidableEq

inductive AdversarialReviewState
  | requested | assigned | active | findingsSubmitted | responsesDue | resolved | acceptedRisk
  | superseded | escalated
  deriving DecidableEq

inductive ActorModelPolicy
  | pinnedDeepseekV4FlashHigh | pinnedOpenRouterLing26FlashOff
  deriving DecidableEq

inductive DevelopmentalAttractor
  | explore | build | measure | challenge | synthesize | integrate | remember | coordinate
  deriving DecidableEq

inductive ActorConfigurationState
  | active | retired
  deriving DecidableEq

inductive ActorInstanceState
  | active | retired
  deriving DecidableEq

inductive ExecutionProfileKind
  | deterministicPiHostProcessDoubleV1 | nativePinnedPiSdkV1
  | deterministicEvaluatorProcessFixtureV1
  deriving DecidableEq

inductive ExecutionProfileReadiness
  | deterministicFixtureOnly | unqualified | qualifiedForLiveUse
  deriving DecidableEq

inductive ContextPackPurpose
  | ticketExecution | independentReview
  deriving DecidableEq

inductive WorkItemKind
  | ticketExecution | independentReview
  deriving DecidableEq

inductive WorkItemState
  | ready | claimed | running | settled | cancelled
  deriving DecidableEq

inductive WorkLeaseState
  | active | released | expired | cancelled
  deriving DecidableEq

inductive PiChildOwner
  | actorAttempt (value : ActorAttemptId)
  | rootAuthorityOfficeSession (value : RootAuthorityOfficeSessionId)
  | nativeExecutionProfileQualification (value : OperatingCycleId)
  deriving DecidableEq

inductive NativeChildSpawnAdmissionState
  | admitted | spawned | invalidated
  deriving DecidableEq

inductive ChildProcessState
  | spawned | running | cancellationRequested | directChildReaped | recoveryContainmentRequired
  | lostParentage | containmentFailed | finalized
  deriving DecidableEq

inductive PiChildSessionState
  | inertSpawned | adapterReady | createAuthorized | createDelivered | sessionReady
  deriving DecidableEq

inductive PiOfficeTurnDisposition
  | completed | length | error | aborted | failed | protocolFailed
  deriving DecidableEq

inductive PiOfficeTurnAssistantOutcome
  | observedStop | observedLength | observedError | observedAborted | sdkPromiseRejected
  | missingFinalAssistantOutcome
  deriving DecidableEq

inductive PiOfficeTurnTerminalEvidence
  | observedAssistant
      (agentSettledSequence : PiProtocolSequence) (finalAccountingSequence : PiProtocolSequence)
  | unavailableAssistant (finalKnownUsageSequence : PiProtocolSequence)
  deriving DecidableEq

inductive PiOfficeTurnTranscriptDisposition
  | deferredUntilOfficeSessionDispose
  deriving DecidableEq

inductive PiOfficeSessionFirstUserPromptReceipt
  | absent
  | verified (digest : Blake3Digest)
  deriving DecidableEq

inductive PiOfficeSessionTranscriptReceipt
  | materialized
      (sessionFile : CanonicalPiSessionTranscriptPath) (sessionFileDigest : Blake3Digest)
      (transcriptContentObjectId : ContentObjectId)
      (firstUserPrompt : PiOfficeSessionFirstUserPromptReceipt)
  | unmaterializedNoPrompt (sessionFile : CanonicalPiSessionTranscriptPath)
  deriving DecidableEq

inductive PiOfficeSessionDisposeBudgetDisposition
  | reconciled (observedCumulativeMicroUsd : UsdMicros)
  | frozen (cancellationRequestId : CancellationRequestId) (postmortemId : CostPostmortemId)
  deriving DecidableEq

inductive PiOfficeTurnUsageUnknownReason
  | missingFinalUsageSnapshot | boundaryStreamInterrupted | terminalEvidenceMissing
  deriving DecidableEq

inductive PiOfficeTurnUsageUnavailableReason
  | invalidSdkUsage | usageRegressed | usageInconsistent
  deriving DecidableEq

inductive PiOfficeTurnUsageFailure
  | unknown (value : PiOfficeTurnUsageUnknownReason)
  | unavailable (value : PiOfficeTurnUsageUnavailableReason)
  deriving DecidableEq

inductive PiTaskAttemptDisposition
  | completed | length | error | aborted | failed | protocolFailed
  deriving DecidableEq

inductive PiTaskAttemptAssistantOutcome
  | observedStop | observedLength | observedError | observedAborted | sdkPromiseRejected
  | missingFinalAssistantOutcome
  deriving DecidableEq

inductive PiTaskAttemptTerminalEvidence
  | observedAssistant
      (agentSettledSequence : PiProtocolSequence) (finalAccountingSequence : PiProtocolSequence)
  | unavailableAssistant (finalKnownUsageSequence : PiProtocolSequence)
  deriving DecidableEq

inductive PiTaskAttemptTranscriptDisposition
  | deferredUntilTaskAttemptSessionDispose
  deriving DecidableEq

inductive PiTaskAttemptFirstUserPromptReceipt
  | absent
  | verified (digest : Blake3Digest)
  deriving DecidableEq

inductive PiTaskAttemptSessionTranscriptReceipt
  | materialized
      (sessionFile : CanonicalPiSessionTranscriptPath) (sessionFileDigest : Blake3Digest)
      (transcriptContentObjectId : ContentObjectId)
      (firstUserPrompt : PiTaskAttemptFirstUserPromptReceipt)
  | unmaterializedNoPrompt (sessionFile : CanonicalPiSessionTranscriptPath)
  deriving DecidableEq

inductive PiTaskAttemptSessionDisposeBudgetDisposition
  | reconciled (observedCumulativeMicroUsd : UsdMicros)
  | frozen (cancellationRequestId : CancellationRequestId) (postmortemId : CostPostmortemId)
  deriving DecidableEq

inductive PiTaskAttemptUsageUnknownReason
  | missingFinalUsageSnapshot | boundaryStreamInterrupted | terminalEvidenceMissing
  deriving DecidableEq

inductive PiTaskAttemptUsageUnavailableReason
  | invalidSdkUsage | usageRegressed | usageInconsistent
  deriving DecidableEq

inductive PiTaskAttemptUsageFailure
  | unknown (value : PiTaskAttemptUsageUnknownReason)
  | unavailable (value : PiTaskAttemptUsageUnavailableReason)
  deriving DecidableEq

inductive ChildStreamKind
  | admittedControl | physicalStdin | stdout | stderr
  deriving DecidableEq

inductive ChildStreamSealCompleteness
  | complete | prefixBounded | countOverflow
  deriving DecidableEq

inductive ProcessGroupLiveness
  | present | absent | inaccessible
  deriving DecidableEq

inductive ProcessSignalAction
  | terminate | kill | lingeringGroupKill
  deriving DecidableEq

inductive PiAbortControlWriteOutcome
  | fullyWritten | pipeClosedBeforeWrite | writeFailed | partialWriteDiscarded
  deriving DecidableEq

inductive ProcessSignalDelivery
  | delivered | absentBeforeSignal | absentDuringSignal | inaccessible
  deriving DecidableEq

inductive ProcessSignalCause
  | cancellationPropagation (value : CancellationPropagationId)
  | automaticBoundaryContainment
  deriving DecidableEq

inductive DirectChildWaitStatus
  | exited (exitCode : ProcessExitCode)
  | signaled (signalNumber : ProcessSignalNumber)
  | unknown
  deriving DecidableEq

inductive ChildRecoveryObservation
  | parentageLost
  deriving DecidableEq

inductive NativeChildNotSpawnedReason
  | cancelledBeforeSpawn | workspacePreparationFailed | artifactQualificationFailed
  | nativeSpawnFailed
  deriving DecidableEq

inductive ChildTerminalDisposition
  | exited | terminated | killed | supervisionLost | containmentFailed
  deriving DecidableEq

inductive CancellationPropagationState
  | propagating | reconciled | containmentFailed
  deriving DecidableEq

inductive CancellationPropagationTargetDisposition
  | notRunning | awaitingChildReceipt | exited | terminated | killed | containmentFailed
  | supervisionLost
  deriving DecidableEq

inductive ActorAttemptState
  | running | cancellationRequested | succeeded | failed | cancelled | expired | protocolFailed
  | supervisorFailed | validated
  deriving DecidableEq

inductive ContentMediaSchemaContract
  | deterministicEvaluatorV1 | deterministicInputManifestV1 | deterministicEvaluatorOutputV1
  deriving DecidableEq

inductive EvaluatorExecutionContract
  | directExecutableFixedInputManifestV1
  deriving DecidableEq

inductive EvaluatorOutputContract
  | exitZeroCanonicalObservationV1
  deriving DecidableEq

inductive RetentionAccessClass
  | forensicRestricted | projectScoped
  deriving DecidableEq

inductive ForensicManifestCapturePolicy
  | deterministicExperimentEvaluatorV1
  deriving DecidableEq

inductive DeterministicExperimentState
  | registered | evidenceAdmitted | closed | failed | cancelled
  deriving DecidableEq

inductive EvidenceSemanticRole
  | deterministicObservation
  deriving DecidableEq

inductive EvidenceApplicability
  | testsTargetHypothesis
  deriving DecidableEq

inductive EvidenceLimitationKind
  | applicationSemanticsUninterpreted
  deriving DecidableEq

inductive ActorAttemptTerminalKind
  | succeeded | failed | cancelled | expired | protocolFailed | supervisorFailed
  deriving DecidableEq

inductive ActorAttemptCancellationReason
  | rootAuthorityRequested | cycleCancellation | leaseContainment
  deriving DecidableEq

inductive OutcomeObligationState
  | scheduled | satisfied | waived
  deriving DecidableEq

inductive OutcomeObligationDisposition
  | satisfied | waived
  deriving DecidableEq

inductive ReviewChallengeSeverity
  | low | moderate | high | critical
  deriving DecidableEq

inductive ReviewChallengeResponseState
  | pending | responded
  deriving DecidableEq

inductive ReviewDispositionKind
  | addressed | rejectedWithDissentPreserved | acceptedRisk
  deriving DecidableEq

inductive ReviewResolutionKind
  | resolved | acceptedRisk
  deriving DecidableEq

inductive PostmortemState
  | triggered | investigating | closed
  deriving DecidableEq

inductive PostmortemCausalClaimKind
  | contributingCondition | counterfactual | containment
  deriving DecidableEq

inductive PostmortemActionKind
  | createFollowUpTicket | changePolicyProposal
  deriving DecidableEq

inductive OfficeSessionState
  | reserved | starting | ready | turnActive | quiescing | processEnded | evidenceSealing
  | closed | cancelling | cancelled | failed
  deriving DecidableEq

inductive OfficeTurnState
  | active | settled | cancelled | failed
  deriving DecidableEq

inductive OfficeTurnPurpose
  | ordinaryWork | recovery | cancellation | closure
  deriving DecidableEq

inductive OfficeSessionTerminalState
  | closed | cancelled | failed
  deriving DecidableEq

inductive CancellationMode
  | quiesce | gracefulCancel | emergencyStop
  deriving DecidableEq

inductive CancellationState
  | requested | accepted | propagating | awaitingGrace | terminating | killing | reconciling
  | completed | containmentFailed
  deriving DecidableEq

inductive BudgetReservationState
  | reserved | reconciled | frozen
  deriving DecidableEq

inductive CostPostmortemCause
  | knownOverrun | unknownCost | unavailableCost
  deriving DecidableEq

inductive CostPostmortemResolution
  | conservativeFullReservation | chargeObservedOverrun
  deriving DecidableEq

inductive CostPostmortemState
  | opened | closed
  deriving DecidableEq

inductive CostUnknownReason
  | providerDidNotReport | adapterStreamInterrupted | reconciliationMismatch
  deriving DecidableEq

inductive CostUnavailableReason
  | providerUnavailable | credentialUnavailable | qualificationRejected
  | adapterAccountingUnavailable
  deriving DecidableEq

inductive CostObservation
  | known (value : UsdMicros)
  | unknown (value : CostUnknownReason)
  | unavailable (value : CostUnavailableReason)
  deriving DecidableEq

inductive BudgetFreezeReason
  | knownOverrun (observed : UsdMicros) (reserved : UsdMicros)
  | unknown (value : CostUnknownReason)
  | unavailable (value : CostUnavailableReason)
  deriving DecidableEq

inductive ExpectedGeneration
  | notApplicable
  | exact (value : AdmissionGeneration)
  deriving DecidableEq

inductive StudyRunLifecycleState
  | pairing | ready | running | completed
  deriving DecidableEq

inductive StudyEpisodeState
  | admitted | sourceActive | sourceReconciled | successorAdmitted | correctionReleased
  | successorActive | closed
  deriving DecidableEq

inductive StudyPopulationPhase
  | source | successor
  deriving DecidableEq

inductive StudyTreatment
  | retained | reset
  deriving DecidableEq

inductive ForumLifecycle
  | opened | readOnly | closed
  deriving DecidableEq

inductive ForumThreadLifecycle
  | opened | locked | closed
  deriving DecidableEq

inductive ForumMessageKind
  | finding | question | challenge | correction | synthesis
  deriving DecidableEq

inductive ForumPublicationState
  | published | retracted
  deriving DecidableEq

inductive StudyMeasurementStatus
  | observed | unavailable | invalidated
  deriving DecidableEq

inductive StudyActorObligationState
  | active | completed | failed
  deriving DecidableEq

inductive StudyActorRuntimeBindingState
  | bound | reconciled | recoverySettled
  deriving DecidableEq

inductive StudyActorTaskAttemptRecoveryAccountingState
  | unknown
  deriving DecidableEq

inductive NativeChildOwner
  | pi (owner : PiChildOwner)
  | deterministicEvaluator (deterministicExperimentId : DeterministicExperimentId)
      (evaluatorRevisionId : EvaluatorRevisionId) (inputManifestId : InputManifestId)
  deriving DecidableEq

inductive StudyActorRuntimeOwner
  | taskAttempt (value : ActorAttemptId)
  | rootAuthorityOfficeSession (value : RootAuthorityOfficeSessionId)
  deriving DecidableEq

/-- The three owner columns of a cancellation target, of which one is set. -/
inductive CancellationTargetOwner
  | actorAttempt (value : ActorAttemptId)
  | rootAuthorityOfficeSession (value : RootAuthorityOfficeSessionId)
  | deterministicExperiment (value : DeterministicExperimentId)
  deriving DecidableEq

/-- The two nullable columns of `budget_envelope_constraints`, of which one is set. -/
inductive BudgetScope
  | society (value : SocietyId)
  | cycle (value : OperatingCycleId)
  deriving DecidableEq

inductive CapabilityGrantOrigin
  | compiledBootstrap | ledgerCommand | compiledKernelService
  deriving DecidableEq

inductive CapabilityGrantState
  | active | consumed
  deriving DecidableEq

inductive SocietyState
  | identified | bootstrapped
  deriving DecidableEq

inductive TicketAcceptanceConditionState
  | pending | satisfied
  deriving DecidableEq

inductive Rejection
  | capabilityMismatch | capabilityNotGranted | capabilityNoLongerActive
  | invalidExpectedGeneration | staleAdmissionGeneration | invalidLifecycleTransition
  | foundingInvariant | activeCycleAlreadyExists | activeOfficeOccupancyAlreadyExists
  | budgetCeilingExceeded | reservationNotActive | costExceedsReservation
  | incompleteCycleReconciliation | sessionTurnAlreadyActive | cancellationAlreadyTerminal
  | subjectNotFound | budgetPolicyViolation | costPostmortemNotOpen
  | invalidCostPostmortemResolution | projectCloseBlocked | ticketPrerequisiteIncomplete
  | graphRevisionNotCommitted | illegalGraphEdgeEndpoint | reviewSelfDispositionDenied
  | reviewDispositionIncomplete | postmortemCloseBlocked | reviewAssignmentNotIndependent
  | actorJurisdictionDenied | workLeaseUnavailable | actorAttemptNotTerminal
  | actorAttemptNotValidatable | outcomeObligationOpen | reviewAssignmentEvidenceMissing
  | executionProfileIneligible | ticketAcceptanceConditionUnsatisfied
  | qualificationTreatmentRestricted | contentSealReceiptMissing | contentObjectNotSealed
  | forensicManifestBindingMismatch | deterministicExperimentBindingMismatch
  | deterministicEvaluationBindingMismatch | evidenceAdmissionRequired
  | childSpawnAdmissionInvalid | childLifecycleReceiptMissing | childStreamSealBindingMismatch
  | processContainmentFailed | cancellationPropagationIncomplete
  | supervisedTerminalReceiptRequired | piOfficeTurnAuthorityMissing
  | piOfficeTurnPromptBindingMismatch | piOfficeTurnUsageNotMonotonic
  | piOfficeTurnTerminalEvidenceMissing | piOfficeTurnNotReconciled
  | piOfficeTurnTreatmentIneligible | officeSessionBudgetRequiresDispose
  | piOfficeTurnTerminalAlreadyRecorded | piOfficeTurnUsageAlreadyFrozen
  | projectNorthStarAlignmentMismatch | piOfficeSessionDisposeBindingMismatch
  | piOfficeSessionDisposeUsageNotMonotonic | piOfficeSessionDisposeReceiptMissing
  | missionSourceContentNotSealed | piTaskAttemptAuthorityMissing
  | piTaskAttemptPromptBindingMismatch | piTaskAttemptUsageNotMonotonic
  | piTaskAttemptTerminalEvidenceMissing | piTaskAttemptNotReconciled
  | piTaskAttemptTerminalAlreadyRecorded | piTaskAttemptUsageAlreadyFrozen
  | piTaskAttemptSessionDisposeBindingMismatch | piTaskAttemptSessionDisposeReceiptMissing
  deriving DecidableEq

inductive CommandDisposition
  | accepted (eventId : EventId)
  | rejected (reason : Rejection)
  deriving DecidableEq

/-! The closed predicates of the domain, as the enums define them. -/

def Capability.requiresConsumption : Capability → Bool
  | .createSocietyIdentity | .installRootAuthorityOffice | .installFoundingMission
  | .appointInitialRootAuthority | .setR0HardCeiling | .bootstrapSociety
  | .proposeOperatingCycle | .admitOperatingCycle => true
  | _ => false

def OperatingCycleState.isNonterminal : OperatingCycleState → Bool
  | .closed | .cancelled | .failed => false
  | _ => true

def OperatingCycleState.admitsTaskWork : OperatingCycleState → Bool
  | .running => true
  | _ => false

/-- The sessions that the index `one_live_office_session_per_cycle` covers. -/
def OfficeSessionState.isLive : OfficeSessionState → Bool
  | .closed | .cancelled | .failed => false
  | _ => true

def CancellationState.isNonterminal : CancellationState → Bool
  | .completed | .containmentFailed => false
  | _ => true

def GraphRevisionBody.objectKind : GraphRevisionBody → GraphObjectKind
  | .observation _ => .observation
  | .hypothesis _ => .hypothesis

def GraphEdgeKind.allows : GraphEdgeKind → GraphObjectKind → GraphObjectKind → Bool
  | .supports,_,.hypothesis => true
  | .challenges,.observation,.hypothesis => true
  | _,_,_ => false

def WorkItemKind.requiredContextPurpose : WorkItemKind → ContextPackPurpose
  | .ticketExecution => .ticketExecution
  | .independentReview => .independentReview

namespace PiOfficeTurnTerminalEvidence

def finalAccountingSequence : PiOfficeTurnTerminalEvidence → PiProtocolSequence
  | .observedAssistant _ n => n
  | .unavailableAssistant n => n

def agentSettledSequence : PiOfficeTurnTerminalEvidence → Option PiProtocolSequence
  | .observedAssistant n _ => some n
  | .unavailableAssistant _ => none

def accepts : PiOfficeTurnTerminalEvidence → PiOfficeTurnAssistantOutcome → Bool
  | .observedAssistant _ _,.observedStop | .observedAssistant _ _,.observedLength
  | .observedAssistant _ _,.observedError | .observedAssistant _ _,.observedAborted
  | .unavailableAssistant _,.sdkPromiseRejected
  | .unavailableAssistant _,.missingFinalAssistantOutcome => true
  | _,_ => false

end PiOfficeTurnTerminalEvidence

namespace PiOfficeTurnDisposition

def accepts : PiOfficeTurnDisposition → PiOfficeTurnAssistantOutcome → Bool
  | .completed,.observedStop | .length,.observedLength | .error,.observedError
  | .aborted,.observedAborted | .failed,.sdkPromiseRejected
  | .protocolFailed,.missingFinalAssistantOutcome => true
  | _,_ => false

def mayReturnOfficeToReady : PiOfficeTurnDisposition → Bool
  | .completed => true
  | _ => false

end PiOfficeTurnDisposition

namespace PiTaskAttemptTerminalEvidence

def finalAccountingSequence : PiTaskAttemptTerminalEvidence → PiProtocolSequence
  | .observedAssistant _ n => n
  | .unavailableAssistant n => n

def agentSettledSequence : PiTaskAttemptTerminalEvidence → Option PiProtocolSequence
  | .observedAssistant n _ => some n
  | .unavailableAssistant _ => none

def accepts : PiTaskAttemptTerminalEvidence → PiTaskAttemptAssistantOutcome → Bool
  | .observedAssistant _ _,.observedStop | .observedAssistant _ _,.observedLength
  | .observedAssistant _ _,.observedError | .observedAssistant _ _,.observedAborted
  | .unavailableAssistant _,.sdkPromiseRejected
  | .unavailableAssistant _,.missingFinalAssistantOutcome => true
  | _,_ => false

end PiTaskAttemptTerminalEvidence

def PiTaskAttemptDisposition.accepts :
    PiTaskAttemptDisposition → PiTaskAttemptAssistantOutcome → Bool
  | .completed,.observedStop | .length,.observedLength | .error,.observedError
  | .aborted,.observedAborted | .failed,.sdkPromiseRejected
  | .protocolFailed,.missingFinalAssistantOutcome => true
  | _,_ => false

def ChildProcessState.isTerminal : ChildProcessState → Bool
  | .finalized | .lostParentage | .containmentFailed => true
  | _ => false

def ActorAttemptState.isLive : ActorAttemptState → Bool
  | .running | .cancellationRequested => true
  | _ => false

namespace ActorAttemptTerminalKind

def state : ActorAttemptTerminalKind → ActorAttemptState
  | .succeeded => .succeeded
  | .failed => .failed
  | .cancelled => .cancelled
  | .expired => .expired
  | .protocolFailed => .protocolFailed
  | .supervisorFailed => .supervisorFailed

def permitsValidation : ActorAttemptTerminalKind → Bool
  | .succeeded => true
  | _ => false

/-- Only a cancellation-requested attempt may become cancelled. -/
def allowedFrom : ActorAttemptTerminalKind → ActorAttemptState → Bool
  | .cancelled,.cancellationRequested => true
  | .cancelled,_ => false
  | _,.running => true
  | _,_ => false

end ActorAttemptTerminalKind

def OutcomeObligationDisposition.state : OutcomeObligationDisposition → OutcomeObligationState
  | .satisfied => .satisfied
  | .waived => .waived

end Society.Kernel
