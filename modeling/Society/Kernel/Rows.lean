import Society.Kernel.Events

namespace Society.Kernel
open Society.Relational

structure PrincipalRow where
  principalId : PrincipalId
  principalKind : PrincipalKind
  displayName : PgText
  active : Bool

structure SocietyRow where
  societyId : SocietyId
  name : PgText
  lifecycleState : SocietyState

structure OfficeContractRow where
  officeId : OfficeId
  officeKind : OfficeKind
  installedByCommandId : CommandRowId

structure ApplicationRow where
  applicationId : ApplicationId
  applicationIdentity : PgText
  applicationName : PgText
  createdByCommandId : CommandRowId

structure PiTaskAttemptPromptAuthorizationRow where
  piTaskAttemptPromptAuthorizationId : PiTaskAttemptPromptAuthorizationId
  actorAttemptId : ActorAttemptId
  nativeChildId : NativeChildId
  piSessionId : PiSessionId
  budgetReservationId : BudgetReservationId
  correlationIdentity : PgText
  promptContentObjectId : ContentObjectId
  promptDigest : Blake3Digest
  frontierEventId : EventId
  admissionGeneration : AdmissionGeneration
  authorizedByCommandId : CommandRowId

structure PiTaskAttemptPromptDeliveryRow where
  actorAttemptId : ActorAttemptId
  piTaskAttemptPromptAuthorizationId : PiTaskAttemptPromptAuthorizationId
  correlationIdentity : PgText
  promptDigest : Blake3Digest
  deliveredByCommandId : CommandRowId

structure PiTaskAttemptPromptAcceptanceRow where
  actorAttemptId : ActorAttemptId
  piTaskAttemptPromptAuthorizationId : PiTaskAttemptPromptAuthorizationId
  commandResultSequence : PiProtocolSequence
  acceptedByCommandId : CommandRowId

structure PiTaskAttemptUsageReceiptRow where
  piTaskAttemptUsageReceiptId : PiTaskAttemptUsageReceiptId
  actorAttemptId : ActorAttemptId
  piTaskAttemptPromptAuthorizationId : PiTaskAttemptPromptAuthorizationId
  piSessionId : PiSessionId
  correlationIdentity : PgText
  protocolSequence : PiProtocolSequence
  inputTokens : PiTokenCount
  outputTokens : PiTokenCount
  cacheReadTokens : PiTokenCount
  cacheWriteTokens : PiTokenCount
  totalTokens : PiTokenCount
  providerCostBinary64 : ProviderCostBinary64
  cumulativeCeilingMicros : UsdMicros
  recordedByCommandId : CommandRowId

structure PiTaskAttemptUsageFailureRow where
  piTaskAttemptUsageFailureId : PiTaskAttemptUsageFailureId
  actorAttemptId : ActorAttemptId
  piTaskAttemptPromptAuthorizationId : PiTaskAttemptPromptAuthorizationId
  piSessionId : PiSessionId
  correlationIdentity : PgText
  protocolSequence : PiProtocolSequence
  failure : PiTaskAttemptUsageFailure
  budgetReservationId : BudgetReservationId
  cancellationRequestId : CancellationRequestId
  costPostmortemId : CostPostmortemId
  recordedByCommandId : CommandRowId

structure PiTaskAttemptTerminalReceiptRow where
  piTaskAttemptTerminalReceiptId : PiTaskAttemptTerminalReceiptId
  actorAttemptId : ActorAttemptId
  piTaskAttemptPromptAuthorizationId : PiTaskAttemptPromptAuthorizationId
  nativeChildId : NativeChildId
  piSessionId : PiSessionId
  correlationIdentity : PgText
  terminalEvidence : PiTaskAttemptTerminalEvidence
  settledSequence : PiProtocolSequence
  finalUsageReceiptId : Option PiTaskAttemptUsageReceiptId
  finalUsageFailureId : Option PiTaskAttemptUsageFailureId
  disposition : PiTaskAttemptDisposition
  assistantOutcome : PiTaskAttemptAssistantOutcome
  transcriptDisposition : PiTaskAttemptTranscriptDisposition
  recordedByCommandId : CommandRowId

structure PiTaskAttemptSessionDisposeAuthorizationRow where
  actorAttemptId : ActorAttemptId
  nativeChildId : NativeChildId
  piSessionId : PiSessionId
  correlationIdentity : PgText
  authorizedGeneration : AdmissionGeneration
  authorizedByCommandId : CommandRowId

structure PiTaskAttemptSessionDisposeDeliveryRow where
  actorAttemptId : ActorAttemptId
  nativeChildId : NativeChildId
  piSessionId : PiSessionId
  correlationIdentity : PgText
  deliveredByCommandId : CommandRowId

structure PiTaskAttemptSessionDisposeAcceptanceRow where
  actorAttemptId : ActorAttemptId
  commandResultSequence : PiProtocolSequence
  acceptedByCommandId : CommandRowId

structure PiTaskAttemptSessionDisposeUsageReceiptRow where
  actorAttemptId : ActorAttemptId
  piSessionId : PiSessionId
  correlationIdentity : PgText
  protocolSequence : PiProtocolSequence
  inputTokens : PiTokenCount
  outputTokens : PiTokenCount
  cacheReadTokens : PiTokenCount
  cacheWriteTokens : PiTokenCount
  totalTokens : PiTokenCount
  providerCostBinary64 : ProviderCostBinary64
  cumulativeCeilingMicros : UsdMicros
  recordedByCommandId : CommandRowId

structure PiTaskAttemptSessionDisposeUsageFailureRow where
  actorAttemptId : ActorAttemptId
  piSessionId : PiSessionId
  correlationIdentity : PgText
  protocolSequence : PiProtocolSequence
  failure : PiTaskAttemptUsageFailure
  budgetReservationId : BudgetReservationId
  cancellationRequestId : CancellationRequestId
  costPostmortemId : CostPostmortemId
  recordedByCommandId : CommandRowId

structure PiTaskAttemptSessionDisposeReceiptRow where
  piTaskAttemptSessionDisposeReceiptId : PiTaskAttemptSessionDisposeReceiptId
  actorAttemptId : ActorAttemptId
  nativeChildId : NativeChildId
  piSessionId : PiSessionId
  correlationIdentity : PgText
  disposedSequence : PiProtocolSequence
  transcriptReceipt : PiTaskAttemptSessionTranscriptReceipt
  frozen : Option (CancellationRequestId × CostPostmortemId)
  recordedByCommandId : CommandRowId

structure ApplicationRevisionRow where
  applicationRevisionId : ApplicationRevisionId
  applicationId : ApplicationId
  revisionOrdinal : Ordinal
  missionStatement : PgText
  sourceRenderingDigest : Blake3Digest
  sourceContentObjectId : ContentObjectId
  installedByCommandId : CommandRowId

structure ApplicationRevisionPrincipleRow where
  applicationRevisionId : ApplicationRevisionId
  principleOrdinal : Ranged 1 16
  principleKind : MissionPrincipleKind
  principleText : PgText

structure ApplicationRevisionNorthStarQuestionRow where
  applicationRevisionId : ApplicationRevisionId
  changeQuestion : PgText
  improvementEvidenceQuestion : PgText
  boundaryCommitmentQuestion : PgText
  revisitQuestion : PgText

structure FoundingMissionRow where
  foundingMissionId : FoundingMissionId
  societyId : SocietyId
  applicationRevisionId : ApplicationRevisionId
  revision : Ordinal
  active : Bool
  installedByCommandId : CommandRowId

structure OfficeOccupancyRow where
  officeOccupancyId : OfficeOccupancyId
  officeId : OfficeId
  principalId : PrincipalId
  active : Bool
  appointedByCommandId : CommandRowId

structure SocietyBootstrapRow where
  societyId : SocietyId
  foundingMissionId : FoundingMissionId
  officeId : OfficeId
  officeOccupancyId : OfficeOccupancyId
  hardCeilingMicros : UsdMicros
  bootstrappedByCommandId : CommandRowId

structure OperatingCycleAdmissionRow where
  operatingCycleId : OperatingCycleId
  admittedByCommandId : CommandRowId
  startedByCommandId : Option CommandRowId

structure OperatingCycleReconciliationRow where
  operatingCycleId : OperatingCycleId
  reconciliationStartedByCommandId : CommandRowId
  closedByCommandId : Option CommandRowId

structure RootAuthorityOfficeSessionRow where
  rootAuthorityOfficeSessionId : RootAuthorityOfficeSessionId
  operatingCycleId : OperatingCycleId
  officeOccupancyId : OfficeOccupancyId
  lifecycleState : OfficeSessionState
  startedByCommandId : CommandRowId
  lastTransitionCommandId : CommandRowId

structure OfficeTurnRow where
  officeTurnId : OfficeTurnId
  rootAuthorityOfficeSessionId : RootAuthorityOfficeSessionId
  lifecycleState : OfficeTurnState
  purpose : OfficeTurnPurpose
  openedByCommandId : CommandRowId
  settledByCommandId : Option CommandRowId

structure BudgetEnvelopeRow where
  budgetEnvelopeId : BudgetEnvelopeId
  ceilingMicros : UsdMicros
  reservedMicros : UsdMicros
  spentMicros : UsdMicros
  createdByCommandId : CommandRowId

structure BudgetEnvelopeConstraintRow where
  budgetEnvelopeConstraintId : Id Tbl.budgetEnvelopeConstraints
  budgetEnvelopeId : BudgetEnvelopeId
  scope : BudgetScope

structure BudgetReservationRow where
  budgetReservationId : BudgetReservationId
  operatingCycleId : OperatingCycleId
  amountMicros : UsdMicros
  chargedMicros : UsdMicros
  reservationState : BudgetReservationState
  reservedByCommandId : CommandRowId
  reconciledByCommandId : Option CommandRowId

structure BudgetReservationChargeRow where
  budgetReservationChargeId : Id Tbl.budgetReservationCharges
  budgetReservationId : BudgetReservationId
  budgetEnvelopeId : BudgetEnvelopeId
  amountMicros : UsdMicros

structure CancellationRequestRow where
  cancellationRequestId : CancellationRequestId
  operatingCycleId : OperatingCycleId
  cancellationMode : CancellationMode
  lifecycleState : CancellationState
  observedAdmissionGeneration : AdmissionGeneration
  requestedByCommandId : CommandRowId
  reconciledByCommandId : Option CommandRowId

structure CostPostmortemRow where
  postmortemId : CostPostmortemId
  budgetReservationId : BudgetReservationId
  operatingCycleId : OperatingCycleId
  cancellationRequestId : CancellationRequestId
  causeKind : CostPostmortemCause
  observedMicros : Option UsdMicros
  reservedMicros : Option UsdMicros
  unknownReason : Option CostUnknownReason
  unavailableReason : Option CostUnavailableReason
  lifecycleState : CostPostmortemState
  openedByCommandId : CommandRowId
  closedByCommandId : Option CommandRowId

structure CostPostmortemResolutionRow where
  postmortemId : CostPostmortemId
  resolutionKind : CostPostmortemResolution
  chargedMicros : UsdMicros
  resolvedByCommandId : CommandRowId

structure ProjectRow where
  projectId : ProjectId
  projectName : PgText
  foundingMissionId : FoundingMissionId
  lifecycleState : ProjectState
  createdByCommandId : CommandRowId
  lastTransitionCommandId : CommandRowId

structure ProjectNorthStarAlignmentRow where
  projectId : ProjectId
  applicationRevisionId : ApplicationRevisionId
  changeAnswer : PgText
  improvementEvidenceAnswer : PgText
  boundaryCommitmentAnswer : PgText
  revisitAnswer : PgText
  alignedByCommandId : CommandRowId

structure ProjectObjectiveRow where
  projectObjectiveId : Id Tbl.projectObjectives
  projectId : ProjectId
  objectiveText : PgText
  charteredByCommandId : CommandRowId

structure ProjectMilestoneRow where
  projectMilestoneId : ProjectMilestoneId
  projectId : ProjectId
  milestoneName : PgText
  lifecycleState : ProjectMilestoneState
  charteredByCommandId : CommandRowId
  completedByCommandId : Option CommandRowId

structure ProjectStopConditionRow where
  projectStopConditionId : Id Tbl.projectStopConditions
  projectId : ProjectId
  stopConditionText : PgText
  charteredByCommandId : CommandRowId

structure TicketRow where
  ticketId : TicketId
  projectId : ProjectId
  ticketTitle : PgText
  lifecycleState : TicketState
  createdByCommandId : CommandRowId
  lastTransitionCommandId : CommandRowId

structure TicketAcceptanceConditionRow where
  ticketAcceptanceConditionId : Id Tbl.ticketAcceptanceConditions
  ticketId : TicketId
  conditionText : PgText
  lifecycleState : TicketAcceptanceConditionState
  createdByCommandId : CommandRowId
  satisfiedByCommandId : Option CommandRowId

structure TicketPrerequisiteRow where
  ticketId : TicketId
  prerequisiteTicketId : TicketId
  createdByCommandId : CommandRowId

structure ObjectRow where
  graphObjectId : GraphObjectId
  objectKind : GraphObjectKind
  projectId : Option ProjectId
  causalEpisodeId : Option CausalEpisodeId
  foundingMissionId : FoundingMissionId
  createdByCommandId : CommandRowId

structure ObjectRevisionRow where
  graphRevisionId : GraphRevisionId
  graphObjectId : GraphObjectId
  revisionOrdinal : Ordinal
  lifecycleState : GraphRevisionState
  createdByCommandId : CommandRowId
  committedByCommandId : Option CommandRowId

structure ObservationRevisionRow where
  graphRevisionId : GraphRevisionId
  observationText : PgText

structure HypothesisRevisionRow where
  graphRevisionId : GraphRevisionId
  hypothesisText : PgText

structure EdgeRow where
  graphEdgeId : GraphEdgeId
  projectId : ProjectId
  fromGraphRevisionId : GraphRevisionId
  toGraphRevisionId : GraphRevisionId
  edgeKind : GraphEdgeKind
  createdByCommandId : CommandRowId

structure EpisodeRow where
  causalEpisodeId : CausalEpisodeId
  projectId : ProjectId
  foundingMissionId : FoundingMissionId
  lifecycleState : EpisodeState
  createdByCommandId : CommandRowId
  lastTransitionCommandId : CommandRowId

structure AdversarialReviewRow where
  adversarialReviewId : AdversarialReviewId
  projectId : ProjectId
  targetGraphRevisionId : GraphRevisionId
  lifecycleState : AdversarialReviewState
  requestedByCommandId : CommandRowId
  assignedReviewerPrincipalId : Option PrincipalId
  resolvedByCommandId : Option CommandRowId
  assignedReviewerActorInstanceId : Option ActorInstanceId
  reviewerActorAttemptId : Option ActorAttemptId

structure ReviewChallengeRow where
  reviewChallengeId : ReviewChallengeId
  adversarialReviewId : AdversarialReviewId
  targetGraphRevisionId : GraphRevisionId
  authorPrincipalId : PrincipalId
  severity : ReviewChallengeSeverity
  failureHypothesis : PgText
  responseState : ReviewChallengeResponseState
  submittedByCommandId : CommandRowId

structure ReviewChallengeResponseRow where
  reviewChallengeResponseId : Id Tbl.reviewChallengeResponses
  reviewChallengeId : ReviewChallengeId
  responseText : PgText
  respondedByCommandId : CommandRowId

structure ReviewDispositionRow where
  reviewDispositionId : Id Tbl.reviewDispositions
  reviewChallengeId : ReviewChallengeId
  dispositionKind : ReviewDispositionKind
  disposedByPrincipalId : PrincipalId
  disposedByCommandId : CommandRowId

structure PostmortemRow where
  postmortemId : PostmortemId
  projectId : ProjectId
  causalEpisodeId : Option CausalEpisodeId
  foundingMissionId : FoundingMissionId
  lifecycleState : PostmortemState
  triggeredByCommandId : CommandRowId
  closedByCommandId : Option CommandRowId

structure PostmortemCausalClaimRow where
  postmortemCausalClaimId : PostmortemCausalClaimId
  postmortemId : PostmortemId
  claimKind : PostmortemCausalClaimKind
  claimText : PgText
  recordedByCommandId : CommandRowId

structure PostmortemActionProposalRow where
  postmortemActionProposalId : PostmortemActionProposalId
  postmortemId : PostmortemId
  actionKind : PostmortemActionKind
  actionText : PgText
  proposedByCommandId : CommandRowId

structure CoordinationCommandProvenanceRow where
  commandRowId : CommandRowId
  foundingMissionId : FoundingMissionId
  operatingCycleId : OperatingCycleId
  projectId : Option ProjectId

structure OperatingCycleRow where
  operatingCycleId : OperatingCycleId
  societyId : SocietyId
  foundingMissionId : FoundingMissionId
  officeOccupancyId : OfficeOccupancyId
  treatment : OperatingCycleTreatment
  budgetCeilingMicros : UsdMicros
  lifecycleState : OperatingCycleState
  admissionGeneration : AdmissionGeneration
  proposedByCommandId : CommandRowId
  lastTransitionCommandId : CommandRowId

structure ExecutionProfileRow where
  executionProfileId : ExecutionProfileId
  profileKind : ExecutionProfileKind
  readiness : ExecutionProfileReadiness

structure ExecutionProfileQualificationRow where
  executionProfileQualificationId : ExecutionProfileQualificationId
  operatingCycleId : OperatingCycleId
  executionProfileId : ExecutionProfileId
  nativeChildSpawnAdmissionId : NativeChildSpawnAdmissionId
  nativeChildId : NativeChildId
  runtimeIdentityDigest : Blake3Digest
  runtimeIdentityContentObjectId : ContentObjectId
  adapterReportDigest : Blake3Digest
  adapterReportContentObjectId : ContentObjectId
  probeRequestDigest : Blake3Digest
  probeResponseDigest : Blake3Digest
  probeResponseContentObjectId : ContentObjectId
  qualifiedByCommandId : CommandRowId

structure ActorConfigurationRow where
  actorConfigurationId : ActorConfigurationId
  configurationName : PgText
  lifecycleState : ActorConfigurationState
  createdByCommandId : CommandRowId

structure ActorConfigurationRevisionRow where
  actorConfigurationRevisionId : ActorConfigurationRevisionId
  actorConfigurationId : ActorConfigurationId
  revisionOrdinal : Ordinal
  modelPolicy : ActorModelPolicy
  primaryAttractor : DevelopmentalAttractor
  createdByCommandId : CommandRowId

structure ContextPackRow where
  contextPackId : ContextPackId
  foundingMissionId : FoundingMissionId
  purpose : ContextPackPurpose
  renderingDigest : Blake3Digest
  createdByCommandId : CommandRowId

structure ActorInstanceRow where
  actorInstanceId : ActorInstanceId
  principalId : PrincipalId
  actorConfigurationRevisionId : ActorConfigurationRevisionId
  executionProfileId : ExecutionProfileId
  operatingCycleId : OperatingCycleId
  lifecycleState : ActorInstanceState
  admittedByCommandId : CommandRowId

structure WorkItemRow where
  workItemId : WorkItemId
  ticketId : TicketId
  actorInstanceId : ActorInstanceId
  contextPackId : ContextPackId
  workKind : WorkItemKind
  adversarialReviewId : Option AdversarialReviewId
  assignmentText : PgText
  lifecycleState : WorkItemState
  retryOfActorAttemptId : Option ActorAttemptId
  createdByCommandId : CommandRowId
  lastTransitionCommandId : CommandRowId

structure LeaseRow where
  workLeaseId : WorkLeaseId
  workItemId : WorkItemId
  actorInstanceId : ActorInstanceId
  lifecycleState : WorkLeaseState
  claimedByCommandId : CommandRowId
  terminalByCommandId : Option CommandRowId

structure AttemptRow where
  actorAttemptId : ActorAttemptId
  operatingCycleId : OperatingCycleId
  ticketId : TicketId
  workItemId : WorkItemId
  workLeaseId : WorkLeaseId
  actorInstanceId : ActorInstanceId
  actorConfigurationRevisionId : ActorConfigurationRevisionId
  executionProfileId : ExecutionProfileId
  contextPackId : ContextPackId
  retryOfActorAttemptId : Option ActorAttemptId
  lifecycleState : ActorAttemptState
  startedByCommandId : CommandRowId
  terminalByCommandId : Option CommandRowId
  validatedByCommandId : Option CommandRowId

structure AttemptBudgetReservationRow where
  actorAttemptId : ActorAttemptId
  budgetReservationId : BudgetReservationId
  projectId : ProjectId
  ticketId : TicketId

structure ActorAttemptTerminalFactRow where
  actorAttemptId : ActorAttemptId
  terminalKind : ActorAttemptTerminalKind
  attestedByCommandId : CommandRowId

structure OutcomeObligationRow where
  outcomeObligationId : OutcomeObligationId
  projectId : ProjectId
  obligationText : PgText
  lifecycleState : OutcomeObligationState
  scheduledByCommandId : CommandRowId
  resolvedByCommandId : Option CommandRowId

structure ContentSealReceiptRow where
  contentSealReceiptId : ContentSealReceiptId
  digest : Blake3Digest
  attestedByCommandId : CommandRowId

structure ContentObjectRow where
  contentObjectId : ContentObjectId
  contentSealReceiptId : ContentSealReceiptId
  registeredByCommandId : CommandRowId

structure ForensicManifestRow where
  forensicManifestId : ForensicManifestId
  producingDeterministicExperimentId : DeterministicExperimentId
  capturePolicy : ForensicManifestCapturePolicy
  retentionAccessClass : RetentionAccessClass
  registeredByCommandId : CommandRowId

structure ForensicManifestObjectRow where
  forensicManifestId : ForensicManifestId
  memberOrdinal : Ordinal
  contentObjectId : ContentObjectId

structure EvaluatorRevisionRow where
  evaluatorRevisionId : EvaluatorRevisionId
  applicationRevisionId : ApplicationRevisionId
  contentObjectId : ContentObjectId
  registeredByCommandId : CommandRowId

structure InputManifestRow where
  inputManifestId : InputManifestId
  contentObjectId : ContentObjectId
  registeredByCommandId : CommandRowId

structure DeterministicExperimentRow where
  deterministicExperimentId : DeterministicExperimentId
  operatingCycleId : OperatingCycleId
  projectId : ProjectId
  ticketId : TicketId
  targetGraphRevisionId : GraphRevisionId
  evaluatorRevisionId : EvaluatorRevisionId
  inputManifestId : InputManifestId
  lifecycleState : DeterministicExperimentState
  registeredByCommandId : CommandRowId
  lastTransitionCommandId : CommandRowId

structure DeterministicEvaluationReceiptRow where
  deterministicEvaluationReceiptId : DeterministicEvaluationReceiptId
  deterministicExperimentId : DeterministicExperimentId
  evaluatorRevisionId : EvaluatorRevisionId
  inputManifestId : InputManifestId
  forensicManifestId : ForensicManifestId
  evaluatorOutputContentObjectId : ContentObjectId
  attestedByCommandId : CommandRowId

structure EvidenceAdmissionRow where
  evidenceAdmissionId : EvidenceAdmissionId
  deterministicEvaluationReceiptId : DeterministicEvaluationReceiptId
  deterministicExperimentId : DeterministicExperimentId
  evaluatorRevisionId : EvaluatorRevisionId
  inputManifestId : InputManifestId
  evaluatorOutputContentObjectId : ContentObjectId
  relatedGraphRevisionId : GraphRevisionId
  semanticRole : EvidenceSemanticRole
  applicability : EvidenceApplicability
  limitationKind : EvidenceLimitationKind
  admittedByCommandId : CommandRowId

structure CapabilityGrantRow where
  capabilityGrantId : CapabilityGrantId
  principalId : PrincipalId
  capabilityKind : Capability
  officeOccupancyId : Option OfficeOccupancyId
  actorInstanceId : Option ActorInstanceId
  grantState : CapabilityGrantState
  grantOrigin : CapabilityGrantOrigin
  grantedByCommandId : Option CommandRowId
  consumedByCommandId : Option CommandRowId

structure CommandRow where
  commandRowId : CommandRowId
  commandId : PgText
  principalId : PrincipalId
  capabilityGrantId : CapabilityGrantId
  capabilityKind : Capability
  expectedGeneration : Option AdmissionGeneration
  requestFingerprint : Blake3Digest
  disposition : CommandDisposition

structure EventRow where
  eventId : EventId
  commandRowId : CommandRowId
  eventSequence : Ordinal

structure SupervisorEpochRow where
  supervisorEpochId : SupervisorEpochId
  supervisorEpochIdentity : PgText
  openedByCommandId : CommandRowId

structure WorkspaceRow where
  workspaceId : WorkspaceId
  nativeWorkspaceId : PgText
  canonicalWorkspacePath : PgText
  registeredByCommandId : CommandRowId

structure PiChildSessionRow where
  piSessionId : PiSessionId
  piSessionIdentity : PgText
  spawnNonce : PgText
  createdByCommandId : CommandRowId
  readyByCommandId : Option CommandRowId

structure NativeChildSpawnAdmissionRow where
  nativeChildSpawnAdmissionId : NativeChildSpawnAdmissionId
  operatingCycleId : OperatingCycleId
  owner : NativeChildOwner
  budgetReservationId : Option BudgetReservationId
  executionProfileId : ExecutionProfileId
  workspaceId : WorkspaceId
  supervisorEpochId : SupervisorEpochId
  admissionGeneration : AdmissionGeneration
  lifecycleState : NativeChildSpawnAdmissionState
  admittedByCommandId : CommandRowId
  spawnedByCommandId : Option CommandRowId

structure PiChildSpawnSidecarRow where
  nativeChildSpawnAdmissionId : NativeChildSpawnAdmissionId
  piSessionId : PiSessionId

structure NativeChildSpawnInvalidationRow where
  nativeChildSpawnAdmissionId : NativeChildSpawnAdmissionId
  reason : NativeChildNotSpawnedReason
  invalidatedByCommandId : CommandRowId

structure OfficeSessionBudgetReservationRow where
  rootAuthorityOfficeSessionId : RootAuthorityOfficeSessionId
  budgetReservationId : BudgetReservationId
  boundByCommandId : CommandRowId

structure NativeChildRow where
  nativeChildId : NativeChildId
  nativeChildSpawnAdmissionId : NativeChildSpawnAdmissionId
  childIdentity : PgText
  directChildPid : NativeChildPid
  processGroupId : OwnedProcessGroupId
  lifecycleState : ChildProcessState
  terminalDisposition : Option ChildTerminalDisposition
  spawnedByCommandId : CommandRowId
  lastTransitionCommandId : CommandRowId

structure PiChildSessionProtocolRow where
  nativeChildId : NativeChildId
  lifecycleState : PiChildSessionState
  createCorrelationIdentity : Option PgText
  createRequestDigest : Option Blake3Digest

structure NativeChildLivenessObservationRow where
  nativeChildLivenessObservationId : NativeChildLivenessObservationId
  nativeChildId : NativeChildId
  liveness : ProcessGroupLiveness
  observedByCommandId : CommandRowId

structure ProcessSignalReceiptRow where
  processSignalReceiptId : ProcessSignalReceiptId
  nativeChildId : NativeChildId
  signalAction : ProcessSignalAction
  delivery : ProcessSignalDelivery
  observedLiveness : ProcessGroupLiveness
  cause : ProcessSignalCause
  recordedByCommandId : CommandRowId

structure NativeChildReapReceiptRow where
  nativeChildReapReceiptId : NativeChildReapReceiptId
  nativeChildId : NativeChildId
  waitStatus : DirectChildWaitStatus
  groupLivenessBeforeCleanup : ProcessGroupLiveness
  groupLivenessAfterCleanup : ProcessGroupLiveness
  reapedByCommandId : CommandRowId

structure NativeChildRecoveryReceiptRow where
  nativeChildRecoveryReceiptId : NativeChildRecoveryReceiptId
  nativeChildId : NativeChildId
  observation : ChildRecoveryObservation
  groupLivenessAfterRestart : ProcessGroupLiveness
  recordedByCommandId : CommandRowId

structure PiAbortControlReceiptRow where
  piAbortControlReceiptId : PiAbortControlReceiptId
  nativeChildId : NativeChildId
  cancellationPropagationId : CancellationPropagationId
  correlationIdentity : PgText
  abortCommandDigest : Blake3Digest
  physicalWriteOutcome : PiAbortControlWriteOutcome
  recordedByCommandId : CommandRowId

structure NativeChildStreamSealRow where
  nativeChildStreamSealId : NativeChildStreamSealId
  nativeChildId : NativeChildId
  streamKind : ChildStreamKind
  fullObservedDigest : Blake3Digest
  retainedContentObjectId : ContentObjectId
  completeness : ChildStreamSealCompleteness
  sealedByCommandId : CommandRowId

structure DeterministicEvaluatorForensicManifestBindingRow where
  forensicManifestId : ForensicManifestId
  deterministicExperimentId : DeterministicExperimentId
  nativeChildSpawnAdmissionId : NativeChildSpawnAdmissionId
  nativeChildId : NativeChildId
  evaluatorRevisionId : EvaluatorRevisionId
  inputManifestId : InputManifestId
  nativeChildStreamSealId : NativeChildStreamSealId
  evaluatorOutputContentObjectId : ContentObjectId
  registeredByCommandId : CommandRowId

structure CancellationPropagationRow where
  cancellationPropagationId : CancellationPropagationId
  cancellationRequestId : CancellationRequestId
  operatingCycleId : OperatingCycleId
  observedGeneration : AdmissionGeneration
  lifecycleState : CancellationPropagationState
  begunByCommandId : CommandRowId
  reconciledByCommandId : Option CommandRowId

structure CancellationPropagationChildRow where
  cancellationPropagationId : CancellationPropagationId
  nativeChildId : NativeChildId

structure CancellationPropagationTargetRow where
  cancellationPropagationTargetId : CancellationPropagationTargetId
  cancellationPropagationId : CancellationPropagationId
  owner : CancellationTargetOwner
  nativeChildId : Option NativeChildId
  targetDisposition : CancellationPropagationTargetDisposition

structure OfficeTurnBudgetCheckpointRow where
  officeTurnId : OfficeTurnId
  rootAuthorityOfficeSessionId : RootAuthorityOfficeSessionId
  budgetReservationId : BudgetReservationId
  baselineCumulativeMicros : UsdMicros
  authorizedByCommandId : CommandRowId
  settledCumulativeMicros : Option UsdMicros
  settledByCommandId : Option CommandRowId

structure PiOfficeTurnPromptAuthorizationRow where
  piOfficeTurnPromptAuthorizationId : PiOfficeTurnPromptAuthorizationId
  officeTurnId : OfficeTurnId
  nativeChildId : NativeChildId
  piSessionId : PiSessionId
  budgetReservationId : BudgetReservationId
  correlationIdentity : PgText
  promptContentObjectId : ContentObjectId
  promptDigest : Blake3Digest
  frontierEventId : EventId
  admissionGeneration : AdmissionGeneration
  officeTurnPurpose : OfficeTurnPurpose
  authorizedByCommandId : CommandRowId

structure PiOfficeTurnPromptDeliveryRow where
  officeTurnId : OfficeTurnId
  piOfficeTurnPromptAuthorizationId : PiOfficeTurnPromptAuthorizationId
  correlationIdentity : PgText
  promptDigest : Blake3Digest
  deliveredByCommandId : CommandRowId

structure PiOfficeTurnPromptAcceptanceRow where
  officeTurnId : OfficeTurnId
  piOfficeTurnPromptAuthorizationId : PiOfficeTurnPromptAuthorizationId
  commandResultSequence : PiProtocolSequence
  acceptedByCommandId : CommandRowId

structure PiOfficeTurnUsageReceiptRow where
  piOfficeTurnUsageReceiptId : PiOfficeTurnUsageReceiptId
  officeTurnId : OfficeTurnId
  piOfficeTurnPromptAuthorizationId : PiOfficeTurnPromptAuthorizationId
  piSessionId : PiSessionId
  correlationIdentity : PgText
  protocolSequence : PiProtocolSequence
  inputTokens : PiTokenCount
  outputTokens : PiTokenCount
  cacheReadTokens : PiTokenCount
  cacheWriteTokens : PiTokenCount
  totalTokens : PiTokenCount
  providerCostBinary64 : ProviderCostBinary64
  cumulativeCeilingMicros : UsdMicros
  recordedByCommandId : CommandRowId

structure PiOfficeTurnUsageFailureRow where
  piOfficeTurnUsageFailureId : PiOfficeTurnUsageFailureId
  officeTurnId : OfficeTurnId
  piOfficeTurnPromptAuthorizationId : PiOfficeTurnPromptAuthorizationId
  piSessionId : PiSessionId
  correlationIdentity : PgText
  protocolSequence : PiProtocolSequence
  failure : PiOfficeTurnUsageFailure
  budgetReservationId : BudgetReservationId
  cancellationRequestId : CancellationRequestId
  costPostmortemId : CostPostmortemId
  recordedByCommandId : CommandRowId

structure PiOfficeTurnTerminalReceiptRow where
  piOfficeTurnTerminalReceiptId : PiOfficeTurnTerminalReceiptId
  officeTurnId : OfficeTurnId
  piOfficeTurnPromptAuthorizationId : PiOfficeTurnPromptAuthorizationId
  nativeChildId : NativeChildId
  piSessionId : PiSessionId
  correlationIdentity : PgText
  terminalEvidence : PiOfficeTurnTerminalEvidence
  settledSequence : PiProtocolSequence
  finalUsageReceiptId : Option PiOfficeTurnUsageReceiptId
  finalUsageFailureId : Option PiOfficeTurnUsageFailureId
  disposition : PiOfficeTurnDisposition
  assistantOutcome : PiOfficeTurnAssistantOutcome
  transcriptDisposition : PiOfficeTurnTranscriptDisposition
  recordedByCommandId : CommandRowId

structure PiOfficeSessionDisposeAuthorizationRow where
  rootAuthorityOfficeSessionId : RootAuthorityOfficeSessionId
  nativeChildId : NativeChildId
  piSessionId : PiSessionId
  correlationIdentity : PgText
  authorizedGeneration : AdmissionGeneration
  authorizedByCommandId : CommandRowId

structure PiOfficeSessionDisposeDeliveryRow where
  rootAuthorityOfficeSessionId : RootAuthorityOfficeSessionId
  nativeChildId : NativeChildId
  piSessionId : PiSessionId
  correlationIdentity : PgText
  deliveredByCommandId : CommandRowId

structure PiOfficeSessionDisposeAcceptanceRow where
  rootAuthorityOfficeSessionId : RootAuthorityOfficeSessionId
  commandResultSequence : PiProtocolSequence
  acceptedByCommandId : CommandRowId

structure PiOfficeSessionDisposeUsageReceiptRow where
  rootAuthorityOfficeSessionId : RootAuthorityOfficeSessionId
  piSessionId : PiSessionId
  correlationIdentity : PgText
  protocolSequence : PiProtocolSequence
  inputTokens : PiTokenCount
  outputTokens : PiTokenCount
  cacheReadTokens : PiTokenCount
  cacheWriteTokens : PiTokenCount
  totalTokens : PiTokenCount
  providerCostBinary64 : ProviderCostBinary64
  cumulativeCeilingMicros : UsdMicros
  recordedByCommandId : CommandRowId

structure PiOfficeSessionDisposeUsageFailureRow where
  rootAuthorityOfficeSessionId : RootAuthorityOfficeSessionId
  piSessionId : PiSessionId
  correlationIdentity : PgText
  protocolSequence : PiProtocolSequence
  failure : PiOfficeTurnUsageFailure
  budgetReservationId : BudgetReservationId
  cancellationRequestId : CancellationRequestId
  costPostmortemId : CostPostmortemId
  recordedByCommandId : CommandRowId

structure PiOfficeSessionDisposeReceiptRow where
  piOfficeSessionDisposeReceiptId : PiOfficeSessionDisposeReceiptId
  rootAuthorityOfficeSessionId : RootAuthorityOfficeSessionId
  nativeChildId : NativeChildId
  piSessionId : PiSessionId
  correlationIdentity : PgText
  disposedSequence : PiProtocolSequence
  transcriptReceipt : PiOfficeSessionTranscriptReceipt
  frozen : Option (CancellationRequestId × CostPostmortemId)
  recordedByCommandId : CommandRowId

structure StudyProtocolRevisionRow where
  studyProtocolRevisionId : StudyProtocolRevisionId
  applicationRevisionId : ApplicationRevisionId
  protocolDigest : Blake3Digest
  actorPolicyDigest : Blake3Digest
  forumPromptDigest : Blake3Digest
  forumToolDigest : Blake3Digest
  evidenceDigest : Blake3Digest
  groundTruthCommitmentDigest : Blake3Digest
  correctionDigest : Blake3Digest
  topologyDigest : Blake3Digest
  episodeBudgetUnits : StudyBudgetUnits
  admittedByCommandId : CommandRowId

structure StudyWorldRevisionRow where
  studyWorldRevisionId : StudyWorldRevisionId
  studyProtocolRevisionId : StudyProtocolRevisionId
  worldDigest : Blake3Digest
  admittedByCommandId : CommandRowId

structure StudyMeasurementRevisionRow where
  studyMeasurementRevisionId : StudyMeasurementRevisionId
  studyProtocolRevisionId : StudyProtocolRevisionId
  analysisDigest : Blake3Digest
  measurementSlotCount : StudyMeasurementSlotCount
  admittedByCommandId : CommandRowId

structure StudyInstitutionRevisionRow where
  studyInstitutionRevisionId : StudyInstitutionRevisionId
  studyProtocolRevisionId : StudyProtocolRevisionId
  institutionDigest : Blake3Digest
  admittedByCommandId : CommandRowId

structure StudyPopulationSnapshotRow where
  studyPopulationSnapshotId : StudyPopulationSnapshotId
  studyProtocolRevisionId : StudyProtocolRevisionId
  populationDigest : Blake3Digest
  populationSize : Ordinal
  admittedByCommandId : CommandRowId

structure StudyEpisodeRow where
  studyEpisodeId : StudyEpisodeId
  studyProtocolRevisionId : StudyProtocolRevisionId
  studyWorldRevisionId : StudyWorldRevisionId
  studyMeasurementRevisionId : StudyMeasurementRevisionId
  studyInstitutionRevisionId : StudyInstitutionRevisionId
  studyPopulationSnapshotId : StudyPopulationSnapshotId
  randomizationDigest : Blake3Digest
  lifecycleState : StudyEpisodeState
  admittedByCommandId : CommandRowId
  lastTransitionCommandId : CommandRowId

structure StudyEpisodeSuccessorPopulationRow where
  studyEpisodeId : StudyEpisodeId
  studyPopulationSnapshotId : StudyPopulationSnapshotId
  replacedByCommandId : CommandRowId

structure StudyTreatmentAssignmentRow where
  studyTreatmentAssignmentId : StudyTreatmentAssignmentId
  studyEpisodeId : StudyEpisodeId
  treatment : StudyTreatment
  assignedByCommandId : CommandRowId

structure StudyPairRow where
  studyPairId : StudyPairId
  retainedEpisodeId : StudyEpisodeId
  resetEpisodeId : StudyEpisodeId
  admittedByCommandId : CommandRowId

structure StudyRunRow where
  studyRunId : StudyRunId
  studyProtocolRevisionId : StudyProtocolRevisionId
  planContentObjectId : ContentObjectId
  planDigest : Blake3Digest
  pairCount : StudyRunPairCount
  registeredPairCount : StudyRunRegisteredPairCount
  lifecycleState : StudyRunLifecycleState
  admittedByCommandId : CommandRowId
  lastTransitionCommandId : CommandRowId

structure StudyRunPairRow where
  studyRunId : StudyRunId
  pairOrdinal : StudyRunPairOrdinal
  studyPairId : StudyPairId
  randomizationDigest : Blake3Digest
  registeredByCommandId : CommandRowId

structure StudyEpisodeForumRow where
  episodeForumId : EpisodeForumId
  studyEpisodeId : StudyEpisodeId
  charterDigest : Blake3Digest
  lifecycleState : ForumLifecycle
  createdByCommandId : CommandRowId
  lastTransitionCommandId : CommandRowId

structure StudyForumThreadRow where
  forumThreadId : ForumThreadId
  episodeForumId : EpisodeForumId
  title : PgText
  lifecycleState : ForumThreadLifecycle
  headMessageOrdinal : Count
  createdByCommandId : CommandRowId

structure StudyActorObligationRow where
  studyActorObligationId : StudyActorObligationId
  studyEpisodeId : StudyEpisodeId
  studyPopulationSnapshotId : StudyPopulationSnapshotId
  populationPhase : StudyPopulationPhase
  roleOrdinal : StudyRoleOrdinal
  privateViewDigest : Blake3Digest
  promptDigest : Blake3Digest
  toolDigest : Blake3Digest
  budgetUnits : StudyBudgetUnits
  chargedBudgetUnits : StudyBudgetUnits
  readBudget : ForumReadBudget
  readsUsed : Count
  postBudget : ForumPostBudget
  postsUsed : Count
  lifecycleState : StudyActorObligationState
  admittedByCommandId : CommandRowId
  completedByCommandId : Option CommandRowId
  failedByCommandId : Option CommandRowId
  failureReasonDigest : Option Blake3Digest

structure StudyActorOccurrenceRow where
  actorOccurrenceId : ActorOccurrenceId
  studyActorObligationId : StudyActorObligationId
  createdByCommandId : CommandRowId

structure StudyActorRuntimeBindingRow where
  studyActorObligationId : StudyActorObligationId
  owner : StudyActorRuntimeOwner
  nativeChildId : NativeChildId
  nativeChildSpawnAdmissionId : NativeChildSpawnAdmissionId
  executionProfileId : ExecutionProfileId
  lifecycleState : StudyActorRuntimeBindingState
  boundByCommandId : CommandRowId
  reconciledByCommandId : Option CommandRowId
  recoverySettledByCommandId : Option CommandRowId

structure StudyActorTaskAttemptLaunchClaimRow where
  studyActorTaskAttemptLaunchId : StudyActorTaskAttemptLaunchId
  studyActorObligationId : StudyActorObligationId
  operatingCycleId : OperatingCycleId
  workItemId : WorkItemId
  actorAttemptId : ActorAttemptId
  budgetReservationId : BudgetReservationId
  executionProfileId : ExecutionProfileId
  supervisorEpochId : SupervisorEpochId
  supervisorEpochIdentity : PgText
  nativeWorkspaceId : PgText
  canonicalWorkspacePath : PgText
  admissionGeneration : AdmissionGeneration
  claimedByCommandId : CommandRowId

structure StudyActorWorkAllocationRow where
  studyActorWorkAllocationId : Id Tbl.studyActorWorkAllocations
  studyRunId : StudyRunId
  pairOrdinal : StudyRunPairOrdinal
  treatment : StudyTreatment
  populationPhase : StudyPopulationPhase
  roleOrdinal : StudyRoleOrdinal
  operatingCycleId : OperatingCycleId
  workItemId : WorkItemId
  reservationAmountMicros : UsdMicros
  supervisorEpochId : SupervisorEpochId
  supervisorEpochIdentity : PgText
  admissionGeneration : AdmissionGeneration
  allocatedByCommandId : CommandRowId

structure NativeExecutionProfileQualificationLaunchClaimRow where
  nativeExecutionProfileQualificationLaunchId : NativeExecutionProfileQualificationLaunchId
  operatingCycleId : OperatingCycleId
  budgetReservationId : BudgetReservationId
  executionProfileId : ExecutionProfileId
  supervisorEpochId : SupervisorEpochId
  supervisorEpochIdentity : PgText
  nativeWorkspaceId : PgText
  canonicalWorkspacePath : PgText
  admissionGeneration : AdmissionGeneration
  claimedByCommandId : CommandRowId

structure StudyActorTaskAttemptRecoverySettlementRow where
  studyActorObligationId : StudyActorObligationId
  actorAttemptId : ActorAttemptId
  nativeChildId : NativeChildId
  nativeChildRecoveryReceiptId : NativeChildRecoveryReceiptId
  accountingState : StudyActorTaskAttemptRecoveryAccountingState
  settledByCommandId : CommandRowId

structure StudyFrozenForumHeadRow where
  studyEpisodeId : StudyEpisodeId
  forumThreadId : ForumThreadId
  frozenHeadMessageOrdinal : Count
  frozenByCommandId : CommandRowId

structure StudyForumExposureRow where
  forumExposureId : ForumExposureId
  studyActorObligationId : StudyActorObligationId
  episodeForumId : EpisodeForumId
  visibleFromMessageOrdinal : Ordinal
  visibleThroughMessageOrdinal : Count
  admittedByCommandId : CommandRowId

structure StudyForumMessageRow where
  forumMessageId : ForumMessageId
  forumThreadId : ForumThreadId
  threadMessageOrdinal : Ordinal
  author : Option ActorOccurrenceId
  messageKind : ForumMessageKind
  inReplyToMessageId : Option ForumMessageId
  supersedesMessageId : Option ForumMessageId
  bodyUtf8 : PgText
  bodyDigest : Blake3Digest
  publicationState : ForumPublicationState
  createdByCommandId : CommandRowId

structure StudyForumReadReceiptRow where
  forumReadReceiptId : ForumReadReceiptId
  studyActorObligationId : StudyActorObligationId
  forumThreadId : ForumThreadId
  firstMessageOrdinal : Ordinal
  throughMessageOrdinal : Ordinal
  returnedByteCount : Ordinal
  renderingDigest : Blake3Digest
  renderedContentObjectId : ContentObjectId
  returnedByCommandId : CommandRowId

structure StudyDecisionRow where
  studyActorObligationId : StudyActorObligationId
  decisionUtf8 : PgText
  decisionDigest : Blake3Digest
  citedForumMessageId : Option ForumMessageId
  recordedByCommandId : CommandRowId

structure StudyGroundTruthRevealRow where
  studyEpisodeId : StudyEpisodeId
  revealUtf8 : PgText
  revealDigest : Blake3Digest
  revealedByCommandId : CommandRowId

structure StudyMeasurementResultRow where
  studyMeasurementResultId : StudyMeasurementResultId
  studyEpisodeId : StudyEpisodeId
  measurementSlot : StudyMeasurementSlot
  resultStatus : StudyMeasurementStatus
  observedValue : Option I64
  valueDigest : Option Blake3Digest
  reasonDigest : Option Blake3Digest
  recordedByCommandId : CommandRowId

structure StudyExperimentalForkRow where
  experimentalForkId : ExperimentalForkId
  sourceStudyEpisodeId : StudyEpisodeId
  forkedStudyEpisodeId : StudyEpisodeId
  treatmentDelta : StudyTreatment
  createdByCommandId : CommandRowId

/-- The body tables hold one row for each command and each event. -/
structure CommandBodyRow where
  commandRowId : CommandRowId
  body : CommandBody

structure EventBodyRow where
  eventId : EventId
  body : EventBody

end Society.Kernel
