import Society.Kernel.Commands

namespace Society.Kernel
open Society.Relational

inductive StudyEvent
  | protocolRevisionAdmitted (protocolRevisionId : StudyProtocolRevisionId)
  | worldRevisionAdmitted (worldRevisionId : StudyWorldRevisionId)
  | measurementRevisionAdmitted (measurementRevisionId : StudyMeasurementRevisionId)
  | institutionRevisionAdmitted (institutionRevisionId : StudyInstitutionRevisionId)
  | populationSnapshotAdmitted (populationSnapshotId : StudyPopulationSnapshotId)
  | episodeAdmitted (episodeId : StudyEpisodeId)
  | treatmentAssigned
      (treatmentAssignmentId : StudyTreatmentAssignmentId) (episodeId : StudyEpisodeId)
      (treatment : StudyTreatment)
  | matchedPairAdmitted (pairId : StudyPairId)
  | studyRunAdmitted
      (studyRunId : StudyRunId) (protocolRevisionId : StudyProtocolRevisionId)
      (planContentObjectId : ContentObjectId) (planDigest : Blake3Digest)
      (pairCount : StudyRunPairCount)
  | studyRunPairRegistered
      (studyRunId : StudyRunId) (pairId : StudyPairId) (pairOrdinal : StudyRunPairOrdinal)
      (randomizationDigest : Blake3Digest) (lifecycleState : StudyRunLifecycleState)
  | studyRunStarted (studyRunId : StudyRunId)
  | studyRunCompleted (studyRunId : StudyRunId)
  | episodeForumCreated (forumId : EpisodeForumId) (episodeId : StudyEpisodeId)
  | forumThreadOpened (threadId : ForumThreadId) (forumId : EpisodeForumId)
  | actorObligationAdmitted
      (obligationId : StudyActorObligationId) (actorOccurrenceId : ActorOccurrenceId)
      (episodeId : StudyEpisodeId) (populationSnapshotId : StudyPopulationSnapshotId)
      (phase : StudyPopulationPhase)
  | actorObligationCompleted (obligationId : StudyActorObligationId)
  | actorObligationFailed (obligationId : StudyActorObligationId) (reasonDigest : Blake3Digest)
  | actorRuntimeBound
      (obligationId : StudyActorObligationId) (officeSessionId : RootAuthorityOfficeSessionId)
      (nativeChildId : NativeChildId) (nativeChildSpawnAdmissionId : NativeChildSpawnAdmissionId)
      (executionProfileId : ExecutionProfileId)
  | actorTaskAttemptRuntimeBound
      (obligationId : StudyActorObligationId) (actorAttemptId : ActorAttemptId)
      (nativeChildId : NativeChildId) (nativeChildSpawnAdmissionId : NativeChildSpawnAdmissionId)
      (executionProfileId : ExecutionProfileId)
  | actorRuntimeReconciled (obligationId : StudyActorObligationId) (nativeChildId : NativeChildId)
  | actorTaskAttemptRecoverySettled
      (obligationId : StudyActorObligationId) (actorAttemptId : ActorAttemptId)
      (nativeChildId : NativeChildId)
      (nativeChildRecoveryReceiptId : NativeChildRecoveryReceiptId)
      (accountingState : StudyActorTaskAttemptRecoveryAccountingState)
  | groundTruthRevealed (episodeId : StudyEpisodeId) (revealDigest : Blake3Digest)
  | forumHeadFrozen
      (episodeId : StudyEpisodeId) (threadId : ForumThreadId) (headMessageOrdinal : I64)
  | populationReplaced
      (episodeId : StudyEpisodeId) (successorPopulationSnapshotId : StudyPopulationSnapshotId)
  | forumExposureAdmitted
      (exposureId : ForumExposureId) (obligationId : StudyActorObligationId)
      (visibleFromMessageOrdinal : I64) (visibleThroughMessageOrdinal : I64)
  | forumMessagePublished
      (messageId : ForumMessageId) (threadId : ForumThreadId) (messageOrdinal : I64)
      (authorOccurrenceId : ActorOccurrenceId) (kind : ForumMessageKind)
      (bodyDigest : Blake3Digest)
  | matchedCorrectionReleased
      (pairId : StudyPairId) (retainedMessageId : ForumMessageId)
      (resetMessageId : ForumMessageId) (bodyDigest : Blake3Digest)
  | forumMessagesRead
      (receiptId : ForumReadReceiptId) (obligationId : StudyActorObligationId)
      (threadId : ForumThreadId) (firstMessageOrdinal : I64) (throughMessageOrdinal : I64)
      (renderedDigest : Blake3Digest) (renderedContentObjectId : ContentObjectId)
  | decisionRecorded (obligationId : StudyActorObligationId)
  | measurementResultRecorded
      (resultId : StudyMeasurementResultId) (episodeId : StudyEpisodeId)
      (status : StudyMeasurementStatus)
  | episodeClosed (episodeId : StudyEpisodeId)
  | experimentalForkCreated
      (forkId : ExperimentalForkId) (episodeId : StudyEpisodeId)
      (sourceEpisodeId : StudyEpisodeId) (treatmentDelta : StudyTreatment)
  | forumMessageRetracted (messageId : ForumMessageId) (obligationId : StudyActorObligationId)
  deriving DecidableEq

/-- What an accepted command appends to the event ledger. -/
inductive EventBody
  | societyIdentityCreated (societyId : SocietyId)
  | rootAuthorityOfficeInstalled (officeId : OfficeId)
  | foundingMissionInstalled
      (missionId : FoundingMissionId) (applicationRevisionId : ApplicationRevisionId)
  | rootAuthorityAppointed (occupancyId : OfficeOccupancyId) (principalId : PrincipalId)
  | r0HardCeilingSet (societyId : SocietyId) (ceiling : UsdMicros)
  | societyBootstrapped (societyId : SocietyId)
  | operatingCycleProposed
      (cycleId : OperatingCycleId) (generation : AdmissionGeneration)
      (treatment : OperatingCycleTreatment) (budgetCeiling : UsdMicros)
  | operatingCycleStateChanged
      (cycleId : OperatingCycleId) (state : OperatingCycleState)
      (generation : AdmissionGeneration)
  | rootAuthorityOfficeSessionStarted
      (sessionId : RootAuthorityOfficeSessionId) (cycleId : OperatingCycleId)
  | rootAuthorityOfficeSessionStateChanged
      (sessionId : RootAuthorityOfficeSessionId) (state : OfficeSessionState)
  | officeTurnOpened
      (turnId : OfficeTurnId) (sessionId : RootAuthorityOfficeSessionId)
      (purpose : OfficeTurnPurpose)
  | officeTurnSettled
      (turnId : OfficeTurnId) (sessionId : RootAuthorityOfficeSessionId)
      (chargedDelta : UsdMicros)
  | budgetReserved
      (reservationId : BudgetReservationId) (cycleId : OperatingCycleId) (amount : UsdMicros)
  | budgetReconciled (reservationId : BudgetReservationId) (observed : UsdMicros)
  | budgetAdmissionFrozen
      (reservationId : BudgetReservationId) (cycleId : OperatingCycleId)
      (cancellationRequestId : CancellationRequestId) (postmortemId : CostPostmortemId)
      (reason : BudgetFreezeReason)
  | cancellationRequested
      (cancellationRequestId : CancellationRequestId) (cycleId : OperatingCycleId)
      (mode : CancellationMode) (generation : AdmissionGeneration)
  | cancellationReconciled
      (cancellationRequestId : CancellationRequestId) (cycleId : OperatingCycleId)
  | costPostmortemClosed
      (postmortemId : CostPostmortemId) (reservationId : BudgetReservationId)
      (cycleId : OperatingCycleId) (resolution : CostPostmortemResolution) (charged : UsdMicros)
  | projectCreated (projectId : ProjectId) (applicationRevisionId : ApplicationRevisionId)
  | projectChartered (projectId : ProjectId)
  | projectStateChanged (projectId : ProjectId) (state : ProjectState)
  | projectMilestoneCompleted (projectMilestoneId : ProjectMilestoneId)
  | ticketCreated (ticketId : TicketId) (projectId : ProjectId)
  | ticketStateChanged (ticketId : TicketId) (state : TicketState)
  | graphObjectRevisionAdded (graphObjectId : GraphObjectId) (graphRevisionId : GraphRevisionId)
  | graphRevisionCommitted (graphRevisionId : GraphRevisionId)
  | graphEdgeAdded (graphEdgeId : GraphEdgeId)
  | episodeCreated (causalEpisodeId : CausalEpisodeId) (projectId : ProjectId)
  | episodeStateChanged (causalEpisodeId : CausalEpisodeId) (state : EpisodeState)
  | adversarialReviewRequested (adversarialReviewId : AdversarialReviewId)
  | adversarialReviewerAssigned
      (adversarialReviewId : AdversarialReviewId) (reviewerPrincipalId : PrincipalId)
      (reviewerActorInstanceId : ActorInstanceId) (reviewerActorAttemptId : ActorAttemptId)
  | reviewChallengeSubmitted
      (reviewChallengeId : ReviewChallengeId) (authorPrincipalId : PrincipalId)
  | reviewChallengeResponded (reviewChallengeId : ReviewChallengeId)
  | reviewChallengeDispositioned
      (reviewChallengeId : ReviewChallengeId) (disposition : ReviewDispositionKind)
  | adversarialReviewResolved
      (adversarialReviewId : AdversarialReviewId) (state : AdversarialReviewState)
  | postmortemTriggered (postmortemId : PostmortemId)
  | postmortemCausalClaimRecorded (postmortemCausalClaimId : PostmortemCausalClaimId)
  | postmortemActionProposed (postmortemActionProposalId : PostmortemActionProposalId)
  | postmortemClosed (postmortemId : PostmortemId)
  | actorConfigurationRegistered
      (actorConfigurationId : ActorConfigurationId)
      (actorConfigurationRevisionId : ActorConfigurationRevisionId)
  | contextPackRegistered (contextPackId : ContextPackId)
  | actorInstanceAdmitted (actorInstanceId : ActorInstanceId) (principalId : PrincipalId)
  | ticketAdmitted (ticketId : TicketId)
  | workItemRegistered
      (workItemId : WorkItemId) (ticketId : TicketId)
      (adversarialReviewId : Option AdversarialReviewId)
  | workItemClaimed
      (workItemId : WorkItemId) (workLeaseId : WorkLeaseId) (actorInstanceId : ActorInstanceId)
  | actorAttemptStarted
      (actorAttemptId : ActorAttemptId) (workItemId : WorkItemId)
      (budgetReservationId : BudgetReservationId)
  | actorAttemptTerminalAttested
      (actorAttemptId : ActorAttemptId) (terminalKind : ActorAttemptTerminalKind)
  | ticketAttemptValidated (actorAttemptId : ActorAttemptId) (ticketId : TicketId)
  | actorAttemptRetryPrepared
      (actorAttemptId : ActorAttemptId) (workItemId : WorkItemId) (ticketId : TicketId)
  | ticketCompleted (ticketId : TicketId) (actorAttemptId : ActorAttemptId)
  | workLeaseExpired (workLeaseId : WorkLeaseId) (workItemId : WorkItemId)
  | actorAttemptCancellationRequested
      (actorAttemptId : ActorAttemptId) (reason : ActorAttemptCancellationReason)
  | outcomeObligationRegistered (outcomeObligationId : OutcomeObligationId) (projectId : ProjectId)
  | outcomeObligationResolved
      (outcomeObligationId : OutcomeObligationId) (state : OutcomeObligationState)
  | contentSealReceiptRecorded
      (contentSealReceiptId : ContentSealReceiptId) (digest : Blake3Digest)
  | contentObjectRegistered
      (contentObjectId : ContentObjectId) (contentSealReceiptId : ContentSealReceiptId)
  | forensicManifestRegistered
      (forensicManifestId : ForensicManifestId)
      (producingDeterministicExperimentId : DeterministicExperimentId)
      (evaluatorOutputContentObjectId : ContentObjectId)
  | deterministicEvaluatorForensicManifestRegistered
      (forensicManifestId : ForensicManifestId)
      (deterministicExperimentId : DeterministicExperimentId)
      (nativeChildSpawnAdmissionId : NativeChildSpawnAdmissionId)
      (nativeChildStreamSealId : NativeChildStreamSealId)
      (evaluatorOutputContentObjectId : ContentObjectId)
  | deterministicExperimentRegistered
      (deterministicExperimentId : DeterministicExperimentId)
      (evaluatorRevisionId : EvaluatorRevisionId) (inputManifestId : InputManifestId)
  | deterministicEvaluationReceiptRecorded
      (deterministicEvaluationReceiptId : DeterministicEvaluationReceiptId)
      (deterministicExperimentId : DeterministicExperimentId)
  | deterministicEvidenceAdmitted
      (evidenceAdmissionId : EvidenceAdmissionId)
      (deterministicEvaluationReceiptId : DeterministicEvaluationReceiptId)
      (semanticRole : EvidenceSemanticRole) (applicability : EvidenceApplicability)
      (limitationKind : EvidenceLimitationKind)
  | deterministicExperimentFinalized
      (deterministicExperimentId : DeterministicExperimentId)
      (terminalState : DeterministicExperimentState)
  | deterministicEvaluatorNativeChildAdmitted
      (nativeChildSpawnAdmissionId : NativeChildSpawnAdmissionId) (owner : NativeChildOwner)
  | deterministicEvaluatorNativeChildSpawnRecorded
      (nativeChildId : NativeChildId) (nativeChildSpawnAdmissionId : NativeChildSpawnAdmissionId)
  | piChildSpawnAdmitted
      (nativeChildSpawnAdmissionId : NativeChildSpawnAdmissionId) (owner : PiChildOwner)
      (budgetReservationId : BudgetReservationId)
  | inertPiChildSpawnRecorded
      (nativeChildId : NativeChildId) (nativeChildSpawnAdmissionId : NativeChildSpawnAdmissionId)
  | piAdapterReadyRecorded (nativeChildId : NativeChildId) (piSessionId : PiSessionId)
  | piCreateSessionAuthorized (nativeChildId : NativeChildId)
  | piCreateSessionDeliveryRecorded (nativeChildId : NativeChildId)
  | piSessionReadyRecorded (nativeChildId : NativeChildId) (piSessionId : PiSessionId)
  | piAbortControlDeliveryRecorded
      (piAbortControlReceiptId : PiAbortControlReceiptId) (nativeChildId : NativeChildId)
      (cancellationPropagationId : CancellationPropagationId)
      (correlationIdentity : PiCorrelationIdentity) (abortCommandDigest : Blake3Digest)
      (outcome : PiAbortControlWriteOutcome)
  | childStreamSealed
      (nativeChildStreamSealId : NativeChildStreamSealId) (nativeChildId : NativeChildId)
      (streamKind : ChildStreamKind) (completeness : ChildStreamSealCompleteness)
  | childProcessLivenessObserved
      (nativeChildLivenessObservationId : NativeChildLivenessObservationId)
      (nativeChildId : NativeChildId) (liveness : ProcessGroupLiveness)
  | processSignalReceiptRecorded
      (processSignalReceiptId : ProcessSignalReceiptId) (nativeChildId : NativeChildId)
      (action : ProcessSignalAction) (delivery : ProcessSignalDelivery)
      (observedLiveness : ProcessGroupLiveness) (cause : ProcessSignalCause)
  | directChildReaped
      (nativeChildReapReceiptId : NativeChildReapReceiptId) (nativeChildId : NativeChildId)
      (waitStatus : DirectChildWaitStatus) (groupLivenessBeforeCleanup : ProcessGroupLiveness)
      (groupLivenessAfterCleanup : ProcessGroupLiveness)
  | childRecoveryObserved
      (nativeChildRecoveryReceiptId : NativeChildRecoveryReceiptId)
      (nativeChildId : NativeChildId) (observation : ChildRecoveryObservation)
      (groupLivenessAfterRestart : ProcessGroupLiveness)
  | childProcessFinalized (nativeChildId : NativeChildId) (disposition : ChildTerminalDisposition)
  | cancellationPropagationBegun
      (cancellationPropagationId : CancellationPropagationId)
      (cancellationRequestId : CancellationRequestId)
  | cancellationPropagationReconciled (cancellationPropagationId : CancellationPropagationId)
  | cancellationPropagationContainmentFailed
      (cancellationPropagationId : CancellationPropagationId)
  | nativeChildSpawnInvalidated
      (nativeChildSpawnAdmissionId : NativeChildSpawnAdmissionId)
      (reason : NativeChildNotSpawnedReason)
  | supervisorEpochOpened (supervisorEpochId : SupervisorEpochId)
  | piOfficeTurnPromptAuthorized
      (piOfficeTurnPromptAuthorizationId : PiOfficeTurnPromptAuthorizationId)
      (officeTurnId : OfficeTurnId) (nativeChildId : NativeChildId)
      (correlationIdentity : PiCorrelationIdentity) (budgetReservationId : BudgetReservationId)
  | piOfficeTurnPromptDelivered
      (officeTurnId : OfficeTurnId) (correlationIdentity : PiCorrelationIdentity)
  | piOfficeTurnPromptAccepted
      (officeTurnId : OfficeTurnId) (correlationIdentity : PiCorrelationIdentity)
      (commandResultSequence : PiProtocolSequence)
  | piOfficeTurnUsageRecorded
      (piOfficeTurnUsageReceiptId : PiOfficeTurnUsageReceiptId) (officeTurnId : OfficeTurnId)
      (protocolSequence : PiProtocolSequence) (cumulativeMicroUsd : UsdMicros)
  | piOfficeTurnUsageFrozen
      (officeTurnId : OfficeTurnId) (budgetReservationId : BudgetReservationId)
      (cancellationRequestId : CancellationRequestId) (postmortemId : CostPostmortemId)
      (failure : PiOfficeTurnUsageFailure)
  | piOfficeTurnTerminalRecorded
      (piOfficeTurnTerminalReceiptId : PiOfficeTurnTerminalReceiptId)
      (officeTurnId : OfficeTurnId) (disposition : PiOfficeTurnDisposition)
      (assistantOutcome : PiOfficeTurnAssistantOutcome)
  | piOfficeSessionDisposeAuthorized
      (sessionId : RootAuthorityOfficeSessionId) (nativeChildId : NativeChildId)
      (correlationIdentity : PiCorrelationIdentity) (authorizedGeneration : AdmissionGeneration)
  | piOfficeSessionDisposeDelivered
      (sessionId : RootAuthorityOfficeSessionId) (nativeChildId : NativeChildId)
      (correlationIdentity : PiCorrelationIdentity)
  | piOfficeSessionDisposeAccepted
      (sessionId : RootAuthorityOfficeSessionId) (correlationIdentity : PiCorrelationIdentity)
      (commandResultSequence : PiProtocolSequence)
  | piOfficeSessionDisposeUsageRecorded
      (sessionId : RootAuthorityOfficeSessionId) (protocolSequence : PiProtocolSequence)
      (cumulativeMicroUsd : UsdMicros)
  | piOfficeSessionDisposeUsageFrozen
      (sessionId : RootAuthorityOfficeSessionId) (budgetReservationId : BudgetReservationId)
      (cancellationRequestId : CancellationRequestId) (postmortemId : CostPostmortemId)
      (failure : PiOfficeTurnUsageFailure)
  | piOfficeSessionDisposed
      (piOfficeSessionDisposeReceiptId : PiOfficeSessionDisposeReceiptId)
      (sessionId : RootAuthorityOfficeSessionId) (budgetReservationId : BudgetReservationId)
      (observedCumulativeMicroUsd : UsdMicros)
      (budgetDisposition : PiOfficeSessionDisposeBudgetDisposition)
  | piTaskAttemptPromptAuthorized
      (piTaskAttemptPromptAuthorizationId : PiTaskAttemptPromptAuthorizationId)
      (actorAttemptId : ActorAttemptId) (nativeChildId : NativeChildId)
      (correlationIdentity : PiCorrelationIdentity) (budgetReservationId : BudgetReservationId)
  | piTaskAttemptPromptDelivered
      (actorAttemptId : ActorAttemptId) (correlationIdentity : PiCorrelationIdentity)
  | piTaskAttemptPromptAccepted
      (actorAttemptId : ActorAttemptId) (correlationIdentity : PiCorrelationIdentity)
      (commandResultSequence : PiProtocolSequence)
  | piTaskAttemptUsageRecorded
      (piTaskAttemptUsageReceiptId : PiTaskAttemptUsageReceiptId)
      (actorAttemptId : ActorAttemptId) (protocolSequence : PiProtocolSequence)
      (cumulativeMicroUsd : UsdMicros)
  | piTaskAttemptUsageFrozen
      (actorAttemptId : ActorAttemptId) (budgetReservationId : BudgetReservationId)
      (cancellationRequestId : CancellationRequestId) (postmortemId : CostPostmortemId)
      (failure : PiTaskAttemptUsageFailure)
  | piTaskAttemptTerminalRecorded
      (piTaskAttemptTerminalReceiptId : PiTaskAttemptTerminalReceiptId)
      (actorAttemptId : ActorAttemptId) (disposition : PiTaskAttemptDisposition)
      (assistantOutcome : PiTaskAttemptAssistantOutcome)
  | piTaskAttemptSessionDisposeAuthorized
      (actorAttemptId : ActorAttemptId) (nativeChildId : NativeChildId)
      (correlationIdentity : PiCorrelationIdentity) (authorizedGeneration : AdmissionGeneration)
  | piTaskAttemptSessionDisposeDelivered
      (actorAttemptId : ActorAttemptId) (nativeChildId : NativeChildId)
      (correlationIdentity : PiCorrelationIdentity)
  | piTaskAttemptSessionDisposeAccepted
      (actorAttemptId : ActorAttemptId) (correlationIdentity : PiCorrelationIdentity)
      (commandResultSequence : PiProtocolSequence)
  | piTaskAttemptSessionDisposeUsageRecorded
      (actorAttemptId : ActorAttemptId) (protocolSequence : PiProtocolSequence)
      (cumulativeMicroUsd : UsdMicros)
  | piTaskAttemptSessionDisposeUsageFrozen
      (actorAttemptId : ActorAttemptId) (budgetReservationId : BudgetReservationId)
      (cancellationRequestId : CancellationRequestId) (postmortemId : CostPostmortemId)
      (failure : PiTaskAttemptUsageFailure)
  | piTaskAttemptSessionDisposed
      (piTaskAttemptSessionDisposeReceiptId : PiTaskAttemptSessionDisposeReceiptId)
      (actorAttemptId : ActorAttemptId) (budgetReservationId : BudgetReservationId)
      (observedCumulativeMicroUsd : UsdMicros)
      (budgetDisposition : PiTaskAttemptSessionDisposeBudgetDisposition)
  | nativeExecutionProfileQualified
      (qualificationId : ExecutionProfileQualificationId) (operatingCycleId : OperatingCycleId)
      (executionProfileId : ExecutionProfileId)
      (nativeChildSpawnAdmissionId : NativeChildSpawnAdmissionId) (nativeChildId : NativeChildId)
  | nativeExecutionProfileQualificationStarted
      (operatingCycleId : OperatingCycleId) (generation : AdmissionGeneration)
  | studyActorTaskAttemptLaunchClaimed
      (launchClaimId : StudyActorTaskAttemptLaunchId)
      (studyActorObligationId : StudyActorObligationId) (operatingCycleId : OperatingCycleId)
      (workItemId : WorkItemId) (actorAttemptId : ActorAttemptId)
      (budgetReservationId : BudgetReservationId) (executionProfileId : ExecutionProfileId)
      (supervisorEpochId : SupervisorEpochId) (admissionGeneration : AdmissionGeneration)
  | nativeExecutionProfileQualificationLaunchClaimed
      (launchClaimId : NativeExecutionProfileQualificationLaunchId)
      (operatingCycleId : OperatingCycleId) (budgetReservationId : BudgetReservationId)
      (executionProfileId : ExecutionProfileId) (supervisorEpochId : SupervisorEpochId)
      (admissionGeneration : AdmissionGeneration)
  | studyActorWorkAllocated
      (studyRunId : StudyRunId) (pairOrdinal : StudyRunPairOrdinal) (treatment : StudyTreatment)
      (phase : StudyPopulationPhase) (role : StudyRoleOrdinal)
      (operatingCycleId : OperatingCycleId) (workItemId : WorkItemId)
      (reservationAmount : UsdMicros) (supervisorEpochId : SupervisorEpochId)
      (admissionGeneration : AdmissionGeneration)
  | studyTransition (event : StudyEvent)
  deriving DecidableEq

end Society.Kernel
