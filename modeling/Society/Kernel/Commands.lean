import Society.Kernel.Domain

namespace Society.Kernel
open Society.Relational

/-- One mission boundary of an application revision; the list of principles keeps the
caller's order. -/
@[ext] structure MissionPrinciple where
  kind : MissionPrincipleKind
  text : MissionPrincipleText
  deriving DecidableEq

@[ext] structure MissionPrinciples where
  principles : List MissionPrinciple
  valid : principles≠[] ∧ principles.length≤16
  deriving DecidableEq

@[ext] structure NorthStarQuestionSet where
  change : NorthStarChangeQuestion
  improvementEvidence : NorthStarImprovementEvidenceQuestion
  boundaryCommitment : NorthStarBoundaryCommitmentQuestion
  revisit : NorthStarRevisitQuestion
  deriving DecidableEq

@[ext] structure ApplicationMissionInput where
  applicationIdentity : ApplicationIdentity
  applicationName : ApplicationName
  revisionOrdinal : ApplicationRevisionOrdinal
  statement : MissionStatement
  principles : MissionPrinciples
  northStarQuestions : NorthStarQuestionSet
  sourceRenderingDigest : Blake3Digest
  deriving DecidableEq

@[ext] structure ProjectNorthStarAlignment where
  applicationRevisionId : ApplicationRevisionId
  changeAnswer : ProjectNorthStarChangeAnswer
  improvementEvidenceAnswer : ProjectNorthStarImprovementEvidenceAnswer
  boundaryCommitmentAnswer : ProjectNorthStarBoundaryCommitmentAnswer
  revisitAnswer : ProjectNorthStarRevisitAnswer
  deriving DecidableEq

/-- The study commands that `StudyTransition` wraps. -/
inductive StudyCommand
  | admitProtocolRevision
      (applicationRevisionId : ApplicationRevisionId) (protocolDigest : Blake3Digest)
      (actorPolicyDigest : Blake3Digest) (forumPromptDigest : Blake3Digest)
      (forumToolDigest : Blake3Digest) (evidenceDigest : Blake3Digest)
      (groundTruthCommitmentDigest : Blake3Digest) (correctionDigest : Blake3Digest)
      (topologyDigest : Blake3Digest) (episodeBudget : StudyBudgetUnits)
  | admitWorldRevision (protocolRevisionId : StudyProtocolRevisionId) (worldDigest : Blake3Digest)
  | admitMeasurementRevision
      (protocolRevisionId : StudyProtocolRevisionId) (analysisDigest : Blake3Digest)
      (measurementSlotCount : StudyMeasurementSlotCount)
  | admitInstitutionRevision
      (protocolRevisionId : StudyProtocolRevisionId) (institutionDigest : Blake3Digest)
  | admitPopulationSnapshot
      (protocolRevisionId : StudyProtocolRevisionId) (populationDigest : Blake3Digest)
      (populationSize : I64)
  | admitEpisode
      (protocolRevisionId : StudyProtocolRevisionId) (worldRevisionId : StudyWorldRevisionId)
      (measurementRevisionId : StudyMeasurementRevisionId)
      (institutionRevisionId : StudyInstitutionRevisionId)
      (populationSnapshotId : StudyPopulationSnapshotId) (randomizationDigest : Blake3Digest)
  | assignTreatment (episodeId : StudyEpisodeId) (treatment : StudyTreatment)
  | admitMatchedPair (retainedEpisodeId : StudyEpisodeId) (resetEpisodeId : StudyEpisodeId)
  | admitStudyRun
      (protocolRevisionId : StudyProtocolRevisionId) (planContentObjectId : ContentObjectId)
      (planDigest : Blake3Digest) (pairCount : StudyRunPairCount)
  | registerStudyRunPair
      (studyRunId : StudyRunId) (pairOrdinal : StudyRunPairOrdinal) (pairId : StudyPairId)
      (randomizationDigest : Blake3Digest)
  | startStudyRun (studyRunId : StudyRunId)
  | completeStudyRun (studyRunId : StudyRunId)
  | createEpisodeForum (episodeId : StudyEpisodeId) (charterDigest : Blake3Digest)
  | openForumThread (forumId : EpisodeForumId) (title : ForumThreadTitle)
  | admitActorObligation
      (episodeId : StudyEpisodeId) (phase : StudyPopulationPhase) (role : StudyRoleOrdinal)
      (privateViewDigest : Blake3Digest) (promptDigest : Blake3Digest)
      (toolDigest : Blake3Digest) (budget : StudyBudgetUnits) (readBudget : ForumReadBudget)
      (postBudget : ForumPostBudget)
  | completeActorObligation
      (obligationId : StudyActorObligationId) (chargedBudget : StudyBudgetUnits)
  | failActorObligation (obligationId : StudyActorObligationId) (reasonDigest : Blake3Digest)
  | bindActorRuntime
      (obligationId : StudyActorObligationId) (officeSessionId : RootAuthorityOfficeSessionId)
      (nativeChildId : NativeChildId) (nativeChildSpawnAdmissionId : NativeChildSpawnAdmissionId)
  | bindActorTaskAttemptRuntime
      (obligationId : StudyActorObligationId) (actorAttemptId : ActorAttemptId)
      (nativeChildId : NativeChildId) (nativeChildSpawnAdmissionId : NativeChildSpawnAdmissionId)
  | reconcileActorRuntime (obligationId : StudyActorObligationId) (nativeChildId : NativeChildId)
  | settleActorTaskAttemptAfterRecovery
      (obligationId : StudyActorObligationId) (actorAttemptId : ActorAttemptId)
      (nativeChildId : NativeChildId)
      (nativeChildRecoveryReceiptId : NativeChildRecoveryReceiptId)
  | freezeForumHead (episodeId : StudyEpisodeId) (threadId : ForumThreadId)
  | replacePopulation
      (episodeId : StudyEpisodeId) (successorPopulationSnapshotId : StudyPopulationSnapshotId)
  | admitForumExposure
      (obligationId : StudyActorObligationId) (forumId : EpisodeForumId)
      (visibleFromMessageOrdinal : I64)
  | publishForumMessage
      (obligationId : StudyActorObligationId) (kind : ForumMessageKind) (body : ForumMessageBody)
      (inReplyToMessageId : Option ForumMessageId) (supersedesMessageId : Option ForumMessageId)
  | retractForumMessage (obligationId : StudyActorObligationId) (messageId : ForumMessageId)
  | releaseMatchedCorrection
      (pairId : StudyPairId) (retainedThreadId : ForumThreadId) (resetThreadId : ForumThreadId)
      (correction : ForumMessageBody)
  | readForum
      (obligationId : StudyActorObligationId) (firstMessageOrdinal : I64)
      (throughMessageOrdinal : I64) (renderedContentObjectId : ContentObjectId)
  | recordDecision
      (obligationId : StudyActorObligationId) (decision : StudyDecisionBody)
      (citedMessageId : Option ForumMessageId)
  | revealGroundTruth (episodeId : StudyEpisodeId) (reveal : StudyGroundTruthReveal)
  | recordMeasurementResult
      (episodeId : StudyEpisodeId) (measurementSlot : StudyMeasurementSlot)
      (status : StudyMeasurementStatus) (value : Option I64) (valueDigest : Option Blake3Digest)
      (reasonDigest : Option Blake3Digest)
  | closeEpisode (episodeId : StudyEpisodeId)
  | forkEpisode (sourceEpisodeId : StudyEpisodeId) (treatmentDelta : StudyTreatment)
  deriving DecidableEq

/-- The typed requests of the kernel, in the order of their capability codes. -/
inductive CommandBody
  | createSocietyIdentity (name : SocietyName)
  | installRootAuthorityOffice
  | installFoundingMission (mission : ApplicationMissionInput)
  | appointInitialRootAuthority (actorDisplayName : PrincipalDisplayName)
  | setR0HardCeiling (ceiling : UsdMicros)
  | bootstrapSociety
  | proposeOperatingCycle (treatment : OperatingCycleTreatment) (budgetCeiling : UsdMicros)
  | admitOperatingCycle (cycleId : OperatingCycleId)
  | startRootAuthorityOfficeSession (cycleId : OperatingCycleId)
  | recordOfficeSessionReady (sessionId : RootAuthorityOfficeSessionId)
  | recordOfficeSessionTerminal
      (sessionId : RootAuthorityOfficeSessionId) (terminalState : OfficeSessionTerminalState)
  | openOfficeTurn (sessionId : RootAuthorityOfficeSessionId) (purpose : OfficeTurnPurpose)
  | settleOfficeTurn (turnId : OfficeTurnId) (terminalReceiptId : PiOfficeTurnTerminalReceiptId)
  | quiesceOperatingCycle (cycleId : OperatingCycleId)
  | recordCycleDrained (cycleId : OperatingCycleId)
  | resumeOperatingCycle (cycleId : OperatingCycleId)
  | reconcileOperatingCycle (cycleId : OperatingCycleId)
  | closeOperatingCycle (cycleId : OperatingCycleId)
  | reserveBudget (cycleId : OperatingCycleId) (amount : UsdMicros)
  | reconcileBudget (reservationId : BudgetReservationId) (observation : CostObservation)
  | requestCancellation (cycleId : OperatingCycleId) (mode : CancellationMode)
  | reconcileCancellation (cancellationRequestId : CancellationRequestId)
  | closeCostPostmortem (postmortemId : CostPostmortemId) (resolution : CostPostmortemResolution)
  | createProject
      (operatingCycleId : OperatingCycleId) (projectName : ProjectName)
      (northStarAlignment : ProjectNorthStarAlignment)
  | charterProject
      (operatingCycleId : OperatingCycleId) (projectId : ProjectId)
      (objective : ProjectObjectiveText) (initialMilestone : ProjectMilestoneName)
      (stopCondition : ProjectStopConditionText)
  | transitionProject
      (operatingCycleId : OperatingCycleId) (projectId : ProjectId) (target : ProjectState)
  | completeProjectMilestone
      (operatingCycleId : OperatingCycleId) (projectMilestoneId : ProjectMilestoneId)
  | reopenProject (operatingCycleId : OperatingCycleId) (projectId : ProjectId)
  | createTicket
      (operatingCycleId : OperatingCycleId) (projectId : ProjectId) (ticketTitle : TicketTitle)
      (acceptanceCondition : TicketAcceptanceConditionText)
      (prerequisiteTicketId : Option TicketId)
  | transitionTicket
      (operatingCycleId : OperatingCycleId) (ticketId : TicketId) (target : TicketState)
  | addGraphObjectRevision
      (operatingCycleId : OperatingCycleId) (projectId : ProjectId)
      (causalEpisodeId : Option CausalEpisodeId) (graphObjectId : Option GraphObjectId)
      (body : GraphRevisionBody)
  | commitGraphRevision (operatingCycleId : OperatingCycleId) (graphRevisionId : GraphRevisionId)
  | addGraphEdge
      (operatingCycleId : OperatingCycleId) (projectId : ProjectId)
      (fromGraphRevisionId : GraphRevisionId) (toGraphRevisionId : GraphRevisionId)
      (edgeKind : GraphEdgeKind)
  | createEpisode (operatingCycleId : OperatingCycleId) (projectId : ProjectId)
  | transitionEpisode
      (operatingCycleId : OperatingCycleId) (causalEpisodeId : CausalEpisodeId)
      (target : EpisodeState)
  | reopenEpisode (operatingCycleId : OperatingCycleId) (causalEpisodeId : CausalEpisodeId)
  | requestAdversarialReview
      (operatingCycleId : OperatingCycleId) (projectId : ProjectId)
      (targetGraphRevisionId : GraphRevisionId)
  | assignAdversarialReviewer
      (operatingCycleId : OperatingCycleId) (adversarialReviewId : AdversarialReviewId)
      (reviewerPrincipalId : PrincipalId) (reviewerActorInstanceId : ActorInstanceId)
      (reviewerActorAttemptId : ActorAttemptId)
  | submitReviewChallenge
      (operatingCycleId : OperatingCycleId) (adversarialReviewId : AdversarialReviewId)
      (targetGraphRevisionId : GraphRevisionId) (authorPrincipalId : PrincipalId)
      (severity : ReviewChallengeSeverity) (failureHypothesis : ReviewFailureHypothesis)
  | respondToReviewChallenge
      (operatingCycleId : OperatingCycleId) (reviewChallengeId : ReviewChallengeId)
      (response : ReviewResponseText)
  | dispositionReviewChallenge
      (operatingCycleId : OperatingCycleId) (reviewChallengeId : ReviewChallengeId)
      (disposition : ReviewDispositionKind)
  | resolveAdversarialReview
      (operatingCycleId : OperatingCycleId) (adversarialReviewId : AdversarialReviewId)
      (resolution : ReviewResolutionKind)
  | triggerPostmortem
      (operatingCycleId : OperatingCycleId) (projectId : ProjectId)
      (causalEpisodeId : Option CausalEpisodeId)
  | recordPostmortemCausalClaim
      (operatingCycleId : OperatingCycleId) (postmortemId : PostmortemId)
      (claimKind : PostmortemCausalClaimKind) (claim : PostmortemCausalClaimText)
  | proposePostmortemAction
      (operatingCycleId : OperatingCycleId) (postmortemId : PostmortemId)
      (actionKind : PostmortemActionKind) (action : PostmortemActionProposalText)
  | closePostmortem (operatingCycleId : OperatingCycleId) (postmortemId : PostmortemId)
  | registerActorConfiguration
      (configurationName : ActorConfigurationName) (modelPolicy : ActorModelPolicy)
      (primaryAttractor : DevelopmentalAttractor)
  | registerContextPack
      (operatingCycleId : OperatingCycleId) (purpose : ContextPackPurpose)
      (renderingDigest : Blake3Digest)
  | admitActorInstance
      (operatingCycleId : OperatingCycleId)
      (actorConfigurationRevisionId : ActorConfigurationRevisionId)
      (executionProfileId : ExecutionProfileId) (actorDisplayName : PrincipalDisplayName)
  | admitTicket (operatingCycleId : OperatingCycleId) (ticketId : TicketId)
  | registerWorkItem
      (operatingCycleId : OperatingCycleId) (ticketId : TicketId)
      (actorInstanceId : ActorInstanceId) (contextPackId : ContextPackId)
      (workKind : WorkItemKind) (adversarialReviewId : Option AdversarialReviewId)
      (assignment : WorkAssignmentText)
  | claimWorkItem (operatingCycleId : OperatingCycleId) (workItemId : WorkItemId)
  | startActorAttempt
      (operatingCycleId : OperatingCycleId) (workItemId : WorkItemId)
      (reservationAmount : UsdMicros)
  | attestActorAttemptTerminal
      (actorAttemptId : ActorAttemptId) (terminalKind : ActorAttemptTerminalKind)
  | validateTicketAttempt (operatingCycleId : OperatingCycleId) (actorAttemptId : ActorAttemptId)
  | retryActorAttempt (operatingCycleId : OperatingCycleId) (actorAttemptId : ActorAttemptId)
  | completeTicket (operatingCycleId : OperatingCycleId) (actorAttemptId : ActorAttemptId)
  | expireWorkLease (workLeaseId : WorkLeaseId)
  | cancelActorAttempt (actorAttemptId : ActorAttemptId) (reason : ActorAttemptCancellationReason)
  | registerOutcomeObligation
      (operatingCycleId : OperatingCycleId) (projectId : ProjectId)
      (obligation : OutcomeObligationText)
  | resolveOutcomeObligation
      (operatingCycleId : OperatingCycleId) (outcomeObligationId : OutcomeObligationId)
      (disposition : OutcomeObligationDisposition)
  | recordContentSealReceipt (digest : Blake3Digest)
  | registerContentObject (contentSealReceiptId : ContentSealReceiptId)
  | registerForensicManifest
      (operatingCycleId : OperatingCycleId)
      (producingDeterministicExperimentId : DeterministicExperimentId)
      (capturePolicy : ForensicManifestCapturePolicy)
      (retentionAccessClass : RetentionAccessClass)
      (evaluatorOutputContentObjectId : ContentObjectId)
  | registerDeterministicEvaluatorForensicManifest
      (operatingCycleId : OperatingCycleId)
      (nativeChildSpawnAdmissionId : NativeChildSpawnAdmissionId)
  | registerDeterministicExperiment
      (operatingCycleId : OperatingCycleId) (projectId : ProjectId) (ticketId : TicketId)
      (targetGraphRevisionId : GraphRevisionId) (evaluatorContentObjectId : ContentObjectId)
      (inputManifestContentObjectId : ContentObjectId)
  | recordDeterministicEvaluationReceipt
      (operatingCycleId : OperatingCycleId)
      (deterministicExperimentId : DeterministicExperimentId)
      (evaluatorRevisionId : EvaluatorRevisionId) (inputManifestId : InputManifestId)
      (forensicManifestId : ForensicManifestId)
      (evaluatorOutputContentObjectId : ContentObjectId)
  | admitDeterministicEvidence
      (operatingCycleId : OperatingCycleId)
      (deterministicEvaluationReceiptId : DeterministicEvaluationReceiptId)
  | finalizeDeterministicExperiment
      (operatingCycleId : OperatingCycleId)
      (deterministicExperimentId : DeterministicExperimentId)
  | admitDeterministicEvaluatorNativeChild
      (operatingCycleId : OperatingCycleId)
      (deterministicExperimentId : DeterministicExperimentId)
      (evaluatorRevisionId : EvaluatorRevisionId) (inputManifestId : InputManifestId)
      (executionProfileId : ExecutionProfileId) (nativeWorkspaceId : NativeWorkspaceId)
      (canonicalWorkspacePath : CanonicalWorkspacePath) (supervisorEpochId : SupervisorEpochId)
      (supervisorEpochIdentity : SupervisorEpochIdentity)
  | recordDeterministicEvaluatorNativeChildSpawn
      (nativeChildSpawnAdmissionId : NativeChildSpawnAdmissionId)
      (childIdentity : SupervisedChildIdentity) (directChildPid : NativeChildPid)
      (processGroupId : OwnedProcessGroupId)
  | openSupervisorEpoch
      (supervisorEpochId : SupervisorEpochId) (supervisorEpochIdentity : SupervisorEpochIdentity)
  | admitPiChildSpawn
      (operatingCycleId : OperatingCycleId) (owner : PiChildOwner)
      (budgetReservationId : BudgetReservationId) (executionProfileId : ExecutionProfileId)
      (nativeWorkspaceId : NativeWorkspaceId) (canonicalWorkspacePath : CanonicalWorkspacePath)
      (supervisorEpochId : SupervisorEpochId) (supervisorEpochIdentity : SupervisorEpochIdentity)
      (piSessionIdentity : PiBoundarySessionIdentity) (spawnNonce : SpawnNonce)
  | recordInertChildSpawn
      (nativeChildSpawnAdmissionId : NativeChildSpawnAdmissionId)
      (childIdentity : SupervisedChildIdentity) (directChildPid : NativeChildPid)
      (processGroupId : OwnedProcessGroupId)
  | recordPiAdapterReady
      (nativeChildId : NativeChildId) (piSessionIdentity : PiBoundarySessionIdentity)
      (spawnNonce : SpawnNonce)
  | authorizePiCreateSession
      (nativeChildId : NativeChildId) (correlationIdentity : PiCorrelationIdentity)
      (createRequestDigest : Blake3Digest)
  | recordPiCreateSessionDelivery
      (nativeChildId : NativeChildId) (correlationIdentity : PiCorrelationIdentity)
      (createRequestDigest : Blake3Digest)
  | recordPiSessionReady
      (nativeChildId : NativeChildId) (piSessionIdentity : PiBoundarySessionIdentity)
  | recordPiAbortControlDelivery
      (nativeChildId : NativeChildId) (cancellationPropagationId : CancellationPropagationId)
      (correlationIdentity : PiCorrelationIdentity) (abortCommandDigest : Blake3Digest)
      (outcome : PiAbortControlWriteOutcome)
  | recordChildStreamSeal
      (nativeChildId : NativeChildId) (streamKind : ChildStreamKind)
      (fullObservedDigest : Blake3Digest) (retainedContentObjectId : ContentObjectId)
      (completeness : ChildStreamSealCompleteness)
  | recordChildProcessLiveness (nativeChildId : NativeChildId) (liveness : ProcessGroupLiveness)
  | recordProcessSignalReceipt
      (nativeChildId : NativeChildId) (action : ProcessSignalAction)
      (delivery : ProcessSignalDelivery) (observedLiveness : ProcessGroupLiveness)
      (cause : ProcessSignalCause)
  | recordDirectChildReap
      (nativeChildId : NativeChildId) (waitStatus : DirectChildWaitStatus)
      (groupLivenessBeforeCleanup : ProcessGroupLiveness)
      (groupLivenessAfterCleanup : ProcessGroupLiveness)
  | recordChildRecovery
      (nativeChildId : NativeChildId) (observation : ChildRecoveryObservation)
      (groupLivenessAfterRestart : ProcessGroupLiveness)
  | finalizeChildProcess (nativeChildId : NativeChildId)
  | beginCancellationPropagation (cancellationRequestId : CancellationRequestId)
  | reconcileCancellationPropagation (cancellationPropagationId : CancellationPropagationId)
  | recordNativeChildNotSpawned
      (nativeChildSpawnAdmissionId : NativeChildSpawnAdmissionId)
      (reason : NativeChildNotSpawnedReason)
  | authorizePiOfficeTurnPrompt
      (officeTurnId : OfficeTurnId) (correlationIdentity : PiCorrelationIdentity)
      (promptContentObjectId : ContentObjectId) (promptDigest : Blake3Digest)
      (frontierEventId : EventId)
  | recordPiOfficeTurnPromptDelivery
      (officeTurnId : OfficeTurnId) (correlationIdentity : PiCorrelationIdentity)
      (promptDigest : Blake3Digest)
  | recordPiOfficeTurnPromptAccepted
      (officeTurnId : OfficeTurnId) (correlationIdentity : PiCorrelationIdentity)
      (commandResultSequence : PiProtocolSequence)
  | recordPiOfficeTurnUsage
      (officeTurnId : OfficeTurnId) (correlationIdentity : PiCorrelationIdentity)
      (protocolSequence : PiProtocolSequence) (usage : PiCumulativeUsage)
  | recordPiOfficeTurnUsageFailure
      (officeTurnId : OfficeTurnId) (correlationIdentity : PiCorrelationIdentity)
      (protocolSequence : PiProtocolSequence) (failure : PiOfficeTurnUsageFailure)
  | recordPiOfficeTurnTerminal
      (officeTurnId : OfficeTurnId) (correlationIdentity : PiCorrelationIdentity)
      (terminalEvidence : PiOfficeTurnTerminalEvidence) (settledSequence : PiProtocolSequence)
      (disposition : PiOfficeTurnDisposition) (assistantOutcome : PiOfficeTurnAssistantOutcome)
      (transcriptDisposition : PiOfficeTurnTranscriptDisposition)
  | authorizePiOfficeSessionDispose
      (sessionId : RootAuthorityOfficeSessionId) (correlationIdentity : PiCorrelationIdentity)
  | recordPiOfficeSessionDisposeDelivery
      (sessionId : RootAuthorityOfficeSessionId) (correlationIdentity : PiCorrelationIdentity)
  | recordPiOfficeSessionDisposeAccepted
      (sessionId : RootAuthorityOfficeSessionId) (correlationIdentity : PiCorrelationIdentity)
      (commandResultSequence : PiProtocolSequence)
  | recordPiOfficeSessionDisposeUsage
      (sessionId : RootAuthorityOfficeSessionId) (correlationIdentity : PiCorrelationIdentity)
      (protocolSequence : PiProtocolSequence) (usage : PiCumulativeUsage)
  | recordPiOfficeSessionDisposeUsageFailure
      (sessionId : RootAuthorityOfficeSessionId) (correlationIdentity : PiCorrelationIdentity)
      (protocolSequence : PiProtocolSequence) (failure : PiOfficeTurnUsageFailure)
  | recordPiOfficeSessionDisposed
      (sessionId : RootAuthorityOfficeSessionId) (correlationIdentity : PiCorrelationIdentity)
      (disposedSequence : PiProtocolSequence)
      (transcriptReceipt : PiOfficeSessionTranscriptReceipt)
  | authorizePiTaskAttemptPrompt
      (actorAttemptId : ActorAttemptId) (correlationIdentity : PiCorrelationIdentity)
      (promptContentObjectId : ContentObjectId) (promptDigest : Blake3Digest)
      (frontierEventId : EventId)
  | recordPiTaskAttemptPromptDelivery
      (actorAttemptId : ActorAttemptId) (correlationIdentity : PiCorrelationIdentity)
      (promptDigest : Blake3Digest)
  | recordPiTaskAttemptPromptAccepted
      (actorAttemptId : ActorAttemptId) (correlationIdentity : PiCorrelationIdentity)
      (commandResultSequence : PiProtocolSequence)
  | recordPiTaskAttemptUsage
      (actorAttemptId : ActorAttemptId) (correlationIdentity : PiCorrelationIdentity)
      (protocolSequence : PiProtocolSequence) (usage : PiCumulativeUsage)
  | recordPiTaskAttemptUsageFailure
      (actorAttemptId : ActorAttemptId) (correlationIdentity : PiCorrelationIdentity)
      (protocolSequence : PiProtocolSequence) (failure : PiTaskAttemptUsageFailure)
  | recordPiTaskAttemptTerminal
      (actorAttemptId : ActorAttemptId) (correlationIdentity : PiCorrelationIdentity)
      (terminalEvidence : PiTaskAttemptTerminalEvidence) (settledSequence : PiProtocolSequence)
      (disposition : PiTaskAttemptDisposition) (assistantOutcome : PiTaskAttemptAssistantOutcome)
      (transcriptDisposition : PiTaskAttemptTranscriptDisposition)
  | authorizePiTaskAttemptSessionDispose
      (actorAttemptId : ActorAttemptId) (correlationIdentity : PiCorrelationIdentity)
  | recordPiTaskAttemptSessionDisposeDelivery
      (actorAttemptId : ActorAttemptId) (correlationIdentity : PiCorrelationIdentity)
  | recordPiTaskAttemptSessionDisposeAccepted
      (actorAttemptId : ActorAttemptId) (correlationIdentity : PiCorrelationIdentity)
      (commandResultSequence : PiProtocolSequence)
  | recordPiTaskAttemptSessionDisposeUsage
      (actorAttemptId : ActorAttemptId) (correlationIdentity : PiCorrelationIdentity)
      (protocolSequence : PiProtocolSequence) (usage : PiCumulativeUsage)
  | recordPiTaskAttemptSessionDisposeUsageFailure
      (actorAttemptId : ActorAttemptId) (correlationIdentity : PiCorrelationIdentity)
      (protocolSequence : PiProtocolSequence) (failure : PiTaskAttemptUsageFailure)
  | recordPiTaskAttemptSessionDisposed
      (actorAttemptId : ActorAttemptId) (correlationIdentity : PiCorrelationIdentity)
      (disposedSequence : PiProtocolSequence)
      (transcriptReceipt : PiTaskAttemptSessionTranscriptReceipt)
  | qualifyNativeExecutionProfile
      (operatingCycleId : OperatingCycleId) (executionProfileId : ExecutionProfileId)
      (nativeChildSpawnAdmissionId : NativeChildSpawnAdmissionId) (nativeChildId : NativeChildId)
      (runtimeIdentityDigest : Blake3Digest) (runtimeIdentityContentObjectId : ContentObjectId)
      (adapterReportDigest : Blake3Digest) (adapterReportContentObjectId : ContentObjectId)
      (probeRequestDigest : Blake3Digest) (probeResponseDigest : Blake3Digest)
      (probeResponseContentObjectId : ContentObjectId)
  | startNativeExecutionProfileQualification (operatingCycleId : OperatingCycleId)
  | claimStudyActorTaskAttemptLaunch
      (studyActorObligationId : StudyActorObligationId) (operatingCycleId : OperatingCycleId)
      (workItemId : WorkItemId) (reservationAmount : UsdMicros)
      (supervisorEpochId : SupervisorEpochId) (supervisorEpochIdentity : SupervisorEpochIdentity)
      (nativeWorkspaceId : NativeWorkspaceId) (canonicalWorkspacePath : CanonicalWorkspacePath)
  | claimNativeExecutionProfileQualificationLaunch
      (operatingCycleId : OperatingCycleId) (reservationAmount : UsdMicros)
      (supervisorEpochId : SupervisorEpochId) (supervisorEpochIdentity : SupervisorEpochIdentity)
      (nativeWorkspaceId : NativeWorkspaceId) (canonicalWorkspacePath : CanonicalWorkspacePath)
  | allocateStudyActorWork
      (studyRunId : StudyRunId) (pairOrdinal : StudyRunPairOrdinal) (treatment : StudyTreatment)
      (phase : StudyPopulationPhase) (role : StudyRoleOrdinal)
      (operatingCycleId : OperatingCycleId) (workItemId : WorkItemId)
      (reservationAmount : UsdMicros) (supervisorEpochId : SupervisorEpochId)
      (supervisorEpochIdentity : SupervisorEpochIdentity)
  | studyTransition (command : StudyCommand)
  deriving DecidableEq

@[ext] structure CommandRequest where
  commandId : CommandId
  principalId : PrincipalId
  capabilityGrantId : CapabilityGrantId
  capability : Capability
  expectedGeneration : ExpectedGeneration
  body : CommandBody
  deriving DecidableEq

end Society.Kernel
