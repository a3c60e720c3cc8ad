import Society.Relational.Tx

namespace Society.Kernel
open Society.Relational

/-- The relations of the kernel schema; the body tables of commands and events are one
relation each. -/
inductive Tbl
  | principals | societies | officeContracts | applications | piTaskAttemptPromptAuthorizations
  | piTaskAttemptPromptDeliveries | piTaskAttemptPromptAcceptances | piTaskAttemptUsageReceipts
  | piTaskAttemptUsageFailures | piTaskAttemptTerminalReceipts
  | piTaskAttemptSessionDisposeAuthorizations | piTaskAttemptSessionDisposeDeliveries
  | piTaskAttemptSessionDisposeAcceptances | piTaskAttemptSessionDisposeUsageReceipts
  | piTaskAttemptSessionDisposeUsageFailures | piTaskAttemptSessionDisposeReceipts
  | applicationRevisions | applicationRevisionPrinciples | applicationRevisionNorthStarQuestions
  | foundingMissions | officeOccupancies | societyBootstraps | operatingCycleAdmissions
  | operatingCycleReconciliations | rootAuthorityOfficeSessions | officeTurns | budgetEnvelopes
  | budgetEnvelopeConstraints | budgetReservations | budgetReservationCharges
  | cancellationRequests | costPostmortems | costPostmortemResolutions | projects
  | projectNorthStarAlignments | projectObjectives | projectMilestones | projectStopConditions
  | tickets | ticketAcceptanceConditions | ticketPrerequisites | objects | objectRevisions
  | observationRevisions | hypothesisRevisions | edges | episodes | adversarialReviews
  | reviewChallenges | reviewChallengeResponses | reviewDispositions | postmortems
  | postmortemCausalClaims | postmortemActionProposals | coordinationCommandProvenance
  | operatingCycles | executionProfiles | executionProfileQualifications | actorConfigurations
  | actorConfigurationRevisions | contextPacks | actorInstances | workItems | leases | attempts
  | attemptBudgetReservations | actorAttemptTerminalFacts | outcomeObligations
  | contentSealReceipts | contentObjects | forensicManifests | forensicManifestObjects
  | evaluatorRevisions | inputManifests | deterministicExperiments
  | deterministicEvaluationReceipts | evidenceAdmissions | capabilityGrants | commands | events
  | supervisorEpochs | workspaces | piChildSessions | nativeChildSpawnAdmissions
  | piChildSpawnSidecars | nativeChildSpawnInvalidations | officeSessionBudgetReservations
  | nativeChildren | piChildSessionProtocols | nativeChildLivenessObservations
  | processSignalReceipts | nativeChildReapReceipts | nativeChildRecoveryReceipts
  | piAbortControlReceipts | nativeChildStreamSeals
  | deterministicEvaluatorForensicManifestBindings | cancellationPropagations
  | cancellationPropagationChildren | cancellationPropagationTargets
  | officeTurnBudgetCheckpoints | piOfficeTurnPromptAuthorizations | piOfficeTurnPromptDeliveries
  | piOfficeTurnPromptAcceptances | piOfficeTurnUsageReceipts | piOfficeTurnUsageFailures
  | piOfficeTurnTerminalReceipts | piOfficeSessionDisposeAuthorizations
  | piOfficeSessionDisposeDeliveries | piOfficeSessionDisposeAcceptances
  | piOfficeSessionDisposeUsageReceipts | piOfficeSessionDisposeUsageFailures
  | piOfficeSessionDisposeReceipts | studyProtocolRevisions | studyWorldRevisions
  | studyMeasurementRevisions | studyInstitutionRevisions | studyPopulationSnapshots
  | studyEpisodes | studyEpisodeSuccessorPopulations | studyTreatmentAssignments | studyPairs
  | studyRuns | studyRunPairs | studyEpisodeForums | studyForumThreads | studyActorObligations
  | studyActorOccurrences | studyActorRuntimeBindings | studyActorTaskAttemptLaunchClaims
  | studyActorWorkAllocations | nativeExecutionProfileQualificationLaunchClaims
  | studyActorTaskAttemptRecoverySettlements | studyFrozenForumHeads | studyForumExposures
  | studyForumMessages | studyForumReadReceipts | studyDecisions | studyGroundTruthReveals
  | studyMeasurementResults | studyExperimentalForks | commandBodies
  | eventBodies
  deriving DecidableEq

/-! Identifiers are row identities, so no command can confuse two kinds of subject. -/

abbrev SocietyId := Id Tbl.societies
abbrev FoundingMissionId := Id Tbl.foundingMissions
abbrev ApplicationId := Id Tbl.applications
abbrev ApplicationRevisionId := Id Tbl.applicationRevisions
abbrev OfficeId := Id Tbl.officeContracts
abbrev OfficeOccupancyId := Id Tbl.officeOccupancies
abbrev OperatingCycleId := Id Tbl.operatingCycles
abbrev PrincipalId := Id Tbl.principals
abbrev CapabilityGrantId := Id Tbl.capabilityGrants
abbrev BudgetEnvelopeId := Id Tbl.budgetEnvelopes
abbrev BudgetReservationId := Id Tbl.budgetReservations
abbrev CancellationRequestId := Id Tbl.cancellationRequests
abbrev CostPostmortemId := Id Tbl.costPostmortems
abbrev RootAuthorityOfficeSessionId := Id Tbl.rootAuthorityOfficeSessions
abbrev OfficeTurnId := Id Tbl.officeTurns
abbrev EventId := Id Tbl.events
abbrev ProjectId := Id Tbl.projects
abbrev ProjectMilestoneId := Id Tbl.projectMilestones
abbrev TicketId := Id Tbl.tickets
abbrev GraphObjectId := Id Tbl.objects
abbrev GraphRevisionId := Id Tbl.objectRevisions
abbrev GraphEdgeId := Id Tbl.edges
abbrev CausalEpisodeId := Id Tbl.episodes
abbrev AdversarialReviewId := Id Tbl.adversarialReviews
abbrev ReviewChallengeId := Id Tbl.reviewChallenges
abbrev PostmortemId := Id Tbl.postmortems
abbrev PostmortemCausalClaimId := Id Tbl.postmortemCausalClaims
abbrev PostmortemActionProposalId := Id Tbl.postmortemActionProposals
abbrev ActorConfigurationId := Id Tbl.actorConfigurations
abbrev ActorConfigurationRevisionId := Id Tbl.actorConfigurationRevisions
abbrev ActorInstanceId := Id Tbl.actorInstances
abbrev ExecutionProfileId := Id Tbl.executionProfiles
abbrev ExecutionProfileQualificationId := Id Tbl.executionProfileQualifications
abbrev StudyActorTaskAttemptLaunchId := Id Tbl.studyActorTaskAttemptLaunchClaims
abbrev NativeExecutionProfileQualificationLaunchId := Id Tbl.nativeExecutionProfileQualificationLaunchClaims
abbrev ContextPackId := Id Tbl.contextPacks
abbrev WorkItemId := Id Tbl.workItems
abbrev WorkLeaseId := Id Tbl.leases
abbrev ActorAttemptId := Id Tbl.attempts
abbrev OutcomeObligationId := Id Tbl.outcomeObligations
abbrev ContentSealReceiptId := Id Tbl.contentSealReceipts
abbrev ContentObjectId := Id Tbl.contentObjects
abbrev ForensicManifestId := Id Tbl.forensicManifests
abbrev DeterministicExperimentId := Id Tbl.deterministicExperiments
abbrev EvaluatorRevisionId := Id Tbl.evaluatorRevisions
abbrev InputManifestId := Id Tbl.inputManifests
abbrev DeterministicEvaluationReceiptId := Id Tbl.deterministicEvaluationReceipts
abbrev EvidenceAdmissionId := Id Tbl.evidenceAdmissions
abbrev SupervisorEpochId := Id Tbl.supervisorEpochs
abbrev WorkspaceId := Id Tbl.workspaces
abbrev PiSessionId := Id Tbl.piChildSessions
abbrev NativeChildId := Id Tbl.nativeChildren
abbrev NativeChildSpawnAdmissionId := Id Tbl.nativeChildSpawnAdmissions
abbrev NativeChildLivenessObservationId := Id Tbl.nativeChildLivenessObservations
abbrev NativeChildReapReceiptId := Id Tbl.nativeChildReapReceipts
abbrev NativeChildRecoveryReceiptId := Id Tbl.nativeChildRecoveryReceipts
abbrev NativeChildStreamSealId := Id Tbl.nativeChildStreamSeals
abbrev ProcessSignalReceiptId := Id Tbl.processSignalReceipts
abbrev PiAbortControlReceiptId := Id Tbl.piAbortControlReceipts
abbrev PiOfficeTurnPromptAuthorizationId := Id Tbl.piOfficeTurnPromptAuthorizations
abbrev PiOfficeTurnUsageReceiptId := Id Tbl.piOfficeTurnUsageReceipts
abbrev PiOfficeTurnUsageFailureId := Id Tbl.piOfficeTurnUsageFailures
abbrev PiOfficeTurnTerminalReceiptId := Id Tbl.piOfficeTurnTerminalReceipts
abbrev PiOfficeSessionDisposeReceiptId := Id Tbl.piOfficeSessionDisposeReceipts
abbrev PiTaskAttemptPromptAuthorizationId := Id Tbl.piTaskAttemptPromptAuthorizations
abbrev PiTaskAttemptUsageReceiptId := Id Tbl.piTaskAttemptUsageReceipts
abbrev PiTaskAttemptUsageFailureId := Id Tbl.piTaskAttemptUsageFailures
abbrev PiTaskAttemptTerminalReceiptId := Id Tbl.piTaskAttemptTerminalReceipts
abbrev PiTaskAttemptSessionDisposeReceiptId := Id Tbl.piTaskAttemptSessionDisposeReceipts
abbrev CancellationPropagationId := Id Tbl.cancellationPropagations
abbrev CancellationPropagationTargetId := Id Tbl.cancellationPropagationTargets
abbrev StudyProtocolRevisionId := Id Tbl.studyProtocolRevisions
abbrev StudyWorldRevisionId := Id Tbl.studyWorldRevisions
abbrev StudyMeasurementRevisionId := Id Tbl.studyMeasurementRevisions
abbrev StudyInstitutionRevisionId := Id Tbl.studyInstitutionRevisions
abbrev StudyPopulationSnapshotId := Id Tbl.studyPopulationSnapshots
abbrev StudyEpisodeId := Id Tbl.studyEpisodes
abbrev StudyPairId := Id Tbl.studyPairs
abbrev StudyRunId := Id Tbl.studyRuns
abbrev StudyTreatmentAssignmentId := Id Tbl.studyTreatmentAssignments
abbrev StudyActorObligationId := Id Tbl.studyActorObligations
abbrev ActorOccurrenceId := Id Tbl.studyActorOccurrences
abbrev EpisodeForumId := Id Tbl.studyEpisodeForums
abbrev ForumThreadId := Id Tbl.studyForumThreads
abbrev ForumMessageId := Id Tbl.studyForumMessages
abbrev ForumExposureId := Id Tbl.studyForumExposures
abbrev ForumReadReceiptId := Id Tbl.studyForumReadReceipts
abbrev StudyMeasurementResultId := Id Tbl.studyMeasurementResults
abbrev ExperimentalForkId := Id Tbl.studyExperimentalForks
abbrev CommandRowId := Id Tbl.commands

end Society.Kernel
