import Society.Kernel.Rows

namespace Society.Kernel
open Society.Relational

/-- The row type of each relation. -/
@[reducible] def rowOf : Tbl → Type
  | .principals => PrincipalRow
  | .societies => SocietyRow
  | .officeContracts => OfficeContractRow
  | .applications => ApplicationRow
  | .piTaskAttemptPromptAuthorizations => PiTaskAttemptPromptAuthorizationRow
  | .piTaskAttemptPromptDeliveries => PiTaskAttemptPromptDeliveryRow
  | .piTaskAttemptPromptAcceptances => PiTaskAttemptPromptAcceptanceRow
  | .piTaskAttemptUsageReceipts => PiTaskAttemptUsageReceiptRow
  | .piTaskAttemptUsageFailures => PiTaskAttemptUsageFailureRow
  | .piTaskAttemptTerminalReceipts => PiTaskAttemptTerminalReceiptRow
  | .piTaskAttemptSessionDisposeAuthorizations => PiTaskAttemptSessionDisposeAuthorizationRow
  | .piTaskAttemptSessionDisposeDeliveries => PiTaskAttemptSessionDisposeDeliveryRow
  | .piTaskAttemptSessionDisposeAcceptances => PiTaskAttemptSessionDisposeAcceptanceRow
  | .piTaskAttemptSessionDisposeUsageReceipts => PiTaskAttemptSessionDisposeUsageReceiptRow
  | .piTaskAttemptSessionDisposeUsageFailures => PiTaskAttemptSessionDisposeUsageFailureRow
  | .piTaskAttemptSessionDisposeReceipts => PiTaskAttemptSessionDisposeReceiptRow
  | .applicationRevisions => ApplicationRevisionRow
  | .applicationRevisionPrinciples => ApplicationRevisionPrincipleRow
  | .applicationRevisionNorthStarQuestions => ApplicationRevisionNorthStarQuestionRow
  | .foundingMissions => FoundingMissionRow
  | .officeOccupancies => OfficeOccupancyRow
  | .societyBootstraps => SocietyBootstrapRow
  | .operatingCycleAdmissions => OperatingCycleAdmissionRow
  | .operatingCycleReconciliations => OperatingCycleReconciliationRow
  | .rootAuthorityOfficeSessions => RootAuthorityOfficeSessionRow
  | .officeTurns => OfficeTurnRow
  | .budgetEnvelopes => BudgetEnvelopeRow
  | .budgetEnvelopeConstraints => BudgetEnvelopeConstraintRow
  | .budgetReservations => BudgetReservationRow
  | .budgetReservationCharges => BudgetReservationChargeRow
  | .cancellationRequests => CancellationRequestRow
  | .costPostmortems => CostPostmortemRow
  | .costPostmortemResolutions => CostPostmortemResolutionRow
  | .projects => ProjectRow
  | .projectNorthStarAlignments => ProjectNorthStarAlignmentRow
  | .projectObjectives => ProjectObjectiveRow
  | .projectMilestones => ProjectMilestoneRow
  | .projectStopConditions => ProjectStopConditionRow
  | .tickets => TicketRow
  | .ticketAcceptanceConditions => TicketAcceptanceConditionRow
  | .ticketPrerequisites => TicketPrerequisiteRow
  | .objects => ObjectRow
  | .objectRevisions => ObjectRevisionRow
  | .observationRevisions => ObservationRevisionRow
  | .hypothesisRevisions => HypothesisRevisionRow
  | .edges => EdgeRow
  | .episodes => EpisodeRow
  | .adversarialReviews => AdversarialReviewRow
  | .reviewChallenges => ReviewChallengeRow
  | .reviewChallengeResponses => ReviewChallengeResponseRow
  | .reviewDispositions => ReviewDispositionRow
  | .postmortems => PostmortemRow
  | .postmortemCausalClaims => PostmortemCausalClaimRow
  | .postmortemActionProposals => PostmortemActionProposalRow
  | .coordinationCommandProvenance => CoordinationCommandProvenanceRow
  | .operatingCycles => OperatingCycleRow
  | .executionProfiles => ExecutionProfileRow
  | .executionProfileQualifications => ExecutionProfileQualificationRow
  | .actorConfigurations => ActorConfigurationRow
  | .actorConfigurationRevisions => ActorConfigurationRevisionRow
  | .contextPacks => ContextPackRow
  | .actorInstances => ActorInstanceRow
  | .workItems => WorkItemRow
  | .leases => LeaseRow
  | .attempts => AttemptRow
  | .attemptBudgetReservations => AttemptBudgetReservationRow
  | .actorAttemptTerminalFacts => ActorAttemptTerminalFactRow
  | .outcomeObligations => OutcomeObligationRow
  | .contentSealReceipts => ContentSealReceiptRow
  | .contentObjects => ContentObjectRow
  | .forensicManifests => ForensicManifestRow
  | .forensicManifestObjects => ForensicManifestObjectRow
  | .evaluatorRevisions => EvaluatorRevisionRow
  | .inputManifests => InputManifestRow
  | .deterministicExperiments => DeterministicExperimentRow
  | .deterministicEvaluationReceipts => DeterministicEvaluationReceiptRow
  | .evidenceAdmissions => EvidenceAdmissionRow
  | .capabilityGrants => CapabilityGrantRow
  | .commands => CommandRow
  | .events => EventRow
  | .supervisorEpochs => SupervisorEpochRow
  | .workspaces => WorkspaceRow
  | .piChildSessions => PiChildSessionRow
  | .nativeChildSpawnAdmissions => NativeChildSpawnAdmissionRow
  | .piChildSpawnSidecars => PiChildSpawnSidecarRow
  | .nativeChildSpawnInvalidations => NativeChildSpawnInvalidationRow
  | .officeSessionBudgetReservations => OfficeSessionBudgetReservationRow
  | .nativeChildren => NativeChildRow
  | .piChildSessionProtocols => PiChildSessionProtocolRow
  | .nativeChildLivenessObservations => NativeChildLivenessObservationRow
  | .processSignalReceipts => ProcessSignalReceiptRow
  | .nativeChildReapReceipts => NativeChildReapReceiptRow
  | .nativeChildRecoveryReceipts => NativeChildRecoveryReceiptRow
  | .piAbortControlReceipts => PiAbortControlReceiptRow
  | .nativeChildStreamSeals => NativeChildStreamSealRow
  | .deterministicEvaluatorForensicManifestBindings => DeterministicEvaluatorForensicManifestBindingRow
  | .cancellationPropagations => CancellationPropagationRow
  | .cancellationPropagationChildren => CancellationPropagationChildRow
  | .cancellationPropagationTargets => CancellationPropagationTargetRow
  | .officeTurnBudgetCheckpoints => OfficeTurnBudgetCheckpointRow
  | .piOfficeTurnPromptAuthorizations => PiOfficeTurnPromptAuthorizationRow
  | .piOfficeTurnPromptDeliveries => PiOfficeTurnPromptDeliveryRow
  | .piOfficeTurnPromptAcceptances => PiOfficeTurnPromptAcceptanceRow
  | .piOfficeTurnUsageReceipts => PiOfficeTurnUsageReceiptRow
  | .piOfficeTurnUsageFailures => PiOfficeTurnUsageFailureRow
  | .piOfficeTurnTerminalReceipts => PiOfficeTurnTerminalReceiptRow
  | .piOfficeSessionDisposeAuthorizations => PiOfficeSessionDisposeAuthorizationRow
  | .piOfficeSessionDisposeDeliveries => PiOfficeSessionDisposeDeliveryRow
  | .piOfficeSessionDisposeAcceptances => PiOfficeSessionDisposeAcceptanceRow
  | .piOfficeSessionDisposeUsageReceipts => PiOfficeSessionDisposeUsageReceiptRow
  | .piOfficeSessionDisposeUsageFailures => PiOfficeSessionDisposeUsageFailureRow
  | .piOfficeSessionDisposeReceipts => PiOfficeSessionDisposeReceiptRow
  | .studyProtocolRevisions => StudyProtocolRevisionRow
  | .studyWorldRevisions => StudyWorldRevisionRow
  | .studyMeasurementRevisions => StudyMeasurementRevisionRow
  | .studyInstitutionRevisions => StudyInstitutionRevisionRow
  | .studyPopulationSnapshots => StudyPopulationSnapshotRow
  | .studyEpisodes => StudyEpisodeRow
  | .studyEpisodeSuccessorPopulations => StudyEpisodeSuccessorPopulationRow
  | .studyTreatmentAssignments => StudyTreatmentAssignmentRow
  | .studyPairs => StudyPairRow
  | .studyRuns => StudyRunRow
  | .studyRunPairs => StudyRunPairRow
  | .studyEpisodeForums => StudyEpisodeForumRow
  | .studyForumThreads => StudyForumThreadRow
  | .studyActorObligations => StudyActorObligationRow
  | .studyActorOccurrences => StudyActorOccurrenceRow
  | .studyActorRuntimeBindings => StudyActorRuntimeBindingRow
  | .studyActorTaskAttemptLaunchClaims => StudyActorTaskAttemptLaunchClaimRow
  | .studyActorWorkAllocations => StudyActorWorkAllocationRow
  | .nativeExecutionProfileQualificationLaunchClaims => NativeExecutionProfileQualificationLaunchClaimRow
  | .studyActorTaskAttemptRecoverySettlements => StudyActorTaskAttemptRecoverySettlementRow
  | .studyFrozenForumHeads => StudyFrozenForumHeadRow
  | .studyForumExposures => StudyForumExposureRow
  | .studyForumMessages => StudyForumMessageRow
  | .studyForumReadReceipts => StudyForumReadReceiptRow
  | .studyDecisions => StudyDecisionRow
  | .studyGroundTruthReveals => StudyGroundTruthRevealRow
  | .studyMeasurementResults => StudyMeasurementResultRow
  | .studyExperimentalForks => StudyExperimentalForkRow
  | .commandBodies => CommandBodyRow
  | .eventBodies => EventBodyRow

/-- The primary key; a composite key is represented by its first column. -/
def keyOf : (t : Tbl) → rowOf t → Nat
  | .principals,r => r.principalId.val
  | .societies,r => r.societyId.val
  | .officeContracts,r => r.officeId.val
  | .applications,r => r.applicationId.val
  | .piTaskAttemptPromptAuthorizations,r => r.piTaskAttemptPromptAuthorizationId.val
  | .piTaskAttemptPromptDeliveries,r => r.actorAttemptId.val
  | .piTaskAttemptPromptAcceptances,r => r.actorAttemptId.val
  | .piTaskAttemptUsageReceipts,r => r.piTaskAttemptUsageReceiptId.val
  | .piTaskAttemptUsageFailures,r => r.piTaskAttemptUsageFailureId.val
  | .piTaskAttemptTerminalReceipts,r => r.piTaskAttemptTerminalReceiptId.val
  | .piTaskAttemptSessionDisposeAuthorizations,r => r.actorAttemptId.val
  | .piTaskAttemptSessionDisposeDeliveries,r => r.actorAttemptId.val
  | .piTaskAttemptSessionDisposeAcceptances,r => r.actorAttemptId.val
  | .piTaskAttemptSessionDisposeUsageReceipts,r => r.actorAttemptId.val
  | .piTaskAttemptSessionDisposeUsageFailures,r => r.actorAttemptId.val
  | .piTaskAttemptSessionDisposeReceipts,r => r.piTaskAttemptSessionDisposeReceiptId.val
  | .applicationRevisions,r => r.applicationRevisionId.val
  | .applicationRevisionPrinciples,r => r.applicationRevisionId.val
  | .applicationRevisionNorthStarQuestions,r => r.applicationRevisionId.val
  | .foundingMissions,r => r.foundingMissionId.val
  | .officeOccupancies,r => r.officeOccupancyId.val
  | .societyBootstraps,r => r.societyId.val
  | .operatingCycleAdmissions,r => r.operatingCycleId.val
  | .operatingCycleReconciliations,r => r.operatingCycleId.val
  | .rootAuthorityOfficeSessions,r => r.rootAuthorityOfficeSessionId.val
  | .officeTurns,r => r.officeTurnId.val
  | .budgetEnvelopes,r => r.budgetEnvelopeId.val
  | .budgetEnvelopeConstraints,r => r.budgetEnvelopeConstraintId.val
  | .budgetReservations,r => r.budgetReservationId.val
  | .budgetReservationCharges,r => r.budgetReservationChargeId.val
  | .cancellationRequests,r => r.cancellationRequestId.val
  | .costPostmortems,r => r.postmortemId.val
  | .costPostmortemResolutions,r => r.postmortemId.val
  | .projects,r => r.projectId.val
  | .projectNorthStarAlignments,r => r.projectId.val
  | .projectObjectives,r => r.projectObjectiveId.val
  | .projectMilestones,r => r.projectMilestoneId.val
  | .projectStopConditions,r => r.projectStopConditionId.val
  | .tickets,r => r.ticketId.val
  | .ticketAcceptanceConditions,r => r.ticketAcceptanceConditionId.val
  | .ticketPrerequisites,r => r.ticketId.val
  | .objects,r => r.graphObjectId.val
  | .objectRevisions,r => r.graphRevisionId.val
  | .observationRevisions,r => r.graphRevisionId.val
  | .hypothesisRevisions,r => r.graphRevisionId.val
  | .edges,r => r.graphEdgeId.val
  | .episodes,r => r.causalEpisodeId.val
  | .adversarialReviews,r => r.adversarialReviewId.val
  | .reviewChallenges,r => r.reviewChallengeId.val
  | .reviewChallengeResponses,r => r.reviewChallengeResponseId.val
  | .reviewDispositions,r => r.reviewDispositionId.val
  | .postmortems,r => r.postmortemId.val
  | .postmortemCausalClaims,r => r.postmortemCausalClaimId.val
  | .postmortemActionProposals,r => r.postmortemActionProposalId.val
  | .coordinationCommandProvenance,r => r.commandRowId.val
  | .operatingCycles,r => r.operatingCycleId.val
  | .executionProfiles,r => r.executionProfileId.val
  | .executionProfileQualifications,r => r.executionProfileQualificationId.val
  | .actorConfigurations,r => r.actorConfigurationId.val
  | .actorConfigurationRevisions,r => r.actorConfigurationRevisionId.val
  | .contextPacks,r => r.contextPackId.val
  | .actorInstances,r => r.actorInstanceId.val
  | .workItems,r => r.workItemId.val
  | .leases,r => r.workLeaseId.val
  | .attempts,r => r.actorAttemptId.val
  | .attemptBudgetReservations,r => r.actorAttemptId.val
  | .actorAttemptTerminalFacts,r => r.actorAttemptId.val
  | .outcomeObligations,r => r.outcomeObligationId.val
  | .contentSealReceipts,r => r.contentSealReceiptId.val
  | .contentObjects,r => r.contentObjectId.val
  | .forensicManifests,r => r.forensicManifestId.val
  | .forensicManifestObjects,r => r.forensicManifestId.val
  | .evaluatorRevisions,r => r.evaluatorRevisionId.val
  | .inputManifests,r => r.inputManifestId.val
  | .deterministicExperiments,r => r.deterministicExperimentId.val
  | .deterministicEvaluationReceipts,r => r.deterministicEvaluationReceiptId.val
  | .evidenceAdmissions,r => r.evidenceAdmissionId.val
  | .capabilityGrants,r => r.capabilityGrantId.val
  | .commands,r => r.commandRowId.val
  | .events,r => r.eventId.val
  | .supervisorEpochs,r => r.supervisorEpochId.val
  | .workspaces,r => r.workspaceId.val
  | .piChildSessions,r => r.piSessionId.val
  | .nativeChildSpawnAdmissions,r => r.nativeChildSpawnAdmissionId.val
  | .piChildSpawnSidecars,r => r.nativeChildSpawnAdmissionId.val
  | .nativeChildSpawnInvalidations,r => r.nativeChildSpawnAdmissionId.val
  | .officeSessionBudgetReservations,r => r.rootAuthorityOfficeSessionId.val
  | .nativeChildren,r => r.nativeChildId.val
  | .piChildSessionProtocols,r => r.nativeChildId.val
  | .nativeChildLivenessObservations,r => r.nativeChildLivenessObservationId.val
  | .processSignalReceipts,r => r.processSignalReceiptId.val
  | .nativeChildReapReceipts,r => r.nativeChildReapReceiptId.val
  | .nativeChildRecoveryReceipts,r => r.nativeChildRecoveryReceiptId.val
  | .piAbortControlReceipts,r => r.piAbortControlReceiptId.val
  | .nativeChildStreamSeals,r => r.nativeChildStreamSealId.val
  | .deterministicEvaluatorForensicManifestBindings,r => r.forensicManifestId.val
  | .cancellationPropagations,r => r.cancellationPropagationId.val
  | .cancellationPropagationChildren,r => r.cancellationPropagationId.val
  | .cancellationPropagationTargets,r => r.cancellationPropagationTargetId.val
  | .officeTurnBudgetCheckpoints,r => r.officeTurnId.val
  | .piOfficeTurnPromptAuthorizations,r => r.piOfficeTurnPromptAuthorizationId.val
  | .piOfficeTurnPromptDeliveries,r => r.officeTurnId.val
  | .piOfficeTurnPromptAcceptances,r => r.officeTurnId.val
  | .piOfficeTurnUsageReceipts,r => r.piOfficeTurnUsageReceiptId.val
  | .piOfficeTurnUsageFailures,r => r.piOfficeTurnUsageFailureId.val
  | .piOfficeTurnTerminalReceipts,r => r.piOfficeTurnTerminalReceiptId.val
  | .piOfficeSessionDisposeAuthorizations,r => r.rootAuthorityOfficeSessionId.val
  | .piOfficeSessionDisposeDeliveries,r => r.rootAuthorityOfficeSessionId.val
  | .piOfficeSessionDisposeAcceptances,r => r.rootAuthorityOfficeSessionId.val
  | .piOfficeSessionDisposeUsageReceipts,r => r.rootAuthorityOfficeSessionId.val
  | .piOfficeSessionDisposeUsageFailures,r => r.rootAuthorityOfficeSessionId.val
  | .piOfficeSessionDisposeReceipts,r => r.piOfficeSessionDisposeReceiptId.val
  | .studyProtocolRevisions,r => r.studyProtocolRevisionId.val
  | .studyWorldRevisions,r => r.studyWorldRevisionId.val
  | .studyMeasurementRevisions,r => r.studyMeasurementRevisionId.val
  | .studyInstitutionRevisions,r => r.studyInstitutionRevisionId.val
  | .studyPopulationSnapshots,r => r.studyPopulationSnapshotId.val
  | .studyEpisodes,r => r.studyEpisodeId.val
  | .studyEpisodeSuccessorPopulations,r => r.studyEpisodeId.val
  | .studyTreatmentAssignments,r => r.studyTreatmentAssignmentId.val
  | .studyPairs,r => r.studyPairId.val
  | .studyRuns,r => r.studyRunId.val
  | .studyRunPairs,r => r.studyRunId.val
  | .studyEpisodeForums,r => r.episodeForumId.val
  | .studyForumThreads,r => r.forumThreadId.val
  | .studyActorObligations,r => r.studyActorObligationId.val
  | .studyActorOccurrences,r => r.actorOccurrenceId.val
  | .studyActorRuntimeBindings,r => r.studyActorObligationId.val
  | .studyActorTaskAttemptLaunchClaims,r => r.studyActorTaskAttemptLaunchId.val
  | .studyActorWorkAllocations,r => r.studyActorWorkAllocationId.val
  | .nativeExecutionProfileQualificationLaunchClaims,r => r.nativeExecutionProfileQualificationLaunchId.val
  | .studyActorTaskAttemptRecoverySettlements,r => r.studyActorObligationId.val
  | .studyFrozenForumHeads,r => r.studyEpisodeId.val
  | .studyForumExposures,r => r.forumExposureId.val
  | .studyForumMessages,r => r.forumMessageId.val
  | .studyForumReadReceipts,r => r.forumReadReceiptId.val
  | .studyDecisions,r => r.studyActorObligationId.val
  | .studyGroundTruthReveals,r => r.studyEpisodeId.val
  | .studyMeasurementResults,r => r.studyMeasurementResultId.val
  | .studyExperimentalForks,r => r.experimentalForkId.val
  | .commandBodies,r => r.commandRowId.val
  | .eventBodies,r => r.eventId.val

/-- Relations whose key column is the identity sequence; the others name their key. -/
def serialOf : Tbl → Bool
  | .piTaskAttemptPromptDeliveries | .piTaskAttemptPromptAcceptances
  | .piTaskAttemptSessionDisposeAuthorizations | .piTaskAttemptSessionDisposeDeliveries
  | .piTaskAttemptSessionDisposeAcceptances | .piTaskAttemptSessionDisposeUsageReceipts
  | .piTaskAttemptSessionDisposeUsageFailures | .applicationRevisionPrinciples
  | .applicationRevisionNorthStarQuestions | .societyBootstraps | .operatingCycleAdmissions
  | .operatingCycleReconciliations | .costPostmortemResolutions | .projectNorthStarAlignments
  | .ticketPrerequisites | .observationRevisions | .hypothesisRevisions
  | .coordinationCommandProvenance | .executionProfiles | .attemptBudgetReservations
  | .actorAttemptTerminalFacts | .forensicManifestObjects | .events | .supervisorEpochs
  | .piChildSpawnSidecars | .nativeChildSpawnInvalidations | .officeSessionBudgetReservations
  | .piChildSessionProtocols | .deterministicEvaluatorForensicManifestBindings
  | .cancellationPropagationChildren | .officeTurnBudgetCheckpoints
  | .piOfficeTurnPromptDeliveries | .piOfficeTurnPromptAcceptances
  | .piOfficeSessionDisposeAuthorizations | .piOfficeSessionDisposeDeliveries
  | .piOfficeSessionDisposeAcceptances | .piOfficeSessionDisposeUsageReceipts
  | .piOfficeSessionDisposeUsageFailures | .studyEpisodeSuccessorPopulations | .studyRunPairs
  | .studyActorRuntimeBindings | .studyActorTaskAttemptRecoverySettlements
  | .studyFrozenForumHeads | .studyDecisions | .studyGroundTruthReveals | .commandBodies
  | .eventBodies => false
  | _ => true

/-- The body tables of the commands that reserve refuse an empty reservation. -/
def CommandBody.reservesSomething : CommandBody → Bool
  | .startActorAttempt _ _ n => n≠.zero
  | .claimStudyActorTaskAttemptLaunch _ _ _ n .. => n≠.zero
  | .claimNativeExecutionProfileQualificationLaunch _ n .. => n≠.zero
  | .allocateStudyActorWork _ _ _ _ _ _ _ n .. => n≠.zero
  | _ => true

/-- Row checks that the column types do not already carry. -/
def checkOf : (t : Tbl) → rowOf t → Bool
  | .piTaskAttemptTerminalReceipts,r =>
      r.terminalEvidence.agentSettledSequence.all
        (fun n => n.val < r.terminalEvidence.finalAccountingSequence.val) &&
      r.terminalEvidence.finalAccountingSequence.val+1==r.settledSequence.val &&
      r.finalUsageReceiptId.isSome==r.finalUsageFailureId.isNone &&
      r.terminalEvidence.accepts r.assistantOutcome &&
      (r.terminalEvidence.agentSettledSequence.isSome || r.finalUsageReceiptId.isSome) &&
      r.disposition.accepts r.assistantOutcome
  | .piOfficeTurnTerminalReceipts,r =>
      r.terminalEvidence.agentSettledSequence.all
        (fun n => n.val < r.terminalEvidence.finalAccountingSequence.val) &&
      r.terminalEvidence.finalAccountingSequence.val+1==r.settledSequence.val &&
      r.finalUsageReceiptId.isSome==r.finalUsageFailureId.isNone &&
      r.terminalEvidence.accepts r.assistantOutcome &&
      (r.terminalEvidence.agentSettledSequence.isSome || r.finalUsageReceiptId.isSome) &&
      r.disposition.accepts r.assistantOutcome
  | .budgetEnvelopes,r => r.reservedMicros.val ≤ r.ceilingMicros.val
  | .costPostmortems,r =>
      (match r.causeKind with
        | .knownOverrun => r.observedMicros.isSome && r.reservedMicros.isSome &&
            r.unknownReason.isNone && r.unavailableReason.isNone
        | .unknownCost => r.observedMicros.isNone && r.reservedMicros.isSome &&
            r.unknownReason.isSome && r.unavailableReason.isNone
        | .unavailableCost => r.observedMicros.isNone && r.reservedMicros.isSome &&
            r.unknownReason.isNone && r.unavailableReason.isSome) &&
      (r.lifecycleState==.closed)==r.closedByCommandId.isSome
  | .projectMilestones,r => (r.lifecycleState==.completed)==r.completedByCommandId.isSome
  | .ticketAcceptanceConditions,r => (r.lifecycleState==.satisfied)==r.satisfiedByCommandId.isSome
  | .ticketPrerequisites,r => r.ticketId≠r.prerequisiteTicketId
  | .objectRevisions,r => (r.lifecycleState==.committed)==r.committedByCommandId.isSome
  | .edges,r => r.fromGraphRevisionId≠r.toGraphRevisionId
  | .postmortems,r => (r.lifecycleState==.closed)==r.closedByCommandId.isSome
  | .executionProfiles,r =>
      match r.profileKind with
      | .nativePinnedPiSdkV1 => r.readiness≠.deterministicFixtureOnly
      | _ => r.readiness==.deterministicFixtureOnly
  | .workItems,r => (r.workKind==.independentReview)==r.adversarialReviewId.isSome
  | .capabilityGrants,r =>
      !(r.officeOccupancyId.isSome && r.actorInstanceId.isSome) &&
      (r.grantState==.consumed)==r.consumedByCommandId.isSome &&
      (match r.grantOrigin with
        | .ledgerCommand => r.grantedByCommandId.isSome
        | .compiledBootstrap => r.principalId.val==1 && r.officeOccupancyId.isNone &&
            r.actorInstanceId.isNone && r.grantedByCommandId.isNone
        | .compiledKernelService => r.principalId.val==2 && r.officeOccupancyId.isNone &&
            r.actorInstanceId.isNone && r.grantedByCommandId.isNone)
  | .nativeChildSpawnAdmissions,r =>
      match r.owner with
      | .pi _ => r.budgetReservationId.isSome
      | .deterministicEvaluator _ _ _ => r.budgetReservationId.isNone
  | .nativeChildren,r =>
      r.directChildPid.val==r.processGroupId.val &&
      (match r.lifecycleState,r.terminalDisposition with
        | .finalized,some .exited | .finalized,some .terminated | .finalized,some .killed => true
        | .lostParentage,some .supervisionLost => true
        | .containmentFailed,some .containmentFailed => true
        | .spawned,none | .running,none | .cancellationRequested,none
        | .directChildReaped,none | .recoveryContainmentRequired,none => true
        | _,_ => false)
  | .piChildSessionProtocols,r =>
      match r.lifecycleState with
      | .inertSpawned | .adapterReady =>
          r.createCorrelationIdentity.isNone && r.createRequestDigest.isNone
      | _ => r.createCorrelationIdentity.isSome && r.createRequestDigest.isSome
  | .processSignalReceipts,r =>
      match r.delivery with
      | .delivered => true
      | .absentBeforeSignal | .absentDuringSignal => r.observedLiveness==.absent
      | .inaccessible => r.observedLiveness==.inaccessible
  | .officeTurnBudgetCheckpoints,r =>
      r.settledCumulativeMicros.isSome==r.settledByCommandId.isSome &&
      r.settledCumulativeMicros.all (fun n => r.baselineCumulativeMicros.val≤n.val)
  | .studyPairs,r => r.retainedEpisodeId≠r.resetEpisodeId
  | .studyRuns,r =>
      match r.lifecycleState with
      | .pairing => r.registeredPairCount.val < r.pairCount.val
      | _ => r.registeredPairCount.val==r.pairCount.val
  | .studyActorObligations,r =>
      r.postsUsed.val ≤ r.postBudget.val &&
      (r.lifecycleState==.completed)==r.completedByCommandId.isSome &&
      (r.lifecycleState==.failed)==r.failedByCommandId.isSome &&
      (r.lifecycleState==.failed)==r.failureReasonDigest.isSome
  | .studyActorRuntimeBindings,r =>
      match r.lifecycleState with
      | .bound => r.reconciledByCommandId.isNone
      | .reconciled => r.reconciledByCommandId.isSome
      | .recoverySettled => r.recoverySettledByCommandId.isSome
  | .studyForumReadReceipts,r => r.firstMessageOrdinal.val ≤ r.throughMessageOrdinal.val
  | .studyMeasurementResults,r =>
      (r.resultStatus==.observed)==r.observedValue.isSome &&
      (r.resultStatus==.observed)==r.valueDigest.isSome &&
      (r.resultStatus==.observed)==r.reasonDigest.isNone
  | .commandBodies,r => r.body.reservesSomething
  | _,_ => true

/-- The unique owner columns of a spawn admission; a qualification owner has none. -/
def sameOwner : NativeChildOwner → NativeChildOwner → Bool
  | .pi (.actorAttempt a),.pi (.actorAttempt b) => a==b
  | .pi (.rootAuthorityOfficeSession a),.pi (.rootAuthorityOfficeSession b) => a==b
  | .deterministicEvaluator a _ _,.deterministicEvaluator b _ _ => a==b
  | _,_ => false

/-- Unique constraints and partial unique indexes; a null never conflicts. -/
def conflictOf : (t : Tbl) → rowOf t → rowOf t → Bool
  | .principals,a,b => a.displayName==b.displayName
  | .societies,a,b => a.name==b.name
  | .officeContracts,a,b => a.officeKind==b.officeKind
  | .applications,a,b =>
      a.applicationIdentity==b.applicationIdentity || a.applicationName==b.applicationName
  | .piTaskAttemptPromptAuthorizations,a,b =>
      a.actorAttemptId==b.actorAttemptId || a.correlationIdentity==b.correlationIdentity
  | .piTaskAttemptPromptDeliveries,a,b =>
      a.actorAttemptId==b.actorAttemptId ||
      a.piTaskAttemptPromptAuthorizationId==b.piTaskAttemptPromptAuthorizationId
  | .piTaskAttemptPromptAcceptances,a,b =>
      a.actorAttemptId==b.actorAttemptId ||
      a.piTaskAttemptPromptAuthorizationId==b.piTaskAttemptPromptAuthorizationId
  | .piTaskAttemptUsageReceipts,a,b =>
      a.piSessionId==b.piSessionId && a.protocolSequence==b.protocolSequence
  | .piTaskAttemptUsageFailures,a,b =>
      (a.piSessionId==b.piSessionId && a.protocolSequence==b.protocolSequence) ||
      a.actorAttemptId==b.actorAttemptId ||
      a.piTaskAttemptPromptAuthorizationId==b.piTaskAttemptPromptAuthorizationId
  | .piTaskAttemptTerminalReceipts,a,b =>
      a.actorAttemptId==b.actorAttemptId ||
      a.piTaskAttemptPromptAuthorizationId==b.piTaskAttemptPromptAuthorizationId
  | .piTaskAttemptSessionDisposeAuthorizations,a,b =>
      a.actorAttemptId==b.actorAttemptId || (a.piSessionId==b.piSessionId &&
      a.correlationIdentity==b.correlationIdentity)
  | .piTaskAttemptSessionDisposeDeliveries,a,b =>
      a.actorAttemptId==b.actorAttemptId || (a.piSessionId==b.piSessionId &&
      a.correlationIdentity==b.correlationIdentity)
  | .piTaskAttemptSessionDisposeAcceptances,a,b =>
      a.actorAttemptId==b.actorAttemptId || (a.actorAttemptId==b.actorAttemptId &&
      a.commandResultSequence==b.commandResultSequence)
  | .piTaskAttemptSessionDisposeUsageReceipts,a,b =>
      a.actorAttemptId==b.actorAttemptId || (a.piSessionId==b.piSessionId &&
      a.protocolSequence==b.protocolSequence)
  | .piTaskAttemptSessionDisposeUsageFailures,a,b =>
      a.actorAttemptId==b.actorAttemptId || (a.piSessionId==b.piSessionId &&
      a.protocolSequence==b.protocolSequence)
  | .piTaskAttemptSessionDisposeReceipts,a,b =>
      (a.piSessionId==b.piSessionId && a.disposedSequence==b.disposedSequence) ||
      a.actorAttemptId==b.actorAttemptId
  | .applicationRevisions,a,b =>
      a.applicationId==b.applicationId && a.revisionOrdinal==b.revisionOrdinal
  | .applicationRevisionPrinciples,a,b =>
      a.applicationRevisionId==b.applicationRevisionId && a.principleOrdinal==b.principleOrdinal
  | .applicationRevisionNorthStarQuestions,a,b => a.applicationRevisionId==b.applicationRevisionId
  | .foundingMissions,a,b =>
      a.societyId==b.societyId && (a.revision==b.revision || (a.active && b.active))
  | .officeOccupancies,a,b => a.active && b.active && a.officeId==b.officeId
  | .societyBootstraps,a,b => a.societyId==b.societyId
  | .operatingCycleAdmissions,a,b => a.operatingCycleId==b.operatingCycleId
  | .operatingCycleReconciliations,a,b => a.operatingCycleId==b.operatingCycleId
  | .rootAuthorityOfficeSessions,a,b =>
      a.lifecycleState.isLive && b.lifecycleState.isLive && a.operatingCycleId==b.operatingCycleId
  | .officeTurns,a,b =>
      a.lifecycleState==.active && b.lifecycleState==.active &&
      a.rootAuthorityOfficeSessionId==b.rootAuthorityOfficeSessionId
  | .budgetEnvelopeConstraints,a,b => a.budgetEnvelopeId==b.budgetEnvelopeId || a.scope==b.scope
  | .budgetReservationCharges,a,b =>
      a.budgetReservationId==b.budgetReservationId && a.budgetEnvelopeId==b.budgetEnvelopeId
  | .cancellationRequests,a,b =>
      a.lifecycleState.isNonterminal && b.lifecycleState.isNonterminal &&
      a.operatingCycleId==b.operatingCycleId
  | .costPostmortems,a,b => a.budgetReservationId==b.budgetReservationId
  | .costPostmortemResolutions,a,b => a.postmortemId==b.postmortemId
  | .projects,a,b => a.projectName==b.projectName
  | .projectNorthStarAlignments,a,b => a.projectId==b.projectId
  | .projectObjectives,a,b => a.projectId==b.projectId
  | .projectMilestones,a,b => a.projectId==b.projectId && a.milestoneName==b.milestoneName
  | .projectStopConditions,a,b => a.projectId==b.projectId
  | .tickets,a,b => a.projectId==b.projectId && a.ticketTitle==b.ticketTitle
  | .ticketAcceptanceConditions,a,b => a.ticketId==b.ticketId
  | .ticketPrerequisites,a,b =>
      a.ticketId==b.ticketId && a.prerequisiteTicketId==b.prerequisiteTicketId
  | .objectRevisions,a,b =>
      a.graphObjectId==b.graphObjectId && a.revisionOrdinal==b.revisionOrdinal
  | .observationRevisions,a,b => a.graphRevisionId==b.graphRevisionId
  | .hypothesisRevisions,a,b => a.graphRevisionId==b.graphRevisionId
  | .edges,a,b =>
      a.fromGraphRevisionId==b.fromGraphRevisionId && a.toGraphRevisionId==b.toGraphRevisionId &&
      a.edgeKind==b.edgeKind
  | .reviewChallengeResponses,a,b => a.reviewChallengeId==b.reviewChallengeId
  | .reviewDispositions,a,b => a.reviewChallengeId==b.reviewChallengeId
  | .coordinationCommandProvenance,a,b => a.commandRowId==b.commandRowId
  | .executionProfiles,a,b =>
      a.executionProfileId==b.executionProfileId || a.profileKind==b.profileKind
  | .executionProfileQualifications,a,b =>
      a.executionProfileId==b.executionProfileId ||
      a.nativeChildSpawnAdmissionId==b.nativeChildSpawnAdmissionId ||
      a.nativeChildId==b.nativeChildId
  | .actorConfigurations,a,b => a.configurationName==b.configurationName
  | .actorConfigurationRevisions,a,b =>
      a.actorConfigurationId==b.actorConfigurationId && a.revisionOrdinal==b.revisionOrdinal
  | .actorInstances,a,b => a.principalId==b.principalId
  | .leases,a,b =>
      a.lifecycleState==.active && b.lifecycleState==.active && a.workItemId==b.workItemId
  | .attempts,a,b =>
      a.lifecycleState.isLive && b.lifecycleState.isLive && a.workItemId==b.workItemId
  | .attemptBudgetReservations,a,b =>
      a.actorAttemptId==b.actorAttemptId || a.budgetReservationId==b.budgetReservationId
  | .actorAttemptTerminalFacts,a,b => a.actorAttemptId==b.actorAttemptId
  | .contentSealReceipts,a,b => a.digest==b.digest
  | .contentObjects,a,b => a.contentSealReceiptId==b.contentSealReceiptId
  | .forensicManifestObjects,a,b =>
      (a.forensicManifestId==b.forensicManifestId && a.memberOrdinal==b.memberOrdinal) ||
      (a.forensicManifestId==b.forensicManifestId && a.contentObjectId==b.contentObjectId) ||
      a.forensicManifestId==b.forensicManifestId
  | .evaluatorRevisions,a,b =>
      a.applicationRevisionId==b.applicationRevisionId && a.contentObjectId==b.contentObjectId
  | .inputManifests,a,b => a.contentObjectId==b.contentObjectId
  | .deterministicEvaluationReceipts,a,b =>
      a.deterministicExperimentId==b.deterministicExperimentId
  | .evidenceAdmissions,a,b =>
      a.deterministicEvaluationReceiptId==b.deterministicEvaluationReceiptId
  | .capabilityGrants,a,b =>
      a.principalId==b.principalId && a.capabilityKind==b.capabilityKind &&
      a.grantState==.active && b.grantState==.active && a.officeOccupancyId==b.officeOccupancyId &&
      a.actorInstanceId==b.actorInstanceId
  | .commands,a,b => a.commandId==b.commandId
  | .events,a,b =>
      a.eventId==b.eventId || a.commandRowId==b.commandRowId || a.eventSequence==b.eventSequence
  | .supervisorEpochs,a,b =>
      a.supervisorEpochId==b.supervisorEpochId ||
      a.supervisorEpochIdentity==b.supervisorEpochIdentity
  | .workspaces,a,b =>
      a.nativeWorkspaceId==b.nativeWorkspaceId ||
      a.canonicalWorkspacePath==b.canonicalWorkspacePath
  | .piChildSessions,a,b => a.piSessionIdentity==b.piSessionIdentity || a.spawnNonce==b.spawnNonce
  | .nativeChildSpawnAdmissions,a,b => sameOwner a.owner b.owner
  | .piChildSpawnSidecars,a,b =>
      a.nativeChildSpawnAdmissionId==b.nativeChildSpawnAdmissionId || a.piSessionId==b.piSessionId
  | .nativeChildSpawnInvalidations,a,b =>
      a.nativeChildSpawnAdmissionId==b.nativeChildSpawnAdmissionId
  | .officeSessionBudgetReservations,a,b =>
      a.rootAuthorityOfficeSessionId==b.rootAuthorityOfficeSessionId ||
      a.budgetReservationId==b.budgetReservationId
  | .nativeChildren,a,b =>
      a.nativeChildSpawnAdmissionId==b.nativeChildSpawnAdmissionId ||
      a.childIdentity==b.childIdentity
  | .piChildSessionProtocols,a,b => a.nativeChildId==b.nativeChildId
  | .nativeChildReapReceipts,a,b => a.nativeChildId==b.nativeChildId
  | .nativeChildRecoveryReceipts,a,b => a.nativeChildId==b.nativeChildId
  | .piAbortControlReceipts,a,b =>
      (a.nativeChildId==b.nativeChildId &&
      a.cancellationPropagationId==b.cancellationPropagationId) ||
      a.correlationIdentity==b.correlationIdentity
  | .nativeChildStreamSeals,a,b => a.nativeChildId==b.nativeChildId && a.streamKind==b.streamKind
  | .deterministicEvaluatorForensicManifestBindings,a,b =>
      a.forensicManifestId==b.forensicManifestId ||
      a.nativeChildSpawnAdmissionId==b.nativeChildSpawnAdmissionId ||
      a.nativeChildId==b.nativeChildId || a.nativeChildStreamSealId==b.nativeChildStreamSealId
  | .cancellationPropagations,a,b => a.cancellationRequestId==b.cancellationRequestId
  | .cancellationPropagationChildren,a,b =>
      a.cancellationPropagationId==b.cancellationPropagationId && a.nativeChildId==b.nativeChildId
  | .cancellationPropagationTargets,a,b =>
      a.cancellationPropagationId==b.cancellationPropagationId && a.owner==b.owner
  | .officeTurnBudgetCheckpoints,a,b => a.officeTurnId==b.officeTurnId
  | .piOfficeTurnPromptAuthorizations,a,b =>
      a.officeTurnId==b.officeTurnId || a.correlationIdentity==b.correlationIdentity
  | .piOfficeTurnPromptDeliveries,a,b =>
      a.officeTurnId==b.officeTurnId ||
      a.piOfficeTurnPromptAuthorizationId==b.piOfficeTurnPromptAuthorizationId
  | .piOfficeTurnPromptAcceptances,a,b =>
      a.officeTurnId==b.officeTurnId ||
      a.piOfficeTurnPromptAuthorizationId==b.piOfficeTurnPromptAuthorizationId
  | .piOfficeTurnUsageReceipts,a,b =>
      a.piSessionId==b.piSessionId && a.protocolSequence==b.protocolSequence
  | .piOfficeTurnUsageFailures,a,b =>
      (a.piSessionId==b.piSessionId && a.protocolSequence==b.protocolSequence) ||
      a.officeTurnId==b.officeTurnId ||
      a.piOfficeTurnPromptAuthorizationId==b.piOfficeTurnPromptAuthorizationId
  | .piOfficeTurnTerminalReceipts,a,b =>
      a.officeTurnId==b.officeTurnId ||
      a.piOfficeTurnPromptAuthorizationId==b.piOfficeTurnPromptAuthorizationId
  | .piOfficeSessionDisposeAuthorizations,a,b =>
      a.rootAuthorityOfficeSessionId==b.rootAuthorityOfficeSessionId ||
      (a.piSessionId==b.piSessionId && a.correlationIdentity==b.correlationIdentity)
  | .piOfficeSessionDisposeDeliveries,a,b =>
      a.rootAuthorityOfficeSessionId==b.rootAuthorityOfficeSessionId ||
      (a.piSessionId==b.piSessionId && a.correlationIdentity==b.correlationIdentity)
  | .piOfficeSessionDisposeAcceptances,a,b =>
      a.rootAuthorityOfficeSessionId==b.rootAuthorityOfficeSessionId ||
      (a.rootAuthorityOfficeSessionId==b.rootAuthorityOfficeSessionId &&
      a.commandResultSequence==b.commandResultSequence)
  | .piOfficeSessionDisposeUsageReceipts,a,b =>
      a.rootAuthorityOfficeSessionId==b.rootAuthorityOfficeSessionId ||
      (a.piSessionId==b.piSessionId && a.protocolSequence==b.protocolSequence)
  | .piOfficeSessionDisposeUsageFailures,a,b =>
      a.rootAuthorityOfficeSessionId==b.rootAuthorityOfficeSessionId ||
      (a.piSessionId==b.piSessionId && a.protocolSequence==b.protocolSequence)
  | .piOfficeSessionDisposeReceipts,a,b =>
      (a.piSessionId==b.piSessionId && a.disposedSequence==b.disposedSequence) ||
      a.rootAuthorityOfficeSessionId==b.rootAuthorityOfficeSessionId
  | .studyWorldRevisions,a,b =>
      a.studyProtocolRevisionId==b.studyProtocolRevisionId && a.worldDigest==b.worldDigest
  | .studyMeasurementRevisions,a,b =>
      a.studyProtocolRevisionId==b.studyProtocolRevisionId && a.analysisDigest==b.analysisDigest
  | .studyInstitutionRevisions,a,b =>
      a.studyProtocolRevisionId==b.studyProtocolRevisionId &&
      a.institutionDigest==b.institutionDigest
  | .studyEpisodeSuccessorPopulations,a,b => a.studyEpisodeId==b.studyEpisodeId
  | .studyTreatmentAssignments,a,b => a.studyEpisodeId==b.studyEpisodeId
  | .studyPairs,a,b =>
      a.retainedEpisodeId==b.retainedEpisodeId || a.resetEpisodeId==b.resetEpisodeId
  | .studyRuns,a,b => a.planContentObjectId==b.planContentObjectId || a.planDigest==b.planDigest
  | .studyRunPairs,a,b =>
      (a.studyRunId==b.studyRunId && a.pairOrdinal==b.pairOrdinal) ||
      (a.studyRunId==b.studyRunId && a.studyPairId==b.studyPairId) || a.studyPairId==b.studyPairId
  | .studyEpisodeForums,a,b => a.studyEpisodeId==b.studyEpisodeId
  | .studyForumThreads,a,b => a.episodeForumId==b.episodeForumId && a.title==b.title
  | .studyActorObligations,a,b =>
      a.studyEpisodeId==b.studyEpisodeId && a.populationPhase==b.populationPhase &&
      a.roleOrdinal==b.roleOrdinal
  | .studyActorOccurrences,a,b => a.studyActorObligationId==b.studyActorObligationId
  | .studyActorRuntimeBindings,a,b =>
      a.studyActorObligationId==b.studyActorObligationId || a.nativeChildId==b.nativeChildId ||
      a.nativeChildSpawnAdmissionId==b.nativeChildSpawnAdmissionId
  | .studyActorTaskAttemptLaunchClaims,a,b =>
      a.studyActorObligationId==b.studyActorObligationId || a.workItemId==b.workItemId ||
      a.actorAttemptId==b.actorAttemptId || a.budgetReservationId==b.budgetReservationId
  | .studyActorWorkAllocations,a,b =>
      (a.studyRunId==b.studyRunId && a.pairOrdinal==b.pairOrdinal && a.treatment==b.treatment &&
      a.populationPhase==b.populationPhase && a.roleOrdinal==b.roleOrdinal) ||
      a.workItemId==b.workItemId
  | .nativeExecutionProfileQualificationLaunchClaims,a,b =>
      a.operatingCycleId==b.operatingCycleId || a.budgetReservationId==b.budgetReservationId ||
      a.executionProfileId==b.executionProfileId || a.nativeWorkspaceId==b.nativeWorkspaceId ||
      a.canonicalWorkspacePath==b.canonicalWorkspacePath
  | .studyActorTaskAttemptRecoverySettlements,a,b =>
      a.studyActorObligationId==b.studyActorObligationId || a.actorAttemptId==b.actorAttemptId ||
      a.nativeChildId==b.nativeChildId ||
      a.nativeChildRecoveryReceiptId==b.nativeChildRecoveryReceiptId
  | .studyFrozenForumHeads,a,b => a.studyEpisodeId==b.studyEpisodeId
  | .studyForumExposures,a,b => a.studyActorObligationId==b.studyActorObligationId
  | .studyForumMessages,a,b =>
      a.forumThreadId==b.forumThreadId && a.threadMessageOrdinal==b.threadMessageOrdinal
  | .studyDecisions,a,b => a.studyActorObligationId==b.studyActorObligationId
  | .studyGroundTruthReveals,a,b => a.studyEpisodeId==b.studyEpisodeId
  | .studyMeasurementResults,a,b =>
      a.studyEpisodeId==b.studyEpisodeId && a.measurementSlot==b.measurementSlot
  | .studyExperimentalForks,a,b => a.forkedStudyEpisodeId==b.forkedStudyEpisodeId
  | .commandBodies,a,b => a.commandRowId==b.commandRowId
  | .eventBodies,a,b => a.eventId==b.eventId
  | _,_,_ => false

def ref {t : Tbl} (i : Id t) : Tbl × Nat := (t,i.val)

def optRef {t : Tbl} (i : Option (Id t)) : List (Tbl × Nat) := i.toList.map ref

def scopeRefs : BudgetScope → List (Tbl × Nat)
  | .society i => [ref i]
  | .cycle i => [ref i]

def ownerRefs : NativeChildOwner → List (Tbl × Nat)
  | .pi (.actorAttempt i) => [ref i]
  | .pi (.rootAuthorityOfficeSession i) => [ref i]
  | .pi (.nativeExecutionProfileQualification i) => [ref i]
  | .deterministicEvaluator i j k => [ref i,ref j,ref k]

def causeRefs : ProcessSignalCause → List (Tbl × Nat)
  | .cancellationPropagation i => [ref i]
  | .automaticBoundaryContainment => []

def targetRefs : CancellationTargetOwner → List (Tbl × Nat)
  | .actorAttempt i => [ref i]
  | .rootAuthorityOfficeSession i => [ref i]
  | .deterministicExperiment i => [ref i]

def frozenRefs : Option (CancellationRequestId × CostPostmortemId) → List (Tbl × Nat)
  | some (i,j) => [ref i,ref j]
  | none => []

def officeTranscriptRefs : PiOfficeSessionTranscriptReceipt → List (Tbl × Nat)
  | .materialized _ _ i _ => [ref i]
  | .unmaterializedNoPrompt _ => []

def taskTranscriptRefs : PiTaskAttemptSessionTranscriptReceipt → List (Tbl × Nat)
  | .materialized _ _ i _ => [ref i]
  | .unmaterializedNoPrompt _ => []

def runtimeRefs : StudyActorRuntimeOwner → List (Tbl × Nat)
  | .taskAttempt i => [ref i]
  | .rootAuthorityOfficeSession i => [ref i]

/-- The columns of the command body tables that are foreign keys; most body tables have none. -/
def CommandBody.refs : CommandBody → List (Tbl × Nat)
  | .authorizePiOfficeSessionDispose i _ | .recordPiOfficeSessionDisposeDelivery i _
  | .recordPiOfficeSessionDisposeAccepted i .. | .recordPiOfficeSessionDisposeUsage i ..
  | .recordPiOfficeSessionDisposeUsageFailure i .. => [ref i]
  | .recordPiOfficeSessionDisposed i _ _ t => ref i::officeTranscriptRefs t
  | .authorizePiTaskAttemptPrompt i _ p _ e => [ref i,ref p,ref e]
  | .recordPiTaskAttemptPromptDelivery i .. | .recordPiTaskAttemptPromptAccepted i ..
  | .recordPiTaskAttemptUsage i .. | .recordPiTaskAttemptUsageFailure i ..
  | .recordPiTaskAttemptTerminal i .. | .authorizePiTaskAttemptSessionDispose i _
  | .recordPiTaskAttemptSessionDisposeDelivery i _
  | .recordPiTaskAttemptSessionDisposeAccepted i ..
  | .recordPiTaskAttemptSessionDisposeUsage i ..
  | .recordPiTaskAttemptSessionDisposeUsageFailure i .. => [ref i]
  | .recordPiTaskAttemptSessionDisposed i _ _ t => ref i::taskTranscriptRefs t
  | .allocateStudyActorWork run _ _ _ _ c i _ e _ => [ref run,ref c,ref i,ref e]
  | .studyTransition (.admitStudyRun _ plan ..) => [ref plan]
  | .studyTransition (.readForum _ _ _ rendered) => [ref rendered]
  | _ => []

/-- Foreign keys. Those to `commands` are left out: a transition names its own command. -/
def refsOf : (t : Tbl) → rowOf t → List (Tbl × Nat)
  | .piTaskAttemptPromptAuthorizations,r =>
      [ref r.actorAttemptId,ref r.nativeChildId,ref r.piSessionId,ref r.budgetReservationId,
      ref r.promptContentObjectId,ref r.frontierEventId]
  | .piTaskAttemptPromptDeliveries,r =>
      [ref r.actorAttemptId,ref r.piTaskAttemptPromptAuthorizationId]
  | .piTaskAttemptPromptAcceptances,r =>
      [ref r.actorAttemptId,ref r.piTaskAttemptPromptAuthorizationId]
  | .piTaskAttemptUsageReceipts,r =>
      [ref r.actorAttemptId,ref r.piTaskAttemptPromptAuthorizationId,ref r.piSessionId]
  | .piTaskAttemptUsageFailures,r =>
      [ref r.actorAttemptId,ref r.piTaskAttemptPromptAuthorizationId,ref r.piSessionId,
      ref r.budgetReservationId,ref r.cancellationRequestId,ref r.costPostmortemId]
  | .piTaskAttemptTerminalReceipts,r =>
      [ref r.actorAttemptId,ref r.piTaskAttemptPromptAuthorizationId,ref r.nativeChildId,
      ref r.piSessionId] ++ optRef r.finalUsageReceiptId ++ optRef r.finalUsageFailureId
  | .piTaskAttemptSessionDisposeAuthorizations,r =>
      [ref r.actorAttemptId,ref r.nativeChildId,ref r.piSessionId]
  | .piTaskAttemptSessionDisposeDeliveries,r =>
      [ref r.actorAttemptId,ref r.nativeChildId,ref r.piSessionId]
  | .piTaskAttemptSessionDisposeAcceptances,r => [ref r.actorAttemptId]
  | .piTaskAttemptSessionDisposeUsageReceipts,r => [ref r.actorAttemptId,ref r.piSessionId]
  | .piTaskAttemptSessionDisposeUsageFailures,r =>
      [ref r.actorAttemptId,ref r.piSessionId,ref r.budgetReservationId,
      ref r.cancellationRequestId,ref r.costPostmortemId]
  | .piTaskAttemptSessionDisposeReceipts,r =>
      [ref r.actorAttemptId,ref r.nativeChildId,ref r.piSessionId] ++
      taskTranscriptRefs r.transcriptReceipt ++ frozenRefs r.frozen
  | .applicationRevisions,r => [ref r.applicationId,ref r.sourceContentObjectId]
  | .applicationRevisionPrinciples,r => [ref r.applicationRevisionId]
  | .applicationRevisionNorthStarQuestions,r => [ref r.applicationRevisionId]
  | .foundingMissions,r => [ref r.societyId,ref r.applicationRevisionId]
  | .officeOccupancies,r => [ref r.officeId,ref r.principalId]
  | .societyBootstraps,r =>
      [ref r.societyId,ref r.foundingMissionId,ref r.officeId,ref r.officeOccupancyId]
  | .operatingCycleAdmissions,r => [ref r.operatingCycleId]
  | .operatingCycleReconciliations,r => [ref r.operatingCycleId]
  | .rootAuthorityOfficeSessions,r => [ref r.operatingCycleId,ref r.officeOccupancyId]
  | .officeTurns,r => [ref r.rootAuthorityOfficeSessionId]
  | .budgetEnvelopeConstraints,r => [ref r.budgetEnvelopeId] ++ scopeRefs r.scope
  | .budgetReservations,r => [ref r.operatingCycleId]
  | .budgetReservationCharges,r => [ref r.budgetReservationId,ref r.budgetEnvelopeId]
  | .cancellationRequests,r => [ref r.operatingCycleId]
  | .costPostmortems,r =>
      [ref r.budgetReservationId,ref r.operatingCycleId,ref r.cancellationRequestId]
  | .costPostmortemResolutions,r => [ref r.postmortemId]
  | .projects,r => [ref r.foundingMissionId]
  | .projectNorthStarAlignments,r => [ref r.projectId,ref r.applicationRevisionId]
  | .projectObjectives,r => [ref r.projectId]
  | .projectMilestones,r => [ref r.projectId]
  | .projectStopConditions,r => [ref r.projectId]
  | .tickets,r => [ref r.projectId]
  | .ticketAcceptanceConditions,r => [ref r.ticketId]
  | .ticketPrerequisites,r => [ref r.ticketId,ref r.prerequisiteTicketId]
  | .objects,r => [ref r.foundingMissionId] ++ optRef r.projectId ++ optRef r.causalEpisodeId
  | .objectRevisions,r => [ref r.graphObjectId]
  | .observationRevisions,r => [ref r.graphRevisionId]
  | .hypothesisRevisions,r => [ref r.graphRevisionId]
  | .edges,r => [ref r.projectId,ref r.fromGraphRevisionId,ref r.toGraphRevisionId]
  | .episodes,r => [ref r.projectId,ref r.foundingMissionId]
  | .adversarialReviews,r =>
      [ref r.projectId,ref r.targetGraphRevisionId] ++ optRef r.assignedReviewerPrincipalId ++
      optRef r.assignedReviewerActorInstanceId ++ optRef r.reviewerActorAttemptId
  | .reviewChallenges,r =>
      [ref r.adversarialReviewId,ref r.targetGraphRevisionId,ref r.authorPrincipalId]
  | .reviewChallengeResponses,r => [ref r.reviewChallengeId]
  | .reviewDispositions,r => [ref r.reviewChallengeId,ref r.disposedByPrincipalId]
  | .postmortems,r => [ref r.projectId,ref r.foundingMissionId] ++ optRef r.causalEpisodeId
  | .postmortemCausalClaims,r => [ref r.postmortemId]
  | .postmortemActionProposals,r => [ref r.postmortemId]
  | .coordinationCommandProvenance,r =>
      [ref r.foundingMissionId,ref r.operatingCycleId] ++ optRef r.projectId
  | .operatingCycles,r => [ref r.societyId,ref r.foundingMissionId,ref r.officeOccupancyId]
  | .executionProfileQualifications,r =>
      [ref r.operatingCycleId,ref r.executionProfileId,ref r.nativeChildSpawnAdmissionId,
      ref r.nativeChildId,ref r.runtimeIdentityContentObjectId,ref r.adapterReportContentObjectId,
      ref r.probeResponseContentObjectId]
  | .actorConfigurationRevisions,r => [ref r.actorConfigurationId]
  | .contextPacks,r => [ref r.foundingMissionId]
  | .actorInstances,r =>
      [ref r.principalId,ref r.actorConfigurationRevisionId,ref r.executionProfileId,
      ref r.operatingCycleId]
  | .workItems,r =>
      [ref r.ticketId,ref r.actorInstanceId,ref r.contextPackId] ++
      optRef r.adversarialReviewId ++ optRef r.retryOfActorAttemptId
  | .leases,r => [ref r.workItemId,ref r.actorInstanceId]
  | .attempts,r =>
      [ref r.operatingCycleId,ref r.ticketId,ref r.workItemId,ref r.workLeaseId,
      ref r.actorInstanceId,ref r.actorConfigurationRevisionId,ref r.executionProfileId,
      ref r.contextPackId] ++ optRef r.retryOfActorAttemptId
  | .attemptBudgetReservations,r =>
      [ref r.actorAttemptId,ref r.budgetReservationId,ref r.projectId,ref r.ticketId]
  | .actorAttemptTerminalFacts,r => [ref r.actorAttemptId]
  | .outcomeObligations,r => [ref r.projectId]
  | .contentObjects,r => [ref r.contentSealReceiptId]
  | .forensicManifests,r => [ref r.producingDeterministicExperimentId]
  | .forensicManifestObjects,r => [ref r.forensicManifestId,ref r.contentObjectId]
  | .evaluatorRevisions,r => [ref r.applicationRevisionId,ref r.contentObjectId]
  | .inputManifests,r => [ref r.contentObjectId]
  | .deterministicExperiments,r =>
      [ref r.operatingCycleId,ref r.projectId,ref r.ticketId,ref r.targetGraphRevisionId,
      ref r.evaluatorRevisionId,ref r.inputManifestId]
  | .deterministicEvaluationReceipts,r =>
      [ref r.deterministicExperimentId,ref r.evaluatorRevisionId,ref r.inputManifestId,
      ref r.forensicManifestId,ref r.evaluatorOutputContentObjectId]
  | .evidenceAdmissions,r =>
      [ref r.deterministicEvaluationReceiptId,ref r.deterministicExperimentId,
      ref r.evaluatorRevisionId,ref r.inputManifestId,ref r.evaluatorOutputContentObjectId,
      ref r.relatedGraphRevisionId]
  | .capabilityGrants,r =>
      [ref r.principalId] ++ optRef r.officeOccupancyId ++ optRef r.actorInstanceId
  | .nativeChildSpawnAdmissions,r =>
      [ref r.operatingCycleId,ref r.executionProfileId,ref r.workspaceId,
      ref r.supervisorEpochId] ++ ownerRefs r.owner ++ optRef r.budgetReservationId
  | .piChildSpawnSidecars,r => [ref r.nativeChildSpawnAdmissionId,ref r.piSessionId]
  | .nativeChildSpawnInvalidations,r => [ref r.nativeChildSpawnAdmissionId]
  | .officeSessionBudgetReservations,r =>
      [ref r.rootAuthorityOfficeSessionId,ref r.budgetReservationId]
  | .nativeChildren,r => [ref r.nativeChildSpawnAdmissionId]
  | .piChildSessionProtocols,r => [ref r.nativeChildId]
  | .nativeChildLivenessObservations,r => [ref r.nativeChildId]
  | .processSignalReceipts,r => [ref r.nativeChildId] ++ causeRefs r.cause
  | .nativeChildReapReceipts,r => [ref r.nativeChildId]
  | .nativeChildRecoveryReceipts,r => [ref r.nativeChildId]
  | .piAbortControlReceipts,r => [ref r.nativeChildId,ref r.cancellationPropagationId]
  | .nativeChildStreamSeals,r => [ref r.nativeChildId,ref r.retainedContentObjectId]
  | .deterministicEvaluatorForensicManifestBindings,r =>
      [ref r.forensicManifestId,ref r.deterministicExperimentId,ref r.nativeChildSpawnAdmissionId,
      ref r.nativeChildId,ref r.evaluatorRevisionId,ref r.inputManifestId,
      ref r.nativeChildStreamSealId,ref r.evaluatorOutputContentObjectId]
  | .cancellationPropagations,r => [ref r.cancellationRequestId,ref r.operatingCycleId]
  | .cancellationPropagationChildren,r => [ref r.cancellationPropagationId,ref r.nativeChildId]
  | .cancellationPropagationTargets,r =>
      [ref r.cancellationPropagationId] ++ targetRefs r.owner ++ optRef r.nativeChildId
  | .officeTurnBudgetCheckpoints,r =>
      [ref r.officeTurnId,ref r.rootAuthorityOfficeSessionId,ref r.budgetReservationId]
  | .piOfficeTurnPromptAuthorizations,r =>
      [ref r.officeTurnId,ref r.nativeChildId,ref r.piSessionId,ref r.budgetReservationId,
      ref r.promptContentObjectId,ref r.frontierEventId]
  | .piOfficeTurnPromptDeliveries,r => [ref r.officeTurnId,ref r.piOfficeTurnPromptAuthorizationId]
  | .piOfficeTurnPromptAcceptances,r =>
      [ref r.officeTurnId,ref r.piOfficeTurnPromptAuthorizationId]
  | .piOfficeTurnUsageReceipts,r =>
      [ref r.officeTurnId,ref r.piOfficeTurnPromptAuthorizationId,ref r.piSessionId]
  | .piOfficeTurnUsageFailures,r =>
      [ref r.officeTurnId,ref r.piOfficeTurnPromptAuthorizationId,ref r.piSessionId,
      ref r.budgetReservationId,ref r.cancellationRequestId,ref r.costPostmortemId]
  | .piOfficeTurnTerminalReceipts,r =>
      [ref r.officeTurnId,ref r.piOfficeTurnPromptAuthorizationId,ref r.nativeChildId,
      ref r.piSessionId] ++ optRef r.finalUsageReceiptId ++ optRef r.finalUsageFailureId
  | .piOfficeSessionDisposeAuthorizations,r =>
      [ref r.rootAuthorityOfficeSessionId,ref r.nativeChildId,ref r.piSessionId]
  | .piOfficeSessionDisposeDeliveries,r =>
      [ref r.rootAuthorityOfficeSessionId,ref r.nativeChildId,ref r.piSessionId]
  | .piOfficeSessionDisposeAcceptances,r => [ref r.rootAuthorityOfficeSessionId]
  | .piOfficeSessionDisposeUsageReceipts,r =>
      [ref r.rootAuthorityOfficeSessionId,ref r.piSessionId]
  | .piOfficeSessionDisposeUsageFailures,r =>
      [ref r.rootAuthorityOfficeSessionId,ref r.piSessionId,ref r.budgetReservationId,
      ref r.cancellationRequestId,ref r.costPostmortemId]
  | .piOfficeSessionDisposeReceipts,r =>
      [ref r.rootAuthorityOfficeSessionId,ref r.nativeChildId,ref r.piSessionId] ++
      officeTranscriptRefs r.transcriptReceipt ++ frozenRefs r.frozen
  | .studyProtocolRevisions,r => [ref r.applicationRevisionId]
  | .studyWorldRevisions,r => [ref r.studyProtocolRevisionId]
  | .studyMeasurementRevisions,r => [ref r.studyProtocolRevisionId]
  | .studyInstitutionRevisions,r => [ref r.studyProtocolRevisionId]
  | .studyPopulationSnapshots,r => [ref r.studyProtocolRevisionId]
  | .studyEpisodes,r =>
      [ref r.studyProtocolRevisionId,ref r.studyWorldRevisionId,ref r.studyMeasurementRevisionId,
      ref r.studyInstitutionRevisionId,ref r.studyPopulationSnapshotId]
  | .studyEpisodeSuccessorPopulations,r => [ref r.studyEpisodeId,ref r.studyPopulationSnapshotId]
  | .studyTreatmentAssignments,r => [ref r.studyEpisodeId]
  | .studyPairs,r => [ref r.retainedEpisodeId,ref r.resetEpisodeId]
  | .studyRuns,r => [ref r.studyProtocolRevisionId,ref r.planContentObjectId]
  | .studyRunPairs,r => [ref r.studyRunId,ref r.studyPairId]
  | .studyEpisodeForums,r => [ref r.studyEpisodeId]
  | .studyForumThreads,r => [ref r.episodeForumId]
  | .studyActorObligations,r => [ref r.studyEpisodeId,ref r.studyPopulationSnapshotId]
  | .studyActorOccurrences,r => [ref r.studyActorObligationId]
  | .studyActorRuntimeBindings,r =>
      [ref r.studyActorObligationId,ref r.nativeChildId,ref r.nativeChildSpawnAdmissionId,
      ref r.executionProfileId] ++ runtimeRefs r.owner
  | .studyActorTaskAttemptLaunchClaims,r =>
      [ref r.studyActorObligationId,ref r.operatingCycleId,ref r.workItemId,ref r.actorAttemptId,
      ref r.budgetReservationId,ref r.executionProfileId,ref r.supervisorEpochId]
  | .studyActorWorkAllocations,r =>
      [ref r.studyRunId,ref r.operatingCycleId,ref r.workItemId,ref r.supervisorEpochId]
  | .nativeExecutionProfileQualificationLaunchClaims,r =>
      [ref r.operatingCycleId,ref r.budgetReservationId,ref r.executionProfileId,
      ref r.supervisorEpochId]
  | .studyActorTaskAttemptRecoverySettlements,r =>
      [ref r.studyActorObligationId,ref r.actorAttemptId,ref r.nativeChildId,
      ref r.nativeChildRecoveryReceiptId]
  | .studyFrozenForumHeads,r => [ref r.studyEpisodeId,ref r.forumThreadId]
  | .studyForumExposures,r => [ref r.studyActorObligationId,ref r.episodeForumId]
  | .studyForumMessages,r =>
      [ref r.forumThreadId] ++ optRef r.author ++ optRef r.inReplyToMessageId ++
      optRef r.supersedesMessageId
  | .studyForumReadReceipts,r =>
      [ref r.studyActorObligationId,ref r.forumThreadId,ref r.renderedContentObjectId]
  | .studyDecisions,r => [ref r.studyActorObligationId] ++ optRef r.citedForumMessageId
  | .studyGroundTruthReveals,r => [ref r.studyEpisodeId]
  | .studyMeasurementResults,r => [ref r.studyEpisodeId]
  | .studyExperimentalForks,r => [ref r.sourceStudyEpisodeId,ref r.forkedStudyEpisodeId]
  | .events,r => [ref r.commandRowId]
  | .commandBodies,r => ref r.commandRowId::r.body.refs
  | .eventBodies,r => [ref r.eventId]
  | _,_ => []

instance : Schema Tbl where
  Row := rowOf
  key := keyOf
  serial := serialOf
  check := checkOf
  conflict := conflictOf
  refs := refsOf

/-- A state of the kernel store. -/
abbrev Store := Db Tbl

theorem actorAttemptTerminalFacts_keyed : Schema.serial Tbl.actorAttemptTerminalFacts=false := rfl

theorem cancellationPropagationChildren_keyed :
    Schema.serial Tbl.cancellationPropagationChildren=false := rfl

theorem PrincipalRow.actor_key (name : PrincipalDisplayName) (i : PrincipalId) :
    Schema.key Tbl.principals (PrincipalRow.mk i .actor name.stored true)=i.val := rfl

theorem OperatingCycleAdmissionRow.started_key (cmd : CommandRowId)
    (r : OperatingCycleAdmissionRow) : Schema.key Tbl.operatingCycleAdmissions
      {r with startedByCommandId := some cmd}=Schema.key Tbl.operatingCycleAdmissions r := rfl

end Society.Kernel
