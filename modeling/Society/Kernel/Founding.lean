import Society.Kernel.Queries

namespace Society.Kernel
open Society.Relational

/-! Founding of the society and admission of operating cycles. -/

/-- The grants of a newly appointed Root Authority. -/
def Capability.rootAuthority : List Capability :=
  [.proposeOperatingCycle,.admitOperatingCycle,.quiesceOperatingCycle,.resumeOperatingCycle,
   .reconcileOperatingCycle,.closeOperatingCycle,.startRootAuthorityOfficeSession,
   .openOfficeTurn,.requestCancellation,.reserveBudget,.closeCostPostmortem,.createProject,
   .charterProject,.transitionProject,.completeProjectMilestone,.reopenProject,.createTicket,
   .transitionTicket,.addGraphObjectRevision,.commitGraphRevision,.addGraphEdge,.createEpisode,
   .transitionEpisode,.reopenEpisode,.requestAdversarialReview,.respondToReviewChallenge,
   .dispositionReviewChallenge,.resolveAdversarialReview,.triggerPostmortem,
   .recordPostmortemCausalClaim,.proposePostmortemAction,.closePostmortem,
   .registerActorConfiguration,.registerContextPack,.admitActorInstance,.admitTicket,
   .registerWorkItem,.startActorAttempt,.retryActorAttempt,.completeTicket,
   .registerOutcomeObligation,.resolveOutcomeObligation,.registerDeterministicExperiment,
   .finalizeDeterministicExperiment,.allocateStudyActorWork]

def createSociety (name : SocietyName) : Transition [.societies] EventBody := do
  let societyExists ← Tx.read (fun s => !(s.rows .societies).isEmpty)
  Tx.require (!societyExists) .foundingInvariant
  let i ← Tx.insert Tbl.societies (fun i =>
    {societyId := i,name := name.stored,lifecycleState := .identified}) .foundingInvariant
  pure (.societyIdentityCreated i)

def installRootAuthorityOffice (cmd : CommandRowId) :
    Transition [.officeContracts] EventBody := do
  let societyExists ← Tx.read (fun s => !(s.rows .societies).isEmpty)
  let officeExists ← Tx.read (fun s =>
    (s.rows .officeContracts).any (fun r => r.officeKind==.rootAuthorityOffice))
  Tx.require (societyExists && !officeExists) .foundingInvariant
  let i ← Tx.insert Tbl.officeContracts (fun i =>
    {officeId := i,officeKind := .rootAuthorityOffice,installedByCommandId := cmd})
    .foundingInvariant
  pure (.rootAuthorityOfficeInstalled i)

/-- The content object sealed under the digest of the mission's rendering. -/
def missionSourceContentObject (s : Store) (digest : Blake3Digest) : Option ContentObjectId :=
  ((s.rows .contentObjects).find? (fun o =>
    (s.find .contentSealReceipts o.contentSealReceiptId).any (·.digest==digest))).map
      (·.contentObjectId)

def installFoundingMission (cmd : CommandRowId) (mission : ApplicationMissionInput) :
    Transition [.applications,.applicationRevisions,.applicationRevisionPrinciples,
        .applicationRevisionNorthStarQuestions,.foundingMissions] EventBody := do
  let society ← onlySocietyId
  let missionExists ← Tx.read (fun s =>
    (s.rows .foundingMissions).any (fun r => r.societyId==society))
  Tx.require (!missionExists) .foundingInvariant
  let o ← Tx.read (fun s => missionSourceContentObject s mission.sourceRenderingDigest)
  let source ← Tx.the o .missionSourceContentNotSealed
  let application ← Tx.insert Tbl.applications (fun i =>
    {applicationId := i,applicationIdentity := mission.applicationIdentity.stored,
     applicationName := mission.applicationName.stored,createdByCommandId := cmd})
    .foundingInvariant
  let revision ← Tx.insert Tbl.applicationRevisions (fun i =>
    {applicationRevisionId := i,applicationId := application,
     revisionOrdinal := mission.revisionOrdinal,
     missionStatement := mission.statement.stored,
     sourceRenderingDigest := mission.sourceRenderingDigest,sourceContentObjectId := source,
     installedByCommandId := cmd}) .foundingInvariant
  Tx.each (fun (p : MissionPrinciple × Nat) => do
    let ordinal ← Tx.the (Ranged.new 1 16 (p.2+1)) .foundingInvariant
    Tx.store Tbl.applicationRevisionPrinciples
      {applicationRevisionId := revision,principleOrdinal := ordinal,
       principleKind := p.1.kind,principleText := p.1.text.stored} .foundingInvariant)
    mission.principles.principles.zipIdx
  Tx.store Tbl.applicationRevisionNorthStarQuestions
    {applicationRevisionId := revision,
     changeQuestion := mission.northStarQuestions.change.stored,
     improvementEvidenceQuestion := mission.northStarQuestions.improvementEvidence.stored,
     boundaryCommitmentQuestion := mission.northStarQuestions.boundaryCommitment.stored,
     revisitQuestion := mission.northStarQuestions.revisit.stored} .foundingInvariant
  let i ← Tx.insert Tbl.foundingMissions (fun i =>
    {foundingMissionId := i,societyId := society,applicationRevisionId := revision,
     revision := mission.revisionOrdinal,active := true,installedByCommandId := cmd})
    .foundingInvariant
  pure (.foundingMissionInstalled i revision)

def appointInitialRootAuthority (cmd : CommandRowId) (actorDisplayName : PrincipalDisplayName) :
    Transition [.principals,.officeOccupancies,.capabilityGrants] EventBody := do
  let office ← rootAuthorityOfficeId
  let occupied ← Tx.read (fun s =>
    (s.rows .officeOccupancies).any (fun r => r.officeId==office && r.active))
  Tx.require (!occupied) .foundingInvariant
  let actor ← Tx.insert Tbl.principals (fun i =>
    {principalId := i,principalKind := .actor,displayName := actorDisplayName.stored,
     active := true}) .foundingInvariant (by decide) (PrincipalRow.actor_key actorDisplayName)
  let occupancy ← Tx.insert Tbl.officeOccupancies (fun i =>
    {officeOccupancyId := i,officeId := office,principalId := actor,active := true,
     appointedByCommandId := cmd}) .activeOfficeOccupancyAlreadyExists
  Tx.each (fun capability => do
    let _ ← Tx.insert Tbl.capabilityGrants (fun i =>
      {capabilityGrantId := i,principalId := actor,capabilityKind := capability,
       officeOccupancyId := some occupancy,actorInstanceId := none,grantState := .active,
       grantOrigin := .ledgerCommand,grantedByCommandId := some cmd,
       consumedByCommandId := none}) .foundingInvariant) Capability.rootAuthority
  pure (.rootAuthorityAppointed occupancy actor)

/-- The ceiling lives only in the event body until the society is bootstrapped. -/
def setR0HardCeiling (ceiling : UsdMicros) : Transition [] EventBody := do
  let society ← onlySocietyId
  let bootstrapped ← Tx.read (fun s => !(s.rows .societyBootstraps).isEmpty)
  Tx.require (!bootstrapped) .foundingInvariant
  Tx.require (ceiling≠.zero) .budgetPolicyViolation
  pure (.r0HardCeilingSet society ceiling)

def bootstrapSociety (cmd : CommandRowId) :
    Transition [.societyBootstraps,.societies,.budgetEnvelopes,.budgetEnvelopeConstraints] EventBody := do
  let society ← onlySocietyId
  let bootstrapped ← Tx.read (fun s => !(s.rows .societyBootstraps).isEmpty)
  Tx.require (!bootstrapped) .foundingInvariant
  let mission ← activeFoundingMissionId society
  let office ← rootAuthorityOfficeId
  let occupancy ← activeRootAuthorityOccupancyId
  let ceiling ← hardCeilingFromEventBody
  Tx.store Tbl.societyBootstraps
    {societyId := society,foundingMissionId := mission,officeId := office,
     officeOccupancyId := occupancy,hardCeilingMicros := ceiling,
     bootstrappedByCommandId := cmd} .foundingInvariant
  let _ ← Tx.update Tbl.societies (fun r => r.societyId==society)
    (fun r => {r with lifecycleState := .bootstrapped}) .foundingInvariant
  let envelope ← createBudgetEnvelope cmd ceiling
  let _ ← Tx.insert Tbl.budgetEnvelopeConstraints (fun i =>
    {budgetEnvelopeConstraintId := i,budgetEnvelopeId := envelope,scope := .society society})
    .foundingInvariant
  pure (.societyBootstrapped society)

def proposeOperatingCycle (cmd : CommandRowId) (treatment : OperatingCycleTreatment)
    (budgetCeiling : UsdMicros) :
    Transition [.operatingCycles,.budgetEnvelopes,.budgetEnvelopeConstraints] EventBody := do
  let constitution ← bootstrappedConstitution
  Tx.require (budgetCeiling≠.zero && budgetCeiling.val ≤ constitution.hardCeilingMicros.val)
    .budgetPolicyViolation
  let nonterminal ← Tx.read (fun s =>
    (s.rows .operatingCycles).any (fun r => r.lifecycleState.isNonterminal))
  Tx.require (!nonterminal) .activeCycleAlreadyExists
  let cycle ← Tx.insert Tbl.operatingCycles (fun i =>
    {operatingCycleId := i,societyId := constitution.societyId,
     foundingMissionId := constitution.foundingMissionId,
     officeOccupancyId := constitution.officeOccupancyId,treatment := treatment,
     budgetCeilingMicros := budgetCeiling,lifecycleState := .proposed,
     admissionGeneration := .initial,proposedByCommandId := cmd,
     lastTransitionCommandId := cmd}) .activeCycleAlreadyExists
  let envelope ← createBudgetEnvelope cmd budgetCeiling
  let _ ← Tx.insert Tbl.budgetEnvelopeConstraints (fun i =>
    {budgetEnvelopeConstraintId := i,budgetEnvelopeId := envelope,scope := .cycle cycle})
    .foundingInvariant
  pure (.operatingCycleProposed cycle .initial treatment budgetCeiling)

def admitOperatingCycle (cmd : CommandRowId) (g : ExpectedGeneration) (c : OperatingCycleId) :
    Transition [.operatingCycles,.operatingCycleAdmissions] EventBody := do
  let cycle ← cycleForGeneration c g
  Tx.require (cycle.lifecycleState==.proposed) .invalidLifecycleTransition
  transitionCycle cmd c .admitted cycle.admissionGeneration
  Tx.store Tbl.operatingCycleAdmissions
    {operatingCycleId := c,admittedByCommandId := cmd,startedByCommandId := none}
    .invalidLifecycleTransition
  pure (.operatingCycleStateChanged c .admitted cycle.admissionGeneration)

/-- Marks an admitted cycle as running. -/
def startCycle (cmd : CommandRowId) (c : OperatingCycleId) (cycle : OperatingCycleRow)
    {W : List Tbl} (hc : .operatingCycles ∈ W := by decide)
    (ha : .operatingCycleAdmissions ∈ W := by decide) : Transition W Unit := do
  Tx.require (cycle.lifecycleState==.admitted) .invalidLifecycleTransition
  transitionCycle cmd c .running cycle.admissionGeneration hc
  let _ ← Tx.update Tbl.operatingCycleAdmissions (fun r => r.operatingCycleId==c)
    (fun r => {r with startedByCommandId := some cmd}) .invalidLifecycleTransition ha
    (OperatingCycleAdmissionRow.started_key cmd)

def startOfficeSession (cmd : CommandRowId) (g : ExpectedGeneration) (c : OperatingCycleId) :
    Transition [.operatingCycles,.operatingCycleAdmissions,.rootAuthorityOfficeSessions] EventBody := do
  let cycle ← cycleForGeneration c g
  startCycle cmd c cycle
  let i ← Tx.insert Tbl.rootAuthorityOfficeSessions (fun i =>
    {rootAuthorityOfficeSessionId := i,operatingCycleId := c,
     officeOccupancyId := cycle.officeOccupancyId,lifecycleState := .reserved,
     startedByCommandId := cmd,lastTransitionCommandId := cmd}) .invalidLifecycleTransition
  pure (.rootAuthorityOfficeSessionStarted i c)

def startNativeExecutionProfileQualification (cmd : CommandRowId) (g : ExpectedGeneration)
    (c : OperatingCycleId) :
    Transition [.operatingCycles,.operatingCycleAdmissions] EventBody := do
  let cycle ← cycleForGeneration c g
  Tx.require (cycle.treatment==.piSdkQualificationV1) .qualificationTreatmentRestricted
  startCycle cmd c cycle
  pure (.nativeExecutionProfileQualificationStarted c cycle.admissionGeneration)

end Society.Kernel
