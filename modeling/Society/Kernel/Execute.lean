import Society.Kernel.Authority
import Society.Kernel.Child
import Society.Kernel.Cycle
import Society.Kernel.Fingerprint
import Society.Kernel.Forum
import Society.Kernel.Founding
import Society.Kernel.OfficeDispose
import Society.Kernel.Propagation
import Society.Kernel.TaskAttempt

namespace Society.Kernel
open Society.Relational Society.Coding

/-! One command of the kernel: dispatch, idempotency, the ledger and the two rollbacks. -/

section Dispatch
variable (hash : Bytes → Blake3Digest)

/-- The transition of a command, waiting for its command row. -/
structure Action (α : Type) where
  writes : List Tbl
  body : CommandRowId → Transition writes α

def studyAction : StudyCommand → Action StudyEvent
  | .admitProtocolRevision a b c d e f h i j k =>
    ⟨_,fun cmd => admitProtocolRevision hash cmd a b c d e f h i j k⟩
  | .admitWorldRevision a b => ⟨_,fun cmd => admitWorldRevision cmd a b⟩
  | .admitMeasurementRevision a b c => ⟨_,fun cmd => admitMeasurementRevision cmd a b c⟩
  | .admitInstitutionRevision a b => ⟨_,fun cmd => admitInstitutionRevision cmd a b⟩
  | .admitPopulationSnapshot a b c => ⟨_,fun cmd => admitPopulationSnapshot cmd a b c⟩
  | .admitEpisode a b c d e f => ⟨_,fun cmd => admitEpisode cmd a b c d e f⟩
  | .assignTreatment a b => ⟨_,fun cmd => assignTreatment cmd a b⟩
  | .admitMatchedPair a b => ⟨_,fun cmd => admitMatchedPair cmd a b⟩
  | .admitStudyRun a b c d => ⟨_,fun cmd => admitStudyRun cmd a b c d⟩
  | .registerStudyRunPair a b c d => ⟨_,fun cmd => registerStudyRunPair cmd a b c d⟩
  | .startStudyRun a => ⟨_,fun cmd => startStudyRun cmd a⟩
  | .completeStudyRun a => ⟨_,fun cmd => completeStudyRun cmd a⟩
  | .createEpisodeForum a b => ⟨_,fun cmd => createEpisodeForum cmd a b⟩
  | .openForumThread a b => ⟨_,fun cmd => openForumThread cmd a b⟩
  | .admitActorObligation a b c d e f h i j =>
    ⟨_,fun cmd => admitActorObligation cmd a b c d e f h i j⟩
  | .completeActorObligation a b => ⟨_,fun cmd => completeActorObligation cmd a b⟩
  | .failActorObligation a b => ⟨_,fun cmd => failActorObligation cmd a b⟩
  | .bindActorRuntime a b c d => ⟨_,fun cmd => bindActorRuntime cmd a b c d⟩
  | .bindActorTaskAttemptRuntime a b c d => ⟨_,fun cmd => bindActorTaskAttemptRuntime cmd a b c d⟩
  | .reconcileActorRuntime a b => ⟨_,fun cmd => reconcileActorRuntime cmd a b⟩
  | .settleActorTaskAttemptAfterRecovery a b c d =>
    ⟨_,fun cmd => settleActorTaskAttemptAfterRecovery cmd a b c d⟩
  | .freezeForumHead a b => ⟨_,fun cmd => freezeForumHead cmd a b⟩
  | .replacePopulation a b => ⟨_,fun cmd => replacePopulation cmd a b⟩
  | .admitForumExposure a b c => ⟨_,fun cmd => admitForumExposure cmd a b c⟩
  | .publishForumMessage a b c d e => ⟨_,fun cmd => publishForumMessage hash cmd a b c d e⟩
  | .retractForumMessage a b => ⟨_,fun _ => retractForumMessage a b⟩
  | .releaseMatchedCorrection a b c d => ⟨_,fun cmd => releaseMatchedCorrection hash cmd a b c d⟩
  | .readForum a b c d => ⟨_,fun cmd => readForum hash a cmd b c d⟩
  | .recordDecision a b c => ⟨_,fun cmd => recordDecision hash cmd a b c⟩
  | .revealGroundTruth a b => ⟨_,fun cmd => revealGroundTruth hash cmd a b⟩
  | .recordMeasurementResult a b c d e f => ⟨_,fun cmd => recordMeasurementResult cmd a b c d e f⟩
  | .closeEpisode a => ⟨_,fun cmd => closeEpisode cmd a⟩
  | .forkEpisode a b => ⟨_,fun cmd => forkEpisode hash cmd a b⟩

def commandAction (p : PrincipalId) (g : ExpectedGeneration) :
    CommandBody → Action EventBody
  | .createSocietyIdentity a => ⟨_,fun _ => createSociety a⟩
  | .installRootAuthorityOffice => ⟨_,fun cmd => installRootAuthorityOffice cmd⟩
  | .installFoundingMission a => ⟨_,fun cmd => installFoundingMission cmd a⟩
  | .appointInitialRootAuthority a => ⟨_,fun cmd => appointInitialRootAuthority cmd a⟩
  | .setR0HardCeiling a => ⟨_,fun _ => setR0HardCeiling a⟩
  | .bootstrapSociety => ⟨_,fun cmd => bootstrapSociety cmd⟩
  | .proposeOperatingCycle a b => ⟨_,fun cmd => proposeOperatingCycle cmd a b⟩
  | .admitOperatingCycle a => ⟨_,fun cmd => admitOperatingCycle cmd g a⟩
  | .startRootAuthorityOfficeSession a => ⟨_,fun cmd => startOfficeSession cmd g a⟩
  | .recordOfficeSessionReady a => ⟨_,fun cmd => recordOfficeSessionReady cmd g a⟩
  | .recordOfficeSessionTerminal a b => ⟨_,fun cmd => recordOfficeSessionTerminal cmd g a b⟩
  | .openOfficeTurn a b => ⟨_,fun cmd => openOfficeTurn cmd g a b⟩
  | .settleOfficeTurn a b => ⟨_,fun cmd => settleOfficeTurn cmd a b⟩
  | .quiesceOperatingCycle a => ⟨_,fun cmd => quiesceCycle cmd g a⟩
  | .recordCycleDrained a => ⟨_,fun cmd => recordCycleDrained cmd a⟩
  | .resumeOperatingCycle a => ⟨_,fun cmd => resumeCycle cmd g a⟩
  | .reconcileOperatingCycle a => ⟨_,fun cmd => beginReconciliation cmd g a⟩
  | .closeOperatingCycle a => ⟨_,fun cmd => closeCycle cmd g a⟩
  | .reserveBudget a b => ⟨_,fun cmd => reserveBudget cmd g a b⟩
  | .reconcileBudget a b => ⟨_,fun cmd => reconcileBudget cmd a b⟩
  | .requestCancellation a b => ⟨_,fun cmd => requestCancellation cmd g a b⟩
  | .reconcileCancellation a => ⟨_,fun cmd => reconcileCancellation cmd a⟩
  | .closeCostPostmortem a b => ⟨_,fun cmd => closeCostPostmortem cmd g a b⟩
  | .createProject a b c => ⟨_,fun cmd => createProject cmd g a b c⟩
  | .charterProject a b c d e => ⟨_,fun cmd => charterProject cmd g a b c d e⟩
  | .transitionProject a b c => ⟨_,fun cmd => transitionProject cmd g a b c⟩
  | .completeProjectMilestone a b => ⟨_,fun cmd => completeProjectMilestone cmd g a b⟩
  | .reopenProject a b => ⟨_,fun cmd => reopenProject cmd g a b⟩
  | .createTicket a b c d e => ⟨_,fun cmd => createTicket cmd g a b c d e⟩
  | .transitionTicket .. => ⟨_,fun _ => transitionTicket⟩
  | .addGraphObjectRevision a b c d e => ⟨_,fun cmd => addGraphObjectRevision cmd g a b c d e⟩
  | .commitGraphRevision a b => ⟨_,fun cmd => commitGraphRevision cmd g a b⟩
  | .addGraphEdge a b c d e => ⟨_,fun cmd => addGraphEdge cmd g a b c d e⟩
  | .createEpisode a b => ⟨_,fun cmd => createEpisode cmd g a b⟩
  | .transitionEpisode a b c => ⟨_,fun cmd => transitionEpisode cmd g a b c⟩
  | .reopenEpisode a b => ⟨_,fun cmd => reopenEpisode cmd g a b⟩
  | .requestAdversarialReview a b c => ⟨_,fun cmd => requestAdversarialReview cmd g a b c⟩
  | .assignAdversarialReviewer a b c d e =>
    ⟨_,fun cmd => assignAdversarialReviewer cmd g a b c d e⟩
  | .submitReviewChallenge a b c d e f => ⟨_,fun cmd => submitReviewChallenge cmd d g a b c e f⟩
  | .respondToReviewChallenge a b c => ⟨_,fun cmd => respondToReviewChallenge cmd g a b c⟩
  | .dispositionReviewChallenge a b c => ⟨_,fun cmd => dispositionReviewChallenge cmd p g a b c⟩
  | .resolveAdversarialReview a b c => ⟨_,fun cmd => resolveAdversarialReview cmd g a b c⟩
  | .triggerPostmortem a b c => ⟨_,fun cmd => triggerPostmortem cmd g a b c⟩
  | .recordPostmortemCausalClaim a b c d =>
    ⟨_,fun cmd => recordPostmortemCausalClaim cmd g a b c d⟩
  | .proposePostmortemAction a b c d => ⟨_,fun cmd => proposePostmortemAction cmd g a b c d⟩
  | .closePostmortem a b => ⟨_,fun cmd => closePostmortem cmd g a b⟩
  | .registerActorConfiguration a b c => ⟨_,fun cmd => registerActorConfiguration cmd a b c⟩
  | .registerContextPack a b c => ⟨_,fun cmd => registerContextPack cmd g a b c⟩
  | .admitActorInstance a b c d => ⟨_,fun cmd => admitActorInstance cmd g a b c d⟩
  | .admitTicket a b => ⟨_,fun cmd => admitTicket cmd g a b⟩
  | .registerWorkItem a b c d e f h => ⟨_,fun cmd => registerWorkItem cmd g a b c d e f h⟩
  | .claimWorkItem a b => ⟨_,fun cmd => claimWorkItem cmd p g a b⟩
  | .startActorAttempt a b c => ⟨_,fun cmd => startActorAttempt cmd g a b c⟩
  | .attestActorAttemptTerminal a b => ⟨_,fun cmd => attestActorAttemptTerminal cmd a b⟩
  | .validateTicketAttempt a b => ⟨_,fun cmd => validateTicketAttempt cmd g a b⟩
  | .retryActorAttempt a b => ⟨_,fun cmd => retryActorAttempt cmd g a b⟩
  | .completeTicket a b => ⟨_,fun cmd => completeTicket cmd g a b⟩
  | .expireWorkLease a => ⟨_,fun cmd => expireWorkLease cmd a⟩
  | .cancelActorAttempt a b => ⟨_,fun cmd => cancelActorAttempt cmd a b⟩
  | .registerOutcomeObligation a b c => ⟨_,fun cmd => registerOutcomeObligation cmd g a b c⟩
  | .resolveOutcomeObligation a b c => ⟨_,fun cmd => resolveOutcomeObligation cmd g a b c⟩
  | .recordContentSealReceipt a => ⟨_,fun cmd => recordContentSealReceipt cmd a⟩
  | .registerContentObject a => ⟨_,fun cmd => registerContentObject cmd a⟩
  | .registerForensicManifest a b c d e => ⟨_,fun cmd => registerForensicManifest cmd g a b c d e⟩
  | .registerDeterministicEvaluatorForensicManifest a b =>
    ⟨_,fun cmd => registerDeterministicEvaluatorForensicManifest cmd g a b⟩
  | .registerDeterministicExperiment a b c d e f =>
    ⟨_,fun cmd => registerDeterministicExperiment cmd g a b c d e f⟩
  | .recordDeterministicEvaluationReceipt a b c d e f =>
    ⟨_,fun cmd => recordDeterministicEvaluationReceipt cmd g a b c d e f⟩
  | .admitDeterministicEvidence a b => ⟨_,fun cmd => admitDeterministicEvidence cmd g a b⟩
  | .finalizeDeterministicExperiment a b =>
    ⟨_,fun cmd => finalizeDeterministicExperiment cmd g a b⟩
  | .admitDeterministicEvaluatorNativeChild a b c d e f h i j =>
    ⟨_,fun cmd => admitDeterministicEvaluatorNativeChild cmd g a b c d e f h i j⟩
  | .recordDeterministicEvaluatorNativeChildSpawn a b c d =>
    ⟨_,fun cmd => recordDeterministicEvaluatorNativeChildSpawn cmd a b c d⟩
  | .openSupervisorEpoch a b => ⟨_,fun cmd => openSupervisorEpoch cmd a b⟩
  | .admitPiChildSpawn a b c d e f h i j k =>
    ⟨_,fun cmd => admitPiChildSpawn cmd g a b c d e f h i j k⟩
  | .recordInertChildSpawn a b c d => ⟨_,fun cmd => recordInertChildSpawn cmd a b c d⟩
  | .recordPiAdapterReady a b c => ⟨_,fun _ => recordPiAdapterReady a b c⟩
  | .authorizePiCreateSession a b c => ⟨_,fun _ => authorizePiCreateSession g a b c⟩
  | .recordPiCreateSessionDelivery a b c => ⟨_,fun _ => recordPiCreateSessionDelivery a b c⟩
  | .recordPiSessionReady a b => ⟨_,fun cmd => recordPiSessionReady cmd a b⟩
  | .recordPiAbortControlDelivery a b c d e =>
    ⟨_,fun cmd => recordPiAbortControlDelivery cmd g a b c d e⟩
  | .recordChildStreamSeal a b c d e => ⟨_,fun cmd => recordChildStreamSeal cmd a b c d e⟩
  | .recordChildProcessLiveness a b => ⟨_,fun cmd => recordChildProcessLiveness cmd a b⟩
  | .recordProcessSignalReceipt a b c d e =>
    ⟨_,fun cmd => recordProcessSignalReceipt cmd a b c d e⟩
  | .recordDirectChildReap a b c d => ⟨_,fun cmd => recordDirectChildReap cmd a b c d⟩
  | .recordChildRecovery a b c => ⟨_,fun cmd => recordChildRecovery cmd a b c⟩
  | .finalizeChildProcess a => ⟨_,fun cmd => finalizeChildProcess cmd a⟩
  | .beginCancellationPropagation a => ⟨_,fun cmd => beginCancellationPropagation cmd g a⟩
  | .reconcileCancellationPropagation a => ⟨_,fun cmd => reconcileCancellationPropagation cmd g a⟩
  | .recordNativeChildNotSpawned a b => ⟨_,fun cmd => recordNativeChildNotSpawned cmd g a b⟩
  | .authorizePiOfficeTurnPrompt a b c d e =>
    ⟨_,fun cmd => authorizePiOfficeTurnPrompt cmd g a b c d e⟩
  | .recordPiOfficeTurnPromptDelivery a b c =>
    ⟨_,fun cmd => recordPiOfficeTurnPromptDelivery cmd a b c⟩
  | .recordPiOfficeTurnPromptAccepted a b c =>
    ⟨_,fun cmd => recordPiOfficeTurnPromptAccepted cmd a b c⟩
  | .recordPiOfficeTurnUsage a b c d => ⟨_,fun cmd => recordPiOfficeTurnUsage cmd a b c d⟩
  | .recordPiOfficeTurnUsageFailure a b c d =>
    ⟨_,fun cmd => recordPiOfficeTurnUsageFailure cmd a b c d⟩
  | .recordPiOfficeTurnTerminal a b c d e f h =>
    ⟨_,fun cmd => recordPiOfficeTurnTerminal cmd a b c d e f h⟩
  | .authorizePiOfficeSessionDispose a b =>
    ⟨_,fun cmd => authorizePiOfficeSessionDispose cmd g a b⟩
  | .recordPiOfficeSessionDisposeDelivery a b =>
    ⟨_,fun cmd => recordPiOfficeSessionDisposeDelivery cmd g a b⟩
  | .recordPiOfficeSessionDisposeAccepted a b c =>
    ⟨_,fun cmd => recordPiOfficeSessionDisposeAccepted cmd g a b c⟩
  | .recordPiOfficeSessionDisposeUsage a b c d =>
    ⟨_,fun cmd => recordPiOfficeSessionDisposeUsage cmd g a b c d⟩
  | .recordPiOfficeSessionDisposeUsageFailure a b c d =>
    ⟨_,fun cmd => recordPiOfficeSessionDisposeUsageFailure cmd g a b c d⟩
  | .recordPiOfficeSessionDisposed a b c d =>
    ⟨_,fun cmd => recordPiOfficeSessionDisposed cmd g a b c d⟩
  | .authorizePiTaskAttemptPrompt a b c d e =>
    ⟨_,fun cmd => authorizePiTaskAttemptPrompt cmd g a b c d e⟩
  | .recordPiTaskAttemptPromptDelivery a b c =>
    ⟨_,fun cmd => recordPiTaskAttemptPromptDelivery cmd a b c⟩
  | .recordPiTaskAttemptPromptAccepted a b c =>
    ⟨_,fun cmd => recordPiTaskAttemptPromptAccepted cmd a b c⟩
  | .recordPiTaskAttemptUsage a b c d => ⟨_,fun cmd => recordPiTaskAttemptUsage cmd a b c d⟩
  | .recordPiTaskAttemptUsageFailure a b c d =>
    ⟨_,fun cmd => recordPiTaskAttemptUsageFailure cmd a b c d⟩
  | .recordPiTaskAttemptTerminal a b c d e f h =>
    ⟨_,fun cmd => recordPiTaskAttemptTerminal cmd a b c d e f h⟩
  | .authorizePiTaskAttemptSessionDispose a b =>
    ⟨_,fun cmd => authorizePiTaskAttemptSessionDispose cmd g a b⟩
  | .recordPiTaskAttemptSessionDisposeDelivery a b =>
    ⟨_,fun cmd => recordPiTaskAttemptSessionDisposeDelivery cmd g a b⟩
  | .recordPiTaskAttemptSessionDisposeAccepted a b c =>
    ⟨_,fun cmd => recordPiTaskAttemptSessionDisposeAccepted cmd g a b c⟩
  | .recordPiTaskAttemptSessionDisposeUsage a b c d =>
    ⟨_,fun cmd => recordPiTaskAttemptSessionDisposeUsage cmd g a b c d⟩
  | .recordPiTaskAttemptSessionDisposeUsageFailure a b c d =>
    ⟨_,fun cmd => recordPiTaskAttemptSessionDisposeUsageFailure cmd g a b c d⟩
  | .recordPiTaskAttemptSessionDisposed a b c d =>
    ⟨_,fun cmd => recordPiTaskAttemptSessionDisposed cmd g a b c d⟩
  | .qualifyNativeExecutionProfile a b c d e f h i j k l =>
    ⟨_,fun cmd => qualifyNativeExecutionProfile cmd g a b c d e f h i j k l⟩
  | .startNativeExecutionProfileQualification a =>
    ⟨_,fun cmd => startNativeExecutionProfileQualification cmd g a⟩
  | .claimStudyActorTaskAttemptLaunch a b c d e f h i =>
    ⟨_,fun cmd => claimStudyActorTaskAttemptLaunch cmd g a b c d e f h i⟩
  | .claimNativeExecutionProfileQualificationLaunch a b c d e f =>
    ⟨_,fun cmd => claimNativeExecutionProfileQualificationLaunch cmd g a b c d e f⟩
  | .allocateStudyActorWork a b c d e f h i j k =>
    ⟨_,fun cmd => allocateStudyActorWork cmd g a b c d e f h i j k⟩
  | .studyTransition a => ⟨(studyAction hash a).writes,fun cmd => do
      let e ← (studyAction hash a).body cmd
      pure (.studyTransition e)⟩

end Dispatch

section Execute
variable (hash : Bytes → Blake3Digest)

def CommandRequest.action (r : CommandRequest) : Action EventBody :=
  commandAction hash r.principalId r.expectedGeneration r.body

/-- Consumes the grant of a founding command. -/
def consumeGrant (cmd : CommandRowId) (r : CommandRequest) (g : CapabilityGrantRow) :
    Transition [.capabilityGrants] Unit :=
  if r.principalId=bootstrapPrincipal ∧ r.capability.requiresConsumption=true then do
    let _ ← Tx.update Tbl.capabilityGrants
      (fun q => q.capabilityGrantId==g.capabilityGrantId && q.grantState==.active)
      (fun q => {q with grantState := .consumed,consumedByCommandId := some cmd})
      .capabilityNoLongerActive
  else pure ()

def CommandRequest.writes (r : CommandRequest) : List Tbl :=
  .capabilityGrants::(r.action hash).writes

def applyCommand (cmd : CommandRowId) (r : CommandRequest) :
    Transition (r.writes hash) EventBody := do
  let g ← Tx.query (fun s => authorize s r)
  let e ← ((r.action hash).body cmd).widen (fun _ h => List.mem_cons_of_mem _ h)
  (consumeGrant cmd r g).widen (fun t h => by
    rw [List.mem_singleton.mp h]
    exact List.mem_cons_self)
  pure e

inductive StoreError
  | idempotencyConflict | database
  deriving DecidableEq

structure CommandReceipt where
  disposition : CommandDisposition
  idempotent : Bool
  deriving DecidableEq

/-- The tables of the ledger itself. -/
def ledger : List Tbl := [.commands,.commandBodies,.events,.eventBodies]

def storedCommand (s : Store) (i : CommandId) : Option CommandRow :=
  (s.rows .commands).find? (fun q => q.commandId==i.stored)

/-- The next number of a table whose rows name their own. -/
def nextNumber (l : List Nat) : Nat := l.foldl max 0+1

def insertEvent {W : List Tbl} (cmd : CommandRowId) (body : EventBody)
    (he : .events ∈ W := by decide) (hb : .eventBodies ∈ W := by decide) :
    Tx W StoreError EventId := do
  let sequence ← Tx.read (fun s => nextNumber ((s.rows .events).map (·.eventSequence.val)))
  let sequence ← Tx.the (Ranged.new 1 i64Max sequence) .database
  let n ← Tx.read (fun s => nextNumber ((s.rows .events).map (·.eventId.val)))
  let i ← Tx.the (if h : 0<n ∧ n<bigintLimit then some (⟨n,h⟩ : EventId) else none) .database
  Tx.store Tbl.events {eventId := i,commandRowId := cmd,eventSequence := sequence} .database he
  Tx.store Tbl.eventBodies {eventId := i,body := body} .database hb
  pure i

def settleCommand {W : List Tbl} (cmd : CommandRowId) (d : CommandDisposition)
    (hw : .commands ∈ W := by decide) : Tx W StoreError CommandReceipt := do
  let _ ← Tx.update Tbl.commands (fun q => q.commandRowId==cmd)
    (fun q => {q with disposition := d}) .database hw
  pure ⟨d,false⟩

def ExpectedGeneration.toSql : ExpectedGeneration → Option AdmissionGeneration
  | .exact g => some g
  | .notApplicable => none

def CommandRequest.row (r : CommandRequest) (i : CommandRowId) : CommandRow where
  commandRowId := i
  commandId := r.commandId.stored
  principalId := r.principalId
  capabilityGrantId := r.capabilityGrantId
  capabilityKind := r.capability
  expectedGeneration := r.expectedGeneration.toSql
  requestFingerprint := requestFingerprint hash r
  disposition := .rejected .subjectNotFound

/-- The command row and its typed body. A body that its table refuses is no rejection: the
whole transaction fails. -/
def insertCommand {W : List Tbl} (r : CommandRequest) (hc : .commands ∈ W := by decide)
    (hb : .commandBodies ∈ W := by decide) : Tx W StoreError CommandRowId := do
  let cmd ← Tx.insert Tbl.commands (fun i => r.row hash i) StoreError.database hc
  Tx.store Tbl.commandBodies {commandRowId := cmd,body := r.body} .database hb
  pure cmd

def executeNew {W : List Tbl} (r : CommandRequest) (hl : ∀ t ∈ ledger,t ∈ W)
    (hw : ∀ t ∈ r.writes hash,t ∈ W) : Tx W StoreError CommandReceipt := do
  let cmd ← insertCommand hash r (hl .commands (by decide)) (hl .commandBodies (by decide))
  let o ← Tx.savepoint ((applyCommand hash cmd r).widen hw)
  match o with
  | .ok body => do
    let i ← insertEvent cmd body (hl .events (by decide)) (hl .eventBodies (by decide))
    settleCommand cmd (.accepted i) (hl .commands (by decide))
  | .error e => settleCommand cmd (.rejected e) (hl .commands (by decide))

def executeInTransaction {W : List Tbl} (r : CommandRequest) (hl : ∀ t ∈ ledger,t ∈ W)
    (hw : ∀ t ∈ r.writes hash,t ∈ W) : Tx W StoreError CommandReceipt := do
  let stored ← Tx.read (fun s => storedCommand s r.commandId)
  match stored with
  | some q =>
    if q.requestFingerprint=requestFingerprint hash r then pure ⟨q.disposition,true⟩
    else Tx.raise .idempotencyConflict
  | none => executeNew hash r hl hw

def execute (r : CommandRequest) (s : Store) : Except StoreError CommandReceipt × Store :=
  Tx.commit (W := ledger++r.writes hash)
    (executeInTransaction hash r (fun _ h => List.mem_append_left _ h)
      (fun _ h => List.mem_append_right _ h)) s

end Execute
end Society.Kernel
