import Society.Latency.Choreography
import Society.Resident.StudyAdmission

namespace Society.Latency
open Society.Coding Society.Stateful
open Society.Kernel (Blake3Digest I64 StudyRunPairCount)
open Society.Resident (StudyAdmissionError StudyAdmissionOperationId SealedStudyContent)

/-! The coordinator of the two-pair pilot. It calls a backend, which may fail at any call, and
keeps the choreography of each pair and the actor lifetimes that are done. -/

variable (hash : Bytes → Blake3Digest)

section Admission

inductive DaemonCompositionError where
  | invalidPairCount
  | studyAdmission (e : StudyAdmissionError)
  | admissionBytesDigestMismatch
  | planDigestMismatch
  deriving DecidableEq

structure PreparedLiveRunAdmission where
  operation : StudyAdmissionOperationId
  planBytes : Bytes
  planDigest : Blake3Digest
  pairCount : StudyRunPairCount
  deriving DecidableEq

structure SealedLiveRunAdmission where
  planContent : SealedStudyContent
  planDigest : Blake3Digest
  pairCount : StudyRunPairCount
  deriving DecidableEq

namespace PreparedLiveRunAdmission

def new (operation : StudyAdmissionOperationId) (plan : LiveRunPlan) :
    Except DaemonCompositionError PreparedLiveRunAdmission :=
  match Kernel.Ranged.new 1 10000 plan.pairs.length with
  | none => .error .invalidPairCount
  | some pairCount =>
    let planBytes := plan.admissionBytes hash
    if hash planBytes≠plan.sealedDigest then .error .admissionBytesDigestMismatch
    else .ok ⟨operation,planBytes,plan.sealedDigest,pairCount⟩

/-- What becomes of the daemon's answer to the request to seal the plan. -/
def sealInto (p : PreparedLiveRunAdmission) (daemon : Except StudyAdmissionError SealedStudyContent) :
    Except DaemonCompositionError SealedLiveRunAdmission :=
  match daemon with
  | .error e => .error (.studyAdmission e)
  | .ok planContent =>
    if planContent.digest≠p.planDigest then .error .planDigestMismatch
    else .ok ⟨planContent,p.planDigest,p.pairCount⟩

end PreparedLiveRunAdmission

def pilotPairCount : Nat := 2

/-- A canonical live plan of two pairs. -/
structure FeasibilityPilotPlan where
  livePlan : LiveRunPlan
  canonical : ∃ policy,LiveRunDescriptor.canonical hash policy=.ok livePlan.descriptor
  planned : ∃ targets,LiveRunPlan.new hash livePlan.descriptor livePlan.pairs targets=.ok livePlan
  pairCount : livePlan.pairs.length=pilotPairCount
  deriving DecidableEq

end Admission

section Runner

inductive PilotRunLifecycle where
  | prepared | sealed | running | closed | completed
  deriving DecidableEq

structure ActorLifetime where
  pairOrdinal : Nat
  pairId : AnalysisPairId
  treatment : TreatmentArm
  phase : PopulationPhase
  prompt : ActorPromptMaterial
  deriving DecidableEq

def ActorLifetime.roleOrdinal (l : ActorLifetime) : UInt8 := l.prompt.ordinal.value

abbrev LifetimeKey := Nat × UInt8 × UInt8 × UInt8

def lifetimeKey (pairOrdinal : Nat) (treatment : TreatmentArm) (phase : PopulationPhase)
    (roleOrdinal : UInt8) : LifetimeKey :=
  (pairOrdinal,(match treatment with | .retained => 1 | .reset => 2),
    (match phase with | .source => 1 | .successor => 2),roleOrdinal)

/-- The answers of the backend while one call runs; the next call may meet others. -/
structure PilotExecutionBackend (ε : Type) where
  admitStudyRun : SealedLiveRunAdmission → FeasibilityPilotPlan hash → Except ε Unit
  registerPair : Nat → PairSeed → Except ε Unit
  startStudyRun : Except ε Unit
  executeActorLifetime : ActorLifetime → Except ε Unit
  freezeSource : Nat → TreatmentArm → Except ε I64
  exposeSuccessor : Nat → TreatmentArm → ForumExposure → Except ε Unit
  releaseMatchedCorrection : Nat → Except ε Unit
  closeSuccessor : Nat → TreatmentArm → Except ε Unit
  completeStudyRun : Except ε Unit
  closedPairObservations : Except ε (List PairObservation)

structure CanonicalPilotRunner where
  pilot : FeasibilityPilotPlan hash
  prepared : PreparedLiveRunAdmission
  sealed : Option SealedLiveRunAdmission
  lifecycle : PilotRunLifecycle
  pairStates : List PairStateRecord
  executedLifetimes : List LifetimeKey
  artifact : Option AnalysisArtifact

inductive PilotRunnerError (ε : Type) where
  | admission (e : DaemonCompositionError)
  | backend (e : ε)
  | choreography (e : ChoreographyError)
  | analysis (e : AnalysisInputError)
  | invalidLifecycle (expected actual : PilotRunLifecycle)
  | pairOrdinal (ordinal : Nat)
  | sealedPlanMismatch
  | sealedPlanMissing

/-- What a backend did successfully, as it saw it. -/
inductive BackendSuccess where
  | admitted
  | registered (pairOrdinal : Nat)
  | started
  | lifetime (pairOrdinal : Nat) (treatment : TreatmentArm) (phase : PopulationPhase)
      (roleOrdinal : UInt8)
  | frozen (pairOrdinal : Nat) (treatment : TreatmentArm) (head : I64)
  | exposed (pairOrdinal : Nat) (treatment : TreatmentArm) (exposure : ForumExposure)
  | released (pairOrdinal : Nat)
  | closed (pairOrdinal : Nat) (treatment : TreatmentArm)
  | completed
  | observed
  deriving DecidableEq

/-- The runner, with the successes of the backend so far, the oldest first. -/
structure PilotRun where
  runner : CanonicalPilotRunner hash
  seen : List BackendSuccess

namespace CanonicalPilotRunner
variable {hash : Bytes → Blake3Digest} {ε α : Type}

def new (operation : StudyAdmissionOperationId) (pilot : FeasibilityPilotPlan hash) :
    Except DaemonCompositionError (CanonicalPilotRunner hash) := do
  let prepared ← PreparedLiveRunAdmission.new hash operation pilot.livePlan
  .ok { pilot, prepared, sealed := none, lifecycle := .prepared,
        pairStates := pilot.livePlan.choreographies.map .planned, executedLifetimes := [],
        artifact := none }

def pairState (r : CanonicalPilotRunner hash) (pairOrdinal : Nat) :
    Except (PilotRunnerError ε) PairStateRecord :=
  match r.pairStates[pairOrdinal]? with
  | some state => .ok state
  | none => .error (.pairOrdinal pairOrdinal)

def choreography (r : CanonicalPilotRunner hash) (pairOrdinal : Nat) :
    Except (PilotRunnerError ε) PairChoreography :=
  match r.pilot.livePlan.choreographies[pairOrdinal]? with
  | some choreography => .ok choreography
  | none => .error (.pairOrdinal pairOrdinal)

/-- The source indexes its pairs here, of which there are as many as choreographies. -/
def pair (r : CanonicalPilotRunner hash) (pairOrdinal : Nat) : Except (PilotRunnerError ε) PairSeed :=
  match r.pilot.livePlan.pairs[pairOrdinal]? with
  | some pair => .ok pair
  | none => .error (.pairOrdinal pairOrdinal)

def plannedLifetime (r : CanonicalPilotRunner hash) (pairOrdinal : Nat) (pairId : AnalysisPairId)
    (treatment : TreatmentArm) (phase : PopulationPhase) (exposure : ForumExposure)
    (seat : ActorSeatContract) : Except (PilotRunnerError ε) ActorLifetime := do
  let prompt ← (r.pilot.livePlan.descriptor.actorPrompt hash phase seat.ordinal exposure).mapError
    .choreography
  .ok { pairOrdinal, pairId, treatment, phase, prompt }

def plannedActorLifetimes (r : CanonicalPilotRunner hash) (pairOrdinal : Nat)
    (treatment : TreatmentArm) (phase : PopulationPhase) :
    Except (PilotRunnerError ε) (List ActorLifetime) := do
  let choreography ← r.choreography pairOrdinal
  let state ← r.pairState pairOrdinal
  let exposure ← match phase with
    | .source => .ok choreography.retained.sourceExposure
    | .successor => match (state.arm treatment).successorExposure with
      | some exposure => .ok exposure
      | none => .error (.choreography .invalidArmTransition)
  let pair ← r.pair pairOrdinal
  (r.pilot.livePlan.descriptor.roles phase).toList.mapM
    (r.plannedLifetime pairOrdinal pair.pairId treatment phase exposure)

def populationComplete (r : CanonicalPilotRunner hash) (pairOrdinal : Nat)
    (treatment : TreatmentArm) (phase : PopulationPhase) : Bool :=
  (r.pilot.livePlan.descriptor.roles phase).toList.all (fun seat =>
    r.executedLifetimes.contains (lifetimeKey pairOrdinal treatment phase seat.ordinal.value))

end CanonicalPilotRunner
end Runner

section Calls
variable {hash : Bytes → Blake3Digest} {ε α : Type}

/-- The gate of the runner that each phase of an arm waits for. -/
def PopulationPhase.gate : PopulationPhase → ArmLifecycle
  | .source => .planned
  | .successor => .correctionReleased

def TreatmentArm.other : TreatmentArm → TreatmentArm
  | .retained => .reset
  | .reset => .retained

def PairChoreography.arm (c : PairChoreography) : TreatmentArm → ArmChoreography
  | .retained => c.retained
  | .reset => c.reset

namespace PilotRun

/-- A method of the runner. -/
abbrev Call (hash : Bytes → Blake3Digest) (ε α : Type) := Handler (PilotRun hash) (PilotRunnerError ε) α

def update (f : CanonicalPilotRunner hash → CanonicalPilotRunner hash) (s : PilotRun hash) :
    PilotRun hash := { s with runner := f s.runner }

def setPair (p : Nat) (state : PairStateRecord) (s : PilotRun hash) : PilotRun hash :=
  s.update (fun r => { r with pairStates := r.pairStates.set p state })

def setLifecycle (l : PilotRunLifecycle) (s : PilotRun hash) : PilotRun hash :=
  s.update (fun r => { r with lifecycle := l })

def record (e : BackendSuccess) (s : PilotRun hash) : PilotRun hash := { s with seen := s.seen++[e] }

def insertLifetime (key : LifetimeKey) (s : PilotRun hash) : PilotRun hash :=
  s.update (fun r => { r with executedLifetimes := r.executedLifetimes++[key] })

/-- Take the backend's answer, and note what it did when it succeeded. -/
def ask (answer : Except ε α) (success : α → BackendSuccess) : Call hash ε α := do
  let a ← Handler.lift (answer.mapError .backend)
  Handler.modify (record (success a))
  pure a

def requireRunning : Call hash ε Unit := do
  let s ← Handler.get
  Handler.ensure (s.runner.lifecycle=.running) (.invalidLifecycle .running s.runner.lifecycle)

def pairStateMut (p : Nat) (m : PairStateRecord.Step) : Call hash ε Unit := fun s =>
  match s.runner.pairStates[p]? with
  | none => (.error (.pairOrdinal p),s)
  | some state => ((m state).1.mapError .choreography,s.setPair p (m state).2)

def sealInto (daemon : Except StudyAdmissionError SealedStudyContent) : Call hash ε Unit := do
  let s ← Handler.get
  Handler.ensure (s.runner.lifecycle=.prepared) (.invalidLifecycle .prepared s.runner.lifecycle)
  let admission ← Handler.lift ((s.runner.prepared.sealInto daemon).mapError .admission)
  Handler.ensure (admission.planDigest=s.runner.pilot.livePlan.sealedDigest ∧
    admission.pairCount.val=s.runner.pilot.livePlan.pairs.length) .sealedPlanMismatch
  Handler.modify (update (fun r => { r with sealed := some admission }))
  Handler.modify (setLifecycle .sealed)

def registerPairs (backend : PilotExecutionBackend hash ε) : List (PairSeed × Nat) → Call hash ε Unit
  | [] => pure ()
  | (pair,ordinal)::rest => do
    ask (backend.registerPair ordinal pair) (fun _ => .registered ordinal)
    registerPairs backend rest

def start (backend : PilotExecutionBackend hash ε) : Call hash ε Unit := do
  let s ← Handler.get
  Handler.ensure (s.runner.lifecycle=.sealed) (.invalidLifecycle .sealed s.runner.lifecycle)
  let admission ← Handler.lift (match s.runner.sealed with
    | some admission => .ok admission
    | none => .error .sealedPlanMissing)
  ask (backend.admitStudyRun admission s.runner.pilot) (fun _ => .admitted)
  registerPairs backend s.runner.pilot.livePlan.pairs.zipIdx
  ask backend.startStudyRun (fun _ => .started)
  Handler.modify (setLifecycle .running)

/-- A lifetime that is done is passed over, so a population that failed half way can go on. -/
def executeLifetimes (backend : PilotExecutionBackend hash ε) (p : Nat) (t : TreatmentArm)
    (phase : PopulationPhase) : List ActorLifetime → Call hash ε Unit
  | [] => pure ()
  | lifetime::rest => do
    let key := lifetimeKey p t phase lifetime.roleOrdinal
    let s ← Handler.get
    Handler.when (s.runner.executedLifetimes.contains key=false) (do
      ask (backend.executeActorLifetime lifetime)
        (fun _ => .lifetime p t phase lifetime.roleOrdinal)
      Handler.modify (insertLifetime key))
    executeLifetimes backend p t phase rest

def executePopulation (backend : PilotExecutionBackend hash ε) (p : Nat) (t : TreatmentArm)
    (phase : PopulationPhase) : Call hash ε Unit := do
  requireRunning
  let s ← Handler.get
  let state ← Handler.lift (s.runner.pairState p)
  Handler.ensure (state.lifecycle t=phase.gate) (.choreography .invalidArmTransition)
  let lifetimes ← Handler.lift (s.runner.plannedActorLifetimes p t phase)
  executeLifetimes backend p t phase lifetimes

def freezeSource (backend : PilotExecutionBackend hash ε) (p : Nat) (t : TreatmentArm) :
    Call hash ε I64 := do
  requireRunning
  let s ← Handler.get
  let state ← Handler.lift (s.runner.pairState p)
  Handler.ensure (state.lifecycle t=.planned) (.choreography .invalidArmTransition)
  Handler.ensure (s.runner.populationComplete p t .source) (.choreography .invalidArmTransition)
  let frozenForumHead ← ask (backend.freezeSource p t) (.frozen p t)
  pairStateMut p (PairStateRecord.markSourceFrozen t frozenForumHead)
  pure frozenForumHead

def exposeSuccessor (backend : PilotExecutionBackend hash ε) (p : Nat) (t : TreatmentArm) :
    Call hash ε ForumExposure := do
  requireRunning
  let s ← Handler.get
  let choreography ← Handler.lift (s.runner.choreography p)
  let state ← Handler.lift (s.runner.pairState p)
  Handler.ensure (state.lifecycle t=.sourceFrozen ∧ (state.lifecycle t.other=.sourceFrozen ∨
    state.lifecycle t.other=.successorExposed)) (.choreography .invalidArmTransition)
  let frozenHead ← Handler.lift (match (state.arm t).frozenForumHead with
    | some head => .ok head
    | none => .error (.choreography .invalidArmTransition))
  let exposure ← Handler.lift (((choreography.arm t).successorExposure frozenHead).mapError
    .choreography)
  ask (backend.exposeSuccessor p t exposure) (fun _ => .exposed p t exposure)
  pairStateMut p (PairStateRecord.markSuccessorExposed t exposure)
  pure exposure

def releaseMatchedCorrection (backend : PilotExecutionBackend hash ε) (p : Nat) :
    Call hash ε Unit := do
  requireRunning
  let s ← Handler.get
  let state ← Handler.lift (s.runner.pairState p)
  Handler.ensure (state.retained.lifecycle=.successorExposed ∧
    state.reset.lifecycle=.successorExposed) (.choreography .correctionBarrierNotReady)
  ask (backend.releaseMatchedCorrection p) (fun _ => .released p)
  pairStateMut p PairStateRecord.releaseMatchedCorrection

def closeSuccessor (backend : PilotExecutionBackend hash ε) (p : Nat) (t : TreatmentArm) :
    Call hash ε Unit := do
  requireRunning
  let s ← Handler.get
  let state ← Handler.lift (s.runner.pairState p)
  Handler.ensure (state.lifecycle t=.correctionReleased) (.choreography .invalidArmTransition)
  Handler.ensure (s.runner.populationComplete p t .successor) (.choreography .invalidArmTransition)
  ask (backend.closeSuccessor p t) (fun _ => .closed p t)
  pairStateMut p (PairStateRecord.markSuccessorClosed t)

/-- The lifecycle is closed before the observations are read, so a call that cannot read them
cannot be repeated. -/
def complete (backend : PilotExecutionBackend hash ε) : Call hash ε AnalysisArtifact := do
  requireRunning
  let s ← Handler.get
  Handler.ensure (∀ state∈s.runner.pairStates,state.retained.lifecycle=.successorClosed ∧
    state.reset.lifecycle=.successorClosed) (.choreography .invalidArmTransition)
  ask backend.completeStudyRun (fun _ => .completed)
  Handler.modify (setLifecycle .closed)
  let observations ← ask backend.closedPairObservations (fun _ => .observed)
  let artifact ← Handler.lift ((AnalysisArtifact.fromPreregisteredPlan
    s.runner.pilot.livePlan.analysis observations).mapError .analysis)
  Handler.modify (update (fun r => { r with artifact := some artifact }))
  Handler.modify (setLifecycle .completed)
  pure artifact

end PilotRun
end Calls
end Society.Latency
