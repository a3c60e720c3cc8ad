import Society.Codec
import Society.Kernel.StudyObservation
import Society.Latency.Analysis

namespace Society.Latency
open Society.Coding Society.Relational
open Society.Kernel (Blake3Digest Count I64 StudyEpisodeObservation StudyEpisodeState
  StudyMeasurementObservation StudyMeasurementStatus StudyPairObservation StudyReadError
  StudyRunLifecycleState StudyRunObservation StudyRunPairRegistrationObservation StudyTreatment
  episodeObservation i64Max pairObservation pairObservation_row runObservation)

/-! The join of a sealed analysis plan with the study run and the pairs that the kernel reports. -/

section Join
variable (hash : Bytes → Blake3Digest)

def metricCount : Nat := Cl001Metric.all.length

def hasExactMeasurementSlots (episode : StudyEpisodeObservation) : Bool :=
  episode.measurements.length==metricCount && (List.range metricCount).all (fun k =>
    episode.measurements.countP (fun m => m.measurementSlot.val==k+1)==1)

/-- Both episodes are closed, with all they admitted at its end and their facts recorded. -/
def Incomplete (retained reset : StudyEpisodeObservation) : Prop :=
  retained.lifecycleState≠.closed ∨ reset.lifecycleState≠.closed ∨
  retained.sourceActorObligations≠retained.sourceTerminalActorObligations ∨
  retained.successorActorObligations≠retained.successorTerminalActorObligations ∨
  reset.sourceActorObligations≠reset.sourceTerminalActorObligations ∨
  reset.successorActorObligations≠reset.successorTerminalActorObligations ∨
  retained.failedActorObligations≠0 ∨ reset.failedActorObligations≠0 ∨
  retained.runtimeBindings≠retained.reconciledRuntimeBindings ∨
  reset.runtimeBindings≠reset.reconciledRuntimeBindings ∨
  retained.successorPopulationSnapshotId=none ∨ reset.successorPopulationSnapshotId=none ∨
  retained.frozenForumHead=none ∨ reset.frozenForumHead=none ∨
  retained.groundTruthRevealDigest=none ∨ reset.groundTruthRevealDigest=none ∨
  2 < retained.decisions ∨ 2 < reset.decisions

/-- The arms are of other treatments or contracts than a pair of this study. -/
def Mismatched (retained reset : StudyEpisodeObservation) : Prop :=
  retained.treatment≠.retained ∨ reset.treatment≠.reset ∨
  retained.protocolRevisionId≠reset.protocolRevisionId ∨
  retained.worldRevisionId≠reset.worldRevisionId ∨
  retained.measurementRevisionId≠reset.measurementRevisionId ∨
  retained.measurementSlotCount≠reset.measurementSlotCount ∨
  retained.institutionRevisionId≠reset.institutionRevisionId ∨
  retained.randomizationDigest≠reset.randomizationDigest ∨
  retained.measurementSlotCount.val≠metricCount ∨ reset.measurementSlotCount.val≠metricCount ∨
  hasExactMeasurementSlots retained=false ∨ hasExactMeasurementSlots reset=false

instance (a b : StudyEpisodeObservation) : Decidable (Incomplete a b) := by
  unfold Incomplete; infer_instance

instance (a b : StudyEpisodeObservation) : Decidable (Mismatched a b) := by
  unfold Mismatched; infer_instance

def validatePersistedPair (pair : StudyPairObservation) : Except AnalysisInputError Unit :=
  if Incomplete pair.retained pair.reset then .error .incompletePersistedPair
  else if Mismatched pair.retained pair.reset then .error .mismatchedPersistedPair
  else .ok ()

/-- The reason of a value that the records do not have. -/
def missingMeasurement (episode : StudyEpisodeObservation) (slot : Nat) : MeasurementOutcome :=
  .invalidated (hash (utf8 ("cl-001|analysis-v1|missing-or-malformed-measurement|episode="++
    toString episode.episodeId.val++"|slot="++toString slot)))

def measuredOutcome (episode : StudyEpisodeObservation) (slot : Nat) : MeasurementOutcome :=
  match episode.measurements.find? (fun m => m.measurementSlot.val==slot) with
  | none => missingMeasurement hash episode slot
  | some measurement => match measurement.status with
    | .observed => match measurement.value,measurement.valueDigest with
      | some value,some valueDigest => .observed value valueDigest
      | _,_ => missingMeasurement hash episode slot
    | .unavailable => match measurement.reasonDigest with
      | some reasonDigest => .unavailable reasonDigest
      | none => missingMeasurement hash episode slot
    | .invalidated => match measurement.reasonDigest with
      | some reasonDigest => .invalidated reasonDigest
      | none => missingMeasurement hash episode slot

def ArmAnalysisObservation.fromPersistedEpisode (episode : StudyEpisodeObservation) :
    ArmAnalysisObservation :=
  ⟨List.Vector.ofFn (fun index => measuredOutcome hash episode (index.val+1))⟩

/-- A stored count as the signed integer that the provenance keeps. -/
def signed (n : Count) : I64 :=
  ⟨n.val,by
    have h := n.valid.2
    have hmax : i64Max=bigintLimit-1 := rfl
    have hlimit : bigintLimit=2^63 := rfl
    constructor <;> omega⟩

def orIncomplete {α : Type} : Option α → Except AnalysisInputError α
  | some a => .ok a
  | none => .error .incompletePersistedPair

def PairObservation.fromPersistedStudyPair (pair : StudyPairObservation) :
    Except AnalysisInputError PairObservation := do
  validatePersistedPair pair
  let retainedFrozenForumHead ← orIncomplete pair.retained.frozenForumHead
  let resetFrozenForumHead ← orIncomplete pair.reset.frozenForumHead
  let retainedSuccessorPopulationSnapshotId ←
    orIncomplete pair.retained.successorPopulationSnapshotId
  let resetSuccessorPopulationSnapshotId ← orIncomplete pair.reset.successorPopulationSnapshotId
  let retainedGroundTruthRevealDigest ← orIncomplete pair.retained.groundTruthRevealDigest
  let resetGroundTruthRevealDigest ← orIncomplete pair.reset.groundTruthRevealDigest
  let pairId ← AnalysisPairId.parse ("study-pair-"++toString pair.pairId.val)
  .ok
    { pairId,
      retained := .fromPersistedEpisode hash pair.retained,
      reset := .fromPersistedEpisode hash pair.reset,
      provenance := some
        { retainedEpisodeId := pair.retained.episodeId,
          resetEpisodeId := pair.reset.episodeId,
          protocolRevisionId := pair.retained.protocolRevisionId,
          worldRevisionId := pair.retained.worldRevisionId,
          measurementRevisionId := pair.retained.measurementRevisionId,
          measurementSlotCount := pair.retained.measurementSlotCount,
          institutionRevisionId := pair.retained.institutionRevisionId,
          retainedSourcePopulationSnapshotId := pair.retained.sourcePopulationSnapshotId,
          resetSourcePopulationSnapshotId := pair.reset.sourcePopulationSnapshotId,
          retainedSuccessorPopulationSnapshotId,
          resetSuccessorPopulationSnapshotId,
          randomizationDigest := pair.retained.randomizationDigest,
          retainedFrozenForumHead := signed retainedFrozenForumHead,
          resetFrozenForumHead := signed resetFrozenForumHead,
          retainedGroundTruthRevealDigest,
          resetGroundTruthRevealDigest } }

/-- The registration, the pair and the plan are of one ordinal and one seed. -/
def Registered (ordinal : Nat) (registration : StudyRunPairRegistrationObservation)
    (persisted : StudyPairObservation) (seed : Blake3Digest) : Prop :=
  registration.pairOrdinal.val=ordinal ∧ registration.pairId=persisted.pairId ∧
  registration.randomizationDigest=seed ∧ persisted.retained.randomizationDigest=seed ∧
  persisted.reset.randomizationDigest=seed

instance (n : Nat) (r : StudyRunPairRegistrationObservation) (p : StudyPairObservation)
    (d : Blake3Digest) : Decidable (Registered n r p d) := by
  unfold Registered; infer_instance

/-- The loop over the four lists, from the pair of the ordinal on. -/
def joinPairs : Nat → List StudyRunPairRegistrationObservation → List StudyPairObservation →
    List AnalysisPairId → List Blake3Digest → Except AnalysisInputError (List PairObservation)
  | ordinal,registration::registrations,persisted::rest,planPairId::ids,planSeed::seeds =>
    if Registered ordinal registration persisted planSeed then do
      let pair ← PairObservation.fromPersistedStudyPair hash persisted
      let pairs ← joinPairs (ordinal+1) registrations rest ids seeds
      .ok ({ pair with pairId := planPairId }::pairs)
    else .error .studyRunPairRegistrationMismatch
  | _,_,_,_,_ => .ok []

def AnalysisArtifact.fromPreregisteredStudyRun (plan : PreregisteredAnalysisPlan)
    (studyRun : StudyRunObservation) (persistedPairs : List StudyPairObservation) :
    Except AnalysisInputError AnalysisArtifact :=
  let plannedPairCount := plan.pairIds.length
  if studyRun.lifecycleState≠.completed ∨ studyRun.pairCount.val≠plannedPairCount ∨
      studyRun.registeredPairCount.val≠plannedPairCount ∨ studyRun.pairs.length≠plannedPairCount then
    .error .studyRunNotReady
  else if persistedPairs.length≠plannedPairCount then .error .studyRunPairRegistrationMismatch
  else do
    let pairs ← joinPairs hash 1 studyRun.pairs persistedPairs plan.pairIds plan.worldSeedDigests
    AnalysisArtifact.fromPreregisteredPlan plan pairs

end Join
end Society.Latency
