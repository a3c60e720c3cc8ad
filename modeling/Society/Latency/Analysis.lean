import Mathlib.Data.Vector.Basic
import Society.Kernel.Domain

namespace Society.Latency
open Society.Kernel (Blake3Digest I64)
open Society.Relational (bigintLimit)

/-! The analysis plan of CL-001, the observations it takes, and the paired summary of each metric.
Means, deviations and intervals are floating-point numbers of the source and are left out. -/

section Metrics

inductive Cl001Metric where
  | correctionAdoptionLatency | finalDecisionCorrect | falseClaimPersistence
  | correctionVisibilityBasisPoints | dissentSurvival | forumHistoryUtilizationBasisPoints
  | forumAttentionBytes | forumAttentionTurns | forumAttentionRuntimeMicros
  | operationalCostMicroUsd | amortizedInstitutionalCostMicroUsd
  deriving DecidableEq

def Cl001Metric.all : List Cl001Metric :=
  [.correctionAdoptionLatency,.finalDecisionCorrect,.falseClaimPersistence,
   .correctionVisibilityBasisPoints,.dissentSurvival,.forumHistoryUtilizationBasisPoints,
   .forumAttentionBytes,.forumAttentionTurns,.forumAttentionRuntimeMicros,
   .operationalCostMicroUsd,.amortizedInstitutionalCostMicroUsd]

def Cl001Metric.index : Cl001Metric → Fin 11
  | .correctionAdoptionLatency => 0
  | .finalDecisionCorrect => 1
  | .falseClaimPersistence => 2
  | .correctionVisibilityBasisPoints => 3
  | .dissentSurvival => 4
  | .forumHistoryUtilizationBasisPoints => 5
  | .forumAttentionBytes => 6
  | .forumAttentionTurns => 7
  | .forumAttentionRuntimeMicros => 8
  | .operationalCostMicroUsd => 9
  | .amortizedInstitutionalCostMicroUsd => 10

/-- A positive `u64`. -/
@[ext] structure PrecisionTarget where
  maxAbsCi95HalfWidth : Nat
  valid : 0 < maxAbsCi95HalfWidth ∧ maxAbsCi95HalfWidth<2^64
  deriving DecidableEq

def PrecisionTarget.unit : PrecisionTarget := ⟨1,by decide⟩

/-- One target for each metric. -/
abbrev PrecisionTargets := List.Vector PrecisionTarget 11

inductive MeasurementOutcome where
  | observed (value : I64) (valueDigest : Blake3Digest)
  | unavailable (reasonDigest : Blake3Digest)
  | invalidated (reasonDigest : Blake3Digest)
  deriving DecidableEq

structure ArmAnalysisObservation where
  values : List.Vector MeasurementOutcome 11
  deriving DecidableEq

def ArmAnalysisObservation.value (a : ArmAnalysisObservation) (metric : Cl001Metric) :
    MeasurementOutcome := a.values.get metric.index

end Metrics

section Plan

inductive AnalysisEstimand where
  | retainedMinusReset
  deriving DecidableEq

inductive AnalysisExclusionPolicy where
  | metricwiseCompleteCase
  deriving DecidableEq

inductive AnalysisInputError where
  | invalidPairId | duplicatePairId | duplicateWorldSeed | emptyInput | incompletePersistedPair
  | mismatchedPersistedPair | invalidAnalysisPlan | analysisPlanPairMismatch
  | analysisPlanProvenanceMissing | analysisPlanSeedMismatch | studyRunNotReady
  | studyRunPlanDigestMismatch | studyRunPairRegistrationMismatch
  deriving DecidableEq

def isPairIdCharacter (c : Char) : Bool := c.isAlphanum || c == '.' || c == '_' || c == '-'

def isPairId (s : String) : Bool :=
  s≠"" && s.utf8ByteSize ≤ 128 && s.toList.all isPairIdCharacter

/-- A label that is safe in a shell and in a TSV cell. -/
@[ext] structure AnalysisPairId where
  text : String
  valid : isPairId text=true
  deriving DecidableEq

def AnalysisPairId.parse (s : String) : Except AnalysisInputError AnalysisPairId :=
  if h : isPairId s=true then .ok ⟨s,h⟩ else .error .invalidPairId

/-- The loop that both plans run over their pairs; `prior` holds the pairs already passed. -/
def rejectDuplicates {ε : Type} (duplicateId duplicateSeed : ε) :
    List (AnalysisPairId × Blake3Digest) → List (AnalysisPairId × Blake3Digest) → Except ε Unit
  | _,[] => .ok ()
  | prior,(id,seed)::rest =>
    if prior.any (·.1=id) then .error duplicateId
    else if prior.any (·.2=seed) then .error duplicateSeed
    else rejectDuplicates duplicateId duplicateSeed (prior++[(id,seed)]) rest

structure PreregisteredAnalysisPlan where
  pairIds : List AnalysisPairId
  worldSeedDigests : List Blake3Digest
  estimand : AnalysisEstimand
  exclusionPolicy : AnalysisExclusionPolicy
  precisionTargets : PrecisionTargets
  deriving DecidableEq

def PreregisteredAnalysisPlan.new (pairIds : List AnalysisPairId)
    (worldSeedDigests : List Blake3Digest) (estimand : AnalysisEstimand)
    (exclusionPolicy : AnalysisExclusionPolicy) (precisionTargets : PrecisionTargets) :
    Except AnalysisInputError PreregisteredAnalysisPlan :=
  if pairIds=[] ∨ pairIds.length≠worldSeedDigests.length then .error .invalidAnalysisPlan
  else do
    rejectDuplicates .duplicatePairId .duplicateWorldSeed [] (pairIds.zip worldSeedDigests)
    .ok ⟨pairIds,worldSeedDigests,estimand,exclusionPolicy,precisionTargets⟩

end Plan

section Artifact
open Society.Kernel

structure PairProvenance where
  retainedEpisodeId : StudyEpisodeId
  resetEpisodeId : StudyEpisodeId
  protocolRevisionId : StudyProtocolRevisionId
  worldRevisionId : StudyWorldRevisionId
  measurementRevisionId : StudyMeasurementRevisionId
  measurementSlotCount : StudyMeasurementSlotCount
  institutionRevisionId : StudyInstitutionRevisionId
  retainedSourcePopulationSnapshotId : StudyPopulationSnapshotId
  resetSourcePopulationSnapshotId : StudyPopulationSnapshotId
  retainedSuccessorPopulationSnapshotId : StudyPopulationSnapshotId
  resetSuccessorPopulationSnapshotId : StudyPopulationSnapshotId
  randomizationDigest : Blake3Digest
  retainedFrozenForumHead : I64
  resetFrozenForumHead : I64
  retainedGroundTruthRevealDigest : Blake3Digest
  resetGroundTruthRevealDigest : Blake3Digest
  deriving DecidableEq

structure PairObservation where
  pairId : AnalysisPairId
  retained : ArmAnalysisObservation
  reset : ArmAnalysisObservation
  provenance : Option PairProvenance
  deriving DecidableEq

def checkedSub (a b : I64) : Option I64 :=
  if h : -(bigintLimit : Int)≤a.val-b.val ∧ a.val-b.val<bigintLimit then some ⟨a.val-b.val,h⟩
  else none

/-- The three statuses of a paired difference. -/
inductive DeltaStatus where
  | observed | invalidated | unavailable
  deriving DecidableEq

def DeltaStatus.text : DeltaStatus → String
  | .observed => "observed"
  | .invalidated => "invalidated"
  | .unavailable => "unavailable"

def deltaCell : MeasurementOutcome → MeasurementOutcome → DeltaStatus × Option I64
  | .observed left _,.observed right _ =>
    match checkedSub left right with
    | some value => (.observed,some value)
    | none => (.invalidated,none)
  | .invalidated _,_ => (.invalidated,none)
  | _,.invalidated _ => (.invalidated,none)
  | _,_ => (.unavailable,none)

/-- What one arm's cells come to. -/
structure ArmTally where
  observed : List I64
  unavailable : Nat
  invalidated : Nat
  deriving DecidableEq

def ArmTally.classify (t : ArmTally) : MeasurementOutcome → ArmTally
  | .observed value _ => { t with observed := t.observed++[value] }
  | .unavailable _ => { t with unavailable := t.unavailable+1 }
  | .invalidated _ => { t with invalidated := t.invalidated+1 }

/-- What the paired differences come to. -/
structure DeltaTally where
  deltas : List I64
  unavailable : Nat
  invalidated : Nat
  deriving DecidableEq

def DeltaTally.classify (t : DeltaTally) : DeltaStatus × Option I64 → DeltaTally
  | (.observed,some value) => { t with deltas := t.deltas++[value] }
  | (.observed,none) => t
  | (.invalidated,_) => { t with invalidated := t.invalidated+1 }
  | (.unavailable,_) => { t with unavailable := t.unavailable+1 }

structure MetricSummary where
  metric : Cl001Metric
  retainedObserved : Nat
  resetObserved : Nat
  pairedObserved : Nat
  retainedUnavailable : Nat
  retainedInvalidated : Nat
  resetUnavailable : Nat
  resetInvalidated : Nat
  deltaUnavailable : Nat
  deltaInvalidated : Nat
  deriving DecidableEq

/-- One pass of the loop over the pairs. -/
def tallyPair (metric : Cl001Metric) (t : ArmTally × ArmTally × DeltaTally) (pair : PairObservation) :
    ArmTally × ArmTally × DeltaTally :=
  let retained := pair.retained.value metric
  let reset := pair.reset.value metric
  (t.1.classify retained,t.2.1.classify reset,t.2.2.classify (deltaCell retained reset))

def summarize (metric : Cl001Metric) (pairs : List PairObservation) : MetricSummary :=
  let (retained,reset,delta) := pairs.foldl (tallyPair metric) (⟨[],0,0⟩,⟨[],0,0⟩,⟨[],0,0⟩)
  { metric,
    retainedObserved := retained.observed.length,
    resetObserved := reset.observed.length,
    pairedObserved := delta.deltas.length,
    retainedUnavailable := retained.unavailable,
    retainedInvalidated := retained.invalidated,
    resetUnavailable := reset.unavailable,
    resetInvalidated := reset.invalidated,
    deltaUnavailable := delta.unavailable,
    deltaInvalidated := delta.invalidated }

def analysisRevision : String := "cl-001-analysis-v1"

structure AnalysisArtifact where
  revision : String
  plan : Option PreregisteredAnalysisPlan
  pairs : List PairObservation
  summaries : List MetricSummary
  deriving DecidableEq

namespace AnalysisArtifact

def rejectDuplicatePairs : List AnalysisPairId → List PairObservation → Except AnalysisInputError Unit
  | _,[] => .ok ()
  | prior,pair::rest =>
    if prior.contains pair.pairId then .error .duplicatePairId
    else rejectDuplicatePairs (prior++[pair.pairId]) rest

def fromPairs (pairs : List PairObservation) : Except AnalysisInputError AnalysisArtifact :=
  if pairs=[] then .error .emptyInput
  else do
    rejectDuplicatePairs [] pairs
    .ok ⟨analysisRevision,none,pairs,Cl001Metric.all.map (fun metric => summarize metric pairs)⟩

/-- Each observation is of the planned pair in its place, and was drawn with the planned seed. -/
def matchPlan : List PairObservation → List AnalysisPairId → List Blake3Digest →
    Except AnalysisInputError Unit
  | pair::pairs,expectedId::ids,expectedSeed::seeds =>
    if pair.pairId≠expectedId then .error .analysisPlanPairMismatch
    else match pair.provenance with
      | none => .error .analysisPlanProvenanceMissing
      | some provenance =>
        if provenance.randomizationDigest≠expectedSeed then .error .analysisPlanSeedMismatch
        else matchPlan pairs ids seeds
  | _,_,_ => .ok ()

def fromPreregisteredPlan (plan : PreregisteredAnalysisPlan) (pairs : List PairObservation) :
    Except AnalysisInputError AnalysisArtifact :=
  if pairs.length≠plan.pairIds.length then .error .analysisPlanPairMismatch
  else do
    matchPlan pairs plan.pairIds plan.worldSeedDigests
    let artifact ← fromPairs pairs
    .ok { artifact with plan := some plan }

end AnalysisArtifact
end Artifact
end Society.Latency
