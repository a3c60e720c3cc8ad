import Society.Latency.Analysis
import Society.Latency.World

namespace Society.Latency
open Society.Coding
open Society.Kernel (Blake3Digest forumF0AwarenessDigest forumF0ToolContractDigest)

/-! The plan that is sealed before a live run: the fixed contract of all its arms, the seeded
pairs, and the precision that the analysis aims at. -/

variable (hash : Bytes → Blake3Digest)

section Constants

def livePlanRevision : String := "cl-001-live-plan-v1"

def protocolBytes : Bytes := utf8 "cl-001|protocol|v1"

def populationBytes : Bytes := utf8 "cl-001|fixed-eight-role-population|v1"

def forumCharterBytes : Bytes := utf8 "cl-001|forum-charter|f0|v1"

def institutionBytes : Bytes := utf8 "cl-001|forum-f0|v1"

def analysisContractBytes : Bytes := utf8 "cl-001|analysis|v1"

def actorPolicyDomain : Bytes := utf8 "cl-001|actor-policy|live-v1"

def isolatedBaselineBytes : Bytes := utf8 "cl-001|baseline|isolated-private-view|v1"

def unstructuredBaselineBytes : Bytes :=
  utf8 "cl-001|baseline|unstructured-ephemeral-exchange|v1"

def resetBaselineBytes : Bytes := utf8 "cl-001|baseline|reset-forum-exposure|v1"

def minPairCount : Nat := 2

def maxPairCount : Nat := 10000

def measurementSlotCount : UInt8 := 11

def episodePopulationSize : UInt8 := 8

def actorBudgetUnits : UInt64 := 2

def forumReadBudget : UInt64 := 4

def forumPostBudget : UInt64 := 1

def episodeBudgetUnits : UInt64 := actorBudgetUnits*8*2

end Constants

section Encoding

def putU64 (n : UInt64) : Bytes := beBytes 8 n.toNat

def putStr (s : String) : Bytes := putU64 (UInt64.ofNat (utf8 s).length)++utf8 s

end Encoding

section Descriptor

inductive LivePlanError where
  | zeroDigest (field : String)
  | invalidPairId
  | invalidPairCount
  | duplicatePairId
  | duplicateWorldSeed
  | canonicalRoleContract
  | analysisPlan (e : AnalysisInputError)
  | fixture (panic : FixturePanic)
  deriving DecidableEq

def requireDigest (digest : Blake3Digest) (field : String) : Except LivePlanError Unit :=
  if digest.bytes.all (·=0) then .error (.zeroDigest field) else .ok ()

structure ActorPolicyIdentity where
  policyRevisionDigest : Blake3Digest
  modelRuntimeDigest : Blake3Digest
  samplingContractDigest : Blake3Digest
  deriving DecidableEq

namespace ActorPolicyIdentity

def new (policyRevisionDigest modelRuntimeDigest samplingContractDigest : Blake3Digest) :
    Except LivePlanError ActorPolicyIdentity := do
  requireDigest policyRevisionDigest "actor policy revision"
  requireDigest modelRuntimeDigest "model runtime profile"
  requireDigest samplingContractDigest "sampling contract"
  .ok ⟨policyRevisionDigest,modelRuntimeDigest,samplingContractDigest⟩

def digest (p : ActorPolicyIdentity) : Blake3Digest :=
  hash (actorPolicyDomain++p.policyRevisionDigest.bytes++p.modelRuntimeDigest.bytes++
    p.samplingContractDigest.bytes)

end ActorPolicyIdentity

structure ResourceBudgetContract where
  actorBudgetUnits : UInt64
  episodeBudgetUnits : UInt64
  forumReadBudget : UInt64
  forumPostBudget : UInt64
  deriving DecidableEq

def ResourceBudgetContract.canonical : ResourceBudgetContract :=
  { actorBudgetUnits := Latency.actorBudgetUnits, episodeBudgetUnits := Latency.episodeBudgetUnits,
    forumReadBudget := Latency.forumReadBudget, forumPostBudget := Latency.forumPostBudget }

inductive PopulationPhase where
  | source | successor
  deriving DecidableEq

def PopulationPhase.tag : PopulationPhase → UInt8
  | .source => 1
  | .successor => 2

inductive TreatmentArm where
  | retained | reset
  deriving DecidableEq

def TreatmentArm.tag : TreatmentArm → UInt8
  | .retained => 1
  | .reset => 2

inductive BaselineKind where
  | isolatedPrivateView | unstructuredEphemeralExchange | resetForumExposure
  deriving DecidableEq

def BaselineKind.identity : BaselineKind → Blake3Digest
  | .isolatedPrivateView => hash isolatedBaselineBytes
  | .unstructuredEphemeralExchange => hash unstructuredBaselineBytes
  | .resetForumExposure => hash resetBaselineBytes

def BaselineKind.all : List BaselineKind :=
  [.isolatedPrivateView,.unstructuredEphemeralExchange,.resetForumExposure]

/-- One role seat of a population, with the digests of what its actor is given. -/
structure ActorSeatContract where
  phase : PopulationPhase
  ordinal : RoleOrdinal
  role : RoleKind
  privateView : PrivateViewKind
  privateViewDigest : Blake3Digest
  rolePromptDigest : Blake3Digest
  forumPromptDigest : Blake3Digest
  forumToolDigest : Blake3Digest
  budget : ResourceBudgetContract
  deriving DecidableEq

/-- The eight seats of one population. -/
abbrev Seats := List.Vector ActorSeatContract 8

def canonicalSeat (phase : PopulationPhase) (fixture : WorldFixture)
    (budget : ResourceBudgetContract) (s : RoleSpecification) :
    Except LivePlanError ActorSeatContract := do
  let privateViewDigest ← (s.privateViewDigest hash fixture).mapError
    (fun _ => .canonicalRoleContract)
  .ok { phase, ordinal := s.ordinal, role := s.kind, privateView := s.privateView,
        privateViewDigest, rolePromptDigest := s.promptFragment.digest hash,
        forumPromptDigest := forumF0AwarenessDigest hash,
        forumToolDigest := forumF0ToolContractDigest hash, budget }

def canonicalSeats (phase : PopulationPhase) (fixture : WorldFixture)
    (budget : ResourceBudgetContract) : Except LivePlanError Seats := do
  let seats ← canonicalRoleSpecifications.mapM (canonicalSeat hash phase fixture budget)
  if h : seats.length=8 then .ok ⟨seats,h⟩ else .error .canonicalRoleContract

structure LiveRunDescriptor where
  actorPolicy : ActorPolicyIdentity
  protocolDigest : Blake3Digest
  worldDigest : Blake3Digest
  evidenceDigest : Blake3Digest
  falseClaimDigest : Blake3Digest
  correctionDigest : Blake3Digest
  groundTruthCommitmentDigest : Blake3Digest
  roleTopologyDigest : Blake3Digest
  rolePromptRevisionDigest : Blake3Digest
  forumPromptDigest : Blake3Digest
  forumToolDigest : Blake3Digest
  institutionDigest : Blake3Digest
  forumCharterDigest : Blake3Digest
  populationDigest : Blake3Digest
  analysisDigest : Blake3Digest
  measurementSlotCount : UInt8
  populationSize : UInt8
  budget : ResourceBudgetContract
  treatmentArms : List.Vector TreatmentArm 2
  sourceRoles : Seats
  successorRoles : Seats
  baselineIdentities : List.Vector Blake3Digest 3
  sealedDigest : Blake3Digest
  deriving DecidableEq

def RoleKind.number : RoleKind → UInt8
  | .observer => 1
  | .challenger => 2
  | .synthesizer => 3
  | .decision => 4

def ForumReadObligation.number : ForumReadObligation → UInt8
  | .challengerOne => 1
  | .challengerTwo => 2
  | .synthesis => 3
  | .decision => 4

def putPrivateView : PrivateViewKind → Bytes
  | .evidenceCard cardOrdinal => [1,cardOrdinal]
  | .forum obligation => [2,obligation.number]

def putSeat (seat : ActorSeatContract) : Bytes :=
  [seat.phase.tag,seat.ordinal.value,seat.role.number]++putPrivateView seat.privateView++
    seat.privateViewDigest.bytes++seat.rolePromptDigest.bytes++seat.forumPromptDigest.bytes++
    seat.forumToolDigest.bytes++putU64 seat.budget.actorBudgetUnits++
    putU64 seat.budget.forumReadBudget++putU64 seat.budget.forumPostBudget

namespace LiveRunDescriptor

/-- The bytes of the descriptor under custody. -/
def canonicalBytes (d : LiveRunDescriptor) : Bytes :=
  utf8 livePlanRevision++[0]++(d.actorPolicy.digest hash).bytes++
    [d.protocolDigest,d.worldDigest,d.evidenceDigest,d.falseClaimDigest,d.correctionDigest,
     d.groundTruthCommitmentDigest,d.roleTopologyDigest,d.rolePromptRevisionDigest,
     d.forumPromptDigest,d.forumToolDigest,d.institutionDigest,d.forumCharterDigest,
     d.populationDigest,d.analysisDigest].flatMap (·.bytes)++
    [d.measurementSlotCount,d.populationSize]++putU64 d.budget.actorBudgetUnits++
    putU64 d.budget.episodeBudgetUnits++putU64 d.budget.forumReadBudget++
    putU64 d.budget.forumPostBudget++d.treatmentArms.toList.map (·.tag)++
    (d.sourceRoles.toList++d.successorRoles.toList).flatMap putSeat++
    d.baselineIdentities.toList.flatMap (·.bytes)

def canonical (actorPolicy : ActorPolicyIdentity) : Except LivePlanError LiveRunDescriptor := do
  let fixture ← (WorldFixture.canonical hash).mapError .fixture
  let budget := ResourceBudgetContract.canonical
  let sourceRoles ← canonicalSeats hash .source fixture budget
  let successorRoles ← canonicalSeats hash .successor fixture budget
  let descriptor : LiveRunDescriptor :=
    { actorPolicy,
      protocolDigest := hash protocolBytes,
      worldDigest := fixture.identity,
      evidenceDigest := fixture.partition.identity,
      falseClaimDigest := fixture.falseClaim.digest,
      correctionDigest := fixture.correctionPackage.digest,
      groundTruthCommitmentDigest := fixture.groundTruthReveal.digest,
      roleTopologyDigest := canonicalRoleTopologyDigest hash,
      rolePromptRevisionDigest := canonicalRolePromptRevisionDigest hash,
      forumPromptDigest := forumF0AwarenessDigest hash,
      forumToolDigest := forumF0ToolContractDigest hash,
      institutionDigest := hash institutionBytes,
      forumCharterDigest := hash forumCharterBytes,
      populationDigest := hash populationBytes,
      analysisDigest := hash analysisContractBytes,
      measurementSlotCount := Latency.measurementSlotCount,
      populationSize := episodePopulationSize,
      budget,
      treatmentArms := ⟨[.retained,.reset],rfl⟩,
      sourceRoles, successorRoles,
      baselineIdentities := ⟨BaselineKind.all.map (·.identity hash),rfl⟩,
      sealedDigest := hash (utf8 "cl-001|unsealed-placeholder") }
  .ok { descriptor with sealedDigest := hash (descriptor.canonicalBytes hash) }

end LiveRunDescriptor
end Descriptor

section Plan

/-- A pair and the seed of its world. -/
structure PairSeed where
  pairId : AnalysisPairId
  seedDigest : Blake3Digest
  deriving DecidableEq

def PairSeed.new (pairId : String) (seedDigest : Blake3Digest) : Except LivePlanError PairSeed := do
  let pairId ← (AnalysisPairId.parse pairId).mapError (fun _ => .invalidPairId)
  requireDigest seedDigest "world seed"
  .ok ⟨pairId,seedDigest⟩

structure LiveRunPlan where
  descriptor : LiveRunDescriptor
  pairs : List PairSeed
  analysis : PreregisteredAnalysisPlan
  sealedDigest : Blake3Digest
  deriving DecidableEq

def putPair (p : PairSeed) : Bytes := putStr p.pairId.text++p.seedDigest.bytes

def putTarget (t : PrecisionTarget) : Bytes := putU64 (UInt64.ofNat t.maxAbsCi95HalfWidth)

namespace LiveRunPlan

def new (descriptor : LiveRunDescriptor) (pairs : List PairSeed)
    (precisionTargets : PrecisionTargets) : Except LivePlanError LiveRunPlan :=
  if ¬(minPairCount≤pairs.length ∧ pairs.length ≤ maxPairCount) then .error .invalidPairCount
  else do
    rejectDuplicates .duplicatePairId .duplicateWorldSeed []
      (pairs.map (fun p => (p.pairId,p.seedDigest)))
    let analysis ← (PreregisteredAnalysisPlan.new (pairs.map (·.pairId)) (pairs.map (·.seedDigest))
      .retainedMinusReset .metricwiseCompleteCase precisionTargets).mapError .analysisPlan
    let bytes := descriptor.canonicalBytes hash++utf8 "|pairs|"++pairs.flatMap putPair++
      utf8 "|precision|"++precisionTargets.toList.flatMap putTarget
    .ok { descriptor, pairs, analysis, sealedDigest := hash bytes }

/-- The bytes that custody seals. The seal was computed from the arguments of `new`, this from the
fields of the plan. -/
def admissionBytes (p : LiveRunPlan) : Bytes :=
  p.descriptor.canonicalBytes hash++utf8 "|pairs|"++p.pairs.flatMap putPair++utf8 "|precision|"++
    p.analysis.precisionTargets.toList.flatMap putTarget

end LiveRunPlan
end Plan
end Society.Latency
