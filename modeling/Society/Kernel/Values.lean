import Society.Kernel.Tables

namespace Society.Kernel
open Society.Relational

def i64Max : Nat := bigintLimit-1

/-- A raw signed 64-bit field. -/
@[ext] structure I64 where
  val : Int
  valid : -(bigintLimit : Int)≤val ∧ val<bigintLimit
  deriving DecidableEq

/-- The identity with a number. -/
def nth {t : Tbl} (n : Nat) : Id t :=
  if h : 0<n ∧ n<bigintLimit then ⟨n,h⟩ else ⟨1,Id.one_valid⟩

theorem I64.zero_valid : -(bigintLimit : Int)≤0 ∧ (0 : Int)<bigintLimit := by decide

theorem I64.one_valid : -(bigintLimit : Int)≤1 ∧ (1 : Int)<bigintLimit := by decide

/-- A checked integer newtype of the domain: the constructor refuses values out of range. -/
@[ext] structure Ranged (lo hi : Nat) where
  val : Nat
  valid : lo≤val ∧ val≤hi
  deriving DecidableEq

namespace Ranged
variable {lo hi : Nat}

def new (lo hi n : Nat) : Option (Ranged lo hi) :=
  if h : lo≤n ∧ n≤hi then some ⟨n,h⟩ else none

def checkedAdd (a b : Ranged lo hi) : Option (Ranged lo hi) := new lo hi (a.val+b.val)

def checkedSub (a b : Ranged lo hi) : Option (Ranged lo hi) :=
  if b.val≤a.val then new lo hi (a.val-b.val) else none

theorem new_eq_some {n : Nat} {a : Ranged lo hi} :
    new lo hi n=some a ↔ a.val=n := by
  unfold new
  constructor
  · intro h
    split at h
    · exact (Option.some.inj h) ▸ rfl
    · cases h
  · rintro rfl
    rw [dif_pos a.valid]

theorem checkedAdd_eq_some {a b c : Ranged lo hi} :
    a.checkedAdd b=some c ↔ c.val=a.val+b.val := new_eq_some

theorem checkedSub_eq_some {a b c : Ranged lo hi} :
    a.checkedSub b=some c ↔ b.val≤a.val ∧ c.val=a.val-b.val := by
  unfold checkedSub
  split
  · next h => rw [new_eq_some]; exact ⟨fun e => ⟨h,e⟩,And.right⟩
  · next h =>
    refine ⟨fun e => ?_,fun e => absurd e.1 h⟩
    cases e

end Ranged

abbrev UsdMicros := Ranged 0 i64Max
abbrev PiTokenCount := Ranged 0 i64Max
abbrev AdmissionGeneration := Ranged 0 i64Max
abbrev PiProtocolSequence := Ranged 1 i64Max
abbrev ApplicationRevisionOrdinal := Ranged 1 i64Max
abbrev NativeChildPid := Ranged 1 (2^31-1)
abbrev OwnedProcessGroupId := Ranged 1 (2^31-1)
abbrev ProcessExitCode := Ranged 0 255
abbrev ProcessSignalNumber := Ranged 1 (2^31-1)
/-- A nonnegative and a positive integer column. -/
abbrev Count := Ranged 0 i64Max
abbrev Ordinal := Ranged 1 i64Max
abbrev StudyBudgetUnits := Ranged 0 i64Max
abbrev StudyRunPairCount := Ranged 1 10000
abbrev StudyRunRegisteredPairCount := Ranged 0 10000
abbrev StudyRunPairOrdinal := Ranged 1 10000
abbrev StudyRoleOrdinal := Ranged 1 64
abbrev StudyMeasurementSlot := Ranged 1 64
abbrev StudyMeasurementSlotCount := Ranged 1 64
abbrev ForumReadBudget := Ranged 1 i64Max
abbrev ForumPostBudget := Ranged 1 i64Max

theorem Ranged.zero_valid : 0≤0 ∧ 0 ≤ i64Max := ⟨Nat.le_refl 0,Nat.zero_le _⟩

theorem Ranged.one_valid : 1≤1 ∧ 1 ≤ i64Max := by decide

def UsdMicros.zero : UsdMicros := ⟨0,Ranged.zero_valid⟩

def AdmissionGeneration.initial : AdmissionGeneration := ⟨0,Ranged.zero_valid⟩

def AdmissionGeneration.increment (g : AdmissionGeneration) : Option AdmissionGeneration :=
  Ranged.new 0 i64Max (g.val+1)

/-! Text newtypes keep the grammar their `parse` enforces. -/

@[ext] structure Text (accepts : String → Bool) where
  val : String
  valid : accepts val=true
  deriving DecidableEq

def isAsciiAlphanumeric (c : Char) : Bool :=
  (48 ≤ c.toNat && c.toNat≤57) || (65 ≤ c.toNat && c.toNat≤90) || (97 ≤ c.toNat && c.toNat≤122)

/-- The `White_Space` code points that `str::trim` removes. -/
def isWhitespace (c : Char) : Bool :=
  (9 ≤ c.toNat && c.toNat≤13) || (0x2000 ≤ c.toNat && c.toNat≤0x200a) ||
    [0x20,0x85,0xa0,0x1680,0x2028,0x2029,0x202f,0x205f,0x3000].contains c.toNat

def boundaryIdentity (s : String) : Bool :=
  s.utf8ByteSize≤128 &&
    s.toList.all (fun c => isAsciiAlphanumeric c || c== '.' || c== '_' || c== '-') &&
    s.toList.head?.any isAsciiAlphanumeric && s.toList.getLast?.any isAsciiAlphanumeric

def graphicIdentity (s : String) : Bool :=
  s.toList≠[] && s.utf8ByteSize≤128 && s.toList.all (fun c => 0x21 ≤ c.toNat && c.toNat≤0x7e)

/-- Not blank, at most `limit` bytes, no NUL. -/
def boundedText (limit : Nat) (s : String) : Bool :=
  !s.toList.all isWhitespace && s.utf8ByteSize≤limit && !s.toList.contains '\x00'

/-- Not empty, at most `limit` bytes, no NUL. -/
def boundedBody (limit : Nat) (s : String) : Bool :=
  s.toList≠[] && s.utf8ByteSize≤limit && !s.toList.contains '\x00'

/-- The components of an absolute path after its leading slash. -/
def pathParts : List Char → List (List Char)
  | [] => [[]]
  | c::cs =>
    if c== '/' then []::pathParts cs
    else match pathParts cs with
      | [] => [[c]]
      | p::ps => (c::p)::ps

def canonicalPath (s : String) : Bool :=
  2 ≤ s.utf8ByteSize && s.utf8ByteSize≤4096 && s.toList.head?==some '/' &&
    s.toList.all (fun c => 0x20 ≤ c.toNat && c.toNat≠0x7f) &&
    (pathParts (s.toList.drop 1)).all (fun p => p≠[] && p≠['.'] && p≠['.','.'])

abbrev CommandId := Text graphicIdentity
abbrev SocietyName := Text (boundedText 160)
abbrev ApplicationIdentity := Text boundaryIdentity
abbrev ApplicationName := Text (boundedText 160)
abbrev PrincipalDisplayName := Text (boundedText 160)
abbrev NativeWorkspaceId := Text boundaryIdentity
abbrev PiBoundarySessionIdentity := Text boundaryIdentity
abbrev PiCorrelationIdentity := Text boundaryIdentity
abbrev SupervisedChildIdentity := Text boundaryIdentity
abbrev SpawnNonce := Text boundaryIdentity
abbrev SupervisorEpochIdentity := Text boundaryIdentity
abbrev CanonicalWorkspacePath := Text canonicalPath
abbrev CanonicalPiSessionTranscriptPath := Text canonicalPath
abbrev CoordinationText := Text (boundedText 1024)
abbrev ProjectName := CoordinationText
abbrev ProjectObjectiveText := CoordinationText
abbrev ProjectMilestoneName := CoordinationText
abbrev ProjectStopConditionText := CoordinationText
abbrev TicketTitle := CoordinationText
abbrev TicketAcceptanceConditionText := CoordinationText
abbrev ObservationRevisionText := CoordinationText
abbrev HypothesisRevisionText := CoordinationText
abbrev ReviewFailureHypothesis := CoordinationText
abbrev ReviewResponseText := CoordinationText
abbrev PostmortemCausalClaimText := CoordinationText
abbrev PostmortemActionProposalText := CoordinationText
abbrev ActorConfigurationName := CoordinationText
abbrev WorkAssignmentText := CoordinationText
abbrev OutcomeObligationText := CoordinationText
abbrev MissionText := Text (boundedText 4096)
abbrev MissionStatement := MissionText
abbrev MissionPrincipleText := MissionText
abbrev NorthStarChangeQuestion := MissionText
abbrev NorthStarImprovementEvidenceQuestion := MissionText
abbrev NorthStarBoundaryCommitmentQuestion := MissionText
abbrev NorthStarRevisitQuestion := MissionText
abbrev ProjectNorthStarChangeAnswer := MissionText
abbrev ProjectNorthStarImprovementEvidenceAnswer := MissionText
abbrev ProjectNorthStarBoundaryCommitmentAnswer := MissionText
abbrev ProjectNorthStarRevisitAnswer := MissionText
abbrev ForumMessageBody := Text (boundedBody (8*1024))
abbrev ForumThreadTitle := Text (boundedText 160)
abbrev StudyDecisionBody := Text (boundedBody (2*1024))
abbrev StudyGroundTruthReveal := Text (boundedBody (2*1024))

/-- A text column: a field of at most 2^30 bytes, as PostgreSQL stores it. -/
abbrev PgText := Text (fun s => s.utf8ByteSize<2^30)

/-- A grammar whose texts fit a text column. -/
class Storable (p : String → Bool) : Prop where
  bounded : ∀ s,p s=true → s.utf8ByteSize<2^30

instance : Storable boundaryIdentity where
  bounded s h := by
    simp only [boundaryIdentity,Bool.and_eq_true,decide_eq_true_eq] at h
    omega

instance : Storable graphicIdentity where
  bounded s h := by
    simp only [graphicIdentity,Bool.and_eq_true,decide_eq_true_eq] at h
    omega

instance : Storable canonicalPath where
  bounded s h := by
    simp only [canonicalPath,Bool.and_eq_true,decide_eq_true_eq] at h
    omega

theorem boundedText_storable {n : Nat} (hn : n<2^30) : Storable (boundedText n) where
  bounded s h := by
    simp only [boundedText,Bool.and_eq_true,decide_eq_true_eq] at h
    omega

theorem boundedBody_storable {n : Nat} (hn : n<2^30) : Storable (boundedBody n) where
  bounded s h := by
    simp only [boundedBody,Bool.and_eq_true,decide_eq_true_eq] at h
    omega

instance : Storable (boundedText 160) := boundedText_storable (by decide)

instance : Storable (boundedText 1024) := boundedText_storable (by decide)

instance : Storable (boundedText 4096) := boundedText_storable (by decide)

instance : Storable (boundedBody (8*1024)) := boundedBody_storable (by decide)

instance : Storable (boundedBody (2*1024)) := boundedBody_storable (by decide)

def Text.stored {p : String → Bool} [h : Storable p] (x : Text p) : PgText :=
  ⟨x.val,decide_eq_true (h.bounded x.val x.valid)⟩

theorem Text.stored_inj {p : String → Bool} [Storable p] {x y : Text p} :
    x.stored=y.stored ↔ x=y := by
  simp only [Text.ext_iff,Text.stored]

/-- A BLAKE3 output; the hash function itself is a parameter of the model. -/
@[ext] structure Blake3Digest where
  bytes : List UInt8
  valid : bytes.length=32
  deriving DecidableEq

def plainDigest (c : UInt8) : Blake3Digest := ⟨List.replicate 32 c,List.length_replicate⟩

/-- The bits of a nonnegative finite binary64: sign 0, exponent field below `0x7ff`. -/
@[ext] structure ProviderCostBinary64 where
  bits : Nat
  valid : bits<0x7ff*2^52
  deriving DecidableEq

/-- `ceil(binary64 * 1_000_000)` as the kernel computes it in 128-bit integers; a left
shift below 128 places drops the bits it pushes out. -/
def ProviderCostBinary64.ceilMicroUsd (c : ProviderCostBinary64) : Option UsdMicros :=
  let exponent := c.bits/2^52
  let fraction := c.bits%2^52
  if exponent=0 ∧ fraction=0 then some UsdMicros.zero
  else
    let significand := if exponent=0 then fraction else 2^52+fraction
    let numerator := significand*1000000
    if exponent≥1075 then
      if exponent-1075<128 then Ranged.new 0 i64Max (numerator*2^(exponent-1075)%2^128)
      else none
    else
      let shift := if exponent=0 then 1074 else 1075-exponent
      if shift≥128 then Ranged.new 0 i64Max 1
      else Ranged.new 0 i64Max (numerator/2^shift+if numerator%2^shift=0 then 0 else 1)

/-- One session-cumulative usage observation of Pi. -/
@[ext] structure PiCumulativeUsage where
  inputTokens : PiTokenCount
  outputTokens : PiTokenCount
  cacheReadTokens : PiTokenCount
  cacheWriteTokens : PiTokenCount
  totalTokens : PiTokenCount
  providerCost : ProviderCostBinary64
  ceilingMicroUsd : UsdMicros
  deriving DecidableEq

def PiCumulativeUsage.isInternallyConsistent (u : PiCumulativeUsage) : Bool :=
  (((u.inputTokens.checkedAdd u.outputTokens).bind (·.checkedAdd u.cacheReadTokens)).bind
    (·.checkedAdd u.cacheWriteTokens))==some u.totalTokens &&
    u.providerCost.ceilMicroUsd==some u.ceilingMicroUsd

end Society.Kernel
