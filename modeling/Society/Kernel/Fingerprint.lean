import Society.Blake3
import Society.Kernel.Commands

namespace Society.Kernel
open Society.Relational Society.Coding

/-! The request fingerprint commits to a byte string that determines the request. -/

section Scalars

instance {T : Type} {t : T} : Codec (Id t) :=
  .word (fun i => i.val)
    (fun n => if h : 0<n.toNat ∧ n.toNat<bigintLimit then some ⟨n.toNat,h⟩ else none)
    (fun i => by simp [i.valid])
    (fun i => by
      have := i.valid
      unfold bigintLimit at this
      unfold wordLimit
      omega)

instance : Codec I64 :=
  .word (fun i => i.val)
    (fun n => if h : -(bigintLimit : Int)≤n ∧ n<bigintLimit then some ⟨n,h⟩ else none)
    (fun i => by simp [i.valid])
    (fun i => by
      have := i.valid
      unfold bigintLimit at this
      unfold wordLimit
      omega)

@[reducible] def rangedCodec {lo hi : Nat} (h : hi ≤ i64Max) : Codec (Ranged lo hi) :=
  .word (fun a => a.val) (fun n => Ranged.new lo hi n.toNat)
    (fun a => Ranged.new_eq_some.mpr rfl)
    (fun a => by
      have := a.valid
      unfold i64Max bigintLimit at h
      unfold wordLimit
      omega)

instance {lo : Nat} : Codec (Ranged lo i64Max) := rangedCodec (Nat.le_refl _)

instance {lo : Nat} : Codec (Ranged lo (2^31-1)) := rangedCodec (by decide)

instance {lo : Nat} : Codec (Ranged lo 255) := rangedCodec (by decide)

instance {lo : Nat} : Codec (Ranged lo 10000) := rangedCodec (by decide)

instance {lo : Nat} : Codec (Ranged lo 64) := rangedCodec (by decide)

def Text.ofBytes (p : String → Bool) (b : Bytes) : Option (Text p) :=
  (ofUtf8 b).bind (fun s => if h : p s=true then some ⟨s,h⟩ else none)

theorem Text.ofBytes_utf8 {p : String → Bool} (a : Text p) : Text.ofBytes p (utf8 a.val)=some a := by
  simp [ofBytes,ofUtf8_utf8,a.valid]

theorem Text.utf8_small {p : String → Bool} [h : Storable p] (a : Text p) :
    ((utf8 a.val).length : Int)<wordLimit := by
  have := h.bounded a.val a.valid
  rw [length_utf8]
  unfold wordLimit
  omega

instance {p : String → Bool} [Storable p] : Codec (Text p) :=
  .bytes (fun a => utf8 a.val) (Text.ofBytes p) Text.ofBytes_utf8 Text.utf8_small

instance : Codec Blake3Digest :=
  .bytes (fun a => a.bytes) (fun b => if h : b.length=32 then some ⟨b,h⟩ else none)
    (fun a => by simp [a.valid])
    (fun a => by
      have := a.valid
      unfold wordLimit
      omega)

instance : Codec ProviderCostBinary64 :=
  .bytes (fun a => beBytes 8 a.bits)
    (fun b => if h : ofBytes b<0x7ff*2^52 then some ⟨ofBytes b,h⟩ else none)
    (fun a => by
      have hv := a.valid
      have hb : ofBytes (beBytes 8 a.bits)=a.bits := by
        rw [ofBytes_beBytes]
        exact Nat.mod_eq_of_lt (by omega)
      rw [hb]
      exact dif_pos hv)
    (fun a => by
      rw [length_beBytes]
      decide)

instance : Codec Capability :=
  .tag Capability.ctorIdx Capability.ofNat
    Capability.ofNat_ctorIdx (fun a => by cases a <;> decide)

instance : Codec MissionPrincipleKind :=
  .tag MissionPrincipleKind.ctorIdx MissionPrincipleKind.ofNat
    MissionPrincipleKind.ofNat_ctorIdx (fun a => by cases a <;> decide)

instance : Codec OperatingCycleTreatment :=
  .tag OperatingCycleTreatment.ctorIdx OperatingCycleTreatment.ofNat
    OperatingCycleTreatment.ofNat_ctorIdx (fun a => by cases a <;> decide)

instance : Codec ProjectState :=
  .tag ProjectState.ctorIdx ProjectState.ofNat
    ProjectState.ofNat_ctorIdx (fun a => by cases a <;> decide)

instance : Codec TicketState :=
  .tag TicketState.ctorIdx TicketState.ofNat
    TicketState.ofNat_ctorIdx (fun a => by cases a <;> decide)

instance : Codec GraphEdgeKind :=
  .tag GraphEdgeKind.ctorIdx GraphEdgeKind.ofNat
    GraphEdgeKind.ofNat_ctorIdx (fun a => by cases a <;> decide)

instance : Codec EpisodeState :=
  .tag EpisodeState.ctorIdx EpisodeState.ofNat
    EpisodeState.ofNat_ctorIdx (fun a => by cases a <;> decide)

instance : Codec ActorModelPolicy :=
  .tag ActorModelPolicy.ctorIdx ActorModelPolicy.ofNat
    ActorModelPolicy.ofNat_ctorIdx (fun a => by cases a <;> decide)

instance : Codec DevelopmentalAttractor :=
  .tag DevelopmentalAttractor.ctorIdx DevelopmentalAttractor.ofNat
    DevelopmentalAttractor.ofNat_ctorIdx (fun a => by cases a <;> decide)

instance : Codec ContextPackPurpose :=
  .tag ContextPackPurpose.ctorIdx ContextPackPurpose.ofNat
    ContextPackPurpose.ofNat_ctorIdx (fun a => by cases a <;> decide)

instance : Codec WorkItemKind :=
  .tag WorkItemKind.ctorIdx WorkItemKind.ofNat
    WorkItemKind.ofNat_ctorIdx (fun a => by cases a <;> decide)

instance : Codec PiOfficeTurnDisposition :=
  .tag PiOfficeTurnDisposition.ctorIdx PiOfficeTurnDisposition.ofNat
    PiOfficeTurnDisposition.ofNat_ctorIdx (fun a => by cases a <;> decide)

instance : Codec PiOfficeTurnAssistantOutcome :=
  .tag PiOfficeTurnAssistantOutcome.ctorIdx PiOfficeTurnAssistantOutcome.ofNat
    PiOfficeTurnAssistantOutcome.ofNat_ctorIdx (fun a => by cases a <;> decide)

instance : Codec PiOfficeTurnTranscriptDisposition :=
  .tag PiOfficeTurnTranscriptDisposition.ctorIdx PiOfficeTurnTranscriptDisposition.ofNat
    PiOfficeTurnTranscriptDisposition.ofNat_ctorIdx (fun a => by cases a; decide)

instance : Codec PiOfficeTurnUsageUnknownReason :=
  .tag PiOfficeTurnUsageUnknownReason.ctorIdx PiOfficeTurnUsageUnknownReason.ofNat
    PiOfficeTurnUsageUnknownReason.ofNat_ctorIdx (fun a => by cases a <;> decide)

instance : Codec PiOfficeTurnUsageUnavailableReason :=
  .tag PiOfficeTurnUsageUnavailableReason.ctorIdx PiOfficeTurnUsageUnavailableReason.ofNat
    PiOfficeTurnUsageUnavailableReason.ofNat_ctorIdx (fun a => by cases a <;> decide)

instance : Codec PiTaskAttemptDisposition :=
  .tag PiTaskAttemptDisposition.ctorIdx PiTaskAttemptDisposition.ofNat
    PiTaskAttemptDisposition.ofNat_ctorIdx (fun a => by cases a <;> decide)

instance : Codec PiTaskAttemptAssistantOutcome :=
  .tag PiTaskAttemptAssistantOutcome.ctorIdx PiTaskAttemptAssistantOutcome.ofNat
    PiTaskAttemptAssistantOutcome.ofNat_ctorIdx (fun a => by cases a <;> decide)

instance : Codec PiTaskAttemptTranscriptDisposition :=
  .tag PiTaskAttemptTranscriptDisposition.ctorIdx PiTaskAttemptTranscriptDisposition.ofNat
    PiTaskAttemptTranscriptDisposition.ofNat_ctorIdx (fun a => by cases a; decide)

instance : Codec PiTaskAttemptUsageUnknownReason :=
  .tag PiTaskAttemptUsageUnknownReason.ctorIdx PiTaskAttemptUsageUnknownReason.ofNat
    PiTaskAttemptUsageUnknownReason.ofNat_ctorIdx (fun a => by cases a <;> decide)

instance : Codec PiTaskAttemptUsageUnavailableReason :=
  .tag PiTaskAttemptUsageUnavailableReason.ctorIdx PiTaskAttemptUsageUnavailableReason.ofNat
    PiTaskAttemptUsageUnavailableReason.ofNat_ctorIdx (fun a => by cases a <;> decide)

instance : Codec ChildStreamKind :=
  .tag ChildStreamKind.ctorIdx ChildStreamKind.ofNat
    ChildStreamKind.ofNat_ctorIdx (fun a => by cases a <;> decide)

instance : Codec ChildStreamSealCompleteness :=
  .tag ChildStreamSealCompleteness.ctorIdx ChildStreamSealCompleteness.ofNat
    ChildStreamSealCompleteness.ofNat_ctorIdx (fun a => by cases a <;> decide)

instance : Codec ProcessGroupLiveness :=
  .tag ProcessGroupLiveness.ctorIdx ProcessGroupLiveness.ofNat
    ProcessGroupLiveness.ofNat_ctorIdx (fun a => by cases a <;> decide)

instance : Codec ProcessSignalAction :=
  .tag ProcessSignalAction.ctorIdx ProcessSignalAction.ofNat
    ProcessSignalAction.ofNat_ctorIdx (fun a => by cases a <;> decide)

instance : Codec PiAbortControlWriteOutcome :=
  .tag PiAbortControlWriteOutcome.ctorIdx PiAbortControlWriteOutcome.ofNat
    PiAbortControlWriteOutcome.ofNat_ctorIdx (fun a => by cases a <;> decide)

instance : Codec ProcessSignalDelivery :=
  .tag ProcessSignalDelivery.ctorIdx ProcessSignalDelivery.ofNat
    ProcessSignalDelivery.ofNat_ctorIdx (fun a => by cases a <;> decide)

instance : Codec ChildRecoveryObservation :=
  .tag ChildRecoveryObservation.ctorIdx ChildRecoveryObservation.ofNat
    ChildRecoveryObservation.ofNat_ctorIdx (fun a => by cases a; decide)

instance : Codec NativeChildNotSpawnedReason :=
  .tag NativeChildNotSpawnedReason.ctorIdx NativeChildNotSpawnedReason.ofNat
    NativeChildNotSpawnedReason.ofNat_ctorIdx (fun a => by cases a <;> decide)

instance : Codec RetentionAccessClass :=
  .tag RetentionAccessClass.ctorIdx RetentionAccessClass.ofNat
    RetentionAccessClass.ofNat_ctorIdx (fun a => by cases a <;> decide)

instance : Codec ForensicManifestCapturePolicy :=
  .tag ForensicManifestCapturePolicy.ctorIdx ForensicManifestCapturePolicy.ofNat
    ForensicManifestCapturePolicy.ofNat_ctorIdx (fun a => by cases a; decide)

instance : Codec ActorAttemptTerminalKind :=
  .tag ActorAttemptTerminalKind.ctorIdx ActorAttemptTerminalKind.ofNat
    ActorAttemptTerminalKind.ofNat_ctorIdx (fun a => by cases a <;> decide)

instance : Codec ActorAttemptCancellationReason :=
  .tag ActorAttemptCancellationReason.ctorIdx ActorAttemptCancellationReason.ofNat
    ActorAttemptCancellationReason.ofNat_ctorIdx (fun a => by cases a <;> decide)

instance : Codec OutcomeObligationDisposition :=
  .tag OutcomeObligationDisposition.ctorIdx OutcomeObligationDisposition.ofNat
    OutcomeObligationDisposition.ofNat_ctorIdx (fun a => by cases a <;> decide)

instance : Codec ReviewChallengeSeverity :=
  .tag ReviewChallengeSeverity.ctorIdx ReviewChallengeSeverity.ofNat
    ReviewChallengeSeverity.ofNat_ctorIdx (fun a => by cases a <;> decide)

instance : Codec ReviewDispositionKind :=
  .tag ReviewDispositionKind.ctorIdx ReviewDispositionKind.ofNat
    ReviewDispositionKind.ofNat_ctorIdx (fun a => by cases a <;> decide)

instance : Codec ReviewResolutionKind :=
  .tag ReviewResolutionKind.ctorIdx ReviewResolutionKind.ofNat
    ReviewResolutionKind.ofNat_ctorIdx (fun a => by cases a <;> decide)

instance : Codec PostmortemCausalClaimKind :=
  .tag PostmortemCausalClaimKind.ctorIdx PostmortemCausalClaimKind.ofNat
    PostmortemCausalClaimKind.ofNat_ctorIdx (fun a => by cases a <;> decide)

instance : Codec PostmortemActionKind :=
  .tag PostmortemActionKind.ctorIdx PostmortemActionKind.ofNat
    PostmortemActionKind.ofNat_ctorIdx (fun a => by cases a <;> decide)

instance : Codec OfficeTurnPurpose :=
  .tag OfficeTurnPurpose.ctorIdx OfficeTurnPurpose.ofNat
    OfficeTurnPurpose.ofNat_ctorIdx (fun a => by cases a <;> decide)

instance : Codec OfficeSessionTerminalState :=
  .tag OfficeSessionTerminalState.ctorIdx OfficeSessionTerminalState.ofNat
    OfficeSessionTerminalState.ofNat_ctorIdx (fun a => by cases a <;> decide)

instance : Codec CancellationMode :=
  .tag CancellationMode.ctorIdx CancellationMode.ofNat
    CancellationMode.ofNat_ctorIdx (fun a => by cases a <;> decide)

instance : Codec CostPostmortemResolution :=
  .tag CostPostmortemResolution.ctorIdx CostPostmortemResolution.ofNat
    CostPostmortemResolution.ofNat_ctorIdx (fun a => by cases a <;> decide)

instance : Codec CostUnknownReason :=
  .tag CostUnknownReason.ctorIdx CostUnknownReason.ofNat
    CostUnknownReason.ofNat_ctorIdx (fun a => by cases a <;> decide)

instance : Codec CostUnavailableReason :=
  .tag CostUnavailableReason.ctorIdx CostUnavailableReason.ofNat
    CostUnavailableReason.ofNat_ctorIdx (fun a => by cases a <;> decide)

instance : Codec StudyPopulationPhase :=
  .tag StudyPopulationPhase.ctorIdx StudyPopulationPhase.ofNat
    StudyPopulationPhase.ofNat_ctorIdx (fun a => by cases a <;> decide)

instance : Codec StudyTreatment :=
  .tag StudyTreatment.ctorIdx StudyTreatment.ofNat
    StudyTreatment.ofNat_ctorIdx (fun a => by cases a <;> decide)

instance : Codec ForumMessageKind :=
  .tag ForumMessageKind.ctorIdx ForumMessageKind.ofNat
    ForumMessageKind.ofNat_ctorIdx (fun a => by cases a <;> decide)

instance : Codec StudyMeasurementStatus :=
  .tag StudyMeasurementStatus.ctorIdx StudyMeasurementStatus.ofNat
    StudyMeasurementStatus.ofNat_ctorIdx (fun a => by cases a <;> decide)

end Scalars

section Records

/-- A variant of a tagged union: its number, then its fields. -/
def variant (n : Nat) (b : Bytes) : Bytes := be64 n++b

theorem reads_variant {α : Type} {f : Int → Reader α} {n : Nat} {b : Bytes} {a : α}
    (hn : n<1000) (h : Reads (f n) b a) : Reads (readWord.select f) (variant n b) a := by
  refine Reads.select (reads_length ?_) h
  unfold wordLimit
  omega

instance : Codec CostObservation where
  put
    | .known a => variant 1 (put a)
    | .unknown a => variant 2 (put a)
    | .unavailable a => variant 3 (put a)
  read := readWord.select (fun
    | 1 => (Reader.nothing CostObservation.known).next
    | 2 => (Reader.nothing CostObservation.unknown).next
    | _ => (Reader.nothing CostObservation.unavailable).next)
  reads a := by cases a <;> exact reads_variant (by decide) Reads.first

instance : Codec GraphRevisionBody where
  put
    | .observation a => variant 1 (put a)
    | .hypothesis a => variant 2 (put a)
  read := readWord.select (fun
    | 1 => (Reader.nothing GraphRevisionBody.observation).next
    | _ => (Reader.nothing GraphRevisionBody.hypothesis).next)
  reads a := by cases a <;> exact reads_variant (by decide) Reads.first

instance : Codec PiChildOwner where
  put
    | .actorAttempt a => variant 1 (put a)
    | .rootAuthorityOfficeSession a => variant 2 (put a)
    | .nativeExecutionProfileQualification a => variant 3 (put a)
  read := readWord.select (fun
    | 1 => (Reader.nothing PiChildOwner.actorAttempt).next
    | 2 => (Reader.nothing PiChildOwner.rootAuthorityOfficeSession).next
    | _ => (Reader.nothing PiChildOwner.nativeExecutionProfileQualification).next)
  reads a := by cases a <;> exact reads_variant (by decide) Reads.first

instance : Codec PiOfficeTurnTerminalEvidence where
  put
    | .observedAssistant a b => variant 1 (put a++put b)
    | .unavailableAssistant a => variant 2 (put a)
  read := readWord.select (fun
    | 1 => (Reader.nothing PiOfficeTurnTerminalEvidence.observedAssistant).next.next
    | _ => (Reader.nothing PiOfficeTurnTerminalEvidence.unavailableAssistant).next)
  reads a := by
    cases a with
    | observedAssistant a b => exact reads_variant (by decide) Reads.first.next
    | unavailableAssistant a => exact reads_variant (by decide) Reads.first

instance : Codec PiTaskAttemptTerminalEvidence where
  put
    | .observedAssistant a b => variant 1 (put a++put b)
    | .unavailableAssistant a => variant 2 (put a)
  read := readWord.select (fun
    | 1 => (Reader.nothing PiTaskAttemptTerminalEvidence.observedAssistant).next.next
    | _ => (Reader.nothing PiTaskAttemptTerminalEvidence.unavailableAssistant).next)
  reads a := by
    cases a with
    | observedAssistant a b => exact reads_variant (by decide) Reads.first.next
    | unavailableAssistant a => exact reads_variant (by decide) Reads.first

instance : Codec PiOfficeTurnUsageFailure where
  put
    | .unknown a => variant 1 (put a)
    | .unavailable a => variant 2 (put a)
  read := readWord.select (fun
    | 1 => (Reader.nothing PiOfficeTurnUsageFailure.unknown).next
    | _ => (Reader.nothing PiOfficeTurnUsageFailure.unavailable).next)
  reads a := by cases a <;> exact reads_variant (by decide) Reads.first

instance : Codec PiTaskAttemptUsageFailure where
  put
    | .unknown a => variant 1 (put a)
    | .unavailable a => variant 2 (put a)
  read := readWord.select (fun
    | 1 => (Reader.nothing PiTaskAttemptUsageFailure.unknown).next
    | _ => (Reader.nothing PiTaskAttemptUsageFailure.unavailable).next)
  reads a := by cases a <;> exact reads_variant (by decide) Reads.first

instance : Codec PiOfficeSessionFirstUserPromptReceipt where
  put
    | .absent => variant 1 []
    | .verified a => variant 2 (put a)
  read := readWord.select (fun
    | 1 => .nothing .absent
    | _ => (Reader.nothing PiOfficeSessionFirstUserPromptReceipt.verified).next)
  reads a := by
    cases a with
    | absent => exact reads_variant (by decide) (Reads.nothing _)
    | verified a => exact reads_variant (by decide) Reads.first

instance : Codec PiTaskAttemptFirstUserPromptReceipt where
  put
    | .absent => variant 1 []
    | .verified a => variant 2 (put a)
  read := readWord.select (fun
    | 1 => .nothing .absent
    | _ => (Reader.nothing PiTaskAttemptFirstUserPromptReceipt.verified).next)
  reads a := by
    cases a with
    | absent => exact reads_variant (by decide) (Reads.nothing _)
    | verified a => exact reads_variant (by decide) Reads.first

instance : Codec PiOfficeSessionTranscriptReceipt where
  put
    | .materialized a b c d => variant 1 (put a++put b++put c++put d)
    | .unmaterializedNoPrompt a => variant 2 (put a)
  read := readWord.select (fun
    | 1 => (Reader.nothing PiOfficeSessionTranscriptReceipt.materialized).next.next.next.next
    | _ => (Reader.nothing PiOfficeSessionTranscriptReceipt.unmaterializedNoPrompt).next)
  reads a := by
    cases a with
    | materialized a b c d => exact reads_variant (by decide) Reads.first.next.next.next
    | unmaterializedNoPrompt a => exact reads_variant (by decide) Reads.first

instance : Codec PiTaskAttemptSessionTranscriptReceipt where
  put
    | .materialized a b c d => variant 1 (put a++put b++put c++put d)
    | .unmaterializedNoPrompt a => variant 2 (put a)
  read := readWord.select (fun
    | 1 => (Reader.nothing PiTaskAttemptSessionTranscriptReceipt.materialized).next.next.next.next
    | _ => (Reader.nothing PiTaskAttemptSessionTranscriptReceipt.unmaterializedNoPrompt).next)
  reads a := by
    cases a with
    | materialized a b c d => exact reads_variant (by decide) Reads.first.next.next.next
    | unmaterializedNoPrompt a => exact reads_variant (by decide) Reads.first

instance : Codec DirectChildWaitStatus where
  put
    | .exited a => variant 1 (put a)
    | .signaled a => variant 2 (put a)
    | .unknown => variant 3 []
  read := readWord.select (fun
    | 1 => (Reader.nothing DirectChildWaitStatus.exited).next
    | 2 => (Reader.nothing DirectChildWaitStatus.signaled).next
    | _ => .nothing .unknown)
  reads a := by
    cases a with
    | exited a => exact reads_variant (by decide) Reads.first
    | signaled a => exact reads_variant (by decide) Reads.first
    | unknown => exact reads_variant (by decide) (Reads.nothing _)

/-- A cause without an identity still writes a zero in its place. -/
instance : Codec ProcessSignalCause where
  put
    | .cancellationPropagation a => variant 1 (put a)
    | .automaticBoundaryContainment => variant 2 (be64 0)
  read := readWord.select (fun
    | 1 => (Reader.nothing ProcessSignalCause.cancellationPropagation).next
    | _ => readWord.check (fun _ => some .automaticBoundaryContainment))
  reads a := by
    cases a with
    | cancellationPropagation a => exact reads_variant (by decide) Reads.first
    | automaticBoundaryContainment =>
      exact reads_variant (by decide) ((reads_be64 (by decide)).check rfl)

instance : Codec PiCumulativeUsage where
  put u := put u.inputTokens++put u.outputTokens++put u.cacheReadTokens++
    put u.cacheWriteTokens++put u.totalTokens++put u.providerCost++put u.ceilingMicroUsd
  read := (Reader.nothing PiCumulativeUsage.mk).next.next.next.next.next.next.next
  reads _ := Reads.first.next.next.next.next.next.next

instance : Codec MissionPrinciple where
  put a := put a.kind++put a.text
  read := (Reader.nothing MissionPrinciple.mk).next.next
  reads _ := Reads.first.next

instance : Codec MissionPrinciples where
  put a := putList a.principles
  read := (readWord.select (fun n => readMany n.toNat)).check (fun l =>
    if h : l≠[] ∧ l.length≤16 then some ⟨l,h⟩ else none)
  reads a := by
    have hv := a.valid
    have hl : (a.principles.length : Int)<wordLimit := by
      unfold wordLimit
      omega
    exact (reads_putList hl).check (dif_pos hv)

instance : Codec NorthStarQuestionSet where
  put a := put a.change++put a.improvementEvidence++put a.boundaryCommitment++put a.revisit
  read := (Reader.nothing NorthStarQuestionSet.mk).next.next.next.next
  reads _ := Reads.first.next.next.next

instance : Codec ApplicationMissionInput where
  put a := put a.applicationIdentity++put a.applicationName++put a.revisionOrdinal++
    put a.statement++put a.principles++put a.northStarQuestions++put a.sourceRenderingDigest
  read := (Reader.nothing ApplicationMissionInput.mk).next.next.next.next.next.next.next
  reads _ := Reads.first.next.next.next.next.next.next

instance : Codec ProjectNorthStarAlignment where
  put a := put a.applicationRevisionId++put a.changeAnswer++put a.improvementEvidenceAnswer++
    put a.boundaryCommitmentAnswer++put a.revisitAnswer
  read := (Reader.nothing ProjectNorthStarAlignment.mk).next.next.next.next.next
  reads _ := Reads.first.next.next.next.next

/-- A request without a generation writes `-1`. -/
def ExpectedGeneration.code : ExpectedGeneration → Int
  | .notApplicable => -1
  | .exact g => g.val

def ExpectedGeneration.ofCode (n : Int) : Option ExpectedGeneration :=
  if n=-1 then some .notApplicable else (Ranged.new 0 i64Max n.toNat).map .exact

theorem ExpectedGeneration.ofCode_code (g : ExpectedGeneration) : ofCode g.code=some g := by
  cases g with
  | notApplicable => rfl
  | exact n =>
    have hg : Ranged.new 0 i64Max n.val=some n := Ranged.new_eq_some.mpr rfl
    have hn : (n.val : Int)≠-1 := by omega
    simp [ofCode,code,hn,hg]

theorem ExpectedGeneration.code_fits (g : ExpectedGeneration) :
    -wordLimit≤g.code ∧ g.code<wordLimit := by
  unfold wordLimit
  cases g with
  | notApplicable => decide
  | exact n =>
    have hv := n.valid
    unfold i64Max bigintLimit at hv
    simp only [code]
    omega

instance : Codec ExpectedGeneration :=
  .word ExpectedGeneration.code ExpectedGeneration.ofCode ExpectedGeneration.ofCode_code
    ExpectedGeneration.code_fits

end Records

/-! The preimage writes the kind of the command and then its fields in declaration order. -/

/-- The study commands in the order of their codes. -/
inductive StudyCommandKind
  | admitProtocolRevision | admitWorldRevision | admitMeasurementRevision
  | admitInstitutionRevision | admitPopulationSnapshot | admitEpisode | assignTreatment
  | admitMatchedPair | createEpisodeForum | openForumThread | admitActorObligation
  | completeActorObligation | freezeForumHead | replacePopulation | admitForumExposure
  | publishForumMessage | releaseMatchedCorrection | readForum | recordDecision
  | recordMeasurementResult | closeEpisode | forkEpisode | retractForumMessage
  | failActorObligation | revealGroundTruth | bindActorRuntime | reconcileActorRuntime
  | bindActorTaskAttemptRuntime | admitStudyRun | registerStudyRunPair | startStudyRun
  | settleActorTaskAttemptAfterRecovery | completeStudyRun
  deriving DecidableEq

instance : Codec StudyCommandKind :=
  .tag StudyCommandKind.ctorIdx StudyCommandKind.ofNat
    StudyCommandKind.ofNat_ctorIdx (fun a => by cases a <;> decide)

def StudyCommand.kind : StudyCommand → StudyCommandKind
  | .admitProtocolRevision .. => .admitProtocolRevision
  | .admitWorldRevision .. => .admitWorldRevision
  | .admitMeasurementRevision .. => .admitMeasurementRevision
  | .admitInstitutionRevision .. => .admitInstitutionRevision
  | .admitPopulationSnapshot .. => .admitPopulationSnapshot
  | .admitEpisode .. => .admitEpisode
  | .assignTreatment .. => .assignTreatment
  | .admitMatchedPair .. => .admitMatchedPair
  | .admitStudyRun .. => .admitStudyRun
  | .registerStudyRunPair .. => .registerStudyRunPair
  | .startStudyRun .. => .startStudyRun
  | .completeStudyRun .. => .completeStudyRun
  | .createEpisodeForum .. => .createEpisodeForum
  | .openForumThread .. => .openForumThread
  | .admitActorObligation .. => .admitActorObligation
  | .completeActorObligation .. => .completeActorObligation
  | .failActorObligation .. => .failActorObligation
  | .bindActorRuntime .. => .bindActorRuntime
  | .bindActorTaskAttemptRuntime .. => .bindActorTaskAttemptRuntime
  | .reconcileActorRuntime .. => .reconcileActorRuntime
  | .settleActorTaskAttemptAfterRecovery .. => .settleActorTaskAttemptAfterRecovery
  | .freezeForumHead .. => .freezeForumHead
  | .replacePopulation .. => .replacePopulation
  | .admitForumExposure .. => .admitForumExposure
  | .publishForumMessage .. => .publishForumMessage
  | .retractForumMessage .. => .retractForumMessage
  | .releaseMatchedCorrection .. => .releaseMatchedCorrection
  | .readForum .. => .readForum
  | .recordDecision .. => .recordDecision
  | .revealGroundTruth .. => .revealGroundTruth
  | .recordMeasurementResult .. => .recordMeasurementResult
  | .closeEpisode .. => .closeEpisode
  | .forkEpisode .. => .forkEpisode

def StudyCommand.fields : StudyCommand → Bytes
  | .admitProtocolRevision a b c d e f g h i j => put a++put b++put c++put d++put e++put f++put g++
      put h++put i++put j
  | .admitWorldRevision a b => put a++put b
  | .admitMeasurementRevision a b c => put a++put b++put c
  | .admitInstitutionRevision a b => put a++put b
  | .admitPopulationSnapshot a b c => put a++put b++put c
  | .admitEpisode a b c d e f => put a++put b++put c++put d++put e++put f
  | .assignTreatment a b => put a++put b
  | .admitMatchedPair a b => put a++put b
  | .admitStudyRun a b c d => put a++put b++put c++put d
  | .registerStudyRunPair a b c d => put a++put b++put c++put d
  | .startStudyRun a => put a
  | .completeStudyRun a => put a
  | .createEpisodeForum a b => put a++put b
  | .openForumThread a b => put a++put b
  | .admitActorObligation a b c d e f g h i => put a++put b++put c++put d++put e++put f++put g++
      put h++put i
  | .completeActorObligation a b => put a++put b
  | .failActorObligation a b => put a++put b
  | .bindActorRuntime a b c d => put a++put b++put c++put d
  | .bindActorTaskAttemptRuntime a b c d => put a++put b++put c++put d
  | .reconcileActorRuntime a b => put a++put b
  | .settleActorTaskAttemptAfterRecovery a b c d => put a++put b++put c++put d
  | .freezeForumHead a b => put a++put b
  | .replacePopulation a b => put a++put b
  | .admitForumExposure a b c => put a++put b++put c
  | .publishForumMessage a b c d e => put a++put b++put c++put d++put e
  | .retractForumMessage a b => put a++put b
  | .releaseMatchedCorrection a b c d => put a++put b++put c++put d
  | .readForum a b c d => put a++put b++put c++put d
  | .recordDecision a b c => put a++put b++put c
  | .revealGroundTruth a b => put a++put b
  | .recordMeasurementResult a b c d e f => put a++put b++put c++put d++put e++put f
  | .closeEpisode a => put a
  | .forkEpisode a b => put a++put b

def readStudyFields : StudyCommandKind → Reader StudyCommand
  | .admitProtocolRevision =>
    (Reader.nothing StudyCommand.admitProtocolRevision).next.next.next.next.next.next.next.next.next.next
  | .admitWorldRevision => (Reader.nothing StudyCommand.admitWorldRevision).next.next
  | .admitMeasurementRevision =>
    (Reader.nothing StudyCommand.admitMeasurementRevision).next.next.next
  | .admitInstitutionRevision => (Reader.nothing StudyCommand.admitInstitutionRevision).next.next
  | .admitPopulationSnapshot =>
    (Reader.nothing StudyCommand.admitPopulationSnapshot).next.next.next
  | .admitEpisode => (Reader.nothing StudyCommand.admitEpisode).next.next.next.next.next.next
  | .assignTreatment => (Reader.nothing StudyCommand.assignTreatment).next.next
  | .admitMatchedPair => (Reader.nothing StudyCommand.admitMatchedPair).next.next
  | .createEpisodeForum => (Reader.nothing StudyCommand.createEpisodeForum).next.next
  | .openForumThread => (Reader.nothing StudyCommand.openForumThread).next.next
  | .admitActorObligation =>
    (Reader.nothing StudyCommand.admitActorObligation).next.next.next.next.next.next.next.next.next
  | .completeActorObligation => (Reader.nothing StudyCommand.completeActorObligation).next.next
  | .freezeForumHead => (Reader.nothing StudyCommand.freezeForumHead).next.next
  | .replacePopulation => (Reader.nothing StudyCommand.replacePopulation).next.next
  | .admitForumExposure => (Reader.nothing StudyCommand.admitForumExposure).next.next.next
  | .publishForumMessage =>
    (Reader.nothing StudyCommand.publishForumMessage).next.next.next.next.next
  | .releaseMatchedCorrection =>
    (Reader.nothing StudyCommand.releaseMatchedCorrection).next.next.next.next
  | .readForum => (Reader.nothing StudyCommand.readForum).next.next.next.next
  | .recordDecision => (Reader.nothing StudyCommand.recordDecision).next.next.next
  | .recordMeasurementResult =>
    (Reader.nothing StudyCommand.recordMeasurementResult).next.next.next.next.next.next
  | .closeEpisode => (Reader.nothing StudyCommand.closeEpisode).next
  | .forkEpisode => (Reader.nothing StudyCommand.forkEpisode).next.next
  | .retractForumMessage => (Reader.nothing StudyCommand.retractForumMessage).next.next
  | .failActorObligation => (Reader.nothing StudyCommand.failActorObligation).next.next
  | .revealGroundTruth => (Reader.nothing StudyCommand.revealGroundTruth).next.next
  | .bindActorRuntime => (Reader.nothing StudyCommand.bindActorRuntime).next.next.next.next
  | .reconcileActorRuntime => (Reader.nothing StudyCommand.reconcileActorRuntime).next.next
  | .bindActorTaskAttemptRuntime =>
    (Reader.nothing StudyCommand.bindActorTaskAttemptRuntime).next.next.next.next
  | .admitStudyRun => (Reader.nothing StudyCommand.admitStudyRun).next.next.next.next
  | .registerStudyRunPair => (Reader.nothing StudyCommand.registerStudyRunPair).next.next.next.next
  | .startStudyRun => (Reader.nothing StudyCommand.startStudyRun).next
  | .settleActorTaskAttemptAfterRecovery =>
    (Reader.nothing StudyCommand.settleActorTaskAttemptAfterRecovery).next.next.next.next
  | .completeStudyRun => (Reader.nothing StudyCommand.completeStudyRun).next

attribute [local irreducible] Reader.next Reader.nothing Reads in
theorem reads_studyFields (c : StudyCommand) :
    Reads (readStudyFields c.kind) c.fields c := by
  cases c <;> simp only [StudyCommand.kind,StudyCommand.fields,readStudyFields] <;>
    repeat first | exact Reads.first | exact Reads.nothing _ | apply Reads.next

instance : Codec StudyCommand where
  put c := put c.kind++c.fields
  read := (read : Reader StudyCommandKind).select readStudyFields
  reads c := (reads c.kind).select (reads_studyFields c)

/-- The kernel commands in the order of their codes. -/
inductive CommandKind
  | createSocietyIdentity | installRootAuthorityOffice | installFoundingMission
  | appointInitialRootAuthority | setR0HardCeiling | bootstrapSociety | proposeOperatingCycle
  | admitOperatingCycle | startRootAuthorityOfficeSession | recordOfficeSessionReady
  | openOfficeTurn | settleOfficeTurn | quiesceOperatingCycle | recordCycleDrained
  | resumeOperatingCycle | reconcileOperatingCycle | closeOperatingCycle | reserveBudget
  | reconcileBudget | requestCancellation | reconcileCancellation | recordOfficeSessionTerminal
  | closeCostPostmortem | createProject | charterProject | transitionProject
  | completeProjectMilestone | reopenProject | createTicket | transitionTicket
  | addGraphObjectRevision | commitGraphRevision | addGraphEdge | createEpisode
  | transitionEpisode | reopenEpisode | requestAdversarialReview | submitReviewChallenge
  | respondToReviewChallenge | dispositionReviewChallenge | resolveAdversarialReview
  | triggerPostmortem | recordPostmortemCausalClaim | proposePostmortemAction | closePostmortem
  | assignAdversarialReviewer | registerActorConfiguration | registerContextPack
  | admitActorInstance | admitTicket | registerWorkItem | claimWorkItem | startActorAttempt
  | attestActorAttemptTerminal | validateTicketAttempt | retryActorAttempt | completeTicket
  | expireWorkLease | cancelActorAttempt | registerOutcomeObligation | resolveOutcomeObligation
  | recordContentSealReceipt | registerContentObject | registerForensicManifest
  | registerDeterministicExperiment | recordDeterministicEvaluationReceipt
  | admitDeterministicEvidence | finalizeDeterministicExperiment | admitPiChildSpawn
  | recordInertChildSpawn | recordPiAdapterReady | authorizePiCreateSession
  | recordPiCreateSessionDelivery | recordPiSessionReady | recordChildStreamSeal
  | recordChildProcessLiveness | recordProcessSignalReceipt | recordDirectChildReap
  | recordChildRecovery | finalizeChildProcess | beginCancellationPropagation
  | reconcileCancellationPropagation | openSupervisorEpoch | recordPiAbortControlDelivery
  | recordNativeChildNotSpawned | authorizePiOfficeTurnPrompt | recordPiOfficeTurnPromptDelivery
  | recordPiOfficeTurnPromptAccepted | recordPiOfficeTurnUsage | recordPiOfficeTurnUsageFailure
  | recordPiOfficeTurnTerminal | authorizePiOfficeSessionDispose
  | recordPiOfficeSessionDisposeDelivery | recordPiOfficeSessionDisposeAccepted
  | recordPiOfficeSessionDisposeUsage | recordPiOfficeSessionDisposeUsageFailure
  | recordPiOfficeSessionDisposed | admitDeterministicEvaluatorNativeChild
  | recordDeterministicEvaluatorNativeChildSpawn | registerDeterministicEvaluatorForensicManifest
  | studyTransition | authorizePiTaskAttemptPrompt | recordPiTaskAttemptPromptDelivery
  | recordPiTaskAttemptPromptAccepted | recordPiTaskAttemptUsage | recordPiTaskAttemptUsageFailure
  | recordPiTaskAttemptTerminal | authorizePiTaskAttemptSessionDispose
  | recordPiTaskAttemptSessionDisposeDelivery | recordPiTaskAttemptSessionDisposeAccepted
  | recordPiTaskAttemptSessionDisposeUsage | recordPiTaskAttemptSessionDisposeUsageFailure
  | recordPiTaskAttemptSessionDisposed | qualifyNativeExecutionProfile
  | startNativeExecutionProfileQualification | claimStudyActorTaskAttemptLaunch
  | claimNativeExecutionProfileQualificationLaunch | allocateStudyActorWork
  deriving DecidableEq

instance : Codec CommandKind :=
  .tag CommandKind.ctorIdx CommandKind.ofNat
    CommandKind.ofNat_ctorIdx (fun a => by cases a <;> decide)

def CommandBody.kind : CommandBody → CommandKind
  | .createSocietyIdentity .. => .createSocietyIdentity
  | .installRootAuthorityOffice => .installRootAuthorityOffice
  | .installFoundingMission .. => .installFoundingMission
  | .appointInitialRootAuthority .. => .appointInitialRootAuthority
  | .setR0HardCeiling .. => .setR0HardCeiling
  | .bootstrapSociety => .bootstrapSociety
  | .proposeOperatingCycle .. => .proposeOperatingCycle
  | .admitOperatingCycle .. => .admitOperatingCycle
  | .startRootAuthorityOfficeSession .. => .startRootAuthorityOfficeSession
  | .recordOfficeSessionReady .. => .recordOfficeSessionReady
  | .recordOfficeSessionTerminal .. => .recordOfficeSessionTerminal
  | .openOfficeTurn .. => .openOfficeTurn
  | .settleOfficeTurn .. => .settleOfficeTurn
  | .quiesceOperatingCycle .. => .quiesceOperatingCycle
  | .recordCycleDrained .. => .recordCycleDrained
  | .resumeOperatingCycle .. => .resumeOperatingCycle
  | .reconcileOperatingCycle .. => .reconcileOperatingCycle
  | .closeOperatingCycle .. => .closeOperatingCycle
  | .reserveBudget .. => .reserveBudget
  | .reconcileBudget .. => .reconcileBudget
  | .requestCancellation .. => .requestCancellation
  | .reconcileCancellation .. => .reconcileCancellation
  | .closeCostPostmortem .. => .closeCostPostmortem
  | .createProject .. => .createProject
  | .charterProject .. => .charterProject
  | .transitionProject .. => .transitionProject
  | .completeProjectMilestone .. => .completeProjectMilestone
  | .reopenProject .. => .reopenProject
  | .createTicket .. => .createTicket
  | .transitionTicket .. => .transitionTicket
  | .addGraphObjectRevision .. => .addGraphObjectRevision
  | .commitGraphRevision .. => .commitGraphRevision
  | .addGraphEdge .. => .addGraphEdge
  | .createEpisode .. => .createEpisode
  | .transitionEpisode .. => .transitionEpisode
  | .reopenEpisode .. => .reopenEpisode
  | .requestAdversarialReview .. => .requestAdversarialReview
  | .assignAdversarialReviewer .. => .assignAdversarialReviewer
  | .submitReviewChallenge .. => .submitReviewChallenge
  | .respondToReviewChallenge .. => .respondToReviewChallenge
  | .dispositionReviewChallenge .. => .dispositionReviewChallenge
  | .resolveAdversarialReview .. => .resolveAdversarialReview
  | .triggerPostmortem .. => .triggerPostmortem
  | .recordPostmortemCausalClaim .. => .recordPostmortemCausalClaim
  | .proposePostmortemAction .. => .proposePostmortemAction
  | .closePostmortem .. => .closePostmortem
  | .registerActorConfiguration .. => .registerActorConfiguration
  | .registerContextPack .. => .registerContextPack
  | .admitActorInstance .. => .admitActorInstance
  | .admitTicket .. => .admitTicket
  | .registerWorkItem .. => .registerWorkItem
  | .claimWorkItem .. => .claimWorkItem
  | .startActorAttempt .. => .startActorAttempt
  | .attestActorAttemptTerminal .. => .attestActorAttemptTerminal
  | .validateTicketAttempt .. => .validateTicketAttempt
  | .retryActorAttempt .. => .retryActorAttempt
  | .completeTicket .. => .completeTicket
  | .expireWorkLease .. => .expireWorkLease
  | .cancelActorAttempt .. => .cancelActorAttempt
  | .registerOutcomeObligation .. => .registerOutcomeObligation
  | .resolveOutcomeObligation .. => .resolveOutcomeObligation
  | .recordContentSealReceipt .. => .recordContentSealReceipt
  | .registerContentObject .. => .registerContentObject
  | .registerForensicManifest .. => .registerForensicManifest
  | .registerDeterministicEvaluatorForensicManifest .. => .registerDeterministicEvaluatorForensicManifest
  | .registerDeterministicExperiment .. => .registerDeterministicExperiment
  | .recordDeterministicEvaluationReceipt .. => .recordDeterministicEvaluationReceipt
  | .admitDeterministicEvidence .. => .admitDeterministicEvidence
  | .finalizeDeterministicExperiment .. => .finalizeDeterministicExperiment
  | .admitDeterministicEvaluatorNativeChild .. => .admitDeterministicEvaluatorNativeChild
  | .recordDeterministicEvaluatorNativeChildSpawn .. => .recordDeterministicEvaluatorNativeChildSpawn
  | .openSupervisorEpoch .. => .openSupervisorEpoch
  | .admitPiChildSpawn .. => .admitPiChildSpawn
  | .recordInertChildSpawn .. => .recordInertChildSpawn
  | .recordPiAdapterReady .. => .recordPiAdapterReady
  | .authorizePiCreateSession .. => .authorizePiCreateSession
  | .recordPiCreateSessionDelivery .. => .recordPiCreateSessionDelivery
  | .recordPiSessionReady .. => .recordPiSessionReady
  | .recordPiAbortControlDelivery .. => .recordPiAbortControlDelivery
  | .recordChildStreamSeal .. => .recordChildStreamSeal
  | .recordChildProcessLiveness .. => .recordChildProcessLiveness
  | .recordProcessSignalReceipt .. => .recordProcessSignalReceipt
  | .recordDirectChildReap .. => .recordDirectChildReap
  | .recordChildRecovery .. => .recordChildRecovery
  | .finalizeChildProcess .. => .finalizeChildProcess
  | .beginCancellationPropagation .. => .beginCancellationPropagation
  | .reconcileCancellationPropagation .. => .reconcileCancellationPropagation
  | .recordNativeChildNotSpawned .. => .recordNativeChildNotSpawned
  | .authorizePiOfficeTurnPrompt .. => .authorizePiOfficeTurnPrompt
  | .recordPiOfficeTurnPromptDelivery .. => .recordPiOfficeTurnPromptDelivery
  | .recordPiOfficeTurnPromptAccepted .. => .recordPiOfficeTurnPromptAccepted
  | .recordPiOfficeTurnUsage .. => .recordPiOfficeTurnUsage
  | .recordPiOfficeTurnUsageFailure .. => .recordPiOfficeTurnUsageFailure
  | .recordPiOfficeTurnTerminal .. => .recordPiOfficeTurnTerminal
  | .authorizePiOfficeSessionDispose .. => .authorizePiOfficeSessionDispose
  | .recordPiOfficeSessionDisposeDelivery .. => .recordPiOfficeSessionDisposeDelivery
  | .recordPiOfficeSessionDisposeAccepted .. => .recordPiOfficeSessionDisposeAccepted
  | .recordPiOfficeSessionDisposeUsage .. => .recordPiOfficeSessionDisposeUsage
  | .recordPiOfficeSessionDisposeUsageFailure .. => .recordPiOfficeSessionDisposeUsageFailure
  | .recordPiOfficeSessionDisposed .. => .recordPiOfficeSessionDisposed
  | .authorizePiTaskAttemptPrompt .. => .authorizePiTaskAttemptPrompt
  | .recordPiTaskAttemptPromptDelivery .. => .recordPiTaskAttemptPromptDelivery
  | .recordPiTaskAttemptPromptAccepted .. => .recordPiTaskAttemptPromptAccepted
  | .recordPiTaskAttemptUsage .. => .recordPiTaskAttemptUsage
  | .recordPiTaskAttemptUsageFailure .. => .recordPiTaskAttemptUsageFailure
  | .recordPiTaskAttemptTerminal .. => .recordPiTaskAttemptTerminal
  | .authorizePiTaskAttemptSessionDispose .. => .authorizePiTaskAttemptSessionDispose
  | .recordPiTaskAttemptSessionDisposeDelivery .. => .recordPiTaskAttemptSessionDisposeDelivery
  | .recordPiTaskAttemptSessionDisposeAccepted .. => .recordPiTaskAttemptSessionDisposeAccepted
  | .recordPiTaskAttemptSessionDisposeUsage .. => .recordPiTaskAttemptSessionDisposeUsage
  | .recordPiTaskAttemptSessionDisposeUsageFailure .. => .recordPiTaskAttemptSessionDisposeUsageFailure
  | .recordPiTaskAttemptSessionDisposed .. => .recordPiTaskAttemptSessionDisposed
  | .qualifyNativeExecutionProfile .. => .qualifyNativeExecutionProfile
  | .startNativeExecutionProfileQualification .. => .startNativeExecutionProfileQualification
  | .claimStudyActorTaskAttemptLaunch .. => .claimStudyActorTaskAttemptLaunch
  | .claimNativeExecutionProfileQualificationLaunch .. => .claimNativeExecutionProfileQualificationLaunch
  | .allocateStudyActorWork .. => .allocateStudyActorWork
  | .studyTransition .. => .studyTransition

def CommandBody.fields : CommandBody → Bytes
  | .createSocietyIdentity a => put a
  | .installRootAuthorityOffice => []
  | .installFoundingMission a => put a
  | .appointInitialRootAuthority a => put a
  | .setR0HardCeiling a => put a
  | .bootstrapSociety => []
  | .proposeOperatingCycle a b => put a++put b
  | .admitOperatingCycle a => put a
  | .startRootAuthorityOfficeSession a => put a
  | .recordOfficeSessionReady a => put a
  | .recordOfficeSessionTerminal a b => put a++put b
  | .openOfficeTurn a b => put a++put b
  | .settleOfficeTurn a b => put a++put b
  | .quiesceOperatingCycle a => put a
  | .recordCycleDrained a => put a
  | .resumeOperatingCycle a => put a
  | .reconcileOperatingCycle a => put a
  | .closeOperatingCycle a => put a
  | .reserveBudget a b => put a++put b
  | .reconcileBudget a b => put a++put b
  | .requestCancellation a b => put a++put b
  | .reconcileCancellation a => put a
  | .closeCostPostmortem a b => put a++put b
  | .createProject a b c => put a++put b++put c
  | .charterProject a b c d e => put a++put b++put c++put d++put e
  | .transitionProject a b c => put a++put b++put c
  | .completeProjectMilestone a b => put a++put b
  | .reopenProject a b => put a++put b
  | .createTicket a b c d e => put a++put b++put c++put d++put e
  | .transitionTicket a b c => put a++put b++put c
  | .addGraphObjectRevision a b c d e => put a++put b++put c++put d++put e
  | .commitGraphRevision a b => put a++put b
  | .addGraphEdge a b c d e => put a++put b++put c++put d++put e
  | .createEpisode a b => put a++put b
  | .transitionEpisode a b c => put a++put b++put c
  | .reopenEpisode a b => put a++put b
  | .requestAdversarialReview a b c => put a++put b++put c
  | .assignAdversarialReviewer a b c d e => put a++put b++put c++put d++put e
  | .submitReviewChallenge a b c d e f => put a++put b++put c++put d++put e++put f
  | .respondToReviewChallenge a b c => put a++put b++put c
  | .dispositionReviewChallenge a b c => put a++put b++put c
  | .resolveAdversarialReview a b c => put a++put b++put c
  | .triggerPostmortem a b c => put a++put b++put c
  | .recordPostmortemCausalClaim a b c d => put a++put b++put c++put d
  | .proposePostmortemAction a b c d => put a++put b++put c++put d
  | .closePostmortem a b => put a++put b
  | .registerActorConfiguration a b c => put a++put b++put c
  | .registerContextPack a b c => put a++put b++put c
  | .admitActorInstance a b c d => put a++put b++put c++put d
  | .admitTicket a b => put a++put b
  | .registerWorkItem a b c d e f g => put a++put b++put c++put d++put e++put f++put g
  | .claimWorkItem a b => put a++put b
  | .startActorAttempt a b c => put a++put b++put c
  | .attestActorAttemptTerminal a b => put a++put b
  | .validateTicketAttempt a b => put a++put b
  | .retryActorAttempt a b => put a++put b
  | .completeTicket a b => put a++put b
  | .expireWorkLease a => put a
  | .cancelActorAttempt a b => put a++put b
  | .registerOutcomeObligation a b c => put a++put b++put c
  | .resolveOutcomeObligation a b c => put a++put b++put c
  | .recordContentSealReceipt a => put a
  | .registerContentObject a => put a
  | .registerForensicManifest a b c d e => put a++put b++put c++put d++put e
  | .registerDeterministicEvaluatorForensicManifest a b => put a++put b
  | .registerDeterministicExperiment a b c d e f => put a++put b++put c++put d++put e++put f
  | .recordDeterministicEvaluationReceipt a b c d e f => put a++put b++put c++put d++put e++put f
  | .admitDeterministicEvidence a b => put a++put b
  | .finalizeDeterministicExperiment a b => put a++put b
  | .admitDeterministicEvaluatorNativeChild a b c d e f g h i => put a++put b++put c++put d++put e++
      put f++put g++put h++put i
  | .recordDeterministicEvaluatorNativeChildSpawn a b c d => put a++put b++put c++put d
  | .openSupervisorEpoch a b => put a++put b
  | .admitPiChildSpawn a b c d e f g h i j => put a++put b++put c++put d++put e++put f++put g++
      put h++put i++put j
  | .recordInertChildSpawn a b c d => put a++put b++put c++put d
  | .recordPiAdapterReady a b c => put a++put b++put c
  | .authorizePiCreateSession a b c => put a++put b++put c
  | .recordPiCreateSessionDelivery a b c => put a++put b++put c
  | .recordPiSessionReady a b => put a++put b
  | .recordPiAbortControlDelivery a b c d e => put a++put b++put c++put d++put e
  | .recordChildStreamSeal a b c d e => put a++put b++put c++put d++put e
  | .recordChildProcessLiveness a b => put a++put b
  | .recordProcessSignalReceipt a b c d e => put a++put b++put c++put d++put e
  | .recordDirectChildReap a b c d => put a++put b++put c++put d
  | .recordChildRecovery a b c => put a++put b++put c
  | .finalizeChildProcess a => put a
  | .beginCancellationPropagation a => put a
  | .reconcileCancellationPropagation a => put a
  | .recordNativeChildNotSpawned a b => put a++put b
  | .authorizePiOfficeTurnPrompt a b c d e => put a++put b++put c++put d++put e
  | .recordPiOfficeTurnPromptDelivery a b c => put a++put b++put c
  | .recordPiOfficeTurnPromptAccepted a b c => put a++put b++put c
  | .recordPiOfficeTurnUsage a b c d => put a++put b++put c++put d
  | .recordPiOfficeTurnUsageFailure a b c d => put a++put b++put c++put d
  | .recordPiOfficeTurnTerminal a b c d e f g => put a++put b++put c++put d++put e++put f++put g
  | .authorizePiOfficeSessionDispose a b => put a++put b
  | .recordPiOfficeSessionDisposeDelivery a b => put a++put b
  | .recordPiOfficeSessionDisposeAccepted a b c => put a++put b++put c
  | .recordPiOfficeSessionDisposeUsage a b c d => put a++put b++put c++put d
  | .recordPiOfficeSessionDisposeUsageFailure a b c d => put a++put b++put c++put d
  | .recordPiOfficeSessionDisposed a b c d => put a++put b++put c++put d
  | .authorizePiTaskAttemptPrompt a b c d e => put a++put b++put c++put d++put e
  | .recordPiTaskAttemptPromptDelivery a b c => put a++put b++put c
  | .recordPiTaskAttemptPromptAccepted a b c => put a++put b++put c
  | .recordPiTaskAttemptUsage a b c d => put a++put b++put c++put d
  | .recordPiTaskAttemptUsageFailure a b c d => put a++put b++put c++put d
  | .recordPiTaskAttemptTerminal a b c d e f g => put a++put b++put c++put d++put e++put f++put g
  | .authorizePiTaskAttemptSessionDispose a b => put a++put b
  | .recordPiTaskAttemptSessionDisposeDelivery a b => put a++put b
  | .recordPiTaskAttemptSessionDisposeAccepted a b c => put a++put b++put c
  | .recordPiTaskAttemptSessionDisposeUsage a b c d => put a++put b++put c++put d
  | .recordPiTaskAttemptSessionDisposeUsageFailure a b c d => put a++put b++put c++put d
  | .recordPiTaskAttemptSessionDisposed a b c d => put a++put b++put c++put d
  | .qualifyNativeExecutionProfile a b c d e f g h i j k => put a++put b++put c++put d++put e++
      put f++put g++put h++put i++put j++put k
  | .startNativeExecutionProfileQualification a => put a
  | .claimStudyActorTaskAttemptLaunch a b c d e f g h => put a++put b++put c++put d++put e++put f++
      put g++put h
  | .claimNativeExecutionProfileQualificationLaunch a b c d e f => put a++put b++put c++put d++
      put e++put f
  | .allocateStudyActorWork a b c d e f g h i j => put a++put b++put c++put d++put e++put f++put g++
      put h++put i++put j
  | .studyTransition a => put a

def readFields : CommandKind → Reader CommandBody
  | .createSocietyIdentity => (Reader.nothing CommandBody.createSocietyIdentity).next
  | .installRootAuthorityOffice => (Reader.nothing CommandBody.installRootAuthorityOffice)
  | .installFoundingMission => (Reader.nothing CommandBody.installFoundingMission).next
  | .appointInitialRootAuthority => (Reader.nothing CommandBody.appointInitialRootAuthority).next
  | .setR0HardCeiling => (Reader.nothing CommandBody.setR0HardCeiling).next
  | .bootstrapSociety => (Reader.nothing CommandBody.bootstrapSociety)
  | .proposeOperatingCycle => (Reader.nothing CommandBody.proposeOperatingCycle).next.next
  | .admitOperatingCycle => (Reader.nothing CommandBody.admitOperatingCycle).next
  | .startRootAuthorityOfficeSession =>
    (Reader.nothing CommandBody.startRootAuthorityOfficeSession).next
  | .recordOfficeSessionReady => (Reader.nothing CommandBody.recordOfficeSessionReady).next
  | .openOfficeTurn => (Reader.nothing CommandBody.openOfficeTurn).next.next
  | .settleOfficeTurn => (Reader.nothing CommandBody.settleOfficeTurn).next.next
  | .quiesceOperatingCycle => (Reader.nothing CommandBody.quiesceOperatingCycle).next
  | .recordCycleDrained => (Reader.nothing CommandBody.recordCycleDrained).next
  | .resumeOperatingCycle => (Reader.nothing CommandBody.resumeOperatingCycle).next
  | .reconcileOperatingCycle => (Reader.nothing CommandBody.reconcileOperatingCycle).next
  | .closeOperatingCycle => (Reader.nothing CommandBody.closeOperatingCycle).next
  | .reserveBudget => (Reader.nothing CommandBody.reserveBudget).next.next
  | .reconcileBudget => (Reader.nothing CommandBody.reconcileBudget).next.next
  | .requestCancellation => (Reader.nothing CommandBody.requestCancellation).next.next
  | .reconcileCancellation => (Reader.nothing CommandBody.reconcileCancellation).next
  | .recordOfficeSessionTerminal =>
    (Reader.nothing CommandBody.recordOfficeSessionTerminal).next.next
  | .closeCostPostmortem => (Reader.nothing CommandBody.closeCostPostmortem).next.next
  | .createProject => (Reader.nothing CommandBody.createProject).next.next.next
  | .charterProject => (Reader.nothing CommandBody.charterProject).next.next.next.next.next
  | .transitionProject => (Reader.nothing CommandBody.transitionProject).next.next.next
  | .completeProjectMilestone => (Reader.nothing CommandBody.completeProjectMilestone).next.next
  | .reopenProject => (Reader.nothing CommandBody.reopenProject).next.next
  | .createTicket => (Reader.nothing CommandBody.createTicket).next.next.next.next.next
  | .transitionTicket => (Reader.nothing CommandBody.transitionTicket).next.next.next
  | .addGraphObjectRevision =>
    (Reader.nothing CommandBody.addGraphObjectRevision).next.next.next.next.next
  | .commitGraphRevision => (Reader.nothing CommandBody.commitGraphRevision).next.next
  | .addGraphEdge => (Reader.nothing CommandBody.addGraphEdge).next.next.next.next.next
  | .createEpisode => (Reader.nothing CommandBody.createEpisode).next.next
  | .transitionEpisode => (Reader.nothing CommandBody.transitionEpisode).next.next.next
  | .reopenEpisode => (Reader.nothing CommandBody.reopenEpisode).next.next
  | .requestAdversarialReview =>
    (Reader.nothing CommandBody.requestAdversarialReview).next.next.next
  | .submitReviewChallenge =>
    (Reader.nothing CommandBody.submitReviewChallenge).next.next.next.next.next.next
  | .respondToReviewChallenge =>
    (Reader.nothing CommandBody.respondToReviewChallenge).next.next.next
  | .dispositionReviewChallenge =>
    (Reader.nothing CommandBody.dispositionReviewChallenge).next.next.next
  | .resolveAdversarialReview =>
    (Reader.nothing CommandBody.resolveAdversarialReview).next.next.next
  | .triggerPostmortem => (Reader.nothing CommandBody.triggerPostmortem).next.next.next
  | .recordPostmortemCausalClaim =>
    (Reader.nothing CommandBody.recordPostmortemCausalClaim).next.next.next.next
  | .proposePostmortemAction =>
    (Reader.nothing CommandBody.proposePostmortemAction).next.next.next.next
  | .closePostmortem => (Reader.nothing CommandBody.closePostmortem).next.next
  | .assignAdversarialReviewer =>
    (Reader.nothing CommandBody.assignAdversarialReviewer).next.next.next.next.next
  | .registerActorConfiguration =>
    (Reader.nothing CommandBody.registerActorConfiguration).next.next.next
  | .registerContextPack => (Reader.nothing CommandBody.registerContextPack).next.next.next
  | .admitActorInstance => (Reader.nothing CommandBody.admitActorInstance).next.next.next.next
  | .admitTicket => (Reader.nothing CommandBody.admitTicket).next.next
  | .registerWorkItem =>
    (Reader.nothing CommandBody.registerWorkItem).next.next.next.next.next.next.next
  | .claimWorkItem => (Reader.nothing CommandBody.claimWorkItem).next.next
  | .startActorAttempt => (Reader.nothing CommandBody.startActorAttempt).next.next.next
  | .attestActorAttemptTerminal =>
    (Reader.nothing CommandBody.attestActorAttemptTerminal).next.next
  | .validateTicketAttempt => (Reader.nothing CommandBody.validateTicketAttempt).next.next
  | .retryActorAttempt => (Reader.nothing CommandBody.retryActorAttempt).next.next
  | .completeTicket => (Reader.nothing CommandBody.completeTicket).next.next
  | .expireWorkLease => (Reader.nothing CommandBody.expireWorkLease).next
  | .cancelActorAttempt => (Reader.nothing CommandBody.cancelActorAttempt).next.next
  | .registerOutcomeObligation =>
    (Reader.nothing CommandBody.registerOutcomeObligation).next.next.next
  | .resolveOutcomeObligation =>
    (Reader.nothing CommandBody.resolveOutcomeObligation).next.next.next
  | .recordContentSealReceipt => (Reader.nothing CommandBody.recordContentSealReceipt).next
  | .registerContentObject => (Reader.nothing CommandBody.registerContentObject).next
  | .registerForensicManifest =>
    (Reader.nothing CommandBody.registerForensicManifest).next.next.next.next.next
  | .registerDeterministicExperiment =>
    (Reader.nothing CommandBody.registerDeterministicExperiment).next.next.next.next.next.next
  | .recordDeterministicEvaluationReceipt =>
    (Reader.nothing CommandBody.recordDeterministicEvaluationReceipt).next.next.next.next.next.next
  | .admitDeterministicEvidence =>
    (Reader.nothing CommandBody.admitDeterministicEvidence).next.next
  | .finalizeDeterministicExperiment =>
    (Reader.nothing CommandBody.finalizeDeterministicExperiment).next.next
  | .admitPiChildSpawn =>
    (Reader.nothing CommandBody.admitPiChildSpawn).next.next.next.next.next.next.next.next.next.next
  | .recordInertChildSpawn =>
    (Reader.nothing CommandBody.recordInertChildSpawn).next.next.next.next
  | .recordPiAdapterReady => (Reader.nothing CommandBody.recordPiAdapterReady).next.next.next
  | .authorizePiCreateSession =>
    (Reader.nothing CommandBody.authorizePiCreateSession).next.next.next
  | .recordPiCreateSessionDelivery =>
    (Reader.nothing CommandBody.recordPiCreateSessionDelivery).next.next.next
  | .recordPiSessionReady => (Reader.nothing CommandBody.recordPiSessionReady).next.next
  | .recordChildStreamSeal =>
    (Reader.nothing CommandBody.recordChildStreamSeal).next.next.next.next.next
  | .recordChildProcessLiveness =>
    (Reader.nothing CommandBody.recordChildProcessLiveness).next.next
  | .recordProcessSignalReceipt =>
    (Reader.nothing CommandBody.recordProcessSignalReceipt).next.next.next.next.next
  | .recordDirectChildReap =>
    (Reader.nothing CommandBody.recordDirectChildReap).next.next.next.next
  | .recordChildRecovery => (Reader.nothing CommandBody.recordChildRecovery).next.next.next
  | .finalizeChildProcess => (Reader.nothing CommandBody.finalizeChildProcess).next
  | .beginCancellationPropagation => (Reader.nothing CommandBody.beginCancellationPropagation).next
  | .reconcileCancellationPropagation =>
    (Reader.nothing CommandBody.reconcileCancellationPropagation).next
  | .openSupervisorEpoch => (Reader.nothing CommandBody.openSupervisorEpoch).next.next
  | .recordPiAbortControlDelivery =>
    (Reader.nothing CommandBody.recordPiAbortControlDelivery).next.next.next.next.next
  | .recordNativeChildNotSpawned =>
    (Reader.nothing CommandBody.recordNativeChildNotSpawned).next.next
  | .authorizePiOfficeTurnPrompt =>
    (Reader.nothing CommandBody.authorizePiOfficeTurnPrompt).next.next.next.next.next
  | .recordPiOfficeTurnPromptDelivery =>
    (Reader.nothing CommandBody.recordPiOfficeTurnPromptDelivery).next.next.next
  | .recordPiOfficeTurnPromptAccepted =>
    (Reader.nothing CommandBody.recordPiOfficeTurnPromptAccepted).next.next.next
  | .recordPiOfficeTurnUsage =>
    (Reader.nothing CommandBody.recordPiOfficeTurnUsage).next.next.next.next
  | .recordPiOfficeTurnUsageFailure =>
    (Reader.nothing CommandBody.recordPiOfficeTurnUsageFailure).next.next.next.next
  | .recordPiOfficeTurnTerminal =>
    (Reader.nothing CommandBody.recordPiOfficeTurnTerminal).next.next.next.next.next.next.next
  | .authorizePiOfficeSessionDispose =>
    (Reader.nothing CommandBody.authorizePiOfficeSessionDispose).next.next
  | .recordPiOfficeSessionDisposeDelivery =>
    (Reader.nothing CommandBody.recordPiOfficeSessionDisposeDelivery).next.next
  | .recordPiOfficeSessionDisposeAccepted =>
    (Reader.nothing CommandBody.recordPiOfficeSessionDisposeAccepted).next.next.next
  | .recordPiOfficeSessionDisposeUsage =>
    (Reader.nothing CommandBody.recordPiOfficeSessionDisposeUsage).next.next.next.next
  | .recordPiOfficeSessionDisposeUsageFailure =>
    (Reader.nothing CommandBody.recordPiOfficeSessionDisposeUsageFailure).next.next.next.next
  | .recordPiOfficeSessionDisposed =>
    (Reader.nothing CommandBody.recordPiOfficeSessionDisposed).next.next.next.next
  | .admitDeterministicEvaluatorNativeChild =>
    (Reader.nothing CommandBody.admitDeterministicEvaluatorNativeChild).next.next.next.next.next.next.next.next.next
  | .recordDeterministicEvaluatorNativeChildSpawn =>
    (Reader.nothing CommandBody.recordDeterministicEvaluatorNativeChildSpawn).next.next.next.next
  | .registerDeterministicEvaluatorForensicManifest =>
    (Reader.nothing CommandBody.registerDeterministicEvaluatorForensicManifest).next.next
  | .studyTransition => (Reader.nothing CommandBody.studyTransition).next
  | .authorizePiTaskAttemptPrompt =>
    (Reader.nothing CommandBody.authorizePiTaskAttemptPrompt).next.next.next.next.next
  | .recordPiTaskAttemptPromptDelivery =>
    (Reader.nothing CommandBody.recordPiTaskAttemptPromptDelivery).next.next.next
  | .recordPiTaskAttemptPromptAccepted =>
    (Reader.nothing CommandBody.recordPiTaskAttemptPromptAccepted).next.next.next
  | .recordPiTaskAttemptUsage =>
    (Reader.nothing CommandBody.recordPiTaskAttemptUsage).next.next.next.next
  | .recordPiTaskAttemptUsageFailure =>
    (Reader.nothing CommandBody.recordPiTaskAttemptUsageFailure).next.next.next.next
  | .recordPiTaskAttemptTerminal =>
    (Reader.nothing CommandBody.recordPiTaskAttemptTerminal).next.next.next.next.next.next.next
  | .authorizePiTaskAttemptSessionDispose =>
    (Reader.nothing CommandBody.authorizePiTaskAttemptSessionDispose).next.next
  | .recordPiTaskAttemptSessionDisposeDelivery =>
    (Reader.nothing CommandBody.recordPiTaskAttemptSessionDisposeDelivery).next.next
  | .recordPiTaskAttemptSessionDisposeAccepted =>
    (Reader.nothing CommandBody.recordPiTaskAttemptSessionDisposeAccepted).next.next.next
  | .recordPiTaskAttemptSessionDisposeUsage =>
    (Reader.nothing CommandBody.recordPiTaskAttemptSessionDisposeUsage).next.next.next.next
  | .recordPiTaskAttemptSessionDisposeUsageFailure =>
    (Reader.nothing CommandBody.recordPiTaskAttemptSessionDisposeUsageFailure).next.next.next.next
  | .recordPiTaskAttemptSessionDisposed =>
    (Reader.nothing CommandBody.recordPiTaskAttemptSessionDisposed).next.next.next.next
  | .qualifyNativeExecutionProfile =>
    (Reader.nothing CommandBody.qualifyNativeExecutionProfile).next.next.next.next.next.next.next.next.next.next.next
  | .startNativeExecutionProfileQualification =>
    (Reader.nothing CommandBody.startNativeExecutionProfileQualification).next
  | .claimStudyActorTaskAttemptLaunch =>
    (Reader.nothing CommandBody.claimStudyActorTaskAttemptLaunch).next.next.next.next.next.next.next.next
  | .claimNativeExecutionProfileQualificationLaunch =>
    (Reader.nothing CommandBody.claimNativeExecutionProfileQualificationLaunch).next.next.next.next.next.next
  | .allocateStudyActorWork =>
    (Reader.nothing CommandBody.allocateStudyActorWork).next.next.next.next.next.next.next.next.next.next

attribute [local irreducible] Reader.next Reader.nothing Reads in
theorem reads_fields (b : CommandBody) :
    Reads (readFields b.kind) b.fields b := by
  cases b <;> simp only [CommandBody.kind,CommandBody.fields,readFields] <;>
    repeat first | exact Reads.first | exact Reads.nothing _ | apply Reads.next

instance : Codec CommandBody where
  put b := put b.kind++b.fields
  read := (read : Reader CommandKind).select readFields
  reads b := (reads b.kind).select (reads_fields b)

instance : Codec CommandRequest where
  put r := put r.commandId++put r.principalId++put r.capabilityGrantId++put r.capability++
    put r.expectedGeneration++put r.body
  read := (Reader.nothing CommandRequest.mk).next.next.next.next.next.next
  reads _ := Reads.first.next.next.next.next.next

/-- The digest that identifies a request; `hash` is BLAKE3. -/
def requestFingerprint (hash : Bytes → Blake3Digest) (r : CommandRequest) : Blake3Digest :=
  hash (put r)

/-- Requests with different preimages keep their fingerprints apart unless `hash` collides. -/
theorem requestFingerprint_ne {hash : Bytes → Blake3Digest} {r r' : CommandRequest}
    (hc : hash (put r)=hash (put r') → put r=put r') (hne : r≠r') :
    requestFingerprint hash r≠requestFingerprint hash r' :=
  fun he => hne (put_injective (hc he))

/-- The hash function of the kernel. -/
def blake3 (b : Bytes) : Blake3Digest := ⟨Blake3.digest b,Blake3.length_digest b⟩

end Society.Kernel
