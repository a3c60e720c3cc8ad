import Mathlib.Data.List.Sort
import Society.Kernel.Schema

namespace Society.Kernel
open Society.Relational

/-! What the kernel tells of a study run and of its matched pairs. -/

section Observations

/-- How these reads fail. -/
inductive StudyReadError
  | studyPairNotFound (i : StudyPairId)
  | studyRunNotFound (i : StudyRunId)
  | invalidStoredValue
  | ledgerCorruption (reason : String)
  | database
  deriving DecidableEq

structure StudyMeasurementObservation where
  measurementSlot : StudyMeasurementSlot
  status : StudyMeasurementStatus
  value : Option I64
  valueDigest : Option Blake3Digest
  reasonDigest : Option Blake3Digest
  deriving DecidableEq

structure StudyEpisodeObservation where
  episodeId : StudyEpisodeId
  protocolRevisionId : StudyProtocolRevisionId
  worldRevisionId : StudyWorldRevisionId
  measurementRevisionId : StudyMeasurementRevisionId
  measurementSlotCount : StudyMeasurementSlotCount
  institutionRevisionId : StudyInstitutionRevisionId
  sourcePopulationSnapshotId : StudyPopulationSnapshotId
  successorPopulationSnapshotId : Option StudyPopulationSnapshotId
  randomizationDigest : Blake3Digest
  treatment : StudyTreatment
  lifecycleState : StudyEpisodeState
  sourceActorObligations : Nat
  sourceTerminalActorObligations : Nat
  successorActorObligations : Nat
  successorTerminalActorObligations : Nat
  failedActorObligations : Nat
  runtimeBindings : Nat
  reconciledRuntimeBindings : Nat
  frozenForumHead : Option Count
  forumMessages : Nat
  forumReads : Nat
  forumReturnedBytes : Nat
  decisions : Nat
  groundTruthRevealDigest : Option Blake3Digest
  measurements : List StudyMeasurementObservation
  deriving DecidableEq

structure StudyPairObservation where
  pairId : StudyPairId
  retained : StudyEpisodeObservation
  reset : StudyEpisodeObservation
  deriving DecidableEq

structure StudyRunPairRegistrationObservation where
  pairOrdinal : StudyRunPairOrdinal
  pairId : StudyPairId
  randomizationDigest : Blake3Digest
  deriving DecidableEq

structure StudyRunObservation where
  studyRunId : StudyRunId
  protocolRevisionId : StudyProtocolRevisionId
  planContentObjectId : ContentObjectId
  planDigest : Blake3Digest
  pairCount : StudyRunPairCount
  registeredPairCount : StudyRunRegisteredPairCount
  lifecycleState : StudyRunLifecycleState
  pairs : List StudyRunPairRegistrationObservation
  deriving DecidableEq

end Observations

section Queries

def StudyMeasurementResultRow.observation (r : StudyMeasurementResultRow) :
    StudyMeasurementObservation :=
  ⟨r.measurementSlot,r.resultStatus,r.observedValue,r.valueDigest,r.reasonDigest⟩

def StudyRunPairRow.observation (r : StudyRunPairRow) : StudyRunPairRegistrationObservation :=
  ⟨r.pairOrdinal,r.studyPairId,r.randomizationDigest⟩

def StudyActorObligationRow.isTerminal (r : StudyActorObligationRow) : Bool :=
  r.lifecycleState==.completed || r.lifecycleState==.failed

variable (s : Store)

/-- Obligations joined with what refers to them. -/
def joinObligations {β : Type} (obligations : List StudyActorObligationRow) (rows : List β)
    (owner : β → StudyActorObligationId) : List β :=
  obligations.flatMap (fun o => rows.filter (fun b => owner b==o.studyActorObligationId))

/-- The messages of an episode's forum, thread by thread. -/
def episodeForumMessages (i : StudyEpisodeId) : List StudyForumMessageRow :=
  ((s.rows .studyEpisodeForums).filter (·.studyEpisodeId==i)).flatMap (fun forum =>
    ((s.rows .studyForumThreads).filter (·.episodeForumId==forum.episodeForumId)).flatMap
      (fun thread => (s.rows .studyForumMessages).filter (·.forumThreadId==thread.forumThreadId)))

def episodeObservation (i : StudyEpisodeId) : Except StudyReadError StudyEpisodeObservation :=
  let joined : Option (StudyEpisodeRow×StudyTreatmentAssignmentRow×StudyMeasurementRevisionRow) := do
    let episode ← s.find .studyEpisodes i
    let assignment ← (s.rows .studyTreatmentAssignments).find? (·.studyEpisodeId==i)
    let measurement ← s.find .studyMeasurementRevisions episode.studyMeasurementRevisionId
    pure (episode,assignment,measurement)
  match joined with
  | none => .error .invalidStoredValue
  | some (episode,assignment,measurement) =>
    let obligations := (s.rows .studyActorObligations).filter (·.studyEpisodeId==i)
    let source := obligations.filter (·.populationPhase==.source)
    let successor := obligations.filter (·.populationPhase==.successor)
    let bindings := joinObligations obligations (s.rows .studyActorRuntimeBindings)
      (·.studyActorObligationId)
    let receipts := joinObligations obligations (s.rows .studyForumReadReceipts)
      (·.studyActorObligationId)
    let decisions := joinObligations obligations (s.rows .studyDecisions) (·.studyActorObligationId)
    let returnedBytes := (receipts.map (·.returnedByteCount.val)).sum
    -- the sum is cast to a signed 64-bit integer
    if bigintLimit ≤ returnedBytes then .error .database else .ok
    { episodeId := i,
      protocolRevisionId := episode.studyProtocolRevisionId,
      worldRevisionId := episode.studyWorldRevisionId,
      measurementRevisionId := episode.studyMeasurementRevisionId,
      measurementSlotCount := measurement.measurementSlotCount,
      institutionRevisionId := episode.studyInstitutionRevisionId,
      sourcePopulationSnapshotId := episode.studyPopulationSnapshotId,
      successorPopulationSnapshotId :=
        ((s.rows .studyEpisodeSuccessorPopulations).find? (·.studyEpisodeId==i)).map
          (·.studyPopulationSnapshotId),
      randomizationDigest := episode.randomizationDigest,
      treatment := assignment.treatment,
      lifecycleState := episode.lifecycleState,
      sourceActorObligations := source.length,
      sourceTerminalActorObligations := source.countP (·.isTerminal),
      successorActorObligations := successor.length,
      successorTerminalActorObligations := successor.countP (·.isTerminal),
      failedActorObligations := obligations.countP (·.lifecycleState==.failed),
      runtimeBindings := bindings.length,
      reconciledRuntimeBindings := bindings.countP (·.lifecycleState==.reconciled),
      frozenForumHead := ((s.rows .studyFrozenForumHeads).find? (·.studyEpisodeId==i)).map
        (·.frozenHeadMessageOrdinal),
      forumMessages := (episodeForumMessages s i).length,
      forumReads := receipts.length,
      forumReturnedBytes := returnedBytes,
      decisions := decisions.length,
      groundTruthRevealDigest :=
        ((s.rows .studyGroundTruthReveals).find? (·.studyEpisodeId==i)).map (·.revealDigest),
      measurements := (((s.rows .studyMeasurementResults).filter (·.studyEpisodeId==i)).insertionSort
        (fun a b => a.measurementSlot.val≤b.measurementSlot.val)).map (·.observation) }

def pairObservation (i : StudyPairId) : Except StudyReadError StudyPairObservation := do
  match s.find .studyPairs i with
  | none => .error (.studyPairNotFound i)
  | some pair => do
    let retained ← episodeObservation s pair.retainedEpisodeId
    let reset ← episodeObservation s pair.resetEpisodeId
    if retained.treatment≠.retained ∨ reset.treatment≠.reset then
      .error (.ledgerCorruption
        "study pair treatment assignments do not match retained/reset membership")
    else .ok ⟨i,retained,reset⟩

def runObservation (i : StudyRunId) : Except StudyReadError StudyRunObservation :=
  match s.find .studyRuns i with
  | none => .error (.studyRunNotFound i)
  | some run =>
    let pairs := ((s.rows .studyRunPairs).filter (·.studyRunId==i)).insertionSort
      (fun a b => a.pairOrdinal.val≤b.pairOrdinal.val)
    if pairs.length≠run.registeredPairCount.val then
      .error (.ledgerCorruption "study run registered-pair count does not match its rows")
    else .ok ⟨i,run.studyProtocolRevisionId,run.planContentObjectId,run.planDigest,run.pairCount,
      run.registeredPairCount,run.lifecycleState,pairs.map (·.observation)⟩

end Queries

section Laws
variable {s : Store}

theorem episodeObservation_id {i : StudyEpisodeId} {e : StudyEpisodeObservation}
    (h : episodeObservation s i=.ok e) : e.episodeId=i := by
  unfold episodeObservation at h
  simp only at h
  split at h
  · cases h
  · split at h <;> cases h
    rfl

/-- A pair that is read is the pair of two episodes of the store. -/
theorem pairObservation_row {i : StudyPairId} {p : StudyPairObservation}
    (h : pairObservation s i=.ok p) : ∃ r,s.find .studyPairs i=some r ∧ p.pairId=i ∧
      r.retainedEpisodeId=p.retained.episodeId ∧ r.resetEpisodeId=p.reset.episodeId ∧
      episodeObservation s p.retained.episodeId=.ok p.retained ∧
      episodeObservation s p.reset.episodeId=.ok p.reset ∧
      p.retained.treatment=.retained ∧ p.reset.treatment=.reset := by
  unfold pairObservation at h
  split at h
  · cases h
  · next r hr =>
    cases hretained : episodeObservation s r.retainedEpisodeId with
    | error e => rw [hretained] at h; cases h
    | ok retained =>
      cases hreset : episodeObservation s r.resetEpisodeId with
      | error e => rw [hretained,hreset] at h; cases h
      | ok reset =>
        rw [hretained,hreset] at h
        simp only [bind,Except.bind] at h
        split at h <;> cases h
        next ht =>
        obtain ⟨htr,hts⟩ := not_or.mp ht
        have hi := episodeObservation_id hretained
        have hj := episodeObservation_id hreset
        exact ⟨r,hr,rfl,hi.symm,hj.symm,hi.symm ▸ hretained,hj.symm ▸ hreset,
          not_not.mp htr,not_not.mp hts⟩

end Laws
end Society.Kernel
