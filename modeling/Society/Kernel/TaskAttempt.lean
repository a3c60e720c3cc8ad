import Society.Kernel.Pi

namespace Society.Kernel
open Society.Relational

/-! The Pi protocol of an actor attempt: prompt, usage, terminal receipt and dispose. -/

section Lookups
variable {W : List Tbl}

structure PiTaskAttemptBinding extends PiBinding where
  attempt : AttemptRow
  budgetReservationId : BudgetReservationId

def piTaskAttemptBinding (i : ActorAttemptId) : Transition W PiTaskAttemptBinding := do
  let attempt ← Tx.get Tbl.attempts i Rejection.piTaskAttemptAuthorityMissing
  let o ← Tx.read (fun s =>
    (s.rows .attemptBudgetReservations).find? (fun r => r.actorAttemptId==i))
  let reservation ← Tx.the o .piTaskAttemptAuthorityMissing
  let o ← Tx.read (fun s => piBinding s (.actorAttempt i))
  let b ← Tx.the o .piTaskAttemptAuthorityMissing
  pure {b with attempt := attempt,budgetReservationId := reservation.budgetReservationId}

def piTaskAttemptProfileIsEligible (c : OperatingCycleId) (p : ExecutionProfileId) :
    Transition W Bool := do
  let cycle ← Tx.get Tbl.operatingCycles c Rejection.executionProfileIneligible
  let profile ← Tx.get Tbl.executionProfiles p Rejection.executionProfileIneligible
  pure ((cycle.treatment==.deterministicPiHostFixtureV1 &&
      profile.profileKind==.deterministicPiHostProcessDoubleV1 &&
      profile.readiness==.deterministicFixtureOnly) ||
    (cycle.treatment==.pinnedPiSdkLiveV1 && profile.profileKind==.nativePinnedPiSdkV1 &&
      profile.readiness==.qualifiedForLiveUse))

def piTaskAttemptHasTerminalReceipt (s : Store) (i : ActorAttemptId) : Bool :=
  (s.rows .piTaskAttemptTerminalReceipts).any (fun r => r.actorAttemptId==i) ||
    (s.rows .studyActorTaskAttemptRecoverySettlements).any (fun r => r.actorAttemptId==i)

/-- Every sequence number recorded for a task-attempt session. -/
def piTaskAttemptSessionSequences (s : Store) (p : PiSessionId) : List Nat :=
  ((s.rows .piTaskAttemptPromptAcceptances).filter (fun r =>
      (s.find .piTaskAttemptPromptAuthorizations r.piTaskAttemptPromptAuthorizationId).any
        (·.piSessionId==p))).map (·.commandResultSequence.val) ++
    ((s.rows .piTaskAttemptUsageReceipts).filter (·.piSessionId==p)).map (·.protocolSequence.val) ++
    ((s.rows .piTaskAttemptUsageFailures).filter (·.piSessionId==p)).map (·.protocolSequence.val) ++
    ((s.rows .piTaskAttemptTerminalReceipts).filter (·.piSessionId==p)).flatMap (fun r =>
      r.terminalEvidence.agentSettledSequence.toList.map (·.val) ++
        [r.terminalEvidence.finalAccountingSequence.val,r.settledSequence.val]) ++
    ((s.rows .piTaskAttemptSessionDisposeAcceptances).filter (fun r =>
      (s.rows .piTaskAttemptSessionDisposeDeliveries).any (fun d =>
        d.actorAttemptId==r.actorAttemptId && d.piSessionId==p))).map
          (·.commandResultSequence.val) ++
    ((s.rows .piTaskAttemptSessionDisposeUsageReceipts).filter (·.piSessionId==p)).map
      (·.protocolSequence.val) ++
    ((s.rows .piTaskAttemptSessionDisposeUsageFailures).filter (·.piSessionId==p)).map
      (·.protocolSequence.val) ++
    ((s.rows .piTaskAttemptSessionDisposeReceipts).filter (·.piSessionId==p)).map
      (·.disposedSequence.val)

def taskAttemptUsageFailureFreezeReason : PiTaskAttemptUsageFailure → BudgetFreezeReason
  | .unknown .missingFinalUsageSnapshot => .unknown .providerDidNotReport
  | .unknown .boundaryStreamInterrupted => .unknown .adapterStreamInterrupted
  | .unknown .terminalEvidenceMissing => .unknown .reconciliationMismatch
  | .unavailable _ => .unavailable .adapterAccountingUnavailable

/-- The prompt authorization of an attempt with its acceptance. -/
def acceptedTaskPrompt (s : Store) (i : ActorAttemptId) (correlation : PiCorrelationIdentity) :
    Option (PiTaskAttemptPromptAuthorizationRow × PiTaskAttemptPromptAcceptanceRow) := do
  let a ← (s.rows .piTaskAttemptPromptAuthorizations).find? (fun r =>
    r.actorAttemptId==i && r.correlationIdentity==correlation.stored)
  let b ← (s.rows .piTaskAttemptPromptAcceptances).find? (fun r =>
    r.piTaskAttemptPromptAuthorizationId==a.piTaskAttemptPromptAuthorizationId)
  some (a,b)

def taskAttemptPriorUsage (s : Store) (p : PiSessionId) : Option PiTaskAttemptUsageReceiptRow :=
  ((s.rows .piTaskAttemptUsageReceipts).filter (·.piSessionId==p)).argmax
    (·.protocolSequence.val)

end Lookups

def authorizePiTaskAttemptPrompt (cmd : CommandRowId) (g : ExpectedGeneration)
    (i : ActorAttemptId) (correlation : PiCorrelationIdentity) (content : ContentObjectId)
    (digest : Blake3Digest) (frontier : EventId) :
    Transition [.piTaskAttemptPromptAuthorizations] EventBody := do
  let b ← piTaskAttemptBinding i
  let c := b.attempt.operatingCycleId
  let cycle ← cycleForGeneration c g
  Tx.require (b.attempt.lifecycleState==.running && cycle.lifecycleState==.running &&
    b.child.lifecycleState==.running && b.protocol.lifecycleState==.sessionReady)
    .piTaskAttemptAuthorityMissing
  let cancelling ← Tx.read (fun s => activeCancellationForCycle s c)
  Tx.require cancelling.isNone .piTaskAttemptAuthorityMissing
  let eligible ← piTaskAttemptProfileIsEligible c b.admission.executionProfileId
  Tx.require eligible .piTaskAttemptAuthorityMissing
  let r ← Tx.get Tbl.budgetReservations b.budgetReservationId Rejection.reservationNotActive
  Tx.require (r.reservationState==.reserved) .reservationNotActive
  let latest ← Tx.read (fun s => maxMicros
    (((s.rows .piTaskAttemptUsageReceipts).filter (·.piSessionId==b.piSessionId)).map
      (·.cumulativeCeilingMicros)))
  Tx.require (latest==r.chargedMicros.val) .piTaskAttemptUsageNotMonotonic
  let current ← Tx.read currentFrontier
  Tx.require (current==some frontier) .staleAdmissionGeneration
  let sealed ← Tx.read (fun s => contentDigest s content)
  Tx.require (sealed==some digest) .piTaskAttemptPromptBindingMismatch
  let a ← Tx.insert Tbl.piTaskAttemptPromptAuthorizations (fun a =>
    {piTaskAttemptPromptAuthorizationId := a,actorAttemptId := i,
     nativeChildId := b.child.nativeChildId,piSessionId := b.piSessionId,
     budgetReservationId := b.budgetReservationId,correlationIdentity := correlation.stored,
     promptContentObjectId := content,promptDigest := digest,frontierEventId := frontier,
     admissionGeneration := cycle.admissionGeneration,authorizedByCommandId := cmd})
    .piTaskAttemptAuthorityMissing
  pure (.piTaskAttemptPromptAuthorized a i b.child.nativeChildId correlation
    b.budgetReservationId)

def recordPiTaskAttemptPromptDelivery (cmd : CommandRowId) (i : ActorAttemptId)
    (correlation : PiCorrelationIdentity) (digest : Blake3Digest) :
    Transition [.piTaskAttemptPromptDeliveries] EventBody := do
  let o ← Tx.read (fun s => (s.rows .piTaskAttemptPromptAuthorizations).find? (fun r =>
    r.actorAttemptId==i && r.correlationIdentity==correlation.stored && r.promptDigest==digest))
  let a ← Tx.the o .piTaskAttemptPromptBindingMismatch
  Tx.store Tbl.piTaskAttemptPromptDeliveries
    {actorAttemptId := i,
     piTaskAttemptPromptAuthorizationId := a.piTaskAttemptPromptAuthorizationId,
     correlationIdentity := correlation.stored,promptDigest := digest,
     deliveredByCommandId := cmd} .piTaskAttemptPromptBindingMismatch
  pure (.piTaskAttemptPromptDelivered i correlation)

def recordPiTaskAttemptPromptAccepted (cmd : CommandRowId) (i : ActorAttemptId)
    (correlation : PiCorrelationIdentity) (sequence : PiProtocolSequence) :
    Transition [.piTaskAttemptPromptAcceptances] EventBody := do
  let o ← Tx.read (fun s => do
    let d ← (s.rows .piTaskAttemptPromptDeliveries).find? (fun r => r.actorAttemptId==i)
    let a ← s.find .piTaskAttemptPromptAuthorizations d.piTaskAttemptPromptAuthorizationId
    if a.correlationIdentity==correlation.stored then some a else none)
  let a ← Tx.the o .piTaskAttemptPromptBindingMismatch
  let sequences ← Tx.read (fun s => piTaskAttemptSessionSequences s a.piSessionId)
  Tx.require (beyond sequences sequence) .piTaskAttemptUsageNotMonotonic
  Tx.store Tbl.piTaskAttemptPromptAcceptances
    {actorAttemptId := i,
     piTaskAttemptPromptAuthorizationId := a.piTaskAttemptPromptAuthorizationId,
     commandResultSequence := sequence,acceptedByCommandId := cmd}
    .piTaskAttemptPromptBindingMismatch
  pure (.piTaskAttemptPromptAccepted i correlation sequence)

/-- The reservation is not looked at here: a receipt may exceed it, and may come after it
was reconciled. -/
def recordPiTaskAttemptUsage (cmd : CommandRowId) (i : ActorAttemptId)
    (correlation : PiCorrelationIdentity) (sequence : PiProtocolSequence)
    (usage : PiCumulativeUsage) : Transition [.piTaskAttemptUsageReceipts] EventBody := do
  let terminal ← Tx.read (fun s => piTaskAttemptHasTerminalReceipt s i)
  Tx.require (!terminal) .piTaskAttemptTerminalAlreadyRecorded
  Tx.require usage.isInternallyConsistent .piTaskAttemptUsageNotMonotonic
  let o ← Tx.read (fun s => acceptedTaskPrompt s i correlation)
  let (a,_) ← Tx.the o .piTaskAttemptPromptBindingMismatch
  let sequences ← Tx.read (fun s => piTaskAttemptSessionSequences s a.piSessionId)
  Tx.require (beyond sequences sequence) .piTaskAttemptUsageNotMonotonic
  let failed ← Tx.read (fun s =>
    (s.rows .piTaskAttemptUsageFailures).any (fun r => r.piSessionId==a.piSessionId))
  Tx.require (!failed) .piTaskAttemptUsageAlreadyFrozen
  let prior ← Tx.read (fun s => taskAttemptPriorUsage s a.piSessionId)
  Tx.require (prior.all (fun r => r.protocolSequence.val < sequence.val && usage.covers r.usage))
    .piTaskAttemptUsageNotMonotonic
  let r ← Tx.insert Tbl.piTaskAttemptUsageReceipts (fun r =>
    {piTaskAttemptUsageReceiptId := r,actorAttemptId := i,
     piTaskAttemptPromptAuthorizationId := a.piTaskAttemptPromptAuthorizationId,
     piSessionId := a.piSessionId,correlationIdentity := correlation.stored,
     protocolSequence := sequence,inputTokens := usage.inputTokens,
     outputTokens := usage.outputTokens,cacheReadTokens := usage.cacheReadTokens,
     cacheWriteTokens := usage.cacheWriteTokens,totalTokens := usage.totalTokens,
     providerCostBinary64 := usage.providerCost,
     cumulativeCeilingMicros := usage.ceilingMicroUsd,recordedByCommandId := cmd})
    .piTaskAttemptUsageNotMonotonic
  pure (.piTaskAttemptUsageRecorded r i sequence usage.ceilingMicroUsd)

def recordPiTaskAttemptUsageFailure (cmd : CommandRowId) (i : ActorAttemptId)
    (correlation : PiCorrelationIdentity) (sequence : PiProtocolSequence)
    (failure : PiTaskAttemptUsageFailure) :
    Transition (.piTaskAttemptUsageFailures::freezeTables) EventBody := do
  let terminal ← Tx.read (fun s => piTaskAttemptHasTerminalReceipt s i)
  Tx.require (!terminal) .piTaskAttemptTerminalAlreadyRecorded
  let b ← piTaskAttemptBinding i
  Tx.require (b.attempt.lifecycleState==.running) .piTaskAttemptAuthorityMissing
  let o ← Tx.read (fun s => acceptedTaskPrompt s i correlation)
  let (a,accepted) ← Tx.the o .piTaskAttemptPromptBindingMismatch
  let sequences ← Tx.read (fun s => piTaskAttemptSessionSequences s b.piSessionId)
  Tx.require (accepted.commandResultSequence.val < sequence.val && beyond sequences sequence)
    .piTaskAttemptUsageNotMonotonic
  let (_,left) ← activeRemainder b.budgetReservationId
  let f ← (freezeBudget cmd b.budgetReservationId b.attempt.operatingCycleId left
    (taskAttemptUsageFailureFreezeReason failure)).widen (by decide)
  let _ ← Tx.insert Tbl.piTaskAttemptUsageFailures (fun r =>
    {piTaskAttemptUsageFailureId := r,actorAttemptId := i,
     piTaskAttemptPromptAuthorizationId := a.piTaskAttemptPromptAuthorizationId,
     piSessionId := b.piSessionId,correlationIdentity := correlation.stored,
     protocolSequence := sequence,failure := failure,
     budgetReservationId := b.budgetReservationId,
     cancellationRequestId := f.cancellationRequestId,costPostmortemId := f.postmortemId,
     recordedByCommandId := cmd}) .piTaskAttemptAuthorityMissing
  pure (.piTaskAttemptUsageFrozen i b.budgetReservationId f.cancellationRequestId
    f.postmortemId failure)

def recordPiTaskAttemptTerminal (cmd : CommandRowId) (i : ActorAttemptId)
    (correlation : PiCorrelationIdentity) (evidence : PiTaskAttemptTerminalEvidence)
    (settled : PiProtocolSequence) (disposition : PiTaskAttemptDisposition)
    (outcome : PiTaskAttemptAssistantOutcome)
    (transcript : PiTaskAttemptTranscriptDisposition) :
    Transition [.piTaskAttemptTerminalReceipts] EventBody := do
  let terminal ← Tx.read (fun s => piTaskAttemptHasTerminalReceipt s i)
  Tx.require (!terminal) .piTaskAttemptTerminalAlreadyRecorded
  let final := evidence.finalAccountingSequence
  Tx.require (disposition.accepts outcome && evidence.accepts outcome &&
    final.val+1==settled.val) .piTaskAttemptTerminalEvidenceMissing
  let o ← Tx.read (fun s => acceptedTaskPrompt s i correlation)
  let (a,accepted) ← Tx.the o .piTaskAttemptTerminalEvidenceMissing
  let first := evidence.agentSettledSequence.getD final
  Tx.require (accepted.commandResultSequence.val<first.val) .piTaskAttemptTerminalEvidenceMissing
  let usage ← Tx.read (fun s => (s.rows .piTaskAttemptUsageReceipts).find? (fun r =>
    r.actorAttemptId==i &&
      r.piTaskAttemptPromptAuthorizationId==a.piTaskAttemptPromptAuthorizationId &&
      r.correlationIdentity==correlation.stored && r.protocolSequence==final))
  let failure ← Tx.read (fun s => (s.rows .piTaskAttemptUsageFailures).find? (fun r =>
    r.actorAttemptId==i &&
      r.piTaskAttemptPromptAuthorizationId==a.piTaskAttemptPromptAuthorizationId &&
      r.correlationIdentity==correlation.stored && r.protocolSequence==final))
  Tx.require (usage.isSome≠failure.isSome &&
    (evidence.agentSettledSequence.isSome || usage.isSome)) .piTaskAttemptTerminalEvidenceMissing
  let r ← Tx.insert Tbl.piTaskAttemptTerminalReceipts (fun r =>
    {piTaskAttemptTerminalReceiptId := r,actorAttemptId := i,
     piTaskAttemptPromptAuthorizationId := a.piTaskAttemptPromptAuthorizationId,
     nativeChildId := a.nativeChildId,piSessionId := a.piSessionId,
     correlationIdentity := correlation.stored,terminalEvidence := evidence,
     settledSequence := settled,
     finalUsageReceiptId := usage.map (·.piTaskAttemptUsageReceiptId),
     finalUsageFailureId := failure.map (·.piTaskAttemptUsageFailureId),
     disposition := disposition,assistantOutcome := outcome,
     transcriptDisposition := transcript,recordedByCommandId := cmd})
    .piTaskAttemptTerminalEvidenceMissing
  pure (.piTaskAttemptTerminalRecorded r i disposition outcome)

section Dispose
variable {W : List Tbl}

def requirePiTaskAttemptDisposeAuthorizationGeneration (g : ExpectedGeneration)
    (i : ActorAttemptId) : Transition W Unit := do
  let o ← Tx.read (fun s =>
    (s.rows .piTaskAttemptSessionDisposeAuthorizations).find? (fun r => r.actorAttemptId==i))
  let a ← Tx.the o .piTaskAttemptSessionDisposeBindingMismatch
  match g with
  | .exact n => Tx.require (n==a.authorizedGeneration) .staleAdmissionGeneration
  | .notApplicable => Tx.raise .invalidExpectedGeneration

def taskAttemptDisposeUsageBinding (i : ActorAttemptId) (correlation : PiCorrelationIdentity) :
    Transition W (PiSessionId × PiProtocolSequence) := do
  let o ← Tx.read (fun s => do
    let d ← (s.rows .piTaskAttemptSessionDisposeDeliveries).find? (fun r =>
      r.actorAttemptId==i && r.correlationIdentity==correlation.stored)
    let a ← (s.rows .piTaskAttemptSessionDisposeAcceptances).find? (fun r =>
      r.actorAttemptId==i)
    some (d.piSessionId,a.commandResultSequence))
  Tx.the o .piTaskAttemptSessionDisposeBindingMismatch

def requireTaskAttemptUsageExtends (p : PiSessionId) (sequence : PiProtocolSequence)
    (usage : PiCumulativeUsage) : Transition W Unit := do
  let sequences ← Tx.read (fun s => piTaskAttemptSessionSequences s p)
  Tx.require (usage.isInternallyConsistent && beyond sequences sequence)
    .piTaskAttemptUsageNotMonotonic
  let prior ← Tx.read (fun s => taskAttemptPriorUsage s p)
  Tx.require (prior.all (fun r => usage.covers r.usage)) .piTaskAttemptUsageNotMonotonic

end Dispose

def authorizePiTaskAttemptSessionDispose (cmd : CommandRowId) (g : ExpectedGeneration)
    (i : ActorAttemptId) (correlation : PiCorrelationIdentity) :
    Transition [.piTaskAttemptSessionDisposeAuthorizations] EventBody := do
  let b ← piTaskAttemptBinding i
  let cycle ← cycleForGeneration b.attempt.operatingCycleId g
  let terminal ← Tx.read (fun s => piTaskAttemptHasTerminalReceipt s i)
  Tx.require (b.attempt.lifecycleState==.running && b.child.lifecycleState==.running &&
    b.protocol.lifecycleState==.sessionReady && terminal)
    .piTaskAttemptSessionDisposeBindingMismatch
  let used ← Tx.read (fun s =>
    (s.rows .piTaskAttemptPromptAuthorizations).any (fun r =>
      r.piSessionId==b.piSessionId && r.correlationIdentity==correlation.stored) ||
    (s.rows .piTaskAttemptSessionDisposeAuthorizations).any (fun r =>
      r.piSessionId==b.piSessionId && r.correlationIdentity==correlation.stored))
  Tx.require (!used) .piTaskAttemptSessionDisposeBindingMismatch
  Tx.store Tbl.piTaskAttemptSessionDisposeAuthorizations
    {actorAttemptId := i,nativeChildId := b.child.nativeChildId,piSessionId := b.piSessionId,
     correlationIdentity := correlation.stored,
     authorizedGeneration := cycle.admissionGeneration,authorizedByCommandId := cmd}
    .piTaskAttemptSessionDisposeBindingMismatch
  pure (.piTaskAttemptSessionDisposeAuthorized i b.child.nativeChildId correlation
    cycle.admissionGeneration)

def recordPiTaskAttemptSessionDisposeDelivery (cmd : CommandRowId) (g : ExpectedGeneration)
    (i : ActorAttemptId) (correlation : PiCorrelationIdentity) :
    Transition [.piTaskAttemptSessionDisposeDeliveries] EventBody := do
  requirePiTaskAttemptDisposeAuthorizationGeneration g i
  let o ← Tx.read (fun s => (s.rows .piTaskAttemptSessionDisposeAuthorizations).find? (fun r =>
    r.actorAttemptId==i && r.correlationIdentity==correlation.stored))
  let a ← Tx.the o .piTaskAttemptSessionDisposeBindingMismatch
  Tx.store Tbl.piTaskAttemptSessionDisposeDeliveries
    {actorAttemptId := i,nativeChildId := a.nativeChildId,piSessionId := a.piSessionId,
     correlationIdentity := correlation.stored,deliveredByCommandId := cmd}
    .piTaskAttemptSessionDisposeBindingMismatch
  pure (.piTaskAttemptSessionDisposeDelivered i a.nativeChildId correlation)

def recordPiTaskAttemptSessionDisposeAccepted (cmd : CommandRowId) (g : ExpectedGeneration)
    (i : ActorAttemptId) (correlation : PiCorrelationIdentity) (sequence : PiProtocolSequence) :
    Transition [.piTaskAttemptSessionDisposeAcceptances] EventBody := do
  requirePiTaskAttemptDisposeAuthorizationGeneration g i
  let o ← Tx.read (fun s => (s.rows .piTaskAttemptSessionDisposeDeliveries).find? (fun r =>
    r.actorAttemptId==i && r.correlationIdentity==correlation.stored))
  let d ← Tx.the o .piTaskAttemptSessionDisposeBindingMismatch
  let sequences ← Tx.read (fun s => piTaskAttemptSessionSequences s d.piSessionId)
  Tx.require (beyond sequences sequence) .piTaskAttemptUsageNotMonotonic
  Tx.store Tbl.piTaskAttemptSessionDisposeAcceptances
    {actorAttemptId := i,commandResultSequence := sequence,acceptedByCommandId := cmd}
    .piTaskAttemptSessionDisposeBindingMismatch
  pure (.piTaskAttemptSessionDisposeAccepted i correlation sequence)

def recordPiTaskAttemptSessionDisposeUsage (cmd : CommandRowId) (g : ExpectedGeneration)
    (i : ActorAttemptId) (correlation : PiCorrelationIdentity) (sequence : PiProtocolSequence)
    (usage : PiCumulativeUsage) :
    Transition [.piTaskAttemptSessionDisposeUsageReceipts] EventBody := do
  requirePiTaskAttemptDisposeAuthorizationGeneration g i
  let (session,accepted) ← taskAttemptDisposeUsageBinding i correlation
  Tx.require (accepted.val < sequence.val) .piTaskAttemptUsageNotMonotonic
  let frozen ← Tx.read (fun s =>
    (s.rows .piTaskAttemptUsageFailures).any (fun r => r.piSessionId==session) ||
    (s.rows .piTaskAttemptSessionDisposeUsageFailures).any (fun r => r.piSessionId==session))
  Tx.require (!frozen) .piTaskAttemptUsageAlreadyFrozen
  requireTaskAttemptUsageExtends session sequence usage
  Tx.store Tbl.piTaskAttemptSessionDisposeUsageReceipts
    {actorAttemptId := i,piSessionId := session,correlationIdentity := correlation.stored,
     protocolSequence := sequence,inputTokens := usage.inputTokens,
     outputTokens := usage.outputTokens,cacheReadTokens := usage.cacheReadTokens,
     cacheWriteTokens := usage.cacheWriteTokens,totalTokens := usage.totalTokens,
     providerCostBinary64 := usage.providerCost,
     cumulativeCeilingMicros := usage.ceilingMicroUsd,recordedByCommandId := cmd}
    .piTaskAttemptSessionDisposeBindingMismatch
  pure (.piTaskAttemptSessionDisposeUsageRecorded i sequence usage.ceilingMicroUsd)

def recordPiTaskAttemptSessionDisposeUsageFailure (cmd : CommandRowId) (g : ExpectedGeneration)
    (i : ActorAttemptId) (correlation : PiCorrelationIdentity) (sequence : PiProtocolSequence)
    (failure : PiTaskAttemptUsageFailure) :
    Transition (.piTaskAttemptSessionDisposeUsageFailures::freezeTables) EventBody := do
  requirePiTaskAttemptDisposeAuthorizationGeneration g i
  let (session,accepted) ← taskAttemptDisposeUsageBinding i correlation
  let sequences ← Tx.read (fun s => piTaskAttemptSessionSequences s session)
  Tx.require (accepted.val < sequence.val && beyond sequences sequence)
    .piTaskAttemptUsageNotMonotonic
  let b ← piTaskAttemptBinding i
  let (_,left) ← activeRemainder b.budgetReservationId
  let f ← (freezeBudget cmd b.budgetReservationId b.attempt.operatingCycleId left
    (taskAttemptUsageFailureFreezeReason failure)).widen (by decide)
  Tx.store Tbl.piTaskAttemptSessionDisposeUsageFailures
    {actorAttemptId := i,piSessionId := session,correlationIdentity := correlation.stored,
     protocolSequence := sequence,failure := failure,
     budgetReservationId := b.budgetReservationId,
     cancellationRequestId := f.cancellationRequestId,costPostmortemId := f.postmortemId,
     recordedByCommandId := cmd} .piTaskAttemptAuthorityMissing
  pure (.piTaskAttemptSessionDisposeUsageFrozen i b.budgetReservationId
    f.cancellationRequestId f.postmortemId failure)

/-- Settles the reservation at the observed total, or freezes it on an overrun. -/
def reconcileTaskAttemptReservation (cmd : CommandRowId) (reservation : BudgetReservationId)
    (observed : UsdMicros) :
    Transition (.budgetEnvelopes::freezeTables)
      PiTaskAttemptSessionDisposeBudgetDisposition := do
  let r ← Tx.get Tbl.budgetReservations reservation Rejection.reservationNotActive
  Tx.require (r.reservationState==.reserved) .piTaskAttemptNotReconciled
  let delta ← Tx.the (observed.checkedSub r.chargedMicros) .piTaskAttemptNotReconciled
  let left ← Tx.the (r.amountMicros.checkedSub r.chargedMicros) .piTaskAttemptNotReconciled
  if observed.val ≤ r.amountMicros.val then do
    settleCharges reservation delta
    markReconciled cmd reservation observed .reservationNotActive
    pure (.reconciled observed)
  else do
    let f ← (freezeBudget cmd reservation r.operatingCycleId left
      (.knownOverrun observed left)).widen (by decide)
    pure (.frozen f.cancellationRequestId f.postmortemId)

def PiTaskAttemptSessionDisposeBudgetDisposition.columns :
    PiTaskAttemptSessionDisposeBudgetDisposition → Option (CancellationRequestId × CostPostmortemId)
  | .reconciled _ => none
  | .frozen i j => some (i,j)

/-- A verified first prompt must be the authorized one. -/
def PiTaskAttemptSessionTranscriptReceipt.verifies :
    PiTaskAttemptSessionTranscriptReceipt → Option Blake3Digest → Bool
  | .materialized _ _ _ (.verified digest),prompt => prompt==some digest
  | _,_ => true

def recordPiTaskAttemptSessionDisposed (cmd : CommandRowId) (g : ExpectedGeneration)
    (i : ActorAttemptId) (correlation : PiCorrelationIdentity) (disposed : PiProtocolSequence)
    (transcript : PiTaskAttemptSessionTranscriptReceipt) :
    Transition (.piTaskAttemptSessionDisposeReceipts::.budgetEnvelopes::freezeTables)
      EventBody := do
  requirePiTaskAttemptDisposeAuthorizationGeneration g i
  let o ← Tx.read (fun s => do
    let d ← (s.rows .piTaskAttemptSessionDisposeDeliveries).find? (fun r => r.actorAttemptId==i)
    let a ← (s.rows .piTaskAttemptSessionDisposeAcceptances).find? (fun r => r.actorAttemptId==i)
    let u ← (s.rows .piTaskAttemptSessionDisposeUsageReceipts).find? (fun r =>
      r.actorAttemptId==i)
    let _ ← s.find .attempts i
    let r ← (s.rows .attemptBudgetReservations).find? (fun r => r.actorAttemptId==i)
    some (d,a,u,r))
  let (d,a,u,r) ← Tx.the o .piTaskAttemptSessionDisposeReceiptMissing
  let sequences ← Tx.read (fun s => piTaskAttemptSessionSequences s d.piSessionId)
  Tx.require (d.correlationIdentity==correlation.stored &&
    a.commandResultSequence.val<disposed.val && u.protocolSequence.val<disposed.val &&
    beyond sequences disposed) .piTaskAttemptSessionDisposeReceiptMissing
  let prompt ← Tx.read (fun s =>
    ((s.rows .piTaskAttemptPromptAuthorizations).find? (fun r => r.actorAttemptId==i)).map
      (·.promptDigest))
  Tx.require (transcript.verifies prompt) .piTaskAttemptSessionDisposeReceiptMissing
  let observed := u.cumulativeCeilingMicros
  let disposition ← (reconcileTaskAttemptReservation cmd r.budgetReservationId observed).widen
    (by decide)
  let receipt ← Tx.insert Tbl.piTaskAttemptSessionDisposeReceipts (fun p =>
    {piTaskAttemptSessionDisposeReceiptId := p,actorAttemptId := i,
     nativeChildId := d.nativeChildId,piSessionId := d.piSessionId,
     correlationIdentity := correlation.stored,disposedSequence := disposed,
     transcriptReceipt := transcript,frozen := disposition.columns,
     recordedByCommandId := cmd}) .piTaskAttemptSessionDisposeReceiptMissing
  pure (.piTaskAttemptSessionDisposed receipt i r.budgetReservationId observed disposition)

end Society.Kernel
