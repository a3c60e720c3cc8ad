import Society.Kernel.Office

namespace Society.Kernel
open Society.Relational

/-! Disposal of an office session: authorization, delivery, final usage and receipt. -/

section Lookups
variable {W : List Tbl}

structure PiOfficeSessionBinding extends PiBinding where
  session : RootAuthorityOfficeSessionRow
  budgetReservationId : BudgetReservationId

def piOfficeSessionDisposeBinding (i : RootAuthorityOfficeSessionId) :
    Transition W PiOfficeSessionBinding := do
  let session ← Tx.get Tbl.rootAuthorityOfficeSessions i
    Rejection.piOfficeSessionDisposeBindingMismatch
  let o ← Tx.read (fun s => (s.rows .officeSessionBudgetReservations).find? (fun r =>
    r.rootAuthorityOfficeSessionId==i))
  let parent ← Tx.the o .piOfficeSessionDisposeBindingMismatch
  let o ← Tx.read (fun s => piBinding s (.rootAuthorityOfficeSession i))
  let b ← Tx.the o .piOfficeSessionDisposeBindingMismatch
  pure {b with session := session,budgetReservationId := parent.budgetReservationId}

def requirePiOfficeSessionDisposeAuthorizationGeneration (g : ExpectedGeneration)
    (i : RootAuthorityOfficeSessionId) : Transition W Unit := do
  let o ← Tx.read (fun s => (s.rows .piOfficeSessionDisposeAuthorizations).find? (fun r =>
    r.rootAuthorityOfficeSessionId==i))
  let a ← Tx.the o .piOfficeSessionDisposeBindingMismatch
  match g with
  | .exact n => Tx.require (n==a.authorizedGeneration) .staleAdmissionGeneration
  | .notApplicable => Tx.raise .invalidExpectedGeneration

def disposeDelivery (s : Store) (i : RootAuthorityOfficeSessionId) :
    Option PiOfficeSessionDisposeDeliveryRow :=
  (s.rows .piOfficeSessionDisposeDeliveries).find? (fun r => r.rootAuthorityOfficeSessionId==i)

def disposeAcceptance (s : Store) (i : RootAuthorityOfficeSessionId) :
    Option PiOfficeSessionDisposeAcceptanceRow :=
  (s.rows .piOfficeSessionDisposeAcceptances).find? (fun r => r.rootAuthorityOfficeSessionId==i)

/-- The latest usage of a session over its turns and its disposal. -/
def priorOfficeUsage (s : Store) (p : PiSessionId) :
    Option (PiProtocolSequence × PiCumulativeUsage) :=
  (((s.rows .piOfficeTurnUsageReceipts).filter (·.piSessionId==p)).map
      (fun r => (r.protocolSequence,r.usage)) ++
    ((s.rows .piOfficeSessionDisposeUsageReceipts).filter (·.piSessionId==p)).map
      (fun r => (r.protocolSequence,r.usage))).argmax (fun x => x.1.val)

end Lookups

def authorizePiOfficeSessionDispose (cmd : CommandRowId) (g : ExpectedGeneration)
    (i : RootAuthorityOfficeSessionId) (correlation : PiCorrelationIdentity) :
    Transition [.rootAuthorityOfficeSessions,.piOfficeSessionDisposeAuthorizations]
      EventBody := do
  let b ← piOfficeSessionDisposeBinding i
  let cycle ← cycleForGeneration b.session.operatingCycleId g
  let turnActive ← Tx.read (fun s => sessionHasActiveTurn s i)
  Tx.require (b.session.lifecycleState==.ready && cycle.lifecycleState==.quiescing &&
    b.child.lifecycleState==.running && b.protocol.lifecycleState==.sessionReady &&
    !turnActive) .piOfficeSessionDisposeBindingMismatch
  let used ← Tx.read (fun s =>
    (s.rows .piOfficeTurnPromptAuthorizations).any (fun r =>
      r.piSessionId==b.piSessionId && r.correlationIdentity==correlation.stored) ||
    (s.rows .piOfficeSessionDisposeAuthorizations).any (fun r =>
      r.piSessionId==b.piSessionId && r.correlationIdentity==correlation.stored))
  transitionSession cmd i .quiescing .piOfficeSessionDisposeBindingMismatch
  Tx.require (!used) .piOfficeSessionDisposeBindingMismatch
  let o ← Tx.read (fun s => sessionReservation s i)
  let r ← Tx.the o .piOfficeSessionDisposeBindingMismatch
  let latest ← Tx.read (fun s => latestOfficeUsage s b.piSessionId)
  let failed ← Tx.read (fun s =>
    (s.rows .piOfficeTurnUsageFailures).any (fun f => f.piSessionId==b.piSessionId))
  Tx.require (r.reservationState==.reserved &&
    (latest.map (·.cumulativeCeilingMicros)).getD .zero==r.chargedMicros && !failed)
    .piOfficeSessionDisposeBindingMismatch
  Tx.store Tbl.piOfficeSessionDisposeAuthorizations
    {rootAuthorityOfficeSessionId := i,nativeChildId := b.child.nativeChildId,
     piSessionId := b.piSessionId,correlationIdentity := correlation.stored,
     authorizedGeneration := cycle.admissionGeneration,authorizedByCommandId := cmd}
    .piOfficeSessionDisposeBindingMismatch
  pure (.piOfficeSessionDisposeAuthorized i b.child.nativeChildId correlation
    cycle.admissionGeneration)

def recordPiOfficeSessionDisposeDelivery (cmd : CommandRowId) (g : ExpectedGeneration)
    (i : RootAuthorityOfficeSessionId) (correlation : PiCorrelationIdentity) :
    Transition [.piOfficeSessionDisposeDeliveries] EventBody := do
  requirePiOfficeSessionDisposeAuthorizationGeneration g i
  let o ← Tx.read (fun s => (s.rows .piOfficeSessionDisposeAuthorizations).find? (fun r =>
    r.rootAuthorityOfficeSessionId==i))
  let a ← Tx.the o .piOfficeSessionDisposeBindingMismatch
  let session ← Tx.get Tbl.rootAuthorityOfficeSessions i
    Rejection.piOfficeSessionDisposeBindingMismatch
  let turnActive ← Tx.read (fun s => sessionHasActiveTurn s i)
  Tx.require (a.correlationIdentity==correlation.stored &&
    session.lifecycleState==.quiescing && !turnActive) .piOfficeSessionDisposeBindingMismatch
  Tx.store Tbl.piOfficeSessionDisposeDeliveries
    {rootAuthorityOfficeSessionId := i,nativeChildId := a.nativeChildId,
     piSessionId := a.piSessionId,correlationIdentity := correlation.stored,
     deliveredByCommandId := cmd} .piOfficeSessionDisposeBindingMismatch
  pure (.piOfficeSessionDisposeDelivered i a.nativeChildId correlation)

def recordPiOfficeSessionDisposeAccepted (cmd : CommandRowId) (g : ExpectedGeneration)
    (i : RootAuthorityOfficeSessionId) (correlation : PiCorrelationIdentity)
    (sequence : PiProtocolSequence) :
    Transition [.piOfficeSessionDisposeAcceptances] EventBody := do
  requirePiOfficeSessionDisposeAuthorizationGeneration g i
  let o ← Tx.read (fun s => disposeDelivery s i)
  let d ← Tx.the o .piOfficeSessionDisposeBindingMismatch
  let session ← Tx.get Tbl.rootAuthorityOfficeSessions i
    Rejection.piOfficeSessionDisposeBindingMismatch
  Tx.require (d.correlationIdentity==correlation.stored &&
    session.lifecycleState==.quiescing) .piOfficeSessionDisposeBindingMismatch
  let sequences ← Tx.read (fun s => piOfficeSessionSequences s d.piSessionId)
  Tx.require (beyond sequences sequence) .piOfficeSessionDisposeUsageNotMonotonic
  Tx.store Tbl.piOfficeSessionDisposeAcceptances
    {rootAuthorityOfficeSessionId := i,commandResultSequence := sequence,
     acceptedByCommandId := cmd} .piOfficeSessionDisposeBindingMismatch
  pure (.piOfficeSessionDisposeAccepted i correlation sequence)

def recordPiOfficeSessionDisposeUsage (cmd : CommandRowId) (g : ExpectedGeneration)
    (i : RootAuthorityOfficeSessionId) (correlation : PiCorrelationIdentity)
    (sequence : PiProtocolSequence) (usage : PiCumulativeUsage) :
    Transition [.piOfficeSessionDisposeUsageReceipts] EventBody := do
  requirePiOfficeSessionDisposeAuthorizationGeneration g i
  Tx.require usage.isInternallyConsistent .piOfficeSessionDisposeUsageNotMonotonic
  let o ← Tx.read (fun s => disposeDelivery s i)
  let d ← Tx.the o .piOfficeSessionDisposeBindingMismatch
  let o ← Tx.read (fun s => disposeAcceptance s i)
  let accepted ← Tx.the o .piOfficeSessionDisposeBindingMismatch
  let session ← Tx.get Tbl.rootAuthorityOfficeSessions i
    Rejection.piOfficeSessionDisposeBindingMismatch
  Tx.require (d.correlationIdentity==correlation.stored &&
    session.lifecycleState==.quiescing) .piOfficeSessionDisposeBindingMismatch
  let sequences ← Tx.read (fun s => piOfficeSessionSequences s d.piSessionId)
  Tx.require (accepted.commandResultSequence.val+1==sequence.val && beyond sequences sequence)
    .piOfficeSessionDisposeUsageNotMonotonic
  let prior ← Tx.read (fun s => priorOfficeUsage s d.piSessionId)
  Tx.require (prior.all (fun r => r.1.val < sequence.val && usage.covers r.2))
    .piOfficeSessionDisposeUsageNotMonotonic
  let o ← Tx.read (fun s => sessionReservation s i)
  let r ← Tx.the o .piOfficeSessionDisposeBindingMismatch
  Tx.require (r.chargedMicros.val≤usage.ceilingMicroUsd.val)
    .piOfficeSessionDisposeUsageNotMonotonic
  Tx.store Tbl.piOfficeSessionDisposeUsageReceipts
    {rootAuthorityOfficeSessionId := i,piSessionId := d.piSessionId,
     correlationIdentity := correlation.stored,protocolSequence := sequence,
     inputTokens := usage.inputTokens,outputTokens := usage.outputTokens,
     cacheReadTokens := usage.cacheReadTokens,cacheWriteTokens := usage.cacheWriteTokens,
     totalTokens := usage.totalTokens,providerCostBinary64 := usage.providerCost,
     cumulativeCeilingMicros := usage.ceilingMicroUsd,recordedByCommandId := cmd}
    .piOfficeSessionDisposeUsageNotMonotonic
  pure (.piOfficeSessionDisposeUsageRecorded i sequence usage.ceilingMicroUsd)

def recordPiOfficeSessionDisposeUsageFailure (cmd : CommandRowId) (g : ExpectedGeneration)
    (i : RootAuthorityOfficeSessionId) (correlation : PiCorrelationIdentity)
    (sequence : PiProtocolSequence) (failure : PiOfficeTurnUsageFailure) :
    Transition (.piOfficeSessionDisposeUsageFailures::freezeTables) EventBody := do
  requirePiOfficeSessionDisposeAuthorizationGeneration g i
  let o ← Tx.read (fun s => disposeDelivery s i)
  let d ← Tx.the o .piOfficeSessionDisposeBindingMismatch
  let o ← Tx.read (fun s => disposeAcceptance s i)
  let accepted ← Tx.the o .piOfficeSessionDisposeBindingMismatch
  let session ← Tx.get Tbl.rootAuthorityOfficeSessions i
    Rejection.piOfficeSessionDisposeBindingMismatch
  let o ← Tx.read (fun s => (s.rows .officeSessionBudgetReservations).find? (fun r =>
    r.rootAuthorityOfficeSessionId==i))
  let parent ← Tx.the o .piOfficeSessionDisposeBindingMismatch
  Tx.require (d.correlationIdentity==correlation.stored &&
    session.lifecycleState==.quiescing) .piOfficeSessionDisposeBindingMismatch
  let sequences ← Tx.read (fun s => piOfficeSessionSequences s d.piSessionId)
  Tx.require (accepted.commandResultSequence.val+1==sequence.val && beyond sequences sequence)
    .piOfficeSessionDisposeUsageNotMonotonic
  let (_,left) ← activeRemainder parent.budgetReservationId
  let f ← (freezeBudget cmd parent.budgetReservationId session.operatingCycleId left
    (piOfficeTurnUsageFailureFreezeReason failure)).widen (by decide)
  Tx.store Tbl.piOfficeSessionDisposeUsageFailures
    {rootAuthorityOfficeSessionId := i,piSessionId := d.piSessionId,
     correlationIdentity := correlation.stored,protocolSequence := sequence,failure := failure,
     budgetReservationId := parent.budgetReservationId,
     cancellationRequestId := f.cancellationRequestId,costPostmortemId := f.postmortemId,
     recordedByCommandId := cmd} .piOfficeSessionDisposeBindingMismatch
  pure (.piOfficeSessionDisposeUsageFrozen i parent.budgetReservationId
    f.cancellationRequestId f.postmortemId failure)

/-- Releases every charge of a session's reservation and zeroes its charge rows. -/
def disposeCharges (reservation : BudgetReservationId) (delta : UsdMicros) :
    Transition [.budgetEnvelopes,.budgetReservationCharges] Unit := do
  let charges ← Tx.read (fun s => chargesOf s reservation)
  Tx.each (fun ch => do
    Tx.require (delta.val ≤ ch.amountMicros.val) .piOfficeSessionDisposeUsageNotMonotonic
    settleEnvelope ch.budgetEnvelopeId ch.amountMicros delta envelopes_written
    let _ ← Tx.update Tbl.budgetReservationCharges (fun r =>
        r.budgetReservationId==reservation && r.budgetEnvelopeId==ch.budgetEnvelopeId)
      (fun r => {r with amountMicros := .zero}) .reservationNotActive charges_written) charges

/-- The transcript must be the sealed content, and its first prompt the first authorized. -/
def PiOfficeSessionTranscriptReceipt.valid (s : Store) (p : PiSessionId) :
    PiOfficeSessionTranscriptReceipt → Bool
  | .materialized _ digest content first =>
    contentDigest s content==some digest &&
      (match firstPrompt,first with
        | none,.absent => true
        | some a,.verified b => a==b
        | _,_ => false)
  | .unmaterializedNoPrompt _ => firstPrompt.isNone
where
  firstPrompt : Option Blake3Digest :=
    ((s.rows .piOfficeTurnPromptAuthorizations).find? (fun r => r.piSessionId==p)).map
      (·.promptDigest)

def PiOfficeSessionDisposeBudgetDisposition.columns :
    PiOfficeSessionDisposeBudgetDisposition → Option (CancellationRequestId × CostPostmortemId)
  | .reconciled _ => none
  | .frozen i j => some (i,j)

/-- Settles the session's reservation; on an overrun it is frozen and the session cancelled. -/
def reconcileOfficeSessionReservation (cmd : CommandRowId) (reservation : BudgetReservationId)
    (c : OperatingCycleId) (observed : UsdMicros) :
    Transition ([.budgetEnvelopes,.budgetReservationCharges]++freezeTables)
      (PiOfficeSessionDisposeBudgetDisposition × OfficeSessionState) := do
  let r ← Tx.get Tbl.budgetReservations reservation Rejection.reservationNotActive
  Tx.require (r.reservationState==.reserved) .piOfficeSessionDisposeUsageNotMonotonic
  let left ← Tx.the (r.amountMicros.checkedSub r.chargedMicros)
    .piOfficeSessionDisposeUsageNotMonotonic
  let delta ← Tx.the (observed.checkedSub r.chargedMicros)
    .piOfficeSessionDisposeUsageNotMonotonic
  if observed.val ≤ r.amountMicros.val then do
    (disposeCharges reservation delta).widen (by decide)
    markReconciled cmd reservation observed .reservationNotActive
    pure (.reconciled observed,.closed)
  else do
    let f ← (freezeBudget cmd reservation c left (.knownOverrun observed left)).widen (by decide)
    pure (.frozen f.cancellationRequestId f.postmortemId,.cancelled)

def recordPiOfficeSessionDisposed (cmd : CommandRowId) (g : ExpectedGeneration)
    (i : RootAuthorityOfficeSessionId) (correlation : PiCorrelationIdentity)
    (disposed : PiProtocolSequence) (transcript : PiOfficeSessionTranscriptReceipt) :
    Transition ([.piOfficeSessionDisposeReceipts,.rootAuthorityOfficeSessions,.budgetEnvelopes,
      .budgetReservationCharges]++freezeTables) EventBody := do
  requirePiOfficeSessionDisposeAuthorizationGeneration g i
  let o ← Tx.read (fun s => do
    let d ← disposeDelivery s i
    let a ← disposeAcceptance s i
    let u ← (s.rows .piOfficeSessionDisposeUsageReceipts).find? (fun r =>
      r.rootAuthorityOfficeSessionId==i)
    let session ← s.find .rootAuthorityOfficeSessions i
    let parent ← (s.rows .officeSessionBudgetReservations).find? (fun r =>
      r.rootAuthorityOfficeSessionId==i)
    some (d,a,u,session,parent))
  let (d,a,u,session,parent) ← Tx.the o .piOfficeSessionDisposeReceiptMissing
  Tx.require (d.correlationIdentity==correlation.stored &&
    session.lifecycleState==.quiescing) .piOfficeSessionDisposeBindingMismatch
  let sequences ← Tx.read (fun s => piOfficeSessionSequences s d.piSessionId)
  let turnActive ← Tx.read (fun s => sessionHasActiveTurn s i)
  Tx.require (a.commandResultSequence.val+1==u.protocolSequence.val &&
    u.protocolSequence.val+1==disposed.val && beyond sequences disposed && !turnActive)
    .piOfficeSessionDisposeUsageNotMonotonic
  let valid ← Tx.read (fun s => transcript.valid s d.piSessionId)
  Tx.require valid .piOfficeSessionDisposeReceiptMissing
  let observed := u.cumulativeCeilingMicros
  let (disposition,next) ← (reconcileOfficeSessionReservation cmd parent.budgetReservationId
    session.operatingCycleId observed).widen (by decide)
  let receipt ← Tx.insert Tbl.piOfficeSessionDisposeReceipts (fun p =>
    {piOfficeSessionDisposeReceiptId := p,rootAuthorityOfficeSessionId := i,
     nativeChildId := d.nativeChildId,piSessionId := d.piSessionId,
     correlationIdentity := correlation.stored,disposedSequence := disposed,
     transcriptReceipt := transcript,frozen := disposition.columns,
     recordedByCommandId := cmd}) .piOfficeSessionDisposeReceiptMissing
  transitionSession cmd i next .piOfficeSessionDisposeReceiptMissing
  pure (.piOfficeSessionDisposed receipt i parent.budgetReservationId observed disposition)

end Society.Kernel
