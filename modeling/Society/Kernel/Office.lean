import Society.Kernel.Pi

namespace Society.Kernel
open Society.Relational

/-! Root Authority office sessions, their turns, and the Pi protocol of a session. -/

section Sessions
variable {W : List Tbl}

def transitionSession (cmd : CommandRowId) (i : RootAuthorityOfficeSessionId)
    (state : OfficeSessionState) (e : Rejection)
    (hw : .rootAuthorityOfficeSessions ∈ W := by decide) : Transition W Unit := do
  let _ ← Tx.update Tbl.rootAuthorityOfficeSessions (fun r => r.rootAuthorityOfficeSessionId==i)
    (fun r => {r with lifecycleState := state,lastTransitionCommandId := cmd}) e hw

def officeAdmission (s : Store) (i : RootAuthorityOfficeSessionId) :
    Option NativeChildSpawnAdmissionRow := admissionOfOwner s (.rootAuthorityOfficeSession i)

/-- The admitted child runs and its Pi session is ready. -/
def admissionIsOperational (s : Store) (i : NativeChildSpawnAdmissionId) : Bool :=
  (childOfAdmission s i).any (fun c => childIsOperational s c.nativeChildId)

def sessionReservation (s : Store) (i : RootAuthorityOfficeSessionId) :
    Option BudgetReservationRow := do
  let o ← (s.rows .officeSessionBudgetReservations).find? (fun r =>
    r.rootAuthorityOfficeSessionId==i)
  s.find .budgetReservations o.budgetReservationId

end Sessions

def recordOfficeSessionReady (cmd : CommandRowId) (g : ExpectedGeneration)
    (i : RootAuthorityOfficeSessionId) :
    Transition [.rootAuthorityOfficeSessions] EventBody := do
  let session ← sessionRow i
  let cycle ← cycleForGeneration session.operatingCycleId g
  Tx.require (session.lifecycleState==.reserved && cycle.lifecycleState==.running)
    .invalidLifecycleTransition
  let o ← Tx.read (fun s => officeAdmission s i)
  let admission ← Tx.the o .childLifecycleReceiptMissing
  let ready ← Tx.read (fun s => admissionIsOperational s admission.nativeChildSpawnAdmissionId)
  Tx.require ready .childLifecycleReceiptMissing
  transitionSession cmd i .ready .subjectNotFound
  pure (.rootAuthorityOfficeSessionStateChanged i .ready)

/-- The state that a terminal report leads to, if the session and its cycle allow it. -/
def terminalSessionState (t : OfficeSessionTerminalState) (session : OfficeSessionState)
    (cycle : OperatingCycleState) : Option OfficeSessionState :=
  match t with
  | .closed => if session=.ready ∧ cycle=.reconciling then some .closed else none
  | .cancelled =>
    if (session=.reserved ∨ session=.ready) ∧ cycle=.cancelling then some .cancelled else none
  | .failed => if session.isLive ∧ cycle.isNonterminal then some .failed else none

def recordOfficeSessionTerminal (cmd : CommandRowId) (g : ExpectedGeneration)
    (i : RootAuthorityOfficeSessionId) (terminal : OfficeSessionTerminalState) :
    Transition [.rootAuthorityOfficeSessions] EventBody := do
  let session ← sessionRow i
  let cycle ← cycleForGeneration session.operatingCycleId g
  let turnActive ← Tx.read (fun s => sessionHasActiveTurn s i)
  Tx.require (!turnActive) .invalidLifecycleTransition
  let admission ← Tx.read (fun s => officeAdmission s i)
  Tx.require admission.isNone .supervisedTerminalReceiptRequired
  let next ← Tx.the (terminalSessionState terminal session.lifecycleState cycle.lifecycleState)
    .invalidLifecycleTransition
  transitionSession cmd i next .subjectNotFound
  pure (.rootAuthorityOfficeSessionStateChanged i next)

def OfficeTurnPurpose.admittedIn (p : OfficeTurnPurpose) (state : OperatingCycleState) : Bool :=
  match p with
  | .ordinaryWork => state.admitsTaskWork
  | _ => state==.quiescing || state==.drained || state==.reconciling

def openOfficeTurn (cmd : CommandRowId) (g : ExpectedGeneration)
    (i : RootAuthorityOfficeSessionId) (purpose : OfficeTurnPurpose) :
    Transition [.rootAuthorityOfficeSessions,.officeTurns] EventBody := do
  let session ← sessionRow i
  let cycle ← cycleForGeneration session.operatingCycleId g
  let o ← Tx.read (fun s => officeAdmission s i)
  let admission ← Tx.the o .childLifecycleReceiptMissing
  let operational ← Tx.read (fun s =>
    admissionIsOperational s admission.nativeChildSpawnAdmissionId)
  Tx.require operational .invalidLifecycleTransition
  Tx.require (session.lifecycleState==.ready && purpose.admittedIn cycle.lifecycleState)
    .invalidLifecycleTransition
  transitionSession cmd i .turnActive .subjectNotFound
  let turn ← Tx.insert Tbl.officeTurns (fun t =>
    {officeTurnId := t,rootAuthorityOfficeSessionId := i,lifecycleState := .active,
     purpose := purpose,openedByCommandId := cmd,settledByCommandId := none})
    .sessionTurnAlreadyActive
  pure (.officeTurnOpened turn i purpose)

section Lookups
variable {W : List Tbl}

def piOfficeTurnHasTerminalReceipt (s : Store) (i : OfficeTurnId) : Bool :=
  (s.rows .piOfficeTurnTerminalReceipts).any (fun r => r.officeTurnId==i)

/-- Every sequence number recorded for an office session. -/
def piOfficeSessionSequences (s : Store) (p : PiSessionId) : List Nat :=
  ((s.rows .piOfficeTurnPromptAcceptances).filter (fun r =>
      (s.find .piOfficeTurnPromptAuthorizations r.piOfficeTurnPromptAuthorizationId).any
        (·.piSessionId==p))).map (·.commandResultSequence.val) ++
    ((s.rows .piOfficeTurnUsageReceipts).filter (·.piSessionId==p)).map (·.protocolSequence.val) ++
    ((s.rows .piOfficeTurnUsageFailures).filter (·.piSessionId==p)).map (·.protocolSequence.val) ++
    ((s.rows .piOfficeTurnTerminalReceipts).filter (·.piSessionId==p)).flatMap (fun r =>
      r.terminalEvidence.agentSettledSequence.toList.map (·.val) ++
        [r.terminalEvidence.finalAccountingSequence.val,r.settledSequence.val]) ++
    ((s.rows .piOfficeSessionDisposeAcceptances).filter (fun r =>
      (s.rows .piOfficeSessionDisposeDeliveries).any (fun d =>
        d.rootAuthorityOfficeSessionId==r.rootAuthorityOfficeSessionId &&
          d.piSessionId==p))).map (·.commandResultSequence.val) ++
    ((s.rows .piOfficeSessionDisposeUsageReceipts).filter (·.piSessionId==p)).map
      (·.protocolSequence.val) ++
    ((s.rows .piOfficeSessionDisposeUsageFailures).filter (·.piSessionId==p)).map
      (·.protocolSequence.val) ++
    ((s.rows .piOfficeSessionDisposeReceipts).filter (·.piSessionId==p)).map
      (·.disposedSequence.val)

/-- The prompt authorization of a turn with its acceptance. -/
def acceptedOfficePrompt (s : Store) (i : OfficeTurnId) (correlation : PiCorrelationIdentity) :
    Option (PiOfficeTurnPromptAuthorizationRow × PiOfficeTurnPromptAcceptanceRow) := do
  let a ← (s.rows .piOfficeTurnPromptAuthorizations).find? (fun r =>
    r.officeTurnId==i && r.correlationIdentity==correlation.stored)
  let b ← (s.rows .piOfficeTurnPromptAcceptances).find? (fun r =>
    r.piOfficeTurnPromptAuthorizationId==a.piOfficeTurnPromptAuthorizationId)
  some (a,b)

def cycleOfTurn (s : Store) (i : OfficeTurnId) : Option OperatingCycleId := do
  let t ← s.find .officeTurns i
  cycleOfSession s t.rootAuthorityOfficeSessionId

def piOfficeTurnUsageFailureFreezeReason : PiOfficeTurnUsageFailure → BudgetFreezeReason
  | .unknown .missingFinalUsageSnapshot => .unknown .providerDidNotReport
  | .unknown .boundaryStreamInterrupted => .unknown .adapterStreamInterrupted
  | .unknown .terminalEvidenceMissing => .unknown .reconciliationMismatch
  | .unavailable _ => .unavailable .adapterAccountingUnavailable

def latestOfficeUsage (s : Store) (p : PiSessionId) : Option PiOfficeTurnUsageReceiptRow :=
  ((s.rows .piOfficeTurnUsageReceipts).filter (·.piSessionId==p)).argmax (·.protocolSequence.val)

end Lookups

def authorizePiOfficeTurnPrompt (cmd : CommandRowId) (g : ExpectedGeneration) (i : OfficeTurnId)
    (correlation : PiCorrelationIdentity) (content : ContentObjectId) (digest : Blake3Digest)
    (frontier : EventId) :
    Transition [.officeTurnBudgetCheckpoints,.piOfficeTurnPromptAuthorizations] EventBody := do
  let turn ← Tx.get Tbl.officeTurns i Rejection.piOfficeTurnAuthorityMissing
  let session ← Tx.get Tbl.rootAuthorityOfficeSessions turn.rootAuthorityOfficeSessionId
    Rejection.piOfficeTurnAuthorityMissing
  let o ← Tx.read (fun s => piBinding s
    (.rootAuthorityOfficeSession turn.rootAuthorityOfficeSessionId))
  let b ← Tx.the o .piOfficeTurnAuthorityMissing
  let bound ← Tx.the b.admission.budgetReservationId .piOfficeTurnAuthorityMissing
  let c := session.operatingCycleId
  let cycle ← cycleForGeneration c g
  let cancelling ← Tx.read (fun s => activeCancellationForCycle s c)
  Tx.require (turn.lifecycleState==.active && turn.purpose==.ordinaryWork &&
    session.lifecycleState==.turnActive && cycle.lifecycleState==.running &&
    cycle.treatment==.deterministicPiHostFixtureV1 && b.child.lifecycleState==.running &&
    b.protocol.lifecycleState==.sessionReady && cancelling.isNone)
    .piOfficeTurnTreatmentIneligible
  let profile ← Tx.get Tbl.executionProfiles b.admission.executionProfileId
    Rejection.executionProfileIneligible
  Tx.require (profile.profileKind==.deterministicPiHostProcessDoubleV1 &&
    profile.readiness==.deterministicFixtureOnly) .executionProfileIneligible
  let o ← Tx.read (fun s => sessionReservation s turn.rootAuthorityOfficeSessionId)
  let r ← Tx.the o .piOfficeTurnAuthorityMissing
  Tx.require (r.budgetReservationId==bound && r.reservationState==.reserved &&
    r.chargedMicros.val ≤ r.amountMicros.val) .reservationNotActive
  let latest ← Tx.read (fun s => maxMicros
    (((s.rows .piOfficeTurnUsageReceipts).filter (·.piSessionId==b.piSessionId)).map
      (·.cumulativeCeilingMicros)))
  Tx.require (latest==r.chargedMicros.val) .piOfficeTurnUsageNotMonotonic
  let current ← Tx.read currentFrontier
  Tx.require (current==some frontier) .staleAdmissionGeneration
  let sealed ← Tx.read (fun s => contentDigest s content)
  Tx.require (sealed==some digest) .piOfficeTurnPromptBindingMismatch
  Tx.store Tbl.officeTurnBudgetCheckpoints
    {officeTurnId := i,rootAuthorityOfficeSessionId := turn.rootAuthorityOfficeSessionId,
     budgetReservationId := bound,baselineCumulativeMicros := r.chargedMicros,
     authorizedByCommandId := cmd,settledCumulativeMicros := none,settledByCommandId := none}
    .piOfficeTurnAuthorityMissing
  let a ← Tx.insert Tbl.piOfficeTurnPromptAuthorizations (fun a =>
    {piOfficeTurnPromptAuthorizationId := a,officeTurnId := i,
     nativeChildId := b.child.nativeChildId,piSessionId := b.piSessionId,
     budgetReservationId := bound,correlationIdentity := correlation.stored,
     promptContentObjectId := content,promptDigest := digest,frontierEventId := frontier,
     admissionGeneration := cycle.admissionGeneration,officeTurnPurpose := turn.purpose,
     authorizedByCommandId := cmd}) .piOfficeTurnAuthorityMissing
  pure (.piOfficeTurnPromptAuthorized a i b.child.nativeChildId correlation bound)

def recordPiOfficeTurnPromptDelivery (cmd : CommandRowId) (i : OfficeTurnId)
    (correlation : PiCorrelationIdentity) (digest : Blake3Digest) :
    Transition [.piOfficeTurnPromptDeliveries] EventBody := do
  let o ← Tx.read (fun s => (s.rows .piOfficeTurnPromptAuthorizations).find? (fun r =>
    r.officeTurnId==i && r.correlationIdentity==correlation.stored && r.promptDigest==digest))
  let a ← Tx.the o .piOfficeTurnPromptBindingMismatch
  Tx.store Tbl.piOfficeTurnPromptDeliveries
    {officeTurnId := i,piOfficeTurnPromptAuthorizationId := a.piOfficeTurnPromptAuthorizationId,
     correlationIdentity := correlation.stored,promptDigest := digest,
     deliveredByCommandId := cmd} .piOfficeTurnPromptBindingMismatch
  pure (.piOfficeTurnPromptDelivered i correlation)

def recordPiOfficeTurnPromptAccepted (cmd : CommandRowId) (i : OfficeTurnId)
    (correlation : PiCorrelationIdentity) (sequence : PiProtocolSequence) :
    Transition [.piOfficeTurnPromptAcceptances] EventBody := do
  let o ← Tx.read (fun s => do
    let d ← (s.rows .piOfficeTurnPromptDeliveries).find? (fun r => r.officeTurnId==i)
    let a ← s.find .piOfficeTurnPromptAuthorizations d.piOfficeTurnPromptAuthorizationId
    if a.correlationIdentity==correlation.stored then some a else none)
  let a ← Tx.the o .piOfficeTurnPromptBindingMismatch
  let sequences ← Tx.read (fun s => piOfficeSessionSequences s a.piSessionId)
  Tx.require (beyond sequences sequence) .piOfficeTurnUsageNotMonotonic
  Tx.store Tbl.piOfficeTurnPromptAcceptances
    {officeTurnId := i,piOfficeTurnPromptAuthorizationId := a.piOfficeTurnPromptAuthorizationId,
     commandResultSequence := sequence,acceptedByCommandId := cmd}
    .piOfficeTurnPromptBindingMismatch
  pure (.piOfficeTurnPromptAccepted i correlation sequence)

def recordPiOfficeTurnUsage (cmd : CommandRowId) (i : OfficeTurnId)
    (correlation : PiCorrelationIdentity) (sequence : PiProtocolSequence)
    (usage : PiCumulativeUsage) : Transition [.piOfficeTurnUsageReceipts] EventBody := do
  let terminal ← Tx.read (fun s => piOfficeTurnHasTerminalReceipt s i)
  Tx.require (!terminal) .piOfficeTurnTerminalAlreadyRecorded
  Tx.require usage.isInternallyConsistent .piOfficeTurnUsageNotMonotonic
  let o ← Tx.read (fun s => acceptedOfficePrompt s i correlation)
  let (a,accepted) ← Tx.the o .piOfficeTurnPromptBindingMismatch
  let sequences ← Tx.read (fun s => piOfficeSessionSequences s a.piSessionId)
  Tx.require (accepted.commandResultSequence.val < sequence.val && beyond sequences sequence)
    .piOfficeTurnUsageNotMonotonic
  let frozen ← Tx.read (fun s =>
    (s.rows .piOfficeTurnUsageFailures).any (fun r => r.piSessionId==a.piSessionId))
  Tx.require (!frozen) .piOfficeTurnUsageAlreadyFrozen
  let prior ← Tx.read (fun s => latestOfficeUsage s a.piSessionId)
  Tx.require (prior.all (fun r => r.protocolSequence.val < sequence.val && usage.covers r.usage))
    .piOfficeTurnUsageNotMonotonic
  let r ← Tx.insert Tbl.piOfficeTurnUsageReceipts (fun r =>
    {piOfficeTurnUsageReceiptId := r,officeTurnId := i,
     piOfficeTurnPromptAuthorizationId := a.piOfficeTurnPromptAuthorizationId,
     piSessionId := a.piSessionId,correlationIdentity := correlation.stored,
     protocolSequence := sequence,inputTokens := usage.inputTokens,
     outputTokens := usage.outputTokens,cacheReadTokens := usage.cacheReadTokens,
     cacheWriteTokens := usage.cacheWriteTokens,totalTokens := usage.totalTokens,
     providerCostBinary64 := usage.providerCost,
     cumulativeCeilingMicros := usage.ceilingMicroUsd,recordedByCommandId := cmd})
    .piOfficeTurnUsageNotMonotonic
  pure (.piOfficeTurnUsageRecorded r i sequence usage.ceilingMicroUsd)

def recordPiOfficeTurnUsageFailure (cmd : CommandRowId) (i : OfficeTurnId)
    (correlation : PiCorrelationIdentity) (sequence : PiProtocolSequence)
    (failure : PiOfficeTurnUsageFailure) :
    Transition (.piOfficeTurnUsageFailures::freezeTables) EventBody := do
  let terminal ← Tx.read (fun s => piOfficeTurnHasTerminalReceipt s i)
  Tx.require (!terminal) .piOfficeTurnTerminalAlreadyRecorded
  let o ← Tx.read (fun s => acceptedOfficePrompt s i correlation)
  let (a,accepted) ← Tx.the o .piOfficeTurnPromptBindingMismatch
  let o ← Tx.read (fun s => cycleOfTurn s i)
  let c ← Tx.the o .piOfficeTurnPromptBindingMismatch
  let sequences ← Tx.read (fun s => piOfficeSessionSequences s a.piSessionId)
  Tx.require (accepted.commandResultSequence.val < sequence.val && beyond sequences sequence)
    .piOfficeTurnUsageNotMonotonic
  let (_,left) ← activeRemainder a.budgetReservationId
  let f ← (freezeBudget cmd a.budgetReservationId c left
    (piOfficeTurnUsageFailureFreezeReason failure)).widen (by decide)
  let _ ← Tx.insert Tbl.piOfficeTurnUsageFailures (fun r =>
    {piOfficeTurnUsageFailureId := r,officeTurnId := i,
     piOfficeTurnPromptAuthorizationId := a.piOfficeTurnPromptAuthorizationId,
     piSessionId := a.piSessionId,correlationIdentity := correlation.stored,
     protocolSequence := sequence,failure := failure,
     budgetReservationId := a.budgetReservationId,
     cancellationRequestId := f.cancellationRequestId,costPostmortemId := f.postmortemId,
     recordedByCommandId := cmd}) .piOfficeTurnAuthorityMissing
  pure (.piOfficeTurnUsageFrozen i a.budgetReservationId f.cancellationRequestId
    f.postmortemId failure)

def recordPiOfficeTurnTerminal (cmd : CommandRowId) (i : OfficeTurnId)
    (correlation : PiCorrelationIdentity) (evidence : PiOfficeTurnTerminalEvidence)
    (settled : PiProtocolSequence) (disposition : PiOfficeTurnDisposition)
    (outcome : PiOfficeTurnAssistantOutcome)
    (transcript : PiOfficeTurnTranscriptDisposition) :
    Transition [.piOfficeTurnTerminalReceipts] EventBody := do
  let final := evidence.finalAccountingSequence
  Tx.require (disposition.accepts outcome && evidence.accepts outcome &&
    final.val+1==settled.val) .piOfficeTurnTerminalEvidenceMissing
  let o ← Tx.read (fun s => acceptedOfficePrompt s i correlation)
  let (a,accepted) ← Tx.the o .piOfficeTurnTerminalEvidenceMissing
  let o ← Tx.read (fun s => cycleOfTurn s i)
  let c ← Tx.the o .piOfficeTurnTerminalEvidenceMissing
  let first := evidence.agentSettledSequence.getD final
  let prior ← Tx.read (fun s =>
    ((s.rows .piOfficeTurnTerminalReceipts).filter (fun r =>
      r.piSessionId==a.piSessionId && r.officeTurnId≠i)).map (·.settledSequence.val))
  Tx.require (accepted.commandResultSequence.val<first.val && beyond prior first)
    .piOfficeTurnTerminalEvidenceMissing
  let usage ← Tx.read (fun s => (s.rows .piOfficeTurnUsageReceipts).find? (fun r =>
    r.officeTurnId==i &&
      r.piOfficeTurnPromptAuthorizationId==a.piOfficeTurnPromptAuthorizationId &&
      r.correlationIdentity==correlation.stored && r.protocolSequence==final))
  let failure ← Tx.read (fun s => (s.rows .piOfficeTurnUsageFailures).find? (fun r =>
    r.officeTurnId==i &&
      r.piOfficeTurnPromptAuthorizationId==a.piOfficeTurnPromptAuthorizationId &&
      r.correlationIdentity==correlation.stored && r.protocolSequence==final))
  Tx.require (usage.isSome≠failure.isSome &&
    (evidence.agentSettledSequence.isSome || usage.isSome)) .piOfficeTurnTerminalEvidenceMissing
  let cycle ← cycleRow c
  Tx.require (!(disposition==.aborted && cycle.lifecycleState==.running))
    .piOfficeTurnTerminalEvidenceMissing
  let r ← Tx.insert Tbl.piOfficeTurnTerminalReceipts (fun r =>
    {piOfficeTurnTerminalReceiptId := r,officeTurnId := i,
     piOfficeTurnPromptAuthorizationId := a.piOfficeTurnPromptAuthorizationId,
     nativeChildId := a.nativeChildId,piSessionId := a.piSessionId,
     correlationIdentity := correlation.stored,terminalEvidence := evidence,
     settledSequence := settled,
     finalUsageReceiptId := usage.map (·.piOfficeTurnUsageReceiptId),
     finalUsageFailureId := failure.map (·.piOfficeTurnUsageFailureId),
     disposition := disposition,assistantOutcome := outcome,
     transcriptDisposition := transcript,recordedByCommandId := cmd})
    .piOfficeTurnTerminalEvidenceMissing
  pure (.piOfficeTurnTerminalRecorded r i disposition outcome)

section Charges
variable {W : List Tbl}

def BudgetReservationChargeRow.less (r : BudgetReservationChargeRow) (delta : UsdMicros) :
    Option BudgetReservationChargeRow := do
  let left ← r.amountMicros.checkedSub delta
  some {r with amountMicros := left}

theorem BudgetReservationChargeRow.less_eq_some {r r' : BudgetReservationChargeRow}
    {a : UsdMicros} : r.less a=some r' ↔
      ∃ x,r.amountMicros.checkedSub a=some x ∧ r'={r with amountMicros := x} := by
  simp only [less,Option.bind_eq_bind,Option.bind_eq_some_iff,Option.some.injEq]
  constructor
  · rintro ⟨x,hx,rfl⟩; exact ⟨x,hx,rfl⟩
  · rintro ⟨x,hx,rfl⟩; exact ⟨x,hx,rfl⟩

theorem BudgetReservationChargeRow.less_key {r r' : BudgetReservationChargeRow} {a : UsdMicros}
    (h : r.less a=some r') : r'.budgetReservationChargeId=r.budgetReservationChargeId := by
  obtain ⟨x,_,rfl⟩ := less_eq_some.mp h
  rfl

theorem envelopes_written :
    Tbl.budgetEnvelopes ∈ [Tbl.budgetEnvelopes,.budgetReservationCharges] := by decide

theorem charges_written :
    Tbl.budgetReservationCharges ∈ [Tbl.budgetEnvelopes,.budgetReservationCharges] := by decide

/-- Moves `delta` from reserved to spent on every envelope and charge of a reservation. -/
def drawCharges (reservation : BudgetReservationId) (delta : UsdMicros) :
    Transition [.budgetEnvelopes,.budgetReservationCharges] Unit := do
  let charges ← Tx.read (fun s => chargesOf s reservation)
  Tx.each (fun ch => do
    Tx.require (delta.val ≤ ch.amountMicros.val) .piOfficeTurnUsageNotMonotonic
    settleEnvelope ch.budgetEnvelopeId delta delta envelopes_written
    let _ ← Tx.updateM Tbl.budgetReservationCharges (fun r =>
        r.budgetReservationId==reservation && r.budgetEnvelopeId==ch.budgetEnvelopeId)
      (fun r => r.less delta) .reservationNotActive charges_written
      (id fun _ _ h => congrArg Id.val (BudgetReservationChargeRow.less_key h))) charges

def BudgetReservationRow.charging (r : BudgetReservationRow) (delta : UsdMicros) :
    Option BudgetReservationRow := do
  let charged ← r.chargedMicros.checkedAdd delta
  some {r with chargedMicros := charged}

theorem BudgetReservationRow.charging_eq_some {r r' : BudgetReservationRow} {a : UsdMicros} :
    r.charging a=some r' ↔
      ∃ x,r.chargedMicros.checkedAdd a=some x ∧ r'={r with chargedMicros := x} := by
  simp only [charging,Option.bind_eq_bind,Option.bind_eq_some_iff,Option.some.injEq]
  constructor
  · rintro ⟨x,hx,rfl⟩; exact ⟨x,hx,rfl⟩
  · rintro ⟨x,hx,rfl⟩; exact ⟨x,hx,rfl⟩

theorem BudgetReservationRow.charging_key {r r' : BudgetReservationRow} {a : UsdMicros}
    (h : r.charging a=some r') : r'.budgetReservationId=r.budgetReservationId := by
  obtain ⟨x,_,rfl⟩ := charging_eq_some.mp h
  rfl

end Charges

def settleOfficeTurn (cmd : CommandRowId) (i : OfficeTurnId)
    (receipt : PiOfficeTurnTerminalReceiptId) :
    Transition ([.budgetEnvelopes,.budgetReservationCharges,.officeTurnBudgetCheckpoints,
      .officeTurns,.rootAuthorityOfficeSessions]++freezeTables) EventBody := do
  let o ← Tx.read (fun s => do
    let turn ← s.find .officeTurns i
    let terminal ← (s.rows .piOfficeTurnTerminalReceipts).find? (fun r =>
      r.officeTurnId==i && r.piOfficeTurnTerminalReceiptId==receipt)
    let checkpoint ← (s.rows .officeTurnBudgetCheckpoints).find? (fun r => r.officeTurnId==i)
    let final ← terminal.finalUsageReceiptId
    let usage ← s.find .piOfficeTurnUsageReceipts final
    some (turn,terminal,checkpoint,usage))
  let (turn,terminal,checkpoint,usage) ← Tx.the o .piOfficeTurnTerminalEvidenceMissing
  Tx.require (turn.lifecycleState==.active && terminal.disposition==.completed &&
    terminal.assistantOutcome==.observedStop) .piOfficeTurnNotReconciled
  let i' := turn.rootAuthorityOfficeSessionId
  let o ← Tx.read (fun s => do
    let session ← s.find .rootAuthorityOfficeSessions i'
    let cycle ← s.find .operatingCycles session.operatingCycleId
    let a ← (s.rows .piOfficeTurnPromptAuthorizations).find? (fun r => r.officeTurnId==i)
    some (session,cycle,a))
  let (session,cycle,a) ← Tx.the o .piOfficeTurnNotReconciled
  let cancelling ← Tx.read (fun s => activeCancellationCount s session.operatingCycleId)
  Tx.require (session.lifecycleState==.turnActive && cycle.lifecycleState==.running &&
    cycle.admissionGeneration==a.admissionGeneration && cancelling==0)
    .piOfficeTurnNotReconciled
  let live ← Tx.read (fun s => childIsOperational s terminal.nativeChildId)
  Tx.require live .childLifecycleReceiptMissing
  let reservation := checkpoint.budgetReservationId
  let r ← Tx.get Tbl.budgetReservations reservation Rejection.reservationNotActive
  let observed := usage.cumulativeCeilingMicros
  Tx.require (r.reservationState==.reserved) .piOfficeTurnUsageNotMonotonic
  let left ← Tx.the (r.amountMicros.checkedSub r.chargedMicros) .piOfficeTurnUsageNotMonotonic
  let delta ← Tx.the (observed.checkedSub r.chargedMicros) .piOfficeTurnUsageNotMonotonic
  Tx.require (checkpoint.baselineCumulativeMicros==r.chargedMicros)
    .piOfficeTurnUsageNotMonotonic
  if observed.val ≤ r.amountMicros.val then do
    (drawCharges reservation delta).widen (by decide)
    let _ ← Tx.updateM Tbl.budgetReservations (fun q => q.budgetReservationId==reservation)
      (fun q => q.charging delta) .reservationNotActive (by decide)
      (id fun _ _ h => congrArg Id.val (BudgetReservationRow.charging_key h))
    let _ ← Tx.update Tbl.officeTurnBudgetCheckpoints
      (fun q => q.officeTurnId==i && q.settledCumulativeMicros.isNone)
      (fun q => {q with settledCumulativeMicros := some observed,settledByCommandId := some cmd})
      .piOfficeTurnNotReconciled
    let _ ← Tx.update Tbl.officeTurns (fun q => q.officeTurnId==i)
      (fun q => {q with lifecycleState := .settled,settledByCommandId := some cmd})
      .subjectNotFound
    transitionSession cmd i' .ready .subjectNotFound
    pure (.officeTurnSettled i i' delta)
  else
    (freezeBudgetAdmission cmd reservation r.operatingCycleId left
      (.knownOverrun observed left)).widen (by decide)

end Society.Kernel
