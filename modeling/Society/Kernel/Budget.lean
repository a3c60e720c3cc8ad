import Mathlib.Data.List.Sort
import Society.Kernel.Queries

namespace Society.Kernel
open Society.Relational

/-! Budget reservations, their charges on the two envelopes, and cost postmortems. -/

section Envelopes
variable {W : List Tbl}

/-- `reserved - released` and `spent + charged`, both checked. -/
def BudgetEnvelopeRow.settled (r : BudgetEnvelopeRow) (released charged : UsdMicros) :
    Option BudgetEnvelopeRow := do
  let reserved ← r.reservedMicros.checkedSub released
  let spent ← r.spentMicros.checkedAdd charged
  some {r with reservedMicros := reserved,spentMicros := spent}

theorem BudgetEnvelopeRow.settled_eq_some {r r' : BudgetEnvelopeRow} {a b : UsdMicros} :
    r.settled a b=some r' ↔ ∃ x y,r.reservedMicros.checkedSub a=some x ∧
      r.spentMicros.checkedAdd b=some y ∧
      r'={r with reservedMicros := x,spentMicros := y} := by
  simp only [settled,Option.bind_eq_bind,Option.bind_eq_some_iff,Option.some.injEq]
  constructor
  · rintro ⟨x,hx,y,hy,rfl⟩; exact ⟨x,y,hx,hy,rfl⟩
  · rintro ⟨x,y,hx,hy,rfl⟩; exact ⟨x,hx,y,hy,rfl⟩

theorem BudgetEnvelopeRow.settled_key {r r' : BudgetEnvelopeRow} {a b : UsdMicros}
    (h : r.settled a b=some r') : r'.budgetEnvelopeId=r.budgetEnvelopeId := by
  obtain ⟨x,y,_,_,rfl⟩ := settled_eq_some.mp h
  rfl

def settleEnvelope (i : BudgetEnvelopeId) (released charged : UsdMicros)
    (hw : .budgetEnvelopes ∈ W := by decide) : Transition W Unit := do
  let _ ← Tx.updateM Tbl.budgetEnvelopes (fun r => r.budgetEnvelopeId==i)
    (fun r => r.settled released charged) .budgetCeilingExceeded hw
    (id fun _ _ h => congrArg Id.val (BudgetEnvelopeRow.settled_key h))

def BudgetEnvelopeRow.reserving (r : BudgetEnvelopeRow) (amount : UsdMicros) :
    Option BudgetEnvelopeRow := do
  let reserved ← r.reservedMicros.checkedAdd amount
  some {r with reservedMicros := reserved}

theorem BudgetEnvelopeRow.reserving_eq_some {r r' : BudgetEnvelopeRow} {a : UsdMicros} :
    r.reserving a=some r' ↔
      ∃ x,r.reservedMicros.checkedAdd a=some x ∧ r'={r with reservedMicros := x} := by
  simp only [reserving,Option.bind_eq_bind,Option.bind_eq_some_iff,Option.some.injEq]
  constructor
  · rintro ⟨x,hx,rfl⟩; exact ⟨x,hx,rfl⟩
  · rintro ⟨x,hx,rfl⟩; exact ⟨x,hx,rfl⟩

theorem BudgetEnvelopeRow.reserving_key {r r' : BudgetEnvelopeRow} {a : UsdMicros}
    (h : r.reserving a=some r') : r'.budgetEnvelopeId=r.budgetEnvelopeId := by
  obtain ⟨x,_,rfl⟩ := reserving_eq_some.mp h
  rfl

/-- The charge rows of a reservation, in the order of their envelopes. -/
def chargesOf (s : Store) (i : BudgetReservationId) : List BudgetReservationChargeRow :=
  ((s.rows .budgetReservationCharges).filter (fun r => r.budgetReservationId==i)).insertionSort
    (fun a b => a.budgetEnvelopeId.val≤b.budgetEnvelopeId.val)

end Envelopes

/-- Checks both envelopes, then books the amount on each of them. -/
def reserveOnEnvelopes (cmd : CommandRowId) (cycle : OperatingCycleRow) (c : OperatingCycleId)
    (amount : UsdMicros) :
    Transition [.budgetReservations,.budgetEnvelopes,.budgetReservationCharges]
      BudgetReservationId := do
  let (societyBudget,cycleBudget) ← budgetEnvelopesForCycle cycle.societyId c
  Tx.each (fun budget => do
    let b ← budgetAmounts budget
    let next ← Tx.the (b.reservedMicros.checkedAdd amount) .budgetCeilingExceeded
    Tx.require ((next.checkedAdd b.spentMicros).any (fun v => v.val≤b.ceilingMicros.val))
      .budgetCeilingExceeded) [societyBudget,cycleBudget]
  let reservation ← Tx.insert Tbl.budgetReservations (fun i =>
    {budgetReservationId := i,operatingCycleId := c,amountMicros := amount,
     chargedMicros := .zero,reservationState := .reserved,reservedByCommandId := cmd,
     reconciledByCommandId := none}) .budgetCeilingExceeded
  Tx.each (fun budget => do
    let _ ← Tx.updateM Tbl.budgetEnvelopes (fun r => r.budgetEnvelopeId==budget)
      (fun r => r.reserving amount) .budgetCeilingExceeded (by decide)
      (id fun _ _ h => congrArg Id.val (BudgetEnvelopeRow.reserving_key h))
    let _ ← Tx.insert Tbl.budgetReservationCharges (fun i =>
      {budgetReservationChargeId := i,budgetReservationId := reservation,
       budgetEnvelopeId := budget,amountMicros := amount}) .budgetCeilingExceeded)
    [societyBudget,cycleBudget]
  pure reservation

def reserveBudget (cmd : CommandRowId) (g : ExpectedGeneration) (c : OperatingCycleId)
    (amount : UsdMicros) :
    Transition [.budgetReservations,.budgetEnvelopes,.budgetReservationCharges] EventBody := do
  let cycle ← cycleForGeneration c g
  Tx.require (amount≠.zero) .budgetCeilingExceeded
  Tx.require cycle.lifecycleState.admitsTaskWork .invalidLifecycleTransition
  let reservation ← reserveOnEnvelopes cmd cycle c amount
  pure (.budgetReserved reservation c amount)

/-- The tables that a frozen reservation touches. -/
abbrev freezeTables : List Tbl :=
  [.budgetReservations,.operatingCycles,.cancellationRequests,.costPostmortems]

/-- The cause columns of a cost postmortem. -/
def postmortemColumns : BudgetFreezeReason → CostPostmortemCause × Option UsdMicros ×
    Option CostUnknownReason × Option CostUnavailableReason
  | .knownOverrun observed _ => (.knownOverrun,some observed,none,none)
  | .unknown reason => (.unknownCost,none,some reason,none)
  | .unavailable reason => (.unavailableCost,none,none,some reason)

/-- The identities that a freeze leaves behind. -/
structure Freeze where
  cancellationRequestId : CancellationRequestId
  postmortemId : CostPostmortemId

/-- `freeze_budget_admission`: whatever state the cycle is in, it becomes cancelling. -/
def freezeBudget (cmd : CommandRowId) (reservation : BudgetReservationId) (c : OperatingCycleId)
    (reserved : UsdMicros) (reason : BudgetFreezeReason) : Transition freezeTables Freeze := do
  let _ ← Tx.update Tbl.budgetReservations (fun r => r.budgetReservationId==reservation)
    (fun r => {r with reservationState := .frozen}) .subjectNotFound
  let cycle ← cycleRow c
  let generation ← Tx.the cycle.admissionGeneration.increment .invalidLifecycleTransition
  transitionCycle cmd c .cancelling generation
  let active ← Tx.read (fun s => activeCancellationForCycle s c)
  let cancellation ← match active with
    | some i => pure i
    | none => Tx.insert Tbl.cancellationRequests (fun i =>
        {cancellationRequestId := i,operatingCycleId := c,cancellationMode := .gracefulCancel,
         lifecycleState := .accepted,observedAdmissionGeneration := cycle.admissionGeneration,
         requestedByCommandId := cmd,reconciledByCommandId := none}) .invalidLifecycleTransition
  let (cause,observed,unknown,unavailable) := postmortemColumns reason
  let postmortem ← Tx.insert Tbl.costPostmortems (fun i =>
    {postmortemId := i,budgetReservationId := reservation,operatingCycleId := c,
     cancellationRequestId := cancellation,causeKind := cause,observedMicros := observed,
     reservedMicros := some reserved,unknownReason := unknown,unavailableReason := unavailable,
     lifecycleState := .opened,openedByCommandId := cmd,closedByCommandId := none})
    .invalidLifecycleTransition
  pure ⟨cancellation,postmortem⟩

def freezeBudgetAdmission (cmd : CommandRowId) (reservation : BudgetReservationId)
    (c : OperatingCycleId) (reserved : UsdMicros) (reason : BudgetFreezeReason) :
    Transition freezeTables EventBody := do
  let f ← freezeBudget cmd reservation c reserved reason
  pure (.budgetAdmissionFrozen reservation c f.cancellationRequestId f.postmortemId reason)

/-- Releases every charge of a reservation and books `charged` on each envelope. -/
def settleCharges {W : List Tbl} (reservation : BudgetReservationId) (charged : UsdMicros)
    (hw : .budgetEnvelopes ∈ W := by decide) : Transition W Unit := do
  let charges ← Tx.read (fun s => chargesOf s reservation)
  Tx.each (fun ch => settleEnvelope ch.budgetEnvelopeId ch.amountMicros charged hw) charges

/-- Marks a reservation reconciled at its total charge. -/
def markReconciled {W : List Tbl} (cmd : CommandRowId) (reservation : BudgetReservationId)
    (total : UsdMicros) (e : Rejection) (hw : .budgetReservations ∈ W := by decide) :
    Transition W Unit := do
  let _ ← Tx.update Tbl.budgetReservations (fun r => r.budgetReservationId==reservation)
    (fun r => {r with reservationState := .reconciled,chargedMicros := total,
                      reconciledByCommandId := some cmd}) e hw

def reconcileBudget (cmd : CommandRowId) (reservation : BudgetReservationId)
    (observation : CostObservation) :
    Transition [.budgetEnvelopes,.budgetReservations,.operatingCycles,.cancellationRequests,
      .costPostmortems] EventBody := do
  let r ← Tx.get Tbl.budgetReservations reservation Rejection.subjectNotFound
  Tx.require (r.reservationState==.reserved) .reservationNotActive
  let officeParent ← Tx.read (fun s =>
    (s.rows .officeSessionBudgetReservations).any (fun o => o.budgetReservationId==reservation))
  Tx.require (!officeParent) .officeSessionBudgetRequiresDispose
  let remaining ← Tx.the (r.amountMicros.checkedSub r.chargedMicros) .reservationNotActive
  match observation with
  | .known observed => do
    Tx.require (r.chargedMicros.val≤observed.val) .piOfficeTurnUsageNotMonotonic
    if observed.val ≤ r.amountMicros.val then do
      let delta ← Tx.the (observed.checkedSub r.chargedMicros) .piOfficeTurnUsageNotMonotonic
      settleCharges reservation delta
      markReconciled cmd reservation observed .subjectNotFound
      pure (.budgetReconciled reservation observed)
    else
      (freezeBudgetAdmission cmd reservation r.operatingCycleId remaining
        (.knownOverrun observed remaining)).widen (by decide)
  | .unknown reason =>
    (freezeBudgetAdmission cmd reservation r.operatingCycleId remaining
      (.unknown reason)).widen (by decide)
  | .unavailable reason =>
    (freezeBudgetAdmission cmd reservation r.operatingCycleId remaining
      (.unavailable reason)).widen (by decide)

/-- What closing a postmortem charges beyond the amount already charged. -/
def postmortemCharge (cause : CostPostmortemCause) (resolution : CostPostmortemResolution)
    (observed : Option UsdMicros) (charged remaining : UsdMicros) : Option UsdMicros :=
  match cause,resolution,observed with
  | .knownOverrun,.chargeObservedOverrun,some observed => observed.checkedSub charged
  | .unknownCost,.conservativeFullReservation,none => some remaining
  | .unavailableCost,.conservativeFullReservation,none => some remaining
  | _,_,_ => none

def closeCostPostmortem (cmd : CommandRowId) (g : ExpectedGeneration) (i : CostPostmortemId)
    (resolution : CostPostmortemResolution) :
    Transition [.budgetEnvelopes,.budgetReservations,.costPostmortems,
      .costPostmortemResolutions] EventBody := do
  let p ← Tx.get Tbl.costPostmortems i Rejection.subjectNotFound
  Tx.require (p.lifecycleState==.opened) .costPostmortemNotOpen
  let cycle ← cycleForGeneration p.operatingCycleId g
  let cancelling ← Tx.read (fun s => activeCancellationCount s p.operatingCycleId)
  Tx.require ((cycle.lifecycleState==.drained || cycle.lifecycleState==.reconciling) &&
    cancelling==0) .incompleteCycleReconciliation
  let remaining ← Tx.the p.reservedMicros .subjectNotFound
  let r ← Tx.get Tbl.budgetReservations p.budgetReservationId Rejection.subjectNotFound
  Tx.require (r.reservationState==.frozen) .reservationNotActive
  let left ← Tx.the (r.amountMicros.checkedSub r.chargedMicros) .reservationNotActive
  Tx.require (left==remaining) .reservationNotActive
  let charged ← Tx.the
    (postmortemCharge p.causeKind resolution p.observedMicros r.chargedMicros remaining)
    .invalidCostPostmortemResolution
  Tx.require (!(charged.val < remaining.val && p.causeKind==.knownOverrun)) .reservationNotActive
  settleCharges p.budgetReservationId charged
  let total ← Tx.the (r.chargedMicros.checkedAdd charged) .budgetCeilingExceeded
  markReconciled cmd p.budgetReservationId total .subjectNotFound
  let _ ← Tx.update Tbl.costPostmortems (fun q => q.postmortemId==i)
    (fun q => {q with lifecycleState := .closed,closedByCommandId := some cmd})
    .costPostmortemNotOpen
  Tx.store Tbl.costPostmortemResolutions
    {postmortemId := i,resolutionKind := resolution,chargedMicros := charged,
     resolvedByCommandId := cmd} .costPostmortemNotOpen
  pure (.costPostmortemClosed i p.budgetReservationId p.operatingCycleId resolution charged)

end Society.Kernel
