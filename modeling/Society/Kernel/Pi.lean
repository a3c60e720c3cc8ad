import Mathlib.Data.List.MinMax
import Society.Kernel.Budget

namespace Society.Kernel
open Society.Relational

/-! What the office and the task-attempt sides of the Pi protocol share. -/

/-- Every counter of a cumulative observation is at least the earlier one. -/
def PiCumulativeUsage.covers (u v : PiCumulativeUsage) : Bool :=
  v.inputTokens.val≤u.inputTokens.val && v.outputTokens.val≤u.outputTokens.val &&
    v.cacheReadTokens.val≤u.cacheReadTokens.val && v.cacheWriteTokens.val≤u.cacheWriteTokens.val &&
    v.totalTokens.val≤u.totalTokens.val && v.providerCost.bits≤u.providerCost.bits &&
    v.ceilingMicroUsd.val≤u.ceilingMicroUsd.val

def PiTaskAttemptUsageReceiptRow.usage (r : PiTaskAttemptUsageReceiptRow) : PiCumulativeUsage :=
  ⟨r.inputTokens,r.outputTokens,r.cacheReadTokens,r.cacheWriteTokens,r.totalTokens,
   r.providerCostBinary64,r.cumulativeCeilingMicros⟩

def PiTaskAttemptSessionDisposeUsageReceiptRow.usage
    (r : PiTaskAttemptSessionDisposeUsageReceiptRow) : PiCumulativeUsage :=
  ⟨r.inputTokens,r.outputTokens,r.cacheReadTokens,r.cacheWriteTokens,r.totalTokens,
   r.providerCostBinary64,r.cumulativeCeilingMicros⟩

def PiOfficeTurnUsageReceiptRow.usage (r : PiOfficeTurnUsageReceiptRow) : PiCumulativeUsage :=
  ⟨r.inputTokens,r.outputTokens,r.cacheReadTokens,r.cacheWriteTokens,r.totalTokens,
   r.providerCostBinary64,r.cumulativeCeilingMicros⟩

def PiOfficeSessionDisposeUsageReceiptRow.usage
    (r : PiOfficeSessionDisposeUsageReceiptRow) : PiCumulativeUsage :=
  ⟨r.inputTokens,r.outputTokens,r.cacheReadTokens,r.cacheWriteTokens,r.totalTokens,
   r.providerCostBinary64,r.cumulativeCeilingMicros⟩

/-- `COALESCE(MAX(..), 0)`. -/
def maxMicros (l : List UsdMicros) : Nat := (l.map (·.val)).foldr max 0

/-- A sequence number beyond everything the session has recorded. -/
def beyond (l : List Nat) (n : PiProtocolSequence) : Bool := l.all (fun m => m<n.val)

def sidecarOf (s : Store) (i : NativeChildSpawnAdmissionId) : Option PiChildSpawnSidecarRow :=
  (s.rows .piChildSpawnSidecars).find? (fun r => r.nativeChildSpawnAdmissionId==i)

def childOfAdmission (s : Store) (i : NativeChildSpawnAdmissionId) : Option NativeChildRow :=
  (s.rows .nativeChildren).find? (fun r => r.nativeChildSpawnAdmissionId==i)

def protocolOf (s : Store) (i : NativeChildId) : Option PiChildSessionProtocolRow :=
  (s.rows .piChildSessionProtocols).find? (fun r => r.nativeChildId==i)

def admissionOfOwner (s : Store) (o : PiChildOwner) : Option NativeChildSpawnAdmissionRow :=
  (s.rows .nativeChildSpawnAdmissions).find? (fun r => r.owner==.pi o)

/-- A running child whose Pi session has reported ready. -/
def childIsOperational (s : Store) (i : NativeChildId) : Bool :=
  (s.rows .nativeChildren).any (fun c => c.nativeChildId==i && c.lifecycleState==.running &&
    (s.rows .piChildSessionProtocols).any (fun p =>
      p.nativeChildId==i && p.lifecycleState==.sessionReady))

def contentDigest (s : Store) (i : ContentObjectId) : Option Blake3Digest := do
  let o ← s.find .contentObjects i
  let r ← s.find .contentSealReceipts o.contentSealReceiptId
  some r.digest

/-- The latest event; its sequence number is the largest. -/
def currentFrontier (s : Store) : Option EventId :=
  ((s.rows .events).argmax (fun r => r.eventSequence.val)).map (·.eventId)

/-- A join of the Pi child of one owner: admission, sidecar, child and protocol. -/
structure PiBinding where
  admission : NativeChildSpawnAdmissionRow
  piSessionId : PiSessionId
  child : NativeChildRow
  protocol : PiChildSessionProtocolRow

def piBinding (s : Store) (o : PiChildOwner) : Option PiBinding := do
  let admission ← admissionOfOwner s o
  let sidecar ← sidecarOf s admission.nativeChildSpawnAdmissionId
  let child ← childOfAdmission s admission.nativeChildSpawnAdmissionId
  let protocol ← protocolOf s child.nativeChildId
  some ⟨admission,sidecar.piSessionId,child,protocol⟩

/-- The remainder of an active reservation. -/
def activeRemainder {W : List Tbl} (reservation : BudgetReservationId) :
    Transition W (BudgetReservationRow × UsdMicros) := do
  let r ← Tx.get Tbl.budgetReservations reservation Rejection.reservationNotActive
  Tx.require (r.reservationState==.reserved) .reservationNotActive
  let left ← Tx.the (r.amountMicros.checkedSub r.chargedMicros) .reservationNotActive
  pure (r,left)

end Society.Kernel
