import Society.Relational.Wp
import Society.Kernel.Schema

namespace Society.Kernel
open Society.Relational

/-- A transition function: it writes the tables of `W`, or rejects. -/
abbrev Transition (W : List Tbl) (α : Type) := Tx W Rejection α

/-! The shared lookups of the transition functions. -/

section Counts

def cycleOfSession (s : Store) (i : RootAuthorityOfficeSessionId) : Option OperatingCycleId :=
  (s.find .rootAuthorityOfficeSessions i).map (·.operatingCycleId)

def activeOfficeTurnCount (s : Store) (c : OperatingCycleId) : Nat :=
  (s.rows .officeTurns).countP (fun t =>
    t.lifecycleState==.active && cycleOfSession s t.rootAuthorityOfficeSessionId==some c)

def sessionHasActiveTurn (s : Store) (i : RootAuthorityOfficeSessionId) : Bool :=
  (s.rows .officeTurns).any (fun t =>
    t.rootAuthorityOfficeSessionId==i && t.lifecycleState==.active)

def liveOfficeSessionCount (s : Store) (c : OperatingCycleId) : Nat :=
  (s.rows .rootAuthorityOfficeSessions).countP (fun r =>
    r.operatingCycleId==c && r.lifecycleState.isLive)

def unreconciledReservationCount (s : Store) (c : OperatingCycleId) : Nat :=
  (s.rows .budgetReservations).countP (fun r =>
    r.operatingCycleId==c && r.reservationState≠.reconciled)

def activeCancellationCount (s : Store) (c : OperatingCycleId) : Nat :=
  (s.rows .cancellationRequests).countP (fun r =>
    r.operatingCycleId==c && r.lifecycleState.isNonterminal)

def cycleOfActor (s : Store) (i : ActorInstanceId) : Option OperatingCycleId :=
  (s.find .actorInstances i).map (·.operatingCycleId)

def activeWorkLeaseCount (s : Store) (c : OperatingCycleId) : Nat :=
  (s.rows .leases).countP (fun l =>
    l.lifecycleState==.active && cycleOfActor s l.actorInstanceId==some c)

def liveActorAttemptCount (s : Store) (c : OperatingCycleId) : Nat :=
  (s.rows .attempts).countP (fun a => a.operatingCycleId==c && a.lifecycleState.isLive)

def cycleOfAdmission (s : Store) (i : NativeChildSpawnAdmissionId) : Option OperatingCycleId :=
  (s.find .nativeChildSpawnAdmissions i).map (·.operatingCycleId)

def liveNativeChildCount (s : Store) (c : OperatingCycleId) : Nat :=
  (s.rows .nativeChildren).countP (fun p =>
    p.lifecycleState≠.finalized && cycleOfAdmission s p.nativeChildSpawnAdmissionId==some c)

def undisposedPiWorkspaceCount (s : Store) (c : OperatingCycleId) : Nat :=
  (s.rows .piChildSpawnSidecars).countP (fun r =>
    cycleOfAdmission s r.nativeChildSpawnAdmissionId==some c)

def activeCancellationForCycle (s : Store) (c : OperatingCycleId) : Option CancellationRequestId :=
  ((s.rows .cancellationRequests).find? (fun r =>
    r.operatingCycleId==c && r.lifecycleState.isNonterminal)).map (·.cancellationRequestId)

end Counts

section Lookups
variable {W : List Tbl}

def onlySocietyId : Transition W SocietyId := do
  let o ← Tx.read (fun s => (s.rows .societies).head?)
  let r ← Tx.the o .subjectNotFound
  pure r.societyId

def rootAuthorityOfficeId : Transition W OfficeId := do
  let o ← Tx.read (fun s =>
    (s.rows .officeContracts).find? (fun r => r.officeKind==.rootAuthorityOffice))
  let r ← Tx.the o .subjectNotFound
  pure r.officeId

def activeFoundingMissionId (i : SocietyId) : Transition W FoundingMissionId := do
  let o ← Tx.read (fun s =>
    (s.rows .foundingMissions).find? (fun r => r.societyId==i && r.active))
  let r ← Tx.the o .subjectNotFound
  pure r.foundingMissionId

def activeRootAuthorityOccupancyId : Transition W OfficeOccupancyId := do
  let o ← Tx.read (fun s => (s.rows .officeOccupancies).find? (fun r =>
    r.active && (s.find .officeContracts r.officeId).any (·.officeKind==.rootAuthorityOffice)))
  let r ← Tx.the o .subjectNotFound
  pure r.officeOccupancyId

/-- The latest `R0HardCeilingSet` event; event identities ascend. -/
def hardCeilingFromEventBody : Transition W UsdMicros := do
  let o ← Tx.read (fun s => (s.rows .eventBodies).reverse.findSome? (fun r =>
    match r.body with
    | .r0HardCeilingSet _ c => some c
    | _ => none))
  Tx.the o .foundingInvariant

def bootstrappedConstitution : Transition W SocietyBootstrapRow := do
  let o ← Tx.read (fun s => (s.rows .societyBootstraps).head?)
  Tx.the o .foundingInvariant

def cycleRow (c : OperatingCycleId) : Transition W OperatingCycleRow :=
  Tx.get Tbl.operatingCycles c Rejection.subjectNotFound

/-- The cycle, if the request names its current admission generation. -/
def cycleForGeneration (c : OperatingCycleId) (g : ExpectedGeneration) :
    Transition W OperatingCycleRow := do
  let r ← cycleRow c
  match g with
  | .notApplicable => Tx.raise .invalidExpectedGeneration
  | .exact n => do
    Tx.require (n==r.admissionGeneration) .staleAdmissionGeneration
    pure r

@[simp] theorem wp_cycleRow {c : OperatingCycleId} {s : Store}
    {Q : OperatingCycleRow → Store → Prop} :
    Tx.wp (cycleRow c : Transition W _) Q s ↔ ∀ r,s.find .operatingCycles c=some r → Q r s :=
  Tx.wp_get ..

@[simp] theorem wp_cycleForGeneration {c : OperatingCycleId} {g : ExpectedGeneration} {s : Store}
    {Q : OperatingCycleRow → Store → Prop} :
    Tx.wp (cycleForGeneration c g : Transition W _) Q s ↔
      ∀ r,s.find .operatingCycles c=some r → g=.exact r.admissionGeneration → Q r s := by
  cases g <;> simp [cycleForGeneration]

def sessionRow (i : RootAuthorityOfficeSessionId) :
    Transition W RootAuthorityOfficeSessionRow :=
  Tx.get Tbl.rootAuthorityOfficeSessions i Rejection.subjectNotFound

@[simp] theorem wp_sessionRow {i : RootAuthorityOfficeSessionId} {s : Store}
    {Q : RootAuthorityOfficeSessionRow → Store → Prop} :
    Tx.wp (sessionRow i : Transition W _) Q s ↔ ∀ r,s.find .rootAuthorityOfficeSessions i=some r → Q r s :=
  Tx.wp_get ..

def budgetEnvelopesForCycle (i : SocietyId) (c : OperatingCycleId) :
    Transition W (BudgetEnvelopeId × BudgetEnvelopeId) := do
  let o ← Tx.read (fun s =>
    (s.rows .budgetEnvelopeConstraints).find? (fun r => r.scope==.society i))
  let a ← Tx.the o .subjectNotFound
  let o ← Tx.read (fun s =>
    (s.rows .budgetEnvelopeConstraints).find? (fun r => r.scope==.cycle c))
  let b ← Tx.the o .subjectNotFound
  pure (a.budgetEnvelopeId,b.budgetEnvelopeId)

def budgetAmounts (i : BudgetEnvelopeId) : Transition W BudgetEnvelopeRow :=
  Tx.get Tbl.budgetEnvelopes i Rejection.subjectNotFound

@[simp] theorem wp_budgetAmounts {i : BudgetEnvelopeId} {s : Store}
    {Q : BudgetEnvelopeRow → Store → Prop} :
    Tx.wp (budgetAmounts i : Transition W _) Q s ↔ ∀ r,s.find .budgetEnvelopes i=some r → Q r s :=
  Tx.wp_get ..

end Lookups

section Writes
variable {W : List Tbl}

def transitionCycle (cmd : CommandRowId) (c : OperatingCycleId) (state : OperatingCycleState)
    (generation : AdmissionGeneration) (hw : .operatingCycles ∈ W := by decide) :
    Transition W Unit := do
  let _ ← Tx.update Tbl.operatingCycles (fun r => r.operatingCycleId==c)
    (fun r => {r with lifecycleState := state,admissionGeneration := generation,
                      lastTransitionCommandId := cmd}) .subjectNotFound hw

def createBudgetEnvelope (cmd : CommandRowId) (ceiling : UsdMicros)
    (hw : .budgetEnvelopes ∈ W := by decide) : Transition W BudgetEnvelopeId :=
  Tx.insert Tbl.budgetEnvelopes (fun i =>
    {budgetEnvelopeId := i,ceilingMicros := ceiling,reservedMicros := .zero,
     spentMicros := .zero,createdByCommandId := cmd}) Rejection.budgetCeilingExceeded hw

end Writes

end Society.Kernel
