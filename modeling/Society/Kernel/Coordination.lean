import Society.Kernel.Queries

namespace Society.Kernel
open Society.Relational

/-! Projects, milestones and tickets. -/

section Shared
variable {W : List Tbl}

/-- Coordination needs the current generation of a running cycle. -/
def coordinationCycle (g : ExpectedGeneration) (c : OperatingCycleId) :
    Transition W OperatingCycleRow := do
  let cycle ← cycleForGeneration c g
  Tx.require cycle.lifecycleState.admitsTaskWork .invalidLifecycleTransition
  pure cycle

@[simp] theorem wp_coordinationCycle {g : ExpectedGeneration} {c : OperatingCycleId} {s : Store}
    {Q : OperatingCycleRow → Store → Prop} :
    Tx.wp (coordinationCycle g c : Transition W _) Q s ↔
      ∀ r,s.find .operatingCycles c=some r → g=.exact r.admissionGeneration →
        r.lifecycleState.admitsTaskWork=true → Q r s := by
  simp [coordinationCycle]

def recordCoordinationProvenance (cmd : CommandRowId) (cycle : OperatingCycleRow)
    (c : OperatingCycleId) (project : Option ProjectId)
    (hw : .coordinationCommandProvenance ∈ W := by decide) : Transition W Unit :=
  Tx.store Tbl.coordinationCommandProvenance
    {commandRowId := cmd,foundingMissionId := cycle.foundingMissionId,operatingCycleId := c,
     projectId := project} Rejection.invalidLifecycleTransition hw

@[simp] theorem wp_recordCoordinationProvenance {cmd : CommandRowId} {cycle : OperatingCycleRow}
    {c : OperatingCycleId} {project : Option ProjectId}
    {hw : Tbl.coordinationCommandProvenance ∈ W} {s : Store} {Q : Unit → Store → Prop} :
    Tx.wp (recordCoordinationProvenance cmd cycle c project hw) Q s ↔
      (s.admits .coordinationCommandProvenance ⟨cmd,cycle.foundingMissionId,c,project⟩=true →
        Q () (s.append .coordinationCommandProvenance ⟨cmd,cycle.foundingMissionId,c,project⟩
          (s .coordinationCommandProvenance).next)) :=
  Tx.wp_store ..

def projectRow (i : ProjectId) : Transition W ProjectRow :=
  Tx.get Tbl.projects i Rejection.subjectNotFound

@[simp] theorem wp_projectRow {i : ProjectId} {s : Store} {Q : ProjectRow → Store → Prop} :
    Tx.wp (projectRow i : Transition W _) Q s ↔ ∀ r,s.find .projects i=some r → Q r s :=
  Tx.wp_get ..

def ticketRow (i : TicketId) : Transition W TicketRow :=
  Tx.get Tbl.tickets i Rejection.subjectNotFound

@[simp] theorem wp_ticketRow {i : TicketId} {s : Store} {Q : TicketRow → Store → Prop} :
    Tx.wp (ticketRow i : Transition W _) Q s ↔ ∀ r,s.find .tickets i=some r → Q r s :=
  Tx.wp_get ..

def actorInstanceRow (i : ActorInstanceId) : Transition W ActorInstanceRow :=
  Tx.get Tbl.actorInstances i Rejection.subjectNotFound

@[simp] theorem wp_actorInstanceRow {i : ActorInstanceId} {s : Store}
    {Q : ActorInstanceRow → Store → Prop} :
    Tx.wp (actorInstanceRow i : Transition W _) Q s ↔ ∀ r,s.find .actorInstances i=some r → Q r s :=
  Tx.wp_get ..

def workItemRow (i : WorkItemId) : Transition W WorkItemRow :=
  Tx.get Tbl.workItems i Rejection.subjectNotFound

@[simp] theorem wp_workItemRow {i : WorkItemId} {s : Store}
    {Q : WorkItemRow → Store → Prop} :
    Tx.wp (workItemRow i : Transition W _) Q s ↔ ∀ r,s.find .workItems i=some r → Q r s :=
  Tx.wp_get ..

def actorAttemptRow (i : ActorAttemptId) : Transition W AttemptRow :=
  Tx.get Tbl.attempts i Rejection.subjectNotFound

@[simp] theorem wp_actorAttemptRow {i : ActorAttemptId} {s : Store}
    {Q : AttemptRow → Store → Prop} :
    Tx.wp (actorAttemptRow i : Transition W _) Q s ↔ ∀ r,s.find .attempts i=some r → Q r s :=
  Tx.wp_get ..

def projectIsActive (i : ProjectId) : Transition W Unit := do
  let project ← projectRow i
  Tx.require (project.lifecycleState==.active) .invalidLifecycleTransition

@[simp] theorem wp_projectIsActive {i : ProjectId} {s : Store} {Q : Unit → Store → Prop} :
    Tx.wp (projectIsActive i : Transition W _) Q s ↔
      ∀ p,s.find .projects i=some p → p.lifecycleState=.active → Q () s := by
  simp [projectIsActive]

def ticketPrerequisitesComplete (s : Store) (i : TicketId) : Bool :=
  (s.rows .ticketPrerequisites).all (fun p => p.ticketId≠i ||
    (s.find .tickets p.prerequisiteTicketId).all (·.lifecycleState==.completed))

def transitionProjectState (cmd : CommandRowId) (i : ProjectId) (state : ProjectState)
    (hw : .projects ∈ W := by decide) : Transition W Unit := do
  let _ ← Tx.update Tbl.projects (fun r => r.projectId==i)
    (fun r => {r with lifecycleState := state,lastTransitionCommandId := cmd})
    .subjectNotFound hw

end Shared

/-- The only coordination command that a cycle admits before it runs. -/
def createProject (cmd : CommandRowId) (g : ExpectedGeneration) (c : OperatingCycleId)
    (name : ProjectName) (alignment : ProjectNorthStarAlignment) :
    Transition [.projects,.projectNorthStarAlignments,.coordinationCommandProvenance]
      EventBody := do
  let cycle ← cycleForGeneration c g
  let mission ← Tx.get Tbl.foundingMissions cycle.foundingMissionId Rejection.subjectNotFound
  Tx.require (mission.applicationRevisionId==alignment.applicationRevisionId)
    .projectNorthStarAlignmentMismatch
  let i ← Tx.insert Tbl.projects (fun i =>
    {projectId := i,projectName := name.stored,foundingMissionId := cycle.foundingMissionId,
     lifecycleState := .proposed,createdByCommandId := cmd,lastTransitionCommandId := cmd})
    .foundingInvariant
  Tx.store Tbl.projectNorthStarAlignments
    {projectId := i,applicationRevisionId := alignment.applicationRevisionId,
     changeAnswer := alignment.changeAnswer.stored,
     improvementEvidenceAnswer := alignment.improvementEvidenceAnswer.stored,
     boundaryCommitmentAnswer := alignment.boundaryCommitmentAnswer.stored,
     revisitAnswer := alignment.revisitAnswer.stored,alignedByCommandId := cmd}
    .projectNorthStarAlignmentMismatch
  recordCoordinationProvenance cmd cycle c (some i)
  pure (.projectCreated i alignment.applicationRevisionId)

def charterProject (cmd : CommandRowId) (g : ExpectedGeneration) (c : OperatingCycleId)
    (i : ProjectId) (objective : ProjectObjectiveText) (milestone : ProjectMilestoneName)
    (stopCondition : ProjectStopConditionText) :
    Transition [.projects,.projectObjectives,.projectMilestones,.projectStopConditions,
      .coordinationCommandProvenance] EventBody := do
  let cycle ← coordinationCycle g c
  let project ← projectRow i
  Tx.require (project.lifecycleState==.challenged) .invalidLifecycleTransition
  transitionProjectState cmd i .chartered
  let _ ← Tx.insert Tbl.projectObjectives (fun j =>
    {projectObjectiveId := j,projectId := i,objectiveText := objective.stored,
     charteredByCommandId := cmd}) .invalidLifecycleTransition
  let _ ← Tx.insert Tbl.projectMilestones (fun j =>
    {projectMilestoneId := j,projectId := i,milestoneName := milestone.stored,
     lifecycleState := .pending,charteredByCommandId := cmd,completedByCommandId := none})
    .invalidLifecycleTransition
  let _ ← Tx.insert Tbl.projectStopConditions (fun j =>
    {projectStopConditionId := j,projectId := i,stopConditionText := stopCondition.stored,
     charteredByCommandId := cmd}) .invalidLifecycleTransition
  recordCoordinationProvenance cmd cycle c (some i)
  pure (.projectChartered i)

def projectOfAttempt (s : Store) (i : ActorAttemptId) : Option ProjectId :=
  ((s.rows .attemptBudgetReservations).find? (fun r => r.actorAttemptId==i)).map (·.projectId)

def projectOfTicket (s : Store) (i : TicketId) : Option ProjectId :=
  (s.find .tickets i).map (·.projectId)

def NativeChildOwner.attempt : NativeChildOwner → Option ActorAttemptId
  | .pi (.actorAttempt i) => some i
  | _ => none

/-- Whether an admission belongs to an attempt of the project. -/
def admissionOfProject (s : Store) (a : NativeChildSpawnAdmissionRow) (i : ProjectId) : Bool :=
  a.owner.attempt.any (fun j => projectOfAttempt s j==some i)

def AdversarialReviewState.isTerminal : AdversarialReviewState → Bool
  | .resolved | .acceptedRisk | .superseded => true
  | _ => false

/-- Open obligations of any kind keep a project from closing. -/
def projectCloseBlocked (s : Store) (i : ProjectId) : Bool :=
  (s.rows .projectMilestones).any (fun r => r.projectId==i && r.lifecycleState≠.completed) ||
  (s.rows .tickets).any (fun r => r.projectId==i && r.lifecycleState≠.completed) ||
  (s.rows .adversarialReviews).any (fun r => r.projectId==i && !r.lifecycleState.isTerminal) ||
  (s.rows .postmortems).any (fun r => r.projectId==i && r.lifecycleState≠.closed) ||
  (s.rows .attempts).any (fun r =>
    r.lifecycleState.isLive && projectOfAttempt s r.actorAttemptId==some i) ||
  (s.rows .leases).any (fun l => l.lifecycleState==.active &&
    (s.find .workItems l.workItemId).any (fun w => projectOfTicket s w.ticketId==some i)) ||
  (s.rows .attemptBudgetReservations).any (fun r => r.projectId==i &&
    (s.find .budgetReservations r.budgetReservationId).any
      (·.reservationState≠.reconciled)) ||
  (s.rows .outcomeObligations).any (fun r => r.projectId==i && r.lifecycleState==.scheduled) ||
  (s.rows .deterministicExperiments).any (fun r =>
    r.projectId==i && r.lifecycleState≠.closed) ||
  (s.rows .nativeChildren).any (fun p => p.lifecycleState≠.finalized &&
    (s.find .nativeChildSpawnAdmissions p.nativeChildSpawnAdmissionId).any
      (admissionOfProject s · i)) ||
  (s.rows .nativeChildSpawnAdmissions).any (admissionOfProject s · i)

def projectTransitionAllowed : ProjectState → ProjectState → Bool
  | .proposed,.challenged => true
  | .chartered,.active | .chartered,.terminated => true
  | .active,.paused | .active,.observing | .active,.terminated => true
  | .paused,.active | .paused,.terminated => true
  | .observing,.closed | .observing,.terminated => true
  | .reopened,.active => true
  | _,_ => false

def transitionProject (cmd : CommandRowId) (g : ExpectedGeneration) (c : OperatingCycleId)
    (i : ProjectId) (target : ProjectState) :
    Transition [.projects,.coordinationCommandProvenance] EventBody := do
  let cycle ← coordinationCycle g c
  let project ← projectRow i
  Tx.require (projectTransitionAllowed project.lifecycleState target)
    .invalidLifecycleTransition
  let blocked ← Tx.read (fun s => projectCloseBlocked s i)
  Tx.require (!(target==.closed && blocked)) .projectCloseBlocked
  transitionProjectState cmd i target
  recordCoordinationProvenance cmd cycle c (some i)
  pure (.projectStateChanged i target)

def completeProjectMilestone (cmd : CommandRowId) (g : ExpectedGeneration)
    (c : OperatingCycleId) (i : ProjectMilestoneId) :
    Transition [.projectMilestones,.coordinationCommandProvenance] EventBody := do
  let cycle ← coordinationCycle g c
  let milestone ← Tx.get Tbl.projectMilestones i Rejection.subjectNotFound
  Tx.require (milestone.lifecycleState==.pending) .invalidLifecycleTransition
  let _ ← Tx.update Tbl.projectMilestones (fun r => r.projectMilestoneId==i)
    (fun r => {r with lifecycleState := .completed,completedByCommandId := some cmd})
    .subjectNotFound
  recordCoordinationProvenance cmd cycle c (some milestone.projectId)
  pure (.projectMilestoneCompleted i)

def reopenProject (cmd : CommandRowId) (g : ExpectedGeneration) (c : OperatingCycleId)
    (i : ProjectId) : Transition [.projects,.coordinationCommandProvenance] EventBody := do
  let cycle ← coordinationCycle g c
  let project ← projectRow i
  Tx.require (project.lifecycleState==.closed || project.lifecycleState==.terminated)
    .invalidLifecycleTransition
  transitionProjectState cmd i .reopened
  recordCoordinationProvenance cmd cycle c (some i)
  pure (.projectStateChanged i .reopened)

def createTicket (cmd : CommandRowId) (g : ExpectedGeneration) (c : OperatingCycleId)
    (project : ProjectId) (title : TicketTitle) (condition : TicketAcceptanceConditionText)
    (prerequisite : Option TicketId) :
    Transition [.tickets,.ticketAcceptanceConditions,.ticketPrerequisites,
      .coordinationCommandProvenance] EventBody := do
  let cycle ← coordinationCycle g c
  projectIsActive project
  Tx.each (fun p => do
    let ticket ← ticketRow p
    Tx.require (ticket.projectId==project) .subjectNotFound) prerequisite.toList
  let i ← Tx.insert Tbl.tickets (fun i =>
    {ticketId := i,projectId := project,ticketTitle := title.stored,lifecycleState := .draft,
     createdByCommandId := cmd,lastTransitionCommandId := cmd}) .invalidLifecycleTransition
  let _ ← Tx.insert Tbl.ticketAcceptanceConditions (fun j =>
    {ticketAcceptanceConditionId := j,ticketId := i,conditionText := condition.stored,
     lifecycleState := .pending,createdByCommandId := cmd,satisfiedByCommandId := none})
    .invalidLifecycleTransition
  Tx.each (fun p => Tx.store Tbl.ticketPrerequisites
    {ticketId := i,prerequisiteTicketId := p,createdByCommandId := cmd}
    .invalidLifecycleTransition) prerequisite.toList
  recordCoordinationProvenance cmd cycle c (some project)
  pure (.ticketCreated i project)

/-- Ticket states move only through work items and attempts. -/
def transitionTicket : Transition [] EventBody := Tx.raise .invalidLifecycleTransition

end Society.Kernel
