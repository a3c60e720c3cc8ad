import Society.Kernel.Pi
import Society.Kernel.Graph

namespace Society.Kernel
open Society.Relational

/-! Sealed content, forensic manifests and deterministic experiments. -/

def recordContentSealReceipt (cmd : CommandRowId) (digest : Blake3Digest) :
    Transition [.contentSealReceipts] EventBody := do
  let duplicate ← Tx.read (fun s =>
    (s.rows .contentSealReceipts).any (fun r => r.digest==digest))
  Tx.require (!duplicate) .contentObjectNotSealed
  let i ← Tx.insert Tbl.contentSealReceipts (fun i =>
    {contentSealReceiptId := i,digest := digest,attestedByCommandId := cmd})
    .contentObjectNotSealed
  pure (.contentSealReceiptRecorded i digest)

def registerContentObject (cmd : CommandRowId) (receipt : ContentSealReceiptId) :
    Transition [.contentObjects] EventBody := do
  let _ ← Tx.get Tbl.contentSealReceipts receipt Rejection.contentSealReceiptMissing
  let registered ← Tx.read (fun s =>
    (s.rows .contentObjects).any (fun r => r.contentSealReceiptId==receipt))
  Tx.require (!registered) .contentObjectNotSealed
  let i ← Tx.insert Tbl.contentObjects (fun i =>
    {contentObjectId := i,contentSealReceiptId := receipt,registeredByCommandId := cmd})
    .contentObjectNotSealed
  pure (.contentObjectRegistered i receipt)

def NativeChildOwner.experiment : NativeChildOwner → Option DeterministicExperimentId
  | .deterministicEvaluator e _ _ => some e
  | .pi _ => none

/-- Whether the scheduler has admitted an evaluator process for the experiment. -/
def schedulerClaimed (s : Store) (i : DeterministicExperimentId) : Bool :=
  (s.rows .nativeChildSpawnAdmissions).any (fun r => r.owner.experiment==some i)

/-- Registers a manifest whose one member is the evaluator output. -/
def addForensicManifest {W : List Tbl} (cmd : CommandRowId) (i : DeterministicExperimentId)
    (policy : ForensicManifestCapturePolicy) (retention : RetentionAccessClass)
    (output : ContentObjectId) (hm : .forensicManifests ∈ W := by decide)
    (ho : .forensicManifestObjects ∈ W := by decide) : Transition W ForensicManifestId := do
  let manifest ← Tx.insert Tbl.forensicManifests (fun j =>
    {forensicManifestId := j,producingDeterministicExperimentId := i,capturePolicy := policy,
     retentionAccessClass := retention,registeredByCommandId := cmd})
    .forensicManifestBindingMismatch hm
  Tx.store Tbl.forensicManifestObjects
    {forensicManifestId := manifest,memberOrdinal := ⟨1,Ranged.one_valid⟩,contentObjectId := output}
    .forensicManifestBindingMismatch ho
  pure manifest

def registerForensicManifest (cmd : CommandRowId) (g : ExpectedGeneration)
    (c : OperatingCycleId) (i : DeterministicExperimentId)
    (policy : ForensicManifestCapturePolicy) (retention : RetentionAccessClass)
    (output : ContentObjectId) :
    Transition [.forensicManifests,.forensicManifestObjects,.coordinationCommandProvenance]
      EventBody := do
  let cycle ← coordinationCycle g c
  let experiment ← Tx.get Tbl.deterministicExperiments i
    Rejection.forensicManifestBindingMismatch
  Tx.require (experiment.lifecycleState==.registered && experiment.operatingCycleId==c)
    .forensicManifestBindingMismatch
  let claimed ← Tx.read (fun s => schedulerClaimed s i)
  Tx.require (!claimed) .forensicManifestBindingMismatch
  let _ ← Tx.get Tbl.contentObjects output Rejection.forensicManifestBindingMismatch
  let manifest ← addForensicManifest cmd i policy retention output
  recordCoordinationProvenance cmd cycle c (some experiment.projectId)
  pure (.forensicManifestRegistered manifest i output)

def completeSeal (s : Store) (i : NativeChildId) (kind : ChildStreamKind) :
    Option NativeChildStreamSealRow :=
  (s.rows .nativeChildStreamSeals).find? (fun r =>
    r.nativeChildId==i && r.streamKind==kind && r.completeness==.complete)

/-- A finished evaluator process, joined with its experiment and its sealed output. -/
structure EvaluatorOccurrence where
  experiment : DeterministicExperimentRow
  child : NativeChildRow
  stdout : NativeChildStreamSealRow

def evaluatorOccurrence (s : Store) (c : OperatingCycleId) (i : NativeChildSpawnAdmissionId) :
    Option EvaluatorOccurrence := do
  let admission ← s.find .nativeChildSpawnAdmissions i
  let e ← admission.owner.experiment
  let experiment ← s.find .deterministicExperiments e
  let child ← childOfAdmission s i
  let stdout ← completeSeal s child.nativeChildId .stdout
  let _ ← completeSeal s child.nativeChildId .stderr
  if admission.owner==.deterministicEvaluator e experiment.evaluatorRevisionId
      experiment.inputManifestId && experiment.operatingCycleId==admission.operatingCycleId &&
    admission.operatingCycleId==c && admission.budgetReservationId.isNone &&
    admission.lifecycleState==.spawned && experiment.lifecycleState==.registered &&
    child.lifecycleState==.finalized && (sidecarOf s i).isNone
  then some ⟨experiment,child,stdout⟩ else none

def registerDeterministicEvaluatorForensicManifest (cmd : CommandRowId)
    (g : ExpectedGeneration) (c : OperatingCycleId) (i : NativeChildSpawnAdmissionId) :
    Transition [.forensicManifests,.forensicManifestObjects,
      .deterministicEvaluatorForensicManifestBindings,.coordinationCommandProvenance]
      EventBody := do
  let cycle ← coordinationCycle g c
  let o ← Tx.read (fun s => evaluatorOccurrence s c i)
  let occurrence ← Tx.the o .forensicManifestBindingMismatch
  let experiment := occurrence.experiment
  let stdout := occurrence.stdout
  let manifest ← addForensicManifest cmd experiment.deterministicExperimentId
    .deterministicExperimentEvaluatorV1 .forensicRestricted stdout.retainedContentObjectId
  Tx.store Tbl.deterministicEvaluatorForensicManifestBindings
    {forensicManifestId := manifest,
     deterministicExperimentId := experiment.deterministicExperimentId,
     nativeChildSpawnAdmissionId := i,nativeChildId := occurrence.child.nativeChildId,
     evaluatorRevisionId := experiment.evaluatorRevisionId,
     inputManifestId := experiment.inputManifestId,
     nativeChildStreamSealId := stdout.nativeChildStreamSealId,
     evaluatorOutputContentObjectId := stdout.retainedContentObjectId,
     registeredByCommandId := cmd} .forensicManifestBindingMismatch
  recordCoordinationProvenance cmd cycle c (some experiment.projectId)
  pure (.deterministicEvaluatorForensicManifestRegistered manifest
    experiment.deterministicExperimentId i stdout.nativeChildStreamSealId
    stdout.retainedContentObjectId)

/-- The revision of the evaluator content for the application, registered on first use. -/
def evaluatorRevisionForApplicationContent (cmd : CommandRowId)
    (application : ApplicationRevisionId) (content : ContentObjectId) {W : List Tbl}
    (hw : .evaluatorRevisions ∈ W := by decide) : Transition W EvaluatorRevisionId := do
  let existing ← Tx.read (fun s => (s.rows .evaluatorRevisions).find? (fun r =>
    r.applicationRevisionId==application && r.contentObjectId==content))
  match existing with
  | some r => pure r.evaluatorRevisionId
  | none =>
    Tx.insert Tbl.evaluatorRevisions (fun i =>
      {evaluatorRevisionId := i,applicationRevisionId := application,
       contentObjectId := content,registeredByCommandId := cmd})
      Rejection.contentObjectNotSealed hw

def inputManifestForContent (cmd : CommandRowId) (content : ContentObjectId) {W : List Tbl}
    (hw : .inputManifests ∈ W := by decide) : Transition W InputManifestId := do
  let existing ← Tx.read (fun s =>
    (s.rows .inputManifests).find? (fun r => r.contentObjectId==content))
  match existing with
  | some r => pure r.inputManifestId
  | none =>
    Tx.insert Tbl.inputManifests (fun i =>
      {inputManifestId := i,contentObjectId := content,registeredByCommandId := cmd})
      Rejection.contentObjectNotSealed hw

def registerDeterministicExperiment (cmd : CommandRowId) (g : ExpectedGeneration)
    (c : OperatingCycleId) (project : ProjectId) (ticketId : TicketId)
    (target : GraphRevisionId) (evaluator input : ContentObjectId) :
    Transition [.evaluatorRevisions,.inputManifests,.deterministicExperiments,
      .coordinationCommandProvenance] EventBody := do
  let cycle ← coordinationCycle g c
  projectIsActive project
  let revision ← graphRevisionRow target
  let ticket ← ticketRow ticketId
  let sealed ← Tx.read (fun s =>
    s.has .contentObjects evaluator.val && s.has .contentObjects input.val)
  Tx.require (ticket.projectId==project && revision.projectId==project &&
    revision.lifecycleState==.committed && sealed) .deterministicExperimentBindingMismatch
  let o ← Tx.read (fun s =>
    (s.rows .projectNorthStarAlignments).find? (fun r => r.projectId==project))
  let alignment ← Tx.the o .deterministicExperimentBindingMismatch
  let v ← evaluatorRevisionForApplicationContent cmd alignment.applicationRevisionId evaluator
  let m ← inputManifestForContent cmd input
  let i ← Tx.insert Tbl.deterministicExperiments (fun i =>
    {deterministicExperimentId := i,operatingCycleId := c,projectId := project,
     ticketId := ticketId,targetGraphRevisionId := target,evaluatorRevisionId := v,
     inputManifestId := m,lifecycleState := .registered,registeredByCommandId := cmd,
     lastTransitionCommandId := cmd}) .deterministicExperimentBindingMismatch
  recordCoordinationProvenance cmd cycle c (some project)
  pure (.deterministicExperimentRegistered i v m)

/-- The binding of a manifest to a finished evaluator process whose sealed standard output
is `output`. -/
def derivedOccurrence (s : Store) (manifest : ForensicManifestId)
    (e : DeterministicExperimentId) (v : EvaluatorRevisionId) (m : InputManifestId)
    (output : ContentObjectId) :
    Option (NativeChildSpawnAdmissionRow × NativeChildRow) := do
  let binding ← s.find .deterministicEvaluatorForensicManifestBindings ⟨manifest.val,manifest.valid⟩
  let admission ← s.find .nativeChildSpawnAdmissions binding.nativeChildSpawnAdmissionId
  let child ← s.find .nativeChildren binding.nativeChildId
  let stdout ← s.find .nativeChildStreamSeals binding.nativeChildStreamSealId
  let _ ← completeSeal s binding.nativeChildId .stderr
  if binding.deterministicExperimentId==e && binding.evaluatorRevisionId==v &&
    binding.inputManifestId==m && binding.evaluatorOutputContentObjectId==output &&
    admission.owner==.deterministicEvaluator e v m &&
    child.nativeChildSpawnAdmissionId==binding.nativeChildSpawnAdmissionId &&
    child.lifecycleState==.finalized && stdout.nativeChildId==binding.nativeChildId &&
    stdout.streamKind==.stdout && stdout.completeness==.complete &&
    stdout.retainedContentObjectId==output
  then some (admission,child) else none

def recordDeterministicEvaluationReceipt (cmd : CommandRowId) (g : ExpectedGeneration)
    (c : OperatingCycleId) (i : DeterministicExperimentId) (v : EvaluatorRevisionId)
    (m : InputManifestId) (manifestId : ForensicManifestId) (output : ContentObjectId) :
    Transition [.deterministicEvaluationReceipts,.coordinationCommandProvenance]
      EventBody := do
  let cycle ← coordinationCycle g c
  let experiment ← Tx.get Tbl.deterministicExperiments i
    Rejection.deterministicEvaluationBindingMismatch
  Tx.require (experiment.operatingCycleId==c && experiment.lifecycleState==.registered &&
    experiment.evaluatorRevisionId==v && experiment.inputManifestId==m)
    .deterministicEvaluationBindingMismatch
  let manifest ← Tx.get Tbl.forensicManifests manifestId
    Rejection.deterministicEvaluationBindingMismatch
  Tx.require (manifest.producingDeterministicExperimentId==i)
    .deterministicEvaluationBindingMismatch
  let member ← Tx.read (fun s => (s.rows .forensicManifestObjects).any (fun r =>
    r.forensicManifestId==manifestId && r.contentObjectId==output))
  Tx.require member .deterministicEvaluationBindingMismatch
  let claimed ← Tx.read (fun s => schedulerClaimed s i)
  let derived ← Tx.read (fun s => (derivedOccurrence s manifestId i v m output).isSome)
  Tx.require (!claimed || derived) .deterministicEvaluationBindingMismatch
  let receipt ← Tx.insert Tbl.deterministicEvaluationReceipts (fun j =>
    {deterministicEvaluationReceiptId := j,deterministicExperimentId := i,
     evaluatorRevisionId := v,inputManifestId := m,forensicManifestId := manifestId,
     evaluatorOutputContentObjectId := output,attestedByCommandId := cmd})
    .deterministicEvaluationBindingMismatch
  recordCoordinationProvenance cmd cycle c (some experiment.projectId)
  pure (.deterministicEvaluationReceiptRecorded receipt i)

/-- The experiment of a receipt that may become evidence: its evaluator process was
spawned without a Pi session, exited with status zero and sealed both streams. -/
def evidenceExperiment (s : Store) (c : OperatingCycleId)
    (receipt : DeterministicEvaluationReceiptRow) : Option DeterministicExperimentRow := do
  let experiment ← s.find .deterministicExperiments receipt.deterministicExperimentId
  let evaluator ← s.find .evaluatorRevisions receipt.evaluatorRevisionId
  let (admission,child) ← derivedOccurrence s receipt.forensicManifestId
    receipt.deterministicExperimentId receipt.evaluatorRevisionId receipt.inputManifestId
    receipt.evaluatorOutputContentObjectId
  if experiment.operatingCycleId==c && experiment.lifecycleState==.registered &&
    (s.rows .projectNorthStarAlignments).any (fun a => a.projectId==experiment.projectId &&
      a.applicationRevisionId==evaluator.applicationRevisionId) &&
    admission.lifecycleState==.spawned &&
    (s.rows .nativeChildReapReceipts).any (fun r => r.nativeChildId==child.nativeChildId &&
      r.waitStatus==.exited ⟨0,by decide⟩) &&
    (sidecarOf s admission.nativeChildSpawnAdmissionId).isNone
  then some experiment else none

def moveExperiment {W : List Tbl} (cmd : CommandRowId) (i : DeterministicExperimentId)
    (state : DeterministicExperimentState) (hw : .deterministicExperiments ∈ W := by decide) :
    Transition W Unit := do
  let _ ← Tx.update Tbl.deterministicExperiments (fun r => r.deterministicExperimentId==i)
    (fun r => {r with lifecycleState := state,lastTransitionCommandId := cmd})
    .subjectNotFound hw

def admitDeterministicEvidence (cmd : CommandRowId) (g : ExpectedGeneration)
    (c : OperatingCycleId) (i : DeterministicEvaluationReceiptId) :
    Transition [.evidenceAdmissions,.deterministicExperiments,.coordinationCommandProvenance]
      EventBody := do
  let cycle ← coordinationCycle g c
  let receipt ← Tx.get Tbl.deterministicEvaluationReceipts i
    Rejection.deterministicEvaluationBindingMismatch
  let o ← Tx.read (fun s => evidenceExperiment s c receipt)
  let experiment ← Tx.the o .deterministicEvaluationBindingMismatch
  let revision ← graphRevisionRow experiment.targetGraphRevisionId
  Tx.require (revision.projectId==experiment.projectId && revision.objectKind==.hypothesis &&
    revision.lifecycleState==.committed) .deterministicEvaluationBindingMismatch
  let admission ← Tx.insert Tbl.evidenceAdmissions (fun j =>
    {evidenceAdmissionId := j,deterministicEvaluationReceiptId := i,
     deterministicExperimentId := receipt.deterministicExperimentId,
     evaluatorRevisionId := receipt.evaluatorRevisionId,
     inputManifestId := receipt.inputManifestId,
     evaluatorOutputContentObjectId := receipt.evaluatorOutputContentObjectId,
     relatedGraphRevisionId := experiment.targetGraphRevisionId,
     semanticRole := .deterministicObservation,applicability := .testsTargetHypothesis,
     limitationKind := .applicationSemanticsUninterpreted,admittedByCommandId := cmd})
    .deterministicEvaluationBindingMismatch
  moveExperiment cmd receipt.deterministicExperimentId .evidenceAdmitted
  recordCoordinationProvenance cmd cycle c (some experiment.projectId)
  pure (.deterministicEvidenceAdmitted admission i .deterministicObservation
    .testsTargetHypothesis .applicationSemanticsUninterpreted)

def invalidationOf (s : Store) (i : NativeChildSpawnAdmissionId) :
    Option NativeChildSpawnInvalidationRow :=
  (s.rows .nativeChildSpawnInvalidations).find? (fun r => r.nativeChildSpawnAdmissionId==i)

/-- Whether the experiment's process is gone: finalized, or never spawned. -/
def evaluatorIsOver (s : Store) (i : DeterministicExperimentId) : Bool :=
  (s.rows .nativeChildSpawnAdmissions).any (fun a => a.owner.experiment==some i &&
    ((s.rows .nativeChildren).any (fun p =>
        p.nativeChildSpawnAdmissionId==a.nativeChildSpawnAdmissionId &&
          p.lifecycleState==.finalized) ||
      a.lifecycleState==.invalidated &&
        (invalidationOf s a.nativeChildSpawnAdmissionId).isSome))

def evaluatorWasCancelled (s : Store) (i : DeterministicExperimentId) : Bool :=
  (s.rows .cancellationPropagationTargets).any (fun t => t.owner==.deterministicExperiment i &&
    (t.targetDisposition==.terminated || t.targetDisposition==.killed)) ||
  (s.rows .nativeChildSpawnAdmissions).any (fun a => a.owner.experiment==some i &&
    (invalidationOf s a.nativeChildSpawnAdmissionId).any (·.reason==.cancelledBeforeSpawn))

def experimentTerminalAllowed : DeterministicExperimentState → OperatingCycleState → Bool
  | .closed,.running => true
  | .failed,.running | .failed,.cancelling | .failed,.reaping => true
  | .cancelled,.cancelling | .cancelled,.reaping => true
  | _,_ => false

def finalizeDeterministicExperiment (cmd : CommandRowId) (g : ExpectedGeneration)
    (c : OperatingCycleId) (i : DeterministicExperimentId) :
    Transition [.deterministicExperiments,.coordinationCommandProvenance] EventBody := do
  let cycle ← cycleForGeneration c g
  let experiment ← Tx.get Tbl.deterministicExperiments i Rejection.subjectNotFound
  Tx.require (experiment.operatingCycleId==c) .subjectNotFound
  let ended ← Tx.read (fun s => evaluatorIsOver s i)
  let cancelled ← Tx.read (fun s => evaluatorWasCancelled s i)
  let terminal ← Tx.the (match experiment.lifecycleState with
    | .evidenceAdmitted => some DeterministicExperimentState.closed
    | .registered => if ended then some (if cancelled then .cancelled else .failed) else none
    | _ => none) .evidenceAdmissionRequired
  Tx.require (experimentTerminalAllowed terminal cycle.lifecycleState)
    .invalidLifecycleTransition
  moveExperiment cmd i terminal
  recordCoordinationProvenance cmd cycle c (some experiment.projectId)
  pure (.deterministicExperimentFinalized i terminal)

end Society.Kernel
