import Society.Handler
import Society.Latency.LivePlan

namespace Society.Latency
open Society.Coding Society.Stateful
open Society.Kernel (Blake3Digest I64 forumF0Awareness forumF0AwarenessDigest forumF0ToolContractDigest)
open Society.Relational (bigintLimit)

/-! The choreography of a matched pair: the Forum frontier and the prompt of each actor, and the
record that keeps the gates of the two arms. -/

variable (hash : Bytes → Blake3Digest)

inductive ChoreographyError where
  | invalidRoleSeat
  | roleContractMismatch
  | invalidFrozenForumHead
  | invalidArmTransition
  | exposureDoesNotMatchTreatment
  | correctionBarrierNotReady
  | analysis (e : AnalysisInputError)
  | fixture (panic : FixturePanic)
  deriving DecidableEq

section Exposure

/-- The first message that an actor may see; every constructor of the source makes it positive. -/
@[ext] structure ForumExposure where
  visibleFromMessageOrdinal : I64
  valid : 0<visibleFromMessageOrdinal.val
  deriving DecidableEq

namespace ForumExposure

def source : ForumExposure := ⟨⟨1,I64.one_valid⟩,by decide⟩

def retainedSuccessor : ForumExposure := source

def resetSuccessor (frozenForumHead : I64) : Except ChoreographyError ForumExposure :=
  if h0 : frozenForumHead.val<0 then .error .invalidFrozenForumHead
  else if h : frozenForumHead.val+1<bigintLimit then
    .ok ⟨⟨frozenForumHead.val+1,by have := frozenForumHead.valid; omega⟩,by
      change 0<frozenForumHead.val+1
      omega⟩
  else .error .invalidFrozenForumHead

end ForumExposure
end Exposure

section Arms

structure ArmChoreography where
  treatment : TreatmentArm
  sourceExposure : ForumExposure
  deriving DecidableEq

namespace ArmChoreography

def new (treatment : TreatmentArm) : ArmChoreography := ⟨treatment,.source⟩

def successorExposure (a : ArmChoreography) (frozenForumHead : I64) :
    Except ChoreographyError ForumExposure :=
  match a.treatment with
  | .retained => .ok .retainedSuccessor
  | .reset => ForumExposure.resetSuccessor frozenForumHead

end ArmChoreography

structure PairChoreography where
  pairId : AnalysisPairId
  seedDigest : Blake3Digest
  descriptorDigest : Blake3Digest
  retained : ArmChoreography
  reset : ArmChoreography
  deriving DecidableEq

def PairChoreography.new (descriptor : LiveRunDescriptor) (pair : PairSeed) : PairChoreography :=
  ⟨pair.pairId,pair.seedDigest,descriptor.sealedDigest,.new .retained,.new .reset⟩

def LiveRunPlan.choreographies (p : LiveRunPlan) : List PairChoreography :=
  p.pairs.map (PairChoreography.new p.descriptor)

end Arms

section Records

inductive ArmLifecycle where
  | planned | sourceFrozen | successorExposed | correctionReleased | successorClosed | invalidated
  deriving DecidableEq

structure ArmStateRecord where
  treatment : TreatmentArm
  lifecycle : ArmLifecycle
  frozenForumHead : Option I64
  successorExposure : Option ForumExposure
  deriving DecidableEq

namespace ArmStateRecord

def planned (treatment : TreatmentArm) : ArmStateRecord := ⟨treatment,.planned,none,none⟩

abbrev Step := Handler ArmStateRecord ChoreographyError Unit

def markSourceFrozen (frozenForumHead : I64) : Step := do
  let s ← Handler.get
  Handler.ensure (s.lifecycle=.planned ∧ ¬frozenForumHead.val<0) .invalidArmTransition
  Handler.modify (fun s => { s with frozenForumHead := some frozenForumHead })
  Handler.modify (fun s => { s with lifecycle := .sourceFrozen })

/-- The frontier that follows the head frozen in the record, where there is one. -/
def expectedReset (s : ArmStateRecord) : Option ForumExposure :=
  s.frozenForumHead.bind (fun head => (ForumExposure.resetSuccessor head).toOption)

def markSuccessorExposed (exposure : ForumExposure) : Step := do
  let s ← Handler.get
  Handler.ensure (s.lifecycle=.sourceFrozen) .invalidArmTransition
  Handler.ensure (¬(s.treatment=.reset ∧ some exposure≠s.expectedReset))
    .exposureDoesNotMatchTreatment
  Handler.ensure (¬(s.treatment=.retained ∧ exposure≠.retainedSuccessor))
    .exposureDoesNotMatchTreatment
  Handler.modify (fun s => { s with successorExposure := some exposure })
  Handler.modify (fun s => { s with lifecycle := .successorExposed })

def releaseCorrection : Step := do
  let s ← Handler.get
  Handler.ensure (s.lifecycle=.successorExposed) .correctionBarrierNotReady
  Handler.modify (fun s => { s with lifecycle := .correctionReleased })

def markSuccessorClosed : Step := do
  let s ← Handler.get
  Handler.ensure (s.lifecycle=.correctionReleased) .invalidArmTransition
  Handler.modify (fun s => { s with lifecycle := .successorClosed })

def invalidate : Step := Handler.modify (fun s => { s with lifecycle := .invalidated })

end ArmStateRecord

/-- Both arms of a pair, and whether their one correction is out. -/
structure PairStateRecord where
  pairId : AnalysisPairId
  seedDigest : Blake3Digest
  descriptorDigest : Blake3Digest
  retained : ArmStateRecord
  reset : ArmStateRecord
  correctionReleased : Bool
  deriving DecidableEq

namespace PairStateRecord

def planned (c : PairChoreography) : PairStateRecord :=
  ⟨c.pairId,c.seedDigest,c.descriptorDigest,.planned .retained,.planned .reset,false⟩

def arm (s : PairStateRecord) : TreatmentArm → ArmStateRecord
  | .retained => s.retained
  | .reset => s.reset

def lifecycle (s : PairStateRecord) (t : TreatmentArm) : ArmLifecycle := (s.arm t).lifecycle

def setArm (t : TreatmentArm) (s : PairStateRecord) (a : ArmStateRecord) : PairStateRecord :=
  match t with
  | .retained => { s with retained := a }
  | .reset => { s with reset := a }

abbrev Step := Handler PairStateRecord ChoreographyError Unit

def armMut (t : TreatmentArm) (m : ArmStateRecord.Step) : Step := Handler.within (·.arm t) (setArm t) m

def markSourceFrozen (t : TreatmentArm) (frozenForumHead : I64) : Step :=
  armMut t (ArmStateRecord.markSourceFrozen frozenForumHead)

def markSuccessorExposed (t : TreatmentArm) (exposure : ForumExposure) : Step :=
  armMut t (ArmStateRecord.markSuccessorExposed exposure)

def releaseMatchedCorrection : Step := do
  let s ← Handler.get
  Handler.ensure (¬(s.correctionReleased=true ∨ s.retained.lifecycle≠.successorExposed ∨
    s.reset.lifecycle≠.successorExposed)) .correctionBarrierNotReady
  armMut .retained ArmStateRecord.releaseCorrection
  armMut .reset ArmStateRecord.releaseCorrection
  Handler.modify (fun s => { s with correctionReleased := true })

def markSuccessorClosed (t : TreatmentArm) : Step := armMut t ArmStateRecord.markSuccessorClosed

def invalidate : Step := do
  armMut .retained ArmStateRecord.invalidate
  armMut .reset ArmStateRecord.invalidate

end PairStateRecord
end Records

section Prompts

inductive PrivateViewMaterial where
  | evidenceCard (cardOrdinal : UInt8) (bytes : Bytes) (digest : Blake3Digest)
  | forum (obligation : ForumReadObligation) (exposure : ForumExposure) (digest : Blake3Digest)
  deriving DecidableEq

def PrivateViewMaterial.digest : PrivateViewMaterial → Blake3Digest
  | .evidenceCard _ _ digest => digest
  | .forum _ _ digest => digest

structure ActorPromptMaterial where
  phase : PopulationPhase
  ordinal : RoleOrdinal
  role : RoleKind
  privateView : PrivateViewMaterial
  systemPrompt : Bytes
  taskPrompt : Bytes
  systemPromptDigest : Blake3Digest
  taskPromptDigest : Blake3Digest
  deriving DecidableEq

def ActorPromptMaterial.privateViewDigest (p : ActorPromptMaterial) : Blake3Digest :=
  p.privateView.digest

def taskAssignmentRevision : Bytes := utf8 "cl-001|task-assignment|v2"

/-- The observer's view goes by the digest of its card, a Forum view by its own. -/
def viewMaterial (view : ActorPrivateView) (exposure : ForumExposure) :
    Except ChoreographyError PrivateViewMaterial :=
  match view.kind with
  | .evidenceCard _ =>
    match view.card with
    | some card => .ok (.evidenceCard card.ordinal card.bytes card.digest)
    | none => .error .roleContractMismatch
  | .forum _ =>
    match view.forumObligation with
    | some obligation => .ok (.forum obligation exposure (view.digest hash))
    | none => .error .roleContractMismatch

def systemPromptFor (rolePrompt : Bytes) : Bytes :=
  utf8 forumF0Awareness++utf8 "\n\n"++rolePrompt

def putView : PrivateViewMaterial → Bytes
  | .evidenceCard cardOrdinal bytes digest =>
    [1,cardOrdinal]++digest.bytes++putU64 (UInt64.ofNat bytes.length)++bytes
  | .forum obligation _ _ => [2,obligation.number]

def taskPromptFor (rolePrompt : Bytes) (phase : PopulationPhase) (ordinal : RoleOrdinal)
    (view : PrivateViewMaterial) (exposure : ForumExposure) : Bytes :=
  taskAssignmentRevision++utf8 "\n\nrole-instructions:\n"++rolePrompt++
    utf8 "\n\nassignment-record"++[0,phase.tag,0,ordinal.value,0]++view.digest.bytes++[0]++
    be64 exposure.visibleFromMessageOrdinal.val++[0]++putView view

namespace LiveRunDescriptor

def roles (d : LiveRunDescriptor) : PopulationPhase → Seats
  | .source => d.sourceRoles
  | .successor => d.successorRoles

/-- The prompt of one seat. It takes a frontier and no treatment. -/
def actorPrompt (d : LiveRunDescriptor) (phase : PopulationPhase) (ordinal : RoleOrdinal)
    (exposure : ForumExposure) : Except ChoreographyError ActorPromptMaterial :=
  match (d.roles phase).toList.find? (·.ordinal=ordinal),RoleSpecification.canonical ordinal with
  | some seat,some specification =>
    if specification.kind≠seat.role ∨ specification.privateView≠seat.privateView ∨
        specification.promptFragment.digest hash≠seat.rolePromptDigest ∨
        seat.forumPromptDigest≠forumF0AwarenessDigest hash ∨
        seat.forumToolDigest≠forumF0ToolContractDigest hash then .error .roleContractMismatch
    else do
      let fixture ← (WorldFixture.canonical hash).mapError .fixture
      let view ← (specification.resolveView fixture).mapError (fun _ => .roleContractMismatch)
      let privateView ← viewMaterial hash view exposure
      let rolePrompt := specification.promptFragment.bytes
      let systemPrompt := systemPromptFor rolePrompt
      let taskPrompt := taskPromptFor rolePrompt phase ordinal privateView exposure
      .ok { phase, ordinal, role := seat.role, privateView, systemPrompt, taskPrompt,
            systemPromptDigest := hash systemPrompt, taskPromptDigest := hash taskPrompt }
  | _,_ => .error .invalidRoleSeat

end LiveRunDescriptor
end Prompts
end Society.Latency
