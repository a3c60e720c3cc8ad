import Society.Codec
import Society.Delimited
import Society.Kernel.Forum

namespace Society.Product
open Society.Coding
open Society.Kernel (Blake3Digest hexText hexDigit isAsciiAlphanumeric)

/-! The values of the product materializer: identities, Git objects, profiles and receipts. -/

section Identities

def maxIdentityBytes : Nat := 128
def maxDerivedNameBytes : Nat := maxIdentityBytes*2+64
def maxMessageBytes : Nat := 65536
def maxValidationSteps : Nat := 32
def maxPortablePatchBytes : Nat := 32*1024*1024
def maxGitStdoutBytes : Nat := maxPortablePatchBytes
def maxGitStderrBytes : Nat := 1024*1024

/-- A nonempty name of letters, digits, hyphens and underscores. -/
def isName (limit : Nat) (value : String) : Bool :=
  !value.isEmpty && decide (value.utf8ByteSize≤limit) &&
    value.toList.all (fun c => isAsciiAlphanumeric c || c== '-' || c== '_')

def isClosedIdentity (value : String) : Bool := isName maxIdentityBytes value

def isDerivedName (value : String) : Bool := isName maxDerivedNameBytes value

inductive IdentityKind where
  | productChange | deliveryAuthorization | applicationRevision | authorizingDecision
  | validationProfile
  deriving DecidableEq

/-- A closed identity of one kind. -/
@[ext] structure Identity (kind : IdentityKind) where
  value : String
  valid : isClosedIdentity value=true
  deriving DecidableEq

abbrev ProductChangeId := Identity .productChange
abbrev DeliveryAuthorizationId := Identity .deliveryAuthorization
abbrev ApplicationRevisionId := Identity .applicationRevision
abbrev AuthorizingDecisionId := Identity .authorizingDecision
abbrev ValidationProfileId := Identity .validationProfile

/-- An absolute path, as the names on it. -/
abbrev Path := List Bytes

def Path.encoded (path : Path) : Bytes := if path=[] then [47] else path.flatMap (fun name => 47::name)

def Path.startsWith (path root : Path) : Bool := root.isPrefixOf path

end Identities

section Objects

inductive GitObjectFormat where
  | sha1 | sha256
  deriving DecidableEq

def GitObjectFormat.hexBytes : GitObjectFormat → Nat
  | sha1 => 20
  | sha256 => 32

/-- The bytes of a Git object's name, with the format of its repository. -/
@[ext] structure GitObjectId where
  format : GitObjectFormat
  bytes : Bytes
  valid : bytes.length=format.hexBytes
  deriving DecidableEq

def hex (bytes : Bytes) : String :=
  String.ofList (bytes.flatMap (fun b => [hexDigit (b.toNat/16),hexDigit (b.toNat%16)]))

def GitObjectId.toHex (id : GitObjectId) : String := hex id.bytes

@[ext] structure CommitId where
  object : GitObjectId
  deriving DecidableEq

@[ext] structure TreeId where
  object : GitObjectId
  deriving DecidableEq

def CommitId.toHex (id : CommitId) : String := id.object.toHex

def TreeId.toHex (id : TreeId) : String := id.object.toHex

@[ext] structure PatchDigest where
  digest : Blake3Digest
  deriving DecidableEq

@[ext] structure ValidationDigest where
  digest : Blake3Digest
  deriving DecidableEq

@[ext] structure OutputDigest where
  digest : Blake3Digest
  deriving DecidableEq

@[ext] structure CommitMessageDigest where
  digest : Blake3Digest
  deriving DecidableEq

structure SourceRepository where
  worktreeRoot : Path
  gitCommonDir : Path
  objectFormat : GitObjectFormat
  deriving DecidableEq

structure LocalBranchRef where
  value : String
  deriving DecidableEq

structure RepositoryPath where
  value : String
  deriving DecidableEq

structure WorktreeRoot where
  path : Path
  deriving DecidableEq

structure WorktreeName where
  value : String
  valid : isDerivedName value=true
  deriving DecidableEq

structure ManagedWorktreePath where
  root : Path
  path : Path
  name : WorktreeName
  deriving DecidableEq

def WorktreeRoot.allocate (r : WorktreeRoot) (name : WorktreeName) : ManagedWorktreePath :=
  ⟨r.path,r.path++[utf8 name.value],name⟩

end Objects

section Validation

/-- A name on a canonical path. -/
def isPathName (name : Bytes) : Bool :=
  !name.isEmpty && !name.contains 0 && !name.contains 47 && name≠[46] && name≠[46,46]

def shellNames : List String := ["sh","bash","zsh","fish","dash","cmd","powershell"]

/-- The canonical path of a file that is no shell. -/
def isProgramPath (path : Path) : Bool :=
  !path.isEmpty && path.all isPathName &&
    !path.getLast?.any (fun name => shellNames.any (fun shell => utf8 shell==name))

@[ext] structure AssignedValidationProgram where
  path : Path
  valid : isProgramPath path=true
  deriving DecidableEq

@[ext] structure ValidationProgramArgument where
  value : String
  valid : (0 : UInt8)∉utf8 value ∧ (utf8 value).length≤ maxMessageBytes
  deriving DecidableEq

structure ValidationProgramInvocation where
  program : AssignedValidationProgram
  arguments : List ValidationProgramArgument
  deriving DecidableEq

inductive ValidationCommand where
  | gitDiffCheck
  | externallySupervisedProgram (invocation : ValidationProgramInvocation)
  deriving DecidableEq

def ValidationCommand.requiresExternalSupervision : ValidationCommand → Bool
  | gitDiffCheck => false
  | externallySupervisedProgram _ => true

def ValidationCommand.invocation : ValidationCommand → Option ValidationProgramInvocation
  | gitDiffCheck => none
  | externallySupervisedProgram invocation => some invocation

@[ext] structure ValidationProfile where
  id : ValidationProfileId
  commands : List ValidationCommand
  valid : commands≠[] ∧ commands.length≤ maxValidationSteps
  deriving DecidableEq

structure ValidationStepReceipt where
  command : ValidationCommand
  stdout : OutputDigest
  stderr : OutputDigest
  deriving DecidableEq

structure ExternallySupervisedValidationStepReceipt where
  invocation : ValidationProgramInvocation
  stdout : OutputDigest
  stderr : OutputDigest
  deriving DecidableEq

structure ExternallySupervisedValidationReceipt where
  profile : ValidationProfileId
  tree : TreeId
  steps : List ExternallySupervisedValidationStepReceipt
  valid : steps.length≤ maxValidationSteps
  deriving DecidableEq

structure ValidationReceipt where
  applicationRevision : ApplicationRevisionId
  authorizingDecision : AuthorizingDecisionId
  profile : ValidationProfileId
  tree : TreeId
  steps : List ValidationStepReceipt
  digest : ValidationDigest
  deriving DecidableEq

structure ValidationFailureReceipt where
  applicationRevision : ApplicationRevisionId
  authorizingDecision : AuthorizingDecisionId
  profile : ValidationProfileId
  tree : TreeId
  completedSteps : List ValidationStepReceipt
  failedCommand : ValidationCommand
  stdout : OutputDigest
  stderr : OutputDigest
  deriving DecidableEq

def commandBytes : ValidationCommand → Bytes
  | .gitDiffCheck => utf8 "git-diff-check"
  | .externallySupervisedProgram invocation =>
    utf8 "externally-supervised-program-v1"++[0]++invocation.program.path.encoded++
      invocation.arguments.flatMap (fun argument => 0::utf8 argument.value)

def stepBytes (step : ValidationStepReceipt) : Bytes :=
  commandBytes step.command++[0]++utf8 (hexText step.stdout.digest)++[0]++
    utf8 (hexText step.stderr.digest)++[0]

/-- What the digest of a validation is taken of. -/
def validationBytes (profile : ValidationProfileId) (tree : TreeId)
    (steps : List ValidationStepReceipt) : Bytes :=
  utf8 profile.value++[0]++utf8 tree.toHex++[0]++steps.flatMap stepBytes

def validationDigest (hash : Bytes → Blake3Digest) (profile : ValidationProfileId) (tree : TreeId)
    (steps : List ValidationStepReceipt) : ValidationDigest :=
  ⟨hash (validationBytes profile tree steps)⟩

end Validation

section Commits

def isCommitIdentity (name email : String) : Bool :=
  !name.isEmpty && !email.isEmpty &&
    name.toList.all (fun c => c≠ '\n' && c≠ '\x0d' && c≠ '\x00') &&
    email.toList.all (fun c => c≠ '\n' && c≠ '\x0d' && c≠ '\x00') && email.toList.contains '@'

structure CommitIdentity where
  name : String
  email : String
  valid : isCommitIdentity name email=true

structure CommitTimestamp where
  unixSeconds : Int64
  utcOffsetMinutes : Int
  valid : -(23*60+59)≤utcOffsetMinutes ∧ utcOffsetMinutes≤23*60+59

def twoDigits (n : Nat) : String := if n<10 then "0"++toString n else toString n

def CommitTimestamp.gitValue (t : CommitTimestamp) : String :=
  toString t.unixSeconds.toInt++" "++(if t.utcOffsetMinutes<0 then "-" else "+")++
    twoDigits (t.utcOffsetMinutes.natAbs/60)++twoDigits (t.utcOffsetMinutes.natAbs%60)

structure CommitMessage where
  value : String
  valid : value.utf8ByteSize≤ maxMessageBytes ∧ '\x00'∉value.toList ∧ '\x0d'∉value.toList ∧
    value.toList.getLast?=some '\n'

inductive HookPolicy where
  | gitCommitTreeWithHooksDisabled
  deriving DecidableEq

structure ControlledCommitSpec where
  author : CommitIdentity
  authorTime : CommitTimestamp
  committer : CommitIdentity
  committerTime : CommitTimestamp
  message : CommitMessage

structure ControlledCommitReceipt where
  applicationRevision : ApplicationRevisionId
  authorizingDecision : AuthorizingDecisionId
  commit : CommitId
  parent : CommitId
  tree : TreeId
  message : CommitMessageDigest
  hookPolicy : HookPolicy
  deriving DecidableEq

end Commits

section Receipts

inductive ProductState where
  | worktreeReady | candidateSubmitted | materialized | commitValidated | deliveryReady | delivered
  | reopened
  deriving DecidableEq

structure CleanSourceQualification where
  repository : SourceRepository
  targetRef : LocalBranchRef
  admittedBase : CommitId
  admittedBaseTree : TreeId
  deriving DecidableEq

structure PortablePatch where
  path : Path
  digest : PatchDigest
  deriving DecidableEq

structure CandidateCaptureReceipt where
  change : ProductChangeId
  repository : SourceRepository
  base : CommitId
  baseTree : TreeId
  candidateTree : TreeId
  patch : PortablePatch
  deriving DecidableEq

structure ProductChangeAuthorizationInput where
  authorizationId : DeliveryAuthorizationId
  applicationRevision : ApplicationRevisionId
  authorizingDecision : AuthorizingDecisionId
  change : ProductChangeId
  repository : SourceRepository
  targetRef : LocalBranchRef
  admittedBase : CommitId
  acceptedPatch : PatchDigest
  acceptedTree : TreeId
  validationProfile : ValidationProfileId
  deriving DecidableEq

structure MaterializedTreeReceipt where
  applicationRevision : ApplicationRevisionId
  authorizingDecision : AuthorizingDecisionId
  state : ProductState
  base : CommitId
  baseTree : TreeId
  tree : TreeId
  patch : PatchDigest
  deriving DecidableEq

structure CommitValidatedReceipt where
  applicationRevision : ApplicationRevisionId
  authorizingDecision : AuthorizingDecisionId
  state : ProductState
  validation : ValidationReceipt
  commit : ControlledCommitReceipt
  deriving DecidableEq

inductive CleanupEvidence where
  | removed (worktreeName : String)
  | retainedAfterFailure (worktreeName : String)
  deriving DecidableEq

structure MaterializationReceipt where
  state : ProductState
  authorizationInput : ProductChangeAuthorizationInput
  materialized : MaterializedTreeReceipt
  commitValidated : CommitValidatedReceipt
  cleanup : CleanupEvidence
  deriving DecidableEq

/-- A fresh worktree of the accepted tree. -/
structure PreparedMaterialization where
  authorizationInput : ProductChangeAuthorizationInput
  repository : SourceRepository
  location : ManagedWorktreePath
  materialized : MaterializedTreeReceipt
  deriving DecidableEq

inductive DeliveryDisposition where
  | fastForwarded | alreadyDelivered
  deriving DecidableEq

structure DeliveryReceipt where
  state : ProductState
  authorizationId : DeliveryAuthorizationId
  applicationRevision : ApplicationRevisionId
  authorizingDecision : AuthorizingDecisionId
  targetRef : LocalBranchRef
  expectedOldHead : CommitId
  deliveredCommit : CommitId
  deliveredTree : TreeId
  disposition : DeliveryDisposition
  deriving DecidableEq

end Receipts

section Errors

inductive IoError where
  | notFound
  | other (code : Nat)
  deriving DecidableEq

inductive ProductError where
  | invalidIdentity (kind : String)
  | invalidGitObjectId (value : String)
  | targetNotClean (status : OutputDigest)
  | targetHeadNotTargetRef
  | targetHeadMoved (expected actual : CommitId)
  | worktreeRootNotIsolated (path : Path)
  | managedPathAlreadyExists (path : Path)
  | unmanagedWorktreePath (path : Path)
  | portablePatchTooLarge (actual limit : Nat)
  | nonUtf8GitPath
  | invalidRepositoryPath (value : String)
  | malformedNulDelimitedGitOutput (operation : String)
  | nonUtf8GitOutput (operation : String)
  | invalidSingleLineGitOutput (description : String)
  | acceptedPatchDigestMismatch (expected actual : PatchDigest)
  | authorizationInputDoesNotMatchCapture
  | authorizationInputDoesNotMatchValidationProfile
  | externallySupervisedValidationRequired
  | externallySupervisedValidationReceiptMismatch
  | freshWorktreeBaseMismatch (expected actual : CommitId)
  | materializedTreeMismatch (expected actual : TreeId)
  | validationFailed (receipt : ValidationFailureReceipt)
  | preparedTreeChanged (expected actual : TreeId)
  | preparedWorktreeUntrackedFiles (paths : List RepositoryPath)
  | preparedWorktreeModified (stdout stderr : OutputDigest)
  | materializationFailed (source : ProductError) (cleanup : CleanupEvidence)
  | constructedCommitTreeMismatch (expected actual : TreeId)
  | constructedCommitParentMismatch (expected : CommitId) (actual : List CommitId)
  | malformedCommitParentOutput
  | deliveryAdmissionMismatch
  | deliveryRepositoryMismatch
  | materializationReceiptCrossLinkMismatch
  | deliveryTreeMismatch (expected actual : TreeId)
  | deliveryParentMismatch (expected : CommitId) (actual : List CommitId)
  | deliveredHeadMismatch (expected actual : CommitId)
  | deliveryCheckoutInconsistent
  | deliveryCheckoutRecoveryRequired (deliveredCommit : CommitId) (source : ProductError)
  | worktreeRemovalNotVerified (path : Path)
  | gitOutputLimitExceeded (operation stream : String) (limit : Nat)
  | gitOperationTimedOut (operation : String)
  | processCollectorPanicked (collector : String)
  | repositoryExecutableConfigDenied (key : String)
  | gitFailure (operation : String) (status : Option Int) (stdout stderr : OutputDigest)
  | io (operation : String) (path : Path) (source : IoError)

end Errors

section Parsing

def hexNibble (b : UInt8) : Option UInt8 :=
  if 48≤b ∧ b≤57 then some (b-48)
  else if 97≤b ∧ b≤102 then some (b-97+10)
  else if 65≤b ∧ b≤70 then some (b-65+10)
  else none

/-- The bytes of pairs of digits, without a last odd one. -/
def decodePairs : Bytes → Option Bytes
  | high::low::rest => do
    let h ← hexNibble high
    let l ← hexNibble low
    let bytes ← decodePairs rest
    pure ((h<<<4 ||| l)::bytes)
  | _ => some []

def GitObjectId.parse (value : String) (format : GitObjectFormat) : Except ProductError GitObjectId :=
  if (utf8 value).length≠format.hexBytes*2 ∨ ¬(utf8 value).all (fun b => (hexNibble b).isSome) then
    .error (.invalidGitObjectId value)
  else
    match decodePairs (utf8 value) with
    | none => .error (.invalidGitObjectId value)
    | some bytes =>
      if h : bytes.length=format.hexBytes then .ok ⟨format,bytes,h⟩
      else .error (.invalidGitObjectId value)

def CommitId.parse (value : String) (format : GitObjectFormat) : Except ProductError CommitId :=
  (GitObjectId.parse value format).map CommitId.mk

def TreeId.parse (value : String) (format : GitObjectFormat) : Except ProductError TreeId :=
  (GitObjectId.parse value format).map TreeId.mk

def WorktreeName.parse (value : String) : Except ProductError WorktreeName :=
  if h : isDerivedName value=true then .ok ⟨value,h⟩
  else .error (.invalidIdentity "worktree identity")

def RepositoryPath.fromGitOutput (bytes : Bytes) : Except ProductError RepositoryPath :=
  match ofUtf8 bytes with
  | none => .error .nonUtf8GitPath
  | some value =>
    if value.isEmpty ∨ bytes.head?=some 47 ∨ [46,46]∈pieces 47 bytes then
      .error (.invalidRepositoryPath value)
    else .ok ⟨value⟩

def singleLineUtf8 (bytes : Bytes) (description : String) : Except ProductError String :=
  match ofUtf8 bytes with
  | none => .error (.nonUtf8GitOutput description)
  | some text =>
    if text.toList.getLast?≠some '\n' then .error (.invalidSingleLineGitOutput description)
    else
      let value := text.toList.dropLast
      if value=[] ∨ value.any (fun c => c= '\n' || c= '\x0d' || c= '\x00') then
        .error (.invalidSingleLineGitOutput description)
      else .ok (String.ofList value)

def isAsciiWhitespace (c : Char) : Bool :=
  c= ' ' || c= '\t' || c= '\n' || c= '\x0c' || c= '\x0d'

def splitAsciiWhitespace (text : String) : List String :=
  ((pieces ' ' (text.toList.map (fun c => if isAsciiWhitespace c then ' ' else c))).filter (·≠[])).map
    String.ofList

def isExecutableGitConfigKey (key : String) : Bool :=
  let key := key.toList.map Char.toLower
  "filter.".toList.isPrefixOf key || "include.path".toList.isPrefixOf key ||
    "includeif.".toList.isPrefixOf key

end Parsing
end Society.Product
