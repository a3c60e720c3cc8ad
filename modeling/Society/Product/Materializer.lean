import Society.Handler
import Society.Product.Values

namespace Society.Product
open Society.Coding Society.Stateful
open Society.Kernel (Blake3Digest)

/-! The materializer of product changes, over what Git and the file system answer. -/

section System

/-- An argument of a Git call. -/
inductive Argument where
  | text (value : String)
  | path (value : Path)
  deriving DecidableEq

instance : Coe String Argument := ⟨.text⟩

structure GitCall where
  directory : Path
  operation : String
  arguments : List Argument
  input : Option Bytes
  environment : List (String × Argument)
  deriving DecidableEq

structure ExitStatus where
  code : Option Int
  deriving DecidableEq

def ExitStatus.success (status : ExitStatus) : Bool := status.code==some 0

/-- What becomes of a Git process, with the bytes that it writes and the fate of its input. -/
inductive GitProcess where
  | failed (operation : String) (path : Path) (source : IoError)
  | panicked (collector : String)
  | ended (status : ExitStatus) (timedOut : Bool) (stdout stderr : Bytes) (stdin : Option IoError)
  deriving DecidableEq

structure Output where
  status : ExitStatus
  stdout : Bytes
  stderr : Bytes
  deriving DecidableEq

structure FileMetadata where
  isFile : Bool
  length : Nat
  deriving DecidableEq

/-- The Git executable with the answers of the system, which may depend on all that happened. -/
structure ProductMaterializer (σ : Type) where
  git : Path
  run : GitCall → σ → GitProcess × σ
  symlinkMetadata : Path → Handler σ IoError Unit
  metadata : Path → Handler σ IoError FileMetadata
  openFile : Path → Handler σ IoError Unit
  readToEnd : Path → Handler σ IoError Bytes
  hash : Bytes → Blake3Digest

end System

namespace ProductMaterializer
open Handler
variable {σ α : Type} (m : ProductMaterializer σ)

section Git

def io (operation : String) (path : Path) (call : Handler σ IoError α) : Handler σ ProductError α :=
  call.mapError (.io operation path)

def spawn (call : GitCall) : Handler σ ProductError GitProcess := fun s =>
  (.ok (m.run call s).1,(m.run call s).2)

def outputDigest (bytes : Bytes) : OutputDigest := ⟨m.hash bytes⟩

def gitOutput (directory : Path) (operation : String) (arguments : List Argument)
    (input : Option Bytes) (environment : List (String × Argument)) :
    Handler σ ProductError Output := do
  match ← m.spawn ⟨directory,operation,arguments,input,environment⟩ with
  | .failed operation path source => fail (.io operation path source)
  | .panicked collector => fail (.processCollectorPanicked collector)
  | .ended status timedOut stdout stderr stdin =>
    match input,stdin,status.success with
    | some _,some source,true => fail (.io "writing Git argv stdin" m.git source)
    | _,_,_ => do
      ensure (timedOut=false) (.gitOperationTimedOut operation)
      ensure (stdout.length≤ maxGitStdoutBytes)
        (.gitOutputLimitExceeded operation "stdout" maxGitStdoutBytes)
      ensure (stderr.length≤ maxGitStderrBytes)
        (.gitOutputLimitExceeded operation "stderr" maxGitStderrBytes)
      pure ⟨status,stdout,stderr⟩

def gitOk (directory : Path) (operation : String) (arguments : List Argument)
    (input : Option Bytes) (environment : List (String × Argument)) :
    Handler σ ProductError Bytes := do
  let output ← m.gitOutput directory operation arguments input environment
  ensure (output.status.success=true) (.gitFailure operation output.status.code
    (m.outputDigest output.stdout) (m.outputDigest output.stderr))
  pure output.stdout

def gitText (directory : Path) (operation : String) (arguments : List Argument) :
    Handler σ ProductError String := do
  let output ← m.gitOk directory operation arguments none []
  match ofUtf8 output with
  | some text => pure text
  | none => fail (.nonUtf8GitOutput operation)

def gitNulPaths (directory : Path) (operation : String) (arguments : List Argument) :
    Handler σ ProductError (List RepositoryPath) := do
  let bytes ← m.gitOk directory operation arguments none []
  if bytes=[] then pure []
  else do
    ensure (bytes.getLast?=some 0) (.malformedNulDelimitedGitOutput operation)
    lift ((pieces 0 bytes.dropLast).mapM RepositoryPath.fromGitOutput)

/-- Each key of the local configuration is harmless. -/
def configKeysSafe : List Bytes → Except ProductError Unit
  | [] => .ok ()
  | raw::keys =>
    match ofUtf8 raw with
    | none => .error (.nonUtf8GitOutput "reading Git configuration key")
    | some key =>
      if isExecutableGitConfigKey key=true then .error (.repositoryExecutableConfigDenied key)
      else configKeysSafe keys

def assertRepositoryExecutableConfigSafe (path : Path) : Handler σ ProductError Unit := do
  let keys ← m.gitOk path "enumerating repository-local Git configuration"
    ["config","--no-includes","--null","--name-only","--list"] none []
  if keys=[] then pure ()
  else do
    ensure (keys.getLast?=some 0)
      (.malformedNulDelimitedGitOutput "enumerating repository-local Git configuration")
    lift (configKeysSafe (pieces 0 keys.dropLast))

def listUntracked (path : Path) : Handler σ ProductError (List RepositoryPath) :=
  m.gitNulPaths path "listing candidate untracked paths"
    ["ls-files","--others","--exclude-standard","-z"]

def writeTree (path : Path) (format : GitObjectFormat) : Handler σ ProductError TreeId := do
  let output ← m.gitOk path "writing materialized tree" ["write-tree"] none []
  let line ← lift (singleLineUtf8 output "materialized tree identity")
  lift (TreeId.parse line format)

def resolveCommitAtRevision (path : Path) (revision : String) (format : GitObjectFormat) :
    Handler σ ProductError CommitId := do
  let output ← m.gitOk path "resolving commit" ["rev-parse","--verify",revision++"^\x7bcommit\x7d"]
    none []
  let line ← lift (singleLineUtf8 output "commit identity")
  lift (CommitId.parse line format)

def resolveCommit (repository : SourceRepository) (revision : String) :
    Handler σ ProductError CommitId :=
  m.resolveCommitAtRevision repository.worktreeRoot revision repository.objectFormat

def resolveCommitAtPath (path : Path) (format : GitObjectFormat) : Handler σ ProductError CommitId :=
  m.resolveCommitAtRevision path "HEAD" format

def resolveTreeForCommitAtPath (path : Path) (commit : CommitId) (format : GitObjectFormat) :
    Handler σ ProductError TreeId := do
  let output ← m.gitOk path "resolving commit tree"
    ["rev-parse","--verify",commit.toHex++"^\x7btree\x7d"] none []
  let line ← lift (singleLineUtf8 output "tree identity")
  lift (TreeId.parse line format)

def resolveTreeForCommit (repository : SourceRepository) (commit : CommitId) :
    Handler σ ProductError TreeId :=
  m.resolveTreeForCommitAtPath repository.worktreeRoot commit repository.objectFormat

def commitParents (path : Path) (commit : CommitId) (format : GitObjectFormat) :
    Handler σ ProductError (List CommitId) := do
  let output ← m.gitText path "reading controlled commit parents"
    ["rev-list","--parents","-n","1",commit.toHex]
  match splitAsciiWhitespace output with
  | [] => fail .malformedCommitParentOutput
  | reported::parents => do
    let reported ← lift (CommitId.parse reported format)
    ensure (reported=commit) .malformedCommitParentOutput
    lift (parents.mapM (fun parent => CommitId.parse parent format))

end Git

section Files

/-- The entry is looked at without following it. -/
def directoryEntryExistsNoFollow (path : Path) (operation : String) : Handler σ ProductError Bool :=
  fun s => match m.symlinkMetadata path s with
    | (.ok _,t) => (.ok true,t)
    | (.error .notFound,t) => (.ok false,t)
    | (.error source,t) => (.error (.io operation path source),t)

def assertAbsent (location : ManagedWorktreePath) : Handler σ ProductError Unit := do
  let exist ← m.directoryEntryExistsNoFollow location.path "checking managed worktree absence"
  ensure (exist=false) (.managedPathAlreadyExists location.path)

def assertOwned (location : ManagedWorktreePath) : Handler σ ProductError Unit :=
  ensure (location.path≠[] ∧ location.path.dropLast=location.root)
    (.unmanagedWorktreePath location.path)

def removeWorktree (repository : SourceRepository) (location : ManagedWorktreePath) :
    Handler σ ProductError CleanupEvidence := do
  assertOwned location
  let _ ← m.gitOk repository.worktreeRoot "removing managed Git worktree"
    ["worktree","remove","--force",.path location.path] none []
  let exist ← m.directoryEntryExistsNoFollow location.path "verifying managed worktree removal"
  ensure (exist=false) (.worktreeRemovalNotVerified location.path)
  pure (.removed location.name.value)

def readBoundedPatchArtifact (patch : PortablePatch) : Handler σ ProductError Bytes := do
  let metadata ← io "reading accepted patch artifact metadata" patch.path (m.metadata patch.path)
  ensure (metadata.isFile=true ∧ metadata.length≤ maxPortablePatchBytes)
    (.portablePatchTooLarge metadata.length maxPortablePatchBytes)
  io "opening accepted patch artifact" patch.path (m.openFile patch.path)
  let content ← io "reading accepted patch artifact" patch.path (m.readToEnd patch.path)
  let bytes := content.take (maxPortablePatchBytes+1)
  ensure (bytes.length≤ maxPortablePatchBytes)
    (.portablePatchTooLarge bytes.length maxPortablePatchBytes)
  let digest : PatchDigest := ⟨m.hash bytes⟩
  ensure (digest=patch.digest) (.acceptedPatchDigestMismatch patch.digest digest)
  pure bytes

def assertWorktreeRootIsIsolated (repository : SourceRepository) (root : WorktreeRoot) :
    Handler σ ProductError Unit :=
  ensure (¬(root.path=repository.worktreeRoot ∨
    root.path.startsWith repository.worktreeRoot=true)) (.worktreeRootNotIsolated root.path)

end Files

section Preparation

def assertAuthorizationInputMatchesCapture (authorizationInput : ProductChangeAuthorizationInput)
    (capture : CandidateCaptureReceipt) (validation : ValidationProfile) :
    Handler σ ProductError Unit := do
  ensure (¬(authorizationInput.change≠capture.change ∨
    authorizationInput.repository≠capture.repository ∨
    authorizationInput.admittedBase≠capture.base ∨
    authorizationInput.acceptedTree≠capture.candidateTree ∨
    authorizationInput.acceptedPatch≠capture.patch.digest)) .authorizationInputDoesNotMatchCapture
  ensure (authorizationInput.validationProfile=validation.id)
    .authorizationInputDoesNotMatchValidationProfile

def applyPatchToFreshWorktree (authorizationInput : ProductChangeAuthorizationInput)
    (repository : SourceRepository) (location : ManagedWorktreePath) (patchBytes : Bytes) :
    Handler σ ProductError TreeId := do
  let head ← m.resolveCommitAtPath location.path repository.objectFormat
  ensure (head=authorizationInput.admittedBase)
    (.freshWorktreeBaseMismatch authorizationInput.admittedBase head)
  let _ ← m.gitOk location.path "applying accepted binary patch"
    ["apply","--index","--binary","--whitespace=nowarn"] (some patchBytes) []
  let materializedTree ← m.writeTree location.path repository.objectFormat
  ensure (materializedTree=authorizationInput.acceptedTree)
    (.materializedTreeMismatch authorizationInput.acceptedTree materializedTree)
  pure materializedTree

/-- The failure of a materialization, once its worktree is removed or known to be left. -/
def materializationFailed (repository : SourceRepository) (location : ManagedWorktreePath)
    (error : ProductError) : Handler σ ProductError α := do
  match ← attempt (m.removeWorktree repository location) with
  | .ok cleanup => fail (.materializationFailed error cleanup)
  | .error _ => fail (.materializationFailed error (.retainedAfterFailure location.name.value))

def prepareMaterialization (authorizationInput : ProductChangeAuthorizationInput)
    (capture : CandidateCaptureReceipt) (validationProfile : ValidationProfile)
    (worktreeRoot : WorktreeRoot) : Handler σ ProductError PreparedMaterialization := do
  m.assertRepositoryExecutableConfigSafe capture.repository.worktreeRoot
  assertAuthorizationInputMatchesCapture authorizationInput capture validationProfile
  assertWorktreeRootIsIsolated capture.repository worktreeRoot
  let patchBytes ← m.readBoundedPatchArtifact capture.patch
  let name ← lift (WorktreeName.parse ("materialize-"++authorizationInput.authorizationId.value))
  let location := worktreeRoot.allocate name
  m.assertAbsent location
  let _ ← m.gitOk capture.repository.worktreeRoot "creating fresh materialization worktree"
    ["worktree","add","--detach",.path location.path,authorizationInput.admittedBase.toHex] none []
  match ← attempt (m.applyPatchToFreshWorktree authorizationInput capture.repository location
      patchBytes) with
  | .ok tree => pure ⟨authorizationInput,capture.repository,location,
      ⟨authorizationInput.applicationRevision,authorizationInput.authorizingDecision,.materialized,
        authorizationInput.admittedBase,capture.baseTree,tree,authorizationInput.acceptedPatch⟩⟩
  | .error error => m.materializationFailed capture.repository location error

end Preparation

section Validation

def assertSupervisedValidationMatches (profile : ValidationProfile) (tree : TreeId)
    (supervised : ExternallySupervisedValidationReceipt) : Handler σ ProductError Unit := do
  ensure (¬(supervised.profile≠profile.id ∨ supervised.tree≠tree))
    .externallySupervisedValidationReceiptMismatch
  ensure (profile.commands.filterMap ValidationCommand.invocation=
    supervised.steps.map (·.invocation)) .externallySupervisedValidationReceiptMismatch

def assertPreparedWorktreeIntact (prepared : PreparedMaterialization) :
    Handler σ ProductError Unit := do
  let path := prepared.location.path
  let tree ← m.writeTree path prepared.repository.objectFormat
  ensure (tree=prepared.materialized.tree) (.preparedTreeChanged prepared.materialized.tree tree)
  let untracked ← m.listUntracked path
  ensure (untracked=[]) (.preparedWorktreeUntrackedFiles untracked)
  let output ← m.gitOutput path "checking prepared worktree against its index"
    ["diff","--quiet","--no-ext-diff","--no-textconv"] none []
  ensure (output.status.success=true)
    (.preparedWorktreeModified (m.outputDigest output.stdout) (m.outputDigest output.stderr))

/-- The commands in their order, with the supervised steps and the receipts of those completed. -/
def runCommands (worktree : Path) (tree : TreeId) (profile : ValidationProfile)
    (authorizationInput : ProductChangeAuthorizationInput) :
    List ValidationCommand → List ExternallySupervisedValidationStepReceipt →
      List ValidationStepReceipt → Handler σ ProductError (List ValidationStepReceipt)
  | [],_,completed => pure completed
  | .gitDiffCheck::commands,steps,completed => do
    let output ← m.gitOutput worktree "running Git whitespace validation"
      ["diff","--check","--no-ext-diff","--no-textconv","--cached"] none []
    let stdout := m.outputDigest output.stdout
    let stderr := m.outputDigest output.stderr
    ensure (output.status.success=true) (.validationFailed ⟨authorizationInput.applicationRevision,
      authorizationInput.authorizingDecision,profile.id,tree,completed,.gitDiffCheck,stdout,stderr⟩)
    runCommands worktree tree profile authorizationInput commands steps
      (completed++[⟨.gitDiffCheck,stdout,stderr⟩])
  | .externallySupervisedProgram _::_,[],_ => fail .externallySupervisedValidationReceiptMismatch
  | .externallySupervisedProgram invocation::commands,step::steps,completed =>
    runCommands worktree tree profile authorizationInput commands steps
      (completed++[⟨.externallySupervisedProgram invocation,step.stdout,step.stderr⟩])

def runValidation (worktree : Path) (tree : TreeId) (profile : ValidationProfile)
    (supervised : ExternallySupervisedValidationReceipt)
    (authorizationInput : ProductChangeAuthorizationInput) :
    Handler σ ProductError ValidationReceipt := do
  assertSupervisedValidationMatches profile tree supervised
  let completed ← m.runCommands worktree tree profile authorizationInput profile.commands
    supervised.steps []
  pure ⟨authorizationInput.applicationRevision,authorizationInput.authorizingDecision,profile.id,tree,
    completed,validationDigest m.hash profile.id tree completed⟩

end Validation

section Finalization

def constructControlledCommit (worktree : Path) (format : GitObjectFormat)
    (authorizationInput : ProductChangeAuthorizationInput) (tree : TreeId)
    (specification : ControlledCommitSpec) : Handler σ ProductError ControlledCommitReceipt := do
  let output ← m.gitOk worktree "constructing controlled no-hook commit"
    ["commit-tree",tree.toHex,"-p",authorizationInput.admittedBase.toHex]
    (some (utf8 specification.message.value))
    [("GIT_AUTHOR_NAME",specification.author.name),("GIT_AUTHOR_EMAIL",specification.author.email),
      ("GIT_AUTHOR_DATE",specification.authorTime.gitValue),
      ("GIT_COMMITTER_NAME",specification.committer.name),
      ("GIT_COMMITTER_EMAIL",specification.committer.email),
      ("GIT_COMMITTER_DATE",specification.committerTime.gitValue)]
  let line ← lift (singleLineUtf8 output "controlled commit identity")
  let commit ← lift (CommitId.parse line format)
  let parsedTree ← m.resolveTreeForCommitAtPath worktree commit format
  ensure (parsedTree=tree) (.constructedCommitTreeMismatch tree parsedTree)
  let parents ← m.commitParents worktree commit format
  ensure (parents=[authorizationInput.admittedBase])
    (.constructedCommitParentMismatch authorizationInput.admittedBase parents)
  pure ⟨authorizationInput.applicationRevision,authorizationInput.authorizingDecision,commit,
    authorizationInput.admittedBase,tree,⟨m.hash (utf8 specification.message.value)⟩,
    .gitCommitTreeWithHooksDisabled⟩

/-- The validation and the commit of a finalization. -/
def validateAndCommit (prepared : PreparedMaterialization) (validationProfile : ValidationProfile)
    (supervised : ExternallySupervisedValidationReceipt) (commitSpec : ControlledCommitSpec) :
    Handler σ ProductError (ValidationReceipt × ControlledCommitReceipt) := do
  let path := prepared.location.path
  m.assertRepositoryExecutableConfigSafe path
  m.assertPreparedWorktreeIntact prepared
  let validation ← m.runValidation path prepared.materialized.tree validationProfile supervised
    prepared.authorizationInput
  m.assertPreparedWorktreeIntact prepared
  let commit ← m.constructControlledCommit path prepared.repository.objectFormat
    prepared.authorizationInput prepared.materialized.tree commitSpec
  pure (validation,commit)

def finalizeMaterialization (prepared : PreparedMaterialization)
    (validationProfile : ValidationProfile) (supervised : ExternallySupervisedValidationReceipt)
    (commitSpec : ControlledCommitSpec) : Handler σ ProductError MaterializationReceipt := do
  match ← attempt (m.validateAndCommit prepared validationProfile supervised commitSpec) with
  | .ok (validation,commit) => do
    let cleanup ← m.removeWorktree prepared.repository prepared.location
    pure ⟨.deliveryReady,prepared.authorizationInput,prepared.materialized,
      ⟨validation.applicationRevision,validation.authorizingDecision,.commitValidated,validation,
        commit⟩,cleanup⟩
  | .error error => m.materializationFailed prepared.repository prepared.location error

def abandonPreparedMaterialization (prepared : PreparedMaterialization) :
    Handler σ ProductError CleanupEvidence :=
  m.removeWorktree prepared.repository prepared.location

/-- Preparation and finalization at once, for the profiles of internal checks only. -/
def materialize (authorizationInput : ProductChangeAuthorizationInput)
    (capture : CandidateCaptureReceipt) (validationProfile : ValidationProfile)
    (commitSpec : ControlledCommitSpec) (worktreeRoot : WorktreeRoot) :
    Handler σ ProductError MaterializationReceipt := do
  ensure (validationProfile.commands.any ValidationCommand.requiresExternalSupervision=false)
    .externallySupervisedValidationRequired
  let prepared ← m.prepareMaterialization authorizationInput capture validationProfile worktreeRoot
  m.finalizeMaterialization prepared validationProfile
    ⟨validationProfile.id,prepared.materialized.tree,[],Nat.zero_le _⟩ commitSpec

end Finalization

section Delivery

def assertMaterializationCrossLinks (materialization : MaterializationReceipt) :
    Except ProductError Unit :=
  let authorizationInput := materialization.authorizationInput
  let materialized := materialization.materialized
  let commitValidated := materialization.commitValidated
  let validation := commitValidated.validation
  let commit := commitValidated.commit
  if materialization.state≠.deliveryReady ∨
    materialized.state≠.materialized ∨
    commitValidated.state≠.commitValidated ∨
    materialized.applicationRevision≠authorizationInput.applicationRevision ∨
    materialized.authorizingDecision≠authorizationInput.authorizingDecision ∨
    materialized.base≠authorizationInput.admittedBase ∨
    materialized.tree≠authorizationInput.acceptedTree ∨
    materialized.patch≠authorizationInput.acceptedPatch ∨
    commitValidated.applicationRevision≠authorizationInput.applicationRevision ∨
    commitValidated.authorizingDecision≠authorizationInput.authorizingDecision ∨
    validation.applicationRevision≠authorizationInput.applicationRevision ∨
    validation.authorizingDecision≠authorizationInput.authorizingDecision ∨
    validation.profile≠authorizationInput.validationProfile ∨
    validation.tree≠authorizationInput.acceptedTree ∨
    validation.digest≠validationDigest m.hash validation.profile validation.tree validation.steps ∨
    commit.applicationRevision≠authorizationInput.applicationRevision ∨
    commit.authorizingDecision≠authorizationInput.authorizingDecision ∨
    commit.parent≠authorizationInput.admittedBase ∨
    commit.tree≠authorizationInput.acceptedTree ∨
    commit.tree≠materialized.tree then
    .error .materializationReceiptCrossLinkMismatch
  else .ok ()

def assertHeadIsTargetRef (repository : SourceRepository) (target : LocalBranchRef) :
    Handler σ ProductError Unit := do
  let output ← m.gitOutput repository.worktreeRoot "checking symbolic HEAD"
    ["symbolic-ref","-q","HEAD"] none []
  ensure (output.status.success=true) .targetHeadNotTargetRef
  let actual ← lift (singleLineUtf8 output.stdout "symbolic HEAD")
  ensure (actual=target.value) .targetHeadNotTargetRef

def assertTargetClean (repository : SourceRepository) : Handler σ ProductError Unit := do
  let status ← m.gitOk repository.worktreeRoot "checking clean Git status"
    ["status","--porcelain=v1","-z","--untracked-files=all"] none []
  ensure (status=[]) (.targetNotClean (m.outputDigest status))

def assertControlledCommit (repository : SourceRepository) (receipt : MaterializationReceipt) :
    Handler σ ProductError Unit := do
  let commit := receipt.commitValidated.commit
  let tree ← m.resolveTreeForCommit repository commit.commit
  ensure (¬(tree≠receipt.materialized.tree ∨ tree≠commit.tree))
    (.deliveryTreeMismatch receipt.materialized.tree tree)
  let parents ← m.commitParents repository.worktreeRoot commit.commit repository.objectFormat
  ensure (parents=[receipt.authorizationInput.admittedBase])
    (.deliveryParentMismatch receipt.authorizationInput.admittedBase parents)

def assertDeliveredCheckoutConsistent (repository : SourceRepository)
    (materialization : MaterializationReceipt) : Handler σ ProductError Unit := do
  let deliveredHead ← m.resolveCommit repository materialization.authorizationInput.targetRef.value
  ensure (deliveredHead=materialization.commitValidated.commit.commit)
    (.deliveredHeadMismatch materialization.commitValidated.commit.commit deliveredHead)
  let workingCopy ← m.gitOutput repository.worktreeRoot "checking delivered working copy"
    ["diff","--quiet","--no-ext-diff","--no-textconv"] none []
  ensure (workingCopy.status.success=true) .deliveryCheckoutInconsistent
  let index ← m.gitOutput repository.worktreeRoot "checking delivered index"
    ["diff","--cached","--quiet","--no-ext-diff","--no-textconv"] none []
  ensure (index.status.success=true) .deliveryCheckoutInconsistent
  m.assertTargetClean repository

def updateDeliveredCheckout (repository : SourceRepository)
    (materialization : MaterializationReceipt) : Handler σ ProductError Unit := do
  let _ ← m.gitOk repository.worktreeRoot "updating delivered checkout tree"
    ["read-tree","--reset","-u",materialization.commitValidated.commit.commit.toHex] none []
  m.assertDeliveredCheckoutConsistent repository materialization

def deliveryReceipt (qualification : CleanSourceQualification)
    (materialization : MaterializationReceipt) (disposition : DeliveryDisposition) :
    DeliveryReceipt where
  state := .delivered
  authorizationId := materialization.authorizationInput.authorizationId
  applicationRevision := materialization.authorizationInput.applicationRevision
  authorizingDecision := materialization.authorizationInput.authorizingDecision
  targetRef := qualification.targetRef
  expectedOldHead := qualification.admittedBase
  deliveredCommit := materialization.commitValidated.commit.commit
  deliveredTree := materialization.materialized.tree
  disposition := disposition

def deliver (qualification : CleanSourceQualification) (materialization : MaterializationReceipt) :
    Handler σ ProductError DeliveryReceipt := do
  let repository := qualification.repository
  let commit := materialization.commitValidated.commit.commit
  m.assertRepositoryExecutableConfigSafe repository.worktreeRoot
  lift (m.assertMaterializationCrossLinks materialization)
  ensure (repository=materialization.authorizationInput.repository) .deliveryRepositoryMismatch
  ensure (¬(qualification.targetRef≠materialization.authorizationInput.targetRef ∨
    qualification.admittedBase≠materialization.authorizationInput.admittedBase))
    .deliveryAdmissionMismatch
  m.assertHeadIsTargetRef repository qualification.targetRef
  let current ← m.resolveCommit repository qualification.targetRef.value
  if current=commit then do
    (m.assertDeliveredCheckoutConsistent repository materialization).mapError
      (.deliveryCheckoutRecoveryRequired commit)
    pure (deliveryReceipt qualification materialization .alreadyDelivered)
  else do
    ensure (current=qualification.admittedBase) (.targetHeadMoved qualification.admittedBase current)
    m.assertTargetClean repository
    m.assertControlledCommit repository materialization
    let _ ← m.gitOk repository.worktreeRoot "guarded local branch fast-forward"
      ["update-ref",qualification.targetRef.value,commit.toHex,qualification.admittedBase.toHex]
      none []
    -- The branch has moved: what fails from here on is not undone.
    (m.updateDeliveredCheckout repository materialization).mapError
      (.deliveryCheckoutRecoveryRequired commit)
    pure (deliveryReceipt qualification materialization .fastForwarded)

end Delivery
end ProductMaterializer
end Society.Product
