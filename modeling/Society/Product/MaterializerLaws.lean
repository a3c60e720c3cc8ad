import Society.Keeps
import Society.Kernel.Fingerprint
import Society.Product.Materializer

namespace Society.Product
open Society.Coding Society.Stateful
open Society.Kernel (Blake3Digest hexDigit)

/-! What holds of the receipts that the materializer returns, whatever Git answers. -/

section Reading

def digitByte (n : Nat) : UInt8 := (hexDigit n).val.toUInt8

theorem hexNibble_digitByte :
    ∀ n : Fin 16,hexNibble (digitByte n.val)=some (UInt8.ofNat n.val) := by
  decide

theorem hexDigit_ascii : ∀ n : Fin 16,(hexDigit n.val).toNat<128 := by decide

theorem nibbles_joined : ∀ n : Fin 256,
    UInt8.ofNat (n.val/16)<<<4 ||| UInt8.ofNat (n.val%16)=UInt8.ofNat n.val := by decide +kernel

theorem nibble_bounds (b : UInt8) : b.toNat/16<16 ∧ b.toNat%16<16 := by
  have hb := b.toNat_lt
  omega

/-- The text of bytes is two ASCII digits for each. -/
theorem utf8_hex (bytes : Bytes) :
    utf8 (hex bytes)=bytes.flatMap (fun b => [digitByte (b.toNat/16),digitByte (b.toNat%16)]) := by
  rw [hex,utf8_ascii]
  · rw [List.map_flatMap]
    rfl
  · intro x hx
    obtain ⟨b,-,hx⟩ := List.mem_flatMap.mp hx
    obtain ⟨hhigh,hlow⟩ := nibble_bounds b
    simp only [List.mem_cons,List.not_mem_nil,or_false] at hx
    rcases hx with rfl | rfl
    · exact hexDigit_ascii ⟨_,hhigh⟩
    · exact hexDigit_ascii ⟨_,hlow⟩

theorem decodePairs_hex (bytes : Bytes) : decodePairs
    (bytes.flatMap (fun b => [digitByte (b.toNat/16),digitByte (b.toNat%16)]))=some bytes := by
  induction bytes with
  | nil => rfl
  | cons b bytes ih =>
    obtain ⟨hhigh,hlow⟩ := nibble_bounds b
    have hb : UInt8.ofNat (b.toNat/16)<<<4 ||| UInt8.ofNat (b.toNat%16)=b := by
      rw [nibbles_joined ⟨b.toNat,b.toNat_lt⟩]
      exact UInt8.ofNat_toNat
    rw [List.flatMap_cons,List.cons_append,List.cons_append,List.nil_append,decodePairs,
      hexNibble_digitByte ⟨_,hhigh⟩,hexNibble_digitByte ⟨_,hlow⟩,ih]
    simp only [Option.bind_eq_bind,Option.bind_some,hb]
    rfl

/-- The name of an object reads back. -/
theorem parse_toHex (id : GitObjectId) : GitObjectId.parse id.toHex id.format=.ok id := by
  have hlen : (utf8 id.toHex).length=id.format.hexBytes*2 := by
    rw [GitObjectId.toHex,utf8_hex,List.length_flatMap]
    simp [id.valid]
  have hdigits : (utf8 id.toHex).all (fun b => (hexNibble b).isSome)=true := by
    rw [GitObjectId.toHex,utf8_hex,List.all_flatMap,List.all_eq_true]
    intro b _
    obtain ⟨hhigh,hlow⟩ := nibble_bounds b
    simp [hexNibble_digitByte ⟨_,hhigh⟩,hexNibble_digitByte ⟨_,hlow⟩]
  have hpairs : decodePairs (utf8 id.toHex)=some id.bytes := by
    rw [GitObjectId.toHex,utf8_hex]
    exact decodePairs_hex id.bytes
  rw [GitObjectId.parse,if_neg (by simp [hlen,hdigits]),hpairs]
  simp only [dif_pos id.valid]

/-- A character within a line. -/
def isLineChar (c : Char) : Bool := !(c= '\n' || c= '\x0d' || c= '\x00')

theorem singleLineUtf8_line {text : String} (hne : text.toList.isEmpty=false)
    (hclean : text.toList.all isLineChar=true) (description : String) :
    singleLineUtf8 (utf8 (text++"\n")) description=.ok text := by
  have hlist : (text++"\n").toList=text.toList++[ '\n'] := by simp
  have hbad : ¬(text.toList=[] ∨
      text.toList.any (fun c => c= '\n' || c= '\x0d' || c= '\x00')=true) := by
    rw [not_or]
    refine ⟨by simpa using hne,?_⟩
    rw [List.all_eq_not_any_not] at hclean
    simpa [isLineChar] using hclean
  simp only [singleLineUtf8,ofUtf8_utf8,hlist,List.getLast?_concat,List.dropLast_concat,ne_eq,
    not_true_eq_false,if_false,if_neg hbad,String.ofList_toList]

end Reading

namespace ProductMaterializer
open Handler

section Specs
variable {σ α : Type} {m : ProductMaterializer σ}

/-- A validation of a tree under an authorization, by the commands of a profile in their order. -/
structure Validated (m : ProductMaterializer σ) (authorizationInput : ProductChangeAuthorizationInput)
    (tree : TreeId) (profile : ValidationProfile) (v : ValidationReceipt) : Prop where
  applicationRevision : v.applicationRevision=authorizationInput.applicationRevision
  authorizingDecision : v.authorizingDecision=authorizationInput.authorizingDecision
  named : v.profile=profile.id
  whole : v.tree=tree
  commands : v.steps.map (·.command)=profile.commands
  digest : v.digest=validationDigest m.hash v.profile v.tree v.steps

/-- A commit of a tree on the admitted base. -/
structure Committed (authorizationInput : ProductChangeAuthorizationInput) (tree : TreeId)
    (c : ControlledCommitReceipt) : Prop where
  applicationRevision : c.applicationRevision=authorizationInput.applicationRevision
  authorizingDecision : c.authorizingDecision=authorizationInput.authorizingDecision
  parent : c.parent=authorizationInput.admittedBase
  whole : c.tree=tree

variable (m)

theorem runCommands_answers (worktree : Path) (tree : TreeId) (profile : ValidationProfile)
    (authorizationInput : ProductChangeAuthorizationInput) (commands : List ValidationCommand)
    (steps : List ExternallySupervisedValidationStepReceipt)
    (completed : List ValidationStepReceipt) :
    Answers (m.runCommands worktree tree profile authorizationInput commands steps completed)
      (fun r => r.map (·.command)=completed.map (·.command)++commands) := by
  -- One command at a time: each that passes adds its receipt.
  induction commands generalizing steps completed with
  | nil => exact .pure (List.append_nil _).symm
  | cons command commands ih =>
    have hnext (steps : List ExternallySupervisedValidationStepReceipt)
        (stdout stderr : OutputDigest) : Answers (m.runCommands worktree tree profile
          authorizationInput commands steps (completed++[⟨command,stdout,stderr⟩]))
          (fun r => r.map (·.command)=completed.map (·.command)++(command::commands)) := by
      have h := ih steps (completed++[⟨command,stdout,stderr⟩])
      simp only [List.map_append,List.map_cons,List.map_nil,List.append_assoc,
        List.singleton_append] at h
      exact h
    cases command with
    | gitDiffCheck => exact .step (fun _ => .step (fun _ => hnext _ _ _))
    | externallySupervisedProgram invocation =>
      cases steps with
      | nil => exact .fail _
      | cons step steps => exact hnext _ _ _

theorem runValidation_answers (worktree : Path) (tree : TreeId) (profile : ValidationProfile)
    (supervised : ExternallySupervisedValidationReceipt)
    (authorizationInput : ProductChangeAuthorizationInput) :
    Answers (m.runValidation worktree tree profile supervised authorizationInput)
      (Validated m authorizationInput tree profile) :=
  .step (fun _ => (runCommands_answers m ..).bind (fun _ h => .pure ⟨rfl,rfl,rfl,rfl,h,rfl⟩))

theorem constructControlledCommit_answers (worktree : Path) (format : GitObjectFormat)
    (authorizationInput : ProductChangeAuthorizationInput) (tree : TreeId)
    (specification : ControlledCommitSpec) :
    Answers (m.constructControlledCommit worktree format authorizationInput tree specification)
      (Committed authorizationInput tree) := by
  refine .step (fun output => .step (fun line => .step (fun commit => .step (fun parsedTree => ?_))))
  exact .step (fun _ => .step (fun parents => .step (fun _ => .pure ⟨rfl,rfl,rfl,rfl⟩)))

theorem materializationFailed_answers (repository : SourceRepository)
    (location : ManagedWorktreePath) (error : ProductError) (P : α → Prop) :
    Answers (m.materializationFailed repository location error) P := by
  refine .step (fun r => ?_)
  cases r with
  | ok cleanup => exact .fail _
  | error e => exact .fail _

/-- A prepared worktree has the accepted tree of its authorization, which names the profile. -/
structure Prepared (authorizationInput : ProductChangeAuthorizationInput)
    (profile : ValidationProfile) (p : PreparedMaterialization) : Prop where
  input : p.authorizationInput=authorizationInput
  named : authorizationInput.validationProfile=profile.id
  applicationRevision : p.materialized.applicationRevision=authorizationInput.applicationRevision
  authorizingDecision : p.materialized.authorizingDecision=authorizationInput.authorizingDecision
  state : p.materialized.state=.materialized
  base : p.materialized.base=authorizationInput.admittedBase
  tree : p.materialized.tree=authorizationInput.acceptedTree
  patch : p.materialized.patch=authorizationInput.acceptedPatch

theorem applyPatchToFreshWorktree_answers (authorizationInput : ProductChangeAuthorizationInput)
    (repository : SourceRepository) (location : ManagedWorktreePath) (patchBytes : Bytes) :
    Answers (m.applyPatchToFreshWorktree authorizationInput repository location patchBytes)
      (fun tree => tree=authorizationInput.acceptedTree) :=
  .step (fun _ => .step (fun _ => .step (fun _ => .step (fun _ =>
    (Answers.ensure _ _).bind (fun _ h => .pure h)))))

theorem prepareMaterialization_answers (authorizationInput : ProductChangeAuthorizationInput)
    (capture : CandidateCaptureReceipt) (profile : ValidationProfile) (root : WorktreeRoot) :
    Answers (m.prepareMaterialization authorizationInput capture profile root)
      (Prepared authorizationInput profile) := by
  have hmatch : Answers (σ := σ) (assertAuthorizationInputMatchesCapture authorizationInput capture
      profile) (fun _ => authorizationInput.validationProfile=profile.id) :=
    .step (fun _ => .ensure _ _)
  refine .step (fun _ => hmatch.bind (fun _ hnamed => ?_))
  refine .step (fun _ => .step (fun patchBytes => .step (fun name => .step (fun _ => ?_))))
  refine .step (fun _ => (applyPatchToFreshWorktree_answers m ..).attempt.bind (fun r hr => ?_))
  cases r with
  | ok tree => exact .pure ⟨rfl,hnamed,rfl,rfl,rfl,rfl,hr tree rfl,rfl⟩
  | error e => exact materializationFailed_answers m ..

/-- What a finalization returns for a prepared worktree and the profile it is given. -/
structure Finalized (m : ProductMaterializer σ) (p : PreparedMaterialization)
    (profile : ValidationProfile) (r : MaterializationReceipt) : Prop where
  state : r.state=.deliveryReady
  input : r.authorizationInput=p.authorizationInput
  materialized : r.materialized=p.materialized
  validated : Validated m p.authorizationInput p.materialized.tree profile r.commitValidated.validation
  committed : Committed p.authorizationInput p.materialized.tree r.commitValidated.commit
  applicationRevision :
    r.commitValidated.applicationRevision=p.authorizationInput.applicationRevision
  authorizingDecision :
    r.commitValidated.authorizingDecision=p.authorizationInput.authorizingDecision
  commitState : r.commitValidated.state=.commitValidated

theorem finalizeMaterialization_answers (prepared : PreparedMaterialization)
    (profile : ValidationProfile) (supervised : ExternallySupervisedValidationReceipt)
    (commitSpec : ControlledCommitSpec) :
    Answers (m.finalizeMaterialization prepared profile supervised commitSpec)
      (Finalized m prepared profile) := by
  have hboth : Answers (m.validateAndCommit prepared profile supervised commitSpec)
      (fun r => Validated m prepared.authorizationInput prepared.materialized.tree profile r.1 ∧
        Committed prepared.authorizationInput prepared.materialized.tree r.2) := by
    refine .step (fun _ => .step (fun _ => (runValidation_answers m ..).bind (fun v hv => ?_)))
    exact .step (fun _ => (constructControlledCommit_answers m ..).bind (fun c hc => .pure ⟨hv,hc⟩))
  refine hboth.attempt.bind (fun r hr => ?_)
  cases r with
  | error e => exact materializationFailed_answers m ..
  | ok r =>
    obtain ⟨hv,hc⟩ := hr r rfl
    exact .step (fun _ => .pure ⟨rfl,rfl,rfl,hv,hc,hv.applicationRevision,hv.authorizingDecision,rfl⟩)

/-- Of such a receipt the cross links hold just when the profile is the one that is authorized. -/
theorem finalized_linked {authorizationInput : ProductChangeAuthorizationInput}
    {profile profile' : ValidationProfile} {p : PreparedMaterialization} {r : MaterializationReceipt}
    (hp : Prepared authorizationInput profile p) (hf : Finalized m p profile' r) :
    m.assertMaterializationCrossLinks r=.ok () ↔ profile'.id=profile.id := by
  obtain ⟨hauth,hnamed,hpr,hpd,hps,hpb,hpt,hpp⟩ := hp
  obtain ⟨hs,hfa,hfm,hv,hc,hr,hd,hcs⟩ := hf
  rw [hauth] at hfa hv hc hr hd
  rw [hpt] at hv hc
  unfold assertMaterializationCrossLinks
  simp only [hs,hfa,hfm,hr,hd,hcs,hpr,hpd,hps,hpb,hpt,hpp,hv.applicationRevision,
    hv.authorizingDecision,hv.named,hv.whole,hv.digest,hnamed,hc.applicationRevision,
    hc.authorizingDecision,hc.parent,hc.whole]
  simp

/-- Nothing is delivered without the cross links. -/
theorem deliver_answers (qualification : CleanSourceQualification) (r : MaterializationReceipt) :
    Answers (m.deliver qualification r) (fun d => m.assertMaterializationCrossLinks r=.ok () ∧
      d.deliveredCommit=r.commitValidated.commit.commit ∧ d.deliveredTree=r.materialized.tree) := by
  refine .step (fun _ => (Answers.lift _).bind (fun _ hlinks => ?_))
  refine .step (fun _ => .step (fun _ => .step (fun _ => .step (fun current => ?_))))
  split
  · exact .step (fun _ => .pure ⟨hlinks,rfl,rfl⟩)
  · refine .step (fun _ => .step (fun _ => .step (fun _ => .step (fun _ => .step (fun _ => ?_)))))
    exact .pure ⟨hlinks,rfl,rfl⟩

/-- Without them delivery only reads the configuration. -/
theorem deliver_unlinked {r : MaterializationReceipt} {e : ProductError}
    (h : m.assertMaterializationCrossLinks r=.error e) (qualification : CleanSourceQualification) :
    m.deliver qualification r=(do
      m.assertRepositoryExecutableConfigSafe qualification.repository.worktreeRoot
      fail e) := by
  simp only [deliver,h,lift]
  rfl

variable {m}
variable {authorizationInput : ProductChangeAuthorizationInput} {capture : CandidateCaptureReceipt}
  {profile profile' : ValidationProfile} {root : WorktreeRoot}
  {supervised : ExternallySupervisedValidationReceipt} {commitSpec : ControlledCommitSpec}
  {prepared : PreparedMaterialization} {receipt : MaterializationReceipt}

/-- The links compose, from the profile that the preparation checks to the delivered commit, just
when the finalization is given that same profile. -/
theorem materialization_chain {s s' t t' : σ}
    (hprepare : m.prepareMaterialization authorizationInput capture profile root s=(.ok prepared,s'))
    (hfinalize : m.finalizeMaterialization prepared profile' supervised commitSpec t=
      (.ok receipt,t')) :
    (m.assertMaterializationCrossLinks receipt=.ok () ∧
      receipt.commitValidated.validation.steps.map (·.command)=profile.commands ∧
      ∀ qualification u u' d,m.deliver qualification receipt u=(.ok d,u') →
        d.deliveredCommit=receipt.commitValidated.commit.commit ∧
        d.deliveredTree=receipt.commitValidated.validation.tree) ↔ profile'=profile := by
  have hp := (prepareMaterialization_answers m authorizationInput capture profile root).run hprepare
  have hf := (finalizeMaterialization_answers m prepared profile' supervised commitSpec).run hfinalize
  have hcommands := hf.validated.commands
  constructor
  · rintro ⟨hlinks,hsteps,-⟩
    have hid := (finalized_linked m hp hf).mp hlinks
    exact ValidationProfile.ext hid (hcommands.symm.trans hsteps)
  · rintro rfl
    refine ⟨(finalized_linked m hp hf).mpr rfl,hcommands,fun qualification u u' d hd => ?_⟩
    obtain ⟨-,hcommit,htree⟩ := (deliver_answers m qualification receipt).run hd
    refine ⟨hcommit,htree.trans ?_⟩
    rw [hf.materialized,hf.validated.whole]

/-- The closure of both hands the one profile on. -/
theorem materialize_answers (authorizationInput : ProductChangeAuthorizationInput)
    (capture : CandidateCaptureReceipt) (profile : ValidationProfile)
    (commitSpec : ControlledCommitSpec) (root : WorktreeRoot) :
    Answers (m.materialize authorizationInput capture profile commitSpec root)
      (fun r => m.assertMaterializationCrossLinks r=.ok () ∧
        r.commitValidated.validation.steps.map (·.command)=profile.commands) := by
  refine .step (fun _ => (prepareMaterialization_answers m ..).bind (fun prepared hp => ?_))
  refine ⟨fun s => wp_mono (fun r _ hf => ?_) (fun _ _ h => h)
    ((finalizeMaterialization_answers m prepared profile _ commitSpec).all s)⟩
  exact ⟨(finalized_linked m hp hf).mpr rfl,hf.validated.commands⟩

end Specs
end ProductMaterializer
section Samples
open Handler ProductMaterializer

def objectOf (b : UInt8) : GitObjectId := ⟨.sha1,List.replicate 20 b,List.length_replicate⟩

def mainBase : CommitId := ⟨objectOf 0⟩
def changedCommit : CommitId := ⟨objectOf 1⟩
def changedTree : TreeId := ⟨objectOf 2⟩

def line (text : String) : Bytes := utf8 (text++"\n")

/-- What Git writes in a repository with one change, whose branch has moved to it or not. -/
def changeAnswer (arguments : List Argument) (moved : Bool) : Bytes × Bool :=
  match arguments with
  | .text "rev-parse"::_::.text revision::_ =>
    (line (if revision=changedCommit.toHex++"^\x7btree\x7d" then changedTree.toHex
      else if moved=true then changedCommit.toHex else mainBase.toHex),moved)
  | .text "write-tree"::_ => (line changedTree.toHex,moved)
  | .text "commit-tree"::_ => (line changedCommit.toHex,moved)
  | .text "rev-list"::_ => (line (changedCommit.toHex++" "++mainBase.toHex),moved)
  | .text "symbolic-ref"::_ => (line "refs/heads/main",moved)
  | .text "update-ref"::_ => ([],true)
  | _ => ([],moved)

def changePatch : Bytes := [0,1,2,4]

def changeGit (hash : Bytes → Blake3Digest) : ProductMaterializer Bool where
  git := [utf8 "usr",utf8 "bin",utf8 "git"]
  run call moved := (.ended ⟨some 0⟩ false (changeAnswer call.arguments moved).1 [] none,
    (changeAnswer call.arguments moved).2)
  symlinkMetadata _ := fail .notFound
  metadata _ := pure ⟨true,changePatch.length⟩
  openFile _ := pure ()
  readToEnd _ := pure changePatch
  hash := hash

variable (hash : Bytes → Blake3Digest) (path : Path) (moved : Bool)

theorem change_gitOutput {operation : String} {arguments : List Argument} {input : Option Bytes}
    {environment : List (String × Argument)} {o : Bytes} {moved' : Bool}
    (ha : changeAnswer arguments moved=(o,moved')) (hshort : o.length≤1000) :
    (changeGit hash).gitOutput path operation arguments input environment moved=
      (.ok ⟨⟨some 0⟩,o,[]⟩,moved') := by
  have hfits : o.length≤ maxGitStdoutBytes := hshort.trans (by decide)
  have hrun : (changeGit hash).spawn ⟨path,operation,arguments,input,environment⟩ moved=
      (.ok (.ended ⟨some 0⟩ false o [] none),moved') := by
    simp only [spawn,changeGit,ha]
  have hend : ((do
      ensure (false=false) (.gitOperationTimedOut operation)
      ensure (o.length≤ maxGitStdoutBytes) (.gitOutputLimitExceeded operation "stdout" maxGitStdoutBytes)
      ensure (([] : Bytes).length≤ maxGitStderrBytes)
        (.gitOutputLimitExceeded operation "stderr" maxGitStderrBytes)
      pure ⟨⟨some 0⟩,o,[]⟩) : Handler Bool ProductError Output) moved'=(.ok ⟨⟨some 0⟩,o,[]⟩,moved') :=
    (bind_run (ensure_run rfl)).trans ((bind_run (ensure_run hfits)).trans
      ((bind_run (ensure_run (Nat.zero_le _))).trans rfl))
  refine (bind_run hrun).trans ?_
  cases input with
  | none => exact hend
  | some input => exact hend

theorem change_gitOk {operation : String} {arguments : List Argument} {input : Option Bytes}
    {environment : List (String × Argument)} {o : Bytes} {moved' : Bool}
    (ha : changeAnswer arguments moved=(o,moved')) (hshort : o.length≤1000) :
    (changeGit hash).gitOk path operation arguments input environment moved=
      (.ok o,moved') :=
  (bind_run (change_gitOutput hash path moved ha hshort)).trans ((bind_run (ensure_run rfl)).trans rfl)

/-- A text of one line. -/
structure Plain (text : String) : Prop where
  full : text.toList.isEmpty=false
  clean : text.toList.all isLineChar=true
  short : (line text).length≤1000

theorem plain_tree : Plain changedTree.toHex :=
  ⟨by decide +kernel,by decide +kernel,by decide +kernel⟩

theorem plain_commit : Plain changedCommit.toHex :=
  ⟨by decide +kernel,by decide +kernel,by decide +kernel⟩

theorem plain_base : Plain mainBase.toHex :=
  ⟨by decide +kernel,by decide +kernel,by decide +kernel⟩

theorem parse_tree : TreeId.parse changedTree.toHex .sha1=.ok changedTree :=
  congrArg (Except.map TreeId.mk) (parse_toHex (objectOf 2))

theorem parse_commit : CommitId.parse changedCommit.toHex .sha1=.ok changedCommit :=
  congrArg (Except.map CommitId.mk) (parse_toHex (objectOf 1))

theorem parse_base : CommitId.parse mainBase.toHex .sha1=.ok mainBase :=
  congrArg (Except.map CommitId.mk) (parse_toHex (objectOf 0))

/-- A line that Git writes is read as what it stands for. -/
theorem change_line {α : Type} {operation description : String} {arguments : List Argument}
    {input : Option Bytes} {environment : List (String × Argument)} {text : String} {moved' : Bool}
    (parse : String → Except ProductError α) {a : α} (ht : Plain text) (hp : parse text=.ok a)
    (ha : changeAnswer arguments moved=(line text,moved')) :
    ((do
      let output ← (changeGit hash).gitOk path operation arguments input environment
      let line ← lift (singleLineUtf8 output description)
      lift (parse line)) : Handler Bool ProductError α) moved=(.ok a,moved') := by
  rw [bind_run (change_gitOk hash path moved ha ht.short),line,singleLineUtf8_line ht.full ht.clean]
  change (lift (parse text) : Handler Bool ProductError α) moved'=_
  rw [hp]
  rfl

theorem change_writeTree :
    (changeGit hash).writeTree path .sha1 moved=(.ok changedTree,moved) :=
  change_line hash path moved (fun text => TreeId.parse text .sha1) plain_tree parse_tree rfl

theorem change_resolveTree : (changeGit hash).resolveTreeForCommitAtPath path changedCommit .sha1
    moved=(.ok changedTree,moved) := by
  refine change_line hash path moved (fun text => TreeId.parse text .sha1) plain_tree parse_tree ?_
  simp only [changeAnswer,if_true]

theorem change_resolveCommit {revision : String}
    (hr : revision++"^\x7bcommit\x7d"≠changedCommit.toHex++"^\x7btree\x7d") :
    (changeGit hash).resolveCommitAtRevision path revision .sha1 moved=
      (.ok (if moved=true then changedCommit else mainBase),moved) := by
  cases moved with
  | false =>
    refine change_line hash path false (fun text => CommitId.parse text .sha1) plain_base
      parse_base ?_
    simp only [changeAnswer,if_neg hr,Bool.false_eq_true,if_false]
  | true =>
    refine change_line hash path true (fun text => CommitId.parse text .sha1) plain_commit
      parse_commit ?_
    simp only [changeAnswer,if_neg hr,if_true]

theorem change_parents : (changeGit hash).commitParents path changedCommit .sha1 moved=
    (.ok [mainBase],moved) := by
  have hshort : (line (changedCommit.toHex++" "++mainBase.toHex)).length≤1000 := by decide +kernel
  have hwords : splitAsciiWhitespace (changedCommit.toHex++" "++mainBase.toHex++"\n")=
      [changedCommit.toHex,mainBase.toHex] := by decide +kernel
  have htext : (changeGit hash).gitText path "reading controlled commit parents"
      ["rev-list","--parents","-n","1",changedCommit.toHex] moved=
      (.ok (changedCommit.toHex++" "++mainBase.toHex++"\n"),moved) := by
    have ha : changeAnswer ["rev-list","--parents","-n","1",changedCommit.toHex] moved=
        (line (changedCommit.toHex++" "++mainBase.toHex),moved) := rfl
    rw [gitText,bind_run (change_gitOk hash path moved ha hshort),line,ofUtf8_utf8]
    rfl
  rw [commitParents,bind_run htext,hwords]
  simp only [parse_commit,List.mapM_cons,parse_base]
  rfl

theorem change_silent {operation : String} {arguments : List Argument} {input : Option Bytes}
    {environment : List (String × Argument)} {moved' : Bool}
    (ha : changeAnswer arguments moved=([],moved')) :
    (changeGit hash).gitOk path operation arguments input environment moved=
      (.ok [],moved') :=
  change_gitOk hash path moved ha (Nat.zero_le _)

theorem change_config : (changeGit hash).assertRepositoryExecutableConfigSafe path moved=
    (.ok (),moved) := rfl

/-- The authorization of the change, with its capture. -/
def mainRepository : SourceRepository := ⟨[utf8 "repo"],[utf8 "repo",utf8 ".git"],.sha1⟩

def artifactChange : ProductChangeId := ⟨"artifact-change",by decide +kernel⟩

def artifactProfileId : ValidationProfileId := ⟨"artifact-validation-v1",by decide +kernel⟩

def changeCapture : CandidateCaptureReceipt :=
  ⟨artifactChange,mainRepository,mainBase,changedTree,changedTree,
    ⟨[utf8 "patches",utf8 "change"],⟨hash changePatch⟩⟩⟩

def changeInput : ProductChangeAuthorizationInput where
  authorizationId := ⟨"delivery-artifact",by decide +kernel⟩
  applicationRevision := ⟨"revision-17",by decide +kernel⟩
  authorizingDecision := ⟨"decision-42",by decide +kernel⟩
  change := artifactChange
  repository := mainRepository
  targetRef := ⟨"refs/heads/main"⟩
  admittedBase := mainBase
  acceptedPatch := ⟨hash changePatch⟩
  acceptedTree := changedTree
  validationProfile := artifactProfileId

def worktrees : WorktreeRoot := ⟨[utf8 "worktrees"]⟩

def changeLocation : ManagedWorktreePath :=
  worktrees.allocate ⟨"materialize-delivery-artifact",by decide +kernel⟩

def changePrepared : PreparedMaterialization :=
  ⟨changeInput hash,mainRepository,changeLocation,
    ⟨(changeInput hash).applicationRevision,(changeInput hash).authorizingDecision,.materialized,
      mainBase,changedTree,changedTree,⟨hash changePatch⟩⟩⟩

def echoInvocation : ValidationProgramInvocation :=
  ⟨⟨[utf8 "bin",utf8 "echo"],by decide +kernel⟩,[⟨"--verify-artifact",by decide +kernel⟩]⟩

def artifactProfile : ValidationProfile :=
  ⟨artifactProfileId,[.gitDiffCheck,.externallySupervisedProgram echoInvocation],by decide⟩

theorem head_revision : "HEAD"++"^\x7bcommit\x7d"≠changedCommit.toHex++"^\x7btree\x7d" := by
  decide +kernel

theorem main_revision :
    "refs/heads/main"++"^\x7bcommit\x7d"≠changedCommit.toHex++"^\x7btree\x7d" := by
  decide +kernel

theorem change_applied : (changeGit hash).applyPatchToFreshWorktree (changeInput hash)
    mainRepository changeLocation changePatch false=(.ok changedTree,false) := by
  refine (bind_run (change_resolveCommit hash changeLocation.path false head_revision)).trans ?_
  refine (bind_run (ensure_run rfl)).trans ?_
  refine (bind_run (change_silent hash changeLocation.path false rfl)).trans ?_
  refine (bind_run (change_writeTree hash changeLocation.path false)).trans ?_
  exact (bind_run (ensure_run rfl)).trans rfl

theorem change_prepared : (changeGit hash).prepareMaterialization (changeInput hash)
    (changeCapture hash) artifactProfile worktrees false=(.ok (changePrepared hash),false) := by
  have hpatch : (changeGit hash).readBoundedPatchArtifact (changeCapture hash).patch false=
      (.ok changePatch,false) := by
    refine (bind_run (a := (⟨true,changePatch.length⟩ : FileMetadata)) (t := false) rfl).trans ?_
    refine (bind_run (ensure_run (by decide))).trans ?_
    refine (bind_run (a := ()) (t := false) rfl).trans ?_
    refine (bind_run (a := changePatch) (t := false) rfl).trans ?_
    have htake : changePatch.take (maxPortablePatchBytes+1)=changePatch :=
      List.take_of_length_le (by decide)
    simp only [htake]
    refine (bind_run (ensure_run (by decide))).trans ?_
    exact (bind_run (ensure_run rfl)).trans rfl
  have hfar : ¬(worktrees.path=mainRepository.worktreeRoot ∨
      worktrees.path.startsWith mainRepository.worktreeRoot=true) := by decide +kernel
  have hname : WorktreeName.parse "materialize-delivery-artifact"=.ok changeLocation.name :=
    dif_pos changeLocation.name.valid
  refine (bind_run (change_config hash _ false)).trans ?_
  refine (bind_run (a := ()) (t := false) ?_).trans ?_
  · exact (bind_run (ensure_run (by simp [changeInput,changeCapture]))).trans (ensure_run rfl)
  refine (bind_run (ensure_run hfar)).trans ?_
  refine (bind_run hpatch).trans ?_
  refine (bind_run (a := changeLocation.name) (t := false)
    (congrFun (congrArg lift hname) false)).trans ?_
  refine (bind_run (a := ()) (t := false) rfl).trans ?_
  refine (bind_run (change_silent hash _ false rfl)).trans ?_
  exact (bind_run (attempt_run (change_applied hash))).trans rfl

theorem change_intact : (changeGit hash).assertPreparedWorktreeIntact (changePrepared hash) false=
    (.ok (),false) := by
  refine (bind_run (change_writeTree hash _ false)).trans ?_
  refine (bind_run (ensure_run rfl)).trans ?_
  refine (bind_run (a := ([] : List RepositoryPath)) (t := false) ?_).trans ?_
  · exact bind_run (change_silent hash _ false rfl)
  refine (bind_run (ensure_run rfl)).trans ?_
  refine (bind_run (change_gitOutput hash _ false (o := []) rfl (Nat.zero_le 1000))).trans ?_
  exact ensure_run rfl

def changeSpec : ControlledCommitSpec where
  author := ⟨"Builder","builder@example.test",by decide +kernel⟩
  authorTime := ⟨0,0,by decide⟩
  committer := ⟨"Builder","builder@example.test",by decide +kernel⟩
  committerTime := ⟨0,0,by decide⟩
  message := ⟨"change\n",by decide +kernel⟩

def changeCommit : ControlledCommitReceipt :=
  ⟨(changeInput hash).applicationRevision,(changeInput hash).authorizingDecision,changedCommit,
    mainBase,changedTree,⟨hash (utf8 changeSpec.message.value)⟩,.gitCommitTreeWithHooksDisabled⟩

theorem change_committed : (changeGit hash).constructControlledCommit path .sha1
    (changeInput hash) changedTree changeSpec false=(.ok (changeCommit hash),false) := by
  refine (bind_run (change_gitOk hash path false (o := line changedCommit.toHex) rfl
    plain_commit.short)).trans ?_
  rw [line,singleLineUtf8_line plain_commit.full plain_commit.clean]
  refine (bind_run (a := changedCommit.toHex) (t := false) rfl).trans ?_
  rw [parse_commit]
  refine (bind_run (a := changedCommit) (t := false) rfl).trans ?_
  refine (bind_run (change_resolveTree hash path false)).trans ?_
  refine (bind_run (ensure_run rfl)).trans ?_
  refine (bind_run (change_parents hash path false)).trans ?_
  exact (bind_run (ensure_run rfl)).trans rfl

def changeReceipt (profile : ValidationProfileId) (steps : List ValidationStepReceipt) :
    MaterializationReceipt :=
  ⟨.deliveryReady,changeInput hash,(changePrepared hash).materialized,
    ⟨(changeInput hash).applicationRevision,(changeInput hash).authorizingDecision,.commitValidated,
      ⟨(changeInput hash).applicationRevision,(changeInput hash).authorizingDecision,profile,changedTree,
        steps,validationDigest hash profile changedTree steps⟩,changeCommit hash⟩,
    .removed "materialize-delivery-artifact"⟩

/-- The change is finalized for every profile whose commands run. -/
theorem change_finalized {profile : ValidationProfile}
    {supervised : ExternallySupervisedValidationReceipt} {steps : List ValidationStepReceipt}
    (hname : supervised.profile=profile.id) (htree : supervised.tree=changedTree)
    (hsteps : profile.commands.filterMap ValidationCommand.invocation=
      supervised.steps.map (·.invocation))
    (hrun : (changeGit hash).runCommands changeLocation.path changedTree profile
      (changeInput hash) profile.commands supervised.steps [] false=(.ok steps,false)) :
    (changeGit hash).finalizeMaterialization (changePrepared hash) profile supervised changeSpec
      false=(.ok (changeReceipt hash profile.id steps),false) := by
  have hmatch : (assertSupervisedValidationMatches profile changedTree supervised :
      Handler Bool ProductError Unit) false=(.ok (),false) :=
    (bind_run (ensure_run (by simp [hname,htree]))).trans (ensure_run hsteps)
  have hvalidation : (changeGit hash).runValidation changeLocation.path changedTree profile
      supervised (changeInput hash) false=
      (.ok (changeReceipt hash profile.id steps).commitValidated.validation,false) :=
    (bind_run hmatch).trans ((bind_run hrun).trans rfl)
  have hboth : (changeGit hash).validateAndCommit (changePrepared hash) profile supervised
      changeSpec false=(.ok ((changeReceipt hash profile.id steps).commitValidated.validation,
        changeCommit hash),false) := by
    refine (bind_run (change_config hash _ false)).trans ?_
    refine (bind_run (change_intact hash)).trans ?_
    refine (bind_run hvalidation).trans ?_
    refine (bind_run (change_intact hash)).trans ?_
    exact (bind_run (change_committed hash _)).trans rfl
  have howned : changeLocation.path≠[] ∧ changeLocation.path.dropLast=changeLocation.root := by
    decide +kernel
  have hremoved : (changeGit hash).removeWorktree mainRepository changeLocation false=
      (.ok (.removed "materialize-delivery-artifact"),false) := by
    refine (bind_run (ensure_run howned)).trans ?_
    exact (bind_run (change_silent hash _ false rfl)).trans rfl
  exact (bind_run (attempt_run hboth)).trans ((bind_run hremoved).trans rfl)

def mainQualification : CleanSourceQualification :=
  ⟨mainRepository,⟨"refs/heads/main"⟩,mainBase,changedTree⟩

/-- What is linked is delivered. -/
theorem change_delivered {profile : ValidationProfileId} {steps : List ValidationStepReceipt}
    (hlinks : (changeGit hash).assertMaterializationCrossLinks (changeReceipt hash profile steps)=
      .ok ()) :
    (changeGit hash).deliver mainQualification (changeReceipt hash profile steps) false=
      (.ok (deliveryReceipt mainQualification (changeReceipt hash profile steps) .fastForwarded),true) := by
  have hmain : Plain "refs/heads/main" := ⟨by decide,by decide,by decide +kernel⟩
  have hclean (moved : Bool) : (changeGit hash).assertTargetClean mainRepository moved=
      (.ok (),moved) :=
    (bind_run (change_silent hash _ moved rfl)).trans (ensure_run rfl)
  have hhead (moved : Bool) : (changeGit hash).assertHeadIsTargetRef mainRepository
      ⟨"refs/heads/main"⟩ moved=(.ok (),moved) := by
    refine (bind_run (change_gitOutput hash _ moved (o := line "refs/heads/main") rfl
      hmain.short)).trans ?_
    refine (bind_run (ensure_run rfl)).trans ?_
    rw [line,singleLineUtf8_line hmain.full hmain.clean]
    exact (bind_run (a := "refs/heads/main") (t := moved) rfl).trans (ensure_run rfl)
  have hcurrent (moved : Bool) : (changeGit hash).resolveCommit mainRepository "refs/heads/main"
      moved=(.ok (if moved=true then changedCommit else mainBase),moved) :=
    change_resolveCommit hash _ moved main_revision
  have hcontrolled : (changeGit hash).assertControlledCommit mainRepository
      (changeReceipt hash profile steps) false=(.ok (),false) := by
    refine (bind_run (change_resolveTree hash _ false)).trans ?_
    refine (bind_run (ensure_run (by simp [changeReceipt,changePrepared,changeCommit]))).trans ?_
    exact (bind_run (change_parents hash _ false)).trans (ensure_run rfl)
  have hcheckout : (changeGit hash).updateDeliveredCheckout mainRepository
      (changeReceipt hash profile steps) true=(.ok (),true) := by
    refine (bind_run (change_silent hash _ true rfl)).trans ?_
    refine (bind_run (hcurrent true)).trans ?_
    refine (bind_run (ensure_run rfl)).trans ?_
    refine (bind_run (change_gitOutput hash _ true (o := []) rfl (Nat.zero_le 1000))).trans ?_
    refine (bind_run (ensure_run rfl)).trans ?_
    refine (bind_run (change_gitOutput hash _ true (o := []) rfl (Nat.zero_le 1000))).trans ?_
    exact (bind_run (ensure_run rfl)).trans (hclean true)
  refine (bind_run (change_config hash _ false)).trans ?_
  refine (bind_run (a := ()) (t := false) (congrFun (congrArg lift hlinks) false)).trans ?_
  refine (bind_run (ensure_run rfl)).trans ?_
  refine (bind_run (ensure_run (by simp [mainQualification,changeReceipt,changeInput]))).trans ?_
  refine (bind_run (hhead false)).trans ?_
  refine (bind_run (hcurrent false)).trans ?_
  have hnot : ¬mainBase=(changeReceipt hash profile steps).commitValidated.commit.commit :=
    show mainBase≠changedCommit by decide
  refine (congrFun (if_neg hnot) false).trans ?_
  refine (bind_run (ensure_run rfl)).trans ?_
  refine (bind_run (hclean false)).trans ?_
  refine (bind_run hcontrolled).trans ?_
  refine (bind_run (change_silent hash _ false rfl)).trans ?_
  exact (bind_run (mapError_run hcheckout)).trans rfl

/-- The profile of the same name that leaves the external program out. -/
def checksOnlyProfile : ValidationProfile := ⟨artifactProfileId,[.gitDiffCheck],by decide⟩

def outputDigest : OutputDigest := ⟨Kernel.plainDigest 0⟩

def artifactSupervised : ExternallySupervisedValidationReceipt :=
  ⟨artifactProfileId,changedTree,[⟨echoInvocation,outputDigest,outputDigest⟩],by decide⟩

def checksOnlySupervised : ExternallySupervisedValidationReceipt :=
  ⟨artifactProfileId,changedTree,[],by decide⟩

def checkStep : ValidationStepReceipt := ⟨.gitDiffCheck,⟨hash []⟩,⟨hash []⟩⟩

def artifactSteps : List ValidationStepReceipt :=
  [checkStep hash,⟨.externallySupervisedProgram echoInvocation,outputDigest,outputDigest⟩]

theorem artifact_finalized : (changeGit hash).finalizeMaterialization (changePrepared hash)
    artifactProfile artifactSupervised changeSpec false=
      (.ok (changeReceipt hash artifactProfileId (artifactSteps hash)),false) := by
  refine change_finalized hash rfl rfl rfl ?_
  refine (bind_run (change_gitOutput hash _ false (o := []) rfl (Nat.zero_le 1000))).trans ?_
  exact (bind_run (ensure_run rfl)).trans rfl

theorem checksOnly_finalized : (changeGit hash).finalizeMaterialization (changePrepared hash)
    checksOnlyProfile checksOnlySupervised changeSpec false=
      (.ok (changeReceipt hash artifactProfileId [checkStep hash]),false) := by
  refine change_finalized hash rfl rfl rfl ?_
  refine (bind_run (change_gitOutput hash _ false (o := []) rfl (Nat.zero_le 1000))).trans ?_
  exact (bind_run (ensure_run rfl)).trans rfl

open Society.Kernel (blake3)

theorem materialization_chain_artifact :
    ((changeGit blake3).assertMaterializationCrossLinks
        (changeReceipt blake3 artifactProfileId (artifactSteps blake3))=.ok () ∧
      (artifactSteps blake3).map (·.command)=artifactProfile.commands ∧
      ∀ qualification u u' d,(changeGit blake3).deliver qualification
          (changeReceipt blake3 artifactProfileId (artifactSteps blake3)) u=(.ok d,u') →
        d.deliveredCommit=changedCommit ∧ d.deliveredTree=changedTree) ↔
      artifactProfile=artifactProfile :=
  materialization_chain (change_prepared blake3) (artifact_finalized blake3)

/-- With a shorter list of commands under the same name the change is delivered. -/
theorem shorter_profile_delivered : ∃ prepared receipt delivery,
    (changeGit blake3).prepareMaterialization (changeInput blake3) (changeCapture blake3)
      artifactProfile worktrees false=(.ok prepared,false) ∧
    (changeGit blake3).finalizeMaterialization prepared checksOnlyProfile checksOnlySupervised
      changeSpec false=(.ok receipt,false) ∧
    receipt.commitValidated.validation.steps.map (·.command)≠artifactProfile.commands ∧
    (changeGit blake3).deliver mainQualification receipt false=(.ok delivery,true) ∧
    delivery.disposition=.fastForwarded := by
  have hprepared := (prepareMaterialization_answers _ _ _ _ _).run (change_prepared blake3)
  have hfinalized := (finalizeMaterialization_answers _ _ _ _ _).run (checksOnly_finalized blake3)
  have hdelivered := change_delivered blake3 ((finalized_linked _ hprepared hfinalized).mpr rfl)
  refine ⟨_,_,_,change_prepared blake3,checksOnly_finalized blake3,?_,hdelivered,rfl⟩
  simp [changeReceipt,artifactProfile]

end Samples
end Society.Product
