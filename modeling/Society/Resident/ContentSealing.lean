import Society.Content.Store
import Society.Kernel.ContentIdentity
import Society.Resident.StudyAdmission

namespace Society.Resident
open Society.Coding Society.Stateful Society.Kernel
open Society.Content (ContentLimit ContentObjectStore ContentSealDisposition ContentSealReceipt
  ContentStoreError FileReads)

/-! The daemon's binding of a physical seal to the kernel's registered content object. -/

section Operations

def maxOperationLabelBytes : Nat := 80

/-- The spellings of the two commands of an operation. -/
def recordCommandText (label : String) : String := "content-seal-v1/"++label++"/receipt"

def registerCommandText (label : String) : String := "content-seal-v1/"++label++"/object"

def validOperationLabel (value : String) : Bool := validLabel value maxOperationLabelBytes

inductive ContentSealOperationIdError where
  | invalidLabel | derivedCommandId
  deriving DecidableEq

/-- The expected digest of an operation with its two command identities. -/
structure ContentSealOperationId where
  expectedDigest : Blake3Digest
  recordContentSealReceiptCommandId : CommandId
  registerContentObjectCommandId : CommandId
  deriving DecidableEq

def parseCommandId (text : String) : Except ContentSealOperationIdError CommandId :=
  if h : graphicIdentity text=true then .ok ⟨text,h⟩ else .error .derivedCommandId

def ContentSealOperationId.parse (label : String) (expectedDigest : Blake3Digest) :
    Except ContentSealOperationIdError ContentSealOperationId :=
  if validOperationLabel label=true then do
    let receipt ← parseCommandId (recordCommandText label)
    let object ← parseCommandId (registerCommandText label)
    .ok ⟨expectedDigest,receipt,object⟩
  else .error .invalidLabel

structure ContentObjectRegistration where
  digest : Blake3Digest
  contentObjectId : ContentObjectId
  physicalDisposition : ContentSealDisposition
  deriving DecidableEq

inductive ContentSealingError where
  | physical (e : ContentStoreError)
  | kernel (e : StoreError)
  | inputDigestMismatch | physicalDigestMismatch
  | kernelServiceCapabilityMissing (capability : Capability)
  | kernelCommandRejected (capability : Capability) (rejection : Rejection)
  | receiptNotMaterialized | contentObjectNotMaterialized | recoveryFenced
  deriving DecidableEq

structure ContentSealingAuthority where
  store : ContentObjectStore
  limit : ContentLimit

inductive StartupMode where
  | freshServing | recoveryFenced
  deriving DecidableEq

/-- What sealing uses of the daemon. -/
structure Daemon where
  mode : StartupMode
  store : Store
  contentSealing : ContentSealingAuthority

end Operations

namespace Daemon
variable (hash : Bytes → Blake3Digest)

/-- A method of the daemon. -/
abbrev Call (α : Type) := Handler Daemon ContentSealingError α

/-- A call on the content store. -/
def physical {α : Type} (m : ContentObjectStore.Call α) : Call α := fun d =>
  ((m d.contentSealing.store).1.mapError .physical,
    { d with contentSealing := { d.contentSealing with store := (m d.contentSealing.store).2 } })

/-- The bytes are read as a slice. -/
def sealBytes (reads : FileReads) (bytes : Bytes) : Call ContentSealReceipt := do
  let d ← Handler.get
  physical (ContentObjectStore.sealReader hash reads ((reads.cut bytes).map .ok)
    d.contentSealing.limit)

def executeKernel (request : CommandRequest) : Call CommandReceipt := fun d =>
  ((execute hash request d.store).1.mapError .kernel,
    { d with store := (execute hash request d.store).2 })

def kernelServiceRequest (commandId : CommandId) (capability : Capability) (body : CommandBody)
    (grant : CapabilityGrantId) : CommandRequest where
  commandId := commandId
  principalId := kernelPrincipal
  capabilityGrantId := grant
  capability := capability
  expectedGeneration := .notApplicable
  body := body

def executeKernelServiceCommand (commandId : CommandId) (capability : Capability)
    (body : CommandBody) : Call Unit := do
  let d ← Handler.get
  match activeCapabilityGrant d.store kernelPrincipal capability with
  | none => Handler.fail (.kernelServiceCapabilityMissing capability)
  | some grant => do
    let receipt ← executeKernel hash (kernelServiceRequest commandId capability body grant)
    match receipt.disposition with
    | .accepted _ => pure ()
    | .rejected rejection => Handler.fail (.kernelCommandRejected capability rejection)

def identityState (digest : Blake3Digest) : Call ContentIdentityState := do
  pure (contentIdentityState (← Handler.get).store digest)

def registerAfterReceipt (operation : ContentSealOperationId) (digest : Blake3Digest)
    (disposition : ContentSealDisposition) (receipt : ContentSealReceiptId) :
    Call ContentObjectRegistration := do
  executeKernelServiceCommand hash operation.registerContentObjectCommandId
    .registerContentObject (.registerContentObject receipt)
  match ← identityState digest with
  | .registered _ object => pure ⟨digest,object,disposition⟩
  | _ => Handler.fail .contentObjectNotMaterialized

def sealAndRegister (reads : FileReads) (operation : ContentSealOperationId) (bytes : Bytes) :
    Call ContentObjectRegistration := do
  Handler.ensure (hash bytes=operation.expectedDigest) .inputDigestMismatch
  let sealed ← sealBytes hash reads bytes
  Handler.ensure (sealed.digest=operation.expectedDigest) .physicalDigestMismatch
  match ← identityState sealed.digest with
  | .registered _ object => pure ⟨sealed.digest,object,sealed.disposition⟩
  | .sealReceiptOnly receipt =>
    registerAfterReceipt hash operation sealed.digest sealed.disposition receipt
  | .absent => do
    executeKernelServiceCommand hash operation.recordContentSealReceiptCommandId
      .recordContentSealReceipt (.recordContentSealReceipt sealed.digest)
    match ← identityState sealed.digest with
    | .registered _ object => pure ⟨sealed.digest,object,sealed.disposition⟩
    | .sealReceiptOnly receipt =>
      registerAfterReceipt hash operation sealed.digest sealed.disposition receipt
    | .absent => Handler.fail .receiptNotMaterialized

def sealContentObject (reads : FileReads) (operation : ContentSealOperationId) (bytes : Bytes) :
    Call ContentObjectRegistration := do
  let d ← Handler.get
  Handler.ensure (d.mode≠.recoveryFenced) .recoveryFenced
  sealAndRegister hash reads operation bytes

/-- The frontier is the event of the operation's own registering command. -/
def sealStudyAdmissionContent (reads : FileReads) (operation : ContentSealOperationId)
    (bytes : Bytes) : Call (ContentObjectRegistration × EventId) := do
  let registration ← sealContentObject hash reads operation bytes
  let d ← Handler.get
  match commandReceipt d.store operation.registerContentObjectCommandId with
  | some ⟨.accepted frontier,_⟩ => pure (registration,frontier)
  | _ => Handler.fail .contentObjectNotMaterialized

end Daemon

section Admission
variable (hash : Bytes → Blake3Digest)

def contentLabel (operation : StudyAdmissionOperationId) (slot : StudyAdmissionContentSlot) :
    String := "study-admission-"++operation.value++"-"++slot.value

/-- Every content error is one for the application. -/
def mapContentError {α : Type} (m : Daemon.Call α) : Handler Daemon StudyAdmissionError α :=
  fun d => ((m d).1.mapError (fun _ => .contentSealing),(m d).2)

/-- The authority that the daemon opens for an operation seals under one of its slots. -/
def sealContent (operation : StudyAdmissionOperationId) (slot : StudyAdmissionContentSlot)
    (reads : FileReads) (bytes : Bytes) : Handler Daemon StudyAdmissionError SealedStudyContent := do
  let d ← Handler.get
  Handler.ensure (d.mode≠.recoveryFenced) .recoveryFenced
  let digest := hash bytes
  let operation ← Handler.lift ((ContentSealOperationId.parse (contentLabel operation slot)
    digest).mapError (fun _ => .contentOperationIdentity))
  let (registration,frontier) ← mapContentError
    (Daemon.sealStudyAdmissionContent hash reads operation bytes)
  pure ⟨registration.contentObjectId,registration.digest,frontier⟩

end Admission
end Society.Resident
