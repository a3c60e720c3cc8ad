import Society.Kernel.Execute

namespace Society.Resident
open Society.Kernel

/-! The boundary at which an application admits its study and has its bytes sealed. -/

section Labels

def maxOperationBytes : Nat := 36

def maxContentSlotBytes : Nat := 24

def isLowercase (c : Char) : Bool := 97 ≤ c.toNat && c.toNat≤122

def isDigit (c : Char) : Bool := 48 ≤ c.toNat && c.toNat≤57

/-- Compact lowercase ASCII that neither starts nor ends with a hyphen. -/
def validLabel (value : String) (maximumBytes : Nat) : Bool :=
  value.toList≠[] && value.utf8ByteSize ≤ maximumBytes &&
    value.toList.head?.any isAsciiAlphanumeric && value.toList.getLast?.any isAsciiAlphanumeric &&
    value.toList.all (fun c => isLowercase c || isDigit c || c == '-')

inductive StudyAdmissionError where
  | invalidOperationIdentity | invalidContentSlot | invalidSequence | recoveryFenced
  | commandIdentity | contentOperationIdentity | contentSealing
  | kernel (e : StoreError)
  deriving DecidableEq

@[ext] structure StudyAdmissionOperationId where
  value : String
  valid : validLabel value maxOperationBytes=true
  deriving DecidableEq

def StudyAdmissionOperationId.parse (value : String) :
    Except StudyAdmissionError StudyAdmissionOperationId :=
  if h : validLabel value maxOperationBytes=true then .ok ⟨value,h⟩
  else .error .invalidOperationIdentity

@[ext] structure StudyAdmissionContentSlot where
  value : String
  valid : validLabel value maxContentSlotBytes=true
  deriving DecidableEq

def StudyAdmissionContentSlot.parse (value : String) :
    Except StudyAdmissionError StudyAdmissionContentSlot :=
  if h : validLabel value maxContentSlotBytes=true then .ok ⟨value,h⟩
  else .error .invalidContentSlot

end Labels

/-- What the application is told of its sealed bytes. -/
structure SealedStudyContent where
  contentObjectId : ContentObjectId
  digest : Blake3Digest
  registrationFrontierEventId : EventId
  deriving DecidableEq

end Society.Resident
