import Society.Handler
import Society.Kernel.Forum

namespace Society.Content
open Society.Coding Society.Stateful
open Society.Kernel (Blake3Digest hexText)

/-! The store of immutable content: objects under the path that their digest names, and the
temporary artifacts of the seals under way. -/

section Types

inductive IoError where
  | alreadyExists | notFound
  | other (code : Nat)
  deriving DecidableEq

inductive ContentStoreError where
  | io (e : IoError)
  | unsafeStoredObject | storedDigestMismatch | sealLimitExceeded | readLimitExceeded
  | temporaryIdentityExhausted
  deriving DecidableEq

/-- A positive number of bytes. -/
@[ext] structure ContentLimit where
  bytes : UInt64
  valid : bytes≠0
  deriving DecidableEq

inductive ContentSealDisposition where
  | created | alreadyPresentVerified
  deriving DecidableEq

structure ContentSealReceipt where
  digest : Blake3Digest
  disposition : ContentSealDisposition
  deriving DecidableEq

structure ContentVerificationReceipt where
  digest : Blake3Digest
  deriving DecidableEq

structure ContentReadReceipt where
  digest : Blake3Digest
  byteCount : UInt64
  deriving DecidableEq

/-- The directory of two hexadecimal digits, and the name in it. -/
abbrev Path := String × String

/-- The files of the store as maps, and the counter of the process that owns it. -/
structure ContentObjectStore where
  objects : List (Path × Bytes)
  shards : List String
  incoming : List (String × Bytes)
  processId : UInt32
  nextTemporaryId : UInt64
  deriving DecidableEq

/-- What a source answers to one read after the other; after the last it is at its end. -/
abbrev Source := List (Except IoError Bytes)

/-- How the reads of a file cut it up. -/
structure FileReads where
  cut : Bytes → List Bytes
  whole : ∀ b,(cut b).flatten=b
  progress : ∀ b,∀ chunk∈cut b,chunk≠[]

/-- Where copied bytes go: what it took so far, and its answers to the next writes. -/
structure Destination where
  taken : Bytes
  answers : List (Except IoError Unit)

end Types

section Streams
variable {σ : Type}

/-- Hash, count and write the chunks of a source until it is at its end. The hasher is the bytes it
was fed. -/
def stream (limit : ContentLimit) (exceeded : ContentStoreError)
    (write : Bytes → Handler σ ContentStoreError Unit) (observed : Nat) (hasher : Bytes) :
    Source → Handler σ ContentStoreError (Nat × Bytes)
  | [] => pure (observed,hasher)
  | .error e::_ => Handler.fail (.io e)
  | .ok chunk::rest =>
    if chunk=[] then pure (observed,hasher)
    else do
      Handler.ensure (observed+chunk.length<2^64) exceeded
      Handler.ensure (observed+chunk.length≤limit.bytes.toNat) exceeded
      write chunk
      stream limit exceeded write (observed+chunk.length) (hasher++chunk) rest

def Destination.writeAll (chunk : Bytes) : Handler Destination ContentStoreError Unit := fun d =>
  match d.answers with
  | [] => (.ok (),{ d with taken := d.taken++chunk })
  | .ok _::answers => (.ok (),⟨d.taken++chunk,answers⟩)
  | .error e::answers => (.error (.io e),⟨d.taken,answers⟩)

end Streams

namespace ContentObjectStore
variable (hash : Bytes → Blake3Digest)

/-- A method of the store. -/
abbrev Call (α : Type) := Handler ContentObjectStore ContentStoreError α

def pathOf (digest : Blake3Digest) : Path :=
  (String.ofList ((hexText digest).toList.take 2),String.ofList ((hexText digest).toList.drop 2))

/-- Makes the directory of the path where there is none yet. -/
def objectPath (digest : Blake3Digest) : Call Path := do
  Handler.modify (fun s => { s with shards := s.shards.insert (pathOf digest).1 })
  pure (pathOf digest)

def createNew (name : String) : Call Unit := do
  let s ← Handler.get
  Handler.ensure (s.incoming.lookup name=none) (.io .alreadyExists)
  Handler.modify (fun s => { s with incoming := (name,[])::s.incoming })

def writeTemporary (name : String) (chunk : Bytes) : Call Unit :=
  Handler.modify (fun s => { s with incoming := s.incoming.map (fun f =>
    if f.1=name then (f.1,f.2++chunk) else f) })

def removeTemporary (name : String) (s : ContentObjectStore) : ContentObjectStore :=
  { s with incoming := s.incoming.filter (fun f => f.1≠name) }

/-- Links the temporary file to the path, unless that is taken. -/
def hardLink (name : String) (path : Path) : Call Bool := do
  let s ← Handler.get
  match s.incoming.lookup name with
  | none => Handler.fail (.io .notFound)
  | some bytes => match s.objects.lookup path with
    | some _ => pure false
    | none => do
      Handler.modify (fun s => { s with objects := (path,bytes)::s.objects })
      pure true

def openObject (path : Path) : Call Bytes := do
  let s ← Handler.get
  match s.objects.lookup path with
  | some bytes => pure bytes
  | none => Handler.fail (.io .notFound)

def verify (reads : FileReads) (digest : Blake3Digest) : Call ContentVerificationReceipt := do
  let path ← objectPath digest
  let object ← openObject path
  Handler.ensure (hash ((reads.cut object).foldl (·++·) [])=digest) .storedDigestMismatch
  pure ⟨digest⟩

def fetchAddTemporaryId : Call UInt64 := do
  let s ← Handler.get
  Handler.modify (fun s => { s with nextTemporaryId := s.nextTemporaryId+1 })
  pure s.nextTemporaryId

/-- The file of a seal, after it was made and before it is removed. -/
def sealTemporary (reads : FileReads) (source : Source) (limit : ContentLimit) (name : String) :
    Call ContentSealReceipt := do
  let (_,hasher) ← stream limit .sealLimitExceeded (writeTemporary name) 0 [] source
  let digest := hash hasher
  let finalPath ← objectPath digest
  let linked ← hardLink name finalPath
  if linked=true then pure ⟨digest,.created⟩
  else do
    let _ ← verify hash reads digest
    pure ⟨digest,.alreadyPresentVerified⟩

def sealReader (reads : FileReads) (source : Source) (limit : ContentLimit) :
    Call ContentSealReceipt := do
  let temporaryId ← fetchAddTemporaryId
  Handler.ensure (temporaryId≠UInt64.ofNat (2^64-1)) .temporaryIdentityExhausted
  let s ← Handler.get
  let name := "ingest-"++toString s.processId.toNat++"-"++toString temporaryId.toNat
  createNew name
  -- The guard of the artifact removes it on every early return.
  let receipt ← Handler.onError (removeTemporary name) (sealTemporary hash reads source limit name)
  Handler.modify (removeTemporary name)
  pure receipt

/-- The destination is an argument, and what it took is part of the answer. -/
def copyVerifiedTo (reads : FileReads) (digest : Blake3Digest) (limit : ContentLimit)
    (destination : Destination) : Call (ContentReadReceipt × Bytes) := do
  let path ← objectPath digest
  let object ← openObject path
  let (answer,destination) := stream limit .readLimitExceeded Destination.writeAll 0 []
    ((reads.cut object).map .ok) destination
  let (observed,hasher) ← Handler.lift answer
  Handler.ensure (hash hasher=digest) .storedDigestMismatch
  pure (⟨digest,UInt64.ofNat observed⟩,destination.taken)

/-- Only the canonical decimal text of a positive number that fits is taken. -/
def canonicalNumber (text : String) (limit : Nat) : Option Nat :=
  match text.toNat? with
  | some n => if 0<n ∧ n<limit ∧ text=toString n then some n else none
  | none => none

def isTemporaryArtifactName (name : String) : Bool :=
  match name.splitOn "-" with
  | [kind,process,identity] => kind = "ingest" && (canonicalNumber process (2^32)).isSome &&
      (canonicalNumber identity (2^64-1)).isSome
  | _ => false

/-- Removes what an earlier owner left behind. -/
def recoverIncoming : List (String × Bytes) → Call Unit
  | [] => pure ()
  | (name,_)::rest => do
    Handler.ensure (isTemporaryArtifactName name=true) .unsafeStoredObject
    Handler.modify (removeTemporary name)
    recoverIncoming rest

/-- A process opens the store that an earlier one left. -/
def openStore (processId : UInt32) : Call Unit := do
  let s ← Handler.get
  recoverIncoming s.incoming
  Handler.modify (fun s => { s with processId, nextTemporaryId := 1 })

end ContentObjectStore
end Society.Content
