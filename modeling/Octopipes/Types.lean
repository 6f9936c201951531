import Octopipes.CMemory.CString

namespace Octopipes

open CMemory

/-- The client library reports these errors. -/
inductive OctopipesError where
  | success
  | uninitialized
  | badPacket
  | badChecksum
  | unsupportedVersion
  | noDataAvailable
  | openFailed
  | writeFailed
  | readFailed
  | capTimeout
  | notSubscribed
  | notUnsubscribed
  | thread
  | badAlloc
  | unknownError
  deriving DecidableEq, Repr

/-- The server library reports these errors. -/
inductive OctopipesServerError where
  | success
  | badAlloc
  | uninitialized
  | badPacket
  | badChecksum
  | unsupportedVersion
  | openFailed
  | writeFailed
  | readFailed
  | capTimeout
  | threadError
  | threadAlreadyRunning
  | workerExists
  | workerNotFound
  | workerAlreadyRunning
  | workerNotRunning
  | noRecipient
  | badClientDir
  | unknown
  deriving DecidableEq, Repr

/-- The server converts each client error that its table names. -/
def toServerError : OctopipesError → OctopipesServerError
  | .badAlloc => .badAlloc
  | .badChecksum => .badChecksum
  | .badPacket => .badPacket
  | .capTimeout => .capTimeout
  | .openFailed => .openFailed
  | .readFailed => .readFailed
  | .success => .success
  | .thread => .threadError
  | .uninitialized => .uninitialized
  | .unsupportedVersion => .unsupportedVersion
  | .writeFailed => .writeFailed
  | .noDataAvailable => .unknown
  | .notSubscribed => .unknown
  | .notUnsubscribed => .unknown
  | .unknownError => .unknown

/-- The conversion keeps success apart from every error. -/
@[simp] theorem toServerError_eq_success (error : OctopipesError) :
    toServerError error = .success ↔ error = .success := by
  cases error <;> simp [toServerError]

/-- The client moves between these states. -/
inductive OctopipesState where
  | init
  | subscribed
  | running
  | unsubscribed
  | stopped
  deriving DecidableEq, Repr

/-- The server moves between these states. -/
inductive OctopipesServerState where
  | init
  | running
  | block
  | stopped
  deriving DecidableEq, Repr

/-- The library knows one protocol version. -/
inductive OctopipesVersion where
  | version1
  deriving DecidableEq, Repr

/-- The version field of a message can hold every byte that the wire gives. -/
def OctopipesVersion.field : OctopipesVersion → UInt32
  | .version1 => 1

/-- The option bits of a message share one enumeration field. -/
abbrev OctopipesOptions := UInt32

def optionsNone : OctopipesOptions := 0

def optionsRequireAck : OctopipesOptions := 1

def optionsAck : OctopipesOptions := 2

def optionsIgnoreChecksum : OctopipesOptions := 4

/-- The CAP error of an assignment can hold every byte that the wire gives. -/
abbrev OctopipesCapError := UInt32

def capErrorSuccess : OctopipesCapError := 0

def capErrorNameAlreadyTaken : OctopipesCapError := 1

def capErrorFs : OctopipesCapError := 2

/-- The first payload byte selects one of these CAP messages. -/
inductive OctopipesCapMessage where
  | unknown
  | subscription
  | assignment
  | unsubscription
  deriving DecidableEq, Repr

def OctopipesCapMessage.code : OctopipesCapMessage → UInt8
  | .unknown => 0x00
  | .subscription => 0x01
  | .assignment => 0xFF
  | .unsubscription => 0x02

/-- A message keeps its sizes beside the pointers to its parts. -/
structure OctopipesMessage where
  version : UInt32
  originSize : UInt8
  origin : Pointer Block
  remoteSize : UInt8
  remote : Pointer Block
  ttl : UInt8
  dataSize : UInt64
  options : OctopipesOptions
  checksum : UInt8
  data : Pointer Block
  deriving DecidableEq, Repr

/-- A field is freed only with a positive size and a pointer. -/
def freeSized (positive : Bool) (pointer : Pointer Block) : Exec Unit :=
  if positive && !pointer.isNull then pointer.free >>= fun _ => .ok () else .ok ()

/-- The cleanup frees the three parts and then the message. -/
def octopipesCleanupMessage (message : Pointer OctopipesMessage) : Exec Unit :=
  if message.isNull then .ok ()
  else do
    let fields ← message.deref
    freeSized (0 < fields.originSize) fields.origin
    freeSized (0 < fields.remoteSize) fields.remote
    freeSized (0 < fields.dataSize) fields.data
    let _ ← message.free
    pure ()

/-- The cleanup of a message frees its live parts. -/
theorem cleanup_live (message : OctopipesMessage) (origin : message.origin ≠ .wild)
    (remote : message.remote ≠ .wild) (data : message.data ≠ .wild) :
    octopipesCleanupMessage (.live message) = .ok () := by
  have sized (positive : Bool) (pointer : Pointer Block) (allowed : pointer ≠ .wild) :
      freeSized positive pointer = .ok () := by
    obtain ⟨_, freed⟩ := Pointer.free_allowed pointer allowed
    unfold freeSized
    split
    · rw [freed, Exec.ok_bind]
    · rfl
  simp [octopipesCleanupMessage, sized _ _ origin, sized _ _ remote, sized _ _ data]

end Octopipes
