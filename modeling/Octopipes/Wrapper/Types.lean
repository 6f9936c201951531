import Octopipes.Types

namespace Octopipespp

open CMemory Octopipes

/-- The C++ client reports these errors. -/
inductive Error where
  | success
  | uninitialized
  | badPacket
  | badChecksum
  | unsupportedVersion
  | noDataAvailable
  | openFailed
  | writeFailed
  | readFailed
  | capTimeout
  | notSubscribed
  | notUnsubscribed
  | thread
  | badAlloc
  | unknownError
  deriving DecidableEq, Repr

/-- The C++ client reports these CAP errors. -/
inductive CapError where
  | success
  | nameAlreadyTaken
  | fs
  | unknown
  deriving DecidableEq, Repr

/-- The C++ server reports these errors. -/
inductive ServerError where
  | success
  | badAlloc
  | uninitialized
  | badPacket
  | badChecksum
  | unsupportedVersion
  | openFailed
  | writeFailed
  | readFailed
  | capTimeout
  | threadError
  | threadAlreadyRunning
  | workerExists
  | workerNotFound
  | workerAlreadyRunning
  | workerNotRunning
  | noRecipient
  | badClientDir
  | unknown
  deriving DecidableEq, Repr

/-- The client table does not name the failed write. -/
def translateOctopipesError : OctopipesError → Error
  | .badAlloc => .badAlloc
  | .badChecksum => .badChecksum
  | .badPacket => .badPacket
  | .capTimeout => .capTimeout
  | .noDataAvailable => .noDataAvailable
  | .notSubscribed => .notSubscribed
  | .notUnsubscribed => .notUnsubscribed
  | .openFailed => .openFailed
  | .readFailed => .readFailed
  | .success => .success
  | .thread => .thread
  | .uninitialized => .uninitialized
  | .unsupportedVersion => .unsupportedVersion
  | .writeFailed => .unknownError
  | .unknownError => .unknownError

/-- Every CAP error outside the table is unknown. -/
def translateCapError (error : OctopipesCapError) : CapError :=
  if error = capErrorSuccess then .success
  else if error = capErrorNameAlreadyTaken then .nameAlreadyTaken
  else if error = capErrorFs then .fs
  else .unknown

def translateOctopipesServerError : OctopipesServerError → ServerError
  | .badAlloc => .badAlloc
  | .badChecksum => .badChecksum
  | .badClientDir => .badClientDir
  | .badPacket => .badPacket
  | .capTimeout => .capTimeout
  | .noRecipient => .noRecipient
  | .openFailed => .openFailed
  | .readFailed => .readFailed
  | .success => .success
  | .threadAlreadyRunning => .threadAlreadyRunning
  | .threadError => .threadError
  | .uninitialized => .uninitialized
  | .unsupportedVersion => .unsupportedVersion
  | .workerAlreadyRunning => .workerAlreadyRunning
  | .workerExists => .workerExists
  | .workerNotFound => .workerNotFound
  | .workerNotRunning => .workerNotRunning
  | .writeFailed => .writeFailed
  | .unknown => .unknown

@[simp] theorem translateOctopipesError_eq_success (error : OctopipesError) :
    translateOctopipesError error = .success ↔ error = .success := by
  cases error <;> simp [translateOctopipesError]

/-- The translation of a CAP error keeps success apart from every refusal. -/
@[simp] theorem translateCapError_eq_success (error : OctopipesCapError) :
    translateCapError error = .success ↔ error = capErrorSuccess := by
  unfold translateCapError
  by_cases success : error = capErrorSuccess
  · simp [success]
  · rw [if_neg success]
    split
    · simp [success]
    · split <;> simp [success]

end Octopipespp
