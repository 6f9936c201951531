import Octopipes.Serializer.Frame

namespace Octopipes

open CMemory

/-- Each flag tells whether one `malloc` call of the decoder returns memory. -/
structure DecodeMallocs where
  message : Bool
  origin : Bool
  remote : Bool
  data : Bool
  deriving DecidableEq, Repr

def DecodeMallocs.granted : DecodeMallocs := ⟨true, true, true, true⟩

/-- The failure labels free the parts and the message, and the out-parameter dangles. -/
def decodeFailure (error : OctopipesError) (origin remote data : Pointer Block) :
    Exec (OctopipesError × Pointer OctopipesMessage) := do
  let _ ← origin.free
  let _ ← remote.free
  let _ ← data.free
  pure (error, .wild)

/-- A nonempty name gets a terminated copy of its bytes. -/
def decodeName (data : Pointer Block) (position size : Nat) : Exec (Pointer Block) :=
  if 0 < size then data.copyText position size else pure .null

/-- A nonempty payload gets a copy of its bytes. -/
def decodeData (data : Pointer Block) (position size : Nat) : Exec (Pointer Block) :=
  if 0 < size then do
    let bytes ← data.loadBytes position size
    let payload ← (Block.fresh size).storeBytes 0 bytes
    pure (.live payload)
  else pure .null

/-- A message keeps its checksum byte unless the options ignore it. -/
def decodeVerify (message : OctopipesMessage) : Exec (OctopipesError × Pointer OctopipesMessage) :=
  if message.options &&& optionsIgnoreChecksum = 0 then do
    let verification ← calculateChecksum message
    if verification ≠ message.checksum then
      decodeFailure .badChecksum message.origin message.remote message.data
    else pure (.success, .live message)
  else pure (.success, .live message)

/-- This part reads the fields after the names and then the payload. -/
def decodeBody (mallocs : DecodeMallocs) (data : Pointer Block) (dataSize position : Nat)
    (originSize : UInt8) (origin : Pointer Block) (remoteSize : UInt8) (remote : Pointer Block) :
    Exec (OctopipesError × Pointer OctopipesMessage) := do
  let ttl ← data.load position
  let sizeBytes ← data.loadBytes (position + 1) 8
  let size := BigEndian.word sizeBytes
  let options ← data.load (position + 9)
  let checksum ← data.load (position + 10)
  let startOfText ← data.load (position + 11)
  if startOfText ≠ stx then decodeFailure .badPacket origin remote .null
  -- The source adds the payload size to its running minimum but compares only the payload size.
  else if dataSize < size.toNat then decodeFailure .badPacket origin remote .null
  else if 0 < size.toNat ∧ !mallocs.data then decodeFailure .badAlloc origin remote .null
  else do
    let payload ← decodeData data (position + 12) size.toNat
    decodeVerify
      { version := OctopipesVersion.version1.field, originSize, origin, remoteSize, remote, ttl
        dataSize := size, options := options.toUInt32, checksum, data := payload }

/-- This part reads both names before the other fields. -/
def decodeNames (mallocs : DecodeMallocs) (data : Pointer Block) (dataSize : Nat) :
    Exec (OctopipesError × Pointer OctopipesMessage) := do
  let originSize ← data.load 2
  if dataSize < 17 + originSize.toNat then decodeFailure .badPacket .null .null .null
  else if 0 < originSize ∧ !mallocs.origin then decodeFailure .badAlloc .null .null .null
  else do
    let origin ← decodeName data 3 originSize.toNat
    let remoteSize ← data.load (3 + originSize.toNat)
    if dataSize < 17 + originSize.toNat + remoteSize.toNat then
      decodeFailure .badPacket origin .null .null
    else if 0 < remoteSize ∧ !mallocs.remote then decodeFailure .badAlloc origin .null .null
    else do
      let remote ← decodeName data (4 + originSize.toNat) remoteSize.toNat
      decodeBody mallocs data dataSize (4 + originSize.toNat + remoteSize.toNat)
        originSize origin remoteSize remote

/-- The decoder returns an error code and the value of its out-parameter. -/
def octopipesDecode (mallocs : DecodeMallocs) (data : Pointer Block) (dataSize : Nat) :
    Exec (OctopipesError × Pointer OctopipesMessage) :=
  if !mallocs.message then pure (.badAlloc, .null)
  else if dataSize < 17 ∨ data.isNull then decodeFailure .badPacket .null .null .null
  else do
    let first ← data.load 0
    if first ≠ soh then decodeFailure .badPacket .null .null .null
    else do
      let last ← data.load (dataSize - 1)
      if last ≠ etx then decodeFailure .badPacket .null .null .null
      else do
        let version ← data.load 1
        if version.toUInt32 = OctopipesVersion.version1.field then decodeNames mallocs data dataSize
        else pure (.unsupportedVersion, .wild)

end Octopipes
