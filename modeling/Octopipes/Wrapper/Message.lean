import Octopipes.Client.Send
import Octopipes.Wrapper.Types

namespace Octopipespp

open CMemory Octopipes

/-- The C++ message owns its two strings and a copy of its payload. -/
structure Message where
  version : UInt32
  origin : List UInt8
  remote : List UInt8
  payload : Pointer Block
  payloadSize : UInt64
  ttl : Int
  checksum : Int
  options : OctopipesOptions
  deriving DecidableEq, Repr

/-- A nonempty payload gets a copy and an empty one leaves the pointer. -/
def copyPayload (source : Pointer Block) (size : UInt64) (kept : Pointer Block) : Exec (Pointer Block) :=
  if 0 < size.toNat then do
    let bytes ← source.loadBytes 0 size.toNat
    let payload ← (Block.fresh size.toNat).storeBytes 0 bytes
    pure (.live payload)
  else pure kept

/-- The default constructor leaves the version unset. -/
def Message.fresh (unsetVersion : UInt32) : Message where
  version := unsetVersion
  origin := []
  remote := []
  payload := .null
  payloadSize := 0
  ttl := 0
  checksum := 0
  options := optionsNone

/-- This constructor leaves the checksum unset, and the pointer of an empty payload too. -/
def Message.create (unsetChecksum : Int) (version : UInt32) (origin remote : List UInt8)
    (payload : Pointer Block) (payloadSize : UInt64) (options : OctopipesOptions) (ttl : Int) :
    Exec Message := do
  let payload ← copyPayload payload payloadSize .wild
  pure { version, origin, remote, payload, payloadSize, ttl, checksum := unsetChecksum, options }

/-- A string from a name of a C message is empty when the name is absent. -/
def nameOrEmpty (name : Pointer Block) : Exec (List UInt8) :=
  if name.isNull then pure []
  else do
    let text ← CString.readPointer name
    pure text.bytes

/-- This constructor takes the parts of a C message and leaves the checksum unset. -/
def Message.ofOctopipesMessage (unsetChecksum : Int) (pointer : Pointer OctopipesMessage) : Exec Message := do
  let message ← pointer.deref
  let origin ← nameOrEmpty message.origin
  let remote ← nameOrEmpty message.remote
  let payload ← copyPayload message.data message.dataSize .null
  pure
    { version := message.version, origin, remote, payload, payloadSize := message.dataSize
      ttl := message.ttl.toNat, checksum := unsetChecksum, options := message.options }

def Message.getOption (message : Message) (option : OctopipesOptions) : Bool :=
  message.options.toUInt8 &&& option.toUInt8 ≠ 0

/-- The decoding assigns both names of the C message without a test for their absence. -/
def Message.decodeData (mallocs : DecodeMallocs) (message : Message) (data : Pointer Block)
    (dataSize : Nat) : Exec (Error × Message) := do
  let (rc, decoded) ← octopipesDecode mallocs data dataSize
  if rc ≠ .success then pure (translateOctopipesError rc, message)
  else do
    let received ← decoded.deref
    -- The decoder leaves the pointer of an empty name null, and the assignment reads a C string.
    let origin ← CString.readPointer received.origin
    let remote ← CString.readPointer received.remote
    let payload ← copyPayload received.data received.dataSize message.payload
    octopipesCleanupMessage (.live received)
    pure (.success,
      { version := received.version, origin := origin.bytes, remote := remote.bytes, payload
        payloadSize := received.dataSize, ttl := received.ttl.toNat
        checksum := received.checksum.toNat, options := received.options })

/-- Each flag tells whether one `malloc` call of the encoding returns memory. -/
structure EncodeMallocs where
  message : Bool
  origin : Bool
  remote : Bool
  data : Bool
  encode : Bool
  deriving DecidableEq, Repr

def EncodeMallocs.granted : EncodeMallocs := ⟨true, true, true, true, true⟩

/-- The buffer behind `c_str` ends with a terminator. -/
def cStr (string : List UInt8) : Pointer Block := .live (Block.ofBytes (string ++ [0]))

/-- The C message of an encoding gets its parts one by one. -/
def Message.toOctopipesMessage (message : Message) (origin : Pointer Block) (remoteSize : UInt8)
    (remote data : Pointer Block) (dataSize : UInt64) : OctopipesMessage where
  version := message.version
  originSize := UInt8.ofNat message.origin.length
  origin := origin
  remoteSize := remoteSize
  remote := remote
  ttl := UInt8.ofInt message.ttl
  dataSize := dataSize
  options := message.options
  checksum := 0
  data := data

/-- The checksum goes to both messages before the C message is encoded. -/
def Message.encodeFilled (mallocs : EncodeMallocs) (message : Message) (filled : OctopipesMessage) :
    Exec (Error × Message × Option Block) := do
  let (message, filled) ←
    if !message.getOption optionsIgnoreChecksum then do
      let checksum ← calculateChecksum filled
      pure ({ message with checksum := checksum.toNat }, { filled with checksum })
    else pure (message, filled)
  let encoded ← octopipesEncode mallocs.encode filled
  match encoded with
  | .error rc => do
      octopipesCleanupMessage (.live filled)
      pure (translateOctopipesError rc, message, none)
  | .ok (outData, filled) => do
      octopipesCleanupMessage (.live filled)
      pure (.success, message, some outData)

/-- The encoding copies the parts into a C message and returns its bytes. -/
def Message.encodeData (mallocs : EncodeMallocs) (message : Message) :
    Exec (Error × Message × Option Block) :=
  let originSize := UInt8.ofNat message.origin.length
  let remoteSize := UInt8.ofNat message.remote.length
  if !mallocs.message then pure (.badAlloc, message, none)
  else if !mallocs.origin then do
    octopipesCleanupMessage (.live (message.toOctopipesMessage .null 0 .null .null 0))
    pure (.badAlloc, message, none)
  else do
    let origin ← (cStr message.origin).copyText 0 originSize.toNat
    if !mallocs.remote then do
      octopipesCleanupMessage (.live (message.toOctopipesMessage origin remoteSize .null .null 0))
      pure (.badAlloc, message, none)
    else do
      let remote ← (cStr message.remote).copyText 0 remoteSize.toNat
      if !mallocs.data then do
        octopipesCleanupMessage
          (.live (message.toOctopipesMessage origin remoteSize remote .null message.payloadSize))
        pure (.badAlloc, message, none)
      else do
        let bytes ← message.payload.loadBytes 0 message.payloadSize.toNat
        let data ← (Block.fresh message.payloadSize.toNat).storeBytes 0 bytes
        message.encodeFilled mallocs
          (message.toOctopipesMessage origin remoteSize remote (.live data) message.payloadSize)

end Octopipespp
