import Octopipes.CMemory.BigEndian
import Octopipes.Types

namespace Octopipes

open CMemory

def soh : UInt8 := 0x01

def stx : UInt8 := 0x02

def etx : UInt8 := 0x03

/-- The fold joins bytes into one checksum byte. -/
def xorBytes (checksum : UInt8) (bytes : List UInt8) : UInt8 := bytes.foldl (· ^^^ ·) checksum

/-- The loop reads one message part and joins its bytes. -/
def xorPart (checksum : UInt8) (part : Pointer Block) (size : Nat) : Exec UInt8 :=
  part.loadBytes 0 size >>= fun bytes => .ok (xorBytes checksum bytes)

/-- The checksum joins the parsed fields in their wire order. -/
def calculateChecksum (message : OctopipesMessage) : Exec UInt8 := do
  let checksum := soh
  if message.version = OctopipesVersion.version1.field then do
    let checksum := checksum ^^^ message.version.toUInt8
    let checksum := checksum ^^^ message.originSize
    let checksum ← xorPart checksum message.origin message.originSize.toNat
    let checksum := checksum ^^^ message.remoteSize
    let checksum ← xorPart checksum message.remote message.remoteSize.toNat
    let checksum := checksum ^^^ message.ttl
    let checksum := xorBytes checksum (BigEndian.wordBytes message.dataSize)
    let checksum := checksum ^^^ message.options.toUInt8
    let checksum := checksum ^^^ stx
    let checksum ← xorPart checksum message.data message.dataSize.toNat
    pure (checksum ^^^ etx)
  else pure (checksum ^^^ etx)

@[simp] theorem xorBytes_nil (checksum : UInt8) : xorBytes checksum [] = checksum := rfl

@[simp] theorem xorBytes_append (checksum : UInt8) (first second : List UInt8) :
    xorBytes checksum (first ++ second) = xorBytes (xorBytes checksum first) second := by
  simp [xorBytes]

/-- A part that holds its bytes adds exactly these bytes. -/
theorem xorPart_holds (checksum : UInt8) (part : Pointer Block) (bytes : List UInt8)
    (held : part.Holds bytes) : xorPart checksum part bytes.length = .ok (xorBytes checksum bytes) := by
  rw [xorPart, held, Exec.ok_bind]

end Octopipes
