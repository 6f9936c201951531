import Mathlib.Data.Nat.Bitwise
import Octopipes.Serializer.Checksum

namespace Octopipes

open CMemory

/-- A frame is the content of one version 1 message with sizes that fit their fields. -/
@[ext] structure Frame where
  origin : List UInt8
  remote : List UInt8
  ttl : UInt8
  options : UInt8
  data : List UInt8
  originFits : origin.length < 256
  remoteFits : remote.length < 256
  dataFits : data.length < 2 ^ 64
  deriving DecidableEq, Repr

namespace Frame

/-- An absent part fits its size field. -/
theorem emptyPart_fits : ([] : List UInt8).length < 256 := Nat.zero_lt_succ 255

/-- Three parts that fit one size byte together make a frame. -/
def ofShort (origin remote : List UInt8) (ttl options : UInt8) (data : List UInt8)
    (short : origin.length + remote.length + data.length < 256) : Frame where
  origin := origin
  remote := remote
  ttl := ttl
  options := options
  data := data
  originFits := by omega
  remoteFits := by omega
  dataFits := by omega

/-- This count covers the fixed bytes and the three variable parts. -/
def size (frame : Frame) : Nat :=
  17 + frame.origin.length + frame.remote.length + frame.data.length

def sizeBytes (frame : Frame) : List UInt8 :=
  BigEndian.wordBytes (UInt64.ofNat frame.data.length)

/-- These bytes stand before the options. -/
def names (frame : Frame) : List UInt8 :=
  [soh, 1, UInt8.ofNat frame.origin.length] ++ (frame.origin ++
    ([UInt8.ofNat frame.remote.length] ++ (frame.remote ++ ([frame.ttl] ++ frame.sizeBytes))))

/-- The header ends with the start-of-text byte. -/
def head (frame : Frame) (checksum : UInt8) : List UInt8 :=
  frame.names ++ [frame.options, checksum, stx]

/-- The wire bytes of one frame end with the end-of-text byte. -/
def bytes (frame : Frame) (checksum : UInt8) : List UInt8 :=
  frame.head checksum ++ (frame.data ++ [etx])

/-- The sum joins every frame byte except the checksum byte. -/
def sum (frame : Frame) : UInt8 :=
  xorBytes 0 (frame.names ++ ([frame.options, stx] ++ (frame.data ++ [etx])))

/-- This flag tells the receiver to ignore the checksum byte. -/
def IgnoresChecksum (frame : Frame) : Prop :=
  frame.options.toUInt32 &&& optionsIgnoreChecksum ≠ 0

instance (frame : Frame) : Decidable frame.IgnoresChecksum := inferInstanceAs (Decidable (_ ≠ _))

/-- The encoder stores this byte as the checksum. -/
def wireChecksum (frame : Frame) : UInt8 := if frame.IgnoresChecksum then 0 else frame.sum

@[simp] theorem names_length (frame : Frame) :
    frame.names.length = 13 + frame.origin.length + frame.remote.length := by
  simp [names, sizeBytes]
  omega

@[simp] theorem head_length (frame : Frame) (checksum : UInt8) :
    (frame.head checksum).length = 16 + frame.origin.length + frame.remote.length := by
  simp [head]
  omega

@[simp] theorem bytes_length (frame : Frame) (checksum : UInt8) :
    (frame.bytes checksum).length = frame.size := by
  simp [bytes, size]
  omega

end Frame

/-- A nonempty name has a fresh buffer with a terminator. -/
def receivedName (name : List UInt8) : Pointer Block :=
  if name = [] then .null else .live (Block.ofBytes (name ++ [0]))

/-- A nonempty payload has a fresh buffer. -/
def receivedData (data : List UInt8) : Pointer Block :=
  if data = [] then .null else .live (Block.ofBytes data)

theorem receivedName_holds (name : List UInt8) : (receivedName name).Holds name := by
  unfold receivedName
  split
  · next empty => rw [empty]; exact Pointer.holds_nil _
  · rw [Block.ofBytes_append]; exact Pointer.holds_live name _

theorem receivedData_holds (data : List UInt8) : (receivedData data).Holds data := by
  unfold receivedData
  split
  · next empty => rw [empty]; exact Pointer.holds_nil _
  · exact Pointer.holds_ofBytes data

@[simp] theorem receivedName_eq_null (name : List UInt8) : receivedName name = .null ↔ name = [] := by
  unfold receivedName
  split <;> simp_all

theorem receivedData_live (data : List UInt8) (present : data ≠ []) :
    receivedData data = .live (Block.ofBytes data) := if_neg present

@[simp] theorem receivedData_eq_null (data : List UInt8) : receivedData data = .null ↔ data = [] := by
  unfold receivedData
  split <;> simp_all

/-- A received name reads as its bytes before the first zero byte. -/
theorem readPointer_receivedName (name : List UInt8) (nonempty : name ≠ []) :
    CString.readPointer (receivedName name) = .ok (CString.untilNul name) := by
  have terminated := CString.read_terminated name []
  rw [List.append_nil] at terminated
  rw [receivedName, if_neg nonempty]
  exact terminated

/-- The decoder builds this message from a frame and its checksum byte. -/
def Frame.message (frame : Frame) (checksum : UInt8) : OctopipesMessage where
  version := OctopipesVersion.version1.field
  originSize := UInt8.ofNat frame.origin.length
  origin := receivedName frame.origin
  remoteSize := UInt8.ofNat frame.remote.length
  remote := receivedName frame.remote
  ttl := frame.ttl
  dataSize := UInt64.ofNat frame.data.length
  options := frame.options.toUInt32
  checksum := checksum
  data := receivedData frame.data

/-- A message carries a frame when its sizes and its parts agree with the frame. -/
structure OctopipesMessage.Carries (message : OctopipesMessage) (frame : Frame) : Prop where
  version : message.version = OctopipesVersion.version1.field
  originSize : message.originSize.toNat = frame.origin.length
  origin : message.origin.Holds frame.origin
  remoteSize : message.remoteSize.toNat = frame.remote.length
  remote : message.remote.Holds frame.remote
  ttl : message.ttl = frame.ttl
  dataSize : message.dataSize.toNat = frame.data.length
  options : message.options.toUInt8 = frame.options
  data : message.data.Holds frame.data

/-- A small word keeps its value in one byte. -/
theorem toUInt32_toUInt8_small (word : UInt32) (small : word < 256) : word.toUInt8.toUInt32 = word := by
  have value : word.toNat < 256 := UInt32.lt_iff_toNat_lt.mp small
  rw [← UInt32.toNat_inj, UInt8.toNat_toUInt32, UInt32.toNat_toUInt8]
  omega

namespace OctopipesMessage.Carries

variable {message : OctopipesMessage} {frame : Frame} (carries : message.Carries frame)

include carries

/-- The origin size field is the byte of the origin length. -/
theorem originByte : message.originSize = UInt8.ofNat frame.origin.length := by
  rw [← carries.originSize, UInt8.ofNat_toNat]

/-- The remote size field is the byte of the remote length. -/
theorem remoteByte : message.remoteSize = UInt8.ofNat frame.remote.length := by
  rw [← carries.remoteSize, UInt8.ofNat_toNat]

/-- The data size field is the word of the data length. -/
theorem sizeWord : message.dataSize = UInt64.ofNat frame.data.length := by
  rw [← carries.dataSize, UInt64.ofNat_toNat]

/-- Small options are the options byte of the frame. -/
theorem optionsByte (small : message.options < 256) : message.options = frame.options.toUInt32 := by
  rw [← carries.options, toUInt32_toUInt8_small message.options small]

/-- The checksum field does not matter for the frame that a message carries. -/
theorem withChecksum (checksum : UInt8) :
    ({ message with checksum := checksum } : OctopipesMessage).Carries frame where
  version := carries.version
  originSize := carries.originSize
  origin := carries.origin
  remoteSize := carries.remoteSize
  remote := carries.remote
  ttl := carries.ttl
  dataSize := carries.dataSize
  options := carries.options
  data := carries.data

end OctopipesMessage.Carries

/-- The decoded message carries the frame. -/
theorem Frame.message_carries (frame : Frame) (checksum : UInt8) :
    (frame.message checksum).Carries frame where
  version := rfl
  originSize := by simp [Frame.message, Nat.mod_eq_of_lt frame.originFits]
  origin := receivedName_holds _
  remoteSize := by simp [Frame.message, Nat.mod_eq_of_lt frame.remoteFits]
  remote := receivedName_holds _
  ttl := rfl
  dataSize := by
    have fits := frame.dataFits
    simp only [Frame.message, UInt64.toNat_ofNat']
    omega
  options := UInt8.toUInt8_toUInt32 _
  data := receivedData_holds _

theorem Frame.message_options_small (frame : Frame) (checksum : UInt8) :
    (frame.message checksum).options < 256 := by
  rw [UInt32.lt_iff_toNat_lt]
  exact (UInt8.toNat_toUInt32 _).trans_lt (UInt8.toNat_lt _)

/-- The low byte of the options decides about each of its flags. -/
theorem optionsFlag_toUInt8 (options flag : OctopipesOptions) (place : Nat) (low : place < 8)
    (value : flag.toNat = 2 ^ place) :
    options.toUInt8.toUInt32 &&& flag = 0 ↔ options &&& flag = 0 := by
  have bit (number : Nat) : number &&& 2 ^ place = (number.testBit place).toNat * 2 ^ place :=
    Nat.and_two_pow number place
  have kept : (options.toNat % 2 ^ 8).testBit place = options.toNat.testBit place := by
    rw [Nat.testBit_mod_two_pow, decide_eq_true low, Bool.true_and]
  rw [← UInt32.toNat_inj, ← UInt32.toNat_inj, UInt32.toNat_and, UInt32.toNat_and,
    UInt8.toNat_toUInt32, UInt32.toNat_toUInt8, value, bit, bit, kept]

/-- The low byte of the options decides whether the checksum is ignored. -/
theorem optionsIgnoreChecksum_toUInt8 (options : OctopipesOptions) :
    options.toUInt8.toUInt32 &&& optionsIgnoreChecksum = 0 ↔ options &&& optionsIgnoreChecksum = 0 :=
  optionsFlag_toUInt8 options optionsIgnoreChecksum 2 (by decide) rfl

/-- A message and its frame agree on the ignored checksum. -/
theorem ignoresChecksum_carries (message : OctopipesMessage) (frame : Frame)
    (carries : message.Carries frame) :
    frame.IgnoresChecksum ↔ message.options &&& optionsIgnoreChecksum ≠ 0 := by
  have low := optionsIgnoreChecksum_toUInt8 message.options
  rw [carries.options] at low
  exact not_congr low

/-- The checksum of a message is the sum of its frame. -/
theorem calculateChecksum_carries (message : OctopipesMessage) (frame : Frame)
    (carries : message.Carries frame) : calculateChecksum message = .ok frame.sum := by
  rw [calculateChecksum, if_pos carries.version, carries.originSize, carries.remoteSize,
    carries.dataSize]
  simp only [xorPart_holds _ _ _ carries.origin, xorPart_holds _ _ _ carries.remote,
    xorPart_holds _ _ _ carries.data, Exec.ok_bind, Exec.pure_eq]
  rw [carries.originByte, carries.remoteByte, carries.sizeWord, carries.options, carries.ttl,
    carries.version]
  simp only [Frame.sum, Frame.names, Frame.sizeBytes, xorBytes_append]
  rfl

end Octopipes
