import Octopipes.CMemory.Sweep
import Octopipes.Cap.Assignment
import Octopipes.Serializer.Encode

namespace Octopipes

open CMemory

/-- The writes reach each offset of a buffer once and the running offset ends at its size. -/
structure FillsBuffer (writes : List Nat) (offset size : Nat) : Prop where
  once : writes.Perm (List.range size)
  ends : offset = size

/-- A written offset is inside the buffer and every offset inside is written. -/
theorem FillsBuffer.mem_iff {writes : List Nat} {offset size : Nat} (fills : FillsBuffer writes offset size)
    (index : Nat) : index ∈ writes ↔ index < size := by
  rw [fills.once.mem_iff, List.mem_range]

section Encode

variable (message : OctopipesMessage)

/-- These writes come before the checksum cell. -/
def tracedEncodeHead (cursor : Cursor) : Writer Cursor := do
  let cursor ← cursor.tracedPut soh
  let cursor ← cursor.tracedPut message.version.toUInt8
  let cursor ← cursor.tracedPut message.originSize
  let origin ← .silent (message.origin.loadBytes 0 message.originSize.toNat)
  let cursor ← cursor.tracedPutBlock origin
  let cursor ← cursor.tracedPut message.remoteSize
  let remote ← .silent (message.remote.loadBytes 0 message.remoteSize.toNat)
  let cursor ← cursor.tracedPutBlock remote
  let cursor ← cursor.tracedPut message.ttl
  let cursor ← cursor.tracedPutEach (BigEndian.wordBytes message.dataSize)
  cursor.tracedPut message.options.toUInt8

/-- These writes come behind the checksum cell. -/
def tracedEncodeTail (cursor : Cursor) : Writer Cursor := do
  let cursor ← cursor.tracedPut stx
  let data ← .silent (message.data.loadBytes 0 message.dataSize.toNat)
  let cursor ← cursor.tracedPutBlock data
  cursor.tracedPut etx

/-- The traced encoder returns its running offset beside its result. -/
def tracedEncode (granted : Bool) : Writer (Except OctopipesError (Block × OctopipesMessage) × Nat) :=
  if message.version = OctopipesVersion.version1.field then
    if !granted then pure (.error .badAlloc, 0)
    else do
      let cursor ← tracedEncodeHead message (.start (Block.fresh (encodedSize message).toNat))
      let checksumPosition := cursor.position
      let cursor ← tracedEncodeTail message cursor.skip
      let checksum ← .silent (storedChecksum message)
      let block ← .emit [checksumPosition] (cursor.block.store checksumPosition checksum)
      pure (.ok (block, { message with checksum := checksum }), cursor.position)
  else pure (.error .unsupportedVersion, 0)

/-- The write pass is both of its traced parts around the skipped cell. -/
theorem encodeFields_parts (cursor : Cursor) :
    encodeFields message cursor = (tracedEncodeHead message cursor).result >>= fun head =>
      (tracedEncodeTail message head.skip).result >>= fun tail => .ok (tail, head.position) := by
  simp only [encodeFields, tracedEncodeHead, tracedEncodeTail, Traced.result_bind, Traced.result_silent,
    Cursor.tracedPut_result, Cursor.tracedPutBlock_result, Cursor.tracedPutEach_result, bind_assoc,
    Exec.pure_eq]

/-- The trace keeps the result of the encoder. -/
theorem tracedEncode_result (granted : Bool) :
    (tracedEncode message granted).result.map Prod.fst = octopipesEncode granted message := by
  unfold tracedEncode octopipesEncode
  split
  · split
    · rfl
    · rw [encodeFields_parts]
      simp only [Traced.result_bind, Traced.result_silent, Traced.result_emit, Traced.result_pure,
        Exec.map_bind, bind_assoc, Exec.ok_bind]
      rfl
  · rfl

theorem tracedEncodeHead_sweeps (cursor : Cursor) : Sweeps (tracedEncodeHead message cursor) cursor.position := by
  refine sweeps_bind (sweeps_put _ _) fun cursor => ?_
  refine sweeps_bind (sweeps_put _ _) fun cursor => ?_
  refine sweeps_bind (sweeps_put _ _) fun cursor => ?_
  refine sweeps_silent fun origin => ?_
  refine sweeps_bind (sweeps_putBlock _ _) fun cursor => ?_
  refine sweeps_bind (sweeps_put _ _) fun cursor => ?_
  refine sweeps_silent fun remote => ?_
  refine sweeps_bind (sweeps_putBlock _ _) fun cursor => ?_
  refine sweeps_bind (sweeps_put _ _) fun cursor => ?_
  refine sweeps_bind (sweeps_putEach _ _) fun cursor => ?_
  exact sweeps_put _ _

theorem tracedEncodeTail_sweeps (cursor : Cursor) : Sweeps (tracedEncodeTail message cursor) cursor.position := by
  refine sweeps_bind (sweeps_put _ _) fun cursor => ?_
  refine sweeps_silent fun data => ?_
  refine sweeps_bind (sweeps_putBlock _ _) fun cursor => ?_
  exact sweeps_put _ _

/-- The encoder fills the buffer that it sizes. -/
def EncodeFills : Prop :=
  ∃ block stored offset,
    octopipesEncode true message = .ok (.ok (block, stored)) ∧
    (tracedEncode message true).result = .ok (.ok (block, stored), offset) ∧
    block.length = (encodedSize message).toNat ∧
    FillsBuffer (tracedEncode message true).events offset block.length

/-- The two parts write a frame up to its size around the checksum cell. -/
structure EncodePasses (size : Nat) (head tail : Cursor) : Prop where
  headWritten : (tracedEncodeHead message (.start (Block.fresh (encodedSize message).toNat))).result = .ok head
  tailWritten : (tracedEncodeTail message head.skip).result = .ok tail
  ends : tail.position = size
  whole : tail.block.length = size
  inside : head.position < size

section Carries

variable {message} {frame : Frame} (carries : message.Carries frame)

include carries

theorem encodePasses_carries (fits : frame.size < 2 ^ 64) :
    ∃ head tail, EncodePasses message frame.size head tail := by
  have fields := encodeFields_carries message frame carries
  rw [encodeFields_parts, ← encodedSize_carries message frame carries fits] at fields
  obtain ⟨head, headWritten, fields⟩ := Exec.bind_eq_ok.mp fields
  obtain ⟨tail, tailWritten, same⟩ := Exec.bind_eq_ok.mp fields
  obtain ⟨tailEnds, place⟩ := Prod.mk.inj (Except.ok.inj same)
  refine ⟨head, tail, headWritten, tailWritten, ?_, ?_, ?_⟩
  · rw [tailEnds]
    simp [Cursor.after, Frame.size]
    omega
  · rw [tailEnds]
    simp [Cursor.after, Frame.size]
    omega
  · rw [place]
    simp [Frame.size]
    omega

/-- The checksum is written after both parts. -/
theorem tracedEncode_passes {head tail : Cursor} (passes : EncodePasses message frame.size head tail) :
    tracedEncode message true =
      ⟨(tracedEncodeHead message (.start (Block.fresh (encodedSize message).toNat))).events ++
          ((tracedEncodeTail message head.skip).events ++ [head.position]),
        .ok (.ok (tail.block.set head.position (some frame.wireChecksum),
          { message with checksum := frame.wireChecksum }), tail.position)⟩ := by
  have reads : (Traced.silent (storedChecksum message) : Writer UInt8).result = .ok frame.wireChecksum :=
    storedChecksum_carries message frame carries
  have stores : (Traced.emit [head.position] (tail.block.store head.position frame.wireChecksum)).result =
      .ok (tail.block.set head.position (some frame.wireChecksum)) :=
    Block.store_inside _ _ _ (passes.whole ▸ passes.inside)
  rw [tracedEncode, if_pos carries.version, if_neg (by simp), Traced.bind_ok passes.headWritten]
  dsimp only
  rw [Traced.bind_ok passes.tailWritten, Traced.bind_ok reads, Traced.bind_ok stores]
  simp

/-- A message that carries a frame fits the size that is computed for it. -/
theorem encodeFills_carries (fits : frame.size < 2 ^ 64) : EncodeFills message := by
  obtain ⟨head, tail, passes⟩ := encodePasses_carries carries fits
  obtain ⟨_, headEvents⟩ := tracedEncodeHead_sweeps message _ head passes.headWritten
  obtain ⟨_, tailEvents⟩ := tracedEncodeTail_sweeps message head.skip tail passes.tailWritten
  have traced := tracedEncode_passes carries passes
  have kept := tracedEncode_result message true
  rw [traced] at kept
  rw [EncodeFills, traced]
  refine ⟨_, _, _, kept.symm, rfl, ?_, ?_, ?_⟩
  · rw [List.length_set, passes.whole, encodedSize_carries message frame carries fits]
  · have skipped : head.skip.position = head.position + 1 := rfl
    have around := range_around_perm head.position (frame.size - (head.position + 1))
    have total : head.position + 1 + (frame.size - (head.position + 1)) = frame.size := by
      have inside := passes.inside
      omega
    rw [headEvents, tailEvents, skipped, passes.ends, List.length_set, passes.whole, ← List.append_assoc]
    rwa [total] at around
  · rw [List.length_set, passes.ends, passes.whole]

end Carries

end Encode

section Subscription

/-- The traced loop writes each group name after its length byte. -/
def tracedPutGroups (cursor : Cursor) : List CString → Writer Cursor
  | [] => pure cursor
  | group :: rest => do
      let cursor ← cursor.tracedPut (UInt8.ofNat group.strlen)
      let cursor ← cursor.tracedPutBlock group.bytes
      tracedPutGroups cursor rest

/-- The writes of the payload start with its type and the number of its groups. -/
def tracedSubscription (groups : List CString) (cursor : Cursor) : Writer Cursor := do
  let cursor ← cursor.tracedPut OctopipesCapMessage.subscription.code
  let cursor ← cursor.tracedPut (UInt8.ofNat groups.length)
  tracedPutGroups cursor groups

/-- The traced payload returns its running offset beside its result. -/
def tracedPrepareSubscription (granted : Bool) (groups : List CString) : Writer ((Pointer Block × Nat) × Nat) :=
  let currentSize := (groupsSize groups).toNat
  if !granted then pure ((.null, 0), 0)
  else do
    let cursor ← tracedSubscription groups (.start (Block.fresh currentSize))
    pure ((.live cursor.block, currentSize), cursor.position)

theorem tracedPutGroups_result (cursor : Cursor) (groups : List CString) :
    (tracedPutGroups cursor groups).result = putGroups cursor groups := by
  induction groups generalizing cursor with
  | nil => rfl
  | cons group rest ih =>
      rw [tracedPutGroups, putGroups, Traced.result_bind, Cursor.tracedPut_result]
      apply congrArg (cursor.put _ >>= ·)
      funext cursor
      rw [Traced.result_bind, Cursor.tracedPutBlock_result]
      apply congrArg (cursor.putBlock _ >>= ·)
      funext cursor
      exact ih cursor

/-- The trace keeps the result of the payload. -/
theorem tracedPrepareSubscription_result (granted : Bool) (groups : List CString) :
    (tracedPrepareSubscription granted groups).result.map Prod.fst =
      octopipesCapPrepareSubscription granted groups := by
  unfold tracedPrepareSubscription octopipesCapPrepareSubscription
  dsimp only
  split
  · rfl
  · simp only [tracedSubscription, Traced.result_bind, Traced.result_pure, Cursor.tracedPut_result,
      tracedPutGroups_result, Exec.map_bind, bind_assoc]
    rfl

theorem tracedPutGroups_sweeps (cursor : Cursor) (groups : List CString) :
    Sweeps (tracedPutGroups cursor groups) cursor.position := by
  induction groups generalizing cursor with
  | nil => exact sweeps_pure cursor
  | cons group rest ih =>
      refine sweeps_bind (sweeps_put _ _) fun cursor => ?_
      exact sweeps_bind (sweeps_putBlock _ _) ih

theorem tracedSubscription_sweeps (groups : List CString) (cursor : Cursor) :
    Sweeps (tracedSubscription groups cursor) cursor.position := by
  refine sweeps_bind (sweeps_put _ _) fun cursor => ?_
  exact sweeps_bind (sweeps_put _ _) fun cursor => tracedPutGroups_sweeps cursor groups

/-- The loop moves the cursor behind the bytes of its groups. -/
theorem putGroups_position {cursor next : Cursor} {groups : List CString}
    (written : putGroups cursor groups = .ok next) : next.position = cursor.position +
      (groups.flatMap fun group => UInt8.ofNat group.strlen :: group.bytes).length := by
  induction groups generalizing cursor with
  | nil =>
      cases written
      rfl
  | cons group rest ih =>
      obtain ⟨size, sized, written⟩ := Exec.bind_eq_ok.mp written
      obtain ⟨name, named, written⟩ := Exec.bind_eq_ok.mp written
      rw [ih written, Cursor.putBlock_position named, Cursor.put_position sized, List.flatMap_cons,
        List.length_append, List.length_cons]
      omega

/-- The running offset ends behind the last group. -/
theorem tracedSubscription_position {cursor next : Cursor} {groups : List CString}
    (written : (tracedSubscription groups cursor).result = .ok next) :
    next.position = cursor.position + (subscriptionBytes groups).length := by
  simp only [tracedSubscription, Traced.result_bind, Cursor.tracedPut_result, tracedPutGroups_result] at written
  obtain ⟨object, first, written⟩ := Exec.bind_eq_ok.mp written
  obtain ⟨amount, second, written⟩ := Exec.bind_eq_ok.mp written
  rw [putGroups_position written, Cursor.put_position second, Cursor.put_position first,
    subscriptionBytes_length]
  omega

/-- Groups that need more room than there is end in a write past the block. -/
theorem putGroups_outside (groups : List CString) (cells : Block) (room : Nat)
    (outside : room < (groups.flatMap fun group => UInt8.ofNat group.strlen :: group.bytes).length) :
    putGroups (.after cells room) groups = .error .outOfBounds := by
  induction groups generalizing cells room with
  | nil => cases outside
  | cons group rest ih =>
      rw [List.flatMap_cons, List.length_append, List.length_cons] at outside
      rw [putGroups]
      by_cases full : room = 0
      · rw [full, Cursor.put_full, Exec.error_bind]
      rw [Cursor.put_after _ _ _ (Nat.pos_of_ne_zero full), Exec.ok_bind]
      by_cases long : room - 1 < group.bytes.length
      · rw [Cursor.putBlock_outside _ _ _ long, Exec.error_bind]
      · rw [Cursor.putBlock_after _ _ _ (Nat.le_of_not_lt long), Exec.ok_bind]
        exact ih _ _ (by omega)

/-- A size that wraps gives less room than the groups need. -/
theorem octopipesCapPrepareSubscription_outside (groups : List CString)
    (wraps : 2 ^ 64 ≤ (subscriptionBytes groups).length) :
    octopipesCapPrepareSubscription true groups = .error .outOfBounds := by
  have length := subscriptionBytes_length groups
  have room : (groupsSize groups).toNat < 2 ^ 64 := UInt64.toNat_lt _
  simp only [octopipesCapPrepareSubscription, Bool.not_true, Bool.false_eq_true, ↓reduceIte, Cursor.start_fresh]
  by_cases none : (groupsSize groups).toNat = 0
  · rw [none, Cursor.put_full, Exec.error_bind]
  rw [Cursor.put_after _ _ _ (Nat.pos_of_ne_zero none), Exec.ok_bind]
  by_cases one : (groupsSize groups).toNat - 1 = 0
  · rw [one, Cursor.put_full, Exec.error_bind]
  rw [Cursor.put_after _ _ _ (Nat.pos_of_ne_zero one), Exec.ok_bind, putGroups_outside _ _ _ (by omega),
    Exec.error_bind]

/-- The payload fills the buffer that it sizes. -/
def SubscriptionFills (groups : List CString) : Prop :=
  ∃ block size offset,
    octopipesCapPrepareSubscription true groups = .ok (.live block, size) ∧
    (tracedPrepareSubscription true groups).result = .ok ((.live block, size), offset) ∧
    block.length = size ∧
    FillsBuffer (tracedPrepareSubscription true groups).events offset block.length

/-- The groups fit the size that is computed for them exactly when it does not wrap. -/
theorem subscriptionFills_iff (groups : List CString) :
    SubscriptionFills groups ↔ (subscriptionBytes groups).length < 2 ^ 64 := by
  constructor
  · rintro ⟨block, size, offset, prepared, _⟩
    by_contra wraps
    rw [octopipesCapPrepareSubscription_outside groups (Nat.le_of_not_lt wraps)] at prepared
    cases prepared
  · intro fits
    have prepared := octopipesCapPrepareSubscription_granted groups fits
    have kept := tracedPrepareSubscription_result true groups
    rw [prepared, tracedPrepareSubscription, if_neg (by simp), Traced.result_bind, Exec.map_bind] at kept
    obtain ⟨cursor, written, same⟩ := Exec.bind_eq_ok.mp kept
    obtain ⟨block, size⟩ := Prod.mk.inj (Except.ok.inj same)
    have filled := Pointer.live.inj block
    have ends : cursor.position = (subscriptionBytes groups).length :=
      (tracedSubscription_position written).trans (Nat.zero_add _)
    obtain ⟨_, events⟩ := tracedSubscription_sweeps groups _ cursor written
    have traced : tracedPrepareSubscription true groups =
        ⟨List.range' 0 cursor.position, .ok ((.live cursor.block, (groupsSize groups).toNat), cursor.position)⟩ := by
      rw [tracedPrepareSubscription, if_neg (by simp), Traced.bind_ok written, events]
      simp [Cursor.start]
    have length : cursor.block.length = cursor.position := by rw [filled, Block.ofBytes_length, ends]
    rw [SubscriptionFills, traced]
    refine ⟨_, _, _, ?_, rfl, ?_, ?_, ?_⟩
    · rw [prepared, filled, groupsSize_toNat groups fits]
    · rw [length, ends, groupsSize_toNat groups fits]
    · rw [length, List.range_eq_range']
    · exact length.symm

end Subscription

/-- Both encoders fill the buffer that they size, the groups exactly when their size does not wrap. -/
theorem encoders_fillBuffers (message : OctopipesMessage) (frame : Frame) (carries : message.Carries frame)
    (fits : frame.size < 2 ^ 64) (groups : List CString) :
    EncodeFills message ∧ (SubscriptionFills groups ↔ (subscriptionBytes groups).length < 2 ^ 64) :=
  ⟨encodeFills_carries carries fits, subscriptionFills_iff groups⟩

/-- A message with a name and one payload byte is encoded beside a payload with one group. -/
theorem encoders_fillBuffers_ping :
    let frame : Frame := .ofShort [0x61] [] 5 4 [0x70] (by decide)
    EncodeFills (frame.message 9) ∧ (SubscriptionFills [⟨[0x67], by decide⟩] ↔
      (subscriptionBytes [⟨[0x67], by decide⟩]).length < 2 ^ 64) :=
  encoders_fillBuffers _ _ (Frame.message_carries _ 9) (by decide) _

/-- A name of one repeated letter. -/
def repeatedName (length : Nat) : CString where
  bytes := List.replicate length 0x61
  noNul := fun member => absurd (List.eq_of_mem_replicate member) (by decide)

theorem repeatedName_strlen (length : Nat) : (repeatedName length).strlen = length := List.length_replicate

/-- Equal groups add up to their number times their common size. -/
theorem subscriptionBytes_replicate (count : Nat) (group : CString) :
    (subscriptionBytes (List.replicate count group)).length = 2 + count * (group.strlen + 1) := by
  rw [subscriptionBytes_length, List.length_flatMap, List.map_replicate, List.sum_replicate_nat,
    List.length_cons, CString.strlen]

/-- The size of so many pointers to one long name wraps to two. -/
theorem not_subscriptionFills_wrapped :
    ¬SubscriptionFills (List.replicate (2 ^ 33) (repeatedName (2 ^ 31 - 1))) := by
  rw [subscriptionFills_iff, subscriptionBytes_replicate, repeatedName_strlen]
  decide

end Octopipes
