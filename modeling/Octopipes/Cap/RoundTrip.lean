import Octopipes.Cap.Assignment
import Octopipes.Cap.Completeness

namespace Octopipes

open CMemory PointerArray

section Subscription

variable (groups : List CString)

/-- A subscription with counts that fit their bytes is complete. -/
theorem subscribedGroups_bytes (few : groups.length < 256)
    (short : ∀ group ∈ groups, group.strlen < 256) :
    subscribedGroups (subscriptionBytes groups) = some (groups.map CString.bytes) := by
  have carried : groupsBytes (groups.map CString.bytes) =
      groups.flatMap fun group => UInt8.ofNat group.strlen :: group.bytes := List.flatMap_map ..
  apply (subscribedGroups_eq_some _ _).mpr
  constructor
  · rwa [List.length_map]
  · exact List.forall_mem_map.mpr short
  · exact ⟨[], by rw [carried, List.length_map, List.append_nil]; rfl⟩

/-- A short list of short groups fits in a request. -/
theorem subscriptionBytes_fits (few : groups.length ≤ 255) (short : ∀ group ∈ groups, group.strlen ≤ 255) :
    (subscriptionBytes groups).length < 2 ^ 63 := by
  have total : (groups.flatMap fun group => UInt8.ofNat group.strlen :: group.bytes).length ≤
      256 * groups.length := by
    clear few
    induction groups with
    | nil => exact Nat.le_refl 0
    | cons group rest ih =>
        have tail := ih fun other member => short other (List.mem_cons_of_mem group member)
        have head := short group List.mem_cons_self
        rw [CString.strlen] at head
        rw [List.flatMap_cons, List.length_append, List.length_cons, List.length_cons]
        omega
  rw [subscriptionBytes_length]
  omega

theorem capMessage_subscriptionBytes : capMessage (subscriptionBytes groups) = .subscription := rfl

end Subscription

/-- The assignment bytes hold each path behind its length byte. -/
def assignmentBytes (error : OctopipesCapError) (tx rx : List UInt8) : List UInt8 :=
  [OctopipesCapMessage.assignment.code, error.toUInt8, UInt8.ofNat tx.length] ++ tx ++
    ([UInt8.ofNat rx.length] ++ rx)

section Assignment

variable (error : OctopipesCapError) (tx rx : CString)

theorem assignmentBytes_length :
    (assignmentBytes error tx.bytes rx.bytes).length = 4 + tx.strlen + rx.strlen := by
  simp [assignmentBytes, CString.strlen]
  omega

/-- The length of a text is one less than the size of its buffer. -/
theorem ofNat_bufferSize (size : Nat) : UInt64.ofNat (size + 1) - 1 = UInt64.ofNat size := by
  rw [UInt64.ofNat_add]
  exact UInt64.add_sub_cancel _ _

/-- An assignment with its memory holds exactly its bytes. -/
theorem octopipesCapPrepareAssign_granted (fits : 4 + tx.strlen + rx.strlen < 2 ^ 64) :
    octopipesCapPrepareAssign true error (.live tx.block) (UInt64.ofNat tx.strlen) (.live rx.block)
        (UInt64.ofNat rx.strlen) =
      .ok (.live (Block.ofBytes (assignmentBytes error tx.bytes rx.bytes)),
        UInt64.ofNat (assignmentBytes error tx.bytes rx.bytes).length) := by
  have txSize : (UInt64.ofNat tx.strlen).toNat = tx.bytes.length := by
    rw [UInt64.toNat_ofNat', Nat.mod_eq_of_lt (by omega), CString.strlen]
  have rxSize : (UInt64.ofNat rx.strlen).toNat = rx.bytes.length := by
    rw [UInt64.toNat_ofNat', Nat.mod_eq_of_lt (by omega), CString.strlen]
  have total : 4 + UInt64.ofNat tx.strlen + UInt64.ofNat rx.strlen =
      UInt64.ofNat (4 + tx.strlen + rx.strlen) := by
    rw [UInt64.ofNat_add, UInt64.ofNat_add]
    rfl
  have size : (UInt64.ofNat (4 + tx.strlen + rx.strlen)).toNat =
      4 + tx.bytes.length + rx.bytes.length := by
    rw [UInt64.toNat_ofNat', Nat.mod_eq_of_lt fits, CString.strlen, CString.strlen]
  have txRead : (Pointer.live tx.block).loadBytes 0 tx.bytes.length = .ok tx.bytes := tx.holds_block
  have rxRead : (Pointer.live rx.block).loadBytes 0 rx.bytes.length = .ok rx.bytes := rx.holds_block
  rw [octopipesCapPrepareAssign, assignmentBytes_length]
  simp only [total, size, txSize, rxSize, Bool.not_true, Bool.false_eq_true, ↓reduceIte,
    Cursor.start_fresh]
  rw [Cursor.put_after _ _ _ (by omega), Exec.ok_bind, Cursor.put_after _ _ _ (by omega),
    Exec.ok_bind, Cursor.put_after _ _ _ (by omega), Exec.ok_bind, txRead, Exec.ok_bind,
    Cursor.putBlock_after _ _ _ (by omega), Exec.ok_bind, Cursor.put_after _ _ _ (by omega),
    Exec.ok_bind, rxRead, Exec.ok_bind, Cursor.putBlock_after _ _ _ (by omega), Exec.ok_bind]
  have room : 4 + tx.bytes.length + rx.bytes.length - 1 - 1 - 1 - tx.bytes.length - 1 -
      rx.bytes.length = 0 := by omega
  rw [room]
  simp [Cursor.after, Block.fresh, Block.ofBytes, assignmentBytes, CString.strlen]

theorem capMessage_assignmentBytes :
    capMessage (assignmentBytes error tx.bytes rx.bytes) = .assignment := rfl

/-- An assignment with short paths carries these paths. -/
theorem assignedPaths_bytes (txShort : tx.strlen < 256) (rxShort : rx.strlen < 256) :
    pipeTxSize (assignmentBytes error tx.bytes rx.bytes) = tx.strlen ∧
      pipeRxSize (assignmentBytes error tx.bytes rx.bytes) = rx.strlen ∧
      assignedPaths (assignmentBytes error tx.bytes rx.bytes) = (tx.bytes, rx.bytes) := by
  have txSize : pipeTxSize (assignmentBytes error tx.bytes rx.bytes) = tx.strlen := by
    change (UInt8.ofNat tx.bytes.length).toNat = _
    rw [UInt8.toNat_ofNat', ← CString.strlen, Nat.mod_eq_of_lt txShort]
  have rxByte : byteAt (assignmentBytes error tx.bytes rx.bytes) (3 + tx.strlen) =
      UInt8.ofNat rx.bytes.length := by
    refine byteAt_split ([OctopipesCapMessage.assignment.code, error.toUInt8,
      UInt8.ofNat tx.bytes.length] ++ tx.bytes) rx.bytes rfl ?_
    rw [List.length_append, CString.strlen]
    rfl
  have rxSize : pipeRxSize (assignmentBytes error tx.bytes rx.bytes) = rx.strlen := by
    rw [pipeRxSize, txSize, rxByte, UInt8.toNat_ofNat', ← CString.strlen, Nat.mod_eq_of_lt rxShort]
  refine ⟨txSize, rxSize, ?_⟩
  rw [assignedPaths, txSize, rxSize, Prod.mk.injEq]
  constructor
  · exact slice_split [OctopipesCapMessage.assignment.code, error.toUInt8,
      UInt8.ofNat tx.bytes.length] _ (List.append_assoc ..) rfl rfl
  · refine slice_split ([OctopipesCapMessage.assignment.code, error.toUInt8,
      UInt8.ofNat tx.bytes.length] ++ tx.bytes ++ [UInt8.ofNat rx.bytes.length]) [] ?_ ?_ rfl
    · simp only [assignmentBytes, List.append_nil, List.append_assoc]
    · simp [CString.strlen]
      omega

/-- An assignment with success and short paths is complete. -/
theorem completeAssignment_bytes (txShort : tx.strlen < 256) (rxShort : rx.strlen < 256) :
    CompleteAssignment (assignmentBytes capErrorSuccess tx.bytes rx.bytes) := by
  obtain ⟨txSize, rxSize, _⟩ := assignedPaths_bytes capErrorSuccess tx rx txShort rxShort
  have length := assignmentBytes_length capErrorSuccess tx rx
  exact ⟨⟨by omega, rfl⟩, rfl, by omega, by omega⟩

/-- An assignment with an error that fits its byte is a refusal. -/
theorem refused_bytes (fits : error < 256) (failed : error ≠ capErrorSuccess) :
    Refused (assignmentBytes error tx.bytes rx.bytes) := by
  have length := assignmentBytes_length error tx rx
  refine ⟨⟨by omega, rfl⟩, fun success => failed ?_⟩
  change error.toUInt8 = 0 at success
  rw [← toUInt32_toUInt8_small error fits, success]
  rfl

end Assignment

/-- The CAP payloads parse back to the groups, to the error code and to the paths they carry. -/
theorem octopipesCap_roundTrip :
    (∀ (groups : List CString) (previous : PointerArray Block) (previousAmount : Nat),
      groups.length ≤ 255 → (∀ group ∈ groups, group.strlen ≤ 255) →
      ∃ data dataSize, octopipesCapPrepareSubscription true groups = .ok (data, dataSize) ∧
        octopipesCapGetMessage data dataSize = .ok .subscription ∧
        octopipesCapParseSubscribe true (fun _ => true) data dataSize previous previousAmount =
          .ok ⟨.success, .live (groups.map fun group => .live group.block), groups.length⟩) ∧
    ∀ (error : OctopipesCapError) (tx rx : CString) (fifoTx fifoRx : Pointer Block),
      error < 256 → tx.strlen ≤ 255 → rx.strlen ≤ 255 →
      ∃ data dataSize parsed,
        octopipesCapPrepareAssign true error (.live tx.block) (UInt64.ofNat tx.strlen)
          (.live rx.block) (UInt64.ofNat rx.strlen) = .ok (data, dataSize) ∧
        octopipesCapGetMessage data dataSize.toNat = .ok .assignment ∧
        octopipesCapParseAssign true true data dataSize.toNat fifoTx fifoRx = .ok parsed ∧
        parsed.rc = .success ∧ parsed.error = some error ∧
        (error = capErrorSuccess →
          parsed.fifoTx = .live tx.block ∧ parsed.fifoRx = .live rx.block) := by
  constructor
  · intro groups previous previousAmount few short
    have complete := subscribedGroups_bytes groups (by omega) fun group member =>
      Nat.lt_succ_of_le (short group member)
    have parsed := octopipesCapParseSubscribe_complete _ (fun _ => true) _ previous previousAmount
      complete fun _ _ => rfl
    rw [List.map_map, List.length_map] at parsed
    have message := octopipesCapGetMessage_received (subscriptionBytes groups)
    have fits := Nat.lt_trans (subscriptionBytes_fits groups few short) (by decide : 2 ^ 63 < 2 ^ 64)
    exact ⟨_, _, octopipesCapPrepareSubscription_granted groups fits, message, parsed⟩
  · intro error tx rx fifoTx fifoRx fits txShort rxShort
    have length := assignmentBytes_length error tx rx
    have size : (UInt64.ofNat (assignmentBytes error tx.bytes rx.bytes).length).toNat =
        (assignmentBytes error tx.bytes rx.bytes).length := by
      rw [UInt64.toNat_ofNat']
      exact Nat.mod_eq_of_lt (by omega)
    have message := octopipesCapGetMessage_received (assignmentBytes error tx.bytes rx.bytes)
    have prepared := octopipesCapPrepareAssign_granted error tx rx (by omega)
    by_cases success : error = capErrorSuccess
    · subst success
      have parsed := octopipesCapParseAssign_complete _ fifoTx fifoRx
        (completeAssignment_bytes tx rx (by omega) (by omega))
      obtain ⟨_, _, paths⟩ := assignedPaths_bytes capErrorSuccess tx rx (by omega) (by omega)
      rw [paths] at parsed
      refine ⟨_, _, _, prepared, by rw [size]; exact message, by rw [size]; exact parsed, rfl, rfl,
        fun _ => ⟨rfl, rfl⟩⟩
    · have parsed := octopipesCapParseAssign_refused _ true true fifoTx fifoRx
        (refused_bytes error tx rx fits success)
      refine ⟨_, _, _, prepared, by rw [size]; exact message, by rw [size]; exact parsed, rfl, ?_,
        fun same => absurd same success⟩
      exact congrArg some (toUInt32_toUInt8_small error fits)

/-- An empty name beside a short one and two paths pass through the payloads. -/
theorem octopipesCap_roundTrip_short :
    let group : CString := ⟨[0x67], by decide⟩
    let empty : CString := ⟨[], by decide⟩
    (∃ data dataSize, octopipesCapPrepareSubscription true [empty, group] = .ok (data, dataSize) ∧
      octopipesCapGetMessage data dataSize = .ok .subscription ∧
      octopipesCapParseSubscribe true (fun _ => true) data dataSize .null 0 =
        .ok ⟨.success, .live ([empty, group].map fun group => .live group.block), 2⟩) ∧
    ∃ data dataSize parsed,
      octopipesCapPrepareAssign true capErrorSuccess (.live group.block) (UInt64.ofNat group.strlen)
        (.live empty.block) (UInt64.ofNat empty.strlen) = .ok (data, dataSize) ∧
      octopipesCapGetMessage data dataSize.toNat = .ok .assignment ∧
      octopipesCapParseAssign true true data dataSize.toNat .null .null = .ok parsed ∧
      parsed.rc = .success ∧ parsed.error = some capErrorSuccess ∧
      (capErrorSuccess = capErrorSuccess →
        parsed.fifoTx = .live group.block ∧ parsed.fifoRx = .live empty.block) :=
  ⟨octopipesCap_roundTrip.1 _ .null 0 (by decide) (by decide),
    octopipesCap_roundTrip.2 _ _ _ .null .null (by decide) (by decide) (by decide)⟩

end Octopipes
