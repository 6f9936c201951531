import Octopipes.Cap.Payload
import Octopipes.Serializer.Frame

namespace Octopipes

open CMemory PointerArray

/-- The first byte of a payload selects its CAP message. -/
def capMessage : List UInt8 → OctopipesCapMessage
  | [] => .unknown
  | object :: _ => .ofByte object

/-- A received payload gives the CAP message of its first byte. -/
theorem octopipesCapGetMessage_received (payload : List UInt8) :
    octopipesCapGetMessage (receivedData payload) payload.length = .ok (capMessage payload) := by
  cases payload with
  | nil => rfl
  | cons object rest =>
      have read := Block.load_ofBytes (object :: rest) 0 (by simp)
      rw [octopipesCapGetMessage, if_neg (by simp), receivedData, if_neg (by simp), Pointer.load_live,
        read, Exec.ok_bind]
      rfl

theorem capMessage_assignment (payload : List UInt8) (assignment : capMessage payload = .assignment) :
    payload ≠ [] ∧ byteAt payload 0 = OctopipesCapMessage.assignment.code := by
  cases payload with
  | nil => cases assignment
  | cons object rest =>
      refine ⟨by simp, ?_⟩
      rw [capMessage, OctopipesCapMessage.ofByte] at assignment
      split_ifs at assignment with subscription unsubscription same
      exact same

/-- A received unsubscription passes its parser. -/
theorem octopipesCapParseUnsubscribe_received (payload : List UInt8)
    (unsubscription : capMessage payload = .unsubscription) :
    octopipesCapParseUnsubscribe (.live (Block.ofBytes payload)) payload.length = .ok .success := by
  cases payload with
  | nil => cases unsubscription
  | cons object rest =>
      have read := Block.load_ofBytes (object :: rest) 0 (by simp)
      rw [capMessage, OctopipesCapMessage.ofByte] at unsubscription
      split_ifs at unsubscription with subscription same
      rw [octopipesCapParseUnsubscribe, if_neg (by simp), Pointer.load_live, read, Exec.ok_bind]
      exact if_pos same

/-- These groups stand one after the other behind their length bytes. -/
def splitGroups : Nat → List UInt8 → Option (List (List UInt8))
  | 0, _ => some []
  | _ + 1, [] => none
  | count + 1, size :: rest =>
      if size.toNat ≤ rest.length then
        (splitGroups count (rest.drop size.toNat)).map (rest.take size.toNat :: ·)
      else none

/-- A complete subscription declares its number of groups and carries each of them. -/
def subscribedGroups (payload : List UInt8) : Option (List (List UInt8)) :=
  if 2 ≤ payload.length ∧ byteAt payload 0 = OctopipesCapMessage.subscription.code then
    splitGroups (byteAt payload 1).toNat (payload.drop 2)
  else none

/-- A parsed group is a fresh text. -/
def groupText (group : List UInt8) : Pointer Block := .live (Block.ofBytes (group ++ [0]))

theorem splitGroups_length {count : Nat} {bytes : List UInt8} {groups : List (List UInt8)}
    (split : splitGroups count bytes = some groups) : groups.length = count := by
  induction count generalizing bytes groups with
  | zero => cases split; rfl
  | succ count ih =>
      cases bytes with
      | nil => cases split
      | cons size rest =>
          rw [splitGroups] at split
          split at split
          · obtain ⟨tail, tailSplit, rfl⟩ := Option.map_eq_some_iff.mp split
            rw [List.length_cons, ih tailSplit]
          · cases split

/-- The first group starts behind the length byte at its own position. -/
theorem splitGroups_drop (payload : List UInt8) (count dataPtr : Nat) (inside : dataPtr < payload.length) :
    splitGroups (count + 1) (payload.drop dataPtr) =
      if dataPtr + 1 + (byteAt payload dataPtr).toNat ≤ payload.length then
        (splitGroups count (payload.drop (dataPtr + 1 + (byteAt payload dataPtr).toNat))).map
          (slice payload (dataPtr + 1) (byteAt payload dataPtr).toNat :: ·)
      else none := by
  have split : payload.drop dataPtr = byteAt payload dataPtr :: payload.drop (dataPtr + 1) := by
    rw [byteAt_eq payload dataPtr inside]
    exact List.drop_eq_getElem_cons inside
  have fits : (byteAt payload dataPtr).toNat ≤ (payload.drop (dataPtr + 1)).length ↔
      dataPtr + 1 + (byteAt payload dataPtr).toNat ≤ payload.length := by
    rw [List.length_drop]
    omega
  rw [split, splitGroups, List.drop_drop]
  simp only [fits, slice]

section Loop

variable (granted : Nat → Bool) (payload : List UInt8)

/-- The release of the groups needs every slot to be defined. -/
theorem freeGroups_defined (slots : List (Pointer Block)) (index count place : Nat)
    (freed : freeGroups (.live slots) index count = .ok ()) (lower : index ≤ place)
    (upper : place < index + count) : slots[place]? ≠ some .wild := by
  induction count generalizing index with
  | zero => omega
  | succ count ih =>
      obtain ⟨group, read, freed⟩ := Exec.bind_eq_ok.mp freed
      obtain ⟨_, released, freed⟩ := Exec.bind_eq_ok.mp freed
      by_cases here : place = index
      · intro undefined
        rw [slot, Pointer.deref_live, Exec.ok_bind, loadElement, ← here, undefined] at read
        cases read
        cases released
      · exact ih (index + 1) freed (by omega) (by omega)

/-- One iteration parses one group that the payload holds. -/
theorem parseGroups_next (filled : List (Pointer Block)) (count dataPtr : Nat)
    (inside : dataPtr < payload.length)
    (fits : dataPtr + 1 + (byteAt payload dataPtr).toNat ≤ payload.length)
    (allowed : granted filled.length = true) :
    parseGroups granted (.live (Block.ofBytes payload)) payload.length filled.length dataPtr
        (.live (filled ++ List.replicate (count + 1) .wild)) (count + 1) =
      parseGroups granted (.live (Block.ofBytes payload)) payload.length (filled.length + 1)
        (dataPtr + 1 + (byteAt payload dataPtr).toNat)
        (.live ((filled ++ [groupText (slice payload (dataPtr + 1) (byteAt payload dataPtr).toNat)]) ++
          List.replicate count .wild)) count := by
  have continues : ¬(payload.length < dataPtr + 1 + (byteAt payload dataPtr).toNat ∨
      (!granted filled.length) = true) := by
    simp [allowed, fits]
  rw [parseGroups, if_pos inside, Pointer.load_live, Block.load_ofBytes payload dataPtr inside,
    Exec.ok_bind, if_neg continues, Pointer.copyText_inside payload _ _ fits, Exec.ok_bind,
    store_next, Exec.ok_bind]
  rfl

/-- The loop parses every group of a complete payload. -/
theorem parseGroups_complete (filled : List (Pointer Block)) (count dataPtr : Nat)
    (groups : List (List UInt8)) (split : splitGroups count (payload.drop dataPtr) = some groups)
    (allowed : ∀ index < count, granted (filled.length + index) = true) :
    parseGroups granted (.live (Block.ofBytes payload)) payload.length filled.length dataPtr
        (.live (filled ++ List.replicate count .wild)) count =
      .ok (.success, .live (filled ++ groups.map groupText)) := by
  induction count generalizing filled dataPtr groups with
  | zero =>
      cases split
      rfl
  | succ count ih =>
      by_cases inside : dataPtr < payload.length
      · rw [splitGroups_drop payload count dataPtr inside] at split
        split at split
        · next fits =>
            obtain ⟨tail, tailSplit, rfl⟩ := Option.map_eq_some_iff.mp split
            rw [parseGroups_next granted payload filled count dataPtr inside fits
              (allowed 0 (Nat.succ_pos count))]
            have continued := ih
              (filled ++ [groupText (slice payload (dataPtr + 1) (byteAt payload dataPtr).toNat)]) _ tail
              tailSplit fun index bound => by
                rw [List.length_append, List.length_singleton, Nat.add_assoc, Nat.add_comm 1 index]
                exact allowed (index + 1) (by omega)
            rw [List.length_append, List.length_singleton] at continued
            rw [continued, List.map_cons, List.append_assoc, List.singleton_append]
        · cases split
      · rw [List.drop_eq_nil_of_le (by omega)] at split
        cases split

/-- A loop that returns reports success with every group parsed or with an undefined slot. -/
theorem parseGroups_returned (filled : List (Pointer Block)) (count dataPtr : Nat)
    (rc : OctopipesError) (final : PointerArray Block)
    (returned : parseGroups granted (.live (Block.ofBytes payload)) payload.length filled.length dataPtr
      (.live (filled ++ List.replicate count .wild)) count = .ok (rc, final)) :
    rc = .success ∧ ((∃ groups, splitGroups count (payload.drop dataPtr) = some groups ∧
      ∀ index < count, granted (filled.length + index) = true) ∨
    ∃ slots, final = .live slots ∧ slots.length = filled.length + count ∧ .wild ∈ slots) := by
  induction count generalizing filled dataPtr with
  | zero =>
      cases returned
      exact ⟨rfl, Or.inl ⟨[], rfl, fun index bound => absurd bound (Nat.not_lt_zero index)⟩⟩
  | succ count ih =>
      by_cases inside : dataPtr < payload.length
      · by_cases continues : dataPtr + 1 + (byteAt payload dataPtr).toNat ≤ payload.length ∧
            granted filled.length = true
        · obtain ⟨fits, allowed⟩ := continues
          rw [parseGroups_next granted payload filled count dataPtr inside fits allowed] at returned
          have length (group : Pointer Block) : (filled ++ [group]).length = filled.length + 1 := by simp
          rw [← length] at returned
          rw [splitGroups_drop payload count dataPtr inside, if_pos fits]
          obtain ⟨success, ⟨groups, split, others⟩ | ⟨slots, same, size, undefined⟩⟩ := ih _ _ returned
          · refine ⟨success, Or.inl ⟨_, by rw [split]; rfl, fun index bound => ?_⟩⟩
            cases index with
            | zero => exact allowed
            | succ index =>
                have other := others index (by omega)
                rwa [length, Nat.add_assoc, Nat.add_comm 1 index] at other
          · exact ⟨success, Or.inr ⟨slots, same, by rw [size, length]; omega, undefined⟩⟩
        · exfalso
          rw [parseGroups, if_pos inside, Pointer.load_live, Block.load_ofBytes payload dataPtr inside,
            Exec.ok_bind, if_pos] at returned
          · obtain ⟨_, freed, _⟩ := Exec.bind_eq_ok.mp returned
            exact freeGroups_defined _ 0 _ filled.length freed (Nat.zero_le _) (by omega) (by simp)
          · by_cases fits : dataPtr + 1 + (byteAt payload dataPtr).toNat ≤ payload.length
            · apply Or.inr
              simpa using fun allowed => continues ⟨fits, allowed⟩
            · exact Or.inl (by omega)
      · rw [parseGroups, if_neg inside] at returned
        cases returned
        exact ⟨rfl, Or.inr ⟨_, rfl, by simp, by simp⟩⟩

end Loop

section Parser

variable (payload : List UInt8) (arrayGranted : Bool) (groupGranted : Nat → Bool)

/-- A complete subscription gives its groups. -/
theorem octopipesCapParseSubscribe_complete (groups : List (List UInt8)) (previous : PointerArray Block)
    (previousAmount : Nat) (complete : subscribedGroups payload = some groups)
    (allowed : ∀ index < groups.length, groupGranted index = true) :
    octopipesCapParseSubscribe true groupGranted (.live (Block.ofBytes payload)) payload.length
        previous previousAmount =
      .ok ⟨.success, .live (groups.map groupText), groups.length⟩ := by
  rw [subscribedGroups] at complete
  split at complete
  · next header =>
      have length := splitGroups_length complete
      have parsed := parseGroups_complete groupGranted payload [] (byteAt payload 1).toNat 2 groups complete
        (by simpa [length] using allowed)
      rw [List.length_nil, List.nil_append, List.nil_append] at parsed
      rw [octopipesCapParseSubscribe, if_neg (by omega), Pointer.load_live,
        Block.load_ofBytes payload 0 (by omega), Exec.ok_bind, if_neg (not_not_intro header.2),
        Pointer.load_live, Block.load_ofBytes payload 1 (by omega), Exec.ok_bind]
      simp [parsed, length]
  · cases complete

/-- These two bytes start a subscription. -/
def SubscriptionHeader : Prop :=
  2 ≤ payload.length ∧ byteAt payload 0 = OctopipesCapMessage.subscription.code

/-- A payload without a header is rejected before the out-parameters are set. -/
theorem octopipesCapParseSubscribe_headless (previous : PointerArray Block) (previousAmount : Nat)
    (headless : ¬SubscriptionHeader payload) :
    octopipesCapParseSubscribe arrayGranted groupGranted (.live (Block.ofBytes payload)) payload.length
      previous previousAmount = .ok ⟨.badPacket, previous, previousAmount⟩ := by
  rw [octopipesCapParseSubscribe]
  by_cases long : payload.length < 2
  · rw [if_pos long]
    rfl
  · have object : byteAt payload 0 ≠ OctopipesCapMessage.subscription.code :=
      fun same => headless ⟨by omega, same⟩
    rw [if_neg long, Pointer.load_live, Block.load_ofBytes payload 0 (by omega), Exec.ok_bind, if_pos object]
    rfl

/-- A payload with a header reaches the allocation of its groups. -/
theorem octopipesCapParseSubscribe_header (previous : PointerArray Block) (previousAmount : Nat)
    (header : SubscriptionHeader payload) :
    octopipesCapParseSubscribe arrayGranted groupGranted (.live (Block.ofBytes payload)) payload.length
        previous previousAmount =
      if arrayGranted then
        parseGroups groupGranted (.live (Block.ofBytes payload)) payload.length 0 2
          (.live (List.replicate (byteAt payload 1).toNat .wild)) (byteAt payload 1).toNat >>= fun looped =>
        .ok ⟨looped.1, looped.2, (byteAt payload 1).toNat⟩
      else .ok ⟨.badAlloc, .null, (byteAt payload 1).toNat⟩ := by
  obtain ⟨long, object⟩ := header
  rw [octopipesCapParseSubscribe, if_neg (by omega), Pointer.load_live,
    Block.load_ofBytes payload 0 (by omega), Exec.ok_bind, if_neg (not_not_intro object), Pointer.load_live,
    Block.load_ofBytes payload 1 (by omega), Exec.ok_bind]
  cases arrayGranted with
  | false => rfl
  | true => rfl

/-- A parser that finds a header and returns has a complete subscription or leaves an undefined slot. -/
theorem octopipesCapParseSubscribe_returned {previous : PointerArray Block} {previousAmount : Nat}
    {parsed : ParsedSubscription} (header : SubscriptionHeader payload)
    (returned : octopipesCapParseSubscribe true groupGranted (.live (Block.ofBytes payload)) payload.length
      previous previousAmount = .ok parsed) :
    parsed.rc = .success ∧ ((∃ groups, subscribedGroups payload = some groups ∧
      ∀ index < groups.length, groupGranted index = true) ∨
    ∃ slots, parsed.groups = .live slots ∧ slots.length = parsed.groupsAmount ∧ .wild ∈ slots) := by
  rw [octopipesCapParseSubscribe_header payload true groupGranted previous previousAmount header,
    if_pos rfl] at returned
  obtain ⟨⟨rc, final⟩, looped, returned⟩ := Exec.bind_eq_ok.mp returned
  cases returned
  obtain ⟨success, ⟨groups, split, allowed⟩ | ⟨slots, same, size, undefined⟩⟩ :=
    parseGroups_returned groupGranted payload [] _ _ rc final looped
  · have complete : subscribedGroups payload = some groups := by
      rw [subscribedGroups, if_pos ⟨header.1, header.2⟩, split]
    refine ⟨success, Or.inl ⟨groups, complete, ?_⟩⟩
    rw [splitGroups_length split]
    simpa using allowed
  · exact ⟨success, Or.inr ⟨slots, same, by simpa using size, undefined⟩⟩

/-- A parser that returns success has a complete subscription or leaves an undefined slot. -/
theorem octopipesCapParseSubscribe_success (parsed : ParsedSubscription)
    (returned : octopipesCapParseSubscribe arrayGranted groupGranted (.live (Block.ofBytes payload))
      payload.length .null 0 = .ok parsed) (success : parsed.rc = .success) :
    (arrayGranted = true ∧ ∃ groups, subscribedGroups payload = some groups ∧
      ∀ index < groups.length, groupGranted index = true) ∨
    ∃ slots, parsed.groups = .live slots ∧ slots.length = parsed.groupsAmount ∧ .wild ∈ slots := by
  by_cases header : SubscriptionHeader payload
  · cases arrayGranted with
    | false =>
        rw [octopipesCapParseSubscribe_header payload false groupGranted .null 0 header] at returned
        cases returned
        cases success
    | true =>
        exact (octopipesCapParseSubscribe_returned payload groupGranted header returned).2.imp_left
          fun complete => ⟨rfl, complete⟩
  · rw [octopipesCapParseSubscribe_headless payload arrayGranted groupGranted .null 0 header] at returned
    cases returned
    cases success

end Parser

end Octopipes
