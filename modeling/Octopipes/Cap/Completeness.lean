import Octopipes.Cap.Subscription

namespace Octopipes

open CMemory PointerArray

/-- Each group stands behind its length byte. -/
def groupsBytes (groups : List (List UInt8)) : List UInt8 :=
  groups.flatMap fun group => UInt8.ofNat group.length :: group

/-- This payload declares the groups and carries each of them before further bytes. -/
structure CarriesGroups (payload : List UInt8) (groups : List (List UInt8)) : Prop where
  few : groups.length < 256
  short : ∀ group ∈ groups, group.length < 256
  bytes : ∃ rest, payload =
    [OctopipesCapMessage.subscription.code, UInt8.ofNat groups.length] ++ groupsBytes groups ++ rest

/-- This subscription ends before its last declared group. -/
def TruncatedSubscription (payload : List UInt8) : Prop :=
  SubscriptionHeader payload ∧ ¬∃ groups, CarriesGroups payload groups

/-- The parser accepts only complete groups, rejects a cut payload and releases no undefined slot. -/
def ParsesComplete (arrayGranted : Bool) (groupGranted : Nat → Bool) (payload : List UInt8) : Prop :=
  ∃ parsed, octopipesCapParseSubscribe arrayGranted groupGranted (.live (Block.ofBytes payload))
      payload.length .null 0 = .ok parsed ∧
    (parsed.rc = .success → ∃ groups, parsed.groups = .live (groups.map groupText) ∧
      parsed.groupsAmount = groups.length ∧ CarriesGroups payload groups) ∧
    (TruncatedSubscription payload → arrayGranted = true → (∀ index, groupGranted index = true) →
      parsed.rc = .badPacket)

/-- The parser meets a header only with memory for all the groups that it declares and carries. -/
def ParsesWhole (arrayGranted : Bool) (groupGranted : Nat → Bool) (payload : List UInt8) : Prop :=
  ¬SubscriptionHeader payload ∨ arrayGranted = false ∨
    ∃ groups, CarriesGroups payload groups ∧ ∀ index < groups.length, groupGranted index = true

section Split

/-- The split groups are the bytes that they were split from. -/
theorem splitGroups_bytes {count : Nat} {bytes : List UInt8} {groups : List (List UInt8)}
    (split : splitGroups count bytes = some groups) :
    (∀ group ∈ groups, group.length < 256) ∧ ∃ rest, bytes = groupsBytes groups ++ rest := by
  induction count generalizing bytes groups with
  | zero =>
      cases split
      exact ⟨by simp, bytes, rfl⟩
  | succ count ih =>
      cases bytes with
      | nil => cases split
      | cons size rest =>
          rw [splitGroups] at split
          split at split
          · next fits =>
              obtain ⟨tail, tailSplit, rfl⟩ := Option.map_eq_some_iff.mp split
              obtain ⟨short, further, same⟩ := ih tailSplit
              have length : (rest.take size.toNat).length = size.toNat := List.length_take_of_le fits
              refine ⟨List.forall_mem_cons.mpr ⟨?_, short⟩, further, ?_⟩
              · rw [length]
                exact size.toNat_lt
              · rw [groupsBytes, List.flatMap_cons, length, UInt8.ofNat_toNat, List.append_assoc,
                  ← groupsBytes, ← same, List.cons_append, List.take_append_drop]
          · cases split

/-- The bytes of short groups split into these groups. -/
theorem splitGroups_groupsBytes (groups : List (List UInt8)) (rest : List UInt8)
    (short : ∀ group ∈ groups, group.length < 256) :
    splitGroups groups.length (groupsBytes groups ++ rest) = some groups := by
  induction groups with
  | nil => rfl
  | cons group tail ih =>
      have size : (UInt8.ofNat group.length).toNat = group.length := by
        rw [UInt8.toNat_ofNat', Nat.mod_eq_of_lt (short group List.mem_cons_self)]
      have others := ih fun other member => short other (List.mem_cons_of_mem group member)
      rw [groupsBytes, List.flatMap_cons, List.length_cons, List.cons_append, List.cons_append, splitGroups,
        size, if_pos (by rw [List.append_assoc, List.length_append]; omega), List.append_assoc,
        List.drop_left, List.take_left, ← groupsBytes, others]
      rfl

end Split

section Payload

variable (payload : List UInt8)

/-- A payload is complete exactly when it carries its declared groups. -/
theorem subscribedGroups_eq_some (groups : List (List UInt8)) :
    subscribedGroups payload = some groups ↔ CarriesGroups payload groups := by
  constructor
  · intro complete
    rw [subscribedGroups] at complete
    split at complete
    · next header =>
        obtain ⟨long, object⟩ := header
        obtain ⟨short, rest, bytes⟩ := splitGroups_bytes complete
        have count := splitGroups_length complete
        refine ⟨by rw [count]; exact (byteAt payload 1).toNat_lt, short, rest, ?_⟩
        obtain ⟨first, second, tail, rfl⟩ : ∃ first second tail, payload = first :: second :: tail := by
          cases payload with
          | nil => cases long
          | cons first tail =>
              cases tail with
              | nil => simp at long
              | cons second tail => exact ⟨first, second, tail, rfl⟩
        change first = _ at object
        change tail = _ at bytes
        change groups.length = second.toNat at count
        rw [object, count, UInt8.ofNat_toNat, bytes]
        rfl
    · cases complete
  · rintro ⟨few, short, rest, rfl⟩
    have count : (UInt8.ofNat groups.length).toNat = groups.length := by
      rw [UInt8.toNat_ofNat', Nat.mod_eq_of_lt few]
    rw [subscribedGroups, if_pos ⟨by simp, rfl⟩]
    change splitGroups (UInt8.ofNat groups.length).toNat (groupsBytes groups ++ rest) = _
    rw [count, splitGroups_groupsBytes groups rest short]

/-- A complete payload has a header. -/
theorem CarriesGroups.header {groups : List (List UInt8)} (carries : CarriesGroups payload groups) :
    SubscriptionHeader payload := by
  obtain ⟨_, _, rest, rfl⟩ := carries
  exact ⟨by simp, rfl⟩

end Payload

/-- A parsed subscription is complete exactly when its memory and its groups are there. -/
theorem octopipesCapParseSubscribe_complete_iff (arrayGranted : Bool) (groupGranted : Nat → Bool)
    (payload : List UInt8) :
    ParsesComplete arrayGranted groupGranted payload ↔ ParsesWhole arrayGranted groupGranted payload := by
  by_cases header : SubscriptionHeader payload
  swap
  · refine iff_of_true ?_ (Or.inl header)
    exact ⟨_, octopipesCapParseSubscribe_headless payload arrayGranted groupGranted .null 0 header,
      (fun success => nomatch success), fun _ _ _ => rfl⟩
  cases arrayGranted with
  | false =>
      refine iff_of_true ?_ (Or.inr (Or.inl rfl))
      refine ⟨_, octopipesCapParseSubscribe_header payload false groupGranted .null 0 header,
        (fun success => nomatch success), fun _ granted => nomatch granted⟩
  | true =>
      constructor
      · rintro ⟨parsed, returned, accepted, _⟩
        obtain ⟨success, complete | ⟨slots, same, _, undefined⟩⟩ :=
          octopipesCapParseSubscribe_returned payload groupGranted header returned
        · obtain ⟨groups, split, allowed⟩ := complete
          exact Or.inr (Or.inr ⟨groups, (subscribedGroups_eq_some payload groups).mp split, allowed⟩)
        · obtain ⟨groups, texts, _, _⟩ := accepted success
          rw [texts] at same
          cases same
          obtain ⟨group, _, wild⟩ := List.mem_map.mp undefined
          cases wild
      · rintro (headless | refused | ⟨groups, carries, allowed⟩)
        · exact absurd header headless
        · cases refused
        · exact ⟨_, octopipesCapParseSubscribe_complete payload groupGranted groups .null 0
            ((subscribedGroups_eq_some payload groups).mpr carries) allowed,
            fun _ => ⟨groups, rfl, rfl, carries⟩, fun truncated => absurd ⟨groups, carries⟩ truncated.2⟩

/-- A subscription that declares one group and carries none is accepted. -/
theorem not_parsesComplete_missing : ¬ParsesComplete true (fun _ => true) [1, 1] := by
  rintro ⟨parsed, returned, accepted, _⟩
  cases returned
  obtain ⟨groups, texts, _, _⟩ := accepted rfl
  cases groups with
  | nil => cases texts
  | cons group rest => cases texts

end Octopipes
