import Octopipes.Client.Failures
import Octopipes.Wrapper.Client

namespace Octopipespp

open CMemory PointerArray Octopipes Wire

/-- The wrapper returns what the C subscription obtained and shows every refusal. -/
def ReportsOutcome (calls : SubscribeCalls) (client : OctopipesClient) (groups : List CString) : Prop :=
  ∃ outcome result, (Client.subscribe calls client groups).result = .ok outcome ∧
    octopipesSubscribe calls client groups = .ok result ∧
    outcome.client = result.client ∧ outcome.error = translateOctopipesError result.rc ∧
    ∀ payload, replyPayload client calls = some payload → Refused payload →
      outcome.assignmentError = translateCapError (byteAt payload 1).toUInt32

/-- The reply reaches the parser with the header of an assignment and without an error. -/
def ReplyAssigns (calls : SubscribeCalls) (client : OctopipesClient) : Prop :=
  (client.Active → client.PipesIntact) ∧
    ∃ payload, replyPayload client calls = some payload ∧ AssignmentHeader payload ∧ byteAt payload 1 = 0

section Report

variable (result : SubscribeResult)

/-- A failure without a CAP error makes the wrapper read an unset variable. -/
theorem reportOutcome_unset (failed : result.rc ≠ .success) (unset : result.assignmentError = none) :
    reportOutcome result = .error .uninitialized := by
  rw [reportOutcome, if_pos failed, unset]
  rfl

/-- A success hides every CAP error. -/
theorem reportOutcome_success (success : result.rc = .success) :
    reportOutcome result = .ok ⟨result.client, .success, .success⟩ :=
  if_neg (not_not_intro success)

/-- A CAP error without a refusal is reported with the code of the call. -/
theorem reportOutcome_granted (granted : result.assignmentError = some capErrorSuccess) :
    reportOutcome result = .ok ⟨result.client, translateOctopipesError result.rc, .success⟩ := by
  by_cases success : result.rc = .success
  · rw [reportOutcome_success result success, success]
    rfl
  · rw [reportOutcome, if_pos success, granted]
    rfl

end Report

section Groups

variable (calls : SubscribeCalls) (client : OctopipesClient) (groups : List CString)

/-- The call on an array with an undefined second slot fails before it prepares its payload. -/
theorem octopipesSubscribeArray_second (array : PointerArray Block) (count : Nat)
    (second : array.slot 1 = .ok .wild) :
    octopipesSubscribeArray calls client array (count + 2) = .ok ⟨client, .badAlloc, none, none, none⟩ ∨
      ∃ fault, octopipesSubscribeArray calls client array (count + 2) = .error fault := by
  obtain ⟨fault, faulty⟩ := readGroups_second array count second
  unfold octopipesSubscribeArray subscribeWith sendSubscription encodeRequest octopipesCapPrepareSubscriptionArray
  rw [faulty]
  cases calls.mallocs.message with
  | false => exact Or.inl rfl
  | true =>
      cases calls.mallocs.origin with
      | false =>
          have cleaned : octopipesCleanupMessage (.live (requestMessage client .null .null 0)) = .ok () :=
            cleanup_live _ (by simp [requestMessage]) (by simp [requestMessage]) (by simp [requestMessage])
          left
          simp [cleaned]
      | true =>
          have copied := client.clientId.copyText_block client.clientIdSize (Nat.le_refl _)
          right
          exact ⟨fault, by simp [copied]⟩

/-- The wrapper never returns from a list of two or more groups. -/
theorem subscribe_several (several : 1 < groups.length) :
    ∃ fault, (Client.subscribe calls client groups).result = .error fault := by
  obtain ⟨slots, filled, second⟩ := fillSlots_second storedGroup groups several
  obtain ⟨count, amount⟩ : ∃ count, groups.length = count + 2 := ⟨groups.length - 2, by omega⟩
  rw [subscribe_result calls client groups slots filled, amount]
  rcases octopipesSubscribeArray_second calls client (.live slots) count second with refused | ⟨fault, faulty⟩
  · rw [refused, Exec.ok_bind]
    exact ⟨.uninitialized, reportOutcome_unset _ OctopipesError.noConfusion rfl⟩
  · exact ⟨fault, by rw [faulty, Exec.error_bind]⟩

/-- A list of at most one group reaches the C subscription. -/
theorem subscribe_few (few : groups.length ≤ 1) :
    (Client.subscribe calls client groups).result =
      octopipesSubscribe calls client groups >>= reportOutcome := by
  obtain ⟨slots, filled, lists⟩ := fillSlots_lists_iff storedGroup groups
  rw [subscribe_result calls client groups slots filled,
    octopipesSubscribeArray_lists calls client groups (.live slots) (lists.mpr few)]

end Groups

section Reply

variable (calls : SubscribeCalls) (client : OctopipesClient) (groups : RequestGroups)

/-- A reported outcome comes from an assignment without an error. -/
theorem replyAssigns_of_reports (few : groups.val.length ≤ 1)
    (reports : ReportsOutcome calls client groups.val) : ReplyAssigns calls client := by
  obtain ⟨outcome, result, returned, subscribed, _, _, shows⟩ := reports
  rw [subscribe_few calls client groups.val few, subscribed, Exec.ok_bind] at returned
  rcases octopipesSubscribe_cases calls client groups.val groups.property with
    ⟨_, faulty⟩ | ⟨_, _, rc, request, failed, error⟩ | ⟨_, input, request, parses, names, taken⟩
  · cases faulty.symm.trans subscribed
  · cases error.symm.trans subscribed
    rw [reportOutcome_unset _ failed rfl] at returned
    cases returned
  · rw [taken] at subscribed
    cases released : freePipes client with
    | error fault =>
        rw [takeAssignment_dangling calls client input request fault released] at subscribed
        cases subscribed
    | ok freed =>
        obtain ⟨parsed, parse, refusal, failure⟩ := octopipesCapParseAssign_returns (frame input).data
          calls.txGranted calls.rxGranted freed.txPipe freed.rxPipe
        have error := octopipesCapParseAssign_error _ _ _ _ _ parse
        rw [takeAssignment_eq calls client input request names freed released parsed parse] at subscribed
        cases subscribed
        refine ⟨fun active => ?_, _, parses, ?_⟩
        · by_contra dangling
          obtain ⟨fault, faulty⟩ := freePipes_dangling client active dangling
          cases faulty.symm.trans released
        by_cases header : AssignmentHeader (frame input).data
        · refine ⟨header, ?_⟩
          by_contra code
          rw [reportOutcome_success _ (refusal ⟨header, code⟩)] at returned
          cases returned
          have hidden := (translateCapError_eq_success _).mp (shows _ parses ⟨header, code⟩).symm
          exact code ((capError_eq_success _).mp hidden)
        · rw [if_neg header] at error
          rw [reportOutcome_unset _ (failure header) error] at returned
          cases returned

/-- An assignment without an error is reported with the code of its parser. -/
theorem reports_of_replyAssigns (few : groups.val.length ≤ 1) (assigns : ReplyAssigns calls client) :
    ReportsOutcome calls client groups.val := by
  obtain ⟨intact, payload, parses, header, code⟩ := assigns
  obtain ⟨freed, released⟩ : ∃ freed, freePipes client = .ok freed := by
    by_cases active : client.Active
    · obtain ⟨freed, released, _⟩ := freePipes_intact client (intact active)
      exact ⟨freed, released⟩
    · exact ⟨client, freePipes_inactive client active⟩
  obtain ⟨parsed, parse, _⟩ := octopipesCapParseAssign_returns payload calls.txGranted calls.rxGranted
    freed.txPipe freed.rxPipe
  have error := octopipesCapParseAssign_error _ _ _ _ _ parse
  rw [if_pos header, (capError_eq_success _).mpr code] at error
  obtain ⟨request, subscribed⟩ := octopipesSubscribe_taken calls client groups.val groups.property freed
    released payload parses parsed parse
  refine ⟨⟨_, translateOctopipesError parsed.rc, .success⟩, _, ?_, subscribed, rfl, rfl,
    fun other again refused => ?_⟩
  · rw [subscribe_few calls client groups.val few, subscribed, Exec.ok_bind]
    exact reportOutcome_granted _ error
  · obtain rfl := Option.some.inj (parses.symm.trans again)
    exact absurd code refused.2

end Reply

/-- The wrapper reports the outcome exactly for a short list and an assignment without an error. -/
theorem subscribe_reportsOutcome_iff (calls : SubscribeCalls) (client : OctopipesClient)
    (groups : RequestGroups) :
    ReportsOutcome calls client groups.val ↔ groups.val.length ≤ 1 ∧ ReplyAssigns calls client := by
  constructor
  · intro reports
    have few : groups.val.length ≤ 1 := by
      by_contra several
      obtain ⟨fault, faulty⟩ := subscribe_several calls client groups.val (Nat.lt_of_not_le several)
      obtain ⟨outcome, _, returned, _⟩ := reports
      cases faulty.symm.trans returned
    exact ⟨few, replyAssigns_of_reports calls client groups few reports⟩
  · rintro ⟨few, assigns⟩
    exact reports_of_replyAssigns calls client groups few assigns

/-- A refusal of the name is reported as a success. -/
theorem not_subscribe_reportsOutcome_taken :
    let client : OctopipesClient := ⟨.init, ⟨[0x63], by decide⟩, .version1, .null, .null⟩
    let reply : Frame := .ofShort [] [0x63] 60 0 [0xFF, 1, 0, 0] (by decide)
    ¬ReportsOutcome (.granted (.bytes (reply.bytes reply.wireChecksum))) client [] := by
  intro client reply reports
  have parses := replyPayload_granted client reply (by decide) (by decide) (by decide)
  obtain ⟨_, payload, again, _, code⟩ := replyAssigns_of_reports _ client ⟨[], by decide⟩ (by decide) reports
  obtain rfl := Option.some.inj (parses.symm.trans again)
  revert code
  decide

end Octopipespp
