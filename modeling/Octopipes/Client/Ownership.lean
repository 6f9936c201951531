import Octopipes.Client.Loop
import Octopipes.Pipes.Ownership
import Octopipes.Serializer.Ownership

namespace Octopipes

open CMemory

section Traced

/-- A message that encodes takes the block of its bytes. -/
def heapEncode (granted : Bool) (message : OctopipesMessage) :
    HeapTrace (Except OctopipesError (Block × OctopipesMessage)) := do
  let encoded ← Traced.silent (octopipesEncode granted message)
  match encoded with
  | .error rc => pure (.error rc)
  | .ok written => do
      allocate
      pure (.ok written)

def heapSendNames (client : OctopipesClient) (remote : CString) : HeapTrace (Pointer Block × Pointer Block) := do
  let originSize := (UInt8.ofNat client.clientIdSize).toNat
  let remoteSize := (UInt8.ofNat remote.strlen).toNat
  allocate
  let origin ← Traced.silent ((Pointer.live client.clientId.block).copyText 0 originSize)
  allocate
  let name ← Traced.silent ((Pointer.live remote.block).loadBytes 0 remoteSize)
  let name ← Traced.silent ((Block.fresh (remoteSize + 1)).storeBytes 0 name)
  let origin ← Traced.silent origin.deref
  let origin ← Traced.silent (origin.store remoteSize 0)
  pure (.live origin, .live name)

/-- The encoded bytes are given back after the message. -/
def heapHandMessage (calls : SendCalls) (client : OctopipesClient) (message : OctopipesMessage) :
    HeapTrace (OctopipesError × Option Handed) := do
  let encoded ← heapEncode calls.encode message
  match encoded with
  | .error rc => do
      heapCleanupMessage (.live message)
      pure (rc, none)
  | .ok (outData, message) => do
      heapCleanupMessage (.live message)
      discard
      pure (calls.sent, some ⟨client.txPipe, outData⟩)

def heapFillPayload (calls : SendCalls) (client : OctopipesClient) (message : OctopipesMessage)
    (data : Pointer Block) : HeapTrace (OctopipesError × Option Handed) :=
  if !calls.data then do
    heapCleanupMessage (.live message)
    pure (.badAlloc, none)
  else do
    allocate
    let bytes ← Traced.silent (data.loadBytes 0 message.dataSize.toNat)
    let payload ← Traced.silent ((Block.fresh message.dataSize.toNat).storeBytes 0 bytes)
    heapHandMessage calls client { message with data := .live payload }

def heapSendEx (calls : SendCalls) (client : OctopipesClient) (remote : CString) (data : Pointer Block)
    (dataSize : UInt64) (ttl : UInt8) (options : OctopipesOptions) :
    HeapTrace (OctopipesError × Option Handed) :=
  if client.state ≠ .running ∧ client.state ≠ .subscribed then pure (.notSubscribed, none)
  else if !calls.message then pure (.badAlloc, none)
  else do
    allocate
    if !calls.origin then do
      heapCleanupMessage (.live (namedMessage client 0 .null .null))
      pure (.badAlloc, none)
    else if !calls.remote then do
      let originSize := (UInt8.ofNat client.clientIdSize).toNat
      allocate
      let origin ← Traced.silent ((Pointer.live client.clientId.block).copyText 0 originSize)
      heapCleanupMessage (.live (namedMessage client (UInt8.ofNat remote.strlen) origin .null))
      pure (.badAlloc, none)
    else do
      let (origin, name) ← heapSendNames client remote
      let named := namedMessage client (UInt8.ofNat remote.strlen) origin name
      heapFillPayload calls client { named with options, ttl, dataSize } data

def heapSendTo (calls : SendCalls) (client : OctopipesClient) (remote data : Pointer Block) (dataSize : UInt64)
    (ttl : UInt8) (options : OctopipesOptions) : HeapTrace (OctopipesError × Option Handed) :=
  if client.Active ∧ calls.message = true ∧ calls.origin = true then do
    let name ← Traced.silent (CString.readPointer remote)
    heapSendEx calls client name data dataSize ttl options
  else heapSendEx calls client .empty data dataSize ttl options

def heapAcknowledge (calls : SendCalls) (client : OctopipesClient) (message : OctopipesMessage) :
    HeapTrace (Option (OctopipesError × Option Handed)) :=
  if message.options &&& optionsRequireAck ≠ 0 then do
    let sent ← heapSendTo calls client message.origin .null 0 255 optionsAck
    pure (some sent)
  else pure none

/-- The receive hands over its buffer, which the iteration gives back. -/
def heapLoopOnce (calls : LoopCalls) (client : OctopipesClient) : HeapTrace LoopReport := do
  heapReceived calls.received
  let (rc, dataIn, dataInSize) := calls.received.data
  if rc = .success then do
    let (rc, message) ← heapDecode calls.decode dataIn dataInSize
    if rc = .success then do
      let fields ← Traced.silent message.deref
      let ack ← heapAcknowledge calls.ack client fields
      heapCleanupMessage message
      let _ ← release dataIn
      pure ⟨some fields, none, ack⟩
    else do
      let _ ← release dataIn
      pure ⟨none, some rc, none⟩
  else if rc = .noDataAvailable then pure ⟨none, none, none⟩
  else pure ⟨none, some rc, none⟩

end Traced

/-- A part of size zero is taken from the heap but not cleaned up. -/
def unsized (empty : Bool) : Int := if empty then 1 else 0

theorem unsized_nonneg (empty : Bool) : 0 ≤ unsized empty := by
  cases empty with
  | false => exact Int.le_refl 0
  | true => exact Int.zero_le_ofNat 1

theorem unsized_eq_zero (empty : Bool) : unsized empty = 0 ↔ empty = false := by
  cases empty with
  | false => decide
  | true => decide

/-- A live part is cleaned up exactly when it is not lost. -/
theorem sizedOwned_live (size : UInt8) {pointer : Pointer Block} (live : pointer.owned = 1) :
    sizedOwned (0 < size) pointer = 1 - unsized (size = 0) := by
  unfold sizedOwned unsized
  by_cases empty : size = 0
  · subst empty
    rfl
  · have positive : 0 < size := UInt8.pos_iff_ne_zero.mpr empty
    rw [if_pos (decide_eq_true positive), live, decide_eq_false empty]
    rfl

theorem sizedOwned_payload (size : UInt64) (block : Block) :
    sizedOwned (0 < size) (.live block) = 1 - unsized (size = 0) := by
  unfold sizedOwned unsized
  by_cases empty : size = 0
  · subst empty
    rfl
  · have positive : 0 < size := UInt64.pos_iff_ne_zero.mpr empty
    rw [if_pos (decide_eq_true positive), decide_eq_false empty]
    rfl

/-- A send loses each part that it takes with size zero. -/
def sendLost (calls : SendCalls) (client : OctopipesClient) (remote : CString) (dataSize : UInt64) : Int :=
  if client.Active ∧ calls.message = true ∧ calls.origin = true then
    unsized (UInt8.ofNat client.clientIdSize = 0) +
      if calls.remote then
        unsized (UInt8.ofNat remote.strlen = 0) + if calls.data then unsized (dataSize = 0) else 0
      else 0
  else 0

section Send

theorem heapEncode_retains (granted : Bool) (message : OctopipesMessage) :
    Retains (heapEncode granted message) (octopipesEncode granted message)
      fun encoded => match encoded with | .error _ => 0 | .ok _ => 1 := by
  have same : octopipesEncode granted message = octopipesEncode granted message >>= fun encoded =>
      match encoded with
      | .error rc => .ok (.error rc)
      | .ok written => .ok (.ok written) := by
    cases octopipesEncode granted message with
    | error fault => rfl
    | ok encoded =>
        cases encoded with
        | error rc => rfl
        | ok written => rfl
  rw [same]
  apply Retains.silent_bind
  intro encoded _
  cases encoded with
  | error rc => exact Retains.pure _ rfl
  | ok written =>
      apply allocate_retains.unit_bind
      exact Retains.pure _ rfl

/-- The written message has the parts of the message. -/
theorem octopipesEncode_cleaned {granted : Bool} {message written : OctopipesMessage} {block : Block}
    (encoded : octopipesEncode granted message = .ok (.ok (block, written))) :
    written.cleaned = message.cleaned := by
  unfold octopipesEncode at encoded
  split at encoded
  · split at encoded
    · cases encoded
    · obtain ⟨⟨cursor, position⟩, _, encoded⟩ := Exec.bind_eq_ok.mp encoded
      obtain ⟨checksum, _, encoded⟩ := Exec.bind_eq_ok.mp encoded
      obtain ⟨stored, _, encoded⟩ := Exec.bind_eq_ok.mp encoded
      cases encoded
      rfl
  · cases encoded

variable (calls : SendCalls) (client : OctopipesClient)

/-- The bytes that are handed to the pipe do not outlive the send. -/
theorem heapHandMessage_retains (message : OctopipesMessage) :
    Retains (heapHandMessage calls client message) (handMessage calls client message)
      fun _ => -message.cleaned := by
  unfold heapHandMessage handMessage
  apply (heapEncode_retains calls.encode message).bind
  intro encoded returned
  cases encoded with
  | error rc =>
      apply (heapCleanupMessage_live message).bind
      intro _ _
      apply Retains.pure
      dsimp only
      omega
  | ok written =>
      obtain ⟨outData, written⟩ := written
      have same := octopipesEncode_cleaned returned
      apply (heapCleanupMessage_live written).bind
      intro _ _
      apply discard_retains.unit_bind
      apply Retains.pure
      dsimp only
      omega

theorem heapFillPayload_retains (message : OctopipesMessage) (data : Pointer Block)
    (empty : message.data = .null) :
    Retains (heapFillPayload calls client message data) (fillPayload calls client message data)
      fun _ => -message.cleaned + if calls.data then unsized (message.dataSize = 0) else 0 := by
  unfold heapFillPayload fillPayload
  cases calls.data with
  | false =>
      apply (heapCleanupMessage_live message).bind
      intro _ _
      apply Retains.pure
      change -message.cleaned + 0 - -message.cleaned = 0
      omega
  | true =>
      apply allocate_retains.unit_bind
      apply Retains.silent_bind
      intro bytes _
      apply Retains.silent_bind
      intro payload _
      apply (heapHandMessage_retains calls client { message with data := .live payload }).congr
      intro _ _
      have none : sizedOwned (0 < message.dataSize) .null = 0 := ite_self 0
      have part := sizedOwned_payload message.dataSize payload
      dsimp only [OctopipesMessage.cleaned]
      rw [part, empty, none, if_pos rfl]
      omega

/-- Both names are taken before the payload. -/
theorem heapSendNames_retains (remote : CString) :
    Retains (heapSendNames client remote) (sendNames client remote) fun _ => 2 := by
  unfold heapSendNames sendNames
  apply allocate_retains.unit_bind
  apply Retains.silent_bind
  intro origin _
  apply allocate_retains.unit_bind
  apply Retains.silent_bind
  intro bytes _
  apply Retains.silent_bind
  intro name _
  apply Retains.silent_bind
  intro block _
  apply Retains.silent_bind
  intro stored _
  exact Retains.pure _ rfl

theorem sendNames_owned {remote : CString} {names : Pointer Block × Pointer Block}
    (built : sendNames client remote = .ok names) : names.1.owned = 1 ∧ names.2.owned = 1 := by
  obtain ⟨_, _, built⟩ := Exec.bind_eq_ok.mp built
  obtain ⟨_, _, built⟩ := Exec.bind_eq_ok.mp built
  obtain ⟨_, _, built⟩ := Exec.bind_eq_ok.mp built
  obtain ⟨_, _, built⟩ := Exec.bind_eq_ok.mp built
  obtain ⟨_, _, built⟩ := Exec.bind_eq_ok.mp built
  cases built
  exact ⟨rfl, rfl⟩

variable (remote : CString) (data : Pointer Block) (dataSize : UInt64) (ttl : UInt8) (options : OctopipesOptions)

/-- A send keeps no block but the parts of size zero. -/
theorem heapSendEx_retains :
    Retains (heapSendEx calls client remote data dataSize ttl options)
      (octopipesSendEx calls client remote data dataSize ttl options)
      fun _ => sendLost calls client remote dataSize := by
  have none (positive : Bool) : sizedOwned positive .null = 0 := ite_self 0
  unfold heapSendEx octopipesSendEx sendLost
  by_cases active : client.Active
  · rw [if_neg active.sends, if_neg active.sends]
    cases message : calls.message with
    | false => exact Retains.pure _ (if_neg fun both => Bool.false_ne_true both.2.1)
    | true =>
        simp only [Bool.not_true, Bool.false_eq_true, ↓reduceIte]
        apply allocate_retains.unit_bind
        cases origin : calls.origin with
        | false =>
            simp only [Bool.not_false, ↓reduceIte, Bool.false_eq_true, and_false]
            apply (heapCleanupMessage_live _).bind
            intro _ _
            apply Retains.pure
            dsimp only [OctopipesMessage.cleaned, namedMessage]
            rw [none, none, none]
            rfl
        | true =>
            simp only [Bool.not_true, Bool.false_eq_true, ↓reduceIte, active, and_self]
            cases granted : calls.remote with
            | false =>
                simp only [Bool.not_false, ↓reduceIte, Bool.false_eq_true]
                apply allocate_retains.unit_bind
                apply Retains.silent_bind
                intro copied copy
                apply (heapCleanupMessage_live _).bind
                intro _ _
                apply Retains.pure
                have part := sizedOwned_live (UInt8.ofNat client.clientIdSize) (copyText_owned copy)
                dsimp only [OctopipesMessage.cleaned, namedMessage]
                rw [part, none, none]
                omega
            | true =>
                simp only [Bool.not_true, Bool.false_eq_true, ↓reduceIte]
                apply (heapSendNames_retains client remote).bind
                rintro ⟨copied, name⟩ built
                obtain ⟨copiedLive, nameLive⟩ := sendNames_owned client built
                apply (heapFillPayload_retains calls client _ data rfl).congr
                intro _ _
                have first := sizedOwned_live (UInt8.ofNat client.clientIdSize) copiedLive
                have second := sizedOwned_live (UInt8.ofNat remote.strlen) nameLive
                dsimp only [OctopipesMessage.cleaned, namedMessage] at first second ⊢
                rw [first, second, none]
                omega
  · have refused : client.state ≠ .running ∧ client.state ≠ .subscribed :=
      ⟨fun running => active (Or.inr running), fun subscribed => active (Or.inl subscribed)⟩
    rw [if_pos refused, if_pos refused]
    exact Retains.pure _ (if_neg fun both => active both.1)

theorem sendLost_nonneg : 0 ≤ sendLost calls client remote dataSize := by
  have first := unsized_nonneg (UInt8.ofNat client.clientIdSize = 0)
  have second := unsized_nonneg (UInt8.ofNat remote.strlen = 0)
  have third := unsized_nonneg (dataSize = 0)
  unfold sendLost
  split
  · split
    · split
      · omega
      · omega
    · omega
  · exact Int.le_refl 0

/-- A byte of a length is zero for every multiple of 256. -/
theorem unsized_length (length : Nat) : unsized (UInt8.ofNat length = 0) = 0 ↔ length % 256 ≠ 0 := by
  rw [unsized_eq_zero, decide_eq_false_iff_not, ← UInt8.toNat_inj, UInt8.toNat_ofNat']
  exact Iff.rfl

/-- A send keeps no block exactly when each part that it takes has a size other than zero. -/
theorem octopipesSendEx_balanced :
    Retains (heapSendEx calls client remote data dataSize ttl options)
      (octopipesSendEx calls client remote data dataSize ttl options)
      (fun _ => sendLost calls client remote dataSize) ∧
    (sendLost calls client remote dataSize = 0 ↔
      (client.Active ∧ calls.message = true ∧ calls.origin = true → client.clientIdSize % 256 ≠ 0 ∧
        (calls.remote = true → remote.strlen % 256 ≠ 0 ∧ (calls.data = true → dataSize ≠ 0)))) := by
  refine ⟨heapSendEx_retains calls client remote data dataSize ttl options, ?_⟩
  have first := unsized_nonneg (UInt8.ofNat client.clientIdSize = 0)
  have second := unsized_nonneg (UInt8.ofNat remote.strlen = 0)
  have third := unsized_nonneg (dataSize = 0)
  have payload : unsized (dataSize = 0) = 0 ↔ dataSize ≠ 0 := by
    rw [unsized_eq_zero, decide_eq_false_iff_not]
  rw [← unsized_length, ← unsized_length, ← payload]
  unfold sendLost
  split
  · next taken =>
      rw [forall_prop_of_true taken]
      cases calls.remote with
      | false =>
          rw [if_neg Bool.false_ne_true]
          exact ⟨fun none => ⟨by omega, fun impossible => (nomatch impossible)⟩, fun none => by omega⟩
      | true =>
          rw [if_pos rfl, forall_prop_of_true rfl]
          cases calls.data with
          | false =>
              rw [if_neg Bool.false_ne_true]
              exact ⟨fun none => ⟨by omega, by omega, fun impossible => (nomatch impossible)⟩, fun none => by omega⟩
          | true =>
              rw [if_pos rfl, forall_prop_of_true rfl]
              exact ⟨fun none => ⟨by omega, by omega, by omega⟩, fun none => by omega⟩
  · next untaken => exact ⟨fun _ taken => absurd taken untaken, fun _ => rfl⟩

end Send

/-- An acknowledgement loses its empty payload and its names of size zero. -/
def ackLost (calls : SendCalls) (client : OctopipesClient) (message : OctopipesMessage) : Int :=
  if message.options &&& optionsRequireAck ≠ 0 then
    match CString.readPointer message.origin with
    | .ok name => sendLost calls client name 0
    | .error _ => 0
  else 0

/-- The iteration decodes this message. -/
def LoopCalls.message (calls : LoopCalls) : Option OctopipesMessage :=
  let (rc, dataIn, dataInSize) := calls.received.data
  if rc = .success then
    match octopipesDecode calls.decode dataIn dataInSize with
    | .ok (_, .live message) => some message
    | .ok (_, .null) => none
    | .ok (_, .wild) => none
    | .error _ => none
  else none

/-- An iteration loses what its receive and its acknowledgement lose. -/
def iterationLost (calls : LoopCalls) (client : OctopipesClient) : Int :=
  calls.received.lost + (calls.message.map (ackLost calls.ack client)).getD 0

section Loop

variable (client : OctopipesClient)

theorem heapAcknowledge_retains (calls : SendCalls) (message : OctopipesMessage) :
    Retains (heapAcknowledge calls client message) (acknowledge calls client message)
      fun _ => ackLost calls client message := by
  unfold heapAcknowledge acknowledge ackLost
  split
  · have sends : Retains (heapSendTo calls client message.origin .null 0 255 optionsAck)
        (sendTo calls client message.origin .null 0 255 optionsAck) fun _ =>
          match CString.readPointer message.origin with
          | .ok name => sendLost calls client name 0
          | .error _ => 0 := by
      unfold heapSendTo sendTo
      split
      · apply Retains.silent_bind
        intro name read
        rw [read]
        exact heapSendEx_retains calls client name .null 0 255 optionsAck
      · next refused =>
          apply (heapSendEx_retains calls client .empty .null 0 255 optionsAck).congr
          intro _ _
          have free (name : CString) : sendLost calls client name 0 = 0 := if_neg refused
          rw [free]
          cases CString.readPointer message.origin with
          | error fault => rfl
          | ok name => exact (free name).symm
    apply sends.bind
    intro _ _
    exact Retains.pure _ (Int.sub_self _)
  · exact Retains.pure _ rfl

theorem ackLost_nonneg (calls : SendCalls) (message : OctopipesMessage) : 0 ≤ ackLost calls client message := by
  unfold ackLost
  split
  · split
    · exact sendLost_nonneg calls client _ 0
    · exact Int.le_refl 0
  · exact Int.le_refl 0

theorem iterationLost_nonneg (calls : LoopCalls) : 0 ≤ iterationLost calls client := by
  unfold iterationLost
  apply Int.add_nonneg calls.received.lost_nonneg
  cases calls.message with
  | none => exact Int.le_refl 0
  | some message => exact ackLost_nonneg client calls.ack message

/-- An iteration keeps no block but the ones that its receive and its acknowledgement lose. -/
theorem heapLoopOnce_retains (calls : LoopCalls) :
    Retains (heapLoopOnce calls client) (octopipesLoopOnce calls client)
      fun _ => iterationLost calls client := by
  unfold heapLoopOnce octopipesLoopOnce iterationLost LoopCalls.message
  apply (heapReceived_retains calls.received).unit_bind
  dsimp only
  split
  · next received =>
      apply (heapDecode_retains calls.decode _ _).bind
      rintro ⟨rc, message⟩ decoded
      have ends := octopipesDecode_ends decoded
      have given (error : OctopipesError) : Retains
          (release calls.received.data.2.1 >>= fun _ => pure (⟨none, some error, none⟩ : LoopReport))
          (calls.received.data.2.1.free >>= fun _ => pure ⟨none, some error, none⟩)
          fun _ => calls.received.lost + 0 - (calls.received.data.2.1.owned + calls.received.lost) - 0 := by
        apply (release_retains calls.received.data.2.1).bind
        intro _ _
        apply Retains.pure
        omega
      rw [decoded]
      cases ends with
      | decoded message sized =>
          rw [if_pos rfl, if_pos rfl]
          apply Retains.silent_bind
          rintro fields read
          cases read
          apply (heapAcknowledge_retains client calls.ack message).bind
          intro ack _
          apply (heapCleanupMessage_decoded (.decoded message sized)).bind
          intro _ _
          apply (release_retains calls.received.data.2.1).bind
          intro _ _
          apply Retains.pure
          change calls.received.lost + ackLost calls.ack client message -
            (calls.received.data.2.1.owned + calls.received.lost) - message.blocks -
            ackLost calls.ack client message - -message.blocks - -calls.received.data.2.1.owned = 0
          omega
      | refused error failed =>
          rw [if_neg failed, if_neg failed]
          exact given _
      | released error failed =>
          rw [if_neg failed, if_neg failed]
          exact given _
  · next failed =>
      obtain ⟨none, kept⟩ := calls.received.failed_blocks failed
      have free : calls.received.lost + 0 - (calls.received.data.2.1.owned + calls.received.lost) = 0 := by
        omega
      split
      · exact Retains.pure _ free
      · exact Retains.pure _ free

end Loop

section Rounds

/-- The loop of a running client makes one iteration after another. -/
def loopRounds (client : OctopipesClient) : List LoopCalls → Exec (List LoopReport)
  | [] => pure []
  | calls :: rest => do
      let report ← octopipesLoopOnce calls client
      let reports ← loopRounds client rest
      pure (report :: reports)

def heapRounds (client : OctopipesClient) : List LoopCalls → HeapTrace (List LoopReport)
  | [] => pure []
  | calls :: rest => do
      let report ← heapLoopOnce calls client
      let reports ← heapRounds client rest
      pure (report :: reports)

/-- The iteration has answered a message. -/
def LoopReport.acknowledged (report : LoopReport) : Bool := report.ack.isSome

def acknowledgements (reports : List LoopReport) : Int := reports.countP LoopReport.acknowledged

/-- These are the buffers that the receives of the rounds lose at their reads without memory. -/
def lostBuffers (rounds : List LoopCalls) : Int := (rounds.map fun calls => calls.received.lost).sum

variable (client : OctopipesClient)

/-- The rounds lose what their iterations lose. -/
theorem heapRounds_retains (rounds : List LoopCalls) :
    Retains (heapRounds client rounds) (loopRounds client rounds)
      fun _ => (rounds.map fun calls => iterationLost calls client).sum := by
  induction rounds with
  | nil => exact Retains.pure _ rfl
  | cons calls rest ih =>
      apply (heapLoopOnce_retains client calls).bind
      intro report _
      apply ih.bind
      intro reports _
      apply Retains.pure
      rw [List.map_cons, List.sum_cons]
      omega

/-- With all of its memory an acknowledgement loses its payload and at most two names. -/
theorem sendLost_empty {calls : SendCalls} (active : client.Active) (granted : calls.granted = true)
    (remote : CString) : 1 ≤ sendLost calls client remote 0 ∧ sendLost calls client remote 0 ≤ 3 := by
  have names := SendCalls.namesGranted granted
  have data : calls.data = true := by
    simp only [SendCalls.granted, Bool.and_eq_true] at granted
    exact granted.1.2
  have bound (empty : Bool) : unsized empty ≤ 1 := by
    cases empty with
    | false => exact Int.zero_le_ofNat 1
    | true => exact Int.le_refl 1
  have first := unsized_nonneg (UInt8.ofNat client.clientIdSize = 0)
  have second := unsized_nonneg (UInt8.ofNat remote.strlen = 0)
  have firstBound := bound (UInt8.ofNat client.clientIdSize = 0)
  have secondBound := bound (UInt8.ofNat remote.strlen = 0)
  have payload : unsized (decide ((0 : UInt64) = 0)) = 1 := rfl
  rw [sendLost, if_pos ⟨active, names.message, names.origin⟩, if_pos names.remote, if_pos data, payload]
  omega

/-- An acknowledgement is sent exactly for a message that asks for it. -/
theorem ackLost_bounds {calls : SendCalls} {message : OctopipesMessage}
    {ack : Option (OctopipesError × Option Handed)} (active : client.Active) (granted : calls.granted = true)
    (returned : acknowledge calls client message = .ok ack) :
    if ack.isSome then 1 ≤ ackLost calls client message ∧ ackLost calls client message ≤ 3
    else ackLost calls client message = 0 := by
  have names := SendCalls.namesGranted granted
  unfold acknowledge at returned
  unfold ackLost
  split at returned
  · next asked =>
      obtain ⟨sent, sends, returned⟩ := Exec.bind_eq_ok.mp returned
      cases returned
      rw [sendTo, if_pos ⟨active, names.message, names.origin⟩] at sends
      obtain ⟨name, read, _⟩ := Exec.bind_eq_ok.mp sends
      rw [if_pos asked, read, if_pos Option.isSome_some]
      exact sendLost_empty client active granted name
  · next unasked =>
      cases returned
      exact if_neg unasked

/-- Besides its lost buffer an iteration loses at least one block for an acknowledgement and none without it. -/
theorem iterationLost_bounds {calls : LoopCalls} {report : LoopReport} (active : client.Active)
    (granted : calls.ack.granted = true) (returned : octopipesLoopOnce calls client = .ok report) :
    if report.acknowledged then calls.received.lost + 1 ≤ iterationLost calls client ∧
      iterationLost calls client ≤ calls.received.lost + 3
    else iterationLost calls client = calls.received.lost := by
  unfold octopipesLoopOnce at returned
  unfold iterationLost LoopCalls.message
  dsimp only at returned ⊢
  split at returned
  · next received =>
      rw [if_pos received]
      obtain ⟨⟨rc, message⟩, decoded, returned⟩ := Exec.bind_eq_ok.mp returned
      rw [decoded]
      cases octopipesDecode_ends decoded with
      | decoded message sized =>
          rw [if_pos rfl] at returned
          obtain ⟨fields, read, returned⟩ := Exec.bind_eq_ok.mp returned
          obtain ⟨ack, answered, returned⟩ := Exec.bind_eq_ok.mp returned
          obtain ⟨_, _, returned⟩ := Exec.bind_eq_ok.mp returned
          obtain ⟨_, _, returned⟩ := Exec.bind_eq_ok.mp returned
          cases read
          cases returned
          have bounds := ackLost_bounds client active granted answered
          change if ack.isSome then calls.received.lost + 1 ≤ calls.received.lost + ackLost calls.ack client message ∧
            calls.received.lost + ackLost calls.ack client message ≤ calls.received.lost + 3
            else calls.received.lost + ackLost calls.ack client message = calls.received.lost
          split at bounds
          · next answers =>
              rw [if_pos answers]
              omega
          · next silent =>
              rw [if_neg silent]
              omega
      | refused _ failed =>
          rw [if_neg failed] at returned
          obtain ⟨_, _, returned⟩ := Exec.bind_eq_ok.mp returned
          cases returned
          exact Int.add_zero _
      | released _ failed =>
          rw [if_neg failed] at returned
          obtain ⟨_, _, returned⟩ := Exec.bind_eq_ok.mp returned
          cases returned
          exact Int.add_zero _
  · next refused =>
      rw [if_neg refused]
      split at returned
      · cases returned
        exact Int.add_zero _
      · cases returned
        exact Int.add_zero _

/-- A loop with the memory for its answers leaves one to three blocks for each and what its receives lose. -/
theorem loopRounds_leaks (running : client.state = .running) (rounds : List LoopCalls)
    (granted : ∀ calls ∈ rounds, calls.ack.granted = true) {reports : List LoopReport}
    (returned : loopRounds client rounds = .ok reports) :
    acknowledgements reports + lostBuffers rounds ≤ (heapRounds client rounds).left ∧
      (heapRounds client rounds).left ≤ 3 * acknowledgements reports + lostBuffers rounds := by
  rw [(heapRounds_retains client rounds).left reports returned]
  induction rounds generalizing reports with
  | nil =>
      cases returned
      exact ⟨Int.le_refl 0, Int.le_refl 0⟩
  | cons calls rest ih =>
      obtain ⟨report, now, returned⟩ := Exec.bind_eq_ok.mp returned
      obtain ⟨later, continued, returned⟩ := Exec.bind_eq_ok.mp returned
      cases returned
      have first := iterationLost_bounds client (Or.inr running) (granted calls List.mem_cons_self) now
      have others := ih (fun other member => granted other (List.mem_cons_of_mem calls member)) continued
      unfold acknowledgements lostBuffers at others ⊢
      rw [List.map_cons, List.map_cons, List.sum_cons, List.sum_cons, List.countP_cons]
      cases acknowledged : report.acknowledged with
      | false =>
          rw [acknowledged, if_neg Bool.false_ne_true] at first
          rw [if_neg Bool.false_ne_true]
          omega
      | true =>
          rw [acknowledged, if_pos rfl] at first
          rw [if_pos rfl]
          omega

/-- This client runs with a name of two bytes. -/
def answeringClient : OctopipesClient := ⟨.running, ⟨[0x61, 0x62], by decide⟩, .version1, .null, .null⟩

/-- This message asks for an acknowledgement. -/
def askingFrame : Frame := .ofShort [0x62] [0x61] 60 5 [0x2A] (by decide)

/-- The message is received and every memory call succeeds. -/
def askedRound : LoopCalls where
  received := .bytes (askingFrame.bytes askingFrame.wireChecksum)
  decode := .granted
  ack := ⟨true, true, true, true, true, .success⟩

/-- The receive of this round loses its buffer at a read without memory. -/
def starvedRound : LoopCalls := { askedRound with received := .dropped 2 true }

/-- Two acknowledgements and a lost buffer leave three blocks. -/
theorem loopRounds_leaks_asked : 3 ≤ (heapRounds answeringClient [askedRound, starvedRound, askedRound]).left := by
  have returned : ∃ reports, loopRounds answeringClient [askedRound, starvedRound, askedRound] = .ok reports ∧
      acknowledgements reports + lostBuffers [askedRound, starvedRound, askedRound] = 3 := ⟨_, rfl, rfl⟩
  obtain ⟨reports, returned, answers⟩ := returned
  have memory : ∀ calls ∈ [askedRound, starvedRound, askedRound], calls.ack.granted = true := by
    intro calls member
    rcases (by simpa using member : calls = askedRound ∨ calls = starvedRound ∨ calls = askedRound) with
      rfl | rfl | rfl
    · rfl
    · rfl
    · rfl
  exact answers ▸
    (loopRounds_leaks answeringClient rfl [askedRound, starvedRound, askedRound] memory returned).1

end Rounds

end Octopipes
