import Octopipes.Pipes.Receive
import Octopipes.Pipes.Send
import Octopipes.Transition.Along

namespace Octopipes

open CMemory Transition

/-- This poll of a receiver reads nothing. -/
abbrev SilentPoll := { outcome : PollOutcome // ∀ chunk granted, outcome ≠ .read chunk granted }

/-- The kernel keeps the bytes of one FIFO while a call or one of the other holders has it open. -/
structure Channel where
  fifo : List UInt8
  holders : Nat
  sending : Option (SentData × SendState)
  receiving : Option ReceiveState
  unopened : List SentData
  sent : List (SentData × OctopipesError)
  received : List PipeData

/-- The sender and the receiver start calls and poll the FIFO, and others open it for reading and close it. -/
inductive ChannelEvent where
  | send (data : SentData)
  | sendPoll (outcome : SendOutcome)
  | receive
  | readPoll (count : Nat) (granted : Bool)
  | silentPoll (outcome : SilentPoll)
  | hold
  | letGo

/-- A read takes no more than its buffer holds and the FIFO has. -/
def readChunk (fifo : List UInt8) (count : Nat) : ReadChunk :=
  ⟨fifo.take (min count 2048), Nat.le_trans (List.length_take_le _ _) (Nat.min_le_right _ _)⟩

/-- A write puts these bytes into the FIFO. -/
def SendOutcome.puts (data : SentData) (state : SendState) : SendOutcome → List UInt8
  | .written count => (data.val.drop state.totalBytesWritten).take count
  | .refused => []
  | .otherEvent => []
  | .timedOut => []
  | .pollFailed => []

/-- A write without a reader is refused. -/
def SendOutcome.unread : SendOutcome → SendOutcome
  | .written _ => .refused
  | .refused => .refused
  | .otherEvent => .otherEvent
  | .timedOut => .timedOut
  | .pollFailed => .pollFailed

namespace Channel

/-- A pending receive and the other holders read the FIFO. -/
def HasReader (channel : Channel) : Prop := channel.receiving.isSome ∨ 0 < channel.holders

/-- Some descriptor of the FIFO is open. -/
def Held (channel : Channel) : Prop := channel.HasReader ∨ channel.sending.isSome

instance (channel : Channel) : Decidable channel.HasReader := inferInstanceAs (Decidable (_ ∨ _))

instance (channel : Channel) : Decidable channel.Held := inferInstanceAs (Decidable (_ ∨ _))

/-- The bytes of a FIFO are gone with its last descriptor. -/
def closeLast (channel : Channel) : Channel := if channel.Held then channel else { channel with fifo := [] }

/-- The kernel decides what a poll of the sender can be. -/
def meets (channel : Channel) (outcome : SendOutcome) : SendOutcome :=
  if channel.HasReader then outcome else outcome.unread

end Channel

section Step

variable (fd : Int) (timeout : Nat) (channel : Channel)

/-- A send that has reached or passed its size returns its code. -/
def Channel.settleSend (data : SentData) (state : SendState) : Channel :=
  match (finishSend data fd state).rc with
  | none => { channel with sending := some (data, state) }
  | some rc => { channel with sending := none, sent := channel.sent ++ [(data, rc)] }

/-- A receive that stops or has waited too long returns its result. -/
def Channel.settleReceive (state : ReceiveState) (goesOn : Bool) : Exec Channel :=
  if goesOn = true ∧ state.timeElapsed < timeout then pure { channel with receiving := some state }
  else do
    let result ← finishReceive state
    pure { channel with receiving := none, received := channel.received ++ [result] }

/-- A poll of the receiver is one iteration of its loop. -/
def Channel.pollReceive (outcome : PollOutcome) : Exec Channel :=
  match channel.receiving with
  | none => pure channel
  | some state => do
      let (state, goesOn) ← receiveStep state outcome
      channel.settleReceive timeout state goesOn

/-- A send fails to open a FIFO without a reader. -/
def channelCall : ChannelEvent → Exec Channel
  | .send data =>
      if channel.sending.isSome then pure channel
      else if ¬channel.HasReader then pure { channel with unopened := channel.unopened ++ [data] }
      else pure (channel.settleSend fd data ⟨0, .noDataAvailable, []⟩)
  | .sendPoll outcome =>
      match channel.sending with
      | none => pure channel
      | some (data, state) => pure
          (({ channel with fifo := channel.fifo ++ (channel.meets outcome).puts data state }).settleSend fd data
            (sendBody data fd state (channel.meets outcome)))
  | .receive =>
      if channel.receiving.isSome then pure channel
      else channel.settleReceive timeout ⟨.null, 0, 0, .noDataAvailable⟩ true
  | .readPoll count granted =>
      if channel.receiving.isNone then pure channel
      else
        let chunk := readChunk channel.fifo count
        ({ channel with fifo := channel.fifo.drop chunk.val.length }).pollReceive timeout (.read chunk granted)
  | .silentPoll outcome => channel.pollReceive timeout outcome.val
  | .hold => pure { channel with holders := channel.holders + 1 }
  | .letGo => pure { channel with holders := channel.holders - 1 }

/-- The descriptors of a call that has returned are closed. -/
def channelStep (event : ChannelEvent) : Exec Channel := do
  let next ← channelCall fd timeout channel event
  pure next.closeLast

end Step

/-- These bytes are defined in memory. -/
def heldBytes : Pointer Block → List UInt8
  | .live block => block.defined.getD []
  | .null => []
  | .wild => []

/-- Only a successful call gives its bytes. -/
def PipeData.bytes (result : PipeData) : List UInt8 :=
  if result.1 = .success then heldBytes result.2.1 else []

namespace Channel

def empty : Channel := ⟨[], 0, none, none, [], [], []⟩

/-- The sender has put these bytes of its data into the FIFO. -/
def written (channel : Channel) : List UInt8 :=
  match channel.sending with
  | none => []
  | some (data, state) => data.val.take state.totalBytesWritten

/-- The receiver holds these bytes before it returns. -/
def partially (channel : Channel) : List UInt8 :=
  match channel.receiving with
  | none => []
  | some state => heldBytes state.data

/-- These are the bytes of all returned receives, of the pending one and of the FIFO. -/
def taken (channel : Channel) : List UInt8 :=
  channel.received.flatMap PipeData.bytes ++ channel.partially ++ channel.fifo

/-- These are the data of all sends that have opened the FIFO and returned, and the written part of the pending one. -/
def given (channel : Channel) : List UInt8 := (channel.sent.flatMap fun call => call.1.val) ++ channel.written

def Conserves (channel : Channel) : Prop := channel.taken = channel.given

/-- A pending send has bytes left, and a pending receive holds the bytes that it has read. -/
structure Sound (channel : Channel) : Prop where
  sending : ∀ data state, channel.sending = some (data, state) → state.totalBytesWritten < data.val.length
  receiving : ∀ state, channel.receiving = some state → state.Holds (heldBytes state.data)

/-- No write is refused, and no allocation that fails loses bytes. -/
def Keeps (channel : Channel) : ChannelEvent → Prop
  | .sendPoll outcome => channel.sending = none ∨ channel.meets outcome ≠ .refused
  | .readPoll count false => channel.receiving = none ∨
      channel.partially = [] ∧ (readChunk channel.fifo count).val = []
  | _ => True

/-- No byte is left in the FIFO when its last descriptor is closed. -/
def ClosesEmpty (fd : Int) (timeout : Nat) (channel : Channel) (event : ChannelEvent) : Prop :=
  ∀ next, channelCall fd timeout channel event = .ok next → next.Held ∨ next.fifo = []

end Channel

section Send

variable {fd : Int} {channel : Channel}

theorem heldBytes_ofBytes (bytes : List UInt8) : heldBytes (.live (Block.ofBytes bytes)) = bytes := by
  rw [heldBytes, Block.defined_ofBytes]
  rfl

variable (fd channel) in
/-- A send either goes on with bytes left or has returned. -/
theorem settleSend_cases (data : SentData) (state : SendState) :
    state.totalBytesWritten < data.val.length ∧
        channel.settleSend fd data state = { channel with sending := some (data, state) } ∨
      data.val.length ≤ state.totalBytesWritten ∧
        ∃ rc, channel.settleSend fd data state =
          { channel with sending := none, sent := channel.sent ++ [(data, rc)] } := by
  unfold Channel.settleSend finishSend
  by_cases left : state.totalBytesWritten < data.val.length
  · rw [if_pos left]
    exact Or.inl ⟨left, rfl⟩
  · rw [if_neg left]
    refine Or.inr ⟨Nat.le_of_not_lt left, ?_⟩
    by_cases whole : state.totalBytesWritten = data.val.length
    · rw [if_pos whole]
      exact ⟨_, rfl⟩
    · rw [if_neg whole]
      exact ⟨_, rfl⟩

/-- A settled send is sound. -/
theorem settleSend_sound (sound : channel.Sound) (data : SentData) (state : SendState) :
    (channel.settleSend fd data state).Sound := by
  rcases settleSend_cases fd channel data state with ⟨left, same⟩ | ⟨_, rc, same⟩
  · rw [same]
    refine ⟨fun other again pending => ?_, sound.receiving⟩
    cases pending
    exact left
  · rw [same]
    exact ⟨fun _ _ pending => (nomatch pending), sound.receiving⟩

/-- The part that a settled send has written is the part that its counter says. -/
theorem settleSend_conserves (data : SentData) (state : SendState) :
    (channel.settleSend fd data state).Conserves ↔
      channel.taken = (channel.sent.flatMap fun call => call.1.val) ++ data.val.take state.totalBytesWritten := by
  rcases settleSend_cases fd channel data state with ⟨_, same⟩ | ⟨done, rc, same⟩
  · rw [same]
    rfl
  · rw [same, List.take_of_length_le done]
    unfold Channel.Conserves Channel.given
    rw [List.flatMap_append, List.flatMap_singleton]
    change _ = _ ++ [] ↔ _
    rw [List.append_nil]
    rfl

variable {data : SentData} {state : SendState}

/-- A write puts the bytes behind the written part into the FIFO. -/
theorem take_written (data : SentData) {total : Nat} (inside : total < data.val.length) (count : Nat) :
    data.val.take ((total + ((data.val.drop total).take count).length) % 2 ^ 64) =
      data.val.take total ++ (data.val.drop total).take count := by
  have small := data.property
  have fits : ((data.val.drop total).take count).length ≤ data.val.length - total := by
    rw [List.length_take, List.length_drop]
    exact Nat.min_le_right _ _
  have part := List.prefix_iff_eq_take.mp (List.take_prefix count (data.val.drop total))
  rw [Nat.mod_eq_of_lt (by omega), List.take_add, ← part]

/-- A refused write moves the counter away from its place. -/
theorem length_refused (data : SentData) {total : Nat} (inside : total < data.val.length) :
    (data.val.take ((total + (2 ^ 64 - 1)) % 2 ^ 64)).length ≠ (data.val.take total).length := by
  have small := data.property
  rw [List.length_take, List.length_take]
  by_cases zero : total = 0
  · subst zero
    rw [Nat.zero_add, Nat.mod_eq_of_lt (by omega)]
    omega
  · have back : (total + (2 ^ 64 - 1)) % 2 ^ 64 = total - 1 := by omega
    rw [back]
    omega

/-- The bytes that are taken besides the written part of the pending send are those of the sends before it. -/
theorem pending_balance (conserves : channel.Conserves) (pending : channel.sending = some (data, state)) :
    channel.taken = (channel.sent.flatMap fun call => call.1.val) ++ data.val.take state.totalBytesWritten := by
  have same := conserves
  unfold Channel.Conserves Channel.given Channel.written at same
  rwa [pending] at same

/-- A poll of the sender keeps the bytes exactly when its write is not refused. -/
theorem sendPoll_conserves (sound : channel.Sound) (conserves : channel.Conserves)
    (pending : channel.sending = some (data, state)) (outcome : SendOutcome) :
    (({ channel with fifo := channel.fifo ++ outcome.puts data state }).settleSend fd data
        (sendBody data fd state outcome)).Conserves ↔ outcome ≠ .refused := by
  have inside := sound.sending data state pending
  have balance := pending_balance conserves pending
  rw [settleSend_conserves]
  have grown (bytes : List UInt8) : Channel.taken { channel with fifo := channel.fifo ++ bytes } =
      (channel.sent.flatMap fun call => call.1.val) ++ (data.val.take state.totalBytesWritten ++ bytes) := by
    rw [← List.append_assoc, ← balance]
    exact (List.append_assoc _ _ _).symm
  have kept := (grown []).trans (congrArg _ (List.append_nil _))
  cases outcome with
  | written count =>
      refine iff_of_true ?_ nofun
      rw [sendBody, take_written data inside count]
      exact grown _
  | refused =>
      refine iff_of_false (fun same => ?_) (not_not_intro rfl)
      have equal := List.append_cancel_left (kept.symm.trans same)
      exact length_refused data inside (congrArg List.length equal).symm
  | otherEvent => exact iff_of_true kept nofun
  | timedOut => exact iff_of_true kept nofun
  | pollFailed => exact iff_of_true kept nofun

/-- A close brings no lost byte back. -/
theorem closeLast_short (short : channel.taken.length < channel.given.length) : ¬channel.closeLast.Conserves := by
  unfold Channel.closeLast
  split
  · intro conserves
    exact Nat.ne_of_lt short (congrArg List.length conserves)
  · intro conserves
    have lengths : (Channel.taken { channel with fifo := [] }).length = channel.given.length :=
      congrArg List.length conserves
    unfold Channel.taken at short lengths
    rw [List.append_nil] at lengths
    rw [List.length_append, ← lengths] at short
    exact absurd short (Nat.not_lt.mpr (Nat.le_add_right _ _))

theorem closeLast_sound (sound : channel.Sound) : channel.closeLast.Sound := by
  unfold Channel.closeLast
  split
  · exact sound
  · exact ⟨sound.sending, sound.receiving⟩

/-- A close keeps the bytes exactly when it finds none or is not the last one. -/
theorem closeLast_conserves (conserves : channel.Conserves) :
    channel.closeLast.Conserves ↔ channel.Held ∨ channel.fifo = [] := by
  unfold Channel.closeLast
  split
  · next held => exact iff_of_true conserves (Or.inl held)
  · next unheld =>
    have closed : Channel.taken { channel with fifo := [] } ++ channel.fifo = channel.given := by
      rw [← conserves]
      exact congrArg (· ++ channel.fifo) (List.append_nil _)
    rw [Channel.Conserves, or_iff_right unheld]
    change Channel.taken { channel with fifo := [] } = channel.given ↔ _
    rw [← closed, List.self_eq_append_right]

/-- A refused write is not made good by a close. -/
theorem sendPoll_closes (sound : channel.Sound) (conserves : channel.Conserves)
    (pending : channel.sending = some (data, state)) :
    ¬(({ channel with fifo := channel.fifo ++ [] }).settleSend fd data
      (sendBody data fd state .refused)).closeLast.Conserves := by
  have inside := sound.sending data state pending
  have balance := congrArg List.length (pending_balance conserves pending)
  have broken : ¬(({ channel with fifo := channel.fifo ++ [] }).settleSend fd data
      (sendBody data fd state .refused)).Conserves :=
    (sendPoll_conserves sound conserves pending .refused).not.mpr (not_not_intro rfl)
  rcases settleSend_cases fd { channel with fifo := channel.fifo ++ [] } data (sendBody data fd state .refused) with
    ⟨_, same⟩ | ⟨_, rc, same⟩
  · have held : Channel.Held (({ channel with fifo := channel.fifo ++ [] }).settleSend fd data
        (sendBody data fd state .refused)) := by
      rw [same]
      exact Or.inr rfl
    rwa [Channel.closeLast, if_pos held]
  · rw [same]
    apply closeLast_short
    have whole : Channel.taken { channel with
        fifo := channel.fifo ++ [], sending := none, sent := channel.sent ++ [(data, rc)] } = channel.taken :=
      congrArg (_ ++ ·) (List.append_nil _)
    have all : Channel.given { channel with
        fifo := channel.fifo ++ [], sending := none, sent := channel.sent ++ [(data, rc)] } =
          (channel.sent.flatMap fun call => call.1.val) ++ data.val := by
      change (channel.sent ++ [(data, rc)]).flatMap _ ++ [] = _
      rw [List.append_nil, List.flatMap_append, List.flatMap_singleton]
    rw [List.length_append, List.length_take_of_le (Nat.le_of_lt inside)] at balance
    calc
      _ = channel.taken.length := congrArg List.length whole
      _ < ((channel.sent.flatMap fun call => call.1.val) ++ data.val).length := by
        rw [List.length_append]
        omega
      _ = _ := (congrArg List.length all).symm

end Send

section Receive

variable {timeout : Nat} {channel : Channel} {state : ReceiveState} {bytes : List UInt8}

theorem heldBytes_holds (held : state.Holds bytes) : heldBytes state.data = bytes := by
  rcases held.data with live | ⟨null, rfl⟩
  · rw [live, heldBytes_ofBytes]
  · rw [null, heldBytes]

/-- A stopped loop returns the bytes that it holds. -/
theorem finishReceive_held (held : state.Holds bytes) :
    ∃ result, finishReceive state = .ok result ∧ PipeData.bytes result = bytes := by
  by_cases empty : bytes = []
  · subst empty
    have failed (data : Pointer Block) (size : Nat) : PipeData.bytes (state.rc, data, size) = [] := if_neg held.rc
    have size : ¬0 < state.dataSize := by
      rw [held.dataSize]
      exact Nat.not_lt_zero 0
    unfold finishReceive
    rw [if_neg size]
    rcases held.data with live | ⟨null, _⟩
    · refine ⟨_, ?_, failed .null 0⟩
      rw [live]
      simp [held.rc]
    · refine ⟨_, ?_, failed state.data state.dataSize⟩
      rw [null]
      simp
  · refine ⟨_, finishReceive_bytes state bytes held empty, ?_⟩
    change (if OctopipesError.success = .success then heldBytes (.live (Block.ofBytes bytes)) else []) = bytes
    rw [if_pos rfl, heldBytes_ofBytes]

/-- A receive without its buffer returns no bytes. -/
theorem finishReceive_lost (null : state.data = .null) :
    ∃ result, finishReceive state = .ok result ∧ PipeData.bytes result = [] := by
  have none (rc : OctopipesError) (size : Nat) : PipeData.bytes (rc, .null, size) = [] := by
    unfold PipeData.bytes
    split
    · rfl
    · rfl
  unfold finishReceive
  rw [null]
  split
  · exact ⟨_, rfl, none _ _⟩
  · exact ⟨_, if_neg (by simp), none _ _⟩

/-- The channel after a poll of the receiver has the same sender and these received bytes. -/
structure Channel.Takes (channel next : Channel) (bytes : List UInt8) : Prop where
  fifo : next.fifo = channel.fifo
  sending : next.sending = channel.sending
  sent : next.sent = channel.sent
  holds : ∀ state, next.receiving = some state → state.Holds (heldBytes state.data)
  bytes : next.received.flatMap PipeData.bytes ++ next.partially = channel.received.flatMap PipeData.bytes ++ bytes

variable (timeout channel) in
/-- A receive that holds its bytes keeps them or returns them. -/
theorem settleReceive_held (held : state.Holds bytes) (goesOn : Bool) :
    ∃ next, channel.settleReceive timeout state goesOn = .ok next ∧ channel.Takes next bytes := by
  unfold Channel.settleReceive
  split
  · refine ⟨_, rfl, rfl, rfl, rfl, ?_, ?_⟩
    · rintro other pending
      cases pending
      rwa [heldBytes_holds held]
    · exact congrArg _ (heldBytes_holds held)
  · obtain ⟨result, finished, same⟩ := finishReceive_held held
    rw [finished]
    refine ⟨_, rfl, rfl, rfl, rfl, (fun _ pending => nomatch pending), ?_⟩
    change (channel.received ++ [result]).flatMap PipeData.bytes ++ [] = _
    rw [List.append_nil, List.flatMap_append, List.flatMap_singleton, same]

/-- A poll that reads nothing keeps the held bytes. -/
theorem receiveStep_silent (held : state.Holds bytes) (outcome : SilentPoll) :
    ∃ next goesOn, receiveStep state outcome.val = .ok (next, goesOn) ∧ next.Holds bytes := by
  obtain ⟨outcome, silent⟩ := outcome
  have waited := keepWaiting_holds state bytes held
  have failed : ({ state with rc := .readFailed } : ReceiveState).Holds bytes :=
    ⟨held.data, held.dataSize, by simp⟩
  cases outcome with
  | read chunk granted => exact absurd rfl (silent chunk granted)
  | readAgain => exact ⟨_, _, rfl, waited⟩
  | readFailed => exact ⟨_, _, rfl, failed⟩
  | errorEvent => exact ⟨_, _, rfl, failed⟩
  | hangUp => exact ⟨_, _, rfl, waited⟩
  | otherEvent => exact ⟨_, _, rfl, held⟩
  | timedOut => exact ⟨_, _, rfl, waited⟩
  | pollAgain => exact ⟨_, _, rfl, waited⟩
  | pollFailed => exact ⟨_, _, rfl, failed⟩

variable (timeout) in
/-- A poll that reads nothing keeps the received bytes. -/
theorem pollReceive_silent (sound : channel.Sound) (outcome : SilentPoll) :
    ∃ next, channel.pollReceive timeout outcome.val = .ok next ∧ channel.Takes next channel.partially := by
  unfold Channel.pollReceive Channel.partially
  cases pending : channel.receiving with
  | none => exact ⟨channel, rfl, rfl, rfl, rfl, sound.receiving, by rw [Channel.partially, pending]⟩
  | some state =>
      have held := sound.receiving state pending
      obtain ⟨next, goesOn, stepped, kept⟩ := receiveStep_silent held outcome
      dsimp only
      rw [stepped]
      exact settleReceive_held timeout channel kept goesOn

variable (timeout) in
/-- A granted read adds its chunk to the received bytes. -/
theorem pollReceive_read (sound : channel.Sound) (pending : channel.receiving ≠ none) (chunk : ReadChunk) :
    ∃ next, channel.pollReceive timeout (.read chunk true) = .ok next ∧
      channel.Takes next (channel.partially ++ chunk.val) := by
  unfold Channel.pollReceive Channel.partially
  cases receiving : channel.receiving with
  | none => exact absurd receiving pending
  | some state =>
      obtain ⟨next, stepped, _, kept, _⟩ := receiveStep_read state _ (sound.receiving state receiving) chunk
      dsimp only
      rw [stepped]
      exact settleReceive_held timeout channel kept true

variable (timeout) in
/-- A read without memory loses the received bytes. -/
theorem pollReceive_refused (sound : channel.Sound) (pending : channel.receiving ≠ none) (chunk : ReadChunk) :
    ∃ next, channel.pollReceive timeout (.read chunk false) = .ok next ∧ channel.Takes next [] := by
  unfold Channel.pollReceive
  cases receiving : channel.receiving with
  | none => exact absurd receiving pending
  | some state =>
      have refused : state.data.reallocBytes false (state.dataSize + chunk.val.length) = .ok .null := by
        rcases (sound.receiving state receiving).data with live | ⟨null, _⟩
        · rw [live]
          rfl
        · rw [null]
          rfl
      let lost : ReceiveState := ⟨.null, state.dataSize + chunk.val.length, state.timeElapsed, .badAlloc⟩
      have stepped : receiveStep state (.read chunk false) = .ok (lost, false) := by
        rw [receiveStep, refused]
        rfl
      obtain ⟨result, finished, none⟩ := finishReceive_lost (rfl : lost.data = .null)
      dsimp only
      rw [stepped]
      have settled : channel.settleReceive timeout lost false =
          .ok { channel with receiving := Option.none, received := channel.received ++ [result] } := by
        unfold Channel.settleReceive
        rw [if_neg (by simp), finished]
        rfl
      refine ⟨_, settled, rfl, rfl, rfl, ?_, ?_⟩
      · intro state pending
        cases pending
      · change (channel.received ++ [result]).flatMap PipeData.bytes ++ [] = _
        rw [List.append_nil, List.append_nil, List.flatMap_append, List.flatMap_singleton, none, List.append_nil]

/-- A taken poll keeps the bytes exactly when it has taken them. -/
theorem Channel.Takes.conserves_iff {next : Channel} {chunk rest : List UInt8} (conserves : channel.Conserves)
    (split : channel.fifo = chunk ++ rest) (takes : Channel.Takes { channel with fifo := rest } next bytes) :
    next.Conserves ↔ bytes = channel.partially ++ chunk := by
  have written : next.written = channel.written := by
    unfold Channel.written
    rw [takes.sending]
  have grouped : channel.received.flatMap PipeData.bytes ++ channel.partially ++ (chunk ++ rest) =
      channel.received.flatMap PipeData.bytes ++ (channel.partially ++ chunk) ++ rest := by
    simp only [List.append_assoc]
  unfold Channel.Conserves Channel.taken Channel.given at conserves ⊢
  rw [takes.bytes, takes.fifo, takes.sent, written, ← conserves, split, grouped]
  exact (List.append_left_inj rest).trans (List.append_right_inj _)

/-- Bytes that a receive has lost are not made good by a close. -/
theorem Channel.Takes.closes {next : Channel} {chunk rest : List UInt8} (conserves : channel.Conserves)
    (split : channel.fifo = chunk ++ rest) (takes : Channel.Takes { channel with fifo := rest } next [])
    (lost : channel.partially ++ chunk ≠ []) : ¬next.closeLast.Conserves := by
  have given : next.given = channel.given := by
    unfold Channel.given Channel.written
    rw [takes.sent, takes.sending]
  have some := List.length_pos_of_ne_nil lost
  apply closeLast_short
  rw [given, ← conserves, Channel.taken, Channel.taken, takes.bytes, takes.fifo, split]
  simp only [List.length_append, List.length_nil] at some ⊢
  omega

theorem Channel.Takes.sound {next : Channel} {rest : List UInt8} (sound : channel.Sound)
    (takes : Channel.Takes { channel with fifo := rest } next bytes) : next.Sound :=
  ⟨fun data state pending => sound.sending data state (takes.sending.symm.trans pending), takes.holds⟩

end Receive

section Run

variable (fd : Int) (timeout : Nat)

/-- A call returns a sound channel that keeps the bytes exactly under its condition, and a close makes nothing good. -/
def CallKeeps (channel : Channel) (event : ChannelEvent) (next : Channel) : Prop :=
  next.Sound ∧ (channel.Keeps event ∧ next.Conserves ∨ ¬channel.Keeps event ∧ ¬next.closeLast.Conserves)

/-- A new send waits for its first poll, or it does not open the FIFO. -/
theorem channelCall_send {channel : Channel} (sound : channel.Sound) (conserves : channel.Conserves)
    (data : SentData) :
    ∃ next, channelCall fd timeout channel (.send data) = .ok next ∧ CallKeeps channel (.send data) next := by
  unfold channelCall
  dsimp only
  split
  · exact ⟨channel, rfl, sound, Or.inl ⟨trivial, conserves⟩⟩
  next idle =>
    split
    · exact ⟨_, rfl, ⟨sound.sending, sound.receiving⟩, Or.inl ⟨trivial, conserves⟩⟩
    refine ⟨_, rfl, settleSend_sound sound _ _, Or.inl ⟨trivial, ?_⟩⟩
    have none : channel.written = [] := by
      unfold Channel.written
      rw [Option.not_isSome_iff_eq_none.mp idle]
    rw [settleSend_conserves]
    unfold Channel.Conserves Channel.given at conserves
    rwa [none] at conserves

/-- A poll of the pending send puts its bytes into the FIFO unless the write is refused. -/
theorem channelCall_sendPoll {channel : Channel} (sound : channel.Sound) (conserves : channel.Conserves)
    (outcome : SendOutcome) :
    ∃ next, channelCall fd timeout channel (.sendPoll outcome) = .ok next ∧
      CallKeeps channel (.sendPoll outcome) next := by
  unfold channelCall
  dsimp only
  split
  · next idle => exact ⟨channel, rfl, sound, Or.inl ⟨Or.inl idle, conserves⟩⟩
  · next data state pending =>
    have put : Channel.Sound { channel with fifo := channel.fifo ++ (channel.meets outcome).puts data state } :=
      ⟨sound.sending, sound.receiving⟩
    refine ⟨_, rfl, settleSend_sound put _ _, ?_⟩
    by_cases refused : channel.meets outcome = .refused
    · have busy : channel.sending ≠ none := by simp [pending]
      refine Or.inr ⟨not_or.mpr ⟨busy, not_not_intro refused⟩, ?_⟩
      rw [refused]
      exact sendPoll_closes sound conserves pending
    · exact Or.inl ⟨Or.inr refused, (sendPoll_conserves sound conserves pending _).mpr refused⟩

/-- A new receive has taken no byte. -/
theorem channelCall_receive {channel : Channel} (sound : channel.Sound) (conserves : channel.Conserves) :
    ∃ next, channelCall fd timeout channel .receive = .ok next ∧ CallKeeps channel .receive next := by
  unfold channelCall
  dsimp only
  split
  · exact ⟨channel, rfl, sound, Or.inl ⟨trivial, conserves⟩⟩
  next idle =>
    have fresh : (⟨.null, 0, 0, .noDataAvailable⟩ : ReceiveState).Holds [] := ⟨Or.inr ⟨rfl, rfl⟩, rfl, by decide⟩
    obtain ⟨next, settled, takes⟩ := settleReceive_held timeout channel fresh true
    have none : channel.partially = [] := by
      unfold Channel.partially
      rw [Option.not_isSome_iff_eq_none.mp idle]
    refine ⟨next, settled, takes.sound sound, Or.inl ⟨trivial, ?_⟩⟩
    exact (takes.conserves_iff conserves (List.nil_append _).symm).mpr (by rw [none]; rfl)

/-- A read moves the next bytes to the pending receive and loses them only without memory. -/
theorem channelCall_readPoll {channel : Channel} (sound : channel.Sound) (conserves : channel.Conserves)
    (count : Nat) (granted : Bool) :
    ∃ next, channelCall fd timeout channel (.readPoll count granted) = .ok next ∧
      CallKeeps channel (.readPoll count granted) next := by
  unfold channelCall
  dsimp only
  split
  · next idle =>
    refine ⟨channel, rfl, sound, Or.inl ⟨?_, conserves⟩⟩
    cases granted with
    | true => trivial
    | false => exact Or.inl (Option.isNone_iff_eq_none.mp idle)
  next busy =>
    have pending : channel.receiving ≠ none := fun none => busy (Option.isNone_iff_eq_none.mpr none)
    let chunk := readChunk channel.fifo count
    let rest := channel.fifo.drop chunk.val.length
    have taken : chunk.val = channel.fifo.take chunk.val.length :=
      List.prefix_iff_eq_take.mp (List.take_prefix (min count 2048) channel.fifo)
    have split : channel.fifo = chunk.val ++ rest :=
      (List.take_append_drop chunk.val.length channel.fifo).symm.trans (congrArg (· ++ rest) taken.symm)
    have left : Channel.Sound { channel with fifo := rest } := ⟨sound.sending, sound.receiving⟩
    cases granted with
    | true =>
        obtain ⟨next, polled, takes⟩ := pollReceive_read timeout left pending chunk
        exact ⟨next, polled, takes.sound sound, Or.inl ⟨trivial, (takes.conserves_iff conserves split).mpr rfl⟩⟩
    | false =>
        obtain ⟨next, polled, takes⟩ := pollReceive_refused timeout left pending chunk
        refine ⟨next, polled, takes.sound sound, ?_⟩
        by_cases lost : channel.partially ++ chunk.val = []
        · have keeps : channel.Keeps (.readPoll count false) := Or.inr (List.append_eq_nil_iff.mp lost)
          exact Or.inl ⟨keeps, (takes.conserves_iff conserves split).mpr lost.symm⟩
        · refine Or.inr ⟨not_or.mpr ⟨pending, ?_⟩, takes.closes conserves split lost⟩
          rwa [← List.append_eq_nil_iff]

/-- Each call keeps the bytes exactly under its condition. -/
theorem channelCall_keeps {channel : Channel} (sound : channel.Sound) (conserves : channel.Conserves)
    (event : ChannelEvent) :
    ∃ next, channelCall fd timeout channel event = .ok next ∧ CallKeeps channel event next := by
  cases event with
  | hold => exact ⟨_, rfl, ⟨sound.sending, sound.receiving⟩, Or.inl ⟨trivial, conserves⟩⟩
  | letGo => exact ⟨_, rfl, ⟨sound.sending, sound.receiving⟩, Or.inl ⟨trivial, conserves⟩⟩
  | send data => exact channelCall_send fd timeout sound conserves data
  | sendPoll outcome => exact channelCall_sendPoll fd timeout sound conserves outcome
  | receive => exact channelCall_receive fd timeout sound conserves
  | readPoll count granted => exact channelCall_readPoll fd timeout sound conserves count granted
  | silentPoll outcome =>
      obtain ⟨next, polled, takes⟩ := pollReceive_silent timeout sound outcome
      refine ⟨next, polled, takes.sound sound, Or.inl ⟨trivial, ?_⟩⟩
      exact (takes.conserves_iff conserves (List.nil_append _).symm).mpr (List.append_nil _).symm

/-- Each step keeps the channel sound, and it keeps the bytes exactly when its call does and closes no byte away. -/
theorem channelStep_conserves {channel : Channel} (sound : channel.Sound) (conserves : channel.Conserves)
    (event : ChannelEvent) :
    ∃ next, channelStep fd timeout channel event = .ok next ∧ next.Sound ∧
      (next.Conserves ↔ channel.Keeps event ∧ channel.ClosesEmpty fd timeout event) := by
  obtain ⟨next, called, nextSound, outcome⟩ := channelCall_keeps fd timeout sound conserves event
  refine ⟨next.closeLast, ?_, closeLast_sound nextSound, ?_⟩
  · rw [channelStep, called]
    rfl
  have closes : channel.ClosesEmpty fd timeout event ↔ next.Held ∨ next.fifo = [] := by
    constructor
    · exact fun empty => empty next called
    · intro empty other again
      obtain rfl := Except.ok.inj (called.symm.trans again)
      exact empty
  rcases outcome with ⟨keeps, balanced⟩ | ⟨loses, unbalanced⟩
  · rw [closes, closeLast_conserves balanced, and_iff_right keeps]
  · exact iff_of_false unbalanced fun both => loses both.1

end Run

end Octopipes
