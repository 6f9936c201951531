import Octopipes.Exchange.SharedCap

namespace Octopipes

open CMemory PointerArray Transition Wire

section Read

variable {capFrames left : List Block} {read : CapRead} {received : PipeResult}

/-- A read without bytes leaves the CAP. -/
theorem readCap_nothing (filled : ∀ block ∈ capFrames, block ≠ []) (nothing : read.size capFrames = 0)
    (returned : readCap capFrames read = .ok (received, left)) :
    left = capFrames ∧ ∀ input, received ≠ .bytes input := by
  have takes : read.Takes capFrames [] := ⟨capFrames, rfl, nothing⟩
  have split := readCap_whole filled takes returned
  refine ⟨split.symm, fun input same => ?_⟩
  subst same
  obtain ⟨present, stream⟩ := readCap_stream returned
  rw [split, List.nil_append] at stream
  have none : Block.ofBytes input = [] := List.append_left_eq_self.mp stream
  exact present (Block.ofBytes_injective none)

/-- A read of the whole CAP leaves it empty. -/
theorem readCap_drains (filled : ∀ block ∈ capFrames, block ≠ []) (drains : read.Drains capFrames)
    (returned : readCap capFrames read = .ok (received, left)) :
    left = [] ∧ ∀ input, received = .bytes input →
      input ≠ [] ∧ Block.ofBytes input = capFrames.flatten := by
  have split := readCap_whole filled ⟨[], (List.append_nil capFrames).symm, drains⟩ returned
  obtain rfl : left = [] := List.append_right_eq_self.mp split.symm
  refine ⟨rfl, fun input same => ?_⟩
  subst same
  obtain ⟨present, stream⟩ := readCap_stream returned
  rw [List.flatten_nil, List.append_nil] at stream
  exact ⟨present, stream⟩

/-- The bytes of one frame are read as this frame. -/
theorem readCap_single {frame : Frame} {count : Nat} (drains : CapRead.Drains (.taken count) [frame.wire])
    (returned : readCap [frame.wire] (.taken count) = .ok (received, left)) :
    received = .bytes (frame.bytes frame.wireChecksum) := by
  have filled (block : Block) (member : block ∈ [frame.wire]) : block ≠ [] :=
    List.mem_singleton.mp member ▸ frame.wire_ne_nil
  have some : CapRead.size [frame.wire] (.taken count) ≠ 0 := by
    rw [drains, List.flatten_singleton]
    exact (List.length_pos_of_ne_nil frame.wire_ne_nil).ne'
  have whole := readCap_drains filled drains returned
  unfold readCap at returned
  dsimp only at returned
  rw [if_neg some] at returned
  obtain ⟨bytes, _, returned⟩ := Exec.bind_eq_ok.mp returned
  cases returned
  have same := (whole.2 bytes rfl).2
  rw [List.flatten_singleton] at same
  rw [Block.ofBytes_injective same]

end Read

/-- A client that can afford its assignment takes it. -/
theorem awaitReply_assigned {calls : SubscribeCalls} {client : OctopipesClient} {request : Block}
    {read : CapRead} {received : PipeResult} {left : List Block} {result : SubscribeResult}
    (requested : calls.Requested) (small : client.clientId.strlen < 256) (tx rx : CString)
    (txShort : tx.strlen < 256) (rxShort : rx.strlen < 256) (fits : 4 + tx.strlen + rx.strlen < 2 ^ 64 - 512)
    (named : client.clientId.bytes ≠ [])
    (drains : read.Drains [(assignmentFrame client.clientId small capErrorSuccess tx rx fits).wire])
    (affords : calls.Affords read [(assignmentFrame client.clientId small capErrorSuccess tx rx fits).wire])
    (taken : readCap [(assignmentFrame client.clientId small capErrorSuccess tx rx fits).wire] read =
      .ok (received, left))
    (awaited : awaitReply { calls with received } client request = .ok result) : result.rc = .success := by
  obtain ⟨count, rfl⟩ := affords.buffer
  obtain rfl := readCap_single drains taken
  have decodes := affords.decode _ List.flatten_singleton.symm
  have parses := replyPayload_assigned { calls with received := .bytes _ } client requested rfl decodes named
    (CString.untilNul_bytes _) (capMessage_assignmentBytes _ tx rx)
  exact awaitReply_takes { calls with received := .bytes _ } client request requested parses
    (Or.inr ⟨completeAssignment_bytes tx rx txShort rxShort, affords.pipes⟩) awaited

section Listen

variable {property : Frame → Prop}

/-- A reported message is the frame of the received bytes. -/
theorem listenerEntry_carries {mallocs : DecodeMallocs} {received : PipeResult}
    {entry : OctopipesServerMessage} (holds : ∀ input, received = .bytes input → property (frame input))
    (reported : listenerEntry mallocs received.data = .ok (some entry)) : entry.Carries property := by
  intro message live
  rcases listenerEntry_cases mallocs received with
    ⟨input, same, _, _, outcome⟩ | ⟨_, _, _, _, outcome⟩ | ⟨_, _, error, _, outcome⟩ | ⟨error, _, _, outcome⟩
  · cases outcome.symm.trans reported
    cases live
    exact ⟨_, _, rfl, holds input same⟩
  · cases outcome.symm.trans reported
  · cases outcome.symm.trans reported
    dsimp only at live
    split at live
    · cases live
    · cases live
  · rw [reported] at outcome
    split at outcome
    · cases outcome
    · cases outcome
      cases live

/-- The CAP listener changes only the lock and the inbox. -/
theorem capListen_setCap {host next : ServerHost} {input : ListenerInput}
    (returned : capListen host input = .ok (some next)) :
    ∃ capLock capInbox, next = host.setCap capLock capInbox := by
  obtain ⟨entry, _, returned⟩ := Exec.bind_eq_ok.mp returned
  cases entry with
  | none =>
      cases returned
      exact ⟨_, _, (setCap_self host rfl).symm⟩
  | some entry =>
      dsimp only at returned
      unfold reportCap at returned
      split at returned
      · cases returned
      obtain ⟨inbox, _, returned⟩ := Exec.bind_eq_ok.mp returned
      obtain ⟨⟨pushed, rc⟩, _, returned⟩ := Exec.bind_eq_ok.mp returned
      cases returned
      exact ⟨_, _, rfl⟩

/-- The CAP listener reports at most the frame of the received bytes. -/
theorem capListen_holds {host next : ServerHost} {input : ListenerInput} (holds : host.Holds property)
    (added : ∀ bytes, input.received = .bytes bytes → property (frame bytes))
    (returned : capListen host input = .ok (some next)) : next.Holds property := by
  obtain ⟨entry, reported, returned⟩ := Exec.bind_eq_ok.mp returned
  cases entry with
  | none =>
      cases returned
      exact holds
  | some entry =>
      have carries := listenerEntry_carries added reported
      dsimp only at returned
      unfold reportCap at returned
      split at returned
      · cases returned
      obtain ⟨inbox, live, returned⟩ := Exec.bind_eq_ok.mp returned
      obtain ⟨⟨pushed, rc⟩, push, returned⟩ := Exec.bind_eq_ok.mp returned
      cases returned
      intro stored same
      cases same
      exact messageInboxPush_each (holds inbox (Pointer.deref_eq_ok.mp live)) carries push

end Listen

/-- The request of the client is on the CAP, with the server, refused, or answered on the CAP. -/
inductive ServerHost.Stage (host : ServerHost) (name : CString) : Prop
  | asked (request : Frame) (frames : host.capFrames = [request.wire]) (requests : request.Requests name)
      (caughtUp : host.CaughtUp) (lacks : host.server.Lacks name) (fits : host.Fits name)
  | heard (frames : host.capFrames = []) (hears : host.Hears name) (lacks : host.server.Lacks name)
      (fits : host.Fits name)
  | refused (frames : host.capFrames = []) (caughtUp : host.CaughtUp) (lacks : host.server.Lacks name)
  | answered (small : name.strlen < 256) (tx rx : CString) (txShort : tx.strlen < 256)
      (rxShort : rx.strlen < 256) (fits : 4 + tx.strlen + rx.strlen < 2 ^ 64 - 512) (named : name.bytes ≠ [])
      (frames : host.capFrames = [(assignmentFrame name small capErrorSuccess tx rx fits).wire])
      (caughtUp : host.CaughtUp)

namespace ServerHost.Stage

variable {host : ServerHost} {name : CString} (stage : host.Stage name)

include stage

/-- The CAP holds at most one frame, and nothing while the server handles the request. -/
theorem frames : host.capFrames = [] ∨ ∃ frame : Frame, host.capFrames = [frame.wire] ∧ host.CaughtUp := by
  cases stage with
  | asked request frames requests caughtUp lacks fits => exact Or.inr ⟨request, frames, caughtUp⟩
  | heard frames hears lacks fits => exact Or.inl frames
  | refused frames caughtUp lacks => exact Or.inl frames
  | answered small tx rx txShort rxShort fits named frames caughtUp => exact Or.inr ⟨_, frames, caughtUp⟩

theorem filled : ∀ block ∈ host.capFrames, block ≠ [] := by
  intro block member
  rcases stage.frames with empty | ⟨frame, single, _⟩
  · rw [empty] at member
    cases member
  · rw [single] at member
    exact List.mem_singleton.mp member ▸ frame.wire_ne_nil

/-- A change of the lock and the inbox keeps the stage when the inbox holds no other messages. -/
theorem setCap (capLock : Bool) {capInbox : Pointer OctopipesServerInbox}
    (kept : ∀ property, host.Holds property → (host.setCap capLock capInbox).Holds property) :
    (host.setCap capLock capInbox).Stage name := by
  cases stage with
  | asked request frames requests caughtUp lacks fits =>
      exact .asked request frames requests (kept _ caughtUp) lacks ⟨fits.short, fits.tx, fits.rx⟩
  | heard frames hears lacks fits => exact .heard frames (kept _ hears) lacks ⟨fits.short, fits.tx, fits.rx⟩
  | refused frames caughtUp lacks => exact .refused frames (kept _ caughtUp) lacks
  | answered small tx rx txShort rxShort fits named frames caughtUp =>
      exact .answered small tx rx txShort rxShort fits named frames (kept _ caughtUp)

/-- A listener that takes the whole CAP before the answer hears at most the request of the client. -/
theorem drained (silent : ¬host.Replies) (capLock : Bool) {capInbox : Pointer OctopipesServerInbox}
    (kept : ∀ property, host.Holds property →
      (∀ input, input ≠ [] → Block.ofBytes input = host.capFrames.flatten → property (frame input)) →
        ((host.setFrames []).setCap capLock capInbox).Holds property) :
    ((host.setFrames []).setCap capLock capInbox).Stage name := by
  have nothing (frames : host.capFrames = []) {input : List UInt8} (present : input ≠ [])
      (same : Block.ofBytes input = host.capFrames.flatten) : False := by
    rw [frames] at same
    exact present (Block.ofBytes_injective same)
  cases stage with
  | asked request frames requests caughtUp lacks fits =>
      refine .heard rfl (kept _ (caughtUp.hears name) fun input _ same => ?_) lacks ⟨fits.short, fits.tx, fits.rx⟩
      rw [frames, List.flatten_singleton] at same
      rw [Block.ofBytes_injective same, frame_bytes]
      exact requests
  | heard frames hears lacks fits =>
      exact .heard rfl (kept _ hears fun _ present same => (nothing frames present same).elim) lacks
        ⟨fits.short, fits.tx, fits.rx⟩
  | refused frames caughtUp lacks => 
      exact .refused rfl (kept _ caughtUp fun _ => nothing frames) lacks
  | answered small tx rx txShort rxShort fits named frames caughtUp =>
      exact absurd ⟨_, rfl, frames ▸ List.mem_singleton_self _⟩ silent

/-- The server answers the request of the client or leaves it without a worker. -/
theorem processed {calls : CapCalls} {message : OctopipesMessage} {next : ServerHost} {rc : OctopipesServerError}
    (settles : calls.subscription.Settles ∨ host.CaughtUp) (sound : host.Sound)
    (running : host.server.state = .running) (oldest : host.Oldest message) (capLock : Bool)
    (handled : octopipesServerHandleCapMessage calls (host.setCap true (.live ⟨.null, 0⟩)) message =
      .ok (next, rc)) :
    (next.setCap capLock (.live ⟨.null, 0⟩)).Stage name ∧ ∀ other, other ≠ name →
      host.server.Lacks other → next.server.Lacks other := by
  have busy : ¬host.CaughtUp := fun caughtUp => (caughtUp.oldest oldest).elim fun _ ⟨_, _, absurd⟩ => absurd
  have settles := settles.resolve_right busy
  cases stage with
  | asked request frames requests caughtUp lacks fits => exact absurd caughtUp busy
  | refused frames caughtUp lacks => exact absurd caughtUp busy
  | answered small tx rx txShort rxShort fits named frames caughtUp => exact absurd caughtUp busy
  | heard frames hears lacks fits =>
      obtain ⟨frame, checksum, rfl, requests⟩ := hears.oldest oldest
      have locked : (host.setCap true (.live ⟨.null, 0⟩)).Sound :=
        sound.around sound.fifos rfl rfl rfl
      have emptied := caughtUp_emptied next capLock
      constructor
      · cases octopipesServerHandleCapMessage_once fits.short settles locked running lacks requests handled with
        | unanswered same absent => exact .refused (same.trans frames) emptied absent
        | answered named appended =>
            refine .answered fits.short _ _ fits.tx fits.rx (assignedPaths_fit host name fits.short) named ?_ emptied
            exact appended.trans (congrArg (· ++ _) frames)
      · intro other different absent
        refine (octopipesServerHandleCapMessage_answers handled).lacks other (fun names => different ?_) absent
        have origin := names.2
        rw [requests.origin, CString.untilNul_bytes] at origin
        exact origin.symm

end ServerHost.Stage

/-- At most one client waits, and every other client is answered or has no worker. -/
structure SharedCap.Orderly {Party : Type} (shared : SharedCap Party) : Prop where
  names : Function.Injective shared.name
  sound : shared.host.Sound
  requested : ∀ party calls request, (shared.callers party).phase = .waiting calls request → calls.Requested
  alone : ∀ first second, (shared.callers first).Waits → (shared.callers second).Waits → first = second
  stage : ∀ party, (shared.callers party).Waits → shared.host.Stage (shared.name party)
  quiet : (∀ party, ¬(shared.callers party).Waits) → shared.host.capFrames = [] ∧ shared.host.CaughtUp
  lacks : ∀ party, ¬(shared.callers party).Waits →
    (∀ result, (shared.callers party).phase = .returned result → result.rc ≠ .success) →
      shared.host.server.Lacks (shared.name party)

section Orderly

variable {Party : Type} {shared : SharedCap Party}

theorem SharedCap.Starts.orderly (starts : shared.Starts) : shared.Orderly := by
  have none (party : Party) : ¬(shared.callers party).Waits := by
    rw [Caller.Waits, starts.idle party]
    exact not_false
  exact {
    names := starts.names
    sound := starts.sound
    requested := fun party calls request waits => by cases (starts.idle party).symm.trans waits
    alone := fun first _ waits => absurd waits (none first)
    stage := fun party waits => absurd waits (none party)
    quiet := fun _ => ⟨starts.empty, starts.caughtUp⟩
    lacks := fun party _ _ => starts.lacks party }

variable (orderly : shared.Orderly)

include orderly

theorem SharedCap.Orderly.filled : ∀ block ∈ shared.host.capFrames, block ≠ [] := by
  by_cases waits : ∃ party, (shared.callers party).Waits
  · obtain ⟨party, waits⟩ := waits
    exact (orderly.stage party waits).filled
  · rw [(orderly.quiet (not_exists.mp waits)).1]
    intro block member
    cases member

/-- A step of the server keeps the order when it keeps the stage and adds no other worker. -/
theorem SharedCap.Orderly.setHost {host : ServerHost} (sound : host.Sound)
    (stage : ∀ party, (shared.callers party).Waits → host.Stage (shared.name party))
    (quiet : (∀ party, ¬(shared.callers party).Waits) → host.capFrames = [] ∧ host.CaughtUp)
    (lacks : ∀ party, ¬(shared.callers party).Waits → shared.host.server.Lacks (shared.name party) →
      host.server.Lacks (shared.name party)) : SharedCap.Orderly { shared with host } where
  names := orderly.names
  sound := sound
  requested := orderly.requested
  alone := orderly.alone
  stage := stage
  quiet := quiet
  lacks := fun party ready failed => lacks party ready (orderly.lacks party ready failed)

variable [DecidableEq Party] (party : Party) (capFrames : List Block) (caller : Caller)
  (same : caller.client.clientId = shared.name party)

omit orderly in
include same in
/-- A call keeps the names of the clients. -/
theorem SharedCap.setCaller_name : (shared.setCaller party capFrames caller).name = shared.name := by
  funext other
  by_cases called : other = party
  · subst called
    rw [SharedCap.name, SharedCap.setCaller_self, same]
  · rw [SharedCap.name, SharedCap.setCaller_other shared party capFrames caller called]
    rfl

omit orderly in
/-- The other callers wait as before. -/
theorem SharedCap.setCaller_waits {other : Party} :
    ((shared.setCaller party capFrames caller).callers other).Waits ↔
      other = party ∧ caller.Waits ∨ other ≠ party ∧ (shared.callers other).Waits := by
  by_cases called : other = party
  · subst called
    rw [SharedCap.setCaller_self]
    simp
  · rw [SharedCap.setCaller_other shared party capFrames caller called]
    simp [called]

include same

/-- A request goes to a quiet CAP. -/
theorem SharedCap.Orderly.asks (quiet : ∀ other, ¬(shared.callers other).Waits) (waits : caller.Waits)
    (requested : ∀ calls request, caller.phase = .waiting calls request → calls.Requested)
    (stage : (shared.host.setFrames capFrames).Stage (shared.name party)) :
    (shared.setCaller party capFrames caller).Orderly where
  names := (shared.setCaller_name party capFrames caller same).symm ▸ orderly.names
  sound := orderly.sound.around orderly.sound.fifos rfl rfl rfl
  requested := by
    intro other calls request phase
    by_cases called : other = party
    · subst called
      rw [SharedCap.setCaller_self] at phase
      exact requested calls request phase
    · rw [SharedCap.setCaller_other shared party capFrames caller called] at phase
      exact orderly.requested other calls request phase
  alone := by
    intro first second firstWaits secondWaits
    have only (other : Party) (waiting : ((shared.setCaller party capFrames caller).callers other).Waits) :
        other = party := by
      rcases (shared.setCaller_waits party capFrames caller).mp waiting with ⟨same, _⟩ | ⟨_, waiting⟩
      · exact same
      · exact absurd waiting (quiet other)
    exact (only first firstWaits).trans (only second secondWaits).symm
  stage := by
    intro other waiting
    rw [shared.setCaller_name party capFrames caller same]
    rcases (shared.setCaller_waits party capFrames caller).mp waiting with ⟨rfl, _⟩ | ⟨_, waiting⟩
    · exact stage
    · exact absurd waiting (quiet other)
  quiet := fun none =>
    absurd ((shared.setCaller_waits party capFrames caller).mpr (Or.inl ⟨rfl, waits⟩)) (none party)
  lacks := by
    intro other ready failed
    rw [shared.setCaller_name party capFrames caller same]
    have called : other ≠ party := fun same =>
      ready ((shared.setCaller_waits party capFrames caller).mpr (Or.inl ⟨same, waits⟩))
    rw [SharedCap.setCaller_other shared party capFrames caller called] at failed
    exact orderly.lacks other (quiet other) failed

omit same in
/-- A call that returns leaves the other clients. -/
theorem SharedCap.Orderly.returns {result : SubscribeResult}
    (same : result.client.clientId = shared.name party)
    (emptied : (shared.callers party).Waits → capFrames = [] ∧ shared.host.CaughtUp)
    (frames : ¬(shared.callers party).Waits → capFrames = shared.host.capFrames)
    (failed : result.rc ≠ .success → shared.host.server.Lacks (shared.name party)) :
    (shared.setCaller party capFrames ⟨result.client, .returned result⟩).Orderly := by
  have waits {other : Party}
      (waiting : ((shared.setCaller party capFrames ⟨result.client, .returned result⟩).callers other).Waits) :
      other ≠ party ∧ (shared.callers other).Waits := by
    rcases (shared.setCaller_waits party capFrames _).mp waiting with ⟨_, absurd⟩ | others
    · exact absurd.elim
    · exact others
  have name := shared.setCaller_name party capFrames ⟨result.client, .returned result⟩ same
  have left {other : Party} (different : other ≠ party) (waiting : (shared.callers other).Waits) :
      capFrames = shared.host.capFrames :=
    frames fun mine => different (orderly.alone other party waiting mine)
  refine {
    names := name.symm ▸ orderly.names
    sound := orderly.sound.around orderly.sound.fifos rfl rfl rfl
    requested := ?_
    alone := fun first second one two => orderly.alone first second (waits one).2 (waits two).2
    stage := ?_
    quiet := ?_
    lacks := ?_ }
  · intro other calls request phase
    by_cases called : other = party
    · subst called
      rw [SharedCap.setCaller_self] at phase
      cases phase
    · rw [SharedCap.setCaller_other shared party capFrames _ called] at phase
      exact orderly.requested other calls request phase
  · intro other waiting
    obtain ⟨different, waiting⟩ := waits waiting
    rw [name]
    show ServerHost.Stage { shared.host with capFrames } (shared.name other)
    rw [left different waiting]
    exact orderly.stage other waiting
  · intro none
    by_cases mine : (shared.callers party).Waits
    · exact emptied mine
    · have others (other : Party) : ¬(shared.callers other).Waits := fun waiting =>
        none other ((shared.setCaller_waits party capFrames _).mpr
          (Or.inr ⟨fun same => mine (same ▸ waiting), waiting⟩))
      have quiet := orderly.quiet others
      exact ⟨(frames mine).trans quiet.1, quiet.2⟩
  · intro other ready refused
    rw [name]
    by_cases called : other = party
    · subst called
      rw [SharedCap.setCaller_self] at refused
      exact failed (refused result rfl)
    · rw [SharedCap.setCaller_other shared party capFrames _ called] at refused
      refine orderly.lacks other (fun waiting => ready ?_) refused
      exact (shared.setCaller_waits party capFrames _).mpr (Or.inr ⟨called, waiting⟩)

end Orderly

section Steps

variable {Party : Type} [DecidableEq Party] {shared next : SharedCap Party} (orderly : shared.Orderly)

include orderly

/-- A client in turn sends its request to a quiet CAP, or it has no worker when it fails. -/
theorem sendRequest_orderly {party : Party} {calls : SubscribeCalls} {groups : RequestGroups}
    (turn : InTurn shared (.subscribe party calls groups)) (ready : ¬(shared.callers party).Waits)
    (stepped : sendRequest shared party calls groups = .ok next) : next.Orderly := by
  obtain ⟨again, asks⟩ := turn ready
  have lacks := orderly.lacks party ready again
  unfold sendRequest at stepped
  dsimp only at stepped
  rw [requestSubscription_eq calls _ groups.val groups.property, Exec.ok_bind] at stepped
  have refused (result : SubscribeResult) (same : result.client = (shared.callers party).client)
      (ended : shared.setCaller party shared.host.capFrames ⟨result.client, .returned result⟩ = next) :
      next.Orderly := by
    rw [← ended]
    exact orderly.returns party _ (congrArg OctopipesClient.clientId same) (fun waits => absurd waits ready)
      (fun _ => rfl) fun _ => lacks
  by_cases granted : calls.mallocs.granted = true
  swap
  · rw [if_neg granted] at stepped
    exact refused _ rfl (Except.ok.inj stepped)
  by_cases sent : calls.sent = .success
  swap
  · rw [if_pos granted, if_neg sent] at stepped
    exact refused _ rfl (Except.ok.inj stepped)
  obtain ⟨quiet, fits⟩ := asks ⟨granted, sent⟩
  obtain ⟨empty, caughtUp⟩ := orderly.quiet quiet
  rw [if_pos granted, if_pos sent] at stepped
  cases stepped
  refine orderly.asks party _ _ rfl quiet trivial ?_ ?_
  · intro calls request waits
    cases waits
    exact ⟨granted, sent⟩
  · refine .asked (requestFrame (shared.callers party).client (subscriptionBytes groups.val) groups.property)
      ?_ ⟨requestFrame_origin _ _ _ fits.short, rfl, capMessage_subscriptionBytes groups.val⟩ caughtUp lacks
      ⟨fits.short, fits.tx, fits.rx⟩
    rw [empty]
    rfl

/-- A client in turn takes its reply, or it has no worker. -/
theorem replyStep_orderly {party : Party} {read : CapRead} (turn : InTurn shared (.receive party read))
    (stepped : replyStep shared party read = .ok next) : next.Orderly := by
  unfold replyStep at stepped
  dsimp only at stepped
  split at stepped
  swap
  · cases stepped
    exact orderly
  next calls request phase =>
    obtain ⟨⟨received, left⟩, taken, stepped⟩ := Exec.bind_eq_ok.mp stepped
    obtain ⟨result, awaited, stepped⟩ := Exec.bind_eq_ok.mp stepped
    cases stepped
    obtain ⟨caughtUp, drains, affords⟩ := turn calls request phase
    have waits : (shared.callers party).Waits := (Caller.waits_iff _).mpr ⟨calls, request, phase⟩
    have requested := orderly.requested party calls request phase
    obtain ⟨rfl, _⟩ := readCap_drains orderly.filled drains taken
    refine orderly.returns party [] (awaitReply_frame { calls with received } _ request requested awaited).2
      (fun _ => ⟨rfl, caughtUp⟩) (fun ready => absurd waits ready) fun failed => ?_
    cases orderly.stage party waits with
    | asked request frames requests caughtUp lacks fits => exact lacks
    | heard frames hears lacks fits => exact lacks
    | refused frames caughtUp lacks => exact lacks
    | answered small tx rx txShort rxShort fits named frames caughtUp =>
        have memory := affords ⟨_, rfl, frames ▸ List.mem_singleton_self _⟩
        rw [frames] at drains memory taken
        exact absurd (awaitReply_assigned requested small tx rx txShort rxShort fits named drains memory taken
          awaited) failed

/-- A listener in turn hears the request of the waiting client only. -/
theorem listen_orderly {read : CapRead} {mallocs : DecodeMallocs} {entryGranted arrayGranted : Bool}
    (turn : InTurn shared (.listen read mallocs entryGranted arrayGranted))
    (stepped : sharedStep shared (.listen read mallocs entryGranted arrayGranted) = .ok next) :
    next.Orderly := by
  obtain ⟨⟨received, left⟩, taken, stepped⟩ := Exec.bind_eq_ok.mp stepped
  obtain ⟨listened, reported, stepped⟩ := Exec.bind_eq_ok.mp stepped
  cases stepped
  -- a listener that waits for the lock reports nothing
  obtain ⟨capLock, capInbox, same⟩ : ∃ capLock capInbox,
      listened.getD (shared.host.setFrames left) = (shared.host.setFrames left).setCap capLock capInbox := by
    cases listened with
    | none => exact ⟨_, _, (setCap_self _ rfl).symm⟩
    | some host => exact capListen_setCap reported
  have holds {property : Frame → Prop} (before : (shared.host.setFrames left).Holds property)
      (added : ∀ bytes, received = .bytes bytes → property (frame bytes)) :
      ((shared.host.setFrames left).setCap capLock capInbox).Holds property := by
    rw [← same]
    cases listened with
    | none => exact before
    | some host => exact capListen_holds before added reported
  rw [same]
  have sound : ((shared.host.setFrames left).setCap capLock capInbox).Sound :=
    orderly.sound.around orderly.sound.fifos rfl rfl rfl
  rcases turn with nothing | ⟨drains, silent⟩
  · obtain ⟨rfl, unread⟩ := readCap_nothing orderly.filled nothing taken
    have kept (property : Frame → Prop) (before : shared.host.Holds property) :=
      holds before fun bytes same => absurd same (unread bytes)
    refine orderly.setHost sound ?_ ?_ fun _ _ lacks => lacks
    · exact fun party waits => (orderly.stage party waits).setCap capLock kept
    · exact fun none => ⟨(orderly.quiet none).1, kept _ (orderly.quiet none).2⟩
  · obtain ⟨rfl, whole⟩ := readCap_drains orderly.filled drains taken
    have kept (property : Frame → Prop) (before : shared.host.Holds property)
        (heard : ∀ input, input ≠ [] → Block.ofBytes input = shared.host.capFrames.flatten →
          property (frame input)) :=
      holds before fun bytes same => heard bytes (whole bytes same).1 (whole bytes same).2
    refine orderly.setHost sound ?_ ?_ fun _ _ lacks => lacks
    · exact fun party waits => (orderly.stage party waits).drained silent capLock kept
    · intro none
      obtain ⟨empty, caughtUp⟩ := orderly.quiet none
      refine ⟨rfl, kept _ caughtUp fun input present stream => present ?_⟩
      rw [empty] at stream
      exact Block.ofBytes_injective stream

/-- A process call in turn answers the request of the waiting client or leaves it without a worker. -/
theorem process_orderly {reallocGranted : Bool} {calls : CapCalls}
    (turn : InTurn shared (.process reallocGranted calls))
    (stepped : sharedStep shared (.process reallocGranted calls) = .ok next) : next.Orderly := by
  obtain ⟨processed, returned, stepped⟩ := Exec.bind_eq_ok.mp stepped
  cases stepped
  cases processed with
  | none => exact orderly
  | some result =>
      have sound : result.host.Sound :=
        serverRule_sound.processCapOnce orderly.sound (fun _ _ => trivial) returned
      show SharedCap.Orderly { shared with host := result.host }
      rcases octopipesServerProcessCapOnce_cases returned with
        ⟨capLock, same⟩ | ⟨capLock, same⟩ | ⟨running, message, handled, rc, capLock, oldest, manages, same⟩
      · rw [same] at sound ⊢
        refine orderly.setHost sound ?_ (fun none => orderly.quiet none) fun _ _ lacks => lacks
        exact fun party waits => (orderly.stage party waits).setCap capLock fun _ holds => holds
      · rw [same] at sound ⊢
        have emptied (property : Frame → Prop) :
            (shared.host.setCap capLock (.live ⟨.null, 0⟩)).Holds property :=
          (caughtUp_emptied shared.host capLock).imp fun _ absurd => absurd.elim
        refine orderly.setHost sound ?_ ?_ fun _ _ lacks => lacks
        · exact fun party waits => (orderly.stage party waits).setCap capLock fun property _ => emptied property
        · exact fun none => ⟨(orderly.quiet none).1, emptied _⟩
      · rw [same] at sound ⊢
        by_cases waits : ∃ party, (shared.callers party).Waits
        · obtain ⟨party, waits⟩ := waits
          obtain ⟨stage, others⟩ :=
            (orderly.stage party waits).processed turn orderly.sound running oldest capLock manages
          refine orderly.setHost sound ?_ (fun none => absurd waits (none party)) fun other ready lacks => ?_
          · exact fun other waiting => orderly.alone party other waits waiting ▸ stage
          · exact others _ (fun called => ready (orderly.names called ▸ waits)) lacks
        · obtain ⟨_, _, _, absurd⟩ := (orderly.quiet (not_exists.mp waits)).2.oldest oldest
          exact absurd.elim

/-- Every event in turn keeps the order. -/
theorem sharedStep_orderly {event : SharedEvent Party} (turn : InTurn shared event)
    (stepped : sharedStep shared event = .ok next) : next.Orderly := by
  cases event with
  | subscribe party calls groups =>
      rw [sharedStep, subscribeStep] at stepped
      split at stepped
      · cases stepped
        exact orderly
      · next ready =>
          exact sendRequest_orderly orderly turn (fun waits => by
            obtain ⟨calls, request, phase⟩ := (Caller.waits_iff _).mp waits
            exact ready calls request phase) stepped
  | receive party read => exact replyStep_orderly orderly turn stepped
  | listen read mallocs entryGranted arrayGranted => exact listen_orderly orderly turn stepped
  | process reallocGranted calls => exact process_orderly orderly turn stepped

omit [DecidableEq Party] in
/-- A client in turn takes no assignment for another client. -/
theorem takesNoOther_orderly {event : SharedEvent Party} : TakesNoOther shared event := by
  cases event with
  | subscribe party calls groups => trivial
  | listen read mallocs entryGranted arrayGranted => trivial
  | process reallocGranted calls => trivial
  | receive party read =>
      intro calls request phase other reply different addressed _ touched
      have waits : (shared.callers party).Waits := (Caller.waits_iff _).mpr ⟨calls, request, phase⟩
      have member := touchedWrites_subset _ _ touched
      cases orderly.stage party waits with
      | asked request frames requests caughtUp lacks fits =>
          rw [frames, List.mem_singleton] at member
          exact addressed.1 (Frame.wire_injective member ▸ requests.remote)
      | heard frames hears lacks fits =>
          rw [frames] at member
          cases member
      | refused frames caughtUp lacks =>
          rw [frames] at member
          cases member
      | answered small tx rx txShort rxShort fits named frames caughtUp =>
          rw [frames, List.mem_singleton] at member
          have name := addressed.2
          rw [Frame.wire_injective member] at name
          exact different (orderly.names (name.symm.trans (CString.untilNul_bytes _)))

end Steps

section Runs

variable {Party : Type} [DecidableEq Party] {start : SharedCap Party} {events : List (SharedEvent Party)}

/-- The server and its clients agree on failed subscriptions in every run whose events are in turn. -/
theorem agreesOnFailures_inTurn (starts : start.Starts) (turns : Along sharedStep InTurn start events) :
    AgreesOnFailures start events := by
  have kept (shared : SharedCap Party) (event : SharedEvent Party) (next : SharedCap Party)
      (orderly : shared.Orderly) (turn : InTurn shared event) (stepped : sharedStep shared event = .ok next) :
      next.Orderly := sharedStep_orderly orderly turn stepped
  constructor
  · intro reached reaches party result returned failed _
    have orderly := invariant_of_along SharedCap.Orderly kept start events starts.orderly turns reached reaches
    refine orderly.lacks party (fun waits => ?_) fun ended same => ?_
    · rw [Caller.Waits, returned] at waits
      exact waits
    · cases returned.symm.trans same
      exact failed
  · exact along_imp SharedCap.Orderly (fun _ _ orderly _ => takesNoOther_orderly orderly) kept start events
      starts.orderly turns

end Runs

/-- Two new clients have names of one byte. -/
def newCallers (party : Bool) : Caller :=
  ⟨⟨.init, ⟨[if party then 0x61 else 0x62], by cases party <;> decide⟩, .version1, .null, .null⟩, .idle⟩

/-- A server without workers shares its CAP with two new clients. -/
def newShared : SharedCap Bool where
  host := .running ⟨⟨[0x65], by decide⟩, by decide⟩
  callers := newCallers

theorem newShared_starts : newShared.Starts where
  names := by
    intro first second
    revert first second
    decide
  idle := fun _ => rfl
  sound := ⟨List.nodup_nil, Or.inl ⟨[], ⟨rfl, rfl⟩, List.nodup_nil, List.nil_subperm⟩⟩
  empty := rfl
  caughtUp := fun inbox live => by
    cases live
    exact each_null _
  lacks := fun _ => each_null _

/-- Every call of this subscription succeeds. -/
def sharedCalls : SubscribeCalls := .granted (.dropped 0 false)

/-- A call of every memory affords each frame. -/
theorem sharedCalls_affords (count : Nat) (capFrames : List Block) :
    sharedCalls.Affords (.taken count) capFrames :=
  ⟨⟨count, rfl⟩, fun _ _ => mallocsSuffice_granted _, rfl, rfl⟩

/-- A request on the CAP is no reply of the server. -/
theorem not_replies_request (host : ServerHost) (request : Frame) (named : request.origin ≠ [])
    (frames : host.capFrames = [request.wire]) : ¬host.Replies := by
  rintro ⟨reply, origin, member⟩
  rw [frames, List.mem_singleton] at member
  exact named (Frame.wire_injective member ▸ origin)

/-- A client without groups sends this request. -/
def newRequest (party : Bool) : Frame :=
  requestFrame (newCallers party).client (subscriptionBytes []) (by decide)

/-- The second client cannot send its request, and then both clients subscribe one after the other. -/
theorem agreesOnFailures_inTurn_serial :
    AgreesOnFailures newShared
      [.subscribe false { sharedCalls with sent := .writeFailed } ⟨[], by decide⟩,
        .subscribe true sharedCalls ⟨[], by decide⟩, .listen (.taken 2048) .granted true true,
        .process true .granted, .receive true (.taken 2048),
        .subscribe false sharedCalls ⟨[], by decide⟩, .listen (.taken 2048) .granted true true,
        .process true .granted, .receive false (.taken 2048)] := by
  apply agreesOnFailures_inTurn newShared_starts
  refine along_cons rfl (fun _ => ⟨?_, ?_⟩) ?_
  · intro result returned
    cases returned
  · intro requested
    cases requested.2
  refine along_cons rfl (fun _ => ⟨?_, fun _ => ⟨by decide, by decide, by decide, by decide⟩⟩) ?_
  · intro result returned
    cases returned
  refine along_cons rfl (Or.inr ⟨rfl, not_replies_request _ (newRequest true) (by decide) rfl⟩) ?_
  refine along_cons rfl (Or.inl (Or.inr rfl)) ?_
  refine along_cons rfl ?_ ?_
  · intro calls request waits
    cases waits
    refine ⟨?_, rfl, fun _ => sharedCalls_affords _ _⟩
    intro inbox live
    cases live
    exact each_null _
  refine along_cons rfl (fun _ => ⟨?_, fun _ => ⟨by decide, by decide, by decide, by decide⟩⟩) ?_
  · intro result returned
    cases returned
    decide
  refine along_cons rfl (Or.inr ⟨rfl, not_replies_request _ (newRequest false) (by decide) rfl⟩) ?_
  refine along_cons rfl (Or.inl (Or.inr rfl)) ?_
  refine along_cons rfl ?_ trivial
  intro calls request waits
  cases waits
  refine ⟨?_, rfl, fun _ => sharedCalls_affords _ _⟩
  intro inbox live
  cases live
  exact each_null _

/-- The second client reads the assignment of the first client before its own request. -/
def stolenEvents : List (SharedEvent Bool) :=
  [.subscribe true sharedCalls ⟨[], by decide⟩, .listen (.taken 2048) .granted true true,
    .process true .granted, .subscribe false sharedCalls ⟨[], by decide⟩,
    .receive false (.taken 2048), .receive true (.taken 2048)]

/-- The first client finds no reply and stays registered. -/
theorem not_agreesOnFailures_stolen : ¬AgreesOnFailures newShared stolenEvents := by
  rintro ⟨unregistered, _⟩
  obtain ⟨final, ended, ⟨result, returned, failed⟩, empty, registered⟩ : ∃ final,
      run sharedStep newShared stolenEvents = .ok final ∧
        (∃ result, (final.callers true).phase = .returned result ∧ result.rc ≠ .success) ∧
        final.host.capFrames = [] ∧
        octopipesServerIsSubscribed final.host.server (final.name true) = .ok .success :=
    ⟨_, rfl, ⟨_, rfl, by decide⟩, rfl, rfl⟩
  have lacks := unregistered final ⟨_, List.prefix_refl _, ended⟩ true result returned failed empty
  exact octopipesServerIsSubscribed_lacks lacks registered

end Octopipes
