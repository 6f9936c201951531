import Mathlib.Logic.Function.Basic
import Octopipes.Client.Failures
import Octopipes.Exchange.Subscription
import Octopipes.Server.Answers
import Octopipes.Transition.Along
import Octopipes.Transition.Writes

namespace Octopipes

open CMemory Transition Wire

/-- A read of the CAP fails, or takes at most this many bytes into its buffer or drops them without memory. -/
inductive CapRead where
  | failed (error : OctopipesError) (failure : error ≠ .success)
  | taken (count : Nat)
  | refused (count : Nat) (buffered : Bool)

/-- A read takes this many bytes away from the CAP. -/
def CapRead.size (capFrames : List Block) : CapRead → Nat
  | .failed _ _ => 0
  | .taken count => min count capFrames.flatten.length
  | .refused count _ => min count capFrames.flatten.length

theorem noDataAvailable_failure : OctopipesError.noDataAvailable ≠ .success := by simp

/-- The bytes of a read leave the CAP and an empty CAP has no data. -/
def readCap (capFrames : List Block) (read : CapRead) : Exec (PipeResult × List Block) :=
  let size := read.size capFrames
  match read with
  | .failed error failure => pure (.failed error failure, capFrames)
  | .taken _ =>
      if size = 0 then pure (.failed .noDataAvailable noDataAvailable_failure, capFrames)
      else do
        let bytes ← Block.loadBytes capFrames.flatten 0 size
        pure (.bytes bytes, leftWrites size capFrames)
  | .refused _ buffered =>
      if size = 0 then pure (.failed .noDataAvailable noDataAvailable_failure, capFrames)
      else pure (.dropped size buffered, leftWrites size capFrames)

/-- The read takes exactly these frames from the front of the CAP. -/
def CapRead.Takes (read : CapRead) (capFrames taken : List Block) : Prop :=
  ∃ rest, capFrames = taken ++ rest ∧ read.size capFrames = taken.flatten.length

section Read

variable {capFrames taken left : List Block} {read : CapRead} {received : PipeResult}

/-- The received bytes and the left frames are the stream of the CAP. -/
theorem readCap_stream {input : List UInt8} (returned : readCap capFrames read = .ok (.bytes input, left)) :
    input ≠ [] ∧ Block.ofBytes input ++ left.flatten = capFrames.flatten := by
  unfold readCap at returned
  dsimp only at returned
  cases read with
  | failed error failure => cases returned
  | taken count =>
      dsimp only at returned
      split at returned
      · cases returned
      next some =>
        obtain ⟨bytes, loaded, returned⟩ := Exec.bind_eq_ok.mp returned
        cases returned
        have cells := Block.ofBytes_of_loadBytes loaded
        rw [slice, List.drop_zero] at cells
        constructor
        · rintro rfl
          have length := congrArg List.length cells
          simp only [CapRead.size, Block.ofBytes_length, List.length_nil, List.length_take] at length some
          omega
        · rw [cells, leftWrites_flatten, List.take_append_drop]
  | refused count buffered =>
      dsimp only at returned
      split at returned
      · cases returned
      · cases returned

/-- A read of whole frames leaves the frames behind them. -/
theorem readCap_whole (filled : ∀ block ∈ capFrames, block ≠ []) (takes : read.Takes capFrames taken)
    (returned : readCap capFrames read = .ok (received, left)) : capFrames = taken ++ left := by
  obtain ⟨rest, rfl, size⟩ := takes
  have nothing (none : read.size (taken ++ rest) = 0) : taken = [] := by
    cases taken with
    | nil => rfl
    | cons block taken =>
        have positive := List.length_pos_of_ne_nil (filled block List.mem_cons_self)
        rw [none, List.flatten_cons, List.length_append] at size
        omega
  have whole := leftWrites_whole taken rest fun block member =>
    filled block (List.mem_append_right taken member)
  rw [← size] at whole
  unfold readCap at returned
  dsimp only at returned
  cases read with
  | failed error failure =>
      cases returned
      rw [nothing rfl]
      rfl
  | taken count =>
      dsimp only at returned
      split at returned
      · next none =>
          cases returned
          rw [nothing none]
          rfl
      rw [whole] at returned
      obtain ⟨_, _, returned⟩ := Exec.bind_eq_ok.mp returned
      cases returned
      rfl
  | refused count buffered =>
      dsimp only at returned
      split at returned
      · next none =>
          cases returned
          rw [nothing none]
          rfl
      rw [whole] at returned
      cases returned
      rfl

end Read

/-- A caller has not called yet, waits for its reply, or has returned. -/
inductive CallerPhase where
  | idle
  | waiting (calls : SubscribeCalls) (request : Block)
  | returned (result : SubscribeResult)

structure Caller where
  client : OctopipesClient
  phase : CallerPhase

/-- The caller has sent its request and has not read a reply. -/
def Caller.Waits (caller : Caller) : Prop :=
  match caller.phase with
  | .waiting _ _ => True
  | _ => False

instance (caller : Caller) : Decidable caller.Waits := by
  unfold Caller.Waits
  split <;> infer_instance

theorem Caller.waits_iff (caller : Caller) :
    caller.Waits ↔ ∃ calls request, caller.phase = .waiting calls request := by
  obtain ⟨client, phase⟩ := caller
  cases phase with
  | idle => simp [Waits]
  | waiting calls request => simp [Waits]
  | returned result => simp [Waits]

/-- The server and its clients share the frames of one CAP. -/
structure SharedCap (Party : Type) where
  host : ServerHost
  callers : Party → Caller

/-- The clients, the CAP listener and the server take turns in any order. -/
inductive SharedEvent (Party : Type) where
  | subscribe (party : Party) (calls : SubscribeCalls) (groups : RequestGroups)
  | receive (party : Party) (read : CapRead)
  | listen (read : CapRead) (mallocs : DecodeMallocs) (entryGranted arrayGranted : Bool)
  | process (reallocGranted : Bool) (calls : CapCalls)

def ServerHost.setFrames (host : ServerHost) (capFrames : List Block) : ServerHost :=
  { host with capFrames }

section Step

variable {Party : Type} [DecidableEq Party]

/-- This update replaces the CAP frames and one caller. -/
def SharedCap.setCaller (shared : SharedCap Party) (party : Party) (capFrames : List Block)
    (caller : Caller) : SharedCap Party :=
  ⟨shared.host.setFrames capFrames, Function.update shared.callers party caller⟩

section Callers

variable (shared : SharedCap Party) (party : Party) (capFrames : List Block) (caller : Caller)

theorem SharedCap.setCaller_self : (shared.setCaller party capFrames caller).callers party = caller := by
  simp only [SharedCap.setCaller, Function.update_self]

theorem SharedCap.setCaller_other {other : Party} (different : other ≠ party) :
    (shared.setCaller party capFrames caller).callers other = shared.callers other := by
  simp only [SharedCap.setCaller, Function.update_of_ne different]

/-- A property of every caller holds after it holds of the replaced one. -/
theorem SharedCap.setCaller_each {property : Caller → Prop} (each : ∀ other, property (shared.callers other))
    (added : property caller) (other : Party) :
    property ((shared.setCaller party capFrames caller).callers other) := by
  by_cases called : other = party
  · rw [called, shared.setCaller_self]
    exact added
  · rw [shared.setCaller_other party capFrames caller called]
    exact each other

end Callers

/-- A request goes behind the frames of the CAP. -/
def sendRequest (shared : SharedCap Party) (party : Party) (calls : SubscribeCalls)
    (groups : RequestGroups) : Exec (SharedCap Party) := do
  let client := (shared.callers party).client
  let requested ← requestSubscription calls client groups.val
  match requested with
  | .error result =>
      pure (shared.setCaller party shared.host.capFrames ⟨result.client, .returned result⟩)
  | .ok request =>
      pure (shared.setCaller party (shared.host.capFrames ++ [request]) ⟨client, .waiting calls request⟩)

/-- A client that waits for its reply makes no other call. -/
def subscribeStep (shared : SharedCap Party) (party : Party) (calls : SubscribeCalls)
    (groups : RequestGroups) : Exec (SharedCap Party) :=
  match (shared.callers party).phase with
  | .waiting _ _ => pure shared
  | _ => sendRequest shared party calls groups

/-- Only a client that waits for its reply reads the CAP. -/
def replyStep (shared : SharedCap Party) (party : Party) (read : CapRead) : Exec (SharedCap Party) :=
  let caller := shared.callers party
  match caller.phase with
  | .waiting calls request => do
      let (received, left) ← readCap shared.host.capFrames read
      let result ← awaitReply { calls with received } caller.client request
      pure (shared.setCaller party left ⟨result.client, .returned result⟩)
  | _ => pure shared

/-- A listener or a server that waits for the lock changes nothing else. -/
def sharedStep (shared : SharedCap Party) : SharedEvent Party → Exec (SharedCap Party)
  | .subscribe party calls groups => subscribeStep shared party calls groups
  | .receive party read => replyStep shared party read
  | .listen read mallocs entryGranted arrayGranted => do
      let (received, left) ← readCap shared.host.capFrames read
      let host := shared.host.setFrames left
      let listened ← capListen host ⟨received, mallocs, entryGranted, arrayGranted⟩
      pure { shared with host := listened.getD host }
  | .process reallocGranted calls => do
      let processed ← octopipesServerProcessCapOnce reallocGranted calls shared.host
      pure { shared with host := (processed.map ProcessResult.host).getD shared.host }

/-- The phase of the caller is a part of one subscription. -/
def Caller.Subscribes (caller : Caller) : Prop :=
  match caller.phase with
  | .idle => True
  | .waiting calls request =>
      ∃ groups : RequestGroups, requestSubscription calls caller.client groups.val = .ok (.ok request)
  | .returned result =>
      ∃ calls client, ∃ groups : RequestGroups, octopipesSubscribe calls client groups.val = .ok result

section Calls

variable {shared next : SharedCap Party} (each : ∀ party, (shared.callers party).Subscribes)

include each

theorem sendRequest_subscribes {party : Party} {calls : SubscribeCalls} {groups : RequestGroups}
    (stepped : sendRequest shared party calls groups = .ok next) (other : Party) :
    (next.callers other).Subscribes := by
  obtain ⟨requested, request, stepped⟩ := Exec.bind_eq_ok.mp stepped
  cases requested with
  | error result =>
      cases stepped
      refine shared.setCaller_each party _ _ each ?_ other
      refine ⟨calls, (shared.callers party).client, groups, ?_⟩
      rw [octopipesSubscribe_request, request, Exec.ok_bind]
  | ok sent =>
      cases stepped
      refine shared.setCaller_each party _ _ each ?_ other
      exact ⟨groups, request⟩

/-- The wait and the request before it are one subscription. -/
theorem replyStep_subscribes {party : Party} {read : CapRead}
    (stepped : replyStep shared party read = .ok next) (other : Party) :
    (next.callers other).Subscribes := by
  have before := each party
  unfold replyStep at stepped
  dsimp only at stepped
  split at stepped
  · next calls request waits =>
      obtain ⟨⟨received, left⟩, _, stepped⟩ := Exec.bind_eq_ok.mp stepped
      obtain ⟨result, awaited, stepped⟩ := Exec.bind_eq_ok.mp stepped
      cases stepped
      rw [Caller.Subscribes, waits] at before
      obtain ⟨groups, requested⟩ := before
      refine shared.setCaller_each party _ _ each ?_ other
      refine ⟨{ calls with received }, (shared.callers party).client, groups, ?_⟩
      have same : requestSubscription { calls with received } (shared.callers party).client groups.val =
          .ok (.ok request) := requested
      rw [octopipesSubscribe_request, same, Exec.ok_bind]
      exact awaited
  · cases stepped
    exact each other

/-- Every step keeps the callers inside their subscriptions. -/
theorem sharedStep_subscribes {event : SharedEvent Party} (stepped : sharedStep shared event = .ok next)
    (other : Party) : (next.callers other).Subscribes := by
  cases event with
  | subscribe party calls groups =>
      rw [sharedStep, subscribeStep] at stepped
      split at stepped
      · cases stepped
        exact each other
      · exact sendRequest_subscribes each stepped other
  | receive party read => exact replyStep_subscribes each stepped other
  | listen read mallocs entryGranted arrayGranted =>
      obtain ⟨_, _, stepped⟩ := Exec.bind_eq_ok.mp stepped
      obtain ⟨_, _, stepped⟩ := Exec.bind_eq_ok.mp stepped
      cases stepped
      exact each other
  | process reallocGranted calls =>
      obtain ⟨_, _, stepped⟩ := Exec.bind_eq_ok.mp stepped
      cases stepped
      exact each other

end Calls

/-- Every result that a run returns is a result of one subscription. -/
theorem returned_subscribes {start reached : SharedCap Party} {events : List (SharedEvent Party)}
    (idle : ∀ party, (start.callers party).phase = .idle)
    (reaches : Reaches sharedStep start events reached) {party : Party} {result : SubscribeResult}
    (returned : (reached.callers party).phase = .returned result) :
    ∃ calls client, ∃ groups : RequestGroups, octopipesSubscribe calls client groups.val = .ok result := by
  have each := invariant_of_reaches (fun shared => ∀ party, (shared.callers party).Subscribes)
    (fun _ _ _ each stepped => sharedStep_subscribes each stepped) start events
    (fun party => by rw [Caller.Subscribes, idle]; trivial) reached reaches party
  rwa [Caller.Subscribes, returned] at each

end Step

/-- A frame for a client has its name as remote. -/
def Frame.IsFor (frame : Frame) (name : CString) : Prop :=
  frame.remote ≠ [] ∧ CString.untilNul frame.remote = name

section Agreement

variable {Party : Type}

def SharedCap.name (shared : SharedCap Party) (party : Party) : CString :=
  (shared.callers party).client.clientId

/-- A client whose subscription has failed has no worker once the CAP is empty. -/
def FailedUnregistered (shared : SharedCap Party) : Prop :=
  ∀ party result, (shared.callers party).phase = .returned result → result.rc ≠ .success →
    shared.host.capFrames = [] → shared.host.server.Lacks (shared.name party)

/-- A client takes no part of an assignment for another client. -/
def TakesNoOther (shared : SharedCap Party) : SharedEvent Party → Prop
  | .receive party read =>
      ∀ calls request, (shared.callers party).phase = .waiting calls request →
        ∀ (other : Party) (reply : Frame), other ≠ party → reply.IsFor (shared.name other) →
          capMessage reply.data = .assignment →
            reply.wire ∉ touchedWrites (read.size shared.host.capFrames) shared.host.capFrames
  | _ => True

/-- The server and its clients agree on the failed subscriptions of a run. -/
def AgreesOnFailures [DecidableEq Party] (start : SharedCap Party) (events : List (SharedEvent Party)) :
    Prop :=
  (∀ reached, Reaches sharedStep start events reached → FailedUnregistered reached) ∧
    Along sharedStep TakesNoOther start events

/-- A start has an empty CAP, and its clients have different names, no calls and no workers. -/
structure SharedCap.Starts (shared : SharedCap Party) : Prop where
  names : Function.Injective shared.name
  idle : ∀ party, (shared.callers party).phase = .idle
  sound : shared.host.Sound
  empty : shared.host.capFrames = []
  caughtUp : shared.host.CaughtUp
  lacks : ∀ party, shared.host.server.Lacks (shared.name party)

end Agreement

/-- The read takes every byte of the CAP. -/
def CapRead.Drains (read : CapRead) (capFrames : List Block) : Prop :=
  read.size capFrames = capFrames.flatten.length

/-- The CAP holds a frame of the server, which has no origin. -/
def ServerHost.Replies (host : ServerHost) : Prop :=
  ∃ reply : Frame, reply.origin = [] ∧ reply.wire ∈ host.capFrames

/-- The client has the memory to read, to decode and to parse what is on the CAP. -/
structure SubscribeCalls.Affords (calls : SubscribeCalls) (read : CapRead) (capFrames : List Block) : Prop where
  buffer : ∃ count, read = .taken count
  decode : ∀ input, Block.ofBytes input = capFrames.flatten → MallocsSuffice input calls.decode
  pipes : calls.txGranted = true ∧ calls.rxGranted = true

/-- The name and the paths of the client fit their length bytes. -/
structure ServerHost.Fits (host : ServerHost) (name : CString) : Prop where
  short : name.strlen < 256
  tx : (txPath host name).strlen < 256
  rx : (rxPath host name).strlen < 256

/-- One client at a time subscribes, and it reads its reply before anybody else reads the CAP. -/
def InTurn {Party : Type} (shared : SharedCap Party) : SharedEvent Party → Prop
  | .subscribe party calls _ => ¬(shared.callers party).Waits →
      (∀ result, (shared.callers party).phase = .returned result → result.rc ≠ .success) ∧
        (calls.Requested → (∀ other, ¬(shared.callers other).Waits) ∧ shared.host.Fits (shared.name party))
  | .receive party read => ∀ calls request, (shared.callers party).phase = .waiting calls request →
      shared.host.CaughtUp ∧ read.Drains shared.host.capFrames ∧
        (shared.host.Replies → calls.Affords read shared.host.capFrames)
  | .listen read _ _ _ => read.size shared.host.capFrames = 0 ∨
      read.Drains shared.host.capFrames ∧ ¬shared.host.Replies
  | .process _ calls => calls.subscription.Settles ∨ shared.host.CaughtUp

end Octopipes
