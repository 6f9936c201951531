import Octopipes.Client.Loop
import Octopipes.Client.Pipes
import Octopipes.Exchange.SharedCap
import Octopipes.Server.Drain
import Octopipes.Server.Lifecycle

namespace Octopipes

open CMemory PointerArray Transition

/-- A publication has a wire name as remote and asks for no acknowledgement. -/
structure Publication where
  remote : CString
  payload : Payload
  ttl : UInt8
  options : OctopipesOptions
  wire : WireName remote
  unasked : options &&& optionsRequireAck = 0

/-- A read drains its pipe unless one of its calls fails. -/
inductive PipeRead where
  | drained
  | broken (read : CapRead)

/-- The read, the decoder and the report of a listener have these outcomes. -/
structure ListenCalls where
  read : PipeRead
  decode : DecodeMallocs
  entry : Bool
  array : Bool

/-- The read, the decoder and the acknowledgement of a client have these outcomes. -/
structure ReceiveCalls where
  read : PipeRead
  decode : DecodeMallocs
  ack : SendCalls

/-- The clients and the server share the CAP and the frames that wait in the pipes of the clients while a reader has
them open. -/
structure Network (Party : Type) where
  shared : SharedCap Party
  capReaders : Nat
  frames : CString → List Block
  readers : CString → Nat
  published : Party → List Block
  reports : Party → List OctopipesMessage

/-- The clients, the listeners and the server take turns in any order, and readers open and close the pipes. -/
inductive NetworkEvent (Party : Type) where
  | subscribe (party : Party) (calls : SubscribeCalls) (groups : RequestGroups)
  | unsubscribe (party : Party) (calls : UnsubscribeCalls)
  | listenCap (calls : ListenCalls)
  | processCap (reallocGranted : Bool) (calls : CapCalls)
  | reply (party : Party) (read : PipeRead)
  | start (party : Party) (created : Bool)
  | publish (party : Party) (calls : SendCalls) (publication : Publication)
  | listen (index : Nat) (calls : ListenCalls)
  | process (reallocGranted : Bool) (calls : Nat → Nat → WorkerSendCalls)
  | receive (party : Party) (calls : ReceiveCalls)
  | openCap
  | closeCap
  | openPipe (fifo : CString)
  | closePipe (fifo : CString)

/-- A read goes on until the pipe is empty. -/
def drainRead (frames : List Block) : CapRead := .taken frames.flatten.length

def PipeRead.on (frames : List Block) : PipeRead → CapRead
  | .drained => drainRead frames
  | .broken read => read

/-- Every call of this subscription succeeds, and its reply comes later. -/
def subscribeCalls : SubscribeCalls := .granted (.failed .noDataAvailable noDataAvailable_failure)

/-- Every call of this unsubscription succeeds. -/
def UnsubscribeCalls.granted : UnsubscribeCalls := ⟨⟨true, true, true, true⟩, .success, true⟩

/-- Every call of this send succeeds. -/
def SendCalls.allGranted : SendCalls := ⟨true, true, true, true, true, .success⟩

def ListenCalls.granted : ListenCalls := ⟨.drained, .granted, true, true⟩

def ReceiveCalls.granted : ReceiveCalls := ⟨.drained, .granted, .allGranted⟩

/-- A send cannot open a pipe without a reader. -/
def opened (readers : Nat) (rc : OctopipesError) : OctopipesError := if readers = 0 then .openFailed else rc

/-- The frames of the successful sends wait behind the frames of their pipes. -/
def arrive (frames : CString → List Block) (sends : List PipeSend) : CString → List Block := fun fifo =>
  frames fifo ++ framesTo fifo (sends.filter fun send => decide (send.rc = .success))

/-- The frames of a pipe are lost with the pipe. -/
def keepFrames (fifos : List CString) (frames : CString → List Block) : CString → List Block := fun fifo =>
  if fifo ∈ fifos then frames fifo else []

/-- A deleted path has no reader. -/
def keepReaders (fifos : List CString) (readers : CString → Nat) : CString → Nat := fun fifo =>
  if fifo ∈ fifos then readers fifo else 0

/-- The frames of a pipe are gone with its last reader. -/
def leftFrames (readers : Nat) (frames : List Block) : List Block := if readers ≤ 1 then [] else frames

section Step

variable {Party : Type} [DecidableEq Party] (network : Network Party)

/-- A subscription starts new records of the client. -/
def Network.subscribe (party : Party) (calls : SubscribeCalls) (groups : RequestGroups) : Exec (Network Party) :=
  if (network.shared.callers party).Waits then pure network
  else do
    let shared ← subscribeStep network.shared party
      { calls with sent := opened network.capReaders calls.sent } groups
    pure { network with
      shared
      published := Function.update network.published party []
      reports := Function.update network.reports party [] }

/-- An unsubscription puts its request behind the frames of the CAP. -/
def Network.unsubscribe (party : Party) (calls : UnsubscribeCalls) : Exec (Network Party) :=
  let caller := network.shared.callers party
  if caller.Waits then pure network
  else do
    let result ← octopipesUnsubscribe { calls with sent := opened network.capReaders calls.sent } caller.client
    let capFrames := if result.rc = .success then result.request.toList else []
    pure { network with
      shared := network.shared.setCaller party (network.shared.host.capFrames ++ capFrames)
        { caller with client := result.client } }

def Network.listenCap (calls : ListenCalls) : Exec (Network Party) := do
  let shared ← sharedStep network.shared
    (.listen (calls.read.on network.shared.host.capFrames) calls.decode calls.entry calls.array)
  pure { network with shared }

/-- The reply of the server needs a reader of the CAP. -/
def Network.answers (calls : CapCalls) : CapCalls :=
  let write := calls.subscription.write
  { calls with
    subscription := { calls.subscription with write := { write with sent := opened network.capReaders write.sent } } }

/-- The server call may create and delete pipes. -/
def Network.processCap (reallocGranted : Bool) (calls : CapCalls) : Exec (Network Party) := do
  let shared ← sharedStep network.shared (.process reallocGranted (network.answers calls))
  pure { network with
    shared
    frames := keepFrames shared.host.fifos network.frames
    readers := keepReaders shared.host.fifos network.readers }

def Network.reply (party : Party) (read : PipeRead) : Exec (Network Party) := do
  let shared ← sharedStep network.shared (.receive party (read.on network.shared.host.capFrames))
  pure { network with shared }

/-- The thread of the loop makes a subscribed client running. -/
def Network.start (party : Party) (created : Bool) : Network Party :=
  let caller := network.shared.callers party
  if caller.Waits then network
  else if octopipesLoopStart created caller.client ≠ .success then network
  else { network with
    shared := network.shared.setCaller party network.shared.host.capFrames
      { caller with client := { caller.client with state := .running } } }

/-- A handed message waits in the pipe of its client when the pipe has a reader. -/
def Network.hand (party : Party) (sent : OctopipesError × Option Handed) : Exec (Network Party) :=
  match sent with
  | (_, none) => pure network
  | (rc, some handed) => do
      let fifo ← CString.readPointer handed.pipe
      if opened (network.readers fifo) rc ≠ .success then pure network
      else pure { network with
        frames := arrive network.frames [⟨fifo, handed.data, 0, .success⟩]
        published := Function.update network.published party (network.published party ++ [handed.data]) }

def Network.publish (party : Party) (calls : SendCalls) (publication : Publication) : Exec (Network Party) :=
  let caller := network.shared.callers party
  if caller.Waits then pure network
  else do
    let sent ← octopipesSendEx calls caller.client publication.remote publication.payload.pointer
      publication.payload.dataSize publication.ttl publication.options
    network.hand party sent

/-- The listener of an active worker drains its pipe and reports the oldest frame. -/
def Network.listen (index : Nat) (calls : ListenCalls) : Exec (Network Party) :=
  let host := network.shared.host
  match host.server.workers.slot index with
  | .ok (.live worker) =>
      if worker.active then do
        let waiting := network.frames worker.pipeRead
        let (received, left) ← readCap waiting (calls.read.on waiting)
        let entry ← listenerEntry calls.decode received.data
        let server ← match entry with
          | none => pure host.server
          | some entry => reportWorker calls.entry calls.array host.server index entry.message entry.error
        pure { network with
          shared := { network.shared with host := { host with server } }
          frames := Function.update network.frames worker.pipeRead left }
      else pure network
  | _ => pure network

/-- The send to a worker needs a reader of its pipe. -/
def Network.sends (calls : Nat → Nat → WorkerSendCalls) (sender index : Nat) : WorkerSendCalls :=
  match network.shared.host.server.workers.slot index with
  | .ok (.live worker) =>
      { calls sender index with sent := opened (network.readers worker.pipeWrite) (calls sender index).sent }
  | _ => calls sender index

/-- The server call sends the messages of the inboxes to their recipients. -/
def Network.process (reallocGranted : Bool) (calls : Nat → Nat → WorkerSendCalls) : Exec (Network Party) := do
  let host := network.shared.host
  let processed ← octopipesServerProcessOnce reallocGranted (network.sends calls) host.server
  pure { network with
    shared := { network.shared with host := { host with server := processed.server } }
    frames := arrive network.frames (processed.log.map Prod.snd) }

/-- The loop of a running client drains its pipe and reports the oldest message. -/
def Network.receive (party : Party) (calls : ReceiveCalls) : Exec (Network Party) :=
  let client := (network.shared.callers party).client
  if client.state ≠ .running then pure network
  else do
    let fifo ← CString.readPointer client.rxPipe
    let (received, left) ← readCap (network.frames fifo) (calls.read.on (network.frames fifo))
    let report ← octopipesLoopOnce ⟨received, calls.decode, calls.ack⟩ client
    let reported := { network with
      frames := Function.update network.frames fifo left
      reports := Function.update network.reports party (network.reports party ++ report.received.toList) }
    match report.ack with
    | none => pure reported
    | some sent => reported.hand party sent

def Network.closeCap : Network Party :=
  let host := network.shared.host
  { network with
    shared := { network.shared with host := host.setFrames (leftFrames network.capReaders host.capFrames) }
    capReaders := network.capReaders - 1 }

/-- Only an existing pipe is opened. -/
def Network.openPipe (fifo : CString) : Network Party :=
  if fifo ∈ network.shared.host.fifos then
    { network with readers := Function.update network.readers fifo (network.readers fifo + 1) }
  else network

def Network.closePipe (fifo : CString) : Network Party :=
  { network with
    frames := Function.update network.frames fifo (leftFrames (network.readers fifo) (network.frames fifo))
    readers := Function.update network.readers fifo (network.readers fifo - 1) }

def networkStep : NetworkEvent Party → Exec (Network Party)
  | .subscribe party calls groups => network.subscribe party calls groups
  | .unsubscribe party calls => network.unsubscribe party calls
  | .listenCap calls => network.listenCap calls
  | .processCap reallocGranted calls => network.processCap reallocGranted calls
  | .reply party read => network.reply party read
  | .start party created => pure (network.start party created)
  | .publish party calls publication => network.publish party calls publication
  | .listen index calls => network.listen index calls
  | .process reallocGranted calls => network.process reallocGranted calls
  | .receive party calls => network.receive party calls
  | .openCap => pure { network with capReaders := network.capReaders + 1 }
  | .closeCap => pure network.closeCap
  | .openPipe fifo => pure (network.openPipe fifo)
  | .closePipe fifo => pure (network.closePipe fifo)

end Step

/-- These groups fit the bytes of a subscription. -/
def WireGroups (groups : RequestGroups) : Prop :=
  groups.val.length ≤ 255 ∧ ∀ group ∈ groups.val, group.strlen ≤ 255

/-- Every memory call, write and thread call of the event succeeds, and its read drains the pipe. -/
def NetworkEvent.Succeeds {Party : Type} : NetworkEvent Party → Prop
  | .subscribe _ calls _ => calls = subscribeCalls
  | .unsubscribe _ calls => calls = .granted
  | .listenCap calls => calls = .granted
  | .processCap reallocGranted calls => reallocGranted = true ∧ calls = .granted
  | .reply _ read => read = .drained
  | .start _ created => created = true
  | .publish _ calls _ => calls = .allGranted
  | .listen _ calls => calls = .granted
  | .process reallocGranted calls => reallocGranted = true ∧ ∀ sender index, (calls sender index).Succeeds
  | .receive _ calls => calls = .granted
  | .openCap => True
  | .closeCap => True
  | .openPipe _ => True
  | .closePipe _ => True

namespace Network

variable {Party : Type} (network : Network Party)

/-- No request and no reply is on its way. -/
def Quiet : Prop :=
  network.shared.host.capFrames = [] ∧
    ∃ inbox, network.shared.host.server.capInbox = .live inbox ∧ inbox.inboxLen = 0

/-- A pipe is written while it has a reader, and the last reader of a pipe leaves no frame in it. -/
def Held : NetworkEvent Party → Prop
  | .subscribe _ _ _ => network.capReaders ≠ 0
  | .unsubscribe _ _ => network.capReaders ≠ 0
  | .processCap _ _ => network.capReaders ≠ 0
  | .publish party _ _ => ∀ fifo, CString.readPointer (network.shared.callers party).client.txPipe = .ok fifo →
      network.readers fifo ≠ 0
  | .process _ _ => ∀ index worker, network.shared.host.server.workers.slot index = .ok (.live worker) →
      network.readers worker.pipeWrite ≠ 0
  | .closeCap => 1 < network.capReaders ∨ network.shared.host.capFrames = []
  | .closePipe fifo => 1 < network.readers fifo ∨ network.frames fifo = []
  | _ => True

/-- The clients use the CAP in turn, a request goes to the server and a reply to its client, a remote is not longer
than the name of its sender, and an inbox is emptied before it gets the next message. -/
def Allows : NetworkEvent Party → Prop
  | .subscribe party _ groups =>
      network.Quiet ∧ ¬(network.shared.callers party).client.Active ∧ WireGroups groups
  | .unsubscribe party _ => network.Quiet ∧ (network.shared.callers party).client.Active
  | .listenCap _ => ∀ block ∈ network.shared.host.capFrames,
      ∃ frame : Frame, block = frame.wire ∧ frame.remote = []
  | .reply party _ => ∃ frame : Frame, network.shared.host.capFrames = [frame.wire] ∧
      frame.IsFor (network.shared.name party)
  | .publish party _ publication => (network.shared.callers party).client.Active ∧
      publication.remote.strlen ≤ (network.shared.name party).strlen
  | .listen index _ => ∀ worker, network.shared.host.server.workers.slot index = .ok (.live worker) →
      network.frames worker.pipeRead ≠ [] → worker.inbox.inboxLen = 0
  | _ => True

/-- The calls of the event succeed, its pipes are open, and its use is allowed. -/
structure Regular (event : NetworkEvent Party) : Prop where
  succeeds : event.Succeeds
  held : network.Held event
  allowed : network.Allows event

end Network

end Octopipes
