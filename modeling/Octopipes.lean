import Octopipes.CMemory.ArrayHeap
import Octopipes.CMemory.BigEndian
import Octopipes.CMemory.Block
import Octopipes.CMemory.CString
import Octopipes.CMemory.Cursor
import Octopipes.CMemory.Execution
import Octopipes.CMemory.Heap
import Octopipes.CMemory.PointerArray
import Octopipes.CMemory.PointerList
import Octopipes.CMemory.Slice
import Octopipes.CMemory.Sweep
import Octopipes.CMemory.Traced
import Octopipes.Cap.Access
import Octopipes.Cap.Assignment
import Octopipes.Cap.Completeness
import Octopipes.Cap.Groups
import Octopipes.Cap.Ownership
import Octopipes.Cap.Payload
import Octopipes.Cap.RoundTrip
import Octopipes.Cap.Sizing
import Octopipes.Cap.Subscription
import Octopipes.Client.Custody
import Octopipes.Client.Failures
import Octopipes.Client.Interleaving
import Octopipes.Client.Leaks
import Octopipes.Client.Loop
import Octopipes.Client.Operations
import Octopipes.Client.Ownership
import Octopipes.Client.Pipes
import Octopipes.Client.Replies
import Octopipes.Client.Requests
import Octopipes.Client.Send
import Octopipes.Client.Survival
import Octopipes.Client.Threads
import Octopipes.Coding.SelfDelimiting
import Octopipes.Collections.Broker
import Octopipes.Collections.Ledger
import Octopipes.Collections.OrderedMap
import Octopipes.Collections.Serving
import Octopipes.Exchange.Acknowledgement
import Octopipes.Exchange.Lengths
import Octopipes.Exchange.SharedCap
import Octopipes.Exchange.Subscription
import Octopipes.Exchange.Turns
import Octopipes.Files.Resolution
import Octopipes.Files.Tree
import Octopipes.Inbox.History
import Octopipes.Inbox.Operations
import Octopipes.Inbox.Ownership
import Octopipes.Inbox.Refinement
import Octopipes.Listener.Entries
import Octopipes.Listener.Loops
import Octopipes.Listener.Ownership
import Octopipes.Listener.Stream
import Octopipes.Network.Delivery
import Octopipes.Network.Fanout
import Octopipes.Network.Readers
import Octopipes.Network.Reading
import Octopipes.Network.Registration
import Octopipes.Network.Relation
import Octopipes.Network.Sessions
import Octopipes.Network.Settling
import Octopipes.Network.System
import Octopipes.Network.Traffic
import Octopipes.Pipes.Channel
import Octopipes.Pipes.GiveUp
import Octopipes.Pipes.Opening
import Octopipes.Pipes.Ownership
import Octopipes.Pipes.Progress
import Octopipes.Pipes.Receive
import Octopipes.Pipes.Send
import Octopipes.Pipes.SendOnce
import Octopipes.Pipes.Waiting
import Octopipes.Serializer.Acceptance
import Octopipes.Serializer.Checksum
import Octopipes.Serializer.Concatenation
import Octopipes.Serializer.Corruption
import Octopipes.Serializer.Coverage
import Octopipes.Serializer.Decode
import Octopipes.Serializer.DecodeOutcome
import Octopipes.Serializer.Encode
import Octopipes.Serializer.Frame
import Octopipes.Serializer.Ownership
import Octopipes.Serializer.RoundTrip
import Octopipes.Serializer.Wire
import Octopipes.Server.AllOrNothing
import Octopipes.Server.Answers
import Octopipes.Server.Cap
import Octopipes.Server.CapAll
import Octopipes.Server.CapFailure
import Octopipes.Server.Cleanup
import Octopipes.Server.Custody
import Octopipes.Server.Dispatch
import Octopipes.Server.Drain
import Octopipes.Server.Duplicate
import Octopipes.Server.Effects
import Octopipes.Server.Emptying
import Octopipes.Server.Folder
import Octopipes.Server.Handle
import Octopipes.Server.InboxOwnership
import Octopipes.Server.Inboxes
import Octopipes.Server.Invariants
import Octopipes.Server.Leaks
import Octopipes.Server.Lifecycle
import Octopipes.Server.Listening
import Octopipes.Server.Lock
import Octopipes.Server.Outcomes
import Octopipes.Server.Ownership
import Octopipes.Server.Paths
import Octopipes.Server.Piped
import Octopipes.Server.Process
import Octopipes.Server.Queries
import Octopipes.Server.Reachable
import Octopipes.Server.Registry
import Octopipes.Server.Reply
import Octopipes.Server.Requests
import Octopipes.Server.Rollback
import Octopipes.Server.Rounds
import Octopipes.Server.Settlement
import Octopipes.Server.Start
import Octopipes.Server.Starvation
import Octopipes.Server.Table
import Octopipes.Server.Turns
import Octopipes.Server.Unsubscription
import Octopipes.Server.Workers
import Octopipes.Transition.Along
import Octopipes.Transition.Fifo
import Octopipes.Transition.Simulation
import Octopipes.Transition.While
import Octopipes.Transition.Writes
import Octopipes.Types
import Octopipes.Wrapper.Client
import Octopipes.Wrapper.Lists
import Octopipes.Wrapper.Marshalling
import Octopipes.Wrapper.Message
import Octopipes.Wrapper.MessageRoundTrip
import Octopipes.Wrapper.Refusal
import Octopipes.Wrapper.Server
import Octopipes.Wrapper.Types
