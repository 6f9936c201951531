import Mathlib.Algebra.Group.Nat.Defs
import Octopipes.Transition.While
import Octopipes.Types

namespace Octopipes

open CMemory Transition

/-- A buffer in memory is smaller than the largest pointer difference. -/
abbrev SentData := { bytes : List UInt8 // bytes.length < 2 ^ 63 }

/-- One poll of the pipe and the write after it have one of these outcomes. -/
inductive SendOutcome where
  | written (count : Nat)
  | refused
  | otherEvent
  | timedOut
  | pollFailed

/-- The call makes these system calls on its descriptor. -/
inductive SendCall where
  | opened (fifo : CString) (fd : Int)
  | polled (fd : Int)
  | wrote (fd : Int) (offset requested : Nat) (bytes : List UInt8)
  | closed (fd : Int)

/-- The first loop keeps its descriptor and stops after an open that succeeds. -/
structure OpenState where
  fd : Int
  elapsedTime : Nat
  stopped : Bool
  calls : List SendCall

/-- Every failed open counts as 50 milliseconds. -/
def openBody (fifo : CString) (state : OpenState) (fd : Int) : OpenState :=
  let calls := state.calls ++ [.opened fifo fd]
  if fd ≠ -1 then { state with fd, stopped := true, calls }
  else { state with fd, elapsedTime := state.elapsedTime + 50, calls }

def openLoop (fifo : CString) (timeout : Nat) : While OpenState Int where
  goesOn state := decide (state.elapsedTime < timeout) && !state.stopped
  body := openBody fifo

/-- An uninitialized descriptor has an unspecified value before the first open. -/
def openPipe (fifo : CString) (timeout : Nat) (unspecified : Int) (opens : Nat → Int) : OpenState :=
  (openLoop fifo timeout).after opens ⟨unspecified, 0, false, []⟩ timeout

/-- The second loop counts the written bytes in a word of 64 bits. -/
structure SendState where
  totalBytesWritten : Nat
  rc : OctopipesError
  calls : List SendCall

/-- A write takes no more than the remaining bytes, and its failure is added like a count. -/
def sendBody (data : SentData) (fd : Int) (state : SendState) (outcome : SendOutcome) : SendState :=
  let remainingBytes := data.val.length - state.totalBytesWritten
  let write (bytes : List UInt8) : SendCall := .wrote fd state.totalBytesWritten remainingBytes bytes
  match outcome with
  | .written count =>
      let bytes := (data.val.drop state.totalBytesWritten).take count
      { state with
        totalBytesWritten := (state.totalBytesWritten + bytes.length) % 2 ^ 64
        calls := state.calls ++ [.polled fd, write bytes] }
  | .refused =>
      { state with
        totalBytesWritten := (state.totalBytesWritten + (2 ^ 64 - 1)) % 2 ^ 64
        calls := state.calls ++ [.polled fd, write []] }
  | .otherEvent => { state with calls := state.calls ++ [.polled fd] }
  | .timedOut => { state with rc := .writeFailed, calls := state.calls ++ [.polled fd] }
  | .pollFailed => { state with rc := .writeFailed, calls := state.calls ++ [.polled fd] }

def sendLoop (data : SentData) (fd : Int) : While SendState SendOutcome where
  goesOn state := decide (state.totalBytesWritten < data.val.length)
  body := sendBody data fd

/-- A call that still polls has made its system calls and has no code yet. -/
structure SendReport where
  rc : Option OctopipesError
  calls : List SendCall

/-- The call returns when its counter reaches or passes the size of the data. -/
def finishSend (data : SentData) (fd : Int) (state : SendState) : SendReport :=
  if state.totalBytesWritten < data.val.length then ⟨none, state.calls⟩
  else if state.totalBytesWritten = data.val.length then ⟨some .success, state.calls ++ [.closed fd]⟩
  else ⟨some state.rc, state.calls ++ [.closed fd]⟩

/-- The call opens the pipe and then writes until the loop has made a number of iterations. -/
def pipeSend (fifo : CString) (data : SentData) (timeout : Nat) (unspecified : Int) (opens : Nat → Int)
    (outcomes : Nat → SendOutcome) (iterations : Nat) : SendReport :=
  let pipe := openPipe fifo timeout unspecified opens
  if pipe.fd = -1 then ⟨some .openFailed, pipe.calls⟩
  else
    finishSend data pipe.fd
      ((sendLoop data pipe.fd).after outcomes ⟨0, .noDataAvailable, pipe.calls⟩ iterations)

end Octopipes
