import Octopipes.Inbox.Refinement
import Octopipes.Server.Duplicate

namespace Octopipes

open CMemory PointerArray

/-- One call of the server takes an entry of its CAP inbox, or waits forever. -/
abbrev CapSession := Nat → ServerHost → Exec (Option ProcessResult)

/-- The rounds end with the first error or without an entry, and a run without fuel gives no result. -/
def processCapRounds (session : CapSession) (host : ServerHost) (requests round : Nat) :
    Nat → Exec (Option ProcessResult)
  | 0 => pure none
  | fuel + 1 => do
      let thisSession ← session round host
      match thisSession with
      | none => pure none
      | some once =>
          if once.rc ≠ .success then pure (some { once with requests := some requests })
          else
            let thisSessionRequests := once.requests.getD 0
            let requests := requests + thisSessionRequests
            if 0 < thisSessionRequests then processCapRounds session once.host requests (round + 1) fuel
            else pure (some { once with requests := some requests })

/-- The call refuses a server that has a CAP inbox. -/
def octopipesServerProcessCapAll (session : CapSession) (host : ServerHost) (fuel : Nat) :
    Exec (Option ProcessResult) :=
  if host.server.state ≠ .running then pure (some ⟨host, .uninitialized, none⟩)
  else if !host.server.capInbox.isNull then pure (some ⟨host, .uninitialized, none⟩)
  else processCapRounds session host 0 0 fuel

/-- The caller repeats the call until it fails or reports no request. -/
def repeatProcessCapOnce (session : CapSession) (host : ServerHost) (fuel : Nat) :
    Exec (Option ProcessResult) :=
  processCapRounds session host 0 0 fuel

section All

variable
  (dequeue : OctopipesServerInbox → Exec (OctopipesServerInbox × Pointer OctopipesServerMessage))
  (calls : Nat → CapCalls) (host : ServerHost)

/-- Each round of the server is one call. -/
def capSession : CapSession := fun round host => processCapOnceWith dequeue (calls round) host

/-- The call ends like its repeated single calls, and its success has taken every entry. -/
def DrainsCap : Prop :=
  ∃ fuel result,
    octopipesServerProcessCapAll (capSession dequeue calls) host fuel = .ok (some result) ∧
    repeatProcessCapOnce (capSession dequeue calls) host fuel = .ok (some result) ∧
    ∀ inbox entries, host.server.capInbox = .live inbox → inbox.Stores entries → result.rc = .success →
      result.requests = some entries.length ∧
        ∃ next, result.host.server.capInbox = .live next ∧ next.Stores []

/-- The rounds always write their number of requests. -/
theorem processCapRounds_requests (session : CapSession) (requests round fuel : Nat) (result : ProcessResult)
    (returned : processCapRounds session host requests round fuel = .ok (some result)) :
    result.requests ≠ none := by
  induction fuel generalizing host requests round with
  | zero => cases returned
  | succ fuel ih =>
      obtain ⟨thisSession, _, returned⟩ := Exec.bind_eq_ok.mp returned
      cases thisSession with
      | none => cases returned
      | some once =>
          dsimp only at returned
          split at returned
          · cases returned
            exact Option.some_ne_none _
          · split at returned
            · exact ih once.host _ _ returned
            · cases returned
              exact Option.some_ne_none _

/-- The call refuses every running server with a CAP inbox before it writes its requests. -/
theorem not_drainsCap_inbox (running : host.server.state = .running)
    (present : host.server.capInbox.isNull = false) : ¬DrainsCap dequeue calls host := by
  rintro ⟨fuel, result, all, repeated, _⟩
  rw [octopipesServerProcessCapAll, if_neg (not_not_intro running), present] at all
  cases all
  exact processCapRounds_requests _ _ _ _ _ _ repeated rfl

/-- The call drains the CAP inbox of a running server exactly when there is no inbox. -/
theorem octopipesServerProcessCapAll_drains_iff (running : host.server.state = .running) :
    DrainsCap dequeue calls host ↔ host.server.capInbox = .null := by
  constructor
  · intro drains
    cases inbox : host.server.capInbox with
    | null => rfl
    | live stored => exact absurd drains (not_drainsCap_inbox dequeue calls host running (by rw [inbox]; rfl))
    | wild => exact absurd drains (not_drainsCap_inbox dequeue calls host running (by rw [inbox]; rfl))
  · intro missing
    have refused : processCapOnceWith dequeue (calls 0) host = .ok (some ⟨host, .uninitialized, none⟩) := by
      rw [processCapOnceWith, if_neg (not_not_intro running), missing]
      rfl
    have repeated : repeatProcessCapOnce (capSession dequeue calls) host 1 =
        .ok (some ⟨host, .uninitialized, some 0⟩) := by
      rw [repeatProcessCapOnce, processCapRounds, capSession, refused]
      rfl
    refine ⟨1, ⟨host, .uninitialized, some 0⟩, ?_, repeated, ?_⟩
    · rw [octopipesServerProcessCapAll, if_neg (not_not_intro running), missing]
      exact repeated
    · intro inbox entries present
      rw [missing] at present
      cases present

end All

/-- A running server drains no stored message, and only one without a CAP inbox ends like its single calls. -/
theorem octopipesServerProcessCapAll_drains_stored :
    let stored : OctopipesServerInbox := ⟨.live [.live ⟨.null, .readFailed⟩, .live ⟨.null, .badPacket⟩], 2⟩
    let calls := fun _ : Nat => CapCalls.mk .granted ⟨true, true, true, true⟩
    let host := ServerHost.running emptyFolder
    ¬DrainsCap (messageInboxDequeue true) calls (host.setCap false (.live stored)) ∧
      DrainsCap (messageInboxDequeue true) calls (host.setCap false .null) := by
  intro stored calls host
  constructor
  · intro drains
    cases (octopipesServerProcessCapAll_drains_iff _ _ _ rfl).mp drains
  · exact (octopipesServerProcessCapAll_drains_iff _ _ _ rfl).mpr rfl

/-- A running server with an empty CAP inbox refuses the call. -/
theorem not_octopipesServerProcessCapAll_drains_empty :
    ¬DrainsCap (messageInboxDequeue true) (fun _ => ⟨.granted, ⟨true, true, true, true⟩⟩)
      ((ServerHost.running emptyFolder).setCap false (.live ⟨.null, 0⟩)) :=
  not_drainsCap_inbox _ _ _ rfl rfl

end Octopipes
