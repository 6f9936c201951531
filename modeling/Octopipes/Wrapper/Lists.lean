import Octopipes.Client.Replies
import Octopipes.Server.Reachable
import Octopipes.Wrapper.Client
import Octopipes.Wrapper.Server

namespace Octopipespp

open CMemory Octopipes

/-- Both wrappers pass a list to its C call exactly when the list has at most one string. -/
theorem wrappers_passLists_iff (subscribeCalls : SubscribeCalls) (client : OctopipesClient)
    (groups : List CString) (startCalls : StartCalls) (host : ServerHost) (clientId : CString)
    (subscriptions : List CString) (cliTxPipe cliRxPipe : CString) :
    (PassesGroups subscribeCalls client groups ↔ groups.length ≤ 1) ∧
      (PassesSubscriptions startCalls host clientId subscriptions cliTxPipe cliRxPipe ↔
        subscriptions.length ≤ 1) :=
  ⟨passesGroups_iff subscribeCalls client groups,
    passesSubscriptions_iff startCalls host clientId subscriptions cliTxPipe cliRxPipe⟩

/-- Two strings share the first slot in both wrappers. -/
theorem not_wrappers_passLists_pair :
    let client : OctopipesClient := ⟨.init, ⟨[0x63], by decide⟩, .version1, .null, .null⟩
    let pair : List CString := [⟨[0x61], by decide⟩, ⟨[0x62], by decide⟩]
    ¬PassesGroups (.granted (.bytes [])) client pair ∧
      ¬PassesSubscriptions .granted (.running emptyFolder) client.clientId pair .empty .empty := by
  intro client pair
  exact ⟨fun passes => absurd ((passesGroups_iff _ _ _).mp passes) (by decide),
    fun passes => absurd ((passesSubscriptions_iff _ _ _ _ _ _).mp passes) (by decide)⟩

end Octopipespp
