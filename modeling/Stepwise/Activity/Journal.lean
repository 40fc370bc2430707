import Stepwise.Activity.Executor
import Stepwise.Fetch.Provider

namespace Stepwise

/-- The activities that were invoked and the records that were read, in their order. -/
structure Journal where
  calls : List (Activity.Invocation × ActivityOptions) := []
  requests : List Fetch.StoreRequest := []
deriving DecidableEq

namespace Journal

def addCall (j : Journal) (call : Activity.Invocation) (options : ActivityOptions) : Journal :=
  { j with calls := j.calls ++ [(call, options)] }

def addRequest (j : Journal) (request : Fetch.StoreRequest) : Journal :=
  { j with requests := j.requests ++ [request] }

def timesInvoked (j : Journal) (activity : String) : Nat :=
  j.calls.countP fun entry => entry.1.activity == activity

/-- The entries of a journal that an earlier one does not have yet. -/
def since (j earlier : Journal) : Journal :=
  ⟨j.calls.drop earlier.calls.length, j.requests.drop earlier.requests.length⟩

end Journal

/-- Notes each invocation before it runs. -/
def Activity.Executor.journaled (execute : Activity.Executor Journal) : Activity.Executor Journal :=
  fun call options j => execute call options (j.addCall call options)

/-- Notes each request before it is answered. -/
def Fetch.Store.journaled (store : Fetch.Store Journal) : Fetch.Store Journal :=
  fun request j => store request (j.addRequest request)

end Stepwise
