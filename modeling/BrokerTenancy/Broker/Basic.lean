import BrokerTenancy.Broker.Call

/-!
A broker that keeps its bindings in memory. It can be made slow, unavailable, or unwilling to create
or remove particular bindings, and it remembers the calls that reached it.
-/

namespace BrokerTenancy

structure Broker where
  cluster : String
  bindings : BindingSet := .empty
  /-- The bindings that it neither creates nor removes. -/
  refused : List Binding := []
  available : Bool := true
  /-- How many milliseconds pass before a call is answered. -/
  latency : Nat := 0
  calls : List AdminCall := []
  deriving Inhabited

namespace Broker

/-- The fault of every call while the broker is unavailable. -/
def disconnected (broker : Broker) : Fault := .brokerUnavailable broker.cluster .disconnected

def refusal (binding : Binding) : Fault := .item binding.shown .refused

def recordCall (broker : Broker) (call : AdminCall) : Broker :=
  { broker with calls := broker.calls ++ [call] }

/-- What becomes of one binding that is to be created. -/
def creation (broker : Broker) (binding : Binding) : Creation :=
  if broker.refused.contains binding then (binding, .error (refusal binding))
  else (binding, .ok ())

/-- Stores the bindings that are not refused. -/
def createAll (broker : Broker) (bindings : List Binding) : Broker × List Creation :=
  let accepted := bindings.filter fun binding => !broker.refused.contains binding
  ({ broker with bindings := broker.bindings.insertAll accepted }, bindings.map broker.creation)

/-- Removes the bindings that match a filter, all or, if one of them is refused, none. -/
def deleteMatching (refused : List Binding) (bindings : BindingSet) (filter : BindingFilter) :
    BindingSet × Deletion :=
  let matched := (bindings.filter filter.isMatch).toList
  match matched.find? fun binding => refused.contains binding with
  | some blocked => (bindings, (filter, .error (refusal blocked)))
  | none => (bindings.filter fun binding => !filter.isMatch binding, (filter, .ok matched))

/-- Removes what matches the filters, one filter after the other. -/
def deleteAll (refused : List Binding) (bindings : BindingSet) :
    List BindingFilter → BindingSet × List Deletion
  | [] => (bindings, [])
  | filter :: rest =>
      let (bindings, deletion) := deleteMatching refused bindings filter
      let (bindings, deletions) := deleteAll refused bindings rest
      (bindings, deletion :: deletions)

def perform (broker : Broker) (call : AdminCall) : Broker × AdminAnswer :=
  if !broker.available then (broker, call.failedWith broker.disconnected)
  else
    let broker := broker.recordCall call
    match call with
    | .describe filter =>
        (broker, .described (.ok (broker.bindings.filter filter.isMatch).toList))
    | .create bindings =>
        let (broker, creations) := broker.createAll bindings
        (broker, .created (.ok creations))
    | .delete filters =>
        let (bindings, deletions) := deleteAll broker.refused broker.bindings filters
        ({ broker with bindings }, .deleted (.ok deletions))

/-- Answers a call that may take so long. One that would take longer does not reach the broker and
fails for the given cause. -/
def performWithin (broker : Broker) (bound : Nat) (late : Fault) (call : AdminCall) :
    Broker × AdminAnswer :=
  if bound < broker.latency then (broker, call.failedWith late) else broker.perform call

/-- Adds a binding by other means than a call. -/
def hold (broker : Broker) (binding : Binding) : Broker :=
  { broker with bindings := broker.bindings.insert binding }

/-- Lets the broker refuse a binding from now on. -/
def refuse (broker : Broker) (binding : Binding) : Broker :=
  { broker with refused := binding :: broker.refused }

end Broker

end BrokerTenancy
