import BrokerTenancy.Catalog.Query
import BrokerTenancy.Cycle.Report
import BrokerTenancy.Cycle.Tally

/-!
One cycle: it asks the broker for its bindings, creates what is missing and then removes what is too
much. Creating comes first, so that a wider grant is there before the narrower one that it replaces
is gone. A call with nothing in it is left out, and the first call that fails ends the cycle.
-/

namespace BrokerTenancy

/-- A cycle under way, by the call whose answer it waits for. -/
inductive Cycle where
  | describing (tenants : List Tenant) (desired : BindingSet)
  | creating (plan : Plan)
  | deleting (plan : Plan) (creations : Batch)
  deriving DecidableEq

/-- What an answer makes of a cycle. -/
inductive Turn where
  | continues (cycle : Cycle)
  | ends (result : Outcome Report)

namespace Cycle

/-- Begins a cycle: finds out what is desired. -/
def begin (settings : ClusterSettings) (query : ResourceQuery) : Outcome Cycle := do
  let tenants ← query.tenantsOn settings.name
  let desired ← query.desiredBindings tenants
  return .describing tenants desired

/-- The filters that remove exactly the given bindings. -/
def removing (bindings : List Binding) : AdminCall :=
  .delete (bindings.map BindingFilter.exactly)

/-- The call whose answer the cycle waits for. -/
def call : Cycle → AdminCall
  | .describing _ _ => .describe .any
  | .creating plan => .create plan.toCreate.toList
  | .deleting plan _ => removing plan.toDelete.toList

def abort (fault : Fault) (tally : Tally) : Turn × Tally :=
  (.ends (.error fault), tally.cycleAborted)

/-- Goes on after what is missing was created. -/
def afterCreating (settings : ClusterSettings) (plan : Plan) (creations : Batch)
    (tally : Tally) : Turn × Tally :=
  if settings.dropUnsynced then
    if plan.toDelete.isEmpty then
      (.ends (.ok (plan.report settings.name creations {} false)), tally.pending 0)
    else (.continues (.deleting plan creations), tally.pending 0)
  else
    (.ends (.ok (plan.report settings.name creations {} (!plan.toDelete.isEmpty))),
      tally.pending plan.toDelete.size)

def withPlan (settings : ClusterSettings) (plan : Plan) (tally : Tally) : Turn × Tally :=
  if plan.toCreate.isEmpty then afterCreating settings plan {} tally
  else (.continues (.creating plan), tally)

/-- What an answer makes of the cycle. An answer that it does not wait for makes nothing. -/
def answered (settings : ClusterSettings) (tally : Tally) : Cycle → AdminAnswer → Turn × Tally
  | .describing tenants desired, .described (.ok bindings) =>
      let found := SortedSet.ofList (onManagedTypes bindings)
      withPlan settings (.ofFound settings tenants desired found) tally
  | .creating plan, .created (.ok creations) =>
      afterCreating settings plan (.ofCreations creations) (tally.countCreations creations)
  | .deleting plan creations, .deleted (.ok deletions) =>
      let removed := plan.toDelete.toList
      let counted := deletions.take removed.length
      (.ends (.ok (plan.report settings.name creations (.ofDeletions removed deletions) false)),
        tally.countDeletions counted)
  | .describing _ _, .described (.error fault) | .creating _, .created (.error fault)
  | .deleting _ _, .deleted (.error fault) => abort fault tally
  | cycle, _ => (.continues cycle, tally)

/-- How many calls the cycle can still make. -/
def callsLeft : Cycle → Nat
  | .describing _ _ => 3
  | .creating _ => 2
  | .deleting _ _ => 1

end Cycle

end BrokerTenancy
