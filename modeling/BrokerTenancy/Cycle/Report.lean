import BrokerTenancy.Broker.Call
import BrokerTenancy.Cycle.Plan

/-!
What a cycle tells about itself.
-/

namespace BrokerTenancy

/-- Why a trigger did not start a cycle. -/
inductive SkipReason where
  /-- The bindings of the cluster are not managed. -/
  | managementDisabled
  /-- Another cycle of the cluster was under way. -/
  | cycleInProgress
  deriving DecidableEq, Inhabited, Repr

structure Report where
  cluster : String
  skipped : Option SkipReason := none
  desired : Nat := 0
  /-- How many bindings the cycle looked at. -/
  actual : Nat := 0
  toCreate : List Binding := []
  toDelete : List Binding := []
  created : List Binding := []
  deleted : List Binding := []
  failed : List Binding := []
  /-- There were bindings to remove, and removing is disabled. -/
  withheld : Bool := false
  outOfScope : List Binding := []
  deriving DecidableEq, Inhabited

/-- The state at the start of the cycle was the desired one. -/
def Report.isConverged (report : Report) : Bool :=
  report.skipped.isNone && report.toCreate.isEmpty && report.toDelete.isEmpty

/-- The bindings of a call by what became of them. -/
structure Batch where
  succeeded : List Binding := []
  failed : List Binding := []
  deriving DecidableEq, Inhabited

namespace Batch

def ofCreations (creations : List Creation) : Batch where
  succeeded := creations.filterMap fun creation =>
    match creation.2 with
    | .ok _ => some creation.1
    | .error _ => none
  failed := creations.filterMap fun creation =>
    match creation.2 with
    | .ok _ => none
    | .error _ => some creation.1

/-- What became of bindings each of which had a filter of its own, in the same order. -/
def ofDeletions (bindings : List Binding) (deletions : List Deletion) : Batch where
  succeeded := (bindings.zip deletions).flatMap fun (_, _, result) =>
    match result with
    | .ok removed => removed
    | .error _ => []
  failed := (bindings.zip deletions).filterMap fun (binding, _, result) =>
    match result with
    | .ok _ => none
    | .error _ => some binding

end Batch

/-- The report on a plan that was carried out. -/
def Plan.report (plan : Plan) (cluster : String) (creations deletions : Batch)
    (withheld : Bool) : Report where
  cluster
  desired := plan.desired.size
  actual := plan.actual.size
  toCreate := plan.toCreate.toList
  toDelete := plan.toDelete.toList
  created := creations.succeeded
  deleted := deletions.succeeded
  failed := creations.failed ++ deletions.failed
  withheld
  outOfScope := plan.outOfScope.toList

end BrokerTenancy
