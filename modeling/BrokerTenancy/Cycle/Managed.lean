import BrokerTenancy.Cycle.Basic

/-!
A managed cluster and its cycles, of which at most one is under way. A trigger that comes while one
is under way is skipped and changes nothing; a cycle that ends, in whatever way, makes room for the
next.
-/

namespace BrokerTenancy

structure ManagedCluster where
  settings : ClusterSettings
  /-- The bound on a broker call, in milliseconds. -/
  timeout : Nat
  cycle : Option Cycle := none

namespace ManagedCluster

/-- The managed cluster of some settings. -/
def ofSettings (settings : ClusterSettings) (cycle : CycleSettings) : ManagedCluster where
  settings
  timeout := settings.effectiveTimeout cycle

/-- The fault of a call that took too long. -/
def timedOut (managed : ManagedCluster) : Fault :=
  .brokerTimeout managed.settings.name managed.timeout

def skip (managed : ManagedCluster) (reason : SkipReason) : Report :=
  { cluster := managed.settings.name, skipped := some reason }

/-- The cluster, its counters and the result of the cycle that a turn ends. -/
def take (managed : ManagedCluster) : Turn × Tally →
    ManagedCluster × Tally × Option (Outcome Report)
  | (.continues cycle, tally) => ({ managed with cycle := some cycle }, tally, none)
  | (.ends result, tally) => ({ managed with cycle := none }, tally, some result)

/-- Triggers a cycle. Without a result, a cycle has started. -/
def trigger (managed : ManagedCluster) (query : ResourceQuery) (tally : Tally) :
    ManagedCluster × Tally × Option (Outcome Report) :=
  if !managed.settings.manageAcls then
    (managed, tally, some (.ok (managed.skip .managementDisabled)))
  else
    match managed.cycle with
    | some _ => (managed, tally, some (.ok (managed.skip .cycleInProgress)))
    | none =>
        match Cycle.begin managed.settings query with
        | .error fault => managed.take (Cycle.abort fault tally.cycleStarted)
        | .ok cycle => managed.take (.continues cycle, tally.cycleStarted)

/-- Hands an answer to the cycle under way. -/
def answered (managed : ManagedCluster) (answer : AdminAnswer) (tally : Tally) :
    ManagedCluster × Tally × Option (Outcome Report) :=
  match managed.cycle with
  | none => (managed, tally, none)
  | some cycle => managed.take (cycle.answered managed.settings tally answer)

end ManagedCluster

end BrokerTenancy
