import BrokerTenancy.Cycle.Schedule

/-!
All managed clusters, with their brokers and counters by the name of the cluster. Clusters share
nothing but the stored resources.
-/

namespace BrokerTenancy

structure Fleet where
  managed : SortedMap String ManagedCluster := .empty
  brokers : SortedMap String Broker := .empty
  tallies : SortedMap String Tally := .empty

namespace Fleet

/-- The managed clusters of some settings, each admitted first; of a repeated name the last one
stays. -/
def managedBy (settings : Settings) (admission : ClusterSettings → Outcome Unit) :
    Outcome (SortedMap String ManagedCluster) := do
  let entries ← settings.clusters.mapM fun cluster => do
    admission cluster
    return (cluster.name, ManagedCluster.ofSettings cluster settings.cycle)
  return .ofList entries

/-- The names of the managed clusters, in order. -/
def clusterNames (fleet : Fleet) : List String := fleet.managed.keys

/-- The managed cluster of a name with its broker and its counters. -/
def site (fleet : Fleet) (name : String) : Outcome Site :=
  match fleet.managed.find? name with
  | none => .error (.notFound (.managedCluster name))
  | some managed => .ok {
      managed
      broker := (fleet.brokers.find? name).getD { cluster := name }
      tally := (fleet.tallies.find? name).getD {} }

def withSite (fleet : Fleet) (name : String) (site : Site) : Fleet where
  managed := fleet.managed.insert name site.managed
  brokers := fleet.brokers.insert name site.broker
  tallies := fleet.tallies.insert name site.tally

def atSite {Value : Type} (fleet : Fleet) (name : String)
    (act : Site → Site × Outcome Value) : Fleet × Outcome Value :=
  match fleet.site name with
  | .error fault => (fleet, .error fault)
  | .ok site =>
      let (site, result) := act site
      (fleet.withSite name site, result)

/-- Triggers a cycle at a cluster, or lets one go on there, in the given way. -/
def cycleAt (fleet : Fleet) (name : String) (act : Site → Site × Option (Outcome Report)) :
    Fleet × Option (Outcome Report) :=
  match fleet.site name with
  | .error fault => (fleet, some (.error fault))
  | .ok site =>
      let (site, result) := act site
      (fleet.withSite name site, result)

/-- Runs a cycle at a cluster to its end. -/
def run (fleet : Fleet) (query : ResourceQuery) (name : String) :
    Fleet × Option (Outcome Report) :=
  fleet.cycleAt name fun site => site.run query

/-- Removes the bindings of an entry at the tenant's cluster. -/
def removeEntry (fleet : Fleet) (tenant : Tenant) (entry : AccessControlEntry) :
    Fleet × Outcome (List Binding) :=
  fleet.atSite tenant.cluster fun site => site.removeEntry tenant entry

/-- Removes the bindings of a stream at the tenant's cluster. -/
def removeStream (fleet : Fleet) (tenant : Tenant) (stream : Stream) :
    Fleet × Outcome (List Binding) :=
  fleet.atSite tenant.cluster fun site => site.removeStream tenant stream

/-- Triggers a cycle, and lets it run to its end at once if its calls end at once. Without a result,
the cycle waits for its broker. -/
def triggerAt (fleet : Fleet) (query : ResourceQuery) (name : String) :
    Fleet × Option (Outcome Report) :=
  fleet.cycleAt name fun site =>
    if site.endsCallsAtOnce then site.run query else site.trigger query

/-- Lets the cycle that waits at a cluster run to its end. -/
def finishAt (fleet : Fleet) (name : String) : Fleet × Option (Outcome Report) :=
  fleet.cycleAt name Site.finish

/-- Triggers cycles one after the other while those before them may still wait for their brokers;
the results are in the order of the triggers. -/
def runTogether (fleet : Fleet) (query : ResourceQuery) :
    List String → Fleet × List (Option (Outcome Report))
  | [] => (fleet, [])
  | name :: rest =>
      match fleet.triggerAt query name with
      | (fleet, some result) =>
          let (fleet, results) := fleet.runTogether query rest
          (fleet, some result :: results)
      | (fleet, none) =>
          let (fleet, results) := fleet.runTogether query rest
          let (fleet, result) := fleet.finishAt name
          (fleet, result :: results)

/-- The names of the clusters that get a schedule. -/
def scheduled (fleet : Fleet) : List String :=
  (fleet.managed.toList.filter fun entry => entry.2.settings.manageAcls).map (·.1)

/-- Runs the schedules of all clusters for so many milliseconds. -/
def runSchedules (fleet : Fleet) (query : ResourceQuery) (settings : CycleSettings)
    (milliseconds : Nat) : Fleet :=
  fleet.scheduled.foldl (fun fleet name =>
    match fleet.site name with
    | .error _ => fleet
    | .ok site =>
        fleet.withSite name (Schedule.runFor query settings milliseconds site)) fleet

end Fleet

end BrokerTenancy
