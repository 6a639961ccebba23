import BrokerTenancy.Broker.Basic
import BrokerTenancy.Cycle.Managed

/-!
A managed cluster with the broker in memory that it administers. Every call is bounded: one that
would take longer than the bound does not reach the broker. Besides cycles there are targeted
removals, which take away the bindings of one entry or stream at once.
-/

namespace BrokerTenancy

structure Site where
  managed : ManagedCluster
  broker : Broker
  tally : Tally := {}
  /-- The time that the calls have taken so far, in milliseconds. -/
  clock : Nat := 0

/-- Asks a broker for its bindings of the managed types, within a bound. -/
def Broker.inspect (broker : Broker) (bound : Nat) : Broker × Outcome (List Binding) :=
  match broker.performWithin bound (.brokerTimeout broker.cluster bound) (.describe .any) with
  | (broker, .described answer) => (broker, answer.map onManagedTypes)
  | (broker, _) => (broker, .ok [])

namespace Site

def exchange (site : Site) (call : AdminCall) : Site × AdminAnswer :=
  let bound := site.managed.timeout
  let (broker, answer) := site.broker.performWithin bound site.managed.timedOut call
  ({ site with broker, clock := site.clock + min site.broker.latency bound }, answer)

/-- Whether calls end at once, because the broker answers at once or nobody waits for it. -/
def endsCallsAtOnce (site : Site) : Bool := min site.broker.latency site.managed.timeout == 0

/-- Triggers a cycle. Without a result, a cycle has started. -/
def trigger (site : Site) (query : ResourceQuery) : Site × Option (Outcome Report) :=
  let (managed, tally, result) := site.managed.trigger query site.tally
  ({ site with managed, tally }, result)

/-- Makes the call that the cycle under way waits for. With a result, the cycle has ended. -/
def advance (site : Site) : Site × Option (Outcome Report) :=
  match site.managed.cycle with
  | none => (site, none)
  | some cycle =>
      let (asked, answer) := site.exchange cycle.call
      let (managed, tally, result) := asked.managed.answered answer asked.tally
      ({ asked with managed, tally }, result)

/-- Makes up to so many calls of the cycle under way. -/
def advanceFor : Nat → Site → Site × Option (Outcome Report)
  | 0, site => (site, none)
  | calls + 1, site =>
      match site.advance with
      | (site, none) => advanceFor calls site
      | ended => ended

/-- Makes the calls of the cycle under way until it ends. -/
def finish (site : Site) : Site × Option (Outcome Report) :=
  advanceFor (site.managed.cycle.elim 0 Cycle.callsLeft) site

/-- Runs one cycle from its trigger to its end. -/
def run (site : Site) (query : ResourceQuery) : Site × Option (Outcome Report) :=
  match site.trigger query with
  | (site, none) => site.finish
  | ended => ended

/-- Removes bindings with a filter for each, and gives those that were removed. Without bindings
there is no call. -/
def remove (site : Site) (bindings : List Binding) : Site × Outcome (List Binding) :=
  if bindings.isEmpty then (site, .ok [])
  else
    let (site, answer) := site.exchange (Cycle.removing bindings)
    match answer with
    | .deleted (.ok deletions) =>
        let counted := deletions.take bindings.length
        ({ site with tally := site.tally.countDeletions counted },
          .ok (Batch.ofDeletions bindings deletions).succeeded)
    | .deleted (.error fault) => (site, .error fault)
    | _ => (site, .ok [])

/-- Removes the bindings of an entry for a tenant. -/
def removeEntry (site : Site) (tenant : Tenant) (entry : AccessControlEntry) :
    Site × Outcome (List Binding) :=
  match expandEntry entry tenant with
  | .error fault => (site, .error fault)
  | .ok bindings => site.remove bindings

/-- Removes the bindings of a stream of a tenant. -/
def removeStream (site : Site) (tenant : Tenant) (stream : Stream) :
    Site × Outcome (List Binding) :=
  site.remove (expandStream stream tenant)

end Site

end BrokerTenancy
