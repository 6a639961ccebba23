import BrokerTenancy.Store.Basic

/-!
Writing to a store. A write appends one record to the log and then waits until the loop has taken
it, or until the store stops, or until its time is over.
-/

namespace BrokerTenancy

/-- A write under way. -/
inductive Write where
  /-- The log has not answered the append. -/
  | appending
  /-- The record has this offset and the loop has not taken it. -/
  | applying (offset : Nat)
  | finished (result : Outcome Unit)
  deriving DecidableEq

namespace Write

variable {Value : Type}

/-- Begins a write; it fails at once if the store does not serve. -/
def begin (store : Store Value) : Write :=
  match store.ensureServing with
  | .ok _ => .appending
  | .error fault => .finished (.error fault)

/-- The fault of a write whose append failed. -/
def appendFault (name : String) : Fault → Fault
  | .write store cause => .write store cause
  | fault => .write name (.other fault.message)

def logAnswered (store : Store Value) (answer : Outcome Nat) : Write → Write
  | .appending =>
      match answer with
      | .ok offset => .applying offset
      | .error fault => .finished (.error (appendFault store.name fault))
  | write => write

/-- The caller looks at the published progress. -/
def observe (store : Store Value) : Write → Write
  | .applying offset =>
      match store.status.fatal with
      | some cause => .finished (.error (.stopped store.name cause))
      | none => if offset < store.status.applied then .finished (.ok ()) else .applying offset
  | write => write

/-- The result of a write whose time is over. -/
def atDeadline (store : Store Value) : Write → Outcome Unit
  | .appending => .error (.write store.name .appendTimedOut)
  | .applying offset => .error (.write store.name (.notApplied offset store.limits.writeTimeout))
  | .finished result => result

/-- The time of the write is over. -/
def expire (store : Store Value) (write : Write) : Write := .finished (write.atDeadline store)

/-- The result for a caller who looks one last time at the deadline. -/
def result (store : Store Value) (write : Write) : Outcome Unit :=
  (write.observe store).atDeadline store

end Write

end BrokerTenancy
