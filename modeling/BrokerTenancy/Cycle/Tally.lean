import BrokerTenancy.Broker.Call

/-!
The counters of a cluster. A counter exists from the moment it is first touched.
-/

namespace BrokerTenancy

structure Tally where
  cycles : Option Nat := none
  aborted : Option Nat := none
  created : Option Nat := none
  deleted : Option Nat := none
  /-- Bindings that were not created or removed. -/
  failed : Option Nat := none
  /-- Bindings that are kept because removing is disabled. -/
  pendingDelete : Option Nat := none
  deriving DecidableEq, Inhabited, Repr

namespace Tally

/-- The counter after it went up. -/
def raised (counter : Option Nat) (amount : Nat) : Option Nat := some (counter.getD 0 + amount)

def cycleStarted (tally : Tally) : Tally := { tally with cycles := raised tally.cycles 1 }

/-- How many bindings are pending is not known after an aborted cycle. -/
def cycleAborted (tally : Tally) : Tally :=
  { tally with aborted := raised tally.aborted 1, pendingDelete := some 0 }

def pending (tally : Tally) (count : Nat) : Tally := { tally with pendingDelete := some count }

def countCreation (tally : Tally) (creation : Creation) : Tally :=
  match creation.2 with
  | .ok _ => { tally with created := raised tally.created 1 }
  | .error _ => { tally with failed := raised tally.failed 1 }

def countDeletion (tally : Tally) (deletion : Deletion) : Tally :=
  match deletion.2 with
  | .ok removed => { tally with deleted := raised tally.deleted removed.length }
  | .error _ => { tally with failed := raised tally.failed 1 }

def countCreations (tally : Tally) (creations : List Creation) : Tally :=
  creations.foldl countCreation tally

def countDeletions (tally : Tally) (deletions : List Deletion) : Tally :=
  deletions.foldl countDeletion tally

/-- The counters that exist, by name. -/
def named (tally : Tally) : List (String × Nat) :=
  [("nsplane_reconcile_cycles_total", tally.cycles),
    ("nsplane_reconcile_aborted_total", tally.aborted),
    ("nsplane_acl_created_total", tally.created),
    ("nsplane_acl_deleted_total", tally.deleted),
    ("nsplane_acl_failed_total", tally.failed),
    ("nsplane_acl_pending_delete", tally.pendingDelete)].filterMap
      fun entry => entry.2.map (entry.1, ·)

end Tally

end BrokerTenancy
