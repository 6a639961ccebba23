import BrokerTenancy.Acl.Filter
import BrokerTenancy.Fault

/-!
Calls to the administration of a broker and their answers. A call that fails as a whole did not
reach the broker; one that reached it has a result of its own for every item.
-/

namespace BrokerTenancy

inductive AdminCall where
  | describe (filter : BindingFilter)
  | create (bindings : List Binding)
  | delete (filters : List BindingFilter)
  deriving DecidableEq, Repr

/-- A binding that was to be created, and whether it was. -/
abbrev Creation := Binding × Outcome Unit

/-- A filter whose bindings were to be removed, and those that were. -/
abbrev Deletion := BindingFilter × Outcome (List Binding)

inductive AdminAnswer where
  | described (answer : Outcome (List Binding))
  | created (answer : Outcome (List Creation))
  | deleted (answer : Outcome (List Deletion))

/-- The answer of a call that fails as a whole. -/
def AdminCall.failedWith (fault : Fault) : AdminCall → AdminAnswer
  | .describe _ => .described (.error fault)
  | .create _ => .created (.error fault)
  | .delete _ => .deleted (.error fault)

end BrokerTenancy
