import BrokerTenancy.Cycle.Report
import BrokerTenancy.Json.Basic

/-!
Reports as JSON. Bindings stand in them by their shown text.
-/

namespace BrokerTenancy

def Binding.shownJson (bindings : List Binding) : Json :=
  .array (bindings.map fun binding => .ofText binding.shown)

def SkipReason.name : SkipReason → String
  | .managementDisabled => "AclManagementDisabled"
  | .cycleInProgress => "CycleInProgress"

def Report.toJson (report : Report) : Json :=
  .record [
    ("cluster", .ofText report.cluster),
    ("skipped", .ofOption (fun reason => .ofText reason.name) report.skipped),
    ("desired", .ofNat report.desired),
    ("actual", .ofNat report.actual),
    ("to_create", Binding.shownJson report.toCreate),
    ("to_delete", Binding.shownJson report.toDelete),
    ("created", Binding.shownJson report.created),
    ("deleted", Binding.shownJson report.deleted),
    ("failed", Binding.shownJson report.failed),
    ("withheld", .boolean report.withheld),
    ("out_of_scope", Binding.shownJson report.outOfScope),
    ("converged", .boolean report.isConverged)]

end BrokerTenancy
