import BrokerTenancy.Settings.Basic
import Mathlib.Data.List.Nodup

/-!
What checked settings promise to the parts that they are handed to.
-/

namespace BrokerTenancy

/-- Settings that were accepted passed the first check and all that follow it. -/
theorem passed_of_refuse_when {condition : Bool} {cause : InvalidSetting} {rest : Outcome Unit}
    (accepted : (do refuseWhen condition cause; rest) = .ok ()) :
    condition = false ∧ rest = .ok () := by
  cases condition with
  | true => simp [refuseWhen, bind, Except.bind] at accepted
  | false => exact ⟨rfl, accepted⟩

/-- A store with checked settings waits to be ready, and reads at least one record at a time. -/
theorem StoreSettings.limits_positive {settings : StoreSettings}
    (valid : settings.validate = .ok ()) :
    0 < settings.limits.initTimeout ∧ 0 < settings.limits.pollRecords := by
  obtain ⟨-, valid⟩ := passed_of_refuse_when valid
  obtain ⟨-, valid⟩ := passed_of_refuse_when valid
  obtain ⟨patient, valid⟩ := passed_of_refuse_when valid
  obtain ⟨-, valid⟩ := passed_of_refuse_when valid
  obtain ⟨polling, -⟩ := passed_of_refuse_when valid
  have waits : settings.initTimeout ≠ 0 := by simpa using patient
  have reads : settings.pollRecords ≠ 0 := by simpa using polling
  exact ⟨Nat.pos_of_ne_zero waits, Nat.pos_of_ne_zero reads⟩

namespace Settings

/-- The last cluster of a name. -/
def lastCluster (settings : Settings) (name : String) : Option ClusterSettings :=
  settings.clusters.reverse.find? fun cluster => cluster.name == name

theorem last_cluster_some {settings : Settings} {name : String} {cluster : ClusterSettings}
    (last : settings.lastCluster name = some cluster) :
    cluster ∈ settings.clusters ∧ cluster.name = name := by
  have same := List.find?_some last
  exact ⟨List.mem_reverse.mp (List.mem_of_find?_eq_some last), beq_iff_eq.mp same⟩

/-- Where no two clusters share a name, every cluster is the last one of its name. -/
theorem last_cluster_of_nodup {settings : Settings}
    (distinct : (settings.clusters.map ClusterSettings.name).Nodup) {cluster : ClusterSettings}
    (member : cluster ∈ settings.clusters) :
    settings.lastCluster cluster.name = some cluster := by
  cases found : settings.lastCluster cluster.name with
  | none =>
      have missing := List.find?_eq_none.mp found cluster (List.mem_reverse.mpr member)
      exact absurd (beq_self_eq_true _) missing
  | some other =>
      obtain ⟨listed, same⟩ := last_cluster_some found
      rw [List.inj_on_of_nodup_map distinct listed member same]

end Settings

end BrokerTenancy
