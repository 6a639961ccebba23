import BrokerTenancy.Cycle.Fleet
import BrokerTenancy.Proofs.Catalog.Desired
import BrokerTenancy.Proofs.Settings.Validation
import BrokerTenancy.Proofs.Sorted.Map

/-!
The clusters of a fleet beside each other. The settings say which clusters there are, the last one
of a repeated name counting, and which of them get a schedule. What happens at one cluster is told
by its site alone and leaves the sites of the others as they are.
-/

namespace BrokerTenancy

/-- A list that is worked through without a fault, when what each item can give is known. -/
theorem Outcome.map_eq_of_each {Item Value : Type} {work : Item → Outcome Value}
    {items : List Item} {values : List Value} {value : Item → Value}
    (done : items.mapM work = .ok values)
    (each : ∀ item found, work item = .ok found → found = value item) :
    values = items.map value := by
  have worked := map_eq_ok.mp done
  induction items generalizing values with
  | nil => exact List.map_eq_nil_iff.mp worked.symm
  | cons item rest induction =>
      cases values with
      | nil => cases worked
      | cons first others =>
          obtain ⟨atHead, atRest⟩ := List.cons.inj worked
          rw [each item first atHead, induction (map_eq_ok.mpr atRest) atRest, List.map_cons]

namespace Fleet

variable {fleet : Fleet} {name other : String} {site : Site}

theorem find_of_site (found : fleet.site name = .ok site) :
    fleet.managed.find? name = some site.managed := by
  unfold Fleet.site at found
  split at found
  · cases found
  · next managed listed =>
      cases found
      exact listed

theorem site_of_find {managed : ManagedCluster} (listed : fleet.managed.find? name = some managed) :
    ∃ site, fleet.site name = .ok site ∧ site.managed = managed := by
  simp only [Fleet.site, listed]
  exact ⟨_, rfl, rfl⟩

theorem clock_of_site (found : fleet.site name = .ok site) : site.clock = 0 := by
  unfold Fleet.site at found
  split at found
  · cases found
  · cases found
    rfl

theorem site_with_site (fleet : Fleet) (name other : String) (site : Site) :
    (fleet.withSite other site).site name =
      if name = other then .ok { site with clock := 0 } else fleet.site name := by
  by_cases same : name = other
  · simp [Fleet.site, withSite, SortedMap.find_insert, same]
  · simp [Fleet.site, withSite, SortedMap.find_insert, same]

/-- The fleet after something was done at the site of a cluster, if there is such a cluster. -/
def update (fleet : Fleet) (name : String) (act : Site → Site) : Fleet :=
  match fleet.site name with
  | .error _ => fleet
  | .ok site => fleet.withSite name (act site)

theorem site_update (fleet : Fleet) (name other : String) (act : Site → Site) :
    (fleet.update other act).site name =
      if name = other then (fleet.site name).map fun site => { act site with clock := 0 }
      else fleet.site name := by
  unfold update
  by_cases same : name = other
  · subst same
    rw [if_pos rfl]
    cases found : fleet.site name with
    | error fault => exact found
    | ok site =>
        rw [site_with_site, if_pos rfl]
        rfl
  · rw [if_neg same]
    cases fleet.site other with
    | error fault => rfl
    | ok site => rw [site_with_site, if_neg same]

/-- What leaves the site of a cluster as it is leaves it as it is in the fleet. -/
theorem update_still {act : Site → Site} (found : fleet.site name = .ok site)
    (still : name = other → act site = site) :
    (fleet.update other act).site name = .ok site := by
  rw [site_update]
  split
  · next same =>
      have unchanged : { site with clock := 0 } = site := by rw [← clock_of_site found]
      rw [found, Except.map, still same, unchanged]
  · exact found

theorem at_site_eq {Value : Type} (fleet : Fleet) (name : String)
    (act : Site → Site × Outcome Value) :
    (fleet.atSite name act).1 = fleet.update name fun site => (act site).1 := by
  unfold atSite update
  cases fleet.site name <;> rfl

theorem cycle_at_eq (fleet : Fleet) (name : String)
    (act : Site → Site × Option (Outcome Report)) :
    (fleet.cycleAt name act).1 = fleet.update name fun site => (act site).1 := by
  unfold cycleAt update
  cases fleet.site name <;> rfl

theorem run_schedules_eq (fleet : Fleet) (query : ResourceQuery) (settings : CycleSettings)
    (milliseconds : Nat) :
    fleet.runSchedules query settings milliseconds =
      fleet.scheduled.foldl
        (fun fleet name => fleet.update name (Schedule.runFor query settings milliseconds))
        fleet := rfl

/-! ## The schedules -/

theorem mem_scheduled :
    name ∈ fleet.scheduled ↔
      ∃ managed, fleet.managed.find? name = some managed ∧
        managed.settings.manageAcls = true := by
  simp only [scheduled, List.mem_map, List.mem_filter, Prod.exists, SortedMap.mem_to_list]
  constructor
  · rintro ⟨_, managed, ⟨listed, manages⟩, rfl⟩
    exact ⟨managed, listed, manages⟩
  · rintro ⟨managed, listed, manages⟩
    exact ⟨name, managed, ⟨listed, manages⟩, rfl⟩

theorem scheduled_nodup (fleet : Fleet) : fleet.scheduled.Nodup := by
  have sublist : fleet.scheduled.Sublist fleet.managed.keys := List.filter_sublist.map _
  exact sublist.nodup fleet.managed.keys_nodup

/-- A fleet is made from the settings by which each cluster is managed. -/
structure Follows (fleet : Fleet) (settings : Settings) : Prop where
  managed : ∀ name, fleet.managed.find? name =
    (settings.lastCluster name).map fun cluster => .ofSettings cluster settings.cycle

variable {settings : Settings}

theorem follows_of_managed {admission : ClusterSettings → Outcome Unit}
    (built : managedBy settings admission = .ok fleet.managed) : fleet.Follows settings := by
  constructor
  intro name
  rw [managedBy, Outcome.bind_eq_ok] at built
  obtain ⟨entries, made, listed⟩ := built
  have same : entries = settings.clusters.map fun cluster =>
      (cluster.name, ManagedCluster.ofSettings cluster settings.cycle) := by
    apply Outcome.map_eq_of_each made
    intro cluster entry admitted
    obtain ⟨-, -, made⟩ := Outcome.bind_eq_ok.mp admitted
    exact (Outcome.pure_eq_ok.mp made).symm
  rw [← Outcome.pure_eq_ok.mp listed, SortedMap.find_of_list, same, ← List.map_reverse,
    SortedMap.lookup_map]
  rfl

theorem Follows.configured (follows : fleet.Follows settings) (found : fleet.site name = .ok site) :
    ∃ cluster, settings.lastCluster name = some cluster ∧
      site.managed = .ofSettings cluster settings.cycle := by
  have listed := find_of_site found
  rw [follows.managed, Option.map_eq_some_iff] at listed
  obtain ⟨cluster, last, same⟩ := listed
  exact ⟨cluster, last, same.symm⟩

/-- The clusters that get a schedule are those that the settings have managed. -/
theorem Follows.mem_scheduled (follows : fleet.Follows settings) :
    name ∈ fleet.scheduled ↔
      ∃ cluster, settings.lastCluster name = some cluster ∧ cluster.manageAcls = true := by
  rw [Fleet.mem_scheduled, follows.managed]
  simp only [Option.map_eq_some_iff]
  constructor
  · rintro ⟨_, ⟨cluster, last, rfl⟩, manages⟩
    exact ⟨cluster, last, manages⟩
  · rintro ⟨cluster, last, manages⟩
    exact ⟨_, ⟨cluster, last, rfl⟩, manages⟩

/-- A cluster whose bindings are not managed, and one whose bindings are. -/
def mixedSettings : Settings where
  clusters := [{ name := "east", manageAcls := false }, { name := "west", manageAcls := true }]

def mixedFleet : Fleet where
  managed := (Fleet.managedBy mixedSettings fun _ => .ok ()).toOption.getD .empty

theorem mixed_fleet_follows : mixedFleet.Follows mixedSettings :=
  @follows_of_managed mixedFleet mixedSettings (fun _ => .ok ()) rfl

end Fleet

end BrokerTenancy
