import BrokerTenancy.Proofs.Cycle.Upkeep

/-!
One cycle that the broker carries out in full brings the bindings that it looks at to the desired
ones, whatever happened before; the next cycle finds nothing left to do and only asks the broker for
its bindings. Where removing is disabled, the next cycle finds the same bindings to remove and keeps
them. This rests on the scope: a cycle looks at every binding that it may create, so it finds what
an earlier one created.
-/

namespace BrokerTenancy

namespace Undertaking

variable {undertaking : Undertaking} {catalog : Catalog}

theorem report_failed :
    undertaking.report.failed =
      undertaking.plan.toCreate.toList.filter (· ∈ undertaking.start.refused) ++
        (if undertaking.settings.dropUnsynced then
          undertaking.plan.toDelete.toList.filter (· ∈ undertaking.start.refused)
        else []) := by
  unfold report Plan.report creations deletions
  split <;> rfl

/-- The broker refused none of the bindings that a cycle had for it. -/
structure Clean (undertaking : Undertaking) : Prop where
  creations : undertaking.plan.toCreate.members \ undertaking.start.rejects =
    undertaking.plan.toCreate.members
  deletions : undertaking.settings.dropUnsynced = true →
    undertaking.plan.toDelete.members \ undertaking.start.rejects =
      undertaking.plan.toDelete.members

theorem clean_of_failed (clean : undertaking.report.failed = []) : undertaking.Clean := by
  have accepted {wanted : BindingSet}
      (none : wanted.toList.filter (· ∈ undertaking.start.refused) = []) :
      wanted.members \ undertaking.start.rejects = wanted.members := by
    apply sdiff_eq_left.mpr
    rw [Set.disjoint_left]
    intro binding member rejected
    exact List.filter_eq_nil_iff.mp none binding member (decide_eq_true rejected)
  rw [report_failed, List.append_eq_nil_iff] at clean
  refine ⟨accepted clean.1, ?_⟩
  intro drops
  rw [if_pos drops] at clean
  exact accepted clean.2

theorem Clean.enlarged (clean : undertaking.Clean) :
    undertaking.enlarged =
      undertaking.start.bindings.members ∪ undertaking.plan.toCreate.members := by
  rw [Undertaking.enlarged, clean.creations]

/-- What a cycle leaves of the bindings that it looks at: the desired ones and, where removing is
disabled, those that were there. -/
theorem Follows.remaining_in_scope (follows : undertaking.Follows catalog)
    (clean : undertaking.Clean) :
    catalog.inScope undertaking.settings undertaking.remaining =
      if undertaking.settings.dropUnsynced then catalog.desired undertaking.settings.name
      else catalog.inScope undertaking.settings undertaking.start.bindings.members ∪
        catalog.desired undertaking.settings.name := by
  unfold remaining
  by_cases drops : undertaking.settings.dropUnsynced = true
  · rw [if_pos drops, if_pos drops, clean.deletions drops, clean.enlarged, follows.to_create,
      follows.to_delete]
    ext binding
    constructor
    · rintro ⟨⟨held | ⟨asked, -⟩, kept⟩, manages⟩
      -- What is in scope and not desired was to be removed, and nothing was refused.
      · by_contra unasked
        exact kept ⟨⟨held, manages⟩, unasked⟩
      · exact asked
    · intro asked
      refine ⟨⟨?_, fun unwanted => unwanted.2 asked⟩, Catalog.manages_of_desired _ asked⟩
      by_cases looked : binding ∈
          catalog.inScope undertaking.settings undertaking.start.bindings.members
      · exact .inl looked.1
      · exact .inr ⟨asked, looked⟩
  · rw [if_neg drops, if_neg drops, clean.enlarged, follows.to_create]
    ext binding
    constructor
    · rintro ⟨held | ⟨asked, -⟩, manages⟩
      · exact .inl ⟨held, manages⟩
      · exact .inr asked
    · rintro (⟨held, manages⟩ | asked)
      · exact ⟨.inl held, manages⟩
      · refine ⟨?_, Catalog.manages_of_desired _ asked⟩
        by_cases looked : binding ∈
            catalog.inScope undertaking.settings undertaking.start.bindings.members
        · exact .inl looked.1
        · exact .inr ⟨asked, looked⟩

/-- A cycle that starts where another ended, with resources that ask for the same. -/
structure Next (first second : Undertaking) : Prop where
  settings : second.settings = first.settings
  start : second.start.bindings.members = first.remaining
  agrees : ∃ earlier later : Catalog, first.Follows earlier ∧ second.Follows later ∧
    later.Agrees earlier first.settings

variable {first second : Undertaking}

theorem Next.to_create (next : first.Next second) (clean : first.Clean) :
    second.plan.toCreate.isEmpty = true := by
  obtain ⟨earlier, later, follows, followed, agrees⟩ := next.agrees
  -- The first cycle left all that is desired, and the second one looks at all of it.
  apply SortedSet.is_empty_of_members
  rw [followed.to_create, next.settings, next.start, agrees.in_scope, agrees.desired,
    follows.remaining_in_scope clean, Set.sdiff_eq_empty]
  split
  · exact subset_rfl
  · exact Set.subset_union_right

theorem Next.to_delete (next : first.Next second) (clean : first.Clean) :
    if first.settings.dropUnsynced then second.plan.toDelete.isEmpty = true
    else second.plan.toDelete = first.plan.toDelete := by
  obtain ⟨earlier, later, follows, followed, agrees⟩ := next.agrees
  have removing := followed.to_delete
  rw [next.settings, next.start, agrees.in_scope, agrees.desired,
    follows.remaining_in_scope clean] at removing
  split
  · next drops =>
    apply SortedSet.is_empty_of_members
    rw [removing, if_pos drops, sdiff_self]
    rfl
  · next keeps =>
    apply SortedSet.eq_of_members
    rw [removing, if_neg keeps, Set.union_sdiff_right, follows.to_delete]

theorem Next.kept (next : first.Next second) (clean : first.Clean) :
    second.settings.dropUnsynced = true → second.plan.toDelete.isEmpty = true := by
  intro drops
  have removing := next.to_delete clean
  rw [next.settings] at drops
  rwa [if_pos drops] at removing

/-- The next report finds nothing missing, and tells of what the first cycle had to keep. -/
theorem Next.report (next : first.Next second) (clean : first.Clean) :
    second.report.toCreate = [] ∧
      (first.settings.dropUnsynced = true → second.report.isConverged = true) ∧
      (first.settings.dropUnsynced = false →
        second.report.toDelete = first.report.toDelete ∧ second.report.deleted = [] ∧
          second.report.withheld = !first.report.toDelete.isEmpty) := by
  have complete : second.report.toCreate = [] :=
    (SortedSet.is_empty_iff _).mp (next.to_create clean)
  refine ⟨complete, ?_, ?_⟩
  · intro drops
    rw [← next.settings] at drops
    have kept : second.report.toDelete = [] :=
      (SortedSet.is_empty_iff _).mp (next.kept clean drops)
    rw [Report.isConverged, complete, kept]
    rfl
  · intro keeps
    have removing := next.to_delete clean
    rw [keeps, if_neg Bool.false_ne_true] at removing
    have disabled : second.settings.dropUnsynced = false := by rw [next.settings, keeps]
    have unsynced : second.report.toDelete = first.report.toDelete :=
      congrArg SortedSet.toList removing
    refine ⟨unsynced, ?_, ?_⟩
    · simp only [Undertaking.report, Plan.report, Undertaking.deletions, disabled,
        Bool.false_eq_true, if_false]
    · rw [← unsynced]
      simp only [Undertaking.report, Plan.report, disabled, Bool.not_false, Bool.true_and]
      rfl

/-- A cycle ends as soon as it finds nothing that it is to change. -/
theorem answered_quiet (tally : Tally) (complete : undertaking.plan.toCreate.isEmpty = true)
    (kept : undertaking.settings.dropUnsynced = true →
      undertaking.plan.toDelete.isEmpty = true) :
    ∃ counted, (Cycle.describing undertaking.tenants undertaking.desired).answered
        undertaking.settings tally (.described (.ok undertaking.start.bindings.toList)) =
      (.ends (.ok undertaking.report), counted) := by
  change ∃ counted, Cycle.withPlan undertaking.settings undertaking.plan tally = _
  have ended : ∃ result counted,
      Cycle.withPlan undertaking.settings undertaking.plan tally = (.ends result, counted) := by
    unfold Cycle.withPlan Cycle.afterCreating
    rw [if_pos complete]
    split
    · next drops =>
      rw [if_pos (kept drops)]
      exact ⟨_, _, rfl⟩
    · exact ⟨_, _, rfl⟩
  obtain ⟨result, counted, ends⟩ := ended
  have fits : undertaking.Fits undertaking.start 3
      (Cycle.withPlan undertaking.settings undertaking.plan tally).1 := fits_with_plan tally rfl
  rw [ends] at fits
  exact ⟨counted, by rw [ends, fits.1]⟩

end Undertaking

namespace Site

theorem advance_quiet {undertaking : Undertaking} {site : Site}
    (underway : undertaking.Underway site
      (.describing undertaking.tenants undertaking.desired))
    (complete : undertaking.plan.toCreate.isEmpty = true)
    (kept : undertaking.settings.dropUnsynced = true →
      undertaking.plan.toDelete.isEmpty = true) :
    ∃ after, site.advance = (after, some (.ok undertaking.report)) ∧
      after.broker = site.broker.recordCall (.describe .any) := by
  obtain ⟨clock, exchanged⟩ := exchange_in_time underway.inTime (.describe .any)
  obtain ⟨counted, ended⟩ := Undertaking.answered_quiet site.tally complete kept
  rw [Broker.perform_describe underway.available, underway.stage.2.2] at exchanged
  simp only [advance, underway.running, Cycle.call, exchanged, ManagedCluster.answered,
    underway.settings, ended, ManagedCluster.take]
  exact ⟨_, rfl, rfl⟩

/-- A cycle at a site was carried out from its beginning to its end. -/
structure CarriesOut (site : Site) (catalog : Catalog) (undertaking : Undertaking)
    (after : Site) : Prop where
  settings : undertaking.settings = site.managed.settings
  start : undertaking.start = site.broker
  follows : undertaking.Follows catalog
  ran : site.run catalog.query = (after, some (.ok undertaking.report))
  remaining : after.broker.bindings.members = undertaking.remaining
  keeps : site.Keeps after
  idle : after.managed.cycle = none
  /-- With nothing to change, only one call is made. -/
  quiet : undertaking.plan.toCreate.isEmpty = true →
    (undertaking.settings.dropUnsynced = true → undertaking.plan.toDelete.isEmpty = true) →
      after.broker = site.broker.recordCall (.describe .any)

theorem carries_out {site : Site} {catalog : Catalog}
    (manages : site.managed.settings.manageAcls = true) (idle : site.managed.cycle = none)
    (serves : catalog.Serves) (available : site.broker.available = true)
    (inTime : site.broker.latency ≤ site.managed.timeout) :
    ∃ undertaking after, site.CarriesOut catalog undertaking after := by
  obtain ⟨cycle, begun⟩ := Cycle.begin_of_serves site.managed.settings serves
  obtain ⟨tenants, desired, rfl, hosted, asked⟩ := Cycle.begin_ok begun
  obtain ⟨after, ran, remaining⟩ := run_carries_out manages idle begun available inTime
  obtain ⟨keeps, ended⟩ := run_keeps manages idle begun
  rw [ran] at keeps ended
  refine ⟨⟨site.managed.settings, tenants, desired, site.broker⟩, after, ?_⟩
  exact {
    settings := rfl
    start := rfl
    follows := ⟨hosted, asked⟩
    ran
    remaining
    keeps
    idle := ended nofun
    quiet := by
      intro complete kept
      obtain ⟨last, step, called⟩ :=
        advance_quiet (underway_started available inTime) complete kept
      rw [run_started manages idle begun, Cycle.callsLeft, advanceFor, step] at ran
      cases ran
      exact called }

theorem CarriesOut.next {site after ended : Site} {catalog later : Catalog}
    {first second : Undertaking} (done : site.CarriesOut catalog first after)
    (redone : after.CarriesOut later second ended)
    (agrees : later.Agrees catalog first.settings) : first.Next second where
  settings := by rw [redone.settings, done.keeps.settings, done.settings]
  start := by rw [redone.start, done.remaining]
  agrees := ⟨catalog, later, done.follows, redone.follows, agrees⟩

end Site

namespace Upkeep

/-- Whatever happened before, a cycle that reaches its broker ends without a fault. If the broker
refused nothing of it, the bindings that it looks at are the desired ones, where it may remove. As
long as the resources ask for the same, the next cycle then only asks the broker for its bindings:
nothing is missing, and what is too much is what the first one had to keep. -/
theorem run_converges (settings : ClusterSettings) (timeout : Nat) (broker : Broker)
    (catalog : Catalog) (events : List UpkeepEvent) (manages : settings.manageAcls = true) :
    let reached := (fresh settings timeout broker catalog).run events
    reached.site.managed.cycle = none → reached.catalog.Serves →
    reached.site.broker.available = true → reached.site.broker.latency ≤ timeout →
    ∃ after report,
      reached.site.run reached.catalog.query = (after, some (.ok report)) ∧
      report.skipped = none ∧
      (reached.site.broker.refused = [] → report.failed = []) ∧
      (report.failed = [] →
        (settings.dropUnsynced = true →
          reached.catalog.inScope settings after.broker.bindings.members =
            reached.catalog.desired settings.name) ∧
        ∀ later : Catalog, later.Serves → later.Agrees reached.catalog settings →
          ∃ ended second,
            after.run later.query = (ended, some (.ok second)) ∧
            second.skipped = none ∧
            ended.broker = after.broker.recordCall (.describe .any) ∧
            second.toCreate = [] ∧
            (settings.dropUnsynced = true → second.isConverged = true) ∧
            (settings.dropUnsynced = false →
              second.toDelete = report.toDelete ∧ second.deleted = [] ∧
                second.withheld = !report.toDelete.isEmpty)) := by
  intro reached idle serves available inTime
  have sound : reached.Sound settings timeout :=
    sound_run settings timeout broker catalog events
  have managing : reached.site.managed.settings.manageAcls = true := by rwa [sound.settings]
  have bounded : reached.site.broker.latency ≤ reached.site.managed.timeout := by
    rwa [sound.timeout]
  obtain ⟨first, after, done⟩ := Site.carries_out managing idle serves available bounded
  have ofSettings : first.settings = settings := done.settings.trans sound.settings
  refine ⟨after, first.report, done.ran, rfl, ?_, ?_⟩
  · intro willing
    rw [Undertaking.report_failed, done.start, willing]
    simp
  intro failed
  have clean := Undertaking.clean_of_failed failed
  have scope := done.follows.remaining_in_scope clean
  rw [ofSettings, ← done.remaining] at scope
  refine ⟨fun drops => scope.trans (if_pos drops), ?_⟩
  intro later serving agrees
  -- The first cycle left the site as it was, so the second one is carried out as well.
  obtain ⟨second, ended, redone⟩ := Site.carries_out
    (by rwa [done.keeps.settings]) done.idle serving
    (done.keeps.broker.available.trans available)
    (by rwa [done.keeps.broker.latency, done.keeps.timeout])
  have next := done.next redone (ofSettings ▸ agrees)
  have told := next.report clean
  rw [ofSettings] at told
  exact ⟨ended, second.report, redone.ran, rfl,
    redone.quiet (next.to_create clean) (next.kept clean), told⟩

def shopSettings : ClusterSettings := { name := "east", manageAcls := true }

/-- A broker with an old grant and a foreign one. -/
def shopBroker : Broker where
  cluster := "east"
  bindings := .ofList [Site.tillMay .read .literal "old", Site.othersRead]

/-- The broker goes away while a cycle creates, and comes back after the cycle was aborted. -/
def outage : List UpkeepEvent :=
  [.trigger, .advance, .broker fun broker => { broker with available := false }, .advance,
    .broker fun broker => { broker with available := true }]

theorem run_converges_after_outage :
    let reached := (fresh shopSettings 10 shopBroker Site.shopCatalog).run outage
    ∃ after report, reached.site.run reached.catalog.query = (after, some (.ok report)) ∧
      report.toDelete = [Site.tillMay .read .literal "old"] ∧
      reached.catalog.inScope shopSettings after.broker.bindings.members =
        reached.catalog.desired "east" ∧
      ∃ ended second, after.run reached.catalog.query = (ended, some (.ok second)) ∧
        ended.broker.calls = after.broker.calls ++ [.describe .any] ∧
        second.isConverged = true := by
  intro reached
  obtain ⟨after, report, ran, removing⟩ : ∃ after report,
      reached.site.run reached.catalog.query = (after, some (.ok report)) ∧
        report.toDelete = [Site.tillMay .read .literal "old"] :=
    ⟨_, _, rfl, by decide⟩
  have serves : reached.catalog.Serves := ⟨rfl, rfl, rfl⟩
  obtain ⟨_, _, same, -, willing, converges⟩ :=
    run_converges shopSettings 10 shopBroker Site.shopCatalog outage rfl rfl serves rfl
      (by decide)
  cases ran.symm.trans same
  obtain ⟨inStep, next⟩ := converges (willing rfl)
  obtain ⟨ended, second, again, -, asked, -, converged, -⟩ :=
    next reached.catalog serves (.refl _ _)
  exact ⟨after, report, ran, removing, inStep rfl, ended, second, again, by rw [asked]; rfl,
    converged rfl⟩

end Upkeep

end BrokerTenancy
