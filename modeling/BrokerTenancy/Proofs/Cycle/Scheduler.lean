import BrokerTenancy.Proofs.Cycle.Fleet
import BrokerTenancy.Proofs.Cycle.Task

/-!
The scheduler of a fleet: a task for every cluster that has a schedule, and a shutdown that tells
all of them to stop and then waits for one after the other. It is over only when no task has a cycle
under way and none will start one.
-/

namespace BrokerTenancy

/-- The tasks of a scheduler, and how far its shutdown is. -/
structure Scheduler where
  tasks : List ScheduleTask
  /-- The shutdown has told all tasks to stop. -/
  signalled : Bool := false
  /-- How many tasks the shutdown has seen stopped. -/
  joined : Nat := 0

inductive SchedulerEvent where
  /-- Something happens to one task; to stop is told to all of them. -/
  | task (index : Nat) (event : TaskEvent) (alone : event ≠ .told)
  | shutdown
  /-- The shutdown goes on to the next task if the one that it waits for has stopped. -/
  | join

/-- What the event is for a task. -/
def SchedulerEvent.reaching (index : Nat) : SchedulerEvent → List TaskEvent
  | .task other event _ => if other = index then [event] else []
  | .shutdown => [.told]
  | .join => []

namespace Scheduler

/-- A task for every cluster that gets a schedule. -/
def spawn (fleet : Fleet) : Scheduler where
  tasks := fleet.scheduled.filterMap fun name =>
    match fleet.site name with
    | .ok site => some { name, schedule := { site } }
    | .error _ => none

def step (scheduler : Scheduler) : SchedulerEvent → Scheduler
  | .task index event _ =>
      { scheduler with tasks := scheduler.tasks.modify index (·.step event) }
  | .shutdown =>
      { scheduler with tasks := scheduler.tasks.map (·.step .told), signalled := true }
  | .join =>
      match scheduler.tasks[scheduler.joined]? with
      | none => scheduler
      | some task =>
          if scheduler.signalled = true ∧ task.stage = .stopped then
            { scheduler with joined := scheduler.joined + 1 }
          else scheduler

def run (scheduler : Scheduler) (events : List SchedulerEvent) : Scheduler :=
  events.foldl step scheduler

/-- The shutdown has returned. -/
def Returned (scheduler : Scheduler) : Prop :=
  scheduler.signalled = true ∧ scheduler.joined = scheduler.tasks.length

variable {scheduler : Scheduler}

theorem join_eq (scheduler : Scheduler) :
    scheduler.step .join = { scheduler with joined := (scheduler.step .join).joined } := by
  rw [step]
  split
  · rfl
  · split <;> rfl

theorem joined_of_join {index : Nat} (bound : index < (scheduler.step .join).joined) :
    index < scheduler.joined ∨
      ∃ task, scheduler.tasks[index]? = some task ∧ task.stage = .stopped := by
  rw [step] at bound
  split at bound
  · exact .inl bound
  · next task found =>
      split at bound
      · next past =>
          apply (Nat.lt_succ_iff_lt_or_eq.mp bound).imp_right
          rintro rfl
          exact ⟨task, found, past.2⟩
      · exact .inl bound

theorem step_task (event : SchedulerEvent) (index : Nat) :
    (scheduler.step event).tasks[index]? =
      scheduler.tasks[index]?.map (·.run (event.reaching index)) := by
  cases event with
  | task other event alone =>
      simp only [step, SchedulerEvent.reaching, List.getElem?_modify, Option.map_eq_map]
      split <;> rfl
  | shutdown => simp only [step, List.getElem?_map]; rfl
  | join =>
      rw [join_eq]
      exact Option.map_id'.symm

/-- What becomes of a task is told by the events that reach it. -/
theorem run_task (events : List SchedulerEvent) (index : Nat) :
    (scheduler.run events).tasks[index]? =
      scheduler.tasks[index]?.map
        (·.run (events.flatMap (SchedulerEvent.reaching index))) := by
  induction events generalizing scheduler with
  | nil => exact Option.map_id'.symm
  | cons event rest induction =>
      rw [run, List.foldl_cons, ← run, induction, step_task, Option.map_map, List.flatMap_cons]
      congr
      funext task
      exact List.foldl_append.symm

structure Sound (scheduler : Scheduler) : Prop where
  each : ∀ task ∈ scheduler.tasks, task.Sound
  asked : ∀ task ∈ scheduler.tasks, task.schedule.stopRequested = scheduler.signalled
  joined : ∀ index < scheduler.joined,
    ∃ task, scheduler.tasks[index]? = some task ∧ task.stage = .stopped

theorem mem_step {event : SchedulerEvent} {task : ScheduleTask}
    (member : task ∈ (scheduler.step event).tasks) :
    ∃ index, ∃ before ∈ scheduler.tasks, task = before.run (event.reaching index) := by
  obtain ⟨index, found⟩ := List.mem_iff_getElem?.mp member
  rw [step_task, Option.map_eq_some_iff] at found
  obtain ⟨before, held, rfl⟩ := found
  exact ⟨index, before, List.mem_of_getElem? held, rfl⟩

theorem step_signalled (event : SchedulerEvent) (index : Nat) :
    (scheduler.step event).signalled =
      (scheduler.signalled || (event.reaching index).any TaskEvent.isTold) := by
  cases event with
  | task other event alone =>
      have untold : event.isTold = false := by
        cases event with
        | told => exact absurd rfl alone
        | move query event own => rfl
        | meanwhile broker tally clock => rfl
      change scheduler.signalled = _
      rw [SchedulerEvent.reaching]
      split <;> simp [untold]
  | shutdown => exact (Bool.or_true _).symm
  | join =>
      rw [join_eq]
      exact (Bool.or_false _).symm

theorem Sound.step (sound : scheduler.Sound) (event : SchedulerEvent) :
    (scheduler.step event).Sound := by
  have stays {index : Nat} (before : index < scheduler.joined) :
      ∃ task, (scheduler.step event).tasks[index]? = some task ∧ task.stage = .stopped := by
    obtain ⟨task, found, stopped⟩ := sound.joined index before
    refine ⟨_, by rw [step_task, found]; rfl, ?_⟩
    exact (ScheduleTask.run_stopped (sound.each task (List.mem_of_getElem? found)) stopped _).1
  refine ⟨?_, ?_, ?_⟩
  · intro task member
    obtain ⟨index, before, held, rfl⟩ := mem_step member
    exact (sound.each before held).run _
  · intro task member
    obtain ⟨index, before, held, rfl⟩ := mem_step member
    rw [(before.run_keeps _).2.2, sound.asked before held, step_signalled event index]
  · intro index bound
    cases event with
    | task other event alone => exact stays bound
    | shutdown => exact stays bound
    | join =>
        obtain earlier | ⟨task, found, stopped⟩ := joined_of_join bound
        · exact stays earlier
        · exact ⟨task, by rw [join_eq]; exact found, stopped⟩

theorem Sound.run (sound : scheduler.Sound) (events : List SchedulerEvent) :
    (scheduler.run events).Sound := by
  induction events generalizing scheduler with
  | nil => exact sound
  | cons event rest induction => exact induction (sound.step event)

/-- Once the shutdown has returned, every task has stopped. -/
theorem Sound.all_stopped (sound : scheduler.Sound) (returned : scheduler.Returned)
    {index : Nat} {task : ScheduleTask} (found : scheduler.tasks[index]? = some task) :
    task.stage = .stopped := by
  obtain ⟨bound, -⟩ := List.getElem?_eq_some_iff.mp found
  obtain ⟨other, again, stopped⟩ := sound.joined index (returned.2 ▸ bound)
  cases found.symm.trans again
  exact stopped

/-! ## The clusters of the tasks -/

/-- The clusters of the tasks, by name. -/
def clusters (scheduler : Scheduler) : List (String × ClusterSettings) :=
  scheduler.tasks.map fun task => (task.name, task.managed.settings)

theorem run_clusters (scheduler : Scheduler) (events : List SchedulerEvent) :
    (scheduler.run events).clusters = scheduler.clusters := by
  apply List.ext_getElem?
  intro index
  rw [clusters, clusters, List.getElem?_map, List.getElem?_map, run_task, Option.map_map]
  congr
  funext task
  obtain ⟨name, settings, -⟩ := task.run_keeps (events.flatMap (SchedulerEvent.reaching index))
  exact Prod.ext name settings

variable {fleet : Fleet} {settings : Settings}

/-- The task that is spawned for a cluster. -/
theorem spawned (name : String) (listed : name ∈ fleet.scheduled) :
    ∃ site, fleet.site name = .ok site ∧ site.managed.settings.manageAcls = true := by
  obtain ⟨managed, found, manages⟩ := Fleet.mem_scheduled.mp listed
  obtain ⟨site, same, rfl⟩ := Fleet.site_of_find found
  exact ⟨site, same, manages⟩

theorem mem_spawn {task : ScheduleTask} :
    task ∈ (spawn fleet).tasks ↔
      ∃ name ∈ fleet.scheduled, ∃ site, fleet.site name = .ok site ∧
        task = { name, schedule := { site } } := by
  simp only [spawn, List.mem_filterMap]
  constructor
  · rintro ⟨name, member, made⟩
    split at made
    · next site found =>
        cases made
        exact ⟨name, member, site, found, rfl⟩
    · cases made
  · rintro ⟨name, member, site, found, rfl⟩
    exact ⟨name, member, by rw [found]⟩

theorem spawn_names (fleet : Fleet) :
    (spawn fleet).clusters.map Prod.fst = fleet.scheduled := by
  have each (names : List String) (listed : ∀ name ∈ names, name ∈ fleet.scheduled) :
      ((names.filterMap fun name =>
        match fleet.site name with
        | .ok site => some ({ name, schedule := { site } } : ScheduleTask)
        | .error _ => none).map ScheduleTask.name) = names := by
    induction names with
    | nil => rfl
    | cons name rest induction =>
        obtain ⟨site, found, -⟩ := spawned name (listed name List.mem_cons_self)
        rw [List.filterMap_cons, found, List.map_cons,
          induction fun other member => listed other (List.mem_cons_of_mem _ member)]
  rw [clusters, List.map_map]
  exact each fleet.scheduled fun _ => id

theorem mem_spawn_clusters (follows : fleet.Follows settings) (name : String)
    (cluster : ClusterSettings) :
    (name, cluster) ∈ (spawn fleet).clusters ↔
      settings.lastCluster name = some cluster ∧ cluster.manageAcls = true := by
  simp only [clusters, List.mem_map, mem_spawn, Prod.mk.injEq]
  constructor
  · rintro ⟨_, ⟨_, listed, site, found, rfl⟩, rfl, rfl⟩
    obtain ⟨known, last, managed⟩ := follows.configured found
    obtain ⟨other, again, manages⟩ := follows.mem_scheduled.mp listed
    cases last.symm.trans again
    rw [ScheduleTask.managed, managed]
    exact ⟨last, manages⟩
  · rintro ⟨last, manages⟩
    have listed := follows.mem_scheduled.mpr ⟨cluster, last, manages⟩
    obtain ⟨site, found, -⟩ := spawned name listed
    obtain ⟨known, again, managed⟩ := follows.configured found
    cases last.symm.trans again
    exact ⟨_, ⟨name, listed, site, found, rfl⟩, rfl, by rw [ScheduleTask.managed, managed]; rfl⟩

theorem spawn_sound (follows : fleet.Follows settings) : (spawn fleet).Sound := by
  refine ⟨?_, ?_, nofun⟩
  · intro task member
    obtain ⟨name, listed, site, found, rfl⟩ := mem_spawn.mp member
    obtain ⟨other, again, manages⟩ := spawned name listed
    cases found.symm.trans again
    obtain ⟨known, -, managed⟩ := follows.configured found
    refine ⟨manages, iff_of_true rfl ?_, iff_of_false nofun nofun, nofun⟩
    rw [ScheduleTask.managed, managed]
    rfl
  · intro task member
    obtain ⟨name, listed, site, found, rfl⟩ := mem_spawn.mp member
    rfl

/-- Where no two clusters share a name, there is one task for each cluster that is to be managed. -/
theorem spawn_clusters_perm (follows : fleet.Follows settings)
    (distinct : (settings.clusters.map ClusterSettings.name).Nodup) :
    (spawn fleet).clusters.Perm
      ((settings.clusters.filter (·.manageAcls)).map fun cluster => (cluster.name, cluster)) := by
  have names : ((spawn fleet).clusters.map Prod.fst).Nodup := by
    rw [spawn_names]
    exact fleet.scheduled_nodup
  have configured : ((settings.clusters.filter (·.manageAcls)).map
      fun cluster => (cluster.name, cluster)).Nodup := by
    apply (distinct.of_map.filter _).map
    intro first second same
    exact congrArg Prod.snd same
  apply (List.perm_ext_iff_of_nodup names.of_map configured).mpr
  rintro ⟨name, cluster⟩
  simp only [mem_spawn_clusters follows, List.mem_map, List.mem_filter, Prod.mk.injEq]
  constructor
  · rintro ⟨last, manages⟩
    obtain ⟨member, same⟩ := Settings.last_cluster_some last
    exact ⟨cluster, ⟨member, manages⟩, same, rfl⟩
  · rintro ⟨_, ⟨member, manages⟩, rfl, rfl⟩
    exact ⟨Settings.last_cluster_of_nodup distinct member, manages⟩

/-- However ticks, calls, failures, triggers of others and the shutdown follow each other, there is
one task for each cluster that is to be managed, and no task ends before the shutdown tells it to. A
cycle that fails leaves its task waiting for the next tick. A cycle that a task has started is
touched by its own calls only: it waits for the next one or has ended by itself, and it has ended
when its calls are made. Once the shutdown has returned, no such cycle is under way, and no call is
made for one any more. -/
theorem run_completes_cycles (follows : fleet.Follows settings) (events : List SchedulerEvent) :
    let reached := (spawn fleet).run events
    ((reached.clusters.map Prod.fst).Nodup ∧
        (∀ name cluster, (name, cluster) ∈ reached.clusters ↔
          settings.lastCluster name = some cluster ∧ cluster.manageAcls = true) ∧
        ((settings.clusters.map ClusterSettings.name).Nodup →
          reached.clusters.Perm
            ((settings.clusters.filter (·.manageAcls)).map
              fun cluster => (cluster.name, cluster)))) ∧
      (∀ task ∈ reached.tasks, task.stage = .stopped → reached.signalled = true) ∧
      (∀ task ∈ reached.tasks, ∀ event fault,
        (task.step event).ends = task.ends ++ [(.schedule, .error fault)] →
          (task.step event).stage = .waiting ∧
            ∀ query cycle, Cycle.begin task.managed.settings query = .ok cycle →
              ((task.step event).step (.move query .tick nofun)).starter = some .schedule) ∧
      (∀ (index : Nat) (task : ScheduleTask) (cycle : Cycle), reached.tasks[index]? = some task →
        task.starter = some .schedule → task.managed.cycle = some cycle →
          ∀ later, ∃ now, (reached.run later).tasks[index]? = some now ∧
            let calls :=
              (later.flatMap (SchedulerEvent.reaching index)).countP TaskEvent.isCall
            task.Pursues now .schedule cycle calls ∧
              (calls = 0 → task.SameCycle now) ∧
              (cycle.callsLeft ≤ calls →
                ∃ result rest, now.ends = task.ends ++ (.schedule, result) :: rest)) ∧
      (reached.Returned → ∀ (index : Nat) (task : ScheduleTask), reached.tasks[index]? = some task →
        task.starter ≠ some .schedule ∧
          ∀ later, ∃ now, (reached.run later).tasks[index]? = some now ∧ now.stage = .stopped ∧
            now.callsOf .schedule = task.callsOf .schedule) := by
  intro reached
  have sound : reached.Sound := (spawn_sound follows).run events
  have later_found {index : Nat} {task : ScheduleTask} (found : reached.tasks[index]? = some task)
      (later : List SchedulerEvent) :
      (reached.run later).tasks[index]? =
        some (task.run (later.flatMap (SchedulerEvent.reaching index))) := by
    rw [run_task, found]
    rfl
  refine ⟨?_, ?_, ?_, ?_, ?_⟩
  · rw [run_clusters, spawn_names]
    exact ⟨fleet.scheduled_nodup, mem_spawn_clusters follows, spawn_clusters_perm follows⟩
  · intro task member stopped
    rw [← sound.asked task member]
    exact (sound.each task member).stopped stopped
  · intro task member event fault failed
    have whole := sound.each task member
    obtain ⟨waits, free⟩ := ScheduleTask.step_failed whole failed
    refine ⟨waits, fun query cycle begun => ?_⟩
    apply ScheduleTask.tick_starts (whole.step event) waits free
    rw [(task.step_keeps event).settings]
    exact begun
  · intro index task cycle found mine running later
    have whole := sound.each task (List.mem_of_getElem? found)
    have pursues := ScheduleTask.run_pursues whole mine running
      (later.flatMap (SchedulerEvent.reaching index))
    refine ⟨_, later_found found later, pursues, ?_, pursues.ended⟩
    exact ScheduleTask.run_same_cycle whole (by simp [mine])
  · intro returned index task found
    have whole := sound.each task (List.mem_of_getElem? found)
    have stopped := sound.all_stopped returned found
    constructor
    · intro mine
      cases stopped.symm.trans (whole.cycling.mpr mine)
    · intro later
      exact ⟨_, later_found found later, ScheduleTask.run_stopped whole stopped _⟩

/-- What happens to the only task of the mixed fleet. -/
def westMoves (event : ScheduleEvent) (own : event ≠ .stop) : SchedulerEvent :=
  .task 0 (.move Site.shopCatalog.query event own) nofun

def westBecomes (broker : Broker) : SchedulerEvent := .task 0 (.meanwhile broker {} 0) nofun

/-- A binding that nobody has asked for. -/
def strayBroker : Broker where
  cluster := "west"
  bindings := .ofList [.allow .topic "orders" .literal Binding.everyUser .read]

/-- The first cycle fails. The shutdown comes while the second one is about to remove a binding. -/
def cutShort : List SchedulerEvent :=
  [westMoves .delayOver nofun, westBecomes { strayBroker with available := false },
    westMoves .tick nofun, westMoves .advance nofun, westBecomes strayBroker,
    westMoves .tick nofun, westMoves .advance nofun, .shutdown, westMoves .noticeStop nofun, .join]

/-- The cycle makes its last call, and the task notices the shutdown. -/
def untilReturn : List SchedulerEvent :=
  [westMoves .trigger nofun, westMoves .advance nofun, westMoves .noticeStop nofun, .join]

theorem run_completes_cycles_cut_short :
    let reached := (spawn Fleet.mixedFleet).run cutShort
    let returned := reached.run untilReturn
    reached.signalled = true ∧ returned.Returned ∧
      ∃ task now, reached.tasks[0]? = some task ∧ task.starter = some .schedule ∧
        returned.tasks[0]? = some now ∧
        (∃ result rest, now.ends = task.ends ++ (.schedule, result) :: rest) ∧
        now.callsOf .schedule =
          [.describe .any, .describe .any, Cycle.removing strayBroker.bindings.toList] ∧
        ∀ later, ∃ last, (returned.run later).tasks[0]? = some last ∧
          last.callsOf .schedule = now.callsOf .schedule := by
  intro reached returned
  obtain ⟨-, -, -, pursues, -⟩ := run_completes_cycles Fleet.mixed_fleet_follows cutShort
  obtain ⟨-, -, -, -, settles⟩ :=
    run_completes_cycles Fleet.mixed_fleet_follows (cutShort ++ untilReturn)
  have whole : (spawn Fleet.mixedFleet).run (cutShort ++ untilReturn) = returned :=
    List.foldl_append
  rw [whole] at settles
  have done : returned.Returned := ⟨rfl, rfl⟩
  obtain ⟨now, found, -, -, ended⟩ := pursues 0 _ _ rfl rfl rfl untilReturn
  obtain ⟨-, stays⟩ := settles done 0 now found
  refine ⟨rfl, done, _, now, rfl, rfl, found, ended (by decide), ?_, ?_⟩
  · cases found
    decide
  · intro later
    obtain ⟨last, later_found, -, same⟩ := stays later
    exact ⟨last, later_found, same⟩

end Scheduler

end BrokerTenancy
