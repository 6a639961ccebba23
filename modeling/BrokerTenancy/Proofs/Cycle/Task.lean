import BrokerTenancy.Cycle.Schedule
import BrokerTenancy.Proofs.Cycle.Exclusion

/-!
The schedule of a cluster as a task, with an account of the cycles at the cluster: who has started
the one under way, which calls were made for it, and how it has ended. All that an event can make of
a task is told once. A task hears of a shutdown only between two cycles, so a cycle that it has
started makes its calls and ends by itself, whatever others trigger meanwhile; and a task that has
stopped has no cycle under way and starts none.
-/

namespace BrokerTenancy

namespace Site

theorem exchange_answers (site : Site) (call : AdminCall) :
    ∃ broker clock, ∃ response : Response,
      site.exchange call = ({ site with broker, clock }, response.to call) := by
  have answers : ∃ response : Response,
      (site.broker.performWithin site.managed.timeout site.managed.timedOut call).2 =
        response.to call := by
    unfold Broker.performWithin Broker.perform
    split
    · exact ⟨⟨.error _, .error _, .error _⟩, by cases call <;> rfl⟩
    · split
      · exact ⟨⟨.error _, .error _, .error _⟩, by cases call <;> rfl⟩
      · cases call with
        | describe filter => exact ⟨⟨.ok _, .ok [], .ok []⟩, rfl⟩
        | create bindings => exact ⟨⟨.ok [], .ok _, .ok []⟩, rfl⟩
        | delete filters => exact ⟨⟨.ok [], .ok [], .ok _⟩, rfl⟩
  obtain ⟨response, answered⟩ := answers
  exact ⟨_, _, response, Prod.ext rfl answered⟩

/-- The next call of the cycle under way has some answer, which makes a turn of the cycle. -/
theorem advance_turns {site : Site} {cycle : Cycle} (running : site.managed.cycle = some cycle) :
    ∃ broker clock, ∃ response : Response,
      let taken := site.managed.take
        (cycle.answered site.managed.settings site.tally (response.to cycle.call))
      site.advance = ({ site with managed := taken.1, broker, tally := taken.2.1, clock },
        taken.2.2) := by
  obtain ⟨broker, clock, response, exchanged⟩ := site.exchange_answers cycle.call
  refine ⟨broker, clock, response, ?_⟩
  simp only [advance, running, exchanged, ManagedCluster.answered]

end Site

namespace Schedule

variable (schedule : Schedule) (query : ResourceQuery)

theorem step_delay_over :
    schedule.step query .delayOver =
      { schedule with
        stage := if schedule.stage = .delayed then .waiting else schedule.stage } := by
  obtain ⟨site, stage, asked⟩ := schedule
  cases stage <;> rfl

theorem step_tick :
    schedule.step query .tick =
      if schedule.stage = .waiting then
        { schedule with
          site := (schedule.site.trigger query).1
          stage := if (schedule.site.trigger query).2.isNone then .cycling else .waiting }
      else schedule := by
  obtain ⟨site, stage, asked⟩ := schedule
  cases stage <;> rfl

theorem step_advance :
    schedule.step query .advance =
      { schedule with
        site := schedule.site.advance.1
        stage :=
          if schedule.site.advance.2.isNone then schedule.stage
          else if schedule.stage = .cycling then .waiting else schedule.stage } := by
  obtain ⟨site, stage, asked⟩ := schedule
  cases stage with
  | cycling => rfl
  | delayed | waiting | stopped =>
      simp only [reduceCtorEq, if_false, ite_self]
      rfl

theorem step_trigger :
    schedule.step query .trigger =
      { schedule with site := (schedule.site.trigger query).1 } := by
  obtain ⟨site, stage, asked⟩ := schedule
  cases stage <;> rfl

theorem step_notice_stop :
    schedule.step query .noticeStop =
      { schedule with
        stage :=
          if (schedule.stage = .delayed ∨ schedule.stage = .waiting) ∧
              schedule.stopRequested = true then .stopped
          else schedule.stage } := by
  obtain ⟨site, stage, asked⟩ := schedule
  cases stage <;> cases asked <;> rfl

end Schedule

/-- Who has started a cycle. -/
inductive Starter where
  | schedule
  | other
  deriving DecidableEq

/-- The schedule of a cluster as a task, with an account of the cycles at the cluster: who has
started the one under way, which calls were made for whom, and how those that ended have ended. -/
structure ScheduleTask where
  name : String
  schedule : Schedule
  starter : Option Starter := none
  calls : List (Starter × AdminCall) := []
  ends : List (Starter × Outcome Report) := []

/-- What happens to a task and at its cluster. -/
inductive TaskEvent where
  | move (query : ResourceQuery) (event : ScheduleEvent) (own : event ≠ .stop)
  /-- Others use the broker or change it, and time passes; the cycle under way waits. -/
  | meanwhile (broker : Broker) (tally : Tally) (clock : Nat)
  /-- The shutdown tells the task to stop. -/
  | told

namespace ScheduleTask

def stage (task : ScheduleTask) : ScheduleStage := task.schedule.stage

def managed (task : ScheduleTask) : ManagedCluster := task.schedule.site.managed

def noteTrigger (task : ScheduleTask) (who : Starter) : Option (Outcome Report) → ScheduleTask
  | none => { task with starter := some who }
  | some result =>
      if skips result then task else { task with ends := task.ends ++ [(who, result)] }

/-- Notes a call of the cycle under way, and its result if the call was the last one. -/
def noteCall (task : ScheduleTask) (result : Option (Outcome Report)) : ScheduleTask :=
  match task.starter, task.managed.cycle with
  | some who, some cycle =>
      { task with
        starter := if result.isNone then some who else none
        calls := task.calls ++ [(who, cycle.call)]
        ends := task.ends ++ (result.map (who, ·)).toList }
  | _, _ => task

def note (task : ScheduleTask) (query : ResourceQuery) : ScheduleEvent → ScheduleTask
  | .tick =>
      if task.stage = .waiting then
        task.noteTrigger .schedule (task.schedule.site.trigger query).2
      else task
  | .trigger => task.noteTrigger .other (task.schedule.site.trigger query).2
  | .advance => task.noteCall task.schedule.site.advance.2
  | .delayOver | .stop | .noticeStop => task

def step (task : ScheduleTask) : TaskEvent → ScheduleTask
  | .move query event _ =>
      { task.note query event with schedule := task.schedule.step query event }
  | .meanwhile broker tally clock =>
      { task with
        schedule := { task.schedule with
          site := { task.schedule.site with broker, tally, clock } } }
  | .told => { task with schedule := { task.schedule with stopRequested := true } }

def run (task : ScheduleTask) (events : List TaskEvent) : ScheduleTask := events.foldl step task

end ScheduleTask

/-- The cycle under way makes a call. -/
def TaskEvent.isCall : TaskEvent → Bool
  | .move _ .advance _ => true
  | _ => false

/-- The shutdown reaches the task. -/
def TaskEvent.isTold : TaskEvent → Bool
  | .told => true
  | _ => false

namespace ScheduleTask

/-- What holds of a task at any time. -/
structure Sound (task : ScheduleTask) : Prop where
  manages : task.managed.settings.manageAcls = true
  owned : task.starter = none ↔ task.managed.cycle = none
  cycling : task.stage = .cycling ↔ task.starter = some .schedule
  stopped : task.stage = .stopped → task.schedule.stopRequested = true

/-- All that an event can make of a task. -/
inductive Moves (event : TaskEvent) (before after : ScheduleTask) : Prop
  /-- The cycle under way waits, if there is one. -/
  | rests
      (starter : after.starter = before.starter)
      (cycle : after.managed.cycle = before.managed.cycle)
      (calls : after.calls = before.calls)
      (ends : after.ends = before.ends)
      (idle : event.isCall = true → before.starter = none)
      (stage : after.stage = before.stage ∨
        (before.stage = .delayed ∨ before.stage = .waiting) ∧
          (after.stage = .waiting ∨
            after.stage = .stopped ∧ before.schedule.stopRequested = true))
  | begins (who : Starter)
      (free : before.starter = none)
      (starter : after.starter = some who)
      (cycle : after.managed.cycle ≠ none)
      (calls : after.calls = before.calls)
      (ends : after.ends = before.ends)
      (ready : who = .schedule → before.stage = .waiting)
      (stage : after.stage = if who = .schedule then .cycling else before.stage)
  /-- A cycle fails before its first call. -/
  | fails (who : Starter) (fault : Fault)
      (free : before.starter = none)
      (starter : after.starter = none)
      (cycle : after.managed.cycle = none)
      (calls : after.calls = before.calls)
      (ends : after.ends = before.ends ++ [(who, .error fault)])
      (ready : who = .schedule → before.stage = .waiting)
      (stage : after.stage = before.stage)
  | goesOn (who : Starter) (cycle next : Cycle)
      (call : event.isCall = true)
      (underway : before.starter = some who)
      (running : before.managed.cycle = some cycle)
      (starter : after.starter = some who)
      (onward : after.managed.cycle = some next)
      (fewer : next.callsLeft < cycle.callsLeft)
      (calls : after.calls = before.calls ++ [(who, cycle.call)])
      (ends : after.ends = before.ends)
      (stage : after.stage = before.stage)
  | finishes (who : Starter) (cycle : Cycle) (result : Outcome Report)
      (call : event.isCall = true)
      (underway : before.starter = some who)
      (running : before.managed.cycle = some cycle)
      (starter : after.starter = none)
      (cleared : after.managed.cycle = none)
      (calls : after.calls = before.calls ++ [(who, cycle.call)])
      (ends : after.ends = before.ends ++ [(who, result)])
      (stage : after.stage = if who = .schedule then .waiting else before.stage)

variable {task : ScheduleTask}

theorem rests_of_same {event : TaskEvent} {after : ScheduleTask} (quiet : event.isCall = false)
    (same : after = { task with schedule := after.schedule })
    (cycle : after.managed.cycle = task.managed.cycle)
    (stage : after.stage = task.stage ∨
      (task.stage = .delayed ∨ task.stage = .waiting) ∧
        (after.stage = .waiting ∨
          after.stage = .stopped ∧ task.schedule.stopRequested = true)) :
    Moves event task after := by
  refine .rests ?_ cycle ?_ ?_ ?_ stage
  · rw [same]
  · rw [same]
  · rw [same]
  · intro call
    rw [quiet] at call
    cases call

theorem trigger_moves (sound : task.Sound) {event : TaskEvent} (quiet : event.isCall = false)
    (query : ResourceQuery) (who : Starter) (ready : who = .schedule → task.stage = .waiting)
    {schedule : Schedule} (site : schedule.site = (task.schedule.site.trigger query).1)
    (stage : schedule.stage =
      if (task.schedule.site.trigger query).2.isNone then
        if who = .schedule then .cycling else task.stage
      else task.stage) :
    Moves event task
      { task.noteTrigger who (task.schedule.site.trigger query).2 with schedule } := by
  obtain ⟨reason, skipped⟩ | ⟨idle, ⟨fault, failed⟩ | ⟨cycle, -, started⟩⟩ :=
    task.schedule.site.trigger_cases query
  · rw [skipped] at site stage ⊢
    refine rests_of_same quiet rfl ?_ (.inl stage)
    change schedule.site.managed.cycle = _
    rw [site]
    rfl
  · rw [failed] at site stage ⊢
    have free := sound.owned.mpr idle
    refine .fails who fault free free ?_ rfl rfl ready stage
    change schedule.site.managed.cycle = _
    rw [site]
  · rw [started] at site stage ⊢
    refine .begins who (sound.owned.mpr idle) rfl ?_ rfl rfl ready stage
    change schedule.site.managed.cycle ≠ _
    rw [site]
    nofun

theorem advance_moves (sound : task.Sound) {event : TaskEvent} (call : event.isCall = true)
    {schedule : Schedule} (site : schedule.site = task.schedule.site.advance.1)
    (stage : schedule.stage =
      if task.schedule.site.advance.2.isNone then task.stage
      else if task.stage = .cycling then .waiting else task.stage) :
    Moves event task { task.noteCall task.schedule.site.advance.2 with schedule } := by
  cases running : task.managed.cycle with
  | none =>
      have free := sound.owned.mpr running
      have advanced : task.schedule.site.advance = (task.schedule.site, none) := by
        simp only [Site.advance, show task.schedule.site.managed.cycle = none from running]
      rw [advanced] at site stage ⊢
      have unnoted : task.noteCall none = task := by simp only [noteCall, free]
      rw [unnoted]
      refine .rests rfl ?_ rfl rfl (fun _ => free) (.inl stage)
      change schedule.site.managed.cycle = _
      rw [site]
      rfl
  | some cycle =>
      have owner : ∃ who, task.starter = some who := by
        rw [← Option.ne_none_iff_exists', Ne, sound.owned, running]
        exact Option.some_ne_none cycle
      obtain ⟨who, underway⟩ := owner
      obtain ⟨broker, clock, response, advanced⟩ := Site.advance_turns running
      generalize turned : cycle.answered task.schedule.site.managed.settings
        task.schedule.site.tally (response.to cycle.call) = turn at advanced
      rw [advanced] at site stage ⊢
      obtain ⟨next | result, tally⟩ := turn
      · have fewer := Cycle.answered_calls_left (congrArg Prod.fst turned)
        have noted : task.noteCall none =
            { task with calls := task.calls ++ [(who, cycle.call)] } := by
          simp only [noteCall, underway, running, Option.isNone_none, if_true, Option.map_none,
            Option.toList_none, List.append_nil]
        refine .goesOn who cycle next call underway running ?_ ?_ fewer ?_ ?_ stage
        · exact (congrArg ScheduleTask.starter noted).trans underway
        · change schedule.site.managed.cycle = _
          rw [site]
          rfl
        · exact congrArg ScheduleTask.calls noted
        · exact (congrArg ScheduleTask.ends noted).trans rfl
      · have noted : task.noteCall (some result) =
            { task with
              starter := none
              calls := task.calls ++ [(who, cycle.call)]
              ends := task.ends ++ [(who, result)] } := by
          simp only [noteCall, underway, running]
          rfl
        refine .finishes who cycle result call underway running ?_ ?_ ?_ ?_ ?_
        · exact congrArg ScheduleTask.starter noted
        · change schedule.site.managed.cycle = _
          rw [site]
          rfl
        · exact congrArg ScheduleTask.calls noted
        · exact congrArg ScheduleTask.ends noted
        · change schedule.stage = _
          rw [stage]
          simp only [sound.cycling, underway, Option.some.injEq]
          rfl

theorem step_moves (sound : task.Sound) (event : TaskEvent) :
    Moves event task (task.step event) := by
  cases event with
  | told => exact .rests rfl rfl rfl rfl nofun (.inl rfl)
  | meanwhile broker tally clock => exact .rests rfl rfl rfl rfl nofun (.inl rfl)
  | move query event own =>
      cases event with
      | stop => exact absurd rfl own
      | delayOver =>
          refine rests_of_same rfl rfl ?_ ?_
          · simp only [step, managed, Schedule.step_delay_over]
          · simp only [step, stage, Schedule.step_delay_over]
            split
            · next delayed => exact .inr ⟨.inl delayed, .inl rfl⟩
            · exact .inl rfl
      | tick =>
          rw [step, note, Schedule.step_tick]
          by_cases waits : task.stage = .waiting
          · have waiting : task.schedule.stage = .waiting := waits
            rw [if_pos waits, if_pos waiting]
            refine trigger_moves sound rfl query .schedule (fun _ => waits) rfl ?_
            simp only [waits, if_true]
          · have waiting : task.schedule.stage ≠ .waiting := waits
            rw [if_neg waits, if_neg waiting]
            exact rests_of_same rfl rfl rfl (.inl rfl)
      | advance =>
          apply advance_moves sound rfl
          · rw [Schedule.step_advance]
          · rw [Schedule.step_advance]
            rfl
      | trigger =>
          apply trigger_moves sound rfl query .other nofun
          · rw [Schedule.step_trigger]
          · simp only [stage, Schedule.step_trigger, reduceCtorEq, if_false, ite_self]
      | noticeStop =>
          refine rests_of_same rfl rfl ?_ ?_
          · simp only [step, managed, Schedule.step_notice_stop]
          · simp only [step, stage, Schedule.step_notice_stop]
            split
            · next noticed => exact .inr ⟨noticed.1, .inr ⟨rfl, noticed.2⟩⟩
            · exact .inl rfl

@[simp]
theorem note_trigger_name (who : Starter) (result : Option (Outcome Report)) :
    (task.noteTrigger who result).name = task.name := by
  unfold noteTrigger
  split
  · rfl
  · split <;> rfl

@[simp]
theorem note_call_name (result : Option (Outcome Report)) :
    (task.noteCall result).name = task.name := by
  unfold noteCall
  split <;> rfl

/-- What an event leaves alone. -/
structure Keeps (event : TaskEvent) (before after : ScheduleTask) : Prop where
  name : after.name = before.name
  settings : after.managed.settings = before.managed.settings
  asked : after.schedule.stopRequested = (before.schedule.stopRequested || event.isTold)

theorem step_keeps (task : ScheduleTask) (event : TaskEvent) :
    Keeps event task (task.step event) := by
  have quiet : task.schedule.stopRequested = (task.schedule.stopRequested || false) :=
    (Bool.or_false _).symm
  cases event with
  | told => exact ⟨rfl, rfl, (Bool.or_true _).symm⟩
  | meanwhile broker tally clock => exact ⟨rfl, rfl, quiet⟩
  | move query event own =>
      have triggered := (task.schedule.site.trigger_keeps query).settings
      cases event with
      | stop => exact absurd rfl own
      | delayOver =>
          rw [step, Schedule.step_delay_over]
          exact ⟨rfl, rfl, quiet⟩
      | tick =>
          rw [step, note, Schedule.step_tick]
          refine ⟨?_, ?_, ?_⟩
          · change (ite _ _ _ : ScheduleTask).name = _
            split
            · exact note_trigger_name _ _
            · rfl
          · change (ite _ _ _ : Schedule).site.managed.settings = _
            split
            · exact triggered
            · rfl
          · change (ite _ _ _ : Schedule).stopRequested = _
            split <;> exact quiet
      | advance =>
          rw [step, note, Schedule.step_advance]
          exact ⟨note_call_name _, task.schedule.site.advance_keeps.1.settings, quiet⟩
      | trigger =>
          rw [step, note, Schedule.step_trigger]
          exact ⟨note_trigger_name _ _, triggered, quiet⟩
      | noticeStop =>
          rw [step, Schedule.step_notice_stop]
          exact ⟨rfl, rfl, quiet⟩

theorem run_keeps (task : ScheduleTask) (events : List TaskEvent) :
    (task.run events).name = task.name ∧
      (task.run events).managed.settings = task.managed.settings ∧
      (task.run events).schedule.stopRequested =
        (task.schedule.stopRequested || events.any TaskEvent.isTold) := by
  induction events generalizing task with
  | nil => exact ⟨rfl, rfl, (Bool.or_false _).symm⟩
  | cons event rest induction =>
      have keeps := task.step_keeps event
      obtain ⟨name, settings, asked⟩ := induction (task.step event)
      refine ⟨name.trans keeps.name, settings.trans keeps.settings, asked.trans ?_⟩
      rw [keeps.asked, List.any_cons, Bool.or_assoc]

theorem Sound.step (sound : task.Sound) (event : TaskEvent) : (task.step event).Sound := by
  obtain ⟨manages, owned, cycling, stopped⟩ := sound
  have keeps := task.step_keeps event
  have asked : task.schedule.stopRequested = true →
      (task.step event).schedule.stopRequested = true := by
    intro before
    rw [keeps.asked, before, Bool.true_or]
  have managed := (congrArg ClusterSettings.manageAcls keeps.settings).trans manages
  cases step_moves ⟨manages, owned, cycling, stopped⟩ event with
  | rests starter cycle calls ends idle stage =>
      exact ⟨managed, by rw [starter, cycle, owned], by grind, by grind⟩
  | begins who free starter cycle calls ends ready stage =>
      exact ⟨managed, by simp [starter, cycle], by grind, by grind⟩
  | fails who fault free starter cycle calls ends ready stage =>
      exact ⟨managed, by simp [starter, cycle], by grind, by grind⟩
  | goesOn who cycle next call underway running starter onward fewer calls ends stage =>
      exact ⟨managed, by simp [starter, onward], by grind, by grind⟩
  | finishes who cycle result call underway running starter cleared calls ends stage =>
      exact ⟨managed, by simp [starter, cleared], by grind, by grind⟩

theorem Sound.run (sound : task.Sound) (events : List TaskEvent) : (task.run events).Sound := by
  induction events generalizing task with
  | nil => exact sound
  | cons event rest induction => exact induction (sound.step event)

/-! ## A cycle under way -/

/-- The cycle under way at one time is under way at another, at the same call. -/
structure SameCycle (before after : ScheduleTask) : Prop where
  starter : after.starter = before.starter
  cycle : after.managed.cycle = before.managed.cycle
  calls : after.calls = before.calls
  ends : after.ends = before.ends

/-- Only a call of its own changes a cycle under way. -/
theorem step_same_cycle (sound : task.Sound) {event : TaskEvent}
    (underway : task.starter ≠ none) (quiet : event.isCall = false) :
    SameCycle task (task.step event) := by
  cases step_moves sound event with
  | rests starter cycle calls ends idle stage => exact ⟨starter, cycle, calls, ends⟩
  | begins who free | fails who fault free => exact absurd free underway
  | goesOn who cycle next call | finishes who cycle result call =>
      rw [quiet] at call
      cases call

theorem run_same_cycle (sound : task.Sound) {events : List TaskEvent}
    (underway : task.starter ≠ none) (quiet : events.countP TaskEvent.isCall = 0) :
    SameCycle task (task.run events) := by
  induction events generalizing task with
  | nil => exact ⟨rfl, rfl, rfl, rfl⟩
  | cons event rest induction =>
      have unmoved := List.countP_eq_zero.mp quiet
      have first := Bool.eq_false_of_not_eq_true (unmoved event List.mem_cons_self)
      have same := step_same_cycle sound underway first
      have later := induction (sound.step event) (same.starter ▸ underway)
        (List.countP_eq_zero.mpr fun later member =>
          unmoved later (List.mem_cons_of_mem _ member))
      exact ⟨later.starter.trans same.starter, later.cycle.trans same.cycle,
        later.calls.trans same.calls, later.ends.trans same.ends⟩

theorem step_keeps_ends (sound : task.Sound) (event : TaskEvent) :
    task.ends <+: (task.step event).ends := by
  cases step_moves sound event with
  | rests starter cycle calls ends idle stage => exact ends ▸ List.prefix_refl _
  | begins who free starter cycle calls ends => exact ends ▸ List.prefix_refl _
  | fails who fault free starter cycle calls ends => exact ends ▸ List.prefix_append _ _
  | goesOn who cycle next call underway running starter onward fewer calls ends =>
      exact ends ▸ List.prefix_refl _
  | finishes who cycle result call underway running starter cleared calls ends =>
      exact ends ▸ List.prefix_append _ _

theorem run_keeps_ends (sound : task.Sound) (events : List TaskEvent) :
    task.ends <+: (task.run events).ends := by
  induction events generalizing task with
  | nil => exact List.prefix_refl _
  | cons event rest induction =>
      exact (step_keeps_ends sound event).trans (induction (sound.step event))

/-- What has become of a cycle under way after so many calls: it waits for a later one, or it has
ended with a result of its own, before any other cycle of the cluster has. -/
def Pursues (before after : ScheduleTask) (who : Starter) (cycle : Cycle) (calls : Nat) : Prop :=
  (after.starter = some who ∧ after.ends = before.ends ∧
      ∃ next, after.managed.cycle = some next ∧ next.callsLeft + calls ≤ cycle.callsLeft) ∨
    ∃ result later, after.ends = before.ends ++ (who, result) :: later

theorem run_pursues (sound : task.Sound) {who : Starter} {cycle : Cycle}
    (underway : task.starter = some who) (running : task.managed.cycle = some cycle)
    (events : List TaskEvent) :
    Pursues task (task.run events) who cycle (events.countP TaskEvent.isCall) := by
  -- Each call ends the cycle or leaves it fewer calls to make, and nothing else touches it.
  induction events generalizing task cycle with
  | nil => exact .inl ⟨underway, rfl, cycle, running, le_rfl⟩
  | cons event rest induction =>
      change Pursues task ((task.step event).run rest) _ _ _
      cases called : event.isCall with
      | false =>
          have same := step_same_cycle sound (by simp [underway]) called
          rw [List.countP_cons_of_neg (Bool.not_eq_true _ ▸ called), Pursues, ← same.ends]
          exact induction (sound.step event) (same.starter.trans underway)
            (same.cycle.trans running)
      | true =>
          rw [List.countP_cons_of_pos called]
          cases step_moves sound event with
          | rests starter cycle calls ends idle =>
              rw [idle called] at underway
              cases underway
          | begins who free | fails who fault free =>
              rw [free] at underway
              cases underway
          | goesOn owner current next call mine now starter onward fewer calls ends =>
              cases mine.symm.trans underway
              cases now.symm.trans running
              rw [Pursues, ← ends]
              refine (induction (sound.step event) starter onward).imp_left ?_
              rintro ⟨still, unended, last, waits, left⟩
              exact ⟨still, unended, last, waits, by omega⟩
          | finishes owner current result call mine now starter cleared calls ends =>
              cases mine.symm.trans underway
              obtain ⟨later, grown⟩ := run_keeps_ends (sound.step event) rest
              refine .inr ⟨result, later, ?_⟩
              rw [← grown, ends, List.append_assoc]
              rfl

theorem Pursues.ended {before after : ScheduleTask} {who : Starter} {cycle : Cycle} {calls : Nat}
    (pursues : Pursues before after who cycle calls) (enough : cycle.callsLeft ≤ calls) :
    ∃ result later, after.ends = before.ends ++ (who, result) :: later := by
  obtain ⟨-, -, next, -, left⟩ | ended := pursues
  · have waits : 0 < next.callsLeft := by cases next <;> exact Nat.succ_pos _
    omega
  · exact ended

/-- A cycle that the schedule has started fails, and the task waits for the next tick, at which it
starts another one. -/
theorem step_failed (sound : task.Sound) {event : TaskEvent} {fault : Fault}
    (failed : (task.step event).ends = task.ends ++ [(.schedule, .error fault)]) :
    (task.step event).stage = .waiting ∧ (task.step event).starter = none := by
  have grows : task.ends ≠ task.ends ++ [(.schedule, .error fault)] := by simp
  cases step_moves sound event with
  | rests starter cycle calls ends => exact absurd (ends.symm.trans failed) grows
  | begins who free starter cycle calls ends => exact absurd (ends.symm.trans failed) grows
  | goesOn who cycle next call underway running starter onward fewer calls ends =>
      exact absurd (ends.symm.trans failed) grows
  | fails who cause free starter cycle calls ends ready stage =>
      obtain ⟨rfl, -⟩ : who = .schedule ∧ cause = fault := by simpa [ends] using failed
      exact ⟨stage.trans (ready rfl), starter⟩
  | finishes who cycle result call underway running starter cleared calls ends stage =>
      obtain ⟨rfl, -⟩ : who = .schedule ∧ result = .error fault := by simpa [ends] using failed
      exact ⟨stage, starter⟩

theorem tick_starts (sound : task.Sound) (waits : task.stage = .waiting)
    (free : task.starter = none) {query : ResourceQuery} {cycle : Cycle}
    (begun : Cycle.begin task.managed.settings query = .ok cycle) :
    (task.step (.move query .tick nofun)).starter = some .schedule := by
  have started := Site.trigger_starts sound.manages (sound.owned.mp free) begun
  simp only [step, note, if_pos waits, started, noteTrigger]

/-! ## Schedules that run for a while -/

theorem run_append (task : ScheduleTask) (first second : List TaskEvent) :
    task.run (first ++ second) = (task.run first).run second :=
  List.foldl_append

theorem run_ticks_is_run (query : ResourceQuery) (period limit due : Nat) (schedule : Schedule)
    (same : task.schedule = schedule) :
    ∃ events, (task.run events).schedule =
      Schedule.runTicks query period limit due schedule := by
  induction due, schedule using Schedule.runTicks.induct query period limit
    generalizing task with
  | case1 due schedule now goesOn atTick =>
      rename_i induction
      let comes : List TaskEvent :=
        [.meanwhile schedule.site.broker schedule.site.tally now, .move query .tick nofun,
          .move query .advance nofun, .move query .advance nofun, .move query .advance nofun]
      have ran : (task.run comes).schedule = atTick.run query Schedule.undisturbedCycle := by
        subst same
        rfl
      obtain ⟨events, reached⟩ := induction ran
      rw [Schedule.runTicks, dif_pos goesOn, ← reached, ← run_append]
      exact ⟨_, rfl⟩
  | case2 due schedule now =>
      rename_i past
      rw [Schedule.runTicks, dif_neg past]
      exact ⟨[], same⟩

/-- A schedule that is run for a while is a task to which some of these events happen. -/
theorem run_for_is_run (query : ResourceQuery) (settings : CycleSettings) (milliseconds : Nat)
    (site : Site) (name : String) :
    let task : ScheduleTask := { name, schedule := { site := { site with clock := 0 } } }
    ∃ events, (task.run events).schedule.site =
      Schedule.runFor query settings milliseconds site := by
  intro task
  rw [Schedule.runFor]
  split
  · let started := task.step (.move query .delayOver nofun)
    obtain ⟨events, ran⟩ := @run_ticks_is_run started query settings.interval milliseconds
      settings.initialDelay _ rfl
    exact ⟨.move query .delayOver nofun :: events, congrArg Schedule.site ran⟩
  · exact ⟨[], rfl⟩

/-! ## A stopped task -/

/-- The calls that were made for the cycles of a starter. -/
def callsOf (task : ScheduleTask) (who : Starter) : List AdminCall :=
  (task.calls.filter fun call => call.1 = who).map (·.2)

theorem calls_of_append {after : ScheduleTask} {who mine : Starter} {call : AdminCall}
    (calls : after.calls = task.calls ++ [(who, call)]) (another : who ≠ mine) :
    after.callsOf mine = task.callsOf mine := by
  rw [callsOf, calls, List.filter_append, List.filter_cons_of_neg (by simpa using another),
    List.filter_nil, List.append_nil, callsOf]

theorem calls_of_same {after : ScheduleTask} (calls : after.calls = task.calls) (who : Starter) :
    after.callsOf who = task.callsOf who := by
  rw [callsOf, calls, callsOf]

/-- A task that has stopped stays so, and no call is made for a cycle of its schedule. -/
theorem step_stopped (sound : task.Sound) (stopped : task.stage = .stopped) (event : TaskEvent) :
    (task.step event).stage = .stopped ∧
      (task.step event).callsOf .schedule = task.callsOf .schedule := by
  have foreign (who : Starter) (underway : task.starter = some who) : who ≠ .schedule := by
    rintro rfl
    cases stopped.symm.trans (sound.cycling.mpr underway)
  have unready (who : Starter) (ready : who = .schedule → task.stage = .waiting) :
      who ≠ .schedule := by
    intro mine
    cases stopped.symm.trans (ready mine)
  cases step_moves sound event with
  | rests starter cycle calls ends idle stage =>
      refine ⟨?_, calls_of_same calls _⟩
      obtain same | ⟨early | waiting, -⟩ := stage
      · exact same.trans stopped
      · cases stopped.symm.trans early
      · cases stopped.symm.trans waiting
  | begins who free starter cycle calls ends ready stage =>
      rw [if_neg (unready who ready)] at stage
      exact ⟨stage.trans stopped, calls_of_same calls _⟩
  | fails who fault free starter cycle calls ends ready stage =>
      exact ⟨stage.trans stopped, calls_of_same calls _⟩
  | goesOn who cycle next call underway running starter onward fewer calls ends stage =>
      exact ⟨stage.trans stopped, calls_of_append calls (foreign who underway)⟩
  | finishes who cycle result call underway running starter cleared calls ends stage =>
      have another := foreign who underway
      rw [if_neg another] at stage
      exact ⟨stage.trans stopped, calls_of_append calls another⟩

theorem run_stopped (sound : task.Sound) (stopped : task.stage = .stopped)
    (events : List TaskEvent) :
    (task.run events).stage = .stopped ∧
      (task.run events).callsOf .schedule = task.callsOf .schedule := by
  induction events generalizing task with
  | nil => exact ⟨stopped, rfl⟩
  | cons event rest induction =>
      obtain ⟨stays, same⟩ := step_stopped sound stopped event
      obtain ⟨still, later⟩ := induction (sound.step event) stays
      exact ⟨still, later.trans same⟩

end ScheduleTask

end BrokerTenancy
