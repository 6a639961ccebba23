import BrokerTenancy.Cycle.Site

/-!
The schedule of a cluster: cycles at regular times after an initial delay, until it is told to stop.
A cycle that has started runs to its end, also when the stop comes in between; ticks that pass
meanwhile are made up for by one cycle, and the later ones stay on the regular times.
-/

namespace BrokerTenancy

/-- Where the schedule of a cluster is. -/
inductive ScheduleStage where
  /-- The initial delay is not over. -/
  | delayed
  /-- It waits for a tick. -/
  | waiting
  /-- A cycle that it started is under way. -/
  | cycling
  | stopped
  deriving DecidableEq, Inhabited, Repr

/-- What happens to the schedule and the cluster. -/
inductive ScheduleEvent where
  | delayOver
  | tick
  /-- The cycle under way makes a call. -/
  | advance
  /-- Somebody else triggers a cycle. -/
  | trigger
  | stop
  /-- The schedule notices that it was told to stop. -/
  | noticeStop
  deriving DecidableEq, Repr

structure Schedule where
  site : Site
  stage : ScheduleStage := .delayed
  stopRequested : Bool := false

namespace Schedule

/-- What one event makes of a schedule; an event that cannot happen makes nothing. -/
def step (query : ResourceQuery) (schedule : Schedule) (event : ScheduleEvent) : Schedule :=
  match event, schedule.stage with
  | .delayOver, .delayed => { schedule with stage := .waiting }
  | .tick, .waiting =>
      let (site, result) := schedule.site.trigger query
      { schedule with site, stage := if result.isNone then .cycling else .waiting }
  | .advance, .cycling =>
      let (site, result) := schedule.site.advance
      { schedule with site, stage := if result.isNone then .cycling else .waiting }
  | .advance, _ => { schedule with site := schedule.site.advance.1 }
  | .trigger, _ => { schedule with site := (schedule.site.trigger query).1 }
  | .stop, _ => { schedule with stopRequested := true }
  | .noticeStop, .delayed | .noticeStop, .waiting =>
      if schedule.stopRequested then { schedule with stage := .stopped } else schedule
  | _, _ => schedule

/-- What a list of events makes of a schedule. -/
def run (query : ResourceQuery) (schedule : Schedule) (events : List ScheduleEvent) : Schedule :=
  events.foldl (step query) schedule

/-- The events of a cycle that starts at a tick. -/
def undisturbedCycle : List ScheduleEvent := [.tick, .advance, .advance, .advance]

/-- How late, in milliseconds, a tick may be and still count as on time. -/
def tolerance : Nat := 5

/-- When the next tick is due after one that was due at one time and came at another. -/
def nextDue (period due now : Nat) : Nat :=
  if due + tolerance < now then now + period - (now - due) % period else due + period

theorem due_lt_next_due (period due now : Nat) (positive : 0 < period) (came : due ≤ now) :
    due < nextDue period due now := by
  have below := Nat.mod_lt (now - due) positive
  simp only [nextDue]
  split <;> omega

/-- Runs the ticks that come before a time, the first of them due at another. -/
def runTicks (query : ResourceQuery) (period limit due : Nat) (schedule : Schedule) : Schedule :=
  let now := max due schedule.site.clock
  if _goesOn : now < limit ∧ 0 < period then
    let atTick := { schedule with site := { schedule.site with clock := now } }
    runTicks query period limit (nextDue period due now) (atTick.run query undisturbedCycle)
  else schedule
termination_by limit - due
decreasing_by
  have before := Nat.le_max_left due schedule.site.clock
  have later := due_lt_next_due period due (max due schedule.site.clock) _goesOn.2 before
  omega

/-- Starts the schedule of a site, and stops it after so many milliseconds. -/
def runFor (query : ResourceQuery) (settings : CycleSettings) (milliseconds : Nat) (site : Site) :
    Site :=
  let started : Schedule := { site := { site with clock := 0 } }
  if settings.initialDelay < milliseconds then
    let waiting := started.step query .delayOver
    (runTicks query settings.interval milliseconds settings.initialDelay waiting).site
  else started.site

end Schedule

end BrokerTenancy
