import BrokerTenancy.Log.Memory
import BrokerTenancy.Proofs.Log.Sequence
import Mathlib.Data.List.Infix

/-!
A log in memory and one reader that follows it, step by step. An append stores its record before it
announces it to those who wait; a read looks whether the log is paused, collects, waits if there was
nothing, collects again and looks for a pause once more; and anything may happen between two steps.
With nothing in between these steps are the read of the log. A batch that is dropped because of a
pause leaves the reader where it was, so nothing is lost, and nothing comes twice.
-/

namespace BrokerTenancy

/-- How many records a read takes at most: at least one. -/
abbrev ReadLimit := {limit : Nat // 0 < limit}

/-- Where the read under way is. -/
inductive ReadStage where
  | resting
  /-- The log was not paused when the read began. -/
  | begun (limit : ReadLimit)
  /-- There was nothing: it waits for the watermark to pass its offset. -/
  | waiting (limit : ReadLimit)
  /-- The watermark has passed its offset, or its deadline came. -/
  | woken (limit : ReadLimit)
  | found (batch : List Record)
  /-- The log was paused: it will answer with nothing at its deadline. -/
  | silent
  deriving DecidableEq

structure TailedLog where
  log : MemoryLog
  /-- The watermark that was last announced. -/
  watermark : Nat := 0
  /-- The record that an append has stored and not announced yet. -/
  appending : Option Nat := none
  /-- What the appends have answered. -/
  answers : List (Outcome Nat) := []
  /-- Where the reader is. -/
  position : Nat := 0
  stage : ReadStage := .resting
  /-- What the reads have answered, each with the position of the reader when it began. -/
  batches : List (Nat × List Record) := []

inductive TailEvent where
  | append (key : String) (value : Option (List UInt8)) (timestamp : Int)
  /-- An append that does not ask whether appends are rejected. -/
  | push (key : String) (value : Option (List UInt8)) (timestamp : Int)
  | announce
  | reject (on : Bool)
  | pause (on : Bool)
  | begin (limit : ReadLimit)
  | collect
  | wake
  | expire
  | answer

def TailEvent.isReading : TailEvent → Bool
  | .begin _ | .collect | .wake | .expire | .answer => true
  | .append _ _ _ | .push _ _ _ | .announce | .reject _ | .pause _ => false

namespace TailedLog

/-- A new log and its reader. -/
def following (name : String) : TailedLog where
  log := { name }

/-- What one step makes of them; a step that cannot happen makes nothing. Appends come one after the
other. -/
def step (tailed : TailedLog) : TailEvent → TailedLog
  | .append key value timestamp =>
      match tailed.appending, tailed.log.append key value timestamp with
      | none, (log, .ok offset) => { tailed with log, appending := some offset }
      | none, (log, .error fault) =>
          { tailed with log, answers := tailed.answers ++ [.error fault] }
      | some _, _ => tailed
  | .push key value timestamp =>
      match tailed.appending, tailed.log.push key value timestamp with
      | none, (log, offset) => { tailed with log, appending := some offset }
      | some _, _ => tailed
  | .announce =>
      match tailed.appending with
      | none => tailed
      | some offset =>
          { tailed with
            watermark := tailed.log.highWatermark
            appending := none
            answers := tailed.answers ++ [.ok offset] }
  | .reject on => { tailed with log := { tailed.log with rejecting := on } }
  | .pause on => { tailed with log := { tailed.log with paused := on } }
  | .begin limit =>
      match tailed.stage with
      | .resting =>
          { tailed with stage := if tailed.log.paused then .silent else .begun limit }
      | _ => tailed
  | .collect =>
      match tailed.stage with
      | .begun limit =>
          match Record.slice tailed.log.records tailed.position limit with
          | [] => { tailed with stage := .waiting limit }
          | batch => { tailed with stage := .found batch }
      | .woken limit =>
          { tailed with
            stage := .found (Record.slice tailed.log.records tailed.position limit) }
      | _ => tailed
  | .wake =>
      match tailed.stage with
      | .waiting limit =>
          if tailed.position < tailed.watermark then { tailed with stage := .woken limit }
          else tailed
      | _ => tailed
  | .expire =>
      match tailed.stage with
      | .waiting limit => { tailed with stage := .woken limit }
      | _ => tailed
  | .answer =>
      match tailed.stage with
      | .found batch =>
          if tailed.log.paused then { tailed with stage := .silent }
          else
            { tailed with
              stage := .resting
              position := tailed.position + batch.length
              batches := tailed.batches ++ [(tailed.position, batch)] }
      | .silent =>
          { tailed with
            stage := .resting
            batches := tailed.batches ++ [(tailed.position, [])] }
      | _ => tailed

def run (tailed : TailedLog) (events : List TailEvent) : TailedLog := events.foldl step tailed

/-- What the reader has received. -/
def received (tailed : TailedLog) : List Record := tailed.batches.flatMap (·.2)

end TailedLog

/-- Batches that start where the one before ends, each with the offsets that follow its start. -/
def Consecutive : Nat → List (Nat × List Record) → Prop
  | _, [] => True
  | position, (start, batch) :: rest =>
      start = position ∧ Record.Gapless start batch ∧ Consecutive (position + batch.length) rest

theorem consecutive_append (position start : Nat) (batch : List Record)
    (batches : List (Nat × List Record)) :
    Consecutive position (batches ++ [(start, batch)]) ↔
      Consecutive position batches ∧
        start = position + (batches.flatMap (·.2)).length ∧ Record.Gapless start batch := by
  induction batches generalizing position with
  | nil => simp [Consecutive]
  | cons first rest induction =>
      simp only [List.cons_append, Consecutive, induction, List.flatMap_cons, List.length_append,
        Nat.add_assoc, and_assoc]

namespace TailedLog

/-- What holds of a log and its reader at any time. -/
structure Sound (name : String) (tailed : TailedLog) : Prop where
  named : tailed.log.name = name
  gapless : Record.Gapless 0 tailed.log.records
  /-- The watermark lags behind by the record that is not announced yet. -/
  watermark : tailed.watermark + tailed.appending.toList.length = tailed.log.highWatermark
  offset : ∀ offset, tailed.appending = some offset → offset = tailed.watermark
  answered : tailed.answers.filterMap Except.toOption = List.range tailed.watermark
  inside : tailed.position ≤ tailed.log.records.length
  received : tailed.received = tailed.log.records.take tailed.position
  consecutive : Consecutive 0 tailed.batches
  found : ∀ batch, tailed.stage = .found batch →
    batch <+: tailed.log.records.drop tailed.position

variable {name : String} {tailed : TailedLog}

theorem sound_following (name : String) : (following name).Sound name where
  named := rfl
  gapless := Record.gapless_nil 0
  watermark := rfl
  offset := nofun
  answered := rfl
  inside := Nat.le_refl 0
  received := rfl
  consecutive := trivial
  found := nofun

theorem Sound.stored (sound : tailed.Sound name) (free : tailed.appending = none) (key : String)
    (value : Option (List UInt8)) (timestamp : Int) :
    Sound name
      { tailed with
        log := (tailed.log.push key value timestamp).1
        appending := some (tailed.log.push key value timestamp).2 } := by
  obtain ⟨named, gapless, watermark, offset, answered, inside, received, consecutive, found⟩ :=
    sound
  rw [free] at watermark
  refine ⟨named, ?_, ?_, ?_, answered, ?_, ?_, consecutive, ?_⟩
  · rw [MemoryLog.push, Record.gapless_append]
    refine ⟨gapless, ?_⟩
    rw [Record.gapless_cons]
    exact ⟨(Nat.zero_add _).symm, Record.gapless_nil _⟩
  · change tailed.watermark + 1 = (tailed.log.records ++ [_]).length
    rw [List.length_append]
    exact congrArg (· + 1) watermark
  · rintro _ ⟨⟩
    exact watermark.symm
  · change tailed.position ≤ (tailed.log.records ++ [_]).length
    rw [List.length_append]
    exact inside.trans (Nat.le_add_right _ _)
  · change tailed.received = (tailed.log.records ++ [_]).take tailed.position
    rw [List.take_append_of_le_length inside]
    exact received
  · intro batch stage
    change batch <+: (tailed.log.records ++ [_]).drop tailed.position
    rw [List.drop_append_of_le_length inside]
    exact (found batch stage).trans (List.prefix_append _ _)

/-- The reader makes a step that answers nothing. -/
theorem Sound.staged (sound : tailed.Sound name) {stage : ReadStage}
    (found : ∀ batch, stage = .found batch →
      batch <+: tailed.log.records.drop tailed.position) :
    Sound name { tailed with stage } :=
  ⟨sound.named, sound.gapless, sound.watermark, sound.offset, sound.answered, sound.inside,
    sound.received, sound.consecutive, found⟩

theorem Sound.delivered (sound : tailed.Sound name) {batch : List Record}
    (follows : batch <+: tailed.log.records.drop tailed.position) :
    Sound name
      { tailed with
        stage := .resting
        position := tailed.position + batch.length
        batches := tailed.batches ++ [(tailed.position, batch)] } := by
  have begins : tailed.position = (tailed.batches.flatMap (·.2)).length := by
    change _ = tailed.received.length
    rw [sound.received, List.length_take_of_le sound.inside]
  obtain ⟨named, gapless, watermark, offset, answered, inside, received, consecutive, -⟩ := sound
  have taken : batch = (tailed.log.records.drop tailed.position).take batch.length :=
    List.prefix_iff_eq_take.mp follows
  refine ⟨named, gapless, watermark, offset, answered, ?_, ?_, ?_, nofun⟩
  · have short := follows.length_le
    rw [List.length_drop] at short
    change tailed.position + batch.length ≤ tailed.log.records.length
    omega
  · change (tailed.batches ++ [(tailed.position, batch)]).flatMap (·.2) = _
    rw [List.flatMap_append, List.take_add, ← received, ← taken]
    simp [TailedLog.received]
  · apply (consecutive_append 0 tailed.position batch tailed.batches).mpr
    refine ⟨consecutive, begins.trans (Nat.zero_add _).symm, ?_⟩
    have dropped := Record.gapless_drop gapless tailed.position
    rw [Nat.zero_add] at dropped
    exact Record.gapless_of_prefix dropped follows

/-- A rejected append changes nothing. -/
theorem step_rejected (free : tailed.appending = none) (rejects : tailed.log.rejecting = true)
    (key : String) (value : Option (List UInt8)) (timestamp : Int) :
    tailed.step (.append key value timestamp) =
      { tailed with
        answers := tailed.answers ++ [.error (.write tailed.log.name .logUnavailable)] } := by
  simp only [step, free, MemoryLog.append, rejects, if_true]

theorem Sound.announced (sound : tailed.Sound name) {offset : Nat}
    (storing : tailed.appending = some offset) :
    Sound name
      { tailed with
        watermark := tailed.log.highWatermark
        appending := none
        answers := tailed.answers ++ [.ok offset] } := by
  have lags := sound.watermark
  rw [storing] at lags
  refine { sound with watermark := rfl, offset := nofun, answered := ?_ }
  change (tailed.answers ++ [(.ok offset : Outcome Nat)]).filterMap Except.toOption =
    List.range tailed.log.highWatermark
  rw [← lags, List.filterMap_append, sound.answered, sound.offset offset storing]
  exact List.range_succ.symm

theorem Sound.step (sound : tailed.Sound name) (event : TailEvent) :
    (tailed.step event).Sound name := by
  have sliced (limit : Nat) : Record.slice tailed.log.records tailed.position limit <+:
      tailed.log.records.drop tailed.position := List.take_prefix _ _
  cases event with
  | append key value timestamp =>
      cases free : tailed.appending with
      | some offset =>
          simp only [TailedLog.step, free]
          exact sound
      | none =>
          cases rejects : tailed.log.rejecting with
          | false =>
              simp only [TailedLog.step, free, MemoryLog.append, rejects, Bool.false_eq_true,
                if_false]
              exact sound.stored free key value timestamp
          | true =>
              rw [step_rejected free rejects]
              refine { sound with answered := ?_ }
              rw [List.filterMap_append, sound.answered]
              exact List.append_nil _
  | push key value timestamp =>
      cases free : tailed.appending with
      | some offset =>
          simp only [TailedLog.step, free]
          exact sound
      | none =>
          simp only [TailedLog.step, free]
          exact sound.stored free key value timestamp
  | announce =>
      rw [TailedLog.step]
      split
      · exact sound
      · next offset storing => exact sound.announced storing
  | reject on | pause on => exact { sound with }
  | begin limit =>
      rw [TailedLog.step]
      split
      · exact sound.staged (by split <;> nofun)
      · exact sound
  | collect =>
      rw [TailedLog.step]
      split
      · next limit begun =>
          split
          · exact sound.staged nofun
          · next batch collected =>
              apply sound.staged
              rintro _ ⟨⟩
              exact sliced limit
      · next limit woken =>
          apply sound.staged
          rintro _ ⟨⟩
          exact sliced limit
      · exact sound
  | wake =>
      rw [TailedLog.step]
      split
      · split
        · exact sound.staged nofun
        · exact sound
      · exact sound
  | expire =>
      rw [TailedLog.step]
      split
      · exact sound.staged nofun
      · exact sound
  | answer =>
      rw [TailedLog.step]
      split
      · next batch found =>
          split
          · exact sound.staged nofun
          · exact sound.delivered (sound.found batch found)
      · exact sound.delivered List.nil_prefix
      · exact sound

theorem Sound.run (sound : tailed.Sound name) (events : List TailEvent) :
    (tailed.run events).Sound name := by
  induction events generalizing tailed with
  | nil => exact sound
  | cons event rest induction => exact induction (sound.step event)

/-! ## A read with nothing in between -/

/-- A read that has looked for records once comes to its deadline and answers. -/
def toDeadline : List TailEvent := [.expire, .collect, .answer, .answer]

def wholeRead (limit : ReadLimit) : List TailEvent := .begin limit :: .collect :: toDeadline

/-- Where a read is after it has looked for records once. -/
def stageOf (limit : ReadLimit) : MemoryLog.Read → ReadStage
  | .idle => .silent
  | .waiting _ _ => .waiting limit
  | .answered batch => .found batch

theorem run_begins (rests : tailed.stage = .resting) (limit : ReadLimit) :
    tailed.run [.begin limit, .collect] =
      { tailed with stage := stageOf limit (tailed.log.beginRead tailed.position limit) } := by
  change (tailed.step (.begin limit)).step .collect = _
  rw [MemoryLog.beginRead]
  cases pausing : tailed.log.paused with
  | true => simp only [step, rests, pausing, if_true, stageOf]
  | false =>
      simp only [step, rests, pausing, Bool.false_eq_true, if_false]
      cases Record.slice tailed.log.records tailed.position limit with
      | nil => rfl
      | cons record rest => rfl

/-- A read that has begun ends on the log as it is now; one with a batch is not silenced. -/
theorem run_ends (limit : ReadLimit) (read : MemoryLog.Read)
    (place : ∀ offset count, read = .waiting offset count →
      offset = tailed.position ∧ count = limit)
    (stage : tailed.stage = stageOf limit read)
    (heard : ∀ batch, read = .answered batch → tailed.log.paused = false) :
    tailed.run toDeadline =
      { tailed with
        stage := .resting
        position := tailed.position + (tailed.log.endRead read).length
        batches := tailed.batches ++ [(tailed.position, tailed.log.endRead read)] } := by
  change (((tailed.step .expire).step .collect).step .answer).step .answer = _
  cases read with
  | idle => simp only [step, stage, stageOf, MemoryLog.endRead, List.length_nil, Nat.add_zero]
  | answered batch =>
      simp only [step, stage, stageOf, MemoryLog.endRead, heard batch rfl, Bool.false_eq_true,
        if_false]
  | waiting offset count =>
      obtain ⟨rfl, rfl⟩ := place offset count rfl
      rw [MemoryLog.endRead, MemoryLog.available]
      cases pausing : tailed.log.paused with
      | true =>
          simp only [step, stage, stageOf, pausing, if_true, List.length_nil, Nat.add_zero]
      | false => simp only [step, stage, stageOf, pausing, Bool.false_eq_true, if_false]

/-- A read while nothing else happens answers what the log reads. -/
theorem run_reads (rests : tailed.stage = .resting) (limit : ReadLimit) :
    tailed.run (wholeRead limit) =
      { tailed with
        position := tailed.position + (tailed.log.read tailed.position limit).length
        batches := tailed.batches ++
          [(tailed.position, tailed.log.read tailed.position limit)] } := by
  change (tailed.run [.begin limit, .collect]).run toDeadline = _
  rw [run_begins rests]
  rw [run_ends limit (tailed.log.beginRead tailed.position limit) ?_ rfl ?_]
  · rw [← rests]
    rfl
  · intro offset count waits
    rw [MemoryLog.beginRead] at waits
    split at waits
    · cases waits
    · split at waits
      · cases waits
        exact ⟨rfl, rfl⟩
      · cases waits
  · intro batch answered
    rw [MemoryLog.beginRead] at answered
    split at answered
    · cases answered
    · next unpaused => exact Bool.eq_false_iff.mpr unpaused

/-! ## A read that waits -/

/-- There are records for the read under way, which it has collected or will collect. -/
def Fed (tailed : TailedLog) : Prop :=
  match tailed.stage with
  | .waiting _ | .woken _ => tailed.position < tailed.log.records.length
  | .found batch => batch ≠ []
  | .resting | .begun _ | .silent => False

theorem slice_of_fed {records : List Record} {position : Nat} (limit : ReadLimit)
    (fed : position < records.length) : Record.slice records position limit ≠ [] := by
  have enough := limit.property
  rw [← List.length_pos_iff, Record.slice, List.length_take, List.length_drop]
  omega

/-- What the steps of others leave of a read under way. -/
structure Undisturbed (before after : TailedLog) : Prop where
  stage : after.stage = before.stage
  position : after.position = before.position
  batches : after.batches = before.batches
  records : before.log.records <+: after.log.records

theorem Undisturbed.fed {after : TailedLog} (same : tailed.Undisturbed after)
    (fed : tailed.Fed) : after.Fed := by
  have longer := same.records.length_le
  rw [Fed] at fed ⊢
  rw [same.stage, same.position]
  cases stage : tailed.stage with
  | waiting limit | woken limit =>
      rw [stage] at fed
      exact fed.trans_le longer
  | resting | begun limit | found batch | silent =>
      rw [stage] at fed
      exact fed

theorem step_undisturbed {event : TailEvent} (others : event.isReading = false) :
    tailed.Undisturbed (tailed.step event) := by
  have grown (record : Record) : tailed.log.records <+: tailed.log.records ++ [record] :=
    List.prefix_append _ _
  cases event with
  | append key value timestamp =>
      rw [step]
      split
      · next log offset free stored =>
          refine ⟨rfl, rfl, rfl, ?_⟩
          rw [MemoryLog.append] at stored
          split at stored
          · cases stored
          · cases stored
            exact grown _
      · next log fault free refused =>
          refine ⟨rfl, rfl, rfl, ?_⟩
          rw [MemoryLog.append] at refused
          split at refused
          · cases refused
            exact List.prefix_refl _
          · cases refused
      · exact ⟨rfl, rfl, rfl, List.prefix_refl _⟩
  | push key value timestamp =>
      rw [step]
      split
      · next log offset free stored =>
          cases stored
          exact ⟨rfl, rfl, rfl, grown _⟩
      · exact ⟨rfl, rfl, rfl, List.prefix_refl _⟩
  | announce =>
      rw [step]
      split <;> exact ⟨rfl, rfl, rfl, List.prefix_refl _⟩
  | reject on | pause on => exact ⟨rfl, rfl, rfl, List.prefix_refl _⟩
  | begin limit | collect | wake | expire | answer => cases others

/-- As long as there is no pause, the records stay there until the read answers with some. -/
theorem step_fed (fed : tailed.Fed) (unpaused : tailed.log.paused = false) (event : TailEvent) :
    ((tailed.step event).batches = tailed.batches ∧
        (tailed.step event).position = tailed.position ∧ (tailed.step event).Fed) ∨
      ∃ batch, batch ≠ [] ∧
        (tailed.step event).batches = tailed.batches ++ [(tailed.position, batch)] := by
  cases reading : event.isReading with
  | false =>
      have same := @step_undisturbed tailed event reading
      exact .inl ⟨same.batches, same.position, same.fed fed⟩
  | true =>
      have stays (same : tailed.step event = tailed) :
          (tailed.step event).batches = tailed.batches ∧
            (tailed.step event).position = tailed.position ∧ (tailed.step event).Fed := by
        rw [same]
        exact ⟨rfl, rfl, fed⟩
      cases stage : tailed.stage with
      | resting | begun limit | silent =>
          rw [Fed, stage] at fed
          cases fed
      | waiting limit =>
          have behind : tailed.position < tailed.log.records.length := by
            rw [Fed, stage] at fed
            exact fed
          cases event with
          | begin | collect | answer => exact .inl (stays (by simp only [step, stage]))
          | wake =>
              left
              simp only [step, stage]
              split
              · exact ⟨rfl, rfl, behind⟩
              · exact ⟨rfl, rfl, fed⟩
          | expire =>
              left
              simp only [step, stage]
              exact ⟨trivial, trivial, behind⟩
          | append | push | announce | reject | pause => cases reading
      | woken limit =>
          have behind : tailed.position < tailed.log.records.length := by
            rw [Fed, stage] at fed
            exact fed
          cases event with
          | begin | wake | expire | answer => exact .inl (stays (by simp only [step, stage]))
          | collect =>
              left
              simp only [step, stage]
              exact ⟨trivial, trivial, slice_of_fed limit behind⟩
          | append | push | announce | reject | pause => cases reading
      | found batch =>
          have something : batch ≠ [] := by
            rw [Fed, stage] at fed
            exact fed
          cases event with
          | begin | collect | wake | expire => exact .inl (stays (by simp only [step, stage]))
          | answer =>
              simp only [step, stage, unpaused, Bool.false_eq_true, if_false]
              exact .inr ⟨batch, something, rfl⟩
          | append | push | announce | reject | pause => cases reading

theorem step_keeps_batches (event : TailEvent) :
    tailed.batches <+: (tailed.step event).batches := by
  cases event with
  | append | push | announce | reject | pause =>
      rw [(@step_undisturbed tailed _ rfl).batches]
  | begin limit | expire =>
      rw [step]
      split <;> exact List.prefix_refl _
  | collect =>
      rw [step]
      split
      · split <;> exact List.prefix_refl _
      · exact List.prefix_refl _
      · exact List.prefix_refl _
  | wake =>
      rw [step]
      split
      · split <;> exact List.prefix_refl _
      · exact List.prefix_refl _
  | answer =>
      rw [step]
      split
      · split
        · exact List.prefix_refl _
        · exact List.prefix_append _ _
      · exact List.prefix_append _ _
      · exact List.prefix_refl _

theorem run_keeps_batches (events : List TailEvent) :
    tailed.batches <+: (tailed.run events).batches := by
  induction events generalizing tailed with
  | nil => exact List.prefix_refl _
  | cons event rest induction => exact (step_keeps_batches event).trans induction

theorem run_fed (fed : tailed.Fed) (later : List TailEvent) :
    (tailed.run later).batches = tailed.batches ∨
      (∃ batch others, batch ≠ [] ∧
        (tailed.run later).batches = tailed.batches ++ (tailed.position, batch) :: others) ∨
      ∃ before, before <+: later ∧ (tailed.run before).log.paused = true ∧
        (tailed.run before).batches = tailed.batches := by
  -- A pause at this moment is the case of its own; without one the next step keeps the records.
  induction later generalizing tailed with
  | nil => exact .inl rfl
  | cons event rest induction =>
      cases pausing : tailed.log.paused with
      | true => exact .inr (.inr ⟨[], List.nil_prefix, pausing, rfl⟩)
      | false =>
          obtain ⟨same, place, still⟩ | ⟨batch, some, answered⟩ := step_fed fed pausing event
          · rw [← same, ← place]
            obtain waits | answered | ⟨before, isFront, paused, waits⟩ := induction still
            · exact .inl waits
            · exact .inr (.inl answered)
            · refine .inr (.inr ⟨event :: before, ?_, paused, waits⟩)
              exact (List.prefix_cons_inj event).mpr isFront
          · obtain ⟨others, grown⟩ := @run_keeps_batches (tailed.step event) rest
            refine .inr (.inl ⟨batch, others, some, ?_⟩)
            change ((tailed.step event).run rest).batches = _
            rw [← grown, answered, List.append_assoc]
            rfl

/-- However appends, rejections, pauses and the steps of the reader follow each other, record by
record the offsets are the places, the watermark counts the records but the one that is just being
stored, and the appends that succeed are told their places. The reader gets the records from the
first on, without a gap and each of them once, and each of its batches starts where it stands. A
rejected append leaves everything as it is. With nothing in between, a read answers what the log
reads, and one that waits answers what is there at its deadline. A read that waits when there are
records for it answers with some, or a pause comes before it answers. -/
theorem run_delivers (name : String) (events : List TailEvent) :
    let reached := (following name).run events
    (Record.Gapless 0 reached.log.records ∧
        reached.watermark + reached.appending.toList.length = reached.log.highWatermark ∧
        reached.answers.filterMap Except.toOption = List.range reached.watermark) ∧
      (Consecutive 0 reached.batches ∧
        reached.received = reached.log.records.take reached.position ∧
        reached.received.length = reached.position) ∧
      (reached.appending = none → reached.log.rejecting = true → ∀ key value timestamp,
        reached.step (.append key value timestamp) =
          { reached with
            answers := reached.answers ++ [.error (.write name .logUnavailable)] }) ∧
      (∀ limit,
        (reached.stage = .resting → (reached.run (wholeRead limit)).batches =
          reached.batches ++ [(reached.position, reached.log.read reached.position limit)]) ∧
        (reached.stage = .waiting limit → (reached.run toDeadline).batches =
          reached.batches ++
            [(reached.position, reached.log.available reached.position limit)])) ∧
      ∀ limit, reached.stage = .waiting limit → reached.position < reached.log.records.length →
        ∀ later, (reached.run later).batches = reached.batches ∨
          (∃ batch others, batch ≠ [] ∧
            (reached.run later).batches =
              reached.batches ++ (reached.position, batch) :: others) ∨
          ∃ before, before <+: later ∧ (reached.run before).log.paused = true ∧
            (reached.run before).batches = reached.batches := by
  intro reached
  have sound : reached.Sound name := (sound_following name).run events
  refine ⟨⟨sound.gapless, sound.watermark, sound.answered⟩,
    ⟨sound.consecutive, sound.received, ?_⟩, ?_, ?_, ?_⟩
  · rw [sound.received, List.length_take_of_le sound.inside]
  · intro free rejects key value timestamp
    rw [step_rejected free rejects, sound.named]
  · intro limit
    constructor
    · intro rests
      rw [run_reads rests limit]
    · intro waits
      rw [run_ends limit (.waiting reached.position limit) ?_ waits nofun]
      · rfl
      · rintro _ _ ⟨⟩
        exact ⟨rfl, rfl⟩
  · intro limit waits behind later
    have fed : reached.Fed := by
      rw [Fed, waits]
      exact behind
    exact run_fed fed later

/-- The record is there, and the read that waits for it has not been told. -/
def stored : List TailEvent :=
  [.begin ⟨2, by decide⟩, .collect, .append "topic" (some [1]) 5]

/-- A pause silences the read when it has the record already. -/
def silenced : List TailEvent :=
  stored ++ [.announce, .wake, .collect, .pause true, .answer, .answer, .reject true]

theorem run_delivers_stored :
    let reached := (following "log").run stored
    let told := reached.run [.announce, .wake, .collect, .answer]
    let unheard := (following "log").run silenced
    reached.stage = .waiting ⟨2, by decide⟩ ∧ reached.position < reached.log.records.length ∧
      (∃ batch others, batch ≠ [] ∧
        told.batches = reached.batches ++ (reached.position, batch) :: others) ∧
      unheard.batches = [(0, [])] ∧ unheard.received = unheard.log.records.take 0 ∧
      unheard.log.highWatermark = 1 ∧ unheard.appending = none ∧
      unheard.log.rejecting = true ∧ unheard.step (.append "topic" none 6) =
        { unheard with answers := unheard.answers ++ [.error (.write "log" .logUnavailable)] } := by
  intro reached told unheard
  obtain ⟨-, -, -, -, waits⟩ := run_delivers "log" stored
  obtain ⟨-, ⟨-, received, -⟩, rejects, -⟩ := run_delivers "log" silenced
  refine ⟨rfl, by decide, ?_, rfl, received, rfl, rfl, rfl, rejects rfl rfl "topic" none 6⟩
  obtain nothing | answered | ⟨before, isFront, paused, -⟩ :=
    waits ⟨2, by decide⟩ rfl (by decide) [.announce, .wake, .collect, .answer]
  · cases nothing
  · exact answered
  · have unpaused : ∀ before ∈ List.inits [.announce, .wake, .collect, .answer],
        (reached.run before).log.paused = false := by decide
    rw [unpaused before ((List.mem_inits before _).mpr isFront)] at paused
    cases paused

end TailedLog

end BrokerTenancy
