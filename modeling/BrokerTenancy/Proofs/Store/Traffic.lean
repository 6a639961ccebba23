import BrokerTenancy.Proofs.Store.Delivery
import BrokerTenancy.Store.Write
import Mathlib.Data.List.Induction

/-!
Many callers and one loop over one log. The steps are as small as the callers can tell them apart:
the loop takes a batch into the snapshot, publishes, and only then goes on, and a look-up checks
that the store serves before it reads the snapshot. The log keeps its contract: offsets are dense,
it appends a record at most once for a call, perhaps after the caller gave up, it answers an append
with the offset of its record or with an error, and it delivers records that it holds.
-/

namespace BrokerTenancy

/-- A put or a delete that has begun. -/
structure Call (Value : Type) where
  key : String
  /-- The value of a put; a delete has none. -/
  value : Option Value
  write : Write
  /-- The log was asked for the record and has not appended it. -/
  pending : Bool

/-- A call as it begins: the log is asked if the store serves. -/
def Call.opened {Value : Type} (store : Store Value) (key : String) (value : Option Value) :
    Call Value :=
  let write := Write.begin store
  { key, value, write, pending := write = .appending }

/-- A record of the log, and the call that it was appended for; none for another writer's. -/
structure LogEntry where
  record : Record
  caller : Option Nat
  deriving DecidableEq

/-- What the loop still has to do before it asks the log again. -/
inductive LoopTask where
  /-- A batch is in the snapshot and its end is not published. -/
  | publish (result : Outcome Nat)
  | proceed (position : Nat)

structure Traffic (Value : Type) where
  store : Store Value
  task : Option LoopTask := none
  /-- The offset of the first record of the log. -/
  base : Nat
  log : List LogEntry := []
  calls : List (Call Value) := []
  /-- The low watermark that the loop was told. -/
  low : Option Nat := none
  /-- The records that went into the snapshot, in order. -/
  taken : List Record := []

inductive TrafficEvent (Value : Type) where
  | start
  | begin (key : String) (value : Option Value)
  | append (call : Nat) (timestamp : Int)
  | answer (call : Nat) (outcome : Outcome Nat)
  | observe (call : Nat)
  | expire (call : Nat)
  /-- Another writer appends a record. -/
  | foreign (key : String) (bytes : Option (List UInt8)) (timestamp : Int)
  | low (outcome : Outcome Nat)
  | high (outcome : Outcome Nat)
  | batch (outcome : Outcome (List Record))
  | publish
  | proceed

namespace Store

variable {Value : Type} [Storable Value]

/-- Goes on behind a batch, in the replay or after it. -/
def proceed (store : Store Value) (position : Nat) : Store Value :=
  match store.loop with
  | some (.replaying low _ target) => replayOn low target store position
  | some (.following _) => followOn store position
  | _ => store

theorem absorb_loop (store : Store Value) (position : Nat) (batch : List Record) :
    (store.absorb position batch).1.loop = store.loop := rfl

theorem take_batch_parts (store : Store Value) (position : Nat) (batch : List Record)
    (proceeding : Store Value → Nat → Store Value)
    (same : ∀ (moved : Store Value) next, moved.loop = store.loop →
      proceeding moved next = moved.proceed next) :
    store.takeBatch position batch proceeding =
      if batch.isEmpty then store.proceed position
      else
        match store.absorb position batch with
        | (absorbed, .ok next) => (absorbed.publish next).proceed next
        | (absorbed, .error fault) => absorbed.fail fault := by
  rw [takeBatch]
  split
  · exact same store position rfl
  · have loop := absorb_loop store position batch
    generalize store.absorb position batch = moved at loop ⊢
    obtain ⟨absorbed, result⟩ := moved
    cases result with
    | error fault => rfl
    | ok next => exact same (absorbed.publish next) next loop

/-- Taking a batch in, publishing its end and going on behind it are the step of the loop on a
batch, if nothing comes in between. -/
theorem deliver_batch_parts (store : Store Value) (stage : LoopStage) (position : Nat)
    (batch : List Record) (running : store.loop = some stage)
    (expected : stage.expects = some position) :
    store.deliver (.batch (.ok batch)) =
      if batch.isEmpty then store.proceed position
      else
        match store.absorb position batch with
        | (absorbed, .ok next) => (absorbed.publish next).proceed next
        | (absorbed, .error fault) => absorbed.fail fault := by
  cases stage with
  | replaying low start target =>
      have place : start = position := by simpa [LoopStage.expects] using expected
      subst place
      simp only [deliver, running]
      apply take_batch_parts
      intro moved next loop
      simp [proceed, loop, running]
  | following start =>
      have place : start = position := by simpa [LoopStage.expects] using expected
      subst place
      simp only [deliver, running]
      apply take_batch_parts
      intro moved next loop
      simp [proceed, loop, running]
  | _ => simp [LoopStage.expects] at expected

/-- Publishing the low watermark and going on from it are the step of the loop on a high watermark,
if nothing comes in between. -/
theorem deliver_high_parts (store : Store Value) (low high : Nat)
    (running : store.loop = some (.askingHigh low)) :
    store.deliver (.high (.ok high)) =
      ({ store with loop := some (.replaying low low high) }.publish low).proceed low := by
  simp only [deliver, running, proceed, publish, replayOn]

/-- A look-up that checks one state of the store and reads a later one. -/
def lookUp (checked read : Store Value) (key : String) : Outcome (Option Value) := do
  checked.ensureServing
  return read.snapshot.find? key

omit [Storable Value] in
theorem look_up_same (store : Store Value) (key : String) :
    lookUp store store key = store.get key := rfl

end Store

namespace Traffic

variable {Value : Type}

/-- A store that was created and not started, over an empty log. -/
def fresh (name : String) (limits : StoreLimits) (base : Nat) : Traffic Value :=
  { store := { name, limits }, base }

def records (traffic : Traffic Value) : List Record := traffic.log.map (·.record)

/-- The offset that the log gives to the next record. -/
def nextOffset (traffic : Traffic Value) : Nat := traffic.base + traffic.log.length

/-- The record that the snapshot holds of a key. -/
def source (traffic : Traffic Value) (key : String) : Option Record :=
  Record.latest traffic.taken key

def grow (traffic : Traffic Value) (caller : Option Nat) (key : String)
    (value : Option (List UInt8)) (timestamp : Int) : Traffic Value :=
  let record := { offset := traffic.nextOffset, key, value, timestamp }
  { traffic with log := traffic.log ++ [{ record, caller }] }

def enter (traffic : Traffic Value) (key : String) (value : Option Value) : Traffic Value :=
  { traffic with calls := traffic.calls ++ [Call.opened traffic.store key value] }

/-- Changes how far the write of a call is. -/
def onWrite (traffic : Traffic Value) (call : Nat) (change : Write → Write) : Traffic Value :=
  { traffic with
    calls := traffic.calls.modify call fun held => { held with write := change held.write } }

/-- Whether the log may answer a call so: with an offset only if that is where its record is. -/
def mayAnswer (traffic : Traffic Value) (call : Nat) : Outcome Nat → Bool
  | .ok offset =>
      traffic.log.any fun entry => entry.caller == some call && entry.record.offset == offset
  | .error _ => true

variable [Storable Value]

/-- The log appends the record of a call. -/
def appendFor (traffic : Traffic Value) (call : Nat) (held : Call Value) (timestamp : Int) :
    Traffic Value :=
  { traffic.grow (some call) held.key (held.value.map Store.encodeValue) timestamp with
    calls := traffic.calls.modify call fun held => { held with pending := false } }

def learnLow (traffic : Traffic Value) (low : Nat) : Traffic Value :=
  { traffic with store := traffic.store.deliver (.low (.ok low)), low := some low }

/-- The loop learns the high watermark and publishes the low one. -/
def learnHigh (traffic : Traffic Value) (low high : Nat) : Traffic Value :=
  { traffic with
    store := { traffic.store with loop := some (.replaying low low high) }.publish low
    task := some (.proceed low) }

/-- The loop takes a batch into the snapshot. -/
def takeIn (traffic : Traffic Value) (position : Nat) (batch : List Record) : Traffic Value :=
  let absorbed := traffic.store.absorb position batch
  { traffic with
    store := absorbed.1
    task := some (if batch.isEmpty then .proceed position else .publish absorbed.2)
    taken := traffic.taken ++ Store.takeable Value position batch }

/-- The step that an event makes, if it can happen. -/
def step (traffic : Traffic Value) : TrafficEvent Value → Option (Traffic Value)
  | .start => some { traffic with store := traffic.store.start }
  | .begin key value => some (traffic.enter key value)
  | .append call timestamp =>
      match traffic.calls[call]? with
      | some held => if held.pending then some (traffic.appendFor call held timestamp) else none
      | none => none
  | .answer call outcome =>
      if traffic.mayAnswer call outcome then
        some (traffic.onWrite call (·.logAnswered traffic.store outcome))
      else none
  | .observe call => some (traffic.onWrite call (·.observe traffic.store))
  | .expire call => some (traffic.onWrite call (·.expire traffic.store))
  | .foreign key bytes timestamp => some (traffic.grow none key bytes timestamp)
  | .low outcome =>
      match traffic.store.loop, outcome with
      | some .askingLow, .ok low =>
          if low ≤ traffic.nextOffset then some (traffic.learnLow low) else none
      | some .askingLow, .error fault =>
          some { traffic with store := traffic.store.fail fault, task := none }
      | _, _ => none
  | .high outcome =>
      match traffic.store.loop, outcome with
      | some (.askingHigh low), .ok high => some (traffic.learnHigh low high)
      | some (.askingHigh _), .error fault =>
          some { traffic with store := traffic.store.fail fault, task := none }
      | _, _ => none
  | .batch outcome =>
      match traffic.task, traffic.store.loop.bind LoopStage.expects, outcome with
      | none, some position, .ok batch =>
          if ∀ record ∈ batch, record ∈ traffic.records then some (traffic.takeIn position batch)
          else none
      | none, some _, .error fault =>
          some { traffic with store := traffic.store.fail fault, task := none }
      | _, _, _ => none
  | .publish =>
      match traffic.task with
      | some (.publish (.ok position)) =>
          some { traffic with
            store := traffic.store.publish position
            task := some (.proceed position) }
      | some (.publish (.error fault)) =>
          some { traffic with store := traffic.store.fail fault, task := none }
      | _ => none
  | .proceed =>
      match traffic.task with
      | some (.proceed position) =>
          some { traffic with store := traffic.store.proceed position, task := none }
      | _ => none

def run (traffic : Traffic Value) (events : List (TrafficEvent Value)) : Option (Traffic Value) :=
  events.foldlM step traffic

/-- The states that one step leads to, by what makes it. -/
inductive Move (traffic : Traffic Value) : Traffic Value → Prop where
  | start : Move traffic { traffic with store := traffic.store.start }
  | begin (key : String) (value : Option Value) :
      Move traffic (traffic.enter key value)
  | append (call : Nat) (held : Call Value) (timestamp : Int)
      (found : traffic.calls[call]? = some held) (pending : held.pending) :
      Move traffic (traffic.appendFor call held timestamp)
  | foreign (key : String) (bytes : Option (List UInt8)) (timestamp : Int) :
      Move traffic (traffic.grow none key bytes timestamp)
  | answer (call : Nat) (outcome : Outcome Nat) (allowed : traffic.mayAnswer call outcome) :
      Move traffic (traffic.onWrite call (·.logAnswered traffic.store outcome))
  | observe (call : Nat) : Move traffic (traffic.onWrite call (·.observe traffic.store))
  | expire (call : Nat) : Move traffic (traffic.onWrite call (·.expire traffic.store))
  | fail (fault : Fault) :
      Move traffic { traffic with store := traffic.store.fail fault, task := none }
  | low (low : Nat) (asking : traffic.store.loop = some .askingLow)
      (bounded : low ≤ traffic.nextOffset) : Move traffic (traffic.learnLow low)
  | high (low high : Nat) (asking : traffic.store.loop = some (.askingHigh low)) :
      Move traffic (traffic.learnHigh low high)
  | batch (position : Nat) (batch : List Record) (idle : traffic.task = none)
      (expected : traffic.store.loop.bind LoopStage.expects = some position)
      (held : ∀ record ∈ batch, record ∈ traffic.records) :
      Move traffic (traffic.takeIn position batch)
  | publish (position : Nat) (due : traffic.task = some (.publish (.ok position))) :
      Move traffic
        { traffic with store := traffic.store.publish position, task := some (.proceed position) }
  | proceed (position : Nat) (due : traffic.task = some (.proceed position)) :
      Move traffic { traffic with store := traffic.store.proceed position, task := none }

theorem move_of_step {traffic next : Traffic Value} {event : TrafficEvent Value}
    (stepped : traffic.step event = some next) : Move traffic next := by
  cases event with
  | start =>
      obtain rfl := Option.some_inj.mp stepped
      exact .start
  | begin key value =>
      obtain rfl := Option.some_inj.mp stepped
      exact .begin key value
  | append call timestamp =>
      simp only [step] at stepped
      split at stepped
      · next held found =>
        split at stepped
        · next pending =>
          obtain rfl := Option.some_inj.mp stepped
          exact .append call held timestamp found pending
        · simp at stepped
      · simp at stepped
  | answer call outcome =>
      simp only [step] at stepped
      split at stepped
      · next allowed =>
        obtain rfl := Option.some_inj.mp stepped
        exact .answer call outcome allowed
      · simp at stepped
  | observe call =>
      obtain rfl := Option.some_inj.mp stepped
      exact .observe call
  | expire call =>
      obtain rfl := Option.some_inj.mp stepped
      exact .expire call
  | foreign key bytes timestamp =>
      obtain rfl := Option.some_inj.mp stepped
      exact .foreign key bytes timestamp
  | low outcome =>
      simp only [step] at stepped
      split at stepped
      · next low asking =>
        split at stepped
        · next bounded =>
          obtain rfl := Option.some_inj.mp stepped
          exact .low low asking bounded
        · simp at stepped
      · next fault asking =>
        obtain rfl := Option.some_inj.mp stepped
        exact .fail fault
      · simp at stepped
  | high outcome =>
      simp only [step] at stepped
      split at stepped
      · next low high asking =>
        obtain rfl := Option.some_inj.mp stepped
        exact .high low high asking
      · next fault asking =>
        obtain rfl := Option.some_inj.mp stepped
        exact .fail fault
      · simp at stepped
  | batch outcome =>
      simp only [step] at stepped
      split at stepped
      · next position batch idle expected =>
        split at stepped
        · next held =>
          obtain rfl := Option.some_inj.mp stepped
          exact .batch position batch idle expected held
        · simp at stepped
      · next position fault idle expected =>
        obtain rfl := Option.some_inj.mp stepped
        exact .fail fault
      · simp at stepped
  | publish =>
      simp only [step] at stepped
      split at stepped
      · next position due =>
        obtain rfl := Option.some_inj.mp stepped
        exact .publish position due
      · next fault due =>
        obtain rfl := Option.some_inj.mp stepped
        exact .fail fault
      · simp at stepped
  | proceed =>
      simp only [step] at stepped
      split at stepped
      · next position due =>
        obtain rfl := Option.some_inj.mp stepped
        exact .proceed position due
      · simp at stepped

theorem run_append_singleton {traffic next : Traffic Value} {earlier : List (TrafficEvent Value)}
    {event : TrafficEvent Value} (ran : run traffic (earlier ++ [event]) = some next) :
    ∃ before, run traffic earlier = some before ∧ before.step event = some next := by
  rw [run, List.foldlM_append] at ran
  obtain ⟨before, reached, last⟩ := Option.bind_eq_some_iff.mp ran
  exact ⟨before, reached, by simpa using last⟩

/-- What a later state keeps of an earlier one. -/
structure Grows (earlier later : Traffic Value) : Prop where
  base : later.base = earlier.base
  log : earlier.log <+: later.log
  taken : earlier.taken <+: later.taken
  /-- A call keeps its key and value, and once it has returned its result. -/
  calls : ∀ (call : Nat) (held : Call Value), earlier.calls[call]? = some held →
    ∃ now : Call Value, later.calls[call]? = some now ∧ now.key = held.key ∧
      now.value = held.value ∧
      ∀ result, held.write = .finished result → now.write = .finished result

section Growth

omit [Storable Value]

theorem Grows.refl (traffic : Traffic Value) : Grows traffic traffic :=
  ⟨rfl, List.prefix_refl _, List.prefix_refl _, fun _ held found =>
    ⟨held, found, rfl, rfl, fun _ finished => finished⟩⟩

theorem Grows.trans {first second third : Traffic Value} (before : Grows first second)
    (after : Grows second third) : Grows first third := by
  refine ⟨after.base.trans before.base, before.log.trans after.log,
    before.taken.trans after.taken, ?_⟩
  intro call held found
  obtain ⟨middle, stored, sameKey, sameValue, finished⟩ := before.calls call held found
  obtain ⟨now, current, nextKey, nextValue, still⟩ := after.calls call middle stored
  exact ⟨now, current, nextKey.trans sameKey, nextValue.trans sameValue, fun result done =>
    still result (finished result done)⟩

theorem grows_of_same_calls {traffic next : Traffic Value} (base : next.base = traffic.base)
    (log : traffic.log <+: next.log) (taken : traffic.taken <+: next.taken)
    (calls : next.calls = traffic.calls) : Grows traffic next := by
  refine ⟨base, log, taken, ?_⟩
  intro call held found
  exact ⟨held, by rw [calls, found], rfl, rfl, fun _ finished => finished⟩

theorem grows_modify {traffic : Traffic Value} (call : Nat) (change : Call Value → Call Value)
    (log : List LogEntry) (longer : traffic.log <+: log)
    (keeps : ∀ held, (change held).key = held.key ∧ (change held).value = held.value ∧
      ∀ result, held.write = .finished result → (change held).write = .finished result) :
    Grows traffic { traffic with calls := traffic.calls.modify call change, log } := by
  refine ⟨rfl, longer, List.prefix_refl _, ?_⟩
  intro other held found
  simp only [List.getElem?_modify, found, Option.map_eq_map, Option.map_some]
  by_cases same : call = other
  · obtain ⟨sameKey, sameValue, finished⟩ := keeps held
    exact ⟨change held, by rw [if_pos same], sameKey, sameValue, finished⟩
  · exact ⟨held, by rw [if_neg same], rfl, rfl, fun _ finished => finished⟩

end Growth

theorem Move.grows {traffic next : Traffic Value} (move : Move traffic next) :
    Grows traffic next := by
  cases move with
  | begin key value =>
      refine ⟨rfl, List.prefix_refl _, List.prefix_refl _, ?_⟩
      intro call held found
      have inside := (List.getElem?_eq_some_iff.mp found).choose
      exact ⟨held, by rw [enter, List.getElem?_append_left inside, found], rfl, rfl,
        fun _ finished => finished⟩
  | append call held timestamp found pending =>
      exact grows_modify call _ _ (List.prefix_append _ _) fun _ =>
        ⟨rfl, rfl, fun _ finished => finished⟩
  | answer call outcome allowed =>
      exact grows_modify call _ _ (List.prefix_refl _) fun held =>
        ⟨rfl, rfl, fun result finished => by rw [finished]; rfl⟩
  | observe call =>
      exact grows_modify call _ _ (List.prefix_refl _) fun held =>
        ⟨rfl, rfl, fun result finished => by rw [finished]; rfl⟩
  | expire call =>
      exact grows_modify call _ _ (List.prefix_refl _) fun held =>
        ⟨rfl, rfl, fun result finished => by rw [finished]; rfl⟩
  | foreign key bytes timestamp =>
      exact grows_of_same_calls rfl (List.prefix_append _ _) (List.prefix_refl _) rfl
  | batch position batch idle expected held =>
      exact grows_of_same_calls rfl (List.prefix_refl _) (List.prefix_append _ _) rfl
  | _ => exact grows_of_same_calls rfl (List.prefix_refl _) (List.prefix_refl _) rfl

theorem run_grows {traffic next : Traffic Value} {events : List (TrafficEvent Value)}
    (ran : run traffic events = some next) : Grows traffic next := by
  induction events using List.reverseRecOn generalizing next with
  | nil =>
      obtain rfl := Option.some_inj.mp ran
      exact .refl traffic
  | append_singleton earlier event induction =>
      obtain ⟨before, reached, stepped⟩ := run_append_singleton ran
      exact (induction reached).trans (move_of_step stepped).grows

end Traffic

end BrokerTenancy
