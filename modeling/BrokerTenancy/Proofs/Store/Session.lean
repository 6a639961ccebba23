import BrokerTenancy.Proofs.Store.Loop
import BrokerTenancy.Store.Write
import Mathlib.Data.List.Induction

/-!
A store in use, over a log that may answer anything. The events of a session are the calls that
change something and the answers that the log gives to a loop; look-ups change nothing and are
read off its states. A shutdown only asks a loop to stop: the loop may still take answers that it
has not noticed the shutdown at, also when a new loop was started beside it.

A run counts offsets with the numbers unless it is given another count, such as `Offset.succ`. The
two make one run as long as the log delivers no record at the last offset.
-/

namespace BrokerTenancy

namespace Offset

theorem succ_of_ne_last {offset : Nat} (inFront : offset ≠ last) : succ offset = offset + 1 :=
  if_neg inFront

theorem succ_eq_mod {offset : Nat} (inside : offset ≤ last) :
    succ offset = (offset + 1) % 2 ^ 64 := by
  by_cases isLast : offset = last
  · rw [isLast]
    rfl
  · have below : offset + 1 < 2 ^ 64 := by
      rw [last, UInt64.size] at inside isLast
      omega
    rw [succ_of_ne_last isLast, Nat.mod_eq_of_lt below]

/-- To count on from an offset is to add in sixty-four bits. -/
theorem iterate_succ_eq_mod {offset : Nat} (inside : offset ≤ last) (count : Nat) :
    succ^[count] offset = (offset + count) % 2 ^ 64 := by
  induction count with
  | zero => exact (Nat.mod_eq_of_lt (Nat.lt_of_le_pred (by decide) inside)).symm
  | succ count induction =>
      have still : (offset + count) % 2 ^ 64 ≤ last := Nat.le_pred_of_lt (Nat.mod_lt _ (by decide))
      rw [Function.iterate_succ_apply', induction, succ_eq_mod still, Nat.mod_add_mod,
        Nat.add_assoc]

end Offset

structure Session (Value : Type) where
  store : Store Value
  /-- The loops that were told to stop, the oldest first. -/
  leaving : List LoopStage := []
  writes : List Write := []
  /-- Each offset that was published, with the loop that did it. -/
  published : List (Nat × Nat) := []

/-- What happens to a session. Loops and writes are numbered in the order in which they began. -/
inductive SessionEvent where
  | start
  | shutDown
  | answer (loop : Nat) (delivery : Delivery)
  /-- A put or a delete begins. What becomes of its record is up to the log. -/
  | beginWrite
  | logAnswered (write : Nat) (answer : Outcome Nat)
  | observe (write : Nat)
  | expire (write : Nat)

namespace Session

variable {Value : Type}

/-- A store that was created and not started. -/
def fresh (name : String) (limits : StoreLimits) : Session Value := { store := { name, limits } }

/-- Where a loop is, if it was ever started. -/
def stage (session : Session Value) (loop : Nat) : Option LoopStage :=
  (session.leaving ++ session.store.loop.toList)[loop]?

/-- The offsets that a loop published. -/
def publishedBy (session : Session Value) (loop : Nat) : List Nat :=
  session.published.flatMap fun entry => if entry.1 = loop then [entry.2] else []

variable [Storable Value]

/-- A loop takes an answer. All loops write to the one store. -/
def turn (session : Session Value) (loop : Nat) (stage : LoopStage) (delivery : Delivery)
    (succ : Nat → Nat := (· + 1)) : Session Value :=
  let acting := { session.store with loop := some stage }
  let moved := acting.deliver delivery succ
  { session with
    store :=
      if loop < session.leaving.length then { moved with loop := session.store.loop } else moved
    leaving := session.leaving.set loop (moved.loop.getD .ended)
    published := session.published ++ (acting.publication delivery succ).toList.map (loop, ·) }

/-- The step that an event makes, if it can happen. -/
def step (session : Session Value) (event : SessionEvent) (succ : Nat → Nat := (· + 1)) :
    Option (Session Value) :=
  match event with
  | .start => some { session with store := session.store.start }
  | .shutDown =>
      some { session with
        store := session.store.shutDown
        leaving := session.leaving ++ session.store.loop.toList }
  | .answer loop delivery =>
      match session.stage loop with
      | some stage =>
          if stage.awaits delivery then some (session.turn loop stage delivery succ) else none
      | none => none
  | .beginWrite => some { session with writes := session.writes ++ [Write.begin session.store] }
  | .logAnswered write answer =>
      some { session with
        writes := session.writes.modify write (·.logAnswered session.store answer) }
  | .observe write =>
      some { session with writes := session.writes.modify write (·.observe session.store) }
  | .expire write =>
      some { session with writes := session.writes.modify write (·.expire session.store) }

def run (session : Session Value) (events : List SessionEvent) (succ : Nat → Nat := (· + 1)) :
    Option (Session Value) :=
  events.foldlM (fun session event => session.step event succ) session

variable {succ : Nat → Nat}

theorem run_append_singleton {session next : Session Value} {earlier : List SessionEvent}
    {event : SessionEvent} (ran : run session (earlier ++ [event]) succ = some next) :
    ∃ before, run session earlier succ = some before ∧ before.step event succ = some next := by
  rw [run, List.foldlM_append] at ran
  obtain ⟨before, reached, last⟩ := Option.bind_eq_some_iff.mp ran
  exact ⟨before, reached, by simpa using last⟩

theorem step_answer {session next : Session Value} {loop : Nat} {delivery : Delivery}
    (stepped : session.step (.answer loop delivery) succ = some next) :
    ∃ current, session.stage loop = some current ∧ current.awaits delivery ∧
      next = session.turn loop current delivery succ := by
  simp only [step] at stepped
  split at stepped
  · next current found =>
    split at stepped
    · next awaited => exact ⟨current, found, awaited, (Option.some_inj.mp stepped).symm⟩
    · simp at stepped
  · simp at stepped

/-- The low watermarks that the log told a loop. -/
def lowWatermarks (loop : Nat) (events : List SessionEvent) : List Nat :=
  events.flatMap fun event =>
    match event with
    | .answer other delivery => if other = loop then delivery.lows else []
    | _ => []

/-- The records that the log delivered to a loop, in order. -/
def delivered (loop : Nat) (events : List SessionEvent) : List Record :=
  events.flatMap fun event =>
    match event with
    | .answer other delivery => if other = loop then delivery.records else []
    | _ => []

theorem turn_counted (session : Session Value) (loop : Nat) (current : LoopStage)
    (delivery : Delivery) (awaited : current.awaits delivery)
    (rising : ∀ record ∈ delivery.records, succ record.offset = record.offset + 1) :
    session.turn loop current delivery succ = session.turn loop current delivery := by
  obtain ⟨moved, published⟩ := Store.deliver_counted { session.store with loop := some current }
    current delivery rfl awaited rising
  simp only [turn, moved, published]

theorem step_counted (session : Session Value) (event : SessionEvent)
    (rising : ∀ loop, ∀ record ∈ delivered loop [event], succ record.offset = record.offset + 1) :
    session.step event succ = session.step event := by
  cases event with
  | answer loop delivery =>
      have records : delivered loop [.answer loop delivery] = delivery.records := by
        simp [delivered]
      have rises := rising loop
      rw [records] at rises
      simp only [step]
      split
      · next stage found =>
        split
        · next awaited => rw [session.turn_counted loop stage delivery awaited rises]
        · rfl
      · rfl
  | _ => rfl

/-- Unless a record stands at the last offset, a run counts with the numbers. -/
theorem run_counted (session : Session Value) (events : List SessionEvent)
    (inFront : ∀ loop, ∀ record ∈ delivered loop events, record.offset ≠ Offset.last) :
    run session events Offset.succ = run session events := by
  induction events generalizing session with
  | nil => rfl
  | cons event later induction =>
      have front (loop : Nat) : delivered loop (event :: later) =
          delivered loop [event] ++ delivered loop later := by
        rw [← List.singleton_append, delivered, List.flatMap_append]
        rfl
      have stepped := session.step_counted event fun loop record member =>
        Offset.succ_of_ne_last (inFront loop record (front loop ▸ List.mem_append_left _ member))
      have goesOn (next : Session Value) := induction next fun loop record member =>
        inFront loop record (front loop ▸ List.mem_append_right _ member)
      simp only [run, List.foldlM_cons, stepped]
      exact bind_congr goesOn

def history (session : Session Value) (events : List SessionEvent) (loop : Nat) : LoopHistory :=
  { lows := lowWatermarks loop events
    records := delivered loop events
    published := session.publishedBy loop }

/-- The progress of the one loop of a store that was never stopped. -/
structure Undisturbed (store : Store Value) (history : LoopHistory) : Prop where
  snapshot : store.snapshot = Store.replay history.records
  /-- What is published is what the loop has taken. -/
  applied : ∀ position, store.loop.bind LoopStage.expects = some position →
    store.status.applied = position
  ready : store.status.ready → ∃ position, store.loop = some (.following position)

/-- What holds of every state that events lead to. -/
structure Invariant (events : List SessionEvent) (session : Session Value)
    (succ : Nat → Nat := (· + 1)) : Prop where
  /-- Each loop is where its own history puts it. -/
  loops : ∀ loop, (session.history events loop).Explains Value succ (session.stage loop)
  /-- A loop that leaves or that has ended has stopped the store. -/
  halted : ∀ loop stage, session.stage loop = some stage →
    loop < session.leaving.length ∨ stage = .ended → session.store.status.fatal.isSome
  undisturbed : session.store.status.fatal = none →
    Undisturbed session.store (session.history events 0)

/-- No loop leaves a store that has not stopped. -/
theorem Invariant.alone {events : List SessionEvent} {session : Session Value}
    (invariant : Invariant events session succ) (going : session.store.status.fatal = none) :
    session.leaving = [] := by
  by_contra others
  have positive : 0 < session.leaving.length := List.length_pos_iff.mpr others
  have held : session.stage 0 = some session.leaving[0] := by
    rw [stage, List.getElem?_append_left positive]
    exact List.getElem?_eq_getElem positive
  have stopped := invariant.halted 0 _ held (.inl positive)
  simp [going] at stopped

theorem invariant_fresh (name : String) (limits : StoreLimits) :
    Invariant [] (fresh name limits : Session Value) succ where
  loops := fun loop => rfl
  halted := by simp [stage, fresh]
  undisturbed := fun _ => ⟨rfl, by simp [fresh], by simp [fresh]⟩

omit [Storable Value] in
theorem stage_lt {session : Session Value} {loop : Nat} {stage : LoopStage}
    (found : session.stage loop = some stage) :
    loop < session.leaving.length ∧ session.leaving[loop]? = some stage ∨
      loop = session.leaving.length ∧ session.store.loop = some stage := by
  by_cases isLeaving : loop < session.leaving.length
  · rw [Session.stage, List.getElem?_append_left isLeaving] at found
    exact .inl ⟨isLeaving, found⟩
  · rw [Session.stage, List.getElem?_append_right (Nat.le_of_not_lt isLeaving)] at found
    obtain ⟨inside, -⟩ := List.getElem?_eq_some_iff.mp found
    have single := Option.length_toList_le (o := session.store.loop)
    have last : loop = session.leaving.length := by omega
    rw [last, Nat.sub_self] at found
    cases held : session.store.loop with
    | none => simp [held] at found
    | some current =>
        rw [held] at found
        exact .inr ⟨last, by simpa using found⟩

omit [Storable Value] in
theorem stage_start (session : Session Value) (loop : Nat) :
    stage { session with store := session.store.start } loop = session.stage loop ∨
      session.stage loop = none ∧
        stage { session with store := session.store.start } loop = some .askingLow := by
  cases held : session.store.loop with
  | some current => exact .inl (by simp [stage, Store.start, held])
  | none =>
      by_cases isLeaving : loop < session.leaving.length
      · left
        simp [stage, Store.start, held, List.getElem?_append_left isLeaving]
      · by_cases isNew : loop = session.leaving.length
        · right
          simp [stage, Store.start, held, isNew]
        · left
          have beyond : session.leaving.length < loop := by omega
          simp [stage, Store.start, held, beyond, Nat.le_of_not_lt isLeaving]

theorem stage_turn {session : Session Value} {loop : Nat} {current : LoopStage}
    (delivery : Delivery) (found : session.stage loop = some current)
    (awaited : current.awaits delivery) (other : Nat) :
    (session.turn loop current delivery succ).stage other =
      if other = loop then
        (Store.deliver { session.store with loop := some current } delivery succ).loop
      else session.stage other := by
  obtain ⟨after, moved⟩ :=
    @Store.deliver_loop _ _ succ { session.store with loop := some current } current delivery rfl
      awaited
  obtain ⟨isLeaving, held⟩ | ⟨isLast, held⟩ := stage_lt found
  · simp only [turn, stage, if_pos isLeaving, moved, Option.getD_some]
    by_cases same : other = loop
    · subst same
      rw [if_pos rfl, List.getElem?_append_left (by simpa using isLeaving)]
      simp [isLeaving]
    · rw [if_neg same]
      simp only [List.getElem?_append, List.length_set, List.getElem?_set_ne (Ne.symm same)]
  · subst isLast
    simp only [turn, stage, if_neg (Nat.lt_irrefl _), moved]
    rw [List.set_eq_of_length_le (Nat.le_refl _)]
    by_cases same : other = session.leaving.length
    · subst same
      simp
    · rw [if_neg same]
      by_cases isLeaving : other < session.leaving.length
      · simp only [List.getElem?_append_left isLeaving]
      · have beyond : session.leaving.length < other := by omega
        simp [held, beyond]

theorem turn_status (session : Session Value) (loop : Nat) (current : LoopStage)
    (delivery : Delivery) :
    (session.turn loop current delivery succ).store.status =
      (Store.deliver { session.store with loop := some current } delivery succ).status := by
  unfold turn
  split <;> rfl

theorem history_turn (session : Session Value) (events : List SessionEvent) (loop : Nat)
    (current : LoopStage) (delivery : Delivery) :
    (session.turn loop current delivery succ).history (events ++ [.answer loop delivery]) loop =
      (session.history events loop).hear delivery
        (Store.publication { session.store with loop := some current } delivery succ) := by
  simp only [history, LoopHistory.hear, lowWatermarks, delivered, publishedBy, turn,
    List.flatMap_append, List.flatMap_singleton, if_true]
  congr 2
  cases Store.publication { session.store with loop := some current } delivery succ <;> simp

theorem history_turn_other (session : Session Value) (events : List SessionEvent) (loop : Nat)
    (current : LoopStage) (delivery : Delivery) (other : Nat) (different : other ≠ loop) :
    (session.turn loop current delivery succ).history (events ++ [.answer loop delivery]) other =
      session.history events other := by
  simp only [history, lowWatermarks, delivered, publishedBy, turn, List.flatMap_append,
    List.flatMap_singleton, if_neg different.symm, List.append_nil]
  congr 2
  cases Store.publication { session.store with loop := some current } delivery succ <;>
    simp [different.symm]

omit [Storable Value] in
/-- An event that is no answer adds nothing to the history of a loop. -/
theorem history_quiet {session next : Session Value} {event : SessionEvent}
    (events : List SessionEvent) (published : next.published = session.published)
    (quiet : ∀ loop, lowWatermarks loop [event] = [] ∧ delivered loop [event] = [])
    (loop : Nat) : next.history (events ++ [event]) loop = session.history events loop := by
  obtain ⟨noLow, noRecord⟩ := quiet loop
  simp only [lowWatermarks, List.flatMap_singleton] at noLow
  simp only [delivered, List.flatMap_singleton] at noRecord
  simp only [history, lowWatermarks, delivered, publishedBy, published, List.flatMap_append,
    List.flatMap_singleton, noLow, noRecord, List.append_nil]

theorem undisturbed_deliver {history : LoopHistory} (store : Store Value) (current : LoopStage)
    (delivery : Delivery) (running : store.loop = some current) (awaited : current.awaits delivery)
    (undisturbed : Undisturbed store history)
    (going : (store.deliver delivery succ).status.fatal = none) :
    Undisturbed (store.deliver delivery succ)
      (history.hear delivery (store.publication delivery succ)) := by
  -- The loop stands where `ready` and `applied` say, so each answer meets one stage only.
  have notReady (other : ∀ position, current ≠ .following position) :
      store.status.ready = false := by
    by_contra isReady
    obtain ⟨position, following⟩ := undisturbed.ready (by simpa using isReady)
    rw [running] at following
    exact other position (Option.some_inj.mp following)
  obtain ⟨fault, faulty, moved⟩ | ⟨low, isLow, told, moved⟩ |
    ⟨low, high, replayed, isHigh, told, moved⟩ |
    ⟨position, batch, replayed, expected, told, whole, moved⟩ |
    ⟨position, batch, fault, expected, told, broken, moved⟩ :=
      @Store.deliver_cases _ _ succ store current delivery running awaited
  · simp [moved, Store.fail] at going
  · subst isLow told
    have before := notReady (by simp)
    rw [moved]
    exact ⟨by simpa [LoopHistory.hear, Delivery.records] using undisturbed.snapshot,
      by simp [LoopStage.expects], by simp [before]⟩
  · subst isHigh told
    have before := notReady (by simp)
    rw [moved]
    refine ⟨by simpa [LoopHistory.hear, Delivery.records] using undisturbed.snapshot, ?_, ?_⟩
    · intro position expected
      rw [Option.bind_some, LoopStage.advance_expects] at expected
      exact Option.some_inj.mp expected
    · intro isReady
      have atEnd : (LoopStage.replaying low low high).completes low := by
        simpa [before] using isReady
      exact ⟨low, congrArg some (LoopStage.advance_of_completes atEnd)⟩
  · subst told
    have applied := undisturbed.applied position (by rw [running]; exact expected)
    rw [moved]
    refine ⟨?_, ?_, ?_⟩
    · simp only [LoopHistory.hear, Delivery.records, Store.replay_append, undisturbed.snapshot]
    · intro next expectedNext
      rw [Option.bind_some, LoopStage.advance_expects] at expectedNext
      rw [← Option.some_inj.mp expectedNext]
      by_cases empty : batch = []
      · simp [Store.appliedAfter, empty, applied]
      · simp [Store.appliedAfter, empty]
    · intro isReady
      refine ⟨succ^[batch.length] position, congrArg some ?_⟩
      obtain before | atEnd := Bool.or_eq_true_iff.mp isReady
      · obtain ⟨start, following⟩ := undisturbed.ready before
        rw [running] at following
        rw [Option.some_inj.mp following]
        rfl
      · exact LoopStage.advance_of_completes atEnd
  · simp [moved, Store.fail] at going

theorem invariant_start {events : List SessionEvent} {session : Session Value}
    (invariant : Invariant events session succ) :
    Invariant (events ++ [.start]) { session with store := session.store.start } succ := by
  have sameHistory (loop : Nat) :
      history { session with store := session.store.start } (events ++ [.start]) loop =
        session.history events loop :=
    history_quiet events rfl (fun _ => ⟨rfl, rfl⟩) loop
  have sameStatus := Store.start_status session.store
  refine ⟨?_, ?_, ?_⟩
  · intro loop
    have explains := invariant.loops loop
    rw [sameHistory]
    obtain same | ⟨absent, asking⟩ := stage_start session loop
    · rw [same]
      exact explains
    · rw [absent] at explains
      rw [asking]
      exact explains
  · intro loop current found stopping
    rw [sameStatus]
    obtain same | ⟨absent, asking⟩ := stage_start session loop
    · exact invariant.halted loop current (same ▸ found) stopping
    -- The new loop neither leaves nor has ended.
    · obtain isLeaving | isEnded := stopping
      · have inside : loop < (session.leaving ++ session.store.loop.toList).length := by
          rw [List.length_append]
          exact Nat.lt_add_right _ isLeaving
        rw [stage, List.getElem?_eq_getElem inside] at absent
        simp at absent
      · rw [asking, isEnded] at found
        simp at found
  · intro going
    rw [sameStatus] at going
    have undisturbed := invariant.undisturbed going
    rw [sameHistory]
    cases held : session.store.loop with
    | some current =>
        have same : session.store.start = session.store := by simp [Store.start, held]
        rw [same]
        exact undisturbed
    | none =>
        have begun : session.store.start = { session.store with loop := some .askingLow } := by
          simp [Store.start, held]
        rw [begun]
        refine ⟨undisturbed.snapshot, by simp [LoopStage.expects], ?_⟩
        intro isReady
        obtain ⟨position, following⟩ := undisturbed.ready isReady
        simp [held] at following

theorem invariant_shut_down {events : List SessionEvent} {session : Session Value}
    (invariant : Invariant events session succ) :
    Invariant (events ++ [.shutDown])
      { session with
        store := session.store.shutDown
        leaving := session.leaving ++ session.store.loop.toList } succ where
  loops := by
    intro loop
    have sameStage : stage
        { session with
          store := session.store.shutDown
          leaving := session.leaving ++ session.store.loop.toList } loop = session.stage loop := by
      simp [stage, Store.shutDown]
    have sameHistory := @history_quiet _ session
      { session with
        store := session.store.shutDown
        leaving := session.leaving ++ session.store.loop.toList } .shutDown events rfl
      (fun _ => ⟨rfl, rfl⟩) loop
    rw [sameStage, sameHistory]
    exact invariant.loops loop
  halted := fun _ _ _ _ => rfl
  undisturbed := by simp [Store.shutDown]

theorem invariant_turn {events : List SessionEvent} {session : Session Value} {loop : Nat}
    {current : LoopStage} (delivery : Delivery) (invariant : Invariant events session succ)
    (found : session.stage loop = some current) (awaited : current.awaits delivery) :
    Invariant (events ++ [.answer loop delivery]) (session.turn loop current delivery succ)
      succ := by
  have sameLength : (session.turn loop current delivery succ).leaving.length =
      session.leaving.length := by simp [turn]
  have stays (stopped : session.store.status.fatal.isSome) :
      (session.turn loop current delivery succ).store.status.fatal.isSome := by
    rw [turn_status]
    exact Store.deliver_fatal { session.store with loop := some current } current delivery rfl
      awaited stopped
  refine ⟨?_, ?_, ?_⟩
  · intro other
    rw [stage_turn delivery found awaited]
    by_cases same : other = loop
    · subst same
      rw [if_pos rfl, history_turn]
      exact LoopHistory.explains_deliver { session.store with loop := some current } current
        delivery rfl awaited (found ▸ invariant.loops other)
    · rw [if_neg same, history_turn_other _ _ _ _ _ _ same]
      exact invariant.loops other
  · intro other next held stopping
    rw [stage_turn delivery found awaited] at held
    rw [sameLength] at stopping
    by_cases same : other = loop
    · subst same
      rw [if_pos rfl] at held
      obtain isLeaving | isEnded := stopping
      · exact stays (invariant.halted other current found (.inl isLeaving))
      · rw [turn_status]
        exact Store.deliver_ended { session.store with loop := some current } current delivery rfl
          awaited (isEnded ▸ held)
    · rw [if_neg same] at held
      exact stays (invariant.halted other next held stopping)
  · intro going
    have notStopped : session.store.status.fatal = none := by
      by_contra stopped
      have still := stays (Option.isSome_iff_ne_none.mpr stopped)
      simp [going] at still
    -- A store that goes on has one loop, so it is the one that took the answer.
    obtain ⟨isLeaving, -⟩ | ⟨isLast, running⟩ := stage_lt found
    · have stopped := invariant.halted loop current found (.inl isLeaving)
      simp [notStopped] at stopped
    · have alone := List.length_eq_zero_iff.mpr (invariant.alone notStopped)
      have isFirst : loop = 0 := by omega
      subst isFirst
      have acting : { session.store with loop := some current } = session.store := by
        rw [← running]
      have sameStore : (session.turn 0 current delivery succ).store =
          session.store.deliver delivery succ := by
        simp only [turn, alone, if_neg (Nat.lt_irrefl 0), acting]
      rw [sameStore] at going ⊢
      rw [history_turn, acting]
      exact undisturbed_deliver session.store current delivery running awaited
        (invariant.undisturbed notStopped) going

theorem invariant_writes {events : List SessionEvent} {session : Session Value}
    {event : SessionEvent} (invariant : Invariant events session succ) (writes : List Write)
    (quiet : ∀ loop, lowWatermarks loop [event] = [] ∧ delivered loop [event] = []) :
    Invariant (events ++ [event]) { session with writes } succ := by
  have sameHistory (loop : Nat) :
      history { session with writes } (events ++ [event]) loop = session.history events loop :=
    history_quiet events rfl quiet loop
  refine ⟨?_, invariant.halted, ?_⟩
  · intro loop
    rw [sameHistory]
    exact invariant.loops loop
  · intro going
    rw [sameHistory]
    exact invariant.undisturbed going

theorem invariant_step {events : List SessionEvent} {session next : Session Value}
    {event : SessionEvent} (invariant : Invariant events session succ)
    (stepped : session.step event succ = some next) : Invariant (events ++ [event]) next succ := by
  cases event with
  | start =>
      obtain rfl := Option.some_inj.mp stepped
      exact invariant_start invariant
  | shutDown =>
      obtain rfl := Option.some_inj.mp stepped
      exact invariant_shut_down invariant
  | answer loop delivery =>
      obtain ⟨current, found, awaited, rfl⟩ := step_answer stepped
      exact invariant_turn delivery invariant found awaited
  | _ =>
      obtain rfl := Option.some_inj.mp stepped
      exact invariant_writes invariant _ fun loop => ⟨rfl, rfl⟩

theorem invariant_run (name : String) (limits : StoreLimits) (events : List SessionEvent)
    (session : Session Value) (ran : run (fresh name limits) events succ = some session) :
    Invariant events session succ := by
  induction events using List.reverseRecOn generalizing session with
  | nil =>
      obtain rfl := Option.some_inj.mp ran
      exact invariant_fresh name limits
  | append_singleton earlier event induction =>
      obtain ⟨before, reached, stepped⟩ := run_append_singleton ran
      exact invariant_step (induction before reached) stepped

/-- The offset that was published last; zero before anything is published. -/
def lastPublished (session : Session Value) : Nat :=
  (session.published.getLast?.map (·.2)).getD 0

theorem applied_turn {session : Session Value} {loop : Nat} {current : LoopStage}
    (delivery : Delivery) (awaited : current.awaits delivery)
    (applied : session.store.status.applied = session.lastPublished) :
    (session.turn loop current delivery succ).store.status.applied =
      (session.turn loop current delivery succ).lastPublished := by
  have moved := @Store.applied_deliver _ _ succ { session.store with loop := some current } current
    delivery rfl awaited
  rw [turn_status, moved]
  cases held : Store.publication { session.store with loop := some current } delivery succ with
  | none => simpa [turn, lastPublished, held] using applied
  | some offset => simp [turn, lastPublished, held]

theorem applied_run (name : String) (limits : StoreLimits) (events : List SessionEvent)
    (session : Session Value) (ran : run (fresh name limits) events succ = some session) :
    session.store.status.applied = session.lastPublished := by
  induction events using List.reverseRecOn generalizing session with
  | nil =>
      obtain rfl := Option.some_inj.mp ran
      rfl
  | append_singleton earlier event induction =>
      obtain ⟨before, reached, stepped⟩ := run_append_singleton ran
      have applied := induction before reached
      cases event with
      | start =>
          obtain rfl := Option.some_inj.mp stepped
          have same : before.store.start.status.applied = before.store.status.applied := by
            rw [Store.start_status]
          exact same.trans applied
      | answer loop delivery =>
          obtain ⟨current, found, awaited, rfl⟩ := step_answer stepped
          exact applied_turn delivery awaited applied
      | _ =>
          obtain rfl := Option.some_inj.mp stepped
          exact applied

theorem Invariant.held {events : List SessionEvent} {session : Session Value}
    (invariant : Invariant events session succ) (serves : session.store.status.serves) :
    ∃ low, lowWatermarks 0 events = [low] ∧ Record.Consecutive succ low (delivered 0 events) ∧
      (∀ record ∈ delivered 0 events, record.isReadable Value) ∧
      session.store.status.applied = succ^[(delivered 0 events).length] low ∧
      session.store.snapshot = Store.replay (delivered 0 events) ∧
      (∀ key, session.store.get key = .ok (Record.lastWrite (delivered 0 events) key)) ∧
      ((∀ record ∈ delivered 0 events, succ record.offset = record.offset + 1) →
        Record.Gapless low (delivered 0 events) ∧
        session.store.status.applied = low + (delivered 0 events).length) := by
  obtain ⟨isReady, notStopped⟩ := Bool.and_eq_true_iff.mp serves
  have going : session.store.status.fatal = none := Option.isNone_iff_eq_none.mp notStopped
  have undisturbed := invariant.undisturbed going
  obtain ⟨position, following⟩ := undisturbed.ready isReady
  have isFirst : session.stage 0 = some (.following position) := by
    rw [stage, invariant.alone going, following]
    rfl
  obtain ⟨low, inStep⟩ : ∃ low, (session.history events 0).InStep Value succ low position := by
    have explains := invariant.loops 0
    rw [isFirst] at explains
    exact explains
  have applied := undisturbed.applied position (by rw [following]; rfl)
  have whole : Store.takeable Value low (delivered 0 events) succ = delivered 0 events :=
    inStep.whole
  have consecutive : Record.Consecutive succ low (delivered 0 events) := inStep.consecutive
  have readable := @Store.takeable_readable Value _ succ low (delivered 0 events)
  rw [whole] at readable
  have stands := applied.trans inStep.place
  refine ⟨low, inStep.lows, consecutive, readable, stands, undisturbed.snapshot, ?_, ?_⟩
  · intro key
    have found := @Store.find_replay Value _ (delivered 0 events) key
    have serving : session.store.ensureServing = .ok () := by
      simp [Store.ensureServing, going, isReady]
    simp only [Store.get, serving, undisturbed.snapshot]
    exact congrArg Except.ok found
  · intro rising
    obtain ⟨gapless, counted⟩ := consecutive.counted rising
    exact ⟨gapless, stands.trans (counted _ (Nat.le_refl _))⟩

/-- What a record that is not at its place, or that cannot be read, does to its loop. -/
theorem Invariant.stopped {events : List SessionEvent} {session : Session Value}
    (invariant : Invariant events session succ) {loop low place : Nat} {record : Record}
    (told : lowWatermarks loop events = [low])
    (found : (delivered loop events)[place]? = some record)
    (unfit : ¬(record.offset = succ^[place] low ∧ record.isReadable Value)) :
    session.store.status.fatal.isSome ∧ session.stage loop = some .ended ∧
      ∀ offset ∈ session.publishedBy loop, ∃ count ≤ place, offset = succ^[count] low := by
  have shorter := Store.takeable_length_le Value found unfit
  have inside : place < (delivered loop events).length :=
    (List.getElem?_eq_some_iff.mp found).choose
  have broken : Store.takeable Value low (delivered loop events) succ ≠ delivered loop events := by
    intro whole
    rw [whole] at shorter
    omega
  have explains := invariant.loops loop
  -- A loop that still runs has taken all that it was given, and this record it has not.
  have isEnded : session.stage loop = some .ended := by
    cases held : session.stage loop with
    | none =>
        rw [held] at explains
        have empty : session.history events loop = {} := explains
        have noLow := congrArg LoopHistory.lows empty
        simp [history, told] at noLow
    | some current =>
        by_contra running
        rw [held] at explains
        have notEnded : current ≠ .ended := fun same => running (congrArg some same)
        exact broken (LoopHistory.whole_of_explains explains notEnded told)
  refine ⟨invariant.halted loop .ended isEnded (.inr rfl), isEnded, ?_⟩
  intro offset member
  obtain ⟨count, inside, stood⟩ :=
    LoopHistory.bounded_of_explains explains low told offset member
  exact ⟨count, Nat.le_trans inside shorter, stood⟩

/-- Unless the count began again, the loop published no number above the offset of the record. -/
theorem Invariant.published_le {events : List SessionEvent} {session : Session Value}
    (invariant : Invariant events session succ) {loop low place : Nat} {record : Record}
    (told : lowWatermarks loop events = [low])
    (found : (delivered loop events)[place]? = some record)
    (unfit : ¬(record.offset = succ^[place] low ∧ record.isReadable Value))
    (rising : ∀ earlier ∈ (delivered loop events).take place,
      succ earlier.offset = earlier.offset + 1) :
    ∀ offset ∈ session.publishedBy loop, offset ≤ low + place := by
  intro offset member
  have shorter := Store.takeable_length_le Value found unfit
  have inFront : Store.takeable Value low (delivered loop events) succ <+:
      (delivered loop events).take place :=
    List.prefix_take_iff.mpr ⟨Store.takeable_prefix Value low (delivered loop events), shorter⟩
  have bounded := LoopHistory.bounded_of_explains (invariant.loops loop)
  exact Nat.le_trans
    (bounded.le told (fun earlier taken => rising earlier (inFront.subset taken)) offset member)
    (Nat.add_le_add_left shorter low)

/-- A store that serves holds exactly what the records say that its loop took: records at gapless
offsets from the low watermark up to the published offset. A record that is not at its place or
cannot be read stops the store and the loop that met it, and that loop published no offset beyond
the record. What a loop published is what the status showed. The log may answer anything, a record
at the last offset too, so offsets are counted with `Offset.succ`; the count is the one of the
numbers as long as there is no such record. -/
theorem run_sound (name : String) (limits : StoreLimits) (events : List SessionEvent)
    (session : Session Value) (ran : run (fresh name limits) events Offset.succ = some session) :
    (session.store.status.serves → ∃ low, lowWatermarks 0 events = [low] ∧
      Record.Consecutive Offset.succ low (delivered 0 events) ∧
      (∀ record ∈ delivered 0 events, record.isReadable Value) ∧
      session.store.status.applied = Offset.succ^[(delivered 0 events).length] low ∧
      session.store.snapshot = Store.replay (delivered 0 events) ∧
      (∀ key, session.store.get key = .ok (Record.lastWrite (delivered 0 events) key)) ∧
      ((∀ record ∈ delivered 0 events, record.offset ≠ Offset.last) →
        Record.Gapless low (delivered 0 events) ∧
        session.store.status.applied = low + (delivered 0 events).length)) ∧
    (∀ loop low place record, lowWatermarks loop events = [low] →
      (delivered loop events)[place]? = some record →
      ¬(record.offset = Offset.succ^[place] low ∧ record.isReadable Value) →
      session.store.status.fatal.isSome ∧ session.stage loop = some .ended ∧
        (∀ offset ∈ session.publishedBy loop, ∃ count ≤ place, offset = Offset.succ^[count] low) ∧
        ((∀ earlier ∈ (delivered loop events).take place, earlier.offset ≠ Offset.last) →
          ∀ offset ∈ session.publishedBy loop, offset ≤ low + place)) ∧
    session.store.status.applied = session.lastPublished := by
  have invariant := invariant_run name limits events session ran
  refine ⟨?_, ?_, applied_run name limits events session ran⟩
  · intro serves
    obtain ⟨low, told, consecutive, readable, applied, snapshot, found, counted⟩ :=
      invariant.held serves
    exact ⟨low, told, consecutive, readable, applied, snapshot, found, fun inFront =>
      counted fun record member => Offset.succ_of_ne_last (inFront record member)⟩
  · intro loop low place record told found unfit
    obtain ⟨stopped, isEnded, published⟩ := invariant.stopped told found unfit
    exact ⟨stopped, isEnded, published, fun inFront =>
      invariant.published_le told found unfit fun earlier member =>
        Offset.succ_of_ne_last (inFront earlier member)⟩

/-- A loop that replays two records from offset 3 on, with a write that the store reflects. -/
def replayAndWrite : List SessionEvent :=
  [.start, .answer 0 (.low (.ok 3)), .answer 0 (.high (.ok 5)),
    .answer 0 (.batch (.ok [⟨3, "left", some [55], 0⟩, ⟨4, "right", some [56], 0⟩])),
    .beginWrite, .logAnswered 0 (.ok 5), .answer 0 (.batch (.ok [⟨5, "left", none, 0⟩])),
    .observe 0]

/-- A log that skips an offset in the middle of a batch, after a restart. -/
def skippedOffset : List SessionEvent :=
  [.start, .shutDown, .start, .answer 1 (.low (.ok 3)), .answer 1 (.high (.ok 5)),
    .answer 1 (.batch (.ok [⟨3, "left", some [55], 0⟩, ⟨5, "right", some [56], 0⟩]))]

/-- A log that has a record at the last offset and gives the loop one at offset zero behind it. -/
def lastOffset : List SessionEvent :=
  [.start, .answer 0 (.low (.ok Offset.last)), .answer 0 (.high (.ok Offset.last)),
    .answer 0 (.batch (.ok [⟨Offset.last, "left", some [55], 0⟩, ⟨0, "right", some [56], 0⟩]))]

theorem run_sound_instances :
    (∃ session, run (fresh "counts" {} : Session Count) replayAndWrite Offset.succ = some session ∧
      session.store.status.serves ∧ (∃ low, session.store.status.applied = low + 3) ∧
      session.store.get "left" = .ok none ∧ session.store.get "right" = .ok (some ⟨8⟩)) ∧
    (∃ session, run (fresh "counts" {} : Session Count) skippedOffset Offset.succ = some session ∧
      session.stage 1 = some .ended ∧ ∀ offset ∈ session.publishedBy 1, offset ≤ 4) ∧
    ∃ session, run (fresh "counts" {} : Session Count) lastOffset Offset.succ = some session ∧
      session.store.status.serves ∧ session.store.status.applied = 1 ∧
      session.store.get "left" = .ok (some ⟨7⟩) := by
  refine ⟨?_, ?_, ?_⟩
  · obtain ⟨session, ran, serves⟩ : ∃ session,
        run (fresh "counts" {} : Session Count) replayAndWrite Offset.succ = some session ∧
          session.store.status.serves := ⟨_, rfl, rfl⟩
    obtain ⟨low, -, -, -, -, -, found, counted⟩ :=
      (run_sound "counts" {} replayAndWrite session ran).1 serves
    obtain ⟨-, applied⟩ := counted (by decide)
    exact ⟨session, ran, serves, ⟨low, applied⟩, found "left", found "right"⟩
  · obtain ⟨session, ran⟩ : ∃ session,
        run (fresh "counts" {} : Session Count) skippedOffset Offset.succ = some session :=
      ⟨_, rfl⟩
    obtain ⟨-, isEnded, -, bounded⟩ :=
      (run_sound "counts" {} skippedOffset session ran).2.1 1 3 1 ⟨5, "right", some [56], 0⟩
        rfl rfl (by decide)
    exact ⟨session, ran, isEnded, bounded (by decide)⟩
  · obtain ⟨session, ran, serves⟩ : ∃ session,
        run (fresh "counts" {} : Session Count) lastOffset Offset.succ = some session ∧
          session.store.status.serves := ⟨_, rfl, rfl⟩
    obtain ⟨low, told, -, -, applied, -, found, -⟩ :=
      (run_sound "counts" {} lastOffset session ran).1 serves
    obtain rfl : low = Offset.last := (List.singleton_inj.mp told).symm
    exact ⟨session, ran, serves, applied, found "left"⟩

end Session

end BrokerTenancy
