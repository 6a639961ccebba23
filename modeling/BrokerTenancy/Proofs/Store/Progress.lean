import BrokerTenancy.Proofs.Store.Session

/-!
What a store takes and publishes over time. A loop only goes forward: it takes the records from its
low watermark on, each once, and the offsets that it publishes do not fall. The store starts a
second loop only when it is started again after a shutdown, and that loop begins at the low
watermark again, so what the first one took is taken a second time and the published offset falls.
-/

namespace BrokerTenancy

theorem Record.Gapless.rising {low : Nat} {records : List Record}
    (gapless : Record.Gapless low records) :
    (records.map (·.offset)).Pairwise (· < ·) := by
  rw [Record.Gapless] at gapless
  rw [gapless]
  exact List.pairwise_lt_range'

/-- The records that a loop takes from an answer. -/
def LoopStage.taken (Value : Type) [Storable Value] (stage : LoopStage) (delivery : Delivery)
    (succ : Nat → Nat := (· + 1)) : List Record :=
  match delivery with
  | .batch (.ok batch) =>
      match stage.expects with
      | some position => Store.takeable Value position batch succ
      | none => []
  | _ => []

theorem LoopStage.taken_of_fault {Value : Type} [Storable Value] {succ : Nat → Nat}
    (stage : LoopStage) {delivery : Delivery} {fault : Fault}
    (faulty : delivery.fault = some fault) : stage.taken Value delivery succ = [] := by
  cases delivery with
  | batch answer =>
      cases answer with
      | error cause => rfl
      | ok batch => cases faulty
  | _ => rfl

/-- Whether the loop may have published how many records it replayed. -/
def LoopStage.hasReplayed : LoopStage → Bool
  | .following _ | .ended => true
  | _ => false

namespace Store

variable {Value : Type} [Storable Value] {succ : Nat → Nat}

omit [Storable Value] in
theorem replay_on_replayed (low target : Nat) (store : Store Value) (position : Nat) :
    (replayOn low target store position).status.replayed = store.status.replayed ∨
      (replayOn low target store position).loop = some (.following position) := by
  rw [replayOn]
  split
  · exact .inl rfl
  · exact .inr rfl

theorem deliver_snapshot (store : Store Value) (stage : LoopStage) (delivery : Delivery)
    (running : store.loop = some stage) (awaited : stage.awaits delivery) :
    (store.deliver delivery succ).snapshot =
      takeRecords store.snapshot (stage.taken Value delivery succ) := by
  rcases @deliver_cases _ _ succ store stage delivery running awaited with
    ⟨fault, faulty, moved⟩ | ⟨low, rfl, rfl, moved⟩ | ⟨low, high, replayed, rfl, rfl, moved⟩ |
      ⟨position, batch, replayed, expected, rfl, whole, moved⟩ |
      ⟨position, batch, fault, expected, rfl, broken, moved⟩
  · rw [moved, LoopStage.taken_of_fault stage faulty]
    rfl
  · rw [moved]
    rfl
  · rw [moved]
    rfl
  · rw [moved, LoopStage.taken, expected]
    change takeRecords store.snapshot batch =
      takeRecords store.snapshot (takeable Value position batch succ)
    rw [whole]
  · rw [moved, LoopStage.taken, expected]
    rfl

/-- The count of replayed records changes only when the loop turns from replaying to following. -/
theorem deliver_replayed (store : Store Value) (stage : LoopStage) (delivery : Delivery)
    (running : store.loop = some stage) (awaited : stage.awaits delivery) :
    (store.deliver delivery succ).status.replayed = store.status.replayed ∨
      (∃ position, (store.deliver delivery succ).loop = some (.following position)) ∧
        ∀ position, stage ≠ .following position := by
  rcases stage.awaited_cases delivery awaited with
    ⟨fault, faulty⟩ | ⟨low, rfl, rfl⟩ | ⟨low, high, rfl, rfl⟩ | ⟨position, batch, expected, rfl⟩
  · left
    rw [deliver_fault store stage delivery fault running awaited faulty]
    rfl
  · left
    rw [deliver_low store low running]
  · have moved : store.deliver (.high (.ok high)) succ =
        replayOn low high (store.publish low) low := by
      simp only [deliver, running]
    rw [moved]
    rcases replay_on_replayed low high (store.publish low) low with same | follows
    · exact .inl same
    · exact .inr ⟨⟨low, follows⟩, fun position same => LoopStage.noConfusion same⟩
  · by_cases whole : takeable Value position batch succ = batch
    · cases stage with
      | replaying low start target =>
          cases expected
          simp only [deliver, running, take_batch_taken store position batch _ whole]
          rcases replay_on_replayed low target
            { store with
              snapshot := takeRecords store.snapshot batch
              status := { store.status with applied := store.appliedAfter position batch succ } }
            (succ^[batch.length] position) with same | follows
          · exact .inl same
          · exact .inr ⟨⟨_, follows⟩, fun other same => LoopStage.noConfusion same⟩
      | following start =>
          cases expected
          left
          simp only [deliver, running, take_batch_taken store position batch _ whole, followOn]
      | _ => cases expected
    · left
      rcases deliver_batch_stopped store stage position batch running expected whole with
        ⟨fault, moved⟩
      rw [moved]
      rfl

theorem deliver_has_replayed (store : Store Value) (stage : LoopStage) (delivery : Delivery)
    (running : store.loop = some stage) (awaited : stage.awaits delivery)
    (done : stage.hasReplayed) :
    ∃ after, (store.deliver delivery succ).loop = some after ∧ after.hasReplayed := by
  rcases @deliver_cases _ _ succ store stage delivery running awaited with
    ⟨fault, -, moved⟩ | ⟨low, rfl, -, -⟩ | ⟨low, high, replayed, rfl, -, -⟩ |
      ⟨position, batch, replayed, -, -, -, moved⟩ | ⟨position, batch, fault, -, -, -, moved⟩
  · rw [moved]
    exact ⟨.ended, rfl, rfl⟩
  · cases done
  · cases done
  · rw [moved]
    cases stage with
    | following start => exact ⟨.following (succ^[batch.length] position), rfl, rfl⟩
    | ended => cases awaited
    | _ => cases done
  · rw [moved]
    exact ⟨.ended, rfl, rfl⟩

end Store

namespace LoopHistory

variable {Value : Type} [Storable Value] {succ : Nat → Nat} {history : LoopHistory}

/-- What a loop takes of the records that it hears of. -/
def took (Value : Type) [Storable Value] (succ : Nat → Nat) (history : LoopHistory) : List Record :=
  match history.lows with
  | [low] => Store.takeable Value low history.records succ
  | _ => []

theorem InStep.took {low position : Nat} (inStep : history.InStep Value succ low position) :
    history.took Value succ = history.records := by
  rw [LoopHistory.took, inStep.lows]
  exact inStep.whole

theorem took_consecutive (history : LoopHistory) : history.took Value succ = [] ∨
    ∃ low, history.lows = [low] ∧ Record.Consecutive succ low (history.took Value succ) := by
  rw [took]
  split
  · next low told => exact .inr ⟨low, told, Store.takeable_consecutive Value low history.records⟩
  · exact .inl rfl

theorem took_deliver (store : Store Value) (stage : LoopStage) (delivery : Delivery)
    (awaited : stage.awaits delivery) (explains : history.Explains Value succ (some stage)) :
    (history.hear delivery (store.publication delivery succ)).took Value succ =
      history.took Value succ ++ stage.taken Value delivery succ := by
  rcases stage.awaited_cases delivery awaited with
    ⟨fault, faulty⟩ | ⟨low, rfl, rfl⟩ | ⟨low, high, rfl, rfl⟩ | ⟨position, batch, expected, rfl⟩
  · rw [Store.publication_of_fault store faulty, hear_fault history faulty,
      stage.taken_of_fault faulty, List.append_nil]
  · have empty : history = {} := explains
    rw [empty]
    rfl
  · have first : history = { lows := [low] } := explains
    rw [first]
    rfl
  · rcases in_step_of_expects explains expected with ⟨low, inStep, -⟩
    rw [inStep.took, LoopStage.taken, expected]
    have told : history.lows ++ [] = [low] := by rw [inStep.lows, List.append_nil]
    simp only [took, hear, Delivery.lows, Delivery.records, told]
    rw [Store.takeable_append Value low history.records batch inStep.whole, ← inStep.place]

/-- Unless the count begins again, a loop publishes nothing in front of what it has published. -/
theorem rising_deliver (store : Store Value) (stage : LoopStage) (delivery : Delivery)
    (running : store.loop = some stage) (awaited : stage.awaits delivery)
    (explains : history.Explains Value succ (some stage))
    (rising : (∀ record ∈ history.took Value succ, succ record.offset = record.offset + 1) →
      history.published.Pairwise (· ≤ ·))
    (rises : ∀ record ∈ (history.hear delivery (store.publication delivery succ)).took Value succ,
      succ record.offset = record.offset + 1) :
    (history.hear delivery (store.publication delivery succ)).published.Pairwise (· ≤ ·) := by
  rw [took_deliver store stage delivery awaited explains] at rises
  have before := rising fun record member => rises record (List.mem_append_left _ member)
  rcases stage.awaited_cases delivery awaited with
    ⟨fault, faulty⟩ | ⟨low, rfl, rfl⟩ | ⟨low, high, rfl, rfl⟩ | ⟨position, batch, expected, rfl⟩
  · rw [Store.publication_of_fault store faulty, hear_fault history faulty]
    exact before
  · have empty : history = {} := explains
    have silent : store.publication (.low (.ok low)) succ = none := by
      simp only [Store.publication, running]
    rw [empty, silent]
    exact List.Pairwise.nil
  · have first : history = { lows := [low] } := explains
    have published : store.publication (.high (.ok high)) succ = some low := by
      simp only [Store.publication, running]
    rw [first, published]
    exact List.pairwise_singleton _ _
  · rcases in_step_of_expects explains expected with ⟨low, inStep, -⟩
    rw [Store.publication_batch store stage position batch running expected]
    simp only [hear]
    split
    · next taken =>
      have after := inStep.hear_taken batch taken.2 (some (succ^[batch.length] position)) (by simp)
      rw [inStep.took, LoopStage.taken, expected] at rises
      have allRise : ∀ record ∈ history.records ++ batch, succ record.offset = record.offset + 1 :=
        taken.2 ▸ rises
      apply List.pairwise_append.mpr
      apply And.intro before
      apply And.intro (List.pairwise_singleton _ _)
      intro offset member later isNew
      rw [List.mem_singleton.mp isNew]
      exact after.le allRise offset (List.mem_append_left _ member)
    · simpa using before

end LoopHistory

namespace Session

/-- What entries say that belong to one loop. -/
def ofLoop {Entry : Type} (loop : Nat) (entries : List (Nat × Entry)) : List Entry :=
  entries.flatMap fun entry => if entry.1 = loop then [entry.2] else []

theorem of_loop_append {Entry : Type} (loop : Nat) (left right : List (Nat × Entry)) :
    ofLoop loop (left ++ right) = ofLoop loop left ++ ofLoop loop right := List.flatMap_append

theorem of_loop_tagged {Entry : Type} (loop : Nat) (entries : List Entry) :
    ofLoop loop (entries.map (loop, ·)) = entries := by
  simp [ofLoop, List.flatMap_map]

theorem of_loop_tagged_other {Entry : Type} {loop other : Nat} (different : other ≠ loop)
    (entries : List Entry) : ofLoop other (entries.map (loop, ·)) = [] := by
  simp [ofLoop, List.flatMap_map, different.symm]

theorem mem_of_loop {Entry : Type} {loop : Nat} {entries : List (Nat × Entry)} {entry : Entry}
    (member : entry ∈ ofLoop loop entries) : (loop, entry) ∈ entries := by
  rcases List.mem_flatMap.mp member with ⟨tagged, isEntry, held⟩
  split at held
  · next same =>
    rw [List.mem_singleton.mp held, ← same]
    exact isEntry
  · cases held

theorem of_single_loop {Entry : Type} {entries : List (Nat × Entry)}
    (single : ∀ loop, loop ≠ 0 → ofLoop loop entries = []) :
    entries.map (·.2) = ofLoop 0 entries := by
  have first : ∀ entry ∈ entries, entry.1 = 0 := by
    intro entry member
    by_contra other
    have nothing := List.flatMap_eq_nil_iff.mp (single entry.1 other) entry member
    rw [if_pos rfl] at nothing
    cases nothing
  rw [ofLoop, List.map_eq_flatMap]
  apply List.flatMap_congr
  intro entry member
  rw [if_pos (first entry member)]

variable {Value : Type} [Storable Value] {succ : Nat → Nat}
  {session next : Session Value}

/-- The records that an event takes into the snapshot, with the loop that takes them. -/
def taking (session : Session Value) (event : SessionEvent) (succ : Nat → Nat := (· + 1)) :
    List (Nat × Record) :=
  match event with
  | .answer loop delivery =>
      match session.stage loop with
      | some stage => (stage.taken Value delivery succ).map (loop, ·)
      | none => []
  | _ => []

/-- All records that a run takes into the snapshot, in the order in which it takes them. -/
def takings (session : Session Value) (events : List SessionEvent)
    (succ : Nat → Nat := (· + 1)) : List (Nat × Record) :=
  match events with
  | [] => []
  | event :: later =>
      session.taking event succ ++
        match session.step event succ with
        | some next => next.takings later succ
        | none => []

theorem takings_append {before : Session Value} {earlier later : List SessionEvent}
    (reached : run session earlier succ = some before) :
    session.takings (earlier ++ later) succ =
      session.takings earlier succ ++ before.takings later succ := by
  induction earlier generalizing session with
  | nil =>
      cases reached
      rfl
  | cons event rest induction =>
      rcases Option.bind_eq_some_iff.mp reached with ⟨middle, stepped, went⟩
      simp only [List.cons_append, takings, stepped, induction went, List.append_assoc]

theorem takings_singleton (event : SessionEvent) :
    session.takings [event] succ = session.taking event succ := by
  rw [takings]
  cases session.step event succ <;> exact List.append_nil _

theorem turn_snapshot {loop : Nat} {current : LoopStage} {delivery : Delivery}
    (awaited : current.awaits delivery) :
    (session.turn loop current delivery succ).store.snapshot =
      Store.takeRecords session.store.snapshot (current.taken Value delivery succ) := by
  have same : (session.turn loop current delivery succ).store.snapshot =
      (Store.deliver { session.store with loop := some current } delivery succ).snapshot := by
    rw [turn]
    split <;> rfl
  rw [same]
  exact Store.deliver_snapshot { session.store with loop := some current } current delivery rfl
    awaited

theorem taking_answer {loop : Nat} {current : LoopStage} (delivery : Delivery)
    (found : session.stage loop = some current) :
    session.taking (.answer loop delivery) succ =
      (current.taken Value delivery succ).map (loop, ·) := by
  rw [taking, found]

theorem step_snapshot {event : SessionEvent} (stepped : session.step event succ = some next) :
    next.store.snapshot =
      Store.takeRecords session.store.snapshot ((session.taking event succ).map (·.2)) := by
  cases event with
  | start =>
      cases stepped
      cases held : session.store.loop <;> simp [Store.start, held, taking, Store.takeRecords]
  | answer loop delivery =>
      rcases step_answer stepped with ⟨current, found, awaited, rfl⟩
      rw [turn_snapshot awaited, taking_answer delivery found, List.map_map]
      exact congrArg _ (List.map_id _).symm
  | _ =>
      cases stepped
      rfl

/-- The snapshot is what the taken records say, also where several loops took them. -/
theorem run_snapshot (name : String) (limits : StoreLimits) (events : List SessionEvent)
    (session : Session Value) (ran : run (fresh name limits) events succ = some session) :
    session.store.snapshot =
      Store.replay ((takings (fresh name limits : Session Value) events succ).map (·.2)) := by
  induction events using List.reverseRecOn generalizing session with
  | nil =>
      cases ran
      rfl
  | append_singleton earlier event induction =>
      rcases run_append_singleton ran with ⟨before, reached, stepped⟩
      rw [step_snapshot stepped, induction before reached, takings_append reached,
        takings_singleton, List.map_append, Store.replay_append]

/-- What each loop took is what it could take of what it heard, and unless the count began again, it
published nothing in front of what it had published. -/
structure Forward (events : List SessionEvent) (session : Session Value)
    (takings : List (Nat × Record)) (loop : Nat) (succ : Nat → Nat) : Prop where
  took : ofLoop loop takings = (session.history events loop).took Value succ
  rising : (∀ record ∈ (session.history events loop).took Value succ,
      succ record.offset = record.offset + 1) →
    (session.history events loop).published.Pairwise (· ≤ ·)

/-- An event that is no answer moves no loop. -/
theorem Forward.quiet {events : List SessionEvent} {event : SessionEvent}
    {takings : List (Nat × Record)} {loop : Nat}
    (forward : Forward events session takings loop succ)
    (published : next.published = session.published)
    (silent : ∀ loop, lowWatermarks loop [event] = [] ∧ delivered loop [event] = [])
    (nothing : session.taking event succ = []) :
    Forward (events ++ [event]) next (takings ++ session.taking event succ) loop succ := by
  have same := history_quiet events published silent loop
  constructor
  · rw [same, nothing, List.append_nil]
    exact forward.took
  · rw [same]
    exact forward.rising

theorem Forward.step {events : List SessionEvent} {event : SessionEvent}
    {takings : List (Nat × Record)} (invariant : Invariant events session succ)
    (forward : ∀ loop, Forward events session takings loop succ)
    (stepped : session.step event succ = some next) (loop : Nat) :
    Forward (events ++ [event]) next (takings ++ session.taking event succ) loop succ := by
  cases event with
  | answer other delivery =>
      rcases step_answer stepped with ⟨current, found, awaited, rfl⟩
      rw [taking_answer delivery found]
      by_cases same : loop = other
      · subst same
        have explains := invariant.loops loop
        rw [found] at explains
        constructor
        · rw [of_loop_append, of_loop_tagged, history_turn, (forward loop).took]
          exact (LoopHistory.took_deliver _ current delivery awaited explains).symm
        · rw [history_turn]
          exact LoopHistory.rising_deliver { session.store with loop := some current } current
            delivery rfl awaited explains (forward loop).rising
      · have sameHistory := @history_turn_other _ _ succ session events other current delivery loop
          same
        constructor
        · rw [of_loop_append, of_loop_tagged_other same, List.append_nil, sameHistory]
          exact (forward loop).took
        · rw [sameHistory]
          exact (forward loop).rising
  | _ =>
      cases stepped
      exact (forward loop).quiet rfl (fun loop => ⟨rfl, rfl⟩) rfl

theorem forward_run (name : String) (limits : StoreLimits) (events : List SessionEvent)
    (session : Session Value) (ran : run (fresh name limits) events succ = some session)
    (loop : Nat) :
    Forward events session (takings (fresh name limits : Session Value) events succ) loop succ := by
  induction events using List.reverseRecOn generalizing session loop with
  | nil =>
      cases ran
      exact ⟨rfl, fun _ => List.Pairwise.nil⟩
  | append_singleton earlier event induction =>
      rcases run_append_singleton ran with ⟨before, reached, stepped⟩
      rw [takings_append reached, takings_singleton]
      have invariant := invariant_run name limits earlier before reached
      exact Forward.step invariant (induction before reached) stepped loop

theorem stage_answer {loop : Nat} {delivery : Delivery}
    (stepped : session.step (.answer loop delivery) succ = some next) (other : Nat) :
    next.stage other = none ↔ session.stage other = none := by
  rcases step_answer stepped with ⟨current, found, awaited, rfl⟩
  rw [stage_turn delivery found awaited]
  by_cases same : other = loop
  · rcases @Store.deliver_loop _ _ succ { session.store with loop := some current } current delivery
      rfl awaited with ⟨after, moved⟩
    rw [if_pos same, moved, same, found]
    constructor <;> intro absent <;> cases absent
  · rw [if_neg same]

omit [Storable Value] in
theorem stage_shut_down (session : Session Value) (loop : Nat) :
    stage
      { session with
        store := session.store.shutDown
        leaving := session.leaving ++ session.store.loop.toList } loop = session.stage loop := by
  simp [stage, Store.shutDown]

/-- The calls that a run must have made for its store to have the loops that it has. -/
structure Started (events : List SessionEvent) (session : Session Value) : Prop where
  first : session.stage 0 ≠ none → [.start].Sublist events
  left : session.leaving ≠ [] → [.start, .shutDown].Sublist events
  second : session.stage 1 ≠ none → [.start, .shutDown, .start].Sublist events

omit [Storable Value] in
theorem Started.kept {events : List SessionEvent} {event : SessionEvent}
    (started : Started events session)
    (stages : ∀ loop, next.stage loop ≠ none → session.stage loop ≠ none)
    (leaving : next.leaving ≠ [] → session.leaving ≠ []) :
    Started (events ++ [event]) next := by
  constructor
  · intro held
    exact List.sublist_append_of_sublist_left (started.first (stages 0 held))
  · intro held
    exact List.sublist_append_of_sublist_left (started.left (leaving held))
  · intro held
    exact List.sublist_append_of_sublist_left (started.second (stages 1 held))

omit [Storable Value] in
theorem Started.start {events : List SessionEvent} (started : Started events session) :
    Started (events ++ [.start]) { session with store := session.store.start } := by
  constructor
  · intro held
    exact List.sublist_append_right events [.start]
  · intro held
    exact List.sublist_append_of_sublist_left (started.left held)
  · intro held
    rcases stage_start session 1 with same | ⟨absent, asking⟩
    · rw [same] at held
      exact List.sublist_append_of_sublist_left (started.second held)
    -- The new loop is the second one, so the first one is leaving.
    · have leaving : session.leaving ≠ [] := by
        intro none
        rcases stage_lt asking with ⟨isLeaving, -⟩ | ⟨isLast, -⟩
        · rw [none] at isLeaving
          cases isLeaving
        · rw [none] at isLast
          cases isLast
      exact (started.left leaving).append (List.Sublist.refl [SessionEvent.start])

omit [Storable Value] in
theorem Started.shut_down {events : List SessionEvent} (started : Started events session) :
    Started (events ++ [.shutDown])
      { session with
        store := session.store.shutDown
        leaving := session.leaving ++ session.store.loop.toList } := by
  constructor
  · intro held
    rw [stage_shut_down] at held
    exact List.sublist_append_of_sublist_left (started.first held)
  · intro held
    have running : session.stage 0 ≠ none := by
      intro absent
      exact held (List.length_eq_zero_iff.mp (Nat.le_zero.mp (List.getElem?_eq_none_iff.mp absent)))
    exact (started.first running).append (List.Sublist.refl [SessionEvent.shutDown])
  · intro held
    rw [stage_shut_down] at held
    exact List.sublist_append_of_sublist_left (started.second held)

theorem Started.step {events : List SessionEvent} {event : SessionEvent}
    (started : Started events session) (stepped : session.step event succ = some next) :
    Started (events ++ [event]) next := by
  cases event with
  | start =>
      cases stepped
      exact started.start
  | shutDown =>
      cases stepped
      exact started.shut_down
  | answer loop delivery =>
      have sameStages := stage_answer stepped
      rcases step_answer stepped with ⟨current, found, awaited, rfl⟩
      apply started.kept
      · intro other held absent
        exact held ((sameStages other).mpr absent)
      · intro held empty
        apply held
        rw [turn]
        change session.leaving.set _ _ = []
        rw [empty]
        rfl
  | _ =>
      cases stepped
      exact started.kept (fun loop held => held) fun held => held

theorem started_run (name : String) (limits : StoreLimits) (events : List SessionEvent)
    (session : Session Value) (ran : run (fresh name limits) events succ = some session) :
    Started events session := by
  induction events using List.reverseRecOn generalizing session with
  | nil =>
      cases ran
      exact ⟨fun held => absurd rfl held, fun held => absurd rfl held,
        fun held => absurd rfl held⟩
  | append_singleton earlier event induction =>
      rcases run_append_singleton ran with ⟨before, reached, stepped⟩
      exact (induction before reached).step stepped

/-- A loop that was started stays one of the session. -/
theorem stage_step {event : SessionEvent} (stepped : session.step event succ = some next)
    {loop : Nat} (absent : next.stage loop = none) : session.stage loop = none := by
  cases event with
  | start =>
      cases stepped
      rcases stage_start session loop with same | ⟨before, -⟩
      · rw [← same]
        exact absent
      · exact before
  | shutDown =>
      cases stepped
      rw [stage_shut_down] at absent
      exact absent
  | answer other delivery => exact (stage_answer stepped loop).mp absent
  | _ =>
      cases stepped
      exact absent

omit [Storable Value] in
theorem stage_none_of_single (single : session.stage 1 = none) {loop : Nat} (other : loop ≠ 0) :
    session.stage loop = none := by
  rw [stage, List.getElem?_eq_none_iff] at single ⊢
  exact Nat.le_trans single (Nat.one_le_iff_ne_zero.mpr other)

/-- The loop that replayed is the only one, so the count is nothing or belongs to it. -/
def CountsOnce (session : Session Value) : Prop :=
  session.store.status.replayed = 0 ∨
    ∃ stage, session.stage 0 = some stage ∧ stage.hasReplayed

theorem CountsOnce.step {event : SessionEvent} (once : session.CountsOnce)
    (stepped : session.step event succ = some next) (single : next.stage 1 = none) :
    next.CountsOnce ∧ session.store.status.replayed ≤ next.store.status.replayed := by
  cases event with
  | start =>
      cases stepped
      have sameStatus := Store.start_status session.store
      rw [CountsOnce, sameStatus]
      apply And.intro _ (Nat.le_refl _)
      rcases once with nothing | ⟨stage, held, done⟩
      · exact .inl nothing
      · rcases stage_start session 0 with same | ⟨absent, -⟩
        · exact .inr ⟨stage, same.trans held, done⟩
        · rw [absent] at held
          cases held
  | shutDown =>
      cases stepped
      apply And.intro _ (Nat.le_refl _)
      rw [CountsOnce, stage_shut_down]
      exact once
  | answer loop delivery =>
      have alone := stage_step stepped single
      rcases step_answer stepped with ⟨current, found, awaited, rfl⟩
      have isFirst : loop = 0 := by
        by_contra other
        rw [stage_none_of_single alone other] at found
        cases found
      subst isFirst
      have moved := @stage_turn _ _ succ _ _ _ delivery found awaited 0
      rw [if_pos rfl] at moved
      rw [CountsOnce, moved, turn_status]
      rcases @Store.deliver_replayed _ _ succ { session.store with loop := some current } current
        delivery rfl awaited with same | ⟨⟨position, follows⟩, replays⟩
      · rw [same]
        apply And.intro _ (Nat.le_refl _)
        rcases once with nothing | ⟨stage, held, done⟩
        · exact .inl nothing
        · rw [found] at held
          cases held
          exact .inr (Store.deliver_has_replayed _ current delivery rfl awaited done)
      · rcases once with nothing | ⟨stage, held, done⟩
        · rw [nothing]
          exact ⟨.inr ⟨.following position, follows, rfl⟩, Nat.zero_le _⟩
        · rw [found] at held
          cases held
          cases current with
          | following start => exact absurd rfl (replays start)
          | ended => cases awaited
          | _ => cases done
  | _ =>
      cases stepped
      exact ⟨once, Nat.le_refl _⟩

theorem run_append {earlier later : List SessionEvent}
    (ran : run session (earlier ++ later) succ = some next) :
    ∃ before, run session earlier succ = some before ∧ run before later succ = some next := by
  rw [run, List.foldlM_append] at ran
  exact Option.bind_eq_some_iff.mp ran

theorem single_run {later : List SessionEvent} (went : run session later succ = some next)
    (single : next.stage 1 = none) : session.stage 1 = none := by
  induction later using List.reverseRecOn generalizing next with
  | nil =>
      cases went
      exact single
  | append_singleton earlier event induction =>
      rcases run_append_singleton went with ⟨before, reached, stepped⟩
      exact induction reached (stage_step stepped single)

theorem CountsOnce.run {later : List SessionEvent} (once : session.CountsOnce)
    (went : run session later succ = some next) (single : next.stage 1 = none) :
    next.CountsOnce ∧ session.store.status.replayed ≤ next.store.status.replayed := by
  induction later using List.reverseRecOn generalizing next with
  | nil =>
      cases went
      exact ⟨once, Nat.le_refl _⟩
  | append_singleton earlier event induction =>
      rcases run_append_singleton went with ⟨before, reached, stepped⟩
      rcases induction reached (stage_step stepped single) with ⟨onceBefore, grown⟩
      rcases onceBefore.step stepped single with ⟨onceAfter, grows⟩
      exact ⟨onceAfter, Nat.le_trans grown grows⟩

theorem published_run {later : List SessionEvent} (went : run session later succ = some next) :
    ∃ more, next.published = session.published ++ more := by
  induction later using List.reverseRecOn generalizing next with
  | nil =>
      cases went
      exact ⟨[], (List.append_nil _).symm⟩
  | append_singleton earlier event induction =>
      rcases run_append_singleton went with ⟨before, reached, stepped⟩
      rcases induction reached with ⟨more, same⟩
      cases event with
      | answer loop delivery =>
          rcases step_answer stepped with ⟨current, -, -, rfl⟩
          rw [turn, same, List.append_assoc]
          exact ⟨_, rfl⟩
      | _ =>
          cases stepped
          exact ⟨more, same⟩

theorem last_le_of_rising {early late : List Nat}
    (rising : (early ++ late).Pairwise (· ≤ ·)) :
    early.getLast?.getD 0 ≤ (early ++ late).getLast?.getD 0 := by
  cases late using List.reverseRecOn with
  | nil => simp
  | append_singleton front last =>
      rw [← List.append_assoc, List.getLast?_concat]
      cases held : early.getLast? with
      | none => exact Nat.zero_le last
      | some offset =>
          have member : offset ∈ early := List.mem_of_getLast? held
          exact (List.pairwise_append.mp rising).2.2 offset member last (by simp)

/-- With a single loop everything that is published and taken is that loop's. -/
theorem single_forward (name : String) (limits : StoreLimits) (events : List SessionEvent)
    (session : Session Value) (ran : run (fresh name limits) events succ = some session)
    (single : session.stage 1 = none) :
    session.published.map (·.2) = session.publishedBy 0 ∧
      (takings (fresh name limits : Session Value) events succ).map (·.2) =
        ofLoop 0 (takings (fresh name limits : Session Value) events succ) := by
  have silent (loop : Nat) (other : loop ≠ 0) : session.history events loop = {} := by
    have explains := (invariant_run name limits events session ran).loops loop
    rw [stage_none_of_single single other] at explains
    exact explains
  constructor
  · apply of_single_loop
    intro loop other
    exact congrArg LoopHistory.published (silent loop other)
  · apply of_single_loop
    intro loop other
    rw [(forward_run name limits events session ran loop).took, silent loop other]
    rfl

omit [Storable Value] in
theorem last_published_eq (session : Session Value) :
    session.lastPublished = (session.published.map (·.2)).getLast?.getD 0 := by
  rw [lastPublished, List.getLast?_map]

theorem applied_grows (name : String) (limits : StoreLimits) (earlier later : List SessionEvent)
    (before session : Session Value)
    (reached : run (fresh name limits) earlier succ = some before)
    (went : run before later succ = some session)
    (ran : run (fresh name limits) (earlier ++ later) succ = some session)
    (single : session.stage 1 = none)
    (rising : ∀ entry ∈ takings (fresh name limits : Session Value) (earlier ++ later) succ,
      succ entry.2.offset = entry.2.offset + 1) :
    before.store.status.applied ≤ session.store.status.applied := by
  rw [applied_run name limits earlier before reached, applied_run name limits _ session ran,
    last_published_eq, last_published_eq]
  rcases published_run went with ⟨more, published⟩
  have forward := forward_run name limits _ session ran 0
  have rises : (session.publishedBy 0).Pairwise (· ≤ ·) := by
    apply forward.rising
    rw [← forward.took]
    exact fun record member => rising (0, record) (mem_of_loop member)
  rw [← (single_forward name limits _ session ran single).1, published, List.map_append] at rises
  rw [published, List.map_append]
  exact last_le_of_rising rises

/-- The snapshot is what the taken records say. Each loop takes records at offsets that follow one
another from its low watermark on. As long as none of them is the last offset there is, behind which
the count begins again, a loop publishes nothing in front of what it published; so as long as the
store has one loop, nothing that it publishes falls and no record is taken twice. It has a second
loop only if it was shut down and started again, and that loop publishes its low watermark once
more. -/
theorem run_goes_forward (name : String) (limits : StoreLimits) (events : List SessionEvent)
    (session : Session Value) (ran : run (fresh name limits) events Offset.succ = some session) :
    let taken := takings (fresh name limits : Session Value) events Offset.succ
    (session.store.snapshot = Store.replay (taken.map (·.2)) ∧
    ∀ loop,
      (ofLoop loop taken = [] ∨ ∃ low, lowWatermarks loop events = [low] ∧
        Record.Consecutive Offset.succ low (ofLoop loop taken) ∧
        ((∀ record ∈ ofLoop loop taken, record.offset ≠ Offset.last) →
          Record.Gapless low (ofLoop loop taken))) ∧
      ((∀ record ∈ ofLoop loop taken, record.offset ≠ Offset.last) →
        (session.publishedBy loop).Pairwise (· ≤ ·))) ∧
    (session.stage 1 = none →
      ((∀ entry ∈ taken, entry.2.offset ≠ Offset.last) →
        (taken.map (·.2.offset)).Pairwise (· < ·)) ∧
      ∀ earlier later (before : Session Value), events = earlier ++ later →
        run (fresh name limits) earlier Offset.succ = some before →
        ((∀ entry ∈ taken, entry.2.offset ≠ Offset.last) →
          before.store.status.applied ≤ session.store.status.applied) ∧
        before.store.status.replayed ≤ session.store.status.replayed) ∧
    (session.stage 1 ≠ none → [.start, .shutDown, .start].Sublist events) ∧
    ∀ loop low high next, session.stage loop = some (.askingHigh low) →
      session.step (.answer loop (.high (.ok high))) Offset.succ = some next →
      next.store.status.applied = low ∧ (high ≤ low → next.store.status.replayed = 0) := by
  intro taken
  have forward := forward_run name limits events session ran
  have gapless (loop : Nat) : ofLoop loop taken = [] ∨ ∃ low, lowWatermarks loop events = [low] ∧
      Record.Consecutive Offset.succ low (ofLoop loop taken) ∧
      ((∀ record ∈ ofLoop loop taken, record.offset ≠ Offset.last) →
        Record.Gapless low (ofLoop loop taken)) := by
    rw [(forward loop).took]
    rcases @LoopHistory.took_consecutive Value _ _ (session.history events loop) with
      nothing | ⟨low, told, consecutive⟩
    · exact .inl nothing
    · exact .inr ⟨low, told, consecutive, fun inFront =>
        (consecutive.counted fun record member =>
          Offset.succ_of_ne_last (inFront record member)).1⟩
  refine ⟨⟨run_snapshot name limits events session ran, ?_⟩, ?_, ?_, ?_⟩
  · intro loop
    refine ⟨gapless loop, fun inFront => (forward loop).rising fun record member => ?_⟩
    rw [← (forward loop).took] at member
    exact Offset.succ_of_ne_last (inFront record member)
  · intro single
    constructor
    · intro inFront
      have same := (single_forward name limits events session ran single).2
      have offsets : taken.map (·.2.offset) = (ofLoop 0 taken).map (·.offset) := by
        rw [← same, List.map_map]
        rfl
      rw [offsets]
      rcases gapless 0 with nothing | ⟨low, -, -, numbered⟩
      · rw [nothing]
        exact List.Pairwise.nil
      · exact (numbered fun record member => inFront (0, record) (mem_of_loop member)).rising
    · intro earlier later before split reached
      subst split
      rcases run_append ran with ⟨middle, reachedMiddle, went⟩
      rw [reached] at reachedMiddle
      cases reachedMiddle
      have once : before.CountsOnce :=
        ((show CountsOnce (fresh name limits : Session Value) from .inl rfl).run reached
          (single_run went single)).1
      refine ⟨fun inFront => ?_, (once.run went single).2⟩
      exact applied_grows name limits earlier later before session reached went ran single
        fun entry member => Offset.succ_of_ne_last (inFront entry member)
  · exact (started_run name limits events session ran).second
  · intro loop low high next asking stepped
    rcases step_answer stepped with ⟨current, found, awaited, rfl⟩
    rw [asking] at found
    cases found
    rw [turn_status]
    simp only [Store.deliver, Store.replayOn]
    split
    · next short =>
      apply And.intro rfl
      intro nothing
      omega
    · exact ⟨rfl, fun nothing => Nat.sub_self low⟩

def firstRecord : Record := ⟨0, "left", some [55], 0⟩

/-- A loop replays the one record of its log. -/
def replayOne : List SessionEvent :=
  [.start, .answer 0 (.low (.ok 0)), .answer 0 (.high (.ok 1)),
    .answer 0 (.batch (.ok [firstRecord]))]

/-- The store is shut down and started again, and the log tells the new loop its watermarks. -/
def restartBetween (low high : Nat) : List SessionEvent :=
  [.shutDown, .start, .answer 1 (.low (.ok low)), .answer 1 (.high (.ok high))]

theorem run_goes_forward_instances :
    (∃ session before,
      run (fresh "counts" {} : Session Count) replayOne Offset.succ = some session ∧
      run (fresh "counts" {} : Session Count) [.start] Offset.succ = some before ∧
      ((takings (fresh "counts" {} : Session Count) replayOne Offset.succ).map
        (·.2.offset)).Pairwise (· < ·) ∧
      before.store.status.applied ≤ session.store.status.applied ∧
      before.store.status.replayed ≤ session.store.status.replayed) ∧
    ∃ session next : Session Count,
      run (fresh "counts" {}) (replayOne ++ (restartBetween 0 1).take 3) Offset.succ =
        some session ∧
      session.stage 1 = some (.askingHigh 0) ∧
      [.start, .shutDown, .start].Sublist (replayOne ++ (restartBetween 0 1).take 3) ∧
      session.step (.answer 1 (.high (.ok 0))) Offset.succ = some next ∧
      next.store.status.applied = 0 ∧ next.store.status.replayed = 0 := by
  constructor
  · rcases show ∃ session before : Session Count,
        run (fresh "counts" {} : Session Count) replayOne Offset.succ = some session ∧
          run (fresh "counts" {} : Session Count) [.start] Offset.succ = some before ∧
          session.stage 1 = none from ⟨_, _, rfl, rfl, rfl⟩ with
      ⟨session, before, ran, reached, single⟩
    rcases (run_goes_forward "counts" {} replayOne session ran).2.1 single with ⟨rising, grows⟩
    have inFront : ∀ entry ∈ takings (fresh "counts" {} : Session Count) replayOne Offset.succ,
        entry.2.offset ≠ Offset.last := by decide
    rcases grows [.start] _ before rfl reached with ⟨applied, replayed⟩
    exact ⟨session, before, ran, reached, rising inFront, applied inFront, replayed⟩
  · rcases show ∃ session next : Session Count,
        run (fresh "counts" {}) (replayOne ++ (restartBetween 0 1).take 3) Offset.succ =
            some session ∧
          session.stage 1 = some (.askingHigh 0) ∧
          session.step (.answer 1 (.high (.ok 0))) Offset.succ = some next from
        ⟨_, _, rfl, rfl, rfl⟩ with
      ⟨session, next, ran, asking, stepped⟩
    rcases run_goes_forward "counts" {} _ session ran with ⟨-, -, restarted, first⟩
    have again : session.stage 1 ≠ none := by
      rw [asking]
      exact Option.some_ne_none _
    rcases first 1 0 0 next asking stepped with ⟨applied, replayed⟩
    exact ⟨session, next, ran, asking, restarted again, stepped, applied,
      replayed (Nat.le_refl 0)⟩

/-- The first loop took the record, published 1 and counted it. The second one publishes 0 and takes
the record again, and with nothing left in front of its low watermark the count falls too. -/
theorem restart_goes_back :
    ∃ before after last other : Session Count,
      run (fresh "counts" {}) replayOne Offset.succ = some before ∧
      before.store.status.applied = 1 ∧ before.store.status.replayed = 1 ∧
      run before (restartBetween 0 1) Offset.succ = some after ∧
      after.store.status.applied = 0 ∧
      run after [.answer 1 (.batch (.ok [firstRecord]))] Offset.succ = some last ∧
      takings (fresh "counts" {} : Session Count)
        (replayOne ++ restartBetween 0 1 ++ [.answer 1 (.batch (.ok [firstRecord]))])
        Offset.succ = [(0, firstRecord), (1, firstRecord)] ∧
      run before (restartBetween 1 1) Offset.succ = some other ∧
      other.store.status.replayed = 0 :=
  ⟨_, _, _, _, rfl, rfl, rfl, rfl, rfl, rfl, rfl, rfl, rfl⟩

end Session

end BrokerTenancy
