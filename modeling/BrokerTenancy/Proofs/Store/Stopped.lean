import BrokerTenancy.Proofs.Store.Rest
import BrokerTenancy.Proofs.Store.Session

/-!
A store that has stopped stays stopped, whatever its loops go on to do and however often it is
started again. It answers nothing from its snapshot, asks its log for no append, and lets no write
return that waits. A store that is not ready yet refuses its callers in the same way.
-/

namespace BrokerTenancy

/-- Every call that begins on the store fails with the fault, and a write leaves the log as it
is. -/
structure Store.Refuses {Value : Type} [Storable Value] (store : Store Value) (fault : Fault) :
    Prop where
  get : ∀ key, store.get key = .error fault
  list : store.list = .error fault
  listFiltered : ∀ test, store.listFiltered test = .error fault
  entries : store.entries = .error fault
  begin : Write.begin store = .finished (.error fault)
  put : ∀ log key value now, let put := HostedStore.put ⟨store, log⟩ key value now
    put.2 = .error fault ∧ put.1.log = log
  delete : ∀ log key now, let deleted := HostedStore.delete ⟨store, log⟩ key now
    deleted.2 = .error fault ∧ deleted.1.log = log

section Refusing

variable {Value : Type} [Storable Value] {store : Store Value} {fault : Fault}

theorem HostedStore.write_refused (refused : store.ensureServing = .error fault)
    (log : ResourceLog) (key : String) (value : Option (List UInt8)) (now : Int) :
    (HostedStore.write ⟨store, log⟩ key value now).2 = .error fault ∧
      (HostedStore.write ⟨store, log⟩ key value now).1.log = log := by
  have begun : Write.begin store = .finished (.error fault) := by
    rw [Write.begin, refused]
  have unwritten : HostedStore.beginWrite ⟨store, log⟩ key value now =
      (⟨store, log⟩, .finished (.error fault)) := by
    rw [beginWrite, begun]
  rw [write, unwritten]
  exact ⟨rfl, settle_for_log _ _⟩

theorem Store.refuses_of_ensure_serving (refused : store.ensureServing = .error fault) :
    store.Refuses fault where
  get key := by
    rw [Store.get, refused]
    rfl
  list := by
    rw [Store.list, refused]
    rfl
  listFiltered test := by
    rw [Store.listFiltered, Store.list, refused]
    rfl
  entries := by
    rw [Store.entries, refused]
    rfl
  begin := by
    rw [Write.begin, refused]
  put log key value now := by
    rcases HostedStore.write_refused refused log key (some (encodeValue value)) now with
      ⟨failed, kept⟩
    constructor
    · change Except.map _ (HostedStore.write _ _ _ _).2 = _
      rw [failed]
      rfl
    · exact kept
  delete log key now := HostedStore.write_refused refused log key none now

theorem Store.refuses_stopped {cause : StopCause} (stopped : store.status.fatal = some cause) :
    store.Refuses (.stopped store.name cause) := by
  apply refuses_of_ensure_serving
  rw [ensureServing, stopped]

theorem Store.refuses_not_ready (going : store.status.fatal = none)
    (notReady : store.status.ready = false) : store.Refuses (.notReady store.name) := by
  apply refuses_of_ensure_serving
  rw [ensureServing, going, notReady]
  rfl

omit [Storable Value] in
theorem Store.serving_of_serves (serves : store.status.serves) : store.ensureServing = .ok () := by
  rcases Bool.and_eq_true_iff.mp serves with ⟨isReady, notStopped⟩
  rw [ensureServing, Option.isNone_iff_eq_none.mp notStopped, isReady]
  rfl

end Refusing

namespace Write

variable {Value : Type} {store : Store Value}

/-- What a step of a session can make of a write. -/
def Moves (store : Store Value) (write after : Write) : Prop :=
  after = write ∨ (∃ answer, after = write.logAnswered store answer) ∨
    after = write.observe store ∨ after = write.expire store

theorem at_deadline_ok {write : Write} (done : write.atDeadline store = .ok ()) :
    write = .finished (.ok ()) := by
  cases write with
  | appending => cases done
  | applying offset => cases done
  | finished result => exact congrArg Write.finished done

/-- What a caller of a stopped store sees is a fault, so its write returns only if it had. -/
theorem Moves.unfulfilled {write : Write} (moves : Moves store write (.finished (.ok ())))
    (stopped : store.status.fatal.isSome = true) : write = .finished (.ok ()) := by
  rcases moves with same | ⟨answer, same⟩ | same | same
  · exact same.symm
  · cases write with
    | appending => cases answer <;> cases same
    | applying offset => cases same
    | finished result => exact same.symm
  · cases write with
    | appending => cases same
    | applying offset =>
        rcases Option.isSome_iff_exists.mp stopped with ⟨cause, held⟩
        rw [observe, held] at same
        cases same
    | finished result => exact same.symm
  · exact at_deadline_ok (Write.finished.inj same).symm

theorem Moves.finished {result : Outcome Unit} {after : Write}
    (moves : Moves store (.finished result) after) : after = .finished result := by
  rcases moves with same | ⟨answer, same⟩ | same | same <;> exact same

end Write

namespace Session

variable {Value : Type} [Storable Value] {session next : Session Value}

theorem step_fatal {event : SessionEvent} (stepped : session.step event = some next)
    (stopped : session.store.status.fatal.isSome = true) :
    next.store.status.fatal.isSome = true := by
  cases event with
  | start =>
      cases stepped
      rw [Store.start_status]
      exact stopped
  | shutDown =>
      cases stepped
      rfl
  | answer loop delivery =>
      rcases step_answer stepped with ⟨current, found, awaited, rfl⟩
      rw [turn_status]
      exact Store.deliver_fatal _ current delivery rfl awaited stopped
  | _ =>
      cases stepped
      exact stopped

theorem step_name {event : SessionEvent} (stepped : session.step event = some next) :
    next.store.name = session.store.name := by
  cases event with
  | start =>
      cases stepped
      cases held : session.store.loop <;> simp [Store.start, held]
  | answer loop delivery =>
      rcases step_answer stepped with ⟨current, found, awaited, rfl⟩
      have same : (session.turn loop current delivery).store.name =
          (Store.deliver { session.store with loop := some current } delivery).name := by
        rw [turn]
        split <;> rfl
      rw [same]
      rcases Store.deliver_cases { session.store with loop := some current } current delivery rfl
        awaited with ⟨fault, -, moved⟩ | ⟨low, -, -, moved⟩ | ⟨low, high, replayed, -, -, moved⟩ |
          ⟨position, batch, replayed, -, -, -, moved⟩ | ⟨position, batch, fault, -, -, -, moved⟩
      all_goals rw [moved]
      all_goals rfl
  | _ =>
      cases stepped
      rfl

/-- A write is as it was, or moved on, or has begun just now. -/
theorem step_write {event : SessionEvent} (stepped : session.step event = some next)
    {number : Nat} {after : Write} (found : next.writes[number]? = some after) :
    (session.writes[number]? = none ∧ after = Write.begin session.store) ∨
      ∃ write, session.writes[number]? = some write ∧ write.Moves session.store after := by
  have modified {other : Nat} {change : Write → Write}
      (moves : ∀ write : Write, write.Moves session.store (change write))
      (held : (session.writes.modify other change)[number]? = some after) :
      ∃ write, session.writes[number]? = some write ∧ write.Moves session.store after := by
    rw [List.getElem?_modify] at held
    rcases Option.map_eq_some_iff.mp held with ⟨write, before, rfl⟩
    apply Exists.intro write
    apply And.intro before
    split
    · exact moves write
    · exact .inl rfl
  cases event with
  | start =>
      cases stepped
      exact .inr ⟨after, found, .inl rfl⟩
  | shutDown =>
      cases stepped
      exact .inr ⟨after, found, .inl rfl⟩
  | answer loop delivery =>
      rcases step_answer stepped with ⟨current, -, -, rfl⟩
      exact .inr ⟨after, found, .inl rfl⟩
  | beginWrite =>
      cases stepped
      rcases Nat.lt_or_ge number session.writes.length with inside | behind
      · rw [List.getElem?_append_left inside] at found
        exact .inr ⟨after, found, .inl rfl⟩
      · rw [List.getElem?_append_right behind] at found
        rcases List.getElem?_eq_some_iff.mp found with ⟨single, begun⟩
        left
        apply And.intro (List.getElem?_eq_none behind)
        rw [← begun, List.getElem_singleton]
  | logAnswered write answer =>
      cases stepped
      exact .inr (modified (fun write => .inr (.inl ⟨answer, rfl⟩)) found)
  | observe write =>
      cases stepped
      exact .inr (modified (fun write => .inr (.inr (.inl rfl))) found)
  | expire write =>
      cases stepped
      exact .inr (modified (fun write => .inr (.inr (.inr rfl))) found)

/-- What a run keeps of the state in which its store had stopped. -/
structure StaysStopped (session next : Session Value) : Prop where
  stopped : next.store.status.fatal.isSome = true
  name : next.store.name = session.store.name
  /-- No write has returned since. -/
  unfulfilled : ∀ number : Nat, next.writes[number]? = some (.finished (.ok ())) →
    session.writes[number]? = some (.finished (.ok ()))
  /-- Each write that has begun since failed at once. -/
  refused : ∀ (number : Nat) write, session.writes[number]? = none →
    next.writes[number]? = some write →
    ∃ cause, write = .finished (.error (.stopped session.store.name cause))

theorem StaysStopped.step {last : Session Value} {event : SessionEvent}
    (stays : StaysStopped session next) (stepped : next.step event = some last) :
    StaysStopped session last where
  stopped := step_fatal stepped stays.stopped
  name := (step_name stepped).trans stays.name
  unfulfilled number done := by
    rcases step_write stepped done with ⟨-, begun⟩ | ⟨write, before, moves⟩
    · rcases Option.isSome_iff_exists.mp stays.stopped with ⟨cause, stopped⟩
      rw [(Store.refuses_stopped stopped).begin] at begun
      cases begun
    · rw [moves.unfulfilled stays.stopped] at before
      exact stays.unfulfilled number before
  refused number after absent found := by
    rcases step_write stepped found with ⟨-, rfl⟩ | ⟨write, before, moves⟩
    · rcases Option.isSome_iff_exists.mp stays.stopped with ⟨cause, stopped⟩
      rw [(Store.refuses_stopped stopped).begin, stays.name]
      exact ⟨cause, rfl⟩
    · rcases stays.refused number write absent before with ⟨cause, rfl⟩
      exact ⟨cause, moves.finished⟩

theorem stays_stopped_run {later : List SessionEvent} (went : run session later = some next)
    (stopped : session.store.status.fatal.isSome = true) : StaysStopped session next := by
  induction later using List.reverseRecOn generalizing next with
  | nil =>
      cases went
      apply StaysStopped.mk stopped rfl
      · intro number done
        exact done
      · intro number write absent found
        rw [absent] at found
        cases found
  | append_singleton earlier event induction =>
      rcases run_append_singleton went with ⟨before, reached, stepped⟩
      exact (induction reached).step stepped

/-- A store that has stopped never serves again: whatever happens later, each call that begins fails
with the cause and leaves the log alone, whoever waits for the store to be ready learns the cause at
once, and no write that waits returns. Before it is ready a store refuses every call. -/
theorem run_stays_stopped (name : String) (limits : StoreLimits) (events : List SessionEvent)
    (session : Session Value) (ran : run (fresh name limits) events = some session) :
    (session.store.status.fatal.isSome → ∀ later next, run session later = some next →
      (∃ cause, next.store.status.fatal = some cause ∧
        next.store.Refuses (.stopped name cause) ∧
        next.store.readiness = some (.error (.stopped name cause)) ∧
        next.store.awaitReady = .error (.stopped name cause)) ∧
      (∀ (number : Nat) write, session.writes[number]? = none →
        next.writes[number]? = some write →
        ∃ cause, write = .finished (.error (.stopped name cause))) ∧
      ∀ number : Nat, next.writes[number]? = some (.finished (.ok ())) →
        session.writes[number]? = some (.finished (.ok ()))) ∧
    (session.store.status.fatal = none → session.store.status.ready = false →
      session.store.Refuses (.notReady name)) := by
  have sameName : session.store.name = name := by
    induction events using List.reverseRecOn generalizing session with
    | nil =>
        cases ran
        rfl
    | append_singleton earlier event induction =>
        rcases run_append_singleton ran with ⟨before, reached, stepped⟩
        exact (step_name stepped).trans (induction before reached)
  constructor
  · intro stopped later next went
    have stays := stays_stopped_run went stopped
    rcases Option.isSome_iff_exists.mp stays.stopped with ⟨cause, held⟩
    have nextName : next.store.name = name := stays.name.trans sameName
    have told : next.store.readiness = some (.error (.stopped name cause)) := by
      rw [Store.readiness, held, nextName]
    have refuses := Store.refuses_stopped held
    rw [nextName] at refuses
    refine ⟨⟨cause, held, refuses, told, ?_⟩, ?_, stays.unfulfilled⟩
    · rw [Store.awaitReady, told]
      rfl
    · rw [← sameName]
      exact stays.refused
  · intro going notReady
    rw [← sameName]
    exact Store.refuses_not_ready going notReady

/-- A write waits for its record when another record in front of it cannot be decoded. -/
def unreadableInFront : List SessionEvent :=
  [.start, .answer 0 (.low (.ok 3)), .answer 0 (.high (.ok 3)), .beginWrite,
    .logAnswered 0 (.ok 4), .answer 0 (.batch (.ok [⟨3, "left", some [], 0⟩]))]

/-- The store is shut down and started again, its new loop takes both records, and one more write
begins. -/
def triedAgain : List SessionEvent :=
  [.shutDown, .start, .answer 1 (.low (.ok 4)), .answer 1 (.high (.ok 5)),
    .answer 1 (.batch (.ok [⟨4, "left", some [55], 0⟩])), .beginWrite, .observe 0]

theorem run_stays_stopped_unreadable :
    (∃ session next, run (fresh "counts" {} : Session Count) unreadableInFront = some session ∧
      session.writes[0]? = some (.applying 4) ∧ run session triedAgain = some next ∧
      next.store.status.ready ∧ next.store.status.applied = 5 ∧
      (∃ cause, next.store.get "left" = .error (.stopped "counts" cause)) ∧
      next.writes[0]? ≠ some (.finished (.ok ()))) ∧
    ∃ session, run (fresh "counts" {} : Session Count) [.start] = some session ∧
      session.store.get "left" = .error (.notReady "counts") := by
  constructor
  · rcases show ∃ session next,
        run (fresh "counts" {} : Session Count) unreadableInFront = some session ∧
          session.store.status.fatal.isSome ∧ session.writes[0]? = some (.applying 4) ∧
          run session triedAgain = some next ∧ next.store.status.ready ∧
          next.store.status.applied = 5 from ⟨_, _, rfl, rfl, rfl, rfl, rfl, rfl⟩ with
      ⟨session, next, ran, stopped, waiting, went, ready, applied⟩
    rcases (run_stays_stopped "counts" {} unreadableInFront session ran).1 stopped triedAgain next
      went with ⟨⟨cause, -, refuses, -⟩, -, unfulfilled⟩
    refine ⟨session, next, ran, waiting, went, ready, applied, ⟨cause, refuses.get "left"⟩, ?_⟩
    intro done
    have before := unfulfilled 0 done
    rw [waiting] at before
    cases before
  · rcases show ∃ session, run (fresh "counts" {} : Session Count) [.start] = some session ∧
        session.store.status.fatal = none ∧ session.store.status.ready = false from
          ⟨_, rfl, rfl, rfl⟩ with ⟨session, ran, going, notReady⟩
    apply Exists.intro session
    apply And.intro ran
    exact ((run_stays_stopped "counts" {} [.start] session ran).2 going notReady).get "left"

end Session

end BrokerTenancy
