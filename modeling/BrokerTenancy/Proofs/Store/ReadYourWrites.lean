import BrokerTenancy.Proofs.Store.Traffic

/-!
A caller whose write returned sees it. The loop takes the records of the log without a gap from the
low watermark on and publishes no offset whose record is not in the snapshot; a call is let through
only once the low watermark is known, so its record is not in front of it.
-/

namespace BrokerTenancy.Traffic

variable {Value : Type} [Storable Value]

/-- The offset behind the last record in the snapshot, once the low watermark is known. -/
def behind (traffic : Traffic Value) : Option Nat := traffic.low.map (· + traffic.taken.length)

/-- What holds of the log and of the calls it appended for. -/
structure LogSound (traffic : Traffic Value) : Prop where
  dense : Record.Gapless traffic.base traffic.records
  callers : ∀ entry ∈ traffic.log, ∀ call, entry.caller = some call →
    ∃ held : Call Value, traffic.calls[call]? = some held ∧ held.pending = false ∧
      entry.record.key = held.key ∧ entry.record.value = held.value.map Store.encodeValue
  single : ∀ call, (traffic.log.filter (·.caller = some call)).length ≤ 1
  /-- A record that a call asked for is not in front of the low watermark. -/
  above : ∀ entry ∈ traffic.log, entry.caller.isSome →
    ∃ low, traffic.low = some low ∧ low ≤ entry.record.offset

/-- What holds of the loop and the snapshot. -/
structure LoopSound (traffic : Traffic Value) : Prop where
  snapshot : traffic.store.snapshot = Store.replay traffic.taken
  logged : ∀ record ∈ traffic.taken, record ∈ traffic.records
  gapless : ∀ low, traffic.low = some low → Record.Gapless low traffic.taken
  /-- No offset is published whose record is not in the snapshot. -/
  applied : ∀ low, traffic.low = some low →
    low ≤ traffic.nextOffset ∧ traffic.store.status.applied ≤ low + traffic.taken.length
  unknown : traffic.low = none → traffic.taken = [] ∧ traffic.store.status.ready = false ∧
    traffic.store.status.applied = 0
  asking : traffic.store.loop = none ∨ traffic.store.loop = some .askingLow → traffic.low = none
  waiting : ∀ low, traffic.store.loop = some (.askingHigh low) →
    traffic.low = some low ∧ traffic.taken = []
  position : traffic.task = none → ∀ position,
    traffic.store.loop.bind LoopStage.expects = some position → traffic.behind = some position
  published : ∀ position, traffic.task = some (.publish (.ok position)) →
    traffic.behind = some position
  proceeding : ∀ position, traffic.task = some (.proceed position) →
    traffic.behind = some position

/-- What holds of the calls. -/
structure CallsSound (traffic : Traffic Value) : Prop where
  asked : ∀ (call : Nat) (held : Call Value), traffic.calls[call]? = some held → held.pending →
    traffic.low.isSome
  applying : ∀ (call : Nat) (held : Call Value) offset, traffic.calls[call]? = some held →
    held.write = .applying offset →
    ∃ entry ∈ traffic.log, entry.caller = some call ∧ entry.record.offset = offset
  /-- The record of a call that returned is in the snapshot. -/
  settled : ∀ (call : Nat) (held : Call Value), traffic.calls[call]? = some held →
    held.write = .finished (.ok ()) →
    ∃ entry ∈ traffic.log, entry.caller = some call ∧ entry.record ∈ traffic.taken

structure Sound (traffic : Traffic Value) : Prop where
  log : LogSound traffic
  loop : LoopSound traffic
  calls : CallsSound traffic

theorem sound_fresh (name : String) (limits : StoreLimits) (base : Nat) :
    Sound (fresh name limits base : Traffic Value) where
  log := ⟨rfl, by simp [fresh], by simp [fresh], by simp [fresh]⟩
  loop :=
    { snapshot := rfl
      logged := by simp [fresh]
      gapless := by simp [fresh]
      applied := by simp [fresh]
      unknown := fun _ => ⟨rfl, rfl, rfl⟩
      asking := by simp [fresh]
      waiting := by simp [fresh]
      position := by simp [fresh]
      published := by simp [fresh]
      proceeding := by simp [fresh] }
  calls := ⟨by simp [fresh], by simp [fresh], by simp [fresh]⟩

theorem LogSound.entry_eq {traffic : Traffic Value} (sound : LogSound traffic)
    {first second : LogEntry} (firstIn : first ∈ traffic.log) (secondIn : second ∈ traffic.log)
    (same : first.record.offset = second.record.offset) : first = second := by
  obtain ⟨left, leftAt⟩ := List.mem_iff_getElem?.mp firstIn
  obtain ⟨right, rightAt⟩ := List.mem_iff_getElem?.mp secondIn
  have leftPlace : first.record.offset = traffic.base + left :=
    Record.gapless_offset sound.dense (by simp [records, leftAt])
  have rightPlace : second.record.offset = traffic.base + right :=
    Record.gapless_offset sound.dense (by simp [records, rightAt])
  have sameIndex : left = right := by omega
  rw [sameIndex, rightAt] at leftAt
  exact (Option.some_inj.mp leftAt).symm

/-- A call with an entry has exactly this one. -/
theorem LogSound.filter_eq {traffic : Traffic Value} (sound : LogSound traffic) {call : Nat}
    {entry : LogEntry} (held : entry ∈ traffic.log) (own : entry.caller = some call) :
    traffic.log.filter (·.caller = some call) = [entry] := by
  have inside : entry ∈ traffic.log.filter (·.caller = some call) := by
    simpa using ⟨held, own⟩
  have short := sound.single call
  generalize traffic.log.filter (·.caller = some call) = entries at inside short
  cases entries with
  | nil => simp at inside
  | cons first rest =>
      have none : rest = [] := List.length_eq_zero_iff.mp (by simpa using short)
      subst none
      rw [List.mem_singleton.mp inside]

/-- A record whose offset is published is in the snapshot. -/
theorem Sound.mem_taken {traffic : Traffic Value} (sound : Sound traffic) {entry : LogEntry}
    (held : entry ∈ traffic.log) (called : entry.caller.isSome)
    (published : entry.record.offset < traffic.store.status.applied) :
    entry.record ∈ traffic.taken := by
  obtain ⟨low, known, above⟩ := sound.log.above entry held called
  have applied := (sound.loop.applied low known).2
  -- The snapshot has no gap, so some record stands at the offset; there is only one such.
  have inside : entry.record.offset - low < traffic.taken.length := by omega
  have found := List.getElem?_eq_getElem inside
  have place := Record.gapless_offset (sound.loop.gapless low known) found
  obtain ⟨other, otherIn, same⟩ :=
    List.mem_map.mp (sound.loop.logged _ (List.getElem_mem inside))
  have sameOffset : other.record.offset = entry.record.offset := by
    rw [same, place]
    omega
  rw [← sound.log.entry_eq otherIn held sameOffset, same]
  exact List.getElem_mem inside

omit [Storable Value] in
theorem found_modify {calls : List (Call Value)} {call other : Nat} {now : Call Value}
    {change : Call Value → Call Value} (found : (calls.modify call change)[other]? = some now) :
    ∃ held, calls[other]? = some held ∧ now = if call = other then change held else held := by
  rw [List.getElem?_modify] at found
  obtain ⟨held, stored, same⟩ := Option.map_eq_some_iff.mp found
  exact ⟨held, stored, same.symm⟩

theorem LogSound.keep {traffic next : Traffic Value} (sound : LogSound traffic)
    (base : next.base = traffic.base) (log : next.log = traffic.log)
    (calls : ∀ (call : Nat) (held : Call Value), traffic.calls[call]? = some held →
      ∃ now : Call Value, next.calls[call]? = some now ∧ now.pending = held.pending ∧
        now.key = held.key ∧ now.value = held.value)
    (low : ∀ low, traffic.low = some low → next.low = some low) : LogSound next := by
  refine ⟨?_, ?_, by rw [log]; exact sound.single, ?_⟩
  · rw [base, records, log]
    exact sound.dense
  · intro entry member call own
    rw [log] at member
    obtain ⟨held, found, idle, sameKey, sameValue⟩ := sound.callers entry member call own
    obtain ⟨now, current, samePending, nextKey, nextValue⟩ := calls call held found
    exact ⟨now, current, samePending.trans idle, sameKey.trans nextKey.symm,
      sameValue.trans (congrArg _ nextValue.symm)⟩
  · intro entry member called
    rw [log] at member
    obtain ⟨least, known, above⟩ := sound.above entry member called
    exact ⟨least, low least known, above⟩

/-- An entry at the next offset keeps the log sound, if it is the first one of its caller. -/
theorem LogSound.extend {traffic next : Traffic Value} (sound : LogSound traffic)
    (entry : LogEntry) (base : next.base = traffic.base) (log : next.log = traffic.log ++ [entry])
    (place : entry.record.offset = traffic.nextOffset) (low : next.low = traffic.low)
    (calls : ∀ (call : Nat) (held : Call Value), traffic.calls[call]? = some held →
      ∃ now : Call Value, next.calls[call]? = some now ∧
        (held.pending = false → now.pending = false) ∧
        now.key = held.key ∧ now.value = held.value)
    (own : ∀ call, entry.caller = some call →
      traffic.log.filter (·.caller = some call) = [] ∧
      (∃ now : Call Value, next.calls[call]? = some now ∧ now.pending = false ∧
        entry.record.key = now.key ∧ entry.record.value = now.value.map Store.encodeValue) ∧
      ∃ low, traffic.low = some low ∧ low ≤ traffic.nextOffset) : LogSound next := by
  refine ⟨?_, ?_, ?_, ?_⟩
  · have single : Record.Gapless (traffic.base + traffic.records.length) [entry.record] := by
      rw [Record.gapless_cons]
      exact ⟨by rw [place, nextOffset, records, List.length_map], Record.gapless_nil _⟩
    rw [base, records, log, List.map_append]
    exact (Record.gapless_append ..).mpr ⟨sound.dense, single⟩
  · intro other member call called
    rw [log, List.mem_append, List.mem_singleton] at member
    obtain before | added := member
    · obtain ⟨held, found, idle, sameKey, sameValue⟩ := sound.callers other before call called
      obtain ⟨now, current, stillIdle, nextKey, nextValue⟩ := calls call held found
      exact ⟨now, current, stillIdle idle, sameKey.trans nextKey.symm,
        sameValue.trans (congrArg _ nextValue.symm)⟩
    · subst added
      exact (own call called).2.1
  · intro call
    rw [log, List.filter_append, List.length_append]
    by_cases called : entry.caller = some call
    · simp [(own call called).1, called]
    · simpa [called] using sound.single call
  · intro other member called
    rw [log, List.mem_append, List.mem_singleton] at member
    rw [low]
    obtain before | added := member
    · exact sound.above other before called
    · subst added
      obtain ⟨call, isCall⟩ := Option.isSome_iff_exists.mp called
      rw [place]
      exact (own call isCall).2.2

theorem LogSound.move {traffic next : Traffic Value} (sound : Sound traffic)
    (move : Move traffic next) : LogSound next := by
  cases move with
  | begin key value =>
      refine sound.log.keep rfl rfl ?_ fun _ known => known
      intro call held found
      have inside := (List.getElem?_eq_some_iff.mp found).choose
      exact ⟨held, by rw [enter, List.getElem?_append_left inside, found], rfl, rfl, rfl⟩
  | append call held timestamp found pending =>
      refine sound.log.extend _ rfl rfl rfl rfl ?_ ?_
      · intro other before stored
        simp only [appendFor, List.getElem?_modify, stored, Option.map_eq_map, Option.map_some]
        split
        · exact ⟨_, rfl, fun _ => rfl, rfl, rfl⟩
        · exact ⟨_, rfl, fun idle => idle, rfl, rfl⟩
      · intro other isCall
        obtain rfl := Option.some_inj.mp isCall
        refine ⟨?_, ?_, ?_⟩
        -- Entries belong to calls that wait for no append; this call still does.
        · rw [List.filter_eq_nil_iff]
          intro entry member own
          obtain ⟨same, stored, idle, -⟩ :=
            sound.log.callers entry member call (of_decide_eq_true own)
          rw [found] at stored
          rw [← Option.some_inj.mp stored] at idle
          simp [idle] at pending
        · simp [appendFor, found]
        · obtain ⟨low, known⟩ :=
            Option.isSome_iff_exists.mp (sound.calls.asked call held found pending)
          exact ⟨low, known, (sound.loop.applied low known).1⟩
  | foreign key bytes timestamp =>
      exact sound.log.extend _ rfl rfl rfl rfl
        (fun call held found => ⟨held, found, id, rfl, rfl⟩) (by simp)
  | low low asking bounded =>
      refine sound.log.keep rfl rfl (fun call held found => ⟨held, found, rfl, rfl, rfl⟩) ?_
      intro other known
      rw [sound.loop.asking (.inr asking)] at known
      exact absurd known (by simp)
  | answer call | observe call | expire call =>
      refine sound.log.keep rfl rfl ?_ fun _ known => known
      intro other before stored
      simp only [onWrite, List.getElem?_modify, stored, Option.map_eq_map, Option.map_some]
      split <;> exact ⟨_, rfl, rfl, rfl, rfl⟩
  | _ =>
      exact sound.log.keep rfl rfl (fun call held found => ⟨held, found, rfl, rfl, rfl⟩)
        fun _ known => known

omit [Storable Value] in
theorem CallsSound.keep {traffic next : Traffic Value} (sound : CallsSound traffic)
    (calls : next.calls = traffic.calls) (log : traffic.log ⊆ next.log)
    (taken : traffic.taken ⊆ next.taken) (low : traffic.low.isSome → next.low.isSome) :
    CallsSound next := by
  refine ⟨?_, ?_, ?_⟩
  · intro call held found pending
    rw [calls] at found
    exact low (sound.asked call held found pending)
  · intro call held offset found applying
    rw [calls] at found
    obtain ⟨entry, member, own, place⟩ := sound.applying call held offset found applying
    exact ⟨entry, log member, own, place⟩
  · intro call held found finished
    rw [calls] at found
    obtain ⟨entry, member, own, inSnapshot⟩ := sound.settled call held found finished
    exact ⟨entry, log member, own, taken inSnapshot⟩

omit [Storable Value] in
/-- A change of one write keeps the calls sound, if what it newly says of the log is true. -/
theorem CallsSound.on_write {traffic : Traffic Value} (sound : CallsSound traffic) (call : Nat)
    (change : Write → Write)
    (applying : ∀ held : Call Value, traffic.calls[call]? = some held → ∀ offset,
      change held.write = .applying offset → held.write = .applying offset ∨
        ∃ entry ∈ traffic.log, entry.caller = some call ∧ entry.record.offset = offset)
    (settled : ∀ held : Call Value, traffic.calls[call]? = some held →
      change held.write = .finished (.ok ()) → held.write = .finished (.ok ()) ∨
        ∃ entry ∈ traffic.log, entry.caller = some call ∧ entry.record ∈ traffic.taken) :
    CallsSound (traffic.onWrite call change) := by
  refine ⟨?_, ?_, ?_⟩
  · intro other now found pending
    obtain ⟨held, stored, rfl⟩ := found_modify found
    split at pending <;> exact sound.asked other held stored pending
  · intro other now offset found isApplying
    obtain ⟨held, stored, rfl⟩ := found_modify found
    split at isApplying
    · next same =>
      subst same
      obtain before | new := applying held stored offset isApplying
      · exact sound.applying call held offset stored before
      · exact new
    · exact sound.applying other held offset stored isApplying
  · intro other now found finished
    obtain ⟨held, stored, rfl⟩ := found_modify found
    split at finished
    · next same =>
      subst same
      obtain before | new := settled held stored finished
      · exact sound.settled call held stored before
      · exact new
    · exact sound.settled other held stored finished

omit [Storable Value] in
/-- A write that begins either waits for the log or has failed. -/
theorem begin_cases (store : Store Value) :
    Write.begin store = .appending ∧ store.status.ready = true ∨
      ∃ fault, Write.begin store = .finished (.error fault) := by
  cases stopped : store.status.fatal with
  | some cause =>
      exact .inr ⟨.stopped store.name cause, by simp [Write.begin, Store.ensureServing, stopped]⟩
  | none =>
      by_cases isReady : store.status.ready
      · exact .inl ⟨by simp [Write.begin, Store.ensureServing, stopped, isReady], isReady⟩
      · exact .inr ⟨.notReady store.name, by
          simp [Write.begin, Store.ensureServing, stopped, isReady]⟩

theorem CallsSound.enter {traffic : Traffic Value} (sound : Sound traffic) (key : String)
    (value : Option Value) : CallsSound (traffic.enter key value) := by
  -- Only the new call needs an argument; it is at the end of the list.
  have found_cases {call : Nat} {held : Call Value}
      (found : (traffic.enter key value).calls[call]? = some held) :
      traffic.calls[call]? = some held ∨ held = Call.opened traffic.store key value := by
    rw [Traffic.enter, List.getElem?_append] at found
    split at found
    · exact .inl found
    · exact .inr (List.mem_singleton.mp (List.mem_of_getElem? found))
  refine ⟨?_, ?_, ?_⟩
  · intro call held found pending
    obtain before | rfl := found_cases found
    · exact sound.calls.asked call held before pending
    · obtain ⟨-, isReady⟩ | ⟨fault, failed⟩ := begin_cases traffic.store
      · by_contra unknown
        have notReady := (sound.loop.unknown (Option.not_isSome_iff_eq_none.mp unknown)).2.1
        simp [isReady] at notReady
      · simp [Call.opened, failed] at pending
  · intro call held offset found applying
    obtain before | rfl := found_cases found
    · exact sound.calls.applying call held offset before applying
    · obtain ⟨waiting, -⟩ | ⟨fault, failed⟩ := begin_cases traffic.store
      · simp [Call.opened, waiting] at applying
      · simp [Call.opened, failed] at applying
  · intro call held found finished
    obtain before | rfl := found_cases found
    · exact sound.calls.settled call held before finished
    · obtain ⟨waiting, -⟩ | ⟨fault, failed⟩ := begin_cases traffic.store
      · simp [Call.opened, waiting] at finished
      · simp [Call.opened, failed] at finished

theorem CallsSound.append_for {traffic : Traffic Value} (sound : CallsSound traffic) (call : Nat)
    (held : Call Value) (timestamp : Int) : CallsSound (traffic.appendFor call held timestamp) := by
  have longer : traffic.log ⊆ (traffic.appendFor call held timestamp).log :=
    List.subset_append_left _ _
  refine ⟨?_, ?_, ?_⟩
  · intro other now found pending
    obtain ⟨before, stored, rfl⟩ := found_modify found
    split at pending
    · simp at pending
    · exact sound.asked other before stored pending
  · intro other now offset found applying
    obtain ⟨before, stored, rfl⟩ := found_modify found
    have same : before.write = .applying offset := by split at applying <;> exact applying
    obtain ⟨entry, member, own, place⟩ := sound.applying other before offset stored same
    exact ⟨entry, longer member, own, place⟩
  · intro other now found finished
    obtain ⟨before, stored, rfl⟩ := found_modify found
    have same : before.write = .finished (.ok ()) := by split at finished <;> exact finished
    obtain ⟨entry, member, own, inSnapshot⟩ := sound.settled other before stored same
    exact ⟨entry, longer member, own, inSnapshot⟩

omit [Storable Value] in
/-- The log answers with an offset only where the record of the call is. -/
theorem CallsSound.log_answered {traffic : Traffic Value} (sound : CallsSound traffic)
    (call : Nat) (outcome : Outcome Nat) (allowed : traffic.mayAnswer call outcome) :
    CallsSound (traffic.onWrite call (·.logAnswered traffic.store outcome)) := by
  apply sound.on_write call
  · intro held found offset applying
    cases before : held.write with
    | appending =>
        cases outcome with
        | error fault => simp [before, Write.logAnswered] at applying
        | ok told =>
            have same : told = offset := by simpa [before, Write.logAnswered] using applying
            subst same
            obtain ⟨entry, member, own⟩ := List.any_eq_true.mp allowed
            obtain ⟨caller, place⟩ := Bool.and_eq_true_iff.mp own
            exact .inr ⟨entry, member, eq_of_beq caller, eq_of_beq place⟩
    | applying told =>
        rw [before] at applying
        exact .inl applying
    | finished result => simp [before, Write.logAnswered] at applying
  · intro held found finished
    cases before : held.write with
    | appending =>
        cases outcome <;> simp [before, Write.logAnswered] at finished
    | applying told => simp [before, Write.logAnswered] at finished
    | finished result =>
        rw [before] at finished
        exact .inl finished

/-- A call that sees its offset published returns, and its record is in the snapshot. -/
theorem CallsSound.observe {traffic : Traffic Value} (sound : Sound traffic) (call : Nat) :
    CallsSound (traffic.onWrite call (·.observe traffic.store)) := by
  apply sound.calls.on_write call
  · intro held found offset applying
    cases before : held.write with
    | applying told =>
        simp only [before, Write.observe] at applying
        split at applying
        · simp at applying
        · split at applying
          · simp at applying
          · exact .inl applying
    | _ => simp [before, Write.observe] at applying
  · intro held found finished
    cases before : held.write with
    | applying told =>
        simp only [before, Write.observe] at finished
        split at finished
        · simp at finished
        · split at finished
          · next published =>
            obtain ⟨entry, member, own, place⟩ :=
              sound.calls.applying call held told found before
            subst place
            exact .inr ⟨entry, member, own, sound.mem_taken member (by simp [own]) published⟩
          · simp at finished
    | appending => simp [before, Write.observe] at finished
    | finished result =>
        rw [before] at finished
        exact .inl finished

omit [Storable Value] in
theorem CallsSound.expire {traffic : Traffic Value} (sound : CallsSound traffic) (call : Nat) :
    CallsSound (traffic.onWrite call (·.expire traffic.store)) := by
  apply sound.on_write call
  · intro held found offset applying
    simp [Write.expire] at applying
  · intro held found finished
    cases before : held.write with
    | finished result =>
        exact .inl (by simpa [before, Write.expire, Write.atDeadline] using finished)
    | _ => simp [before, Write.expire, Write.atDeadline] at finished

theorem CallsSound.move {traffic next : Traffic Value} (sound : Sound traffic)
    (move : Move traffic next) : CallsSound next := by
  cases move with
  | begin key value => exact .enter sound key value
  | append call held timestamp found pending => exact sound.calls.append_for call held timestamp
  | foreign key bytes timestamp =>
      exact sound.calls.keep rfl (List.subset_append_left _ _) (List.Subset.refl _) id
  | answer call outcome allowed => exact sound.calls.log_answered call outcome allowed
  | observe call => exact .observe sound call
  | expire call => exact sound.calls.expire call
  | low low asking bounded =>
      exact sound.calls.keep rfl (List.Subset.refl _) (List.Subset.refl _) fun _ => rfl
  | batch position batch idle expected held =>
      exact sound.calls.keep rfl (List.Subset.refl _) (List.subset_append_left _ _) id
  | _ => exact sound.calls.keep rfl (List.Subset.refl _) (List.Subset.refl _) id

theorem LoopSound.keep {traffic next : Traffic Value} (sound : LoopSound traffic)
    (store : next.store = traffic.store) (task : next.task = traffic.task)
    (low : next.low = traffic.low) (taken : next.taken = traffic.taken)
    (records : traffic.records ⊆ next.records) (offsets : traffic.nextOffset ≤ next.nextOffset) :
    LoopSound next := by
  have sameBehind : next.behind = traffic.behind := by rw [behind, behind, low, taken]
  constructor
  · rw [store, taken]
    exact sound.snapshot
  · intro record member
    rw [taken] at member
    exact records (sound.logged record member)
  · rw [low, taken]
    exact sound.gapless
  · intro least known
    rw [low] at known
    obtain ⟨bounded, applied⟩ := sound.applied least known
    rw [store, taken]
    exact ⟨Nat.le_trans bounded offsets, applied⟩
  · rw [low, taken, store]
    exact sound.unknown
  · rw [low, store]
    exact sound.asking
  · rw [low, taken, store]
    exact sound.waiting
  · rw [task, store, sameBehind]
    exact sound.position
  · rw [task, sameBehind]
    exact sound.published
  · rw [task, sameBehind]
    exact sound.proceeding

theorem LoopSound.fail {traffic : Traffic Value} (sound : LoopSound traffic) (fault : Fault) :
    LoopSound { traffic with store := traffic.store.fail fault, task := none } where
  snapshot := sound.snapshot
  logged := sound.logged
  gapless := sound.gapless
  applied := sound.applied
  unknown := sound.unknown
  asking := by simp [Store.fail]
  waiting := by simp [Store.fail]
  position := by simp [Store.fail, LoopStage.expects]
  published := by simp
  proceeding := by simp

theorem LoopSound.start {traffic : Traffic Value} (sound : LoopSound traffic) :
    LoopSound { traffic with store := traffic.store.start } := by
  cases held : traffic.store.loop with
  | some stage =>
      have same : traffic.store.start = traffic.store := by simp [Store.start, held]
      exact sound.keep same rfl rfl rfl (List.Subset.refl _) (Nat.le_refl _)
  | none =>
      have begun : traffic.store.start = { traffic.store with loop := some .askingLow } := by
        simp [Store.start, held]
      rw [begun]
      exact
        { snapshot := sound.snapshot
          logged := sound.logged
          gapless := sound.gapless
          applied := sound.applied
          unknown := sound.unknown
          asking := fun _ => sound.asking (.inl held)
          waiting := by simp
          position := by simp [LoopStage.expects]
          published := sound.published
          proceeding := sound.proceeding }

theorem LoopSound.learn_low {traffic : Traffic Value} (sound : LoopSound traffic) (low : Nat)
    (asking : traffic.store.loop = some .askingLow) (bounded : low ≤ traffic.nextOffset) :
    LoopSound (traffic.learnLow low) := by
  have unknown := sound.asking (.inr asking)
  obtain ⟨empty, notReady, zero⟩ := sound.unknown unknown
  have noPosition (position : Nat) : traffic.behind ≠ some position := by simp [behind, unknown]
  rw [learnLow, Store.deliver_low traffic.store low asking]
  exact
    { snapshot := sound.snapshot
      logged := sound.logged
      gapless := fun least known => by
        rw [empty]
        exact Record.gapless_nil least
      applied := fun least known => by
        obtain rfl := Option.some_inj.mp known
        exact ⟨bounded, by rw [zero]; exact Nat.zero_le _⟩
      unknown := by simp
      asking := by simp
      waiting := fun least same => by
        obtain rfl : low = least := by simpa using same
        exact ⟨rfl, empty⟩
      position := by simp [LoopStage.expects]
      published := fun position due => absurd (sound.published position due) (noPosition position)
      proceeding := fun position due =>
        absurd (sound.proceeding position due) (noPosition position) }

theorem LoopSound.learn_high {traffic : Traffic Value} (sound : LoopSound traffic)
    (low high : Nat) (asking : traffic.store.loop = some (.askingHigh low)) :
    LoopSound (traffic.learnHigh low high) := by
  obtain ⟨known, empty⟩ := sound.waiting low asking
  have atLow : traffic.behind = some low := by simp [behind, known, empty]
  exact
    { snapshot := sound.snapshot
      logged := sound.logged
      gapless := sound.gapless
      applied := fun least same => by
        obtain rfl : low = least := Option.some_inj.mp (known.symm.trans same)
        exact ⟨(sound.applied low known).1, Nat.le_add_right _ _⟩
      unknown := fun unknown => absurd (known.symm.trans unknown) (by simp)
      asking := by simp [learnHigh, Store.publish]
      waiting := by simp [learnHigh, Store.publish]
      position := by simp [learnHigh]
      published := by simp [learnHigh]
      proceeding := fun position due => by
        obtain rfl : low = position := by simpa [learnHigh] using due
        exact atLow }

theorem LoopSound.take_in {traffic : Traffic Value} (sound : LoopSound traffic) (position : Nat)
    (batch : List Record) (idle : traffic.task = none)
    (expected : traffic.store.loop.bind LoopStage.expects = some position)
    (held : ∀ record ∈ batch, record ∈ traffic.records) :
    LoopSound (traffic.takeIn position batch) := by
  obtain ⟨low, known, place⟩ := Option.map_eq_some_iff.mp (sound.position idle position expected)
  have inBatch : Store.takeable Value position batch ⊆ batch :=
    (Store.takeable_prefix Value position batch).subset
  have reached (whole : Store.takeable Value position batch = batch) :
      (traffic.takeIn position batch).behind = some (position + batch.length) := by
    simp only [behind, takeIn, known, Option.map_some, whole, List.length_append]
    congr 1
    omega
  exact
    { snapshot := by
        simp only [takeIn, Store.absorb, Store.apply_batch_snapshot, Store.replay_append,
          sound.snapshot]
      logged := by
        intro record member
        obtain before | now := List.mem_append.mp member
        · exact sound.logged record before
        · exact held record (inBatch now)
      gapless := by
        intro least same
        obtain rfl : low = least := Option.some_inj.mp (known.symm.trans same)
        refine (Record.gapless_append ..).mpr ⟨sound.gapless low known, ?_⟩
        rw [place]
        exact Store.takeable_gapless Value position batch
      applied := by
        intro least same
        obtain ⟨bounded, applied⟩ := sound.applied least same
        refine ⟨bounded, Nat.le_trans applied ?_⟩
        simp only [takeIn, List.length_append]
        omega
      unknown := fun unknown => absurd (known.symm.trans unknown) (by simp)
      asking := fun asking => by
        have same : traffic.store.loop = none ∨ traffic.store.loop = some .askingLow := asking
        exact sound.asking same
      waiting := fun least waiting => by
        have same : traffic.store.loop = some (.askingHigh least) := waiting
        simp [same, LoopStage.expects] at expected
      position := by simp [takeIn]
      published := by
        intro stop due
        simp only [takeIn, Option.some.injEq] at due
        split at due
        · simp at due
        · obtain ⟨whole, rfl⟩ := Store.apply_batch_ok (LoopTask.publish.inj due)
          rw [Record.iterate_succ]
          exact reached whole
      proceeding := by
        intro stop due
        simp only [takeIn, Option.some.injEq] at due
        split at due
        · next empty =>
          obtain rfl := LoopTask.proceed.inj due
          rw [List.isEmpty_iff.mp empty] at reached ⊢
          exact reached rfl
        · simp at due }

theorem LoopSound.publish {traffic : Traffic Value} (sound : LoopSound traffic) (position : Nat)
    (due : traffic.task = some (.publish (.ok position))) :
    LoopSound
      { traffic with
        store := traffic.store.publish position
        task := some (.proceed position) } := by
  obtain ⟨low, known, place⟩ := Option.map_eq_some_iff.mp (sound.published position due)
  exact
    { snapshot := sound.snapshot
      logged := sound.logged
      gapless := sound.gapless
      applied := fun least same => by
        obtain rfl : low = least := Option.some_inj.mp (known.symm.trans same)
        exact ⟨(sound.applied low known).1, Nat.le_of_eq place.symm⟩
      unknown := fun unknown => absurd (known.symm.trans unknown) (by simp)
      asking := sound.asking
      waiting := sound.waiting
      position := by simp
      published := by simp
      proceeding := fun stop same => by
        obtain rfl : position = stop := by simpa using same
        exact sound.published position due }

omit [Storable Value] in
/-- Going on changes only where the loop is and whether the store is ready. -/
theorem proceed_cases (store : Store Value) (position : Nat) :
    store.proceed position = store ∧ store.loop.bind LoopStage.expects = none ∨
      ∃ (stage : LoopStage) (ready : Bool) (replayed : Nat), store.proceed position =
        { store with
          loop := some (stage.advance position)
          status := { store.status with ready, replayed } } := by
  cases held : store.loop with
  | none => exact .inl ⟨by simp [Store.proceed, held], rfl⟩
  | some stage =>
      cases stage with
      | replaying low start target =>
          obtain ⟨replayed, moved⟩ := Store.replay_on_eq low target store position start
          exact .inr ⟨_, _, replayed, by simpa [Store.proceed, held] using moved⟩
      | following start =>
          exact .inr ⟨.following start, store.status.ready, store.status.replayed, by
            simp [Store.proceed, held, Store.followOn, LoopStage.advance]⟩
      | _ => exact .inl ⟨by simp [Store.proceed, held], rfl⟩

theorem LoopSound.proceed {traffic : Traffic Value} (sound : LoopSound traffic) (position : Nat)
    (due : traffic.task = some (.proceed position)) :
    LoopSound { traffic with store := traffic.store.proceed position, task := none } := by
  have place := sound.proceeding position due
  obtain ⟨low, known, -⟩ := Option.map_eq_some_iff.mp place
  obtain ⟨same, waiting⟩ | ⟨stage, ready, replayed, moved⟩ :=
    proceed_cases traffic.store position
  · rw [same]
    exact
      { snapshot := sound.snapshot
        logged := sound.logged
        gapless := sound.gapless
        applied := sound.applied
        unknown := sound.unknown
        asking := sound.asking
        waiting := sound.waiting
        position := fun _ stop expected => by simp [waiting] at expected
        published := by simp
        proceeding := by simp }
  · rw [moved]
    have expects := stage.advance_expects position
    exact
      { snapshot := sound.snapshot
        logged := sound.logged
        gapless := sound.gapless
        applied := sound.applied
        unknown := fun unknown => absurd (known.symm.trans unknown) (by simp)
        asking := fun asking => by
          obtain none | asking := asking
          · simp at none
          · rw [Option.some_inj.mp asking] at expects
            simp [LoopStage.expects] at expects
        waiting := fun least waiting => by
          rw [Option.some_inj.mp waiting] at expects
          simp [LoopStage.expects] at expects
        position := fun _ stop expected => by
          rw [Option.bind_some, expects] at expected
          rw [← Option.some_inj.mp expected]
          exact place
        published := by simp
        proceeding := by simp }

omit [Storable Value] in
theorem records_grow (traffic : Traffic Value) (caller : Option Nat) (key : String)
    (bytes : Option (List UInt8)) (timestamp : Int) :
    traffic.records ⊆ (traffic.grow caller key bytes timestamp).records ∧
      traffic.nextOffset ≤ (traffic.grow caller key bytes timestamp).nextOffset := by
  refine ⟨?_, ?_⟩
  · simp [records, grow]
  · simp only [nextOffset, grow, List.length_append]
    omega

theorem LoopSound.move {traffic next : Traffic Value} (sound : LoopSound traffic)
    (move : Move traffic next) : LoopSound next := by
  cases move with
  | start => exact sound.start
  | fail fault => exact sound.fail fault
  | low low asking bounded => exact sound.learn_low low asking bounded
  | high low high asking => exact sound.learn_high low high asking
  | batch position batch idle expected held => exact sound.take_in position batch idle expected held
  | publish position due => exact sound.publish position due
  | proceed position due => exact sound.proceed position due
  | append call held timestamp found pending =>
      obtain ⟨longer, further⟩ := records_grow traffic (some call) held.key
        (held.value.map Store.encodeValue) timestamp
      exact sound.keep rfl rfl rfl rfl longer further
  | foreign key bytes timestamp =>
      obtain ⟨longer, further⟩ := records_grow traffic none key bytes timestamp
      exact sound.keep rfl rfl rfl rfl longer further
  | _ => exact sound.keep rfl rfl rfl rfl (List.Subset.refl _) (Nat.le_refl _)

theorem Sound.move {traffic next : Traffic Value} (sound : Sound traffic)
    (move : Move traffic next) : Sound next :=
  ⟨.move sound move, sound.loop.move move, .move sound move⟩

theorem sound_run {name : String} {limits : StoreLimits} {base : Nat}
    {events : List (TrafficEvent Value)} {traffic : Traffic Value}
    (ran : run (fresh name limits base) events = some traffic) : Sound traffic := by
  induction events using List.reverseRecOn generalizing traffic with
  | nil =>
      obtain rfl := Option.some_inj.mp ran
      exact sound_fresh name limits base
  | append_singleton earlier event induction =>
      obtain ⟨before, reached, stepped⟩ := run_append_singleton ran
      exact (induction reached).move (move_of_step stepped)

/-- Once something was taken, the low watermark is known. -/
theorem LoopSound.gapless_taken {traffic : Traffic Value} (sound : LoopSound traffic)
    {record : Record} (member : record ∈ traffic.taken) :
    ∃ low, Record.Gapless low traffic.taken := by
  cases known : traffic.low with
  | none => simp [(sound.unknown known).1] at member
  | some low => exact ⟨low, sound.gapless low known⟩

theorem LoopSound.find_source {traffic : Traffic Value} (sound : LoopSound traffic)
    (key : String) :
    traffic.store.snapshot.find? key = (traffic.source key).bind Record.outcome := by
  rw [sound.snapshot, Store.find_replay]
  rfl

theorem source_of_mem {traffic next : Traffic Value} (sound : LoopSound next)
    (grows : Grows traffic next) {record : Record} (member : record ∈ traffic.taken) :
    ∃ source, next.source record.key = some source ∧ record.offset ≤ source.offset := by
  have still := grows.taken.subset member
  obtain ⟨low, gapless⟩ := sound.gapless_taken still
  exact Record.latest_of_mem gapless still

omit [Storable Value] in
/-- A look-up that succeeds yields what the snapshot holds when it is read. -/
theorem look_up_ok {checked read : Store Value} {key : String} {result : Option Value}
    (succeeded : Store.lookUp checked read key = .ok result) :
    read.snapshot.find? key = result := by
  rw [Store.lookUp] at succeeded
  cases serving : checked.ensureServing with
  | error fault => simp [serving, bind, Except.bind] at succeeded
  | ok done =>
      rw [serving] at succeeded
      exact Except.ok.inj succeeded

/-- A write that returned has exactly one record, at an offset of its own and with its key and
value. A look-up of the key that begins after the write returned yields what this record or a later
one of the key says, and what later look-ups of a key yield never goes back to an earlier record. -/
theorem run_reads_writes (name : String) (limits : StoreLimits) (base : Nat)
    (events later : List (TrafficEvent Value)) (traffic next : Traffic Value)
    (faithful : ∀ held ∈ traffic.calls, ∀ value, held.value = some value →
      Store.decodeValue (Store.encodeValue value) = some value)
    (ran : run (fresh name limits base) events = some traffic)
    (went : run traffic later = some next) :
    (∀ (call : Nat) (held : Call Value), traffic.calls[call]? = some held →
      held.write = .finished (.ok ()) →
      ∃ entry, next.log.filter (·.caller = some call) = [entry] ∧ entry ∈ traffic.log ∧
        entry.record.key = held.key ∧
        entry.record.value = held.value.map Store.encodeValue ∧
        (∀ other ∈ next.log, other.record.offset = entry.record.offset → other = entry) ∧
        ∀ result, Store.lookUp traffic.store next.store held.key = .ok result →
          ∃ source, next.source held.key = some source ∧ result = source.outcome ∧
            entry.record.offset ≤ source.offset ∧
            (source.offset = entry.record.offset → result = held.value)) ∧
    (∀ key first, traffic.source key = some first →
      ∃ second, next.source key = some second ∧ first.offset ≤ second.offset) ∧
    (∀ key, next.store.snapshot.find? key = (next.source key).bind Record.outcome ∧
      ∀ record, next.source key = some record →
        record.key = key ∧ ∃ entry ∈ next.log, entry.record = record) := by
  have sound := sound_run ran
  -- Both states are of one run, so the later one is sound too.
  have joined : run (fresh name limits base) (events ++ later) = some next := by
    rw [run, List.foldlM_append]
    exact Option.bind_eq_some_iff.mpr ⟨traffic, ran, went⟩
  have nextSound := sound_run joined
  have grows := run_grows went
  refine ⟨?_, ?_, ?_⟩
  · intro call held found finished
    obtain ⟨entry, member, own, inSnapshot⟩ := sound.calls.settled call held found finished
    have still := grows.log.subset member
    obtain ⟨same, stored, -, sameKey, sameValue⟩ := sound.log.callers entry member call own
    obtain rfl := Option.some_inj.mp (found.symm.trans stored)
    refine ⟨entry, nextSound.log.filter_eq still own, member, sameKey, sameValue, ?_, ?_⟩
    · intro other otherIn sameOffset
      exact nextSound.log.entry_eq otherIn still sameOffset
    · intro result succeeded
      have holds := look_up_ok succeeded
      obtain ⟨source, isSource, above⟩ := source_of_mem nextSound.loop grows inSnapshot
      rw [sameKey] at isSource
      rw [nextSound.loop.find_source, isSource] at holds
      refine ⟨source, isSource, holds.symm, above, ?_⟩
      intro sameOffset
      obtain ⟨other, otherIn, isOther⟩ := List.mem_map.mp
        (nextSound.loop.logged source (Record.mem_of_latest isSource).1)
      -- One offset, one entry: what the key holds was written by this very call.
      have isEntry : other = entry :=
        nextSound.log.entry_eq otherIn still (by rw [isOther, sameOffset])
      have sameRecord : source = entry.record := by rw [← isOther, isEntry]
      rw [← holds, sameRecord, Option.bind_some, Record.outcome, sameValue]
      cases put : held.value with
      | none => rfl
      | some value =>
          exact faithful held (List.mem_of_getElem? found) value put
  · intro key first isFirst
    obtain ⟨member, sameKey⟩ := Record.mem_of_latest isFirst
    subst sameKey
    exact source_of_mem nextSound.loop grows member
  · intro key
    refine ⟨nextSound.loop.find_source key, ?_⟩
    intro record isSource
    obtain ⟨member, sameKey⟩ := Record.mem_of_latest isSource
    obtain ⟨entry, held, same⟩ := List.mem_map.mp (nextSound.loop.logged record member)
    exact ⟨sameKey, entry, held, same⟩

/-- Two puts of one key whose records the log appends in the other order. -/
def crossedPuts : List (TrafficEvent Count) :=
  [.start, .low (.ok 3), .high (.ok 3), .proceed, .begin "left" (some ⟨7⟩),
    .begin "left" (some ⟨8⟩), .append 1 0, .append 0 1, .answer 1 (.ok 3), .answer 0 (.ok 4),
    .batch (.ok [⟨3, "left", some [56], 0⟩, ⟨4, "left", some [55], 1⟩]), .observe 0, .publish,
    .observe 0]

/-- A delete that the snapshot reflects and that has not returned. -/
def deleteUnderWay : List (TrafficEvent Count) :=
  [.proceed, .begin "left" none, .append 2 5, .answer 2 (.ok 5),
    .batch (.ok [⟨5, "left", none, 5⟩])]

theorem run_reads_writes_crossed :
    ∃ traffic next, run (fresh "counts" {} 3) crossedPuts = some traffic ∧
      run traffic deleteUnderWay = some next ∧
      Store.lookUp traffic.store next.store "left" = .ok none ∧
      ∃ entry source, entry ∈ traffic.log ∧ entry.record.value = some [55] ∧
        next.source "left" = some source ∧ entry.record.offset ≤ source.offset := by
  obtain ⟨traffic, next, ran, went, calls, seen⟩ : ∃ traffic next,
      run (fresh "counts" {} 3) crossedPuts = some traffic ∧
        run traffic deleteUnderWay = some next ∧
        traffic.calls = [⟨"left", some ⟨7⟩, .finished (.ok ()), false⟩,
          ⟨"left", some ⟨8⟩, .applying 3, false⟩] ∧
        Store.lookUp traffic.store next.store "left" = .ok none :=
    ⟨_, _, rfl, rfl, rfl, rfl⟩
  have faithful : ∀ held ∈ traffic.calls, ∀ value, held.value = some value →
      Store.decodeValue (Store.encodeValue value) = some value := by
    rw [calls]
    intro held member value put
    obtain rfl | rfl := List.mem_pair.mp member
    · obtain rfl := Option.some_inj.mp put
      rfl
    · obtain rfl := Option.some_inj.mp put
      rfl
  have found : traffic.calls[0]? = some ⟨"left", some ⟨7⟩, .finished (.ok ()), false⟩ := by
    rw [calls]
    rfl
  obtain ⟨entry, -, member, -, bytes, -, looked⟩ :=
    (run_reads_writes "counts" {} 3 crossedPuts deleteUnderWay traffic next faithful ran went).1 0
      _ found rfl
  obtain ⟨source, isSource, -, above, -⟩ := looked none seen
  exact ⟨traffic, next, ran, went, seen, entry, source, member, bytes, isSource, above⟩

end BrokerTenancy.Traffic
