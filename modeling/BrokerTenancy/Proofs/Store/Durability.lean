import BrokerTenancy.Proofs.Log.Reopening
import BrokerTenancy.Proofs.Settings.Validation
import BrokerTenancy.Proofs.Store.Opening
import BrokerTenancy.Proofs.Store.ReadYourWrites

/-!
Writes survive a crash. The traffic of a store goes over a log file, and any append may fail with
any part of its frame written and perhaps left behind. The file then always starts with the frames
of the records that the log holds; at most one frame that was never acknowledged, whole or not,
stands behind them. A cut anywhere behind the last acknowledged frame therefore loses nothing that
a caller was told of.
-/

namespace BrokerTenancy

open Record (Gapless)

/-- The traffic over a log file. -/
structure Journal (Value : Type) where
  traffic : Traffic Value
  file : FileLog
  /-- The record of a failed append whose bytes could not be cut off again. -/
  unfinished : Option Record := none

inductive JournalEvent (Value : Type) where
  /-- Anything but an append. -/
  | traffic (event : TrafficEvent Value)
  /-- The writer of the file takes up the append of a call. -/
  | append (call : Nat) (timestamp : Int) (attempt : Attempt)

/-- Whether an event appends to the log. -/
def TrafficEvent.appends {Value : Type} : TrafficEvent Value → Bool
  | .append _ _ => true
  | .foreign _ _ _ => true
  | _ => false

/-- A store that was created and not started, over a log that holds records. -/
def Traffic.continuing {Value : Type} (name : String) (limits : StoreLimits)
    (records : List Record) : Traffic Value :=
  { (fresh name limits 0 : Traffic Value) with
    log := records.map fun record => { record, caller := none } }

namespace Traffic

variable {Value : Type} [Storable Value]

omit [Storable Value] in
theorem continuing_records (name : String) (limits : StoreLimits) (records : List Record) :
    (continuing name limits records : Traffic Value).records = records := by
  rw [Traffic.records, continuing, List.map_map]
  exact List.map_id records

theorem sound_continuing (name : String) (limits : StoreLimits) (records : List Record)
    (dense : Gapless 0 records) : Sound (continuing name limits records : Traffic Value) := by
  have foreign : ∀ entry ∈ (continuing name limits records : Traffic Value).log,
      entry.caller = none := by
    intro entry member
    obtain ⟨record, -, rfl⟩ := List.mem_map.mp member
    rfl
  refine ⟨⟨?_, ?_, ?_, ?_⟩, ?_, ⟨?_, ?_, ?_⟩⟩
  · rw [continuing_records]
    exact dense
  · intro entry member call own
    simp [foreign entry member] at own
  · intro call
    have noEntry : (continuing name limits records : Traffic Value).log.filter
        (·.caller = some call) = [] := by
      rw [List.filter_eq_nil_iff]
      intro entry member own
      simp [foreign entry member] at own
    rw [noEntry]
    exact Nat.zero_le 1
  · intro entry member called
    simp [foreign entry member] at called
  · exact (sound_fresh name limits 0).loop.keep rfl rfl rfl rfl (List.nil_subset _)
      (Nat.zero_le _)
  · simp [continuing, fresh]
  · simp [continuing, fresh]
  · simp [continuing, fresh]

theorem log_of_step {traffic next : Traffic Value} {event : TrafficEvent Value}
    (quiet : event.appends = false) (stepped : traffic.step event = some next) :
    next.log = traffic.log := by
  cases event with
  | append call timestamp => simp [TrafficEvent.appends] at quiet
  | foreign key bytes timestamp => simp [TrafficEvent.appends] at quiet
  | _ =>
      simp only [step] at stepped
      repeat' split at stepped
      all_goals first
        | (obtain rfl := Option.some_inj.mp stepped; rfl)
        | simp at stepped

end Traffic

namespace Journal

variable {Value : Type}

def opened (name path : String) (limits : StoreLimits) (records : List Record) : Journal Value :=
  { traffic := .continuing name limits records, file := .holding name path records }

/-- The records whose bytes stand in the file, the last one perhaps not as a whole. -/
def written (journal : Journal Value) : List Record :=
  journal.file.records ++ journal.unfinished.toList

variable [Storable Value]

/-- The writer takes up the append of a call. -/
def appendFor (journal : Journal Value) (call : Nat) (held : Call Value) (timestamp : Int)
    (attempt : Attempt) : Journal Value :=
  let bytes := held.value.map Store.encodeValue
  match journal.file.append held.key bytes timestamp attempt with
  | (file, .ok _) =>
      { journal with traffic := journal.traffic.appendFor call held timestamp, file }
  | (file, .error _) =>
      { journal with
        file
        unfinished :=
          if journal.file.readOnly.isNone && file.readOnly.isSome then
            some (journal.file.nextRecord held.key bytes timestamp)
          else journal.unfinished }

/-- The step that an event makes, if it can happen. -/
def step (journal : Journal Value) : JournalEvent Value → Option (Journal Value)
  | .traffic event =>
      if event.appends then none
      else (journal.traffic.step event).map fun traffic => { journal with traffic }
  | .append call timestamp attempt =>
      match journal.traffic.calls[call]? with
      | some held =>
          if held.pending then some (journal.appendFor call held timestamp attempt) else none
      | none => none

def run (journal : Journal Value) (events : List (JournalEvent Value)) : Option (Journal Value) :=
  events.foldlM step journal

def Called (journal : Journal Value) (record : Record) : Prop :=
  ∃ (call : Nat) (held : Call Value), journal.traffic.calls[call]? = some held ∧
    record.value = held.value.map Store.encodeValue

/-- What holds of every state that a run reaches. -/
structure Sound (initial : List Record) (journal : Journal Value) : Prop where
  traffic : journal.traffic.Sound
  base : journal.traffic.base = 0
  records : journal.file.records = journal.traffic.records
  made : ∀ record ∈ journal.written, record ∈ initial ∨ journal.Called record
  place : ∀ record, journal.unfinished = some record →
    record.offset = journal.file.records.length
  valid : journal.file.validLength = (frames journal.file.records).length
  /-- The file starts with the frames of the records that the log holds. -/
  whole : frames journal.file.records <+: journal.file.bytes
  /-- Behind them is at most one more frame, as far as it was written. -/
  bounded : journal.file.bytes <+: frames journal.written
  /-- A frame is left behind only by a log that takes no more appends. -/
  clean : journal.file.readOnly = none → journal.unfinished = none

theorem sound_opened (name path : String) (limits : StoreLimits) (initial : List Record)
    (dense : Gapless 0 initial) :
    Sound initial (opened name path limits initial : Journal Value) where
  traffic := Traffic.sound_continuing name limits initial dense
  base := rfl
  records := (Traffic.continuing_records name limits initial).symm
  made := by
    intro record member
    left
    simpa [opened, written, FileLog.holding] using member
  place := by simp [opened]
  valid := rfl
  whole := List.prefix_refl _
  bounded := by simp [opened, written, FileLog.holding]
  clean := fun _ => rfl

/-- What a record was made for stays when the traffic goes on. -/
theorem Called.grows {journal next : Journal Value} {record : Record}
    (called : journal.Called record) (grows : journal.traffic.Grows next.traffic) :
    next.Called record := by
  obtain ⟨call, held, found, made⟩ := called
  obtain ⟨now, current, -, sameValue, -⟩ := grows.calls call held found
  exact ⟨call, now, current, by rw [sameValue]; exact made⟩

theorem Sound.traffic_step {initial : List Record} {journal : Journal Value}
    {event : TrafficEvent Value} {traffic : Traffic Value} (sound : Sound initial journal)
    (quiet : event.appends = false) (stepped : journal.traffic.step event = some traffic) :
    Sound initial { journal with traffic } := by
  have move := Traffic.move_of_step stepped
  have grows := move.grows
  have sameLog : traffic.log = journal.traffic.log := Traffic.log_of_step quiet stepped
  exact
    { traffic := sound.traffic.move move
      base := grows.base.trans sound.base
      records := by rw [Traffic.records, sameLog]; exact sound.records
      made := fun record member => (sound.made record member).imp id fun called =>
        called.grows grows
      place := sound.place
      valid := sound.valid
      whole := sound.whole
      bounded := sound.bounded
      clean := sound.clean }

/-- While the log takes appends, the file holds the frames of its records and nothing else. -/
theorem Sound.bytes_eq {initial : List Record} {journal : Journal Value}
    (sound : Sound initial journal) (writable : journal.file.readOnly = none) :
    journal.file.bytes = frames journal.file.records := by
  have bounded := sound.bounded
  rw [written, sound.clean writable, Option.toList_none, List.append_nil] at bounded
  exact bounded.eq_of_length_le sound.whole.length_le

theorem append_for_read_only (journal : Journal Value) (call : Nat) (held : Call Value)
    (timestamp : Int) (attempt : Attempt) (closed : journal.file.readOnly ≠ none) :
    journal.appendFor call held timestamp attempt = journal := by
  obtain ⟨⟨rollback, cause⟩, why⟩ := Option.ne_none_iff_exists'.mp closed
  simp [appendFor, FileLog.append, why]

theorem Sound.next_record {initial : List Record} {journal : Journal Value}
    (sound : Sound initial journal) (call : Nat) (held : Call Value) (timestamp : Int) :
    (journal.traffic.appendFor call held timestamp).records =
      journal.file.records ++
        [journal.file.nextRecord held.key (held.value.map Store.encodeValue) timestamp] := by
  have size : journal.traffic.nextOffset = journal.file.records.length := by
    rw [Traffic.nextOffset, sound.base, sound.records, Traffic.records, List.length_map,
      Nat.zero_add]
  rw [sound.records]
  simp only [Traffic.records, Traffic.appendFor, Traffic.grow, List.map_append, List.map_cons,
    List.map_nil, size, FileLog.nextRecord]

theorem Sound.append_complete {initial : List Record} {journal : Journal Value}
    (sound : Sound initial journal) (call : Nat) (held : Call Value) (timestamp : Int)
    (found : journal.traffic.calls[call]? = some held) (pending : held.pending)
    (writable : journal.file.readOnly = none) :
    Sound initial (journal.appendFor call held timestamp .complete) := by
  have move := Traffic.Move.append call held timestamp found pending
  have noneLeft := sound.clean writable
  have bytes : journal.file.bytes ++ Frame.encode
        (journal.file.nextRecord held.key (held.value.map Store.encodeValue) timestamp) =
      frames (journal.file.records ++
        [journal.file.nextRecord held.key (held.value.map Store.encodeValue) timestamp]) := by
    rw [sound.bytes_eq writable, frames_append, frames_singleton]
  simp only [appendFor, FileLog.append, writable, FileLog.write]
  exact
    { traffic := sound.traffic.move move
      base := sound.base
      records := (sound.next_record call held timestamp).symm
      made := by
        intro record member
        simp only [written, noneLeft, Option.toList_none, List.append_nil, List.mem_append,
          List.mem_singleton] at member
        obtain before | rfl := member
        · have made := sound.made record (List.mem_append_left _ before)
          exact made.imp id fun called => called.grows move.grows
        · obtain ⟨now, current, -, sameValue, -⟩ := move.grows.calls call held found
          exact .inr ⟨call, now, current, by rw [sameValue]; rfl⟩
      place := by simp [noneLeft]
      valid := congrArg List.length bytes
      whole := by
        simp only [bytes]
        exact List.prefix_refl _
      bounded := by
        simp only [written, noneLeft, Option.toList_none, List.append_nil, bytes]
        exact List.prefix_refl _
      clean := fun _ => noneLeft }

theorem Sound.append_broken {initial : List Record} {journal : Journal Value}
    (sound : Sound initial journal) (call : Nat) (held : Call Value) (timestamp : Int)
    (reached : Nat) (cause : SystemFault) (writable : journal.file.readOnly = none) :
    Sound initial (journal.appendFor call held timestamp (.broken reached cause)) := by
  have restored (record : Record) :
      (journal.file.reached record reached).take journal.file.validLength =
        journal.file.bytes := by
    rw [FileLog.reached, sound.valid, sound.bytes_eq writable]
    exact List.take_left
  have same (record : Record) : journal.file.write record (.broken reached cause) =
      (journal.file, .error (.write journal.file.name (.appendFailed record.offset cause))) := by
    rw [FileLog.write, restored]
  have unchanged : journal.appendFor call held timestamp (.broken reached cause) = journal := by
    rw [appendFor, FileLog.append_writable journal.file writable, same]
    simp [writable]
  rw [unchanged]
  exact sound

theorem Sound.append_stuck {initial : List Record} {journal : Journal Value}
    (sound : Sound initial journal) (call : Nat) (held : Call Value) (timestamp : Int)
    (found : journal.traffic.calls[call]? = some held) (reached : Nat)
    (cause rollback : SystemFault) (writable : journal.file.readOnly = none) :
    Sound initial (journal.appendFor call held timestamp (.stuck reached cause rollback)) := by
  have bytes := sound.bytes_eq writable
  simp only [appendFor, FileLog.append, writable, FileLog.write, Option.isNone_none,
    Option.isSome_some, Bool.and_self, if_true]
  exact
    { traffic := sound.traffic
      base := sound.base
      records := sound.records
      made := by
        intro record member
        simp only [written, Option.toList_some, List.mem_append, List.mem_singleton] at member
        obtain before | rfl := member
        · exact sound.made record (List.mem_append_left _ before)
        · exact .inr ⟨call, held, found, rfl⟩
      place := by
        intro record last
        obtain rfl := Option.some_inj.mp last
        rfl
      valid := sound.valid
      whole := by
        simp only [FileLog.reached, bytes]
        exact List.prefix_append _ _
      bounded := by
        simp only [written, Option.toList_some, frames_append, frames_singleton, FileLog.reached,
          bytes]
        exact (List.prefix_append_right_inj _).mpr (List.take_prefix _ _)
      clean := by simp }

theorem Sound.step {initial : List Record} {journal next : Journal Value}
    {event : JournalEvent Value} (sound : Sound initial journal)
    (stepped : journal.step event = some next) : Sound initial next := by
  cases event with
  | traffic event =>
      simp only [Journal.step] at stepped
      split at stepped
      · simp at stepped
      · next quiet =>
        obtain ⟨traffic, moved, rfl⟩ := Option.map_eq_some_iff.mp stepped
        exact sound.traffic_step (by simpa using quiet) moved
  | append call timestamp attempt =>
      simp only [Journal.step] at stepped
      split at stepped
      · next held found =>
        split at stepped
        · next pending =>
          obtain rfl := Option.some_inj.mp stepped
          -- A log that could not undo a torn frame takes no further append.
          by_cases writable : journal.file.readOnly = none
          · cases attempt with
            | complete => exact sound.append_complete call held timestamp found pending writable
            | broken reached cause => exact sound.append_broken call held timestamp _ _ writable
            | stuck reached cause rollback =>
                exact sound.append_stuck call held timestamp found _ _ _ writable
          · rw [append_for_read_only journal call held timestamp attempt writable]
            exact sound
        · simp at stepped
      · simp at stepped

theorem sound_run {name path : String} {limits : StoreLimits} {initial : List Record}
    {events : List (JournalEvent Value)} {journal : Journal Value} (dense : Gapless 0 initial)
    (ran : run (opened name path limits initial) events = some journal) :
    Sound initial journal := by
  induction events using List.reverseRecOn generalizing journal with
  | nil =>
      obtain rfl := Option.some_inj.mp ran
      exact sound_opened name path limits initial dense
  | append_singleton earlier event induction =>
      rw [run, List.foldlM_append] at ran
      obtain ⟨before, reached, last⟩ := Option.bind_eq_some_iff.mp ran
      exact (induction reached).step (by simpa using last)

theorem Sound.dense {initial : List Record} {journal : Journal Value}
    (sound : Sound initial journal) : Gapless 0 journal.written := by
  have held := sound.traffic.log.dense
  rw [sound.base, ← sound.records] at held
  refine (Record.gapless_append ..).mpr ⟨held, ?_⟩
  cases last : journal.unfinished with
  | none => exact Record.gapless_nil _
  | some record =>
      refine (Record.gapless_cons ..).mpr ⟨?_, Record.gapless_nil _⟩
      rw [sound.place record last, Nat.zero_add]

/-- Every record that was written can be read, if the values come back from their bytes. -/
theorem Sound.readable {initial : List Record} {journal : Journal Value}
    (sound : Sound initial journal) (readable : ∀ record ∈ initial, record.isReadable Value)
    (faithful : ∀ held ∈ journal.traffic.calls, ∀ value, held.value = some value →
      Store.decodeValue (Store.encodeValue value) = some value) :
    ∀ record ∈ journal.written, record.isReadable Value := by
  intro record member
  obtain old | ⟨call, held, found, made⟩ := sound.made record member
  · exact readable record old
  · cases put : held.value with
    | none =>
        rw [put, Option.map_none] at made
        simp [Record.isReadable, made]
    | some value =>
        have decoded := faithful held (List.mem_of_getElem? found) value put
        rw [put, Option.map_some] at made
        simp [Record.isReadable, made, decoded]

/-- The bytes that a cut leaves are the front of the frames of the written records. -/
theorem Sound.cut_eq {initial : List Record} {journal : Journal Value}
    (sound : Sound initial journal) (cut : Nat) :
    journal.file.bytes.take cut =
      (frames journal.written).take (min cut journal.file.bytes.length) := by
  have whole := List.prefix_iff_eq_take.mp sound.bounded
  conv_lhs => rw [whole]
  rw [List.take_take]

/-- A record whose frame ends in front of the cut comes back at its offset. -/
theorem Sound.recovered {initial : List Record} {journal : Journal Value}
    (sound : Sound initial journal) {record : Record} {cut : Nat}
    (held : record ∈ journal.file.records)
    (inside : (frames (journal.file.records.take (record.offset + 1))).length ≤ cut) :
    (fitting journal.written (min cut journal.file.bytes.length))[record.offset]? =
      some record := by
  have dense := sound.traffic.log.dense
  rw [sound.base, ← sound.records] at dense
  obtain ⟨index, found⟩ := List.mem_iff_getElem?.mp held
  have place : record.offset = index := by
    rw [Record.gapless_offset dense found, Nat.zero_add]
  subst place
  have isFront : journal.file.records.take (record.offset + 1) <+: journal.written :=
    (List.take_prefix _ _).trans (List.prefix_append _ _)
  -- The log holds whole frames only, so the cut decides and not the end of the file.
  have inFile : (frames (journal.file.records.take (record.offset + 1))).length ≤
      journal.file.bytes.length := by
    have longer := sound.whole.length_le
    rw [← List.take_append_drop (record.offset + 1) journal.file.records, frames_append,
      List.length_append] at longer
    omega
  obtain ⟨rest, split⟩ := prefix_fitting isFront (Nat.le_min.mpr ⟨inside, inFile⟩)
  have short := (List.getElem?_eq_some_iff.mp found).choose
  rw [← split, List.getElem?_append_left, List.getElem?_take_of_lt (Nat.lt_succ_self _), found]
  rw [List.length_take]
  omega

/-- After a crash that cuts the file anywhere behind the last acknowledged frame, the log and a
store over it open again. The log holds exactly the records whose frames are whole in what is left,
in the order of their offsets, the store holds what they make together, and every write that
returned is among them with its key, its value and the offset that it was acknowledged for. The log
is as one that was never cut, so a next life starts as this one did. -/
theorem reopens_after_crash (name path : String) (limits : StoreLimits) (settings : StoreSettings)
    (initial : List Record) (events : List (JournalEvent Value)) (journal : Journal Value)
    (cut : Nat) (dense : Gapless 0 initial)
    (readable : ∀ record ∈ initial, record.isReadable Value)
    (ran : run (opened name path limits initial) events = some journal)
    (faithful : ∀ held ∈ journal.traffic.calls, ∀ value, held.value = some value →
      Store.decodeValue (Store.encodeValue value) = some value)
    (fits : ∀ record ∈ journal.written, record.Fits)
    (kept : ∀ (call : Nat) (held : Call Value), journal.traffic.calls[call]? = some held →
      held.write = .finished (.ok ()) → ∀ entry ∈ journal.traffic.log, entry.caller = some call →
      (frames (journal.file.records.take (entry.record.offset + 1))).length ≤ cut)
    (valid : settings.validate = .ok ()) :
    ∃ left, left = fitting journal.written (min cut journal.file.bytes.length) ∧
      Gapless 0 left ∧
      FileLog.openOver name path (journal.file.bytes.take cut) = .ok (.holding name path left) ∧
      (HostedStore.openOn (.file (.holding name path left)) settings.limits :
        HostedStore Value × Outcome Unit).2 = .ok () ∧
      (HostedStore.openOn (.file (.holding name path left)) settings.limits :
        HostedStore Value × Outcome Unit).1.store.entries = .ok (Store.replay left).toList ∧
      (∀ key, (Store.replay left : SortedMap String Value).find? key =
        Record.lastWrite left key) ∧
      ∀ (call : Nat) (held : Call Value), journal.traffic.calls[call]? = some held →
        held.write = .finished (.ok ()) →
        ∃ entry, journal.traffic.log.filter (·.caller = some call) = [entry] ∧
          left[entry.record.offset]? = some entry.record ∧
          entry.record.key = held.key ∧
          entry.record.value = held.value.map Store.encodeValue := by
  have sound := sound_run dense ran
  have front := fitting_prefix journal.written (min cut journal.file.bytes.length)
  have reopened := FileLog.open_over_cut name path journal.written
    (min cut journal.file.bytes.length) sound.dense fits
  rw [← sound.cut_eq cut] at reopened
  generalize isLeft : fitting journal.written (min cut journal.file.bytes.length) = left
    at reopened front
  have leftDense : Gapless 0 left := by
    obtain ⟨rest, split⟩ := front
    have all := sound.dense
    rw [← split] at all
    exact ((Record.gapless_append ..).mp all).1
  have leftReadable : ∀ record ∈ left, record.isReadable Value := fun record member =>
    sound.readable readable faithful record (front.subset member)
  obtain ⟨patient, polling⟩ := StoreSettings.limits_positive valid
  obtain ⟨serves, entries⟩ := @HostedStore.open_on_tells Value _
    (.file (.holding name path left)) settings.limits left (FileLog.tells _) leftDense leftReadable
    patient polling
  refine ⟨left, rfl, leftDense, reopened, serves, entries, Store.find_replay left, ?_⟩
  intro call held found finished
  obtain ⟨entry, member, own, -⟩ := sound.traffic.calls.settled call held found finished
  obtain ⟨same, stored, -, sameKey, sameValue⟩ :=
    sound.traffic.log.callers entry member call own
  obtain rfl := Option.some_inj.mp (found.symm.trans stored)
  have inRecords : entry.record ∈ journal.file.records := by
    rw [sound.records]
    exact List.mem_map_of_mem member
  have back := sound.recovered inRecords (kept call held found finished entry member own)
  rw [isLeft] at back
  exact ⟨entry, sound.traffic.log.filter_eq member own, back, sameKey, sameValue⟩

/-- A put that returns, and one whose append breaks and cannot be taken back. -/
def brokenAppend : List (JournalEvent Count) :=
  [.traffic .start, .traffic (.low (.ok 0)), .traffic (.high (.ok 0)), .traffic .proceed,
    .traffic (.begin "left" (some ⟨7⟩)), .append 0 5 .complete, .traffic (.answer 0 (.ok 0)),
    .traffic (.batch (.ok [⟨0, "left", some [55], 5⟩])), .traffic .publish,
    .traffic (.observe 0), .traffic (.begin "right" (some ⟨8⟩)),
    .append 1 6 (.stuck 20 .fileTooLarge .fileTooLarge), .traffic (.expire 1)]

theorem reopens_after_broken_append :
    ∃ journal, run (opened "counts" "counts.log" {} []) brokenAppend = some journal ∧
      ∃ left, FileLog.openOver "counts" "counts.log" (journal.file.bytes.take 50) =
          .ok (.holding "counts" "counts.log" left) ∧
        left[0]? = some ⟨0, "left", some [55], 5⟩ := by
  obtain ⟨journal, ran, calls, log, records, unfinished⟩ : ∃ journal,
      run (opened "counts" "counts.log" {} []) brokenAppend = some journal ∧
        journal.traffic.calls = [⟨"left", some ⟨7⟩, .finished (.ok ()), false⟩,
          ⟨"right", some ⟨8⟩, .finished (.error (.write "counts" .appendTimedOut)), true⟩] ∧
        journal.traffic.log = [⟨⟨0, "left", some [55], 5⟩, some 0⟩] ∧
        journal.file.records = [⟨0, "left", some [55], 5⟩] ∧
        journal.unfinished = some ⟨1, "right", some [56], 6⟩ :=
    ⟨_, rfl, rfl, rfl, rfl, rfl⟩
  have faithful : ∀ held ∈ journal.traffic.calls, ∀ value, held.value = some value →
      Store.decodeValue (Store.encodeValue value) = some value := by
    rw [calls]
    intro held member value put
    obtain rfl | rfl := List.mem_pair.mp member
    · obtain rfl := Option.some_inj.mp put
      rfl
    · obtain rfl := Option.some_inj.mp put
      rfl
  have fits : ∀ record ∈ journal.written, record.Fits := by
    rw [written, records, unfinished]
    intro record member
    obtain rfl | rfl := List.mem_pair.mp member
    · exact ⟨by decide, by decide, by decide, by decide⟩
    · exact ⟨by decide, by decide, by decide, by decide⟩
  have kept : ∀ (call : Nat) (held : Call Count), journal.traffic.calls[call]? = some held →
      held.write = .finished (.ok ()) → ∀ entry ∈ journal.traffic.log, entry.caller = some call →
      (frames (journal.file.records.take (entry.record.offset + 1))).length ≤ 50 := by
    rw [log, records]
    intro call held found finished entry member own
    obtain rfl := List.mem_singleton.mp member
    decide
  obtain ⟨left, -, -, reopened, -, -, -, acknowledged⟩ :=
    reopens_after_crash "counts" "counts.log" {} {} [] brokenAppend journal 50
      (Record.gapless_nil 0) (by simp) ran faithful fits kept rfl
  obtain ⟨entry, single, back, -⟩ := acknowledged 0 _ (by rw [calls]; rfl) rfl
  have first : entry = ⟨⟨0, "left", some [55], 5⟩, some 0⟩ := by
    rw [log] at single
    exact (List.head_eq_of_cons_eq single).symm
  subst first
  exact ⟨journal, ran, left, reopened, back⟩

end Journal

end BrokerTenancy
