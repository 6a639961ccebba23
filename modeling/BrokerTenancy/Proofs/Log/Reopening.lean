import BrokerTenancy.Log.File
import BrokerTenancy.Proofs.Log.Recovery

/-!
A log file in use, from the bytes it was opened with. Reading a file back takes its whole frames one
after the other, so it comes to the same records with the unfinished end cut off, and goes on with
whatever stands behind the frames instead. Hence the file of an open log always reads back as the
log itself, whatever appends succeed or fail in between, as long as a failed one is cut off again.
-/

namespace BrokerTenancy

open Record (Gapless)

/-- A word is read from its own bytes, whatever follows them. -/
theorem take_little_front {width word : Nat} {bytes rest : List UInt8}
    (taken : takeLittle width bytes = some (word, rest)) :
    ∃ front, bytes = front ++ rest ∧ front.length = width ∧
      ∀ other, takeLittle width (front ++ other) = some (word, other) := by
  simp only [takeLittle, Option.bind_eq_bind, Option.bind_eq_some_iff, Prod.exists,
    Option.some_inj, Prod.mk.injEq] at taken
  obtain ⟨front, _, split, isWord, rfl⟩ := taken
  obtain ⟨joined, size⟩ := take_bytes_eq_some_iff.mp split
  refine ⟨front, joined, size, fun other => ?_⟩
  have again := take_bytes_append front other
  rw [size] at again
  simp [takeLittle, again, isWord]

namespace Frame

theorem split_front {bytes payload rest : List UInt8} {checksum : Nat}
    (parts : split bytes = some (checksum, payload, rest)) :
    ∃ front, bytes = front ++ rest ∧ front.length = headerSize + payload.length ∧
      ∀ other, split (front ++ other) = some (checksum, payload, other) := by
  simp only [split, Option.bind_eq_bind, Option.bind_eq_some_iff, Prod.exists, Option.some_inj,
    Prod.mk.injEq] at parts
  obtain ⟨length, _, lengthTaken, _, _, sumTaken, payload, _, payloadTaken, rfl, rfl, rfl⟩ := parts
  obtain ⟨lengthWord, rfl, lengthSize, lengthAgain⟩ := take_little_front lengthTaken
  obtain ⟨sumWord, rfl, sumSize, sumAgain⟩ := take_little_front sumTaken
  obtain ⟨rfl, payloadSize⟩ := take_bytes_eq_some_iff.mp payloadTaken
  refine ⟨lengthWord ++ (sumWord ++ payload), by simp only [List.append_assoc], ?_, ?_⟩
  · simp only [List.length_append, lengthSize, sumSize, headerSize]
    omega
  · intro other
    have payloadAgain := take_bytes_append payload other
    rw [payloadSize] at payloadAgain
    simp only [split, List.append_assoc, Option.bind_eq_bind, lengthAgain, Option.bind_some,
      sumAgain, payloadAgain]

theorem front_whole_front {bytes payload rest : List UInt8}
    (whole : front bytes = .whole payload rest) :
    ∃ frame, bytes = frame ++ rest ∧ frame.length = headerSize + payload.length ∧
      ∀ other, front (frame ++ other) = .whole payload other := by
  rw [front] at whole
  split at whole
  · simp at whole
  · next checksum taken remainder parts =>
    split at whole
    · next intact =>
      obtain ⟨rfl, rfl⟩ := Front.whole.inj whole
      obtain ⟨frame, joined, size, again⟩ := split_front parts
      refine ⟨frame, joined, size, fun other => ?_⟩
      rw [front, again]
      exact if_pos intact
    · split at whole <;> simp at whole

end Frame

/-- A file that can be read has its whole frames in front, and these read the same with anything
behind them. -/
theorem recover_from_front {path : String} (bytes : List UInt8) (position count : Nat)
    {recovered : Recovered} (read : recoverFrom path bytes position count = .ok recovered) :
    ∃ front rest, bytes = front ++ rest ∧ recovered.validLength = position + front.length ∧
      ∀ other, recoverFrom path (front ++ other) position count =
        (recoverFrom path other recovered.validLength (count + recovered.records.length)).map
          (.behind recovered.records) := by
  fun_induction recoverFrom path bytes position count generalizing recovered with
  | case1 bytes position count torn =>
      obtain rfl := Except.ok.inj read
      refine ⟨[], bytes, rfl, rfl, fun other => ?_⟩
      have unchanged : Recovered.behind [] = id := rfl
      rw [unchanged, Except.map_id]
      rfl
  | case2 => simp at read
  | case3 => simp at read
  | case4 => simp at read
  | case5 bytes position count payload rest whole record leftover decoded atPlace induction =>
      cases behind : recoverFrom path rest (position + Frame.headerSize + payload.length)
          (count + 1) with
      | error fault => simp [behind, bind, Except.bind] at read
      | ok following =>
          rw [behind] at read
          obtain rfl := Except.ok.inj read
          obtain ⟨frame, rfl, frameSize, again⟩ := Frame.front_whole_front whole
          obtain ⟨front, tail, rfl, place, onward⟩ := induction behind
          refine ⟨frame ++ front, tail, (List.append_assoc ..).symm, ?_, ?_⟩
          · rw [place, List.length_append, frameSize]
            omega
          · intro other
            have next : count + 1 + following.records.length =
                count + (record :: following.records).length := by
              rw [List.length_cons]
              omega
            rw [List.append_assoc, recover_from_record path position count (again _) decoded
              (of_not_not atPlace), onward, next]
            cases recoverFrom path other following.validLength
              (count + (record :: following.records).length) <;> rfl

/-- Whatever is put behind a file of whole frames is read behind their records. -/
theorem recover_log_behind {path : String} {bytes : List UInt8} {records : List Record}
    (read : recoverLog path bytes = .ok { records, validLength := bytes.length })
    (other : List UInt8) :
    recoverLog path (bytes ++ other) =
      (recoverFrom path other bytes.length records.length).map (.behind records) := by
  obtain ⟨front, rest, joined, place, onward⟩ := recover_from_front bytes 0 0 read
  -- The frames take up the whole file, so nothing is cut off in front of the other bytes.
  have whole : front = bytes := by
    have size := congrArg List.length joined
    rw [List.length_append] at size
    have nothing : rest = [] := List.length_eq_zero_iff.mp (by simp only at place; omega)
    rw [joined, nothing, List.append_nil]
  subst whole
  rw [recoverLog, onward, Nat.zero_add]

/-- A record whose frame is put behind whole frames is read behind their records. -/
theorem recover_log_extended {path : String} {bytes : List UInt8} {records : List Record}
    {record : Record} (fits : record.Fits) (atPlace : record.offset = records.length)
    (read : recoverLog path bytes = .ok { records, validLength := bytes.length }) :
    recoverLog path (bytes ++ Frame.encode record) =
      .ok
        { records := records ++ [record]
          validLength := (bytes ++ Frame.encode record).length } := by
  have added := recover_from_frames path [record] (Frame.encode record).length bytes.length
    records.length ((Record.gapless_cons ..).mpr ⟨atPlace, Record.gapless_nil _⟩)
    (by simpa using fits)
  have kept : fitting [record] (Frame.encode record).length = [record] := by
    rw [fitting, if_pos (Nat.le_refl _), fitting]
  rw [kept, frames_singleton, List.take_length] at added
  rw [recover_log_behind read, added, List.length_append]
  rfl

namespace FileLog

/-- The open file of a log that holds records. -/
def holding (name path : String) (records : List Record) : FileLog :=
  { name, path, bytes := frames records, validLength := (frames records).length, records }

/-- A file that was cut anywhere opens as a log that holds the records whose frames are whole. -/
theorem open_over_cut (name path : String) (records : List Record) (size : Nat)
    (dense : Gapless 0 records) (fits : ∀ record ∈ records, record.Fits) :
    openOver name path ((frames records).take size) =
      .ok (holding name path (fitting records size)) := by
  have front : frames (fitting records size) <+: frames records := by
    obtain ⟨rest, split⟩ := fitting_prefix records size
    exact ⟨frames rest, by rw [← frames_append, split]⟩
  have bytes : ((frames records).take size).take (frames (fitting records size)).length =
      frames (fitting records size) := by
    rw [List.take_take, Nat.min_eq_left (frames_fitting_length records size)]
    exact (List.prefix_iff_eq_take.mp front).symm
  rw [openOver, recover_frames path records size dense fits]
  simp only [bind, Except.bind, pure, Except.pure, bytes, holding]

/-- The log takes appends, and its file reads back as its records with nothing left over. -/
structure Settled (log : FileLog) : Prop where
  writable : log.readOnly = none
  valid : log.validLength = log.bytes.length
  recovers : recoverLog log.path log.bytes =
    .ok { records := log.records, validLength := log.bytes.length }

theorem Settled.opens {log : FileLog} (settled : log.Settled) :
    openOver log.name log.path log.bytes = .ok log := by
  obtain ⟨name, path, bytes, validLength, records, readOnly⟩ := log
  obtain ⟨rfl, valid, recovers⟩ := settled
  simp only at valid recovers
  subst valid
  rw [openOver, recovers]
  simp only [bind, Except.bind, pure, Except.pure, List.take_length]

theorem settled_of_open {name path : String} {content : List UInt8} {log : FileLog}
    (opened : openOver name path content = .ok log) :
    log.Settled ∧ log.name = name ∧ log.path = path ∧
      log.bytes = content.take log.validLength ∧
      recoverLog path content =
        .ok { records := log.records, validLength := log.validLength } := by
  cases read : recoverLog path content with
  | error fault => simp [openOver, read, bind, Except.bind] at opened
  | ok recovered =>
      rw [openOver, read] at opened
      obtain rfl := Except.ok.inj opened
      obtain ⟨front, rest, joined, place, onward⟩ := recover_from_front content 0 0 read
      rw [Nat.zero_add] at place
      have kept : content.take recovered.validLength = front := by
        rw [joined, place, List.take_left]
      have again := onward []
      have nothing := recover_from_torn path recovered.validLength
        (0 + recovered.records.length) (show Frame.front [] = .torn from rfl)
      rw [List.append_nil, nothing] at again
      refine ⟨⟨rfl, ?_, ?_⟩, rfl, rfl, rfl, rfl⟩
      · exact place.trans (congrArg List.length kept.symm)
      · simp only [kept, ← place]
        rw [recoverLog, again]
        simp only [Except.map, Recovered.behind, List.append_nil]

theorem append_writable (log : FileLog) (writable : log.readOnly = none) (key : String)
    (value : Option (List UInt8)) (timestamp : Int) (attempt : Attempt) :
    log.append key value timestamp attempt =
      log.write (log.nextRecord key value timestamp) attempt := by
  rw [append, writable]

/-- A failed append that is cut off again changes nothing. -/
theorem Settled.append_broken {log : FileLog} (settled : log.Settled) (key : String)
    (value : Option (List UInt8)) (timestamp : Int) (written : Nat) (cause : SystemFault) :
    log.append key value timestamp (.broken written cause) =
      (log, .error (.write log.name (.appendFailed log.highWatermark cause))) := by
  have restored : (log.reached (log.nextRecord key value timestamp) written).take
      log.validLength = log.bytes := by
    rw [reached, settled.valid]
    exact List.take_left
  rw [append_writable log settled.writable, write, restored]
  rfl

/-- The log after a record was appended. -/
def grown (log : FileLog) (record : Record) : FileLog :=
  { log with
    bytes := log.bytes ++ Frame.encode record
    validLength := (log.bytes ++ Frame.encode record).length
    records := log.records ++ [record] }

theorem grown_high (log : FileLog) (record : Record) :
    (log.grown record).highWatermark = log.highWatermark + 1 :=
  List.length_append

theorem Settled.append_complete {log : FileLog} (settled : log.Settled) (key : String)
    (value : Option (List UInt8)) (timestamp : Int) :
    log.append key value timestamp .complete =
      (log.grown (log.nextRecord key value timestamp), .ok log.highWatermark) := by
  rw [append_writable log settled.writable]
  rfl

theorem Settled.grow {log : FileLog} (settled : log.Settled) {record : Record}
    (fits : record.Fits) (atPlace : record.offset = log.records.length) :
    (log.grown record).Settled where
  writable := settled.writable
  valid := rfl
  recovers := recover_log_extended fits atPlace settled.recovers

end FileLog

/-- An append that a log is asked for, and how writing its frame ends. -/
structure Appending where
  key : String
  value : Option (List UInt8)
  timestamp : Int
  attempt : Attempt

namespace Appending

def recordAt (call : Appending) (offset : Nat) : Record :=
  { offset, key := call.key, value := call.value, timestamp := call.timestamp }

/-- What reached the file of a failed append can be cut off again. -/
def CutsBack (call : Appending) : Prop :=
  ∀ written cause rollback, call.attempt ≠ .stuck written cause rollback

/-- The timestamp has eight bytes, and the byte form of the record fits a frame. -/
structure Fits (call : Appending) : Prop where
  timestampAbove : -(bytePower 8 : Int) ≤ 2 * call.timestamp
  timestampBelow : 2 * call.timestamp < bytePower 8
  payload : (call.recordAt 0).encode.length < bytePower 4

/-- The records of the successful appends among some, from an offset on. -/
def recordsFrom (offset : Nat) : List Appending → List Record
  | [] => []
  | call :: rest =>
      if call.attempt = .complete then call.recordAt offset :: recordsFrom (offset + 1) rest
      else recordsFrom offset rest

theorem Fits.record {call : Appending} (fits : call.Fits) {offset : Nat}
    (room : offset < bytePower 8) : (call.recordAt offset).Fits where
  offset := room
  timestampAbove := fits.timestampAbove
  timestampBelow := fits.timestampBelow
  payload := by
    have size := fits.payload
    rw [Record.encode_length] at size ⊢
    exact size

end Appending

namespace FileLog

/-- Does appends one after the other, and gives their answers in order. -/
def appendEach (log : FileLog) : List Appending → FileLog × List (Outcome Nat)
  | [] => (log, [])
  | call :: rest =>
      let (next, answer) := log.append call.key call.value call.timestamp call.attempt
      let (last, answers) := next.appendEach rest
      (last, answer :: answers)

/-- What appends make of a log: it has the records of the successful ones behind its own, and each
of these was answered with its offset. -/
structure Took (log after : FileLog) (calls : List Appending) (answers : List (Outcome Nat)) :
    Prop where
  settled : after.Settled
  name : after.name = log.name
  path : after.path = log.path
  records : after.records = log.records ++ Appending.recordsFrom log.highWatermark calls
  bytes : after.bytes = log.bytes ++ frames (Appending.recordsFrom log.highWatermark calls)
  succeeded : answers.map Except.isOk = calls.map fun call => decide (call.attempt = .complete)
  offsets : answers.filterMap Except.toOption =
    List.range' log.highWatermark (Appending.recordsFrom log.highWatermark calls).length

theorem Took.prepend_success {log after : FileLog} {call : Appending} {rest : List Appending}
    {answers : List (Outcome Nat)} (complete : call.attempt = .complete)
    (took : (log.grown (call.recordAt log.highWatermark)).Took after rest answers) :
    log.Took after (call :: rest) (.ok log.highWatermark :: answers) := by
  have added : Appending.recordsFrom log.highWatermark (call :: rest) =
      call.recordAt log.highWatermark ::
        Appending.recordsFrom (log.highWatermark + 1) rest := by
    rw [Appending.recordsFrom, if_pos complete]
  obtain ⟨settled, name, path, records, bytes, succeeded, offsets⟩ := took
  rw [grown_high] at records bytes offsets
  refine ⟨settled, name, path, ?_, ?_, ?_, ?_⟩
  · rw [records, added]
    exact List.append_assoc log.records [_] _
  · rw [bytes, added, frames_cons]
    exact List.append_assoc log.bytes (Frame.encode _) _
  · rw [List.map_cons, List.map_cons, succeeded, decide_eq_true complete]
    rfl
  · rw [added, List.length_cons, List.range'_succ, ← offsets]
    rfl

theorem Took.prepend_failure {log after : FileLog} {call : Appending} {rest : List Appending}
    {answers : List (Outcome Nat)} (fault : Fault) (failed : call.attempt ≠ .complete)
    (took : log.Took after rest answers) :
    log.Took after (call :: rest) (.error fault :: answers) := by
  have same : Appending.recordsFrom log.highWatermark (call :: rest) =
      Appending.recordsFrom log.highWatermark rest := by
    rw [Appending.recordsFrom, if_neg failed]
  obtain ⟨settled, name, path, records, bytes, succeeded, offsets⟩ := took
  refine ⟨settled, name, path, by rw [same, records], by rw [same, bytes], ?_, ?_⟩
  · rw [List.map_cons, List.map_cons, succeeded, decide_eq_false failed]
    rfl
  · rw [same, ← offsets]
    rfl

theorem Settled.append_each {log : FileLog} (settled : log.Settled) (calls : List Appending)
    (cutBack : ∀ call ∈ calls, call.CutsBack) (fits : ∀ call ∈ calls, call.Fits)
    (room : log.highWatermark + calls.length ≤ bytePower 8) :
    log.Took (log.appendEach calls).1 calls (log.appendEach calls).2 := by
  induction calls generalizing log with
  | nil =>
      exact {
        settled, name := rfl, path := rfl
        records := (List.append_nil _).symm
        bytes := (List.append_nil _).symm
        succeeded := rfl
        offsets := rfl }
  | cons call rest induction =>
      have restCutBack : ∀ other ∈ rest, other.CutsBack :=
        fun other member => cutBack other (List.mem_cons_of_mem _ member)
      have restFits : ∀ other ∈ rest, other.Fits :=
        fun other member => fits other (List.mem_cons_of_mem _ member)
      rw [List.length_cons] at room
      rw [appendEach]
      cases ending : call.attempt with
      | complete =>
          have recordFits := (fits call List.mem_cons_self).record
            (show log.highWatermark < bytePower 8 by omega)
          have stillRoom : (log.grown (call.recordAt log.highWatermark)).highWatermark +
              rest.length ≤ bytePower 8 := by
            rw [grown_high]
            omega
          rw [settled.append_complete]
          exact (induction (settled.grow recordFits rfl) restCutBack restFits
            stillRoom).prepend_success ending
      | broken written cause =>
          have failed : call.attempt ≠ .complete := by simp [ending]
          -- The log is given back as it was, with as many offsets left for the other appends.
          rw [settled.append_broken]
          exact (induction settled restCutBack restFits (by omega)).prepend_failure _ failed
      | stuck written cause rollback =>
          exact absurd ending (cutBack call List.mem_cons_self written cause rollback)

/-- The file of a log that was opened and appended to is what was recovered from it and then the
frames of the successful appends in order, as long as the offsets have eight bytes. It reads back as
the log itself, so opening it again changes nothing. The successful appends got offsets that go on
where the recovered records ended, and a failed one leaves the log as it was. -/
theorem appends_keep_log (name path : String) (content : List UInt8) (opened : FileLog)
    (opens : openOver name path content = .ok opened) (calls : List Appending)
    (cutBack : ∀ call ∈ calls, call.CutsBack) (fits : ∀ call ∈ calls, call.Fits)
    (room : opened.highWatermark + calls.length ≤ bytePower 8) :
    let after := (opened.appendEach calls).1
    let answers := (opened.appendEach calls).2
    let added := Appending.recordsFrom opened.highWatermark calls
    recoverLog path content =
        .ok { records := opened.records, validLength := opened.validLength } ∧
      after.bytes = content.take opened.validLength ++ frames added ∧
      after.validLength = after.bytes.length ∧
      after.records = opened.records ++ added ∧
      recoverLog path after.bytes =
        .ok { records := after.records, validLength := after.validLength } ∧
      openOver name path after.bytes = .ok after ∧
      answers.map Except.isOk = calls.map (fun call => decide (call.attempt = .complete)) ∧
      answers.filterMap Except.toOption = List.range' opened.highWatermark added.length ∧
      after.highWatermark = opened.highWatermark + added.length ∧
      ∀ key value timestamp written cause,
        after.append key value timestamp (.broken written cause) =
          (after, .error (.write name (.appendFailed after.highWatermark cause))) := by
  intro after answers added
  obtain ⟨settled, sameName, samePath, cut, recovered⟩ := settled_of_open opens
  have took := settled.append_each calls cutBack fits room
  have nowName : after.name = name := took.name.trans sameName
  have nowPath : after.path = path := took.path.trans samePath
  have reads := took.settled.recovers
  have reopens := took.settled.opens
  rw [← took.settled.valid, nowPath] at reads
  rw [nowName, nowPath] at reopens
  refine ⟨recovered, by rw [← cut]; exact took.bytes, took.settled.valid, took.records, reads,
    reopens, took.succeeded, took.offsets, ?_, ?_⟩
  · rw [highWatermark, took.records, List.length_append]
    rfl
  · intro key value timestamp written cause
    rw [took.settled.append_broken, nowName]

/-- Two appends that fail, one with all of its frame written, and two that do not. -/
def everyOtherFails : List Appending :=
  [⟨"right", some [56], 7, .broken 0 .fileTooLarge⟩, ⟨"right", some [57], 8, .complete⟩,
    ⟨"left", none, 9, .broken 100 .fileTooLarge⟩, ⟨"left", none, 10, .complete⟩]

theorem appends_keep_log_torn :
    ∃ opened, openOver "counts" "counts.log" ((frames setAndUnset).take 60) = .ok opened ∧
      let after := (opened.appendEach everyOtherFails).1
      openOver "counts" "counts.log" after.bytes = .ok after ∧
        after.records =
          [⟨0, "left", some [55], -5⟩, ⟨1, "right", some [57], 8⟩, ⟨2, "left", none, 10⟩] ∧
        after.append "up" none 11 (.broken 30 .fileTooLarge) =
          (after, .error (.write "counts" (.appendFailed 3 .fileTooLarge))) := by
  have opens := open_over_cut "counts" "counts.log" setAndUnset 60 rfl set_and_unset_fit
  have kept : fitting setAndUnset 60 = [⟨0, "left", some [55], -5⟩] := by decide
  rw [kept] at opens
  have cutBack : ∀ call ∈ everyOtherFails, call.CutsBack := by
    simp [everyOtherFails, Appending.CutsBack]
  have fits : ∀ call ∈ everyOtherFails, call.Fits := by
    simp only [everyOtherFails, List.forall_mem_cons, List.not_mem_nil, false_implies,
      implies_true, and_true]
    refine ⟨?_, ?_, ?_, ?_⟩ <;> exact ⟨by decide, by decide, by decide⟩
  obtain ⟨-, -, -, records, -, reopens, -, -, high, unchanged⟩ :=
    appends_keep_log "counts" "counts.log" _ _ opens everyOtherFails cutBack fits (by decide)
  have next := unchanged "up" none 11 30 .fileTooLarge
  rw [high] at next
  exact ⟨_, opens, reopens, records, next⟩

end FileLog

end BrokerTenancy
