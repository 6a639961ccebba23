import BrokerTenancy.Proofs.Log.Canonical
import BrokerTenancy.Proofs.Log.ZeroFill

/-!
Records whose byte form is longer than the length word of a frame can tell. The word then holds only
the low four bytes of the length, so what is read as the payload ends in front of its own end. This
is no record, whatever its checksum, and not the end of the file either: the append was answered
with an offset, and the file cannot be read any more.
-/

namespace BrokerTenancy

namespace Frame

section InFront

variable (record : Record) (behind : List UInt8)

theorem front_long : headerSize ≤ (encode record ++ behind).length := by
  rw [List.length_append, encode_length]
  omega

theorem front_length_word :
    decodeLittle ((encode record ++ behind).take 4) = record.encode.length % bytePower 4 := by
  have inside : 4 ≤ (encode record).length := by
    rw [encode_length, headerSize]
    omega
  rw [List.take_append_of_le_length inside, encode_claims_low]

theorem front_body : (encode record ++ behind).drop headerSize = record.encode ++ behind := by
  have header : (encodeLittle 4 record.encode.length ++
      encodeLittle 4 (crc32 record.encode).toNat).length = headerSize := by
    rw [List.length_append, encode_little_length, encode_little_length]
    rfl
  rw [encode, wrap, List.append_assoc _ record.encode behind]
  exact List.drop_left' header

end InFront

/-- A whole payload is as long as the length word tells and stands behind the header. -/
theorem whole_payload {bytes payload rest : List UInt8}
    (whole : front bytes = .whole payload rest) :
    bytes.drop headerSize = payload ++ rest ∧ payload.length = decodeLittle (bytes.take 4) := by
  have long : headerSize ≤ bytes.length := by
    have size := front_whole_shorter whole
    omega
  rw [front, split_header long] at whole
  cases taken : takeBytes (decodeLittle (bytes.take 4)) (bytes.drop headerSize) with
  | none => simp [taken] at whole
  | some parts =>
      obtain ⟨first, second⟩ := parts
      rw [taken, Option.map_some] at whole
      split at whole
      · cases whole
      · next same =>
        obtain ⟨-, rfl, rfl⟩ := same
        split at whole
        · obtain ⟨rfl, rfl⟩ := Front.whole.inj whole
          exact take_bytes_eq_some_iff.mp taken
        · split at whole <;> cases whole

end Frame

/-- A frame whose payload is too long for its length word cannot be read, whatever follows it. -/
theorem recover_from_oversize (path : String) {record : Record} (inRange : record.InRange)
    (tooLong : bytePower 4 ≤ record.encode.length) (behind : List UInt8) (position count : Nat) :
    ∃ cause, recoverFrom path (Frame.encode record ++ behind) position count =
      .error (.data cause) := by
  have claims : decodeLittle ((Frame.encode record ++ behind).take 4) < record.encode.length := by
    rw [Frame.front_length_word]
    exact Nat.lt_of_lt_of_le (Nat.mod_lt _ (by decide)) tooLong
  cases front : Frame.front (Frame.encode record ++ behind) with
  | torn =>
      have inside := Nat.lt_of_lt_of_le claims (Nat.le_add_right _ behind.length)
      rw [← List.length_append, ← Frame.front_body] at inside
      exact absurd front (Frame.front_inside (Frame.front_long record behind) inside)
  | damaged => exact ⟨_, recover_from_damaged path position count front⟩
  | whole payload rest =>
      obtain ⟨joined, size⟩ := Frame.whole_payload front
      rw [Frame.front_body] at joined
      rw [← size] at claims
      -- The payload that is taken is the byte form without its end.
      have cut : payload = record.encode.take payload.length := by
        have same := congrArg (List.take payload.length) joined
        rw [List.take_left, List.take_append_of_le_length (Nat.le_of_lt claims)] at same
        exact same.symm
      have missing : record.encode.drop payload.length ≠ [] := by
        rw [ne_eq, List.drop_eq_nil_iff]
        exact Nat.not_le.mpr claims
      have refused := Record.decode_cut inRange (List.take_append_drop ..).symm missing
      rw [← cut] at refused
      rw [recover_from_payload path position count front, refused]
      exact ⟨_, rfl⟩

namespace FileLog

theorem not_opens_of_error {name path : String} {bytes : List UInt8} {fault : Fault}
    (failed : recoverLog path bytes = .error fault) :
    ¬∃ reopened, openOver name path bytes = .ok reopened := by
  rintro ⟨reopened, opens⟩
  rw [open_over_error failed] at opens
  cases opens

section Oversize

variable {log : FileLog} (settled : log.Settled) {record : Record} (inRange : record.InRange)
  (tooLong : bytePower 4 ≤ record.encode.length)

include settled inRange tooLong

theorem Settled.recover_oversize_behind (later : List UInt8) :
    ∃ cause, recoverLog log.path (log.bytes ++ Frame.encode record ++ later) =
      .error (.data cause) := by
  obtain ⟨cause, failed⟩ :=
    recover_from_oversize log.path inRange tooLong later log.bytes.length log.records.length
  refine ⟨cause, ?_⟩
  rw [List.append_assoc, recover_log_behind settled.recovers, failed]
  rfl

theorem Settled.recover_oversize :
    ∃ cause, recoverLog log.path (log.bytes ++ Frame.encode record) = .error (.data cause) := by
  have failed := settled.recover_oversize_behind inRange tooLong []
  rw [List.append_nil] at failed
  exact failed

end Oversize

/-- A length that goes round to 0 is answered all the same, and the file does not open. -/
theorem Settled.append_wrapped {log : FileLog} (settled : log.Settled) {key : String}
    {value : Option (List UInt8)} {timestamp : Int}
    (inRange : (log.nextRecord key value timestamp).InRange)
    (wraps : (log.nextRecord key value timestamp).encode.length = bytePower 4) :
    let appended := log.append key value timestamp .complete
    appended.2 = .ok log.highWatermark ∧
      decodeLittle ((appended.1.bytes.drop log.bytes.length).take 4) = 0 ∧
      ¬∃ reopened, openOver log.name log.path appended.1.bytes = .ok reopened := by
  intro appended
  have answered : appended =
      (log.grown (log.nextRecord key value timestamp), .ok log.highWatermark) :=
    settled.append_complete key value timestamp
  have written : appended.1.bytes =
      log.bytes ++ Frame.encode (log.nextRecord key value timestamp) :=
    congrArg (fun pair => pair.1.bytes) answered
  refine ⟨congrArg Prod.snd answered, ?_, ?_⟩
  · rw [written, List.drop_left, Frame.encode_claims_low, wraps, Nat.mod_self]
  · obtain ⟨cause, failed⟩ := settled.recover_oversize inRange (Nat.le_of_eq wraps.symm)
    rw [written]
    exact not_opens_of_error failed

theorem holding_settled (name path : String) {records : List Record}
    (dense : Record.Gapless 0 records) (fits : ∀ record ∈ records, record.Fits) :
    (holding name path records).Settled := by
  have opens := open_behind_torn name path dense fits (show Frame.front [] = .torn from rfl)
  exact (settled_of_open opens).1

theorem holding_left_settled :
    (holding "counts" "counts.log" [⟨0, "left", some [55], -5⟩]).Settled := by
  apply holding_settled
  · rfl
  · intro record member
    rw [List.mem_singleton.mp member]
    exact set_and_unset_fit _ List.mem_cons_self

theorem encode_left_length (offset count : Nat) (byte : UInt8) (timestamp : Int) :
    (Record.encode ⟨offset, "left", some (List.replicate count byte), timestamp⟩).length =
      37 + count := by
  have key : (encodeText "left").length = 4 := by decide
  rw [Record.encode_length, Record.encodeValue, List.length_cons, Record.blob_length,
    List.length_replicate, key]
  omega

theorem left_in_range {count : Nat} (fits : count < bytePower 8) (byte : UInt8) :
    Record.InRange ⟨1, "left", some (List.replicate count byte), 6⟩ where
  offset := show 1 < bytePower 8 by decide
  key := show (encodeText "left").length < bytePower 8 by decide
  value := by
    intro bytes held
    rw [← Option.some.inj held, List.length_replicate]
    exact fits
  timestampAbove := show -(bytePower 8 : Int) ≤ 2 * 6 by decide
  timestampBelow := show 2 * 6 < (bytePower 8 : Int) by decide

/-- An append whose frame is written is answered with its offset, however long its record is. The
length word tells the length of the payload, the record is read back behind the others, and the file
can be opened at all, exactly if the length has room in four bytes. If it has not, no later append
makes the file readable again. -/
theorem append_reads_back_iff (log : FileLog) (settled : log.Settled) (key : String)
    (value : Option (List UInt8)) (timestamp : Int)
    (inRange : (log.nextRecord key value timestamp).InRange) :
    let record := log.nextRecord key value timestamp
    let appended := log.append key value timestamp .complete
    let file := log.bytes ++ Frame.encode record
    appended.2 = .ok log.highWatermark ∧ appended.1.bytes = file ∧
      (decodeLittle ((Frame.encode record).take 4) = record.encode.length ↔
        record.encode.length < bytePower 4) ∧
      (recoverLog log.path file =
          .ok { records := log.records ++ [record], validLength := file.length } ↔
        record.encode.length < bytePower 4) ∧
      ((∃ reopened, openOver log.name log.path file = .ok reopened) ↔
        record.encode.length < bytePower 4) ∧
      (bytePower 4 ≤ record.encode.length →
        ∀ later, ∃ cause, openOver log.name log.path (file ++ later) = .error (.data cause)) := by
  intro record appended file
  have answered : appended = (log.grown record, .ok log.highWatermark) :=
    settled.append_complete key value timestamp
  refine ⟨by rw [answered], by rw [answered]; rfl, ?_⟩
  rcases Nat.lt_or_ge record.encode.length (bytePower 4) with small | tooLong
  · have fits : record.Fits :=
      ⟨inRange.offset, inRange.timestampAbove, inRange.timestampBelow, small⟩
    have reopens := (settled.grow fits rfl).opens
    refine ⟨iff_of_true ?_ small, iff_of_true ?_ small, iff_of_true ⟨_, reopens⟩ small, ?_⟩
    · exact Frame.encode_claims fits
    · exact recover_log_extended fits rfl settled.recovers
    · intro tooLong
      exact absurd small (Nat.not_lt.mpr tooLong)
  · have large : ¬record.encode.length < bytePower 4 := Nat.not_lt.mpr tooLong
    obtain ⟨cause, failed⟩ := settled.recover_oversize inRange tooLong
    refine ⟨iff_of_false ?_ large, iff_of_false ?_ large, iff_of_false ?_ large, ?_⟩
    · rw [Frame.encode_claims_low]
      exact Nat.ne_of_lt (Nat.lt_of_lt_of_le (Nat.mod_lt _ (by decide)) tooLong)
    · rw [failed]
      simp
    · exact not_opens_of_error failed
    · intro _ later
      obtain ⟨laterCause, laterFailed⟩ := settled.recover_oversize_behind inRange tooLong later
      exact ⟨laterCause, open_over_error laterFailed⟩

/-- The tombstone that `setAndUnset` ends with is read back behind the value before it. -/
theorem append_reads_back_iff_unset :
    let log := holding "counts" "counts.log" [⟨0, "left", some [55], -5⟩]
    log.Settled ∧ (log.nextRecord "left" none 6).InRange ∧
      (log.append "left" none 6 .complete).2 = .ok 1 ∧
      recoverLog "counts.log" (frames setAndUnset) =
        .ok { records := setAndUnset, validLength := 83 } := by
  intro log
  have inRange : (log.nextRecord "left" none 6).InRange :=
    (set_and_unset_fit _ (List.mem_cons_of_mem _ List.mem_cons_self)).in_range
  obtain ⟨answered, -, -, reads, -⟩ :=
    append_reads_back_iff log holding_left_settled "left" none 6 inRange
  exact ⟨holding_left_settled, inRange, answered, reads.mpr (by decide)⟩

/-- The byte form of the record has one byte more than four bytes can tell. -/
theorem oversize_append_unreadable :
    let log := holding "counts" "counts.log" [⟨0, "left", some [55], -5⟩]
    let appended := log.append "left" (some (List.replicate 4294967259 55)) 6 .complete
    appended.2 = .ok 1 ∧
      decodeLittle ((appended.1.bytes.drop log.bytes.length).take 4) = 0 ∧
      ¬∃ reopened, openOver "counts" "counts.log" appended.1.bytes = .ok reopened := by
  have inRange := @left_in_range 4294967259 (by decide) 55
  have wraps := encode_left_length 1 4294967259 55 6
  exact holding_left_settled.append_wrapped inRange wraps

end FileLog

end BrokerTenancy
