import BrokerTenancy.Proofs.Log.Damage

/-!
Log files that had grown before the last frame was on the disk, so that zeros stand where its end
should be. What decides is the length word. If the zeros leave it as it was, the frame is the last
thing in the file whatever else it holds, and a wrong checksum there counts as a write that was cut
off. If they change it, they make it smaller, and the zeros behind what it then covers are taken for
another frame: the file cannot be read, or reads as more than was written. A frame of nothing but
zeros is an empty payload with the right checksum, and no record.
-/

namespace BrokerTenancy

open Record (Gapless)

/-- Bytes of which only the first ones were written, with zeros in place of the others. -/
def zeroFilled (bytes : List UInt8) (written : Nat) : List UInt8 :=
  bytes.take written ++ List.replicate (bytes.length - written) 0

theorem zero_filled_length (bytes : List UInt8) (written : Nat) :
    (zeroFilled bytes written).length = bytes.length := by
  rw [zeroFilled, List.length_append, List.length_take, List.length_replicate]
  omega

theorem zero_filled_nothing (bytes : List UInt8) :
    zeroFilled bytes 0 = List.replicate bytes.length 0 := rfl

theorem zero_filled_cons (byte : UInt8) (rest : List UInt8) (written : Nat) :
    zeroFilled (byte :: rest) (written + 1) = byte :: zeroFilled rest written := by
  rw [zeroFilled, List.take_succ_cons, List.length_cons, Nat.add_sub_add_right]
  rfl

/-- The front of what is filled up is its front filled up. -/
theorem take_zero_filled (bytes : List UInt8) (written size : Nat) :
    (zeroFilled bytes written).take size = zeroFilled (bytes.take size) written := by
  have zeros : min (size - min written bytes.length) (bytes.length - written) =
      min size bytes.length - written := by omega
  rw [zeroFilled, zeroFilled, List.take_append, List.take_take, List.length_take,
    List.take_replicate, List.take_take, List.length_take, Nat.min_comm size written, zeros]

theorem take_zero_filled_written (bytes : List UInt8) {written size : Nat}
    (inside : size ≤ written) : (zeroFilled bytes written).take size = bytes.take size := by
  have nothing : (bytes.take size).length - written = 0 := by
    rw [List.length_take]
    omega
  have whole : (bytes.take size).take written = bytes.take size := by
    rw [List.take_take, Nat.min_eq_right inside]
  rw [take_zero_filled, zeroFilled, nothing, whole]
  exact List.append_nil _

theorem decode_little_zeros (count : Nat) : decodeLittle (List.replicate count 0) = 0 := by
  induction count with
  | zero => rfl
  | succ count induction =>
      rw [List.replicate_succ, decodeLittle, induction]
      rfl

/-- Zeros never make a number greater. -/
theorem decode_little_zero_filled_le (bytes : List UInt8) (written : Nat) :
    decodeLittle (zeroFilled bytes written) ≤ decodeLittle bytes := by
  induction bytes generalizing written with
  | nil =>
      have nothing : zeroFilled [] written = [] :=
        List.length_eq_zero_iff.mp (zero_filled_length [] written)
      exact Nat.le_of_eq (congrArg decodeLittle nothing)
  | cons byte rest induction =>
      cases written with
      | zero =>
          rw [zero_filled_nothing, decode_little_zeros]
          exact Nat.zero_le _
      | succ written =>
          have behind := induction written
          rw [zero_filled_cons, decodeLittle, decodeLittle]
          omega

namespace Frame

/-- The payload behind a header has the checksum that stands in the header. -/
def SumAgrees (bytes : List UInt8) : Prop :=
  (crc32 (bytes.drop headerSize)).toNat = decodeLittle ((bytes.drop 4).take 4)

instance (bytes : List UInt8) : Decidable (SumAgrees bytes) := inferInstanceAs (Decidable (_ = _))

/-- The bytes of a file by the words of its first header. -/
theorem split_header {bytes : List UInt8} (long : headerSize ≤ bytes.length) :
    split bytes =
      (takeBytes (decodeLittle (bytes.take 4)) (bytes.drop headerSize)).map fun parts =>
        (decodeLittle ((bytes.drop 4).take 4), parts) := by
  have sizeWord : (bytes.take 4).length = 4 := by
    rw [List.length_take]
    exact Nat.min_eq_left (Nat.le_trans (by decide) long)
  have sumWord : ((bytes.drop 4).take 4).length = 4 := by
    rw [List.length_take, List.length_drop]
    rw [headerSize] at long
    omega
  have body : (bytes.drop 4).drop 4 = bytes.drop headerSize := List.drop_drop
  have parts := split_words sizeWord sumWord ((bytes.drop 4).drop 4)
  rw [List.take_append_drop, List.take_append_drop, body] at parts
  exact parts

/-- A frame that ends with the file is torn when its checksum is wrong. -/
theorem front_last {bytes : List UInt8} (long : headerSize ≤ bytes.length)
    (claims : decodeLittle (bytes.take 4) = (bytes.drop headerSize).length) :
    front bytes = .torn ↔ ¬SumAgrees bytes := by
  have parts : split bytes =
      some (decodeLittle ((bytes.drop 4).take 4), bytes.drop headerSize, []) := by
    rw [split_header long, claims, takeBytes, if_pos (Nat.le_refl _), List.splitAt_eq,
      List.take_length, List.drop_length]
    rfl
  rw [front, parts, SumAgrees]
  split <;> simp_all

/-- A frame that ends in front of the end of the file is not torn, whatever it holds. -/
theorem front_inside {bytes : List UInt8} (long : headerSize ≤ bytes.length)
    (claims : decodeLittle (bytes.take 4) < (bytes.drop headerSize).length) :
    front bytes ≠ .torn := by
  have parts := split_header long
  rw [takeBytes, if_pos (Nat.le_of_lt claims), List.splitAt_eq] at parts
  have behind : ((bytes.drop headerSize).drop (decodeLittle (bytes.take 4))).isEmpty = false := by
    rw [List.isEmpty_eq_false_iff, ne_eq, List.drop_eq_nil_iff]
    exact Nat.not_le.mpr claims
  rw [front, parts]
  simp only [Option.map_some, behind]
  split <;> simp

/-- The length word of a frame tells the low four bytes of the length of its payload. -/
theorem encode_claims_low (record : Record) :
    decodeLittle ((encode record).take 4) = record.encode.length % bytePower 4 := by
  have word : (encode record).take 4 = encodeLittle 4 record.encode.length := by
    rw [encode, wrap, List.append_assoc]
    exact List.take_left' (encode_little_length 4 _)
  rw [word, decode_little_encode]

/-- The length word of a frame tells how long its payload is. -/
theorem encode_claims {record : Record} (fits : record.Fits) :
    decodeLittle ((encode record).take 4) = record.encode.length := by
  rw [encode_claims_low]
  exact Nat.mod_eq_of_lt fits.payload

section ZeroFill

variable (record : Record) (written : Nat)

theorem filled_long : headerSize ≤ (zeroFilled (encode record) written).length := by
  rw [zero_filled_length, encode_length]
  exact Nat.le_add_right ..

theorem filled_body_length :
    ((zeroFilled (encode record) written).drop headerSize).length = record.encode.length := by
  rw [List.length_drop, zero_filled_length, encode_length]
  exact Nat.add_sub_cancel_left ..

variable {record : Record} (fits : record.Fits)

include fits

/-- Zeros that change the length word of a frame make its payload end in front of its own end. -/
theorem filled_claims_lt
    (changed : (zeroFilled (encode record) written).take 4 ≠ (encode record).take 4) :
    decodeLittle ((zeroFilled (encode record) written).take 4) < record.encode.length := by
  have atMost := decode_little_zero_filled_le ((encode record).take 4) written
  rw [← take_zero_filled, encode_claims fits] at atMost
  apply Nat.lt_of_le_of_ne atMost
  intro same
  apply changed
  apply decode_little_injective
  · rw [List.length_take, List.length_take, zero_filled_length]
  · exact same.trans (encode_claims fits).symm

/-- A frame that is filled up with zeros counts as torn when the zeros leave its length word as it
was and its checksum comes out wrong. -/
theorem front_filled_iff :
    front (zeroFilled (encode record) written) = .torn ↔
      (zeroFilled (encode record) written).take 4 = (encode record).take 4 ∧
        ¬SumAgrees (zeroFilled (encode record) written) := by
  have long := filled_long record written
  have body := filled_body_length record written
  by_cases kept : (zeroFilled (encode record) written).take 4 = (encode record).take 4
  · have claims : decodeLittle ((zeroFilled (encode record) written).take 4) =
        ((zeroFilled (encode record) written).drop headerSize).length := by
      rw [kept, encode_claims fits, body]
    rw [front_last long claims]
    exact (and_iff_right kept).symm
  · have claims : decodeLittle ((zeroFilled (encode record) written).take 4) <
        ((zeroFilled (encode record) written).drop headerSize).length := by
      rw [body]
      exact filled_claims_lt written fits kept
    exact iff_of_false (front_inside long claims) fun both => kept both.1

end ZeroFill

/-- Zeros are an empty payload with the right checksum. -/
theorem front_zeros (count : Nat) (long : headerSize ≤ count) :
    front (List.replicate count 0) = .whole [] (List.replicate (count - headerSize) 0) := by
  have size : headerSize ≤ (List.replicate count (0 : UInt8)).length := by
    rw [List.length_replicate]
    exact long
  have parts := split_header size
  rw [List.drop_replicate, List.drop_replicate, List.take_replicate, List.take_replicate,
    decode_little_zeros, decode_little_zeros, takeBytes, if_pos (Nat.zero_le _), List.splitAt_eq,
    List.take_zero, List.drop_zero, Option.map_some] at parts
  rw [front, parts]
  rfl

end Frame

/-- A file of which no record is read starts with a torn frame. -/
theorem torn_of_recover_nothing {path : String} {bytes : List UInt8} {position count : Nat}
    {recovered : Recovered} (read : recoverFrom path bytes position count = .ok recovered)
    (nothing : recovered.records = []) : Frame.front bytes = .torn := by
  cases front : Frame.front bytes with
  | torn => rfl
  | damaged =>
      rw [recover_from_damaged path position count front] at read
      cases read
  | whole payload rest =>
      rw [recover_from_payload path position count front] at read
      split at read
      · cases read
      · next record _ _ =>
        split at read
        -- What is read then starts with the record of the payload.
        · cases following : recoverFrom path rest (position + Frame.headerSize + payload.length)
            (count + 1) with
          | error fault =>
              rw [following] at read
              cases read
          | ok later =>
              rw [following] at read
              cases read
              cases nothing
        · cases read

theorem recover_frames_then (path : String) {records : List Record} (other : List UInt8)
    (dense : Gapless 0 records) (fits : ∀ record ∈ records, record.Fits) :
    recoverLog path (frames records ++ other) =
      (recoverFrom path other (frames records).length records.length).map (.behind records) := by
  rw [recoverLog, recover_from_frames_append path records other 0 0 dense fits, Nat.zero_add,
    Nat.zero_add]

namespace FileLog

section Behind

variable (name path : String) {records : List Record} {behind : List UInt8}
  (dense : Gapless 0 records) (fits : ∀ record ∈ records, record.Fits)

include dense fits

theorem open_behind_torn (torn : Frame.front behind = .torn) :
    openOver name path (frames records ++ behind) = .ok (holding name path records) := by
  apply open_over_front
  rw [recover_frames_then path behind dense fits, recover_from_torn path _ _ torn]
  exact congrArg (fun all => Except.ok (Recovered.mk all _)) (List.append_nil records)

/-- When a log opens with some records and no more, what stands behind them is torn. -/
theorem torn_of_open_behind {log : FileLog}
    (opens : openOver name path (frames records ++ behind) = .ok log)
    (same : log.records = records) : Frame.front behind = .torn := by
  have read := (settled_of_open opens).2.2.2.2
  rw [recover_frames_then path behind dense fits, same] at read
  cases found : recoverFrom path behind (frames records).length records.length with
  | error fault =>
      rw [found] at read
      cases read
  | ok recovered =>
      rw [found] at read
      have all := congrArg Recovered.records (Except.ok.inj read)
      apply torn_of_recover_nothing found
      exact List.append_right_eq_self.mp all

/-- Zeros behind the records of a log make it unreadable. -/
theorem open_behind_zeros {count : Nat} (long : Frame.headerSize ≤ count) :
    openOver name path (frames records ++ List.replicate count 0) =
      .error (.data .malformed) := by
  apply open_over_error
  rw [recover_frames_then path _ dense fits,
    recover_from_payload path _ _ (Frame.front_zeros count long)]
  rfl

end Behind

/-- The zeros in a frame can be told from what it should hold there: they leave its length word as
it was, and they do not come to the right checksum unless they are what it should hold. -/
def ZerosTold (frame : List UInt8) (written : Nat) : Prop :=
  (zeroFilled frame written).take 4 = frame.take 4 ∧
    (Frame.SumAgrees (zeroFilled frame written) → zeroFilled frame written = frame)

instance (frame : List UInt8) (written : Nat) : Decidable (ZerosTold frame written) :=
  inferInstanceAs (Decidable (_ ∧ _))

/-- Some records, and the last one too if its frame ends with the zeros it was filled up with. -/
def outlasting (records : List Record) (record : Record) (written : Nat) : List Record :=
  if zeroFilled (Frame.encode record) written = Frame.encode record then records ++ [record]
  else records

section LastFrame

variable (name path : String) {records : List Record} {record : Record} {written : Nat}
  (dense : Gapless 0 (records ++ [record])) (fits : ∀ other ∈ records ++ [record], other.Fits)

include dense fits

theorem open_filled (told : ZerosTold (Frame.encode record) written) :
    openOver name path (frames records ++ zeroFilled (Frame.encode record) written) =
      .ok (holding name path (outlasting records record written)) := by
  by_cases whole : zeroFilled (Frame.encode record) written = Frame.encode record
  · have nothing : Frame.front [] = .torn := rfl
    have opens := open_behind_torn name path dense fits nothing
    rw [List.append_nil, frames_append, frames_singleton] at opens
    rw [outlasting, if_pos whole, whole]
    exact opens
  · have recordFits : record.Fits := fits record (List.mem_append_right _ List.mem_cons_self)
    rw [outlasting, if_neg whole]
    apply open_behind_torn name path
    · exact ((Record.gapless_append ..).mp dense).1
    · exact (List.forall_mem_append.mp fits).1
    · apply (Frame.front_filled_iff written recordFits).mpr
      exact ⟨told.1, fun agrees => whole (told.2 agrees)⟩

theorem told_of_open_filled {log : FileLog}
    (opens : openOver name path (frames records ++ zeroFilled (Frame.encode record) written) =
      .ok log)
    (same : log.records = outlasting records record written) :
    ZerosTold (Frame.encode record) written := by
  by_cases whole : zeroFilled (Frame.encode record) written = Frame.encode record
  · exact ⟨congrArg (List.take 4) whole, fun _ => whole⟩
  · have recordFits : record.Fits := fits record (List.mem_append_right _ List.mem_cons_self)
    rw [outlasting, if_neg whole] at same
    have torn := torn_of_open_behind name path ((Record.gapless_append ..).mp dense).1
      (List.forall_mem_append.mp fits).1 opens same
    obtain ⟨kept, wrong⟩ := (Frame.front_filled_iff written recordFits).mp torn
    exact ⟨kept, fun agrees => absurd agrees wrong⟩

end LastFrame

/-- A log is opened whose file had grown to hold one more frame when only the first bytes of that
frame were on the disk. It opens with the records in front of this frame, and with the last one too
if its frame ends with zeros anyway, exactly when the zeros can be told from what should stand
there. They can unless they change the length word, so unless less than this word was written, or
come to the right checksum by coincidence. Appends then go on at that offset. When there are only
zeros, the log cannot be opened. -/
theorem zero_filled_opens_iff (name path : String) (records : List Record) (record : Record)
    (written : Nat) (dense : Gapless 0 (records ++ [record]))
    (fits : ∀ other ∈ records ++ [record], other.Fits) :
    let frame := Frame.encode record
    let file := frames records ++ zeroFilled frame written
    let kept := outlasting records record written
    ((∃ log, openOver name path file = .ok log ∧ log.records = kept) ↔
        ZerosTold frame written) ∧
      (4 ≤ written → (zeroFilled frame written).take 4 = frame.take 4) ∧
      (ZerosTold frame written → openOver name path file = .ok (holding name path kept) ∧
        ∀ key value timestamp,
          (holding name path kept).append key value timestamp .complete =
            ((holding name path kept).grown { offset := kept.length, key, value, timestamp },
              .ok kept.length)) ∧
      (zeroFilled frame written = List.replicate frame.length 0 →
        openOver name path file = .error (.data .malformed)) := by
  intro frame file kept
  have opens (told : ZerosTold frame written) :
      openOver name path file = .ok (holding name path kept) :=
    open_filled name path dense fits told
  refine ⟨⟨?_, ?_⟩, take_zero_filled_written frame, ?_, ?_⟩
  · intro ⟨log, opened, same⟩
    exact told_of_open_filled name path dense fits opened same
  · exact fun told => ⟨_, opens told, rfl⟩
  · intro told
    have settled := (settled_of_open (opens told)).1
    exact ⟨opens told, settled.append_complete⟩
  · intro zeros
    have long : Frame.headerSize ≤ frame.length := by
      rw [Frame.encode_length]
      exact Nat.le_add_right ..
    have fails := open_behind_zeros name path ((Record.gapless_append ..).mp dense).1
      (List.forall_mem_append.mp fits).1 long
    rw [← zeros] at fails
    exact fails

/-- The last frame breaks off within its payload, and then among the zeros that it ends with. -/
theorem zero_filled_opens_iff_unset :
    Gapless 0 setAndUnset ∧ (∀ record ∈ setAndUnset, record.Fits) ∧
      openOver "counts" "counts.log" (frames [⟨0, "left", some [55], -5⟩] ++
          zeroFilled (Frame.encode ⟨1, "left", none, 6⟩) 9) =
        .ok (holding "counts" "counts.log" [⟨0, "left", some [55], -5⟩]) ∧
      openOver "counts" "counts.log" (frames [⟨0, "left", some [55], -5⟩] ++
          zeroFilled (Frame.encode ⟨1, "left", none, 6⟩) 30) =
        .ok (holding "counts" "counts.log" setAndUnset) := by
  have dense : Gapless 0 setAndUnset := rfl
  have opens (written : Nat) (told : ZerosTold (Frame.encode ⟨1, "left", none, 6⟩) written) :=
    ((zero_filled_opens_iff "counts" "counts.log" [⟨0, "left", some [55], -5⟩]
      ⟨1, "left", none, 6⟩ written dense set_and_unset_fit).2.2.1 told).1
  have within := opens 9 (by decide +kernel)
  have atEnd := opens 30 (by decide +kernel)
  rw [outlasting, if_neg (by decide +kernel)] at within
  rw [outlasting, if_pos (by decide +kernel)] at atEnd
  exact ⟨dense, set_and_unset_fit, within, atEnd⟩

/-- The file had grown, and nothing of the last frame was written. -/
theorem zero_filled_unreadable :
    openOver "counts" "counts.log" (frames [⟨0, "left", some [55], -5⟩] ++
          zeroFilled (Frame.encode ⟨1, "left", none, 6⟩) 0) =
        .error (.data .malformed) ∧
      ¬∃ log, openOver "counts" "counts.log" (frames [⟨0, "left", some [55], -5⟩] ++
          zeroFilled (Frame.encode ⟨1, "left", none, 6⟩) 0) = .ok log ∧
        log.records = [⟨0, "left", some [55], -5⟩] := by
  have dense : Gapless 0 [(⟨0, "left", some [55], -5⟩ : Record)] := rfl
  have fits : ∀ record ∈ [(⟨0, "left", some [55], -5⟩ : Record)], record.Fits := by
    intro record member
    rw [List.mem_singleton.mp member]
    exact set_and_unset_fit _ List.mem_cons_self
  have fails : openOver "counts" "counts.log" (frames [⟨0, "left", some [55], -5⟩] ++
      zeroFilled (Frame.encode ⟨1, "left", none, 6⟩) 0) = .error (.data .malformed) :=
    open_behind_zeros "counts" "counts.log" dense fits (by decide)
  refine ⟨fails, ?_⟩
  intro ⟨log, opens, _⟩
  rw [fails] at opens
  cases opens

end FileLog

end BrokerTenancy
