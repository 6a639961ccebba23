import BrokerTenancy.Proofs.Log.Reopening
import Mathlib.Logic.Function.Basic

/-!
Log files in which one byte has changed. The checksum finds every such change in itself or in the
payload, because each step of it can be undone: a damaged frame is cut off if it is the last one,
and is an error in front of other frames. The length word stands outside of the checksum. A length
that has come to reach the end of the file or past it is taken for a write that was cut off there,
and all frames behind it are lost.
-/

namespace BrokerTenancy

open Record (Gapless)

namespace Crc32

theorem low_bit (register : UInt32) : register &&& 1 = 1 ↔ register.toNat % 2 = 1 := by
  rw [← UInt32.toNat_inj, UInt32.toNat_and]
  exact iff_of_eq (congrArg (· = 1) (Nat.and_one_is_mod register.toNat))

theorem half_to_nat (register : UInt32) : (register >>> 1).toNat = register.toNat / 2 := by
  rw [UInt32.toNat_shiftRight]
  exact Nat.shiftRight_eq_div_pow register.toNat 1

/-- The polynomial has the top bit and a half has not, so a shift shows which case it was. -/
theorem polynomial_apart (left right : UInt32) :
    (left >>> 1) ^^^ polynomial ≠ right >>> 1 := by
  intro same
  have halves : (left >>> 1) ^^^ (right >>> 1) = polynomial := by
    rw [← same, ← UInt32.xor_assoc, UInt32.xor_self, UInt32.zero_xor]
  have below (register : UInt32) : (register >>> 1).toNat < 2 ^ 31 := by
    have := register.toNat_lt
    rw [half_to_nat]
    omega
  have small := Nat.xor_lt_two_pow (below left) (below right)
  rw [← UInt32.toNat_xor, halves] at small
  exact absurd small (by decide)

theorem shift_injective : Function.Injective shift := by
  intro left right same
  have parts : left >>> 1 = right >>> 1 ∧ (left &&& 1 = 1 ↔ right &&& 1 = 1) := by
    unfold shift at same
    split at same <;> split at same
    · next leftOdd rightOdd =>
      exact ⟨(UInt32.xor_left_inj _).mp same, iff_of_true leftOdd rightOdd⟩
    · exact absurd same (polynomial_apart left right)
    · exact absurd same.symm (polynomial_apart right left)
    · next leftEven rightEven => exact ⟨same, iff_of_false leftEven rightEven⟩
  obtain ⟨halves, lowBits⟩ := parts
  have quotients := congrArg UInt32.toNat halves
  rw [half_to_nat, half_to_nat] at quotients
  rw [low_bit, low_bit] at lowBits
  apply UInt32.toNat_inj.mp
  omega

theorem repeat_shift_injective (count : Nat) :
    Function.Injective (Nat.repeat shift count) := by
  induction count with
  | zero => exact Function.injective_id
  | succ count induction => exact shift_injective.comp induction

theorem step_injective (byte : UInt8) : Function.Injective fun register => step register byte := by
  intro left right same
  exact (UInt32.xor_left_inj _).mp (repeat_shift_injective 8 same)

theorem step_byte_injective (register : UInt32) : Function.Injective (step register) := by
  intro left right same
  have words := (UInt32.xor_right_inj _).mp (repeat_shift_injective 8 same)
  have numbers := congrArg UInt32.toNat words
  rw [UInt8.toNat_toUInt32, UInt8.toNat_toUInt32] at numbers
  exact UInt8.toNat_inj.mp numbers

theorem fold_injective (bytes : List UInt8) :
    Function.Injective fun register => bytes.foldl step register := by
  induction bytes with
  | nil => exact Function.injective_id
  | cons byte rest induction => exact induction.comp (step_injective byte)

end Crc32

/-- The checksum finds every change of one byte. -/
theorem crc32_set_ne {bytes : List UInt8} {index : Nat} {value : UInt8}
    (inside : index < bytes.length) (altered : bytes[index]? ≠ some value) :
    crc32 (bytes.set index value) ≠ crc32 bytes := by
  intro same
  have split : bytes = bytes.take index ++ bytes[index] :: bytes.drop (index + 1) := by simp
  have folded := (UInt32.xor_left_inj _).mp same
  rw [List.set_eq_take_append_cons_drop, if_pos inside] at folded
  conv at folded => rhs; rw [split]
  rw [List.foldl_append, List.foldl_append, List.foldl_cons, List.foldl_cons] at folded
  have stepped := Crc32.fold_injective _ folded
  have unchanged := Crc32.step_byte_injective _ stepped
  exact altered (by rw [List.getElem?_eq_getElem inside, unchanged])

theorem decode_little_injective {left right : List UInt8} (size : left.length = right.length)
    (same : decodeLittle left = decodeLittle right) : left = right := by
  rw [← encode_little_decode left, ← encode_little_decode right, size, same]

theorem set_ne {bytes : List UInt8} {index : Nat} {value : UInt8} (inside : index < bytes.length)
    (altered : bytes[index]? ≠ some value) : bytes.set index value ≠ bytes := by
  intro same
  have found := congrArg (·[index]?) same
  simp only [List.getElem?_set_self inside] at found
  exact altered found.symm

namespace Frame

/-- A frame with any checksum word. -/
def sealed (sum payload : List UInt8) : List UInt8 :=
  encodeLittle 4 payload.length ++ (sum ++ payload)

theorem wrap_eq_sealed (payload : List UInt8) :
    wrap payload = sealed (encodeLittle 4 (crc32 payload).toNat) payload := by
  rw [wrap, sealed, List.append_assoc]

/-- Whatever stands in the two words of a header, they are the length and the checksum. -/
theorem split_words {size sum : List UInt8} (sizeWord : size.length = 4) (sumWord : sum.length = 4)
    (body : List UInt8) :
    split (size ++ (sum ++ body)) =
      (takeBytes (decodeLittle size) body).map fun parts => (decodeLittle sum, parts) := by
  have first := take_little_word size (sum ++ body)
  have second := take_little_word sum body
  rw [sizeWord] at first
  rw [sumWord] at second
  simp only [split, first, second, Option.bind_eq_bind, Option.bind_some]
  cases takeBytes (decodeLittle size) body <;> rfl

theorem front_mismatched {sum payload : List UInt8} (sumWord : sum.length = 4)
    (fits : payload.length < bytePower 4) (mismatched : (crc32 payload).toNat ≠ decodeLittle sum)
    (rest : List UInt8) :
    front (sealed sum payload ++ rest) = if rest.isEmpty then .torn else .damaged := by
  have parts : split (sealed sum payload ++ rest) = some (decodeLittle sum, payload, rest) := by
    rw [sealed, List.append_assoc, List.append_assoc,
      split_words (encode_little_length 4 _) sumWord, decode_little_encode,
      Nat.mod_eq_of_lt fits, take_bytes_append]
    rfl
  rw [front, parts]
  exact if_neg mismatched

/-- A change of one byte behind the length word leaves a frame of the same length in which checksum
and payload do not agree. -/
theorem wrap_set {payload : List UInt8} {index : Nat} {value : UInt8}
    (behindLength : 4 ≤ index) (inside : index < (wrap payload).length)
    (altered : (wrap payload)[index]? ≠ some value) :
    ∃ sum other, (wrap payload).set index value = sealed sum other ∧ sum.length = 4 ∧
      other.length = payload.length ∧ (crc32 other).toNat ≠ decodeLittle sum := by
  have words (number : Nat) : (encodeLittle 4 number).length = 4 := encode_little_length 4 number
  have held : decodeLittle (encodeLittle 4 (crc32 payload).toNat) = (crc32 payload).toNat := by
    rw [decode_little_encode]
    exact Nat.mod_eq_of_lt (crc32 payload).toNat_lt
  rw [wrap_length, headerSize] at inside
  rw [wrap_eq_sealed, sealed, List.getElem?_append_right (by rw [words]; exact behindLength),
    words] at altered
  rw [wrap_eq_sealed, sealed, List.set_append_right _ _ (by rw [words]; exact behindLength), words]
  by_cases inSum : index - 4 < 4
  -- The checksum is another number than before.
  · rw [List.getElem?_append_left (by rw [words]; exact inSum)] at altered
    rw [List.set_append_left _ _ (by rw [words]; exact inSum)]
    refine ⟨_, payload, rfl, by rw [List.length_set, words], rfl, ?_⟩
    intro agrees
    apply set_ne (by rw [words]; exact inSum) altered
    exact decode_little_injective (List.length_set ..) (agrees.symm.trans held.symm)
  -- The payload has another checksum than before.
  · rw [List.getElem?_append_right (by rw [words]; omega), words] at altered
    rw [List.set_append_right _ _ (by rw [words]; omega), words]
    refine ⟨encodeLittle 4 (crc32 payload).toNat, payload.set (index - 4 - 4) value, ?_, words _,
      List.length_set .., ?_⟩
    · rw [sealed, List.length_set]
    · rw [held]
      intro agrees
      exact crc32_set_ne (by omega) altered (UInt32.toNat_inj.mp agrees)

/-- What the length word of a frame tells when one of its bytes has another value. -/
def claimedLength (payload : List UInt8) (index : Nat) (value : UInt8) : Nat :=
  decodeLittle ((encodeLittle 4 payload.length).set index value)

/-- The payload of a frame whose length word has changed is so many of the bytes behind the header
as the word says now, if there are that many. -/
theorem front_altered_length {payload behind body : List UInt8} {index claimed : Nat}
    {value : UInt8} (inLength : index < 4) (bodyIs : payload ++ behind = body)
    (claims : claimedLength payload index value = claimed) :
    front ((wrap payload).set index value ++ behind) =
      if body.length < claimed then .torn
      else if crc32 (body.take claimed) = crc32 payload then
        .whole (body.take claimed) (body.drop claimed)
      else if (body.drop claimed).isEmpty then .torn
      else .damaged := by
  have words (number : Nat) : (encodeLittle 4 number).length = 4 := encode_little_length 4 number
  have held : decodeLittle (encodeLittle 4 (crc32 payload).toNat) = (crc32 payload).toNat := by
    rw [decode_little_encode]
    exact Nat.mod_eq_of_lt (crc32 payload).toNat_lt
  have parts : split ((wrap payload).set index value ++ behind) =
      (takeBytes claimed body).map fun parts => ((crc32 payload).toNat, parts) := by
    rw [wrap_eq_sealed, sealed, List.set_append_left _ _ (by rw [words]; exact inLength),
      List.append_assoc, List.append_assoc, split_words (by rw [List.length_set, words]) (words _),
      held, ← bodyIs, ← claims, claimedLength]
  rw [front, parts, takeBytes]
  by_cases beyond : body.length < claimed
  · rw [if_neg (Nat.not_le.mpr beyond), if_pos beyond]
    rfl
  · rw [if_pos (Nat.not_lt.mp beyond), if_neg beyond, List.splitAt_eq]
    simp only [Option.map_some, UInt32.toNat_inj]

end Frame

theorem recover_from_damaged (path : String) {bytes : List UInt8} (position count : Nat)
    (damaged : Frame.front bytes = .damaged) :
    recoverFrom path bytes position count =
      .error (.data (.checksumMismatch path position)) := by
  rw [recoverFrom]
  split
  · next torn => simp [torn] at damaged
  · rfl
  · next whole => simp [whole] at damaged

/-- Whole frames are read one after the other, and then what stands behind them. -/
theorem recover_from_frames_append (path : String) (records : List Record) (other : List UInt8)
    (position count : Nat) (dense : Gapless count records)
    (fits : ∀ record ∈ records, record.Fits) :
    recoverFrom path (frames records ++ other) position count =
      (recoverFrom path other (position + (frames records).length)
        (count + records.length)).map (.behind records) := by
  induction records generalizing position count with
  | nil =>
      have unchanged : Recovered.behind [] = id := rfl
      rw [unchanged, Except.map_id]
      rfl
  | cons record rest induction =>
      obtain ⟨atPlace, following⟩ := (Record.gapless_cons ..).mp dense
      have recordFits := fits record List.mem_cons_self
      have decoded := Record.decode_encode record recordFits []
      rw [List.append_nil] at decoded
      have place : position + Frame.headerSize + record.encode.length + (frames rest).length =
          position + (Frame.encode record ++ frames rest).length := by
        rw [List.length_append, Frame.encode_length]
        omega
      have next : count + 1 + rest.length = count + (record :: rest).length := by
        rw [List.length_cons]
        omega
      rw [frames_cons, List.append_assoc,
        recover_from_record path position count (Frame.front_encode recordFits _) decoded atPlace,
        induction _ _ following fun other member => fits other (List.mem_cons_of_mem _ member),
        place, next]
      cases recoverFrom path other (position + (Frame.encode record ++ frames rest).length)
        (count + (record :: rest).length) <;> rfl

/-- A file in which a byte of one frame has changed is whole up to this frame, and again behind
it. -/
theorem frames_set (before after : List Record) (record : Record) {index : Nat} {value : UInt8}
    (inside : index < (Frame.encode record).length) :
    (frames (before ++ record :: after)).set ((frames before).length + index) value =
      frames before ++ ((Frame.encode record).set index value ++ frames after) := by
  rw [frames_append, frames_cons, List.set_append_right _ _ (Nat.le_add_right ..),
    Nat.add_sub_cancel_left, List.set_append_left _ _ inside]

/-- What is read from a file in which a byte of one frame has changed, by what is read from this
frame on. -/
theorem recover_frames_set (path : String) {before after : List Record} {record : Record}
    {index : Nat} (value : UInt8) (dense : Gapless 0 (before ++ record :: after))
    (fits : ∀ other ∈ before ++ record :: after, other.Fits)
    (inside : index < (Frame.encode record).length) :
    recoverLog path
        ((frames (before ++ record :: after)).set ((frames before).length + index) value) =
      (recoverFrom path ((Frame.encode record).set index value ++ frames after)
        (frames before).length before.length).map (.behind before) := by
  have whole := recover_from_frames_append path before
    ((Frame.encode record).set index value ++ frames after) 0 0
    ((Record.gapless_append ..).mp dense).1
    fun other member => fits other (List.mem_append_left _ member)
  rw [frames_set before after record inside, recoverLog, whole, Nat.zero_add, Nat.zero_add]

theorem frames_ne_nil {records : List Record} (filled : records ≠ []) :
    (frames records).isEmpty = false := by
  obtain ⟨record, rest, rfl⟩ := List.exists_cons_of_ne_nil filled
  rfl

/-- A file in which one byte of a checksum or a payload has another value. If the frame is the last
one, all records in front of it are read, and the file counts up to where it starts. If more frames
stand behind it, reading fails, and the fault names the byte at which the frame starts. -/
theorem recover_altered_byte (path : String) (before after : List Record) (record : Record)
    (index : Nat) (value : UInt8) (dense : Gapless 0 (before ++ record :: after))
    (fits : ∀ other ∈ before ++ record :: after, other.Fits) (behindLength : 4 ≤ index)
    (inside : index < (Frame.encode record).length)
    (altered : (Frame.encode record)[index]? ≠ some value) :
    let start := (frames before).length
    let file := (frames (before ++ record :: after)).set (start + index) value
    (after = [] → recoverLog path file = .ok { records := before, validLength := start }) ∧
      (after ≠ [] → ∃ fault, recoverLog path file = .error fault ∧
        fault.kindName = "Serialization" ∧
        fault.message =
          "Serialization error: checksum mismatch in " ++ path ++ " at byte " ++
            toString start) := by
  intro start file
  have recordFits := fits record (List.mem_append_right _ List.mem_cons_self)
  obtain ⟨sum, payload, frame, sumWord, size, mismatched⟩ :=
    Frame.wrap_set behindLength inside altered
  have front := Frame.front_mismatched sumWord (size ▸ recordFits.payload) mismatched
    (frames after)
  have read := recover_frames_set path value dense fits inside
  rw [Frame.encode, frame] at read
  refine ⟨?_, ?_⟩
  · rintro rfl
    rw [read, recover_from_torn path _ _ front]
    exact congrArg (fun records => Except.ok (Recovered.mk records start)) (List.append_nil before)
  · intro more
    rw [frames_ne_nil more] at front
    exact ⟨_, by rw [read, recover_from_damaged path _ _ front]; rfl, rfl, rfl⟩

theorem recover_altered_byte_twice :
    recoverLog "counts.log" ((frames setAndUnset).set 60 1) =
        .ok { records := [⟨0, "left", some [55], -5⟩], validLength := 46 } ∧
      ∃ fault, recoverLog "counts.log" ((frames setAndUnset).set 5 9) = .error fault ∧
        fault.message = "Serialization error: checksum mismatch in counts.log at byte 0" := by
  have last := recover_altered_byte "counts.log" [⟨0, "left", some [55], -5⟩] []
    ⟨1, "left", none, 6⟩ 14 1 rfl set_and_unset_fit (by decide) (by decide) (by decide)
  have first := recover_altered_byte "counts.log" [] [⟨1, "left", none, 6⟩]
    ⟨0, "left", some [55], -5⟩ 5 9 rfl set_and_unset_fit (by decide) (by decide)
    (by decide +kernel)
  refine ⟨last.1 rfl, ?_⟩
  obtain ⟨fault, failed, -, told⟩ := first.2 (by decide)
  exact ⟨fault, failed, told⟩

namespace FileLog

theorem open_over_error {name path : String} {bytes : List UInt8} {fault : Fault}
    (failed : recoverLog path bytes = .error fault) :
    openOver name path bytes = .error fault := by
  rw [openOver, failed]
  rfl

/-- Opening a file whose whole frames hold some records, and cutting off what is behind them. -/
theorem open_over_front {name path : String} {records : List Record} {behind : List UInt8}
    (read : recoverLog path (frames records ++ behind) =
      .ok { records, validLength := (frames records).length }) :
    openOver name path (frames records ++ behind) = .ok (holding name path records) := by
  rw [openOver, read]
  exact congrArg (fun bytes => Except.ok { holding name path records with bytes })
    List.take_left

section AlteredLength

variable (name path : String) {before after : List Record} {record : Record} {index : Nat}
  {value : UInt8} {body : List UInt8} {claimed : Nat}
  (dense : Gapless 0 (before ++ record :: after))
  (fits : ∀ other ∈ before ++ record :: after, other.Fits) (inLength : index < 4)
  (bodyIs : record.encode ++ frames after = body)
  (claims : Frame.claimedLength record.encode index value = claimed)

include dense fits inLength

theorem recover_altered_length :
    recoverLog path
        ((frames (before ++ record :: after)).set ((frames before).length + index) value) =
      (recoverFrom path ((Frame.encode record).set index value ++ frames after)
        (frames before).length before.length).map (.behind before) := by
  apply recover_frames_set path value dense fits
  rw [Frame.encode_length, Frame.headerSize]
  omega

include bodyIs claims

/-- A frame that seems to go on behind the end of the file is cut off, with all that follows. -/
theorem open_length_beyond (beyond : body.length < claimed) :
    openOver name path
        ((frames (before ++ record :: after)).set ((frames before).length + index) value) =
      .ok (holding name path before) := by
  have front : Frame.front ((Frame.encode record).set index value ++ frames after) = _ :=
    Frame.front_altered_length inLength bodyIs claims
  have read := @recover_altered_length path before after record index value dense fits inLength
  have inside : index < (Frame.encode record).length := by
    rw [Frame.encode_length, Frame.headerSize]
    omega
  rw [if_pos beyond] at front
  rw [recover_from_torn path _ _ front] at read
  rw [frames_set before after record inside] at read ⊢
  apply open_over_front
  rw [read]
  exact congrArg (fun records => Except.ok (Recovered.mk records _)) (List.append_nil before)

theorem open_length_within (within : claimed < body.length)
    (noCoincidence : crc32 (body.take claimed) ≠ crc32 record.encode) :
    openOver name path
        ((frames (before ++ record :: after)).set ((frames before).length + index) value) =
      .error (.data (.checksumMismatch path (frames before).length)) := by
  have front : Frame.front ((Frame.encode record).set index value ++ frames after) = _ :=
    Frame.front_altered_length inLength bodyIs claims
  have read := @recover_altered_length path before after record index value dense fits inLength
  have behind : (body.drop claimed).isEmpty = false := by
    rw [List.isEmpty_eq_false_iff, ne_eq, List.drop_eq_nil_iff]
    omega
  rw [if_neg (Nat.lt_asymm within), if_neg noCoincidence, behind] at front
  rw [recover_from_damaged path _ _ front] at read
  exact open_over_error read

/-- A frame that seems to end with the file is cut off, or it takes in all that follows. -/
theorem open_length_at_end (more : after ≠ []) (atEnd : claimed = body.length) :
    ∃ log, openOver name path
        ((frames (before ++ record :: after)).set ((frames before).length + index) value) =
      .ok log ∧ log.records.length < (before ++ record :: after).length := by
  have front : Frame.front ((Frame.encode record).set index value ++ frames after) = _ :=
    Frame.front_altered_length inLength bodyIs claims
  have read := @recover_altered_length path before after record index value dense fits inLength
  have longer : 0 < after.length := List.length_pos_iff.mpr more
  rw [atEnd, if_neg (Nat.lt_irrefl _), List.take_length, List.drop_length] at front
  by_cases coincidence : crc32 body = crc32 record.encode
  · have recordFits := fits record (List.mem_append_right _ List.mem_cons_self)
    obtain ⟨-, follows⟩ := (Record.gapless_append ..).mp dense
    obtain ⟨atPlace, -⟩ := (Record.gapless_cons ..).mp follows
    have decoded := Record.decode_encode record recordFits (frames after)
    rw [bodyIs] at decoded
    rw [if_pos coincidence] at front
    have single := recover_from_record path (frames before).length before.length front decoded
      (by rw [atPlace, Nat.zero_add])
    rw [@recover_from_torn path [] _ _ rfl] at single
    rw [single] at read
    refine ⟨_, by rw [openOver, read]; rfl, ?_⟩
    simp [Recovered.behind, longer]
  · rw [if_neg coincidence] at front
    rw [recover_from_torn path _ _ front] at read
    refine ⟨_, by rw [openOver, read]; rfl, ?_⟩
    simp [Recovered.behind]

end AlteredLength

/-- A log is opened whose file has one other byte in the length word of a frame with more frames
behind it. When the altered length ends in front of the end of the file, opening fails, unless what
the frame then takes in happens to have the old checksum. When it reaches the end or goes past it,
the log opens with fewer records than were written; past the end, every record from this frame on is
gone. -/
theorem altered_length_found_iff (name path : String) (before after : List Record)
    (record : Record) (index : Nat) (value : UInt8)
    (dense : Gapless 0 (before ++ record :: after))
    (fits : ∀ other ∈ before ++ record :: after, other.Fits) (more : after ≠ [])
    (inLength : index < 4) :
    let file := (frames (before ++ record :: after)).set ((frames before).length + index) value
    let body := record.encode ++ frames after
    let claimed := Frame.claimedLength record.encode index value
    (claimed < body.length → crc32 (body.take claimed) ≠ crc32 record.encode) →
      ((∀ log, openOver name path file = .ok log →
          (before ++ record :: after).length ≤ log.records.length) ↔ claimed < body.length) ∧
        (claimed < body.length →
          openOver name path file =
            .error (.data (.checksumMismatch path (frames before).length))) ∧
        (body.length < claimed →
          openOver name path file = .ok (holding name path before)) := by
  intro file body claimed noCoincidence
  have fails (within : claimed < body.length) :
      openOver name path file = .error (.data (.checksumMismatch path (frames before).length)) :=
    open_length_within name path dense fits inLength rfl rfl within (noCoincidence within)
  have loses (beyond : body.length < claimed) :
      openOver name path file = .ok (holding name path before) :=
    open_length_beyond name path dense fits inLength rfl rfl beyond
  refine ⟨⟨?_, ?_⟩, fails, loses⟩
  · intro keepsAll
    rcases Nat.lt_trichotomy claimed body.length with within | atEnd | beyond
    · exact within
    · obtain ⟨log, opens, fewer⟩ :=
        open_length_at_end name path dense fits inLength rfl rfl more atEnd
      exact absurd (keepsAll log opens) (Nat.not_le.mpr fewer)
    · have all : (before ++ record :: after).length ≤ before.length := keepsAll _ (loses beyond)
      rw [List.length_append, List.length_cons] at all
      omega
  · intro within log opens
    rw [fails within] at opens
    cases opens

/-- The first length word tells one byte less than before. -/
theorem altered_length_found_shorter :
    openOver "counts" "counts.log" ((frames setAndUnset).set 0 37) =
      .error (.data (.checksumMismatch "counts.log" 0)) := by
  have claimed : Frame.claimedLength (Record.encode ⟨0, "left", some [55], -5⟩) 0 37 = 37 := by
    decide
  have found := altered_length_found_iff "counts" "counts.log" [] [⟨1, "left", none, 6⟩]
    ⟨0, "left", some [55], -5⟩ 0 37 rfl set_and_unset_fit (by decide) (by decide)
  rw [claimed] at found
  exact (found fun _ => by decide +kernel).2.1 (by decide)

/-- When the first length word goes past the end of the file, the log opens empty. -/
theorem altered_length_loses_records :
    openOver "counts" "counts.log" ((frames setAndUnset).set 3 1) =
        .ok (holding "counts" "counts.log" []) ∧
      ¬∀ log, openOver "counts" "counts.log" ((frames setAndUnset).set 3 1) = .ok log →
        setAndUnset.length ≤ log.records.length := by
  have opens : openOver "counts" "counts.log" ((frames setAndUnset).set 3 1) =
      .ok (holding "counts" "counts.log" []) :=
    @open_length_beyond "counts" "counts.log" [] [⟨1, "left", none, 6⟩]
      ⟨0, "left", some [55], -5⟩ 3 1 _ _ rfl set_and_unset_fit (by decide) rfl rfl (by decide)
  refine ⟨opens, fun keepsAll => ?_⟩
  exact absurd (keepsAll _ opens) (by decide)

end FileLog

end BrokerTenancy
