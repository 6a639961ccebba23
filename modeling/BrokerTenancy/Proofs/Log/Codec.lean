import BrokerTenancy.Log.Frame

/-!
Records and frames come back from their bytes. A record whose numbers and lengths have room in
their words is read off the front of some bytes exactly if its byte form stands there. A whole frame
is read back from in front of anything, and a frame of which the end is missing is told from a whole
one by its length alone.
-/

namespace BrokerTenancy

theorem int_of_word_of_int (width : Nat) (value : Int)
    (above : -(bytePower width : Int) ≤ 2 * value) (below : 2 * value < bytePower width) :
    intOfWord width (wordOfInt width value) = value := by
  have positive : (0 : Int) < bytePower width := by omega
  by_cases nonnegative : 0 ≤ value
  · have same : wordOfInt width value = value.toNat := by
      rw [wordOfInt, Int.emod_eq_of_lt nonnegative (by omega)]
    rw [intOfWord, same, if_pos (by omega)]
    omega
  · have same : wordOfInt width value = (value + bytePower width).toNat := by
      rw [wordOfInt, ← Int.add_emod_right, Int.emod_eq_of_lt (by omega) (by omega)]
    rw [intOfWord, same, if_neg (by omega)]
    omega

theorem word_of_int_lt (width : Nat) (value : Int) (positive : 0 < bytePower width) :
    wordOfInt width value < bytePower width := by
  have below := Int.emod_lt_of_pos value (Int.natCast_pos.mpr positive)
  have above := Int.emod_nonneg value (Int.natCast_ne_zero.mpr (Nat.ne_of_gt positive))
  rw [wordOfInt]
  omega

theorem word_of_int_of_word {width word : Nat} (fits : word < bytePower width) :
    wordOfInt width (intOfWord width word) = word := by
  unfold wordOfInt intOfWord
  split
  · rw [Int.emod_eq_of_lt (by omega) (by omega), Int.toNat_natCast]
  · rw [← Int.add_emod_right, Int.emod_eq_of_lt (by omega) (by omega)]
    omega

theorem int_of_word_range {width word : Nat} (fits : word < bytePower width) :
    -(bytePower width : Int) ≤ 2 * intOfWord width word ∧
      2 * intOfWord width word < bytePower width := by
  unfold intOfWord
  split <;> omega

theorem encode_little_decode (bytes : List UInt8) :
    encodeLittle bytes.length (decodeLittle bytes) = bytes := by
  induction bytes with
  | nil => rfl
  | cons byte rest induction =>
      have below := byte.toNat_lt
      have low : UInt8.ofNat (byte.toNat + 256 * decodeLittle rest) = byte := by
        apply UInt8.toNat_inj.mp
        rw [UInt8.toNat_ofNat']
        omega
      have high : (byte.toNat + 256 * decodeLittle rest) / 256 = decodeLittle rest := by omega
      rw [List.length_cons, decodeLittle, encodeLittle, low, high, induction]

theorem decode_little_lt (bytes : List UInt8) : decodeLittle bytes < bytePower bytes.length := by
  induction bytes with
  | nil => exact Nat.zero_lt_one
  | cons byte rest induction =>
      have below := byte.toNat_lt
      rw [List.length_cons, decodeLittle, byte_power_succ]
      omega

theorem take_bytes_eq_some_iff {width : Nat} {bytes front rest : List UInt8} :
    takeBytes width bytes = some (front, rest) ↔ bytes = front ++ rest ∧ front.length = width := by
  constructor
  · intro taken
    rw [takeBytes] at taken
    split at taken
    · next inside =>
      rw [List.splitAt_eq, Option.some_inj, Prod.mk.injEq] at taken
      obtain ⟨rfl, rfl⟩ := taken
      exact ⟨(List.take_append_drop width bytes).symm, List.length_take_of_le inside⟩
    · simp at taken
  · rintro ⟨rfl, rfl⟩
    exact take_bytes_append front rest

theorem take_bytes_short {width : Nat} {bytes : List UInt8} (short : bytes.length < width) :
    takeBytes width bytes = none := by
  rw [takeBytes, if_neg (Nat.not_le.mpr short)]

theorem take_little_word (word rest : List UInt8) :
    takeLittle word.length (word ++ rest) = some (decodeLittle word, rest) := by
  simp only [takeLittle, take_bytes_append, Option.bind_eq_bind, Option.bind_some]

theorem take_little_eq_some_iff {width word : Nat} {bytes rest : List UInt8} :
    takeLittle width bytes = some (word, rest) ↔
      word < bytePower width ∧ bytes = encodeLittle width word ++ rest := by
  constructor
  · intro taken
    simp only [takeLittle, Option.bind_eq_bind, Option.bind_eq_some_iff, Prod.exists,
      Option.some_inj, Prod.mk.injEq] at taken
    obtain ⟨front, _, split, rfl, rfl⟩ := taken
    obtain ⟨rfl, rfl⟩ := take_bytes_eq_some_iff.mp split
    exact ⟨decode_little_lt front, by rw [encode_little_decode]⟩
  · rintro ⟨fits, rfl⟩
    exact take_little_encode width word rest fits

namespace Record

/-- Every number of the record, and the length of its key and of its value, has room in eight
bytes. -/
structure InRange (record : Record) : Prop where
  offset : record.offset < bytePower 8
  key : (encodeText record.key).length < bytePower 8
  value : ∀ bytes, record.value = some bytes → bytes.length < bytePower 8
  timestampAbove : -(bytePower 8 : Int) ≤ 2 * record.timestamp
  timestampBelow : 2 * record.timestamp < bytePower 8

/-- The record fits the words of its byte form, and its byte form fits a frame. -/
structure Fits (record : Record) : Prop where
  offset : record.offset < bytePower 8
  timestampAbove : -(bytePower 8 : Int) ≤ 2 * record.timestamp
  timestampBelow : 2 * record.timestamp < bytePower 8
  payload : record.encode.length < bytePower 4

theorem decode_blob_eq_some_iff {input bytes rest : List UInt8} :
    decodeBlob input = some (bytes, rest) ↔
      bytes.length < bytePower 8 ∧ input = encodeBlob bytes ++ rest := by
  simp only [decodeBlob, Option.bind_eq_bind, Option.bind_eq_some_iff, Prod.exists,
    take_little_eq_some_iff, take_bytes_eq_some_iff]
  constructor
  · rintro ⟨_, _, ⟨fits, rfl⟩, rfl, rfl⟩
    exact ⟨fits, by rw [encodeBlob, List.append_assoc]⟩
  · rintro ⟨fits, rfl⟩
    exact ⟨_, _, ⟨fits, by rw [encodeBlob, List.append_assoc]⟩, rfl, rfl⟩

theorem decode_value_eq_some_iff {input rest : List UInt8} {value : Option (List UInt8)} :
    decodeValue input = some (value, rest) ↔
      (∀ bytes, value = some bytes → bytes.length < bytePower 8) ∧
        input = encodeValue value ++ rest := by
  constructor
  · intro decoded
    cases input with
    | nil => simp [decodeValue] at decoded
    | cons tag body =>
        rw [decodeValue] at decoded
        split at decoded
        · next isUnset =>
          obtain ⟨rfl, rfl⟩ := Prod.mk.inj (Option.some.inj decoded)
          exact ⟨by simp, by rw [isUnset]; rfl⟩
        · split at decoded
          · next isSet =>
            simp only [Option.bind_eq_bind, Option.bind_eq_some_iff, Prod.exists,
              Option.some_inj, Prod.mk.injEq, decode_blob_eq_some_iff] at decoded
            obtain ⟨bytes, _, ⟨fits, rfl⟩, rfl, rfl⟩ := decoded
            exact ⟨by simpa using fits, by rw [isSet]; rfl⟩
          · simp at decoded
  · rintro ⟨fits, rfl⟩
    cases value with
    | none => rfl
    | some bytes =>
        have decoded := decode_blob_eq_some_iff.mpr
          ⟨fits bytes rfl, show encodeBlob bytes ++ rest = encodeBlob bytes ++ rest from rfl⟩
        simp [encodeValue, decodeValue, decoded]

/-- A record is read exactly if it is in range and its byte form stands at the front. -/
theorem decode_eq_some_iff {input rest : List UInt8} {record : Record} :
    decode input = some (record, rest) ↔ record.InRange ∧ input = record.encode ++ rest := by
  simp only [decode, Option.bind_eq_bind, Option.bind_eq_some_iff, Prod.exists,
    take_little_eq_some_iff, decode_blob_eq_some_iff, decode_text_eq_some_iff,
    decode_value_eq_some_iff, Option.some_inj, Prod.mk.injEq]
  constructor
  · rintro ⟨offset, _, ⟨offsetFits, rfl⟩, _, _, ⟨keyFits, rfl⟩, key, rfl, value, _,
      ⟨valueFits, rfl⟩, word, _, ⟨wordFits, rfl⟩, rfl, rfl⟩
    obtain ⟨above, below⟩ := int_of_word_range wordFits
    refine ⟨⟨offsetFits, keyFits, valueFits, above, below⟩, ?_⟩
    simp only [encode, word_of_int_of_word wordFits, List.append_assoc]
  · rintro ⟨inRange, rfl⟩
    have wordFits : wordOfInt 8 record.timestamp < bytePower 8 :=
      word_of_int_lt 8 record.timestamp (by decide)
    have time := int_of_word_of_int 8 record.timestamp inRange.timestampAbove
      inRange.timestampBelow
    refine ⟨_, _, ⟨inRange.offset, ?_⟩, _, _, ⟨inRange.key, rfl⟩, _, rfl, _, _,
      ⟨inRange.value, rfl⟩, _, rest, ⟨wordFits, rfl⟩, ?_, rfl⟩
    · simp only [encode, List.append_assoc]
    · rw [time]

theorem blob_length (bytes : List UInt8) : (encodeBlob bytes).length = 8 + bytes.length := by
  simp [encodeBlob, encode_little_length]

/-- Key and value are shorter than the payload that holds them. -/
theorem encode_length (record : Record) :
    record.encode.length =
      24 + (encodeText record.key).length + (encodeValue record.value).length := by
  simp only [encode, List.length_append, encode_little_length, blob_length]
  omega

theorem Fits.in_range {record : Record} (fits : record.Fits) : record.InRange := by
  have size := record.encode_length
  have payload : record.encode.length < 4294967296 := fits.payload
  have wide : bytePower 8 = 18446744073709551616 := rfl
  refine ⟨fits.offset, by omega, ?_, fits.timestampAbove, fits.timestampBelow⟩
  intro bytes held
  have longer : (encodeValue record.value).length = 1 + (8 + bytes.length) := by
    rw [held, encodeValue, List.length_cons, blob_length]
    omega
  omega

theorem decode_encode (record : Record) (fits : record.Fits) (rest : List UInt8) :
    decode (record.encode ++ rest) = some (record, rest) :=
  decode_eq_some_iff.mpr ⟨fits.in_range, rfl⟩

end Record

namespace Frame

theorem wrap_length (payload : List UInt8) :
    (wrap payload).length = headerSize + payload.length := by
  simp only [wrap, List.length_append, encode_little_length, headerSize]

theorem front_wrap (payload rest : List UInt8) (fits : payload.length < bytePower 4) :
    front (wrap payload ++ rest) = .whole payload rest := by
  have sum : (crc32 payload).toNat < bytePower 4 := (crc32 payload).toNat_lt
  have parts : split (wrap payload ++ rest) = some ((crc32 payload).toNat, payload, rest) := by
    simp only [wrap, List.append_assoc, split, Option.bind_eq_bind,
      take_little_encode 4 payload.length _ fits, Option.bind_some,
      take_little_encode 4 _ _ sum, take_bytes_append]
  rw [front, parts]
  simp

/-- A word at the front of bytes that are cut off is there as a whole or not at all. -/
theorem take_little_take (width value size : Nat) (rest : List UInt8)
    (fits : value < bytePower width) :
    takeLittle width ((encodeLittle width value ++ rest).take size) =
      if width ≤ size then some (value, rest.take (size - width)) else none := by
  split
  · next inside =>
    rw [List.take_append, encode_little_length, List.take_of_length_le
      (by rw [encode_little_length]; exact inside), take_little_encode width value _ fits]
  · next outside =>
    have short : ((encodeLittle width value ++ rest).take size).length < width := by
      rw [List.length_take]
      omega
    simp [takeLittle, take_bytes_short short]

/-- A frame that was cut off at the end of the file is torn. -/
theorem front_take (payload : List UInt8) (size : Nat) (fits : payload.length < bytePower 4)
    (short : size < (wrap payload).length) : front ((wrap payload).take size) = .torn := by
  have sum : (crc32 payload).toNat < bytePower 4 := (crc32 payload).toNat_lt
  rw [wrap_length, headerSize] at short
  have parts : split ((wrap payload).take size) = none := by
    simp only [wrap, List.append_assoc, split, Option.bind_eq_bind,
      take_little_take 4 _ size _ fits]
    split
    · simp only [Option.bind_some, take_little_take 4 _ (size - 4) _ sum]
      split
      · have less : (payload.take (size - 4 - 4)).length < payload.length := by
          rw [List.length_take]
          omega
        simp [take_bytes_short less]
      · rfl
    · rfl
  rw [front, parts]

theorem encode_length (record : Record) :
    (encode record).length = headerSize + record.encode.length := wrap_length record.encode

theorem front_encode {record : Record} (fits : record.Fits) (rest : List UInt8) :
    front (encode record ++ rest) = .whole record.encode rest :=
  front_wrap record.encode rest fits.payload

theorem front_encode_take {record : Record} (fits : record.Fits) {size : Nat}
    (short : size < (encode record).length) : front ((encode record).take size) = .torn :=
  front_take record.encode size fits.payload short

end Frame

end BrokerTenancy
