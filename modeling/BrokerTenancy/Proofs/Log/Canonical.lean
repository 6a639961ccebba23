import BrokerTenancy.Proofs.Log.Codec

/-!
The byte forms of records are canonical. Bytes are read as a record exactly if its byte form stands
at their front, so a record has one byte form and none of these begins another one. All other bytes
are refused, such as a length that goes past their end, a key that is no text, or a tag other than 0
and 1.
-/

namespace BrokerTenancy.Record

theorem encode_prefix_iff {left right : Record} (leftFits : left.InRange)
    (rightFits : right.InRange) : left.encode <+: right.encode ↔ left = right := by
  constructor
  · rintro ⟨rest, joined⟩
    have first : decode right.encode = some (left, rest) :=
      decode_eq_some_iff.mpr ⟨leftFits, joined.symm⟩
    have second : decode right.encode = some (right, []) :=
      decode_eq_some_iff.mpr ⟨rightFits, (List.append_nil _).symm⟩
    rw [first] at second
    exact congrArg Prod.fst (Option.some.inj second)
  · rintro rfl
    exact List.prefix_refl _

theorem decodes_iff (input : List UInt8) (record : Record) :
    (∃ rest, decode input = some (record, rest)) ↔
      record.InRange ∧ record.encode <+: input := by
  constructor
  · rintro ⟨rest, decoded⟩
    obtain ⟨fits, joined⟩ := decode_eq_some_iff.mp decoded
    exact ⟨fits, rest, joined.symm⟩
  · rintro ⟨fits, rest, joined⟩
    exact ⟨rest, decode_eq_some_iff.mpr ⟨fits, joined.symm⟩⟩

theorem decode_eq_none_iff (input : List UInt8) :
    decode input = none ↔ ∀ record : Record, record.InRange → ¬record.encode <+: input := by
  rw [Option.eq_none_iff_forall_ne_some]
  constructor
  · intro refused record fits isFront
    obtain ⟨rest, decoded⟩ := (decodes_iff input record).mpr ⟨fits, isFront⟩
    exact refused _ decoded
  · rintro others ⟨record, rest⟩ decoded
    obtain ⟨fits, isFront⟩ := (decodes_iff input record).mp ⟨rest, decoded⟩
    exact others record fits isFront

/-- A byte form of which the end is missing is no record. -/
theorem decode_cut {record : Record} (fits : record.InRange) {front rest : List UInt8}
    (joined : record.encode = front ++ rest) (missing : rest ≠ []) : decode front = none := by
  apply (decode_eq_none_iff front).mpr
  intro other otherFits isFront
  have longer : other.encode <+: record.encode := by
    rw [joined]
    exact isFront.trans (List.prefix_append front rest)
  have same := (encode_prefix_iff otherFits fits).mp longer
  have size := isFront.length_le
  have gap := List.length_pos_iff.mpr missing
  rw [same, joined, List.length_append] at size
  omega

theorem decode_blob_past_end {size body : List UInt8} (sizeWord : size.length = 8)
    (short : body.length < decodeLittle size) : decodeBlob (size ++ body) = none := by
  have taken := take_little_word size body
  rw [sizeWord] at taken
  simp only [decodeBlob, taken, Option.bind_eq_bind, Option.bind_some, take_bytes_short short]

section BehindOffset

variable {offset : List UInt8} (offsetWord : offset.length = 8)

include offsetWord

theorem decode_no_blob {body : List UInt8} (refused : decodeBlob body = none) :
    decode (offset ++ body) = none := by
  have taken := take_little_word offset body
  rw [offsetWord] at taken
  simp only [decode, taken, Option.bind_eq_bind, Option.bind_some, refused, Option.bind_none]

theorem decode_no_text {key : List UInt8} (keyFits : key.length < bytePower 8)
    (noText : ∀ text, encodeText text ≠ key) (rest : List UInt8) :
    decode (offset ++ (encodeBlob key ++ rest)) = none := by
  have taken := take_little_word offset (encodeBlob key ++ rest)
  have blob : decodeBlob (encodeBlob key ++ rest) = some (key, rest) :=
    decode_blob_eq_some_iff.mpr ⟨keyFits, rfl⟩
  have refused : decodeText key = none := by
    rw [Option.eq_none_iff_forall_ne_some]
    intro text decoded
    exact noText text (decode_text_eq_some_iff.mp decoded).symm
  rw [offsetWord] at taken
  simp only [decode, taken, Option.bind_eq_bind, Option.bind_some, blob, refused,
    Option.bind_none]

theorem decode_no_value {key : String} (keyFits : (encodeText key).length < bytePower 8)
    {body : List UInt8} (refused : decodeValue body = none) :
    decode (offset ++ (encodeBlob (encodeText key) ++ body)) = none := by
  have taken := take_little_word offset (encodeBlob (encodeText key) ++ body)
  have blob : decodeBlob (encodeBlob (encodeText key) ++ body) = some (encodeText key, body) :=
    decode_blob_eq_some_iff.mpr ⟨keyFits, rfl⟩
  rw [offsetWord] at taken
  simp only [decode, taken, Option.bind_eq_bind, Option.bind_some, blob, decode_text_encode,
    refused, Option.bind_none]

end BehindOffset

theorem decode_value_tag {tag : UInt8} (notUnset : tag ≠ 0) (notSet : tag ≠ 1)
    (rest : List UInt8) : decodeValue (tag :: rest) = none := by
  rw [decodeValue, if_neg notUnset, if_neg notSet]

theorem decode_value_past_end {size body : List UInt8} (sizeWord : size.length = 8)
    (short : body.length < decodeLittle size) : decodeValue (1 :: (size ++ body)) = none := by
  simp [decodeValue, decode_blob_past_end sizeWord short]

/-- Bytes are read as a record exactly if the record is in range and its byte form stands at their
front. So no two records share a byte form, none is the front of another, and bytes are refused
exactly if no byte form stands at their front: among them those in which the length of the key or of
the value goes past the end, those whose key is not the form of a text, and those with a tag other
than 0 and 1. -/
theorem codec_canonical :
    (∀ (input : List UInt8) (record : Record),
        (∃ rest, decode input = some (record, rest)) ↔
          record.InRange ∧ record.encode <+: input) ∧
      (∀ left right : Record, left.InRange → right.InRange →
        (left.encode <+: right.encode ↔ left = right)) ∧
      (∀ input : List UInt8,
        decode input = none ↔ ∀ record : Record, record.InRange → ¬record.encode <+: input) ∧
      (∀ offset size body : List UInt8, offset.length = 8 → size.length = 8 →
        body.length < decodeLittle size →
          decode (offset ++ (size ++ body)) = none ∧
          ∀ key, (encodeText key).length < bytePower 8 →
            decode (offset ++ (encodeBlob (encodeText key) ++ 1 :: (size ++ body))) = none) ∧
      (∀ offset key rest : List UInt8, offset.length = 8 → key.length < bytePower 8 →
        (∀ text, encodeText text ≠ key) → decode (offset ++ (encodeBlob key ++ rest)) = none) ∧
      (∀ (offset : List UInt8) (key : String) (tag : UInt8) (rest : List UInt8),
        offset.length = 8 → (encodeText key).length < bytePower 8 → tag ≠ 0 → tag ≠ 1 →
          decode (offset ++ (encodeBlob (encodeText key) ++ tag :: rest)) = none) := by
  refine ⟨decodes_iff, fun _ _ => encode_prefix_iff, decode_eq_none_iff, ?_, ?_, ?_⟩
  · intro offset size body offsetWord sizeWord short
    refine ⟨decode_no_blob offsetWord (decode_blob_past_end sizeWord short), ?_⟩
    intro key keyFits
    exact decode_no_value offsetWord keyFits (decode_value_past_end sizeWord short)
  · intro offset key rest offsetWord keyFits noText
    exact decode_no_text offsetWord keyFits noText rest
  · intro offset key tag rest offsetWord keyFits notUnset notSet
    exact decode_no_value offsetWord keyFits (decode_value_tag notUnset notSet rest)

theorem codec_canonical_left :
    (∃ rest, decode (encode ⟨3, "left", some [55], -5⟩ ++ [1, 2]) =
        some (⟨3, "left", some [55], -5⟩, rest)) ∧
      decode (encodeLittle 8 3 ++ (List.replicate 8 255 ++ encodeText "left")) = none ∧
      decode (encodeLittle 8 3 ++ (encodeBlob [255] ++ List.replicate 9 0)) = none ∧
      decode (encodeLittle 8 3 ++ (encodeBlob (encodeText "left") ++ 2 :: List.replicate 8 0)) =
        none := by
  obtain ⟨reads, -, -, pastEnd, noText, badTag⟩ := codec_canonical
  have inRange : InRange ⟨3, "left", some [55], -5⟩ :=
    ⟨by decide, by decide, by simp [bytePower], by decide, by decide⟩
  have notText (text : String) : encodeText text ≠ [255] := by
    intro same
    have decoded := decode_text_encode text
    rw [same] at decoded
    exact absurd decoded (by rw [show decodeText [255] = none by decide]; simp)
  refine ⟨(reads _ _).mpr ⟨inRange, List.prefix_append ..⟩, ?_, ?_, ?_⟩
  · exact (pastEnd _ _ _ (encode_little_length 8 3) rfl (by decide)).1
  · exact noText _ _ _ (encode_little_length 8 3) (by decide) notText
  · exact badTag _ _ _ _ (encode_little_length 8 3) (by decide) (by decide) (by decide)

end BrokerTenancy.Record
