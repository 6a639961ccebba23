/-!
Text as UTF-8 bytes. Decoding refuses every byte sequence that is not UTF-8, so a text has exactly
one byte sequence and a byte sequence has at most one text.
-/

namespace BrokerTenancy

def encodeText (text : String) : List UInt8 := text.toByteArray.data.toList

def decodeText (bytes : List UInt8) : Option String := String.fromUTF8? ⟨bytes.toArray⟩

theorem decode_text_encode (text : String) : decodeText (encodeText text) = some text := by
  obtain ⟨bytes, valid⟩ := text
  simp [decodeText, encodeText, String.fromUTF8?, String.fromUTF8, valid]

theorem eq_encode_of_decode_text {bytes : List UInt8} {text : String}
    (decoded : decodeText bytes = some text) : bytes = encodeText text := by
  simp only [decodeText, String.fromUTF8?] at decoded
  split at decoded
  · obtain rfl := Option.some.inj decoded
    simp [encodeText, String.fromUTF8]
  · simp at decoded

theorem decode_text_eq_some_iff {bytes : List UInt8} {text : String} :
    decodeText bytes = some text ↔ bytes = encodeText text := by
  constructor
  · exact eq_encode_of_decode_text
  · rintro rfl
    exact decode_text_encode text

end BrokerTenancy
