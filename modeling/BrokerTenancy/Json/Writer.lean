import BrokerTenancy.Bytes.Utf8
import BrokerTenancy.Json.Basic
import BrokerTenancy.Number.Shortest

/-!
Writing a JSON tree without blanks. Quotes, backslashes and the control characters below space
are escaped, by a letter where there is one and otherwise as four lower-case hexadecimal digits;
all other bytes stand for themselves.
-/

namespace BrokerTenancy.Json

/-- The ASCII bytes of a text. -/
def ascii (text : String) : List UInt8 := text.toList.map fun character => character.toNat.toUInt8

/-- A lower-case hexadecimal digit. -/
def hexDigit (value : UInt8) : UInt8 := if value < 10 then value + 48 else value + 87

/-- The written form of one byte of a string. -/
def escapeByte (byte : UInt8) : List UInt8 :=
  if byte = 34 then [92, 34]
  else if byte = 92 then [92, 92]
  else if byte = 8 then [92, 98]
  else if byte = 9 then [92, 116]
  else if byte = 10 then [92, 110]
  else if byte = 12 then [92, 102]
  else if byte = 13 then [92, 114]
  else if byte < 32 then [92, 117, 48, 48, hexDigit (byte / 16), hexDigit (byte % 16)]
  else [byte]

def writeText (text : String) : List UInt8 :=
  34 :: (encodeText text).flatMap escapeByte ++ [34]

/-- Integers in decimal; floating-point numbers with the fewest digits that read back. -/
def writeNumber : Number → List UInt8
  | .natural value => ascii (toString value)
  | .negative magnitude => 45 :: ascii (toString magnitude)
  | .floating bits => ascii (Shortest.scientific (Float.ofBits bits))

mutual

/-- The written form of a tree; what has no text or value is written as null. -/
def write : Json → List UInt8
  | .null => [110, 117, 108, 108]
  | .boolean true => [116, 114, 117, 101]
  | .boolean false => [102, 97, 108, 115, 101]
  | .number none => [110, 117, 108, 108]
  | .number (some value) => writeNumber value
  | .string none => [110, 117, 108, 108]
  | .string (some text) => writeText text
  | .array items => 91 :: writeItems items ++ [93]
  | .object fields => 123 :: writeFields fields ++ [125]

def writeItems : List Json → List UInt8
  | [] => []
  | [item] => item.write
  | item :: rest => item.write ++ 44 :: writeItems rest

def writeFields : List (Option String × Json) → List UInt8
  | [] => []
  | [(key, value)] => writeText (key.getD "") ++ 58 :: value.write
  | (key, value) :: rest => writeText (key.getD "") ++ 58 :: value.write ++ 44 :: writeFields rest

end

end BrokerTenancy.Json
