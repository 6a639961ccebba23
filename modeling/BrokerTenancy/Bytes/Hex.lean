/-!
Bytes as hexadecimal text, two digits a byte.
-/

namespace BrokerTenancy

def hexDigits : List Char := "0123456789abcdef".toList

/-- The digit of a value below sixteen. -/
def hexDigitAt (value : UInt8) : Char := hexDigits.getD value.toNat '0'

/-- The value of a digit of either case; zero for any other character. -/
def hexDigitValue (character : Char) : UInt8 :=
  ((hexDigits.idxOf? character.toLower).getD 0).toUInt8

def hexText (bytes : List UInt8) : String :=
  String.ofList (bytes.flatMap fun byte => [hexDigitAt (byte / 16), hexDigitAt (byte % 16)])

/-- The bytes of pairs of digits; a single digit at the end is left out. -/
def bytesOfHex : List Char → List UInt8
  | high :: low :: rest => (hexDigitValue high * 16 + hexDigitValue low) :: bytesOfHex rest
  | _ => []

end BrokerTenancy
