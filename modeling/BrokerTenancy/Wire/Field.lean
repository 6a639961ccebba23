import BrokerTenancy.Bytes.Endian
import BrokerTenancy.Bytes.Utf8

/-!
Fields of wire messages. Integers are big-endian in two's complement. A text is written after its
length in bytes, which has sixteen bits, and a list after its length, which has thirty-two; length
minus one stands for no text. Reading takes a field off the front of the bytes.
-/

namespace BrokerTenancy.Wire

def writeInteger (width : Nat) (value : Int) : List UInt8 := encodeBig width (wordOfInt width value)

def readInteger (width : Nat) (bytes : List UInt8) : Option (Int × List UInt8) := do
  let (word, rest) ← takeBig width bytes
  some (intOfWord width word, rest)

/-- The longest text that can be written, in bytes. -/
def textLimit : Nat := 32767

def writeText (text : String) : Option (List UInt8) :=
  let bytes := encodeText text
  if bytes.length ≤ textLimit then some (writeInteger 2 bytes.length ++ bytes) else none

def writeOptionalText : Option String → Option (List UInt8)
  | none => some (writeInteger 2 (-1))
  | some text => writeText text

/-- Reads a text after its length. -/
def readTextOf (length : Nat) (bytes : List UInt8) : Option (String × List UInt8) := do
  let (content, rest) ← takeBytes length bytes
  let text ← decodeText content
  some (text, rest)

def readText (bytes : List UInt8) : Option (String × List UInt8) := do
  let (length, rest) ← readInteger 2 bytes
  match length with
  | .ofNat length => readTextOf length rest
  | _ => none

def readOptionalText (bytes : List UInt8) : Option (Option String × List UInt8) := do
  let (length, rest) ← readInteger 2 bytes
  if length = -1 then some (none, rest)
  else
    let (text, rest) ← readText bytes
    some (some text, rest)

/-- Writes a list; one item that cannot be written prevents the whole. -/
def writeList {Item : Type} (write : Item → Option (List UInt8)) (items : List Item) :
    Option (List UInt8) := do
  let written ← items.mapM write
  some (writeInteger 4 items.length ++ written.flatten)

/-- Reads the given number of items. -/
def readMany {Item : Type} (read : List UInt8 → Option (Item × List UInt8)) :
    Nat → List UInt8 → Option (List Item × List UInt8)
  | 0, bytes => some ([], bytes)
  | count + 1, bytes => do
      let (item, rest) ← read bytes
      let (items, rest) ← readMany read count rest
      some (item :: items, rest)

def readList {Item : Type} (read : List UInt8 → Option (Item × List UInt8))
    (bytes : List UInt8) : Option (List Item × List UInt8) := do
  let (length, rest) ← readInteger 4 bytes
  match length with
  | .ofNat count => readMany read count rest
  | _ => none

end BrokerTenancy.Wire
