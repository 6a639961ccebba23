import BrokerTenancy.Bytes.Endian
import BrokerTenancy.Bytes.Utf8

/-!
Records of a resource log and their byte form. A record is its offset, its key, its value or the
mark of a tombstone, and its timestamp, in words of eight bytes with the least significant byte
first; key and value are preceded by their length. A decoder takes one record off the front and
hands back what follows it.
-/

namespace BrokerTenancy

/-- One entry of a log. Without a value it is a tombstone: it takes its key out of the store. -/
structure Record where
  offset : Nat
  key : String
  value : Option (List UInt8)
  timestamp : Int
  deriving DecidableEq, Inhabited, Repr

namespace Record

def isTombstone (record : Record) : Bool := record.value.isNone

def encodeBlob (bytes : List UInt8) : List UInt8 := encodeLittle 8 bytes.length ++ bytes

def decodeBlob (input : List UInt8) : Option (List UInt8 × List UInt8) := do
  let (length, rest) ← takeLittle 8 input
  takeBytes length rest

/-- A value after the byte 1, or the byte 0 of a tombstone. -/
def encodeValue : Option (List UInt8) → List UInt8
  | none => [0]
  | some value => 1 :: encodeBlob value

def decodeValue : List UInt8 → Option (Option (List UInt8) × List UInt8)
  | [] => none
  | tag :: rest =>
      if tag = 0 then some (none, rest)
      else if tag = 1 then do
        let (value, suffix) ← decodeBlob rest
        some (some value, suffix)
      else none

def encode (record : Record) : List UInt8 :=
  encodeLittle 8 record.offset ++ encodeBlob (encodeText record.key) ++
    encodeValue record.value ++ encodeLittle 8 (wordOfInt 8 record.timestamp)

def decode (input : List UInt8) : Option (Record × List UInt8) := do
  let (offset, rest) ← takeLittle 8 input
  let (keyBytes, rest) ← decodeBlob rest
  let key ← decodeText keyBytes
  let (value, rest) ← decodeValue rest
  let (timestamp, rest) ← takeLittle 8 rest
  some ({ offset, key, value, timestamp := intOfWord 8 timestamp }, rest)

/-- The records from an offset on, at most `limit` of them. -/
def slice (records : List Record) (offset limit : Nat) : List Record :=
  (records.drop offset).take limit

end Record

end BrokerTenancy
