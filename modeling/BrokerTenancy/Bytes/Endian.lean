import BrokerTenancy.Number.Power

/-!
Natural numbers and two's complement integers as byte words of a fixed width, least significant
byte first (little-endian) or last (big-endian), and reading such words off the front of a byte
sequence.
-/

namespace BrokerTenancy

/-- The low `width` bytes of a number, least significant first. -/
def encodeLittle : Nat → Nat → List UInt8
  | 0, _ => []
  | width + 1, value => UInt8.ofNat value :: encodeLittle width (value / 256)

def decodeLittle : List UInt8 → Nat
  | [] => 0
  | byte :: rest => byte.toNat + 256 * decodeLittle rest

/-- The low `width` bytes of a number, most significant first. -/
def encodeBig (width value : Nat) : List UInt8 := (encodeLittle width value).reverse

def decodeBig (bytes : List UInt8) : Nat := decodeLittle bytes.reverse

/-- The word of an integer modulo 256 to the width. -/
def wordOfInt (width : Nat) (value : Int) : Nat := (value % (bytePower width : Int)).toNat

/-- The integer of a word whose top bit is its sign. -/
def intOfWord (width word : Nat) : Int :=
  if 2 * word < bytePower width then (word : Int) else (word : Int) - (bytePower width : Int)

/-- Splits off the first `width` bytes, if there are that many. -/
def takeBytes (width : Nat) (bytes : List UInt8) : Option (List UInt8 × List UInt8) :=
  if width ≤ bytes.length then some (bytes.splitAt width) else none

def takeLittle (width : Nat) (bytes : List UInt8) : Option (Nat × List UInt8) := do
  let (word, rest) ← takeBytes width bytes
  some (decodeLittle word, rest)

def takeBig (width : Nat) (bytes : List UInt8) : Option (Nat × List UInt8) := do
  let (word, rest) ← takeBytes width bytes
  some (decodeBig word, rest)

theorem encode_little_length (width value : Nat) : (encodeLittle width value).length = width := by
  induction width generalizing value with
  | zero => rfl
  | succ width induction => simp [encodeLittle, induction]

theorem encode_big_length (width value : Nat) : (encodeBig width value).length = width := by
  simp [encodeBig, encode_little_length]

theorem decode_little_encode (width value : Nat) :
    decodeLittle (encodeLittle width value) = value % bytePower width := by
  induction width generalizing value with
  | zero => simp [encodeLittle, decodeLittle, byte_power_zero, Nat.mod_one]
  | succ width induction =>
      simp only [encodeLittle, decodeLittle, induction, UInt8.toNat_ofNat', byte_power_succ,
        Nat.mod_mul]

theorem take_bytes_append (first rest : List UInt8) :
    takeBytes first.length (first ++ rest) = some (first, rest) := by
  simp [takeBytes]

theorem take_little_encode (width value : Nat) (rest : List UInt8)
    (fits : value < bytePower width) :
    takeLittle width (encodeLittle width value ++ rest) = some (value, rest) := by
  have split := take_bytes_append (encodeLittle width value) rest
  rw [encode_little_length] at split
  simp [takeLittle, split, decode_little_encode, Nat.mod_eq_of_lt fits]

end BrokerTenancy
