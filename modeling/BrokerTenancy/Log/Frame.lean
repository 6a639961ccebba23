import BrokerTenancy.Bytes.Crc32
import BrokerTenancy.Log.Record

/-!
Frames of a log file: the length of the payload and its checksum in four bytes each, then the
payload, which is one record. Reading the front of a file tells a whole frame from one that was cut
off at the end of the file and from one that is damaged in front of other data.
-/

namespace BrokerTenancy.Frame

/-- The bytes in front of a payload. -/
def headerSize : Nat := 8

/-- A payload behind its length and checksum. The length word holds the low four bytes of the
length. -/
def wrap (payload : List UInt8) : List UInt8 :=
  encodeLittle 4 payload.length ++ encodeLittle 4 (crc32 payload).toNat ++ payload

/-- The frame of a record. -/
def encode (record : Record) : List UInt8 := wrap record.encode

/-- The front of a file. -/
inductive Front where
  /-- The end of the file, or a frame that reaches to it or past it and is not whole. -/
  | torn
  /-- A frame with a wrong checksum and more data behind it. -/
  | damaged
  /-- A frame with the right checksum, and what follows it. -/
  | whole (payload rest : List UInt8)
  deriving DecidableEq, Repr

/-- Splits the payload of the length in the header off a file, whatever its checksum: the checksum
of the header, the payload and the rest. -/
def split (bytes : List UInt8) : Option (Nat × List UInt8 × List UInt8) := do
  let (length, afterLength) ← takeLittle 4 bytes
  let (checksum, body) ← takeLittle 4 afterLength
  let (payload, rest) ← takeBytes length body
  some (checksum, payload, rest)

def front (bytes : List UInt8) : Front :=
  match split bytes with
  | none => .torn
  | some (checksum, payload, rest) =>
      if (crc32 payload).toNat = checksum then .whole payload rest
      else if rest.isEmpty then .torn
      else .damaged

theorem take_little_shorter {width : Nat} {bytes rest : List UInt8} {word : Nat}
    (taken : takeLittle width bytes = some (word, rest)) : rest.length + width = bytes.length := by
  simp only [takeLittle, takeBytes] at taken
  split at taken
  · simp at taken
    obtain ⟨_, rfl⟩ := taken
    simp; omega
  · simp at taken

theorem split_shorter {bytes payload rest : List UInt8} {checksum : Nat}
    (parts : split bytes = some (checksum, payload, rest)) :
    headerSize + payload.length + rest.length = bytes.length := by
  simp only [split, Option.bind_eq_bind, Option.bind_eq_some_iff, Option.some.injEq,
    Prod.mk.injEq, Prod.exists] at parts
  obtain ⟨length, afterLength, first, sum, body, second, taken, remainder, third, _, rfl, rfl⟩ :=
    parts
  have one := take_little_shorter first
  have two := take_little_shorter second
  simp only [takeBytes] at third
  split at third
  · simp at third
    obtain ⟨rfl, rfl⟩ := third
    simp [headerSize]; omega
  · simp at third

theorem front_whole_shorter {bytes payload rest : List UInt8}
    (whole : front bytes = .whole payload rest) :
    headerSize + payload.length + rest.length = bytes.length := by
  simp only [front] at whole
  split at whole
  · simp at whole
  · next checksum taken remainder parts =>
      split at whole
      · simp at whole
        obtain ⟨rfl, rfl⟩ := whole
        exact split_shorter parts
      · split at whole <;> simp at whole

/-- What one frame of a file looks like, checked or not. -/
structure View where
  payload : List UInt8
  intact : Bool
  deriving DecidableEq, Repr

/-- The frames of a file one after the other, by their length words alone, and the bytes after the
last one. -/
def views (bytes : List UInt8) : List View × List UInt8 :=
  match _parts : split bytes with
  | none => ([], bytes)
  | some (checksum, payload, rest) =>
      let (following, remainder) := views rest
      (⟨payload, (crc32 payload).toNat = checksum⟩ :: following, remainder)
termination_by bytes.length
decreasing_by
  have := split_shorter _parts
  simp only [headerSize] at this
  omega

end BrokerTenancy.Frame
