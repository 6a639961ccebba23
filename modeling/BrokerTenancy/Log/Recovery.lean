import BrokerTenancy.Fault
import BrokerTenancy.Log.Frame

/-!
Reading a log file back. The records of the whole frames at the front are taken; what the last
write left unfinished at the end is not an error and is not taken. Damage in front of other data, a
payload that is no record, and an offset that is not the place of its record are errors.
-/

namespace BrokerTenancy

/-- The records of a log file, and how many bytes their frames take. -/
structure Recovered where
  records : List Record
  validLength : Nat
  deriving DecidableEq, Repr

/-- Reads the frames of `bytes`, which stand at byte `position` of the file and hold the records
from number `count` on. -/
def recoverFrom (path : String) (bytes : List UInt8) (position count : Nat) : Outcome Recovered :=
  match _front : Frame.front bytes with
  | .torn => .ok { records := [], validLength := position }
  | .damaged => .error (.data (.checksumMismatch path position))
  | .whole payload rest =>
      match Record.decode payload with
      | none => .error (.data .malformed)
      | some (record, _) =>
          if record.offset ≠ count then
            .error (.data (.offsetGap record.offset path count))
          else do
            let following ← recoverFrom path rest (position + Frame.headerSize + payload.length)
              (count + 1)
            return { following with records := record :: following.records }
termination_by bytes.length
decreasing_by
  have := Frame.front_whole_shorter _front
  simp only [Frame.headerSize] at this
  omega

def recoverLog (path : String) (bytes : List UInt8) : Outcome Recovered :=
  recoverFrom path bytes 0 0

end BrokerTenancy
