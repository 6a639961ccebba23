import BrokerTenancy.Log.Recovery

/-!
A log in an append-only file. Opening reads the file back and cuts off what follows the last whole
frame. An append writes one frame at the end; if the write fails, however much of the frame reached
the file, the file is cut back to where it was. A record counts only once its frame is written. If
the file cannot be cut back either, the log takes no more appends, so nothing is ever written behind
an unfinished frame.
-/

namespace BrokerTenancy

/-- A log file that is open: its bytes, and the records of its frames. -/
structure FileLog where
  name : String
  path : String
  bytes : List UInt8
  validLength : Nat
  records : List Record
  /-- Why the log takes no more appends: the fault of a roll-back, and the fault it was for. -/
  readOnly : Option (SystemFault × SystemFault) := none
  deriving DecidableEq, Inhabited

/-- How a write of a frame ends. -/
inductive Attempt where
  | complete
  /-- Some of the frame may have reached the file. -/
  | broken (written : Nat) (cause : SystemFault)
  /-- Nor can what reached the file be cut off again. -/
  | stuck (written : Nat) (cause rollback : SystemFault)
  deriving DecidableEq, Repr

namespace FileLog

/-- Opens a log over the bytes of its file; a file that is not there has none. -/
def openOver (name path : String) (bytes : List UInt8) : Outcome FileLog := do
  let recovered ← recoverLog path bytes
  return {
    name, path
    bytes := bytes.take recovered.validLength
    validLength := recovered.validLength
    records := recovered.records }

/-- The offset that the next record gets. -/
def highWatermark (log : FileLog) : Nat := log.records.length

/-- The earliest offset that can be read. -/
def lowWatermark (_ : FileLog) : Nat := 0

/-- The record that the next append writes. -/
def nextRecord (log : FileLog) (key : String) (value : Option (List UInt8)) (timestamp : Int) :
    Record :=
  { offset := log.records.length, key, value, timestamp }

/-- The bytes of the file once some of a frame is at its end. -/
def reached (log : FileLog) (record : Record) (written : Nat) : List UInt8 :=
  log.bytes ++ (Frame.encode record).take written

/-- Puts a frame at the end, as far as the attempt goes, and cuts a failed one off again. -/
def write (log : FileLog) (record : Record) : Attempt → FileLog × Outcome Nat
  | .complete =>
      let bytes := log.bytes ++ Frame.encode record
      ({ log with
          bytes
          validLength := bytes.length
          records := log.records ++ [record] }, .ok record.offset)
  | .broken written cause =>
      ({ log with bytes := (log.reached record written).take log.validLength },
        .error (.write log.name (.appendFailed record.offset cause)))
  | .stuck written cause rollback =>
      ({ log with
          bytes := log.reached record written
          readOnly := some (rollback, cause) },
        .error (.write log.name (.appendFailed record.offset cause)))

/-- Appends a record, unless an earlier failure could not be taken back. -/
def append (log : FileLog) (key : String) (value : Option (List UInt8)) (timestamp : Int)
    (attempt : Attempt) : FileLog × Outcome Nat :=
  match log.readOnly with
  | some (rollback, cause) => (log, .error (.write log.name (.readOnly rollback cause)))
  | none => log.write (log.nextRecord key value timestamp) attempt

/-- The attempt to write so many bytes to a file that may not grow past a limit. -/
def attemptWithin (log : FileLog) (limit : Option Nat) (size : Nat) : Attempt :=
  match limit with
  | none => .complete
  | some limit =>
      if log.bytes.length + size ≤ limit then .complete
      else .broken (limit - log.bytes.length) .fileTooLarge

/-- Appends a record to a file that may not grow past a limit. -/
def appendWithin (log : FileLog) (limit : Option Nat) (key : String)
    (value : Option (List UInt8)) (timestamp : Int) : FileLog × Outcome Nat :=
  let size := (Frame.encode (log.nextRecord key value timestamp)).length
  log.append key value timestamp (log.attemptWithin limit size)

/-- The records from an offset on, at most `limit` of them. -/
def read (log : FileLog) (offset limit : Nat) : List Record := Record.slice log.records offset limit

end FileLog

end BrokerTenancy
