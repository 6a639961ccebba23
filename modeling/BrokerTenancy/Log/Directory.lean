import BrokerTenancy.Disk.Basic
import BrokerTenancy.Log.File

/-!
Logs in the files of a directory, one file a log, named for it.
-/

namespace BrokerTenancy

/-- The outcome of an access to a disk. -/
def Disk.Access.outcome {Value : Type} (access : Disk.Access Value) : Outcome Value :=
  access.mapError .io

namespace FileLog

/-- The path of the file of a log in a directory. -/
def pathIn (directory name : String) : String := Path.join directory (name ++ ".log")

/-- The bytes of a log file; one that is not there has none. -/
def bytesAt (disk : Disk) (path : String) : Disk.Access (List UInt8) :=
  match disk.read path with
  | .error .fileMissing => .ok []
  | access => access

/-- Opens the log of a name in a directory, which is made if it is not there. What follows the last
whole frame is cut off from its file. -/
def openIn (disk : Disk) (directory name : String) : Outcome (FileLog × Disk) := do
  let disk ← (disk.makeDirectory directory).outcome
  let path := pathIn directory name
  let bytes ← (bytesAt disk path).outcome
  let log ← openOver name path bytes
  let disk ← (disk.write path log.bytes).outcome
  return (log, disk)

end FileLog

end BrokerTenancy
