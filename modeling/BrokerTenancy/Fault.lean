import BrokerTenancy.Acl.Binding

/-!
What can go wrong, by cause. Each cause has one text, and only `Fault.message` words the whole
fault. The causes named `other` carry a text that some outside party gave.
-/

namespace BrokerTenancy

/-- Failures of files and connections. -/
inductive SystemFault where
  | fileMissing
  | alreadyThere
  | notDirectory
  | isDirectory
  | nameTooLong
  | zeroCharacter
  | fileTooLarge
  | connectionRefused
  | networkUnreachable
  | notText
  | unexpectedEnd
  | earlyEnd
  | invalidAddress
  | invalidPort
  | other (text : String)
  deriving DecidableEq, Inhabited, Repr

def SystemFault.message : SystemFault → String
  | .fileMissing => "No such file or directory (os error 2)"
  | .alreadyThere => "File exists (os error 17)"
  | .notDirectory => "Not a directory (os error 20)"
  | .isDirectory => "Is a directory (os error 21)"
  | .nameTooLong => "File name too long (os error 36)"
  | .zeroCharacter => "file name contained an unexpected NUL byte"
  | .fileTooLarge => "File too large (os error 27)"
  | .connectionRefused => "Connection refused (os error 111)"
  | .networkUnreachable => "Network is unreachable (os error 101)"
  | .notText => "stream did not contain valid UTF-8"
  | .unexpectedEnd => "unexpected end of file"
  | .earlyEnd => "early eof"
  | .invalidAddress => "invalid socket address"
  | .invalidPort => "invalid port value"
  | .other text => text

/-- Data that cannot be read. -/
inductive DataFault where
  | malformed
  | checksumMismatch (path : String) (position : Nat)
  | offsetGap (offset : Nat) (path : String) (expected : Nat)
  | other (text : String)
  deriving DecidableEq, Inhabited, Repr

def DataFault.message : DataFault → String
  | .malformed => "Serialization error"
  | .checksumMismatch path position =>
      "Serialization error: checksum mismatch in " ++ path ++ " at byte " ++ toString position
  | .offsetGap offset path expected =>
      "Serialization error: non-contiguous offset " ++ toString offset ++ " in " ++ path ++
        " (expected " ++ toString expected ++ ")"
  | .other text => "Serialization error: " ++ text

/-- Settings that cannot be read. -/
inductive SettingsFault where
  | unreadable
  /-- A setting is for a place that no list has. -/
  | misplaced
  | other (text : String)
  deriving DecidableEq, Inhabited, Repr

def SettingsFault.message : SettingsFault → String
  | .unreadable => "Configuration error"
  | .misplaced => "Configuration error: no such place in a list"
  | .other text => "Configuration error: " ++ text

/-- Settings that can be read but not used. -/
inductive InvalidSetting where
  | empty (setting : String)
  | zero (setting : String)
  | emptyDataDirectory
  | repeatedCluster (name : String)
  | other (text : String)
  deriving DecidableEq, Inhabited, Repr

def InvalidSetting.message : InvalidSetting → String
  | .empty setting => setting ++ " cannot be empty"
  | .zero setting => setting ++ " must be greater than 0"
  | .emptyDataDirectory => "store.data_dir cannot be empty with the file backend"
  | .repeatedCluster name => "clusters." ++ name ++ " is declared more than once"
  | .other text => text

/-- Why a write to a store failed. -/
inductive WriteFault where
  | logUnavailable
  | appendTimedOut
  | notApplied (offset milliseconds : Nat)
  | appendFailed (offset : Nat) (cause : SystemFault)
  /-- A failed append could not be taken back. -/
  | readOnly (rollback cause : SystemFault)
  | other (text : String)
  deriving DecidableEq, Inhabited, Repr

def WriteFault.message : WriteFault → String
  | .logUnavailable => "log unavailable"
  | .appendTimedOut => "append timed out"
  | .notApplied offset milliseconds =>
      "offset " ++ toString offset ++ " not applied within " ++ toString milliseconds ++ "ms"
  | .appendFailed offset cause =>
      "append at offset " ++ toString offset ++ " failed: " ++ cause.message
  | .readOnly rollback cause =>
      "log is read-only after a failed rollback: " ++ rollback.message ++ " (after: " ++
        cause.message ++ ")"
  | .other text => text

/-- Why a store stopped serving. -/
inductive StopCause where
  | shutDown
  | unexpectedOffset (expected delivered : Nat)
  | undecodable (key : String) (offset : Nat)
  | other (text : String)
  deriving DecidableEq, Inhabited, Repr

def StopCause.message : StopCause → String
  | .shutDown => "store shut down"
  | .unexpectedOffset expected delivered =>
      "expected offset " ++ toString expected ++ " but log delivered " ++ toString delivered
  | .undecodable key offset =>
      "cannot decode record " ++ key ++ " at offset " ++ toString offset
  | .other text => text

/-- The code a broker answers with, and its text if it gave one. -/
def codeMessage (code : Int) (text : Option String) : String :=
  "error code " ++ toString code ++ (text.elim "" (": " ++ ·))

/-- Why a broker could not be asked. -/
inductive BrokerFault where
  | disconnected
  | unreachable (server : String) (cause : SystemFault)
  | system (cause : SystemFault)
  /-- A request that cannot be written, with what its encoder says, if that is known. -/
  | requestNotEncodable (detail : Option String := none)
  | headerNotDecodable
  | responseNotDecodable
  | responseSize (size : Int)
  | correlation (sent received : Int)
  | describeRejected (code : Int) (text : Option String)
  | other (text : String)
  deriving DecidableEq, Inhabited, Repr

def BrokerFault.message : BrokerFault → String
  | .disconnected => "admin client disconnected"
  | .unreachable server cause => server ++ ": " ++ cause.message
  | .system cause => cause.message
  | .requestNotEncodable detail => "cannot encode request" ++ (detail.elim "" (": " ++ ·))
  | .headerNotDecodable => "cannot decode response header"
  | .responseNotDecodable => "cannot decode response"
  | .responseSize size => "invalid response size " ++ toString size
  | .correlation sent received =>
      "correlation id mismatch: sent " ++ toString sent ++ ", received " ++ toString received
  | .describeRejected code text => "DescribeAcls rejected: " ++ codeMessage code text
  | .other text => text

/-- Why a broker did not do one item of a call. -/
inductive ItemFault where
  | refused
  | rejectedWith (code : Int) (text : Option String)
  | noResult
  | other (text : String)
  deriving DecidableEq, Inhabited, Repr

def ItemFault.message : ItemFault → String
  | .refused => "rejected by broker"
  | .rejectedWith code text => codeMessage code text
  | .noResult => "no result returned by the broker"
  | .other text => text

/-- Requests that make no sense. -/
inductive InvariantFault where
  | connectHasNoResource
  | ownerUnsupported (resourceType : ResourceType)
  | other (text : String)
  deriving DecidableEq, Inhabited, Repr

def InvariantFault.message : InvariantFault → String
  | .connectHasNoResource => "CONNECT entries have no direct broker resource"
  | .ownerUnsupported resourceType =>
      "OWNER is not supported on resource type " ++ resourceType.name
  | .other text => text

/-- Things that are not there. -/
inductive Missing where
  | managedCluster (name : String)
  | other (text : String)
  deriving DecidableEq, Inhabited, Repr

def Missing.message : Missing → String
  | .managedCluster name => "managed cluster " ++ name
  | .other text => text

/-- A failure of an operation as a whole, or of one item of it. -/
inductive Fault where
  | io (cause : SystemFault)
  | data (cause : DataFault)
  | settings (cause : SettingsFault)
  | invalidSetting (cause : InvalidSetting)
  | write (store : String) (cause : WriteFault)
  | stopped (store : String) (cause : StopCause)
  | notReady (store : String)
  | brokerTimeout (cluster : String) (milliseconds : Nat)
  | brokerUnavailable (cluster : String) (cause : BrokerFault)
  | item (shown : String) (cause : ItemFault)
  | invariant (cause : InvariantFault)
  | notFound (subject : Missing)
  | metrics (text : String)
  deriving DecidableEq, Inhabited, Repr

namespace Fault

def message : Fault → String
  | .io cause => "IO error: " ++ cause.message
  | .data cause => cause.message
  | .settings cause => cause.message
  | .invalidSetting cause => "Invalid configuration: " ++ cause.message
  | .write store cause => "Store write error on " ++ store ++ ": " ++ cause.message
  | .stopped store cause => "Store " ++ store ++ " stopped serving: " ++ cause.message
  | .notReady store => "Store " ++ store ++ " is not ready"
  | .brokerTimeout cluster milliseconds =>
      "Broker admin call timed out on cluster " ++ cluster ++ " after " ++
        toString milliseconds ++ "ms"
  | .brokerUnavailable cluster cause =>
      "Broker unavailable on cluster " ++ cluster ++ ": " ++ cause.message
  | .item shown cause => "ACL operation failed for " ++ shown ++ ": " ++ cause.message
  | .invariant cause => "Invariant violation: " ++ cause.message
  | .notFound subject => "Not found: " ++ subject.message
  | .metrics text => "Metrics error: " ++ text

def kindName : Fault → String
  | .io _ => "Io"
  | .data _ => "Serialization"
  | .settings _ => "Config"
  | .invalidSetting _ => "InvalidConfig"
  | .write _ _ => "StoreWrite"
  | .stopped _ _ => "StoreFatal"
  | .notReady _ => "StoreNotReady"
  | .brokerTimeout _ _ => "BrokerTimeout"
  | .brokerUnavailable _ _ => "BrokerUnavailable"
  | .item _ _ => "BindingOperation"
  | .invariant _ => "InvariantViolation"
  | .notFound _ => "NotFound"
  | .metrics _ => "Metrics"

/-- A store lost its place in the log; the process should start again. -/
def isFatal : Fault → Bool
  | .stopped _ _ => true
  | _ => false

/-- The next cycle may heal it. -/
def isRetryable : Fault → Bool
  | .brokerTimeout _ _ | .brokerUnavailable _ _ | .item _ _ => true
  | _ => false

end Fault

/-- The outcome of an operation that can fail. -/
abbrev Outcome (Value : Type) := Except Fault Value

instance {Value : Type} [DecidableEq Value] : DecidableEq (Outcome Value)
  | .ok left, .ok right => decidable_of_iff (left = right) (by simp)
  | .error left, .error right => decidable_of_iff (left = right) (by simp)
  | .ok _, .error _ => .isFalse (by simp)
  | .error _, .ok _ => .isFalse (by simp)

end BrokerTenancy
