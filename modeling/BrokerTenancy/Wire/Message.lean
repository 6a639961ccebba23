import BrokerTenancy.Broker.Call
import BrokerTenancy.Number.Power
import BrokerTenancy.Wire.Binding

/-!
Messages of the admin protocol, in its version 1: a request names its kind of call, and it carries
a number, the correlation, that the response repeats.
-/

namespace BrokerTenancy

/-- The number of a kind of call in the protocol. -/
def AdminCall.key : AdminCall → Nat
  | .describe _ => 29
  | .create _ => 30
  | .delete _ => 31

namespace Wire

def version : Nat := 1

/-- The name that a client gives in its requests. -/
def clientName : String := "nsplane-controller"

/-- The bits of a correlation as the number that is written. -/
def correlationOf (count : Nat) : Int := intOfWord 4 (count % twoPower 32)

def writeHeader (key : Nat) (correlation : Int) : Option (List UInt8) := do
  let name ← writeText clientName
  some (writeInteger 2 key ++ writeInteger 2 version ++ writeInteger 4 correlation ++ name)

def writeCall : AdminCall → Option (List UInt8)
  | .describe filter => writeFilter filter
  | .create bindings => writeList writeBinding bindings
  | .delete filters => writeList writeFilter filters

/-- Writes a request; a call with a text that is too long cannot be written. -/
def writeRequest (correlation : Int) (call : AdminCall) : Option (List UInt8) := do
  let header ← writeHeader call.key correlation
  let body ← writeCall call
  some (header ++ body)

/-- A message with its length in front. -/
def framed (message : List UInt8) : List UInt8 := writeInteger 4 message.length ++ message

/-- What a broker says about an item or a call: a code, which is zero for success, and a text. -/
structure Verdict where
  code : Int
  text : Option String
  deriving DecidableEq, Repr

namespace Verdict

def isSuccess (verdict : Verdict) : Bool := verdict.code == 0

def read (bytes : List UInt8) : Option (Verdict × List UInt8) := do
  let (code, rest) ← readInteger 2 bytes
  let (text, rest) ← readOptionalText rest
  some ({ code, text }, rest)

end Verdict

/-- What a broker has to say about a described call. -/
structure Description where
  verdict : Verdict
  bindings : List Binding
  deriving DecidableEq, Repr

/-- What a broker says about a filter, and about each binding that matched it. A binding whose
codes are unknown stands as none. -/
structure Removal where
  verdict : Verdict
  matched : List (Verdict × Option Binding)
  deriving DecidableEq, Repr

/-- Skips the time that a broker asks its client to wait, which stands first in every response. -/
def skipThrottle (bytes : List UInt8) : Option (List UInt8) := do
  let (_, rest) ← readInteger 4 bytes
  some rest

/-- Reads the bindings on one resource; those with unknown codes are left out. -/
def readDescribed (bytes : List UInt8) : Option (List Binding × List UInt8) := do
  let (resource, rest) ← readResource bytes
  let (bindings, rest) ← readList (readGrant resource) rest
  some (bindings.filterMap id, rest)

def readDescription (bytes : List UInt8) : Option Description := do
  let rest ← skipThrottle bytes
  let (verdict, rest) ← Verdict.read rest
  let (resources, _) ← readList readDescribed rest
  some { verdict, bindings := resources.flatten }

def readVerdicts (bytes : List UInt8) : Option (List Verdict) := do
  let rest ← skipThrottle bytes
  let (verdicts, _) ← readList Verdict.read rest
  some verdicts

def readMatched (bytes : List UInt8) : Option ((Verdict × Option Binding) × List UInt8) := do
  let (verdict, rest) ← Verdict.read bytes
  let (binding, rest) ← readBinding rest
  some ((verdict, binding), rest)

def readRemoval (bytes : List UInt8) : Option (Removal × List UInt8) := do
  let (verdict, rest) ← Verdict.read bytes
  let (matched, rest) ← readList readMatched rest
  some ({ verdict, matched }, rest)

def readRemovals (bytes : List UInt8) : Option (List Removal) := do
  let rest ← skipThrottle bytes
  let (removals, _) ← readList readRemoval rest
  some removals

/-- Gives every item the result at its own position, if there is one. -/
def pairUp {Item Result Value : Type} (judge : Item → Option Result → Outcome Value) :
    List Item → List Result → List (Item × Outcome Value)
  | [], _ => []
  | item :: items, results => (item, judge item results.head?) :: pairUp judge items results.tail

/-- The fault of an item that a broker did not do. -/
def rejection (shown : String) (verdict : Verdict) : Fault :=
  .item shown (.rejectedWith verdict.code verdict.text)

def judgeCreation (binding : Binding) : Option Verdict → Outcome Unit
  | none => .error (.item binding.shown .noResult)
  | some verdict =>
      if verdict.isSuccess then .ok () else .error (rejection binding.shown verdict)

/-- A filter fails as a whole if one of the bindings that matched it does. -/
def judgeRemoval (filter : BindingFilter) : Option Removal → Outcome (List Binding)
  | none => .error (.item filter.shown .noResult)
  | some removal =>
      if !removal.verdict.isSuccess then .error (rejection filter.shown removal.verdict)
      else match removal.matched.find? fun matched => !matched.1.isSuccess with
        | some failed => .error (rejection filter.shown failed.1)
        | none => .ok (removal.matched.filterMap (·.2))

def judgeDescription (cluster : String) (description : Description) : Outcome (List Binding) :=
  if description.verdict.isSuccess then .ok description.bindings
  else
    .error (.brokerUnavailable cluster
      (.describeRejected description.verdict.code description.verdict.text))

/-- Reads the body of the response to a call. -/
def readAnswer (cluster : String) (call : AdminCall) (body : List UInt8) : Option AdminAnswer :=
  match call with
  | .describe _ =>
      (readDescription body).map fun description =>
        .described (judgeDescription cluster description)
  | .create bindings =>
      (readVerdicts body).map fun verdicts =>
        .created (.ok (pairUp judgeCreation bindings verdicts))
  | .delete filters =>
      (readRemovals body).map fun removals =>
        .deleted (.ok (pairUp judgeRemoval filters removals))

end Wire

end BrokerTenancy
