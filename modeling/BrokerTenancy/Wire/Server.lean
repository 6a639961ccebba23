import BrokerTenancy.Broker.Basic
import BrokerTenancy.Wire.Client

/-!
A broker at the far end of the admin protocol: it reads requests, does what they ask with the
bindings it keeps, item by item, and answers each with the correlation of the request.
-/

namespace BrokerTenancy.Wire

/-- Reads a request with its correlation. A broker knows every choice that it is sent. -/
def readRequest (bytes : List UInt8) : Option (Int × AdminCall) := do
  let (key, rest) ← readInteger 2 bytes
  let (_, rest) ← readInteger 2 rest
  let (correlation, rest) ← readInteger 4 rest
  let (_, rest) ← readOptionalText rest
  if key = 29 then
    let (filter, _) ← readFilter rest
    some (correlation, .describe filter)
  else if key = 30 then
    let (bindings, _) ← readList readBinding rest
    let bindings ← bindings.mapM id
    some (correlation, .create bindings)
  else if key = 31 then
    let (filters, _) ← readList readFilter rest
    some (correlation, .delete filters)
  else none

namespace Verdict

def success : Verdict := { code := 0, text := none }

/-- The verdict on an item that the broker refuses. -/
def refusal : Verdict := { code := 44, text := none }

def ofOutcome {Value : Type} : Outcome Value → Verdict
  | .ok _ => success
  | .error _ => refusal

def write (verdict : Verdict) : Option (List UInt8) := do
  let text ← writeOptionalText verdict.text
  some (writeInteger 2 verdict.code ++ text)

end Verdict

/-- Writes a binding as a resource with one grant. -/
def writeDescribed (binding : Binding) : Option (List UInt8) := do
  let resource ← writeResource binding
  let grants ← writeList writeGrant [binding]
  some (resource ++ grants)

def writeMatched (binding : Binding) : Option (List UInt8) := do
  let verdict ← Verdict.success.write
  let fields ← writeBinding binding
  some (verdict ++ fields)

def writeRemoval (deletion : Deletion) : Option (List UInt8) := do
  let verdict ← (Verdict.ofOutcome deletion.2).write
  let matched ← writeList writeMatched (deletion.2.toOption.getD [])
  some (verdict ++ matched)

/-- Writes what a response says after the time to wait, which is none. -/
def writeResults : AdminAnswer → Option (List UInt8)
  | .described (.ok bindings) => do
      let verdict ← Verdict.success.write
      let resources ← writeList writeDescribed bindings
      some (verdict ++ resources)
  | .created (.ok creations) =>
      writeList (fun creation : Creation => (Verdict.ofOutcome creation.2).write) creations
  | .deleted (.ok deletions) => writeList writeRemoval deletions
  | _ => none

/-- Writes a response with its length in front. A broker has no response to a call that fails as a
whole. -/
def writeResponse (correlation : Int) (answer : AdminAnswer) : Option (List UInt8) := do
  let results ← writeResults answer
  some (framed (writeInteger 4 correlation ++ writeInteger 4 0 ++ results))

/-- Serves a request. One that cannot be read is not answered. -/
def serve (broker : Broker) (request : List UInt8) : Broker × Option (List UInt8) :=
  match readRequest request with
  | none => (broker, none)
  | some (correlation, call) =>
      let (broker, answer) := broker.perform call
      (broker, writeResponse correlation answer)

/-- A far side that is one broker: it accepts connections, and ends one on which it does not
answer. -/
def peerOf (broker : Broker) : Peer where
  dial _ := .accepted
  deliver _ request :=
    match (serve broker request).2 with
    | some response => { bytes := response, outlook := .flowing }
    | none => { bytes := [], outlook := .ended }

end BrokerTenancy.Wire
