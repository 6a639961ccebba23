import BrokerTenancy.Fault

/-!
A connection to a server as its client sees it: bytes that have arrived and are not read yet, and
whether more may come. What the server does is not known beforehand; a client can only meet it.
-/

namespace BrokerTenancy.Wire

/-- What follows the bytes that have arrived: perhaps more, nothing, or a failure. -/
inductive Outlook where
  | flowing
  | ended
  | broken (cause : SystemFault)
  deriving DecidableEq, Repr

/-- A connection. Every connection of a client has a number of its own. -/
structure Link where
  number : Nat
  unread : List UInt8 := []
  outlook : Outlook := .flowing
  deriving Repr

/-- What arrives on a connection after a request was sent on it. -/
structure Delivery where
  bytes : List UInt8
  outlook : Outlook
  deriving Repr

/-- What becomes of an attempt to connect. -/
inductive Dial where
  | accepted
  | refused (cause : SystemFault)
  | silent
  deriving Repr

/-- What becomes of a request that is written on a connection. -/
inductive Intake where
  | whole
  | broken (cause : SystemFault)
  /-- The connection takes no more bytes. -/
  | stalled
  deriving Repr

/-- The far side: how its servers take a connection, and on the connection of a number how a request
is taken and what arrives after it. -/
structure Peer where
  dial : String → Dial
  deliver : Nat → List UInt8 → Delivery
  takes : Nat → List UInt8 → Intake := fun _ _ => .whole

/-- A step towards an answer. One that waits comes to no end unless something else arrives. -/
inductive Progress (Value : Type) where
  | done (value : Value)
  | failed (fault : BrokerFault)
  | waiting

namespace Progress

def andThen {First Second : Type} (first : Progress First) (next : First → Progress Second) :
    Progress Second :=
  match first with
  | .done value => next value
  | .failed fault => .failed fault
  | .waiting => .waiting

instance : Monad Progress where
  pure := .done
  bind := andThen

/-- A value that has to be there. -/
def require {Value : Type} (fault : BrokerFault) : Option Value → Progress Value
  | some value => .done value
  | none => .failed fault

end Progress

namespace Link

/-- Takes note of what has arrived. After its end nothing arrives on a connection. -/
def receive (link : Link) (delivery : Delivery) : Link :=
  match link.outlook with
  | .flowing =>
      { link with unread := link.unread ++ delivery.bytes, outlook := delivery.outlook }
  | _ => link

/-- Reads exactly so many bytes; `atEnd` is the failure if the connection ends before. -/
def read (link : Link) (count : Nat) (atEnd : SystemFault) : Progress (List UInt8 × Link) :=
  if count ≤ link.unread.length then
    .done (link.unread.take count, { link with unread := link.unread.drop count })
  else match link.outlook with
    | .flowing => .waiting
    | .ended => .failed (.system atEnd)
    | .broken cause => .failed (.system cause)

end Link

end BrokerTenancy.Wire
