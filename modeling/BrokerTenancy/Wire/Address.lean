import BrokerTenancy.Fault
import BrokerTenancy.Number.Power
import BrokerTenancy.Text.Blank

/-!
Addresses of servers, as a list in one text, and each as a host and a number.
-/

namespace BrokerTenancy.Wire

/-- The servers of a list with commas between them; blanks around a server do not count, nor does a
server without a name. -/
def serversOf (list : String) : List String :=
  (splitAtCommas list.toList).filterMap fun part =>
    let name := trim part
    if name.isEmpty then none else some (String.ofList name)
where
  splitAtCommas : List Char → List (List Char)
    | [] => [[]]
    | character :: rest =>
        match splitAtCommas rest with
        | [] => [[character]]
        | part :: parts =>
            if character = ',' then [] :: part :: parts else (character :: part) :: parts

def splitAtLastColon (address : String) : Option (List Char × List Char) :=
  match address.toList.reverse.span (· != ':') with
  | (_, []) => none
  | (number, _ :: host) => some (host.reverse, number.reverse)

/-- The number, of sixteen bits, that digits after a plus sign or none stand for. -/
def serviceNumber (characters : List Char) : Option Nat :=
  let digits := match characters with
    | '+' :: rest => rest
    | characters => characters
  if digits.isEmpty ∨ !digits.all Char.isDigit then none
  else
    let number := digits.foldl (fun value digit => value * 10 + (digit.toNat - 48)) 0
    if number < twoPower 16 then some number else none

/-- Why a text is no address: it needs a host, a colon and a number. -/
def addressFault (address : String) : Option SystemFault :=
  match splitAtLastColon address with
  | none => some .invalidAddress
  | some (_, number) => if (serviceNumber number).isSome then none else some .invalidPort

end BrokerTenancy.Wire
