import BrokerTenancy.Json.Basic
import BrokerTenancy.Number.Power
import BrokerTenancy.Sorted.Map

/-!
Typed values from JSON trees. A record is written as an object, whose unknown fields are ignored
and whose known fields may each stand once, or as the array of its fields in declaration order. A
choice is written as its name, or as an object with that name as only key and null as value.
-/

namespace BrokerTenancy.Json

def asText : Json → Option String
  | .string text => text
  | _ => none

def asBoolean : Json → Option Bool
  | .boolean value => some value
  | _ => none

/-- A natural number below a bound, written as an integer. -/
def asNatBelow (bound : Nat) : Json → Option Nat
  | .number (some (.natural value)) => if value < bound then some value else none
  | _ => none

def asWord (json : Json) : Option Nat := json.asNatBelow (twoPower 64)

def asList {Value : Type} (decode : Json → Option Value) : Json → Option (List Value)
  | .array items => items.mapM decode
  | _ => none

def asOptional {Value : Type} (decode : Json → Option Value) : Json → Option (Option Value)
  | .null => some none
  | json => some <$> decode json

/-- A map from texts to texts; of a repeated key the last value stays. -/
def asTextMap : Json → Option (SortedMap String String)
  | .object fields => do
      let entries ← fields.mapM fun field => do
        let key ← field.1
        let value ← field.2.asText
        some (key, value)
      some (.ofList entries)
  | _ => none

/-- The name of a choice. -/
def choiceName : Json → Option String
  | .string text => text
  | .object [(name, .null)] => name
  | _ => none

/-- A choice by its name, among the given ones. -/
def asChoice {Value : Type} (name : Value → String) (choices : List Value) (json : Json) :
    Option Value := do
  let given ← json.choiceName
  choices.find? fun choice => name choice == given

/-- The declared fields of a record that were given. -/
structure Record where
  positional : Bool
  given : List (String × Json)

def asRecord (names : List String) : Json → Option Record
  | .array items =>
      if items.length ≤ names.length then some { positional := true, given := names.zip items }
      else none
  | .object fields => do
      let named ← fields.mapM fun field => do
        let key ← field.1
        some (key, field.2)
      let given := named.filter fun field => names.contains field.1
      if (given.map (·.1)).Nodup then some { positional := false, given } else none
  | _ => none

namespace Record

variable {Value : Type}

/-- A field that has to be there. -/
def required (fields : Record) (name : String) (decode : Json → Option Value) : Option Value := do
  let json ← fields.given.lookup name
  decode json

/-- A field that may be left out. -/
def orElse (fields : Record) (name : String) (default : Value) (decode : Json → Option Value) :
    Option Value :=
  match fields.given.lookup name with
  | none => some default
  | some json => decode json

/-- A field that may be null, and may be left out of an object but not of an array. -/
def nullable (fields : Record) (name : String) (decode : Json → Option Value) :
    Option (Option Value) :=
  match fields.given.lookup name with
  | none => if fields.positional then none else some none
  | some json => json.asOptional decode

end Record

/-- How deeply a tree may nest and still be read as a value. -/
def nestingLimit : Nat := 127

mutual

/-- The value of a tree: no unreadable text or number in it, the fields of each object in key
order, and of a repeated key the last value. -/
def settled : Json → Option Json
  | .null => some .null
  | .boolean value => some (.boolean value)
  | .number value => do
      let value ← value
      some (.number (some value))
  | .string text => do
      let text ← text
      some (.string (some text))
  | .array items => do
      let items ← settledItems items
      some (.array items)
  | .object fields => do
      let entries ← settledFields fields
      some (.record (SortedMap.ofList entries).toList)

def settledItems : List Json → Option (List Json)
  | [] => some []
  | item :: rest => do
      let item ← item.settled
      let rest ← settledItems rest
      some (item :: rest)

def settledFields : List (Option String × Json) → Option (List (String × Json))
  | [] => some []
  | (key, value) :: rest => do
      let key ← key
      let value ← value.settled
      let rest ← settledFields rest
      some ((key, value) :: rest)

end

/-- Whether two numbers are equal: both integers or both floating-point numbers, and then zero
equals zero whatever its sign. -/
def equalNumbers : Number → Number → Bool
  | .floating left, .floating right => Float.ofBits left == Float.ofBits right
  | left, right => left == right

mutual

/-- Whether two trees agree in shape and in all their scalars. -/
def agrees : Json → Json → Bool
  | .number (some left), .number (some right) => equalNumbers left right
  | .array left, .array right => itemsAgree left right
  | .object left, .object right => fieldsAgree left right
  | left, right => left == right

def itemsAgree : List Json → List Json → Bool
  | [], [] => true
  | left :: leftRest, right :: rightRest => left.agrees right && itemsAgree leftRest rightRest
  | _, _ => false

def fieldsAgree : List (Option String × Json) → List (Option String × Json) → Bool
  | [], [] => true
  | (leftKey, left) :: leftRest, (rightKey, right) :: rightRest =>
      leftKey == rightKey && left.agrees right && fieldsAgree leftRest rightRest
  | _, _ => false

end

/-- Whether two trees have one value, so that neither the order of fields nor a value that a later
one replaces counts. -/
def sameValue (left right : Json) : Bool :=
  match left.settled, right.settled with
  | some left, some right => left.agrees right
  | _, _ => false

/-- Reads any value within the nesting limit. -/
def asValue (json : Json) : Option Json :=
  if json.depth ≤ nestingLimit then json.settled else none

/-- An object of texts. -/
def ofTextMap (map : SortedMap String String) : Json :=
  .record (map.toList.map fun entry => (entry.1, ofText entry.2))

end BrokerTenancy.Json
