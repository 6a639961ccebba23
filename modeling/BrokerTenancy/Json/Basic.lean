/-!
JSON texts as trees. A tree keeps what a reader may still want to refuse: the order and the
repetitions of the fields of an object, string literals that hold no Unicode text, and number
literals that no number stands for. A value that is skipped may contain all of these; a value that
is read may not.
-/

namespace BrokerTenancy

/-- A number literal's value: an integer where the literal is one and fits a 64-bit word, and
otherwise a binary floating-point number, given by its bits. -/
inductive Number where
  | natural (value : Nat)
  | negative (magnitude : Nat)
  | floating (bits : UInt64)
  deriving DecidableEq, Inhabited, Repr

/-- A JSON value as written. `none` marks a string literal that is no Unicode text, or a number
literal out of range. -/
inductive Json where
  | null
  | boolean (value : Bool)
  | number (value : Option Number)
  | string (text : Option String)
  | array (items : List Json)
  | object (fields : List (Option String × Json))
  deriving BEq, Inhabited, Repr

namespace Json

def ofNat (value : Nat) : Json := .number (some (.natural value))

def ofInt : Int → Json
  | .ofNat value => ofNat value
  | .negSucc value => .number (some (.negative (value + 1)))

def ofText (text : String) : Json := .string (some text)

/-- An object with the given fields, in the given order. -/
def record (fields : List (String × Json)) : Json :=
  .object (fields.map fun field => (some field.1, field.2))

/-- The value, or null. -/
def ofOption {Value : Type} (encode : Value → Json) : Option Value → Json
  | none => .null
  | some value => encode value

mutual

/-- How deeply arrays and objects nest; scalars have depth zero. -/
def depth : Json → Nat
  | .array items => depthOfItems items + 1
  | .object fields => depthOfFields fields + 1
  | _ => 0

def depthOfItems : List Json → Nat
  | [] => 0
  | item :: rest => max item.depth (depthOfItems rest)

def depthOfFields : List (Option String × Json) → Nat
  | [] => 0
  | (_, value) :: rest => max value.depth (depthOfFields rest)

end

end Json

end BrokerTenancy
