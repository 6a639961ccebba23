import BrokerTenancy.Json.Lexer

/-!
Reading a JSON text into a tree. The reader walks the tokens once, with the arrays and objects
that are still open on a stack, so nesting is bounded by memory alone.
-/

namespace BrokerTenancy.Json

/-- An array or object that is still open. Items and fields are held last one first. -/
inductive Frame where
  | array (items : List Json)
  | object (fields : List (Option String × Json))
  | member (fields : List (Option String × Json)) (key : Option String)

/-- What the reader expects next. -/
inductive Expected where
  | value
  | itemOrEnd
  | key
  | keyOrEnd
  | colon (key : Option String)
  | separator (finished : Json)

/-- Takes one token; the innermost open frame comes first. -/
def readStep (token : Token) (expected : Expected) (stack : List Frame) :
    Option (Expected × List Frame) :=
  match expected, token, stack with
  | .itemOrEnd, .closeArray, .array [] :: outer => some (.separator (.array []), outer)
  | .keyOrEnd, .closeObject, .object [] :: outer => some (.separator (.object []), outer)
  | .key, .string key, stack => some (.colon key, stack)
  | .keyOrEnd, .string key, stack => some (.colon key, stack)
  | .colon key, .colon, .object fields :: outer => some (.value, .member fields key :: outer)
  | .separator item, .comma, .array items :: outer => some (.value, .array (item :: items) :: outer)
  | .separator item, .closeArray, .array items :: outer =>
      some (.separator (.array (item :: items).reverse), outer)
  | .separator value, .comma, .member fields key :: outer =>
      some (.key, .object ((key, value) :: fields) :: outer)
  | .separator value, .closeObject, .member fields key :: outer =>
      some (.separator (.object ((key, value) :: fields).reverse), outer)
  | .separator _, _, _ => none
  | .key, _, _ => none
  | .keyOrEnd, _, _ => none
  | .colon _, _, _ => none
  | _, .openArray, stack => some (.itemOrEnd, .array [] :: stack)
  | _, .openObject, stack => some (.keyOrEnd, .object [] :: stack)
  | _, .null, stack => some (.separator .null, stack)
  | _, .boolean value, stack => some (.separator (.boolean value), stack)
  | _, .number value, stack => some (.separator (.number value), stack)
  | _, .string text, stack => some (.separator (.string text), stack)
  | _, _, _ => none

def readFrom (expected : Expected) (stack : List Frame) : List Token → Option Json
  | [] =>
      match expected, stack with
      | .separator finished, [] => some finished
      | _, _ => none
  | token :: rest => do
      let (next, frames) ← readStep token expected stack
      readFrom next frames rest

/-- The tree of a text that holds one JSON value and blanks around it. -/
def read (text : List UInt8) : Option Json := do
  let tokens ← tokensOf text
  readFrom .value [] tokens

end BrokerTenancy.Json
