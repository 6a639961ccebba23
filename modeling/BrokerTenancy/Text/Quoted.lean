import BrokerTenancy.Text.Hidden

/-!
Texts between double quotes, with escapes for quotes, backslashes, line ends and every character
that does not show as itself.
-/

namespace BrokerTenancy

/-- The hexadecimal digits of a number. -/
def hexDigitsOf (value : Nat) : List Char := Nat.toDigits 16 value

/-- A character as it stands between quotes. -/
def quotedCharacter (character : Char) : List Char :=
  if character = '"' then ['\\', '"']
  else if character = '\\' then ['\\', '\\']
  else if character = '\n' then ['\\', 'n']
  else if character = '\r' then ['\\', 'r']
  else if character = '\t' then ['\\', 't']
  else if character = '\x00' then ['\\', '0']
  else if isHidden character then
    ['\\', 'u', '\x7b'] ++ hexDigitsOf character.toNat ++ ['\x7d']
  else [character]

def quoted (text : String) : String :=
  "\"" ++ String.ofList (text.toList.flatMap quotedCharacter) ++ "\""

/-- Texts in brackets, each between quotes. -/
def quotedList (texts : List String) : String :=
  "[" ++ ", ".intercalate (texts.map quoted) ++ "]"

end BrokerTenancy
