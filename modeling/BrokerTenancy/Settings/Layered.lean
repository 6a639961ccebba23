import BrokerTenancy.Bytes.Utf8
import BrokerTenancy.Number.Power
import BrokerTenancy.Number.Shortest
import BrokerTenancy.Settings.Decoder
import BrokerTenancy.Settings.Toml
import BrokerTenancy.Settings.Variables
import BrokerTenancy.Toml.Reader

/-!
Settings from a file, strictly, or from a file and environment variables over it. In layers every
scalar is taken for the kind of its field where it can be.
-/

namespace BrokerTenancy

namespace Setting

def asText : Setting → Option String
  | .text value => some value
  | .integer value => some (toString value)
  | .floating value => some (Shortest.positional value)
  | .boolean value => some (if value then "true" else "false")
  | _ => none

/-- A word for yes or no, in either case. -/
def answerOf (text : String) : Option Bool :=
  let lowered := String.ofList (text.toList.map Char.toLower)
  if ["true", "on", "yes"].contains lowered then some true
  else if ["false", "off", "no"].contains lowered then some false
  else none

/-- A 64-bit word in decimal digits, after a plus sign or none. -/
def wordOf (text : String) : Option Nat :=
  let digits := match text.toList with
    | '+' :: rest => rest
    | characters => characters
  if digits.isEmpty ∨ !digits.all Char.isDigit then none
  else
    let value := digits.foldl (fun value digit => value * 10 + (digit.toNat - 48)) 0
    if value < twoPower 64 then some value else none

/-- A scalar as a 64-bit word. A floating-point number is rounded, a half away from zero, and
brought into range; yes counts as one. -/
def asWord : Setting → Option Nat
  | .text value =>
      match answerOf value with
      | some answer => some answer.toNat
      | none => wordOf value
  | .integer (.ofNat value) => some value
  | .floating value => some value.round.toUInt64.toNat
  | .boolean value => some value.toNat
  | _ => none

/-- A scalar as a truth value. A number is true unless it is zero. -/
def asBoolean : Setting → Option Bool
  | .text value =>
      if value = "1" then some true
      else if value = "0" then some false
      else answerOf value
  | .integer value => some (value != 0)
  | .floating value => some (value != 0.0)
  | .boolean value => some value
  | _ => none

/-- A backend by its name in either case, alone or over anything. -/
def asBackend : Setting → Option StoreBackend
  | .text name => named name
  | .group [(name, _)] => named name
  | _ => none
where
  named (name : String) : Option StoreBackend :=
    StoreBackend.all.find? (·.name == lowerName name)

def isAbsent : Setting → Bool
  | .absent => true
  | _ => false

def asItems : Setting → Option (List Setting)
  | .list items => some items
  | _ => none

/-- Fields are the entries of a group, or the items of a list in the order of the names. -/
def asFields (names : List String) : Setting → Option (List (String × Setting))
  | .group entries => some entries
  | .list items => some (names.zip items)
  | _ => none

def settingsReader : SettingsReader Setting where
  text := asText
  word := asWord
  boolean := asBoolean
  backend := asBackend
  isAbsent := isAbsent
  items := asItems
  fields := asFields

end Setting

namespace Settings

/-- Reads settings from the bytes of a file, if there is one. -/
def ofFile (file : Option (List UInt8)) : Outcome Settings :=
  match file with
  | none => .error (.io .fileMissing)
  | some bytes =>
      match decodeText bytes with
      | none => .error (.io .notText)
      | some text =>
          match (Toml.read text).bind ofToml with
          | none => .error (.settings .unreadable)
          | some settings => .ok settings

/-- The settings of a document with those of environment variables over them. Without a result, one
of them asks for a place that no list has. -/
def gathered (document : Toml) (environment : List (String × String)) : Option Setting := do
  let base ← (Setting.group []).layer (Setting.ofToml document).entries
  base.layer (Variable.assignments environment)

/-- Reads settings from the bytes of a file and from environment variables, which override it. The
file has to be there. -/
def ofLayers (file : Option (List UInt8)) (environment : List (String × String)) :
    Outcome Settings :=
  match (file.bind decodeText).bind Toml.read with
  | none => .error (.settings .unreadable)
  | some document =>
      match gathered document environment with
      | none => .error (.settings .misplaced)
      | some tree =>
          match Setting.settingsReader.settings tree with
          | none => .error (.settings .unreadable)
          | some settings => .ok settings

end Settings

end BrokerTenancy
