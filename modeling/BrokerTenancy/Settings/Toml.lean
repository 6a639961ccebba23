import BrokerTenancy.Settings.Decoder
import BrokerTenancy.Toml.Basic

/-!
Settings as a TOML document, taken strictly: every value has to be of its field's own kind.
-/

namespace BrokerTenancy

namespace Toml

def asText : Toml → Option String
  | .text value => some value
  | _ => none

def asNatural : Toml → Option Nat
  | .integer (.ofNat value) => some value
  | _ => none

def asBoolean : Toml → Option Bool
  | .boolean value => some value
  | _ => none

/-- A backend by its name, or by a table with nothing under that name. -/
def asBackend : Toml → Option StoreBackend
  | .text name => StoreBackend.all.find? (·.name == name)
  | .table [(name, .table [])] => StoreBackend.all.find? (·.name == name)
  | .table [(name, .array [])] => StoreBackend.all.find? (·.name == name)
  | _ => none

def asItems : Toml → Option (List Toml)
  | .array items => some items
  | _ => none

/-- Fields are the keys of a table, or the items of an array in the order of the names. A date or
time has none of them. -/
def asFields (names : List String) : Toml → Option (List (String × Toml))
  | .table fields => some fields
  | .array items => some (names.zip items)
  | .moment _ => some []
  | _ => none

def settingsReader : SettingsReader Toml where
  text := asText
  word := asNatural
  boolean := asBoolean
  backend := asBackend
  isAbsent _ := false
  items := asItems
  fields := asFields

end Toml

/-- Settings of a document, each value of its field's kind. -/
def Settings.ofToml (document : Toml) : Option Settings := Toml.settingsReader.settings document

end BrokerTenancy
