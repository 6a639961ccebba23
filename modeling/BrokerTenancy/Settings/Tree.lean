import BrokerTenancy.Number.Power
import BrokerTenancy.Toml.Basic

/-!
Settings whose fields are not known yet, gathered from several layers. A later layer overrides the
values of an earlier one and leaves what it does not mention.
-/

namespace BrokerTenancy

/-- A setting of any kind. `absent` fills the gaps of a list that was set at a later position. -/
inductive Setting where
  | absent
  | text (value : String)
  | integer (value : Int)
  | floating (value : Float)
  | boolean (value : Bool)
  | list (items : List Setting)
  | group (entries : List (String × Setting))
  deriving Inhabited

namespace Setting

mutual

/-- The setting that a value of a document is; dates and times are texts. -/
def ofToml : Toml → Setting
  | .text value => .text value
  | .integer value => .integer value
  | .floating value => .floating value
  | .boolean value => .boolean value
  | .moment value => .text value.text
  | .array items => .list (ofItems items)
  | .table fields => .group (ofFields fields)

def ofItems : List Toml → List Setting
  | [] => []
  | item :: rest => ofToml item :: ofItems rest

def ofFields : List (String × Toml) → List (String × Setting)
  | [] => []
  | (key, value) :: rest => (key, ofToml value) :: ofFields rest

end

/-- The entries of a group; anything else has none. -/
def entries : Setting → List (String × Setting)
  | .group entries => entries
  | _ => []

/-- The items of a list; anything else has none. -/
def items : Setting → List Setting
  | .list items => items
  | _ => []

/-- Changes the entry of a name, or adds one changed from nothing. -/
def changeEntry (name : String) (change : Setting → Setting) :
    List (String × Setting) → List (String × Setting)
  | [] => [(name, change .absent)]
  | (present, setting) :: rest =>
      if present = name then (present, change setting) :: rest
      else (present, setting) :: changeEntry name change rest

/-- Changes an entry of a group; anything else becomes a group first. -/
def withEntry (name : String) (change : Setting → Setting) (setting : Setting) : Setting :=
  .group (changeEntry name change setting.entries)

/-- The entry of a name; what has none of that name has a gap there. -/
def entryAt (name : String) (setting : Setting) : Setting :=
  (setting.entries.lookup name).getD .absent

/-- Changes an item of a list; anything else becomes a list first, and gaps are filled. -/
def withItem (place : Nat) (change : Setting → Setting) (setting : Setting) : Setting :=
  let items := setting.items
  let filled := items ++ List.replicate (place + 1 - items.length) .absent
  .list (filled.modify place change)

/-- The item of a place; a place behind the end is a gap. -/
def itemAt (place : Nat) (setting : Setting) : Setting := setting.items.getD place .absent

/-- How many items a list has room for. -/
def listRoom : Nat := twoPower 24

/-- The place in a list of this size that a position means. A negative position counts from the end;
there is no place before the first one. -/
def placeOf (size : Nat) (position : Int) : Option Nat :=
  let place := if position < 0 then size + position else position
  if 0 ≤ place ∧ place < listRoom then some place.toNat else none

/-- The lower case of a character, where that is an ASCII letter. -/
def lowerAscii (character : Char) : Char :=
  if character = '\u212A' then 'k' else character.toLower

/-- A name in lower case, as far as that matters to the names of settings. -/
def lowerName (name : String) : String := String.ofList (name.toList.map lowerAscii)

mutual

/-- What a value makes of the setting it overrides. Groups are merged, and their names are the same
in either case; all else is replaced as it is. -/
def override (value : Setting) (present : Setting) : Setting :=
  match value with
  | .group [] =>
      match present with
      | .absent => .group []
      | present => present
  | .group entries => overrideAll entries present
  | value => value

def overrideAll (entries : List (String × Setting)) (present : Setting) : Setting :=
  match entries with
  | [] => present
  | (name, value) :: rest =>
      overrideAll rest (present.withEntry (lowerName name) (override value))

end

/-- A step into a setting. -/
inductive Step where
  | entry (name : String)
  | item (position : Int)

/-- Overrides the setting at the end of a path, and makes what is missing on the way. A name at the
end is the same in either case, and an item at the end is replaced. Without a result, a step asks
for a place that no list has. -/
def overrideAlong (value : Setting) : List Step → Setting → Option Setting
  | [], _ => some value
  | [.entry name], setting => some (setting.withEntry (lowerName name) (override value))
  | [.item position], setting => do
      let place ← placeOf setting.items.length position
      some (setting.withItem place fun _ => value)
  | .entry name :: path, setting => do
      let changed ← overrideAlong value path (setting.entryAt name)
      some (setting.withEntry name fun _ => changed)
  | .item position :: path, setting => do
      let place ← placeOf setting.items.length position
      let changed ← overrideAlong value path (setting.itemAt place)
      some (setting.withItem place fun _ => changed)

/-- The characters of names in a path. -/
def isNameCharacter (character : Char) : Bool :=
  character.isAlphanum || character == ' ' || character == '_' || character == '-'

def takeName (characters : List Char) : Option (Step × List Char) :=
  match characters.span isNameCharacter with
  | ([], _) => none
  | (name, rest) => some (.entry (String.ofList name), rest)

/-- The number that a sign and digits stand for, if it has 64 bits. -/
def integerOf (negative : Bool) (digits : List Char) : Option Int := do
  if digits.isEmpty ∨ !digits.all Char.isDigit then none
  let magnitude : Int := digits.foldl (fun value digit => value * 10 + (digit.toNat - 48)) 0
  let value := if negative then -magnitude else magnitude
  if -(twoPower 63 : Int) ≤ value ∧ value < twoPower 63 then some value else none

/-- Reads a position of a path up to its closing bracket. -/
def takePosition (characters : List Char) : Option (Step × List Char) := do
  let (negative, unsigned) := match characters.dropWhile isSpace with
    | '-' :: rest => (true, rest)
    | rest => (false, rest)
  let (digits, rest) := unsigned.span Char.isDigit
  let position ← integerOf negative digits
  match rest.dropWhile isSpace with
  | ']' :: rest => some (.item position, rest)
  | _ => none
where
  isSpace (character : Char) : Bool := character == ' ' || character == '\t'

/-- Reads the further steps of a path: names after points and positions in brackets. Every step
takes a character. -/
def takeSteps : Nat → List Char → Option (List Step)
  | _, [] => some []
  | 0, _ => none
  | bound + 1, mark :: rest => do
      let (step, rest) ←
        if mark = '.' then takeName rest else if mark = '[' then takePosition rest else none
      let steps ← takeSteps bound rest
      some (step :: steps)

/-- The path that a key stands for. A key that is no path is a single step. -/
def pathOf (key : String) : List Step :=
  let path := do
    let (first, rest) ← takeName key.toList
    let steps ← takeSteps rest.length rest
    some (first :: steps)
  path.getD [.entry key]

/-- Overrides the setting that a key stands for. -/
def assign (setting : Setting) (key : String) (value : Setting) : Option Setting :=
  overrideAlong value (pathOf key) setting

/-- Overrides the settings of a layer one after another. -/
def layer (setting : Setting) (assignments : List (String × Setting)) : Option Setting :=
  assignments.foldlM (fun setting (key, value) => setting.assign key value) setting

end Setting

end BrokerTenancy
