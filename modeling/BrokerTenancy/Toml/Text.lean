import BrokerTenancy.Toml.Line

/-!
Strings and keys of a TOML text. The four kinds of string differ in their quote, in whether a
backslash begins an escape, and in whether they may span lines; a string that may is enclosed in
three quotes, and one or two quotes may stand in it.
-/

namespace BrokerTenancy.Toml

/-- The value of hexadecimal digits of either case. -/
def hexValue (digits : List Char) : Option Nat :=
  digits.foldlM (fun value digit => do
    let code := digit.toNat
    if '0' ≤ digit ∧ digit ≤ '9' then some (value * 16 + (code - 48))
    else if 'a' ≤ digit ∧ digit ≤ 'f' then some (value * 16 + (code - 87))
    else if 'A' ≤ digit ∧ digit ≤ 'F' then some (value * 16 + (code - 55))
    else none) 0

/-- The character with a code; surrogates and codes past the last one have none. -/
def characterOf (code : Nat) : Option Char :=
  if code.isValidChar then some (Char.ofNat code) else none

/-- Reads a character given by exactly `count` hexadecimal digits. -/
def takeCode (count : Nat) (characters : List Char) : Option (Char × List Char) := do
  let digits := characters.take count
  if digits.length ≠ count then none
  let code ← hexValue digits
  let character ← characterOf code
  some (character, characters.drop count)

/-- The character that a one-letter escape stands for. -/
def escapedCharacter : Char → Option Char
  | 'b' => some '\x08'
  | 't' => some '\t'
  | 'n' => some '\n'
  | 'f' => some '\x0c'
  | 'r' => some '\r'
  | '"' => some '"'
  | '\\' => some '\\'
  | _ => none

/-- Reads what follows the backslash of an escape. -/
def takeEscape : List Char → Option (Char × List Char)
  | [] => none
  | letter :: rest =>
      if letter = 'u' then takeCode 4 rest
      else if letter = 'U' then takeCode 8 rest
      else (escapedCharacter letter).map fun character => (character, rest)

/-- A kind of string. -/
structure Quoting where
  quote : Char
  escapes : Bool
  multiline : Bool

namespace Quoting

def basic : Quoting := { quote := '"', escapes := true, multiline := false }

def literal : Quoting := { quote := '\'', escapes := false, multiline := false }

/-- Three quotes end a string that may span lines; of the quotes right before them, up to two
belong to it. Returns those quotes and what follows the string. -/
def takeClosing (quoting : Quoting) (characters : List Char) : Option (List Char × List Char) :=
  let quotes := (characters.takeWhile (· == quoting.quote)).length
  if quoting.multiline then
    if quotes < 3 then none
    else
      let kept := min (quotes - 3) 2
      some (List.replicate kept quoting.quote, characters.drop (kept + 3))
  else if quotes = 0 then none
  else some ([], characters.drop 1)

/-- Reads one piece of a string: a character, an escape, a line end, or a backslash at the end of
a line, which joins the line to the next text. -/
def takePiece (quoting : Quoting) : List Char → Option (List Char × List Char)
  | [] => none
  | character :: rest =>
      if character = '\\' ∧ quoting.escapes then
        match takeLineEnd (skipSpaces rest), quoting.multiline with
        | some next, true => some ([], skipBlanks next)
        | _, _ => (takeEscape rest).map fun (escaped, suffix) => ([escaped], suffix)
      else if isCommentText character then some ([character], rest)
      else if quoting.multiline then
        (takeLineEnd (character :: rest)).map fun next => (['\n'], next)
      else none

end Quoting

theorem length_le_of_take_escape {characters rest : List Char} {escaped : Char}
    (taken : takeEscape characters = some (escaped, rest)) : rest.length ≤ characters.length := by
  have ofCode {count : Nat} {digits : List Char}
      (read : takeCode count digits = some (escaped, rest)) : rest.length ≤ digits.length := by
    simp only [takeCode, Option.bind_eq_bind] at read
    split at read
    · simp at read
    · obtain ⟨code, _, read⟩ := Option.bind_eq_some_iff.1 read
      obtain ⟨character, _, read⟩ := Option.bind_eq_some_iff.1 read
      obtain ⟨_, rfl⟩ := Prod.mk.inj (Option.some.inj read)
      simp
  cases characters with
  | nil => simp [takeEscape] at taken
  | cons letter suffix =>
      simp only [takeEscape] at taken
      split at taken
      · exact Nat.le_succ_of_le (ofCode taken)
      · split at taken
        · exact Nat.le_succ_of_le (ofCode taken)
        · obtain ⟨_, _, same⟩ := Option.map_eq_some_iff.1 taken
          obtain ⟨_, rfl⟩ := Prod.mk.inj same
          exact Nat.le_succ _

theorem length_lt_of_take_piece {quoting : Quoting} {characters piece rest : List Char}
    (taken : quoting.takePiece characters = some (piece, rest)) :
    rest.length < characters.length := by
  cases characters with
  | nil => simp [Quoting.takePiece] at taken
  | cons character suffix =>
      simp only [Quoting.takePiece] at taken
      split at taken
      · split at taken
        · rename_i next found _
          obtain ⟨_, rfl⟩ := Prod.mk.inj (Option.some.inj taken)
          exact Nat.lt_succ_of_le (Nat.le_trans (length_skip_blanks_le next)
            (Nat.le_trans (Nat.le_of_lt (length_lt_of_take_line_end found))
              (length_drop_while_le _ _)))
        · obtain ⟨⟨escaped, tail⟩, found, same⟩ := Option.map_eq_some_iff.1 taken
          obtain ⟨_, rfl⟩ := Prod.mk.inj same
          exact Nat.lt_succ_of_le (length_le_of_take_escape found)
      · split at taken
        · obtain ⟨_, rfl⟩ := Prod.mk.inj (Option.some.inj taken)
          exact Nat.lt_succ_self _
        · split at taken
          · obtain ⟨next, found, same⟩ := Option.map_eq_some_iff.1 taken
            obtain ⟨_, rfl⟩ := Prod.mk.inj same
            exact length_lt_of_take_line_end found
          · simp at taken

namespace Quoting

/-- Reads a string after its opening quote or quotes, up to the end of its closing ones. -/
def takeBody (quoting : Quoting) (characters : List Char) : Option (List Char × List Char) :=
  match quoting.takeClosing characters with
  | some closed => some closed
  | none =>
      match _taken : quoting.takePiece characters with
      | none => none
      | some (piece, rest) => do
          let (content, suffix) ← takeBody quoting rest
          some (piece ++ content, suffix)
termination_by characters.length
decreasing_by exact length_lt_of_take_piece _taken

/-- Reads what follows the opening quotes of a string. -/
def takeOpened (quoting : Quoting) (characters : List Char) : Option (String × List Char) := do
  let (content, rest) ← quoting.takeBody characters
  some (String.ofList content, rest)

/-- Reads a string after its first quote. Two more quotes make it span lines; a line end right
after them does not count. -/
def takeText (quoting : Quoting) (characters : List Char) : Option (String × List Char) :=
  match characters with
  | second :: third :: rest =>
      if second = quoting.quote ∧ third = quoting.quote then
        { quoting with multiline := true }.takeOpened ((takeLineEnd rest).getD rest)
      else quoting.takeOpened characters
  | _ => quoting.takeOpened characters

end Quoting

/-- The characters of keys without quotes. -/
def isBareKey (character : Char) : Bool :=
  character.isAlphanum || character == '-' || character == '_'

def takeKeyPart (characters : List Char) : Option (String × List Char) :=
  match characters with
  | '"' :: rest => Quoting.basic.takeOpened rest
  | '\'' :: rest => Quoting.literal.takeOpened rest
  | _ =>
      match characters.span isBareKey with
      | ([], _) => none
      | (part, rest) => some (String.ofList part, rest)

/-- Reads a key of at most `limit` parts, with points between them and spaces around each. -/
def takeKeyUpTo : Nat → List Char → Option (List String × List Char)
  | 0, _ => none
  | limit + 1, characters => do
      let (part, rest) ← takeKeyPart (skipSpaces characters)
      match skipSpaces rest with
      | '.' :: rest => do
          let (parts, suffix) ← takeKeyUpTo limit rest
          some (part :: parts, suffix)
      | suffix => some ([part], suffix)

/-- How deeply values may nest, and how many parts a key may have. -/
def nestingLimit : Nat := 79

def takeKey (characters : List Char) : Option (List String × List Char) :=
  takeKeyUpTo nestingLimit characters

end BrokerTenancy.Toml
