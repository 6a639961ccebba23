import BrokerTenancy.Toml.Scalar
import BrokerTenancy.Toml.Table
import BrokerTenancy.Toml.Text

/-!
Reading a TOML text. A document is a sequence of lines: blanks and comments, headers, and keys with
their values. Keys belong to the table of the last header.
-/

namespace BrokerTenancy.Toml

/-- Reads the items of an array up to its closing bracket. Lines may end between them, and a comma
may stand before the bracket. Every item takes a character, so a bound of the number of characters
is none. -/
def takeItems (takeItem : List Char → Option (Toml × List Char)) :
    Nat → List Char → Option (List Toml × List Char)
  | 0, _ => none
  | bound + 1, characters =>
      match skipLines characters with
      | ']' :: rest => some ([], rest)
      | characters => do
          let (item, rest) ← takeItem characters
          match skipLines rest with
          | ']' :: rest => some ([item], rest)
          | ',' :: rest => do
              let (items, rest) ← takeItems takeItem bound rest
              some (item :: items, rest)
          | _ => none

/-- Reads a key, the sign of equality, and the value. -/
def takeBinding (takeItem : List Char → Option (Toml × List Char)) (characters : List Char) :
    Option ((List String × Toml) × List Char) := do
  let (parts, rest) ← takeKey characters
  let rest ← takeMark '=' rest
  let (value, rest) ← takeItem (skipSpaces rest)
  some ((parts, value), rest)

/-- Reads the bindings of a table on one line up to its closing brace. No comma may stand before
the brace. -/
def takeBindings (takeItem : List Char → Option (Toml × List Char)) :
    Nat → List Char → Option (List (List String × Toml) × List Char)
  | 0, _ => none
  | bound + 1, characters => do
      let (binding, rest) ← takeBinding takeItem characters
      match skipSpaces rest with
      | '\x7d' :: rest => some ([binding], rest)
      | ',' :: rest => do
          let (bindings, rest) ← takeBindings takeItem bound rest
          some (binding :: bindings, rest)
      | _ => none

/-- Reads a table on one line after its opening brace. Nothing can be added to it later. -/
def takeInline (takeItem : List Char → Option (Toml × List Char)) (characters : List Char) :
    Option (Toml × List Char) :=
  match skipSpaces characters with
  | '\x7d' :: rest => some (.table [], rest)
  | _ => do
      let (bindings, rest) ← takeBindings takeItem characters.length characters
      let fields ← bindings.foldlM
        (fun fields (parts, value) => Fields.define parts value fields) []
      some (.table (finishedFields fields), rest)

/-- Reads a value that nests at most `depth` deep. -/
def takeValue (depth : Nat) (characters : List Char) : Option (Toml × List Char) :=
  match characters, depth with
  | '"' :: rest, _ => (Quoting.basic.takeText rest).map fun (value, rest) => (.text value, rest)
  | '\'' :: rest, _ => (Quoting.literal.takeText rest).map fun (value, rest) => (.text value, rest)
  | '[' :: rest, depth + 1 =>
      (takeItems (takeValue depth) rest.length rest).map fun (items, rest) => (.array items, rest)
  | '\x7b' :: rest, depth + 1 => takeInline (takeValue depth) rest
  | _, _ => takeScalar characters

/-- A line of a document. -/
inductive Line where
  | blank
  | header (parts : List String)
  | seriesHeader (parts : List String)
  | binding (parts : List String) (value : Toml)

/-- Reads a line up to its end; a value may span several. -/
def takeLine (characters : List Char) : Option (Line × List Char) := do
  let (line, rest) ←
    match skipSpaces characters with
    | '[' :: '[' :: rest => do
        let (parts, rest) ← takeKey rest
        let rest ← takeWord [']', ']'] rest
        some (.seriesHeader parts, rest)
    | '[' :: rest => do
        let (parts, rest) ← takeKey rest
        let rest ← takeMark ']' rest
        some (.header parts, rest)
    | characters =>
        if (takeRestOfLine characters).isSome then some (.blank, characters)
        else do
          let ((parts, value), rest) ← takeBinding (takeValue nestingLimit) characters
          some (.binding parts value, rest)
  let rest ← takeRestOfLine rest
  some (line, rest)

/-- What has been read of a document: all its tables, and the path to the one that the last header
named. -/
structure Document where
  fields : Fields := []
  place : List String := []

def Document.add (document : Document) : Line → Option Document
  | .blank => some document
  | .header parts => do
      let fields ← document.fields.declare parts
      some { fields, place := parts }
  | .seriesHeader parts => do
      let fields ← document.fields.extend parts
      some { fields, place := parts }
  | .binding parts value => do
      let fields ← document.fields.within .implied (fun _ fields => fields.define parts value)
        document.place .declared
      some { document with fields }

/-- Reads lines up to the end of the text. Every line but the last takes a character. -/
def readLines : Nat → Document → List Char → Option Document
  | _, document, [] => some document
  | 0, _, _ => none
  | bound + 1, document, characters => do
      let (line, rest) ← takeLine characters
      let document ← document.add line
      readLines bound document rest

/-- The root table of a text; a byte order mark in front does not count. -/
def read (text : String) : Option Toml := do
  let characters := match text.toList with
    | '\uFEFF' :: rest => rest
    | characters => characters
  let document ← readLines characters.length {} characters
  some (.table (finishedFields document.fields))

end BrokerTenancy.Toml
