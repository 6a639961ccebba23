import BrokerTenancy.Bytes.Utf8
import BrokerTenancy.Json.Numeral

/-!
Tokens of a JSON text. One pass over the bytes, with the token under construction as its state,
gives the tokens in order or refuses the text. Blanks separate tokens and leave no trace.
-/

namespace BrokerTenancy.Json

inductive Token where
  | openArray
  | closeArray
  | openObject
  | closeObject
  | comma
  | colon
  | null
  | boolean (value : Bool)
  | number (value : Option Number)
  | string (text : Option String)
  deriving Repr

/-- One piece of a string literal: a byte of text, or a UTF-16 unit given by its number. -/
inductive Piece where
  | byte (value : UInt8)
  | unit (value : Nat)
  deriving Repr

/-- The UTF-8 bytes of a code point; a surrogate has none. -/
def encodeCodePoint (code : Nat) : Option (List UInt8) :=
  if valid : code.isValidChar then
    some (String.utf8EncodeChar ⟨UInt32.ofNatLT code (by
      rcases valid with small | ⟨_, small⟩ <;> (have : UInt32.size = 4294967296 := rfl; omega)),
      by simpa [UInt32.isValidChar] using valid⟩)
  else none

def isLeadUnit (unit : Nat) : Bool := 0xD800 ≤ unit && unit < 0xDC00

def isTrailUnit (unit : Nat) : Bool := 0xDC00 ≤ unit && unit < 0xE000

/-- The bytes that the pieces of a literal stand for: a lead unit and the trail unit right after
it are one code point, and neither may stand alone. -/
def assemble : List Piece → Option (List UInt8)
  | [] => some []
  | .byte value :: rest => (value :: ·) <$> assemble rest
  | .unit lead :: rest =>
      if isLeadUnit lead then
        match rest with
        | .unit trail :: suffix =>
            if isTrailUnit trail then do
              let bytes ← encodeCodePoint
                (0x10000 + (lead - 0xD800) * 0x400 + (trail - 0xDC00))
              (bytes ++ ·) <$> assemble suffix
            else none
        | _ => none
      else do
        let bytes ← encodeCodePoint lead
        (bytes ++ ·) <$> assemble rest

/-- The token of a finished string literal. -/
def stringToken (pieces : List Piece) : Token := .string ((assemble pieces).bind decodeText)

/-- The token of a finished word: one of the three names, or a number. -/
def wordToken (letters : List UInt8) : Option Token :=
  if letters = [110, 117, 108, 108] then some .null
  else if letters = [116, 114, 117, 101] then some (.boolean true)
  else if letters = [102, 97, 108, 115, 101] then some (.boolean false)
  else (numeralOf letters).map fun numeral => .number numeral.value

/-- The token that a single byte is. -/
def markToken (byte : UInt8) : Option Token :=
  if byte = 91 then some .openArray
  else if byte = 93 then some .closeArray
  else if byte = 123 then some .openObject
  else if byte = 125 then some .closeObject
  else if byte = 44 then some .comma
  else if byte = 58 then some .colon
  else none

/-- The four blanks of JSON. -/
def isSpace (byte : UInt8) : Bool := byte == 32 || byte == 9 || byte == 10 || byte == 13

/-- The byte that a one-letter escape stands for. -/
def escapedByte (letter : UInt8) : Option UInt8 :=
  if letter = 34 ∨ letter = 92 ∨ letter = 47 then some letter
  else if letter = 98 then some 8
  else if letter = 102 then some 12
  else if letter = 110 then some 10
  else if letter = 114 then some 13
  else if letter = 116 then some 9
  else none

/-- The value of a hexadecimal digit of either case. -/
def hexDigitOf (byte : UInt8) : Option Nat :=
  if 48 ≤ byte ∧ byte ≤ 57 then some (byte.toNat - 48)
  else if 97 ≤ byte ∧ byte ≤ 102 then some (byte.toNat - 87)
  else if 65 ≤ byte ∧ byte ≤ 70 then some (byte.toNat - 55)
  else none

/-- What the lexer is in the middle of. Letters and pieces are held last one first. -/
inductive LexState where
  | between
  | word (letters : List UInt8)
  | string (pieces : List Piece)
  | escape (pieces : List Piece)
  | unit (pieces : List Piece) (digits : Nat) (value : Nat)

/-- Outside literals: a blank, a mark, a quote, or the first letter of a word. -/
def lexOutside (byte : UInt8) (tokens : List Token) : LexState × List Token :=
  if isSpace byte then (.between, tokens)
  else if byte = 34 then (.string [], tokens)
  else match markToken byte with
    | some mark => (.between, mark :: tokens)
    | none => (.word [byte], tokens)

/-- A byte that ends a word. -/
def endsWord (byte : UInt8) : Bool := isSpace byte || byte == 34 || (markToken byte).isSome

/-- Takes one byte; the tokens found so far are held last one first. -/
def lexStep (state : LexState) (byte : UInt8) (tokens : List Token) :
    Option (LexState × List Token) :=
  match state with
  | .between => some (lexOutside byte tokens)
  | .word letters =>
      if endsWord byte then do
        let token ← wordToken letters.reverse
        some (lexOutside byte (token :: tokens))
      else some (.word (byte :: letters), tokens)
  | .string pieces =>
      if byte = 34 then some (.between, stringToken pieces.reverse :: tokens)
      else if byte = 92 then some (.escape pieces, tokens)
      else if byte < 32 then none
      else some (.string (.byte byte :: pieces), tokens)
  | .escape pieces =>
      if byte = 117 then some (.unit pieces 0 0, tokens)
      else do
        let value ← escapedByte byte
        some (.string (.byte value :: pieces), tokens)
  | .unit pieces digits value => do
      let digit ← hexDigitOf byte
      if digits = 3 then some (.string (.unit (value * 16 + digit) :: pieces), tokens)
      else some (.unit pieces (digits + 1) (value * 16 + digit), tokens)

/-- Ends the text: a word may end here, a string literal may not. -/
def lexEnd (state : LexState) (tokens : List Token) : Option (List Token) :=
  match state with
  | .between => some tokens.reverse
  | .word letters => do
      let token ← wordToken letters.reverse
      some (token :: tokens).reverse
  | _ => none

def lexFrom (state : LexState) (tokens : List Token) : List UInt8 → Option (List Token)
  | [] => lexEnd state tokens
  | byte :: rest => do
      let (next, found) ← lexStep state byte tokens
      lexFrom next found rest

def tokensOf (text : List UInt8) : Option (List Token) := lexFrom .between [] text

end BrokerTenancy.Json
