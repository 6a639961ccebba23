/-!
The blank parts of a TOML text: spaces, line ends and comments. A scanner takes the characters that
are left and returns what follows the part it has read.
-/

namespace BrokerTenancy.Toml

/-- A space or a tab. -/
def isSpace (character : Char) : Bool := character == ' ' || character == '\t'

def skipSpaces (characters : List Char) : List Char := characters.dropWhile isSpace

/-- Characters above ASCII may stand in comments and strings of every kind. -/
def isBeyondAscii (character : Char) : Bool := 0x80 ≤ character.toNat

/-- A tab, a visible ASCII character or space, or one above ASCII. -/
def isCommentText (character : Char) : Bool :=
  character == '\t' || (0x20 ≤ character.toNat && character.toNat ≤ 0x7E) ||
    isBeyondAscii character

/-- Reads a line feed, with a carriage return before it or without. -/
def takeLineEnd : List Char → Option (List Char)
  | '\n' :: rest => some rest
  | '\r' :: '\n' :: rest => some rest
  | _ => none

/-- Skips a comment, if one stands in front. -/
def skipComment : List Char → List Char
  | '#' :: rest => rest.dropWhile isCommentText
  | rest => rest

/-- Reads up to the next line: nothing but spaces and a comment may be left on this one. The last
line may end with the text. -/
def takeRestOfLine (characters : List Char) : Option (List Char) :=
  match skipComment (skipSpaces characters) with
  | [] => some []
  | rest => takeLineEnd rest

/-- Skips spaces and line ends. -/
def skipBlanks : List Char → List Char
  | ' ' :: rest => skipBlanks rest
  | '\t' :: rest => skipBlanks rest
  | '\n' :: rest => skipBlanks rest
  | '\r' :: '\n' :: rest => skipBlanks rest
  | rest => rest

theorem length_drop_while_le {Item : Type} (condition : Item → Bool) (items : List Item) :
    (items.dropWhile condition).length ≤ items.length :=
  (List.dropWhile_sublist condition).length_le

theorem length_skip_comment_le (characters : List Char) :
    (skipComment characters).length ≤ characters.length := by
  unfold skipComment
  split
  · exact Nat.le_succ_of_le (length_drop_while_le _ _)
  · exact Nat.le_refl _

theorem length_skip_blanks_le (characters : List Char) :
    (skipBlanks characters).length ≤ characters.length := by
  fun_induction skipBlanks characters with
  | case1 rest shorter => exact Nat.le_succ_of_le shorter
  | case2 rest shorter => exact Nat.le_succ_of_le shorter
  | case3 rest shorter => exact Nat.le_succ_of_le shorter
  | case4 rest shorter => exact Nat.le_succ_of_le (Nat.le_succ_of_le shorter)
  | case5 rest => exact Nat.le_refl _

theorem length_lt_of_take_line_end {characters rest : List Char}
    (taken : takeLineEnd characters = some rest) : rest.length < characters.length := by
  unfold takeLineEnd at taken
  split at taken
  · obtain rfl := Option.some.inj taken
    exact Nat.lt_succ_self _
  · obtain rfl := Option.some.inj taken
    exact Nat.lt_of_lt_of_le (Nat.lt_succ_self _) (Nat.le_succ _)
  · simp at taken

/-- Skips spaces, line ends and whole lines of comment. A comment without a line end behind it
stays. -/
def skipLines (characters : List Char) : List Char :=
  match _taken : takeLineEnd (skipComment (skipSpaces characters)) with
  | some rest => skipLines rest
  | none => skipSpaces characters
termination_by characters.length
decreasing_by
  exact Nat.lt_of_lt_of_le (length_lt_of_take_line_end _taken)
    (Nat.le_trans (length_skip_comment_le _) (length_drop_while_le _ _))

end BrokerTenancy.Toml
