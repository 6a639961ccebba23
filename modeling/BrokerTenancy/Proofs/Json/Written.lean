import BrokerTenancy.Json.Reader
import BrokerTenancy.Json.Writer

/-!
A written tree is read back as it was. The lexer finds the tokens of the tree in what was written,
and the reader builds the tree from its tokens. Numbers are left out.
-/

namespace BrokerTenancy.Json

mutual

/-- A tree without numbers in which every literal is a text. -/
def IsPlain : Json → Prop
  | .null => True
  | .boolean _ => True
  | .number _ => False
  | .string text => text.isSome = true
  | .array items => ArePlain items
  | .object fields => HavePlain fields

def ArePlain : List Json → Prop
  | [] => True
  | item :: rest => item.IsPlain ∧ ArePlain rest

def HavePlain : List (Option String × Json) → Prop
  | [] => True
  | (key, value) :: rest => key.isSome = true ∧ value.IsPlain ∧ HavePlain rest

end

mutual

def tokens : Json → List Token
  | .null => [.null]
  | .boolean value => [.boolean value]
  | .number value => [.number value]
  | .string text => [.string text]
  | .array items => .openArray :: itemTokens items ++ [.closeArray]
  | .object fields => .openObject :: fieldTokens fields ++ [.closeObject]

def itemTokens : List Json → List Token
  | [] => []
  | [item] => item.tokens
  | item :: rest => item.tokens ++ .comma :: itemTokens rest

def fieldTokens : List (Option String × Json) → List Token
  | [] => []
  | [(key, value)] => .string key :: .colon :: value.tokens
  | (key, value) :: rest => .string key :: .colon :: value.tokens ++ .comma :: fieldTokens rest

end

/-! ## Finding the tokens -/

/-- A word ends in front of these bytes. -/
def EndsWords (rest : List UInt8) : Prop := ∀ byte ∈ rest.head?, endsWord byte = true

section Lexing

variable {found : List Token} {rest : List UInt8}

theorem lex_mark {byte : UInt8} {mark : Token} (marks : markToken byte = some mark)
    (plain : isSpace byte = false ∧ byte ≠ 34) :
    lexFrom .between found (byte :: rest) = lexFrom .between (mark :: found) rest := by
  simp only [lexFrom, lexStep, lexOutside, plain.1, plain.2, marks, Option.bind_eq_bind,
    Option.bind_some, Bool.false_eq_true, if_false]

theorem lex_word_end {letters : List UInt8} {token : Token}
    (told : wordToken letters.reverse = some token) (ends : EndsWords rest) :
    lexFrom (.word letters) found rest = lexFrom .between (token :: found) rest := by
  cases rest with
  | nil => simp only [lexFrom, lexEnd, told, Option.bind_eq_bind, Option.bind_some]
  | cons byte rest =>
      have ended : endsWord byte = true := ends byte rfl
      simp only [lexFrom, lexStep, ended, told, if_true, Option.bind_eq_bind, Option.bind_some]

theorem lex_null (ends : EndsWords rest) :
    lexFrom .between found (110 :: 117 :: 108 :: 108 :: rest) =
      lexFrom .between (.null :: found) rest := by
  have taken : lexFrom .between found (110 :: 117 :: 108 :: 108 :: rest) =
      lexFrom (.word [108, 108, 117, 110]) found rest := rfl
  rw [taken]
  exact lex_word_end rfl ends

theorem lex_true (ends : EndsWords rest) :
    lexFrom .between found (116 :: 114 :: 117 :: 101 :: rest) =
      lexFrom .between (.boolean true :: found) rest := by
  have taken : lexFrom .between found (116 :: 114 :: 117 :: 101 :: rest) =
      lexFrom (.word [101, 117, 114, 116]) found rest := rfl
  rw [taken]
  exact lex_word_end rfl ends

theorem lex_false (ends : EndsWords rest) :
    lexFrom .between found (102 :: 97 :: 108 :: 115 :: 101 :: rest) =
      lexFrom .between (.boolean false :: found) rest := by
  have taken : lexFrom .between found (102 :: 97 :: 108 :: 115 :: 101 :: rest) =
      lexFrom (.word [101, 115, 108, 97, 102]) found rest := rfl
  rw [taken]
  exact lex_word_end rfl ends

theorem hex_digit_read {value : UInt8} (small : value < 16) :
    hexDigitOf (hexDigit value) = some value.toNat := by
  have each : ∀ digit < 16,
      hexDigitOf (hexDigit (UInt8.ofNat digit)) = some (UInt8.ofNat digit).toNat := by decide
  have told := each value.toNat (UInt8.lt_iff_toNat_lt.mp small)
  rw [UInt8.ofNat_toNat] at told
  exact told

/-- What the lexer makes of the written form of a byte. -/
def pieceOf (byte : UInt8) : Piece :=
  if byte < 32 ∧ byte ∉ [8, 9, 10, 12, 13] then .unit byte.toNat else .byte byte

theorem lex_escaped (byte : UInt8) (pieces : List Piece) :
    lexFrom (.string pieces) found (escapeByte byte ++ rest) =
      lexFrom (.string (pieceOf byte :: pieces)) found rest := by
  by_cases letter : byte ∈ [34, 92, 8, 9, 10, 12, 13]
  · simp only [List.mem_cons, List.not_mem_nil, or_false] at letter
    rcases letter with rfl | rfl | rfl | rfl | rfl | rfl | rfl <;> rfl
  simp only [List.mem_cons, List.not_mem_nil, or_false, not_or] at letter
  rcases letter with ⟨quote, slash, backspace, tab, line, form, carriage⟩
  by_cases control : byte < 32
  · have below : byte.toNat < 256 := byte.toNat_lt
    have sixteen : (16 : UInt8).toNat = 16 := rfl
    have high : hexDigitOf (hexDigit (byte / 16)) = some (byte.toNat / 16) := by
      rw [hex_digit_read, UInt8.toNat_div, sixteen]
      rw [UInt8.lt_iff_toNat_lt, UInt8.toNat_div, sixteen]
      omega
    have low : hexDigitOf (hexDigit (byte % 16)) = some (byte.toNat % 16) := by
      rw [hex_digit_read, UInt8.toNat_mod, sixteen]
      rw [UInt8.lt_iff_toNat_lt, UInt8.toNat_mod, sixteen]
      exact Nat.mod_lt _ (by decide)
    have piece : pieceOf byte = .unit byte.toNat := by
      rw [pieceOf, if_pos]
      exact ⟨control, by simp [backspace, tab, line, form, carriage]⟩
    have whole : byte.toNat / 16 * 16 + byte.toNat % 16 = byte.toNat := by omega
    have escape : lexFrom (.string pieces) found (92 :: 117 :: 48 :: 48 ::
        hexDigit (byte / 16) :: hexDigit (byte % 16) :: rest) =
        lexFrom (.unit pieces 2 0) found (hexDigit (byte / 16) :: hexDigit (byte % 16) :: rest) :=
      rfl
    simp only [escapeByte, quote, slash, backspace, tab, line, form, carriage, control, if_false,
      if_true, List.cons_append, List.nil_append, escape]
    simp [lexFrom, lexStep, high, low, whole, piece]
  · have piece : pieceOf byte = .byte byte := by
      rw [pieceOf, if_neg]
      exact fun both => control both.1
    simp only [escapeByte, quote, slash, backspace, tab, line, form, carriage, control, if_false,
      List.cons_append, List.nil_append, lexFrom, lexStep, Option.bind_eq_bind, Option.bind_some,
      piece]

theorem lex_escaped_all (bytes : List UInt8) (pieces : List Piece) :
    lexFrom (.string pieces) found (bytes.flatMap escapeByte ++ rest) =
      lexFrom (.string ((bytes.map pieceOf).reverse ++ pieces)) found rest := by
  induction bytes generalizing pieces with
  | nil => rfl
  | cons byte bytes induction =>
      rw [List.flatMap_cons, List.append_assoc, lex_escaped, induction, List.map_cons,
        List.reverse_cons, List.append_assoc]
      rfl

theorem assemble_single {unit : Nat} {bytes : List UInt8} (single : isLeadUnit unit = false)
    (encoded : encodeCodePoint unit = some bytes) (rest : List Piece) :
    assemble (.unit unit :: rest) = (bytes ++ ·) <$> assemble rest := by
  rw [assemble.eq_def]
  simp [single, encoded]

theorem assemble_pieces (bytes : List UInt8) : assemble (bytes.map pieceOf) = some bytes := by
  have ascii : ∀ unit < 32, isLeadUnit unit = false ∧
      encodeCodePoint unit = some [UInt8.ofNat unit] := by decide
  induction bytes with
  | nil => simp only [List.map_nil, assemble]
  | cons byte bytes induction =>
      rw [List.map_cons, pieceOf]
      split
      · next control =>
          rcases ascii byte.toNat (UInt8.lt_iff_toNat_lt.mp control.1) with ⟨single, encoded⟩
          rw [UInt8.ofNat_toNat] at encoded
          rw [assemble_single single encoded, induction]
          rfl
      · rw [assemble, induction]
        rfl

theorem lex_text (text : String) :
    lexFrom .between found (writeText text ++ rest) =
      lexFrom .between (.string (some text) :: found) rest := by
  have told : stringToken ((encodeText text).map pieceOf) = .string (some text) := by
    rw [stringToken, assemble_pieces, Option.bind_some, decode_text_encode]
  have opened : lexFrom .between found (writeText text ++ rest) =
      lexFrom (.string []) found ((encodeText text).flatMap escapeByte ++ 34 :: rest) := by
    rw [writeText, List.append_assoc]
    rfl
  have closed (pieces : List Piece) : lexFrom (.string pieces) found (34 :: rest) =
      lexFrom .between (stringToken pieces.reverse :: found) rest := rfl
  rw [opened, lex_escaped_all, List.append_nil, closed, List.reverse_reverse, told]

theorem ends_words_mark {byte : UInt8} (ends : endsWord byte = true) :
    EndsWords (byte :: rest) := by
  intro other same
  cases same
  exact ends

end Lexing

mutual

theorem lex_write {json : Json} (plain : json.IsPlain) {found : List Token} {rest : List UInt8}
    (ends : EndsWords rest) :
    lexFrom .between found (json.write ++ rest) =
      lexFrom .between (json.tokens.reverse ++ found) rest := by
  match json with
  | .null => exact lex_null ends
  | .boolean true => exact lex_true ends
  | .boolean false => exact lex_false ends
  | .number value => cases plain
  | .string none => cases plain
  | .string (some text) => exact lex_text text
  | .array items =>
      have inner : lexFrom .between (.openArray :: found) (writeItems items ++ 93 :: rest) = _ :=
        lex_items plain (ends_words_mark rfl)
      have opens : markToken 91 = some .openArray := rfl
      have closes : markToken 93 = some .closeArray := rfl
      rw [write, List.append_assoc, List.cons_append, lex_mark opens ⟨rfl, by decide⟩,
        List.singleton_append, inner, lex_mark closes ⟨rfl, by decide⟩]
      simp [tokens]
  | .object fields =>
      have inner : lexFrom .between (.openObject :: found) (writeFields fields ++ 125 :: rest) =
        _ := lex_fields plain (ends_words_mark rfl)
      have opens : markToken 123 = some .openObject := rfl
      have closes : markToken 125 = some .closeObject := rfl
      rw [write, List.append_assoc, List.cons_append, lex_mark opens ⟨rfl, by decide⟩,
        List.singleton_append, inner, lex_mark closes ⟨rfl, by decide⟩]
      simp [tokens]

theorem lex_items {items : List Json} (plain : ArePlain items) {found : List Token}
    {rest : List UInt8} (ends : EndsWords rest) :
    lexFrom .between found (writeItems items ++ rest) =
      lexFrom .between ((itemTokens items).reverse ++ found) rest := by
  match items with
  | [] => rfl
  | [item] => exact lex_write plain.1 ends
  | item :: other :: others =>
      have several : writeItems (item :: other :: others) =
          item.write ++ 44 :: writeItems (other :: others) := by simp [writeItems]
      have first : lexFrom .between found
          (item.write ++ 44 :: (writeItems (other :: others) ++ rest)) = _ :=
        lex_write plain.1 (ends_words_mark rfl)
      have behind : lexFrom .between (.comma :: (item.tokens.reverse ++ found))
          (writeItems (other :: others) ++ rest) = _ := lex_items plain.2 ends
      have comma : markToken 44 = some .comma := rfl
      rw [several, List.append_assoc, List.cons_append, first, lex_mark comma ⟨rfl, by decide⟩,
        behind]
      simp [itemTokens]

theorem lex_fields {fields : List (Option String × Json)} (plain : HavePlain fields)
    {found : List Token} {rest : List UInt8} (ends : EndsWords rest) :
    lexFrom .between found (writeFields fields ++ rest) =
      lexFrom .between ((fieldTokens fields).reverse ++ found) rest := by
  have colon : markToken 58 = some .colon := rfl
  match fields with
  | [] => rfl
  | [(none, value)] => cases plain.1
  | (none, value) :: other :: others => cases plain.1
  | [(some key, value)] =>
      have inner : lexFrom .between (.colon :: .string (some key) :: found)
          (value.write ++ rest) = _ := lex_write plain.2.1 ends
      rw [writeFields, List.append_assoc, Option.getD_some, lex_text, List.cons_append,
        lex_mark colon ⟨rfl, by decide⟩, inner]
      simp [fieldTokens]
  | (some key, value) :: other :: others =>
      have inner : lexFrom .between (.colon :: .string (some key) :: found)
          (value.write ++ 44 :: (writeFields (other :: others) ++ rest)) = _ :=
        lex_write plain.2.1 (ends_words_mark rfl)
      have behind : lexFrom .between
          (.comma :: (value.tokens.reverse ++ .colon :: .string (some key) :: found))
          (writeFields (other :: others) ++ rest) = _ := lex_fields plain.2.2 ends
      have comma : markToken 44 = some .comma := rfl
      simp only [writeFields, List.append_assoc, Option.getD_some, lex_text, List.cons_append,
        lex_mark colon ⟨rfl, by decide⟩, inner, lex_mark comma ⟨rfl, by decide⟩, behind]
      simp [fieldTokens]

end

/-! ## Building the tree -/

mutual

/-- Where a value may stand, the tokens of a tree are read as the tree. -/
theorem read_tokens (json : Json) {expected : Expected}
    (value : expected = .value ∨ expected = .itemOrEnd) (stack : List Frame)
    (rest : List Token) :
    readFrom expected stack (json.tokens ++ rest) = readFrom (.separator json) stack rest := by
  match json with
  | .null => rcases value with rfl | rfl <;> rfl
  | .boolean _ => rcases value with rfl | rfl <;> rfl
  | .number _ => rcases value with rfl | rfl <;> rfl
  | .string _ => rcases value with rfl | rfl <;> rfl
  | .array items =>
      have opened : readFrom expected stack ((Json.array items).tokens ++ rest) =
          readFrom .itemOrEnd (.array [] :: stack) (itemTokens items ++ .closeArray :: rest) := by
        rw [tokens, List.append_assoc]
        rcases value with rfl | rfl <;> rfl
      rw [opened]
      by_cases some : items = []
      · rw [some]
        rfl
      · exact read_items items some (.inr rfl) [] stack rest
  | .object fields =>
      have opened : readFrom expected stack ((Json.object fields).tokens ++ rest) =
          readFrom .keyOrEnd (.object [] :: stack)
            (fieldTokens fields ++ .closeObject :: rest) := by
        rw [tokens, List.append_assoc]
        rcases value with rfl | rfl <;> rfl
      rw [opened]
      by_cases some : fields = []
      · rw [some]
        rfl
      · exact read_fields fields some (.inr rfl) [] stack rest

theorem read_items (items : List Json) (some : items ≠ []) {expected : Expected}
    (value : expected = .value ∨ expected = .itemOrEnd) (done : List Json) (stack : List Frame)
    (rest : List Token) :
    readFrom expected (.array done :: stack) (itemTokens items ++ .closeArray :: rest) =
      readFrom (.separator (.array (done.reverse ++ items))) stack rest := by
  match items with
  | [] => cases some rfl
  | [item] =>
      rw [itemTokens, read_tokens item value]
      have closed : readFrom (.separator item) (.array done :: stack) (.closeArray :: rest) =
          readFrom (.separator (.array (item :: done).reverse)) stack rest := rfl
      rw [closed, List.reverse_cons]
  | item :: other :: others =>
      have several : itemTokens (item :: other :: others) =
          item.tokens ++ .comma :: itemTokens (other :: others) := by simp [itemTokens]
      have next : readFrom (.separator item) (.array done :: stack)
          (.comma :: (itemTokens (other :: others) ++ .closeArray :: rest)) =
          readFrom .value (.array (item :: done) :: stack)
            (itemTokens (other :: others) ++ .closeArray :: rest) := rfl
      rw [several, List.append_assoc, read_tokens item value, List.cons_append, next,
        read_items (other :: others) (List.cons_ne_nil _ _) (.inl rfl), List.reverse_cons,
        List.append_assoc]
      rfl

theorem read_fields (fields : List (Option String × Json)) (some : fields ≠ [])
    {expected : Expected} (key : expected = .key ∨ expected = .keyOrEnd)
    (done : List (Option String × Json)) (stack : List Frame) (rest : List Token) :
    readFrom expected (.object done :: stack)
        (fieldTokens fields ++ .closeObject :: rest) =
      readFrom (.separator (.object (done.reverse ++ fields))) stack rest := by
  match fields with
  | [] => cases some rfl
  | [(name, value)] =>
      have named : readFrom expected (.object done :: stack)
          (fieldTokens [(name, value)] ++ .closeObject :: rest) =
          readFrom .value (.member done name :: stack)
            (value.tokens ++ .closeObject :: rest) := by
        rcases key with rfl | rfl <;> rfl
      have closed : readFrom (.separator value) (.member done name :: stack)
          (.closeObject :: rest) =
          readFrom (.separator (.object ((name, value) :: done).reverse)) stack rest := rfl
      rw [named, read_tokens value (.inl rfl), closed, List.reverse_cons]
  | (name, value) :: other :: others =>
      have several : fieldTokens ((name, value) :: other :: others) = .string name :: .colon ::
          value.tokens ++ .comma :: fieldTokens (other :: others) := by simp [fieldTokens]
      have named : readFrom expected (.object done :: stack) (.string name :: .colon ::
          (value.tokens ++ .comma :: (fieldTokens (other :: others) ++ .closeObject :: rest))) =
          readFrom .value (.member done name :: stack)
            (value.tokens ++ .comma ::
              (fieldTokens (other :: others) ++ .closeObject :: rest)) := by
        rcases key with rfl | rfl <;> rfl
      have next : readFrom (.separator value) (.member done name :: stack)
          (.comma :: (fieldTokens (other :: others) ++ .closeObject :: rest)) =
          readFrom .key (.object ((name, value) :: done) :: stack)
            (fieldTokens (other :: others) ++ .closeObject :: rest) := rfl
      simp only [several, List.append_assoc, List.cons_append]
      rw [named, read_tokens value (.inl rfl), next,
        read_fields (other :: others) (List.cons_ne_nil _ _) (.inl rfl), List.reverse_cons,
        List.append_assoc]
      rfl

end

/-- What is written for a plain tree is read as this tree. -/
theorem read_write {json : Json} (plain : json.IsPlain) : read json.write = some json := by
  have nothing : EndsWords [] := by
    intro byte same
    cases same
  have lexed : lexFrom .between [] (json.write ++ []) = _ := lex_write plain nothing
  rw [List.append_nil, List.append_nil] at lexed
  have found : tokensOf json.write = some json.tokens := by
    rw [tokensOf, lexed, lexFrom, lexEnd, List.reverse_reverse]
  have built : readFrom .value [] (json.tokens ++ []) = _ := read_tokens json (.inl rfl) [] []
  rw [List.append_nil] at built
  rw [read, found, Option.bind_eq_bind, Option.bind_some, built]
  rfl

end BrokerTenancy.Json
