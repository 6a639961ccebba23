import BrokerTenancy.Proofs.Log.Codec
import BrokerTenancy.Wire.Server

/-!
Fields, bindings, filters and requests come back from their bytes: what is written is read from in
front of anything. A list comes back as long as its length fits the word in front of it.
-/

namespace BrokerTenancy

theorem decode_big_encode {width value : Nat} (fits : value < bytePower width) :
    decodeBig (encodeBig width value) = value := by
  rw [decodeBig, encodeBig, List.reverse_reverse, decode_little_encode, Nat.mod_eq_of_lt fits]

theorem take_big_encode (width value : Nat) (rest : List UInt8) (fits : value < bytePower width) :
    takeBig width (encodeBig width value ++ rest) = some (value, rest) := by
  have split := take_bytes_append (encodeBig width value) rest
  rw [encode_big_length] at split
  simp [takeBig, split, decode_big_encode fits]

namespace Wire

@[simp]
theorem write_integer_length (width : Nat) (value : Int) :
    (writeInteger width value).length = width :=
  encode_big_length width _

theorem read_integer_word (width : Nat) (value : Int) (rest : List UInt8)
    (positive : 0 < bytePower width) :
    readInteger width (writeInteger width value ++ rest) =
      some (intOfWord width (wordOfInt width value), rest) := by
  have taken := take_big_encode width _ rest (word_of_int_lt width value positive)
  rw [readInteger, writeInteger, taken]
  rfl

theorem read_integer_write {width : Nat} {value : Int} (rest : List UInt8)
    (above : -(bytePower width : Int) ≤ 2 * value) (below : 2 * value < bytePower width) :
    readInteger width (writeInteger width value ++ rest) = some (value, rest) := by
  have positive : 0 < bytePower width := by omega
  rw [read_integer_word width value rest positive, int_of_word_of_int width value above below]

theorem read_length_write {width length : Nat} (rest : List UInt8)
    (fits : 2 * length < bytePower width) :
    readInteger width (writeInteger width length ++ rest) = some ((length : Int), rest) := by
  apply read_integer_write <;> omega

theorem write_integer_decode (bytes : List UInt8) :
    writeInteger bytes.length (intOfWord bytes.length (decodeBig bytes)) = bytes := by
  have fits := decode_little_lt bytes.reverse
  have back := encode_little_decode bytes.reverse
  rw [List.length_reverse] at fits back
  rw [writeInteger, decodeBig, word_of_int_of_word fits, encodeBig, back, List.reverse_reverse]

theorem read_integer_ok {width : Nat} {value : Int} {bytes rest : List UInt8}
    (read : readInteger width bytes = some (value, rest)) :
    bytes = writeInteger width value ++ rest := by
  simp only [readInteger, takeBig, takeBytes, Option.bind_eq_bind, Option.bind_eq_some_iff] at read
  rcases read with ⟨⟨word, suffix⟩, ⟨⟨front, behind⟩, cut, taken⟩, told⟩
  split at cut
  · next within =>
      rw [List.splitAt_eq] at cut
      cases cut
      cases taken
      cases told
      have size : (bytes.take width).length = width := List.length_take_of_le within
      have written := write_integer_decode (bytes.take width)
      rw [size] at written
      rw [written, List.take_append_drop]
  · cases cut

/-- A text short enough to be written. -/
def FitsText (text : String) : Prop := (encodeText text).length ≤ textLimit

instance (text : String) : Decidable (FitsText text) :=
  inferInstanceAs (Decidable ((encodeText text).length ≤ textLimit))

theorem write_text_fits {text : String} (fits : FitsText text) :
    writeText text = some (writeInteger 2 (encodeText text).length ++ encodeText text) :=
  if_pos fits

theorem fits_of_write_text {text : String} {bytes : List UInt8}
    (written : writeText text = some bytes) : FitsText text :=
  (Option.ite_none_right_eq_some.mp written).1

theorem FitsText.short {text : String} (fits : FitsText text) :
    2 * (encodeText text).length < bytePower 2 := by
  have limit : (encodeText text).length ≤ 32767 := fits
  have wide : bytePower 2 = 65536 := rfl
  omega

theorem read_text_write {text : String} {bytes : List UInt8} (written : writeText text = some bytes)
    (rest : List UInt8) : readText (bytes ++ rest) = some (text, rest) := by
  have fits := fits_of_write_text written
  rw [write_text_fits fits] at written
  cases written
  simp only [readText, List.append_assoc, Option.bind_eq_bind, read_length_write _ fits.short,
    Option.bind_some]
  change readTextOf (encodeText text).length (encodeText text ++ rest) = some (text, rest)
  simp [readTextOf, take_bytes_append, decode_text_encode]

theorem read_optional_text_write {text : Option String} {bytes : List UInt8}
    (written : writeOptionalText text = some bytes) (rest : List UInt8) :
    readOptionalText (bytes ++ rest) = some (text, rest) := by
  cases text with
  | none =>
      cases written
      have marked : readInteger 2 (writeInteger 2 (-1) ++ rest) = some (-1, rest) := by
        apply read_integer_write <;> decide
      simp [readOptionalText, marked]
  | some text =>
      change writeText text = some bytes at written
      have read := read_text_write written rest
      have fits := fits_of_write_text written
      have present : ((encodeText text).length : Int) ≠ -1 := by omega
      rw [write_text_fits fits] at written
      cases written
      rw [List.append_assoc] at read ⊢
      simp only [readOptionalText, Option.bind_eq_bind, read_length_write _ fits.short,
        Option.bind_some, present, if_false, read]

theorem written_parts {first second : Option (List UInt8)} {bytes : List UInt8}
    (written : (first.bind fun front => second.bind fun behind => some (front ++ behind)) =
      some bytes) :
    ∃ front behind, first = some front ∧ second = some behind ∧ bytes = front ++ behind := by
  simp only [Option.bind_eq_some_iff] at written
  obtain ⟨front, frontWritten, behind, behindWritten, whole⟩ := written
  exact ⟨front, behind, frontWritten, behindWritten, (Option.some.inj whole).symm⟩

/-! ## Lists -/

/-- What is written of an item, if it has at most so many bytes, is read as the view of the item. -/
def ReadsBack {Item Value : Type} (size : Nat) (write : Item → Option (List UInt8))
    (read : List UInt8 → Option (Value × List UInt8)) (view : Item → Value) : Prop :=
  ∀ item bytes, write item = some bytes → bytes.length ≤ size →
    ∀ rest, read (bytes ++ rest) = some (view item, rest)

section Lists

variable {Item Value : Type} {size : Nat} {write : Item → Option (List UInt8)}
  {read : List UInt8 → Option (Value × List UInt8)} {view : Item → Value}

theorem write_list_eq {items : List Item} {bytes : List UInt8}
    (written : writeList write items = some bytes) :
    ∃ parts, items.mapM write = some parts ∧
      bytes = writeInteger 4 items.length ++ parts.flatten := by
  obtain ⟨parts, each, whole⟩ := Option.bind_eq_some_iff.mp written
  exact ⟨parts, each, (Option.some.inj whole).symm⟩

theorem map_m_cons_eq {item : Item} {items : List Item} {parts : List (List UInt8)}
    (each : (item :: items).mapM write = some parts) :
    ∃ part others, write item = some part ∧ items.mapM write = some others ∧
      parts = part :: others := by
  simp only [List.mapM_cons, Option.bind_eq_bind, Option.bind_eq_some_iff] at each
  obtain ⟨part, first, others, following, same⟩ := each
  exact ⟨part, others, first, following, (Option.some.inj same).symm⟩

theorem read_many_write (back : ReadsBack size write read view) {items : List Item}
    {parts : List (List UInt8)} (each : items.mapM write = some parts)
    (small : parts.flatten.length ≤ size) (rest : List UInt8) :
    readMany read items.length (parts.flatten ++ rest) = some (items.map view, rest) := by
  induction items generalizing parts with
  | nil =>
      cases each
      rfl
  | cons item items induction =>
      obtain ⟨part, others, first, following, rfl⟩ := map_m_cons_eq each
      rw [List.flatten_cons, List.length_append] at small
      have front := back item part first (by omega) (others.flatten ++ rest)
      have behind := induction following (by omega)
      simp only [List.length_cons, List.flatten_cons, List.append_assoc, readMany,
        Option.bind_eq_bind, front, Option.bind_some, behind, List.map_cons]

theorem read_list_write (back : ReadsBack size write read view) {items : List Item}
    {bytes : List UInt8} (written : writeList write items = some bytes)
    (countFits : 2 * items.length < bytePower 4) (small : bytes.length ≤ size)
    (rest : List UInt8) : readList read (bytes ++ rest) = some (items.map view, rest) := by
  obtain ⟨parts, each, rfl⟩ := write_list_eq written
  rw [List.length_append] at small
  have many := read_many_write back each (by omega) rest
  simp only [readList, List.append_assoc, Option.bind_eq_bind, read_length_write _ countFits,
    Option.bind_some]
  exact many

/-- Items that take up room are no more than their bytes. -/
theorem count_le_length (room : ∀ item bytes, write item = some bytes → 0 < bytes.length)
    {items : List Item} {parts : List (List UInt8)} (each : items.mapM write = some parts) :
    items.length ≤ parts.flatten.length := by
  induction items generalizing parts with
  | nil => exact Nat.zero_le _
  | cons item items induction =>
      obtain ⟨part, others, first, following, rfl⟩ := map_m_cons_eq each
      have filled := room item part first
      have behind := induction following
      rw [List.flatten_cons, List.length_append, List.length_cons]
      omega

theorem count_fits (room : ∀ item bytes, write item = some bytes → 0 < bytes.length)
    {items : List Item} {bytes : List UInt8} (written : writeList write items = some bytes)
    (bounded : 2 * bytes.length < bytePower 4) : 2 * items.length < bytePower 4 := by
  obtain ⟨parts, each, rfl⟩ := write_list_eq written
  have few := count_le_length room each
  rw [List.length_append] at bounded
  omega

theorem ReadsBack.list (back : ReadsBack size write read view)
    (room : ∀ item bytes, write item = some bytes → 0 < bytes.length)
    (bounded : 2 * size < bytePower 4) :
    ReadsBack size (writeList write) (readList read) (List.map view) := by
  intro items bytes written small rest
  have countFits := count_fits room written (by omega)
  exact read_list_write back written countFits small rest

theorem exists_write_list {items : List Item}
    (writable : ∀ item ∈ items, ∃ bytes, write item = some bytes) :
    ∃ bytes, writeList write items = some bytes := by
  have each : ∃ parts, items.mapM write = some parts := by
    induction items with
    | nil => exact ⟨[], rfl⟩
    | cons item items induction =>
        obtain ⟨part, first⟩ := writable item List.mem_cons_self
        obtain ⟨others, following⟩ :=
          induction fun other later => writable other (List.mem_cons_of_mem item later)
        exact ⟨part :: others, by simp [List.mapM_cons, first, following]⟩
  obtain ⟨parts, each⟩ := each
  exact ⟨writeInteger 4 items.length ++ parts.flatten, by simp [writeList, each]⟩

end Lists

/-! ## Choices -/

/-- Choices are told by codes of one byte, none of which is the code for any choice. -/
structure Coded {Choice : Type} (code : Choice → Nat) (ofCode : Int → Option Choice) : Prop where
  small : ∀ choice, 2 * code choice < bytePower 1
  back : ∀ choice, ofCode (code choice) = some choice
  any : ofCode (anyCode : Int) = none

theorem resource_type_coded : Coded ResourceType.code ResourceType.ofCode where
  small choice := by cases choice <;> decide
  back choice := by cases choice <;> rfl
  any := rfl

theorem pattern_type_coded : Coded PatternType.code PatternType.ofCode where
  small choice := by cases choice <;> decide
  back choice := by cases choice <;> rfl
  any := rfl

theorem operation_coded : Coded Operation.code Operation.ofCode where
  small choice := by cases choice <;> decide
  back choice := by cases choice <;> rfl
  any := rfl

theorem effect_coded : Coded Effect.code Effect.ofCode where
  small choice := by cases choice <;> decide
  back choice := by cases choice <;> rfl
  any := rfl

section Choices

variable {Choice : Type} {code : Choice → Nat} {ofCode : Int → Option Choice}

theorem Coded.read (coded : Coded code ofCode) (choice : Choice) (rest : List UInt8) :
    readInteger 1 (writeInteger 1 (code choice) ++ rest) = some ((code choice : Int), rest) :=
  read_length_write rest (coded.small choice)

theorem Coded.read_choice (coded : Coded code ofCode) (choice : Option Choice)
    (rest : List UInt8) :
    readInteger 1 (writeChoice code choice ++ rest) =
      some (((choice.elim anyCode code : Nat) : Int), rest) := by
  cases choice with
  | none => exact read_length_write rest (show 2 * anyCode < bytePower 1 by decide)
  | some choice => exact coded.read choice rest

theorem Coded.of_choice (coded : Coded code ofCode) (choice : Option Choice) :
    ofCode ((choice.elim anyCode code : Nat) : Int) = choice := by
  cases choice with
  | none => exact coded.any
  | some choice => exact coded.back choice

end Choices

/-! ## Bindings and filters -/

/-- The resources that a binding is about. -/
def resourceOf (binding : Binding) : ResourcePattern where
  resourceType := binding.resourceType
  resourceName := binding.resourceName
  patternType := binding.patternType

/-- Who may do what according to a binding, on other resources. -/
def onResource (resource : ResourcePattern) (binding : Binding) : Binding :=
  { binding with
    resourceType := resource.resourceType
    resourceName := resource.resourceName
    patternType := resource.patternType }

theorem on_own_resource (binding : Binding) : onResource (resourceOf binding) binding = binding :=
  rfl

theorem read_resource_write {binding : Binding} {bytes : List UInt8}
    (written : writeResource binding = some bytes) (rest : List UInt8) :
    readResource (bytes ++ rest) = some (some (resourceOf binding), rest) := by
  obtain ⟨name, named, whole⟩ := Option.bind_eq_some_iff.mp written
  cases whole
  simp only [readResource, List.append_assoc, Option.bind_eq_bind, resource_type_coded.read,
    Option.bind_some, read_text_write named, pattern_type_coded.read, resource_type_coded.back,
    pattern_type_coded.back]
  rfl

theorem read_grant_write (resource : ResourcePattern) {binding : Binding} {bytes : List UInt8}
    (written : writeGrant binding = some bytes) (rest : List UInt8) :
    readGrant (some resource) (bytes ++ rest) =
      some (some (onResource resource binding), rest) := by
  simp only [writeGrant, Option.bind_eq_bind, Option.bind_eq_some_iff] at written
  obtain ⟨principal, principalWritten, host, hostWritten, whole⟩ := written
  cases whole
  simp only [readGrant, List.append_assoc, Option.bind_eq_bind, read_text_write principalWritten,
    Option.bind_some, read_text_write hostWritten, operation_coded.read, effect_coded.read,
    operation_coded.back, effect_coded.back]
  rfl

theorem read_binding_write {binding : Binding} {bytes : List UInt8}
    (written : writeBinding binding = some bytes) (rest : List UInt8) :
    readBinding (bytes ++ rest) = some (some binding, rest) := by
  obtain ⟨resource, grant, resourceWritten, grantWritten, rfl⟩ := written_parts written
  simp only [readBinding, List.append_assoc, Option.bind_eq_bind,
    read_resource_write resourceWritten, Option.bind_some, read_grant_write _ grantWritten,
    on_own_resource]

theorem read_filter_write {filter : BindingFilter} {bytes : List UInt8}
    (written : writeFilter filter = some bytes) (rest : List UInt8) :
    readFilter (bytes ++ rest) = some (filter, rest) := by
  simp only [writeFilter, Option.bind_eq_bind, Option.bind_eq_some_iff] at written
  obtain ⟨name, nameWritten, principal, principalWritten, host, hostWritten, whole⟩ := written
  cases whole
  simp only [readFilter, List.append_assoc, Option.bind_eq_bind, Option.bind_some,
    resource_type_coded.read_choice, read_optional_text_write nameWritten,
    pattern_type_coded.read_choice, read_optional_text_write principalWritten,
    read_optional_text_write hostWritten, operation_coded.read_choice, effect_coded.read_choice,
    resource_type_coded.of_choice, pattern_type_coded.of_choice, operation_coded.of_choice,
    effect_coded.of_choice]

end Wire

/-- The texts of a binding. -/
def Binding.texts (binding : Binding) : List String :=
  [binding.resourceName, binding.principal, binding.host]

/-- The texts that a filter asks for. -/
def BindingFilter.texts (filter : BindingFilter) : List String :=
  [filter.resourceName, filter.principal, filter.host].filterMap id

namespace AdminCall

def texts : AdminCall → List String
  | .describe filter => filter.texts
  | .create bindings => bindings.flatMap Binding.texts
  | .delete filters => filters.flatMap BindingFilter.texts

/-- How many results a call asks for, apart from a listing. -/
def size : AdminCall → Nat
  | .describe _ => 0
  | .create bindings => bindings.length
  | .delete filters => filters.length

end AdminCall

namespace Wire

theorem exists_write_binding {binding : Binding} (fits : ∀ text ∈ binding.texts, FitsText text) :
    ∃ bytes, writeBinding binding = some bytes := by
  have name := write_text_fits (fits binding.resourceName (by simp [Binding.texts]))
  have principal := write_text_fits (fits binding.principal (by simp [Binding.texts]))
  have host := write_text_fits (fits binding.host (by simp [Binding.texts]))
  simp [writeBinding, writeResource, writeGrant, name, principal, host]

theorem exists_write_optional_text {text : Option String}
    (fits : ∀ given, text = some given → FitsText given) :
    ∃ bytes, writeOptionalText text = some bytes := by
  cases text with
  | none => exact ⟨_, rfl⟩
  | some given => exact ⟨_, write_text_fits (fits given rfl)⟩

theorem exists_write_filter {filter : BindingFilter}
    (fits : ∀ text ∈ filter.texts, FitsText text) : ∃ bytes, writeFilter filter = some bytes := by
  have given (field : Option String)
      (asked : field ∈ [filter.resourceName, filter.principal, filter.host]) :
      ∃ bytes, writeOptionalText field = some bytes := by
    apply exists_write_optional_text
    rintro text rfl
    exact fits text (List.mem_filterMap.mpr ⟨some text, asked, rfl⟩)
  obtain ⟨name, nameWritten⟩ := given filter.resourceName (by simp)
  obtain ⟨principal, principalWritten⟩ := given filter.principal (by simp)
  obtain ⟨host, hostWritten⟩ := given filter.host (by simp)
  simp [writeFilter, nameWritten, principalWritten, hostWritten]

theorem exists_write_call {call : AdminCall} (fits : ∀ text ∈ call.texts, FitsText text) :
    ∃ bytes, writeCall call = some bytes := by
  cases call with
  | describe filter => exact exists_write_filter fits
  | create bindings =>
      apply exists_write_list
      intro binding wanted
      apply exists_write_binding
      intro text inside
      exact fits text (List.mem_flatMap.mpr ⟨binding, wanted, inside⟩)
  | delete filters =>
      apply exists_write_list
      intro filter wanted
      apply exists_write_filter
      intro text inside
      exact fits text (List.mem_flatMap.mpr ⟨filter, wanted, inside⟩)

/-! ## Requests -/

theorem map_m_some {Item : Type} (items : List Item) : items.mapM some = some items := by
  induction items with
  | nil => rfl
  | cons item items induction => simp [List.mapM_cons, induction]

theorem read_request_write {correlation : Int} {call : AdminCall} {request : List UInt8}
    (above : -(bytePower 4 : Int) ≤ 2 * correlation) (below : 2 * correlation < bytePower 4)
    (countFits : 2 * call.size < bytePower 4)
    (written : writeRequest correlation call = some request) :
    readRequest request = some (correlation, call) := by
  simp only [writeRequest, writeHeader, Option.bind_eq_bind, Option.bind_eq_some_iff] at written
  obtain ⟨header, ⟨name, named, headed⟩, body, bodyWritten, whole⟩ := written
  cases headed
  cases whole
  have named : writeOptionalText (some clientName) = some name := named
  have keyed : 2 * call.key < bytePower 2 := by
    unfold AdminCall.key
    split <;> decide
  have numbered : 2 * version < bytePower 2 := by decide
  simp only [readRequest, List.append_assoc, Option.bind_eq_bind, Option.bind_some,
    read_length_write _ keyed, read_length_write _ numbered,
    read_integer_write _ above below, read_optional_text_write named]
  cases call with
  | describe filter =>
      have read := read_filter_write bodyWritten []
      rw [List.append_nil] at read
      simp [AdminCall.key, read]
  | create bindings =>
      have back : ReadsBack body.length writeBinding readBinding some :=
        fun _ _ written _ rest => read_binding_write written rest
      have read := read_list_write back bodyWritten countFits (Nat.le_refl _) []
      rw [List.append_nil] at read
      simp [AdminCall.key, read, map_m_some]
  | delete filters =>
      have back : ReadsBack body.length writeFilter readFilter id :=
        fun _ _ written _ rest => read_filter_write written rest
      have read := read_list_write back bodyWritten countFits (Nat.le_refl _) []
      rw [List.append_nil] at read
      simp [AdminCall.key, read]

end Wire

end BrokerTenancy
