import BrokerTenancy.Calendar.Instant
import Mathlib.Algebra.Group.Nat.Defs

/-!
The text of an instant is read back as the instant. Its parts stand in fixed widths, or end where no
digit can follow, so each reader stops where its part does. Every instant that is read from a text,
however leniently, is of the calendar, and so has a text of its own that is read back.
-/

namespace BrokerTenancy.Instant

/-- The parts of the instant are those of a day and of a time of day. -/
structure IsValid (instant : Instant) : Prop where
  date : instant.date.isValid = true
  hour : instant.hour < 24
  minute : instant.minute < 60
  second : instant.second < 61
  nanosecond : instant.nanosecond < 1000000000

/-! ## Numbers -/

/-- No digit stands in front. -/
def EndsDigits (rest : List Char) : Prop := ∀ character ∈ rest.head?, character.isDigit = false

section Digits

variable {digits rest : List Char}

theorem take_digits_onto_digits (all : ∀ character ∈ digits, character.isDigit = true)
    {limit : Nat} (room : digits.length ≤ limit)
    (ends : digits.length = limit ∨ EndsDigits rest) (value : Nat) :
    takeDigitsOnto value limit (digits ++ rest) = (Nat.ofDigitChars 10 digits value, rest) := by
  induction digits generalizing limit value with
  | nil =>
      rw [List.nil_append, Nat.ofDigitChars_nil]
      cases limit with
      | zero => rfl
      | succ limit =>
          have stops := ends.resolve_left (Nat.succ_ne_zero limit).symm
          cases rest with
          | nil => rfl
          | cons character rest =>
              have other : character.isDigit = false := stops character rfl
              simp [takeDigitsOnto, digitValue, other]
  | cons character digits induction =>
      rcases List.forall_mem_cons.mp all with ⟨first, others⟩
      cases limit with
      | zero => exact absurd room (Nat.not_succ_le_zero _)
      | succ limit =>
          have told : digitValue character = some (character.toNat - '0'.toNat) := if_pos first
          have fewer : digits.length = limit ∨ EndsDigits rest := ends.imp_left Nat.succ.inj
          simp only [List.cons_append, takeDigitsOnto, told, Nat.ofDigitChars_cons]
          rw [induction others (Nat.le_of_succ_le_succ room) fewer, Nat.mul_comm]

theorem take_number_digits (all : ∀ character ∈ digits, character.isDigit = true)
    (some : digits ≠ []) {limit : Nat} (room : digits.length ≤ limit)
    (ends : digits.length = limit ∨ EndsDigits rest) :
    takeNumber limit (digits ++ rest) = .some (Nat.ofDigitChars 10 digits 0, rest) := by
  cases digits with
  | nil => exact absurd rfl some
  | cons character digits =>
      rcases List.forall_mem_cons.mp all with ⟨first, others⟩
      rw [List.length_cons] at room ends
      have told : digitValue character = .some (character.toNat - '0'.toNat) := if_pos first
      have fewer : digits.length = limit - 1 ∨ EndsDigits rest := ends.imp_left Nat.eq_sub_of_add_eq
      have onto := take_digits_onto_digits others (Nat.le_sub_one_of_lt room) fewer
        (character.toNat - '0'.toNat)
      simp only [List.cons_append, takeNumber, told, Option.bind_eq_bind, Option.bind_some, onto,
        Nat.ofDigitChars_cons, Nat.mul_zero, Nat.zero_add]

theorem trim_front_digits (all : ∀ character ∈ digits, character.isDigit = true)
    (some : digits ≠ []) : trimFront (digits ++ rest) = digits ++ rest := by
  cases digits with
  | nil => exact absurd rfl some
  | cons character digits =>
      have digit := all character List.mem_cons_self
      have dark : isBlank character = false := by
        simp only [Char.isDigit, Bool.and_eq_true, decide_eq_true_eq, UInt32.le_iff_toNat_le]
          at digit
        simp only [isBlank, Char.toNat, Bool.or_eq_false_iff, Bool.and_eq_false_iff,
          decide_eq_false_iff_not, beq_eq_false_iff_ne]
        have low : '0'.val.toNat = 48 := rfl
        have high : '9'.val.toNat = 57 := rfl
        omega
      simp [trimFront, dark]

end Digits

theorem padded_eq (width value : Nat) :
    padded width value =
      List.replicate (width - (Nat.toDigits 10 value).length) '0' ++ Nat.toDigits 10 value := by
  rw [padded, Nat.toString_eq_repr, Nat.toList_repr]

theorem padded_digits (width value : Nat) :
    ∀ character ∈ padded width value, character.isDigit = true := by
  rw [padded_eq]
  intro character member
  rcases List.mem_append.mp member with zero | digit
  · rw [List.eq_of_mem_replicate zero]
    rfl
  · exact Nat.isDigit_of_mem_toDigits (by decide) (by decide) digit

theorem padded_value (width value : Nat) : Nat.ofDigitChars 10 (padded width value) 0 = value := by
  rw [padded_eq, Nat.ofDigitChars_append, Nat.ofDigitChars_replicate_zero, Nat.mul_zero,
    Nat.ofDigitChars_toDigits (by decide) (by decide)]

theorem padded_ne_nil (width value : Nat) : padded width value ≠ [] := by
  rw [padded_eq]
  exact List.append_ne_nil_of_right_ne_nil _ Nat.toDigits_ne_nil

theorem padded_length {width value : Nat} (positive : 0 < width) (small : value < 10 ^ width) :
    (padded width value).length = width := by
  have short := (Nat.length_toDigits_le_iff (by decide) positive).mpr small
  rw [padded_eq, List.length_append, List.length_replicate]
  exact Nat.sub_add_cancel short

section Padded

variable {width value : Nat} {rest : List Char}

theorem take_number_padded {limit : Nat} (positive : 0 < width) (small : value < 10 ^ width)
    (room : width ≤ limit) (ends : width = limit ∨ EndsDigits rest) :
    takeNumber limit (padded width value ++ rest) = some (value, rest) := by
  have length := padded_length positive small
  rw [take_number_digits (padded_digits width value) (padded_ne_nil width value), padded_value]
  · rw [length]
    exact room
  · rw [length]
    exact ends

theorem take_part_padded (small : value < 100) :
    takePart (padded 2 value ++ rest) = some (value, rest) := by
  rw [takePart, trim_front_digits (padded_digits 2 value) (padded_ne_nil 2 value)]
  exact take_number_padded (by decide) small (Nat.le_refl 2) (.inl rfl)

/-- A number of any length, with a sign in front of it and no digit behind it. -/
theorem take_number_signed (ends : EndsDigits rest) :
    takeNumber (padded width value ++ rest).length (padded width value ++ rest) =
      some (value, rest) := by
  rw [take_number_digits (padded_digits width value) (padded_ne_nil width value), padded_value]
  · rw [List.length_append]
    exact Nat.le_add_right _ _
  · exact .inr ends

end Padded

/-! ## The parts of a text -/

section Parts

variable {rest : List Char}

theorem take_year_text (year : Int) : takeYear (yearText year ++ '-' :: rest) =
    some (year, '-' :: rest) := by
  have ends : EndsDigits ('-' :: rest) := by
    intro character first
    cases first
    rfl
  rw [yearText]
  split
  · next within =>
    have small : year.toNat < 10 ^ 4 := by omega
    have read : takeNumber 4 (padded 4 year.toNat ++ '-' :: rest) =
        some (year.toNat, '-' :: rest) :=
      take_number_padded (by decide) small (Nat.le_refl 4) (.inl rfl)
    have same : ((year.toNat : Nat) : Int) = year := Int.toNat_of_nonneg within.1
    have digits := padded_digits 4 year.toNat
    rw [takeYear, trim_front_digits digits (padded_ne_nil 4 year.toNat)]
    -- The first character is a digit, so it is no sign.
    split
    · next unsigned signed =>
      rcases List.append_eq_cons_iff.mp signed with ⟨nothing, -⟩ | ⟨others, whole, -⟩
      · exact absurd nothing (padded_ne_nil 4 year.toNat)
      · rw [whole] at digits
        exact absurd (digits '-' List.mem_cons_self) (by decide)
    · next unsigned signed =>
      rcases List.append_eq_cons_iff.mp signed with ⟨nothing, -⟩ | ⟨others, whole, -⟩
      · exact absurd nothing (padded_ne_nil 4 year.toNat)
      · rw [whole] at digits
        exact absurd (digits '+' List.mem_cons_self) (by decide)
    · simp only [read, Option.bind_eq_bind, Option.bind_some, same]
  · next outside =>
    split
    · next negative =>
      have same : -((year.natAbs : Nat) : Int) = year := by omega
      have trimmed : trimFront ('-' :: (padded 4 year.natAbs ++ '-' :: rest)) =
          '-' :: (padded 4 year.natAbs ++ '-' :: rest) := rfl
      rw [List.cons_append, takeYear, trimmed]
      simp only [take_number_signed ends, Option.bind_eq_bind, Option.bind_some, same]
    · next late =>
      have same : ((year.natAbs : Nat) : Int) = year := by omega
      have trimmed : trimFront ('+' :: (padded 4 year.natAbs ++ '-' :: rest)) =
          '+' :: (padded 4 year.natAbs ++ '-' :: rest) := rfl
      rw [List.cons_append, takeYear, trimmed]
      simp only [take_number_signed ends, Option.bind_eq_bind, Option.bind_some, same]

theorem take_mark_same {mark : Char} (dark : isBlank mark = false) :
    takeMark mark (mark :: rest) = some rest := by
  simp [takeMark, trimFront, dark]

theorem take_fraction_digits {width value : Nat} (positive : 0 < width) (narrow : width ≤ 9)
    (small : value < 10 ^ width) :
    takeFraction ('.' :: padded width value ++ ['Z']) =
      some (value * tenPower (9 - width), ['Z']) := by
  have ends : EndsDigits ['Z'] := by
    intro character first
    cases first
    rfl
  have read : takeNumber 9 (padded width value ++ ['Z']) = some (value, ['Z']) :=
    take_number_padded positive small narrow (.inr ends)
  have count : (padded width value ++ ['Z']).length - ['Z'].length = width := by
    rw [List.length_append, Nat.add_sub_cancel, padded_length positive small]
  simp only [List.cons_append, takeFraction, read, Option.bind_eq_bind, Option.bind_some, count]
  rfl

theorem take_fraction_text {nanosecond : Nat} (small : nanosecond < 1000000000) :
    takeFraction (fractionText nanosecond ++ ['Z']) = some (nanosecond, ['Z']) := by
  rw [fractionText]
  split
  · next whole =>
    rw [whole]
    rfl
  · split
    · next exact =>
      rw [take_fraction_digits (by decide) (by decide) (by omega)]
      have same : nanosecond / 1000000 * tenPower 6 = nanosecond :=
        Nat.div_mul_cancel (Nat.dvd_of_mod_eq_zero exact)
      exact congrArg (fun value => some (value, ['Z'])) same
    · split
      · next exact =>
        rw [take_fraction_digits (by decide) (by decide) (by omega)]
        have same : nanosecond / 1000 * tenPower 3 = nanosecond :=
          Nat.div_mul_cancel (Nat.dvd_of_mod_eq_zero exact)
        exact congrArg (fun value => some (value, ['Z'])) same
      · rw [take_fraction_digits (by decide) (by decide) small]
        exact congrArg (fun value => some (value, ['Z'])) (Nat.mul_one nanosecond)

end Parts

theorem to_universal_zero (wall : Instant) (hour : wall.hour < 24) (minute : wall.minute < 60) :
    wall.toUniversal 0 = some wall := by
  have early : ¬((wall.hour * 60 + wall.minute : Nat) : Int) - 0 < 0 := by omega
  have late : ¬1440 ≤ ((wall.hour * 60 + wall.minute : Nat) : Int) - 0 := by omega
  have minutes : ((((wall.hour * 60 + wall.minute : Nat) : Int) - 0) % 1440).toNat =
      wall.hour * 60 + wall.minute := by omega
  have hours : (wall.hour * 60 + wall.minute) / 60 = wall.hour := by omega
  have left : (wall.hour * 60 + wall.minute) % 60 = wall.minute := by omega
  simp only [toUniversal, if_neg early, if_neg late, minutes, hours, left, Option.bind_eq_bind,
    Option.bind_some]
  rfl

theorem days_in_month_le (year : Int) (month : Nat) : daysInMonth year month ≤ 31 := by
  fun_cases daysInMonth year month <;> decide

theorem days_in_month_late (year : Int) {month : Nat} (late : 12 < month) :
    daysInMonth year month = 0 := by
  fun_cases daysInMonth year month <;> omega

theorem date_small {date : Date} (valid : date.isValid = true) :
    date.month < 100 ∧ date.day < 100 := by
  simp only [Date.isValid, Bool.and_eq_true, decide_eq_true_eq] at valid
  rcases valid with ⟨⟨-, day⟩, within⟩
  constructor
  · rcases Nat.lt_or_ge 12 date.month with late | early
    · rw [days_in_month_late date.year late] at within
      omega
    · omega
  · exact Nat.lt_of_le_of_lt (Nat.le_trans within (days_in_month_le _ _)) (by decide)

theorem of_text_to_text {instant : Instant} (valid : instant.IsValid) :
    ofText instant.toText = some instant := by
  rcases date_small valid.date with ⟨month, day⟩
  have hour : instant.hour < 100 := Nat.lt_trans valid.hour (by decide)
  have minute : instant.minute < 100 := Nat.lt_trans valid.minute (by decide)
  have second : instant.second < 100 := Nat.lt_trans valid.second (by decide)
  have dash : isBlank '-' = false := rfl
  have colon : isBlank ':' = false := rfl
  have separator (rest : List Char) : takeSeparator ('T' :: rest) = some rest := rfl
  have universal (rest : List Char) : takeOffset ('Z' :: rest) = some (0, rest) := rfl
  have nothing : (!(trimFront []).isEmpty) = false := rfl
  have ofDay : (!instant.date.isValid) = false := by rw [valid.date]; rfl
  have ofTime : ¬(24 ≤ instant.hour ∨ 60 ≤ instant.minute ∨ 61 ≤ instant.second) := by
    have hours := valid.hour
    have minutes := valid.minute
    have seconds := valid.second
    omega
  rw [ofText, toText, String.toList_ofList]
  simp only [List.append_assoc, List.cons_append]
  refine Option.bind_eq_some_iff.mpr ⟨_, take_year_text _, ?_⟩
  refine Option.bind_eq_some_iff.mpr ⟨_, take_mark_same dash, ?_⟩
  refine Option.bind_eq_some_iff.mpr ⟨_, take_part_padded month, ?_⟩
  refine Option.bind_eq_some_iff.mpr ⟨_, take_mark_same dash, ?_⟩
  refine Option.bind_eq_some_iff.mpr ⟨_, take_part_padded day, ?_⟩
  refine Option.bind_eq_some_iff.mpr ⟨_, separator _, ?_⟩
  refine Option.bind_eq_some_iff.mpr ⟨_, take_part_padded hour, ?_⟩
  refine Option.bind_eq_some_iff.mpr ⟨_, take_mark_same colon, ?_⟩
  refine Option.bind_eq_some_iff.mpr ⟨_, take_part_padded minute, ?_⟩
  refine Option.bind_eq_some_iff.mpr ⟨_, take_mark_same colon, ?_⟩
  refine Option.bind_eq_some_iff.mpr ⟨_, take_part_padded second, ?_⟩
  refine Option.bind_eq_some_iff.mpr ⟨_, take_fraction_text valid.nanosecond, ?_⟩
  refine Option.bind_eq_some_iff.mpr ⟨_, universal _, ?_⟩
  simp only [nothing, ofDay, ofTime, Bool.false_eq_true, if_false]
  exact to_universal_zero instant valid.hour valid.minute

/-! ## Instants that are read -/

theorem digit_value_lt {character : Char} {digit : Nat} (told : digitValue character = some digit) :
    digit < 10 := by
  rw [digitValue] at told
  split at told
  · next isDigit =>
    cases told
    simp only [Char.isDigit, Bool.and_eq_true, decide_eq_true_eq, UInt32.le_iff_toNat_le]
      at isDigit
    have high : '9'.val.toNat = 57 := rfl
    have zero : '0'.toNat = 48 := rfl
    rw [zero, Char.toNat]
    omega
  · cases told

/-- Each digit that is read makes the bound on the value ten times as large. -/
theorem take_digits_onto_lt {limit value read : Nat} {characters rest : List Char}
    (taken : takeDigitsOnto value limit characters = (read, rest)) :
    ∃ count ≤ limit, characters.length = rest.length + count ∧
      read < (value + 1) * 10 ^ count := by
  induction limit generalizing value characters with
  | zero =>
      cases taken
      exact ⟨0, Nat.le_refl 0, rfl, by omega⟩
  | succ limit induction =>
      cases characters with
      | nil =>
          cases taken
          exact ⟨0, Nat.zero_le _, rfl, by omega⟩
      | cons character characters =>
          rw [takeDigitsOnto] at taken
          split at taken
          · next digit told =>
            rcases induction taken with ⟨count, within, lengths, small⟩
            have single := digit_value_lt told
            have larger : value * 10 + digit + 1 ≤ (value + 1) * 10 := by omega
            have bound := Nat.lt_of_lt_of_le small (Nat.mul_le_mul_right (10 ^ count) larger)
            rw [Nat.mul_assoc, ← Nat.pow_succ'] at bound
            exact ⟨count + 1, Nat.succ_le_succ within, congrArg Nat.succ lengths, bound⟩
          · cases taken
            exact ⟨0, Nat.zero_le _, rfl, by omega⟩

theorem take_number_lt {limit read : Nat} {characters rest : List Char} (positive : 0 < limit)
    (taken : takeNumber limit characters = some (read, rest)) :
    ∃ count ≤ limit, characters.length = rest.length + count ∧ read < 10 ^ count := by
  cases characters with
  | nil => cases taken
  | cons character characters =>
      rcases Option.bind_eq_some_iff.mp taken with ⟨digit, told, onto⟩
      rcases take_digits_onto_lt (Option.some.inj onto) with ⟨count, within, lengths, small⟩
      have larger : digit + 1 ≤ 10 := digit_value_lt told
      have bound := Nat.lt_of_lt_of_le small (Nat.mul_le_mul_right (10 ^ count) larger)
      rw [← Nat.pow_succ'] at bound
      exact ⟨count + 1, by omega, congrArg Nat.succ lengths, bound⟩

theorem take_fraction_lt {characters rest : List Char} {nanosecond : Nat}
    (taken : takeFraction characters = some (nanosecond, rest)) : nanosecond < 1000000000 := by
  rw [takeFraction.eq_def] at taken
  split at taken
  · next digits =>
    rcases Option.bind_eq_some_iff.mp taken with ⟨⟨value, suffix⟩, read, whole⟩
    rcases take_number_lt (by decide) read with ⟨count, within, lengths, small⟩
    have several : digits.length - suffix.length = count := by omega
    cases whole
    have positive : 0 < 10 ^ (9 - count) := Nat.pow_pos (by decide)
    have scaled := Nat.mul_lt_mul_of_pos_right small positive
    rw [← Nat.pow_add, Nat.add_sub_cancel' within] at scaled
    simp only [several]
    exact scaled
  · cases taken
    decide

theorem date_next_valid {date following : Date} (found : date.next = some following) :
    following.isValid = true := by
  rcases Option.ite_none_right_eq_some.mp found with ⟨valid, same⟩
  exact Option.some.inj same ▸ valid

theorem date_previous_valid {date preceding : Date} (found : date.previous = some preceding) :
    preceding.isValid = true := by
  rcases Option.ite_none_right_eq_some.mp found with ⟨valid, same⟩
  exact Option.some.inj same ▸ valid

theorem to_universal_valid {wall instant : Instant} {offset : Int} (date : wall.date.isValid = true)
    (second : wall.second < 61) (nanosecond : wall.nanosecond < 1000000000)
    (found : wall.toUniversal offset = some instant) : instant.IsValid := by
  have minutes : (((wall.hour * 60 + wall.minute : Nat) - offset) % 1440).toNat < 1440 := by omega
  have ofDay (day : Date) (valid : day.isValid = true) : IsValid
      { wall with
        date := day
        hour := (((wall.hour * 60 + wall.minute : Nat) - offset) % 1440).toNat / 60
        minute := (((wall.hour * 60 + wall.minute : Nat) - offset) % 1440).toNat % 60 } :=
    ⟨valid, Nat.div_lt_of_lt_mul minutes, Nat.mod_lt _ (by decide), second, nanosecond⟩
  rw [toUniversal] at found
  split at found
  · cases found
  · dsimp only at found
    split at found
    · rcases Option.bind_eq_some_iff.mp found with ⟨day, moved, whole⟩
      cases whole
      exact ofDay day (date_previous_valid moved)
    · split at found
      · rcases Option.bind_eq_some_iff.mp found with ⟨day, moved, whole⟩
        cases whole
        exact ofDay day (date_next_valid moved)
      · cases found
        exact ofDay wall.date date

theorem of_text_valid {text : String} {instant : Instant} (read : ofText text = some instant) :
    instant.IsValid := by
  rw [ofText] at read
  rcases Option.bind_eq_some_iff.mp read with ⟨⟨year, _⟩, -, read⟩
  rcases Option.bind_eq_some_iff.mp read with ⟨_, -, read⟩
  rcases Option.bind_eq_some_iff.mp read with ⟨⟨month, _⟩, -, read⟩
  rcases Option.bind_eq_some_iff.mp read with ⟨_, -, read⟩
  rcases Option.bind_eq_some_iff.mp read with ⟨⟨day, _⟩, -, read⟩
  rcases Option.bind_eq_some_iff.mp read with ⟨_, -, read⟩
  rcases Option.bind_eq_some_iff.mp read with ⟨⟨hour, _⟩, -, read⟩
  rcases Option.bind_eq_some_iff.mp read with ⟨_, -, read⟩
  rcases Option.bind_eq_some_iff.mp read with ⟨⟨minute, _⟩, -, read⟩
  rcases Option.bind_eq_some_iff.mp read with ⟨_, -, read⟩
  rcases Option.bind_eq_some_iff.mp read with ⟨⟨second, _⟩, -, read⟩
  rcases Option.bind_eq_some_iff.mp read with ⟨⟨nanosecond, _⟩, fraction, read⟩
  rcases Option.bind_eq_some_iff.mp read with ⟨⟨offset, _⟩, -, read⟩
  dsimp only at read
  split at read
  · cases read
  split at read
  · cases read
  split at read
  · cases read
  · next date time =>
    apply to_universal_valid _ _ (take_fraction_lt fraction) read
    · simpa using date
    · simp only
      omega

/-- What is read is written so that it is read again. -/
theorem of_text_again {text : String} {instant : Instant} (read : ofText text = some instant) :
    ofText instant.toText = some instant := of_text_to_text (of_text_valid read)

end BrokerTenancy.Instant
