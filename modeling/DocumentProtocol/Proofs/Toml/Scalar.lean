import DocumentProtocol.Toml.Scalar

/-!
# Reading plain values as they were written

A natural number is written with its digits and nothing else, so it is read as no date and as no
other kind of number. A plain value ends before the first character that no word holds.
-/

namespace DocumentProtocol

namespace Numeral

theorem digit?_of_isDigit {character : Char} (digit : character.isDigit = true) :
    digit? 10 character = some (character.toNat - '0'.toNat) := by
  obtain ⟨low, high⟩ := Char.isDigit_iff_toNat.1 digit
  have zero : '0'.toNat = 48 := rfl
  have nine : '9'.toNat = 57 := rfl
  rw [digit?, if_pos ⟨low, high⟩]
  exact if_pos (by omega)

theorem continue?_eq_ofDigitChars {characters : List Char}
    (digits : ∀ character ∈ characters, character.isDigit = true) (value : Nat) :
    continue? 10 value characters = some (Nat.ofDigitChars 10 characters value) := by
  induction characters generalizing value with
  | nil => rfl
  | cons character characters ih =>
      obtain ⟨first, behind⟩ := List.forall_mem_cons.1 digits
      rw [continue?, digit?_of_isDigit first, Nat.ofDigitChars_cons, Nat.mul_comm 10 value]
      exact ih behind _

theorem isDigit_toDigits (number : Nat) :
    ∀ character ∈ Nat.toDigits 10 number, character.isDigit = true :=
  fun _ => Nat.isDigit_of_mem_toDigits (by decide) (by decide)

theorem digits?_toDigits (number : Nat) : digits? 10 (Nat.toDigits 10 number) = some number := by
  have value := continue?_eq_ofDigitChars (isDigit_toDigits number) 0
  rw [Nat.ofDigitChars_toDigits (by decide) (by decide)] at value
  cases digits : Nat.toDigits 10 number with
  | nil => exact absurd digits Nat.toDigits_ne_nil
  | cons first behind => rw [digits?, ← digits, value]; simp

theorem head?_toDigits_ne_zero {number : Nat} (positive : 0 < number) :
    (Nat.toDigits 10 number).head? ≠ some '0' := by
  induction number using Nat.strongRecOn with
  | ind number ih =>
      rw [Nat.toDigits_eq_if (by decide)]
      split
      case isTrue small =>
        have single : ∀ digit < 10, 0 < digit → digit.digitChar ≠ '0' := by decide
        simpa using single number small positive
      case isFalse large =>
        rw [List.head?_append, Option.or_of_isSome (by simp [Nat.toDigits_ne_nil])]
        exact ih (number / 10) (by omega) (by omega)

end Numeral

namespace Toml

/-- A run of characters ends where the first other one stands. -/
theorem takeWhile_dropWhile_append {keep : Char → Bool} {text rest : List Char}
    (whole : ∀ character ∈ text, keep character = true)
    (stops : ∀ first ∈ rest.head?, keep first = false) :
    (text ++ rest).takeWhile keep = text ∧ (text ++ rest).dropWhile keep = rest := by
  rw [List.takeWhile_append_of_pos whole, List.dropWhile_append_of_pos whole]
  cases rest with
  | nil => simp
  | cons first behind => simp [stops first rfl]

namespace Scalar

/-! ### Numbers -/

theorem hasLeadingZero_toDigits (number : Nat) :
    hasLeadingZero (Nat.toDigits 10 number) = false := by
  rcases Nat.eq_zero_or_pos number with rfl | positive
  · rfl
  · have first := Numeral.head?_toDigits_ne_zero positive
    rw [hasLeadingZero.eq_def]
    split <;> simp_all

theorem furtherDigits?_eq_self {text : List Char}
    (digits : ∀ character ∈ text, character.isDigit = true) :
    furtherDigits? 10 text = some text := by
  induction text with
  | nil => rfl
  | cons character text ih =>
      obtain ⟨first, behind⟩ := List.forall_mem_cons.1 digits
      have known : (Numeral.digit? 10 character).isSome = true := by
        rw [Numeral.digit?_of_isDigit first, Option.isSome_some]
      rw [furtherDigits?.eq_def]
      split
      case h_1 shape => cases shape
      case h_2 shape => cases shape; contradiction
      case h_3 shape => cases shape; rw [if_pos known, ih behind, Option.map_some]

theorem grouped?_toDigits (number : Nat) : grouped? 10 (Nat.toDigits 10 number) = some number := by
  have all := Numeral.isDigit_toDigits number
  have ungrouped : ungrouped? 10 (Nat.toDigits 10 number) = some (Nat.toDigits 10 number) := by
    cases digits : Nat.toDigits 10 number with
    | nil => exact absurd digits Nat.toDigits_ne_nil
    | cons first behind =>
        rw [digits] at all
        obtain ⟨digit, further⟩ := List.forall_mem_cons.1 all
        rw [ungrouped?, furtherDigits?_eq_self further, Numeral.digit?_of_isDigit digit]
        rfl
  rw [grouped?, ungrouped, Option.bind_some, Numeral.digits?_toDigits]

theorem wholeNumber?_toDigits (number : Nat) :
    wholeNumber? (Nat.toDigits 10 number) = some (number : Int) := by
  have all := Numeral.isDigit_toDigits number
  have decimal : decimal? (Nat.toDigits 10 number) = some number := by
    rw [decimal?, hasLeadingZero_toDigits, grouped?_toDigits]
    rfl
  rw [wholeNumber?.eq_def]
  split
  case h_4 =>
    have noSign : unsigned (Nat.toDigits 10 number) = (false, Nat.toDigits 10 number) := by
      rw [unsigned.eq_def]
      split
      case h_3 => rfl
      all_goals rename_i shape; simp [shape] at all
    rw [noSign]
    simp [decimal]
  -- the second character of the other numbers is no digit
  all_goals rename_i shape; simp [shape] at all

theorem integer?_toDigits {number : Nat} (fits : number < Bytes.doubleWordLimit) :
    integer? (Nat.toDigits 10 number) = some (number : Int) := by
  rw [integer?, wholeNumber?_toDigits, Option.filter_some, if_pos]
  have limit : Bytes.doubleWordLimit = 2 ^ 63 := rfl
  simp only [decide_eq_true_eq]
  omega

/-! ### No dates -/

theorem behind?_eq_none {mark : Char} (other : mark.isDigit = false) {text : List Char}
    (digits : ∀ character ∈ text, character.isDigit = true) : behind? mark text = none := by
  cases text with
  | nil => rfl
  | cons first behind =>
      have digit := digits first List.mem_cons_self
      rw [behind?, if_neg]
      rintro rfl
      simp [other] at digit

/-- Behind a number of a fixed size, digits alone have no mark. -/
theorem behind?_of_fixedNumber? {mark : Char} (other : mark.isDigit = false) {text : List Char}
    (digits : ∀ character ∈ text, character.isDigit = true) {size number : Nat}
    {rest : List Char} (found : fixedNumber? size text = some (number, rest)) :
    behind? mark rest = none := by
  rw [fixedNumber?] at found
  split at found
  case isTrue short => cases found
  case isFalse long =>
    obtain ⟨-, -, ⟨⟩⟩ := Option.map_eq_some_iff.1 found
    exact behind?_eq_none other fun character mem => digits character (List.mem_of_mem_drop mem)

theorem date?_eq_none {text : List Char} (digits : ∀ character ∈ text, character.isDigit = true) :
    date? text = none := by
  rw [date?]
  cases found : fixedNumber? 4 text with
  | none => rfl
  | some year => simp [behind?_of_fixedNumber? (by decide : '-'.isDigit = false) digits found]

theorem time?_eq_none {text : List Char} (digits : ∀ character ∈ text, character.isDigit = true) :
    time? text = none := by
  rw [time?, hoursMinutes?]
  cases found : fixedNumber? 2 text with
  | none => rfl
  | some hours => simp [behind?_of_fixedNumber? (by decide : ':'.isDigit = false) digits found]

/-! ### Words -/

theorem word_append {text rest : List Char}
    (whole : ∀ character ∈ text, isWordCharacter character = true)
    (stops : ∀ first ∈ rest.head?, isWordCharacter first = false) :
    word (text ++ rest) = (text, rest) := by
  obtain ⟨taken, left⟩ := takeWhile_dropWhile_append whole stops
  rw [word, taken, left]

theorem read_of_word {text rest : List Char} {node : Node}
    (whole : ∀ character ∈ text, isWordCharacter character = true)
    (stops : ∀ first ∈ rest.head?, isWordCharacter first = false) (noDate : isDate text = false)
    (value : value? text = some node) : read (text ++ rest) = some (node, rest) := by
  rw [read, word_append whole stops]
  simp [noDate, value]

theorem isDate_toDigits (number : Nat) : isDate (Nat.toDigits 10 number) = false := by
  simp [isDate, date?_eq_none (Numeral.isDigit_toDigits number)]

theorem isDateTime_toDigits (number : Nat) : isDateTime (Nat.toDigits 10 number) = false := by
  have all := Numeral.isDigit_toDigits number
  simp [isDateTime, isDate, date?_eq_none all, time?_eq_none all]

theorem value?_toDigits {number : Nat} (fits : number < Bytes.doubleWordLimit) :
    value? (Nat.toDigits 10 number) = some (.integer number) := by
  have all := Numeral.isDigit_toDigits number
  have noWord (word : List Char) (lettered : word.any (fun letter => !letter.isDigit) = true) :
      Nat.toDigits 10 number ≠ word := by
    rintro rfl
    obtain ⟨letter, mem, other⟩ := List.any_eq_true.1 lettered
    simp [all letter mem] at other
  rw [value?, if_neg (noWord _ rfl), if_neg (noWord _ rfl), isDateTime_toDigits,
    integer?_toDigits fits]
  rfl

theorem read_toDigits {number : Nat} (fits : number < Bytes.doubleWordLimit) {rest : List Char}
    (stops : ∀ first ∈ rest.head?, isWordCharacter first = false) :
    read (Nat.toDigits 10 number ++ rest) = some (.integer number, rest) := by
  refine read_of_word (fun character mem => ?_) stops (isDate_toDigits number)
    (value?_toDigits fits)
  simp [isWordCharacter, Char.isAlphanum, Numeral.isDigit_toDigits number character mem]

theorem read_flag (flag : Bool) {rest : List Char}
    (stops : ∀ first ∈ rest.head?, isWordCharacter first = false) :
    read ((if flag then "true" else "false").toList ++ rest) = some (.boolean flag, rest) := by
  cases flag with
  | true => exact read_of_word (List.all_eq_true.1 rfl) stops rfl rfl
  | false => exact read_of_word (List.all_eq_true.1 rfl) stops rfl rfl

end Scalar

end Toml

end DocumentProtocol
