import Mathlib.Data.List.TakeWhile
import Mathlib.Tactic.IntervalCases
import SchoolTimetable.Proofs.Record.Writing

/-!
Numerals that were written. The digits of a number are read as the number, with zeros in front of them or a
sign, and a time of day is read back to the microsecond.
-/

namespace SchoolTimetable

theorem utf8_size_of_list (letters : List Char) :
    (String.ofList letters).utf8ByteSize = (letters.map Char.utf8Size).sum := by
  induction letters with
  | nil => rfl
  | cons letter rest ih =>
      rw [String.ofList_cons, String.utf8ByteSize_append, ih, String.utf8ByteSize_singleton,
        List.map_cons, List.sum_cons]

theorem length_le_utf8_size (text : String) : text.toList.length ≤ text.utf8ByteSize := by
  have size := utf8_size_of_list text.toList
  rw [String.ofList_toList] at size
  rw [size]
  induction text.toList with
  | nil => exact Nat.le_refl 0
  | cons letter rest ih =>
      have positive := letter.utf8Size_pos
      simp only [List.length_cons, List.map_cons, List.sum_cons]
      omega

theorem code_of_digit {letter : Char} (digit : letter.isDigit = true) :
    48 ≤ letter.toNat ∧ letter.toNat ≤ 57 := by
  simpa [Char.isDigit, Char.le_def, UInt32.le_iff_toNat_le] using digit

/-- The mark of halves lies far beyond the characters that numerals are made of. -/
theorem no_half_of_ascii {text : String} (ascii : ∀ letter ∈ text.toList, letter.toNat < 128) :
    Text.hasHalf text = false := by
  apply Text.no_half_of_unmarked
  intro marked
  exact absurd (ascii Text.halfMark marked) (by decide)

namespace ClockTime

section Padded

variable {width value : Nat}

theorem padded_letters (width value : Nat) : (padded width value).toList =
    List.replicate (width - (Nat.toDigits 10 value).length) '0' ++ Nat.toDigits 10 value := by
  simp only [padded, String.toList_ofList]

theorem padded_length (some : 0 < width) (fits : value < 10 ^ width) :
    (padded width value).toList.length = width := by
  have short := (Nat.length_toDigits_le_iff (by decide) some).2 fits
  rw [padded_letters, List.length_append, List.length_replicate]
  omega

theorem digit_of_padded {letter : Char} (written : letter ∈ (padded width value).toList) :
    letter.isDigit = true := by
  rw [padded_letters] at written
  rcases List.mem_append.1 written with zero | digit
  · obtain rfl := List.eq_of_mem_replicate zero
    decide
  · exact Nat.isDigit_of_mem_toDigits (by decide) (by decide) digit

theorem value_of_padded (width value : Nat) :
    Nat.ofDigitChars 10 (padded width value).toList 0 = value := by
  rw [padded_letters, Nat.ofDigitChars_append, Nat.ofDigitChars_replicate_zero, Nat.mul_zero,
    Nat.ofDigitChars_ten_toDigits]

theorem two_digits_of_padded (fault : Fault) (fits : value < 100) (rest : List Char) :
    twoDigits fault ((padded 2 value).toList ++ rest) = .ok (value, rest) := by
  have count : (padded 2 value).toList.length = 2 := padded_length (by decide) fits
  have digits : ∀ letter ∈ (padded 2 value).toList, letter.isDigit = true := fun _ => digit_of_padded
  have sum := value_of_padded 2 value
  generalize (padded 2 value).toList = letters at count digits sum
  match letters, count with
  | [tens, ones], _ =>
      have tensDigit := digits tens (by simp)
      have onesDigit := digits ones (by simp)
      simp only [Nat.ofDigitChars_cons, Nat.ofDigitChars_nil] at sum
      have value : digitValue tens * 10 + digitValue ones = value := by
        unfold digitValue
        omega
      simp [twoDigits, tensDigit, onesDigit, value]

theorem fraction_of_padded (fits : value < microsPerSecond) {rest : List Char}
    (ends : rest.head?.all fun letter => !letter.isDigit) :
    readFraction ('.' :: ((padded 6 value).toList ++ rest)) = .ok (value, rest) := by
  have count : (padded 6 value).toList.length = 6 := padded_length (by decide) fits
  have digits : ∀ letter ∈ (padded 6 value).toList, letter.isDigit = true := fun _ => digit_of_padded
  have sum := value_of_padded 6 value
  generalize (padded 6 value).toList = letters at count digits sum
  have taken : (letters ++ rest).takeWhile Char.isDigit = letters := by
    rw [List.takeWhile_append_of_pos digits]
    cases rest with
    | nil => simp
    | cons letter more => simp_all
  have dropped : (letters ++ rest).dropWhile Char.isDigit = rest := by
    rw [List.dropWhile_append_of_pos digits]
    cases rest with
    | nil => rfl
    | cons letter more => simp_all
  have notEmpty : letters.isEmpty = false := by
    cases letters with
    | nil => cases count
    | cons letter more => rfl
  have micros : fractionMicros letters = value := by
    unfold fractionMicros
    rw [← count, List.take_left]
    exact sum
  simp [readFraction, taken, dropped, notEmpty, micros]

end Padded

theorem minutes_of_padded {hour minute : Nat} (hourFits : hour < 24) (minuteFits : minute < 60)
    (rest : List Char) :
    readMinutes ((padded 2 hour).toList ++ ':' :: ((padded 2 minute).toList ++ rest)) =
      .ok (hour * 60 + minute, rest) := by
  have hourRead := two_digits_of_padded .hourDigits (by omega : hour < 100)
    (':' :: ((padded 2 minute).toList ++ rest))
  have minuteRead := two_digits_of_padded .minuteDigits (by omega : minute < 100) rest
  have noHour : ¬ 23 < hour := by omega
  have noMinute : ¬ 59 < minute := by omega
  simp [readMinutes, bind, Except.bind, pure, Except.pure, hourRead, minuteRead, noHour, noMinute]

/-- How a fraction of a second is written: not at all where there is none. -/
def fractionLetters (micro : Nat) : List Char :=
  if micro = 0 then [] else '.' :: (padded 6 micro).toList

theorem seconds_of_padded {second micro : Nat} (secondFits : second < 60) (microFits : micro < microsPerSecond)
    {rest : List Char} (ends : rest = [] ∨ rest = ['Z']) :
    readSeconds (':' :: ((padded 2 second).toList ++ (fractionLetters micro ++ rest))) =
      .ok (second * microsPerSecond + micro, rest) := by
  have secondRead := two_digits_of_padded .secondDigits (by omega : second < 100)
    (fractionLetters micro ++ rest)
  have noSecond : ¬ 59 < second := by omega
  have fractionRead : readFraction (fractionLetters micro ++ rest) = .ok (micro, rest) := by
    unfold fractionLetters
    split
    · rename_i none
      subst none
      rcases ends with rfl | rfl <;> rfl
    · apply fraction_of_padded microFits
      rcases ends with rfl | rfl <;> rfl
  simp [readSeconds, bind, Except.bind, pure, Except.pure, secondRead, noSecond, fractionRead]

theorem clock_text_letters (time : ClockTime) : time.clockText.toList =
    (padded 2 (time.micros / microsPerSecond / 3600)).toList ++ ':' ::
      ((padded 2 (time.micros / microsPerSecond / 60 % 60)).toList ++ ':' ::
        ((padded 2 (time.micros / microsPerSecond % 60)).toList ++
          fractionLetters (time.micros % microsPerSecond))) := by
  have plain : ∀ text : String, toString text = text := fun _ => rfl
  unfold clockText fractionLetters
  dsimp only
  split <;> simp [String.toList_append, plain]

theorem micros_of_parts (micros : Nat) :
    (micros / microsPerSecond / 3600 * 60 + micros / microsPerSecond / 60 % 60) * 60 * microsPerSecond +
      (micros / microsPerSecond % 60 * microsPerSecond + micros % microsPerSecond) = micros := by
  unfold microsPerSecond
  omega

/-- A time without a zone or in universal time is read back from its text. -/
theorem of_document_text (time : ClockTime) (zone : time.zone = none ∨ time.zone = some 0) :
    ofText time.documentText = .ok time := by
  have bound := time.micros_lt
  unfold secondsPerDay microsPerSecond at bound
  have hourFits : time.micros / microsPerSecond / 3600 < 24 := by unfold microsPerSecond; omega
  have minuteFits : time.micros / microsPerSecond / 60 % 60 < 60 := Nat.mod_lt _ (by decide)
  have secondFits : time.micros / microsPerSecond % 60 < 60 := Nat.mod_lt _ (by decide)
  have microFits : time.micros % microsPerSecond < microsPerSecond := Nat.mod_lt _ (by decide)
  have text : ∃ letters, (letters = [] ∨ letters = ['Z']) ∧ readZone letters = .ok time.zone ∧
      time.documentText.toList = time.clockText.toList ++ letters := by
    unfold documentText
    rcases zone with none | universal
    · rw [none]
      exact ⟨[], .inl rfl, rfl, by simp⟩
    · rw [universal]
      exact ⟨['Z'], .inr rfl, rfl, by simp⟩
  obtain ⟨letters, ends, zoneRead, text⟩ := text
  have long : ¬ time.documentText.utf8ByteSize < 5 := by
    have size := length_le_utf8_size time.documentText
    have hourLength : (padded 2 _).toList.length = 2 :=
      padded_length (by decide) (Nat.lt_trans hourFits (by decide))
    have minuteLength : (padded 2 _).toList.length = 2 :=
      padded_length (by decide) (Nat.lt_trans minuteFits (by decide))
    rw [text, clock_text_letters] at size
    simp only [List.length_append, List.length_cons, hourLength, minuteLength] at size
    omega
  have minutesRead := minutes_of_padded hourFits minuteFits (':' ::
    ((padded 2 (time.micros / microsPerSecond % 60)).toList ++
      (fractionLetters (time.micros % microsPerSecond) ++ letters)))
  have secondsRead := seconds_of_padded secondFits microFits ends
  have sum := micros_of_parts time.micros
  have made : ofMicros time.micros time.zone = .ok time := by
    unfold ofMicros
    rw [dif_pos time.micros_lt]
  unfold ofText
  rw [text, clock_text_letters]
  simp [bind, Except.bind, long, minutesRead, secondsRead, zoneRead, sum, made]

theorem document_text_ascii (time : ClockTime) (zone : time.zone = none ∨ time.zone = some 0) :
    ∀ letter ∈ time.documentText.toList, letter.toNat < 128 := by
  have padded : ∀ width value, ∀ letter ∈ (padded width value).toList, letter.toNat < 128 := by
    intro width value letter written
    have bounds := code_of_digit (digit_of_padded written)
    omega
  have fraction : ∀ micro, ∀ letter ∈ fractionLetters micro, letter.toNat < 128 := by
    intro micro letter written
    unfold fractionLetters at written
    split at written
    · cases written
    · rcases List.mem_cons.1 written with rfl | digit
      · decide
      · exact padded 6 micro letter digit
  have clock : ∀ letter ∈ time.clockText.toList, letter.toNat < 128 := by
    intro letter written
    rw [clock_text_letters] at written
    simp only [List.mem_append, List.mem_cons] at written
    rcases written with hour | rfl | minute | rfl | second | micro
    · exact padded _ _ letter hour
    · decide
    · exact padded _ _ letter minute
    · decide
    · exact padded _ _ letter second
    · exact fraction _ letter micro
  intro letter written
  unfold documentText at written
  rcases zone with none | universal
  · rw [none] at written
    exact clock letter written
  · rw [universal] at written
    rcases List.mem_append.1 (String.toList_append ▸ written) with inClock | zed
    · exact clock letter inClock
    · obtain rfl : letter = 'Z' := by simpa using zed
      decide

end ClockTime

namespace Record

theorem mirrored_clock_time (time : ClockTime) (zone : time.zone = none ∨ time.zone = some 0) :
    Mirrored clockTime (.str ·.documentText) time := by
  apply mirrored_of_returns
  change characters (fun text => foundTime (ClockTime.ofText text)) time.documentText = .ok time
  unfold characters
  rw [no_half_of_ascii (time.document_text_ascii zone)]
  change foundTime (ClockTime.ofText time.documentText) = .ok time
  rw [time.of_document_text zone]
  rfl

variable {letters : List Char}

def wholeLetters (value : Int) : List Char :=
  if value < 0 then '-' :: Nat.toDigits 10 value.natAbs else Nat.toDigits 10 value.natAbs

theorem whole_letters (value : Int) : (toString value).toList = wholeLetters value := by
  unfold wholeLetters
  cases value with
  | ofNat number =>
      have natural : ¬ Int.ofNat number < 0 := Int.not_lt.2 (Int.natCast_nonneg number)
      rw [if_neg natural]
      exact Nat.toList_repr
  | negSucc number =>
      rw [if_pos (Int.negSucc_lt_zero number)]
      change ("-" ++ Nat.repr (number + 1)).toList = '-' :: Nat.toDigits 10 (number + 1)
      simp

theorem digit_of_digits {number : Nat} {letter : Char} (written : letter ∈ Nat.toDigits 10 number) :
    letter.isDigit = true :=
  Nat.isDigit_of_mem_toDigits (by decide) (by decide) written

theorem digit_or_minus {value : Int} {letter : Char} (written : letter ∈ wholeLetters value) :
    letter = '-' ∨ letter.isDigit = true := by
  unfold wholeLetters at written
  split at written
  · rcases List.mem_cons.1 written with minus | digit
    · exact .inl minus
    · exact .inr (digit_of_digits digit)
  · exact .inr (digit_of_digits written)

/-- The numeral of a number other than zero begins with a digit other than zero. -/
theorem digits_begin {number : Nat} (some : number ≠ 0) :
    ∃ first rest, Nat.toDigits 10 number = first :: rest ∧ ('1' ≤ first && first ≤ '9') = true := by
  induction number using Nat.strongRecOn with
  | ind number ih =>
      rw [Nat.toDigits_eq_if (by decide)]
      split
      · rename_i small
        refine ⟨Nat.digitChar number, [], rfl, ?_⟩
        interval_cases number <;> first | exact absurd rfl some | decide
      · rename_i large
        obtain ⟨first, rest, same, significant⟩ := ih (number / 10) (by omega) (by omega)
        exact ⟨first, rest ++ [Nat.digitChar (number % 10)], by rw [same]; rfl, significant⟩

section Plain

theorem trim_of_unblank (unblank : ∀ letter ∈ letters, isSurroundingBlank letter = false) :
    trimBlanks letters = letters := by
  have kept : ∀ text : List Char, (∀ letter ∈ text, isSurroundingBlank letter = false) →
      text.dropWhile isSurroundingBlank = text := by
    intro text plain
    cases text with
    | nil => rfl
    | cons letter rest => simp [plain letter List.mem_cons_self]
  unfold trimBlanks
  rw [kept letters unblank, kept letters.reverse (by simpa using unblank), List.reverse_reverse]

theorem drop_zero_fraction_of_pointless (pointless : '.' ∉ letters) : dropZeroFraction letters = letters := by
  have nothing : letters.dropWhile (· ≠ '.') = [] := by
    rw [List.dropWhile_eq_nil_iff]
    intro letter listed
    have different : letter ≠ '.' := fun same => pointless (same ▸ listed)
    simpa using different
  unfold dropZeroFraction
  rw [nothing]
  rfl

theorem join_of_ungrouped (ungrouped : '_' ∉ letters) : (joinDigitGroups? letters).getD letters = letters := by
  have kept : letters.filter (· ≠ '_') = letters := by
    rw [List.filter_eq_self]
    intro letter listed
    have different : letter ≠ '_' := fun same => ungrouped (same ▸ listed)
    simpa using different
  unfold joinDigitGroups?
  dsimp only
  split
  · exact kept
  · rfl

end Plain

theorem significant_of_whole (value : Int) : significant? (wholeLetters value) = some (wholeLetters value) := by
  unfold wholeLetters
  split
  · rfl
  · by_cases zero : value.natAbs = 0
    · rw [zero]
      rfl
    · obtain ⟨first, rest, same, significant⟩ := digits_begin zero
      have notZero : first ≠ '0' := by
        rintro rfl
        cases significant
      rw [same]
      simp [significant?, notZero, isSignificant, significant]

theorem unblank_of_digit {letter : Char} (digit : letter.isDigit = true) :
    isSurroundingBlank letter = false := by
  have bounds := code_of_digit digit
  simp [isSurroundingBlank]
  omega

theorem bare_of_whole (value : Int) : bareNumeral? (toString value) = some (wholeLetters value) := by
  have unblank : ∀ letter ∈ wholeLetters value, isSurroundingBlank letter = false := by
    intro letter listed
    rcases digit_or_minus listed with rfl | digit
    · decide
    · exact unblank_of_digit digit
  have free : ∀ mark : Char, mark ≠ '-' → mark.isDigit = false → mark ∉ wholeLetters value := by
    intro mark notMinus notDigit listed
    rcases digit_or_minus listed with minus | digit
    · exact notMinus minus
    · rw [notDigit] at digit
      cases digit
  unfold bareNumeral?
  rw [whole_letters, trim_of_unblank unblank]
  dsimp only
  split
  · rename_i rest plus
    exact absurd (plus ▸ List.mem_cons_self) (free '+' (by decide) (by decide))
  · rw [significant_of_whole]
    change some ((joinDigitGroups? (dropZeroFraction (wholeLetters value))).getD _) = _
    rw [drop_zero_fraction_of_pointless (free '.' (by decide) (by decide)),
      join_of_ungrouped (free '_' (by decide) (by decide))]

/-- The digits behind a sign, with or without one, stand for the magnitude. -/
theorem magnitude_of_digits (number : Nat) (loose : Bool) :
    let digits := if loose then (Nat.toDigits 10 number).filter (· ≠ '_') else Nat.toDigits 10 number
    (!digits.isEmpty && digits.all Char.isDigit) = true ∧ digitsToNat digits = number := by
  have allDigits : ∀ letter ∈ Nat.toDigits 10 number, letter.isDigit = true :=
    fun _ => digit_of_digits
  have kept : (Nat.toDigits 10 number).filter (· ≠ '_') = Nat.toDigits 10 number := by
    rw [List.filter_eq_self]
    intro letter listed
    have different : letter ≠ '_' := by
      rintro rfl
      cases allDigits _ listed
    simpa using different
  have some : Nat.toDigits 10 number ≠ [] := Nat.toDigits_ne_nil
  rw [kept, ite_self]
  exact ⟨by simpa [some] using allDigits, Nat.ofDigitChars_ten_toDigits⟩

theorem whole_of_letters (value : Int) : wholeOfBare? (wholeLetters value) = some value := by
  have magnitude := magnitude_of_digits value.natAbs (looseNumeral ≤ (wholeLetters value).length &&
    (Nat.toDigits 10 value.natAbs).head? ≠ some '_')
  unfold wholeOfBare?
  split
  rename_i negative unsigned sign
  unfold wholeLetters at sign
  by_cases below : value < 0
  · rw [if_pos below] at sign
    obtain ⟨rfl, rfl⟩ : true = negative ∧ Nat.toDigits 10 value.natAbs = unsigned := Prod.mk.inj sign
    dsimp only at magnitude ⊢
    rw [if_pos magnitude.1, magnitude.2]
    simp only [if_true, Option.some.injEq]
    omega
  · rw [if_neg below] at sign
    split at sign
    · rename_i rest minus
      have digit := digit_of_digits (minus ▸ List.mem_cons_self : '-' ∈ Nat.toDigits 10 value.natAbs)
      cases digit
    · obtain ⟨rfl, rfl⟩ := Prod.mk.inj sign
      dsimp only at magnitude ⊢
      rw [if_pos magnitude.1, magnitude.2]
      simp only [Bool.false_eq_true, if_false, Option.some.injEq]
      omega

theorem whole_letters_injective {first second : Int} (same : wholeLetters first = wholeLetters second) :
    first = second := by
  have read := whole_of_letters first
  rw [same, whole_of_letters second] at read
  exact (Option.some.inj read).symm

/-- A whole number is read back from its numeral, unless that is longer than any numeral may be. -/
theorem whole_of_written (value : Int) (short : (toString value).length ≤ longestNumeral) :
    wholeOfText (toString value) = .ok value := by
  have size : (String.ofList (wholeLetters value)).utf8ByteSize ≤ longestNumeral := by
    have small : ∀ letter ∈ wholeLetters value, letter.utf8Size = 1 := by
      intro letter listed
      rcases digit_or_minus listed with rfl | digit
      · rfl
      · have bounds := code_of_digit digit
        rw [Char.utf8Size_eq_one_iff, UInt32.le_iff_toNat_le]
        exact bounds.2.trans (by decide)
    rw [utf8_size_of_list, List.map_congr_left small, List.map_const', List.sum_replicate_nat,
      Nat.mul_one, ← whole_letters]
    exact short
  unfold wholeOfText
  rw [bare_of_whole]
  dsimp only
  rw [if_neg (Nat.not_lt.2 size), whole_of_letters]
  rfl

theorem whole_of_key (value : Int) (short : (toString value).length ≤ longestNumeral) :
    whole (.str (toString value)) = .ok value := by
  have ascii : ∀ letter ∈ (toString value).toList, letter.toNat < 128 := by
    intro letter written
    rw [whole_letters] at written
    rcases digit_or_minus written with rfl | digit
    · decide
    · have bounds := code_of_digit digit
      omega
  change characters wholeOfText (toString value) = .ok value
  unfold characters
  rw [no_half_of_ascii ascii]
  exact whole_of_written value short

end Record

end SchoolTimetable
