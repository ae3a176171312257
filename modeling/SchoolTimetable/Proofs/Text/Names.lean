import SchoolTimetable.Proofs.Text.Spelling

/-!
Names of several words in their two spellings: with underscores between the words, and with a capital at the
start of each word but the first. The respelling takes the second to the first and leaves the first as it is,
since a word behind the first one has at least two characters, so that no two capitals meet.
-/

namespace SchoolTimetable.Text

def isWordChar (char : Char) : Bool := isSmall char || char.isDigit

theorem inside_of_all {letters : List Char} (inside : letters.all isWordChar = true) :
    ∀ char ∈ letters, isWordChar char :=
  List.all_eq_true.1 inside

/-- A word of a name: a small letter, then small letters and digits. -/
structure Word where
  initial : Char
  rest : List Char
  small : isSmall initial
  inside : ∀ char ∈ rest, isWordChar char

namespace Word

def letters (word : Word) : List Char := word.initial :: word.rest

def capitalized (word : Word) : List Char := word.initial.toUpper :: word.rest

end Word

/-- A name of words. All but the first are of more than one letter. -/
structure Name where
  first : Word
  later : List Word
  long : ∀ word ∈ later, word.rest ≠ []

def Name.underscored (name : Name) : List Char :=
  name.first.letters ++ name.later.flatMap fun word => '_' :: word.letters

/-- The words of a name, told apart by their capitals. -/
def Name.capitalized (name : Name) : List Char :=
  name.first.letters ++ name.later.flatMap Word.capitalized

/-- A text that spells a name with underscores. -/
def IsUnderscoredName (text : String) : Prop := ∃ name : Name, text.toList = name.underscored

def capitalizeWords (border : Bool) : List Char → List Char
  | [] => []
  | char :: rest =>
      if char = '_' then capitalizeWords true rest
      else (if border then char.toUpper else char) :: capitalizeWords false rest

/-- A name with capitals at its word borders. -/
def capitalized (name : String) : String := String.ofList (capitalizeWords false name.toList)

variable {char : Char} {chars : List Char} {words : List Word}

section Letters

theorem ascii_of_word_char (inWord : isWordChar char) : char.toNat < 128 := by
  rcases Bool.or_eq_true_iff.1 inWord with small | digit
  · simp only [isSmall, Bool.and_eq_true, decide_eq_true_eq] at small
    exact Nat.lt_of_le_of_lt small.2 (by decide)
  · simp only [Char.isDigit, Bool.and_eq_true, decide_eq_true_eq] at digit
    exact Nat.lt_of_le_of_lt digit.2 (by decide)

theorem plain_of_word_char (inWord : isWordChar char) : isPlain char = true ∧ char ≠ '_' :=
  of_each_ascii (fun char => isWordChar char → isPlain char = true ∧ char ≠ '_') (by decide +kernel)
    (ascii_of_word_char inWord) inWord

theorem word_char_of_small (small : isSmall char) : isWordChar char := by
  rw [isWordChar, small, Bool.true_or]

theorem upper_of_small (small : isSmall char) :
    isCapital char.toUpper = true ∧ lowerChar char.toUpper = char :=
  of_each_ascii (fun char => isSmall char → isCapital char.toUpper = true ∧ lowerChar char.toUpper = char)
    (by decide +kernel) (ascii_of_word_char (word_char_of_small small)) small

theorem capital_of_word_char (inWord : isWordChar char) : isCapital char = false :=
  (plain_iff.1 (plain_of_word_char inWord).1).2

theorem border_of_word_char (inWord : isWordChar char) : isSmall char = true ∨ isDecimalDigit char = true := by
  rcases Bool.or_eq_true_iff.1 inWord with small | digit
  · exact .inl small
  · exact .inr (is_decimal_digit_of_ascii char digit)

end Letters

namespace Word

theorem letters_in_word (word : Word) : ∀ char ∈ word.letters, isWordChar char :=
  List.forall_mem_cons.2 ⟨word_char_of_small word.small, word.inside⟩

end Word

section Respelling

theorem split_acronyms_word_chars (inWord : ∀ char ∈ chars, isWordChar char) (tail : List Char) :
    splitAcronyms (chars ++ tail) = chars ++ splitAcronyms tail := by
  induction chars with
  | nil => rfl
  | cons char rest ih =>
      obtain ⟨own, others⟩ := List.forall_mem_cons.1 inWord
      rw [List.cons_append, split_acronyms_cons, ih others, List.cons_append]
      intro capital
      rw [capital_of_word_char own] at capital
      cases capital

theorem split_acronyms_words (long : ∀ word ∈ words, word.rest ≠ []) :
    splitAcronyms (words.flatMap Word.capitalized) = words.flatMap Word.capitalized := by
  induction words with
  | nil => rfl
  | cons word words ih =>
      obtain ⟨ownLong, othersLong⟩ := List.forall_mem_cons.1 long
      obtain ⟨second, others, known⟩ := List.exists_cons_of_ne_nil ownLong
      rw [List.flatMap_cons, Word.capitalized, List.cons_append, split_acronyms_cons,
        split_acronyms_word_chars word.inside, ih othersLong]
      intro _ next atFront
      rw [known] at atFront
      obtain rfl := Option.some.inj atFront
      exact capital_of_word_char (word.inside second (known ▸ List.mem_cons_self))

theorem split_capitals_words (long : ∀ word ∈ words, word.rest ≠ []) (own : isWordChar char)
    (inWord : ∀ char ∈ chars, isWordChar char) :
    splitCapitals (char :: chars ++ words.flatMap Word.capitalized) =
      char :: chars ++ words.flatMap fun word => '_' :: word.capitalized := by
  induction words generalizing char chars with
  | nil =>
      rw [List.flatMap_nil, List.flatMap_nil, List.append_nil]
      have all : ∀ other ∈ char :: chars, isWordChar other := List.forall_mem_cons.2 ⟨own, inWord⟩
      exact split_capitals_of_uncapital fun other listed => capital_of_word_char (all other listed)
  | cons word words ih =>
      obtain ⟨ownLong, othersLong⟩ := List.forall_mem_cons.1 long
      induction chars generalizing char with
      | nil =>
          obtain ⟨second, others, known⟩ := List.exists_cons_of_ne_nil ownLong
          have inside := word.inside
          rw [known] at inside
          obtain ⟨secondOwn, othersOwn⟩ := List.forall_mem_cons.1 inside
          have capital := (upper_of_small word.small).1
          rw [List.flatMap_cons, List.flatMap_cons, Word.capitalized, known]
          change splitCapitals (char :: word.initial.toUpper :: (second :: others ++ _)) = _
          rw [split_capitals_border (border_of_word_char own) capital, split_capitals_cons,
            ih othersLong secondOwn othersOwn]
          · rfl
          · intro next atFront
            obtain rfl := Option.some.inj atFront
            exact capital_of_word_char secondOwn
      | cons next rest inner =>
          obtain ⟨nextOwn, restOwn⟩ := List.forall_mem_cons.1 inWord
          have stepped := inner nextOwn restOwn
          rw [List.cons_append, split_capitals_cons, stepped]
          · rfl
          · intro second atFront
            obtain rfl := Option.some.inj atFront
            exact capital_of_word_char nextOwn

theorem lower_letters (word : Word) : word.letters.map lowerChar = word.letters := by
  have kept : word.letters.map lowerChar = word.letters.map fun char => char :=
    List.map_congr_left fun char listed =>
      lower_char_of_plain (plain_of_word_char (word.letters_in_word char listed)).1
  rw [kept, List.map_id']

theorem lower_capitalized (word : Word) : word.capitalized.map lowerChar = word.letters := by
  have letters := lower_letters word
  rw [Word.letters, List.map_cons] at letters
  rw [Word.capitalized, Word.letters, List.map_cons, (upper_of_small word.small).2, (List.cons.inj letters).2]

theorem ascii_of_capitalized (word : Word) : ∀ char ∈ word.capitalized, char.toNat < 128 := by
  refine List.forall_mem_cons.2 ⟨?_, fun char listed => ascii_of_word_char (word.inside char listed)⟩
  have most := (code_of_capital.1 (upper_of_small word.small).1).2
  omega

theorem respell_capitalized (name : Name) : respell lowerCase name.capitalized = name.underscored := by
  have first := name.first.letters_in_word
  have marked : splitCapitals (splitAcronyms name.capitalized) =
      name.first.letters ++ name.later.flatMap fun word => '_' :: word.capitalized := by
    rw [Name.capitalized, split_acronyms_word_chars first, split_acronyms_words name.long]
    obtain ⟨own, others⟩ := List.forall_mem_cons.1 first
    exact split_capitals_words name.long own others
  have ascii : ∀ char ∈ name.first.letters ++ name.later.flatMap fun word => '_' :: word.capitalized,
      char.toNat < 128 := by
    refine List.forall_mem_append.2 ⟨fun char listed => ascii_of_word_char (first char listed), ?_⟩
    intro char listed
    obtain ⟨word, -, inWord⟩ := List.mem_flatMap.1 listed
    rcases List.mem_cons.1 inWord with rfl | inWord
    · decide
    · exact ascii_of_capitalized word char inWord
  have border : lowerChar '_' = '_' := by decide
  rw [respell, marked, lower_case_of_ascii ascii, List.map_append, lower_letters, List.map_flatMap]
  simp only [List.map_cons, border, lower_capitalized]
  rfl

theorem capitalize_word_chars (inWord : ∀ char ∈ chars, isWordChar char) (tail : List Char) :
    capitalizeWords false (chars ++ tail) = chars ++ capitalizeWords false tail := by
  induction chars with
  | nil => rfl
  | cons char rest ih =>
      obtain ⟨own, others⟩ := List.forall_mem_cons.1 inWord
      rw [List.cons_append, capitalizeWords, if_neg (plain_of_word_char own).2, ih others]
      rfl

theorem capitalize_words (words : List Word) :
    capitalizeWords false (words.flatMap fun word => '_' :: word.letters) = words.flatMap Word.capitalized := by
  induction words with
  | nil => rfl
  | cons word words ih =>
      have initial := (plain_of_word_char (word_char_of_small word.small)).2
      rw [List.flatMap_cons, List.cons_append, capitalizeWords, if_pos rfl, Word.letters, List.cons_append,
        capitalizeWords, if_neg initial, capitalize_word_chars word.inside, ih]
      rfl

end Respelling

section Texts

variable {text : String}

theorem underscored_of_name (named : IsUnderscoredName text) : underscored text = text := by
  obtain ⟨name, spelled⟩ := named
  apply underscored_of_plain
  rw [spelled]
  refine List.forall_mem_append.2 ⟨?_, ?_⟩
  · exact fun char listed => (plain_of_word_char (name.first.letters_in_word char listed)).1
  · intro char listed
    obtain ⟨word, -, inWord⟩ := List.mem_flatMap.1 listed
    rcases List.mem_cons.1 inWord with rfl | inWord
    · decide
    · exact (plain_of_word_char (word.letters_in_word char inWord)).1

theorem underscored_capitalized (named : IsUnderscoredName text) : underscored (capitalized text) = text := by
  obtain ⟨name, spelled⟩ := named
  have drawn : capitalizeWords false text.toList = name.capitalized := by
    rw [spelled]
    exact (capitalize_word_chars name.first.letters_in_word _).trans
      (congrArg (name.first.letters ++ ·) (capitalize_words name.later))
  rw [underscored, capitalized, drawn, String.toList_ofList, respell_capitalized, ← spelled, String.ofList_toList]

end Texts

end SchoolTimetable.Text
