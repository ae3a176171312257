import SchoolTimetable.Text.Spelling

/-!
Lower-casing settles a text. No run of capitals has a letter that another run turns into, so what was lowered
is not lowered again, and none of it is an ASCII capital.
-/

namespace SchoolTimetable.Text

/-- A run of capitals: first and last code point, the step from one capital to the next, and the distance to
the lower-case letters. -/
abbrev CaseRun := Nat × Nat × Nat × Int

namespace CaseRun

def Has (run : CaseRun) (code : Nat) : Prop :=
  run.1 ≤ code ∧ code ≤ run.2.1 ∧ (code - run.1) % run.2.2.1 = 0

instance (run : CaseRun) (code : Nat) : Decidable (run.Has code) :=
  inferInstanceAs (Decidable (_ ∧ _ ∧ _))

def lowered (run : CaseRun) (code : Nat) : Nat := (code + run.2.2.2).toNat

/-- The letters of one run lie outside of another, or between its capitals where these leave out every second
code point. -/
def isClear (run other : CaseRun) : Bool :=
  let first := run.lowered run.1
  let last := run.lowered run.2.1
  last.blt other.1 || other.2.1.blt first ||
    ((run.2.2.1.beq 2 || first.beq last) && other.2.2.1.beq 2 && ((first + other.1) % 2).beq 1)

theorem not_has_lowered {run other : CaseRun} (clear : run.isClear other) (upward : 0 ≤ run.1 + run.2.2.2)
    {code : Nat} (own : run.Has code) : ¬ other.Has (run.lowered code) := by
  obtain ⟨first, last, step, distance⟩ := run
  obtain ⟨otherFirst, otherLast, otherStep, otherDistance⟩ := other
  simp only [isClear, Bool.or_eq_true, Bool.and_eq_true, Nat.blt_eq, Nat.beq_eq] at clear
  simp only [Has, lowered] at clear upward own ⊢
  rcases clear with (before | behind) | ⟨⟨rfl | single, rfl⟩, odd⟩
  · omega
  · omega
  · omega
  · omega

end CaseRun

/-- The runs of capitals, with the capital that turns into two letters as a run of its own. -/
def capitalRuns : List CaseRun := (0x130, 0x130, 1, 0) :: lowerCaseRuns

theorem runs_clear : ∀ run ∈ lowerCaseRuns, 0 ≤ run.1 + run.2.2.2 ∧
    capitalRuns.all (CaseRun.isClear run) := by
  decide +kernel

def IsLowered (char : Char) : Prop := ∀ run ∈ capitalRuns, ¬ run.Has char.toNat

instance (char : Char) : Decidable (IsLowered char) :=
  inferInstanceAs (Decidable (∀ run ∈ capitalRuns, _))

variable {char : Char} {chars : List Char}

theorem code_of_capital : isCapital char ↔ 0x41 ≤ char.toNat ∧ char.toNat ≤ 0x5a := by
  simp only [isCapital, Bool.and_eq_true, decide_eq_true_eq]
  exact Iff.rfl

def isPlain (char : Char) : Bool := char.toNat < 128 && !isCapital char

theorem plain_iff : isPlain char ↔ char.toNat < 128 ∧ isCapital char = false := by
  rw [isPlain, Bool.and_eq_true, decide_eq_true_eq, Bool.not_eq_true']

theorem of_each_ascii (Fits : Char → Prop) (each : ∀ code < 128, Fits (Char.ofNat code))
    (ascii : char.toNat < 128) : Fits char := by
  have fits := each char.toNat ascii
  rwa [Char.ofNat_toNat] at fits

theorem lower_char_of_plain (plain : isPlain char) : lowerChar char = char :=
  of_each_ascii (fun char => isPlain char → lowerChar char = char) (by decide +kernel)
    (plain_iff.1 plain).1 plain

theorem lower_char_of_capital (capital : isCapital char) :
    lowerChar char = Char.ofNat (char.toNat + 32) := by
  have most := (code_of_capital.1 capital).2
  exact of_each_ascii (fun char => isCapital char → lowerChar char = Char.ofNat (char.toNat + 32))
    (by decide +kernel) (by omega) capital

theorem runs_beyond_ascii : ∀ run ∈ lowerCaseRuns, run = (0x41, 0x5a, 1, 32) ∨ 128 ≤ run.1 := by
  decide +kernel

theorem not_has_of_plain (plain : isPlain char) : ∀ run ∈ lowerCaseRuns, ¬ CaseRun.Has run char.toNat := by
  obtain ⟨ascii, uncapital⟩ := plain_iff.1 plain
  intro run listed has
  rcases runs_beyond_ascii run listed with rfl | beyond
  · rw [code_of_capital.2 ⟨has.1, has.2.1⟩] at uncapital
    cases uncapital
  · have least : run.1 ≤ char.toNat := has.1
    omega

theorem lowered_of_plain (plain : isPlain char) : IsLowered char := by
  refine List.forall_mem_cons.2 ⟨?_, not_has_of_plain plain⟩
  intro has
  have least : 0x130 ≤ char.toNat := has.1
  have ascii := (plain_iff.1 plain).1
  omega

theorem capital_of_lowered (lowered : IsLowered char) : isCapital char = false := by
  have ascii : ((0x41, 0x5a, 1, 32) : CaseRun) ∈ capitalRuns := by decide
  rw [← Bool.not_eq_true, code_of_capital]
  intro within
  apply lowered _ ascii
  exact ⟨within.1, within.2, Nat.mod_one _⟩

theorem ne_of_lowered {capital : Char} (run : CaseRun) (listed : run ∈ capitalRuns)
    (has : run.Has capital.toNat) (lowered : IsLowered char) : char ≠ capital := by
  rintro rfl
  exact lowered run listed has

/-- A character stays, or it is a capital of a run and turns into the letter at its distance. -/
theorem lower_char_cases (char : Char) :
    lowerChar char = char ∧ (∀ run ∈ lowerCaseRuns, ¬ CaseRun.Has run char.toNat) ∨
      ∃ run ∈ lowerCaseRuns, CaseRun.Has run char.toNat ∧
        lowerChar char = Char.ofNat (CaseRun.lowered run char.toNat) := by
  by_cases ascii : char.toNat < 128
  · by_cases capital : isCapital char
    · apply Or.inr
      obtain ⟨least, most⟩ := code_of_capital.1 capital
      refine ⟨(0x41, 0x5a, 1, 32), List.mem_cons_self, ⟨least, most, Nat.mod_one _⟩, ?_⟩
      rw [lower_char_of_capital capital]
      rfl
    · apply Or.inl
      have plain : isPlain char := plain_iff.2 ⟨ascii, (Bool.not_eq_true _).mp capital⟩
      exact ⟨lower_char_of_plain plain, not_has_of_plain plain⟩
  · unfold lowerChar
    rw [if_neg ascii]
    split
    · rename_i first last step distance found
      apply Or.inr
      have has := List.find?_some found
      simp only [Bool.and_eq_true, decide_eq_true_eq, beq_iff_eq] at has
      exact ⟨_, List.mem_of_find?_eq_some found, ⟨has.1.1, has.1.2, has.2⟩, rfl⟩
    · rename_i missed
      apply Or.inl
      refine ⟨rfl, ?_⟩
      intro run listed has
      have outside := List.find?_eq_none.1 missed run listed
      simp only [Bool.and_eq_true, decide_eq_true_eq, beq_iff_eq, not_and] at outside
      exact outside ⟨has.1, has.2.1⟩ has.2.2

theorem lower_char_of_lowered (lowered : IsLowered char) : lowerChar char = char := by
  rcases lower_char_cases char with ⟨kept, -⟩ | ⟨run, listed, has, -⟩
  · exact kept
  · exact absurd has (lowered run (List.mem_cons_of_mem _ listed))

theorem lowered_of_code_zero : IsLowered (Char.ofNat 0) := by
  decide +kernel

theorem lowered_lower_char (single : char ≠ 'İ') : IsLowered (lowerChar char) := by
  rcases lower_char_cases char with ⟨kept, outside⟩ | ⟨run, listed, has, turned⟩
  · rw [kept]
    refine List.forall_mem_cons.2 ⟨?_, outside⟩
    intro has
    apply single
    apply Char.toNat_inj.1
    exact Nat.le_antisymm has.2.1 has.1
  · rw [turned]
    obtain ⟨upward, clear⟩ := runs_clear run listed
    by_cases valid : (CaseRun.lowered run char.toNat).isValidChar
    · rw [Char.ofNat, dif_pos valid]
      intro other known
      exact CaseRun.not_has_lowered (List.all_eq_true.1 clear other known) upward has
    · rw [Char.ofNat, dif_neg valid]
      exact lowered_of_code_zero

theorem lowered_exceptions : ∀ char ∈ ['σ', 'ς', 'i', Char.ofNat 0x307], IsLowered char := by
  rw [List.forall_mem_cons, List.forall_mem_cons, List.forall_mem_cons, List.forall_mem_singleton]
  decide +kernel

theorem lowered_lower_case_after (before : List Char) :
    ∀ char ∈ lowerCaseAfter before chars, IsLowered char := by
  induction chars generalizing before with
  | nil => simp [lowerCaseAfter]
  | cons first rest ih =>
      rw [lowerCaseAfter]
      refine List.forall_mem_append.2 ⟨?_, ih (first :: before)⟩
      intro char turned
      split at turned
      · rw [List.mem_singleton.1 turned]
        split
        · exact lowered_exceptions _ (by decide)
        · exact lowered_exceptions _ (by decide)
      · split at turned
        · apply lowered_exceptions
          exact List.mem_of_mem_drop (i := 2) turned
        · rename_i single
          rw [List.mem_singleton.1 turned]
          exact lowered_lower_char single

theorem lower_case_after_of_single (before : List Char)
    (single : ∀ char ∈ chars, char ≠ 'Σ' ∧ char ≠ 'İ') :
    lowerCaseAfter before chars = chars.map lowerChar := by
  induction chars generalizing before with
  | nil => rfl
  | cons char rest ih =>
      obtain ⟨⟨notSigma, notDotted⟩, others⟩ := List.forall_mem_cons.1 single
      rw [lowerCaseAfter, if_neg notSigma, if_neg notDotted, ih _ others]
      rfl

theorem lower_case_of_lowered (lowered : ∀ char ∈ chars, IsLowered char) : lowerCase chars = chars := by
  have single : ∀ char ∈ chars, char ≠ 'Σ' ∧ char ≠ 'İ' := by
    intro char listed
    have own := lowered char listed
    exact ⟨ne_of_lowered (0x3a3, 0x3ab, 1, 32) (by decide) (by decide) own,
      ne_of_lowered (0x130, 0x130, 1, 0) (by decide) (by decide) own⟩
  rw [lowerCase, lower_case_after_of_single [] single]
  have kept : chars.map lowerChar = chars.map fun char => char :=
    List.map_congr_left fun char listed => lower_char_of_lowered (lowered char listed)
  rw [kept, List.map_id']

theorem lower_case_of_ascii (ascii : ∀ char ∈ chars, char.toNat < 128) :
    lowerCase chars = chars.map lowerChar := by
  apply lower_case_after_of_single
  intro char listed
  exact of_each_ascii (fun char => char ≠ 'Σ' ∧ char ≠ 'İ') (by decide +kernel) (ascii char listed)

theorem lower_case_idempotent (text : List Char) : lowerCase (lowerCase text) = lowerCase text :=
  lower_case_of_lowered (lowered_lower_case_after [])

theorem lower_case_without_capitals (text : List Char) : ∀ char ∈ lowerCase text, isCapital char = false :=
  fun char listed => capital_of_lowered (lowered_lower_case_after [] char listed)

end SchoolTimetable.Text
