import SchoolTimetable.Config
import SchoolTimetable.Proofs.Record.Reading

/-!
What accepted settings satisfy: a history has at least one cell, a hard point weighs something, no weight
is negative, and at least one limit is set.
-/

namespace SchoolTimetable

open Record

structure AcceptorSettings.Valid (settings : AcceptorSettings) : Prop where
  history : 1 ≤ settings.historySize
  hardWeight : 1 ≤ settings.hardWeight

theorem Record.whole_from_ok {least value : Int} {document : Json}
    (accepted : wholeFrom least document = .ok value) : least ≤ value := by
  obtain ⟨read, -, bounded⟩ := Checked.and_then_ok.1 accepted
  unfold atLeast at bounded
  split at bounded
  · cases bounded
  · obtain rfl := Checked.ok.inj bounded
    omega

/-- What holds of a default and of all that a reader lets through holds of a field with both. -/
theorem Record.Form.optional_of {Value : Type} {holds : Value → Prop} {name : String} {absent value : Value}
    {read : Reader Value} {entries : List (String × Json)} (ofAbsent : holds absent)
    (ofRead : ∀ {item value}, read item = .ok value → holds value)
    (accepted : (Form.optional name absent read).read entries = .ok value) : holds value := by
  rcases Form.optional_ok accepted with rfl | ⟨item, accepted⟩
  · exact ofAbsent
  · exact ofRead accepted

theorem Record.Form.optional_whole_from_ok {name : String} {least absent value : Int}
    {entries : List (String × Json)} (absentEnough : least ≤ absent)
    (accepted : (Form.optional name absent (wholeFrom least)).read entries = .ok value) :
    least ≤ value :=
  Form.optional_of absentEnough whole_from_ok accepted

theorem AcceptorSettings.standard_valid : AcceptorSettings.standard.Valid := ⟨by decide, by decide⟩

theorem AcceptorSettings.valid_of_read {document : Json} {settings : AcceptorSettings}
    (accepted : read document = .ok settings) : settings.Valid := by
  obtain ⟨entries, fields⟩ := Form.closed_ok accepted
  simp only [form, Form.seq_ok, Form.map_ok] at fields
  obtain ⟨_, hardWeight, ⟨_, _, ⟨_, _, ⟨_, historySize, ⟨_, -, rfl⟩, historyRead, rfl⟩, -, rfl⟩,
    -, rfl⟩, hardWeightRead, rfl⟩ := fields
  exact ⟨Form.optional_whole_from_ok (by decide) historyRead,
    Form.optional_whole_from_ok (by decide) hardWeightRead⟩

/-- Weights within their bounds. A weight of zero is one of them. -/
structure Weights.Valid (weights : Weights) : Prop where
  preferredSlot : 0 ≤ weights.preferredSlot
  gap : 0 ≤ weights.gap
  distribution : 0 ≤ weights.distribution
  firstPeriod : 0 ≤ weights.firstPeriod

theorem Weights.standard_valid : Weights.standard.Valid :=
  ⟨by decide, by decide, by decide, by decide⟩

theorem Weights.valid_of_read {document : Json} {weights : Weights}
    (accepted : read document = .ok weights) : weights.Valid := by
  obtain ⟨entries, fields⟩ := Form.closed_ok accepted
  simp only [form, Form.seq_ok, Form.map_ok] at fields
  obtain ⟨_, firstPeriod, ⟨_, distribution, ⟨_, gap, ⟨preferred, preferredRead, rfl⟩, gapRead, rfl⟩,
    distributionRead, rfl⟩, firstPeriodRead, rfl⟩ := fields
  exact ⟨Form.optional_whole_from_ok (by decide) preferredRead,
    Form.optional_whole_from_ok (by decide) gapRead,
    Form.optional_whole_from_ok (by decide) distributionRead,
    Form.optional_whole_from_ok (by decide) firstPeriodRead⟩

theorem Record.nullable_whole_from_ok {least : Int} {limit : Option Int} {document : Json}
    (accepted : nullable (wholeFrom least) document = .ok limit) : ∀ bound ∈ limit, least ≤ bound := by
  intro bound set
  unfold nullable at accepted
  split at accepted
  · rw [← Checked.ok.inj accepted] at set
    cases set
  · obtain ⟨value, read, rfl⟩ := Checked.map_ok.1 accepted
    rw [← Option.some.inj set]
    exact whole_from_ok read

structure Limits.Valid (limits : Limits) : Prop where
  unimproved : ∀ bound ∈ limits.unimprovedMoves, 1 ≤ bound
  moves : ∀ bound ∈ limits.moves, 0 ≤ bound
  bounded : limits.seconds = none → limits.unimprovedMoves = none → limits.moves ≠ none

theorem Limits.standard_valid : Limits.standard.Valid := by
  refine ⟨?_, ?_, ?_⟩
  · intro bound set
    rw [← Option.some.inj set]
    decide
  · intro bound set
    cases set
  · intro noTime
    cases noTime

theorem Limits.valid_of_read {document : Json} {limits : Limits}
    (accepted : read document = .ok limits) : limits.Valid := by
  obtain ⟨checked, closed, bounded⟩ := Checked.and_then_ok.1 accepted
  unfold Limits.bounded at bounded
  split at bounded
  · cases bounded
  rename_i someLimit
  obtain rfl := Checked.ok.inj bounded
  obtain ⟨entries, fields⟩ := Form.closed_ok closed
  simp only [form, Form.seq_ok, Form.map_ok] at fields
  obtain ⟨_, moves, ⟨_, unimproved, ⟨seconds, -, rfl⟩, unimprovedRead, rfl⟩, movesRead, rfl⟩ := fields
  refine ⟨?_, ?_, ?_⟩
  · exact Form.optional_of standard_valid.unimproved nullable_whole_from_ok unimprovedRead
  · exact Form.optional_of standard_valid.moves nullable_whole_from_ok movesRead
  · intro noTime noUnimproved noMoves
    obtain rfl : seconds = none := noTime
    obtain rfl : unimproved = none := noUnimproved
    obtain rfl : moves = none := noMoves
    exact someLimit rfl

structure Config.Valid (config : Config) : Prop where
  limits : config.limits.Valid
  acceptor : config.acceptor.Valid
  weights : config.weights.Valid

theorem Config.valid_of_read {document : Json} {config : Config}
    (accepted : read document = .ok config) : config.Valid := by
  obtain ⟨entries, fields⟩ := Form.closed_ok accepted
  simp only [form, Form.seq_ok, Form.map_ok] at fields
  obtain ⟨_, _, ⟨_, _, ⟨_, weights, ⟨_, acceptor, ⟨_, limits, ⟨_, _, ⟨_, -, rfl⟩, -, rfl⟩,
    limitsRead, rfl⟩, acceptorRead, rfl⟩, weightsRead, rfl⟩, -, rfl⟩, -, rfl⟩ := fields
  exact ⟨Form.optional_of Limits.standard_valid Limits.valid_of_read limitsRead,
    Form.optional_of AcceptorSettings.standard_valid AcceptorSettings.valid_of_read acceptorRead,
    Form.optional_of Weights.standard_valid Weights.valid_of_read weightsRead⟩

end SchoolTimetable
