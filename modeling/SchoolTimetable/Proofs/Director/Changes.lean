import SchoolTimetable.Proofs.Director.Accounting

/-!
Sequences of changes. Whatever is asked of a director, in any order, and whether or not it is refused,
the kept score stays that of an evaluation from scratch and the index stays complete.
-/

namespace SchoolTimetable

theorem Setting.untaken_of_known {settings : List Setting} (known : unknownName? settings = none) :
    takenName? settings = none := by
  unfold takenName?
  rw [List.find?_eq_none, List.forall_mem_map]
  intro setting listed
  have own := List.findSome?_eq_none_iff.1 known setting listed
  cases setting with
  | unknown name => cases own
  | slot value | room value | teacher value => simp [variableName, argumentNames]

namespace Director

/-- A request to set some planning variables of the lesson at a position. -/
abbrev Call := Nat × List Setting

/-- A call is refused if the timetable is final or a name is that of no planning variable, as names that
are taken are not. -/
def refuses (director : Director) (call : Call) : Bool :=
  director.timetable.isFinal || (Setting.unknownName? call.2).isSome

def writtenBy (lessons : List Lesson) (call : Call) : List Lesson :=
  lessons.modify call.1 fun lesson => lesson.placed (call.2.foldl Setting.apply lesson.placement)

/-- The director after a call; one that is refused leaves it as it is. -/
def afterCall (director : Director) (call : Call) : Director :=
  match director.change call.1 call.2 with
  | .ok next => next
  | .error _ => director

def afterCalls (director : Director) (calls : List Call) : Director := calls.foldl afterCall director

theorem change_of_refused {director : Director} {call : Call} (refused : director.refuses call) :
    ∃ fault, director.change call.1 call.2 = .error fault := by
  unfold change
  split
  · exact ⟨_, rfl⟩
  by_cases isFinal : director.timetable.isFinal
  · exact ⟨_, if_pos isFinal⟩
  · obtain ⟨name, unknown⟩ : ∃ name, Setting.unknownName? call.2 = some name := by
      simpa [refuses, isFinal, Option.isSome_iff_exists] using refused
    exact ⟨.unknownVariable name, by simp [isFinal, unknown]⟩

theorem change_of_lesson {director : Director} {call : Call} {lesson : Lesson}
    (allowed : director.refuses call = false) (found : director.lesson? call.1 = some lesson) :
    director.change call.1 call.2 =
      .ok (director.assign call.1 (call.2.foldl Setting.apply lesson.placement)) := by
  obtain ⟨working, known⟩ : director.timetable.isFinal = false ∧
      Setting.unknownName? call.2 = none := by
    simpa [refuses] using allowed
  simp [change, Setting.untaken_of_known known, working, known, found]

theorem change_of_no_lesson {director : Director} {call : Call}
    (allowed : director.refuses call = false) (missing : director.lesson? call.1 = none) :
    director.change call.1 call.2 = .ok director := by
  obtain ⟨working, known⟩ : director.timetable.isFinal = false ∧
      Setting.unknownName? call.2 = none := by
    simpa [refuses] using allowed
  simp [change, Setting.untaken_of_known known, working, known, missing]

/-- What a change that is not refused does: it assigns what the settings make of the placement. -/
theorem change_ok {director next : Director} {position : Nat} {settings : List Setting}
    (changed : director.change position settings = .ok next) :
    director.timetable.isFinal = false ∧
      (director.lesson? position = none ∧ next = director ∨
        ∃ lesson, director.lesson? position = some lesson ∧
          next = director.assign position (settings.foldl Setting.apply lesson.placement)) := by
  cases refused : director.refuses (position, settings) with
  | true =>
      obtain ⟨fault, failed⟩ := change_of_refused refused
      rw [failed] at changed
      cases changed
  | false =>
      refine ⟨by simp [refuses] at refused; exact refused.1, ?_⟩
      cases found : director.lesson? position with
      | none =>
          rw [change_of_no_lesson refused found] at changed
          exact .inl ⟨rfl, (Except.ok.inj changed).symm⟩
      | some lesson =>
          rw [change_of_lesson refused found] at changed
          exact .inr ⟨lesson, rfl, (Except.ok.inj changed).symm⟩

theorem Consistent.change {director next : Director} {position : Nat} {settings : List Setting}
    (consistent : director.Consistent) (changed : director.change position settings = .ok next) :
    next.Consistent := by
  rcases change_ok changed with ⟨-, ⟨-, rfl⟩ | ⟨lesson, -, rfl⟩⟩
  · exact consistent
  · exact consistent.assign position _

theorem change_weights {director next : Director} {position : Nat} {settings : List Setting}
    (changed : director.change position settings = .ok next) : next.weights = director.weights := by
  rcases change_ok changed with ⟨-, ⟨-, rfl⟩ | ⟨lesson, -, rfl⟩⟩
  · rfl
  · exact assign_weights director position _

/-- A change writes the settings down and touches nothing else of the timetable. -/
theorem change_timetable {director next : Director} {position : Nat} {settings : List Setting}
    (changed : director.change position settings = .ok next) :
    next.timetable = { director.timetable with
      lessons := writtenBy director.timetable.lessons (position, settings) } := by
  rcases change_ok changed with ⟨-, ⟨missing, rfl⟩ | ⟨lesson, found, rfl⟩⟩
  · have beyond := List.getElem?_eq_none_iff.1 missing
    rw [writtenBy, List.modify_eq_self beyond]
  · rw [assign_lessons, placedAt, writtenBy, List.modify_eq_set_getElem?,
      List.modify_eq_set_getElem?]
    unfold lesson? at found
    rw [found]
    rfl

theorem after_call_timetable (director : Director) (call : Call) :
    (director.afterCall call).timetable = { director.timetable with
      lessons := if director.refuses call then director.timetable.lessons
        else writtenBy director.timetable.lessons call } := by
  unfold afterCall
  cases refused : director.refuses call with
  | true =>
      obtain ⟨fault, failed⟩ := change_of_refused refused
      simp [failed]
  | false =>
      cases found : director.lesson? call.1 with
      | none =>
          have changed := change_of_no_lesson refused found
          simpa [changed] using change_timetable changed
      | some lesson =>
          have changed := change_of_lesson refused found
          simpa [changed] using change_timetable changed

theorem Consistent.afterCall {director : Director} (consistent : director.Consistent) (call : Call) :
    (director.afterCall call).Consistent := by
  unfold Director.afterCall
  cases changed : director.change call.1 call.2 with
  | ok next => exact consistent.change changed
  | error fault => exact consistent

theorem after_call_weights (director : Director) (call : Call) :
    (director.afterCall call).weights = director.weights := by
  unfold afterCall
  cases changed : director.change call.1 call.2 with
  | ok next => exact change_weights changed
  | error fault => rfl

theorem Consistent.afterCalls {director : Director} (consistent : director.Consistent)
    (calls : List Call) : (director.afterCalls calls).Consistent := by
  induction calls generalizing director with
  | nil => exact consistent
  | cons call rest ih => exact ih (consistent.afterCall call)

theorem after_calls_weights (director : Director) (calls : List Call) :
    (director.afterCalls calls).weights = director.weights := by
  induction calls generalizing director with
  | nil => rfl
  | cons call rest ih => exact (ih _).trans (after_call_weights director call)

/-- Only calls that are not refused write something, and what they write is what they ask for. -/
theorem after_calls_timetable (director : Director) (calls : List Call) :
    (director.afterCalls calls).timetable = { director.timetable with
      lessons := (calls.filter fun call => !director.refuses call).foldl writtenBy
        director.timetable.lessons } := by
  induction calls generalizing director with
  | nil => rfl
  | cons call rest ih =>
      have next := after_call_timetable director call
      -- Whether a call is refused depends on nothing that calls change.
      have same : ∀ later, (director.afterCall call).refuses later = director.refuses later := by
        intro later
        rw [refuses, refuses, next]
      change ((director.afterCall call).afterCalls rest).timetable = _
      rw [ih]
      simp only [same, next]
      cases refused : director.refuses call <;> simp [refused]

theorem Consistent.check_score {director : Director} (consistent : director.Consistent) :
    director.checkScore = .ok () := by
  simp [checkScore, consistent.scored]

/-- After any sequence of calls on a director of any timetable, the placements are those that were
asked for, the kept score is that of an evaluation from scratch, a position is under a key exactly if
its lesson has the key, and no bucket is empty or holds a position twice. So the check of the score
never fails. -/
theorem score_and_index_after_calls (timetable : Timetable) (weights : Weights) (calls : List Call) :
    let fresh := ofTimetable timetable weights
    let director := fresh.afterCalls calls
    director.timetable = { timetable with
        lessons := (calls.filter fun call => !fresh.refuses call).foldl writtenBy timetable.lessons } ∧
      director.score = director.timetable.fullScore weights ∧
      (∀ key position, position ∈ director.bucket key ↔
        ∃ lesson, director.timetable.lessons[position]? = some lesson ∧ key ∈ lesson.indexKeys) ∧
      (∀ key, (director.bucket key).Nodup ∧ (key ∈ director.index → director.bucket key ≠ [])) ∧
      director.checkScore = .ok () := by
  intro fresh director
  have consistent : director.Consistent := (consistent_of_timetable timetable weights).afterCalls calls
  have sameWeights : director.weights = weights :=
    (after_calls_weights fresh calls).trans (of_timetable_weights timetable weights)
  refine ⟨?_, ?_, consistent.indexed, ?_, consistent.check_score⟩
  · have written := after_calls_timetable fresh calls
    rwa [of_timetable_timetable] at written
  · rw [consistent.scored, recalculate, sameWeights]
  · exact fun key => ⟨consistent.tidy.once key, consistent.tidy.occupied key⟩

end Director

end SchoolTimetable
