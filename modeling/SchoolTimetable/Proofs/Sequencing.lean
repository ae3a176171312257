/-!
Operations that can be refused, one after the other. A sequence succeeds exactly if each of its parts
succeeds in turn.
-/

namespace SchoolTimetable

variable {Fault State First Second : Type}

/-- A sequence of two operations on a state succeeds if the second succeeds where the first ends. -/
theorem run_bind_ok {first : EStateM Fault State First} {next : First → EStateM Fault State Second}
    {start finish : State} {value : Second} :
    (first >>= next).run start = .ok value finish ↔
      ∃ middle between, first.run start = .ok middle between ∧
        (next middle).run between = .ok value finish := by
  rw [EStateM.run_bind]
  cases first.run start with
  | ok middle between =>
      constructor
      · exact fun reached => ⟨middle, between, rfl, reached⟩
      · rintro ⟨_, _, same, reached⟩
        obtain ⟨rfl, rfl⟩ := EStateM.Result.ok.inj same
        exact reached
  | error fault between => simp

theorem run_throw_ne_ok {fault : Fault} {start finish : State} {value : First} :
    (throw fault : EStateM Fault State First).run start ≠ .ok value finish := by
  intro reached
  cases reached

theorem run_discard (first : EStateM Fault State First) (start : State) : (discard first).run start =
    match first.run start with
    | .ok _ finish => .ok () finish
    | .error fault finish => .error fault finish := by
  change EStateM.map (fun _ => ()) first start = _
  unfold EStateM.map EStateM.run
  cases first start <;> rfl

theorem run_discard_ok {first : EStateM Fault State First} {start finish : State} {value : First}
    (done : first.run start = .ok value finish) : (discard first).run start = .ok () finish := by
  rw [run_discard, done]

/-- A sequence of two operations without a state succeeds if both succeed. -/
theorem bind_ok {first : Except Fault First} {next : First → Except Fault Second} {value : Second} :
    (first >>= next) = .ok value ↔ ∃ middle, first = .ok middle ∧ next middle = .ok value := by
  cases first with
  | ok middle => simp [bind, Except.bind]
  | error fault => simp [bind, Except.bind]

end SchoolTimetable
