import SchoolTimetable.Record.Form

/-!
What an accepted document tells. A record is accepted exactly if each of its fields is, one after the
other, and the value of an accepted field was read by the reader of the field.
-/

namespace SchoolTimetable.Record

variable {First Second Value : Type}

namespace Checked

theorem and_then_ok {outcome : Checked First} {check : First → Checked Second} {value : Second} :
    outcome.andThen check = .ok value ↔ ∃ first, outcome = .ok first ∧ check first = .ok value := by
  cases outcome with
  | ok first => simp [andThen]
  | flawed issues => simp [andThen]
  | incomparableTimes => simp [andThen]

theorem map_ok {outcome : Checked First} {convert : First → Second} {value : Second} :
    outcome.map convert = .ok value ↔ ∃ first, outcome = .ok first ∧ convert first = value := by
  cases outcome with
  | ok first => simp [map]
  | flawed issues => simp [map]
  | incomparableTimes => simp [map]

theorem both_ok {left : Checked First} {right : Checked Second} {values : First × Second} :
    left.both right = .ok values ↔ left = .ok values.1 ∧ right = .ok values.2 := by
  obtain ⟨first, second⟩ := values
  cases left <;> cases right <;> simp [both]

theorem within_ok {step : Step} {outcome : Checked Value} {value : Value} :
    outcome.within step = .ok value ↔ outcome = .ok value := by
  cases outcome <;> simp [within]

theorem mem_of_all_ok {outcomes : List (Checked Value)} {values : List Value}
    (accepted : all outcomes = .ok values) {value : Value} (listed : value ∈ values) :
    .ok value ∈ outcomes := by
  induction outcomes generalizing values with
  | nil =>
      obtain rfl := Checked.ok.inj accepted
      cases listed
  | cons outcome rest ih =>
      obtain ⟨⟨first, others⟩, parts, rfl⟩ := map_ok.1 accepted
      obtain ⟨firstOk, othersOk⟩ := both_ok.1 parts
      rcases List.mem_cons.1 listed with rfl | later
      · rw [firstOk]
        exact List.mem_cons_self ..
      · exact List.mem_cons_of_mem outcome (ih othersOk later)

end Checked

theorem list_of_ok {read : Reader Value} {document : Json} {values : List Value}
    (accepted : listOf read document = .ok values) {value : Value} (listed : value ∈ values) :
    ∃ item, read item = .ok value := by
  unfold listOf at accepted
  split at accepted
  · have member := Checked.mem_of_all_ok accepted listed
    obtain ⟨index, bound, same⟩ := List.mem_mapIdx.1 member
    exact ⟨_, Checked.within_ok.1 same⟩
  · cases accepted

theorem nonempty_passes {first second : List Value}
    (passed : (if first.isEmpty then Checked.flaw (.tooFewItems 1) else .ok first) = .ok second) :
    second = first := by
  split at passed
  · cases passed
  · exact (Checked.ok.inj passed).symm

theorem nonempty_list_ok {read : Reader Value} {document : Json} {values : List Value}
    (accepted : nonemptyListOf read document = .ok values) : listOf read document = .ok values := by
  obtain ⟨items, itemsRead, passed⟩ := Checked.and_then_ok.1 accepted
  rw [nonempty_passes passed]
  exact itemsRead

theorem nonempty_list_ne {read : Reader Value} {document : Json} {values : List Value}
    (accepted : nonemptyListOf read document = .ok values) : values ≠ [] := by
  obtain ⟨items, -, passed⟩ := Checked.and_then_ok.1 accepted
  rw [nonempty_passes passed]
  rintro rfl
  cases passed

namespace Form

variable {entries : List (String × Json)}

theorem seq_ok {convert : Form (First → Second)} {form : Form First} {value : Second} :
    (convert <*> form).read entries = .ok value ↔
      ∃ apply first, convert.read entries = .ok apply ∧ form.read entries = .ok first ∧
        apply first = value := by
  change ((convert.read entries).both (form.read entries)).map (fun pair => pair.1 pair.2) = _ ↔ _
  rw [Checked.map_ok]
  constructor
  · rintro ⟨⟨apply, first⟩, parts, same⟩
    obtain ⟨converted, read⟩ := Checked.both_ok.1 parts
    exact ⟨apply, first, converted, read, same⟩
  · rintro ⟨apply, first, converted, read, same⟩
    exact ⟨(apply, first), Checked.both_ok.2 ⟨converted, read⟩, same⟩

theorem map_ok {convert : First → Second} {form : Form First} {value : Second} :
    (convert <$> form).read entries = .ok value ↔
      ∃ first, form.read entries = .ok first ∧ convert first = value := by
  change (pure convert <*> form).read entries = _ ↔ _
  rw [seq_ok]
  constructor
  · rintro ⟨apply, first, same, read, equal⟩
    obtain rfl := Checked.ok.inj same
    exact ⟨first, read, equal⟩
  · rintro ⟨first, read, equal⟩
    exact ⟨convert, first, rfl, read, equal⟩

theorem find_alone (name : String) (entries : List (String × Json)) :
    find? [name] entries = (Entries.get? name entries).map fun item => (name, item) := by
  unfold find?
  rw [List.findSome?_cons, List.findSome?_nil]
  cases Entries.get? name entries <;> rfl

theorem required_ok_iff {name : String} {read : Reader Value} {value : Value} :
    (required name read).read entries = .ok value ↔
      ∃ item, Entries.get? name entries = some item ∧ read item = .ok value := by
  unfold required requiredAs
  dsimp only
  rw [find_alone]
  cases Entries.get? name entries with
  | none => simp
  | some item => simp [Checked.within_ok]

theorem required_ok {name : String} {read : Reader Value} {value : Value}
    (accepted : (required name read).read entries = .ok value) : ∃ item, read item = .ok value := by
  obtain ⟨item, -, itemRead⟩ := required_ok_iff.1 accepted
  exact ⟨item, itemRead⟩

theorem optional_ok_iff {name : String} {absent : Value} {read : Reader Value} {value : Value} :
    (optional name absent read).read entries = .ok value ↔
      Entries.get? name entries = none ∧ value = absent ∨
        ∃ item, Entries.get? name entries = some item ∧ read item = .ok value := by
  unfold optional optionalAs
  dsimp only
  rw [find_alone]
  cases Entries.get? name entries with
  | none => simp [eq_comm]
  | some item => simp [Checked.within_ok]

theorem optional_ok {name : String} {absent : Value} {read : Reader Value} {value : Value}
    (accepted : (optional name absent read).read entries = .ok value) :
    value = absent ∨ ∃ item, read item = .ok value := by
  rcases optional_ok_iff.1 accepted with ⟨-, same⟩ | ⟨item, -, itemRead⟩
  · exact .inl same
  · exact .inr ⟨item, itemRead⟩

theorem closed_fields_ok {title : String} {form : Form Value} {document : Json} {value : Value}
    (accepted : form.closed title document = .ok value) :
    ∃ entries, document = .obj entries ∧ form.read entries = .ok value := by
  unfold closed at accepted
  split at accepted
  · rename_i entries
    split at accepted
    · cases accepted
    · split at accepted
      · cases accepted
      · obtain ⟨⟨first, _⟩, parts, rfl⟩ := Checked.map_ok.1 accepted
        exact ⟨entries, rfl, (Checked.both_ok.1 parts).1⟩
  · cases accepted

theorem closed_ok {title : String} {form : Form Value} {document : Json} {value : Value}
    (accepted : form.closed title document = .ok value) :
    ∃ entries, form.read entries = .ok value := by
  obtain ⟨entries, -, fields⟩ := closed_fields_ok accepted
  exact ⟨entries, fields⟩

end Form

theorem whole_between_ok {least greatest value : Int} {document : Json}
    (accepted : wholeBetween least greatest document = .ok value) :
    least ≤ value ∧ value ≤ greatest := by
  obtain ⟨below, belowOk, above⟩ := Checked.and_then_ok.1 accepted
  obtain ⟨read, -, bounded⟩ := Checked.and_then_ok.1 belowOk
  unfold atMost at bounded
  unfold atLeast at above
  split at bounded
  · cases bounded
  · obtain rfl := Checked.ok.inj bounded
    split at above
    · cases above
    · obtain rfl := Checked.ok.inj above
      omega

end SchoolTimetable.Record
