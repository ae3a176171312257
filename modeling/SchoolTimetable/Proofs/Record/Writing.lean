import SchoolTimetable.Proofs.Record.Reading

/-!
What becomes of a value that is written and read again. A reader mirrors how a value is written if it reads
what was written as no other value, and reads it at all if it has come by the value from any document.
-/

namespace SchoolTimetable

/-- The fields of a record that was written. -/
def Json.fields : Json → List (String × Json)
  | .obj entries => entries
  | _ => []

namespace Record

variable {First Second Value : Type}

/-- What the value is written as is read as the value and as no other, once the reader accepts the value. -/
structure Mirrored (read : Reader Value) (write : Value → Json) (value : Value) : Prop where
  faithful : ∀ {other}, read (write value) = .ok other → other = value
  settled : ∀ {document}, read document = .ok value → read (write value) = .ok value

section Values

variable {read : Reader Value} {write : Value → Json} {value : Value}

theorem mirrored_of_returns (returns : read (write value) = .ok value) : Mirrored read write value where
  faithful := fun accepted => Checked.ok.inj (accepted.symm.trans returns)
  settled := fun _ => returns

theorem Mirrored.and_then {check : Value → Checked Value}
    (passes : ∀ {first second}, check first = .ok second → second = first)
    (mirrored : Mirrored read write value) :
    Mirrored (fun document => (read document).andThen check) write value where
  faithful := by
    intro other accepted
    obtain ⟨first, firstRead, checked⟩ := Checked.and_then_ok.1 accepted
    exact (passes checked).trans (mirrored.faithful firstRead)
  settled := by
    intro document accepted
    obtain ⟨first, firstRead, checked⟩ := Checked.and_then_ok.1 accepted
    obtain rfl := passes checked
    exact Checked.and_then_ok.2 ⟨value, mirrored.settled firstRead, checked⟩

theorem mirrored_text (value : String) : Mirrored text .str value := mirrored_of_returns rfl

theorem mirrored_whole (value : Int) : Mirrored whole .int value := mirrored_of_returns rfl

theorem mirrored_truth (value : Bool) : Mirrored truth .bool value := mirrored_of_returns rfl

theorem at_least_passes {least first second : Int} (passed : atLeast least first = .ok second) :
    second = first := by
  unfold atLeast at passed
  split at passed
  · cases passed
  · exact (Checked.ok.inj passed).symm

theorem at_most_passes {greatest first second : Int} (passed : atMost greatest first = .ok second) :
    second = first := by
  unfold atMost at passed
  split at passed
  · cases passed
  · exact (Checked.ok.inj passed).symm

theorem mirrored_whole_from (least value : Int) : Mirrored (wholeFrom least) .int value :=
  (mirrored_whole value).and_then at_least_passes

theorem mirrored_whole_between (least greatest value : Int) :
    Mirrored (wholeBetween least greatest) .int value :=
  ((mirrored_whole value).and_then at_most_passes).and_then at_least_passes

theorem characters_ok {check : String → Checked Value} {text : String} {value : Value}
    (passed : characters check text = .ok value) : check text = .ok value := by
  unfold characters at passed
  split at passed
  · cases passed
  · exact passed

theorem mirrored_nonempty_text (value : String) : Mirrored nonemptyText .str value := by
  apply (mirrored_text value).and_then
  intro first second passed
  have checked := characters_ok passed
  split at checked
  · cases checked
  · exact (Checked.ok.inj checked).symm

theorem mirrored_short_text (greatest : Nat) (value : String) :
    Mirrored (shortText greatest) .str value := by
  apply (mirrored_text value).and_then
  intro first second passed
  have checked := characters_ok passed
  split at checked
  · cases checked
  · exact (Checked.ok.inj checked).symm

theorem nullable_of_ne {document : Json} (written : document ≠ .null) :
    nullable read document = (read document).map some := by
  unfold nullable
  split
  · exact absurd rfl written
  · rfl

theorem nullable_ok_some {document : Json} :
    nullable read document = .ok (some value) ↔ document ≠ .null ∧ read document = .ok value := by
  by_cases leftOpen : document = .null
  · subst leftOpen
    simp [nullable]
  · rw [nullable_of_ne leftOpen, Checked.map_ok]
    simp [leftOpen]

/-- A value that may be left open, if what it is written as differs from null. -/
theorem mirrored_nullable {value : Option Value} (written : ∀ held ∈ value, write held ≠ .null)
    (mirrored : ∀ held ∈ value, Mirrored read write held) :
    Mirrored (nullable read) (.ofOption write) value := by
  cases value with
  | none => exact mirrored_of_returns rfl
  | some held =>
      have notNull := written held rfl
      constructor
      · intro other accepted
        change nullable read (write held) = .ok other at accepted
        rw [nullable_of_ne notNull] at accepted
        obtain ⟨again, againRead, rfl⟩ := Checked.map_ok.1 accepted
        rw [(mirrored held rfl).faithful againRead]
      · intro document accepted
        have held := (nullable_ok_some.1 accepted).2
        exact nullable_ok_some.2 ⟨notNull, (mirrored _ rfl).settled held⟩

theorem mirrored_nullable_text (value : Option String) :
    Mirrored (nullable text) (.ofOption .str) value :=
  mirrored_nullable (fun _ _ => Json.noConfusion) fun held _ => mirrored_text held

theorem mirrored_nullable_short_text (greatest : Nat) (value : Option String) :
    Mirrored (nullable (shortText greatest)) (.ofOption .str) value :=
  mirrored_nullable (fun _ _ => Json.noConfusion) fun held _ => mirrored_short_text greatest held

theorem mirrored_nullable_whole_from (least : Int) (value : Option Int) :
    Mirrored (nullable (wholeFrom least)) (.ofOption .int) value :=
  mirrored_nullable (fun _ _ => Json.noConfusion) fun held _ => mirrored_whole_from least held

end Values

section Lists

variable {read : Reader Value} {write : Value → Json} {values : List Value}

theorem Checked.all_ok {outcomes : List (Checked Value)} :
    Checked.all outcomes = .ok values ↔ outcomes = values.map .ok := by
  induction outcomes generalizing values with
  | nil => cases values <;> simp [Checked.all]
  | cons outcome rest ih =>
      unfold Checked.all
      rw [Checked.map_ok]
      constructor
      · rintro ⟨⟨first, others⟩, parts, rfl⟩
        obtain ⟨firstOk, othersOk⟩ := Checked.both_ok.1 parts
        rw [List.map_cons, firstOk, ih.1 othersOk]
      · intro same
        cases values with
        | nil => cases same
        | cons first others =>
            obtain ⟨firstOk, othersOk⟩ := List.cons.inj same
            exact ⟨(first, others), Checked.both_ok.2 ⟨firstOk, ih.2 othersOk⟩, rfl⟩

theorem list_of_ok_iff {items : List Json} :
    listOf read (.arr items) = .ok values ↔ items.map read = values.map .ok := by
  have anywhere : ∀ step : Nat → Step,
      (items.mapIdx fun index item => (read item).within (step index)) = values.map .ok ↔
        items.map read = values.map .ok := by
    induction items generalizing values with
    | nil => simp
    | cons item rest ih =>
        intro step
        cases values with
        | nil => simp
        | cons value others =>
            rw [List.mapIdx_cons, List.map_cons, List.map_cons, List.cons.injEq, List.cons.injEq,
              Checked.within_ok, ih fun index => step (index + 1)]
  exact Checked.all_ok.trans (anywhere Step.item)

theorem list_of_written : listOf read (.list write values) = .ok values ↔
    ∀ value ∈ values, read (write value) = .ok value := by
  unfold Json.list
  rw [list_of_ok_iff, List.map_map, List.map_inj_left]
  rfl

theorem mirrored_list (mirrored : ∀ value ∈ values, Mirrored read write value) :
    Mirrored (listOf read) (.list write) values where
  faithful := by
    intro others accepted
    unfold Json.list at accepted
    rw [list_of_ok_iff, List.map_map] at accepted
    induction values generalizing others with
    | nil => simpa using accepted.symm
    | cons value rest ih =>
        cases others with
        | nil => cases accepted
        | cons other more =>
            obtain ⟨first, later⟩ := List.cons.inj accepted
            rw [(mirrored value List.mem_cons_self).faithful first,
              ih (fun value listed => mirrored value (List.mem_cons_of_mem _ listed)) later]
  settled := by
    intro document accepted
    refine list_of_written.2 fun value listed => ?_
    obtain ⟨item, itemRead⟩ := list_of_ok accepted listed
    exact (mirrored value listed).settled itemRead

theorem mirrored_nonempty_list (mirrored : ∀ value ∈ values, Mirrored read write value) :
    Mirrored (nonemptyListOf read) (.list write) values :=
  (mirrored_list mirrored).and_then nonempty_passes

end Lists

namespace Form

variable {entries fields : List (String × Json)} {read : Reader Value} {write : Value → Json}
  {value : Value} {name : String}

theorem find_of_get {others : List String} {item : Json} (written : Entries.get? name fields = some item) :
    find? (name :: others) fields = some (name, item) := by
  simp [find?, written]

theorem required_as_written {others : List String} {item : Json}
    (written : Entries.get? name fields = some item) :
    (requiredAs name others read).read fields = .ok value ↔ read item = .ok value := by
  simp only [requiredAs, find_of_get written, Checked.within_ok]

theorem optional_as_written {others : List String} {item : Json} {absent : Value}
    (written : Entries.get? name fields = some item) :
    (optionalAs name others absent read).read fields = .ok value ↔ read item = .ok value := by
  simp only [optionalAs, find_of_get written, Checked.within_ok]

def Reads (form : Form Value) (fields : List (String × Json)) (value : Value) : Prop :=
  form.read fields = .ok value

theorem Reads.map {form : Form First} {first : First} (reads : form.Reads fields first)
    (convert : First → Second) : (convert <$> form).Reads fields (convert first) :=
  map_ok.2 ⟨first, reads, rfl⟩

theorem Reads.seq {chain : Form (First → Second)} {form : Form First} {convert : First → Second}
    {first : First} (converts : chain.Reads fields convert) (reads : form.Reads fields first) :
    (chain <*> form).Reads fields (convert first) :=
  seq_ok.2 ⟨convert, first, converts, reads, rfl⟩

theorem Reads.required {others : List String} {item : Json} (returns : read item = .ok value)
    (written : Entries.get? name fields = some item) : (requiredAs name others read).Reads fields value :=
  (required_as_written written).2 returns

theorem Reads.optional {others : List String} {item : Json} {absent : Value}
    (returns : read item = .ok value) (written : Entries.get? name fields = some item) :
    (optionalAs name others absent read).Reads fields value :=
  (optional_as_written written).2 returns

/-- The fields that were written are read as the value and as no other, once the form accepts the value. -/
structure Echoes (form : Form Value) (fields : List (String × Json)) (value : Value) : Prop where
  faithful : ∀ {other}, form.read fields = .ok other → other = value
  settled : ∀ {entries}, form.read entries = .ok value → form.read fields = .ok value

theorem Echoes.required (mirrored : Mirrored read write value)
    (written : Entries.get? name fields = some (write value)) :
    (required name read).Echoes fields value where
  faithful := fun accepted => mirrored.faithful ((required_as_written written).1 accepted)
  settled := by
    intro entries accepted
    obtain ⟨item, itemRead⟩ := required_ok accepted
    exact (required_as_written written).2 (mirrored.settled itemRead)

theorem Echoes.optional {absent : Value} (mirrored : Mirrored read write value)
    (returns : read (write absent) = .ok absent)
    (written : Entries.get? name fields = some (write value)) :
    (optional name absent read).Echoes fields value where
  faithful := fun accepted => mirrored.faithful ((optional_as_written written).1 accepted)
  settled := by
    intro entries accepted
    apply (optional_as_written written).2
    rcases optional_ok accepted with rfl | ⟨item, itemRead⟩
    · exact returns
    · exact mirrored.settled itemRead

/-- The same of a form whose value is made of parts, which may be a function that waits for more of them. -/
structure Assembles {Parts : Type} (convert : Parts → Value) (form : Form Value)
    (fields : List (String × Json)) (parts : Parts) : Prop where
  faithful : ∀ {other}, form.read fields = .ok other → other = convert parts
  settled : ∀ {entries value}, form.read entries = .ok value →
    ∃ known, value = convert known ∧ (known = parts → form.read fields = .ok value)

theorem Echoes.map {form : Form First} {first : First} (echoes : form.Echoes fields first)
    (convert : First → Second) : Assembles convert (convert <$> form) fields first where
  faithful := by
    intro other accepted
    obtain ⟨again, againRead, rfl⟩ := map_ok.1 accepted
    rw [echoes.faithful againRead]
  settled := by
    intro entries value accepted
    obtain ⟨known, knownRead, rfl⟩ := map_ok.1 accepted
    refine ⟨known, rfl, ?_⟩
    rintro rfl
    exact map_ok.2 ⟨known, echoes.settled knownRead, rfl⟩

theorem Assembles.seq {Parts : Type} {convert : Parts → First → Second} {chain : Form (First → Second)}
    {form : Form First} {parts : Parts} {first : First} (assembles : Assembles convert chain fields parts)
    (echoes : form.Echoes fields first) :
    Assembles (fun both : Parts × First => convert both.1 both.2) (chain <*> form) fields (parts, first) where
  faithful := by
    intro other accepted
    obtain ⟨apply, again, applyRead, againRead, rfl⟩ := seq_ok.1 accepted
    rw [assembles.faithful applyRead, echoes.faithful againRead]
  settled := by
    intro entries value accepted
    obtain ⟨apply, last, applyRead, lastRead, rfl⟩ := seq_ok.1 accepted
    obtain ⟨known, rfl, returns⟩ := assembles.settled applyRead
    refine ⟨(known, last), rfl, ?_⟩
    intro same
    obtain ⟨rfl, rfl⟩ := Prod.mk.inj same
    exact seq_ok.2 ⟨_, _, returns rfl, echoes.settled lastRead, rfl⟩

theorem Assembles.echoes {Parts : Type} {convert : Parts → Value} {form : Form Value} {parts : Parts}
    (assembles : Assembles convert form fields parts) (lossless : Function.Injective convert) :
    form.Echoes fields (convert parts) where
  faithful := assembles.faithful
  settled := by
    intro entries accepted
    obtain ⟨known, same, returns⟩ := assembles.settled accepted
    exact returns (lossless same.symm)

/-- A closed form has nothing to refuse where exactly its own fields are written. -/
theorem closed_written {title : String} {form : Form Value} (names : fields.map (·.1) = form.names)
    (plain : form.names.any Text.hasHalf = false) :
    form.closed title (.obj fields) = .ok value ↔ form.read fields = .ok value := by
  have noHalves : (fields.any fun entry => Text.hasHalf entry.1) = false := by
    rw [← names, List.any_map] at plain
    exact plain
  have noOthers : form.refuseOthers fields = .ok () := by
    have known : fields.filter (fun entry => !form.names.contains entry.1) = [] := by
      rw [List.filter_eq_nil_iff]
      intro entry listed
      have named : entry.1 ∈ form.names := names ▸ List.mem_map_of_mem listed
      simp [named]
    unfold refuseOthers
    rw [known]
    rfl
  unfold closed
  dsimp only
  rw [noHalves, noOthers]
  cases form.read fields <;> simp [Checked.both, Checked.map]

/-- A record is read as itself if its fields are, and they are those of its form. -/
theorem mirrored_closed {title : String} {form : Form Value}
    (echoes : form.Echoes (write value).fields value)
    (names : (write value).fields.map (·.1) = form.names) (plain : form.names.any Text.hasHalf = false)
    (written : write value = .obj (write value).fields) : Mirrored (form.closed title) write value where
  faithful := by
    intro other accepted
    rw [written, closed_written names plain] at accepted
    exact echoes.faithful accepted
  settled := by
    intro document accepted
    obtain ⟨entries, fieldsRead⟩ := closed_ok accepted
    rw [written, closed_written names plain]
    exact echoes.settled fieldsRead

end Form

end Record

end SchoolTimetable
