import SchoolTimetable.Proofs.Search.PlainRounds
import SchoolTimetable.Proofs.Search.Undoing
import SchoolTimetable.Proofs.Timetable.Candidates

/-!
Where moves lead. A lesson comes to any slot of the timetable, and to each of its rooms and teachers where it has more
than one, by a change that the draws can bring about; where there is one room or teacher at most nothing is left to
change. So each lesson is brought to its place in three moves at most, and with one lesson after the other any
assignment that is in range leads to any other.
-/

namespace SchoolTimetable

/-- Draws that are prescribed one by one. What chance could not bring about is refused, which is a position that is not
below the bound or has no weight. -/
structure Draws where
  positions : List Nat

namespace Draws

def next : Drawing Draws Nat := do
  match (← get).positions with
  | [] => throw .drawsExhausted
  | position :: rest =>
      set (Draws.mk rest)
      return position

instance : RandomSource Draws where
  below bound _ := do
    let position ← next
    if inside : position < bound then return ⟨position, inside⟩ else throw .drawsExhausted
  fraction := throw .drawsExhausted
  weighted weights := do
    let position ← next
    if 0 < weights[position]?.getD 0 then return position else throw .drawsExhausted

variable {position : Nat} {rest : List Nat}

theorem next_run : next.run ⟨position :: rest⟩ = .ok position ⟨rest⟩ := rfl

theorem choose_run {Member : Type} {members : List Member} {member : Member}
    (found : members[position]? = some member) :
    (RandomSource.choose members).run (Draws.mk (position :: rest)) = .ok member ⟨rest⟩ := by
  obtain ⟨inside, rfl⟩ := List.getElem?_eq_some_iff.1 found
  have drawn : (RandomSource.below members.length (by omega)).run (Draws.mk (position :: rest)) =
      .ok ⟨position, inside⟩ ⟨rest⟩ := by
    change (next >>= fun position => _).run _ = _
    rw [EStateM.run_bind, next_run]
    dsimp only
    rw [dif_pos inside]
    rfl
  unfold RandomSource.choose
  rw [dif_pos (by omega), EStateM.run_bind, drawn]
  rfl

theorem draw_kind_run (kind : MoveKind) :
    ∃ position, ∀ rest, MoveKind.draw.run (Draws.mk (position :: rest)) = .ok kind ⟨rest⟩ := by
  cases kind with
  | slot => exact ⟨0, fun _ => rfl⟩
  | swap => exact ⟨1, fun _ => rfl⟩
  | room => exact ⟨2, fun _ => rfl⟩
  | teacher => exact ⟨3, fun _ => rfl⟩

end Draws

namespace Move

def Selectable (timetable : Timetable) (move : Move) : Prop :=
  ∃ draws after : Draws, (select timetable).run draws = .ok (some move) after

section Selecting

variable {timetable : Timetable} {position : Nat} {lesson : Lesson} {kind : MoveKind}

/-- If a kind of move on a lesson is to choose among values, then some draws select the change to any of them. -/
theorem selectable_of_choice {Value : Type} {values : List Value} {value : Value} (setting : Value → Setting)
    (found : timetable.lessons[position]? = some lesson) (offered : value ∈ values)
    (picks : (pick timetable position lesson kind : Drawing Draws Move) = do
      let chosen ← RandomSource.choose values
      return ofSetting timetable position (setting chosen))
    (doable : (ofSetting timetable position (setting value)).isDoable timetable = true) :
    (ofSetting timetable position (setting value)).Selectable timetable := by
  obtain ⟨kindPosition, kindDrawn⟩ := Draws.draw_kind_run kind
  obtain ⟨choice, chosen⟩ := List.mem_iff_getElem?.1 offered
  have someLessons : ¬ timetable.lessons.isEmpty = true := by
    rw [List.isEmpty_iff]
    exact List.ne_nil_of_mem (List.mem_of_getElem? found)
  have listed : timetable.lessons.zipIdx[position]? = some (lesson, position) := by
    rw [List.getElem?_zipIdx, found, Option.map_some, Nat.zero_add]
  refine ⟨⟨[position, kindPosition, choice]⟩, ⟨[]⟩, ?_⟩
  unfold select
  rw [if_neg someLessons]
  refine run_bind_ok.2 ⟨(lesson, position), ⟨[kindPosition, choice]⟩, Draws.choose_run listed, ?_⟩
  refine run_bind_ok.2 ⟨kind, ⟨[choice]⟩, kindDrawn [choice], ?_⟩
  rw [picks]
  refine run_bind_ok.2 ⟨ofSetting timetable position (setting value), ⟨[]⟩, ?_, ?_⟩
  · exact run_bind_ok.2 ⟨value, ⟨[]⟩, Draws.choose_run chosen, rfl⟩
  · rw [if_pos doable]
    rfl

theorem slot_selectable {slot : TimeSlot} (found : timetable.lessons[position]? = some lesson)
    (listed : slot ∈ timetable.slots)
    (doable : (ofSetting timetable position (.slot (some slot))).isDoable timetable = true) :
    (ofSetting timetable position (.slot (some slot))).Selectable timetable := by
  have picks : (pick timetable position lesson .slot : Drawing Draws Move) = do
      let chosen ← RandomSource.choose timetable.slots
      return ofSetting timetable position (.slot (some chosen)) := rfl
  exact selectable_of_choice (fun slot => .slot (some slot)) found listed picks doable

theorem room_selectable {room : Room} (found : timetable.lessons[position]? = some lesson)
    (several : 1 < lesson.candidateRooms.length) (candidate : room ∈ lesson.candidateRooms)
    (doable : (ofSetting timetable position (.room (some room))).isDoable timetable = true) :
    (ofSetting timetable position (.room (some room))).Selectable timetable := by
  have picks : (pick timetable position lesson .room : Drawing Draws Move) = do
      let chosen ← RandomSource.choose lesson.candidateRooms
      return ofSetting timetable position (.room (some chosen)) := if_pos ⟨rfl, several⟩
  exact selectable_of_choice (fun room => .room (some room)) found candidate picks doable

theorem teacher_selectable {teacher : Teacher} (found : timetable.lessons[position]? = some lesson)
    (several : 1 < lesson.candidateTeachers.length) (candidate : teacher ∈ lesson.candidateTeachers)
    (doable : (ofSetting timetable position (.teacher (some teacher))).isDoable timetable = true) :
    (ofSetting timetable position (.teacher (some teacher))).Selectable timetable := by
  have picks : (pick timetable position lesson .teacher : Drawing Draws Move) = do
      let chosen ← RandomSource.choose lesson.candidateTeachers
      return ofSetting timetable position (.teacher (some chosen)) := by
    unfold pick
    rw [if_neg (fun wrong => nomatch wrong.1), if_pos ⟨rfl, several⟩]
  exact selectable_of_choice (fun teacher => .teacher (some teacher)) found candidate picks doable

end Selecting

end Move

theorem eq_of_mem_of_length_le_one {Member : Type} {members : List Member} {first second : Member}
    (few : members.length ≤ 1) (firstListed : first ∈ members) (secondListed : second ∈ members) :
    first = second := by
  match members, few with
  | [only], _ => rw [List.mem_singleton.1 firstListed, List.mem_singleton.1 secondListed]

namespace Lesson

variable {slots : List TimeSlot} {lesson : Lesson} {target : Placement}

theorem room_forced (here : lesson.InRange slots) (there : (lesson.placed target).InRange slots)
    (few : ¬ 1 < lesson.candidateRooms.length) : lesson.room = target.room := by
  have hereNone := here.roomless
  have thereNone : target.room = none ↔ lesson.candidateRooms = [] := there.roomless
  cases room : lesson.room with
  | none => exact (thereNone.2 (hereNone.1 room)).symm
  | some own =>
      cases targetRoom : target.room with
      | none =>
          rw [hereNone.2 (thereNone.1 targetRoom)] at room
          cases room
      | some other =>
          have ownListed : own ∈ lesson.candidateRooms := here.room own room
          have otherListed : other ∈ lesson.candidateRooms := there.room other targetRoom
          rw [eq_of_mem_of_length_le_one (Nat.le_of_not_lt few) ownListed otherListed]

theorem teacher_forced (here : lesson.InRange slots) (there : (lesson.placed target).InRange slots)
    (few : ¬ 1 < lesson.candidateTeachers.length) : lesson.teacher = target.teacher := by
  obtain ⟨own, ownListed, teacher⟩ := here.teacher
  obtain ⟨other, otherListed, targetTeacher⟩ := there.teacher
  have sameTarget : target.teacher = some other := targetTeacher
  rw [teacher, sameTarget, eq_of_mem_of_length_le_one (Nat.le_of_not_lt few) ownListed otherListed]

end Lesson

namespace Director

/-- Moves that are made one after the other. Some draws select each of them where it is made. -/
inductive Leads : Director → List Move → Director → Prop
  | stay (director : Director) : Leads director [] director
  | go {director between last : Director} {move : Move} {rest : List Move}
      (selectable : move.Selectable director.timetable) (performed : move.perform director = .ok between)
      (onward : Leads between rest last) : Leads director (move :: rest) last

theorem Leads.append {first between last : Director} {moves more : List Move} (leads : first.Leads moves between)
    (onward : between.Leads more last) : first.Leads (moves ++ more) last := by
  induction leads with
  | stay => exact onward
  | go selectable performed _ ih => exact .go selectable performed (ih onward)

end Director

section Mixing

variable {Member : Type} {first second : List Member} {position : Nat}

def mixed (position : Nat) (first second : List Member) : List Member := second.take position ++ first.drop position

theorem mixed_at (inside : position < second.length) : (mixed position first second)[position]? = first[position]? := by
  have taken : (second.take position).length = position := List.length_take_of_le inside.le
  unfold mixed
  rw [List.getElem?_append_right taken.le, taken, Nat.sub_self, List.getElem?_drop, Nat.add_zero]

theorem mixed_set (within : position < first.length) (inside : position < second.length) :
    (mixed position first second).set position second[position] = mixed (position + 1) first second := by
  have taken : (second.take position).length = position := List.length_take_of_le inside.le
  unfold mixed
  rw [List.set_append_right position _ taken.le, taken, Nat.sub_self, List.drop_eq_getElem_cons within,
    List.set_cons_zero, List.take_succ_eq_append_getElem inside, List.append_assoc]
  rfl

end Mixing

namespace Timetable

/-- From one timetable to another it takes a count of moves at most, whatever director holds the first. -/
def IsWithin (count : Nat) (first second : Timetable) : Prop :=
  ∀ director : Director, director.timetable = first →
    ∃ moves reached, director.Leads moves reached ∧ moves.length ≤ count ∧ reached.timetable = second

def withLesson (timetable : Timetable) (position : Nat) (lesson : Lesson) : Timetable :=
  { timetable with lessons := timetable.lessons.set position lesson }

section Leading

variable {first second third timetable : Timetable} {position : Nat} {lesson : Lesson} {target : Placement}

theorem is_within_self (timetable : Timetable) : IsWithin 0 timetable timetable :=
  fun director same => ⟨[], director, .stay director, Nat.le_refl 0, same⟩

theorem IsWithin.trans {count more : Nat} (within : IsWithin count first second)
    (onward : IsWithin more second third) : IsWithin (count + more) first third := by
  intro director holds
  obtain ⟨moves, between, leads, counted, reached⟩ := within director holds
  obtain ⟨others, last, further, othersCounted, lastReached⟩ := onward between reached
  refine ⟨moves ++ others, last, leads.append further, ?_, lastReached⟩
  rw [List.length_append]
  omega

theorem found_in_with_lesson (bound : position < timetable.lessons.length) (lesson : Lesson) :
    (timetable.withLesson position lesson).lessons[position]? = some lesson :=
  List.getElem?_set_self bound

theorem with_lesson_again (timetable : Timetable) (position : Nat) (lesson other : Lesson) :
    (timetable.withLesson position lesson).withLesson position other = timetable.withLesson position other := by
  unfold withLesson
  rw [List.set_set]

/-- A variable is set by one move, or by none if it has the value already. -/
theorem is_within_setting {setting : Setting} (working : timetable.isFinal = false)
    (found : timetable.lessons[position]? = some lesson) (known : Setting.unknownName? [setting] = none)
    (selectable : setting.current lesson.placement ≠ setting →
      (Move.ofSetting timetable position setting).isDoable timetable = true →
      (Move.ofSetting timetable position setting).Selectable timetable) :
    IsWithin 1 timetable
      (timetable.withLesson position (lesson.placed (Setting.apply lesson.placement setting))) := by
  rintro director rfl
  by_cases held : setting.current lesson.placement = setting
  · refine ⟨[], director, .stay director, Nat.zero_le 1, ?_⟩
    rw [Setting.apply_of_current held, withLesson, Lesson.placed_own_placement, set_found found]
  · have doable : (Move.ofSetting director.timetable position setting).isDoable director.timetable = true := by
      rw [Move.of_setting_found found]
      exact bne_iff_ne.2 held
    obtain ⟨next, changed⟩ := Director.change_of_working position working known
    have performed : (Move.ofSetting director.timetable position setting).perform director = .ok next := by
      rw [Move.perform_of_setting, changed]
    refine ⟨[_], next, .go (selectable held doable) performed (.stay next), Nat.le_refl 1, ?_⟩
    rw [Director.change_timetable changed, Director.written_by_of_lesson _ found]
    rfl

section Placing

variable (working : timetable.isFinal = false) (found : timetable.lessons[position]? = some lesson)
  (here : lesson.InRange timetable.slots) (there : (lesson.placed target).InRange timetable.slots)

include working found there

theorem is_within_slot : IsWithin 1 timetable
    (timetable.withLesson position (lesson.placed { lesson.placement with slot := target.slot })) := by
  obtain ⟨slot, listed, same⟩ := there.slot
  have targetSlot : target.slot = some slot := same
  have known : Setting.unknownName? [.slot (some slot)] = none := rfl
  rw [targetSlot]
  exact is_within_setting working found known fun _ doable => Move.slot_selectable found listed doable

include here

theorem is_within_room : IsWithin 1 timetable
    (timetable.withLesson position (lesson.placed { lesson.placement with room := target.room })) := by
  have known : Setting.unknownName? [.room target.room] = none := rfl
  refine is_within_setting working found known fun differs doable => ?_
  have several : 1 < lesson.candidateRooms.length := by
    by_contra few
    exact differs (congrArg Setting.room (Lesson.room_forced here there few))
  have roomless : target.room = none ↔ lesson.candidateRooms = [] := there.roomless
  cases room : target.room with
  | none =>
      rw [roomless.1 room] at several
      cases several
  | some room =>
      rw [room] at doable
      exact Move.room_selectable found several (there.room _ room) doable

theorem is_within_teacher : IsWithin 1 timetable
    (timetable.withLesson position (lesson.placed { lesson.placement with teacher := target.teacher })) := by
  obtain ⟨teacher, candidate, same⟩ := there.teacher
  have targetTeacher : target.teacher = some teacher := same
  have known : Setting.unknownName? [.teacher (some teacher)] = none := rfl
  rw [targetTeacher]
  refine is_within_setting working found known fun differs doable => ?_
  have several : 1 < lesson.candidateTeachers.length := by
    by_contra few
    have forced := Lesson.teacher_forced here there few
    rw [targetTeacher] at forced
    exact differs (congrArg Setting.teacher forced)
  exact Move.teacher_selectable found several candidate doable

/-- A lesson is brought to any place in its ranges in three moves at most: its slot is set, then its room, then its
teacher. -/
theorem is_within_place : IsWithin 3 timetable (timetable.withLesson position (lesson.placed target)) := by
  have bound := (List.getElem?_eq_some_iff.1 found).1
  let slotted := lesson.placed { lesson.placement with slot := target.slot }
  let housed := lesson.placed { lesson.placement with slot := target.slot, room := target.room }
  have slottedHere : slotted.InRange timetable.slots := ⟨⟨there.slot, here.teacher, here.room⟩, here.roomless⟩
  have housedHere : housed.InRange timetable.slots := ⟨⟨there.slot, here.teacher, there.room⟩, there.roomless⟩
  have slot : IsWithin 1 timetable (timetable.withLesson position slotted) := is_within_slot working found there
  have slottedWorking : (timetable.withLesson position slotted).isFinal = false := working
  have housedWorking : (timetable.withLesson position housed).isFinal = false := working
  have room : IsWithin 1 (timetable.withLesson position slotted)
      ((timetable.withLesson position slotted).withLesson position housed) :=
    is_within_room slottedWorking (found_in_with_lesson bound slotted) slottedHere there
  have teacher : IsWithin 1 (timetable.withLesson position housed)
      ((timetable.withLesson position housed).withLesson position (lesson.placed target)) :=
    is_within_teacher housedWorking (found_in_with_lesson bound housed) housedHere there
  rw [with_lesson_again] at room teacher
  exact (slot.trans room).trans teacher

end Placing

end Leading

/-- The assignment gives each lesson a slot of the timetable, one of its candidate teachers and one of its candidate
rooms, or no room where it has no candidates. -/
structure Admits (timetable : Timetable) (assignment : Snapshot) : Prop where
  fits : assignment.length = timetable.lessons.length
  inRange : (timetable.holding assignment).InRange

section Assigning

variable {timetable : Timetable} {assignment first second : Snapshot} {position : Nat} {original : Lesson}
  {placement : Placement}

theorem found_in_holding (found : timetable.lessons[position]? = some original)
    (assigned : assignment[position]? = some placement) :
    (timetable.holding assignment).lessons[position]? = some (original.placed placement) := by
  unfold holding lessonsWith
  rw [List.getElem?_zipWith_eq_some]
  exact ⟨original, placement, found, assigned, rfl⟩

theorem Admits.placed (admits : timetable.Admits assignment) (found : timetable.lessons[position]? = some original)
    (assigned : assignment[position]? = some placement) : (original.placed placement).InRange timetable.slots :=
  admits.inRange _ (List.mem_of_getElem? (found_in_holding found assigned))

/-- To write a lesson in another place is to hold an assignment that differs there. -/
theorem holding_set (found : timetable.lessons[position]? = some original) (placement : Placement) :
    (timetable.holding assignment).withLesson position (original.placed placement) =
      timetable.holding (assignment.set position placement) := by
  unfold withLesson holding lessonsWith
  congr 1
  apply List.ext_getElem?
  intro place
  by_cases here : position = place
  · subst here
    rw [List.getElem?_zipWith, List.getElem?_set_self', List.getElem?_set_self', List.getElem?_zipWith, found]
    cases assignment[position]? <;> rfl
  · rw [List.getElem?_zipWith, List.getElem?_set_ne here, List.getElem?_set_ne here, List.getElem?_zipWith]

theorem is_within_mixed (working : timetable.isFinal = false) (admitsFirst : timetable.Admits first)
    (admitsSecond : timetable.Admits second) (count : Nat) (bound : count ≤ timetable.lessons.length) :
    IsWithin (3 * count) (timetable.holding first) (timetable.holding (mixed count first second)) := by
  induction count with
  | zero => exact is_within_self _
  | succ count ih =>
      have inside : count < timetable.lessons.length := bound
      have firstInside : count < first.length := by rwa [admitsFirst.fits]
      have secondInside : count < second.length := by rwa [admitsSecond.fits]
      have found := List.getElem?_eq_getElem inside
      have firstFound := List.getElem?_eq_getElem firstInside
      have secondFound := List.getElem?_eq_getElem secondInside
      have held := found_in_holding found ((mixed_at secondInside).trans firstFound)
      have here := admitsFirst.placed found firstFound
      have target := admitsSecond.placed found secondFound
      have there : ((timetable.lessons[count].placed first[count]).placed second[count]).InRange timetable.slots :=
        target
      have stillWorking : (timetable.holding (mixed count first second)).isFinal = false := working
      have placed := is_within_place stillWorking held here there
      rw [Lesson.placed_placed, holding_set found, mixed_set firstInside secondInside] at placed
      exact (ih inside.le).trans placed

theorem is_within_assignment (working : timetable.isFinal = false) (admitsFirst : timetable.Admits first)
    (admitsSecond : timetable.Admits second) :
    IsWithin (3 * timetable.lessons.length) (timetable.holding first) (timetable.holding second) := by
  have within := is_within_mixed working admitsFirst admitsSecond timetable.lessons.length (Nat.le_refl _)
  have all : mixed timetable.lessons.length first second = second := by
    unfold mixed
    rw [List.take_of_length_le admitsSecond.fits.le, List.drop_eq_nil_of_le admitsFirst.fits.le, List.append_nil]
  rwa [all] at within

theorem arranges_holding (fits : assignment.length = timetable.lessons.length) :
    (timetable.holding assignment).Arranges timetable :=
  ⟨rfl, unplaced_lessons_with timetable fits⟩

/-- An arrangement that is in range holds an assignment that the timetable admits. -/
theorem Arranges.admits {arrangement : Timetable} (arranges : arrangement.Arranges timetable)
    (inRange : arrangement.InRange) : timetable.Admits arrangement.snapshot where
  fits := (snapshot_length arrangement).trans arranges.length
  inRange := by
    rw [arranges.holding_snapshot]
    exact inRange

end Assigning

end Timetable

theorem Director.arranges_of_change {director next : Director} {position : Nat} {settings : List Setting}
    (changed : director.change position settings = .ok next) : next.timetable.Arranges director.timetable := by
  rcases change_ok changed with ⟨-, ⟨-, rfl⟩ | ⟨lesson, -, rfl⟩⟩
  · exact .refl _
  · exact arranges_assign director position _

namespace Move

variable {director moved : Director} {move : Move}

theorem arranges_of_perform (performed : move.perform director = .ok moved) :
    moved.timetable.Arranges director.timetable := by
  cases move with
  | change position old new => exact Director.arranges_of_change performed
  | swap first second =>
      rcases perform_swap_cases performed with ⟨-, rfl⟩ | ⟨left, right, half, -, -, halfDone, done⟩
      · exact .refl _
      · exact (Director.arranges_of_change done).trans (Director.arranges_of_change halfDone)

/-- A move that may be picked and is doable is about lessons that are there. -/
theorem Offered.made_for {timetable : Timetable} (offered : move.Offered timetable)
    (doable : move.isDoable timetable = true) : move.MadeFor timetable := by
  cases offered with
  | slot position slot listed =>
      cases found : timetable.lessons[position]? with
      | none => simp [ofSetting, found, isDoable] at doable
      | some lesson => exact .change found rfl
  | room position lesson found room candidate => exact .change found rfl
  | teacher position lesson found teacher candidate => exact .change found rfl
  | swap first second =>
      simp only [isDoable, Bool.and_eq_true] at doable
      have exchange := doable.2
      split at exchange
      · rename_i left right leftFound rightFound
        exact .swap leftFound rightFound
      · cases exchange

/-- A selected move can be made; it leads from an assignment that is in range to another one. -/
theorem selected_leads_on {Source : Type} [RandomSource Source] {source after : Source} {timetable : Timetable}
    {assignment : Snapshot} (working : timetable.isFinal = false) (admits : timetable.Admits assignment)
    (holds : director.timetable = timetable.holding assignment)
    (selected : (select director.timetable).run source = .ok (some move) after) :
    ∃ moved other, move.perform director = .ok moved ∧ moved.timetable = timetable.holding other ∧
      timetable.Admits other ∧ other ≠ assignment := by
  obtain ⟨offered, doable⟩ := select_some selected
  have made := offered.made_for doable
  have stillWorking : director.timetable.isFinal = false := by
    rw [holds]
    exact working
  obtain ⟨moved, performed⟩ := made.performed stillWorking
  have arranges : moved.timetable.Arranges timetable := by
    have before := Timetable.arranges_holding admits.fits
    rw [← holds] at before
    exact (arranges_of_perform performed).trans before
  have inRange : moved.timetable.InRange := by
    have before := admits.inRange
    rw [← holds] at before
    exact in_range_of_perform before offered doable performed
  refine ⟨moved, moved.timetable.snapshot, performed, arranges.holding_snapshot.symm, arranges.admits inRange, ?_⟩
  intro same
  have unchanged : moved.timetable = director.timetable := by
    rw [holds, ← same, arranges.holding_snapshot]
  exact made.changes doable performed unchanged

end Move

/-- Moves connect the assignments of an assembled timetable that are in range. From any of them to any other there are
moves, each of which some draws select where it is made, three for each lesson at most. And whatever the draws are, a
selected move can be made in range, changes the assignment and stays in range. -/
theorem moves_connect_assignments {problem : Problem} {config : Config} {timetable : Timetable}
    {warnings : List WorkloadWarning} (assembled : problem.assemble config = .ok (timetable, warnings)) :
    (∀ (director : Director) (first second : Snapshot), timetable.Admits first → timetable.Admits second →
      director.timetable = timetable.holding first →
      ∃ moves reached, director.Leads moves reached ∧ reached.timetable = timetable.holding second ∧
        moves.length ≤ 3 * timetable.lessons.length) ∧
    ∀ (Source : Type) [RandomSource Source] (source after : Source) (director : Director) (assignment : Snapshot)
      (move : Move), timetable.Admits assignment → director.timetable = timetable.holding assignment →
      (Move.select director.timetable).run source = .ok (some move) after →
      ∃ moved other, move.perform director = .ok moved ∧ moved.timetable = timetable.holding other ∧
        timetable.Admits other ∧ other ≠ assignment := by
  have working := Problem.working_of_assembled assembled
  constructor
  · intro director first second admitsFirst admitsSecond holds
    obtain ⟨moves, reached, leads, counted, ended⟩ :=
      Timetable.is_within_assignment working admitsFirst admitsSecond director holds
    exact ⟨moves, reached, leads, ended, counted⟩
  · intro Source _ source after director assignment move admits holds selected
    exact Move.selected_leads_on working admits holds selected

section ThreeChoices

instance {slots : List TimeSlot} (lesson : Lesson) : Decidable (lesson.InRange slots) :=
  decidable_of_iff ((∃ slot ∈ slots, lesson.slot = some slot) ∧
      (∃ teacher ∈ lesson.candidateTeachers, lesson.teacher = some teacher) ∧
      (∀ room ∈ lesson.room, room ∈ lesson.candidateRooms) ∧
      (lesson.room = none ↔ lesson.candidateRooms = []))
    ⟨fun ⟨slot, teacher, room, roomless⟩ => ⟨⟨slot, teacher, room⟩, roomless⟩,
      fun inRange => ⟨inRange.slot, inRange.teacher, inRange.room, inRange.roomless⟩⟩

instance (timetable : Timetable) (assignment : Snapshot) : Decidable (timetable.Admits assignment) :=
  decidable_of_iff (assignment.length = timetable.lessons.length ∧
      ∀ lesson ∈ (timetable.holding assignment).lessons, lesson.InRange timetable.slots)
    ⟨fun ⟨fits, inRange⟩ => ⟨fits, inRange⟩, fun admits => ⟨admits.fits, admits.inRange⟩⟩

def threeChoices : Problem where
  term := "T"
  slots := [⟨"first", 0, 1, none, none, false⟩, ⟨"second", 0, 2, none, none, false⟩]
  rooms := [⟨"hall", none, some 30, [], true⟩, ⟨"closet", none, some 5, [], true⟩]
  subjects := [⟨"math", "Mathematics", none⟩]
  classes := [⟨"5a", "5a", 5, some 28, none, true⟩]
  teachers := [⟨"meier", "Meier", none, 28, true⟩, ⟨"huber", "Huber", none, 28, true⟩]
  qualifications := [⟨"meier", "math", .primary, some [5], none⟩, ⟨"huber", "math", .primary, some [5], none⟩]
  availabilities := []
  requirements := [⟨some "r1", "5a", "math", 1, .every, []⟩]

def threeChoicesTimetable : Timetable :=
  threeChoices.timetableOf (Problem.assembledLessons (threeChoices.lessonOutcomes false))

def firstChoices : Snapshot :=
  [⟨some ⟨"first", 0, 1, none, none⟩, some ⟨"hall", "hall", some 30, []⟩,
    some ⟨"meier", "Meier", none, 28, [], [], [("math", [5])]⟩⟩]

def otherChoices : Snapshot :=
  [⟨some ⟨"second", 0, 2, none, none⟩, some ⟨"closet", "closet", some 5, []⟩,
    some ⟨"huber", "Huber", none, 28, [], [], [("math", [5])]⟩⟩]

theorem three_choices_slots : threeChoices.assignableSlots = threeChoices.slots :=
  List.mergeSort_of_pairwise (by decide)

theorem three_choices_assemble : threeChoices.assemblyFaults (threeChoices.lessonOutcomes false) = [] ∧
    threeChoicesTimetable.Admits firstChoices ∧ threeChoicesTimetable.Admits otherChoices ∧
    threeChoicesTimetable.holding firstChoices ≠ threeChoicesTimetable.holding otherChoices := by
  unfold threeChoicesTimetable Problem.assemblyFaults Problem.overfullClasses Problem.timetableOf Problem.buildSlots
    Problem.lessonOutcomes Problem.requirementLessons
  simp only [Problem.candidates_by_level, three_choices_slots]
  decide +kernel

theorem three_choices_are_connected : ∃ warnings,
    threeChoices.assemble .standard = .ok (threeChoicesTimetable, warnings) ∧
      threeChoicesTimetable.Admits firstChoices ∧ threeChoicesTimetable.Admits otherChoices ∧
      let director := Director.ofTimetable (threeChoicesTimetable.holding firstChoices) .standard
      director.timetable = threeChoicesTimetable.holding firstChoices ∧
      (∃ moves reached, director.Leads moves reached ∧
        reached.timetable = threeChoicesTimetable.holding otherChoices ∧
        moves.length ≤ 3 * threeChoicesTimetable.lessons.length) ∧
      ∃ move, ∃ draws after : Draws, (Move.select director.timetable).run draws = .ok (some move) after ∧
        ∃ moved other, move.perform director = .ok moved ∧ moved.timetable = threeChoicesTimetable.holding other ∧
          threeChoicesTimetable.Admits other ∧ other ≠ firstChoices := by
  obtain ⟨faultless, admitsFirst, admitsOther, different⟩ := three_choices_assemble
  have assembled : threeChoices.assemble .standard = .ok (threeChoicesTimetable, _) :=
    Problem.assemble_of_faultless faultless
  have connects := moves_connect_assignments assembled
  let director := Director.ofTimetable (threeChoicesTimetable.holding firstChoices) .standard
  have holds : director.timetable = threeChoicesTimetable.holding firstChoices := Director.of_timetable_timetable ..
  have leads := connects.1 director firstChoices otherChoices admitsFirst admitsOther holds
  have selectable : ∃ move : Move, move.Selectable director.timetable := by
    obtain ⟨moves, reached, leads, ended, -⟩ := leads
    cases leads with
    | stay => exact absurd (holds.symm.trans ended) different
    | go selectable => exact ⟨_, selectable⟩
  obtain ⟨move, draws, after, selected⟩ := selectable
  have leadsOn := connects.2 Draws draws after director firstChoices move admitsFirst holds selected
  exact ⟨_, assembled, admitsFirst, admitsOther, holds, leads, move, draws, after, selected, leadsOn⟩

end ThreeChoices

end SchoolTimetable
