import Mathlib.Data.String.Basic
import SchoolTimetable.Proofs.Entries.Sharing
import SchoolTimetable.Proofs.Entries.Totals
import SchoolTimetable.Solution.Extraction

/-!
Records and views. Unless something is lacking there is one record for each lesson, in the order of the week. The
views share the same records out to classes, teachers, rooms and days, and nothing is lost, told twice or moved on the
way.
-/

namespace SchoolTimetable

/-- The lesson cannot be recorded: it has no slot, or it lacks a room or a teacher where that is not allowed. -/
def Lesson.IsUnresolved (allowUnresourced : Bool) (lesson : Lesson) : Prop :=
  lesson.slot = none ∨ allowUnresourced = false ∧ (lesson.room = none ∨ lesson.teacher = none)
deriving Decidable

/-- The gap names the lesson and what it lacks, the slot before the room and the room before the teacher. -/
def Gap.IsOf (allowUnresourced : Bool) (lesson : Lesson) : Gap → Prop
  | .slot id => id = lesson.id ∧ lesson.slot = none
  | .room id => id = lesson.id ∧ allowUnresourced = false ∧ lesson.slot ≠ none ∧ lesson.room = none
  | .teacher id => id = lesson.id ∧ allowUnresourced = false ∧ lesson.slot ≠ none ∧ lesson.room ≠ none ∧
      lesson.teacher = none

section Gaps

variable {allowUnresourced : Bool} {lesson : Lesson} {gap : Gap}

theorem gap_is_some_iff : (lesson.gap? allowUnresourced).isSome = true ↔ lesson.IsUnresolved allowUnresourced := by
  unfold Lesson.gap? Lesson.IsUnresolved
  cases lesson.slot <;> cases allowUnresourced <;> cases lesson.room <;> cases lesson.teacher <;> simp

theorem gap_is_of (found : lesson.gap? allowUnresourced = some gap) : gap.IsOf allowUnresourced lesson := by
  unfold Lesson.gap? at found
  by_cases slot : lesson.slot = none
  · rw [if_pos (Option.isNone_iff_eq_none.2 slot)] at found
    obtain rfl := Option.some.inj found
    exact ⟨rfl, slot⟩
  rw [if_neg (mt Option.isNone_iff_eq_none.1 slot)] at found
  by_cases allowed : allowUnresourced = true
  · rw [if_pos allowed] at found
    cases found
  rw [if_neg allowed] at found
  have strict := Bool.eq_false_of_not_eq_true allowed
  by_cases room : lesson.room = none
  · rw [if_pos (Option.isNone_iff_eq_none.2 room)] at found
    obtain rfl := Option.some.inj found
    exact ⟨rfl, strict, slot, room⟩
  rw [if_neg (mt Option.isNone_iff_eq_none.1 room)] at found
  by_cases teacher : lesson.teacher = none
  · rw [if_pos (Option.isNone_iff_eq_none.2 teacher)] at found
    obtain rfl := Option.some.inj found
    exact ⟨rfl, strict, slot, room, teacher⟩
  · rw [if_neg (mt Option.isNone_iff_eq_none.1 teacher)] at found
    cases found

/-- There is one gap for each lesson that is unresolved, in the order of the lessons. -/
theorem gaps_of_unresolved (allowUnresourced : Bool) (lessons : List Lesson) :
    List.Forall₂ (fun lesson gap => Gap.IsOf allowUnresourced lesson gap)
      (lessons.filter fun lesson => lesson.IsUnresolved allowUnresourced)
      (lessons.filterMap (Lesson.gap? allowUnresourced)) := by
  refine forall₂_filter_of_filter_map (fun lesson _ unresolved => ?_) fun lesson _ resolved => ?_
  · obtain ⟨gap, found⟩ := Option.isSome_iff_exists.1 (gap_is_some_iff.2 (of_decide_eq_true unresolved))
    exact ⟨gap, found, gap_is_of found⟩
  · rw [← Option.not_isSome_iff_eq_none, gap_is_some_iff]
    exact of_decide_eq_false resolved

theorem no_gaps_iff {lessons : List Lesson} : lessons.filterMap (Lesson.gap? allowUnresourced) = [] ↔
    ∀ lesson ∈ lessons, ¬ lesson.IsUnresolved allowUnresourced := by
  rw [List.filterMap_eq_nil_iff]
  refine forall₂_congr fun lesson _ => ?_
  rw [← gap_is_some_iff, Option.not_isSome_iff_eq_none]

end Gaps

namespace LessonRecord

/-- The record says of a lesson of a term what it is, when it is, who gives it and where. -/
structure TellsOf (term : String) (lesson : Lesson) (record : LessonRecord) : Prop where
  identity : record.term = term ∧ record.lesson = lesson.id
  schoolClass : record.schoolClass = lesson.schoolClass.id ∧ record.className = some lesson.schoolClass.name
  subject : record.subject = lesson.subject.id ∧ record.subjectName = some lesson.subject.name
  pattern : record.pattern = lesson.pattern
  time : ∃ slot, lesson.slot = some slot ∧ record.slot = slot.id ∧ record.day = slot.day ∧
    record.period = slot.period
  teacher : record.teacher = lesson.teacher.map (·.id) ∧ record.teacherName = lesson.teacher.map (·.name)
  room : record.room = lesson.room.map (·.id) ∧ record.roomName = lesson.room.map (·.name)

/-- By the day, then by the period, then by the id of the class, then by that of the subject. -/
def place (record : LessonRecord) : ℤ ×ₗ ℤ ×ₗ String ×ₗ String :=
  toLex (record.day, toLex (record.period, toLex (record.schoolClass, record.subject)))

theorem at_most_iff (first second : LessonRecord) : first.atMost second = true ↔ first.place ≤ second.place := by
  unfold atMost place
  refine lex_at_most_iff Iff.rfl decide_eq_true_iff ?_
  refine lex_at_most_iff Iff.rfl decide_eq_true_iff ?_
  exact lex_at_most_iff Iff.rfl decide_eq_true_iff decide_eq_true_iff

theorem day_le_of_place {first second : LessonRecord} (before : first.place ≤ second.place) :
    first.day ≤ second.day := by
  rcases Prod.Lex.toLex_le_toLex.1 before with earlier | ⟨same, -⟩
  · exact le_of_lt earlier
  · exact le_of_eq same

theorem tell_of_lessons (term : String) {lessons : List Lesson} (placed : ∀ lesson ∈ lessons, lesson.slot ≠ none) :
    List.Forall₂ (fun lesson record => TellsOf term lesson record) lessons
      (lessons.filterMap fun lesson => lesson.slot.map (lesson.recordAt term)) := by
  have told : List.Forall₂ (fun lesson record => TellsOf term lesson record) (lessons.filter fun _ => true)
      (lessons.filterMap fun lesson => lesson.slot.map (lesson.recordAt term)) := by
    refine forall₂_filter_of_filter_map (fun lesson listed _ => ?_) fun _ _ dropped => nomatch dropped
    obtain ⟨slot, hasSlot⟩ := Option.ne_none_iff_exists'.1 (placed lesson listed)
    refine ⟨lesson.recordAt term slot, by rw [hasSlot]; rfl, ?_⟩
    exact ⟨⟨rfl, rfl⟩, ⟨rfl, rfl⟩, ⟨rfl, rfl⟩, rfl, ⟨slot, hasSlot, rfl, rfl, rfl⟩, ⟨rfl, rfl⟩, ⟨rfl, rfl⟩⟩
  rwa [List.filter_true] at told

section Groups

open Entries

variable {Key : Type}

def keyed (key? : LessonRecord → Option Key) (records : List LessonRecord) : List (Key × LessonRecord) :=
  records.filterMap fun record => (key? record).map fun key => (key, record)

theorem records_of_keyed (key? : LessonRecord → Option Key) (records : List LessonRecord) :
    (keyed key? records).map (·.2) = records.filter fun record => (key? record).isSome := by
  rw [keyed, List.map_filterMap, ← List.filterMap_eq_filter]
  congr 1
  funext record
  cases found : key? record <;> simp [Option.guard, found]

variable [DecidableEq Key]

theorem records_of_key (key? : LessonRecord → Option Key) (records : List LessonRecord) (name : Key) :
    ((keyed key? records).filter (·.1 = name)).map (·.2) = records.filter fun record => key? record = some name := by
  have distinct : ∀ record, (key? record).toList.Nodup := fun record => by cases key? record <;> simp
  have uses := uses_of_key distinct id name records
  have same : keyed key? records =
      records.flatMap fun record => (key? record).toList.map fun held => (held, id record) := by
    rw [keyed, List.filterMap_eq_flatMap_toList]
    congr 1
    funext record
    cases key? record <;> rfl
  rw [same, uses]
  simp

theorem groups_of_group_some (key? : LessonRecord → Option Key) (records : List LessonRecord) :
    Groups key? records (groupBy? key? records) := by
  have grouped := groups_of_group (·.1) (keyed key? records)
  have same : groupBy? key? records =
      (group (·.1) (keyed key? records)).map fun group => (group.1, group.2.map (·.2)) := rfl
  rw [same]
  refine ⟨?_, fun name members => ?_, ?_⟩
  · have distinct := grouped.distinct
    unfold keys at distinct ⊢
    rwa [List.map_map]
  · rw [List.mem_map, ← records_of_key]
    constructor
    · rintro ⟨⟨own, pairs⟩, listed, equal⟩
      obtain ⟨rfl, rfl⟩ := Prod.mk.inj equal
      obtain ⟨rfl, occupied⟩ := (mem_group_iff _ _ _ _).1 listed
      exact ⟨rfl, mt List.map_eq_nil_iff.1 occupied⟩
    · rintro ⟨rfl, occupied⟩
      exact ⟨(name, _), (mem_group_iff _ _ _ _).2 ⟨rfl, fun empty => occupied (by rw [empty]; rfl)⟩, rfl⟩
  · rw [← records_of_keyed, List.flatMap_map, ← List.map_flatMap]
    exact (flat_map_group _ _).map _

end Groups

end LessonRecord

structure SchedulesShareOut (key? : LessonRecord → Option String) (records : List LessonRecord)
    (schedules : List (String × EntitySchedule)) : Prop where
  whole : Entries.Allots key? EntitySchedule.lessons records schedules
  named : ∀ entry ∈ schedules, entry.2.id = entry.1
  inOrder : ∀ entry ∈ schedules, entry.2.lessons.Sublist records ∧
    ∀ part ∈ entry.2.byDay, part.2.Sublist records
  byDay : ∀ entry ∈ schedules,
    Entries.Allots (fun record => some record.day) (fun members => members) entry.2.lessons entry.2.byDay
  joined : ∀ entry ∈ schedules, entry.2.byDay.flatMap (·.2) = entry.2.lessons

/-- Views share records out to classes and days, and to teachers and rooms where there is one. -/
structure Views.ShareOut (records : List LessonRecord) (views : Views) : Prop where
  byClass : SchedulesShareOut (fun record => some record.schoolClass) records views.byClass
  byTeacher : SchedulesShareOut (·.teacher) records views.byTeacher
  byRoom : SchedulesShareOut (·.room) records views.byRoom
  byDay : Entries.Allots (fun record => some record.day) DaySchedule.lessons records views.byDay
  dated : ∀ entry ∈ views.byDay, entry.2.day = entry.1
  inOrder : ∀ entry ∈ views.byDay, entry.2.lessons.Sublist records
  joined : views.byDay.flatMap (·.2.lessons) = records

section Sharing

open Entries LessonRecord

variable {records : List LessonRecord} (ordered : records.Pairwise (·.place ≤ ·.place))

include ordered

theorem by_day_shares_out :
    Allots (fun record => some record.day) (fun members => members) records (byDay records) ∧
      (byDay records).flatMap (·.2) = records := by
  have ascending : records.Pairwise (·.day ≤ ·.day) := ordered.imp day_le_of_place
  obtain ⟨days, joined⟩ := group_of_ascending ascending
  exact ⟨(groups_of_group _ records).allots days, joined⟩

theorem entity_schedules_share_out {key? : LessonRecord → Option String} {groups : List (String × List LessonRecord)}
    (grouped : Groups key? records groups) (names : List (String × String)) :
    SchedulesShareOut key? records (entitySchedules names groups) := by
  obtain ⟨sorted, ascending⟩ := grouped.sort_by_key fun first second => decide_eq_true_iff
  have allots := sorted.allots ascending
  -- Each schedule holds its group, which is in the order of all records.
  have built : ∀ entry ∈ entitySchedules names groups, entry.2.id = entry.1 ∧
      entry.2.byDay = byDay entry.2.lessons ∧ entry.2.lessons.Sublist records := by
    intro entry listed
    obtain ⟨group, known, rfl⟩ := List.mem_map.1 listed
    exact ⟨rfl, rfl, allots.in_order known⟩
  have days : ∀ entry ∈ entitySchedules names groups,
      Allots (fun record => some record.day) (fun members => members) entry.2.lessons entry.2.byDay ∧
        entry.2.byDay.flatMap (·.2) = entry.2.lessons := by
    intro entry listed
    obtain ⟨-, same, kept⟩ := built entry listed
    rw [same]
    exact by_day_shares_out (ordered.sublist kept)
  refine ⟨?_, fun entry listed => (built entry listed).1, fun entry listed => ⟨(built entry listed).2.2, ?_⟩,
    fun entry listed => (days entry listed).1, fun entry listed => (days entry listed).2⟩
  · let schedule : String × List LessonRecord → EntitySchedule := fun group =>
      ⟨group.1, (Entries.get? group.1 (Entries.ofList names)).getD group.1, group.2, byDay group.2⟩
    exact allots.map schedule fun _ => rfl
  · intro part held
    exact ((days entry listed).1.in_order held).trans (built entry listed).2.2

theorem day_schedules_share_out :
    Allots (fun record => some record.day) DaySchedule.lessons records (daySchedules (byDay records)) ∧
      (daySchedules (byDay records)).flatMap (·.2.lessons) = records := by
  obtain ⟨allots, joined⟩ := by_day_shares_out ordered
  have sorted := sort_by_key_of_ascending (fun _ _ => decide_eq_true_iff) allots.ascending
  let schedule : Int × List LessonRecord → DaySchedule := fun group => ⟨group.1, dayName group.1, group.2⟩
  have built : daySchedules (byDay records) = (byDay records).map fun group => (group.1, schedule group) := by
    unfold daySchedules
    rw [sorted]
  rw [built]
  refine ⟨allots.map schedule fun _ => rfl, ?_⟩
  rw [List.flatMap_map]
  exact joined

theorem Timetable.views_share_out (timetable : Timetable) : (timetable.views records).ShareOut records where
  byClass := entity_schedules_share_out ordered (groups_of_group _ records) _
  byTeacher := entity_schedules_share_out ordered (groups_of_group_some _ records) _
  byRoom := entity_schedules_share_out ordered (groups_of_group_some _ records) _
  byDay := (day_schedules_share_out ordered).1
  dated := by
    intro entry listed
    obtain ⟨group, -, rfl⟩ := List.mem_map.1 listed
    rfl
  inOrder := fun entry listed => (day_schedules_share_out ordered).1.in_order listed
  joined := (day_schedules_share_out ordered).2

end Sharing

/-- The records of a timetable are refused exactly if a lesson is unresolved, with one gap for each such lesson in the
order of the lessons. Otherwise there is one record for each lesson, in the order of day, period, class and subject and
within that in the order of the lessons; and the views share these records out. -/
theorem records_and_views_share_out_lessons (timetable : Timetable) (allowUnresourced : Bool) :
    ((∃ unresolved, timetable.records allowUnresourced = .error unresolved) ↔
      ∃ lesson ∈ timetable.lessons, lesson.IsUnresolved allowUnresourced) ∧
    (∀ unresolved, timetable.records allowUnresourced = .error unresolved →
      unresolved.term = timetable.term ∧
      List.Forall₂ (fun lesson gap => Gap.IsOf allowUnresourced lesson gap)
        (timetable.lessons.filter fun lesson => lesson.IsUnresolved allowUnresourced) unresolved.gaps) ∧
    ∀ records, timetable.records allowUnresourced = .ok records →
      (∃ original, List.Forall₂ (fun lesson record => record.TellsOf timetable.term lesson) timetable.lessons original ∧
        records.Perm original ∧
        ∀ place, records.filter (·.place = place) = original.filter (·.place = place)) ∧
      records.Pairwise (·.place ≤ ·.place) ∧ (timetable.views records).ShareOut records := by
  have gaps := gaps_of_unresolved allowUnresourced timetable.lessons
  unfold Timetable.records
  split
  · rename_i noGaps
    have resolved := no_gaps_iff.1 noGaps
    refine ⟨⟨?_, ?_⟩, ?_, ?_⟩
    · rintro ⟨_, refused⟩
      cases refused
    · rintro ⟨lesson, listed, unresolved⟩
      exact absurd unresolved (resolved lesson listed)
    · intro _ refused
      cases refused
    · intro records recorded
      obtain rfl := Except.ok.inj recorded
      have placed : ∀ lesson ∈ timetable.lessons, lesson.slot ≠ none :=
        fun lesson listed noSlot => resolved lesson listed (.inl noSlot)
      have ordered := sort_ascending LessonRecord.at_most_iff
        (timetable.lessons.filterMap fun lesson => lesson.slot.map (lesson.recordAt timetable.term))
      refine ⟨⟨_, LessonRecord.tell_of_lessons timetable.term placed, List.mergeSort_perm _ _, ?_⟩, ordered,
        timetable.views_share_out ordered⟩
      exact sort_keeps_key LessonRecord.at_most_iff _
  · rename_i someGaps
    refine ⟨⟨fun _ => ?_, fun _ => ⟨_, rfl⟩⟩, ?_, ?_⟩
    · by_contra none
      exact someGaps (no_gaps_iff.2 fun lesson listed unresolved => none ⟨lesson, listed, unresolved⟩)
    · intro unresolved refused
      obtain rfl := Except.error.inj refused
      exact ⟨rfl, gaps⟩
    · intro _ recorded
      cases recorded

end SchoolTimetable
