import SchoolTimetable.Proofs.Problem.RoundTrip
import SchoolTimetable.Proofs.Sequencing
import SchoolTimetable.Sample.Generator

/-!
What can come out of the steps by which a sample school is made, whatever is drawn. The grid has as many
teaching slots as days and periods give, all staff and classes are active, the grades are those of the
settings, and the school that is accepted is the one that was put together.
-/

namespace SchoolTimetable.Sample

variable {Source First Value : Type}

def Gives (sampling : Sampling Source Value) (value : Value) : Prop :=
  ∃ source rest, sampling.run source = .ok value rest

theorem gives_bind {first : Sampling Source First} {next : First → Sampling Source Value} {value : Value}
    (given : Gives (first >>= next) value) : ∃ middle, Gives first middle ∧ Gives (next middle) value := by
  obtain ⟨source, rest, done⟩ := given
  obtain ⟨middle, between, firstDone, nextDone⟩ := run_bind_ok.1 done
  exact ⟨middle, ⟨source, between, firstDone⟩, between, rest, nextDone⟩

theorem gives_pure {first value : Value} (given : Gives (pure first : Sampling Source Value) value) :
    value = first := by
  obtain ⟨source, rest, done⟩ := given
  exact (EStateM.Result.ok.inj done).1.symm

theorem not_gives_throw {fault : SampleFault} {value : Value} :
    ¬ Gives (throw fault : Sampling Source Value) value := by
  rintro ⟨source, rest, done⟩
  exact run_throw_ne_ok done

theorem gives_accepted {outcome : Record.Checked Value} {value : Value}
    (given : Gives (accepted outcome : Sampling Source Value) value) : outcome = .ok value := by
  cases outcome with
  | ok first => rw [gives_pure given]
  | flawed issues => exact absurd given not_gives_throw
  | incomparableTimes => exact absurd given not_gives_throw

theorem gives_draw {drawing : Drawing Source Value} {value : Value}
    (given : Gives (draw drawing : Sampling Source Value) value) :
    ∃ source rest, drawing.run source = .ok value rest := by
  obtain ⟨source, rest, done⟩ := given
  refine ⟨source, rest, ?_⟩
  unfold draw at done
  dsimp only [EStateM.run] at done ⊢
  split at done
  · rename_i drawn
    obtain ⟨rfl, rfl⟩ := EStateM.Result.ok.inj done
    exact drawn
  · cases done

section Grid

variable {settings : Settings} {entries : List SlotEntry}

theorem time_of_day_plain (moment : Int) : ∀ time ∈ timeOfDay moment, time.IsPlain := by
  intro time known
  unfold timeOfDay ClockTime.ofMicros at known
  split at known
  · obtain rfl := Option.some.inj known
    exact .inl rfl
  · cases known

theorem gives_named_slot {day period start finish : Int} {isBreak : Bool} {entry : SlotEntry}
    (given : Gives (slot day period start finish isBreak : Sampling Source SlotEntry) entry) :
    entry = SlotEntry.named none day period (timeOfDay start) (timeOfDay finish) isBreak := by
  have plain : (SlotEntry.named none day period (timeOfDay start) (timeOfDay finish)
      isBreak).HasPlainTimes := ⟨time_of_day_plain start, time_of_day_plain finish⟩
  exact (SlotEntry.mirrored plain).faithful (gives_accepted given)

theorem gives_slot {day period start finish : Int} {isBreak : Bool} {entry : SlotEntry}
    (given : Gives (slot day period start finish isBreak : Sampling Source SlotEntry) entry) :
    entry.isBreak = isBreak ∧ entry.HasPlainTimes := by
  obtain rfl := gives_named_slot given
  exact ⟨rfl, time_of_day_plain start, time_of_day_plain finish⟩

def teachingSlots (entries : List SlotEntry) : List SlotEntry := entries.filter (!·.isBreak)

theorem gives_day_slots {day taught period moment : Int} {count : Nat}
    (given : Gives (daySlots settings day count taught period moment : Sampling Source _) entries) :
    (teachingSlots entries).length = count ∧ ∀ entry ∈ entries, entry.HasPlainTimes := by
  induction count generalizing taught period moment entries with
  | zero =>
      obtain rfl := gives_pure given
      simp [teachingSlots]
  | succ count ih =>
      obtain ⟨_, -, given⟩ := gives_bind given
      obtain ⟨finish, -, given⟩ := gives_bind given
      obtain ⟨lesson, lessonGiven, given⟩ := gives_bind given
      obtain ⟨teaching, lessonPlain⟩ := gives_slot lessonGiven
      split at given
      · obtain ⟨_, -, given⟩ := gives_bind given
        obtain ⟨resumed, -, given⟩ := gives_bind given
        obtain ⟨pause, pauseGiven, given⟩ := gives_bind given
        obtain ⟨rest, restGiven, given⟩ := gives_bind given
        obtain rfl := gives_pure given
        obtain ⟨breaks, pausePlain⟩ := gives_slot pauseGiven
        obtain ⟨count, plain⟩ := ih restGiven
        refine ⟨?_, List.forall_mem_cons.2 ⟨lessonPlain, List.forall_mem_cons.2 ⟨pausePlain, plain⟩⟩⟩
        unfold teachingSlots at count ⊢
        rw [List.filter_cons_of_pos (by simp [teaching]), List.filter_cons_of_neg (by simp [breaks]),
          List.length_cons, count]
      · obtain ⟨rest, restGiven, given⟩ := gives_bind given
        obtain rfl := gives_pure given
        obtain ⟨count, plain⟩ := ih restGiven
        refine ⟨?_, List.forall_mem_cons.2 ⟨lessonPlain, plain⟩⟩
        unfold teachingSlots at count ⊢
        rw [List.filter_cons_of_pos (by simp [teaching]), List.length_cons, count]

theorem gives_week_slots {day : Int} {count : Nat}
    (given : Gives (weekSlots settings count day : Sampling Source _) entries) :
    (teachingSlots entries).length = count * settings.periods.toNat ∧
      ∀ entry ∈ entries, entry.HasPlainTimes := by
  induction count generalizing day entries with
  | zero =>
      obtain rfl := gives_pure given
      simp [teachingSlots]
  | succ count ih =>
      obtain ⟨today, todayGiven, given⟩ := gives_bind given
      obtain ⟨rest, restGiven, given⟩ := gives_bind given
      obtain rfl := gives_pure given
      obtain ⟨todayCount, todayPlain⟩ := gives_day_slots todayGiven
      obtain ⟨restCount, restPlain⟩ := ih restGiven
      refine ⟨?_, List.forall_mem_append.2 ⟨todayPlain, restPlain⟩⟩
      unfold teachingSlots at todayCount restCount ⊢
      rw [List.filter_append, List.length_append, todayCount, restCount, Nat.succ_mul, Nat.add_comm]

theorem gives_slots (given : Gives (slots settings : Sampling Source _) entries) :
    (teachingSlots entries).length = settings.days.toNat * settings.periods.toNat ∧
      (entries ≠ [] → 0 < settings.days) ∧ ∀ entry ∈ entries, entry.HasPlainTimes := by
  obtain ⟨_, -, given⟩ := gives_bind given
  obtain ⟨count, plain⟩ := gives_week_slots given
  refine ⟨count, ?_, plain⟩
  intro some
  by_contra noDays
  rw [Int.toNat_of_nonpos (Int.not_lt.1 noDays)] at given
  exact some (gives_pure given)

end Grid

variable [RandomSource Source] {settings : Settings}

section Draws

theorem gives_from {Member : Type} {members : List Member} {member : Member}
    (given : Gives (drawFrom members : Sampling Source Member) member) : member ∈ members := by
  obtain ⟨source, rest, chosen⟩ := gives_draw given
  unfold RandomSource.choose at chosen
  split at chosen
  · obtain ⟨position, between, -, picked⟩ := run_bind_ok.1 chosen
    obtain ⟨rfl, -⟩ := EStateM.Result.ok.inj picked
    exact List.getElem_mem _
  · exact absurd chosen run_throw_ne_ok

theorem gives_below {bound value : Nat} (given : Gives (drawBelow bound : Sampling Source Nat) value) :
    value < bound := by
  unfold drawBelow at given
  split at given
  · obtain ⟨position, -, given⟩ := gives_bind given
    obtain rfl := gives_pure given
    exact position.isLt
  · exact absurd given not_gives_throw

theorem gives_between {least greatest value : Int}
    (given : Gives (drawBetween least greatest : Sampling Source Int) value) : least ≤ value ∧ value ≤ greatest := by
  obtain ⟨offset, offsetGiven, given⟩ := gives_bind given
  obtain rfl := gives_pure given
  have bounded := gives_below offsetGiven
  omega

end Draws

section Subjects

theorem gives_part {Member : Type} {count : Nat} {pool members : List Member}
    (given : Gives (drawPart count pool : Sampling Source _) members) : members ⊆ pool := by
  induction count generalizing pool members with
  | zero =>
      obtain rfl := gives_pure given
      exact List.nil_subset pool
  | succ count ih =>
      obtain ⟨position, -, given⟩ := gives_bind given
      split at given
      · rename_i drawn last atPosition atEnd
        obtain ⟨others, othersGiven, given⟩ := gives_bind given
        obtain rfl := gives_pure given
        refine List.cons_subset.2 ⟨List.mem_of_getElem? atPosition, ?_⟩
        intro member listed
        have kept := List.dropLast_subset _ (ih othersGiven listed)
        rcases List.mem_or_eq_of_mem_set kept with there | rfl
        · exact there
        · exact List.mem_of_getLast? atEnd
      · exact absurd given not_gives_throw

theorem gives_some {Member : Type} {count : Int} {pool members : List Member}
    (given : Gives (drawSome count pool : Sampling Source _) members) : members ⊆ pool := by
  unfold drawSome at given
  split at given
  · exact absurd given not_gives_throw
  · exact gives_part given

def stock : List StockSubject := coreSubjects ++ specialistSubjects

theorem gives_subjects {taught : List StockSubject}
    (given : Gives (subjects settings : Sampling Source _) taught) : taught ⊆ stock := by
  unfold subjects at given
  split at given
  · obtain ⟨drawn, drawnGiven, given⟩ := gives_bind given
    obtain rfl := gives_pure given
    exact List.append_subset.2 ⟨List.subset_append_left .., fun subject listed =>
      List.mem_append_right _ (gives_some drawnGiven listed)⟩
  · obtain rfl := gives_pure given
    exact List.subset_append_left ..

end Subjects

section People

theorem gives_more_teachers {trials : Nat} {made staff : List TeacherEntry} {count : Nat}
    (given : Gives (moreTeachers trials made count : Sampling Source _) staff)
    (active : ∀ teacher ∈ made, teacher.active = true) :
    staff.length = made.length + count ∧ ∀ teacher ∈ staff, teacher.active = true := by
  induction count generalizing made with
  | zero =>
      obtain rfl := gives_pure given
      exact ⟨rfl, active⟩
  | succ count ih =>
      obtain ⟨⟨first, last⟩, -, given⟩ := gives_bind given
      obtain ⟨hours, -, given⟩ := gives_bind given
      obtain ⟨length, allActive⟩ := ih given (List.forall_mem_append.2 ⟨active, by simp⟩)
      rw [List.length_append, List.length_singleton] at length
      exact ⟨by omega, allActive⟩

theorem gives_teachers {trials : Nat} {staff : List TeacherEntry}
    (given : Gives (teachersWithin trials settings : Sampling Source _) staff) :
    staff.length = settings.teachers.toNat ∧ ∀ teacher ∈ staff, teacher.active = true := by
  obtain ⟨length, active⟩ := gives_more_teachers given (by simp)
  exact ⟨by simpa using length, active⟩

theorem gives_grade_classes {grade : Int} {count index : Nat} {groups : List ClassEntry}
    (given : Gives (gradeClasses settings grade count index : Sampling Source _) groups) :
    ∀ entry ∈ groups, entry.active = true ∧ entry.grade = grade := by
  induction count generalizing index groups with
  | zero =>
      obtain rfl := gives_pure given
      simp
  | succ count ih =>
      obtain ⟨students, -, given⟩ := gives_bind given
      obtain ⟨entry, entryGiven, given⟩ := gives_bind given
      obtain ⟨rest, restGiven, given⟩ := gives_bind given
      obtain rfl := gives_pure given
      obtain rfl := (ClassEntry.mirrored _).faithful (gives_accepted entryGiven)
      exact List.forall_mem_cons.2 ⟨⟨rfl, rfl⟩, ih restGiven⟩

theorem gives_classes_of {share extra : Int} {grades : List Int} {groups : List ClassEntry}
    (given : Gives (classesOf settings share extra grades : Sampling Source _) groups) :
    ∀ entry ∈ groups, entry.active = true ∧ entry.grade ∈ grades := by
  induction grades generalizing extra groups with
  | nil =>
      obtain rfl := gives_pure given
      simp
  | cons grade rest ih =>
      obtain ⟨first, firstGiven, given⟩ := gives_bind given
      obtain ⟨others, othersGiven, given⟩ := gives_bind given
      obtain rfl := gives_pure given
      refine List.forall_mem_append.2 ⟨?_, ?_⟩
      · intro entry listed
        obtain ⟨active, same⟩ := gives_grade_classes firstGiven entry listed
        exact ⟨active, same ▸ List.mem_cons_self⟩
      · intro entry listed
        obtain ⟨active, graded⟩ := ih othersGiven entry listed
        exact ⟨active, List.mem_cons_of_mem grade graded⟩

theorem gives_classes {groups : List ClassEntry}
    (given : Gives (classes settings : Sampling Source _) groups) :
    ∀ entry ∈ groups, entry.active = true ∧ entry.grade ∈ settings.grades := by
  unfold classes at given
  dsimp only at given
  split at given
  · obtain ⟨_, thrown, -⟩ := gives_bind given
    exact absurd thrown not_gives_throw
  · exact gives_classes_of given

theorem gives_draw_subjects {ids : List String} {staff : List TeacherEntry} {drawn : Assignment}
    (given : Gives (drawSubjects settings ids staff : Sampling Source _) drawn) :
    drawn.map (·.1) = staff.map (·.id) := by
  induction staff generalizing drawn with
  | nil =>
      obtain rfl := gives_pure given
      rfl
  | cons teacher rest ih =>
      obtain ⟨count, -, given⟩ := gives_bind given
      obtain ⟨own, -, given⟩ := gives_bind given
      obtain ⟨others, othersGiven, given⟩ := gives_bind given
      obtain rfl := gives_pure given
      rw [List.map_cons, List.map_cons, ih othersGiven]

end People

theorem gives_rooms {taught : List StockSubject} {places : List RoomEntry}
    (given : Gives (rooms settings taught : Sampling Source _) places)
    (some : 1 ≤ settings.classrooms) :
    ∃ room ∈ places, room.active = true ∧ room.suitableSubjects = [] := by
  obtain ⟨general, generalGiven, given⟩ := gives_bind given
  obtain ⟨special, -, given⟩ := gives_bind given
  obtain rfl := gives_pure given
  obtain ⟨count, same⟩ := Nat.exists_eq_succ_of_ne_zero (n := settings.classrooms.toNat) (by omega)
  rw [same] at generalGiven
  obtain ⟨first, firstGiven, generalGiven⟩ := gives_bind generalGiven
  obtain ⟨others, -, generalGiven⟩ := gives_bind generalGiven
  obtain rfl := gives_pure generalGiven
  obtain ⟨capacity, -, firstGiven⟩ := gives_bind firstGiven
  obtain rfl := (RoomEntry.mirrored _).faithful (gives_accepted firstGiven)
  exact ⟨_, List.mem_append_left _ List.mem_cons_self, rfl, rfl⟩

structure StepsOf (Source : Type) [RandomSource Source] (trials : Nat) (settings : Settings)
    (taught : List StockSubject) (groups : List ClassEntry) (school : Problem) : Prop where
  accepted : Problem.read school.write = .ok school
  taughtGiven : Gives (subjects settings : Sampling Source _) taught
  slotsGiven : Gives (slots settings : Sampling Source _) school.slots
  staffGiven : Gives (teachersWithin trials settings : Sampling Source _) school.teachers
  groupsGiven : Gives (classes settings : Sampling Source _) groups
  skillsGiven : Gives (qualifications settings school.teachers taught school.requirements : Sampling Source _)
    school.qualifications
  roomsGiven : Gives (rooms settings taught : Sampling Source _) school.rooms
  timesGiven : Gives (availabilities settings school.teachers : Sampling Source _) school.availabilities
  subjects : school.subjects = taught.map (·.entry)
  classes : school.classes = if settings.assignsClassTeachers then
    withClassTeachers school.teachers school.qualifications groups else groups
  hours : school.requirements = requirements settings groups taught

theorem steps_of_given {trials : Nat} {school : Problem}
    (given : Gives (problemWithin trials settings : Sampling Source Problem) school) :
    ∃ taught groups, StepsOf Source trials settings taught groups school := by
  obtain ⟨taught, taughtGiven, given⟩ := gives_bind given
  obtain ⟨grid, slotsGiven, given⟩ := gives_bind given
  obtain ⟨staff, staffGiven, given⟩ := gives_bind given
  obtain ⟨groups, groupsGiven, given⟩ := gives_bind given
  obtain ⟨skills, skillsGiven, given⟩ := gives_bind given
  obtain ⟨places, roomsGiven, given⟩ := gives_bind given
  obtain ⟨times, timesGiven, given⟩ := gives_bind given
  have accepted := gives_accepted given
  obtain rfl : school = _ := by
    refine (Problem.mirrored ?_).faithful accepted
    exact (gives_slots slotsGiven).2.2
  exact ⟨taught, groups, accepted, taughtGiven, slotsGiven, staffGiven, groupsGiven, skillsGiven, roomsGiven,
    timesGiven, rfl, rfl, rfl⟩

end SchoolTimetable.Sample
