import SchoolTimetable.Proofs.Entries.Totals
import SchoolTimetable.Proofs.Sample.Schools

/-!
The week of a sample school and the availability of its teachers. The records are for teaching slots of the grid,
unless a break is set in front of the first period: the grid has no such break, and yet the records leave a place
for it.
-/

namespace SchoolTimetable.Sample

variable {Source : Type} {settings : Settings}

section Grid

variable {entries : List SlotEntry}

/-- The number in the grid of one of the periods to come, given the number of the next one and how many have been
taught: behind the break it is one more. -/
def numberAhead (settings : Settings) (taught period : Int) (index : Nat) : Int :=
  if settings.breakAfter.any fun last => taught < last && last ≤ taught + index then period + index + 1
  else period + index

section Numbers

variable {taught period last : Int}

theorem number_ahead_of_none (unset : settings.breakAfter = none) (index : Nat) :
    numberAhead settings taught period index = period + index := by
  simp [numberAhead, unset]

theorem number_ahead_of_some (known : settings.breakAfter = some last) (index : Nat) :
    numberAhead settings taught period index =
      if taught < last ∧ last ≤ taught + index then period + index + 1 else period + index := by
  simp [numberAhead, known]

theorem grid_period_of_none (unset : settings.breakAfter = none) : gridPeriod settings period = period := by
  simp [gridPeriod, unset]

theorem grid_period_of_some (known : settings.breakAfter = some last) :
    gridPeriod settings period = if last < period then period + 1 else period := by
  simp [gridPeriod, known]

theorem number_ahead_zero (taught period : Int) : numberAhead settings taught period 0 = period := by
  cases known : settings.breakAfter with
  | none =>
      rw [number_ahead_of_none known]
      exact Int.add_zero period
  | some last =>
      rw [number_ahead_of_some known, if_neg (by omega)]
      exact Int.add_zero period

theorem number_ahead_behind (here : settings.breakAfter = some (taught + 1)) (index : Nat) :
    numberAhead settings taught period (index + 1) = numberAhead settings (taught + 1) (period + 2) index := by
  rw [number_ahead_of_some here, number_ahead_of_some here, if_pos (by omega), if_neg (by omega)]
  omega

theorem number_ahead_elsewhere (elsewhere : settings.breakAfter ≠ some (taught + 1)) (index : Nat) :
    numberAhead settings taught period (index + 1) = numberAhead settings (taught + 1) (period + 1) index := by
  cases known : settings.breakAfter with
  | none =>
      rw [number_ahead_of_none known, number_ahead_of_none known]
      omega
  | some last =>
      have other : last ≠ taught + 1 := fun same => elsewhere (known.trans (congrArg some same))
      rw [number_ahead_of_some known, number_ahead_of_some known]
      split
      · rw [if_pos (by omega)]
        omega
      · rw [if_neg (by omega)]
        omega

theorem grid_period_injective {first second : Int}
    (same : gridPeriod settings first = gridPeriod settings second) : first = second := by
  cases known : settings.breakAfter with
  | none =>
      rw [grid_period_of_none known, grid_period_of_none known] at same
      exact same
  | some last =>
      rw [grid_period_of_some known, grid_period_of_some known] at same
      split at same
      · split at same
        · omega
        · omega
      · split at same
        · omega
        · omega

/-- The grid numbers the periods as they are counted for availability, where a break that is set follows a period. -/
theorem number_ahead_eq (follows : ∀ last ∈ settings.breakAfter, 1 ≤ last) (index : Nat) :
    numberAhead settings 0 1 index = gridPeriod settings (index + 1) := by
  cases known : settings.breakAfter with
  | none =>
      rw [number_ahead_of_none known, grid_period_of_none known]
      exact Int.add_comm 1 index
  | some last =>
      have positive := follows last known
      rw [number_ahead_of_some known, grid_period_of_some known]
      split
      · rw [if_pos (by omega)]
        omega
      · rw [if_neg (by omega)]
        omega

/-- A break that is set in front of the first period is not in the grid, but is counted for availability. -/
theorem number_ahead_of_early (early : settings.breakAfter = some last) (first : last ≤ 0) (index : Nat) :
    numberAhead settings 0 1 index + 1 = gridPeriod settings (index + 1) := by
  rw [number_ahead_of_some early, grid_period_of_some early, if_neg (by omega), if_pos (by omega)]
  omega

end Numbers

/-- The teaching slots of a day are numbered one after the other, with one number left out for the break. -/
theorem gives_day_periods {day taught period moment : Int} {count : Nat}
    (given : Gives (daySlots settings day count taught period moment : Sampling Source _) entries) :
    (∀ entry ∈ entries, entry.day = day) ∧
      (teachingSlots entries).map (·.period) = (List.range count).map (numberAhead settings taught period) := by
  induction count generalizing taught period moment entries with
  | zero =>
      obtain rfl := gives_pure given
      simp [teachingSlots]
  | succ count ih =>
      obtain ⟨_, -, given⟩ := gives_bind given
      obtain ⟨finish, -, given⟩ := gives_bind given
      obtain ⟨lesson, lessonGiven, given⟩ := gives_bind given
      obtain rfl := gives_named_slot lessonGiven
      rw [List.range_succ_eq_map, List.map_cons, List.map_map, number_ahead_zero]
      split at given
      · rename_i here
        obtain ⟨_, -, given⟩ := gives_bind given
        obtain ⟨resumed, -, given⟩ := gives_bind given
        obtain ⟨pause, pauseGiven, given⟩ := gives_bind given
        obtain ⟨rest, restGiven, given⟩ := gives_bind given
        obtain rfl := gives_named_slot pauseGiven
        obtain rfl := gives_pure given
        obtain ⟨today, periods⟩ := ih restGiven
        refine ⟨List.forall_mem_cons.2 ⟨rfl, List.forall_mem_cons.2 ⟨rfl, today⟩⟩, ?_⟩
        change period :: (teachingSlots rest).map (·.period) = _
        rw [periods]
        congr 2
        funext index
        exact (number_ahead_behind here index).symm
      · rename_i elsewhere
        obtain ⟨rest, restGiven, given⟩ := gives_bind given
        obtain rfl := gives_pure given
        obtain ⟨today, periods⟩ := ih restGiven
        refine ⟨List.forall_mem_cons.2 ⟨rfl, today⟩, ?_⟩
        change period :: (teachingSlots rest).map (·.period) = _
        rw [periods]
        congr 2
        funext index
        exact (number_ahead_elsewhere elsewhere index).symm

theorem teaching_slots_append (first second : List SlotEntry) :
    teachingSlots (first ++ second) = teachingSlots first ++ teachingSlots second :=
  List.filter_append ..

theorem teaching_slots_of_day {day other : Int} (today : ∀ entry ∈ entries, entry.day = day) :
    (teachingSlots entries).filter (·.day = other) = if day = other then teachingSlots entries else [] := by
  split
  · rename_i same
    rw [List.filter_eq_self]
    intro entry listed
    simpa [← same] using today entry (List.mem_filter.1 listed).1
  · rename_i different
    rw [List.filter_eq_nil_iff]
    intro entry listed
    simpa [today entry (List.mem_filter.1 listed).1] using different

theorem gives_week_periods {day : Int} {count : Nat}
    (given : Gives (weekSlots settings count day : Sampling Source _) entries) :
    (∀ entry ∈ entries, day ≤ entry.day) ∧ ∀ other, day ≤ other → other < day + count →
      ((teachingSlots entries).filter (·.day = other)).map (·.period) =
        (List.range settings.periods.toNat).map (numberAhead settings 0 1) := by
  induction count generalizing day entries with
  | zero =>
      obtain rfl := gives_pure given
      refine ⟨by simp, fun other early late => ?_⟩
      omega
  | succ count ih =>
      obtain ⟨today, todayGiven, given⟩ := gives_bind given
      obtain ⟨rest, restGiven, given⟩ := gives_bind given
      obtain rfl := gives_pure given
      obtain ⟨ofToday, periods⟩ := gives_day_periods todayGiven
      obtain ⟨later, laterPeriods⟩ := ih restGiven
      refine ⟨List.forall_mem_append.2 ⟨fun entry listed => (ofToday entry listed).ge, ?_⟩, ?_⟩
      · intro entry listed
        have after := later entry listed
        omega
      · intro other early late
        rw [teaching_slots_append, List.filter_append, teaching_slots_of_day ofToday]
        by_cases now : day = other
        · have nothing : (teachingSlots rest).filter (·.day = other) = [] := by
            rw [List.filter_eq_nil_iff]
            intro entry listed
            have after := later entry (List.mem_filter.1 listed).1
            rw [decide_eq_true_eq]
            omega
          rw [if_pos now, nothing, List.append_nil, periods]
        · rw [if_neg now, List.nil_append]
          exact laterPeriods other (by omega) (by push_cast at late; omega)

end Grid

section Availability

def recordAt (settings : Settings) (teacher : String) (kind : AvailabilityKind) (place : Int × Int) : Availability :=
  ⟨teacher, none, place.1, gridPeriod settings place.2, kind⟩

theorem gives_records_at {teacher : String} {kind : AvailabilityKind} {places : List (Int × Int)}
    {records : List Availability}
    (given : Gives (recordsAt settings teacher kind places : Sampling Source _) records) :
    records = places.map (recordAt settings teacher kind) := by
  induction places generalizing records with
  | nil => exact gives_pure given
  | cons place rest ih =>
      obtain ⟨first, firstGiven, given⟩ := gives_bind given
      obtain ⟨others, othersGiven, given⟩ := gives_bind given
      obtain rfl := gives_pure given
      rw [List.map_cons, ih othersGiven, (Availability.mirrored _).faithful (gives_accepted firstGiven)]
      rfl

def IsPlace (settings : Settings) (place : Int × Int) : Prop :=
  (0 ≤ place.1 ∧ place.1 < settings.days) ∧ 1 ≤ place.2 ∧ place.2 ≤ settings.periods

def IsPlaced (settings : Settings) (record : Availability) : Prop :=
  ∃ place, IsPlace settings place ∧ record = recordAt settings record.teacher record.kind place

theorem record_at_placed {teacher : String} {kind : AvailabilityKind} {places : List (Int × Int)}
    (drawn : ∀ place ∈ places, IsPlace settings place) :
    ∀ record ∈ places.map (recordAt settings teacher kind), record.teacher = teacher ∧ IsPlaced settings record := by
  rw [List.forall_mem_map]
  exact fun place listed => ⟨rfl, place, drawn place listed, rfl⟩

theorem records_placed (teacher : String) {blocked preferred : List (Int × Int)}
    (refused : ∀ place ∈ blocked, IsPlace settings place) (wished : ∀ place ∈ preferred, IsPlace settings place) :
    ∀ record ∈ blocked.map (recordAt settings teacher .blocked) ++
      preferred.map (recordAt settings teacher .preferred), record.teacher = teacher ∧ IsPlaced settings record :=
  List.forall_mem_append.2 ⟨record_at_placed refused, record_at_placed wished⟩

variable [RandomSource Source]

theorem gives_places {count : Nat} {places : List (Int × Int)}
    (given : Gives (drawPlaces settings count : Sampling Source _) places) :
    ∀ place ∈ places, IsPlace settings place := by
  induction count generalizing places with
  | zero =>
      obtain rfl := gives_pure given
      simp
  | succ count ih =>
      obtain ⟨day, dayGiven, given⟩ := gives_bind given
      obtain ⟨period, periodGiven, given⟩ := gives_bind given
      obtain ⟨rest, restGiven, given⟩ := gives_bind given
      obtain rfl := gives_pure given
      have bounded := gives_below dayGiven
      refine List.forall_mem_cons.2 ⟨⟨?_, gives_between periodGiven⟩, ih restGiven⟩
      dsimp only
      omega

theorem mem_places_in_order {places : List (Int × Int)} {place : Int × Int} :
    place ∈ placesInOrder places ↔ place ∈ places :=
  Entries.mem_ascending

/-- No teacher has the same slot both blocked and preferred. -/
def Consistent (records : List Availability) : Prop :=
  ∀ refusal ∈ records, ∀ wish ∈ records, refusal.kind = .blocked → wish.kind = .preferred →
    refusal.teacher = wish.teacher → ¬(refusal.day = wish.day ∧ refusal.period = wish.period)

theorem consistent_append {first second : List Availability} (firstConsistent : Consistent first)
    (secondConsistent : Consistent second)
    (apart : ∀ own ∈ first, ∀ other ∈ second, own.teacher ≠ other.teacher) : Consistent (first ++ second) := by
  intro refusal refusalListed wish wishListed blocked preferred same
  rcases List.mem_append.1 refusalListed with refusalFirst | refusalSecond
  · rcases List.mem_append.1 wishListed with wishFirst | wishSecond
    · exact firstConsistent refusal refusalFirst wish wishFirst blocked preferred same
    · exact absurd same (apart refusal refusalFirst wish wishSecond)
  · rcases List.mem_append.1 wishListed with wishFirst | wishSecond
    · exact absurd same.symm (apart wish wishFirst refusal refusalSecond)
    · exact secondConsistent refusal refusalSecond wish wishSecond blocked preferred same

theorem consistent_records {teacher : String} {blocked preferred : List (Int × Int)}
    (apart : ∀ place ∈ preferred, place ∉ blocked) :
    Consistent (blocked.map (recordAt settings teacher .blocked) ++
      preferred.map (recordAt settings teacher .preferred)) := by
  intro refusal refusalListed wish wishListed isBlocked isPreferred _ ⟨sameDay, samePeriod⟩
  have refused : ∃ place ∈ blocked, recordAt settings teacher .blocked place = refusal := by
    rcases List.mem_append.1 refusalListed with there | elsewhere
    · exact List.mem_map.1 there
    · obtain ⟨place, -, rfl⟩ := List.mem_map.1 elsewhere
      cases isBlocked
  have wished : ∃ place ∈ preferred, recordAt settings teacher .preferred place = wish := by
    rcases List.mem_append.1 wishListed with elsewhere | there
    · obtain ⟨place, -, rfl⟩ := List.mem_map.1 elsewhere
      cases isPreferred
    · exact List.mem_map.1 there
  obtain ⟨refusalPlace, refusalBlocked, rfl⟩ := refused
  obtain ⟨wishPlace, wishPreferred, rfl⟩ := wished
  have same : refusalPlace = wishPlace := Prod.ext sameDay (grid_period_injective samePeriod)
  exact apart wishPlace wishPreferred (same ▸ refusalBlocked)

theorem gives_availabilities {staff : List TeacherEntry} {times : List Availability}
    (given : Gives (availabilities settings staff : Sampling Source _) times) (distinct : (staff.map (·.id)).Nodup) :
    Consistent times ∧ ∀ record ∈ times,
      (∃ teacher ∈ staff, teacher.id = record.teacher) ∧ IsPlaced settings record := by
  induction staff generalizing times with
  | nil =>
      obtain rfl := gives_pure given
      exact ⟨fun _ listed => absurd listed List.not_mem_nil, by simp⟩
  | cons teacher rest ih =>
      obtain ⟨blockedCount, -, given⟩ := gives_bind given
      obtain ⟨blocked, blockedGiven, given⟩ := gives_bind given
      obtain ⟨preferredCount, -, given⟩ := gives_bind given
      obtain ⟨preferred, preferredGiven, given⟩ := gives_bind given
      obtain ⟨against, againstGiven, given⟩ := gives_bind given
      obtain ⟨wishes, wishesGiven, given⟩ := gives_bind given
      obtain ⟨others, othersGiven, given⟩ := gives_bind given
      obtain rfl := gives_pure given
      obtain rfl := gives_records_at againstGiven
      obtain rfl := gives_records_at wishesGiven
      obtain ⟨fresh, restDistinct⟩ := List.nodup_cons.1 distinct
      obtain ⟨othersConsistent, othersPlaced⟩ := ih othersGiven restDistinct
      -- A wish is drawn like a refusal and dropped where there is one, so the two lists have no place in common.
      have openPlaces : ∀ place ∈ placesInOrder (preferred.filter fun place => !blocked.contains place),
          place ∈ preferred ∧ place ∉ placesInOrder blocked := by
        intro place ordered
        obtain ⟨drawn, unblocked⟩ := List.mem_filter.1 (mem_places_in_order.1 ordered)
        rw [mem_places_in_order]
        exact ⟨drawn, by simpa using unblocked⟩
      have own := records_placed teacher.id
        (fun place ordered => gives_places blockedGiven place (mem_places_in_order.1 ordered))
        fun place ordered => gives_places preferredGiven place (openPlaces place ordered).1
      refine ⟨consistent_append (consistent_records fun place ordered => (openPlaces place ordered).2)
        othersConsistent ?apart, List.forall_mem_append.2 ⟨?own, ?others⟩⟩
      case apart =>
        intro record listed other otherListed same
        obtain ⟨⟨colleague, among, sameId⟩, -⟩ := othersPlaced other otherListed
        have again : colleague.id = teacher.id := by rw [sameId, ← same, (own record listed).1]
        exact fresh (List.mem_map.2 ⟨colleague, among, again⟩)
      case own =>
        intro record listed
        obtain ⟨sameTeacher, placed⟩ := own record listed
        exact ⟨⟨teacher, List.mem_cons_self, sameTeacher.symm⟩, placed⟩
      case others =>
        intro record listed
        obtain ⟨⟨colleague, among, sameId⟩, placed⟩ := othersPlaced record listed
        exact ⟨⟨colleague, List.mem_cons_of_mem teacher among, sameId⟩, placed⟩

end Availability

/-- The teaching slots of a day in the order in which they were made. -/
def teachingSlotsOn (school : Problem) (day : Int) : List SlotEntry :=
  (teachingSlots school.slots).filter (·.day = day)

theorem periods_on_day {school : Problem} {day : Int}
    (given : Gives (slots settings : Sampling Source _) school.slots) (early : 0 ≤ day) (late : day < settings.days) :
    (teachingSlotsOn school day).map (·.period) =
      (List.range settings.periods.toNat).map (numberAhead settings 0 1) := by
  obtain ⟨_, -, given⟩ := gives_bind given
  exact (gives_week_periods given).2 day early (by omega)

/-- Availability is told for teaching periods of the days of the week, and no slot is both blocked and preferred.
Where a break that is set follows some period, the teaching slots of each day have just the numbers under which
availability is told of its periods, so all records are for teaching slots. Where it is set in front of the first
period, each slot has a number that is one less. -/
theorem availability_is_on_grid_unless_break_early [RandomSource Source] {trials : Nat} {source rest : Source}
    {school : Problem} (drawn : (problemWithin trials settings).run source = .ok school rest) :
    Consistent school.availabilities ∧
    (∀ record ∈ school.availabilities, (0 ≤ record.day ∧ record.day < settings.days) ∧
      ∃ period, (1 ≤ period ∧ period ≤ settings.periods) ∧ record.period = gridPeriod settings period) ∧
    ((∀ last ∈ settings.breakAfter, 1 ≤ last) →
      (∀ day, 0 ≤ day → day < settings.days → (teachingSlotsOn school day).map (·.period) =
        (List.range settings.periods.toNat).map fun index : Nat => gridPeriod settings (index + 1)) ∧
      ∀ record ∈ school.availabilities, ∃ slot ∈ school.slots,
        slot.isBreak = false ∧ slot.day = record.day ∧ slot.period = record.period) ∧
    ((∃ last ∈ settings.breakAfter, last ≤ 0) →
      ∀ day, 0 ≤ day → day < settings.days → (teachingSlotsOn school day).map (·.period) =
        (List.range settings.periods.toNat).map fun index : Nat => gridPeriod settings (index + 1) - 1) := by
  obtain ⟨taught, groups, steps⟩ := steps_of_given ⟨source, rest, drawn⟩
  have distinct := (Problem.valid_of_read steps.accepted).teacher_ids_nodup
  obtain ⟨consistent, placed⟩ := gives_availabilities steps.timesGiven distinct
  have told : ∀ record ∈ school.availabilities, (0 ≤ record.day ∧ record.day < settings.days) ∧
      ∃ period, (1 ≤ period ∧ period ≤ settings.periods) ∧ record.period = gridPeriod settings period := by
    intro record listed
    obtain ⟨-, place, ⟨week, periods⟩, same⟩ := placed record listed
    rw [same]
    exact ⟨week, place.2, periods, rfl⟩
  refine ⟨consistent, told, ?follows, ?early⟩
  case follows =>
    intro follows
    have numbered : ∀ day, 0 ≤ day → day < settings.days → (teachingSlotsOn school day).map (·.period) =
        (List.range settings.periods.toNat).map fun index : Nat => gridPeriod settings (index + 1) := by
      intro day early late
      rw [periods_on_day steps.slotsGiven early late]
      exact List.map_congr_left fun index _ => number_ahead_eq follows index
    refine ⟨numbered, ?_⟩
    intro record listed
    obtain ⟨⟨early, late⟩, period, ⟨positive, bounded⟩, same⟩ := told record listed
    have counted : record.period ∈ (teachingSlotsOn school record.day).map (·.period) := by
      rw [numbered record.day early late, same]
      refine List.mem_map.2 ⟨(period - 1).toNat, List.mem_range.2 (by omega), ?_⟩
      congr 1
      omega
    obtain ⟨slot, ofDay, samePeriod⟩ := List.mem_map.1 counted
    obtain ⟨teaching, sameDay⟩ := List.mem_filter.1 ofDay
    obtain ⟨inGrid, lesson⟩ := List.mem_filter.1 teaching
    exact ⟨slot, inGrid, by simpa using lesson, of_decide_eq_true sameDay, samePeriod⟩
  case early =>
    intro ⟨last, known, first⟩ day early late
    rw [periods_on_day steps.slotsGiven early late]
    refine List.map_congr_left fun index _ => ?_
    have behind := number_ahead_of_early known first index
    omega

/-- A week of one day with five periods, in which a teacher may refuse one slot. -/
def oneRefusal (breakAfter : Option Int) : Settings :=
  { fiveHours with greatestBlocked := 1, breakAfter }

def lastPeriodRefused : Script := .ofEntries ([1, 2] ++ List.replicate 10 0 ++ [1, 0, 4, 0])

def periodsMade (settings : Settings) (source : Script) : Option (List Int × List Int) :=
  match (problem settings).run source with
  | .ok school _ => some ((teachingSlots school.slots).map (·.period), school.availabilities.map (·.period))
  | .error _ _ => none

set_option maxRecDepth 10000 in
theorem last_period_drawn : periodsMade (oneRefusal (some 2)) lastPeriodRefused = some ([1, 2, 4, 5, 6], [6]) := by
  decide +kernel

set_option maxRecDepth 10000 in
theorem last_period_drawn_early :
    periodsMade (oneRefusal (some 0)) lastPeriodRefused = some ([1, 2, 3, 4, 5], [6]) := by
  decide +kernel

theorem school_of_periods {source : Script} {slots records : List Int}
    (made : periodsMade settings source = some (slots, records)) :
    ∃ school rest, (problem settings).run source = .ok school rest ∧
      (teachingSlots school.slots).map (·.period) = slots ∧ school.availabilities.map (·.period) = records := by
  unfold periodsMade at made
  split at made
  · rename_i school rest drawn
    obtain ⟨sameSlots, sameRecords⟩ := Prod.mk.inj (Option.some.inj made)
    exact ⟨school, rest, drawn, sameSlots, sameRecords⟩
  · cases made

theorem last_period_refused : ∃ school rest,
    (problemWithin nameTrials (oneRefusal (some 2))).run lastPeriodRefused = .ok school rest ∧
    (∃ record ∈ school.availabilities, record.period = 6) ∧
    ∀ record ∈ school.availabilities, ∃ slot ∈ school.slots,
      slot.isBreak = false ∧ slot.day = record.day ∧ slot.period = record.period := by
  obtain ⟨school, rest, drawn, -, records⟩ := school_of_periods last_period_drawn
  obtain ⟨-, -, follows, -⟩ := availability_is_on_grid_unless_break_early drawn
  have behind : ∀ last ∈ (oneRefusal (some 2)).breakAfter, 1 ≤ last := by decide
  have six : 6 ∈ school.availabilities.map (·.period) := records ▸ List.mem_cons_self
  exact ⟨school, rest, drawn, List.mem_map.1 six, (follows behind).2⟩

/-- A break that is set behind no period shifts the record of the last period out of the grid. -/
theorem early_break_puts_record_off_grid : ∃ school rest,
    (problemWithin nameTrials (oneRefusal (some 0))).run lastPeriodRefused = .ok school rest ∧
    ∃ record ∈ school.availabilities, ∀ slot ∈ school.slots, slot.isBreak = false → slot.period ≠ record.period := by
  obtain ⟨school, rest, drawn, slots, records⟩ := school_of_periods last_period_drawn_early
  have six : 6 ∈ school.availabilities.map (·.period) := records ▸ List.mem_cons_self
  obtain ⟨record, listed, same⟩ := List.mem_map.1 six
  refine ⟨school, rest, drawn, record, listed, fun slot inGrid lesson samePeriod => ?_⟩
  have teaching : slot.period ∈ (teachingSlots school.slots).map (·.period) :=
    List.mem_map_of_mem (List.mem_filter.2 ⟨inGrid, by simpa using lesson⟩)
  rw [slots, samePeriod, same] at teaching
  exact absurd teaching (by decide)

end SchoolTimetable.Sample
