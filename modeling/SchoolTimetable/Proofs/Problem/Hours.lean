import SchoolTimetable.Timetable.Assembly

/-!
The weekly hours of requirements, all together and by the weeks they are taught in.
-/

namespace SchoolTimetable

namespace Requirement

variable {requirements : List Requirement}

theorem total_hours_nonneg (hours : ∀ requirement ∈ requirements, 1 ≤ requirement.weeklyHours) :
    0 ≤ totalHours requirements := by
  induction requirements with
  | nil => exact Int.le_refl 0
  | cons requirement rest ih =>
      have first := hours requirement (List.mem_cons_self ..)
      have others := ih fun other listed => hours other (List.mem_cons_of_mem requirement listed)
      change 0 ≤ requirement.weeklyHours + totalHours rest
      omega

theorem total_hours_pos (hours : ∀ requirement ∈ requirements, 1 ≤ requirement.weeklyHours)
    (someRequirements : requirements ≠ []) : 1 ≤ totalHours requirements := by
  cases requirements with
  | nil => exact absurd rfl someRequirements
  | cons requirement rest =>
      have first := hours requirement (List.mem_cons_self ..)
      have others := total_hours_nonneg fun other listed =>
        hours other (List.mem_cons_of_mem requirement listed)
      change 1 ≤ requirement.weeklyHours + totalHours rest
      omega

end Requirement

namespace Problem

variable {requirements : List Requirement} {pattern : WeekPattern}

theorem hours_of_nonneg (hours : ∀ requirement ∈ requirements, 1 ≤ requirement.weeklyHours) :
    0 ≤ hoursOf requirements pattern :=
  Requirement.total_hours_nonneg fun requirement listed =>
    hours requirement (List.mem_filter.1 listed).1

theorem hours_of_cons (requirement : Requirement) (rest : List Requirement) (pattern : WeekPattern) :
    hoursOf (requirement :: rest) pattern =
      (if requirement.pattern = pattern then requirement.weeklyHours else 0) + hoursOf rest pattern := by
  unfold hoursOf
  by_cases same : requirement.pattern = pattern
  · rw [List.filter_cons_of_pos (by simpa using same), if_pos same]
    rfl
  · rw [List.filter_cons_of_neg (by simpa using same), if_neg same, Int.zero_add]

end Problem

end SchoolTimetable
