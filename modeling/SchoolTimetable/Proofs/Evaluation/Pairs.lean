import Mathlib.Data.List.Nodup
import SchoolTimetable.Proofs.Entries.Grouping
import SchoolTimetable.Proofs.Score.Arithmetic
import SchoolTimetable.Timetable.Evaluation

/-!
Which pairs of lessons the evaluation looks at. Two lessons that share no key match no constraint on
pairs, and the candidate pairs are exactly the pairs of an earlier and a later position whose lessons
share a key, each of them once.
-/

namespace SchoolTimetable

def Lesson.SharesKey (first second : Lesson) : Prop :=
  ∃ key, key ∈ first.indexKeys ∧ key ∈ second.indexKeys

theorem nodup_erase_dups {Member : Type} [BEq Member] [LawfulBEq Member] (members : List Member) :
    members.eraseDups.Nodup := by
  cases members with
  | nil => exact List.nodup_nil
  | cons first rest =>
      rw [List.eraseDups_cons, List.nodup_cons]
      constructor
      · simp [List.mem_eraseDups]
      · exact nodup_erase_dups _
termination_by members.length
decreasing_by exact Nat.lt_succ_of_le (List.length_filter_le _ _)

theorem total_score_eq (impacts : List Impact) : totalScore impacts = (impacts.map (·.2)).sum :=
  Score.sum_eq _

theorem overlaps_swap (first second : Lesson) : first.overlaps second = second.overlaps first :=
  WeekPattern.overlaps_comm _ _

theorem same_teacher_swap (first second : Lesson) : sameTeacher first second = sameTeacher second first := by
  unfold sameTeacher
  cases first.teacher <;> cases second.teacher <;> simp only [Bool.beq_comm]

theorem same_room_swap (first second : Lesson) : sameRoom first second = sameRoom second first := by
  unfold sameRoom
  cases first.room <;> cases second.room <;> simp only [Bool.beq_comm]

theorem same_class_swap (first second : Lesson) : sameClass first second = sameClass second first :=
  Bool.beq_comm

theorem idle_periods_swap (first second : Int) : idlePeriods first second = idlePeriods second first := by
  unfold idlePeriods
  omega

theorem meeting_matches_swap (weights : Weights) (first second : Lesson) (slot other : TimeSlot) :
    meetingMatches weights first second slot other = meetingMatches weights second first other slot := by
  simp only [meetingMatches, same_teacher_swap first second, same_room_swap first second,
    same_class_swap first second, idle_periods_swap slot.period other.period,
    Bool.beq_comm (a := slot.id), Bool.beq_comm (a := first.subject.id)]

theorem pair_matches_swap (weights : Weights) (first second : Lesson) :
    pairMatches weights first second = pairMatches weights second first := by
  unfold pairMatches
  cases first.slot with
  | none => cases second.slot <;> rfl
  | some slot =>
      cases second.slot with
      | none => rfl
      | some other =>
          simp only [overlaps_swap first second, Bool.beq_comm (a := slot.day),
            meeting_matches_swap weights first second slot other]

theorem pair_score_swap (weights : Weights) (first second : Lesson) :
    pairScore weights first second = pairScore weights second first := by
  rw [pairScore, pairScore, pair_matches_swap]

/-- Each constraint on pairs needs the class and the day, the teacher and the day, or the room and
the slot in common, and every one of these is a key. -/
theorem pair_matches_of_no_shared_key (weights : Weights) {first second : Lesson}
    (apart : ¬first.SharesKey second) : pairMatches weights first second = [] := by
  have noKey : ∀ key ∈ first.indexKeys, key ∉ second.indexKeys := fun key left right =>
    apart ⟨key, left, right⟩
  unfold pairMatches
  cases firstSlot : first.slot with
  | none => rfl
  | some slot =>
      cases secondSlot : second.slot with
      | none => rfl
      | some other =>
          simp only [Lesson.indexKeys, firstSlot, secondSlot] at noKey
          by_cases sameDay : slot.day = other.day
          · have classes : sameClass first second = false := by
              have absent := noKey (.ofClass first.schoolClass.id slot.day) (by simp)
              simpa [sameClass, sameDay] using absent
            have teachers : sameTeacher first second = false := by
              unfold sameTeacher
              cases firstTeacher : first.teacher with
              | none => rfl
              | some left =>
                  cases secondTeacher : second.teacher with
                  | none => rfl
                  | some right =>
                      have absent := noKey (.ofTeacher left.id slot.day) (by simp [firstTeacher])
                      simp only [secondTeacher, Option.toList_some, List.map_cons, List.map_nil,
                        List.mem_append, List.mem_cons, List.not_mem_nil, or_false, not_or,
                        IndexKey.ofTeacher.injEq, not_and] at absent
                      have different : left.id ≠ right.id := fun same => absent.1.2 same sameDay
                      simp [different]
            have rooms : (slot.id == other.id && sameRoom first second) = false := by
              unfold sameRoom
              cases firstRoom : first.room with
              | none => simp
              | some left =>
                  cases secondRoom : second.room with
                  | none => simp
                  | some right =>
                      have absent := noKey (.ofRoom left.id slot.id) (by simp [firstRoom])
                      simp only [secondRoom, Option.toList_some, List.map_cons, List.map_nil,
                        List.mem_append, List.mem_cons, List.not_mem_nil, or_false, not_or,
                        IndexKey.ofRoom.injEq, not_and] at absent
                      by_cases together : slot.id = other.id
                      · have different : left.id ≠ right.id := fun same => absent.2 same together
                        simp [different]
                      · simp [together]
            simp [meetingMatches, classes, teachers, rooms, impactIf]
          · simp [sameDay]

theorem pair_score_of_no_shared_key (weights : Weights) {first second : Lesson}
    (apart : ¬first.SharesKey second) : pairScore weights first second = 0 := by
  rw [pairScore, pair_matches_of_no_shared_key weights apart]
  rfl

theorem nodup_index_keys (lesson : Lesson) : lesson.indexKeys.Nodup := by
  unfold Lesson.indexKeys
  cases lesson.slot with
  | none => exact List.nodup_nil
  | some slot => cases lesson.teacher <;> cases lesson.room <;> simp

/-- In an ascending list the ordered pairs are those of a smaller and a greater member. -/
theorem mem_ordered_pairs {positions : List Nat} (ascending : positions.Pairwise (· < ·))
    (left right : Nat) :
    (left, right) ∈ orderedPairs positions ↔ left ∈ positions ∧ right ∈ positions ∧ left < right := by
  induction positions with
  | nil => simp [orderedPairs]
  | cons first rest ih =>
      obtain ⟨least, restAscending⟩ := List.pairwise_cons.1 ascending
      simp only [orderedPairs, List.mem_append, List.mem_map, Prod.mk.injEq, List.mem_cons,
        ih restAscending]
      constructor
      · rintro (⟨later, member, rfl, rfl⟩ | ⟨leftMember, rightMember, below⟩)
        · exact ⟨.inl rfl, .inr member, least _ member⟩
        · exact ⟨.inr leftMember, .inr rightMember, below⟩
      · rintro ⟨rfl | leftMember, rfl | rightMember, below⟩
        · exact absurd below (Nat.lt_irrefl _)
        · exact .inl ⟨right, rightMember, rfl, rfl⟩
        · exact absurd below (Nat.lt_asymm (least _ leftMember))
        · exact .inr ⟨leftMember, rightMember, below⟩

def positionsOf (lessons : List Lesson) (key : IndexKey) : List Nat :=
  (lessons.zipIdx.filter fun entry => key ∈ entry.1.indexKeys).map (·.2)

theorem mem_positions_of (lessons : List Lesson) (key : IndexKey) (position : Nat) :
    position ∈ positionsOf lessons key ↔
      ∃ lesson, lessons[position]? = some lesson ∧ key ∈ lesson.indexKeys := by
  simp only [positionsOf, List.mem_map, List.mem_filter, decide_eq_true_eq, Prod.exists]
  constructor
  · rintro ⟨lesson, index, ⟨member, held⟩, rfl⟩
    exact ⟨lesson, List.mem_zipIdx_iff_getElem?.1 member, held⟩
  · rintro ⟨lesson, found, held⟩
    exact ⟨lesson, position, ⟨List.mem_zipIdx_iff_getElem?.2 found, held⟩, rfl⟩

theorem ascending_positions_of (lessons : List Lesson) (key : IndexKey) :
    (positionsOf lessons key).Pairwise (· < ·) := by
  have kept : (positionsOf lessons key).Sublist (lessons.zipIdx.map (·.2)) :=
    List.filter_sublist.map _
  refine List.Pairwise.sublist kept ?_
  rw [List.zipIdx_map_snd]
  exact List.pairwise_lt_range'

private theorem positions_under_key (lessons : List Lesson) (key : IndexKey) :
    ((lessons.zipIdx.flatMap fun entry => entry.1.indexKeys.map fun held => (held, entry.2)).filter
        (·.1 = key)).map (·.2) = positionsOf lessons key :=
  Entries.uses_of_key (fun entry => nodup_index_keys entry.1) Prod.snd key lessons.zipIdx

theorem mem_index_buckets (lessons : List Lesson) (key : IndexKey) (bucket : List Nat) :
    (key, bucket) ∈ indexBuckets lessons ↔ bucket = positionsOf lessons key ∧ bucket ≠ [] := by
  simp only [indexBuckets, List.mem_map, Prod.exists, Prod.mk.injEq, Entries.mem_group_iff]
  constructor
  · rintro ⟨name, members, ⟨rfl, occupied⟩, rfl, rfl⟩
    exact ⟨positions_under_key _ _, by simpa using occupied⟩
  · rintro ⟨rfl, occupied⟩
    refine ⟨key, _, ⟨rfl, ?_⟩, rfl, positions_under_key _ _⟩
    intro empty
    apply occupied
    rw [← positions_under_key, empty]
    rfl

/-- Every pair of lessons that share a key is looked at, and no other pair. -/
theorem mem_candidate_pairs (lessons : List Lesson) (left right : Nat) :
    (left, right) ∈ candidatePairs lessons ↔
      left < right ∧ ∃ first second, lessons[left]? = some first ∧ lessons[right]? = some second ∧
        first.SharesKey second := by
  simp only [candidatePairs, List.mem_eraseDups, List.mem_flatMap, Prod.exists, mem_index_buckets]
  constructor
  · rintro ⟨key, bucket, ⟨rfl, -⟩, member⟩
    obtain ⟨leftMember, rightMember, below⟩ :=
      (mem_ordered_pairs (ascending_positions_of lessons key) _ _).1 member
    obtain ⟨first, firstFound, firstHeld⟩ := (mem_positions_of lessons key left).1 leftMember
    obtain ⟨second, secondFound, secondHeld⟩ := (mem_positions_of lessons key right).1 rightMember
    exact ⟨below, first, second, firstFound, secondFound, key, firstHeld, secondHeld⟩
  · rintro ⟨below, first, second, firstFound, secondFound, key, firstHeld, secondHeld⟩
    have leftMember := (mem_positions_of lessons key left).2 ⟨first, firstFound, firstHeld⟩
    have rightMember := (mem_positions_of lessons key right).2 ⟨second, secondFound, secondHeld⟩
    exact ⟨key, positionsOf lessons key, ⟨rfl, List.ne_nil_of_mem leftMember⟩,
      (mem_ordered_pairs (ascending_positions_of lessons key) _ _).2
        ⟨leftMember, rightMember, below⟩⟩

theorem nodup_candidate_pairs (lessons : List Lesson) : (candidatePairs lessons).Nodup :=
  nodup_erase_dups _

end SchoolTimetable
