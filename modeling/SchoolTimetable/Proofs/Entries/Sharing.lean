import SchoolTimetable.Proofs.Entries.Grouping
import SchoolTimetable.Proofs.Entries.Sorting

/-!
Sharing out by keys. Grouping loses no value and holds none twice, and values that come in the order of their keys
are grouped in this order. So groups under ascending keys share the values out.
-/

namespace SchoolTimetable.Entries

variable {Key Value : Type}

/-- The values that have a key are allotted to parts under ascending keys. Each part holds the values of its key in
their order, all parts together hold every value once, and no part is empty. -/
structure Allots [LinearOrder Key] {Part : Type} (key? : Value → Option Key) (members : Part → List Value)
    (values : List Value) (parts : List (Key × Part)) : Prop where
  ascending : (keys parts).Pairwise (· < ·)
  own : ∀ part ∈ parts, members part.2 = values.filter fun value => key? value = some part.1
  occupied : ∀ part ∈ parts, members part.2 ≠ []
  once : ∀ value ∈ values, (∃! part, part ∈ parts ∧ value ∈ members part.2) ↔ key? value ≠ none
  lossless : (parts.flatMap fun part => members part.2).Perm (values.filter fun value => (key? value).isSome)

/-- The groups are the values of each key, and all groups together hold every value that has a key once. -/
structure Groups [DecidableEq Key] (key? : Value → Option Key) (values : List Value)
    (groups : List (Key × List Value)) : Prop where
  distinct : (keys groups).Nodup
  own : ∀ name members, (name, members) ∈ groups ↔
    members = values.filter (fun value => key? value = some name) ∧ members ≠ []
  lossless : (groups.flatMap (·.2)).Perm (values.filter fun value => (key? value).isSome)

section Grouping

variable [DecidableEq Key]

theorem Groups.mem_of_member {key? : Value → Option Key} {values members : List Value}
    {groups : List (Key × List Value)} {name : Key} (grouped : Groups key? values groups)
    (known : (name, members) ∈ groups) {value : Value} (held : value ∈ members) : value ∈ values := by
  rw [((grouped.own name members).1 known).1] at held
  exact (List.mem_filter.1 held).1

theorem flat_map_adjust (key : Key) (value : Value) (groups : List (Key × List Value)) :
    ((adjust key (fun old => old.getD [] ++ [value]) groups).flatMap (·.2)).Perm
      (groups.flatMap (·.2) ++ [value]) := by
  induction groups with
  | nil => exact .refl _
  | cons group rest ih =>
      obtain ⟨name, members⟩ := group
      unfold adjust
      split
      · simp only [Option.getD_some, List.flatMap_cons, List.append_assoc]
        exact List.Perm.append_left members List.perm_append_comm
      · simp only [List.flatMap_cons, List.append_assoc]
        exact ih.append_left members

theorem flat_map_group (key : Value → Key) (values : List Value) :
    ((group key values).flatMap (·.2)).Perm values := by
  induction values using List.reverseRecOn with
  | nil => exact .refl _
  | append_singleton values value ih =>
      rw [group_concat]
      exact (flat_map_adjust (key value) value _).trans (ih.append_right [value])

theorem groups_of_group (key : Value → Key) (values : List Value) :
    Groups (fun value => some (key value)) values (group key values) where
  distinct := nodup_keys_group key values
  own := by
    intro name members
    simp only [Option.some.injEq]
    exact mem_group_iff key values name members
  lossless := by
    simp only [Option.isSome_some, List.filter_true]
    exact flat_map_group key values

end Grouping

section Ascending

variable [LinearOrder Key]

section Greatest

variable {key : Key} {groups : List (Key × List Value)} (ascending : (keys groups).Pairwise (· < ·))
  (greatest : ∀ name ∈ keys groups, name ≤ key)

include ascending greatest

theorem ascending_adjust (change : Option (List Value) → List Value) :
    (keys (adjust key change groups)).Pairwise (· < ·) := by
  rw [keys_adjust]
  split
  · exact ascending
  · rename_i absent
    refine List.pairwise_append.2 ⟨ascending, List.pairwise_singleton _ _, fun name listed other new => ?_⟩
    obtain rfl := List.mem_singleton.1 new
    refine lt_of_le_of_ne (greatest name listed) ?_
    rintro rfl
    exact absent listed

theorem flat_map_adjust_of_greatest (value : Value) :
    (adjust key (fun old => old.getD [] ++ [value]) groups).flatMap (·.2) = groups.flatMap (·.2) ++ [value] := by
  induction groups with
  | nil => rfl
  | cons group rest ih =>
      obtain ⟨name, members⟩ := group
      obtain ⟨least, restAscending⟩ := List.pairwise_cons.1 ascending
      obtain ⟨own, others⟩ := List.forall_mem_cons.1 greatest
      unfold adjust
      split
      · rename_i same
        have last : rest = [] := by
          rw [List.eq_nil_iff_forall_not_mem]
          intro other listed
          have above := least other.1 (List.mem_map_of_mem listed)
          exact absurd (others other.1 (List.mem_map_of_mem listed)) (not_le.2 (same ▸ above))
        simp [last]
      · rw [List.flatMap_cons, List.flatMap_cons, ih restAscending others, List.append_assoc]

end Greatest

theorem group_of_ascending {key : Value → Key} {values : List Value} (ascending : values.Pairwise (key · ≤ key ·)) :
    (keys (group key values)).Pairwise (· < ·) ∧ (group key values).flatMap (·.2) = values := by
  induction values using List.reverseRecOn with
  | nil => exact ⟨.nil, rfl⟩
  | append_singleton values value ih =>
      obtain ⟨before, -, last⟩ := List.pairwise_append.1 ascending
      obtain ⟨ascends, flat⟩ := ih before
      have greatest : ∀ name ∈ keys (group key values), name ≤ key value := by
        intro name listed
        obtain ⟨earlier, member, rfl⟩ := (mem_keys_group key values name).1 listed
        exact last earlier member value (List.mem_singleton_self value)
      rw [group_concat, flat_map_adjust_of_greatest ascends greatest, flat]
      exact ⟨ascending_adjust ascends greatest _, rfl⟩

variable {key? : Value → Option Key} {values : List Value} {groups : List (Key × List Value)}

theorem Groups.sort_by_key {atMost : Key → Key → Bool}
    (ordered : ∀ first second, atMost first second = true ↔ first ≤ second) (grouped : Groups key? values groups) :
    Groups key? values (sortByKey atMost groups) ∧ (keys (sortByKey atMost groups)).Pairwise (· < ·) := by
  have same : (sortByKey atMost groups).Perm groups := List.mergeSort_perm _ _
  have distinct : (keys (sortByKey atMost groups)).Nodup := (same.map _).nodup_iff.2 grouped.distinct
  have ascending : (keys (sortByKey atMost groups)).Pairwise (· ≤ ·) :=
    List.pairwise_map.2 (sort_ascending (fun first second => ordered first.1 second.1) groups)
  refine ⟨⟨distinct, fun name members => ?_, (same.flatMap_right _).trans grouped.lossless⟩, ?_⟩
  · rw [same.mem_iff]
    exact grouped.own name members
  · exact (ascending.and distinct).imp fun both => lt_of_le_of_ne both.1 both.2

theorem sort_by_key_of_ascending {atMost : Key → Key → Bool}
    (ordered : ∀ first second, atMost first second = true ↔ first ≤ second)
    (ascending : (keys groups).Pairwise (· < ·)) : sortByKey atMost groups = groups := by
  apply List.mergeSort_of_pairwise
  exact (List.pairwise_map.1 ascending).imp fun before => (ordered _ _).2 (le_of_lt before)

theorem Groups.allots (grouped : Groups key? values groups) (ascending : (keys groups).Pairwise (· < ·)) :
    Allots key? (fun members => members) values groups where
  ascending := ascending
  own := fun part listed => ((grouped.own part.1 part.2).1 listed).1
  occupied := fun part listed => ((grouped.own part.1 part.2).1 listed).2
  once := by
    intro value listed
    constructor
    · rintro ⟨part, ⟨known, held⟩, -⟩ none
      rw [((grouped.own part.1 part.2).1 known).1] at held
      have keyed := of_decide_eq_true (List.mem_filter.1 held).2
      rw [none] at keyed
      cases keyed
    · intro keyed
      obtain ⟨name, named⟩ := Option.ne_none_iff_exists'.1 keyed
      have held : value ∈ values.filter fun value => key? value = some name :=
        List.mem_filter.2 ⟨listed, decide_eq_true named⟩
      refine ⟨(name, values.filter fun value => key? value = some name),
        ⟨(grouped.own name _).2 ⟨rfl, List.ne_nil_of_mem held⟩, held⟩, ?_⟩
      rintro ⟨other, members⟩ ⟨known, otherHeld⟩
      obtain ⟨rfl, -⟩ := (grouped.own other members).1 known
      have otherNamed := of_decide_eq_true (List.mem_filter.1 otherHeld).2
      obtain rfl := Option.some.inj (otherNamed.symm.trans named)
      rfl
  lossless := grouped.lossless

section Parts

variable {Part Other : Type} {members : Part → List Value} {others : Other → List Value}
  {parts : List (Key × Part)}

theorem Allots.in_order (allots : Allots key? members values parts) {part : Key × Part}
    (listed : part ∈ parts) : (members part.2).Sublist values := by
  rw [allots.own part listed]
  exact List.filter_sublist

/-- Other parts with the same members under the same keys are an allotment as well. -/
theorem Allots.map (allots : Allots key? members values parts) (build : Key × Part → Other)
    (same : ∀ part, others (build part) = members part.2) :
    Allots key? others values (parts.map fun part => (part.1, build part)) where
  ascending := by
    have ascending := allots.ascending
    unfold keys at ascending ⊢
    rwa [List.map_map]
  own := by
    intro other listed
    obtain ⟨part, known, rfl⟩ := List.mem_map.1 listed
    exact (same part).trans (allots.own part known)
  occupied := by
    intro other listed
    obtain ⟨part, known, rfl⟩ := List.mem_map.1 listed
    rw [same part]
    exact allots.occupied part known
  once := by
    intro value listed
    rw [← allots.once value listed]
    constructor
    · rintro ⟨_, ⟨known, held⟩, only⟩
      obtain ⟨part, partKnown, rfl⟩ := List.mem_map.1 known
      refine ⟨part, ⟨partKnown, (same part) ▸ held⟩, fun another ⟨anotherKnown, anotherHeld⟩ => ?_⟩
      have equal := only (another.1, build another)
        ⟨List.mem_map_of_mem anotherKnown, (same another).symm ▸ anotherHeld⟩
      have distinct : (parts.map (·.1)).Nodup := allots.ascending.imp ne_of_lt
      have sameKey : another.1 = part.1 := (Prod.mk.inj equal).1
      exact List.inj_on_of_nodup_map distinct anotherKnown partKnown sameKey
    · rintro ⟨part, ⟨known, held⟩, only⟩
      refine ⟨(part.1, build part), ⟨List.mem_map_of_mem known, (same part).symm ▸ held⟩, ?_⟩
      rintro _ ⟨otherKnown, otherHeld⟩
      obtain ⟨another, anotherKnown, rfl⟩ := List.mem_map.1 otherKnown
      rw [only another ⟨anotherKnown, (same another) ▸ otherHeld⟩]
  lossless := by
    rw [List.flatMap_map]
    simp only [same]
    exact allots.lossless

end Parts

end Ascending

end SchoolTimetable.Entries
