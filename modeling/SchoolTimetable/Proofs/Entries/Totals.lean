import Mathlib.Algebra.BigOperators.Group.List.Basic
import Mathlib.Algebra.Ring.Int.Defs
import SchoolTimetable.Proofs.Entries.Lookup

/-!
Entries that were built by adding up, and entries that were put one over the other. Totals name each key where
its first value stood, with the sum of all its amounts; what is put twice in the same order leaves the same entries.
-/

namespace SchoolTimetable

theorem forall₂_filter_of_filter_map {Member Image : Type} {keeps : Member → Bool} {turn : Member → Option Image}
    {Relates : Member → Image → Prop} {members : List Member}
    (kept : ∀ member ∈ members, keeps member = true →
      ∃ image, turn member = some image ∧ Relates member image)
    (dropped : ∀ member ∈ members, keeps member = false → turn member = none) :
    List.Forall₂ Relates (members.filter keeps) (members.filterMap turn) := by
  induction members with
  | nil => exact .nil
  | cons member rest ih =>
      obtain ⟨own, others⟩ := List.forall_mem_cons.1 kept
      obtain ⟨ownDropped, othersDropped⟩ := List.forall_mem_cons.1 dropped
      cases decided : keeps member with
      | true =>
          obtain ⟨image, turned, relates⟩ := own decided
          rw [List.filter_cons_of_pos decided, List.filterMap_cons_some turned]
          exact .cons relates (ih others othersDropped)
      | false =>
          rw [List.filter_cons_of_neg (by simp [decided]), List.filterMap_cons_none (ownDropped decided)]
          exact ih others othersDropped

variable {Member Image : Type} [BEq Member] [LawfulBEq Member] [BEq Image] [LawfulBEq Image]

theorem erase_dups_concat (members : List Member) (member : Member) :
    (members ++ [member]).eraseDups =
      if member ∈ members then members.eraseDups else members.eraseDups ++ [member] := by
  rw [List.eraseDups_append]
  by_cases listed : member ∈ members
  · simp [List.removeAll, listed]
  · simp [List.removeAll, listed, List.eraseDups_cons]

/-- Members that their images tell apart are first met where their images are. -/
theorem erase_dups_map {image : Member → Image} {members : List Member}
    (apart : ∀ first ∈ members, ∀ second ∈ members, image first = image second → first = second) :
    (members.map image).eraseDups = members.eraseDups.map image := by
  induction members using List.reverseRecOn with
  | nil => rfl
  | append_singleton members member ih =>
      have rest := ih fun first left second right =>
        apart first (List.mem_append_left _ left) second (List.mem_append_left _ right)
      have met : image member ∈ members.map image ↔ member ∈ members := by
        constructor
        · intro listed
          obtain ⟨earlier, before, same⟩ := List.mem_map.1 listed
          have equal := apart earlier (List.mem_append_left _ before) member
            (List.mem_append_right _ (List.mem_singleton_self member)) same
          exact equal ▸ before
        · exact List.mem_map_of_mem
      rw [List.map_append, List.map_singleton, erase_dups_concat, erase_dups_concat, rest]
      by_cases listed : member ∈ members
      · rw [if_pos listed, if_pos (met.2 listed)]
      · rw [if_neg listed, if_neg (mt met.1 listed), List.map_append, List.map_singleton]

namespace Entries

theorem mem_ascending {Member : Type} [DecidableEq Member] {atMost : Member → Member → Bool}
    {members : List Member} {member : Member} : member ∈ ascending atMost members ↔ member ∈ members := by
  unfold ascending
  rw [List.mem_mergeSort, List.mem_eraseDups]

variable {Key Value : Type} [DecidableEq Key]

/-- Entries with distinct keys are known by their keys and what stands under them. -/
theorem eq_of_keys_of_get {first second : List (Key × Value)} (sameKeys : keys first = keys second)
    (nodup : (keys first).Nodup) (sameValues : ∀ key, get? key first = get? key second) : first = second := by
  induction first generalizing second with
  | nil => exact (List.map_eq_nil_iff.1 sameKeys.symm).symm
  | cons entry rest ih =>
      obtain ⟨name, value⟩ := entry
      obtain ⟨⟨key, other⟩, others, rfl, sameName, sameRest⟩ := List.map_eq_cons_iff.1 sameKeys.symm
      obtain rfl : name = key := sameName.symm
      obtain ⟨absent, restNodup⟩ := List.nodup_cons.1 nodup
      have here := sameValues name
      rw [get_cons_self, get_cons_self] at here
      obtain rfl := Option.some.inj here
      congr 1
      refine ih sameRest.symm restNodup fun key => ?_
      by_cases own : name = key
      · subst own
        have otherAbsent : name ∉ keys others := by
          intro listed
          exact absent (sameRest ▸ listed)
        rw [(get_eq_none_iff _ _).2 absent, (get_eq_none_iff _ _).2 otherAbsent]
      · have there := sameValues key
        rwa [get_cons_of_ne own, get_cons_of_ne own] at there

/-- What is put over entries is found by its last value, and what was there before where nothing is put. -/
theorem get_fold_put (key : Key) (entries before : List (Key × Value)) :
    get? key (entries.foldl (fun kept entry => put entry.1 entry.2 kept) before) =
      (((entries.filter (·.1 = key)).getLast?).map (·.2)).or (get? key before) := by
  induction entries using List.reverseRecOn with
  | nil => rfl
  | append_singleton entries entry ih =>
      rw [List.foldl_concat, get_put, ih, List.filter_append]
      by_cases same : entry.1 = key
      · simp [same]
      · simp [same, Ne.symm same]

theorem get_of_list (key : Key) (entries : List (Key × Value)) :
    get? key (ofList entries) = ((entries.filter (·.1 = key)).getLast?).map (·.2) :=
  (get_fold_put key entries []).trans Option.or_none

theorem of_list_concat (entries : List (Key × Value)) (entry : Key × Value) :
    ofList (entries ++ [entry]) = put entry.1 entry.2 (ofList entries) := by
  unfold ofList
  rw [List.foldl_concat]

theorem mem_keys_of_list {entry : Key × Value} {entries : List (Key × Value)} (listed : entry ∈ entries) :
    entry.1 ∈ keys (ofList entries) := by
  induction entries using List.reverseRecOn with
  | nil => cases listed
  | append_singleton entries last ih =>
      rw [of_list_concat, put, keys_adjust]
      rcases List.mem_append.1 listed with earlier | own
      · split
        · exact ih earlier
        · exact List.mem_append_left _ (ih earlier)
      · obtain rfl := List.mem_singleton.1 own
        split
        · assumption
        · exact List.mem_append_right _ (List.mem_singleton_self _)

theorem nodup_keys_of_list (entries : List (Key × Value)) : (keys (ofList entries)).Nodup := by
  induction entries using List.reverseRecOn with
  | nil => exact List.nodup_nil
  | append_singleton entries entry ih =>
      rw [of_list_concat]
      exact nodup_keys_adjust entry.1 _ ih

theorem mem_of_mem_of_list {entry : Key × Value} {entries : List (Key × Value)}
    (kept : entry ∈ ofList entries) : entry ∈ entries := by
  have held := (get_eq_some_iff (nodup_keys_of_list entries) entry.1 entry.2).2 kept
  rw [get_of_list] at held
  obtain ⟨last, found, sameValue⟩ := Option.map_eq_some_iff.1 held
  obtain ⟨listed, sameKey⟩ := List.mem_filter.1 (List.mem_of_getLast? found)
  rwa [Prod.ext (of_decide_eq_true sameKey) sameValue] at listed

theorem keys_fold_put {entries before : List (Key × Value)}
    (known : ∀ entry ∈ entries, entry.1 ∈ keys before) :
    keys (entries.foldl (fun kept entry => put entry.1 entry.2 kept) before) = keys before := by
  induction entries generalizing before with
  | nil => rfl
  | cons entry rest ih =>
      obtain ⟨own, others⟩ := List.forall_mem_cons.1 known
      have kept : keys (put entry.1 entry.2 before) = keys before := by
        unfold put
        rw [keys_adjust, if_pos own]
      rw [List.foldl_cons, ih (kept ▸ others), kept]

theorem put_again (entries : List (Key × Value)) :
    entries.foldl (fun kept entry => put entry.1 entry.2 kept) (ofList entries) = ofList entries := by
  have sameKeys := keys_fold_put fun entry (listed : entry ∈ entries) => mem_keys_of_list listed
  refine eq_of_keys_of_get sameKeys (sameKeys ▸ nodup_keys_of_list entries) fun key => ?_
  rw [get_fold_put, ofList, get_fold_put]
  cases ((entries.filter (·.1 = key)).getLast?).map (·.2) <;> rfl

section Totals

variable (key : Value → Key) (amount : Value → Int)

theorem totals_concat (values : List Value) (value : Value) :
    totals key amount (values ++ [value]) =
      adjust (key value) (fun old => old.getD 0 + amount value) (totals key amount values) := by
  simp [totals, List.foldl_append]

theorem keys_totals (values : List Value) : keys (totals key amount values) = keys (group key values) := by
  induction values using List.reverseRecOn with
  | nil => rfl
  | append_singleton values value ih => rw [totals_concat, group_concat, keys_adjust, keys_adjust, ih]

theorem keys_totals_in_order (values : List Value) :
    keys (totals key amount values) = (values.map key).eraseDups := by
  induction values using List.reverseRecOn with
  | nil => rfl
  | append_singleton values value ih =>
      have met : key value ∈ keys (totals key amount values) ↔ key value ∈ values.map key := by
        rw [ih, List.mem_eraseDups]
      rw [totals_concat, keys_adjust, List.map_append, List.map_singleton, erase_dups_concat, ← ih]
      simp only [met]

theorem get_totals (values : List Value) (name : Key) :
    get? name (totals key amount values) =
      if name ∈ values.map key then some ((values.filter (key · = name)).map amount).sum else none := by
  induction values using List.reverseRecOn with
  | nil => rfl
  | append_singleton values value ih =>
      rw [totals_concat]
      simp only [List.filter_append, List.map_append, List.mem_append]
      by_cases same : key value = name
      · subst same
        have unmet : key value ∉ values.map key → values.filter (key · = key value) = [] := by
          intro absent
          refine List.filter_eq_nil_iff.2 fun earlier listed own => absent ?_
          exact of_decide_eq_true own ▸ List.mem_map_of_mem listed
        rw [get_adjust_self, ih]
        by_cases listed : key value ∈ values.map key
        · simp [listed]
        · simp [listed, unmet listed]
      · rw [get_adjust_of_ne (Ne.symm same), ih]
        simp [same, Ne.symm same]

/-- Each key stands where its first value stood, with the sum of all amounts of the key. -/
theorem totals_eq (values : List Value) : totals key amount values =
    (values.map key).eraseDups.map fun name =>
      (name, ((values.filter (key · = name)).map amount).sum) := by
  have names : keys ((values.map key).eraseDups.map fun name =>
      (name, ((values.filter (key · = name)).map amount).sum)) = (values.map key).eraseDups := by
    unfold keys
    rw [List.map_map]
    exact List.map_id' _
  have nodup : (keys (totals key amount values)).Nodup := by
    rw [keys_totals]
    exact nodup_keys_group key values
  refine eq_of_keys_of_get ((keys_totals_in_order key amount values).trans names.symm) nodup fun name => ?_
  rw [get_totals]
  by_cases listed : name ∈ values.map key
  · rw [keys_totals_in_order, ← names] at nodup
    rw [if_pos listed, eq_comm, get_eq_some_iff nodup]
    exact List.mem_map_of_mem (List.mem_eraseDups.2 listed)
  · rw [if_neg listed, eq_comm, get_eq_none_iff, names, List.mem_eraseDups]
    exact listed

/-- Totals under keys that tell the members behind them apart are the totals of the members. -/
theorem totals_of_apart (member : Value → Member) (image : Member → Key) {values : List Value}
    (apart : ∀ first ∈ values, ∀ second ∈ values, image (member first) = image (member second) →
      member first = member second) :
    totals (fun value => image (member value)) amount values =
      (values.map member).eraseDups.map fun own =>
        (image own, ((values.filter (member · == own)).map amount).sum) := by
  have split : values.map (fun value => image (member value)) = (values.map member).map image := by
    rw [List.map_map]
    rfl
  have images : ((values.map member).map image).eraseDups = (values.map member).eraseDups.map image := by
    refine erase_dups_map fun left leftListed right rightListed same => ?_
    obtain ⟨first, firstListed, rfl⟩ := List.mem_map.1 leftListed
    obtain ⟨second, secondListed, rfl⟩ := List.mem_map.1 rightListed
    exact apart first firstListed second secondListed same
  rw [totals_eq, split, images, List.map_map]
  refine List.map_congr_left fun own listed => ?_
  obtain ⟨first, firstListed, rfl⟩ := List.mem_map.1 (List.mem_eraseDups.1 listed)
  have sameValues : values.filter (fun value => image (member value) = image (member first)) =
      values.filter (member · == member first) := by
    refine List.filter_congr fun second secondListed => Bool.eq_iff_iff.2 ?_
    rw [decide_eq_true_iff, beq_iff_eq]
    exact ⟨apart second secondListed first firstListed, congrArg image⟩
  dsimp only [Function.comp]
  rw [sameValues]

end Totals

end Entries

end SchoolTimetable
