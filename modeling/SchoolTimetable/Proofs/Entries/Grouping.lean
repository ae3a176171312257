import Mathlib.Data.List.Induction
import Mathlib.Data.List.Nodup
import SchoolTimetable.Entries

/-!
Entries that were built by grouping. Every key has one entry, and the group of a key holds exactly
the values of that key, in their order.
-/

namespace SchoolTimetable.Entries

variable {Key Value : Type} [DecidableEq Key]

def keys (entries : List (Key × Value)) : List Key := entries.map (·.1)

theorem keys_adjust (key : Key) (change : Option Value → Value) (entries : List (Key × Value)) :
    keys (adjust key change entries) =
      if key ∈ keys entries then keys entries else keys entries ++ [key] := by
  induction entries with
  | nil => simp [adjust, keys]
  | cons entry rest ih =>
      by_cases same : entry.1 = key
      · simp [adjust, keys, same]
      · have different : key ≠ entry.1 := fun equal => same equal.symm
        have step : keys (adjust key change (entry :: rest)) =
            entry.1 :: keys (adjust key change rest) := by
          simp [adjust, same, keys]
        rw [step, ih]
        by_cases member : key ∈ keys rest
        · simp [keys] at member
          simp [keys, member]
        · simp [keys] at member
          simp [keys, member, different]

theorem nodup_keys_adjust (key : Key) (change : Option Value → Value) {entries : List (Key × Value)}
    (nodup : (keys entries).Nodup) : (keys (adjust key change entries)).Nodup := by
  rw [keys_adjust]
  split
  · exact nodup
  · rename_i absent
    exact List.nodup_append.2 ⟨nodup, List.nodup_singleton key, by
      intro left member right equal
      rw [List.mem_singleton.1 equal]
      rintro rfl
      exact absent member⟩

theorem get_eq_some_iff {entries : List (Key × Value)} (nodup : (keys entries).Nodup) (key : Key)
    (value : Value) : get? key entries = some value ↔ (key, value) ∈ entries := by
  induction entries with
  | nil => simp [get?]
  | cons entry rest ih =>
      obtain ⟨name, held⟩ := entry
      obtain ⟨absent, restNodup⟩ := List.nodup_cons.1 nodup
      by_cases same : name = key
      · subst same
        have noOther : (name, value) ∉ rest := fun member =>
          absent (List.mem_map.2 ⟨(name, value), member, rfl⟩)
        simp [get?, noOther, eq_comm]
      · have different : key ≠ name := fun equal => same equal.symm
        simpa [get?, same, different] using ih restNodup

theorem group_concat (key : Value → Key) (values : List Value) (value : Value) :
    group key (values ++ [value]) =
      adjust (key value) (fun old => old.getD [] ++ [value]) (group key values) := by
  simp [group, List.foldl_append]

theorem nodup_keys_group (key : Value → Key) (values : List Value) :
    (keys (group key values)).Nodup := by
  induction values using List.reverseRecOn with
  | nil => simp [group, keys]
  | append_singleton values value ih =>
      rw [group_concat]
      exact nodup_keys_adjust _ _ ih

theorem get_group (key : Value → Key) (values : List Value) (name : Key) :
    get? name (group key values) =
      if (values.filter (key · = name)).isEmpty then none
      else some (values.filter (key · = name)) := by
  induction values using List.reverseRecOn with
  | nil => simp [group, get?]
  | append_singleton values value ih =>
      rw [group_concat]
      by_cases same : key value = name
      · subst same
        rw [get_adjust_self, ih]
        by_cases empty : (values.filter (key · = key value)) = []
        · simp [List.filter_append, empty]
        · simp [List.filter_append, empty]
      · rw [get_adjust_of_ne (fun equal => same equal.symm), ih]
        simp [List.filter_append, same]

theorem mem_group_iff (key : Value → Key) (values : List Value) (name : Key) (members : List Value) :
    (name, members) ∈ group key values ↔
      members = values.filter (key · = name) ∧ members ≠ [] := by
  rw [← get_eq_some_iff (nodup_keys_group key values), get_group]
  by_cases empty : (values.filter (key · = name)) = []
  · simp +contextual [empty]
  · simp only [List.isEmpty_iff, empty, if_false, Option.some.injEq]
    constructor
    · rintro rfl
      exact ⟨rfl, empty⟩
    · exact fun found => found.1.symm

theorem mem_keys_group (key : Value → Key) (values : List Value) (name : Key) :
    name ∈ keys (group key values) ↔ ∃ value ∈ values, key value = name := by
  constructor
  · intro listed
    obtain ⟨⟨_, members⟩, grouped, rfl⟩ := List.mem_map.1 listed
    obtain ⟨rfl, some⟩ := (mem_group_iff key values _ members).1 grouped
    obtain ⟨value, kept⟩ := List.exists_mem_of_ne_nil _ some
    obtain ⟨member, own⟩ := List.mem_filter.1 kept
    exact ⟨value, member, of_decide_eq_true own⟩
  · rintro ⟨value, member, rfl⟩
    have kept : value ∈ values.filter (key · = key value) := List.mem_filter.2 ⟨member, decide_eq_true rfl⟩
    exact List.mem_map_of_mem ((mem_group_iff key values _ _).2 ⟨rfl, List.ne_nil_of_mem kept⟩)

/-- Groups of the values that are kept come in the order in which their keys first occur among all values. -/
theorem keys_group_in_order (key : Value → Key) (keeps : Key → Bool) (values : List Value) :
    (keys (group key (values.filter fun value => keeps (key value)))).Pairwise fun first second =>
      (values.map key).idxOf first < (values.map key).idxOf second := by
  induction values using List.reverseRecOn with
  | nil => exact .nil
  | append_singleton values value ih =>
      have known : ∀ name ∈ keys (group key (values.filter fun value => keeps (key value))),
          name ∈ values.map key := by
        intro name listed
        obtain ⟨earlier, kept, rfl⟩ := (mem_keys_group key _ name).1 listed
        exact List.mem_map_of_mem (List.mem_filter.1 kept).1
      have before : (keys (group key (values.filter fun value => keeps (key value)))).Pairwise
          fun first second => ((values ++ [value]).map key).idxOf first <
            ((values ++ [value]).map key).idxOf second := by
        refine ih.imp_of_mem fun {first second} left right less => ?_
        rwa [List.map_append, List.idxOf_append_of_mem (known first left),
          List.idxOf_append_of_mem (known second right)]
      rw [List.filter_append]
      by_cases kept : keeps (key value) = true
      · rw [List.filter_cons, if_pos kept, List.filter_nil, group_concat, keys_adjust]
        split
        · exact before
        · rename_i absent
          refine List.pairwise_append.2 ⟨before, List.pairwise_singleton .., ?_⟩
          intro first listed second new
          obtain rfl := List.mem_singleton.1 new
          -- No value with this key came before, as it would have been kept.
          have unseen : key value ∉ values.map key := by
            intro occurs
            obtain ⟨earlier, member, same⟩ := List.mem_map.1 occurs
            refine absent ((mem_keys_group key _ _).2 ⟨earlier, List.mem_filter.2 ⟨member, ?_⟩, same⟩)
            rwa [same]
          rw [List.map_append, List.idxOf_append_of_mem (known first listed),
            List.idxOf_append_of_notMem unseen]
          exact Nat.lt_add_right _ (List.idxOf_lt_length_of_mem (known first listed))
      · rw [List.filter_cons, if_neg kept, List.filter_nil, List.append_nil]
        exact before

private theorem uses_under_key {held : List Key} (nodup : held.Nodup) (value : Value) (key : Key) :
    (((held.map fun use => (use, value)).filter (·.1 = key)).map (·.2)) =
      if key ∈ held then [value] else [] := by
  induction held with
  | nil => rfl
  | cons first rest ih =>
      obtain ⟨absent, restNodup⟩ := List.nodup_cons.1 nodup
      have tail := ih restNodup
      by_cases same : first = key
      · subst same
        rw [if_neg absent] at tail
        simp [tail]
      · have different : key ≠ first := fun equal => same equal.symm
        simpa [same, different] using tail

/-- Where members stand under several keys each, those under one key are the members that have it. -/
theorem uses_of_key {Member : Type} {keysOf : Member → List Key}
    (nodup : ∀ member, (keysOf member).Nodup) (valueOf : Member → Value) (key : Key)
    (members : List Member) :
    ((members.flatMap fun member => (keysOf member).map fun held => (held, valueOf member)).filter
        (·.1 = key)).map (·.2) =
      (members.filter fun member => key ∈ keysOf member).map valueOf := by
  induction members with
  | nil => rfl
  | cons member rest ih =>
      rw [List.flatMap_cons, List.filter_append, List.map_append, ih, uses_under_key (nodup member)]
      by_cases held : key ∈ keysOf member <;> simp [held]

theorem put_of_absent {key : Key} (value : Value) {entries : List (Key × Value)}
    (absent : key ∉ keys entries) : put key value entries = entries ++ [(key, value)] := by
  induction entries with
  | nil => rfl
  | cons entry rest ih =>
      obtain ⟨different, later⟩ := not_or.1 fun either => absent (List.mem_cons.2 either)
      unfold put adjust
      rw [if_neg (Ne.symm different)]
      exact congrArg (entry :: ·) (ih later)

private theorem fold_put_of_nodup {before entries : List (Key × Value)}
    (nodup : (keys (before ++ entries)).Nodup) :
    entries.foldl (fun kept entry => put entry.1 entry.2 kept) before = before ++ entries := by
  induction entries generalizing before with
  | nil => simp
  | cons entry rest ih =>
      have absent : entry.1 ∉ keys before := by
        intro held
        rw [keys, List.map_append] at nodup
        exact (List.nodup_append.1 nodup).2.2 _ held _ List.mem_cons_self rfl
      rw [List.foldl_cons, put_of_absent entry.2 absent, ih (by simpa using nodup)]
      simp

theorem of_list_of_nodup {entries : List (Key × Value)} (nodup : (keys entries).Nodup) :
    ofList entries = entries :=
  fold_put_of_nodup nodup

end SchoolTimetable.Entries
