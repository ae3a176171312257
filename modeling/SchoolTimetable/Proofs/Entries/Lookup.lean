import SchoolTimetable.Proofs.Entries.Grouping

/-!
Looking up a key after a change. Each change of entries touches the value under one key only, and an entry
that was put under a new key can be taken away again without a trace.
-/

namespace SchoolTimetable.Entries

variable {Key Value : Type} [DecidableEq Key]

theorem get_cons_self (key : Key) (value : Value) (rest : List (Key × Value)) :
    get? key ((key, value) :: rest) = some value := by
  simp [get?]

theorem get_cons_of_ne {name key : Key} (different : name ≠ key) (value : Value)
    (rest : List (Key × Value)) : get? key ((name, value) :: rest) = get? key rest := by
  simp [get?, different]

theorem get_put (key other : Key) (value : Value) (entries : List (Key × Value)) :
    get? other (put key value entries) = if other = key then some value else get? other entries := by
  by_cases same : other = key
  · subst same
    rw [if_pos rfl]
    exact get_adjust_self other _ entries
  · rw [if_neg same]
    exact get_adjust_of_ne same _ entries

theorem get_modify (key other : Key) (change : Value → Value) (entries : List (Key × Value)) :
    get? other (modify key change entries) =
      if other = key then (get? other entries).map change else get? other entries := by
  induction entries with
  | nil => simp [get?, modify]
  | cons entry rest ih =>
      obtain ⟨name, value⟩ := entry
      have head : modify key change ((name, value) :: rest) =
          (name, if name = key then change value else value) :: modify key change rest := by
        by_cases same : name = key <;> simp [modify, same]
      rw [head]
      by_cases here : name = other
      · subst here
        rw [get_cons_self, get_cons_self]
        by_cases same : name = key <;> simp [same]
      · rw [get_cons_of_ne here, get_cons_of_ne here, ih]

theorem get_erase (key other : Key) (entries : List (Key × Value)) :
    get? other (erase key entries) = if other = key then none else get? other entries := by
  induction entries with
  | nil => simp [get?, erase]
  | cons entry rest ih =>
      obtain ⟨name, value⟩ := entry
      by_cases dropped : name = key
      · subst dropped
        have gone : erase name ((name, value) :: rest) = erase name rest := by simp [erase]
        rw [gone, ih]
        by_cases same : other = name
        · rw [if_pos same, if_pos same]
        · rw [if_neg same, if_neg same, get_cons_of_ne (Ne.symm same)]
      · have kept : erase key ((name, value) :: rest) = (name, value) :: erase key rest := by
          simp [erase, dropped]
        rw [kept]
        by_cases here : name = other
        · subst here
          rw [if_neg dropped, get_cons_self, get_cons_self]
        · rw [get_cons_of_ne here, get_cons_of_ne here, ih]

theorem get_eq_none_iff (key : Key) (entries : List (Key × Value)) :
    get? key entries = none ↔ key ∉ keys entries := by
  unfold get? keys
  rw [Option.map_eq_none_iff, List.find?_eq_none]
  simp only [List.mem_map, not_exists, not_and, decide_eq_true_eq]

theorem keys_modify (key : Key) (change : Value → Value) (entries : List (Key × Value)) :
    keys (modify key change entries) = keys entries := by
  unfold keys modify
  rw [List.map_map]
  apply List.map_congr_left
  intro entry _
  dsimp only [Function.comp]
  split <;> rfl

theorem modify_modify (key : Key) (first second : Value → Value) (entries : List (Key × Value)) :
    modify key second (modify key first entries) = modify key (second ∘ first) entries := by
  unfold modify
  rw [List.map_map]
  apply List.map_congr_left
  intro entry _
  dsimp only [Function.comp]
  split <;> simp_all

/-- Where keys are distinct a change is known by what it makes of the one value under its key. -/
theorem modify_congr {key : Key} {value : Value} {entries : List (Key × Value)}
    (nodup : (keys entries).Nodup) (held : get? key entries = some value) {first second : Value → Value}
    (same : first value = second value) : modify key first entries = modify key second entries := by
  apply List.map_congr_left
  intro entry listed
  split
  · rename_i own
    have here := (get_eq_some_iff nodup key entry.2).2 (own ▸ listed)
    obtain rfl := Option.some.inj (held.symm.trans here)
    rw [same]
  · rfl

theorem modify_of_absent {key : Key} {entries : List (Key × Value)}
    (absent : get? key entries = none) (change : Value → Value) : modify key change entries = entries := by
  rw [get_eq_none_iff] at absent
  unfold modify
  conv_rhs => rw [← List.map_id' entries]
  apply List.map_congr_left
  intro entry listed
  split
  · rename_i same
    exact absurd (same ▸ List.mem_map_of_mem listed) absent
  · rfl

theorem modify_same (key : Key) (entries : List (Key × Value)) :
    modify key (fun value => value) entries = entries := by
  unfold modify
  simp

omit [DecidableEq Key] in
theorem nodup_keys_filter {entries : List (Key × Value)} (nodup : (keys entries).Nodup)
    (keeps : Key × Value → Bool) : (keys (entries.filter keeps)).Nodup :=
  nodup.sublist (List.filter_sublist.map _)

/-- Entries that are kept for their values are found as before, the others no more. -/
theorem get_filter {entries : List (Key × Value)} (nodup : (keys entries).Nodup)
    (keeps : Value → Bool) (key : Key) :
    get? key (entries.filter fun entry => keeps entry.2) = (get? key entries).filter keeps := by
  induction entries with
  | nil => rfl
  | cons entry rest ih =>
      obtain ⟨name, value⟩ := entry
      obtain ⟨absent, restNodup⟩ := List.nodup_cons.1 nodup
      have others := ih restNodup
      have split : ((name, value) :: rest).filter (fun entry => keeps entry.2) =
          if keeps value then (name, value) :: rest.filter (fun entry => keeps entry.2)
          else rest.filter fun entry => keeps entry.2 := List.filter_cons
      rw [split]
      by_cases here : name = key
      · subst here
        rw [(get_eq_none_iff name rest).2 absent] at others
        rw [get_cons_self]
        by_cases kept : keeps value = true
        · rw [if_pos kept, get_cons_self, Option.filter_some_pos kept]
        · rw [if_neg kept, others, Option.filter_some_neg (Bool.not_eq_true _ ▸ kept)]
          rfl
      · rw [get_cons_of_ne here]
        by_cases kept : keeps value = true
        · rw [if_pos kept, get_cons_of_ne here, others]
        · rw [if_neg kept, others]

theorem put_put (key : Key) (first second : Value) (entries : List (Key × Value)) :
    put key second (put key first entries) = put key second entries := by
  induction entries with
  | nil => simp [put, adjust]
  | cons entry rest ih =>
      obtain ⟨name, old⟩ := entry
      by_cases same : name = key
      · simp [put, adjust, same]
      · simp only [put, adjust, if_neg same] at ih ⊢
        rw [ih]

theorem erase_put_of_absent {key : Key} {entries : List (Key × Value)} (value : Value)
    (absent : get? key entries = none) : erase key (put key value entries) = entries := by
  induction entries with
  | nil => simp [erase, put, adjust]
  | cons entry rest ih =>
      obtain ⟨name, old⟩ := entry
      have different : name ≠ key := by
        rintro rfl
        rw [get_cons_self] at absent
        cases absent
      rw [get_cons_of_ne different] at absent
      have erased := ih absent
      unfold erase at erased ⊢
      simp only [put, adjust, if_neg different] at erased ⊢
      rw [List.filter_cons_of_pos (by simpa using different), erased]

end SchoolTimetable.Entries
