/-!
Lists of entries with distinct keys in the order in which the keys first appeared.
-/

namespace SchoolTimetable.Entries

variable {Key Value : Type} [DecidableEq Key]

/-- Changes the value under a key, given what is there; a new key goes to the end. -/
def adjust (key : Key) (change : Option Value → Value) : List (Key × Value) → List (Key × Value)
  | [] => [(key, change none)]
  | (name, old) :: rest =>
      if name = key then (name, change (some old)) :: rest else (name, old) :: adjust key change rest

/-- Sets the value under a key; a key that is already there keeps its place. -/
def put (key : Key) (value : Value) (entries : List (Key × Value)) : List (Key × Value) :=
  adjust key (fun _ => value) entries

/-- Each key once, at the place of its first entry and with the value of its last. -/
def ofList (entries : List (Key × Value)) : List (Key × Value) :=
  entries.foldl (fun kept entry => put entry.1 entry.2 kept) []

def get? (key : Key) (entries : List (Key × Value)) : Option Value :=
  (entries.find? fun entry => entry.1 = key).map (·.2)

def erase (key : Key) (entries : List (Key × Value)) : List (Key × Value) :=
  entries.filter fun entry => entry.1 ≠ key

def modify (key : Key) (change : Value → Value) (entries : List (Key × Value)) : List (Key × Value) :=
  entries.map fun entry => if entry.1 = key then (entry.1, change entry.2) else entry

/-- The values in groups of equal keys; groups come in the order of their first values. -/
def group (key : Value → Key) (values : List Value) : List (Key × List Value) :=
  values.foldl (fun groups value => adjust (key value) (fun old => old.getD [] ++ [value]) groups) []

/-- The sum of the amounts of the values of each key, keys in the order of their first values. -/
def totals (key : Value → Key) (amount : Value → Int) (values : List Value) : List (Key × Int) :=
  values.foldl (fun sums value => adjust (key value) (fun old => old.getD 0 + amount value) sums) []

def ascending {Member : Type} [DecidableEq Member] (atMost : Member → Member → Bool)
    (values : List Member) : List Member :=
  values.eraseDups.mergeSort atMost

def sortByKey (atMost : Key → Key → Bool) (entries : List (Key × Value)) : List (Key × Value) :=
  entries.mergeSort fun first second => atMost first.1 second.1

theorem get_adjust_self (key : Key) (change : Option Value → Value) (entries : List (Key × Value)) :
    get? key (adjust key change entries) = some (change (get? key entries)) := by
  induction entries with
  | nil => simp [adjust, get?]
  | cons entry rest ih =>
      by_cases same : entry.1 = key
      · simp [adjust, get?, same]
      · simpa [adjust, get?, same] using ih

theorem get_adjust_of_ne {key other : Key} (different : other ≠ key)
    (change : Option Value → Value) (entries : List (Key × Value)) :
    get? other (adjust key change entries) = get? other entries := by
  induction entries with
  | nil => simp [adjust, get?, different.symm]
  | cons entry rest ih =>
      obtain ⟨name, value⟩ := entry
      by_cases same : name = key
      · subst same
        simp [adjust, get?, different.symm]
      · by_cases found : name = other
        · subst found
          simp [adjust, get?, same]
        · simpa [adjust, get?, same, found] using ih

end SchoolTimetable.Entries
