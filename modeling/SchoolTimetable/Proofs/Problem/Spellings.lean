import SchoolTimetable.Config
import SchoolTimetable.Problem.Basic
import SchoolTimetable.Proofs.Entries.Totals
import SchoolTimetable.Proofs.Text.Names

/-!
Documents in two spellings. A document whose keys are names with underscores is not changed by the respelling
of keys, and the same document with capitals in its keys is respelled to it. Respelling the keys of any document
a second time changes nothing.
-/

namespace SchoolTimetable

namespace Json

mutual

/-- The keys of every object at any depth are distinct, and each of them fits. -/
def KeysFit (Fits : String → Prop) : Json → Prop
  | .arr items => ItemsFit Fits items
  | .obj entries => (Entries.keys entries).Nodup ∧ EntriesFit Fits entries
  | _ => True

def ItemsFit (Fits : String → Prop) : List Json → Prop
  | [] => True
  | item :: rest => KeysFit Fits item ∧ ItemsFit Fits rest

def EntriesFit (Fits : String → Prop) : List (String × Json) → Prop
  | [] => True
  | (key, value) :: rest => (Fits key ∧ KeysFit Fits value) ∧ EntriesFit Fits rest

end

def IsLeaf : Json → Prop
  | .arr _ | .obj _ => False
  | _ => True

mutual

/-- What holds of values without parts, and of lists and objects where it holds of their parts, holds of every
document. -/
theorem of_parts {Holds : Json → Prop} (leaf : ∀ document, IsLeaf document → Holds document)
    (arr : ∀ items, (∀ item ∈ items, Holds item) → Holds (.arr items))
    (obj : ∀ entries, (∀ entry ∈ entries, Holds entry.2) → Holds (.obj entries)) : ∀ document, Holds document
  | .arr items => arr items (of_parts_items leaf arr obj items)
  | .obj entries => obj entries (of_parts_entries leaf arr obj entries)
  | .null => leaf _ trivial
  | .bool _ => leaf _ trivial
  | .int _ => leaf _ trivial
  | .float _ => leaf _ trivial
  | .str _ => leaf _ trivial

theorem of_parts_items {Holds : Json → Prop} (leaf : ∀ document, IsLeaf document → Holds document)
    (arr : ∀ items, (∀ item ∈ items, Holds item) → Holds (.arr items))
    (obj : ∀ entries, (∀ entry ∈ entries, Holds entry.2) → Holds (.obj entries)) :
    ∀ items : List Json, ∀ item ∈ items, Holds item
  | [] => List.forall_mem_nil _
  | item :: rest => List.forall_mem_cons.2 ⟨of_parts leaf arr obj item, of_parts_items leaf arr obj rest⟩

theorem of_parts_entries {Holds : Json → Prop} (leaf : ∀ document, IsLeaf document → Holds document)
    (arr : ∀ items, (∀ item ∈ items, Holds item) → Holds (.arr items))
    (obj : ∀ entries, (∀ entry ∈ entries, Holds entry.2) → Holds (.obj entries)) :
    ∀ entries : List (String × Json), ∀ entry ∈ entries, Holds entry.2
  | [] => List.forall_mem_nil _
  | (_, value) :: rest =>
      List.forall_mem_cons.2 ⟨of_parts leaf arr obj value, of_parts_entries leaf arr obj rest⟩

end

variable {Fits : String → Prop} {respelled there back : String → String} {document : Json}
  {items : List Json} {entries : List (String × Json)}

theorem items_fit_iff : KeysFit Fits (.arr items) ↔ ∀ item ∈ items, KeysFit Fits item := by
  rw [KeysFit]
  induction items with
  | nil => simp [ItemsFit]
  | cons item rest ih => simp [ItemsFit, ih]

theorem entries_fit_iff : KeysFit Fits (.obj entries) ↔
    (Entries.keys entries).Nodup ∧ ∀ entry ∈ entries, Fits entry.1 ∧ KeysFit Fits entry.2 := by
  have each : EntriesFit Fits entries ↔ ∀ entry ∈ entries, Fits entry.1 ∧ KeysFit Fits entry.2 := by
    induction entries with
    | nil => simp [EntriesFit]
    | cons entry rest ih => simp [EntriesFit, ih]
  rw [KeysFit, each]

theorem respell_leaf (leaf : IsLeaf document) : document.respellKeysWith respelled = document := by
  cases document <;> first | exact leaf.elim | simp [respellKeysWith]

theorem respell_arr (respelled : String → String) (items : List Json) :
    (Json.arr items).respellKeysWith respelled = .arr (items.map (respellKeysWith respelled)) := by
  have each : respellItems respelled items = items.map (respellKeysWith respelled) := by
    induction items with
    | nil => rfl
    | cons item rest ih => rw [respellItems, ih, List.map_cons]
  rw [respellKeysWith, each]

def respellEntry (respelled : String → String) (entry : String × Json) : String × Json :=
  (respelled entry.1, entry.2.respellKeysWith respelled)

theorem respell_obj (respelled : String → String) (entries : List (String × Json)) :
    (Json.obj entries).respellKeysWith respelled =
      .obj (Entries.ofList (entries.map (respellEntry respelled))) := by
  have each : respellEntries respelled entries = entries.map (respellEntry respelled) := by
    induction entries with
    | nil => rfl
    | cons entry rest ih =>
        rw [respellEntries, ih, List.map_cons]
        rfl
  rw [respellKeysWith, each]

theorem keys_respelled (respelled : String → String) (entries : List (String × Json)) :
    Entries.keys (entries.map (respellEntry respelled)) = (Entries.keys entries).map respelled := by
  unfold Entries.keys
  rw [List.map_map, List.map_map]
  rfl

theorem respelled_back (returns : ∀ key, Fits key → back (there key) = key) (document : Json)
    (fit : document.KeysFit Fits) : (document.respellKeysWith there).respellKeysWith back = document := by
  induction document using of_parts with
  | leaf document leaf => rw [respell_leaf leaf, respell_leaf leaf]
  | arr items ih =>
      rw [respell_arr, respell_arr, List.map_map]
      congr 1
      have kept := List.map_congr_left fun item listed => ih item listed (items_fit_iff.1 fit item listed)
      exact kept.trans (List.map_id' items)
  | obj entries ih =>
      obtain ⟨nodup, fits⟩ := entries_fit_iff.1 fit
      have apart : (Entries.keys (entries.map (respellEntry there))).Nodup := by
        rw [keys_respelled]
        apply List.Nodup.map_on _ nodup
        intro first firstListed second secondListed same
        obtain ⟨entry, listed, rfl⟩ := List.mem_map.1 firstListed
        obtain ⟨other, otherListed, rfl⟩ := List.mem_map.1 secondListed
        rw [← returns entry.1 (fits entry listed).1, same, returns other.1 (fits other otherListed).1]
      have kept : (entries.map (respellEntry there)).map (respellEntry back) = entries := by
        rw [List.map_map]
        refine Eq.trans (List.map_congr_left fun entry listed => ?_) (List.map_id' entries)
        obtain ⟨fitting, valueFits⟩ := fits entry listed
        exact Prod.ext (returns entry.1 fitting) (ih entry listed valueFits)
      rw [respell_obj, Entries.of_list_of_nodup apart, respell_obj, kept, Entries.of_list_of_nodup nodup]

theorem respelled_of_settled (settled : ∀ key, Fits key → respelled key = key) (document : Json)
    (fit : document.KeysFit Fits) : document.respellKeysWith respelled = document := by
  induction document using of_parts with
  | leaf document leaf => exact respell_leaf leaf
  | arr items ih =>
      rw [respell_arr]
      congr 1
      have kept := List.map_congr_left fun item listed => ih item listed (items_fit_iff.1 fit item listed)
      exact kept.trans (List.map_id' items)
  | obj entries ih =>
      obtain ⟨nodup, fits⟩ := entries_fit_iff.1 fit
      have kept : entries.map (respellEntry respelled) = entries := by
        refine Eq.trans (List.map_congr_left fun entry listed => ?_) (List.map_id' entries)
        obtain ⟨fitting, valueFits⟩ := fits entry listed
        exact Prod.ext (settled entry.1 fitting) (ih entry listed valueFits)
      rw [respell_obj, kept, Entries.of_list_of_nodup nodup]

theorem keys_settled (again : ∀ key, respelled (respelled key) = respelled key) (document : Json) :
    (document.respellKeysWith respelled).KeysFit fun key => respelled key = key := by
  induction document using of_parts with
  | leaf document leaf =>
      rw [respell_leaf leaf]
      cases document <;> first | exact leaf.elim | exact trivial
  | arr items ih =>
      rw [respell_arr, items_fit_iff]
      intro item listed
      obtain ⟨original, member, rfl⟩ := List.mem_map.1 listed
      exact ih original member
  | obj entries ih =>
      rw [respell_obj, entries_fit_iff]
      refine ⟨Entries.nodup_keys_of_list _, ?_⟩
      intro entry kept
      obtain ⟨original, member, rfl⟩ := List.mem_map.1 (Entries.mem_of_mem_of_list kept)
      exact ⟨again original.1, ih original member⟩

/-- A document with underscores in its keys is the same document with capitals in them: neither loader tells
them apart. Respelling the keys of any document a second time changes nothing, for any lower-casing that does
nothing a second time and leaves no ASCII capital. -/
theorem spellings_are_one_document :
    (∀ document : Json, document.KeysFit Text.IsUnderscoredName →
      document.underscoreKeys = document ∧
      (document.respellKeysWith Text.capitalized).underscoreKeys = document ∧
      Problem.load (document.respellKeysWith Text.capitalized) = Problem.load document ∧
      Config.load (document.respellKeysWith Text.capitalized) = Config.load document) ∧
    ∀ lower : List Char → List Char, (∀ text, lower (lower text) = lower text) →
      (∀ text, ∀ char ∈ lower text, Text.isCapital char = false) →
      ∀ document : Json, let respelled := fun key : String => String.ofList (Text.respell lower key.toList)
        (document.respellKeysWith respelled).respellKeysWith respelled = document.respellKeysWith respelled := by
  constructor
  · intro document named
    have settled : document.underscoreKeys = document :=
      respelled_of_settled (fun _ => Text.underscored_of_name) document named
    have returned : (document.respellKeysWith Text.capitalized).underscoreKeys = document :=
      respelled_back (fun _ => Text.underscored_capitalized) document named
    refine ⟨settled, returned, ?_, ?_⟩
    · rw [Problem.load, returned, Problem.load, settled]
    · rw [Config.load, returned, Config.load, settled]
  · intro lower lowered uncapital document
    apply respelled_of_settled (fun _ kept => kept)
    apply keys_settled
    intro key
    rw [String.toList_ofList, Text.respell_idempotent lowered uncapital]

def nested : Json :=
  .obj [("term_id", .str "T"),
    ("time_slots", .arr [.obj [("day_of_week", .int 0), ("h2_ab", .null)], .obj [("period", .bool true)]])]

def nestedCapitals : Json :=
  .obj [("termId", .str "T"),
    ("timeSlots", .arr [.obj [("dayOfWeek", .int 0), ("h2Ab", .null)], .obj [("period", .bool true)]])]

/-- A document with keys of adjacent capitals, two of which become equal. -/
def acronyms : Json := .obj [("HTTPServerID", .int 1), ("httpServerId", .int 2), ("İXÄb1Cd", .null)]

theorem nested_capitalized : nested.respellKeysWith Text.capitalized = nestedCapitals := by
  rfl

theorem nested_named : nested.KeysFit Text.IsUnderscoredName := by
  have term : Text.IsUnderscoredName "term_id" :=
    ⟨⟨⟨'t', ['e', 'r', 'm'], rfl, Text.inside_of_all rfl⟩, [⟨'i', ['d'], rfl, Text.inside_of_all rfl⟩], by decide⟩,
      by decide⟩
  have slots : Text.IsUnderscoredName "time_slots" :=
    ⟨⟨⟨'t', ['i', 'm', 'e'], rfl, Text.inside_of_all rfl⟩,
      [⟨'s', ['l', 'o', 't', 's'], rfl, Text.inside_of_all rfl⟩], by decide⟩, by decide⟩
  have day : Text.IsUnderscoredName "day_of_week" :=
    ⟨⟨⟨'d', ['a', 'y'], rfl, Text.inside_of_all rfl⟩,
      [⟨'o', ['f'], rfl, Text.inside_of_all rfl⟩, ⟨'w', ['e', 'e', 'k'], rfl, Text.inside_of_all rfl⟩], by decide⟩,
      by decide⟩
  have digit : Text.IsUnderscoredName "h2_ab" :=
    ⟨⟨⟨'h', ['2'], rfl, Text.inside_of_all rfl⟩, [⟨'a', ['b'], rfl, Text.inside_of_all rfl⟩], by decide⟩, by decide⟩
  have period : Text.IsUnderscoredName "period" :=
    ⟨⟨⟨'p', ['e', 'r', 'i', 'o', 'd'], rfl, Text.inside_of_all rfl⟩, [], by decide⟩, by decide⟩
  have first : (Json.obj [("day_of_week", .int 0), ("h2_ab", .null)]).KeysFit Text.IsUnderscoredName :=
    ⟨by decide, ⟨day, trivial⟩, ⟨digit, trivial⟩, trivial⟩
  have second : (Json.obj [("period", .bool true)]).KeysFit Text.IsUnderscoredName :=
    ⟨by decide, ⟨period, trivial⟩, trivial⟩
  exact ⟨by decide, ⟨term, trivial⟩, ⟨slots, first, second, trivial⟩, trivial⟩

theorem nested_is_one_document : nested.KeysFit Text.IsUnderscoredName ∧
    nested.respellKeysWith Text.capitalized = nestedCapitals ∧ nestedCapitals.underscoreKeys = nested ∧
    Problem.load nestedCapitals = Problem.load nested ∧ Config.load nestedCapitals = Config.load nested ∧
    (∀ text, Text.lowerCase (Text.lowerCase text) = Text.lowerCase text) ∧
    (∀ text, ∀ char ∈ Text.lowerCase text, Text.isCapital char = false) ∧
    acronyms.underscoreKeys = .obj [("http_server_id", .int 2), ("i\u0307xäb1_cd", .null)] ∧
    acronyms.underscoreKeys.underscoreKeys = acronyms.underscoreKeys := by
  obtain ⟨-, returned, sameProblem, sameConfig⟩ := spellings_are_one_document.1 nested nested_named
  rw [nested_capitalized] at returned sameProblem sameConfig
  exact ⟨nested_named, nested_capitalized, returned, sameProblem, sameConfig, Text.lower_case_idempotent,
    Text.lower_case_without_capitals, by rfl,
    spellings_are_one_document.2 Text.lowerCase Text.lower_case_idempotent Text.lower_case_without_capitals acronyms⟩

end Json

end SchoolTimetable
