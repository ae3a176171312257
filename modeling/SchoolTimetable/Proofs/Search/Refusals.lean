import SchoolTimetable.Proofs.Search.FirstChoice
import SchoolTimetable.Proofs.Search.Operations

/-!
Requests that are refused. Changes, moves and restored snapshots are checked before anything is written, and so is
the placing of a lesson. Only picking a room gives up the room of the lesson first, and where there is no candidate
the lesson is left without one.
-/

namespace SchoolTimetable

/-- An operation that is refused exactly if there is a fault, and then leaves a certain state. -/
def RefusedOnly {Fault State Value : Type} (operation : EStateM Fault State Value) (start : State)
    (fault? : Option Fault) (left : State) : Prop :=
  match fault? with
  | some fault => operation.run start = .error fault left
  | none => ∃ value after, operation.run start = .ok value after

namespace RefusedOnly

variable {Fault State Value : Type} {operation : EStateM Fault State Value} {start left : State}
  {fault? : Option Fault}

theorem discard (only : RefusedOnly operation start fault? left) :
    RefusedOnly (discard operation) start fault? left := by
  unfold RefusedOnly at only ⊢
  cases fault? with
  | some fault =>
      dsimp only at only ⊢
      rw [run_discard, only]
  | none =>
      obtain ⟨value, after, done⟩ := only
      exact ⟨(), after, run_discard_ok done⟩

theorem of_refused (only : RefusedOnly operation start fault? left) {fault : Fault} {after : State}
    (refused : operation.run start = .error fault after) : fault? = some fault ∧ after = left := by
  unfold RefusedOnly at only
  cases fault? with
  | some own =>
      obtain ⟨rfl, rfl⟩ := EStateM.Result.error.inj (refused.symm.trans only)
      exact ⟨rfl, rfl⟩
  | none =>
      obtain ⟨value, finish, done⟩ := only
      rw [refused] at done
      cases done

end RefusedOnly

namespace Operation

theorem on_construction_run {Value : Type} (operation : Operation Value) (state : FirstFit) :
    (onConstruction operation).run state =
      match operation.run state.director with
      | .ok value next => .ok value { state with director := next }
      | .error fault next => .error fault { state with director := next } := rfl

/-- On the director of a construction an operation that leaves the director leaves the construction. -/
theorem refused_on_construction {Value : Type} {operation : Operation Value} {state : FirstFit}
    {fault? : Option PlanningFault} (only : RefusedOnly operation state.director fault? state.director) :
    RefusedOnly (onConstruction operation) state fault? state := by
  unfold RefusedOnly at only ⊢
  cases fault? with
  | some fault =>
      dsimp only at only ⊢
      rw [on_construction_run, only]
  | none =>
      obtain ⟨value, after, done⟩ := only
      exact ⟨value, { state with director := after }, by rw [on_construction_run, done]⟩

def changeFault? (timetable : Timetable) (settings : List Setting) : Option PlanningFault :=
  match Setting.takenName? settings with
  | some name => some (.takenName name)
  | none =>
      if timetable.isFinal then some (.finalTimetable timetable.term)
      else (Setting.unknownName? settings).map .unknownVariable

def restoreFault? (timetable : Timetable) (snapshot : Snapshot) : Option PlanningFault :=
  if timetable.isFinal then some (.finalTimetable timetable.term)
  else if snapshot.length = timetable.lessons.length then none
  else some (.snapshotLength snapshot.length timetable.term timetable.lessons.length)

theorem set_variables_refused {settings : List Setting} (distinct : (settings.map Setting.variableName).Nodup)
    (director : Director) (position : Nat) : RefusedOnly (setVariables position settings) director
      (changeFault? director.timetable settings) director := by
  unfold RefusedOnly
  rw [set_variables_run distinct]
  unfold changeFault? Director.change
  cases Setting.takenName? settings with
  | some name => rfl
  | none =>
  dsimp only
  by_cases final : director.timetable.isFinal = true
  · rw [if_pos final, if_pos final]
    rfl
  rw [if_neg final, if_neg final]
  cases Setting.unknownName? settings with
  | some name => rfl
  | none =>
      cases director.lesson? position with
      | none => exact ⟨_, _, rfl⟩
      | some lesson => exact ⟨_, _, rfl⟩

theorem set_variable_refused (director : Director) (position : Nat) (setting : Setting) :
    RefusedOnly (setVariable position setting) director (changeFault? director.timetable [setting]) director := by
  have distinct : ([setting].map Setting.variableName).Nodup := List.nodup_singleton _
  exact set_variables_refused distinct director position

theorem restore_refused (snapshot : Snapshot) (director : Director) :
    RefusedOnly (restore snapshot) director (restoreFault? director.timetable snapshot) director := by
  unfold RefusedOnly
  rw [restore_run]
  unfold restoreFault? Timetable.restore Timetable.checkSnapshot
  by_cases final : director.timetable.isFinal = true
  · rw [if_pos final, if_pos final]
    rfl
  rw [if_neg final, if_neg final]
  by_cases fits : snapshot.length = director.timetable.lessons.length
  · rw [if_pos fits, if_pos fits]
    exact ⟨_, _, rfl⟩
  · rw [if_neg fits, if_neg fits]
    rfl

/-- Why a move is refused, if it is. An exchange with a lesson that is not there does nothing. -/
def moveFault? (director : Director) : Move → Option PlanningFault
  | .change _ _ new => changeFault? director.timetable [new]
  | .swap first second =>
      match director.lesson? first, director.lesson? second with
      | some _, some _ => changeFault? director.timetable []
      | _, _ => none

theorem make_move_refused (move : Move) (director : Director) :
    RefusedOnly (makeMove move) director (moveFault? director move) director := by
  cases move with
  | change position old new => exact set_variable_refused director position new
  | swap first second =>
      by_cases final : director.timetable.isFinal = true
      · have refused : ∀ slot room, director.change first [.slot slot, .room room] =
            .error (.finalTimetable director.timetable.term) := by
          intro slot room
          unfold Director.change
          rw [Setting.untaken_of_known rfl]
          exact if_pos final
        unfold RefusedOnly
        rw [make_move_run]
        simp only [moveFault?, Move.perform, changeFault?, if_pos final]
        cases director.lesson? first with
        | none => exact ⟨_, _, rfl⟩
        | some left =>
            cases director.lesson? second with
            | none => exact ⟨_, _, rfl⟩
            | some right =>
                dsimp only
                rw [refused]
                rfl
      · have allowed : moveFault? director (.swap first second) = none := by
          simp only [moveFault?, changeFault?, if_neg final]
          split <;> rfl
        obtain ⟨moved, performed⟩ := Move.perform_swap_of_working first second (Bool.eq_false_iff.2 final)
        unfold RefusedOnly
        rw [allowed, make_move_run, performed]
        exact ⟨moved.score, moved, rfl⟩

end Operation

namespace FirstFit

def placeFault? (state : FirstFit) (position : Nat) : Option PlanningFault :=
  match state.director.lesson? position with
  | none => none
  | some _ =>
      if state.slots = [] then some (.noSlots state.director.timetable.term)
      else if state.director.timetable.isFinal then some (.finalTimetable state.director.timetable.term)
      else none

def roomFault? (state : FirstFit) (position : Nat) : Option PlanningFault :=
  match state.director.lesson? position with
  | none => none
  | some lesson =>
      if state.director.timetable.isFinal then some (.finalTimetable state.director.timetable.term)
      else if lesson.candidateRooms = [] then some (.noCandidateRooms lesson.id)
      else none

/-- The construction in which the lesson at a position has given up its room, where the timetable is not final. -/
def roomless (state : FirstFit) (position : Nat) : FirstFit :=
  match state.director.lesson? position with
  | none => state
  | some lesson =>
      if state.director.timetable.isFinal then state
      else { state with director := state.director.assign position (inRoom lesson none) }

theorem place_refused (state : FirstFit) (position : Nat) :
    RefusedOnly (place position) state (placeFault? state position) state := by
  unfold RefusedOnly placeFault?
  cases found : state.director.lesson? position with
  | none => exact ⟨state.director.score, state, by simp [place, EStateM.run_bind, found]⟩
  | some lesson =>
      dsimp only
      by_cases noSlots : state.slots = []
      · rw [if_pos noSlots]
        simp only [place, EStateM.run_bind, EStateM.run_get, found, noSlots, List.isEmpty_nil, ↓reduceIte]
        rfl
      · rw [if_neg noSlots]
        by_cases final : state.director.timetable.isFinal = true
        · rw [if_pos final]
          simp only [place, EStateM.run_bind, EStateM.run_get, found, List.isEmpty_iff, noSlots, final,
            ↓reduceIte]
          rfl
        · rw [if_neg final]
          exact place_succeeds ⟨Bool.eq_false_iff.2 final, noSlots⟩ position

theorem place_room_refused (state : FirstFit) (position : Nat) :
    RefusedOnly (placeRoom position) state (roomFault? state position) (roomless state position) := by
  unfold RefusedOnly roomFault? roomless
  cases found : state.director.lesson? position with
  | none => exact ⟨state.director.score, state, by simp [placeRoom, EStateM.run_bind, found]⟩
  | some lesson =>
      dsimp only
      by_cases final : state.director.timetable.isFinal = true
      · rw [if_pos final, if_pos final]
        simp only [placeRoom, EStateM.run_bind, EStateM.run_get, found, final, ↓reduceIte]
        rfl
      · rw [if_neg final, if_neg final]
        by_cases noRooms : lesson.candidateRooms = []
        · rw [if_pos noRooms]
          simp only [placeRoom, EStateM.run_bind, EStateM.run_get, found, final, noRooms, List.map_nil,
            tryPlacements, EStateM.run_set, ↓reduceIte, Bool.false_eq_true]
          rfl
        · rw [if_neg noRooms]
          exact place_room_succeeds (Bool.eq_false_iff.2 final) found noRooms

/-- What can be asked for on a construction. Variables that are set together have different names. -/
inductive Request where
  | setVariables (position : Nat) (settings : List Setting)
      (distinct : (settings.map Setting.variableName).Nodup)
  | setVariable (position : Nat) (setting : Setting)
  | makeMove (move : Move)
  | restore (snapshot : Snapshot)
  | place (position : Nat)
  | placeRoom (position : Nat)

namespace Request

def run : Request → Construction Unit
  | .setVariables position settings _ =>
      discard <| Operation.onConstruction (Operation.setVariables position settings)
  | .setVariable position setting => discard <| Operation.onConstruction (Operation.setVariable position setting)
  | .makeMove move => discard <| Operation.onConstruction (Operation.makeMove move)
  | .restore snapshot => Operation.onConstruction (Operation.restore snapshot)
  | .place position => discard <| FirstFit.place position
  | .placeRoom position => discard <| FirstFit.placeRoom position

/-- Why a request is refused, if it is. -/
def fault? (state : FirstFit) : Request → Option PlanningFault
  | .setVariables _ settings _ => Operation.changeFault? state.director.timetable settings
  | .setVariable _ setting => Operation.changeFault? state.director.timetable [setting]
  | .makeMove move => Operation.moveFault? state.director move
  | .restore snapshot => Operation.restoreFault? state.director.timetable snapshot
  | .place position => placeFault? state position
  | .placeRoom position => roomFault? state position

def leftBy (state : FirstFit) : Request → FirstFit
  | .placeRoom position => roomless state position
  | _ => state

theorem refused_only (request : Request) (state : FirstFit) :
    RefusedOnly request.run state (request.fault? state) (request.leftBy state) := by
  cases request with
  | setVariables position settings distinct =>
      exact (Operation.refused_on_construction
        (Operation.set_variables_refused distinct state.director position)).discard
  | setVariable position setting =>
      exact (Operation.refused_on_construction
        (Operation.set_variable_refused state.director position setting)).discard
  | makeMove move =>
      exact (Operation.refused_on_construction (Operation.make_move_refused move state.director)).discard
  | restore snapshot =>
      exact Operation.refused_on_construction (Operation.restore_refused snapshot state.director)
  | place position => exact (place_refused state position).discard
  | placeRoom position => exact (place_room_refused state position).discard

/-- A room is asked for a lesson that holds one without having candidates, on a timetable that is not final. -/
structure GivesUpRoom (request : Request) (state : FirstFit) (position : Nat) (lesson : Lesson) : Prop where
  asks : request = .placeRoom position
  found : state.director.lesson? position = some lesson
  working : state.director.timetable.isFinal = false
  noCandidates : lesson.candidateRooms = []
  holds : lesson.room ≠ none

variable {state : FirstFit} {position : Nat} {lesson : Lesson}

theorem roomless_of_working (found : state.director.lesson? position = some lesson)
    (working : state.director.timetable.isFinal = false) :
    roomless state position = { state with director := state.director.assign position (inRoom lesson none) } := by
  unfold roomless
  rw [found]
  exact if_neg (Bool.eq_false_iff.1 working)

theorem roomless_of_no_room {fault : PlanningFault} (faulty : roomFault? state position = some fault)
    (keeps : ∀ lesson, ¬ (Request.placeRoom position).GivesUpRoom state position lesson) :
    roomless state position = state := by
  unfold roomFault? at faulty
  unfold roomless
  cases found : state.director.lesson? position with
  | none => rfl
  | some lesson =>
      rw [found] at faulty
      dsimp only at faulty ⊢
      by_cases final : state.director.timetable.isFinal = true
      · exact if_pos final
      · rw [if_neg final] at faulty ⊢
        split at faulty
        · rename_i noCandidates
          have bare : lesson.room = none := by
            by_contra holds
            exact keeps lesson ⟨rfl, found, Bool.eq_false_iff.2 final, noCandidates, holds⟩
          have same : inRoom lesson none = lesson.placement := by
            rw [← bare]
            rfl
          have unchanged : state.director.assign position (inRoom lesson none) = state.director := by
            unfold Director.assign
            rw [found]
            exact if_pos same
          rw [unchanged]
        · cases faulty

theorem assign_no_room_changes (found : state.director.lesson? position = some lesson)
    (holds : lesson.room ≠ none) :
    (state.director.assign position (inRoom lesson none)).timetable ≠ state.director.timetable := by
  intro same
  have there : (state.director.assign position (inRoom lesson none)).lesson? position =
      some (lesson.placed (inRoom lesson none)) := by
    unfold Director.lesson? at found ⊢
    rw [Director.assign_lessons, Director.placedAt, List.getElem?_modify_eq, found]
    rfl
  unfold Director.lesson? at there found
  rw [same, found] at there
  exact holds (congrArg Lesson.room (Option.some.inj there))

end Request

/-- A request that is refused is refused for its fault and leaves everything as it was, except where a room is asked
for a lesson that holds one without having candidates: then the lesson is left without its room. -/
theorem refused_requests_change_nothing_unless_room_given_up {request : Request} {state after : FirstFit}
    {fault : PlanningFault} (refused : request.run.run state = .error fault after) :
    request.fault? state = some fault ∧
      ((∀ position lesson, ¬ request.GivesUpRoom state position lesson) → after = state) ∧
      ∀ position lesson, request.GivesUpRoom state position lesson →
        fault = .noCandidateRooms lesson.id ∧
        after = { state with director := state.director.assign position (inRoom lesson none) } ∧
        after.director.timetable ≠ state.director.timetable := by
  obtain ⟨faulty, rfl⟩ := (request.refused_only state).of_refused refused
  refine ⟨faulty, fun keeps => ?_, fun position lesson gives => ?_⟩
  · cases request with
    | placeRoom position => exact Request.roomless_of_no_room faulty (keeps position)
    | _ => rfl
  · obtain rfl := gives.asks
    have left := Request.roomless_of_working gives.found gives.working
    refine ⟨?_, left, ?_⟩
    · change roomFault? state position = some fault at faulty
      unfold roomFault? at faulty
      rw [gives.found] at faulty
      dsimp only at faulty
      rw [if_neg (Bool.eq_false_iff.1 gives.working), if_pos gives.noCandidates] at faulty
      exact (Option.some.inj faulty).symm
    · change (roomless state position).director.timetable ≠ _
      rw [left]
      exact Request.assign_no_room_changes gives.found gives.holds

/-- A lesson that is held in a closet which is too small for its class, and that has no candidate rooms. -/
def closetHour : Timetable :=
  let meier : Teacher := ⟨"meier", "Meier", none, 20, [], [], [("maths", [5])]⟩
  let maths : Subject := ⟨"maths", "Maths", none⟩
  let fifth : SchoolClass := ⟨"5a", "5a", 5, some 28, none⟩
  let closet : Room := ⟨"closet", "Closet", some 5, []⟩
  let early : TimeSlot := ⟨"monday-1", 0, 1, none, none⟩
  { term := "autumn"
    slots := [early]
    rooms := [closet]
    teachers := [meier]
    classes := [fifth]
    subjects := [maths]
    lessons := [⟨"held", fifth, maths, .every, [meier], [], ⟨some early, some closet, some meier⟩⟩]
    score := none
    isFinal := false }

/-- The room that is given up is not taken again when no candidate is found, and its conflict is gone with it. -/
theorem held_hour_loses_its_room :
    let state := ofDirector (.ofTimetable closetHour .standard)
    state.director.Consistent ∧ state.director.timetable = closetHour ∧ state.director.score = ⟨-1, 0⟩ ∧
      ∃ after, (Request.placeRoom 0).run.run state = .error (.noCandidateRooms "held") after ∧
        after.director.timetable.snapshot.map (·.room) = [none] ∧
        closetHour.snapshot.map (·.room) = [some ⟨"closet", "Closet", some 5, []⟩] ∧
        after.director.score = ⟨0, 0⟩ := by
  intro state
  have consistent : state.director.Consistent := Director.consistent_of_timetable closetHour .standard
  have same : state.director.timetable = closetHour := Director.of_timetable_timetable ..
  have weights : state.director.weights = .standard := Director.of_timetable_weights ..
  have found : state.director.lesson? 0 = some (closetHour.lessons.head (by decide)) := by
    rw [Director.lesson?, same]
    rfl
  have working : state.director.timetable.isFinal = false := by
    rw [same]
    rfl
  have faulty : (Request.placeRoom 0).fault? state = some (.noCandidateRooms "held") := by
    change roomFault? state 0 = _
    unfold roomFault?
    rw [found]
    dsimp only
    rw [if_neg (Bool.eq_false_iff.1 working)]
    rfl
  have refused := (Request.placeRoom 0).refused_only state
  rw [faulty] at refused
  let bare := state.director.assign 0 (inRoom (closetHour.lessons.head (by decide)) none)
  have left : roomless state 0 = { state with director := bare } := Request.roomless_of_working found working
  have written : bare.timetable.lessons =
      Director.placedAt closetHour.lessons 0 (inRoom (closetHour.lessons.head (by decide)) none) := by
    rw [Director.assign_lessons, same]
  have bareWeights : bare.weights = .standard := (Director.assign_weights ..).trans weights
  refine ⟨consistent, same, ?_, roomless state 0, refused, ?_, by decide, ?_⟩
  · rw [consistent.scored, Director.recalculate, same, weights]
    decide +kernel
  · rw [left, Timetable.snapshot, written]
    decide
  · rw [left, (consistent.assign 0 _).scored, Director.recalculate, Timetable.fullScore, written, bareWeights]
    decide +kernel

theorem unknown_variable_leaves_closet_hour :
    let state := ofDirector (.ofTimetable closetHour .standard)
    let request : Request := .setVariables 0 [.room none, .unknown "day"] (by decide)
    ∃ after, request.run.run state = .error (.unknownVariable "day") after ∧
      request.fault? state = some (.unknownVariable "day") ∧ after = state := by
  intro state request
  have same : state.director.timetable = closetHour := Director.of_timetable_timetable ..
  have faulty : request.fault? state = some (.unknownVariable "day") := by
    change Operation.changeFault? state.director.timetable [.room none, .unknown "day"] = _
    rw [same]
    rfl
  have refused := request.refused_only state
  rw [faulty] at refused
  obtain ⟨fault, untouched, -⟩ := refused_requests_change_nothing_unless_room_given_up refused
  exact ⟨_, refused, fault, untouched fun position lesson gives => nomatch gives.asks⟩

end FirstFit

end SchoolTimetable
