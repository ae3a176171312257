import SchoolTimetable.Proofs.Search.PlainSearch
import SchoolTimetable.Proofs.Search.Ranges

/-!
Rounds of the search as rounds of the plain search. Read by what its working timetable holds, a search
makes the rounds of the plain one: the director scores a candidate as an evaluation from scratch does,
and a move that is taken back leaves the assignment that was there before.
-/

namespace SchoolTimetable

variable {base timetable : Timetable} {weights : Weights}

theorem Timetable.Arranges.holding_snapshot (arranges : timetable.Arranges base) :
    base.holding timetable.snapshot = timetable := by
  rw [Timetable.holding, arranges.lessons_with_snapshot]
  exact arranges.facts.symm

theorem Director.Tracks.score_of {director : Director} (tracks : director.Tracks base weights) :
    director.score = base.scoreOf weights director.timetable.snapshot :=
  tracks.score_eq

namespace Move

open Director

theorem applied_of_setting (timetable : Timetable) (position : Nat) (setting : Setting)
    (assignment : Snapshot) :
    (ofSetting timetable position setting).applied assignment =
      assignment.modify position fun placement => setting.apply placement := by
  unfold ofSetting
  cases timetable.lessons[position]? <;> rfl

theorem snapshot_of_change {director moved : Director} {position : Nat} {setting : Setting}
    (changed : director.change position [setting] = .ok moved) :
    moved.timetable.snapshot =
      director.timetable.snapshot.modify position fun placement => setting.apply placement := by
  rw [change_timetable changed]
  unfold Timetable.snapshot writtenBy
  apply List.ext_getElem?
  intro place
  rw [List.getElem?_map, List.getElem?_modify, List.getElem?_modify, List.getElem?_map]
  by_cases here : position = place
  · cases director.timetable.lessons[place]? <;> simp [here]
  · simp [here]

theorem change_applied {director : Director} (working : director.timetable.isFinal = false)
    (timetable : Timetable) (position : Nat) {setting : Setting}
    (known : Setting.unknownName? [setting] = none) :
    ∃ moved, (ofSetting timetable position setting).perform director = .ok moved ∧
      moved.timetable.snapshot =
        (ofSetting timetable position setting).applied director.timetable.snapshot := by
  obtain ⟨moved, changed⟩ := change_of_working position working known
  refine ⟨moved, (perform_of_setting timetable director position setting).trans changed, ?_⟩
  rw [applied_of_setting]
  exact snapshot_of_change changed

theorem swap_applied {director : Director} (working : director.timetable.isFinal = false)
    (first second : Nat) :
    ∃ moved, (Move.swap first second).perform director = .ok moved ∧
      moved.timetable.snapshot = (Move.swap first second).applied director.timetable.snapshot := by
  obtain ⟨moved, performed⟩ := perform_swap_of_working first second working
  refine ⟨moved, performed, ?_⟩
  have held : ∀ place, director.timetable.snapshot[place]? =
      (director.lesson? place).map (·.placement) := fun place => List.getElem?_map
  rcases perform_swap_cases performed with ⟨missing | missing, rfl⟩ |
    ⟨left, right, -, leftFound, rightFound, -, -⟩
  · simp [applied, held, missing]
  · cases found : moved.lesson? first <;> simp [applied, held, missing, found]
  · simp only [applied, held, leftFound, rightFound, Option.map_some]
    rw [perform_swap_timetable leftFound rightFound performed]
    simp only [Timetable.snapshot, List.map_set]
    rfl

/-- A move that may be picked can be made, and makes of the working placements what it makes of the
assignment. -/
theorem perform_applied {director : Director} {move : Move}
    (working : director.timetable.isFinal = false) (offered : move.Offered director.timetable) :
    ∃ moved, move.perform director = .ok moved ∧
      moved.timetable.snapshot = move.applied director.timetable.snapshot := by
  cases offered with
  | slot position slot => exact change_applied working _ position rfl
  | room position _ _ room => exact change_applied working _ position rfl
  | teacher position _ _ teacher => exact change_applied working _ position rfl
  | swap first second => exact swap_applied working first second

end Move

variable {Source : Type}

/-- A search as a plain one, whose assignment is what the working timetable holds. -/
def LocalSearch.plain (search : LocalSearch Source) : PlainSearch Source where
  assignment := search.director.timetable.snapshot
  acceptor := search.acceptor
  source := search.source
  best := search.best
  evaluated := search.evaluated
  accepted := search.accepted
  unimproved := search.unimproved

namespace LocalSearch

variable {search : LocalSearch Source}

theorem start_plain {director : Director} (tracks : director.Tracks base weights)
    (settings : AcceptorSettings) (source : Source) :
    (start settings director source).map plain =
      PlainSearch.start base weights settings director.timetable.snapshot source := by
  unfold start PlainSearch.start
  rw [← tracks.score_of]
  cases Acceptor.ofSettings settings with
  | error fault => rfl
  | ok acceptor =>
      simp only [bind, Except.bind]
      cases acceptor.started director.score <;> rfl

theorem keep_director (search : LocalSearch Source) (moved : Director) :
    (search.keep moved).director = moved := by
  unfold keep
  split <;> rfl

theorem keep_plain {moved : Director} (tracks : moved.Tracks base weights) :
    (search.keep moved).plain = search.plain.adopt base weights moved.timetable.snapshot := by
  unfold keep PlainSearch.adopt
  rw [← tracks.score_of]
  by_cases better : search.best.score < moved.score
  · rw [if_pos better]
    exact (if_pos better).symm
  · rw [if_neg better]
    exact (if_neg better).symm

theorem current_eq (sound : search.Sound base weights) :
    search.current = base.scoreOf weights search.director.timetable.snapshot :=
  sound.current.trans sound.tracks.score_of

theorem end_round_plain (scored : search.current = base.scoreOf weights search.plain.assignment) :
    search.endRound.map plain = search.plain.endRound base weights := by
  unfold endRound PlainSearch.endRound
  rw [← scored]
  dsimp only [plain]
  cases search.acceptor.stepEnded search.current <;> rfl

variable [RandomSource Source]

/-- Whether the next round keeps its candidate; none if it finds no move. -/
def verdict? (search : LocalSearch Source) : Option Bool :=
  match (Move.select search.director.timetable).run search.source with
  | .ok (some move) source =>
      match move.perform search.director with
      | .ok moved =>
          match (search.acceptor.accepts search.current moved.score).run source with
          | .ok kept _ => some kept
          | .error .. => none
      | .error _ => none
  | _ => none

theorem select_plain (sound : search.Sound base weights) :
    search.plain.select base = (Move.select search.director.timetable).run search.source := by
  unfold PlainSearch.select
  dsimp only [plain]
  rw [sound.tracks.arranges.holding_snapshot]

/-- What trying a move comes to. A candidate that is rejected leaves no trace, since the inverse of the
move brings back the placements from which it was made. -/
theorem try_move_cases (sound : search.Sound base weights) (working : base.isFinal = false)
    {move : Move} (offered : move.Offered search.director.timetable) :
    ∃ moved back : Director, moved.Tracks base weights ∧
      moved.timetable.snapshot = move.applied search.director.timetable.snapshot ∧
      move.perform search.director = .ok moved ∧ back.timetable = search.director.timetable ∧
      search.tryMove move =
        match (search.acceptor.accepts search.current moved.score).run search.source with
        | .error fault _ => .error fault
        | .ok true source => .ok ({ search with source := source }.keep moved)
        | .ok false source => .ok { search with source := source, director := back } := by
  have stillWorking := sound.tracks.arranges.isFinal.trans working
  obtain ⟨moved, performed, written⟩ := Move.perform_applied stillWorking offered
  obtain ⟨back, undone, restored⟩ := Move.inverse_undoes offered.recalls performed
  refine ⟨moved, back, sound.tracks.perform performed, written, performed, restored, ?_⟩
  unfold tryMove
  rw [performed]
  simp only [bind, Except.bind]
  cases (search.acceptor.accepts search.current moved.score).run search.source with
  | error fault source => rfl
  | ok kept source =>
      cases kept with
      | true => rfl
      | false =>
          simp only [undone]
          rfl

/-- Trying a move is judging its candidate, and the current score stays that of the assignment. -/
theorem try_move_plain (sound : search.Sound base weights) (working : base.isFinal = false)
    {move : Move} (offered : move.Offered search.director.timetable) :
    (search.tryMove move).map plain = search.plain.tryMove base weights move ∧
      ∀ next, search.tryMove move = .ok next →
        next.current = base.scoreOf weights next.plain.assignment := by
  obtain ⟨moved, back, tracks, written, -, restored, tried⟩ := try_move_cases sound working offered
  have current := current_eq sound
  rw [tried]
  unfold PlainSearch.tryMove PlainSearch.judge
  dsimp only [plain]
  rw [← written, ← current, ← tracks.score_of]
  cases (search.acceptor.accepts search.current moved.score).run search.source with
  | error fault source => exact ⟨rfl, fun next failed => nomatch failed⟩
  | ok kept source =>
      cases kept with
      | true =>
          refine ⟨congrArg Except.ok (keep_plain tracks), fun next done => ?_⟩
          obtain rfl := Except.ok.inj done
          rw [keep_current, keep_director, tracks.score_of]
      | false =>
          refine ⟨congrArg Except.ok ?_, fun next done => ?_⟩
          · simp only [plain, restored]
          · obtain rfl := Except.ok.inj done
            simp only [current, restored]

/-- A round of the search is a round of the plain search, also where it is refused. -/
theorem round_plain (sound : search.Sound base weights) (working : base.isFinal = false) :
    search.round.map plain = search.plain.round base weights := by
  unfold round PlainSearch.round
  rw [select_plain sound]
  cases selected : (Move.select search.director.timetable).run search.source with
  | error fault source => rfl
  | ok move source =>
      have counted : (search.counted source).Sound base weights :=
        ⟨sound.tracks, sound.current, sound.best, sound.fits, sound.atMost⟩
      cases move with
      | none => exact end_round_plain (current_eq counted)
      | some move =>
          obtain ⟨same, scored⟩ := try_move_plain counted working (Move.select_some selected).1
          change ((search.counted source).tryMove move >>= endRound).map plain =
            (search.counted source).plain.tryMove base weights move >>= PlainSearch.endRound base weights
          rw [← same]
          cases tried : (search.counted source).tryMove move with
          | error fault => rfl
          | ok next => exact end_round_plain (scored next tried)

theorem verdict_plain (sound : search.Sound base weights) (working : base.isFinal = false) :
    search.verdict? = search.plain.verdict? base weights := by
  unfold verdict? PlainSearch.verdict?
  rw [select_plain sound]
  cases selected : (Move.select search.director.timetable).run search.source with
  | error fault source => rfl
  | ok move source =>
      cases move with
      | none => rfl
      | some move =>
          obtain ⟨moved, -, tracks, written, performed, -⟩ :=
            try_move_cases sound working (Move.select_some selected).1
          unfold PlainSearch.judge
          dsimp only [plain]
          rw [← written, ← current_eq sound, ← tracks.score_of]
          cases judged : (search.acceptor.accepts search.current moved.score).run source with
          | ok kept after => simp only [performed, judged]
          | error fault after => simp only [performed, judged]

end LocalSearch

end SchoolTimetable
