import SchoolTimetable.Proofs.Sequencing
import SchoolTimetable.Random.Twister

/-!
Sources that never come to their end. They answer every draw, and a weighted position that they give
is that of one of the weights; the twister is such a source, whatever its words are.
-/

namespace SchoolTimetable

/-- A source that refuses no draw and gives weighted positions only among the weights. -/
structure Inexhaustible (Source : Type) [RandomSource Source] : Prop where
  below : ∀ (bound : Nat) (positive : 0 < bound) (source : Source),
    ∃ position after, (RandomSource.below bound positive).run source = .ok position after
  fraction : ∀ source : Source, ∃ drawn after, RandomSource.fraction.run source = .ok drawn after
  weighted : ∀ weights ≠ [], ∀ source : Source, ∃ position after,
    (RandomSource.weighted weights).run source = .ok position after ∧ position < weights.length

namespace Inexhaustible

variable {Source : Type} [RandomSource Source]

theorem choose (inexhaustible : Inexhaustible Source) {Member : Type} {members : List Member}
    (someMembers : members ≠ []) (source : Source) :
    ∃ chosen after, (RandomSource.choose members).run source = .ok chosen after := by
  have nonempty : 0 < members.length := List.length_pos_iff.2 someMembers
  obtain ⟨position, after, drawn⟩ := inexhaustible.below members.length nonempty source
  unfold RandomSource.choose
  rw [dif_pos nonempty]
  exact ⟨members[position], after, run_bind_ok.2 ⟨position, after, drawn, rfl⟩⟩

end Inexhaustible

namespace Twister

/-- The cumulated weights that are collected one by one, the last one in front. -/
private theorem sums_length (weights : List Nat) (start : Nat × List Nat) :
    (weights.foldl (fun (total, sums) weight => (total + weight, (total + weight) :: sums)) start).2.length =
      start.2.length + weights.length := by
  induction weights generalizing start with
  | nil => rfl
  | cons weight rest ih =>
      rw [List.foldl_cons, ih, List.length_cons, List.length_cons]
      omega

theorem weighted_position_lt {weights : List Nat} (someWeights : weights ≠ []) (fraction : Float) :
    weightedPosition weights fraction < weights.length := by
  have positive := List.length_pos_iff.2 someWeights
  have counted := sums_length weights (0, [])
  unfold weightedPosition
  -- The last sum is never compared, so not all of the weights can be passed over.
  refine Nat.lt_of_le_of_lt (List.takeWhile_prefix _).length_le ?_
  rw [List.length_reverse, List.length_drop, counted, List.length_nil]
  omega

theorem inexhaustible : Inexhaustible Twister where
  below _ _ _ := ⟨_, _, rfl⟩
  fraction _ := ⟨_, _, rfl⟩
  weighted weights someWeights source :=
    ⟨weightedPosition weights source.drawFraction.1, source.drawFraction.2, rfl,
      weighted_position_lt someWeights _⟩

end Twister

structure Wheel where
  numbers : List Nat
  used : Nat
deriving DecidableEq

namespace Wheel

def turn : Drawing Wheel Nat := do
  let wheel ← get
  set { wheel with used := wheel.used + 1 }
  return wheel.numbers[wheel.used % wheel.numbers.length]?.getD 0

instance : RandomSource Wheel where
  below bound positive := return ⟨(← turn) % bound, Nat.mod_lt _ positive⟩
  fraction := return 1 / (1 + (← turn).toFloat)
  weighted weights := return (← turn) % weights.length

theorem inexhaustible : Inexhaustible Wheel where
  below _ _ _ := ⟨_, _, rfl⟩
  fraction _ := ⟨_, _, rfl⟩
  weighted _ someWeights _ := ⟨_, _, rfl, Nat.mod_lt _ (List.length_pos_iff.2 someWeights)⟩

end Wheel

end SchoolTimetable
