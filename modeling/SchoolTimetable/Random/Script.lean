import SchoolTimetable.Number.Decimal
import SchoolTimetable.Random.Source

/-!
A source of draws that was written out beforehand. Each draw takes one entry: as a position it counts
around the bound, as a fraction and as a weighted position it stands for itself.
-/

namespace SchoolTimetable

structure Script where
  entries : List Float
  used : Nat
deriving Repr

namespace Script

def ofEntries (entries : List Float) : Script := ⟨entries, 0⟩

def take : Drawing Script Float := do
  let script ← get
  match script.entries with
  | [] => throw .drawsExhausted
  | entry :: rest =>
      set (Script.mk rest (script.used + 1))
      return entry

def around (bound : Nat) (positive : 0 < bound) (value : Int) : Fin bound :=
  ⟨(value % bound).toNat, by
    have lower : 0 ≤ value % bound := Int.emod_nonneg _ (by omega)
    have upper : value % bound < bound := Int.emod_lt_of_pos _ (by omega)
    omega⟩

instance : RandomSource Script where
  below bound positive := do
    let entry ← take
    return around bound positive ((Number.toInt? entry).getD 0)
  fraction := take
  weighted _ := do
    let entry ← take
    return ((Number.toInt? entry).getD 0).toNat

end Script

end SchoolTimetable
