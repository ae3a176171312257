/-!
Halves of pairs. A text in code units of sixteen bits writes characters beyond the first 65536 as a
pair of units, and a unit of a pair that stands alone is no character. In a text it is kept as two
characters, the last one there is and another behind it. Where that last character itself is meant it
is kept twice, so that no text of characters is ever taken for one with halves.
-/

namespace SchoolTimetable.Text

def isHalfUnit (unit : Nat) : Bool := 0xd800 ≤ unit && unit < 0xe000

def halfMark : Char := Char.ofNat 0x10ffff

/-- How far the character behind the mark lies above the half that it stands for. -/
def halfDistance : Nat := 0x100000

/-- A character or a half, as a text keeps it. -/
def kept : Char ⊕ Nat → List Char
  | .inl char => if char = halfMark then [halfMark, halfMark] else [char]
  | .inr unit => [halfMark, Char.ofNat (unit + halfDistance)]

def ofUnit (unit : Nat) : Char ⊕ Nat :=
  if isHalfUnit unit then .inr unit else .inl (Char.ofNat unit)

def signs : List Char → List (Char ⊕ Nat)
  | first :: second :: rest =>
      if first = halfMark then
        (if second = halfMark then .inl halfMark else .inr (second.toNat - halfDistance)) :: signs rest
      else .inl first :: signs (second :: rest)
  | short => short.map .inl

def hasHalf (text : String) : Bool := (signs text.toList).any Sum.isRight

def size (text : String) : Nat := (signs text.toList).length

theorem signs_cons {char : Char} (unmarked : char ≠ halfMark) (rest : List Char) :
    signs (char :: rest) = .inl char :: signs rest := by
  cases rest with
  | nil => rfl
  | cons next rest => rw [signs, if_neg unmarked]

theorem signs_of_unmarked {chars : List Char} (unmarked : halfMark ∉ chars) :
    signs chars = chars.map .inl := by
  induction chars with
  | nil => rfl
  | cons char rest ih =>
      obtain ⟨here, behind⟩ := List.ne_and_not_mem_of_not_mem_cons unmarked
      rw [signs_cons here.symm, ih behind, List.map_cons]

theorem no_half_of_unmarked {text : String} (unmarked : halfMark ∉ text.toList) : hasHalf text = false := by
  unfold hasHalf
  rw [signs_of_unmarked unmarked, List.any_map, List.any_eq_false]
  simp

theorem signs_of_kept_half {unit : Nat} (half : isHalfUnit unit = true) (rest : List Char) :
    signs (kept (.inr unit) ++ rest) = .inr unit :: signs rest := by
  have bounds : 0xd800 ≤ unit ∧ unit < 0xe000 := by simpa [isHalfUnit] using half
  have valid : (unit + halfDistance).isValidChar := by
    unfold halfDistance
    exact Or.inr ⟨by omega, by omega⟩
  have code : (Char.ofNat (unit + halfDistance)).toNat = unit + halfDistance := by
    rw [Char.ofNat, dif_pos valid]
    rfl
  have noMark : Char.ofNat (unit + halfDistance) ≠ halfMark := by
    intro same
    have codes := congrArg Char.toNat same
    rw [code] at codes
    have mark : halfMark.toNat = 0x10ffff := rfl
    unfold halfDistance at codes
    omega
  have shown : kept (.inr unit) ++ rest = halfMark :: Char.ofNat (unit + halfDistance) :: rest := rfl
  rw [shown, signs, if_pos rfl, if_neg noMark, code, Nat.add_sub_cancel]

theorem signs_of_kept (held : List (Char ⊕ Nat))
    (halves : ∀ unit, Sum.inr unit ∈ held → isHalfUnit unit = true) : signs (held.flatMap kept) = held := by
  induction held with
  | nil => rfl
  | cons sign rest ih =>
      have behind := ih fun unit listed => halves unit (List.mem_cons_of_mem _ listed)
      rw [List.flatMap_cons]
      cases sign with
      | inl char =>
          by_cases mark : char = halfMark
          · subst mark
            have shown : kept (.inl halfMark) ++ rest.flatMap kept =
                halfMark :: halfMark :: rest.flatMap kept := rfl
            rw [shown, signs, if_pos rfl, if_pos rfl, behind]
          · have alone : kept (.inl char) = [char] := if_neg mark
            rw [alone, List.singleton_append, signs_cons mark, behind]
      | inr unit => rw [signs_of_kept_half (halves unit List.mem_cons_self), behind]

end SchoolTimetable.Text
