/-!
Hexadecimal digits of codes, in small letters.
-/

namespace SchoolTimetable.Text

def lastHexDigits : Nat → Nat → List Char
  | 0, _ => []
  | count + 1, value => lastHexDigits count (value / 16) ++ [Nat.digitChar (value % 16)]

theorem last_hex_digits_length (count value : Nat) : (lastHexDigits count value).length = count := by
  induction count generalizing value with
  | zero => rfl
  | succ count hypothesis => simp [lastHexDigits, hypothesis]

end SchoolTimetable.Text
