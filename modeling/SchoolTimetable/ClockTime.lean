/-!
Times of day to the microsecond, with or without a zone: the distance of local from universal time.
Two times are comparable only if both or neither have a zone.
-/

namespace SchoolTimetable

def microsPerSecond : Nat := 1000000

def secondsPerDay : Nat := 86400

structure ClockTime where
  micros : Nat
  /-- How many minutes the time is ahead of universal time, where that is known. -/
  zone : Option Int
  micros_lt : micros < secondsPerDay * microsPerSecond
deriving DecidableEq, Repr

namespace ClockTime

inductive Fault where
  | tooShort
  | trailing
  | hourDigits
  | separator
  | minuteDigits
  | secondDigits
  | hourRange
  | minuteRange
  | secondRange
  | fractionDigits
  | fractionRange
  | zoneSign
  | zoneHourDigits
  | zoneMinuteDigits
  | zoneMinuteRange
  | zoneRange
  | negative
  | pastMidnight
  | notNumber
deriving DecidableEq, Repr

def Fault.message : Fault → String
  | .tooShort => "input is too short"
  | .trailing => "unexpected extra characters at the end of the input"
  | .hourDigits => "invalid character in hour"
  | .separator => "invalid time separator, expected `:`"
  | .minuteDigits => "invalid character in minute"
  | .secondDigits => "invalid character in second"
  | .hourRange => "hour value is outside expected range of 0-23"
  | .minuteRange => "minute value is outside expected range of 0-59"
  | .secondRange => "second value is outside expected range of 0-59"
  | .fractionDigits => "second fraction digits missing after `.`"
  | .fractionRange => "second fraction value is more than 6 digits long"
  | .zoneSign => "invalid timezone sign"
  | .zoneHourDigits => "invalid timezone hour"
  | .zoneMinuteDigits => "invalid timezone minute"
  | .zoneMinuteRange => "timezone minute value is outside expected range of 0-59"
  | .zoneRange => "timezone offset must be less than 24 hours"
  | .negative => "time in seconds should be positive"
  | .pastMidnight => "numeric times may not exceed 86,399 seconds"
  | .notNumber => "NaN values not permitted"

def ofMicros (micros : Nat) (zone : Option Int) : Except Fault ClockTime :=
  if bound : micros < secondsPerDay * microsPerSecond then .ok ⟨micros, zone, bound⟩
  else .error .pastMidnight

/-- The time of day that is given by its parts, each of which has to be in its range. -/
def ofParts (hour minute second micro : Int) : Except Fault ClockTime :=
  if hour < 0 ∨ 23 < hour then .error .hourRange
  else if minute < 0 ∨ 59 < minute then .error .minuteRange
  else if second < 0 ∨ 59 < second then .error .secondRange
  else if micro < 0 ∨ microsPerSecond ≤ micro then .error .fractionRange
  else ofMicros (((hour * 60 + minute) * 60 + second) * microsPerSecond + micro).toNat none

def digitValue (char : Char) : Nat := char.toNat - '0'.toNat

/-- A number of exactly two digits at the front of a text, and a fault for anything else. -/
def twoDigits (fault : Fault) : List Char → Except Fault (Nat × List Char)
  | tens :: ones :: rest =>
      if tens.isDigit && ones.isDigit then .ok (digitValue tens * 10 + digitValue ones, rest)
      else .error fault
  | _ => .error fault

/-- The microseconds that the digits of a fraction of a second stand for, finer ones cut off. -/
def fractionMicros (digits : List Char) : Nat :=
  ((digits ++ List.replicate 6 '0').take 6).foldl (fun value digit => 10 * value + digitValue digit) 0

/-- The microseconds behind the seconds, if a fraction is written: its digits follow a point or a
comma. -/
def readFraction : List Char → Except Fault (Nat × List Char)
  | [] => .ok (0, [])
  | mark :: rest =>
      if mark = '.' || mark = ',' then
        let digits := rest.takeWhile Char.isDigit
        if digits.isEmpty then .error .fractionDigits
        else .ok (fractionMicros digits, rest.dropWhile Char.isDigit)
      else .ok (0, mark :: rest)

def readSeconds : List Char → Except Fault (Nat × List Char)
  | ':' :: rest => do
      let (second, afterSecond) ← twoDigits .secondDigits rest
      if 59 < second then throw .secondRange
      let (micro, afterFraction) ← readFraction afterSecond
      return (second * microsPerSecond + micro, afterFraction)
  | rest => .ok (0, rest)

/-- The minutes of a zone behind its sign: hours and minutes of two digits each, with or without a
colon between them, less than a day in all. -/
def readZoneMinutes (text : List Char) : Except Fault Nat := do
  let (hour, afterHour) ← twoDigits .zoneHourDigits text
  let behindColon := if afterHour.head? = some ':' then afterHour.drop 1 else afterHour
  let (minute, rest) ← twoDigits .zoneMinuteDigits behindColon
  if 59 < minute then throw .zoneMinuteRange
  if 23 < hour then throw .zoneRange
  if rest.isEmpty then return hour * 60 + minute else throw .trailing

/-- A sign that a zone behind universal time may have: a hyphen or the minus sign of mathematics. -/
def isMinus (char : Char) : Bool := char = '-' || char = '−'

/-- The zone at the end of a time, if there is one. A letter may stand for universal time. -/
def readZone : List Char → Except Fault (Option Int)
  | [] => .ok none
  | sign :: rest =>
      if sign = 'Z' || sign = 'z' then
        if rest.isEmpty then .ok (some 0) else .error .trailing
      else if sign = '+' then (readZoneMinutes rest).map fun minutes => some (minutes : Int)
      else if isMinus sign then (readZoneMinutes rest).map fun minutes => some (-(minutes : Int))
      else .error .zoneSign

/-- The hours and minutes at the front of a text, in minutes; both have two digits and a colon stands
between them. -/
def readMinutes (text : List Char) : Except Fault (Nat × List Char) := do
  let (hour, afterHour) ← twoDigits .hourDigits text
  if afterHour.head? ≠ some ':' then throw .separator
  let (minute, rest) ← twoDigits .minuteDigits (afterHour.drop 1)
  if 23 < hour then throw .hourRange
  if 59 < minute then throw .minuteRange
  return (hour * 60 + minute, rest)

/-- Reads hours and minutes, then optionally seconds, a fraction of a second and a zone. -/
def ofText (text : String) : Except Fault ClockTime := do
  if text.utf8ByteSize < 5 then throw .tooShort
  let (minutes, afterMinutes) ← readMinutes text.toList
  let (micros, afterSeconds) ← readSeconds afterMinutes
  let zone ← readZone afterSeconds
  ofMicros (minutes * 60 * microsPerSecond + micros) zone

def ofSeconds (second : Int) (micros : Nat) : Except Fault ClockTime :=
  if second < 0 then .error .negative
  else ofMicros (second.toNat * microsPerSecond + micros) (some 0)

def padded (width value : Nat) : String :=
  let digits := Nat.toDigits 10 value
  String.ofList (List.replicate (width - digits.length) '0' ++ digits)

def clockText (time : ClockTime) : String :=
  let second := time.micros / microsPerSecond
  let micro := time.micros % microsPerSecond
  let whole := s!"{padded 2 (second / 3600)}:{padded 2 (second / 60 % 60)}:{padded 2 (second % 60)}"
  if micro = 0 then whole else s!"{whole}.{padded 6 micro}"

def zoneText (zone : Int) : String :=
  let sign := if zone < 0 then "-" else "+"
  sign ++ padded 2 (zone.natAbs / 60) ++ ":" ++ padded 2 (zone.natAbs % 60)

/-- A time as documents write it: the letter Z marks universal time. -/
def documentText (time : ClockTime) : String :=
  match time.zone with
  | none => time.clockText
  | some zone => time.clockText ++ (if zone = 0 then "Z" else zoneText zone)

/-- A time as messages write it: the distance to universal time follows where it is known. -/
def messageText (time : ClockTime) : String :=
  match time.zone with
  | none => time.clockText
  | some zone => time.clockText ++ zoneText zone

/-- Microseconds since midnight of universal time, given how far the time is ahead of it. -/
def universalMicros (time : ClockTime) (zone : Int) : Int :=
  time.micros - zone * 60 * microsPerSecond

/-- Whether one time lies before another; none if only one of them has a zone. -/
def before? (first second : ClockTime) : Option Bool :=
  match first.zone, second.zone with
  | none, none => some (first.micros < second.micros)
  | some left, some right => some (first.universalMicros left < second.universalMicros right)
  | _, _ => none

end ClockTime

end SchoolTimetable
