/-!
Decimal texts of binary floating-point numbers. A finite number is decoded into its exact value,
a whole significand times a power of two, and all digits are chosen by whole-number arithmetic:
the fewest digits that read back as the same number, or a fixed number of places rounded to the
nearest, ties to even.
-/

namespace SchoolTimetable.Number

/-- The exact value of a finite number: `significand * 2 ^ exponent`, with its sign. -/
structure Dyadic where
  negative : Bool
  significand : Nat
  exponent : Int
deriving DecidableEq

/-- The exact value of a number, none for the infinities and for what is not a number. -/
def Dyadic.ofFloat? (value : Float) : Option Dyadic :=
  let bits : Nat := value.toBits.toNat
  let negative := bits / Nat.pow 2 63 == 1
  let field : Nat := bits / Nat.pow 2 52 % 2048
  let fraction : Nat := bits % Nat.pow 2 52
  if field = 2047 then none
  else if field = 0 then some ⟨negative, fraction, -1074⟩
  else some ⟨negative, fraction + Nat.pow 2 52, (field : Int) - 1075⟩

structure Decimal where
  digits : Nat
  exponent : Int
deriving DecidableEq, Repr

/-- The number of decimal digits of a whole number; zero has one. -/
def digitCount (value : Nat) : Nat := (Nat.toDigits 10 value).length

/-- The nearest whole number to a quotient, of two nearest the even one. -/
def roundQuotient (numerator denominator : Nat) : Nat :=
  let floor := numerator / denominator
  let rest := 2 * (numerator % denominator)
  if rest < denominator then floor
  else if denominator < rest then floor + 1
  else if floor % 2 = 0 then floor
  else floor + 1

def powerFraction (base : Nat) (exponent : Int) : Nat × Nat :=
  if 0 ≤ exponent then (Nat.pow base exponent.toNat, 1) else (1, Nat.pow base (-exponent).toNat)

/-- The magnitude of an exact value as a fraction, numerator first. -/
def Dyadic.fraction (value : Dyadic) : Nat × Nat :=
  let (up, down) := powerFraction 2 value.exponent
  (value.significand * up, down)

/-- The exponent `k` with `10 ^ k ≤ numerator / denominator < 10 ^ (k + 1)` of a positive fraction. -/
def decimalExponent (numerator denominator : Nat) : Int :=
  if denominator ≤ numerator then (digitCount (numerator / denominator) : Int) - 1
  else
    let places := digitCount (denominator / numerator)
    if denominator ≤ numerator * Nat.pow 10 (places - 1) then -((places : Int) - 1) else -(places : Int)

/-- The numbers that read back as a given one form an interval around it: its ends as multiples of
a quarter of the last binary place, and whether the ends belong to it. -/
def Dyadic.readBack (value : Dyadic) : Nat × Nat × Bool :=
  let narrow := value.significand == Nat.pow 2 52 && (-1074 : Int) < value.exponent
  (4 * value.significand - (if narrow then 1 else 2), 4 * value.significand + 2,
    value.significand % 2 == 0)

/-- The value among a decimal grid point and the next that reads back and lies nearest, if any. -/
def Dyadic.onGrid? (value : Dyadic) (exponent : Int) : Option Decimal :=
  let (up, down) := powerFraction 2 (value.exponent - 2)
  let (gridUp, gridDown) := powerFraction 10 exponent
  let (low, high, closed) := value.readBack
  let exact := 4 * value.significand * up * gridDown
  let unit := down * gridUp
  let lowest := low * up * gridDown
  let highest := high * up * gridDown
  let inside := fun point : Nat =>
    if closed then lowest ≤ point && point ≤ highest else lowest < point && point < highest
  let floor := exact / unit
  let below := inside (floor * unit)
  let above := inside ((floor + 1) * unit)
  let nearer := roundQuotient exact unit
  if below && above then some ⟨nearer, exponent⟩
  else if below then some ⟨floor, exponent⟩
  else if above then some ⟨floor + 1, exponent⟩
  else none

def Decimal.trimZeros : Nat → Decimal → Decimal
  | 0, value => value
  | steps + 1, value =>
      if value.digits ≠ 0 ∧ value.digits % 10 = 0 then
        trimZeros steps ⟨value.digits / 10, value.exponent + 1⟩
      else value

/-- The decimal with the fewest digits that reads back as the value, and of those the nearest. A
number has at most seventeen digits, so the exact grid is never reached. -/
def Dyadic.shortest (value : Dyadic) : Decimal :=
  if value.significand = 0 then ⟨0, 0⟩
  else
    let (numerator, denominator) := value.fraction
    let leading := decimalExponent numerator denominator
    let grids := (List.range 17).map fun digits : Nat => leading - (digits : Int)
    let found := (grids.findSome? value.onGrid?).getD ⟨numerator / denominator, 0⟩
    found.trimZeros 20

/-- How a number is written: from which and up to which decimal exponent without an exponent, and
how the exponent is written where there is one. -/
structure NumberStyle where
  leastPositional : Int
  greatestPositional : Int
  exponentText : Int → String

/-- Digits with a point after the first `whole` of them, filled with zeros on either side. -/
def placePoint (digits : List Char) (whole : Int) : List Char :=
  if whole ≤ 0 then '0' :: '.' :: (List.replicate (-whole).toNat '0' ++ digits)
  else if digits.length ≤ whole.toNat then
    digits ++ List.replicate (whole.toNat - digits.length) '0' ++ ['.', '0']
  else digits.take whole.toNat ++ '.' :: digits.drop whole.toNat

def Decimal.text (style : NumberStyle) (value : Decimal) : String :=
  let digits := Nat.toDigits 10 value.digits
  let leading := value.exponent + (digits.length : Int) - 1
  if style.leastPositional ≤ leading ∧ leading ≤ style.greatestPositional then
    String.ofList (placePoint digits (leading + 1))
  else
    let mantissa := match digits with
      | first :: second :: rest => first :: '.' :: second :: rest
      | short => short
    String.ofList mantissa ++ style.exponentText leading

/-- Documents write numbers from 0.00001 up to below 10 ^ 16 without an exponent, and the exponent
of all others with its sign and without leading zeros. -/
def documentStyle : NumberStyle :=
  ⟨-5, 15, fun exponent => if exponent < 0 then s!"e{exponent}" else s!"e+{exponent}"⟩

/-- A number as documents write it; one without a finite value is written as null. -/
def documentText (value : Float) : String :=
  match Dyadic.ofFloat? value with
  | none => "null"
  | some exact => (if exact.negative then "-" else "") ++ exact.shortest.text documentStyle

/-- The magnitude in units of the last of the given places, rounded to the nearest, ties to even. -/
def Dyadic.toPlaces (value : Dyadic) (places : Nat) : Nat :=
  let (numerator, denominator) := value.fraction
  roundQuotient (numerator * Nat.pow 10 places) denominator

def fixedText (places : Nat) (value : Float) : String :=
  match Dyadic.ofFloat? value with
  | none => if value.isNaN then "nan" else if value < 0 then "-inf" else "inf"
  | some exact =>
      let digits := Nat.toDigits 10 (exact.toPlaces places)
      let padded := List.replicate (places + 1 - digits.length) '0' ++ digits
      let whole := padded.length - places
      let point := if places = 0 then [] else ['.']
      (if exact.negative then "-" else "") ++
        String.ofList (padded.take whole ++ point ++ padded.drop whole)

/-- The number nearest to a value of the given decimal digits and exponent. Beyond the range of
finite numbers it is infinite or zero, decided without forming the power of ten. -/
def ofDecimal (digits : Nat) (exponent : Int) : Float :=
  if digits = 0 then 0
  else
    let leading := exponent + (digitCount digits : Int) - 1
    if 400 < leading then 1.0 / 0.0
    else if leading < -400 then 0
    else if exponent < 0 then Float.ofScientific digits true exponent.natAbs
    else Float.ofScientific digits false exponent.natAbs

/-- The number rounded to a count of decimal places by its exact value, ties to even. -/
def roundPlaces (places : Nat) (value : Float) : Float :=
  match Dyadic.ofFloat? value with
  | none => value
  | some exact =>
      let magnitude := ofDecimal (exact.toPlaces places) (-(places : Int))
      if exact.negative then -magnitude else magnitude

/-- At most six significant digits without zeros at the end, with an exponent of at least two
digits where the number is below 0.0001 or has more than six digits before the point. -/
def generalText (value : Float) : String :=
  match Dyadic.ofFloat? value with
  | none => if value.isNaN then "nan" else if value < 0 then "-inf" else "inf"
  | some exact =>
      let sign := if exact.negative then "-" else ""
      if exact.significand = 0 then sign ++ "0"
      else
        let (numerator, denominator) := exact.fraction
        let guess := decimalExponent numerator denominator
        let (up, down) := powerFraction 10 (5 - guess)
        let rounded := roundQuotient (numerator * up) (denominator * down)
        let leading := if digitCount rounded = 7 then guess + 1 else guess
        let trimmed := Decimal.trimZeros 7 ⟨rounded, guess - 5⟩
        let digits := Nat.toDigits 10 trimmed.digits
        if -4 ≤ leading ∧ leading < 6 then
          let text := placePoint digits (leading + 1)
          let whole := if digits.length ≤ (leading + 1).toNat then text.dropLast.dropLast else text
          sign ++ String.ofList whole
        else
          let mantissa := match digits with
            | first :: second :: rest => first :: '.' :: second :: rest
            | short => short
          let exponentDigits := Nat.toDigits 10 leading.natAbs
          let padded := List.replicate (2 - exponentDigits.length) '0' ++ exponentDigits
          sign ++ String.ofList mantissa ++ (if leading < 0 then "e-" else "e+") ++
            String.ofList padded

/-- The nearest number to a whole number, none beyond the range of finite numbers. -/
def ofInt? (value : Int) : Option Float :=
  let magnitude := if digitCount value.natAbs ≤ 400 then Float.ofScientific value.natAbs false 0
    else 1.0 / 0.0
  if magnitude.isInf then none else some (if value < 0 then -magnitude else magnitude)

/-- The whole number that a finite number without a fraction stands for. -/
def toInt? (value : Float) : Option Int :=
  match Dyadic.ofFloat? value with
  | none => none
  | some exact =>
      let (numerator, denominator) := exact.fraction
      if numerator % denominator = 0 then
        let magnitude : Int := numerator / denominator
        some (if exact.negative then -magnitude else magnitude)
      else none

def wholePart? (value : Float) : Option Int :=
  (Dyadic.ofFloat? value).map fun exact =>
    let (numerator, denominator) := exact.fraction
    let magnitude : Int := numerator / denominator
    if exact.negative then -magnitude else magnitude

end SchoolTimetable.Number
