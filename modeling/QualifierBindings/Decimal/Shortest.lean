/-! Decimal text of binary floating-point numbers. A finite number is written with
the fewest digits that still identify it among all doubles, the nearest such
decimal if there are several, in positional or in scientific notation. A format
settles the rest: which of two equally near decimals is taken, and which numbers are
written positionally.
-/

namespace QualifierBindings.Decimal

/-- A positive number `mantissa * 2 ^ exponent`, with the size of the gap below it. -/
structure Binary where
  mantissa : Nat
  exponent : Int
  /-- Whether the next smaller double is only half as far away as the next larger one. -/
  narrowBelow : Bool

/-- A positive number `digits * 10 ^ exponent`. -/
structure Number where
  digits : Nat
  exponent : Int
deriving DecidableEq

def Binary.ofBits (bits : Nat) : Binary :=
  let fraction : Nat := bits % Nat.pow 2 52
  let biased : Nat := bits / Nat.pow 2 52 % Nat.pow 2 11
  if biased = 0 then { mantissa := fraction, exponent := -1074, narrowBelow := false }
  else
    { mantissa := Nat.pow 2 52 + fraction, exponent := Int.ofNat biased - 1075,
      narrowBelow := fraction = 0 && 1 < biased }

/-- `a * 10 ^ p` and `b * 2 ^ q` brought to a common scale. -/
def scaled (a : Nat) (p : Int) (b : Nat) (q : Int) : Nat × Nat :=
  (a * Nat.pow 10 p.toNat * Nat.pow 2 (-q).toNat, b * Nat.pow 2 q.toNat * Nat.pow 10 (-p).toNat)

/-- Whether a decimal rounds to the given double: it lies between the midpoints to
the neighbouring doubles, the midpoints included when the mantissa is even. -/
def identifies (x : Binary) (d : Number) : Bool :=
  let below := if x.narrowBelow then 4 * x.mantissa - 1 else 4 * x.mantissa - 2
  let low := scaled d.digits d.exponent below (x.exponent - 2)
  let high := scaled d.digits d.exponent (4 * x.mantissa + 2) (x.exponent - 2)
  if x.mantissa % 2 = 0 then low.2 ≤ low.1 && high.1 ≤ high.2
  else low.2 < low.1 && high.1 < high.2

/-- The largest multiple of `10 ^ p` that does not exceed the number, in such units. -/
def unitsBelow (x : Binary) (p : Int) : Nat :=
  let pair := scaled 1 p x.mantissa x.exponent
  pair.2 / pair.1

/-- Which of two neighbouring decimals is taken when both are equally near. -/
inductive Tie where
  /-- The one further away from zero. -/
  | up
  /-- The one whose last digit is even. -/
  | toEven
deriving DecidableEq

/-- Whether a tie is settled in favour of the lower neighbour, given its digits. -/
def Tie.keepsLower (tie : Tie) (digits : Nat) : Bool :=
  tie = .toEven && digits % 2 = 0

/-- Of the two multiples of `10 ^ p` around the number, the nearer one that
identifies it. -/
def nearestOnGrid? (tie : Tie) (x : Binary) (p : Int) : Option Number :=
  let down : Number := { digits := unitsBelow x p, exponent := p }
  let up : Number := { digits := unitsBelow x p + 1, exponent := p }
  -- half a unit above the lower multiple, both sides doubled
  let middle := scaled (2 * down.digits + 1) p (2 * x.mantissa) x.exponent
  match identifies x down, identifies x up with
  | true, true =>
      if middle.2 < middle.1 || (middle.2 = middle.1 && tie.keepsLower down.digits) then some down
      else some up
  | true, false => some down
  | false, true => some up
  | false, false => none

/-- The number of digits before the decimal point, negative for leading zeros after it. -/
def magnitude (x : Binary) : Int :=
  -- every positive double lies between `10 ^ (-325)` and `10 ^ 315`
  match (List.range 640).find? (fun k =>
      let pair := scaled 1 (Int.ofNat k - 325) x.mantissa x.exponent
      pair.2 < pair.1) with
  | some k => Int.ofNat k - 325
  | none => 315

/-- The decimal with the fewest digits that identifies the number. Seventeen digits
always suffice; the power of ten just above the number is tried first. -/
def shortest (tie : Tie) (x : Binary) : Number :=
  let size := magnitude x
  match (List.range 18).findSome? (fun n => nearestOnGrid? tie x (size - Int.ofNat n)) with
  | some decimal => decimal
  | none => { digits := unitsBelow x (size - 17), exponent := size - 17 }

/-- Positional notation with at least one digit on each side of the point. -/
def positional (d : Number) : String :=
  let digits := Nat.toDigits 10 d.digits
  if 0 ≤ d.exponent then
    String.ofList (digits ++ List.replicate d.exponent.toNat '0') ++ ".0"
  else
    let places := (-d.exponent).toNat
    let padded := List.replicate (places + 1 - digits.length) '0' ++ digits
    String.ofList (padded.take (padded.length - places)) ++ "."
      ++ String.ofList (padded.drop (padded.length - places))

/-- Scientific notation with one digit before the point and no point after a lone
digit. The exponent has a sign and no leading zeros. -/
def scientific (d : Number) : String :=
  let digits := Nat.toDigits 10 d.digits
  let fraction := digits.drop 1
  let exponent := d.exponent + Int.ofNat fraction.length
  String.ofList (digits.take 1)
    ++ (if fraction.isEmpty then "" else "." ++ String.ofList fraction)
    ++ "e" ++ (if exponent < 0 then "-" else "+") ++ toString exponent.natAbs

/-- What the digits of a number leave open about its text. -/
structure Format where
  tie : Tie
  /-- Whether a number with so many digits before its point is written positionally;
  leading zeros after the point count below zero. -/
  isPositional : Int → Bool

namespace Format

/-- Every number is written positionally, and of two equally near decimals the one
further away from zero is taken. -/
def plain : Format :=
  { tie := .up, isPositional := fun _ => true }

/-- Positional notation goes from `0.00001` up to sixteen digits before the point, and
of two equally near decimals the even one is taken. -/
def compact : Format :=
  { tie := .toEven, isPositional := fun before => -5 < before && before ≤ 16 }

/-- The text of a positive number whose digits are chosen. -/
def write (format : Format) (d : Number) : String :=
  if format.isPositional (d.exponent + Int.ofNat (Nat.toDigits 10 d.digits).length) then
    positional d
  else scientific d

def floatText (format : Format) (x : Float) : String :=
  let bits := x.toBits.toNat
  let size := bits % Nat.pow 2 63
  let sign := if bits < Nat.pow 2 63 then "" else "-"
  if 2047 * Nat.pow 2 52 < size then "NaN"
  else if size = 2047 * Nat.pow 2 52 then sign ++ "inf"
  else if size = 0 then sign ++ "0.0"
  else sign ++ format.write (shortest format.tie (.ofBits size))

end Format

end QualifierBindings.Decimal
