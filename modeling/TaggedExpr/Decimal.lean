/-! # Numbers as text

The exact value of a binary floating-point number, its decimal digits, and the written forms of
digits.
-/

namespace TaggedExpr.Decimal

/-! ## Binary floating-point numbers

The interchange formats and the numbers that their bit patterns stand for. All later work on the
text of a number is exact arithmetic on the mantissa and exponent found here.
-/

/-- The field widths of an interchange format; the sign takes one more bit above them. -/
structure BinaryFormat where
  fractionBits : Nat
  exponentBits : Nat
deriving DecidableEq, Repr

namespace BinaryFormat

def single : BinaryFormat := ⟨23, 8⟩

def double : BinaryFormat := ⟨52, 11⟩

/-- The exponent of the last place of the smallest numbers. -/
def leastExponent (format : BinaryFormat) : Int :=
  2 - (Nat.pow 2 (format.exponentBits - 1) : Nat) - format.fractionBits

end BinaryFormat

/-- What a bit pattern stands for. A finite datum is `mantissa * 2 ^ exponent` with its sign kept
apart, so that the two zeros differ. -/
inductive Binary where
  | finite (negative : Bool) (mantissa : Nat) (exponent : Int)
  | infinite (negative : Bool)
  | nan
deriving DecidableEq, Repr

/-- The number with the given bits. The largest biased exponent is reserved for infinities and
NaNs, and the smallest has no hidden leading one. -/
def BinaryFormat.decode (format : BinaryFormat) (bits : Nat) : Binary :=
  let fraction := bits % Nat.pow 2 format.fractionBits
  let biased := bits / Nat.pow 2 format.fractionBits % Nat.pow 2 format.exponentBits
  let negative := bits / Nat.pow 2 (format.fractionBits + format.exponentBits) % 2 == 1
  if biased = Nat.pow 2 format.exponentBits - 1 then
    if fraction = 0 then .infinite negative else .nan
  else if biased = 0 then
    .finite negative fraction format.leastExponent
  else
    .finite negative (Nat.pow 2 format.fractionBits + fraction)
      (format.leastExponent + (biased - 1 : Nat))

/-! ## A fixed number of decimal places

Rounds the exact value of a binary number to a given number of places.
-/

/-- The integer nearest to a quotient; a half goes to the even neighbour. -/
def roundHalfEven (numerator denominator : Nat) : Nat :=
  let quotient := numerator / denominator
  let twice := 2 * (numerator % denominator)
  if twice < denominator then quotient
  else if denominator < twice then quotient + 1
  else quotient + quotient % 2

/-- The number `mantissa * 2 ^ exponent` in units of `10 ^ -places`. -/
def inPlaces (mantissa : Nat) (exponent : Int) (places : Nat) : Nat :=
  roundHalfEven (mantissa * Nat.pow 2 exponent.toNat * Nat.pow 10 places)
    (Nat.pow 2 (-exponent).toNat)

example : roundHalfEven 5 2 = 2 ∧ roundHalfEven 7 2 = 4 := by decide

/-! ## The fewest digits that read back

Each binary number is the nearest one to every real in an interval around it. Its shortest text is
the point of the coarsest decimal grid that meets this interval, and of two such points the nearer
one. Everything is compared as natural numbers over a common denominator.
-/

/-- The decimal number `coefficient * 10 ^ exponent`. -/
structure Digits where
  coefficient : Nat
  exponent : Int
deriving DecidableEq, Repr

/-- The reals that round to `value / unit`, as numerators over `unit`. The two ends belong to it
when `closed` holds, which is so when ties are resolved towards this number. -/
structure RoundingInterval where
  low : Nat
  value : Nat
  high : Nat
  unit : Nat
  closed : Bool
deriving DecidableEq, Repr

namespace RoundingInterval

/-- The interval of `mantissa * 2 ^ exponent`. It reaches half way to both neighbours; just below a
power of two the numbers lie twice as close. -/
def ofBinary (format : BinaryFormat) (mantissa : Nat) (exponent : Int) : RoundingInterval :=
  let below := if mantissa = Nat.pow 2 format.fractionBits then 1 else 2
  let scale := Nat.pow 2 exponent.toNat
  { low := (4 * mantissa - below) * scale
    value := 4 * mantissa * scale
    high := (4 * mantissa + 2) * scale
    unit := 4 * Nat.pow 2 (-exponent).toNat
    closed := mantissa % 2 == 0 }

def contains (interval : RoundingInterval) (point : Digits) : Bool :=
  let numerator := point.coefficient * Nat.pow 10 point.exponent.toNat * interval.unit
  let scale := Nat.pow 10 (-point.exponent).toNat
  if interval.closed then
    interval.low * scale ≤ numerator && numerator ≤ interval.high * scale
  else
    interval.low * scale < numerator && numerator < interval.high * scale

/-- The multiple of `10 ^ exponent` in the interval that is nearest to its value; a tie goes up.
Only the two neighbours of the value need a test: if any point of the grid lies inside, one of
them does. -/
def nearest? (interval : RoundingInterval) (exponent : Int) : Option Digits :=
  let numerator := interval.value * Nat.pow 10 (-exponent).toNat
  let step := Nat.pow 10 exponent.toNat * interval.unit
  let below : Digits := ⟨numerator / step, exponent⟩
  let above : Digits := ⟨numerator / step + 1, exponent⟩
  match interval.contains below, interval.contains above with
  | true, true => some (if 2 * (numerator % step) < step then below else above)
  | true, false => some below
  | false, true => some above
  | false, false => none

/-- The point of the coarsest grid that meets the interval, from `10 ^ exponent` on and refining at
most `steps` times. -/
def coarsest (interval : RoundingInterval) : Nat → Int → Digits
  | 0, exponent => ⟨interval.value * Nat.pow 10 (-exponent).toNat /
      (Nat.pow 10 exponent.toNat * interval.unit), exponent⟩
  | steps + 1, exponent =>
    match interval.nearest? exponent with
    | some digits => digits
    | none => interval.coarsest steps (exponent - 1)

end RoundingInterval

/-- The shortest decimal that reads back as `mantissa * 2 ^ exponent`. The search starts above the
number and ends at the latest where the number itself is a grid point. -/
def shortest (format : BinaryFormat) (mantissa : Nat) (exponent : Int) : Digits :=
  if mantissa = 0 then ⟨0, 0⟩
  else
    let interval := RoundingInterval.ofBinary format mantissa exponent
    let top := (Nat.toDigits 10 (interval.high / interval.unit)).length
    interval.coarsest (top + (-exponent).toNat) top

/-! ## Written forms of decimal numbers

Positional and exponent forms of digits, and the text of a number without its sign.
-/

def digitText (n : Nat) : String := String.ofList (Nat.toDigits 10 n)

def zeros (count : Nat) : String := String.ofList (List.replicate count '0')

/-- An integer number of units of `10 ^ -places`, with a point only if there are places after it. -/
def fixedText (units places : Nat) : String :=
  let whole := digitText (units / Nat.pow 10 places)
  if places = 0 then whole
  else
    let fraction := digitText (units % Nat.pow 10 places)
    whole ++ "." ++ zeros (places - fraction.length) ++ fraction

/-- Positional form, never with an exponent. -/
def Digits.positional (digits : Digits) : String :=
  if digits.exponent < 0 then fixedText digits.coefficient (-digits.exponent).toNat
  else if digits.coefficient = 0 then "0"
  else digitText digits.coefficient ++ zeros digits.exponent.toNat

/-- The power of ten of the first digit. -/
def Digits.magnitude (digits : Digits) : Int :=
  digits.exponent + ((Nat.toDigits 10 digits.coefficient).length - 1 : Nat)

/-- One digit before the point, the others after it, and the power of ten. -/
def Digits.scientific (digits : Digits) : String :=
  let fraction := (Nat.toDigits 10 digits.coefficient).drop 1
  let point := if fraction.isEmpty then "" else "."
  String.ofList ((Nat.toDigits 10 digits.coefficient).take 1) ++ point ++ String.ofList fraction ++
    "e" ++ toString digits.magnitude

/-- How the shortest digits of a number are laid out. -/
structure NumberStyle where
  /-- Whole numbers in positional form end in `.0`. -/
  marksWhole : Bool
  /-- Positional form is kept for numbers of a magnitude in this half-open range; a missing range
  means always. Zero is always positional. -/
  positional : Option (Int × Int)
deriving DecidableEq, Repr

/-- Digits in the form that the style asks for. -/
def NumberStyle.layout (style : NumberStyle) (digits : Digits) : String :=
  let wanted := match style.positional with
    | none => true
    | some (least, limit) => digits.coefficient == 0 ||
        (least ≤ digits.magnitude && digits.magnitude < limit)
  if wanted then
    digits.positional ++ (if style.marksWhole && 0 ≤ digits.exponent then ".0" else "")
  else digits.scientific

end TaggedExpr.Decimal
