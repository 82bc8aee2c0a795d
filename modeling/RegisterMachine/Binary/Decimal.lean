import RegisterMachine.Binary.Rounding

/-!
# Binary fractions as text

A binary fraction is written with the fewest decimal digits that identify it:
among the decimals that round to it, one on the coarsest decimal grid, and of
two on that grid the nearer one. The decimals that round to a fraction form an
interval (`Interval.contains`), which reaches halfway to the two neighbouring
fractions and includes its ends exactly when the significand is even.

Numbers from `10 ^ (-4)` up to below `10 ^ 16` are written out, always with a
decimal point; others have one digit before the point and an exponent.
-/

set_option autoImplicit false

namespace RegisterMachine

namespace Binary

/-! ## The digits -/

/-- That power of ten. -/
def powerOfTen (n : Nat) : Nat := Nat.pow 10 n

/-- A decimal number `digits * 10 ^ exponent`. -/
structure Decimal where
  digits : Nat
  exponent : Int
  deriving DecidableEq, Repr

/-- The numbers between `lower * 2 ^ exponent` and `upper * 2 ^ exponent`, with
or without the ends, around `middle * 2 ^ exponent`. -/
structure Interval where
  lower : Nat
  middle : Nat
  upper : Nat
  exponent : Int
  closed : Bool

/-- The interval of the numbers that round to `significand * 2 ^ exponent`.
Below a power of two the neighbour is at half the distance. -/
def Interval.around (significand : Nat) (exponent : Int) : Interval where
  lower :=
    if significand = powerOfTwo (precision - 1) ∧ leastExponent < exponent then 4 * significand - 1
    else 4 * significand - 2
  middle := 4 * significand
  upper := 4 * significand + 2
  exponent := exponent - 2
  closed := significand % 2 = 0

namespace Interval

/-- The factors that compare `a * 2 ^ exponent` with `b * 10 ^ place`: the one
for `a` and the one for `b`. -/
def factors (i : Interval) (place : Int) : Nat × Nat :=
  (powerOfTwo i.exponent.toNat * powerOfTen (-place).toNat,
    powerOfTwo (-i.exponent).toNat * powerOfTen place.toNat)

/-- Whether a decimal lies in an interval. -/
def contains (i : Interval) (d : Decimal) : Bool :=
  let (binary, decimal) := i.factors d.exponent
  let value := d.digits * decimal
  if i.closed then i.lower * binary ≤ value ∧ value ≤ i.upper * binary
  else i.lower * binary < value ∧ value < i.upper * binary

/-- The nearer of the two decimals next to the middle of an interval, the even
one if both are equally near, on the grid of a place. -/
def nearest (i : Interval) (place : Int) : Decimal :=
  let (binary, decimal) := i.factors place
  let below := i.middle * binary / decimal
  match compare (2 * i.middle * binary) ((2 * below + 1) * decimal) with
  | .lt => ⟨below, place⟩
  | .gt => ⟨below + 1, place⟩
  | .eq => ⟨below + below % 2, place⟩

/-- The decimals next to the middle of an interval on the grid of a place, the
nearer one first. -/
def neighbours (i : Interval) (place : Int) : List Decimal :=
  let (binary, decimal) := i.factors place
  let below := i.middle * binary / decimal
  [i.nearest place, ⟨below, place⟩, ⟨below + 1, place⟩]

/-- The places of the decimal grids that are tried, the coarsest first. -/
def places : List Int := (List.range 640).map fun (k : Nat) => 309 - (k : Int)

/-- The decimal on the coarsest grid that lies in an interval. The grid of the
last place is fine enough for every interval of a stored number. -/
def shortest (i : Interval) : Decimal :=
  (places.findSome? fun place => (i.neighbours place).find? i.contains).getD ⟨0, 0⟩

end Interval

/-! ## The layout -/

/-- That many zeros. -/
def zeros (count : Nat) : String := String.ofList (List.replicate count '0')

/-- The exponent of the leading digit from which on an exponent is written. -/
def exponentFrom : Int := 16

/-- The exponent of the leading digit below which an exponent is written. -/
def exponentBelow : Int := -4

/-- A decimal written out, with a decimal point. -/
def Decimal.positional (d : Decimal) : String :=
  let digits := toString d.digits
  if 0 ≤ d.exponent then digits ++ zeros d.exponent.toNat ++ ".0"
  else
    let places := (-d.exponent).toNat
    let padded := zeros (places + 1 - digits.length) ++ digits
    let whole := padded.length - places
    String.ofList (padded.toList.take whole) ++ "." ++ String.ofList (padded.toList.drop whole)

/-- An exponent with its sign, in two digits at the least. -/
def exponentText (exponent : Int) : String :=
  let digits := toString exponent.natAbs
  "e" ++ (if exponent < 0 then "-" else "+") ++ zeros (2 - digits.length) ++ digits

/-- A decimal with one digit before the point and an exponent. -/
def Decimal.scientific (d : Decimal) : String :=
  let digits := (toString d.digits).toList
  let leading : Int := d.exponent + digits.length - 1
  String.ofList (digits.take 1) ++ (if digits.length = 1 then "" else ".")
    ++ String.ofList (digits.drop 1) ++ exponentText leading

/-- The text of a decimal. -/
def Decimal.text (d : Decimal) : String :=
  let leading : Int := d.exponent + (toString d.digits).length - 1
  if exponentBelow ≤ leading ∧ leading < exponentFrom then d.positional else d.scientific

/-- The text of a binary fraction. -/
def render : Binary → String
  | nan => "nan"
  | infinite negative => if negative then "-inf" else "inf"
  | finite negative significand exponent =>
    (if negative then "-" else "")
      ++ if significand = 0 then "0.0" else (Interval.around significand exponent).shortest.text

end Binary

end RegisterMachine
