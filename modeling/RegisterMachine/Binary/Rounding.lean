import RegisterMachine.Binary.Basic

/-!
# Rounding binary fractions

A binary fraction is stored with at most 53 significant bits, and in no finer
steps than `2 ^ (-1074)`. A number that needs more is rounded to the nearest one
that does not, and to the even one of two that are equally near. What lies
beyond the greatest storable number becomes infinite.

A sum with an integer is taken exactly first and rounded once.
-/

set_option autoImplicit false

namespace RegisterMachine

namespace Binary

/-- The number of significant bits. -/
def precision : Nat := 53

/-- The exponent of the finest step. -/
def leastExponent : Int := -1074

/-- The exponent of the coarsest step. -/
def greatestExponent : Int := 971

/-- The natural number nearest to `value / 2 ^ bits`, the even one of two. -/
def shiftRound (value bits : Nat) : Nat :=
  let quotient := value / powerOfTwo bits
  let rest := value % powerOfTwo bits
  match compare (2 * rest) (powerOfTwo bits) with
  | .lt => quotient
  | .gt => quotient + 1
  | .eq => quotient + quotient % 2

/-- The number of bits of a natural number. -/
def bitLength (value : Nat) : Nat := if value = 0 then 0 else value.log2 + 1

/-- The exponent of the step in which `value * 2 ^ exponent` is stored. -/
def step (value : Nat) (exponent : Int) : Int :=
  max leastExponent (exponent + bitLength value - precision)

/-- The stored number nearest to `value * 2 ^ exponent`. -/
def round (negative : Bool) (value : Nat) (exponent : Int) : Binary :=
  let target := step value exponent
  let kept := shiftRound (value * powerOfTwo (exponent - target).toNat) (target - exponent).toNat
  -- Rounding up may have given one bit too many, and then the last bit is 0.
  let (significand, last) :=
    if kept = powerOfTwo precision then (powerOfTwo (precision - 1), target + 1)
    else (kept, target)
  if significand = 0 then finite negative 0 leastExponent
  else if greatestExponent < last then infinite negative
  else finite negative significand last

/-- The sum with an integer. A sum that vanishes has no minus sign. -/
def addInt (value : Binary) (n : Int) : Binary :=
  match value with
  | finite negative significand exponent =>
    let common := min exponent 0
    let sum := signed negative (significand * powerOfTwo (exponent - common).toNat)
      + n * powerOfTwo (-common).toNat
    round (decide (sum < 0)) sum.natAbs common
  | value => value

end Binary

end RegisterMachine
