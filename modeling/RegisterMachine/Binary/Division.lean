import RegisterMachine.Binary.Rounding

/-!
# Dividing binary fractions

A quotient of fractions is rounded toward zero to a whole number, which is then
stored like any other number. A zero divisor is refused, with either sign.
Nothing comes of dividing an infinity, or what is no number; dividing by an
infinity leaves a zero.

An integer that takes part in such a division is stored first, and one beyond
the greatest storable number is refused.
-/

set_option autoImplicit false

namespace RegisterMachine

namespace Binary

/-- The ways in which a division of fractions can fail. -/
inductive DivisionError where
  | zeroDivisor
  /-- An integer is beyond the greatest storable number. -/
  | tooGreat
  deriving DecidableEq, Repr

def DivisionError.message : DivisionError → String
  | .zeroDivisor => "float floor division by zero"
  | .tooGreat => "int too large to convert to float"

/-- The stored number nearest to an integer. -/
def ofInt (n : Int) : Except DivisionError Binary :=
  match round (decide (n < 0)) n.natAbs 0 with
  | infinite _ => .error .tooGreat
  | value => .ok value

/-- Whether a number lies below zero, which the negative zero does not. -/
def isNegative : Binary → Bool
  | nan => false
  | infinite negative => negative
  | finite negative significand _ => negative && significand != 0

/-- How often `n * 2 ^ q` goes into `m * 2 ^ p`. -/
def wholeQuotient (m : Nat) (p : Int) (n : Nat) (q : Int) : Nat :=
  let common := min p q
  m * powerOfTwo (p - common).toNat / (n * powerOfTwo (q - common).toNat)

/-- The quotient rounded toward zero to a whole number, and stored. -/
def quotient (dividend divisor : Binary) : Except DivisionError Binary :=
  let negative := dividend.isNegative != divisor.isNegative
  if divisor.isZero then .error .zeroDivisor
  else match dividend, divisor with
    | finite _ m p, finite _ n q => .ok (round negative (wholeQuotient m p n q) 0)
    | finite .., infinite _ => .ok (finite negative 0 leastExponent)
    | _, _ => .ok nan

end Binary

end RegisterMachine
