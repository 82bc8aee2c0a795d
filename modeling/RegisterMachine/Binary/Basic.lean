/-!
# Binary fractions

Fractional numbers occur only as binary fractions: a natural number times a
power of two, with a sign, besides the infinities and the value that is no
number. The sign is kept apart from the magnitude because zero has one too.

Everything that is asked of a fraction is answered exactly, in integers: how it
compares with an integer, and which integers lie next to it.
-/

set_option autoImplicit false

namespace RegisterMachine

/-- A binary fraction, an infinity, or no number at all. -/
inductive Binary where
  | nan
  | infinite (negative : Bool)
  /-- The number `significand * 2 ^ exponent`, or its negative. -/
  | finite (negative : Bool) (significand : Nat) (exponent : Int)
  deriving DecidableEq, Repr

namespace Binary

/-- That power of two. -/
def powerOfTwo (n : Nat) : Nat := Nat.pow 2 n

/-- An integer from its sign and its magnitude. -/
def signed (negative : Bool) (magnitude : Nat) : Int :=
  if negative then -(magnitude : Int) else magnitude

/-- Whether the value is one of the two zeros. -/
def isZero : Binary → Bool
  | finite _ significand _ => significand == 0
  | _ => false

/-! ## Next to the integers -/

/-- The ways in which a binary fraction fails to have an integer part. -/
inductive IntegerError where
  | nan
  | infinite
  deriving DecidableEq, Repr

def IntegerError.message : IntegerError → String
  | .nan => "cannot convert float NaN to integer"
  | .infinite => "cannot convert float infinity to integer"

/-- The number rounded toward zero to an integer. -/
def truncate : Binary → Except IntegerError Int
  | nan => .error .nan
  | infinite _ => .error .infinite
  | finite negative significand exponent =>
    .ok (signed negative
      (significand * powerOfTwo exponent.toNat / powerOfTwo (-exponent).toNat))

/-- How a fraction compares with an integer. No number compares with none. -/
def compareInt (value : Binary) (n : Int) : Option Ordering :=
  match value with
  | nan => none
  | infinite negative => some (if negative then .lt else .gt)
  | finite negative significand exponent =>
    some (compare (signed negative (significand * powerOfTwo exponent.toNat))
      (n * powerOfTwo (-exponent).toNat))

/-- The least integer that is not below a finite number. -/
def ceiling? : Binary → Option Int
  | finite negative significand exponent =>
    some (-(-signed negative (significand * powerOfTwo exponent.toNat)
      / powerOfTwo (-exponent).toNat))
  | _ => none

/-- The integer that a fraction is equal to, if there is one. -/
def integral? (value : Binary) : Option Int :=
  value.truncate.toOption.filter fun n => value.compareInt n == some .eq

/-- Whether two fractions are equal as numbers. No number is equal to none. -/
def equals : Binary → Binary → Bool
  | infinite negative, infinite other => negative == other
  | finite negative significand exponent, finite negative' significand' exponent' =>
    let least := min exponent exponent'
    signed negative (significand * powerOfTwo (exponent - least).toNat)
      == signed negative' (significand' * powerOfTwo (exponent' - least).toNat)
  | _, _ => false

end Binary

end RegisterMachine
