import RegisterMachine.Binary.Division
import RegisterMachine.Value.Operation

/-!
# Dividing untyped values

Two numbers of any kind have a quotient rounded toward zero. Truth values are the
integers 0 and 1, and integers are divided exactly. As soon as a fraction takes
part, both numbers are divided as fractions.

Of the dividend and the divisor, the dividend is looked at first.
-/

set_option autoImplicit false

namespace RegisterMachine

/-- A number to be divided or divided by. -/
inductive Term where
  | whole (value : Int)
  | fraction (value : Binary)
  deriving DecidableEq, Repr

/-- The number as a fraction. -/
def Term.toBinary : Term → Except Binary.DivisionError Binary
  | whole value => Binary.ofInt value
  | fraction value => .ok value

namespace Value

/-- The ways in which a division of values can fail. -/
inductive DivisionError where
  | misuse (cause : Misuse)
  | whole (cause : Word.DivisionError)
  | fraction (cause : Binary.DivisionError)
  deriving DecidableEq, Repr

def DivisionError.message : DivisionError → String
  | .misuse cause => cause.message
  | .whole cause => cause.message
  | .fraction cause => cause.message

/-- The number that a value is. -/
def term (value : Value) : Except Misuse Term :=
  match value with
  | int value => .ok (.whole value)
  | bool value => .ok (.whole value.toInt)
  | float value => .ok (.fraction value)
  | value => .error (.magnitude value.kind)

/-- The quotient of two numbers, rounded toward zero. -/
def quotientOfTerms : Term → Term → Except DivisionError Value
  | .whole a, .whole b => ((Word.quotient a b).mapError .whole).map int
  | a, b => do
    let a ← a.toBinary.mapError .fraction
    let b ← b.toBinary.mapError .fraction
    ((Binary.quotient a b).mapError .fraction).map float

/-- The quotient of two values, rounded toward zero. -/
def quotient (dividend divisor : Value) : Except DivisionError Value := do
  let a ← dividend.term.mapError .misuse
  let b ← divisor.term.mapError .misuse
  quotientOfTerms a b

end Value

end RegisterMachine
