import RegisterMachine.Binary.Decimal
import RegisterMachine.Numeral

/-!
# Numerals of binary fractions

A fraction is read from a decimal numeral: an optional sign, digits with or
without a point among or beside them, and an optional exponent. There must be a
digit before the exponent. Names stand for the infinities and for what is no
number. Case does not matter, blanks may stand around a numeral, and single
underscores between its digits. Digits of any script count as the ASCII digits of
their value.

The number that is read is the stored one nearest to the decimal (`ofQuotient`),
however many digits or however great an exponent it has. Decimals from
`10 ^ greatestPlace` on are beyond what can be stored, and those below
`10 ^ leastPlace` are nearer to zero than to anything else; neither is multiplied
out.
-/

set_option autoImplicit false

namespace RegisterMachine

namespace Binary

/-! ## Rounding a decimal -/

/-- The place to which a quotient is divided. Half a step between stored numbers
is a multiple of `2 ^ (-1075)`. -/
def quotientPlaces : Nat := 1075

/-- The stored number nearest to a quotient. It is divided as far as the least half
step, and a last bit tells whether something is left over; further digits decide
nothing. -/
def ofQuotient (negative : Bool) (dividend divisor : Nat) : Binary :=
  let scaled := dividend * powerOfTwo quotientPlaces
  let leftOver := if scaled % divisor = 0 then 0 else 1
  round negative (2 * (scaled / divisor) + leftOver) (-(quotientPlaces : Int) - 1)

/-- Decimals of this place and above are beyond the greatest storable number. -/
def greatestPlace : Int := 309

/-- Decimals below this place are less than half of the least storable number. -/
def leastPlace : Int := -324

/-- The stored number nearest to a decimal. -/
def Decimal.toBinary (negative : Bool) (d : Decimal) : Binary :=
  let leading : Int := d.exponent + (toString d.digits).length - 1
  if d.digits = 0 ∨ leading < leastPlace then finite negative 0 leastExponent
  else if greatestPlace ≤ leading then infinite negative
  else ofQuotient negative (d.digits * powerOfTen d.exponent.toNat)
    (powerOfTen (-d.exponent).toNat)

/-! ## Reading -/

/-- The ways in which a text fails to be a numeral. -/
inductive NumeralError where
  | notANumber (text : String)
  deriving DecidableEq, Repr

def NumeralError.message : NumeralError → String
  | .notANumber text => "could not convert string to float: " ++ Text.quote text

/-- A text without the underscores between its digits, given the character in
front of it. An underscore elsewhere is not allowed. -/
def withoutUnderscores (previous : Char) : List Char → Option (List Char)
  | [] => some []
  | ['_'] => none
  | '_' :: next :: rest =>
    if previous.isDigit ∧ next.isDigit then (withoutUnderscores next rest).map (next :: ·)
    else none
  | c :: rest => (withoutUnderscores c rest).map (c :: ·)

/-- The exponent at the end of a numeral; 0 if there is none. -/
def exponent? : List Char → Option Int
  | [] => some 0
  | 'e' :: rest =>
    let (negative, digits) := Numeral.splitSign rest
    (Numeral.digitRun 10 digits).map fun digits => signed negative (Numeral.ofDigits 10 digits)
  | _ => none

/-- The digits after a point, and what follows them; there need not be a point. -/
def fractionOf : List Char → List Char × List Char
  | '.' :: rest => (rest.takeWhile Char.isDigit, rest.dropWhile Char.isDigit)
  | rest => ([], rest)

/-- The decimal that an unsigned numeral denotes. -/
def decimal? (text : List Char) : Option Decimal := do
  let (fraction, rest) := fractionOf (text.dropWhile Char.isDigit)
  let digits ← Numeral.digitRun 10 (text.takeWhile Char.isDigit ++ fraction)
  let exponent ← exponent? rest
  return { digits := Numeral.ofDigits 10 digits, exponent := exponent - fraction.length }

/-- The names of the infinities and of what is no number. -/
def named? (negative : Bool) (text : List Char) : Option Binary :=
  if text = "nan".toList then some nan
  else if text = "inf".toList ∨ text = "infinity".toList then some (infinite negative)
  else none

/-- A text without the blanks around it, in small letters. -/
def normal (text : List Char) : List Char :=
  let inner := (Numeral.toAscii text).dropWhile Numeral.isSpace
  (inner.reverse.dropWhile Numeral.isSpace).reverse.map Char.toLower

/-- The fraction that a text denotes. -/
def read? (text : String) : Option Binary := do
  let (negative, rest) := Numeral.splitSign (← withoutUnderscores ' ' (normal text.toList))
  named? negative rest <|> (decimal? rest).map (Decimal.toBinary negative)

/-- Reads a fraction. -/
def read (text : String) : Except NumeralError Binary :=
  match read? text with
  | some value => .ok value
  | none => .error (.notANumber text)

end Binary

end RegisterMachine
