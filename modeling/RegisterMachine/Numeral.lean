import RegisterMachine.Text.Blank
import RegisterMachine.Text.Digit
import RegisterMachine.Text.Quoted

/-!
# Integers as text

An integer is written in decimal, or as a literal that names its base: `0x`,
`0o` and `0b`, in either case, stand before hexadecimal, octal and binary
digits. Single underscores may stand between digits and right after a base
mark. A literal without a base mark is decimal and has no leading zeros, unless
it is all zeros. Digits of any script count as the ASCII digits of their value.

Two readers share the digits (`digitRun`). `literal?` reads a token in which a
base mark may stand; `readDecimal` reads a decimal text with blanks around it,
in which leading zeros are allowed. Decimal texts are limited to `digitLimit`
digits, in reading and in writing (`writeDecimal`); other bases have no limit.
-/

set_option autoImplicit false

namespace RegisterMachine

namespace Numeral

/-- The greatest number of decimal digits that are read or written. -/
def digitLimit : Nat := 4300

/-- The ways in which a text fails to be an integer, or an integer to be a text. -/
inductive NumeralError where
  /-- The text is not a decimal number. -/
  | notDecimal (text : String)
  /-- The text has more digits than are read. -/
  | tooLongToRead (digits : Nat)
  /-- The integer has more digits than are written. -/
  | tooLongToWrite
  deriving DecidableEq, Repr

/-- What a refusal on account of the digit limit starts with. -/
def limitMessage : String :=
  "Exceeds the limit (" ++ toString digitLimit ++ " digits) for integer string conversion"

/-- What a refusal on account of the digit limit ends with. -/
def limitAdvice : String := "; use sys.set_int_max_str_digits() to increase the limit"

def NumeralError.message : NumeralError → String
  | .notDecimal text =>
    "invalid literal for int() with base 10: " ++ String.ofList ((Text.quote text).toList.take 200)
  | .tooLongToRead digits =>
    limitMessage ++ ": value has " ++ toString digits ++ " digits" ++ limitAdvice
  | .tooLongToWrite => limitMessage ++ limitAdvice

/-! ## Digits -/

/-- The value of a character as a digit in bases up to sixteen. -/
def hexValue? (c : Char) : Option Nat :=
  if '0' ≤ c ∧ c ≤ '9' then some (c.toNat - '0'.toNat)
  else if 'a' ≤ c ∧ c ≤ 'f' then some (c.toNat - 'a'.toNat + 10)
  else if 'A' ≤ c ∧ c ≤ 'F' then some (c.toNat - 'A'.toNat + 10)
  else none

/-- The value of a character as a digit of the given base. -/
def baseDigit? (base : Nat) (c : Char) : Option Nat :=
  (hexValue? c).filter (· < base)

/-- The digits of a text that consists of digits with single underscores
between them. -/
def digitRun (base : Nat) : List Char → Option (List Nat)
  | [] => none
  | [c] => (baseDigit? base c).map ([·])
  | c :: '_' :: rest => do
    let digit ← baseDigit? base c
    let digits ← digitRun base rest
    return digit :: digits
  | c :: next :: rest => do
    let digit ← baseDigit? base c
    let digits ← digitRun base (next :: rest)
    return digit :: digits

/-- The number with the given digits, the most significant first. -/
def ofDigits (base : Nat) (digits : List Nat) : Nat :=
  digits.foldl (fun value digit => value * base + digit) 0

/-- A text in ASCII: blanks of other scripts become spaces and digits of other
scripts ASCII digits. Any other character outside ASCII becomes a question
mark, and the text ends there. -/
def toAscii : List Char → List Char
  | [] => []
  | c :: rest =>
    if c.toNat < 128 then c :: toAscii rest
    else if Text.isBlank c then ' ' :: toAscii rest
    else match Text.digitValue? c with
      | some digit => Nat.digitChar digit :: toAscii rest
      | none => ['?']

/-- Splits off a sign; the result says whether it was a minus. -/
def splitSign : List Char → Bool × List Char
  | '-' :: rest => (true, rest)
  | '+' :: rest => (false, rest)
  | text => (false, text)

/-- An integer from its sign and its magnitude. -/
def signed (negative : Bool) (magnitude : Nat) : Int :=
  if negative then -(magnitude : Int) else magnitude

/-! ## Literals -/

/-- The digits after a base mark, which may start with an underscore. -/
def markedDigits (base : Nat) : List Char → Option Nat
  | '_' :: rest => (digitRun base rest).map (ofDigits base)
  | rest => (digitRun base rest).map (ofDigits base)

/-- A decimal literal: no more digits than the limit, and leading zeros only in
zero itself. -/
def plainDigits (text : List Char) : Option Nat := do
  let digits ← digitRun 10 text
  guard (digits.length ≤ digitLimit)
  guard (digits.head? ≠ some 0 ∨ digits.all (· = 0))
  return ofDigits 10 digits

/-- The value of an unsigned literal. -/
def magnitude? : List Char → Option Nat
  | '0' :: 'x' :: rest | '0' :: 'X' :: rest => markedDigits 16 rest
  | '0' :: 'o' :: rest | '0' :: 'O' :: rest => markedDigits 8 rest
  | '0' :: 'b' :: rest | '0' :: 'B' :: rest => markedDigits 2 rest
  | text => plainDigits text

/-- The value of a literal, an optional sign before its magnitude. -/
def literal? (token : List Char) : Option Int :=
  let (negative, text) := splitSign (toAscii token)
  (magnitude? text).map (signed negative)

/-! ## Decimal texts -/

/-- The blanks that may stand around a decimal text. -/
def isSpace (c : Char) : Bool := (9 ≤ c.toNat && c.toNat ≤ 13) || c == ' '

/-- The characters of which the digits of a decimal text consist. -/
def isDigitOrUnderscore (c : Char) : Bool := c.isDigit || c == '_'

/-- The value of a decimal text with optional blanks around it. The digit
limit counts before what follows the digits is looked at. -/
def readDecimal (text : String) : Except NumeralError Int :=
  let (negative, rest) := splitSign ((toAscii text.toList).dropWhile isSpace)
  match digitRun 10 (rest.takeWhile isDigitOrUnderscore) with
  | none => .error (.notDecimal text)
  | some digits =>
    if digitLimit < digits.length then .error (.tooLongToRead digits.length)
    else if (rest.dropWhile isDigitOrUnderscore).all isSpace then
      .ok (signed negative (ofDigits 10 digits))
    else .error (.notDecimal text)

/-- An integer in decimal, if it has no more digits than the limit. -/
def writeDecimal (value : Int) : Except NumeralError String :=
  if (toString value.natAbs).length ≤ digitLimit then .ok (toString value)
  else .error .tooLongToWrite

/-- A text about an integer. About one with too many digits it only says so. -/
def describe (about : String) (value : Int) : String :=
  match writeDecimal value with
  | .ok digits => about ++ digits
  | .error cause => cause.message

/-! ## What is written -/

/-- The minus stands in front of the digits. -/
theorem toList_negSucc (n : Nat) :
    (toString (Int.negSucc n)).toList = '-' :: (n + 1).repr.toList := by
  rw [Int.toString_eq_repr]
  exact String.toList_append

theorem isDigit_of_mem_repr {n : Nat} {c : Char} (present : c ∈ n.repr.toList) :
    c.isDigit = true := by
  rw [Nat.toList_repr] at present
  exact Nat.isDigit_of_mem_toDigits (by decide) (by decide) present

/-- In decimal an integer is written with digits and a minus. -/
theorem isDigit_of_mem_toString {n : Int} {c : Char} (present : c ∈ (toString n).toList) :
    c.isDigit = true ∨ c = '-' := by
  cases n with
  | ofNat n => exact .inl (isDigit_of_mem_repr present)
  | negSucc n =>
    rw [toList_negSucc] at present
    rcases List.mem_cons.1 present with minus | digit
    · exact .inr minus
    · exact .inl (isDigit_of_mem_repr digit)

end Numeral

end RegisterMachine
