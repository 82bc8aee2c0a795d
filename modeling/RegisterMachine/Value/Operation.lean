import RegisterMachine.Value.Misuse
import RegisterMachine.Word

/-!
# Operations on untyped values

What can be done with a value depends on its kind, and each operation here says
how. Truth values are the integers 0 and 1 everywhere. Fractions compare with
integers exactly; they can be added to, but they pick no cell and no register.
Anything else is a misuse.
-/

set_option autoImplicit false

namespace RegisterMachine

namespace Value

/-! ## Order -/

/-- How a number compares with an integer, `none` if it is no number at all in
the sense of arithmetic. The kind of any other value is the error. -/
def compareInt (value : Value) (n : Int) : Except Kind (Option Ordering) :=
  match value with
  | int value => .ok (some (compare value n))
  | bool value => .ok (some (compare value.toInt n))
  | float value => .ok (value.compareInt n)
  | value => .error value.kind

/-- Whether a value is less than an integer. -/
def isLess (value : Value) (n : Int) : Except Misuse Bool :=
  match value.compareInt n with
  | .ok order => .ok (order == some .lt)
  | .error kind => .error (.compared .less kind .int)

/-- Whether a value is greater than an integer. -/
def isGreater (value : Value) (n : Int) : Except Misuse Bool :=
  match value.compareInt n with
  | .ok order => .ok (order == some .gt)
  | .error kind => .error (.compared .greater kind .int)

/-- Whether a value is 0 or more and less than a number. -/
def isWithin (value : Value) (size : Nat) : Except Misuse Bool :=
  match value.compareInt 0 with
  | .error kind => .error (.compared .atMost .int kind)
  | .ok order =>
    if order = some .gt ∨ order = some .eq then value.isLess size else .ok false

/-- Whether a number has reached a value. -/
def isReachedBy (limit : Value) (count : Int) : Except Misuse Bool :=
  match limit.compareInt count with
  | .ok order => .ok (order == some .lt || order == some .eq)
  | .error kind => .error (.compared .atLeast .int kind)

/-- Whether a value is a number equal to 0. -/
def isZero (value : Value) : Bool :=
  match value.compareInt 0 with
  | .ok order => order == some .eq
  | .error _ => false

/-! ## Integers in disguise -/

/-- The integer that a value is, truth values included. -/
def integer? : Value → Option Int
  | int value => some value
  | bool value => some value.toInt
  | _ => none

/-- The integer that a value is equal to. -/
def integral? : Value → Option Int
  | float value => value.integral?
  | value => value.integer?

/-- The word of a value. -/
def word (value : Value) : Except Misuse Int :=
  match value.integer? with
  | some n => .ok (Word.wrap n)
  | none => .error (.masked value.kind)

/-- Where an address points: to a cell of a memory of the given size, or to
none. A fraction between the ends of the memory points nowhere. -/
def cell? (address : Value) (size : Nat) : Except Misuse (Option Nat) := do
  if ← address.isWithin size then
    match address.integer? with
    | some n => return some n.toNat
    | none => throw (.cellPicked address.kind)
  else return none

/-- The cell of a memory of the given size that an address points to, and the word
of a value for it. The value is looked at only if the address lies inside. -/
def placement? (address value : Value) (size : Nat) : Except Misuse (Option (Nat × Int)) := do
  if ← address.isWithin size then
    let word ← value.word
    return (← address.cell? size).map fun cell => (cell, word)
  else return none

/-- A number moved on by a number of cells. -/
def advance (position : Value) (cells : Nat) : Except Misuse Value :=
  match position with
  | int position => .ok (.int (position + cells))
  | bool position => .ok (.int (position.toInt + cells))
  | float position => .ok (.float (position.addInt cells))
  | text _ => .error .appended
  | list _ => .error (.iterated .int)
  | other => .error (.added other.kind)

/-- The number that lies a number of cells further on. -/
def plus (position : Value) (cells : Nat) : Except Misuse Value :=
  (position.advance cells).mapError fun _ => .summed position.kind

/-- How many times something is done that is to be done so many times; a negative
count is none. -/
def times (count : Value) : Except Misuse Nat :=
  match count.integer? with
  | some n => .ok n.toNat
  | none => .error (.ranged count.kind)

/-! ## Texts, lists and tables -/

/-- The name that a value is. -/
def name : Value → Except Misuse String
  | text name => .ok name
  | value => .error (.named value.kind)

/-- The text of a program that a value is. -/
def source : Value → Except Misuse String
  | text source => .ok source
  | value => .error (.cutIntoLines value.kind)

/-- Where a list is cut off. -/
def cut (position : Value) : Except Misuse Int :=
  match position.integer? with
  | some n => .ok n
  | none => .error .cutOff

/-- A value that can be looked up, which lists and tables cannot. -/
def key : Value → Except Misuse Value
  | list _ => .error (.lookedUp .list)
  | table _ => .error (.lookedUp .table)
  | value => .ok value

/-- Whether two values are one key. Numbers are if they are equal. -/
def isSameKey (value other : Value) : Bool :=
  match value, other with
  | text name, text other => name == other
  | nothing, nothing => true
  | float number, float other => number.equals other
  | value, other =>
    match value.integral?, other.integral? with
    | some n, some m => n == m
    | _, _ => false

/-- The items of a value: of a list its own, of a text its characters, of a
table its names. -/
def items : Value → Except Misuse (List Value)
  | list items => .ok items
  | text value => .ok (value.toList.map fun c => text (String.singleton c))
  | table entries => .ok (entries.map fun (name, _) => text name)
  | value => .error (.iterated value.kind)

/-! ## Reports -/

/-- The ways in which a report cannot be written. -/
inductive WriteError where
  | numeral (cause : Numeral.NumeralError)
  | fraction (cause : Binary.IntegerError)
  | misuse (cause : Misuse)
  deriving DecidableEq, Repr

def WriteError.message : WriteError → String
  | .numeral cause => cause.message
  | .fraction cause => cause.message
  | .misuse cause => cause.message

/-- A number in decimal, fractions without their fractional part. -/
def decimal : Value → Except WriteError String
  | int value => (Numeral.writeDecimal value).mapError .numeral
  | bool value => .ok (toString value.toInt)
  | float value => do
    let whole ← value.truncate.mapError .fraction
    (Numeral.writeDecimal whole).mapError .numeral
  | value => .error (.misuse (.reported value.kind))

end Value

end RegisterMachine
