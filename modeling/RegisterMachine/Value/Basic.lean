import RegisterMachine.Binary.Decimal
import RegisterMachine.Numeral

/-!
# Untyped values

A decoded instruction carries its parameters by name, and whoever writes one by
hand may put anything there; a form hands over whatever its fields hold. So
parameters, cells offered for loading and form fields are untyped values, and
the operations on them say which kinds they accept.

This module holds the values, their text, and the ways of looking at a value
that every kind has: its kind, its truth, and the integer that it denotes.
-/

set_option autoImplicit false

namespace RegisterMachine

/-- The kinds of untyped values. -/
inductive Kind where
  | nothing
  | bool
  | int
  | float
  | text
  | list
  | table
  deriving DecidableEq, Repr

/-- The name of a kind in messages. -/
def Kind.label : Kind → String
  | .nothing => "NoneType"
  | .bool => "bool"
  | .int => "int"
  | .float => "float"
  | .text => "str"
  | .list => "list"
  | .table => "dict"

/-- A value of any kind. -/
inductive Value where
  | nothing
  | bool (value : Bool)
  | int (value : Int)
  | float (value : Binary)
  | text (value : String)
  | list (items : List Value)
  | table (entries : List (String × Value))
  deriving Repr, Inhabited

namespace Value

/-- The kind of a value. -/
def kind : Value → Kind
  | nothing => .nothing
  | bool _ => .bool
  | int _ => .int
  | float _ => .float
  | text _ => .text
  | list _ => .list
  | table _ => .table

/-- Whether a value counts as true: nothing, zeros and what is empty do not. -/
def truth : Value → Bool
  | nothing => false
  | bool value => value
  | int value => value != 0
  | float value => !value.isZero
  | text value => !value.isEmpty
  | list items => !items.isEmpty
  | table entries => !entries.isEmpty

/-! ## Text -/

mutual

/-- A value as it appears inside another one: texts stand in quotation marks. -/
def quoted : Value → String
  | nothing => "None"
  | bool value => if value then "True" else "False"
  | int value => toString value
  | float value => value.render
  | text value => Text.quote value
  | list items => "[" ++ ", ".intercalate (quotedItems items) ++ "]"
  | table entries => "\x7b" ++ ", ".intercalate (quotedEntries entries) ++ "\x7d"

/-- The items of a list, each as it appears inside it. -/
def quotedItems : List Value → List String
  | [] => []
  | item :: rest => item.quoted :: quotedItems rest

/-- The entries of a table, each as it appears inside it. -/
def quotedEntries : List (String × Value) → List String
  | [] => []
  | (name, value) :: rest => (Text.quote name ++ ": " ++ value.quoted) :: quotedEntries rest

end

/-- A value that stands alone: a text appears as it is. -/
def render : Value → String
  | text value => value
  | value => value.quoted

mutual

/-- Whether every integer in a value has few enough digits to be written. -/
def isWritable : Value → Bool
  | int value => (Numeral.writeDecimal value).isOk
  | list items => areWritable items
  | table entries => entriesAreWritable entries
  | _ => true

/-- Whether every item of a list can be written. -/
def areWritable : List Value → Bool
  | [] => true
  | item :: rest => item.isWritable && areWritable rest

/-- Whether every entry of a table can be written. -/
def entriesAreWritable : List (String × Value) → Bool
  | [] => true
  | (_, value) :: rest => value.isWritable && entriesAreWritable rest

end

/-- The text of a value, if all its integers can be written. -/
def write (value : Value) : Except Numeral.NumeralError String :=
  if value.isWritable then .ok value.render else .error .tooLongToWrite

/-! ## Integers -/

/-- The ways in which a value fails to denote an integer. -/
inductive IntegerError where
  | numeral (cause : Numeral.NumeralError)
  | fraction (cause : Binary.IntegerError)
  | notANumber (kind : Kind)
  deriving DecidableEq, Repr

def IntegerError.message : IntegerError → String
  | .numeral cause => cause.message
  | .fraction cause => cause.message
  | .notANumber kind =>
    "int() argument must be a string, a bytes-like object or a real number, not '"
      ++ kind.label ++ "'"

/-- The integer that a value denotes. Truth values count as 0 and 1,
fractions lose their fractional part, texts are read as decimal. -/
def toInt : Value → Except IntegerError Int
  | int value => .ok value
  | bool value => .ok value.toInt
  | float value => value.truncate.mapError .fraction
  | text value => (Numeral.readDecimal value).mapError .numeral
  | value => .error (.notANumber value.kind)

end Value

end RegisterMachine
