import RegisterMachine.Value.Basic

/-!
# Misused values

A value may be of the wrong kind for what is done with it. The causes are told
apart by what was attempted, and each names the kinds involved.
-/

set_option autoImplicit false

namespace RegisterMachine

/-- The comparisons of order. -/
inductive Comparison where
  | less
  | atMost
  | greater
  | atLeast
  deriving DecidableEq, Repr

/-- The sign of a comparison. -/
def Comparison.symbol : Comparison → String
  | .less => "<"
  | .atMost => "<="
  | .greater => ">"
  | .atLeast => ">="

/-- The ways in which a value is of the wrong kind. -/
inductive Misuse where
  /-- Two kinds that have no order between them are compared. -/
  | compared (comparison : Comparison) (left right : Kind)
  /-- Bits of something other than an integer are taken. -/
  | masked (kind : Kind)
  /-- A number is added to something that has no sum. -/
  | added (kind : Kind)
  /-- A number is appended to a text. -/
  | appended
  /-- The sum of a number and something that has none is taken. -/
  | summed (kind : Kind)
  /-- Something that is no text is used as a name. -/
  | named (kind : Kind)
  /-- Something that is no text is cut into lines. -/
  | cutIntoLines (kind : Kind)
  /-- A cell is picked by something other than an integer. -/
  | cellPicked (kind : Kind)
  /-- A register is picked by something other than an integer. -/
  | registerPicked (kind : Kind)
  /-- An entry of something other than a table is asked for by name. -/
  | entryPicked (kind : Kind)
  /-- A value that can change is looked up. -/
  | lookedUp (kind : Kind)
  /-- The items of something without items are taken. -/
  | iterated (kind : Kind)
  /-- The items of something without items are counted. -/
  | counted (kind : Kind)
  /-- A row is repeated a number of times that is no integer. -/
  | repeated (kind : Kind)
  /-- The magnitude of something other than a number is taken. -/
  | magnitude (kind : Kind)
  /-- A bound is no integer. -/
  | bounded
  /-- A range ends at something other than an integer. -/
  | ranged (kind : Kind)
  /-- A list is cut off at something other than an integer. -/
  | cutOff
  /-- Something other than a number is reported as one. -/
  | reported (kind : Kind)
  deriving DecidableEq, Repr

def Misuse.message : Misuse → String
  | .compared comparison left right =>
    "'" ++ comparison.symbol ++ "' not supported between instances of '" ++ left.label
      ++ "' and '" ++ right.label ++ "'"
  | .masked kind => "unsupported operand type(s) for &=: '" ++ kind.label ++ "' and 'int'"
  | .added kind => "unsupported operand type(s) for +=: '" ++ kind.label ++ "' and 'int'"
  | .appended | .summed .text => "can only concatenate str (not \"int\") to str"
  | .summed .list => "can only concatenate list (not \"int\") to list"
  | .summed kind => "unsupported operand type(s) for +: '" ++ kind.label ++ "' and 'int'"
  | .named kind => "'" ++ kind.label ++ "' object has no attribute 'upper'"
  | .cutIntoLines kind => "'" ++ kind.label ++ "' object has no attribute 'splitlines'"
  | .cellPicked kind => "list indices must be integers or slices, not " ++ kind.label
  | .registerPicked kind => "tuple indices must be integers or slices, not " ++ kind.label
  | .entryPicked .text => "string indices must be integers, not 'str'"
  | .entryPicked .list => "list indices must be integers or slices, not str"
  | .entryPicked kind => "'" ++ kind.label ++ "' object is not subscriptable"
  | .lookedUp kind => "unhashable type: '" ++ kind.label ++ "'"
  | .iterated kind => "'" ++ kind.label ++ "' object is not iterable"
  | .counted kind => "object of type '" ++ kind.label ++ "' has no len()"
  | .repeated kind => "can't multiply sequence by non-int of type '" ++ kind.label ++ "'"
  | .magnitude kind => "bad operand type for abs(): '" ++ kind.label ++ "'"
  | .bounded => "an integer is required"
  | .ranged kind => "'" ++ kind.label ++ "' object cannot be interpreted as an integer"
  | .cutOff => "slice indices must be integers or None or have an __index__ method"
  | .reported kind => "%d format: a real number is required, not " ++ kind.label

end RegisterMachine
