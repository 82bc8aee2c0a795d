import RegisterMachine.Value.Operation

/-!
# Example programs

Four programs for demonstration. Jump targets are absolute addresses, so the
comments give the address where a loop starts.
-/

set_option autoImplicit false

namespace RegisterMachine

/-- The example programs, in the order in which they are listed. -/
inductive Example where
  /-- Prints 15, 10 and 50. -/
  | arithmetic
  /-- Prints the factorial of 5. -/
  | factorial
  /-- Prints 1 to 5. -/
  | counting
  /-- Prints 42. -/
  | stepDemo
  deriving DecidableEq, Repr

namespace Example

/-- All examples, in order. -/
def all : List Example := [arithmetic, factorial, counting, stepDemo]

/-- The name by which an example is asked for. -/
def name : Example → String
  | arithmetic => "arithmetic"
  | factorial => "factorial"
  | counting => "counting"
  | stepDemo => "step-demo"

/-- The cells of an example. -/
def cells : Example → List Int
  | arithmetic => [
      1, 0, 10,       -- LOAD AX, 10
      1, 1, 5,        -- LOAD BX, 5
      3, 0, 1,        -- ADD AX, BX
      11, 0,          -- PRINT AX
      4, 0, 1,        -- SUB AX, BX
      11, 0,          -- PRINT AX
      5, 0, 1,        -- MUL AX, BX
      11, 0,          -- PRINT AX
      12]             -- HALT
  | factorial => [
      1, 0, 5,        -- LOAD AX, 5
      1, 1, 1,        -- LOAD BX, 1
      1, 2, 1,        -- LOAD CX, 1
      5, 1, 0,        -- MUL BX, AX       the loop starts here, at 9
      4, 0, 2,        -- SUB AX, CX
      10, 0, 2,       -- CMP AX, CX
      9, 0, 2, 9,     -- JNE AX, CX, 9
      11, 1,          -- PRINT BX
      12]             -- HALT
  | counting => [
      1, 0, 1,        -- LOAD AX, 1
      1, 1, 5,        -- LOAD BX, 5
      1, 2, 1,        -- LOAD CX, 1
      11, 0,          -- PRINT AX         the loop starts here, at 9
      3, 0, 2,        -- ADD AX, CX
      10, 0, 1,       -- CMP AX, BX
      9, 0, 1, 9,     -- JNE AX, BX, 9
      11, 0,          -- PRINT AX
      12]             -- HALT
  | stepDemo => [
      1, 0, 42,       -- LOAD AX, 42
      11, 0,          -- PRINT AX
      12]             -- HALT

/-- The example of that name. -/
def ofName? (name : String) : Option Example := all.find? fun e => e.name = name

/-- The ways in which a value names no example. -/
inductive NameError where
  /-- No example has that name. -/
  | unknown (name : String)
  | misuse (cause : Misuse)
  | numeral (cause : Numeral.NumeralError)
  deriving DecidableEq, Repr

def NameError.message : NameError → String
  | .unknown name => "Unknown program: " ++ name
  | .misuse cause => cause.message
  | .numeral cause => cause.message

/-- The example that a value of any kind names. -/
def ofValue (name : Value) : Except NameError Example := do
  let key ← name.key.mapError .misuse
  let found := match key with
    | .text name => ofName? name
    | _ => none
  match found with
  | some e => return e
  | none => throw (.unknown (← key.write.mapError .numeral))

end Example

end RegisterMachine
