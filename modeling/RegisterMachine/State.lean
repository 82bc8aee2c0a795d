import RegisterMachine.Memory
import RegisterMachine.Numeral
import RegisterMachine.Register

/-!
# Machine states

A state is what an instruction can see and change: the memory, the registers,
the program counter, the two flags, whether the machine runs, and how many
instructions ran since the last program was loaded.

A snapshot is a state without its memory. The trace keeps snapshots.
-/

set_option autoImplicit false

namespace RegisterMachine

/-! ## Flags -/

/-- The zero flag and the carry flag. -/
structure Flags where
  zero : Bool := false
  carry : Bool := false
  deriving DecidableEq, Repr, Inhabited

namespace Flags

/-- The least result that leaves the carry flag clear. -/
def carryLeast : Int := -32768

/-- The greatest result that leaves the carry flag clear. -/
def carryGreatest : Int := 65535

/-- The flags of an arithmetic result. -/
def ofResult (result : Int) : Flags where
  zero := decide (result = 0)
  carry := decide (carryGreatest < result ∨ result < carryLeast)

/-- The flags with their names, in order. -/
def toList (flags : Flags) : List (String × Bool) :=
  [("ZF", flags.zero), ("CF", flags.carry)]

end Flags

/-! ## States -/

/-- What an instruction can see and change. -/
structure State where
  memory : Memory := {}
  registers : Registers := {}
  pc : Int := 0
  flags : Flags := {}
  running : Bool := false
  cycles : Nat := 0
  deriving DecidableEq, Repr, Inhabited

/-- A state without its memory. -/
structure Snapshot where
  registers : Registers
  pc : Int
  flags : Flags
  running : Bool
  cycles : Nat
  deriving DecidableEq, Repr, Inhabited

/-- The ways in which a memory size is refused. -/
inductive SizeError where
  | negative (size : Int)
  /-- The size is beyond what can number cells at all. -/
  | notANumberOfCells
  /-- Their bytes are beyond what can be numbered, so there is no room for so many cells. -/
  | noRoom
  deriving DecidableEq, Repr

def SizeError.message : SizeError → String
  | .negative size => Numeral.describe "memory_size must not be negative, got " size
  | .notANumberOfCells => "cannot fit 'int' into an index-sized integer"
  | .noRoom => ""

/-- A register was named that does not exist. -/
inductive RegisterError where
  | unknown (name : String)
  deriving DecidableEq, Repr

def RegisterError.message : RegisterError → String
  | .unknown name => "Invalid register: " ++ name

namespace State

/-- The number of cells of a memory when nothing else is asked for. -/
def defaultMemorySize : Nat := 1024

/-- The state at power-on: all zero, except that SP points at the last cell. -/
def initial (size : Nat) : State where
  memory := .blank size
  registers := { sp := (size : Int) - 1 }

/-- The number of cells for a memory size that is possible. -/
def cellCount (size : Int) : Except SizeError Nat :=
  if size < 0 then .error (.negative size)
  else if Memory.countable ≤ size.toNat then .error .notANumberOfCells
  else if Memory.capacity ≤ size.toNat then .error .noRoom
  else .ok size.toNat

/-- The state without its memory. -/
def snapshot (s : State) : Snapshot where
  registers := s.registers
  pc := s.pc
  flags := s.flags
  running := s.running
  cycles := s.cycles

/-- The content of a named register; 0 for an unknown name. -/
def register (s : State) (name : String) : Int := s.registers.named name

/-! ## One line of text -/

/-- A flag as a digit. -/
def bit (flag : Bool) : String := if flag then "1" else "0"

/-- The state on one line, with the given text in the place of the counter. -/
def renderWith (s : State) (counter : String) : String :=
  let registers := s.registers.toList.map fun (r, value) => r.name ++ "=" ++ toString value
  let flags := s.flags.toList.map fun (name, flag) => name ++ "=" ++ bit flag
  "[Cycle " ++ toString s.cycles ++ "] PC=" ++ counter ++ " "
    ++ " ".intercalate registers ++ " " ++ " ".intercalate flags ++ " "
    ++ (if s.running then "RUNNING" else "HALTED")

/-- The state on one line. -/
def render (s : State) : String := s.renderWith (toString s.pc)

end State

end RegisterMachine
