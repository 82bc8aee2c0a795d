import RegisterMachine.Machine.Basic

/-!
# Loading programs

A program is copied to the front of the memory, wrapped to words and cut off
where the memory ends. Registers, flags and the rest of the memory keep their
contents; the trace and the output start afresh.

Cells offered for loading may be of any kind. One that is not an integer
refuses the whole program, also when it would have been cut off.
-/

set_option autoImplicit false

namespace RegisterMachine

/-- The ways in which a program is refused. -/
inductive LoadError where
  | iteration (cause : Misuse)
  | notAnInteger (cell : Nat) (kind : Kind)
  deriving DecidableEq, Repr

def LoadError.message : LoadError → String
  | .iteration cause => cause.message
  | .notAnInteger cell kind =>
    "Program cell " ++ toString cell ++ " must be int, got " ++ kind.label

namespace Machine

/-- The events of copying cells, from the given cell on: one for each cell that
is no word. -/
def wrapEvents : Nat → List Int → List Event
  | _, [] => []
  | cell, value :: rest =>
    if Word.wrap value = value then wrapEvents (cell + 1) rest
    else .wrapped cell value (Word.wrap value) :: wrapEvents (cell + 1) rest

/-- The machine with a program loaded and ready to run. -/
def load (m : Machine) (program : List Int) : Machine :=
  { m with
    state := { m.state with
      memory := m.state.memory.overlay (program.map Word.wrap)
      pc := 0
      running := true
      cycles := 0 }
    trace := m.trace.clear
    output := #[]
    haltReason := none }

/-- What loading a program reports. -/
def loadEvents (m : Machine) (program : List Int) : List Event :=
  let fitting := min program.length m.memorySize
  wrapEvents 0 (program.take fitting)
    ++ (if fitting < program.length then [.truncated fitting program.length] else [])
    ++ [.loaded fitting]

/-- The integers among cells of any kind, numbered from the given cell on; the
first cell that is none is the error. -/
def integerCells : Nat → List Value → Except LoadError (List Int)
  | _, [] => .ok []
  | cell, .int value :: rest => (integerCells (cell + 1) rest).map (value :: ·)
  | cell, value :: _ => .error (.notAnInteger cell value.kind)

/-- The program in a value of any kind. -/
def programOf (value : Value) : Except LoadError (List Int) := do
  let cells ← value.items.mapError .iteration
  integerCells 0 cells

/-- Cells that are all integers make a program. -/
theorem integerCells_map_int (cell : Nat) (program : List Int) :
    integerCells cell (program.map Value.int) = .ok program := by
  induction program generalizing cell with
  | nil => rfl
  | cons value rest ih => simp [integerCells, ih, Except.map]

end Machine

end RegisterMachine
