import RegisterMachine.Loose.Registry

/-!
# Loose states

A state of which the cells, the program counter and the run switch may be values
of any kind. Registers, flags and the number of cycles cannot be loose: they are
only ever set through operations that make words, truth values and counts.

Executing a record goes on where it can: the effect of the primitive is applied
before the program counter is moved, so when moving it fails the effect remains.
-/

set_option autoImplicit false

namespace RegisterMachine

/-- The register that a code of any kind means. -/
def Register.ofValue (code : Value) : Except Misuse Register := do
  if ← code.isWithin all.length then
    match code.integer? with
    | some n => return ofCode n
    | none => throw (.registerPicked code.kind)
  else return .ax

namespace Loose

/-- The number of cells for a memory size of any kind. -/
def cellCount (size : Value) : Except Error Nat :=
  match size.integer?, size.compareInt 0 with
  | some n, _ => (State.cellCount n).mapError fun cause => .creation (.size cause)
  | none, .error kind => .error (.misuse (.compared .less kind .int))
  | none, .ok order =>
    match order, size with
    | some .lt, .float size => .error (.negativeSize size)
    | _, size => .error (.misuse (.repeated size.kind))

/-- What an instruction can see and change, set by hand. -/
structure State where
  cells : Array Value := #[]
  registers : Registers := {}
  pc : Value := .int 0
  flags : Flags := {}
  running : Value := .bool false
  cycles : Nat := 0
  deriving Repr, Inhabited

namespace State

/-- A state as a loose one. -/
def ofState (s : RegisterMachine.State) : State where
  cells := s.memory.cells.map .int
  registers := s.registers
  pc := .int s.pc
  flags := s.flags
  running := .bool s.running
  cycles := s.cycles

/-- The state at power-on of a machine with that many cells. -/
def initial (size : Nat) : State := ofState (.initial size)

/-- The state at power-on for a memory size of any kind. -/
def create (size : Value) : Except Error State := (cellCount size).map initial

/-- A snapshot, with the counter and the run switch as they are shown. -/
def ofSnapshot (s : Snapshot) (pc running : Value) : State where
  registers := s.registers
  pc := pc
  flags := s.flags
  running := running
  cycles := s.cycles

/-- The state without its memory. -/
def snapshot (s : State) : State := { s with cells := #[] }

/-- The state on one line. -/
def render (s : State) : Except Numeral.NumeralError String :=
  s.pc.write.map
    { registers := s.registers, flags := s.flags, running := s.running.truth,
      cycles := s.cycles : RegisterMachine.State }.renderWith

/-! ## Memory -/

/-- Whether an address lies inside the memory. -/
def contains (s : State) (address : Value) : Except Misuse Bool := address.isWithin s.cells.size

/-- The content of a cell; 0 outside the memory. -/
def read (s : State) (address : Value) : Except Misuse Value :=
  (address.cell? s.cells.size).map fun cell => (cell.bind (s.cells[·]?)).getD (.int 0)

/-- The state after a cell received the word of a value, and whether there is
such a cell. -/
def write (s : State) (address value : Value) : State × Except Misuse Bool :=
  match address.placement? value s.cells.size with
  | .error cause => (s, .error cause)
  | .ok none => (s, .ok false)
  | .ok (some (cell, word)) =>
    ({ s with cells := s.cells.setIfInBounds cell (.int word) }, .ok true)

/-- The state with the given cells, as they are, in front. A memory that is too
short for them grows. -/
def overlay (s : State) (front : Value) : Except Misuse State :=
  match front.items with
  | .ok items => .ok { s with cells := items.toArray ++ s.cells.extract items.length }
  | .error _ => .error (.counted front.kind)

/-! ## Registers and flags -/

/-- The content of a named register; 0 for an unknown name. -/
def register (s : State) (name : Value) : Except Misuse Int := name.name.map s.registers.named

/-- The state after a named register received the word of a value. -/
def setRegister (s : State) (name value : Value) : Except ExecutionError State :=
  (Primitive.assignment name value).map fun (r, word) =>
    { s with registers := s.registers.set r word }

/-- The state with the flags of a result of any kind. The carry flag takes a
number; the zero flag is set in any case. -/
def withResult (s : State) (result : Value) : State × Except Misuse Unit :=
  let zero := { s with flags := { s.flags with zero := result.isZero } }
  let carry : Except Misuse Bool := do
    if ← result.isGreater Flags.carryGreatest then return true
    else result.isLess Flags.carryLeast
  match carry with
  | .error cause => (zero, .error cause)
  | .ok carry => ({ zero with flags := { zero.flags with carry } }, .ok ())

/-! ## Decoding -/

/-- An operand cell, read as its kind says. -/
def operandValue (kind : OperandKind) (cell : Value) : Except Misuse Value :=
  match kind with
  | .register => (Register.ofValue cell).map fun r => .text r.name
  | .immediate | .address => .ok cell

/-- The operands of an instruction, from the cell at `address` on. -/
def readOperands (s : State) (address : Int) : List (String × OperandKind) → Except Misuse Params
  | [] => .ok []
  | (name, kind) :: rest => do
    let value ← operandValue kind (← s.read (.int address))
    let others ← readOperands s (address + 1) rest
    return (name, value) :: others

/-- The record of the instruction at the program counter. A counter at which an
instruction is found is an integer or a truth value. -/
def decode (s : State) : Except Error Record := do
  let opcode ← (s.read s.pc).mapError .misuse
  match ← (opcode? opcode).mapError .misuse with
  | some op =>
    let start := s.pc.integer?.getD 0
    let params ← (s.readOperands (start + 1) op.operands).mapError .misuse
    return { key := .text op.key, params := .table params, opcode, address := s.pc }
  | none =>
    let shown ← written opcode
    return {
      key := .text Opcode.invalidKey
      params := .table [("raw", opcode)]
      valid := .bool false
      error := .text (Decoded.unknownMessageOf shown)
      opcode
      address := s.pc }

/-! ## Executing -/

/-- What a primitive sees of a state and a record. -/
def view (s : State) (r : Record) : View where
  registers := s.registers
  memorySize := s.cells.size
  parameter := r.parameter

/-- The cells after an effect. -/
def cellsAfter (e : Effect) (cells : Array Value) : Array Value :=
  match e.stored with
  | some (cell, value) => cells.setIfInBounds cell (.int (Word.wrap value))
  | none => cells

/-- The state after an effect, with the program counter where it was. -/
def apply (s : State) (e : Effect) : State :=
  { s with
    cells := cellsAfter e s.cells
    registers := e.registers s.registers
    flags := e.flags s.flags
    running := if e.halts then .bool false else s.running }

/-- The primitive of the key of a record. -/
def primitive (g : Registry) (r : Record) : Except Error Primitive := do
  let key ← r.key.key.mapError .misuse
  match g.find? key with
  | some primitive => return primitive
  | none => throw (.execution (.unknownKey (← written key)))

/-- Where the program counter goes after a record with the given effect. -/
def onward (s : State) (r : Record) (e : Effect) : Except Misuse Value := do
  match e.destination with
  | some target => return target
  | none =>
    match ← r.stride? with
    | some cells => s.pc.advance cells
    | none => return s.pc

/-- The outcome of executing a record. -/
structure Executed where
  state : State
  result : Except Error Unit := .ok ()
  events : List Event := []

/-- Executes a record. When its events are heard, one that cannot be written
fails before anything is changed. -/
def execute (g : Registry) (heard : Bool) (s : State) (r : Record) : Executed :=
  let effect : Except Error (Effect × List Event) := do
    let primitive ← primitive g r
    let effect ← (primitive (s.view r)).mapError .execution
    let events := (effect.skipped.map Event.storeSkipped).toList
    if heard then
      let _ ← (Event.lines events).mapError .write
    return (effect, events)
  match effect with
  | .error cause => { state := s, result := .error cause }
  | .ok (effect, events) =>
    let onward := s.onward r effect
    let changed := s.apply effect
    match onward with
    | .error cause => { state := changed, result := .error (.misuse cause), events }
    | .ok pc => { state := { changed with pc, cycles := changed.cycles + 1 }, events }

end State

end Loose

end RegisterMachine
