import RegisterMachine.Opcode
import RegisterMachine.State
import RegisterMachine.Value.Operation

/-!
# Decoded instructions

Decoding reads the instruction at the program counter and gives a record: the
key under which a registry knows the effect, and the operands by name, register
codes already resolved to register names. Operand cells past the end of the
memory read as 0. A cell that is no opcode gives an invalid record.

A record can also be put together otherwise. Nothing then ties its key, its
opcode and its parameters to each other, so what belongs to the opcode (the
width, whether the counter advances, the assembly text) is looked up again, and
writing the text fails when a parameter is missing.

Cells are words here, and those have ten digits at most, so no integer is too
long to be written. The texts of records with cells of any length are subject to
the digit limit, and are given with the other loose things (`Loose.Record.text`,
`Loose.State.decode`).
-/

set_option autoImplicit false

namespace RegisterMachine

/-- Parameters by name. -/
abbrev Params := List (String × Value)

/-- A parameter of a record is missing. -/
inductive ParameterError where
  | missing (name : String)
  deriving DecidableEq, Repr

def ParameterError.message : ParameterError → String
  | .missing name => name

/-- The value of a parameter. -/
def Params.find (params : Params) (name : String) : Except ParameterError Value :=
  match params.lookup name with
  | some value => .ok value
  | none => .error (.missing name)

/-- The record of an instruction. -/
structure Decoded where
  key : String
  params : Params := []
  valid : Bool := true
  error : Option String := none
  opcode : Int := 0
  address : Int := 0
  deriving Repr, Inhabited

namespace Decoded

/-- The instruction of a valid record. -/
def instruction? (d : Decoded) : Option Opcode :=
  if d.valid then Opcode.ofCode? d.opcode else none

/-- The number of cells the record stands for. -/
def width (d : Decoded) : Nat :=
  match d.instruction? with
  | some op => op.width
  | none => 1

/-- Whether the program counter moves on after the record was executed. -/
def advances (d : Decoded) : Bool :=
  match d.instruction? with
  | some op => op.advances
  | none => false

/-! ## Decoding -/

/-- An operand cell, read as its kind says. -/
def operandValue (kind : OperandKind) (cell : Int) : Value :=
  match kind with
  | .register => .text (Register.ofCode cell).name
  | .immediate | .address => .int cell

/-- The operands of an instruction, from the cell at `address` on. -/
def readOperands (m : Memory) (address : Int) : List (String × OperandKind) → Params
  | [] => []
  | (name, kind) :: rest =>
    (name, operandValue kind (m.read address)) :: readOperands m (address + 1) rest

/-- What is said of an opcode cell that names no instruction, given its text. -/
def unknownMessageOf (opcode : String) : String := "Unknown instruction: " ++ opcode

/-- What is said of an opcode cell that names no instruction. -/
def unknownMessage (opcode : Int) : String := unknownMessageOf (toString opcode)

/-- The record of the instruction at the program counter. -/
def ofState (s : State) : Decoded :=
  let opcode := s.memory.read s.pc
  match Opcode.ofCode? opcode with
  | some op =>
    { key := op.key
      params := readOperands s.memory (s.pc + 1) op.operands
      opcode := opcode
      address := s.pc }
  | none =>
    { key := Opcode.invalidKey
      params := [("raw", .int opcode)]
      valid := false
      error := some (unknownMessage opcode)
      opcode := opcode
      address := s.pc }

/-! ## Assembly text -/

/-- One operand in assembly text. Brackets mark the address of a store. -/
def operandText (op : Opcode) (kind : OperandKind) (text : String) : String :=
  if op = .store ∧ kind = .address then "[" ++ text ++ "]" else text

/-- The operands of an instruction in assembly text, given the text of each
parameter. The first text that is missing is the error. -/
def operandTexts {ε : Type} (op : Opcode) (text : String → Except ε String) :
    List (String × OperandKind) → Except ε (List String)
  | [] => .ok []
  | (name, kind) :: rest => do
    let first ← text name
    let others ← operandTexts op text rest
    return operandText op kind first :: others

/-- An instruction in assembly text, given the text of each parameter. -/
def assemble {ε : Type} (op : Opcode) (text : String → Except ε String) : Except ε String := do
  let operands ← operandTexts op text op.operands
  return if operands.isEmpty then op.mnemonic
    else op.mnemonic ++ " " ++ ", ".intercalate operands

/-- The text of a record that is not valid, given the text of its opcode cell. -/
def unknownText (opcode : String) : String := "??? " ++ opcode

/-- The instruction in assembly text, such as `STORE AX, [5]`. A record that
is not valid shows its opcode cell. -/
def text (d : Decoded) : Except ParameterError String :=
  match d.instruction? with
  | none => .ok (unknownText (toString d.opcode))
  | some op => assemble op fun name => (d.params.find name).map Value.render

/-- What decoding says of validity, read off the opcode cell. -/
theorem valid_ofState (s : State) :
    (ofState s).valid = (Opcode.ofCode? (s.memory.read s.pc)).isSome := by
  unfold ofState
  cases h : Opcode.ofCode? (s.memory.read s.pc) <;> simp [h]

/-- The instruction of a decoded record is the one that the opcode cell names. -/
theorem instruction?_ofState (s : State) :
    (ofState s).instruction? = Opcode.ofCode? (s.memory.read s.pc) := by
  unfold ofState instruction?
  cases h : Opcode.ofCode? (s.memory.read s.pc) <;> simp [h]

end Decoded

end RegisterMachine
