/-!
# The instruction set

Twelve instructions, with the opcodes 1 to 12. An encoded instruction is an
opcode cell followed by one cell for each operand. The layout of the operands
(`Opcode.operands`) decides everything else about the encoding: how many cells
an instruction takes, how an operand cell is read, and how the instruction is
written as text.
-/

set_option autoImplicit false

namespace RegisterMachine

/-- How an operand cell is to be read. -/
inductive OperandKind where
  /-- The cell holds a register code. -/
  | register
  /-- The cell holds the value itself. -/
  | immediate
  /-- The cell holds a memory address. -/
  | address
  deriving DecidableEq, Repr

/-- The short name of an operand kind. -/
def OperandKind.label : OperandKind → String
  | .register => "reg"
  | .immediate => "imm"
  | .address => "addr"

/-- The twelve instructions, in the order of their opcodes. -/
inductive Opcode where
  | load
  | store
  | add
  | sub
  | mul
  | div
  | jmp
  | jeq
  | jne
  | cmp
  | print
  | halt
  deriving DecidableEq, Repr

namespace Opcode

/-- All instructions, in the order of their opcodes. -/
def all : List Opcode := [load, store, add, sub, mul, div, jmp, jeq, jne, cmp, print, halt]

/-- The content of the opcode cell. -/
def code : Opcode → Int
  | load => 1
  | store => 2
  | add => 3
  | sub => 4
  | mul => 5
  | div => 6
  | jmp => 7
  | jeq => 8
  | jne => 9
  | cmp => 10
  | print => 11
  | halt => 12

/-- The instruction with that opcode. -/
def ofCode? : Int → Option Opcode
  | 1 => some load
  | 2 => some store
  | 3 => some add
  | 4 => some sub
  | 5 => some mul
  | 6 => some div
  | 7 => some jmp
  | 8 => some jeq
  | 9 => some jne
  | 10 => some cmp
  | 11 => some print
  | 12 => some halt
  | _ => none

/-- The name of an instruction in assembly text. -/
def mnemonic : Opcode → String
  | load => "LOAD"
  | store => "STORE"
  | add => "ADD"
  | sub => "SUB"
  | mul => "MUL"
  | div => "DIV"
  | jmp => "JMP"
  | jeq => "JEQ"
  | jne => "JNE"
  | cmp => "CMP"
  | print => "PRINT"
  | halt => "HALT"

/-- The key under which a registry holds the effect of an instruction. -/
def key (op : Opcode) : String := "OP_" ++ op.mnemonic

/-- The key of a cell that is no opcode. No registry starts with it. -/
def invalidKey : String := "OP_INVALID"

/-- The operands of an instruction, in the order of their cells. -/
def operands : Opcode → List (String × OperandKind)
  | load => [("dest", .register), ("value", .immediate)]
  | store => [("src", .register), ("addr", .address)]
  | add | sub | mul | div => [("dest", .register), ("src", .register)]
  | jmp => [("addr", .address)]
  | jeq | jne => [("src1", .register), ("src2", .register), ("addr", .address)]
  | cmp => [("src1", .register), ("src2", .register)]
  | print => [("src", .register)]
  | halt => []

/-- The number of cells of an encoded instruction. -/
def width (op : Opcode) : Nat := 1 + op.operands.length

/-- Whether the program counter moves past the instruction after it ran. -/
def advances (op : Opcode) : Bool := op != halt

/-- Opcodes name instructions one to one. -/
theorem ofCode?_eq_some_iff {code : Int} {op : Opcode} :
    ofCode? code = some op ↔ code = op.code := by
  constructor
  · intro found
    unfold ofCode? at found
    split at found <;> first
      | (injection found with same; subst same; rfl)
      | (exact absurd found (by simp))
  · intro same
    subst same
    cases op <;> rfl

end Opcode

end RegisterMachine
