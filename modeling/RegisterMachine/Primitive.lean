import RegisterMachine.Decoded

/-!
# Primitives

A primitive is the meaning of a key. It sees the registers, the size of the
memory and the parameters of a record, and answers with an effect: what is to
be changed, and where the program counter is to go. It changes nothing itself,
so a primitive that fails leaves nothing behind.

Primitives look their parameters up by name and check their kinds as they go.
-/

set_option autoImplicit false

namespace RegisterMachine

/-- The ways in which executing a record can fail. -/
inductive ExecutionError where
  /-- The registry has no primitive of that key. -/
  | unknownKey (key : String)
  | parameter (cause : ParameterError)
  | register (cause : RegisterError)
  /-- A parameter is of the wrong kind. -/
  | misuse (cause : Misuse)
  deriving DecidableEq, Repr

/-- The text of an unknown key. -/
def unknownKeyMessage (key : String) : String := "Unknown operation key: " ++ key

def ExecutionError.message : ExecutionError → String
  | .unknownKey key => unknownKeyMessage key
  | .parameter cause => cause.message
  | .register cause => cause.message
  | .misuse cause => cause.message

/-! ## Effects -/

/-- What is to be done with a state. -/
structure Effect where
  /-- A register and the word it receives. -/
  assigned : Option (Register × Int) := none
  /-- The result that sets the flags. -/
  result : Option Int := none
  /-- A cell and the value it receives. -/
  stored : Option (Nat × Int) := none
  /-- Whether the machine stops. -/
  halts : Bool := false
  /-- Where the program counter goes instead of moving on. -/
  target : Option Value := none
  /-- The address of a store that was skipped. -/
  skipped : Option Value := none
  deriving Repr, Inhabited

namespace Effect

/-- The registers after an effect. -/
def registers (e : Effect) (file : Registers) : Registers :=
  match e.assigned with
  | some (r, word) => file.set r word
  | none => file

/-- The flags after an effect. -/
def flags (e : Effect) (flags : Flags) : Flags :=
  match e.result with
  | some result => .ofResult result
  | none => flags

/-- The memory after an effect. -/
def memory (e : Effect) (m : Memory) : Memory :=
  match e.stored with
  | some (cell, value) => m.write cell value
  | none => m

/-- The state after an effect, with the program counter where it was. -/
def apply (e : Effect) (s : State) : State :=
  { s with
    memory := e.memory s.memory
    registers := e.registers s.registers
    flags := e.flags s.flags
    running := s.running && !e.halts }

/-- An effect leaves the program counter where it was. -/
@[simp] theorem pc_apply (e : Effect) (s : State) : (e.apply s).pc = s.pc := rfl

/-- An effect counts no cycle. -/
@[simp] theorem cycles_apply (e : Effect) (s : State) : (e.apply s).cycles = s.cycles := rfl

/-- Where a jump goes: nothing is no target. -/
def destination (e : Effect) : Option Value :=
  match e.target with
  | some .nothing => none
  | target => target

end Effect

/-! ## What primitives see -/

/-- What a primitive sees of a state and a record. -/
structure View where
  registers : Registers
  memorySize : Nat
  /-- The parameter of that name. -/
  parameter : String → Except ExecutionError Value

/-- The meaning of a key. -/
abbrev Primitive := View → Except ExecutionError Effect

namespace View

/-- What a primitive sees of a state and the parameters of a record. -/
def ofState (s : State) (params : Params) : View where
  registers := s.registers
  memorySize := s.memory.size
  parameter name := (params.find name).mapError .parameter

/-- The content of the register that a parameter names; 0 if there is none. -/
def content (v : View) (operand : Value) : Except ExecutionError Int :=
  (operand.name.mapError .misuse).map v.registers.named

end View

namespace Primitive

/-- The register that a parameter names, with the word of a value for it. -/
def assignment (operand value : Value) : Except ExecutionError (Register × Int) := do
  let name ← operand.name.mapError .misuse
  match Register.ofName? name with
  | none => throw (.register (.unknown name))
  | some r => return (r, ← value.word.mapError .misuse)

/-! ## The twelve primitives -/

/-- Puts a value into a register. -/
def load : Primitive := fun v => do
  let dest ← v.parameter "dest"
  let value ← v.parameter "value"
  return { assigned := some (← assignment dest value) }

/-- Copies a register to memory; an address outside the memory is skipped. -/
def store : Primitive := fun v => do
  let src ← v.parameter "src"
  let value ← v.content src
  let address ← v.parameter "addr"
  match ← (address.cell? v.memorySize).mapError .misuse with
  | some cell => return { stored := some (cell, value) }
  | none => return { skipped := some address }

/-- Combines two registers, puts the word of the result into the first one and
sets the flags from it. -/
def arithmetic (combine : Int → Int → Int) : Primitive := fun v => do
  let dest ← v.parameter "dest"
  let left ← v.content dest
  let src ← v.parameter "src"
  let right ← v.content src
  let result := Word.wrap (combine left right)
  return { assigned := some (← assignment dest (.int result)), result := some result }

/-- Divides the first register by the second. A zero divisor stops the machine
and changes neither registers nor flags. -/
def divide : Primitive := fun v => do
  let dest ← v.parameter "dest"
  let src ← v.parameter "src"
  let divisor ← v.content src
  if divisor = 0 then return { halts := true }
  else
    let dividend ← v.content dest
    let result := Word.wrap (dividend.tdiv divisor)
    return { assigned := some (← assignment dest (.int result)), result := some result }

/-- Sets the flags from the difference of two registers. -/
def compare : Primitive := fun v => do
  let left ← v.content (← v.parameter "src1")
  let right ← v.content (← v.parameter "src2")
  return { result := some (Word.wrap (left - right)) }

/-- Jumps to an address. -/
def jump : Primitive := fun v => do
  return { target := some (← v.parameter "addr") }

/-- Jumps to an address if two registers compare as asked. -/
def branch (taken : Int → Int → Bool) : Primitive := fun v => do
  let left ← v.content (← v.parameter "src1")
  let right ← v.content (← v.parameter "src2")
  if taken left right then return { target := some (← v.parameter "addr") }
  else return {}

/-- Changes nothing. The machine passes the register on to its sink. -/
def print : Primitive := fun _ => .ok {}

/-- Stops the machine. -/
def halt : Primitive := fun _ => .ok { halts := true }

/-- Changes nothing and jumps to a fixed target, if there is one. -/
def constant (target : Value) : Primitive := fun _ => .ok { target := some target }

/-- The primitive of an instruction. -/
def ofOpcode : Opcode → Primitive
  | .load => load
  | .store => store
  | .add => arithmetic (· + ·)
  | .sub => arithmetic (· - ·)
  | .mul => arithmetic (· * ·)
  | .div => divide
  | .jmp => jump
  | .jeq => branch (fun left right => left = right)
  | .jne => branch (fun left right => left ≠ right)
  | .cmp => compare
  | .print => print
  | .halt => halt

end Primitive

end RegisterMachine
