import RegisterMachine.Proofs.Transition

/-!
# The opcode table, read directly

The machine decodes an instruction into a record with named parameters and looks
its effect up in a registry. The opcode table says the same in one line for each
opcode. This module reads the table as an interpreter of its own
(`OpcodeTable.step`): it looks at the cells at the program counter and knows no
names, and it wraps words, tells registers, sets flags and finds cells in its own
way.

The main statement is that one step of a machine changes the state as the table
says (`state_step_eq_table`), for every state and whatever the sink does.
-/

set_option autoImplicit false

namespace RegisterMachine

namespace OpcodeTable

/-! ## Reading the table -/

/-- The cell that lies so many cells behind the program counter; 0 past the end of
the memory. -/
def operand (s : State) (distance : Nat) : Int :=
  (s.memory.cells[s.pc.toNat + distance]?).getD 0

/-- The register of a code. Codes outside 0 to 4 mean AX. -/
def registerOf (code : Int) : Register :=
  if code = 1 then .bx
  else if code = 2 then .cx
  else if code = 3 then .dx
  else if code = 4 then .sp
  else .ax

/-- The value of the low 32 bits, the highest of which is the sign. -/
def signed (value : Int) : Int :=
  let low := value % 0x100000000
  if 0x80000000 ≤ low then low - 0x100000000 else low

/-- The flags of a result. -/
def flagsOf (result : Int) : Flags where
  zero := result == 0
  carry := decide (result > 65535) || decide (result < -32768)

variable (s : State)

/-- The register that an operand names. -/
def register (distance : Nat) : Register := registerOf (operand s distance)

/-- The content of the register that an operand names. -/
def content (distance : Nat) : Int := s.registers.get (register s distance)

/-- An instruction was executed, and the counter goes to a target. -/
def jumped (target : Int) : State := { s with pc := target, cycles := s.cycles + 1 }

/-- An instruction of that width was executed. -/
def moved (width : Nat) : State := jumped s (s.pc + width)

/-- The first register receives a result that sets the flags. -/
def computed (result : Int) : State :=
  { moved s 3 with
    registers := s.registers.set (register s 1) (signed result)
    flags := flagsOf (signed result) }

/-- The cell at an address receives a value, if there is such a cell. -/
def stored (address value : Int) : State :=
  if 0 ≤ address ∧ address < s.memory.cells.size then
    { moved s 3 with memory := ⟨s.memory.cells.setIfInBounds address.toNat (signed value)⟩ }
  else moved s 3

/-- The machine stops without executing anything. -/
def stopped : State := { s with running := false }

/-- The row of the table for the cell at the program counter. -/
def row : State :=
  match operand s 0 with
  | 1 => { moved s 3 with registers := s.registers.set (register s 1) (signed (operand s 2)) }
  | 2 => stored s (operand s 2) (content s 1)
  | 3 => computed s (content s 1 + content s 2)
  | 4 => computed s (content s 1 - content s 2)
  | 5 => computed s (content s 1 * content s 2)
  | 6 =>
    if content s 2 = 0 then { moved s 3 with running := false }
    else computed s ((content s 1).tdiv (content s 2))
  | 7 => jumped s (operand s 1)
  | 8 => if content s 1 = content s 2 then jumped s (operand s 3) else moved s 4
  | 9 => if content s 1 ≠ content s 2 then jumped s (operand s 3) else moved s 4
  | 10 => { moved s 3 with flags := flagsOf (signed (content s 1 - content s 2)) }
  | 11 => moved s 2
  | 12 => { jumped s s.pc with running := false }
  | _ => stopped s

/-- One step by the table. -/
def step : State :=
  if s.running then
    if 0 ≤ s.pc ∧ s.pc < s.memory.cells.size then row s else stopped s
  else s

/-! ## The operations are those of the machine -/

variable {s}

theorem operand_eq_read (inside : s.memory.InRange s.pc) (distance : Nat) :
    operand s distance = s.memory.read (s.pc + distance) := by
  have lower : 0 ≤ s.pc := inside.1
  have nonneg : 0 ≤ s.pc + distance := by omega
  have cell : (s.pc + distance).toNat = s.pc.toNat + distance := by omega
  rw [operand, Memory.read, if_pos nonneg, cell, Array.getD_eq_getD_getElem?]

theorem registerOf_eq_ofCode (code : Int) : registerOf code = .ofCode code := by
  unfold registerOf Register.ofCode
  split <;> grind

theorem signed_eq_wrap (value : Int) : signed value = Word.wrap value := by
  simp only [signed, Word.wrap, Word.modulus, Int.bmod_def]
  omega

theorem flagsOf_eq_ofResult (result : Int) : flagsOf result = .ofResult result := by
  have carry : (decide (result > 65535) || decide (result < -32768))
      = decide (Flags.carryGreatest < result ∨ result < Flags.carryLeast) := by
    rw [Bool.decide_or]
    rfl
  rw [flagsOf, Flags.ofResult, carry]
  rfl

theorem register_eq_ofCode (inside : s.memory.InRange s.pc) (distance : Nat) :
    register s distance = .ofCode (s.memory.read (s.pc + distance)) := by
  rw [register, registerOf_eq_ofCode, operand_eq_read inside]

theorem computed_eq (inside : s.memory.InRange s.pc) (result : Int) :
    computed s result =
      { s with
        registers := s.registers.set (.ofCode (s.memory.read (s.pc + 1))) (Word.wrap result)
        flags := .ofResult (Word.wrap result)
        pc := s.pc + 3
        cycles := s.cycles + 1 } := by
  have dest := register_eq_ofCode inside 1
  simp only [computed, moved, jumped, dest, signed_eq_wrap, flagsOf_eq_ofResult]
  rfl

theorem stored_eq (address value : Int) :
    stored s address value =
      { s with
        memory := s.memory.write address value
        pc := s.pc + 3
        cycles := s.cycles + 1 } := by
  by_cases inside : 0 ≤ address ∧ address < s.memory.cells.size
  · simp only [stored, inside, and_self, if_true, Memory.write, signed_eq_wrap]
    rfl
  · rw [stored, if_neg inside, Memory.write_of_not_inRange inside]
    rfl

/-- The row of an opcode executes the instruction at the program counter. -/
theorem row_of_instruction? {i : Instruction} (inside : s.memory.InRange s.pc)
    (found : s.instruction? = some i) : row s = s.execute i := by
  obtain ⟨op, known, rfl⟩ := Option.map_eq_some_iff.1 found
  have code : operand s 0 = op.code := by
    simpa [operand_eq_read inside] using Opcode.ofCode?_eq_some_iff.1 known
  unfold row
  rw [code]
  cases op with
  | load =>
    simp [Opcode.code, Instruction.ofCells, State.execute_load, moved, jumped,
      register_eq_ofCode inside, operand_eq_read inside, signed_eq_wrap]
  | store =>
    simp [Opcode.code, Instruction.ofCells, State.execute_store, stored_eq, content,
      register_eq_ofCode inside, operand_eq_read inside]
  | add | sub | mul =>
    simp [Opcode.code, Instruction.ofCells, State.execute_combine, Combination.combine,
      computed_eq inside, content, register_eq_ofCode inside]
  | div =>
    by_cases zero : s.registers.get (.ofCode (s.memory.read (s.pc + 2))) = 0
    · simp [Opcode.code, Instruction.ofCells, s.execute_divide_zero zero, zero, content, moved,
        jumped, register_eq_ofCode inside]
    · simp [Opcode.code, Instruction.ofCells, s.execute_divide zero, zero, content,
        computed_eq inside, register_eq_ofCode inside]
  | jmp =>
    simp [Opcode.code, Instruction.ofCells, State.execute_jump, jumped, operand_eq_read inside]
  | jeq | jne =>
    simp [Opcode.code, Instruction.ofCells, State.execute_branch, jumped, moved, content,
      register_eq_ofCode inside, operand_eq_read inside]
    split <;> rfl
  | cmp =>
    simp [Opcode.code, Instruction.ofCells, State.execute_compare, jumped, moved, content,
      register_eq_ofCode inside, signed_eq_wrap, flagsOf_eq_ofResult]
  | print =>
    simp [Opcode.code, Instruction.ofCells, State.execute_print, jumped, moved]
  | halt =>
    simp [Opcode.code, Instruction.ofCells, State.execute_halt, jumped]

theorem row_of_unknown (inside : s.memory.InRange s.pc) (unknown : s.instruction? = none) :
    row s = stopped s := by
  have none : Opcode.ofCode? (operand s 0) = none := by
    simpa [operand_eq_read inside] using Option.map_eq_none_iff.1 unknown
  unfold row
  split <;> first | rfl | simp_all [Opcode.ofCode?]

theorem step_of_running (runs : s.running = true) :
    step s = if s.memory.InRange s.pc then row s else stopped s := by
  rw [step, if_pos runs]
  rfl

/-- The state after a step is the one by the table. -/
theorem next_eq_step (s : State) : s.next = step s := by
  cases found : s.fetch with
  | stopped =>
    have halted : s.running = false := State.fetch_eq_iff.1 found
    simp [State.next, step, found, halted]
  | outside =>
    obtain ⟨runs, outside⟩ := State.fetch_eq_iff.1 found
    rw [step_of_running runs, if_neg outside, State.next, found, stopped]
  | unknown cell =>
    obtain ⟨runs, inside, unknown, -⟩ := State.fetch_eq_iff.1 found
    rw [step_of_running runs, if_pos inside, row_of_unknown inside unknown, State.next, found,
      stopped]
  | instruction i =>
    obtain ⟨runs, inside, known⟩ := State.fetch_eq_iff.1 found
    rw [step_of_running runs, if_pos inside, row_of_instruction? inside known, State.next, found]

end OpcodeTable

/-- **A step of a machine changes its state as the opcode table says**, for every
state and whatever the sink does. -/
theorem Machine.state_step_eq_table (m : Machine) :
    m.step.machine.state = OpcodeTable.step m.state := by
  rw [m.machine_step, m.state_stepped, OpcodeTable.next_eq_step]

end RegisterMachine
