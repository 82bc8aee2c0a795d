import RegisterMachine.Proofs.Halting
import RegisterMachine.Proofs.Limit

/-!
# Machines that go on jump back

Only a jump can lower the program counter. Every other instruction that lets the machine run
on moves it up by the width of the instruction, and no width is zero (`State.pc_lt_next`). The
counter of an executed instruction lies in the memory, so there are no more than so many moves
up in a row as there are cells (`State.le_pc_iterate`), whatever the instructions write to
memory on the way.

So among any steps that execute one instruction more than there are cells, one before the last
jumps to its own address or to one before it; and a machine that jumps forward only halts
within that number of steps (`jumps_back`).

Where a state jumps is read off its cells (`State.jump?`).
-/

set_option autoImplicit false

namespace RegisterMachine

namespace State

/-- The next step executes an instruction: the program counter is in the memory, and the cell
there is an opcode. -/
def Executing (s : State) : Prop :=
  s.running = true ∧ s.memory.InRange s.pc ∧ 1 ≤ s.memory.read s.pc ∧ s.memory.read s.pc ≤ 12

instance (s : State) : Decidable s.Executing := inferInstanceAs (Decidable (_ ∧ _))

/-- The target of the jump that the next step takes, if it takes one. Jumps have the opcode 7,
and the opcodes 8 and 9 if they are taken only where two registers are equal, or differ. -/
def jump? (s : State) : Option Int :=
  let operand (n : Int) := s.memory.read (s.pc + n)
  let equal := s.registers.get (.ofCode (operand 1)) = s.registers.get (.ofCode (operand 2))
  if s.running = true ∧ s.memory.InRange s.pc then
    match s.memory.read s.pc with
    | 7 => some (operand 1)
    | 8 => if equal then some (operand 3) else none
    | 9 => if equal then none else some (operand 3)
    | _ => none
  else none

variable {s : State}

theorem executing_iff : s.Executing ↔ ∃ i, s.fetch = .instruction i := by
  constructor
  · rintro ⟨runs, inside, opcode⟩
    have known : s.instruction? ≠ none := by
      rw [instruction?, Ne, Option.map_eq_none_iff, Opcode.ofCode?_eq_none_iff]
      exact fun unknown => unknown opcode
    obtain ⟨i, found⟩ := Option.ne_none_iff_exists'.1 known
    exact ⟨i, fetch_eq_iff.2 ⟨runs, inside, found⟩⟩
  · rintro ⟨i, found⟩
    obtain ⟨runs, inside, decoded⟩ := fetch_eq_iff.1 found
    have known : Opcode.ofCode? (s.memory.read s.pc) ≠ none := by
      rw [Opcode.ofCode?_eq_some_iff.2 (read_of_instruction? decoded)]
      exact Option.some_ne_none _
    exact ⟨runs, inside, not_not.1 (Opcode.ofCode?_eq_none_iff.not.1 known)⟩

/-- A state jumps to where its instruction does. -/
theorem jump?_of_instruction {i : Instruction} (found : s.fetch = .instruction i) :
    s.jump? = i.target? s.registers := by
  obtain ⟨runs, inside, decoded⟩ := fetch_eq_iff.1 found
  obtain ⟨op, known, rfl⟩ := Option.map_eq_some_iff.1 decoded
  have opcode := Opcode.ofCode?_eq_some_iff.1 known
  rw [jump?, if_pos ⟨runs, inside⟩, opcode]
  cases op with
  | jeq | jne => simp [Opcode.code, Instruction.ofCells, Instruction.target?]
  | _ => rfl

/-- A jump goes to its target. -/
theorem pc_next_of_jump {target : Int} (executing : s.Executing) (jumps : s.jump? = some target) :
    s.next.pc = target := by
  obtain ⟨i, found⟩ := executing_iff.1 executing
  rw [jump?_of_instruction found] at jumps
  rw [next_of_instruction found, pc_execute, Instruction.onward, jumps, Option.getD_some]

/-- A state that runs on after a step has executed an instruction. -/
theorem executing_of_running_next (runs : s.next.running = true) : s.Executing := by
  rw [executing_iff]
  cases found : s.fetch with
  | instruction i => exact ⟨i, rfl⟩
  | stopped =>
    rw [next, found] at runs
    rw [fetch_eq_iff.1 found] at runs
    cases runs
  | outside | unknown cell =>
    rw [next, found] at runs
    cases runs

/-- A halt is the only instruction that stays where it is, and it ends the run. -/
theorem advances_of_running {i : Instruction} (runs : (s.execute i).running = true) :
    i.opcode.advances = true := by
  cases i with
  | halt =>
    rw [execute_halt] at runs
    cases runs
  | combine how dest src => cases how <;> rfl
  | branch ifEqual left right address => cases ifEqual <;> rfl
  | _ => rfl

/-- **An instruction that lets the machine run on moves the counter up**, unless it jumps back. -/
theorem pc_lt_next (runs : s.next.running = true)
    (forward : ∀ target ∈ s.jump?, s.pc < target) : s.pc < s.next.pc := by
  have executing := executing_of_running_next runs
  cases jumps : s.jump? with
  | some target =>
    rw [pc_next_of_jump executing jumps]
    exact forward target jumps
  | none =>
    obtain ⟨i, found⟩ := executing_iff.1 executing
    rw [jump?_of_instruction found] at jumps
    rw [next_of_instruction found] at runs ⊢
    rw [pc_execute, Instruction.onward, jumps, Option.getD_none, if_pos (advances_of_running runs)]
    simp only [Opcode.width]
    omega

/-- **While a state runs on and never jumps back, its counter moves up at every step.** -/
theorem le_pc_iterate {n : Nat} (inside : s.memory.InRange s.pc)
    (runs : ∀ k < n, (next^[k + 1] s).running = true)
    (forward : ∀ k < n, ∀ target ∈ (next^[k] s).jump?, (next^[k] s).pc < target) :
    (n : Int) ≤ (next^[n] s).pc := by
  induction n with
  | zero => exact inside.1
  | succ n ih =>
    have before := ih (fun k below => runs k (Nat.lt_succ_of_lt below))
      (fun k below => forward k (Nat.lt_succ_of_lt below))
    have goesOn := runs n (Nat.lt_succ_self n)
    rw [Function.iterate_succ_apply'] at goesOn ⊢
    have up := pc_lt_next goesOn (forward n (Nat.lt_succ_self n))
    push_cast
    omega

/-- **Where one instruction more than there are cells is executed, one before the last jumps
back.** -/
theorem exists_jump_back (executing : ∀ k ≤ s.memory.size, (next^[k] s).Executing) :
    ∃ k < s.memory.size, ∃ target ∈ (next^[k] s).jump?, target ≤ (next^[k] s).pc := by
  by_contra none
  push Not at none
  have inside : s.memory.InRange s.pc := (executing 0 (Nat.zero_le _)).2.1
  have up := le_pc_iterate inside (fun k below => (executing (k + 1) below).1) none
  -- So the last instruction is behind the memory.
  obtain ⟨-, ⟨-, below⟩, -⟩ := executing s.memory.size (Nat.le_refl _)
  rw [(follows_iterate s s.memory.size).size_eq] at below
  omega

/-- A state that runs on executes an instruction at every step. -/
theorem executing_iterate {n k : Nat} (runs : (next^[n + 1] s).running = true) (le : k ≤ n) :
    (next^[k] s).Executing := by
  have goesOn := running_of_le (Nat.succ_le_succ le) runs
  rw [Function.iterate_succ_apply'] at goesOn
  exact executing_of_running_next goesOn

end State

namespace Machine

/-- **What goes on jumps back.** Of any steps in a row that each execute an instruction, one more
than there are cells, one before the last jumps to its own address or to one before it. A machine
whose jumps all go forward halts within so many steps from any point on. -/
theorem jumps_back (m : Machine) (first : Nat) :
    ((∀ k ≤ m.memorySize, (m.steps (first + k)).state.Executing) →
      ∃ k < m.memorySize, ∃ target ∈ (m.steps (first + k)).state.jump?,
        target ≤ (m.steps (first + k)).state.pc ∧
        (m.steps (first + k + 1)).state.pc = target) ∧
    ((∀ k < m.memorySize, ∀ target ∈ (m.steps (first + k)).state.jump?,
        (m.steps (first + k)).state.pc < target) →
      (m.steps (first + (m.memorySize + 1))).state.running = false) := by
  have visit (k : Nat) : (m.steps (first + k)).state = State.next^[k] (m.steps first).state := by
    rw [steps_add, state_steps]
  have size : m.memorySize = (m.steps first).state.memory.size := by
    rw [state_steps, (State.follows_iterate m.state first).size_eq, memorySize]
  simp only [Nat.add_assoc, visit, size]
  generalize (m.steps first).state = s
  constructor
  · intro executing
    obtain ⟨k, below, target, jumps, back⟩ := State.exists_jump_back executing
    have arrives := State.pc_next_of_jump (executing k (Nat.le_of_lt below)) jumps
    rw [← Function.iterate_succ_apply' State.next] at arrives
    exact ⟨k, below, target, jumps, back, arrives⟩
  · intro forward
    by_contra runs
    obtain ⟨k, below, target, jumps, back⟩ := State.exists_jump_back fun k le =>
      State.executing_iterate (Bool.eq_true_of_not_eq_false runs) le
    exact absurd (forward k below target jumps) (Int.not_lt.2 back)

/-- Code that writes the target of its own jump, and code that jumps over a cell to its halt. -/
theorem jumps_back_of_loop_and_of_forward_jump :
    let loop := (powerOn 5).load [2, 0, 4, 7, 5]
    let forward := (powerOn 4).load [7, 3, 0, 12]
    (∀ k ≤ 5, (loop.steps (1 + k)).state.Executing) ∧
      (∃ k < 5, ∃ target ∈ (loop.steps (1 + k)).state.jump?,
        target ≤ (loop.steps (1 + k)).state.pc ∧ (loop.steps (1 + k + 1)).state.pc = target) ∧
      (∀ k < 4, ∀ target ∈ (forward.steps (0 + k)).state.jump?,
        (forward.steps (0 + k)).state.pc < target) ∧
      (forward.steps (0 + (4 + 1))).state.running = false := by
  intro loop forward
  have executing : ∀ k ≤ 5, (loop.steps (1 + k)).state.Executing := by decide +kernel
  have onward : ∀ k < 4, ∀ target ∈ (forward.steps (0 + k)).state.jump?,
      (forward.steps (0 + k)).state.pc < target := by decide +kernel
  have loopSize : loop.memorySize = 5 := by decide
  have forwardSize : forward.memorySize = 4 := by decide
  obtain ⟨back, -⟩ := loop.jumps_back 1
  obtain ⟨-, halts⟩ := forward.jumps_back 0
  rw [loopSize] at back
  rw [forwardSize] at halts
  exact ⟨executing, back executing, onward, halts onward⟩

end Machine

end RegisterMachine
