import RegisterMachine.Proofs.Halting
import RegisterMachine.Proofs.Limit
import RegisterMachine.Proofs.Loading
import RegisterMachine.Proofs.Printing

/-!
# Code in memory

An instruction is written as its opcode and its operands, and instructions in a row as the cells
of one after the other (`Instruction.encode`). Where a memory holds the cells of an instruction, a
step finds that instruction (`State.fetch_of_holds`): decoding undoes the encoding. Code that is
loaded is placed in front, with its values and addresses wrapped (`holds_load_encode`).

`Machine.Executes` says of steps in a row which instructions they execute, and where. Such steps
lead to the state in which the instructions were executed one after the other, and print what
the instructions print (`Executes.state_eq`, `Executes.output_eq`). Most instructions just go on to
the next one (`Instruction.plain`). A block of such instructions, ended by any instruction, is
executed from its start to its end (`executes_block`).
-/

set_option autoImplicit false

namespace RegisterMachine

/-! ## Encoding -/

namespace Register

/-- The code by which an instruction names a register. -/
def code : Register → Int
  | ax => 0
  | bx => 1
  | cx => 2
  | dx => 3
  | sp => 4

@[simp] theorem ofCode_code (r : Register) : ofCode r.code = r := by
  cases r <;> rfl

theorem fits_code (r : Register) : Word.Fits r.code := by
  cases r <;> decide

end Register

namespace Instruction

/-- The operand cells of an instruction. -/
def operandCells : Instruction → List Int
  | load dest value => [dest.code, value]
  | store src address => [src.code, address]
  | combine _ dest src | divide dest src => [dest.code, src.code]
  | jump address => [address]
  | branch _ left right address => [left.code, right.code, address]
  | compare left right => [left.code, right.code]
  | print src => [src.code]
  | halt => []

/-- The cells of an instruction. -/
def cells (i : Instruction) : List Int := i.opcode.code :: i.operandCells

/-- The cells of instructions in a row. -/
def encode (code : List Instruction) : List Int := code.flatMap cells

theorem length_cells (i : Instruction) : i.cells.length = i.opcode.width := by
  cases i with
  | combine how dest src => cases how <;> rfl
  | branch ifEqual left right address => cases ifEqual <;> rfl
  | _ => rfl

/-- An instruction is read off its own operand cells. -/
theorem ofCells_operandCells (i : Instruction) :
    ofCells i.opcode (i.operandCells.getD 0 0) (i.operandCells.getD 1 0)
      (i.operandCells.getD 2 0) = i := by
  cases i with
  | combine how dest src =>
    cases how <;> simp [opcode, Combination.opcode, operandCells, ofCells]
  | branch ifEqual left right address => cases ifEqual <;> simp [opcode, operandCells, ofCells]
  | _ => simp [opcode, operandCells, ofCells]

theorem encode_cons (i : Instruction) (rest : List Instruction) :
    encode (i :: rest) = i.cells ++ encode rest := List.flatMap_cons

theorem encode_append (first second : List Instruction) :
    encode (first ++ second) = encode first ++ encode second := List.flatMap_append

/-- Instructions in a row, each with the address of its opcode. -/
def listing (address : Int) : List Instruction → List (Int × Instruction)
  | [] => []
  | i :: rest => (address, i) :: listing (address + i.opcode.width) rest

@[simp] theorem map_snd_listing (address : Int) (code : List Instruction) :
    (listing address code).map Prod.snd = code := by
  induction code generalizing address with
  | nil => rfl
  | cons i rest ih => rw [listing, List.map_cons, ih]

end Instruction

/-! ## Decoding -/

namespace Memory

/-- The memory holds those cells in a row, the first of them at that address. -/
def Holds (m : Memory) (address : Int) : List Int → Prop
  | [] => True
  | value :: rest => m.InRange address ∧ m.read address = value ∧ m.Holds (address + 1) rest

theorem holds_append {m : Memory} {address : Int} {first second : List Int} :
    m.Holds address (first ++ second) ↔
      m.Holds address first ∧ m.Holds (address + first.length) second := by
  induction first generalizing address with
  | nil => simp [Holds]
  | cons value rest ih =>
    have onward : address + 1 + (rest.length : Int) = address + ((value :: rest).length : Nat) := by
      rw [List.length_cons]
      omega
    simp only [List.cons_append, Holds, ih, onward, and_assoc]

end Memory

namespace State

variable {s : State} {i : Instruction}

/-- **Decoding undoes the encoding.** -/
theorem instruction?_of_holds (placed : s.memory.Holds s.pc i.cells) :
    s.instruction? = some i := by
  obtain ⟨-, opcode, operands⟩ := placed
  have known : Opcode.ofCode? (s.memory.read s.pc) = some i.opcode :=
    Opcode.ofCode?_eq_some_iff.2 opcode
  have second : s.pc + 1 + 1 = s.pc + 2 := by omega
  have third : s.pc + 2 + 1 = s.pc + 3 := by omega
  rw [instruction?, known, Option.map_some, Option.some_inj]
  cases i with
  | combine how dest src =>
    simp only [Instruction.operandCells, Memory.Holds, second] at operands
    cases how <;>
      simp [Instruction.opcode, Combination.opcode, Instruction.ofCells, operands]
  | branch ifEqual left right address =>
    simp only [Instruction.operandCells, Memory.Holds, second, third] at operands
    cases ifEqual <;> simp [Instruction.opcode, Instruction.ofCells, operands]
  | _ =>
    simp only [Instruction.operandCells, Memory.Holds, second] at operands
    simp [Instruction.opcode, Instruction.ofCells, operands]

/-- A running state finds the instruction whose cells are at its program counter. -/
theorem fetch_of_holds (runs : s.running = true) (placed : s.memory.Holds s.pc i.cells) :
    s.fetch = .instruction i :=
  fetch_eq_iff.2 ⟨runs, placed.1, instruction?_of_holds placed⟩

end State

/-! ## Loaded code -/

/-- A program that fits is placed in front, each of its cells wrapped. -/
theorem Machine.holds_load (m : Machine) {program : List Int}
    (fits : program.length ≤ m.memorySize) :
    (m.load program).state.memory.Holds 0 (program.map Word.wrap) := by
  have size := (m.loads_load program).size
  have suffix : ∀ first second, program = first ++ second →
      (m.load program).state.memory.Holds first.length (second.map Word.wrap) := by
    intro first second split
    induction second generalizing first with
    | nil => trivial
    | cons value rest ih =>
      have length := congrArg List.length split
      rw [List.length_append, List.length_cons] at length
      have found : program[first.length]? = some value := by simp [split]
      refine ⟨⟨by omega, ?_⟩, (m.loads_load program).covered _ _ found (by omega), ?_⟩
      · have inside : first.length < (m.load program).memorySize := by omega
        exact_mod_cast inside
      · have next := ih (first ++ [value]) (by rw [split, List.append_assoc]; rfl)
        rw [List.length_append, List.length_singleton] at next
        exact_mod_cast next
  exact suffix [] program rfl

namespace Instruction

/-- The instruction that is left when the cells of an instruction are wrapped. -/
def words : Instruction → Instruction
  | load dest value => load dest (Word.wrap value)
  | store src address => store src (Word.wrap address)
  | jump address => jump (Word.wrap address)
  | branch ifEqual left right address => branch ifEqual left right (Word.wrap address)
  | i => i

theorem cells_words (i : Instruction) : i.words.cells = i.cells.map Word.wrap := by
  have code (r : Register) : Word.wrap r.code = r.code := Word.wrap_of_fits r.fits_code
  have opcode (op : Opcode) : Word.wrap op.code = op.code := by cases op <;> rfl
  cases i with
  | branch ifEqual left right address =>
    cases ifEqual <;> simp [cells, operandCells, words, Instruction.opcode, code, opcode]
  | _ => simp [cells, operandCells, words, Instruction.opcode, code, opcode]

theorem encode_words (code : List Instruction) :
    encode (code.map words) = (encode code).map Word.wrap := by
  rw [encode, encode, List.flatMap_map, List.map_flatMap]
  exact List.flatMap_congr fun i _ => i.cells_words

end Instruction

/-- Code that fits is placed in front, with its values and addresses wrapped. -/
theorem Machine.holds_load_encode (m : Machine) {code : List Instruction}
    (fits : (Instruction.encode code).length ≤ m.memorySize) :
    (m.load (Instruction.encode code)).state.memory.Holds 0
      (Instruction.encode (code.map Instruction.words)) :=
  Instruction.encode_words code ▸ m.holds_load fits

/-- Code is placed as it is if it fits and nothing in it has to be wrapped. -/
theorem Machine.holds_load_of_words (m : Machine) {code : List Instruction}
    (words : code.map Instruction.words = code)
    (fits : (Instruction.encode code).length ≤ m.memorySize) :
    (m.load (Instruction.encode code)).state.memory.Holds 0 (Instruction.encode code) := by
  have placed := m.holds_load_encode fits
  rwa [words] at placed

/-! ## Steps that execute instructions -/

namespace State

/-- The state after instructions were executed one after the other. -/
def executeAll (s : State) (code : List Instruction) : State := code.foldl execute s

/-- What is printed when instructions are executed one after the other. -/
def emissions (s : State) : List Instruction → List Emission
  | [] => []
  | i :: rest => (i.emission? s.registers).toList ++ (s.execute i).emissions rest

theorem executeAll_append (s : State) (first second : List Instruction) :
    s.executeAll (first ++ second) = (s.executeAll first).executeAll second := List.foldl_append

theorem emissions_append (s : State) (first second : List Instruction) :
    s.emissions (first ++ second) = s.emissions first ++ (s.executeAll first).emissions second := by
  induction first generalizing s with
  | nil => rfl
  | cons i rest ih =>
    rw [List.cons_append, emissions, emissions, ih, List.append_assoc]
    rfl

end State

/-- Only a division can halt the machine with a reason. -/
theorem Instruction.haltReason?_eq_none {i : Instruction} (other : i.opcode ≠ .div)
    (file : Registers) : i.haltReason? file = none := by
  cases i with
  | divide dest src => exact absurd rfl other
  | _ => rfl

namespace Machine

/-- Steps in a row, each of which executes an instruction: the address and the instruction of each
step, and the machine that the last of them leaves. -/
inductive Executes : Machine → List (Int × Instruction) → Machine → Prop
  | nil (m : Machine) : Executes m [] m
  | cons {m last : Machine} {i : Instruction} {later : List (Int × Instruction)}
      (found : m.state.fetch = .instruction i) (rest : Executes m.stepped later last) :
      Executes m ((m.state.pc, i) :: later) last

theorem state_stepped_of_instruction {m : Machine} {i : Instruction}
    (found : m.state.fetch = .instruction i) : m.stepped.state = m.state.execute i := by
  rw [state_stepped, State.next_of_instruction found]

namespace Executes

variable {m middle last : Machine} {visits later : List (Int × Instruction)}

theorem append (first : Executes m visits middle) (second : Executes middle later last) :
    Executes m (visits ++ later) last := by
  induction first with
  | nil m => exact second
  | cons found _ ih => exact .cons found (ih second)

theorem last_eq (executes : Executes m visits last) : last = m.steps visits.length := by
  induction executes with
  | nil m => rfl
  | cons _ _ ih => rw [List.length_cons, steps_succ, ih]

theorem state_eq (executes : Executes m visits last) :
    last.state = m.state.executeAll (visits.map Prod.snd) := by
  induction executes with
  | nil m => rfl
  | cons found _ ih =>
    rw [ih, state_stepped_of_instruction found]
    rfl

/-- **What is printed is what the instructions print**, whatever the sink does. -/
theorem output_eq (executes : Executes m visits last) :
    last.output.toList = m.output.toList ++ m.state.emissions (visits.map Prod.snd) := by
  induction executes with
  | nil m => exact (List.append_nil _).symm
  | @cons m last i later found _ ih =>
    rw [ih, (m.printed_stepped).output, State.printed?_of_instruction found,
      state_stepped_of_instruction found, List.append_assoc]
    rfl

/-- Instructions other than divisions give no reason for a halt. -/
theorem haltReason_eq (executes : Executes m visits last)
    (regular : ∀ i ∈ visits.map Prod.snd, i.opcode ≠ .div) : last.haltReason = m.haltReason := by
  induction executes with
  | nil m => rfl
  | @cons m last i later found _ ih =>
    obtain ⟨here, others⟩ := List.forall_mem_cons.1 regular
    rw [ih others, haltReason_stepped, haltReason_proceed, State.abnormal?, found]
    simp only [Instruction.haltReason?_eq_none here, Option.none_or]

/-- **A walk to a halt visits what is executed**, each instruction once and in order. -/
theorem visits_of_walk (executes : Executes m visits last) (halts : last.state.running = false)
    {path : List Machine} {other : Machine} (walk : Walk m path other)
    (stops : other.state.running = false) :
    path.map (fun m => (m.state.pc, m.state.fetch))
      = visits.map (Prod.map id Fetched.instruction) := by
  induction executes generalizing path with
  | nil m =>
    cases walk with
    | nil => rfl
    | cons runs => exact absurd runs (Bool.eq_false_iff.1 halts)
  | @cons m last i later found _ ih =>
    cases walk with
    | nil =>
      obtain ⟨runs, -⟩ := State.fetch_eq_iff.1 found
      exact absurd runs (Bool.eq_false_iff.1 stops)
    | cons _ rest => rw [List.map_cons, List.map_cons, ih halts rest, found]; rfl

end Executes

end Machine

/-! ## Blocks -/

namespace Instruction

/-- Whether an instruction goes on to the next one and leaves the memory alone, whatever the
registers hold. -/
def plain : Instruction → Bool
  | load .. | combine .. | compare .. | print .. => true
  | _ => false

theorem opcode_ne_div_of_plain {i : Instruction} (plain : i.plain = true) : i.opcode ≠ .div := by
  cases i with
  | combine how dest src => cases how <;> nofun
  | load | compare | print => nofun
  | _ => cases plain

end Instruction

/-- What a plain instruction does not change, and that it moves on. -/
theorem State.execute_of_plain (s : State) {i : Instruction} (plain : i.plain = true) :
    (s.execute i).memory = s.memory ∧ (s.execute i).running = s.running ∧
      (s.execute i).pc = s.pc + i.opcode.width := by
  cases i with
  | load dest value =>
    rw [execute_load]
    exact ⟨rfl, rfl, rfl⟩
  | combine how dest src =>
    rw [execute_combine]
    cases how <;> exact ⟨rfl, rfl, rfl⟩
  | compare left right =>
    rw [execute_compare]
    exact ⟨rfl, rfl, rfl⟩
  | print src =>
    rw [execute_print]
    exact ⟨rfl, rfl, rfl⟩
  | _ => cases plain

namespace Machine

/-- **A block is executed from its start to its end.** Its instructions are plain, but for the last
one, which may be any. -/
theorem executes_block {m : Machine} {block : List Instruction} {exit : Instruction}
    (plain : ∀ i ∈ block, i.plain = true) (runs : m.state.running = true)
    (placed : m.state.memory.Holds m.state.pc (Instruction.encode (block ++ [exit]))) :
    Executes m (Instruction.listing m.state.pc (block ++ [exit])) (m.steps (block.length + 1)) := by
  induction block generalizing m with
  | nil =>
    have here : m.state.memory.Holds m.state.pc exit.cells := by
      simpa [Instruction.encode] using placed
    rw [List.length_nil, steps_succ, steps_zero]
    exact .cons (State.fetch_of_holds runs here) (.nil _)
  | cons i rest ih =>
    obtain ⟨first, others⟩ := List.forall_mem_cons.1 plain
    obtain ⟨here, behind⟩ := Memory.holds_append.1 placed
    have found := State.fetch_of_holds runs here
    obtain ⟨memory, running, pc⟩ := m.state.execute_of_plain first
    have state := state_stepped_of_instruction found
    rw [← state] at memory running pc
    rw [Instruction.length_cells, ← pc, ← memory] at behind
    rw [List.length_cons, steps_succ, List.cons_append, Instruction.listing, ← pc]
    exact .cons found (ih others (running.trans runs) behind)

/-! ## Runs to a halt -/

/-- A run goes to the halt, if its limit is not reached before. -/
theorem Reliable.run_of_stopped {m : Machine} (reliable : m.Reliable) {n : Nat}
    (halts : (m.steps n).state.running = false) {limit : Option Int}
    (enough : ∀ bound ∈ limit <|> m.maxCycles, (m.state.cycles : Int) + n ≤ bound) :
    (m.run limit).machine = m.steps n := by
  cases given : limit <|> m.maxCycles with
  | none =>
    rw [run, given]
    exact reliable.runFreely_eq_steps halts
  | some bound =>
    have within := enough bound given
    obtain ⟨more, sum⟩ : ∃ more, (bound - m.state.cycles).toNat = n + more :=
      ⟨(bound - m.state.cycles).toNat - n, by omega⟩
    rw [reliable.run_eq_steps_of_limit given, sum, steps_add, steps_of_stopped halts]

end Machine

end RegisterMachine
