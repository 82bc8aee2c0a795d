import RegisterMachine.Proofs.Chronicle
import RegisterMachine.Proofs.Printing

/-!
# Spare memory

A program that fits into its memory does not notice further cells behind it. Reading
behind the smaller memory gives 0, and the spare cells of the larger one hold 0, so every
address reads the same in both (`Memory.Extends`). Three things would tell the two apart: a
program counter or a store that leaves the smaller memory, and SP, which starts at the last
cell. A step that does none of them is `Confined`.

A confined step finds the same in both memories (`State.Extends.fetch`) and leaves states
that differ in the spare cells and in SP only (`State.Extends.next`). So do confined steps
in a row, and the machines around the states print the same and halt for the same reason
(`Machine.Extends.steps`).
-/

set_option autoImplicit false

namespace RegisterMachine

/-! ## Memories -/

/-- A memory with spare cells, all 0, behind those of a smaller one. -/
structure Memory.Extends (larger smaller : Memory) : Prop where
  size_le : smaller.size ≤ larger.size
  read : ∀ address, larger.read address = smaller.read address

namespace Memory.Extends

variable {larger smaller : Memory}

theorem inRange (spare : larger.Extends smaller) {address : Int}
    (inside : smaller.InRange address) : larger.InRange address := by
  have le := spare.size_le
  have upper := inside.2
  exact ⟨inside.1, by omega⟩

theorem blank {size spacious : Nat} (le : size ≤ spacious) :
    (Memory.blank spacious).Extends (.blank size) where
  size_le := by simpa using le
  read address := by rw [read_blank, read_blank]

/-- Cells that fit into the smaller memory are placed alike. -/
theorem overlay (spare : larger.Extends smaller) {front : List Int}
    (fits : front.length ≤ smaller.size) :
    (larger.overlay front).Extends (smaller.overlay front) where
  size_le := by simpa using spare.size_le
  read address := by
    rw [read_overlay, read_overlay, spare.read]
    by_cases covered : 0 ≤ address ∧ address.toNat < front.length
    · have inside : smaller.InRange address := ⟨covered.1, by omega⟩
      rw [if_pos ⟨spare.inRange inside, covered.2⟩, if_pos ⟨inside, covered.2⟩]
    · rw [if_neg fun placed => covered ⟨placed.1.1, placed.2⟩,
        if_neg fun placed => covered ⟨placed.1.1, placed.2⟩]

/-- A word is placed alike, if not behind the smaller memory. -/
theorem write (spare : larger.Extends smaller) {address : Int}
    (below : address < smaller.size) (value : Int) :
    (larger.write address value).Extends (smaller.write address value) where
  size_le := by simpa using spare.size_le
  read other := by
    rw [read_write, read_write, spare.read]
    by_cases here : other = address ∧ 0 ≤ address
    · have inside : smaller.InRange address := ⟨here.2, below⟩
      rw [if_pos ⟨here.1, spare.inRange inside⟩, if_pos ⟨here.1, inside⟩]
    · rw [if_neg fun placed => here ⟨placed.1, placed.2.1⟩,
        if_neg fun placed => here ⟨placed.1, placed.2.1⟩]

end Memory.Extends

/-! ## Confined steps -/

namespace Instruction

/-- The registers that an instruction names. -/
def registers : Instruction → List Register
  | load dest _ => [dest]
  | store src _ | print src => [src]
  | combine _ dest src | divide dest src => [dest, src]
  | branch _ left right _ | compare left right => [left, right]
  | jump _ | halt => []

/-- The address that an instruction stores to. -/
def storesAt? : Instruction → Option Int
  | store _ address => some address
  | _ => none

end Instruction

/-- What a step found does not depend on where the memory ends. -/
def Fetched.Confined (size : Nat) : Fetched → Prop
  | outside => False
  | instruction i => .sp ∉ i.registers ∧ ∀ address ∈ i.storesAt?, address < (size : Int)
  | stopped | unknown _ => True

instance (size : Nat) : (found : Fetched) → Decidable (found.Confined size)
  | .outside => inferInstanceAs (Decidable False)
  | .instruction _ => inferInstanceAs (Decidable (_ ∧ _))
  | .stopped | .unknown _ => inferInstanceAs (Decidable True)

/-- A step from the state is taken inside the memory: it does not begin outside of it, nor
store behind it, nor name SP. -/
def State.Confined (s : State) : Prop := s.fetch.Confined s.memory.size

instance (s : State) : Decidable s.Confined :=
  inferInstanceAs (Decidable (s.fetch.Confined s.memory.size))

theorem State.Confined.of_instruction {s : State} (confined : s.Confined) {i : Instruction}
    (found : s.fetch = .instruction i) :
    .sp ∉ i.registers ∧ ∀ address ∈ i.storesAt?, address < (s.memory.size : Int) := by
  rw [Confined, found] at confined
  exact confined

/-! ## Instructions -/

namespace Instruction

variable {i : Instruction} {file other : Registers}

/-- An instruction that is confined has the same effect in a larger memory. -/
theorem effect_congr {size spacious : Nat} (le : size ≤ spacious)
    (same : ∀ r ∈ i.registers, other.get r = file.get r)
    (stores : ∀ address ∈ i.storesAt?, address < (size : Int)) :
    i.effect other spacious = i.effect file size := by
  cases i with
  | store src address =>
    have below : address < size := stores address rfl
    have inside : (0 ≤ address ∧ address < spacious) ↔ 0 ≤ address ∧ address < size := by omega
    simp only [effect, inside, same src (List.mem_singleton_self src)]
  | load dest value => rfl
  | jump address => rfl
  | print src => rfl
  | halt => rfl
  | _ =>
    simp only [registers, List.forall_mem_cons] at same
    simp only [effect, same.1, same.2.1]

theorem target?_congr (same : ∀ r ∈ i.registers, other.get r = file.get r) :
    i.target? other = i.target? file := by
  cases i with
  | branch ifEqual left right address =>
    simp only [registers, List.forall_mem_cons] at same
    simp only [target?, same.1, same.2.1]
  | _ => rfl

theorem emission?_congr (same : ∀ r ∈ i.registers, other.get r = file.get r) :
    i.emission? other = i.emission? file := by
  cases i with
  | print src => simp only [emission?, same src (List.mem_singleton_self src)]
  | _ => rfl

theorem haltReason?_congr (same : ∀ r ∈ i.registers, other.get r = file.get r) :
    i.haltReason? other = i.haltReason? file := by
  cases i with
  | divide dest src =>
    simp only [registers, List.forall_mem_cons] at same
    simp only [haltReason?, same.2.1]
  | _ => rfl

/-- An instruction stores to a cell of the memory only, and not to an address behind it. -/
theorem stored_effect_lt {size cell : Nat} {value : Int}
    (stored : (i.effect file size).stored = some (cell, value)) : cell < size := by
  cases i with
  | store src address =>
    by_cases inside : 0 ≤ address ∧ address < size
    · simp only [effect, inside, and_self, if_true, Option.some.injEq, Prod.mk.injEq] at stored
      omega
    · simp [effect, inside] at stored
  | divide dest src => by_cases zero : file.get src = 0 <;> simp [effect, zero] at stored
  | branch ifEqual left right address =>
    by_cases taken : decide (file.get left = file.get right) = ifEqual <;>
      simp [effect, taken] at stored
  | _ => simp [effect] at stored

end Instruction

/-! ## States -/

/-- A state like another one, except that its memory has spare cells and that SP may differ. -/
structure State.Extends (larger smaller : State) : Prop where
  memory : larger.memory.Extends smaller.memory
  registers : ∀ r, r ≠ .sp → larger.registers.get r = smaller.registers.get r
  pc : larger.pc = smaller.pc
  flags : larger.flags = smaller.flags
  running : larger.running = smaller.running
  cycles : larger.cycles = smaller.cycles

namespace State.Extends

variable {larger smaller : State}

theorem initial {size spacious : Nat} (le : size ≤ spacious) :
    (State.initial spacious).Extends (.initial size) where
  memory := .blank le
  registers r other := by
    cases r with
    | sp => exact absurd rfl other
    | _ => rfl
  pc := rfl
  flags := rfl
  running := rfl
  cycles := rfl

theorem instruction? (spare : larger.Extends smaller) :
    larger.instruction? = smaller.instruction? := by
  simp only [State.instruction?, spare.pc, spare.memory.read]

/-- **A confined step finds the same** in the larger memory. -/
theorem fetch (spare : larger.Extends smaller) (confined : smaller.Confined) :
    larger.fetch = smaller.fetch := by
  cases found : smaller.fetch with
  | outside => exact absurd confined (by simp [Confined, found, Fetched.Confined])
  | stopped =>
    have halted : smaller.running = false := fetch_eq_iff.1 found
    exact fetch_eq_iff.2 (spare.running.trans halted)
  | unknown cell =>
    obtain ⟨runs, inside, unknown, content⟩ := fetch_eq_iff.1 found
    refine fetch_eq_iff.2 ⟨spare.running.trans runs, ?_, spare.instruction?.trans unknown, ?_⟩
    · rw [spare.pc]
      exact spare.memory.inRange inside
    · rw [spare.pc, spare.memory.read, content]
  | instruction i =>
    obtain ⟨runs, inside, known⟩ := fetch_eq_iff.1 found
    refine fetch_eq_iff.2 ⟨spare.running.trans runs, ?_, spare.instruction?.trans known⟩
    rw [spare.pc]
    exact spare.memory.inRange inside

/-- The registers that a confined instruction names have the same contents. -/
theorem named (spare : larger.Extends smaller) {i : Instruction} (unnamed : .sp ∉ i.registers) :
    ∀ r ∈ i.registers, larger.registers.get r = smaller.registers.get r := by
  intro r listed
  refine spare.registers r ?_
  rintro rfl
  exact unnamed listed

/-- An effect that stores nothing behind the smaller memory acts alike. -/
theorem apply (spare : larger.Extends smaller) {e : Effect}
    (inside : ∀ cell value, e.stored = some (cell, value) → cell < smaller.memory.size) :
    (e.apply larger).Extends (e.apply smaller) where
  memory := by
    cases stored : e.stored with
    | none => simpa only [Effect.apply, Effect.memory, stored] using spare.memory
    | some placed =>
      obtain ⟨cell, value⟩ := placed
      have below := inside cell value stored
      simpa only [Effect.apply, Effect.memory, stored] using
        spare.memory.write (by omega) value
  registers r other := by
    cases assigned : e.assigned with
    | none => simpa only [Effect.apply, Effect.registers, assigned] using spare.registers r other
    | some given =>
      simp only [Effect.apply, Effect.registers, assigned, Registers.get_set,
        spare.registers r other]
  pc := spare.pc
  flags := by simp only [Effect.apply, spare.flags]
  running := by simp only [Effect.apply, spare.running]
  cycles := spare.cycles

theorem execute (spare : larger.Extends smaller) {i : Instruction}
    (unnamed : .sp ∉ i.registers)
    (stores : ∀ address ∈ i.storesAt?, address < (smaller.memory.size : Int)) :
    (larger.execute i).Extends (smaller.execute i) := by
  have named := spare.named unnamed
  have effect := i.effect_congr spare.memory.size_le named stores
  have applied := spare.apply (e := i.effect smaller.registers smaller.memory.size)
    fun _ _ => Instruction.stored_effect_lt
  simp only [State.execute, effect, Instruction.onward, i.target?_congr named, spare.pc,
    spare.cycles]
  exact { applied with pc := rfl, cycles := rfl }

/-- **A confined step leaves the spare cells alone.** -/
theorem next (spare : larger.Extends smaller) (confined : smaller.Confined) :
    larger.next.Extends smaller.next := by
  have fetched := spare.fetch confined
  unfold State.next
  rw [fetched]
  cases found : smaller.fetch with
  | stopped => exact spare
  | outside => exact { spare with running := rfl }
  | unknown cell => exact { spare with running := rfl }
  | instruction i =>
    obtain ⟨unnamed, stores⟩ := confined.of_instruction found
    exact spare.execute unnamed stores

theorem printed? (spare : larger.Extends smaller) (confined : smaller.Confined) :
    larger.printed? = smaller.printed? := by
  have fetched := spare.fetch confined
  cases found : smaller.fetch with
  | instruction i =>
    obtain ⟨unnamed, -⟩ := confined.of_instruction found
    rw [printed?_of_instruction found, printed?_of_instruction (fetched.trans found),
      i.emission?_congr (spare.named unnamed)]
  | _ =>
    rw [printed?_eq_none (by simp [fetched, found]), printed?_eq_none (by simp [found])]

theorem abnormal? (spare : larger.Extends smaller) (confined : smaller.Confined) :
    larger.abnormal? = smaller.abnormal? := by
  unfold State.abnormal?
  rw [spare.fetch confined, spare.pc]
  cases found : smaller.fetch with
  | instruction i =>
    obtain ⟨unnamed, -⟩ := confined.of_instruction found
    exact i.haltReason?_congr (spare.named unnamed)
  | _ => rfl

end State.Extends

/-! ## Machines -/

namespace Machine

/-- A machine like another one, except for spare memory, SP, and what is kept of the steps. -/
structure Extends (larger smaller : Machine) : Prop where
  state : larger.state.Extends smaller.state
  output : larger.output = smaller.output
  haltReason : larger.haltReason = smaller.haltReason

namespace Extends

variable {larger smaller : Machine}

/-- A program that fits is loaded alike. -/
theorem load (spare : larger.state.Extends smaller.state) {program : List Int}
    (fits : program.length ≤ smaller.memorySize) :
    (larger.load program).Extends (smaller.load program) where
  state := { spare with
    memory := spare.memory.overlay (by simpa [memorySize] using fits)
    pc := rfl
    running := rfl
    cycles := rfl }
  output := rfl
  haltReason := rfl

theorem stepped (spare : larger.Extends smaller) (confined : smaller.state.Confined) :
    larger.stepped.Extends smaller.stepped where
  state := by
    rw [state_stepped, state_stepped]
    exact spare.state.next confined
  output := by
    refine Array.toList_inj.1 ?_
    rw [larger.printed_stepped.output, smaller.printed_stepped.output,
      spare.state.printed? confined, spare.output]
  haltReason := by
    rw [haltReason_stepped, haltReason_stepped, haltReason_proceed, haltReason_proceed,
      spare.state.abnormal? confined, spare.haltReason]

/-- **Confined steps in a row keep machines alike**, whatever their sinks do. -/
theorem steps (spare : larger.Extends smaller) {n : Nat}
    (confined : ∀ k < n, (smaller.steps k).state.Confined) :
    (larger.steps n).Extends (smaller.steps n) := by
  induction n with
  | zero => exact spare
  | succ n ih =>
    rw [steps_succ_eq, steps_succ_eq]
    exact (ih fun k below => confined k (by omega)).stepped (confined n (by omega))

end Extends

/-- **A program that fits does not notice spare memory.** Two fresh machines, one with further
cells, are loaded with a program that fits into the smaller one, and as many steps are taken on
each. If every step of the smaller one begins inside its memory, stores nothing behind it and
names no SP, both show the same in the end: the same registers except for SP, the same program
counter, flags, run switch and cycle count, the same output, the same reason of a halt, and the
same cells. The further cells are still 0. -/
theorem agree_of_confined {size spacious : Nat} (le : size ≤ spacious) {program : List Int}
    (fits : program.length ≤ size) {smaller larger : Machine}
    (fresh : smaller.state = .initial size) (otherFresh : larger.state = .initial spacious)
    (n : Nat) (confined : ∀ k < n, ((smaller.load program).steps k).state.Confined) :
    let one := (smaller.load program).steps n
    let other := (larger.load program).steps n
    (∀ r, r ≠ .sp → other.state.registers.get r = one.state.registers.get r) ∧
      other.state.pc = one.state.pc ∧ other.state.flags = one.state.flags ∧
      other.state.running = one.state.running ∧ other.state.cycles = one.state.cycles ∧
      other.output = one.output ∧ other.haltReason = one.haltReason ∧
      (∀ cell : Nat, cell < size → other.state.memory.read cell = one.state.memory.read cell) ∧
      ∀ cell : Nat, size ≤ cell → other.state.memory.read cell = 0 := by
  intro one other
  have power : larger.state.Extends smaller.state := by
    rw [fresh, otherFresh]
    exact .initial le
  have cells : smaller.memorySize = size := by
    rw [memorySize, fresh]
    exact Memory.size_blank size
  have alike : other.Extends one := (Extends.load power (by omega)).steps confined
  have same := alike.state
  refine ⟨same.registers, same.pc, same.flags, same.running, same.cycles, alike.output,
    alike.haltReason, fun cell _ => same.memory.read cell, fun cell behind => ?_⟩
  have total : one.state.memory.size = size := by
    have kept := (State.follows_iterate (smaller.load program).state n).size_eq
    rw [← state_steps] at kept
    rw [kept, ← cells]
    exact Memory.size_overlay _ _
  rw [same.memory.read, Memory.read_of_not_inRange]
  rintro ⟨-, below⟩
  omega

/-- A program that writes a print opcode into its last cell and executes it there, where the
operand is missing. With two spare cells the operand is the first of them. -/
theorem agree_of_confined_print :
    let program := [1, 0, 11, 2, 0, 6, 0]
    (∀ k < 3, (((powerOn 7).load program).steps k).state.Confined) ∧
      ((((powerOn 7).load program).steps 3).output.toList
        = [{ register := "AX", value := 11 }]) ∧
      (((powerOn 9).load program).steps 3).output = (((powerOn 7).load program).steps 3).output ∧
      (((powerOn 9).load program).steps 3).state.memory.read 6
        = (((powerOn 7).load program).steps 3).state.memory.read 6 := by
  intro program
  have confined : ∀ k < 3, (((powerOn 7).load program).steps k).state.Confined := by decide
  obtain ⟨-, -, -, -, -, output, -, cells, -⟩ :=
    agree_of_confined (by decide : 7 ≤ 9) (by decide) (rfl : (powerOn 7).state = .initial 7)
      (rfl : (powerOn 9).state = .initial 9) 3 confined
  exact ⟨confined, by decide, output, cells 6 (by decide)⟩

end Machine

end RegisterMachine
