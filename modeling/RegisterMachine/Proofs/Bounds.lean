import RegisterMachine.Proofs.Contents
import RegisterMachine.Proofs.History

/-!
# Bounds

Everything that a machine computes with are words of 32 bits: every cell, and
every register except that SP may still hold what it held at power-on, the
address of the last cell. The program counter is a word as well, or a little
beyond the end of the memory.

`State.Bounded` is the invariant that carries this. An instruction read off
bounded cells has words in its operands (`State.Bounded.target`), so executing it
keeps the bounds (`State.Bounded.execute`), and so does a step, a load, and a
whole history (`bounded_after`). The sink may fail at any time.
-/

set_option autoImplicit false

namespace RegisterMachine

namespace Memory

theorem exists_read_of_mem {m : Memory} {value : Int} (present : value ∈ m.cells) :
    ∃ address, m.read address = value := by
  obtain ⟨cell, below, rfl⟩ := Array.mem_iff_getElem.1 present
  refine ⟨cell, ?_⟩
  simp [read, below, Array.getD_eq_getD_getElem?]

end Memory

theorem Word.fits_zero : Word.Fits 0 := by decide

/-! ## States -/

namespace State

/-- A state of words, with a memory of that size: it may come after power-on, and its
program counter is bounded. -/
structure Bounded (s : State) (size : Nat) : Prop where
  follows : s.Follows (initial size)
  counter : Word.least ≤ s.pc ∧ s.pc ≤ max Word.greatest ((size : Int) + 3)

variable {s : State} {size : Nat}

/-- A size that is possible is the number of its cells, and there is room for them. -/
theorem cellCount_eq_ok {size : Int} {cells : Nat} (counted : cellCount size = .ok cells) :
    size = cells ∧ cells < Memory.capacity := by
  unfold cellCount at counted
  split at counted
  · cases counted
  · split at counted
    · cases counted
    · split at counted
      · cases counted
      · obtain rfl := Except.ok.inj counted
        omega

theorem cellCount_of_lt {size : Nat} (room : size < Memory.capacity) :
    cellCount size = .ok size := by
  have positive : ¬ (size : Int) < 0 := by omega
  have countable : ¬ Memory.countable ≤ size := by
    simp only [Memory.capacity, Memory.bytesPerCell, Memory.countable] at room ⊢
    omega
  simp [cellCount, positive, countable, Nat.not_le.2 room]

theorem bounded_initial (size : Nat) : (initial size).Bounded size where
  follows := .refl _
  counter := by
    simp only [initial, Word.least, Word.greatest]
    omega

namespace Bounded

theorem size_eq (bounded : s.Bounded size) : s.memory.size = size :=
  bounded.follows.size_eq.trans (Memory.size_blank size)

/-- Every cell holds a word. -/
theorem cells (bounded : s.Bounded size) (address : Int) : Word.Fits (s.memory.read address) := by
  rcases bounded.follows.cells address with blank | fits
  · rw [blank, initial, Memory.read_blank]
    exact Word.fits_zero
  · exact fits

/-- Every register holds a word, or else it is SP as it was at power-on. -/
theorem registers (bounded : s.Bounded size) (r : Register) :
    Word.Fits (s.registers.get r) ∨ r = .sp ∧ s.registers.get r = (size : Int) - 1 := by
  rcases bounded.follows.registers r with first | fits
  · rw [first]
    cases r with
    | sp => exact .inr ⟨rfl, rfl⟩
    | _ => exact .inl Word.fits_zero
  · exact .inl fits

/-- An address in the memory is not beyond the bounds, nor are the four after it. -/
theorem onward (bounded : s.Bounded size) (inside : s.memory.InRange s.pc) {width : Int}
    (nonneg : 0 ≤ width) (small : width ≤ 4) :
    Word.least ≤ s.pc + width ∧ s.pc + width ≤ max Word.greatest ((size : Int) + 3) := by
  have lower : 0 ≤ s.pc := inside.1
  have upper : s.pc < s.memory.size := inside.2
  rw [bounded.size_eq] at upper
  simp only [Word.least]
  omega

theorem counter_of_fits {address : Int} (fits : Word.Fits address) :
    Word.least ≤ address ∧ address ≤ max Word.greatest ((size : Int) + 3) :=
  ⟨fits.1, Int.le_trans fits.2 (Int.le_max_left _ _)⟩

/-- The instruction at the program counter jumps to words only. -/
theorem target (bounded : s.Bounded size) {i : Instruction} (found : s.instruction? = some i)
    (file : Registers) {address : Int} (jumps : i.target? file = some address) :
    Word.Fits address := by
  obtain ⟨op, -, rfl⟩ := Option.map_eq_some_iff.1 found
  cases op with
  | jmp =>
    obtain rfl : s.memory.read (s.pc + 1) = address := by
      simpa [Instruction.ofCells, Instruction.target?] using jumps
    exact bounded.cells _
  | jeq | jne =>
    obtain ⟨-, rfl⟩ : _ ∧ s.memory.read (s.pc + 3) = address := by
      simpa [Instruction.ofCells, Instruction.target?] using jumps
    exact bounded.cells _
  | _ => simp [Instruction.ofCells, Instruction.target?] at jumps

/-- **Executing the instruction at the program counter keeps the bounds.** -/
theorem execute (bounded : s.Bounded size) (inside : s.memory.InRange s.pc) {i : Instruction}
    (found : s.instruction? = some i) : (s.execute i).Bounded size where
  follows := bounded.follows.execute i
  counter := by
    cases jumps : i.target? s.registers with
    | some address =>
      rw [pc_execute, Instruction.onward, jumps, Option.getD_some]
      exact counter_of_fits (bounded.target found s.registers jumps)
    | none =>
      have width : 0 ≤ (i.opcode.width : Int) ∧ (i.opcode.width : Int) ≤ 4 := by
        cases i.opcode <;> decide
      rw [pc_execute, Instruction.onward, jumps, Option.getD_none]
      split
      · exact bounded.onward inside width.1 width.2
      · exact bounded.counter

/-- **A step keeps the bounds.** -/
theorem next (bounded : s.Bounded size) : s.next.Bounded size where
  follows := bounded.follows.next
  counter := by
    unfold State.next
    cases found : s.fetch with
    | instruction i =>
      obtain ⟨-, inside, known⟩ := fetch_eq_iff.1 found
      exact (bounded.execute inside known).counter
    | _ => exact bounded.counter

theorem load {m : Machine} (bounded : m.state.Bounded size) (program : List Int) :
    (m.load program).state.Bounded size where
  follows := bounded.follows.load program
  counter := counter_of_fits Word.fits_zero

end Bounded

end State

/-! ## Machines -/

namespace Machine

/-- What is bounded in a machine with that many cells and that trace limit. -/
structure Bounded (m : Machine) (size limit : Nat) : Prop where
  size_eq : m.state.memory.cells.size = size
  cells : ∀ value ∈ m.state.memory.cells, Word.Fits value
  registerNames : m.state.registers.toList.map (·.1.name) = ["AX", "BX", "CX", "DX", "SP"]
  /-- SP may still hold what it held at power-on. -/
  registers : ∀ content ∈ m.state.registers.toList,
    Word.Fits content.2 ∨ content.1 = .sp ∧ content.2 = (size : Int) - 1
  flagNames : m.state.flags.toList.map (·.1) = ["ZF", "CF"]
  counter : Word.least ≤ m.state.pc ∧ m.state.pc ≤ max Word.greatest ((size : Int) + 3)
  cycles : 0 ≤ (m.state.cycles : Int)
  trace : m.entries.length ≤ limit

theorem bounded_of_state {m : Machine} {size limit : Nat} (state : m.state.Bounded size)
    (trace : m.trace.limit = limit) : m.Bounded size limit where
  size_eq := state.size_eq
  cells value present := by
    obtain ⟨address, rfl⟩ := Memory.exists_read_of_mem present
    exact state.cells address
  registerNames := rfl
  registers content listed := by
    obtain ⟨r, -, rfl⟩ := List.mem_map.1 listed
    exact state.registers r
  flagNames := rfl
  counter := state.counter
  cycles := Int.natCast_nonneg _
  trace := by
    rw [entries, Recent.length_toList, ← trace]
    exact Recent.length_le_limit _

@[simp] theorem limit_record (m : Machine) (report? : Option Entry) :
    (m.record report?).trace.limit = m.trace.limit := by
  unfold record
  cases report? with
  | none => rfl
  | some entry =>
    cases on : m.recording with
    | false => simp
    | true => simp

@[simp] theorem limit_stepped (m : Machine) : m.stepped.trace.limit = m.trace.limit := by
  unfold stepped
  split
  · rw [trace_proceed]
  · rw [limit_record, trace_proceed]

theorem limit_after (m : Machine) (history : List Operation) :
    (m.after history).trace.limit = m.trace.limit :=
  after_induction (motive := fun last => last.trace.limit = m.trace.limit) (fun _ _ same => same)
    (fun last same => last.limit_stepped.trans same) (fun _ _ same => same) rfl history

/-- Throughout a history the state is one of words, and the trace keeps its limit. -/
theorem state_bounded_after {m : Machine} {size limit : Nat} (bounded : m.state.Bounded size)
    (trace : m.trace.limit = limit) (history : List Operation) :
    (m.after history).state.Bounded size ∧ (m.after history).trace.limit = limit := by
  refine after_induction (motive := fun m => m.state.Bounded size ∧ m.trace.limit = limit)
    ?load ?step ?record ⟨bounded, trace⟩ history
  case load =>
    rintro m program ⟨bounded, trace⟩
    exact ⟨bounded.load program, trace⟩
  case step =>
    rintro m ⟨bounded, trace⟩
    rw [state_stepped, limit_stepped]
    exact ⟨bounded.next, trace⟩
  case record =>
    rintro m on ⟨bounded, trace⟩
    exact ⟨bounded, trace⟩

/-- What is built is a machine at power-on, of a size and a trace limit that are
possible. -/
theorem exists_powerOn_of_create {size limit : Int} {maxCycles : Option Int}
    {sink : Option Sink} {recording : Bool} {m : Machine}
    (built : create size maxCycles sink recording limit = .ok m) :
    ∃ cells entries : Nat, size = cells ∧ cells < Memory.capacity ∧
      limit = entries ∧ entries < Memory.countable ∧
      m = powerOn cells maxCycles sink recording entries := by
  unfold create at built
  split at built
  · cases built
  · rename_i positive
    cases counted : State.cellCount size with
    | error cause => simp [counted] at built
    | ok cells =>
      obtain ⟨same, room⟩ := State.cellCount_eq_ok counted
      simp only [counted] at built
      split at built
      · cases built
      · rename_i countable
        have few : limit = limit.toNat := by omega
        exact ⟨cells, limit.toNat, same, room, few, Nat.lt_of_not_le countable,
          (Except.ok.inj built).symm⟩

/-- With the trace limit that is the default, only the size can refuse a machine. -/
theorem create_eq (size : Int) (maxCycles : Option Int) (sink : Option Sink) :
    create size maxCycles sink =
      ((State.cellCount size).mapError .size).map fun cells => powerOn cells maxCycles sink := by
  unfold create
  cases State.cellCount size with
  | error cause => rfl
  | ok cells => rfl

/-- **Bounds hold throughout every history** of a machine that was built, also when its
sink fails. -/
theorem bounded_after (size limit : Nat) (maxCycles : Option Int) (sink : Option Sink)
    (recording : Bool) (history : List Operation) :
    (∀ m, create size maxCycles sink recording limit = .ok m →
      m = powerOn size maxCycles sink recording limit) ∧
    ((powerOn size maxCycles sink recording limit).after history).Bounded size limit := by
  constructor
  · intro m built
    obtain ⟨cells, entries, sameSize, -, sameLimit, -, rfl⟩ := exists_powerOn_of_create built
    rw [Int.natCast_inj.1 sameSize, Int.natCast_inj.1 sameLimit]
  · let start := powerOn size maxCycles sink recording limit
    have initial : start.state.Bounded size := State.bounded_initial size
    obtain ⟨state, trace⟩ := state_bounded_after initial rfl history
    exact bounded_of_state state trace

end Machine

end RegisterMachine
