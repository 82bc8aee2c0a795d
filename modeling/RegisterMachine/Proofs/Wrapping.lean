import Mathlib.Data.Int.ModEq
import RegisterMachine.Proofs.Code

/-!
# Wrapping at every step and wrapping once

Wrapping forgets multiples of the modulus and nothing else (`Word.wrap_eq_wrap_iff`), and sums,
differences and products respect what it forgets (`Combination.combine_modEq`). So a program that
loads values, combines registers and prints them may be evaluated over all integers, and its
results wrapped at the end.

`Instruction.evaluate` evaluates such a program, given what a register keeps of a result: its
word in the machine, all of it in the ideal. The two evaluations go side by side (`Tracks`): a
register that was written holds the word of its ideal content, and the others are as they were.

`Reliable.run_wraps_once` says this of a run of the machine, where the program is placed in
memory with its values wrapped, each of its instructions is fetched and executed once, and a halt
ends it.
-/

set_option autoImplicit false

namespace RegisterMachine

/-! ## Words and their classes -/

namespace Word

/-- A value and its word are in the same class. -/
theorem wrap_modEq (value : Int) : wrap value ≡ value [ZMOD modulus] := Int.bmod_emod

/-- **Wrapping tells classes apart, and nothing else.** -/
theorem wrap_eq_wrap_iff {first second : Int} :
    wrap first = wrap second ↔ first ≡ second [ZMOD modulus] := by
  constructor
  · intro same
    exact (wrap_modEq first).symm.trans (same ▸ wrap_modEq second)
  · intro same
    rw [wrap, wrap, ← Int.emod_bmod, same, Int.emod_bmod]

/-- A value from 0 to a word is a word. -/
theorem fits_of_le {value word : Int} (fits : Fits word) (lower : 0 ≤ value)
    (upper : value ≤ word) : Fits value := by
  simp only [Fits, least, greatest] at *
  omega

end Word

/-- **Sums, differences and products respect classes.** -/
theorem Combination.combine_modEq (how : Combination) {n first second third fourth : Int}
    (left : first ≡ second [ZMOD n]) (right : third ≡ fourth [ZMOD n]) :
    how.combine first third ≡ how.combine second fourth [ZMOD n] := by
  cases how with
  | add => exact left.add right
  | sub => exact left.sub right
  | mul => exact left.mul right

/-- Values of the same class, printed from the same register. -/
def Emission.Congruent (e other : Emission) : Prop :=
  e.register = other.register ∧ e.value ≡ other.value [ZMOD Word.modulus]

/-! ## Evaluation -/

namespace Instruction

variable (keep : Int → Int)

/-- The registers after a plain instruction, if a register keeps that much of a result. -/
def compute (file : Registers) : Instruction → Registers
  | load dest value => file.set dest (keep value)
  | combine how dest src => file.set dest (keep (how.combine (file.get dest) (file.get src)))
  | _ => file

/-- The registers after plain instructions in a row. -/
def evaluate (file : Registers) (code : List Instruction) : Registers :=
  code.foldl (compute keep) file

/-- What plain instructions in a row print. -/
def printed (file : Registers) : List Instruction → List Emission
  | [] => []
  | i :: rest => (i.emission? file).toList ++ printed (i.compute keep file) rest

/-- The register that a plain instruction writes. -/
def dest? : Instruction → Option Register
  | load dest _ | combine _ dest _ => some dest
  | _ => none

/-- The registers that plain instructions in a row write. -/
def written (code : List Instruction) : List Register := code.filterMap dest?

end Instruction

/-! ## Two evaluations side by side -/

/-- Where registers came from the same start, and some of them have been written: the words that
they hold in the machine, and their ideal contents. -/
structure Tracks (start : Registers) (written : List Register) (file ideal : Registers) :
    Prop where
  word : ∀ r ∈ written, file.get r = Word.wrap (ideal.get r)
  kept : ∀ r ∉ written, file.get r = start.get r ∧ ideal.get r = start.get r

namespace Tracks

variable {start file ideal : Registers} {written : List Register}

theorem refl (start : Registers) : Tracks start [] start start where
  word _ listed := nomatch listed
  kept _ _ := ⟨rfl, rfl⟩

theorem modEq (tracks : Tracks start written file ideal) (r : Register) :
    file.get r ≡ ideal.get r [ZMOD Word.modulus] := by
  by_cases listed : r ∈ written
  · rw [tracks.word r listed]
    exact Word.wrap_modEq _
  · obtain ⟨here, there⟩ := tracks.kept r listed
    rw [here, there]

/-- A register receives the word of an integer, and ideally an integer of the same class. -/
theorem set (tracks : Tracks start written file ideal) (dest : Register) {value result : Int}
    (same : value ≡ result [ZMOD Word.modulus]) :
    Tracks start (written ++ [dest]) (file.set dest (Word.wrap value)) (ideal.set dest result) := by
  constructor
  · intro r listed
    rw [Registers.get_set, Registers.get_set]
    by_cases here : r = dest
    · rw [if_pos here, if_pos here]
      exact Word.wrap_eq_wrap_iff.2 same
    · rw [if_neg here, if_neg here]
      exact tracks.word r ((List.mem_append.1 listed).resolve_right (here ∘ List.mem_singleton.1))
  · intro r unlisted
    obtain ⟨earlier, here⟩ := not_or.1 (List.mem_append.not.1 unlisted)
    rw [Registers.get_set, Registers.get_set, if_neg (here ∘ List.mem_singleton.2),
      if_neg (here ∘ List.mem_singleton.2)]
    exact tracks.kept r earlier

/-- **One instruction keeps the evaluations side by side.** -/
theorem compute (tracks : Tracks start written file ideal) (i : Instruction) :
    Tracks start (written ++ i.dest?.toList) (i.compute Word.wrap file) (i.compute id ideal) := by
  cases i with
  | load dest value => exact tracks.set dest rfl
  | combine how dest src =>
    exact tracks.set dest (how.combine_modEq (tracks.modEq dest) (tracks.modEq src))
  | _ => exact (List.append_nil written).symm ▸ tracks

/-- So do instructions in a row. -/
theorem evaluate (tracks : Tracks start written file ideal) (code : List Instruction) :
    Tracks start (written ++ Instruction.written code) (Instruction.evaluate Word.wrap file code)
      (Instruction.evaluate id ideal code) := by
  induction code generalizing written file ideal with
  | nil => exact (List.append_nil written).symm ▸ tracks
  | cons i rest ih =>
    have split : written ++ Instruction.written (i :: rest)
        = written ++ i.dest?.toList ++ Instruction.written rest := by
      rw [Instruction.written, List.filterMap_cons, List.append_assoc]
      cases i.dest? <;> rfl
    rw [split]
    exact ih (tracks.compute i)

/-- What is printed has the class of what would be printed ideally. -/
theorem printed (tracks : Tracks start written file ideal) (code : List Instruction) :
    List.Forall₂ Emission.Congruent (Instruction.printed Word.wrap file code)
      (Instruction.printed id ideal code) := by
  induction code generalizing written file ideal with
  | nil => exact .nil
  | cons i rest ih =>
    have later := ih (tracks.compute i)
    cases i with
    | print src => exact .cons ⟨rfl, tracks.modEq src⟩ later
    | _ => exact later

end Tracks

/-! ## Execution evaluates -/

namespace State

variable {s : State} {code : List Instruction}

theorem registers_execute_of_plain {i : Instruction} (plain : i.plain = true) :
    (s.execute i).registers = i.compute Word.wrap s.registers := by
  cases i with
  | load dest value => rw [execute_load]; rfl
  | combine how dest src => rw [execute_combine]; rfl
  | compare left right => rw [execute_compare]; rfl
  | print src => rw [execute_print]; rfl
  | _ => cases plain

theorem registers_executeAll (plain : ∀ i ∈ code, i.plain = true) :
    (s.executeAll code).registers = Instruction.evaluate Word.wrap s.registers code := by
  induction code generalizing s with
  | nil => rfl
  | cons i rest ih =>
    obtain ⟨here, later⟩ := List.forall_mem_cons.1 plain
    rw [Instruction.evaluate, List.foldl_cons, ← registers_execute_of_plain here]
    exact ih later

theorem emissions_eq_printed (plain : ∀ i ∈ code, i.plain = true) :
    s.emissions code = Instruction.printed Word.wrap s.registers code := by
  induction code generalizing s with
  | nil => rfl
  | cons i rest ih =>
    obtain ⟨here, later⟩ := List.forall_mem_cons.1 plain
    rw [emissions, Instruction.printed, ih later, registers_execute_of_plain here]

/-- Plain instructions in a row leave the memory alone, and go on to what follows them. -/
theorem executeAll_of_plain (plain : ∀ i ∈ code, i.plain = true) :
    (s.executeAll code).memory = s.memory ∧
      (s.executeAll code).pc = s.pc + (Instruction.encode code).length := by
  induction code generalizing s with
  | nil => exact ⟨rfl, (Int.add_zero _).symm⟩
  | cons i rest ih =>
    obtain ⟨here, later⟩ := List.forall_mem_cons.1 plain
    obtain ⟨memory, -, pc⟩ := s.execute_of_plain here
    obtain ⟨memories, counter⟩ := ih (s := s.execute i) later
    refine ⟨memories.trans memory, counter.trans ?_⟩
    rw [pc, Instruction.encode_cons, List.length_append, Instruction.length_cells, Nat.cast_add,
      Int.add_assoc]

theorem cycles_executeAll (s : State) (code : List Instruction) :
    (s.executeAll code).cycles = s.cycles + code.length := by
  induction code generalizing s with
  | nil => rfl
  | cons i rest ih =>
    rw [List.length_cons, Nat.add_comm rest.length, ← Nat.add_assoc]
    exact ih (s.execute i)

end State

/-! ## Wrapped values -/

namespace Instruction

theorem plain_words (i : Instruction) : i.words.plain = i.plain := by
  cases i <;> rfl

theorem plain_map_words {code : List Instruction} (plain : ∀ i ∈ code, i.plain = true) :
    ∀ i ∈ code.map words, i.plain = true := by
  intro i listed
  obtain ⟨i, present, rfl⟩ := List.mem_map.1 listed
  rw [plain_words, plain i present]

/-- A register keeps the same of a value and of its word. -/
theorem compute_words (i : Instruction) (file : Registers) :
    i.words.compute Word.wrap file = i.compute Word.wrap file := by
  cases i with
  | load dest value => exact congrArg (file.set dest) (Word.wrap_wrap value)
  | _ => rfl

theorem evaluate_words (code : List Instruction) (file : Registers) :
    evaluate Word.wrap file (code.map words) = evaluate Word.wrap file code := by
  rw [evaluate, List.foldl_map]
  simp only [compute_words]
  rfl

theorem printed_words (code : List Instruction) (file : Registers) :
    printed Word.wrap file (code.map words) = printed Word.wrap file code := by
  have same (i : Instruction) (file : Registers) : i.words.emission? file = i.emission? file := by
    cases i <;> rfl
  induction code generalizing file with
  | nil => rfl
  | cons i rest ih => rw [List.map_cons, printed, printed, ih, same, compute_words]

end Instruction

/-- With wrapped values and a halt behind them, plain instructions leave what they evaluate to. -/
theorem State.executeAll_words_halt (s : State) {code : List Instruction}
    (plain : ∀ i ∈ code, i.plain = true) :
    s.executeAll (code.map Instruction.words ++ [.halt]) =
      { s with
        registers := Instruction.evaluate Word.wrap s.registers code
        flags := (s.executeAll (code.map Instruction.words)).flags
        pc := s.pc + (Instruction.encode code).length
        running := false
        cycles := s.cycles + code.length + 1 } := by
  have still := Instruction.plain_map_words plain
  have registers := s.registers_executeAll still
  obtain ⟨memory, pc⟩ := s.executeAll_of_plain still
  have cycles := s.cycles_executeAll (code.map Instruction.words)
  rw [Instruction.evaluate_words] at registers
  rw [Instruction.encode_words, List.length_map] at pc
  rw [List.length_map] at cycles
  rw [executeAll_append]
  refine (execute_halt _).trans ?_
  rw [registers, memory, pc, cycles]

/-! ## Runs -/

namespace Machine

open Instruction

variable {m : Machine} {code : List Instruction}

/-- In memory, plain instructions and the halt behind them have wrapped values. -/
theorem holds_load_words (fits : (encode (code ++ [.halt])).length ≤ m.memorySize) :
    (m.load (encode (code ++ [.halt]))).state.memory.Holds 0
      (encode (code.map words ++ [.halt])) := by
  have placed := m.holds_load_encode fits
  rwa [List.map_append] at placed

/-- The halt is the cell behind them. -/
theorem read_load_halt (fits : (encode (code ++ [.halt])).length ≤ m.memorySize) :
    (m.load (encode (code ++ [.halt]))).state.memory.read (encode code).length = 12 := by
  have placed := holds_load_words fits
  rw [encode_append (code.map words), encode_words] at placed
  obtain ⟨-, behind⟩ := Memory.holds_append.1 placed
  rw [List.length_map, Int.zero_add] at behind
  exact behind.2.1

/-- **Plain instructions with a halt behind them are executed once each, in order.** -/
theorem executes_load_plain (plain : ∀ i ∈ code, i.plain = true)
    (fits : (encode (code ++ [.halt])).length ≤ m.memorySize) :
    Executes (m.load (encode (code ++ [.halt]))) (listing 0 (code.map words ++ [.halt]))
      ((m.load (encode (code ++ [.halt]))).steps (code.length + 1)) := by
  have executes := executes_block (plain_map_words plain) rfl (holds_load_words fits)
  rwa [List.length_map] at executes

/-- What they print, and that the halt has no reason. -/
theorem output_load_plain (plain : ∀ i ∈ code, i.plain = true)
    (fits : (encode (code ++ [.halt])).length ≤ m.memorySize) :
    ((m.load (encode (code ++ [.halt]))).steps (code.length + 1)).output.toList
        = printed Word.wrap m.state.registers code ∧
      ((m.load (encode (code ++ [.halt]))).steps (code.length + 1)).haltReason = none := by
  have executes := executes_load_plain plain fits
  have still := plain_map_words plain
  constructor
  · rw [executes.output_eq, map_snd_listing, State.emissions_append,
      State.emissions_eq_printed still, printed_words]
    exact List.append_nil _
  · refine executes.haltReason_eq ?_
    rw [map_snd_listing]
    intro i listed
    rcases List.mem_append.1 listed with inside | behind
    · exact opcode_ne_div_of_plain (still i inside)
    · rw [List.mem_singleton.1 behind]
      decide

/-- **Wrapping at every step is wrapping once at the end.** Instructions that load any integers,
combine registers, compare and print them are loaded with a halt behind them, into any machine that
they fit into. A run without a limit executes each of them once and in order, with its value
wrapped, and halts behind the last one without a reason. With the evaluation over all integers
from the same registers it agrees so far: every register that was written has the word of its
ideal content, every other one is unchanged, and what is printed has the class of what would be
printed ideally. -/
theorem Reliable.run_wraps_once (reliable : m.Reliable) (unlimited : m.maxCycles = none)
    (plain : ∀ i ∈ code, i.plain = true)
    (fits : (encode (code ++ [.halt])).length ≤ m.memorySize) :
    let loaded := m.load (encode (code ++ [.halt]))
    let ran := loaded.run none
    let ideal := evaluate id m.state.registers code
    ran.fault = none ∧
    (loaded.course (loaded.runLimit none)).map (fun m => (m.state.pc, m.state.fetch))
      = (listing 0 (code.map words ++ [.halt])).map (Prod.map id Fetched.instruction) ∧
    ran.machine.state.running = false ∧
    ran.machine.state.pc = (encode code).length ∧
    ran.machine.state.memory.read ran.machine.state.pc = 12 ∧
    ran.machine.haltReason = none ∧
    ran.machine.state.cycles = code.length + 1 ∧
    (∀ r, ran.machine.state.registers.get r =
      if r ∈ written code then Word.wrap (ideal.get r) else m.state.registers.get r) ∧
    List.Forall₂ Emission.Congruent ran.machine.output.toList
      (printed id m.state.registers code) := by
  intro loaded ran ideal
  have still : loaded.Reliable := reliable.load _
  have executes : Executes loaded _ (loaded.steps (code.length + 1)) :=
    executes_load_plain plain fits
  have state := executes.state_eq
  rw [map_snd_listing, loaded.state.executeAll_words_halt plain] at state
  have halts : (loaded.steps (code.length + 1)).state.running = false := by rw [state]
  have ends : ran.machine = loaded.steps (code.length + 1) := by
    have free : loaded.maxCycles = none := unlimited
    refine still.run_of_stopped halts fun bound given => ?_
    rw [free] at given
    cases given
  have walk := loaded.walk_course (loaded.runLimit none) #[]
  rw [← machine_run] at walk
  have visits := executes.visits_of_walk halts walk (ends ▸ halts)
  obtain ⟨output, haltReason⟩ := output_load_plain plain fits
  have tracks := (Tracks.refl m.state.registers).evaluate code
  have pc : ran.machine.state.pc = (encode code).length := by
    rw [ends, state]
    exact Int.zero_add _
  refine ⟨still.fault_run none, visits, ends ▸ halts, pc, ?halt, ends ▸ haltReason, ?cycles,
    ?registers, ?output⟩
  case halt =>
    rw [pc, ends, state]
    exact read_load_halt fits
  case cycles =>
    rw [ends, state, Nat.add_assoc]
    exact Nat.zero_add _
  case registers =>
    intro r
    rw [ends, state]
    split
    · rename_i listed
      exact tracks.word r listed
    · rename_i unlisted
      exact (tracks.kept r unlisted).1
  case output =>
    rw [ends, output]
    exact (Tracks.refl m.state.registers).printed code

/-- The square of `2 ^ 31 + 1` is printed as 1, and taken off -7 it leaves -8. -/
theorem run_wraps_once_of_square :
    let m := (((powerOn 16 none (some .reliable)).load [1, 1, -7, 12]).run none).machine
    let code : List Instruction :=
      [.load .ax 2147483649, .combine .mul .ax .ax, .combine .sub .bx .ax, .print .ax, .print .bx]
    let ran := (m.load (encode (code ++ [.halt]))).run none
    m.Reliable ∧ m.maxCycles = none ∧ (∀ i ∈ code, i.plain = true) ∧
      (encode (code ++ [.halt])).length ≤ m.memorySize ∧
      ran.machine.state.pc = 13 ∧ ran.machine.haltReason = none ∧
      ran.machine.state.cycles = 6 ∧
      ran.machine.state.registers.get .ax = 1 ∧ ran.machine.state.registers.get .bx = -8 ∧
      List.Forall₂ Emission.Congruent ran.machine.output.toList
        [⟨"AX", 4611686022722355201⟩, ⟨"BX", -4611686022722355208⟩] := by
  intro m code ran
  have fresh : ((powerOn 16 none (some .reliable)).load [1, 1, -7, 12]).Reliable :=
    (reliable_of_sink_eq rfl).load _
  have ends : m = ((powerOn 16 none (some .reliable)).load [1, 1, -7, 12]).steps 2 :=
    fresh.run_of_stopped (by decide +kernel) fun bound given => by cases given
  have reliable : m.Reliable := ends ▸ fresh.steps 2
  have registers : m.state.registers = { bx := -7, sp := 15 } := by rw [ends]; decide +kernel
  have size : m.memorySize = 16 := by rw [ends]; decide +kernel
  have unlimited : m.maxCycles = none := by rw [ends]; decide +kernel
  have plain : ∀ i ∈ code, i.plain = true := by decide
  have fits : (encode (code ++ [.halt])).length ≤ m.memorySize := by rw [size]; decide
  obtain ⟨-, -, -, pc, -, haltReason, cycles, contents, output⟩ :=
    reliable.run_wraps_once unlimited plain fits
  rw [registers] at contents output
  exact ⟨reliable, unlimited, plain, fits, pc, haltReason, cycles, contents .ax, contents .bx,
    output⟩

end Machine

end RegisterMachine
