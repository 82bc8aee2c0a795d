import RegisterMachine.Program.Example
import RegisterMachine.Proofs.Rounds
import RegisterMachine.Proofs.Wrapping

/-!
# The counting example

The example program prints the numbers from 1 to `n`, where `n` is the value that it loads second.
Each round prints AX before AX goes up by one, and the loop is left when AX has come to `n`. So `k`
rounds print the numbers from 1 to `k`, and the number `n` is printed behind the loop.

* The state after the rounds is given in closed form (`Counting.afterRounds`), and each round leads
  from one such state to the next (`executeAll_round`).
* So the program leads through these states (`Counting.leads`), as programs with a loop do, and
  each of its rounds prints the number that AX has when it begins (`emissions_loop`).
* `Reliable.run_counting` says what a run leaves, for every `n` from 2 to the greatest word.
-/

set_option autoImplicit false

namespace RegisterMachine

namespace Counting

open Instruction

/-! ## The program -/

/-- The program with a number in the place of 5. -/
def program (n : Int) : LoopProgram where
  front := [.load .ax 1, .load .bx n]
  entry := .load .cx 1
  block := [.print .ax, .combine .add .ax .cx, .compare .ax .bx]
  exit := .branch false .ax .bx 9
  back := [.print .ax]
  final := .halt

theorem cells_eq (n : Int) : Example.counting.cells.set 5 n = encode (program n).code := rfl

theorem regular {n : Nat} (fits : Word.Fits n) : (program n).Regular where
  plain := by simp [program, Instruction.plain]
  undivided := by simp [program, Instruction.opcode]
  words := by
    have number : Word.wrap n = n := Word.wrap_of_fits fits
    simp only [LoopProgram.code, LoopProgram.prologue, program, List.map_append, List.map_cons,
      Instruction.words, number]
    rfl

/-- The numbers from 1 on, so many of them, as they are printed. -/
def counted (n : Nat) : List Emission :=
  (List.range n).map fun k : Nat => { register := "AX", value := (k : Int) + 1 }

theorem counted_succ (n : Nat) :
    counted (n + 1) = counted n ++ [{ register := "AX", value := n + 1 }] := by
  rw [counted, counted, List.range_succ, List.map_append, List.map_singleton]

/-! ## Rounds -/

/-- The state after so many rounds. After the last of them the counter is behind the loop. -/
def afterRounds (s : State) (n k : Nat) : State :=
  { s with
    registers := { s.registers with ax := k + 1, bx := n, cx := 1 }
    flags := if k = 0 then s.flags else .ofResult (k + 1 - n)
    pc := if k + 1 = n then 21 else 9
    cycles := 3 + 4 * k }

variable {s : State} {n k : Nat}

theorem executeAll_prologue (two : 2 ≤ n) (fits : Word.Fits n) (start : s.pc = 0)
    (fresh : s.cycles = 0) : s.executeAll (program n).prologue = afterRounds s n 0 := by
  have second : Word.wrap n = n := Word.wrap_of_fits fits
  have one : Word.wrap 1 = 1 := rfl
  have enters : 0 + 1 ≠ n := by omega
  simp only [State.executeAll, LoopProgram.prologue, program, List.cons_append, List.nil_append,
    List.foldl_cons, List.foldl_nil, State.execute_load, Registers.set, second, one, start, fresh,
    afterRounds, if_true, if_neg enters]
  rfl

/-- What a round does to any state at the start of the loop. -/
theorem executeAll_loop (start : s.pc = 9) (one : s.registers.cx = 1) :
    s.executeAll (program n).loop =
      { s with
        registers := { s.registers with ax := Word.wrap (s.registers.ax + 1) }
        flags := .ofResult (Word.wrap (Word.wrap (s.registers.ax + 1) - s.registers.bx))
        pc := if Word.wrap (s.registers.ax + 1) = s.registers.bx then 21 else 9
        cycles := s.cycles + 4 } := by
  simp only [State.executeAll, LoopProgram.loop, program, List.cons_append, List.nil_append,
    List.foldl_cons, List.foldl_nil, State.execute_print, State.execute_combine,
    State.execute_compare, State.execute_branch_differ, Registers.set, Registers.get,
    Combination.combine, start, one]
  rfl

/-- **One round counts up by one.** -/
theorem executeAll_round (fits : Word.Fits n) (below : k + 1 < n) :
    (afterRounds s n k).executeAll (program n).loop = afterRounds s n (k + 1) := by
  have start : (afterRounds s n k).pc = 9 := if_neg (Nat.ne_of_lt below)
  have up : Word.wrap ((k : Int) + 1 + 1) = (k + 1 : Nat) + 1 :=
    Word.wrap_of_fits (Word.fits_of_le fits (by omega) (by omega))
  have compared : Word.wrap ((k + 1 : Nat) + 1 - n) = (k + 1 : Nat) + 1 - n := by
    refine Word.wrap_of_fits ?_
    simp only [Word.Fits, Word.least, Word.greatest] at fits ⊢
    omega
  have last : ((k + 1 : Nat) : Int) + 1 = n ↔ k + 1 + 1 = n := by omega
  rw [executeAll_loop start rfl]
  simp only [afterRounds, up, compared, last, if_neg (Nat.succ_ne_zero k)]
  rfl

/-- A round prints the number that AX has when it begins. -/
theorem emissions_loop :
    (afterRounds s n k).emissions (program n).loop = [{ register := "AX", value := k + 1 }] := rfl

/-! ## The end -/

/-- The state at the end. -/
def finished (s : State) (n : Nat) : State :=
  { s with
    registers := { s.registers with ax := n, bx := n, cx := 1 }
    flags := { zero := true, carry := false }
    pc := 23
    running := false
    cycles := 4 * n + 1 }

theorem executeAll_epilogue (two : 2 ≤ n) :
    (afterRounds s n (n - 1)).executeAll (program n).epilogue = finished s n := by
  have number : ((n - 1 : Nat) : Int) + 1 = n := by omega
  have cycles : 3 + 4 * (n - 1) + 1 + 1 = 4 * n + 1 := by omega
  have later : n - 1 ≠ 0 := by omega
  have last : n - 1 + 1 = n := by omega
  simp only [State.executeAll, LoopProgram.epilogue, program, List.cons_append, List.nil_append,
    List.foldl_cons, List.foldl_nil, State.execute_print, State.execute_halt, afterRounds, number,
    cycles, if_neg later, if_pos last, Int.sub_self]
  rfl

/-- **The program leads through the states given**, with one round less than the number. -/
theorem leads (two : 2 ≤ n) (fits : Word.Fits n) (start : s.pc = 0) (fresh : s.cycles = 0)
    (runs : s.running = true) : (program n).Leads s (afterRounds s n) (n - 1) (finished s n) where
  begins := executeAll_prologue two fits start fresh
  onward := fun k below => executeAll_round fits (by omega)
  ends := executeAll_epilogue two
  again := by
    intro k below
    have goesOn : k + 1 ≠ n := by omega
    refine ⟨runs, rfl, ?_⟩
    rw [afterRounds, if_neg goesOn, start]
    rfl
  leaves := by
    have last : n - 1 + 1 = n := by omega
    refine ⟨runs, rfl, ?_⟩
    rw [afterRounds, if_pos last, start]
    rfl

/-- **The numbers from 1 to `n` are printed**, the last of them behind the loop. -/
theorem emissions_program (two : 2 ≤ n) :
    ((List.range (n - 1)).flatMap fun k => (afterRounds s n k).emissions (program n).loop)
        ++ (afterRounds s n (n - 1)).emissions (program n).epilogue
      = counted n := by
  have rounds : ((List.range (n - 1)).flatMap fun k =>
      (afterRounds s n k).emissions (program n).loop) = counted (n - 1) := by
    simp only [emissions_loop]
    exact List.map_eq_flatMap.symm
  have printed (t : State) : t.emissions (program n).epilogue
      = [{ register := "AX", value := t.registers.get .ax }] := rfl
  have last : n - 1 + 1 = n := by omega
  rw [rounds, printed]
  conv_rhs => rw [← last, counted_succ]
  rfl

end Counting

/-! ## Runs -/

namespace Machine

open Instruction Counting

variable {m : Machine} {n : Nat}

/-- **The example counts.** For every number from 2 to the greatest word, in any machine with a cell
for each cell of the program, and with any limit that leaves four cycles for each number and one
more, the example with that number halts behind its print instruction. It has printed the numbers
from 1 on, all of them and in order, and AX and BX have the last. -/
theorem Reliable.run_counting (reliable : m.Reliable) (two : 2 ≤ n) (fits : n ≤ Word.greatest)
    (size : 24 ≤ m.memorySize) {limit : Option Int}
    (enough : ∀ bound ∈ limit <|> m.maxCycles, 4 * (n : Int) + 1 ≤ bound) :
    let loaded := m.load (Example.counting.cells.set 5 n)
    let ran := loaded.run limit
    ran.fault = none ∧
    ran.machine.state =
      { loaded.state with
        registers := { m.state.registers with ax := n, bx := n, cx := 1 }
        flags := { zero := true, carry := false }
        pc := 23
        running := false
        cycles := 4 * n + 1 } ∧
    ran.machine.haltReason = none ∧
    ran.machine.output.toList =
      (List.range n).map fun k : Nat => { register := "AX", value := (k : Int) + 1 } := by
  have word : Word.Fits n := ⟨by simp only [Word.least]; omega, fits⟩
  rw [cells_eq]
  intro loaded ran
  have within : ∀ bound ∈ limit <|> m.maxCycles,
      ((3 + (n - 1) * 4 + 2 : Nat) : Int) ≤ bound := by
    intro bound given
    have four := enough bound given
    omega
  obtain ⟨fault, state, haltReason, output⟩ :=
    reliable.run_loopProgram (regular word) size (leads two word rfl rfl rfl) rfl within
  refine ⟨fault, state, haltReason, output.trans ?_⟩
  rw [List.append_assoc, emissions_program two]
  rfl

/-- A machine that ran before counts to 3, with no cell and no cycle to spare. -/
theorem run_counting_to_three :
    let m := ((powerOn 24 none (some .reliable)).load [1, 0, -7, 10, 0, 1, 12]).steps 3
    let ran := (m.load (Example.counting.cells.set 5 (3 : Nat))).run (some 13)
    m.Reliable ∧ 2 ≤ 3 ∧ ((3 : Nat) : Int) ≤ Word.greatest ∧ 24 ≤ m.memorySize ∧
      (∀ bound ∈ some (13 : Int) <|> m.maxCycles, 4 * ((3 : Nat) : Int) + 1 ≤ bound) ∧
      ran.fault = none ∧
      ran.machine.state.registers = { ax := 3, bx := 3, cx := 1, sp := 23 } ∧
      ran.machine.state.pc = 23 ∧ ran.machine.state.running = false ∧
      ran.machine.state.cycles = 13 ∧ ran.machine.haltReason = none ∧
      ran.machine.output.toList =
        [{ register := "AX", value := 1 }, { register := "AX", value := 2 },
          { register := "AX", value := 3 }] := by
  intro m ran
  have reliable : m.Reliable := (Reliable.load (reliable_of_sink_eq rfl) _).steps 3
  have registers : m.state.registers = { ax := -7, sp := 23 } := by decide +kernel
  have fits : ((3 : Nat) : Int) ≤ Word.greatest := by decide
  have size : 24 ≤ m.memorySize := by decide +kernel
  have enough : ∀ bound ∈ some (13 : Int) <|> m.maxCycles, 4 * ((3 : Nat) : Int) + 1 ≤ bound := by
    intro bound given
    rw [← Option.some.inj given]
    decide
  obtain ⟨fault, state, haltReason, output⟩ :=
    reliable.run_counting (n := 3) (by decide) fits size enough
  rw [registers] at state
  refine ⟨reliable, by decide, fits, size, enough, fault, ?_, ?_, ?_, ?_, haltReason, output⟩
  all_goals rw [state]
  all_goals rfl

end Machine

end RegisterMachine
