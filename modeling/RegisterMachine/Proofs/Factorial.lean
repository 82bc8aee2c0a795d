import Mathlib.Data.Nat.Factorial.Basic
import RegisterMachine.Program.Example
import RegisterMachine.Proofs.Rounds
import RegisterMachine.Proofs.Wrapping

/-!
# The factorial example

The example program multiplies the numbers from `n` down to 2, where `n` is the value that it loads
first. After `k` rounds AX has come down by `k`, and BX holds the word of the product of the
numbers that AX went through, the descending factorial `n (n - 1) ⋯ (n - k + 1)`. The loop is left
when AX is 1.

* The state after the rounds is given in closed form (`Factorial.afterRounds`), and each round
  leads from one such state to the next (`executeAll_round`).
* So the program leads through these states (`Factorial.leads`), as programs with a loop do.
* `Reliable.run_factorial` says what a run leaves, for every `n` from 2 to the greatest word.
-/

set_option autoImplicit false

namespace RegisterMachine

namespace Factorial

open Instruction

/-! ## The program -/

/-- The program with a number in the place of 5. -/
def program (n : Int) : LoopProgram where
  front := [.load .ax n, .load .bx 1]
  entry := .load .cx 1
  block := [.combine .mul .bx .ax, .combine .sub .ax .cx, .compare .ax .cx]
  exit := .branch false .ax .cx 9
  back := [.print .bx]
  final := .halt

theorem cells_eq (n : Int) : Example.factorial.cells.set 2 n = encode (program n).code := rfl

theorem regular {n : Nat} (fits : Word.Fits n) : (program n).Regular where
  plain := by simp [program, Instruction.plain]
  undivided := by simp [program, Instruction.opcode]
  words := by
    have number : Word.wrap n = n := Word.wrap_of_fits fits
    simp only [LoopProgram.code, LoopProgram.prologue, program, List.map_append, List.map_cons,
      Instruction.words, number]
    rfl

/-! ## Rounds -/

/-- The state after so many rounds. After the last of them the counter is behind the loop. -/
def afterRounds (s : State) (n k : Nat) : State :=
  { s with
    registers := { s.registers with
      ax := n - k
      bx := Word.wrap (n.descFactorial k)
      cx := 1 }
    flags := if k = 0 then s.flags else .ofResult (n - k - 1)
    pc := if k + 1 = n then 22 else 9
    cycles := 3 + 4 * k }

variable {s : State} {n k : Nat}

theorem executeAll_prologue (two : 2 ≤ n) (fits : Word.Fits n) (start : s.pc = 0)
    (fresh : s.cycles = 0) : s.executeAll (program n).prologue = afterRounds s n 0 := by
  have first : Word.wrap n = n := Word.wrap_of_fits fits
  have one : Word.wrap 1 = 1 := rfl
  have enters : 0 + 1 ≠ n := by omega
  simp only [State.executeAll, LoopProgram.prologue, program, List.cons_append, List.nil_append,
    List.foldl_cons, List.foldl_nil, State.execute_load, Registers.set, first, one, start, fresh,
    afterRounds, if_true, if_neg enters, Nat.descFactorial_zero, Nat.cast_zero, Nat.cast_one,
    Int.sub_zero, Nat.mul_zero]
  rfl

/-- What a round does to any state at the start of the loop. -/
theorem executeAll_loop (start : s.pc = 9) (one : s.registers.cx = 1) :
    s.executeAll (program n).loop =
      { s with
        registers := { s.registers with
          ax := Word.wrap (s.registers.ax - 1)
          bx := Word.wrap (s.registers.bx * s.registers.ax) }
        flags := .ofResult (Word.wrap (Word.wrap (s.registers.ax - 1) - 1))
        pc := if Word.wrap (s.registers.ax - 1) = 1 then 22 else 9
        cycles := s.cycles + 4 } := by
  simp only [State.executeAll, LoopProgram.loop, program, List.cons_append, List.nil_append,
    List.foldl_cons, List.foldl_nil, State.execute_combine, State.execute_compare,
    State.execute_branch_differ, Registers.set, Registers.get, Combination.combine, start, one]
  rfl

/-- **One round multiplies by one more number.** -/
theorem executeAll_round (fits : Word.Fits n) (below : k + 1 < n) :
    (afterRounds s n k).executeAll (program n).loop = afterRounds s n (k + 1) := by
  have start : (afterRounds s n k).pc = 9 := if_neg (Nat.ne_of_lt below)
  have product : Word.wrap (Word.wrap (n.descFactorial k) * (n - k))
      = Word.wrap (n.descFactorial (k + 1)) := by
    have difference : ((n - k : Nat) : Int) = n - k := Nat.cast_sub (by omega)
    rw [Nat.descFactorial_succ, Nat.cast_mul, difference, Int.mul_comm ((n : Int) - k)]
    exact Word.wrap_eq_wrap_iff.2 ((Word.wrap_modEq _).mul_right _)
  have down : Word.wrap ((n : Int) - k - 1) = n - (k + 1 : Nat) := by
    rw [Word.wrap_of_fits (Word.fits_of_le fits (by omega) (by omega))]
    omega
  have compared : Word.wrap ((n : Int) - (k + 1 : Nat) - 1) = n - (k + 1 : Nat) - 1 :=
    Word.wrap_of_fits (Word.fits_of_le fits (by omega) (by omega))
  have last : (n : Int) - (k + 1 : Nat) = 1 ↔ k + 1 + 1 = n := by omega
  rw [executeAll_loop start rfl]
  simp only [afterRounds, product, down, compared, last, if_neg (Nat.succ_ne_zero k)]
  rfl

/-! ## The end -/

/-- The state at the end. -/
def finished (s : State) (n : Nat) : State :=
  { s with
    registers := { s.registers with
      ax := 1
      bx := Word.wrap n.factorial
      cx := 1 }
    flags := { zero := true, carry := false }
    pc := 24
    running := false
    cycles := 4 * n + 1 }

/-- The loop goes down to 2, and multiplying by 1 would change nothing. -/
theorem descFactorial_last (two : 2 ≤ n) : n.descFactorial (n - 1) = n.factorial := by
  have one : n - (n - 1) = 1 := by omega
  rw [← Nat.factorial_mul_descFactorial (Nat.sub_le n 1), one, Nat.factorial_one, Nat.one_mul]

theorem executeAll_epilogue (two : 2 ≤ n) :
    (afterRounds s n (n - 1)).executeAll (program n).epilogue = finished s n := by
  have one : (n : Int) - (n - 1 : Nat) = 1 := by omega
  have cycles : 3 + 4 * (n - 1) + 1 + 1 = 4 * n + 1 := by omega
  have later : n - 1 ≠ 0 := by omega
  have last : n - 1 + 1 = n := by omega
  simp only [State.executeAll, LoopProgram.epilogue, program, List.cons_append, List.nil_append,
    List.foldl_cons, List.foldl_nil, State.execute_print, State.execute_halt, afterRounds,
    descFactorial_last two, one, cycles, if_neg later, if_pos last]
  rfl

/-- Nothing is printed in the loop. -/
theorem emissions_loop : (afterRounds s n k).emissions (program n).loop = [] := rfl

theorem emissions_epilogue (two : 2 ≤ n) :
    (afterRounds s n (n - 1)).emissions (program n).epilogue
      = [{ register := "BX", value := Word.wrap n.factorial }] := by
  have printed (t : State) : t.emissions (program n).epilogue
      = [{ register := "BX", value := t.registers.get .bx }] := rfl
  rw [printed, afterRounds, Registers.get, descFactorial_last two]

/-- **The program leads through the states given**, with one round less than the number. -/
theorem leads (two : 2 ≤ n) (fits : Word.Fits n) (start : s.pc = 0) (fresh : s.cycles = 0)
    (runs : s.running = true) : (program n).Leads s (afterRounds s n) (n - 1) (finished s n) where
  begins := executeAll_prologue two fits start fresh
  onward := fun k below => executeAll_round fits (by omega)
  ends := executeAll_epilogue two
  again := by
    intro k below
    have goesOn : k + 1 ≠ n := by omega
    refine ⟨runs, rfl, ?_⟩
    rw [afterRounds, if_neg goesOn, start]
    rfl
  leaves := by
    have last : n - 1 + 1 = n := by omega
    refine ⟨runs, rfl, ?_⟩
    rw [afterRounds, if_pos last, start]
    rfl

end Factorial

/-! ## Runs -/

namespace Machine

open Instruction Factorial

variable {m : Machine} {n : Nat}

/-- **The example computes factorials.** For every number from 2 to the greatest word, in any
machine with a cell for each cell of the program, and with any limit that leaves four cycles for
each number and one more, the example with that number halts behind its print instruction. BX has
the word of the factorial, and that is what is printed. -/
theorem Reliable.run_factorial (reliable : m.Reliable) (two : 2 ≤ n) (fits : n ≤ Word.greatest)
    (size : 25 ≤ m.memorySize) {limit : Option Int}
    (enough : ∀ bound ∈ limit <|> m.maxCycles, 4 * (n : Int) + 1 ≤ bound) :
    let loaded := m.load (Example.factorial.cells.set 2 n)
    let ran := loaded.run limit
    ran.fault = none ∧
    ran.machine.state =
      { loaded.state with
        registers := { m.state.registers with ax := 1, bx := Word.wrap n.factorial, cx := 1 }
        flags := { zero := true, carry := false }
        pc := 24
        running := false
        cycles := 4 * n + 1 } ∧
    ran.machine.haltReason = none ∧
    ran.machine.output.toList = [{ register := "BX", value := Word.wrap n.factorial }] := by
  have word : Word.Fits n := ⟨by simp only [Word.least]; omega, fits⟩
  rw [cells_eq]
  intro loaded ran
  have within : ∀ bound ∈ limit <|> m.maxCycles,
      ((3 + (n - 1) * 4 + 2 : Nat) : Int) ≤ bound := by
    intro bound given
    have four := enough bound given
    omega
  obtain ⟨fault, state, haltReason, output⟩ :=
    reliable.run_loopProgram (regular word) size (leads two word rfl rfl rfl) rfl within
  refine ⟨fault, state, haltReason, output.trans ?_⟩
  have silent : ((List.range (n - 1)).flatMap fun k =>
      (afterRounds loaded.state n k).emissions (program n).loop) = [] :=
    List.flatMap_eq_nil_iff.2 fun _ _ => emissions_loop
  rw [silent, emissions_epilogue two]
  rfl

/-- The factorial of 13 is no word, and its word is printed by a machine that ran before. -/
theorem run_factorial_of_thirteen :
    let m := ((powerOn 25 none (some .reliable)).load [1, 1, -7, 10, 0, 1, 12]).steps 3
    let ran := (m.load (Example.factorial.cells.set 2 (13 : Nat))).run (some 53)
    m.Reliable ∧ 2 ≤ 13 ∧ ((13 : Nat) : Int) ≤ Word.greatest ∧ 25 ≤ m.memorySize ∧
      (∀ bound ∈ some (53 : Int) <|> m.maxCycles, 4 * ((13 : Nat) : Int) + 1 ≤ bound) ∧
      ran.fault = none ∧
      ran.machine.state.registers = { ax := 1, bx := 1932053504, cx := 1, sp := 24 } ∧
      ran.machine.state.cycles = 53 ∧ ran.machine.haltReason = none ∧
      ran.machine.output.toList = [{ register := "BX", value := 1932053504 }] := by
  intro m ran
  have reliable : m.Reliable := (Reliable.load (reliable_of_sink_eq rfl) _).steps 3
  have registers : m.state.registers = { bx := -7, sp := 24 } := by decide +kernel
  have fits : ((13 : Nat) : Int) ≤ Word.greatest := by decide
  have size : 25 ≤ m.memorySize := by decide +kernel
  have enough : ∀ bound ∈ some (53 : Int) <|> m.maxCycles, 4 * ((13 : Nat) : Int) + 1 ≤ bound := by
    intro bound given
    rw [← Option.some.inj given]
    decide
  have product : Word.wrap (Nat.factorial 13) = 1932053504 := by decide
  obtain ⟨fault, state, haltReason, output⟩ :=
    reliable.run_factorial (n := 13) (by decide) fits size enough
  rw [product] at state output
  rw [registers] at state
  refine ⟨reliable, by decide, fits, size, enough, fault, ?_, ?_, haltReason, output⟩
  · rw [state]
  · rw [state]

end Machine

end RegisterMachine
