import RegisterMachine.Proofs.Instruction

/-!
# Comparing and branching

A comparison takes the word of a difference and tells by the zero flag whether it is 0. A branch
does not look at the flags and compares the two registers themselves. The two agree where
registers hold words: different words have a difference that is no multiple of the modulus, and so
its word is not 0 (`Word.wrap_sub_eq_zero_iff`).

An instruction is executed here as it is decoded from its own cells, in a state whose memory may
hold anything else (`State.executeCells`). So the operands are register codes, and codes of no
register mean AX.
-/

set_option autoImplicit false

namespace RegisterMachine

/-- **Only equal words have a difference whose word is 0.** -/
theorem Word.wrap_sub_eq_zero_iff {first second : Int} (fits : Fits first)
    (alsoFits : Fits second) : wrap (first - second) = 0 ↔ first = second := by
  simp only [Fits, least, greatest] at fits alsoFits
  simp only [wrap, modulus, Int.bmod_def]
  omega

namespace State

/-- The state after the instruction in a row of cells. -/
def executeCells (s : State) (cells : List Int) : Except ExecutionError State :=
  (Registry.standard.execute s (Decoded.ofState { memory := ⟨cells.toArray⟩ })).map
    Execution.state

variable {s : State}

/-- The instruction that is decoded from the cells is executed. -/
theorem executeCells_of_instruction? {cells : List Int} {i : Instruction}
    (found : ({ memory := ⟨cells.toArray⟩ } : State).instruction? = some i) :
    s.executeCells cells = .ok (s.execute i) := by
  have elsewhere : (i.effect s.registers s.memory.size).settle s (i.record 0)
      = (i.effect s.registers s.memory.size).settle s (i.record s.pc) := rfl
  rw [executeCells, ofState_of_instruction? found, Registry.execute, i.effect_record]
  simp only [Except.map, elsewhere, i.settle_record]

/-- The zero flag after a comparison of words. -/
theorem zero_execute_compare (words : ∀ r, Word.Fits (s.registers.get r)) (left right : Register) :
    (s.execute (.compare left right)).flags.zero = true ↔
      s.registers.get left = s.registers.get right := by
  rw [execute_compare, ← Word.wrap_sub_eq_zero_iff (words left) (words right)]
  exact decide_eq_true_iff

theorem pc_execute_branch (ifEqual : Bool) (left right : Register) (address : Int) :
    (s.execute (.branch ifEqual left right address)).pc =
      if decide (s.registers.get left = s.registers.get right) = ifEqual then address
      else s.pc + 4 := by
  rw [execute_branch]

/-- A branch jumps to each address that it may be given if its registers compare as it asks, and
only then. -/
theorem branch_jumps_iff {ifEqual : Bool} {left right : Register} :
    (∀ address, (s.execute (.branch ifEqual left right address)).pc = address) ↔
      decide (s.registers.get left = s.registers.get right) = ifEqual := by
  constructor
  · intro jumps
    refine Decidable.by_contra fun falls => ?_
    have here := jumps (s.pc + 5)
    rw [pc_execute_branch, if_neg falls] at here
    omega
  · intro taken address
    rw [pc_execute_branch, if_pos taken]

/-- Otherwise it goes on behind itself, whatever the address is. -/
theorem branch_falls_iff {ifEqual : Bool} {left right : Register} :
    (∀ address, (s.execute (.branch ifEqual left right address)).pc = s.pc + 4) ↔
      ¬ decide (s.registers.get left = s.registers.get right) = ifEqual := by
  constructor
  · intro falls taken
    have here := falls (s.pc + 5)
    rw [pc_execute_branch, if_pos taken] at here
    omega
  · intro falls address
    rw [pc_execute_branch, if_neg falls]

/-- **Comparing by flags and branching agree.** Two registers that hold words are compared, by any
register codes. The zero flag after the comparison tells whether a branch on equality jumps to its
address, whatever the address is, and whether a branch on difference goes on behind itself. With
each address, one of the two branches jumps there and the other goes on behind itself. A
subtraction leaves the flags of the comparison. And different registers have a difference whose
word is not 0. -/
theorem comparing_agrees_with_branching (words : ∀ r, Word.Fits (s.registers.get r))
    (left right : Int) :
    ∃ (compared subtracted : State) (onEqual onDifferent : Int → State),
      s.executeCells [Opcode.cmp.code, left, right] = .ok compared ∧
      s.executeCells [Opcode.sub.code, left, right] = .ok subtracted ∧
      (∀ address, s.executeCells [Opcode.jeq.code, left, right, address]
        = .ok (onEqual address)) ∧
      (∀ address, s.executeCells [Opcode.jne.code, left, right, address]
        = .ok (onDifferent address)) ∧
      (compared.flags.zero = true ↔ ∀ address, (onEqual address).pc = address) ∧
      (compared.flags.zero = true ↔ ∀ address, (onDifferent address).pc = s.pc + 4) ∧
      (∀ address, (onEqual address).pc = if compared.flags.zero then address else s.pc + 4) ∧
      (∀ address, (onDifferent address).pc = if compared.flags.zero then s.pc + 4 else address) ∧
      subtracted.flags = compared.flags ∧
      ∀ first second : Register, s.registers.get first ≠ s.registers.get second →
        Word.wrap (s.registers.get first - s.registers.get second) ≠ 0 := by
  let first := Register.ofCode left
  let second := Register.ofCode right
  have flag : (s.execute (.compare first second)).flags.zero =
      decide (s.registers.get first = s.registers.get second) :=
    Bool.eq_iff_iff.2 ((zero_execute_compare words first second).trans decide_eq_true_iff.symm)
  refine ⟨s.execute (.compare first second), s.execute (.combine .sub first second),
    fun address => s.execute (.branch true first second address),
    fun address => s.execute (.branch false first second address),
    executeCells_of_instruction? rfl, executeCells_of_instruction? rfl,
    fun address => executeCells_of_instruction? rfl,
    fun address => executeCells_of_instruction? rfl, ?jumps, ?falls, ?onEqual, ?onDifferent,
    ?subtracts, ?differ⟩
  case jumps => rw [zero_execute_compare words, branch_jumps_iff, decide_eq_true_iff]
  case falls =>
    rw [zero_execute_compare words, branch_falls_iff, decide_eq_false_iff_not,
      Decidable.not_not]
  case onEqual =>
    intro address
    rw [pc_execute_branch, flag]
  case onDifferent =>
    intro address
    rw [pc_execute_branch, flag]
    cases decide (s.registers.get first = s.registers.get second) <;> rfl
  case subtracts =>
    rw [execute_combine, execute_compare]
    rfl
  case differ =>
    intro first second different same
    exact different ((Word.wrap_sub_eq_zero_iff (words first) (words second)).1 same)

/-- The greatest word is compared with the least, the first of them by a code of no register. Their
difference is the word -1. -/
theorem comparing_agrees_at_the_ends :
    let s : State := { registers := { ax := 2147483647, bx := -2147483648 }, pc := 7 }
    (∀ r, Word.Fits (s.registers.get r)) ∧
      ∃ (compared subtracted : State) (onEqual onDifferent : Int → State),
        s.executeCells [Opcode.cmp.code, -3, 1] = .ok compared ∧
        s.executeCells [Opcode.sub.code, -3, 1] = .ok subtracted ∧
        (∀ address, s.executeCells [Opcode.jeq.code, -3, 1, address] = .ok (onEqual address)) ∧
        (∀ address, s.executeCells [Opcode.jne.code, -3, 1, address] = .ok (onDifferent address)) ∧
        ¬ (∀ address, (onEqual address).pc = address) ∧
        ¬ (∀ address, (onDifferent address).pc = 11) ∧
        (∀ address, (onEqual address).pc = 11) ∧ (∀ address, (onDifferent address).pc = address) ∧
        subtracted.flags = compared.flags ∧ Word.wrap (2147483647 - -2147483648) ≠ 0 := by
  intro s
  have words : ∀ r, Word.Fits (s.registers.get r) := by intro r; cases r <;> decide
  obtain ⟨compared, subtracted, onEqual, onDifferent, cmp, sub, jeq, jne, jumps, falls, equal,
    different, same, differ⟩ := comparing_agrees_with_branching words (-3) 1
  have clear : ¬ compared.flags.zero = true := by
    have known : compared = s.execute (.compare .ax .bx) :=
      Except.ok.inj (cmp.symm.trans (executeCells_of_instruction? rfl))
    rw [known]
    decide
  exact ⟨words, compared, subtracted, onEqual, onDifferent, cmp, sub, jeq, jne, clear ∘ jumps.2,
    clear ∘ falls.2, fun address => (equal address).trans (if_neg clear),
    fun address => (different address).trans (if_neg clear), same, differ .ax .bx (by decide)⟩

end State

end RegisterMachine
