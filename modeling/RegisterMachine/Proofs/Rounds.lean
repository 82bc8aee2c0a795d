import RegisterMachine.Proofs.Code

/-!
# Rounds of a loop

A machine performs code where its next steps execute the instructions of that code, wherever they
are in memory (`Machine.Performs`). Performed code is seen in the state, in the output and in
the reason of a halt.

A loop is a block with a jump back at its end. Where the block is in memory at the counter of
each round, the machine performs all rounds in a row (`performs_rounds`).

A program with a loop in it leads through one state for each round, if each round leads from its
state to the next one, and the counter is at the loop until it comes behind it
(`LoopProgram.Leads`). What the rounds do is then a matter of executing the block again and again,
and no longer of fetching it: a machine that loads such a program runs to the state in the end,
and prints what is printed in the states on the way (`Reliable.run_loopProgram`).
-/

set_option autoImplicit false

namespace RegisterMachine

/-- A jump that is taken if two registers differ. -/
theorem State.execute_branch_differ (s : State) (left right : Register) (address : Int) :
    s.execute (.branch false left right address) =
      { s with
        pc := if s.registers.get left = s.registers.get right then s.pc + 4 else address
        cycles := s.cycles + 1 } := by
  rw [execute_branch]
  by_cases equal : s.registers.get left = s.registers.get right <;> simp [equal]

/-- A running state with that code at its program counter. -/
def State.Enters (s : State) (code : List Instruction) : Prop :=
  s.running = true ∧ s.memory.Holds s.pc (Instruction.encode code)

namespace State

variable {s start : State} {first second : List Instruction}

theorem Enters.left (enters : s.Enters (first ++ second)) : s.Enters first := by
  obtain ⟨runs, placed⟩ := enters
  rw [Instruction.encode_append, Memory.holds_append] at placed
  exact ⟨runs, placed.1⟩

/-- A running state whose counter has come behind that code, while the memory stayed as it was. -/
def Reaches (s start : State) (code : List Instruction) : Prop :=
  s.running = true ∧ s.memory = start.memory ∧ s.pc = start.pc + (Instruction.encode code).length

/-- Behind code there is what was behind it from the start. -/
theorem Reaches.enters (reaches : s.Reaches start first) (begins : start.Enters (first ++ second)) :
    s.Enters second := by
  obtain ⟨runs, memory, pc⟩ := reaches
  obtain ⟨-, placed⟩ := begins
  rw [Instruction.encode_append, Memory.holds_append, ← memory, ← pc] at placed
  exact ⟨runs, placed.2⟩

end State

/-- The code of so many rounds. -/
def Instruction.rounds (n : Nat) (round : List Instruction) : List Instruction :=
  (List.replicate n round).flatten

namespace Instruction

theorem rounds_succ (n : Nat) (round : List Instruction) :
    rounds (n + 1) round = rounds n round ++ round := by
  rw [rounds, rounds, List.replicate_succ', List.flatten_append, List.flatten_singleton]

theorem length_rounds (n : Nat) (round : List Instruction) :
    (rounds n round).length = n * round.length := by
  simp [rounds]

theorem mem_rounds {n : Nat} {round : List Instruction} {i : Instruction}
    (listed : i ∈ rounds n round) : i ∈ round := by
  obtain ⟨other, copy, inside⟩ := List.mem_flatten.1 listed
  rwa [List.eq_of_mem_replicate copy] at inside

end Instruction

/-! ## Programs with a loop -/

/-- A program with a loop, something before it and something behind it. The last instruction of
each of the three is named apart, because it need not go on to the next one. -/
structure LoopProgram where
  front : List Instruction
  entry : Instruction
  block : List Instruction
  exit : Instruction
  back : List Instruction
  final : Instruction

namespace LoopProgram

variable (p : LoopProgram)

/-- What is before the loop. -/
def prologue : List Instruction := p.front ++ [p.entry]

/-- The loop. -/
def loop : List Instruction := p.block ++ [p.exit]

/-- What is behind the loop. -/
def epilogue : List Instruction := p.back ++ [p.final]

/-- The instructions as they are in memory. -/
def code : List Instruction := p.prologue ++ p.loop ++ p.epilogue

/-- The instructions as they are performed, with so many rounds. -/
def performed (n : Nat) : List Instruction :=
  p.prologue ++ Instruction.rounds n p.loop ++ p.epilogue

theorem length_performed (n : Nat) :
    (p.performed n).length = p.prologue.length + n * p.loop.length + p.epilogue.length := by
  rw [performed, List.length_append, List.length_append, Instruction.length_rounds]

variable {p}

/-- Only instructions of the program are performed. -/
theorem mem_code_of_mem_performed {n : Nat} {i : Instruction} (listed : i ∈ p.performed n) :
    i ∈ p.code := by
  rw [code, List.mem_append, List.mem_append]
  rcases List.mem_append.1 listed with inside | behind
  · rcases List.mem_append.1 inside with before | repeated
    · exact .inl (.inl before)
    · exact .inl (.inr (Instruction.mem_rounds repeated))
  · exact .inr behind

/-- A program of plain instructions but for the last ones of its parts, which are no divisions, and
with values and addresses that are words. -/
structure Regular (p : LoopProgram) : Prop where
  plain : ∀ i ∈ p.front ++ p.block ++ p.back, i.plain = true
  undivided : ∀ i ∈ [p.entry, p.exit, p.final], i.opcode ≠ .div
  words : p.code.map Instruction.words = p.code

theorem Regular.opcode_ne_div (regular : p.Regular) {i : Instruction} (listed : i ∈ p.code) :
    i.opcode ≠ .div := by
  have parts : i ∈ p.front ++ p.block ++ p.back ∨ i ∈ [p.entry, p.exit, p.final] := by
    simp only [code, prologue, loop, epilogue, List.mem_append, List.mem_cons,
      List.not_mem_nil, or_false] at listed ⊢
    tauto
  rcases parts with inside | last
  · exact Instruction.opcode_ne_div_of_plain (regular.plain i inside)
  · exact regular.undivided i last

/-- The program leads through the given states, one after each number of rounds, and to a state at
the end. The counter is at the loop until the last round has led behind it. -/
structure Leads (p : LoopProgram) (start : State) (states : Nat → State) (n : Nat)
    (finished : State) : Prop where
  begins : start.executeAll p.prologue = states 0
  onward : ∀ k < n, (states k).executeAll p.loop = states (k + 1)
  ends : (states n).executeAll p.epilogue = finished
  again : ∀ k < n, (states k).Reaches start p.prologue
  leaves : (states n).Reaches start (p.prologue ++ p.loop)

namespace Leads

variable {start finished : State} {states : Nat → State} {n k : Nat}

/-- **Rounds lead through the states.** -/
theorem executeAll_rounds (leads : p.Leads start states n finished) (le : k ≤ n) :
    start.executeAll (p.prologue ++ Instruction.rounds k p.loop) = states k := by
  rw [State.executeAll_append, leads.begins]
  induction k with
  | zero => rfl
  | succ k ih =>
    rw [Instruction.rounds_succ, State.executeAll_append, ih (Nat.le_of_succ_le le),
      leads.onward k le]

theorem executeAll_performed (leads : p.Leads start states n finished) :
    start.executeAll (p.performed n) = finished := by
  rw [performed, State.executeAll_append, leads.executeAll_rounds (Nat.le_refl n), leads.ends]

/-- **Rounds print what is printed in the states in which they begin.** -/
theorem emissions_rounds (leads : p.Leads start states n finished) (le : k ≤ n) :
    start.emissions (p.prologue ++ Instruction.rounds k p.loop) =
      start.emissions p.prologue
        ++ (List.range k).flatMap fun round => (states round).emissions p.loop := by
  induction k with
  | zero => rw [State.emissions_append]; rfl
  | succ k ih =>
    rw [Instruction.rounds_succ, ← List.append_assoc, State.emissions_append,
      ih (Nat.le_of_succ_le le), leads.executeAll_rounds (Nat.le_of_succ_le le), List.range_succ,
      List.flatMap_append, List.flatMap_singleton, List.append_assoc]

theorem emissions_performed (leads : p.Leads start states n finished) :
    start.emissions (p.performed n) =
      start.emissions p.prologue
        ++ ((List.range n).flatMap fun round => (states round).emissions p.loop)
        ++ (states n).emissions p.epilogue := by
  rw [performed, State.emissions_append, leads.emissions_rounds (Nat.le_refl n),
    leads.executeAll_rounds (Nat.le_refl n)]

end Leads

end LoopProgram

namespace Machine

/-- The next steps execute that code, at whatever addresses. -/
def Performs (m : Machine) (code : List Instruction) (last : Machine) : Prop :=
  ∃ visits, Executes m visits last ∧ visits.map Prod.snd = code

namespace Performs

variable {m middle last : Machine} {code first second : List Instruction}

theorem nil (m : Machine) : Performs m [] m := ⟨[], .nil m, rfl⟩

theorem append (before : Performs m first middle) (after : Performs middle second last) :
    Performs m (first ++ second) last := by
  obtain ⟨visits, executes, rfl⟩ := before
  obtain ⟨later, follows, rfl⟩ := after
  exact ⟨visits ++ later, executes.append follows, List.map_append⟩

theorem last_eq (performs : Performs m code last) : last = m.steps code.length := by
  obtain ⟨visits, executes, rfl⟩ := performs
  rw [List.length_map]
  exact executes.last_eq

theorem state_eq (performs : Performs m code last) : last.state = m.state.executeAll code := by
  obtain ⟨visits, executes, rfl⟩ := performs
  exact executes.state_eq

theorem output_eq (performs : Performs m code last) :
    last.output.toList = m.output.toList ++ m.state.emissions code := by
  obtain ⟨visits, executes, rfl⟩ := performs
  exact executes.output_eq

theorem haltReason_eq (performs : Performs m code last) (regular : ∀ i ∈ code, i.opcode ≠ .div) :
    last.haltReason = m.haltReason := by
  obtain ⟨visits, executes, rfl⟩ := performs
  exact executes.haltReason_eq regular

end Performs

/-- **A run that performs code up to a halt ends there**, if its limit is not reached before. -/
theorem Performs.machine_run {m last : Machine} {code : List Instruction}
    (performs : Performs m code last) (reliable : m.Reliable)
    (halts : last.state.running = false) {limit : Option Int}
    (enough : ∀ bound ∈ limit <|> m.maxCycles, (m.state.cycles : Int) + code.length ≤ bound) :
    (m.run limit).machine = last := by
  rw [performs.last_eq] at halts ⊢
  exact reliable.run_of_stopped halts enough

/-! ## Blocks and loops -/

variable {m : Machine} {block : List Instruction} {exit : Instruction}

/-- A block that a machine enters is performed. -/
theorem performs_block (plain : ∀ i ∈ block, i.plain = true)
    (enters : m.state.Enters (block ++ [exit])) : ∃ last, Performs m (block ++ [exit]) last :=
  ⟨_, _, executes_block plain enters.1 enters.2, Instruction.map_snd_listing _ _⟩

/-- **A loop is performed round by round**, while every round leads to the block again. -/
theorem performs_rounds (plain : ∀ i ∈ block, i.plain = true) {n : Nat}
    (enters : ∀ k < n, (m.state.executeAll (Instruction.rounds k (block ++ [exit]))).Enters
      (block ++ [exit])) :
    ∃ last, Performs m (Instruction.rounds n (block ++ [exit])) last := by
  induction n with
  | zero => exact ⟨m, .nil m⟩
  | succ n ih =>
    obtain ⟨middle, performs⟩ := ih fun k below => enters k (Nat.lt_succ_of_lt below)
    -- The next round begins in the state that the rounds so far lead to.
    have again := enters n (Nat.lt_succ_self n)
    rw [← performs.state_eq] at again
    obtain ⟨last, round⟩ := performs_block plain again
    rw [Instruction.rounds_succ]
    exact ⟨last, performs.append round⟩

/-! ## Runs of programs with a loop -/

variable {p : LoopProgram} {states : Nat → State} {n : Nat} {finished : State}

/-- **A program with a loop is performed**, where it is in memory at the counter and leads through
states. -/
theorem performs_loopProgram (regular : p.Regular) (begins : m.state.Enters p.code)
    (leads : p.Leads m.state states n finished) : ∃ last, Performs m (p.performed n) last := by
  obtain ⟨inside, plainBack⟩ := List.forall_mem_append.1 regular.plain
  obtain ⟨plainFront, plainBlock⟩ := List.forall_mem_append.1 inside
  obtain ⟨entered, first⟩ : ∃ entered, Performs m p.prologue entered :=
    performs_block plainFront begins.left.left
  have enters : ∀ k < n,
      (entered.state.executeAll (Instruction.rounds k p.loop)).Enters p.loop := by
    intro k below
    rw [first.state_eq, ← State.executeAll_append, leads.executeAll_rounds (Nat.le_of_lt below)]
    exact (leads.again k below).enters begins.left
  obtain ⟨left, loop⟩ : ∃ left, Performs entered (Instruction.rounds n p.loop) left :=
    performs_rounds plainBlock enters
  have behind : left.state.Enters p.epilogue := by
    rw [loop.state_eq, first.state_eq, ← State.executeAll_append,
      leads.executeAll_rounds (Nat.le_refl n)]
    exact leads.leaves.enters begins
  obtain ⟨last, rest⟩ := performs_block plainBack behind
  exact ⟨last, (first.append loop).append rest⟩

/-- **A run of a program with a loop.** It is regular, it is loaded into a machine that has a cell
for each of its cells, and it leads to a state that has halted. A run with a limit that leaves a
cycle for each instruction performed ends in that state, without a fault or a reason, and prints
what is printed in the states on the way. -/
theorem Reliable.run_loopProgram (reliable : m.Reliable) (regular : p.Regular)
    (size : (Instruction.encode p.code).length ≤ m.memorySize)
    (leads : p.Leads (m.load (Instruction.encode p.code)).state states n finished)
    (halts : finished.running = false) {limit : Option Int}
    (enough : ∀ bound ∈ limit <|> m.maxCycles,
      ((p.prologue.length + n * p.loop.length + p.epilogue.length : Nat) : Int) ≤ bound) :
    let loaded := m.load (Instruction.encode p.code)
    let ran := loaded.run limit
    ran.fault = none ∧ ran.machine.state = finished ∧ ran.machine.haltReason = none ∧
      ran.machine.output.toList =
        loaded.state.emissions p.prologue
          ++ ((List.range n).flatMap fun round => (states round).emissions p.loop)
          ++ (states n).emissions p.epilogue := by
  intro loaded ran
  have still : loaded.Reliable := reliable.load _
  obtain ⟨last, performs⟩ : ∃ last, Performs loaded (p.performed n) last :=
    performs_loopProgram regular ⟨rfl, m.holds_load_of_words regular.words size⟩ leads
  have state : last.state = finished := performs.state_eq.trans leads.executeAll_performed
  have ends : ran.machine = last := by
    refine performs.machine_run still (by rw [state, halts]) fun bound given => ?_
    have fresh : loaded.state.cycles = 0 := rfl
    have within := enough bound given
    rw [p.length_performed, fresh]
    omega
  rw [ends]
  refine ⟨still.fault_run limit, state, ?haltReason, ?output⟩
  case haltReason =>
    exact performs.haltReason_eq fun i listed =>
      regular.opcode_ne_div (LoopProgram.mem_code_of_mem_performed listed)
  case output =>
    rw [performs.output_eq, leads.emissions_performed]
    rfl

end Machine

end RegisterMachine
