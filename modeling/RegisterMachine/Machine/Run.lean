import RegisterMachine.Machine.Step

/-!
# Runs

A run steps until the machine halts, a step fails, or a cycle limit is reached;
the limit then leaves the machine running. Every successful step of a running
machine halts it or counts one cycle (`halts_or_counts`), so a limited run
ends.

A run without a limit goes on to the halt. Where there is one it comes before
`horizon` cycles: two different steps that begin with the same memory,
registers and program counter begin a loop that nothing leaves, and within the
horizon some two steps must. So an unlimited run may be made as a run to the
horizon.
-/

set_option autoImplicit false

namespace RegisterMachine

/-- The outcome of a run: the machine afterwards, the fault that ended it if
one did, and the events in order. -/
structure Ran where
  machine : Machine
  fault : Option Fault
  events : Array Event

/-- Reports that a limit ended a run, if the machine still runs. -/
def Ran.atLimit (ran : Ran) (limit : Value) : Ran :=
  if ran.fault.isNone ∧ ran.machine.state.running then
    { ran with events := ran.events.push (.limitReached limit (.int ran.machine.state.pc)) }
  else ran

namespace Machine

set_option linter.unusedVariables false in
/-- Steps while the machine runs and has not reached the limit. The events are
appended to the given ones. -/
def advance (limit : Int) (m : Machine) (events : Array Event) : Ran :=
  if ready : m.state.running ∧ (m.state.cycles : Int) < limit then
    match done : m.step with
    | ⟨next, .error fault, new⟩ => { machine := next, fault := some fault, events := events ++ new }
    | ⟨next, .ok _, new⟩ => advance limit next (events ++ new)
  else { machine := m, fault := none, events }
termination_by if m.state.running then (limit - m.state.cycles).toNat + 1 else 0
decreasing_by
  have progress := halts_or_counts ready.1 (congrArg Stepped.result done)
  simp only [done] at progress
  rw [if_pos ready.1]
  rcases progress with halted | counted
  · simp [halted]
  · split
    · rw [counted]
      have := ready.2
      omega
    · omega

/-- A number of cycles that no run exceeds that ends at all. A running machine
has its program counter at one of the cells, and each register and cell holds
its first content or a word. -/
def horizon (m : Machine) : Nat := Nat.pow 2 (34 * (m.memorySize + 5))

/-- A run without a limit. -/
def runFreely (m : Machine) : Ran := m.advance (m.state.cycles + m.horizon) #[]

/-- A run, limited by the given limit or else by that of the machine. A run
that ends because of its limit reports so. -/
def run (m : Machine) (limit : Option Int := none) : Ran :=
  match limit <|> m.maxCycles with
  | some bound => (m.advance bound #[]).atLimit (.int bound)
  | none => m.runFreely

/-- The machine after a number of steps. -/
def steps : Nat → Machine → Machine
  | 0, m => m
  | n + 1, m => steps n m.step.machine

end Machine

end RegisterMachine
