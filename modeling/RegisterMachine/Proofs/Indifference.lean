import RegisterMachine.Proofs.Limit
import RegisterMachine.Proofs.Printing

/-!
# What a computation is indifferent to

No instruction reads the flags, the cycle count, the trace, the output or the reason of an
earlier halt, and decoding does not either. So two machines that agree on the memory, the
registers, the program counter and the run switch, which is the core of their states, take
the same steps for as long as they are stepped, whatever else is different about them:
their cores stay the same (`core_steps`), they print the same (`exists_printed_steps`), and
their steps return entries that tell of the same instructions (`Account`,
`account_report?_congr`). `Reliable.indifferent` puts this together.

Only what counts and what shows is left to differ: the number of a step and the snapshots in
its entry.
-/

set_option autoImplicit false

namespace RegisterMachine

/-- What an entry tells of the instruction of its step: where it was, how it is written, its
record, and what was abnormal about it. -/
structure Account where
  address : Int
  instruction : String
  decoded : Option Decoded
  error : Option HaltReason

def Entry.account (e : Entry) : Account where
  address := e.address
  instruction := e.instruction
  decoded := e.decoded
  error := e.error

namespace State

variable {s t : State}

theorem fetch_congr (same : s.core = t.core) : s.fetch = t.fetch := by
  rw [← fetch_core s, same, fetch_core]

theorem printed?_congr (same : s.core = t.core) : s.printed? = t.printed? := by
  have here : s.core.printed? = s.printed? := rfl
  have there : t.core.printed? = t.printed? := rfl
  rw [← here, same, there]

end State

namespace Machine

variable {a b : Machine}

theorem core_steps (same : a.state.core = b.state.core) (n : Nat) :
    (a.steps n).state.core = (b.steps n).state.core := by
  rw [state_steps, state_steps]
  exact State.core_iterate_congr same n

/-- **Machines with the same core print the same**, step by step. -/
theorem exists_printed_steps (same : a.state.core = b.state.core) (n : Nat) :
    ∃ printed, Printed a printed (a.steps n) ∧ Printed b printed (b.steps n) := by
  induction n generalizing a b with
  | zero => exact ⟨[], .of_same rfl rfl, .of_same rfl rfl⟩
  | succ n ih =>
    have next : a.stepped.state.core = b.stepped.state.core := by
      rw [state_stepped, state_stepped]
      exact State.core_next_congr same
    obtain ⟨later, first, second⟩ := ih next
    refine ⟨a.state.printed?.toList ++ later, ?_, ?_⟩
    · rw [steps_succ]
      exact a.printed_stepped.trans first
    · rw [steps_succ, State.printed?_congr same]
      exact b.printed_stepped.trans second

/-- **Machines with the same core report the same instruction.** -/
theorem account_report?_congr (same : a.state.core = b.state.core) :
    a.report?.map Entry.account = b.report?.map Entry.account := by
  obtain ⟨-, registers, pc, -⟩ := State.core_eq_iff.1 same
  unfold report?
  rw [State.fetch_congr same]
  cases b.state.fetch with
  | stopped => rfl
  | outside => simp [Entry.account, entryOf, pc]
  | unknown cell => simp [Entry.account, entryOf, pc]
  | instruction i => simp [Entry.account, entryOf, pc, registers]

/-- **Flags and bookkeeping never influence a computation.** Two machines that agree on the
memory, the registers, the program counter and the run switch agree on them after any number
of steps; they have printed the same in between, and each of their steps has returned an
entry that gives the same account. -/
theorem Reliable.indifferent (first : a.Reliable) (second : b.Reliable)
    (memory : a.state.memory = b.state.memory) (registers : a.state.registers = b.state.registers)
    (pc : a.state.pc = b.state.pc) (running : a.state.running = b.state.running) (n : Nat) :
    ((a.steps n).state.memory = (b.steps n).state.memory ∧
      (a.steps n).state.registers = (b.steps n).state.registers ∧
      (a.steps n).state.pc = (b.steps n).state.pc ∧
      (a.steps n).state.running = (b.steps n).state.running) ∧
    (∃ printed : List Emission,
      (a.steps n).output.toList = a.output.toList ++ printed ∧
      (b.steps n).output.toList = b.output.toList ++ printed) ∧
    ∀ k < n, ∃ one other : Option Entry,
      (a.steps k).step.result = .ok one ∧ (b.steps k).step.result = .ok other ∧
      one.map Entry.account = other.map Entry.account := by
  have same : a.state.core = b.state.core :=
    State.core_eq_iff.2 ⟨memory, registers, pc, running⟩
  refine ⟨State.core_eq_iff.1 (core_steps same n), ?_, ?_⟩
  · obtain ⟨printed, one, other⟩ := exists_printed_steps same n
    exact ⟨printed, one.output, other.output⟩
  · intro k _
    refine ⟨(a.steps k).report?, (b.steps k).report?, ?_, ?_, ?_⟩
    · exact (first.steps k).result_step
    · exact (second.steps k).result_step
    · exact account_report?_congr (core_steps same k)

/-- A program that compares, prints and divides by zero, on a fresh machine and on one with
other flags, another count, an earlier output and an earlier reason to halt. -/
theorem indifferent_of_used_machine :
    let fresh := (powerOn 8 none (some .reliable)).load [10, 0, 4, 11, 4, 6, 4, 0]
    let used := { fresh with
      state := { fresh.state with flags := { zero := true, carry := true }, cycles := 9 }
      trace := { limit := 1 }
      output := #[{ register := "AX", value := 1 }]
      sink := none
      recording := false
      haltReason := some (.outOfRange 8) }
    (fresh.steps 3).state.running = false ∧
      (fresh.steps 3).output ≠ (used.steps 3).output ∧
      (fresh.steps 3).state.memory = (used.steps 3).state.memory ∧
      ∃ one other : Option Entry,
        (fresh.steps 2).step.result = .ok one ∧ (used.steps 2).step.result = .ok other ∧
        one.map Entry.account = other.map Entry.account := by
  intro fresh used
  have first : fresh.Reliable := reliable_of_sink_eq rfl
  have second : used.Reliable := by
    intro sink present
    cases present
  obtain ⟨cores, -, entries⟩ := first.indifferent second rfl rfl rfl rfl 3
  exact ⟨by decide, by decide, cores.1, entries 2 (by decide)⟩

end Machine

end RegisterMachine
