import RegisterMachine.Proofs.Transition

/-!
# The core of a state

No instruction reads the flags or the cycle count. What a state does next depends
on its core only, which is the rest of it: the memory, the registers, the program
counter and the run switch (`State.core`). So states with the same core go through
the same cores (`core_next_congr`).
-/

set_option autoImplicit false

namespace RegisterMachine

namespace State

/-- A state without its flags and its cycle count. -/
def core (s : State) : State := { s with flags := {}, cycles := 0 }

/-- Two states have the same core if they agree on everything but the flags and the
cycle count. -/
theorem core_eq_iff {s t : State} :
    s.core = t.core ↔ s.memory = t.memory ∧ s.registers = t.registers ∧ s.pc = t.pc ∧
      s.running = t.running := by
  simp [core]

@[simp] theorem fetch_core (s : State) : s.core.fetch = s.fetch := rfl

@[simp] theorem core_execute_core (s : State) (i : Instruction) :
    (s.core.execute i).core = (s.execute i).core := rfl

/-- A step changes the core in the same way. -/
@[simp] theorem core_next_core (s : State) : s.core.next.core = s.next.core := by
  unfold next
  rw [fetch_core]
  cases s.fetch with
  | instruction i => exact core_execute_core s i
  | _ => rfl

/-- **States with the same core have the same core after a step.** -/
theorem core_next_congr {s t : State} (same : s.core = t.core) : s.next.core = t.next.core := by
  rw [← core_next_core s, same, core_next_core]

end State

end RegisterMachine
