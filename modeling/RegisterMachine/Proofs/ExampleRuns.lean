import RegisterMachine.Program.Example
import RegisterMachine.Proofs.SpareMemory

/-!
# The runs of the examples

Every example halts on every memory it fits into. It does so on the memory that it just
fills, and leaves that only in its last step, so more cells make no difference
(`Machine.Extends.steps`).

On a memory that is too small, the end of the example is cut off, and operands that are
missing read as 0. In most places that halts the machine early. But the factorial on 21 cells
and the counting on 20 end in a jump without its target. They jump to address 0, begin anew,
and come to a core that they have been in before; from there on they never halt
(`Machine.not_halts_of_core_eq`). `Example.halts_iff` says that there are no other sizes like
these two.
-/

set_option autoImplicit false

namespace RegisterMachine

/-! ## Halting -/

namespace Machine

variable {m : Machine}

/-- The machine halts with its step of that number, and not before. -/
structure HaltsAt (m : Machine) (n : Nat) : Prop where
  halted : (m.steps n).state.running = false
  running : ∀ k < n, (m.steps k).state.running = true

/-- The machine halts after finitely many steps. -/
def Halts (m : Machine) : Prop := ∃ n, m.HaltsAt n

theorem halts_of_stopped {n : Nat} (halted : (m.steps n).state.running = false) : m.Halts := by
  have halting : ∃ n, (m.steps n).state.running = false := ⟨n, halted⟩
  exact ⟨Nat.find halting, Nat.find_spec halting, fun k below =>
    Bool.eq_true_of_not_eq_false (Nat.find_min halting below)⟩

/-- A run without a limit takes the steps up to the halt. -/
theorem HaltsAt.run_eq {n : Nat} (halts : m.HaltsAt n) (reliable : m.Reliable)
    (unlimited : m.maxCycles = none) : m.run.machine = m.steps n := by
  have free : m.run = m.runFreely := by
    rw [run, unlimited]
    rfl
  rw [free, reliable.runFreely_eq_steps halts.halted]

/-- **A machine that comes to a core again never halts.** -/
theorem not_halts_of_core_eq {first second : Nat} (lt : first < second)
    (same : (m.steps first).state.core = (m.steps second).state.core)
    (runs : (m.steps second).state.running = true) : ¬ m.Halts := by
  rintro ⟨n, halted, running⟩
  simp only [state_steps] at same runs halted running
  have le : second ≤ n := by
    by_contra beyond
    have earlier := State.running_of_le (Nat.le_of_not_le beyond) runs
    rw [halted] at earlier
    cases earlier
  exact State.core_ne_of_lt lt le halted running same

end Machine

/-! ## The examples -/

namespace Example

open Machine

/-- The machine of that many cells with an example loaded, fresh and with no cycle limit. -/
def loaded (e : Example) (size : Nat) : Machine := (powerOn size none (some .reliable)).load e.cells

theorem mem_all (e : Example) : e ∈ all := by
  cases e <;> decide

/-- The number of steps that the longest example takes. -/
def longest : Nat := 21

/-- An example that just fits stays in its memory until it halts. -/
theorem confined_of_fits : ∀ e ∈ all,
    (State.next^[longest] (e.loaded e.cells.length).state).running = false ∧
      ∀ k < longest, (State.next^[k] (e.loaded e.cells.length).state).Confined := by
  decide +kernel

/-- An example that was cut off halts no later, but for two of them. -/
theorem stopped_of_truncated : ∀ e ∈ all, ∀ size < e.cells.length,
    e = factorial ∧ size = 21 ∨ e = counting ∧ size = 20 ∨
      (State.next^[longest] (e.loaded size).state).running = false := by
  decide +kernel

/-- An example that fits runs as on the memory that it just fills. -/
theorem running_of_fits (e : Example) {size : Nat} (fits : e.cells.length ≤ size) {n : Nat}
    (few : n ≤ longest) :
    ((e.loaded size).steps n).state.running
      = ((e.loaded e.cells.length).steps n).state.running := by
  obtain ⟨-, confined⟩ := confined_of_fits e e.mem_all
  have power : (powerOn size none (some .reliable)).state.Extends
      (powerOn e.cells.length none (some .reliable)).state := .initial fits
  have alike : (e.loaded size).Extends (e.loaded e.cells.length) :=
    .load power (by simp [memorySize, powerOn, State.initial])
  have later := alike.steps (n := n) fun k below => by
    rw [state_steps]
    exact confined k (Nat.lt_of_lt_of_le below few)
  exact later.state.running

theorem halts_of_fits (e : Example) {size : Nat} (fits : e.cells.length ≤ size) :
    (e.loaded size).Halts := by
  obtain ⟨halted, -⟩ := confined_of_fits e e.mem_all
  refine halts_of_stopped (n := longest) ?_
  rw [e.running_of_fits fits (Nat.le_refl longest), state_steps]
  exact halted

/-- The number of steps that the example for stepping takes on a memory of that size. A memory
that is too small for it cuts it off. -/
def demoSteps (size : Nat) : Nat := if size = 0 then 1 else if size ≤ 3 then 2 else 3

/-- **The example for stepping halts on every memory**, with that step. -/
theorem haltsAt_stepDemo (size : Nat) : (stepDemo.loaded size).HaltsAt (demoSteps size) := by
  have small : ∀ size ≤ stepDemo.cells.length,
      ((stepDemo.loaded size).steps (demoSteps size)).state.running = false ∧
        ∀ k < demoSteps size, ((stepDemo.loaded size).steps k).state.running = true := by
    decide +kernel
  by_cases fits : stepDemo.cells.length ≤ size
  · have length : stepDemo.cells.length = 6 := rfl
    obtain ⟨halted, running⟩ := small _ (Nat.le_refl _)
    have same : demoSteps size = demoSteps stepDemo.cells.length := by
      have large : ¬ size = 0 ∧ ¬ size ≤ 3 := by omega
      rw [demoSteps, if_neg large.1, if_neg large.2]
      rfl
    have few : demoSteps stepDemo.cells.length ≤ longest := by decide
    rw [same]
    refine ⟨?_, fun k below => ?_⟩
    · rw [stepDemo.running_of_fits fits few, halted]
    · rw [stepDemo.running_of_fits fits (Nat.le_of_lt (Nat.lt_of_lt_of_le below few)),
        running k below]
  · obtain ⟨halted, running⟩ := small size (Nat.le_of_not_le fits)
    exact ⟨halted, running⟩

/-- Cut off inside their last jump, two examples go round in a circle of seven steps. -/
theorem not_halts_of_circle {e : Example} {size : Nat}
    (cut : e = factorial ∧ size = 21 ∨ e = counting ∧ size = 20) : ¬ (e.loaded size).Halts := by
  have circle : ((e.loaded size).steps 7).state.core = ((e.loaded size).steps 14).state.core ∧
      ((e.loaded size).steps 14).state.running = true := by
    rw [state_steps, state_steps]
    rcases cut with ⟨rfl, rfl⟩ | ⟨rfl, rfl⟩ <;> decide +kernel
  exact not_halts_of_core_eq (by decide : 7 < 14) circle.1 circle.2

/-- **The examples halt on memories of every size**, except for two that are cut off inside
their last jump. -/
theorem halts_iff (e : Example) (size : Nat) :
    (e.loaded size).Halts ↔ ¬ (e = factorial ∧ size = 21) ∧ ¬ (e = counting ∧ size = 20) := by
  constructor
  · intro halts
    exact ⟨fun cut => not_halts_of_circle (.inl cut) halts,
      fun cut => not_halts_of_circle (.inr cut) halts⟩
  · rintro ⟨noFactorial, noCounting⟩
    by_cases fits : e.cells.length ≤ size
    · exact e.halts_of_fits fits
    · have stopped := stopped_of_truncated e e.mem_all size (by omega)
      have halted := (stopped.resolve_left noFactorial).resolve_left noCounting
      rw [← state_steps] at halted
      exact halts_of_stopped halted

end Example

end RegisterMachine
