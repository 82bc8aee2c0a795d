import RegisterMachine.Machine.Load
import RegisterMachine.Proofs.Horizon

/-!
# Limits of runs

A run to a limit takes as many steps as there are cycles left, and a halt on the
way makes the rest of them idle. So it ends halted or exactly at the limit
(`cycles_steps`), and two runs in a row are one run to the greater limit. A run
without a limit is a run to the horizon, and a machine that halts at all has
halted by then (`Reliable.runFreely_eq_steps`). All this is put together in
`Reliable.run_eq_steps`.
-/

set_option autoImplicit false

namespace RegisterMachine

theorem State.cycles_next_le (s : State) : s.next.cycles ≤ s.cycles + 1 := by
  unfold next
  cases s.fetch with
  | instruction i => exact Nat.le_refl _
  | _ => exact Nat.le_succ _

namespace Machine

theorem state_steps (m : Machine) (n : Nat) : (m.steps n).state = State.next^[n] m.state := by
  induction n generalizing m with
  | zero => rfl
  | succ n ih => rw [steps_succ, ih, state_stepped, Function.iterate_succ_apply]

theorem cycles_steps_le (m : Machine) (n : Nat) :
    (m.steps n).state.cycles ≤ m.state.cycles + n := by
  induction n generalizing m with
  | zero => exact Nat.le_refl _
  | succ n ih =>
    have later := ih m.stepped
    have first := m.state.cycles_next_le
    rw [state_stepped] at later
    rw [steps_succ]
    omega

/-- **Steps that do not end at a halt count one cycle each.** -/
theorem cycles_steps (m : Machine) (n : Nat) :
    (m.steps n).state.running = false ∨ (m.steps n).state.cycles = m.state.cycles + n := by
  induction n generalizing m with
  | zero => exact .inr rfl
  | succ n ih =>
    rw [steps_succ]
    by_cases halts : m.stepped.state.running = false
    · left
      rw [steps_of_stopped halts]
      exact halts
    · refine (ih m.stepped).imp_right fun later => ?_
      rw [state_stepped] at later halts
      have counted := m.state.next_stops_or_counts.resolve_left halts
      omega

variable {m : Machine}

/-- A run to a limit takes the steps that are left to it. -/
theorem Reliable.run_eq_steps_of_limit (reliable : m.Reliable) {limit : Option Int} {bound : Int}
    (given : (limit <|> m.maxCycles) = some bound) :
    (m.run limit).machine = m.steps (bound - m.state.cycles).toNat := by
  rw [run, given]
  exact (machine_atLimit _ _).trans (reliable.advance_eq_steps bound #[])

theorem Reliable.steps (reliable : m.Reliable) (n : Nat) : (m.steps n).Reliable :=
  steps_induction (motive := Reliable) (fun _ => Reliable.stepped) reliable n

theorem Reliable.run_some (reliable : m.Reliable) (bound : Int) :
    (m.run (some bound)).machine = m.steps (bound - m.state.cycles).toNat :=
  reliable.run_eq_steps_of_limit rfl

/-- **Two runs in a row are one run to the greater limit.** -/
theorem Reliable.run_run (reliable : m.Reliable) (first second : Int) :
    ((m.run (some first)).machine.run (some second)).machine
      = (m.run (some (max first second))).machine := by
  rw [reliable.run_some first, (reliable.steps _).run_some second, reliable.run_some]
  rcases m.cycles_steps (first - m.state.cycles).toNat with halted | counted
  · obtain ⟨more, sum⟩ : ∃ more, (max first second - m.state.cycles).toNat
        = (first - m.state.cycles).toNat + more :=
      ⟨_, (Nat.add_sub_cancel' (Int.toNat_le_toNat (by omega))).symm⟩
    rw [sum, steps_add, steps_of_stopped halted, steps_of_stopped halted]
  · rw [← steps_add, counted]
    congr 1
    omega

/-- A machine that halts at all has halted at the horizon. -/
theorem stopped_at_horizon {n : Nat} (halts : (m.steps n).state.running = false) :
    (m.steps m.horizon).state.running = false := by
  have halting : ∃ n, (State.next^[n] m.state).running = false :=
    ⟨n, by rw [← state_steps, halts]⟩
  have least : ∀ k < Nat.find halting, (State.next^[k] m.state).running = true :=
    fun k below => Bool.eq_true_of_not_eq_false (Nat.find_min halting below)
  have within : Nat.find halting ≤ m.horizon :=
    State.halt_le_horizon (Nat.find_spec halting) least
  rw [state_steps]
  by_contra runs
  have earlier := State.running_of_le within (Bool.eq_true_of_not_eq_false runs)
  rw [Nat.find_spec halting] at earlier
  cases earlier

/-- **A run without a limit goes on to the halt**, if there is one. -/
theorem Reliable.runFreely_eq_steps (reliable : m.Reliable) {n : Nat}
    (halts : (m.steps n).state.running = false) : m.runFreely.machine = m.steps n := by
  have distance : ((m.state.cycles + m.horizon : Int) - m.state.cycles).toNat = m.horizon := by
    omega
  rw [runFreely, reliable.advance_eq_steps, distance]
  exact steps_eq_of_stopped (stopped_at_horizon halts) halts

/-- **Runs are steps.** With a reliable sink, a run to a limit does not fail, leaves the
machine as the steps that are left to the limit do, and never goes beyond it; two runs
in a row are one run to the greater limit; and a run without a limit leaves the machine
as any number of steps does that halts it. -/
theorem Reliable.run_eq_steps (reliable : m.Reliable) :
    (∀ (limit : Option Int) (bound : Int), (limit <|> m.maxCycles) = some bound →
      (m.run limit).fault = none ∧
      (m.run limit).machine = m.steps (bound - m.state.cycles).toNat ∧
      (m.run limit).machine.state.cycles ≤ max bound m.state.cycles ∧
      ((m.run limit).machine.state.running = false ∨
        (m.run limit).machine.state.cycles = max bound m.state.cycles)) ∧
    (∀ first second : Int,
      ((m.run (some first)).machine.run (some second)).fault = none ∧
      ((m.run (some first)).machine.run (some second)).machine
        = (m.run (some (max first second))).machine) ∧
    (m.maxCycles = none → ∀ n, (m.steps n).state.running = false →
      (m.run none).fault = none ∧ (m.run none).machine = m.steps n) := by
  refine ⟨?limited, ?twice, ?unlimited⟩
  case limited =>
    intro limit bound given
    have same := reliable.run_eq_steps_of_limit given
    have upper := m.cycles_steps_le (bound - m.state.cycles).toNat
    have halted := m.cycles_steps (bound - m.state.cycles).toNat
    rw [same]
    exact ⟨reliable.fault_run limit, rfl, by omega, halted.imp_right fun counted => by omega⟩
  case twice =>
    intro first second
    have still : (m.run (some first)).machine.Reliable := by
      rw [reliable.run_some]
      exact reliable.steps _
    exact ⟨still.fault_run _, reliable.run_run first second⟩
  case unlimited =>
    intro unlimited n halts
    have free : m.run none = m.runFreely := by
      rw [run, unlimited]
      rfl
    exact ⟨reliable.fault_run none, by rw [free, reliable.runFreely_eq_steps halts]⟩

/-- A program that prints and halts, run to a limit of one cycle and to its end. -/
theorem run_eq_steps_of_print_halt :
    (((powerOn 3 none (some .reliable)).load [11, 4, 12]).run (some 1)).machine
        = ((powerOn 3 none (some .reliable)).load [11, 4, 12]).steps 1 ∧
      (((powerOn 3 none (some .reliable)).load [11, 4, 12]).run none).machine
        = ((powerOn 3 none (some .reliable)).load [11, 4, 12]).steps 2 := by
  have reliable : ((powerOn 3 none (some .reliable)).load [11, 4, 12]).Reliable := by
    intro sink present call
    obtain rfl := Option.some.inj present
    rfl
  obtain ⟨limited, -, unlimited⟩ := reliable.run_eq_steps
  exact ⟨(limited (some 1) 1 rfl).2.1, (unlimited rfl 2 (by decide)).2⟩

end Machine

end RegisterMachine
