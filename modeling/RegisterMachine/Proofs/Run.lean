import RegisterMachine.Machine.Run
import RegisterMachine.Proofs.Transition

/-!
# Runs are repeated steps

A run goes on while the machine is ready for it: it runs and has not reached the
limit (`Ready`). One unfolding of a run is then one step of the machine
(`advance_of_ready`), and every run can be followed by an induction that ends
because each step of a ready machine halts it or counts a cycle
(`advance_induction`).

* Whatever the sink does, a run leaves the machine as some number of steps does
  (`exists_steps_advance`), and runs from two machines whose steps go together take the
  same number of them (`advance_related`).
* With a reliable sink that number is the distance to the limit
  (`Reliable.advance_eq_steps`), for a halted machine takes no more steps
  (`steps_of_stopped`).
-/

set_option autoImplicit false

namespace RegisterMachine

/-- After a step a state is halted, or it has counted one cycle. -/
theorem State.next_stops_or_counts (s : State) :
    s.next.running = false ∨ s.next.cycles = s.cycles + 1 := by
  unfold next
  cases found : s.fetch with
  | stopped =>
    have halted : s.running = false := fetch_eq_iff.1 found
    exact .inl halted
  | outside => exact .inl rfl
  | unknown cell => exact .inl rfl
  | instruction i => exact .inr rfl

theorem State.next_of_stopped {s : State} (halted : s.running = false) : s.next = s := by
  have found : s.fetch = .stopped := fetch_eq_iff.2 halted
  rw [next, found]

namespace Machine

/-! ## Repeated steps -/

@[simp] theorem steps_zero (m : Machine) : m.steps 0 = m := rfl

@[simp] theorem steps_succ (n : Nat) (m : Machine) : m.steps (n + 1) = m.stepped.steps n := by
  rw [← m.machine_step]
  rfl

theorem steps_add (m : Machine) (first second : Nat) :
    m.steps (first + second) = (m.steps first).steps second := by
  induction first generalizing m with
  | zero => rw [Nat.zero_add, steps_zero]
  | succ n ih => rw [Nat.add_right_comm, steps_succ, steps_succ, ih]

theorem stepped_of_stopped {m : Machine} (halted : m.state.running = false) : m.stepped = m := by
  have found : m.state.fetch = .stopped := State.fetch_eq_iff.2 halted
  simp [stepped, fault?, proceed, report?, record, found]

theorem steps_of_stopped {m : Machine} (halted : m.state.running = false) (n : Nat) :
    m.steps n = m := by
  induction n with
  | zero => rfl
  | succ n ih => rw [steps_succ, stepped_of_stopped halted, ih]

/-- Steps beyond the halt make no difference. -/
theorem steps_eq_of_stopped {m : Machine} {first second : Nat}
    (firstHalts : (m.steps first).state.running = false)
    (secondHalts : (m.steps second).state.running = false) : m.steps first = m.steps second := by
  have forth := steps_of_stopped firstHalts second
  have back := steps_of_stopped secondHalts first
  rw [← steps_add] at forth back
  rw [← forth, Nat.add_comm, back]

/-- What a step preserves, any number of steps preserves. -/
theorem steps_induction {motive : Machine → Prop} (step : ∀ m, motive m → motive m.stepped)
    {m : Machine} (start : motive m) (n : Nat) : motive (m.steps n) := by
  induction n generalizing m with
  | zero => exact start
  | succ n ih =>
    rw [steps_succ]
    exact ih (step m start)

/-! ## One unfolding of a run -/

/-- A run to that limit takes a step. -/
def Ready (m : Machine) (limit : Int) : Prop :=
  m.state.running = true ∧ (m.state.cycles : Int) < limit

variable {m : Machine} {limit : Int}

theorem advance_of_not_ready (idle : ¬ m.Ready limit) (events : Array Event) :
    m.advance limit events = { machine := m, fault := none, events } := by
  rw [advance]
  exact dif_neg idle

/-- A ready run takes a step and goes on from there. -/
theorem advance_of_ready (ready : m.Ready limit) (accepted : m.fault? = none)
    (events : Array Event) :
    m.advance limit events = m.stepped.advance limit (events ++ m.step.events) := by
  obtain ⟨new, same⟩ := m.step_eq
  have succeeds : m.outcome = .ok m.report? := by rw [outcome, accepted]
  rw [succeeds] at same
  rw [advance]
  refine (dif_pos ready).trans ?_
  split <;> simp_all

/-- A ready run ends with the step that fails. -/
theorem advance_of_fault (ready : m.Ready limit) {fault : Fault} (refused : m.fault? = some fault)
    (events : Array Event) :
    m.advance limit events =
      { machine := m.stepped, fault := some fault, events := events ++ m.step.events } := by
  obtain ⟨new, same⟩ := m.step_eq
  have fails : m.outcome = .error fault := by rw [outcome, refused]
  rw [fails] at same
  rw [advance]
  refine (dif_pos ready).trans ?_
  split <;> simp_all

/-- **Induction along a run to a limit.** -/
theorem advance_induction {motive : Machine → Prop} (limit : Int)
    (idle : ∀ m, ¬ m.Ready limit → motive m)
    (refused : ∀ m fault, m.Ready limit → m.fault? = some fault → motive m)
    (ready : ∀ m, m.Ready limit → m.fault? = none → motive m.stepped → motive m)
    (m : Machine) : motive m := by
  -- The run and its distance to the limit decrease together, except at a halt.
  by_cases goesOn : m.Ready limit
  · cases accepted : m.fault? with
    | some fault => exact refused m fault goesOn accepted
    | none =>
      by_cases halts : m.stepped.state.running = false
      · exact ready m goesOn accepted (idle _ fun next => by rw [next.1] at halts; cases halts)
      · have counted : m.stepped.state.cycles = m.state.cycles + 1 := by
          rw [state_stepped] at halts ⊢
          exact m.state.next_stops_or_counts.resolve_left halts
        have below := goesOn.2
        exact ready m goesOn accepted (advance_induction limit idle refused ready m.stepped)
  · exact idle m goesOn
termination_by (limit - m.state.cycles).toNat
decreasing_by omega

/-! ## Runs side by side -/

/-- **What a step preserves between two machines, runs from both preserve.** If related
machines are ready together and fail together, then they take the same number of steps and
end with the same fault. -/
theorem advance_related {R : Machine → Machine → Prop} {first second : Int}
    (ready : ∀ a b, R a b → (a.Ready first ↔ b.Ready second))
    (fault : ∀ a b, R a b → a.fault? = b.fault?)
    (step : ∀ a b, R a b → R a.stepped b.stepped) {a b : Machine} (start : R a b) :
    ∃ n, ∀ events others : Array Event,
      (a.advance first events).machine = a.steps n ∧
      (b.advance second others).machine = b.steps n ∧
      (a.advance first events).fault = (b.advance second others).fault := by
  induction a using advance_induction first generalizing b with
  | idle a idle =>
    have other : ¬ b.Ready second := fun goesOn => idle ((ready a b start).2 goesOn)
    refine ⟨0, fun events others => ?_⟩
    rw [advance_of_not_ready idle, advance_of_not_ready other]
    exact ⟨rfl, rfl, rfl⟩
  | refused a cause goesOn refused =>
    have other : b.fault? = some cause := fault a b start ▸ refused
    refine ⟨1, fun events others => ?_⟩
    rw [advance_of_fault goesOn refused, advance_of_fault ((ready a b start).1 goesOn) other,
      steps_succ, steps_zero, steps_succ, steps_zero]
    exact ⟨rfl, rfl, rfl⟩
  | ready a goesOn accepted ih =>
    have other : b.fault? = none := fault a b start ▸ accepted
    obtain ⟨n, same⟩ := ih (step a b start)
    refine ⟨n + 1, fun events others => ?_⟩
    rw [advance_of_ready goesOn accepted, advance_of_ready ((ready a b start).1 goesOn) other,
      steps_succ, steps_succ]
    exact same _ _

/-- What a step preserves between two machines, any number of steps preserves. -/
theorem steps_related {R : Machine → Machine → Prop}
    (step : ∀ a b, R a b → R a.stepped b.stepped) {a b : Machine} (start : R a b) (n : Nat) :
    R (a.steps n) (b.steps n) := by
  induction n generalizing a b with
  | zero => exact start
  | succ n ih =>
    rw [steps_succ, steps_succ]
    exact ih (step a b start)

/-! ## Whole runs -/

/-- A run takes some number of steps and ends with some fault, whatever the events are that
came before it. -/
theorem exists_steps_fault_advance (m : Machine) (limit : Int) :
    ∃ n, ∀ events others : Array Event,
      (m.advance limit events).machine = m.steps n ∧
      (m.advance limit others).machine = m.steps n ∧
      (m.advance limit events).fault = (m.advance limit others).fault :=
  advance_related (R := Eq) (fun _ _ same => same ▸ Iff.rfl) (fun _ _ same => same ▸ rfl)
    (fun _ _ same => same ▸ rfl) rfl

/-- A run leaves the machine as some number of steps does, whatever the sink does. -/
theorem exists_steps_advance (m : Machine) (limit : Int) :
    ∃ n, ∀ events, (m.advance limit events).machine = m.steps n := by
  obtain ⟨n, same⟩ := m.exists_steps_fault_advance limit
  exact ⟨n, fun events => (same events events).1⟩

/-- The outcome of a run does not depend on the events before it. -/
theorem advance_events (m : Machine) (limit : Int) (first second : Array Event) :
    (m.advance limit first).machine = (m.advance limit second).machine ∧
      (m.advance limit first).fault = (m.advance limit second).fault := by
  obtain ⟨n, same⟩ := m.exists_steps_fault_advance limit
  obtain ⟨one, other, fault⟩ := same first second
  exact ⟨one.trans other.symm, fault⟩

@[simp] theorem machine_atLimit (ran : Ran) (limit : Value) :
    (ran.atLimit limit).machine = ran.machine := by
  unfold Ran.atLimit
  split <;> rfl

@[simp] theorem fault_atLimit (ran : Ran) (limit : Value) :
    (ran.atLimit limit).fault = ran.fault := by
  unfold Ran.atLimit
  split <;> rfl

theorem exists_advance_run (m : Machine) (limit : Option Int) :
    ∃ bound, (m.run limit).machine = (m.advance bound #[]).machine ∧
      (m.run limit).fault = (m.advance bound #[]).fault := by
  unfold run
  split
  · exact ⟨_, machine_atLimit _ _, fault_atLimit _ _⟩
  · exact ⟨_, rfl, rfl⟩

/-- **A run leaves the machine as some number of steps does**, whatever the sink does. -/
theorem exists_steps_run (m : Machine) (limit : Option Int) :
    ∃ n, (m.run limit).machine = m.steps n := by
  obtain ⟨bound, same, -⟩ := m.exists_advance_run limit
  obtain ⟨n, steps⟩ := m.exists_steps_advance bound
  exact ⟨n, by rw [same, steps]⟩

/-! ## Runs with a reliable sink -/

theorem Reliable.fault_advance (reliable : m.Reliable) (limit : Int) (events : Array Event) :
    (m.advance limit events).fault = none := by
  induction m using advance_induction limit generalizing events with
  | idle m idle => rw [advance_of_not_ready idle]
  | refused m fault ready refused => simp [reliable.fault?_eq_none] at refused
  | ready m ready accepted ih =>
    rw [advance_of_ready ready accepted]
    exact ih reliable.stepped _

/-- A run with a reliable sink does not fail, whatever its limit is. -/
theorem Reliable.fault_run {m : Machine} (reliable : m.Reliable) (limit : Option Int) :
    (m.run limit).fault = none := by
  obtain ⟨bound, -, same⟩ := m.exists_advance_run limit
  rw [same]
  exact reliable.fault_advance bound _

/-- **A run with a reliable sink takes as many steps as there are cycles left.** A
halt on the way makes the remaining steps idle. -/
theorem Reliable.advance_eq_steps (reliable : m.Reliable) (limit : Int) (events : Array Event) :
    (m.advance limit events).machine = m.steps (limit - m.state.cycles).toNat := by
  induction m using advance_induction limit generalizing events with
  | idle m idle =>
    rw [advance_of_not_ready idle]
    by_cases runs : m.state.running = true
    · have reached : limit ≤ m.state.cycles := Int.not_lt.1 fun below => idle ⟨runs, below⟩
      have nothing : (limit - m.state.cycles).toNat = 0 := by omega
      rw [nothing, steps_zero]
    · exact (steps_of_stopped (Bool.eq_false_iff.2 runs) _).symm
  | refused m fault ready refused => simp [reliable.fault?_eq_none] at refused
  | ready m ready accepted ih =>
    have below := ready.2
    obtain ⟨left, distance⟩ : ∃ left, (limit - m.state.cycles).toNat = left + 1 :=
      ⟨(limit - m.state.cycles).toNat - 1, by omega⟩
    rw [advance_of_ready ready accepted, ih reliable.stepped, distance, steps_succ]
    by_cases halts : m.stepped.state.running = false
    · rw [steps_of_stopped halts, steps_of_stopped halts]
    · have counted : m.stepped.state.cycles = m.state.cycles + 1 := by
        rw [state_stepped] at halts ⊢
        exact m.state.next_stops_or_counts.resolve_left halts
      have same : (limit - m.stepped.state.cycles).toNat = left := by omega
      rw [same]

end Machine

end RegisterMachine
