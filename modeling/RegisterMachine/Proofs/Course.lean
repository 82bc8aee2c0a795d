import RegisterMachine.Proofs.History

/-!
# The course of a history

The machine that a history leaves does not tell which steps were taken on the way.
The course does: it lists the machines from which a run, a call or a whole history
takes its steps, in order. Only steps of running machines count, and a step that
fails ends the run that takes it.

The machines of a course follow each other by steps (`Walk`). A run walks along its
course (`walk_course`), and so do calls in a row (`walk_calls`). What is to be shown of
runs and calls is then shown by induction on the walk.
-/

set_option autoImplicit false

namespace RegisterMachine

namespace Machine

instance (m : Machine) (limit : Int) : Decidable (m.Ready limit) :=
  inferInstanceAs (Decidable (_ ∧ _))

/-! ## Runs -/

set_option linter.unusedVariables false in
/-- The machines from which a run to a limit takes its steps, in order. -/
def course (limit : Int) (m : Machine) : List Machine :=
  if ready : m.Ready limit then
    match done : m.step.result with
    | .error _ => [m]
    | .ok _ => m :: course limit m.step.machine
  else []
termination_by if m.state.running then (limit - m.state.cycles).toNat + 1 else 0
decreasing_by
  have progress := halts_or_counts ready.1 done
  have below := ready.2
  rw [if_pos ready.1]
  rcases progress with halted | counted
  · simp [halted]
  · split
    · omega
    · omega

/-- The limit that a run goes to: its own, or else that of the machine, or else the
horizon. -/
def runLimit (m : Machine) (limit : Option Int) : Int :=
  (limit <|> m.maxCycles).getD (m.state.cycles + m.horizon)

theorem machine_run (m : Machine) (limit : Option Int) :
    (m.run limit).machine = (m.advance (m.runLimit limit) #[]).machine := by
  unfold run runLimit
  cases limit <|> m.maxCycles with
  | none => rfl
  | some bound => exact machine_atLimit _ _

theorem fault_run (m : Machine) (limit : Option Int) :
    (m.run limit).fault = (m.advance (m.runLimit limit) #[]).fault := by
  unfold run runLimit
  cases limit <|> m.maxCycles with
  | none => rfl
  | some bound => exact fault_atLimit _ _

section Course

variable {m : Machine} {limit : Int}

theorem course_of_not_ready (idle : ¬ m.Ready limit) : m.course limit = [] := by
  rw [course, dif_neg idle]

theorem course_of_ready (ready : m.Ready limit) (accepted : m.fault? = none) :
    m.course limit = m :: m.stepped.course limit := by
  have succeeds : m.step.result = .ok m.report? := by rw [m.result_step, outcome, accepted]
  rw [course, dif_pos ready]
  split
  · simp_all
  · rw [m.machine_step]

theorem course_of_fault (ready : m.Ready limit) {fault : Fault} (refused : m.fault? = some fault) :
    m.course limit = [m] := by
  have fails : m.step.result = .error fault := by rw [m.result_step, outcome, refused]
  rw [course, dif_pos ready]
  split
  · rfl
  · simp_all

end Course

/-! ## Walks -/

/-- Steps in a row, all of running machines: the machines from which they are taken,
and the machine that the last of them leaves. -/
inductive Walk : Machine → List Machine → Machine → Prop
  | nil (m : Machine) : Walk m [] m
  | cons {m last : Machine} {path : List Machine} (runs : m.state.running = true)
      (rest : Walk m.stepped path last) : Walk m (m :: path) last

namespace Walk

variable {m middle last : Machine} {path later : List Machine}

theorem append (first : Walk m path middle) (second : Walk middle later last) :
    Walk m (path ++ later) last := by
  induction first with
  | nil m => exact second
  | cons runs _ ih => exact .cons runs (ih second)

theorem step (runs : m.state.running = true) : Walk m [m] m.stepped := .cons runs (.nil _)

/-- A walk takes as many steps as there are machines on it. -/
theorem last_eq (walk : Walk m path last) : last = m.steps path.length := by
  induction walk with
  | nil m => rfl
  | cons _ _ ih => rw [List.length_cons, steps_succ, ih]

/-- The machines on a walk are those after the first steps, and all of them run. -/
theorem getElem (walk : Walk m path last) (i : Nat) (below : i < path.length) :
    path[i] = m.steps i ∧ path[i].state.running = true := by
  induction walk generalizing i with
  | nil m => cases below
  | cons runs rest ih =>
    cases i with
    | zero => exact ⟨rfl, runs⟩
    | succ i =>
      rw [List.getElem_cons_succ, steps_succ]
      exact ih i (Nat.lt_of_succ_lt_succ below)

end Walk

/-- **A run walks along its course**, whatever the sink does. -/
theorem walk_course (m : Machine) (limit : Int) (events : Array Event) :
    Walk m (m.course limit) (m.advance limit events).machine := by
  induction m using advance_induction limit generalizing events with
  | idle m idle =>
    rw [course_of_not_ready idle, advance_of_not_ready idle]
    exact .nil m
  -- The step that fails has been taken all the same.
  | refused m fault ready refused =>
    rw [course_of_fault ready refused, advance_of_fault ready refused]
    exact .step ready.1
  | ready m ready accepted ih =>
    rw [course_of_ready ready accepted, advance_of_ready ready accepted]
    exact .cons ready.1 (ih _)

end Machine

/-! ## Histories -/

/-- Whether an operation loads a program. One that is refused is not loaded. -/
def Operation.loads : Operation → Bool
  | load cells => (Machine.programOf cells).isOk
  | _ => false

/-- The machines from which an operation takes steps, in order. -/
def Operation.course (m : Machine) : Operation → List Machine
  | step => if m.state.running then [m] else []
  | run limit => m.course (m.runLimit limit)
  | load _ | record _ => []

/-- An operation that loads a program does nothing else. -/
theorem Operation.exists_load {op : Operation} (loads : op.loads = true) :
    ∃ program, ∀ m : Machine, op.apply m = m.load program ∧ op.course m = [] := by
  cases op with
  | load cells =>
    cases read : Machine.programOf cells with
    | ok program => exact ⟨program, fun m => ⟨by simp only [apply, read], rfl⟩⟩
    | error cause =>
      rw [Operation.loads, read] at loads
      cases loads
  | _ => cases loads

/-- The machines from which the steps of a history are taken, in order. -/
def Machine.courseOf (m : Machine) : List Operation → List Machine
  | [] => []
  | op :: rest => op.course m ++ (op.apply m).courseOf rest

/-- An operation that may take steps. -/
inductive Call where
  | step
  | run (limit : Option Int)

def Call.operation : Call → Operation
  | step => .step
  | run limit => .run limit

namespace Machine

/-- A call walks along its course. -/
theorem walk_operation (m : Machine) (call : Call) :
    Walk m (call.operation.course m) (call.operation.apply m) := by
  cases call with
  | step =>
    rw [Call.operation, Operation.course, Operation.apply, m.machine_step]
    split
    · rename_i runs
      exact .step runs
    · rename_i halted
      rw [stepped_of_stopped (Bool.eq_false_iff.2 halted)]
      exact .nil m
  | run limit =>
    rw [Call.operation, Operation.course, Operation.apply, machine_run]
    exact m.walk_course _ _

/-- **Calls in a row walk along their course.** -/
theorem walk_calls (m : Machine) (calls : List Call) :
    Walk m (m.courseOf (calls.map Call.operation)) (m.after (calls.map Call.operation)) := by
  induction calls generalizing m with
  | nil => exact .nil m
  | cons call rest ih => exact (m.walk_operation call).append (ih _)

end Machine

end RegisterMachine
