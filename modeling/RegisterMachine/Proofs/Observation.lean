import RegisterMachine.Proofs.Chronicle
import RegisterMachine.Proofs.Printing

/-!
# Observation does not disturb execution

Machines are alike if they differ at most in what they record: whether they do, and how much
of it they keep (`Machine.Alike`). Alike machines fail at the same steps and stay alike
(`Alike.stepped`). So a run takes the same number of steps from either and ends with the same
fault (`Alike.exists_steps_run`), and all that a caller does to both keeps them alike, while
recording is switched in either as often as one likes (`Alike.after`).

If both are recording all the time, each step gives both the same entry. Then the trace with
the smaller limit trails the other one: it is the end of it (`Machine.Trails`,
`Trails.stepped`). `Alike.undisturbed` puts this together.
-/

set_option autoImplicit false

namespace RegisterMachine

namespace Machine

/-- Two machines that differ at most in what they record. -/
structure Alike (a b : Machine) : Prop where
  state : a.state = b.state
  output : a.output = b.output
  sink : a.sink = b.sink
  haltReason : a.haltReason = b.haltReason
  maxCycles : a.maxCycles = b.maxCycles

variable {a b c : Machine}

/-- An entry is about the state, and has its snapshots if the machine is recording. -/
theorem report?_congr (state : a.state = b.state) (recording : a.recording = b.recording) :
    a.report? = b.report? := by
  have entry : ∀ text decoded error,
      a.entryOf text decoded error = b.entryOf text decoded error := by
    intro text decoded error
    simp only [entryOf, snapshot?, recording_proceed, state_proceed, state, recording]
  unfold report?
  rw [state]
  cases b.state.fetch <;> simp only [entry]

namespace Alike

theorem refl (m : Machine) : m.Alike m := ⟨rfl, rfl, rfl, rfl, rfl⟩

theorem symm (alike : a.Alike b) : b.Alike a where
  state := alike.state.symm
  output := alike.output.symm
  sink := alike.sink.symm
  haltReason := alike.haltReason.symm
  maxCycles := alike.maxCycles.symm

theorem trans (first : a.Alike b) (second : b.Alike c) : a.Alike c where
  state := first.state.trans second.state
  output := first.output.trans second.output
  sink := first.sink.trans second.sink
  haltReason := first.haltReason.trans second.haltReason
  maxCycles := first.maxCycles.trans second.maxCycles

/-! ## Steps -/

theorem fault?_eq (alike : a.Alike b) : a.fault? = b.fault? := by
  unfold fault? refused? sinkFailed emit
  rw [alike.state, alike.sink]

/-- **A step keeps machines alike.** -/
theorem stepped (alike : a.Alike b) : a.stepped.Alike b.stepped where
  state := by rw [state_stepped, state_stepped, alike.state]
  output := by
    apply Array.toList_inj.1
    rw [a.printed_stepped.output, b.printed_stepped.output, alike.output, alike.state]
  sink := by rw [a.printed_stepped.sink, b.printed_stepped.sink, alike.sink, alike.state]
  haltReason := by
    rw [haltReason_stepped, haltReason_stepped, haltReason_proceed, haltReason_proceed,
      alike.state, alike.haltReason]
  maxCycles := by rw [maxCycles_stepped, maxCycles_stepped, alike.maxCycles]

/-- If both or neither of the machines are recording, their steps give the same entry. -/
theorem told?_eq (alike : a.Alike b) (recording : a.recording = b.recording) :
    a.told? = b.told? := by
  rw [told?, told?, result_step, result_step, outcome, outcome, alike.fault?_eq,
    report?_congr alike.state recording]

/-! ## Runs -/

theorem ready_iff (alike : a.Alike b) (limit : Int) : a.Ready limit ↔ b.Ready limit := by
  rw [Ready, Ready, alike.state]

/-- **A run takes the same number of steps from both machines**, and fails alike. -/
theorem exists_steps_run (alike : a.Alike b) (limit : Option Int) :
    ∃ n, (a.run limit).machine = a.steps n ∧ (b.run limit).machine = b.steps n ∧
      (a.run limit).fault = (b.run limit).fault := by
  have bound : a.runLimit limit = b.runLimit limit := by
    rw [runLimit, runLimit, horizon, horizon, memorySize, memorySize, alike.state,
      alike.maxCycles]
  obtain ⟨n, same⟩ := advance_related (fun _ _ alike => alike.ready_iff (a.runLimit limit))
    (fun _ _ alike => alike.fault?_eq) (fun _ _ alike => alike.stepped) alike
  refine ⟨n, ?_⟩
  rw [machine_run, machine_run, fault_run, fault_run, ← bound]
  exact same #[] #[]

end Alike

end Machine

/-! ## Operations -/

namespace Operation

/-- Whether an operation switches recording on or off. -/
def switches : Operation → Bool
  | record _ => true
  | _ => false

theorem exists_record {op : Operation} (switches : op.switches = true) : ∃ on, op = record on := by
  cases op with
  | record on => exact ⟨on, rfl⟩
  | _ => cases switches

/-- **What a load and a step preserve between alike machines, every operation preserves**
that does not switch recording. -/
theorem apply_related {R : Machine → Machine → Prop} (alike : ∀ a b, R a b → a.Alike b)
    (load : ∀ a b program, R a b → R (a.load program) (b.load program))
    (step : ∀ a b, R a b → R a.stepped b.stepped) {a b : Machine} (start : R a b)
    {op : Operation} (keeps : op.switches = false) : R (op.apply a) (op.apply b) := by
  cases op with
  | load cells =>
    cases read : Machine.programOf cells with
    | ok program => simpa only [apply, read] using load a b program start
    | error cause => simpa only [apply, read] using start
  | step =>
    rw [apply, apply, Machine.machine_step, Machine.machine_step]
    exact step a b start
  | run limit =>
    obtain ⟨n, first, second, -⟩ := (alike a b start).exists_steps_run limit
    rw [apply, apply, first, second]
    exact Machine.steps_related step start n
  | record on => cases keeps

end Operation

namespace Machine

variable {a b : Machine}

theorem Alike.load (alike : a.Alike b) (program : List Int) :
    (a.load program).Alike (b.load program) where
  state := by rw [Machine.load, Machine.load, alike.state]
  output := rfl
  sink := alike.sink
  haltReason := rfl
  maxCycles := alike.maxCycles

theorem Alike.apply (alike : a.Alike b) {op : Operation} (keeps : op.switches = false) :
    (op.apply a).Alike (op.apply b) :=
  Operation.apply_related (fun _ _ => id) (fun _ _ program alike => alike.load program)
    (fun _ _ alike => alike.stepped) alike keeps

/-- An operation fails on both machines or on neither, and in the same way. -/
theorem Alike.failure?_eq (alike : a.Alike b) (op : Operation) :
    op.failure? a = op.failure? b := by
  cases op with
  | load cells => rfl
  | step =>
    have fault : a.fault? = b.fault? := alike.fault?_eq
    simp only [Operation.failure?, result_step, outcome, fault]
    cases b.fault? <;> rfl
  | run limit =>
    obtain ⟨-, -, -, fault⟩ := alike.exists_steps_run limit
    simp only [Operation.failure?, fault]
  | record on => rfl

/-! ## Histories -/

/-- A history without the switching of recording. -/
def unswitched (history : List Operation) : List Operation := history.filter (!·.switches)

theorem unswitched_cons_of_switches {op : Operation} (switches : op.switches = true)
    (rest : List Operation) : unswitched (op :: rest) = unswitched rest := by
  simp [unswitched, switches]

theorem unswitched_cons_of_keeps {op : Operation} (keeps : op.switches = false)
    (rest : List Operation) : unswitched (op :: rest) = op :: unswitched rest := by
  simp [unswitched, keeps]

/-- Switching recording makes no difference to alike machines. -/
theorem Alike.after_unswitched (alike : a.Alike b) (history : List Operation) :
    (a.after history).Alike (b.after (unswitched history)) := by
  induction history generalizing a b with
  | nil => exact alike
  | cons op rest ih =>
    cases switches : op.switches with
    | true =>
      obtain ⟨on, rfl⟩ := Operation.exists_record switches
      rw [unswitched_cons_of_switches switches, after_cons]
      exact ih ⟨alike.state, alike.output, alike.sink, alike.haltReason, alike.maxCycles⟩
    | false =>
      rw [unswitched_cons_of_keeps switches, after_cons, after_cons]
      exact ih (alike.apply switches)

/-- **Alike machines stay alike** when the same is done to both of them, however recording
is switched in between. -/
theorem Alike.after (alike : a.Alike b) {first second : List Operation}
    (same : unswitched first = unswitched second) : (a.after first).Alike (b.after second) := by
  have one := alike.after_unswitched first
  have other := (Alike.refl b).after_unswitched second
  rw [same] at one
  exact one.trans other.symm

/-! ## Traces of different lengths -/

/-- Two alike machines that are recording, of which the first keeps the end of the trace of
the second. -/
structure Trails (a b : Machine) : Prop where
  alike : a.Alike b
  recording : a.recording = true
  alsoRecording : b.recording = true
  limit : a.trace.limit ≤ b.trace.limit
  entries : a.entries = Recent.lastOf a.trace.limit b.entries

/-- **A step adds the same entry to both traces**, and the shorter one stays the end of the
longer one. -/
theorem Trails.stepped (trails : a.Trails b) : a.stepped.Trails b.stepped where
  alike := trails.alike.stepped
  recording := a.recording_stepped.trans trails.recording
  alsoRecording := b.recording_stepped.trans trails.alsoRecording
  limit := by
    rw [limit_stepped, limit_stepped]
    exact trails.limit
  entries := by
    have told : a.told? = b.told? :=
      trails.alike.told?_eq (trails.recording.trans trails.alsoRecording.symm)
    rw [entries_stepped trails.recording, entries_stepped trails.alsoRecording, limit_stepped,
      trails.entries, told, Recent.lastOf_append, Recent.lastOf_lastOf_of_le trails.limit]

theorem Trails.load (trails : a.Trails b) (program : List Int) :
    (a.load program).Trails (b.load program) where
  alike := trails.alike.load program
  recording := trails.recording
  alsoRecording := trails.alsoRecording
  limit := trails.limit
  entries := by rw [entries_load, entries_load, Recent.lastOf, List.drop_nil]

theorem Trails.after (trails : a.Trails b) (history : List Operation)
    (keeps : ∀ op ∈ history, op.switches = false) : (a.after history).Trails (b.after history) := by
  induction history generalizing a b with
  | nil => exact trails
  | cons op rest ih =>
    obtain ⟨here, later⟩ := List.forall_mem_cons.1 keeps
    refine ih ?_ later
    exact Operation.apply_related (fun _ _ trails => trails.alike)
      (fun _ _ program trails => trails.load program) (fun _ _ trails => trails.stepped) trails here

theorem recording_apply (m : Machine) {op : Operation} (keeps : op.switches = false) :
    (op.apply m).recording = m.recording := by
  cases op with
  | load cells => cases read : programOf cells <;> simp only [Operation.apply, read, Machine.load]
  | step => rw [Operation.apply, machine_step, recording_stepped]
  | run limit =>
    obtain ⟨n, same⟩ := m.exists_steps_run limit
    rw [Operation.apply, same]
    exact steps_induction (motive := (·.recording = m.recording))
      (fun m same => m.recording_stepped.trans same) rfl n
  | record on => cases keeps

/-- The machine is recording throughout a history. -/
def Records (m : Machine) (history : List Operation) : Prop :=
  m.recording = true ∧ ∀ on, Operation.record on ∈ history → on = true

/-- A switch is no switch if recording is on and stays on. -/
theorem Records.after_eq {m : Machine} {history : List Operation} (records : m.Records history) :
    m.after history = m.after (unswitched history) := by
  obtain ⟨on, stays⟩ := records
  induction history generalizing m with
  | nil => rfl
  | cons op rest ih =>
    have later : ∀ value, Operation.record value ∈ rest → value = true :=
      fun value member => stays value (List.mem_cons_of_mem op member)
    cases switches : op.switches with
    | true =>
      obtain ⟨value, rfl⟩ := Operation.exists_record switches
      have unchanged : (Operation.record value).apply m = m := by
        rw [Operation.apply, stays value List.mem_cons_self, ← on]
      rw [unswitched_cons_of_switches switches, after_cons, unchanged]
      exact ih on later
    | false =>
      rw [unswitched_cons_of_keeps switches, after_cons, after_cons]
      exact ih ((m.recording_apply switches).trans on) later

/-- **Observation does not disturb execution.** Machines that differ at most in what they
record stay so, whatever is done to both of them and however recording is switched in
between, and any operation then fails on both or on neither. If both are recording
throughout, the trace with the smaller limit is the end of the other one. -/
theorem Alike.undisturbed (alike : a.Alike b) {first second : List Operation}
    (same : unswitched first = unswitched second) :
    (a.after first).Alike (b.after second) ∧
    (∀ op : Operation, op.failure? (a.after first) = op.failure? (b.after second)) ∧
    (a.Records first → b.Records second → a.trace.limit ≤ b.trace.limit →
      a.entries = Recent.lastOf a.trace.limit b.entries →
      (a.after first).entries = Recent.lastOf a.trace.limit (b.after second).entries) := by
  have later := alike.after same
  refine ⟨later, later.failure?_eq, fun records alsoRecords limit entries => ?_⟩
  have start : a.Trails b := ⟨alike, records.1, alsoRecords.1, limit, entries⟩
  have trails := start.after (unswitched first) fun op member => by
    simpa using (List.mem_filter.1 member).2
  rw [records.after_eq, alsoRecords.after_eq, ← same, trails.entries, limit_after]

/-- A sink that fails at once, and two machines that remember one entry and three. Recording
is switched on where it is on, or off before the last steps. -/
theorem undisturbed_by_failing_sink :
    let a := powerOn 5 none (some (.failingAt 1)) true 1
    let b := powerOn 5 none (some (.failingAt 1)) true 3
    let load := Operation.load (.list [.int 11, .int 4, .int 11, .int 0, .int 12])
    let first := [load, .step, .step, .step]
    let second := [load, .step, .record true, .step, .step]
    let third := [load, .step, .record false, .step, .step]
    Operation.step.failure? (a.after [load])
        = some (.fault (.sink { register := "SP", value := 4 })) ∧
      (b.after second).entries.length = 2 ∧
      (a.after first).entries = Recent.lastOf 1 (b.after second).entries ∧
      (b.after third).entries.length = 0 ∧
      (a.after first).Alike (b.after third) := by
  intro a b load first second third
  have alike : a.Alike b := ⟨rfl, rfl, rfl, rfl, rfl⟩
  have records : a.Records first := ⟨rfl, by simp [first, load]⟩
  have alsoRecords : b.Records second := ⟨rfl, by simp [second, load]⟩
  have same : unswitched first = unswitched second := rfl
  have alsoSame : unswitched first = unswitched third := rfl
  have entries := (alike.undisturbed same).2.2 records alsoRecords (by decide) rfl
  have later := (alike.undisturbed alsoSame).1
  exact ⟨by decide, by decide, entries, by decide, later⟩

end Machine

end RegisterMachine
