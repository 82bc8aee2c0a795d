import RegisterMachine.Proofs.Course
import RegisterMachine.Proofs.Limit
import RegisterMachine.Proofs.Reporting

/-!
# The trace as a chronicle

While a machine is recording, the entry of a step tells of the states on both sides of
it (`Entry.Tells`, `exists_tells_report?`). Along a walk the entries then tell of consecutive
states, and the trace keeps the last of them (`Walk.entries_eq`).

A `Chronicle` says what this comes to for an observer who sees the entries only: they
are numbered by the cycles, each begins where the one before it ended, and only the last
one can tell of a halt. The entries that were made since a program was loaded are a
chronicle from the load to the present (`Reliable.chronicle_since_load`).
-/

set_option autoImplicit false

namespace RegisterMachine

/-! ## Entries of steps -/

/-- What a complete entry tells of the state from which its step was taken. -/
structure Entry.Tells (e : Entry) (s : State) : Prop where
  cycle : e.cycle = s.cycles
  address : e.address = s.pc
  decoded : e.decoded = if s.memory.InRange s.pc then some (.ofState s) else none
  before : e.before = some s.snapshot
  after : e.after = some s.next.snapshot
  error : e.error = s.abnormal?

namespace Machine

/-- The entry that a step from the machine gives, if it gives one. -/
def told? (m : Machine) : Option Entry :=
  match m.step.result with
  | .ok entry => entry
  | .error _ => none

theorem told?_of_fault {m : Machine} {fault : Fault} (refused : m.fault? = some fault) :
    m.told? = none := by
  rw [told?, result_step, outcome, refused]

theorem told?_of_accepted {m : Machine} (accepted : m.fault? = none) : m.told? = m.report? := by
  rw [told?, result_step, outcome, accepted]

theorem Reliable.told?_eq {m : Machine} (reliable : m.Reliable) : m.told? = m.report? :=
  told?_of_accepted reliable.fault?_eq_none

theorem tells_entryOf {m : Machine} (on : m.recording = true) {text : String}
    {decoded : Option Decoded} {error : Option HaltReason}
    (read : decoded = if m.state.memory.InRange m.state.pc then some (.ofState m.state) else none)
    (abnormal : error = m.state.abnormal?) : (m.entryOf text decoded error).Tells m.state where
  cycle := rfl
  address := rfl
  decoded := read
  before := by simp [entryOf, snapshot?, on]
  after := by simp [entryOf, snapshot?, on]
  error := abnormal

/-- **The step of a running machine gives an entry that tells of it**, if the machine is
recording. -/
theorem exists_tells_report? {m : Machine} (on : m.recording = true)
    (runs : m.state.running = true) : ∃ e, m.report? = some e ∧ e.Tells m.state := by
  unfold report?
  cases found : m.state.fetch with
  | stopped => exact absurd found (State.fetch_ne_stopped runs)
  | outside =>
    obtain ⟨-, outside⟩ := State.fetch_eq_iff.1 found
    refine ⟨_, rfl, tells_entryOf on ?_ ?_⟩
    · rw [if_neg outside]
    · rw [State.abnormal?, found]
  | unknown cell =>
    obtain ⟨-, inside, unknown, rfl⟩ := State.fetch_eq_iff.1 found
    refine ⟨_, rfl, tells_entryOf on ?_ ?_⟩
    · rw [if_pos inside, ofState_of_unknown unknown]
    · rw [State.abnormal?, found]
  | instruction i =>
    obtain ⟨-, inside, known⟩ := State.fetch_eq_iff.1 found
    refine ⟨_, rfl, tells_entryOf on ?_ ?_⟩
    · rw [if_pos inside, State.ofState_of_instruction? known]
    · rw [State.abnormal?, found]

/-- The trace holds no more than its limit as it is. -/
theorem lastOf_entries (m : Machine) : Recent.lastOf m.trace.limit m.entries = m.entries :=
  Recent.lastOf_lastOf_of_le (Nat.le_refl _) _

/-- While the machine is recording, a step appends the entry that it gives to the trace, which
drops what is over its limit. A step that fails gives none. -/
theorem entries_stepped {m : Machine} (on : m.recording = true) :
    m.stepped.entries = Recent.lastOf m.trace.limit (m.entries ++ m.told?.toList) := by
  have unchanged : m.stepped.trace = m.trace → m.told? = none →
      m.stepped.entries = Recent.lastOf m.trace.limit (m.entries ++ m.told?.toList) := by
    intro same nothing
    rw [nothing, Option.toList_none, List.append_nil, lastOf_entries, entries, same, entries]
  cases refused : m.fault? with
  | some fault =>
    refine unchanged ?_ (told?_of_fault refused)
    rw [Machine.stepped, refused, Option.isSome_some, if_pos rfl, trace_proceed]
  | none =>
    have told : m.told? = m.report? := told?_of_accepted refused
    have recorded : m.stepped = m.proceed.record m.report? := by
      rw [Machine.stepped, refused, Option.isSome_none, if_neg Bool.false_ne_true]
    cases given : m.report? with
    | none =>
      refine unchanged ?_ (told.trans given)
      rw [recorded, given, record, trace_proceed]
    | some e =>
      have pushed : m.stepped.trace = m.trace.push e := by
        rw [recorded, given, record, recording_proceed, if_pos on, trace_proceed]
      rw [entries, pushed, Recent.toList_push, told, given]
      rfl

theorem Reliable.entries_stepped {m : Machine} (reliable : m.Reliable) (on : m.recording = true)
    {e : Entry} (given : m.report? = some e) :
    m.stepped.entries = Recent.lastOf m.trace.limit (m.entries ++ [e]) := by
  rw [Machine.entries_stepped on, reliable.told?_eq, given]
  rfl

/-! ## Entries of walks -/

namespace Walk

variable {m last : Machine} {path : List Machine}

/-- **The trace keeps the last of the entries that the steps of a walk give.** -/
theorem entries_eq (walk : Walk m path last) (reliable : m.Reliable) (on : m.recording = true) :
    last.entries = Recent.lastOf m.trace.limit (m.entries ++ path.filterMap told?) := by
  induction walk with
  | nil m => rw [List.filterMap_nil, List.append_nil, lastOf_entries]
  | @cons m last path runs rest ih =>
    obtain ⟨e, given, -⟩ := exists_tells_report? on runs
    have later := ih reliable.stepped (m.recording_stepped.trans on)
    rw [limit_stepped, reliable.entries_stepped on given, Recent.lastOf_append] at later
    rw [later, List.filterMap_cons_some (reliable.told?_eq.trans given), List.append_assoc,
      List.singleton_append]

/-- Each step of a walk gives one entry, and that tells of the step. -/
theorem forall₂_tells (walk : Walk m path last) (reliable : m.Reliable)
    (on : m.recording = true) :
    List.Forall₂ (fun m e => Entry.Tells e m.state) path (path.filterMap told?) := by
  induction walk with
  | nil m => exact .nil
  | @cons m last path runs rest ih =>
    obtain ⟨e, given, tells⟩ := exists_tells_report? on runs
    rw [List.filterMap_cons_some (reliable.told?_eq.trans given)]
    exact .cons tells (ih reliable.stepped (m.recording_stepped.trans on))

end Walk

end Machine

/-! ## Chronicles -/

/-- Entries of consecutive steps, from a first snapshot to a last one. The steps are
numbered by the cycles from 0 on. -/
structure Chronicle (first last : Snapshot) (told : List Entry) : Prop where
  numbered : ∀ i (below : i < told.length), told[i].cycle = i ∧
    ∃ before, told[i].before = some before ∧ before.cycles = i ∧ told[i].address = before.pc
  first : ∀ e ∈ told.head?, e.before = some first
  linked : ∀ i (below : i + 1 < told.length), told[i + 1].before = told[i].after
  goesOn : ∀ i (below : i + 1 < told.length), told[i].error = none ∧
    ∃ after, told[i].after = some after ∧ after.running = true
  last : ∀ e ∈ told.getLast?, e.after = some last

/-- An entry of a step after which the machine runs tells of nothing abnormal. -/
theorem Entry.Tells.goesOn {e : Entry} {s : State} (tells : e.Tells s)
    (runs : s.next.running = true) :
    e.error = none ∧ ∃ after, e.after = some after ∧ after.running = true := by
  refine ⟨?_, _, tells.after, runs⟩
  rw [tells.error]
  cases abnormal : s.abnormal? with
  | none => rfl
  | some reason =>
    rw [State.halts_of_abnormal abnormal] at runs
    cases runs

namespace Machine

variable {m : Machine}

theorem steps_succ_eq (m : Machine) (n : Nat) : m.steps (n + 1) = (m.steps n).stepped := by
  rw [steps_add, steps_succ, steps_zero]

/-- **The entries of a walk from the load of a program are a chronicle.** -/
theorem Walk.chronicle {last : Machine} {path : List Machine} {told : List Entry}
    (walk : Walk m path last) (fresh : m.state.cycles = 0)
    (tells : List.Forall₂ (fun m e => Entry.Tells e m.state) path told) :
    Chronicle m.state.snapshot last.state.snapshot told := by
  have length : path.length = told.length := tells.length_eq
  -- Each entry tells of the machine after as many steps as there are entries before it.
  have tellsOf : ∀ i (below : i < told.length), told[i].Tells (m.steps i).state := by
    intro i below
    have here := tells.get (length ▸ below) below
    simpa only [List.get_eq_getElem, (walk.getElem i (length ▸ below)).1] using here
  have runs : ∀ i < told.length, (m.steps i).state.running = true := by
    intro i below
    obtain ⟨same, runs⟩ := walk.getElem i (length ▸ below)
    rwa [same] at runs
  have next : ∀ i, (m.steps (i + 1)).state = (m.steps i).state.next := by
    intro i
    rw [steps_succ_eq, state_stepped]
  refine { numbered := ?numbered, first := ?first, linked := ?linked, goesOn := ?goesOn,
           last := ?last }
  case numbered =>
    intro i below
    have cycles : (m.steps i).state.cycles = i := by
      rcases m.cycles_steps i with halted | counted
      · rw [runs i below] at halted
        cases halted
      · rw [counted, fresh, Nat.zero_add]
    refine ⟨(tellsOf i below).cycle.trans cycles, _, (tellsOf i below).before, cycles, ?_⟩
    exact (tellsOf i below).address
  case first =>
    intro e head
    obtain ⟨nonempty, rfl⟩ := List.getElem?_eq_some_iff.1 (List.head?_eq_getElem? ▸ head)
    exact (tellsOf 0 nonempty).before
  case linked =>
    intro i below
    rw [(tellsOf (i + 1) below).before, (tellsOf i (by omega)).after, next]
  case goesOn =>
    intro i below
    refine (tellsOf i (by omega)).goesOn ?_
    rw [← next]
    exact runs (i + 1) below
  case last =>
    intro e final
    rw [List.getLast?_eq_getElem?] at final
    obtain ⟨below, rfl⟩ := List.getElem?_eq_some_iff.1 final
    have final : told.length - 1 + 1 = told.length := by omega
    rw [(tellsOf _ below).after, ← next, final, ← length, ← walk.last_eq]

/-- The trace keeps the last of the entries that the steps since a load gave. -/
theorem Reliable.entries_since_load (reliable : m.Reliable) (on : m.recording = true)
    (program : List Int) (calls : List Call) :
    ((m.load program).after (calls.map Call.operation)).entries
      = Recent.lastOf m.trace.limit
        (((m.load program).courseOf (calls.map Call.operation)).filterMap told?) := by
  have walk := (m.load program).walk_calls calls
  rw [walk.entries_eq (reliable.load program) on, entries_load, List.nil_append]
  rfl

/-- **The trace is a chronicle since the load**, as far as it reaches back. The steps that
any calls took since a program was loaded gave one entry each; these are a chronicle from
the loaded machine to the present one, and the trace holds the last of them. -/
theorem Reliable.chronicle_since_load (reliable : m.Reliable) (on : m.recording = true)
    (program : List Int) (calls : List Call) :
    let loaded := m.load program
    let last := loaded.after (calls.map Call.operation)
    let path := loaded.courseOf (calls.map Call.operation)
    let told := path.filterMap told?
    Walk loaded path last ∧
      told.length = path.length ∧
      last.entries = Recent.lastOf (min path.length m.trace.limit) told ∧
      Chronicle loaded.state.snapshot last.state.snapshot told := by
  intro loaded last path told
  have walk : Walk loaded path last := loaded.walk_calls calls
  have tells := walk.forall₂_tells (reliable.load program) on
  have length : told.length = path.length := tells.length_eq.symm
  refine ⟨walk, length, ?_, walk.chronicle rfl tells⟩
  have kept : last.entries = Recent.lastOf m.trace.limit told :=
    reliable.entries_since_load on program calls
  rw [kept, Recent.lastOf, Recent.lastOf, length]
  congr 1
  omega

/-- A program that prints and divides by zero, stepped three times with a trace of one
entry: two of the steps give an entry, and the trace keeps that of the division. -/
theorem chronicle_of_division_by_zero :
    let loaded := (powerOn 5 none (some .reliable) true 1).load [11, 4, 6, 0, 0]
    let calls := [Call.step, .step, .step].map Call.operation
    let told := (loaded.courseOf calls).filterMap told?
    (loaded.courseOf calls).length = 2 ∧
      (loaded.after calls).haltReason = some .divisionByZero ∧
      (loaded.after calls).entries = told.drop 1 ∧
      Chronicle loaded.state.snapshot (loaded.after calls).state.snapshot told := by
  intro loaded calls told
  have reliable : (powerOn 5 none (some .reliable) true 1).Reliable := reliable_of_sink_eq rfl
  have two : (loaded.courseOf calls).length = 2 := by decide
  obtain ⟨-, length, kept, chronicle⟩ :=
    reliable.chronicle_since_load rfl [11, 4, 6, 0, 0] [.step, .step, .step]
  have some : told.length = 2 := length.trans two
  refine ⟨two, by decide, ?_, chronicle⟩
  rw [kept, two, Recent.lastOf, some]
  rfl

end Machine

end RegisterMachine
