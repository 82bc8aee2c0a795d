import RegisterMachine.Proofs.Chronicle

/-!
# Replaying the trace

The records in the trace are all that a run took from the memory. To replay entries,
their records are executed one after the other through the standard registry; nothing is
decoded again, so the cells of the memory are written and never read (`State.replay`).

Executing an instruction changes what a snapshot shows in a way that does not depend on
the memory (`snapshot_execute_congr`). So along a walk the entries take any state with
the first snapshot through the snapshots that they tell of, and if it also has the first
memory, it ends with the last one (`Walk.replay`). A trace that reaches back to the load
is therefore a complete log of everything since (`Reliable.replay_since_load`).
-/

set_option autoImplicit false

namespace RegisterMachine

/-- The state with the given memory that a snapshot shows. -/
def Snapshot.withMemory (p : Snapshot) (memory : Memory) : State where
  memory := memory
  registers := p.registers
  pc := p.pc
  flags := p.flags
  running := p.running
  cycles := p.cycles

namespace State

/-! ## Replaying -/

/-- The state after an entry is replayed: its record is executed through the standard
registry. An entry without a valid record only stops the state. -/
def reenact (s : State) (e : Entry) : Except ExecutionError State :=
  match e.decoded.filter (·.valid) with
  | some d => (Registry.standard.execute s d).map (·.state)
  | none => .ok { s with running := false }

/-- What replaying entries shows: the snapshots after each of them, and the memory at the
end. -/
def replay (s : State) : List Entry → Except ExecutionError (List Snapshot × Memory)
  | [] => .ok ([], s.memory)
  | e :: rest => do
    let next ← s.reenact e
    let (later, memory) ← next.replay rest
    return (next.snapshot :: later, memory)

theorem replay_cons {s next : State} {e : Entry} {rest : List Entry} {later : List Snapshot}
    {memory : Memory} (first : s.reenact e = .ok next)
    (others : next.replay rest = .ok (later, memory)) :
    s.replay (e :: rest) = .ok (next.snapshot :: later, memory) := by
  simp only [replay, first, others, ok_bind, pure_eq_ok]

/-! ## What a snapshot determines -/

variable {s t : State}

/-- A state is what its snapshot shows with its memory. -/
theorem eq_of_snapshot_eq (snapshot : s.snapshot = t.snapshot) (memory : s.memory = t.memory) :
    s = t := by
  have same := congrArg₂ Snapshot.withMemory snapshot memory
  exact same

/-- **Executing an instruction changes a snapshot whatever the memory is.** -/
theorem snapshot_execute_congr (same : s.snapshot = t.snapshot) (i : Instruction) :
    (s.execute i).snapshot = (t.execute i).snapshot := by
  have other : s = { t with memory := s.memory } := eq_of_snapshot_eq same rfl
  rw [other]
  cases i with
  | store src address =>
    rw [execute_store, execute_store]
    rfl
  | _ => rfl

/-- The registry executes the record of an instruction. -/
theorem execute_record (s : State) (i : Instruction) :
    (Registry.standard.execute s (i.record s.pc)).map (·.state) = .ok (s.execute i) := by
  rw [Registry.execute, i.effect_record s s.pc]
  exact congrArg (Except.ok ∘ Execution.state) (i.settle_record s)

/-- **Replaying an entry takes the step that it tells of**: it shows the same, and with the
same memory it leaves the same memory. -/
theorem exists_reenact {e : Entry} (tells : e.Tells s) (runs : s.running = true)
    (same : t.snapshot = s.snapshot) :
    ∃ next, t.reenact e = .ok next ∧ next.snapshot = s.next.snapshot ∧
      (t.memory = s.memory → next.memory = s.next.memory) := by
  -- Without a valid record replaying only stops the state, as the step did.
  have stops : e.decoded.filter (·.valid) = none → s.next = { s with running := false } →
      ∃ next, t.reenact e = .ok next ∧ next.snapshot = s.next.snapshot ∧
        (t.memory = s.memory → next.memory = s.next.memory) := by
    intro invalid stopped
    refine ⟨{ t with running := false }, by rw [reenact, invalid], ?_, ?_⟩
    · rw [stopped]
      exact congrArg (fun p : Snapshot => { p with running := false }) same
    · rw [stopped]
      exact id
  have decoded := tells.decoded
  cases found : s.fetch with
  | stopped => exact absurd found (fetch_ne_stopped runs)
  | outside =>
    obtain ⟨-, outside⟩ := fetch_eq_iff.1 found
    rw [if_neg outside] at decoded
    exact stops (by rw [decoded]; rfl) (by rw [State.next, found])
  | unknown cell =>
    obtain ⟨-, inside, unknown, -⟩ := fetch_eq_iff.1 found
    rw [if_pos inside, Machine.ofState_of_unknown unknown] at decoded
    exact stops (by rw [decoded]; rfl) (by rw [State.next, found])
  | instruction i =>
    obtain ⟨-, inside, known⟩ := fetch_eq_iff.1 found
    have executed : s.next = s.execute i := next_of_instruction found
    -- The record names the address it was read from, which both states share.
    have counter : s.pc = t.pc := congrArg Snapshot.pc same.symm
    rw [if_pos inside, ofState_of_instruction? known, counter] at decoded
    refine ⟨t.execute i, ?_, ?_, ?_⟩
    · rw [reenact, decoded]
      exact t.execute_record i
    · rw [executed]
      exact snapshot_execute_congr same i
    · intro memory
      rw [executed, eq_of_snapshot_eq same memory]

end State

/-! ## Walks -/

namespace Machine

variable {m last : Machine} {path : List Machine} {told : List Entry}

/-- **Replaying the entries of a walk** from any state with the first snapshot shows the
snapshots that they tell of; with the first memory it ends with the last one. -/
theorem Walk.replay (walk : Walk m path last)
    (tells : List.Forall₂ (fun m e => Entry.Tells e m.state) path told) {t : State}
    (same : t.snapshot = m.state.snapshot) :
    ∃ memory, t.replay told = .ok (path.map (·.state.next.snapshot), memory) ∧
      (t.memory = m.state.memory → memory = last.state.memory) := by
  induction walk generalizing told t with
  | nil m =>
    cases tells
    exact ⟨t.memory, rfl, id⟩
  | cons runs rest ih =>
    cases tells with
    | cons here later =>
      obtain ⟨next, first, shown, kept⟩ := State.exists_reenact here runs same
      rw [← state_stepped] at kept
      obtain ⟨memory, others, ends⟩ := ih later (shown.trans (by rw [state_stepped]))
      refine ⟨memory, ?_, fun start => ends (kept start)⟩
      rw [List.map_cons, ← shown]
      exact State.replay_cons first others

/-- The entries of a walk tell of the states that its steps lead to. -/
theorem map_after_of_tells
    (tells : List.Forall₂ (fun m e => Entry.Tells e m.state) path told) :
    told.map (·.after) = (path.map (·.state.next.snapshot)).map some := by
  induction tells with
  | nil => rfl
  | cons here _ ih => rw [List.map_cons, List.map_cons, List.map_cons, ih, here.after]

/-- **The trace is a complete log of a run**, as long as it reaches back to the load. Its
records alone, executed from the first snapshot on, reproduce every snapshot whatever
the memory holds, and from the memory after the load they reproduce the present memory. -/
theorem Reliable.replay_since_load (reliable : m.Reliable) (on : m.recording = true)
    (program : List Int) (calls : List Call)
    (kept : ((m.load program).courseOf (calls.map Call.operation)).length ≤ m.trace.limit) :
    let loaded := m.load program
    let last := loaded.after (calls.map Call.operation)
    let start := loaded.state.snapshot
    ∃ snapshots : List Snapshot,
      (∀ first ∈ last.entries.head?, first.before = some start) ∧
      last.entries.map (·.after) = snapshots.map some ∧
      (start.withMemory loaded.state.memory).replay last.entries
        = .ok (snapshots, last.state.memory) ∧
      ∀ memory, ∃ final, (start.withMemory memory).replay last.entries = .ok (snapshots, final) := by
  intro loaded last start
  let path := loaded.courseOf (calls.map Call.operation)
  have walk : Walk loaded path last := loaded.walk_calls calls
  have tells := walk.forall₂_tells (reliable.load program) on
  have whole : last.entries = path.filterMap told? := by
    have nothing : (path.filterMap told?).length - m.trace.limit = 0 := by
      rw [← tells.length_eq]
      exact Nat.sub_eq_zero_of_le kept
    rw [reliable.entries_since_load on program calls, Recent.lastOf, nothing, List.drop_zero]
  rw [whole]
  refine ⟨path.map (·.state.next.snapshot), ?_, map_after_of_tells tells, ?_, ?_⟩
  · exact (walk.chronicle rfl tells).first
  · obtain ⟨memory, replayed, ends⟩ :=
      walk.replay tells (t := start.withMemory loaded.state.memory) rfl
    rw [replayed, ends rfl]
  · intro memory
    obtain ⟨final, replayed, -⟩ := walk.replay tells (t := start.withMemory memory) rfl
    exact ⟨final, replayed⟩

/-- A program that writes its own halt instruction, with a trace that holds its three
steps. -/
theorem replay_of_written_halt :
    let m := powerOn 7 none (some .reliable) true 3
    let loaded := m.load [1, 0, 12, 2, 0, 6, 0]
    let last := loaded.after ([Call.step, .step, .step].map Call.operation)
    let start := loaded.state.snapshot
    (loaded.courseOf ([Call.step, .step, .step].map Call.operation)).length ≤ m.trace.limit ∧
      last.state.memory.read 6 = 12 ∧
      ∃ snapshots : List Snapshot,
        (∀ first ∈ last.entries.head?, first.before = some start) ∧
        last.entries.map (·.after) = snapshots.map some ∧
        (start.withMemory loaded.state.memory).replay last.entries
          = .ok (snapshots, last.state.memory) ∧
        ∀ memory, ∃ final,
          (start.withMemory memory).replay last.entries = .ok (snapshots, final) := by
  have reliable : (powerOn 7 none (some .reliable) true 3).Reliable := reliable_of_sink_eq rfl
  refine ⟨by decide, by decide, ?_⟩
  exact reliable.replay_since_load rfl [1, 0, 12, 2, 0, 6, 0] [.step, .step, .step] (by decide)

end Machine

end RegisterMachine
