import RegisterMachine.Loose.Machine
import RegisterMachine.Panels
import RegisterMachine.Proofs.Bounds

/-!
# Nothing that a program does is an error

Records, the registry and the reports are joined by names only: a primitive looks
its operands up by name, the assembly text does so again, and a report of the
trace looks into the snapshots of every entry. Here all of that is found, for
every machine that a history with a reliable sink leaves.

* A record of a valid instruction has everything that is looked up in it
  (`Decoded.complete_ofState`).
* Every entry in the trace has both of its snapshots (`complete_entries_after`), also
  if recording was switched off for a while.
* Numbers within the bounds of a machine have few enough digits to be written
  (`Numeral.writeDecimal_of_lt`).

So steps, runs and reports succeed after every history (`succeeds_after`), and what
is abnormal shows as a halt only (`State.abnormal?`).
-/

set_option autoImplicit false

namespace RegisterMachine

/-! ## Complete records -/

/-- Everything that is looked up in a record of a state is there: its operands, of
which the registers exist, its text, and its effect in the standard registry. -/
structure Decoded.Complete (d : Decoded) (s : State) : Prop where
  operands : ∃ op, d.instruction? = some op ∧ ∀ operand ∈ op.operands,
    ∃ value, d.params.find operand.1 = .ok value ∧
      (operand.2 = .register → ∃ r : Register, value = .text r.name)
  text : ∃ text, d.text = .ok text
  effect : ∃ primitive, Registry.standard.find? d.key = some primitive ∧
    ∃ effect, primitive (.ofState s d.params) = .ok effect

theorem Opcode.nodup_operands (op : Opcode) : (op.operands.map (·.1)).Nodup := by
  cases op <;> decide

namespace Decoded

/-- Operands that were read are found under their names. -/
theorem find_readOperands {operands : List (String × OperandKind)}
    (distinct : (operands.map (·.1)).Nodup) (m : Memory) (address : Int)
    {operand : String × OperandKind} (listed : operand ∈ operands) :
    ∃ cell, (readOperands m address operands).find operand.1
      = .ok (operandValue operand.2 cell) := by
  induction operands generalizing address with
  | nil => cases listed
  | cons first rest ih =>
    obtain ⟨fresh, distinct⟩ := List.nodup_cons.1 distinct
    rcases List.mem_cons.1 listed with rfl | later
    · exact ⟨m.read address, by simp [readOperands, Params.find]⟩
    · obtain ⟨cell, found⟩ := ih distinct (address + 1) later
      have other : operand.1 ≠ first.1 := by
        intro same
        exact fresh (List.mem_map.2 ⟨operand, later, same⟩)
      refine ⟨cell, ?_⟩
      rw [← found]
      simp [readOperands, Params.find, List.lookup_cons, beq_false_of_ne other]

/-- **A valid record of a state is complete.** -/
theorem complete_ofState {s : State} (valid : (ofState s).valid = true) :
    (ofState s).Complete s := by
  rw [valid_ofState, Option.isSome_iff_exists] at valid
  obtain ⟨op, known⟩ := valid
  have found : s.instruction? = some _ := Option.map_eq_some_iff.2 ⟨op, known, rfl⟩
  have record := State.ofState_of_instruction? found
  refine ⟨⟨op, ?_, ?_⟩, ?_, ?_⟩
  · rw [instruction?_ofState, known]
  · intro operand listed
    have params : (ofState s).params = readOperands s.memory (s.pc + 1) op.operands := by
      simp [ofState, known]
    obtain ⟨cell, read⟩ := find_readOperands op.nodup_operands s.memory (s.pc + 1) listed
    refine ⟨_, by rw [params, read], ?_⟩
    rintro register
    exact ⟨.ofCode cell, by rw [register, operandValue]⟩
  · rw [record]
    exact ⟨_, Instruction.text_record _ _⟩
  · rw [record]
    exact ⟨_, Registry.find?_standard _, _, Instruction.primitive_view _ s⟩

end Decoded

/-! ## Abnormal conditions -/

/-- What is abnormal about a state: its program counter has left the memory, the
cell there is no opcode, or a division by zero comes next. -/
def State.abnormal? (s : State) : Option HaltReason :=
  match s.fetch with
  | .stopped => none
  | .outside => some (.outOfRange s.pc)
  | .unknown cell => some (.unknownInstruction cell)
  | .instruction i => i.haltReason? s.registers

/-- An abnormal state halts. -/
theorem State.halts_of_abnormal {s : State} {reason : HaltReason}
    (abnormal : s.abnormal? = some reason) : s.next.running = false := by
  unfold abnormal? at abnormal
  unfold next
  cases found : s.fetch with
  | stopped => simp [found] at abnormal
  | outside => rfl
  | unknown cell => rfl
  | instruction i =>
    obtain ⟨runs, -⟩ := fetch_eq_iff.1 found
    rw [found] at abnormal
    cases i with
    | divide dest src =>
      have zero : s.registers.get src = 0 := by
        by_cases zero : s.registers.get src = 0
        · exact zero
        · simp [Instruction.haltReason?, zero] at abnormal
      exact (Machine.running_execute_divide runs dest src).trans (by simp [zero])
    | _ => simp [Instruction.haltReason?] at abnormal

namespace Machine

/-- The entry of a step names what was abnormal, if anything was. -/
theorem error_report? (m : Machine) : m.report?.bind (·.error) = m.state.abnormal? := by
  unfold report? State.abnormal?
  cases m.state.fetch <;> rfl

/-- A step keeps the reason of an earlier halt unless it has a new one. -/
theorem haltReason_proceed (m : Machine) :
    m.proceed.haltReason = m.state.abnormal?.or m.haltReason := by
  unfold proceed State.abnormal?
  cases m.state.fetch with
  | instruction i =>
    obtain ⟨_, _, same⟩ := m.executed_eq i
    exact congrArg haltReason same
  | _ => rfl

end Machine

/-! ## Snapshots -/

/-- Both snapshots of an entry were taken. -/
def Entry.Complete (e : Entry) : Prop := e.before.isSome = true ∧ e.after.isSome = true

theorem Recent.mem_of_mem_push {α : Type} {r : Recent α} {item other : α}
    (present : other ∈ (r.push item).toList) : other ∈ r.toList ∨ other = item := by
  rw [toList_push] at present
  have appended := List.mem_of_mem_drop present
  rw [List.mem_append, List.mem_singleton] at appended
  exact appended

namespace Machine

/-- While the machine is recording, the entry of a step is complete. -/
theorem complete_report? {m : Machine} (on : m.recording = true) {e : Entry}
    (given : m.report? = some e) : e.Complete := by
  have complete : ∀ text decoded error, (m.entryOf text decoded error).Complete := by
    intro text decoded error
    simp [Entry.Complete, entryOf, snapshot?, on]
  unfold report? at given
  cases found : m.state.fetch <;> rw [found] at given <;> cases given
  all_goals exact complete _ _ _

/-- Only while the machine is recording does a step add an entry, its own. -/
theorem mem_entries_stepped {m : Machine} {e : Entry} (present : e ∈ m.stepped.entries) :
    e ∈ m.entries ∨ m.recording = true ∧ m.report? = some e := by
  unfold stepped at present
  split at present
  · left
    simpa [entries] using present
  · cases given : m.report? with
    | none =>
      left
      simpa [given, record, entries] using present
    | some entry =>
      by_cases on : m.recording = true
      · have pushed : e ∈ (m.trace.push entry).toList := by
          simpa [given, record, entries, on] using present
        rcases Recent.mem_of_mem_push pushed with old | rfl
        · exact .inl old
        · exact .inr ⟨on, rfl⟩
      · left
        simpa [given, record, entries, on] using present

/-- **What holds of the entry of every step that is recorded, holds of every entry in the trace.** -/
theorem entries_induction {motive : Entry → Prop} {m : Machine}
    (step : ∀ {m : Machine} {e : Entry}, m.recording = true → m.report? = some e → motive e)
    (start : ∀ e ∈ m.entries, motive e) (history : List Operation) :
    ∀ e ∈ (m.after history).entries, motive e := by
  refine after_induction (motive := fun m => ∀ e ∈ m.entries, motive e) ?load ?stepped ?record
    start history
  case load =>
    intro m program _ e present
    rw [entries_load] at present
    cases present
  case stepped =>
    intro m holds e present
    rcases mem_entries_stepped present with old | ⟨on, given⟩
    · exact holds e old
    · exact step on given
  case record => exact fun m on holds => holds

/-- **Every entry in the trace stays complete**, also when recording is switched. -/
theorem complete_entries_after {m : Machine} (complete : ∀ e ∈ m.entries, e.Complete)
    (history : List Operation) : ∀ e ∈ (m.after history).entries, e.Complete :=
  entries_induction (fun on given => complete_report? on given) complete history

end Machine

/-! ## Texts -/

namespace Numeral

/-- A number that can number entries can be written. -/
theorem writeDecimal_of_lt {value : Int} (small : value.natAbs < Memory.countable) :
    writeDecimal value = .ok (toString value) := by
  have short : value.natAbs.repr.length ≤ 19 := by
    refine (Nat.length_repr_le_iff (by decide)).2 ?_
    simp only [Memory.countable] at small
    omega
  have within : (toString value.natAbs).length ≤ digitLimit := Nat.le_trans short (by decide)
  rw [writeDecimal, if_pos within]

end Numeral

theorem Entry.Complete.snapshots {e : Entry} (complete : e.Complete) :
    ∃ before after, e.snapshots = .ok (before, after) := by
  obtain ⟨before, first⟩ := Option.isSome_iff_exists.1 complete.1
  obtain ⟨after, second⟩ := Option.isSome_iff_exists.1 complete.2
  exact ⟨before, after, by simp [Entry.snapshots, first, second]⟩

/-- Complete entries can be described. -/
theorem Report.entries_of_complete {trace : List Entry} (complete : ∀ e ∈ trace, e.Complete) :
    ∃ text, entries trace = .ok text := by
  induction trace with
  | nil => exact ⟨_, rfl⟩
  | cons e rest ih =>
    obtain ⟨here, later⟩ := List.forall_mem_cons.1 complete
    obtain ⟨before, after, snapshots⟩ := here.snapshots
    obtain ⟨others, described⟩ := ih later
    simp only [entries, entry, snapshots, described, ok_bind, pure_eq_ok]
    exact ⟨_, rfl⟩

theorem Panels.traceLines_of_complete {trace : List Entry}
    (complete : ∀ e ∈ trace, e.Complete) : ∃ lines, traceLines trace = .ok lines := by
  induction trace with
  | nil => exact ⟨_, rfl⟩
  | cons e rest ih =>
    obtain ⟨here, later⟩ := List.forall_mem_cons.1 complete
    obtain ⟨before, after, snapshots⟩ := here.snapshots
    obtain ⟨others, shown⟩ := ih later
    simp only [traceLines, entryLines, snapshots, shown, ok_bind, pure_eq_ok]
    exact ⟨_, rfl⟩

theorem Panels.mem_of_mem_before {α : Type} {position : Int} {items : List α} {item : α}
    (present : item ∈ before position items) : item ∈ items := by
  unfold before at present
  split at present <;> exact List.mem_of_mem_take present

/-- **A trace of complete entries can be shown**, if the number of those left out can
be written. -/
theorem Panels.traceText_of_complete {trace : List Entry} (complete : ∀ e ∈ trace, e.Complete)
    {limit : Int} (short : (trace.length - limit).natAbs < Memory.countable) :
    ∃ text, traceText trace limit = .ok text := by
  have shownComplete : ∀ e ∈ before limit trace, e.Complete :=
    fun e present => complete e (mem_of_mem_before present)
  obtain ⟨lines, shown⟩ := traceLines_of_complete shownComplete
  have written := Numeral.writeDecimal_of_lt short
  unfold traceText
  simp only [shown, written, ok_bind, pure_eq_ok]
  split
  · exact ⟨_, rfl⟩
  · exact ⟨_, rfl⟩

/-- The counter of a state within the bounds can be written. -/
theorem State.Bounded.written_counter {s : State} {size : Nat} (bounded : s.Bounded size)
    (room : size < Memory.capacity) : Loose.written (.int s.pc) = .ok (toString s.pc) := by
  obtain ⟨lower, upper⟩ := bounded.counter
  simp only [Word.least, Word.greatest] at lower upper
  have small : s.pc.natAbs < Memory.countable := by
    simp only [Memory.capacity, Memory.bytesPerCell, Memory.countable] at room ⊢
    omega
  exact Loose.State.written_int (by rw [Numeral.writeDecimal_of_lt small]; rfl)

/-! ## Machines -/

namespace Machine

/-- Nothing that is asked of the machine fails, and what is abnormal about it shows
as a halt. The summary is given by a total function and needs no field. -/
structure Succeeds (m : Machine) : Prop where
  step : ∃ report?, m.step.result = .ok report?
  run : ∀ limit, (m.run limit).fault = none
  describe : ∃ text, Loose.Machine.describe { machine := m } = .ok text
  /-- The same with any other number of cells that can itself be written. -/
  describeFirst : ∀ cells, (Numeral.writeDecimal cells).isOk = true →
    ∃ text, Loose.Machine.describe { machine := m } (.int cells) = .ok text
  describeTrace : ∃ text, Loose.Machine.describeTrace { machine := m } = .ok text
  traceText : ∃ text, Panels.traceText m.entries = .ok text
  decoded : (Decoded.ofState m.state).valid = true →
    (Decoded.ofState m.state).Complete m.state
  entries : ∀ e ∈ m.entries, e.Complete
  abnormal : ∀ reason, m.state.abnormal? = some reason →
    m.step.machine.state.running = false ∧ m.step.machine.haltReason = some reason ∧
      ∃ e, m.step.result = .ok (some e) ∧ e.error = some reason

theorem Reliable.abnormal {m : Machine} (reliable : m.Reliable) {reason : HaltReason}
    (abnormal : m.state.abnormal? = some reason) :
    m.step.machine.state.running = false ∧ m.step.machine.haltReason = some reason ∧
      ∃ e, m.step.result = .ok (some e) ∧ e.error = some reason := by
  have given : m.report?.bind (·.error) = some reason := by rw [error_report?, abnormal]
  obtain ⟨e, stepped, error⟩ := Option.bind_eq_some_iff.1 given
  refine ⟨?_, ?_, e, by rw [reliable.result_step, stepped], error⟩
  · rw [machine_step, state_stepped]
    exact State.halts_of_abnormal abnormal
  · rw [machine_step, haltReason_stepped, haltReason_proceed, abnormal]
    rfl

theorem describe_of_written {m : Machine}
    (counter : Loose.written (.int m.state.pc) = .ok (toString m.state.pc)) {cells : Int}
    (short : (Numeral.writeDecimal cells).isOk = true) :
    ∃ text, Loose.Machine.describe { machine := m } (.int cells) = .ok text := by
  have pc : Loose.Machine.pc { machine := m } = .int m.state.pc := rfl
  have announced := Loose.State.written_int short
  simp only [Loose.Machine.describe, pc, counter, announced, ok_bind, Value.compareInt,
    Value.times, Value.integer?, Loose.mapError_ok, pure_eq_ok]
  split <;> exact ⟨_, rfl⟩

/-- The trace can be described if its entries are complete and the counter can be
written. -/
theorem describeTrace_of_written {m : Machine}
    (counter : Loose.written (.int m.state.pc) = .ok (toString m.state.pc))
    (complete : ∀ e ∈ m.entries, e.Complete) :
    ∃ text, Loose.Machine.describeTrace { machine := m } = .ok text := by
  have pc : Loose.Machine.pc { machine := m } = .int m.state.pc := rfl
  have running : ∃ text, Loose.written (Loose.Machine.running { machine := m }) = .ok text :=
    ⟨_, rfl⟩
  obtain ⟨text, running⟩ := running
  obtain ⟨entries, described⟩ := Report.entries_of_complete complete
  simp only [Loose.Machine.describeTrace, pc, counter, running, describeTraceWith, described,
    ok_bind, pure_eq_ok, Loose.mapError_ok]
  exact ⟨_, rfl⟩

/-- **Nothing fails after a history** of a machine that was built with a sink that
does not fail, however recording was switched. -/
theorem succeeds_after {size limit : Int} {maxCycles : Option Int} {sink : Option Sink}
    {recording : Bool} {m : Machine}
    (built : create size maxCycles sink recording limit = .ok m) (reliable : m.Reliable)
    (history : List Operation) : (m.after history).Succeeds := by
  obtain ⟨cells, entries, -, room, -, countable, rfl⟩ := exists_powerOn_of_create built
  let start := powerOn cells maxCycles sink recording entries
  have initial : start.state.Bounded cells := State.bounded_initial cells
  obtain ⟨bounded, sameLimit⟩ := state_bounded_after initial rfl history
  have stays := reliable.after history
  have nothing : ∀ e ∈ start.entries, e.Complete := by
    have blank : start.entries = [] := by
      simp [start, Machine.entries, powerOn, Recent.toList, Recent.lastOf]
    intro e present
    rw [blank] at present
    cases present
  have complete := complete_entries_after nothing history
  have counter := bounded.written_counter room
  refine
    { step := ⟨_, stays.result_step⟩
      run := stays.fault_run
      describe := describe_of_written counter rfl
      describeFirst := fun number short => describe_of_written counter short
      describeTrace := describeTrace_of_written counter complete
      traceText := Panels.traceText_of_complete complete ?few
      decoded := Decoded.complete_ofState
      entries := complete
      abnormal := fun reason abnormal => stays.abnormal abnormal }
  case few =>
    have length : (start.after history).entries.length ≤ entries := by
      rw [Machine.entries, Recent.length_toList]
      exact Nat.le_trans (Recent.length_le_limit _) (Nat.le_of_eq sameLimit)
    simp only [Memory.countable, Panels.defaultTraceEntries] at countable ⊢
    omega

/-- Recording is off for the first step of a program that divides by zero. -/
theorem succeeds_after_division_by_zero :
    create 4 none (some .reliable) true 2 = .ok (powerOn 4 none (some .reliable) true 2) ∧
    ((powerOn 4 none (some .reliable) true 2).after
      [.load (.list [.int 11, .int 4, .int 6, .int 0]), .record false, .step, .record true,
        .run none]).Succeeds :=
  have built : create 4 none (some .reliable) true 2
      = .ok (powerOn 4 none (some .reliable) true 2) := rfl
  ⟨built, succeeds_after built
    (fun sink present call => by obtain rfl := Option.some.inj present; rfl) _⟩

end Machine

end RegisterMachine
