import RegisterMachine.Proofs.Instruction

/-!
# What a step does

A step first looks at the program counter, and finds one of four things
(`State.fetch`). From then on the state after the step is fixed: `State.next`
follows `fetch` and knows neither records nor a registry. The machine around the
state appends a printed value to the output and hands it to the sink, notes the
reason of a halt, and records an entry unless the sink failed
(`step_eq`).

* A step takes the state to the next one, whatever the sink does (`state_stepped`).
* A step fails only when the sink does (`result_step`, `Reliable.result_step`).

Later modules cite these statements and `State.fetch`; none of them unfolds a
step.
-/

set_option autoImplicit false

namespace RegisterMachine

/-- What a step finds. -/
inductive Fetched where
  /-- The machine is not running. -/
  | stopped
  /-- The program counter lies outside the memory. -/
  | outside
  /-- The cell at the program counter is no opcode. -/
  | unknown (cell : Int)
  | instruction (i : Instruction)
  deriving DecidableEq, Repr

namespace State

/-- What a step from the state finds. -/
def fetch (s : State) : Fetched :=
  if s.running then
    if s.memory.InRange s.pc then
      match s.instruction? with
      | some i => .instruction i
      | none => .unknown (s.memory.read s.pc)
    else .outside
  else .stopped

/-- The state after a step. -/
def next (s : State) : State :=
  match s.fetch with
  | .stopped => s
  | .outside | .unknown _ => { s with running := false }
  | .instruction i => s.execute i

end State

/-! ## Finding -/

/-- What a step found holds of a state. -/
def Fetched.Describes (s : State) : Fetched → Prop
  | stopped => s.running = false
  | outside => s.running = true ∧ ¬ s.memory.InRange s.pc
  | unknown cell =>
    s.running = true ∧ s.memory.InRange s.pc ∧ s.instruction? = none ∧
      s.memory.read s.pc = cell
  | instruction i => s.running = true ∧ s.memory.InRange s.pc ∧ s.instruction? = some i

namespace State

/-- **A step finds what holds of the state**, and nothing else. -/
theorem fetch_eq_iff {s : State} {found : Fetched} : s.fetch = found ↔ found.Describes s := by
  unfold fetch
  split
  · rename_i runs
    split
    · rename_i inside
      split <;> cases found <;> simp_all [Fetched.Describes]
    · cases found <;> simp_all [Fetched.Describes]
  · cases found <;> simp_all [Fetched.Describes]

theorem fetch_ne_stopped {s : State} (runs : s.running = true) : s.fetch ≠ .stopped := by
  intro found
  have halted : s.running = false := fetch_eq_iff.1 found
  rw [runs] at halted
  cases halted

theorem next_of_instruction {s : State} {i : Instruction} (found : s.fetch = .instruction i) :
    s.next = s.execute i := by
  rw [next, found]

end State

/-! ## What an instruction tells the observers -/

namespace Instruction

/-- The value that an instruction prints. -/
def emission? (i : Instruction) (file : Registers) : Option Emission :=
  match i with
  | print src => some { register := src.name, value := file.get src }
  | _ => none

/-- Why an instruction halts the machine, unless it is there to do so. -/
def haltReason? (i : Instruction) (file : Registers) : Option HaltReason :=
  match i with
  | divide _ src => if file.get src = 0 then some .divisionByZero else none
  | _ => none

end Instruction

namespace Machine

/-- The machine after an instruction, before the step is recorded. -/
def executed (m : Machine) (i : Instruction) : Machine :=
  let attended := { m with
    state := m.state.execute i
    haltReason := (i.haltReason? m.state.registers).or m.haltReason }
  match i.emission? m.state.registers with
  | some e => attended.emit e
  | none => attended

/-- The value that the sink refuses when an instruction prints it. -/
def refused? (m : Machine) (i : Instruction) : Option Emission :=
  (i.emission? m.state.registers).filter fun e => (m.emit e).sinkFailed

/-- The machine halted without executing anything. -/
def halted (m : Machine) (reason : HaltReason) : Machine :=
  { m with state := { m.state with running := false }, haltReason := some reason }

/-- The machine after a step, before the step is recorded. -/
def proceed (m : Machine) : Machine :=
  match m.state.fetch with
  | .stopped => m
  | .outside => m.halted (.outOfRange m.state.pc)
  | .unknown cell => m.halted (.unknownInstruction cell)
  | .instruction i => m.executed i

/-- How the step of a machine fails, if it does. -/
def fault? (m : Machine) : Option Fault :=
  match m.state.fetch with
  | .instruction i => (m.refused? i).map .sink
  | _ => none

/-- The record of a cell that is no opcode. -/
def unknownRecord (cell pc : Int) : Decoded where
  key := Opcode.invalidKey
  params := [("raw", .int cell)]
  valid := false
  error := some (Decoded.unknownMessage cell)
  opcode := cell
  address := pc

/-- The entry about the step of a machine. -/
def entryOf (m : Machine) (text : String) (decoded : Option Decoded)
    (error : Option HaltReason) : Entry where
  cycle := m.state.cycles
  address := m.state.pc
  instruction := text
  decoded := decoded
  before := m.snapshot?
  after := m.proceed.snapshot?
  error := error

/-- The entry that a step gives, if the machine is running. -/
def report? (m : Machine) : Option Entry :=
  match m.state.fetch with
  | .stopped => none
  | .outside => some (m.entryOf outOfRangeText none (some (.outOfRange m.state.pc)))
  | .unknown cell =>
    some (m.entryOf (Decoded.unknownText (toString cell)) (some (unknownRecord cell m.state.pc))
      (some (.unknownInstruction cell)))
  | .instruction i =>
    some (m.entryOf i.text (some (i.record m.state.pc)) (i.haltReason? m.state.registers))

/-- The machine with an entry in its trace, if there is one and the machine is
recording. -/
def record (m : Machine) (report? : Option Entry) : Machine :=
  match report? with
  | some entry => if m.recording then { m with trace := m.trace.push entry } else m
  | none => m

/-! ## Steps -/

theorem finish_eq_record {m start : Machine} (after : m.snapshot? = start.proceed.snapshot?)
    (text : String) (decoded : Option Decoded) (error : Option HaltReason)
    (events : List Event) :
    m.finish start.origin text decoded error events =
      { machine := m.record (some (start.entryOf text decoded error))
        result := .ok (some (start.entryOf text decoded error))
        events } := by
  simp only [finish, record, entryOf, origin, after]

theorem emission_print (s : State) (src : Register) :
    emission s (Instruction.print src).params
      = .ok { register := src.name, value := s.registers.get src } := by
  have found : (Instruction.print src).params.find "src" = .ok (.text src.name) := rfl
  simp [emission, found, Value.name, State.register, Registers.named, Loose.mapError_ok]

theorem running_execute_divide {s : State} (runs : s.running = true) (dest src : Register) :
    (s.execute (.divide dest src)).running = decide (s.registers.get src ≠ 0) := by
  by_cases zero : s.registers.get src = 0 <;>
    simp [State.execute, Effect.apply, Instruction.effect, runs, zero]

/-- After an instruction the machine attends to what the instruction tells. -/
theorem attend_execute {m : Machine} (runs : m.state.running = true) (i : Instruction)
    (text : String) (events : List Event) :
    ∃ told, { m with state := m.state.execute i }.attend m.origin (i.record m.state.pc) text
        events =
      match m.refused? i with
      | some e => { machine := m.executed i, result := .error (.sink e), events := told }
      | none =>
        (m.executed i).finish m.origin text (some (i.record m.state.pc))
          (i.haltReason? m.state.registers) told := by
  unfold attend
  rw [Instruction.instruction?_record]
  cases i with
  | print src =>
    let e : Emission := { register := src.name, value := m.state.registers.get src }
    have printed : emission (m.state.execute (.print src)) (Instruction.print src).params = .ok e :=
      emission_print _ src
    have emitted : { m with state := m.state.execute (.print src) }.emit e
        = m.executed (.print src) := rfl
    have refused : m.refused? (.print src)
        = if (m.executed (.print src)).sinkFailed then some e else none := rfl
    simp only [Instruction.opcode, Instruction.params_record, printed, emitted, refused]
    refine ⟨events, ?_⟩
    by_cases failed : (m.executed (.print src)).sinkFailed = true
    · simp only [failed, if_true]
    · simp only [failed]
      rfl
  | divide dest src =>
    have running := running_execute_divide runs dest src
    by_cases zero : m.state.registers.get src = 0
    · have reason : (Instruction.divide dest src).haltReason? m.state.registers
          = some .divisionByZero := by simp [Instruction.haltReason?, zero]
      refine ⟨events ++ [.dividedByZero m.state.pc], ?_⟩
      simp [Instruction.opcode, running, zero, refused?, executed, Instruction.emission?, reason]
      rfl
    · have reason : (Instruction.divide dest src).haltReason? m.state.registers = none := by
        simp [Instruction.haltReason?, zero]
      refine ⟨events, ?_⟩
      simp [Instruction.opcode, running, zero, refused?, executed, Instruction.emission?, reason]
  | halt => exact ⟨_, rfl⟩
  | combine how dest src => cases how <;> exact ⟨_, rfl⟩
  | branch ifEqual left right address => cases ifEqual <;> exact ⟨_, rfl⟩
  | load dest value => exact ⟨_, rfl⟩
  | _ => exact ⟨_, rfl⟩

/-- What a step gives. -/
def outcome (m : Machine) : Except Fault (Option Entry) :=
  match m.fault? with
  | some fault => .error fault
  | none => .ok m.report?

/-- The machine that a step leaves. -/
def stepped (m : Machine) : Machine :=
  if m.fault?.isSome then m.proceed else m.proceed.record m.report?

theorem step_of_stopped {m : Machine} (found : m.state.fetch = .stopped) :
    m.step = { machine := m.stepped, result := m.outcome, events := [] } := by
  have halted : m.state.running = false := State.fetch_eq_iff.1 found
  simp [step, halted, stepped, outcome, fault?, proceed, report?, record, found]

/-- Halting without executing anything records its entry. -/
theorem stop_eq_record {m : Machine} {reason : HaltReason} (halts : m.proceed = m.halted reason)
    (text : String) (decoded : Option Decoded) :
    ∃ events, m.stop text decoded reason =
      { machine := m.proceed.record (some (m.entryOf text decoded (some reason)))
        result := .ok (some (m.entryOf text decoded (some reason)))
        events } := by
  rw [halts]
  exact ⟨_, finish_eq_record (congrArg snapshot? halts.symm) text decoded (some reason) _⟩

theorem step_of_outside {m : Machine} (found : m.state.fetch = .outside) :
    ∃ events, m.step = { machine := m.stepped, result := m.outcome, events } := by
  obtain ⟨runs, outside⟩ := State.fetch_eq_iff.1 found
  have halts : m.proceed = m.halted (.outOfRange m.state.pc) := by simp only [proceed, found]
  obtain ⟨events, stops⟩ := stop_eq_record halts outOfRangeText none
  refine ⟨events, ?_⟩
  simp only [step, runs, outside, if_true, if_false, stops]
  simp [stepped, outcome, fault?, report?, found]

/-- Decoding a cell that is no opcode gives the record of such a cell. -/
theorem ofState_of_unknown {s : State} (unknown : s.instruction? = none) :
    Decoded.ofState s = unknownRecord (s.memory.read s.pc) s.pc := by
  simp [Decoded.ofState, Option.map_eq_none_iff.1 unknown, unknownRecord]

theorem step_of_unknown {m : Machine} {cell : Int} (found : m.state.fetch = .unknown cell) :
    ∃ events, m.step = { machine := m.stepped, result := m.outcome, events } := by
  obtain ⟨runs, inside, unknown, rfl⟩ := State.fetch_eq_iff.1 found
  have halts : m.proceed = m.halted (.unknownInstruction (m.state.memory.read m.state.pc)) := by
    simp only [proceed, found]
  have decoded := ofState_of_unknown unknown
  have text : (unknownRecord (m.state.memory.read m.state.pc) m.state.pc).text
      = .ok (Decoded.unknownText (toString (m.state.memory.read m.state.pc))) := rfl
  obtain ⟨events, stops⟩ := stop_eq_record halts
    (Decoded.unknownText (toString (m.state.memory.read m.state.pc)))
    (some (unknownRecord (m.state.memory.read m.state.pc) m.state.pc))
  refine ⟨events, ?_⟩
  simp only [step, runs, inside, if_true, decoded, text]
  simp only [unknownRecord, Bool.false_eq_true, if_false] at stops ⊢
  rw [stops]
  simp [stepped, outcome, fault?, report?, found, unknownRecord]

/-- A machine executes the instruction that it finds. -/
theorem step_of_instruction {m : Machine} {i : Instruction}
    (found : m.state.fetch = .instruction i) :
    ∃ events, m.step = { machine := m.stepped, result := m.outcome, events } := by
  obtain ⟨runs, inside, known⟩ := State.fetch_eq_iff.1 found
  have proceeds : m.proceed = m.executed i := by simp only [proceed, found]
  let skipped := (i.effect m.state.registers m.state.memory.size).skipped.map Event.storeSkipped
  let before : List Event := .executing m.state.pc i.text :: skipped.toList
  have performed : m.step = { m with state := m.state.execute i }.attend m.origin
      (i.record m.state.pc) i.text before := by
    simp only [step, runs, inside, if_true, State.ofState_of_instruction? known,
      Instruction.text_record, Instruction.valid_record, perform, Instruction.effect_record,
      Instruction.settle_record]
    rfl
  obtain ⟨events, attended⟩ := attend_execute runs i i.text before
  refine ⟨events, ?_⟩
  rw [performed, attended]
  cases refused : m.refused? i with
  | some e => simp [stepped, outcome, fault?, found, refused, proceeds]
  | none =>
    simp only [finish_eq_record (congrArg snapshot? proceeds.symm)]
    simp [stepped, outcome, fault?, report?, found, refused, proceeds]

/-- **What a step does.** It proceeds as the state says; then it fails with the sink
or records its entry. -/
theorem step_eq (m : Machine) :
    ∃ events, m.step = { machine := m.stepped, result := m.outcome, events } := by
  cases found : m.state.fetch with
  | stopped => exact ⟨[], step_of_stopped found⟩
  | outside => exact step_of_outside found
  | unknown cell => exact step_of_unknown found
  | instruction i => exact step_of_instruction found

theorem machine_step (m : Machine) : m.step.machine = m.stepped := by
  obtain ⟨events, same⟩ := m.step_eq
  rw [same]

theorem result_step (m : Machine) : m.step.result = m.outcome := by
  obtain ⟨events, same⟩ := m.step_eq
  rw [same]

/-! ## What a step leaves alone -/

section Fields

variable (m : Machine)

theorem executed_eq (i : Instruction) : ∃ output sink, m.executed i =
    { m with
      state := m.state.execute i
      haltReason := (i.haltReason? m.state.registers).or m.haltReason
      output
      sink } := by
  unfold executed
  split <;> exact ⟨_, _, rfl⟩

theorem proceed_eq : ∃ haltReason output sink, m.proceed =
    { m with state := m.state.next, haltReason, output, sink } := by
  unfold proceed State.next
  cases m.state.fetch with
  | stopped => exact ⟨_, _, _, rfl⟩
  | outside => exact ⟨_, _, _, rfl⟩
  | unknown cell => exact ⟨_, _, _, rfl⟩
  | instruction i =>
    obtain ⟨output, sink, same⟩ := m.executed_eq i
    exact ⟨_, output, sink, same⟩

@[simp] theorem state_proceed : m.proceed.state = m.state.next := by
  obtain ⟨_, _, _, same⟩ := m.proceed_eq
  rw [same]

@[simp] theorem trace_proceed : m.proceed.trace = m.trace := by
  obtain ⟨_, _, _, same⟩ := m.proceed_eq
  rw [same]

@[simp] theorem recording_proceed : m.proceed.recording = m.recording := by
  obtain ⟨_, _, _, same⟩ := m.proceed_eq
  rw [same]

@[simp] theorem maxCycles_proceed : m.proceed.maxCycles = m.maxCycles := by
  obtain ⟨_, _, _, same⟩ := m.proceed_eq
  rw [same]

theorem record_eq (report? : Option Entry) :
    ∃ trace, m.record report? = { m with trace } := by
  unfold record
  split
  · split <;> exact ⟨_, rfl⟩
  · exact ⟨_, rfl⟩

theorem stepped_eq : ∃ trace, m.stepped = { m.proceed with trace } := by
  unfold stepped
  split
  · exact ⟨_, rfl⟩
  · exact m.proceed.record_eq m.report?

/-- **A step takes the state to the next one**, whatever the sink does. -/
@[simp] theorem state_stepped : m.stepped.state = m.state.next := by
  obtain ⟨_, same⟩ := m.stepped_eq
  rw [same]
  exact m.state_proceed

@[simp] theorem recording_stepped : m.stepped.recording = m.recording := by
  obtain ⟨_, same⟩ := m.stepped_eq
  rw [same]
  exact m.recording_proceed

@[simp] theorem maxCycles_stepped : m.stepped.maxCycles = m.maxCycles := by
  obtain ⟨_, same⟩ := m.stepped_eq
  rw [same]
  exact m.maxCycles_proceed

@[simp] theorem haltReason_stepped : m.stepped.haltReason = m.proceed.haltReason := by
  obtain ⟨_, same⟩ := m.stepped_eq
  rw [same]

@[simp] theorem sink_stepped : m.stepped.sink = m.proceed.sink := by
  obtain ⟨_, same⟩ := m.stepped_eq
  rw [same]

end Fields

/-! ## Reliable sinks -/

/-- The sink of the machine, if it has one, never fails. -/
def Reliable (m : Machine) : Prop := ∀ sink ∈ m.sink, ∀ call, sink.failsAt call = false

theorem reliable_of_sink_eq {m : Machine} (same : m.sink = some .reliable) : m.Reliable := by
  intro sink present call
  rw [same] at present
  obtain rfl := Option.some.inj present
  rfl

theorem Reliable.fault?_eq_none {m : Machine} (reliable : m.Reliable) : m.fault? = none := by
  unfold fault?
  cases m.state.fetch with
  | instruction i =>
    have accepts : ∀ e, (m.emit e).sinkFailed = false := by
      intro e
      cases some : m.sink with
      | none => simp [sinkFailed, emit, some]
      | some sink => simp [sinkFailed, emit, some, Sink.failed, Sink.receive, reliable sink some]
    simp [refused?, accepts]
  | _ => rfl

/-- **A step with a reliable sink succeeds**, and it records its entry. -/
theorem Reliable.result_step {m : Machine} (reliable : m.Reliable) :
    m.step.result = .ok m.report? := by
  rw [m.result_step, outcome, reliable.fault?_eq_none]

theorem Reliable.stepped {m : Machine} (reliable : m.Reliable) : m.stepped.Reliable := by
  have executed : ∀ i, (m.executed i).Reliable := by
    intro i sink member
    unfold Machine.executed at member
    cases emission : i.emission? m.state.registers with
    | none => exact reliable sink (by simpa [emission] using member)
    | some e =>
      obtain ⟨before, present, rfl⟩ : ∃ before ∈ m.sink, before.receive e = sink := by
        simpa [emission, emit] using member
      exact reliable before present
  intro sink member
  rw [sink_stepped] at member
  unfold proceed at member
  cases found : m.state.fetch with
  | instruction i => exact executed i sink (by simpa [found] using member)
  | _ => exact reliable sink (by simpa [found, halted] using member)

end Machine

end RegisterMachine
