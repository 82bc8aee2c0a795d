import RegisterMachine.Machine.Basic

/-!
# Steps

A step of a running machine ends in one of three ways. The program counter may
have left the memory, or the cell there may be no opcode; then the machine
halts with a reason. Otherwise the instruction is executed through the standard
registry, and the machine attends to what concerns its observers: a division by
zero gives a halt reason, a printed value goes to the output and the sink.

A failing sink ends the step after the state has changed and before the trace
has an entry. Every other step of a running machine yields an entry. A machine
that is not running does not step.

As in every record, the cells are words, and the texts of a step are short enough
to be written.
-/

set_option autoImplicit false

namespace RegisterMachine

/-- Where a step began, as the trace tells it. -/
structure Origin where
  cycle : Nat
  address : Int
  before : Option Snapshot
  deriving DecidableEq, Repr

/-- The outcome of a step: the machine afterwards, the entry or the fault, and
the events in order. -/
structure Stepped where
  machine : Machine
  result : Except Fault (Option Entry)
  events : List Event

namespace Machine

/-- Where a step of the machine begins. -/
def origin (m : Machine) : Origin where
  cycle := m.state.cycles
  address := m.state.pc
  before := m.snapshot?

/-- Ends a step: makes the entry, and keeps it in the trace when the machine is
recording. -/
def finish (m : Machine) (origin : Origin) (text : String) (decoded : Option Decoded)
    (error : Option HaltReason) (events : List Event) : Stepped :=
  let entry : Entry :=
    { cycle := origin.cycle
      address := origin.address
      instruction := text
      decoded
      before := origin.before
      after := m.snapshot?
      error }
  { machine := if m.recording then { m with trace := m.trace.push entry } else m
    result := .ok (some entry)
    events }

/-- Halts without executing anything. -/
def stop (m : Machine) (text : String) (decoded : Option Decoded) (reason : HaltReason) :
    Stepped :=
  let origin := m.origin
  let halted := { m with state := { m.state with running := false }, haltReason := some reason }
  halted.finish origin text decoded (some reason) [.stopped (.int origin.address) reason.message]

/-- Appends a printed value to the output and hands it to the sink. -/
def emit (m : Machine) (e : Emission) : Machine :=
  { m with output := m.output.push e, sink := m.sink.map (·.receive e) }

/-- Whether the sink failed on the last value. -/
def sinkFailed (m : Machine) : Bool := m.sink.any Sink.failed

/-- The printed value of a print instruction. -/
def emission (s : State) (params : Params) : Except ExecutionError Emission := do
  let src ← (params.find "src").mapError .parameter
  let name ← src.name.mapError .misuse
  return { register := name, value := s.register name }

/-- Ends the step of an executed instruction. -/
def attend (m : Machine) (origin : Origin) (d : Decoded) (text : String)
    (events : List Event) : Stepped :=
  match d.instruction? with
  | some .div =>
    if m.state.running then m.finish origin text (some d) none events
    else
      let halted := { m with haltReason := some .divisionByZero }
      halted.finish origin text (some d) (some .divisionByZero)
        (events ++ [.dividedByZero origin.address])
  | some .print =>
    match emission m.state d.params with
    | .error cause => { machine := m, result := .error (.execution cause), events }
    | .ok e =>
      let emitted := m.emit e
      if emitted.sinkFailed then { machine := emitted, result := .error (.sink e), events }
      else emitted.finish origin text (some d) none events
  | some .halt =>
    let cycles := m.state.cycles
    m.finish origin text (some d) none (events ++ [.halted origin.address cycles])
  | _ => m.finish origin text (some d) none events

/-- Executes a decoded instruction. -/
def perform (m : Machine) (d : Decoded) (text : String) : Stepped :=
  let origin := m.origin
  match Registry.standard.effect m.state d with
  | .error cause =>
    { machine := m
      result := .error (.execution cause)
      events := [.executing origin.address text] }
  | .ok effect =>
    let x := effect.settle m.state d
    let executed := { m with state := x.state }
    executed.attend origin d text
      (.executing origin.address text :: (x.skipped.map Event.storeSkipped).toList)

/-- The text of an instruction at a program counter outside the memory. -/
def outOfRangeText : String := "<PC OUT OF RANGE>"

/-- One step. -/
def step (m : Machine) : Stepped :=
  if m.state.running then
    if m.state.memory.InRange m.state.pc then
      let d := Decoded.ofState m.state
      match d.text with
      | .error cause =>
        { machine := m, result := .error (.execution (.parameter cause)), events := [] }
      | .ok text =>
        if d.valid then m.perform d text
        else m.stop text (some d) (.unknownInstruction d.opcode)
    else
      let pc := m.state.pc
      m.stop outOfRangeText none (.outOfRange pc)
  else { machine := m, result := .ok none, events := [] }

/-! ## Progress -/

/-- Finishing a step leaves the state alone. -/
@[simp] theorem state_finish (m : Machine) (origin : Origin) (text : String)
    (decoded : Option Decoded) (error : Option HaltReason) (events : List Event) :
    (m.finish origin text decoded error events).machine.state = m.state := by
  unfold finish
  split <;> rfl

/-- Attending to the observers leaves the state alone. -/
@[simp] theorem state_attend (m : Machine) (origin : Origin) (d : Decoded) (text : String)
    (events : List Event) : (m.attend origin d text events).machine.state = m.state := by
  unfold attend
  split
  · split <;> simp
  · split
    · rfl
    · dsimp only
      split <;> simp [emit]
  · simp
  · simp

/-- A successful step of a running machine halts it or counts one cycle. -/
theorem halts_or_counts {m : Machine} {entry : Option Entry} (runs : m.state.running)
    (done : m.step.result = .ok entry) :
    m.step.machine.state.running = false ∨
      m.step.machine.state.cycles = m.state.cycles + 1 := by
  by_cases inside : m.state.memory.InRange m.state.pc
  · cases written : (Decoded.ofState m.state).text with
    | error cause => simp [step, runs, inside, written] at done
    | ok text =>
      by_cases valid : (Decoded.ofState m.state).valid
      · right
        cases effect : Registry.standard.effect m.state (Decoded.ofState m.state) with
        | error cause => simp [step, runs, inside, written, valid, perform, effect] at done
        | ok e =>
          simp only [step, runs, inside, written, valid, perform, effect, if_true, state_attend,
            Effect.cycles_settle]
      · left
        simp [step, runs, inside, written, valid, stop]
  · left
    simp [step, runs, inside, stop]

end Machine

end RegisterMachine
