import RegisterMachine.Loose.State
import RegisterMachine.Machine.Run

/-!
# Loose machines

A machine of which the program counter, the run switch and the cycle limit may
have been set to values of any kind. It is a machine in good order beside the
values that are out of order (`counter`, `switch`, `limit`), and works like that
machine wherever it can.

A counter out of order lasts one step at most. A truth value counts as 0 or 1,
and the step goes on from there; a fraction has left the memory or lies between
two cells; anything else cannot be looked up. A switch out of order counts as
its truth and lasts until a halt or a load. A limit out of order stands for the
least integer that reaches it.

When the events of a machine are heard, an event that cannot be written fails,
and what was to come after it does not happen.
-/

set_option autoImplicit false

namespace RegisterMachine

namespace Loose

/-- A machine with what was set by hand. -/
structure Machine where
  machine : RegisterMachine.Machine
  /-- The program counter, if it is not an integer. -/
  counter : Option Value := none
  /-- The run switch, if it is not a truth value. -/
  switch : Option Value := none
  /-- The cycle limit, if there is one and it is not an integer. -/
  limit : Option Value := none
  deriving Inhabited

/-- The outcome of something done with a machine. -/
structure Outcome (α : Type) where
  machine : Machine
  result : Except Error α
  events : List Event := []

namespace Machine

/-! ## Setting by hand -/

/-- The program counter. -/
def pc (m : Machine) : Value := m.counter.getD (.int m.machine.state.pc)

/-- The run switch. -/
def running (m : Machine) : Value := m.switch.getD (.bool m.machine.running)

/-- The cycle limit. -/
def maxCycles (m : Machine) : Value :=
  m.limit.getD ((m.machine.maxCycles.map Value.int).getD .nothing)

/-- Sets the program counter. A truth value also stands for an integer. -/
def setCounter (m : Machine) (value : Value) : Machine :=
  let place := value.integer?.getD m.machine.state.pc
  { m with
    machine := { m.machine with state := { m.machine.state with pc := place } }
    counter := match value with
      | .int _ => none
      | value => some value }

/-- Sets the run switch. A value of any kind counts as its truth. -/
def setSwitch (m : Machine) (value : Value) : Machine :=
  { m with
    machine := { m.machine with state := { m.machine.state with running := value.truth } }
    switch := match value with
      | .bool _ => none
      | value => some value }

/-- Sets the cycle limit. -/
def setLimit (m : Machine) (value : Value) : Machine :=
  match value with
  | .nothing => { m with machine := { m.machine with maxCycles := none }, limit := none }
  | .int n => { m with machine := { m.machine with maxCycles := some n }, limit := none }
  | value => { m with machine := { m.machine with maxCycles := none }, limit := some value }

/-- The number of trace entries for a trace limit of any kind. -/
def entryCount (limit : Value) : Except Error Nat :=
  match limit.integer? with
  | some n =>
    if Memory.countable ≤ n.toNat then .error (.creation .traceLimitTooGreat) else .ok n.toNat
  | none => .error (.misuse .bounded)

/-- Refuses a trace limit less than 1. -/
def checkTraceLimit (limit : Value) : Except Error Unit :=
  match limit.isLess 1, limit with
  | .error cause, _ => .error (.misuse cause)
  | .ok false, _ => .ok ()
  | .ok true, .int n => .error (.creation (.traceLimit n))
  | .ok true, limit => .error (.traceLimit limit)

/-- A machine at power-on, for sizes and limits of any kind. The trace limit is
checked first, and counted only when there is a memory. -/
def create (memorySize maxCycles : Value) (sink : Option Sink) (recording : Bool)
    (traceLimit : Value) : Except Error Machine := do
  checkTraceLimit traceLimit
  let size ← cellCount memorySize
  let entries ← entryCount traceLimit
  let machine : Machine := { machine := .powerOn size none sink recording entries }
  return machine.setLimit maxCycles

/-- A failure that leaves the machine as it is. -/
def refuse {α : Type} (m : Machine) (cause : Misuse) : Outcome α :=
  { machine := m, result := .error (.misuse cause) }

/-! ## Memory and registers -/

/-- The content of a cell; 0 outside the memory. -/
def read (m : Machine) (address : Value) : Except Misuse Int :=
  (address.cell? m.machine.memorySize).map fun cell =>
    (cell.map fun cell => m.machine.state.memory.read cell).getD 0

/-- The contents of that many cells from an address on. -/
def readFrom (m : Machine) (address count : Value) : Except Misuse (List Int) := do
  (List.range (← count.times)).mapM fun k => do m.read (← address.plus k)

/-- The machine after a cell received the word of a value, and whether there is
such a cell. -/
def write (m : Machine) (address value : Value) : Outcome Bool :=
  match address.placement? value m.machine.memorySize with
  | .error cause => m.refuse cause
  | .ok none => { machine := m, result := .ok false }
  | .ok (some (cell, word)) =>
    let state := { m.machine.state with memory := m.machine.state.memory.write cell word }
    { machine := { m with machine := { m.machine with state } }, result := .ok true }

/-- The content of a named register; 0 for an unknown name. -/
def register (m : Machine) (name : Value) : Except Misuse Int :=
  name.name.map m.machine.state.register

/-- The machine after a named register received the word of a value. -/
def setRegister (m : Machine) (name value : Value) : Except ExecutionError Machine :=
  (Primitive.assignment name value).map fun (r, word) =>
    let registers := m.machine.state.registers.set r word
    { m with machine := { m.machine with state := { m.machine.state with registers } } }

/-- The state on one line. -/
def render (m : Machine) : Except Numeral.NumeralError String :=
  m.pc.write.map m.machine.state.renderWith

/-! ## Loading -/

/-- The first cell of a program whose wrapping cannot be reported, numbered from
the given cell on. -/
def unreportable? : Nat → List Int → Option (Nat × Value.WriteError)
  | _, [] => none
  | cell, value :: rest =>
    match (Event.lines (Machine.wrapEvents cell [value])) with
    | .ok _ => unreportable? (cell + 1) rest
    | .error cause => some (cell, cause)

/-- Loads a program. When the events are heard, copying ends before a cell whose
wrapping cannot be reported, and nothing is started. -/
def load (m : Machine) (heard : Bool) (program : List Int) : Outcome Unit :=
  let fitting := program.take m.machine.memorySize
  match (if heard then unreportable? 0 fitting else none) with
  | some (cell, cause) =>
    let copied := fitting.take cell
    let memory := m.machine.state.memory.overlay (copied.map Word.wrap)
    { machine := { m with machine := { m.machine with state := { m.machine.state with memory } } }
      result := .error (.write cause)
      events := Machine.wrapEvents 0 copied }
  | none =>
    { machine := { m with machine := m.machine.load program, counter := none, switch := none }
      result := .ok ()
      events := m.machine.loadEvents program }

/-- Loads a program of cells of any kind. -/
def offer (m : Machine) (heard : Bool) (cells : Value) : Outcome Unit :=
  match Machine.programOf cells with
  | .error cause => { machine := m, result := .error (.load cause) }
  | .ok program => m.load heard program

/-! ## Stepping -/

/-- What trace entries show besides what a machine in good order does: a counter
and a run switch that were set by hand. -/
structure Marks where
  counter : Option Value
  switch : Option Value

namespace Marks

/-- Whether there is nothing to show. -/
def isEmpty (marks : Marks) : Bool := marks.counter.isNone && marks.switch.isNone

/-- A trace entry with the marks. -/
def mark (marks : Marks) (e : Entry) : Entry :=
  { e with counter := marks.counter, switch := marks.switch }

/-- The switch after something that a machine did which was running before or not.
A halt has set it to false. -/
def switchAfter (marks : Marks) (ran : Bool) (machine : RegisterMachine.Machine) : Option Value :=
  if ran && !machine.running then none else marks.switch

end Marks

/-- The outcome of a step. A counter out of order stays if the step ended at a
halt. -/
def stepBy (m : Machine) (step : RegisterMachine.Machine → Stepped) : Outcome (Option Entry) :=
  let ⟨machine, counter, switch, limit⟩ := m
  let marks : Marks := { counter, switch }
  let ran := machine.running
  let stepped := step machine
  let machine := stepped.machine
  let switch := marks.switchAfter ran machine
  let events := stepped.events
  match stepped.result with
  | .ok none => { machine := { machine, counter, switch, limit }, result := .ok none, events }
  | .ok (some entry) =>
    let trace :=
      if machine.recording && !marks.isEmpty then machine.trace.amendLast marks.mark
      else machine.trace
    let counter := if entry.stays then counter else none
    { machine := { machine := { machine with trace }, counter, switch, limit }
      result := .ok (some (marks.mark entry))
      events }
  | .error fault =>
    { machine := { machine, counter := none, switch, limit }
      result := .error (.fault fault)
      events }

/-- Halts because the counter has left the memory. -/
def goAstray (m : Machine) (heard : Bool) (counter : Value) : Outcome (Option Entry) :=
  let reason := HaltReason.astray counter.render
  let event := Event.stopped counter reason.message
  match (if heard then event.line.map some else .ok none) with
  | .error cause =>
    let halted := { m.machine with
      state := { m.machine.state with running := false }, haltReason := some reason }
    { machine := { m with machine := halted, switch := none }, result := .error (.write cause) }
  | .ok _ =>
    m.stepBy fun machine =>
      { machine.stop Machine.outOfRangeText none reason with events := [event] }

/-- One step. -/
def step (m : Machine) (heard : Bool) : Outcome (Option Entry) :=
  match m.counter with
  | none => m.stepBy RegisterMachine.Machine.step
  | some counter =>
    if m.machine.running then
      match counter.isWithin m.machine.memorySize, counter.integer? with
      | .error cause, _ => m.refuse cause
      | .ok false, _ => m.goAstray heard counter
      | .ok true, some _ => m.stepBy RegisterMachine.Machine.step
      | .ok true, none => m.refuse (.cellPicked counter.kind)
    else { machine := m, result := .ok none }

/-- A number of steps, up to the first failure. -/
def steps (m : Machine) (heard : Bool) (count : Value) : Outcome (List (Option Entry)) :=
  match count.times with
  | .error cause => m.refuse cause
  | .ok count => go m count [] []
where
  /-- The steps that remain, after the given entries and events, the latest first. -/
  go (m : Machine) : Nat → List (Option Entry) → List Event → Outcome (List (Option Entry))
    | 0, entries, events =>
      { machine := m, result := .ok entries.reverse, events := events.reverse }
    | count + 1, entries, events =>
      let stepped := m.step heard
      let events := stepped.events.reverse ++ events
      match stepped.result with
      | .error cause =>
        { machine := stepped.machine, result := .error cause, events := events.reverse }
      | .ok entry => go stepped.machine count (entry :: entries) events

/-! ## Running -/

/-- The least number of cycles that reaches a limit, if any number does. -/
def bound? : Value → Option Int
  | .float limit => limit.ceiling?
  | limit => limit.integer?

/-- Does a run on a machine in good order. If trace entries have to be marked, they
are made apart from the earlier ones. -/
def Marks.runBy (marks : Marks) (run : RegisterMachine.Machine → Ran)
    (machine : RegisterMachine.Machine) : Ran :=
  if marks.isEmpty then run machine
  else
    let earlier := machine.trace
    let ran := run { machine with trace := earlier.clear }
    let trace := earlier.append (ran.machine.entries.map marks.mark)
    { ran with machine := { ran.machine with trace } }

/-- The outcome of a run with a counter in good order. When the events are heard
and the last of them cannot be written, the run fails at its end. -/
def runBy (m : Machine) (heard : Bool) (run : RegisterMachine.Machine → Ran) : Outcome Unit :=
  let ⟨machine, counter, switch, limit⟩ := m
  let marks : Marks := { counter, switch }
  let wasRunning := machine.running
  let ran := marks.runBy run machine
  let machine : Machine :=
    { machine := ran.machine, counter, switch := marks.switchAfter wasRunning ran.machine, limit }
  let events := ran.events.toList
  let unwritten := if heard then (events.getLast?.map Event.line).getD (.ok "") else .ok ""
  match ran.fault, unwritten with
  | some cause, _ => { machine, result := .error (.fault cause), events }
  | none, .ok _ => { machine, result := .ok (), events }
  | none, .error cause => { machine, result := .error (.write cause), events := events.dropLast }

/-- Ends a run at its limit before the next step. -/
def endAt (m : Machine) (heard : Bool) (limit : Value) : Outcome Unit :=
  let event := Event.limitReached limit m.pc
  match (if heard then event.line.map some else .ok none) with
  | .ok _ => { machine := m, result := .ok (), events := [event] }
  | .error cause => { machine := m, result := .error (.write cause) }

/-- Runs on to a limit with a counter in good order. -/
def runOn (m : Machine) (heard : Bool) (limit : Value) : Outcome Unit :=
  match bound? limit with
  | some bound => m.runBy heard fun machine => (machine.advance bound #[]).atLimit limit
  | none => m.runBy heard fun machine => machine.runFreely

/-- Runs a running machine to a limit of any kind; no limit is nothing. -/
def runTo (m : Machine) (heard : Bool) (limit : Value) : Outcome Unit :=
  let reached : Except Misuse Bool := match limit with
    | .nothing => .ok false
    | limit => limit.isReachedBy m.machine.state.cycles
  match reached, m.counter with
  | .error cause, _ => m.refuse cause
  | .ok true, _ => m.endAt heard limit
  | .ok false, none => m.runOn heard limit
  | .ok false, some _ =>
    let first := m.step heard
    match first.result with
    | .error cause => { machine := first.machine, result := .error cause, events := first.events }
    | .ok _ =>
      let rest := first.machine.runOn heard limit
      { rest with events := first.events ++ rest.events }

/-- A run, limited by the given limit or else by that of the machine. -/
def run (m : Machine) (heard : Bool) (limit : Value := .nothing) : Outcome Unit :=
  match limit, m.limit, m.counter with
  | .int bound, _, none => m.runBy heard fun machine => machine.run (some bound)
  | .nothing, none, none => m.runBy heard fun machine => machine.run
  | .nothing, _, _ =>
    if m.machine.running then m.runTo heard m.maxCycles else { machine := m, result := .ok () }
  | limit, _, _ =>
    if m.machine.running then m.runTo heard limit else { machine := m, result := .ok () }

/-! ## Reports -/

/-- The description of the state with a number of cells of any kind. -/
def describe (m : Machine) (cells : Value := .int Report.defaultCells) : Except Error String := do
  let counter ← written m.pc
  let announced ← written cells
  let size := m.machine.memorySize
  match cells.compareInt size with
  | .error kind => throw (.misuse (.compared .less .int kind))
  | .ok order =>
    let count ← if order = some .gt then pure size else cells.times.mapError .misuse
    return Report.stateWith m.machine.state counter announced count

/-- The description of the trace, followed by the present state. -/
def describeTrace (m : Machine) : Except Error String := do
  let counter ← written m.pc
  let running ← written m.running
  (m.machine.describeTraceWith counter running).mapError .trace

end Machine

end Loose

end RegisterMachine
