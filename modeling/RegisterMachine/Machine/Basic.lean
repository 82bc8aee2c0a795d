import RegisterMachine.Event
import RegisterMachine.Recent
import RegisterMachine.Registry

/-!
# Machines

A machine is a state together with what it keeps for its observers: the trace
of its most recent steps, the values printed since the last load, the sink that
receives every printed value, and the reason of the last abnormal halt.

Nothing that a program does is an error. Errors come from outside: a machine
cannot be built with an impossible size, and a sink may fail.
-/

set_option autoImplicit false

namespace RegisterMachine

/-- Why a machine halted other than by a halt instruction. -/
inductive HaltReason where
  | divisionByZero
  | unknownInstruction (opcode : Int)
  | outOfRange (pc : Int)
  /-- The program counter left the memory and is no integer; this is its text. -/
  | astray (pc : String)
  deriving DecidableEq, Repr

def HaltReason.message : HaltReason → String
  | .divisionByZero => "Division by zero"
  | .unknownInstruction opcode => Decoded.unknownMessage opcode
  | .outOfRange pc => "PC out of range: " ++ toString pc
  | .astray pc => "PC out of range: " ++ pc

/-- A printed value with the register it came from. -/
structure Emission where
  register : String
  value : Int
  deriving DecidableEq, Repr, Inhabited

/-- What the trace tells about one step. -/
structure Entry where
  /-- The number of cycles before the step. -/
  cycle : Nat
  /-- The program counter before the step. -/
  address : Int
  instruction : String
  /-- The decoded instruction, if the step got as far as decoding. -/
  decoded : Option Decoded
  /-- The snapshot before the step, if the machine was recording. -/
  before : Option Snapshot
  /-- The snapshot after the step, if the machine was recording. -/
  after : Option Snapshot
  error : Option HaltReason
  /-- The program counter before the step as it was set by hand, if it was not an
  integer. Then it is shown in the place of the address. -/
  counter : Option Value := none
  /-- The run switch before the step as it was set by hand, if it was no truth
  value. Then it is shown wherever the machine runs. -/
  switch : Option Value := none
  deriving Repr, Inhabited

/-- Whether the program counter stayed where it was, as it does at a halt. -/
def Entry.stays (e : Entry) : Bool := e.decoded.elim true fun d => !d.advances

/-- The program counter after the step, if it is not an integer. -/
def Entry.counterAfter (e : Entry) : Option Value := if e.stays then e.counter else none

/-- The run switch in a snapshot of an entry, as it is shown. A halt sets it to
false. -/
def Entry.shownSwitch (e : Entry) (running : Bool) : Value :=
  if running then e.switch.getD (.bool true) else .bool false

/-! ## Sinks -/

/-- A receiver of printed values. It keeps what it received, and some of its
calls fail, numbered from 1; a failing call has received its value. -/
structure Sink where
  failsAt : Nat → Bool := fun _ => false
  received : Array Emission := #[]
  deriving Inhabited

namespace Sink

/-- A sink that never fails. -/
def reliable : Sink := {}

/-- A sink of which one call fails. -/
def failingAt (call : Nat) : Sink := { failsAt := fun n => n == call }

/-- Hands a value over. -/
def receive (s : Sink) (e : Emission) : Sink := { s with received := s.received.push e }

/-- Whether the last call failed. -/
def failed (s : Sink) : Bool := s.failsAt s.received.size

end Sink

/-- The ways in which a step can fail. -/
inductive Fault where
  | execution (cause : ExecutionError)
  /-- The sink failed on a value. -/
  | sink (e : Emission)
  deriving DecidableEq, Repr

def Fault.message : Fault → String
  | .execution cause => cause.message
  | .sink e => "sink failed on " ++ e.register ++ "=" ++ toString e.value

/-! ## Machines -/

/-- A state with what is kept for its observers. -/
structure Machine where
  state : State
  trace : Recent Entry
  /-- The values printed since the last load, in order. -/
  output : Array Emission := #[]
  sink : Option Sink := none
  /-- The cycle limit of a run that is given none of its own. -/
  maxCycles : Option Int := none
  /-- Whether steps are recorded in the trace. -/
  recording : Bool := true
  haltReason : Option HaltReason := none
  deriving Inhabited

/-- The ways in which building a machine can fail. -/
inductive CreationError where
  | traceLimit (limit : Int)
  | size (cause : SizeError)
  /-- The trace limit is beyond what can number entries at all. -/
  | traceLimitTooGreat
  deriving DecidableEq, Repr

def CreationError.message : CreationError → String
  | .traceLimit limit => Numeral.describe "trace_limit must be at least 1, got " limit
  | .size cause => cause.message
  | .traceLimitTooGreat => "Python int too large to convert to C ssize_t"

namespace Machine

/-- The number of trace entries kept when nothing else is asked for. -/
def defaultTraceLimit : Nat := 1000

/-- A machine at power-on with that many cells. -/
def powerOn (size : Nat) (maxCycles : Option Int := none) (sink : Option Sink := none)
    (recording : Bool := true) (traceLimit : Nat := defaultTraceLimit) : Machine where
  state := .initial size
  trace := { limit := traceLimit }
  maxCycles := maxCycles
  sink := sink
  recording := recording

/-- A machine at power-on, if the sizes are possible. The trace limit is checked
before the memory size, except that it may be too great only for a memory that
is possible. -/
def create (memorySize : Int := State.defaultMemorySize) (maxCycles : Option Int := none)
    (sink : Option Sink := none) (recording : Bool := true)
    (traceLimit : Int := defaultTraceLimit) : Except CreationError Machine :=
  if traceLimit < 1 then .error (.traceLimit traceLimit)
  else match State.cellCount memorySize with
    | .error cause => .error (.size cause)
    | .ok size =>
      if Memory.countable ≤ traceLimit.toNat then .error .traceLimitTooGreat
      else .ok (powerOn size maxCycles sink recording traceLimit.toNat)

/-- The number of memory cells. -/
def memorySize (m : Machine) : Nat := m.state.memory.size

/-- Whether the machine keeps executing instructions. -/
def running (m : Machine) : Bool := m.state.running

/-- The trace entries, the oldest first. -/
def entries (m : Machine) : List Entry := m.trace.toList

/-- The state for a trace entry: taken only when the machine is recording. -/
def snapshot? (m : Machine) : Option Snapshot :=
  if m.recording then some m.state.snapshot else none

end Machine

end RegisterMachine
