import RegisterMachine.Value.Operation

/-!
# Log events

The machine and the registry report what they do as events. An event knows its
level, the name of the log it belongs to, and its text; together these make the
log line. An event about a value that is no proper number, or has too many
digits, cannot be written.
-/

set_option autoImplicit false

namespace RegisterMachine

/-- How much an event matters. -/
inductive Level where
  | debug
  | info
  | warning
  deriving DecidableEq, Repr

namespace Level

/-- The name of a level. -/
def label : Level → String
  | debug => "DEBUG"
  | info => "INFO"
  | warning => "WARNING"

/-- The place of a level in the order of importance. -/
def rank : Level → Nat
  | debug => 10
  | info => 20
  | warning => 30

end Level

/-- What the machine and the registry report. -/
inductive Event where
  /-- A cell of a loaded program was no word. -/
  | wrapped (cell : Nat) (value word : Int)
  /-- A program did not fit. -/
  | truncated (fitting total : Nat)
  /-- A program was loaded. -/
  | loaded (cells : Nat)
  /-- An instruction is about to be executed. -/
  | executing (pc : Int) (text : String)
  /-- A store to an address outside the memory was skipped. -/
  | storeSkipped (address : Value)
  /-- A division by zero stopped the machine. -/
  | dividedByZero (pc : Int)
  /-- A halt instruction stopped the machine. -/
  | halted (pc : Int) (cycles : Nat)
  /-- Something other than an executed instruction stopped the machine. -/
  | stopped (pc : Value) (reason : String)
  /-- A run ended because of its cycle limit. -/
  | limitReached (limit pc : Value)
  deriving Repr

namespace Event

/-- The level of an event. -/
def level : Event → Level
  | wrapped .. | truncated .. | dividedByZero .. | stopped .. | limitReached .. => .warning
  | loaded .. | halted .. => .info
  | executing .. | storeSkipped .. => .debug

/-- The log that an event belongs to. -/
def source : Event → String
  | storeSkipped .. => "vcpu.registry"
  | _ => "vcpu.machine"

def message : Event → Except Value.WriteError String
  | wrapped cell value word => do
    let written ← Value.decimal (.int value)
    return "Cell " ++ toString cell ++ ": " ++ written ++ " wrapped to 32 bits as "
      ++ toString word
  | truncated fitting total =>
    .ok ("Program truncated: " ++ toString fitting ++ " of " ++ toString total
      ++ " cells fit in memory")
  | loaded cells => .ok ("Loaded " ++ toString cells ++ " cells")
  | executing pc text => .ok ("PC=" ++ toString pc ++ ": " ++ text)
  | storeSkipped address => do
    let written ← address.decimal
    return "STORE to out-of-range address " ++ written ++ " skipped"
  | dividedByZero pc => .ok ("Division by zero at PC=" ++ toString pc)
  | halted pc cycles =>
    .ok ("HALT at PC=" ++ toString pc ++ " after " ++ toString cycles ++ " cycles")
  | stopped pc reason => do
    let written ← pc.decimal
    return "Halted at PC=" ++ written ++ ": " ++ reason
  | limitReached limit pc => do
    let bound ← limit.decimal
    let place ← pc.decimal
    return "Cycle limit (" ++ bound ++ ") reached at PC=" ++ place

/-- The log line of an event. -/
def line (e : Event) : Except Value.WriteError String :=
  e.message.map fun message => e.level.label ++ " " ++ e.source ++ ": " ++ message

/-- The log lines of events, up to the first that cannot be written. -/
def lines : List Event → Except Value.WriteError (List String)
  | [] => .ok []
  | e :: rest => do
    let first ← e.line
    let others ← lines rest
    return first :: others

end Event

end RegisterMachine
