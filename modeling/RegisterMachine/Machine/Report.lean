import RegisterMachine.Machine.Basic

/-!
# Reports

A machine describes itself in three ways: its state with the first cells of its
memory, its trace with what every step changed, and a summary.

The trace can only be described if every entry has its snapshots. An entry made
while the machine was not recording has none.
-/

set_option autoImplicit false

namespace RegisterMachine

/-- The figures of a machine. -/
structure Summary where
  cycles : Nat
  running : Bool
  halted : Bool
  registers : Registers
  flags : Flags
  pc : Int
  output : List Int
  traceLength : Nat
  haltReason : Option HaltReason
  deriving Repr

/-- The ways in which describing a trace can fail. -/
inductive TraceError where
  /-- An entry lacks a part that its description needs. -/
  | missing (part : String)
  | numeral (cause : Numeral.NumeralError)
  deriving DecidableEq, Repr

def TraceError.message : TraceError → String
  | .missing part => part
  | .numeral cause => cause.message

namespace Entry

/-- The snapshots of an entry. -/
def snapshots (e : Entry) : Except TraceError (Snapshot × Snapshot) :=
  match e.before, e.after with
  | some before, some after => .ok (before, after)
  | _, _ => .error (.missing "registers")

/-- The program counter before the step, as it was shown. -/
def place (e : Entry) : String := (e.counter.map Value.render).getD (toString e.address)

/-- The registers that changed between two snapshots, with both contents. -/
def changes (before after : Snapshot) : List String :=
  Register.all.filterMap fun r =>
    if before.registers.get r = after.registers.get r then none
    else some (r.name ++ ": " ++ toString (before.registers.get r) ++ " -> "
      ++ toString (after.registers.get r))

end Entry

/-- The registers as a table. -/
def Registers.table (file : Registers) : Value :=
  .table (file.toList.map fun (r, value) => (r.name, .int value))

/-- The flags as a table. -/
def Flags.table (flags : Flags) : Value :=
  .table (flags.toList.map fun (name, flag) => (name, .bool flag))

namespace Report

/-- A text with a line break after it. -/
def line (text : String) : String := text ++ "\n"

/-- A rule of that many equality signs. -/
def rule (width : Nat) : String := String.ofList (List.replicate width '=')

/-- A truth value as a word. -/
def yesNo (value : Bool) : String := if value then "Yes" else "No"

/-- A number in at least two columns. -/
def twoColumns (n : Nat) : String :=
  let digits := toString n
  if digits.length < 2 then " " ++ digits else digits

/-- The lines about the first cells of a memory, so many as are announced. -/
def memoryLines (m : Memory) (announced : String) (cells : Nat) : List String :=
  ("Memory (first " ++ announced ++ " locations):") ::
    (List.range (min cells m.size)).map fun address =>
      "  [" ++ twoColumns address ++ "]: " ++ toString (m.read address)

/-- The description of a state, given the text of its counter, with the first
cells of its memory. -/
def stateWith (s : State) (counter announced : String) (cells : Nat) : String :=
  let registers := s.registers.toList.map fun (r, value) =>
    "  " ++ r.name ++ ": " ++ toString value
  "\n".intercalate (
    ["=== CPU State ===",
     "Program Counter: " ++ counter,
     "Running: " ++ yesNo s.running,
     "Flags: Zero=" ++ State.bit s.flags.zero ++ ", Carry=" ++ State.bit s.flags.carry,
     "",
     "Registers:"]
    ++ registers ++ [""] ++ memoryLines s.memory announced cells)

/-- The number of cells described when nothing else is asked for. -/
def defaultCells : Nat := 20

/-- The description of a state with the first cells of its memory. -/
def state (s : State) (cells : Nat := defaultCells) : String :=
  stateWith s (toString s.pc) (toString cells) cells

/-- The width of the rules in a trace description. -/
def width : Nat := 70

/-- The description of one trace entry. -/
def entry (e : Entry) : Except TraceError String := do
  let (before, after) ← e.snapshots
  let status := match e.error with
    | none => "OK"
    | some reason => "ERROR: " ++ reason.message
  let decoded := match e.decoded with
    | none => ""
    | some d =>
      line ("  Decoded Key: " ++ d.key) ++ line ("  Params: " ++ (Value.table d.params).quoted)
  let changes := Entry.changes before after
  return line ("\n[Cycle " ++ toString e.cycle ++ "] PC=" ++ e.place ++ " " ++ status)
    ++ line ("  Instruction: " ++ e.instruction)
    ++ decoded
    ++ (if changes.isEmpty then "" else line ("  Changes: " ++ ", ".intercalate changes))
    ++ (if before.flags = after.flags then ""
        else line ("  Flags: " ++ after.flags.table.quoted))

/-- The descriptions of trace entries, one after the other. -/
def entries : List Entry → Except TraceError String
  | [] => .ok ""
  | e :: rest => do
    let first ← entry e
    let others ← entries rest
    return first ++ others

/-- A heading between two rules. -/
def heading (title : String) : String := line (rule width) ++ line title ++ line (rule width)

/-- The description of the state at the end of a trace, given the texts of its
counter and its run switch. -/
def final (s : State) (counter running : String) : String :=
  "\n" ++ heading "FINAL STATE"
    ++ line ("  Registers: " ++ s.registers.table.quoted)
    ++ line ("  Flags: " ++ s.flags.table.quoted)
    ++ line ("  PC: " ++ counter)
    ++ line ("  Cycles: " ++ toString s.cycles)
    ++ line ("  Running: " ++ running)

end Report

namespace Machine

/-- The description of the trace, followed by the present state, given the texts
of its counter and its run switch. -/
def describeTraceWith (m : Machine) (counter running : String) : Except TraceError String := do
  let entries ← Report.entries m.entries
  return Report.heading "EXECUTION TRACE" ++ entries ++ Report.final m.state counter running

/-- The description of the trace, followed by the present state. -/
def describeTrace (m : Machine) : Except TraceError String :=
  m.describeTraceWith (toString m.state.pc) (Value.bool m.state.running).render

/-- The description of the state with the first cells of the memory. -/
def describe (m : Machine) : String := Report.state m.state

/-- The figures of the machine. -/
def summary (m : Machine) : Summary where
  cycles := m.state.cycles
  running := m.state.running
  halted := !m.state.running
  registers := m.state.registers
  flags := m.state.flags
  pc := m.state.pc
  output := m.output.toList.map (·.value)
  traceLength := m.trace.length
  haltReason := m.haltReason

end Machine

end RegisterMachine
