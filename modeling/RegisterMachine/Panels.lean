import RegisterMachine.Machine.Load
import RegisterMachine.Machine.Report
import RegisterMachine.Machine.Run
import RegisterMachine.Program.Example
import RegisterMachine.Program.Source

/-!
# Panels

A form with a program text and two number fields shows three texts: a summary,
the trace, and the state. It either runs a program to the end or loads it and
steps through it.

A program or a size that is refused shows as an error in the summary, and the
other two texts stay empty. A number field that holds an infinity, or no number
at all, is an error of the form itself, and so is a number that is too great to
be used or to be written.
-/

set_option autoImplicit false

namespace RegisterMachine

/-- The three texts. -/
structure Panels where
  summary : String
  trace : String := ""
  state : String := ""
  deriving DecidableEq, Repr

/-- The ways in which filling the panels can fail. -/
inductive PanelError where
  | field (cause : Value.IntegerError)
  | creation (cause : CreationError)
  | numeral (cause : Numeral.NumeralError)
  | fault (cause : Fault)
  | trace (cause : TraceError)
  deriving DecidableEq, Repr

def PanelError.message : PanelError → String
  | .field cause => cause.message
  | .creation cause => cause.message
  | .numeral cause => cause.message
  | .fault cause => cause.message
  | .trace cause => cause.message

namespace Panels

/-- The number of trace entries shown when nothing else is asked for. -/
def defaultTraceEntries : Int := 100

/-- The cycle limit of a run whose field is empty. -/
def defaultMaxCycles : Int := 10000

/-- The items of a list before a position; a negative position counts from the
end. -/
def before {α : Type} (position : Int) (items : List α) : List α :=
  if 0 ≤ position then items.take position.toNat
  else items.take (items.length - (-position).toNat)

/-- The lines about one trace entry. -/
def entryLines (e : Entry) : Except TraceError (List String) := do
  let (before, after) ← e.snapshots
  let changes := Entry.changes before after
  return ["\n--- Cycle " ++ toString e.cycle ++ " (PC=" ++ e.place ++ ") ---",
      "Instruction: " ++ e.instruction]
    ++ (match e.error with
      | none => []
      | some reason => ["Error:       " ++ reason.message])
    ++ (if changes.isEmpty then [] else ["Changes:     " ++ ", ".intercalate changes])

/-- The lines about trace entries, one after the other. -/
def traceLines : List Entry → Except TraceError (List String)
  | [] => .ok []
  | e :: rest => do
    let first ← entryLines e
    let others ← traceLines rest
    return first ++ others

/-- The trace text, cut off at a number of entries. -/
def traceText (entries : List Entry) (limit : Int := defaultTraceEntries) :
    Except TraceError String := do
  let lines ← traceLines (before limit entries)
  let more : Int := entries.length - limit
  let ending ←
    if 0 < more then
      ((Numeral.writeDecimal more).mapError .numeral).map fun count =>
        ["\n... (" ++ count ++ " more entries)"]
    else pure []
  return "\n".intercalate (["EXECUTION TRACE", Report.rule 60] ++ lines ++ ending)

/-- The number of entries at which a value cuts off a trace text. What is nothing
cuts nothing off, and then has no order with the number of entries. -/
def cutOff (limit : Value) : Except Misuse Int :=
  match limit with
  | .nothing => .error (.compared .greater .int .nothing)
  | limit => limit.cut

/-- What the summary says about the end of a run. -/
def endLines (m : Machine) : Except Numeral.NumeralError (List String) :=
  match m.haltReason with
  | some reason => .ok ["\nHalted: " ++ reason.message]
  | none =>
    match m.maxCycles with
    | some limit =>
      if m.state.running ∧ limit ≤ m.state.cycles then
        (Numeral.writeDecimal limit).map fun bound =>
          ["\nStopped: max cycles (" ++ bound ++ ") exceeded"]
      else .ok []
    | none => .ok []

/-- The summary text. -/
def summaryText (m : Machine) : Except Numeral.NumeralError String :=
  (endLines m).map fun ending =>
    "\n".intercalate (
      ["EXECUTION SUMMARY",
       Report.rule 40,
       "Cycles: " ++ toString m.state.cycles,
       "Running: " ++ Report.yesNo m.state.running,
       "Output: " ++ (Value.list (m.summary.output.map .int)).quoted]
      ++ ending)

/-- All three texts about a machine. -/
def ofMachine (m : Machine) : Except PanelError Panels := do
  let summary ← (summaryText m).mapError .numeral
  let trace ← (traceText m.entries).mapError .trace
  return { summary, trace, state := m.describe }

/-- The texts about something that was refused. -/
def refusal (message : String) : Panels := { summary := "Error: " ++ message }

/-- The integer in a number field; an empty field has a default. -/
def field (value : Value) (default : Int) : Except Value.IntegerError Int :=
  match value with
  | .nothing => .ok default
  | value => value.toInt

/-- Whether a bad number field shows in the summary. -/
def isShown : Value.IntegerError → Bool
  | .numeral _ | .fraction .nan => true
  | .fraction .infinite | .notANumber _ => false

/-- Whether a refused machine shows in the summary. -/
def isCreationShown : CreationError → Bool
  | .traceLimit _ | .size (.negative _) => true
  | .size _ | .traceLimitTooGreat => false

/-- The machine that a form asks for, or the texts that refuse it. -/
def build (memorySize : Value) (maxCycles : Option Value) :
    Except PanelError (Except Panels Machine) :=
  let fields : Except Value.IntegerError (Int × Option Int) := do
    let size ← field memorySize State.defaultMemorySize
    match maxCycles with
    | none => return (size, none)
    | some value => return (size, some (← field value defaultMaxCycles))
  match fields with
  | .error cause =>
    if isShown cause then .ok (.error (refusal cause.message)) else .error (.field cause)
  | .ok (size, limit) =>
    match Machine.create size limit with
    | .error cause =>
      if isCreationShown cause then .ok (.error (refusal cause.message))
      else .error (.creation cause)
    | .ok m => .ok (.ok m)

/-- Runs a program and shows the machine at the end. -/
def runProgram (source : String) (memorySize maxCycles : Value) : Except PanelError Panels :=
  match Source.parse source with
  | .error cause => .ok (refusal cause.message)
  | .ok program => do
    match ← build memorySize (some maxCycles) with
    | .error panels => return panels
    | .ok m =>
      let ran := (m.load program).run
      match ran.fault with
      | some cause => .error (.fault cause)
      | none => ofMachine ran.machine

/-! ## Stepping -/

/-- What a form with a loaded program keeps and shows. -/
abbrev Loaded := Option Machine × Panels

/-- Loads a program to step through. -/
def startStepping (source : String) (memorySize : Value) : Except PanelError Loaded :=
  match Source.parse source with
  | .error cause => .ok (none, refusal cause.message)
  | .ok program => do
    match ← build memorySize none with
    | .error panels => return (none, panels)
    | .ok m =>
      let loaded := m.load program
      let summary ← (summaryText loaded).mapError .numeral
      return (some loaded, { summary, state := loaded.describe })

/-- Takes one step of the loaded program, if there is one. -/
def stepOnce : Option Machine → Except PanelError Loaded
  | none => .ok (none, refusal "press Load first")
  | some m =>
    let stepped := m.step
    match stepped.result with
    | .error cause => .error (.fault cause)
    | .ok _ => do
      let panels ← ofMachine stepped.machine
      return (some stepped.machine, panels)

/-- The text of the example of that name; empty if there is none. -/
def exampleText (name : String) : String :=
  match Example.ofName? name with
  | none => ""
  | some e => (Source.write e.cells).toOption.getD ""

end Panels

end RegisterMachine
