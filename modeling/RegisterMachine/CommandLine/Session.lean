import RegisterMachine.CommandLine.Settings
import RegisterMachine.Machine.Load
import RegisterMachine.Machine.Report
import RegisterMachine.Machine.Run
import RegisterMachine.Program.Source

/-!
# Sessions

A session is what happens between the start of the program and its exit. It
shows texts and at times waits for an answer: at the menu for a choice, and
before each step of a stepped program for the Enter key. An answer that does
not come, because the input has ended or was interrupted, is an answer too.

A session is a value. `start` gives the first one, `answer` the next one, each
with the texts shown on the way, so a session can be played with a person at a
terminal (`Main`) as well as against a list of answers (`play`).
-/

set_option autoImplicit false

namespace RegisterMachine

namespace CommandLine

/-- Texts for the output and for the log. -/
structure Shown where
  out : String := ""
  log : String := ""
  deriving DecidableEq, Repr, Inhabited

instance : Append Shown where
  append first second := { out := first.out ++ second.out, log := first.log ++ second.log }

/-- A text for the output. -/
def say (text : String) : Shown := { out := text }

/-- A line for the output. -/
def sayLine (text : String) : Shown := { out := text ++ "\n" }

/-- The ways in which a session can fail. -/
inductive SessionError where
  /-- The memory size was taken away. -/
  | noMemorySize
  /-- The cycle limit was taken away, and the run has to look at it. -/
  | noMaxCycles
  /-- There can be no memory of the size asked for. -/
  | creation (cause : CreationError)
  | fault (cause : Fault)
  | trace (cause : TraceError)
  deriving DecidableEq, Repr

def SessionError.message : SessionError → String
  | .noMemorySize => "'<' not supported between instances of 'list' and 'int'"
  | .noMaxCycles => "'>=' not supported between instances of 'int' and 'list'"
  | .creation cause => cause.message
  | .fault cause => cause.message
  | .trace cause => cause.message

/-- Where a session stands. -/
inductive Phase where
  /-- Waiting for a choice from the menu. -/
  | menu
  /-- Waiting for the Enter key before a step; `inMenu` tells whether the menu
  comes back afterwards. -/
  | stepping (m : Machine) (number : Nat) (inMenu : Bool)
  | exited (code : Nat)
  | failed (cause : SessionError)
  deriving Inhabited

/-- Whether a session waits for an answer. -/
def Phase.waits : Phase → Bool
  | .menu | .stepping .. => true
  | .exited _ | .failed _ => false

/-- A phase together with the texts shown on the way to it. -/
abbrev Turn := Phase × Shown

/-- Shows something before a turn. -/
def before (shown : Shown) (turn : Turn) : Turn := (turn.1, shown ++ turn.2)

namespace Settings

variable (s : Settings)

/-- The log lines of events: warnings always, the others on request. An event
that cannot be written has no line. -/
def logged (events : List Event) : Shown :=
  let shown := events.filter fun e => s.verbose || Level.warning.rank ≤ e.level.rank
  { log := String.join ((shown.filterMap fun e => e.line.toOption).map (· ++ "\n")) }

/-- The line that the sink of a session shows for a printed value. -/
def printLine (e : Emission) : String :=
  "PRINT " ++ e.register ++ ": " ++ toString e.value ++ "\n"

/-- The number of values that the sink of a machine received. -/
def received (m : Machine) : Nat := m.sink.elim 0 (·.received.size)

/-- What the sink of a machine received after so many earlier values. -/
def printed (earlier : Nat) (m : Machine) : Shown :=
  let values := m.sink.elim [] (·.received.toList)
  say (String.join ((values.drop earlier).map printLine))

/-- Loads a program. -/
def load (m : Machine) (program : List Int) : Machine × Shown :=
  (m.load program, s.logged (m.loadEvents program))

/-! ## Running to the end -/

/-- The line with the state of a machine. -/
def described (m : Machine) : Shown := sayLine m.describe

/-- Runs a loaded machine and shows its state before and after. -/
def complete (m : Machine) : Except SessionError Machine × Shown :=
  let ran := m.run
  let opening := if s.quiet then {} else described m ++ sayLine "\n=== CPU Execution Started ==="
  let middle := printed (received m) ran.machine ++ s.logged ran.events.toList
  match ran.fault with
  | some cause => (.error (.fault cause), opening ++ middle)
  | none =>
    let closing := if s.quiet then {}
      else sayLine "=== CPU Execution Finished ===\n" ++ described ran.machine
    (.ok ran.machine, opening ++ middle ++ closing)

/-- The lines of the registers that are not zero. -/
def registerLines (file : Registers) : String :=
  String.join (file.toList.map fun (r, value) =>
    if value = 0 then "" else r.name ++ "=" ++ toString value ++ "\n")

/-- What is shown of a machine after its program, by request: the trace, or only
the registers. -/
def details (m : Machine) : Except SessionError Shown :=
  if s.trace then (m.describeTrace.mapError .trace).map say
  else if s.quiet then .ok (say (registerLines m.state.registers))
  else .ok {}

/-- Ends a session that ran one program. -/
def conclude (m : Machine) : Turn :=
  match s.details m with
  | .error cause => (.failed cause, {})
  | .ok details =>
    let reason := match m.haltReason with
      | some reason => if s.quiet then {} else sayLine ("Halted: " ++ reason.message)
      | none => {}
    if m.state.running then
      let limit := s.maxCycles.elim "[]" toString
      (.exited 1, details ++ reason ++ sayLine ("Stopped: max cycles (" ++ limit ++ ") exceeded"))
    else (.exited 0, details ++ reason)

/-! ## The menu -/

/-- The banner above the first menu. -/
def banner : String :=
  "CPU Simulator
=============
A virtual CPU that can execute simple assembly-like programs.
"

/-- The menu. -/
def menuText : String :=
  "
=== CPU Simulator Menu ===
1. Run Arithmetic Program
2. Run Factorial Program (5!)
3. Run Counting Program (1 to 5)
4. Step-by-step Execution Demo
5. Exit
"

/-- Shows the menu and waits for a choice. -/
def showMenu : Turn := (.menu, say (menuText ++ "Enter your choice (1-5): "))

/-- Leaves the menu. -/
def leave : Turn := (.exited 0, sayLine "Exiting CPU Simulator. Goodbye!")

/-- The machine of a menu choice. It has no cycle limit, and shows what is
printed also in a quiet session. -/
def menuMachine : Except SessionError Machine :=
  (Machine.create (s.memorySize.getD 0) none (some .reliable)).mapError .creation

/-- The headline of an example. -/
def title : Example → String
  | .arithmetic => "Arithmetic"
  | .factorial => "Factorial"
  | .counting => "Counting"
  | .stepDemo => "Step-Demo"

/-- Runs an example and shows the menu again. -/
def runExample (e : Example) : Turn :=
  let headline := sayLine ("\n--- Running " ++ title e ++ " Program ---")
  match s.menuMachine with
  | .error cause => (.failed cause, headline)
  | .ok m =>
    let (loaded, loading) := s.load m e.cells
    let shown := headline ++ loading
    match s.complete loaded with
    | (.error cause, running) => (.failed cause, shown ++ running)
    | (.ok _, running) => before (shown ++ running) showMenu

/-! ## Stepping -/

/-- What follows a program that was stepped to its halt. -/
def afterStepping (m : Machine) (inMenu : Bool) : Turn :=
  before (sayLine "\nFinal state" ++ described m) (if inMenu then showMenu else s.conclude m)

/-- Waits for the Enter key before the step of that number, or ends the stepping
if the machine has halted. -/
def awaitStep (m : Machine) (number : Nat) (inMenu : Bool) : Turn :=
  if m.state.running then
    (.stepping m number inMenu,
      say ("\n--- Step " ++ toString number ++ " ---\nPress Enter to continue..."))
  else s.afterStepping m inMenu

/-- Starts stepping through a loaded program. -/
def beginStepping (m : Machine) (inMenu : Bool) : Turn :=
  before (described m) (s.awaitStep m 1 inMenu)

/-- What is shown after a step. -/
def stepReport (entry : Option Entry) (m : Machine) : Shown :=
  (match entry with
    | some e => sayLine ("PC=" ++ toString e.address ++ ": " ++ e.instruction)
    | none => {})
  ++ sayLine ("Register AX: " ++ toString m.state.registers.ax)
  ++ sayLine ("Program Counter: " ++ toString m.state.pc)
  ++ sayLine ("CPU Running: " ++ Report.yesNo m.state.running)

/-- Takes a step. -/
def takeStep (m : Machine) (number : Nat) (inMenu : Bool) : Turn :=
  let earlier := received m
  let stepped := m.step
  let shown := printed earlier stepped.machine ++ s.logged stepped.events
  match stepped.result with
  | .error cause => (.failed (.fault cause), shown)
  | .ok entry =>
    before (shown ++ stepReport entry stepped.machine)
      (s.awaitStep stepped.machine (number + 1) inMenu)

/-- Stops stepping because no answer came. -/
def abandonStepping (inMenu : Bool) : Turn :=
  before (sayLine "\nStepping stopped.") (if inMenu then leave else (.exited 0, {}))

/-- Starts stepping through the example for it. -/
def stepExample : Turn :=
  let headline := sayLine "\n=== Step-by-step Execution Demo ==="
    ++ sayLine "Program: LOAD AX, 42; PRINT AX; HALT"
  match s.menuMachine with
  | .error cause => (.failed cause, headline)
  | .ok m =>
    let (loaded, loading) := s.load m Example.stepDemo.cells
    before (headline ++ loading) (s.beginStepping loaded true)

/-- Follows a choice from the menu. -/
def choose (choice : String) : Turn :=
  if choice = "1" then s.runExample .arithmetic
  else if choice = "2" then s.runExample .factorial
  else if choice = "3" then s.runExample .counting
  else if choice = "4" then s.stepExample
  else if choice = "5" then leave
  else before (sayLine "Invalid choice. Please enter 1-5.") showMenu

/-! ## The whole session -/

/-- Runs or steps one program. -/
def execute (program : List Int) (memorySize : Int) : Turn :=
  match Machine.create memorySize s.maxCycles (if s.quiet then none else some .reliable) with
  | .error cause => (.failed (.creation cause), {})
  | .ok m =>
    let (loaded, loading) := s.load m program
    if s.step then before loading (s.beginStepping loaded false)
    else if s.maxCycles.isNone then (.failed .noMaxCycles, loading)
    else match s.complete loaded with
      | (.error cause, running) => (.failed cause, loading ++ running)
      | (.ok halted, running) => before (loading ++ running) (s.conclude halted)

/-- A session that the settings make impossible. -/
def refuse (cause : SettingsError) : Turn := (.exited 2, { log := refusal cause })

/-- A line that a quiet session leaves out. -/
def unlessQuiet (line : String) : Shown := if s.quiet then {} else sayLine line

/-- The first turn of a session with these settings. -/
def begin : Turn :=
  match s.memorySize with
  | none => (.failed .noMemorySize, {})
  | some size =>
    if size < 0 then refuse .negativeMemorySize
    else if s.menu then before (say banner) showMenu
    else match s.program, s.source.filter (· ≠ "") with
      | some e, _ =>
        before (s.unlessQuiet ("Loading program: " ++ e.name)) (s.execute e.cells size)
      | none, some source =>
        match Source.parse source with
        | .error cause => (.exited 1, sayLine ("Error: " ++ cause.message))
        | .ok program =>
          before (s.unlessQuiet "Running inline program") (s.execute program size)
      | none, none => refuse .nothingToRun

/-- The next turn, after an answer that may not have come. -/
def answer (phase : Phase) (given : Option String) : Turn :=
  match phase, given with
  | .menu, some choice => s.choose (Text.trim choice)
  | .menu, none => before (say "\n") leave
  | .stepping m number inMenu, some _ => s.takeStep m number inMenu
  | .stepping _ _ inMenu, none => abandonStepping inMenu
  | ended, _ => (ended, {})

end Settings

/-- A session: the settings and where it stands. -/
structure Session where
  settings : Settings
  phase : Phase
  deriving Inhabited

namespace Session

/-- The first session for an argument list, with what it shows. -/
def start (arguments : List String) : Session × Shown :=
  match Request.ofArguments arguments with
  | .help => ({ settings := {}, phase := .exited 0 }, say help)
  | .refused cause =>
    let (phase, shown) := Settings.refuse cause
    ({ settings := {}, phase }, shown)
  | .settings s =>
    let (phase, shown) := s.begin
    ({ settings := s, phase }, shown)

/-- The session after an answer that may not have come, with what it shows. -/
def answer (session : Session) (given : Option String) : Session × Shown :=
  let (phase, shown) := session.settings.answer session.phase given
  ({ session with phase }, shown)

/-- Plays a session against a list of answers; when they run out, none comes. -/
def playOn (session : Session) (shown : Shown) : List String → Session × Shown
  | [] =>
    if session.phase.waits then
      let (last, more) := session.answer none
      (last, shown ++ more)
    else (session, shown)
  | given :: rest =>
    if session.phase.waits then
      let (next, more) := session.answer (some given)
      next.playOn (shown ++ more) rest
    else (session, shown)

end Session

/-- A whole session for an argument list and a list of answers. -/
def play (arguments answers : List String) : Phase × Shown :=
  let (session, shown) := Session.start arguments
  let (last, all) := session.playOn shown answers
  (last.phase, all)

end CommandLine

end RegisterMachine
