import RegisterMachine.CommandLine.Options
import RegisterMachine.Numeral
import RegisterMachine.Program.Example

/-!
# Settings

What an argument list asks of the program: which cells to run and how. The
module holds the catalogue of options, the usage and help texts, and the
reading of an argument list into settings.

Options are read in order, and a later use of an option replaces an earlier
one. A request for help ends the reading. A lone separator glued to an option
takes its value away, so a setting may be without one.
-/

set_option autoImplicit false

namespace RegisterMachine

namespace CommandLine

/-- The options. -/
inductive Key where
  | help
  | program
  | source
  | menu
  | step
  | memorySize
  | maxCycles
  | trace
  | quiet
  | verbose
  deriving DecidableEq, Repr

/-- The catalogue of options, in the order in which they are listed. -/
def catalogue : List (Declared Key) := [
  { names := ["-h", "--help"], key := .help },
  { names := ["--program", "-p"], key := .program, takesValue := true },
  { names := ["--inline", "-i"], key := .source, takesValue := true },
  { names := ["--menu"], key := .menu },
  { names := ["--step"], key := .step },
  { names := ["--memory-size"], key := .memorySize, takesValue := true },
  { names := ["--max-cycles"], key := .maxCycles, takesValue := true },
  { names := ["--trace", "-t"], key := .trace },
  { names := ["--quiet", "-q"], key := .quiet },
  { names := ["--verbose", "-v"], key := .verbose }]

/-- What an argument list asks for. -/
structure Settings where
  program : Option Example := none
  source : Option String := none
  menu : Bool := false
  step : Bool := false
  memorySize : Option Int := some 1024
  maxCycles : Option Int := some 10000
  trace : Bool := false
  quiet : Bool := false
  verbose : Bool := false
  deriving DecidableEq, Repr, Inhabited

/-- The ways in which an argument list is refused. -/
inductive SettingsError where
  | options (cause : OptionsError)
  /-- The value is no example. -/
  | notAChoice (label value : String)
  /-- The value is no integer. -/
  | notAnInteger (label value : String)
  | negativeMemorySize
  | nothingToRun
  deriving DecidableEq, Repr

/-- The names of the examples in alphabetical order. -/
def choices : List String :=
  [Example.arithmetic, .counting, .factorial, .stepDemo].map Example.name

def SettingsError.message : SettingsError → String
  | .options cause => cause.message
  | .notAChoice label value =>
    "argument " ++ label ++ ": invalid choice: " ++ Text.quote value ++ " (choose from "
      ++ ", ".intercalate (choices.map Text.quote) ++ ")"
  | .notAnInteger label value =>
    "argument " ++ label ++ ": invalid int value: " ++ Text.quote value
  | .negativeMemorySize => "--memory-size must not be negative"
  | .nothingToRun => "One of --program, --inline or --menu is required"

/-! ## Usage and help -/

/-- The name under which the program presents itself. -/
def programName : String := "main.py"

/-- How to call the program. -/
def usage : String :=
  "usage: main.py [-h] [--program \x7barithmetic,counting,factorial,step-demo\x7d]
               [--inline INLINE] [--menu] [--step] [--memory-size MEMORY_SIZE]
               [--max-cycles MAX_CYCLES] [--trace] [--quiet] [--verbose]
"

/-- What the options mean, with examples. -/
def explanation : String :=
  "
vcpu: Minimal Virtual CPU

options:
  -h, --help            show this help message and exit
  --program \x7barithmetic,counting,factorial,step-demo\x7d, -p \x7barithmetic,counting,factorial,step-demo\x7d
                        Name of an example program
  --inline INLINE, -i INLINE
                        Inline program: integers separated by commas or spaces
  --menu                Interactive menu over the example programs
  --step                Execute one instruction per Enter press
  --memory-size MEMORY_SIZE
                        Number of memory cells. Default: 1024
  --max-cycles MAX_CYCLES
                        Maximum execution cycles (safety limit). Default:
                        10000
  --trace, -t           Print full execution trace
  --quiet, -q           Minimal output (final registers only)
  --verbose, -v         Log every executed instruction

Examples:
    # Run the factorial example
    python main.py --program factorial

    # Run inline integers with full trace output
    python main.py --inline \"1,0,42, 11,0, 12\" --trace

    # Execute one instruction per Enter press
    python main.py --program counting --step

    # Interactive menu
    python main.py --menu
        
"

/-- The text of a request for help. -/
def help : String := usage ++ explanation

/-- What is shown when an argument list is refused. -/
def refusal (cause : SettingsError) : String :=
  usage ++ programName ++ ": error: " ++ cause.message ++ "\n"

/-! ## Reading -/

/-- What an argument list amounts to. -/
inductive Request where
  | help
  | settings (s : Settings)
  | refused (cause : SettingsError)
  deriving DecidableEq, Repr

/-- The value of a use, unless it was taken away. -/
def Use.given (u : Use Key) : Option String := u.value.filter (· ≠ separator)

/-- The integer that a use gives. -/
def Use.integer (u : Use Key) : Except SettingsError (Option Int) :=
  match u.given with
  | none => .ok none
  | some text =>
    match Numeral.readDecimal text with
    | .ok n => .ok (some n)
    | .error _ => .error (.notAnInteger u.option.label text)

/-- The example that a use gives. -/
def Use.example? (u : Use Key) : Except SettingsError (Option Example) :=
  match u.given with
  | none => .ok none
  | some name =>
    match Example.ofName? name with
    | some e => .ok (some e)
    | none => .error (.notAChoice u.option.label name)

/-- The settings after one more use of an option. -/
def Settings.apply (s : Settings) (u : Use Key) : Except SettingsError Settings :=
  match u.option.key with
  | .help => .ok s
  | .program => u.example?.map fun program => { s with program }
  | .source => .ok { s with source := u.given }
  | .menu => .ok { s with menu := true }
  | .step => .ok { s with step := true }
  | .memorySize => u.integer.map fun memorySize => { s with memorySize }
  | .maxCycles => u.integer.map fun maxCycles => { s with maxCycles }
  | .trace => .ok { s with trace := true }
  | .quiet => .ok { s with quiet := true }
  | .verbose => .ok { s with verbose := true }

/-- The request after the uses of options, where `last` is asked for if none of
them ends the reading. -/
def Request.ofUses (s : Settings) (last : Settings → Request) : List (Use Key) → Request
  | [] => last s
  | u :: rest =>
    if u.option.key = .help then .help
    else match s.apply u with
      | .error cause => .refused cause
      | .ok s => ofUses s last rest

/-- What an argument list asks for. -/
def Request.ofArguments (arguments : List String) : Request :=
  match takeAll catalogue arguments with
  | .error cause => .refused (.options cause)
  | .ok taken =>
    let last (s : Settings) : Request :=
      match taken.error with
      | some cause => .refused (.options cause)
      | none =>
        if taken.leftOver.isEmpty then .settings s
        else .refused (.options (.leftOver taken.leftOver))
    ofUses {} last taken.uses

end CommandLine

end RegisterMachine
