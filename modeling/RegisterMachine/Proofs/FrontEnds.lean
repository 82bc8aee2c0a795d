import RegisterMachine.Proofs.Arguments
import RegisterMachine.Proofs.Form
import RegisterMachine.Proofs.Indifference
import RegisterMachine.Proofs.Sessions

/-!
# The command line and the form agree

A session can run a program that is given in its arguments, and a form can run the same
program to the same limit. The machine of the session hands what is printed to a sink that
shows it, that of the form has no sink; so they are peers, and end alike. Both tell how the
run ended, but they find it out in different ways. The session looks at the reason of the
halt and at the run switch. The form looks at the reason, and at the run switch together with
the cycles. Since a program gives no reason while it runs, and runs on only at its limit,
they tell the same (`play_eq_runProgram`).
-/

set_option autoImplicit false

namespace RegisterMachine

open Machine

namespace Panels

/-- The line about the end of a run to a limit, if there is anything to tell. -/
def endLine (m : Machine) (limit : Int) : Option String :=
  if m.state.running then some (stopLine (toString limit)) else haltLine m

/-- The run switch can be read off that line. -/
theorem endLine_eq_stopLine_iff {m : Machine} {limit : Int} :
    endLine m limit = some (stopLine (toString limit)) ↔ m.state.running = true := by
  rw [endLine]
  cases m.state.running with
  | true => simp
  | false => simpa using haltLine_ne_stopLine m _

/-- A form that has run a program shows the machine at the end of the run. -/
theorem runProgram_of_ok {source : String} {program : List Int}
    (parsed : Source.parse source = .ok program) {size : Int} {cells : Nat}
    (counted : State.cellCount size = .ok cells) {limit : Int}
    (written : Numeral.writeDecimal limit = .ok (toString limit)) :
    let ran := ((powerOn cells (some limit)).load program).run.machine
    ∃ trace, runProgram source (.int size) (.int limit)
      = .ok { summary := ended ran (endLine ran limit), trace, state := ran.describe } := by
  intro ran
  have built : build (.int size) (some (.int limit)) = _ := build_of_ok rfl counted (some limit)
  have unheard := reliable_powerOn cells (some limit)
  have steps : ran = _ := unheard.run_load program rfl
  obtain ⟨trace, traced⟩ := exists_traceText_steps_load cells (some limit) program limit.toNat
  rw [← steps] at traced
  have summary : summaryText ran = .ok (ended ran (endLine ran limit)) := by
    rw [summaryText_run, written, endLine]
    split <;> rfl
  refine ⟨trace, ?_⟩
  simp only [runProgram, parsed, built, ok_bind, (unheard.load program).fault_run none]
  rw [ofMachine_eq traced, summary]
  rfl

end Panels

namespace CommandLine

open Panels

@[simp] theorem out_append (first second : Shown) :
    (first ++ second).out = first.out ++ second.out := rfl

@[simp] theorem out_logged (s : Settings) (events : List Event) : (s.logged events).out = "" := rfl

@[simp] theorem out_sayLine (text : String) : (sayLine text).out = text ++ "\n" := rfl

theorem nothing_append (shown : Shown) : {} ++ shown = shown :=
  congrArg₂ Shown.mk String.empty_append String.empty_append

variable {s : Settings}

/-- A session that needs no answer is its first turn. -/
theorem play_eq_begin {arguments : List String}
    (asked : Request.ofArguments arguments = .settings s)
    (finished : s.begin.1.waits = false) (answers : List String) :
    play arguments answers = s.begin := by
  simp only [play, Session.start_of_settings asked]
  rw [Session.playOn_of_ended finished]

namespace Settings

/-- A sink that had received nothing at the start shows what the steps have printed. -/
theorem printed_steps_load {size : Nat} (limit : Option Int) (program : List Int) (n : Nat) :
    let loaded := (powerOn size limit (some .reliable)).load program
    printed (received loaded) (loaded.steps n)
      = say (String.join ((loaded.steps n).output.toList.map printLine)) := by
  intro loaded
  obtain ⟨values, printed, -⟩ := exists_printed_steps (a := loaded) (b := loaded) rfl n
  have output : (loaded.steps n).output.toList = values := by
    rw [printed.output]
    rfl
  have sink : (loaded.steps n).sink = some (Sink.reliable.receiveAll values) := printed.sink
  rw [output, Settings.printed, sink]
  simp [received, Sink.receiveAll, Sink.reliable, loaded, Machine.load, powerOn]

/-- The settings of a session that runs the program in a text, and shows the state before and
after it. -/
structure RunsText (s : Settings) (source : String) (size limit : Int) : Prop where
  program : s.program = none
  given : s.source = some source
  text : source ≠ ""
  menu : s.menu = false
  step : s.step = false
  trace : s.trace = false
  quiet : s.quiet = false
  memorySize : s.memorySize = some size
  positive : 0 ≤ size
  maxCycles : s.maxCycles = some limit

variable {source : String} {size limit : Int}

/-- The session ends with the line about the end of the run. -/
theorem RunsText.conclude_eq (runs : s.RunsText source size limit) {m : Machine}
    (silent : m.state.running = true → m.haltReason = none) :
    s.conclude m =
      (.exited (if m.state.running then 1 else 0),
        say ((endLine m limit).elim "" (· ++ "\n"))) := by
  have details : s.details m = .ok {} := by
    rw [Settings.details, runs.trace, runs.quiet]
    rfl
  simp only [conclude, details, runs.quiet, runs.maxCycles, Option.elim_some, nothing_append,
    endLine, haltLine]
  cases goesOn : m.state.running with
  | true =>
    rw [silent goesOn]
    exact congrArg (Prod.mk _) (nothing_append _)
  | false => cases m.haltReason <;> rfl

theorem RunsText.begin_of_error (runs : s.RunsText source size limit) {cause : Source.ParseError}
    (failed : Source.parse source = .error cause) :
    s.begin = (.exited 1, sayLine ("Error: " ++ cause.message)) := by
  have possible : ¬ size < 0 := Int.not_lt.2 runs.positive
  simp [Settings.begin, runs.memorySize, possible, runs.menu, runs.program, runs.given,
    runs.text, Option.filter, failed]

theorem RunsText.begin_of_ok (runs : s.RunsText source size limit) {program : List Int}
    (parsed : Source.parse source = .ok program) :
    s.begin = before (sayLine "Running inline program") (s.execute program size) := by
  have possible : ¬ size < 0 := Int.not_lt.2 runs.positive
  simp [Settings.begin, runs.memorySize, possible, runs.menu, runs.program, runs.given,
    runs.text, Option.filter, parsed, unlessQuiet, runs.quiet]

/-- What the session does with the program. -/
theorem RunsText.execute_eq (runs : s.RunsText source size limit) (program : List Int)
    {cells : Nat} (counted : State.cellCount size = .ok cells) :
    let fresh := powerOn cells (some limit) (some .reliable)
    let loaded := fresh.load program
    s.execute program size =
      before
        (s.logged (fresh.loadEvents program)
          ++ (described loaded ++ sayLine "\n=== CPU Execution Started ==="
            ++ (printed (received loaded) loaded.run.machine ++ s.logged loaded.run.events.toList)
            ++ (sayLine "=== CPU Execution Finished ===\n" ++ described loaded.run.machine)))
        (s.conclude loaded.run.machine) := by
  intro fresh loaded
  have reliable : loaded.Reliable := Reliable.load (reliable_of_sink_eq rfl) program
  have completed := s.complete_of_reliable reliable
  simp only [runs.quiet, Bool.false_eq_true, if_false] at completed
  simp only [execute, create_eq, counted, runs.maxCycles, runs.quiet, runs.step,
    Bool.false_eq_true, if_false, Loose.mapError_ok, Except.map, Settings.load]
  rw [completed]
  rfl

/-- **The session of a program that can be loaded**, told of the machine that runs it without
a sink. The two machines are peers. -/
theorem RunsText.play_of_ok (runs : s.RunsText source size limit) {arguments : List String}
    (asked : Request.ofArguments arguments = .settings s) {program : List Int}
    (parsed : Source.parse source = .ok program) {cells : Nat}
    (counted : State.cellCount size = .ok cells) (answers : List String) :
    let loaded := (powerOn cells (some limit)).load program
    let ran := loaded.run.machine
    (play arguments answers).1 = .exited (if ran.state.running then 1 else 0) ∧
      (play arguments answers).2.out =
        "Running inline program\n" ++ loaded.describe ++ "\n"
          ++ "\n=== CPU Execution Started ===\n"
          ++ String.join (ran.output.toList.map printLine)
          ++ "=== CPU Execution Finished ===\n\n"
          ++ ran.describe ++ "\n"
          ++ (endLine ran limit).elim "" (· ++ "\n") := by
  intro loaded ran
  let shown := (powerOn cells (some limit) (some .reliable)).load program
  have heard : (powerOn cells (some limit) (some .reliable)).Reliable := reliable_of_sink_eq rfl
  have unheard := reliable_powerOn cells (some limit)
  have steps : shown.run.machine = shown.steps limit.toNat := heard.run_load program rfl
  have peers : shown.run.machine.Peers ran := by
    have otherSteps : ran = loaded.steps limit.toNat := unheard.run_load program rfl
    rw [otherSteps]
    exact peers_run_load program cells _ heard unheard
  have silent : shown.run.machine.state.running = true → shown.run.machine.haltReason = none := by
    rw [steps]
    exact haltReason_steps_load program _
  have sameEnd : endLine shown.run.machine limit = endLine ran limit := by
    rw [endLine, endLine, haltLine, haltLine, peers.state, peers.haltReason]
  have begins : s.begin = _ :=
    (runs.begin_of_ok parsed).trans (congrArg _ (runs.execute_eq program counted))
  rw [runs.conclude_eq silent, sameEnd] at begins
  have played := play_eq_begin asked (by rw [begins]; rfl) answers
  rw [begins] at played
  constructor
  · rw [played, ← peers.state]
    rfl
  · have lines : (printed (received shown) shown.run.machine).out
        = String.join (ran.output.toList.map printLine) := by
      rw [← peers.output, steps]
      exact congrArg Shown.out (printed_steps_load (some limit) program limit.toNat)
    have first : shown.describe = loaded.describe := rfl
    have last : shown.run.machine.describe = ran.describe := by
      rw [describe, peers.state]
      rfl
    rw [played]
    simp only [shown] at lines first last
    simp [before, described, lines, first, last, say, String.append_assoc]

end Settings

open Settings in
/-- **The command line and the form agree.** Let a session run the program in a text, which a
form runs with the same memory size and cycle limit. If the text is no program, the session
shows the line that is the summary of the form, and nothing runs. If there is no room for the
memory, both fail alike. Otherwise the session shows what is printed, one value in a line with
the register that it came from, and the list in the summary has the same values. Both show the
same state. The last line of the session is the one that ends the summary: it names the limit if
the program still runs, and else the reason of the halt; there is no such line after a halt
without a reason. The exit code is one if the limit stopped the program, and zero if it
halted. -/
theorem play_eq_runProgram {arguments : List String}
    (asked : Request.ofArguments arguments = .settings s) {source : String} {size limit : Int}
    (runs : s.RunsText source size limit) (answers : List String) :
    (∀ cause, Source.parse source = .error cause →
      play arguments answers =
        (.exited 1, { out := "Error: " ++ cause.message ++ "\n", log := "" }) ∧
      runProgram source (.int size) (.int limit) =
        .ok { summary := "Error: " ++ cause.message, trace := "", state := "" }) ∧
    ∀ program, Source.parse source = .ok program →
      (∀ cause, State.cellCount size = .error cause →
        (play arguments answers).1 = .failed (.creation (.size cause)) ∧
        runProgram source (.int size) (.int limit) = .error (.creation (.size cause))) ∧
      ∀ cells, State.cellCount size = .ok cells →
        let loaded := (powerOn cells (some limit)).load program
        let ran := loaded.run.machine
        let printed := ran.output.toList
        ∃ trace ending,
          runProgram source (.int size) (.int limit) = .ok
            { summary := "\n".intercalate
                ["EXECUTION SUMMARY",
                 "========================================",
                 "Cycles: " ++ toString ran.state.cycles,
                 "Running: " ++ (if ran.state.running then "Yes" else "No"),
                 "Output: [" ++ ", ".intercalate (printed.map fun e => toString e.value) ++ "]"]
                ++ ending.elim "" ("\n\n" ++ ·)
              trace
              state := ran.describe } ∧
          (play arguments answers).2.out =
            "Running inline program\n" ++ loaded.describe ++ "\n"
              ++ "\n=== CPU Execution Started ===\n"
              ++ String.join (printed.map fun e =>
                "PRINT " ++ e.register ++ ": " ++ toString e.value ++ "\n")
              ++ "=== CPU Execution Finished ===\n\n"
              ++ ran.describe ++ "\n"
              ++ ending.elim "" (· ++ "\n") ∧
          (ending = some ("Stopped: max cycles (" ++ toString limit ++ ") exceeded") ↔
            ran.state.running = true) ∧
          (ran.state.running = true → ran.haltReason = none) ∧
          (ran.state.running = false →
            ending = ran.haltReason.map fun reason => "Halted: " ++ reason.message) ∧
          (play arguments answers).1 = .exited (if ran.state.running then 1 else 0) := by
  constructor
  · intro cause failed
    have begins := runs.begin_of_error failed
    constructor
    · rw [play_eq_begin asked (by rw [begins]; rfl), begins]
      rfl
    · rw [runProgram, failed]
      rfl
  intro program parsed
  constructor
  · intro cause counted
    have executed : s.execute program size = (.failed (.creation (.size cause)), {}) := by
      simp only [execute, create_eq, counted, Loose.mapError_error, Except.map]
    have begins := runs.begin_of_ok parsed
    rw [executed] at begins
    have full : build (.int size) (some (.int limit)) = _ :=
      build_of_full rfl runs.positive counted (some limit)
    constructor
    · rw [play_eq_begin asked (by rw [begins]; rfl), begins]
      rfl
    · simp only [runProgram, parsed, full]
      rfl
  · intro cells counted loaded ran printed
    have written : Numeral.writeDecimal limit = .ok (toString limit) :=
      written_of_ofArguments asked limit (Option.mem_def.2 runs.maxCycles)
    obtain ⟨trace, shown⟩ := runProgram_of_ok parsed counted written
    obtain ⟨code, out⟩ := runs.play_of_ok asked parsed counted answers
    refine ⟨trace, endLine ran limit, shown, out, endLine_eq_stopLine_iff, ?silent, ?halted, code⟩
    case silent =>
      have steps : ran = loaded.steps limit.toNat := (reliable_powerOn cells _).run_load program rfl
      rw [steps]
      exact haltReason_steps_load program _
    case halted =>
      intro halted
      rw [endLine, halted, if_neg Bool.false_ne_true]
      rfl

open Settings in
/-- A program that prints and would halt next is stopped after two cycles. -/
theorem play_eq_runProgram_of_print :
    let arguments := ["--inline", "1, 0, 42, 11, 0, 12", "--memory-size", "6", "--max-cycles", "2"]
    let s : Settings :=
      { source := some "1, 0, 42, 11, 0, 12", memorySize := some 6, maxCycles := some 2 }
    let loaded := (powerOn 6 (some 2)).load [1, 0, 42, 11, 0, 12]
    let ran := loaded.run.machine
    Request.ofArguments arguments = .settings s ∧ s.RunsText "1, 0, 42, 11, 0, 12" 6 2 ∧
      (play arguments []).1 = .exited 1 ∧
      (play arguments []).2.out =
        "Running inline program\n" ++ loaded.describe ++ "\n"
          ++ "\n=== CPU Execution Started ===\n"
          ++ "PRINT AX: 42\n"
          ++ "=== CPU Execution Finished ===\n\n"
          ++ ran.describe ++ "\n"
          ++ "Stopped: max cycles (2) exceeded\n" ∧
      ∃ trace, runProgram "1, 0, 42, 11, 0, 12" (.int 6) (.int 2) = .ok
        { summary := "EXECUTION SUMMARY\n========================================\n"
            ++ "Cycles: 2\nRunning: Yes\nOutput: [42]\n\nStopped: max cycles (2) exceeded"
          trace
          state := ran.describe } := by
  intro arguments s loaded ran
  have asked : Request.ofArguments arguments = .settings s := by decide +kernel
  have runs : s.RunsText "1, 0, 42, 11, 0, 12" 6 2 :=
    ⟨rfl, rfl, by decide, rfl, rfl, rfl, rfl, rfl, by decide, rfl⟩
  have parsed : Source.parse "1, 0, 42, 11, 0, 12" = .ok [1, 0, 42, 11, 0, 12] := by decide +kernel
  have counted : State.cellCount 6 = .ok 6 := rfl
  have stopped : ran.state.running = true := by decide +kernel
  have cycles : ran.state.cycles = 2 := by decide +kernel
  have printed : ran.output.toList = [{ register := "AX", value := 42 }] := by decide +kernel
  obtain ⟨trace, ending, shown, out, ends, -, -, code⟩ :=
    ((play_eq_runProgram asked runs []).2 _ parsed).2 6 counted
  have last := ends.2 stopped
  refine ⟨asked, runs, ?_, ?_, trace, ?_⟩
  · rw [code, if_pos stopped]
  · have line : String.join ([{ register := "AX", value := 42 : Emission }].map fun e =>
        "PRINT " ++ e.register ++ ": " ++ toString e.value ++ "\n") = "PRINT AX: 42\n" := by decide
    have stop : "Stopped: max cycles (" ++ toString (2 : Int) ++ ") exceeded" ++ "\n"
        = "Stopped: max cycles (2) exceeded\n" := by decide
    rw [out, last, printed, line, Option.elim_some, stop]
  · rw [shown, last, stopped, cycles, printed]
    let panels (summary : String) : Except PanelError Panels :=
      .ok { summary, trace, state := ran.describe }
    refine congrArg panels ?_
    decide +kernel

end CommandLine

end RegisterMachine
