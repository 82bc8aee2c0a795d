import RegisterMachine.Proofs.Halting
import RegisterMachine.Proofs.Observation

/-!
# What a form shows

A form runs or steps a machine that nobody listens to, and fills three texts from what it
finds at the end. How the machine is driven makes no difference: peers, which differ at most
in their sinks and cycle limits, take the same steps, keep the same trace and print the same
(`Machine.Peers.steps`).

The summary begins with figures of the machine, the printed values among them
(`Panels.figures`), and ends with a line about the end of the run, if there is something to
tell (`Panels.summaryText_of_halted`, `Panels.summaryText_of_running`,
`Panels.summaryText_of_limit`). The other two texts are always there
(`Panels.ofMachine_eq`).
-/

set_option autoImplicit false

namespace RegisterMachine

namespace Machine

/-! ## Machines that differ in their observers -/

/-- Two machines that differ at most in their sinks, which do not fail, and in their cycle
limits. -/
structure Peers (a b : Machine) : Prop where
  state : a.state = b.state
  trace : a.trace = b.trace
  output : a.output = b.output
  recording : a.recording = b.recording
  haltReason : a.haltReason = b.haltReason
  reliable : a.Reliable
  alsoReliable : b.Reliable

variable {m a b : Machine}

/-- The trace after a step whose sink does not fail. -/
theorem trace_stepped_of_reliable (reliable : m.Reliable) :
    m.stepped.trace = m.report?.elim m.trace fun e =>
      if m.recording then m.trace.push e else m.trace := by
  rw [stepped, reliable.fault?_eq_none, Option.isSome_none, if_neg Bool.false_ne_true]
  cases m.report? with
  | none => exact m.trace_proceed
  | some e =>
    rw [record, recording_proceed, Option.elim_some, ← trace_proceed m]
    split <;> rfl

/-- **A step keeps machines peers.** -/
theorem Peers.stepped (peers : a.Peers b) : a.stepped.Peers b.stepped where
  state := by rw [state_stepped, state_stepped, peers.state]
  trace := by
    rw [trace_stepped_of_reliable peers.reliable, trace_stepped_of_reliable peers.alsoReliable,
      report?_congr peers.state peers.recording, peers.trace, peers.recording]
  output := by
    apply Array.toList_inj.1
    rw [a.printed_stepped.output, b.printed_stepped.output, peers.output, peers.state]
  recording := by rw [recording_stepped, recording_stepped, peers.recording]
  haltReason := by
    rw [haltReason_stepped, haltReason_stepped, haltReason_proceed, haltReason_proceed,
      peers.state, peers.haltReason]
  reliable := peers.reliable.stepped
  alsoReliable := peers.alsoReliable.stepped

theorem Peers.steps (peers : a.Peers b) (n : Nat) : (a.steps n).Peers (b.steps n) :=
  steps_related (fun _ _ peers => peers.stepped) peers n

/-- A machine to which nobody listens has no sink that could fail. -/
theorem reliable_powerOn (size : Nat) (limit : Option Int) : (powerOn size limit).Reliable := by
  intro sink present
  cases present

/-- Machines at power-on are peers if they have the same size, and stay so when the same
program is loaded. -/
theorem peers_load {first second : Option Sink} (size : Nat) (limit other : Option Int)
    (reliable : (powerOn size limit first).Reliable)
    (alsoReliable : (powerOn size other second).Reliable) (program : List Int) :
    ((powerOn size limit first).load program).Peers ((powerOn size other second).load program) where
  state := rfl
  trace := rfl
  output := rfl
  recording := rfl
  haltReason := rfl
  reliable := reliable.load program
  alsoReliable := alsoReliable.load program

/-! ## Machines at the end of a run -/

variable (program : List Int)

/-- A program that still runs has given no reason to halt. -/
theorem haltReason_steps_load (m : Machine) {n : Nat}
    (runs : ((m.load program).steps n).state.running = true) :
    ((m.load program).steps n).haltReason = none := by
  have explained : ((m.load program).steps n).Explained :=
    steps_induction (motive := Explained) (fun _ => Explained.stepped) (m.explained_load program) n
  exact explained.running runs

/-- A program that still runs after so many steps has counted so many cycles. -/
theorem cycles_steps_load (m : Machine) {n : Nat}
    (runs : ((m.load program).steps n).state.running = true) :
    ((m.load program).steps n).state.cycles = n := by
  rcases (m.load program).cycles_steps n with halted | counted
  · rw [runs] at halted
    cases halted
  · exact counted.trans (Nat.zero_add n)

/-- After a load every entry of the trace is complete. -/
theorem complete_entries_steps_load (m : Machine) (n : Nat) :
    ∀ e ∈ ((m.load program).steps n).entries, e.Complete := by
  have empty : ∀ e ∈ (m.load program).entries, e.Complete := by
    intro e present
    rw [entries_load] at present
    cases present
  exact steps_induction (motive := fun m => ∀ e ∈ m.entries, e.Complete)
    (fun m earlier => m.machine_step ▸ complete_entries_after earlier [.step]) empty n

/-- A run from a load takes as many steps as the limit has cycles. -/
theorem Reliable.run_load (reliable : m.Reliable) {limit : Int} (given : m.maxCycles = some limit) :
    (m.load program).run.machine = (m.load program).steps limit.toNat := by
  have bounded : (none <|> (m.load program).maxCycles) = some limit := given
  rw [(reliable.load program).run_eq_steps_of_limit bounded]
  have fresh : limit - (m.load program).state.cycles = limit := Int.sub_zero limit
  rw [fresh]

/-- A run to a limit leaves a peer of a machine that is stepped as often. -/
theorem peers_run_load {first second : Option Sink} (size : Nat) {limit : Int}
    (other : Option Int) (reliable : (powerOn size (some limit) first).Reliable)
    (alsoReliable : (powerOn size other second).Reliable) :
    ((powerOn size (some limit) first).load program).run.machine.Peers
      (((powerOn size other second).load program).steps limit.toNat) := by
  rw [reliable.run_load program rfl]
  exact (peers_load size _ _ reliable alsoReliable program).steps _

end Machine

/-! ## The summary -/

/-- Integers in a list stand in brackets, with commas between them. -/
theorem Value.quoted_ints (values : List Int) :
    (Value.list (values.map .int)).quoted
      = "[" ++ ", ".intercalate (values.map toString) ++ "]" := by
  have items : quotedItems (values.map .int) = values.map toString := by
    induction values with
    | nil => rfl
    | cons value rest ih => rw [List.map_cons, quotedItems, ih, quoted, List.map_cons]
  rw [quoted, items]

namespace Panels

open Machine

variable {m : Machine}

/-- The summary up to the line about the end of the run: the cycles, whether the machine runs, and
the printed values in order. -/
def figures (m : Machine) : String :=
  "\n".intercalate
    ["EXECUTION SUMMARY",
     "========================================",
     "Cycles: " ++ toString m.state.cycles,
     "Running: " ++ (if m.state.running then "Yes" else "No"),
     "Output: [" ++ ", ".intercalate (m.output.toList.map fun e => toString e.value) ++ "]"]

theorem figures_congr {a b : Machine} (peers : a.Peers b) : figures a = figures b := by
  simp only [figures, peers.state, peers.output]

/-- The list of a summary has the printed values. -/
theorem quoted_output (m : Machine) :
    "Output: " ++ (Value.list (m.summary.output.map .int)).quoted =
      "Output: [" ++ ", ".intercalate (m.output.toList.map fun e => toString e.value) ++ "]" := by
  have values : m.summary.output.map toString = m.output.toList.map fun e => toString e.value :=
    List.map_map
  rw [Value.quoted_ints, values, ← String.append_assoc, ← String.append_assoc]
  rfl

/-- A summary with a line about the end of the run, if there is one. It comes after an empty
line. -/
def ended (m : Machine) (ending : Option String) : String :=
  figures m ++ ending.elim "" ("\n\n" ++ ·)

theorem summaryText_of_endLines (ending : Except Numeral.NumeralError (Option String))
    (told : endLines m = ending.map fun line => (line.map ("\n" ++ ·)).toList) :
    summaryText m = ending.map (ended m) := by
  have rule : Report.rule 40 = "========================================" := by decide
  rw [summaryText, told, rule, quoted_output]
  rcases ending with cause | _ | line
  · rfl
  · exact congrArg Except.ok String.append_empty.symm
  · have blank : "\n\n" = "\n" ++ "\n" := by decide
    have appended : figures m ++ "\n" ++ ("\n" ++ line) = figures m ++ ("\n\n" ++ line) := by
      simp only [blank, String.append_assoc]
    exact congrArg Except.ok appended

/-- The line about a halt that the machine gives a reason for. -/
def haltLine (m : Machine) : Option String :=
  m.haltReason.map fun reason => "Halted: " ++ reason.message

/-- A halted machine shows its reason, if it has one. -/
theorem summaryText_of_halted (halted : m.state.running = false) :
    summaryText m = .ok (ended m (haltLine m)) := by
  refine summaryText_of_endLines (.ok _) ?_
  unfold endLines haltLine
  cases m.haltReason with
  | some reason =>
    have line : "\nHalted: " ++ reason.message = "\n" ++ ("Halted: " ++ reason.message) := by
      rw [← String.append_assoc]
      rfl
    simp only [Option.map_some, Option.toList, line]
    rfl
  | none => cases m.maxCycles <;> simp [halted] <;> rfl

/-- A running machine without a limit shows nothing about its end. -/
theorem summaryText_of_running (silent : m.haltReason = none) (unlimited : m.maxCycles = none) :
    summaryText m = .ok (ended m none) := by
  refine summaryText_of_endLines (.ok none) ?_
  simp only [endLines, silent, unlimited]
  rfl

/-- The line about a run that its limit stopped. -/
def stopLine (limit : String) : String := "Stopped: max cycles (" ++ limit ++ ") exceeded"

/-- A halt is told in another way than a stop. -/
theorem haltLine_ne_stopLine (m : Machine) (limit : String) :
    haltLine m ≠ some (stopLine limit) := by
  intro same
  obtain ⟨reason, -, line⟩ := Option.map_eq_some_iff.1 same
  have letters : ("Halted: " ++ reason.message).toList
      = ("Stopped: max cycles (" ++ limit ++ ") exceeded").toList := congrArg String.toList line
  simp at letters

theorem line_break_stopLine (limit : String) :
    "\n" ++ stopLine limit = "\nStopped: max cycles (" ++ limit ++ ") exceeded" := by
  have blank : "\n" ++ "Stopped: max cycles (" = "\nStopped: max cycles (" := by decide
  calc "\n" ++ ("Stopped: max cycles (" ++ limit ++ ") exceeded")
      = "\n" ++ "Stopped: max cycles (" ++ limit ++ ") exceeded" := by
        simp only [String.append_assoc]
    _ = "\nStopped: max cycles (" ++ limit ++ ") exceeded" :=
        congrArg (· ++ limit ++ ") exceeded") blank

/-- A machine that runs at its limit shows the limit, if that can be written. -/
theorem summaryText_of_limit (runs : m.state.running = true) (silent : m.haltReason = none)
    {limit : Int} (limited : m.maxCycles = some limit) (reached : limit ≤ m.state.cycles) :
    summaryText m
      = (Numeral.writeDecimal limit).map fun digits => ended m (some (stopLine digits)) := by
  have told : endLines m = ((Numeral.writeDecimal limit).map fun digits =>
      some (stopLine digits)).map fun line => (line.map ("\n" ++ ·)).toList := by
    simp only [endLines, silent, limited, runs, reached, and_self, if_true]
    cases Numeral.writeDecimal limit with
    | error cause => rfl
    | ok digits => exact congrArg (fun line => Except.ok [line]) (line_break_stopLine digits).symm
  rw [summaryText_of_endLines _ told]
  cases Numeral.writeDecimal limit <;> rfl

/-- **The summary of a run to a limit** tells that the limit stopped it, or why it halted. -/
theorem summaryText_run (cells : Nat) (limit : Int) (program : List Int) :
    let ran := ((powerOn cells (some limit)).load program).run.machine
    summaryText ran =
      if ran.state.running then
        (Numeral.writeDecimal limit).map fun digits => ended ran (some (stopLine digits))
      else .ok (ended ran (haltLine ran)) := by
  intro ran
  have steps : ran = ((powerOn cells (some limit)).load program).steps limit.toNat :=
    (reliable_powerOn cells _).run_load program rfl
  cases runs : ran.state.running with
  | false => exact summaryText_of_halted runs
  | true =>
    rw [steps] at runs
    have silent : ran.haltReason = none := by
      rw [steps]
      exact haltReason_steps_load program _ runs
    have limited : ran.maxCycles = some limit := by
      rw [steps]
      exact steps_induction (motive := fun m => m.maxCycles = some limit)
        (fun m same => m.maxCycles_stepped.trans same) rfl limit.toNat
    have reached : limit ≤ ran.state.cycles := by
      rw [steps, cycles_steps_load program _ runs]
      exact Int.self_le_toNat limit
    exact summaryText_of_limit (steps ▸ runs) silent limited reached

/-! ## The other texts -/

/-- The texts about a machine, given that about its trace. -/
theorem ofMachine_eq {trace : String} (shown : traceText m.entries = .ok trace) :
    ofMachine m = ((summaryText m).mapError .numeral).map fun summary =>
      { summary, trace, state := m.describe } := by
  rw [ofMachine, shown]
  cases summaryText m <;> rfl

/-- After a load the trace can always be shown: its entries are complete, and there are so
few of them that the number of those left out can be written. -/
theorem exists_traceText_steps_load (size : Nat) (limit : Option Int) (program : List Int)
    (n : Nat) :
    ∃ trace, traceText (((powerOn size limit).load program).steps n).entries = .ok trace := by
  let start := (powerOn size limit).load program
  have complete : ∀ e ∈ (start.steps n).entries, e.Complete :=
    complete_entries_steps_load program _ n
  have kept : (start.steps n).trace.limit = defaultTraceLimit :=
    steps_induction (motive := fun m => m.trace.limit = defaultTraceLimit)
      (fun m same => m.limit_stepped.trans same) rfl n
  refine traceText_of_complete complete ?_
  have few := Recent.length_le_limit (start.steps n).trace
  rw [kept, ← Recent.length_toList] at few
  simp only [entries, defaultTraceLimit, Memory.countable, defaultTraceEntries] at few ⊢
  omega

/-! ## The fields of the form -/

section Build

variable {memorySize : Value} {size : Int}

/-- With a size that can be read, a form gets its machine if there is one. -/
theorem build_of_created (read : field memorySize State.defaultMemorySize = .ok size)
    {maxCycles : Option Int} {m : Machine} (created : Machine.create size maxCycles = .ok m) :
    build memorySize (maxCycles.map .int) = .ok (.ok m) := by
  unfold build
  rw [read]
  cases maxCycles <;>
    simp only [Option.map_none, Option.map_some, ok_bind, pure_eq_ok, field, Value.toInt, created]

theorem build_of_refused (read : field memorySize State.defaultMemorySize = .ok size)
    {maxCycles : Option Int} {cause : CreationError}
    (refused : Machine.create size maxCycles = .error cause) :
    build memorySize (maxCycles.map .int) =
      if isCreationShown cause then .ok (.error (refusal cause.message))
      else .error (.creation cause) := by
  unfold build
  rw [read]
  cases maxCycles <;>
    simp only [Option.map_none, Option.map_some, ok_bind, pure_eq_ok, field, Value.toInt, refused]

theorem build_of_ok (read : field memorySize State.defaultMemorySize = .ok size) {cells : Nat}
    (counted : State.cellCount size = .ok cells) (maxCycles : Option Int) :
    build memorySize (maxCycles.map .int) = .ok (.ok (powerOn cells maxCycles)) := by
  refine build_of_created read ?_
  rw [create_eq, counted]
  rfl

/-- A negative size shows in the summary. -/
theorem build_of_negative (read : field memorySize State.defaultMemorySize = .ok size)
    (negative : size < 0) (maxCycles : Option Int) :
    build memorySize (maxCycles.map .int)
      = .ok (.error (refusal (CreationError.size (.negative size)).message)) := by
  have counted : State.cellCount size = .error (.negative size) := if_pos negative
  have refused : Machine.create size maxCycles = .error (.size (.negative size)) := by
    rw [create_eq, counted]
    rfl
  exact (build_of_refused read refused).trans (if_pos rfl)

/-- A memory for which there is no room is an error of the form itself. -/
theorem build_of_full (read : field memorySize State.defaultMemorySize = .ok size)
    (possible : 0 ≤ size) {cause : SizeError} (counted : State.cellCount size = .error cause)
    (maxCycles : Option Int) :
    build memorySize (maxCycles.map .int) = .error (.creation (.size cause)) := by
  have refused : Machine.create size maxCycles = .error (.size cause) := by
    rw [create_eq, counted]
    rfl
  rw [build_of_refused read refused]
  cases cause with
  | negative other =>
    rw [State.cellCount, if_neg (Int.not_lt.2 possible)] at counted
    split_ifs at counted
    all_goals cases counted
  | notANumberOfCells => rfl
  | noRoom => rfl

end Build

end Panels

end RegisterMachine
