import RegisterMachine.Proofs.Form

/-!
# Stepping and running in a form

A form runs a program to a number of cycles, or loads it and takes a step whenever its
button is pressed. The steps of a run are counted by cycles, and the last step before an
abnormal halt counts none, so presses and cycles are not the same. But a run that is stopped
by its limit has counted a cycle in each of its steps, and one that halts is not changed by
more presses. So as many presses as the limit has cycles show the same as the run
(`Panels.press_eq_runProgram`).

The two machines are peers. Only the summary tells them apart, since it names the limit of a
machine that has reached it.
-/

set_option autoImplicit false

namespace RegisterMachine

namespace Panels

open Machine

/-- What the form shows after its button was pressed so many times. -/
def press (loaded : Loaded) : Nat → Except PanelError Loaded
  | 0 => .ok loaded
  | n + 1 => do
    let earlier ← press loaded n
    stepOnce earlier.1

/-- A press steps the machine, whose sink does not fail, and shows it afterwards. -/
theorem stepOnce_eq {m : Machine} (reliable : m.Reliable) :
    stepOnce (some m) = (ofMachine m.stepped).map fun texts => (some m.stepped, texts) := by
  simp only [stepOnce, reliable.result_step, machine_step]
  cases ofMachine m.stepped <;> rfl

section Stepped

variable (cells : Nat) (program : List Int)

/-- A machine that is stepped shows its halt, and nothing else about its end. -/
theorem summaryText_steps (n : Nat) :
    let m := ((powerOn cells).load program).steps n
    summaryText m = .ok (ended m (haltLine m)) := by
  intro m
  cases runs : m.state.running with
  | false => exact summaryText_of_halted runs
  | true =>
    have silent : m.haltReason = none := haltReason_steps_load program _ runs
    have unlimited : m.maxCycles = none :=
      steps_induction (motive := fun m => m.maxCycles = none)
        (fun m same => m.maxCycles_stepped.trans same) rfl n
    rw [haltLine, silent]
    exact summaryText_of_running silent unlimited

/-- All texts about a machine that is stepped. -/
theorem exists_ofMachine_steps (n : Nat) :
    let m := ((powerOn cells).load program).steps n
    ∃ trace, traceText m.entries = .ok trace ∧
      ofMachine m = .ok { summary := ended m (haltLine m), trace, state := m.describe } := by
  intro m
  obtain ⟨trace, shown⟩ := exists_traceText_steps_load cells none program n
  refine ⟨trace, shown, ?_⟩
  rw [ofMachine_eq shown, summaryText_steps]
  rfl

/-- **Every press takes a step**, and none fails. -/
theorem exists_press_eq (first : Panels) (n : Nat) :
    ∃ texts, press (some ((powerOn cells).load program), first) n
        = .ok (some (((powerOn cells).load program).steps n), texts) ∧
      (0 < n → ofMachine (((powerOn cells).load program).steps n) = .ok texts) := by
  induction n with
  | zero => exact ⟨first, rfl, fun positive => absurd positive (Nat.lt_irrefl 0)⟩
  | succ n ih =>
    obtain ⟨earlier, pressed, -⟩ := ih
    obtain ⟨trace, -, shown⟩ := exists_ofMachine_steps cells program (n + 1)
    have unheard : ((powerOn cells).load program).Reliable :=
      (reliable_powerOn cells none).load program
    refine ⟨_, ?_, fun _ => shown⟩
    rw [press, pressed, ok_bind, stepOnce_eq (unheard.steps n), ← steps_succ_eq, shown]
    rfl

/-- **A run to a limit shows what is shown of the machine that was stepped as often**, except
that it names the limit if the machine still runs. -/
theorem ofMachine_run_eq {n : Nat} {texts : Panels}
    (shown : ofMachine (((powerOn cells).load program).steps n) = .ok texts) :
    let stepped := ((powerOn cells).load program).steps n
    ofMachine ((powerOn cells (some n)).load program).run.machine =
      if stepped.state.running then
        ((Numeral.writeDecimal n).mapError .numeral).map fun digits =>
          { texts with summary := texts.summary ++ "\n\n" ++ stopLine digits }
      else .ok texts := by
  intro stepped
  obtain ⟨trace, traced, same⟩ := exists_ofMachine_steps cells program n
  obtain rfl := Except.ok.inj (shown.symm.trans same)
  have peers : ((powerOn cells (some n)).load program).run.machine.Peers stepped :=
    peers_run_load program cells none (reliable_powerOn cells _) (reliable_powerOn cells _)
  have entries : ((powerOn cells (some n)).load program).run.machine.entries = stepped.entries :=
    congrArg Recent.toList peers.trace
  have running := congrArg State.running peers.state
  rw [ofMachine_eq (entries ▸ traced), describe, peers.state, summaryText_run, running]
  cases runs : stepped.state.running with
  | false =>
    simp only [Bool.false_eq_true, if_false, ended, figures_congr peers, haltLine, peers.haltReason]
    rfl
  | true =>
    have silent : stepped.haltReason = none := haltReason_steps_load program _ runs
    cases Numeral.writeDecimal n with
    | error cause => rfl
    | ok digits =>
      have summary : ended ((powerOn cells (some n)).load program).run.machine
            (some (stopLine digits))
          = ended stepped (haltLine stepped) ++ "\n\n" ++ stopLine digits := by
        rw [ended, ended, figures_congr peers, haltLine, silent]
        simp only [Option.map_none, Option.elim_none, Option.elim_some, String.append_empty,
          String.append_assoc]
      simp only [Loose.mapError_ok, Except.map, summary, if_true]
      rfl

end Stepped

/-- **Stepping in a form equals running in it.** Let a program text and a memory size be given
that is an integer or left out. If the text is no program or the size is negative, loading
the program gives no machine and the same texts as running it, which are an error in the
summary and nothing else. If there is no room for the memory, both fail alike. Otherwise so
many presses after loading show the same as a run to so many cycles. Only if the program
still runs does the summary of the run go on, and names the limit. That fails for no limit
but one with more digits than can be written. -/
theorem press_eq_runProgram (source : String) {memorySize : Value} {size : Int}
    (read : field memorySize State.defaultMemorySize = .ok size) {n : Nat} (positive : 0 < n) :
    (∀ cause, Source.parse source = .error cause →
      startStepping source memorySize = .ok (none, refusal cause.message) ∧
      runProgram source memorySize (.int n) = .ok (refusal cause.message)) ∧
    ∀ program, Source.parse source = .ok program →
      (size < 0 → ∃ texts, texts.trace = "" ∧ texts.state = "" ∧
        startStepping source memorySize = .ok (none, texts) ∧
        runProgram source memorySize (.int n) = .ok texts) ∧
      (0 ≤ size → ∀ cause, State.cellCount size = .error cause →
        startStepping source memorySize = .error (.creation (.size cause)) ∧
        runProgram source memorySize (.int n) = .error (.creation (.size cause))) ∧
      ∀ cells, State.cellCount size = .ok cells →
        let loaded := (powerOn cells).load program
        ∃ first texts,
          startStepping source memorySize = .ok (some loaded, first) ∧
          press (some loaded, first) n = .ok (some (loaded.steps n), texts) ∧
          runProgram source memorySize (.int n) =
            if (loaded.steps n).state.running then
              ((Numeral.writeDecimal n).mapError .numeral).map fun digits =>
                { texts with summary := texts.summary ++ "\n\n" ++ stopLine digits }
            else .ok texts := by
  constructor
  · intro cause failed
    simp only [startStepping, runProgram, failed, and_self]
  intro program parsed
  refine ⟨?negative, ?full, ?built⟩
  case negative =>
    intro negative
    have stepping : build memorySize none = _ := build_of_negative read negative none
    have running : build memorySize (some (.int n)) = _ :=
      build_of_negative read negative (some n)
    refine ⟨refusal (CreationError.size (.negative size)).message, rfl, rfl, ?_, ?_⟩
    · simp only [startStepping, parsed, stepping]
      rfl
    · simp only [runProgram, parsed, running]
      rfl
  case full =>
    intro possible cause counted
    have stepping : build memorySize none = _ := build_of_full read possible counted none
    have running : build memorySize (some (.int n)) = _ :=
      build_of_full read possible counted (some n)
    simp only [startStepping, runProgram, parsed, stepping, running]
    exact ⟨rfl, rfl⟩
  case built =>
    intro cells counted loaded
    have stepping : build memorySize none = _ := build_of_ok read counted none
    have running : build memorySize (some (.int n)) = _ := build_of_ok read counted (some n)
    let first : Panels :=
      { summary := ended loaded (haltLine loaded), state := loaded.describe }
    have summary : summaryText loaded = .ok first.summary := summaryText_steps cells program 0
    obtain ⟨texts, pressed, shown⟩ := exists_press_eq cells program first n
    refine ⟨first, texts, ?_, pressed, ?_⟩
    · simp only [startStepping, parsed, stepping, ok_bind]
      rw [summary]
      rfl
    · rw [← ofMachine_run_eq cells program (shown positive)]
      have unheard := (reliable_powerOn cells (some (n : Int))).load program
      simp only [runProgram, parsed, running, ok_bind, unheard.fault_run none]

/-- A program that prints and halts, stopped before the halt by one press and one cycle. -/
theorem press_eq_runProgram_of_print :
    field (.int 3) State.defaultMemorySize = .ok 3 ∧ 0 < 1 ∧
      let loaded := (powerOn 3).load [11, 4, 12]
      (loaded.steps 1).state.running = true ∧
      ∃ first texts,
        startStepping "11, 4, 12" (.int 3) = .ok (some loaded, first) ∧
        press (some loaded, first) 1 = .ok (some (loaded.steps 1), texts) ∧
        runProgram "11, 4, 12" (.int 3) (.int 1)
          = .ok { texts with summary := texts.summary ++ "\n\n" ++ stopLine "1" } := by
  have parsed : Source.parse "11, 4, 12" = .ok [11, 4, 12] := by decide +kernel
  have runs : (((powerOn 3).load [11, 4, 12]).steps 1).state.running = true := by decide
  have read : field (.int 3) State.defaultMemorySize = .ok 3 := rfl
  obtain ⟨first, texts, loads, presses, shown⟩ :=
    ((press_eq_runProgram "11, 4, 12" read (by decide : 0 < 1)).2 _ parsed).2.2 3 rfl
  refine ⟨read, by decide, runs, first, texts, loads, presses, ?_⟩
  have one : Numeral.writeDecimal ((1 : Nat) : Int) = .ok "1" := by decide +kernel
  rw [if_pos runs, one] at shown
  exact shown

end Panels

end RegisterMachine
