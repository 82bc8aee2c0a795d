import RegisterMachine.Proofs.FrontEnds

/-!
# Transcripts

A session that is played against a list of answers waits at a number of phases, ends in one,
and shows texts on the way. The transcript holds all three (`Settings.transcript`). The
transcript of a turn is its text followed by the transcript of what comes next, so transcripts
are put together from pieces.

A piece is the stepping through a machine. Before each step the session waits for the Enter
key, and it goes on until the machine has halted or no answer comes. So it waits once for each
step up to the halt, and if there are too few answers, once more
(`stepping_halts_or_stops`).
-/

set_option autoImplicit false

namespace RegisterMachine

namespace Machine

theorem HaltsAt.stepped {m : Machine} {n : Nat} (halts : m.HaltsAt (n + 1)) :
    m.stepped.HaltsAt n where
  halted := by
    rw [← steps_succ]
    exact halts.halted
  running k below := by
    rw [← steps_succ]
    exact halts.running (k + 1) (Nat.succ_lt_succ below)

/-- A machine halts within so many steps, or is still running after them. -/
theorem running_or_haltsAt (m : Machine) (n : Nat) :
    (m.steps n).state.running = true ∨ ∃ h ≤ n, m.HaltsAt h := by
  cases runs : (m.steps n).state.running with
  | true => exact .inl rfl
  | false =>
    obtain ⟨h, halts⟩ := halts_of_stopped runs
    refine .inr ⟨h, ?_, halts⟩
    by_contra beyond
    rw [halts.running n (Nat.lt_of_not_le beyond)] at runs
    cases runs

end Machine

namespace CommandLine

open Machine

/-! ## Transcripts -/

/-- What comes of a session: the phases at which it waits for an answer, also for the one that
does not come, the phase in which it ends, and the texts that it shows. -/
structure Transcript where
  prompts : List Phase
  last : Phase
  shown : Shown

/-- A transcript with prompts and texts before it. -/
def Transcript.after (prompts : List Phase) (shown : Shown) (t : Transcript) : Transcript where
  prompts := prompts ++ t.prompts
  last := t.last
  shown := shown ++ t.shown

theorem append_nothing (shown : Shown) : shown ++ ({} : Shown) = shown :=
  congrArg₂ Shown.mk String.append_empty String.append_empty

theorem shown_append_assoc (first second third : Shown) :
    first ++ second ++ third = first ++ (second ++ third) :=
  congrArg₂ Shown.mk String.append_assoc String.append_assoc

theorem before_before (first second : Shown) (turn : Turn) :
    before first (before second turn) = before (first ++ second) turn :=
  congrArg (Prod.mk _) (shown_append_assoc _ _ _).symm

theorem Transcript.after_after (first second : List Phase) (one two : Shown) (t : Transcript) :
    .after first one (.after second two t) = Transcript.after (first ++ second) (one ++ two) t := by
  simp only [after, List.append_assoc, shown_append_assoc]

theorem Transcript.after_nothing (t : Transcript) : .after [] {} t = t := by
  simp only [after, List.nil_append, nothing_append]

namespace Settings

variable (s : Settings)

/-- The transcript of a session from a turn on, played against a list of answers. When they run
out, none comes. -/
def transcript (turn : Turn) : List String → Transcript
  | [] =>
    if turn.1.waits then
      let (last, shown) := s.answer turn.1 none
      { prompts := [turn.1], last, shown := turn.2 ++ shown }
    else { prompts := [], last := turn.1, shown := turn.2 }
  | given :: rest =>
    if turn.1.waits then
      .after [turn.1] turn.2 (transcript (s.answer turn.1 (some given)) rest)
    else { prompts := [], last := turn.1, shown := turn.2 }

variable {s} {turn : Turn}

theorem transcript_of_ended (finished : turn.1.waits = false) (answers : List String) :
    s.transcript turn answers = { prompts := [], last := turn.1, shown := turn.2 } := by
  cases answers <;> simp [transcript, finished]

theorem transcript_nil (waits : turn.1.waits = true) :
    s.transcript turn [] =
      { prompts := [turn.1], last := (s.answer turn.1 none).1,
        shown := turn.2 ++ (s.answer turn.1 none).2 } := by
  rw [transcript, if_pos waits]

theorem transcript_cons (waits : turn.1.waits = true) (given : String) (rest : List String) :
    s.transcript turn (given :: rest) =
      .after [turn.1] turn.2 (s.transcript (s.answer turn.1 (some given)) rest) := by
  rw [transcript, if_pos waits]

theorem transcript_before (shown : Shown) (turn : Turn) (answers : List String) :
    s.transcript (before shown turn) answers = .after [] shown (s.transcript turn answers) := by
  have phase : (before shown turn).1 = turn.1 := rfl
  cases waits : turn.1.waits with
  | false =>
    rw [transcript_of_ended (phase ▸ waits), transcript_of_ended waits]
    rfl
  | true =>
    cases answers with
    | nil =>
      rw [transcript_nil (phase ▸ waits), transcript_nil waits]
      simp only [before, Transcript.after, List.nil_append, shown_append_assoc]
    | cons given rest =>
      rw [transcript_cons (phase ▸ waits), transcript_cons waits, Transcript.after_after]
      rfl

/-- **Answers that are not read make no difference.** -/
theorem transcript_append {answers : List String}
    (enough : (s.transcript turn answers).prompts.length ≤ answers.length) (more : List String) :
    s.transcript turn (answers ++ more) = s.transcript turn answers := by
  induction answers generalizing turn with
  | nil =>
    cases waits : turn.1.waits with
    | false => rw [transcript_of_ended waits, transcript_of_ended waits]
    | true =>
      rw [transcript_nil waits] at enough
      cases enough
  | cons given rest ih =>
    cases waits : turn.1.waits with
    | false => rw [transcript_of_ended waits, transcript_of_ended waits]
    | true =>
      rw [transcript_cons waits] at enough
      rw [List.cons_append, transcript_cons waits, transcript_cons waits]
      exact congrArg _ (ih (Nat.le_of_succ_le_succ (by simpa [Transcript.after] using enough)))

/-- **The transcript is what the session comes to.** -/
theorem playOn_eq_transcript (turn : Turn) (answers : List String) :
    Session.playOn { settings := s, phase := turn.1 } turn.2 answers =
      ({ settings := s, phase := (s.transcript turn answers).last },
        (s.transcript turn answers).shown) := by
  induction answers generalizing turn with
  | nil =>
    rw [Session.playOn, transcript]
    split <;> rfl
  | cons given rest ih =>
    rw [Session.playOn]
    cases waits : turn.1.waits with
    | false =>
      rw [transcript_of_ended waits]
      rfl
    | true =>
      have next := ih (before turn.2 (s.answer turn.1 (some given)))
      rw [transcript_before] at next
      rw [transcript_cons waits]
      exact next

theorem play_eq_transcript {arguments : List String}
    (asked : Request.ofArguments arguments = .settings s) (answers : List String) :
    play arguments answers =
      ((s.transcript s.begin answers).last, (s.transcript s.begin answers).shown) := by
  simp only [play, Session.start_of_settings asked, playOn_eq_transcript]

end Settings

/-! ## Stepping -/

/-- The text that asks for the Enter key before the step of that number. -/
def stepPrompt (number : Nat) : Shown :=
  say ("\n--- Step " ++ toString number ++ " ---\nPress Enter to continue...")

/-- The prompts before so many steps of a machine, which are numbered from the given number on. -/
def stepPrompts (m : Machine) (number : Nat) (inMenu : Bool) (n : Nat) : List Phase :=
  (List.range n).map fun i => .stepping (m.steps i) (number + i) inMenu

theorem stepPrompts_succ (m : Machine) (number : Nat) (inMenu : Bool) (n : Nat) :
    stepPrompts m number inMenu (n + 1) =
      [.stepping m number inMenu] ++ stepPrompts m.stepped (number + 1) inMenu n := by
  rw [stepPrompts, List.range_succ_eq_map, List.map_cons, List.map_map]
  refine congrArg (_ :: ·) (List.map_congr_left fun i _ => ?_)
  simp only [Function.comp_apply, steps_succ, Nat.succ_eq_add_one, Nat.add_right_comm number 1,
    Nat.add_assoc]

namespace Settings

variable (s : Settings)

/-- What a session shows when it takes one step of a machine. -/
def stepShown (m : Machine) : Shown :=
  printed (received m) m.step.machine ++ s.logged m.step.events
    ++ stepReport m.report? m.step.machine

/-- What a session shows when it asks for so many steps, and takes them. The steps are numbered
from the given number on. -/
def stepsShown (m : Machine) (number : Nat) : Nat → Shown
  | 0 => {}
  | n + 1 => stepPrompt number ++ (s.stepShown m ++ stepsShown m.step.machine (number + 1) n)

variable {s} {m : Machine} {number : Nat} {inMenu : Bool}

theorem awaitStep_of_running (runs : m.state.running = true) :
    s.awaitStep m number inMenu = (.stepping m number inMenu, stepPrompt number) :=
  if_pos runs

theorem awaitStep_of_halted (halted : m.state.running = false) :
    s.awaitStep m number inMenu = s.afterStepping m inMenu :=
  if_neg (Bool.eq_false_iff.1 halted)

/-- **After a step the session goes on as after the step before.** -/
theorem transcript_awaitStep_cons (reliable : m.Reliable) (runs : m.state.running = true)
    (given : String) (rest : List String) :
    s.transcript (s.awaitStep m number inMenu) (given :: rest) =
      .after [.stepping m number inMenu] (stepPrompt number ++ s.stepShown m)
        (s.transcript (s.awaitStep m.stepped (number + 1) inMenu) rest) := by
  have taken : s.answer (.stepping m number inMenu) (some given)
      = before (s.stepShown m) (s.awaitStep m.stepped (number + 1) inMenu) := by
    simp only [Settings.answer, takeStep, reliable.result_step, stepShown, machine_step]
  rw [awaitStep_of_running runs, transcript_cons rfl]
  simp only [taken, transcript_before, Transcript.after_after, List.append_nil]

/-- **A machine that halts is stepped up to the halt.** -/
theorem transcript_awaitStep_of_haltsAt {h : Nat} (reliable : m.Reliable) (halts : m.HaltsAt h)
    {answers : List String} (enough : h ≤ answers.length) :
    s.transcript (s.awaitStep m number inMenu) answers =
      .after (stepPrompts m number inMenu h) (s.stepsShown m number h)
        (s.transcript (s.afterStepping (m.steps h) inMenu) (answers.drop h)) := by
  induction h generalizing m number answers with
  | zero =>
    have halted : m.state.running = false := halts.halted
    rw [awaitStep_of_halted halted]
    exact (Transcript.after_nothing _).symm
  | succ h ih =>
    obtain ⟨given, rest, rfl⟩ := List.exists_cons_of_length_pos (Nat.zero_lt_of_lt enough)
    rw [transcript_awaitStep_cons reliable (halts.running 0 (Nat.succ_pos h)),
      ih reliable.stepped halts.stepped (Nat.le_of_succ_le_succ enough), Transcript.after_after,
      stepPrompts_succ, steps_succ, stepsShown, machine_step, shown_append_assoc]
    rfl

/-- **A machine that goes on is stepped until no answer comes.** -/
theorem transcript_awaitStep_of_running (reliable : m.Reliable) {answers : List String}
    (runs : (m.steps answers.length).state.running = true) :
    s.transcript (s.awaitStep m number inMenu) answers =
      { prompts := stepPrompts m number inMenu (answers.length + 1)
        last := .exited 0
        shown := s.stepsShown m number answers.length ++ stepPrompt (number + answers.length)
          ++ (abandonStepping inMenu).2 } := by
  induction answers generalizing m number with
  | nil =>
    have waits : m.state.running = true := runs
    rw [awaitStep_of_running waits, transcript_nil rfl]
    have prompt : s.stepsShown m number 0 ++ stepPrompt (number + 0) = stepPrompt number :=
      nothing_append _
    rw [List.length_nil, prompt]
    cases inMenu <;> rfl
  | cons given rest ih =>
    rw [List.length_cons, steps_succ] at runs
    have waits : m.state.running = true := by
      by_contra halted
      have idle := stepped_of_stopped (Bool.eq_false_iff.2 halted)
      rw [idle, steps_of_stopped (Bool.eq_false_iff.2 halted)] at runs
      exact halted runs
    have numbered : number + 1 + rest.length = number + (rest.length + 1) := by omega
    rw [transcript_awaitStep_cons reliable waits, ih reliable.stepped runs, List.length_cons,
      stepPrompts_succ m number, stepsShown, machine_step, numbered]
    simp only [Transcript.after, shown_append_assoc]

/-- The settings of a session that steps through a program on so many cells. The program is an
example, or it is read from a text. -/
structure StepsProgram (s : Settings) (program : List Int) (cells : Nat) : Prop where
  step : s.step = true
  menu : s.menu = false
  given : (∃ e : Example, s.program = some e ∧ e.cells = program) ∨
    s.program = none ∧ ∃ source, s.source = some source ∧ source ≠ "" ∧
      Source.parse source = .ok program
  room : ∃ size, s.memorySize = some size ∧ State.cellCount size = .ok cells

/-- The machine on which the session runs its program, before the program is loaded. -/
def fresh (s : Settings) (cells : Nat) : Machine :=
  powerOn cells s.maxCycles (if s.quiet then none else some .reliable)

variable {program : List Int} {cells : Nat}

theorem reliable_fresh (s : Settings) (cells : Nat) : (s.fresh cells).Reliable := by
  unfold fresh
  cases s.quiet with
  | true => exact reliable_powerOn cells s.maxCycles
  | false => exact reliable_of_sink_eq rfl

theorem execute_of_step (step : s.step = true) {size : Int}
    (counted : State.cellCount size = .ok cells) (program : List Int) :
    s.execute program size = before (s.logged ((s.fresh cells).loadEvents program))
      (s.beginStepping ((s.fresh cells).load program) false) := by
  simp only [execute, create_eq, counted, Loose.mapError_ok, Except.map, step, if_true,
    Settings.load, fresh]

/-- Such a session begins by stepping through the program. -/
theorem StepsProgram.begin_eq (steps : s.StepsProgram program cells) :
    ∃ shown, s.begin = before shown (s.beginStepping ((s.fresh cells).load program) false) := by
  obtain ⟨size, memory, counted⟩ := steps.room
  have possible : ¬ size < 0 := by
    obtain ⟨rfl, -⟩ := State.cellCount_eq_ok counted
    omega
  have begins : ∃ line, s.begin = before (s.unlessQuiet line) (s.execute program size) := by
    rcases steps.given with ⟨e, named, rfl⟩ | ⟨unnamed, source, found, text, parsed⟩
    · refine ⟨"Loading program: " ++ e.name, ?_⟩
      simp [Settings.begin, memory, possible, steps.menu, named]
    · refine ⟨"Running inline program", ?_⟩
      simp [Settings.begin, memory, possible, steps.menu, unnamed, found, text, Option.filter,
        parsed]
  obtain ⟨line, begins⟩ := begins
  rw [begins, execute_of_step steps.step counted, before_before]
  exact ⟨_, rfl⟩

/-- A session that stepped a program to its halt exits with code zero. -/
theorem afterStepping_of_halted {m : Machine} (halted : m.state.running = false)
    (complete : ∀ e ∈ m.entries, e.Complete) : (s.afterStepping m false).1 = .exited 0 := by
  obtain ⟨text, described⟩ := Report.entries_of_complete complete
  have details : ∃ shown, s.details m = .ok shown := by
    simp only [Settings.details, describeTrace, describeTraceWith, described, ok_bind, pure_eq_ok,
      Loose.mapError_ok, Except.map]
    split
    · exact ⟨_, rfl⟩
    · split <;> exact ⟨_, rfl⟩
  obtain ⟨shown, details⟩ := details
  simp [afterStepping, before, conclude, details, halted]

/-- **Stepping through a loaded program ends with code zero**, whether it halts or is stopped. -/
theorem last_beginStepping (fresh : Machine) (reliable : fresh.Reliable) (program : List Int)
    (answers : List String) :
    (s.transcript (s.beginStepping (fresh.load program) false) answers).last = .exited 0 := by
  have loaded : (fresh.load program).Reliable := reliable.load program
  rw [beginStepping, transcript_before]
  rcases (fresh.load program).running_or_haltsAt answers.length with runs | ⟨h, enough, halts⟩
  · rw [transcript_awaitStep_of_running loaded runs]
    rfl
  · have concluded : (s.afterStepping ((fresh.load program).steps h) false).1 = .exited 0 :=
      afterStepping_of_halted halts.halted (complete_entries_steps_load program fresh h)
    rw [transcript_awaitStep_of_haltsAt loaded halts enough,
      transcript_of_ended (by rw [concluded]; rfl), concluded]
    rfl

end Settings

open Settings in
/-- **Stepping goes on to the halt or until it is stopped.** Let a session step through a machine
with a sink that does not fail, against a list of answers. If the machine halts within so many
steps, the session asks for each of them and takes it, shows their numbers, and goes on with
the machine that a run without a limit leaves. Otherwise it takes one step for every answer,
asks once more, and stops with the machine still running. The cycle limit plays no part. So a
session that steps through a program exits with code zero, whatever the answers are. -/
theorem stepping_halts_or_stops :
    (∀ (s : Settings) (m : Machine) (inMenu : Bool) (answers : List String), m.Reliable →
      let turn := s.beginStepping m inMenu
      let played := s.transcript turn answers
      Session.playOn { settings := s, phase := turn.1 } turn.2 answers
        = ({ settings := s, phase := played.last }, played.shown) ∧
      (∀ h ≤ answers.length, m.HaltsAt h →
        m.runFreely.machine = m.steps h ∧
        played = .after (stepPrompts m 1 inMenu h) (described m ++ s.stepsShown m 1 h)
          (s.transcript (s.afterStepping (m.steps h) inMenu) (answers.drop h))) ∧
      ((∀ h ≤ answers.length, ¬ m.HaltsAt h) →
        (m.steps answers.length).state.running = true ∧
        played =
          { prompts := stepPrompts m 1 inMenu (answers.length + 1)
            last := .exited 0
            shown := described m ++ (s.stepsShown m 1 answers.length
              ++ stepPrompt (1 + answers.length)
              ++ (sayLine "\nStepping stopped." ++ if inMenu then leave.2 else {})) })) ∧
    ∀ (arguments : List String) (s : Settings), Request.ofArguments arguments = .settings s →
      ∀ (program : List Int) (cells : Nat), s.StepsProgram program cells →
        ∀ answers, (play arguments answers).1 = .exited 0 := by
  refine ⟨fun s m inMenu answers reliable => ⟨playOn_eq_transcript _ _, ?halts, ?stops⟩, ?exits⟩
  case halts =>
    intro h enough halts
    refine ⟨reliable.runFreely_eq_steps halts.halted, ?_⟩
    rw [beginStepping, transcript_before, transcript_awaitStep_of_haltsAt reliable halts enough,
      Transcript.after_after]
    rfl
  case stops =>
    intro never
    have runs : (m.steps answers.length).state.running = true :=
      (m.running_or_haltsAt answers.length).resolve_right fun ⟨h, enough, halts⟩ =>
        never h enough halts
    refine ⟨runs, ?_⟩
    rw [beginStepping, transcript_before, transcript_awaitStep_of_running reliable runs]
    cases inMenu <;> rfl
  case exits =>
    intro arguments s asked program cells steps answers
    obtain ⟨shown, begins⟩ := steps.begin_eq
    rw [play_eq_transcript asked, begins, transcript_before]
    exact last_beginStepping (s.fresh cells) (reliable_fresh s cells) program answers

open Settings in
/-- A program that prints and halts is stepped to its halt with two answers, and stopped after
one. -/
theorem stepping_halts_or_stops_after_print :
    let arguments := ["--inline", "11, 0, 12", "--memory-size", "3", "--step", "--max-cycles", "0"]
    let s : Settings :=
      { source := some "11, 0, 12", step := true, memorySize := some 3, maxCycles := some 0 }
    let m := (s.fresh 3).load [11, 0, 12]
    Request.ofArguments arguments = .settings s ∧
      (s.transcript (s.beginStepping m false) ["", ""]).prompts = stepPrompts m 1 false 2 ∧
      m.runFreely.machine = m.steps 2 ∧
      (s.transcript (s.beginStepping m false) [""]).prompts = stepPrompts m 1 false 2 ∧
      (m.steps 1).state.running = true ∧
      (play arguments ["", ""]).1 = .exited 0 := by
  intro arguments s m
  have asked : Request.ofArguments arguments = .settings s := by decide +kernel
  have reliable : m.Reliable := (Settings.reliable_fresh s 3).load _
  have steps : s.StepsProgram [11, 0, 12] 3 :=
    { step := rfl
      menu := rfl
      given := .inr ⟨rfl, "11, 0, 12", rfl, by decide, by decide +kernel⟩
      room := ⟨3, rfl, rfl⟩ }
  have halts : m.HaltsAt 2 := ⟨by decide +kernel, by decide +kernel⟩
  have goesOn : ∀ h ≤ 1, ¬ m.HaltsAt h := by
    intro h few early
    have late := halts.running h (Nat.lt_succ_of_le few)
    rw [early.halted] at late
    cases late
  obtain ⟨-, finishes, -⟩ := stepping_halts_or_stops.1 s m false ["", ""] reliable
  obtain ⟨-, -, stops⟩ := stepping_halts_or_stops.1 s m false [""] reliable
  obtain ⟨ran, finished⟩ := finishes 2 (Nat.le_refl 2) halts
  obtain ⟨runs, stopped⟩ := stops goesOn
  rw [List.length_singleton] at runs stopped
  have concluded : (s.afterStepping (m.steps 2) false).1.waits = false :=
    congrArg Phase.waits
      (afterStepping_of_halted halts.halted (complete_entries_steps_load _ (s.fresh 3) 2))
  rw [transcript_of_ended concluded] at finished
  refine ⟨asked, ?_, ran, ?_, runs, stepping_halts_or_stops.2 arguments s asked _ _ steps _⟩
  · exact congrArg Transcript.prompts finished
  · exact congrArg Transcript.prompts stopped

end CommandLine

end RegisterMachine
