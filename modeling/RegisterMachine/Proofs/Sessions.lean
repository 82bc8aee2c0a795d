import RegisterMachine.CommandLine.Session
import RegisterMachine.Proofs.ExampleRuns

/-!
# Sessions that come to an end

A session is played against a list of answers. A turn may step a machine, or run one to its
halt with no limit to the cycles; then the turn ends only if the machine halts, and takes the
steps up to the halt (`Settings.Takes`). The session comes to an end if all of its turns do
(`Session.Plays`), and then it ends as `Session.playOn` says.

What can go on for ever are the machines that run without a limit, and those can be read off
the choices made at the menu (`Session.exists_plays_iff`).
-/

set_option autoImplicit false

namespace RegisterMachine

namespace CommandLine

open Machine

/-! ## Turns and their steps -/

/-- The example that a choice from the menu runs to its end. -/
def example? (choice : String) : Option Example :=
  if choice = "1" then some .arithmetic
  else if choice = "2" then some .factorial
  else if choice = "3" then some .counting
  else none

theorem example?_eq_factorial {choice : String} (chosen : example? choice = some .factorial) :
    choice = "2" := by
  unfold example? at chosen
  split_ifs at chosen with one two three <;> first | exact two | cases chosen

theorem example?_eq_counting {choice : String} (chosen : example? choice = some .counting) :
    choice = "3" := by
  unfold example? at chosen
  split_ifs at chosen with one two three <;> first | exact three | cases chosen

namespace Settings

variable (s : Settings)

/-- A choice that runs an example does so. -/
theorem choose_of_example? {choice : String} {e : Example} (chosen : example? choice = some e) :
    s.choose choice = s.runExample e := by
  unfold example? at chosen
  unfold choose
  split_ifs at chosen ⊢ <;> cases chosen <;> rfl

/-- A run with a reliable sink is shown to its end. -/
theorem complete_of_reliable {m : Machine} (reliable : m.Reliable) :
    s.complete m =
      (.ok m.run.machine,
        (if s.quiet then {} else described m ++ sayLine "\n=== CPU Execution Started ===")
          ++ (printed (received m) m.run.machine ++ s.logged m.run.events.toList)
          ++ if s.quiet then {}
            else sayLine "=== CPU Execution Finished ===\n" ++ described m.run.machine) := by
  simp only [complete, reliable.fault_run none]

/-- The machine that a choice from the menu runs to its end, with the example loaded. -/
def loaded? (choice : String) : Option Machine :=
  (example? choice).bind fun e => s.menuMachine.toOption.map (·.load e.cells)

variable {s} in
theorem exists_of_loaded? {choice : String} {m : Machine} (loaded : m ∈ s.loaded? choice) :
    ∃ e fresh, example? choice = some e ∧ s.menuMachine = .ok fresh ∧ m = fresh.load e.cells := by
  obtain ⟨e, chosen, built⟩ := Option.bind_eq_some_iff.1 loaded
  obtain ⟨fresh, made, rfl⟩ := Option.map_eq_some_iff.1 built
  refine ⟨e, fresh, chosen, ?_, rfl⟩
  cases outcome : s.menuMachine with
  | error cause => simp [outcome, Except.toOption] at made
  | ok machine => simpa [outcome, Except.toOption] using made

/-- The machine that an answer runs to its end. -/
def runs? : Phase → Option String → Option Machine
  | .menu, some choice => s.loaded? (Text.trim choice)
  | _, _ => none

/-- The steps that an answer takes when it runs nothing to its end. -/
def presses : Phase → Option String → Nat
  | .stepping .., some _ => 1
  | _, _ => 0

/-- An answer takes that many machine steps. There is no such number if it runs a machine
that never halts. -/
def Takes (phase : Phase) (given : Option String) (n : Nat) : Prop :=
  match s.runs? phase given with
  | some m => m.HaltsAt n
  | none => n = presses phase given

end Settings

namespace Session

/-- A session that is played against a list of answers ends like that, after so many machine
steps. When the answers run out, none comes. -/
inductive Plays : Session → List String → Session → Nat → Prop
  | ended {session : Session} {answers : List String} (finished : session.phase.waits = false) :
    Plays session answers session 0
  | closed {session : Session} (waits : session.phase.waits = true) :
    Plays session [] (session.answer none).1 0
  | turn {session last : Session} {given : String} {rest : List String} {first later : Nat}
    (waits : session.phase.waits = true)
    (takes : session.settings.Takes session.phase (some given) first)
    (plays : Plays (session.answer (some given)).1 rest last later) :
    Plays session (given :: rest) last (first + later)

/-- The choices that a session reads at the menu. -/
def choices (session : Session) : List String → List String
  | [] => []
  | given :: rest =>
    let later := (session.answer (some given)).1.choices rest
    match session.phase with
    | .menu => Text.trim given :: later
    | _ => later

variable {session : Session}

/-- A session with settings starts with their first turn. -/
theorem start_of_settings {arguments : List String} {s : Settings}
    (asked : Request.ofArguments arguments = .settings s) :
    Session.start arguments = ({ settings := s, phase := s.begin.1 }, s.begin.2) := by
  simp only [Session.start, asked]

/-- A session that has ended stays as it is. -/
theorem answer_of_ended (finished : session.phase.waits = false) (given : Option String) :
    (session.answer given).1 = session := by
  obtain ⟨settings, phase⟩ := session
  cases phase with
  | menu => cases finished
  | stepping m number inMenu => cases finished
  | exited code => rfl
  | failed cause => rfl

theorem choices_of_ended (finished : session.phase.waits = false) (answers : List String) :
    session.choices answers = [] := by
  induction answers with
  | nil => rfl
  | cons given rest ih =>
    rw [choices, session.answer_of_ended finished]
    cases found : session.phase with
    | menu =>
      rw [found] at finished
      cases finished
    | _ => exact ih

theorem playOn_of_ended (finished : session.phase.waits = false) (shown : Shown)
    (answers : List String) : session.playOn shown answers = (session, shown) := by
  cases answers <;> simp [playOn, finished]

theorem Plays.playOn_eq {answers : List String} {last : Session} {n : Nat}
    (plays : session.Plays answers last n) (shown : Shown) :
    (session.playOn shown answers).1 = last := by
  induction plays generalizing shown with
  | ended finished => rw [playOn_of_ended finished]
  | closed waits => simp [playOn, waits]
  | turn waits takes plays ih => simpa [playOn, waits] using ih _

/-- The turn of an answer ends if what it runs halts. -/
theorem exists_takes_iff (s : Settings) (phase : Phase) (given : Option String) :
    (∃ n, s.Takes phase given n) ↔ ∀ m ∈ s.runs? phase given, m.Halts := by
  unfold Settings.Takes
  cases s.runs? phase given with
  | none => simp
  | some m => simp [Halts]

theorem exists_plays_cons_iff (waits : session.phase.waits = true) (given : String)
    (rest : List String) :
    (∃ last n, session.Plays (given :: rest) last n) ↔
      (∃ n, session.settings.Takes session.phase (some given) n) ∧
        ∃ last n, (session.answer (some given)).1.Plays rest last n := by
  constructor
  · rintro ⟨last, n, plays⟩
    cases plays with
    | ended finished =>
      rw [waits] at finished
      cases finished
    | turn _ takes later => exact ⟨⟨_, takes⟩, last, _, later⟩
  · rintro ⟨⟨first, takes⟩, last, later, plays⟩
    exact ⟨last, first + later, .turn waits takes plays⟩

/-- **A session ends if every machine halts that a choice from the menu runs.** -/
theorem exists_plays_iff (session : Session) (answers : List String) :
    (∃ last n, session.Plays answers last n) ↔
      ∀ choice ∈ session.choices answers, ∀ m ∈ session.settings.loaded? choice, m.Halts := by
  induction answers generalizing session with
  | nil =>
    refine iff_of_true ?_ (by simp [choices])
    cases waits : session.phase.waits with
    | false => exact ⟨_, _, .ended waits⟩
    | true => exact ⟨_, _, .closed waits⟩
  | cons given rest ih =>
    cases waits : session.phase.waits with
    | false =>
      refine iff_of_true ⟨_, _, .ended waits⟩ ?_
      simp [choices_of_ended waits]
    | true =>
      have settings : (session.answer (some given)).1.settings = session.settings := rfl
      rw [exists_plays_cons_iff waits, ih, exists_takes_iff, settings, choices]
      cases session.phase with
      | menu => rw [List.forall_mem_cons]; rfl
      | stepping m number inMenu => simp [Settings.runs?]
      | exited code => simp [Settings.runs?]
      | failed cause => simp [Settings.runs?]

end Session

end CommandLine

end RegisterMachine
