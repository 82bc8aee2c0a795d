import RegisterMachine.Proofs.Sessions

/-!
# The menu comes back

A session of the menu stands at the menu, before a step of the example for stepping, or at
its end (`Settings.AtMenu`). What keeps it from coming back to the menu is an example that
does not halt. On memories of all sizes but two every example halts. So every session of the
menu ends but for those that run the one example that does not, and it ends by leaving the
menu (`Session.exists_plays_menu_iff`).
-/

set_option autoImplicit false

namespace RegisterMachine

namespace CommandLine

open Machine

/-! ## Where a session of the menu can stand -/

namespace Settings

variable {s : Settings}

theorem reliable_of_menuMachine {m : Machine} (built : s.menuMachine = .ok m) : m.Reliable := by
  cases made : Machine.create (s.memorySize.getD 0) none (some .reliable) with
  | error cause => simp [menuMachine, made, Except.mapError] at built
  | ok machine =>
    obtain ⟨cells, entries, -, -, -, -, rfl⟩ := exists_powerOn_of_create made
    simp only [menuMachine, made, Except.mapError, Except.ok.injEq] at built
    exact reliable_of_sink_eq (by rw [← built]; rfl)

/-- Where a session of the menu stands: at the menu, before a step of the example for
stepping, or at its end. It fails only if no machine can be built. -/
inductive AtMenu (s : Settings) : Phase → Prop
  | menu : s.AtMenu .menu
  | stepping {m : Machine} {number : Nat} (reliable : m.Reliable) :
    s.AtMenu (.stepping m number true)
  | left : s.AtMenu (.exited 0)
  | failed {cause : SessionError} (refused : s.menuMachine = .error cause) :
    s.AtMenu (.failed cause)

theorem atMenu_runExample (e : Example) : s.AtMenu (s.runExample e).1 := by
  unfold runExample
  cases built : s.menuMachine with
  | error cause => exact .failed built
  | ok m =>
    have reliable : (s.load m e.cells).1.Reliable := (reliable_of_menuMachine built).load e.cells
    have done := congrArg Prod.fst (complete_of_reliable s reliable)
    cases completed : s.complete (s.load m e.cells).1 with
    | mk outcome running =>
      rw [completed] at done
      obtain rfl : outcome = _ := done
      simp only [completed]
      exact .menu

theorem atMenu_awaitStep {m : Machine} (reliable : m.Reliable) (number : Nat) :
    s.AtMenu (s.awaitStep m number true).1 := by
  unfold awaitStep
  split
  · exact .stepping reliable
  · exact .menu

theorem atMenu_takeStep {m : Machine} (reliable : m.Reliable) (number : Nat) :
    s.AtMenu (s.takeStep m number true).1 := by
  have still : m.step.machine.Reliable := by
    rw [machine_step]
    exact reliable.stepped
  simp only [takeStep, reliable.result_step]
  exact atMenu_awaitStep still (number + 1)

theorem atMenu_stepExample : s.AtMenu s.stepExample.1 := by
  unfold stepExample
  cases built : s.menuMachine with
  | error cause => exact .failed built
  | ok m => exact atMenu_awaitStep ((reliable_of_menuMachine built).load _) 1

theorem atMenu_choose (choice : String) : s.AtMenu (s.choose choice).1 := by
  unfold choose
  split_ifs
  · exact atMenu_runExample .arithmetic
  · exact atMenu_runExample .factorial
  · exact atMenu_runExample .counting
  · exact atMenu_stepExample
  · exact .left
  · exact .menu

theorem AtMenu.answer {phase : Phase} (stands : s.AtMenu phase) (given : Option String) :
    s.AtMenu (s.answer phase given).1 := by
  cases stands with
  | menu =>
    cases given with
    | none => exact .left
    | some choice => exact atMenu_choose (Text.trim choice)
  | stepping reliable =>
    cases given with
    | none => exact .left
    | some key => exact atMenu_takeStep reliable _
  | left => exact .left
  | failed refused => exact .failed refused

/-- Without an answer a session of the menu ends. -/
theorem AtMenu.answer_none {phase : Phase} (stands : s.AtMenu phase) :
    (s.answer phase none).1.waits = false := by
  cases stands <;> rfl

end Settings

namespace Session

theorem Plays.atMenu {session last : Session} {answers : List String} {n : Nat}
    (plays : session.Plays answers last n) (stands : session.settings.AtMenu session.phase) :
    session.settings.AtMenu last.phase ∧ last.phase.waits = false := by
  induction plays with
  | ended finished => exact ⟨stands, finished⟩
  | closed waits => exact ⟨stands.answer none, stands.answer_none⟩
  | turn waits takes plays ih => exact ih (stands.answer _)

end Session

/-! ## The sessions that end -/

/-- The machine of the menu is there if its cells are. -/
theorem Settings.menuMachine_eq_ok_iff {s : Settings} {size : Nat}
    (cells : s.memorySize = some (size : Int)) {m : Machine} :
    s.menuMachine = .ok m ↔ size < Memory.capacity ∧ m = powerOn size none (some .reliable) := by
  rw [menuMachine, cells, Option.getD_some, create_eq]
  cases counted : State.cellCount size with
  | error cause =>
    refine iff_of_false (by rintro ⟨⟩) ?_
    rintro ⟨room, -⟩
    have possible : State.cellCount size = .ok size := State.cellCount_of_lt room
    rw [counted] at possible
    cases possible
  | ok number =>
    obtain ⟨same, room⟩ := State.cellCount_eq_ok counted
    obtain rfl := Int.natCast_inj.1 same
    exact ⟨fun built => ⟨room, (Except.ok.inj built).symm⟩, fun built => built.2 ▸ rfl⟩

namespace Session

/-- A session that asks for the menu begins there. -/
theorem start_menu {arguments : List String} {s : Settings}
    (asked : Request.ofArguments arguments = .settings s) (menu : s.menu = true) (size : Nat)
    (cells : s.memorySize = some (size : Int)) :
    (Session.start arguments).1 = { settings := s, phase := .menu } := by
  have positive : ¬ (size : Int) < 0 := by omega
  simp only [start_of_settings asked, Settings.begin, cells, positive, menu, if_false, if_true]
  rfl

/-- What the choices run on a menu of that many cells halts, unless it is one of the two
examples that go round in a circle. -/
theorem halts_of_choices_iff {s : Settings} {size : Nat} (cells : s.memorySize = some (size : Int))
    (choices : List String) :
    (∀ choice ∈ choices, ∀ m ∈ s.loaded? choice, m.Halts) ↔
      ¬ (size = 21 ∧ "2" ∈ choices) ∧ ¬ (size = 20 ∧ "3" ∈ choices) := by
  have loads : ∀ {choice e}, example? choice = some e → size < Memory.capacity →
      e.loaded size ∈ s.loaded? choice := by
    intro choice e chosen room
    have built := (Settings.menuMachine_eq_ok_iff cells).2 ⟨room, rfl⟩
    simp [Settings.loaded?, chosen, built, Except.toOption, Example.loaded]
  constructor
  · intro halts
    constructor
    · rintro ⟨rfl, chosen⟩
      exact Example.not_halts_of_circle (.inl ⟨rfl, rfl⟩)
        (halts "2" chosen _ (loads (e := .factorial) rfl (by decide)))
    · rintro ⟨rfl, chosen⟩
      exact Example.not_halts_of_circle (.inr ⟨rfl, rfl⟩)
        (halts "3" chosen _ (loads (e := .counting) rfl (by decide)))
  · rintro ⟨noFactorial, noCounting⟩ choice chosen m run
    obtain ⟨e, fresh, names, built, rfl⟩ := Settings.exists_of_loaded? run
    obtain ⟨-, rfl⟩ := (Settings.menuMachine_eq_ok_iff cells).1 built
    refine (Example.halts_iff e size).2 ⟨?_, ?_⟩
    · rintro ⟨rfl, rfl⟩
      exact noFactorial ⟨rfl, example?_eq_factorial names ▸ chosen⟩
    · rintro ⟨rfl, rfl⟩
      exact noCounting ⟨rfl, example?_eq_counting names ▸ chosen⟩

/-- **The menu comes back, unless it runs an example that goes round in a circle.** That is the
factorial on 21 cells, which is chosen by 2, and the counting on 20 cells, which is chosen
by 3. On memories of all other sizes every example halts, and a run takes just the steps up
to the halt. So a session of the menu comes to an end against every list of answers that has
no such choice, and against no other. It ends as it is played, by leaving the menu with exit
code 0, unless the machine of the menu cannot be built. -/
theorem exists_plays_menu_iff {arguments : List String} {s : Settings}
    (asked : Request.ofArguments arguments = .settings s) (menu : s.menu = true) (size : Nat)
    (cells : s.memorySize = some (size : Int)) (answers : List String) :
    let session := (Session.start arguments).1
    ((∃ last n, session.Plays answers last n) ↔
      ¬ (size = 21 ∧ "2" ∈ session.choices answers) ∧
        ¬ (size = 20 ∧ "3" ∈ session.choices answers)) ∧
    (∀ last n, session.Plays answers last n →
      (play arguments answers).1 = last.phase ∧
      (last.phase = .exited 0 ∨
        Memory.capacity ≤ size ∧ ∃ cause, s.menuMachine = .error cause ∧
          last.phase = .failed cause)) ∧
    ∀ e : Example,
      ((e.loaded size).Halts ↔
        ¬ (e = .factorial ∧ size = 21) ∧ ¬ (e = .counting ∧ size = 20)) ∧
      ∀ n, (e.loaded size).HaltsAt n → (e.loaded size).run.machine = (e.loaded size).steps n := by
  intro session
  have start : session = { settings := s, phase := .menu } := start_menu asked menu size cells
  have settings : session.settings = s := by rw [start]
  refine ⟨?ends, ?leaves, fun e => ⟨e.halts_iff size, ?runs⟩⟩
  case ends =>
    rw [session.exists_plays_iff, settings]
    exact halts_of_choices_iff cells _
  case leaves =>
    intro last n plays
    have stands : session.settings.AtMenu session.phase := by
      rw [start]
      exact .menu
    obtain ⟨still, finished⟩ := plays.atMenu stands
    rw [settings] at still
    refine ⟨congrArg Session.phase (plays.playOn_eq _), ?_⟩
    generalize last.phase = phase at still finished ⊢
    cases still with
    | left => exact .inl rfl
    | menu => cases finished
    | stepping reliable => cases finished
    | @failed cause refused =>
      refine .inr ⟨?_, cause, refused, rfl⟩
      by_contra room
      have built := (Settings.menuMachine_eq_ok_iff cells).2 ⟨Nat.lt_of_not_le room, rfl⟩
      rw [refused] at built
      cases built
  case runs =>
    intro n halts
    exact halts.run_eq ((reliable_of_sink_eq rfl).load e.cells) rfl

/-- On 21 cells the counting is cut off behind its jump, and halts there. -/
theorem exists_plays_menu_of_counting :
    let arguments := ["--menu", "--memory-size", "21"]
    Request.ofArguments arguments = .settings { menu := true, memorySize := some 21 } ∧
      (Session.start arguments).1.choices ["3"] = ["3"] ∧
      ∃ last n, (Session.start arguments).1.Plays ["3"] last n := by
  intro arguments
  have asked : Request.ofArguments arguments
      = .settings { menu := true, memorySize := some 21 } := by
    decide +kernel
  have choices : (Session.start arguments).1.choices ["3"] = ["3"] := by
    rw [start_menu asked rfl 21 rfl]
    decide +kernel
  refine ⟨asked, choices, (exists_plays_menu_iff asked rfl 21 rfl ["3"]).1.2 ?_⟩
  rw [choices]
  decide

/-- On 21 cells the factorial is cut off inside its jump, and the menu does not come back. -/
theorem not_plays_menu_of_factorial :
    let arguments := ["--menu", "--memory-size", "21"]
    Request.ofArguments arguments = .settings { menu := true, memorySize := some 21 } ∧
      (¬ ∃ last n, (Session.start arguments).1.Plays ["2"] last n) ∧
      ∀ n, ((Example.factorial.loaded 21).steps n).state.running = true := by
  intro arguments
  have asked : Request.ofArguments arguments
      = .settings { menu := true, memorySize := some 21 } := by
    decide +kernel
  have circle : ¬ (Example.factorial.loaded 21).Halts :=
    Example.not_halts_of_circle (.inl ⟨rfl, rfl⟩)
  refine ⟨asked, ?_, fun n => Bool.eq_true_of_not_eq_false fun halted =>
    circle (halts_of_stopped halted)⟩
  rw [start_menu asked rfl 21 rfl, exists_plays_iff]
  intro halts
  have choices : choices { settings := { menu := true, memorySize := some 21 }, phase := .menu }
      ["2"] = ["2"] := by
    decide +kernel
  rw [choices] at halts
  exact circle (halts "2" (by decide) _ rfl)

end Session

end CommandLine

end RegisterMachine
