import RegisterMachine.Proofs.Menu
import RegisterMachine.Proofs.Transcripts

/-!
# The menu forgets

Each time the menu is shown, the session reads a choice and shows what comes of it, up to the
next menu or to its end. This is a block of the transcript. It is made from the choice without
its blanks, and for the step-by-step demonstration also from the number of answers that remain,
since each of its steps takes one of them (`Settings.block`). Nothing else enters, in particular
nothing that was chosen before.

The transcript of a session of the menu is just the row of these blocks
(`Settings.transcript_showMenu`).
-/

set_option autoImplicit false

namespace RegisterMachine

namespace CommandLine

open Machine

/-! ## Blocks -/

/-- Whether a session waits at the menu. -/
def Phase.atMenu : Phase → Bool
  | .menu => true
  | _ => false

theorem length_stepPrompts (m : Machine) (number : Nat) (inMenu : Bool) (n : Nat) :
    (stepPrompts m number inMenu n).length = n := by
  rw [stepPrompts, List.length_map, List.length_range]

theorem stepPrompts_not_atMenu (m : Machine) (number : Nat) (inMenu : Bool) (n : Nat) :
    ∀ phase ∈ stepPrompts m number inMenu n, phase.atMenu = false := by
  intro phase present
  obtain ⟨i, -, rfl⟩ := List.mem_map.1 present
  rfl

/-- What comes of one visit to the menu: the phases at which the session waits, beginning with
the menu, what it shows, and whether it leaves the menu. -/
structure Block where
  prompts : List Phase
  shown : Shown
  leaves : Bool

/-- The answers that a block reads behind the choice. -/
def Block.keys (b : Block) : Nat := b.prompts.length - 1

/-- The transcript of blocks in a row. -/
def Transcript.ofBlocks : List Block → Transcript
  | [] => { prompts := [], last := .exited 0, shown := {} }
  | b :: rest => .after b.prompts b.shown (ofBlocks rest)

theorem last_ofBlocks (blocks : List Block) : (Transcript.ofBlocks blocks).last = .exited 0 := by
  induction blocks with
  | nil => rfl
  | cons b rest ih => exact ih

theorem prompts_ofBlocks (blocks : List Block) :
    (Transcript.ofBlocks blocks).prompts = blocks.flatMap (·.prompts) := by
  induction blocks with
  | nil => rfl
  | cons b rest ih => exact congrArg (b.prompts ++ ·) ih

theorem out_ofBlocks (blocks : List Block) :
    (Transcript.ofBlocks blocks).shown.out = String.join (blocks.map (·.shown.out)) := by
  induction blocks with
  | nil => rfl
  | cons b rest ih =>
    rw [List.map_cons, String.join_cons, ← ih]
    rfl

/-- The example that a choice starts, to be run or to be stepped. -/
def started? (choice : String) : Option Example :=
  if choice = "4" then some .stepDemo else example? choice

theorem started?_of_example? {choice : String} {e : Example} (chosen : example? choice = some e) :
    e ∈ started? choice := by
  have other : choice ≠ "4" := by
    rintro rfl
    cases chosen
  rw [started?, if_neg other]
  exact chosen

namespace Settings

variable (s : Settings)

/-- A choice that runs no example steps through one, leaves the menu, or is refused. -/
theorem choose_of_no_example {choice : String} (chosen : example? choice = none) :
    s.choose choice =
      if choice = "4" then s.stepExample
      else if choice = "5" then leave
      else before (sayLine "Invalid choice. Please enter 1-5.") showMenu := by
  unfold example? at chosen
  unfold choose
  split_ifs at chosen ⊢ <;> rfl

/-- The number of cells of the machine of the menu. -/
def cells : Nat := (s.memorySize.getD 0).toNat

/-- The log lines of loading an example on the machine of the menu. -/
def loadingShown (e : Example) : Shown :=
  s.logged ((powerOn s.cells none (some .reliable)).loadEvents e.cells)

/-- A block in which the session reads nothing but the choice. -/
def plainBlock (shown : Shown) (leaves : Bool) : Block :=
  { prompts := [.menu], shown := showMenu.2 ++ shown, leaves }

/-- The block of an example that is run to its end. -/
def runBlock (e : Example) : Block :=
  plainBlock
    (sayLine ("\n--- Running " ++ title e ++ " Program ---") ++ s.loadingShown e
      ++ (s.complete (e.loaded s.cells)).2) false

/-- What the step-by-step demonstration shows before the first step. -/
def demoOpening : Shown :=
  sayLine "\n=== Step-by-step Execution Demo ===" ++ sayLine "Program: LOAD AX, 42; PRINT AX; HALT"
    ++ s.loadingShown .stepDemo ++ described (Example.stepDemo.loaded s.cells)

/-- The block of the step-by-step demonstration that reaches its halt. -/
def finishedDemo : Block :=
  let m := Example.stepDemo.loaded s.cells
  let n := Example.demoSteps s.cells
  { prompts := .menu :: stepPrompts m 1 true n
    shown := showMenu.2 ++ (s.demoOpening ++ s.stepsShown m 1 n
      ++ (sayLine "\nFinal state" ++ described (m.steps n)))
    leaves := false }

/-- The block of the step-by-step demonstration that stops after so many steps, because no
answer comes. -/
def stoppedDemo (n : Nat) : Block :=
  let m := Example.stepDemo.loaded s.cells
  { prompts := .menu :: stepPrompts m 1 true (n + 1)
    shown := showMenu.2 ++ (s.demoOpening ++ s.stepsShown m 1 n ++ stepPrompt (1 + n)
      ++ (sayLine "\nStepping stopped." ++ leave.2))
    leaves := true }

/-- The block of the step-by-step demonstration, given the number of answers that remain. -/
def demoBlock (remaining : Nat) : Block :=
  if Example.demoSteps s.cells ≤ remaining then s.finishedDemo else s.stoppedDemo remaining

/-- The block of a choice, given the number of answers that remain. -/
def block (choice : String) (remaining : Nat) : Block :=
  match example? choice with
  | some e => s.runBlock e
  | none =>
    if choice = "4" then s.demoBlock remaining
    else if choice = "5" then plainBlock leave.2 true
    else plainBlock (sayLine "Invalid choice. Please enter 1-5.") false

/-- The block of an answer that does not come. -/
def closingBlock : Block := plainBlock (say "\n" ++ leave.2) true

/-- The blocks of a session of the menu. A block that does not leave the menu is followed by
those of the answers that it has not read. -/
def blocks : List String → List Block
  | [] => [closingBlock]
  | given :: rest =>
    let b := s.block (Text.trim given) rest.length
    if b.leaves then [b] else b :: blocks (rest.drop b.keys)
termination_by answers => answers.length
decreasing_by
  rw [List.length_drop, List.length_cons]
  omega

/-! ## The machine of the menu -/

variable {s}

theorem eq_of_menuMachine {m : Machine} (built : s.menuMachine = .ok m) :
    m = powerOn s.cells none (some .reliable) := by
  rw [menuMachine, create_eq] at built
  cases counted : State.cellCount (s.memorySize.getD 0) with
  | error cause =>
    rw [counted] at built
    cases built
  | ok number =>
    obtain ⟨same, -⟩ := State.cellCount_eq_ok counted
    have cells : s.cells = number := by rw [cells, same, Int.toNat_natCast]
    rw [counted] at built
    rw [cells]
    exact (Except.ok.inj built).symm

theorem stepExample_of_ok {m : Machine} (built : s.menuMachine = .ok m) :
    s.stepExample = before s.demoOpening
      (s.awaitStep (Example.stepDemo.loaded s.cells) 1 true) := by
  obtain rfl := eq_of_menuMachine built
  simp only [stepExample, built, beginStepping, before_before]
  rfl

theorem runExample_of_ok {m : Machine} (built : s.menuMachine = .ok m) (e : Example) :
    s.runExample e = before
      (sayLine ("\n--- Running " ++ title e ++ " Program ---") ++ s.loadingShown e
        ++ (s.complete (e.loaded s.cells)).2) showMenu := by
  have reliable : (e.loaded s.cells).Reliable := (reliable_of_sink_eq rfl).load e.cells
  obtain ⟨shown, completed⟩ : ∃ shown, s.complete (e.loaded s.cells)
      = (.ok (e.loaded s.cells).run.machine, shown) := ⟨_, s.complete_of_reliable reliable⟩
  obtain rfl := eq_of_menuMachine built
  have loads : s.load (powerOn s.cells none (some .reliable)) e.cells
      = (e.loaded s.cells, s.loadingShown e) := rfl
  simp only [runExample, built, loads, completed]

/-! ## One visit to the menu -/

theorem transcript_showMenu_cons (given : String) (rest : List String) :
    s.transcript showMenu (given :: rest) =
      .after [.menu] showMenu.2 (s.transcript (s.choose (Text.trim given)) rest) :=
  transcript_cons rfl given rest

/-- What is shown before the menu comes back is a block. -/
theorem transcript_of_choose_back {given : String} {shown : Shown}
    (chosen : s.choose (Text.trim given) = before shown showMenu) (rest : List String) :
    s.transcript showMenu (given :: rest) =
      .after (plainBlock shown false).prompts (plainBlock shown false).shown
        (s.transcript showMenu (rest.drop (plainBlock shown false).keys)) := by
  rw [transcript_showMenu_cons, chosen, transcript_before, Transcript.after_after]
  rfl

section Stepping

variable {m : Machine} {n : Nat} {answers : List String}

/-- Stepping that was begun at the menu comes back to it if the answers suffice. -/
theorem transcript_awaitStep_back (reliable : m.Reliable) (halts : m.HaltsAt n)
    (enough : n ≤ answers.length) :
    s.transcript (s.awaitStep m 1 true) answers =
      .after (stepPrompts m 1 true n)
        (s.stepsShown m 1 n ++ (sayLine "\nFinal state" ++ described (m.steps n)))
        (s.transcript showMenu (answers.drop n)) := by
  rw [transcript_awaitStep_of_haltsAt reliable halts enough, afterStepping, if_pos rfl,
    transcript_before, Transcript.after_after, List.append_nil]

/-- Stepping that was begun at the menu leaves it if the answers run out. -/
theorem transcript_awaitStep_leave (reliable : m.Reliable)
    (runs : (m.steps answers.length).state.running = true) :
    s.transcript (s.awaitStep m 1 true) answers =
      { prompts := stepPrompts m 1 true (answers.length + 1)
        last := .exited 0
        shown := s.stepsShown m 1 answers.length ++ stepPrompt (1 + answers.length)
          ++ (sayLine "\nStepping stopped." ++ leave.2) } := by
  rw [transcript_awaitStep_of_running reliable runs]
  rfl

end Stepping

/-- **The step-by-step demonstration is a block.** It is cut short when the answers run out. -/
theorem transcript_of_choose_demo {m : Machine} (built : s.menuMachine = .ok m) {given : String}
    (chosen : s.choose (Text.trim given) = s.stepExample) (rest : List String) :
    s.transcript showMenu (given :: rest) =
      if (s.demoBlock rest.length).leaves then .ofBlocks [s.demoBlock rest.length]
      else .after (s.demoBlock rest.length).prompts (s.demoBlock rest.length).shown
        (s.transcript showMenu (rest.drop (s.demoBlock rest.length).keys)) := by
  have reliable : (Example.stepDemo.loaded s.cells).Reliable := (reliable_of_sink_eq rfl).load _
  have halts := Example.haltsAt_stepDemo s.cells
  rw [transcript_showMenu_cons, chosen, stepExample_of_ok built, transcript_before, demoBlock]
  split
  case isTrue enough =>
    have keys : s.finishedDemo.keys = Example.demoSteps s.cells := by
      simp [finishedDemo, Block.keys, stepPrompts]
    rw [transcript_awaitStep_back reliable halts enough, Transcript.after_after,
      Transcript.after_after, keys]
    simp only [finishedDemo, shown_append_assoc, List.singleton_append, Bool.false_eq_true,
      if_false]
  case isFalse few =>
    have runs := halts.running rest.length (Nat.lt_of_not_le few)
    rw [transcript_awaitStep_leave reliable runs]
    simp only [stoppedDemo, Transcript.after, Transcript.ofBlocks, shown_append_assoc,
      append_nothing, List.nil_append, List.singleton_append, List.append_nil, if_true]

/-- **Every visit to the menu is a block**, if the example that the choice starts has a machine. -/
theorem transcript_showMenu_block {given : String} {rest : List String}
    (built : ∀ e ∈ started? (Text.trim given), ∃ m, s.menuMachine = .ok m) {b : Block}
    (found : s.block (Text.trim given) rest.length = b) :
    s.transcript showMenu (given :: rest) =
      if b.leaves then .ofBlocks [b]
      else .after b.prompts b.shown (s.transcript showMenu (rest.drop b.keys)) := by
  subst found
  cases chosen : example? (Text.trim given) with
  | some e =>
    obtain ⟨m, ok⟩ := built e (started?_of_example? chosen)
    simp only [block, chosen]
    exact transcript_of_choose_back
      ((s.choose_of_example? chosen).trans (runExample_of_ok ok e)) rest
  | none =>
    have choose := s.choose_of_no_example chosen
    simp only [block, chosen]
    by_cases demo : Text.trim given = "4"
    · obtain ⟨m, ok⟩ := built .stepDemo (by rw [started?, if_pos demo]; rfl)
      rw [if_pos demo] at choose
      simp only [if_pos demo]
      exact transcript_of_choose_demo ok choose rest
    by_cases exit : Text.trim given = "5"
    · rw [if_neg demo, if_pos exit] at choose
      rw [transcript_showMenu_cons, choose, transcript_of_ended rfl]
      simp only [if_neg demo, if_pos exit]
      exact (congrArg (Transcript.mk _ _) (append_nothing _)).symm
    · rw [if_neg demo, if_neg exit] at choose
      simp only [if_neg demo, if_neg exit]
      exact transcript_of_choose_back choose rest

/-- A block waits at the menu just once, at its beginning. If it comes back to the menu, it has
read no more answers than there are. -/
theorem exists_prompts_block (choice : String) (remaining : Nat) :
    ∃ steps, (s.block choice remaining).prompts = .menu :: steps ∧
      (∀ phase ∈ steps, phase.atMenu = false) ∧
      ((s.block choice remaining).leaves = false → steps.length ≤ remaining) := by
  have plain : ∀ shown leaves, ∃ steps, (plainBlock shown leaves).prompts = .menu :: steps ∧
      (∀ phase ∈ steps, phase.atMenu = false) ∧
      ((plainBlock shown leaves).leaves = false → steps.length ≤ remaining) :=
    fun shown leaves => ⟨[], rfl, by simp, fun _ => Nat.zero_le _⟩
  unfold block
  cases example? choice with
  | some e => exact plain _ _
  | none =>
    dsimp only
    split_ifs
    · unfold demoBlock
      split
      case isTrue enough =>
        refine ⟨_, rfl, stepPrompts_not_atMenu _ _ _ _, fun _ => ?_⟩
        rwa [length_stepPrompts]
      case isFalse few =>
        exact ⟨_, rfl, stepPrompts_not_atMenu _ _ _ _, by rintro ⟨⟩⟩
    · exact plain _ _
    · exact plain _ _

/-! ## The whole session -/

/-- The answers that were given at the menu, without their blanks. -/
def menuAnswers : List Phase → List String → List String
  | .menu :: phases, given :: rest => Text.trim given :: menuAnswers phases rest
  | _ :: phases, _ :: rest => menuAnswers phases rest
  | _, _ => []

/-- The choices of a session are the answers that were given at the menu. -/
theorem choices_eq_menuAnswers (turn : Turn) (answers : List String) :
    Session.choices { settings := s, phase := turn.1 } answers =
      menuAnswers (s.transcript turn answers).prompts answers := by
  induction answers generalizing turn with
  | nil => simp [Session.choices, menuAnswers]
  | cons given rest ih =>
    cases waits : turn.1.waits with
    | false =>
      rw [transcript_of_ended waits]
      exact Session.choices_of_ended waits _
    | true =>
      have next := ih (s.answer turn.1 (some given))
      have answer : (Session.answer { settings := s, phase := turn.1 } (some given)).1
          = { settings := s, phase := (s.answer turn.1 (some given)).1 } := rfl
      rw [Session.choices, answer, next, transcript_cons waits]
      cases stands : turn.1 with
      | menu => rfl
      | stepping m number inMenu => rfl
      | exited code => rw [stands] at waits; cases waits
      | failed cause => rw [stands] at waits; cases waits

theorem menuAnswers_append {steps : List Phase} (apart : ∀ phase ∈ steps, phase.atMenu = false)
    (later : List Phase) {answers : List String} (enough : steps.length ≤ answers.length) :
    menuAnswers (steps ++ later) answers = menuAnswers later (answers.drop steps.length) := by
  induction steps generalizing answers with
  | nil => rfl
  | cons phase steps ih =>
    obtain ⟨given, rest, rfl⟩ := List.exists_cons_of_length_pos (Nat.zero_lt_of_lt enough)
    obtain ⟨here, others⟩ := List.forall_mem_cons.1 apart
    have next := ih others (Nat.le_of_succ_le_succ enough)
    cases phase with
    | menu => cases here
    | _ => exact next

theorem mem_choices_showMenu (given : String) (rest : List String) :
    Text.trim given ∈ Session.choices { settings := s, phase := .menu } (given :: rest) :=
  List.mem_cons_self

/-- The choices behind a block that comes back to the menu are those of the answers that it has
not read. -/
theorem choices_showMenu_block {given : String} {rest : List String}
    (built : ∀ e ∈ started? (Text.trim given), ∃ m, s.menuMachine = .ok m) {b : Block}
    (found : s.block (Text.trim given) rest.length = b) (back : b.leaves = false) :
    Session.choices { settings := s, phase := .menu } (given :: rest) =
      Text.trim given :: Session.choices { settings := s, phase := .menu } (rest.drop b.keys) := by
  obtain ⟨steps, prompts, apart, few⟩ := s.exists_prompts_block (Text.trim given) rest.length
  rw [found] at prompts few
  have keys : b.keys = steps.length := by
    rw [Block.keys, prompts]
    rfl
  have visit := transcript_showMenu_block built found
  rw [if_neg (Bool.eq_false_iff.1 back), keys] at visit
  have first : Session.choices { settings := s, phase := .menu } (given :: rest) =
      menuAnswers (s.transcript showMenu (given :: rest)).prompts (given :: rest) :=
    choices_eq_menuAnswers showMenu _
  rw [first, visit, keys]
  simp only [Transcript.after, prompts, List.cons_append, menuAnswers]
  rw [menuAnswers_append apart _ (few back), ← choices_eq_menuAnswers]
  rfl

/-- **The transcript of the menu is the row of its blocks**, if the examples that are chosen have
machines. -/
theorem transcript_showMenu (answers : List String)
    (built : ∀ choice ∈ Session.choices { settings := s, phase := .menu } answers,
      ∀ e ∈ started? choice, ∃ m, s.menuMachine = .ok m) :
    s.transcript showMenu answers = .ofBlocks (s.blocks answers) := by
  induction answers using blocks.induct s with
  | case1 =>
    have closes : s.transcript showMenu [] = .ofBlocks [closingBlock] := by
      rw [transcript_nil rfl]
      exact (congrArg (Transcript.mk _ _) (append_nothing _)).symm
    rw [closes, blocks]
  | case2 given rest b leaves =>
    have first := built (Text.trim given) (mem_choices_showMenu given rest)
    have visit := transcript_showMenu_block first (b := b) rfl
    rw [if_pos leaves] at visit
    rw [visit, blocks, if_pos leaves]
  | case3 given rest b back ih =>
    have first := built (Text.trim given) (mem_choices_showMenu given rest)
    have visit := transcript_showMenu_block first (b := b) rfl
    rw [if_neg back] at visit
    have choices := choices_showMenu_block first (b := b) rfl (Bool.eq_false_iff.2 back)
    rw [choices] at built
    rw [visit, blocks, if_neg back, ih (List.forall_mem_cons.1 built).2]
    rfl

variable (s)

/-- The blocks of a session leave the menu with the last of them. -/
theorem blocks_eq_append (answers : List String) :
    ∃ front last, s.blocks answers = front ++ [last] ∧ (∀ b ∈ front, b.leaves = false) ∧
      last.leaves = true := by
  induction answers using blocks.induct s with
  | case1 => exact ⟨[], closingBlock, by rw [blocks]; rfl, by simp, rfl⟩
  | case2 given rest b leaves =>
    exact ⟨[], b, by rw [blocks, if_pos leaves]; rfl, by simp, leaves⟩
  | case3 given rest b back ih =>
    obtain ⟨front, last, same, others, leaves⟩ := ih
    refine ⟨b :: front, last, by rw [blocks, if_neg back, same]; rfl, ?_, leaves⟩
    exact List.forall_mem_cons.2 ⟨Bool.eq_false_iff.2 back, others⟩

/-- Each block waits at the menu just once, at its beginning. -/
theorem visits_blocks (answers : List String) : ∀ b ∈ s.blocks answers,
    ∃ steps, b.prompts = .menu :: steps ∧ ∀ phase ∈ steps, phase.atMenu = false := by
  have closing : ∃ steps, closingBlock.prompts = .menu :: steps ∧
      ∀ phase ∈ steps, phase.atMenu = false := ⟨[], rfl, by simp⟩
  have visit : ∀ choice remaining, ∃ steps, (s.block choice remaining).prompts = .menu :: steps ∧
      ∀ phase ∈ steps, phase.atMenu = false := by
    intro choice remaining
    obtain ⟨steps, prompts, apart, -⟩ := s.exists_prompts_block choice remaining
    exact ⟨steps, prompts, apart⟩
  induction answers using blocks.induct s with
  | case1 =>
    rw [blocks]
    exact List.forall_mem_singleton.2 closing
  | case2 given rest b leaves =>
    rw [blocks, if_pos leaves]
    exact List.forall_mem_singleton.2 (visit _ _)
  | case3 given rest b back ih =>
    rw [blocks, if_neg back]
    exact List.forall_mem_cons.2 ⟨visit _ _, ih⟩

end Settings

end CommandLine

end RegisterMachine
