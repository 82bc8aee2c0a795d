import RegisterMachine.Proofs.MenuBlocks

/-!
# The farewell

A session of the menu shows many texts, and it shows the line of farewell just once, at its end.
For nothing else that it shows has a line that ends in an exclamation mark. The descriptions of
machines and of steps have no such mark at all (`Plain`), and the one in the menu stands before
a parenthesis (`Shown.Tame`).

So the session is what the row of its blocks says, and its last line is the farewell
(`menu_goes_by_blocks`).
-/

set_option autoImplicit false

namespace RegisterMachine

open Machine

/-! ## Texts without exclamation marks -/

/-- A text without exclamation marks. -/
def Plain (text : String) : Prop := '!' ∉ text.toList

instance : DecidablePred Plain := fun text => inferInstanceAs (Decidable ('!' ∉ text.toList))

@[simp] theorem plain_append {first second : String} :
    Plain (first ++ second) ↔ Plain first ∧ Plain second := by
  simp only [Plain, String.toList_append, List.mem_append, not_or]

@[simp] theorem plain_nat (n : Nat) : Plain (toString n) := by
  intro mark
  cases Numeral.isDigit_of_mem_repr mark

@[simp] theorem plain_int (n : Int) : Plain (toString n) := by
  intro mark
  rcases Numeral.isDigit_of_mem_toString mark with digit | minus
  · cases digit
  · cases minus

@[simp] theorem plain_register (r : Register) : Plain r.name := by
  cases r <;> decide

@[simp] theorem plain_bit (flag : Bool) : Plain (State.bit flag) := by
  cases flag <;> decide

@[simp] theorem plain_yesNo (value : Bool) : Plain (Report.yesNo value) := by
  cases value <;> decide

theorem plain_join {texts : List String} (plain : ∀ text ∈ texts, Plain text) :
    Plain (String.join texts) := by
  rw [Plain, String.toList_join, List.mem_flatMap]
  rintro ⟨text, present, mark⟩
  exact plain text present mark

theorem plain_intercalate {separator : String} (between : Plain separator) {texts : List String}
    (plain : ∀ text ∈ texts, Plain text) : Plain (separator.intercalate texts) := by
  induction texts with
  | nil => exact (by decide : Plain "")
  | cons text rest ih =>
    obtain ⟨here, later⟩ := List.forall_mem_cons.1 plain
    cases rest with
    | nil =>
      rw [String.intercalate_singleton]
      exact here
    | cons second more =>
      rw [String.intercalate_cons_cons]
      exact plain_append.2 ⟨plain_append.2 ⟨here, between⟩, ih later⟩

/-! ## Descriptions -/

@[simp] theorem plain_twoColumns (n : Nat) : Plain (Report.twoColumns n) := by
  have digits := plain_nat n
  have padded : Plain (" " ++ toString n) := plain_append.2 ⟨by decide, digits⟩
  simp only [Report.twoColumns]
  split
  · exact padded
  · exact digits

/-- **The description of a machine has no exclamation mark.** -/
theorem plain_describe (m : Machine) : Plain m.describe := by
  have registers : ∀ line ∈ m.state.registers.toList.map fun entry =>
      "  " ++ entry.1.name ++ ": " ++ toString entry.2, Plain line := by
    intro line present
    obtain ⟨entry, -, rfl⟩ := List.mem_map.1 present
    simp only [plain_append, plain_register, plain_int, and_true]
    decide
  have memory : ∀ line ∈ Report.memoryLines m.state.memory (toString Report.defaultCells)
      Report.defaultCells, Plain line := by
    intro line present
    rcases List.mem_cons.1 present with rfl | cell
    · decide
    · obtain ⟨address, -, rfl⟩ := List.mem_map.1 cell
      simp only [plain_append, plain_twoColumns, plain_int, and_true]
      decide
  have heading : ∀ line ∈ ["=== CPU State ===", "Program Counter: " ++ toString m.state.pc,
      "Running: " ++ Report.yesNo m.state.running,
      "Flags: Zero=" ++ State.bit m.state.flags.zero ++ ", Carry="
        ++ State.bit m.state.flags.carry, "", "Registers:"], Plain line := by
    simp only [List.forall_mem_cons, plain_append, plain_int, plain_yesNo, plain_bit, and_true,
      List.not_mem_nil, false_imp_iff, implies_true]
    decide
  have empty : ∀ line ∈ [""], Plain line := by decide
  refine plain_intercalate (by decide) ?_
  exact List.forall_mem_append.2 ⟨List.forall_mem_append.2
    ⟨List.forall_mem_append.2 ⟨heading, registers⟩, empty⟩, memory⟩

/-- The text of an instruction has no exclamation mark. -/
theorem plain_text (i : Instruction) : Plain i.text := by
  have mnemonic : Plain i.opcode.mnemonic := by
    cases i.opcode <;> decide
  have operands : ∀ text ∈ i.operandTexts, Plain text := by
    intro text listed mark
    cases Instruction.isOperandLetter_of_mem listed _ mark
  unfold Instruction.text
  split
  · exact mnemonic
  · simp only [plain_append, mnemonic, true_and]
    exact ⟨by decide, plain_intercalate (by decide) operands⟩

/-- What a step reports has no exclamation mark. -/
theorem plain_report? {m : Machine} {e : Entry} (given : m.report? = some e) :
    Plain e.instruction := by
  unfold report? at given
  cases found : m.state.fetch with
  | stopped =>
    rw [found] at given
    cases given
  | outside =>
    rw [found] at given
    cases given
    exact (by decide : Plain outOfRangeText)
  | unknown cell =>
    rw [found] at given
    cases given
    simp only [entryOf, Decoded.unknownText, plain_append, plain_int, and_true]
    decide
  | instruction i =>
    rw [found] at given
    cases given
    exact plain_text i

/-! ## Values that a sink receives -/

namespace Machine

/-- The sink of a machine has only received values of registers. -/
def HandsRegisters (m : Machine) : Prop :=
  ∀ sink ∈ m.sink, ∀ e ∈ sink.received.toList, ∃ r : Register, e.register = r.name

theorem HandsRegisters.stepped {m : Machine} (hands : m.HandsRegisters) :
    m.stepped.HandsRegisters := by
  intro sink present e received
  rw [m.printed_stepped.sink] at present
  obtain ⟨earlier, had, rfl⟩ := Option.mem_map.1 present
  have split : e ∈ earlier.received.toList ∨ e ∈ m.state.printed?.toList := by
    simpa [Sink.receiveAll] using received
  rcases split with old | new
  · exact hands earlier had e old
  · have given : m.state.printed? = some e := Option.mem_toList.1 new
    unfold State.printed? at given
    split at given
    · cases given
      exact ⟨_, rfl⟩
    · cases given

theorem HandsRegisters.steps {m : Machine} (hands : m.HandsRegisters) (n : Nat) :
    (m.steps n).HandsRegisters :=
  steps_induction (motive := HandsRegisters) (fun _ => HandsRegisters.stepped) hands n

end Machine

/-! ## What the menu shows -/

namespace CommandLine

/-- Whether every exclamation mark stands before a closing parenthesis. -/
def tame : List Char → Bool
  | [] => true
  | c :: rest => (c != '!' || rest.head? == some ')') && tame rest

theorem tame_cons_iff {c : Char} {rest : List Char} :
    tame (c :: rest) = true ↔ (c = '!' → rest.head? = some ')') ∧ tame rest = true := by
  rw [tame, Bool.and_eq_true, Bool.or_eq_true, bne_iff_ne, beq_iff_eq, ← imp_iff_not_or]

theorem tame_append {first second : List Char} (one : tame first = true)
    (other : tame second = true) : tame (first ++ second) = true := by
  induction first with
  | nil => exact other
  | cons c rest ih =>
    obtain ⟨stands, later⟩ := tame_cons_iff.1 one
    refine tame_cons_iff.2 ⟨fun mark => ?_, ih later⟩
    have next := stands mark
    cases rest with
    | nil => cases next
    | cons d rest => exact next

theorem tame_of_not_mem {text : List Char} (plain : '!' ∉ text) : tame text = true := by
  induction text with
  | nil => rfl
  | cons c rest ih =>
    obtain ⟨here, later⟩ := not_or.1 (List.mem_cons.not.1 plain)
    exact tame_cons_iff.2 ⟨fun mark => absurd mark.symm here, ih later⟩

/-- After a tame text, an exclamation mark ends a line only at the end. -/
theorem eq_nil_of_tame {front before after : List Char} (calm : tame front = true)
    (same : front ++ ['!', '\n'] = before ++ '!' :: '\n' :: after) : after = [] := by
  induction front generalizing before with
  | nil =>
    have length := congrArg List.length same
    simp only [List.nil_append, List.length_append, List.length_cons, List.length_nil] at length
    exact List.eq_nil_of_length_eq_zero (by omega)
  | cons c rest ih =>
    obtain ⟨stands, later⟩ := tame_cons_iff.1 calm
    cases before with
    | cons d before => exact ih later (List.cons.inj same).2
    | nil =>
      obtain ⟨rfl, next⟩ := List.cons.inj same
      have follows := stands rfl
      cases rest with
      | nil => cases follows
      | cons d rest =>
        obtain ⟨rfl, -⟩ := List.cons.inj next
        cases follows

/-- Every exclamation mark in the output stands before a closing parenthesis. -/
def Shown.Tame (shown : Shown) : Prop := tame shown.out.toList = true

theorem Shown.Tame.append {first second : Shown} (one : first.Tame) (other : second.Tame) :
    (first ++ second).Tame := by
  rw [Tame, out_append, String.toList_append]
  exact tame_append one other

theorem tame_say {text : String} (plain : Plain text) : (say text).Tame := tame_of_not_mem plain

theorem tame_sayLine {text : String} (plain : Plain text) : (sayLine text).Tame :=
  tame_say (plain_append.2 ⟨plain, by decide⟩)

theorem tame_nothing : ({} : Shown).Tame := rfl

theorem tame_stepPrompt (number : Nat) : (stepPrompt number).Tame := by
  refine tame_say ?_
  simp only [plain_append, plain_nat, and_true]
  decide

/-- The menu has one exclamation mark, and that stands before a parenthesis. -/
theorem tame_showMenu : Settings.showMenu.2.Tame := by
  have menu : tame Settings.menuText.toList = true := by
    simp [tame, Settings.menuText]
  have choice : tame "Enter your choice (1-5): ".toList = true := by decide
  have shown : Settings.showMenu.2.out = Settings.menuText ++ "Enter your choice (1-5): " := rfl
  rw [Shown.Tame, shown, String.toList_append]
  exact tame_append menu choice

namespace Settings

variable {s : Settings} {m : Machine}

theorem tame_logged (events : List Event) : (s.logged events).Tame := rfl

theorem tame_described (m : Machine) : (described m).Tame := tame_sayLine (plain_describe m)

theorem tame_printed (hands : m.HandsRegisters) (earlier : Nat) : (printed earlier m).Tame := by
  refine tame_say (plain_join fun line present => ?_)
  obtain ⟨e, listed, rfl⟩ := List.mem_map.1 present
  have received := List.mem_of_mem_drop listed
  cases given : m.sink with
  | none =>
    rw [given] at received
    cases received
  | some sink =>
    rw [given] at received
    obtain ⟨r, named⟩ := hands sink given e received
    rw [printLine, named]
    simp only [plain_append, plain_register, plain_int, and_true]
    decide

theorem tame_stepReport (m last : Machine) : (stepReport m.report? last).Tame := by
  have figures : ∀ text : String, ∀ n : Int, Plain text → (sayLine (text ++ toString n)).Tame :=
    fun text n plain => tame_sayLine (plain_append.2 ⟨plain, plain_int n⟩)
  unfold stepReport
  refine ((Shown.Tame.append ?place ?ax).append ?pc).append ?running
  case place =>
    cases given : m.report? with
    | none => exact tame_nothing
    | some e =>
      refine tame_sayLine ?_
      simp only [plain_append, plain_int, plain_report? given, and_true]
      decide
  case ax => exact figures _ _ (by decide)
  case pc => exact figures _ _ (by decide)
  case running => exact tame_sayLine (plain_append.2 ⟨by decide, plain_yesNo _⟩)

theorem tame_stepShown (hands : m.HandsRegisters) : (s.stepShown m).Tame := by
  have handed : m.step.machine.HandsRegisters := by
    rw [machine_step]
    exact hands.stepped
  exact ((tame_printed handed _).append (tame_logged _)).append (tame_stepReport _ _)

theorem tame_stepsShown (hands : m.HandsRegisters) (number n : Nat) :
    (s.stepsShown m number n).Tame := by
  induction n generalizing m number with
  | zero => exact tame_nothing
  | succ n ih =>
    have next := ih hands.stepped (number + 1)
    rw [← machine_step] at next
    exact (tame_stepPrompt number).append ((tame_stepShown hands).append next)

/-- The sink of an example has received nothing when the example is loaded. -/
theorem handsRegisters_loaded (e : Example) (size : Nat) : (e.loaded size).HandsRegisters := by
  rintro sink ⟨⟩ e received
  cases received

theorem tame_complete (e : Example) (size : Nat) : (s.complete (e.loaded size)).2.Tame := by
  have reliable : (e.loaded size).Reliable := (reliable_of_sink_eq rfl).load e.cells
  have hands : (e.loaded size).run.machine.HandsRegisters := by
    obtain ⟨n, steps⟩ := (e.loaded size).exists_steps_run none
    rw [steps]
    exact (handsRegisters_loaded e size).steps n
  have hushed : ∀ shown : Shown, shown.Tame → (if s.quiet then {} else shown).Tame := by
    intro shown tame
    split
    · exact tame_nothing
    · exact tame
  rw [complete_of_reliable s reliable]
  refine (Shown.Tame.append (hushed _ ?before) ?during).append (hushed _ ?after)
  case before => exact (tame_described _).append (tame_sayLine (by decide))
  case during => exact (tame_printed hands _).append (tame_logged _)
  case after => exact Shown.Tame.append (tame_sayLine (by decide)) (tame_described _)

end Settings

/-! ## The farewell is the last line -/

/-- The line of farewell. -/
def farewell : String := "Exiting CPU Simulator. Goodbye!\n"

theorem out_leave : Settings.leave.2.out = farewell := by
  decide

/-- The words of the farewell, in front of its exclamation mark. -/
theorem exists_words : ∃ words, farewell.toList = words ++ ['!', '\n'] ∧ tame words = true :=
  ⟨"Exiting CPU Simulator. Goodbye".toList, by decide, by decide⟩

/-- What is shown ends in the farewell, and has no line like it before. -/
def Shown.Leaves (shown : Shown) : Prop :=
  ∃ front : Shown, front.Tame ∧ shown = front ++ Settings.leave.2

theorem Shown.Leaves.append {first second : Shown} (calm : first.Tame) (leaves : second.Leaves) :
    (first ++ second).Leaves := by
  obtain ⟨front, tame, rfl⟩ := leaves
  exact ⟨first ++ front, calm.append tame, (shown_append_assoc _ _ _).symm⟩

theorem Shown.Leaves.exists_front {shown : Shown} (leaves : shown.Leaves) :
    ∃ front, shown.out = front ++ farewell := by
  obtain ⟨front, -, rfl⟩ := leaves
  exact ⟨front.out, by rw [out_append, out_leave]⟩

/-- Wherever the farewell stands in the output, nothing follows it. -/
theorem Shown.Leaves.eq_empty {shown : Shown} (leaves : shown.Leaves) {before rest : String}
    (same : shown.out = before ++ farewell ++ rest) : rest = "" := by
  obtain ⟨front, calm, rfl⟩ := leaves
  obtain ⟨words, spelled, wordsCalm⟩ := exists_words
  have chars := congrArg String.toList same
  rw [out_append, out_leave, String.toList_append, String.toList_append, String.toList_append,
    spelled, ← List.append_assoc, ← List.append_assoc, List.append_assoc _ ['!', '\n']] at chars
  exact String.toList_eq_nil_iff.1 (eq_nil_of_tame (tame_append calm wordsCalm) chars)

/-- What a block shows ends in the farewell if it leaves the menu, and has no such line
otherwise. -/
structure Block.Behaves (b : Block) : Prop where
  leaves : b.leaves = true → b.shown.Leaves
  back : b.leaves = false → b.shown.Tame

theorem Block.Behaves.of_leaves {b : Block} (is : b.leaves = true) (leaves : b.shown.Leaves) :
    b.Behaves where
  leaves _ := leaves
  back other := by
    rw [is] at other
    cases other

theorem Block.Behaves.of_back {b : Block} (is : b.leaves = false) (calm : b.shown.Tame) :
    b.Behaves where
  leaves other := by
    rw [is] at other
    cases other
  back _ := calm

namespace Settings

variable (s : Settings)

theorem leaves_of_tame {front : Shown} (calm : front.Tame) : (front ++ leave.2).Leaves :=
  ⟨front, calm, rfl⟩

theorem tame_loadingShown (e : Example) : (s.loadingShown e).Tame := tame_logged _

theorem behaves_plainBlock {shown : Shown} (calm : shown.Tame) :
    (plainBlock shown false).Behaves :=
  .of_back rfl (tame_showMenu.append calm)

theorem behaves_runBlock (e : Example) : (s.runBlock e).Behaves := by
  have headline : (sayLine ("\n--- Running " ++ title e ++ " Program ---")).Tame := by
    cases e <;> exact tame_sayLine (by decide)
  exact behaves_plainBlock
    ((headline.append (s.tame_loadingShown e)).append (tame_complete e s.cells))

theorem behaves_demoBlock (remaining : Nat) : (s.demoBlock remaining).Behaves := by
  have hands := handsRegisters_loaded .stepDemo s.cells
  have opening : s.demoOpening.Tame :=
    (((tame_sayLine (by decide)).append (tame_sayLine (by decide))).append
      (s.tame_loadingShown _)).append (tame_described _)
  have steps : ∀ n, (s.demoOpening ++ s.stepsShown (Example.stepDemo.loaded s.cells) 1 n).Tame :=
    fun n => opening.append (tame_stepsShown hands 1 n)
  unfold demoBlock
  split
  case isTrue enough =>
    have final : (sayLine "\nFinal state").Tame := tame_sayLine (by decide)
    exact .of_back rfl (tame_showMenu.append ((steps _).append (final.append (tame_described _))))
  case isFalse few =>
    have stopped : (sayLine "\nStepping stopped.").Tame := tame_sayLine (by decide)
    exact .of_leaves rfl (.append tame_showMenu (.append ((steps _).append (tame_stepPrompt _))
      (leaves_of_tame stopped)))

theorem behaves_block (choice : String) (remaining : Nat) : (s.block choice remaining).Behaves := by
  unfold block
  cases example? choice with
  | some e => exact s.behaves_runBlock e
  | none =>
    dsimp only
    split_ifs
    · exact s.behaves_demoBlock remaining
    · exact .of_leaves rfl (leaves_of_tame tame_showMenu)
    · exact behaves_plainBlock (tame_sayLine (by decide))

theorem behaves_closingBlock : closingBlock.Behaves :=
  .of_leaves rfl <| .append tame_showMenu (leaves_of_tame (tame_say (by decide)))

/-- **The blocks of a session end in the farewell**, and show no line like it before. -/
theorem leaves_blocks (answers : List String) :
    (Transcript.ofBlocks (s.blocks answers)).shown.Leaves := by
  have alone : ∀ b : Block, (Transcript.ofBlocks [b]).shown = b.shown := fun b => append_nothing _
  induction answers using blocks.induct s with
  | case1 =>
    rw [blocks, alone]
    exact behaves_closingBlock.leaves rfl
  | case2 given rest b leaves =>
    rw [blocks, if_pos leaves, alone]
    exact (s.behaves_block _ _).leaves leaves
  | case3 given rest b back ih =>
    rw [blocks, if_neg back]
    exact .append ((s.behaves_block _ _).back (Bool.eq_false_iff.2 back)) ih

end Settings

/-! ## Sessions of the menu -/

namespace Settings

variable (s : Settings)

/-- The first turn of a session of the menu. -/
def beginMenu : Turn := before (say banner) showMenu

/-- How a session of the menu goes, which is played against a list of answers. -/
structure GoesByBlocks (answers : List String) (played : Transcript) : Prop where
  /-- The session comes to an end, and every run in it halts. -/
  ends : ∃ last n, Session.Plays { settings := s, phase := .menu } answers last n
  code : played.last = .exited 0
  /-- The output is the banner followed by the blocks. -/
  shown : played.shown.out = banner ++ String.join ((s.blocks answers).map (·.shown.out))
  prompts : played.prompts = (s.blocks answers).flatMap (·.prompts)
  /-- Each block reads one answer at the menu. -/
  visits : ∀ b ∈ s.blocks answers,
    ∃ steps, b.prompts = .menu :: steps ∧ ∀ phase ∈ steps, phase.atMenu = false
  /-- Only the demonstration looks at the number of answers that remain. -/
  forgets : ∀ choice, choice ≠ "4" →
    ∀ remaining other, s.block choice remaining = s.block choice other
  /-- The demonstration takes one answer for each step up to its halt, as long as they last. -/
  demo : (Example.stepDemo.loaded s.cells).HaltsAt (Example.demoSteps s.cells) ∧
    ∀ remaining,
      (s.block "4" remaining).prompts = .menu :: stepPrompts (Example.stepDemo.loaded s.cells) 1
        true (min (Example.demoSteps s.cells) (remaining + 1))
  /-- The menu is left by choice, and by the demonstration when the answers run out. -/
  exits : ∀ choice remaining, (s.block choice remaining).leaves = true ↔
    choice = "5" ∨ choice = "4" ∧ remaining < Example.demoSteps s.cells
  /-- The last block leaves the menu, and no other. -/
  leaves : ∃ front last, s.blocks answers = front ++ [last] ∧ (∀ b ∈ front, b.leaves = false) ∧
    last.leaves = true
  /-- Answers that are left when the session ends are not read. -/
  unread : played.prompts.length ≤ answers.length →
    ∀ more, s.transcript beginMenu (answers ++ more) = played
  /-- The last line is the farewell. -/
  ending : ∃ front, played.shown.out = front ++ farewell
  /-- The farewell is shown once. -/
  once : ∀ front rest, played.shown.out = front ++ farewell ++ rest → rest = ""

/-- The sessions of the menu whose examples have machines that halt come to an end. -/
theorem exists_plays_of_halts {answers : List String}
    (halts : ∀ choice ∈ Session.choices { settings := s, phase := .menu } answers,
      ∀ e ∈ started? choice, (∃ m, s.menuMachine = .ok m) ∧ (e.loaded s.cells).Halts) :
    ∃ last n, Session.Plays { settings := s, phase := .menu } answers last n := by
  rw [Session.exists_plays_iff]
  intro choice chosen m run
  obtain ⟨e, fresh, names, built, rfl⟩ := exists_of_loaded? run
  rw [eq_of_menuMachine built]
  exact (halts choice chosen e (started?_of_example? names)).2

theorem prompts_demo (remaining : Nat) :
    (s.block "4" remaining).prompts = .menu :: stepPrompts (Example.stepDemo.loaded s.cells) 1
      true (min (Example.demoSteps s.cells) (remaining + 1)) := by
  have demo : s.block "4" remaining = s.demoBlock remaining := rfl
  rw [demo, demoBlock]
  split
  case isTrue enough =>
    rw [Nat.min_eq_left (Nat.le_succ_of_le enough)]
    rfl
  case isFalse few =>
    rw [Nat.min_eq_right (Nat.succ_le_of_lt (Nat.lt_of_not_le few))]
    rfl

theorem leaves_demoBlock_iff (remaining : Nat) :
    (s.demoBlock remaining).leaves = true ↔ remaining < Example.demoSteps s.cells := by
  unfold demoBlock
  split
  case isTrue enough => exact iff_of_false (by rintro ⟨⟩) (Nat.not_lt_of_le enough)
  case isFalse few => exact iff_of_true rfl (Nat.lt_of_not_le few)

theorem leaves_block_iff (choice : String) (remaining : Nat) :
    (s.block choice remaining).leaves = true ↔
      choice = "5" ∨ choice = "4" ∧ remaining < Example.demoSteps s.cells := by
  cases chosen : example? choice with
  | some e =>
    have back : (s.block choice remaining).leaves = false := by
      simp only [block, chosen]
      rfl
    refine iff_of_false (Bool.eq_false_iff.1 back) ?_
    rintro (rfl | ⟨rfl, -⟩)
    · cases chosen
    · cases chosen
  | none =>
    simp only [block, chosen]
    by_cases demo : choice = "4"
    · subst demo
      rw [if_pos rfl, leaves_demoBlock_iff]
      simp
    by_cases exit : choice = "5"
    · rw [if_neg demo, if_pos exit]
      exact iff_of_true rfl (.inl exit)
    · rw [if_neg demo, if_neg exit]
      refine iff_of_false (by rintro ⟨⟩) ?_
      rintro (five | ⟨four, -⟩)
      · exact exit five
      · exact demo four

end Settings

open Settings in
/-- **The menu forgets, and says farewell once.** Let a session of the menu be played against a
list of answers, and let the examples that it starts have machines on which they halt. Then it
exits with code zero, and its output is the banner followed by one block for each time the menu
is shown. A block is made from the answer without its blanks and, for the demonstration, from
the number of answers that remain; it does not know of the blocks before it. The session ends
with the block that leaves the menu, reads none of the answers behind it, and shows the line of
farewell just once, as the last. So does the whole program, when its arguments ask for the menu
and for no negative size of the memory. -/
theorem menu_goes_by_blocks (s : Settings) (answers : List String)
    (halts : ∀ choice ∈ Session.choices { settings := s, phase := .menu } answers,
      ∀ e ∈ started? choice, (∃ m, s.menuMachine = .ok m) ∧ (e.loaded s.cells).Halts) :
    s.GoesByBlocks answers (s.transcript beginMenu answers) ∧
    ∀ arguments size, Request.ofArguments arguments = .settings s → s.menu = true →
      s.memorySize = some size → 0 ≤ size →
      play arguments answers = (.exited 0, (s.transcript beginMenu answers).shown) := by
  have built : ∀ choice ∈ Session.choices { settings := s, phase := .menu } answers,
      ∀ e ∈ started? choice, ∃ m, s.menuMachine = .ok m :=
    fun choice chosen e starts => (halts choice chosen e starts).1
  have played : s.transcript beginMenu answers
      = .after [] (say banner) (.ofBlocks (s.blocks answers)) := by
    rw [beginMenu, transcript_before, transcript_showMenu answers built]
  have code : (s.transcript beginMenu answers).last = .exited 0 := by
    rw [played]
    exact last_ofBlocks _
  have leaves : (s.transcript beginMenu answers).shown.Leaves := by
    rw [played]
    exact .append (tame_say (by decide)) (s.leaves_blocks answers)
  constructor
  · refine
      { ends := s.exists_plays_of_halts halts
        code := code
        shown := ?output
        prompts := ?phases
        visits := s.visits_blocks answers
        forgets := ?forgets
        demo := ⟨Example.haltsAt_stepDemo s.cells, s.prompts_demo⟩
        exits := s.leaves_block_iff
        leaves := s.blocks_eq_append answers
        unread := fun enough more => transcript_append enough more
        ending := leaves.exists_front
        once := ?once }
    case output =>
      rw [played]
      exact congrArg (banner ++ ·) (out_ofBlocks _)
    case phases =>
      rw [played]
      exact prompts_ofBlocks _
    case forgets =>
      intro choice other remaining fewer
      unfold block
      cases example? choice with
      | some e => rfl
      | none => simp only [if_neg other]
    case once =>
      exact fun before rest same => leaves.eq_empty same
  · intro arguments size asked menu memory positive
    have begins : s.begin = beginMenu := by
      simp only [Settings.begin, memory, if_neg (Int.not_lt.2 positive), menu, if_true]
      rfl
    rw [play_eq_transcript asked, begins, code]

open Settings in
/-- The demonstration takes three answers, and the last of six is not read. -/
theorem menu_goes_by_blocks_through_demo :
    let arguments := ["--menu", "--memory-size", "6"]
    let s : Settings := { menu := true, memorySize := some 6 }
    let answers := ["4", "", "", "", "\t5 ", "1"]
    Request.ofArguments arguments = .settings s ∧
      Session.choices { settings := s, phase := .menu } answers = ["4", "5"] ∧
      s.GoesByBlocks answers (s.transcript beginMenu answers) ∧
      (s.transcript beginMenu answers).prompts.length = 5 ∧
      (play arguments answers).1 = .exited 0 := by
  intro arguments s answers
  have asked : Request.ofArguments arguments = .settings s := by decide +kernel
  have choices : Session.choices { settings := s, phase := .menu } answers = ["4", "5"] := by
    decide +kernel
  have halts : ∀ choice ∈ Session.choices { settings := s, phase := .menu } answers,
      ∀ e ∈ started? choice, (∃ m, s.menuMachine = .ok m) ∧ (e.loaded s.cells).Halts := by
    rw [choices]
    intro choice chosen e _
    refine ⟨⟨_, rfl⟩, (e.halts_iff 6).2 ⟨?_, ?_⟩⟩
    · rintro ⟨-, ⟨⟩⟩
    · rintro ⟨-, ⟨⟩⟩
  obtain ⟨goes, plays⟩ := menu_goes_by_blocks s answers halts
  refine ⟨asked, choices, goes, by decide +kernel, ?_⟩
  exact congrArg Prod.fst (plays arguments 6 asked rfl rfl (by decide))

end CommandLine

end RegisterMachine
